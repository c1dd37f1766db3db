/-
  DplanePlugin/Lib/Recursion.lean
  ===============================
  **Programs that call themselves to a bounded depth.**

  `P n` is a program whose recursion is cut at the depth `n`; the program itself
  returns when `P n` does for some `n` (`Terminates`).  Whether a call makes a
  nested one is told by a control state, `calls c = some c'`.  Then the program
  returns if and only if the chain of control states ends
  (`Nests.terminates_iff`).
-/
import DplanePlugin.Lib.Prog

namespace DplanePlugin.Lib

variable {ε S C α : Type}

/-- To some depth of the recursion, the program returns. -/
def Terminates (P : Nat → Prog ε S α) (s : S) : Prop := ∃ n a s', Ran (P n) s a s'

/-- The control state of the call nested `k` deep, if there is one. -/
def nestedCalls (calls : C → Option C) : Nat → C → Option C
  | 0, c => some c
  | k + 1, c => (calls c).bind (nestedCalls calls k)

/-- Calls are nested to every depth. -/
def Endless (calls : C → Option C) (c : C) : Prop := ∀ k, (nestedCalls calls k c).isSome = true

theorem endless_iff_of_calls {calls : C → Option C} {c c' : C} (h : calls c = some c') :
    Endless calls c ↔ Endless calls c' := by
  have hsucc : ∀ k, nestedCalls calls (k + 1) c = nestedCalls calls k c' := by
    intro k
    rw [nestedCalls, h, Option.bind_some]
  constructor
  · intro hall k
    rw [← hsucc]
    exact hall (k + 1)
  · intro hall k
    cases k with
    | zero => rfl
    | succ k =>
      rw [hsucc]
      exact hall k

theorem not_endless_of_none {calls : C → Option C} {c : C} (h : calls c = none) :
    ¬ Endless calls c := by
  intro hall
  have hone := hall 1
  rw [nestedCalls, h] at hone
  cases hone

/-- `P` calls itself as `calls` tells: in the states that represent `c`, either a
    nested call decides how the call ends, or the call returns. -/
structure Nests (P : Nat → Prog ε S Unit) (calls : C → Option C) (Rep : C → S → Prop) : Prop where
  bounded : ∃ stop, ∀ s, Halts (P 0) s stop s
  nested : ∀ c c' s, Rep c s → calls c = some c' → ∃ s₁, Rep c' s₁ ∧ ∀ n,
    (∀ s₂, Ran (P n) s₁ () s₂ → ∃ s', Ran (P (n + 1)) s () s') ∧
    (∀ e s₂, Halts (P n) s₁ e s₂ → Halts (P (n + 1)) s e s₂)
  returns : ∀ c s, Rep c s → calls c = none → ∀ n, ∃ s', Ran (P (n + 1)) s () s'

section Nests
variable {P : Nat → Prog ε S Unit} {calls : C → Option C} {Rep : C → S → Prop}
  (h : Nests P calls Rep)
include h

theorem Nests.not_endless {n : Nat} {c : C} {s s' : S} (hrep : Rep c s) (hran : Ran (P n) s () s') :
    ¬ Endless calls c := by
  induction n generalizing c s s' with
  | zero =>
    rcases h.bounded with ⟨stop, hstop⟩
    exact nomatch (hran.unique (hstop s)).1
  | succ n ih =>
    cases hc : calls c with
    | none => exact not_endless_of_none hc
    | some c' =>
      rcases h.nested c c' s hrep hc with ⟨s₁, hrep₁, hnest⟩
      rw [endless_iff_of_calls hc]
      rcases hinner : StateT.run (ExceptT.run (P n)) s₁ with ⟨r, s₂⟩
      cases r with
      | ok a => exact ih hrep₁ hinner
      | error e => exact nomatch (hran.unique ((hnest n).2 e s₂ hinner)).1

theorem Nests.terminates_of_none {k : Nat} {c : C} {s : S} (hrep : Rep c s)
    (hk : nestedCalls calls k c = none) : Terminates P s := by
  induction k generalizing c s with
  | zero => cases hk
  | succ k ih =>
    cases hc : calls c with
    | none =>
      rcases h.returns c s hrep hc 0 with ⟨s', hran⟩
      exact ⟨1, (), s', hran⟩
    | some c' =>
      rcases h.nested c c' s hrep hc with ⟨s₁, hrep₁, hnest⟩
      rw [nestedCalls, hc, Option.bind_some] at hk
      rcases ih hrep₁ hk with ⟨n, u, s₂, hinner⟩
      rcases (hnest n).1 s₂ hinner with ⟨s', hran⟩
      exact ⟨n + 1, (), s', hran⟩

theorem Nests.terminates_iff {c : C} {s : S} (hrep : Rep c s) :
    Terminates P s ↔ ¬ Endless calls c := by
  constructor
  · rintro ⟨n, u, s', hran⟩
    exact h.not_endless hrep hran
  · intro hends
    rw [Endless, Classical.not_forall] at hends
    rcases hends with ⟨k, hk⟩
    apply h.terminates_of_none hrep (k := k)
    simpa using hk

end Nests

end DplanePlugin.Lib
