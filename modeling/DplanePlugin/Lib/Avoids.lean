/-
  DplanePlugin/Lib/Avoids.lean
  ============================
  **Programs that never stop for some reasons.**

  `Avoids bad p` says that no run of `p`, from whatever state, stops with a
  reason in `bad`.  The rules follow the program formers; those without a
  premise about a state are simp lemmas, so that a straight-line program is
  done by naming the functions that it calls.
-/
import DplanePlugin.Lib.Prog

namespace DplanePlugin.Lib

variable {ε S α β : Type} {bad : ε → Prop}

/-- No run of `p` stops with a reason in `bad`. -/
def Avoids (bad : ε → Prop) (p : Prog ε S α) : Prop := ∀ s e s', Halts p s e s' → ¬ bad e

@[simp] theorem avoids_pure (a : α) : Avoids bad (pure a : Prog ε S α) := by
  intro s e s' h
  simp at h

@[simp] theorem avoids_get : Avoids bad (get : Prog ε S S) := by
  intro s e s' h
  simp at h

@[simp] theorem avoids_set (t : S) : Avoids bad (set t : Prog ε S PUnit) := by
  intro s e s' h
  simp at h

@[simp] theorem avoids_modify (f : S → S) : Avoids bad (modify f : Prog ε S PUnit) := by
  intro s e s' h
  simp at h

@[simp] theorem avoids_throw (e : ε) (he : ¬ bad e) : Avoids bad (throw e : Prog ε S α) := by
  intro s e' s' h
  rcases (ends_throw _ _ _ _).mp h with ⟨heq, -⟩
  cases heq
  exact he

theorem avoids_bind {p : Prog ε S α} {f : α → Prog ε S β} (hp : Avoids bad p)
    (hf : ∀ a, Avoids bad (f a)) : Avoids bad (p >>= f) := by
  intro s e s' h
  rcases (ends_bind _ _ _ _ _).mp h with ⟨a, t, -, hrest⟩ | ⟨e', hhalts, he⟩
  · exact hf a t e s' hrest
  · cases he
    exact hp s e s' hhalts

theorem avoids_ite {c : Prop} [Decidable c] {p q : Prog ε S α} (hp : c → Avoids bad p)
    (hq : ¬ c → Avoids bad q) : Avoids bad (if c then p else q) := by
  by_cases h : c
  · rw [if_pos h]
    exact hp h
  · rw [if_neg h]
    exact hq h

theorem avoids_loop {stop : ε} {body : Prog ε S Bool} (hstop : ¬ bad stop)
    (hbody : Avoids bad body) (n : Nat) : Avoids bad (loop stop n body) := by
  intro s e s' h
  rcases ends_loop h with ⟨t, -, ⟨hr, -⟩ | ⟨e', hr, hhalts⟩ | ⟨hr, -⟩⟩
  · cases hr
  · cases hr
    exact hbody t e s' hhalts
  · cases hr
    exact hstop

end DplanePlugin.Lib
