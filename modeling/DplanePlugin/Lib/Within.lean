/-
  DplanePlugin/Lib/Within.lean
  ============================
  **What no run of a program goes beyond.**

  A preorder on states says what may happen between two moments: that a field is
  as it was, that a log has only grown, and by which entries.  `Within rel p` says
  that every run of `p` stays within it, wherever it starts and however it ends.
  The rules follow the program formers.
-/
import DplanePlugin.Lib.Prog
import Mathlib.Order.Defs.Unbundled

namespace DplanePlugin.Lib

variable {ε S α β : Type} {rel : S → S → Prop}

/-- Every run of `p` ends in a state that `rel` relates to the one it started in. -/
def Within (rel : S → S → Prop) (p : Prog ε S α) : Prop := ∀ s r s', Ends p s r s' → rel s s'

theorem within_modify {f : S → S} (h : ∀ s, rel s (f s)) :
    Within rel (modify f : Prog ε S PUnit) := by
  intro s r s' hrun
  obtain ⟨-, rfl⟩ := (ends_modify _ _ _ _).mp hrun
  exact h s

/-- A program that does not go beyond a finer preorder. -/
theorem Within.mono {rel' : S → S → Prop} {p : Prog ε S α} (h : Within rel p)
    (himp : ∀ s s', rel s s' → rel' s s') : Within rel' p :=
  fun s r s' hrun => himp s s' (h s r s' hrun)

theorem Within.ite {c : Prop} [Decidable c] {p q : Prog ε S α} (hp : c → Within rel p)
    (hq : ¬ c → Within rel q) : Within rel (if c then p else q) := by
  by_cases h : c
  · rw [if_pos h]
    exact hp h
  · rw [if_neg h]
    exact hq h

variable [IsPreorder S rel]

theorem within_pure (a : α) : Within rel (pure a : Prog ε S α) := by
  intro s r s' hrun
  obtain ⟨-, rfl⟩ := (ends_pure _ _ _ _).mp hrun
  exact Std.Refl.refl _

theorem within_throw (e : ε) : Within rel (throw e : Prog ε S α) := by
  intro s r s' hrun
  obtain ⟨-, rfl⟩ := (ends_throw _ _ _ _).mp hrun
  exact Std.Refl.refl _

theorem within_get : Within rel (get : Prog ε S S) := by
  intro s r s' hrun
  obtain ⟨-, rfl⟩ := (ends_get _ _ _).mp hrun
  exact Std.Refl.refl _

theorem Within.bind {p : Prog ε S α} {k : α → Prog ε S β} (hp : Within rel p)
    (hk : ∀ a, Within rel (k a)) : Within rel (p >>= k) := by
  intro s r s' hrun
  rcases (ends_bind _ _ _ _ _).mp hrun with ⟨a, t, hran, hrest⟩ | ⟨e, hhalts, -⟩
  · exact IsTrans.trans _ _ _ (hp _ _ _ hran) (hk a _ _ _ hrest)
  · exact hp _ _ _ hhalts

theorem Within.loop {stop : ε} {body : Prog ε S Bool} (hbody : Within rel body) (n : Nat) :
    Within rel (loop stop n body) := by
  induction n with
  | zero => exact within_throw stop
  | succ n ih => exact hbody.bind fun goOn => .ite (fun _ => ih) fun _ => within_pure ()

end DplanePlugin.Lib
