/-
  DplanePlugin/Lib/History.lean
  =============================
  **Properties of a log that only grows.**

  A log lists what happened, oldest first.  `Always φ log` says that every entry
  has the property `φ`, which may speak of the entries before it; it is checked
  entry by entry as the log grows (`always_concat`).  `LastIs p log pre x post`
  names the last entry with the property `p`.
-/
import Mathlib.Data.List.Basic
import Mathlib.Data.List.Induction

namespace DplanePlugin.Lib

variable {E : Type}

/-- Every entry of `log` satisfies `φ`, given the entries before it. -/
def Always (φ : List E → E → Prop) (log : List E) : Prop :=
  ∀ pre x post, log = pre ++ x :: post → φ pre x

@[simp] theorem always_nil (φ : List E → E → Prop) : Always φ [] := by
  intro pre x post h
  simp at h

/-- A log that grew by one entry. -/
@[simp] theorem always_concat (φ : List E → E → Prop) (log : List E) (x : E) :
    Always φ (log ++ [x]) ↔ Always φ log ∧ φ log x := by
  constructor
  · intro h
    refine ⟨fun pre y post heq => h pre y (post ++ [x]) ?_, h log x [] rfl⟩
    rw [heq, List.append_assoc, List.cons_append]
  · rintro ⟨h, hx⟩ pre y post heq
    obtain rfl | ⟨post', z, rfl⟩ := post.eq_nil_or_concat'
    · obtain ⟨rfl, hyx⟩ := List.append_inj' heq rfl
      cases hyx
      exact hx
    · rw [← List.cons_append, ← List.append_assoc] at heq
      obtain ⟨rfl, -⟩ := List.append_inj' heq rfl
      exact h pre y post' rfl

theorem Always.imp {φ ψ : List E → E → Prop} {log : List E} (h : Always φ log)
    (himp : ∀ pre x, φ pre x → ψ pre x) : Always ψ log :=
  fun pre x post heq => himp _ _ (h pre x post heq)

/-- A log that grew by entries which have the property after all of it. -/
theorem Always.extend {φ : List E → E → Prop} {log new : List E} (h : Always φ log)
    (hnew : ∀ x ∈ new, ∀ pre, log <+: pre → φ pre x) : Always φ (log ++ new) := by
  induction new using List.reverseRecOn with
  | nil => simpa using h
  | append_singleton new x ih =>
    rw [← List.append_assoc, always_concat]
    constructor
    · apply ih
      intro y hy
      exact hnew y (List.mem_append_left _ hy)
    · exact hnew x (by simp) _ (List.prefix_append _ _)

/-- A log that grew, but not by entries that the property speaks of. -/
theorem Always.grow {φ : List E → E → Prop} {B : Type} {f : E → Option B} {log log' : List E}
    (h : Always φ log) (hf : ∀ pre x, f x = none → φ pre x) (hle : log <+: log')
    (hsame : log'.filterMap f = log.filterMap f) : Always φ log' := by
  rcases hle with ⟨new, rfl⟩
  apply h.extend
  intro x hx pre _
  have hnone : new.filterMap f = [] := by simpa using hsame
  exact hf pre x (List.filterMap_eq_nil_iff.mp hnone x hx)

/-- The log was shorter before. -/
theorem Always.of_prefix {φ : List E → E → Prop} {log log' : List E} (h : Always φ log')
    (hle : log <+: log') : Always φ log := by
  rcases hle with ⟨new, rfl⟩
  intro pre x post heq
  apply h pre x (post ++ new)
  rw [heq, List.append_assoc, List.cons_append]

/-- A finite log can be checked. -/
theorem always_iff_getElem (φ : List E → E → Prop) (log : List E) :
    Always φ log ↔ ∀ i (hi : i < log.length), φ (log.take i) log[i] := by
  constructor
  · intro h i hi
    exact h _ _ (log.drop (i + 1)) (by rw [List.getElem_cons_drop, List.take_append_drop])
  · rintro h pre x post rfl
    have hx := h pre.length (by simp)
    simpa using hx

instance (φ : List E → E → Prop) [∀ pre x, Decidable (φ pre x)] (log : List E) :
    Decidable (Always φ log) :=
  decidable_of_iff' _ (always_iff_getElem φ log)

/-- A list that does not hold `y` but from its first part on was split at `y` in
    that part. -/
theorem split_of_not_mem {pre post p q : List E} {x y : E} (heq : pre ++ x :: post = p ++ y :: q)
    (hx : y ≠ x) (hpost : y ∉ post) : ∃ mid, pre = p ++ y :: mid ∧ q = mid ++ x :: post := by
  rcases List.append_eq_append_iff.mp heq with ⟨mid, rfl, hmid⟩ | ⟨mid, rfl, hmid⟩
  · cases mid with
    | nil => exact absurd (List.cons.inj hmid).1.symm hx
    | cons z mid =>
      rcases List.cons.inj hmid with ⟨rfl, rfl⟩
      exact absurd (by simp) hpost
  · cases mid with
    | nil => exact absurd (List.cons.inj hmid).1 hx
    | cons z mid =>
      rcases List.cons.inj hmid with ⟨rfl, rfl⟩
      exact ⟨mid, rfl, rfl⟩

/-- `log` ends with `x` and the entries `post`, none of which satisfies `p`. -/
def LastIs (p : E → Prop) (log pre : List E) (x : E) (post : List E) : Prop :=
  log = pre ++ x :: post ∧ ∀ y ∈ post, ¬ p y

/-- An entry without the property leaves the last one where it is. -/
theorem LastIs.concat {p : E → Prop} {log pre : List E} {x : E} {post : List E}
    (h : LastIs p log pre x post) {y : E} (hy : ¬ p y) :
    LastIs p (log ++ [y]) pre x (post ++ [y]) := by
  obtain ⟨rfl, hpost⟩ := h
  refine ⟨by simp, ?_⟩
  intro z hz
  obtain hz | hz := List.mem_append.mp hz
  · exact hpost z hz
  · rwa [List.mem_singleton.mp hz]

end DplanePlugin.Lib
