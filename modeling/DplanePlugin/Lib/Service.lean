/-
  DplanePlugin/Lib/Service.lean
  =============================
  **A queue that serves its jobs in order, and may lose some.**

  A job joins the queue at its end; the job at the head is finished with a
  result, or is lost.  `Serves deals waiting` says that such a queue can have done
  the `deals`, oldest first, and that the jobs `waiting` are left in it.  A system
  with many lists and calls in progress serves in order when its log reads as the
  deals of such a queue: then the jobs that joined are those that left, in that
  order, and those that wait (`Serves.order`), and a job that leaves is always the
  oldest one (`Serves.oldest`).
-/
import Mathlib.Data.List.Basic

namespace DplanePlugin.Lib

variable {J R : Type}

/-- What happens at the queue. -/
inductive Deal (J R : Type) where
  | join (j : J)
  | finish (j : J) (r : R)
  | lose (j : J)
deriving DecidableEq, Repr

@[simp] def Deal.joined : Deal J R → Option J
  | .join j => some j
  | _ => none

@[simp] def Deal.finished : Deal J R → Option J
  | .finish j _ => some j
  | _ => none

@[simp] def Deal.lost : Deal J R → Option J
  | .lose j => some j
  | _ => none

/-- The job that leaves the queue. -/
@[simp] def Deal.left : Deal J R → Option J
  | .join _ => none
  | .finish j _ => some j
  | .lose j => some j

def joinedJobs (deals : List (Deal J R)) : List J := deals.filterMap Deal.joined

def finishedJobs (deals : List (Deal J R)) : List J := deals.filterMap Deal.finished

def lostJobs (deals : List (Deal J R)) : List J := deals.filterMap Deal.lost

def leftJobs (deals : List (Deal J R)) : List J := deals.filterMap Deal.left

/-- A queue can have done `deals`, and is left with the jobs `waiting`. -/
inductive Serves : List (Deal J R) → List J → Prop
  | start : Serves [] []
  | join {deals : List (Deal J R)} {waiting : List J} (j : J) :
      Serves deals waiting → Serves (deals ++ [.join j]) (waiting ++ [j])
  | finish {deals : List (Deal J R)} {waiting : List J} {j : J} (r : R) :
      Serves deals (j :: waiting) → Serves (deals ++ [.finish j r]) waiting
  | lose {deals : List (Deal J R)} {waiting : List J} {j : J} :
      Serves deals (j :: waiting) → Serves (deals ++ [.lose j]) waiting

section Concat
variable (deals : List (Deal J R)) (d : Deal J R)

@[simp] theorem joinedJobs_concat :
    joinedJobs (deals ++ [d]) = joinedJobs deals ++ d.joined.toList := by
  cases d <;> simp [joinedJobs]

@[simp] theorem leftJobs_concat : leftJobs (deals ++ [d]) = leftJobs deals ++ d.left.toList := by
  cases d <;> simp [leftJobs]

end Concat

section Serves
variable {deals : List (Deal J R)} {waiting : List J}

/-- The jobs that joined are those that left, and then those that wait. -/
theorem Serves.order (h : Serves deals waiting) :
    joinedJobs deals = leftJobs deals ++ waiting := by
  induction h with
  | start => rfl
  | join j _ ih => simp [ih]
  | finish r _ ih | lose _ ih => simp [ih]

theorem Serves.of_prefix (h : Serves deals waiting) {before : List (Deal J R)}
    (hle : before <+: deals) : ∃ waiting', Serves before waiting' := by
  induction h with
  | start => exact ⟨[], List.prefix_nil.mp hle ▸ .start⟩
  | join j h ih =>
    rcases List.prefix_concat_iff.mp hle with rfl | hle
    · exact ⟨_, h.join j⟩
    · exact ih hle
  | finish r h ih =>
    rcases List.prefix_concat_iff.mp hle with rfl | hle
    · exact ⟨_, h.finish r⟩
    · exact ih hle
  | lose h ih =>
    rcases List.prefix_concat_iff.mp hle with rfl | hle
    · exact ⟨_, h.lose⟩
    · exact ih hle

/-- A job that leaves is the oldest one of those that wait. -/
theorem Serves.oldest (h : Serves deals waiting) {before after : List (Deal J R)}
    {d : Deal J R} (heq : deals = before ++ d :: after) {j : J} (hj : d.left = some j) :
    ∃ waiting', Serves before (j :: waiting') := by
  have hle : before ++ [d] <+: deals := ⟨after, by simp [heq]⟩
  rcases h.of_prefix ((List.prefix_append _ _).trans hle) with ⟨waiting₀, hbefore⟩
  rcases h.of_prefix hle with ⟨waiting₁, hafter⟩
  have horder := hafter.order
  rw [joinedJobs_concat, leftJobs_concat, hbefore.order] at horder
  obtain rfl : waiting₀ = j :: waiting₁ := by
    cases d with
    | join => cases hj
    | finish | lose =>
      cases hj
      simpa using horder
  exact ⟨waiting₁, hbefore⟩

/-- Where nothing was lost, the finished jobs are the first that joined. -/
theorem Serves.finished_of_kept (h : Serves deals waiting) (hkept : lostJobs deals = []) :
    joinedJobs deals = finishedJobs deals ++ waiting := by
  rw [h.order]
  congr 1
  apply List.filterMap_congr
  intro d hd
  cases d with
  | join | finish => rfl
  | lose j => exact nomatch List.filterMap_eq_nil_iff.mp hkept _ hd

end Serves

end DplanePlugin.Lib
