/-
  DplanePlugin/Lib/CString.lean
  =============================
  **C strings and buffers.**

  A C string is its octets up to the terminating zero, none of them zero.  A
  buffer is a list of octets; what it reads back as a string is what comes before
  its first zero.
-/
import Mathlib.Data.List.TakeWhile

namespace DplanePlugin.Lib

/-- A string as C has it. -/
structure CString where
  octets : List UInt8
  noNul : 0 ∉ octets

def CString.strlen (s : CString) : Nat := s.octets.length

/-- What a buffer reads back as a string. -/
def content (buf : List UInt8) : List UInt8 := buf.takeWhile (· ≠ 0)

/-- The string that a buffer reads back as. -/
def CString.ofBuffer (buf : List UInt8) : CString where
  octets := content buf
  noNul := by
    intro hmem
    simpa using List.mem_takeWhile_imp hmem

/-- The buffer is `n` octets and a terminating zero past them. -/
def TerminatedAt (n : Nat) (buf : List UInt8) : Prop := buf.drop n = [0]

/-- `strncpy`: copy at most `n` octets, and fill up to `n` octets with zeros. -/
def strncpy (dst : List UInt8) (src : CString) (n : Nat) : List UInt8 :=
  (src.octets ++ List.replicate (n - src.strlen) 0).take n ++ dst.drop n

theorem content_append_zero (s : CString) (rest : List UInt8) :
    content (s.octets ++ 0 :: rest) = s.octets := by
  have hall : ∀ a ∈ s.octets, decide (a ≠ 0) = true := by
    intro a ha
    rw [decide_eq_true_eq]
    rintro rfl
    exact s.noNul ha
  rw [content, List.takeWhile_append_of_pos hall, List.takeWhile_cons]
  simp

/-- A buffer that is initialized with a string, `n` octets and a zero long. -/
def CString.toBuffer (s : CString) (n : Nat) : List UInt8 :=
  s.octets ++ List.replicate (n + 1 - s.strlen) 0

section
variable {s : CString} {n : Nat} (hlen : s.strlen ≤ n)
include hlen

theorem terminatedAt_toBuffer : TerminatedAt n (s.toBuffer n) := by
  have hdrop : s.octets.drop n = [] := List.drop_eq_nil_of_le hlen
  have hone : n + 1 - s.strlen - (n - s.octets.length) = 1 := by
    rw [CString.strlen] at hlen ⊢
    omega
  rw [TerminatedAt, CString.toBuffer, List.drop_append, hdrop, List.drop_replicate, hone]
  rfl

/-- Copying a string that fits fills the buffer up to its terminating zero. -/
theorem strncpy_eq {dst : List UInt8} (hdst : TerminatedAt n dst) :
    strncpy dst s n = s.octets ++ 0 :: List.replicate (n - s.strlen) 0 := by
  have hfull : (s.octets ++ List.replicate (n - s.strlen) 0).length = n := by
    rw [List.length_append, List.length_replicate]
    exact Nat.add_sub_cancel' hlen
  rw [strncpy, List.take_of_length_le (Nat.le_of_eq hfull), hdst, List.append_assoc,
    ← List.replicate_succ', List.replicate_succ]

theorem content_strncpy {dst : List UInt8} (hdst : TerminatedAt n dst) :
    content (strncpy dst s n) = s.octets := by
  rw [strncpy_eq hlen hdst, content_append_zero]

end

/-- The octets past `n` stay. -/
theorem TerminatedAt.strncpy {n : Nat} {dst : List UInt8} (h : TerminatedAt n dst) (src : CString) :
    TerminatedAt n (strncpy dst src n) := by
  have hfull : ((src.octets ++ List.replicate (n - src.strlen) 0).take n).length = n := by
    rw [List.length_take, List.length_append, List.length_replicate, CString.strlen]
    omega
  rw [TerminatedAt, Lib.strncpy, List.drop_left' hfull]
  exact h

end DplanePlugin.Lib
