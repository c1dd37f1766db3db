/-
  DplanePlugin/Lib/Strtok.lean
  ============================
  **Tokens of a string, and `strtok_r`.**

  The tokens of a string are the nonempty runs between its delimiters.
  `strtok_r` works on a buffer: it skips delimiters, ends the token that follows
  with a zero, and saves where to resume.  What it is called with, and what it
  leaves, are two strings, and the one call takes the first token off the first
  of them (`strtokR_of_cons`).
-/
import DplanePlugin.Lib.CString

namespace DplanePlugin.Lib

/-! ### Spans -/

section Spans
variable {α : Type} (p : α → Bool) (l : List α)

theorem take_length_takeWhile : l.take (l.takeWhile p).length = l.takeWhile p := by
  have hsplit : l.takeWhile p ++ l.dropWhile p = l := List.takeWhile_append_dropWhile
  calc l.take (l.takeWhile p).length
      = (l.takeWhile p ++ l.dropWhile p).take (l.takeWhile p).length := by rw [hsplit]
    _ = l.takeWhile p := List.take_left

theorem drop_length_takeWhile : l.drop (l.takeWhile p).length = l.dropWhile p := by
  have hsplit : l.takeWhile p ++ l.dropWhile p = l := List.takeWhile_append_dropWhile
  calc l.drop (l.takeWhile p).length
      = (l.takeWhile p ++ l.dropWhile p).drop (l.takeWhile p).length := by rw [hsplit]
    _ = l.dropWhile p := List.drop_left

theorem length_takeWhile_le : (l.takeWhile p).length ≤ l.length :=
  (List.takeWhile_prefix p).length_le

/-- A span goes on past as many elements as it has. -/
theorem takeWhile_drop {k : Nat} (h : k ≤ (l.takeWhile p).length) :
    (l.drop k).takeWhile p = (l.takeWhile p).drop k := by
  induction l generalizing k with
  | nil => simp
  | cons a l ih =>
    cases k with
    | zero => rfl
    | succ k =>
      by_cases ha : p a = true
      · rw [List.takeWhile_cons_of_pos ha] at h ⊢
        exact ih (Nat.le_of_succ_le_succ h)
      · rw [List.takeWhile_cons_of_neg ha] at h
        cases h

/-- Writing an element outside of it cuts a span. -/
theorem takeWhile_set {a : α} (ha : p a = false) (k : Nat) :
    (l.set k a).takeWhile p = (l.takeWhile p).take k := by
  induction l generalizing k with
  | nil => simp
  | cons b l ih =>
    cases k with
    | zero =>
      rw [List.set_cons_zero, List.takeWhile_cons_of_neg (by simp [ha]), List.take_zero]
    | succ k =>
      by_cases hb : p b = true
      · rw [List.set_cons_succ, List.takeWhile_cons_of_pos hb, List.takeWhile_cons_of_pos hb,
          List.take_succ_cons, ih]
      · rw [List.set_cons_succ, List.takeWhile_cons_of_neg hb, List.takeWhile_cons_of_neg hb]
        rfl

end Spans

/-! ### The tokens of a string -/

section Tokens
variable {α : Type} (d : α → Bool)

/-- The tokens of `s`: the runs between its delimiters that are not empty. -/
def tokens (s : List α) : List (List α) := (s.splitOnP d).filter (fun t => !t.isEmpty)

theorem tokens_append_delim {s : List α} (hs : ∀ x ∈ s, d x = false) {x : α} (hx : d x = true)
    (rest : List α) :
    tokens d (s ++ x :: rest) = (if s.isEmpty then [] else [s]) ++ tokens d rest := by
  rw [tokens, List.splitOnP_append_cons_of_forall_mem hs x hx, List.filter_cons]
  cases s <;> rfl

theorem tokens_of_all_not {s : List α} (hs : ∀ x ∈ s, d x = false) :
    tokens d s = if s.isEmpty then [] else [s] := by
  rw [tokens, List.splitOnP_eq_singleton hs]
  cases s <;> rfl

/-- The pieces of a string are made of its elements. -/
theorem mem_of_mem_splitOnP {s t : List α} (h : t ∈ s.splitOnP d) {x : α} (hx : x ∈ t) : x ∈ s := by
  induction s generalizing t with
  | nil =>
    rw [List.splitOnP_nil, List.mem_singleton] at h
    rwa [h] at hx
  | cons y s ih =>
    rw [List.splitOnP_cons_eq_if_modifyHead] at h
    by_cases hy : d y = true
    · rw [if_pos hy, List.mem_cons] at h
      rcases h with rfl | h
      · cases hx
      · exact List.mem_cons_of_mem _ (ih h hx)
    · rw [if_neg hy] at h
      cases hsplit : s.splitOnP d with
      | nil => exact absurd hsplit (List.splitOnP_ne_nil d s)
      | cons u us =>
        rw [hsplit, List.modifyHead_cons, List.mem_cons] at h
        rcases h with rfl | h
        · rcases List.mem_cons.mp hx with rfl | hx
          · exact List.mem_cons_self
          · exact List.mem_cons_of_mem _ (ih (hsplit ▸ List.mem_cons_self) hx)
        · exact List.mem_cons_of_mem _ (ih (hsplit ▸ List.mem_cons_of_mem _ h) hx)

theorem mem_of_mem_tokens {s t : List α} (h : t ∈ tokens d s) {x : α} (hx : x ∈ t) : x ∈ s :=
  mem_of_mem_splitOnP d (List.mem_filter.mp h).1 hx

theorem tokens_dropWhile (s : List α) : tokens d (s.dropWhile d) = tokens d s := by
  induction s with
  | nil => rfl
  | cons x s ih =>
    by_cases hx : d x = true
    · rw [List.dropWhile_cons_of_pos hx, ih]
      exact (tokens_append_delim d (s := []) (by simp) hx s).symm
    · rw [List.dropWhile_cons_of_neg hx]

/-- The first token of a string that starts with no delimiter is its run up to
    the first one. -/
theorem tokens_cons {x : α} (hx : d x = false) (s : List α) :
    tokens d (x :: s) =
      (x :: s).takeWhile (fun y => !d y) :: tokens d ((x :: s).dropWhile (fun y => !d y)).tail := by
  have hsplit : (x :: s).takeWhile (fun y => !d y) ++ (x :: s).dropWhile (fun y => !d y) = x :: s :=
    List.takeWhile_append_dropWhile
  have hrun : ∀ y ∈ (x :: s).takeWhile (fun y => !d y), d y = false := by
    intro y hy
    simpa using List.all_eq_true.mp List.all_takeWhile y hy
  have hne : ((x :: s).takeWhile (fun y => !d y)).isEmpty = false := by
    simp [hx]
  cases hrest : (x :: s).dropWhile (fun y => !d y) with
  | nil =>
    rw [hrest, List.append_nil] at hsplit
    rw [hsplit] at hrun ⊢
    rw [tokens_of_all_not d hrun]
    rfl
  | cons y rest =>
    have hy : d y = true := by
      have hhead := List.head?_dropWhile_not (fun y => !d y) (x :: s)
      rw [hrest] at hhead
      simpa using hhead
    rw [hrest] at hsplit
    conv => lhs; rw [← hsplit, tokens_append_delim d hrun hy, hne]
    rfl

end Tokens

/-! ### `strtok_r` -/

/-- The string at `pos` of a buffer. -/
def strAt (buf : List UInt8) (pos : Nat) : List UInt8 := content (buf.drop pos)

/-- `strspn`: how many octets the string at `pos` starts with are accepted. -/
def strspn (buf : List UInt8) (pos : Nat) (accept : UInt8 → Bool) : Nat :=
  ((strAt buf pos).takeWhile accept).length

/-- `strcspn`: how many octets the string at `pos` starts with are not rejected. -/
def strcspn (buf : List UInt8) (pos : Nat) (reject : UInt8 → Bool) : Nat :=
  strspn buf pos fun c => !reject c

/-- What `strtok_r` returns and leaves: where the token starts, or null. -/
structure Strtok where
  tok : Option Nat
  buf : List UInt8
  saveptr : Nat

def strtokR (buf : List UInt8) (s : Nat) (delim : UInt8 → Bool) : Strtok :=
  let start := s + strspn buf s delim
  if buf.getD start 0 = 0 then ⟨none, buf, start⟩
  else
    let stop := start + strcspn buf start delim
    if buf.getD stop 0 = 0 then ⟨some start, buf, stop⟩
    else ⟨some start, buf.set stop 0, stop + 1⟩

theorem getD_eq_zero_iff (buf : List UInt8) (pos : Nat) :
    buf.getD pos 0 = 0 ↔ strAt buf pos = [] := by
  have hhead : buf.getD pos 0 = (buf.drop pos).head?.getD 0 := by
    rw [List.head?_drop, List.getD_eq_getElem?_getD]
  rw [strAt, hhead]
  cases buf.drop pos with
  | nil => exact ⟨fun _ => rfl, fun _ => rfl⟩
  | cons c rest =>
    by_cases hc : c = 0 <;> simp [content, hc]

/-- Past an accepted span the string starts where the span ended. -/
theorem strAt_add_strspn (buf : List UInt8) (pos : Nat) (accept : UInt8 → Bool) :
    strAt buf (pos + strspn buf pos accept) = (strAt buf pos).dropWhile accept := by
  have hle : strspn buf pos accept ≤ (strAt buf pos).length := length_takeWhile_le _ _
  calc strAt buf (pos + strspn buf pos accept)
      = content ((buf.drop pos).drop (strspn buf pos accept)) := by rw [strAt, List.drop_drop]
    _ = (strAt buf pos).drop (strspn buf pos accept) := takeWhile_drop _ _ hle
    _ = (strAt buf pos).dropWhile accept := drop_length_takeWhile _ _

theorem strAt_succ {buf : List UInt8} {pos : Nat} (h : strAt buf pos ≠ []) :
    strAt buf (pos + 1) = (strAt buf pos).tail := by
  have hle : 1 ≤ (strAt buf pos).length := List.length_pos_iff.mpr h
  calc strAt buf (pos + 1)
      = content ((buf.drop pos).drop 1) := by rw [strAt, List.drop_drop]
    _ = (strAt buf pos).drop 1 := takeWhile_drop _ _ hle
    _ = (strAt buf pos).tail := List.drop_one

/-- A zero past `k` octets of a string leaves the string these octets. -/
theorem strAt_set_zero (buf : List UInt8) (pos k : Nat) :
    strAt (buf.set (pos + k) 0) pos = (strAt buf pos).take k := by
  have hset : (buf.set (pos + k) 0).drop pos = (buf.drop pos).set k 0 := by
    rw [List.set_drop]
  rw [strAt, hset]
  exact takeWhile_set _ _ (by decide) k

/-- With no token left, `strtok_r` returns null. -/
theorem strtokR_of_nil {buf : List UInt8} {s : Nat} {delim : UInt8 → Bool}
    (h : tokens delim (strAt buf s) = []) : (strtokR buf s delim).tok = none := by
  have hskip := strAt_add_strspn buf s delim
  have hzero : buf.getD (s + strspn buf s delim) 0 = 0 := by
    rw [getD_eq_zero_iff, hskip]
    cases hrest : (strAt buf s).dropWhile delim with
    | nil => rfl
    | cons x rest =>
      have hx : delim x = false := by
        have hhead := List.head?_dropWhile_not delim (strAt buf s)
        rw [hrest] at hhead
        simpa using hhead
      rw [← tokens_dropWhile, hrest, tokens_cons delim hx] at h
      cases h
  rw [strtokR, if_pos hzero]

/-- `strtok_r` returns the first token and leaves the others. -/
theorem strtokR_of_cons {buf : List UInt8} {s : Nat} {delim : UInt8 → Bool} {t : List UInt8}
    {ts : List (List UInt8)} (h : tokens delim (strAt buf s) = t :: ts) :
    ∃ start, (strtokR buf s delim).tok = some start ∧
      strAt (strtokR buf s delim).buf start = t ∧
      tokens delim (strAt (strtokR buf s delim).buf (strtokR buf s delim).saveptr) = ts := by
  have hskip := strAt_add_strspn buf s delim
  rw [← tokens_dropWhile, ← hskip] at h
  rw [strtokR]
  generalize s + strspn buf s delim = start at h hskip ⊢
  have hstop : strAt buf (start + strcspn buf start delim)
      = (strAt buf start).dropWhile fun c => !delim c := strAt_add_strspn buf start _
  have hcut := strAt_set_zero buf start (strcspn buf start delim)
  have hrun : (strAt buf start).take (strcspn buf start delim)
      = (strAt buf start).takeWhile fun c => !delim c := take_length_takeWhile _ _
  cases hrest : strAt buf start with
  | nil =>
    rw [hrest] at h
    cases h
  | cons x rest =>
    have hx : delim x = false := by
      have hhead := List.head?_dropWhile_not delim (strAt buf s)
      rw [← hskip, hrest] at hhead
      simpa using hhead
    rw [hrest, tokens_cons delim hx, ← hrest] at h
    obtain ⟨rfl, rfl⟩ := List.cons.inj h
    have hne : buf.getD start 0 ≠ 0 := by
      rw [Ne, getD_eq_zero_iff, hrest]
      exact List.cons_ne_nil _ _
    rw [if_neg hne]
    by_cases hend : buf.getD (start + strcspn buf start delim) 0 = 0
    · -- the string ends with the token
      have hnil := hstop.symm.trans ((getD_eq_zero_iff _ _).mp hend)
      have hall : (strAt buf start).takeWhile (fun c => !delim c)
          ++ (strAt buf start).dropWhile (fun c => !delim c) = strAt buf start :=
        List.takeWhile_append_dropWhile
      rw [hnil, List.append_nil] at hall
      rw [if_pos hend]
      refine ⟨start, rfl, hall.symm, ?_⟩
      rw [hstop, hnil]
      rfl
    · -- a delimiter becomes the zero that ends the token
      have hmore : strAt buf (start + strcspn buf start delim) ≠ [] :=
        fun hnil => hend ((getD_eq_zero_iff _ _).mpr hnil)
      have hpast : strAt (buf.set (start + strcspn buf start delim) 0)
          (start + strcspn buf start delim + 1)
            = strAt buf (start + strcspn buf start delim + 1) := by
        rw [strAt, List.drop_set_of_lt (Nat.lt_succ_self _), strAt]
      rw [if_neg hend]
      refine ⟨start, rfl, hcut.trans hrun, ?_⟩
      rw [hpast, strAt_succ hmore, hstop]

end DplanePlugin.Lib
