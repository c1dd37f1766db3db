/-
  DplanePlugin/Lib/GetOpt.lean
  ============================
  **`getopt_long`, and what an argument list spells.**

  `getoptLong` is the documented behaviour of the GNU function: it passes over the
  arguments that are no option, `--` ends the options, long names may be
  abbreviated, and an option's argument is the rest of its element or the next
  element.  The state is the rest of a cluster of short options, and the elements
  not looked at yet; moving the arguments that are no option to the end of `argv`
  does not show there.

  `Spells` is the grammar of the argument lists of a table whose options all
  require an argument, and `getoptLong` reads exactly these
  (`getoptLong_spelled`, `getoptLong_cases`).

  Left out: `flag`, which is null, the extension `-W`, the option characters that
  a string of short options gives a meaning to, `POSIXLY_CORRECT`, and messages.
-/
import Mathlib.Data.List.Nodup
import Mathlib.Data.List.TakeWhile

namespace DplanePlugin.Lib

/-- `has_arg`. -/
inductive HasArg where
  | noArgument | requiredArgument | optionalArgument
deriving DecidableEq

/-- `struct option`. -/
structure LongOption where
  name : List UInt8
  hasArg : HasArg
  val : UInt8
deriving DecidableEq

/-- `-`. -/
def dash : UInt8 := 45

/-- `:`. -/
def colon : UInt8 := 58

/-- `;`. -/
def semicolon : UInt8 := 59

/-- `=`. -/
def equals : UInt8 := 61

/-- `EOF`. -/
def eof : Int := -1

/-- `?`, which `getopt_long` returns for an unknown option or a missing argument. -/
def optUnk : Int := 63

/-- What is left of an element, and the elements left. -/
structure Getopt where
  nextchar : List UInt8
  args : List (List UInt8)

/-- The result of a call, with `optarg` and what is written to `longindex`. -/
structure GetoptResult where
  opt : Int
  optarg : Option (List UInt8)
  longindex : Option Nat

/-! ### The scanner -/

/-- An element that is no option: it does not start with `-`, or is just that. -/
def isNonOption : List UInt8 → Bool
  | c :: _ :: _ => c != dash
  | _ => true

/-- The option a long name stands for, with its index: the one of that name, or
    the first one that starts with it, unless another one does that is not alike. -/
def longOption (opts : List LongOption) (name : List UInt8) : Option (LongOption × Nat) :=
  match opts.zipIdx.find? fun p => p.1.name == name with
  | some p => some p
  | none =>
    match opts.zipIdx.filter fun p => name.isPrefixOf p.1.name with
    | [] => none
    | p :: more =>
      if more.all fun q => q.1.hasArg == p.1.hasArg && q.1.val == p.1.val then some p else none

/-- What the string of short options says of `c`: nothing, or if it takes an
    argument. -/
def shortArg (short : List UInt8) (c : UInt8) : Option HasArg :=
  if c = colon ∨ c = semicolon then none
  else
    match short.dropWhile (· != c) with
    | [] => none
    | _ :: more =>
      if more.head? ≠ some colon then some .noArgument
      else if more.tail.head? ≠ some colon then some .requiredArgument
      else some .optionalArgument

def unknownOption (s : Getopt) : GetoptResult × Getopt := (⟨optUnk, none, none⟩, s)

/-- A long option, after the `--` of its element. -/
def longElement (opts : List LongOption) (body : List UInt8) (args : List (List UInt8)) :
    GetoptResult × Getopt :=
  match longOption opts (body.takeWhile (· != equals)) with
  | none => unknownOption ⟨[], args⟩
  | some (o, i) =>
    match body.dropWhile (· != equals) with
    | _ :: value =>
      if o.hasArg = .noArgument then unknownOption ⟨[], args⟩
      else (⟨o.val.toNat, some value, some i⟩, ⟨[], args⟩)
    | [] =>
      if o.hasArg = .requiredArgument then
        match args with
        | [] => unknownOption ⟨[], []⟩
        | value :: rest => (⟨o.val.toNat, some value, some i⟩, ⟨[], rest⟩)
      else (⟨o.val.toNat, none, some i⟩, ⟨[], args⟩)

/-- The short option `c`, followed by `cs` in its element. -/
def shortElement (short : List UInt8) (c : UInt8) (cs : List UInt8) (args : List (List UInt8)) :
    GetoptResult × Getopt :=
  match shortArg short c with
  | none => unknownOption ⟨cs, args⟩
  | some .noArgument => (⟨c.toNat, none, none⟩, ⟨cs, args⟩)
  | some .optionalArgument =>
    (⟨c.toNat, if cs = [] then none else some cs, none⟩, ⟨[], args⟩)
  | some .requiredArgument =>
    if cs ≠ [] then (⟨c.toNat, some cs, none⟩, ⟨[], args⟩)
    else
      match args with
      | [] => unknownOption ⟨[], []⟩
      | value :: rest => (⟨c.toNat, some value, none⟩, ⟨[], rest⟩)

/-- One call. -/
def getoptLong (short : List UInt8) (opts : List LongOption) (s : Getopt) :
    GetoptResult × Getopt :=
  match s.nextchar with
  | c :: cs => shortElement short c cs s.args
  | [] =>
    match s.args.dropWhile isNonOption with
    | (_ :: c :: cs) :: args =>
      if c ≠ dash then shortElement short c cs args
      else if cs = [] then (⟨eof, none, none⟩, ⟨[], args⟩)
      else longElement opts cs args
    | _ => (⟨eof, none, none⟩, ⟨[], []⟩)

/-! ### Every call takes something -/

/-- The octets of some elements, and one for each element. -/
def elementsSize : List (List UInt8) → Nat
  | [] => 0
  | arg :: args => arg.length + 1 + elementsSize args

/-- How much is left. -/
def Getopt.size (s : Getopt) : Nat := s.nextchar.length + elementsSize s.args

theorem size_longElement_le (opts : List LongOption) (body : List UInt8) (args : List (List UInt8)) :
    (longElement opts body args).2.size ≤ Getopt.size ⟨[], args⟩ := by
  unfold longElement unknownOption
  split
  · exact Nat.le_refl _
  split
  · split <;> exact Nat.le_refl _
  · split
    · cases args with
      | nil => exact Nat.le_refl _
      | cons value rest => simp [Getopt.size, elementsSize]
    · exact Nat.le_refl _

theorem size_shortElement_le (short : List UInt8) (c : UInt8) (cs : List UInt8)
    (args : List (List UInt8)) :
    (shortElement short c cs args).2.size ≤ Getopt.size ⟨cs, args⟩ := by
  unfold shortElement unknownOption
  split
  · exact Nat.le_refl _
  · exact Nat.le_refl _
  · simp [Getopt.size]
  · split
    · simp [Getopt.size]
    · cases args with
      | nil => simp [Getopt.size]
      | cons value rest =>
        simp [Getopt.size, elementsSize]
        omega

theorem size_dropWhile_le (args : List (List UInt8)) (p : List UInt8 → Bool) :
    Getopt.size ⟨[], args.dropWhile p⟩ ≤ Getopt.size ⟨[], args⟩ := by
  induction args with
  | nil => exact Nat.le_refl _
  | cons arg args ih =>
    by_cases harg : p arg = true
    · rw [List.dropWhile_cons_of_pos harg]
      simp only [Getopt.size, elementsSize] at ih ⊢
      omega
    · rw [List.dropWhile_cons_of_neg harg]

/-- A call that does not return `EOF` takes at least an octet. -/
theorem size_getoptLong_lt (short : List UInt8) (opts : List LongOption) (s : Getopt)
    (h : (getoptLong short opts s).1.opt ≠ eof) : (getoptLong short opts s).2.size < s.size := by
  rcases s with ⟨nextchar, args⟩
  cases nextchar with
  | cons c cs =>
    refine Nat.lt_of_le_of_lt (size_shortElement_le short c cs args) ?_
    simp [Getopt.size]
  | nil =>
    have hdrop := size_dropWhile_le args isNonOption
    cases hrest : args.dropWhile isNonOption with
    | nil => simp [getoptLong, hrest, eof] at h
    | cons arg rest =>
      rw [hrest] at hdrop
      rcases arg with _ | ⟨c₀, _ | ⟨c, cs⟩⟩
      · simp [getoptLong, hrest, eof] at h
      · simp [getoptLong, hrest, eof] at h
      · refine Nat.lt_of_lt_of_le ?_ hdrop
        simp only [getoptLong, hrest] at h ⊢
        by_cases hc : c ≠ dash
        · rw [if_pos hc]
          refine Nat.lt_of_le_of_lt (size_shortElement_le short c cs rest) ?_
          simp only [Getopt.size, elementsSize, List.length_nil, List.length_cons]
          omega
        · rw [if_neg hc] at h ⊢
          by_cases hcs : cs = []
          · rw [if_pos hcs] at h
            exact absurd rfl h
          · rw [if_neg hcs]
            refine Nat.lt_of_le_of_lt (size_longElement_le opts cs rest) ?_
            simp only [Getopt.size, elementsSize, List.length_nil, List.length_cons]
            omega

/-! ### The grammar -/

/-- A table whose options all require an argument, with different characters, none
    of them one that `getopt_long` or its caller gives a meaning to. -/
structure OptionTable where
  opts : List LongOption
  required : ∀ o ∈ opts, o.hasArg = .requiredArgument
  distinct : (opts.map (·.val)).Nodup
  chars : ∀ o ∈ opts, o.val ∉ [dash, colon, semicolon, 63]

/-- The string of short options says of every character what the table does. -/
def Describes (short : List UInt8) (opts : List LongOption) : Prop :=
  ∀ c, shortArg short c = (opts.find? fun o => o.val == c).map (·.hasArg)

/-- An option and its argument. -/
abbrev Setting := LongOption × List UInt8

/-- The elements that spell a setting. -/
inductive Spelled (t : OptionTable) : Setting → List (List UInt8) → Prop
  | short {o : LongOption} {v : List UInt8} (ho : o ∈ t.opts) (hv : v ≠ []) :
      Spelled t (o, v) [dash :: o.val :: v]
  | shortNext {o : LongOption} {v : List UInt8} (ho : o ∈ t.opts) :
      Spelled t (o, v) [[dash, o.val], v]
  | long {o : LongOption} {i : Nat} {name v : List UInt8}
      (ho : longOption t.opts name = some (o, i)) (hname : equals ∉ name) :
      Spelled t (o, v) [dash :: dash :: (name ++ equals :: v)]
  | longNext {o : LongOption} {i : Nat} {name v : List UInt8}
      (ho : longOption t.opts name = some (o, i)) (hname : equals ∉ name) (hne : name ≠ []) :
      Spelled t (o, v) [dash :: dash :: name, v]

/-- The argument lists that spell some settings: among other elements, up to the end
    or to a `--`. -/
inductive Spells (t : OptionTable) : List (List UInt8) → List Setting → Prop
  | done : Spells t [] []
  | stop {args : List (List UInt8)} : Spells t ([dash, dash] :: args) []
  | other {arg : List UInt8} {args : List (List UInt8)} {ss : List Setting}
      (harg : isNonOption arg = true) : Spells t args ss → Spells t (arg :: args) ss
  | setting {s : Setting} {elems args : List (List UInt8)} {ss : List Setting}
      (hs : Spelled t s elems) : Spells t args ss → Spells t (elems ++ args) (s :: ss)

theorem Spells.of_dropWhile {t : OptionTable} {args : List (List UInt8)} {ss : List Setting}
    (h : Spells t (args.dropWhile isNonOption) ss) : Spells t args ss := by
  induction args with
  | nil => exact h
  | cons arg args ih =>
    by_cases harg : isNonOption arg = true
    · rw [List.dropWhile_cons_of_pos harg] at h
      exact .other harg (ih h)
    · rwa [List.dropWhile_cons_of_neg harg] at h

theorem longOption_mem {opts : List LongOption} {name : List UInt8} {o : LongOption} {i : Nat}
    (h : longOption opts name = some (o, i)) : opts[i]? = some o := by
  rw [← List.mk_mem_zipIdx_iff_getElem?]
  unfold longOption at h
  split at h
  · next p hfind =>
    cases h
    exact List.mem_of_find?_eq_some hfind
  · split at h
    · cases h
    · next p more hfilter =>
      split at h
      · cases h
        exact (List.mem_filter.mp (hfilter ▸ List.mem_cons_self)).1
      · cases h

section Table
variable {t : OptionTable} {short : List UInt8}

theorem OptionTable.find_val {o : LongOption} (ho : o ∈ t.opts) :
    (t.opts.find? fun p => p.val == o.val) = some o := by
  cases hfind : t.opts.find? fun p => p.val == o.val with
  | none => simpa using List.find?_eq_none.mp hfind o ho
  | some p =>
    have hval : p.val = o.val := by simpa using List.find?_some hfind
    rw [List.inj_on_of_nodup_map t.distinct (List.mem_of_find?_eq_some hfind) ho hval]

theorem OptionTable.val_ne_dash {o : LongOption} (ho : o ∈ t.opts) : o.val ≠ dash := by
  have hval := t.chars o ho
  rw [List.mem_cons, not_or] at hval
  exact hval.1

theorem getoptLong_other {arg : List UInt8} (harg : isNonOption arg = true)
    (opts : List LongOption) (args : List (List UInt8)) :
    getoptLong short opts ⟨[], arg :: args⟩ = getoptLong short opts ⟨[], args⟩ := by
  simp [getoptLong, List.dropWhile_cons_of_pos harg]

theorem getoptLong_dropWhile (opts : List LongOption) (args : List (List UInt8)) :
    getoptLong short opts ⟨[], args.dropWhile isNonOption⟩ =
      getoptLong short opts ⟨[], args⟩ := by
  induction args with
  | nil => rfl
  | cons arg args ih =>
    by_cases harg : isNonOption arg = true
    · rw [List.dropWhile_cons_of_pos harg, getoptLong_other harg, ih]
    · rw [List.dropWhile_cons_of_neg harg]

theorem getoptLong_element (opts : List LongOption) (c : UInt8) (cs : List UInt8)
    (args : List (List UInt8)) :
    getoptLong short opts ⟨[], (dash :: c :: cs) :: args⟩ =
      if c ≠ dash then shortElement short c cs args
      else if cs = [] then (⟨eof, none, none⟩, ⟨[], args⟩)
      else longElement opts cs args := by
  have hoption : ¬ isNonOption (dash :: c :: cs) = true := by simp [isNonOption]
  simp [getoptLong, List.dropWhile_cons_of_neg hoption]

/-- A name ends at a `=` or at the end. -/
theorem span_equals {name value : List UInt8} (h : equals ∉ name)
    (hvalue : value = [] ∨ ∃ v, value = equals :: v) :
    (name ++ value).takeWhile (· != equals) = name ∧
      (name ++ value).dropWhile (· != equals) = value := by
  have hall : ∀ c ∈ name, (c != equals) = true := by
    intro c hc
    rw [bne_iff_ne]
    rintro rfl
    exact h hc
  rw [List.takeWhile_append_of_pos hall, List.dropWhile_append_of_pos hall]
  rcases hvalue with rfl | ⟨v, rfl⟩ <;> simp

theorem shortElement_required {c : UInt8} (h : shortArg short c = some .requiredArgument)
    (v : List UInt8) (args : List (List UInt8)) :
    (v ≠ [] → shortElement short c v args = (⟨c.toNat, some v, none⟩, ⟨[], args⟩)) ∧
      shortElement short c [] (v :: args) = (⟨c.toNat, some v, none⟩, ⟨[], args⟩) := by
  constructor
  · intro hv
    simp [shortElement, h, hv]
  · simp [shortElement, h]

/-- A call reads the setting that comes first. -/
theorem getoptLong_spelled (hshort : Describes short t.opts) {o : LongOption} {v : List UInt8}
    {elems : List (List UInt8)} (h : Spelled t (o, v) elems) (args : List (List UInt8)) :
    o ∈ t.opts ∧ ∃ i, getoptLong short t.opts ⟨[], elems ++ args⟩ =
        (⟨o.val.toNat, some v, i⟩, ⟨[], args⟩) ∧ ∀ k ∈ i, t.opts[k]? = some o := by
  have hshortArg (ho : o ∈ t.opts) : shortArg short o.val = some .requiredArgument := by
    rw [hshort, OptionTable.find_val ho, Option.map_some, t.required o ho]
  cases h with
  | short ho hv =>
    refine ⟨ho, none, ?_, by simp⟩
    rw [List.cons_append, getoptLong_element, if_pos (OptionTable.val_ne_dash ho)]
    exact (shortElement_required (hshortArg ho) v args).1 hv
  | shortNext ho =>
    refine ⟨ho, none, ?_, by simp⟩
    rw [List.cons_append, getoptLong_element, if_pos (OptionTable.val_ne_dash ho)]
    exact (shortElement_required (hshortArg ho) v args).2
  | @long _ i name _ ho hname =>
    have hmem := longOption_mem ho
    have hreq := t.required o (List.mem_of_getElem? hmem)
    refine ⟨List.mem_of_getElem? hmem, some i, ?_, by simpa using hmem⟩
    rcases span_equals hname (.inr ⟨v, rfl⟩) with ⟨htake, hdrop⟩
    rw [List.cons_append, getoptLong_element, if_neg (by simp), if_neg (by simp), longElement,
      htake, hdrop, ho]
    simp [hreq]
  | @longNext _ i name _ ho hname hne =>
    have hmem := longOption_mem ho
    have hreq := t.required o (List.mem_of_getElem? hmem)
    refine ⟨List.mem_of_getElem? hmem, some i, ?_, by simpa using hmem⟩
    rcases span_equals hname (.inl rfl) with ⟨htake, hdrop⟩
    rw [List.append_nil] at htake hdrop
    rw [List.cons_append, getoptLong_element, if_neg (by simp), if_neg hne, longElement, htake,
      hdrop, ho]
    simp [hreq]

/-- A result that reads the setting that some elements start with. -/
def Reads (t : OptionTable) (args : List (List UInt8)) (r : GetoptResult × Getopt) : Prop :=
  ∃ o v i elems rest, args = elems ++ rest ∧ Spelled t (o, v) elems ∧
    r = (⟨o.val.toNat, some v, i⟩, ⟨[], rest⟩)

/-- A short option is unknown, or its argument missing, or it is read. -/
theorem shortElement_cases (hshort : Describes short t.opts) (c : UInt8) (cs : List UInt8)
    (args : List (List UInt8)) :
    (shortElement short c cs args).1.opt = optUnk ∨
      Reads t ((dash :: c :: cs) :: args) (shortElement short c cs args) := by
  have harg := hshort c
  cases hfind : t.opts.find? fun o => o.val == c with
  | none =>
    rw [hfind, Option.map_none] at harg
    left
    simp [shortElement, harg, unknownOption]
  | some o =>
    have ho := List.mem_of_find?_eq_some hfind
    obtain rfl : o.val = c := by simpa using List.find?_some hfind
    rw [hfind, Option.map_some, t.required o ho] at harg
    by_cases hcs : cs = []
    · subst hcs
      cases args with
      | nil =>
        left
        simp [shortElement, harg, unknownOption]
      | cons v rest =>
        exact .inr ⟨o, v, none, _, rest, rfl, .shortNext ho, (shortElement_required harg v rest).2⟩
    · exact .inr ⟨o, cs, none, _, args, rfl, .short ho hcs,
        (shortElement_required harg cs args).1 hcs⟩

theorem longElement_cases {cs : List UInt8} (hcs : cs ≠ []) (args : List (List UInt8)) :
    (longElement t.opts cs args).1.opt = optUnk ∨
      Reads t ((dash :: dash :: cs) :: args) (longElement t.opts cs args) := by
  have hsplit : cs.takeWhile (· != equals) ++ cs.dropWhile (· != equals) = cs :=
    List.takeWhile_append_dropWhile
  have hname : equals ∉ cs.takeWhile (· != equals) := by
    intro hmem
    simpa using List.mem_takeWhile_imp hmem
  rw [longElement]
  cases hlong : longOption t.opts (cs.takeWhile (· != equals)) with
  | none => exact .inl rfl
  | some p =>
    rcases p with ⟨o, i⟩
    have hreq := t.required o (List.mem_of_getElem? (longOption_mem hlong))
    cases hrest : cs.dropWhile (· != equals) with
    | nil =>
      rw [hrest, List.append_nil] at hsplit
      rw [hsplit] at hlong hname
      cases args with
      | nil => simp [hreq, unknownOption]
      | cons v rest =>
        exact .inr ⟨o, v, some i, _, rest, rfl, .longNext hlong hname hcs, by simp [hreq]⟩
    | cons c v =>
      have hc : c = equals := by
        have hhead := List.head?_dropWhile_not (· != equals) cs
        rw [hrest] at hhead
        simpa using hhead
      have helem : dash :: dash :: cs =
          dash :: dash :: (cs.takeWhile (· != equals) ++ equals :: v) := by
        conv_lhs => rw [← hsplit, hrest, hc]
      exact .inr ⟨o, v, some i, _, args, by rw [helem]; rfl, .long hlong hname, by simp [hreq]⟩

/-- What a call returns between two elements: `EOF` where there are no settings left,
    `?`, or the setting that comes first. -/
theorem getoptLong_cases (hshort : Describes short t.opts) (args : List (List UInt8)) :
    ((getoptLong short t.opts ⟨[], args⟩).1.opt = eof ∧ Spells t args []) ∨
      (getoptLong short t.opts ⟨[], args⟩).1.opt = optUnk ∨
      Reads t (args.dropWhile isNonOption) (getoptLong short t.opts ⟨[], args⟩) := by
  rw [← getoptLong_dropWhile]
  cases hrest : args.dropWhile isNonOption with
  | nil =>
    refine .inl ⟨rfl, .of_dropWhile ?_⟩
    rw [hrest]
    exact .done
  | cons arg rest =>
    have hoption : isNonOption arg = false := by
      have hhead := List.head?_dropWhile_not isNonOption args
      rw [hrest] at hhead
      simpa using hhead
    rcases arg with _ | ⟨c₀, _ | ⟨c, cs⟩⟩
    · cases hoption
    · cases hoption
    · obtain rfl : c₀ = dash := by simpa [isNonOption] using hoption
      rw [getoptLong_element]
      by_cases hc : c = dash
      · subst hc
        rw [if_neg (by simp)]
        by_cases hcs : cs = []
        · subst hcs
          refine .inl ⟨rfl, .of_dropWhile ?_⟩
          rw [hrest]
          exact .stop
        · rw [if_neg hcs]
          exact .inr (longElement_cases hcs rest)
      · rw [if_pos hc]
        exact .inr (shortElement_cases hshort c cs rest)

theorem Reads.first (hshort : Describes short t.opts) {args : List (List UInt8)}
    (h : Reads t (args.dropWhile isNonOption) (getoptLong short t.opts ⟨[], args⟩)) :
    ∃ o v i rest, o ∈ t.opts ∧ getoptLong short t.opts ⟨[], args⟩ =
        (⟨o.val.toNat, some v, i⟩, ⟨[], rest⟩) ∧ (∀ k ∈ i, t.opts[k]? = some o) ∧
      ∀ ss, Spells t rest ss → Spells t args ((o, v) :: ss) := by
  rcases h with ⟨o, v, -, elems, rest, hsplit, hspelled, -⟩
  rcases getoptLong_spelled hshort hspelled rest with ⟨ho, i, hcall, hi⟩
  rw [← hsplit, getoptLong_dropWhile] at hcall
  refine ⟨o, v, i, rest, ho, hcall, hi, ?_⟩
  intro ss hss
  apply Spells.of_dropWhile
  rw [hsplit]
  exact .setting hspelled hss

/-- The arguments of the settings are made of the octets of the elements. -/
theorem Spells.octets {args : List (List UInt8)} {ss : List Setting} (h : Spells t args ss)
    {s : Setting} (hs : s ∈ ss) {c : UInt8} (hc : c ∈ s.2) : ∃ arg ∈ args, c ∈ arg := by
  induction h with
  | done | stop => cases hs
  | other _ _ ih =>
    rcases ih hs with ⟨arg, harg, hmem⟩
    exact ⟨arg, List.mem_cons_of_mem _ harg, hmem⟩
  | setting hspelled _ ih =>
    rcases List.mem_cons.mp hs with rfl | hs
    · cases hspelled <;> simp [hc]
    · rcases ih hs with ⟨arg, harg, hmem⟩
      exact ⟨arg, List.mem_append_right _ harg, hmem⟩

theorem Spells.mem_opts (hshort : Describes short t.opts) {args : List (List UInt8)}
    {ss : List Setting} (h : Spells t args ss) {s : Setting} (hs : s ∈ ss) : s.1 ∈ t.opts := by
  induction h with
  | done | stop => cases hs
  | other _ _ ih => exact ih hs
  | @setting s' elems args ss hspelled _ ih =>
    rcases List.mem_cons.mp hs with rfl | hs
    · exact (getoptLong_spelled hshort hspelled args).1
    · exact ih hs

/-- What a call returns where some settings are spelled: `EOF` if there are none, or
    the first of them, and the others are spelled by what is left. -/
theorem Spells.next (hshort : Describes short t.opts) {args : List (List UInt8)}
    {ss : List Setting} (h : Spells t args ss) :
    (ss = [] ∧ (getoptLong short t.opts ⟨[], args⟩).1.opt = eof) ∨
      ∃ o v i rest ss', ss = (o, v) :: ss' ∧ o ∈ t.opts ∧ getoptLong short t.opts ⟨[], args⟩ =
        (⟨o.val.toNat, some v, i⟩, ⟨[], rest⟩) ∧ (∀ k ∈ i, t.opts[k]? = some o) ∧
          Spells t rest ss' := by
  induction h with
  | done => exact .inl ⟨rfl, rfl⟩
  | stop =>
    refine .inl ⟨rfl, ?_⟩
    rw [getoptLong_element, if_neg (by simp), if_pos rfl]
  | other harg _ ih => rwa [getoptLong_other harg]
  | @setting s elems args ss hs hrest _ =>
    rcases s with ⟨o, v⟩
    rcases getoptLong_spelled hshort hs args with ⟨ho, i, hcall, hi⟩
    exact .inr ⟨o, v, i, args, ss, rfl, ho, hcall, hi, hrest⟩

/-- An argument list spells one list of settings. -/
theorem Spells.unique (hshort : Describes short t.opts) {args : List (List UInt8)}
    {ss ss' : List Setting} (h : Spells t args ss) (h' : Spells t args ss') : ss = ss' := by
  induction ss generalizing args ss' with
  | nil =>
    rcases h.next hshort with ⟨-, heof⟩ | ⟨_, _, _, _, _, hnil, -⟩
    · rcases h'.next hshort with ⟨hnil, -⟩ | ⟨o, v, i, rest, ss'', -, -, hcall, -⟩
      · exact hnil.symm
      · rw [hcall] at heof
        exact absurd heof (by simp [eof])
    · cases hnil
  | cons s ss ih =>
    rcases h.next hshort with ⟨hnil, -⟩ | ⟨o, v, i, rest, ss₁, hss, ho, hcall, -, hrest⟩
    · cases hnil
    · rcases h'.next hshort with ⟨-, heof⟩ | ⟨o', v', i', rest', ss₂, rfl, ho', hcall', -, hrest'⟩
      · rw [hcall] at heof
        exact absurd heof (by simp [eof])
      · cases hss
        rw [hcall] at hcall'
        simp only [Prod.mk.injEq, GetoptResult.mk.injEq, Getopt.mk.injEq, Int.ofNat_inj,
          UInt8.toNat_inj, Option.some.injEq, true_and] at hcall'
        rcases hcall' with ⟨⟨hval, rfl, -⟩, rfl⟩
        rw [ih hrest hrest', List.inj_on_of_nodup_map t.distinct ho ho' hval]

end Table

end DplanePlugin.Lib
