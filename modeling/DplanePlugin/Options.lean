/-
  DplanePlugin/Options.lean
  =========================
  **The plugin's options (`hh_dp_utils.c` and `module_init`).**

  `plugin_getopts` is generic: it builds the string of short options from the
  table of long ones, and calls a callback on every option that `getopt_long`
  finds.  For a table whose options all require an argument it returns 0 on
  exactly the argument lists that spell some settings which the callback takes.
  The plugin's two options set the socket paths.

  A null `load_args` is left out.
-/
import DplanePlugin.Lib.GetOpt
import DplanePlugin.SockPaths
import DplanePlugin.Tokenize

namespace DplanePlugin

open Lib

/-! ### The code -/

/-- Build short opts from long opts. -/
def buildShortOpts : List LongOption → List UInt8
  | [] => []
  | opt :: longOpts =>
    match opt.hasArg with
    | .requiredArgument => opt.val :: colon :: buildShortOpts longOpts
    | .optionalArgument => opt.val :: colon :: colon :: buildShortOpts longOpts
    | .noArgument => opt.val :: buildShortOpts longOpts

/-- Find the option that has the value `val`. -/
def findOpt (val : Int) (longOpts : List LongOption) : Option LongOption :=
  longOpts.find? fun opt => (opt.val.toNat : Int) == val

/-- The option that a result of `getopt_long` is about: a long option by its index, a
    short one by its value. -/
def hitOpt (longOpts : List LongOption) (r : GetoptResult) : Option LongOption :=
  match r.longindex with
  | some i => longOpts[i]?
  | none => findOpt r.opt longOpts

/-- `getopt_long`'s state, and the state of the callback. -/
structure Parsing (S : Type) where
  scan : Getopt
  rest : S

/-- `parse_opt_cb`. -/
abbrev ParseOptCb (ε S : Type) := Int → Option (List UInt8) → LongOption → Prog ε S Int

section
variable {ε S : Type} (stop : ε)

/-- The loop of `plugin_getopts`, with `n` rounds left. -/
def pluginGetoptsLoop (longOpts : List LongOption) (cb : ParseOptCb ε S) :
    Nat → Prog ε (Parsing S) Int
  | 0 => throw stop
  | n + 1 => do
    let p ← get
    let (r, scan) := getoptLong (buildShortOpts longOpts) longOpts p.scan
    set { p with scan := scan }
    if r.opt = eof then return 0
    else if r.opt = optUnk then return -1
    else
      match hitOpt longOpts r with
      | none => return -1
      | some hit =>
        if hit.hasArg = .requiredArgument ∧ r.optarg = none then return -1
        else
          let c ← onPart Parsing.rest (fun s p => { p with rest := s }) (cb r.opt r.optarg hit)
          if c ≠ 0 then return -1 else pluginGetoptsLoop longOpts cb n

/-- Parse plugin options. Every round that goes on takes an octet at least. -/
def pluginGetopts (argv : List (List UInt8)) (longOpts : List LongOption)
    (cb : ParseOptCb ε S) : Prog ε (Parsing S) Int := do
  modify fun p => { p with scan := ⟨[], argv.tail⟩ }
  pluginGetoptsLoop stop longOpts cb (Getopt.size ⟨[], argv.tail⟩ + 1)

/-- The state of `plugin_args_parse`: `struct plugin_args`, and what the options are
    parsed with. -/
structure ArgsParse (S : Type) where
  tok : Tokenizer
  parsing : Parsing S

/-- A function on `struct plugin_args`. -/
def onArgs {α : Type} (p : Tokenizing α) : Prog ε (ArgsParse S) α :=
  onPart ArgsParse.tok (fun t a => { a with tok := t }) (ExceptT.adapt (fun _ => stop) p)

/-- Main function to parse plugin args. -/
def pluginArgsParse (alloc : Nat → Bool) (argv0 argsStr : CString) (longOpts : List LongOption)
    (cb : ParseOptCb ε S) : Prog ε (ArgsParse S) Int := do
  let t ← onArgs stop (pluginArgsTokenize alloc maxArgs argv0 argsStr)
  if t ≠ 0 then return -1
  else
    let a ← get
    let r ← onPart ArgsParse.parsing (fun p a => { a with parsing := p })
      (pluginGetopts stop a.tok.argv longOpts cb)
    onArgs stop pluginArgsFree
    return r

end

/-- `local-dp-sock-path`, `l`. -/
def localDpSockPath : LongOption where
  name := [108, 111, 99, 97, 108, 45, 100, 112, 45, 115, 111, 99, 107, 45, 112, 97, 116, 104]
  hasArg := .requiredArgument
  val := 108

/-- `remote-dp-sock-path`, `r`. -/
def remoteDpSockPath : LongOption where
  name := [114, 101, 109, 111, 116, 101, 45, 100, 112, 45, 115, 111, 99, 107, 45, 112, 97, 116, 104]
  hasArg := .requiredArgument
  val := 114

/-- `plugin_long_opts`. -/
def pluginLongOpts : OptionTable where
  opts := [localDpSockPath, remoteDpSockPath]
  required := by decide
  distinct := by decide
  chars := by decide

variable {σ : Type}

/-- Main processor of plugin options. -/
def processPluginOpt : ParseOptCb Halt (World σ) := fun opt optArg _ =>
  if opt = 0 then return 0
  else if opt = 108 then
    match optArg with
    | none => return -1
    | some path => setDpSockLocalPath (.ofBuffer path)
  else if opt = 114 then
    match optArg with
    | none => return -1
    | some path => setDpSockRemotePath (.ofBuffer path)
  else return -1

/-- Module entry point. -/
def moduleInit (alloc : Nat → Bool) (argsStr : CString) : Prog Halt (ArgsParse (World σ)) Int := do
  let r ← pluginArgsParse .outOfFuel alloc pluginName argsStr pluginLongOpts.opts processPluginOpt
  if r ≠ 0 then return 1 else return 0

/-! ### Short options -/

theorem shortArg_of_ne {c d : UInt8} (h : d ≠ c) (short : List UInt8) :
    shortArg (d :: short) c = shortArg short c := by
  simp [shortArg, h]

/-- The short options say what the table does. -/
theorem describes_buildShortOpts {opts : List LongOption}
    (h : ∀ o ∈ opts, o.val ≠ colon ∧ o.val ≠ semicolon) :
    Describes (buildShortOpts opts) opts := by
  intro c
  by_cases hc : c = colon ∨ c = semicolon
  · have hnone : (opts.find? fun o => o.val == c) = none := by
      rw [List.find?_eq_none]
      intro o ho hval
      obtain rfl : o.val = c := by simpa using hval
      exact hc.elim (h o ho).1 (h o ho).2
    rw [hnone, shortArg, if_pos hc]
    rfl
  have hcolon : colon ≠ c := fun heq => hc (.inl heq.symm)
  induction opts with
  | nil => simp [shortArg, buildShortOpts, hc]
  | cons opt opts ih =>
    have ih := ih fun o ho => h o (List.mem_cons_of_mem _ ho)
    by_cases hval : opt.val = c
    · subst hval
      have hhead : (buildShortOpts opts).head? ≠ some colon := by
        cases opts with
        | nil => simp [buildShortOpts]
        | cons o opts =>
          have ho := (h o (by simp)).1
          cases hopt : o.hasArg <;> simp [buildShortOpts, hopt, ho]
      cases hopt : opt.hasArg <;> simp [shortArg, buildShortOpts, hopt, hc, hhead]
    · rw [List.find?_cons_of_neg (by simpa using hval), ← ih]
      cases hopt : opt.hasArg <;>
        simp [buildShortOpts, hopt, shortArg_of_ne hval, shortArg_of_ne hcolon]

/-- The buffer for the short options has room for three octets an option. -/
theorem length_buildShortOpts_le (opts : List LongOption) :
    (buildShortOpts opts).length ≤ 3 * opts.length := by
  induction opts with
  | nil => exact Nat.le_refl _
  | cons opt opts ih =>
    cases hopt : opt.hasArg <;> simp [buildShortOpts, hopt] <;> omega

theorem describes_table (t : OptionTable) : Describes (buildShortOpts t.opts) t.opts := by
  apply describes_buildShortOpts
  intro o ho
  have hval := t.chars o ho
  simp only [List.mem_cons, not_or] at hval
  exact ⟨hval.2.1, hval.2.2.1⟩

/-! ### `plugin_getopts` -/

section
variable {ε S : Type} (stop : ε) (cb : ParseOptCb ε S)

/-- The callback takes the settings, one after the other. -/
inductive Takes : List Setting → S → S → Prop
  | nil {s : S} : Takes [] s s
  | cons {o : LongOption} {v : List UInt8} {ss : List Setting} {s s₁ s' : S} :
      Ran (cb o.val.toNat (some v) o) s 0 s₁ → Takes ss s₁ s' → Takes ((o, v) :: ss) s s'

theorem ends_pluginGetoptsLoop_eof {longOpts : List LongOption} {n : Nat} {p p' : Parsing S}
    {r : Except ε Int}
    (h : (getoptLong (buildShortOpts longOpts) longOpts p.scan).1.opt = eof) :
    Ends (pluginGetoptsLoop stop longOpts cb (n + 1)) p r p' ↔ r = .ok 0 ∧
      p' = { p with scan := (getoptLong (buildShortOpts longOpts) longOpts p.scan).2 } := by
  rw [pluginGetoptsLoop, ends_get_bind]
  simp [h]

theorem ends_pluginGetoptsLoop_unk {longOpts : List LongOption} {n : Nat} {p p' : Parsing S}
    {r : Except ε Int}
    (h : (getoptLong (buildShortOpts longOpts) longOpts p.scan).1.opt = optUnk) :
    Ends (pluginGetoptsLoop stop longOpts cb (n + 1)) p r p' ↔ r = .ok (-1) ∧
      p' = { p with scan := (getoptLong (buildShortOpts longOpts) longOpts p.scan).2 } := by
  rw [pluginGetoptsLoop, ends_get_bind]
  simp [h, eof, optUnk]

/-- A round that finds a setting calls the callback with the option of the table: both
    of the branches that report a bug are dead. -/
theorem ends_pluginGetoptsLoop_setting {t : OptionTable} {n : Nat} {p p' : Parsing S}
    {r : Except ε Int} {o : LongOption} {v : List UInt8} {i : Option Nat} {scan : Getopt}
    (ho : o ∈ t.opts)
    (h : getoptLong (buildShortOpts t.opts) t.opts p.scan = (⟨o.val.toNat, some v, i⟩, scan))
    (hi : ∀ k ∈ i, t.opts[k]? = some o) :
    Ends (pluginGetoptsLoop stop t.opts cb (n + 1)) p r p' ↔
      Ends (do
        let c ← onPart Parsing.rest (fun s p => { p with rest := s })
          (cb o.val.toNat (some v) o)
        if c ≠ 0 then return -1 else pluginGetoptsLoop stop t.opts cb n)
      { p with scan := scan } r p' := by
  have hval := t.chars o ho
  have hunk : ¬ (o.val.toNat : Int) = optUnk := by
    intro heq
    apply hval
    have hnat : o.val.toNat = (63 : UInt8).toNat := Int.ofNat_inj.mp heq
    simp [UInt8.toNat_inj.mp hnat]
  have hhit : hitOpt t.opts ⟨o.val.toNat, some v, i⟩ = some o := by
    cases i with
    | some k => exact hi k rfl
    | none =>
      have hsame (p : LongOption) : ((p.val.toNat : Int) == o.val.toNat) = (p.val == o.val) := by
        rw [Bool.eq_iff_iff, beq_iff_eq, beq_iff_eq, Int.ofNat_inj, UInt8.toNat_inj]
      rw [hitOpt, findOpt]
      simp only [hsame]
      exact OptionTable.find_val ho
  rw [pluginGetoptsLoop, ends_get_bind, h]
  dsimp only
  rw [ends_set_bind, if_neg (by simp [eof]), if_neg hunk, hhit]
  simp

/-- The loop returns 0 or -1 for any table, if the callback returns, and leaves the
    state of the callback as the callback does. -/
theorem pluginGetoptsLoop_returns {P : S → Prop}
    (hcb : ∀ opt arg o s, P s → ∃ r s', Ran (cb opt arg o) s r s' ∧ P s')
    (longOpts : List LongOption) {n : Nat} {p : Parsing S} (hn : p.scan.size < n) (hp : P p.rest) :
    ∃ r p', Ran (pluginGetoptsLoop stop longOpts cb n) p r p' ∧ (r = 0 ∨ r = -1) ∧ P p'.rest := by
  induction n generalizing p with
  | zero => omega
  | succ n ih =>
    have hsize := size_getoptLong_lt (buildShortOpts longOpts) longOpts p.scan
    rw [pluginGetoptsLoop]
    simp only [Ran, ends_get_bind]
    generalize getoptLong (buildShortOpts longOpts) longOpts p.scan = call at hsize ⊢
    rcases call with ⟨res, scan⟩
    simp only [ends_set_bind]
    have hfail : ∃ r p', Ends (pure (-1) : Prog ε (Parsing S) Int) { p with scan := scan } (.ok r) p' ∧
        (r = 0 ∨ r = -1) ∧ P p'.rest :=
      ⟨-1, _, ran_pure _ _, .inr rfl, hp⟩
    by_cases heof : res.opt = eof
    · rw [if_pos heof]
      exact ⟨0, _, ran_pure _ _, .inl rfl, hp⟩
    rw [if_neg heof]
    by_cases hunk : res.opt = optUnk
    · rw [if_pos hunk]
      exact hfail
    rw [if_neg hunk]
    cases hitOpt longOpts res with
    | none => exact hfail
    | some hit =>
      dsimp only
      split
      · exact hfail
      · rcases hcb res.opt res.optarg hit p.rest hp with ⟨c, s', hran, hs'⟩
        have hcall : Ran (onPart Parsing.rest (fun s p => { p with rest := s })
            (cb res.opt res.optarg hit)) { p with scan := scan } c ⟨scan, s'⟩ :=
          (ends_onPart _ _ _ _ _ _).mpr ⟨s', hran, rfl⟩
        simp only [hcall.ends_bind]
        split
        · exact ⟨-1, _, ran_pure _ _, .inr rfl, hs'⟩
        · have hlt : scan.size < p.scan.size := hsize heof
          exact ih (p := ⟨scan, s'⟩) (by exact Nat.lt_of_lt_of_le hlt (Nat.le_of_lt_succ hn)) hs'

/-- With the rounds it needs, the loop returns 0 on the argument lists that spell some
    settings that the callback takes, and on no others. -/
theorem pluginGetoptsLoop_zero_iff (t : OptionTable) {n : Nat} {args : List (List UInt8)}
    (hn : Getopt.size ⟨[], args⟩ < n) (s s' : S) :
    (∃ scan', Ran (pluginGetoptsLoop stop t.opts cb n) ⟨⟨[], args⟩, s⟩ 0 ⟨scan', s'⟩) ↔
      ∃ ss, Spells t args ss ∧ Takes cb ss s s' := by
  have hshort := describes_table t
  induction n generalizing args s with
  | zero => omega
  | succ n ih =>
    have hsize := size_getoptLong_lt (buildShortOpts t.opts) t.opts ⟨[], args⟩
    constructor
    · rintro ⟨scan', hran⟩
      rcases getoptLong_cases hshort args with ⟨heof, hnone⟩ | hunk | hreads
      · rcases (ends_pluginGetoptsLoop_eof _ _ heof).mp hran with ⟨-, hlast⟩
        cases hlast
        exact ⟨[], hnone, .nil⟩
      · cases ((ends_pluginGetoptsLoop_unk _ _ hunk).mp hran).1
      · rcases hreads.first hshort with ⟨o, v, i, rest, ho, hcall, hi, hspells⟩
        rw [hcall] at hsize
        have hlt : Getopt.size ⟨[], rest⟩ < Getopt.size ⟨[], args⟩ := hsize (by simp [eof])
        rw [Ran, ends_pluginGetoptsLoop_setting _ _ ho hcall hi] at hran
        rcases (ran_bind _ _ _ _ _).mp hran with ⟨c, p₁, honPart, hrest⟩
        rcases (ends_onPart _ _ _ _ _ _).mp honPart with ⟨s₁, htake, rfl⟩
        by_cases hc : c = 0
        · subst hc
          rw [if_neg (by simp)] at hrest
          rcases (ih (by omega) s₁).mp ⟨scan', hrest⟩ with ⟨ss, hss, htakes⟩
          exact ⟨(o, v) :: ss, hspells ss hss, .cons htake htakes⟩
        · rw [if_pos hc] at hrest
          cases ((ends_pure _ _ _ _).mp hrest).1
    · rintro ⟨ss, hss, htakes⟩
      rcases hss.next hshort with ⟨rfl, heof⟩ | ⟨o, v, i, rest, ss', rfl, ho, hcall, hi, hrest⟩
      · cases htakes
        exact ⟨_, (ends_pluginGetoptsLoop_eof _ _ heof).mpr ⟨rfl, rfl⟩⟩
      · rw [hcall] at hsize
        have hlt : Getopt.size ⟨[], rest⟩ < Getopt.size ⟨[], args⟩ := hsize (by simp [eof])
        cases htakes with
        | @cons _ _ _ _ s₁ _ htake htakes =>
          rcases (ih (by omega) s₁).mpr ⟨ss', hrest, htakes⟩ with ⟨scan', hlast⟩
          have honPart : Ran (onPart Parsing.rest (fun s p => { p with rest := s })
              (cb o.val.toNat (some v) o)) (⟨⟨[], rest⟩, s⟩ : Parsing S) 0 ⟨⟨[], rest⟩, s₁⟩ :=
            (ends_onPart _ _ _ _ _ _).mpr ⟨s₁, htake, rfl⟩
          refine ⟨scan', ?_⟩
          rw [Ran, ends_pluginGetoptsLoop_setting _ _ ho hcall hi, honPart.ends_bind]
          exact hlast

end

/-! ### `plugin_args_parse` and `module_init` -/

/-- The arguments that the tokenizer leaves after `argv[0]`. -/
def argsOf (argsStr : CString) : List (List UInt8) :=
  (tokens isDelim argsStr.octets).take (maxArgs - 2)

/-- With memory for every string, parsing is parsing the tokens there is room for. -/
theorem ran_pluginArgsParse {ε S : Type} (stop : ε) {alloc : Nat → Bool}
    (halloc : ∀ k, alloc k = true) (argv0 argsStr : CString) (longOpts : List LongOption)
    (cb : ParseOptCb ε S) (a : ArgsParse S) :
    ∃ tok, ∀ r a', Ran (pluginArgsParse stop alloc argv0 argsStr longOpts cb) a r a' ↔
      ∃ p', Ran (pluginGetopts stop (argv0.octets :: argsOf argsStr) longOpts cb) a.parsing r p' ∧
        a' = ⟨tok, p'⟩ := by
  rcases ran_pluginArgsTokenize halloc (Nat.le_refl maxArgs) argv0 argsStr a.tok with
    ⟨t, htok, hargv⟩
  have hargs : Ran (onArgs stop (pluginArgsTokenize alloc maxArgs argv0 argsStr)) a 0
      { a with tok := t } :=
    (ends_onPart _ _ _ _ _ _).mpr ⟨t, htok.adapt _, rfl⟩
  have hfree (p' : Parsing S) : Ran (onArgs stop pluginArgsFree) ⟨t, p'⟩ ()
      ⟨{ t with argv := [] }, p'⟩ := by
    have hran : Ran pluginArgsFree t () { t with argv := [] } := ran_modify _ _
    exact (ends_onPart _ _ _ _ _ _).mpr ⟨_, hran.adapt _, rfl⟩
  refine ⟨{ t with argv := [] }, ?_⟩
  intro r a'
  rw [pluginArgsParse, Ran, hargs.ends_bind, if_neg (by simp), ends_get_bind, hargv]
  constructor
  · intro hran
    rcases (ran_bind _ _ _ _ _).mp hran with ⟨c, a₁, hparse, hrest⟩
    rcases (ends_onPart _ _ _ _ _ _).mp hparse with ⟨p', hgetopts, rfl⟩
    rw [Ran, (hfree p').ends_bind, ends_pure] at hrest
    rcases hrest with ⟨hr, rfl⟩
    cases hr
    exact ⟨p', hgetopts, rfl⟩
  · rintro ⟨p', hgetopts, rfl⟩
    have hparse := (ends_onPart ArgsParse.parsing (fun p a => { a with parsing := p }) _
      { a with tok := t } _ _).mpr ⟨p', hgetopts, rfl⟩
    exact (Ran.ends_bind hparse _ _ _).mpr (((hfree p').ends_bind _ _ _).mpr (ran_pure _ _))

theorem ran_processPluginOpt {o : LongOption} (ho : o ∈ pluginLongOpts.opts) (v : List UInt8)
    (w w' : World σ) (r : Int) :
    Ran (processPluginOpt o.val.toNat (some v) o) w r w' ↔
      (o = localDpSockPath ∧ Ran (setDpSockLocalPath (.ofBuffer v)) w r w') ∨
      (o = remoteDpSockPath ∧ Ran (setDpSockRemotePath (.ofBuffer v)) w r w') := by
  have hne : remoteDpSockPath ≠ localDpSockPath := by decide
  rcases List.mem_pair.mp ho with rfl | rfl
  · have hset : processPluginOpt (σ := σ) localDpSockPath.val.toNat (some v) localDpSockPath =
        setDpSockLocalPath (.ofBuffer v) := by
      simp [processPluginOpt, localDpSockPath]
    simp [hset, hne.symm]
  · have hset : processPluginOpt (σ := σ) remoteDpSockPath.val.toNat (some v) remoteDpSockPath =
        setDpSockRemotePath (.ofBuffer v) := by
      simp [processPluginOpt, remoteDpSockPath]
    simp [hset, hne]

theorem Configured.set {w : World σ} (h : Configured w) (path : CString) :
    (∃ r w', Ran (setDpSockLocalPath path) w r w' ∧ Configured w') ∧
      ∃ r w', Ran (setDpSockRemotePath path) w r w' ∧ Configured w' := by
  cases hvalid : isValidUnixPath path with
  | true =>
    have hlocal := (ran_setDpSockLocalPath path w 0 _).mpr (.inl ⟨hvalid, rfl, rfl⟩)
    have hremote := (ran_setDpSockRemotePath path w 0 _).mpr (.inl ⟨hvalid, rfl, rfl⟩)
    exact ⟨⟨0, _, hlocal, h.localPath hlocal⟩, 0, _, hremote, h.remotePath hremote⟩
  | false =>
    have hlocal := (ran_setDpSockLocalPath path w (-1) _).mpr (.inr ⟨hvalid, rfl, rfl⟩)
    have hremote := (ran_setDpSockRemotePath path w (-1) _).mpr (.inr ⟨hvalid, rfl, rfl⟩)
    exact ⟨⟨-1, _, hlocal, h⟩, -1, _, hremote, h⟩

theorem Configured.processPluginOpt {w : World σ} (h : Configured w) (opt : Int)
    (arg : Option (List UInt8)) (o : LongOption) :
    ∃ r w', Ran (processPluginOpt opt arg o) w r w' ∧ Configured w' := by
  have hret (r : Int) : ∃ r' w', Ran (pure r : Plugin σ Int) w r' w' ∧ Configured w' :=
    ⟨r, w, ran_pure _ _, h⟩
  unfold DplanePlugin.processPluginOpt
  split
  · exact hret 0
  split
  · cases arg with
    | none => exact hret (-1)
    | some path => exact (h.set (.ofBuffer path)).1
  split
  · cases arg with
    | none => exact hret (-1)
    | some path => exact (h.set (.ofBuffer path)).2
  · exact hret (-1)

/-- The last path that is set for an option, or what was there. -/
def lastPath (o : LongOption) : List Setting → List UInt8 → List UInt8
  | [], old => old
  | s :: ss, old => lastPath o ss (if s.1 = o then s.2 else old)

/-- A setting of the plugin's, with a path that is no longer than a string. -/
structure PluginSetting (s : Setting) : Prop where
  opt : s.1 ∈ pluginLongOpts.opts
  noNul : 0 ∉ s.2

/-- A path that `is_valid_unix_path` accepts. -/
def ValidPath (path : List UInt8) : Prop := path ≠ [] ∧ path.length ≤ maxSunPath

theorem ofBuffer_octets {path : List UInt8} (h : 0 ∉ path) :
    (CString.ofBuffer path).octets = path := by
  apply List.takeWhile_eq_self_iff.mpr
  intro c hc
  rw [decide_eq_true_eq]
  rintro rfl
  exact h hc

theorem isValidUnixPath_ofBuffer_iff {path : List UInt8} (h : 0 ∉ path) :
    isValidUnixPath (.ofBuffer path) = true ↔ ValidPath path := by
  rw [isValidUnixPath_iff, CString.strlen, ofBuffer_octets h, ValidPath, ne_eq,
    List.length_eq_zero_iff]

/-- What one setting does: it is taken if its path is valid, and the option's buffer
    reads back as that path. -/
theorem takes_setting {s : Setting} (hs : PluginSetting s) {w : World σ} (hw : Configured w) :
    (ValidPath s.2 → ∃ w', Ran (processPluginOpt s.1.val.toNat (some s.2) s.1) w 0 w') ∧
    ∀ w', Ran (processPluginOpt s.1.val.toNat (some s.2) s.1) w 0 w' →
      ValidPath s.2 ∧ Configured w' ∧
        content w'.pluginSockPath =
          (if s.1 = localDpSockPath then s.2 else content w.pluginSockPath) ∧
        content w'.dpSockPath =
          (if s.1 = remoteDpSockPath then s.2 else content w.dpSockPath) := by
  have hvalid := isValidUnixPath_ofBuffer_iff hs.noNul
  have hread {buf : PathBuf} (hbuf : TerminatedAt maxSunPath buf) (hv : ValidPath s.2) :
      content (strncpy buf (.ofBuffer s.2) maxSunPath) = s.2 := by
    rw [content_strncpy (by rw [CString.strlen, ofBuffer_octets hs.noNul]; exact hv.2) hbuf,
      ofBuffer_octets hs.noNul]
  have hne : remoteDpSockPath ≠ localDpSockPath := by decide
  constructor
  · intro hv
    rcases List.mem_pair.mp hs.opt with ho | ho
    · exact ⟨_, (ran_processPluginOpt hs.opt _ _ _ _).mpr (.inl ⟨ho,
        (ran_setDpSockLocalPath _ _ _ _).mpr (.inl ⟨hvalid.mpr hv, rfl, rfl⟩)⟩)⟩
    · exact ⟨_, (ran_processPluginOpt hs.opt _ _ _ _).mpr (.inr ⟨ho,
        (ran_setDpSockRemotePath _ _ _ _).mpr (.inl ⟨hvalid.mpr hv, rfl, rfl⟩)⟩)⟩
  · intro w' hran
    rcases (ran_processPluginOpt hs.opt _ _ _ _).mp hran with ⟨ho, hset⟩ | ⟨ho, hset⟩
    · have hconf := hw.localPath hset
      rcases (ran_setDpSockLocalPath _ _ _ _).mp hset with ⟨hok, -, rfl⟩ | ⟨-, hfail, -⟩
      · refine ⟨hvalid.mp hok, hconf, ?_, ?_⟩
        · rw [if_pos ho]
          exact hread hw.terminated.1 (hvalid.mp hok)
        · rw [if_neg (by rw [ho]; exact hne.symm)]
      · cases hfail
    · have hconf := hw.remotePath hset
      rcases (ran_setDpSockRemotePath _ _ _ _).mp hset with ⟨hok, -, rfl⟩ | ⟨-, hfail, -⟩
      · refine ⟨hvalid.mp hok, hconf, ?_, ?_⟩
        · rw [if_neg (by rw [ho]; exact hne)]
        · rw [if_pos ho]
          exact hread hw.terminated.2 (hvalid.mp hok)
      · cases hfail

theorem takes_settings {ss : List Setting} (hss : ∀ s ∈ ss, PluginSetting s) {w : World σ}
    (hw : Configured w) :
    ((∃ w', Takes processPluginOpt ss w w') ↔ ∀ s ∈ ss, ValidPath s.2) ∧
    ∀ w', Takes processPluginOpt ss w w' →
      content w'.pluginSockPath = lastPath localDpSockPath ss (content w.pluginSockPath) ∧
        content w'.dpSockPath = lastPath remoteDpSockPath ss (content w.dpSockPath) := by
  induction ss generalizing w with
  | nil =>
    refine ⟨⟨by simp, fun _ => ⟨w, .nil⟩⟩, ?_⟩
    intro w' htakes
    cases htakes
    exact ⟨rfl, rfl⟩
  | cons s ss ih =>
    rcases takes_setting (hss s List.mem_cons_self) hw with ⟨hvalid, heffect⟩
    have hrest : ∀ s ∈ ss, PluginSetting s := fun s hs => hss s (List.mem_cons_of_mem _ hs)
    constructor
    · rw [List.forall_mem_cons]
      constructor
      · rintro ⟨w', htakes⟩
        cases htakes with
        | cons htake htakes =>
          rcases heffect _ htake with ⟨hv, hconf, -⟩
          exact ⟨hv, (ih hrest hconf).1.mp ⟨w', htakes⟩⟩
      · rintro ⟨hv, hvs⟩
        rcases hvalid hv with ⟨w₁, htake⟩
        rcases heffect _ htake with ⟨-, hconf, -⟩
        rcases (ih hrest hconf).1.mpr hvs with ⟨w', htakes⟩
        exact ⟨w', .cons htake htakes⟩
    · intro w' htakes
      cases htakes with
      | cons htake htakes =>
        rcases heffect _ htake with ⟨-, hconf, hlocal, hremote⟩
        rcases (ih hrest hconf).2 w' htakes with ⟨hlocals, hremotes⟩
        rw [hlocals, hremotes, hlocal, hremote]
        exact ⟨rfl, rfl⟩

theorem pluginSetting_of_spells {argsStr : CString} {ss : List Setting}
    (h : Spells pluginLongOpts (argsOf argsStr) ss) : ∀ s ∈ ss, PluginSetting s := by
  intro s hs
  refine ⟨h.mem_opts (describes_table pluginLongOpts) hs, ?_⟩
  intro hzero
  rcases h.octets hs hzero with ⟨arg, harg, hmem⟩
  exact argsStr.noNul (mem_of_mem_tokens _ (List.mem_of_mem_take harg) hmem)

/-- Whatever the argument string, `module_init` returns 0 or 1, and leaves a state that
    the options lead to.  It returns 0 if and only if the first `MAX_ARGS - 2` tokens
    of the string spell some settings, each with a valid path: by `-l` or `-r`, with
    the path attached or next, or by a long name or an abbreviation of it, with the
    path after a `=` or next, among other arguments, and up to a `--`.  The paths are
    then the last ones that were spelled, or as they were. -/
theorem module_init_accepts_iff {alloc : Nat → Bool} (halloc : ∀ k, alloc k = true)
    (argsStr : CString) {a : ArgsParse (World σ)} (ha : Configured a.parsing.rest) :
    ∃ r a', Ran (moduleInit alloc argsStr) a r a' ∧ (r = 0 ∨ r = 1) ∧
      Configured a'.parsing.rest ∧
      (r = 0 ↔ ∃ ss, Spells pluginLongOpts (argsOf argsStr) ss ∧ ∀ s ∈ ss, ValidPath s.2) ∧
      (r = 0 → ∀ ss, Spells pluginLongOpts (argsOf argsStr) ss →
        content a'.parsing.rest.pluginSockPath =
          lastPath localDpSockPath ss (content a.parsing.rest.pluginSockPath) ∧
        content a'.parsing.rest.dpSockPath =
          lastPath remoteDpSockPath ss (content a.parsing.rest.dpSockPath)) := by
  rcases ran_pluginArgsParse .outOfFuel halloc pluginName argsStr pluginLongOpts.opts
    processPluginOpt a with ⟨tok, hparse⟩
  have hsize : Getopt.size ⟨[], argsOf argsStr⟩ < Getopt.size ⟨[], argsOf argsStr⟩ + 1 :=
    Nat.lt_succ_self _
  have hgetopts (r : Int) (p' : Parsing (World σ)) :
      Ran (pluginGetopts .outOfFuel (pluginName.octets :: argsOf argsStr) pluginLongOpts.opts
        processPluginOpt) a.parsing r p' ↔
      Ran (pluginGetoptsLoop .outOfFuel pluginLongOpts.opts processPluginOpt
        (Getopt.size ⟨[], argsOf argsStr⟩ + 1)) ⟨⟨[], argsOf argsStr⟩, a.parsing.rest⟩ r p' := by
    rw [pluginGetopts, Ran, ends_modify_bind, List.tail_cons]
  rcases pluginGetoptsLoop_returns .outOfFuel _ (P := Configured)
    (fun opt arg o w hw => hw.processPluginOpt opt arg o) pluginLongOpts.opts
    (p := ⟨⟨[], argsOf argsStr⟩, a.parsing.rest⟩) hsize ha with ⟨c, p', hloop, hc, hconf⟩
  have hmodule : Ran (moduleInit alloc argsStr) a (if c ≠ 0 then 1 else 0) ⟨tok, p'⟩ := by
    have hran := (hparse c ⟨tok, p'⟩).mpr ⟨p', (hgetopts c p').mpr hloop, rfl⟩
    rw [moduleInit, Ran, hran.ends_bind]
    split <;> exact ran_pure _ _
  have hzero : (if c ≠ 0 then (1 : Int) else 0) = 0 ↔ c = 0 := by
    by_cases hc : c = 0 <;> simp [hc]
  have haccepts := pluginGetoptsLoop_zero_iff .outOfFuel processPluginOpt pluginLongOpts
    hsize a.parsing.rest
  refine ⟨_, ⟨tok, p'⟩, hmodule, ?_, hconf, ?_, ?_⟩
  · split
    · exact .inr rfl
    · exact .inl rfl
  · rw [hzero]
    constructor
    · rintro rfl
      rcases (haccepts p'.rest).mp ⟨p'.scan, hloop⟩ with ⟨ss, hss, htakes⟩
      exact ⟨ss, hss, (takes_settings (pluginSetting_of_spells hss) ha).1.mp ⟨_, htakes⟩⟩
    · rintro ⟨ss, hss, hvalid⟩
      rcases (takes_settings (pluginSetting_of_spells hss) ha).1.mpr hvalid with ⟨w', htakes⟩
      rcases (haccepts w').mpr ⟨ss, hss, htakes⟩ with ⟨scan', hran⟩
      exact Except.ok.inj (hloop.unique hran).1
  · intro hr ss hss
    obtain rfl := hzero.mp hr
    rcases (haccepts p'.rest).mp ⟨p'.scan, hloop⟩ with ⟨ss', hss', htakes⟩
    obtain rfl := hss.unique (describes_table pluginLongOpts) hss'
    exact (takes_settings (pluginSetting_of_spells hss) ha).2 _ htakes

/-- `-l /x --rem=/y`. -/
def twoPaths : CString where
  octets := [45, 108, 32, 47, 120, 32, 45, 45, 114, 101, 109, 61, 47, 121]
  noNul := by decide

theorem module_init_of_twoPaths :
    ∃ a', Ran (moduleInit (fun _ => true) twoPaths) ⟨⟨[], [], 0, 0⟩, ⟨⟨[], []⟩, dfltWorld⟩⟩ 0 a' ∧
      content a'.parsing.rest.pluginSockPath = [47, 120] ∧
      content a'.parsing.rest.dpSockPath = [47, 121] := by
  have hargs : argsOf twoPaths =
      [[dash, localDpSockPath.val], [47, 120]] ++
        ([dash :: dash :: ([114, 101, 109] ++ equals :: [47, 121])] ++ []) := by decide +kernel
  have hspells : Spells pluginLongOpts (argsOf twoPaths)
      [(localDpSockPath, [47, 120]), (remoteDpSockPath, [47, 121])] := by
    rw [hargs]
    exact .setting (.shortNext (by decide))
      (.setting (.long (i := 1) (by decide +kernel) (by decide)) .done)
  rcases module_init_accepts_iff (fun _ => rfl) twoPaths
    (a := ⟨⟨[], [], 0, 0⟩, ⟨⟨[], []⟩, dfltWorld⟩⟩) (.dflt _) with ⟨r, a', hran, -, -, hzero, hpaths⟩
  obtain rfl : r = 0 := by
    refine hzero.mpr ⟨_, hspells, ?_⟩
    unfold ValidPath
    decide
  rcases hpaths rfl _ hspells with ⟨hlocal, hremote⟩
  exact ⟨a', hran, hlocal, hremote⟩

end DplanePlugin
