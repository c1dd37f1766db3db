/-
  DplanePlugin/Tokenize.lean
  ==========================
  **Splitting the plugin's arguments.**

  `plugin_args_tokenize` pushes the tokens of the argument string one by one,
  looks at no result of `plugin_args_push`, and stops when there is no token
  left or `argv` is full.  Both stops return 0, so all arguments are there only
  if `argv` has room for them.
-/
import DplanePlugin.Lib.Prog
import DplanePlugin.Lib.Strtok

namespace DplanePlugin

open Lib

/-- `MAX_ARGS`. -/
def maxArgs : Nat := 64

/-- `DELIM`, a space. -/
def isDelim (c : UInt8) : Bool := c == 32

/-- What the tokenizer works on: the strings of `struct plugin_args`, its copy of
    the arguments, the position that `strtok_r` saves, and how many strings were
    duplicated. -/
structure Tokenizer where
  argv : List (List UInt8)
  dup : List UInt8
  saveptr : Nat
  strdups : Nat

def Tokenizer.argc (t : Tokenizer) : Nat := t.argv.length

/-- What `strtok_r` is called with next: the start of the copy while there is only
    `argv[0]`, and the saved position after that. -/
def Tokenizer.resume (t : Tokenizer) : Nat := if t.argc = 1 then 0 else t.saveptr

/-- The next call of `strtok_r`. -/
def Tokenizer.strtok (t : Tokenizer) : Strtok := strtokR t.dup t.resume isDelim

/-- Why the tokenizer has no result: the bound on its rounds was reached. -/
inductive Unfinished where
  | outOfRounds

abbrev Tokenizing (α : Type) := Prog Unfinished Tokenizer α

/-! ### The code -/

section
variable (alloc : Nat → Bool)

/-- `strdup`, where `alloc k` tells if the `k`-th one has memory. -/
def strdup (s : List UInt8) : Tokenizing (Option (List UInt8)) := do
  let t ← get
  set { t with strdups := t.strdups + 1 }
  return if alloc t.strdups then some s else none

/-- Free what was allocated for the arguments. -/
def pluginArgsFree : Tokenizing Unit :=
  modify fun t => { t with argv := [] }

/-- Push a token. -/
def pluginArgsPush (token : List UInt8) : Tokenizing Int := do
  let t ← get
  if t.argc ≥ maxArgs - 1 then return -1
  else do
    match ← strdup alloc token with
    | none => return -1
    | some tokdup =>
      modify fun t => { t with argv := t.argv ++ [tokdup] }
      return 0

def pluginArgsInit (argv0 : CString) : Tokenizing Int := do
  pluginArgsFree
  pluginArgsPush alloc argv0.octets

/-- A round of the loop: take a token, and push it.  It goes on after a token, as
    long as `argv` has room. -/
def tokenizeRound : Tokenizing Bool := do
  let t ← get
  set { t with dup := t.strtok.buf, saveptr := t.strtok.saveptr }
  match t.strtok.tok with
  | none => return false
  | some tok => do
    let _ ← pluginArgsPush alloc (strAt t.strtok.buf tok)
    let t ← get
    return decide (t.argc < maxArgs - 1)

/-- Populate the arguments from a string of them. -/
def pluginArgsTokenize (rounds : Nat) (argv0 argsStr : CString) : Tokenizing Int := do
  let _ ← pluginArgsInit alloc argv0
  if argsStr.strlen = 0 then return 0
  else do
    match ← strdup alloc argsStr.octets with
    | none => do
      pluginArgsFree
      return -1
    | some dup => do
      modify fun t => { t with dup := dup ++ [0] }
      loop .outOfRounds rounds (tokenizeRound alloc)
      return 0

end

/-! ### With memory for every string -/

section
variable {alloc : Nat → Bool} (halloc : ∀ k, alloc k = true)
include halloc

theorem ran_strdup (s : List UInt8) (t : Tokenizer) :
    Ran (strdup alloc s) t (some s) { t with strdups := t.strdups + 1 } := by
  simp [strdup, Ran, halloc]

/-- Pushing a token appends it, if there is room. -/
theorem ran_pluginArgsPush (token : List UInt8) {t : Tokenizer} (hroom : t.argc < maxArgs - 1) :
    Ran (pluginArgsPush alloc token) t 0
      { t with argv := t.argv ++ [token], strdups := t.strdups + 1 } := by
  have hfull : ¬ t.argc ≥ maxArgs - 1 := Nat.not_le_of_lt hroom
  rw [pluginArgsPush, Ran, ends_get_bind, if_neg hfull]
  rw [(ran_strdup halloc token t).ends_bind]
  simp

/-- The tokens that are left. -/
def Tokenizer.left (t : Tokenizer) : List (List UInt8) := tokens isDelim (strAt t.dup t.resume)

omit halloc in
/-- With no token left, a round ends the loop. -/
theorem ran_tokenizeRound_of_nil (alloc : Nat → Bool) {t : Tokenizer} (h : t.left = []) :
    Ran (tokenizeRound alloc) t false
      { t with dup := t.strtok.buf, saveptr := t.strtok.saveptr } := by
  have htok : t.strtok.tok = none := strtokR_of_nil h
  rw [tokenizeRound, Ran, ends_get_bind, ends_set_bind, htok, ends_pure]
  exact ⟨rfl, rfl⟩

/-- A round pushes the first token and leaves the others. -/
theorem ran_tokenizeRound_of_cons {t : Tokenizer} {tok : List UInt8} {toks : List (List UInt8)}
    (h : t.left = tok :: toks) (hinit : 1 ≤ t.argc) (hroom : t.argc < maxArgs - 1) :
    ∃ t', Ran (tokenizeRound alloc) t (decide (t.argc + 1 < maxArgs - 1)) t' ∧
      t'.argv = t.argv ++ [tok] ∧ t'.left = toks := by
  have hcall : ∃ start, t.strtok.tok = some start ∧ strAt t.strtok.buf start = tok ∧
      tokens isDelim (strAt t.strtok.buf t.strtok.saveptr) = toks := strtokR_of_cons h
  obtain ⟨start, htok, hread, hrest⟩ := hcall
  have hpush : Ran (pluginArgsPush alloc tok)
      ⟨t.argv, t.strtok.buf, t.strtok.saveptr, t.strdups⟩ 0
      ⟨t.argv ++ [tok], t.strtok.buf, t.strtok.saveptr, t.strdups + 1⟩ :=
    ran_pluginArgsPush halloc tok hroom
  have hargc : Tokenizer.argc ⟨t.argv ++ [tok], t.strtok.buf, t.strtok.saveptr, t.strdups + 1⟩
      = t.argc + 1 := List.length_append
  refine ⟨⟨t.argv ++ [tok], t.strtok.buf, t.strtok.saveptr, t.strdups + 1⟩, ?_, rfl, ?_⟩
  · rw [tokenizeRound, Ran, ends_get_bind, ends_set_bind, htok]
    dsimp only
    rw [hread, Ran.ends_bind hpush, ends_get_bind, ends_pure, hargc]
    exact ⟨rfl, rfl⟩
  · -- `argv` has more than `argv[0]` now, so the saved position is read
    rw [Tokenizer.left, Tokenizer.resume, hargc, if_neg (by omega)]
    exact hrest

/-- The loop pushes the tokens that are left, as far as there is room. -/
theorem ran_loop {n : Nat} {t : Tokenizer} (hinit : 1 ≤ t.argc) (hroom : t.argc < maxArgs - 1)
    (hn : maxArgs - 1 ≤ t.argc + n) :
    ∃ t', Ran (loop .outOfRounds n (tokenizeRound alloc)) t () t' ∧
      t'.argv = t.argv ++ t.left.take (maxArgs - 1 - t.argc) := by
  induction n generalizing t with
  | zero => omega
  | succ n ih =>
    cases hleft : t.left with
    | nil =>
      have hround := ran_tokenizeRound_of_nil alloc hleft
      refine ⟨_, (hround.ends_bind _ _ _).mpr ((ends_pure _ _ _ _).mpr ⟨rfl, rfl⟩), ?_⟩
      rw [List.take_nil, List.append_nil]
    | cons tok toks =>
      obtain ⟨t1, hround, hargv, hrest⟩ :=
        ran_tokenizeRound_of_cons halloc hleft hinit hroom
      have hargc : t1.argc = t.argc + 1 := by
        rw [Tokenizer.argc, hargv]
        exact List.length_append
      have hsucc : maxArgs - 1 - t.argc = (maxArgs - 1 - t1.argc) + 1 := by omega
      rw [hsucc, List.take_succ_cons]
      by_cases hmore : t.argc + 1 < maxArgs - 1
      · obtain ⟨t2, hloop, hlast⟩ := ih (t := t1) (by omega) (by omega) (by omega)
        rw [decide_eq_true hmore] at hround
        refine ⟨t2, (hround.ends_bind _ _ _).mpr hloop, ?_⟩
        rw [hlast, hargv, hrest, List.append_assoc]
        rfl
      · have hfull : maxArgs - 1 - t1.argc = 0 := by omega
        rw [decide_eq_false hmore] at hround
        refine ⟨t1, (hround.ends_bind _ _ _).mpr ((ends_pure _ _ _ _).mpr ⟨rfl, rfl⟩), ?_⟩
        rw [hfull, hargv]
        rfl

/-- What the tokenizer leaves in `argv`: the tokens of the string, as far as there
    is room. -/
theorem ran_pluginArgsTokenize {rounds : Nat} (hrounds : maxArgs ≤ rounds) (argv0 argsStr : CString)
    (t : Tokenizer) :
    ∃ t', Ran (pluginArgsTokenize alloc rounds argv0 argsStr) t 0 t' ∧
      t'.argv = argv0.octets :: (tokens isDelim argsStr.octets).take (maxArgs - 2) := by
  have hinit : Ran (pluginArgsInit alloc argv0) t 0
      { t with argv := [argv0.octets], strdups := t.strdups + 1 } := by
    rw [pluginArgsInit, pluginArgsFree, Ran, ends_modify_bind]
    exact ran_pluginArgsPush halloc argv0.octets (t := { t with argv := [] })
      (show 0 < maxArgs - 1 by decide)
  by_cases hempty : argsStr.strlen = 0
  · have hnil : argsStr.octets = [] := List.eq_nil_of_length_eq_zero hempty
    refine ⟨{ t with argv := [argv0.octets], strdups := t.strdups + 1 }, ?_, ?_⟩
    · rw [pluginArgsTokenize, Ran, Ran.ends_bind hinit, if_pos hempty, ends_pure]
      exact ⟨rfl, rfl⟩
    · rw [hnil]
      rfl
  · have hdup := ran_strdup halloc argsStr.octets
      { t with argv := [argv0.octets], strdups := t.strdups + 1 }
    have hroom : maxArgs - 1 ≤ 1 + rounds := by omega
    obtain ⟨t', hloop, hargv⟩ := ran_loop halloc (n := rounds)
      (t := ⟨[argv0.octets], argsStr.octets ++ [0], t.saveptr, t.strdups + 2⟩)
      (Nat.le_refl 1) (show 1 < maxArgs - 1 by decide) hroom
    refine ⟨t', ?_, ?_⟩
    · rw [pluginArgsTokenize, Ran, Ran.ends_bind hinit, if_neg hempty, Ran.ends_bind hdup]
      dsimp only
      rw [ends_modify_bind, Ran.ends_bind hloop, ends_pure]
      exact ⟨rfl, rfl⟩
    · rw [hargv]
      have hleft : strAt (argsStr.octets ++ [0]) 0 = argsStr.octets := content_append_zero _ _
      change [argv0.octets] ++ (tokens isDelim (strAt (argsStr.octets ++ [0]) 0)).take _ = _
      rw [hleft]
      rfl

/-- All of the arguments are in `argv`, or the tokenizer failed. -/
def Complete (argv0 argsStr : CString) (a : Int) (t : Tokenizer) : Prop :=
  (a = 0 ∧ t.argv = argv0.octets :: tokens isDelim argsStr.octets ∧ t.argc ≤ maxArgs - 1) ∨ a = -1

/-- The tokenizer is complete or fails if and only if there are at most
    `MAX_ARGS - 2` tokens. -/
theorem tokenize_complete_iff {rounds : Nat} (hrounds : maxArgs ≤ rounds) (argv0 argsStr : CString)
    (t : Tokenizer) :
    (∃ a t', Ran (pluginArgsTokenize alloc rounds argv0 argsStr) t a t' ∧
      Complete argv0 argsStr a t') ↔
    (tokens isDelim argsStr.octets).length ≤ maxArgs - 2 := by
  obtain ⟨t', hran, hargv⟩ := ran_pluginArgsTokenize halloc hrounds argv0 argsStr t
  constructor
  · rintro ⟨a, t'', hran', hcomplete⟩
    obtain ⟨ha, rfl⟩ := hran.unique hran'
    cases ha
    obtain ⟨-, hall, -⟩ | hfail := hcomplete
    · have htake := (List.cons.inj (hargv.symm.trans hall)).2
      have hlen := congrArg List.length htake
      rw [List.length_take] at hlen
      omega
    · exact absurd hfail (by decide)
  · intro hlen
    have hall := List.take_of_length_le hlen
    rw [hall] at hargv
    refine ⟨0, t', hran, .inl ⟨rfl, hargv, ?_⟩⟩
    rw [Tokenizer.argc, hargv, List.length_cons]
    exact Nat.succ_le_succ hlen

end

/-- `n` arguments of one letter, each after a space. -/
def manyArgs (n : Nat) : CString where
  octets := (List.replicate n [32, 97]).flatten
  noNul := by
    intro hmem
    obtain ⟨arg, harg, hzero⟩ := List.mem_flatten.mp hmem
    rw [List.eq_of_mem_replicate harg] at hzero
    revert hzero
    decide

/-- `PLUGIN_NAME`, `Hedgehog-GW-plugin`. -/
def pluginName : CString where
  octets := [72, 101, 100, 103, 101, 104, 111, 103, 45, 71, 87, 45, 112, 108, 117, 103, 105, 110]
  noNul := by decide

theorem tokenize_two_args :
    ∃ a t', Ran (pluginArgsTokenize (fun _ => true) maxArgs pluginName (manyArgs 2)) ⟨[], [], 0, 0⟩
      a t' ∧ Complete pluginName (manyArgs 2) a t' :=
  (tokenize_complete_iff (fun _ => rfl) (Nat.le_refl _) pluginName (manyArgs 2) _).mpr
    (by decide +kernel)

/-- Of `MAX_ARGS - 1` arguments the last one is dropped. -/
theorem argument_dropped :
    ¬ ∀ (argsStr : CString) (t : Tokenizer), ∃ a t',
      Ran (pluginArgsTokenize (fun _ => true) maxArgs pluginName argsStr) t a t' ∧
      Complete pluginName argsStr a t' := by
  intro hall
  obtain ⟨a, t'', hran', hcomplete⟩ := hall (manyArgs (maxArgs - 1)) ⟨[], [], 0, 0⟩
  have halloc : ∀ k : Nat, (fun _ : Nat => true) k = true := fun _ => rfl
  obtain ⟨t', hran, hargv⟩ := ran_pluginArgsTokenize halloc (Nat.le_refl maxArgs) pluginName
    (manyArgs (maxArgs - 1)) ⟨[], [], 0, 0⟩
  obtain ⟨ha, rfl⟩ := hran.unique hran'
  cases ha
  obtain ⟨-, hargs, -⟩ | hfail := hcomplete
  · have hlen := congrArg List.length (hargv.symm.trans hargs)
    revert hlen
    decide +kernel
  · exact absurd hfail (by decide)

end DplanePlugin
