/-
  DplanePlugin/Lib/Prog.lean
  ==========================
  **Stateful programs that may stop, and what their runs are made of.**

  A `Prog ε S α` reads and writes a state `S` and ends with an `α` or with a
  reason `ε` for having stopped.  `Ends p s r s'` says that `p`, started in `s`,
  ends in `s'` with the result `r`; `Ran` and `Halts` are its two cases.  The
  state is kept when a program stops, so what an unfinished run did is still
  there to be spoken of.

  Every program former has one equation for `Ends`, tagged for `simp`, so that
  a run of a straight-line program unfolds into the states in between and a
  proof about it never unfolds the monad.

  `loop` is the C loop `while (body());` with a bound on its rounds.  A run of
  it is a chain of rounds that went on, and then one that did not, or stopped
  (`ends_loop`); a measure that every round lowers bounds the rounds it needs
  (`loop_reaches`).
-/
import Mathlib.Logic.Relation

namespace DplanePlugin.Lib

/-- Programs over the state `S` that may stop with a reason `ε`. -/
abbrev Prog (ε S α : Type) := ExceptT ε (StateM S) α

variable {ε S α β : Type}

/-- `p`, started in `s`, ends in the state `s'` with the result `r`. -/
def Ends (p : Prog ε S α) (s : S) (r : Except ε α) (s' : S) : Prop :=
  StateT.run (ExceptT.run p) s = (r, s')

/-- `p`, started in `s`, returns `a` in the state `s'`. -/
abbrev Ran (p : Prog ε S α) (s : S) (a : α) (s' : S) : Prop := Ends p s (.ok a) s'

/-- `p`, started in `s`, stops with the reason `e` in the state `s'`. -/
abbrev Halts (p : Prog ε S α) (s : S) (e : ε) (s' : S) : Prop := Ends p s (.error e) s'

/-! ### An equation for each program former -/

private theorem pair_iff (q r : Except ε α) (s s' : S) :
    ((q, s) : Except ε α × S) = (r, s') ↔ r = q ∧ s' = s := by
  rw [Prod.mk.injEq]
  exact and_congr eq_comm eq_comm

@[simp] theorem ends_pure (a : α) (r : Except ε α) (s s' : S) :
    Ends (pure a : Prog ε S α) s r s' ↔ r = .ok a ∧ s' = s :=
  pair_iff _ _ _ _

@[simp] theorem ends_throw (e : ε) (r : Except ε α) (s s' : S) :
    Ends (throw e : Prog ε S α) s r s' ↔ r = .error e ∧ s' = s :=
  pair_iff _ _ _ _

@[simp] theorem ends_get (r : Except ε S) (s s' : S) :
    Ends (get : Prog ε S S) s r s' ↔ r = .ok s ∧ s' = s :=
  pair_iff _ _ _ _

@[simp] theorem ends_set (t : S) (r : Except ε PUnit) (s s' : S) :
    Ends (set t : Prog ε S PUnit) s r s' ↔ r = .ok ⟨⟩ ∧ s' = t :=
  pair_iff _ _ _ _

@[simp] theorem ends_modify (f : S → S) (r : Except ε PUnit) (s s' : S) :
    Ends (modify f : Prog ε S PUnit) s r s' ↔ r = .ok ⟨⟩ ∧ s' = f s :=
  pair_iff _ _ _ _

/-- A bind ends where its first program stops, or where the rest ends. -/
theorem ends_bind (p : Prog ε S α) (f : α → Prog ε S β) (s : S) (r : Except ε β) (s'' : S) :
    Ends (p >>= f) s r s'' ↔
      (∃ a s', Ran p s a s' ∧ Ends (f a) s' r s'') ∨ (∃ e, Halts p s e s'' ∧ r = .error e) := by
  unfold Ran Halts Ends
  rw [ExceptT.run_bind, StateT.run_bind]
  obtain ⟨q, t⟩ := StateT.run (ExceptT.run p) s
  cases q with
  | ok a =>
    change StateT.run (ExceptT.run (f a)) t = (r, s'') ↔ _
    constructor
    · exact fun h => .inl ⟨a, t, rfl, h⟩
    · rintro (⟨a', t', ha, h⟩ | ⟨e, he, -⟩)
      · cases ha
        exact h
      · cases he
  | error e =>
    change (Except.error e, t) = (r, s'') ↔ _
    constructor
    · rintro h
      cases h
      exact .inr ⟨e, rfl, rfl⟩
    · rintro (⟨a, t', ha, -⟩ | ⟨e', he, rfl⟩)
      · cases ha
      · cases he
        rfl

theorem ran_bind (p : Prog ε S α) (f : α → Prog ε S β) (s : S) (b : β) (s'' : S) :
    Ran (p >>= f) s b s'' ↔ ∃ a s', Ran p s a s' ∧ Ran (f a) s' b s'' := by
  simp [Ran, ends_bind]

@[simp] theorem ends_map (f : α → β) (p : Prog ε S α) (s : S) (r : Except ε β) (s' : S) :
    Ends (f <$> p) s r s' ↔
      (∃ a, r = .ok (f a) ∧ Ran p s a s') ∨ (∃ e, r = .error e ∧ Halts p s e s') := by
  rw [← bind_pure_comp, ends_bind]
  simp only [ends_pure]
  constructor
  · rintro (⟨a, t, h, hr, rfl⟩ | ⟨e, h, hr⟩)
    · exact .inl ⟨a, hr, h⟩
    · exact .inr ⟨e, hr, h⟩
  · rintro (⟨a, hr, h⟩ | ⟨e, hr, h⟩)
    · exact .inl ⟨a, s', h, hr, rfl⟩
    · exact .inr ⟨e, h, hr⟩

@[simp] theorem ends_ite (c : Prop) [Decidable c] (p q : Prog ε S α) (s : S) (r : Except ε α)
    (s' : S) :
    Ends (if c then p else q) s r s' ↔ (c ∧ Ends p s r s') ∨ (¬ c ∧ Ends q s r s') := by
  by_cases h : c <;> simp [h]

/-! A bind whose first program is a primitive steps through it. -/

@[simp] theorem ends_get_bind (f : S → Prog ε S β) (s : S) (r : Except ε β) (s' : S) :
    Ends (get >>= f) s r s' ↔ Ends (f s) s r s' := by
  simp [ends_bind, and_assoc]

@[simp] theorem ends_set_bind (t : S) (f : PUnit → Prog ε S β) (s : S) (r : Except ε β) (s' : S) :
    Ends (set t >>= f) s r s' ↔ Ends (f ⟨⟩) t r s' := by
  constructor
  · intro h
    obtain ⟨_, _, hset, h⟩ | ⟨_, hset, -⟩ := (ends_bind _ _ _ _ _).mp h
    · obtain ⟨-, rfl⟩ := (ends_set _ _ _ _).mp hset
      exact h
    · exact nomatch ((ends_set _ _ _ _).mp hset).1
  · exact fun h => (ends_bind _ _ _ _ _).mpr (.inl ⟨_, _, (ends_set _ _ _ _).mpr ⟨rfl, rfl⟩, h⟩)

@[simp] theorem ends_modify_bind (g : S → S) (f : PUnit → Prog ε S β) (s : S) (r : Except ε β)
    (s' : S) :
    Ends (modify g >>= f) s r s' ↔ Ends (f ⟨⟩) (g s) r s' := by
  constructor
  · intro h
    obtain ⟨_, _, hmod, h⟩ | ⟨_, hmod, -⟩ := (ends_bind _ _ _ _ _).mp h
    · obtain ⟨-, rfl⟩ := (ends_modify _ _ _ _).mp hmod
      exact h
    · exact nomatch ((ends_modify _ _ _ _).mp hmod).1
  · exact fun h =>
      (ends_bind _ _ _ _ _).mpr (.inl ⟨_, _, (ends_modify _ _ _ _).mpr ⟨rfl, rfl⟩, h⟩)

/-- A program ends. -/
theorem ends_run (p : Prog ε S α) (s : S) :
    Ends p s (StateT.run (ExceptT.run p) s).1 (StateT.run (ExceptT.run p) s).2 := rfl

/-- A program ends in one way only. -/
theorem Ends.unique {p : Prog ε S α} {s : S} {q r : Except ε α} {t u : S}
    (h : Ends p s q t) (h' : Ends p s r u) : q = r ∧ t = u := by
  have hr : (q, t) = (r, u) := h.symm.trans h'
  simpa using hr

/-- A bind steps through a first program that returns. -/
theorem Ran.ends_bind {p : Prog ε S α} {s t : S} {a : α} (h : Ran p s a t) (f : α → Prog ε S β)
    (r : Except ε β) (s'' : S) : Ends (p >>= f) s r s'' ↔ Ends (f a) t r s'' := by
  rw [Lib.ends_bind]
  constructor
  · rintro (⟨b, u, hb, hrest⟩ | ⟨e, he, -⟩)
    · obtain ⟨hab, rfl⟩ := h.unique hb
      cases hab
      exact hrest
    · exact nomatch (h.unique he).1
  · exact fun hrest => .inl ⟨a, t, h, hrest⟩

theorem ran_pure (a : α) (s : S) : Ran (pure a : Prog ε S α) s a s :=
  (ends_pure _ _ _ _).mpr ⟨rfl, rfl⟩

theorem ran_modify (f : S → S) (s : S) : Ran (modify f : Prog ε S PUnit) s ⟨⟩ (f s) :=
  (ends_modify _ _ _ _).mpr ⟨rfl, rfl⟩

/-! ### Running on a part of the state -/

/-- `p`, run on a part of the state. -/
def onPart {T : Type} (part : S → T) (put : T → S → S) (p : Prog ε T α) : Prog ε S α :=
  ExceptT.mk fun s =>
    let (r, t) := StateT.run (ExceptT.run p) (part s)
    (r, put t s)

@[simp] theorem ends_onPart {T : Type} (part : S → T) (put : T → S → S) (p : Prog ε T α) (s : S)
    (r : Except ε α) (s' : S) :
    Ends (onPart part put p) s r s' ↔ ∃ t, Ends p (part s) r t ∧ s' = put t s := by
  cases hrun : StateT.run (ExceptT.run p) (part s) with
  | mk q t =>
    have honPart : StateT.run (ExceptT.run (onPart part put p)) s = (q, put t s) := by
      change (let (r, t) := StateT.run (ExceptT.run p) (part s); (r, put t s)) = _
      rw [hrun]
    simp only [Ends, honPart, hrun]
    constructor
    · rintro ⟨⟩
      exact ⟨t, rfl, rfl⟩
    · rintro ⟨_, ⟨⟩, rfl⟩
      rfl

/-- A program that returns does so whatever the reasons to stop are taken for. -/
theorem Ran.adapt {ε' : Type} {p : Prog ε S α} {s s' : S} {a : α} (h : Ran p s a s')
    (f : ε → ε') : Ran (ExceptT.adapt f p : Prog ε' S α) s a s' := by
  have hrun : StateT.run (ExceptT.run p) s = (.ok a, s') := h
  change (Except.mapError f (StateT.run (ExceptT.run p) s).1, (StateT.run (ExceptT.run p) s).2) = _
  rw [hrun]
  rfl

/-! ### Loops -/

/-- `while (body());`: rounds of `body` until one returns `false`, and at most
    `n` of them. -/
def loop (stop : ε) : Nat → Prog ε S Bool → Prog ε S Unit
  | 0, _ => throw stop
  | n + 1, body => do
    let goOn ← body
    if goOn then loop stop n body else pure ()

/-- One round of a loop that goes on. -/
def Round (body : Prog ε S Bool) (s s' : S) : Prop := Ran body s true s'

/-- A run of a loop is a chain of rounds that go on, up to one that does not, or
    that stops, or to the bound. -/
theorem ends_loop {stop : ε} {body : Prog ε S Bool} {n : Nat} {s s' : S} {r : Except ε Unit}
    (h : Ends (loop stop n body) s r s') :
    ∃ t, Relation.ReflTransGen (Round body) s t ∧
      ((r = .ok () ∧ Ran body t false s') ∨ (∃ e, r = .error e ∧ Halts body t e s') ∨
        (r = .error stop ∧ s' = t)) := by
  induction n generalizing s with
  | zero =>
    obtain ⟨hr, rfl⟩ := (ends_throw _ _ _ _).mp h
    exact ⟨_, .refl, .inr (.inr ⟨hr, rfl⟩)⟩
  | succ n ih =>
    simp only [loop, ends_bind, ends_ite, ends_pure] at h
    obtain ⟨goOn, s1, hbody, ⟨hgo, hrest⟩ | ⟨hgo, hr, rfl⟩⟩ | ⟨e, hbody, hr⟩ := h
    · subst hgo
      obtain ⟨t, hchain, hlast⟩ := ih hrest
      exact ⟨t, .head hbody hchain, hlast⟩
    · obtain rfl : goOn = false := by simpa using hgo
      exact ⟨s, .refl, .inl ⟨hr, hbody⟩⟩
    · exact ⟨s, .refl, .inr (.inl ⟨e, hr, hbody⟩)⟩

/-- What every round keeps holds after the rounds that went on. -/
theorem rounds_induct {body : Prog ε S Bool} {P : S → Prop}
    (hround : ∀ s s', P s → Ran body s true s' → P s') {s s' : S}
    (h : Relation.ReflTransGen (Round body) s s') (hs : P s) : P s' := by
  induction h with
  | refl => exact hs
  | tail _ hlast ih => exact hround _ _ ih hlast

/-- Loops whose rounds end alike end alike, where `P` holds of the states between
    the rounds. -/
theorem ends_loop_congr {stop : ε} {body body' : Prog ε S Bool} (P : S → Prop)
    (hround : ∀ s, P s → ∀ r s', Ends body s r s' ↔ Ends body' s r s')
    (hkeep : ∀ s s', P s → Ran body s true s' → P s') (n : Nat) {s : S} (hs : P s)
    (r : Except ε Unit) (s' : S) :
    Ends (loop stop n body) s r s' ↔ Ends (loop stop n body') s r s' := by
  induction n generalizing s with
  | zero => exact Iff.rfl
  | succ n ih =>
    rw [loop, loop, ends_bind, ends_bind]
    have hrest : ∀ goOn t, Ran body s goOn t →
        (Ends (if goOn then loop stop n body else pure ()) t r s' ↔
          Ends (if goOn then loop stop n body' else pure ()) t r s') := by
      intro goOn t hran
      cases goOn with
      | false => exact Iff.rfl
      | true => exact ih (hkeep s t hs hran)
    constructor
    · rintro (⟨goOn, t, hran, hlast⟩ | ⟨e, hhalts, hr⟩)
      · exact .inl ⟨goOn, t, (hround s hs _ _).mp hran, (hrest goOn t hran).mp hlast⟩
      · exact .inr ⟨e, (hround s hs _ _).mp hhalts, hr⟩
    · rintro (⟨goOn, t, hran, hlast⟩ | ⟨e, hhalts, hr⟩)
      · have hran' := (hround s hs _ _).mpr hran
        exact .inl ⟨goOn, t, hran', (hrest goOn t hran').mpr hlast⟩
      · exact .inr ⟨e, (hround s hs _ _).mpr hhalts, hr⟩

/-- A loop ends in `Q` if each of its rounds, started in `P`, ends it in `Q`, or keeps
    `P` and lowers `measure`. -/
theorem loop_reaches {stop : ε} {body : Prog ε S Bool} {P Q : S → Prop} (measure : S → Nat)
    (hbody : ∀ s, P s → (∃ s', Ran body s false s' ∧ Q s') ∨
      ∃ s', Ran body s true s' ∧ P s' ∧ measure s' < measure s)
    {n : Nat} {s : S} (hs : P s) (hn : measure s < n) :
    ∃ s', Ran (loop stop n body) s () s' ∧ Q s' := by
  induction n generalizing s with
  | zero => omega
  | succ n ih =>
    rcases hbody s hs with ⟨s', hran, hQ⟩ | ⟨s₁, hran, hP, hlt⟩
    · refine ⟨s', ?_, hQ⟩
      rw [loop, Ran, hran.ends_bind]
      exact (ends_pure _ _ _ _).mpr ⟨rfl, rfl⟩
    · rcases ih hP (by omega) with ⟨s', hrest, hQ⟩
      refine ⟨s', ?_, hQ⟩
      rw [loop, Ran, hran.ends_bind]
      exact hrest

end DplanePlugin.Lib
