/-
  DplanePlugin/Lib/Follows.lean
  =============================
  **Programs whose runs are paths of a transition system.**

  A transition system over control points and states (`conf f s`) is a coarser
  reading of a program when every run of the program is a path: a run that
  returns `a` leads from the control point `f` to `f' a`, one that stops leads
  from `f` to some control point.  `Follows` says so for the runs from one
  state; its rules follow the program formers, so that a proof of it reads like
  the program.
-/
import DplanePlugin.Lib.Prog

namespace DplanePlugin.Lib

open Relation

variable {ε S α β F C : Type} {step : C → C → Prop} {conf : F → S → C}

/-- A path leads from the control point `f` and the state `s` to where a run
    that ended with `r` in `s'` is: at `f' a` if it returned `a`. -/
def Leads (step : C → C → Prop) (conf : F → S → C) (f : F) (s : S) (f' : α → F) (r : Except ε α)
    (s' : S) : Prop :=
  match r with
  | .ok a => ReflTransGen step (conf f s) (conf (f' a) s')
  | .error _ => ∃ g, ReflTransGen step (conf f s) (conf g s')

theorem Leads.trans {f g : F} {s t : S} {f' : α → F} {r : Except ε α} {s' : S}
    (hpath : ReflTransGen step (conf f s) (conf g t)) (h : Leads step conf g t f' r s') :
    Leads step conf f s f' r s' := by
  cases r with
  | ok a => exact ReflTransGen.trans hpath h
  | error e =>
    obtain ⟨g', hrest⟩ := h
    exact ⟨g', hpath.trans hrest⟩

/-- Every run of `p` from `s` is a path of `step` from the control point `f`: to
    `f' a` where it returns `a`, and to any control point where it stops. -/
def Follows (step : C → C → Prop) (conf : F → S → C) (p : Prog ε S α) (f : F) (s : S)
    (f' : α → F) : Prop :=
  ∀ r s', Ends p s r s' → Leads step conf f s f' r s'

theorem Follows.returns {p : Prog ε S α} {f : F} {s : S} {f' : α → F}
    (h : Follows step conf p f s f') {a : α} {s' : S} (hran : Ran p s a s') :
    ReflTransGen step (conf f s) (conf (f' a) s') :=
  h _ _ hran

theorem Follows.stops {p : Prog ε S α} {f : F} {s : S} {f' : α → F}
    (h : Follows step conf p f s f') {e : ε} {s' : S} (hhalts : Halts p s e s') :
    ∃ g, ReflTransGen step (conf f s) (conf g s') :=
  h _ _ hhalts

/-- A program that only returns follows the path of its result. -/
theorem Follows.of_returns {p : Prog ε S α} {f : F} {s : S} {f' : α → F}
    (h : ∀ r s', Ends p s r s' → ∃ a, r = .ok a ∧ ReflTransGen step (conf f s) (conf (f' a) s')) :
    Follows step conf p f s f' := by
  intro r s' hends
  obtain ⟨a, rfl, hpath⟩ := h r s' hends
  exact hpath

theorem Follows.pure {a : α} {f : F} {s : S} {f' : α → F}
    (h : ReflTransGen step (conf f s) (conf (f' a) s)) :
    Follows step conf (Pure.pure a : Prog ε S α) f s f' :=
  .of_returns fun r s' hends => by
    obtain ⟨rfl, rfl⟩ := (ends_pure _ _ _ _).mp hends
    exact ⟨a, rfl, h⟩

/-- After some steps, the rest of a program is left. -/
theorem Follows.after {p q : Prog ε S α} {f g : F} {s t : S} {f' : α → F}
    (hpath : ReflTransGen step (conf f s) (conf g t))
    (hends : ∀ r s', Ends p s r s' → Ends q t r s')
    (h : Follows step conf q g t f') : Follows step conf p f s f' :=
  fun r s' hrun => (h r s' (hends r s' hrun)).trans hpath

/-- Steps that change no state come before the program. -/
theorem Follows.head {p : Prog ε S α} {f g : F} {s : S} {f' : α → F}
    (hstep : step (conf f s) (conf g s)) (h : Follows step conf p g s f') :
    Follows step conf p f s f' :=
  h.after (.single hstep) fun _ _ hrun => hrun

theorem Follows.bind {p : Prog ε S α} {k : α → Prog ε S β} {f : F} {s : S} {f' : α → F}
    {f'' : β → F} (hp : Follows step conf p f s f')
    (hk : ∀ a s', Ran p s a s' → Follows step conf (k a) (f' a) s' f'') :
    Follows step conf (p >>= k) f s f'' := by
  intro r s' hrun
  obtain ⟨a, t, hran, hrest⟩ | ⟨e, hhalts, rfl⟩ := (ends_bind _ _ _ _ _).mp hrun
  · exact (hk a t hran r s' hrest).trans (hp.returns hran)
  · exact hp.stops hhalts

theorem Follows.get_bind {k : S → Prog ε S β} {f : F} {s : S} {f' : β → F}
    (h : Follows step conf (k s) f s f') : Follows step conf (get >>= k) f s f' :=
  h.after .refl fun _ _ => (ends_get_bind _ _ _ _).mp

theorem Follows.ite {c : Prop} [Decidable c] {p q : Prog ε S α} {f : F} {s : S} {f' : α → F}
    (hp : c → Follows step conf p f s f') (hq : ¬ c → Follows step conf q f s f') :
    Follows step conf (if c then p else q) f s f' := by
  by_cases h : c
  · rw [if_pos h]
    exact hp h
  · rw [if_neg h]
    exact hq h

/-- A loop stays at its control point while it goes on. -/
theorem Follows.loop {stop : ε} {body : Prog ε S Bool} {n : Nat} {f g : F} {s : S}
    (hbody : ∀ s, Follows step conf body f s fun goOn => if goOn then f else g) :
    Follows step conf (loop stop n body) f s fun _ => g := by
  intro r s' hrun
  obtain ⟨t, hrounds, hlast⟩ := ends_loop hrun
  have hchain : ReflTransGen step (conf f s) (conf f t) := by
    refine rounds_induct (P := fun u => ReflTransGen step (conf f s) (conf f u)) ?_ hrounds .refl
    exact fun u u' hu hround => hu.trans ((hbody u).returns hround)
  obtain ⟨rfl, hran⟩ | ⟨e, rfl, hhalts⟩ | ⟨rfl, rfl⟩ := hlast
  · exact hchain.trans ((hbody t).returns hran)
  · exact Leads.trans hchain ((hbody t) _ _ hhalts)
  · exact ⟨f, hchain⟩

end DplanePlugin.Lib
