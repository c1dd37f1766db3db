/-
  DplanePlugin/Answering.lean
  ===========================
  **Which response is being handled.**

  While `handle_rpc_response` runs, the log tells the response and the state it
  came in: the in-flight list is still the one of that state, or what the purge
  has left of it.  The log only grows, so a run can be followed as long as its
  log meets a condition (`Config.Reachable.induct_always`).
-/
import DplanePlugin.Lib.History
import DplanePlugin.Fifo

namespace DplanePlugin

open Lib

variable {σ : Type}

/-! ### What the purge logs -/

/-- The kinds of entries that handling a response adds before anything is sent. -/
def Obs.ofAnswer : Obs → Bool
  | .popped _ | .handedOff _ _ | .workReady | .recycleRefused _ _ => true
  | _ => false

/-- Since the entries before `log`, a response was only answered. -/
def OnlyAnswers (log : List Entry) : Prop := ∀ e ∈ log, e.obs.ofAnswer = true

theorem onlyAnswers_nil : OnlyAnswers [] := by
  intro e he
  cases he

theorem OnlyAnswers.append {log log' : List Entry} (h : OnlyAnswers log) (h' : OnlyAnswers log') :
    OnlyAnswers (log ++ log') :=
  List.forall_mem_append.mpr ⟨h, h'⟩

theorem onlyAnswers_refusal (w : World σ) (m : DpMsg) : OnlyAnswers (w.refusal m) := by
  intro e he
  rw [World.refusal] at he
  cases hctx : m.ctx with
  | none => simp [hctx] at he
  | some c =>
    simp only [hctx, List.mem_singleton] at he
    rw [he]
    rfl

theorem OnlyAnswers.sentMsgs {log : List Entry} (h : OnlyAnswers log) : sentMsgs log = [] := by
  apply List.filterMap_eq_nil_iff.mpr
  intro e he
  have hkind := h e he
  cases hobs : e.obs <;> simp_all [Obs.ofAnswer]

/-- From `log` to `log'`, a response was only answered. -/
def AnswersSince (log log' : List Entry) : Prop := ∃ new, log' = log ++ new ∧ OnlyAnswers new

theorem answersSince_refl (log : List Entry) : AnswersSince log log :=
  ⟨[], by simp, onlyAnswers_nil⟩

theorem AnswersSince.trans {l₁ l₂ l₃ : List Entry} (h : AnswersSince l₁ l₂)
    (h' : AnswersSince l₂ l₃) : AnswersSince l₁ l₃ := by
  rcases h with ⟨new, rfl, hnew⟩
  rcases h' with ⟨new', rfl, hnew'⟩
  exact ⟨new ++ new', List.append_assoc .., hnew.append hnew'⟩

theorem answersSince_concat {log : List Entry} {e : Entry} (he : e.obs.ofAnswer = true) :
    AnswersSince log (log ++ [e]) :=
  ⟨[e], rfl, List.forall_mem_singleton.mpr he⟩

section Actions
variable (w : World σ)

theorem answersSince_popFlight (m : DpMsg) (rest : List DpMsg) :
    AnswersSince w.log (w.popFlight m rest).log :=
  answersSince_concat rfl

theorem answersSince_handedOff (c : CtxRef) (st : ZebraResult) :
    AnswersSince w.log (w.handedOff c st).log :=
  (answersSince_concat rfl).trans (answersSince_concat rfl)

theorem answersSince_recycle (m : DpMsg) : AnswersSince w.log (w.recycle m).log :=
  ⟨_, rfl, onlyAnswers_refusal w m⟩

end Actions

/-! ### The calls that handle a response -/

/-- `resp` answers a Connect with another sync token than the stored one, `synt`. -/
def Restart (resp : RpcResponse) (synt : UInt64) : Prop :=
  resp.op = .connect ∧ synt ≠ 0 ∧ ∃ info, resp.objects = some info ∧ info.synt ≠ synt

theorem reportsRestart_iff (resp : RpcResponse) (synt : UInt64) :
    reportsRestart resp synt = true ↔ Restart resp synt := by
  rw [reportsRestart, Restart]
  cases resp.objects with
  | none => simp
  | some info => simp [and_assoc]

/-- What holds while a call runs: `handle_rpc_response` starts in the state that
    its log entry shows, and the purge has only answered requests since. -/
def Frame.Answers (w : World σ) : Frame → Prop
  | .handling resp v => v = w.view ∧ ∃ pre, w.log = pre ++ [⟨.response resp, v⟩]
  | .purging resp v => reportsRestart resp v.synt = true ∧
      ∃ pre post, w.log = pre ++ ⟨.response resp, v⟩ :: post ∧ OnlyAnswers post ∧
        v.inFlight = poppedMsgs post ++ w.inFlight
  | _ => True

/-- Every call in progress that handles a response knows it. -/
def Answering (s : Config σ) : Prop := ∀ f ∈ s.frames, f.Answers s.world

theorem Config.Initial.answering {s : Config σ} (h : s.Initial) : Answering s := by
  rcases h with ⟨_, _, os₀, os, sock, -, rfl⟩
  intro f hf
  rw [List.mem_singleton.mp hf]
  trivial

theorem Frame.answers_of_not {f : Frame} (hh : f.isHandling = false) (hp : f.isPurging = false)
    (w : World σ) : f.Answers w := by
  cases f with
  | handling resp v => cases hh
  | purging resp v => cases hp
  | _ => trivial

section Purge
variable {w : World σ} {resp : RpcResponse} {v : View}

/-- The purge goes on after it logged some more answers. -/
theorem Frame.Answers.purge {w' : World σ} {new : List Entry}
    (h : Frame.Answers w (.purging resp v)) (hlog : w'.log = w.log ++ new) (hnew : OnlyAnswers new)
    (hq : w.inFlight = poppedMsgs new ++ w'.inFlight) : Frame.Answers w' (.purging resp v) := by
  rcases h with ⟨hsynt, pre, post, heq, hpost, hflight⟩
  refine ⟨hsynt, pre, post ++ new, ?_, hpost.append hnew, ?_⟩
  · rw [hlog, heq, List.append_assoc, List.cons_append]
  · rw [hflight, hq, poppedMsgs_append, List.append_assoc]

theorem Frame.Answers.popFlight (h : Frame.Answers w (.purging resp v)) {m : DpMsg}
    {rest : List DpMsg} (hq : w.inFlight = m :: rest) :
    Frame.Answers (w.popFlight m rest) (.purging resp v) := by
  apply h.purge rfl (List.forall_mem_singleton.mpr rfl)
  rw [hq]
  rfl

theorem Frame.Answers.replied (h : Frame.Answers w (.purging resp v)) (m : DpMsg)
    (rescode : RpcResultCode) : Frame.Answers (w.replied m rescode) (.purging resp v) :=
  h

theorem Frame.Answers.handedOff (h : Frame.Answers w (.purging resp v)) (c : CtxRef)
    (st : ZebraResult) : Frame.Answers (w.handedOff c st) (.purging resp v) := by
  have hnew : OnlyAnswers ([⟨.handedOff c st, w.view⟩] ++ [⟨.workReady, w.view⟩]) :=
    OnlyAnswers.append (List.forall_mem_singleton.mpr rfl) (List.forall_mem_singleton.mpr rfl)
  exact h.purge (List.append_assoc ..) hnew rfl

theorem Frame.Answers.recycle (h : Frame.Answers w (.purging resp v)) (m : DpMsg) :
    Frame.Answers (w.recycle m) (.purging resp v) := by
  apply h.purge rfl (onlyAnswers_refusal w m)
  rw [poppedMsgs_refusal]
  rfl

end Purge

variable [Os σ]

/-- Below any call but the recycling of an answered Connect, no response is
    being handled. -/
theorem Config.Reachable.answers_below {f : Frame} {fs : List Frame} {w : World σ}
    (h : Config.Reachable ⟨f :: fs, w⟩) (hf : f.isAnswered = false) (w' : World σ) :
    ∀ g ∈ fs, g.Answers w' := by
  intro g hg
  rcases (List.pairwise_cons.mp h.stacked).1 g hg with ⟨-, -, hh, hp⟩
  apply Frame.answers_of_not hh
  rw [← Bool.not_eq_true]
  intro hpurging
  rw [hp hpurging] at hf
  cases hf

theorem Answering.act {s s' : Config σ} (hr : s.Reachable) (hi : Answering s) (h : Act s s') :
    Answering s' := by
  cases h with
  | response htype =>
    intro f hf
    rw [List.mem_singleton.mp hf]
    exact ⟨rfl, _, rfl⟩
  | @purge w resp v hsynt =>
    have hv := hi _ List.mem_cons_self
    rcases hv with ⟨hview, pre, hlog⟩
    intro f hf
    rw [List.mem_singleton.mp hf]
    refine ⟨?_, pre, [], hlog, onlyAnswers_nil, ?_⟩
    · rw [hview]
      exact hsynt
    · rw [hview]
      rfl
  | purged hq hop hctx =>
    have hpop := (hi _ List.mem_cons_self).popFlight hq
    intro f hf
    rw [List.mem_singleton.mp hf]
    exact ((hpop.replied _ _).handedOff _ _).recycle _
  | purgedOther hq hop hctx =>
    have hpop := (hi _ List.mem_cons_self).popFlight hq
    intro f hf
    rw [List.mem_singleton.mp hf]
    exact (hpop.replied _ _).recycle _
  | purgeAccepted hq hop hok =>
    have hpop := (hi _ List.mem_cons_self).popFlight hq
    exact List.forall_mem_cons.mpr ⟨trivial, List.forall_mem_singleton.mpr hpop⟩
  | @recycle w fs m =>
    intro f hf
    have hbelow := (List.pairwise_cons.mp hr.stacked).1 f hf
    have hkeep := hi f (List.mem_cons_of_mem _ hf)
    cases f with
    | handling resp v => cases hbelow.2.2.1
    | purging resp v => exact hkeep.recycle m
    | _ => trivial
  | pushBack =>
    intro f hf
    have hbelow := hr.answers_below rfl
    exact hbelow _ f (List.mem_cons_of_mem _ hf)
  | connected | sendDisconnected | popUnsent =>
    have hbelow := hr.answers_below rfl
    exact List.forall_mem_cons.mpr ⟨trivial, List.forall_mem_cons.mpr ⟨trivial, hbelow _⟩⟩
  | queueControl hfs halloc =>
    rcases hfs with rfl | ⟨msg, rfl⟩
    · exact List.forall_mem_singleton.mpr trivial
    · exact List.forall_mem_cons.mpr ⟨trivial, List.forall_mem_singleton.mpr trivial⟩
  | notSent | encodeFailed | sendBlocked | sendFailed | sendShort | sendDisconnectedTimer =>
    exact List.forall_mem_cons.mpr ⟨trivial, hr.answers_below rfl _⟩
  | _ =>
    -- a call returns, or no response is being handled
    first
      | exact hr.answers_below rfl _
      | simp [Answering, Frame.Answers]

theorem Config.Reachable.answering {s : Config σ} (h : s.Reachable) : Answering s :=
  h.induct (fun _ => Config.Initial.answering) fun _ _ hr hi => hi.act hr

/-- A response is handled in the state it came in. -/
theorem Config.Reachable.view_eq {resp : RpcResponse} {v : View} {w : World σ}
    (h : Config.Reachable ⟨[.handling resp v], w⟩) : v = w.view :=
  (h.answering _ List.mem_cons_self).1

/-! ### Runs whose log meets a condition -/

theorem Act.log_prefix {s s' : Config σ} (h : Act s s') : s.world.log <+: s'.world.log := by
  cases h with
  | refused hsock hpath hconnect he hreopen =>
    rcases dpUnixSockReopen_ends (by exact hsock) hreopen with ⟨-, sock, os', rfl⟩
    simp
  | _ => simp [List.append_assoc]

theorem Path.log_prefix {s s' : Config σ} (h : Path s s') : s.world.log <+: s'.world.log := by
  induction h with
  | refl => exact List.prefix_rfl
  | tail _ hlast ih => exact ih.trans hlast.log_prefix

/-- A program that leads along a path only adds to the log. -/
theorem log_prefix_of_leads {α : Type} {fs : List Frame} {w w' : World σ} {fs' : α → List Frame}
    {r : Except Halt α} (h : Leads Act Config.mk fs w fs' r w') : w.log <+: w'.log := by
  cases r with
  | ok a => exact Path.log_prefix h
  | error e =>
    rcases h with ⟨gs, hpath⟩
    exact Path.log_prefix hpath

/-- What holds initially, and is kept by every action whose log meets a condition,
    holds at the end of every run whose log meets it. -/
theorem Config.Reachable.induct_always {φ : List Entry → Entry → Prop} {I : Config σ → Prop}
    (hinit : ∀ s, s.Initial → I s)
    (hact : ∀ s s', s.Reachable → I s → Act s s' → Always φ s'.world.log → I s')
    {s : Config σ} (h : s.Reachable) (hlog : Always φ s.world.log) : I s := by
  have hgoal : Always φ s.world.log → I s := by
    apply h.induct (I := fun s => Always φ s.world.log → I s)
    · intro s hs _
      exact hinit s hs
    · intro s s' hr ih hstep hlog'
      exact hact s s' hr (ih (hlog'.of_prefix hstep.log_prefix)) hstep hlog'
  exact hgoal hlog

end DplanePlugin
