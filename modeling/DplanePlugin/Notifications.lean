/-
  DplanePlugin/Notifications.lean
  ===============================
  **When write notification is armed.**

  With messages left unsent, `ev_send` should be armed exactly when the plugin
  is ready.  `do_send_rpc_msg` arms it for some errors only, whether or not the
  plugin is ready; the write callback arms it for any leftover; and readiness
  changes without a look at it.  `Prompt` says of each step that none of these
  goes wrong.
-/
import DplanePlugin.Events

namespace DplanePlugin

open Lib

variable {σ : Type}

/-! ### What made the plugin send -/

/-- What a drain of the unsent list, or `dp_connect`, is started by. -/
inductive Cause where
  | callback (k : CallbackKind)
  /-- A message other than a Connect was passed. -/
  | message
  /-- A response, handled with the sync token `synt` stored. -/
  | response (resp : RpcResponse) (synt : UInt64)
deriving DecidableEq

@[simp] def Entry.cause (x : Entry) : Option Cause :=
  match x.obs with
  | .callback k => some (.callback k)
  | .passed m => if m.msg.isConnect then none else some .message
  | .response resp => some (.response resp x.view.synt)
  | _ => none

/-- The last cause in `log`. -/
def sendCause (log : List Entry) : Option Cause := (log.filterMap (·.cause)).getLast?

section Causes
variable (log log' : List Entry)

@[simp] theorem sendCause_nil : sendCause [] = none := rfl

@[simp] theorem sendCause_append :
    sendCause (log ++ log') = (sendCause log').or (sendCause log) := by
  rw [sendCause, List.filterMap_append, List.getLast?_append, sendCause, sendCause]

@[simp] theorem sendCause_cons (x : Entry) : sendCause (x :: log) = (sendCause log).or x.cause := by
  have hone : sendCause [x] = x.cause := by
    rw [sendCause, filterMap_cons_toList]
    cases x.cause <;> rfl
  rw [← List.singleton_append, sendCause_append, hone]

/-- Entries without a cause. -/
theorem sendCause_eq_none {log : List Entry} (h : ∀ x ∈ log, x.cause = none) :
    sendCause log = none := by
  rw [sendCause, List.filterMap_eq_nil_iff.mpr h]
  rfl

theorem OnlyAnswers.sendCause {log : List Entry} (h : OnlyAnswers log) :
    sendCause log = none := by
  apply sendCause_eq_none
  intro x hx
  have hkind := h x hx
  cases hobs : x.obs <;> simp_all [Obs.ofAnswer]

@[simp] theorem sendCause_refusal (w : World σ) (m : DpMsg) : sendCause (w.refusal m) = none :=
  (onlyAnswers_refusal w m).sendCause

end Causes

/-- A drain in progress was started by the write callback if that runs, and
    otherwise by a message or a response. -/
structure Caused (s : Config σ) : Prop where
  writing : .writing ∈ s.frames → sendCause s.world.log = some (.callback .send)
  drain : .writing ∉ s.frames → s.frames.any Frame.ofDrain = true →
    ∃ c, sendCause s.world.log = some c ∧ ∀ k, c ≠ .callback k

theorem Config.Initial.caused {s : Config σ} (h : s.Initial) : Caused s := by
  rcases h with ⟨_, _, os₀, os, sock, -, rfl⟩
  constructor
  · simp
  · simp

/-- Nothing was logged that may start a drain, and none was started. -/
theorem Caused.same {s s' : Config σ} (h : Caused s)
    (hcause : sendCause s'.world.log = sendCause s.world.log)
    (hwriting : .writing ∈ s'.frames ↔ .writing ∈ s.frames)
    (hdrain : s'.frames.any Frame.ofDrain = true → s.frames.any Frame.ofDrain = true) :
    Caused s' := by
  constructor
  · intro hw
    rw [hcause]
    exact h.writing (hwriting.mp hw)
  · intro hw hd
    rw [hcause]
    exact h.drain (fun hw' => hw (hwriting.mpr hw')) (hdrain hd)

/-- A message or a response starts a drain. -/
theorem caused_of_cause {s : Config σ} {c : Cause} (hw : .writing ∉ s.frames)
    (h : sendCause s.world.log = some c) (hc : ∀ k, c ≠ .callback k) : Caused s :=
  ⟨fun hmem => absurd hmem hw, fun _ _ => ⟨c, h, hc⟩⟩

/-- No drain is in progress. -/
theorem caused_of_none {s : Config σ} (hw : .writing ∉ s.frames)
    (hd : s.frames.any Frame.ofDrain = false) : Caused s := by
  constructor
  · exact fun hmem => absurd hmem hw
  · intro _ hany
    rw [hd] at hany
    cases hany

variable [Os σ]

theorem Caused.act {s s' : Config σ} (hr : s.Reachable) (hi : Caused s) (h : Act s s') :
    Caused s' := by
  cases h with
  | refused hsock hpath hconnect he hreopen =>
    rcases dpUnixSockReopen_ends (by exact hsock) hreopen with ⟨-, sock, os', rfl⟩
    exact hi.same (by simp) (by simp) id
  | @connected w fs os ref next pool result cinfo =>
    have hconn : (connectMsg ref cinfo).msg.isConnect = true := rfl
    exact hi.same (by simp [hconn]) (by simp) id
  | @queueRequest w c ref next pool op object hop halloc =>
    have hm : (requestMsg ref op w.seqnum object (some c)).IsUpdate := ⟨_, _, _, _, _, hop, rfl⟩
    have hnot := hm.isConnect
    apply caused_of_cause (c := .message)
    · simp
    · simp [hnot]
    · simp
  | @queueControl w fs ref next pool refresh hfs halloc =>
    have hnot : (controlMsg ref refresh).msg.isConnect = false := rfl
    apply caused_of_cause (c := .message)
    · rcases hfs with rfl | ⟨msg, rfl⟩ <;> simp
    · simp [hnot]
    · simp
  | @accepted w m rest resp v hsynt hq hreq hmat hop hok =>
    rcases hr.answering _ List.mem_cons_self with ⟨-, pre, hlog⟩
    apply caused_of_cause (c := .response resp v.synt)
    · simp
    · simp only [World.accepted_log, World.replied_log, World.popFlight_log]
      rw [hlog]
      simp
    · simp
  | response | started | timerFired | recvFired | keepaliveFired | writeDone | writeAgain =>
    exact caused_of_none (by simp) (by simp)
  | writeFired =>
    exact ⟨by simp, by simp⟩
  | _ =>
    apply hi.same
    · simp
    · simp
    · first
        | exact id
        | exact fun hany => by rw [List.any_cons, hany, Bool.or_true]
        | simp

theorem Config.Reachable.caused {s : Config σ} (h : s.Reachable) : Caused s :=
  h.induct (fun _ => Config.Initial.caused) fun _ _ hr hi => hi.act hr

/-! ### What has to go right -/

/-- The write callback drains the unsent list. -/
def inWrite (log : List Entry) : Prop := sendCause log = some (.callback .send)

/-- `dp_connect` was not called because a send of the unsent list had failed. -/
def freshConnect (log : List Entry) : Prop :=
  sendCause log = none ∨ sendCause log = some (.callback .connectTimer)

/-- The response being handled reports a restart, and is positive. -/
def acceptingRestart (log : List Entry) : Prop :=
  match sendCause log with
  | some (.response resp synt) => reportsRestart resp synt = true ∧ resp.rescode = .ok
  | _ => False

/-- Notification is armed, or will be when the write callback ends. -/
def StaysArmed (log : List Entry) (v : View) : Prop := v.evSend.isSome = true ∨ inWrite log

/-- What a failing `send()` must not meet.  For a Connect that cannot be sent now:
    a message that waits.  For another message: a lost connection while
    notification is armed or the write callback runs, and an error that does not
    arm it while it is not armed. -/
def PromptSend (log : List Entry) (v : View) (m : DpMsg) (e : Errno) : Prop :=
  if m.msg.isConnect then e.isBlocked = true → v.unsent = [] ∧ freshConnect log
  else if e.isDisconnect then v.evSend = none ∧ ¬ inWrite log
  else e.isBlocked = true ∨ StaysArmed log v

/-- What no step must do, for notification to be armed exactly when it is of use. -/
def Prompt (log : List Entry) (x : Entry) : Prop :=
  match x.obs with
  | .passed m => m.msg.isConnect = false → x.view.evSend.isSome = true → x.view.ready = true
  | .encoded m none => m.msg.isConnect = false → StaysArmed log x.view
  | .send m len (.octets r) => m.msg.isConnect = false → r ≠ len → StaysArmed log x.view
  | .send m _ (.error e) => PromptSend log x.view m e
  | .popped m => m.msg.isConnect = true → acceptingRestart log → x.view.unsent = []
  | _ => True

instance (log : List Entry) : Decidable (acceptingRestart log) := by
  unfold acceptingRestart
  split <;> infer_instance

instance (log : List Entry) (x : Entry) : Decidable (Prompt log x) := by
  unfold Prompt PromptSend StaysArmed freshConnect inWrite
  split <;> infer_instance

/-! ### The invariant -/

/-- A message waits in the unsent list or in the hands of a drain. -/
def Config.Backlog (s : Config σ) : Prop := s.world.unsent ≠ [] ∨ heldQueued s.frames ≠ []

@[simp] def Frame.gaveUp : Frame → Bool
  | .failed .unsent _ => true
  | _ => false

/-- A drain goes on that has not failed. -/
def Config.Trying (s : Config σ) : Prop :=
  .draining ∈ s.frames ∧ s.frames.any Frame.gaveUp = false

/-- The invariant of the runs in which every step is prompt.  The write callback
    arms the event at its end.  A drain that has not failed needs no event, and
    one that is armed will do. -/
structure Woken (s : Config σ) : Prop where
  writing : .writing ∈ s.frames → s.Backlog → s.world.dplaneIsReady = true
  trying : .writing ∉ s.frames → s.Trying →
    s.world.evSend.isSome = true → s.world.dplaneIsReady = true
  resting : .writing ∉ s.frames → ¬ s.Trying → s.Backlog →
    (s.world.evSend.isSome = true ↔ s.world.dplaneIsReady = true)

omit [Os σ] in
theorem Config.Initial.woken {s : Config σ} (h : s.Initial) : Woken s := by
  rcases h with ⟨_, _, os₀, os, sock, -, rfl⟩
  constructor
  · simp
  · simp [Config.Trying]
  · simp [Config.Backlog, World.start]

omit [Os σ] in
/-- Neither the messages that wait nor readiness nor the event changed, and no
    drain started or gave up. -/
theorem Woken.same {s s' : Config σ} (h : Woken s)
    (hwriting : .writing ∈ s'.frames ↔ .writing ∈ s.frames) (htrying : s'.Trying ↔ s.Trying)
    (hbacklog : s'.Backlog → s.Backlog)
    (hready : s'.world.dplaneIsReady = s.world.dplaneIsReady)
    (hsend : s'.world.evSend = s.world.evSend) : Woken s' := by
  constructor
  · rw [hready, hwriting]
    exact fun hw hb => h.writing hw (hbacklog hb)
  · rw [hready, hsend, hwriting, htrying]
    exact h.trying
  · rw [hready, hsend, hwriting, htrying]
    exact fun hw ht hb => h.resting hw ht (hbacklog hb)

omit [Os σ] in
/-- A drain gave up. -/
theorem woken_of_gaveUp {s : Config σ} (hgave : s.frames.any Frame.gaveUp = true)
    (hwriting : .writing ∈ s.frames → s.world.dplaneIsReady = true)
    (hresting : .writing ∉ s.frames →
      (s.world.evSend.isSome = true ↔ s.world.dplaneIsReady = true)) : Woken s := by
  constructor
  · exact fun hw _ => hwriting hw
  · intro _ htrying
    rw [htrying.2] at hgave
    cases hgave
  · exact fun hw _ _ => hresting hw

omit [Os σ] in
/-- A drain has started. -/
theorem woken_of_trying {s : Config σ} (hw : .writing ∉ s.frames) (htrying : s.Trying)
    (h : s.world.evSend.isSome = true → s.world.dplaneIsReady = true) : Woken s := by
  constructor
  · exact fun hmem => absurd hmem hw
  · exact fun _ _ => h
  · exact fun _ hnot => absurd htrying hnot

omit [Os σ] in
/-- No message waits, and no drain is in progress. -/
theorem woken_of_no_backlog {s : Config σ} (hq : s.world.unsent = [])
    (hheld : heldQueued s.frames = []) (hdraining : .draining ∉ s.frames) : Woken s := by
  have hnone : ¬ s.Backlog := by simp [Config.Backlog, hq, hheld]
  constructor
  · exact fun _ hb => absurd hb hnone
  · exact fun _ htrying => absurd htrying.1 hdraining
  · exact fun _ _ hb => absurd hb hnone

omit [Os σ] in
/-- With messages waiting, the event is armed in a ready plugin only. -/
theorem Woken.ready_of_armed {s : Config σ} (h : Woken s) (hw : .writing ∉ s.frames)
    (hb : s.Backlog) (hev : s.world.evSend.isSome = true) : s.world.dplaneIsReady = true := by
  by_cases htrying : s.Trying
  · exact h.trying hw htrying hev
  · exact (h.resting hw htrying hb).mp hev

section Sending
variable {m : DpMsg} {fs : List Frame} {w : World σ}
  (hr : Config.Reachable ⟨.sending .unsent m :: fs, w⟩)
include hr

theorem Config.Reachable.unsent_not_connect : m.msg.isConnect = false :=
  (hr.typed.queued m (by simp)).isConnect

theorem Config.Reachable.ready_of_maySend (hmay : w.MaySend m) : w.dplaneIsReady = true := by
  rcases hmay.2 with hconn | hready
  · rw [hr.unsent_not_connect] at hconn
    cases hconn
  · exact hready

theorem Config.Reachable.not_ready_of_not_maySend (hmay : ¬ w.MaySend m) :
    w.dplaneIsReady = false := by
  rw [← Bool.not_eq_true]
  exact fun hready => hmay ⟨hr.typed.buffer, .inr hready⟩

/-- The write callback runs as the log says. -/
theorem Config.Reachable.inWrite_iff : inWrite w.log ↔ .writing ∈ fs := by
  constructor
  · intro hin
    by_contra hw
    rcases hr.caused.drain (by simpa using hw) rfl with ⟨c, hc, hnot⟩
    exact hnot _ (Option.some.inj (hc.symm.trans hin))
  · exact fun hw => hr.caused.writing (List.mem_cons_of_mem _ hw)

/-- A send that failed and arms nothing. -/
theorem Woken.giveUp (hready : w.dplaneIsReady = true) {w' : World σ}
    (hsame : w'.dplaneIsReady = w.dplaneIsReady ∧ w'.evSend = w.evSend)
    (harmed : StaysArmed w.log w.view) : Woken ⟨.failed .unsent m :: fs, w'⟩ := by
  have hready' : w'.dplaneIsReady = true := hsame.1.trans hready
  apply woken_of_gaveUp rfl
  · exact fun _ => hready'
  · intro hw
    rcases harmed with hev | hin
    · have hev' : w'.evSend.isSome = true := hsame.2 ▸ hev
      exact ⟨fun _ => hready', fun _ => hev'⟩
    · exact absurd (List.mem_cons_of_mem _ (hr.inWrite_iff.mp hin)) hw

/-- A lost connection, with no event armed and outside of the write callback. -/
theorem woken_of_disconnect {e : Errno} (he : e.isDisconnect = true)
    (hprompt : PromptSend w.log w.view m e) {s' : Config σ}
    (hwriting : .writing ∈ s'.frames ↔ .writing ∈ fs) (hgave : s'.frames.any Frame.gaveUp = true)
    (hready : s'.world.dplaneIsReady = false) (hsend : s'.world.evSend = w.evSend) :
    Woken s' := by
  rw [PromptSend, hr.unsent_not_connect, if_neg Bool.false_ne_true, if_pos he] at hprompt
  rcases hprompt with ⟨hev, hnot⟩
  apply woken_of_gaveUp hgave
  · exact fun hw => absurd (hr.inWrite_iff.mpr (hwriting.mp hw)) hnot
  · have hev' : s'.world.evSend = none := hsend.trans hev
    intro _
    simp [hready, hev']

end Sending

omit [Os σ] in
/-- What the last entry of a failed send says. -/
theorem promptSend_of_always {w : World σ} {m : DpMsg} {len : Nat} {e : Errno}
    (h : Always Prompt (w.log ++ [⟨.encoded m (some len), w.view⟩] ++
      [⟨.send m len (.error e), w.view⟩])) : PromptSend w.log w.view m e := by
  have hlast : PromptSend (w.log ++ [⟨.encoded m (some len), w.view⟩]) w.view m e :=
    ((always_concat _ _ _).mp h).2
  simpa [PromptSend, StaysArmed, inWrite, freshConnect] using hlast

/-- A Connect that no failed send has caused is sent outside of a drain. -/
theorem Config.Reachable.no_drain_of_fresh {s : Config σ} (h : s.Reachable)
    (hfresh : freshConnect s.world.log) :
    s.frames.any Frame.ofDrain = false := by
  rw [← Bool.not_eq_true]
  intro hany
  have hcause : ∃ c, sendCause s.world.log = some c ∧ c ≠ .callback .connectTimer := by
    by_cases hw : .writing ∈ s.frames
    · exact ⟨_, h.caused.writing hw, by simp⟩
    · rcases h.caused.drain hw hany with ⟨c, hc, hnot⟩
      exact ⟨c, hc, hnot _⟩
  rcases hcause with ⟨c, hc, hne⟩
  rcases hfresh with hnone | htimer
  · rw [hnone] at hc
    cases hc
  · exact hne (Option.some.inj (hc.symm.trans htimer))

omit [Os σ] in
/-- Without a drain, no call holds a message of the unsent list. -/
theorem heldQueued_of_no_drain {fs : List Frame} (h : fs.any Frame.ofDrain = false) :
    heldQueued fs = [] ∧ .draining ∉ fs := by
  rw [List.any_eq_false] at h
  constructor
  · apply List.flatMap_eq_nil_iff.mpr
    intro f hf
    have hnot := h f hf
    cases f with
    | sending o m | failed o m =>
      cases o with
      | unsent => exact absurd rfl hnot
      | connect => rfl
    | _ => rfl
  · exact fun hmem => h _ hmem rfl

theorem Woken.act {s s' : Config σ} (hr : s.Reachable) (hi : Woken s) (h : Act s s')
    (hlog : Always Prompt s'.world.log) : Woken s' := by
  cases h with
  | refused hsock hpath hconnect he hreopen =>
    have hready := (hr.shaken.fits _ rfl).1
    rcases dpUnixSockReopen_ends (by exact hsock) hreopen with ⟨-, sock, os', rfl⟩
    exact hi.same (by simp) (by simp [Config.Trying]) id hready.symm rfl
  | @notSent w fs o m hmay =>
    cases o with
    | connect => exact hi.same (by simp) (by simp [Config.Trying]) id rfl rfl
    | unsent =>
      have hnot := hr.not_ready_of_not_maySend hmay
      have hb : Config.Backlog ⟨.sending .unsent m :: fs, w⟩ := .inr (by simp)
      apply woken_of_gaveUp rfl
      · exact fun hw => hi.writing (by simpa using hw) hb
      · intro hw
        have hev := hi.ready_of_armed (by simpa using hw) hb
        exact ⟨hev, fun hready => absurd (hnot.symm.trans hready) Bool.false_ne_true⟩
  | @encodeFailed w fs o m os hmay henc =>
    cases o with
    | connect => exact hi.same (by simp) (by simp [Config.Trying]) id rfl rfl
    | unsent =>
      have harmed := ((always_concat _ _ _).mp hlog).2 hr.unsent_not_connect
      exact Woken.giveUp hr (hr.ready_of_maySend hmay) ⟨rfl, rfl⟩ harmed
  | @sendBlocked w fs o m len os e hmay htry he =>
    cases o with
    | connect =>
      have hm := (hr.typed.connects m (by simp)).isConnect
      have hprompt := promptSend_of_always hlog
      rw [PromptSend, if_pos hm] at hprompt
      have hfresh := heldQueued_of_no_drain (hr.no_drain_of_fresh (hprompt he).2)
      exact woken_of_no_backlog (hprompt he).1 (by simpa using hfresh.1) (by simpa using hfresh.2)
    | unsent =>
      have hready := hr.ready_of_maySend hmay
      apply woken_of_gaveUp rfl
      · exact fun _ => hready
      · exact fun _ => ⟨fun _ => hready, fun _ => rfl⟩
  | @sendFailed w fs o m len os e hmay htry hb hd =>
    cases o with
    | connect => exact hi.same (by simp) (by simp [Config.Trying]) id rfl rfl
    | unsent =>
      have hprompt := promptSend_of_always hlog
      rw [PromptSend, hr.unsent_not_connect, if_neg Bool.false_ne_true, hd,
        if_neg Bool.false_ne_true, hb] at hprompt
      have harmed := hprompt.resolve_left Bool.false_ne_true
      exact Woken.giveUp hr (hr.ready_of_maySend hmay) ⟨rfl, rfl⟩ harmed
  | @sendShort w fs o m len os r hmay htry hne =>
    cases o with
    | connect => exact hi.same (by simp) (by simp [Config.Trying]) id rfl rfl
    | unsent =>
      have hlast := ((always_concat _ _ _).mp hlog).2 hr.unsent_not_connect hne
      have harmed : StaysArmed w.log w.view := by simpa [StaysArmed, inWrite] using hlast
      exact Woken.giveUp hr (hr.ready_of_maySend hmay) ⟨rfl, rfl⟩ harmed
  | @sendDisconnected w fs o m len os e hmay htry he htimer =>
    cases o with
    | connect =>
      have hready : w.dplaneIsReady = false := (hr.shaken.fits _ rfl).1
      exact hi.same (by simp) (by simp [Config.Trying]) id hready.symm rfl
    | unsent => exact woken_of_disconnect hr he (promptSend_of_always hlog) (by simp) rfl rfl rfl
  | @sendDisconnectedTimer w fs o m len os e hmay htry he htimer =>
    cases o with
    | connect =>
      have hready : w.dplaneIsReady = false := (hr.shaken.fits _ rfl).1
      exact hi.same (by simp) (by simp [Config.Trying]) id hready.symm rfl
    | unsent => exact woken_of_disconnect hr he (promptSend_of_always hlog) (by simp) rfl rfl rfl
  | @sentRequest w fs o m len os hmay htry hreq =>
    cases o with
    | connect => exact hi.same (by simp) (by simp [Config.Trying]) id rfl rfl
    | unsent => exact hi.same (by simp) (by simp [Config.Trying]) (fun _ => .inr (by simp)) rfl rfl
  | sentOther hmay htry hreq =>
    exact hi.same (by simp) (by simp [Config.Trying]) (fun _ => .inr (by simp)) rfl rfl
  | popUnsent hq =>
    exact hi.same (by simp) (by simp [Config.Trying]) (fun _ => .inl (by simp [hq])) rfl rfl
  | @pushBack w fs m =>
    have hrest : .writing ∉ fs → (w.evSend.isSome = true ↔ w.dplaneIsReady = true) := by
      intro hw
      apply hi.resting
      · simpa using hw
      · simp [Config.Trying]
      · exact .inr (by simp)
    constructor
    · exact fun hw _ => hi.writing (by simpa using hw) (.inr (by simp))
    · exact fun hw _ => (hrest hw).mp
    · exact fun hw _ _ => hrest hw
  | @drained w fs hq =>
    have hnone : ¬ Config.Backlog ⟨fs, w⟩ := by
      simp [Config.Backlog, hq, heldQueued_below_draining hr.stacked]
    constructor
    · exact fun _ hb => absurd hb hnone
    · intro hw htrying
      exact hi.trying (by simpa using hw) ⟨List.mem_cons_self, by simpa using htrying.2⟩
    · exact fun _ _ hb => absurd hb hnone
  | @queueRequest w c ref next pool op object hop halloc =>
    have hm : (requestMsg ref op w.seqnum object (some c)).IsUpdate := ⟨_, _, _, _, _, hop, rfl⟩
    have hprompt := ((always_concat _ _ _).mp hlog).2 hm.isConnect
    exact woken_of_trying (by simp) (by simp [Config.Trying]) hprompt
  | queueControl hfs halloc =>
    have hprompt := ((always_concat _ _ _).mp hlog).2 rfl
    rcases hfs with rfl | ⟨msg, rfl⟩
    · exact woken_of_trying (by simp) (by simp [Config.Trying]) hprompt
    · exact woken_of_trying (by simp) (by simp [Config.Trying]) hprompt
  | accepted hsynt hq hreq hmat hop hok =>
    exact woken_of_trying (by simp) (by simp [Config.Trying]) fun _ => rfl
  | @purgeAccepted w m rest resp v hq hop hok =>
    have hm := ((hr.typed.inFlight m (by simp [hq])).isConnect hop).isConnect
    have haccepting : acceptingRestart w.log := by
      rcases hr.answering _ List.mem_cons_self with ⟨hsynt, pre, post, heq, hpost, -⟩
      rw [acceptingRestart, heq]
      simp [hpost.sendCause, hsynt, hok]
    have hnone := ((always_concat _ _ _).mp hlog).2 hm haccepting
    exact woken_of_no_backlog hnone rfl (by simp)
  | @writeFired w hev =>
    constructor
    · intro _ hb
      have hq : w.unsent ≠ [] := by simpa [Config.Backlog] using hb
      exact (hi.resting (by simp) (by simp [Config.Trying]) (.inl hq)).mp hev
    · simp
    · simp
  | writeDone hq =>
    exact woken_of_no_backlog hq rfl (by simp)
  | @writeAgain w hq =>
    have hready : w.dplaneIsReady = true := hi.writing List.mem_cons_self (.inl hq)
    constructor
    · simp
    · exact fun _ _ _ => hready
    · exact fun _ _ _ => ⟨fun _ => hready, fun _ => rfl⟩
  | _ =>
    apply hi.same
    · simp
    · simp [Config.Trying]
    · exact id
    · rfl
    · rfl

theorem Config.Reachable.woken {s : Config σ} (h : s.Reachable)
    (hlog : Always Prompt s.world.log) : Woken s :=
  h.induct_always (fun _ => Config.Initial.woken) (fun _ _ hr hi => hi.act hr) hlog

/-! ### Between two callbacks -/

/-- Between two callbacks of a run in which every step is prompt, write
    notification is armed, with messages left unsent, exactly when the plugin is
    ready. -/
theorem armed_iff_ready {w : World σ} (h : Reachable w) (hlog : Always Prompt w.log)
    (hq : w.unsent ≠ []) : w.evSend.isSome = true ↔ w.dplaneIsReady = true := by
  have hw : Woken ⟨[], w⟩ := h.config.woken hlog
  apply hw.resting
  · exact List.not_mem_nil
  · exact fun htrying => List.not_mem_nil htrying.1
  · exact .inl hq

/-- The send of a route in a ready plugin fails with `e`. -/
def unsentWorld (e : Errno) : World Script :=
  played 3 { Script.plain with recvs := [accept 7], sends := [.octets 64, .error e] }
    [.recv, .process 1 [routeCtx 1]]

theorem armed_of_unsentWorld :
    (unsentWorld .eagain).dplaneIsReady = true ∧
      ((unsentWorld .eagain).evSend.isSome = true ↔ (unsentWorld .eagain).dplaneIsReady = true) := by
  have hreach : Reachable (unsentWorld .eagain) := played_reachable _ _ _ (by decide +kernel)
  exact ⟨by decide +kernel, armed_iff_ready hreach (by decide +kernel) (by decide +kernel)⟩

/-- An interrupted send leaves a route unsent in a ready plugin, and no
    notification. -/
theorem interrupted_send_not_armed :
    ¬ ∀ w : World Script, Reachable w → w.unsent ≠ [] →
      (w.evSend.isSome = true ↔ w.dplaneIsReady = true) := by
  intro hall
  have hreach : Reachable (unsentWorld .eintr) := played_reachable _ _ _ (by decide +kernel)
  have hiff := hall (unsentWorld .eintr) hreach (by decide +kernel)
  have harmed := hiff.mpr (by decide +kernel)
  revert harmed
  decide +kernel

end DplanePlugin
