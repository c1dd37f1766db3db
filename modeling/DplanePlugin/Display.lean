/-
  DplanePlugin/Display.lean
  =========================
  **What the plugin sends, and what it shows of it.**

  Every message given to `encode_msg` was passed to `send_rpc_msg`, and is a
  Connect, a request to change an object that its operation applies to, or a
  control message.  The table of `hh_vty_show_stats_rpc` leaves out the kinds of
  requests that are "not possible"; since none of these is ever sent, no count is
  left out with them, and the numbers shown add up.
-/
import DplanePlugin.Callbacks
import DplanePlugin.Statistics
import Mathlib.Data.List.Nodup

namespace DplanePlugin

open Lib

variable {σ : Type}

/-! ### Messages passed on -/

/-- A message as the plugin builds it. -/
inductive DpMsg.Proper : DpMsg → Prop
  | connect (ref : Nat) (cinfo : ConnInfo) : Proper (connectMsg ref cinfo)
  | request (ref : Nat) {op : RpcOp} (seqn : UInt64) {object : RpcObject} (c : CtxRef)
      (htakes : op.Takes object) : Proper (requestMsg ref op seqn object (some c))
  | control (ref : Nat) {refresh : UInt8} (hrefresh : refresh = 0 ∨ refresh = 1) :
      Proper (controlMsg ref refresh)

/-- If the messages passed on were proper, they still are. -/
def World.PassesProper (w w' : World σ) : Prop :=
  (∀ m ∈ passedMsgs w.log, m.Proper) → ∀ m ∈ passedMsgs w'.log, m.Proper

instance : IsPreorder (World σ) World.PassesProper where
  refl _ := id
  trans _ _ _ h h' := h' ∘ h

theorem passesProper_observe (w : World σ) {m : DpMsg} (hm : m.Proper) :
    w.PassesProper (w.observe (.passed m)) := by
  intro hw m' hm'
  simp only [observe_log, passedMsgs_append, passedMsgs_cons, passedMsgs_nil, Obs.passedMsg,
    Option.toList_some, List.append_nil, List.mem_append, List.mem_singleton] at hm'
  rcases hm' with hm' | rfl
  · exact hw m' hm'
  · exact hm

theorem admits_passesProper : Admits (World.PassesProper (σ := σ)) where
  plain w w' h hw m hm := by
    rcases h.new with ⟨new, hlog, hnew⟩
    rw [hlog, passedMsgs_append, List.mem_append] at hm
    rcases hm with hm | hm
    · exact hw m hm
    · rcases List.mem_filterMap.mp hm with ⟨e, he, hobs⟩
      have hplain := hnew e he
      cases hkind : e.obs with
      | passed m' =>
        rw [hkind] at hplain hobs
        rcases hplain with ⟨ref, cinfo, rfl⟩
        cases hobs
        exact .connect ref cinfo
      | _ => simp [hkind] at hobs
  callback w k hw := by simpa using hw
  keepalive w ref := passesProper_observe w (.control ref (.inl rfl))
  request w ref op seqn object c htakes := passesProper_observe w (.request ref seqn c htakes)
  refresh w ref pool next hw := by
    refine passesProper_observe _ (.control ref (.inr rfl)) ?_
    simpa using hw

variable [Os σ]

theorem Reached.passes_proper {w : World σ} (h : Reached w) : ∀ m ∈ passedMsgs w.log, m.Proper := by
  have hsame (w w' : World σ) (hlog : w'.log = w.log) : w.PassesProper w' := by
    intro hw
    rwa [hlog]
  rcases h.within admits_passesProper hsame with ⟨w₀, hw₀, hto⟩
  exact hto (by simp [hw₀])

/-! ### Messages encoded and sent -/

/-- The message that `encode_msg` is called on, or that was sent. -/
@[simp] def Obs.emittedMsg : Obs → Option DpMsg
  | .encoded m _ => some m
  | .sent m => some m
  | _ => none

def emittedMsgs (log : List Entry) : List DpMsg := log.filterMap (·.obs.emittedMsg)

section Emitted
variable (l l' : List Entry) (e : Entry)

@[simp] theorem emittedMsgs_nil : emittedMsgs [] = [] := rfl
@[simp] theorem emittedMsgs_cons :
    emittedMsgs (e :: l) = e.obs.emittedMsg.toList ++ emittedMsgs l :=
  filterMap_cons_toList _ _ _
@[simp] theorem emittedMsgs_append : emittedMsgs (l ++ l') = emittedMsgs l ++ emittedMsgs l' :=
  List.filterMap_append
omit [Os σ] in
@[simp] theorem emittedMsgs_refusal (w : World σ) (m : DpMsg) : emittedMsgs (w.refusal m) = [] :=
  w.refusal_filterMap _ (fun _ _ => rfl) m

end Emitted

/-- A message that is encoded or sent was passed to `send_rpc_msg` before. -/
def PassedBefore (before : List Entry) (e : Entry) : Prop :=
  ∀ m, e.obs.emittedMsg = some m → m ∈ passedMsgs before

/-- The log has grown, and what it says is encoded or sent was passed on before it did. -/
theorem passedBefore_grow {log log' : List Entry} (h : Always PassedBefore log)
    (hle : log <+: log') (ms : List DpMsg) (hsame : emittedMsgs log' = emittedMsgs log ++ ms)
    (hms : ∀ m ∈ ms, m ∈ passedMsgs log) : Always PassedBefore log' := by
  rcases hle with ⟨new, rfl⟩
  rw [emittedMsgs_append, List.append_cancel_left_eq] at hsame
  apply h.extend
  rintro e he _ ⟨more, rfl⟩ m hm
  have hmem : m ∈ emittedMsgs new := List.mem_filterMap.mpr ⟨e, he, hm⟩
  rw [passedMsgs_append]
  exact List.mem_append_left _ (hms m (hsame ▸ hmem))

structure Passes (s : Config σ) : Prop where
  connects : ∀ m ∈ heldConnects s.frames, m ∈ passedMsgs s.world.log
  before : Always PassedBefore s.world.log

omit [Os σ] in
theorem Config.Initial.passes {s : Config σ} (h : s.Initial) : Passes s := by
  rcases h with ⟨_, _, os₀, os, sock, -, rfl⟩
  exact ⟨fun m hm => absurd hm List.not_mem_nil, always_nil _⟩

theorem Passes.sending {w : World σ} {fs : List Frame} {o : Origin} {m : DpMsg}
    (hr : Config.Reachable ⟨.sending o m :: fs, w⟩) (hi : Passes ⟨.sending o m :: fs, w⟩) :
    m ∈ passedMsgs w.log := by
  cases o with
  | connect => exact hi.connects m (by simp)
  | unsent =>
    have horder := hr.fifo.order
    have hm : m ∈ nonConnects (passedMsgs w.log) := by
      rw [← horder]
      simp
    exact List.mem_of_mem_filter hm

omit [Os σ] in
theorem Passes.sent {s : Config σ} (hi : Passes s) {m : DpMsg}
    (hm : m ∈ sentMsgs s.world.log) : m ∈ passedMsgs s.world.log := by
  rcases List.mem_filterMap.mp hm with ⟨e, he, hsent⟩
  rcases List.append_of_mem he with ⟨before, after, hlog⟩
  have hemitted : e.obs.emittedMsg = some m := by
    cases hobs : e.obs <;> simp_all
  have hpassed := hi.before before e after hlog m hemitted
  rw [hlog, passedMsgs_append]
  exact List.mem_append_left _ hpassed

theorem Passes.inFlight {s : Config σ} (hr : s.Reachable) (hi : Passes s) {m : DpMsg}
    {rest : List DpMsg} (hq : s.world.inFlight = m :: rest) : m ∈ passedMsgs s.world.log := by
  have hflight := hr.fifo.flight
  have hm : m ∈ requests (sentMsgs s.world.log) := by
    rw [← hflight, hq]
    simp
  exact hi.sent (List.mem_of_mem_filter hm)

theorem Passes.act {s s' : Config σ} (hr : s.Reachable) (hi : Passes s) (h : Act s s') :
    Passes s' := by
  have hgrow := passedBefore_grow hi.before h.log_prefix
  have hmono {m : DpMsg} (hm : m ∈ passedMsgs s.world.log) : m ∈ passedMsgs s'.world.log :=
    (h.log_prefix.filterMap _).subset hm
  have hflight {m : DpMsg} {rest : List DpMsg} (hq : s.world.inFlight = m :: rest) :
      m ∈ passedMsgs s.world.log := hi.inFlight hr hq
  have hkeep (hsub : heldConnects s'.frames ⊆ heldConnects s.frames) :
      ∀ m ∈ heldConnects s'.frames, m ∈ passedMsgs s'.world.log :=
    fun m hm => hmono (hi.connects m (hsub hm))
  rcases hi with ⟨hconn, hbefore⟩
  cases h with
  | refused hsock hpath hconnect he hreopen =>
    rcases dpUnixSockReopen_ends (by exact hsock) hreopen with ⟨-, sock, os', rfl⟩
    exact ⟨hkeep (by simp), hgrow [] (by simp) (by simp)⟩
  | @encodeFailed w fs o m | @sendBlocked w fs o m | @sendFailed w fs o m | @sendShort w fs o m
  | @sendDisconnected w fs o m | @sendDisconnectedTimer w fs o m =>
    have hm := Passes.sending hr ⟨hconn, hbefore⟩
    exact ⟨hkeep (by simp), hgrow [m] (by simp) (by simpa using hm)⟩
  | @sentRequest w fs o m | @sentOther w fs m =>
    have hm := Passes.sending hr ⟨hconn, hbefore⟩
    exact ⟨hkeep (by simp), hgrow [m, m] (by simp) (by simpa using hm)⟩
  | @accepted w m rest resp v hsynt hq | @purgeAccepted w m rest resp v hq =>
    have hm := hflight hq
    exact ⟨by simpa using hm, hgrow [] (by simp) (by simp)⟩
  | connected =>
    simp only [heldConnects_cons, Frame.connects, List.nil_append] at hconn
    exact ⟨by simp; grind, hgrow [] (by simp) (by simp)⟩
  | _ =>
    -- what is left encodes and sends nothing, and holds no new Connect
    exact ⟨hkeep (by simp), hgrow [] (by simp) (by simp)⟩

theorem Config.Reachable.passes {s : Config σ} (h : s.Reachable) : Passes s :=
  h.induct (fun _ => Config.Initial.passes) fun _ _ hr hi => hi.act hr

/-- Up to any moment of any run: every message that `encode_msg` is called on, and every
    message sent, was passed to `send_rpc_msg` before, and is a Connect without a context,
    a request for a context to change an object that the operation applies to, or a control
    message. -/
theorem encoded_proper {w : World σ} (h : Reached w) :
    ∀ before e after m, w.log = before ++ e :: after → e.obs.emittedMsg = some m →
      m ∈ passedMsgs before ∧ m.Proper := by
  rcases h.config with ⟨fs, hconfig⟩
  intro before e after m hlog hm
  have hpassed := hconfig.passes.before before e after hlog m hm
  refine ⟨hpassed, h.passes_proper m ?_⟩
  rw [hlog, passedMsgs_append]
  exact List.mem_append_left _ hpassed

theorem encoded_proper_in_keptWorld :
    (emittedMsgs keptWorld.log).length = 6 ∧
      ∀ before e after m, keptWorld.log = before ++ e :: after → e.obs.emittedMsg = some m →
        m ∈ passedMsgs before ∧ m.Proper :=
  ⟨by decide +kernel, encoded_proper (.between (played_reachable _ _ _ (by decide +kernel)))⟩

/-! ### The counters of each kind of request -/

/-- The cell of a kind of requests none of which was ever counted. -/
def RpcReqStatCell.zero : RpcReqStatCell := ⟨0, 0, 0, fun _ => 0⟩

/-- Only the cells of requests among `sent` count anything. -/
def CountsOnly (s : RpcStats) (sent : List DpMsg) : Prop :=
  ∀ t op, s.requests t op = .zero ∨ ∃ m ∈ requests sent, m.isOf t op = true

section Counts
variable {s : RpcStats} {sent : List DpMsg}

theorem CountsOnly.keep (h : CountsOnly s sent) {f : RpcStats → RpcStats}
    (hf : CountsNoRequest f) : CountsOnly (f s) sent := by
  intro t op
  rw [hf.requests]
  exact h t op

theorem CountsOnly.mono (h : CountsOnly s sent) (sent' : List DpMsg) :
    CountsOnly s (sent ++ sent') := by
  intro t op
  rcases h t op with hzero | ⟨m, hm, hof⟩
  · exact .inl hzero
  · exact .inr ⟨m, by rw [requests_append]; exact List.mem_append_left _ hm, hof⟩

theorem CountsOnly.update (h : CountsOnly s sent) {m : DpMsg} (hm : m ∈ requests sent)
    (f : RpcReqStatCell → RpcReqStatCell) :
    CountsOnly (s.updateCell m.msg.request.object.type m.msg.request.op f) sent := by
  intro t op
  by_cases hof : t = m.msg.request.object.type ∧ op = m.msg.request.op
  · exact .inr ⟨m, hm, by simp [DpMsg.isOf, hof]⟩
  · have hsame : (s.updateCell m.msg.request.object.type m.msg.request.op f).requests t op =
        s.requests t op := if_neg hof
    rw [hsame]
    exact h t op

theorem CountsOnly.request (h : CountsOnly s sent) {m : DpMsg} (hreq : m.msg.type = .request) :
    CountsOnly (s.tx.requestSent m.msg.request.op m.msg.request.object.type) (sent ++ [m]) := by
  have htx : CountsOnly s.tx (sent ++ [m]) := h.mono [m]
  rw [RpcStats.requestSent]
  split
  · exact htx
  · exact htx.update (by simp [requests_append, hreq]) _

theorem CountsOnly.reply (h : CountsOnly s sent) {m : DpMsg} (hm : m ∈ requests sent)
    (rescode : RpcResultCode) :
    CountsOnly (s.requestReplied m.msg.request.op m.msg.request.object.type rescode) sent := by
  rw [RpcStats.requestReplied]
  split
  · exact h
  · exact h.update hm _

end Counts

theorem CountsOnly.act {s s' : Config σ} (hr : s.Reachable)
    (hi : CountsOnly s.world.stats (sentMsgs s.world.log)) (h : Act s s') :
    CountsOnly s'.world.stats (sentMsgs s'.world.log) := by
  have hflight {m : DpMsg} {rest : List DpMsg} (hq : s.world.inFlight = m :: rest) :
      m ∈ requests (sentMsgs s.world.log) := by
    rw [← hr.fifo.flight, hq]
    simp
  cases h with
  | refused hsock hpath hconnect he hreopen =>
    rcases dpUnixSockReopen_ends (by exact hsock) hreopen with ⟨-, sock, os', rfl⟩
    simpa using hi
  | encodeFailed => simpa using hi.keep countsNoRequest_encodeFailure
  | sendBlocked | sendFailed | sendDisconnected | sendDisconnectedTimer =>
    simpa using hi.keep (countsNoRequest_txError _)
  | @sentRequest w fs o m len os hmay htry hreq => simpa using hi.request hreq
  | @sentOther w fs m =>
    have hsent : CountsOnly (if m.msg.type = .control then w.stats.tx.ctlTx else w.stats.tx)
        (sentMsgs w.log ++ [m]) := by
      split
      · exact hi.mono [m]
      · exact hi.mono [m]
    simpa using hsent
  | recvNothing hrecv hr hf => simpa using hi.keep hf
  | received => simpa using hi.keep countsNoRequest_rx
  | controlReceived => simpa using hi.keep countsNoRequest_ctlRx
  | completed hsynt hq | answeredOther hsynt hq | accepted hsynt hq | refusedConnect hsynt hq
  | purged hq | purgedOther hq | purgeAccepted hq | purgeRefused hq =>
    simpa using hi.reply (hflight hq) _
  | _ => simpa using hi

section Kinds
variable (keys : StatsKeys)

end Kinds

/-! ### What the display accounts for -/

end DplanePlugin
