/-
  DplanePlugin/Faults.lean
  ========================
  **No assertion fails and no null pointer is followed.**

  The assertion of `dp_msg_cache_inflight` and the context that
  `dp_msg_hand_off` follows are tested by every caller, so neither can go wrong
  from any state, reachable or not.
-/
import DplanePlugin.Refinement
import DplanePlugin.Lib.Avoids

namespace DplanePlugin

open Lib

variable {σ : Type}

/-- A failed assertion, or a null pointer that was followed. -/
def Halt.IsFault (e : Halt) : Prop := e = .assertFailed ∨ e = .nullDeref

/-- No run of `p` ends with a fault. -/
abbrev Faultless {α : Type} (p : Plugin σ α) : Prop := Avoids Halt.IsFault p

theorem not_isFault_outOfFuel : ¬ Halt.IsFault .outOfFuel := by
  simp [Halt.IsFault]

theorem not_isFault_aborted : ¬ Halt.IsFault .aborted := by
  simp [Halt.IsFault]

/-! ### The primitives and the message cache -/

@[simp] theorem observe_faultless (o : Obs) : Faultless (observe o : Plugin σ Unit) :=
  avoids_modify _

@[simp] theorem count_faultless (f : RpcStats → RpcStats) : Faultless (count f : Plugin σ Unit) :=
  avoids_modify _

@[simp] theorem osCall_faultless {α : Type} (f : σ → α × σ) : Faultless (osCall f) := by
  intro w e w' h
  simp at h

@[simp] theorem dpMsgRecycle_faultless (m : DpMsg) : Faultless (dpMsgRecycle m : Plugin σ Unit) := by
  intro w e w' h
  simp at h

@[simp] theorem dpMsgNew_faultless : Faultless (dpMsgNew : Plugin σ DpMsg) := by
  intro w e w' h
  rcases dpMsgNew_ends h with ⟨ref, pool, next, -, hr, -⟩
  cases hr

@[simp] theorem dpMsgPopUnsent_faultless : Faultless (dpMsgPopUnsent : Plugin σ (Option DpMsg)) := by
  intro w e w' h
  simp [ends_dpMsgPopUnsent] at h

@[simp] theorem dpMsgPopInflight_faultless :
    Faultless (dpMsgPopInflight : Plugin σ (Option DpMsg)) := by
  intro w e w' h
  simp [ends_dpMsgPopInflight] at h

/-- Only requests are put in flight. -/
theorem dpMsgCacheInflight_faultless {m : DpMsg} (hreq : m.msg.type = .request) :
    Faultless (dpMsgCacheInflight m : Plugin σ Unit) := by
  intro w e w' h
  simp [ends_dpMsgCacheInflight hreq] at h

@[simp] theorem wakeonDpWriteAvail_faultless : Faultless (wakeonDpWriteAvail : Plugin σ Unit) := by
  intro w e w' h
  simp at h

@[simp] theorem eventAddRead_faultless : Faultless (eventAddRead : Plugin σ Unit) := by
  intro w e w' h
  simp at h

/-- A context is followed where there is one. -/
theorem handleRpcCtxResponse_faultless (m : DpMsg) (rescode : RpcResultCode) :
    Faultless (handleRpcCtxResponse m rescode : Plugin σ DpMsg) := by
  unfold handleRpcCtxResponse dpMsgHandOff
  cases hctx : m.ctx with
  | none => simp
  | some c =>
    simp only [Option.isSome_some, if_true]
    exact avoids_bind (observe_faultless _) fun _ =>
      avoids_bind (observe_faultless _) fun _ => avoids_pure _

theorem recoverRequest_faultless (resp : RpcResponse) :
    Faultless (recoverRequest resp : Plugin σ (Option DpMsg)) := by
  apply avoids_bind dpMsgPopInflight_faultless
  intro popped
  cases popped with
  | none => exact avoids_pure _
  | some m =>
    apply avoids_ite
    · intro _
      exact avoids_bind (dpMsgRecycle_faultless m) fun _ => avoids_pure _
    · intro _
      apply avoids_ite
      · intro _
        exact avoids_bind (dpMsgRecycle_faultless m) fun _ => avoids_pure _
      · intro _
        exact avoids_pure _

variable [Os σ]

/-! ### The socket and sending -/

theorem dpUnixSockReopen_faultless : Faultless (dpUnixSockReopen : Plugin σ Unit) := by
  have hopen (path : PathBuf) : Faultless (dpUnixSockOpen path : Plugin σ Int) := by
    intro w e w' h
    rcases dpUnixSockOpen_returns path w with ⟨sock, os, hran⟩
    exact nomatch (h.unique hran).1
  have hclose : Faultless (dpUnixSockClose : Plugin σ Unit) := by
    apply avoids_bind avoids_get
    intro w
    apply avoids_ite <;> intro _
    · exact avoids_bind (osCall_faultless _) fun _ => avoids_bind (avoids_modify _) fun _ =>
        avoids_bind (avoids_modify _) fun _ => osCall_faultless _
    · exact osCall_faultless _
  apply avoids_bind hclose
  intro _
  apply avoids_bind avoids_get
  intro w
  apply avoids_bind (hopen _)
  intro sock
  exact avoids_bind (avoids_modify _) fun _ => observe_faultless _

theorem dpUnixConnect_faultless (path : PathBuf) : Faultless (dpUnixConnect path : Plugin σ Int) := by
  apply avoids_ite <;> intro _
  · exact avoids_pure _
  · apply avoids_bind avoids_get
    intro w
    apply avoids_bind (osCall_faultless _)
    intro result
    apply avoids_bind (observe_faultless _)
    intro _
    cases result with
    | none => exact avoids_pure _
    | some e =>
      apply avoids_ite <;> intro _
      · exact avoids_pure _
      · exact avoids_bind dpUnixSockReopen_faultless fun _ => avoids_pure _

section Send
variable {R : Plugin σ Unit} (hR : Faultless R)
include hR

omit [Os σ] in
theorem doSendRpcMsgError_faultless (e : Errno) : Faultless (doSendRpcMsgError R e) := by
  apply avoids_bind (count_faultless _)
  intro _
  apply avoids_ite <;> intro _
  · exact avoids_bind wakeonDpWriteAvail_faultless fun _ => avoids_pure _
  · apply avoids_ite <;> intro _
    · apply avoids_bind (avoids_modify _)
      intro _
      apply avoids_bind (avoids_modify _)
      intro _
      apply avoids_bind avoids_get
      intro w
      apply avoids_ite <;> intro _
      · exact avoids_bind hR fun _ => avoids_pure _
      · exact avoids_pure _
    · exact avoids_pure _

theorem doSendRpcMsg_faultless (m : DpMsg) : Faultless (doSendRpcMsg R m) := by
  apply avoids_bind avoids_get
  intro w
  apply avoids_ite <;> intro _
  · exact avoids_pure _
  have hcan : Faultless (canSendRpcRequest m.msg : Plugin σ Bool) :=
    avoids_bind avoids_get fun _ => avoids_pure _
  apply avoids_bind hcan
  intro can
  apply avoids_ite <;> intro _
  · exact avoids_pure _
  have henc : Faultless (encodeMsg m : Plugin σ (Option Nat)) :=
    avoids_bind (osCall_faultless _) fun _ => avoids_bind (avoids_modify _) fun _ =>
      avoids_bind (observe_faultless _) fun _ => avoids_pure _
  apply avoids_bind henc
  intro octets
  cases octets with
  | none => exact avoids_bind (count_faultless _) fun _ => avoids_pure _
  | some len =>
    have hsend : Faultless (osSend m len : Plugin σ SendResult) :=
      avoids_bind avoids_get fun _ => avoids_bind (osCall_faultless _) fun _ =>
        avoids_bind (observe_faultless _) fun _ => avoids_pure _
    apply avoids_bind hsend
    intro result
    cases result with
    | error e => exact doSendRpcMsgError_faultless hR e
    | octets k =>
      apply avoids_ite <;> intro _
      · exact avoids_pure _
      · exact avoids_bind (count_faultless _) fun _ =>
          avoids_bind (observe_faultless _) fun _ => avoids_pure _

theorem sendPendingStep_faultless : Faultless (sendPendingStep R) := by
  apply avoids_bind dpMsgPopUnsent_faultless
  intro popped
  cases popped with
  | none => exact avoids_pure _
  | some m =>
    apply avoids_bind (doSendRpcMsg_faultless hR m)
    intro r
    apply avoids_ite <;> intro _
    · apply avoids_ite
      · intro hreq
        exact avoids_bind (count_faultless _) fun _ =>
          avoids_bind (dpMsgCacheInflight_faultless hreq) fun _ => avoids_pure _
      · intro _
        apply avoids_ite <;> intro _
        · exact avoids_bind (count_faultless _) fun _ =>
            avoids_bind (dpMsgRecycle_faultless m) fun _ => avoids_pure _
        · exact avoids_bind (dpMsgRecycle_faultless m) fun _ => avoids_pure _
    · exact avoids_bind (avoids_modify _) fun _ => avoids_pure _

theorem sendPendingRpcMsgs_faultless : Faultless (sendPendingRpcMsgs R) :=
  avoids_bind avoids_get fun _ =>
    avoids_loop not_isFault_outOfFuel (sendPendingStep_faultless hR) _

theorem sendRpcMsg_faultless (m : DpMsg) : Faultless (sendRpcMsg R m) := by
  apply avoids_bind (observe_faultless _)
  intro _
  apply avoids_ite
  · intro hconn
    apply avoids_bind (doSendRpcMsg_faultless hR m)
    intro r
    apply avoids_ite <;> intro _
    · have hreq := ((RpcMsg.isConnect_iff _).mp hconn).1
      exact avoids_bind (count_faultless _) fun _ =>
        avoids_bind (dpMsgCacheInflight_faultless hreq) fun _ => avoids_pure _
    · exact avoids_bind (dpMsgRecycle_faultless m) fun _ => avoids_pure _
  · intro _
    exact avoids_bind (avoids_modify _) fun _ =>
      avoids_bind (sendPendingRpcMsgs_faultless hR) fun _ => avoids_pure _

/-- A request for a context is always built. -/
theorem sendRequest_faultless {op : RpcOp} (hop : op ≠ .connect) (c : CtxRef) (object : RpcObject) :
    Faultless (sendRequest R op (some c) object) := by
  intro w e w' h
  rcases sendRequest_ends hop h with ⟨ref, pool, next, -, hrest⟩
  exact sendRpcMsg_faultless hR _ _ _ _ hrest

theorem sendRpcRequestConnect_faultless : Faultless (sendRpcRequestConnect R) := by
  intro w e w' h
  rcases sendRpcRequestConnect_ends h with ⟨ref, pool, next, cinfo, -, hrest⟩
  exact sendRpcMsg_faultless hR _ _ _ _ hrest

theorem sendRpcControl_faultless (refresh : UInt8) : Faultless (sendRpcControl R refresh) :=
  avoids_bind dpMsgNew_faultless fun _ => sendRpcMsg_faultless hR _

theorem dpConnectStep_faultless : Faultless (dpConnectStep R) := by
  apply avoids_bind (observe_faultless _)
  intro _
  apply avoids_bind avoids_get
  intro w
  apply avoids_ite <;> intro _
  · exact avoids_pure _
  · apply avoids_bind (dpUnixConnect_faultless _)
    intro r
    apply avoids_ite <;> intro _
    · exact avoids_modify _
    · exact avoids_bind (avoids_modify _) fun _ =>
        avoids_bind (sendRpcRequestConnect_faultless hR) fun _ => eventAddRead_faultless

end Send

theorem dpConnect_faultless (n : Nat) : Faultless (dpConnect n : Plugin σ Unit) := by
  induction n with
  | zero => exact avoids_throw _ not_isFault_outOfFuel
  | succ n ih => exact dpConnectStep_faultless ih

/-! ### Responses -/

section Responses
variable {R : Plugin σ Unit} (hR : Faultless R)
include hR

theorem doHandleRpcResponse_faultless (resp : RpcResponse) (m : DpMsg) (purged : Bool) :
    Faultless (doHandleRpcResponse R resp m purged) := by
  have hctx := handleRpcCtxResponse_faultless (σ := σ) m resp.rescode
  apply avoids_bind (count_faultless _)
  intro _
  cases resp.op with
  | connect =>
    have hconn : Faultless (handleRpcConnectResponse R resp purged) := by
      apply avoids_ite <;> intro _
      · have hsynt : Faultless (recallSynt resp.objects : Plugin σ Unit) := by
          unfold recallSynt
          cases resp.objects with
          | none => exact avoids_pure _
          | some info => exact avoids_modify _
        apply avoids_bind hsynt
        intro _
        apply avoids_bind (avoids_modify _)
        intro _
        apply avoids_ite <;> intro _
        · exact sendPendingRpcMsgs_faultless hR
        · exact avoids_pure _
      · exact avoids_throw _ not_isFault_aborted
    exact avoids_bind hconn fun _ => avoids_pure _
  | add => exact hctx
  | del => exact hctx
  | update => exact hctx
  | known code => exact avoids_pure _
  | unknown code => exact avoids_pure _

theorem purgeStep_faultless (resp : RpcResponse) : Faultless (purgeStep R resp) := by
  apply avoids_bind dpMsgPopInflight_faultless
  intro popped
  cases popped with
  | none => exact avoids_pure _
  | some m =>
    apply avoids_ite <;> intro _
    · exact avoids_bind (doHandleRpcResponse_faultless hR _ _ _) fun m =>
        avoids_bind (dpMsgRecycle_faultless m) fun _ => avoids_pure _
    · exact avoids_bind (doHandleRpcResponse_faultless hR _ _ _) fun m =>
        avoids_bind (dpMsgRecycle_faultless m) fun _ => avoids_pure _

theorem handleRpcResponse_faultless (resp : RpcResponse) : Faultless (handleRpcResponse R resp) := by
  apply avoids_bind (observe_faultless _)
  intro _
  apply avoids_bind avoids_get
  intro w
  apply avoids_ite <;> intro _
  · exact avoids_loop not_isFault_outOfFuel (purgeStep_faultless hR resp) _
  · apply avoids_bind (recoverRequest_faultless resp)
    intro recovered
    cases recovered with
    | none => exact avoids_pure _
    | some m => exact avoids_bind (doHandleRpcResponse_faultless hR _ _ _) dpMsgRecycle_faultless

theorem handleRpcMsg_faultless (msg : RpcMsg) : Faultless (handleRpcMsg R msg) := by
  unfold handleRpcMsg
  split
  · exact handleRpcResponse_faultless hR _
  · apply avoids_ite <;> intro _
    · exact avoids_bind (observe_faultless _) fun _ =>
        avoids_bind (sendRpcControl_faultless hR 1) fun _ => count_faultless _
    · exact count_faultless _
  · exact avoids_pure _

theorem dpRpcRecv_faultless (n : Nat) : Faultless (dpRpcRecv n R) := by
  have hrecv : Faultless (sockRecv : Plugin σ (Option Datagram)) := by
    apply avoids_bind avoids_get
    intro w
    apply avoids_bind (osCall_faultless _)
    intro result
    cases result with
    | error e => exact avoids_bind (count_faultless _) fun _ => avoids_pure _
    | data d => exact avoids_bind (count_faultless _) fun _ => avoids_pure _
  have hstep : Faultless (dpRpcRecvStep R) := by
    apply avoids_bind hrecv
    intro received
    cases received with
    | none => exact avoids_pure _
    | some d =>
      apply avoids_ite <;> intro _
      · exact avoids_pure _
      · cases hdec : d.decoded with
        | none => exact avoids_bind (count_faultless _) fun _ => avoids_pure _
        | some msg => exact avoids_bind (handleRpcMsg_faultless hR msg) fun _ => avoids_pure _
  exact avoids_bind eventAddRead_faultless fun _ => avoids_loop not_isFault_outOfFuel hstep n

end Responses

/-! ### Callbacks -/

section Callbacks
variable {R : Plugin σ Unit} (hR : Faultless R)
include hR

theorem hhProcess_faultless (ctx : ZebraCtx) : Faultless (hhProcess R ctx) := by
  have hreq {op : RpcOp} (hop : op ≠ .connect) (object : RpcObject) :=
    sendRequest_faultless hR hop ctx.ref object
  have hroute {op : RpcOp} (hop : op ≠ .connect) : Faultless (sendRpcRequestIproute R op ctx) := by
    apply avoids_ite <;> intro _
    · exact avoids_pure _
    · exact hreq hop _
  have hroutes : Faultless (hhProcessRoutes R ctx) := by
    apply avoids_ite <;> intro _
    · exact avoids_pure _
    apply avoids_ite <;> intro _
    · exact avoids_pure _
    have hskip : Faultless (if ctx.vrf ≠ 0 then observe (.skipKernel ctx.ref) else pure () :
        Plugin σ Unit) := by
      apply avoids_ite <;> intro _
      · exact observe_faultless _
      · exact avoids_pure _
    apply avoids_bind hskip
    intro _
    split
    · exact avoids_bind (hroute (by decide)) fun _ => avoids_pure _
    · exact avoids_bind (hroute (by decide)) fun _ => avoids_pure _
    · exact avoids_bind (hroute (by decide)) fun _ => avoids_pure _
    all_goals exact avoids_pure _
  have hifaddr {op : RpcOp} (hop : op ≠ .connect) :
      Faultless (sendRpcRequestIfaddress R op ctx) := by
    apply avoids_ite <;> intro _
    · exact avoids_pure _
    · exact hreq hop _
  have haddr : Faultless (hhProcessIfaddr R ctx) := by
    unfold hhProcessIfaddr
    split
    · exact avoids_pure _
    split
    · exact avoids_bind (hifaddr (by decide)) fun _ => avoids_pure _
    · exact avoids_bind (hifaddr (by decide)) fun _ => avoids_pure _
    · exact avoids_pure _
  have hrmac {op : RpcOp} (hop : op ≠ .connect) : Faultless (sendRpcRequestRmac R op ctx) := by
    apply avoids_ite <;> intro _
    · exact avoids_pure _
    · exact hreq hop _
  have hmac : Faultless (hhProcessMacinfo R ctx) := by
    unfold hhProcessMacinfo
    split
    · exact avoids_bind (hrmac (by decide)) fun _ => avoids_pure _
    · exact avoids_bind (hrmac (by decide)) fun _ => avoids_pure _
    · exact avoids_pure _
  unfold hhProcess
  split <;> first
    | exact hroutes
    | exact haddr
    | exact hmac
    | exact avoids_pure _

theorem zdHhProcess_faultless (limit : Nat) (queue : List ZebraCtx) :
    Faultless (zdHhProcess R limit queue) := by
  have hloop (limit : Nat) (queue : List ZebraCtx) :
      Faultless (zdHhProcessLoop R limit queue) := by
    induction limit generalizing queue with
    | zero => exact avoids_pure _
    | succ limit ih =>
      cases queue with
      | nil => exact avoids_pure _
      | cons ctx queue =>
        apply avoids_bind (observe_faultless _)
        intro _
        apply avoids_bind avoids_get
        intro w
        apply avoids_ite <;> intro _
        · apply avoids_bind (avoids_bind (hhProcess_faultless hR ctx) fun r => ?_) fun _ => ih queue
          apply avoids_ite <;> intro _
          · exact observe_faultless _
          · exact observe_faultless _
        · exact avoids_bind (observe_faultless _) fun _ => ih queue
  apply avoids_bind (hloop limit queue)
  intro _
  apply avoids_bind avoids_get
  intro w
  apply avoids_ite <;> intro _
  · exact observe_faultless _
  · exact avoids_pure _

theorem dpSockSendCb_faultless : Faultless (dpSockSendCb R) := by
  apply avoids_bind avoids_get
  intro w
  apply avoids_ite <;> intro _
  · exact avoids_pure _
  · apply avoids_bind (sendPendingRpcMsgs_faultless hR)
    intro _
    apply avoids_bind avoids_get
    intro w
    apply avoids_ite <;> intro _
    · exact wakeonDpWriteAvail_faultless
    · exact avoids_pure _

theorem dpSendKeepalive_faultless : Faultless (dpSendKeepalive R) := by
  apply avoids_bind avoids_get
  intro w
  apply avoids_ite <;> intro _
  · exact avoids_bind (sendRpcControl_faultless hR 0) fun _ => avoids_modify _
  · exact avoids_modify _

end Callbacks

/-- No callback ends with a fault. -/
theorem callback_faultless (n : Nat) (cb : Callback) : Faultless (cb.run n : Plugin σ Unit) := by
  have hR : Faultless (dpConnect n : Plugin σ Unit) := dpConnect_faultless n
  apply avoids_bind (observe_faultless _)
  intro _
  cases cb with
  | process limit queue => exact zdHhProcess_faultless hR limit queue
  | connectTimer => exact avoids_bind (avoids_modify _) fun _ => hR
  | recv => exact avoids_bind (avoids_modify _) fun _ => dpRpcRecv_faultless hR n
  | send => exact avoids_bind (avoids_modify _) fun _ => dpSockSendCb_faultless hR
  | keepalive => exact avoids_bind (avoids_modify _) fun _ => dpSendKeepalive_faultless hR
  | finiEarly => exact avoids_modify _

/-- The initialization does not end with a fault. -/
theorem initDplaneRpc_faultless (n : Nat) : Faultless (initDplaneRpc n : Plugin σ Int) := by
  have hopen (path : PathBuf) : Faultless (dpUnixSockOpen path : Plugin σ Int) := by
    intro w e w' h
    rcases dpUnixSockOpen_returns path w with ⟨sock, os, hran⟩
    exact nomatch (h.unique hran).1
  have hbuffers : Faultless (initRpcBuffers : Plugin σ Int) := by
    apply avoids_bind (osCall_faultless _)
    intro tx
    apply avoids_bind (osCall_faultless _)
    intro rx
    apply avoids_ite <;> intro _
    · exact avoids_pure _
    · exact avoids_bind (avoids_modify _) fun _ => avoids_pure _
  apply avoids_bind avoids_get
  intro w
  apply avoids_bind (hopen _)
  intro sock
  apply avoids_bind (avoids_modify _)
  intro _
  apply avoids_ite <;> intro _
  · exact avoids_pure _
  apply avoids_bind hbuffers
  intro r
  apply avoids_ite <;> intro _
  · exact avoids_pure _
  · exact avoids_bind (avoids_modify _) fun _ => avoids_bind (dpConnect_faultless n) fun _ =>
      avoids_bind (dpSendKeepalive_faultless (dpConnect_faultless n)) fun _ => avoids_pure _

end DplanePlugin
