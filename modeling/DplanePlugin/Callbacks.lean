/-
  DplanePlugin/Callbacks.lean
  ===========================
  **What a callback may do, one thing after the other.**

  Beyond drains, reconnects and the handling of responses, a callback passes
  requests for contexts on, and it asks zebra for a refresh and confirms this.  A
  preorder on states that admits these steps bounds the callbacks that make them
  (`callback_within`), so an invariant about which messages are passed on, and
  when, is checked on the steps alone.
-/
import DplanePlugin.Inner

namespace DplanePlugin

open Lib

variable {σ : Type}

/-! ### The steps -/

/-- The objects that an operation can be requested for. -/
def RpcOp.Takes (op : RpcOp) : RpcObject → Prop
  | .ipRoute _ => op = .add ∨ op = .del ∨ op = .update
  | .ifAddress _ | .rmac _ => op = .add ∨ op = .del
  | _ => False

theorem RpcOp.Takes.ne_connect {op : RpcOp} {object : RpcObject} (h : op.Takes object) :
    op ≠ .connect := by
  rintro rfl
  cases object <;> simp [RpcOp.Takes] at h

/-- Entries that are neither of a refresh nor of a message passed on, a Connect aside. -/
def Obs.Plain : Obs → Prop
  | .callback _ | .providerRefresh => False
  | .passed m => ∃ ref cinfo, m = connectMsg ref cinfo
  | _ => True

theorem Obs.Inner.plain {o : Obs} (h : o.Inner) : o.Plain := by
  cases o <;> trivial

/-- A preorder that holds between the states before and after each step. -/
structure Admits (rel : World σ → World σ → Prop) : Prop where
  plain : ∀ w w', w.Extends Obs.Plain w' → rel w w'
  callback : ∀ w k, rel w (w.observe (.callback k))
  keepalive : ∀ w ref, rel w (w.observe (.passed (controlMsg ref 0)))
  request : ∀ w ref op seqn object c, op.Takes object →
    rel w (w.observe (.passed (requestMsg ref op seqn object (some c))))
  refresh : ∀ w ref pool next,
    rel w ({ w.observe .providerRefresh with pool := pool, nextRef := next }.observe
      (.passed (controlMsg ref 1)))

section Primitives
variable {φ : Obs → Prop}

theorem observe_within {o : Obs} (ho : φ o) :
    Within (World.Extends φ) (observe o : Plugin σ Unit) :=
  within_modify (extends_observe ho)

theorem count_within (f : RpcStats → RpcStats) :
    Within (World.Extends φ) (count f : Plugin σ Unit) :=
  within_modify fun _ => extends_of_same rfl rfl rfl

theorem osCall_within {α : Type} (f : σ → α × σ) : Within (World.Extends φ) (osCall f) := by
  intro w r w' h
  obtain ⟨-, rfl⟩ := (ends_osCall _ _ _ _).mp h
  exact extends_of_same rfl rfl rfl

theorem dpMsgRecycle_within (m : DpMsg) :
    Within (World.Extends Obs.Plain) (dpMsgRecycle m : Plugin σ Unit) := by
  intro w r w' h
  obtain ⟨-, rfl⟩ := (ends_dpMsgRecycle _ _ _ _).mp h
  exact (extends_recycle w m).mono fun _ => Obs.Inner.plain

theorem dpMsgPopInflight_within :
    Within (World.Extends Obs.Plain) (dpMsgPopInflight : Plugin σ (Option DpMsg)) := by
  intro w r w' h
  rcases (ends_dpMsgPopInflight _ _ _).mp h with ⟨-, -, rfl⟩ | ⟨m, rest, -, -, rfl⟩
  · exact Std.Refl.refl _
  · exact ⟨List.prefix_append _ _, by simp [Obs.Plain], rfl, rfl⟩

end Primitives

variable [Os σ] {R : Plugin σ Unit}

theorem sendPendingRpcMsgs_within (hR : Reconnects R) :
    Within (World.Extends Obs.Plain) (sendPendingRpcMsgs R) :=
  (sendPendingRpcMsgs_inner hR).mono fun _ _ h => h.mono fun _ => Obs.Inner.plain

/-! ### Responses -/

section Responses
variable (hR : Reconnects R)
include hR

theorem doHandleRpcResponse_within (resp : RpcResponse) (m : DpMsg) (purged : Bool) :
    Within (World.Extends Obs.Plain) (doHandleRpcResponse R resp m purged) := by
  have hctx : Within (World.Extends Obs.Plain)
      (handleRpcCtxResponse m resp.rescode : Plugin σ DpMsg) := by
    refine .ite (fun _ => ?_) fun _ => within_pure _
    unfold dpMsgHandOff
    cases m.ctx with
    | none => exact within_throw _
    | some c =>
      exact (observe_within trivial).bind fun _ => (observe_within trivial).bind fun _ =>
        within_pure _
  refine (count_within _).bind fun _ => ?_
  cases resp.op with
  | connect =>
    refine Within.bind (.ite (fun _ => ?_) fun _ => within_throw _) fun _ => within_pure _
    have hsynt : Within (World.Extends Obs.Plain) (recallSynt resp.objects : Plugin σ Unit) := by
      cases resp.objects with
      | none => exact within_pure _
      | some info => exact within_modify fun _ => extends_of_same rfl rfl rfl
    refine hsynt.bind fun _ => Within.bind (within_modify fun _ => extends_of_same rfl rfl rfl)
      fun _ => ?_
    exact .ite (fun _ => sendPendingRpcMsgs_within hR) fun _ => within_pure _
  | add | del | update => exact hctx
  | known | unknown => exact within_pure _

theorem handleRpcResponse_within (resp : RpcResponse) :
    Within (World.Extends Obs.Plain) (handleRpcResponse R resp) := by
  refine (observe_within trivial).bind fun _ => within_get.bind fun w => ?_
  refine .ite (fun _ => ?_) fun _ => ?_
  · refine Within.loop (dpMsgPopInflight_within.bind fun popped => ?_) _
    cases popped with
    | none => exact within_pure _
    | some m =>
      refine .ite (fun _ => ?_) fun _ => ?_
      · exact (doHandleRpcResponse_within hR _ m true).bind fun m =>
          (dpMsgRecycle_within m).bind fun _ => within_pure _
      · exact (doHandleRpcResponse_within hR _ m true).bind fun m =>
          (dpMsgRecycle_within m).bind fun _ => within_pure _
  · have hrecover : Within (World.Extends Obs.Plain)
        (recoverRequest resp : Plugin σ (Option DpMsg)) := by
      refine dpMsgPopInflight_within.bind fun popped => ?_
      cases popped with
      | none => exact within_pure _
      | some m =>
        exact .ite (fun _ => (dpMsgRecycle_within m).bind fun _ => within_pure _) fun _ =>
          .ite (fun _ => (dpMsgRecycle_within m).bind fun _ => within_pure _) fun _ =>
            within_pure _
    refine hrecover.bind fun recovered => ?_
    cases recovered with
    | none => exact within_pure _
    | some m =>
      exact (doHandleRpcResponse_within hR resp m false).bind fun m => dpMsgRecycle_within m

end Responses

/-! ### Messages passed on -/

section Admits
variable {rel : World σ → World σ → Prop} [IsPreorder (World σ) rel] (hrel : Admits rel)
  (hR : Reconnects R)
include hrel hR

omit hrel in
/-- A message that is no Connect is passed on, cached, and the unsent list is drained. -/
theorem sendRpcMsg_passes {m : DpMsg} (hm : m.msg.isConnect = false) {w : World σ}
    {r : Except Halt Int} {w' : World σ} (h : Ends (sendRpcMsg R m) w r w') :
    (w.observe (.passed m)).Extends Obs.Inner w' := by
  rw [sendRpcMsg, ends_observe_bind, if_neg (by simp [hm])] at h
  have hrest : Within (World.Extends Obs.Inner)
      (dpMsgCacheUnsent m >>= fun _ => sendPendingRpcMsgs R >>= fun _ => pure (0 : Int)) :=
    Within.bind (within_modify fun _ => extends_of_same rfl rfl rfl) fun _ =>
      (sendPendingRpcMsgs_inner hR).bind fun _ => within_pure _
  exact hrest _ _ _ h

omit hrel in
/-- `send_rpc_control` passes a control message on. -/
theorem sendRpcControl_passes (refresh : UInt8) {w : World σ} {r : Except Halt Int}
    {w' : World σ} (h : Ends (sendRpcControl R refresh) w r w') :
    ∃ ref pool next, World.Extends Obs.Inner
      ({ w with pool := pool, nextRef := next }.observe (.passed (controlMsg ref refresh))) w' := by
  rcases (ends_bind _ _ _ _ _).mp h with ⟨m, u, hnew, hpass⟩ | ⟨e, hnew, -⟩
  · rcases dpMsgNew_ends hnew with ⟨ref, pool, next, -, hm, rfl⟩
    cases hm
    exact ⟨ref, pool, next, sendRpcMsg_passes hR (controlMsg_isConnect ref refresh) hpass⟩
  · rcases dpMsgNew_ends hnew with ⟨_, _, _, -, hm, -⟩
    cases hm

theorem sendRequest_within {op : RpcOp} {object : RpcObject} (h : op.Takes object) (c : CtxRef) :
    Within rel (sendRequest R op (some c) object) := by
  intro w r w' hrun
  rcases sendRequest_ends h.ne_connect hrun with ⟨ref, pool, next, -, hpass⟩
  have hm : (requestMsg ref op w.seqnum object (some c)).msg.isConnect = false := by
    simpa [← Bool.not_eq_true] using h.ne_connect
  have hnew : rel w { w with pool := pool, nextRef := next, seqnum := w.seqnum + 1 } :=
    hrel.plain _ _ (extends_of_same rfl rfl rfl)
  have hcached := hrel.plain _ _ ((sendRpcMsg_passes hR hm hpass).mono fun _ => Obs.Inner.plain)
  exact IsTrans.trans _ _ _ hnew (IsTrans.trans _ _ _ (hrel.request _ _ _ _ _ _ h) hcached)

theorem hhProcess_within (ctx : ZebraCtx) : Within rel (hhProcess R ctx) := by
  have hroute {op : RpcOp} (hop : op = .add ∨ op = .del ∨ op = .update) :
      Within rel (sendRpcRequestIproute R op ctx) :=
    .ite (fun _ => within_pure _) fun _ => sendRequest_within hrel hR (by exact hop) _
  have hifaddr {op : RpcOp} (hop : op = .add ∨ op = .del) :
      Within rel (sendRpcRequestIfaddress R op ctx) :=
    .ite (fun _ => within_pure _) fun _ => sendRequest_within hrel hR (by exact hop) _
  have hrmac {op : RpcOp} (hop : op = .add ∨ op = .del) :
      Within rel (sendRpcRequestRmac R op ctx) :=
    .ite (fun _ => within_pure _) fun _ => sendRequest_within hrel hR (by exact hop) _
  have hroutes : Within rel (hhProcessRoutes R ctx) := by
    refine .ite (fun _ => within_pure _) fun _ => .ite (fun _ => within_pure _) fun _ => ?_
    refine Within.bind (.ite (fun _ => ?_) fun _ => within_pure _) fun _ => ?_
    · exact (observe_within (o := .skipKernel ctx.ref) trivial).mono hrel.plain
    · split <;> first
        | exact within_pure _
        | exact (hroute (by simp)).bind fun _ => within_pure _
  have hifaddrs : Within rel (hhProcessIfaddr R ctx) := by
    unfold hhProcessIfaddr
    split
    · exact within_pure _
    · split <;> first
        | exact within_pure _
        | exact (hifaddr (by simp)).bind fun _ => within_pure _
  have hmacs : Within rel (hhProcessMacinfo R ctx) := by
    unfold hhProcessMacinfo
    split <;> first
      | exact within_pure _
      | exact (hrmac (by simp)).bind fun _ => within_pure _
  unfold hhProcess
  split <;> first
    | exact within_pure _
    | exact hroutes
    | exact hifaddrs
    | exact hmacs

theorem zdHhProcess_within (limit : Nat) (queue : List ZebraCtx) :
    Within rel (zdHhProcess R limit queue) := by
  have hobserve {o : Obs} (ho : o.Plain) : Within rel (observe o : Plugin σ Unit) :=
    (observe_within ho).mono hrel.plain
  have hloop : Within rel (zdHhProcessLoop R limit queue) := by
    induction limit generalizing queue with
    | zero => exact within_pure _
    | succ limit ih =>
      cases queue with
      | nil => exact within_pure _
      | cons ctx queue =>
        refine Within.bind (hobserve (by trivial)) fun _ => within_get.bind fun w => ?_
        refine .ite (fun _ => ?_) fun _ => ?_
        · refine Within.bind ((hhProcess_within hrel hR ctx).bind fun res => ?_) fun _ => ih queue
          exact .ite (fun _ => hobserve (by trivial)) fun _ => hobserve (by trivial)
        · exact Within.bind (hobserve (by trivial)) fun _ => ih queue
  refine hloop.bind fun _ => within_get.bind fun w => ?_
  exact .ite (fun _ => hobserve (by trivial)) fun _ => within_pure _

theorem handleRpcControl_within (ctl : RpcControl) : Within rel (handleRpcControl R ctl) := by
  have hcount : Within rel (rpcCountCtlRx : Plugin σ Unit) := (count_within _).mono hrel.plain
  refine .ite (fun _ => ?_) fun _ => hcount
  intro w r w' h
  rw [ends_observe_bind] at h
  have hrest : ∀ a w₁, Ends (sendRpcControl R 1) (w.observe .providerRefresh) a w₁ → rel w w₁ := by
    intro a w₁ hsend
    rcases sendRpcControl_passes hR 1 hsend with ⟨ref, pool, next, hext⟩
    exact IsTrans.trans _ _ _ (hrel.refresh w ref pool next)
      (hrel.plain _ _ (hext.mono fun _ => Obs.Inner.plain))
  rcases (ends_bind _ _ _ _ _).mp h with ⟨a, w₁, hsend, hret⟩ | ⟨e, hsend, -⟩
  · exact IsTrans.trans _ _ _ (hrest _ _ hsend) (hcount _ _ _ hret)
  · exact hrest _ _ hsend

theorem dpRpcRecv_within (n : Nat) : Within rel (dpRpcRecv n R) := by
  have hcount {f : RpcStats → RpcStats} : Within rel (count f : Plugin σ Unit) :=
    (count_within f).mono hrel.plain
  have hrecv : Within rel (sockRecv : Plugin σ (Option Datagram)) := by
    refine within_get.bind fun w => ((osCall_within _).mono hrel.plain).bind fun result => ?_
    cases result with
    | error e => exact hcount.bind fun _ => within_pure _
    | data d => exact hcount.bind fun _ => within_pure _
  have hadd : Within rel (eventAddRead : Plugin σ Unit) := by
    intro w r w' h
    obtain ⟨-, rfl⟩ := (ends_eventAddRead _ _ _).mp h
    exact hrel.plain _ _ (extends_of_same rfl rfl rfl)
  refine hadd.bind fun _ => Within.loop (hrecv.bind fun received => ?_) n
  cases received with
  | none => exact within_pure _
  | some d =>
    refine .ite (fun _ => within_pure _) fun _ => ?_
    cases d.decoded with
    | none => exact hcount.bind fun _ => within_pure _
    | some msg =>
      refine Within.bind ?_ fun _ => within_pure _
      unfold handleRpcMsg
      cases msg.type with
      | response => exact (handleRpcResponse_within hR _).mono hrel.plain
      | control => exact handleRpcControl_within hrel hR _
      | _ => exact within_pure _

theorem dpSockSendCb_within : Within rel (dpSockSendCb R) := by
  refine within_get.bind fun w => .ite (fun _ => within_pure _) fun _ => ?_
  refine ((sendPendingRpcMsgs_within hR).mono hrel.plain).bind fun _ => within_get.bind fun w => ?_
  refine .ite (fun _ => ?_) fun _ => within_pure _
  intro w r w' h
  obtain ⟨-, rfl⟩ := (ends_wakeonDpWriteAvail _ _ _).mp h
  exact hrel.plain _ _ (extends_of_same rfl rfl rfl)

/-! ### Callbacks -/

/-- The keepalive is sent, or not, and the timer is armed. -/
theorem dpSendKeepalive_within (hev : ∀ w, rel w { w with evKeepalive := true }) :
    Within rel (dpSendKeepalive R) := by
  have harm : Within rel (modify fun w => { w with evKeepalive := true } : Plugin σ Unit) :=
    within_modify hev
  refine within_get.bind fun w => .ite (fun _ => Within.bind ?_ fun _ => harm) fun _ => harm
  intro w r w' h
  rcases sendRpcControl_passes hR 0 h with ⟨ref, pool, next, hext⟩
  have hnew : rel w { w with pool := pool, nextRef := next } :=
    hrel.plain _ _ (extends_of_same rfl rfl rfl)
  have hsent := hrel.plain _ _ (hext.mono fun _ => Obs.Inner.plain)
  exact IsTrans.trans _ _ _ hnew (IsTrans.trans _ _ _ (hrel.keepalive _ ref) hsent)

omit hR in
/-- A preorder that admits the steps holds between the states before and after a
    callback that writes neither the keepalive timer nor `finalizing`. -/
theorem callback_within (n : Nat) {cb : Callback} (hkeep : cb.kind ≠ .keepalive)
    (hfini : cb.kind ≠ .finiEarly) : Within rel (cb.run n) := by
  have hR' : Reconnects (dpConnect n : Plugin σ Unit) := dpConnect_refines n
  have hclear {f : World σ → World σ} (hf : ∀ w, w.Extends Obs.Plain (f w)) :
      Within rel (modify f : Plugin σ Unit) := within_modify fun w => hrel.plain w _ (hf w)
  refine Within.bind (within_modify fun w => hrel.callback w cb.kind) fun _ => ?_
  cases cb with
  | process limit queue => exact zdHhProcess_within hrel hR' limit queue
  | connectTimer =>
    refine Within.bind (hclear ?_) fun _ => ?_
    · exact fun _ => extends_of_same rfl rfl rfl
    · exact (dpConnect_inner n).mono fun w w' h => hrel.plain w w' (h.mono fun _ => Obs.Inner.plain)
  | recv =>
    refine Within.bind (hclear ?_) fun _ => dpRpcRecv_within hrel hR' n
    exact fun _ => extends_of_same rfl rfl rfl
  | send =>
    refine Within.bind (hclear ?_) fun _ => dpSockSendCb_within hrel hR'
    exact fun _ => extends_of_same rfl rfl rfl
  | keepalive => exact absurd rfl hkeep
  | finiEarly => exact absurd rfl hfini

end Admits

/-! ### Whole runs -/

section Runs
variable {rel : World σ → World σ → Prop} [IsPreorder (World σ) rel] (hrel : Admits rel)
  (hlog : ∀ w w', w'.log = w.log → rel w w')
include hrel hlog

/-- A preorder on the logs that admits the steps holds between the states before and
    after any callback. -/
theorem callback_within_log (n : Nat) (cb : Callback) : Within rel (cb.run n) := by
  have hR : Reconnects (dpConnect n : Plugin σ Unit) := dpConnect_refines n
  cases cb with
  | keepalive =>
    refine Within.bind (within_modify fun w => hrel.callback w .keepalive) fun _ => ?_
    refine Within.bind (within_modify fun w => hlog w _ rfl) fun _ => ?_
    exact dpSendKeepalive_within hrel hR fun w => hlog w _ rfl
  | finiEarly =>
    refine Within.bind (within_modify fun w => hrel.callback w .finiEarly) fun _ => ?_
    exact within_modify fun w => hlog w _ rfl
  | _ => exact callback_within hrel n (by simp [Callback.kind]) (by simp [Callback.kind])

theorem initDplaneRpc_within (n : Nat) : Within rel (initDplaneRpc n : Plugin σ Int) := by
  have hR : Reconnects (dpConnect n : Plugin σ Unit) := dpConnect_refines n
  have hopen (path : PathBuf) : Within rel (dpUnixSockOpen path : Plugin σ Int) := by
    intro w r w' h
    rcases dpUnixSockOpen_returns path w with ⟨sock, os, hran⟩
    obtain ⟨-, rfl⟩ := hran.unique h
    exact hlog w _ rfl
  have hbuff : Within rel (osCall Os.buffNew : Plugin σ Bool) :=
    (osCall_within _).mono hrel.plain
  refine within_get.bind fun w => (hopen _).bind fun sock => ?_
  refine Within.bind (within_modify fun w => hlog w _ rfl) fun _ => ?_
  refine .ite (fun _ => within_pure _) fun _ => Within.bind ?_ fun r => ?_
  · refine hbuff.bind fun tx => hbuff.bind fun rx => .ite (fun _ => within_pure _) fun _ => ?_
    exact Within.bind (within_modify fun w => hlog w _ rfl) fun _ => within_pure _
  · refine .ite (fun _ => within_pure _) fun _ => ?_
    refine Within.bind (within_modify fun w => hlog w _ rfl) fun _ => ?_
    refine Within.bind ?_ fun _ => Within.bind ?_ fun _ => within_pure _
    · exact (dpConnect_inner n).mono fun w w' h => hrel.plain w w' (h.mono fun _ => Obs.Inner.plain)
    · exact dpSendKeepalive_within hrel hR fun w => hlog w _ rfl

theorem Reachable.within {w : World σ} (h : Reachable w) : ∃ w₀, w₀.log = [] ∧ rel w₀ w := by
  induction h with
  | init hrun => exact ⟨_, rfl, initDplaneRpc_within hrel hlog _ _ _ _ hrun⟩
  | callback _ _ hrun ih =>
    rcases ih with ⟨w₀, hw₀, hto⟩
    exact ⟨w₀, hw₀, IsTrans.trans _ _ _ hto (callback_within_log hrel hlog _ _ _ _ _ hrun)⟩
  | outside _ _ ih =>
    rcases ih with ⟨w₀, hw₀, hto⟩
    exact ⟨w₀, hw₀, IsTrans.trans _ _ _ hto (hlog _ _ rfl)⟩

/-- A preorder on the logs that admits the steps leads from the empty log to any state
    of a run. -/
theorem Reached.within {w : World σ} (h : Reached w) : ∃ w₀, w₀.log = [] ∧ rel w₀ w := by
  cases h with
  | between h => exact h.within hrel hlog
  | inInit hrun => exact ⟨_, rfl, initDplaneRpc_within hrel hlog _ _ _ _ hrun⟩
  | inCallback h _ hrun =>
    rcases h.within hrel hlog with ⟨w₀, hw₀, hto⟩
    exact ⟨w₀, hw₀, IsTrans.trans _ _ _ hto (callback_within_log hrel hlog _ _ _ _ _ hrun)⟩

end Runs

end DplanePlugin
