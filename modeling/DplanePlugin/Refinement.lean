/-
  DplanePlugin/Refinement.lean
  ============================
  **Every callback of the plugin is a path of actions.**

  One lemma for each function of the source, from `do_send_rpc_msg` up to the
  callbacks, says from which frames to which its runs lead.  A run that stops
  half-way (it aborted, or was cut at the bound on nested reconnects) is a path
  too, so what is proved of all configurations of the machine holds at every
  moment of every callback, also of one that never returns.
-/
import DplanePlugin.Lib.Follows
import DplanePlugin.Actions

namespace DplanePlugin

open Lib

variable {σ : Type} [Os σ]

/-- Every run of `p` from `w` is a path from the frames `fs`. -/
abbrev Refines {α : Type} (p : Plugin σ α) (fs : List Frame) (w : World σ)
    (fs' : α → List Frame) : Prop :=
  Follows Act Config.mk p fs w fs'

/-- What the functions below assume of the reconnect inside a failing send. -/
def Reconnects (R : Plugin σ Unit) : Prop :=
  ∀ fs w, Refines R (.reconnect :: fs) w fun _ => fs

/-! ### do_send_rpc_msg -/

omit [Os σ] in
theorem canSendRpcRequest_ran (msg : RpcMsg) (w : World σ) :
    Ran (canSendRpcRequest msg) w (msg.isConnect || w.dplaneIsReady) w := by
  simp [canSendRpcRequest, Ran]

theorem encodeMsg_ran (m : DpMsg) (w : World σ) {result : Option Nat} {os : σ}
    (h : Os.encodeMsg m.msg w.os = (result, os)) :
    Ran (encodeMsg m) w result
      { w with os := os, txBuff := some (result.getD 0),
               log := w.log ++ [⟨.encoded m result, w.view⟩] } := by
  simp only [Ran, encodeMsg, ends_osCall_bind, ends_modify_bind, ends_observe_bind, ends_pure, h]
  exact ⟨trivial, rfl⟩

theorem osSend_ran (m : DpMsg) (len : Nat) (w : World σ) {result : SendResult} {os : σ}
    (h : Os.send w.dpSock m.msg len w.os = (result, os)) :
    Ran (osSend m len) w result
      { w with os := os, log := w.log ++ [⟨.send m len result, w.view⟩] } := by
  simp only [Ran, osSend, ends_get_bind, ends_osCall_bind, ends_observe_bind, ends_pure, h]
  exact ⟨trivial, rfl⟩

/-- `m` was sent: what `do_send_rpc_msg` did when it returns 0. -/
def World.Sends (w : World σ) (m : DpMsg) (w' : World σ) : Prop :=
  ∃ len os, w.MaySend m ∧ w.Attempts m len (.octets len) os ∧
    w' = ((w.sendTried os m len (.octets len)).count .tx).observe (.sent m)

/-- A run that fails to send `m`: it returns -1 or stops, and a path leads on. -/
def FailsToSend (o : Origin) (m : DpMsg) (fs : List Frame) (w : World σ) (r : Except Halt Int)
    (w' : World σ) : Prop :=
  (∀ a, r = .ok a → a = -1) ∧
    Leads Act Config.mk (.sending o m :: fs) w (fun _ => .failed o m :: fs) r w'

theorem failsToSend_of_act {o : Origin} {m : DpMsg} {fs : List Frame} {w w' : World σ}
    (h : Act ⟨.sending o m :: fs, w⟩ ⟨.failed o m :: fs, w'⟩) :
    FailsToSend o m fs w (.ok (-1)) w' := by
  refine ⟨?_, .single h⟩
  intro a ha
  cases ha
  rfl

theorem doSendRpcMsgError_refines {R : Plugin σ Unit} (hR : Reconnects R) (o : Origin)
    {m : DpMsg} (fs : List Frame) {w : World σ} {len : Nat} {e : Errno} {os : σ}
    (hmay : w.MaySend m) (htry : w.Attempts m len (.error e) os)
    {r : Except Halt Int} {w' : World σ}
    (h : Ends (doSendRpcMsgError R e) (w.sendTried os m len (.error e)) r w') :
    FailsToSend o m fs w r w' := by
  simp only [doSendRpcMsgError, rpcCountTxError, ends_count_bind] at h
  by_cases hb : e.isBlocked = true
  · rw [if_pos hb, ends_wakeonDpWriteAvail_bind] at h
    obtain ⟨rfl, rfl⟩ := (ends_pure _ _ _ _).mp h
    exact failsToSend_of_act (.sendBlocked hmay htry hb)
  rw [if_neg hb] at h
  by_cases hd : e.isDisconnect = true
  · rw [if_pos hd] at h
    simp only [dplaneSetReady, ends_modify_bind, ends_get_bind] at h
    change Ends (if w.evConnectTimer = false then _ else _)
      ((w.sendTried os m len (.error e)).count (·.txError e)).disconnected r w' at h
    by_cases htimer : w.evConnectTimer = false
    · rw [if_pos htimer] at h
      have hstep : Path ⟨.sending o m :: fs, w⟩ ⟨.reconnect :: .failed o m :: fs,
          ((w.sendTried os m len (.error e)).count (·.txError e)).disconnected⟩ :=
        .single (.sendDisconnected hmay htry hd htimer)
      obtain ⟨_, t, hran, hret⟩ | ⟨x, hhalts, rfl⟩ := (ends_bind _ _ _ _ _).mp h
      · obtain ⟨rfl, rfl⟩ := (ends_pure _ _ _ _).mp hret
        refine ⟨?_, hstep.trans ((hR _ _).returns hran)⟩
        intro a ha
        cases ha
        rfl
      · refine ⟨?_, Leads.trans hstep (hR (.failed o m :: fs) _ _ _ hhalts)⟩
        rintro a ⟨⟩
    · rw [if_neg htimer] at h
      obtain ⟨rfl, rfl⟩ := (ends_pure _ _ _ _).mp h
      exact failsToSend_of_act
        (.sendDisconnectedTimer hmay htry hd ((Bool.not_eq_false _).mp htimer))
  · rw [if_neg hd] at h
    obtain ⟨rfl, rfl⟩ := (ends_pure _ _ _ _).mp h
    exact failsToSend_of_act
      (.sendFailed hmay htry ((Bool.not_eq_true _).mp hb) ((Bool.not_eq_true _).mp hd))

/-- `do_send_rpc_msg` sends the message and returns 0, or fails to. -/
theorem doSendRpcMsg_refines {R : Plugin σ Unit} (hR : Reconnects R) (o : Origin) {m : DpMsg}
    (fs : List Frame) {w w' : World σ} {r : Except Halt Int}
    (h : Ends (doSendRpcMsg R m) w r w') :
    (r = .ok 0 ∧ w.Sends m w') ∨ FailsToSend o m fs w r w' := by
  rw [doSendRpcMsg, ends_get_bind] at h
  by_cases htx : w.txBuff.isNone = true
  · rw [if_pos htx] at h
    obtain ⟨rfl, rfl⟩ := (ends_pure _ _ _ _).mp h
    have hmay : ¬ w'.MaySend m := fun hmay => by
      have hbuf := hmay.1
      rw [Option.isNone_iff_eq_none.mp htx] at hbuf
      exact Bool.false_ne_true hbuf
    exact .inr (failsToSend_of_act (.notSent hmay))
  rw [if_neg htx, (canSendRpcRequest_ran _ _).ends_bind] at h
  by_cases hcan : (m.msg.isConnect || w.dplaneIsReady) = false
  · rw [if_pos hcan] at h
    obtain ⟨rfl, rfl⟩ := (ends_pure _ _ _ _).mp h
    have hmay : ¬ w'.MaySend m := fun hmay =>
      Bool.false_ne_true (hcan.symm.trans ((Bool.or_eq_true _ _).mpr hmay.2))
    exact .inr (failsToSend_of_act (.notSent hmay))
  have hmay : w.MaySend m :=
    ⟨Option.isSome_iff_ne_none.mpr fun hbuf => htx (Option.isNone_iff_eq_none.mpr hbuf),
      (Bool.or_eq_true _ _).mp ((Bool.not_eq_false _).mp hcan)⟩
  rw [if_neg hcan] at h
  rcases henc : Os.encodeMsg m.msg w.os with ⟨octets, os⟩
  rw [(encodeMsg_ran m w henc).ends_bind] at h
  cases octets with
  | none =>
    simp only [rpcCountEncodeFailure, ends_count_bind, ends_pure] at h
    obtain ⟨rfl, rfl⟩ := h
    exact .inr (failsToSend_of_act (.encodeFailed hmay henc))
  | some len =>
    rcases hsend : Os.send w.dpSock m.msg len os with ⟨result, os'⟩
    have htry : w.Attempts m len result os' := by
      refine ⟨by rw [henc], ?_⟩
      rw [henc]
      exact hsend
    rw [(osSend_ran m len _ hsend).ends_bind] at h
    cases result with
    | error e => exact .inr (doSendRpcMsgError_refines hR o fs hmay htry h)
    | octets k =>
      by_cases hk : k = len
      · subst hk
        simp only [ne_eq, not_true_eq_false, if_false, rpcCountTx, ends_count_bind,
          ends_observe_bind, ends_pure] at h
        obtain ⟨rfl, rfl⟩ := h
        exact .inl ⟨rfl, k, os', hmay, htry, rfl⟩
      · simp only [ne_eq, hk, not_false_eq_true, if_true, ends_pure] at h
        obtain ⟨rfl, rfl⟩ := h
        exact .inr (failsToSend_of_act (.sendShort hmay htry hk))

/-- A message that may be sent, and is taken whole, is sent. -/
theorem World.Sends.ran {R : Plugin σ Unit} {m : DpMsg} {w w' : World σ} (h : w.Sends m w') :
    Ran (doSendRpcMsg R m) w 0 w' := by
  obtain ⟨len, os, ⟨hbuf, hcan⟩, ⟨henc, hsend⟩, rfl⟩ := h
  have henc' : Os.encodeMsg m.msg w.os = (some len, (Os.encodeMsg m.msg w.os).2) := by
    rw [← henc]
  have htx : ¬ w.txBuff.isNone = true := by
    rw [Option.isNone_iff_eq_none]
    exact Option.isSome_iff_ne_none.mp hbuf
  have hcan : ¬ (m.msg.isConnect || w.dplaneIsReady) = false := by
    rw [Bool.not_eq_false, Bool.or_eq_true]
    exact hcan
  rw [Ran, doSendRpcMsg, ends_get_bind, if_neg htx, (canSendRpcRequest_ran _ _).ends_bind,
    if_neg hcan, (encodeMsg_ran m w henc').ends_bind, (osSend_ran m len _ hsend).ends_bind]
  simp only [ne_eq, not_true_eq_false, if_false, rpcCountTx, ends_count_bind, ends_observe_bind,
    ends_pure]
  exact ⟨trivial, rfl⟩

/-- The rest of a caller of `do_send_rpc_msg`: it goes on after a success and
    after a failure. -/
theorem doSendRpcMsg_bind {α : Type} {R : Plugin σ Unit} (hR : Reconnects R) (o : Origin)
    {m : DpMsg} {fs : List Frame} {w : World σ} {k : Int → Plugin σ α} {fs' : α → List Frame}
    (hsent : ∀ w', w.Sends m w' → ∀ r w'', Ends (k 0) w' r w'' →
      ∃ a, r = .ok a ∧ Path ⟨.sending o m :: fs, w⟩ ⟨fs' a, w''⟩)
    (hfailed : ∀ w', Refines (k (-1)) (.failed o m :: fs) w' fs') :
    Refines (doSendRpcMsg R m >>= k) (.sending o m :: fs) w fs' := by
  intro r w'' h
  obtain ⟨a, w', hrun, hrest⟩ | ⟨e, hrun, rfl⟩ := (ends_bind _ _ _ _ _).mp h
  · obtain ⟨ha, hsends⟩ | ⟨ha, hpath⟩ := doSendRpcMsg_refines hR o fs hrun
    · cases ha
      obtain ⟨b, rfl, hpath⟩ := hsent w' hsends r w'' hrest
      exact hpath
    · obtain rfl := ha a rfl
      exact (hfailed w' r w'' hrest).trans hpath
  · obtain ⟨ha, -⟩ | ⟨-, hpath⟩ := doSendRpcMsg_refines hR o fs hrun
    · cases ha
    · exact hpath

/-- After a request was sent, it is put in flight. -/
theorem World.Sends.request {w w' : World σ} {m : DpMsg} (h : w.Sends m w')
    (hreq : m.msg.type = .request) (o : Origin) (fs : List Frame) {w'' : World σ}
    {r : Except Halt Unit}
    (hends : Ends (rpcCountRequestSent m.msg.request.op m.msg.request.object.type >>=
      fun _ => dpMsgCacheInflight m) w' r w'') :
    r = .ok () ∧ Path ⟨.sending o m :: fs, w⟩ ⟨fs, w''⟩ := by
  obtain ⟨len, os, hmay, htry, rfl⟩ := h
  rw [rpcCountRequestSent, ends_count_bind, ends_dpMsgCacheInflight hreq] at hends
  obtain ⟨rfl, rfl⟩ := hends
  exact ⟨rfl, .single (.sentRequest hmay htry hreq)⟩

/-! ### The drain of the unsent list -/

theorem sendPendingStep_refines {R : Plugin σ Unit} (hR : Reconnects R) (fs : List Frame)
    (w : World σ) :
    Refines (sendPendingStep R) (.draining :: fs) w
      fun goOn => if goOn then .draining :: fs else fs := by
  rw [sendPendingStep]
  cases hq : w.unsent with
  | nil =>
    have hpop : Ran dpMsgPopUnsent w none w := (ends_dpMsgPopUnsent _ _ _).mpr (.inl ⟨hq, rfl, rfl⟩)
    exact .after .refl (fun r s' h => (hpop.ends_bind _ _ _).mp h) (.pure (.single (.drained hq)))
  | cons m rest =>
    have hpop : Ran dpMsgPopUnsent w (some m) { w with unsent := rest } :=
      (ends_dpMsgPopUnsent _ _ _).mpr (.inr ⟨m, rest, hq, rfl, rfl⟩)
    refine .after (.single (.popUnsent hq)) (fun r s' h => (hpop.ends_bind _ _ _).mp h) ?_
    refine doSendRpcMsg_bind hR .unsent (fun w' hsends r w'' h => ?_) fun w' => ?_
    · rw [if_pos rfl] at h
      by_cases hreq : m.msg.type = .request
      · rw [if_pos hreq, ← bind_assoc, ends_bind] at h
        obtain ⟨_, t, hrun, hret⟩ | ⟨e, hrun, -⟩ := h
        · obtain ⟨rfl, rfl⟩ := (ends_pure _ _ _ _).mp hret
          exact ⟨true, rfl, (hsends.request hreq .unsent _ hrun).2⟩
        · exact nomatch (hsends.request hreq .unsent fs hrun).1
      · obtain ⟨len, os, hmay, htry, rfl⟩ := hsends
        have hstep : Act ⟨.sending .unsent m :: .draining :: fs, _⟩ ⟨.draining :: fs, _⟩ :=
          .sentOther hmay htry hreq
        rw [if_neg hreq] at h
        by_cases hctl : m.msg.type = .control
        · simp only [if_pos hctl, rpcCountCtlTx, ends_count_bind, ends_dpMsgRecycle_bind,
            ends_pure] at h
          obtain ⟨rfl, rfl⟩ := h
          simp only [World.sentOther, if_pos hctl] at hstep
          exact ⟨true, rfl, .single hstep⟩
        · simp only [if_neg hctl, ends_dpMsgRecycle_bind, ends_pure] at h
          obtain ⟨rfl, rfl⟩ := h
          simp only [World.sentOther, if_neg hctl] at hstep
          exact ⟨true, rfl, .single hstep⟩
    · rw [if_neg (by decide)]
      refine .of_returns fun r s' h => ?_
      simp only [dpMsgUnsentPushBack, ends_modify_bind, ends_pure] at h
      obtain ⟨rfl, rfl⟩ := h
      exact ⟨false, rfl, .single .pushBack⟩

/-- A round of the drain that sends a request. -/
theorem sendPendingStep_ran {R : Plugin σ Unit} {w : World σ} {m : DpMsg} {rest : List DpMsg}
    {len : Nat} {os : σ} (hq : w.unsent = m :: rest) (hreq : m.msg.type = .request)
    (hmay : World.MaySend { w with unsent := rest } m)
    (htry : World.Attempts { w with unsent := rest } m len (.octets len) os) :
    Ran (sendPendingStep R) w true
      ((World.sendTried { w with unsent := rest } os m len (.octets len)).putInFlight m) := by
  have hpop : Ran dpMsgPopUnsent w (some m) { w with unsent := rest } :=
    (ends_dpMsgPopUnsent _ _ _).mpr (.inr ⟨m, rest, hq, rfl, rfl⟩)
  have hsends : World.Sends { w with unsent := rest } m _ := ⟨len, os, hmay, htry, rfl⟩
  rw [Ran, sendPendingStep, hpop.ends_bind]
  dsimp only
  rw [hsends.ran.ends_bind, if_pos rfl, if_pos hreq, rpcCountRequestSent, ends_count_bind,
    Ran.ends_bind ((ends_dpMsgCacheInflight hreq _ _ _).mpr ⟨rfl, rfl⟩)]
  exact (ends_pure _ _ _ _).mpr ⟨rfl, rfl⟩

/-- The last round of the drain. -/
theorem sendPendingStep_ran_nil {R : Plugin σ Unit} {w : World σ} (hq : w.unsent = []) :
    Ran (sendPendingStep R) w false w := by
  have hpop : Ran dpMsgPopUnsent w none w :=
    (ends_dpMsgPopUnsent _ _ _).mpr (.inl ⟨hq, rfl, rfl⟩)
  rw [Ran, sendPendingStep, hpop.ends_bind]
  exact (ends_pure _ _ _ _).mpr ⟨rfl, rfl⟩

theorem sendPendingRpcMsgs_refines {R : Plugin σ Unit} (hR : Reconnects R) (fs : List Frame)
    (w : World σ) : Refines (sendPendingRpcMsgs R) (.draining :: fs) w fun _ => fs :=
  .get_bind (.loop (sendPendingStep_refines hR fs))

/-! ### dp_connect -/

/-- A Connect that was passed to `send_rpc_msg` is sent, or dropped. -/
theorem sendRpcMsg_connect_refines {R : Plugin σ Unit} (hR : Reconnects R) {m : DpMsg}
    (hm : m.msg.isConnect = true) (fs : List Frame) (w : World σ) :
    ∀ r w', Ends (sendRpcMsg R m) w r w' →
      Leads Act Config.mk (.sending .connect m :: fs) (w.observe (.passed m)) (fun _ => fs) r w' := by
  intro r w' h
  rw [sendRpcMsg, ends_observe_bind, if_pos hm] at h
  refine doSendRpcMsg_bind hR .connect (fun w1 hsends r w2 h => ?_) (fun w1 => ?_) r w' h
  · rw [if_pos rfl, ← bind_assoc, ends_bind] at h
    have hreq := ((RpcMsg.isConnect_iff _).mp hm).1
    obtain ⟨_, t, hrun, hret⟩ | ⟨e, hrun, -⟩ := h
    · obtain ⟨rfl, rfl⟩ := (ends_pure _ _ _ _).mp hret
      exact ⟨0, rfl, (hsends.request hreq .connect _ hrun).2⟩
    · exact nomatch (hsends.request hreq .connect fs hrun).1
  · rw [if_neg (by decide)]
    refine .of_returns fun r s' h => ?_
    simp only [ends_dpMsgRecycle_bind, ends_pure] at h
    obtain ⟨rfl, rfl⟩ := h
    exact ⟨-1, rfl, .single .dropConnect⟩

/-- The Connect request, as `send_rpc_request_connect` passes it on. -/
theorem sendRpcRequestConnect_ends {R : Plugin σ Unit} {w w' : World σ} {r : Except Halt Int}
    (h : Ends (sendRpcRequestConnect R) w r w') :
    ∃ ref pool next cinfo, w.Allocates ref pool next ∧
      Ends (sendRpcMsg R (connectMsg ref cinfo)) { w with pool := pool, nextRef := next } r w' := by
  rw [sendRpcRequestConnect, ends_get_bind, sendRequest, dpRequestNew, if_neg (by simp)] at h
  obtain ⟨_, t, hnew, hrest⟩ | ⟨e, hnew, -⟩ := (ends_bind _ _ _ _ _).mp h
  · obtain ⟨m, u, hmsg, hret⟩ := (ran_bind _ _ _ _ _).mp hnew
    obtain ⟨ref, pool, next, halloc, hm, rfl⟩ := dpMsgNew_ends hmsg
    cases hm
    rw [if_pos rfl] at hret
    obtain ⟨hm, rfl⟩ := (ends_pure _ _ _ _).mp hret
    cases hm
    exact ⟨ref, pool, next, _, halloc, hrest⟩
  · obtain ⟨m, u, hmsg, hret⟩ | ⟨_, hmsg, -⟩ := (ends_bind _ _ _ _ _).mp hnew
    · simp at hret
    · obtain ⟨_, _, _, _, hm, -⟩ := dpMsgNew_ends hmsg
      cases hm

/-- What `dp_unix_connect` did, from its run. -/
theorem dpUnixConnect_ends {path : PathBuf} {w w' : World σ} {r : Except Halt Int}
    (hsock : w.dpSock ≠ noSock) (h : Ends (dpUnixConnect path) w r w') :
    (¬ path.Valid ∧ r = .ok (-1) ∧ w' = w) ∨
    (path.Valid ∧ ∃ result os, Os.connect w.dpSock path w.os = (result, os) ∧
      (((result = none ∨ result = some .eisconn) ∧ r = .ok 0 ∧
          w' = { w with os := os }.observe (.connect result)) ∨
        (∃ e, result = some e ∧ e ≠ .eisconn ∧ r = .ok (-1) ∧
          Ran dpUnixSockReopen ({ w with os := os }.observe (.connect (some e))) () w'))) := by
  rw [dpUnixConnect] at h
  by_cases hpath : path.strlen = 0 ∨ path.strlen ≥ maxSunPath
  · rw [if_pos hpath] at h
    obtain ⟨rfl, rfl⟩ := (ends_pure _ _ _ _).mp h
    exact .inl ⟨fun hvalid => hvalid hpath, rfl, rfl⟩
  rw [if_neg hpath, ends_get_bind, ends_osCall_bind, ends_observe_bind] at h
  rcases hresult : Os.connect w.dpSock path w.os with ⟨result, os⟩
  rw [hresult] at h
  refine .inr ⟨hpath, result, os, rfl, ?_⟩
  cases result with
  | none =>
    obtain ⟨rfl, rfl⟩ := (ends_pure _ _ _ _).mp h
    exact .inl ⟨.inl rfl, rfl, rfl⟩
  | some e =>
    by_cases he : e = .eisconn
    · subst he
      simp only [if_pos] at h
      obtain ⟨rfl, rfl⟩ := (ends_pure _ _ _ _).mp h
      exact .inl ⟨.inr rfl, rfl, rfl⟩
    · simp only [if_neg he] at h
      obtain ⟨_, t, hreopen, hret⟩ | ⟨x, hreopen, -⟩ := (ends_bind _ _ _ _ _).mp h
      · obtain ⟨rfl, rfl⟩ := (ends_pure _ _ _ _).mp hret
        exact .inr ⟨e, rfl, he, rfl, hreopen⟩
      · obtain ⟨hx, -⟩ := dpUnixSockReopen_ends (by exact hsock) hreopen
        cases hx

theorem dpConnectStep_refines {R : Plugin σ Unit} (hR : Reconnects R) :
    Reconnects (dpConnectStep R) := by
  intro fs w r w' h
  rw [dpConnectStep, ends_observe_bind, ends_get_bind, observe_dpSock, observe_dpSockPath] at h
  by_cases hsock : w.dpSock = noSock
  · rw [if_pos hsock] at h
    obtain ⟨rfl, rfl⟩ := (ends_pure _ _ _ _).mp h
    exact .single (.noSocket hsock)
  rw [if_neg hsock] at h
  obtain ⟨a, t, hconn, hrest⟩ | ⟨e, hconn, -⟩ := (ends_bind _ _ _ _ _).mp h
  · obtain ⟨hpath, ha, rfl⟩ | ⟨hpath, result, os, hcall, ⟨hok, ha, rfl⟩ | ⟨e, rfl, he, ha, hre⟩⟩ :=
      dpUnixConnect_ends (by exact hsock) hconn
    · cases ha
      rw [if_pos (by decide), ends_modify] at hrest
      obtain ⟨rfl, rfl⟩ := hrest
      exact .single (.badPath hsock hpath)
    · cases ha
      rw [if_neg (by decide), ends_modify_bind] at hrest
      obtain ⟨_, u, hsend, hlast⟩ | ⟨e, hsend, rfl⟩ := (ends_bind _ _ _ _ _).mp hrest
      · obtain ⟨ref, pool, next, cinfo, halloc, hpass⟩ := sendRpcRequestConnect_ends hsend
        obtain ⟨rfl, rfl⟩ := (ends_eventAddRead _ _ _).mp hlast
        have hpath' := sendRpcMsg_connect_refines hR (connectMsg_isConnect ref cinfo)
          (.subscribing :: fs) _ _ _ hpass
        exact (Relation.ReflTransGen.single (.connected hsock hpath hcall hok halloc)).trans
          (hpath'.tail .subscribe)
      · obtain ⟨ref, pool, next, cinfo, halloc, hpass⟩ := sendRpcRequestConnect_ends hsend
        have hpath' := sendRpcMsg_connect_refines hR (connectMsg_isConnect ref cinfo)
          (.subscribing :: fs) _ _ _ hpass
        exact Leads.trans
          (Relation.ReflTransGen.single (.connected hsock hpath hcall hok halloc)) hpath'
    · cases ha
      rw [if_pos (by decide), ends_modify] at hrest
      obtain ⟨rfl, rfl⟩ := hrest
      exact .single (.refused hsock hpath hcall he hre)
  · obtain ⟨-, ha, -⟩ | ⟨-, result, os, -, ⟨-, ha, -⟩ | ⟨_, -, -, ha, -⟩⟩ :=
      dpUnixConnect_ends (by exact hsock) hconn <;> cases ha

/-- `dp_connect`, to any depth of nested reconnects. -/
theorem dpConnect_refines (n : Nat) : Reconnects (dpConnect n : Plugin σ Unit) := by
  induction n with
  | zero =>
    intro fs w r w' h
    obtain ⟨rfl, rfl⟩ := (ends_throw _ _ _ _).mp h
    exact ⟨_, .refl⟩
  | succ n ih => exact dpConnectStep_refines ih

/-! ### Requests -/

/-- A message that is no Connect is cached, and the unsent list is drained. -/
theorem sendRpcMsg_cached_refines {R : Plugin σ Unit} (hR : Reconnects R) {m : DpMsg}
    (hm : m.msg.isConnect = false) (fs : List Frame) (w : World σ) {r : Except Halt Int}
    {w' : World σ} (h : Ends (sendRpcMsg R m) w r w') :
    (∀ a, r = .ok a → a = 0) ∧
      Leads Act Config.mk (.draining :: fs) (w.cached m) (fun _ => fs) r w' := by
  rw [sendRpcMsg, ends_observe_bind, if_neg (by simp [hm]), dpMsgCacheUnsent,
    ends_modify_bind] at h
  obtain ⟨_, t, hdrain, hret⟩ | ⟨e, hdrain, rfl⟩ := (ends_bind _ _ _ _ _).mp h
  · obtain ⟨rfl, rfl⟩ := (ends_pure _ _ _ _).mp hret
    refine ⟨?_, (sendPendingRpcMsgs_refines hR fs _).returns hdrain⟩
    rintro a ⟨⟩
    rfl
  · refine ⟨?_, sendPendingRpcMsgs_refines hR fs _ _ _ hdrain⟩
    rintro a ⟨⟩

/-- A request for the context `c`, as it is built and passed on. -/
theorem sendRequest_ends {R : Plugin σ Unit} {op : RpcOp} {c : CtxRef} {object : RpcObject}
    (hop : op ≠ .connect) {w w' : World σ} {r : Except Halt Int}
    (h : Ends (sendRequest R op (some c) object) w r w') :
    ∃ ref pool next, w.Allocates ref pool next ∧
      Ends (sendRpcMsg R (requestMsg ref op w.seqnum object (some c)))
        { w with pool := pool, nextRef := next, seqnum := w.seqnum + 1 } r w' := by
  rw [sendRequest, dpRequestNew, if_neg (by simp)] at h
  obtain ⟨_, t, hnew, hrest⟩ | ⟨e, hnew, -⟩ := (ends_bind _ _ _ _ _).mp h
  · obtain ⟨m, u, hmsg, hret⟩ := (ran_bind _ _ _ _ _).mp hnew
    obtain ⟨ref, pool, next, halloc, hm, rfl⟩ := dpMsgNew_ends hmsg
    cases hm
    simp only [if_neg hop, ends_get_bind, ends_set_bind] at hret
    obtain ⟨hm, rfl⟩ := (ends_pure _ _ _ _).mp hret
    cases hm
    exact ⟨ref, pool, next, halloc, hrest⟩
  · obtain ⟨m, u, hmsg, hret⟩ | ⟨_, hmsg, -⟩ := (ends_bind _ _ _ _ _).mp hnew
    · simp [hop] at hret
    · obtain ⟨_, _, _, _, hm, -⟩ := dpMsgNew_ends hmsg
      cases hm

/-- Where a context that was dequeued is after a step of its processing. -/
def processed (c : CtxRef) (res : HhDpRes) : List Frame :=
  if res = .queued then [.queueing c] else [.processing c]

/-- A request for a context that was dequeued is cached, and the result is
    `HH_QUEUED`. -/
theorem sendRequest_refines {R : Plugin σ Unit} (hR : Reconnects R) {op : RpcOp} {c : CtxRef}
    {object : RpcObject} (hop : op = .add ∨ op = .del ∨ op = .update) (w : World σ) :
    Refines (sendRequest R op (some c) object >>= fun r => pure (queuedUnlessFailed r))
      [.processing c] w (processed c) := by
  have hconn : op ≠ .connect := by
    rintro rfl
    simp at hop
  intro r w' h
  rw [bind_pure_comp] at h
  obtain ⟨a, rfl, hsend⟩ | ⟨e, rfl, hsend⟩ := (ends_map _ _ _ _ _).mp h
  · obtain ⟨ref, pool, next, halloc, hpass⟩ := sendRequest_ends hconn hsend
    obtain ⟨ha, hpath⟩ := sendRpcMsg_cached_refines hR (by simp [← Bool.not_eq_true, hconn])
      [.queueing c] _ hpass
    obtain rfl := ha a rfl
    exact Leads.trans (r := .ok HhDpRes.queued) (.single (.queueRequest hop halloc)) hpath
  · obtain ⟨ref, pool, next, halloc, hpass⟩ := sendRequest_ends hconn hsend
    obtain ⟨-, hpath⟩ := sendRpcMsg_cached_refines hR (by simp [← Bool.not_eq_true, hconn])
      [.queueing c] _ hpass
    exact Leads.trans (.single (.queueRequest hop halloc)) hpath

/-- A control message is cached and the unsent list is drained, between the
    callbacks or on the way of a received message. -/
theorem sendRpcControl_refines {R : Plugin σ Unit} (hR : Reconnects R) (refresh : UInt8)
    {fs : List Frame} (hfs : fs = [] ∨ ∃ msg, fs = [.received msg]) (w : World σ) :
    Refines (sendRpcControl R refresh) fs w fun _ => fs := by
  intro r w' h
  obtain ⟨m, u, hmsg, hpass⟩ | ⟨e, hmsg, -⟩ := (ends_bind _ _ _ _ _).mp h
  · obtain ⟨ref, pool, next, halloc, hm, rfl⟩ := dpMsgNew_ends hmsg
    cases hm
    obtain ⟨-, hpath⟩ := sendRpcMsg_cached_refines hR (controlMsg_isConnect ref refresh) fs _ hpass
    exact Leads.trans (.single (.queueControl hfs halloc)) hpath
  · obtain ⟨_, _, _, _, hm, -⟩ := dpMsgNew_ends hmsg
    cases hm

/-! ### zd_hh_process -/

/-- A context the plugin makes no request for. -/
theorem processed_refines {c : CtxRef} {res : HhDpRes} (hres : res ≠ .queued) (w : World σ) :
    Refines (pure res) [.processing c] w (processed c) :=
  .pure (by rw [processed, if_neg hres])

theorem hhProcessRoutes_refines {R : Plugin σ Unit} (hR : Reconnects R) (ctx : ZebraCtx)
    (w : World σ) :
    Refines (hhProcessRoutes R ctx) [.processing ctx.ref] w (processed ctx.ref) := by
  rw [hhProcessRoutes]
  refine .ite (fun _ => processed_refines (by decide) w) fun _ => ?_
  refine .ite (fun _ => processed_refines (by decide) w) fun _ => ?_
  have hskip : Refines (if ctx.vrf ≠ 0 then observe (.skipKernel ctx.ref) else pure ())
      [.processing ctx.ref] w fun _ => [.processing ctx.ref] := by
    refine .ite (fun _ => .of_returns fun r w' h => ?_) fun _ => .pure .refl
    obtain ⟨rfl, rfl⟩ := (ends_observe _ _ _ _).mp h
    exact ⟨(), rfl, .single .skipKernel⟩
  refine .bind hskip fun _ w' _ => ?_
  cases ctx.op with
  | routeInstall => exact sendRequest_refines hR (.inl rfl) w'
  | routeUpdate => exact sendRequest_refines hR (.inr (.inr rfl)) w'
  | routeDelete => exact sendRequest_refines hR (.inr (.inl rfl)) w'
  | _ => exact processed_refines (by decide) w'

theorem hhProcessIfaddr_refines {R : Plugin σ Unit} (hR : Reconnects R) (ctx : ZebraCtx)
    (w : World σ) :
    Refines (hhProcessIfaddr R ctx) [.processing ctx.ref] w (processed ctx.ref) := by
  rw [hhProcessIfaddr]
  cases ctx.intfAddr.addr with
  | other _ => exact processed_refines (by decide) w
  | inet _ =>
    cases ctx.op with
    | addrInstall => exact sendRequest_refines hR (.inl rfl) w
    | addrUninstall => exact sendRequest_refines hR (.inr (.inl rfl)) w
    | _ => exact processed_refines (by decide) w

theorem hhProcessMacinfo_refines {R : Plugin σ Unit} (hR : Reconnects R) (ctx : ZebraCtx)
    (w : World σ) :
    Refines (hhProcessMacinfo R ctx) [.processing ctx.ref] w (processed ctx.ref) := by
  rw [hhProcessMacinfo]
  cases ctx.op with
  | macInstall => exact sendRequest_refines hR (.inl rfl) w
  | macDelete => exact sendRequest_refines hR (.inr (.inl rfl)) w
  | _ => exact processed_refines (by decide) w

theorem hhProcess_refines {R : Plugin σ Unit} (hR : Reconnects R) (ctx : ZebraCtx)
    (w : World σ) :
    Refines (hhProcess R ctx) [.processing ctx.ref] w (processed ctx.ref) := by
  have hneigh : hhProcessNeigh ctx ≠ .queued := by
    unfold hhProcessNeigh
    split <;> decide
  have hnh : hhProcessNh ctx ≠ .queued := by
    unfold hhProcessNh
    split <;> decide
  unfold hhProcess
  -- the operations go to one of the functions above, or to one of three results
  split <;> first
    | exact processed_refines (by decide) w
    | exact processed_refines hneigh w
    | exact processed_refines hnh w
    | exact hhProcessRoutes_refines hR ctx w
    | exact hhProcessIfaddr_refines hR ctx w
    | exact hhProcessMacinfo_refines hR ctx w

theorem zdHhProcessUpdate_refines {R : Plugin σ Unit} (hR : Reconnects R) (ctx : ZebraCtx)
    (w : World σ) :
    Refines (zdHhProcessUpdate R ctx) [.processing ctx.ref] w fun _ => [] := by
  refine .bind (hhProcess_refines hR ctx w) fun res w' _ => ?_
  refine .ite (fun hres => ?_) fun hres => ?_
  · refine .of_returns fun r w'' h => ?_
    obtain ⟨rfl, rfl⟩ := (ends_observe _ _ _ _).mp h
    rw [processed, if_neg hres]
    exact ⟨(), rfl, .single .returned⟩
  · refine .of_returns fun r w'' h => ?_
    obtain ⟨rfl, rfl⟩ := (ends_observe _ _ _ _).mp h
    rw [processed, if_pos (not_not.mp hres)]
    exact ⟨(), rfl, .single .queued⟩

theorem zdHhProcessLoop_refines {R : Plugin σ Unit} (hR : Reconnects R) (limit : Nat)
    (queue : List ZebraCtx) (w : World σ) :
    Refines (zdHhProcessLoop R limit queue) [] w fun _ => [] := by
  induction limit generalizing queue w with
  | zero => exact .pure .refl
  | succ limit ih =>
    cases queue with
    | nil => exact .pure .refl
    | cons ctx queue =>
      refine .after (.single (.dequeue (c := ctx.ref)))
        (fun r w' h => (ends_get_bind _ _ _ _).mp ((ends_observe_bind _ _ _ _ _).mp h)) ?_
      refine .ite (fun _ => ?_) fun _ => ?_
      · exact .bind (zdHhProcessUpdate_refines hR ctx _) fun _ w' _ => ih queue w'
      · exact .after (.single (.returned (c := ctx.ref)))
          (fun r w' h => (ends_observe_bind _ _ _ _ _).mp h) (ih queue _)

theorem zdHhProcess_refines {R : Plugin σ Unit} (hR : Reconnects R) (limit : Nat)
    (queue : List ZebraCtx) (w : World σ) :
    Refines (zdHhProcess R limit queue) [] w fun _ => [] := by
  refine .bind (zdHhProcessLoop_refines hR limit queue w) fun _ w' _ => .get_bind ?_
  refine .ite (fun _ => .of_returns fun r w'' h => ?_) fun _ => .pure .refl
  obtain ⟨rfl, rfl⟩ := (ends_observe _ _ _ _).mp h
  exact ⟨(), rfl, .single .workReady⟩

/-! ### Responses -/

/-- What `do_handle_rpc_response` does to a request with a context that is
    answered with an operation on contexts. -/
theorem doHandleRpcResponse_ctx {R : Plugin σ Unit} {resp : RpcResponse} {m : DpMsg} {c : CtxRef}
    {purged : Bool} (hop : resp.op = .add ∨ resp.op = .del ∨ resp.op = .update)
    (hctx : m.ctx = some c) (w : World σ) :
    Ran (doHandleRpcResponse R resp m purged) w { m with ctx := none }
      ((w.replied m resp.rescode).handedOff c resp.rescode.toZebra) := by
  have hrest : Ran (handleRpcCtxResponse m resp.rescode) (w.replied m resp.rescode)
      { m with ctx := none } ((w.replied m resp.rescode).handedOff c resp.rescode.toZebra) := by
    simp only [Ran, handleRpcCtxResponse, dpMsgHandOff, hctx, Option.isSome_some, if_true,
      ends_observe_bind, ends_pure]
    exact ⟨trivial, rfl⟩
  rw [Ran, doHandleRpcResponse, rpcCountRequestReplied, ends_count_bind]
  rcases hop with hop | hop | hop <;> rw [hop] <;> exact hrest

/-- What it does to a request without a context, or answered with another
    operation than these and Connect. -/
theorem doHandleRpcResponse_other {R : Plugin σ Unit} {resp : RpcResponse} {m : DpMsg}
    {purged : Bool} (hop : resp.op ≠ .connect)
    (hctx : m.ctx = none ∨ ¬ (resp.op = .add ∨ resp.op = .del ∨ resp.op = .update))
    (w : World σ) :
    Ran (doHandleRpcResponse R resp m purged) w m (w.replied m resp.rescode) := by
  have hrest (hnone : m.ctx = none) : Ran (handleRpcCtxResponse m resp.rescode)
      (w.replied m resp.rescode) m (w.replied m resp.rescode) := by
    simp [Ran, handleRpcCtxResponse, hnone]
  rw [Ran, doHandleRpcResponse, rpcCountRequestReplied, ends_count_bind]
  cases hresp : resp.op with
  | connect => exact absurd hresp hop
  | add | del | update =>
    exact hrest (hctx.resolve_right fun hnot => hnot (by simp [hresp]))
  | known | unknown _ => exact (ends_pure _ _ _ _).mpr ⟨rfl, rfl⟩

omit [Os σ] in
theorem recallSynt_ran (objects : Option ConnInfo) (w : World σ) :
    Ran (recallSynt objects) w () { w with synt := (objects.map (·.synt)).getD w.synt } := by
  cases objects <;> simp [Ran, recallSynt, dplaneSetSynt]

/-- What it does with the response to a Connect: abort, or accept the Connect
    and, unless purging, drain the unsent list. -/
theorem doHandleRpcResponse_connect {R : Plugin σ Unit} {resp : RpcResponse} {m : DpMsg}
    {purged : Bool} (hop : resp.op = .connect) {w w' : World σ} {r : Except Halt DpMsg}
    (h : Ends (doHandleRpcResponse R resp m purged) w r w') :
    (resp.rescode ≠ .ok ∧ r = .error .aborted ∧ w' = w.replied m resp.rescode) ∨
    (resp.rescode = .ok ∧
      Ends ((if purged = false then sendPendingRpcMsgs R else pure ()) >>= fun _ => pure m)
        ((w.replied m resp.rescode).accepted resp.objects) r w') := by
  rw [doHandleRpcResponse, rpcCountRequestReplied, ends_count_bind, hop] at h
  by_cases hok : resp.rescode = .ok
  · refine .inr ⟨hok, ?_⟩
    simp only [handleRpcConnectResponse, if_pos hok, dplaneSetReady, bind_assoc] at h
    exact (ends_modify_bind _ _ _ _ _).mp (((recallSynt_ran _ _).ends_bind _ _ _).mp h)
  · simp only [handleRpcConnectResponse, if_neg hok, ends_bind, ends_throw] at h
    obtain ⟨_, _, ⟨hx, -⟩, -⟩ | ⟨e, ⟨he, rfl⟩, rfl⟩ := h
    · cases hx
    · cases he
      exact .inl ⟨hok, rfl, rfl⟩

/-- After a message was answered, it is recycled. -/
theorem answered_refines {m : DpMsg} {fs : List Frame} (w : World σ) :
    Refines (dpMsgRecycle m) (.answered m :: fs) w fun _ => fs :=
  .of_returns fun r w' h => by
    obtain ⟨rfl, rfl⟩ := (ends_dpMsgRecycle _ _ _ _).mp h
    exact ⟨(), rfl, .single .recycle⟩

/-- The end of `handle_rpc_response` when a request was matched. -/
theorem matched_refines {R : Plugin σ Unit} (hR : Reconnects R) {resp : RpcResponse} {v : View}
    {w : World σ} {m : DpMsg} {rest : List DpMsg} (hsynt : reportsRestart resp w.synt = false)
    (hq : w.inFlight = m :: rest) (hreq : m.msg.type = .request)
    (hmat : gotExpectedResponse resp m.msg.request = true) {r : Except Halt Unit} {w' : World σ}
    (h : Ends (doHandleRpcResponse R resp m false >>= dpMsgRecycle) (w.popFlight m rest) r w') :
    Leads Act Config.mk [.handling resp v] w (fun _ => []) r w' := by
  by_cases hconn : resp.op = .connect
  · obtain ⟨a, t, hrun, hlast⟩ | ⟨e, hrun, rfl⟩ := (ends_bind _ _ _ _ _).mp h
    · obtain ⟨-, ha, -⟩ | ⟨hok, hdrain⟩ := doHandleRpcResponse_connect hconn hrun
      · cases ha
      · rw [if_pos rfl] at hdrain
        obtain ⟨_, u, hdrained, hret⟩ := (ran_bind _ _ _ _ _).mp hdrain
        obtain ⟨ha, rfl⟩ := (ends_pure _ _ _ _).mp hret
        cases ha
        refine Leads.trans (.single (.accepted hsynt hq hreq hmat hconn hok)) ?_
        refine Leads.trans ((sendPendingRpcMsgs_refines hR [.answered m] _).returns hdrained) ?_
        exact answered_refines _ _ _ hlast
    · obtain ⟨hok, -, rfl⟩ | ⟨hok, hdrain⟩ := doHandleRpcResponse_connect hconn hrun
      · exact ⟨_, .single (.refusedConnect hsynt hq hreq hmat hconn hok)⟩
      · rw [if_pos rfl] at hdrain
        refine Leads.trans (.single (.accepted hsynt hq hreq hmat hconn hok)) ?_
        obtain ⟨_, u, -, hret⟩ | ⟨x, hdrain, he⟩ := (ends_bind _ _ _ _ _).mp hdrain
        · simp at hret
        · exact (sendPendingRpcMsgs_refines hR [.answered m] _).stops hdrain
  · by_cases hctx : m.ctx = none ∨ ¬ (resp.op = .add ∨ resp.op = .del ∨ resp.op = .update)
    · rw [(doHandleRpcResponse_other hconn hctx _).ends_bind] at h
      obtain ⟨rfl, rfl⟩ := (ends_dpMsgRecycle _ _ _ _).mp h
      exact .single (.answeredOther hsynt hq hreq hmat hconn hctx)
    · obtain ⟨hctx, hop⟩ := not_or.mp hctx
      obtain ⟨c, hc⟩ := Option.ne_none_iff_exists'.mp hctx
      rw [(doHandleRpcResponse_ctx (not_not.mp hop) hc _).ends_bind] at h
      obtain ⟨rfl, rfl⟩ := (ends_dpMsgRecycle _ _ _ _).mp h
      exact .single (.completed hsynt hq hreq hmat (not_not.mp hop) hc)

theorem purgeStep_refines {R : Plugin σ Unit} {resp : RpcResponse} (hop : resp.op = .connect)
    (v : View) (w : World σ) :
    Refines (purgeStep R resp) [.purging resp v] w
      fun goOn => if goOn then [.purging resp v] else [] := by
  intro r w' h
  rw [purgeStep] at h
  cases hq : w.inFlight with
  | nil =>
    have hpop : Ran dpMsgPopInflight w none w :=
      (ends_dpMsgPopInflight _ _ _).mpr (.inl ⟨hq, rfl, rfl⟩)
    replace h := (hpop.ends_bind _ _ _).mp h
    obtain ⟨rfl, rfl⟩ := (ends_pure _ _ _ _).mp h
    exact .single (.purgeDone hq)
  | cons m rest =>
    have hpop : Ran dpMsgPopInflight w (some m) (w.popFlight m rest) :=
      (ends_dpMsgPopInflight _ _ _).mpr (.inr ⟨m, rest, hq, rfl, rfl⟩)
    replace h := (hpop.ends_bind _ _ _).mp h
    dsimp only at h
    by_cases hconn : m.msg.request.op = .connect
    · rw [if_neg (not_not.mpr hconn)] at h
      obtain ⟨a, t, hrun, hlast⟩ | ⟨e, hrun, rfl⟩ := (ends_bind _ _ _ _ _).mp h
      · obtain ⟨-, ha, -⟩ | ⟨hok, hret⟩ := doHandleRpcResponse_connect hop hrun
        · cases ha
        · simp only [Bool.true_eq_false, if_false, pure_bind, ends_pure] at hret
          obtain ⟨ha, rfl⟩ := hret
          cases ha
          rw [ends_dpMsgRecycle_bind] at hlast
          obtain ⟨rfl, rfl⟩ := (ends_pure _ _ _ _).mp hlast
          exact (Relation.ReflTransGen.single (.purgeAccepted hq hconn hok)).tail .recycle
      · obtain ⟨hok, -, rfl⟩ | ⟨hok, hret⟩ := doHandleRpcResponse_connect hop hrun
        · exact ⟨_, .single (.purgeRefused hq hconn hok)⟩
        · simp at hret
    · rw [if_pos hconn] at h
      by_cases hctx : m.ctx = none ∨ ¬ (m.msg.request.op = .add ∨ m.msg.request.op = .del ∨
          m.msg.request.op = .update)
      · rw [(doHandleRpcResponse_other hconn hctx _).ends_bind, ends_dpMsgRecycle_bind] at h
        obtain ⟨rfl, rfl⟩ := (ends_pure _ _ _ _).mp h
        exact .single (.purgedOther hq hconn hctx)
      · obtain ⟨hctx, hops⟩ := not_or.mp hctx
        obtain ⟨c, hc⟩ := Option.ne_none_iff_exists'.mp hctx
        rw [(doHandleRpcResponse_ctx (not_not.mp hops) hc _).ends_bind,
          ends_dpMsgRecycle_bind] at h
        obtain ⟨rfl, rfl⟩ := (ends_pure _ _ _ _).mp h
        exact .single (.purged hq (not_not.mp hops) hc)

theorem handleRpcResponse_refines {R : Plugin σ Unit} (hR : Reconnects R) {msg : RpcMsg}
    (htype : msg.type = .response) (w : World σ) :
    Refines (handleRpcResponse R msg.response) [.received msg] w fun _ => [] := by
  refine .after (.single (.response htype))
    (fun r w' h => (ends_get_bind _ _ _ _).mp ((ends_observe_bind _ _ _ _ _).mp h)) ?_
  refine .ite (fun hsynt => ?_) fun hsynt => ?_
  · have hop : msg.response.op = .connect := by
      unfold reportsRestart at hsynt
      split at hsynt
      · cases hsynt
      · simp only [Bool.and_eq_true, decide_eq_true_eq] at hsynt
        exact hsynt.1.1
    exact .head (.purge hsynt) (.loop (purgeStep_refines hop w.view))
  · have hsynt : reportsRestart msg.response w.synt = false := (Bool.not_eq_true _).mp hsynt
    intro r w' h
    rw [recoverRequest, bind_assoc] at h
    cases hq : w.inFlight with
    | nil =>
      have hpop : Ran dpMsgPopInflight (w.observe (.response msg.response)) none _ :=
        (ends_dpMsgPopInflight _ _ _).mpr (.inl ⟨hq, rfl, rfl⟩)
      replace h := (hpop.ends_bind _ _ _).mp h
      simp only [pure_bind] at h
      obtain ⟨rfl, rfl⟩ := (ends_pure _ _ _ _).mp h
      exact .single (.unmatched hsynt hq)
    | cons m rest =>
      have hpop : Ran dpMsgPopInflight (w.observe (.response msg.response)) (some m)
          ((w.observe (.response msg.response)).popFlight m rest) :=
        (ends_dpMsgPopInflight _ _ _).mpr (.inr ⟨m, rest, hq, rfl, rfl⟩)
      replace h := (hpop.ends_bind _ _ _).mp h
      dsimp only at h
      by_cases hreq : m.msg.type = .request
      · by_cases hmat : gotExpectedResponse msg.response m.msg.request = true
        · simp only [hreq, ne_eq, not_true_eq_false, if_false, hmat, Bool.true_eq_false,
            pure_bind] at h
          exact matched_refines (w := w.observe (.response msg.response)) hR hsynt hq hreq hmat h
        · have hmis := (Bool.not_eq_true _).mp hmat
          simp only [hreq, ne_eq, not_true_eq_false, if_false, hmis, if_true, bind_assoc,
            ends_dpMsgRecycle_bind, pure_bind, ends_pure] at h
          obtain ⟨rfl, rfl⟩ := h
          exact .single (.mismatched hsynt hq (.inr hmis))
      · simp only [ne_eq, hreq, not_false_eq_true, if_true, bind_assoc,
          ends_dpMsgRecycle_bind, pure_bind, ends_pure] at h
        obtain ⟨rfl, rfl⟩ := h
        exact .single (.mismatched hsynt hq (.inl hreq))

/-! ### Receiving -/

theorem handleRpcControl_refines {R : Plugin σ Unit} (hR : Reconnects R) {msg : RpcMsg}
    (htype : msg.type = .control) (w : World σ) :
    Refines (handleRpcControl R msg.control) [.received msg] w fun _ => [] := by
  have hcount (w : World σ) : Refines rpcCountCtlRx [.received msg] w fun _ => [] :=
    .of_returns fun r w' h => by
      obtain ⟨rfl, rfl⟩ := (ends_count _ _ _ _).mp h
      exact ⟨(), rfl, .single (.controlReceived htype)⟩
  refine .ite (fun _ => ?_) fun _ => hcount w
  refine .after (.single .refresh) (fun r w' h => (ends_observe_bind _ _ _ _ _).mp h) ?_
  exact .bind (sendRpcControl_refines hR 1 (.inr ⟨msg, rfl⟩) _) fun _ w' _ => hcount w'

theorem handleRpcMsg_refines {R : Plugin σ Unit} (hR : Reconnects R) (msg : RpcMsg)
    (w : World σ) : Refines (handleRpcMsg R msg) [.received msg] w fun _ => [] := by
  rw [handleRpcMsg]
  cases htype : msg.type with
  | response => exact handleRpcResponse_refines hR htype w
  | control => exact handleRpcControl_refines hR htype w
  | _ => exact .pure (.single (.ignored (by simp [htype])))

theorem dpRpcRecvStep_refines {R : Plugin σ Unit} (hR : Reconnects R) (w : World σ) :
    Refines (dpRpcRecvStep R) [] w fun goOn => if goOn then [] else [] := by
  intro r w' h
  rw [dpRpcRecvStep, sockRecv, bind_assoc, ends_get_bind, bind_assoc, ends_osCall_bind] at h
  rcases hrecv : Os.recv w.dpSock w.os with ⟨result, os⟩
  rw [hrecv] at h
  cases result with
  | error e =>
    simp only [rpcCountRxError, bind_assoc, ends_count_bind, pure_bind] at h
    obtain ⟨rfl, rfl⟩ := (ends_pure _ _ _ _).mp h
    refine .single (.recvNothing hrecv ?_ (countsNoRequest_rxError e))
    rintro d ⟨⟩
  | data d =>
    simp only [rpcCountRx, bind_assoc, ends_count_bind, pure_bind] at h
    by_cases hd : d.octets = 0
    · rw [if_pos hd] at h
      obtain ⟨rfl, rfl⟩ := (ends_pure _ _ _ _).mp h
      refine .single (.recvNothing hrecv ?_ countsNoRequest_rx)
      rintro _ ⟨⟩ _ _
      exact hd
    rw [if_neg hd] at h
    cases hmsg : d.decoded with
    | none =>
      simp only [hmsg, rpcCountDecodeFailure, ends_count_bind] at h
      obtain ⟨rfl, rfl⟩ := (ends_pure _ _ _ _).mp h
      refine .single (.recvNothing hrecv ?_
        (countsNoRequest_rx.comp countsNoRequest_decodeFailure))
      rintro _ ⟨⟩ msg hsome
      rw [hmsg] at hsome
      cases hsome
    | some msg =>
      simp only [hmsg] at h
      refine Leads.trans (.single (.received hrecv hd hmsg)) ?_
      exact (handleRpcMsg_refines hR msg _).bind (fun _ w'' _ => .pure .refl) _ _ h

theorem dpRpcRecv_refines {R : Plugin σ Unit} (hR : Reconnects R) (n : Nat) {w w₀ : World σ}
    (hw : w₀.addRead = w) {r : Except Halt Unit} {w' : World σ}
    (h : Ends (dpRpcRecv n R) w₀ r w') : Leads Act Config.mk [] w (fun _ => []) r w' := by
  rw [dpRpcRecv, ends_eventAddRead_bind, hw] at h
  exact Follows.loop (g := []) (dpRpcRecvStep_refines hR) _ _ h

/-! ### The callbacks -/

theorem dpSendKeepalive_refines {R : Plugin σ Unit} (hR : Reconnects R) (w : World σ) :
    Refines (dpSendKeepalive R) [] w fun _ => [] := by
  have harm (w : World σ) : Refines (modify fun w => { w with evKeepalive := true }) [] w
      fun _ => [] :=
    .of_returns fun r w' h => by
      obtain ⟨rfl, rfl⟩ := (ends_modify _ _ _ _).mp h
      exact ⟨(), rfl, .single .keepaliveArmed⟩
  refine .get_bind (.ite (fun _ => ?_) fun _ => harm w)
  exact .bind (sendRpcControl_refines hR 0 (.inl rfl) w) fun _ w' _ => harm w'

/-- The write callback, once FRR has cleared its event. -/
theorem dpSockSendCb_refines {R : Plugin σ Unit} (hR : Reconnects R) (w : World σ) :
    Refines (dpSockSendCb R) [.draining, .writing] w fun _ => [] := by
  refine .get_bind (.ite (fun hq => ?_) fun _ => ?_)
  · exact .pure ((Relation.ReflTransGen.single (.drained hq)).tail (.writeDone hq))
  · refine .bind (sendPendingRpcMsgs_refines hR [.writing] w) fun _ w' _ => .get_bind ?_
    refine .ite (fun hq => .of_returns fun r w'' h => ?_) fun hq => .pure ?_
    · obtain ⟨rfl, rfl⟩ := (ends_wakeonDpWriteAvail _ _ _).mp h
      exact ⟨(), rfl, .single (.writeAgain hq)⟩
    · exact .single (.writeDone (not_not.mp hq))

/-- A callback of an event that is armed is a path between callbacks. -/
theorem callback_refines {n : Nat} {cb : Callback} {w : World σ} (henabled : cb.enabled w) :
    Refines (cb.run n) [] w fun _ => [] := by
  have hR : Reconnects (dpConnect n : Plugin σ Unit) := dpConnect_refines n
  intro r w' h
  unfold Callback.run at h
  rw [ends_observe_bind] at h
  cases cb with
  | process limit queue =>
    exact Leads.trans (.single (.started (.inl rfl))) (zdHhProcess_refines hR limit queue _ _ _ h)
  | connectTimer =>
    exact Leads.trans (.single (.timerFired henabled))
      (hR [] _ _ _ ((ends_modify_bind _ _ _ _ _).mp h))
  | recv =>
    exact Leads.trans (.single (.recvFired henabled))
      (dpRpcRecv_refines hR n rfl ((ends_modify_bind _ _ _ _ _).mp h))
  | send =>
    exact Leads.trans (.single (.writeFired henabled))
      (dpSockSendCb_refines hR _ _ _ ((ends_modify_bind _ _ _ _ _).mp h))
  | keepalive =>
    exact Leads.trans (.single (.keepaliveFired henabled))
      (dpSendKeepalive_refines hR _ _ _ ((ends_modify_bind _ _ _ _ _).mp h))
  | finiEarly =>
    obtain ⟨rfl, rfl⟩ := (ends_modify _ _ _ _).mp h
    exact (Relation.ReflTransGen.single (.started (.inr rfl))).tail .finalized

/-! ### Runs -/

/-- What `init_dplane_rpc` does when it does not fail: the plugin starts in an
    initial configuration, and what opening a socket and allocating buffers keep of
    the operating system still holds. -/
theorem initDplaneRpc_starts {P : σ → Prop} (hP : SocketCalls P)
    (hbuff : ∀ os, P os → P (Os.buffNew os).2) {n : Nat} {pluginSockPath dpSockPath : PathBuf}
    {os : σ} (hos : P os) {r : Except Halt Int} {w : World σ}
    (h : Ends (initDplaneRpc n) (World.start pluginSockPath dpSockPath os) r w) :
    (r = .ok (-1)) ∨
      ∃ w₀ : World σ, Config.Initial ⟨[.reconnect], w₀⟩ ∧ P w₀.os ∧
        Leads Act Config.mk [.reconnect] w₀ (fun _ => []) r w := by
  have hR : Reconnects (dpConnect n : Plugin σ Unit) := dpConnect_refines n
  obtain ⟨sock, os₁, hopen⟩ := dpUnixSockOpen_returns pluginSockPath
    (World.start pluginSockPath dpSockPath os)
  have hos₁ : P os₁ := dpUnixSockOpen_keeps hP hopen hos
  rw [initDplaneRpc, ends_get_bind] at h
  replace h := (ends_modify_bind _ _ _ _ _).mp ((hopen.ends_bind _ _ _).mp h)
  by_cases hsock : sock = noSock
  · rw [if_pos hsock] at h
    exact .inl ((ends_pure _ _ _ _).mp h).1
  rw [if_neg hsock] at h
  simp only [initRpcBuffers, bind_assoc, ends_osCall_bind] at h
  split at h
  · simp only [pure_bind] at h
    rw [if_pos (by decide)] at h
    exact .inl ((ends_pure _ _ _ _).mp h).1
  simp only [bind_assoc, ends_modify_bind, pure_bind] at h
  rw [if_neg (by decide), initDpMsgCache, ends_modify_bind] at h
  refine .inr ⟨_, ⟨pluginSockPath, dpSockPath, os, (Os.buffNew (Os.buffNew os₁).2).2, sock,
    hsock, rfl⟩, hbuff _ (hbuff _ hos₁), ?_⟩
  refine Follows.bind (hR [] _) (fun _ w' _ => ?_) _ _ h
  exact .bind (dpSendKeepalive_refines hR w') fun _ w'' _ => .pure .refl

theorem initDplaneRpc_refines {n : Nat} {pluginSockPath dpSockPath : PathBuf} {os : σ}
    {r : Except Halt Int} {w : World σ}
    (h : Ends (initDplaneRpc n) (World.start pluginSockPath dpSockPath os) r w) :
    (r = .ok (-1)) ∨
      ∃ w₀ : World σ, Config.Initial ⟨[.reconnect], w₀⟩ ∧
        Leads Act Config.mk [.reconnect] w₀ (fun _ => []) r w := by
  have hP : SocketCalls fun _ : σ => True := by constructor <;> simp
  obtain hr | ⟨w₀, hinit, -, hpath⟩ := initDplaneRpc_starts hP (fun _ _ => trivial) trivial h
  · exact .inl hr
  · exact .inr ⟨w₀, hinit, hpath⟩

/-- Between two callbacks the plugin is in a reachable configuration without
    calls in progress. -/
theorem Reachable.config {w : World σ} (h : Reachable w) : Config.Reachable ⟨[], w⟩ := by
  induction h with
  | init hrun =>
    obtain hr | ⟨w₀, hinit, hpath⟩ := initDplaneRpc_refines hrun
    · cases hr
    · exact ⟨_, hinit, hpath⟩
  | callback _ henabled hrun ih =>
    obtain ⟨s₀, hinit, hpath⟩ := ih
    exact ⟨s₀, hinit, hpath.trans ((callback_refines henabled).returns hrun)⟩
  | outside _ hmoves ih =>
    obtain ⟨s₀, hinit, hpath⟩ := ih
    exact ⟨s₀, hinit, hpath.tail (.outside hmoves)⟩

/-- At every moment the plugin is in a reachable configuration. -/
theorem Reached.config {w : World σ} (h : Reached w) : ∃ fs, Config.Reachable ⟨fs, w⟩ := by
  cases h with
  | between h => exact ⟨[], h.config⟩
  | inInit hrun =>
    obtain hr | ⟨w₀, hinit, gs, hpath⟩ := initDplaneRpc_refines hrun
    · cases hr
    · exact ⟨gs, _, hinit, hpath⟩
  | inCallback h henabled hrun =>
    obtain ⟨s₀, hinit, hpath⟩ := h.config
    obtain ⟨gs, hstop⟩ := (callback_refines henabled).stops hrun
    exact ⟨gs, s₀, hinit, hpath.trans hstop⟩

end DplanePlugin
