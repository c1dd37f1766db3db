/-
  DplanePlugin/Handling.lean
  ==========================
  **What one call of `handle_rpc_response` does.**

  One lemma for each way the response can be treated, over any state whose
  in-flight list holds what the plugin puts there: no request is waiting, the
  oldest one does not match, it is completed, it is an accepted Connect, or the
  list is purged.
-/
import DplanePlugin.Answering

namespace DplanePlugin

open Lib

variable {σ : Type} [Os σ]

/-! ### The ways to treat a response -/

section Cases
variable {R : Plugin σ Unit} {resp : RpcResponse} {w : World σ} {m : DpMsg} {rest : List DpMsg}

theorem handleRpcResponse_unmatched (hsynt : reportsRestart resp w.synt = false)
    (hq : w.inFlight = []) : Ran (handleRpcResponse R resp) w () (w.observe (.response resp)) := by
  have hpop : Ran dpMsgPopInflight (w.observe (.response resp)) none _ :=
    (ends_dpMsgPopInflight _ _ _).mpr (.inl ⟨hq, rfl, rfl⟩)
  rw [Ran, handleRpcResponse, ends_observe_bind, ends_get_bind, observe_synt, hsynt,
    if_neg Bool.false_ne_true, recoverRequest, bind_assoc, hpop.ends_bind, pure_bind]
  exact (ends_pure _ _ _ _).mpr ⟨rfl, rfl⟩

theorem handleRpcResponse_mismatched (hsynt : reportsRestart resp w.synt = false)
    (hq : w.inFlight = m :: rest) (hreq : m.msg.type = .request)
    (hmis : gotExpectedResponse resp m.msg.request = false) :
    Ran (handleRpcResponse R resp) w ()
      (((w.observe (.response resp)).popFlight m rest).recycle m) := by
  have hpop : Ran dpMsgPopInflight (w.observe (.response resp)) (some m)
      ((w.observe (.response resp)).popFlight m rest) :=
    (ends_dpMsgPopInflight _ _ _).mpr (.inr ⟨m, rest, hq, rfl, rfl⟩)
  rw [Ran, handleRpcResponse, ends_observe_bind, ends_get_bind, observe_synt, hsynt,
    if_neg Bool.false_ne_true, recoverRequest, bind_assoc, hpop.ends_bind]
  simp only [hreq, ne_eq, not_true_eq_false, if_false, hmis, if_true, bind_assoc,
    ends_dpMsgRecycle_bind, pure_bind, ends_pure]
  exact ⟨trivial, trivial⟩

/-- The response matches the oldest request: what is left to do. -/
theorem handleRpcResponse_matched (hsynt : reportsRestart resp w.synt = false)
    (hq : w.inFlight = m :: rest) (hreq : m.msg.type = .request)
    (hmat : gotExpectedResponse resp m.msg.request = true) (r : Except Halt Unit) (w' : World σ) :
    Ends (handleRpcResponse R resp) w r w' ↔
      Ends (doHandleRpcResponse R resp m false >>= dpMsgRecycle)
        ((w.observe (.response resp)).popFlight m rest) r w' := by
  have hpop : Ran dpMsgPopInflight (w.observe (.response resp)) (some m)
      ((w.observe (.response resp)).popFlight m rest) :=
    (ends_dpMsgPopInflight _ _ _).mpr (.inr ⟨m, rest, hq, rfl, rfl⟩)
  rw [handleRpcResponse, ends_observe_bind, ends_get_bind, observe_synt, hsynt,
    if_neg Bool.false_ne_true, recoverRequest, bind_assoc, hpop.ends_bind]
  simp only [hreq, ne_eq, not_true_eq_false, if_false, hmat, Bool.true_eq_false, pure_bind]

theorem handleRpcResponse_completed {c : CtxRef} (hsynt : reportsRestart resp w.synt = false)
    (hq : w.inFlight = m :: rest) (hm : m.IsUpdate) (hctx : m.ctx = some c)
    (hmat : gotExpectedResponse resp m.msg.request = true) :
    Ran (handleRpcResponse R resp) w ()
      (((((w.observe (.response resp)).popFlight m rest).replied m resp.rescode).handedOff c
        resp.rescode.toZebra).recycle { m with ctx := none }) := by
  have hop : resp.op = .add ∨ resp.op = .del ∨ resp.op = .update := by
    rw [((gotExpectedResponse_iff _ _).mp hmat).2]
    exact hm.op
  rw [Ran, handleRpcResponse_matched hsynt hq hm.type hmat,
    (doHandleRpcResponse_ctx hop hctx _).ends_bind]
  exact (ends_dpMsgRecycle _ _ _ _).mpr ⟨rfl, rfl⟩

/-- A Connect is accepted, and the unsent list is drained. -/
theorem handleRpcResponse_accepted (hsynt : reportsRestart resp w.synt = false)
    (hq : w.inFlight = m :: rest) (hreq : m.msg.type = .request)
    (hmat : gotExpectedResponse resp m.msg.request = true) (hop : resp.op = .connect)
    (hok : resp.rescode = .ok) {r : Except Halt Unit} {w' : World σ}
    (h : Ends (handleRpcResponse R resp) w r w') :
    Ends (sendPendingRpcMsgs R >>= fun _ => dpMsgRecycle m)
      ((((w.observe (.response resp)).popFlight m rest).replied m resp.rescode).accepted
        resp.objects) r w' := by
  rw [handleRpcResponse_matched hsynt hq hreq hmat, ends_bind] at h
  rw [ends_bind]
  rcases h with ⟨a, t, hrun, hlast⟩ | ⟨e, hrun, rfl⟩
  · rcases doHandleRpcResponse_connect hop hrun with ⟨-, ha, -⟩ | ⟨-, hdrain⟩
    · cases ha
    · rw [if_pos rfl] at hdrain
      rcases (ran_bind _ _ _ _ _).mp hdrain with ⟨u, t', hdrained, hret⟩
      rcases (ends_pure _ _ _ _).mp hret with ⟨ha, rfl⟩
      cases ha
      exact .inl ⟨u, t, hdrained, hlast⟩
  · rcases doHandleRpcResponse_connect hop hrun with ⟨hno, -⟩ | ⟨-, hdrain⟩
    · exact absurd hok hno
    · rw [if_pos rfl, ends_bind] at hdrain
      rcases hdrain with ⟨_, _, -, hret⟩ | ⟨e', hhalts, he⟩
      · simp at hret
      · cases he
        exact .inr ⟨e, hhalts, rfl⟩

end Cases

/-! ### The purge -/

section Purge
variable {R : Plugin σ Unit} {resp : RpcResponse} {w : World σ} {m : DpMsg} {rest : List DpMsg}

theorem purgeStep_update (hq : w.inFlight = m :: rest) (hm : m.IsUpdate) {c : CtxRef}
    (hctx : m.ctx = some c) :
    Ran (purgeStep R resp) w true
      ((((w.popFlight m rest).replied m .ok).handedOff c .success).recycle
        { m with ctx := none }) := by
  have hpop : Ran dpMsgPopInflight w (some m) (w.popFlight m rest) :=
    (ends_dpMsgPopInflight _ _ _).mpr (.inr ⟨m, rest, hq, rfl, rfl⟩)
  have hfake : (fakeResponse m.msg.request).op = .add ∨ (fakeResponse m.msg.request).op = .del ∨
      (fakeResponse m.msg.request).op = .update := hm.op
  rw [Ran, purgeStep, hpop.ends_bind]
  dsimp only
  rw [if_pos hm.op_ne, (doHandleRpcResponse_ctx hfake hctx _).ends_bind, ends_dpMsgRecycle_bind]
  exact (ends_pure _ _ _ _).mpr ⟨rfl, rfl⟩

theorem purgeStep_connect (hq : w.inFlight = m :: rest) (hm : m.IsConnect)
    (hop : resp.op = .connect) (hok : resp.rescode = .ok) :
    Ran (purgeStep R resp) w true
      ((((w.popFlight m rest).replied m resp.rescode).accepted resp.objects).recycle m) := by
  have hpop : Ran dpMsgPopInflight w (some m) (w.popFlight m rest) :=
    (ends_dpMsgPopInflight _ _ _).mpr (.inr ⟨m, rest, hq, rfl, rfl⟩)
  rw [Ran, purgeStep, hpop.ends_bind]
  dsimp only
  rw [if_neg (not_not.mpr hm.op), doHandleRpcResponse, rpcCountRequestReplied, hop]
  simp only [bind_assoc, ends_count_bind, handleRpcConnectResponse, if_pos hok, dplaneSetReady]
  rw [(recallSynt_ran _ _).ends_bind, ends_modify_bind]
  simp only [Bool.true_eq_false, if_false, pure_bind, ends_dpMsgRecycle_bind, ends_pure]
  exact ⟨trivial, rfl⟩

theorem purgeStep_nil (hq : w.inFlight = []) : Ran (purgeStep R resp) w false w := by
  have hpop : Ran dpMsgPopInflight w none w :=
    (ends_dpMsgPopInflight _ _ _).mpr (.inl ⟨hq, rfl, rfl⟩)
  rw [Ran, purgeStep, hpop.ends_bind]
  exact (ends_pure _ _ _ _).mpr ⟨rfl, rfl⟩

/-- A round of the purge that goes on. -/
theorem purgeStep_ran (hq : w.inFlight = m :: rest) (hm : m.Awaited) (hop : resp.op = .connect)
    (hok : resp.rescode = .ok) :
    ∃ w', Ran (purgeStep R resp) w true w' ∧ w'.inFlight = rest ∧ AnswersSince w.log w'.log ∧
      (w.dplaneIsReady = true ∨ m.IsConnect → w'.dplaneIsReady = true) := by
  have hpop := answersSince_popFlight w m rest
  rcases hm with hconn | hupd
  · refine ⟨_, purgeStep_connect hq hconn hop hok, rfl, ?_, fun _ => rfl⟩
    exact hpop.trans (answersSince_recycle _ m)
  · rcases hupd.ctx with ⟨c, hctx⟩
    refine ⟨_, purgeStep_update hq hupd hctx, rfl, ?_, ?_⟩
    · exact (hpop.trans (answersSince_handedOff _ c .success)).trans (answersSince_recycle _ _)
    · rintro (hready | hconn)
      · exact hready
      · exact absurd hconn.op hupd.op_ne

end Purge

/-- The purge of `handle_rpc_response` returns; it answers every request in
    flight, and accepts a Connect among them. -/
theorem purge_ran {R : Plugin σ Unit} {resp : RpcResponse} (hop : resp.op = .connect)
    (hok : resp.rescode = .ok) (n : Nat) (w : World σ) (hq : ∀ m ∈ w.inFlight, m.Awaited)
    (hn : w.inFlight.length < n) :
    ∃ w', Ran (loop .outOfFuel n (purgeStep R resp)) w () w' ∧ w'.inFlight = [] ∧
      AnswersSince w.log w'.log ∧
      (w.dplaneIsReady = true ∨ (∃ m ∈ w.inFlight, m.IsConnect) → w'.dplaneIsReady = true) := by
  induction n generalizing w with
  | zero => omega
  | succ n ih =>
    cases hflight : w.inFlight with
    | nil =>
      refine ⟨w, ?_, hflight, answersSince_refl _, by simp⟩
      rw [loop, Ran, (purgeStep_nil hflight).ends_bind]
      exact (ends_pure _ _ _ _).mpr ⟨rfl, rfl⟩
    | cons m rest =>
      rw [hflight] at hq hn
      rcases List.forall_mem_cons.mp hq with ⟨hm, hrest⟩
      rcases purgeStep_ran (R := R) hflight hm hop hok with
        ⟨w₁, hstep, rfl, hsince₁, hready₁⟩
      rw [List.length_cons] at hn
      rcases ih w₁ hrest (by omega) with ⟨w', hran, hnil, hsince, hready⟩
      refine ⟨w', ?_, hnil, hsince₁.trans hsince, ?_⟩
      · rw [loop, Ran, hstep.ends_bind]
        exact hran
      · rintro (hup | ⟨m', hm', hconn⟩)
        · exact hready (.inl (hready₁ (.inl hup)))
        · rcases List.mem_cons.mp hm' with rfl | hin
          · exact hready (.inl (hready₁ (.inr hconn)))
          · exact hready (.inr ⟨m', hin, hconn⟩)

/-- A restart is reported: the in-flight list is purged. -/
theorem handleRpcResponse_purged {R : Plugin σ Unit} {resp : RpcResponse} {w : World σ}
    (hsynt : reportsRestart resp w.synt = true) (hok : resp.rescode = .ok)
    (hq : ∀ m ∈ w.inFlight, m.Awaited) :
    ∃ w', Ran (handleRpcResponse R resp) w () w' ∧ w'.inFlight = [] ∧
      AnswersSince (w.observe (.response resp)).log w'.log ∧
      (w.dplaneIsReady = true ∨ (∃ m ∈ w.inFlight, m.IsConnect) → w'.dplaneIsReady = true) := by
  have hop := ((reportsRestart_iff _ _).mp hsynt).1
  rcases purge_ran (R := R) hop hok (w.inFlight.length + 1) (w.observe (.response resp)) hq
    (Nat.lt_succ_self _) with ⟨w', hran, hrest⟩
  refine ⟨w', ?_, hrest⟩
  rw [Ran, handleRpcResponse, ends_observe_bind, ends_get_bind, observe_synt, hsynt, if_pos rfl]
  exact hran

/-! ### The first send -/

theorem Reconnects.log_prefix {R : Plugin σ Unit} (hR : Reconnects R) {w w' : World σ}
    {r : Except Halt Unit} (h : Ends R w r w') : w.log <+: w'.log :=
  log_prefix_of_leads (hR [] w r w' h)

/-- `do_send_rpc_msg` gets to encode a message that it may send. -/
theorem doSendRpcMsg_encodes {R : Plugin σ Unit} (hR : Reconnects R) {m : DpMsg} {w w' : World σ}
    {r : Except Halt Int} (hmay : w.MaySend m) (h : Ends (doSendRpcMsg R m) w r w') :
    ∃ octets, w.log ++ [⟨.encoded m octets, w.view⟩] <+: w'.log := by
  have hbuf : ¬ w.txBuff.isNone = true := by
    rw [Option.isNone_iff_eq_none]
    exact Option.isSome_iff_ne_none.mp hmay.1
  have hcan : ¬ (m.msg.isConnect || w.dplaneIsReady) = false := by
    rw [Bool.not_eq_false, Bool.or_eq_true]
    exact hmay.2
  rcases henc : Os.encodeMsg m.msg w.os with ⟨octets, os⟩
  rw [doSendRpcMsg, ends_get_bind, if_neg hbuf, (canSendRpcRequest_ran _ _).ends_bind, if_neg hcan,
    (encodeMsg_ran m w henc).ends_bind] at h
  refine ⟨octets, ?_⟩
  cases octets with
  | none =>
    simp only [rpcCountEncodeFailure, ends_count_bind, ends_pure] at h
    rw [h.2]
    exact List.prefix_rfl
  | some len =>
    simp only at h
    rcases hsend : Os.send w.dpSock m.msg len os with ⟨result, os'⟩
    rw [(osSend_ran m len _ hsend).ends_bind] at h
    cases result with
    | octets k =>
      by_cases hk : k = len
      · simp only [ne_eq, hk, not_true_eq_false, if_false, rpcCountTx, ends_count_bind,
          ends_observe_bind, ends_pure] at h
        rw [h.2]
        simp [List.append_assoc]
      · simp only [ne_eq, hk, not_false_eq_true, if_true, ends_pure] at h
        rw [h.2]
        exact List.prefix_append _ _
    | error e =>
      simp only [doSendRpcMsgError, rpcCountTxError, ends_count_bind] at h
      by_cases hb : e.isBlocked = true
      · rw [if_pos hb, ends_wakeonDpWriteAvail_bind, ends_pure] at h
        rw [h.2]
        exact List.prefix_append _ _
      by_cases hd : e.isDisconnect = true
      · rw [if_neg hb, if_pos hd] at h
        simp only [dplaneSetReady, ends_modify_bind, ends_get_bind] at h
        by_cases htimer : w.evConnectTimer = false
        · rw [if_pos (by exact htimer)] at h
          refine (List.prefix_append _ [⟨.send m len (.error e), w.view⟩]).trans ?_
          rcases (ends_bind _ _ _ _ _).mp h with ⟨_, t, hran, hret⟩ | ⟨x, hhalts, -⟩
          · rw [((ends_pure _ _ _ _).mp hret).2]
            exact hR.log_prefix hran
          · exact hR.log_prefix hhalts
        · rw [if_neg (by exact htimer), ends_pure] at h
          rw [h.2]
          exact List.prefix_append _ _
      · rw [if_neg hb, if_neg hd, ends_pure] at h
        rw [h.2]
        exact List.prefix_append _ _

/-- A round of the drain gets to encode the oldest message, if it may send it. -/
theorem sendPendingStep_encodes {R : Plugin σ Unit} (hR : Reconnects R) {m : DpMsg}
    {rest : List DpMsg} {w w' : World σ} {r : Except Halt Bool} (hq : w.unsent = m :: rest)
    (hmay : World.MaySend { w with unsent := rest } m) (h : Ends (sendPendingStep R) w r w') :
    ∃ octets v, v.ready = w.dplaneIsReady ∧ v.inFlight = w.inFlight ∧
      w.log ++ [⟨.encoded m octets, v⟩] <+: w'.log := by
  have hpop : Ran dpMsgPopUnsent w (some m) { w with unsent := rest } :=
    (ends_dpMsgPopUnsent _ _ _).mpr (.inr ⟨m, rest, hq, rfl, rfl⟩)
  rw [sendPendingStep, hpop.ends_bind] at h
  rcases (ends_bind _ _ _ _ _).mp h with ⟨a, t, hran, hrest⟩ | ⟨e, hhalts, -⟩
  · rcases doSendRpcMsg_encodes hR hmay hran with ⟨octets, hle⟩
    refine ⟨octets, World.view { w with unsent := rest }, rfl, rfl, hle.trans ?_⟩
    by_cases ha : a = 0
    · rw [if_pos ha] at hrest
      by_cases hreq : m.msg.type = .request
      · rw [if_pos hreq, rpcCountRequestSent, ends_count_bind,
          Ran.ends_bind ((ends_dpMsgCacheInflight hreq _ _ _).mpr ⟨rfl, rfl⟩)] at hrest
        rw [((ends_pure _ _ _ _).mp hrest).2]
        exact List.prefix_rfl
      · rw [if_neg hreq] at hrest
        by_cases hctl : m.msg.type = .control
        · rw [if_pos hctl, rpcCountCtlTx, ends_count_bind, ends_dpMsgRecycle_bind] at hrest
          rw [((ends_pure _ _ _ _).mp hrest).2]
          exact List.prefix_append _ _
        · rw [if_neg hctl, ends_dpMsgRecycle_bind] at hrest
          rw [((ends_pure _ _ _ _).mp hrest).2]
          exact List.prefix_append _ _
    · rw [if_neg ha, dpMsgUnsentPushBack, ends_modify_bind] at hrest
      rcases (ends_pure _ _ _ _).mp hrest with ⟨-, rfl⟩
      exact List.prefix_rfl
  · rcases doSendRpcMsg_encodes hR hmay hhalts with ⟨octets, hle⟩
    exact ⟨octets, World.view { w with unsent := rest }, rfl, rfl, hle⟩

/-- So does the drain. -/
theorem sendPendingRpcMsgs_encodes {R : Plugin σ Unit} (hR : Reconnects R) {m : DpMsg}
    {rest : List DpMsg} {w w' : World σ} {r : Except Halt Unit} (hq : w.unsent = m :: rest)
    (hmay : World.MaySend { w with unsent := rest } m) (h : Ends (sendPendingRpcMsgs R) w r w') :
    ∃ octets v, v.ready = w.dplaneIsReady ∧ v.inFlight = w.inFlight ∧
      w.log ++ [⟨.encoded m octets, v⟩] <+: w'.log := by
  rw [sendPendingRpcMsgs, ends_get_bind, loop] at h
  rcases (ends_bind _ _ _ _ _).mp h with ⟨goOn, t, hran, hrest⟩ | ⟨e, hhalts, -⟩
  · rcases sendPendingStep_encodes hR hq hmay hran with ⟨octets, v, hready, hflight, hle⟩
    refine ⟨octets, v, hready, hflight, hle.trans ?_⟩
    cases goOn with
    | true =>
      rw [if_pos rfl] at hrest
      exact log_prefix_of_leads (Follows.loop (sendPendingStep_refines hR []) _ _ hrest)
    | false =>
      rw [if_neg Bool.false_ne_true] at hrest
      rcases (ends_pure _ _ _ _).mp hrest with ⟨-, rfl⟩
      exact List.prefix_rfl
  · exact sendPendingStep_encodes hR hq hmay hhalts

end DplanePlugin
