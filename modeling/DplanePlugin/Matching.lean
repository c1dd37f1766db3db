/-
  DplanePlugin/Matching.lean
  ==========================
  **Responses are matched by position.**

  `recover_request` takes the oldest request in flight for every response and
  relies on responses in the order of the requests.  Of a request that is never
  answered, or answered twice, it does not know: the `k`-th response that is
  decoded meets the `k`-th request.  So an answer completes its own request if and
  only if as many answers were decoded before it as there are requests before its
  own; elsewhere the request it meets is passed to `dp_msg_recycle` with its
  context, and the context is lost.
-/
import DplanePlugin.Handling
import DplanePlugin.Script
import Mathlib.Data.List.Nodup

namespace DplanePlugin

open Lib

variable {σ : Type}

/-! ### What comes in -/

/-- A reply: the request it answers, and its result code. -/
abbrev Reply : Type := DpMsg × RpcResultCode

/-- The datagram decodes to the answer `a`. -/
def Datagram.Answers (d : Datagram) (a : Reply) : Prop :=
  d.octets ≠ 0 ∧ ∃ msg, d.decoded = some msg ∧ msg.type = .response ∧
    msg.response.op = a.1.msg.request.op ∧ msg.response.seqn = a.1.msg.request.seqn ∧
    msg.response.rescode = a.2

/-- Datagrams that do not decode, or hold answers to some of `reqs`: the list of
    the answers. -/
inductive Incoming (reqs : List DpMsg) : List Datagram → List Reply → Prop
  | nil : Incoming reqs [] []
  | lost {d : Datagram} {ds : List Datagram} {answers : List Reply}
      (hd : d.decoded = none) (hrest : Incoming reqs ds answers) : Incoming reqs (d :: ds) answers
  | answer {d : Datagram} {a : Reply} {ds : List Datagram} {answers : List Reply}
      (ha : a.1 ∈ reqs) (hd : d.Answers a) (hrest : Incoming reqs ds answers) :
      Incoming reqs (d :: ds) (a :: answers)

/-- `dp_rpc_recv` receives the datagrams, each in a round of its loop.  Between two
    rounds anything may happen that leaves the requests in flight alone. -/
inductive Receives [Os σ] (R : Plugin σ Unit) : List Datagram → World σ → World σ → Prop
  | done (w : World σ) : Receives R [] w w
  | round {d : Datagram} {ds : List Datagram} {w w₁ w₂ : World σ} {os : σ} {r : Except Halt Bool}
      (hrecv : Os.recv w.dpSock w.os = (.data d, os)) (hrun : Ends (dpRpcRecvStep R) w r w₁)
      (hrest : Receives R ds w₁ w₂) : Receives R (d :: ds) w w₂
  | other {ds : List Datagram} {w w₁ w₂ : World σ} (hq : w₁.inFlight = w.inFlight)
      (hout : outStatuses w₁.log = outStatuses w.log) (hrest : Receives R ds w₁ w₂) :
      Receives R ds w w₂

/-! ### One datagram -/

/-- What the answer `a` completes when it meets the request `m`. -/
def Reply.completes (m : DpMsg) (a : Reply) : Option (CtxRef × ZebraResult) :=
  if a.1 = m then m.ctx.map fun c => (c, a.2.toZebra) else none

variable [Os σ] {R : Plugin σ Unit} {w w' : World σ}

theorem reportsRestart_of_op_ne {resp : RpcResponse} (hop : resp.op ≠ .connect) (synt : UInt64) :
    reportsRestart resp synt = false := by
  rw [← Bool.not_eq_true, reportsRestart_iff]
  exact fun hrestart => hop hrestart.1

/-- An answer meets the oldest request. -/
theorem handleRpcResponse_meets {resp : RpcResponse} {a : Reply} {m : DpMsg} {rest : List DpMsg}
    (hop : resp.op = a.1.msg.request.op) (hseqn : resp.seqn = a.1.msg.request.seqn)
    (hrescode : resp.rescode = a.2) (ha : a.1.IsUpdate) (hm : m.IsUpdate)
    (hsame : a.1.msg.request.seqn = m.msg.request.seqn → a.1 = m) (hq : w.inFlight = m :: rest)
    {r : Except Halt Unit} (h : Ends (handleRpcResponse R resp) w r w') :
    w'.inFlight = rest ∧
      outStatuses w'.log = outStatuses w.log ++ (a.completes m).toList := by
  have hsynt := reportsRestart_of_op_ne (hop.trans_ne ha.op_ne) w.synt
  rcases hm.ctx with ⟨c, hctx⟩
  by_cases heq : a.1 = m
  · have hmat : gotExpectedResponse resp m.msg.request = true := by
      rw [gotExpectedResponse_iff, ← heq]
      exact ⟨hseqn, hop⟩
    have hran := handleRpcResponse_completed (R := R) hsynt hq hm hctx hmat
    obtain ⟨-, rfl⟩ := hran.unique h
    rw [Reply.completes, if_pos heq, hctx, ← hrescode]
    simp
  · have hmis : gotExpectedResponse resp m.msg.request = false := by
      rw [← Bool.not_eq_true, gotExpectedResponse_iff]
      exact fun hmat => heq (hsame (hseqn.symm.trans hmat.1))
    have hran := handleRpcResponse_mismatched (R := R) hsynt hq hm.type hmis
    obtain ⟨-, rfl⟩ := hran.unique h
    rw [Reply.completes, if_neg heq]
    simp

/-- A datagram that does not decode. -/
theorem dpRpcRecvStep_lost {d : Datagram} {os : σ} {r : Except Halt Bool}
    (hrecv : Os.recv w.dpSock w.os = (.data d, os)) (hd : d.decoded = none)
    (h : Ends (dpRpcRecvStep R) w r w') :
    w'.inFlight = w.inFlight ∧ outStatuses w'.log = outStatuses w.log := by
  rw [dpRpcRecvStep, sockRecv, bind_assoc, ends_get_bind, bind_assoc, ends_osCall_bind, hrecv] at h
  simp only [rpcCountRx, bind_assoc, ends_count_bind, pure_bind, hd, rpcCountDecodeFailure] at h
  by_cases hzero : d.octets = 0
  · rw [if_pos hzero] at h
    obtain ⟨-, rfl⟩ := (ends_pure _ _ _ _).mp h
    exact ⟨rfl, rfl⟩
  · rw [if_neg hzero, ends_count_bind] at h
    obtain ⟨-, rfl⟩ := (ends_pure _ _ _ _).mp h
    exact ⟨rfl, rfl⟩

/-- A datagram that holds a response. -/
theorem dpRpcRecvStep_response {d : Datagram} {os : σ} {r : Except Halt Bool} {msg : RpcMsg}
    (hrecv : Os.recv w.dpSock w.os = (.data d, os)) (hd : d.octets ≠ 0)
    (hmsg : d.decoded = some msg) (htype : msg.type = .response)
    (h : Ends (dpRpcRecvStep R) w r w') :
    ∃ r', Ends (handleRpcResponse R msg.response) ({ w with os := os }.count .rx) r' w' := by
  rw [dpRpcRecvStep, sockRecv, bind_assoc, ends_get_bind, bind_assoc, ends_osCall_bind, hrecv] at h
  simp only [rpcCountRx, bind_assoc, ends_count_bind, pure_bind, hmsg, handleRpcMsg, htype] at h
  rw [if_neg hd] at h
  rcases (ends_bind _ _ _ _ _).mp h with ⟨u, t, hrun, hret⟩ | ⟨e, hrun, -⟩
  · obtain ⟨-, rfl⟩ := (ends_pure _ _ _ _).mp hret
    exact ⟨_, hrun⟩
  · exact ⟨_, hrun⟩

/-! ### All of them -/

/-- The answers that are decoded meet the requests in flight one by one. -/
theorem Receives.meets {reqs : List DpMsg} (hreqs : ∀ m ∈ reqs, m.IsUpdate)
    (hseqns : (reqs.map (·.msg.request.seqn)).Nodup) {ds : List Datagram} {answers : List Reply}
    (h : Receives R ds w w') (hin : Incoming reqs ds answers) (hq : w.inFlight ⊆ reqs) :
    w'.inFlight = w.inFlight.drop answers.length ∧
      outStatuses w'.log = outStatuses w.log ++
        (w.inFlight.zip answers).filterMap fun p => p.2.completes p.1 := by
  induction h generalizing answers with
  | done w =>
    cases hin
    simp
  | other hflight hout hrest ih =>
    rcases ih hin (hflight ▸ hq) with ⟨hflight', hout'⟩
    rw [hflight', hout', hflight, hout]
    exact ⟨rfl, rfl⟩
  | round hrecv hrun hrest ih =>
    cases hin with
    | lost hd hin =>
      rcases dpRpcRecvStep_lost hrecv hd hrun with ⟨hflight, hout⟩
      rcases ih hin (hflight ▸ hq) with ⟨hflight', hout'⟩
      rw [hflight', hout', hflight, hout]
      exact ⟨rfl, rfl⟩
    | @answer _ a _ answers ha hd hin =>
      rcases hd with ⟨hoctets, msg, hmsg, htype, hop, hseqn, hrescode⟩
      rcases dpRpcRecvStep_response hrecv hoctets hmsg htype hrun with ⟨r', hhandled⟩
      rename_i w w₁ w₂ os r
      cases hflight : w.inFlight with
      | nil =>
        have hsynt := reportsRestart_of_op_ne (hop.trans_ne (hreqs _ ha).op_ne) w.synt
        have hran : Ran (handleRpcResponse R msg.response) ({ w with os := os }.count .rx) () _ :=
          handleRpcResponse_unmatched hsynt hflight
        obtain ⟨-, rfl⟩ := hran.unique hhandled
        have hflight₁ : w.inFlight = [] := hflight
        rcases ih hin (by simp [hflight₁]) with ⟨hflight', hout'⟩
        rw [hflight', hout']
        simp [hflight₁]
      | cons m rest =>
        have hmem : m ∈ reqs := hq (hflight ▸ List.mem_cons_self)
        have hsame := List.inj_on_of_nodup_map hseqns ha hmem
        rcases handleRpcResponse_meets hop hseqn hrescode (hreqs _ ha) (hreqs _ hmem) hsame
          (w := { w with os := os }.count .rx) hflight hhandled with ⟨hflight₁, hout₁⟩
        have hrest' : w₁.inFlight ⊆ reqs := by
          intro x hx
          rw [hflight₁] at hx
          exact hq (hflight ▸ List.mem_cons_of_mem _ hx)
        rcases ih hin hrest' with ⟨hflight', hout'⟩
        rw [hflight', hout', hflight₁, hout₁, List.length_cons, List.drop_succ_cons,
          List.zip_cons_cons, filterMap_cons_toList, List.append_assoc]
        exact ⟨rfl, rfl⟩

/-- Of the answers to the requests in flight, the `k`-th that is decoded meets the
    `k`-th request: it completes the request if it answers it, and nothing
    otherwise, and the request is in flight no more. -/
theorem answers_meet_in_order (hreqs : ∀ m ∈ w.inFlight, m.IsUpdate)
    (hseqns : (w.inFlight.map (·.msg.request.seqn)).Nodup) {ds : List Datagram}
    {answers : List Reply} (hin : Incoming w.inFlight ds answers) (h : Receives R ds w w') :
    w'.inFlight = w.inFlight.drop answers.length ∧
      outStatuses w'.log = outStatuses w.log ++
        (w.inFlight.zip answers).filterMap fun p => p.2.completes p.1 :=
  h.meets hreqs hseqns hin fun _ hm => hm

/-! ### The answers that complete their own requests -/

/-- The round of the loop that receives `d`. -/
def ReceivesOne (R : Plugin σ Unit) (d : Datagram) (w w' : World σ) : Prop :=
  ∃ os r, Os.recv w.dpSock w.os = (.data d, os) ∧ Ends (dpRpcRecvStep R) w r w'

omit [Os σ] in
/-- Between `w` and `w'` the context of the request that `a` answers is completed with
    the result code of `a`, and no other is. -/
def Reply.CompletesOwn (a : Reply) (w w' : World σ) : Prop :=
  ∃ c, a.1.ctx = some c ∧ outStatuses w'.log = outStatuses w.log ++ [(c, a.2.toZebra)]

theorem ReceivesOne.receives {d : Datagram} (h : ReceivesOne R d w w') : Receives R [d] w w' := by
  rcases h with ⟨os, r, hrecv, hrun⟩
  exact .round hrecv hrun (.done _)

/-- The oldest request decides what an answer completes. -/
theorem filterMap_zip_single (l : List DpMsg) (a : Reply) :
    ((l.zip [a]).filterMap fun p => p.2.completes p.1) = (l.head?.bind a.completes).toList := by
  cases l with
  | nil => rfl
  | cons m l => cases hm : a.completes m <;> simp [hm]

/-- After any of the answers were decoded, in any order and with any of them missing or
    repeated: the next answer that is decoded completes the context of its own request
    with its own result code if and only if as many answers were decoded before it as
    there are requests before its own. -/
theorem answer_completes_iff {w₁ w₂ : World σ} (hreqs : ∀ m ∈ w.inFlight, m.IsUpdate)
    (hseqns : (w.inFlight.map (·.msg.request.seqn)).Nodup) {ds : List Datagram}
    {before : List Reply} (hin : Incoming w.inFlight ds before) (h : Receives R ds w w₁)
    {d : Datagram} {a : Reply} {older newer : List DpMsg} (hq : w.inFlight = older ++ a.1 :: newer)
    (hd : d.Answers a) (hone : ReceivesOne R d w₁ w₂) :
    a.CompletesOwn w₁ w₂ ↔ before.length = older.length := by
  have ha : a.1 ∈ w.inFlight := by simp [hq]
  have hnodup : w.inFlight.Nodup := List.Nodup.of_map _ hseqns
  have hflight := (answers_meet_in_order hreqs hseqns hin h).1
  have hsub : w₁.inFlight ⊆ w.inFlight := hflight ▸ List.drop_subset _ _
  have hout := (hone.receives.meets hreqs hseqns (.answer ha hd .nil) hsub).2
  rw [hflight, filterMap_zip_single, List.head?_drop] at hout
  rcases (hreqs _ ha).ctx with ⟨c, hctx⟩
  have hown : w.inFlight[older.length]? = some a.1 := by simp [hq]
  constructor
  · rintro ⟨c', -, hdone⟩
    rw [hdone, List.append_cancel_left_eq] at hout
    cases hmet : w.inFlight[before.length]? with
    | none => simp [hmet] at hout
    | some m =>
      by_cases heq : a.1 = m
      · subst heq
        exact (List.getElem?_inj (List.getElem?_eq_some_iff.mp hmet).1 hnodup).mp
          (hmet.trans hown.symm)
      · simp [hmet, Reply.completes, heq] at hout
  · intro hlen
    refine ⟨c, hctx, ?_⟩
    rw [hout, hlen, hown]
    simp [Reply.completes, hctx]

/-! ### A lost answer -/

/-- The datagram that holds a positive answer to the addition number `seqn`. -/
def addedDatagram (seqn : UInt64) : Datagram := ⟨64, some (.ofResponse ⟨.add, seqn, .ok, none⟩)⟩

/-- A datagram that does not decode. -/
def brokenDatagram : Datagram := ⟨64, none⟩

/-- The Connect is accepted, and later the datagrams are received. -/
def datagramScript (ds : List Datagram) : Script :=
  { Script.plain with recvs := accept 7 :: .error .eagain :: ds.map .data }

/-- The state after a round. -/
def roundWorld (w : World Script) : World Script :=
  (StateT.run (ExceptT.run (dpRpcRecvStep (dpConnect 3))) w).2

theorem receivesOne_roundWorld {w : World Script} {d : Datagram}
    (h : w.os.recvs.head? = some (.data d)) : ReceivesOne (dpConnect 3) d w (roundWorld w) := by
  have hrecv : Os.recv w.dpSock w.os = (.data d, { w.os with recvs := w.os.recvs.tail }) := by
    change (w.os.recvs.headD _, { w.os with recvs := w.os.recvs.tail }) = _
    rw [List.headD_eq_head?_getD, h]
    rfl
  exact ⟨_, _, hrecv, ends_run _ _⟩

theorem receives_roundWorld {w w' : World Script} {d : Datagram} {ds : List Datagram}
    (h : w.os.recvs.head? = some (.data d)) (hrest : Receives (dpConnect 3) ds (roundWorld w) w') :
    Receives (dpConnect 3) (d :: ds) w w' := by
  rcases receivesOne_roundWorld h with ⟨os, r, hrecv, hrun⟩
  exact .round hrecv hrun hrest

theorem Reachable.updates_in_flight {w : World σ} (h : Reachable w)
    (hops : ∀ m ∈ w.inFlight, m.msg.request.op ≠ .connect) : ∀ m ∈ w.inFlight, m.IsUpdate :=
  fun m hm => (h.config.typed.inFlight m hm).isUpdate (hops m hm)

/-- The datagram holds the answer to the addition number `seqn`. -/
theorem addedDatagram_answers {m : DpMsg} {seqn : UInt64}
    (hm : (m.msg.request.op, m.msg.request.seqn) = (RpcOp.add, seqn)) :
    (addedDatagram seqn).Answers (m, .ok) := by
  rcases Prod.mk.inj hm with ⟨hop, hseqn⟩
  exact ⟨by simp [addedDatagram], _, rfl, rfl, hop.symm, hseqn.symm, rfl⟩

theorem incoming_added {reqs : List DpMsg} {m : DpMsg} {seqn : UInt64} {ds : List Datagram}
    {answers : List Reply} (hmem : m ∈ reqs)
    (hm : (m.msg.request.op, m.msg.request.seqn) = (RpcOp.add, seqn))
    (hin : Incoming reqs ds answers) :
    Incoming reqs (addedDatagram seqn :: ds) ((m, .ok) :: answers) :=
  .answer hmem (addedDatagram_answers hm) hin

/-- Three additions are in flight.  The first answer is lost, the second one comes twice,
    and then the third one comes. -/
def repeatedWorld : World Script :=
  played 3 (datagramScript [brokenDatagram, addedDatagram 2, addedDatagram 2, addedDatagram 3])
    [.recv, .process 3 [routeCtx 1, routeCtx 2, routeCtx 3]]

/-- The request at a place, when these are the operations and numbers of the list. -/
theorem request_at {l : List DpMsg} {keys : List (RpcOp × UInt64)}
    (h : (l.map fun m => (m.msg.request.op, m.msg.request.seqn)) = keys) {i : Nat}
    (hi : i < keys.length) :
    ∃ older m newer, l = older ++ m :: newer ∧ older.length = i ∧
      (m.msg.request.op, m.msg.request.seqn) = keys[i] := by
  subst h
  rw [List.length_map] at hi
  refine ⟨l.take i, l[i], l.drop (i + 1), ?_, by simp [Nat.le_of_lt hi], by simp⟩
  rw [List.getElem_cons_drop, List.take_append_drop]

theorem third_completes_in_repeatedWorld :
    ∃ m w₁ w₂, m.msg.request.seqn = 3 ∧
      Receives (dpConnect 3) [brokenDatagram, addedDatagram 2, addedDatagram 2] repeatedWorld w₁ ∧
      ReceivesOne (dpConnect 3) (addedDatagram 3) w₁ w₂ ∧
      Reply.CompletesOwn (m, .ok) w₁ w₂ := by
  have hreach : Reachable repeatedWorld := played_reachable _ _ _ (by decide +kernel)
  have hreqs := hreach.updates_in_flight (by decide +kernel)
  have hseqns : (repeatedWorld.inFlight.map (·.msg.request.seqn)).Nodup := by decide +kernel
  have hkeys : (repeatedWorld.inFlight.map fun m => (m.msg.request.op, m.msg.request.seqn)) =
      [(.add, 1), (.add, 2), (.add, 3)] := by decide +kernel
  rcases request_at hkeys (i := 1) (by decide) with ⟨_, m₂, _, hq₂, -, hm₂⟩
  rcases request_at hkeys (i := 2) (by decide) with ⟨older, m₃, newer, hq, hlen, hm₃⟩
  have hmem : m₂ ∈ repeatedWorld.inFlight := by simp [hq₂]
  have hin : Incoming repeatedWorld.inFlight [brokenDatagram, addedDatagram 2, addedDatagram 2]
      [(m₂, .ok), (m₂, .ok)] :=
    .lost rfl (incoming_added hmem hm₂ (incoming_added hmem hm₂ .nil))
  have hrecv : Receives (dpConnect 3) [brokenDatagram, addedDatagram 2, addedDatagram 2]
      repeatedWorld (roundWorld (roundWorld (roundWorld repeatedWorld))) :=
    receives_roundWorld (by decide +kernel) (receives_roundWorld (by decide +kernel)
      (receives_roundWorld (by decide +kernel) (.done _)))
  have hone := receivesOne_roundWorld (w := roundWorld (roundWorld (roundWorld repeatedWorld)))
    (d := addedDatagram 3) (by decide +kernel)
  have hiff := answer_completes_iff hreqs hseqns hin hrecv (a := (m₃, .ok)) hq
    (addedDatagram_answers hm₃) hone
  exact ⟨m₃, _, _, (Prod.mk.inj hm₃).2, hrecv, hone, hiff.mpr hlen.symm⟩

/-- Two additions are in flight, and the first answer is lost. -/
def desynchronisedWorld : World Script :=
  played 3 (datagramScript [brokenDatagram, addedDatagram 2])
    [.recv, .process 2 [routeCtx 1, routeCtx 2]]

/-- The second one is decoded, and its context is not given back. -/
theorem lost_answer_desynchronises :
    ¬ ∀ (w w' : World Script) (ds : List Datagram) (answers : List Reply),
      (∀ m ∈ w.inFlight, m.IsUpdate) → (w.inFlight.map (·.msg.request.seqn)).Nodup →
      (answers.map (·.1)).Sublist w.inFlight → Incoming w.inFlight ds answers →
      Receives (dpConnect 3) ds w w' →
      ∀ a ∈ answers, ∃ c, a.1.ctx = some c ∧ (c, a.2.toZebra) ∈ outStatuses w'.log := by
  intro hall
  have hreach : Reachable desynchronisedWorld := played_reachable _ _ _ (by decide +kernel)
  have hreqs := hreach.updates_in_flight (by decide +kernel)
  have hseqns : (desynchronisedWorld.inFlight.map (·.msg.request.seqn)).Nodup := by decide +kernel
  have hkeys : (desynchronisedWorld.inFlight.map fun m =>
      (m.msg.request.op, m.msg.request.seqn)) = [(.add, 1), (.add, 2)] := by decide +kernel
  rcases request_at hkeys (i := 1) (by decide) with ⟨_, m₂, _, hq, -, hm₂⟩
  have hmem : m₂ ∈ desynchronisedWorld.inFlight := by simp [hq]
  have hin : Incoming desynchronisedWorld.inFlight [brokenDatagram, addedDatagram 2] [(m₂, .ok)] :=
    .lost rfl (incoming_added hmem hm₂ .nil)
  have hsub : ([(m₂, RpcResultCode.ok)].map (·.1)).Sublist desynchronisedWorld.inFlight :=
    List.singleton_sublist.mpr hmem
  have hrecv : Receives (dpConnect 3) [brokenDatagram, addedDatagram 2] desynchronisedWorld
      (roundWorld (roundWorld desynchronisedWorld)) :=
    receives_roundWorld (by decide +kernel) (receives_roundWorld (by decide +kernel) (.done _))
  have hnone : outStatuses (roundWorld (roundWorld desynchronisedWorld)).log = [] := by
    decide +kernel
  rcases hall _ _ _ _ hreqs hseqns hsub hin hrecv _ List.mem_cons_self with ⟨c, -, hout⟩
  rw [hnone] at hout
  cases hout

end DplanePlugin
