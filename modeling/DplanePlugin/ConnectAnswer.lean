/-
  DplanePlugin/ConnectAnswer.lean
  ===============================
  **When a positive answer to a Connect makes the plugin ready.**

  The answer is matched with the oldest request in flight unless it reports a
  restart.  Requests that were in flight before a reconnect are still there, in
  front of the Connect; the answer then takes the oldest of them away, and the
  Connect stays in flight.
-/
import DplanePlugin.Handling

namespace DplanePlugin

open Lib

variable {σ : Type}

/-! ### Ready before the next send -/

/-- `do_send_rpc_msg` got past its test of readiness. -/
def Obs.isAttempt : Obs → Bool
  | .encoded _ _ | .send _ _ _ => true
  | _ => false

/-- The state at the first attempt to send since `w`, or `w'` if there was none. -/
def viewAtSend (w w' : World σ) : View :=
  match (w'.log.drop w.log.length).find? (·.obs.isAttempt) with
  | some e => e.view
  | none => w'.view

/-- From `w` to `w'`, the plugin became ready and `c` left the in-flight list
    before anything more was sent. -/
def MakesReady (w w' : World σ) (c : DpMsg) : Prop :=
  (viewAtSend w w').ready = true ∧ c ∉ (viewAtSend w w').inFlight

instance (w w' : World σ) (c : DpMsg) : Decidable (MakesReady w w' c) :=
  inferInstanceAs (Decidable (_ ∧ _))

theorem OnlyAnswers.no_attempt {log : List Entry} (h : OnlyAnswers log) :
    log.find? (·.obs.isAttempt) = none := by
  apply List.find?_eq_none.mpr
  intro e he
  have hkind := h e he
  cases hobs : e.obs <;> simp_all [Obs.ofAnswer, Obs.isAttempt]

/-- Without an attempt to send, the last state tells. -/
theorem makesReady_of_answers {w w' : World σ} {c : DpMsg} {resp : RpcResponse}
    (h : AnswersSince (w.observe (.response resp)).log w'.log) :
    MakesReady w w' c ↔ w'.dplaneIsReady = true ∧ c ∉ w'.inFlight := by
  rcases h with ⟨new, hlog, hnew⟩
  have hdrop : w'.log.drop w.log.length = ⟨.response resp, w.view⟩ :: new := by
    rw [hlog, observe_log, List.append_assoc, List.drop_left]
    rfl
  rw [MakesReady, viewAtSend, hdrop, List.find?_cons_of_neg (by simp [Obs.isAttempt]),
    hnew.no_attempt]
  rfl

/-- The first attempt tells. -/
theorem makesReady_of_attempt {w w₁ w' : World σ} {c m : DpMsg} {resp : RpcResponse}
    {octets : Option Nat} {v : View}
    (h : AnswersSince (w.observe (.response resp)).log w₁.log)
    (hle : w₁.log ++ [⟨.encoded m octets, v⟩] <+: w'.log) :
    MakesReady w w' c ↔ v.ready = true ∧ c ∉ v.inFlight := by
  rcases h with ⟨new, hlog, hnew⟩
  rcases hle with ⟨after, hafter⟩
  have hdrop : w'.log.drop w.log.length =
      ⟨.response resp, w.view⟩ :: (new ++ ⟨.encoded m octets, v⟩ :: after) := by
    rw [← hafter, hlog, observe_log]
    simp
  rw [MakesReady, viewAtSend, hdrop, List.find?_cons_of_neg (by simp [Obs.isAttempt]),
    List.find?_append, hnew.no_attempt]
  rfl

variable [Os σ]

/-- An older request than the Connect is no Connect, and a response to a Connect
    does not match it. -/
theorem Config.Reachable.mismatch_of_older {fs : List Frame} {w : World σ}
    (h : Config.Reachable ⟨fs, w⟩) {c m : DpMsg} {rest : List DpMsg}
    (hq : w.inFlight = m :: rest) (hc : c ∈ w.inFlight) (hne : m ≠ c) {resp : RpcResponse}
    (hop : resp.op = .connect) :
    m.IsUpdate ∧ gotExpectedResponse resp m.msg.request = false := by
  have hm : m.msg.isConnect = false := by
    rw [← Bool.not_eq_true]
    intro hm
    have hnil := h.shaken.handshake.only_connect hq hm
    rw [hq, hnil] at hc
    exact hne (List.mem_singleton.mp hc).symm
  have hupd : m.IsUpdate := by
    rcases h.typed.inFlight m (hq ▸ List.mem_cons_self) with hconnect | hupd
    · rw [hconnect.isConnect] at hm
      cases hm
    · exact hupd
  refine ⟨hupd, ?_⟩
  rw [← Bool.not_eq_true, gotExpectedResponse_iff]
  intro hmat
  exact hupd.op_ne (hmat.2 ▸ hop)

/-- A drain that starts ready makes the plugin ready before it sends. -/
theorem makesReady_of_drain {R : Plugin σ Unit} (hR : Reconnects R) {w w₁ w' : World σ}
    {c m : DpMsg} {resp : RpcResponse} {r : Except Halt Unit}
    (hsince : AnswersSince (w.observe (.response resp)).log w₁.log)
    (hready : w₁.dplaneIsReady = true) (hflight : c ∉ w₁.inFlight) (hbuf : w₁.txBuff.isSome = true)
    (h : Ends (sendPendingRpcMsgs R >>= fun _ => dpMsgRecycle m) w₁ r w') :
    MakesReady w w' c := by
  cases hq : w₁.unsent with
  | nil =>
    have hdrain : Ran (sendPendingRpcMsgs R) w₁ () w₁ := by
      rw [sendPendingRpcMsgs, Ran, ends_get_bind, loop, (sendPendingStep_ran_nil hq).ends_bind]
      exact (ends_pure _ _ _ _).mpr ⟨rfl, rfl⟩
    rw [hdrain.ends_bind, ends_dpMsgRecycle] at h
    rcases h with ⟨-, rfl⟩
    rw [makesReady_of_answers (hsince.trans (answersSince_recycle w₁ m))]
    exact ⟨hready, hflight⟩
  | cons m' rest =>
    have hmay : World.MaySend { w₁ with unsent := rest } m' := ⟨hbuf, .inr hready⟩
    have hencodes : ∃ octets v, v.ready = w₁.dplaneIsReady ∧ v.inFlight = w₁.inFlight ∧
        w₁.log ++ [⟨.encoded m' octets, v⟩] <+: w'.log := by
      rcases (ends_bind _ _ _ _ _).mp h with ⟨u, t, hran, hlast⟩ | ⟨e, hhalts, -⟩
      · rcases sendPendingRpcMsgs_encodes hR hq hmay hran with ⟨octets, v, hv, hvq, hle⟩
        rw [ends_dpMsgRecycle] at hlast
        rcases hlast with ⟨-, rfl⟩
        exact ⟨octets, v, hv, hvq, hle.trans (List.prefix_append _ _)⟩
      · exact sendPendingRpcMsgs_encodes hR hq hmay hhalts
    rcases hencodes with ⟨octets, v, hv, hvq, hle⟩
    rw [makesReady_of_attempt hsince hle, hv, hvq]
    exact ⟨hready, hflight⟩

/-- At any moment of a run with the Connect `c` in flight, a positive answer to a
    Connect makes the plugin ready and takes `c` from the in-flight list before
    anything more is sent, if and only if it reports a restart or no older request
    is in flight. -/
theorem answer_makes_ready_iff {fs : List Frame} {w : World σ} (h : Config.Reachable ⟨fs, w⟩)
    {c : DpMsg} (hc : c ∈ w.inFlight) (hconn : c.msg.isConnect = true) {resp : RpcResponse}
    (hop : resp.op = .connect) (hseqn : resp.seqn = 0) (hok : resp.rescode = .ok) {n : Nat}
    {r : Except Halt Unit} {w' : World σ}
    (hrun : Ends (handleRpcResponse (dpConnect n) resp) w r w') :
    MakesReady w w' c ↔ reportsRestart resp w.synt = true ∨ w.inFlight.head? = some c := by
  have htyped := h.typed
  have hs := h.shaken.handshake
  have hc' : c.IsConnect := (htyped.inFlight c hc).isConnect ((RpcMsg.isConnect_iff _).mp hconn).2
  rcases hsynt : reportsRestart resp w.synt with _ | _
  · cases hq : w.inFlight with
    | nil =>
      rw [hq] at hc
      cases hc
    | cons m rest =>
      by_cases hm : m = c
      · subst hm
        have hmat : gotExpectedResponse resp m.msg.request = true := by
          rw [gotExpectedResponse_iff, hc'.seqn, hc'.op]
          exact ⟨hseqn, hop⟩
        have hrest := hs.only_connect hq hconn
        have hdrain := handleRpcResponse_accepted hsynt hq hc'.type hmat hop hok hrun
        have hsince := answersSince_popFlight (w.observe (.response resp)) m rest
        have hready : MakesReady w w' m := by
          apply makesReady_of_drain (dpConnect_refines n) (_ : AnswersSince
            (w.observe (.response resp)).log _) _ _ _ hdrain
          · simpa using hsince
          · simp
          · simp [hrest]
          · simpa using htyped.buffer
        simpa using hready
      · rcases h.mismatch_of_older hq hc hm hop with ⟨hupd, hmis⟩
        have hran := handleRpcResponse_mismatched (R := dpConnect n) hsynt hq hupd.type hmis
        rcases hrun.unique hran with ⟨-, rfl⟩
        have hdown := (hs.of_connect hc hconn).2.1
        rw [makesReady_of_answers ((answersSince_popFlight _ _ _).trans
          (answersSince_recycle _ _))]
        simp only at hdown
        simp [hdown, hm]
  · rcases handleRpcResponse_purged (R := dpConnect n) hsynt hok htyped.inFlight with
      ⟨w₁, hran, hnil, hsince, hready⟩
    rcases hrun.unique hran with ⟨-, rfl⟩
    rw [makesReady_of_answers hsince, hnil]
    simp [hready (.inr ⟨c, hc, hc'⟩)]

/-- A positive answer to a Connect, with this sync token. -/
def positiveAnswer (synt : UInt64) : RpcResponse := ⟨.connect, 0, .ok, some (dataplaneInfo synt)⟩

/-- The state after `handle_rpc_response` handled that answer. -/
def answeredWorld (synt : UInt64) (w : World Script) : World Script :=
  (StateT.run (ExceptT.run (handleRpcResponse (dpConnect 3) (positiveAnswer synt))) w).2

theorem answeredWorld_ends (synt : UInt64) (w : World Script) :
    ∃ r, Ends (handleRpcResponse (dpConnect 3) (positiveAnswer synt)) w r (answeredWorld synt w) :=
  ⟨_, ends_run _ _⟩

/-- The last request in flight. -/
def lastInFlight (w : World Script) : DpMsg := w.inFlight.getLastD ⟨0, .zero, none⟩

/-- A route is in flight when sending the next one fails, and the new connection
    has its Connect in flight behind the route. -/
def backlogWorld : World Script :=
  played 3
    { Script.plain with
      recvs := [accept 7], sends := [.octets 64, .octets 64, .error .econnrefused] }
    [.recv, .process 2 [routeCtx 1, routeCtx 2]]

/-- The dataplane answers that Connect with another sync token, and the plugin becomes
    ready. -/
theorem answer_makes_backlogWorld_ready :
    MakesReady backlogWorld (answeredWorld 8 backlogWorld) (lastInFlight backlogWorld) := by
  have hreach : Reachable backlogWorld := played_reachable _ _ _ (by decide +kernel)
  have hop : (positiveAnswer 8).op = .connect := rfl
  have hseqn : (positiveAnswer 8).seqn = 0 := rfl
  have hok : (positiveAnswer 8).rescode = .ok := rfl
  have hmem : lastInFlight backlogWorld ∈ backlogWorld.inFlight := by decide +kernel
  have hconn : (lastInFlight backlogWorld).msg.isConnect = true := by decide +kernel
  have hrestart : reportsRestart (positiveAnswer 8) backlogWorld.synt = true := by decide +kernel
  refine (answeredWorld_ends 8 backlogWorld).elim fun r hrun => ?_
  have hiff := answer_makes_ready_iff hreach.config hmem hconn hop hseqn hok hrun
  exact hiff.mpr (.inl hrestart)

/-- The dataplane answers it with the sync token it had before, and the plugin does not
    become ready. -/
theorem answer_leaves_backlogWorld :
    ¬ ∀ (w : World Script) (c : DpMsg) (resp : RpcResponse) (n : Nat) (r : Except Halt Unit)
        (w' : World Script), Reachable w → c ∈ w.inFlight → c.msg.isConnect = true →
      resp.op = .connect → resp.seqn = 0 → resp.rescode = .ok →
      Ends (handleRpcResponse (dpConnect n) resp) w r w' → MakesReady w w' c := by
  intro hall
  have hreach : Reachable backlogWorld := played_reachable _ _ _ (by decide +kernel)
  have hop : (positiveAnswer 7).op = .connect := rfl
  have hseqn : (positiveAnswer 7).seqn = 0 := rfl
  have hok : (positiveAnswer 7).rescode = .ok := rfl
  have hmem : lastInFlight backlogWorld ∈ backlogWorld.inFlight := by decide +kernel
  have hconn : (lastInFlight backlogWorld).msg.isConnect = true := by decide +kernel
  refine (answeredWorld_ends 7 backlogWorld).elim fun r hrun => ?_
  have hready := hall _ _ _ _ _ _ hreach hmem hconn hop hseqn hok hrun
  have hnot : ¬ MakesReady backlogWorld (answeredWorld 7 backlogWorld)
      (lastInFlight backlogWorld) := by
    decide +kernel
  exact hnot hready

end DplanePlugin
