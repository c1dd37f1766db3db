/-
  DplanePlugin/Purge.lean
  =======================
  **What the purge after a restart settles.**

  `Settles resp msgs w w'` says what purging the requests `msgs` does, from `w`
  to `w'`: each round does it for one request, and two purges in a row compose.
  That only requests to the old incarnation are answered rests on the order of
  the in-flight list: a Connect in it is the last request sent.
-/
import DplanePlugin.ConnectAnswer
import DplanePlugin.Acceptance

namespace DplanePlugin

open Lib

variable {σ : Type}

/-- The requests `msgs` were taken from the in-flight list and settled: the
    contexts were given back with a success, a Connect was accepted with the
    objects of `resp`, and nothing else happened. -/
structure Settles (resp : RpcResponse) (msgs : List DpMsg) (w w' : World σ) : Prop where
  flight : w.inFlight = msgs ++ w'.inFlight
  out : outStatuses w'.log =
    outStatuses w.log ++ (ctxsOf (nonConnects msgs)).map fun c => (c, ZebraResult.success)
  pool : w'.pool = w.pool ++ msgs.map fun m => { m with ctx := none }
  unsent : w'.unsent = w.unsent
  os : w'.os = w.os
  attempted : attemptedMsgs w'.log = attemptedMsgs w.log
  ready : w'.dplaneIsReady = (w.dplaneIsReady || msgs.any (·.msg.isConnect))
  synt : w'.synt = if msgs.any (·.msg.isConnect) then (resp.objects.map (·.synt)).getD w.synt
    else w.synt

theorem settles_nil (resp : RpcResponse) (w : World σ) : Settles resp [] w w := by
  constructor <;> simp

theorem Settles.trans {resp : RpcResponse} {msgs msgs' : List DpMsg} {w₁ w₂ w₃ : World σ}
    (h : Settles resp msgs w₁ w₂) (h' : Settles resp msgs' w₂ w₃) :
    Settles resp (msgs ++ msgs') w₁ w₃ where
  flight := by rw [h.flight, h'.flight, List.append_assoc]
  out := by rw [h'.out, h.out]; simp
  pool := by rw [h'.pool, h.pool]; simp
  unsent := h'.unsent.trans h.unsent
  os := h'.os.trans h.os
  attempted := h'.attempted.trans h.attempted
  ready := by rw [h'.ready, h.ready, List.any_append, Bool.or_assoc]
  synt := by
    rw [h'.synt, h.synt, List.any_append]
    cases msgs.any (·.msg.isConnect) <;> cases msgs'.any (·.msg.isConnect) <;>
      cases resp.objects <;> rfl

variable [Os σ]

section Purge
variable {R : Plugin σ Unit} {resp : RpcResponse}

/-- One round of the purge settles the oldest request. -/
theorem purgeStep_settles {w : World σ} {m : DpMsg} {rest : List DpMsg}
    (hq : w.inFlight = m :: rest) (hm : m.Awaited) (hop : resp.op = .connect)
    (hok : resp.rescode = .ok) :
    ∃ w', Ran (purgeStep R resp) w true w' ∧ Settles resp [m] w w' := by
  rcases hm with hconn | hupd
  · refine ⟨_, purgeStep_connect hq hconn hop hok, ?_⟩
    have hsame : ({ m with ctx := none } : DpMsg) = m := by rw [← hconn.ctx]
    constructor <;> simp [hq, hconn.isConnect, hconn.ctx, hsame]
  · rcases hupd.ctx with ⟨c, hctx⟩
    refine ⟨_, purgeStep_update hq hupd hctx, ?_⟩
    constructor <;> simp [hq, hupd.isConnect, hctx]

/-- The purge settles every request in flight. -/
theorem purge_settles (hop : resp.op = .connect) (hok : resp.rescode = .ok) (n : Nat)
    (w : World σ) (hq : ∀ m ∈ w.inFlight, m.Awaited) (hn : w.inFlight.length < n) :
    ∃ w', Ran (loop .outOfFuel n (purgeStep R resp)) w () w' ∧ w'.inFlight = [] ∧
      Settles resp w.inFlight w w' := by
  induction n generalizing w with
  | zero => omega
  | succ n ih =>
    cases hflight : w.inFlight with
    | nil =>
      refine ⟨w, ?_, hflight, settles_nil resp w⟩
      rw [loop, Ran, (purgeStep_nil hflight).ends_bind]
      exact (ends_pure _ _ _ _).mpr ⟨rfl, rfl⟩
    | cons m rest =>
      rw [hflight] at hq hn
      rcases List.forall_mem_cons.mp hq with ⟨hm, hrest⟩
      rcases purgeStep_settles (R := R) hflight hm hop hok with ⟨w₁, hstep, hone⟩
      have htail : w₁.inFlight = rest := by
        have heq := hone.flight
        rw [hflight] at heq
        exact (List.cons.inj heq).2.symm
      rw [List.length_cons] at hn
      rcases ih w₁ (htail ▸ hrest) (by rw [htail]; omega) with ⟨w', hran, hnil, hall⟩
      rw [htail] at hall
      refine ⟨w', ?_, hnil, hone.trans hall⟩
      rw [loop, Ran, hstep.ends_bind]
      exact hran

/-- A restart is reported: every request in flight is settled. -/
theorem handleRpcResponse_settles {w : World σ} (hsynt : reportsRestart resp w.synt = true)
    (hok : resp.rescode = .ok) (hq : ∀ m ∈ w.inFlight, m.Awaited) :
    ∃ w', Ran (handleRpcResponse R resp) w () w' ∧ w'.inFlight = [] ∧
      Settles resp w.inFlight (w.observe (.response resp)) w' := by
  have hop := ((reportsRestart_iff _ _).mp hsynt).1
  rcases purge_settles (R := R) hop hok (w.inFlight.length + 1) (w.observe (.response resp)) hq
    (Nat.lt_succ_self _) with ⟨w', hran, hrest⟩
  refine ⟨w', ?_, hrest⟩
  rw [Ran, handleRpcResponse, ends_observe_bind, ends_get_bind, observe_synt, hsynt, if_pos rfl]
  exact hran

end Purge

/-! ### In every run -/

/-- Every request in flight that is no Connect has a context. -/
theorem ctxs_length {msgs : List DpMsg} (h : ∀ m ∈ msgs, m.Awaited) :
    (ctxsOf (nonConnects msgs)).length = (nonConnects msgs).length := by
  apply List.filterMap_length_eq_length.mpr
  intro m hm
  rcases List.mem_filter.mp hm with ⟨hmem, hno⟩
  rcases h m hmem with hconn | hupd
  · rw [hconn.isConnect] at hno
    cases hno
  · rcases hupd.ctx with ⟨c, hc⟩
    rw [hc]
    rfl

/-- The requests in flight, a Connect aside, were sent before it. -/
theorem Config.Reachable.sent_before_connect {fs : List Frame} {w : World σ}
    (h : Config.Reachable ⟨fs, w⟩) {c : DpMsg} (hc : c ∈ w.inFlight)
    (hconn : c.msg.isConnect = true) :
    requests (sentMsgs w.log) = poppedMsgs w.log ++ nonConnects w.inFlight ++ [c] := by
  have hs := h.shaken.handshake
  rcases List.append_of_mem hc with ⟨pre, post, hq⟩
  have hpost := hs.connect_last hq hconn
  rw [hpost] at hq
  have hpre : ∀ m ∈ pre, (!m.msg.isConnect) = true := by
    intro m hm
    have hno : m.msg.isConnect = false := by
      apply hs.last m
      show m ∈ w.inFlight.dropLast
      rw [hq, List.dropLast_concat]
      exact hm
    rw [hno]
    rfl
  have hrest : nonConnects w.inFlight = pre := by
    rw [hq, nonConnects_append, nonConnects_singleton, if_pos hconn, List.append_nil]
    exact List.filter_eq_self.mpr hpre
  rw [hrest, List.append_assoc, ← hq]
  exact h.fifo.flight.symm

/-- A positive answer to a Connect that reports another sync token than the
    stored one, which is not 0: the requests in flight, and nothing else, are
    settled. -/
theorem restart_settles_requests_in_flight {fs : List Frame} {w : World σ}
    (h : Config.Reachable ⟨fs, w⟩) {resp : RpcResponse} {info : ConnInfo}
    (hop : resp.op = .connect) (hok : resp.rescode = .ok) (hobjects : resp.objects = some info)
    (hsynt : w.synt ≠ 0) (hnew : info.synt ≠ w.synt) (R : Plugin σ Unit) :
    ∃ w', Ran (handleRpcResponse R resp) w () w' ∧
      w'.inFlight = [] ∧
      outStatuses w'.log = outStatuses w.log ++
        (ctxsOf (nonConnects w.inFlight)).map (fun c => (c, ZebraResult.success)) ∧
      (ctxsOf (nonConnects w.inFlight)).length = (nonConnects w.inFlight).length ∧
      w'.pool = w.pool ++ w.inFlight.map (fun m => { m with ctx := none }) ∧
      w'.unsent = w.unsent ∧
      w'.os = w.os ∧ attemptedMsgs w'.log = attemptedMsgs w.log ∧
      (∀ c ∈ w.inFlight, c.msg.isConnect = true →
        requests (sentMsgs w.log) = poppedMsgs w.log ++ nonConnects w.inFlight ++ [c] ∧
        w'.dplaneIsReady = true ∧ w'.synt = info.synt) ∧
      (NoConnect w.inFlight → w'.dplaneIsReady = w.dplaneIsReady ∧ w'.synt = w.synt) := by
  have hrestart : reportsRestart resp w.synt = true :=
    (reportsRestart_iff _ _).mpr ⟨hop, hsynt, info, hobjects, hnew⟩
  rcases handleRpcResponse_settles (R := R) hrestart hok h.typed.inFlight with
    ⟨w', hran, hnil, hsettles⟩
  refine ⟨w', hran, hnil, by simpa using hsettles.out, ctxs_length h.typed.inFlight, hsettles.pool,
    hsettles.unsent, hsettles.os, by simpa using hsettles.attempted, ?_, ?_⟩
  · intro c hc hconn
    have hany : w.inFlight.any (·.msg.isConnect) = true := List.any_eq_true.mpr ⟨c, hc, hconn⟩
    refine ⟨h.sent_before_connect hc hconn, ?_, ?_⟩
    · rw [hsettles.ready, hany, Bool.or_true]
    · rw [hsettles.synt, hany, if_pos rfl, hobjects]
      rfl
  · intro hno
    have hany : w.inFlight.any (·.msg.isConnect) = false := by
      rw [List.any_eq_false]
      intro m hm
      rw [hno m hm]
      exact Bool.false_ne_true
    constructor
    · rw [hsettles.ready, hany, Bool.or_false]
      rfl
    · rw [hsettles.synt, hany, if_neg Bool.false_ne_true]
      rfl

/-- A route and a Connect are in flight when another incarnation answers. -/
theorem restart_settles_backlogWorld :
    ∃ w', Ran (handleRpcResponse (dpConnect 3) ⟨.connect, 0, .ok, some (dataplaneInfo 9)⟩)
        backlogWorld () w' ∧
      w'.inFlight = [] ∧ outStatuses w'.log = outStatuses backlogWorld.log ++
        (ctxsOf (nonConnects backlogWorld.inFlight)).map (fun c => (c, ZebraResult.success)) := by
  have hreach : Reachable backlogWorld := played_reachable _ _ _ (by decide +kernel)
  have hsynt : backlogWorld.synt ≠ 0 := by decide +kernel
  have hnew : (dataplaneInfo 9).synt ≠ backlogWorld.synt := by decide +kernel
  have hop : (⟨.connect, 0, .ok, some (dataplaneInfo 9)⟩ : RpcResponse).op = .connect := rfl
  have hpurged := restart_settles_requests_in_flight hreach.config hop rfl rfl hsynt hnew
    (dpConnect 3)
  exact hpurged.imp fun w' h => ⟨h.1, h.2.1, h.2.2.1⟩

end DplanePlugin
