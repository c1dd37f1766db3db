/-
  DplanePlugin/Service.lean
  =========================
  **The plugin is a queue of contexts that serves in order.**

  The abstract component is the queue of `Lib/Service.lean`: a context joins it
  when its request is passed to `send_rpc_msg`, and is finished with the status
  that `dp_msg_hand_off` gives it.  The plugin has two lists, a pool, a socket and
  calls that hold messages; its log reads as the deals of such a queue all the
  same, and the contexts that wait in it are those of the in-flight list and then
  those of the unsent list.  For a peer that may send anything the queue loses a
  context now and then; for the dataplane of `Dataplane.lean` it loses none.
-/
import DplanePlugin.Lib.Service
import DplanePlugin.Completions
import DplanePlugin.Agreement

namespace DplanePlugin

open Lib

variable {σ : Type}

/-! ### The log as the deals of a queue -/

def Obs.deal : Obs → Option (Deal CtxRef ZebraResult)
  | .passed m => m.ctx.map .join
  | .handedOff c st => some (.finish c st)
  | .recycleRefused _ c => some (.lose c)
  | _ => none

/-- What happens to the queue of contexts. -/
def deals (log : List Entry) : List (Deal CtxRef ZebraResult) := log.filterMap (·.obs.deal)

section Deals
variable (log log' : List Entry) (e : Entry)

@[simp] theorem deals_nil : deals [] = [] := rfl
@[simp] theorem deals_append : deals (log ++ log') = deals log ++ deals log' :=
  List.filterMap_append
@[simp] theorem deals_cons : deals (e :: log) = e.obs.deal.toList ++ deals log :=
  filterMap_cons_toList _ _ _

@[simp] theorem joinedJobs_deals : joinedJobs (deals log) = ctxsOf (passedMsgs log) := by
  rw [joinedJobs, deals, ctxsOf, passedMsgs, List.filterMap_filterMap, List.filterMap_filterMap]
  apply List.filterMap_congr
  intro e _
  cases e.obs with
  | passed m => cases h : m.ctx <;> simp [Obs.deal, h]
  | _ => rfl

@[simp] theorem finishedJobs_deals : finishedJobs (deals log) = handedOffCtxs log := by
  rw [finishedJobs, deals, handedOffCtxs, List.filterMap_filterMap]
  apply List.filterMap_congr
  intro e _
  cases e.obs with
  | passed m => cases h : m.ctx <;> simp [Obs.deal, h]
  | _ => rfl

@[simp] theorem lostJobs_deals : lostJobs (deals log) = refusedCtxs log := by
  rw [lostJobs, deals, refusedCtxs, List.filterMap_filterMap]
  apply List.filterMap_congr
  intro e _
  cases e.obs with
  | passed m => cases h : m.ctx <;> simp [Obs.deal, h]
  | _ => rfl

end Deals

/-! ### The invariant -/

/-- The contexts that wait: of the messages in flight, of those that calls in
    progress hold, of those unsent. -/
def Config.waiting (s : Config σ) : List CtxRef :=
  ctxsOf s.world.inFlight ++ (ctxsOf (heldQueued s.frames) ++ ctxsOf s.world.unsent)

def InService (s : Config σ) : Prop := Serves (deals s.world.log) s.waiting

theorem Config.Initial.inService {s : Config σ} (h : s.Initial) : InService s := by
  rcases h with ⟨_, _, os₀, os, sock, -, rfl⟩
  exact .start

/-- A message is dropped that was the first to wait. -/
theorem serves_refusal {log : List Entry} {m : DpMsg} {waiting : List CtxRef}
    (h : Serves (deals log) (m.ctx.toList ++ waiting)) (w : World σ) :
    Serves (deals (log ++ w.refusal m)) waiting := by
  cases hctx : m.ctx with
  | none => simpa [World.refusal, hctx] using h
  | some c =>
    rw [hctx] at h
    have hlose := h.lose
    simpa [World.refusal, hctx, Obs.deal] using hlose

variable [Os σ]

theorem InService.act {s s' : Config σ} (hr : s.Reachable) (hi : InService s) (h : Act s s') :
    InService s' := by
  have hawaited {m : DpMsg} {rest : List DpMsg} (hq : s.world.inFlight = m :: rest) :
      m.Awaited := hr.typed.inFlight m (hq ▸ List.mem_cons_self)
  unfold InService Config.waiting at hi ⊢
  cases h with
  | refused hsock hpath hconnect he hreopen =>
    rcases dpUnixSockReopen_ends (by exact hsock) hreopen with ⟨-, sock, os', rfl⟩
    simpa [Obs.deal] using hi
  | connected hsock hpath hconnect hok halloc =>
    simpa [connectMsg, requestMsg, Obs.deal] using hi
  | @sentRequest w fs o m len os hmay htry hreq =>
    cases o with
    | unsent => simpa [Obs.deal] using hi
    | connect =>
      have hnone := (hr.typed.connects m (by simp)).ctx
      simpa [hnone, Obs.deal] using hi
  | @sentOther w fs m len os hmay htry hreq =>
    have hnone := ((hr.typed.queued m (by simp)).isControl hreq).ctx
    simpa [hnone, Obs.deal, World.refusal] using hi
  | popUnsent hq =>
    have hheld := heldQueued_below_draining hr.stacked
    simpa [hheld, hq] using hi
  | pushBack =>
    have hheld := heldQueued_below_draining (List.pairwise_cons.mp hr.stacked).2
    simpa [hheld] using hi
  | @queueRequest w c ref next pool op object hop halloc =>
    simpa [requestMsg, Obs.deal] using hi.join c
  | queueControl hfs halloc =>
    simpa [controlMsg, Obs.deal] using hi
  | @dropConnect w fs m | @recycle w fs m =>
    have hnone := (hr.typed.connects m (by simp)).ctx
    simpa [World.refusal_of_none hnone] using hi
  | @mismatched w m rest resp v hsynt hq hmis
  | @answeredOther w m rest resp v hsynt hq hreq hmat hop hctx
  | @purgedOther w m rest resp v hq hop hctx =>
    simp only [hq, ctxsOf_cons, List.append_assoc] at hi
    apply serves_refusal
    simpa [Obs.deal] using hi
  | @completed w m rest c resp v hsynt hq hreq hmat hop hctx =>
    simp only [hq, ctxsOf_cons, hctx, List.append_assoc] at hi
    simpa [Obs.deal, World.refusal] using hi.finish resp.rescode.toZebra
  | @purged w m rest c resp v hq hop hctx =>
    simp only [hq, ctxsOf_cons, hctx, List.append_assoc] at hi
    simpa [Obs.deal, World.refusal] using hi.finish .success
  | accepted hsynt hq hreq hmat hop hok | refusedConnect hsynt hq hreq hmat hop hok =>
    rw [((gotExpectedResponse_iff _ _).mp hmat).2] at hop
    have hnone := ((hawaited hq).isConnect hop).ctx
    simpa [hq, hnone, Obs.deal] using hi
  | purgeAccepted hq hop hok | purgeRefused hq hop hok =>
    have hnone := ((hawaited hq).isConnect hop).ctx
    simpa [hq, hnone, Obs.deal] using hi
  | _ =>
    -- what is left moves no context
    simpa [Obs.deal] using hi

theorem Config.Reachable.inService {s : Config σ} (h : s.Reachable) : InService s :=
  h.induct (fun _ => Config.Initial.inService) fun _ _ hr hi => hi.act hr

/-! ### For any peer -/

/-- In any run, up to any moment, the plugin does what a queue of contexts does that
    serves in order and may lose some: a context joins with the request for it, and
    the one that is given back is always the oldest of those that wait. Between two
    callbacks, those that wait are the contexts of the messages in flight, and then
    of those unsent. -/
theorem plugin_serves_in_order {w : World σ} (h : Reached w) :
    (∃ waiting, Serves (deals w.log) waiting) ∧
    (∀ before c st v after, w.log = before ++ ⟨.handedOff c st, v⟩ :: after →
      ∃ waiting, Serves (deals before) (c :: waiting)) ∧
    (Reachable w → Serves (deals w.log) (ctxsOf w.inFlight ++ ctxsOf w.unsent)) := by
  rcases h.config with ⟨fs, hr⟩
  have hserves : Serves (deals w.log) _ := hr.inService
  refine ⟨⟨_, hserves⟩, ?_, ?_⟩
  · intro before c st v after heq
    have hdeals : deals w.log = deals before ++ .finish c st :: deals after := by
      rw [heq, deals_append, deals_cons]
      rfl
    exact hserves.oldest hdeals rfl
  · intro hbetween
    have hidle : Serves _ _ := hbetween.config.inService
    simpa [Config.waiting] using hidle

theorem plugin_serves_in_lostWorld :
    deals lostWorld.log = [.join 1, .lose 1] ∧ Serves (deals lostWorld.log) [] := by
  have hreach : Reachable lostWorld := played_reachable _ _ _ (by decide +kernel)
  refine ⟨by decide +kernel, ?_⟩
  have hserves := (plugin_serves_in_order (.between hreach)).2.2 hreach
  have hnone : ctxsOf lostWorld.inFlight ++ ctxsOf lostWorld.unsent = [] := by decide +kernel
  rwa [hnone] at hserves

/-! ### With the dataplane -/

/-- Between two callbacks, the requests passed on are those that were queued. -/
theorem Reachable.queued_eq {w : World σ} (h : Reachable w) :
    queuedCtxs w.log = ctxsOf (passedMsgs w.log) := by
  have hqueued := h.config.completing.queued
  simpa using hqueued

theorem ReachableFrom.reachable {os₀ : σ} {w : World σ} (h : ReachableFrom os₀ w) :
    Reachable w := by
  induction h with
  | init hrun => exact .init hrun
  | callback _ henabled hrun ih => exact ih.callback henabled hrun
  | outside _ hmoves ih => exact ih.outside hmoves

/-- The dataplane never makes the plugin refuse a context. -/
theorem ReachableFrom.refused_nil {e : Env} (hfresh : e.dataplane.Fresh) {w : World Env}
    (h : ReachableFrom e w) : refusedCtxs w.log = [] := by
  have hmatched := (h.config socketCalls_untouched (fun _ he => he.turn) hfresh.agrees).judged.matched
  rw [← h.reachable.slips_eq, slips_eq_nil_iff]
  intro x hx resp hobs
  rcases List.append_of_mem hx with ⟨before, after, heq⟩
  rw [lostCtx_eq_none_iff]
  intro m rest c hq hctx
  rcases hmatched before x after heq resp hobs with hrestart | ⟨m', rest', hq', -, hmat⟩
  · exact .inl hrestart
  · cases hq.symm.trans hq'
    exact .inr hmat

theorem ReachableFrom.queued_eq {e : Env} (hfresh : e.dataplane.Fresh) {w : World Env}
    (h : ReachableFrom e w) :
    queuedCtxs w.log = handedOffCtxs w.log ++ (ctxsOf w.inFlight ++ ctxsOf w.unsent) := by
  have hserves : Serves _ _ := h.reachable.config.inService
  have hall := hserves.finished_of_kept (by rw [lostJobs_deals]; exact h.refused_nil hfresh)
  rw [joinedJobs_deals, finishedJobs_deals, ← h.reachable.queued_eq] at hall
  simpa [Config.waiting] using hall

/-- Against the dataplane, which crashes and comes back at any moment, the plugin is a
    queue that loses nothing: between two callbacks, the contexts queued are those
    given back, in this order, then those in flight, then those unsent; and every
    context dequeued is in just one of these places, or was given back at once. -/
theorem plugin_keeps_contexts_with_dataplane {e : Env} (hfresh : e.dataplane.Fresh)
    {w : World Env} (h : ReachableFrom e w) :
    refusedCtxs w.log = [] ∧
    queuedCtxs w.log = handedOffCtxs w.log ++ (ctxsOf w.inFlight ++ ctxsOf w.unsent) ∧
    (dequeuedCtxs w.log).Perm (ctxsOf w.unsent ++ ctxsOf w.inFlight ++ outCtxs w.log) := by
  have hkept := h.refused_nil hfresh
  have hperm := h.reachable.dequeued_perm
  rw [hkept, List.append_nil] at hperm
  exact ⟨hkept, h.queued_eq hfresh, hperm⟩

theorem contexts_kept_in_crashedWorld :
    queuedCtxs crashedWorld.log = [1, 2, 3] ∧ handedOffCtxs crashedWorld.log = [1, 2] ∧
      refusedCtxs crashedWorld.log = [] := by
  have hreach : ReachableFrom crashingEnv crashedWorld :=
    played_reachableFrom _ _ _ (by decide +kernel)
  exact ⟨by decide +kernel, by decide +kernel,
    (plugin_keeps_contexts_with_dataplane freshDataplane_fresh hreach).1⟩

end DplanePlugin
