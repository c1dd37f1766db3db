/-
  DplanePlugin/Contexts.lean
  ==========================
  **Where the contexts of zebra are.**

  A context that was dequeued is with the call that processes it, in a message
  of the unsent list, with the call that sends that message, in a message in
  flight, or given back.  There is one other place: `recover_request` pops the
  oldest request in flight for any response, and recycles one that does not
  match with its context still set, which `dp_msg_recycle` refuses.  The context
  is then nowhere.
-/
import DplanePlugin.Answering

namespace DplanePlugin

open Lib

variable {σ : Type}

/-! ### Where a context is lost -/

/-- The context lost when `resp` comes in the state `v`: that of the oldest request
    in flight, if `resp` neither reports a restart nor matches that request. -/
def lostCtx (resp : RpcResponse) (v : View) : Option CtxRef :=
  match v.inFlight with
  | [] => none
  | m :: _ =>
    if reportsRestart resp v.synt || gotExpectedResponse resp m.msg.request then none
    else m.ctx

@[simp] def Obs.responded : Obs → Option RpcResponse
  | .response resp => some resp
  | _ => none

@[simp] def Entry.slip (e : Entry) : Option CtxRef :=
  e.obs.responded.bind fun resp => lostCtx resp e.view

/-- The contexts lost. -/
def slips (log : List Entry) : List CtxRef := log.filterMap Entry.slip

section Slips
variable (log log' : List Entry) (e : Entry)

@[simp] theorem slips_nil : slips [] = [] := rfl
@[simp] theorem slips_append : slips (log ++ log') = slips log ++ slips log' :=
  List.filterMap_append
@[simp] theorem slips_cons : slips (e :: log) = e.slip.toList ++ slips log :=
  filterMap_cons_toList _ _ _
@[simp] theorem slips_refusal (w : World σ) (m : DpMsg) : slips (w.refusal m) = [] := by
  rw [World.refusal]
  split <;> rfl

end Slips

section Lost
variable {resp : RpcResponse} {v : View} {m : DpMsg} {rest : List DpMsg}

theorem lostCtx_of_restart (h : reportsRestart resp v.synt = true) : lostCtx resp v = none := by
  rw [lostCtx]
  cases v.inFlight <;> simp [h]

theorem lostCtx_of_nil (h : v.inFlight = []) : lostCtx resp v = none := by
  simp [lostCtx, h]

theorem lostCtx_of_matched (hq : v.inFlight = m :: rest)
    (h : gotExpectedResponse resp m.msg.request = true) : lostCtx resp v = none := by
  simp [lostCtx, hq, h]

theorem lostCtx_of_mismatched (hsynt : reportsRestart resp v.synt = false)
    (hq : v.inFlight = m :: rest) (h : gotExpectedResponse resp m.msg.request = false) :
    lostCtx resp v = m.ctx := by
  simp [lostCtx, hsynt, hq, h]

end Lost

theorem lostCtx_eq_none_iff (resp : RpcResponse) (v : View) :
    lostCtx resp v = none ↔ ∀ m rest c, v.inFlight = m :: rest → m.ctx = some c →
      reportsRestart resp v.synt = true ∨ gotExpectedResponse resp m.msg.request = true := by
  constructor
  · intro hnone m rest c hq hctx
    by_contra hnot
    rw [not_or, Bool.not_eq_true, Bool.not_eq_true] at hnot
    rw [lostCtx_of_mismatched hnot.1 hq hnot.2, hctx] at hnone
    cases hnone
  · intro hkeeps
    cases hq : v.inFlight with
    | nil => exact lostCtx_of_nil hq
    | cons m rest =>
      cases hctx : m.ctx with
      | none => simp [lostCtx, hq, hctx]
      | some c =>
        rcases hkeeps m rest c hq hctx with hsynt | hmat
        · exact lostCtx_of_restart hsynt
        · exact lostCtx_of_matched hq hmat

theorem slips_eq_nil_iff (log : List Entry) :
    slips log = [] ↔ ∀ e ∈ log, ∀ resp, e.obs = .response resp → lostCtx resp e.view = none := by
  rw [slips, List.filterMap_eq_nil_iff]
  apply forall₂_congr
  intro e he
  cases hobs : e.obs <;> simp [hobs]

theorem refusedCtxs_eq_nil_iff (log : List Entry) :
    refusedCtxs log = [] ↔ ∀ e ∈ log, ∀ m c, e.obs ≠ .recycleRefused m c := by
  rw [refusedCtxs, List.filterMap_eq_nil_iff]
  apply forall₂_congr
  intro e he
  cases e.obs <;> simp

/-! ### The invariant -/

/-- The context that `zd_hh_process` has just dequeued. -/
@[simp] def Frame.processed : Frame → List CtxRef
  | .processing c => [c]
  | _ => []

/-- The context that is lost when the response is handled. -/
@[simp] def Frame.slips : Frame → List CtxRef
  | .handling resp v => (lostCtx resp v).toList
  | _ => []

structure Custody (s : Config σ) : Prop where
  kept : ∀ c, (dequeuedCtxs s.world.log).count c =
    (s.frames.flatMap Frame.processed).count c + (ctxsOf s.world.unsent).count c +
      (ctxsOf (heldQueued s.frames)).count c + (ctxsOf s.world.inFlight).count c +
      (outCtxs s.world.log).count c + (refusedCtxs s.world.log).count c
  lost : slips s.world.log = refusedCtxs s.world.log ++ s.frames.flatMap Frame.slips

theorem Config.Initial.custody {s : Config σ} (h : s.Initial) : Custody s := by
  rcases h with ⟨_, _, os₀, os, sock, -, rfl⟩
  exact ⟨fun c => rfl, rfl⟩

variable [Os σ]

/-- What `do_handle_rpc_response` cannot complete in the in-flight list is a
    Connect. -/
theorem DpMsg.Awaited.isConnect_of_uncompleted {m : DpMsg} (h : m.Awaited)
    (hctx : m.ctx = none ∨ ¬ (m.msg.request.op = .add ∨ m.msg.request.op = .del ∨
      m.msg.request.op = .update)) : m.IsConnect := by
  rcases h with hconn | hupd
  · exact hconn
  · rcases hupd.ctx with ⟨c, hc⟩
    rcases hctx with hnone | hop
    · rw [hc] at hnone
      cases hnone
    · exact absurd hupd.op hop

theorem Custody.act {s s' : Config σ} (hr : s.Reachable) (hi : Custody s) (h : Act s s') :
    Custody s' := by
  rcases hi with ⟨hkept, hlost⟩
  have hawaited {m : DpMsg} {rest : List DpMsg} (hq : s.world.inFlight = m :: rest) :
      m.Awaited := hr.typed.inFlight m (hq ▸ List.mem_cons_self)
  cases h with
  | refused hsock hpath hconnect he hreopen =>
    rcases dpUnixSockReopen_ends (by exact hsock) hreopen with ⟨-, sock, os', rfl⟩
    exact ⟨by simpa using hkept, by simpa using hlost⟩
  | @sentRequest w fs o m len os hmay htry hreq =>
    refine ⟨?_, by simpa using hlost⟩
    intro c
    have hc := hkept c
    cases o with
    | unsent =>
      simp at hc ⊢
      omega
    | connect =>
      have hnone := (hr.typed.connects m (by simp)).ctx
      simp [hnone] at hc ⊢
      omega
  | @sentOther w fs m len os hmay htry hreq =>
    have hnone := ((hr.typed.queued m (by simp)).isControl hreq).ctx
    exact ⟨by simpa [hnone] using hkept, by simpa [hnone] using hlost⟩
  | @dropConnect w fs m | @recycle w fs m =>
    have hnone := (hr.typed.connects m (by simp)).ctx
    exact ⟨by simpa [hnone] using hkept, by simpa [hnone] using hlost⟩
  | popUnsent hq =>
    refine ⟨?_, hlost⟩
    intro c
    have hc := hkept c
    simp [hq] at hc ⊢
    omega
  | pushBack | dequeue | returned =>
    refine ⟨?_, by simpa using hlost⟩
    intro c
    have hc := hkept c
    simp at hc ⊢
    omega
  | queueRequest hop halloc =>
    refine ⟨?_, by simpa using hlost⟩
    intro c
    have hc := hkept c
    simp [requestMsg] at hc ⊢
    omega
  | queueControl hfs halloc =>
    exact ⟨by simpa [controlMsg] using hkept, by simpa using hlost⟩
  | @unmatched w resp v hsynt hq =>
    rcases hr.view_eq with rfl
    exact ⟨hkept, by simpa [lostCtx_of_nil (v := w.view) hq] using hlost⟩
  | @mismatched w m rest resp v hsynt hq hmis =>
    rcases hr.view_eq with rfl
    have hslip := lostCtx_of_mismatched (v := w.view) hsynt hq
      (hmis.resolve_left fun hreq => hreq (hawaited hq).type)
    refine ⟨?_, by simpa [hslip] using hlost⟩
    intro c
    have hc := hkept c
    simp [hq] at hc ⊢
    omega
  | @completed w m rest c resp v hsynt hq hreq hmat hop hctx =>
    rcases hr.view_eq with rfl
    refine ⟨?_, by simpa [lostCtx_of_matched (v := w.view) hq hmat] using hlost⟩
    intro c
    have hc := hkept c
    simp [hq, hctx, List.count_cons] at hc ⊢
    omega
  | @answeredOther w m rest resp v hsynt hq hreq hmat hop hctx =>
    rw [((gotExpectedResponse_iff _ _).mp hmat).2] at hop hctx
    exact absurd ((hawaited hq).isConnect_of_uncompleted hctx).op hop
  | @accepted w m rest resp v hsynt hq hreq hmat hop hok
  | @refusedConnect w m rest resp v hsynt hq hreq hmat hop hok =>
    rcases hr.view_eq with rfl
    rw [((gotExpectedResponse_iff _ _).mp hmat).2] at hop
    have hnone := ((hawaited hq).isConnect hop).ctx
    exact ⟨by simpa [hq, hnone] using hkept,
      by simpa [lostCtx_of_matched (v := w.view) hq hmat] using hlost⟩
  | purge hsynt =>
    rcases hr.view_eq with rfl
    exact ⟨hkept, by simpa [lostCtx_of_restart (v := World.view _) hsynt] using hlost⟩
  | @purged w m rest c resp v hq hop hctx =>
    refine ⟨?_, by simpa using hlost⟩
    intro c
    have hc := hkept c
    simp [hq, hctx, List.count_cons] at hc ⊢
    omega
  | purgedOther hq hop hctx =>
    exact absurd ((hawaited hq).isConnect_of_uncompleted hctx).op hop
  | purgeAccepted hq hop hok | purgeRefused hq hop hok =>
    have hnone := ((hawaited hq).isConnect hop).ctx
    exact ⟨by simpa [hq, hnone] using hkept, by simpa using hlost⟩
  | _ =>
    -- what is left moves no context
    exact ⟨by simpa using hkept, by simpa using hlost⟩

theorem Config.Reachable.custody {s : Config σ} (h : s.Reachable) : Custody s :=
  h.induct (fun _ => Config.Initial.custody) fun _ _ hr hi => hi.act hr

/-! ### Between two callbacks -/

/-- Every context dequeued is in a list, given back, or lost. -/
theorem Reachable.dequeued_perm {w : World σ} (h : Reachable w) :
    (dequeuedCtxs w.log).Perm
      (ctxsOf w.unsent ++ ctxsOf w.inFlight ++ outCtxs w.log ++ refusedCtxs w.log) := by
  apply List.perm_iff_count.mpr
  intro c
  have hc := h.config.custody.kept c
  simp at hc ⊢
  omega

/-- The contexts lost are those of the requests popped for a response that does
    not match. -/
theorem Reachable.slips_eq {w : World σ} (h : Reachable w) : slips w.log = refusedCtxs w.log := by
  have hlost := h.config.custody.lost
  simpa using hlost

/-- Between two callbacks, every context that was dequeued is held by exactly one
    message of the unsent or of the in-flight list, or was given back exactly
    once, and no message was recycled with its context: if and only if every
    response that came either reported a restart, or matched the oldest request
    in flight, or found a request without a context there. -/
theorem contexts_kept_iff {w : World σ} (h : Reachable w) :
    ((dequeuedCtxs w.log).Perm (ctxsOf w.unsent ++ ctxsOf w.inFlight ++ outCtxs w.log) ∧
      ∀ e ∈ w.log, ∀ m c, e.obs ≠ .recycleRefused m c) ↔
    ∀ e ∈ w.log, ∀ resp, e.obs = .response resp → ∀ m rest c, e.view.inFlight = m :: rest →
      m.ctx = some c → reportsRestart resp e.view.synt = true ∨
        gotExpectedResponse resp m.msg.request = true := by
  simp only [← lostCtx_eq_none_iff]
  rw [← slips_eq_nil_iff, ← refusedCtxs_eq_nil_iff, h.slips_eq]
  constructor
  · intro hkept
    exact hkept.2
  · intro hnone
    have hperm := h.dequeued_perm
    rw [hnone, List.append_nil] at hperm
    exact ⟨hperm, hnone⟩

/-- Two routes of a run are kept: one is given back, one is in flight. -/
def keptWorld : World Script :=
  played 3 { Script.plain with recvs := [accept 7, .error .eagain, answer .add 1 .ok none] }
    [.recv, .process 2 [routeCtx 1, routeCtx 2], .recv]

theorem contexts_kept_of_keptWorld :
    outCtxs keptWorld.log = [1] ∧ ctxsOf keptWorld.inFlight = [2] ∧
      (dequeuedCtxs keptWorld.log).Perm
        (ctxsOf keptWorld.unsent ++ ctxsOf keptWorld.inFlight ++ outCtxs keptWorld.log) := by
  refine ⟨by decide +kernel, by decide +kernel, ?_⟩
  have hreach : Reachable keptWorld := played_reachable _ _ _ (by decide +kernel)
  apply ((contexts_kept_iff hreach).mpr _).1
  simp only [← lostCtx_eq_none_iff]
  exact (slips_eq_nil_iff _).mp (by decide +kernel)

/-- A route is in flight, and a response with another sequence number comes. -/
def lostWorld : World Script :=
  played 3 { Script.plain with recvs := [accept 7, .error .eagain, answer .add 99 .ok none] }
    [.recv, .process 1 [routeCtx 1], .recv]

/-- The route is dequeued, in no list, and not given back. -/
theorem context_lost :
    ¬ ∀ w : World Script, Reachable w →
      (dequeuedCtxs w.log).Perm (ctxsOf w.unsent ++ ctxsOf w.inFlight ++ outCtxs w.log) ∧
        ∀ e ∈ w.log, ∀ m c, e.obs ≠ .recycleRefused m c := by
  intro hall
  have hreach : Reachable lostWorld := played_reachable _ _ _ (by decide +kernel)
  have hlength := (hall lostWorld hreach).1.length_eq
  revert hlength
  decide +kernel

end DplanePlugin
