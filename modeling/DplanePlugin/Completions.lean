/-
  DplanePlugin/Completions.lean
  =============================
  **Completions are justified, happen once, and keep order.**

  Every message that is sent was queued, every message taken from the in-flight
  list was sent, and every context given back by `dp_msg_hand_off` is that of a
  message taken from the in-flight list, each in order.  The entry of a
  completion comes after that of the response it is for, with only answers
  between.
-/
import DplanePlugin.Contexts

namespace DplanePlugin

open Lib

variable {σ : Type}

/-! ### What justifies a completion -/

/-- `resp` answers the request of `m`, and its result code stands for `st`. -/
def Answer (resp : RpcResponse) (m : DpMsg) (st : ZebraResult) : Prop :=
  resp.seqn = m.msg.request.seqn ∧ resp.op = m.msg.request.op ∧
    (st = .success ↔ resp.rescode = .ok ∨ resp.rescode = .ignored) ∧
    (st = .failure ↔ ¬ (resp.rescode = .ok ∨ resp.rescode = .ignored))

/-- A completion comes while a response is handled; before that response, the
    request for the context was sent. The response answers that request, or it
    reports a restart and the status is a success. -/
def Justified (before : List Entry) (e : Entry) : Prop :=
  ∀ c st, e.obs = .handedOff c st → ∃ pre resp v mid m,
    before = pre ++ ⟨.response resp, v⟩ :: mid ∧ OnlyAnswers mid ∧
    m ∈ sentMsgs pre ∧ m.msg.type = .request ∧ m.ctx = some c ∧
    (Answer resp m st ∨ st = .success ∧ Restart resp v.synt)

theorem answer_of_expected {resp : RpcResponse} {m : DpMsg}
    (h : gotExpectedResponse resp m.msg.request = true) : Answer resp m resp.rescode.toZebra := by
  rcases (gotExpectedResponse_iff _ _).mp h with ⟨hseqn, hop⟩
  refine ⟨hseqn, hop, ?_, ?_⟩
  all_goals
    rw [RpcResultCode.toZebra]
    split <;> simp_all

/-- Entries that complete nothing need no justification. -/
theorem justified_of_prefix {log log' : List Entry} (h : Always Justified log)
    (hle : log <+: log') (hsame : handedOffCtxs log' = handedOffCtxs log) :
    Always Justified log' := by
  refine h.grow ?_ hle hsame
  intro before e hnone c st hobs
  simp [hobs] at hnone

/-- A request is taken from the in-flight list and completed. -/
theorem completed_justified {w : World σ} {m : DpMsg} {rest : List DpMsg} {c : CtxRef}
    {st : ZebraResult} {rescode : RpcResultCode} (h : Always Justified w.log)
    (hj : Justified ((w.popFlight m rest).replied m rescode).log
      ⟨.handedOff c st, ((w.popFlight m rest).replied m rescode).view⟩) (m' : DpMsg) :
    Always Justified
      ((((w.popFlight m rest).replied m rescode).handedOff c st).recycle m').log := by
  have hpop : Always Justified ((w.popFlight m rest).replied m rescode).log :=
    justified_of_prefix h (List.prefix_append _ _) (by simp)
  have hdone : Always Justified (((w.popFlight m rest).replied m rescode).handedOff c st).log := by
    rw [World.handedOff_log, always_concat, always_concat]
    refine ⟨⟨hpop, hj⟩, ?_⟩
    intro c' st' hobs
    cases hobs
  exact justified_of_prefix hdone (List.prefix_append _ _) (by simp)

/-! ### The invariant -/

/-- The context whose request was passed on and that `zd_hh_process_update` has
    not counted yet. -/
@[simp] def Frame.uncounted : Frame → List CtxRef
  | .queueing c => [c]
  | _ => []

/-- The context that `zd_hh_process` holds. -/
@[simp] def Frame.caught : Frame → List CtxRef
  | .processing c | .queueing c => [c]
  | _ => []

structure Completing (s : Config σ) : Prop where
  order : ctxsOf (poppedMsgs s.world.log) ++ ctxsOf s.world.inFlight ++
    ctxsOf (heldQueued s.frames) ++ ctxsOf s.world.unsent = ctxsOf (passedMsgs s.world.log)
  handed : (handedOffCtxs s.world.log).Sublist (ctxsOf (poppedMsgs s.world.log))
  popped : ctxsOf (poppedMsgs s.world.log) <+: queuedCtxs s.world.log
  queued : queuedCtxs s.world.log ++ s.frames.flatMap Frame.uncounted =
    ctxsOf (passedMsgs s.world.log)
  dequeued : (queuedCtxs s.world.log ++ s.frames.flatMap Frame.caught).Sublist
    (dequeuedCtxs s.world.log)
  justified : Always Justified s.world.log

theorem Config.Initial.completing {s : Config σ} (h : s.Initial) : Completing s := by
  rcases h with ⟨_, _, os₀, os, sock, -, rfl⟩
  exact ⟨rfl, List.Sublist.slnil, List.prefix_rfl, rfl, List.Sublist.slnil, always_nil _⟩

/-- When no context is dequeued twice, none is in two places of the queue. -/
theorem Completing.nodup {s : Config σ} (h : Completing s)
    (hdeq : (dequeuedCtxs s.world.log).Nodup) :
    (ctxsOf (poppedMsgs s.world.log) ++ (ctxsOf s.world.inFlight ++
      (ctxsOf (heldQueued s.frames) ++ ctxsOf s.world.unsent))).Nodup := by
  have hcaught : (s.frames.flatMap Frame.uncounted).Sublist (s.frames.flatMap Frame.caught) := by
    induction s.frames with
    | nil => exact .slnil
    | cons f fs ih =>
      rw [List.flatMap_cons, List.flatMap_cons]
      apply List.Sublist.append _ ih
      cases f <;> simp
  have hsub := ((List.Sublist.refl _).append hcaught).trans h.dequeued
  rw [h.queued, ← h.order, List.append_assoc, List.append_assoc] at hsub
  exact hdeq.sublist hsub

variable [Os σ]

/-- What is in flight was sent. -/
theorem Config.Reachable.sent_of_inFlight {s : Config σ} (h : s.Reachable) {m : DpMsg}
    (hm : m ∈ s.world.inFlight) : m ∈ sentMsgs s.world.log ∧ m.msg.type = .request := by
  have hmem : m ∈ requests (sentMsgs s.world.log) := by
    rw [← h.fifo.flight]
    exact List.mem_append_right _ hm
  simpa [requests] using hmem

/-- A completion in the handling of a response, or of the purge, is justified. -/
theorem Config.Reachable.justified {f : Frame} {w : World σ} {m : DpMsg} {rest : List DpMsg}
    {c : CtxRef} {st : ZebraResult} {pre mid : List Entry} {resp : RpcResponse} {v : View}
    (hr : Config.Reachable ⟨[f], w⟩) (hq : w.inFlight = m :: rest) (hctx : m.ctx = some c)
    (hlog : w.log = pre ++ ⟨.response resp, v⟩ :: mid) (hmid : OnlyAnswers mid)
    (hanswer : Answer resp m st ∨ st = .success ∧ Restart resp v.synt) (rescode : RpcResultCode) :
    Justified ((w.popFlight m rest).replied m rescode).log
      ⟨.handedOff c st, ((w.popFlight m rest).replied m rescode).view⟩ := by
  intro c' st' hobs
  cases hobs
  have hmem : m ∈ w.inFlight := hq ▸ List.mem_cons_self
  rcases hr.sent_of_inFlight hmem with ⟨hsent, hreq⟩
  refine ⟨pre, resp, v, mid ++ [⟨.popped m, { w.view with inFlight := rest }⟩], m, ?_, ?_, ?_,
    hreq, hctx, hanswer⟩
  · simp [hlog]
  · apply hmid.append
    intro e he
    rw [List.mem_singleton.mp he]
    rfl
  · simpa [hlog, hmid.sentMsgs] using hsent

theorem Completing.act {s s' : Config σ} (hr : s.Reachable) (hi : Completing s) (h : Act s s') :
    Completing s' := by
  rcases hi with ⟨horder, hhanded, hpop, hqueued, hdeq, hjust⟩
  have hkeep := justified_of_prefix hjust h.log_prefix
  -- nothing is taken from the in-flight list while a request is being queued
  have hnext {m : DpMsg} {rest : List DpMsg} (hq : s.world.inFlight = m :: rest)
      (hfs : s.frames.flatMap Frame.uncounted = []) :
      ctxsOf (poppedMsgs s.world.log) ++ m.ctx.toList <+: queuedCtxs s.world.log := by
    rw [hfs, List.append_nil] at hqueued
    rw [hqueued, ← horder, hq, ctxsOf_cons]
    simp
  cases h with
  | refused hsock hpath hconnect he hreopen =>
    rcases dpUnixSockReopen_ends (by exact hsock) hreopen with ⟨-, sock, os', rfl⟩
    exact ⟨by simpa using horder, by simpa using hhanded, by simpa using hpop,
      by simpa using hqueued,
      by simpa using hdeq, hkeep (by simp)⟩
  | connected hsock hpath hconnect hok halloc =>
    exact ⟨by simpa [connectMsg, requestMsg] using horder, by simpa using hhanded,
      by simpa using hpop, by simpa [connectMsg, requestMsg] using hqueued, by simpa using hdeq,
      hkeep (by simp)⟩
  | @sentRequest w fs o m len os hmay htry hreq =>
    refine ⟨?_, by simpa using hhanded, by simpa using hpop, by simpa using hqueued,
      by simpa using hdeq,
      hkeep (by simp)⟩
    cases o with
    | unsent => simpa using horder
    | connect =>
      have hnone := (hr.typed.connects m (by simp)).ctx
      simpa [hnone] using horder
  | @sentOther w fs m len os hmay htry hreq =>
    have hnone := ((hr.typed.queued m (by simp)).isControl hreq).ctx
    exact ⟨by simpa [hnone] using horder, by simpa using hhanded, by simpa using hpop,
      by simpa using hqueued,
      by simpa using hdeq, hkeep (by simp)⟩
  | popUnsent hq =>
    have hheld := heldQueued_below_draining hr.stacked
    exact ⟨by simpa [hheld, hq] using horder, hhanded, hpop, hqueued, hdeq, hkeep rfl⟩
  | pushBack =>
    have hheld := heldQueued_below_draining (List.pairwise_cons.mp hr.stacked).2
    exact ⟨by simpa [hheld] using horder, hhanded, hpop, hqueued, hdeq, hkeep rfl⟩
  | queueRequest hop halloc =>
    refine ⟨?_, by simpa using hhanded, by simpa using hpop, ?_, by simpa using hdeq,
      hkeep (by simp)⟩
    · simpa [requestMsg, ← List.append_assoc] using horder
    · simpa [requestMsg] using hqueued
  | queueControl hfs halloc =>
    refine ⟨?_, by simpa using hhanded, by simpa using hpop, ?_, by simpa using hdeq,
      hkeep (by simp)⟩
    · simpa [controlMsg] using horder
    · simpa [controlMsg] using hqueued
  | queued =>
    refine ⟨by simpa using horder, by simpa using hhanded, ?_, by simpa using hqueued,
      by simpa using hdeq, hkeep (by simp)⟩
    simpa using hpop.trans (List.prefix_append _ _)
  | returned =>
    refine ⟨by simpa using horder, by simpa using hhanded, by simpa using hpop,
      by simpa using hqueued, ?_,
      hkeep (by simp)⟩
    simpa using (List.sublist_append_left _ _).trans hdeq
  | mismatched _ hq | answeredOther _ hq | accepted _ hq | refusedConnect _ hq | purgedOther hq
  | purgeAccepted hq | purgeRefused hq =>
    rw [hq] at horder
    refine ⟨by simpa using horder, ?_, by simpa using hnext hq rfl, by simpa using hqueued,
      by simpa using hdeq, hkeep (by simp)⟩
    simpa using hhanded.trans (List.sublist_append_left _ _)
  | @completed w m rest c resp v hsynt hq hreq hmat hop hctx =>
    rcases hr.answering _ List.mem_cons_self with ⟨hview, pre, hlog⟩
    have hj := hr.justified hq hctx hlog onlyAnswers_nil (.inl (answer_of_expected hmat))
      resp.rescode
    rw [hq] at horder
    refine ⟨by simpa using horder, by simpa [hctx] using hhanded, by simpa using hnext hq rfl,
      by simpa using hqueued,
      by simpa using hdeq, ?_⟩
    exact completed_justified hjust hj _
  | @purged w m rest c resp v hq hop hctx =>
    rcases hr.answering _ List.mem_cons_self with ⟨hsynt, pre, mid, hlog, hmid, -⟩
    have hj := hr.justified hq hctx hlog hmid (.inr ⟨rfl, (reportsRestart_iff _ _).mp hsynt⟩) .ok
    rw [hq] at horder
    refine ⟨by simpa using horder, by simpa [hctx] using hhanded, by simpa using hnext hq rfl,
      by simpa using hqueued,
      by simpa using hdeq, ?_⟩
    exact completed_justified hjust hj _
  | _ =>
    -- what is left completes nothing
    exact ⟨by simpa using horder, by simpa using hhanded, by simpa using hpop,
      by simpa using hqueued, by simpa using hdeq, hkeep (by simp)⟩

theorem Config.Reachable.completing {s : Config σ} (h : s.Reachable) : Completing s :=
  h.induct (fun _ => Config.Initial.completing) fun _ _ hr hi => hi.act hr

/-! ### The whole run -/

/-- In any run, the contexts completed are some of those queued, in the same
    order. If no context is dequeued twice, none is completed twice, and no
    message that waits refers to a completed one. Each completion comes while a
    response is handled, after the request for that context was sent before that
    response: the response has the seqn and the op of the request and the result
    code that the status stands for, or it answers a Connect with another sync
    token than the stored one and the status is a success. -/
theorem completions_justified {w : World σ} (h : Reached w) :
    (handedOffCtxs w.log).Sublist (queuedCtxs w.log) ∧
    ((dequeuedCtxs w.log).Nodup →
      (handedOffCtxs w.log).Nodup ∧
      ∀ m ∈ w.unsent ++ w.inFlight, ∀ c, m.ctx = some c → c ∉ handedOffCtxs w.log) ∧
    (∀ before c st v after, w.log = before ++ ⟨.handedOff c st, v⟩ :: after →
      ∃ pre resp v' mid m, before = pre ++ ⟨.response resp, v'⟩ :: mid ∧ OnlyAnswers mid ∧
        m ∈ sentMsgs pre ∧ m.msg.type = .request ∧ m.ctx = some c ∧
        (Answer resp m st ∨ st = .success ∧ Restart resp v'.synt)) := by
  rcases h.config with ⟨fs, hr⟩
  have hi := hr.completing
  refine ⟨hi.handed.trans hi.popped.sublist, ?_, ?_⟩
  · intro hdeq
    have hnodup := hi.nodup hdeq
    rcases List.nodup_append.mp hnodup with ⟨hpopped, -, hapart⟩
    constructor
    · exact hpopped.sublist hi.handed
    · intro m hm c hctx hc
      have hmem : c ∈ ctxsOf (w.unsent ++ w.inFlight) := List.mem_filterMap.mpr ⟨m, hm, hctx⟩
      rw [ctxsOf_append, List.mem_append] at hmem
      apply hapart c (hi.handed.subset hc) c _ rfl
      rcases hmem with hmem | hmem
      · simp [hmem]
      · simp [hmem]
  · intro before c st v after heq
    exact hi.justified before _ after heq c st rfl

theorem completions_of_keptWorld :
    handedOffCtxs keptWorld.log = [1] ∧ (handedOffCtxs keptWorld.log).Nodup ∧
      (handedOffCtxs keptWorld.log).Sublist (queuedCtxs keptWorld.log) := by
  have hreach : Reached keptWorld := .between (played_reachable _ _ _ (by decide +kernel))
  rcases completions_justified hreach with ⟨hsub, honce, -⟩
  exact ⟨by decide +kernel, (honce (by decide +kernel)).1, hsub⟩

end DplanePlugin
