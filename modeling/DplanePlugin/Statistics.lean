/-
  DplanePlugin/Statistics.lean
  ============================
  **The statistics reconcile with the queues.**

  A request is counted as sent where it is put in flight and as replied where
  its response, or the purge, takes it from there.  Only `recover_request` takes
  a request from the in-flight list without counting it: the log tells these
  from the others by the response that came just before.
-/
import DplanePlugin.Contexts
import DplanePlugin.Lib.Counters

namespace DplanePlugin

open Lib

variable {σ : Type}

/-! ### Requests dropped on a mismatched response -/

/-- The entry is a response that reports no restart and does not answer `m`. -/
def Entry.mismatches (x : Entry) (m : DpMsg) : Bool :=
  match x.obs with
  | .response resp => !reportsRestart resp x.view.synt &&
      (decide (m.msg.type ≠ .request) || !gotExpectedResponse resp m.msg.request)
  | _ => false

theorem Entry.mismatches_response (resp : RpcResponse) (v : View) (m : DpMsg) :
    Entry.mismatches ⟨.response resp, v⟩ m = (!reportsRestart resp v.synt &&
      (decide (m.msg.type ≠ .request) || !gotExpectedResponse resp m.msg.request)) :=
  rfl

/-- The message that the entry `x` after `last` takes from the in-flight list
    because of a mismatch. -/
def Entry.dropped (last : Option Entry) (x : Entry) : Option DpMsg :=
  x.obs.poppedMsg.filter fun m => last.any (·.mismatches m)

/-- The messages dropped in `log`, when `last` came before it. -/
def droppedAfter : Option Entry → List Entry → List DpMsg
  | _, [] => []
  | last, x :: log => (x.dropped last).toList ++ droppedAfter (some x) log

/-- The messages that `recover_request` dropped on a mismatched response. -/
def droppedMsgs (log : List Entry) : List DpMsg := droppedAfter none log

theorem droppedAfter_concat (last : Option Entry) (log : List Entry) (x : Entry) :
    droppedAfter last (log ++ [x]) =
      droppedAfter last log ++ (x.dropped (log.getLast?.or last)).toList := by
  induction log generalizing last with
  | nil => simp [droppedAfter]
  | cons y log ih =>
    have hlast : (y :: log).getLast?.or last = log.getLast?.or (some y) := by
      cases log with
      | nil => rfl
      | cons z log => simp [List.getLast?_cons]
    rw [List.cons_append, droppedAfter, droppedAfter, ih, hlast, List.append_assoc]

theorem droppedMsgs_concat (log : List Entry) (x : Entry) :
    droppedMsgs (log ++ [x]) = droppedMsgs log ++ (x.dropped log.getLast?).toList := by
  rw [droppedMsgs, droppedAfter_concat, Option.or_none]
  rfl

/-- Entries that take nothing from the in-flight list. -/
@[simp] theorem droppedMsgs_append_others (log : List Entry) {new : List Entry}
    (hnew : poppedMsgs new = []) : droppedMsgs (log ++ new) = droppedMsgs log := by
  induction new using List.reverseRecOn with
  | nil => rw [List.append_nil]
  | append_singleton new x ih =>
    rw [poppedMsgs_append, List.append_eq_nil_iff] at hnew
    have hx : x.obs.poppedMsg = none := by simpa using hnew.2
    rw [← List.append_assoc, droppedMsgs_concat, Entry.dropped, hx, ih hnew.1]
    exact List.append_nil _

theorem droppedMsgs_recycle (w : World σ) (m : DpMsg) :
    droppedMsgs (w.recycle m).log = droppedMsgs w.log :=
  droppedMsgs_append_others w.log (poppedMsgs_refusal w m)

theorem droppedMsgs_handedOff (w : World σ) (c : CtxRef) (st : ZebraResult) :
    droppedMsgs (w.handedOff c st).log = droppedMsgs w.log := by
  rw [World.handedOff_log, droppedMsgs_append_others _ rfl, droppedMsgs_append_others _ rfl]

theorem droppedMsgs_popFlight (w : World σ) (m : DpMsg) (rest : List DpMsg) :
    droppedMsgs (w.popFlight m rest).log =
      droppedMsgs w.log ++ if w.log.getLast?.any (·.mismatches m) then [m] else [] := by
  rw [World.popFlight_log, droppedMsgs_concat, Entry.dropped, Obs.poppedMsg, Option.filter_some]
  split
  · rfl
  · rfl

/-! ### What the code does between the response and the request -/

/-- The last entry is the response, while it is being matched. -/
theorem Frame.Answers.mismatches_handling {w : World σ} {resp : RpcResponse} {v : View}
    (h : Frame.Answers w (.handling resp v)) (hsynt : reportsRestart resp w.synt = false)
    (m : DpMsg) :
    w.log.getLast?.any (·.mismatches m) =
      (decide (m.msg.type ≠ .request) || !gotExpectedResponse resp m.msg.request) := by
  rcases h with ⟨rfl, pre, hlog⟩
  have hview : reportsRestart resp w.view.synt = false := hsynt
  rw [hlog, List.getLast?_concat, Option.any_some, Entry.mismatches_response, hview]
  rfl

theorem Entry.mismatches_of_answer {x : Entry} (h : x.obs.ofAnswer = true) (m : DpMsg) :
    x.mismatches m = false := by
  rw [Entry.mismatches]
  cases hobs : x.obs <;> simp_all [Obs.ofAnswer]

/-- While the in-flight list is purged, the last entry is no mismatched response. -/
theorem Frame.Answers.mismatches_purging {w : World σ} {resp : RpcResponse} {v : View}
    (h : Frame.Answers w (.purging resp v)) (m : DpMsg) :
    w.log.getLast?.any (·.mismatches m) = false := by
  rcases h with ⟨hsynt, pre, post, hlog, hpost, -⟩
  rcases post.eq_nil_or_concat' with rfl | ⟨post, x, rfl⟩
  · rw [hlog, List.getLast?_concat, Option.any_some, Entry.mismatches_response, hsynt]
    rfl
  · have hx : x.obs.ofAnswer = true := hpost x (by simp)
    rw [hlog, ← List.cons_append, ← List.append_assoc, List.getLast?_concat, Option.any_some]
    exact Entry.mismatches_of_answer hx m

/-! ### Counting requests -/

/-- `m` is a request of the type `t` and the operation `op`. -/
def DpMsg.isOf (t : ObjType) (op : RpcOp) (m : DpMsg) : Bool :=
  decide (m.msg.request.object.type = t) && decide (m.msg.request.op = op)

/-- How many of `msgs` are of the type `t` and the operation `op`, as a
    `uint64_t` counts. -/
def tally (t : ObjType) (op : RpcOp) (msgs : List DpMsg) : UInt64 :=
  UInt64.ofNat (msgs.countP (·.isOf t op))

section Tally
variable (t : ObjType) (op : RpcOp) (m : DpMsg) (ms ms' : List DpMsg)

@[simp] theorem tally_nil : tally t op [] = 0 := rfl

@[simp] theorem tally_append : tally t op (ms ++ ms') = tally t op ms + tally t op ms' := by
  rw [tally, List.countP_append, UInt64.ofNat_add]
  rfl

theorem tally_singleton : tally t op [m] =
    if m.msg.request.object.type = t ∧ m.msg.request.op = op then 1 else 0 := by
  by_cases hm : m.msg.request.object.type = t ∧ m.msg.request.op = op
  · simp [tally, DpMsg.isOf, hm]
  · rw [if_neg hm]
    have hnot : m.isOf t op = false := by simpa [DpMsg.isOf] using hm
    simp [tally, hnot]

theorem tally_cons : tally t op (m :: ms) = tally t op [m] + tally t op ms :=
  tally_append t op [m] ms

end Tally

/-! ### The invariant -/

/-- `replied` is the sum of `unkErr` and of the counters of the result codes in range. -/
def RpcReqStatCell.Outcomes (cell : RpcReqStatCell) : Prop :=
  Totals (fun r : RpcResultCode => r.inRange = true) cell.rescode cell.unkErr cell.replied

/-- `txOk` is the sum of `controlTx` and of the counters `sent` of all types and
    operations in range. -/
def RpcStats.Transmissions (s : RpcStats) : Prop :=
  Totals (fun k : ObjType × RpcOp => k.2.outOfRange = false)
    (fun k => (s.requests k.1 k.2).sent) s.controlTx s.txOk

/-- The statistics account for the messages in flight and the ones dropped. -/
structure Tallied (s : RpcStats) (inFlight dropped : List DpMsg) : Prop where
  sent : ∀ t op, (s.requests t op).sent =
    (s.requests t op).replied + tally t op inFlight + tally t op dropped
  replied : ∀ t op, (s.requests t op).Outcomes
  tx : s.Transmissions

theorem tallied_zero : Tallied .zero [] [] where
  sent _ _ := rfl
  replied _ _ := .zero _
  tx := .zero _

/-- A counter of replies goes up with one of its parts. -/
theorem RpcReqStatCell.Outcomes.replied {cell : RpcReqStatCell} (h : cell.Outcomes)
    (rescode : RpcResultCode) :
    (if rescode.inRange then
        { cell with replied := cell.replied + 1,
                    rescode := fun r => if r = rescode then cell.rescode r + 1 else cell.rescode r }
      else { cell with replied := cell.replied + 1, unkErr := cell.unkErr + 1 } :
      RpcReqStatCell).Outcomes := by
  by_cases hin : rescode.inRange = true
  · rw [if_pos hin]
    exact h.bump hin
  · rw [if_neg hin]
    exact h.succ

section Counting
variable (s : RpcStats) {op : RpcOp} (otype : ObjType)

theorem requests_requestSent (hop : op.outOfRange = false) (t : ObjType) (o : RpcOp) :
    (s.requestSent op otype).requests t o =
      if t = otype ∧ o = op then { s.requests t o with sent := (s.requests t o).sent + 1 }
      else s.requests t o := by
  rw [RpcStats.requestSent, hop, if_neg Bool.false_ne_true]
  rfl

theorem requests_requestReplied (hop : op.outOfRange = false) (rescode : RpcResultCode)
    (t : ObjType) (o : RpcOp) :
    (s.requestReplied op otype rescode).requests t o =
      if t = otype ∧ o = op then
        if rescode.inRange then
          { s.requests t o with
            replied := (s.requests t o).replied + 1,
            rescode := fun r =>
              if r = rescode then (s.requests t o).rescode r + 1 else (s.requests t o).rescode r }
        else
          { s.requests t o with
            replied := (s.requests t o).replied + 1, unkErr := (s.requests t o).unkErr + 1 }
      else s.requests t o := by
  rw [RpcStats.requestReplied, hop, if_neg Bool.false_ne_true]
  rfl

theorem sent_requestReplied (rescode : RpcResultCode) (t : ObjType) (o : RpcOp) :
    ((s.requestReplied op otype rescode).requests t o).sent = (s.requests t o).sent := by
  cases hop : op.outOfRange with
  | true => rw [RpcStats.requestReplied, hop, if_pos rfl]
  | false =>
    rw [requests_requestReplied s otype hop]
    split
    · split
      · rfl
      · rfl
    · rfl

theorem replied_requestReplied (hop : op.outOfRange = false) (rescode : RpcResultCode)
    (t : ObjType) (o : RpcOp) :
    ((s.requestReplied op otype rescode).requests t o).replied =
      (s.requests t o).replied + if otype = t ∧ op = o then 1 else 0 := by
  rw [requests_requestReplied s otype hop]
  by_cases h : t = otype ∧ o = op
  · have h' : otype = t ∧ op = o := ⟨h.1.symm, h.2.symm⟩
    rw [if_pos h, if_pos h']
    split
    · rfl
    · rfl
  · rw [if_neg h, if_neg fun h' => h ⟨h'.1.symm, h'.2.symm⟩]
    grind

/-- A request that is sent counts in both. -/
theorem RpcStats.Transmissions.request {s : RpcStats} (h : s.Transmissions)
    (hop : op.outOfRange = false) : (s.tx.requestSent op otype).Transmissions := by
  have hbump : (fun k : ObjType × RpcOp => ((s.tx.requestSent op otype).requests k.1 k.2).sent) =
      fun k => if k = (otype, op) then (s.requests k.1 k.2).sent + 1
        else (s.requests k.1 k.2).sent := by
    funext ⟨t, o⟩
    simp only [requests_requestSent s.tx otype hop, Prod.mk.injEq]
    split
    · rfl
    · rfl
  have htotals := Totals.bump h (a := (otype, op)) hop
  rw [← hbump] at htotals
  rw [RpcStats.requestSent, hop, if_neg Bool.false_ne_true] at htotals ⊢
  exact htotals

/-- A request that is replied was counted when it was sent. -/
theorem RpcStats.Transmissions.reply {s : RpcStats} (h : s.Transmissions)
    (rescode : RpcResultCode) : (s.requestReplied op otype rescode).Transmissions := by
  rw [RpcStats.Transmissions]
  simp only [sent_requestReplied]
  rw [RpcStats.requestReplied]
  split
  · exact h
  · exact h

end Counting

namespace Tallied
variable {s : RpcStats} {inFlight rest dropped : List DpMsg} {m : DpMsg}

/-- Other counters change. -/
theorem keep (h : Tallied s inFlight dropped) {f : RpcStats → RpcStats} (hf : CountsNoRequest f) :
    Tallied (f s) inFlight dropped where
  sent t op := by
    rw [hf.requests]
    exact h.sent t op
  replied t op := by
    rw [hf.requests]
    exact h.replied t op
  tx := by
    rw [RpcStats.Transmissions, hf.txOk, hf.controlTx, hf.requests]
    exact h.tx

/-- A request is sent and put in flight. -/
theorem request (h : Tallied s inFlight dropped) (hop : m.msg.request.op.outOfRange = false) :
    Tallied (s.tx.requestSent m.msg.request.op m.msg.request.object.type) (inFlight ++ [m])
      dropped where
  sent t op := by
    have hsent := h.sent t op
    rw [requests_requestSent _ _ hop, tally_append, tally_singleton]
    by_cases hm : t = m.msg.request.object.type ∧ op = m.msg.request.op
    · rw [if_pos hm, if_pos ⟨hm.1.symm, hm.2.symm⟩]
      have hsent' : (s.tx.requests t op).sent = _ := hsent
      dsimp only
      rw [hsent']
      change _ = (s.requests t op).replied + _ + _
      grind
    · rw [if_neg hm, if_neg fun hm' => hm ⟨hm'.1.symm, hm'.2.symm⟩]
      change (s.requests t op).sent = (s.requests t op).replied + _ + _
      grind
  replied t op := by
    rw [requests_requestSent _ _ hop]
    split
    · exact h.replied t op
    · exact h.replied t op
  tx := h.tx.request _ hop

/-- A control message is sent. -/
theorem control (h : Tallied s inFlight dropped) : Tallied s.tx.ctlTx inFlight dropped where
  sent := h.sent
  replied := h.replied
  tx := h.tx.succ

/-- A request is taken from the in-flight list and counted as replied. -/
theorem reply (h : Tallied s (m :: rest) dropped) (hop : m.msg.request.op.outOfRange = false)
    (rescode : RpcResultCode) :
    Tallied (s.requestReplied m.msg.request.op m.msg.request.object.type rescode) rest
      dropped where
  sent t op := by
    have hsent := h.sent t op
    rw [tally_cons, tally_singleton] at hsent
    rw [sent_requestReplied, replied_requestReplied _ _ hop, hsent]
    grind
  replied t op := by
    rw [requests_requestReplied _ _ hop]
    split
    · exact (h.replied t op).replied rescode
    · exact h.replied t op
  tx := h.tx.reply _ rescode

/-- A request is taken from the in-flight list and dropped. -/
theorem drop (h : Tallied s (m :: rest) dropped) : Tallied s rest (dropped ++ [m]) where
  sent t op := by
    have hsent := h.sent t op
    rw [tally_cons] at hsent
    rw [tally_append, hsent]
    grind
  replied := h.replied
  tx := h.tx

end Tallied

theorem DpMsg.Awaited.inRange {m : DpMsg} (h : m.Awaited) :
    m.msg.request.op.outOfRange = false := by
  rcases h with hconn | hupd
  · rw [hconn.op]
    rfl
  · rcases hupd.op with hop | hop | hop
    · rw [hop]
      rfl
    · rw [hop]
      rfl
    · rw [hop]
      rfl

theorem Config.Initial.tallied {s : Config σ} (h : s.Initial) :
    Tallied s.world.stats s.world.inFlight (droppedMsgs s.world.log) := by
  rcases h with ⟨_, _, os₀, os, sock, -, rfl⟩
  exact tallied_zero

variable [Os σ]

/-- A request that is answered is not dropped. -/
theorem Config.Reachable.matched_not_dropped {w : World σ} {resp : RpcResponse} {v : View}
    {m : DpMsg} (h : Config.Reachable ⟨[.handling resp v], w⟩)
    (hsynt : reportsRestart resp w.synt = false) (hreq : m.msg.type = .request)
    (hmat : gotExpectedResponse resp m.msg.request = true) (rest : List DpMsg) :
    droppedMsgs (w.popFlight m rest).log = droppedMsgs w.log := by
  have hlast := (h.answering _ List.mem_cons_self).mismatches_handling hsynt m
  rw [hreq, hmat] at hlast
  rw [droppedMsgs_popFlight, hlast]
  exact List.append_nil _

/-- Nor is one that the purge takes. -/
theorem Config.Reachable.purged_not_dropped {w : World σ} {resp : RpcResponse} {v : View}
    (h : Config.Reachable ⟨[.purging resp v], w⟩) (m : DpMsg) (rest : List DpMsg) :
    droppedMsgs (w.popFlight m rest).log = droppedMsgs w.log := by
  have hlast := (h.answering _ List.mem_cons_self).mismatches_purging m
  rw [droppedMsgs_popFlight, hlast]
  exact List.append_nil _

theorem Tallied.act {s s' : Config σ} (hr : s.Reachable)
    (hi : Tallied s.world.stats s.world.inFlight (droppedMsgs s.world.log)) (h : Act s s') :
    Tallied s'.world.stats s'.world.inFlight (droppedMsgs s'.world.log) := by
  have hawaited := hr.typed.inFlight
  cases h with
  | refused hsock hpath hconnect he hreopen =>
    rcases dpUnixSockReopen_ends (by exact hsock) hreopen with ⟨-, sock, os', rfl⟩
    simpa using hi
  | encodeFailed => simpa using hi.keep countsNoRequest_encodeFailure
  | sendBlocked | sendFailed | sendDisconnected | sendDisconnectedTimer =>
    simpa using hi.keep (countsNoRequest_txError _)
  | @sentRequest w fs o m len os hmay htry hreq =>
    have hop : m.msg.request.op.outOfRange = false := by
      have hnew := hr.tail (.sentRequest hmay htry hreq)
      apply (hnew.typed.inFlight m _).inRange
      simp
    simpa using hi.request hop
  | @sentOther w fs m len os hmay htry hreq =>
    have hctl : m.msg.type = .control :=
      ((hr.typed.queued m (by simp)).isControl hreq).type
    simpa [hctl] using hi.control
  | recvNothing hrecv hr hf => simpa using hi.keep hf
  | received => simpa using hi.keep countsNoRequest_rx
  | controlReceived => simpa using hi.keep countsNoRequest_ctlRx
  | @mismatched w m rest resp v hsynt hq hmis =>
    have hlast := (hr.answering _ List.mem_cons_self).mismatches_handling hsynt m
    have hdrop : (decide (m.msg.type ≠ .request) ||
        !gotExpectedResponse resp m.msg.request) = true := by
      simpa using hmis
    rw [hdrop] at hlast
    have hgrown : droppedMsgs ((w.popFlight m rest).recycle m).log = droppedMsgs w.log ++ [m] := by
      rw [droppedMsgs_recycle, droppedMsgs_popFlight, hlast, if_pos rfl]
    dsimp only at hi ⊢
    rw [hgrown]
    rw [hq] at hi
    exact hi.drop
  | @completed w m rest c resp v hsynt hq hreq hmat hop hctx =>
    have hsame := hr.matched_not_dropped hsynt hreq hmat rest
    dsimp only at hi ⊢
    rw [droppedMsgs_recycle, droppedMsgs_handedOff, World.replied_log, hsame]
    rw [hq] at hi
    exact hi.reply (hawaited m (by simp [hq])).inRange _
  | @answeredOther w m rest resp v hsynt hq hreq hmat hop hctx =>
    have hsame := hr.matched_not_dropped hsynt hreq hmat rest
    dsimp only at hi ⊢
    rw [droppedMsgs_recycle, World.replied_log, hsame]
    rw [hq] at hi
    exact hi.reply (hawaited m (by simp [hq])).inRange _
  | @accepted w m rest resp v hsynt hq hreq hmat hop hok
  | @refusedConnect w m rest resp v hsynt hq hreq hmat hop hok =>
    have hsame := hr.matched_not_dropped hsynt hreq hmat rest
    dsimp only at hi ⊢
    simp only [World.accepted_log, World.replied_log]
    rw [hsame]
    rw [hq] at hi
    exact hi.reply (hawaited m (by simp [hq])).inRange _
  | @purged w m rest c resp v hq hop hctx =>
    have hsame := hr.purged_not_dropped m rest
    dsimp only at hi ⊢
    rw [droppedMsgs_recycle, droppedMsgs_handedOff, World.replied_log, hsame]
    rw [hq] at hi
    exact hi.reply (hawaited m (by simp [hq])).inRange _
  | @purgedOther w m rest resp v hq hop hctx =>
    have hsame := hr.purged_not_dropped m rest
    dsimp only at hi ⊢
    rw [droppedMsgs_recycle, World.replied_log, hsame]
    rw [hq] at hi
    exact hi.reply (hawaited m (by simp [hq])).inRange _
  | @purgeAccepted w m rest resp v hq hop hok | @purgeRefused w m rest resp v hq hop hok =>
    have hsame := hr.purged_not_dropped m rest
    dsimp only at hi ⊢
    simp only [World.accepted_log, World.replied_log]
    rw [hsame]
    rw [hq] at hi
    exact hi.reply (hawaited m (by simp [hq])).inRange _
  | _ =>
    -- what is left counts nothing and takes nothing from the in-flight list
    simpa using hi

theorem Config.Reachable.tallied {s : Config σ} (h : s.Reachable) :
    Tallied s.world.stats s.world.inFlight (droppedMsgs s.world.log) :=
  h.induct (fun _ => Config.Initial.tallied) fun _ _ hr hi => hi.act hr

/-! ### Between two callbacks -/

/-- Between two callbacks, and as a `uint64_t` counts: the requests sent of each
    type and operation are the ones replied, in flight and dropped; the ones
    replied are counted once by their outcome; and the messages sent are the
    control messages and the requests of all types and operations. -/
theorem stats_reconcile {w : World σ} (h : Reachable w) :
    (∀ t op, (w.stats.requests t op).sent = (w.stats.requests t op).replied +
      tally t op w.inFlight + tally t op (droppedMsgs w.log)) ∧
    (∀ t op, (w.stats.requests t op).Outcomes) ∧
    w.stats.Transmissions := by
  have htallied := h.config.tallied
  exact ⟨htallied.sent, htallied.replied, htallied.tx⟩

/-- A request was sent, and dropped on a mismatched response. -/
theorem stats_reconcile_in_lostWorld :
    (droppedMsgs lostWorld.log).length = 1 ∧
      (lostWorld.stats.requests .ipRoute .add).sent =
        (lostWorld.stats.requests .ipRoute .add).replied + tally .ipRoute .add lostWorld.inFlight +
          tally .ipRoute .add (droppedMsgs lostWorld.log) := by
  have hreach : Reachable lostWorld := played_reachable _ _ _ (by decide +kernel)
  have hsent := (stats_reconcile hreach).1
  exact ⟨by decide +kernel, hsent .ipRoute .add⟩

end DplanePlugin
