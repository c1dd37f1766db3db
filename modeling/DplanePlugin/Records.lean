/-
  DplanePlugin/Records.lean
  =========================
  **What the log says of messages and contexts.**

  The messages sent and passed on and the contexts dequeued, queued and given
  back, each in the order of the log.
-/
import DplanePlugin.World

namespace DplanePlugin

/-! ### Messages -/

@[simp] def Obs.sentMsg : Obs → Option DpMsg
  | .sent m => some m
  | _ => none

@[simp] def Obs.passedMsg : Obs → Option DpMsg
  | .passed m => some m
  | _ => none

@[simp] def Obs.poppedMsg : Obs → Option DpMsg
  | .popped m => some m
  | _ => none

/-- The messages for which `do_send_rpc_msg` returned 0. -/
def sentMsgs (log : List Entry) : List DpMsg := log.filterMap (·.obs.sentMsg)

/-- The messages that `send_rpc_msg` was called on. -/
def passedMsgs (log : List Entry) : List DpMsg := log.filterMap (·.obs.passedMsg)

/-- The messages taken from the in-flight list. -/
def poppedMsgs (log : List Entry) : List DpMsg := log.filterMap (·.obs.poppedMsg)

/-- The messages that are no Connect. -/
def nonConnects (msgs : List DpMsg) : List DpMsg := msgs.filter fun m => !m.msg.isConnect

/-- The requests among some messages. -/
def requests (msgs : List DpMsg) : List DpMsg := msgs.filter fun m => m.msg.type = .request

/-! ### Contexts -/

@[simp] def Obs.dequeuedCtx : Obs → Option CtxRef
  | .dequeued c => some c
  | _ => none

@[simp] def Obs.queuedCtx : Obs → Option CtxRef
  | .queued c => some c
  | _ => none

@[simp] def Obs.handedOffCtx : Obs → Option CtxRef
  | .handedOff c _ => some c
  | _ => none

@[simp] def Obs.outCtx : Obs → Option CtxRef
  | .handedOff c _ => some c
  | .enqueuedOut c _ => some c
  | _ => none

@[simp] def Obs.outStatus : Obs → Option (CtxRef × ZebraResult)
  | .handedOff c st => some (c, st)
  | .enqueuedOut c st => some (c, st)
  | _ => none

@[simp] def Obs.refusedCtx : Obs → Option CtxRef
  | .recycleRefused _ c => some c
  | _ => none

/-- The contexts dequeued from zebra. -/
def dequeuedCtxs (log : List Entry) : List CtxRef := log.filterMap (·.obs.dequeuedCtx)

/-- The contexts for which `zd_hh_process_update` obtained `HH_QUEUED`. -/
def queuedCtxs (log : List Entry) : List CtxRef := log.filterMap (·.obs.queuedCtx)

/-- The contexts that `dp_msg_hand_off` returned to zebra. -/
def handedOffCtxs (log : List Entry) : List CtxRef := log.filterMap (·.obs.handedOffCtx)

/-- The contexts put on the provider's out queue with a status. -/
def outCtxs (log : List Entry) : List CtxRef := log.filterMap (·.obs.outCtx)

/-- The contexts put on the provider's out queue, each with its status. -/
def outStatuses (log : List Entry) : List (CtxRef × ZebraResult) :=
  log.filterMap (·.obs.outStatus)

/-- The contexts of messages that `dp_msg_recycle` refused. -/
def refusedCtxs (log : List Entry) : List CtxRef := log.filterMap (·.obs.refusedCtx)

/-- The contexts that some messages hold. -/
def ctxsOf (msgs : List DpMsg) : List CtxRef := msgs.filterMap (·.ctx)

/-! ### A log that grows -/

theorem filterMap_cons_toList {α β : Type} (f : α → Option β) (a : α) (l : List α) :
    (a :: l).filterMap f = (f a).toList ++ l.filterMap f := by
  cases h : f a <;> simp [h]

section Append
variable (l l' : List Entry) (e : Entry)

@[simp] theorem sentMsgs_nil : sentMsgs [] = [] := rfl
@[simp] theorem sentMsgs_cons : sentMsgs (e :: l) = e.obs.sentMsg.toList ++ sentMsgs l :=
  filterMap_cons_toList _ _ _
@[simp] theorem sentMsgs_append : sentMsgs (l ++ l') = sentMsgs l ++ sentMsgs l' :=
  List.filterMap_append
@[simp] theorem passedMsgs_nil : passedMsgs [] = [] := rfl
@[simp] theorem passedMsgs_cons : passedMsgs (e :: l) = e.obs.passedMsg.toList ++ passedMsgs l :=
  filterMap_cons_toList _ _ _
@[simp] theorem passedMsgs_append : passedMsgs (l ++ l') = passedMsgs l ++ passedMsgs l' :=
  List.filterMap_append
@[simp] theorem dequeuedCtxs_nil : dequeuedCtxs [] = [] := rfl
@[simp] theorem dequeuedCtxs_cons :
    dequeuedCtxs (e :: l) = e.obs.dequeuedCtx.toList ++ dequeuedCtxs l :=
  filterMap_cons_toList _ _ _
@[simp] theorem dequeuedCtxs_append : dequeuedCtxs (l ++ l') = dequeuedCtxs l ++ dequeuedCtxs l' :=
  List.filterMap_append
@[simp] theorem queuedCtxs_nil : queuedCtxs [] = [] := rfl
@[simp] theorem queuedCtxs_cons : queuedCtxs (e :: l) = e.obs.queuedCtx.toList ++ queuedCtxs l :=
  filterMap_cons_toList _ _ _
@[simp] theorem queuedCtxs_append : queuedCtxs (l ++ l') = queuedCtxs l ++ queuedCtxs l' :=
  List.filterMap_append
@[simp] theorem handedOffCtxs_nil : handedOffCtxs [] = [] := rfl
@[simp] theorem handedOffCtxs_cons :
    handedOffCtxs (e :: l) = e.obs.handedOffCtx.toList ++ handedOffCtxs l :=
  filterMap_cons_toList _ _ _
@[simp] theorem handedOffCtxs_append :
    handedOffCtxs (l ++ l') = handedOffCtxs l ++ handedOffCtxs l' :=
  List.filterMap_append
@[simp] theorem outCtxs_nil : outCtxs [] = [] := rfl
@[simp] theorem outCtxs_cons : outCtxs (e :: l) = e.obs.outCtx.toList ++ outCtxs l :=
  filterMap_cons_toList _ _ _
@[simp] theorem outCtxs_append : outCtxs (l ++ l') = outCtxs l ++ outCtxs l' :=
  List.filterMap_append
@[simp] theorem outStatuses_nil : outStatuses [] = [] := rfl
@[simp] theorem outStatuses_cons :
    outStatuses (e :: l) = e.obs.outStatus.toList ++ outStatuses l :=
  filterMap_cons_toList _ _ _
@[simp] theorem outStatuses_append : outStatuses (l ++ l') = outStatuses l ++ outStatuses l' :=
  List.filterMap_append
@[simp] theorem poppedMsgs_nil : poppedMsgs [] = [] := rfl
@[simp] theorem poppedMsgs_cons : poppedMsgs (e :: l) = e.obs.poppedMsg.toList ++ poppedMsgs l :=
  filterMap_cons_toList _ _ _
@[simp] theorem poppedMsgs_append : poppedMsgs (l ++ l') = poppedMsgs l ++ poppedMsgs l' :=
  List.filterMap_append
@[simp] theorem refusedCtxs_nil : refusedCtxs [] = [] := rfl
@[simp] theorem refusedCtxs_cons :
    refusedCtxs (e :: l) = e.obs.refusedCtx.toList ++ refusedCtxs l :=
  filterMap_cons_toList _ _ _
@[simp] theorem refusedCtxs_append : refusedCtxs (l ++ l') = refusedCtxs l ++ refusedCtxs l' :=
  List.filterMap_append

end Append

section Messages
variable (ms ms' : List DpMsg) (m : DpMsg)

@[simp] theorem nonConnects_nil : nonConnects [] = [] := rfl
@[simp] theorem nonConnects_append :
    nonConnects (ms ++ ms') = nonConnects ms ++ nonConnects ms' := List.filter_append ..
@[simp] theorem nonConnects_singleton :
    nonConnects [m] = if m.msg.isConnect then [] else [m] := by
  cases h : m.msg.isConnect <;> simp [nonConnects, h]
@[simp] theorem requests_nil : requests [] = [] := rfl
@[simp] theorem requests_append : requests (ms ++ ms') = requests ms ++ requests ms' :=
  List.filter_append ..
@[simp] theorem requests_singleton :
    requests [m] = if m.msg.type = .request then [m] else [] := by
  by_cases h : m.msg.type = .request <;> simp [requests, h]
@[simp] theorem ctxsOf_nil : ctxsOf [] = [] := rfl
@[simp] theorem ctxsOf_append : ctxsOf (ms ++ ms') = ctxsOf ms ++ ctxsOf ms' :=
  List.filterMap_append
@[simp] theorem ctxsOf_cons : ctxsOf (m :: ms) = m.ctx.toList ++ ctxsOf ms := by
  cases h : m.ctx <;> simp [ctxsOf, h]

end Messages

end DplanePlugin
