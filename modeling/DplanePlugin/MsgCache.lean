/-
  DplanePlugin/MsgCache.lean
  ==========================
  **The message cache (`hh_dp_msg_cache.c`): a pool, the unsent list and the
  in-flight list.**

  The intrusive lists are lists of messages; a message taken from a list is in
  the hands of the function that took it.  FRR's allocator aborts when it has no
  memory, so `dp_msg_new` always returns a message.  `BUG(cond, ..)` is that of
  the release build: it logs and returns.
-/
import DplanePlugin.RpcStats
import DplanePlugin.Records

namespace DplanePlugin

open Lib

variable {σ : Type}

/-- Allocate a `dp_msg` at a new address. -/
def dpMsgAlloc : Plugin σ DpMsg := do
  let w ← get
  set { w with nextRef := w.nextRef + 1 }
  return ⟨w.nextRef, .zero, none⟩

/-- Alloc a new message (or reuse from pool). -/
def dpMsgNew : Plugin σ DpMsg := do
  let w ← get
  match w.pool with
  | [] => dpMsgAlloc
  | m :: pool =>
    set { w with pool := pool }
    return ⟨m.ref, .zero, none⟩

/-- Recycle a message for later reuse; one whose context is still set is not
    put anywhere. -/
def dpMsgRecycle (msg : DpMsg) : Plugin σ Unit :=
  match msg.ctx with
  | some c => observe (.recycleRefused msg c)
  | none => modify fun w => { w with pool := w.pool ++ [msg] }

/-- Cache a message at the tail of the unsent list. -/
def dpMsgCacheUnsent (msg : DpMsg) : Plugin σ Unit :=
  modify fun w => { w with unsent := w.unsent ++ [msg] }

/-- Cache a message back to the head of the unsent list. -/
def dpMsgUnsentPushBack (msg : DpMsg) : Plugin σ Unit :=
  modify fun w => { w with unsent := msg :: w.unsent }

/-- Dequeue a message from the unsent list. -/
def dpMsgPopUnsent : Plugin σ (Option DpMsg) := do
  let w ← get
  match w.unsent with
  | [] => return none
  | m :: unsent =>
    set { w with unsent := unsent }
    return some m

/-- Cache a request until its response is received. -/
def dpMsgCacheInflight (msg : DpMsg) : Plugin σ Unit :=
  if msg.msg.type = .request then
    modify fun w => { w with inFlight := w.inFlight ++ [msg] }
  else throw .assertFailed

/-- Dequeue a message from the in-flight list. -/
def dpMsgPopInflight : Plugin σ (Option DpMsg) := do
  let w ← get
  match w.inFlight with
  | [] => return none
  | m :: inFlight =>
    set { w with inFlight := inFlight }
    observe (.popped m)
    return some m

/-- The pool that `init_dp_msg_cache` allocates. -/
def initialPool : List DpMsg := (List.range 1000).map fun ref => ⟨ref, .zero, none⟩

/-- Initialize the message cache. -/
def initDpMsgCache : Plugin σ Unit :=
  modify fun w => { w with pool := initialPool, unsent := [], inFlight := [], nextRef := 1000 }

/-! ### What the operations do to the state -/

/-- What `dp_msg_recycle` logs: that it refused a message with a context. -/
def World.refusal (w : World σ) (msg : DpMsg) : List Entry :=
  match msg.ctx with
  | none => []
  | some c => [⟨.recycleRefused msg c, w.view⟩]

/-- The state after `dp_msg_recycle`. -/
@[simps] def World.recycle (w : World σ) (msg : DpMsg) : World σ :=
  { w with
    pool := if msg.ctx.isSome then w.pool else w.pool ++ [msg],
    log := w.log ++ w.refusal msg }

theorem World.refusal_of_none {msg : DpMsg} (h : msg.ctx = none) (w : World σ) :
    w.refusal msg = [] := by
  simp [World.refusal, h]

/-- An entry of another kind is not among them. -/
theorem World.refusal_filterMap {β : Type} (f : Obs → Option β)
    (hf : ∀ m c, f (.recycleRefused m c) = none) (w : World σ) (msg : DpMsg) :
    (w.refusal msg).filterMap (fun e => f e.obs) = [] := by
  unfold World.refusal
  split <;> simp [hf]

@[simp] theorem ends_dpMsgRecycle (msg : DpMsg) (w : World σ) (r : Except Halt Unit)
    (w' : World σ) :
    Ends (dpMsgRecycle msg) w r w' ↔ r = .ok () ∧ w' = w.recycle msg := by
  unfold dpMsgRecycle World.recycle
  cases h : msg.ctx <;> simp [World.observe, World.refusal, h]

@[simp] theorem ends_dpMsgRecycle_bind {α : Type} (msg : DpMsg) (f : Unit → Plugin σ α)
    (w : World σ) (r : Except Halt α) (w' : World σ) :
    Ends (dpMsgRecycle msg >>= f) w r w' ↔ Ends (f ()) (w.recycle msg) r w' :=
  Ran.ends_bind ((ends_dpMsgRecycle _ _ _ _).mpr ⟨rfl, rfl⟩) _ _ _

section Refusal
variable (w : World σ) (msg : DpMsg)

@[simp] theorem sentMsgs_refusal : sentMsgs (w.refusal msg) = [] :=
  w.refusal_filterMap _ (fun _ _ => rfl) msg
@[simp] theorem passedMsgs_refusal : passedMsgs (w.refusal msg) = [] :=
  w.refusal_filterMap _ (fun _ _ => rfl) msg
@[simp] theorem dequeuedCtxs_refusal : dequeuedCtxs (w.refusal msg) = [] :=
  w.refusal_filterMap _ (fun _ _ => rfl) msg
@[simp] theorem queuedCtxs_refusal : queuedCtxs (w.refusal msg) = [] :=
  w.refusal_filterMap _ (fun _ _ => rfl) msg
@[simp] theorem handedOffCtxs_refusal : handedOffCtxs (w.refusal msg) = [] :=
  w.refusal_filterMap _ (fun _ _ => rfl) msg
@[simp] theorem outCtxs_refusal : outCtxs (w.refusal msg) = [] :=
  w.refusal_filterMap _ (fun _ _ => rfl) msg
@[simp] theorem outStatuses_refusal : outStatuses (w.refusal msg) = [] :=
  w.refusal_filterMap _ (fun _ _ => rfl) msg
@[simp] theorem poppedMsgs_refusal : poppedMsgs (w.refusal msg) = [] :=
  w.refusal_filterMap _ (fun _ _ => rfl) msg
@[simp] theorem refusedCtxs_refusal : refusedCtxs (w.refusal msg) = msg.ctx.toList := by
  cases hctx : msg.ctx <;> simp [World.refusal, hctx]

end Refusal

/-- Where a new message comes from: the head of the pool, or a new address. -/
def World.Allocates (w : World σ) (ref : Nat) (pool : List DpMsg) (next : Nat) : Prop :=
  (w.pool = [] ∧ pool = [] ∧ ref = w.nextRef ∧ next = w.nextRef + 1) ∨
    (∃ old, w.pool = old :: pool ∧ ref = old.ref ∧ next = w.nextRef)

/-- A new message is zeroed, and only the pool and the allocator change. -/
theorem dpMsgNew_ends {w w' : World σ} {r : Except Halt DpMsg} (h : Ends dpMsgNew w r w') :
    ∃ ref pool next, w.Allocates ref pool next ∧ r = .ok ⟨ref, .zero, none⟩ ∧
      w' = { w with pool := pool, nextRef := next } := by
  rw [dpMsgNew, ends_get_bind] at h
  cases hpool : w.pool with
  | nil =>
    simp only [hpool, dpMsgAlloc, ends_get_bind, ends_set_bind, ends_pure] at h
    obtain ⟨rfl, rfl⟩ := h
    exact ⟨_, [], _, .inl ⟨hpool, rfl, rfl, rfl⟩, rfl, by rw [← hpool]⟩
  | cons old pool =>
    simp only [hpool, ends_set_bind, ends_pure] at h
    obtain ⟨rfl, rfl⟩ := h
    exact ⟨_, pool, _, .inr ⟨old, hpool, rfl, rfl⟩, rfl, rfl⟩

theorem dpMsgNew_ran (w : World σ) :
    ∃ ref pool next, Ran dpMsgNew w ⟨ref, .zero, none⟩ { w with pool := pool, nextRef := next } := by
  cases hpool : w.pool with
  | nil => exact ⟨w.nextRef, [], w.nextRef + 1, by simp [Ran, dpMsgNew, dpMsgAlloc, hpool]⟩
  | cons old pool => exact ⟨old.ref, pool, w.nextRef, by simp [Ran, dpMsgNew, hpool]⟩

theorem ends_dpMsgPopUnsent (w : World σ) (r : Except Halt (Option DpMsg)) (w' : World σ) :
    Ends dpMsgPopUnsent w r w' ↔
      (w.unsent = [] ∧ r = .ok none ∧ w' = w) ∨
      ∃ m rest, w.unsent = m :: rest ∧ r = .ok (some m) ∧ w' = { w with unsent := rest } := by
  rw [dpMsgPopUnsent, ends_get_bind]
  cases w.unsent with
  | nil => simp
  | cons m rest => simp [and_assoc]

theorem ends_dpMsgPopInflight (w : World σ) (r : Except Halt (Option DpMsg)) (w' : World σ) :
    Ends dpMsgPopInflight w r w' ↔
      (w.inFlight = [] ∧ r = .ok none ∧ w' = w) ∨
      ∃ m rest, w.inFlight = m :: rest ∧ r = .ok (some m) ∧
        w' = { w with inFlight := rest }.observe (.popped m) := by
  rw [dpMsgPopInflight, ends_get_bind]
  cases w.inFlight with
  | nil => simp
  | cons m rest => simp [and_assoc]

/-- The assertion of `dp_msg_cache_inflight` holds of requests. -/
theorem ends_dpMsgCacheInflight {msg : DpMsg} (hreq : msg.msg.type = .request) (w : World σ)
    (r : Except Halt Unit) (w' : World σ) :
    Ends (dpMsgCacheInflight msg) w r w' ↔
      r = .ok () ∧ w' = { w with inFlight := w.inFlight ++ [msg] } := by
  rw [dpMsgCacheInflight, if_pos hreq, ends_modify]

end DplanePlugin
