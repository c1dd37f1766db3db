/-
  DplanePlugin/Typing.lean
  ========================
  **Which messages can be where.**

  The plugin builds three kinds of messages: Connect requests without a context,
  requests for a context, and control messages.  Each list and each call in
  progress holds only some of the kinds, in every reachable configuration.
-/
import DplanePlugin.Refinement

namespace DplanePlugin

open Lib

/-! ### The kinds of messages -/

/-- A Connect request. -/
def DpMsg.IsConnect (m : DpMsg) : Prop := ∃ ref cinfo, m = connectMsg ref cinfo

/-- A control message. -/
def DpMsg.IsControl (m : DpMsg) : Prop := ∃ ref refresh, m = controlMsg ref refresh

/-- A request for a context. -/
def DpMsg.IsUpdate (m : DpMsg) : Prop :=
  ∃ ref op seqn object c, (op = .add ∨ op = .del ∨ op = .update) ∧
    m = requestMsg ref op seqn object (some c)

/-- What the unsent list may hold. -/
def DpMsg.Queueable (m : DpMsg) : Prop := m.IsControl ∨ m.IsUpdate

/-- What the in-flight list may hold. -/
def DpMsg.Awaited (m : DpMsg) : Prop := m.IsConnect ∨ m.IsUpdate

section Kinds
variable {m : DpMsg}

theorem DpMsg.IsConnect.isConnect (h : m.IsConnect) : m.msg.isConnect = true := by
  obtain ⟨ref, cinfo, rfl⟩ := h
  exact connectMsg_isConnect ref cinfo

theorem DpMsg.IsConnect.ctx (h : m.IsConnect) : m.ctx = none := by
  obtain ⟨ref, cinfo, rfl⟩ := h
  rfl

theorem DpMsg.IsConnect.type (h : m.IsConnect) : m.msg.type = .request := by
  obtain ⟨ref, cinfo, rfl⟩ := h
  rfl

theorem DpMsg.IsConnect.op (h : m.IsConnect) : m.msg.request.op = .connect := by
  obtain ⟨ref, cinfo, rfl⟩ := h
  rfl

theorem DpMsg.IsConnect.seqn (h : m.IsConnect) : m.msg.request.seqn = 0 := by
  obtain ⟨ref, cinfo, rfl⟩ := h
  rfl

theorem DpMsg.IsControl.ctx (h : m.IsControl) : m.ctx = none := by
  obtain ⟨ref, refresh, rfl⟩ := h
  rfl

theorem DpMsg.IsControl.type (h : m.IsControl) : m.msg.type = .control := by
  obtain ⟨ref, refresh, rfl⟩ := h
  rfl

theorem DpMsg.IsUpdate.type (h : m.IsUpdate) : m.msg.type = .request := by
  obtain ⟨ref, op, seqn, object, c, -, rfl⟩ := h
  rfl

theorem DpMsg.IsUpdate.op (h : m.IsUpdate) :
    m.msg.request.op = .add ∨ m.msg.request.op = .del ∨ m.msg.request.op = .update := by
  obtain ⟨ref, op, seqn, object, c, hop, rfl⟩ := h
  exact hop

theorem DpMsg.IsUpdate.op_ne (h : m.IsUpdate) : m.msg.request.op ≠ .connect := by
  intro hconn
  have := h.op
  rw [hconn] at this
  simp at this

theorem DpMsg.IsUpdate.ctx (h : m.IsUpdate) : ∃ c, m.ctx = some c := by
  obtain ⟨ref, op, seqn, object, c, -, rfl⟩ := h
  exact ⟨c, rfl⟩

theorem DpMsg.IsUpdate.isConnect (h : m.IsUpdate) : m.msg.isConnect = false := by
  rw [← Bool.not_eq_true, RpcMsg.isConnect_iff]
  exact fun hconn => h.op_ne hconn.2

theorem DpMsg.Queueable.isConnect (h : m.Queueable) : m.msg.isConnect = false := by
  obtain ⟨ref, refresh, rfl⟩ | h := h
  · exact controlMsg_isConnect ref refresh
  · exact h.isConnect

/-- A message of the unsent list that is a request is one for a context. -/
theorem DpMsg.Queueable.isUpdate (h : m.Queueable) (htype : m.msg.type = .request) :
    m.IsUpdate := by
  obtain h | h := h
  · rw [h.type] at htype
    cases htype
  · exact h

theorem DpMsg.Queueable.isControl (h : m.Queueable) (htype : m.msg.type ≠ .request) :
    m.IsControl := by
  obtain h | h := h
  · exact h
  · exact absurd h.type htype

theorem DpMsg.Awaited.type (h : m.Awaited) : m.msg.type = .request := by
  obtain h | h := h <;> exact h.type

/-- In the in-flight list the operation tells the kind. -/
theorem DpMsg.Awaited.isConnect (h : m.Awaited) (hop : m.msg.request.op = .connect) :
    m.IsConnect :=
  h.resolve_right fun hupd => hupd.op_ne hop

theorem DpMsg.Awaited.isUpdate (h : m.Awaited) (hop : m.msg.request.op ≠ .connect) :
    m.IsUpdate :=
  h.resolve_left fun hconn => hop hconn.op

theorem DpMsg.Awaited.isUpdate_of_ctx (h : m.Awaited) {c : CtxRef} (hctx : m.ctx = some c) :
    m.IsUpdate :=
  h.resolve_left fun hconn => by
    rw [hconn.ctx] at hctx
    cases hctx

end Kinds

/-! ### The invariant -/

variable {σ : Type}

structure Typed (s : Config σ) : Prop where
  unsent : ∀ m ∈ s.world.unsent, m.Queueable
  queued : ∀ m ∈ heldQueued s.frames, m.Queueable
  inFlight : ∀ m ∈ s.world.inFlight, m.Awaited
  connects : ∀ m ∈ heldConnects s.frames, m.IsConnect
  pool : ∀ m ∈ s.world.pool, m.ctx = none
  buffer : s.world.txBuff.isSome = true

/-- `dp_msg_recycle` puts no message with a context in the pool. -/
@[simp] theorem forall_mem_recycled (pool : List DpMsg) (msg : DpMsg) :
    (∀ m ∈ if msg.ctx.isSome then pool else pool ++ [msg], m.ctx = none) ↔
      ∀ m ∈ pool, m.ctx = none := by
  cases hctx : msg.ctx with
  | none => simp [or_imp, forall_and, hctx]
  | some c => simp

theorem Config.Initial.typed {s : Config σ} (h : s.Initial) : Typed s := by
  obtain ⟨_, _, os₀, os, sock, -, rfl⟩ := h
  have hpool : ∀ m ∈ initialPool, m.ctx = none := by
    intro m hm
    obtain ⟨ref, -, rfl⟩ := List.mem_map.mp hm
    rfl
  refine ⟨fun m hm => absurd hm List.not_mem_nil, fun m hm => absurd hm List.not_mem_nil,
    fun m hm => absurd hm List.not_mem_nil, fun m hm => absurd hm List.not_mem_nil, ?_, rfl⟩
  dsimp only
  exact hpool

/-- What is left of the pool after an allocation. -/
theorem World.Allocates.mem_pool {w : World σ} {ref next : Nat} {pool : List DpMsg}
    (h : w.Allocates ref pool next) {m : DpMsg} (hm : m ∈ pool) : m ∈ w.pool := by
  obtain ⟨-, rfl, -, -⟩ | ⟨old, hpool, -, -⟩ := h
  · cases hm
  · rw [hpool]
    exact List.mem_cons_of_mem old hm

variable [Os σ]

theorem Typed.act {s s' : Config σ} (hi : Typed s) (h : Act s s') : Typed s' := by
  obtain ⟨hunsent, hqueued, hflight, hconn, hpool, hbuf⟩ := hi
  cases h with
  | connected hsock hpath hconnect hok halloc =>
    refine ⟨hunsent, hqueued, hflight, ?_, fun m hm => hpool m (halloc.mem_pool hm), hbuf⟩
    simp only [heldConnects_cons, Frame.connects, Origin.connects, List.nil_append,
      List.singleton_append, List.forall_mem_cons] at hconn ⊢
    exact ⟨⟨_, _, rfl⟩, hconn⟩
  | refused hsock hpath hconnect he hreopen =>
    obtain ⟨-, sock, os', rfl⟩ := dpUnixSockReopen_ends (by exact hsock) hreopen
    exact ⟨hunsent, hqueued, hflight, hconn, hpool, hbuf⟩
  | queueRequest hop halloc =>
    refine ⟨?_, hqueued, hflight, hconn, fun m hm => hpool m (halloc.mem_pool hm), hbuf⟩
    refine List.forall_mem_append.mpr ⟨hunsent, List.forall_mem_singleton.mpr (.inr ?_)⟩
    exact ⟨_, _, _, _, _, hop, rfl⟩
  | queueControl hfs halloc =>
    refine ⟨?_, hqueued, hflight, hconn, fun m hm => hpool m (halloc.mem_pool hm), hbuf⟩
    refine List.forall_mem_append.mpr ⟨hunsent, List.forall_mem_singleton.mpr (.inl ?_)⟩
    exact ⟨_, _, rfl⟩
  | @sentRequest w fs o m len os hmay htry hreq =>
    refine ⟨hunsent, ?_, ?_, ?_, hpool, rfl⟩
    · exact (List.forall_mem_append.mp hqueued).2
    · refine List.forall_mem_append.mpr ⟨hflight, List.forall_mem_singleton.mpr ?_⟩
      cases o with
      | unsent => exact .inr ((hqueued m (by simp)).isUpdate hreq)
      | connect => exact .inl (hconn m (by simp))
    · exact (List.forall_mem_append.mp hconn).2
  | completed hsynt hq hreq hmat hop hctx =>
    rw [hq] at hflight
    refine ⟨hunsent, hqueued, (List.forall_mem_cons.mp hflight).2, hconn, ?_, hbuf⟩
    simpa [or_imp, forall_and] using hpool
  | purged hq hop hctx =>
    rw [hq] at hflight
    refine ⟨hunsent, hqueued, (List.forall_mem_cons.mp hflight).2, hconn, ?_, hbuf⟩
    simpa [or_imp, forall_and] using hpool
  | accepted hsynt hq hreq hmat hop hok =>
    rw [hq] at hflight
    obtain ⟨hm, hrest⟩ := List.forall_mem_cons.mp hflight
    rw [((gotExpectedResponse_iff _ _).mp hmat).2] at hop
    exact ⟨hunsent, hqueued, hrest, List.forall_mem_singleton.mpr (hm.isConnect hop), hpool, hbuf⟩
  | purgeAccepted hq hop hok =>
    rw [hq] at hflight
    obtain ⟨hm, hrest⟩ := List.forall_mem_cons.mp hflight
    exact ⟨hunsent, hqueued, hrest, List.forall_mem_singleton.mpr (hm.isConnect hop), hpool, hbuf⟩
  | popUnsent hq =>
    rw [hq] at hunsent
    obtain ⟨hm, hrest⟩ := List.forall_mem_cons.mp hunsent
    exact ⟨hrest, List.forall_mem_cons.mpr ⟨hm, hqueued⟩, hflight, hconn, hpool, hbuf⟩
  | pushBack =>
    obtain ⟨hm, hrest⟩ := List.forall_mem_cons.mp hqueued
    exact ⟨List.forall_mem_cons.mpr ⟨hm, hunsent⟩, hrest, hflight, hconn, hpool, hbuf⟩
  | sentOther hmay htry hreq =>
    exact ⟨hunsent, (List.forall_mem_cons.mp hqueued).2, hflight, hconn, by simpa using hpool, rfl⟩
  | dropConnect | recycle =>
    exact ⟨hunsent, hqueued, hflight, (List.forall_mem_cons.mp hconn).2, by simpa using hpool, hbuf⟩
  | encodeFailed | sendBlocked | sendFailed | sendShort | sendDisconnected
  | sendDisconnectedTimer =>
    exact ⟨hunsent, hqueued, hflight, hconn, hpool, rfl⟩
  | mismatched _ hq | answeredOther _ hq | purgedOther hq | refusedConnect _ hq
  | purgeRefused hq =>
    rw [hq] at hflight
    exact ⟨hunsent, hqueued, (List.forall_mem_cons.mp hflight).2, hconn, by simpa using hpool, hbuf⟩
  | _ =>
    -- what is left changes none of the lists and buffers, here or in a call
    exact ⟨hunsent, hqueued, hflight, hconn, hpool, hbuf⟩

theorem Config.Reachable.typed {s : Config σ} (h : s.Reachable) : Typed s :=
  h.induct (fun _ => Config.Initial.typed) fun _ _ _ hi => hi.act

/-! ### How calls nest -/

/-- The calls that act next: only the innermost one can be one of these. -/
def Frame.active : Frame → Bool
  | .reconnect => true
  | .sending _ _ => true
  | .aborted => true
  | _ => false

def Frame.isHandling : Frame → Bool
  | .handling _ _ => true
  | _ => false

def Frame.isPurging : Frame → Bool
  | .purging _ _ => true
  | _ => false

def Frame.isAnswered : Frame → Bool
  | .answered _ => true
  | _ => false

/-- What may be below a call: nothing that acts next, and below a drain nothing
    that was taken from the unsent list. Nothing is called while a response is
    handled; while the in-flight list is purged, a Connect is recycled. -/
def Frame.Over (upper lower : Frame) : Prop :=
  lower.active = false ∧ (upper = .draining → lower.queued = []) ∧
    lower.isHandling = false ∧ (lower.isPurging = true → upper.isAnswered = true)

theorem Act.stacked {s s' : Config σ} (hi : s.frames.Pairwise Frame.Over) (h : Act s s') :
    s'.frames.Pairwise Frame.Over := by
  cases h with
  | queueControl hfs halloc =>
    obtain rfl | ⟨msg, rfl⟩ := hfs <;> simp [Frame.Over, Frame.active, Frame.isHandling, Frame.isPurging,
    Frame.isAnswered]
  | _ => simp_all [Frame.Over, Frame.active, Frame.isHandling, Frame.isPurging,
    Frame.isAnswered]

theorem Config.Reachable.stacked {s : Config σ} (h : s.Reachable) :
    s.frames.Pairwise Frame.Over := by
  refine h.induct ?_ fun _ _ _ hi => Act.stacked hi
  rintro _ ⟨_, _, _, _, _, -, rfl⟩
  exact List.pairwise_singleton _ _

/-- Only the innermost call acts next. -/
theorem Config.Reachable.below {f : Frame} {fs : List Frame} {w : World σ}
    (h : Config.Reachable ⟨f :: fs, w⟩) : ∀ g ∈ fs, g.active = false :=
  fun g hg => ((List.pairwise_cons.mp h.stacked).1 g hg).1

/-- Drains do not nest: below one, nothing was taken from the unsent list. -/
theorem heldQueued_below_draining {fs : List Frame}
    (h : (Frame.draining :: fs).Pairwise Frame.Over) : heldQueued fs = [] :=
  List.flatMap_eq_nil_iff.mpr fun g hg => ((List.pairwise_cons.mp h).1 g hg).2.1 rfl

end DplanePlugin
