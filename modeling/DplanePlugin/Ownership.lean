/-
  DplanePlugin/Ownership.lean
  ===========================
  **Every message is in one place.**

  The lists are intrusive: a message that is put in a list while it is in one
  breaks both.  In every reachable configuration the addresses of the messages
  in the three lists and in the hands of the calls in progress are distinct, and
  none of them will be allocated again.  A message that `dp_msg_recycle` refuses
  is in no place any more.
-/
import DplanePlugin.Faults
import DplanePlugin.Fifo
import Mathlib.Data.List.Nodup

namespace DplanePlugin

open Lib

variable {σ : Type}

/-- The addresses of some messages. -/
def refsOf (msgs : List DpMsg) : List Nat := msgs.map (·.ref)

section Refs
variable (ms ms' : List DpMsg) (m : DpMsg)

@[simp] theorem refsOf_nil : refsOf [] = [] := rfl
@[simp] theorem refsOf_cons : refsOf (m :: ms) = m.ref :: refsOf ms := rfl
@[simp] theorem refsOf_append : refsOf (ms ++ ms') = refsOf ms ++ refsOf ms' := List.map_append

end Refs

/-- How often the address `a` occurs in the lists and in the calls in progress. -/
def Config.holds (s : Config σ) (a : Nat) : Nat :=
  (refsOf s.world.pool).count a + (refsOf s.world.unsent).count a +
    (refsOf s.world.inFlight).count a + (refsOf (heldQueued s.frames)).count a +
      (refsOf (heldConnects s.frames)).count a

structure Owned (s : Config σ) : Prop where
  once : ∀ a, s.holds a ≤ 1
  fresh : ∀ a, s.world.nextRef ≤ a → s.holds a = 0

theorem count_initialPool (a : Nat) : (refsOf initialPool).count a = if a < 1000 then 1 else 0 := by
  have hrefs : refsOf initialPool = List.range 1000 := by
    rw [refsOf, initialPool, List.map_map]
    exact List.map_id _
  rw [hrefs, List.count_range]

theorem Config.Initial.owned {s : Config σ} (h : s.Initial) : Owned s := by
  rcases h with ⟨_, _, os₀, os, sock, -, rfl⟩
  constructor
  · intro a
    simp only [Config.holds, World.start, count_initialPool, refsOf_nil, heldQueued_cons,
      heldConnects_cons, Frame.queued, Frame.connects, heldQueued_nil, heldConnects_nil,
      List.append_nil, List.count_nil]
    split <;> omega
  · intro a ha
    simp only [Config.holds, World.start, count_initialPool, refsOf_nil, heldQueued_cons,
      heldConnects_cons, Frame.queued, Frame.connects, heldQueued_nil, heldConnects_nil,
      List.append_nil, List.count_nil]
    rw [if_neg (by exact Nat.not_lt.mpr ha)]

/-- No address occurs more often, and no more addresses are allocated. -/
theorem Owned.mono {s s' : Config σ} (h : Owned s) (hle : ∀ a, s'.holds a ≤ s.holds a)
    (hnext : s.world.nextRef ≤ s'.world.nextRef) : Owned s' := by
  constructor
  · intro a
    exact Nat.le_trans (hle a) (h.once a)
  · intro a ha
    have hzero := h.fresh a (Nat.le_trans hnext ha)
    exact Nat.le_zero.mp (hzero ▸ hle a)

/-- A message with the address `ref`, allocated from `s`, occurs in `s'`. -/
theorem Owned.alloc {s s' : Config σ} (h : Owned s) {ref next : Nat} {pool : List DpMsg}
    (halloc : s.world.Allocates ref pool next) (hnext : s'.world.nextRef = next)
    (hholds : ∀ a, s'.holds a + (refsOf s.world.pool).count a =
      s.holds a + (refsOf pool).count a + [ref].count a) : Owned s' := by
  rcases halloc with ⟨hpool, rfl, rfl, rfl⟩ | ⟨old, hpool, rfl, rfl⟩
  · constructor
    · intro a
      have hold := hholds a
      have honce := h.once a
      simp only [hpool, refsOf_nil, List.count_nil, Nat.add_zero, List.count_singleton] at hold
      split at hold
      · next heq =>
        have hzero := h.fresh a (Nat.le_of_eq (by simpa using heq))
        omega
      · omega
    · intro a ha
      rw [hnext] at ha
      have hold := hholds a
      have hzero := h.fresh a (by omega)
      simp only [hpool, refsOf_nil, List.count_nil, Nat.add_zero, List.count_singleton] at hold
      rw [if_neg (by simp; omega)] at hold
      omega
  · have hsame : ∀ a, s'.holds a = s.holds a := by
      intro a
      have hold := hholds a
      simp only [hpool, refsOf_cons, List.count_cons, List.count_nil] at hold
      omega
    exact h.mono (fun a => Nat.le_of_eq (hsame a)) (Nat.le_of_eq hnext.symm)

/-- What `dp_msg_recycle` puts in the pool is at most the message. -/
theorem count_recycled (pool : List DpMsg) (msg m : DpMsg) (a : Nat) :
    (refsOf (if msg.ctx.isSome then pool else pool ++ [m])).count a ≤
      (refsOf pool).count a + [m.ref].count a := by
  split <;> simp [List.count_append]

variable [Os σ]

theorem Owned.act {s s' : Config σ} (hi : Owned s) (h : Act s s') : Owned s' := by
  cases h with
  | refused hsock hpath hconnect he hreopen =>
    rcases dpUnixSockReopen_ends (by exact hsock) hreopen with ⟨-, sock, os', rfl⟩
    exact hi.mono (fun a => by simp [Config.holds]) (Nat.le_refl _)
  | connected hsock hpath hconnect hok halloc =>
    apply hi.alloc halloc rfl
    intro a
    simp [Config.holds, connectMsg, requestMsg, List.count_cons]
    omega
  | queueRequest hop halloc =>
    apply hi.alloc halloc rfl
    intro a
    simp [Config.holds, requestMsg, List.count_cons]
    omega
  | queueControl hfs halloc =>
    apply hi.alloc halloc rfl
    intro a
    simp [Config.holds, controlMsg, List.count_cons]
    omega
  | @sentRequest w fs o m len os hmay htry hreq =>
    refine hi.mono (fun a => ?_) (Nat.le_refl _)
    cases o <;> simp [Config.holds, List.count_cons] <;> omega
  | @sentOther w fs m len os hmay htry hreq =>
    refine hi.mono (fun a => ?_) (Nat.le_refl _)
    have hpool := count_recycled w.pool m m a
    simp [Config.holds, List.count_cons] at hpool ⊢
    omega
  | @dropConnect w fs m | @recycle w fs m =>
    refine hi.mono (fun a => ?_) (Nat.le_refl _)
    have hpool := count_recycled w.pool m m a
    simp [Config.holds, List.count_cons] at hpool ⊢
    omega
  | popUnsent hq | pushBack =>
    refine hi.mono (fun a => ?_) (Nat.le_refl _)
    simp_all [Config.holds, List.count_cons]
    try omega
  | @mismatched w m rest _ _ _ hq | @answeredOther w m rest _ _ _ hq
  | @purgedOther w m rest _ _ hq =>
    refine hi.mono (fun a => ?_) (Nat.le_refl _)
    have hpool := count_recycled w.pool m m a
    simp [Config.holds, hq, List.count_cons] at hpool ⊢
    omega
  | completed _ hq | purged hq | accepted _ hq | purgeAccepted hq | refusedConnect _ hq
  | purgeRefused hq =>
    refine hi.mono (fun a => ?_) (Nat.le_refl _)
    simp [Config.holds, hq, List.count_cons]
    try omega
  | _ =>
    -- what is left moves no message
    refine hi.mono (fun a => ?_) (Nat.le_refl _)
    simp [Config.holds]

theorem Config.Reachable.owned {s : Config σ} (h : s.Reachable) : Owned s :=
  h.induct (fun _ => Config.Initial.owned) fun _ _ _ hi => hi.act

/-! ### The message cache -/

/-- A request that is no Connect has a context; a Connect and a control message
    have none. -/
def DpMsg.CtxFits (m : DpMsg) : Prop :=
  (m.msg.type = .request → m.msg.isConnect = false → m.ctx.isSome = true) ∧
    (m.msg.isConnect = true ∨ m.msg.type = .control → m.ctx = none)

theorem DpMsg.IsControl.ctxFits {m : DpMsg} (h : m.IsControl) : m.CtxFits := by
  constructor
  · intro hreq
    rw [h.type] at hreq
    cases hreq
  · intro _
    exact h.ctx

theorem DpMsg.IsConnect.ctxFits {m : DpMsg} (h : m.IsConnect) : m.CtxFits := by
  constructor
  · intro _ hno
    rw [h.isConnect] at hno
    cases hno
  · intro _
    exact h.ctx

theorem DpMsg.IsUpdate.ctxFits {m : DpMsg} (h : m.IsUpdate) : m.CtxFits := by
  constructor
  · intro _ _
    rcases h.ctx with ⟨c, hctx⟩
    rw [hctx]
    rfl
  · rintro (hconn | hctl)
    · rw [h.isConnect] at hconn
      cases hconn
    · rw [h.type] at hctl
      cases hctl

/-- At any moment of a run: no message is in two places, be they in the pool, in
    the unsent list, in the in-flight list, or in the hands of a call in progress
    that may put it in a list.  No message of the pool has a context, every
    message in flight is a request, and the messages of the two queues have a
    context where they should.  The assertion of `dp_msg_cache_inflight` does not
    fail. -/
theorem message_cache_invariant {fs : List Frame} {w : World σ} (h : Config.Reachable ⟨fs, w⟩) :
    (refsOf (w.pool ++ w.unsent ++ w.inFlight ++ heldQueued fs ++ heldConnects fs)).Nodup ∧
    (∀ m ∈ w.pool, m.ctx = none) ∧
    (∀ m ∈ w.inFlight, m.msg.type = .request) ∧
    (∀ m, m ∈ w.unsent ∨ m ∈ w.inFlight → m.CtxFits) ∧
    ∀ (n : Nat) (w' : World σ), ¬ Halts (initDplaneRpc n) w .assertFailed w' ∧
      ∀ cb : Callback, ¬ Halts (cb.run n) w .assertFailed w' := by
  have htyped := h.typed
  refine ⟨?_, htyped.pool, fun m hm => (htyped.inFlight m hm).type, ?_, ?_⟩
  · apply List.nodup_iff_count_le_one.mpr
    intro a
    simp only [refsOf_append, List.count_append]
    exact h.owned.once a
  · rintro m (hm | hm)
    · rcases htyped.unsent m hm with hctl | hupd
      · exact hctl.ctxFits
      · exact hupd.ctxFits
    · rcases htyped.inFlight m hm with hconn | hupd
      · exact hconn.ctxFits
      · exact hupd.ctxFits
  · intro n w'
    constructor
    · intro hhalts
      exact initDplaneRpc_faultless n w _ w' hhalts (.inl rfl)
    · intro cb hhalts
      exact callback_faultless n cb w _ w' hhalts (.inl rfl)

theorem message_cache_of_routesWorld :
    routesWorld.pool.length = 998 ∧ routesWorld.inFlight.length = 2 ∧
      (refsOf (routesWorld.pool ++ routesWorld.unsent ++ routesWorld.inFlight ++
        heldQueued [] ++ heldConnects [])).Nodup := by
  have hreach : Reachable routesWorld := played_reachable 3 routesScript _ (by decide +kernel)
  exact ⟨by decide +kernel, by decide +kernel, (message_cache_invariant hreach.config).1⟩

end DplanePlugin
