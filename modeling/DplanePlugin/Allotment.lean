/-
  DplanePlugin/Allotment.lean
  ===========================
  **Every message that was allocated is accounted for.**

  `Ownership.lean` shows that no message is in two places.  Here the other half:
  none disappears, but for those that `dp_msg_recycle` refused.  The only other
  way to drop one is `abort()`, called with a Connect in hand that is in no list
  any more; no action comes after it.
-/
import DplanePlugin.Contexts
import DplanePlugin.Ownership

namespace DplanePlugin

open Lib

variable {σ : Type}

/-! ### The messages that were refused -/

@[simp] def Obs.refusedMsg : Obs → Option DpMsg
  | .recycleRefused m _ => some m
  | _ => none

/-- The messages that `dp_msg_recycle` refused. -/
def refusedMsgs (log : List Entry) : List DpMsg := log.filterMap (·.obs.refusedMsg)

section Refused
variable (log log' : List Entry) (e : Entry)

@[simp] theorem refusedMsgs_nil : refusedMsgs [] = [] := rfl
@[simp] theorem refusedMsgs_cons :
    refusedMsgs (e :: log) = e.obs.refusedMsg.toList ++ refusedMsgs log :=
  filterMap_cons_toList _ _ _
@[simp] theorem refusedMsgs_append :
    refusedMsgs (log ++ log') = refusedMsgs log ++ refusedMsgs log' :=
  List.filterMap_append

end Refused

theorem refusedMsgs_eq_nil_iff (log : List Entry) : refusedMsgs log = [] ↔ refusedCtxs log = [] := by
  rw [refusedMsgs, refusedCtxs, List.filterMap_eq_nil_iff, List.filterMap_eq_nil_iff]
  apply forall₂_congr
  intro e he
  cases e.obs <;> simp

/-- Recycling puts a message in the pool, or refuses it. -/
theorem count_recycle (w : World σ) (msg m : DpMsg) (href : m.ref = msg.ref) (a : Nat) :
    (refsOf (if msg.ctx.isSome then w.pool else w.pool ++ [m])).count a +
        (refsOf (refusedMsgs (w.refusal msg))).count a =
      (refsOf w.pool).count a + [msg.ref].count a := by
  cases hctx : msg.ctx with
  | none => simp [World.refusal, hctx, href]
  | some c => simp [World.refusal, hctx]

/-! ### The invariant -/

/-- How often the address `a` is held, or was refused. -/
def Config.accounts (s : Config σ) (a : Nat) : Nat :=
  s.holds a + (refsOf (refusedMsgs s.world.log)).count a

/-- Before an abort, every address that was allocated is accounted for once, and
    no other address is. -/
def Allotted (s : Config σ) : Prop :=
  .aborted ∉ s.frames → ∀ a, s.accounts a = if a < s.world.nextRef then 1 else 0

theorem Config.Initial.allotted {s : Config σ} (h : s.Initial) : Allotted s := by
  rcases h with ⟨_, _, os₀, os, sock, -, rfl⟩
  intro _ a
  simp [Config.accounts, Config.holds, World.start, count_initialPool]

theorem Allotted.same {s s' : Config σ} (h : Allotted s)
    (hframes : .aborted ∈ s.frames → .aborted ∈ s'.frames)
    (haccounts : ∀ a, s'.accounts a = s.accounts a)
    (hnext : s'.world.nextRef = s.world.nextRef) : Allotted s' := by
  intro hno a
  rw [haccounts, hnext]
  exact h (fun hyes => hno (hframes hyes)) a

/-- A message is taken from the pool, or gets the next address. -/
theorem Allotted.alloc {s s' : Config σ} (h : Allotted s) {ref next : Nat} {pool : List DpMsg}
    (hframes : .aborted ∈ s.frames → .aborted ∈ s'.frames)
    (halloc : s.world.Allocates ref pool next) (hnext : s'.world.nextRef = next)
    (haccounts : ∀ a, s'.accounts a + (refsOf s.world.pool).count a =
      s.accounts a + (refsOf pool).count a + [ref].count a) : Allotted s' := by
  intro hno a
  have hone := h (fun hyes => hno (hframes hyes)) a
  have hnew := haccounts a
  rw [hnext]
  rcases halloc with ⟨hpool, rfl, rfl, rfl⟩ | ⟨old, hpool, rfl, rfl⟩
  · simp only [hpool, refsOf_nil, List.count_nil, Nat.add_zero, List.count_singleton,
      beq_iff_eq] at hnew
    rw [hnew, hone]
    split_ifs <;> omega
  · simp only [hpool, refsOf_cons, List.count_cons, List.count_nil] at hnew
    omega

variable [Os σ]

theorem Allotted.act {s s' : Config σ} (hi : Allotted s) (h : Act s s') : Allotted s' := by
  cases h with
  | refused hsock hpath hconnect he hreopen =>
    rcases dpUnixSockReopen_ends (by exact hsock) hreopen with ⟨-, sock, os', rfl⟩
    exact hi.same (by simp) (by simp [Config.accounts, Config.holds]) rfl
  | connected hsock hpath hconnect hok halloc =>
    apply hi.alloc (by simp) halloc rfl
    intro a
    simp [Config.accounts, Config.holds, connectMsg, requestMsg, List.count_cons]
    omega
  | queueRequest hop halloc =>
    apply hi.alloc (by simp) halloc rfl
    intro a
    simp [Config.accounts, Config.holds, requestMsg, List.count_cons]
    omega
  | queueControl hfs halloc =>
    apply hi.alloc (by simp) halloc rfl
    intro a
    simp [Config.accounts, Config.holds, controlMsg, List.count_cons]
    omega
  | @sentRequest w fs o m len os hmay htry hreq =>
    refine hi.same (by simp) (fun a => ?_) rfl
    cases o <;> simp [Config.accounts, Config.holds, List.count_cons] <;> omega
  | @sentOther w fs m len os hmay htry hreq =>
    refine hi.same (by simp) (fun a => ?_) rfl
    have hpool := count_recycle ((w.sendTried os m len (.octets len)).sentOther m) m m rfl a
    simp [Config.accounts, Config.holds, List.count_cons] at hpool ⊢
    omega
  | @dropConnect w fs m | @recycle w fs m =>
    refine hi.same (by simp) (fun a => ?_) rfl
    have hpool := count_recycle w m m rfl a
    simp [Config.accounts, Config.holds, List.count_cons] at hpool ⊢
    omega
  | popUnsent hq | pushBack =>
    refine hi.same (by simp) (fun a => ?_) rfl
    simp_all [Config.accounts, Config.holds, List.count_cons]
    try omega
  | @mismatched w m rest _ _ _ hq =>
    refine hi.same (by simp) (fun a => ?_) rfl
    have hpool := count_recycle (w.popFlight m rest) m m rfl a
    simp [Config.accounts, Config.holds, hq, List.count_cons] at hpool ⊢
    omega
  | @answeredOther w m rest resp _ _ hq =>
    refine hi.same (by simp) (fun a => ?_) rfl
    have hpool := count_recycle ((w.popFlight m rest).replied m resp.rescode) m m rfl a
    simp [Config.accounts, Config.holds, hq, List.count_cons] at hpool ⊢
    omega
  | @purgedOther w m rest resp _ hq =>
    refine hi.same (by simp) (fun a => ?_) rfl
    have hpool := count_recycle ((w.popFlight m rest).replied m .ok) m m rfl a
    simp [Config.accounts, Config.holds, hq, List.count_cons] at hpool ⊢
    omega
  | completed _ hq | purged hq | accepted _ hq | purgeAccepted hq =>
    refine hi.same (by simp) (fun a => ?_) rfl
    simp [Config.accounts, Config.holds, World.refusal, hq, List.count_cons]
    try omega
  | refusedConnect | purgeRefused =>
    -- the Connect is in no place any more, and the plugin aborts
    intro hno
    exact absurd List.mem_cons_self hno
  | _ =>
    -- what is left moves no message
    refine hi.same (by simp) (fun a => ?_) rfl
    simp [Config.accounts, Config.holds]

theorem Config.Reachable.allotted {s : Config σ} (h : s.Reachable) : Allotted s :=
  h.induct (fun _ => Config.Initial.allotted) fun _ _ _ hi => hi.act

/-! ### Every message -/

/-- At any moment of a run in which the plugin has not called `abort()`, every
    address that a message was ever allocated at is that of exactly one message: of
    the pool, of the unsent list, of the in-flight list, in the hands of a call in
    progress, or refused by `dp_msg_recycle`. -/
theorem messages_accounted_for {fs : List Frame} {w : World σ} (h : Config.Reachable ⟨fs, w⟩)
    (hrunning : .aborted ∉ fs) :
    (refsOf (w.pool ++ w.unsent ++ w.inFlight ++ heldQueued fs ++ heldConnects fs ++
      refusedMsgs w.log)).Perm (List.range w.nextRef) := by
  apply List.perm_iff_count.mpr
  intro a
  have hone := h.allotted hrunning a
  rw [List.count_range, ← hone]
  simp only [refsOf_append, List.count_append]
  rfl

/-- The route whose context was lost takes its message along. -/
theorem accounted_in_lostWorld :
    lostWorld.pool.length = 999 ∧ refsOf (refusedMsgs lostWorld.log) = [1] ∧
      (refsOf (lostWorld.pool ++ lostWorld.unsent ++ lostWorld.inFlight ++ heldQueued [] ++
        heldConnects [] ++ refusedMsgs lostWorld.log)).Perm (List.range lostWorld.nextRef) := by
  have hreach : Reachable lostWorld := played_reachable _ _ _ (by decide +kernel)
  exact ⟨by decide +kernel, by decide +kernel,
    messages_accounted_for hreach.config List.not_mem_nil⟩

end DplanePlugin
