/-
  DplanePlugin/Finalize.lean
  ==========================
  **Shutdown: what `zd_hh_fini` frees.**

  Zebra calls `zd_hh_fini` without `early` once, when no callback runs any more.
  It closes the socket and deletes every message of the three lists, and with a
  message the context that it still has.  `Teardown` adds to the state of the
  plugin what was freed so far; a double free would be an address in there twice.

  Left out: the buffers but `tx_buff`, whose fields no modelled function reads.
-/
import DplanePlugin.Allotment
import DplanePlugin.Handshake

namespace DplanePlugin

open Lib

variable {σ : Type}

/-- The state while the plugin is finalized: the addresses of the messages freed,
    and the contexts freed. -/
structure Teardown (σ : Type) where
  world : World σ
  freedMsgs : List Nat
  freedCtxs : List CtxRef

@[simps] def Teardown.start (w : World σ) : Teardown σ where
  world := w
  freedMsgs := []
  freedCtxs := []

abbrev Finalizer (σ α : Type) := Prog Halt (Teardown σ) α

/-- A function of the plugin, called while it is finalized. -/
def onWorld {α : Type} (p : Plugin σ α) : Finalizer σ α :=
  onPart Teardown.world (fun w t => { t with world := w }) p

/-- The lists of `struct dp_msg_cache`. -/
inductive CacheList where
  | pool | unsent | inFlight

def CacheList.msgs (w : World σ) : CacheList → List DpMsg
  | .pool => w.pool
  | .unsent => w.unsent
  | .inFlight => w.inFlight

def CacheList.set (w : World σ) (msgs : List DpMsg) : CacheList → World σ
  | .pool => { w with pool := msgs }
  | .unsent => { w with unsent := msgs }
  | .inFlight => { w with inFlight := msgs }

/-- `dp_msg_list_pop`. -/
def dpMsgListPop (list : CacheList) : Finalizer σ (Option DpMsg) := do
  let t ← get
  match list.msgs t.world with
  | [] => return none
  | m :: rest =>
    set { t with world := list.set t.world rest }
    return some m

/-- Free a message, and the context it refers to. -/
def dpMsgDel (msg : DpMsg) : Finalizer σ Unit := do
  match msg.ctx with
  | some c => modify fun t => { t with freedCtxs := t.freedCtxs ++ [c] }
  | none => pure ()
  modify fun t => { t with freedMsgs := t.freedMsgs ++ [msg.ref] }

/-- One round of the loop of `empty_dp_msg_list`; `false` ends the loop. -/
def emptyDpMsgListStep (list : CacheList) : Finalizer σ Bool := do
  let popped ← dpMsgListPop list
  match popped with
  | none => return false
  | some m =>
    dpMsgDel m
    return true

/-- Empty a list. Every round that goes on takes a message from it. -/
def emptyDpMsgList (list : CacheList) : Finalizer σ Unit := do
  let t ← get
  loop .outOfFuel ((list.msgs t.world).length + 1) (emptyDpMsgListStep list)

/-- Finalize the message cache. -/
def finiDpMsgCache : Finalizer σ Unit := do
  emptyDpMsgList .pool
  emptyDpMsgList .unsent
  emptyDpMsgList .inFlight

variable [Os σ]

/-- Finalize RPC to the dataplane. -/
def finiDplaneRpc : Finalizer σ Unit := do
  onWorld dpUnixSockClose
  onWorld (modify fun w => { w with txBuff := none })
  finiDpMsgCache

/-- Shutdown callback. -/
def zdHhFini (early : Bool) : Finalizer σ Unit :=
  if early then onWorld zdHhFiniEarly else finiDplaneRpc

/-! ### Emptying a list -/

omit [Os σ] in
theorem dpMsgDel_ran (m : DpMsg) (t : Teardown σ) :
    Ran (dpMsgDel m) t () { t with
      freedMsgs := t.freedMsgs ++ [m.ref], freedCtxs := t.freedCtxs ++ m.ctx.toList } := by
  cases hctx : m.ctx <;> simp [Ran, dpMsgDel, hctx]

/-- The state after a list was emptied. -/
def Teardown.emptied (t : Teardown σ) (list : CacheList) : Teardown σ where
  world := list.set t.world []
  freedMsgs := t.freedMsgs ++ refsOf (list.msgs t.world)
  freedCtxs := t.freedCtxs ++ ctxsOf (list.msgs t.world)

omit [Os σ] in
theorem CacheList.msgs_set (w : World σ) (msgs : List DpMsg) (list : CacheList) :
    list.msgs (list.set w msgs) = msgs := by
  cases list <;> simp [CacheList.msgs, CacheList.set]

omit [Os σ] in
theorem CacheList.set_set (w : World σ) (msgs msgs' : List DpMsg) (list : CacheList) :
    list.set (list.set w msgs) msgs' = list.set w msgs' := by
  cases list <;> simp [CacheList.set]

omit [Os σ] in
theorem CacheList.set_msgs {w : World σ} {list : CacheList} {msgs : List DpMsg}
    (h : list.msgs w = msgs) : list.set w msgs = w := by
  subst h
  cases list <;> simp [CacheList.msgs, CacheList.set]

omit [Os σ] in
theorem emptyDpMsgListStep_ran {list : CacheList} {t : Teardown σ} {m : DpMsg} {rest : List DpMsg}
    (h : list.msgs t.world = m :: rest) :
    Ran (emptyDpMsgListStep list) t true
      { world := list.set t.world rest, freedMsgs := t.freedMsgs ++ [m.ref],
        freedCtxs := t.freedCtxs ++ m.ctx.toList } := by
  have hpop : Ran (dpMsgListPop list) t (some m) { t with world := list.set t.world rest } := by
    simp [Ran, dpMsgListPop, h]
  have hdel := dpMsgDel_ran m { t with world := list.set t.world rest }
  rw [emptyDpMsgListStep, Ran, hpop.ends_bind, hdel.ends_bind]
  exact ran_pure _ _

omit [Os σ] in
/-- The loop frees every message of the list, from its head on. -/
theorem emptyDpMsgList_ran (list : CacheList) (t : Teardown σ) :
    Ran (emptyDpMsgList list) t () (t.emptied list) := by
  rw [emptyDpMsgList, Ran, ends_get_bind]
  generalize hmsgs : list.msgs t.world = msgs
  induction msgs generalizing t with
  | nil =>
    have hpop : Ran (dpMsgListPop list) t none t := by simp [Ran, dpMsgListPop, hmsgs]
    have hstep : Ran (emptyDpMsgListStep list) t false t := by
      rw [emptyDpMsgListStep, Ran, hpop.ends_bind]
      exact ran_pure _ _
    have hsame : t.emptied list = t := by
      simp [Teardown.emptied, hmsgs, CacheList.set_msgs hmsgs, ctxsOf]
    rw [List.length_nil, loop, hstep.ends_bind, hsame]
    simp
  | cons m rest ih =>
    have hlast := ih ⟨list.set t.world rest, t.freedMsgs ++ [m.ref],
      t.freedCtxs ++ m.ctx.toList⟩ (CacheList.msgs_set t.world rest list)
    have hsame : Teardown.emptied ⟨list.set t.world rest, t.freedMsgs ++ [m.ref],
        t.freedCtxs ++ m.ctx.toList⟩ list = t.emptied list := by
      simp [Teardown.emptied, hmsgs, CacheList.msgs_set, CacheList.set_set, ctxsOf,
        filterMap_cons_toList]
    rw [hsame] at hlast
    rw [List.length_cons, loop, (emptyDpMsgListStep_ran hmsgs).ends_bind]
    simpa using hlast

/-- The state after the message cache was finalized. -/
@[simps] def Teardown.cacheFreed (t : Teardown σ) : Teardown σ where
  world := { t.world with pool := [], unsent := [], inFlight := [] }
  freedMsgs := t.freedMsgs ++ refsOf (t.world.pool ++ t.world.unsent ++ t.world.inFlight)
  freedCtxs := t.freedCtxs ++ ctxsOf (t.world.pool ++ t.world.unsent ++ t.world.inFlight)

omit [Os σ] in
theorem finiDpMsgCache_ran (t : Teardown σ) : Ran finiDpMsgCache t () t.cacheFreed := by
  rw [finiDpMsgCache, Ran, (emptyDpMsgList_ran _ _).ends_bind, (emptyDpMsgList_ran _ _).ends_bind]
  have hlast := emptyDpMsgList_ran .inFlight ((t.emptied .pool).emptied .unsent)
  simpa [Ran, Teardown.emptied, Teardown.cacheFreed, CacheList.msgs, CacheList.set, ctxsOf]
    using hlast

/-! ### Shutdown -/

/-- The state after the socket was closed. -/
@[simps] def World.shut (w : World σ) (os : σ) : World σ :=
  { w with os := os, dpSock := noSock, dpSockConnected := false, dplaneIsReady := false }

/-- Closing the socket leaves none, whatever there was. -/
theorem dpUnixSockClose_ran {w : World σ} (hclosed : w.dpSock = noSock →
    w.dpSockConnected = false ∧ w.dplaneIsReady = false) :
    ∃ os, Ran dpUnixSockClose w () (w.shut os) := by
  by_cases hsock : w.dpSock = noSock
  · rcases hclosed hsock with ⟨hconn, hready⟩
    have hsame (os : σ) : w.shut os = { w with os := os } := by
      simp [World.shut, hsock, hconn, hready]
    refine ⟨Os.unlink w.pluginSockPath w.os, ?_⟩
    simp [Ran, dpUnixSockClose, hsame, hsock]
  · refine ⟨Os.unlink w.pluginSockPath (Os.close w.dpSock w.os), ?_⟩
    simp [Ran, dpUnixSockClose, dplaneSetReady, World.shut, hsock]

theorem finiDplaneRpc_ran {w : World σ} (hclosed : w.dpSock = noSock →
    w.dpSockConnected = false ∧ w.dplaneIsReady = false) :
    ∃ os, Ran finiDplaneRpc (Teardown.start w) ()
      (Teardown.start { w.shut os with txBuff := none }).cacheFreed := by
  rcases dpUnixSockClose_ran hclosed with ⟨os, hclose⟩
  have hsock : Ran (onWorld dpUnixSockClose) (Teardown.start w) () (Teardown.start (w.shut os)) :=
    (ends_onPart _ _ _ _ _ _).mpr ⟨_, hclose, rfl⟩
  have hbuff : Ran (onWorld (modify fun w => { w with txBuff := none }))
      (Teardown.start (w.shut os)) () (Teardown.start { w.shut os with txBuff := none }) :=
    (ends_onPart _ _ _ _ _ _).mpr ⟨_, ran_modify _ _, rfl⟩
  refine ⟨os, ?_⟩
  rw [finiDplaneRpc, Ran, hsock.ends_bind, hbuff.ends_bind]
  exact finiDpMsgCache_ran _

theorem Reachable.disconnected {w : World σ} (h : Reachable w) (hsock : w.dpSock = noSock) :
    w.dpSockConnected = false ∧ w.dplaneIsReady = false := by
  have hconn : w.dpSockConnected = false := by
    by_contra hyes
    exact h.handshake.sock (by simpa using hyes) hsock
  exact ⟨hconn, h.handshake.not_ready hconn⟩

/-- Between two callbacks the lists and the refusals are all there is. -/
theorem Reachable.refs_perm {w : World σ} (h : Reachable w) :
    (refsOf (w.pool ++ w.unsent ++ w.inFlight) ++ refsOf (refusedMsgs w.log)).Perm
      (List.range w.nextRef) := by
  apply List.perm_iff_count.mpr
  intro a
  have hone := h.config.allotted (by simp) a
  rw [List.count_range, ← hone]
  simp [Config.accounts, Config.holds, Nat.add_assoc]

theorem Reachable.ctxsOf_pool {w : World σ} (h : Reachable w) : ctxsOf w.pool = [] := by
  rw [ctxsOf, List.filterMap_eq_nil_iff]
  exact h.config.typed.pool

/-- Shutdown, after any run: it returns, with the three lists empty, without a
    socket, and neither connected nor ready.  Every address that a message was
    ever allocated at is freed exactly once, or is that of a message that
    `dp_msg_recycle` refused; every context that was ever dequeued is freed
    exactly once, or was given back to zebra, or was refused.  All that was
    allocated is freed if and only if every response that ever came either
    reported a restart, or matched the oldest request in flight, or found a
    request without a context there. -/
theorem fini_frees {w : World σ} (h : Reachable w) :
    ∃ t, Ran (zdHhFini false) (Teardown.start w) () t ∧
      (t.world.pool = [] ∧ t.world.unsent = [] ∧ t.world.inFlight = [] ∧
        t.world.txBuff = none ∧ t.world.dpSock = noSock ∧ t.world.dpSockConnected = false ∧
        t.world.dplaneIsReady = false) ∧
      (t.freedMsgs ++ refsOf (refusedMsgs w.log)).Perm (List.range w.nextRef) ∧
      (dequeuedCtxs w.log).Perm (t.freedCtxs ++ outCtxs w.log ++ refusedCtxs w.log) ∧
      (t.freedMsgs.Perm (List.range w.nextRef) ↔
        ∀ e ∈ w.log, ∀ resp, e.obs = .response resp → ∀ m rest c, e.view.inFlight = m :: rest →
          m.ctx = some c → reportsRestart resp e.view.synt = true ∨
            gotExpectedResponse resp m.msg.request = true) := by
  rcases finiDplaneRpc_ran h.disconnected with ⟨os, hran⟩
  have hrefs := h.refs_perm
  have hctxs := h.dequeued_perm
  refine ⟨_, hran, ⟨rfl, rfl, rfl, rfl, rfl, rfl, rfl⟩, hrefs, ?_, ?_⟩
  · simpa [ctxsOf_append, h.ctxsOf_pool] using hctxs
  · simp only [← lostCtx_eq_none_iff]
    rw [← slips_eq_nil_iff, h.slips_eq, ← refusedMsgs_eq_nil_iff]
    constructor
    · intro hfreed
      have hlength := hrefs.length_eq.trans hfreed.length_eq.symm
      rw [List.length_append, Teardown.cacheFreed_freedMsgs, Teardown.start_freedMsgs,
        List.nil_append] at hlength
      exact List.map_eq_nil_iff.mp (List.length_eq_zero_iff.mp (Nat.add_eq_left.mp hlength))
    · intro hnone
      simpa [hnone] using hrefs

/-- Of three routes the first is lost, the second is in flight, and the third was
    not sent. -/
def endedWorld : World Script :=
  played 3 { Script.plain with
      sends := [.octets 64, .octets 64, .octets 64, .error .eagain],
      recvs := [accept 7, .error .eagain, answer .add 99 .ok none] }
    [.recv, .process 3 [routeCtx 1, routeCtx 2, routeCtx 3], .recv]

theorem fini_frees_in_endedWorld :
    refsOf (refusedMsgs endedWorld.log) = [1] ∧ refusedCtxs endedWorld.log = [1] ∧
      ∃ t, Ran (zdHhFini false) (Teardown.start endedWorld) () t ∧
        (t.freedMsgs ++ [1]).Perm (List.range endedWorld.nextRef) ∧
        (dequeuedCtxs endedWorld.log).Perm (t.freedCtxs ++ outCtxs endedWorld.log ++ [1]) := by
  have hreach : Reachable endedWorld := played_reachable _ _ _ (by decide +kernel)
  have hmsgs : refsOf (refusedMsgs endedWorld.log) = [1] := by decide +kernel
  have hctxs : refusedCtxs endedWorld.log = [1] := by decide +kernel
  rcases fini_frees hreach with ⟨t, hran, -, hfreed, hgiven, -⟩
  rw [hmsgs] at hfreed
  rw [hctxs] at hgiven
  exact ⟨hmsgs, hctxs, t, hran, hfreed, hgiven⟩

end DplanePlugin
