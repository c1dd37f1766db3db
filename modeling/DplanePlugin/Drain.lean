/-
  DplanePlugin/Drain.lean
  =======================
  **The drain of the unsent list.**

  `send_pending_rpc_msgs` takes messages from the head of the list until one is
  not sent, and puts that one back.  A comment of the source asks whether a
  Connect can be in the list, since otherwise readiness could be tested before a
  message is taken.  None can, and the two drains end in the same state.

  A message that can never be sent, because it does not encode or is too long
  for the socket, is put back like any other, and nothing behind it is sent.
-/
import DplanePlugin.Handling
import Mathlib.Data.List.TakeWhile

namespace DplanePlugin

open Lib

variable {σ : Type} [Os σ]

/-! ### What one call of `do_send_rpc_msg` does -/

section Send
variable {R : Plugin σ Unit} {m : DpMsg} {w : World σ}

theorem doSendRpcMsg_notSent (hmay : ¬ w.MaySend m) : Ran (doSendRpcMsg R m) w (-1) w := by
  rw [Ran, doSendRpcMsg, ends_get_bind]
  by_cases hbuf : w.txBuff.isNone = true
  · rw [if_pos hbuf]
    exact (ends_pure _ _ _ _).mpr ⟨rfl, rfl⟩
  · have hcan : (m.msg.isConnect || w.dplaneIsReady) = false := by
      rw [← Bool.not_eq_true, Bool.or_eq_true]
      intro hcan
      rw [Option.isNone_iff_eq_none] at hbuf
      exact hmay ⟨Option.isSome_iff_ne_none.mpr hbuf, hcan⟩
    rw [if_neg hbuf, (canSendRpcRequest_ran _ _).ends_bind, if_pos hcan]
    exact (ends_pure _ _ _ _).mpr ⟨rfl, rfl⟩

omit [Os σ] in
/-- The two tests before the message is encoded. -/
theorem World.MaySend.tests (hmay : w.MaySend m) :
    ¬ w.txBuff.isNone = true ∧ ¬ (m.msg.isConnect || w.dplaneIsReady) = false := by
  constructor
  · rw [Option.isNone_iff_eq_none]
    exact Option.isSome_iff_ne_none.mp hmay.1
  · rw [Bool.not_eq_false, Bool.or_eq_true]
    exact hmay.2

theorem doSendRpcMsg_encodeFailed {os : σ} (hmay : w.MaySend m)
    (henc : Os.encodeMsg m.msg w.os = (none, os)) :
    Ran (doSendRpcMsg R m) w (-1) ((w.encodeTried os m).count .encodeFailure) := by
  rcases hmay.tests with ⟨hbuf, hcan⟩
  rw [Ran, doSendRpcMsg, ends_get_bind, if_neg hbuf, (canSendRpcRequest_ran _ _).ends_bind,
    if_neg hcan, (encodeMsg_ran m w henc).ends_bind]
  simp only [rpcCountEncodeFailure, ends_count_bind, ends_pure]
  exact ⟨trivial, rfl⟩

/-- `send()` was called, and failed. -/
theorem doSendRpcMsg_error {len : Nat} {e : Errno} {os : σ} (hmay : w.MaySend m)
    (htry : w.Attempts m len (.error e) os) (r : Except Halt Int) (w' : World σ) :
    Ends (doSendRpcMsg R m) w r w' ↔
      Ends (doSendRpcMsgError R e) (w.sendTried os m len (.error e)) r w' := by
  rcases htry with ⟨henc, hsend⟩
  rcases hmay.tests with ⟨hbuf, hcan⟩
  have henc' : Os.encodeMsg m.msg w.os = (some len, (Os.encodeMsg m.msg w.os).2) := by
    rw [← henc]
  rw [doSendRpcMsg, ends_get_bind, if_neg hbuf, (canSendRpcRequest_ran _ _).ends_bind,
    if_neg hcan, (encodeMsg_ran m w henc').ends_bind]
  dsimp only
  rw [(osSend_ran m len _ hsend).ends_bind]
  exact Iff.rfl

/-- A connection error, when no reconnect is scheduled: reconnect. -/
theorem doSendRpcMsg_disconnected {len : Nat} {e : Errno} {os : σ} (hmay : w.MaySend m)
    (htry : w.Attempts m len (.error e) os) (he : e.isDisconnect = true)
    (htimer : w.evConnectTimer = false) (r : Except Halt Int) (w' : World σ) :
    Ends (doSendRpcMsg R m) w r w' ↔
      Ends (R >>= fun _ => pure (-1))
        ((w.sendTried os m len (.error e)).count (·.txError e)).disconnected r w' := by
  have hb : ¬ e.isBlocked = true := by
    intro hb
    rw [isDisconnect_of_blocked hb] at he
    cases he
  rw [doSendRpcMsg_error hmay htry]
  simp only [doSendRpcMsgError, rpcCountTxError, ends_count_bind, if_neg hb, if_pos he,
    dplaneSetReady, ends_modify_bind, ends_get_bind]
  rw [if_pos (by exact htimer)]
  rfl

/-- Any other failure of `send()` returns -1 and leaves the queues alone. -/
theorem doSendRpcMsg_failed {len : Nat} {e : Errno} {os : σ} (hmay : w.MaySend m)
    (htry : w.Attempts m len (.error e) os)
    (he : e.isDisconnect = true → w.evConnectTimer = true) :
    ∃ w', Ran (doSendRpcMsg R m) w (-1) w' ∧ w'.unsent = w.unsent ∧
      sentMsgs w'.log = sentMsgs w.log := by
  by_cases hb : e.isBlocked = true
  · refine ⟨((w.sendTried os m len (.error e)).count (·.txError e)).wakeon, ?_, rfl, by simp⟩
    rw [Ran, doSendRpcMsg_error hmay htry, doSendRpcMsgError, rpcCountTxError, ends_count_bind,
      if_pos hb, ends_wakeonDpWriteAvail_bind]
    exact (ends_pure _ _ _ _).mpr ⟨rfl, rfl⟩
  by_cases hd : e.isDisconnect = true
  · have htimer : ¬ w.evConnectTimer = false := by
      rw [he hd]
      exact Bool.noConfusion
    refine ⟨((w.sendTried os m len (.error e)).count (·.txError e)).disconnected, ?_, rfl,
      by simp⟩
    rw [Ran, doSendRpcMsg_error hmay htry, doSendRpcMsgError, rpcCountTxError, ends_count_bind,
      if_neg hb, if_pos hd]
    simp only [dplaneSetReady, ends_modify_bind, ends_get_bind]
    rw [if_neg (by exact htimer)]
    exact (ends_pure _ _ _ _).mpr ⟨rfl, rfl⟩
  · refine ⟨(w.sendTried os m len (.error e)).count (·.txError e), ?_, rfl, by simp⟩
    rw [Ran, doSendRpcMsg_error hmay htry, doSendRpcMsgError, rpcCountTxError, ends_count_bind,
      if_neg hb, if_neg hd]
    exact (ends_pure _ _ _ _).mpr ⟨rfl, rfl⟩

end Send

/-! ### What one round of the drain does -/

section Round
variable {R : Plugin σ Unit} {m : DpMsg} {rest : List DpMsg} {w : World σ}

theorem sendPendingStep_cons (hq : w.unsent = m :: rest) (r : Except Halt Bool) (w' : World σ) :
    Ends (sendPendingStep R) w r w' ↔
      Ends (doSendRpcMsg R m >>= fun a =>
        if a = 0 then
          if m.msg.type = .request then do
            rpcCountRequestSent m.msg.request.op m.msg.request.object.type
            dpMsgCacheInflight m
            return true
          else if m.msg.type = .control then do
            rpcCountCtlTx
            dpMsgRecycle m
            return true
          else do
            dpMsgRecycle m
            return true
        else do
          dpMsgUnsentPushBack m
          return false) { w with unsent := rest } r w' := by
  have hpop : Ran dpMsgPopUnsent w (some m) { w with unsent := rest } :=
    (ends_dpMsgPopUnsent _ _ _).mpr (.inr ⟨m, rest, hq, rfl, rfl⟩)
  rw [sendPendingStep, hpop.ends_bind]

/-- A message that was not sent is put back, and the drain ends. -/
theorem sendPendingStep_putBack {w₁ : World σ} (hq : w.unsent = m :: rest)
    (hsend : Ran (doSendRpcMsg R m) { w with unsent := rest } (-1) w₁) :
    Ran (sendPendingStep R) w false { w₁ with unsent := m :: w₁.unsent } := by
  rw [Ran, sendPendingStep_cons hq, hsend.ends_bind, if_neg (by decide), dpMsgUnsentPushBack,
    ends_modify_bind]
  exact (ends_pure _ _ _ _).mpr ⟨rfl, rfl⟩

/-- After `m`, taken from the unsent list, was encoded in `len` octets and sent. -/
def World.sentPending (w : World σ) (os : σ) (m : DpMsg) (len : Nat) : World σ :=
  if m.msg.type = .request then (w.sendTried os m len (.octets len)).putInFlight m
  else ((w.sendTried os m len (.octets len)).sentOther m).recycle m

theorem sendPendingStep_sent {len : Nat} {os : σ} (hq : w.unsent = m :: rest)
    (hmay : World.MaySend { w with unsent := rest } m)
    (htry : World.Attempts { w with unsent := rest } m len (.octets len) os) :
    Ran (sendPendingStep R) w true (World.sentPending { w with unsent := rest } os m len) := by
  by_cases hreq : m.msg.type = .request
  · rw [World.sentPending, if_pos hreq]
    exact sendPendingStep_ran hq hreq hmay htry
  · have hsends : World.Sends { w with unsent := rest } m _ := ⟨len, os, hmay, htry, rfl⟩
    rw [World.sentPending, if_neg hreq, Ran, sendPendingStep_cons hq, hsends.ran.ends_bind,
      if_pos rfl, if_neg hreq]
    by_cases hctl : m.msg.type = .control
    · rw [if_pos hctl, rpcCountCtlTx, ends_count_bind, ends_dpMsgRecycle_bind, World.sentOther,
        if_pos hctl]
      exact (ends_pure _ _ _ _).mpr ⟨rfl, rfl⟩
    · rw [if_neg hctl, ends_dpMsgRecycle_bind, World.sentOther, if_neg hctl]
      exact (ends_pure _ _ _ _).mpr ⟨rfl, rfl⟩

end Round

section SentPending
omit [Os σ]
variable (w : World σ) (os : σ) (m : DpMsg) (len : Nat)

@[simp] theorem sentPending_unsent : (w.sentPending os m len).unsent = w.unsent := by
  unfold World.sentPending
  split <;> rfl
@[simp] theorem sentPending_os : (w.sentPending os m len).os = os := by
  unfold World.sentPending
  split <;> rfl
@[simp] theorem sentPending_dpSock : (w.sentPending os m len).dpSock = w.dpSock := by
  unfold World.sentPending
  split <;> rfl
@[simp] theorem sentPending_dpSockPath : (w.sentPending os m len).dpSockPath = w.dpSockPath := by
  unfold World.sentPending
  split <;> rfl
@[simp] theorem sentPending_dplaneIsReady :
    (w.sentPending os m len).dplaneIsReady = w.dplaneIsReady := by
  unfold World.sentPending
  split <;> rfl
@[simp] theorem sentPending_evConnectTimer :
    (w.sentPending os m len).evConnectTimer = w.evConnectTimer := by
  unfold World.sentPending
  split <;> rfl
@[simp] theorem sentPending_synt : (w.sentPending os m len).synt = w.synt := by
  unfold World.sentPending
  split <;> rfl
@[simp] theorem sentPending_txBuff : (w.sentPending os m len).txBuff = some len := by
  unfold World.sentPending
  split <;> rfl
@[simp] theorem sentMsgs_sentPending :
    sentMsgs (w.sentPending os m len).log = sentMsgs w.log ++ [m] := by
  unfold World.sentPending
  split <;> simp

end SentPending

/-- A round that goes on took one message from the list. -/
theorem sendPendingStep_goes_on {R : Plugin σ Unit} (hR : Reconnects R) {w w' : World σ}
    (h : Ran (sendPendingStep R) w true w') : ∃ m, w.unsent = m :: w'.unsent := by
  cases hq : w.unsent with
  | nil => exact nomatch (h.unique (sendPendingStep_ran_nil hq)).1
  | cons m rest =>
    have hcons := (sendPendingStep_cons hq _ _).mp h
    rcases (ran_bind _ _ _ _ _).mp hcons with ⟨a, w₁, hsend, -⟩
    rcases doSendRpcMsg_refines hR .unsent [] hsend with ⟨-, len, os, hmay, htry, -⟩ | ⟨ha, -⟩
    · rcases h.unique (sendPendingStep_sent hq hmay htry) with ⟨-, rfl⟩
      exact ⟨m, by simp⟩
    · rw [ha a rfl] at hsend
      exact nomatch (h.unique (sendPendingStep_putBack hq hsend)).1

/-! ### Readiness may be tested first -/

/-- One round of the drain that the comment of `send_pending_rpc_msgs` suggests. -/
def sendPendingReadyStep (reconnect : Plugin σ Unit) : Plugin σ Bool := do
  let w ← get
  if w.dplaneIsReady = false then return false
  else sendPendingStep reconnect

/-- The drain that tests readiness before it takes a message. -/
def sendPendingReadyMsgs (reconnect : Plugin σ Unit) : Plugin σ Unit := do
  let w ← get
  loop .outOfFuel (w.unsent.length + 1) (sendPendingReadyStep reconnect)

/-- No Connect is waiting to be sent. -/
def World.NoPendingConnect (w : World σ) : Prop := ∀ m ∈ w.unsent, m.msg.isConnect = false

theorem sendPendingStep_iff_readyStep {R : Plugin σ Unit} {w : World σ} (hw : w.NoPendingConnect)
    (r : Except Halt Bool) (w' : World σ) :
    Ends (sendPendingStep R) w r w' ↔ Ends (sendPendingReadyStep R) w r w' := by
  rw [sendPendingReadyStep, ends_get_bind]
  by_cases hready : w.dplaneIsReady = false
  · have hboth : Ran (sendPendingStep R) w false w := by
      cases hq : w.unsent with
      | nil => exact sendPendingStep_ran_nil hq
      | cons m rest =>
        have hmay : ¬ World.MaySend { w with unsent := rest } m := by
          rintro ⟨-, hconn | hup⟩
          · rw [hw m (hq ▸ List.mem_cons_self)] at hconn
            cases hconn
          · exact Bool.false_ne_true (hready.symm.trans hup)
        have hback := sendPendingStep_putBack hq (doSendRpcMsg_notSent (R := R) hmay)
        rwa [← hq] at hback
    rw [if_pos hready, ends_pure]
    constructor
    · intro h
      rcases h.unique hboth with ⟨rfl, rfl⟩
      exact ⟨rfl, rfl⟩
    · rintro ⟨rfl, rfl⟩
      exact hboth
  · rw [if_neg hready]

theorem World.NoPendingConnect.round {R : Plugin σ Unit} (hR : Reconnects R) {w w' : World σ}
    (hw : w.NoPendingConnect) (h : Ran (sendPendingStep R) w true w') : w'.NoPendingConnect := by
  rcases sendPendingStep_goes_on hR h with ⟨m, hq⟩
  intro m' hm'
  exact hw m' (hq ▸ List.mem_cons_of_mem m hm')

/-- At any moment of a run, no Connect is in the unsent list, and the drain that
    tests readiness before it takes a message ends as `send_pending_rpc_msgs` does:
    with the same result and in the same state, log included. -/
theorem drain_may_test_ready_first {fs : List Frame} {w : World σ}
    (h : Config.Reachable ⟨fs, w⟩) :
    (∀ m ∈ w.unsent, m.msg.isConnect = false) ∧
    ∀ (n : Nat) (r : Except Halt Unit) (w' : World σ),
      Ends (sendPendingRpcMsgs (dpConnect n)) w r w' ↔
        Ends (sendPendingReadyMsgs (dpConnect n)) w r w' := by
  have hw : w.NoPendingConnect := fun m hm => (h.typed.unsent m hm).isConnect
  refine ⟨hw, fun n r w' => ?_⟩
  rw [sendPendingRpcMsgs, sendPendingReadyMsgs, ends_get_bind, ends_get_bind]
  apply ends_loop_congr World.NoPendingConnect
  · intro w hw r w'
    exact sendPendingStep_iff_readyStep hw r w'
  · intro w w' hw hround
    exact hw.round (dpConnect_refines n) hround
  · exact hw

/-- A route waits for the Connect to be answered. -/
def waitingWorld : World Script := played 2 .plain [.process 1 [routeCtx 1]]

theorem drain_may_test_ready_first_in_waitingWorld :
    waitingWorld.unsent.length = 1 ∧ waitingWorld.dplaneIsReady = false ∧
      ∀ (r : Except Halt Unit) (w' : World Script),
        Ends (sendPendingRpcMsgs (dpConnect 2)) waitingWorld r w' ↔
          Ends (sendPendingReadyMsgs (dpConnect 2)) waitingWorld r w' := by
  have hreach : Reachable waitingWorld := played_reachable _ _ _ (by decide +kernel)
  exact ⟨by decide +kernel, by decide +kernel,
    (drain_may_test_ready_first hreach.config).2 2⟩

/-! ### Messages that can never be sent -/

/-- `EMSGSIZE`, which `do_send_rpc_msg` does not tell from other errors. -/
def Errno.emsgsize : Errno := .other 90

/-- `encode_msg` is a function of the message, and `send()` takes every datagram
    but those that it rejects with `EMSGSIZE`. -/
structure TakesAllBut (σ : Type) [Os σ] (encode : RpcMsg → Option Nat)
    (rejects : RpcMsg → Nat → Bool) : Prop where
  encode : ∀ msg (os : σ), (Os.encodeMsg msg os).1 = encode msg
  send : ∀ fd msg len (os : σ), (Os.send fd msg len os).1 =
    if rejects msg len then .error .emsgsize else .octets len

/-- The message encodes and is not rejected. -/
def sendable (encode : RpcMsg → Option Nat) (rejects : RpcMsg → Nat → Bool) (m : DpMsg) : Bool :=
  match encode m.msg with
  | none => false
  | some len => !rejects m.msg len

/-- From `w` to `w'`, the unsent list was emptied: the messages that can be sent
    were sent in order, and the contexts of the others were given back to zebra
    with a failure. -/
structure Unblocked (encode : RpcMsg → Option Nat) (rejects : RpcMsg → Nat → Bool)
    (w w' : World σ) : Prop where
  empty : w'.unsent = []
  sent : sentMsgs w'.log = sentMsgs w.log ++ w.unsent.filter (sendable encode rejects)
  failed : ∀ m ∈ w.unsent, sendable encode rejects m = false → ∀ c, m.ctx = some c →
    (c, ZebraResult.failure) ∈ outStatuses (w'.log.drop w.log.length)

section Unsendable
variable {encode : RpcMsg → Option Nat} {rejects : RpcMsg → Nat → Bool} {R : Plugin σ Unit}

/-- What `send()` answers to a message that encodes. -/
theorem TakesAllBut.attempts (h : TakesAllBut σ encode rejects) (w : World σ) {m : DpMsg}
    {len : Nat} (henc : encode m.msg = some len) :
    ∃ os, w.Attempts m len (if rejects m.msg len then .error .emsgsize else .octets len) os :=
  ⟨_, (h.encode m.msg w.os).trans henc, Prod.ext (h.send _ _ _ _) rfl⟩

/-- What can be sent is sent. -/
theorem TakesAllBut.sendPendingStep_sent (h : TakesAllBut σ encode rejects) {w : World σ}
    {m : DpMsg} {rest : List DpMsg} (hq : w.unsent = m :: rest) (hready : w.dplaneIsReady = true)
    (hbuf : w.txBuff.isSome = true) (hm : sendable encode rejects m = true) :
    ∃ os len, Ran (sendPendingStep R) w true
      (World.sentPending { w with unsent := rest } os m len) := by
  unfold sendable at hm
  cases henc : encode m.msg with
  | none =>
    rw [henc] at hm
    cases hm
  | some len =>
    simp only [henc, Bool.not_eq_true'] at hm
    rcases h.attempts { w with unsent := rest } henc with ⟨os, htry⟩
    rw [if_neg (by simp [hm])] at htry
    exact ⟨os, len, DplanePlugin.sendPendingStep_sent hq ⟨hbuf, .inr hready⟩ htry⟩

/-- What cannot be sent is put back. -/
theorem TakesAllBut.sendPendingStep_stuck (h : TakesAllBut σ encode rejects) {w : World σ}
    {m : DpMsg} {rest : List DpMsg} (hq : w.unsent = m :: rest) (hready : w.dplaneIsReady = true)
    (hbuf : w.txBuff.isSome = true) (hm : sendable encode rejects m = false) :
    ∃ w', Ran (sendPendingStep R) w false w' ∧ w'.unsent = m :: rest ∧
      sentMsgs w'.log = sentMsgs w.log := by
  have hmay : World.MaySend { w with unsent := rest } m := ⟨hbuf, .inr hready⟩
  unfold sendable at hm
  cases henc : encode m.msg with
  | none =>
    have htry : Os.encodeMsg m.msg w.os = (none, (Os.encodeMsg m.msg w.os).2) :=
      Prod.ext ((h.encode m.msg w.os).trans henc) rfl
    exact ⟨_, sendPendingStep_putBack hq (doSendRpcMsg_encodeFailed hmay htry), rfl, by simp⟩
  | some len =>
    simp only [henc, Bool.not_eq_false'] at hm
    rcases h.attempts { w with unsent := rest } henc with ⟨os, htry⟩
    rw [if_pos hm] at htry
    rcases doSendRpcMsg_failed (R := R) hmay htry (fun he => nomatch he) with
      ⟨w₁, hran, hunsent, hsent⟩
    exact ⟨_, sendPendingStep_putBack hq hran, by rw [hunsent], hsent⟩

theorem TakesAllBut.rounds (h : TakesAllBut σ encode rejects) (n : Nat) (w : World σ)
    (hready : w.dplaneIsReady = true) (hbuf : w.txBuff.isSome = true) (hn : w.unsent.length < n) :
    ∃ w', Ran (loop .outOfFuel n (sendPendingStep R)) w () w' ∧
      w'.unsent = w.unsent.dropWhile (sendable encode rejects) ∧
      sentMsgs w'.log = sentMsgs w.log ++ w.unsent.takeWhile (sendable encode rejects) := by
  induction n generalizing w with
  | zero => omega
  | succ n ih =>
    cases hq : w.unsent with
    | nil =>
      refine ⟨w, ?_, by simp [hq], by simp⟩
      rw [loop, Ran, (sendPendingStep_ran_nil hq).ends_bind]
      exact (ends_pure _ _ _ _).mpr ⟨rfl, rfl⟩
    | cons m rest =>
      cases hm : sendable encode rejects m with
      | false =>
        rcases h.sendPendingStep_stuck (R := R) hq hready hbuf hm with
          ⟨w', hstep, hunsent, hsent⟩
        refine ⟨w', ?_, by simp [hm, hunsent], by simp [hm, hsent]⟩
        rw [loop, Ran, hstep.ends_bind]
        exact (ends_pure _ _ _ _).mpr ⟨rfl, rfl⟩
      | true =>
        rcases h.sendPendingStep_sent (R := R) hq hready hbuf hm with ⟨os, len, hstep⟩
        rw [hq, List.length_cons] at hn
        rcases ih (World.sentPending { w with unsent := rest } os m len) (by simpa using hready)
          (by simp) (by simp only [sentPending_unsent]; omega) with ⟨w', hrest, hunsent, hsent⟩
        refine ⟨w', ?_, by simpa [hm] using hunsent, by simpa [hm] using hsent⟩
        rw [loop, Ran, hstep.ends_bind]
        exact hrest

/-- The drain sends messages up to the first that cannot be sent. -/
theorem TakesAllBut.drain (h : TakesAllBut σ encode rejects) {w : World σ}
    (hready : w.dplaneIsReady = true) (hbuf : w.txBuff.isSome = true) (R : Plugin σ Unit) :
    ∃ w', Ran (sendPendingRpcMsgs R) w () w' ∧
      w'.unsent = w.unsent.dropWhile (sendable encode rejects) ∧
      sentMsgs w'.log = sentMsgs w.log ++ w.unsent.takeWhile (sendable encode rejects) := by
  rcases h.rounds (R := R) (w.unsent.length + 1) w hready hbuf (Nat.lt_succ_self _) with
    ⟨w', hran, hlists⟩
  exact ⟨w', (ends_get_bind _ _ _ _).mpr hran, hlists⟩

/-- With the dataplane ready, `send_pending_rpc_msgs` returns; it empties the
    unsent list as it should if and only if every message of the list encodes and
    is not rejected. -/
theorem unblocked_iff_all_sendable (h : TakesAllBut σ encode rejects) {w : World σ}
    (hready : w.dplaneIsReady = true) (hbuf : w.txBuff.isSome = true) (R : Plugin σ Unit) :
    ∃ w', Ran (sendPendingRpcMsgs R) w () w' ∧
      (Unblocked encode rejects w w' ↔ ∀ m ∈ w.unsent, sendable encode rejects m = true) := by
  rcases h.drain hready hbuf R with ⟨w', hran, hunsent, hsent⟩
  refine ⟨w', hran, ?_, ?_⟩
  · intro hall
    rw [hall.empty] at hunsent
    exact List.dropWhile_eq_nil_iff.mp hunsent.symm
  · intro hall
    refine ⟨?_, ?_, ?_⟩
    · rw [hunsent]
      exact List.dropWhile_eq_nil_iff.mpr hall
    · rw [hsent, List.filter_eq_self.mpr hall, List.takeWhile_eq_self_iff.mpr hall]
    · intro m hm hbad
      rw [hall m hm] at hbad
      cases hbad

end Unsendable

/-! ### A route that does not encode -/

/-- A system that takes every datagram, with the messages to come. -/
structure Inbox where
  recvs : List RecvResult

/-- `encode_msg` fails on the first request. -/
def encodeButFirst (msg : RpcMsg) : Option Nat := if msg.request.seqn = 1 then none else some 64

instance : Os Inbox where
  socket s := (3, s)
  unlink _ s := s
  bind _ _ s := (true, s)
  chmod _ s := (true, s)
  close _ s := s
  connect _ _ s := (none, s)
  send _ _ len s := (.octets len, s)
  recv _ s := (s.recvs.headD (.error .eagain), ⟨s.recvs.tail⟩)
  getpid _ := 1
  verDp _ := ⟨0, 1, 0⟩
  encodeMsg msg s := (encodeButFirst msg, s)
  buffNew s := (true, s)
  moves _ _ := False

theorem inbox_takesAllBut : TakesAllBut Inbox encodeButFirst fun _ _ => false :=
  ⟨fun _ _ => rfl, fun _ _ _ _ => rfl⟩

/-- The first of four routes does not encode. -/
def stuckWorld : World Inbox :=
  played 3 ⟨[accept 7]⟩ [.recv, .process 4 [routeCtx 1, routeCtx 2, routeCtx 3, routeCtx 4]]

/-- The same state with the other routes only. -/
def unstuckWorld : World Inbox := { stuckWorld with unsent := stuckWorld.unsent.tail }

theorem unblocked_of_unstuckWorld :
    unstuckWorld.unsent.length = 3 ∧
      ∃ w', Ran (sendPendingRpcMsgs (dpConnect 1)) unstuckWorld () w' ∧
        Unblocked encodeButFirst (fun _ _ => false) unstuckWorld w' := by
  have hready : unstuckWorld.dplaneIsReady = true := by decide +kernel
  have hbuf : unstuckWorld.txBuff.isSome = true := by decide +kernel
  have hall : ∀ m ∈ unstuckWorld.unsent, sendable encodeButFirst (fun _ _ => false) m = true := by
    decide +kernel
  have hiff := unblocked_iff_all_sendable inbox_takesAllBut hready hbuf (dpConnect 1)
  exact ⟨by decide +kernel, hiff.imp fun w' h => ⟨h.1, h.2.mpr hall⟩⟩

/-- No route is sent, nor given back to zebra. -/
theorem stuckWorld_blocked :
    ¬ ∀ w w' : World Inbox, Reachable w → w.dplaneIsReady = true →
      Ran (sendPendingRpcMsgs (dpConnect 1)) w () w' →
      Unblocked encodeButFirst (fun _ _ => false) w w' := by
  intro hall
  have hreach : Reachable stuckWorld := played_reachable _ _ _ (by decide +kernel)
  have hready : stuckWorld.dplaneIsReady = true := by decide +kernel
  have hbuf : stuckWorld.txBuff.isSome = true := by decide +kernel
  have hstuck : stuckWorld.unsent.dropWhile (sendable encodeButFirst fun _ _ => false) ≠ [] := by
    decide +kernel
  rcases inbox_takesAllBut.drain hready hbuf (dpConnect 1) with ⟨w', hran, hunsent, -⟩
  have hempty := (hall stuckWorld w' hreach hready hran).empty
  rw [hunsent] at hempty
  exact hstuck hempty

end DplanePlugin
