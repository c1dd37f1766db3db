/-
  DplanePlugin/Comm.lean
  ======================
  **The socket and the sending half of `hh_dp_comm.c`.**

  `do_send_rpc_msg`, `dp_connect` and `send_rpc_msg` call each other across two
  files.  The functions here take the reconnect that a failing send makes as an
  argument (`reconnect`, the call `dp_connect(NULL)`); `Connect.lean` ties the
  knot.  A C `int` result is an `Int`.

  Left out: log messages, the checks `BUG(!p)` of pointers that are never null
  here, and `ev->ref`, which FRR sets to the reference the event was added with.
-/
import DplanePlugin.MsgCache

namespace DplanePlugin

open Lib

variable {σ : Type}

/-! ### Calls of the operating system and of FRR's event library -/

/-- A call that changes nothing but the operating system's state. -/
def osCall {α : Type} (f : σ → α × σ) : Plugin σ α := do
  let w ← get
  set { w with os := (f w.os).2 }
  return (f w.os).1

@[simp] theorem ends_osCall {α : Type} (f : σ → α × σ) (w : World σ) (r : Except Halt α)
    (w' : World σ) :
    Ends (osCall f) w r w' ↔ r = .ok (f w.os).1 ∧ w' = { w with os := (f w.os).2 } := by
  simp [osCall]

@[simp] theorem ends_osCall_bind {α β : Type} (f : σ → α × σ) (g : α → Plugin σ β) (w : World σ)
    (r : Except Halt β) (w' : World σ) :
    Ends (osCall f >>= g) w r w' ↔ Ends (g (f w.os).1) { w with os := (f w.os).2 } r w' := by
  simp [osCall, ends_bind]

/-- `event_add_write(.., dp_sock_send_cb, NULL, dp_sock, &ev_send)`, and with it
    `wakeon_dp_write_avail`: nothing happens when the event is armed already. -/
def wakeonDpWriteAvail : Plugin σ Unit := do
  let w ← get
  if w.evSend.isNone then set { w with evSend := some w.dpSock } else pure ()

/-- `event_add_read(.., dp_rpc_recv, NULL, dp_sock, &ev_recv)`. -/
def eventAddRead : Plugin σ Unit := do
  let w ← get
  if w.evRecv.isNone then set { w with evRecv := some w.dpSock } else pure ()

/-- The state after `wakeon_dp_write_avail`. -/
@[simps] def World.wakeon (w : World σ) : World σ := { w with evSend := some (w.evSend.getD w.dpSock) }

/-- The state after `event_add_read`. -/
@[simps] def World.addRead (w : World σ) : World σ := { w with evRecv := some (w.evRecv.getD w.dpSock) }

theorem World.wakeon_of_armed {w : World σ} {fd : Int} (h : w.evSend = some fd) :
    w.wakeon = w := by
  rw [World.wakeon, h, Option.getD_some, ← h]

theorem World.addRead_of_armed {w : World σ} {fd : Int} (h : w.evRecv = some fd) :
    w.addRead = w := by
  rw [World.addRead, h, Option.getD_some, ← h]

@[simp] theorem ends_wakeonDpWriteAvail (w : World σ) (r : Except Halt Unit) (w' : World σ) :
    Ends wakeonDpWriteAvail w r w' ↔ r = .ok () ∧ w' = w.wakeon := by
  rw [wakeonDpWriteAvail, ends_get_bind]
  cases h : w.evSend with
  | none => simp [World.wakeon, h]
  | some fd => simp [World.wakeon_of_armed h]

@[simp] theorem ends_eventAddRead (w : World σ) (r : Except Halt Unit) (w' : World σ) :
    Ends eventAddRead w r w' ↔ r = .ok () ∧ w' = w.addRead := by
  rw [eventAddRead, ends_get_bind]
  cases h : w.evRecv with
  | none => simp [World.addRead, h]
  | some fd => simp [World.addRead_of_armed h]

@[simp] theorem ends_wakeonDpWriteAvail_bind {α : Type} (f : Unit → Plugin σ α) (w : World σ)
    (r : Except Halt α) (w' : World σ) :
    Ends (wakeonDpWriteAvail >>= f) w r w' ↔ Ends (f ()) w.wakeon r w' :=
  Ran.ends_bind ((ends_wakeonDpWriteAvail _ _ _).mpr ⟨rfl, rfl⟩) _ _ _

@[simp] theorem ends_eventAddRead_bind {α : Type} (f : Unit → Plugin σ α) (w : World σ)
    (r : Except Halt α) (w' : World σ) :
    Ends (eventAddRead >>= f) w r w' ↔ Ends (f ()) w.addRead r w' :=
  Ran.ends_bind ((ends_eventAddRead _ _ _).mpr ⟨rfl, rfl⟩) _ _ _

/-! ### Readiness -/

/-- Mark the state of the dataplane. -/
def dplaneSetReady (ready : Bool) : Plugin σ Unit :=
  modify fun w => { w with dplaneIsReady := ready }

/-- Set the sync token. -/
def dplaneSetSynt (value : UInt64) : Plugin σ Unit :=
  modify fun w => { w with synt := value }

/-! ### The Unix socket -/

variable [Os σ]

/-- Close the Unix socket to the dataplane. -/
def dpUnixSockClose : Plugin σ Unit := do
  let w ← get
  if w.dpSock ≠ noSock then
    osCall fun s => ((), Os.close w.dpSock s)
    modify fun w => { w with dpSock := noSock, dpSockConnected := false }
    dplaneSetReady false
    osCall fun s => ((), Os.unlink w.pluginSockPath s)
  else
    osCall fun s => ((), Os.unlink w.pluginSockPath s)

/-- The `fail` exit of `dp_unix_sock_open`. -/
def dpUnixSockOpenFail (sock : Int) : Plugin σ Int := do
  if sock ≠ noSock then
    osCall fun s => ((), Os.close sock s)
    return noSock
  else return noSock

/-- Open a Unix socket and bind it to the specified path. -/
def dpUnixSockOpen (bindPath : PathBuf) : Plugin σ Int := do
  let sock ← osCall Os.socket
  if sock < 0 then return -1
  else if bindPath.strlen = 0 ∨ bindPath.strlen ≥ maxSunPath then dpUnixSockOpenFail sock
  else
    osCall fun s => ((), Os.unlink bindPath s)
    let bound ← osCall (Os.bind sock bindPath)
    if bound = false then dpUnixSockOpenFail sock
    else
      let permitted ← osCall (Os.chmod bindPath)
      if permitted = false then dpUnixSockOpenFail sock
      else return sock

/-- Close the socket and open another. -/
def dpUnixSockReopen : Plugin σ Unit := do
  dpUnixSockClose
  let w ← get
  let sock ← dpUnixSockOpen w.pluginSockPath
  modify fun w => { w with dpSock := sock }
  observe .reopened

/-- Opening a socket changes nothing but the operating system's state. -/
theorem dpUnixSockOpen_returns (path : PathBuf) (w : World σ) :
    ∃ sock os, Ran (dpUnixSockOpen path) w sock { w with os := os } := by
  have hfail (sock : Int) (os : σ) : ∃ sock' os', Ran (dpUnixSockOpenFail sock)
      { w with os := os } sock' { w with os := os' } := by
    by_cases hs : sock = noSock <;> simp [Ran, dpUnixSockOpenFail, hs]
  simp only [Ran, dpUnixSockOpen, ends_osCall_bind]
  split
  · exact ⟨_, _, (ends_pure _ _ _ _).mpr ⟨rfl, rfl⟩⟩
  split
  · exact hfail _ _
  simp only [ends_osCall_bind]
  split
  · exact hfail _ _
  simp only [ends_osCall_bind]
  split
  · exact hfail _ _
  · exact ⟨_, _, (ends_pure _ _ _ _).mpr ⟨rfl, rfl⟩⟩

/-- Reopening an open socket leaves the plugin disconnected and not ready. -/
theorem dpUnixSockReopen_returns {w : World σ} (hsock : w.dpSock ≠ noSock) :
    ∃ sock os, Ran dpUnixSockReopen w ()
      ({ w with os := os, dpSock := sock, dpSockConnected := false,
                dplaneIsReady := false }.observe .reopened) := by
  have hclose : Ran dpUnixSockClose w ()
      { w with os := Os.unlink w.pluginSockPath (Os.close w.dpSock w.os), dpSock := noSock,
               dpSockConnected := false, dplaneIsReady := false } := by
    simp [Ran, dpUnixSockClose, dplaneSetReady, hsock]
  obtain ⟨sock, os, hopen⟩ := dpUnixSockOpen_returns w.pluginSockPath
    { w with os := Os.unlink w.pluginSockPath (Os.close w.dpSock w.os), dpSock := noSock,
             dpSockConnected := false, dplaneIsReady := false }
  refine ⟨sock, os, ?_⟩
  rw [Ran, dpUnixSockReopen, hclose.ends_bind, ends_get_bind, hopen.ends_bind]
  simp

/-- What a reopen did, from its run. -/
theorem dpUnixSockReopen_ends {w w' : World σ} {r : Except Halt Unit} (hsock : w.dpSock ≠ noSock)
    (h : Ends dpUnixSockReopen w r w') :
    r = .ok () ∧ ∃ sock os,
      w' = { w with os := os, dpSock := sock, dpSockConnected := false,
                    dplaneIsReady := false }.observe .reopened := by
  obtain ⟨sock, os, hran⟩ := dpUnixSockReopen_returns hsock
  obtain ⟨rfl, rfl⟩ := h.unique hran
  exact ⟨rfl, sock, os, rfl⟩

/-- A property of the operating system that the calls of opening and closing a socket
    keep. -/
structure SocketCalls (P : σ → Prop) : Prop where
  socket : ∀ os, P os → P (Os.socket os).2
  unlink : ∀ path os, P os → P (Os.unlink path os)
  bind : ∀ sock path os, P os → P (Os.bind sock path os).2
  chmod : ∀ path os, P os → P (Os.chmod path os).2
  close : ∀ sock os, P os → P (Os.close sock os)

theorem dpUnixSockOpen_keeps {P : σ → Prop} (hP : SocketCalls P) {path : PathBuf} {w w' : World σ}
    {r : Except Halt Int} (h : Ends (dpUnixSockOpen path) w r w') (hw : P w.os) : P w'.os := by
  have hfail (sock : Int) {os : σ} (hos : P os)
      (hend : Ends (dpUnixSockOpenFail sock) { w with os := os } r w') : P w'.os := by
    by_cases hs : sock = noSock
    · simp only [dpUnixSockOpenFail, hs, ne_eq, not_true_eq_false, if_false, ends_pure] at hend
      rw [hend.2]
      exact hos
    · simp only [dpUnixSockOpenFail, hs, ne_eq, not_false_eq_true, if_true, ends_osCall_bind,
        ends_pure] at hend
      rw [hend.2]
      exact hP.close sock os hos
  have hsocket := hP.socket _ hw
  have hunlink := hP.unlink path _ hsocket
  have hbind := hP.bind (Os.socket w.os).1 path _ hunlink
  have hchmod := hP.chmod path _ hbind
  simp only [dpUnixSockOpen, ends_osCall_bind] at h
  split at h
  · obtain ⟨-, rfl⟩ := (ends_pure _ _ _ _).mp h
    exact hsocket
  split at h
  · exact hfail _ hsocket h
  simp only [ends_osCall_bind] at h
  split at h
  · exact hfail _ hbind h
  simp only [ends_osCall_bind] at h
  split at h
  · exact hfail _ hchmod h
  · obtain ⟨-, rfl⟩ := (ends_pure _ _ _ _).mp h
    exact hchmod

theorem dpUnixSockReopen_keeps {P : σ → Prop} (hP : SocketCalls P) {w w' : World σ}
    {r : Except Halt Unit} (hsock : w.dpSock ≠ noSock) (h : Ends dpUnixSockReopen w r w')
    (hw : P w.os) : P w'.os := by
  simp only [dpUnixSockReopen, dpUnixSockClose, dplaneSetReady, bind_assoc, ends_get_bind,
    if_pos hsock, ends_osCall_bind, ends_modify_bind] at h
  rcases dpUnixSockOpen_returns w.pluginSockPath { w with
    os := Os.unlink w.pluginSockPath (Os.close w.dpSock w.os), dpSock := noSock,
    dpSockConnected := false, dplaneIsReady := false } with ⟨sock, os, hopen⟩
  have hos := dpUnixSockOpen_keeps hP hopen (hP.unlink _ _ (hP.close _ _ hw))
  rw [hopen.ends_bind, ends_modify_bind, ends_observe] at h
  obtain ⟨-, rfl⟩ := h
  exact hos

/-- Connect the Unix socket to the specified path. -/
def dpUnixConnect (connPath : PathBuf) : Plugin σ Int := do
  if connPath.strlen = 0 ∨ connPath.strlen ≥ maxSunPath then return -1
  else
    let w ← get
    let result ← osCall (Os.connect w.dpSock connPath)
    observe (.connect result)
    match result with
    | none => return 0
    | some e =>
      if e = .eisconn then return 0
      else
        dpUnixSockReopen
        return -1

/-! ### Sending -/

/-- Tells if a message can be xmited. Connects always can. -/
def canSendRpcRequest (msg : RpcMsg) : Plugin σ Bool := do
  let w ← get
  return msg.isConnect || w.dplaneIsReady

/-- `buff_clear(tx_buff)` and `encode_msg(tx_buff, msg)`. -/
def encodeMsg (m : DpMsg) : Plugin σ (Option Nat) := do
  let octets ← osCall (Os.encodeMsg m.msg)
  modify fun w => { w with txBuff := some (octets.getD 0) }
  observe (.encoded m octets)
  return octets

/-- `send(dp_sock, tx_buff->storage, tx_buff->w, MSG_DONTWAIT)`. -/
def osSend (m : DpMsg) (octets : Nat) : Plugin σ SendResult := do
  let w ← get
  let result ← osCall (Os.send w.dpSock m.msg octets)
  observe (.send m octets result)
  return result

/-- What `do_send_rpc_msg` does after `send()` failed with `e`. -/
def doSendRpcMsgError (reconnect : Plugin σ Unit) (e : Errno) : Plugin σ Int := do
  rpcCountTxError e
  if e.isBlocked then
    wakeonDpWriteAvail
    return -1
  else if e.isDisconnect then
    modify fun w => { w with dpSockConnected := false }
    dplaneSetReady false
    let w ← get
    if w.evConnectTimer = false then
      reconnect
      return -1
    else return -1
  else return -1

/-- Sending of a single message. Returns 0 only if the message was sent over the
    socket. -/
def doSendRpcMsg (reconnect : Plugin σ Unit) (m : DpMsg) : Plugin σ Int := do
  let w ← get
  if w.txBuff.isNone then return -1
  else
    let can ← canSendRpcRequest m.msg
    if can = false then return -1
    else
      let octets ← encodeMsg m
      match octets with
      | none =>
        rpcCountEncodeFailure
        return -1
      | some len =>
        let result ← osSend m len
        match result with
        | .error e => doSendRpcMsgError reconnect e
        | .octets r =>
          if r ≠ len then return -1
          else
            rpcCountTx
            observe (.sent m)
            return 0

/-- One round of the loop of `send_pending_rpc_msgs`; `false` ends the loop. -/
def sendPendingStep (reconnect : Plugin σ Unit) : Plugin σ Bool := do
  let popped ← dpMsgPopUnsent
  match popped with
  | none => return false
  | some m =>
    let r ← doSendRpcMsg reconnect m
    if r = 0 then
      if m.msg.type = .request then
        rpcCountRequestSent m.msg.request.op m.msg.request.object.type
        dpMsgCacheInflight m
        return true
      else if m.msg.type = .control then
        rpcCountCtlTx
        dpMsgRecycle m
        return true
      else
        dpMsgRecycle m
        return true
    else
      dpMsgUnsentPushBack m
      return false

/-- Drain the unsent queue for xmit: from the head until no more messages, or
    xmit fails. Every round that goes on takes a message from the list. -/
def sendPendingRpcMsgs (reconnect : Plugin σ Unit) : Plugin σ Unit := do
  let w ← get
  loop .outOfFuel (w.unsent.length + 1) (sendPendingStep reconnect)

/-- Main function to send an RPC message. The message is queued in the unsent
    queue and any prior pending messages are sent first; Connect requests
    overtake any pending messages. -/
def sendRpcMsg (reconnect : Plugin σ Unit) (m : DpMsg) : Plugin σ Int := do
  observe (.passed m)
  if m.msg.isConnect then
    let r ← doSendRpcMsg reconnect m
    if r = 0 then
      rpcCountRequestSent m.msg.request.op m.msg.request.object.type
      dpMsgCacheInflight m
      return 0
    else
      dpMsgRecycle m
      return -1
  else
    dpMsgCacheUnsent m
    sendPendingRpcMsgs reconnect
    return 0

/-- Write callback. -/
def dpSockSendCb (reconnect : Plugin σ Unit) : Plugin σ Unit := do
  let w ← get
  if w.unsent = [] then return ()
  else
    sendPendingRpcMsgs reconnect
    let w ← get
    if w.unsent ≠ [] then wakeonDpWriteAvail else return ()

end DplanePlugin
