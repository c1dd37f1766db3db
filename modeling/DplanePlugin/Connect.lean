/-
  DplanePlugin/Connect.lean
  =========================
  **Connecting, keepalives and initialization (the rest of `hh_dp_comm.c` but
  for the receive path).**

  `dp_connect` calls `send_rpc_request_connect`, whose `do_send_rpc_msg` calls
  `dp_connect` again when the send fails with a connection error.  Nothing in
  the program bounds this recursion, so `dpConnect n` follows it to the depth
  `n` and stops with `outOfFuel` beyond; a callback that returns does so for
  some `n`.
-/
import DplanePlugin.Requests

namespace DplanePlugin

open Lib

variable {σ : Type} [Os σ]

/-- Connect to the dataplane over the Unix socket; `reconnect` is the call of
    this function from inside a failing send. On failure to connect, another
    attempt is scheduled; on success, a Connect request is sent. -/
def dpConnectStep (reconnect : Plugin σ Unit) : Plugin σ Unit := do
  observe .connecting
  let w ← get
  if w.dpSock = noSock then return ()
  else
    let r ← dpUnixConnect w.dpSockPath
    if r ≠ 0 then
      modify fun w => { w with evConnectTimer := true }
    else
      modify fun w => { w with evConnectTimer := false, dpSockConnected := true }
      let _ ← sendRpcRequestConnect reconnect
      eventAddRead

/-- `dp_connect`, to the recursion depth `n`. -/
def dpConnect : Nat → Plugin σ Unit
  | 0 => throw .outOfFuel
  | n + 1 => dpConnectStep (dpConnect n)

/-- Send keepalives if we're connected. -/
def dpSendKeepalive (reconnect : Plugin σ Unit) : Plugin σ Unit := do
  let w ← get
  if w.dpSockConnected ∧ w.dplaneIsReady then
    let _ ← sendRpcControl reconnect 0
    modify fun w => { w with evKeepalive := true }
  else
    modify fun w => { w with evKeepalive := true }

/-- Allocate Tx/Rx buffers. -/
def initRpcBuffers : Plugin σ Int := do
  let tx ← osCall Os.buffNew
  let rx ← osCall Os.buffNew
  if tx = false ∨ rx = false then return -1
  else
    modify fun w => { w with txBuff := some 0 }
    return 0

/-- Initialize RPC to the dataplane. After a failure the plugin aborts, so what
    the failing exits release is left out. -/
def initDplaneRpc (n : Nat) : Plugin σ Int := do
  let w ← get
  let sock ← dpUnixSockOpen w.pluginSockPath
  modify fun w => { w with dpSock := sock }
  if sock = noSock then return -1
  else
    let r ← initRpcBuffers
    if r ≠ 0 then return -1
    else
      initDpMsgCache
      dpConnect n
      dpSendKeepalive (dpConnect n)
      return 0

end DplanePlugin
