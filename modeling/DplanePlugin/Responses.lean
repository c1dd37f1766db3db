/-
  DplanePlugin/Responses.lean
  ===========================
  **Handling messages from the dataplane (the second half of `hh_dp_msg.c`) and
  receiving them (`dp_rpc_recv`).**
-/
import DplanePlugin.Connect

namespace DplanePlugin

open Lib

variable {σ : Type}

/-! ### Matching a response to a request -/

/-- `got_expected_response`. -/
def gotExpectedResponse (resp : RpcResponse) (req : RpcRequest) : Bool :=
  !(decide (resp.seqn ≠ req.seqn) || decide (resp.op ≠ req.op))

theorem gotExpectedResponse_iff (resp : RpcResponse) (req : RpcRequest) :
    gotExpectedResponse resp req = true ↔ resp.seqn = req.seqn ∧ resp.op = req.op := by
  simp [gotExpectedResponse]

/-- Take the request that `resp` answers from the in-flight list: the oldest. -/
def recoverRequest (resp : RpcResponse) : Plugin σ (Option DpMsg) := do
  let popped ← dpMsgPopInflight
  match popped with
  | none => return none
  | some m =>
    if m.msg.type ≠ .request then
      dpMsgRecycle m
      return none
    else if gotExpectedResponse resp m.msg.request = false then
      dpMsgRecycle m
      return none
    else return some m

/-! ### Completing a context -/

/-- Return the context of a message to zebra; `none` follows the null context. -/
def dpMsgHandOff (m : DpMsg) (result : ZebraResult) : Plugin σ DpMsg :=
  match m.ctx with
  | none => throw .nullDeref
  | some ctx => do
    observe (.handedOff ctx result)
    observe .workReady
    return { m with ctx := none }

/-- The status a result code stands for; ignored requests are successes. -/
def RpcResultCode.toZebra (rescode : RpcResultCode) : ZebraResult :=
  if rescode = .ok ∨ rescode = .ignored then .success else .failure

/-- The message as the function leaves it. -/
def handleRpcCtxResponse (m : DpMsg) (rescode : RpcResultCode) : Plugin σ DpMsg :=
  if m.ctx.isSome then dpMsgHandOff m rescode.toZebra else return m

/-- `if (resp->objects) dplane_set_synt(resp->objects->conn_info.synt)`. -/
def recallSynt (objects : Option ConnInfo) : Plugin σ Unit :=
  match objects with
  | none => pure ()
  | some info => dplaneSetSynt info.synt

variable [Os σ]

/-- Handle the response to a Connect. Messages cached meanwhile are sent, unless
    the in-flight list is being purged. -/
def handleRpcConnectResponse (reconnect : Plugin σ Unit) (resp : RpcResponse) (purged : Bool) :
    Plugin σ Unit :=
  if resp.rescode = .ok then do
    recallSynt resp.objects
    dplaneSetReady true
    if purged = false then sendPendingRpcMsgs reconnect else pure ()
  else throw .aborted

/-- Account for the response and handle it; the message is returned as the
    function leaves it. -/
def doHandleRpcResponse (reconnect : Plugin σ Unit) (resp : RpcResponse) (m : DpMsg)
    (purged : Bool) : Plugin σ DpMsg := do
  rpcCountRequestReplied m.msg.request.op m.msg.request.object.type resp.rescode
  match resp.op with
  | .connect =>
    handleRpcConnectResponse reconnect resp purged
    return m
  | .add => handleRpcCtxResponse m resp.rescode
  | .del => handleRpcCtxResponse m resp.rescode
  | .update => handleRpcCtxResponse m resp.rescode
  | _ => return m

/-- The test for a restarted dataplane: a Connect response whose sync token is
    not the stored one, when one is stored. -/
def reportsRestart (resp : RpcResponse) (synt : UInt64) : Bool :=
  match resp.objects with
  | none => false
  | some info => decide (resp.op = .connect) && decide (synt ≠ 0) && decide (info.synt ≠ synt)

/-- The response that the purge fakes for a request. -/
def fakeResponse (req : RpcRequest) : RpcResponse := ⟨req.op, req.seqn, .ok, none⟩

/-- One round of the purge: the oldest request in flight is answered with a
    success, a Connect with the response itself. `false` ends the loop. -/
def purgeStep (reconnect : Plugin σ Unit) (resp : RpcResponse) : Plugin σ Bool := do
  let popped ← dpMsgPopInflight
  match popped with
  | none => return false
  | some m =>
    if m.msg.request.op ≠ .connect then
      let m ← doHandleRpcResponse reconnect (fakeResponse m.msg.request) m true
      dpMsgRecycle m
      return true
    else
      let m ← doHandleRpcResponse reconnect resp m true
      dpMsgRecycle m
      return true

/-- Handle a response: purge the in-flight list if the dataplane restarted, else
    match the response with the oldest request in flight. -/
def handleRpcResponse (reconnect : Plugin σ Unit) (resp : RpcResponse) : Plugin σ Unit := do
  observe (.response resp)
  let w ← get
  if reportsRestart resp w.synt then
    loop .outOfFuel (w.inFlight.length + 1) (purgeStep reconnect resp)
  else
    let recovered ← recoverRequest resp
    match recovered with
    | none => return ()
    | some m =>
      let m ← doHandleRpcResponse reconnect resp m false
      dpMsgRecycle m

/-- Handle a control message: a request for a refresh is passed on to zebra, and
    confirmed. -/
def handleRpcControl (reconnect : Plugin σ Unit) (ctl : RpcControl) : Plugin σ Unit :=
  if ctl.refresh ≠ 0 then do
    observe .providerRefresh
    let _ ← sendRpcControl reconnect 1
    rpcCountCtlRx
  else rpcCountCtlRx

/-- Entry point for incoming messages. -/
def handleRpcMsg (reconnect : Plugin σ Unit) (msg : RpcMsg) : Plugin σ Unit :=
  match msg.type with
  | .response => handleRpcResponse reconnect msg.response
  | .control => handleRpcControl reconnect msg.control
  | _ => return ()

/-! ### Receiving -/

/-- Receive a datagram into `rx_buff`: `none` where `sock_recv` returns -1. -/
def sockRecv : Plugin σ (Option Datagram) := do
  let w ← get
  let result ← osCall (Os.recv w.dpSock)
  match result with
  | .error e =>
    rpcCountRxError e
    return none
  | .data d =>
    rpcCountRx
    return some d

/-- One round of the loop of `dp_rpc_recv`; `false` ends the loop. -/
def dpRpcRecvStep (reconnect : Plugin σ Unit) : Plugin σ Bool := do
  let received ← sockRecv
  match received with
  | none => return false
  | some d =>
    if d.octets = 0 then return false
    else
      match d.decoded with
      | none =>
        rpcCountDecodeFailure
        return false
      | some msg =>
        handleRpcMsg reconnect msg
        return true

/-- Receive over the Unix socket, decode messages and handle them, for at most
    `n` rounds of the loop. -/
def dpRpcRecv (n : Nat) (reconnect : Plugin σ Unit) : Plugin σ Unit := do
  eventAddRead
  loop .outOfFuel n (dpRpcRecvStep reconnect)

end DplanePlugin
