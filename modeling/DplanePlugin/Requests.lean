/-
  DplanePlugin/Requests.lean
  ==========================
  **Building and sending requests (the first half of `hh_dp_msg.c`).**

  What zebra's accessors return is the fields of a `ZebraCtx`.  A message holds
  the address of its context, never the context.
-/
import DplanePlugin.Comm

namespace DplanePlugin

open Lib

variable {σ : Type}

/-- Build a message of type request. All requests except Connect require a
    context; a Connect has sequence number 0. -/
def dpRequestNew (op : RpcOp) (ctx : Option CtxRef) : Plugin σ (Option DpMsg) := do
  if ctx = none ∧ op ≠ .connect then return none
  else
    let m ← dpMsgNew
    if op = .connect then
      return some { m with
        msg := { m.msg with type := .request,
                            request := { m.msg.request with op := op, seqn := 0 } }
        ctx := ctx }
    else
      let w ← get
      set { w with seqnum := w.seqnum + 1 }
      return some { m with
        msg := { m.msg with type := .request,
                            request := { m.msg.request with op := op, seqn := w.seqnum } }
        ctx := ctx }

/-- A request as `dp_request_new` and its caller build it. -/
def requestMsg (ref : Nat) (op : RpcOp) (seqn : UInt64) (object : RpcObject)
    (ctx : Option CtxRef) : DpMsg where
  ref := ref
  msg := { RpcMsg.zero with type := .request, request := ⟨op, seqn, object⟩ }
  ctx := ctx

/-- A control message as `send_rpc_control` builds it. -/
def controlMsg (ref : Nat) (refresh : UInt8) : DpMsg where
  ref := ref
  msg := { RpcMsg.zero with type := .control, control := ⟨refresh⟩ }
  ctx := none

/-- The Connect request that `send_rpc_request_connect` builds. -/
def connectMsg (ref : Nat) (cinfo : ConnInfo) : DpMsg :=
  requestMsg ref .connect 0 (.connInfo cinfo) none

@[simp] theorem requestMsg_isConnect (ref : Nat) (op : RpcOp) (seqn : UInt64)
    (object : RpcObject) (ctx : Option CtxRef) :
    (requestMsg ref op seqn object ctx).msg.isConnect = true ↔ op = .connect := by
  simp [RpcMsg.isConnect_iff, requestMsg]

@[simp] theorem connectMsg_isConnect (ref : Nat) (cinfo : ConnInfo) :
    (connectMsg ref cinfo).msg.isConnect = true := by
  simp [connectMsg]

@[simp] theorem controlMsg_isConnect (ref : Nat) (refresh : UInt8) :
    (controlMsg ref refresh).msg.isConnect = false := by
  simp [← Bool.not_eq_true, RpcMsg.isConnect_iff, controlMsg]

/-- The message with the object of its request set. -/
def DpMsg.withObject (m : DpMsg) (object : RpcObject) : DpMsg :=
  { m with msg := { m.msg with request := { m.msg.request with object := object } } }

variable [Os σ]

/-- The end of the `send_rpc_request_*` functions: build the message, attach
    the object, send. -/
def sendRequest (reconnect : Plugin σ Unit) (op : RpcOp) (ctx : Option CtxRef)
    (object : RpcObject) : Plugin σ Int := do
  let m ← dpRequestNew op ctx
  match m with
  | none => throw .nullDeref
  | some m => sendRpcMsg reconnect (m.withObject object)

/-- Send a Connect request with our versioning information. -/
def sendRpcRequestConnect (reconnect : Plugin σ Unit) : Plugin σ Int := do
  let w ← get
  let cinfo : ConnInfo := ⟨"FRR-HHGW-plugin", Os.getpid w.os, Os.verDp w.os, w.synt⟩
  sendRequest reconnect .connect none (.connInfo cinfo)

/-- The address of a prefix as the RPC protocol has it. -/
def PrefixAddr.toIpAddress : PrefixAddr → IpAddress
  | .inet addr => .ipv4 addr
  | .other addr => .ipv6 addr

/-- Send a request to Add / Del an interface address. -/
def sendRpcRequestIfaddress (reconnect : Plugin σ Unit) (op : RpcOp) (ctx : ZebraCtx) :
    Plugin σ Int := do
  if op ≠ .add ∧ op ≠ .del then return -1
  else
    let ifa : IfAddress :=
      ⟨ctx.ifname, ctx.ifindex, ctx.ifpVrfId, ctx.intfAddr.prefixlen,
        ctx.intfAddr.addr.toIpAddress⟩
    sendRequest reconnect op (some ctx.ref) (.ifAddress ifa)

/-- Send a request to Add / Del an rmac. -/
def sendRpcRequestRmac (reconnect : Plugin σ Unit) (op : RpcOp) (ctx : ZebraCtx) :
    Plugin σ Int := do
  if op ≠ .add ∧ op ≠ .del then return -1
  else
    let rmac : Rmac := ⟨ctx.macVni, ctx.macAddr, .ipv4 ctx.macVtepIp⟩
    sendRequest reconnect op (some ctx.ref) (.rmac rmac)

/-- Encode an ip_route next hop. -/
def nhopEncode (nh : NexthopAttrs) : NextHop where
  vrfid := nh.vrfId
  ifindex := nh.ifindex
  fwaction := if nh.type = .blackhole then .drop else .forward
  address :=
    match nh.type with
    | .ifindex => .none
    | .ipv4 gate => .ipv4 gate
    | .ipv4Ifindex gate => .ipv4 gate
    | .ipv6 gate => .ipv6 gate
    | .ipv6Ifindex gate => .ipv6 gate
    | .blackhole => .none
  vxlan := if nh.flags.evpn then nh.vxlanVni else none

/-- Map FRR's route types to the RPC types. -/
def encodeRouteType : ZebraRouteType → RouteType
  | .localRt => .localRt
  | .connect => .connected
  | .static => .static
  | .ospf => .ospf
  | .isis => .isis
  | .bgp => .bgp
  | .other _ => .other

/-- `ALL_NEXTHOPS_PTR`: FRR's walk over a group. From a next hop flagged
    RECURSIVE it goes down to the chain it resolves to, and ends when there is
    none; at the end of such a chain it goes up and on. `true` means that the
    walk ended early. -/
def walkResolved : List NexthopAttrs → List NexthopAttrs × Bool
  | [] => ([], false)
  | nh :: rest =>
    if nh.flags.recursive then ([nh], true)
    else (nh :: (walkResolved rest).1, (walkResolved rest).2)

def allNexthops : List Nexthop → List NexthopAttrs
  | [] => []
  | nh :: rest =>
    if nh.attrs.flags.recursive then
      if nh.resolved = [] then [nh.attrs]
      else if (walkResolved nh.resolved).2 then nh.attrs :: (walkResolved nh.resolved).1
      else nh.attrs :: (walkResolved nh.resolved).1 ++ allNexthops rest
    else nh.attrs :: allNexthops rest

/-- `NEXTHOP_IS_ACTIVE`. -/
def NexthopFlags.isActive (flags : NexthopFlags) : Bool := flags.active && !flags.duplicate

/-- The next hops that `send_rpc_request_iproute` adds to the route. -/
def iprouteNhops (ng : List Nexthop) : List NextHop :=
  let hasRecursive := (allNexthops ng).any (·.flags.recursive)
  ((allNexthops ng).filter fun nh =>
    nh.flags.isActive && ((hasRecursive && nh.flags.recursive) || !hasRecursive)).map nhopEncode

/-- Send a request to Add / Del / Update an ip route. -/
def sendRpcRequestIproute (reconnect : Plugin σ Unit) (op : RpcOp) (ctx : ZebraCtx) :
    Plugin σ Int := do
  if op ≠ .add ∧ op ≠ .del ∧ op ≠ .update then return -1
  else
    let route : IpRoute :=
      { tableid := ctx.table, type := encodeRouteType ctx.type, distance := ctx.distance,
        metric := ctx.metric, vrfid := ctx.vrf, len := ctx.dest.prefixlen,
        prefixAddr := ctx.dest.addr.toIpAddress, nhops := iprouteNhops ctx.ng }
    sendRequest reconnect op (some ctx.ref) (.ipRoute route)

/-- Send a control message (keepalive). -/
def sendRpcControl (reconnect : Plugin σ Unit) (refresh : UInt8) : Plugin σ Int := do
  let m ← dpMsgNew
  sendRpcMsg reconnect { m with msg := { m.msg with type := .control, control := ⟨refresh⟩ } }

end DplanePlugin
