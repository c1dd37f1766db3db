/-
  DplanePlugin/Proto.lean
  =======================
  **The RPC messages the plugin and the dataplane exchange, and zebra's
  contexts.**

  The wire protocol itself (`dplane-rpc`) and FRR are not part of the
  repository; what is here is what `hh_dp_msg.c`, `hh_dp_process.c` and
  `hh_dp_rpc_stats.c` name of them.  A C union under a type tag (`struct
  RpcMsg`) is a structure with one field for each member the code reads: the
  code reads a member only where it checked the tag, except where this is noted.
  Of an enumeration, `known` are the codes that this code does not name, and
  `unknown` the ones outside its range.
-/
import Mathlib.Logic.Basic

namespace DplanePlugin

/-! ### Operations, objects and result codes -/

/-- `enum RpcOp`; `known` are the other codes below `MaxRpcOp`, `unknown` the ones
    from there on. -/
inductive RpcOp where
  | connect | add | del | update
  | known (code : Nat)
  | unknown (code : Nat)
deriving DecidableEq, Repr

/-- `enum RpcResultCode`; `known` are the other codes below
    `RpcResultCodeMax`, `unknown` the ones from there on. -/
inductive RpcResultCode where
  | ok | ignored
  | known (code : Nat)
  | unknown (code : Nat)
deriving DecidableEq, Repr

/-- `struct ver_info`: the version a Connect declares. -/
structure VerInfo where
  major : UInt8
  minor : UInt8
  patch : UInt8
deriving DecidableEq, Repr

/-- `struct conn_info`. `synt` is the sync token: an incarnation of the
    dataplane reports its own in the response to a Connect. -/
structure ConnInfo where
  name : String
  pid : UInt32
  verinfo : VerInfo
  synt : UInt64
deriving DecidableEq, Repr

/-- An address of the RPC protocol; `none` is the zeroed one. -/
inductive IpAddress where
  | none
  | ipv4 (addr : UInt32)
  | ipv6 (addr : List UInt8)
deriving DecidableEq, Repr

structure IfAddress where
  ifname : String
  ifindex : UInt32
  vrfid : UInt32
  len : UInt8
  address : IpAddress
deriving DecidableEq, Repr

structure Rmac where
  vni : UInt32
  mac : List UInt8
  address : IpAddress
deriving DecidableEq, Repr

inductive FwAction where
  | forward | drop
deriving DecidableEq, Repr

/-- `struct next_hop`; `vxlan` is `some vni` for a VXLAN encapsulation. -/
structure NextHop where
  vrfid : UInt32
  ifindex : UInt32
  fwaction : FwAction
  address : IpAddress
  vxlan : Option UInt32
deriving DecidableEq, Repr

/-- `RouteType` of the RPC protocol. -/
inductive RouteType where
  | localRt | connected | static | ospf | isis | bgp | other
deriving DecidableEq, Repr

structure IpRoute where
  tableid : UInt32
  type : RouteType
  distance : UInt8
  metric : UInt32
  vrfid : UInt32
  len : UInt8
  prefixAddr : IpAddress
  nhops : List NextHop
deriving DecidableEq, Repr

/-- `enum ObjType`; `known` are the other codes below `MaxObjType`. -/
inductive ObjType where
  | none | connectInfo | ifAddress | rmac | ipRoute
  | known (code : Nat)
deriving DecidableEq, Repr

/-- `struct RpcObject`; `none` is the zeroed one. -/
inductive RpcObject where
  | none
  | connInfo (info : ConnInfo)
  | ifAddress (ifa : IfAddress)
  | rmac (rmac : Rmac)
  | ipRoute (route : IpRoute)
deriving DecidableEq, Repr

/-- `object.type`. -/
def RpcObject.type : RpcObject → ObjType
  | .none => .none
  | .connInfo _ => .connectInfo
  | .ifAddress _ => .ifAddress
  | .rmac _ => .rmac
  | .ipRoute _ => .ipRoute

/-! ### Messages -/

inductive MsgType where
  | zeroed | request | response | control | notification
  | unknown (code : Nat)
deriving DecidableEq, Repr

structure RpcRequest where
  op : RpcOp
  seqn : UInt64
  object : RpcObject
deriving DecidableEq, Repr

/-- `struct RpcResponse`. The code reads `objects->conn_info.synt` of the first
    object whatever its type is, so `objects` is what that read sees; `none` is
    the `NULL` list. -/
structure RpcResponse where
  op : RpcOp
  seqn : UInt64
  rescode : RpcResultCode
  objects : Option ConnInfo
deriving DecidableEq, Repr

structure RpcControl where
  refresh : UInt8
deriving DecidableEq, Repr

/-- `struct RpcMsg`: the tag and the members of the union. -/
structure RpcMsg where
  type : MsgType
  request : RpcRequest
  response : RpcResponse
  control : RpcControl
deriving DecidableEq, Repr

/-- The zeroed message, as `memset` leaves it. -/
def RpcMsg.zero : RpcMsg where
  type := .zeroed
  request := ⟨.unknown 0, 0, .none⟩
  response := ⟨.unknown 0, 0, .unknown 0, none⟩
  control := ⟨0⟩

/-- A message that holds a response. -/
def RpcMsg.ofResponse (resp : RpcResponse) : RpcMsg :=
  { RpcMsg.zero with type := .response, response := resp }

/-! ### The operating system's answers -/

/-- The errors `do_send_rpc_msg`, `sock_recv` and `dp_unix_connect` tell apart. -/
inductive Errno where
  | eagain | enobufs | enomem | eintr
  | epipe | enotconn | econnrefused | econnreset
  | eisconn
  | other (code : Nat)
deriving DecidableEq, Repr

/-- The result of `send()`: octets taken, or an error. -/
inductive SendResult where
  | octets (n : Nat)
  | error (e : Errno)
deriving DecidableEq, Repr

/-- A datagram read from the socket: its length, and what `decode_msg` makes of
    it (`none` when it does not return `E_OK`). -/
structure Datagram where
  octets : Nat
  decoded : Option RpcMsg
deriving DecidableEq, Repr

/-- The result of `recv()`. -/
inductive RecvResult where
  | data (d : Datagram)
  | error (e : Errno)
deriving DecidableEq, Repr

/-- The errors after which `do_send_rpc_msg` asks for write notification. -/
def Errno.isBlocked : Errno → Bool
  | .eagain | .enobufs | .enomem => true
  | _ => false

/-- The errors after which `do_send_rpc_msg` reconnects. -/
def Errno.isDisconnect : Errno → Bool
  | .epipe | .enotconn | .econnrefused | .econnreset => true
  | _ => false

/-- A `char[MAX_SUN_PATH + 1]` holding a socket path. -/
abbrev PathBuf := List UInt8

/-- `MAX_SUN_PATH`, the size of `sun_path`. -/
def maxSunPath : Nat := 108

/-- `strlen` of a path buffer. -/
def PathBuf.strlen (path : PathBuf) : Nat := (path.takeWhile (· ≠ 0)).length

/-! ### Zebra's contexts -/

/-- The address of a `struct zebra_dplane_ctx`. -/
abbrev CtxRef := Nat

/-- `enum zebra_dplane_result`; `bug` is `HH_BUG`, which `hh_ret_to_zebra`
    returns as a zebra result when it is handed `HH_QUEUED`. -/
inductive ZebraResult where
  | success | failure | bug
deriving DecidableEq, Repr

/-- `enum dplane_op_e`. -/
inductive DplaneOp where
  | none
  | routeInstall | routeUpdate | routeDelete | routeNotify
  | nhInstall | nhUpdate | nhDelete
  | lspInstall | lspUpdate | lspDelete | lspNotify
  | pwInstall | pwUninstall
  | sysRouteAdd | sysRouteDelete
  | addrInstall | addrUninstall
  | macInstall | macDelete
  | neighInstall | neighUpdate | neighDelete | neighDiscover
  | vtepAdd | vtepDelete
  | ruleAdd | ruleDelete | ruleUpdate
  | brPortUpdate
  | iptableAdd | iptableDelete
  | ipsetAdd | ipsetDelete | ipsetEntryAdd | ipsetEntryDelete
  | neighIpInstall | neighIpDelete | neighTableUpdate
  | greSet
  | intfAddrAdd | intfAddrDel
  | intfNetconfig
  | intfInstall | intfUpdate | intfDelete
  | tcQdiscInstall | tcQdiscUninstall | tcClassAdd | tcClassDelete | tcClassUpdate
  | tcFilterAdd | tcFilterDelete | tcFilterUpdate
  | vlanInstall | providerRefresh
  | startupStage
  | srv6EncapSrcaddrSet
  | unknown (code : Nat)
deriving DecidableEq, Repr

inductive Afi where
  | ip | l2vpn
  | other (code : Nat)
deriving DecidableEq, Repr

inductive Safi where
  | unicast | evpn
  | other (code : Nat)
deriving DecidableEq, Repr

/-- `struct prefix`: IPv4 (`AF_INET`), or read as IPv6. -/
inductive PrefixAddr where
  | inet (addr : UInt32)
  | other (addr : List UInt8)
deriving DecidableEq, Repr

structure IpPrefix where
  prefixlen : UInt8
  addr : PrefixAddr
deriving DecidableEq, Repr

/-- `enum nexthop_types_t`, with the gateway the type comes with. -/
inductive NexthopType where
  | ifindex
  | ipv4 (gate : UInt32)
  | ipv4Ifindex (gate : UInt32)
  | ipv6 (gate : List UInt8)
  | ipv6Ifindex (gate : List UInt8)
  | blackhole
deriving DecidableEq, Repr

/-- The `NEXTHOP_FLAG_*` bits the code tests. -/
structure NexthopFlags where
  active : Bool
  duplicate : Bool
  recursive : Bool
  evpn : Bool
deriving DecidableEq, Repr

/-- `struct nexthop` without its links; `vxlanVni` is `some vni` when
    `nh_encap_type` is `NET_VXLAN`. -/
structure NexthopAttrs where
  vrfId : UInt32
  ifindex : UInt32
  type : NexthopType
  flags : NexthopFlags
  vxlanVni : Option UInt32
deriving DecidableEq, Repr

/-- A top-level next hop of a group and the chain it resolves to. -/
structure Nexthop where
  attrs : NexthopAttrs
  resolved : List NexthopAttrs
deriving DecidableEq, Repr

/-- `ZEBRA_ROUTE_*`. -/
inductive ZebraRouteType where
  | localRt | connect | static | ospf | isis | bgp
  | other (code : Nat)
deriving DecidableEq, Repr

/-- A zebra dataplane context: its address and what the `dplane_ctx_get_*`
    accessors the plugin calls return for it. -/
structure ZebraCtx where
  ref : CtxRef
  op : DplaneOp
  afi : Afi
  safi : Safi
  type : ZebraRouteType
  vrf : UInt32
  table : UInt32
  distance : UInt8
  metric : UInt32
  dest : IpPrefix
  ng : List Nexthop
  intfAddr : IpPrefix
  ifname : String
  ifindex : UInt32
  ifpVrfId : UInt32
  macVni : UInt32
  macAddr : List UInt8
  macVtepIp : UInt32
deriving DecidableEq, Repr

end DplanePlugin
