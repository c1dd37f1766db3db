/-
  DplanePlugin/Process.lean
  =========================
  **Processing zebra's contexts (`hh_dp_process.c`).**

  The families of operations the plugin has no interest in keep one case for
  each operation, as the source has them.
-/
import DplanePlugin.Responses

namespace DplanePlugin

open Lib

variable {σ : Type}

/-- `hh_dp_res_t`. -/
inductive HhDpRes where
  | ok | fail | queued | ignored | bug
deriving DecidableEq, Repr

/-- `hh_ret_to_zebra`: `HH_QUEUED` is a bug here, and `HH_BUG` is returned. -/
def hhRetToZebra : HhDpRes → ZebraResult
  | .ok => .success
  | .fail => .failure
  | .queued => .bug
  | .ignored => .success
  | .bug => .failure

/-- `!r ? HH_QUEUED : HH_FAIL`. -/
def queuedUnlessFailed (r : Int) : HhDpRes := if r = 0 then .queued else .fail

variable [Os σ]

def hhProcessRoutes (reconnect : Plugin σ Unit) (ctx : ZebraCtx) : Plugin σ HhDpRes :=
  -- currently we only care about IPv4 and L2vpn, unicast and evpn
  if ctx.afi ≠ .ip ∧ ctx.afi ≠ .l2vpn then return .ignored
  else if ctx.safi ≠ .unicast ∧ ctx.safi ≠ .evpn then return .ignored
  else do
    -- do not install in kernel routes for non-default vrf
    (if ctx.vrf ≠ 0 then observe (.skipKernel ctx.ref) else pure ())
    match ctx.op with
    | .routeInstall => do
      let r ← sendRpcRequestIproute reconnect .add ctx
      return queuedUnlessFailed r
    | .routeUpdate => do
      let r ← sendRpcRequestIproute reconnect .update ctx
      return queuedUnlessFailed r
    | .routeDelete => do
      let r ← sendRpcRequestIproute reconnect .del ctx
      return queuedUnlessFailed r
    | .routeNotify => return .ignored
    | .sysRouteAdd | .sysRouteDelete => return .ignored
    | _ => return .bug

def hhProcessIfaddr (reconnect : Plugin σ Unit) (ctx : ZebraCtx) : Plugin σ HhDpRes :=
  match ctx.intfAddr.addr with
  | .other _ => return .ignored
  | .inet _ =>
    match ctx.op with
    | .addrInstall => do
      let r ← sendRpcRequestIfaddress reconnect .add ctx
      return queuedUnlessFailed r
    | .addrUninstall => do
      let r ← sendRpcRequestIfaddress reconnect .del ctx
      return queuedUnlessFailed r
    | _ => return .bug

def hhProcessNeigh (ctx : ZebraCtx) : HhDpRes :=
  match ctx.op with
  | .neighInstall | .neighUpdate | .neighDelete | .neighDiscover
  | .vtepAdd | .vtepDelete => .ignored
  | _ => .bug

def hhProcessNh (ctx : ZebraCtx) : HhDpRes :=
  match ctx.op with
  | .nhInstall | .nhUpdate | .nhDelete => .ignored
  | _ => .bug

def hhProcessMacinfo (reconnect : Plugin σ Unit) (ctx : ZebraCtx) : Plugin σ HhDpRes :=
  match ctx.op with
  | .macInstall => do
    let r ← sendRpcRequestRmac reconnect .add ctx
    return queuedUnlessFailed r
  | .macDelete => do
    let r ← sendRpcRequestRmac reconnect .del ctx
    return queuedUnlessFailed r
  | _ => return .bug

def hhProcess (reconnect : Plugin σ Unit) (ctx : ZebraCtx) : Plugin σ HhDpRes :=
  match ctx.op with
  | .none => return .ignored
  | .routeInstall | .routeUpdate | .routeDelete | .routeNotify => hhProcessRoutes reconnect ctx
  | .nhInstall | .nhUpdate | .nhDelete => return hhProcessNh ctx
  | .lspInstall | .lspUpdate | .lspDelete | .lspNotify => return .ignored
  | .pwInstall | .pwUninstall => return .ignored
  | .sysRouteAdd | .sysRouteDelete => hhProcessRoutes reconnect ctx
  | .addrInstall | .addrUninstall => hhProcessIfaddr reconnect ctx
  | .macInstall | .macDelete => hhProcessMacinfo reconnect ctx
  | .neighInstall | .neighUpdate | .neighDelete | .neighDiscover
  | .vtepAdd | .vtepDelete => return hhProcessNeigh ctx
  | .ruleAdd | .ruleDelete | .ruleUpdate => return .ignored
  | .brPortUpdate => return .ignored
  | .iptableAdd | .iptableDelete => return .ignored
  | .ipsetAdd | .ipsetDelete | .ipsetEntryAdd | .ipsetEntryDelete => return .ignored
  | .neighIpInstall | .neighIpDelete | .neighTableUpdate => return .ignored
  | .greSet => return .ignored
  | .intfAddrAdd | .intfAddrDel => return .ignored
  | .intfNetconfig => return .ignored
  | .intfInstall | .intfUpdate | .intfDelete => return .ignored
  | .tcQdiscInstall | .tcQdiscUninstall | .tcClassAdd | .tcClassDelete | .tcClassUpdate
  | .tcFilterAdd | .tcFilterDelete | .tcFilterUpdate
  | .vlanInstall | .providerRefresh => return .ignored
  | .startupStage => return .ignored
  | .srv6EncapSrcaddrSet => return .ignored
  | .unknown _ => return .fail

/-- Process one context: either a request is queued for it, or it is given a
    status and queued back to zebra. -/
def zdHhProcessUpdate (reconnect : Plugin σ Unit) (ctx : ZebraCtx) : Plugin σ Unit := do
  let r ← hhProcess reconnect ctx
  if r ≠ .queued then observe (.enqueuedOut ctx.ref (hhRetToZebra r))
  else observe (.queued ctx.ref)

end DplanePlugin
