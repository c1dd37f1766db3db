/-
  DplanePlugin/RpcStats.lean
  ==========================
  **The statistics counters (`hh_dp_rpc_stats.c`).**

  Each counter is a `uint64_t` bumped by one atomic addition, so it wraps.  The
  two checks `op >= MaxRpcOp` and `otype >= MaxObjType` return without counting:
  an `ObjType` is always in range, an `RpcOp` is out of range when `unknown`.
  What `hh_vty_show_stats` shows of the counters is in `Display.lean`.
-/
import DplanePlugin.World

namespace DplanePlugin

open Lib

variable {σ : Type}

/-- `op >= MaxRpcOp`. -/
def RpcOp.outOfRange : RpcOp → Bool
  | .unknown _ => true
  | _ => false

/-- `rescode < RpcResultCodeMax`. -/
def RpcResultCode.inRange : RpcResultCode → Bool
  | .unknown _ => false
  | _ => true

/-- One cell of `requests` changed. -/
def RpcStats.updateCell (s : RpcStats) (otype : ObjType) (op : RpcOp)
    (f : RpcReqStatCell → RpcReqStatCell) : RpcStats :=
  { s with requests := fun t o =>
      if t = otype ∧ o = op then f (s.requests t o) else s.requests t o }

/-! ### The counters, as functions of the statistics -/

def RpcStats.tx (s : RpcStats) : RpcStats := { s with txOk := s.txOk + 1 }

/-- `(_err != EAGAIN) ? rpc_count_tx_failure() : rpc_count_tx_eagain()`. -/
def RpcStats.txError (s : RpcStats) (e : Errno) : RpcStats :=
  if e ≠ .eagain then { s with txFailure := s.txFailure + 1 }
  else { s with txEagain := s.txEagain + 1 }

def RpcStats.rx (s : RpcStats) : RpcStats := { s with rxOk := s.rxOk + 1 }

/-- `(_err != EAGAIN) ? rpc_count_rx_failure() : rpc_count_rx_eagain()`. -/
def RpcStats.rxError (s : RpcStats) (e : Errno) : RpcStats :=
  if e ≠ .eagain then { s with rxFailure := s.rxFailure + 1 }
  else { s with rxEagain := s.rxEagain + 1 }

def RpcStats.encodeFailure (s : RpcStats) : RpcStats :=
  { s with msgEncodeFailure := s.msgEncodeFailure + 1 }

def RpcStats.decodeFailure (s : RpcStats) : RpcStats :=
  { s with msgDecodeFailure := s.msgDecodeFailure + 1 }

def RpcStats.requestSent (s : RpcStats) (op : RpcOp) (otype : ObjType) : RpcStats :=
  if op.outOfRange then s
  else s.updateCell otype op fun c => { c with sent := c.sent + 1 }

def RpcStats.requestReplied (s : RpcStats) (op : RpcOp) (otype : ObjType)
    (rescode : RpcResultCode) : RpcStats :=
  if op.outOfRange then s
  else s.updateCell otype op fun c =>
    if rescode.inRange then
      { c with replied := c.replied + 1,
               rescode := fun r => if r = rescode then c.rescode r + 1 else c.rescode r }
    else { c with replied := c.replied + 1, unkErr := c.unkErr + 1 }

def RpcStats.ctlTx (s : RpcStats) : RpcStats := { s with controlTx := s.controlTx + 1 }

def RpcStats.ctlRx (s : RpcStats) : RpcStats := { s with controlRx := s.controlRx + 1 }

/-- `f` counts neither a request nor a message sent. -/
structure CountsNoRequest (f : RpcStats → RpcStats) : Prop where
  requests : ∀ s, (f s).requests = s.requests
  txOk : ∀ s, (f s).txOk = s.txOk
  controlTx : ∀ s, (f s).controlTx = s.controlTx

section CountsNoRequest

theorem CountsNoRequest.comp {f g : RpcStats → RpcStats} (hf : CountsNoRequest f)
    (hg : CountsNoRequest g) : CountsNoRequest fun s => g (f s) where
  requests s := (hg.requests _).trans (hf.requests s)
  txOk s := (hg.txOk _).trans (hf.txOk s)
  controlTx s := (hg.controlTx _).trans (hf.controlTx s)

theorem countsNoRequest_txError (e : Errno) : CountsNoRequest (·.txError e) := by
  constructor <;> intro s <;> simp only [RpcStats.txError] <;> split <;> rfl

theorem countsNoRequest_rxError (e : Errno) : CountsNoRequest (·.rxError e) := by
  constructor <;> intro s <;> simp only [RpcStats.rxError] <;> split <;> rfl

theorem countsNoRequest_rx : CountsNoRequest .rx := ⟨fun _ => rfl, fun _ => rfl, fun _ => rfl⟩

theorem countsNoRequest_encodeFailure : CountsNoRequest .encodeFailure :=
  ⟨fun _ => rfl, fun _ => rfl, fun _ => rfl⟩

theorem countsNoRequest_decodeFailure : CountsNoRequest .decodeFailure :=
  ⟨fun _ => rfl, fun _ => rfl, fun _ => rfl⟩

theorem countsNoRequest_ctlRx : CountsNoRequest .ctlRx :=
  ⟨fun _ => rfl, fun _ => rfl, fun _ => rfl⟩

end CountsNoRequest

/-! ### The counting functions of the source -/

/-- The state with the statistics changed by `f`. -/
def World.count (w : World σ) (f : RpcStats → RpcStats) : World σ :=
  { w with stats := f w.stats }

def count (f : RpcStats → RpcStats) : Plugin σ Unit := modify (·.count f)

@[simp] theorem ends_count (f : RpcStats → RpcStats) (w : World σ) (r : Except Halt Unit)
    (w' : World σ) :
    Ends (count f) w r w' ↔ r = .ok () ∧ w' = w.count f := ends_modify _ _ _ _

@[simp] theorem ends_count_bind {α : Type} (f : RpcStats → RpcStats) (g : Unit → Plugin σ α)
    (w : World σ) (r : Except Halt α) (w' : World σ) :
    Ends (count f >>= g) w r w' ↔ Ends (g ()) (w.count f) r w' := ends_modify_bind _ _ _ _ _

def rpcCountTx : Plugin σ Unit := count .tx
def rpcCountTxError (e : Errno) : Plugin σ Unit := count (·.txError e)
def rpcCountRx : Plugin σ Unit := count .rx
def rpcCountRxError (e : Errno) : Plugin σ Unit := count (·.rxError e)
def rpcCountEncodeFailure : Plugin σ Unit := count .encodeFailure
def rpcCountDecodeFailure : Plugin σ Unit := count .decodeFailure
def rpcCountRequestSent (op : RpcOp) (otype : ObjType) : Plugin σ Unit :=
  count (·.requestSent op otype)
def rpcCountRequestReplied (op : RpcOp) (otype : ObjType) (rescode : RpcResultCode) :
    Plugin σ Unit :=
  count (·.requestReplied op otype rescode)
def rpcCountCtlTx : Plugin σ Unit := count .ctlTx
def rpcCountCtlRx : Plugin σ Unit := count .ctlRx

section Count
variable (w : World σ) (f : RpcStats → RpcStats)

@[simp] theorem count_log : (w.count f).log = w.log := rfl
@[simp] theorem count_view : (w.count f).view = w.view := rfl
@[simp] theorem count_os : (w.count f).os = w.os := rfl
@[simp] theorem count_pluginSockPath : (w.count f).pluginSockPath = w.pluginSockPath := rfl
@[simp] theorem count_dpSockPath : (w.count f).dpSockPath = w.dpSockPath := rfl
@[simp] theorem count_dpSock : (w.count f).dpSock = w.dpSock := rfl
@[simp] theorem count_dpSockConnected : (w.count f).dpSockConnected = w.dpSockConnected := rfl
@[simp] theorem count_dplaneIsReady : (w.count f).dplaneIsReady = w.dplaneIsReady := rfl
@[simp] theorem count_synt : (w.count f).synt = w.synt := rfl
@[simp] theorem count_seqnum : (w.count f).seqnum = w.seqnum := rfl
@[simp] theorem count_txBuff : (w.count f).txBuff = w.txBuff := rfl
@[simp] theorem count_evConnectTimer : (w.count f).evConnectTimer = w.evConnectTimer := rfl
@[simp] theorem count_evRecv : (w.count f).evRecv = w.evRecv := rfl
@[simp] theorem count_evSend : (w.count f).evSend = w.evSend := rfl
@[simp] theorem count_evKeepalive : (w.count f).evKeepalive = w.evKeepalive := rfl
@[simp] theorem count_pool : (w.count f).pool = w.pool := rfl
@[simp] theorem count_unsent : (w.count f).unsent = w.unsent := rfl
@[simp] theorem count_inFlight : (w.count f).inFlight = w.inFlight := rfl
@[simp] theorem count_nextRef : (w.count f).nextRef = w.nextRef := rfl
@[simp] theorem count_finalizing : (w.count f).finalizing = w.finalizing := rfl
@[simp] theorem count_stats : (w.count f).stats = f w.stats := rfl

end Count

end DplanePlugin
