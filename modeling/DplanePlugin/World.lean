/-
  DplanePlugin/World.lean
  =======================
  **The state of the plugin, the operating system around it, and the log.**

  `World` has one field for each static of `hh_dp_comm.c`, `hh_dp_msg.c` and
  `hh_dp_msg_cache.c` that the modelled code reads, the state of the operating
  system, and a log.  The log is not part of the program: it records, in order,
  the calls and results that the statements about whole runs speak of, each with
  a `View` of the plugin's state at that moment.  No modelled function reads it.

  The operating system is any state machine (`Os`): every system call maps its
  state to a result and a next state, with no assumption at all, so a statement
  for every `Os` is one for all results of all calls.  FRR's event library is
  modelled by the references it sets and clears: `some fd` is an event armed for
  the descriptor `fd`.
-/
import DplanePlugin.Lib.Prog
import DplanePlugin.Proto
import Mathlib.Tactic.Simps.Basic

namespace DplanePlugin

open Lib

/-! ### Messages and statistics -/

/-- `struct dp_msg`; `ref` is its address, `ctx` is `none` for `NULL`. -/
structure DpMsg where
  ref : Nat
  msg : RpcMsg
  ctx : Option CtxRef
deriving DecidableEq, Repr

/-- The test that `can_send_rpc_request` and `send_rpc_msg` make for a Connect. -/
def RpcMsg.isConnect (msg : RpcMsg) : Bool :=
  decide (msg.type = .request) && decide (msg.request.op = .connect)

theorem RpcMsg.isConnect_iff (msg : RpcMsg) :
    msg.isConnect = true ↔ msg.type = .request ∧ msg.request.op = .connect := by
  simp [RpcMsg.isConnect]

/-- `struct rpc_req_stat_cell`. -/
structure RpcReqStatCell where
  sent : UInt64
  replied : UInt64
  unkErr : UInt64
  rescode : RpcResultCode → UInt64

/-- `struct rpc_stats`. -/
structure RpcStats where
  txOk : UInt64
  txFailure : UInt64
  txEagain : UInt64
  rxOk : UInt64
  rxFailure : UInt64
  rxEagain : UInt64
  msgEncodeFailure : UInt64
  msgDecodeFailure : UInt64
  requests : ObjType → RpcOp → RpcReqStatCell
  controlTx : UInt64
  controlRx : UInt64

/-- `RPC_STATS = {0}`. -/
def RpcStats.zero : RpcStats where
  txOk := 0
  txFailure := 0
  txEagain := 0
  rxOk := 0
  rxFailure := 0
  rxEagain := 0
  msgEncodeFailure := 0
  msgDecodeFailure := 0
  requests := fun _ _ => ⟨0, 0, 0, fun _ => 0⟩
  controlTx := 0
  controlRx := 0

/-! ### The log -/

/-- The callbacks FRR and zebra run in the dataplane pthread. -/
inductive CallbackKind where
  | process | connectTimer | recv | send | keepalive | finiEarly
deriving DecidableEq, Repr

/-- What the log records. -/
inductive Obs where
  /-- A callback starts. -/
  | callback (k : CallbackKind)
  /-- `dplane_provider_dequeue_in_ctx` returned `c`. -/
  | dequeued (c : CtxRef)
  /-- `dplane_ctx_set_skip_kernel`. -/
  | skipKernel (c : CtxRef)
  /-- `zd_hh_process_update` obtained `HH_QUEUED` for `c`. -/
  | queued (c : CtxRef)
  /-- `c` was given `st` and put on the provider's out queue, without `dp_msg_hand_off`. -/
  | enqueuedOut (c : CtxRef) (st : ZebraResult)
  /-- `dp_msg_hand_off` gave `c` the status `st` and put it on the out queue. -/
  | handedOff (c : CtxRef) (st : ZebraResult)
  /-- `dplane_provider_work_ready`. -/
  | workReady
  /-- `zebra_dplane_provider_refresh`. -/
  | providerRefresh
  /-- `send_rpc_msg` was called on `m`. -/
  | passed (m : DpMsg)
  /-- `dp_connect` was entered. -/
  | connecting
  /-- The result of `connect()`. -/
  | connect (result : Option Errno)
  /-- `dp_unix_sock_reopen` closed the socket and opened another. -/
  | reopened
  /-- The result of `encode_msg` on `m`: the octets written, if it succeeded. -/
  | encoded (m : DpMsg) (octets : Option Nat)
  /-- `m`, of so many octets, was handed to `send()`, and the result. -/
  | send (m : DpMsg) (octets : Nat) (result : SendResult)
  /-- `do_send_rpc_msg` returned 0 for `m`. -/
  | sent (m : DpMsg)
  /-- `handle_rpc_response` was called. -/
  | response (resp : RpcResponse)
  /-- `m` was taken from the in-flight list. -/
  | popped (m : DpMsg)
  /-- `dp_msg_recycle` refused `m`: its context `c` was still set. -/
  | recycleRefused (m : DpMsg) (c : CtxRef)
deriving DecidableEq, Repr

/-- The part of the plugin's state that a log entry keeps. -/
structure View where
  dpSock : Int
  connected : Bool
  ready : Bool
  synt : UInt64
  evConnectTimer : Bool
  evRecv : Option Int
  evSend : Option Int
  unsent : List DpMsg
  inFlight : List DpMsg
deriving DecidableEq, Repr

/-- A log entry: what happened, and the state it happened in. -/
structure Entry where
  obs : Obs
  view : View
deriving DecidableEq, Repr

/-! ### The state -/

/-- `NO_SOCK`. -/
def noSock : Int := -1

variable {σ : Type}

/-- The statics of the plugin, the operating system's state, and the log.
    `txBuff` is the number of octets in `tx_buff`, `none` when that is `NULL`;
    `nextRef` is an address no `dp_msg` was ever allocated at. -/
structure World (σ : Type) where
  os : σ
  pluginSockPath : PathBuf
  dpSockPath : PathBuf
  dpSock : Int
  dpSockConnected : Bool
  dplaneIsReady : Bool
  synt : UInt64
  seqnum : UInt64
  txBuff : Option Nat
  evConnectTimer : Bool
  evRecv : Option Int
  evSend : Option Int
  evKeepalive : Bool
  pool : List DpMsg
  unsent : List DpMsg
  inFlight : List DpMsg
  nextRef : Nat
  finalizing : Bool
  stats : RpcStats
  log : List Entry

/-- The statics as the program starts, after the socket paths were configured. -/
def World.start (pluginSockPath dpSockPath : PathBuf) (os : σ) : World σ where
  os := os
  pluginSockPath := pluginSockPath
  dpSockPath := dpSockPath
  dpSock := noSock
  dpSockConnected := false
  dplaneIsReady := false
  synt := 0
  seqnum := 1
  txBuff := none
  evConnectTimer := false
  evRecv := none
  evSend := none
  evKeepalive := false
  pool := []
  unsent := []
  inFlight := []
  nextRef := 0
  finalizing := false
  stats := .zero
  log := []

@[simps] def World.view (w : World σ) : View where
  dpSock := w.dpSock
  connected := w.dpSockConnected
  ready := w.dplaneIsReady
  synt := w.synt
  evConnectTimer := w.evConnectTimer
  evRecv := w.evRecv
  evSend := w.evSend
  unsent := w.unsent
  inFlight := w.inFlight

/-! ### The operating system -/

/-- The system calls, the library calls `encode_msg` and `buff_new`, and the
    version `dplane-rpc` was built with (`VER_DP_*`). The last field says what
    the system may do on its own between two callbacks. -/
class Os (σ : Type) where
  socket : σ → Int × σ
  unlink : PathBuf → σ → σ
  bind : Int → PathBuf → σ → Bool × σ
  chmod : PathBuf → σ → Bool × σ
  close : Int → σ → σ
  connect : Int → PathBuf → σ → Option Errno × σ
  send : Int → RpcMsg → Nat → σ → SendResult × σ
  recv : Int → σ → RecvResult × σ
  getpid : σ → UInt32
  verDp : σ → VerInfo
  encodeMsg : RpcMsg → σ → Option Nat × σ
  buffNew : σ → Bool × σ
  moves : σ → σ → Prop

/-! ### Programs of the plugin -/

/-- Why the plugin stopped. -/
inductive Halt where
  /-- `abort()`. -/
  | aborted
  /-- An `assert` failed. -/
  | assertFailed
  /-- A null pointer was followed. -/
  | nullDeref
  /-- The bound on loops and nested reconnects was reached. -/
  | outOfFuel
deriving DecidableEq, Repr

abbrev Plugin (σ α : Type) := Prog Halt (World σ) α

/-- The state with one more log entry. -/
def World.observe (w : World σ) (o : Obs) : World σ :=
  { w with log := w.log ++ [⟨o, w.view⟩] }

def observe (o : Obs) : Plugin σ Unit := modify (·.observe o)

@[simp] theorem ends_observe (o : Obs) (w : World σ) (r : Except Halt Unit) (w' : World σ) :
    Ends (observe o) w r w' ↔ r = .ok () ∧ w' = w.observe o := ends_modify _ _ _ _

@[simp] theorem ends_observe_bind {α : Type} (o : Obs) (f : Unit → Plugin σ α) (w : World σ)
    (r : Except Halt α) (w' : World σ) :
    Ends (observe o >>= f) w r w' ↔ Ends (f ()) (w.observe o) r w' := ends_modify_bind _ _ _ _ _

/-! ### What `observe` leaves alone -/

section Observe
variable (w : World σ) (o : Obs)

@[simp] theorem observe_log : (w.observe o).log = w.log ++ [⟨o, w.view⟩] := rfl
@[simp] theorem observe_view : (w.observe o).view = w.view := rfl
@[simp] theorem observe_os : (w.observe o).os = w.os := rfl
@[simp] theorem observe_pluginSockPath : (w.observe o).pluginSockPath = w.pluginSockPath := rfl
@[simp] theorem observe_dpSockPath : (w.observe o).dpSockPath = w.dpSockPath := rfl
@[simp] theorem observe_dpSock : (w.observe o).dpSock = w.dpSock := rfl
@[simp] theorem observe_dpSockConnected : (w.observe o).dpSockConnected = w.dpSockConnected := rfl
@[simp] theorem observe_dplaneIsReady : (w.observe o).dplaneIsReady = w.dplaneIsReady := rfl
@[simp] theorem observe_synt : (w.observe o).synt = w.synt := rfl
@[simp] theorem observe_seqnum : (w.observe o).seqnum = w.seqnum := rfl
@[simp] theorem observe_txBuff : (w.observe o).txBuff = w.txBuff := rfl
@[simp] theorem observe_evConnectTimer : (w.observe o).evConnectTimer = w.evConnectTimer := rfl
@[simp] theorem observe_evRecv : (w.observe o).evRecv = w.evRecv := rfl
@[simp] theorem observe_evSend : (w.observe o).evSend = w.evSend := rfl
@[simp] theorem observe_evKeepalive : (w.observe o).evKeepalive = w.evKeepalive := rfl
@[simp] theorem observe_pool : (w.observe o).pool = w.pool := rfl
@[simp] theorem observe_unsent : (w.observe o).unsent = w.unsent := rfl
@[simp] theorem observe_inFlight : (w.observe o).inFlight = w.inFlight := rfl
@[simp] theorem observe_nextRef : (w.observe o).nextRef = w.nextRef := rfl
@[simp] theorem observe_finalizing : (w.observe o).finalizing = w.finalizing := rfl
@[simp] theorem observe_stats : (w.observe o).stats = w.stats := rfl

end Observe

end DplanePlugin
