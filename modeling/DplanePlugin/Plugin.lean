/-
  DplanePlugin/Plugin.lean
  ========================
  **The callbacks (`hh_dp_plugin.c`, and what FRR calls in `hh_dp_comm.c`) and
  the runs of the plugin.**

  All callbacks run in the dataplane pthread, one after the other.  FRR clears
  an event's reference before it runs the callback.  `Reachable w` says that `w`
  is the state between two callbacks in some run from `init_dplane_rpc` on and
  before `fini_dplane_rpc`: any contexts, any work limit, any results of the
  system calls.  A callback that aborts, or never returns, ends its run.
-/
import DplanePlugin.Process

namespace DplanePlugin

open Lib

variable {σ : Type} [Os σ]

/-- The loop of `zd_hh_process` with `limit` rounds left; `queue` is what is
    left of the provider's in queue. -/
def zdHhProcessLoop (reconnect : Plugin σ Unit) : Nat → List ZebraCtx → Plugin σ Unit
  | 0, _ => return ()
  | _ + 1, [] => return ()
  | limit + 1, ctx :: queue => do
    observe (.dequeued ctx.ref)
    let w ← get
    if w.finalizing = false then
      zdHhProcessUpdate reconnect ctx
      zdHhProcessLoop reconnect limit queue
    else
      -- tell zebra deletions failed
      observe (.enqueuedOut ctx.ref .failure)
      zdHhProcessLoop reconnect limit queue

/-- Callback from the dataplane to process incoming work. -/
def zdHhProcess (reconnect : Plugin σ Unit) (limit : Nat) (queue : List ZebraCtx) :
    Plugin σ Unit := do
  zdHhProcessLoop reconnect limit queue
  let w ← get
  if w.finalizing then observe .workReady else return ()

/-- `zd_hh_fini` with `early` set. -/
def zdHhFiniEarly : Plugin σ Unit := modify fun w => { w with finalizing := true }

/-! ### Callbacks -/

/-- A call from zebra or FRR. -/
inductive Callback where
  | process (limit : Nat) (queue : List ZebraCtx)
  | connectTimer
  | recv
  | send
  | keepalive
  | finiEarly

def Callback.kind : Callback → CallbackKind
  | .process _ _ => .process
  | .connectTimer => .connectTimer
  | .recv => .recv
  | .send => .send
  | .keepalive => .keepalive
  | .finiEarly => .finiEarly

/-- A callback of an event can only come when the event is armed. -/
def Callback.enabled (cb : Callback) (w : World σ) : Prop :=
  match cb with
  | .process _ _ => True
  | .connectTimer => w.evConnectTimer = true
  | .recv => w.evRecv.isSome
  | .send => w.evSend.isSome
  | .keepalive => w.evKeepalive = true
  | .finiEarly => True

instance (cb : Callback) (w : World σ) : Decidable (cb.enabled w) := by
  cases cb <;> unfold Callback.enabled <;> infer_instance

/-- FRR clears the reference of the event and runs the callback, with reconnects
    to the depth `n` and loops of `n` rounds. -/
def Callback.run (n : Nat) (cb : Callback) : Plugin σ Unit := do
  observe (.callback cb.kind)
  match cb with
  | .process limit queue => zdHhProcess (dpConnect n) limit queue
  | .connectTimer =>
    modify fun w => { w with evConnectTimer := false }
    dpConnect n
  | .recv =>
    modify fun w => { w with evRecv := none }
    dpRpcRecv n (dpConnect n)
  | .send =>
    modify fun w => { w with evSend := none }
    dpSockSendCb (dpConnect n)
  | .keepalive =>
    modify fun w => { w with evKeepalive := false }
    dpSendKeepalive (dpConnect n)
  | .finiEarly => zdHhFiniEarly

/-! ### Runs -/

/-- The states between two callbacks. -/
inductive Reachable : World σ → Prop
  | init {pluginSockPath dpSockPath : PathBuf} {os : σ} {n : Nat} {w : World σ} :
      Ran (initDplaneRpc n) (World.start pluginSockPath dpSockPath os) 0 w → Reachable w
  | callback {w w' : World σ} {n : Nat} {cb : Callback} :
      Reachable w → cb.enabled w → Ran (cb.run n) w () w' → Reachable w'
  | outside {w : World σ} {os : σ} :
      Reachable w → Os.moves w.os os → Reachable { w with os := os }

/-- The states between two callbacks, and those in which a callback stops: it
    aborts, or is cut at any depth of nested reconnects or round of a loop. The
    log of such a state is what a run did up to any moment of a callback that
    never returns. -/
inductive Reached : World σ → Prop
  | between {w : World σ} : Reachable w → Reached w
  | inInit {pluginSockPath dpSockPath : PathBuf} {os : σ} {n : Nat} {e : Halt} {w : World σ} :
      Halts (initDplaneRpc n) (World.start pluginSockPath dpSockPath os) e w → Reached w
  | inCallback {w w' : World σ} {n : Nat} {cb : Callback} {e : Halt} :
      Reachable w → cb.enabled w → Halts (cb.run n) w e w' → Reached w'

end DplanePlugin
