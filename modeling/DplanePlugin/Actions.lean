/-
  DplanePlugin/Actions.lean
  =========================
  **The plugin as a pushdown machine of atomic actions.**

  Between two system calls, and between a call of one function and its return,
  the program does something simple; where it is in the nesting of
  `send_pending_rpc_msgs`, `do_send_rpc_msg`, `dp_connect` and
  `send_rpc_request_connect` decides what may come next.  A `Config` is a state
  with a stack of frames, one for each call in progress that a later action
  depends on, and the messages that are in the hands of these calls and in no
  list are in the frames.  `Act` has one rule for each thing the code can do.

  This is the layer the invariants of whole runs are proved on, rule by rule;
  `Refinement.lean` shows that every callback of the program is a path of it.
-/
import DplanePlugin.Plugin

namespace DplanePlugin

open Lib

variable {σ : Type}

/-- Who sends a message: the drain of the unsent list, or `send_rpc_msg` for a
    Connect. -/
inductive Origin where
  | unsent | connect
deriving DecidableEq, Repr

/-- A call in progress, with what it holds. -/
inductive Frame where
  /-- `zd_hh_process` has dequeued a context. -/
  | processing (c : CtxRef)
  /-- Its request was cached. -/
  | queueing (c : CtxRef)
  /-- `send_pending_rpc_msgs` runs. -/
  | draining
  /-- `dp_sock_send_cb` runs. -/
  | writing
  /-- `dp_connect` is about to run. -/
  | reconnect
  /-- `dp_connect` has a Connect sent, and will schedule receiving. -/
  | subscribing
  /-- `do_send_rpc_msg` was called on `m`. -/
  | sending (o : Origin) (m : DpMsg)
  /-- It returns -1, or will after a reconnect. -/
  | failed (o : Origin) (m : DpMsg)
  /-- `dp_rpc_recv` has decoded `msg`. -/
  | received (msg : RpcMsg)
  /-- `handle_rpc_response` was called in a state with the view `v`. -/
  | handling (resp : RpcResponse) (v : View)
  /-- It is purging the in-flight list. -/
  | purging (resp : RpcResponse) (v : View)
  /-- `m` was answered and is to be recycled. -/
  | answered (m : DpMsg)
  /-- `abort()` was called. -/
  | aborted
deriving DecidableEq, Repr

/-- The message of the unsent list that is being sent. -/
def Origin.queued : Origin → DpMsg → List DpMsg
  | .unsent, m => [m]
  | .connect, _ => []

/-- The Connect that is being sent. -/
def Origin.connects : Origin → DpMsg → List DpMsg
  | .unsent, _ => []
  | .connect, m => [m]

/-- The message taken from the unsent list that a call in progress holds. -/
def Frame.queued : Frame → List DpMsg
  | .sending o m | .failed o m => o.queued m
  | _ => []

/-- The Connect that a call in progress holds. -/
def Frame.connects : Frame → List DpMsg
  | .sending o m | .failed o m => o.connects m
  | .answered m => [m]
  | _ => []

/-- The messages taken from the unsent list that the calls in progress hold. -/
def heldQueued (fs : List Frame) : List DpMsg := fs.flatMap Frame.queued

/-- The Connects that the calls in progress hold. -/
def heldConnects (fs : List Frame) : List DpMsg := fs.flatMap Frame.connects

section Held
variable (fs : List Frame)

@[simp] theorem heldQueued_nil : heldQueued [] = [] := rfl
@[simp] theorem heldQueued_cons (f : Frame) :
    heldQueued (f :: fs) = f.queued ++ heldQueued fs := List.flatMap_cons
@[simp] theorem heldConnects_nil : heldConnects [] = [] := rfl
@[simp] theorem heldConnects_cons (f : Frame) :
    heldConnects (f :: fs) = f.connects ++ heldConnects fs := List.flatMap_cons

end Held

attribute [simp] Origin.queued Origin.connects Frame.queued Frame.connects

/-- A stack of calls in progress, innermost first, and the state. -/
structure Config (σ : Type) where
  frames : List Frame
  world : World σ

/-! ### What the actions do to the state -/

/-- After `dp_connect` has called `connect()`. -/
@[simps] def World.connectTried (w : World σ) (os : σ) (result : Option Errno) : World σ :=
  { w with os := os, log := w.log ++ [⟨.connecting, w.view⟩] ++ [⟨.connect result, w.view⟩] }

/-- After `encode_msg` has failed. -/
@[simps] def World.encodeTried (w : World σ) (os : σ) (m : DpMsg) : World σ :=
  { w with os := os, txBuff := some 0, log := w.log ++ [⟨.encoded m none, w.view⟩] }

/-- After `m` was encoded in `len` octets and handed to `send()`. -/
@[simps] def World.sendTried (w : World σ) (os : σ) (m : DpMsg) (len : Nat)
    (result : SendResult) : World σ :=
  { w with os := os, txBuff := some len,
           log := w.log ++ [⟨.encoded m (some len), w.view⟩] ++ [⟨.send m len result, w.view⟩] }

/-- After a connection error of `send()`. -/
@[simps] def World.disconnected (w : World σ) : World σ :=
  { w with dpSockConnected := false, dplaneIsReady := false }

/-- After `m` was taken from the in-flight list, leaving `rest`. -/
@[simps] def World.popFlight (w : World σ) (m : DpMsg) (rest : List DpMsg) : World σ :=
  { w with inFlight := rest,
           log := w.log ++ [⟨.popped m, { w.view with inFlight := rest }⟩] }

/-- After `rpc_count_request_replied` for `m`. -/
@[simps] def World.replied (w : World σ) (m : DpMsg) (rescode : RpcResultCode) : World σ :=
  { w with stats :=
      w.stats.requestReplied m.msg.request.op m.msg.request.object.type rescode }

/-- After the context `c` was handed off with the status `st`. -/
@[simps] def World.handedOff (w : World σ) (c : CtxRef) (st : ZebraResult) : World σ :=
  { w with log := w.log ++ [⟨.handedOff c st, w.view⟩] ++ [⟨.workReady, w.view⟩] }

/-- After a Connect was accepted with the objects of its response. -/
@[simps] def World.accepted (w : World σ) (objects : Option ConnInfo) : World σ :=
  { w with synt := (objects.map (·.synt)).getD w.synt, dplaneIsReady := true }

/-- After `m` was sent and put in flight. -/
@[simps] def World.putInFlight (w : World σ) (m : DpMsg) : World σ :=
  { w with
    stats := w.stats.tx.requestSent m.msg.request.op m.msg.request.object.type,
    inFlight := w.inFlight ++ [m],
    log := w.log ++ [⟨.sent m, w.view⟩] }

/-- After `m`, which is no request, was sent; it is recycled next. -/
@[simps] def World.sentOther (w : World σ) (m : DpMsg) : World σ :=
  { w with
    stats := if m.msg.type = .control then w.stats.tx.ctlTx else w.stats.tx,
    log := w.log ++ [⟨.sent m, w.view⟩] }

/-- After `m` was passed to `send_rpc_msg` and cached. -/
@[simps] def World.cached (w : World σ) (m : DpMsg) : World σ :=
  { w with unsent := w.unsent ++ [m], log := w.log ++ [⟨.passed m, w.view⟩] }

/-! ### The actions -/

variable [Os σ]

/-- `m` is encoded in `len` octets, and `send()` answers `result` and leaves the
    operating system in `os`. -/
def World.Attempts (w : World σ) (m : DpMsg) (len : Nat) (result : SendResult) (os : σ) : Prop :=
  (Os.encodeMsg m.msg w.os).1 = some len ∧
    Os.send w.dpSock m.msg len (Os.encodeMsg m.msg w.os).2 = (result, os)

/-- `do_send_rpc_msg` gets as far as encoding `m`. -/
def World.MaySend (w : World σ) (m : DpMsg) : Prop :=
  w.txBuff.isSome = true ∧ (m.msg.isConnect = true ∨ w.dplaneIsReady = true)

theorem isDisconnect_of_blocked {e : Errno} (h : e.isBlocked = true) : e.isDisconnect = false := by
  cases e <;> first | rfl | cases h

/-- The path that `dp_unix_connect` accepts. -/
def PathBuf.Valid (path : PathBuf) : Prop :=
  ¬ (path.strlen = 0 ∨ path.strlen ≥ maxSunPath)

/-- One action of the plugin. -/
inductive Act : Config σ → Config σ → Prop
  -- dp_connect
  | noSocket {w : World σ} {fs : List Frame} (hsock : w.dpSock = noSock) :
      Act ⟨.reconnect :: fs, w⟩ ⟨fs, w.observe .connecting⟩
  | badPath {w : World σ} {fs : List Frame}
      (hsock : w.dpSock ≠ noSock) (hpath : ¬ w.dpSockPath.Valid) :
      Act ⟨.reconnect :: fs, w⟩ ⟨fs, { w.observe .connecting with evConnectTimer := true }⟩
  | refused {w : World σ} {fs : List Frame} {os : σ} {e : Errno} {w' : World σ}
      (hsock : w.dpSock ≠ noSock) (hpath : w.dpSockPath.Valid)
      (hconnect : Os.connect w.dpSock w.dpSockPath w.os = (some e, os)) (he : e ≠ .eisconn)
      (hreopen : Ran dpUnixSockReopen (w.connectTried os (some e)) () w') :
      Act ⟨.reconnect :: fs, w⟩ ⟨fs, { w' with evConnectTimer := true }⟩
  | connected {w : World σ} {fs : List Frame} {os : σ} {ref next : Nat} {pool : List DpMsg}
      {result : Option Errno} {cinfo : ConnInfo}
      (hsock : w.dpSock ≠ noSock)
      (hpath : w.dpSockPath.Valid)
      (hconnect : Os.connect w.dpSock w.dpSockPath w.os = (result, os))
      (hok : result = none ∨ result = some .eisconn) (halloc : w.Allocates ref pool next) :
      Act ⟨.reconnect :: fs, w⟩ ⟨.sending .connect (connectMsg ref cinfo) :: .subscribing :: fs,
        { w.connectTried os result with
          evConnectTimer := false, dpSockConnected := true,
          pool := pool, nextRef := next }.observe (.passed (connectMsg ref cinfo))⟩
  -- do_send_rpc_msg
  | notSent {w : World σ} {fs : List Frame} {o : Origin} {m : DpMsg} (hmay : ¬ w.MaySend m) :
      Act ⟨.sending o m :: fs, w⟩ ⟨.failed o m :: fs, w⟩
  | encodeFailed {w : World σ} {fs : List Frame} {o : Origin} {m : DpMsg} {os : σ}
      (hmay : w.MaySend m) (henc : Os.encodeMsg m.msg w.os = (none, os)) :
      Act ⟨.sending o m :: fs, w⟩
        ⟨.failed o m :: fs, (w.encodeTried os m).count .encodeFailure⟩
  | sendBlocked {w : World σ} {fs : List Frame} {o : Origin} {m : DpMsg} {len : Nat} {os : σ}
      {e : Errno}
      (hmay : w.MaySend m) (htry : w.Attempts m len (.error e) os)
      (he : e.isBlocked = true) :
      Act ⟨.sending o m :: fs, w⟩
        ⟨.failed o m :: fs, ((w.sendTried os m len (.error e)).count (·.txError e)).wakeon⟩
  | sendFailed {w : World σ} {fs : List Frame} {o : Origin} {m : DpMsg} {len : Nat} {os : σ}
      {e : Errno}
      (hmay : w.MaySend m) (htry : w.Attempts m len (.error e) os)
      (hb : e.isBlocked = false) (hd : e.isDisconnect = false) :
      Act ⟨.sending o m :: fs, w⟩
        ⟨.failed o m :: fs, (w.sendTried os m len (.error e)).count (·.txError e)⟩
  | sendShort {w : World σ} {fs : List Frame} {o : Origin} {m : DpMsg} {len : Nat} {os : σ}
      {r : Nat}
      (hmay : w.MaySend m) (htry : w.Attempts m len (.octets r) os)
      (hr : r ≠ len) :
      Act ⟨.sending o m :: fs, w⟩ ⟨.failed o m :: fs, w.sendTried os m len (.octets r)⟩
  | sendDisconnected {w : World σ} {fs : List Frame} {o : Origin} {m : DpMsg} {len : Nat} {os : σ}
      {e : Errno}
      (hmay : w.MaySend m) (htry : w.Attempts m len (.error e) os)
      (he : e.isDisconnect = true) (htimer : w.evConnectTimer = false) :
      Act ⟨.sending o m :: fs, w⟩ ⟨.reconnect :: .failed o m :: fs,
        ((w.sendTried os m len (.error e)).count (·.txError e)).disconnected⟩
  | sendDisconnectedTimer {w : World σ} {fs : List Frame} {o : Origin} {m : DpMsg} {len : Nat}
      {os : σ} {e : Errno}
      (hmay : w.MaySend m)
      (htry : w.Attempts m len (.error e) os) (he : e.isDisconnect = true)
      (htimer : w.evConnectTimer = true) :
      Act ⟨.sending o m :: fs, w⟩ ⟨.failed o m :: fs,
        ((w.sendTried os m len (.error e)).count (·.txError e)).disconnected⟩
  | sentRequest {w : World σ} {fs : List Frame} {o : Origin} {m : DpMsg} {len : Nat} {os : σ}
      (hmay : w.MaySend m) (htry : w.Attempts m len (.octets len) os)
      (hreq : m.msg.type = .request) :
      Act ⟨.sending o m :: fs, w⟩ ⟨fs, (w.sendTried os m len (.octets len)).putInFlight m⟩
  | sentOther {w : World σ} {fs : List Frame} {m : DpMsg} {len : Nat} {os : σ}
      (hmay : w.MaySend m) (htry : w.Attempts m len (.octets len) os)
      (hreq : m.msg.type ≠ .request) :
      Act ⟨.sending .unsent m :: fs, w⟩
        ⟨fs, ((w.sendTried os m len (.octets len)).sentOther m).recycle m⟩
  -- the callers of do_send_rpc_msg
  | dropConnect {w : World σ} {fs : List Frame} {m : DpMsg}
      : Act ⟨.failed .connect m :: fs, w⟩ ⟨fs, w.recycle m⟩
  | popUnsent {w : World σ} {fs : List Frame} {m : DpMsg} {rest : List DpMsg}
      (hq : w.unsent = m :: rest) :
      Act ⟨.draining :: fs, w⟩ ⟨.sending .unsent m :: .draining :: fs, { w with unsent := rest }⟩
  | pushBack {w : World σ} {fs : List Frame} {m : DpMsg} :
      Act ⟨.failed .unsent m :: .draining :: fs, w⟩ ⟨fs, { w with unsent := m :: w.unsent }⟩
  | drained {w : World σ} {fs : List Frame} (hq : w.unsent = []) : Act ⟨.draining :: fs, w⟩ ⟨fs, w⟩
  | subscribe {w : World σ} {fs : List Frame} :
      Act ⟨.subscribing :: fs, w⟩ ⟨fs, w.addRead⟩
  -- zd_hh_process
  | dequeue {w : World σ} {c : CtxRef} : Act ⟨[], w⟩ ⟨[.processing c], w.observe (.dequeued c)⟩
  | skipKernel {w : World σ} {c : CtxRef}
      : Act ⟨[.processing c], w⟩ ⟨[.processing c], w.observe (.skipKernel c)⟩
  | queueRequest {w : World σ} {c : CtxRef} {ref next : Nat} {pool : List DpMsg} {op : RpcOp}
      {object : RpcObject}
      (hop : op = .add ∨ op = .del ∨ op = .update)
      (halloc : w.Allocates ref pool next) :
      Act ⟨[.processing c], w⟩ ⟨[.draining, .queueing c],
        { w with pool := pool, nextRef := next, seqnum := w.seqnum + 1 }.cached
          (requestMsg ref op w.seqnum object (some c))⟩
  | queued {w : World σ} {c : CtxRef} : Act ⟨[.queueing c], w⟩ ⟨[], w.observe (.queued c)⟩
  | returned {w : World σ} {c : CtxRef} {st : ZebraResult} :
      Act ⟨[.processing c], w⟩ ⟨[], w.observe (.enqueuedOut c st)⟩
  -- dp_rpc_recv and handle_rpc_control
  | recvNothing {w : World σ} {os : σ} {r : RecvResult} {f : RpcStats → RpcStats}
      (hrecv : Os.recv w.dpSock w.os = (r, os)) (hr : ∀ d, r = .data d → ∀ msg,
        d.decoded = some msg → d.octets = 0) (hf : CountsNoRequest f) :
      Act ⟨[], w⟩ ⟨[], { w with os := os }.count f⟩
  | received {w : World σ} {os : σ} {d : Datagram} {msg : RpcMsg}
      (hrecv : Os.recv w.dpSock w.os = (.data d, os))
      (hd : d.octets ≠ 0) (hmsg : d.decoded = some msg) :
      Act ⟨[], w⟩ ⟨[.received msg], { w with os := os }.count .rx⟩
  | ignored {w : World σ} {msg : RpcMsg} (htype : msg.type ≠ .response) :
      Act ⟨[.received msg], w⟩ ⟨[], w⟩
  | refresh {w : World σ} {msg : RpcMsg} :
      Act ⟨[.received msg], w⟩ ⟨[.received msg], w.observe .providerRefresh⟩
  | controlReceived {w : World σ} {msg : RpcMsg} (htype : msg.type = .control) :
      Act ⟨[.received msg], w⟩ ⟨[], w.count .ctlRx⟩
  | queueControl {w : World σ} {fs : List Frame} {ref next : Nat} {pool : List DpMsg}
      {refresh : UInt8} (hfs : fs = [] ∨ ∃ msg, fs = [.received msg])
      (halloc : w.Allocates ref pool next) :
      Act ⟨fs, w⟩ ⟨.draining :: fs,
        { w with pool := pool, nextRef := next }.cached (controlMsg ref refresh)⟩
  -- handle_rpc_response
  | response {w : World σ} {msg : RpcMsg} (htype : msg.type = .response) :
      Act ⟨[.received msg], w⟩
        ⟨[.handling msg.response w.view], w.observe (.response msg.response)⟩
  | unmatched {w : World σ} {resp : RpcResponse} {v : View}
      (hsynt : reportsRestart resp w.synt = false) (hq : w.inFlight = []) :
      Act ⟨[.handling resp v], w⟩ ⟨[], w⟩
  | mismatched {w : World σ} {m : DpMsg} {rest : List DpMsg} {resp : RpcResponse} {v : View}
      (hsynt : reportsRestart resp w.synt = false) (hq : w.inFlight = m :: rest)
      (hmis : m.msg.type ≠ .request ∨ gotExpectedResponse resp m.msg.request = false) :
      Act ⟨[.handling resp v], w⟩ ⟨[], (w.popFlight m rest).recycle m⟩
  | completed {w : World σ} {m : DpMsg} {rest : List DpMsg} {c : CtxRef} {resp : RpcResponse}
      {v : View}
      (hsynt : reportsRestart resp w.synt = false) (hq : w.inFlight = m :: rest)
      (hreq : m.msg.type = .request) (hmat : gotExpectedResponse resp m.msg.request = true)
      (hop : resp.op = .add ∨ resp.op = .del ∨ resp.op = .update) (hctx : m.ctx = some c) :
      Act ⟨[.handling resp v], w⟩
        ⟨[], ((((w.popFlight m rest).replied m resp.rescode).handedOff c
          resp.rescode.toZebra)).recycle { m with ctx := none }⟩
  | answeredOther {w : World σ} {m : DpMsg} {rest : List DpMsg} {resp : RpcResponse} {v : View}
      (hsynt : reportsRestart resp w.synt = false) (hq : w.inFlight = m :: rest)
      (hreq : m.msg.type = .request) (hmat : gotExpectedResponse resp m.msg.request = true)
      (hop : resp.op ≠ .connect)
      (hctx : m.ctx = none ∨ ¬ (resp.op = .add ∨ resp.op = .del ∨ resp.op = .update)) :
      Act ⟨[.handling resp v], w⟩
        ⟨[], ((w.popFlight m rest).replied m resp.rescode).recycle m⟩
  | accepted {w : World σ} {m : DpMsg} {rest : List DpMsg} {resp : RpcResponse} {v : View}
      (hsynt : reportsRestart resp w.synt = false) (hq : w.inFlight = m :: rest)
      (hreq : m.msg.type = .request) (hmat : gotExpectedResponse resp m.msg.request = true)
      (hop : resp.op = .connect) (hok : resp.rescode = .ok) :
      Act ⟨[.handling resp v], w⟩
        ⟨[.draining, .answered m],
          ((w.popFlight m rest).replied m resp.rescode).accepted resp.objects⟩
  | refusedConnect {w : World σ} {m : DpMsg} {rest : List DpMsg} {resp : RpcResponse} {v : View}
      (hsynt : reportsRestart resp w.synt = false) (hq : w.inFlight = m :: rest)
      (hreq : m.msg.type = .request) (hmat : gotExpectedResponse resp m.msg.request = true)
      (hop : resp.op = .connect) (hok : resp.rescode ≠ .ok) :
      Act ⟨[.handling resp v], w⟩
        ⟨[.aborted], (w.popFlight m rest).replied m resp.rescode⟩
  | purge {w : World σ} {resp : RpcResponse} {v : View}
      (hsynt : reportsRestart resp w.synt = true) :
      Act ⟨[.handling resp v], w⟩ ⟨[.purging resp v], w⟩
  | purged {w : World σ} {m : DpMsg} {rest : List DpMsg} {c : CtxRef} {resp : RpcResponse}
      {v : View}
      (hq : w.inFlight = m :: rest)
      (hop : m.msg.request.op = .add ∨ m.msg.request.op = .del ∨ m.msg.request.op = .update)
      (hctx : m.ctx = some c) :
      Act ⟨[.purging resp v], w⟩
        ⟨[.purging resp v], ((((w.popFlight m rest).replied m .ok).handedOff c
          .success)).recycle { m with ctx := none }⟩
  | purgedOther {w : World σ} {m : DpMsg} {rest : List DpMsg} {resp : RpcResponse} {v : View}
      (hq : w.inFlight = m :: rest) (hop : m.msg.request.op ≠ .connect)
      (hctx : m.ctx = none ∨ ¬ (m.msg.request.op = .add ∨ m.msg.request.op = .del ∨
        m.msg.request.op = .update)) :
      Act ⟨[.purging resp v], w⟩
        ⟨[.purging resp v], ((w.popFlight m rest).replied m .ok).recycle m⟩
  | purgeAccepted {w : World σ} {m : DpMsg} {rest : List DpMsg} {resp : RpcResponse} {v : View}
      (hq : w.inFlight = m :: rest) (hop : m.msg.request.op = .connect)
      (hok : resp.rescode = .ok) :
      Act ⟨[.purging resp v], w⟩
        ⟨[.answered m, .purging resp v],
          ((w.popFlight m rest).replied m resp.rescode).accepted resp.objects⟩
  | purgeRefused {w : World σ} {m : DpMsg} {rest : List DpMsg} {resp : RpcResponse} {v : View}
      (hq : w.inFlight = m :: rest) (hop : m.msg.request.op = .connect)
      (hok : resp.rescode ≠ .ok) :
      Act ⟨[.purging resp v], w⟩
        ⟨[.aborted], (w.popFlight m rest).replied m resp.rescode⟩
  | purgeDone {w : World σ} {resp : RpcResponse} {v : View}
      (hq : w.inFlight = []) : Act ⟨[.purging resp v], w⟩ ⟨[], w⟩
  | recycle {w : World σ} {fs : List Frame} {m : DpMsg} :
      Act ⟨.answered m :: fs, w⟩ ⟨fs, w.recycle m⟩
  -- FRR, and the rest of the callbacks
  | started {w : World σ} {k : CallbackKind} (hk : k = .process ∨ k = .finiEarly) :
      Act ⟨[], w⟩ ⟨[], w.observe (.callback k)⟩
  | timerFired {w : World σ} (h : w.evConnectTimer = true) :
      Act ⟨[], w⟩
        ⟨[.reconnect], { w.observe (.callback .connectTimer) with evConnectTimer := false }⟩
  | recvFired {w : World σ} (h : w.evRecv.isSome = true) :
      Act ⟨[], w⟩ ⟨[], { w.observe (.callback .recv) with evRecv := none }.addRead⟩
  | writeFired {w : World σ} (h : w.evSend.isSome = true) :
      Act ⟨[], w⟩ ⟨[.draining, .writing], { w.observe (.callback .send) with evSend := none }⟩
  | writeDone {w : World σ} (hq : w.unsent = []) : Act ⟨[.writing], w⟩ ⟨[], w⟩
  | writeAgain {w : World σ} (hq : w.unsent ≠ []) : Act ⟨[.writing], w⟩ ⟨[], w.wakeon⟩
  | keepaliveFired {w : World σ} (h : w.evKeepalive = true) :
      Act ⟨[], w⟩ ⟨[], { w.observe (.callback .keepalive) with evKeepalive := false }⟩
  | keepaliveArmed {w : World σ} : Act ⟨[], w⟩ ⟨[], { w with evKeepalive := true }⟩
  | workReady {w : World σ} : Act ⟨[], w⟩ ⟨[], w.observe .workReady⟩
  | finalized {w : World σ} : Act ⟨[], w⟩ ⟨[], { w with finalizing := true }⟩
  | outside {w : World σ} {os : σ} (h : Os.moves w.os os) : Act ⟨[], w⟩ ⟨[], { w with os := os }⟩

/-- A path of actions. -/
abbrev Path (s s' : Config σ) : Prop := Relation.ReflTransGen Act s s'

/-- The configurations an initialized plugin starts in: `dp_connect` is about to
    run. -/
def Config.Initial (s : Config σ) : Prop :=
  ∃ (pluginSockPath dpSockPath : PathBuf) (os₀ os : σ) (sock : Int), sock ≠ noSock ∧
    s = ⟨[.reconnect],
      { World.start pluginSockPath dpSockPath os₀ with
        os := os, dpSock := sock, txBuff := some 0, pool := initialPool, nextRef := 1000 }⟩

/-- A run of the machine from an initial configuration. -/
def Config.Reachable (s : Config σ) : Prop :=
  ∃ s₀ : Config σ, s₀.Initial ∧ Path s₀ s

theorem Config.Reachable.tail {s s' : Config σ} (h : s.Reachable) (hact : Act s s') :
    s'.Reachable := by
  obtain ⟨s₀, h₀, hpath⟩ := h
  exact ⟨s₀, h₀, hpath.tail hact⟩

/-- What holds initially and is kept by every action holds in every run. An
    action may be assumed to start in a reachable configuration, which gives the
    invariants that are known already. -/
theorem Config.Reachable.induct {I : Config σ → Prop} (hinit : ∀ s, s.Initial → I s)
    (hact : ∀ s s', s.Reachable → I s → Act s s' → I s') {s : Config σ} (h : s.Reachable) :
    I s := by
  obtain ⟨s₀, h₀, hpath⟩ := h
  induction hpath with
  | refl => exact hinit _ h₀
  | tail hpath hlast ih => exact hact _ _ ⟨s₀, h₀, hpath⟩ ih hlast

end DplanePlugin
