/-
  DplanePlugin/Events.lean
  ========================
  **Event registrations and the socket.**

  `dp_unix_connect` closes the socket and opens another when `connect()` fails.
  It cancels no event, and an event whose reference is set is not registered
  again, so `ev_recv` and `ev_send` go on standing for the closed descriptor.
  The registrations follow the socket in the runs in which every reopened socket
  is one that the armed events can stand for.
-/
import DplanePlugin.Answering

namespace DplanePlugin

open Lib

variable {σ : Type}

/-! ### Where a socket is reopened -/

@[simp] def Obs.callbackKind : Obs → Option CallbackKind
  | .callback k => some k
  | _ => none

/-- The callbacks that were started. -/
def callbackKinds (log : List Entry) : List CallbackKind := log.filterMap (·.obs.callbackKind)

/-- The callback that runs, or ran last. -/
def currentCallback (log : List Entry) : Option CallbackKind := (callbackKinds log).getLast?

section Callbacks
variable (log log' : List Entry)

@[simp] theorem callbackKinds_nil : callbackKinds [] = [] := rfl
@[simp] theorem callbackKinds_cons (x : Entry) :
    callbackKinds (x :: log) = x.obs.callbackKind.toList ++ callbackKinds log :=
  filterMap_cons_toList _ _ _
@[simp] theorem callbackKinds_append :
    callbackKinds (log ++ log') = callbackKinds log ++ callbackKinds log' :=
  List.filterMap_append
@[simp] theorem callbackKinds_refusal (w : World σ) (m : DpMsg) :
    callbackKinds (w.refusal m) = [] :=
  w.refusal_filterMap Obs.callbackKind (fun _ _ => rfl) m

end Callbacks

/-- `send()` was called on a Connect. -/
def Obs.sendsConnect : Obs → Bool
  | .send m _ _ => m.msg.isConnect
  | _ => false

/-- `log` ends with a call of `connect()` that `dp_connect` made when the send of
    a Connect had failed. -/
def inConnectSend (log : List Entry) : Bool :=
  log.dropLast.dropLast.getLast?.any (·.obs.sendsConnect)

/-- The event, if it is armed, is armed for `sock`, and that is a socket. -/
def ArmedFor (event : Option Int) (sock : Int) : Prop := ∀ fd ∈ event, fd = sock ∧ fd ≠ noSock

/-- What a reopened socket must be: the one any armed event is armed for; and if
    `socket()` failed, neither a Connect nor the write callback is under way. -/
def SafeReopen (log : List Entry) (x : Entry) : Prop :=
  x.obs = .reopened →
    ArmedFor x.view.evRecv x.view.dpSock ∧ ArmedFor x.view.evSend x.view.dpSock ∧
    (x.view.dpSock = noSock → inConnectSend log = false ∧ currentCallback log ≠ some .send)

instance (log : List Entry) (x : Entry) : Decidable (SafeReopen log x) := by
  unfold SafeReopen ArmedFor
  infer_instance

/-! ### Which calls are in progress -/

@[simp] def Origin.ofDrain : Origin → Bool
  | .unsent => true
  | .connect => false

/-- The calls that send messages of the unsent list. -/
@[simp] def Frame.ofDrain : Frame → Bool
  | .draining => true
  | .sending o _ | .failed o _ => o.ofDrain
  | _ => false

/-- What the stack of calls says about the log. -/
structure Placed (s : Config σ) : Prop where
  drains : s.frames.Pairwise fun upper lower => upper.ofDrain = true → lower ≠ .subscribing
  nested : .reconnect ∈ s.frames → .subscribing ∈ s.frames →
    s.world.log.getLast?.any (·.obs.sendsConnect) = true
  writing : .writing ∈ s.frames → currentCallback s.world.log = some .send

theorem Config.Initial.placed {s : Config σ} (h : s.Initial) : Placed s := by
  rcases h with ⟨_, _, os₀, os, sock, -, rfl⟩
  constructor
  · exact List.pairwise_singleton _ _
  · intro _ hsub
    simp at hsub
  · intro hwriting
    simp at hwriting

/-- No drain is above the call that has sent a Connect. -/
theorem Placed.not_subscribing {f : Frame} {fs : List Frame} {w : World σ}
    (h : Placed ⟨f :: fs, w⟩) (hf : f.ofDrain = true) : .subscribing ∉ fs := by
  intro hmem
  exact (List.pairwise_cons.mp h.drains).1 _ hmem hf rfl

variable [Os σ]

theorem Config.Reachable.not_reconnect_below {s : Config σ} (h : s.Reachable) :
    .reconnect ∉ s.frames.tail := by
  rcases s with ⟨frames, w⟩
  cases frames with
  | nil => exact List.not_mem_nil
  | cons f fs =>
    intro hmem
    cases h.below _ hmem

theorem Act.drains {s s' : Config σ}
    (hi : s.frames.Pairwise fun upper lower => upper.ofDrain = true → lower ≠ .subscribing)
    (h : Act s s') :
    s'.frames.Pairwise fun upper lower => upper.ofDrain = true → lower ≠ .subscribing := by
  cases h with
  | queueControl hfs halloc =>
    rcases hfs with rfl | ⟨msg, rfl⟩
    · simp
    · simp
  | _ => simp_all

theorem Act.writing {s s' : Config σ}
    (hi : .writing ∈ s.frames → currentCallback s.world.log = some .send) (h : Act s s') :
    .writing ∈ s'.frames → currentCallback s'.world.log = some .send := by
  cases h with
  | refused hsock hpath hconnect he hreopen =>
    rcases dpUnixSockReopen_ends (by exact hsock) hreopen with ⟨-, sock, os', rfl⟩
    simpa [currentCallback] using hi
  | queueControl hfs halloc =>
    rcases hfs with rfl | ⟨msg, rfl⟩
    · simp
    · simp
  | _ => simp_all [currentCallback]

theorem Act.nested {s s' : Config σ} (hr : s.Reachable) (hi : Placed s) (h : Act s s') :
    .reconnect ∈ s'.frames → .subscribing ∈ s'.frames →
      s'.world.log.getLast?.any (·.obs.sendsConnect) = true := by
  intro hrec hsub
  cases h with
  | @sendDisconnected w fs o m len os e hmay htry he htimer =>
    cases o with
    | unsent =>
      have hnot := hi.not_subscribing rfl
      simp [hnot] at hsub
    | connect =>
      have hm := (hr.typed.connects m (by simp)).isConnect
      simp [Obs.sendsConnect, hm]
  | queueControl hfs halloc =>
    rcases hfs with rfl | ⟨msg, rfl⟩
    · simp at hrec
    · simp at hrec
  | timerFired => simp at hsub
  | _ =>
    -- no other call is `dp_connect` about to run
    have hbelow := hr.not_reconnect_below
    simp_all

theorem Placed.act {s s' : Config σ} (hr : s.Reachable) (hi : Placed s) (h : Act s s') :
    Placed s' := by
  constructor
  · exact h.drains hi.drains
  · exact h.nested hr hi
  · exact h.writing hi.writing

theorem Config.Reachable.placed {s : Config σ} (h : s.Reachable) : Placed s :=
  h.induct (fun _ => Config.Initial.placed) fun _ _ hr hi => hi.act hr

/-! ### Registrations that follow the socket -/

/-- The invariant of the runs in which every socket is reopened safely. -/
structure Registered (s : Config σ) : Prop where
  recv : ArmedFor s.world.evRecv s.world.dpSock
  send : ArmedFor s.world.evSend s.world.dpSock
  connected : s.world.dpSockConnected = true →
    s.world.evRecv.isSome = true ∨ .subscribing ∈ s.frames
  closed : s.world.dpSock = noSock → .subscribing ∉ s.frames ∧ .writing ∉ s.frames

theorem armedFor_none (sock : Int) : ArmedFor none sock := by
  intro fd hfd
  cases hfd

/-- Registering an event again does nothing, and it stands for the same socket. -/
theorem ArmedFor.add {event : Option Int} {sock : Int} (h : ArmedFor event sock)
    (hsock : sock ≠ noSock) : ArmedFor (some (event.getD sock)) sock := by
  intro fd hfd
  rw [Option.mem_some_iff] at hfd
  cases event with
  | none => exact ⟨hfd.symm, hfd ▸ hsock⟩
  | some fd' => exact h fd (Option.mem_some_iff.mpr hfd)

theorem ArmedFor.sock_ne {event : Option Int} {sock : Int} (h : ArmedFor event sock)
    (hev : event.isSome = true) : sock ≠ noSock := by
  rcases Option.isSome_iff_exists.mp hev with ⟨fd, hfd⟩
  rcases h fd hfd with ⟨rfl, hsock⟩
  exact hsock

omit [Os σ] in
theorem Config.Initial.registered {s : Config σ} (h : s.Initial) : Registered s := by
  rcases h with ⟨_, _, os₀, os, sock, hsock, rfl⟩
  constructor
  · exact armedFor_none sock
  · exact armedFor_none sock
  · intro hconn
    simp [World.start] at hconn
  · intro hclosed
    exact absurd hclosed hsock

/-- A message is only sent on a socket. -/
theorem Config.Reachable.open_of_maySend {o : Origin} {m : DpMsg} {fs : List Frame} {w : World σ}
    (h : Config.Reachable ⟨.sending o m :: fs, w⟩) (hmay : w.MaySend m) : w.dpSock ≠ noSock := by
  have hs := h.shaken.handshake
  apply hs.sock
  cases o with
  | connect => exact (h.shaken.fits _ rfl).2.1
  | unsent =>
    have hm := (h.typed.queued m (by simp)).isConnect
    apply hs.ready
    rcases hmay.2 with hconn | hready
    · rw [hm] at hconn
      cases hconn
    · exact hready

theorem Registered.act {s s' : Config σ} (hr : s.Reachable) (hi : Registered s) (h : Act s s')
    (hlog : Always SafeReopen s'.world.log) : Registered s' := by
  rcases hi with ⟨hrecv, hsend, hconn, hclosed⟩
  cases h with
  | @refused w fs os e w' hsock hpath hconnect he hreopen =>
    rcases dpUnixSockReopen_ends (by exact hsock) hreopen with ⟨-, sock, os', rfl⟩
    rcases ((always_concat _ _ _).mp hlog).2 rfl with ⟨hrecv', hsend', hfailed⟩
    refine ⟨hrecv', hsend', by simp, ?_⟩
    intro hnone
    rcases hfailed hnone with ⟨hnested, hcallback⟩
    constructor
    · intro hsub
      have hbefore : inConnectSend (w.connectTried os (some e)).log = true := by
        rw [inConnectSend, World.connectTried_log, List.dropLast_concat, List.dropLast_concat]
        exact hr.placed.nested List.mem_cons_self (List.mem_cons_of_mem _ hsub)
      rw [hnested] at hbefore
      cases hbefore
    · intro hwriting
      apply hcallback
      have hcurrent := hr.placed.writing (List.mem_cons_of_mem _ hwriting)
      simpa [currentCallback] using hcurrent
  | sendBlocked hmay htry he =>
    have hsock := hr.open_of_maySend hmay
    exact ⟨hrecv, hsend.add hsock, by simpa using hconn, by simpa using hclosed⟩
  | subscribe =>
    have hsock : _ ≠ noSock := fun hnone => (hclosed hnone).1 List.mem_cons_self
    refine ⟨hrecv.add hsock, hsend, by simp, ?_⟩
    intro hnone
    exact absurd hnone hsock
  | writeAgain hq =>
    have hsock : _ ≠ noSock := fun hnone => (hclosed hnone).2 List.mem_cons_self
    exact ⟨hrecv, hsend.add hsock, by simpa using hconn, by simp⟩
  | connected hsock =>
    refine ⟨hrecv, hsend, by simp, ?_⟩
    intro hnone
    exact absurd hnone hsock
  | recvFired hev =>
    have hsock := hrecv.sock_ne hev
    exact ⟨(armedFor_none _).add hsock, hsend, by simp, by simp⟩
  | writeFired hev =>
    have hsock := hsend.sock_ne hev
    refine ⟨hrecv, armedFor_none _, by simpa using hconn, ?_⟩
    intro hnone
    exact absurd hnone hsock
  | queueControl hfs halloc =>
    rcases hfs with rfl | ⟨msg, rfl⟩
    · exact ⟨hrecv, hsend, by simpa using hconn, by simp⟩
    · exact ⟨hrecv, hsend, by simpa using hconn, by simp⟩
  | _ =>
    -- what is left registers nothing and keeps the socket
    exact ⟨hrecv, hsend, by simp_all, by simp_all⟩

theorem Config.Reachable.registered {s : Config σ} (h : s.Reachable)
    (hlog : Always SafeReopen s.world.log) : Registered s :=
  h.induct_always (fun _ => Config.Initial.registered) (fun _ _ hr hi => hi.act hr) hlog

/-! ### Between two callbacks -/

/-- Between two callbacks of a run that reopens every socket safely, an event
    that is armed is armed for the socket, and `ev_recv` is armed whenever the
    socket is connected. -/
theorem events_follow_socket {w : World σ} (h : Reachable w) (hlog : Always SafeReopen w.log) :
    (∀ fd, w.evRecv = some fd → fd = w.dpSock ∧ w.dpSock ≠ noSock) ∧
    (∀ fd, w.evSend = some fd → fd = w.dpSock ∧ w.dpSock ≠ noSock) ∧
    (w.dpSockConnected = true → w.evRecv = some w.dpSock) := by
  rcases h.config.registered hlog with ⟨hrecv, hsend, hconn, -⟩
  refine ⟨?_, ?_, ?_⟩
  · intro fd hfd
    rcases hrecv fd hfd with ⟨rfl, hsock⟩
    exact ⟨rfl, hsock⟩
  · intro fd hfd
    rcases hsend fd hfd with ⟨rfl, hsock⟩
    exact ⟨rfl, hsock⟩
  · intro hup
    have hev : w.evRecv.isSome = true := by simpa using hconn hup
    rcases Option.isSome_iff_exists.mp hev with ⟨fd, hfd⟩
    rw [hfd, (hrecv fd hfd).1]

/-- A route finds the dataplane gone, `connect()` is refused, and `socket()`
    then returns `sock`. -/
def reopenedWorld (sock : Int) : World Script :=
  played 3
    { Script.plain with
      sockets := [3, sock], connects := [none, some .econnrefused],
      sends := [.octets 64, .error .epipe], recvs := [accept 7] }
    [.recv, .process 1 [routeCtx 1]]

theorem events_follow_socket_of_reopenedWorld :
    (reopenedWorld 3).evRecv = some 3 ∧
      ∀ fd, (reopenedWorld 3).evRecv = some fd →
        fd = (reopenedWorld 3).dpSock ∧ (reopenedWorld 3).dpSock ≠ noSock := by
  have hreach : Reachable (reopenedWorld 3) := played_reachable _ _ _ (by decide +kernel)
  exact ⟨by decide +kernel, (events_follow_socket hreach (by decide +kernel)).1⟩

/-- The socket is 4, and `ev_recv` stands for the closed 3. -/
theorem stale_registration :
    ¬ ∀ w : World Script, Reachable w →
      (∀ fd, w.evRecv = some fd → fd = w.dpSock ∧ w.dpSock ≠ noSock) ∧
      (∀ fd, w.evSend = some fd → fd = w.dpSock ∧ w.dpSock ≠ noSock) ∧
      (w.dpSockConnected = true → w.evRecv = some w.dpSock) := by
  intro hall
  have hreach : Reachable (reopenedWorld 4) := played_reachable _ _ _ (by decide +kernel)
  have hrecv : (reopenedWorld 4).evRecv = some 3 := by decide +kernel
  have hsock := ((hall _ hreach).1 3 hrecv).1
  revert hsock
  decide +kernel

end DplanePlugin
