/-
  DplanePlugin/Calm.lean
  ======================
  **What the plugin does while nothing fails.**

  Nothing fails from now on: an incarnation of the dataplane is up and stays up, no
  system call fails but for the reasons that the dataplane gives it, and the plugin
  has all that `dp_connect` asks for.  Then `dp_connect` ends with a Connect on its
  way to this incarnation, and the drain of the unsent list either empties it or
  finds out that the connection is an old one, and reconnects.
-/
import DplanePlugin.Recursion
import DplanePlugin.Agreement

namespace DplanePlugin

open Lib

/-! ### The calm -/

/-- Nothing fails from now on, the incarnation `k` is up, and the plugin has a socket,
    a path to connect to, a buffer, and no event for another socket. -/
structure Calm (k : Nat) (w : World Env) : Prop where
  choices : w.os.choices = []
  current : w.os.dataplane.current = some k
  sock : w.dpSock ≠ noSock
  path : w.dpSockPath.Valid
  buffer : w.txBuff.isSome = true
  recv : ∀ fd ∈ w.evRecv, fd = w.dpSock

/-- What the calm depends on. -/
def World.calmPart (w : World Env) :
    List Choice × Option Nat × Int × PathBuf × Bool × Option Int :=
  (w.os.choices, w.os.dataplane.current, w.dpSock, w.dpSockPath, w.txBuff.isSome, w.evRecv)

theorem Calm.frame {k : Nat} {w w' : World Env} (h : Calm k w)
    (hsame : w'.calmPart = w.calmPart) : Calm k w' := by
  simp only [World.calmPart, Prod.mk.injEq] at hsame
  rcases hsame with ⟨hchoices, hcurrent, hsock, hpath, hbuf, hrecv⟩
  constructor
  · rw [hchoices, h.choices]
  · rw [hcurrent, h.current]
  · rw [hsock]
    exact h.sock
  · rw [hpath]
    exact h.path
  · rw [hbuf, h.buffer]
  · rw [hrecv, hsock]
    exact h.recv

/-- The last request that the dataplane received, the one with the number `i`, and the
    last one in flight is a Connect. -/
def World.Awaits (w : World Env) (i : Nat) : Prop :=
  i + 1 = w.os.dataplane.receipts.length ∧
    ∃ rest c, w.inFlight = rest ++ [c] ∧ c.msg.isConnect = true

/-- The incarnation that is up has a Connect of the plugin to answer. -/
structure Connecting (k : Nat) (w : World Env) : Prop where
  calm : Calm k w
  link : w.os.dataplane.link = some k
  ready : w.dplaneIsReady = false
  awaits : ∃ i ∈ w.os.dataplane.inbox.map (·.1), w.Awaits i

theorem Connecting.frame {k : Nat} {w w' : World Env} (h : Connecting k w)
    (hsame : w'.calmPart = w.calmPart) (hos : w'.os = w.os)
    (hready : w'.dplaneIsReady = w.dplaneIsReady) (hflight : w'.inFlight = w.inFlight) :
    Connecting k w' := by
  refine ⟨h.calm.frame hsame, by rw [hos, h.link], by rw [hready, h.ready], ?_⟩
  rcases h.awaits with ⟨i, hi, hlast, older, c, hq, hc⟩
  exact ⟨i, by rwa [hos], by rwa [hos], older, c, hflight.trans hq, hc⟩

section Receive
variable (p : Dataplane) (k : Nat) (msg : RpcMsg)

@[simp] theorem receive_link : (p.receive k msg).link = p.link := by
  unfold Dataplane.receive
  split <;> rfl
@[simp] theorem receive_current : (p.receive k msg).current = p.current := by
  unfold Dataplane.receive
  split <;> rfl
@[simp] theorem receive_rx : (p.receive k msg).rx = p.rx := by
  unfold Dataplane.receive
  split <;> rfl

theorem receive_request {msg : RpcMsg} (hreq : msg.type = .request) :
    p.receive k msg = { p with
      receipts := p.receipts ++ [(k, msg)],
      inbox := p.inbox ++ [(p.receipts.length, msg)] } :=
  if_pos hreq

end Receive

theorem mem_getD_of_follows {event : Option Int} {sock : Int} (h : ∀ fd ∈ event, fd = sock) :
    ∀ fd ∈ some (event.getD sock), fd = sock := by
  intro fd hfd
  rw [← Option.mem_some_iff.mp hfd]
  cases event with
  | none => rfl
  | some fd' => exact h fd' rfl

/-! ### The system calls -/

section Calls
variable {k : Nat} {e : Env}

theorem Env.turn_calm (h : e.choices = []) : e.turn = e := by
  rcases e with ⟨choices, p⟩
  cases h
  rfl

theorem Env.encodeMsg_calm (h : e.choices = []) (msg : RpcMsg) :
    Os.encodeMsg msg e = (some 64, e) := by
  have hturn := Env.turn_calm h
  rcases e with ⟨choices, p⟩
  cases h
  exact Prod.ext rfl hturn

theorem Env.connect_calm (h : e.choices = []) (hk : e.dataplane.current = some k) :
    e.connect = (none, { e with dataplane := { e.dataplane with link := some k } }) := by
  rw [Env.connect, Env.turn_calm h, hk]

theorem Env.send_calm (h : e.choices = []) (hk : e.dataplane.current = some k)
    (hlink : e.dataplane.link = some k) (msg : RpcMsg) (len : Nat) :
    e.send msg len = (.octets len, { e with dataplane := e.dataplane.receive k msg }) := by
  have hnone : e.choice.error = none := by rw [Env.choice, h]; rfl
  simp only [Env.send, Env.turn_calm h, hnone, Option.filter_none, hlink, hk, if_true]

theorem Env.send_calm_down (h : e.choices = []) (hk : e.dataplane.current = some k)
    (hlink : e.dataplane.link ≠ some k) (msg : RpcMsg) (len : Nat) :
    ∃ err : Errno, err.isDisconnect = true ∧ e.send msg len = (.error err, e) := by
  have hnone : e.choice.error = none := by rw [Env.choice, h]; rfl
  simp only [Env.send, Env.turn_calm h, hnone, Option.filter_none]
  cases hl : e.dataplane.link with
  | none => exact ⟨.enotconn, rfl, rfl⟩
  | some g =>
    have hne : e.dataplane.current ≠ some g := by
      rw [hk]
      exact fun heq => hlink (hl.trans heq.symm)
    dsimp only
    rw [if_neg hne]
    exact ⟨.econnrefused, rfl, rfl⟩

theorem Env.recv_calm_nil (h : e.choices = []) (hrx : e.dataplane.rx = []) :
    e.recv = (.error .eagain, e) := by
  have hnone : e.choice.error = none := by rw [Env.choice, h]; rfl
  simp only [Env.recv, Env.turn_calm h, hnone, hrx]

theorem Env.recv_calm (h : e.choices = []) {i : Nat} {resp : RpcResponse}
    {rest : List (Nat × RpcResponse)} (hrx : e.dataplane.rx = (i, resp) :: rest) :
    e.recv = (.data ⟨64, some (.ofResponse resp)⟩,
      { e with dataplane := { e.dataplane with rx := rest } }) := by
  have hnone : e.choice.error = none := by rw [Env.choice, h]; rfl
  simp only [Env.recv, Env.turn_calm h, hnone, hrx]

end Calls

/-! ### Sending -/

section Connect
variable {σ : Type} [Os σ]

/-- After `connect()` succeeded and the message of the Connect was allocated. -/
@[simps] def World.linked (w : World σ) (os : σ) (pool : List DpMsg) (next : Nat) : World σ :=
  { w.connectTried os none with
    evConnectTimer := false, dpSockConnected := true, pool := pool, nextRef := next }

theorem sendRpcMsg_connect_sent {R : Plugin σ Unit} {m : DpMsg} (hm : m.msg.isConnect = true)
    {w : World σ} {len : Nat} {os : σ} (hbuf : w.txBuff.isSome = true)
    (htry : (w.observe (.passed m)).Attempts m len (.octets len) os) :
    Ran (sendRpcMsg R m) w 0
      (((w.observe (.passed m)).sendTried os m len (.octets len)).putInFlight m) := by
  have hreq := ((RpcMsg.isConnect_iff _).mp hm).1
  have hsends : (w.observe (.passed m)).Sends m _ := ⟨len, os, ⟨hbuf, .inl hm⟩, htry, rfl⟩
  rw [Ran, sendRpcMsg_connect hm, hsends.ran.ends_bind, if_pos rfl, rpcCountRequestSent,
    ends_count_bind, Ran.ends_bind ((ends_dpMsgCacheInflight hreq _ _ _).mpr ⟨rfl, rfl⟩)]
  exact ran_pure _ _

/-- `send_rpc_control` queues a control message and drains the unsent list. -/
theorem sendRpcControl_drains (refresh : UInt8) (w : World σ) :
    ∃ ref pool next, ∀ (R : Plugin σ Unit) (r : Except Halt Int) (w' : World σ),
      Ends (sendRpcControl R refresh) w r w' ↔
        Ends (sendPendingRpcMsgs R >>= fun _ => pure 0)
          ({ w with pool := pool, nextRef := next }.cached (controlMsg ref refresh)) r w' := by
  rcases dpMsgNew_ran w with ⟨ref, pool, next, hnew⟩
  refine ⟨ref, pool, next, ?_⟩
  intro R r w'
  have hno : ¬ (controlMsg ref refresh).msg.isConnect = true := by
    rw [controlMsg_isConnect]
    exact Bool.false_ne_true
  have hpass : Ends (sendRpcControl R refresh) w r w' ↔
      Ends (sendRpcMsg R (controlMsg ref refresh)) { w with pool := pool, nextRef := next } r w' :=
    hnew.ends_bind _ _ _
  rw [hpass, sendRpcMsg, ends_observe_bind, if_neg hno, dpMsgCacheUnsent, ends_modify_bind]
  rfl

theorem sendPendingRpcMsgs_ran_nil (R : Plugin σ Unit) {w : World σ} (hq : w.unsent = []) :
    Ran (sendPendingRpcMsgs R) w () w := by
  rw [Ran, sendPendingRpcMsgs, ends_get_bind, hq, loop, (sendPendingStep_ran_nil hq).ends_bind]
  exact ran_pure _ _

omit [Os σ] in
@[simp] theorem sentPending_evRecv (w : World σ) (os : σ) (m : DpMsg) (len : Nat) :
    (w.sentPending os m len).evRecv = w.evRecv := by
  unfold World.sentPending
  split <;> rfl

end Connect

section Send
variable {k : Nat} {w : World Env} (h : Calm k w)
include h

theorem Calm.attempts (hlink : w.os.dataplane.link = some k) (m : DpMsg) :
    w.Attempts m 64 (.octets 64)
      { w.os with dataplane := w.os.dataplane.receive k m.msg } := by
  have henc := Env.encodeMsg_calm h.choices m.msg
  refine ⟨by rw [henc], ?_⟩
  rw [henc]
  exact Env.send_calm h.choices h.current hlink m.msg 64

theorem Calm.attempts_down (hlink : w.os.dataplane.link ≠ some k) (m : DpMsg) :
    ∃ err : Errno, err.isDisconnect = true ∧ w.Attempts m 64 (.error err) w.os := by
  have henc := Env.encodeMsg_calm h.choices m.msg
  rcases Env.send_calm_down h.choices h.current hlink m.msg 64 with ⟨err, herr, hsend⟩
  refine ⟨err, herr, by rw [henc], ?_⟩
  rw [henc]
  exact hsend

/-- `dp_connect` connects to the incarnation that is up, and sends it a Connect. -/
theorem Calm.connect (hready : w.dplaneIsReady = false) (n : Nat) :
    ∃ w', Ran (dpConnect (n + 1)) w () w' ∧ Connecting k w' ∧ w'.unsent = w.unsent ∧
      w'.os.dataplane.rx = w.os.dataplane.rx := by
  have hconnect : Os.connect w.dpSock w.dpSockPath w.os =
      (none, { w.os with dataplane := { w.os.dataplane with link := some k } }) :=
    Env.connect_calm h.choices h.current
  generalize hos : Env.mk _ _ = os at hconnect
  obtain ⟨hchoices, hcurrent, hlink, hrx⟩ : os.choices = [] ∧
      os.dataplane.current = some k ∧ os.dataplane.link = some k ∧
      os.dataplane.rx = w.os.dataplane.rx := by
    rw [← hos]
    exact ⟨h.choices, h.current, rfl, rfl⟩
  rcases dpConnectStep_connected h.sock h.path hconnect (.inl rfl) with ⟨ref, pool, next, hends⟩
  generalize hc : connectMsg ref _ = c at hends
  have hconn : c.msg.isConnect = true := by
    rw [← hc]
    exact connectMsg_isConnect _ _
  have hreq := ((RpcMsg.isConnect_iff _).mp hconn).1
  have hpassed : Calm k ((w.linked os pool next).observe (.passed c)) :=
    ⟨hchoices, hcurrent, h.sock, h.path, h.buffer, h.recv⟩
  have hsent := sendRpcMsg_connect_sent (R := dpConnect n) (w := w.linked os pool next) hconn
    h.buffer (hpassed.attempts hlink c)
  refine ⟨_, (hends _ _ _).mpr ((hsent.ends_bind _ _ _).mpr
    ((ends_eventAddRead _ _ _).mpr ⟨rfl, rfl⟩)), ?_, rfl, by simpa using hrx⟩
  refine ⟨⟨hchoices, by simpa using hcurrent, h.sock, h.path, rfl, ?_⟩, by simpa using hlink,
    hready, ?_⟩
  · exact mem_getD_of_follows h.recv
  · refine ⟨os.dataplane.receipts.length, ?_, ?_, w.inFlight, c, rfl, hconn⟩
    · simp [receive_request _ _ hreq]
    · simp [receive_request _ _ hreq]

/-- On a live connection the drain empties the unsent list. -/
theorem Calm.drain (hready : w.dplaneIsReady = true) (hlink : w.os.dataplane.link = some k)
    (R : Plugin Env Unit) :
    ∃ w', Ran (sendPendingRpcMsgs R) w () w' ∧ Calm k w' ∧ w'.dplaneIsReady = true ∧
      w'.os.dataplane.link = some k ∧ w'.unsent = [] ∧
      w'.os.dataplane.rx = w.os.dataplane.rx := by
  generalize hq : w.unsent = msgs
  induction msgs generalizing w with
  | nil => exact ⟨w, sendPendingRpcMsgs_ran_nil R hq, h, hready, hlink, hq, rfl⟩
  | cons m rest ih =>
    have htail : Calm k { w with unsent := rest } :=
      h.frame rfl
    have hmay : World.MaySend { w with unsent := rest } m := ⟨h.buffer, .inr hready⟩
    have htry := htail.attempts hlink m
    generalize hos : Env.mk _ _ = os at htry
    have hsent : Calm k (World.sentPending { w with unsent := rest } os m 64) := by
      constructor
      · simpa [← hos] using h.choices
      · simpa [← hos] using h.current
      · simpa using h.sock
      · simpa using h.path
      · simp
      · simpa using h.recv
    rcases ih hsent (by simpa using hready) (by simpa [← hos] using hlink) (by simp) with
      ⟨w', hran, hcalm, hready', hlink', hnil, hrx⟩
    refine ⟨w', (sendPendingRpcMsgs_sent R hq hmay htry _ _).mpr hran, hcalm, hready', hlink',
      hnil, ?_⟩
    rw [hrx, sentPending_os, ← hos, receive_rx]

/-- On an old connection it finds this out and reconnects. -/
theorem Calm.drain_down (hready : w.dplaneIsReady = true) (htimer : w.evConnectTimer = false)
    (hlink : w.os.dataplane.link ≠ some k) (hne : w.unsent ≠ []) (n : Nat) :
    ∃ w', Ran (sendPendingRpcMsgs (dpConnect (n + 1))) w () w' ∧ Connecting k w' ∧
      w'.os.dataplane.rx = w.os.dataplane.rx := by
  rcases List.exists_cons_of_ne_nil hne with ⟨m, rest, hq⟩
  have htail : Calm k { w with unsent := rest } :=
    h.frame rfl
  have hmay : World.MaySend { w with unsent := rest } m := ⟨h.buffer, .inr hready⟩
  rcases htail.attempts_down hlink m with ⟨err, herr, htry⟩
  have hdown : Calm k (((World.sendTried { w with unsent := rest } w.os m 64 (.error err)).count
      (·.txError err)).disconnected) :=
    ⟨h.choices, h.current, h.sock, h.path, rfl, h.recv⟩
  rcases hdown.connect rfl n with ⟨w₁, hran, hconn, -, hrx⟩
  have hsend : Ran (doSendRpcMsg (dpConnect (n + 1)) m) { w with unsent := rest } (-1) w₁ := by
    rw [Ran, doSendRpcMsg_disconnected hmay htry herr htimer, hran.ends_bind]
    exact ran_pure _ _
  refine ⟨{ w₁ with unsent := m :: w₁.unsent }, ?_, ?_, hrx⟩
  · rw [Ran, sendPendingRpcMsgs_cons _ hq, (sendPendingStep_putBack hq hsend).ends_bind,
      if_neg Bool.false_ne_true]
    exact ran_pure _ _
  · exact hconn.frame rfl rfl rfl rfl

/-- The drain either empties the list, or reconnects. -/
theorem Calm.drains (hready : w.dplaneIsReady = true) (htimer : w.evConnectTimer = false)
    (n : Nat) :
    ∃ w', Ran (sendPendingRpcMsgs (dpConnect (n + 1))) w () w' ∧
      w'.os.dataplane.rx = w.os.dataplane.rx ∧
      ((Calm k w' ∧ w'.dplaneIsReady = true ∧ w'.os.dataplane.link = w.os.dataplane.link) ∨
        (w.os.dataplane.link ≠ some k ∧ Connecting k w')) := by
  by_cases hlink : w.os.dataplane.link = some k
  · rcases h.drain hready hlink (dpConnect (n + 1)) with
      ⟨w', hran, hcalm, hready', hlink', -, hrx⟩
    exact ⟨w', hran, hrx, .inl ⟨hcalm, hready', hlink'.trans hlink.symm⟩⟩
  by_cases hq : w.unsent = []
  · exact ⟨w, sendPendingRpcMsgs_ran_nil _ hq, rfl, .inl ⟨h, hready, rfl⟩⟩
  · rcases h.drain_down hready htimer hlink hq n with ⟨w', hran, hconn, hrx⟩
    exact ⟨w', hran, hrx, .inr ⟨hlink, hconn⟩⟩

/-! ### Two callbacks -/

theorem Calm.connectTimer (hready : w.dplaneIsReady = false) (n : Nat) :
    ∃ w', Ran (Callback.connectTimer.run (n + 1)) w () w' ∧ Connecting k w' := by
  have hfired : Calm k { w.observe (.callback .connectTimer) with evConnectTimer := false } :=
    h.frame rfl
  rcases hfired.connect hready n with ⟨w', hran, hconn, -⟩
  refine ⟨w', ?_, hconn⟩
  rw [Callback.run, Ran, ends_observe_bind, ends_modify_bind]
  exact hran

/-- A keepalive of a ready plugin empties the unsent list, or finds out that the
    connection is an old one. -/
theorem Calm.keepalive (hready : w.dplaneIsReady = true) (hconn : w.dpSockConnected = true)
    (htimer : w.evConnectTimer = false) (n : Nat) :
    ∃ w', Ran (Callback.keepalive.run (n + 1)) w () w' ∧
      ((Calm k w' ∧ w'.dplaneIsReady = true ∧ w'.os.dataplane.link = some k ∧ w'.unsent = []) ∨
        (w.os.dataplane.link ≠ some k ∧ Connecting k w')) := by
  rcases sendRpcControl_drains 0 { w.observe (.callback .keepalive) with evKeepalive := false } with
    ⟨ref, pool, next, hends⟩
  generalize hq : World.cached _ _ = w₁ at hends
  have hcalm : Calm k w₁ := by
    rw [← hq]
    exact h.frame rfl
  obtain ⟨hready₁, htimer₁, hlink₁, hne⟩ : w₁.dplaneIsReady = true ∧ w₁.evConnectTimer = false ∧
      w₁.os.dataplane.link = w.os.dataplane.link ∧ w₁.unsent ≠ [] := by
    rw [← hq]
    exact ⟨hready, htimer, rfl, by simp⟩
  -- whatever the drain leaves, the timer is armed again
  have hrun {w₂ : World Env} (hdrain : Ran (sendPendingRpcMsgs (dpConnect (n + 1))) w₁ () w₂) :
      Ran (Callback.keepalive.run (n + 1)) w () { w₂ with evKeepalive := true } := by
    have hcontrol : Ran (sendRpcControl (dpConnect (n + 1)) 0)
        { w.observe (.callback .keepalive) with evKeepalive := false } 0 w₂ :=
      (hends _ _ _).mpr ((hdrain.ends_bind _ _ _).mpr (ran_pure _ _))
    rw [Callback.run, Ran, ends_observe_bind, ends_modify_bind, dpSendKeepalive, ends_get_bind,
      if_pos ⟨hconn, hready⟩]
    exact (hcontrol.ends_bind _ _ _).mpr (ran_modify _ _)
  by_cases hlink : w.os.dataplane.link = some k
  · rcases hcalm.drain hready₁ (hlink₁.trans hlink) (dpConnect (n + 1)) with
      ⟨w₂, hran, hcalm₂, hready₂, hlink₂, hnil, -⟩
    refine ⟨_, hrun hran, .inl ⟨?_, hready₂, hlink₂, hnil⟩⟩
    exact hcalm₂.frame rfl
  · rcases hcalm.drain_down hready₁ htimer₁ (by rwa [hlink₁]) hne n with ⟨w₂, hran, hconn₂, -⟩
    exact ⟨_, hrun hran, .inr ⟨hlink, hconn₂.frame rfl rfl rfl rfl⟩⟩

end Send

end DplanePlugin
