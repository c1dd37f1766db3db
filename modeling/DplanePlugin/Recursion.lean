/-
  DplanePlugin/Recursion.lean
  ===========================
  **Reconnecting from inside a failing send.**

  `do_send_rpc_msg` calls `dp_connect` after a connection error unless the
  connect timer is armed, and `dp_connect` disarms it just before it sends the
  next Connect.  Nothing else ends the recursion, so it goes on for as long as
  every `connect()` succeeds and every Connect that follows meets a connection
  error.
-/
import DplanePlugin.Lib.Recursion
import DplanePlugin.Drain

namespace DplanePlugin

open Lib

variable {σ : Type} [Os σ]

/-! ### What the system calls answer -/

/-- `msg` encodes and `send()` fails with a connection error: the state that the
    operating system is left in. -/
def sendBreaks (sock : Int) (msg : RpcMsg) (os : σ) : Option σ :=
  match Os.encodeMsg msg os with
  | (none, _) => none
  | (some len, os) =>
    match Os.send sock msg len os with
    | (.octets _, _) => none
    | (.error e, os) => if e.isDisconnect then some os else none

/-- `msg` encodes and `send()` takes it whole. -/
def sendTakes (sock : Int) (msg : RpcMsg) (os : σ) : Option σ :=
  match Os.encodeMsg msg os with
  | (none, _) => none
  | (some len, os) =>
    match Os.send sock msg len os with
    | (.octets r, os) => if r = len then some os else none
    | (.error _, _) => none

/-- `connect()` succeeds, and the Connect that follows meets a connection error. -/
def connectBreaks (sock : Int) (path : PathBuf) (synt : UInt64) (os : σ) : Option σ :=
  match Os.connect sock path os with
  | (result, os) =>
    if result = none ∨ result = some .eisconn then
      sendBreaks sock
        (connectMsg 0 ⟨"FRR-HHGW-plugin", Os.getpid os, Os.verDp os, synt⟩).msg os
    else none

/-- From `msgs`, some are taken whole and the next one meets a connection error;
    a message that is no Connect is only tried when the dataplane is ready. -/
def drainBreaks (sock : Int) (ready : Bool) : List DpMsg → σ → Option σ
  | [], _ => none
  | m :: msgs, os =>
    if m.msg.isConnect || ready then
      match sendBreaks sock m.msg os with
      | some os => some os
      | none => (sendTakes sock m.msg os).bind (drainBreaks sock ready msgs)
    else none

section Attempts
variable {w : World σ} {m : DpMsg} {os : σ}

theorem sendBreaks_eq_some :
    sendBreaks w.dpSock m.msg w.os = some os ↔
      ∃ len e, w.Attempts m len (.error e) os ∧ e.isDisconnect = true := by
  rw [sendBreaks]
  simp only [World.Attempts]
  rcases Os.encodeMsg m.msg w.os with ⟨octets, os₁⟩
  cases octets with
  | none => simp
  | some len =>
    rcases hsend : Os.send w.dpSock m.msg len os₁ with ⟨result, os₂⟩
    cases result with
    | octets r => simp [hsend]
    | error e => simp [hsend, and_comm]

theorem sendTakes_eq_some :
    sendTakes w.dpSock m.msg w.os = some os ↔ ∃ len, w.Attempts m len (.octets len) os := by
  rw [sendTakes]
  simp only [World.Attempts]
  rcases Os.encodeMsg m.msg w.os with ⟨octets, os₁⟩
  cases octets with
  | none => simp
  | some len =>
    rcases hsend : Os.send w.dpSock m.msg len os₁ with ⟨result, os₂⟩
    cases result with
    | octets r => simp [hsend]
    | error e => simp [hsend]

end Attempts

/-! ### do_send_rpc_msg -/

/-- `w'` is as `w` in what `dp_connect` reads, but for the operating system, now
    in the state `os`. -/
structure World.SameSocket (w w' : World σ) (os : σ) : Prop where
  os : w'.os = os
  dpSock : w'.dpSock = w.dpSock
  dpSockPath : w'.dpSockPath = w.dpSockPath
  synt : w'.synt = w.synt
  buffer : w'.txBuff.isSome = true

section Send
variable {R : Plugin σ Unit} {m : DpMsg} {w : World σ}

theorem doSendRpcMsg_short {len r : Nat} {os : σ} (hmay : w.MaySend m)
    (htry : w.Attempts m len (.octets r) os) (hr : r ≠ len) :
    Ran (doSendRpcMsg R m) w (-1) (w.sendTried os m len (.octets r)) := by
  rcases htry with ⟨henc, hsend⟩
  rcases hmay.tests with ⟨hbuf, hcan⟩
  have henc' : Os.encodeMsg m.msg w.os = (some len, (Os.encodeMsg m.msg w.os).2) := by
    rw [← henc]
  rw [Ran, doSendRpcMsg, ends_get_bind, if_neg hbuf, (canSendRpcRequest_ran _ _).ends_bind,
    if_neg hcan, (encodeMsg_ran m w henc').ends_bind]
  dsimp only
  rw [(osSend_ran m len _ hsend).ends_bind]
  dsimp only
  rw [if_pos hr]
  exact (ends_pure _ _ _ _).mpr ⟨rfl, rfl⟩

/-- The message is not sent, and no reconnect is made. -/
theorem doSendRpcMsg_gives_up
    (hbreaks : w.MaySend m → w.evConnectTimer = false → sendBreaks w.dpSock m.msg w.os = none)
    (htakes : w.MaySend m → sendTakes w.dpSock m.msg w.os = none) :
    ∃ w', Ran (doSendRpcMsg R m) w (-1) w' := by
  by_cases hmay : w.MaySend m
  · rcases henc : Os.encodeMsg m.msg w.os with ⟨octets, os⟩
    cases octets with
    | none => exact ⟨_, doSendRpcMsg_encodeFailed hmay henc⟩
    | some len =>
      rcases hsend : Os.send w.dpSock m.msg len os with ⟨result, os'⟩
      have htry : w.Attempts m len result os' := by
        constructor
        · rw [henc]
        · rw [henc, hsend]
      cases result with
      | octets r =>
        by_cases hr : r = len
        · subst hr
          have hsome := sendTakes_eq_some.mpr ⟨r, htry⟩
          rw [htakes hmay] at hsome
          cases hsome
        · exact ⟨_, doSendRpcMsg_short hmay htry hr⟩
      | error e =>
        have htimer : e.isDisconnect = true → w.evConnectTimer = true := by
          intro he
          rw [← Bool.not_eq_false]
          intro hoff
          have hsome := sendBreaks_eq_some.mpr ⟨len, e, htry, he⟩
          rw [hbreaks hmay hoff] at hsome
          cases hsome
        exact (doSendRpcMsg_failed hmay htry htimer).imp fun w' h => h.1
  · exact ⟨w, doSendRpcMsg_notSent hmay⟩

/-- A connection error is met, and `dp_connect` is called. -/
theorem doSendRpcMsg_reconnects {os : σ} (hmay : w.MaySend m) (htimer : w.evConnectTimer = false)
    (hbreaks : sendBreaks w.dpSock m.msg w.os = some os) :
    ∃ w₁, w.SameSocket w₁ os ∧ ∀ (R : Plugin σ Unit) (r : Except Halt Int) (w' : World σ),
      Ends (doSendRpcMsg R m) w r w' ↔ Ends (R >>= fun _ => pure (-1)) w₁ r w' := by
  rcases sendBreaks_eq_some.mp hbreaks with ⟨len, e, htry, he⟩
  refine ⟨((w.sendTried os m len (.error e)).count (·.txError e)).disconnected, ?_, ?_⟩
  · constructor <;> rfl
  · intro R r w'
    exact doSendRpcMsg_disconnected hmay htry he htimer r w'

/-- `do_send_rpc_msg` returns unless it calls `dp_connect`. -/
theorem doSendRpcMsg_returns
    (hbreaks : w.MaySend m → w.evConnectTimer = false → sendBreaks w.dpSock m.msg w.os = none) :
    ∃ a w', Ran (doSendRpcMsg R m) w a w' := by
  by_cases htakes : w.MaySend m ∧ ∃ os, sendTakes w.dpSock m.msg w.os = some os
  · rcases htakes with ⟨hmay, os, htakes⟩
    rcases sendTakes_eq_some.mp htakes with ⟨len, htry⟩
    have hsends : w.Sends m _ := ⟨len, os, hmay, htry, rfl⟩
    exact ⟨0, _, hsends.ran⟩
  · have hnone : w.MaySend m → sendTakes w.dpSock m.msg w.os = none := by
      intro hmay
      rw [Option.eq_none_iff_forall_ne_some]
      intro os htakes'
      exact htakes ⟨hmay, os, htakes'⟩
    exact ⟨-1, doSendRpcMsg_gives_up hbreaks hnone⟩

end Send

/-! ### dp_connect -/

/-- What `send_rpc_msg` does with a Connect. -/
theorem sendRpcMsg_connect {R : Plugin σ Unit} {m : DpMsg} (hm : m.msg.isConnect = true)
    {w : World σ} (r : Except Halt Int) (w' : World σ) :
    Ends (sendRpcMsg R m) w r w' ↔
      Ends (doSendRpcMsg R m >>= fun a =>
        if a = 0 then do
          rpcCountRequestSent m.msg.request.op m.msg.request.object.type
          dpMsgCacheInflight m
          return 0
        else do
          dpMsgRecycle m
          return -1) (w.observe (.passed m)) r w' := by
  rw [sendRpcMsg, ends_observe_bind, if_pos hm]

theorem sendRpcMsg_connect_returns {R : Plugin σ Unit} {m : DpMsg} (hm : m.msg.isConnect = true)
    {w w₁ : World σ} {a : Int} (hsend : Ran (doSendRpcMsg R m) (w.observe (.passed m)) a w₁) :
    ∃ b w', Ran (sendRpcMsg R m) w b w' := by
  have hreq := ((RpcMsg.isConnect_iff _).mp hm).1
  by_cases ha : a = 0
  · refine ⟨0, { w₁.count (·.requestSent m.msg.request.op m.msg.request.object.type) with
      inFlight := w₁.inFlight ++ [m] }, ?_⟩
    rw [Ran, sendRpcMsg_connect hm, hsend.ends_bind, if_pos ha, rpcCountRequestSent,
      ends_count_bind, Ran.ends_bind ((ends_dpMsgCacheInflight hreq _ _ _).mpr ⟨rfl, rfl⟩)]
    exact (ends_pure _ _ _ _).mpr ⟨rfl, rfl⟩
  · refine ⟨-1, w₁.recycle m, ?_⟩
    rw [Ran, sendRpcMsg_connect hm, hsend.ends_bind, if_neg ha, ends_dpMsgRecycle_bind]
    exact (ends_pure _ _ _ _).mpr ⟨rfl, rfl⟩

/-- What `send_rpc_request_connect` sends. -/
theorem sendRpcRequestConnect_sends (w : World σ) :
    ∃ ref pool next, ∀ (R : Plugin σ Unit) (r : Except Halt Int) (w' : World σ),
      Ends (sendRpcRequestConnect R) w r w' ↔
        Ends (sendRpcMsg R
          (connectMsg ref ⟨"FRR-HHGW-plugin", Os.getpid w.os, Os.verDp w.os, w.synt⟩))
          { w with pool := pool, nextRef := next } r w' := by
  rcases dpMsgNew_ran w with ⟨ref, pool, next, hnew⟩
  refine ⟨ref, pool, next, ?_⟩
  intro R r w'
  have hrequest : Ran (dpRequestNew .connect none) w (some (requestMsg ref .connect 0 .none none))
      { w with pool := pool, nextRef := next } := by
    rw [Ran, dpRequestNew, if_neg (by simp), hnew.ends_bind, if_pos rfl]
    exact (ends_pure _ _ _ _).mpr ⟨rfl, rfl⟩
  rw [sendRpcRequestConnect, ends_get_bind, sendRequest, hrequest.ends_bind]
  rfl

theorem dpUnixConnect_connected {w : World σ} {path : PathBuf} (hpath : path.Valid)
    {result : Option Errno} {os : σ} (hconnect : Os.connect w.dpSock path w.os = (result, os))
    (hok : result = none ∨ result = some .eisconn) :
    Ran (dpUnixConnect path) w 0 ({ w with os := os }.observe (.connect result)) := by
  rw [Ran, dpUnixConnect, if_neg hpath, ends_get_bind, ends_osCall_bind, ends_observe_bind,
    hconnect]
  rcases hok with rfl | rfl
  · exact (ends_pure _ _ _ _).mpr ⟨rfl, rfl⟩
  · exact (ends_pure _ _ _ _).mpr ⟨rfl, rfl⟩

theorem dpUnixConnect_refused {w : World σ} {path : PathBuf} (hsock : w.dpSock ≠ noSock)
    (hpath : path.Valid) {e : Errno} {os : σ}
    (hconnect : Os.connect w.dpSock path w.os = (some e, os)) (he : e ≠ .eisconn) :
    ∃ w', Ran (dpUnixConnect path) w (-1) w' := by
  have hreopen : ∃ w', Ran dpUnixSockReopen
      ({ w with os := os }.observe (.connect (some e))) () w' := by
    have hopen : World.dpSock ({ w with os := os }.observe (.connect (some e))) ≠ noSock := hsock
    rcases dpUnixSockReopen_returns hopen with ⟨sock, os', hreopen⟩
    exact ⟨_, hreopen⟩
  rcases hreopen with ⟨w', hreopen⟩
  refine ⟨w', ?_⟩
  rw [Ran, dpUnixConnect, if_neg hpath, ends_get_bind, ends_osCall_bind, ends_observe_bind,
    hconnect]
  dsimp only
  rw [if_neg he, hreopen.ends_bind]
  exact (ends_pure _ _ _ _).mpr ⟨rfl, rfl⟩

/-- `dp_connect` once `connect()` has succeeded. -/
theorem dpConnectStep_connected {w : World σ} (hsock : w.dpSock ≠ noSock)
    (hpath : w.dpSockPath.Valid) {result : Option Errno} {os : σ}
    (hconnect : Os.connect w.dpSock w.dpSockPath w.os = (result, os))
    (hok : result = none ∨ result = some .eisconn) :
    ∃ ref pool next, ∀ (R : Plugin σ Unit) (r : Except Halt Unit) (w' : World σ),
      Ends (dpConnectStep R) w r w' ↔
        Ends (sendRpcMsg R
            (connectMsg ref ⟨"FRR-HHGW-plugin", Os.getpid os, Os.verDp os, w.synt⟩) >>=
          fun _ => eventAddRead)
          { w.connectTried os result with
            evConnectTimer := false, dpSockConnected := true,
            pool := pool, nextRef := next } r w' := by
  rcases sendRpcRequestConnect_sends { w.connectTried os result with
    evConnectTimer := false, dpSockConnected := true } with ⟨ref, pool, next, hsend⟩
  refine ⟨ref, pool, next, ?_⟩
  intro R r w'
  have hconnected := dpUnixConnect_connected (w := w.observe .connecting) hpath hconnect hok
  have hends := hsend R
  rw [dpConnectStep, ends_observe_bind, ends_get_bind, if_neg (by exact hsock), observe_dpSockPath,
    hconnected.ends_bind, if_neg (by decide), ends_modify_bind, ends_bind, ends_bind]
  exact or_congr
    (exists_congr fun a => exists_congr fun t => and_congr_left fun _ => hends _ _)
    (exists_congr fun e => and_congr_left fun _ => hends _ _)

/-- The calls of `dp_connect` that may call it again: with a socket, a path it
    accepts and a buffer, and the operating system in the state `os`. -/
structure ConnectCall (sock : Int) (path : PathBuf) (synt : UInt64) (os : σ) (w : World σ) :
    Prop where
  os : w.os = os
  dpSock : w.dpSock = sock
  dpSockPath : w.dpSockPath = path
  synt : w.synt = synt
  sock : sock ≠ noSock
  path : path.Valid
  buffer : w.txBuff.isSome = true

/-- `dp_connect` returns unless its Connect meets a connection error. -/
theorem dpConnectStep_returns {w : World σ}
    (hbreaks : w.dpSock ≠ noSock → w.dpSockPath.Valid → w.txBuff.isSome = true →
      connectBreaks w.dpSock w.dpSockPath w.synt w.os = none) (R : Plugin σ Unit) :
    ∃ w', Ran (dpConnectStep R) w () w' := by
  by_cases hsock : w.dpSock = noSock
  · refine ⟨w.observe .connecting, ?_⟩
    rw [Ran, dpConnectStep, ends_observe_bind, ends_get_bind, if_pos (by exact hsock)]
    exact (ends_pure _ _ _ _).mpr ⟨rfl, rfl⟩
  have hfails : ∀ w₁, Ran (dpUnixConnect w.dpSockPath) (w.observe .connecting) (-1) w₁ →
      Ran (dpConnectStep R) w () { w₁ with evConnectTimer := true } := by
    intro w₁ hran
    rw [Ran, dpConnectStep, ends_observe_bind, ends_get_bind, if_neg (by exact hsock),
      observe_dpSockPath, hran.ends_bind, if_pos (by decide)]
    exact (ends_modify _ _ _ _).mpr ⟨rfl, rfl⟩
  by_cases hpath : w.dpSockPath.Valid
  · rcases hconnect : Os.connect w.dpSock w.dpSockPath w.os with ⟨result, os⟩
    by_cases hok : result = none ∨ result = some .eisconn
    · rcases dpConnectStep_connected hsock hpath hconnect hok with ⟨ref, pool, next, hends⟩
      have hsend : ∃ a w', Ran (doSendRpcMsg R
          (connectMsg ref ⟨"FRR-HHGW-plugin", Os.getpid os, Os.verDp os, w.synt⟩))
          (World.observe { w.connectTried os result with
            evConnectTimer := false, dpSockConnected := true, pool := pool, nextRef := next }
            (.passed (connectMsg ref ⟨"FRR-HHGW-plugin", Os.getpid os, Os.verDp os, w.synt⟩)))
          a w' := by
        apply doSendRpcMsg_returns
        intro hmay _
        have hnone := hbreaks hsock hpath hmay.1
        rw [connectBreaks, hconnect] at hnone
        dsimp only at hnone
        rw [if_pos hok] at hnone
        exact hnone
      rcases hsend with ⟨a, w₁, hsend⟩
      rcases sendRpcMsg_connect_returns (connectMsg_isConnect ref _) hsend with ⟨b, w₂, hpass⟩
      refine ⟨w₂.addRead, ?_⟩
      rw [Ran, hends, hpass.ends_bind]
      exact (ends_eventAddRead _ _ _).mpr ⟨rfl, rfl⟩
    · cases result with
      | none => exact absurd (.inl rfl) hok
      | some e =>
        have he : e ≠ .eisconn := fun heq => hok (.inr (congrArg some heq))
        rcases dpUnixConnect_refused (w := w.observe .connecting) hsock hpath hconnect he with
          ⟨w₁, hran⟩
        exact ⟨_, hfails w₁ hran⟩
  · refine ⟨_, hfails (w.observe .connecting) ?_⟩
    rw [Ran, dpUnixConnect, if_pos (not_not.mp hpath)]
    exact (ends_pure _ _ _ _).mpr ⟨rfl, rfl⟩

/-- `dp_connect` calls itself where `connectBreaks` says. -/
theorem dpConnect_nests (sock : Int) (path : PathBuf) (synt : UInt64) :
    Nests (dpConnect : Nat → Plugin σ Unit) (connectBreaks sock path synt)
      (ConnectCall sock path synt) := by
  constructor
  · exact ⟨.outOfFuel, fun w => (ends_throw _ _ _ _).mpr ⟨rfl, rfl⟩⟩
  · rintro _ os' w ⟨rfl, rfl, rfl, rfl, hsock, hpath, hbuf⟩ hcalls
    rcases hconnect : Os.connect w.dpSock w.dpSockPath w.os with ⟨result, os⟩
    rw [connectBreaks, hconnect] at hcalls
    dsimp only at hcalls
    by_cases hok : result = none ∨ result = some .eisconn
    · rw [if_pos hok] at hcalls
      rcases dpConnectStep_connected hsock hpath hconnect hok with ⟨ref, pool, next, hends⟩
      have hm := connectMsg_isConnect ref
        ⟨"FRR-HHGW-plugin", Os.getpid os, Os.verDp os, w.synt⟩
      rcases doSendRpcMsg_reconnects (w := World.observe { w.connectTried os result with
          evConnectTimer := false, dpSockConnected := true, pool := pool, nextRef := next }
          (.passed (connectMsg ref ⟨"FRR-HHGW-plugin", Os.getpid os, Os.verDp os, w.synt⟩)))
        ⟨hbuf, .inl hm⟩ rfl hcalls with ⟨w₁, hsame, hsend⟩
      refine ⟨w₁, ⟨hsame.os, hsame.dpSock, hsame.dpSockPath, hsame.synt, hsock, hpath,
        hsame.buffer⟩, ?_⟩
      intro n
      constructor
      · intro w₂ hran
        have hfailed := (hsend (dpConnect n) (.ok (-1)) w₂).mpr
          ((hran.ends_bind _ _ _).mpr ((ends_pure _ _ _ _).mpr ⟨rfl, rfl⟩))
        rcases sendRpcMsg_connect_returns hm hfailed with ⟨b, w₃, hpass⟩
        refine ⟨w₃.addRead, ?_⟩
        rw [dpConnect, Ran, hends, hpass.ends_bind]
        exact (ends_eventAddRead _ _ _).mpr ⟨rfl, rfl⟩
      · intro e w₂ hhalts
        have hfailed := (hsend (dpConnect n) (.error e) w₂).mpr
          ((ends_bind _ _ _ _ _).mpr (.inr ⟨e, hhalts, rfl⟩))
        rw [dpConnect, Halts, hends]
        refine (ends_bind _ _ _ _ _).mpr (.inr ⟨e, ?_, rfl⟩)
        rw [Halts, sendRpcMsg_connect hm]
        exact (ends_bind _ _ _ _ _).mpr (.inr ⟨e, hfailed, rfl⟩)
    · rw [if_neg hok] at hcalls
      cases hcalls
  · rintro _ w ⟨rfl, rfl, rfl, rfl, hsock, hpath, hbuf⟩ hcalls n
    exact dpConnectStep_returns (fun _ _ _ => hcalls) (dpConnect n)

/-! ### Which calls return -/

/-- `dp_connect`, called with the operating system in the state `os`, never stops
    calling itself: there is a socket and a path to connect to, and the Connect of
    every nested call meets a connection error. -/
def World.ReconnectsForever (w : World σ) (os : σ) : Prop :=
  w.dpSock ≠ noSock ∧ w.dpSockPath.Valid ∧
    Endless (connectBreaks w.dpSock w.dpSockPath w.synt) os

theorem World.SameSocket.reconnectsForever {w w' : World σ} {os : σ} (h : w.SameSocket w' os) :
    w'.ReconnectsForever w'.os ↔ w.ReconnectsForever os := by
  rw [World.ReconnectsForever, World.ReconnectsForever, h.os, h.dpSock, h.dpSockPath, h.synt]

theorem dpConnect_terminates_iff (w : World σ) :
    Terminates dpConnect w ↔ ¬ (w.txBuff.isSome = true ∧ w.ReconnectsForever w.os) := by
  by_cases hcall : w.txBuff.isSome = true ∧ w.dpSock ≠ noSock ∧ w.dpSockPath.Valid
  · rcases hcall with ⟨hbuf, hsock, hpath⟩
    have hrep : ConnectCall w.dpSock w.dpSockPath w.synt w.os w :=
      ⟨rfl, rfl, rfl, rfl, hsock, hpath, hbuf⟩
    rw [(dpConnect_nests _ _ _).terminates_iff hrep]
    simp [World.ReconnectsForever, hbuf, hsock, hpath]
  · constructor
    · rintro - ⟨hbuf, hsock, hpath, -⟩
      exact hcall ⟨hbuf, hsock, hpath⟩
    · intro _
      rcases dpConnectStep_returns (fun hsock hpath hbuf => absurd ⟨hbuf, hsock, hpath⟩ hcall)
        (dpConnect 0) with ⟨w', hran⟩
      exact ⟨1, (), w', hran⟩

section Callers
variable {α : Type} {w w₁ : World σ} {os : σ}

/-- A program that calls `dp_connect` and then returns, returns as that does. -/
theorem terminates_of_reconnect (F : Plugin σ Unit → Plugin σ α) (hsame : w.SameSocket w₁ os)
    (hreturns : ∀ R w₂, Ran R w₁ () w₂ → ∃ a w', Ran (F R) w a w')
    (hhalts : ∀ R e w₂, Halts R w₁ e w₂ → ∃ e' w', Halts (F R) w e' w') :
    Terminates (fun n => F (dpConnect n)) w ↔ ¬ w.ReconnectsForever os := by
  have hinner := dpConnect_terminates_iff w₁
  rw [hsame.reconnectsForever, hsame.buffer] at hinner
  simp only [true_and] at hinner
  rw [← hinner]
  constructor
  · rintro ⟨n, a, w', hran⟩
    rcases hrun : StateT.run (ExceptT.run (dpConnect n)) w₁ with ⟨r, w₂⟩
    cases r with
    | ok u => exact ⟨n, u, w₂, hrun⟩
    | error e =>
      rcases hhalts _ e w₂ hrun with ⟨e', w'', hstop⟩
      exact nomatch (hran.unique hstop).1
  · rintro ⟨n, u, w₂, hran⟩
    rcases hreturns _ w₂ hran with ⟨a, w', hcaller⟩
    exact ⟨n, a, w', hcaller⟩

/-- A program that returns whatever `dp_connect` does. -/
theorem terminates_of_returns (F : Plugin σ Unit → Plugin σ α) {c : Prop}
    (hreturns : ∀ R, ∃ a w', Ran (F R) w a w') (hc : ¬ c) :
    Terminates (fun n => F (dpConnect n)) w ↔ ¬ c := by
  constructor
  · intro _
    exact hc
  · intro _
    rcases hreturns (dpConnect 0) with ⟨a, w', hran⟩
    exact ⟨0, a, w', hran⟩

end Callers

theorem doSendRpcMsg_terminates_iff (w : World σ) (m : DpMsg) :
    Terminates (fun n => doSendRpcMsg (dpConnect n) m) w ↔
      ¬ (w.MaySend m ∧ w.evConnectTimer = false ∧
        ∃ os, sendBreaks w.dpSock m.msg w.os = some os ∧ w.ReconnectsForever os) := by
  by_cases hbreaks : w.MaySend m ∧ w.evConnectTimer = false ∧
      ∃ os, sendBreaks w.dpSock m.msg w.os = some os
  · rcases hbreaks with ⟨hmay, htimer, os, hbreaks⟩
    rcases doSendRpcMsg_reconnects hmay htimer hbreaks with ⟨w₁, hsame, hends⟩
    have hiff : Terminates (fun n => doSendRpcMsg (dpConnect n) m) w ↔
        ¬ w.ReconnectsForever os := by
      apply terminates_of_reconnect (doSendRpcMsg · m) hsame
      · intro R w₂ hran
        refine ⟨-1, w₂, (hends _ _ _).mpr ?_⟩
        exact (hran.ends_bind _ _ _).mpr ((ends_pure _ _ _ _).mpr ⟨rfl, rfl⟩)
      · intro R e w₂ hhalts
        exact ⟨e, w₂, (hends _ _ _).mpr ((ends_bind _ _ _ _ _).mpr (.inr ⟨e, hhalts, rfl⟩))⟩
    rw [hiff]
    simp [hmay, htimer, hbreaks]
  · apply terminates_of_returns (doSendRpcMsg · m)
    · intro R
      apply doSendRpcMsg_returns
      intro hmay htimer
      rw [Option.eq_none_iff_forall_ne_some]
      intro os hsome
      exact hbreaks ⟨hmay, htimer, os, hsome⟩
    · rintro ⟨hmay, htimer, os, hsome, -⟩
      exact hbreaks ⟨hmay, htimer, os, hsome⟩

/-! ### The drain -/

section Drain
variable {w : World σ} {m : DpMsg} {rest : List DpMsg}

theorem sendPendingRpcMsgs_cons (R : Plugin σ Unit) (hq : w.unsent = m :: rest)
    (r : Except Halt Unit) (w' : World σ) :
    Ends (sendPendingRpcMsgs R) w r w' ↔
      Ends (sendPendingStep R >>= fun goOn =>
        if goOn then loop .outOfFuel (rest.length + 1) (sendPendingStep R) else pure ())
        w r w' := by
  rw [sendPendingRpcMsgs, ends_get_bind, hq]
  rfl

/-- A message that was sent leaves the drain of the rest. -/
theorem sendPendingRpcMsgs_sent {len : Nat} {os : σ} (R : Plugin σ Unit)
    (hq : w.unsent = m :: rest) (hmay : World.MaySend { w with unsent := rest } m)
    (htry : World.Attempts { w with unsent := rest } m len (.octets len) os)
    (r : Except Halt Unit) (w' : World σ) :
    Ends (sendPendingRpcMsgs R) w r w' ↔
      Ends (sendPendingRpcMsgs R) (World.sentPending { w with unsent := rest } os m len) r w' := by
  have hsent := sendPendingStep_sent (R := R) hq hmay htry
  rw [sendPendingRpcMsgs_cons R hq, hsent.ends_bind, if_pos rfl, sendPendingRpcMsgs,
    ends_get_bind, sentPending_unsent]

theorem sendPendingRpcMsgs_gives_up {w₁ : World σ} {R : Plugin σ Unit} (hq : w.unsent = m :: rest)
    (hsend : Ran (doSendRpcMsg R m) { w with unsent := rest } (-1) w₁) :
    ∃ w', Ran (sendPendingRpcMsgs R) w () w' := by
  refine ⟨{ w₁ with unsent := m :: w₁.unsent }, ?_⟩
  rw [Ran, sendPendingRpcMsgs_cons R hq, (sendPendingStep_putBack hq hsend).ends_bind,
    if_neg Bool.false_ne_true]
  exact (ends_pure _ _ _ _).mpr ⟨rfl, rfl⟩

theorem sendPendingRpcMsgs_halts {w₁ : World σ} {R : Plugin σ Unit} {e : Halt}
    (hq : w.unsent = m :: rest)
    (hsend : Halts (doSendRpcMsg R m) { w with unsent := rest } e w₁) :
    Halts (sendPendingRpcMsgs R) w e w₁ := by
  rw [Halts, sendPendingRpcMsgs_cons R hq]
  refine (ends_bind _ _ _ _ _).mpr (.inr ⟨e, ?_, rfl⟩)
  rw [Halts, sendPendingStep_cons hq]
  exact (ends_bind _ _ _ _ _).mpr (.inr ⟨e, hsend, rfl⟩)

end Drain

/-- The drain never returns in this case only: some messages are taken whole, the
    next one meets a connection error, and the reconnect never ends. -/
def World.DrainsForever (w : World σ) (msgs : List DpMsg) : Prop :=
  w.txBuff.isSome = true ∧ w.evConnectTimer = false ∧
    ∃ os, drainBreaks w.dpSock w.dplaneIsReady msgs w.os = some os ∧ w.ReconnectsForever os

theorem sendBreaks_eq_none_of_takes {sock : Int} {msg : RpcMsg} {os os' : σ}
    (h : sendTakes sock msg os = some os') : sendBreaks sock msg os = none := by
  rw [sendTakes] at h
  rw [sendBreaks]
  rcases henc : Os.encodeMsg msg os with ⟨octets, os₁⟩
  cases octets with
  | none => rfl
  | some len =>
    rcases hsend : Os.send sock msg len os₁ with ⟨result, os₂⟩
    cases result with
    | octets r => simp only [hsend]
    | error e => simp [henc, hsend] at h

theorem sendPendingRpcMsgs_terminates_iff (w : World σ) :
    Terminates (fun n => sendPendingRpcMsgs (dpConnect n)) w ↔ ¬ w.DrainsForever w.unsent := by
  generalize hq : w.unsent = msgs
  induction msgs generalizing w with
  | nil =>
    apply terminates_of_returns sendPendingRpcMsgs
    · intro R
      refine ⟨(), w, ?_⟩
      rw [Ran, sendPendingRpcMsgs, ends_get_bind, hq, loop,
        (sendPendingStep_ran_nil hq).ends_bind]
      exact (ends_pure _ _ _ _).mpr ⟨rfl, rfl⟩
    · rintro ⟨-, -, os, hsome, -⟩
      cases hsome
  | cons m rest ih =>
    by_cases hmay : World.MaySend { w with unsent := rest } m
    · have hcan : (m.msg.isConnect || w.dplaneIsReady) = true := by
        rw [Bool.or_eq_true]
        exact hmay.2
      cases htakes : sendTakes w.dpSock m.msg w.os with
      | some os =>
        -- the message is sent, and the rest is drained
        rcases sendTakes_eq_some (w := { w with unsent := rest }).mp htakes with ⟨len, htry⟩
        have hbuf : w.txBuff.isSome = true := hmay.1
        have hrest := ih (World.sentPending { w with unsent := rest } os m len) (by simp)
        have hforever : (World.sentPending { w with unsent := rest } os m len).DrainsForever rest ↔
            w.DrainsForever (m :: rest) := by
          simp [World.DrainsForever, World.ReconnectsForever, drainBreaks, hcan, htakes, hbuf,
            sendBreaks_eq_none_of_takes htakes]
        rw [← hforever, ← hrest]
        simp only [Terminates, Ran, sendPendingRpcMsgs_sent _ hq hmay htry]
      | none =>
        by_cases hbreaks : w.evConnectTimer = false ∧
            ∃ os, sendBreaks w.dpSock m.msg w.os = some os
        · -- the message meets a connection error, and `dp_connect` is called
          rcases hbreaks with ⟨htimer, os, hbreaks⟩
          rcases doSendRpcMsg_reconnects hmay htimer hbreaks with ⟨w₁, hsame, hends⟩
          have hsame' : w.SameSocket w₁ os :=
            ⟨hsame.os, hsame.dpSock, hsame.dpSockPath, hsame.synt, hsame.buffer⟩
          have hiff : Terminates (fun n => sendPendingRpcMsgs (dpConnect n)) w ↔
              ¬ w.ReconnectsForever os := by
            apply terminates_of_reconnect sendPendingRpcMsgs hsame'
            · intro R w₂ hran
              have hfailed := (hends R (.ok (-1)) w₂).mpr
                ((hran.ends_bind _ _ _).mpr ((ends_pure _ _ _ _).mpr ⟨rfl, rfl⟩))
              exact ⟨(), sendPendingRpcMsgs_gives_up hq hfailed⟩
            · intro R e w₂ hhalts
              have hfailed := (hends R (.error e) w₂).mpr
                ((ends_bind _ _ _ _ _).mpr (.inr ⟨e, hhalts, rfl⟩))
              exact ⟨e, w₂, sendPendingRpcMsgs_halts hq hfailed⟩
          have hbuf : w.txBuff.isSome = true := hmay.1
          rw [hiff]
          simp [World.DrainsForever, drainBreaks, hcan, hbreaks, hbuf, htimer]
        · apply terminates_of_returns sendPendingRpcMsgs
          · intro R
            have hgives : ∃ w₁, Ran (doSendRpcMsg R m) { w with unsent := rest } (-1) w₁ := by
              apply doSendRpcMsg_gives_up
              · intro _ htimer
                rw [Option.eq_none_iff_forall_ne_some]
                intro os hsome
                exact hbreaks ⟨htimer, os, hsome⟩
              · intro _
                exact htakes
            rcases hgives with ⟨w₁, hsend⟩
            exact ⟨(), sendPendingRpcMsgs_gives_up hq hsend⟩
          · rintro ⟨-, htimer, os, hsome, -⟩
            rw [drainBreaks, if_pos hcan, htakes] at hsome
            cases hb : sendBreaks w.dpSock m.msg w.os with
            | none => simp [hb] at hsome
            | some os' => exact hbreaks ⟨htimer, os', hb⟩
    · apply terminates_of_returns sendPendingRpcMsgs
      · intro R
        exact ⟨(), sendPendingRpcMsgs_gives_up hq (doSendRpcMsg_notSent hmay)⟩
      · rintro ⟨hbuf, -, os, hsome, -⟩
        apply hmay
        refine ⟨hbuf, ?_⟩
        rw [drainBreaks] at hsome
        by_cases hcan : (m.msg.isConnect || w.dplaneIsReady) = true
        · exact (Bool.or_eq_true _ _).mp hcan
        · rw [if_neg hcan] at hsome
          cases hsome

theorem sendRpcMsg_terminates_iff (w : World σ) (m : DpMsg) :
    Terminates (fun n => sendRpcMsg (dpConnect n) m) w ↔
      ¬ w.DrainsForever (if m.msg.isConnect then [m] else w.unsent ++ [m]) := by
  by_cases hm : m.msg.isConnect = true
  · have hsend := doSendRpcMsg_terminates_iff (w.observe (.passed m)) m
    have hiff : Terminates (fun n => sendRpcMsg (dpConnect n) m) w ↔
        Terminates (fun n => doSendRpcMsg (dpConnect n) m) (w.observe (.passed m)) := by
      constructor
      · rintro ⟨n, a, w', hran⟩
        rw [Ran, sendRpcMsg_connect hm] at hran
        rcases (ran_bind _ _ _ _ _).mp hran with ⟨b, w₁, hsent, -⟩
        exact ⟨n, b, w₁, hsent⟩
      · rintro ⟨n, a, w₁, hsent⟩
        rcases sendRpcMsg_connect_returns hm hsent with ⟨b, w', hran⟩
        exact ⟨n, b, w', hran⟩
    rw [hiff, hsend, if_pos hm]
    apply not_congr
    cases hb : sendBreaks w.dpSock m.msg w.os with
    | none => simp [World.DrainsForever, drainBreaks, hm, hb]
    | some os =>
      simp [World.DrainsForever, World.ReconnectsForever, World.MaySend, drainBreaks, hm, hb]
  · have hdrain := sendPendingRpcMsgs_terminates_iff (w.cached m)
    have hiff : Terminates (fun n => sendRpcMsg (dpConnect n) m) w ↔
        Terminates (fun n => sendPendingRpcMsgs (dpConnect n)) (w.cached m) := by
      have hends : ∀ (R : Plugin σ Unit) r w', Ends (sendRpcMsg R m) w r w' ↔
          Ends (sendPendingRpcMsgs R >>= fun _ => pure 0) (w.cached m) r w' := by
        intro R r w'
        rw [sendRpcMsg, ends_observe_bind, if_neg hm, dpMsgCacheUnsent, ends_modify_bind]
        rfl
      constructor
      · rintro ⟨n, a, w', hran⟩
        rcases (ran_bind _ _ _ _ _).mp ((hends _ _ _).mp hran) with ⟨u, w₁, hsent, -⟩
        exact ⟨n, u, w₁, hsent⟩
      · rintro ⟨n, u, w₁, hsent⟩
        refine ⟨n, 0, w₁, (hends _ _ _).mpr ?_⟩
        exact (hsent.ends_bind _ _ _).mpr ((ends_pure _ _ _ _).mpr ⟨rfl, rfl⟩)
    rw [hiff, hdrain, if_neg hm]
    simp [World.DrainsForever, World.ReconnectsForever]

/-- A call of `dp_connect`, `do_send_rpc_msg`, `send_rpc_msg` or
    `send_pending_rpc_msgs` returns after finitely many nested calls unless the
    operating system answers, for ever, every `connect()` with success and every
    Connect that follows with a connection error; the last three get there by a
    message that meets a connection error while the connect timer is not armed. -/
theorem calls_return_iff (w : World σ) (m : DpMsg) :
    (Terminates dpConnect w ↔ ¬ (w.txBuff.isSome = true ∧ w.ReconnectsForever w.os)) ∧
    (Terminates (fun n => doSendRpcMsg (dpConnect n) m) w ↔
      ¬ (w.MaySend m ∧ w.evConnectTimer = false ∧
        ∃ os, sendBreaks w.dpSock m.msg w.os = some os ∧ w.ReconnectsForever os)) ∧
    (Terminates (fun n => sendRpcMsg (dpConnect n) m) w ↔
      ¬ w.DrainsForever (if m.msg.isConnect then [m] else w.unsent ++ [m])) ∧
    (Terminates (fun n => sendPendingRpcMsgs (dpConnect n)) w ↔ ¬ w.DrainsForever w.unsent) :=
  ⟨dpConnect_terminates_iff w, doSendRpcMsg_terminates_iff w m, sendRpcMsg_terminates_iff w m,
    sendPendingRpcMsgs_terminates_iff w⟩

/-! ### A peer that is shut for reading -/

/-- The system of a peer that accepts every `connect()` and then refuses every
    datagram with `EPIPE`. -/
structure ShutPeer where

instance : Os ShutPeer where
  socket s := (3, s)
  unlink _ s := s
  bind _ _ s := (true, s)
  chmod _ s := (true, s)
  close _ s := s
  connect _ _ s := (none, s)
  send _ _ _ s := (.error .epipe, s)
  recv _ s := (.error .eagain, s)
  getpid _ := 1
  verDp _ := ⟨0, 1, 0⟩
  encodeMsg _ s := (some 64, s)
  buffNew s := (true, s)
  moves _ _ := False

/-- The state in which `init_dplane_rpc` calls `dp_connect` with that peer. -/
def shutWorld : World ShutPeer :=
  { World.start pluginPath dataplanePath ⟨⟩ with
    dpSock := 3, txBuff := some 0, pool := initialPool, nextRef := 1000 }

theorem shutPeer_endless (sock : Int) (path : PathBuf) (synt : UInt64) (os : ShutPeer) :
    Endless (connectBreaks sock path synt) os := by
  intro k
  induction k generalizing os with
  | zero => rfl
  | succ k ih =>
    have hbreaks : connectBreaks sock path synt os = some os := rfl
    rw [nestedCalls, hbreaks]
    exact ih os

/-- The call of `dp_connect` by `init_dplane_rpc` does not return. -/
theorem connect_never_returns :
    ¬ ∀ w : World ShutPeer, Config.Reachable ⟨[.reconnect], w⟩ → Terminates dpConnect w := by
  intro hall
  have hinitial : Config.Initial ⟨[.reconnect], shutWorld⟩ :=
    ⟨pluginPath, dataplanePath, ⟨⟩, ⟨⟩, 3, by decide, rfl⟩
  have hreturns := hall shutWorld ⟨_, hinitial, .refl⟩
  apply (dpConnect_terminates_iff shutWorld).mp hreturns
  exact ⟨rfl, by decide, by unfold PathBuf.Valid; decide, shutPeer_endless _ _ _ _⟩

end DplanePlugin
