/-
  DplanePlugin/Handshake.lean
  ===========================
  **The handshake: readiness, the connection, the connect timer and the Connect
  in flight.**

  The four pieces of state are set in different functions, and `dp_connect`
  calls itself through a failing send.  `Handshake` relates them in every
  reachable configuration; `Frame.Fits` is what `dp_connect` and the send of a
  Connect rely on when they start.
-/
import DplanePlugin.Typing
import DplanePlugin.Script
import Mathlib.Tactic.ByContra

namespace DplanePlugin

open Lib

variable {σ : Type}

/-! ### The invariant -/

/-- No Connect awaits its response. -/
def NoConnect (inFlight : List DpMsg) : Prop := ∀ m ∈ inFlight, m.msg.isConnect = false

/-- How readiness, the connection, the connect timer, the socket and the
    in-flight list relate. -/
structure Handshake (ready connected timer : Bool) (sock : Int) (inFlight : List DpMsg) :
    Prop where
  last : NoConnect inFlight.dropLast
  connect : NoConnect inFlight ∨ (connected = true ∧ ready = false ∧ timer = false)
  ready : ready = true → connected = true
  timer : timer = true → connected = false
  sock : connected = true → sock ≠ noSock

/-- What holds when a call starts: `dp_connect` runs disconnected and without
    the timer, and a Connect is sent on a new connection. -/
def Frame.Fits (ready connected timer : Bool) (inFlight : List DpMsg) : Frame → Prop
  | .reconnect => ready = false ∧ connected = false ∧ timer = false
  | .sending .connect _ =>
    ready = false ∧ connected = true ∧ timer = false ∧ NoConnect inFlight
  | _ => True

section Handshake
variable {ready connected timer : Bool} {sock : Int} {inFlight : List DpMsg}
  (h : Handshake ready connected timer sock inFlight)
include h

theorem Handshake.noConnect_of_ready (hready : ready = true) : NoConnect inFlight := by
  obtain hno | ⟨-, hnot, -⟩ := h.connect
  · exact hno
  · rw [hready] at hnot
    cases hnot

theorem Handshake.noConnect_of_disconnected (hconn : connected = false) : NoConnect inFlight := by
  obtain hno | ⟨hnot, -, -⟩ := h.connect
  · exact hno
  · rw [hconn] at hnot
    cases hnot

theorem Handshake.timer_of_connected (hconn : connected = true) : timer = false := by
  by_contra htimer
  rw [h.timer ((Bool.not_eq_false _).mp htimer)] at hconn
  cases hconn

theorem Handshake.not_ready (hconn : connected = false) : ready = false := by
  by_contra hready
  rw [h.ready ((Bool.not_eq_false _).mp hready)] at hconn
  cases hconn

/-- A Connect in flight is the last request. -/
theorem Handshake.connect_last {m : DpMsg} {pre post : List DpMsg}
    (hq : inFlight = pre ++ m :: post) (hm : m.msg.isConnect = true) : post = [] := by
  by_contra hpost
  have hmem : m ∈ inFlight.dropLast := by
    rw [hq, List.dropLast_append_of_ne_nil (by simp), List.dropLast_cons_of_ne_nil hpost]
    simp
  rw [h.last m hmem] at hm
  cases hm

/-- A Connect in flight comes with a connection that is not ready. -/
theorem Handshake.of_connect {m : DpMsg} (hmem : m ∈ inFlight) (hm : m.msg.isConnect = true) :
    connected = true ∧ ready = false ∧ timer = false := by
  refine h.connect.resolve_left fun hno => ?_
  rw [hno m hmem] at hm
  cases hm

/-- A lost connection that was ready, or had no Connect in flight. -/
theorem Handshake.disconnect (hno : NoConnect inFlight) (timer' : Bool) (sock' : Int) :
    Handshake false false timer' sock' inFlight where
  last := h.last
  connect := .inl hno
  ready := fun hready => absurd hready Bool.false_ne_true
  timer := fun _ => rfl
  sock := fun hconn => absurd hconn Bool.false_ne_true

end Handshake

/-- Taking the oldest request leaves the rest as it was. -/
theorem Handshake.pop {ready connected timer : Bool} {sock : Int} {m : DpMsg} {rest : List DpMsg}
    (h : Handshake ready connected timer sock (m :: rest)) :
    Handshake ready connected timer sock rest where
  last := by
    cases rest with
    | nil => simp [NoConnect]
    | cons m' rest => exact fun x hx => h.last x (List.mem_cons_of_mem m hx)
  connect := h.connect.imp_left fun hno x hx => hno x (List.mem_cons_of_mem m hx)
  ready := h.ready
  timer := h.timer
  sock := h.sock

/-- A Connect is the oldest request in flight only if it is the only one. -/
theorem Handshake.only_connect {ready connected timer : Bool} {sock : Int} {m : DpMsg}
    {inFlight rest : List DpMsg} (h : Handshake ready connected timer sock inFlight)
    (hq : inFlight = m :: rest) (hm : m.msg.isConnect = true) : rest = [] := by
  have hrest : inFlight = [] ++ m :: rest := hq
  exact h.connect_last hrest hm

/-- A Connect was accepted. -/
theorem Handshake.accept {ready connected timer : Bool} {sock : Int} {m : DpMsg}
    {rest : List DpMsg} (h : Handshake ready connected timer sock (m :: rest))
    (hm : m.msg.isConnect = true) : Handshake true connected timer sock rest := by
  obtain rfl := h.only_connect rfl hm
  obtain ⟨hconn, -, htimer⟩ := h.of_connect List.mem_cons_self hm
  exact ⟨by simp [NoConnect], .inl (by simp [NoConnect]), fun _ => hconn, h.timer, h.sock⟩

/-- A request that is sent when none of the Connects is in flight. -/
theorem Handshake.push {ready connected timer : Bool} {sock : Int} {inFlight : List DpMsg}
    {m : DpMsg} (h : Handshake ready connected timer sock inFlight) (hno : NoConnect inFlight)
    (hm : m.msg.isConnect = false ∨ (connected = true ∧ ready = false ∧ timer = false)) :
    Handshake ready connected timer sock (inFlight ++ [m]) where
  last := by
    rw [List.dropLast_concat]
    exact hno
  connect := hm.imp_left fun hm => List.forall_mem_append.mpr
    ⟨hno, List.forall_mem_singleton.mpr hm⟩
  ready := h.ready
  timer := h.timer
  sock := h.sock

/-! ### Every reachable configuration -/

/-- The invariant, and what the innermost call relies on. -/
structure Shaken (s : Config σ) : Prop where
  handshake : Handshake s.world.dplaneIsReady s.world.dpSockConnected s.world.evConnectTimer
    s.world.dpSock s.world.inFlight
  fits : ∀ f ∈ s.frames.head?, f.Fits s.world.dplaneIsReady s.world.dpSockConnected
    s.world.evConnectTimer s.world.inFlight

theorem Config.Initial.shaken {s : Config σ} (h : s.Initial) : Shaken s := by
  obtain ⟨_, _, os₀, os, sock, hsock, rfl⟩ := h
  constructor
  · constructor <;> simp [World.start, NoConnect]
  · rintro f ⟨⟩
    exact ⟨rfl, rfl, rfl⟩

/-- A call that only waits relies on nothing. -/
theorem Frame.fits_of_inactive {f : Frame} (h : f.active = false) (ready connected timer : Bool)
    (inFlight : List DpMsg) : f.Fits ready connected timer inFlight := by
  cases f with
  | reconnect => cases h
  | sending o m => cases h
  | _ => trivial

variable [Os σ]

theorem Config.Reachable.fits_below {f : Frame} {fs : List Frame} {w : World σ}
    (h : Config.Reachable ⟨f :: fs, w⟩) (ready connected timer : Bool) (inFlight : List DpMsg) :
    ∀ g ∈ fs.head?, g.Fits ready connected timer inFlight :=
  fun g hg => Frame.fits_of_inactive (h.below g (List.mem_of_mem_head? hg)) _ _ _ _

/-- While a message is sent, no Connect is in flight. -/
theorem Shaken.noConnect_of_sending {o : Origin} {m : DpMsg} {fs : List Frame} {w : World σ}
    (hr : Config.Reachable ⟨.sending o m :: fs, w⟩) (hi : Shaken ⟨.sending o m :: fs, w⟩)
    (hmay : w.MaySend m) : NoConnect w.inFlight := by
  cases o with
  | connect => exact (hi.fits _ rfl).2.2.2
  | unsent =>
    have hm := (hr.typed.queued m (by simp)).isConnect
    refine hi.handshake.noConnect_of_ready (hmay.2.resolve_left fun hconn => ?_)
    rw [hm] at hconn
    cases hconn

theorem Shaken.act {s s' : Config σ} (hr : s.Reachable) (hi : Shaken s) (h : Act s s') :
    Shaken s' := by
  have hs := hi.handshake
  have hq {m : DpMsg} {rest : List DpMsg} (heq : s.world.inFlight = m :: rest) := heq ▸ hs
  have hawaited {m : DpMsg} {rest : List DpMsg} (heq : s.world.inFlight = m :: rest) :
      m.Awaited := hr.typed.inFlight m (heq ▸ List.mem_cons_self)
  cases h with
  | @badPath w fs hsock hpath =>
    obtain ⟨hready, hconn, -⟩ :
      w.dplaneIsReady = false ∧ w.dpSockConnected = false ∧ _ := hi.fits _ rfl
    refine ⟨?_, hr.fits_below _ _ _ _⟩
    have hdown := hs.disconnect (hs.noConnect_of_disconnected hconn) true w.dpSock
    simpa [hready, hconn] using hdown
  | refused hsock hpath hconnect he hreopen =>
    obtain ⟨hready, hconn, -⟩ := hi.fits _ rfl
    obtain ⟨-, sock, os', rfl⟩ := dpUnixSockReopen_ends (by exact hsock) hreopen
    exact ⟨hs.disconnect (hs.noConnect_of_disconnected hconn) true sock, hr.fits_below _ _ _ _⟩
  | connected hsock hpath hconnect hok halloc =>
    obtain ⟨hready, hconn, -⟩ := hi.fits _ rfl
    have hno := hs.noConnect_of_disconnected hconn
    refine ⟨⟨hs.last, .inl hno, fun _ => rfl, ?_, fun _ => hsock⟩, ?_⟩
    · simp
    · rintro _ ⟨⟩
      exact ⟨hready, rfl, rfl, hno⟩
  | sendDisconnected hmay htry he htimer =>
    have hno := hi.noConnect_of_sending hr hmay
    refine ⟨?_, ?_⟩
    · simpa using hs.disconnect hno _ _
    · rintro _ ⟨⟩
      exact ⟨rfl, rfl, htimer⟩
  | sendDisconnectedTimer hmay htry he htimer =>
    have hno := hi.noConnect_of_sending hr hmay
    exact ⟨by simpa using hs.disconnect hno _ _, by simp [Frame.Fits]⟩
  | @sentRequest w fs o m len os hmay htry hreq =>
    have hno := hi.noConnect_of_sending hr hmay
    refine ⟨?_, hr.fits_below _ _ _ _⟩
    have hm : m.msg.isConnect = false ∨
        (w.dpSockConnected = true ∧ w.dplaneIsReady = false ∧ w.evConnectTimer = false) := by
      cases o with
      | unsent => exact .inl (hr.typed.queued m (by simp)).isConnect
      | connect =>
        obtain ⟨hready, hconn, htimer, -⟩ := hi.fits _ rfl
        exact .inr ⟨hconn, hready, htimer⟩
    simpa using hs.push hno hm
  | timerFired htimer =>
    have hconn := hs.timer htimer
    refine ⟨⟨hs.last, .inl (hs.noConnect_of_disconnected hconn), hs.ready, ?_, hs.sock⟩, ?_⟩
    · simp
    · rintro _ ⟨⟩
      exact ⟨hs.not_ready hconn, hconn, rfl⟩
  | pushBack => exact ⟨by simpa using hs, fun g hg => Frame.fits_of_inactive
      (hr.below g (List.mem_cons_of_mem _ (List.mem_of_mem_head? hg))) _ _ _ _⟩
  | accepted hsynt heq hreq hmat hop hok =>
    rw [((gotExpectedResponse_iff _ _).mp hmat).2] at hop
    have hm := ((hawaited heq).isConnect hop).isConnect
    exact ⟨by simpa using (hq heq).accept hm, by simp [Frame.Fits]⟩
  | purgeAccepted heq hop hok =>
    have hm := ((hawaited heq).isConnect hop).isConnect
    exact ⟨by simpa using (hq heq).accept hm, by simp [Frame.Fits]⟩
  | mismatched _ heq | completed _ heq | answeredOther _ heq | refusedConnect _ heq
  | purged heq | purgedOther heq | purgeRefused heq =>
    exact ⟨by simpa using (hq heq).pop, by simp [Frame.Fits]⟩
  | _ =>
    -- what is left changes none of the five, and starts neither `dp_connect` nor a Connect
    refine ⟨by simpa using hs, ?_⟩
    first
      | exact hr.fits_below _ _ _ _
      | simp [Frame.Fits]

theorem Config.Reachable.shaken {s : Config σ} (h : s.Reachable) : Shaken s :=
  h.induct (fun _ => Config.Initial.shaken) fun _ _ hr hi => hi.act hr

/-! ### Between two callbacks -/

theorem Reachable.handshake {w : World σ} (h : Reachable w) :
    Handshake w.dplaneIsReady w.dpSockConnected w.evConnectTimer w.dpSock w.inFlight :=
  h.config.shaken.handshake

/-- Between two callbacks, at most one Connect is in flight; it is the last
    request, on a connection that is not ready.  A ready plugin is connected and
    has no Connect in flight; an armed connect timer means that it is neither
    connected nor ready and has no Connect in flight. -/
theorem handshake_between_callbacks {w : World σ} (h : Reachable w) :
    (w.inFlight.countP fun m => m.msg.isConnect) ≤ 1 ∧
    (∀ pre m post, w.inFlight = pre ++ m :: post → m.msg.isConnect = true →
      post = [] ∧ w.dplaneIsReady = false ∧ w.dpSockConnected = true ∧
        w.evConnectTimer = false) ∧
    (w.dplaneIsReady = true →
      w.dpSockConnected = true ∧ w.dpSock ≠ noSock ∧
        (∀ m ∈ w.inFlight, m.msg.isConnect = false) ∧ w.evConnectTimer = false) ∧
    (w.evConnectTimer = true →
      w.dplaneIsReady = false ∧ w.dpSockConnected = false ∧
        ∀ m ∈ w.inFlight, m.msg.isConnect = false) := by
  have hs := h.handshake
  refine ⟨?_, ?_, ?_, ?_⟩
  · obtain hnil | ⟨rest, m, hq⟩ := w.inFlight.eq_nil_or_concat
    · simp [hnil]
    · have hlast := hs.last
      rw [List.concat_eq_append] at hq
      rw [hq, List.dropLast_concat] at hlast
      have hrest : (rest.countP fun m => m.msg.isConnect) = 0 :=
        List.countP_eq_zero.mpr fun x hx => by simp [hlast x hx]
      rw [hq, List.countP_append, hrest, Nat.zero_add]
      exact List.countP_le_length
  · intro pre m post hq hm
    have hmem : m ∈ w.inFlight := hq ▸ List.mem_append_right pre List.mem_cons_self
    obtain ⟨hconn, hready, htimer⟩ := hs.of_connect hmem hm
    exact ⟨hs.connect_last hq hm, hready, hconn, htimer⟩
  · intro hready
    have hconn := hs.ready hready
    exact ⟨hconn, hs.sock hconn, hs.noConnect_of_ready hready, hs.timer_of_connected hconn⟩
  · intro htimer
    have hconn := hs.timer htimer
    exact ⟨hs.not_ready hconn, hconn, hs.noConnect_of_disconnected hconn⟩

/-- A run that is initialized and has its Connect in flight. -/
def connectingWorld : World Script := played 2 .plain []

theorem handshake_of_connectingWorld :
    (connectingWorld.inFlight.countP fun m => m.msg.isConnect) = 1 ∧
      connectingWorld.dplaneIsReady = false ∧
      ((connectingWorld.inFlight.countP fun m => m.msg.isConnect) ≤ 1) :=
  ⟨by decide +kernel, by decide +kernel,
    (handshake_between_callbacks (played_reachable 2 Script.plain [] (by decide +kernel))).1⟩

end DplanePlugin
