/-
  DplanePlugin/Wedge.lean
  =======================
  **When the plugin stays disconnected for ever.**

  A plugin that is not ready has to have the connect timer armed or a Connect in
  flight, or nothing will ever make it ready.  Three things lose both: entering
  `dp_connect` without a socket, a Connect that is not sent for another reason
  than a connection error, and a response that takes the Connect from the
  in-flight list without matching it.  A wedged plugin stays wedged.
-/
import DplanePlugin.Answering

namespace DplanePlugin

open Lib

variable {σ : Type}

/-! ### What wedges the plugin -/

/-- `send()` took not all octets, and reported no connection error. -/
def SendResult.drops (result : SendResult) (octets : Nat) : Bool :=
  match result with
  | .octets k => decide (k ≠ octets)
  | .error e => !e.isDisconnect

/-- `resp` takes a Connect from the in-flight list of `v` without matching it. -/
def dropsConnect (resp : RpcResponse) (v : View) : Bool :=
  match v.inFlight with
  | [] => false
  | m :: _ =>
    m.msg.isConnect && !reportsRestart resp v.synt && !gotExpectedResponse resp m.msg.request

@[simp] def Entry.wedges (e : Entry) : Bool :=
  match e.obs with
  | .connecting => decide (e.view.dpSock = noSock)
  | .encoded m none => m.msg.isConnect
  | .send m octets result => m.msg.isConnect && result.drops octets
  | .response resp => dropsConnect resp e.view
  | _ => false

/-- Something in the log wedged the plugin. -/
def hasWedge (log : List Entry) : Bool := log.any Entry.wedges

/-- The calls that will connect, or that send a Connect, or never return. -/
@[simp] def Frame.retries : Frame → Bool
  | .reconnect | .sending .connect _ | .aborted => true
  | _ => false

/-- The response being handled is about to take a Connect away. -/
@[simp] def Frame.drops : Frame → Bool
  | .handling resp v => dropsConnect resp v
  | _ => false

def retrying (fs : List Frame) : Bool := fs.any Frame.retries

def dropping (fs : List Frame) : Bool := fs.any Frame.drops

section Simp
variable (log log' : List Entry) (e : Entry) (f : Frame) (fs : List Frame)

@[simp] theorem hasWedge_nil : hasWedge [] = false := rfl
@[simp] theorem hasWedge_cons : hasWedge (e :: log) = (e.wedges || hasWedge log) := List.any_cons
@[simp] theorem hasWedge_append : hasWedge (log ++ log') = (hasWedge log || hasWedge log') :=
  List.any_append
@[simp] theorem hasWedge_refusal (w : World σ) (m : DpMsg) : hasWedge (w.refusal m) = false := by
  rw [World.refusal]
  split <;> rfl
@[simp] theorem retrying_nil : retrying [] = false := rfl
@[simp] theorem retrying_cons : retrying (f :: fs) = (f.retries || retrying fs) := List.any_cons
@[simp] theorem dropping_nil : dropping [] = false := rfl
@[simp] theorem dropping_cons : dropping (f :: fs) = (f.drops || dropping fs) := List.any_cons

end Simp

/-! ### The invariant -/

/-- Nothing is pending that could make the plugin ready. -/
structure Wedged (s : Config σ) : Prop where
  ready : s.world.dplaneIsReady = false
  timer : s.world.evConnectTimer = false
  connect : NoConnect s.world.inFlight
  frames : retrying s.frames = false

/-- The log tells if the plugin is wedged, or is about to be. -/
def WedgeLogged (s : Config σ) : Prop :=
  hasWedge s.world.log = true ↔ Wedged s ∨ dropping s.frames = true

theorem wedged_iff (s : Config σ) : Wedged s ↔ s.world.dplaneIsReady = false ∧
    s.world.evConnectTimer = false ∧ NoConnect s.world.inFlight ∧ retrying s.frames = false := by
  constructor
  · intro h
    exact ⟨h.ready, h.timer, h.connect, h.frames⟩
  · rintro ⟨hready, htimer, hconn, hfs⟩
    exact ⟨hready, htimer, hconn, hfs⟩

@[simp] theorem noConnect_cons (m : DpMsg) (rest : List DpMsg) :
    NoConnect (m :: rest) ↔ m.msg.isConnect = false ∧ NoConnect rest :=
  List.forall_mem_cons

theorem Config.Initial.wedgeLogged {s : Config σ} (h : s.Initial) : WedgeLogged s := by
  rcases h with ⟨_, _, os₀, os, sock, -, rfl⟩
  simp [WedgeLogged, wedged_iff, World.start]

variable [Os σ]

/-- Below the innermost call nothing connects, and no response is handled. -/
theorem Config.Reachable.idle_below {f : Frame} {fs : List Frame} {w : World σ}
    (h : Config.Reachable ⟨f :: fs, w⟩) : retrying fs = false ∧ dropping fs = false := by
  constructor
  · apply List.any_eq_false.mpr
    intro g hg hretries
    have hactive := h.below g hg
    cases g <;> simp_all [Frame.active]
  · apply List.any_eq_false.mpr
    intro g hg hdrops
    have hover := (List.pairwise_cons.mp h.stacked).1 g hg
    cases g <;> simp_all [Frame.Over, Frame.isHandling]

/-- A call that will connect has not wedged the plugin. -/
theorem WedgeLogged.of_retries {f : Frame} {fs : List Frame} {w : World σ}
    (hr : Config.Reachable ⟨f :: fs, w⟩) (hi : WedgeLogged ⟨f :: fs, w⟩)
    (hf : f.retries = true) : hasWedge w.log = false := by
  have hbelow := hr.idle_below
  have hdrops : f.drops = false := by
    cases f <;> first | rfl | cases hf
  rw [WedgeLogged, wedged_iff] at hi
  simpa [-Frame.retries, -Frame.drops, hf, hdrops, hbelow] using hi

/-- A ready plugin is not wedged. -/
theorem WedgeLogged.of_ready {f : Frame} {fs : List Frame} {w : World σ}
    (hr : Config.Reachable ⟨f :: fs, w⟩) (hi : WedgeLogged ⟨f :: fs, w⟩)
    (hready : w.dplaneIsReady = true) (hdrops : f.drops = false) : hasWedge w.log = false := by
  have hbelow := hr.idle_below
  rw [WedgeLogged, wedged_iff] at hi
  simpa [-Frame.retries, -Frame.drops, hready, hdrops, hbelow] using hi

/-- What a call that sends `m` may rely on: the plugin is ready and `m` is no
    Connect, or a Connect is sent on a new connection. -/
theorem WedgeLogged.of_sending {o : Origin} {m : DpMsg} {fs : List Frame} {w : World σ}
    (hr : Config.Reachable ⟨.sending o m :: fs, w⟩) (hi : WedgeLogged ⟨.sending o m :: fs, w⟩)
    (hmay : w.MaySend m) :
    hasWedge w.log = false ∧
      ((m.msg.isConnect = false ∧ w.dplaneIsReady = true ∧ o = .unsent) ∨
        (m.msg.isConnect = true ∧ w.dplaneIsReady = false ∧ w.evConnectTimer = false ∧
          NoConnect w.inFlight)) := by
  cases o with
  | connect =>
    rcases hr.shaken.fits _ rfl with ⟨hready, -, htimer, hno⟩
    have hm := (hr.typed.connects m (by simp)).isConnect
    exact ⟨hi.of_retries hr rfl, .inr ⟨hm, hready, htimer, hno⟩⟩
  | unsent =>
    have hm := (hr.typed.queued m (by simp)).isConnect
    have hready : w.dplaneIsReady = true := by
      rcases hmay.2 with hconn | hready
      · rw [hm] at hconn
        cases hconn
      · exact hready
    exact ⟨hi.of_ready hr hready rfl, .inl ⟨hm, hready, rfl⟩⟩

/-- A message that was not sent wedges the plugin if it is a Connect. -/
theorem WedgeLogged.failed {o : Origin} {m : DpMsg} {fs : List Frame} {w w' : World σ}
    (hr : Config.Reachable ⟨.sending o m :: fs, w⟩) (hi : WedgeLogged ⟨.sending o m :: fs, w⟩)
    (hmay : w.MaySend m) (hready : w'.dplaneIsReady = w.dplaneIsReady)
    (htimer : w'.evConnectTimer = w.evConnectTimer) (hflight : w'.inFlight = w.inFlight)
    (hlog : hasWedge w'.log = (hasWedge w.log || m.msg.isConnect)) :
    WedgeLogged ⟨.failed o m :: fs, w'⟩ := by
  have hbelow := hr.idle_below
  rcases hi.of_sending hr hmay with ⟨hnot, ⟨hm, hup, -⟩ | ⟨hm, hdown, hoff, hno⟩⟩
  · simp [WedgeLogged, wedged_iff, hready, hup, hlog, hnot, hm, hbelow]
  · simp [WedgeLogged, wedged_iff, hready, htimer, hflight, hdown, hoff, hno, hlog, hm, hbelow]

theorem WedgeLogged.act {s s' : Config σ} (hr : s.Reachable) (hi : WedgeLogged s) (h : Act s s') :
    WedgeLogged s' := by
  have hshaken := hr.shaken
  have hs := hshaken.handshake
  have hawaited {m : DpMsg} {rest : List DpMsg} (hq : s.world.inFlight = m :: rest) :
      m.Awaited := hr.typed.inFlight m (hq ▸ List.mem_cons_self)
  cases h with
  | noSocket hsock =>
    rcases hshaken.fits _ rfl with ⟨hready, hconn, htimer⟩
    have hno := hs.noConnect_of_disconnected hconn
    have hbelow := hr.idle_below
    simp at hready htimer hno
    simp [WedgeLogged, wedged_iff, hsock, hready, htimer, hno, hbelow]
  | badPath hsock hpath =>
    have hnot := hi.of_retries hr rfl
    have hbelow := hr.idle_below
    simp [WedgeLogged, wedged_iff, hsock, hnot, hbelow]
  | refused hsock hpath hconnect he hreopen =>
    have hnot := hi.of_retries hr rfl
    have hbelow := hr.idle_below
    rcases dpUnixSockReopen_ends (by exact hsock) hreopen with ⟨-, sock, os', rfl⟩
    simp [WedgeLogged, wedged_iff, hsock, hnot, hbelow]
  | connected hsock hpath hconnect hok halloc =>
    have hnot := hi.of_retries hr rfl
    have hbelow := hr.idle_below
    simp [WedgeLogged, wedged_iff, hsock, hnot, hbelow]
  | @notSent w fs o m hmay =>
    cases o with
    | unsent => simpa [WedgeLogged, wedged_iff] using hi
    | connect =>
      have hm := (hr.typed.connects m (by simp)).isConnect
      exact absurd ⟨hr.typed.buffer, .inl hm⟩ hmay
  | encodeFailed hmay henc => exact hi.failed hr hmay rfl rfl rfl (by simp)
  | sendBlocked hmay htry he =>
    exact hi.failed hr hmay rfl rfl rfl (by simp [SendResult.drops, isDisconnect_of_blocked he])
  | sendFailed hmay htry hb hd =>
    exact hi.failed hr hmay rfl rfl rfl (by simp [SendResult.drops, hd])
  | sendShort hmay htry hk =>
    exact hi.failed hr hmay rfl rfl rfl (by simp [SendResult.drops, hk])
  | sendDisconnected hmay htry he htimer =>
    have hnot := (hi.of_sending hr hmay).1
    have hbelow := hr.idle_below
    simp [WedgeLogged, wedged_iff, SendResult.drops, he, hnot, hbelow]
  | sendDisconnectedTimer hmay htry he htimer =>
    have hnot := (hi.of_sending hr hmay).1
    have hbelow := hr.idle_below
    simp [WedgeLogged, wedged_iff, SendResult.drops, he, htimer, hnot, hbelow]
  | sentRequest hmay htry hreq =>
    have hbelow := hr.idle_below
    rcases hi.of_sending hr hmay with ⟨hnot, ⟨hm, hup, -⟩ | ⟨hm, -⟩⟩
    · simp [WedgeLogged, wedged_iff, hnot, hm, hup, hbelow]
    · simp [WedgeLogged, wedged_iff, SendResult.drops, NoConnect, hnot, hm, hbelow]
  | sentOther hmay htry hreq =>
    have hbelow := hr.idle_below
    rcases hi.of_sending hr hmay with ⟨hnot, ⟨hm, hup, -⟩ | ⟨hm, -⟩⟩
    · simp [WedgeLogged, wedged_iff, hnot, hm, hup, hbelow]
    · exact absurd ((RpcMsg.isConnect_iff _).mp hm).1 hreq
  | response htype =>
    rw [WedgeLogged, wedged_iff] at hi ⊢
    simp at hi ⊢
    rw [hi]
  | unmatched hsynt hq =>
    rcases hr.view_eq with rfl
    simpa [WedgeLogged, wedged_iff, dropsConnect, hq] using hi
  | @mismatched w m rest resp v hsynt hq hmis =>
    rcases hr.view_eq with rfl
    have hmis := hmis.resolve_left fun hreq => hreq (hawaited hq).type
    cases hm : m.msg.isConnect with
    | false => simpa [WedgeLogged, wedged_iff, dropsConnect, hq, hm] using hi
    | true =>
      have hmem : m ∈ w.inFlight := hq ▸ List.mem_cons_self
      rcases hs.of_connect hmem hm with ⟨-, hready, htimer⟩
      have hrest := hs.only_connect hq hm
      simp at hready htimer
      simpa [WedgeLogged, wedged_iff, dropsConnect, hq, hm, hsynt, hmis, hready, htimer, hrest,
        NoConnect] using hi
  | @completed w m rest c resp v hsynt hq hreq hmat hop hctx =>
    rcases hr.view_eq with rfl
    have hm := ((hawaited hq).isUpdate_of_ctx hctx).isConnect
    simpa [WedgeLogged, wedged_iff, dropsConnect, hq, hm] using hi
  | @answeredOther w m rest resp v hsynt hq hreq hmat hop hctx =>
    rcases hr.view_eq with rfl
    rw [((gotExpectedResponse_iff _ _).mp hmat).2] at hop
    have hm := ((hawaited hq).isUpdate hop).isConnect
    simpa [WedgeLogged, wedged_iff, dropsConnect, hq, hm] using hi
  | @accepted w m rest resp v hsynt hq hreq hmat hop hok
  | @refusedConnect w m rest resp v hsynt hq hreq hmat hop hok =>
    rcases hr.view_eq with rfl
    rw [((gotExpectedResponse_iff _ _).mp hmat).2] at hop
    have hm := ((hawaited hq).isConnect hop).isConnect
    simpa [WedgeLogged, wedged_iff, dropsConnect, hq, hm, hmat] using hi
  | @purge w resp v hsynt =>
    rcases hr.view_eq with rfl
    have hkeeps : dropsConnect resp w.view = false := by
      rw [dropsConnect]
      cases w.view.inFlight <;> simp [hsynt]
    simpa [WedgeLogged, wedged_iff, hkeeps] using hi
  | @purged w m rest c resp v hq hop hctx =>
    have hm := ((hawaited hq).isUpdate_of_ctx hctx).isConnect
    simpa [WedgeLogged, wedged_iff, hq, hm] using hi
  | @purgedOther w m rest resp v hq hop hctx =>
    have hm := ((hawaited hq).isUpdate hop).isConnect
    simpa [WedgeLogged, wedged_iff, hq, hm] using hi
  | @purgeAccepted w m rest resp v hq hop hok | @purgeRefused w m rest resp v hq hop hok =>
    have hm := ((hawaited hq).isConnect hop).isConnect
    simpa [WedgeLogged, wedged_iff, hq, hm] using hi
  | timerFired htimer => simpa [WedgeLogged, wedged_iff, htimer] using hi
  | _ =>
    -- what is left changes none of the four
    simpa [WedgeLogged, wedged_iff] using hi

theorem Config.Reachable.wedgeLogged {s : Config σ} (h : s.Reachable) : WedgeLogged s :=
  h.induct (fun _ => Config.Initial.wedgeLogged) fun _ _ hr hi => hi.act hr

/-! ### Between two callbacks -/

/-- Between two callbacks, a plugin that is not ready has the connect timer armed
    or a Connect in flight, if and only if nothing wedged it: `dp_connect` was
    never entered without a socket, `encode_msg` never failed on a Connect,
    `send()` took every Connect whole or failed with a connection error, and every
    response that found a Connect at the head of the in-flight list reported a
    restart or matched it. -/
theorem not_wedged_iff {w : World σ} (h : Reachable w) :
    (w.dplaneIsReady = false →
      w.evConnectTimer = true ∨ ∃ m ∈ w.inFlight, m.msg.isConnect = true) ↔
    ∀ e ∈ w.log, e.wedges = false := by
  have hlogged := h.config.wedgeLogged
  rw [WedgeLogged, wedged_iff] at hlogged
  simp only [retrying_nil, dropping_nil, Bool.false_eq_true, or_false, and_true] at hlogged
  constructor
  · intro hpending
    have hnot : ¬ hasWedge w.log = true := by
      intro hwedge
      rcases hlogged.mp hwedge with ⟨hready, htimer, hno⟩
      rcases hpending hready with htimer' | ⟨m, hm, hconn⟩
      · rw [htimer] at htimer'
        cases htimer'
      · rw [hno m hm] at hconn
        cases hconn
    intro e he
    rw [hasWedge, List.any_eq_true] at hnot
    by_contra hwedges
    exact hnot ⟨e, he, (Bool.not_eq_false _).mp hwedges⟩
  · intro hlog hready
    by_contra hnone
    rw [not_or, not_exists] at hnone
    have hwedge : hasWedge w.log = true := by
      apply hlogged.mpr
      refine ⟨hready, (Bool.not_eq_true _).mp hnone.1, ?_⟩
      intro m hm
      rw [← Bool.not_eq_true]
      intro hconn
      exact hnone.2 m ⟨hm, hconn⟩
    rw [hasWedge, List.any_eq_true] at hwedge
    rcases hwedge with ⟨e, he, hwedges⟩
    rw [hlog e he] at hwedges
    cases hwedges

/-- A route is in flight, sending the next one fails, and the dataplane refuses the new
    connection. -/
def refusedWorld : World Script :=
  played 3
    { Script.plain with
      connects := [none, some .econnrefused], recvs := [accept 7],
      sends := [.octets 64, .octets 64, .error .econnreset] }
    [.recv, .process 2 [routeCtx 1, routeCtx 2]]

theorem not_wedged_of_refusedWorld :
    refusedWorld.dplaneIsReady = false ∧ refusedWorld.evConnectTimer = true ∧
      (refusedWorld.dplaneIsReady = false → refusedWorld.evConnectTimer = true ∨
        ∃ m ∈ refusedWorld.inFlight, m.msg.isConnect = true) := by
  have hreach : Reachable refusedWorld := played_reachable _ _ _ (by decide +kernel)
  have hiff := not_wedged_iff hreach
  exact ⟨by decide +kernel, by decide +kernel, hiff.mpr (by decide +kernel)⟩

/-- `connect()` succeeds, and the Connect finds no room in the socket. -/
def blockedWorld : World Script := played 2 { Script.plain with sends := [.error .eagain] } []

/-- The plugin is initialized, not ready, and has nothing pending. -/
theorem wedged_by_eagain :
    ¬ ∀ w : World Script, Reachable w → w.dplaneIsReady = false →
      w.evConnectTimer = true ∨ ∃ m ∈ w.inFlight, m.msg.isConnect = true := by
  intro hall
  have hreach : Reachable blockedWorld := played_reachable _ _ _ (by decide +kernel)
  have hpending := hall blockedWorld hreach (by decide +kernel)
  revert hpending
  decide +kernel

end DplanePlugin
