/-
  DplanePlugin/Session.lean
  =========================
  **A ready plugin is in session with one incarnation of the dataplane.**

  The plugin knows of the dataplane only the token that the last accepted Connect
  brought.  While it is ready, that token is the one of the incarnation that its
  socket is connected to, and this incarnation received every request in flight.
  While a Connect is in flight, the requests before it went to earlier
  incarnations: this is what `handle_rpc_response` relies on when it takes another
  token for the evidence that they are lost.
-/
import DplanePlugin.Service

namespace DplanePlugin

open Lib

/-! ### The session -/

/-- The incarnation `g` is the one that the socket is connected to, and the one whose
    token is stored. -/
structure InSession (g : Nat) (a : Party) (p : Dataplane) : Prop where
  link : p.link = some g
  token : p.synts.list[g]? = some a.synt
  received : ∀ j m, a.inFlight[j]? = some m →
    p.receipts[a.done.length + j]? = some (g, m.msg)
  answers : a.held = [] → p.current = some g →
    p.pending = List.range' a.done.length a.inFlight.length

theorem Agrees.inSession {a : Party} {p : Dataplane} (ha : Agrees a p) (hready : a.ready = true)
    (hno : NoConnect a.inFlight) : ∃ g, InSession g a p := by
  have hlast {g : Nat} (h : a.LastReady p g) : p.link = some g := by
    rwa [Party.LastReady, if_pos hready] at h
  rcases ha.token with hzero | ⟨g, hsynt, hg⟩
  · exact absurd hzero (ha.nonzero (.inl hready))
  refine ⟨g, hlast hg, hsynt, ?_, ?_⟩
  · intro j m hm
    rcases ha.receipt hm with ⟨g', hreceipt, hmem⟩
    have hg' := hlast (ha.older _ hmem (ha.not_isConnect hno hmem))
    obtain rfl : g = g' := by simpa [hlast hg] using hg'
    exact hreceipt
  · intro hheld hcurrent
    rcases ha.answers with ⟨known, hknown, -, -, hall⟩
    rw [hheld, List.map_eq_nil_iff] at hknown
    simpa [hknown] using hall hready ⟨g, hlast hg, hcurrent⟩

/-- Against the dataplane, between two callbacks: a ready plugin stores the token of the
    incarnation that its socket is connected to, this incarnation received all the
    requests in flight, in their order, and if it is still up the answers to come are
    those to the requests in flight, each once and in order. -/
theorem ready_plugin_in_session {e : Env} (hfresh : e.dataplane.Fresh) {w : World Env}
    (h : ReachableFrom e w) (hready : w.dplaneIsReady = true) :
    ∃ g, w.os.dataplane.link = some g ∧ w.os.dataplane.synts.list[g]? = some w.synt ∧
      (∀ j m, w.inFlight[j]? = some m →
        w.os.dataplane.receipts[(poppedMsgs w.log).length + j]? = some (g, m.msg)) ∧
      (w.os.dataplane.current = some g →
        w.os.dataplane.pending = List.range' (poppedMsgs w.log).length w.inFlight.length) := by
  have hfrom := h.config socketCalls_untouched (fun _ he => he.turn) hfresh.agrees
  have hno := hfrom.reachable.shaken.handshake.noConnect_of_ready hready
  rcases hfrom.agreed.agrees.inSession hready hno with ⟨g, hlink, htoken, hreceived, hanswers⟩
  exact ⟨g, hlink, htoken, hreceived, hanswers rfl⟩

/-- The first incarnation accepted the Connect, and a route is in flight. -/
def openWorld : World Env := played 4 crashingEnv [.recv, .process 1 [routeCtx 1]]

theorem session_of_openWorld :
    ctxsOf openWorld.inFlight = [1] ∧ openWorld.synt = 7 ∧
      ∃ g, openWorld.os.dataplane.link = some g ∧
        openWorld.os.dataplane.synts.list[g]? = some openWorld.synt := by
  have hreach : ReachableFrom crashingEnv openWorld :=
    played_reachableFrom _ _ _ (by decide +kernel)
  rcases ready_plugin_in_session freshDataplane_fresh hreach (by decide +kernel) with
    ⟨g, hlink, htoken, -⟩
  exact ⟨by decide +kernel, by decide +kernel, g, hlink, htoken⟩

/-! ### Before the session -/

/-- A Connect in flight went to the incarnation that the socket is connected to, the
    requests before it to earlier ones. -/
theorem Agrees.connecting_after {a : Party} {p : Dataplane} (ha : Agrees a p)
    (hready : a.ready = false) (hconn : a.connected = true) {j : Nat} {m : DpMsg}
    (hm : a.inFlight[j]? = some m) :
    ∃ k g, p.link = some k ∧ p.receipts[a.done.length + j]? = some (g, m.msg) ∧
      if m.msg.isConnect then g = k else g < k := by
  rcases ha.receipt hm with ⟨g, hreceipt, hmem⟩
  cases hisconn : m.msg.isConnect with
  | true => exact ⟨g, g, ha.connecting _ hmem hisconn, hreceipt, rfl⟩
  | false =>
    have hlast := ha.older _ hmem hisconn
    rw [Party.LastReady, if_neg (by simp [hready]), if_pos hconn] at hlast
    rcases hlast with ⟨k, hlink, hlt⟩
    exact ⟨k, g, hlink, hreceipt, hlt⟩

/-- Against the dataplane, at any moment at which a Connect is in flight: the dataplane
    received the requests in flight in their order, the Connect by the incarnation that
    the socket is connected to, and every other request by an earlier one. -/
theorem connect_follows_old_requests {e : Env} (hfresh : e.dataplane.Fresh) {w : World Env}
    (h : ReachedFrom e w) (hconn : ∃ m ∈ w.inFlight, m.msg.isConnect = true) {j : Nat}
    {m : DpMsg} (hm : w.inFlight[j]? = some m) :
    ∃ k g, w.os.dataplane.link = some k ∧
      w.os.dataplane.receipts[(poppedMsgs w.log).length + j]? = some (g, m.msg) ∧
      if m.msg.isConnect then g = k else g < k := by
  rcases h.config socketCalls_untouched (fun _ he => he.turn) hfresh.agrees with ⟨fs, hfrom⟩
  rcases hconn with ⟨m', hmem, hm'⟩
  rcases hfrom.reachable.shaken.handshake.of_connect hmem hm' with ⟨hconnected, hready, -⟩
  exact hfrom.agreed.agrees.connecting_after hready hconnected hm

/-- The plugin has found out about the crash, and connected to the next incarnation; a
    route that the first one received is in flight, and a Connect. -/
def reconnectedWorld : World Env :=
  played 4 crashingEnv [.recv, .process 1 [routeCtx 1], .recv, .process 1 [routeCtx 2],
    .process 1 [routeCtx 3]]

theorem old_request_in_reconnectedWorld :
    reconnectedWorld.inFlight.map (·.msg.isConnect) = [false, true] ∧
      ∀ m, reconnectedWorld.inFlight[0]? = some m →
        ∃ k g, reconnectedWorld.os.dataplane.link = some k ∧
          reconnectedWorld.os.dataplane.receipts[2]? = some (g, m.msg) ∧
          if m.msg.isConnect then g = k else g < k := by
  have hreach : ReachedFrom crashingEnv reconnectedWorld :=
    .between (played_reachableFrom _ _ _ (by decide +kernel))
  have hpopped : (poppedMsgs reconnectedWorld.log).length = 2 := by decide +kernel
  refine ⟨by decide +kernel, ?_⟩
  intro m hm
  have hafter := connect_follows_old_requests freshDataplane_fresh hreach (by decide +kernel) hm
  rwa [hpopped] at hafter

/-! ### What the dataplane receives -/

theorem requests_nonConnects (msgs : List DpMsg) :
    nonConnects (requests msgs) = requests (nonConnects msgs) :=
  List.filter_comm _ _ _

/-- The requests that the dataplane received, Connects aside. -/
def Dataplane.updates (p : Dataplane) : List RpcMsg :=
  (p.receipts.map (·.2)).filter fun msg => !msg.isConnect

/-- Whatever crashes, and however often the plugin reconnects: all incarnations together
    received the requests that the plugin queued, Connects aside, each once and in
    order, but for those still unsent, and they are numbered 1, 2, 3 and so on, as a
    `uint64_t` counts. -/
theorem dataplane_receives_updates_once {e : Env} (hfresh : e.dataplane.Fresh) {w : World Env}
    (h : ReachableFrom e w) :
    w.os.dataplane.updates ++ (requests w.unsent).map (·.msg) =
      (requests (nonConnects (passedMsgs w.log))).map (·.msg) ∧
    w.os.dataplane.updates.map (·.request.seqn) = seqnsUpTo w.os.dataplane.updates.length := by
  have hfrom := h.config socketCalls_untouched (fun _ he => he.turn) hfresh.agrees
  have hreceived := hfrom.agreed.agrees.received
  rcases fifo_between_callbacks h.reachable with ⟨horder, hseqns, -⟩
  have hupdates : w.os.dataplane.updates =
      (requests (nonConnects (sentMsgs w.log))).map (·.msg) := by
    rw [← requests_nonConnects, ← hfrom.reachable.fifo.flight, Dataplane.updates, hreceived,
      List.filter_map]
    rfl
  constructor
  · rw [hupdates, ← List.map_append, ← requests_append, horder]
  · rw [hupdates, List.map_map, List.length_map]
    exact hseqns

theorem updates_in_crashedWorld :
    crashedWorld.os.dataplane.updates.map (·.request.seqn) = [1, 2] ∧
      crashedWorld.os.dataplane.receipts.length = 4 ∧
      (requests crashedWorld.unsent).length = 1 ∧
      crashedWorld.os.dataplane.updates.map (·.request.seqn) =
        seqnsUpTo crashedWorld.os.dataplane.updates.length := by
  have hreach : ReachableFrom crashingEnv crashedWorld :=
    played_reachableFrom _ _ _ (by decide +kernel)
  exact ⟨by decide +kernel, by decide +kernel, by decide +kernel,
    (dataplane_receives_updates_once freshDataplane_fresh hreach).2⟩

end DplanePlugin
