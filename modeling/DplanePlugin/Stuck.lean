/-
  DplanePlugin/Stuck.lean
  =======================
  **When the plugin can never become ready again.**

  A plugin that is not ready becomes ready by the answer to a Connect, and sends a
  Connect only when the connect timer fires.  If neither is to come, nothing that
  zebra, the dataplane or the operating system does changes this: `dp_connect` is
  called from nowhere else, a keepalive is not sent, and the requests wait in the
  unsent list.
-/
import DplanePlugin.Service
import DplanePlugin.Wedge

namespace DplanePlugin

open Lib

variable {σ : Type}

/-! ### How a run goes on -/

section Runs
variable [Os σ]

/-- What may come next in a run. -/
inductive Turn : World σ → World σ → Prop
  | callback {w w' : World σ} {n : Nat} {cb : Callback} (henabled : cb.enabled w)
      (hrun : Ran (cb.run n) w () w') : Turn w w'
  | outside {w : World σ} {os : σ} (hmoves : Os.moves w.os os) : Turn w { w with os := os }

/-- `w'` comes after `w` in some run. -/
abbrev Continues (w w' : World σ) : Prop := Relation.ReflTransGen Turn w w'

theorem ReachableFrom.continues {os₀ : σ} {w w' : World σ} (h : ReachableFrom os₀ w)
    (hto : Continues w w') : ReachableFrom os₀ w' := by
  induction hto with
  | refl => exact h
  | tail _ hlast ih =>
    cases hlast with
    | callback henabled hrun => exact .callback ih henabled hrun
    | outside hmoves => exact .outside ih hmoves

theorem Continues.path {w w' : World σ} (h : Continues w w') : Path ⟨[], w⟩ ⟨[], w'⟩ := by
  induction h with
  | refl => exact .refl
  | tail _ hlast ih =>
    cases hlast with
    | callback henabled hrun => exact ih.trans ((callback_refines henabled).returns hrun)
    | outside hmoves => exact ih.tail (.outside hmoves)

end Runs

/-! ### No answer to a Connect -/

/-- The answers to come are to `rest`, the requests in flight but for a Connect at the
    end; the first ones, to `known`, are being handled. -/
structure AnswersOnly (a : Party) (p : Dataplane) (known : List (Nat × RpcResponse))
    (rest : List DpMsg) : Prop where
  held : known.map (·.2) = a.held
  fits : ∀ x ∈ known, p.Fits x.1 x.2
  others : NoConnect rest
  inFlight : a.inFlight = rest ∨ ∃ m, a.inFlight = rest ++ [m] ∧ m.msg.isConnect = true
  arriving : known.map (·.1) ++ p.pending <+: List.range' a.done.length rest.length

/-- No answer to a Connect is to come. -/
def Unanswered (a : Party) (p : Dataplane) : Prop := ∃ known rest, AnswersOnly a p known rest

section Unanswered
variable {a : Party} {p p' : Dataplane}

theorem Dataplane.Steps.unanswered (h : p.Steps p') (ha : Unanswered a p) : Unanswered a p' := by
  rcases ha with ⟨known, rest, hheld, hfits, hother, hflight, harriving⟩
  refine ⟨known, rest, hheld, fun x hx => (hfits x hx).grow h.grows, hother, hflight, ?_⟩
  exact ((List.prefix_append_right_inj _).mpr h.pending).trans harriving

theorem Unanswered.turn {e : Env} (ha : Unanswered a e.dataplane) :
    Unanswered a e.turn.dataplane :=
  Env.turn_keeps (fun _ _ h hstep => hstep.unanswered h) ha

theorem Unanswered.recv {i : Nat} {resp : RpcResponse} {rx : List (Nat × RpcResponse)}
    (ha : Unanswered a p) (hheld : a.held = []) (hrx : p.rx = (i, resp) :: rx)
    (hfits : p.Fits i resp) : Unanswered { a with held := [resp] } { p with rx := rx } := by
  rcases ha with ⟨known, rest, hknown, -, hother, hflight, harriving⟩
  rw [hheld, List.map_eq_nil_iff] at hknown
  subst hknown
  refine ⟨[(i, resp)], rest, rfl, ?_, hother, hflight, ?_⟩
  · intro x hx
    rw [List.mem_singleton.mp hx]
    exact hfits.grow ⟨List.prefix_rfl, List.prefix_rfl, List.prefix_rfl⟩
  · simpa [Dataplane.pending, hrx] using harriving

/-- The response that is being handled answers the oldest request, and this is no
    Connect. -/
theorem Unanswered.oldest {resp : RpcResponse} (ha : Unanswered a p) (hheld : a.held = [resp]) :
    ∃ m rest, a.inFlight = m :: rest ∧ m.msg.isConnect = false ∧ p.Fits a.done.length resp ∧
      Unanswered { a with done := a.done ++ [m], inFlight := rest, held := [] } p := by
  rcases ha with ⟨known, rest, hknown, hfits, hother, hflight, harriving⟩
  rw [hheld] at hknown
  rcases List.map_eq_singleton_iff.mp hknown with ⟨⟨i, resp'⟩, rfl, rfl⟩
  cases rest with
  | nil => cases List.prefix_nil.mp harriving
  | cons m rest =>
    rw [List.length_cons, List.range'_succ, List.map_singleton, List.singleton_append,
      List.cons_prefix_cons] at harriving
    rcases harriving with ⟨rfl, harriving⟩
    rcases (noConnect_cons m rest).mp hother with ⟨hm, hother⟩
    have hlen : (a.done ++ [m]).length = a.done.length + 1 := by simp
    have hfit := hfits _ List.mem_cons_self
    rcases hflight with hflight | ⟨m', hflight, hm'⟩
    · refine ⟨m, rest, hflight, hm, hfit, [], rest, rfl, by simp, hother, .inl rfl, ?_⟩
      simpa [hlen] using harriving
    · refine ⟨m, rest ++ [m'], hflight, hm, hfit, [], rest, rfl, by simp, hother,
        .inr ⟨m', rfl, hm'⟩, ?_⟩
      simpa [hlen] using harriving

end Unanswered

/-! ### The invariant -/

/-- The calls that send a Connect, or take its answer for the evidence of a restart. -/
@[simp] def Frame.hopes : Frame → Bool
  | .sending .connect _ | .purging _ _ => true
  | _ => false

/-- The plugin is not ready, no answer to a Connect is to come, and it cannot send
    another: the connect timer is not armed; or there is no socket, or no path to
    connect to. -/
structure Stuck (s : Config Env) : Prop where
  ready : s.world.dplaneIsReady = false
  frames : ∀ f ∈ s.frames, f.hopes = false
  hopeless : (s.world.evConnectTimer = false ∧ .reconnect ∉ s.frames) ∨
    s.world.dpSock = noSock ∨ ¬ s.world.dpSockPath.Valid
  unanswered : Unanswered s.party s.world.os.dataplane

/-- Nothing is sent by a plugin that is not ready, Connects aside. -/
theorem Stuck.not_maySend {o : Origin} {m : DpMsg} {fs : List Frame} {w : World Env}
    (hr : Config.Reachable ⟨.sending o m :: fs, w⟩) (hi : Stuck ⟨.sending o m :: fs, w⟩) :
    ¬ w.MaySend m := by
  rintro ⟨-, hconn | hready⟩
  · cases o with
    | connect => exact absurd (hi.frames _ List.mem_cons_self) (by simp)
    | unsent =>
      have hm := (hr.typed.queued m (by simp)).isConnect
      rw [hm] at hconn
      cases hconn
  · have hnot := hi.ready
    rw [hready] at hnot
    cases hnot

theorem Stuck.act {s s' : Config Env} (hr : s.Reachable) (ha : Agreed s) (hi : Stuck s)
    (h : Act s s') : Stuck s' := by
  rcases hi with ⟨hready, hfs, hhope, hun⟩
  have hs := hr.shaken.handshake
  cases h with
  | encodeFailed hsend | sendBlocked hsend | sendFailed hsend | sendShort hsend
  | sendDisconnected hsend | sendDisconnectedTimer hsend | sentRequest hsend | sentOther hsend =>
    exact absurd hsend (Stuck.not_maySend hr ⟨hready, hfs, hhope, hun⟩)
  | notSent hsend =>
    rw [List.forall_mem_cons] at hfs
    refine ⟨hready, ?_, by simpa using hhope, by simpa [Config.party] using hun⟩
    exact List.forall_mem_cons.mpr ⟨rfl, hfs.2⟩
  | noSocket hsock =>
    rw [List.forall_mem_cons] at hfs
    exact ⟨hready, hfs.2, .inr (.inl hsock), by simpa [Config.party] using hun⟩
  | badPath hsock hpath =>
    rw [List.forall_mem_cons] at hfs
    exact ⟨hready, hfs.2, .inr (.inr hpath), by simpa [Config.party] using hun⟩
  | refused hsock hpath | connected hsock hpath =>
    rcases hhope with ⟨-, hnone⟩ | hno | hbad
    · exact absurd List.mem_cons_self hnone
    · exact absurd hno hsock
    · exact absurd hpath hbad
  | timerFired htimer =>
    rcases hhope with ⟨hoff, -⟩ | hno | hbad
    · rw [htimer] at hoff
      cases hoff
    · exact ⟨hready, by simp, .inr (.inl hno), by simpa [Config.party] using hun⟩
    · exact ⟨hready, by simp, .inr (.inr hbad), by simpa [Config.party] using hun⟩
  | @recvNothing w os r f hrecv hnone hf =>
    refine ⟨hready, hfs, hhope, ?_⟩
    rcases w.os.recv_eq with ⟨err, heq⟩ | ⟨i, resp, rest, hrx, heq⟩
    · cases heq.symm.trans hrecv
      simpa [Config.party] using hun.turn
    · cases heq.symm.trans hrecv
      exact absurd (hnone _ rfl _ rfl) (Nat.succ_ne_zero 63)
  | @received w os d msg hrecv hd hmsg =>
    refine ⟨hready, by simp, by simpa using hhope, ?_⟩
    rcases w.os.recv_eq with ⟨err, heq⟩ | ⟨i, resp, rest, hrx, heq⟩
    · cases heq.symm.trans hrecv
    · cases heq.symm.trans hrecv
      cases hmsg
      have hfits := ha.agrees.turn.sound.rx (i, resp) (hrx ▸ List.mem_cons_self)
      simpa [Config.party, RpcMsg.ofResponse] using hun.turn.recv rfl hrx hfits
  | ignored htype | controlReceived htype | response htype =>
    exact ⟨hready, by simp, by simpa using hhope, by simpa [Config.party, htype] using hun⟩
  | unmatched hsynt hq =>
    rcases hun.oldest rfl with ⟨m, rest, hq', -⟩
    cases hq.symm.trans hq'
  | @mismatched w m rest resp v hsynt hq hmis =>
    rcases hmis with htype | hmis
    · exact absurd (hr.typed.inFlight m (by simp [hq])).type htype
    · rw [ha.agrees.expected_of_oldest rfl hs hsynt hq] at hmis
      cases hmis
  | @completed w m rest c resp v hsynt hq | @answeredOther w m rest resp v hsynt hq =>
    rcases hun.oldest rfl with ⟨m', rest', hq', -, -, hrest⟩
    cases hq.symm.trans hq'
    exact ⟨hready, by simp, by simpa using hhope, by simpa [Config.party] using hrest⟩
  | @accepted w m rest resp v hsynt hq hreq hmat hop
  | @refusedConnect w m rest resp v hsynt hq hreq hmat hop =>
    rcases hun.oldest rfl with ⟨m', rest', hq', hm, -⟩
    cases hq.symm.trans hq'
    rw [((gotExpectedResponse_iff _ _).mp hmat).2] at hop
    rw [(RpcMsg.isConnect_iff _).mpr ⟨hreq, hop⟩] at hm
    cases hm
  | @purge w resp v hsynt =>
    rcases hun.oldest rfl with ⟨m, rest, hq, hm, hfits, -⟩
    have hflight : w.inFlight = m :: rest := hq
    have hat : w.inFlight[0]? = some m := by simp [hflight]
    have hop := ((reportsRestart_iff _ _).mp hsynt).1
    rw [(ha.agrees.fits_msg hat hfits).1] at hop
    have htype := (hr.typed.inFlight m (List.mem_of_getElem? hat)).type
    rw [(RpcMsg.isConnect_iff _).mpr ⟨htype, hop⟩] at hm
    cases hm
  | purged | purgedOther | purgeAccepted | purgeRefused | purgeDone =>
    exact absurd (hfs _ List.mem_cons_self) (by simp)
  | @outside w os hmoves =>
    rcases hmoves with ⟨steps, rfl⟩
    refine ⟨hready, hfs, hhope, ?_⟩
    exact Dataplane.foldl_step (fun _ _ h hstep => hstep.unanswered h) steps hun
  | queueControl hfs' =>
    rcases hfs' with rfl | ⟨msg, rfl⟩
    · exact ⟨hready, by simp, by simpa using hhope, by simpa [Config.party] using hun⟩
    · exact ⟨hready, by simp, by simpa using hhope, by simpa [Config.party] using hun⟩
  | @recycle w fs m =>
    rw [List.forall_mem_cons] at hfs
    exact ⟨hready, hfs.2, by simpa using hhope, by simpa [Config.party] using hun⟩
  | dequeue | skipKernel | queueRequest | queued | returned | refresh | started | recvFired
  | writeFired | writeDone | writeAgain | keepaliveFired | keepaliveArmed | workReady
  | finalized =>
    -- a callback of zebra: it makes nothing ready, answers nothing and connects nothing
    exact ⟨hready, by simp, by simpa using hhope, by simpa [Config.party] using hun⟩
  | dropConnect | popUnsent | pushBack | drained | subscribe =>
    exact ⟨hready, by simpa using hfs, by simpa using hhope, by simpa [Config.party] using hun⟩

theorem Stuck.path {s s' : Config Env} (hr : s.Reachable) (ha : Agreed s) (hi : Stuck s)
    (h : Path s s') : Stuck s' := by
  have hall : s'.Reachable ∧ Agreed s' ∧ Stuck s' := by
    induction h with
    | refl => exact ⟨hr, ha, hi⟩
    | tail _ hlast ih =>
      rcases ih with ⟨hr', ha', hi'⟩
      exact ⟨hr'.tail hlast, ha'.act hr' hlast, hi'.act hr' ha' hlast⟩
  exact hall.2.2

/-! ### Between two callbacks -/

/-- The plugin is ready; or the connect timer is armed, there is a socket, and the path
    to connect to is a valid one; or the answer to a Connect in flight is to come. -/
def World.Hopeful (w : World Env) : Prop :=
  w.dplaneIsReady = true ∨
    (w.evConnectTimer = true ∧ w.dpSock ≠ noSock ∧ w.dpSockPath.Valid) ∨
    ∃ j m, w.inFlight[j]? = some m ∧ m.msg.isConnect = true ∧
      (poppedMsgs w.log).length + j ∈ w.os.dataplane.pending

theorem Agrees.unanswered {a : Party} {p : Dataplane} (ha : Agrees a p) (hheld : a.held = [])
    {timer : Bool} {sock : Int} (hs : Handshake a.ready a.connected timer sock a.inFlight)
    (hnone : ∀ j m, a.inFlight[j]? = some m → m.msg.isConnect = true →
      a.done.length + j ∉ p.pending) : Unanswered a p := by
  rcases ha.answers with ⟨known, hknown, -, hexpected, -⟩
  rw [hheld, List.map_eq_nil_iff] at hknown
  subst hknown
  rw [List.map_nil, List.nil_append] at hexpected
  cases hexpected with
  | @connect rest m l hq hm hl his =>
    exact absurd (by simp [his]) (hnone rest.length m (by simp [hq]) hm)
  | first his =>
    by_cases hno : NoConnect a.inFlight
    · exact ⟨[], a.inFlight, hheld.symm, by simp, hno, .inl rfl, his⟩
    · have hconn : ∃ m ∈ a.inFlight, m.msg.isConnect = true := by simpa [NoConnect] using hno
      rcases hconn with ⟨m, hmem, hm⟩
      rcases List.append_of_mem hmem with ⟨rest, post, hq⟩
      obtain rfl := hs.connect_last hq hm
      have hothers : NoConnect rest := by
        have hlast := hs.last
        rwa [hq, List.dropLast_concat] at hlast
      rw [hq, List.length_append, List.length_singleton, List.range'_1_concat] at his
      rcases List.prefix_concat_iff.mp his with hall | his
      · exact absurd (by simp [hall]) (hnone rest.length m (by simp [hq]) hm)
      · exact ⟨[], rest, hheld.symm, by simp, hothers, .inr ⟨m, hq, hm⟩, his⟩

theorem ReachableFrom.stuck {e : Env} (hfresh : e.dataplane.Fresh) {w : World Env}
    (h : ReachableFrom e w) (hnot : ¬ w.Hopeful) : Stuck ⟨[], w⟩ := by
  have hfrom := h.config socketCalls_untouched (fun _ he => he.turn) hfresh.agrees
  rw [World.Hopeful, not_or, not_or] at hnot
  rcases hnot with ⟨hready, htimer, hnone⟩
  have hun : Unanswered (Config.party ⟨[], w⟩) w.os.dataplane := by
    refine hfrom.agreed.agrees.unanswered rfl hfrom.reachable.shaken.handshake ?_
    intro j m hm hconn hpending
    exact hnone ⟨j, m, hm, hconn, hpending⟩
  refine ⟨(Bool.not_eq_true _).mp hready, by simp, ?_, hun⟩
  by_cases hsock : w.dpSock = noSock
  · exact .inr (.inl hsock)
  by_cases hpath : w.dpSockPath.Valid
  · exact .inl ⟨(Bool.not_eq_true _).mp fun hon => htimer ⟨hon, hsock, hpath⟩, by simp⟩
  · exact .inr (.inr hpath)

/-- Against the dataplane: from a state between two callbacks in which the plugin is not
    ready, no answer to a Connect is to come, and the connect timer is not armed or of
    no use, it never becomes ready again, whatever zebra asks for and whatever the
    dataplane and the system do. -/
theorem hopeless_plugin_stays_unready {e : Env} (hfresh : e.dataplane.Fresh) {w w' : World Env}
    (h : ReachableFrom e w) (hnot : ¬ w.Hopeful) (hto : Continues w w') :
    w'.dplaneIsReady = false := by
  have hfrom := h.config socketCalls_untouched (fun _ he => he.turn) hfresh.agrees
  exact ((h.stuck hfresh hnot).path hfrom.reachable hfrom.agreed hto.path).ready

/-- The first incarnation crashes before it answers the Connect, and another one
    starts. -/
def strandedWorld : World Env :=
  played 4 ⟨List.replicate 9 .quiet ++ [.doing [.crash, .start 9]], freshDataplane⟩ [.recv]

/-- Zebra hands over a route, and nothing fails any more. -/
def laterWorld : World Env :=
  (playFrom 4 [.process 1 [routeCtx 1], .keepalive, .recv] strandedWorld).getD strandedWorld

theorem laterWorld_continues : Continues strandedWorld laterWorld := by
  have hplay : (playFrom 4 [.process 1 [routeCtx 1], .keepalive, .recv] strandedWorld).isSome =
      true := by decide +kernel
  rcases Option.isSome_iff_exists.mp hplay with ⟨w, hw⟩
  rw [laterWorld, hw, Option.getD_some]
  exact playFrom_keeps (R := Continues strandedWorld)
    (fun _ _ _ _ hto henabled hrun => hto.tail (.callback henabled hrun)) .refl hw

theorem strandedWorld_not_hopeful : ¬ strandedWorld.Hopeful := by
  have hready : strandedWorld.dplaneIsReady = false := by decide +kernel
  have htimer : strandedWorld.evConnectTimer = false := by decide +kernel
  have hnone : strandedWorld.os.dataplane.pending = [] := by decide +kernel
  generalize strandedWorld = w at *
  rintro (hon | ⟨hon, -⟩ | ⟨j, m, -, -, hmem⟩)
  · rw [hready] at hon
    cases hon
  · rw [htimer] at hon
    cases hon
  · rw [hnone] at hmem
    cases hmem

theorem laterWorld_stays_unready :
    ctxsOf laterWorld.unsent = [1] ∧ laterWorld.os.dataplane.current = some 1 ∧
      laterWorld.dplaneIsReady = false := by
  refine ⟨by decide +kernel, by decide +kernel, ?_⟩
  exact hopeless_plugin_stays_unready freshDataplane_fresh
    (played_reachableFrom _ _ _ (by decide +kernel)) strandedWorld_not_hopeful
    laterWorld_continues

end DplanePlugin
