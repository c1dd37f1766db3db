/-
  DplanePlugin/Agreement.lean
  ===========================
  **The plugin and the dataplane agree, whatever crashes.**

  The plugin runs against the dataplane of `Dataplane.lean`, from the start on.
  Every action of the plugin keeps the agreement of `Alignment.lean`; so a
  response that does not report a restart answers the oldest request in flight,
  and a context is completed with the verdict on its own request, or by the purge
  for a request that was lost.
-/
import DplanePlugin.Alignment
import DplanePlugin.Contexts

namespace DplanePlugin

open Lib

/-! ### System calls -/

section Calls
variable {a : Party} {e : Env} (ha : Agrees a e.dataplane)
include ha

theorem Agrees.turn : Agrees a e.turn.dataplane :=
  Env.turn_keeps (fun _ _ h hstep => hstep.agrees h) ha

end Calls

/-- A disconnected plugin may close its socket and open others. -/
theorem socketCalls_agrees {a : Party} (hready : a.ready = false) (hconn : a.connected = false)
    (hno : NoConnect a.inFlight) : SocketCalls fun e : Env => Agrees a e.dataplane where
  socket _ h := h.turn.cut hready hconn hno
  unlink _ _ h := h.turn
  bind _ _ _ h := h.turn
  chmod _ _ h := h.turn
  close _ _ h := h.turn.cut hready hconn hno

theorem World.Attempts.error {w : World Env} {m : DpMsg} {len : Nat} {err : Errno} {os : Env}
    (h : w.Attempts m len (.error err) os) :
    os = w.os.turn.turn ∧ (err.isDisconnect = true → ¬ os.dataplane.Up) := by
  rcases w.os.turn.send_eq m.msg len with ⟨err', heq, hdown⟩ | ⟨k, -, -, heq⟩
  · cases heq.symm.trans h.2
    exact ⟨rfl, hdown⟩
  · cases heq.symm.trans h.2

theorem World.Attempts.octets {w : World Env} {m : DpMsg} {len r : Nat} {os : Env}
    (h : w.Attempts m len (.octets r) os) :
    r = len ∧ ∃ k, w.os.turn.turn.dataplane.link = some k ∧
      w.os.turn.turn.dataplane.current = some k ∧
      os.dataplane = w.os.turn.turn.dataplane.receive k m.msg := by
  rcases w.os.turn.send_eq m.msg len with ⟨err', heq, -⟩ | ⟨k, hlink, hcurrent, heq⟩
  · cases heq.symm.trans h.2
  · cases heq.symm.trans h.2
    exact ⟨rfl, k, hlink, hcurrent, rfl⟩

/-! ### The invariant -/

variable {σ : Type}

/-- The response that a call in progress was made with. -/
@[simp] def Frame.responses : Frame → List RpcResponse
  | .received msg => if msg.type = .response then [msg.response] else []
  | .handling resp _ => [resp]
  | _ => []

def heldResponses (fs : List Frame) : List RpcResponse := fs.flatMap Frame.responses

section Held
variable (fs : List Frame)

@[simp] theorem heldResponses_nil : heldResponses [] = [] := rfl
@[simp] theorem heldResponses_cons (f : Frame) :
    heldResponses (f :: fs) = f.responses ++ heldResponses fs := List.flatMap_cons

end Held

@[simps] def Config.party (s : Config σ) : Party where
  ready := s.world.dplaneIsReady
  connected := s.world.dpSockConnected
  synt := s.world.synt
  done := poppedMsgs s.world.log
  inFlight := s.world.inFlight
  held := heldResponses s.frames

/-- What holds while the purge runs. -/
def Frame.Purges (a : Party) (p : Dataplane) : Frame → Prop
  | .purging resp _ => DplanePlugin.Purges a p resp
  | _ => True

structure Agreed (s : Config Env) : Prop where
  agrees : Agrees s.party s.world.os.dataplane
  purges : ∀ f ∈ s.frames, f.Purges s.party s.world.os.dataplane

theorem Frame.purges_of_not {f : Frame} (hf : f.isPurging = false) (a : Party) (p : Dataplane) :
    f.Purges a p := by
  cases f with
  | purging resp v => cases hf
  | _ => trivial

/-- Below any call but the recycling of an answered Connect, nothing is purged. -/
theorem Config.Reachable.purges_below [Os σ] {f : Frame} {fs : List Frame} {w : World σ}
    (h : Config.Reachable ⟨f :: fs, w⟩) (hf : f.isAnswered = false) (a : Party) (p : Dataplane) :
    ∀ g ∈ fs, g.Purges a p := by
  intro g hg
  rcases (List.pairwise_cons.mp h.stacked).1 g hg with ⟨-, -, -, hp⟩
  apply Frame.purges_of_not
  rw [← Bool.not_eq_true]
  intro hpurging
  rw [hp hpurging] at hf
  cases hf

/-- A request that is sent is a Connect while none is in flight, or is sent by a
    ready plugin. -/
theorem Config.Reachable.sends [Os σ] {o : Origin} {m : DpMsg} {fs : List Frame} {w : World σ}
    (h : Config.Reachable ⟨.sending o m :: fs, w⟩) (hmay : w.MaySend m) :
    (m.msg.isConnect = true ∧ w.dplaneIsReady = false ∧ NoConnect w.inFlight) ∨
      (m.msg.isConnect = false ∧ w.dplaneIsReady = true) := by
  cases o with
  | connect =>
    rcases h.shaken.fits _ rfl with ⟨hready, -, -, hno⟩
    exact .inl ⟨(h.typed.connects m (by simp)).isConnect, hready, hno⟩
  | unsent =>
    have hm := (h.typed.queued m (by simp)).isConnect
    refine .inr ⟨hm, hmay.2.resolve_left fun hconn => ?_⟩
    rw [hm] at hconn
    cases hconn

theorem Agreed.act {s s' : Config Env} (hr : s.Reachable) (hi : Agreed s) (h : Act s s') :
    Agreed s' := by
  rcases hi with ⟨ha, hpurges⟩
  have hs := hr.shaken.handshake
  cases h with
  | @refused w fs os err w' hsock hpath hconnect he hreopen =>
    rcases hr.shaken.fits _ rfl with ⟨hready, hconn, -⟩
    have hno := hs.noConnect_of_disconnected hconn
    have hos : Agrees (Config.party ⟨.reconnect :: fs, w⟩) os.dataplane := by
      rcases w.os.connect_eq with ⟨err', -, heq⟩ | ⟨k, -, heq⟩
      · cases heq.symm.trans hconnect
        exact ha.turn
      · cases heq.symm.trans hconnect
    have hos' : Agrees (Config.party ⟨.reconnect :: fs, w⟩) w'.os.dataplane :=
      dpUnixSockReopen_keeps (socketCalls_agrees hready hconn hno) (by exact hsock) hreopen hos
    rcases dpUnixSockReopen_ends (by exact hsock) hreopen with ⟨-, sock, os', rfl⟩
    refine ⟨?_, hr.purges_below rfl _ _⟩
    simpa [Config.party, show w.dplaneIsReady = false from hready,
      show w.dpSockConnected = false from hconn] using hos'
  | @connected w fs os ref next pool result cinfo hsock hpath hconnect hok halloc =>
    rcases hr.shaken.fits _ rfl with ⟨hready, hconn, -⟩
    have hno := hs.noConnect_of_disconnected hconn
    refine ⟨?_, List.forall_mem_cons.mpr ⟨trivial, List.forall_mem_cons.mpr
      ⟨trivial, hr.purges_below rfl _ _⟩⟩⟩
    rcases w.os.connect_eq with ⟨err, herr, heq⟩ | ⟨k, hk, heq⟩
    · cases heq.symm.trans hconnect
      rcases hok with hnone | hsome
      · cases hnone
      · exact absurd (Option.some.inj hsome) herr
    · cases heq.symm.trans hconnect
      simpa [Config.party] using ha.turn.connect hready hconn hno hk
  | @encodeFailed w fs o m os hmay henc =>
    obtain rfl : w.os.turn = os := congrArg Prod.snd henc
    refine ⟨?_, List.forall_mem_cons.mpr ⟨trivial, hr.purges_below rfl _ _⟩⟩
    simpa [Config.party] using ha.turn
  | sendBlocked hmay htry he =>
    obtain ⟨rfl, -⟩ := htry.error
    refine ⟨?_, List.forall_mem_cons.mpr ⟨trivial, hr.purges_below rfl _ _⟩⟩
    simpa [Config.party] using ha.turn.turn
  | sendFailed hmay htry hb hd =>
    obtain ⟨rfl, -⟩ := htry.error
    refine ⟨?_, List.forall_mem_cons.mpr ⟨trivial, hr.purges_below rfl _ _⟩⟩
    simpa [Config.party] using ha.turn.turn
  | sendShort hmay htry hlen => exact absurd htry.octets.1 hlen
  | sendDisconnected hmay htry he htimer =>
    obtain ⟨rfl, hdown⟩ := htry.error
    refine ⟨?_, List.forall_mem_cons.mpr ⟨trivial, List.forall_mem_cons.mpr
      ⟨trivial, hr.purges_below rfl _ _⟩⟩⟩
    simpa [Config.party] using ha.turn.turn.disconnect (hdown he)
  | sendDisconnectedTimer hmay htry he htimer =>
    obtain ⟨rfl, hdown⟩ := htry.error
    refine ⟨?_, List.forall_mem_cons.mpr ⟨trivial, hr.purges_below rfl _ _⟩⟩
    simpa [Config.party] using ha.turn.turn.disconnect (hdown he)
  | @sentRequest w fs o m len os hmay htry hreq =>
    rcases htry.octets with ⟨-, k, hlink, hcurrent, hos⟩
    refine ⟨?_, hr.purges_below rfl _ _⟩
    have hsend : (m.msg.isConnect = true ∧ w.dplaneIsReady = false ∧ NoConnect w.inFlight) ∨
        (m.msg.isConnect = false ∧ w.dplaneIsReady = true ∧ w.synt ≠ 0) :=
      (hr.sends hmay).imp_right fun ⟨hm, hready⟩ => ⟨hm, hready, ha.nonzero (.inl hready)⟩
    simpa [Config.party, hos] using ha.turn.turn.send hlink hcurrent hreq hsend
  | @sentOther w fs m len os hmay htry hreq =>
    rcases htry.octets with ⟨-, k, hlink, hcurrent, hos⟩
    refine ⟨?_, hr.purges_below rfl _ _⟩
    rw [Dataplane.receive, if_neg hreq] at hos
    simpa [Config.party, hos] using ha.turn.turn
  | pushBack =>
    have hbelow := hr.purges_below rfl
    refine ⟨by simpa [Config.party] using ha, ?_⟩
    intro f hf
    exact hbelow _ _ f (List.mem_cons_of_mem _ hf)
  | @recvNothing w os r f hrecv hnone hf =>
    refine ⟨?_, List.forall_mem_nil _⟩
    rcases w.os.recv_eq with ⟨err, heq⟩ | ⟨i, resp, rest, hrx, heq⟩
    · cases heq.symm.trans hrecv
      simpa [Config.party] using ha.turn
    · cases heq.symm.trans hrecv
      exact absurd (hnone _ rfl _ rfl) (Nat.succ_ne_zero 63)
  | @received w os d msg hrecv hd hmsg =>
    refine ⟨?_, List.forall_mem_singleton.mpr trivial⟩
    rcases w.os.recv_eq with ⟨err, heq⟩ | ⟨i, resp, rest, hrx, heq⟩
    · cases heq.symm.trans hrecv
    · cases heq.symm.trans hrecv
      cases hmsg
      simpa [Config.party, RpcMsg.ofResponse] using ha.turn.recv rfl hrx
  | ignored htype | controlReceived htype =>
    refine ⟨?_, List.forall_mem_nil _⟩
    simpa [Config.party, htype] using ha
  | response htype =>
    refine ⟨?_, List.forall_mem_singleton.mpr trivial⟩
    simpa [Config.party, htype] using ha
  | unmatched hsynt hq =>
    rcases ha.oldest rfl hs hsynt with ⟨m, rest, hq', -⟩
    cases hq.symm.trans hq'
  | @mismatched w m rest resp v hsynt hq hmis =>
    rcases hmis with htype | hmis
    · exact absurd (hr.typed.inFlight m (by simp [hq])).type htype
    · rw [ha.expected_of_oldest rfl hs hsynt hq] at hmis
      cases hmis
  | @completed w m rest c resp v hsynt hq =>
    rcases ha.oldest rfl hs hsynt with ⟨m', rest', hq', hfits, hexpected, hall⟩
    cases hq.symm.trans hq'
    refine ⟨?_, List.forall_mem_nil _⟩
    simpa [Config.party] using ha.pop hq hexpected hall
  | @answeredOther w m rest resp v hsynt hq =>
    rcases ha.oldest rfl hs hsynt with ⟨m', rest', hq', hfits, hexpected, hall⟩
    cases hq.symm.trans hq'
    refine ⟨?_, List.forall_mem_nil _⟩
    simpa [Config.party] using ha.pop hq hexpected hall
  | @accepted w m rest resp v hsynt hq hreq hmat hop hok =>
    rcases ha.oldest rfl hs hsynt with ⟨m', rest', hq', hfits, hexpected, -⟩
    cases hq.symm.trans hq'
    rw [((gotExpectedResponse_iff _ _).mp hmat).2] at hop
    have hm : m.msg.isConnect = true := (RpcMsg.isConnect_iff _).mpr ⟨hreq, hop⟩
    obtain rfl := hs.only_connect hq hm
    rcases hs.of_connect (by simp [hq]) hm with ⟨hconn, -, -⟩
    refine ⟨?_, List.forall_mem_cons.mpr ⟨trivial, List.forall_mem_singleton.mpr trivial⟩⟩
    simpa [Config.party] using ha.accept hq hm hexpected.eq_nil hfits hconn
  | @refusedConnect w m rest resp v hsynt hq hreq hmat hop hok =>
    rcases ha.oldest rfl hs hsynt with ⟨m', rest', hq', hfits, -⟩
    rw [((gotExpectedResponse_iff _ _).mp hmat).2] at hop
    cases hq.symm.trans hq'
    have hat : w.inFlight[0]? = some m := by simp [hq]
    exact absurd ((ha.fits_msg hat hfits).2.2 hop) hok
  | @purge w resp v hsynt =>
    have hpurge := ha.purge rfl hs (fun m hm => (hr.typed.inFlight m hm).type) hsynt
    refine ⟨?_, List.forall_mem_singleton.mpr ⟨hpurge.pending, hpurge.last⟩⟩
    simpa [Config.party] using ha.release hs hpurge
  | @purged w m rest c resp v hq hop hctx =>
    have hpurge : Purges _ _ resp := hpurges _ List.mem_cons_self
    have hne : m.msg.request.op ≠ .connect := by
      rcases hop with h | h | h <;> simp [h]
    have hm := ((hr.typed.inFlight m (by simp [hq])).isUpdate hne).isConnect
    refine ⟨?_, List.forall_mem_singleton.mpr ?_⟩
    · simpa [Config.party] using ha.purge_pop hs hpurge hq
    · simpa [Frame.Purges, Config.party] using hpurge.pop hq hm
  | @purgedOther w m rest resp v hq hop hctx =>
    have hpurge : Purges _ _ resp := hpurges _ List.mem_cons_self
    have hm := ((hr.typed.inFlight m (by simp [hq])).isUpdate hop).isConnect
    refine ⟨?_, List.forall_mem_singleton.mpr ?_⟩
    · simpa [Config.party] using ha.purge_pop hs hpurge hq
    · simpa [Frame.Purges, Config.party] using hpurge.pop hq hm
  | @purgeAccepted w m rest resp v hq hop hok =>
    have hpurge : Purges _ _ resp := hpurges _ List.mem_cons_self
    have hm := ((hr.typed.inFlight m (by simp [hq])).isConnect hop).isConnect
    obtain rfl := hs.only_connect hq hm
    rcases hs.of_connect (by simp [hq]) hm with ⟨hconn, -, -⟩
    refine ⟨?_, List.forall_mem_cons.mpr ⟨trivial, List.forall_mem_singleton.mpr ?_⟩⟩
    · simpa [Config.party] using ha.accept hq hm hpurge.pending (hpurge.fits hq) hconn
    · exact ⟨hpurge.pending, .inl rfl⟩
  | @purgeRefused w m rest resp v hq hop hok =>
    have hpurge : Purges _ _ resp := hpurges _ List.mem_cons_self
    have hm := ((hr.typed.inFlight m (by simp [hq])).isConnect hop).isConnect
    obtain rfl := hs.only_connect hq hm
    have hat : w.inFlight[0]? = some m := by simp [hq]
    exact absurd ((ha.fits_msg hat (hpurge.fits hq)).2.2 hop) hok
  | purgeDone hq =>
    refine ⟨?_, List.forall_mem_nil _⟩
    simpa [Config.party] using ha
  | @recycle w fs m =>
    have hsame : Config.party ⟨fs, w.recycle m⟩ = Config.party ⟨.answered m :: fs, w⟩ := by
      simp [Config.party]
    refine ⟨hsame ▸ ha, ?_⟩
    intro f hf
    rw [hsame]
    exact hpurges f (List.mem_cons_of_mem _ hf)
  | @outside w os hmoves =>
    rcases hmoves with ⟨steps, rfl⟩
    refine ⟨?_, List.forall_mem_nil _⟩
    exact Dataplane.foldl_step (fun _ _ h hstep => hstep.agrees h) steps ha
  | popUnsent =>
    refine ⟨by simpa [Config.party] using ha, ?_⟩
    exact List.forall_mem_cons.mpr ⟨trivial, List.forall_mem_cons.mpr
      ⟨trivial, hr.purges_below rfl _ _⟩⟩
  | notSent =>
    refine ⟨by simpa [Config.party] using ha, ?_⟩
    exact List.forall_mem_cons.mpr ⟨trivial, hr.purges_below rfl _ _⟩
  | queueControl hfs halloc =>
    refine ⟨by simpa [Config.party] using ha, ?_⟩
    rcases hfs with rfl | ⟨msg, rfl⟩
    · exact List.forall_mem_singleton.mpr trivial
    · exact List.forall_mem_cons.mpr ⟨trivial, List.forall_mem_singleton.mpr trivial⟩
  | _ =>
    -- what is left concerns neither the connection nor a request or response
    refine ⟨by simpa [Config.party] using ha, ?_⟩
    first
      | exact hr.purges_below rfl _ _
      | simp [Frame.Purges]

/-! ### What the dataplane does not forget -/

/-- A property of the operating system that every call keeps. -/
structure SystemCalls [Os σ] (P : σ → Prop) : Prop extends SocketCalls P where
  connect : ∀ sock path os, P os → P (Os.connect sock path os).2
  send : ∀ sock msg len os, P os → P (Os.send sock msg len os).2
  recv : ∀ sock os, P os → P (Os.recv sock os).2
  encodeMsg : ∀ msg os, P os → P (Os.encodeMsg msg os).2
  moves : ∀ os os', P os → Os.moves os os' → P os'

theorem Act.keeps [Os σ] {P : σ → Prop} (hP : SystemCalls P) {s s' : Config σ} (h : Act s s')
    (hs : P s.world.os) : P s'.world.os := by
  have hattempt {w : World σ} {m : DpMsg} {len : Nat} {result : SendResult} {os : σ}
      (htry : w.Attempts m len result os) (hw : P w.os) : P os := by
    have hos := hP.send w.dpSock m.msg len _ (hP.encodeMsg m.msg w.os hw)
    rwa [htry.2] at hos
  cases h with
  | @refused w fs os e w' hsock hpath hconnect he hreopen =>
    have hos := hP.connect w.dpSock w.dpSockPath w.os hs
    rw [hconnect] at hos
    have hreopened : P w'.os :=
      dpUnixSockReopen_keeps hP.toSocketCalls (by exact hsock) hreopen (by exact hos)
    exact hreopened
  | @connected w fs os ref next pool result cinfo hsock hpath hconnect =>
    have hos := hP.connect w.dpSock w.dpSockPath w.os hs
    rwa [hconnect] at hos
  | @encodeFailed w fs o m os hmay henc =>
    have hos := hP.encodeMsg m.msg w.os hs
    rwa [henc] at hos
  | sendBlocked hmay htry | sendFailed hmay htry | sendShort hmay htry
  | sendDisconnected hmay htry | sendDisconnectedTimer hmay htry | sentRequest hmay htry
  | sentOther hmay htry => exact hattempt htry hs
  | @recvNothing w os r f hrecv | @received w os d msg hrecv =>
    have hos := hP.recv w.dpSock w.os hs
    rwa [hrecv] at hos
  | outside hmoves => exact hP.moves _ _ hs hmoves
  | _ => exact hs

theorem systemCalls_grows (p : Dataplane) : SystemCalls fun e : Env => p.Grows e.dataplane := by
  have hturn {e : Env} (h : p.Grows e.dataplane) : p.Grows e.turn.dataplane :=
    Env.turn_keeps (fun _ _ h hstep => h.trans hstep.grows) h
  have hcut {e : Env} (h : p.Grows e.dataplane) : p.Grows e.cut.dataplane := by
    obtain ⟨hsynts, hreceipts, hverdicts⟩ := hturn h
    exact ⟨hsynts, hreceipts, hverdicts⟩
  constructor
  · constructor
    · exact fun _ h => hcut h
    · exact fun _ _ h => hturn h
    · exact fun _ _ _ h => hturn h
    · exact fun _ _ h => hturn h
    · exact fun _ _ h => hcut h
  · intro sock path e h
    obtain ⟨hsynts, hreceipts, hverdicts⟩ := hturn h
    change p.Grows e.connect.2.dataplane
    rcases e.connect_eq with ⟨err, -, heq⟩ | ⟨k, -, heq⟩ <;> rw [heq]
    all_goals exact ⟨hsynts, hreceipts, hverdicts⟩
  · intro sock msg len e h
    change p.Grows (e.send msg len).2.dataplane
    rcases e.send_eq msg len with ⟨err, heq, -⟩ | ⟨k, -, -, heq⟩
    · rw [heq]
      exact hturn h
    · rw [heq]
      exact (hturn h).trans (Dataplane.grows_receive _ k msg)
  · intro sock e h
    obtain ⟨hsynts, hreceipts, hverdicts⟩ := hturn h
    change p.Grows e.recv.2.dataplane
    rcases e.recv_eq with ⟨err, heq⟩ | ⟨i, resp, rest, -, heq⟩ <;> rw [heq]
    all_goals exact ⟨hsynts, hreceipts, hverdicts⟩
  · exact fun _ _ h => hturn h
  · rintro e e' h ⟨steps, rfl⟩
    exact Dataplane.foldl_step (fun _ _ h hstep => h.trans hstep.grows) steps h

theorem Act.grows {s s' : Config Env} (h : Act s s') :
    s.world.os.dataplane.Grows s'.world.os.dataplane :=
  h.keeps (systemCalls_grows _) (.refl _)

/-! ### What the log says -/

/-- A response reports a restart, or `recover_request` finds the request that it
    answers. -/
def Matched (e : Entry) : Prop :=
  ∀ resp, e.obs = .response resp → reportsRestart resp e.view.synt = true ∨
    ∃ m rest, e.view.inFlight = m :: rest ∧ m.msg.type = .request ∧
      gotExpectedResponse resp m.msg.request = true

/-- `st` is what the dataplane's verdict on the request number `i` stands for. -/
def Dataplane.Gave (p : Dataplane) (i : Nat) (st : ZebraResult) : Prop :=
  ∃ rescode, (i, rescode) ∈ p.verdicts ∧ st = rescode.toZebra

/-- A response that reports a restart is being handled. -/
def Purging (log : List Entry) : Prop :=
  ∃ pre resp v mid, log = pre ++ ⟨.response resp, v⟩ :: mid ∧ OnlyAnswers mid ∧
    Restart resp v.synt

/-- A context is completed when its request was taken from the in-flight list, the
    `i`-th of all and the `i`-th that the dataplane received: with the verdict on it,
    or by the purge, and it was lost. -/
def Concluded (p : Dataplane) (before : List Entry) (e : Entry) : Prop :=
  ∀ c st, e.obs = .handedOff c st → ∃ pre m v g,
    before = pre ++ [⟨.popped m, v⟩] ∧ m.ctx = some c ∧
    p.receipts[(poppedMsgs pre).length]? = some (g, m.msg) ∧
    (p.Gave (poppedMsgs pre).length st ∨
      st = .success ∧ Purging pre ∧ p.Lost (poppedMsgs pre).length g)

/-- The responses that came. -/
def responses (log : List Entry) : List RpcResponse := log.filterMap (·.obs.responded)

section Grow
variable {log log' : List Entry}

@[simp] theorem responses_nil : responses [] = [] := rfl
@[simp] theorem responses_append : responses (log ++ log') = responses log ++ responses log' :=
  List.filterMap_append
@[simp] theorem responses_cons (e : Entry) :
    responses (e :: log) = e.obs.responded.toList ++ responses log :=
  filterMap_cons_toList _ _ _
@[simp] theorem responses_refusal (w : World σ) (m : DpMsg) : responses (w.refusal m) = [] :=
  w.refusal_filterMap _ (fun _ _ => rfl) m

theorem matched_of_prefix (h : Always (fun _ => Matched) log) (hle : log <+: log')
    (hsame : responses log' = responses log) :
    Always (fun _ => Matched) log' := by
  refine h.grow ?_ hle hsame
  intro before e hnone resp hobs
  simp [hobs] at hnone

theorem concluded_of_prefix {p : Dataplane} (h : Always (Concluded p) log) (hle : log <+: log')
    (hsame : handedOffCtxs log' = handedOffCtxs log) : Always (Concluded p) log' := by
  refine h.grow ?_ hle hsame
  intro before e hnone c st hobs
  simp [hobs] at hnone

theorem Concluded.grow {p p' : Dataplane} (hgrow : p.Grows p') {before : List Entry} {e : Entry}
    (h : Concluded p before e) : Concluded p' before e := by
  intro c st hobs
  rcases h c st hobs with ⟨pre, m, v, g, hbefore, hctx, hreceipt, hor⟩
  refine ⟨pre, m, v, g, hbefore, hctx, getElem?_of_prefix hgrow.receipts hreceipt, ?_⟩
  refine hor.imp ?_ ?_
  · rintro ⟨rescode, hmem, hst⟩
    exact ⟨rescode, hgrow.verdicts.subset hmem, hst⟩
  · rintro ⟨hst, hpurge, i', g', msg, hi, hg, hreceipt', hm, hmem⟩
    exact ⟨hst, hpurge, i', g', msg, hi, hg, getElem?_of_prefix hgrow.receipts hreceipt', hm,
      hgrow.verdicts.subset hmem⟩

end Grow

structure Judged (s : Config Env) : Prop where
  matched : Always (fun _ => Matched) s.world.log
  concluded : Always (Concluded s.world.os.dataplane) s.world.log

/-- A request is taken from the in-flight list and completed. -/
theorem concluded_completed {w : World σ} {p : Dataplane} {m : DpMsg} {rest : List DpMsg}
    {c : CtxRef} {st : ZebraResult} {rescode : RpcResultCode} (h : Always (Concluded p) w.log)
    {g : Nat} (hctx : m.ctx = some c)
    (hreceipt : p.receipts[(poppedMsgs w.log).length]? = some (g, m.msg))
    (hor : p.Gave (poppedMsgs w.log).length st ∨
      st = .success ∧ Purging w.log ∧ p.Lost (poppedMsgs w.log).length g) (m' : DpMsg) :
    Always (Concluded p)
      ((((w.popFlight m rest).replied m rescode).handedOff c st).recycle m').log := by
  have hpop : Always (Concluded p) ((w.popFlight m rest).replied m rescode).log :=
    concluded_of_prefix h (List.prefix_append _ _) (by simp)
  have hdone : Always (Concluded p)
      (((w.popFlight m rest).replied m rescode).handedOff c st).log := by
    rw [World.handedOff_log, always_concat, always_concat]
    refine ⟨⟨hpop, ?_⟩, nofun⟩
    intro c' st' hobs
    cases hobs
    exact ⟨w.log, m, _, g, rfl, hctx, hreceipt, hor⟩
  exact concluded_of_prefix hdone (List.prefix_append _ _) (by simp)

theorem Judged.act {s s' : Config Env} (hr : s.Reachable) (ha : Agreed s) (hi : Judged s)
    (h : Act s s') : Judged s' := by
  have hkeep := hi.concluded.imp fun _ _ hc => hc.grow h.grows
  have hmatched := fun hsame => matched_of_prefix hi.matched h.log_prefix hsame
  have hconcluded := fun hsame => concluded_of_prefix hkeep h.log_prefix hsame
  cases h with
  | refused hsock hpath hconnect he hreopen =>
    rcases dpUnixSockReopen_ends (by exact hsock) hreopen with ⟨-, sock, os', rfl⟩
    exact ⟨hmatched (by simp), hconcluded (by simp)⟩
  | @response w msg htype =>
    refine ⟨?_, hconcluded (by simp)⟩
    rw [observe_log, always_concat]
    refine ⟨hi.matched, ?_⟩
    intro resp hobs
    cases hobs
    rcases hsynt : reportsRestart msg.response w.synt with _ | _
    · have hheld : (Config.party ⟨[.received msg], w⟩).held = [msg.response] := by simp [htype]
      rcases ha.agrees.oldest hheld hr.shaken.handshake hsynt with ⟨m, rest, hq, -⟩
      have hmem : m ∈ w.inFlight := by
        rw [show w.inFlight = m :: rest from hq]
        exact List.mem_cons_self
      exact .inr ⟨m, rest, hq, (hr.typed.inFlight m hmem).type,
        ha.agrees.expected_of_oldest hheld hr.shaken.handshake hsynt hq⟩
    · exact .inl hsynt
  | @completed w m rest c resp v hsynt hq hreq hmat hop hctx =>
    rcases ha.agrees.oldest rfl hr.shaken.handshake hsynt with ⟨m', rest', hq', hfits, -⟩
    cases hq.symm.trans hq'
    have hat : w.inFlight[0]? = some m := by simp [hq]
    rcases ha.agrees.receipt hat with ⟨g, hreceipt, -⟩
    refine ⟨hmatched (by simp), ?_⟩
    exact concluded_completed hi.concluded hctx hreceipt (.inl ⟨_, hfits.verdict, rfl⟩) _
  | @purged w m rest c resp v hq hop hctx =>
    have hpurge : Purges _ _ resp := ha.purges _ List.mem_cons_self
    rcases hr.answering _ List.mem_cons_self with ⟨hsynt, pre, mid, hlog, hmid, -⟩
    have hne : m.msg.request.op ≠ .connect := by
      rcases hop with h | h | h <;> simp [h]
    have hm := ((hr.typed.inFlight m (by simp [hq])).isUpdate hne).isConnect
    have hdown := hpurge.not_ready hr.shaken.handshake (by simp [hq])
    rcases hpurge.last with hnil | ⟨rest', m', hq', hm', hfits⟩
    · simp [hq] at hnil
    rcases ha.agrees.lost hq hm hq' hm' hfits hdown.1 hdown.2 with ⟨g, hreceipt, hlost⟩
    refine ⟨hmatched (by simp), concluded_completed hi.concluded hctx hreceipt (.inr ?_) _⟩
    exact ⟨rfl, ⟨pre, resp, v, mid, hlog, hmid, (reportsRestart_iff _ _).mp hsynt⟩, hlost⟩
  | _ => exact ⟨hmatched (by simp), hconcluded (by simp)⟩

/-! ### Runs -/

section Runs
variable [Os σ]

/-- The states between two callbacks of a run at whose start the operating system is
    in the state `os₀`. -/
inductive ReachableFrom (os₀ : σ) : World σ → Prop
  | init {pluginSockPath dpSockPath : PathBuf} {n : Nat} {w : World σ} :
      Ran (initDplaneRpc n) (World.start pluginSockPath dpSockPath os₀) 0 w → ReachableFrom os₀ w
  | callback {w w' : World σ} {n : Nat} {cb : Callback} :
      ReachableFrom os₀ w → cb.enabled w → Ran (cb.run n) w () w' → ReachableFrom os₀ w'
  | outside {w : World σ} {os : σ} :
      ReachableFrom os₀ w → Os.moves w.os os → ReachableFrom os₀ { w with os := os }

/-- These, and those in which a callback stops. -/
inductive ReachedFrom (os₀ : σ) : World σ → Prop
  | between {w : World σ} : ReachableFrom os₀ w → ReachedFrom os₀ w
  | inInit {pluginSockPath dpSockPath : PathBuf} {n : Nat} {e : Halt} {w : World σ} :
      Halts (initDplaneRpc n) (World.start pluginSockPath dpSockPath os₀) e w → ReachedFrom os₀ w
  | inCallback {w w' : World σ} {n : Nat} {cb : Callback} {e : Halt} :
      ReachableFrom os₀ w → cb.enabled w → Halts (cb.run n) w e w' → ReachedFrom os₀ w'

/-- A run of the machine that starts with a property of the operating system. -/
def Config.From (P : σ → Prop) (s : Config σ) : Prop :=
  ∃ s₀ : Config σ, s₀.Initial ∧ P s₀.world.os ∧ Path s₀ s

theorem Config.From.reachable {P : σ → Prop} {s : Config σ} (h : s.From P) : s.Reachable := by
  rcases h with ⟨s₀, h₀, -, hpath⟩
  exact ⟨s₀, h₀, hpath⟩

theorem Config.From.induct {P : σ → Prop} {I : Config σ → Prop}
    (hinit : ∀ s, s.Initial → P s.world.os → I s)
    (hact : ∀ s s', s.Reachable → I s → Act s s' → I s') {s : Config σ} (h : s.From P) : I s := by
  rcases h with ⟨s₀, h₀, hP, hpath⟩
  induction hpath with
  | refl => exact hinit _ h₀ hP
  | tail hpath hlast ih => exact hact _ _ ⟨s₀, h₀, hpath⟩ ih hlast

variable {P : σ → Prop} (hP : SocketCalls P) (hbuff : ∀ os, P os → P (Os.buffNew os).2)
  {os₀ : σ} (h₀ : P os₀)
include hP hbuff h₀

theorem ReachableFrom.config {w : World σ} (h : ReachableFrom os₀ w) :
    Config.From P ⟨[], w⟩ := by
  induction h with
  | init hrun =>
    rcases initDplaneRpc_starts hP hbuff h₀ hrun with hr | ⟨w₀, hinit, hos, hpath⟩
    · cases hr
    · exact ⟨_, hinit, hos, hpath⟩
  | callback _ henabled hrun ih =>
    rcases ih with ⟨s₀, hinit, hos, hpath⟩
    exact ⟨s₀, hinit, hos, hpath.trans ((callback_refines henabled).returns hrun)⟩
  | outside _ hmoves ih =>
    rcases ih with ⟨s₀, hinit, hos, hpath⟩
    exact ⟨s₀, hinit, hos, hpath.tail (.outside hmoves)⟩

theorem ReachedFrom.config {w : World σ} (h : ReachedFrom os₀ w) :
    ∃ fs, Config.From P ⟨fs, w⟩ := by
  cases h with
  | between h => exact ⟨[], h.config hP hbuff h₀⟩
  | inInit hrun =>
    rcases initDplaneRpc_starts hP hbuff h₀ hrun with hr | ⟨w₀, hinit, hos, gs, hpath⟩
    · cases hr
    · exact ⟨gs, _, hinit, hos, hpath⟩
  | inCallback h henabled hrun =>
    rcases h.config hP hbuff h₀ with ⟨s₀, hinit, hos, hpath⟩
    rcases (callback_refines henabled).stops hrun with ⟨gs, hstop⟩
    exact ⟨gs, s₀, hinit, hos, hpath.trans hstop⟩

end Runs

/-- The plugin has sent nothing, and the dataplane knows nothing of it. -/
def Env.Untouched (e : Env) : Prop := Agrees ⟨false, false, 0, [], [], []⟩ e.dataplane

theorem socketCalls_untouched : SocketCalls Env.Untouched :=
  socketCalls_agrees rfl rfl (by simp [NoConnect])

theorem Config.From.agreed {s : Config Env} (h : s.From Env.Untouched) : Agreed s := by
  refine h.induct ?_ fun _ _ hr hi => hi.act hr
  rintro s ⟨_, _, os₀, os, sock, -, rfl⟩ hos
  exact ⟨hos, List.forall_mem_singleton.mpr trivial⟩

theorem Config.From.judged {s : Config Env} (h : s.From Env.Untouched) : Judged s := by
  have hboth : Agreed s ∧ Judged s := by
    apply h.induct (I := fun s => Agreed s ∧ Judged s)
    · rintro s ⟨_, _, os₀, os, sock, -, rfl⟩ hos
      exact ⟨⟨hos, List.forall_mem_singleton.mpr trivial⟩, always_nil _, always_nil _⟩
    · rintro s s' hr ⟨ha, hi⟩ hstep
      exact ⟨ha.act hr hstep, hi.act hr ha hstep⟩
  exact hboth.2

/-- The plugin runs against a dataplane that crashes and comes back at any moment.
    Whenever a response comes that does not report a restart, `recover_request`
    finds the request that it answers.  A context that a response completes is that
    of a request which the plugin sent and the dataplane received in the same place
    of the order; it carries the verdict of the dataplane on this request, or a
    success which the purge fakes, and then the request went to an incarnation that
    was replaced by one that has accepted a Connect since.  No request has two
    verdicts. -/
theorem plugin_agrees_with_dataplane {e : Env} (hfresh : e.dataplane.Fresh) {w : World Env}
    (h : ReachedFrom e w) :
    (∀ before resp v after, w.log = before ++ ⟨.response resp, v⟩ :: after →
      reportsRestart resp v.synt = true ∨
        ∃ m rest, v.inFlight = m :: rest ∧ m.msg.type = .request ∧
          gotExpectedResponse resp m.msg.request = true) ∧
    (∀ before c st v after, w.log = before ++ ⟨.handedOff c st, v⟩ :: after →
      ∃ pre m v' g, before = pre ++ [⟨.popped m, v'⟩] ∧ m.ctx = some c ∧
        (requests (sentMsgs w.log))[(poppedMsgs pre).length]? = some m ∧
        w.os.dataplane.receipts[(poppedMsgs pre).length]? = some (g, m.msg) ∧
        (w.os.dataplane.Gave (poppedMsgs pre).length st ∨
          st = .success ∧ Purging pre ∧ w.os.dataplane.Lost (poppedMsgs pre).length g)) ∧
    (w.os.dataplane.verdicts.map (·.1)).Nodup := by
  rcases h.config socketCalls_untouched (fun _ he => he.turn) hfresh.agrees with ⟨fs, hfrom⟩
  rcases hfrom.judged with ⟨hmatched, hconcluded⟩
  refine ⟨?_, ?_, ?_⟩
  · intro before resp v after heq
    exact hmatched before _ after heq resp rfl
  · intro before c st v after heq
    rcases hconcluded before _ after heq c st rfl with ⟨pre, m, v', g, rfl, hctx, hreceipt, hor⟩
    refine ⟨pre, m, v', g, rfl, hctx, ?_, hreceipt, hor⟩
    rw [← hfrom.reachable.fifo.flight, heq]
    simp
  · exact (List.nodup_append.mp hfrom.agreed.agrees.sound.once).1

/-! ### A run with a crash -/

theorem played_reachableFrom [Os σ] (n : Nat) (os : σ) (cbs : List Callback)
    (h : (play n os cbs).isSome = true) : ReachableFrom os (played n os cbs) := by
  rcases Option.isSome_iff_exists.mp h with ⟨w, hw⟩
  rw [played, hw]
  exact play_keeps (fun _ => .init) (fun _ _ _ _ => .callback) hw

/-- The first incarnation is up. -/
def freshDataplane : Dataplane := ⟨⟨[7], by decide, by decide⟩, some 0, none, [], [], [], []⟩

theorem freshDataplane_fresh : freshDataplane.Fresh := by
  constructor <;> simp [freshDataplane]

def Choice.doing (steps : List DataplaneStep) : Choice := { Choice.quiet with steps := steps }

/-- The dataplane answers the Connect and the first request, with a failure; then it
    crashes, and the next incarnation answers another Connect. -/
def crashingEnv : Env where
  choices :=
    List.replicate 9 .quiet ++ [.doing [.answer (dataplaneInfo 0) .ok none]] ++
    List.replicate 3 .quiet ++ [.doing [.answer (dataplaneInfo 0) (.known 3) none]] ++
    List.replicate 4 .quiet ++ [.doing [.crash, .start 9]] ++
    List.replicate 3 .quiet ++ [.doing [.answer (dataplaneInfo 0) .ok none]]
  dataplane := freshDataplane

/-- A run in which the second request is lost with the first incarnation, and the
    third one finds this out. -/
def crashedWorld : World Env :=
  played 4 crashingEnv [.recv, .process 1 [routeCtx 1], .recv, .process 1 [routeCtx 2],
    .process 1 [routeCtx 3], .recv]

theorem agreement_of_crashedWorld :
    outStatuses crashedWorld.log = [(1, .failure), (2, .success)] ∧
      crashedWorld.os.dataplane.verdicts = [(0, .ok), (1, .known 3), (3, .ok)] ∧
      (crashedWorld.os.dataplane.verdicts.map (·.1)).Nodup := by
  have hreach : ReachedFrom crashingEnv crashedWorld :=
    .between (played_reachableFrom _ _ _ (by decide +kernel))
  exact ⟨by decide +kernel, by decide +kernel,
    (plugin_agrees_with_dataplane freshDataplane_fresh hreach).2.2⟩

end DplanePlugin
