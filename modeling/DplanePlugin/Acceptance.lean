/-
  DplanePlugin/Acceptance.lean
  ============================
  **Only Connects are sent before a Connect was accepted.**

  A connection event is a successful `connect()`, a reopen of the socket, or a
  send that fails with a connection error.  Whenever the plugin is ready, a
  Connect was sent and accepted since the last connection event; and a Connect
  in flight was sent since then.
-/
import DplanePlugin.Answering

namespace DplanePlugin

open Lib

variable {σ : Type}

/-! ### Connection events -/

def Obs.isConnEvent : Obs → Bool
  | .connect result => decide (result = none ∨ result = some .eisconn)
  | .reopened => true
  | .send _ _ (.error e) => e.isDisconnect
  | _ => false

@[simp] def Obs.connEvent (o : Obs) : Option Obs := if o.isConnEvent then some o else none

def connEvents (log : List Entry) : List Obs := log.filterMap (·.obs.connEvent)

@[simp] def Obs.attemptedMsg : Obs → Option DpMsg
  | .send m _ _ => some m
  | _ => none

/-- The messages handed to `send()`. -/
def attemptedMsgs (log : List Entry) : List DpMsg := log.filterMap (·.obs.attemptedMsg)

section Append
variable (l l' : List Entry) (e : Entry)

@[simp] theorem connEvents_nil : connEvents [] = [] := rfl
@[simp] theorem connEvents_cons : connEvents (e :: l) = e.obs.connEvent.toList ++ connEvents l :=
  filterMap_cons_toList _ _ _
@[simp] theorem connEvents_append : connEvents (l ++ l') = connEvents l ++ connEvents l' :=
  List.filterMap_append
@[simp] theorem connEvents_refusal (w : World σ) (m : DpMsg) : connEvents (w.refusal m) = [] :=
  w.refusal_filterMap _ (fun _ _ => rfl) m
@[simp] theorem attemptedMsgs_nil : attemptedMsgs [] = [] := rfl
@[simp] theorem attemptedMsgs_cons :
    attemptedMsgs (e :: l) = e.obs.attemptedMsg.toList ++ attemptedMsgs l :=
  filterMap_cons_toList _ _ _
@[simp] theorem attemptedMsgs_append :
    attemptedMsgs (l ++ l') = attemptedMsgs l ++ attemptedMsgs l' :=
  List.filterMap_append
@[simp] theorem attemptedMsgs_refusal (w : World σ) (m : DpMsg) :
    attemptedMsgs (w.refusal m) = [] :=
  w.refusal_filterMap _ (fun _ _ => rfl) m

end Append

theorem OnlyAnswers.connEvents {log : List Entry} (h : OnlyAnswers log) : connEvents log = [] := by
  apply List.filterMap_eq_nil_iff.mpr
  intro e he
  have hkind := h e he
  cases hobs : e.obs <;> simp_all [Obs.ofAnswer, Obs.isConnEvent]

/-! ### Accepted connections -/

/-- `m` was sent, and no connection event came after. -/
def SentSince (log : List Entry) (m : DpMsg) : Prop :=
  ∃ before v after, log = before ++ ⟨.sent m, v⟩ :: after ∧ connEvents after = []

/-- A Connect was sent; later a response to a Connect with the code `ok` came
    while that Connect was in flight, and took it from there; and no connection
    event came since it was sent. -/
def Accepted (log : List Entry) : Prop :=
  ∃ before m v₁ between resp v₂ mid v₃ after,
    log = before ++ ⟨.sent m, v₁⟩ :: between ++ ⟨.response resp, v₂⟩ :: mid ++
      ⟨.popped m, v₃⟩ :: after ∧
    m.msg.isConnect = true ∧ resp.op = .connect ∧ resp.rescode = .ok ∧ m ∈ v₂.inFlight ∧
    OnlyAnswers mid ∧ connEvents (between ++ mid ++ after) = []

/-- A message is handed to `send()` on an accepted connection, or is a Connect. -/
def SentAccepted (before : List Entry) (e : Entry) : Prop :=
  ∀ m octets result, e.obs = .send m octets result → m.msg.isConnect = true ∨ Accepted before

section Grow
variable {log log' : List Entry} (hle : log <+: log')
include hle

theorem SentSince.grow {m : DpMsg} (h : SentSince log m)
    (hsame : connEvents log' = connEvents log) : SentSince log' m := by
  rcases hle with ⟨new, rfl⟩
  rcases h with ⟨before, v, after, rfl, hafter⟩
  have hnew : connEvents new = [] := by simpa using hsame
  refine ⟨before, v, after ++ new, ?_, ?_⟩
  · rw [List.append_assoc, List.cons_append]
  · rw [connEvents_append, hafter, hnew]
    rfl

theorem Accepted.grow (h : Accepted log) (hsame : connEvents log' = connEvents log) :
    Accepted log' := by
  rcases hle with ⟨new, rfl⟩
  rcases h with ⟨before, m, v₁, between, resp, v₂, mid, v₃, after, rfl, hm, hop, hok, hmem, hmid,
    hquiet⟩
  have hnew : connEvents new = [] := by simpa using hsame
  refine ⟨before, m, v₁, between, resp, v₂, mid, v₃, after ++ new, ?_, hm, hop, hok, hmem, hmid, ?_⟩
  · rw [List.append_assoc, List.cons_append]
  · rw [← List.append_assoc, connEvents_append, hquiet, hnew]
    rfl

/-- Nothing more was handed to `send()`. -/
theorem sentAccepted_of_prefix (h : Always SentAccepted log)
    (hsame : attemptedMsgs log' = attemptedMsgs log) : Always SentAccepted log' := by
  refine h.grow ?_ hle hsame
  intro before e hnone m octets result hobs
  simp [hobs] at hnone

end Grow

/-- A Connect that was sent since the last connection event is taken from the
    in-flight list for a response that accepts it. -/
theorem SentSince.accepted {log pre mid : List Entry} {resp : RpcResponse} {v : View} {m : DpMsg}
    (h : SentSince log m) (hlog : log = pre ++ ⟨.response resp, v⟩ :: mid) (hmid : OnlyAnswers mid)
    (hm : m.msg.isConnect = true) (hop : resp.op = .connect) (hok : resp.rescode = .ok)
    (hmem : m ∈ v.inFlight) (v' : View) : Accepted (log ++ [⟨.popped m, v'⟩]) := by
  rcases h with ⟨before, v₁, after, heq, hafter⟩
  rw [heq] at hlog
  have hnot : (⟨.sent m, v₁⟩ : Entry) ∉ mid := by
    intro hin
    cases hmid _ hin
  rcases split_of_not_mem hlog.symm (by simp) hnot with ⟨between, -, rfl⟩
  refine ⟨before, m, v₁, between, resp, v, mid, v', [], ?_, hm, hop, hok, hmem, hmid, ?_⟩
  · simp [heq]
  · simpa [Obs.isConnEvent] using hafter

/-! ### The invariant -/

structure Accepting (s : Config σ) : Prop where
  ready : s.world.dplaneIsReady = true → Accepted s.world.log
  connects : ∀ m ∈ s.world.inFlight, m.msg.isConnect = true → SentSince s.world.log m
  sends : Always SentAccepted s.world.log

theorem Config.Initial.accepting {s : Config σ} (h : s.Initial) : Accepting s := by
  rcases h with ⟨_, _, os₀, os, sock, -, rfl⟩
  refine ⟨?_, ?_, always_nil _⟩
  · intro hready
    cases hready
  · intro m hm
    cases hm

/-- Not ready, and with no Connect in flight, there is nothing to show. -/
theorem Accepting.of_noConnect {s : Config σ} (hready : s.world.dplaneIsReady = false)
    (hno : NoConnect s.world.inFlight) (hsends : Always SentAccepted s.world.log) :
    Accepting s := by
  refine ⟨?_, ?_, hsends⟩
  · intro h
    rw [hready] at h
    cases h
  · intro m hm hconn
    rw [hno m hm] at hconn
    cases hconn

/-- A message that may be sent is handed to `send()` on an accepted connection, or
    is a Connect. -/
theorem Accepting.sendTried {fs : List Frame} {w : World σ} (h : Accepting ⟨fs, w⟩) {m : DpMsg}
    (hmay : w.MaySend m) (os : σ) (len : Nat) (result : SendResult) :
    Always SentAccepted (w.sendTried os m len result).log := by
  have hencoded : w.log <+: w.log ++ [⟨.encoded m (some len), w.view⟩] := List.prefix_append _ _
  rw [World.sendTried_log, always_concat]
  constructor
  · exact sentAccepted_of_prefix hencoded h.sends (by simp)
  · intro m' octets result' hobs
    cases hobs
    rcases hmay.2 with hm | hready
    · exact .inl hm
    · exact .inr ((h.ready hready).grow hencoded (by simp [Obs.isConnEvent]))

variable [Os σ]

theorem Accepting.act {s s' : Config σ} (hr : s.Reachable) (hi : Accepting s) (h : Act s s') :
    Accepting s' := by
  have hshaken := hr.shaken
  have hs := hshaken.handshake
  have hle := h.log_prefix
  have hsent := sentAccepted_of_prefix hle hi.sends
  have hawaited {m : DpMsg} {rest : List DpMsg} (hq : s.world.inFlight = m :: rest) :
      m ∈ s.world.inFlight ∧ m.Awaited :=
    ⟨hq ▸ List.mem_cons_self, hr.typed.inFlight m (hq ▸ List.mem_cons_self)⟩
  cases h with
  | refused hsock hpath hconnect he hreopen =>
    rcases hshaken.fits _ rfl with ⟨-, hconn, -⟩
    rcases dpUnixSockReopen_ends (by exact hsock) hreopen with ⟨-, sock, os', rfl⟩
    exact .of_noConnect rfl (hs.noConnect_of_disconnected hconn) (hsent (by simp))
  | connected hsock hpath hconnect hok halloc =>
    rcases hshaken.fits _ rfl with ⟨hready, hconn, -⟩
    exact .of_noConnect hready (hs.noConnect_of_disconnected hconn) (hsent (by simp))
  | @sendBlocked w fs o m len os e hmay htry he =>
    have hquiet := isDisconnect_of_blocked he
    refine ⟨?_, ?_, hi.sendTried hmay os len _⟩
    · intro hready
      exact (hi.ready hready).grow hle (by simp [Obs.isConnEvent, hquiet])
    · intro m' hm' hc
      exact (hi.connects m' hm' hc).grow hle (by simp [Obs.isConnEvent, hquiet])
  | @sendFailed w fs o m len os e hmay htry hb hd =>
    refine ⟨?_, ?_, hi.sendTried hmay os len _⟩
    · intro hready
      exact (hi.ready hready).grow hle (by simp [Obs.isConnEvent, hd])
    · intro m' hm' hc
      exact (hi.connects m' hm' hc).grow hle (by simp [Obs.isConnEvent, hd])
  | @sendShort w fs o m len os k hmay htry hk =>
    refine ⟨?_, ?_, hi.sendTried hmay os len _⟩
    · intro hready
      exact (hi.ready hready).grow hle (by simp [Obs.isConnEvent])
    · intro m' hm' hc
      exact (hi.connects m' hm' hc).grow hle (by simp [Obs.isConnEvent])
  | @sendDisconnected w fs o m len os e hmay htry he htimer
  | @sendDisconnectedTimer w fs o m len os e hmay htry he htimer =>
    have hno := hshaken.noConnect_of_sending hr hmay
    exact .of_noConnect rfl hno (hi.sendTried hmay os len _)
  | @sentRequest w fs o m len os hmay htry hreq =>
    refine ⟨?_, ?_, ?_⟩
    · intro hready
      exact (hi.ready hready).grow hle (by simp [Obs.isConnEvent])
    · intro m' hm' hc
      rcases List.mem_append.mp hm' with hold | hnew
      · exact (hi.connects m' hold hc).grow hle (by simp [Obs.isConnEvent])
      · rw [List.mem_singleton.mp hnew]
        exact ⟨_, _, [], rfl, rfl⟩
    · exact sentAccepted_of_prefix (List.prefix_append _ _)
        (hi.sendTried hmay os len (.octets len)) (by simp)
  | @sentOther w fs m len os hmay htry hreq =>
    refine ⟨?_, ?_, ?_⟩
    · intro hready
      exact (hi.ready hready).grow hle (by simp [Obs.isConnEvent])
    · intro m' hm' hc
      exact (hi.connects m' hm' hc).grow hle (by simp [Obs.isConnEvent])
    · refine sentAccepted_of_prefix ?_ (hi.sendTried hmay os len (.octets len)) (by simp)
      simp [List.append_assoc]
  | @accepted w m rest resp v hsynt hq hreq hmat hop hok =>
    rcases hr.answering _ List.mem_cons_self with ⟨hview, pre, hlog⟩
    rcases hawaited hq with ⟨hmem, hm⟩
    have hconn := (hm.isConnect (((gotExpectedResponse_iff _ _).mp hmat).2 ▸ hop)).isConnect
    refine ⟨?_, ?_, hsent (by simp)⟩
    · intro _
      have hv : m ∈ v.inFlight := by
        rw [hview]
        exact hmem
      exact (hi.connects m hmem hconn).accepted hlog onlyAnswers_nil hconn hop hok hv _
    · intro m' hm' hc
      rw [hs.only_connect hq hconn] at hm'
      cases hm'
  | @purgeAccepted w m rest resp v hq hop hok =>
    rcases hr.answering _ List.mem_cons_self with ⟨hsynt, pre, mid, hlog, hmid, hv⟩
    rcases hawaited hq with ⟨hmem, hm⟩
    have hconn := (hm.isConnect hop).isConnect
    refine ⟨?_, ?_, hsent (by simp)⟩
    · intro _
      have hv : m ∈ v.inFlight := by
        rw [hv]
        exact List.mem_append_right _ hmem
      exact (hi.connects m hmem hconn).accepted hlog hmid hconn
        ((reportsRestart_iff _ _).mp hsynt).1 hok hv _
    · intro m' hm' hc
      rw [hs.only_connect hq hconn] at hm'
      cases hm'
  | mismatched _ hq | completed _ hq | answeredOther _ hq | refusedConnect _ hq
  | purged hq | purgedOther hq | purgeRefused hq =>
    refine ⟨?_, ?_, hsent (by simp)⟩
    · intro hready
      exact (hi.ready hready).grow hle (by simp [Obs.isConnEvent])
    · intro m' hm' hc
      have hold : m' ∈ _ := hq ▸ List.mem_cons_of_mem _ hm'
      exact (hi.connects m' hold hc).grow hle (by simp [Obs.isConnEvent])
  | _ =>
    -- what is left sends nothing and leaves the connection
    refine ⟨?_, ?_, hsent (by simp)⟩
    · intro hready
      exact (hi.ready hready).grow hle (by simp [Obs.isConnEvent])
    · intro m hm hc
      exact (hi.connects m hm hc).grow hle (by simp [Obs.isConnEvent])

theorem Config.Reachable.accepting {s : Config σ} (h : s.Reachable) : Accepting s :=
  h.induct (fun _ => Config.Initial.accepting) fun _ _ hr hi => hi.act hr

/-! ### The whole run -/

/-- In any run, whenever a message that is no Connect is handed to `send()`, a
    Connect was sent since the last connection event, and later a response to a
    Connect with the code `ok` came while it was in flight, and took it from
    there. -/
theorem sends_after_acceptance {w : World σ} (h : Reached w) :
    ∀ before m octets result v after,
      w.log = before ++ ⟨.send m octets result, v⟩ :: after → m.msg.isConnect = false →
      ∃ start c v₁ between resp v₂ mid v₃ rest,
        before = start ++ ⟨.sent c, v₁⟩ :: between ++ ⟨.response resp, v₂⟩ :: mid ++
          ⟨.popped c, v₃⟩ :: rest ∧
        c.msg.isConnect = true ∧ resp.op = .connect ∧ resp.rescode = .ok ∧ c ∈ v₂.inFlight ∧
        OnlyAnswers mid ∧ connEvents (between ++ mid ++ rest) = [] := by
  rcases h.config with ⟨fs, hr⟩
  intro before m octets result v after heq hm
  rcases hr.accepting.sends before _ after heq m octets result rfl with hconn | haccepted
  · rw [hm] at hconn
    cases hconn
  · exact haccepted

theorem sends_after_acceptance_of_routesWorld :
    (attemptedMsgs routesWorld.log).length = 3 ∧
      ∀ before m octets result v after,
        routesWorld.log = before ++ ⟨.send m octets result, v⟩ :: after →
        m.msg.isConnect = false → Accepted before := by
  have hreach : Reached routesWorld := .between (played_reachable _ _ _ (by decide +kernel))
  exact ⟨by decide +kernel, sends_after_acceptance hreach⟩

end DplanePlugin
