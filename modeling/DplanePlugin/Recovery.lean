/-
  DplanePlugin/Recovery.lean
  ==========================
  **When nothing fails any more, the plugin recovers, or never will.**

  From any state of any run against the dataplane, with one incarnation up and
  nothing failing from now on: if the plugin is hopeful (`Stuck.lean`), FRR has only
  to run the events that are armed, and the dataplane to answer, for the plugin to
  become ready and to give every context back; if it is not, it never becomes ready.

  A connection to an incarnation that is gone is found out by the next keepalive, or
  when the answer to its Connect is accepted and messages are drained; the plugin
  then connects to the incarnation that is up.
-/
import DplanePlugin.Calm
import DplanePlugin.Stuck
import DplanePlugin.Purge
import DplanePlugin.Keepalive

namespace DplanePlugin

open Lib

/-! ### A connected plugin -/

section Wired
variable {σ : Type}

/-- A connected plugin has a path that it could connect to, and receives. -/
structure Wired (s : Config σ) : Prop where
  path : s.world.dpSockConnected = true → s.world.dpSockPath.Valid
  recv : s.world.dpSockConnected = true → s.world.evRecv.isSome = true ∨ .subscribing ∈ s.frames

theorem Config.Initial.wired {s : Config σ} (h : s.Initial) : Wired s := by
  rcases h with ⟨_, _, os₀, os, sock, -, rfl⟩
  constructor <;> simp [World.start]

variable [Os σ]

theorem Wired.act {s s' : Config σ} (hi : Wired s) (h : Act s s') : Wired s' := by
  rcases hi with ⟨hpath, hrecv⟩
  cases h with
  | refused hsock hvalid hconnect he hreopen =>
    rcases dpUnixSockReopen_ends (by exact hsock) hreopen with ⟨-, sock, os', rfl⟩
    exact ⟨by simp, by simp⟩
  | connected hsock hvalid =>
    exact ⟨fun _ => hvalid, by simp⟩
  | sendDisconnected | sendDisconnectedTimer =>
    exact ⟨by simp, by simp⟩
  | subscribe | recvFired => exact ⟨hpath, by simp⟩
  | queueControl hfs halloc =>
    rcases hfs with rfl | ⟨msg, rfl⟩ <;> exact ⟨hpath, by simpa using hrecv⟩
  | _ => exact ⟨by simpa using hpath, by simpa using hrecv⟩

theorem Config.Reachable.wired {s : Config σ} (h : s.Reachable) : Wired s :=
  h.induct (fun _ => Config.Initial.wired) fun _ _ _ hi => hi.act

end Wired

/-! ### One response -/

/-- After a response was read, leaving `rest` to be read. -/
def World.heard (w : World Env) (rest : List (Nat × RpcResponse)) : World Env :=
  World.count { w with os := { w.os with dataplane := { w.os.dataplane with rx := rest } } } .rx

section Round
variable {k i : Nat} {resp : RpcResponse} {rest : List (Nat × RpcResponse)} {w : World Env}

theorem Calm.heard (h : Calm k w) (rest : List (Nat × RpcResponse)) : Calm k (w.heard rest) :=
  h.frame rfl

theorem Calm.round (h : Calm k w) (hrx : w.os.dataplane.rx = (i, resp) :: rest)
    (R : Plugin Env Unit) (r : Except Halt Bool) (w' : World Env) :
    Ends (dpRpcRecvStep R) w r w' ↔
      Ends (handleRpcResponse R resp >>= fun _ => pure true) (w.heard rest) r w' := by
  have hrecv : Os.recv w.dpSock w.os = (.data ⟨64, some (.ofResponse resp)⟩, _) :=
    Env.recv_calm h.choices hrx
  rw [dpRpcRecvStep, sockRecv, bind_assoc, ends_get_bind, bind_assoc, ends_osCall_bind, hrecv]
  simp only [rpcCountRx, bind_assoc, ends_count_bind, pure_bind]
  exact Iff.rfl

theorem Calm.round_nil (h : Calm k w) (hrx : w.os.dataplane.rx = []) (R : Plugin Env Unit) :
    Ran (dpRpcRecvStep R) w false (w.count (·.rxError .eagain)) := by
  have hrecv : Os.recv w.dpSock w.os = (.error .eagain, w.os) := Env.recv_calm_nil h.choices hrx
  rw [Ran, dpRpcRecvStep, sockRecv, bind_assoc, ends_get_bind, bind_assoc, ends_osCall_bind, hrecv]
  simp only [rpcCountRxError, bind_assoc, ends_count_bind, pure_bind]
  exact ran_pure _ _

theorem Config.From.heard {P : Env → Prop} (hw : Config.From P ⟨[], w⟩) (h : Calm k w)
    (hrx : w.os.dataplane.rx = (i, resp) :: rest) :
    Config.From P ⟨[.received (.ofResponse resp)], w.heard rest⟩ := by
  have hrecv : Os.recv w.dpSock w.os = (.data ⟨64, some (.ofResponse resp)⟩, _) :=
    Env.recv_calm h.choices hrx
  rcases hw with ⟨s₀, h₀, hP, hpath⟩
  exact ⟨s₀, h₀, hP, hpath.tail (.received hrecv (Nat.succ_ne_zero 63) rfl)⟩

end Round

theorem handleRpcResponse_accepts {σ : Type} [Os σ] {R : Plugin σ Unit} {resp : RpcResponse}
    {m : DpMsg} {rest : List DpMsg} {w w₁ : World σ} (hsynt : reportsRestart resp w.synt = false)
    (hq : w.inFlight = m :: rest) (hreq : m.msg.type = .request)
    (hmat : gotExpectedResponse resp m.msg.request = true) (hop : resp.op = .connect)
    (hok : resp.rescode = .ok)
    (hdrain : Ran (sendPendingRpcMsgs R)
      ((((w.observe (.response resp)).popFlight m rest).replied m resp.rescode).accepted
        resp.objects) () w₁) :
    Ran (handleRpcResponse R resp) w () (w₁.recycle m) := by
  have hends := ends_run (handleRpcResponse R resp) w
  have hrest := (hdrain.ends_bind (fun _ => dpMsgRecycle m) _ _).mp
    (handleRpcResponse_accepted hsynt hq hreq hmat hop hok hends)
  rcases (ends_dpMsgRecycle _ _ _ _).mp hrest with ⟨hr, hw⟩
  rwa [hr, hw] at hends

/-- What handling the response with the number `i` leads to: the plugin is ready; or
    it found out that the connection is an old one, and has reconnected; or it still
    waits for the answer to its Connect. -/
inductive Outcome (k i : Nat) (w w' : World Env) : Prop
  | ready (hready : w'.dplaneIsReady = true)
      (hlink : w'.os.dataplane.link = w.os.dataplane.link)
      (hkept : w.dplaneIsReady = true →
        w'.unsent = w.unsent ∧ w'.os.dataplane.inbox = w.os.dataplane.inbox)
  | reconnected (hlink : w.os.dataplane.link ≠ some k) (hconn : Connecting k w')
  | waits (hbefore : w.dplaneIsReady = false) (hready : w'.dplaneIsReady = false)
      (hlink : w'.os.dataplane.link = w.os.dataplane.link)
      (hinbox : w'.os.dataplane.inbox = w.os.dataplane.inbox)
      (hawaits : ∀ j, w.Awaits j → w'.Awaits j ∧ j ≠ i)

section Outcome
variable {k i : Nat} {resp : RpcResponse} {rest : List (Nat × RpcResponse)} {w : World Env}
  (h : Calm k w) (hw : Config.From Env.Untouched ⟨[], w⟩)
  (hrx : w.os.dataplane.rx = (i, resp) :: rest)
include h hw hrx

omit hw hrx in
/-- A purge that settles a Connect leaves the plugin ready. -/
theorem Calm.purges (hq : ∀ m ∈ w.inFlight, m.Awaited) (hconn : ∃ m ∈ w.inFlight, m.IsConnect)
    (hop : resp.op = .connect) (hok : resp.rescode = .ok) (R : Plugin Env Unit) :
    ∃ w', Ran (loop .outOfFuel (w.inFlight.length + 1) (purgeStep R resp)) w () w' ∧
      Calm k w' ∧ w'.dplaneIsReady = true ∧ w'.os = w.os := by
  refine loop_reaches (P := fun t => Calm k t ∧ (∀ m ∈ t.inFlight, m.Awaited) ∧ t.os = w.os ∧
      (t.dplaneIsReady = true ∨ ∃ m ∈ t.inFlight, m.IsConnect))
    (Q := fun t => Calm k t ∧ t.dplaneIsReady = true ∧ t.os = w.os)
    (·.inFlight.length) ?_ ⟨h, hq, rfl, .inr hconn⟩ (Nat.lt_succ_self _)
  rintro t ⟨hcalm, hall, hos, hgoal⟩
  cases hflight : t.inFlight with
  | nil =>
    refine .inl ⟨t, purgeStep_nil hflight, hcalm, hgoal.resolve_right ?_, hos⟩
    rintro ⟨m, hm, -⟩
    rw [hflight] at hm
    cases hm
  | cons m rest =>
    rw [hflight] at hall hgoal
    rcases List.forall_mem_cons.mp hall with ⟨hm, hrest⟩
    right
    rcases hm with hconn | hupd
    · refine ⟨_, purgeStep_connect hflight hconn hop hok, ⟨?_, hrest, hos, .inl rfl⟩,
        Nat.lt_succ_self _⟩
      exact hcalm.frame rfl
    · rcases hupd.ctx with ⟨c, hctx⟩
      refine ⟨_, purgeStep_update hflight hupd hctx, ⟨?_, hrest, hos, hgoal.imp_right ?_⟩,
        Nat.lt_succ_self _⟩
      · exact hcalm.frame rfl
      · rintro ⟨m', hm', hconn⟩
        rcases List.mem_cons.mp hm' with rfl | hmem
        · exact absurd hconn.op hupd.op_ne
        · exact ⟨m', hmem, hconn⟩

/-- A restart is reported, and everything in flight is settled. -/
theorem Calm.handles_restart (hsynt : reportsRestart resp w.synt = true) (R : Plugin Env Unit) :
    ∃ w', Ran (handleRpcResponse R resp) (w.heard rest) () w' ∧ Calm k w' ∧
      w'.os.dataplane.rx = rest ∧ Outcome k i w w' := by
  have hheard := hw.heard h hrx
  have ha := hheard.agreed.agrees
  have hs := hheard.reachable.shaken.handshake
  have hawaited : ∀ m ∈ w.inFlight, m.Awaited := hheard.reachable.typed.inFlight
  have hheld : (Config.party ⟨[.received (.ofResponse resp)], w.heard rest⟩).held = [resp] := rfl
  have hpurge := ha.purge hheld hs (fun m hm => (hawaited m hm).type) hsynt
  rcases hpurge.last with hnil | ⟨older, c, hq, hc, hfits⟩
  · rcases ha.next hheld with ⟨j, -, hexpected, -⟩
    rw [hnil] at hexpected
    cases hexpected.eq_nil
  have hflight : w.inFlight = older ++ [c] := hq
  have hmem : c ∈ w.inFlight := by simp [hflight]
  have hat : w.inFlight[older.length]? = some c := by simp [hflight]
  have hconn := (hawaited c hmem).isConnect ((RpcMsg.isConnect_iff _).mp hc).2
  have hok := (ha.fits_msg hat hfits).2.2 hconn.op
  have hobserved : Calm k ((w.heard rest).observe (.response resp)) :=
    h.frame rfl
  rcases hobserved.purges hawaited ⟨c, hmem, hconn⟩ ((reportsRestart_iff _ _).mp hsynt).1 hok R with
    ⟨w', hran, hcalm, hready, hos⟩
  refine ⟨w', ?_, hcalm, by rw [hos]; rfl, .ready hready (by rw [hos]; rfl) ?_⟩
  · rw [Ran, handleRpcResponse, ends_observe_bind, ends_get_bind, observe_synt]
    rw [if_pos (by exact hsynt)]
    exact hran
  · intro hup
    rcases hs.of_connect hmem hc with ⟨-, hnot, -⟩
    exact absurd (hup.symm.trans hnot) Bool.noConfusion

omit hrx in
/-- The oldest request was a Connect: the plugin is ready, and drains the unsent list. -/
theorem Calm.handles_connect (hsynt : reportsRestart resp w.synt = false) {m : DpMsg}
    (hq : w.inFlight = [m]) (hm : m.IsConnect) (hok : resp.rescode = .ok)
    (hmat : gotExpectedResponse resp m.msg.request = true) (n : Nat) :
    ∃ w', Ran (handleRpcResponse (dpConnect (n + 1)) resp) (w.heard rest) () w' ∧ Calm k w' ∧
      w'.os.dataplane.rx = rest ∧ Outcome k i w w' := by
  have hs := hw.reachable.shaken.handshake
  rcases hs.of_connect (m := m) (by simp [hq]) hm.isConnect with ⟨-, hready, htimer⟩
  have hop : resp.op = .connect := ((gotExpectedResponse_iff _ _).mp hmat).2.trans hm.op
  have haccepted : Calm k (((((w.heard rest).observe (.response resp)).popFlight m []).replied m
      resp.rescode).accepted resp.objects) :=
    h.frame rfl
  rcases haccepted.drains rfl htimer n with ⟨w₁, hdrain, hrx₁, hor⟩
  refine ⟨w₁.recycle m, handleRpcResponse_accepts hsynt hq hm.type hmat hop hok hdrain, ?_, hrx₁, ?_⟩
  · have hcalm : Calm k w₁ := by
      rcases hor with ⟨hcalm, -, -⟩ | ⟨-, hconn⟩
      · exact hcalm
      · exact hconn.calm
    exact hcalm.frame rfl
  · rcases hor with ⟨-, hup, hlink⟩ | ⟨hlink, hconn⟩
    · refine .ready hup hlink fun hready' => ?_
      exact absurd (hready'.symm.trans hready) Bool.noConfusion
    · exact .reconnected hlink (hconn.frame rfl rfl rfl rfl)

/-- It was a request for a context, which is completed. -/
theorem Calm.handles_update (hsynt : reportsRestart resp w.synt = false) {m : DpMsg}
    {later : List DpMsg} (hq : w.inFlight = m :: later) (hm : m.IsUpdate)
    (hmat : gotExpectedResponse resp m.msg.request = true) (R : Plugin Env Unit) :
    ∃ w', Ran (handleRpcResponse R resp) (w.heard rest) () w' ∧ Calm k w' ∧
      w'.os.dataplane.rx = rest ∧ Outcome k i w w' := by
  rcases hm.ctx with ⟨c, hctx⟩
  refine ⟨_, handleRpcResponse_completed hsynt hq hm hctx hmat, ?_, rfl, ?_⟩
  · exact h.frame rfl
  cases hready : w.dplaneIsReady with
  | true => exact .ready hready rfl fun _ => ⟨rfl, rfl⟩
  | false =>
    refine .waits hready hready rfl rfl ?_
    rintro j ⟨hlast, older, conn, hflight, hconn⟩
    cases older with
    | nil =>
      obtain rfl : m = conn := (List.cons.inj (hq.symm.trans hflight)).1
      rw [hm.isConnect] at hconn
      cases hconn
    | cons x older =>
      obtain rfl : later = older ++ [conn] := (List.cons.inj (hq.symm.trans hflight)).2
      refine ⟨⟨hlast, older, conn, rfl, hconn⟩, ?_⟩
      rintro rfl
      -- the response would answer the Connect
      have ha := hw.agreed.agrees
      have hlen := ha.length
      have hfits := ha.sound.rx (j, resp) (hrx ▸ List.mem_cons_self)
      have hat : w.inFlight[older.length + 1]? = some conn := by simp [hflight]
      have hj : j = (poppedMsgs w.log).length + (older.length + 1) := by
        simp only [Config.party_done, Config.party_inFlight, hflight, List.length_append,
          List.length_cons, List.length_nil] at hlen
        omega
      subst hj
      have hop := (ha.fits_msg hat hfits).1
      rw [((RpcMsg.isConnect_iff _).mp hconn).2] at hop
      exact hm.op_ne (((gotExpectedResponse_iff _ _).mp hmat).2.symm.trans hop)

theorem Calm.handles (n : Nat) :
    ∃ w', Ran (handleRpcResponse (dpConnect (n + 1)) resp) (w.heard rest) () w' ∧ Calm k w' ∧
      w'.os.dataplane.rx = rest ∧ Outcome k i w w' := by
  cases hsynt : reportsRestart resp w.synt with
  | true => exact h.handles_restart hw hrx hsynt _
  | false =>
    have hheard := hw.heard h hrx
    have ha := hheard.agreed.agrees
    have hs := hheard.reachable.shaken.handshake
    have hheld : (Config.party ⟨[.received (.ofResponse resp)], w.heard rest⟩).held = [resp] := rfl
    rcases ha.oldest hheld hs hsynt with ⟨m, later, hq, hfits, -⟩
    have hmat := ha.expected_of_oldest hheld hs hsynt hq
    have hflight : w.inFlight = m :: later := hq
    have hawaited : m.Awaited :=
      hheard.reachable.typed.inFlight m (hflight ▸ List.mem_cons_self)
    rcases hawaited with hm | hm
    · obtain rfl := hs.only_connect hq hm.isConnect
      have hat : w.inFlight[0]? = some m := by simp [hflight]
      have hok := (ha.fits_msg hat hfits).2.2 hm.op
      exact h.handles_connect hw hsynt hflight hm hok hmat n
    · exact h.handles_update hw hrx hsynt hflight hm hmat _

end Outcome

/-! ### The receive callback -/

theorem Config.From.path {σ : Type} [Os σ] {P : σ → Prop} {s s' : Config σ} (h : s.From P)
    (hpath : Path s s') : s'.From P := by
  rcases h with ⟨s₀, h₀, hP, hto⟩
  exact ⟨s₀, h₀, hP, hto.trans hpath⟩

def World.recvFired (w : World Env) : World Env :=
  World.addRead { w.observe (.callback .recv) with evRecv := none }

/-- The plugin is ready, or can read the answer to its Connect, and its connection is
    not an old one if `g` was not; or it was, and the plugin has reconnected. -/
def World.Expects (k : Nat) (g : Option Nat) (w : World Env) : Prop :=
  ((w.dplaneIsReady = true ∨ ∃ j ∈ w.os.dataplane.rx.map (·.1), w.Awaits j) ∧
      (g = some k → w.os.dataplane.link = some k)) ∨
    (g ≠ some k ∧ Connecting k w)

theorem Outcome.expects {k i : Nat} {g : Option Nat} {resp : RpcResponse}
    {rest : List (Nat × RpcResponse)} {w w' : World Env} (hout : Outcome k i w w')
    (hrx : w.os.dataplane.rx = (i, resp) :: rest) (hrx' : w'.os.dataplane.rx = rest)
    (hcalm : Calm k w') (hw : w.Expects k g) : w'.Expects k g := by
  cases hout with
  | ready hready hlink hkept =>
    rcases hw with ⟨-, hg⟩ | ⟨hg, hconn⟩
    · exact .inl ⟨.inl hready, fun h => hlink.trans (hg h)⟩
    · exact .inl ⟨.inl hready, fun h => absurd h hg⟩
  | reconnected hlink hconn =>
    rcases hw with ⟨-, hg⟩ | ⟨hg, -⟩
    · exact .inr ⟨fun h => hlink (hg h), hconn⟩
    · exact .inr ⟨hg, hconn⟩
  | waits hbefore hready hlink hinbox hawaits =>
    rcases hw with ⟨hor, hg⟩ | ⟨hg, hconn⟩
    · refine .inl ⟨.inr ?_, fun h => hlink.trans (hg h)⟩
      rcases hor with hup | ⟨j, hj, hw⟩
      · exact absurd (hup.symm.trans hbefore) Bool.noConfusion
      · rcases hawaits j hw with ⟨hw', hne⟩
        rw [hrx, List.map_cons, List.mem_cons] at hj
        exact ⟨j, hrx' ▸ hj.resolve_left hne, hw'⟩
    · rcases hconn.awaits with ⟨j, hj, hw⟩
      exact .inr ⟨hg, hcalm, hlink.trans hconn.link, hready, j, hinbox ▸ hj, (hawaits j hw).1⟩

section Recv
variable {k : Nat} {w : World Env}

theorem Calm.recvFired (h : Calm k w) : Calm k w.recvFired :=
  ⟨h.choices, h.current, h.sock, h.path, h.buffer, mem_getD_of_follows nofun⟩

theorem Config.From.recvFired (hw : Config.From Env.Untouched ⟨[], w⟩)
    (harmed : w.evRecv.isSome = true) : Config.From Env.Untouched ⟨[], w.recvFired⟩ :=
  hw.path (.single (.recvFired harmed))

theorem recv_ran {n : Nat} {w' : World Env}
    (hloop : Ran (loop .outOfFuel n (dpRpcRecvStep (dpConnect n))) w.recvFired () w') :
    Ran (Callback.recv.run n) w () w' := by
  rw [Callback.run, Ran, ends_observe_bind, ends_modify_bind, dpRpcRecv, ends_eventAddRead_bind]
  exact hloop

/-- What every round that goes on keeps, `dp_rpc_recv` keeps until all is read. -/
theorem recv_reaches {P Q : World Env → Prop}
    (hround : ∀ n t, P t →
      (∃ t', Ran (dpRpcRecvStep (dpConnect (n + 1))) t false t' ∧ Q t') ∨
      ∃ t', Ran (dpRpcRecvStep (dpConnect (n + 1))) t true t' ∧ P t' ∧
        t'.os.dataplane.rx.length < t.os.dataplane.rx.length)
    (hw : P w.recvFired) : ∃ n w', Ran (Callback.recv.run n) w () w' ∧ Q w' := by
  rcases loop_reaches (·.os.dataplane.rx.length) (hround w.os.dataplane.rx.length) hw
    (Nat.lt_succ_self _) with ⟨w', hran, hQ⟩
  exact ⟨_, w', recv_ran hran, hQ⟩

theorem Calm.receives (h : Calm k w) (hw : Config.From Env.Untouched ⟨[], w⟩) (n : Nat) :
    (w.os.dataplane.rx = [] ∧
      Ran (dpRpcRecvStep (dpConnect (n + 1))) w false (w.count (·.rxError .eagain))) ∨
    ∃ i resp rest w', w.os.dataplane.rx = (i, resp) :: rest ∧
      Ran (dpRpcRecvStep (dpConnect (n + 1))) w true w' ∧
      Config.From Env.Untouched ⟨[], w'⟩ ∧ Calm k w' ∧ w'.os.dataplane.rx = rest ∧
      Outcome k i w w' := by
  cases hrx : w.os.dataplane.rx with
  | nil => exact .inl ⟨rfl, h.round_nil hrx _⟩
  | cons x rest =>
    rcases x with ⟨i, resp⟩
    rcases h.handles hw hrx n with ⟨w', hran, hcalm, hrx', hout⟩
    have hround : Ran (dpRpcRecvStep (dpConnect (n + 1))) w true w' :=
      (h.round hrx _ _ _).mpr ((hran.ends_bind _ _ _).mpr (ran_pure _ _))
    have hpath := (dpRpcRecvStep_refines (dpConnect_refines (n + 1)) w).returns hround
    exact .inr ⟨i, resp, rest, w', rfl, hround, hw.path hpath, hcalm, hrx', hout⟩

/-- A plugin that expects an answer reads on until it is ready, or has reconnected. -/
theorem Calm.recv_expecting (h : Calm k w) (hw : Config.From Env.Untouched ⟨[], w⟩)
    (harmed : w.evRecv.isSome = true)
    (hexpects : w.dplaneIsReady = true ∨ ∃ j ∈ w.os.dataplane.rx.map (·.1), w.Awaits j) :
    ∃ n w', Ran (Callback.recv.run n) w () w' ∧ Calm k w' ∧
      ((w'.dplaneIsReady = true ∧
          (w.os.dataplane.link = some k → w'.os.dataplane.link = some k)) ∨
        (w.os.dataplane.link ≠ some k ∧ Connecting k w')) := by
  have hstart : w.recvFired.Expects k w.os.dataplane.link := .inl ⟨hexpects, id⟩
  refine recv_reaches (P := fun t => Calm k t ∧ Config.From Env.Untouched ⟨[], t⟩ ∧
    t.Expects k w.os.dataplane.link) ?_ ⟨h.recvFired, hw.recvFired harmed, hstart⟩
  rintro n t ⟨hcalm, ht, hexp⟩
  rcases hcalm.receives ht n with ⟨hrx, hran⟩ | ⟨i, resp, rest, t', hrx, hran, ht', hcalm', hrx', hout⟩
  · refine .inl ⟨_, hran, hcalm.frame rfl, ?_⟩
    rcases hexp with ⟨hready | ⟨j, hj, -⟩, hg⟩ | ⟨hg, hconn⟩
    · exact .inl ⟨hready, hg⟩
    · rw [hrx] at hj
      cases hj
    · exact .inr ⟨hg, hconn.frame rfl rfl rfl rfl⟩
  · refine .inr ⟨t', hran, ⟨hcalm', ht', hout.expects hrx hrx' hcalm' hexp⟩, ?_⟩
    rw [hrx, hrx']
    exact Nat.lt_succ_self _

/-- A ready plugin with nothing to send reads all there is to read. -/
theorem Calm.recv_ready (h : Calm k w) (hw : Config.From Env.Untouched ⟨[], w⟩)
    (harmed : w.evRecv.isSome = true) (hready : w.dplaneIsReady = true)
    (hlink : w.os.dataplane.link = some k) (hunsent : w.unsent = [])
    (hinbox : w.os.dataplane.inbox = []) :
    ∃ n w', Ran (Callback.recv.run n) w () w' ∧ w'.dplaneIsReady = true ∧
      w'.os.dataplane.link = some k ∧ w'.os.dataplane.current = some k ∧ w'.unsent = [] ∧
      w'.os.dataplane.pending = [] := by
  refine recv_reaches (P := fun t => Calm k t ∧ Config.From Env.Untouched ⟨[], t⟩ ∧
    t.dplaneIsReady = true ∧ t.os.dataplane.link = some k ∧ t.unsent = [] ∧
    t.os.dataplane.inbox = []) ?_
    ⟨h.recvFired, hw.recvFired harmed, hready, hlink, hunsent, hinbox⟩
  rintro n t ⟨hcalm, ht, hup, hg, hnil, hbox⟩
  rcases hcalm.receives ht n with ⟨hrx, hran⟩ | ⟨i, resp, rest, t', hrx, hran, ht', hcalm', hrx', hout⟩
  · refine .inl ⟨_, hran, hup, hg, hcalm.current, hnil, ?_⟩
    change t.os.dataplane.pending = []
    simp [Dataplane.pending, hrx, hbox]
  · refine .inr ⟨t', hran, ⟨hcalm', ht', ?_⟩, ?_⟩
    · cases hout with
      | ready hready' hlink' hkept =>
        rcases hkept hup with ⟨hunsent', hinbox'⟩
        exact ⟨hready', hlink'.trans hg, hunsent'.trans hnil, hinbox'.trans hbox⟩
      | reconnected hno => exact absurd hg hno
      | waits hbefore => exact absurd (hup.symm.trans hbefore) Bool.noConfusion
    · rw [hrx, hrx']
      exact Nat.lt_succ_self _

end Recv

/-! ### Runs in which nothing fails -/

/-- What may come next while the plugin settles: FRR runs a callback of an event that
    is armed, `dp_rpc_recv` only for the socket in use and with something to read; or
    the dataplane answers the oldest request, an update with `verdict`. -/
inductive SettlingTurn (verdict : RpcMsg → RpcResultCode) : World Env → World Env → Prop
  | connectTimer {w w' : World Env} {n : Nat} (harmed : w.evConnectTimer = true)
      (hrun : Ran (Callback.connectTimer.run n) w () w') : SettlingTurn verdict w w'
  | keepalive {w w' : World Env} {n : Nat} (harmed : w.evKeepalive = true)
      (hrun : Ran (Callback.keepalive.run n) w () w') : SettlingTurn verdict w w'
  | recv {w w' : World Env} {n : Nat} (harmed : w.evRecv = some w.dpSock)
      (hreadable : w.os.dataplane.rx ≠ []) (hrun : Ran (Callback.recv.run n) w () w') :
      SettlingTurn verdict w w'
  | answer {w : World Env} {i : Nat} {msg : RpcMsg} {rest : List (Nat × RpcMsg)}
      (hinbox : w.os.dataplane.inbox = (i, msg) :: rest) (info : ConnInfo) :
      SettlingTurn verdict w { w with os := { w.os with
        dataplane := w.os.dataplane.step (.answer info (verdict msg) none) } }

/-- `w'` comes after `w` in a run in which the plugin settles. -/
abbrev Settling (verdict : RpcMsg → RpcResultCode) (w w' : World Env) : Prop :=
  Relation.ReflTransGen (SettlingTurn verdict) w w'

section Settling
variable {verdict : RpcMsg → RpcResultCode} {k : Nat} {e : Env} {w w' : World Env}

theorem Settling.continues (h : Settling verdict w w') : Continues w w' := by
  refine Relation.ReflTransGen.mono ?_ _ _ h
  rintro w w' (⟨harmed, hrun⟩ | ⟨harmed, hrun⟩ | ⟨harmed, -, hrun⟩ | ⟨-, info⟩)
  · have henabled : Callback.connectTimer.enabled w := harmed
    exact .callback henabled hrun
  · have henabled : Callback.keepalive.enabled w := harmed
    exact .callback henabled hrun
  · have henabled : Callback.recv.enabled w := by
      rw [Callback.enabled, harmed]
      rfl
    exact .callback henabled hrun
  · exact .outside ⟨[.answer info _ none], rfl⟩

theorem Dataplane.step_answer (p : Dataplane) {i : Nat} {msg : RpcMsg}
    {rest : List (Nat × RpcMsg)} (hk : p.current = some k) (hq : p.inbox = (i, msg) :: rest)
    (info : ConnInfo) (rescode : RpcResultCode) (objects : Option ConnInfo) :
    p.step (.answer info rescode objects) = { p with
      inbox := rest,
      verdicts := p.verdicts ++ [(i, (p.response k msg.request info rescode objects).rescode)],
      rx := p.rx ++ [(i, p.response k msg.request info rescode objects)] } := by
  simp only [Dataplane.step, hk, hq]

/-- From `w` to `w'`, the dataplane has answered all that it received. -/
structure World.Answered (w w' : World Env) : Prop where
  inbox : w'.os.dataplane.inbox = []
  rx : w'.os.dataplane.rx.map (·.1) = w.os.dataplane.pending
  link : w'.os.dataplane.link = w.os.dataplane.link
  receipts : w'.os.dataplane.receipts = w.os.dataplane.receipts
  ready : w'.dplaneIsReady = w.dplaneIsReady
  connected : w'.dpSockConnected = w.dpSockConnected
  unsent : w'.unsent = w.unsent
  inFlight : w'.inFlight = w.inFlight

theorem Calm.answers (h : Calm k w) (verdict : RpcMsg → RpcResultCode) :
    ∃ w', Settling verdict w w' ∧ Calm k w' ∧ w.Answered w' := by
  generalize hq : w.os.dataplane.inbox = inbox
  induction inbox generalizing w with
  | nil =>
    refine ⟨w, .refl, h, ?_⟩
    constructor <;> simp [Dataplane.pending, hq]
  | cons x rest ih =>
    rcases x with ⟨i, msg⟩
    have hturn : SettlingTurn verdict w _ := .answer hq (dataplaneInfo 0)
    have hstep := w.os.dataplane.step_answer h.current hq (dataplaneInfo 0) (verdict msg) none
    generalize w.os.dataplane.step _ = p at hturn hstep
    have hcalm : Calm k { w with os := { w.os with dataplane := p } } := by
      rw [hstep]
      exact h.frame rfl
    obtain ⟨hinbox, hpending, hlink, hreceipts⟩ : p.inbox = rest ∧
        p.pending = w.os.dataplane.pending ∧ p.link = w.os.dataplane.link ∧
        p.receipts = w.os.dataplane.receipts := by
      rw [hstep]
      exact ⟨rfl, by simp [Dataplane.pending, hq], rfl, rfl⟩
    rcases ih hcalm hinbox with ⟨w', hpath, hcalm', hall⟩
    exact ⟨w', .head hturn hpath, hcalm', hall.inbox, hall.rx.trans hpending,
      hall.link.trans hlink, hall.receipts.trans hreceipts, hall.ready, hall.connected,
      hall.unsent, hall.inFlight⟩

theorem World.Answered.awaits (h : w.Answered w') {i : Nat} (hi : i ∈ w.os.dataplane.pending)
    (hw : w.Awaits i) : i ∈ w'.os.dataplane.rx.map (·.1) ∧ w'.Awaits i := by
  rcases hw with ⟨hlast, older, c, hq, hc⟩
  exact ⟨h.rx ▸ hi, by rw [h.receipts]; exact hlast, older, c, h.inFlight.trans hq, hc⟩

/-- The plugin is ready, and nothing waits for the dataplane. -/
structure World.Settled (w : World Env) : Prop where
  ready : w.dplaneIsReady = true
  unsent : w.unsent = []
  inFlight : w.inFlight = []

/-- A run from `w` gets to a settled state. -/
def Recovers (verdict : RpcMsg → RpcResultCode) (w : World Env) : Prop :=
  ∃ w', Settling verdict w w' ∧ w'.Settled

theorem Recovers.of_settling (hto : Settling verdict w w') (h : Recovers verdict w') :
    Recovers verdict w := by
  rcases h with ⟨w'', hto', hsettled⟩
  exact ⟨w'', hto.trans hto', hsettled⟩

theorem Calm.armed (h : Calm k w) (hr : Config.Reachable ⟨[], w⟩)
    (hconn : w.dpSockConnected = true) : w.evRecv = some w.dpSock := by
  rcases Option.isSome_iff_exists.mp ((hr.wired.recv hconn).resolve_right nofun) with ⟨fd, hfd⟩
  rw [hfd, h.recv fd hfd]

/-- A ready plugin that has all the answers has no request in flight. -/
theorem Agreed.nothing_in_flight (ha : Agreed ⟨[], w⟩) (hready : w.dplaneIsReady = true)
    (hlink : w.os.dataplane.link = some k) (hcurrent : w.os.dataplane.current = some k)
    (hpending : w.os.dataplane.pending = []) : w.inFlight = [] := by
  rcases ha.agrees.answers with ⟨known, hheld, -, -, hall⟩
  rw [Config.party_held, heldResponses_nil, List.map_eq_nil_iff] at hheld
  subst hheld
  have hrange := hall hready ⟨k, hlink, hcurrent⟩
  rw [hpending] at hrange
  exact List.length_eq_zero_iff.mp (List.range'_eq_nil_iff.mp hrange.symm)

end Settling

/-! ### Recovery -/

section Recovers
variable {verdict : RpcMsg → RpcResultCode} {k : Nat} {e : Env} {w : World Env}
  (hfresh : e.dataplane.Fresh)
include hfresh

theorem ReachableFrom.untouched (h : ReachableFrom e w) : Config.From Env.Untouched ⟨[], w⟩ :=
  h.config socketCalls_untouched (fun _ he => he.turn) hfresh.agrees

theorem recovers_of_link (h : ReachableFrom e w) (hcalm : Calm k w)
    (hready : w.dplaneIsReady = true) (hlink : w.os.dataplane.link = some k) :
    Recovers verdict w := by
  have hs := h.reachable.handshake
  have hconn := hs.ready hready
  rcases hcalm.keepalive hready hconn (hs.timer_of_connected hconn) 0 with
    ⟨w₁, hran, ⟨hcalm₁, hready₁, hlink₁, hnil₁⟩ | ⟨hno, -⟩⟩
  · have hkept : Settling verdict w w₁ := .single (.keepalive h.reachable.evKeepalive hran)
    rcases hcalm₁.answers verdict with ⟨w₂, hanswers, hcalm₂, hall⟩
    have hto : Settling verdict w w₂ := hkept.trans hanswers
    have hready₂ := hall.ready.trans hready₁
    have hlink₂ := hall.link.trans hlink₁
    have hnil₂ := hall.unsent.trans hnil₁
    have h₂ := h.continues hto.continues
    refine .of_settling hto ?_
    by_cases hrx : w₂.os.dataplane.rx = []
    · refine ⟨w₂, .refl, hready₂, hnil₂, ?_⟩
      refine (h₂.untouched hfresh).agreed.nothing_in_flight hready₂ hlink₂ hcalm₂.current ?_
      simp [Dataplane.pending, hrx, hall.inbox]
    · have hr₂ := h₂.reachable.config
      have harmed := hcalm₂.armed hr₂ (hr₂.shaken.handshake.ready hready₂)
      rcases hcalm₂.recv_ready (h₂.untouched hfresh) (by simp [harmed]) hready₂ hlink₂ hnil₂
        hall.inbox with ⟨n, w₃, hran₃, hready₃, hlink₃, hcurrent₃, hnil₃, hpending₃⟩
      have hread : Settling verdict w₂ w₃ := .single (.recv harmed hrx hran₃)
      have h₃ := (h₂.continues (Settling.continues hread)).untouched hfresh
      exact ⟨w₃, hread, hready₃, hnil₃,
        h₃.agreed.nothing_in_flight hready₃ hlink₃ hcurrent₃ hpending₃⟩
  · exact absurd hlink hno

/-- The answer to its Connect is to come, and is read. -/
theorem answer_is_read (verdict : RpcMsg → RpcResultCode) (h : ReachableFrom e w)
    (hcalm : Calm k w) {i : Nat} (hi : i ∈ w.os.dataplane.pending) (hw : w.Awaits i) :
    ∃ w', Settling verdict w w' ∧ Calm k w' ∧
      ((w'.dplaneIsReady = true ∧
          (w.os.dataplane.link = some k → w'.os.dataplane.link = some k)) ∨
        (w.os.dataplane.link ≠ some k ∧ Connecting k w')) := by
  have hconn : w.dpSockConnected = true := by
    rcases hw with ⟨-, older, c, hq, hc⟩
    exact (h.reachable.handshake.of_connect (m := c) (by simp [hq]) hc).1
  rcases hcalm.answers verdict with ⟨w₁, hanswers, hcalm₁, hall⟩
  have h₁ := h.continues hanswers.continues
  rcases hall.awaits hi hw with ⟨hi₁, hw₁⟩
  have hne : w₁.os.dataplane.rx ≠ [] := by
    rintro hnil
    rw [hnil] at hi₁
    cases hi₁
  have harmed := hcalm₁.armed h₁.reachable.config (hall.connected.trans hconn)
  rcases hcalm₁.recv_expecting (h₁.untouched hfresh) (by simp [harmed]) (.inr ⟨i, hi₁, hw₁⟩) with
    ⟨n, w₂, hran, hcalm₂, hor⟩
  rw [hall.link] at hor
  exact ⟨w₂, hanswers.tail (.recv harmed hne hran), hcalm₂, hor⟩

theorem recovers_of_connecting (h : ReachableFrom e w) (hconn : Connecting k w) :
    Recovers verdict w := by
  rcases hconn.awaits with ⟨i, hi, hw⟩
  rcases answer_is_read hfresh verdict h hconn.calm (List.mem_append_right _ hi) hw with
    ⟨w', hto, hcalm, ⟨hready, hlink⟩ | ⟨hno, -⟩⟩
  · exact .of_settling hto
      (recovers_of_link hfresh (h.continues hto.continues) hcalm hready (hlink hconn.link))
  · exact absurd hconn.link hno

theorem recovers_of_ready (h : ReachableFrom e w) (hcalm : Calm k w)
    (hready : w.dplaneIsReady = true) : Recovers verdict w := by
  have hs := h.reachable.handshake
  have hconn := hs.ready hready
  rcases hcalm.keepalive hready hconn (hs.timer_of_connected hconn) 0 with ⟨w', hran, hor⟩
  have hkept : Settling verdict w w' := .single (.keepalive h.reachable.evKeepalive hran)
  have h' := h.continues (Settling.continues hkept)
  refine .of_settling hkept ?_
  rcases hor with ⟨hcalm', hready', hlink', -⟩ | ⟨-, hconn'⟩
  · exact recovers_of_link hfresh h' hcalm' hready' hlink'
  · exact recovers_of_connecting hfresh h' hconn'

theorem recovers_of_hopeful (h : ReachableFrom e w) (hcalm : Calm k w) (hhope : w.Hopeful) :
    Recovers verdict w := by
  rcases hhope with hready | ⟨htimer, -, -⟩ | ⟨j, m, hm, hconn, hpending⟩
  · exact recovers_of_ready hfresh h hcalm hready
  · have hs := h.reachable.handshake
    rcases hcalm.connectTimer (hs.not_ready (hs.timer htimer)) 0 with ⟨w', hran, hconn⟩
    have hfired : Settling verdict w w' := .single (.connectTimer htimer hran)
    exact .of_settling hfired
      (recovers_of_connecting hfresh (h.continues (Settling.continues hfired)) hconn)
  · have hs := h.reachable.handshake
    rcases List.getElem?_eq_some_iff.mp hm with ⟨hlt, rfl⟩
    have hsplit : w.inFlight = w.inFlight.take j ++ w.inFlight[j] :: w.inFlight.drop (j + 1) := by
      rw [List.getElem_cons_drop, List.take_append_drop]
    have hlast := hs.connect_last hsplit hconn
    have hlen := (h.untouched hfresh).agreed.agrees.length
    have hw : w.Awaits ((poppedMsgs w.log).length + j) := by
      rw [hlast] at hsplit
      have hj := congrArg List.length hsplit
      refine ⟨?_, _, _, hsplit, hconn⟩
      simp only [Config.party_done, Config.party_inFlight, List.length_append, List.length_take,
        List.length_singleton] at hlen hj
      omega
    rcases answer_is_read hfresh verdict h hcalm hpending hw with
      ⟨w', hto, hcalm', ⟨hready, -⟩ | ⟨-, hconn'⟩⟩
    · exact .of_settling hto (recovers_of_ready hfresh (h.continues hto.continues) hcalm' hready)
    · exact .of_settling hto (recovers_of_connecting hfresh (h.continues hto.continues) hconn')

end Recovers

/-- A hopeful plugin has all that `dp_connect` asks for. -/
theorem Calm.of_hopeful {k : Nat} {w : World Env} (hr : Config.Reachable ⟨[], w⟩)
    (hchoices : w.os.choices = []) (hcurrent : w.os.dataplane.current = some k)
    (hrecv : ∀ fd ∈ w.evRecv, fd = w.dpSock) (hhope : w.Hopeful) : Calm k w := by
  have hs := hr.shaken.handshake
  have hreconnects : w.dpSock ≠ noSock ∧ w.dpSockPath.Valid := by
    rcases hhope with hready | ⟨-, hsock, hpath⟩ | ⟨j, m, hm, hconn, -⟩
    · exact ⟨hs.sock (hs.ready hready), hr.wired.path (hs.ready hready)⟩
    · exact ⟨hsock, hpath⟩
    · have hconnected := (hs.of_connect (List.mem_of_getElem? hm) hconn).1
      exact ⟨hs.sock hconnected, hr.wired.path hconnected⟩
  exact ⟨hchoices, hcurrent, hreconnects.1, hreconnects.2, hr.typed.buffer, hrecv⟩

/-- Against the dataplane: in a state between two callbacks, with one incarnation up,
    nothing failing from now on, and `ev_recv` not left to an old socket.  By the
    events that are armed and the answers of the dataplane alone, whatever its
    verdicts are, the plugin can become ready, empty its lists and give back every
    context it had queued, in order, if and only if it is hopeful. -/
theorem plugin_recovers_iff_hopeful {e : Env} (hfresh : e.dataplane.Fresh) {w : World Env}
    (h : ReachableFrom e w) (hchoices : w.os.choices = [])
    (hup : w.os.dataplane.current.isSome = true) (hrecv : ∀ fd ∈ w.evRecv, fd = w.dpSock)
    (verdict : RpcMsg → RpcResultCode) :
    (∃ w', Settling verdict w w' ∧ w'.dplaneIsReady = true ∧ w'.unsent = [] ∧ w'.inFlight = [] ∧
      queuedCtxs w.log <+: handedOffCtxs w'.log) ↔ w.Hopeful := by
  have hfrom := h.untouched hfresh
  constructor
  · rintro ⟨w', hto, hready, -⟩
    by_contra hnot
    have hstuck := (h.stuck hfresh hnot).path hfrom.reachable hfrom.agreed hto.continues.path
    exact absurd (hready.symm.trans hstuck.ready) Bool.noConfusion
  · intro hhope
    rcases Option.isSome_iff_exists.mp hup with ⟨k, hcurrent⟩
    have hcalm := Calm.of_hopeful hfrom.reachable hchoices hcurrent hrecv hhope
    have hrecovers : Recovers verdict w := recovers_of_hopeful hfresh h hcalm hhope
    rcases hrecovers with ⟨w', hto, hready, hunsent, hflight⟩
    refine ⟨w', hto, hready, hunsent, hflight, ?_⟩
    have hall := (h.continues hto.continues).queued_eq hfresh
    simp only [hunsent, hflight, ctxsOf_nil, List.append_nil] at hall
    rw [← hall]
    exact hto.continues.path.log_prefix.filterMap _

/-- The incarnation that is up answers the Connect; nothing else happens. -/
def answeringEnv : Env where
  choices := List.replicate 9 .quiet ++ [.doing [.answer (dataplaneInfo 0) .ok none]]
  dataplane := freshDataplane

/-- A route is in flight. -/
def routedWorld : World Env := played 4 answeringEnv [.recv, .process 1 [routeCtx 1]]

/-- The incarnation that received the route crashes, and another one starts. -/
def abandonedWorld : World Env :=
  { routedWorld with os := { routedWorld.os with
      dataplane := [DataplaneStep.crash, .start 9].foldl Dataplane.step routedWorld.os.dataplane } }

theorem abandonedWorld_recovers :
    abandonedWorld.inFlight.length = 1 ∧ queuedCtxs abandonedWorld.log = [1] ∧
      ∃ w', Settling (fun _ => .ok) abandonedWorld w' ∧ w'.dplaneIsReady = true ∧
        w'.unsent = [] ∧ w'.inFlight = [] ∧
          queuedCtxs abandonedWorld.log <+: handedOffCtxs w'.log := by
  have hrouted : ReachableFrom answeringEnv routedWorld :=
    played_reachableFrom _ _ _ (by decide +kernel)
  have hmoves : Os.moves routedWorld.os abandonedWorld.os := ⟨[.crash, .start 9], rfl⟩
  have hreach : ReachableFrom answeringEnv abandonedWorld := hrouted.outside hmoves
  have hchoices : abandonedWorld.os.choices.isEmpty = true := by decide +kernel
  have harmed : abandonedWorld.evRecv = some abandonedWorld.dpSock := by decide +kernel
  have hready : abandonedWorld.dplaneIsReady = true := by decide +kernel
  have hrecv : ∀ fd ∈ abandonedWorld.evRecv, fd = abandonedWorld.dpSock := by
    intro fd hfd
    rw [harmed, Option.mem_some_iff] at hfd
    exact hfd.symm
  have hhope : abandonedWorld.Hopeful := .inl hready
  exact ⟨by decide +kernel, by decide +kernel,
    (plugin_recovers_iff_hopeful freshDataplane_fresh hreach (List.isEmpty_iff.mp hchoices)
      (by decide +kernel) hrecv _).mpr hhope⟩

end DplanePlugin
