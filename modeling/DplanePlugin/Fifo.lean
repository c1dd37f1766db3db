/-
  DplanePlugin/Fifo.lean
  ======================
  **Order on the wire, and sequence numbers.**

  A message that is no Connect is sent, held by the call that is sending it, or
  in the unsent list; these three in a row are the messages passed to
  `send_rpc_msg`, in order.  Every failure of `do_send_rpc_msg` puts the message
  back where it was taken from, whatever a nested reconnect did meanwhile.
-/
import DplanePlugin.Handshake
import DplanePlugin.Records

namespace DplanePlugin

open Lib

variable {σ : Type}

/-! ### The invariant -/

/-- The sequence numbers of the first `n` requests. -/
def seqnsUpTo (n : Nat) : List UInt64 := (List.range n).map fun i => UInt64.ofNat (i + 1)

theorem seqnsUpTo_succ (n : Nat) :
    seqnsUpTo (n + 1) = seqnsUpTo n ++ [UInt64.ofNat (n + 1)] := by
  rw [seqnsUpTo, List.range_succ, List.map_append]
  rfl

/-- The requests of some messages are numbered 1, 2, 3 and so on, and `next` is
    the number of the next one. -/
def Numbered (msgs : List DpMsg) (next : UInt64) : Prop :=
  (requests msgs).map (·.msg.request.seqn) = seqnsUpTo (requests msgs).length ∧
    next = UInt64.ofNat ((requests msgs).length + 1)

theorem Numbered.request {msgs : List DpMsg} {next : UInt64} (h : Numbered msgs next) {m : DpMsg}
    (htype : m.msg.type = .request) (hseqn : m.msg.request.seqn = next) :
    Numbered (msgs ++ [m]) (next + 1) := by
  obtain ⟨hseqns, hnext⟩ := h
  have hone : requests (msgs ++ [m]) = requests msgs ++ [m] := by simp [htype]
  refine ⟨?_, ?_⟩
  · rw [hone, List.length_append, List.length_singleton, seqnsUpTo_succ, List.map_append, hseqns,
      List.map_singleton, hseqn, hnext]
  · rw [hone, List.length_append, List.length_singleton, hnext,
      UInt64.ofNat_add ((requests msgs).length + 1) 1]
    rfl

theorem Numbered.other {msgs : List DpMsg} {next : UInt64} (h : Numbered msgs next) {m : DpMsg}
    (htype : m.msg.type ≠ .request) : Numbered (msgs ++ [m]) next := by
  have hsame : requests (msgs ++ [m]) = requests msgs := by simp [htype]
  rw [Numbered, hsame]
  exact h

structure Fifo (s : Config σ) : Prop where
  order : nonConnects (sentMsgs s.world.log) ++ heldQueued s.frames ++ s.world.unsent =
    nonConnects (passedMsgs s.world.log)
  numbered : Numbered (nonConnects (passedMsgs s.world.log)) s.world.seqnum
  flight : poppedMsgs s.world.log ++ s.world.inFlight = requests (sentMsgs s.world.log)

theorem Config.Initial.fifo {s : Config σ} (h : s.Initial) : Fifo s := by
  obtain ⟨_, _, os₀, os, sock, -, rfl⟩ := h
  exact ⟨rfl, ⟨rfl, rfl⟩, rfl⟩

variable [Os σ]

theorem Fifo.act {s s' : Config σ} (hr : s.Reachable) (hi : Fifo s) (h : Act s s') : Fifo s' := by
  obtain ⟨horder, hnum, hflight⟩ := hi
  cases h with
  | refused hsock hpath hconnect he hreopen =>
    obtain ⟨-, sock, os', rfl⟩ := dpUnixSockReopen_ends (by exact hsock) hreopen
    exact ⟨by simpa using horder, by simpa using hnum, by simpa using hflight⟩
  | @sentRequest w fs o m len os hmay htry hreq =>
    refine ⟨?_, by simpa using hnum, ?_⟩
    · cases o with
      | unsent =>
        have hm := (hr.typed.queued m (by simp)).isConnect
        simpa [hm] using horder
      | connect =>
        have hm := (hr.typed.connects m (by simp)).isConnect
        simpa [hm] using horder
    · simp [hreq, ← hflight]
  | @sentOther w fs m len os hmay htry hreq =>
    have hm := (hr.typed.queued m (by simp)).isConnect
    exact ⟨by simpa [hm] using horder, by simpa using hnum, by simpa [hreq] using hflight⟩
  | popUnsent hq =>
    have hheld := heldQueued_below_draining hr.stacked
    exact ⟨by simpa [hheld, hq] using horder, hnum, hflight⟩
  | pushBack =>
    have hheld := heldQueued_below_draining (List.pairwise_cons.mp hr.stacked).2
    exact ⟨by simpa [hheld] using horder, hnum, hflight⟩
  | @queueRequest w c ref next pool op object hop halloc =>
    have hm : (requestMsg ref op w.seqnum object (some c)).msg.isConnect = false := by
      rw [← Bool.not_eq_true, requestMsg_isConnect]
      rintro rfl
      simp at hop
    refine ⟨by simp [hm, ← horder], ?_, by simpa using hflight⟩
    simpa [hm] using hnum.request rfl rfl
  | @queueControl w fs ref next pool refresh hfs halloc =>
    refine ⟨?_, ?_, by simpa using hflight⟩
    · obtain rfl | ⟨msg, rfl⟩ := hfs <;> simp [← horder]
    · simpa using hnum.other (m := controlMsg ref refresh) (by simp [controlMsg])
  | mismatched _ hq | completed _ hq | answeredOther _ hq | accepted _ hq | refusedConnect _ hq
  | purged hq | purgedOther hq | purgeAccepted hq | purgeRefused hq =>
    rw [hq] at hflight
    exact ⟨by simpa using horder, by simpa using hnum, by simpa using hflight⟩
  | _ =>
    -- what is left sends nothing, passes nothing on and takes nothing from a list
    exact ⟨by simpa using horder, by simpa using hnum, by simpa using hflight⟩

theorem Config.Reachable.fifo {s : Config σ} (h : s.Reachable) : Fifo s :=
  h.induct (fun _ => Config.Initial.fifo) fun _ _ hr hi => hi.act hr

/-! ### Between two callbacks -/

/-- A script whose dataplane accepts the Connect. -/
def routesScript : Script := { Script.plain with recvs := [accept 7] }

/-- A run that sends two routes. -/
def routesWorld : World Script :=
  played 3 routesScript [.recv, .process 2 [routeCtx 1, routeCtx 2]]

omit [Os σ] in
/-- A first part of the numbers is again numbers from 1 on. -/
theorem eq_seqnsUpTo_of_prefix {l : List UInt64} {n : Nat} (h : l <+: seqnsUpTo n) :
    l = seqnsUpTo l.length := by
  have hle : l.length ≤ n := by simpa [seqnsUpTo] using h.length_le
  rw [List.prefix_iff_eq_take.mp h, seqnsUpTo, ← List.map_take, List.take_range, seqnsUpTo,
    List.length_map, List.length_range, Nat.min_eq_left hle]

/-- The requests sent are numbered 1, 2, 3 and so on, as a `uint64_t` counts. -/
theorem Reachable.seqns {w : World σ} (h : Reachable w) :
    (requests (nonConnects (sentMsgs w.log))).map (·.msg.request.seqn) =
      seqnsUpTo (requests (nonConnects (sentMsgs w.log))).length := by
  obtain ⟨horder, ⟨hnum, -⟩, -⟩ := h.config.fifo
  have hprefix : (requests (nonConnects (sentMsgs w.log))).map (·.msg.request.seqn) <+:
      seqnsUpTo (requests (nonConnects (passedMsgs w.log))).length := by
    rw [← hnum, ← horder, List.append_assoc, requests_append, List.map_append]
    exact List.prefix_append _ _
  simpa using eq_seqnsUpTo_of_prefix hprefix

/-- Between two callbacks, the messages sent, followed by the unsent list, are
    the messages passed to `send_rpc_msg`, Connects aside.  The requests among
    those sent are numbered 1, 2, 3 and so on, as a `uint64_t` counts.  The
    in-flight list is a last part of all requests sent. -/
theorem fifo_between_callbacks {w : World σ} (h : Reachable w) :
    nonConnects (sentMsgs w.log) ++ w.unsent = nonConnects (passedMsgs w.log) ∧
    (requests (nonConnects (sentMsgs w.log))).map (·.msg.request.seqn) =
      seqnsUpTo (requests (nonConnects (sentMsgs w.log))).length ∧
    w.inFlight <:+ requests (sentMsgs w.log) := by
  obtain ⟨horder, -, hflight⟩ := h.config.fifo
  simp only [heldQueued_nil, List.append_nil] at horder
  exact ⟨horder, h.seqns, hflight ▸ List.suffix_append _ _⟩

theorem fifo_of_routesWorld :
    (sentMsgs routesWorld.log).length = 3 ∧ routesWorld.unsent = [] ∧
      nonConnects (sentMsgs routesWorld.log) ++ routesWorld.unsent =
        nonConnects (passedMsgs routesWorld.log) :=
  ⟨by decide +kernel, by decide +kernel,
    (fifo_between_callbacks (played_reachable 3 routesScript _ (by decide +kernel))).1⟩

/-! ### Past the last sequence number

Any number of requests can be sent, and the 2^64-th is numbered 0. -/

/-- A ready plugin with nothing to send, and a system that takes everything. -/
structure Idle (w : World Script) : Prop where
  os : w.os = .plain
  ready : w.dplaneIsReady = true
  unsent : w.unsent = []
  finalizing : w.finalizing = false
  buffer : w.txBuff.isSome = true

/-- The state after a request was passed on alone, and sent. -/
def World.sentAlone (w : World Script) (m : DpMsg) : World Script :=
  (World.sendTried { w.cached m with unsent := [] } .plain m 64 (.octets 64)).putInFlight m

theorem Idle.sendRpcMsg {w : World Script} (hw : Idle w) (R : Plugin Script Unit) {m : DpMsg}
    (hreq : m.msg.type = .request) (hm : m.msg.isConnect = false) :
    Ran (sendRpcMsg R m) w 0 (w.sentAlone m) := by
  have hmay : World.MaySend { w.cached m with unsent := [] } m := ⟨hw.buffer, .inr hw.ready⟩
  have htry : World.Attempts { w.cached m with unsent := [] } m 64 (.octets 64) .plain := by
    constructor <;> simp [hw.os, Os.encodeMsg, Os.send, Script.plain]
  have hq : (w.cached m).unsent = [m] := by simp [hw.unsent]
  have hdrain : Ran (sendPendingRpcMsgs R) (w.cached m) () (w.sentAlone m) := by
    rw [sendPendingRpcMsgs, Ran, ends_get_bind, hq]
    refine ((sendPendingStep_ran hq hreq hmay htry).ends_bind _ _ _).mpr ?_
    refine ((sendPendingStep_ran_nil rfl).ends_bind _ _ _).mpr ?_
    exact (ends_pure _ _ _ _).mpr ⟨rfl, rfl⟩
  rw [Ran, DplanePlugin.sendRpcMsg, ends_observe_bind, if_neg (by simp [hm]), dpMsgCacheUnsent,
    ends_modify_bind]
  exact (hdrain.ends_bind _ _ _).mpr ((ends_pure _ _ _ _).mpr ⟨rfl, rfl⟩)

theorem Idle.sentAlone {w : World Script} (hw : Idle w) (m : DpMsg) : Idle (w.sentAlone m) :=
  ⟨rfl, hw.ready, rfl, hw.finalizing, rfl⟩

@[simp] theorem sentMsgs_sentAlone (w : World Script) (m : DpMsg) :
    sentMsgs (w.sentAlone m).log = sentMsgs w.log ++ [m] := by
  simp [World.sentAlone]

/-- The request for one more route is sent. -/
theorem Idle.process {w : World Script} (hw : Idle w) :
    ∃ w' m, Ran ((Callback.process 1 [routeCtx 1]).run 1) w () w' ∧ Idle w' ∧
      m.msg.type = .request ∧ m.msg.isConnect = false ∧
      sentMsgs w'.log = sentMsgs w.log ++ [m] := by
  let w₁ := (w.observe (.callback .process)).observe (.dequeued 1)
  obtain ⟨ref, pool, next, hnew⟩ := dpMsgNew_ran w₁
  let w₂ : World Script := { w₁ with pool := pool, nextRef := next, seqnum := w.seqnum + 1 }
  have hw₂ : Idle w₂ := ⟨hw.os, hw.ready, hw.unsent, hw.finalizing, hw.buffer⟩
  have hroute : ∃ object, Ran (hhProcess (dpConnect 1) (routeCtx 1)) w₁ .queued
      (w₂.sentAlone (requestMsg ref .add w.seqnum object (some 1))) := by
    refine ⟨.ipRoute ⟨254, .bgp, 20, 0, 0, 24, .ipv4 0x0a000000, []⟩, ?_⟩
    change Ends (sendRpcRequestIproute (dpConnect 1) .add (routeCtx 1) >>= _) w₁ _ _
    rw [sendRpcRequestIproute, if_neg (by decide), sendRequest, dpRequestNew, if_neg (by decide),
      bind_assoc, bind_assoc, hnew.ends_bind]
    simp only [if_neg (show RpcOp.add ≠ .connect by decide), bind_assoc, ends_get_bind,
      ends_set_bind, pure_bind]
    exact ((hw₂.sendRpcMsg (dpConnect 1) rfl rfl).ends_bind _ _ _).mpr
      ((ends_pure _ _ _ _).mpr ⟨rfl, rfl⟩)
  obtain ⟨object, hroute⟩ := hroute
  let m := requestMsg ref .add w.seqnum object (some 1)
  let w₃ := (w₂.sentAlone m).observe (.queued 1)
  have hw₃ : Idle w₃ := by
    obtain ⟨hos, hready, hunsent, hfin, hbuf⟩ := hw₂.sentAlone m
    exact ⟨hos, hready, hunsent, hfin, hbuf⟩
  refine ⟨w₃, m, ?_, hw₃, rfl, rfl, by simp [w₃, w₂, w₁]⟩
  have hupdate : Ran (zdHhProcessUpdate (dpConnect 1) (routeCtx 1)) w₁ () w₃ :=
    (hroute.ends_bind _ _ _).mpr ((ends_observe _ _ _ _).mpr ⟨rfl, rfl⟩)
  have hloop : Ran (zdHhProcessLoop (dpConnect 1) 1 [routeCtx 1])
      (w.observe (.callback .process)) () w₃ := by
    refine (ends_observe_bind _ _ _ _ _).mpr ((ends_get_bind _ _ _ _).mpr ?_)
    refine (ends_ite _ _ _ _ _ _).mpr (.inl ⟨hw.finalizing, ?_⟩)
    exact (hupdate.ends_bind _ _ _).mpr ((ends_pure _ _ _ _).mpr ⟨rfl, rfl⟩)
  refine (ends_observe_bind _ _ _ _ _).mpr ((hloop.ends_bind _ _ _).mpr ?_)
  refine (ends_get_bind _ _ _ _).mpr ?_
  rw [if_neg (by simp [hw₃.finalizing])]
  exact (ends_pure _ _ _ _).mpr ⟨rfl, rfl⟩

/-- Any number of requests can be sent. -/
theorem exists_sent (n : Nat) :
    ∃ w : World Script, Reachable w ∧ Idle w ∧
      n ≤ (requests (nonConnects (sentMsgs w.log))).length := by
  induction n with
  | zero =>
    refine ⟨played 3 routesScript [.recv], played_reachable 3 routesScript _ (by decide +kernel),
      ⟨by decide +kernel, by decide +kernel, by decide +kernel, by decide +kernel,
        by decide +kernel⟩, Nat.zero_le _⟩
  | succ n ih =>
    obtain ⟨w, hreach, hw, hn⟩ := ih
    obtain ⟨w', m, hrun, hw', hreq, hm, hsent⟩ := hw.process
    refine ⟨w', .callback hreach (by exact trivial) hrun, hw', ?_⟩
    rw [hsent]
    simpa [hreq, hm] using hn

/-- The sequence numbers of the requests sent are not 1, 2, 3 and so on as
    numbers: after 2^64 - 1 comes 0. -/
theorem seqns_wrap :
    ¬ ∀ w : World Script, Reachable w →
      (requests (nonConnects (sentMsgs w.log))).map (fun m => m.msg.request.seqn.toNat) =
        (List.range (requests (nonConnects (sentMsgs w.log))).length).map fun i => i + 1 := by
  intro hall
  obtain ⟨w, hreach, -, hn⟩ := exists_sent (2 ^ 64)
  have hseqns := congrArg (List.map UInt64.toNat) hreach.seqns
  rw [List.map_map] at hseqns
  have hat := congrArg (fun l => l[2 ^ 64 - 1]?) (hseqns.symm.trans (hall w hreach))
  have hlt : 2 ^ 64 - 1 < (requests (nonConnects (sentMsgs w.log))).length := by omega
  simp only [seqnsUpTo, List.getElem?_map, List.getElem?_range hlt, Option.map_some] at hat
  exact absurd (Option.some.inj hat) (by decide)

end DplanePlugin
