/-
  DplanePlugin/Processing.lean
  ============================
  **What one call of `zd_hh_process` does, context by context.**

  `ZebraCtx.fate` says what a context is for the plugin: something to ask the
  dataplane for, or something to give back at once.  It is a table of its own,
  next to the nested switches of `hh_process`.  Drains and reconnects that happen
  on the way aside, the log of a call is the contexts taken, one after the other,
  each with its fate.  A call need not return; the log of one that does not is a
  part of that, up to a request it passed on.
-/
import DplanePlugin.Callbacks

namespace DplanePlugin

open Lib

variable {σ : Type}

/-! ### The fate of a context -/

inductive Fate where
  /-- The dataplane is asked for `op` on `object`, and the context waits. -/
  | asked (op : RpcOp) (object : RpcObject)
  /-- The context is given back at once. -/
  | back (st : ZebraResult)
deriving DecidableEq

def ZebraCtx.route (ctx : ZebraCtx) : IpRoute :=
  ⟨ctx.table, encodeRouteType ctx.type, ctx.distance, ctx.metric, ctx.vrf, ctx.dest.prefixlen,
    ctx.dest.addr.toIpAddress, iprouteNhops ctx.ng⟩

def ZebraCtx.ifAddress (ctx : ZebraCtx) : IfAddress :=
  ⟨ctx.ifname, ctx.ifindex, ctx.ifpVrfId, ctx.intfAddr.prefixlen, ctx.intfAddr.addr.toIpAddress⟩

def ZebraCtx.rmac (ctx : ZebraCtx) : Rmac := ⟨ctx.macVni, ctx.macAddr, .ipv4 ctx.macVtepIp⟩

/-- A route of IPv4 or L2VPN, unicast or EVPN. -/
def ZebraCtx.routeOfInterest (ctx : ZebraCtx) : Bool :=
  (decide (ctx.afi = .ip) || decide (ctx.afi = .l2vpn)) &&
    (decide (ctx.safi = .unicast) || decide (ctx.safi = .evpn))

/-- An interface address of IPv4. -/
def ZebraCtx.addrOfInterest (ctx : ZebraCtx) : Bool :=
  match ctx.intfAddr.addr with
  | .inet _ => true
  | .other _ => false

def ZebraCtx.fate (ctx : ZebraCtx) : Fate :=
  match ctx.op with
  | .routeInstall => if ctx.routeOfInterest then .asked .add (.ipRoute ctx.route) else .back .success
  | .routeUpdate =>
    if ctx.routeOfInterest then .asked .update (.ipRoute ctx.route) else .back .success
  | .routeDelete => if ctx.routeOfInterest then .asked .del (.ipRoute ctx.route) else .back .success
  | .addrInstall =>
    if ctx.addrOfInterest then .asked .add (.ifAddress ctx.ifAddress) else .back .success
  | .addrUninstall =>
    if ctx.addrOfInterest then .asked .del (.ifAddress ctx.ifAddress) else .back .success
  | .macInstall => .asked .add (.rmac ctx.rmac)
  | .macDelete => .asked .del (.rmac ctx.rmac)
  | .unknown _ => .back .failure
  | _ => .back .success

/-- The routes the kernel is not to have: the ones of interest of another VRF. -/
def ZebraCtx.skipsKernel (ctx : ZebraCtx) : Bool :=
  (match ctx.op with
    | .routeInstall | .routeUpdate | .routeDelete | .routeNotify
    | .sysRouteAdd | .sysRouteDelete => true
    | _ => false) && ctx.routeOfInterest && decide (ctx.vrf ≠ 0)

/-! ### What the log says of it -/

inductive Mark where
  | dequeued (c : CtxRef)
  | skipKernel (c : CtxRef)
  | asked (c : Option CtxRef) (op : RpcOp) (object : RpcObject)
  | queued (c : CtxRef)
  | back (c : CtxRef) (st : ZebraResult)
  | handedOff (c : CtxRef) (st : ZebraResult)
  | workReady
deriving DecidableEq

@[simp] def Obs.mark : Obs → Option Mark
  | .dequeued c => some (.dequeued c)
  | .skipKernel c => some (.skipKernel c)
  | .passed m =>
    if m.msg.isConnect then none
    else some (.asked m.ctx m.msg.request.op m.msg.request.object)
  | .queued c => some (.queued c)
  | .enqueuedOut c st => some (.back c st)
  | .handedOff c st => some (.handedOff c st)
  | .workReady => some .workReady
  | _ => none

def marks (log : List Entry) : List Mark := log.filterMap (·.obs.mark)

def ZebraCtx.skipMarks (ctx : ZebraCtx) : List Mark :=
  if ctx.skipsKernel then [.skipKernel ctx.ref] else []

/-- What is logged of a context between dequeuing it and giving it back or leaving it. -/
def ZebraCtx.processMarks (ctx : ZebraCtx) : List Mark :=
  ctx.skipMarks ++
    match ctx.fate with
    | .asked op object => [.asked (some ctx.ref) op object]
    | .back _ => []

/-- What is logged of a context that is processed, or refused while finalizing. -/
def ZebraCtx.marks (finalizing : Bool) (ctx : ZebraCtx) : List Mark :=
  if finalizing then [.dequeued ctx.ref, .back ctx.ref .failure]
  else
    .dequeued ctx.ref :: ctx.processMarks ++
      match ctx.fate with
      | .asked _ _ => [.queued ctx.ref]
      | .back st => [.back ctx.ref st]

/-- The log has grown by `new`, as far as contexts go; `finalizing` is as it was. -/
structure World.Adds (new : List Mark) (w w' : World σ) : Prop where
  marks : marks w'.log = marks w.log ++ new
  finalizing : w'.finalizing = w.finalizing

section Adds
variable {new new' : List Mark} {w w' w'' : World σ}

theorem World.Adds.trans (h : w.Adds new w') (h' : w'.Adds new' w'') : w.Adds (new ++ new') w'' :=
  ⟨by rw [h'.marks, h.marks, List.append_assoc], h'.finalizing.trans h.finalizing⟩

theorem adds_observe (w : World σ) (o : Obs) : w.Adds o.mark.toList (w.observe o) :=
  ⟨by simp [DplanePlugin.marks, filterMap_cons_toList], rfl⟩

theorem Obs.Inner.mark_none {o : Obs} (h : o.Inner) : o.mark = none := by
  cases o with
  | passed m =>
    rcases h with ⟨ref, cinfo, rfl⟩
    simp
  | connecting | connect | reopened | encoded | send | sent | recycleRefused => rfl
  | _ => exact h.elim

/-- Drains and reconnects do nothing to contexts. -/
theorem World.Extends.adds (h : w.Extends Obs.Inner w') : w.Adds [] w' :=
  ⟨by rw [List.append_nil]; exact h.filterMap_eq fun _ => Obs.Inner.mark_none, h.finalizing⟩

/-- The log has grown by `all`; or, where the program stopped, by the first of them up
    to a request that was passed on. -/
def World.AddsOrStops {α : Type} (all : List Mark) (w : World σ) (r : Except Halt α)
    (w' : World σ) : Prop :=
  match r with
  | .ok _ => w.Adds all w'
  | .error _ => ∃ done c op object rest, all = done ++ .asked c op object :: rest ∧
      w.Adds (done ++ [.asked c op object]) w'

variable {all : List Mark} {α β : Type}

theorem World.Adds.stops (h : w.Adds new w') {r : Except Halt α} (h' : w'.AddsOrStops all r w'') :
    w.AddsOrStops (new ++ all) r w'' := by
  cases r with
  | ok a => exact h.trans h'
  | error e =>
    rcases h' with ⟨done, c, op, object, rest, rfl, hadds⟩
    refine ⟨new ++ done, c, op, object, rest, (List.append_assoc ..).symm, ?_⟩
    rw [List.append_assoc]
    exact h.trans hadds

/-- What was still to come when a program stopped. -/
theorem World.AddsOrStops.more {e : Halt}
    (h : w.AddsOrStops all (.error e : Except Halt α) w') (more : List Mark) :
    w.AddsOrStops (all ++ more) (.error e : Except Halt β) w' := by
  rcases h with ⟨done, c, op, object, rest, rfl, hadds⟩
  exact ⟨done, c, op, object, rest ++ more, by simp, hadds⟩

end Adds

variable [Os σ] {R : Plugin σ Unit} (hR : Reconnects R)

/-! ### Asking the dataplane -/

section Asking
include hR

theorem sendRequest_adds {op : RpcOp} (hop : op ≠ .connect) {c : CtxRef} {object : RpcObject}
    {w w' : World σ} {r : Except Halt Int} (h : Ends (sendRequest R op (some c) object) w r w') :
    (∀ a, r = .ok a → a = 0) ∧ w.Adds [.asked (some c) op object] w' := by
  rcases sendRequest_ends hop h with ⟨ref, pool, next, -, hpass⟩
  have hm : (requestMsg ref op w.seqnum object (some c)).msg.isConnect = false := by
    simpa [← Bool.not_eq_true] using hop
  constructor
  · rintro a rfl
    rw [sendRpcMsg, ends_observe_bind, if_neg (by simp [hm])] at hpass
    rcases (ran_bind _ _ _ _ _).mp hpass with ⟨_, _, -, hrest⟩
    rcases (ran_bind _ _ _ _ _).mp hrest with ⟨_, _, -, hret⟩
    obtain ⟨hr, -⟩ := (ends_pure _ _ _ _).mp hret
    cases hr
    rfl
  · have hpassed := adds_observe { w with pool := pool, nextRef := next, seqnum := w.seqnum + 1 }
      (.passed (requestMsg ref op w.seqnum object (some c)))
    rw [Obs.mark, if_neg (by simp [hm])] at hpassed
    have hall := hpassed.trans (sendRpcMsg_passes hR hm hpass).adds
    exact ⟨hall.marks, hall.finalizing⟩

omit hR in
theorem sendRpcRequestIproute_eq (ctx : ZebraCtx) {op : RpcOp}
    (hop : op = .add ∨ op = .del ∨ op = .update) :
    sendRpcRequestIproute R op ctx = sendRequest R op (some ctx.ref) (.ipRoute ctx.route) :=
  if_neg fun hnot => hop.elim hnot.1 fun hop => hop.elim hnot.2.1 hnot.2.2

omit hR in
theorem sendRpcRequestIfaddress_eq (ctx : ZebraCtx) {op : RpcOp} (hop : op = .add ∨ op = .del) :
    sendRpcRequestIfaddress R op ctx =
      sendRequest R op (some ctx.ref) (.ifAddress ctx.ifAddress) :=
  if_neg fun hnot => hop.elim hnot.1 hnot.2

omit hR in
theorem sendRpcRequestRmac_eq (ctx : ZebraCtx) {op : RpcOp} (hop : op = .add ∨ op = .del) :
    sendRpcRequestRmac R op ctx = sendRequest R op (some ctx.ref) (.rmac ctx.rmac) :=
  if_neg fun hnot => hop.elim hnot.1 hnot.2

/-- What a request function that built `object` from the context did. -/
theorem asked_adds {p : Plugin σ Int} {op : RpcOp} {c : CtxRef} {object : RpcObject}
    (hp : p = sendRequest R op (some c) object) (hop : op ≠ .connect) {w w' : World σ}
    {r : Except Halt HhDpRes} (h : Ends (p >>= fun a => pure (queuedUnlessFailed a)) w r w') :
    (∀ res, r = .ok res → res = .queued) ∧ w.Adds [.asked (some c) op object] w' := by
  subst hp
  rcases (ends_bind _ _ _ _ _).mp h with ⟨a, t, hsend, hret⟩ | ⟨e, hsend, rfl⟩
  · obtain ⟨rfl, rfl⟩ := (ends_pure _ _ _ _).mp hret
    rcases sendRequest_adds hR hop hsend with ⟨hzero, hadds⟩
    obtain rfl := hzero a rfl
    refine ⟨?_, hadds⟩
    rintro res ⟨⟩
    rfl
  · refine ⟨?_, (sendRequest_adds hR hop hsend).2⟩
    rintro res ⟨⟩

end Asking

/-! ### hh_process -/

/-- The result of `hh_process` for a context of this fate. Only where the dataplane is
    asked, it may not return. -/
def Fate.Result : Fate → Except Halt HhDpRes → Prop
  | .asked _ _, r => ∀ res, r = .ok res → res = .queued
  | .back st, r => ∃ res, r = .ok res ∧ res ≠ .queued ∧ hhRetToZebra res = st

/-- What `hh_process` does to a context. -/
def ProcessesTo (ctx : ZebraCtx) (w : World σ) (r : Except Halt HhDpRes) (w' : World σ) : Prop :=
  w.Adds ctx.processMarks w' ∧ ctx.fate.Result r

section Cases
variable {ctx : ZebraCtx} {w t w' : World σ} {r : Except Halt HhDpRes}

omit [Os σ] in
theorem adds_not_skipped (hskip : ctx.skipsKernel = false) (w : World σ) :
    w.Adds ctx.skipMarks w :=
  ⟨by simp [ZebraCtx.skipMarks, hskip], rfl⟩

omit [Os σ] in
theorem processesTo_back (hskip : w.Adds ctx.skipMarks t) {res₀ : HhDpRes}
    (hfate : ctx.fate = .back (hhRetToZebra res₀)) (hne : res₀ ≠ .queued)
    (h : Ends (pure res₀ : Plugin σ HhDpRes) t r w') : ProcessesTo ctx w r w' := by
  obtain ⟨rfl, rfl⟩ := (ends_pure _ _ _ _).mp h
  constructor
  · simpa [ZebraCtx.processMarks, hfate] using hskip
  · rw [hfate]
    exact ⟨res₀, rfl, hne, rfl⟩

include hR

theorem processesTo_asked (hskip : w.Adds ctx.skipMarks t) {p : Plugin σ Int} {op : RpcOp}
    {object : RpcObject} (hp : p = sendRequest R op (some ctx.ref) object) (hop : op ≠ .connect)
    (hfate : ctx.fate = .asked op object)
    (h : Ends (p >>= fun a => pure (queuedUnlessFailed a)) t r w') : ProcessesTo ctx w r w' := by
  rcases asked_adds hR hp hop h with ⟨hres, hadds⟩
  constructor
  · have hall := hskip.trans hadds
    simpa [ZebraCtx.processMarks, hfate] using hall
  · rw [hfate]
    exact hres

theorem hhProcessRoutes_ends (hop : ctx.op = .routeInstall ∨ ctx.op = .routeUpdate ∨
      ctx.op = .routeDelete ∨ ctx.op = .routeNotify ∨ ctx.op = .sysRouteAdd ∨
      ctx.op = .sysRouteDelete)
    (h : Ends (hhProcessRoutes R ctx) w r w') : ProcessesTo ctx w r w' := by
  have hskips : ctx.skipsKernel = (ctx.routeOfInterest && decide (ctx.vrf ≠ 0)) := by
    rcases hop with hop | hop | hop | hop | hop | hop <;> simp [ZebraCtx.skipsKernel, hop]
  cases hint : ctx.routeOfInterest with
  | false =>
    have hfate : ctx.fate = .back (hhRetToZebra .ignored) := by
      rcases hop with hop | hop | hop | hop | hop | hop <;>
        simp [ZebraCtx.fate, hop, hint, hhRetToZebra]
    have hnot : (ctx.afi ≠ .ip ∧ ctx.afi ≠ .l2vpn) ∨ (ctx.safi ≠ .unicast ∧ ctx.safi ≠ .evpn) := by
      simp only [ZebraCtx.routeOfInterest, Bool.and_eq_false_iff, Bool.or_eq_false_iff,
        decide_eq_false_iff_not] at hint
      exact hint
    have hret : Ends (pure .ignored : Plugin σ HhDpRes) w r w' := by
      rw [hhProcessRoutes] at h
      split at h
      · exact h
      · rwa [if_pos (hnot.resolve_left ‹_›)] at h
    exact processesTo_back (adds_not_skipped (by simp [hskips, hint]) w) hfate (by decide) hret
  | true =>
    have hboth : (ctx.afi = .ip ∨ ctx.afi = .l2vpn) ∧ (ctx.safi = .unicast ∨ ctx.safi = .evpn) := by
      simpa [ZebraCtx.routeOfInterest] using hint
    rw [hhProcessRoutes, if_neg (by tauto), if_neg (by tauto)] at h
    have hkernel : ∃ t, Ran (if ctx.vrf ≠ 0 then observe (.skipKernel ctx.ref) else pure ()) w () t ∧
        w.Adds ctx.skipMarks t := by
      by_cases hvrf : ctx.vrf ≠ 0
      · rw [if_pos hvrf]
        refine ⟨_, (ends_observe _ _ _ _).mpr ⟨rfl, rfl⟩, ?_⟩
        simpa [ZebraCtx.skipMarks, hskips, hint, hvrf] using adds_observe w (.skipKernel ctx.ref)
      · rw [if_neg hvrf]
        exact ⟨w, ran_pure _ _, adds_not_skipped (by simpa [hskips, hint] using hvrf) w⟩
    rcases hkernel with ⟨t, hran, hskip⟩
    have hrest := (hran.ends_bind _ _ _).mp h
    rcases hop with hop | hop | hop | hop | hop | hop
    · rw [hop] at hrest
      exact processesTo_asked hR hskip (sendRpcRequestIproute_eq ctx (by decide)) (by decide)
        (by simp [ZebraCtx.fate, hop, hint]) hrest
    · rw [hop] at hrest
      exact processesTo_asked hR hskip (sendRpcRequestIproute_eq ctx (by decide)) (by decide)
        (by simp [ZebraCtx.fate, hop, hint]) hrest
    · rw [hop] at hrest
      exact processesTo_asked hR hskip (sendRpcRequestIproute_eq ctx (by decide)) (by decide)
        (by simp [ZebraCtx.fate, hop, hint]) hrest
    · rw [hop] at hrest
      exact processesTo_back hskip (by simp [ZebraCtx.fate, hop, hhRetToZebra]) (by decide) hrest
    · rw [hop] at hrest
      exact processesTo_back hskip (by simp [ZebraCtx.fate, hop, hhRetToZebra]) (by decide) hrest
    · rw [hop] at hrest
      exact processesTo_back hskip (by simp [ZebraCtx.fate, hop, hhRetToZebra]) (by decide) hrest

theorem hhProcessIfaddr_ends (hop : ctx.op = .addrInstall ∨ ctx.op = .addrUninstall)
    (h : Ends (hhProcessIfaddr R ctx) w r w') : ProcessesTo ctx w r w' := by
  have hskip : w.Adds ctx.skipMarks w := by
    apply adds_not_skipped
    rcases hop with hop | hop <;> simp [ZebraCtx.skipsKernel, hop]
  rw [hhProcessIfaddr] at h
  cases haddr : ctx.intfAddr.addr with
  | other addr =>
    have hfate : ctx.fate = .back (hhRetToZebra .ignored) := by
      rcases hop with hop | hop <;>
        simp [ZebraCtx.fate, hop, ZebraCtx.addrOfInterest, haddr, hhRetToZebra]
    rw [haddr] at h
    exact processesTo_back hskip hfate (by decide) h
  | inet addr =>
    have hint : ctx.addrOfInterest = true := by simp [ZebraCtx.addrOfInterest, haddr]
    rw [haddr] at h
    rcases hop with hop | hop
    · rw [hop] at h
      exact processesTo_asked hR hskip (sendRpcRequestIfaddress_eq ctx (by decide)) (by decide)
        (by simp [ZebraCtx.fate, hop, hint]) h
    · rw [hop] at h
      exact processesTo_asked hR hskip (sendRpcRequestIfaddress_eq ctx (by decide)) (by decide)
        (by simp [ZebraCtx.fate, hop, hint]) h

theorem hhProcessMacinfo_ends (hop : ctx.op = .macInstall ∨ ctx.op = .macDelete)
    (h : Ends (hhProcessMacinfo R ctx) w r w') : ProcessesTo ctx w r w' := by
  have hskip : w.Adds ctx.skipMarks w := by
    apply adds_not_skipped
    rcases hop with hop | hop <;> simp [ZebraCtx.skipsKernel, hop]
  rw [hhProcessMacinfo] at h
  rcases hop with hop | hop
  · rw [hop] at h
    exact processesTo_asked hR hskip (sendRpcRequestRmac_eq ctx (by decide)) (by decide)
      (by simp [ZebraCtx.fate, hop]) h
  · rw [hop] at h
    exact processesTo_asked hR hskip (sendRpcRequestRmac_eq ctx (by decide)) (by decide)
      (by simp [ZebraCtx.fate, hop]) h

/-- `hh_process` does with every context what its fate says. -/
theorem hhProcess_ends (h : Ends (hhProcess R ctx) w r w') : ProcessesTo ctx w r w' := by
  rw [hhProcess] at h
  cases hop : ctx.op with
  | routeInstall | routeUpdate | routeDelete | routeNotify | sysRouteAdd | sysRouteDelete =>
    rw [hop] at h
    exact hhProcessRoutes_ends hR (by simp [hop]) h
  | addrInstall | addrUninstall =>
    rw [hop] at h
    exact hhProcessIfaddr_ends hR (by simp [hop]) h
  | macInstall | macDelete =>
    rw [hop] at h
    exact hhProcessMacinfo_ends hR (by simp [hop]) h
  | nhInstall | nhUpdate | nhDelete =>
    rw [hop, hhProcessNh, hop] at h
    exact processesTo_back (adds_not_skipped (by simp [ZebraCtx.skipsKernel, hop]) w)
      (by simp [ZebraCtx.fate, hop, hhRetToZebra]) (by decide) h
  | neighInstall | neighUpdate | neighDelete | neighDiscover | vtepAdd | vtepDelete =>
    rw [hop, hhProcessNeigh, hop] at h
    exact processesTo_back (adds_not_skipped (by simp [ZebraCtx.skipsKernel, hop]) w)
      (by simp [ZebraCtx.fate, hop, hhRetToZebra]) (by decide) h
  | _ =>
    -- what is left is given back where it is dispatched
    rw [hop] at h
    exact processesTo_back (adds_not_skipped (by simp [ZebraCtx.skipsKernel, hop]) w)
      (by simp [ZebraCtx.fate, hop, hhRetToZebra]) (by decide) h

end Cases

/-! ### zd_hh_process -/

section Loop
include hR

theorem zdHhProcessUpdate_adds {ctx : ZebraCtx} {w w' : World σ} {r : Except Halt Unit}
    (h : Ends (zdHhProcessUpdate R ctx) w r w') :
    w.AddsOrStops (ctx.processMarks ++ match ctx.fate with
      | .asked _ _ => [.queued ctx.ref]
      | .back st => [.back ctx.ref st]) r w' := by
  rcases (ends_bind _ _ _ _ _).mp h with ⟨res, t, hprocess, hrest⟩ | ⟨e, hprocess, rfl⟩
  · rcases hhProcess_ends hR hprocess with ⟨hadds, hres⟩
    refine hadds.stops ?_
    cases hfate : ctx.fate with
    | asked op object =>
      rw [hfate] at hres
      rw [if_neg (not_not_intro (hres res rfl))] at hrest
      obtain ⟨rfl, rfl⟩ := (ends_observe _ _ _ _).mp hrest
      exact adds_observe t (.queued ctx.ref)
    | back st =>
      rw [hfate] at hres
      rcases hres with ⟨_, ⟨⟩, hne, rfl⟩
      rw [if_pos hne] at hrest
      obtain ⟨rfl, rfl⟩ := (ends_observe _ _ _ _).mp hrest
      exact adds_observe t (.enqueuedOut ctx.ref (hhRetToZebra res))
  · rcases hhProcess_ends hR hprocess with ⟨hadds, hres⟩
    cases hfate : ctx.fate with
    | asked op object =>
      rw [ZebraCtx.processMarks, hfate] at hadds ⊢
      exact ⟨ctx.skipMarks, some ctx.ref, op, object, [.queued ctx.ref], by simp, hadds⟩
    | back st =>
      rw [hfate] at hres
      rcases hres with ⟨_, ⟨⟩, -⟩

/-- The loop takes contexts until the limit is reached, or none is left, or the processing
    of one does not return. -/
theorem zdHhProcessLoop_adds (limit : Nat) (queue : List ZebraCtx) {w w' : World σ}
    {r : Except Halt Unit} (h : Ends (zdHhProcessLoop R limit queue) w r w') :
    w.AddsOrStops ((queue.take limit).flatMap (·.marks w.finalizing)) r w' := by
  induction limit generalizing queue w with
  | zero =>
    obtain ⟨rfl, rfl⟩ := (ends_pure _ _ _ _).mp h
    exact ⟨by simp, rfl⟩
  | succ limit ih =>
    cases queue with
    | nil =>
      obtain ⟨rfl, rfl⟩ := (ends_pure _ _ _ _).mp h
      exact ⟨by simp, rfl⟩
    | cons ctx queue =>
      rw [zdHhProcessLoop, ends_observe_bind, ends_get_bind] at h
      have hdequeued : w.Adds [.dequeued ctx.ref] (w.observe (.dequeued ctx.ref)) :=
        adds_observe w (.dequeued ctx.ref)
      have hnext {t : World σ} (hadds : w.Adds (ctx.marks w.finalizing) t)
          (hrest : Ends (zdHhProcessLoop R limit queue) t r w') :
          w.AddsOrStops (((ctx :: queue).take (limit + 1)).flatMap (·.marks w.finalizing)) r w' := by
        have hall := hadds.stops (ih queue hrest)
        rw [hadds.finalizing] at hall
        simpa using hall
      cases hfin : w.finalizing with
      | false =>
        rw [hfin] at hnext
        rw [if_pos (by simp [hfin])] at h
        rcases (ends_bind _ _ _ _ _).mp h with ⟨_, t, hupdate, hrest⟩ | ⟨e, hupdate, rfl⟩
        · exact hnext (hdequeued.trans (zdHhProcessUpdate_adds hR hupdate)) hrest
        · have hstopped := hdequeued.stops (zdHhProcessUpdate_adds hR hupdate)
          simpa [ZebraCtx.marks] using
            hstopped.more ((queue.take limit).flatMap (·.marks false))
      | true =>
        rw [hfin] at hnext
        rw [if_neg (by simp [hfin]), ends_observe_bind] at h
        exact hnext (hdequeued.trans (adds_observe _ (.enqueuedOut ctx.ref .failure))) h

end Loop

/-- One call of `zd_hh_process`, from any state, with any contexts, any limit and any
    results of the system calls.  The contexts taken are the first ones, up to the limit;
    each is processed before the next is taken.  One whose fate it is has exactly one
    request passed on for it, with the operation and the object of its fate, and waits;
    every other is given back at once, unknown operations as failures.  While finalizing,
    all are given back as failures, and zebra is woken at the end.  No other message but
    Connects is passed on, and no context that waits is handed off meanwhile.  A call that
    returns does all of this.  One that does not, cut at any depth of its reconnects, has
    done the first part, up to a request that it passed on last. -/
theorem process_marks {n limit : Nat} {queue : List ZebraCtx} {w w' : World σ}
    {r : Except Halt Unit} (h : Ends ((Callback.process limit queue).run n) w r w') :
    w.AddsOrStops ((queue.take limit).flatMap (·.marks w.finalizing) ++
      if w.finalizing then [.workReady] else []) r w' := by
  rw [Callback.run, ends_observe_bind] at h
  have hcallback : w.Adds [] (w.observe (.callback .process)) := adds_observe w (.callback .process)
  have hR : Reconnects (dpConnect n : Plugin σ Unit) := dpConnect_refines n
  rcases (ends_bind _ _ _ _ _).mp h with ⟨_, t, hloop, hrest⟩ | ⟨e, hloop, rfl⟩
  · have hadds : w.Adds ((queue.take limit).flatMap (·.marks w.finalizing)) t :=
      hcallback.trans (zdHhProcessLoop_adds hR limit queue hloop)
    have hfin : t.finalizing = w.finalizing := hadds.finalizing
    refine hadds.stops ?_
    rw [ends_get_bind, hfin] at hrest
    cases hw : w.finalizing with
    | false =>
      rw [hw, if_neg Bool.false_ne_true] at hrest
      obtain ⟨rfl, rfl⟩ := (ends_pure _ _ _ _).mp hrest
      exact ⟨by simp, rfl⟩
    | true =>
      rw [hw, if_pos rfl] at hrest
      obtain ⟨rfl, rfl⟩ := (ends_observe _ _ _ _).mp hrest
      exact adds_observe t .workReady
  · exact (hcallback.stops (zdHhProcessLoop_adds hR limit queue hloop)).more _

/-- A route of another VRF, a next hop, and a context of an operation zebra does not
    know. -/
def mixedQueue : List ZebraCtx :=
  [{ routeCtx 1 with vrf := 5 }, { routeCtx 2 with op := .nhInstall },
    { routeCtx 3 with op := .unknown 99 }]

/-- The plugin is ready, and sending the next message finds the dataplane gone. -/
def goneWorld : World Script :=
  played 3 { Script.plain with
    recvs := [accept 7], sends := [.octets 64, .error .econnrefused] } [.recv]

/-- A run, from the state that another left. -/
theorem ends_of_run {α : Type} {p : Plugin Script α} {w : World Script} {r : Except Halt α}
    (h : (StateT.run (ExceptT.run p) w).1 = r) : Ends p w r (StateT.run (ExceptT.run p) w).2 :=
  Prod.ext h rfl

/-- A call that returns, and one that is cut where it reconnects. -/
theorem process_marks_of_mixedQueue :
    (∃ w' : World Script,
      keptWorld.AddsOrStops ((mixedQueue.take 2).flatMap (·.marks keptWorld.finalizing) ++
        if keptWorld.finalizing then [.workReady] else []) (.ok ()) w' ∧
      (marks w'.log).drop (marks keptWorld.log).length =
        [.dequeued 1, .skipKernel 1,
          .asked (some 1) .add (.ipRoute { (routeCtx 1).route with vrfid := 5 }), .queued 1,
          .dequeued 2, .back 2 .success]) ∧
    ∃ w' : World Script,
      goneWorld.AddsOrStops ((mixedQueue.take 2).flatMap (·.marks goneWorld.finalizing) ++
        if goneWorld.finalizing then [.workReady] else []) (.error .outOfFuel : Except Halt Unit) w' ∧
      marks w'.log = [.dequeued 1, .skipKernel 1,
        .asked (some 1) .add (.ipRoute { (routeCtx 1).route with vrfid := 5 })] := by
  have hreturns : Ends ((Callback.process 2 mixedQueue).run 3) keptWorld (.ok ()) _ :=
    ends_of_run (by decide +kernel)
  have hcut : Ends ((Callback.process 2 mixedQueue).run 0) goneWorld (.error .outOfFuel) _ :=
    ends_of_run (by decide +kernel)
  exact ⟨⟨_, process_marks hreturns, by decide +kernel⟩, _, process_marks hcut, by decide +kernel⟩

end DplanePlugin
