/-
  DplanePlugin/Nexthops.lean
  ==========================
  **The next hops of a route.**

  `send_rpc_request_iproute` walks the next-hop group twice: the first pass asks
  whether any next hop is flagged RECURSIVE, and if so the second one sends only
  those.  The walk goes down from a RECURSIVE next hop to the chain it resolves
  to, and ends early at one that resolves to nothing.
-/
import DplanePlugin.Answering

namespace DplanePlugin

open Lib

/-! ### The walk over a group -/

/-- No next hop in a chain of resolved ones is itself flagged RECURSIVE. -/
def FlatChains (ng : List Nexthop) : Prop :=
  ∀ nh ∈ ng, ∀ a ∈ nh.resolved, a.flags.recursive = false

/-- The top-level next hops that the walk reaches: up to the first one flagged
    RECURSIVE that resolves to nothing. -/
def reachedNexthops : List Nexthop → List Nexthop
  | [] => []
  | nh :: rest =>
    nh :: if nh.attrs.flags.recursive ∧ nh.resolved = [] then [] else reachedNexthops rest

/-- What the walk visits of a top-level next hop. -/
def Nexthop.visited (nh : Nexthop) : List NexthopAttrs :=
  nh.attrs :: if nh.attrs.flags.recursive then nh.resolved else []

theorem walkResolved_of_flat {chain : List NexthopAttrs}
    (h : ∀ a ∈ chain, a.flags.recursive = false) : walkResolved chain = (chain, false) := by
  induction chain with
  | nil => rfl
  | cons a rest ih =>
    rcases List.forall_mem_cons.mp h with ⟨ha, hrest⟩
    rw [walkResolved, ha, if_neg Bool.false_ne_true, ih hrest]

theorem allNexthops_eq_flatMap {ng : List Nexthop} (h : FlatChains ng) :
    allNexthops ng = (reachedNexthops ng).flatMap Nexthop.visited := by
  induction ng with
  | nil => rfl
  | cons nh rest ih =>
    rcases List.forall_mem_cons.mp h with ⟨hchain, hrest⟩
    rw [allNexthops, reachedNexthops, List.flatMap_cons, Nexthop.visited, ih hrest,
      walkResolved_of_flat hchain]
    by_cases hrec : nh.attrs.flags.recursive = true
    · by_cases hres : nh.resolved = []
      · simp [hrec, hres]
      · simp [hrec, hres]
    · simp [hrec]

theorem reachedNexthops_subset (ng : List Nexthop) : ∀ nh ∈ reachedNexthops ng, nh ∈ ng := by
  induction ng with
  | nil =>
    intro nh hnh
    exact hnh
  | cons first rest ih =>
    intro nh hnh
    rcases List.mem_cons.mp hnh with rfl | hnh
    · exact List.mem_cons_self
    · apply List.mem_cons_of_mem
      split at hnh
      · cases hnh
      · exact ih nh hnh

theorem allNexthops_of_direct {ng : List Nexthop}
    (h : ∀ nh ∈ ng, nh.attrs.flags.recursive = false) : allNexthops ng = ng.map (·.attrs) := by
  induction ng with
  | nil => rfl
  | cons nh rest ih =>
    rcases List.forall_mem_cons.mp h with ⟨hnh, hrest⟩
    rw [allNexthops, hnh, if_neg Bool.false_ne_true, ih hrest, List.map_cons]

theorem FlatChains.reached {ng : List Nexthop} (h : FlatChains ng) :
    FlatChains (reachedNexthops ng) :=
  fun nh hnh => h nh (reachedNexthops_subset ng nh hnh)

/-- The RECURSIVE next hops that the walk visits are top-level ones. -/
theorem filter_recursive_visited {ng : List Nexthop} (h : FlatChains ng)
    (p : NexthopAttrs → Bool) :
    (ng.flatMap Nexthop.visited).filter (fun a => p a && a.flags.recursive) =
      (ng.map (·.attrs)).filter fun a => p a && a.flags.recursive := by
  induction ng with
  | nil => rfl
  | cons nh rest ih =>
    rcases List.forall_mem_cons.mp h with ⟨hchain, hrest⟩
    have hnone : (if nh.attrs.flags.recursive then nh.resolved else []).filter
        (fun a => p a && a.flags.recursive) = [] := by
      apply List.filter_eq_nil_iff.mpr
      intro a ha
      split at ha
      · simp [hchain a ha]
      · cases ha
    rw [List.flatMap_cons, List.filter_append, ih hrest, Nexthop.visited, List.map_cons,
      List.filter_cons, List.filter_cons, hnone]
    split
    · rfl
    · rfl

/-! ### The next hops of the route -/

/-- Only active next hops that the walk visits are sent. -/
theorem iprouteNhops_active {ng : List Nexthop} {x : NextHop} (h : x ∈ iprouteNhops ng) :
    ∃ a ∈ allNexthops ng, a.flags.isActive = true ∧ nhopEncode a = x := by
  rcases List.mem_map.mp h with ⟨a, ha, hx⟩
  rcases List.mem_filter.mp ha with ⟨hmem, hsent⟩
  exact ⟨a, hmem, ((Bool.and_eq_true _ _).mp hsent).1, hx⟩

/-- Without a next hop flagged RECURSIVE, all active ones are sent. -/
theorem iprouteNhops_of_direct {ng : List Nexthop}
    (h : ∀ nh ∈ ng, nh.attrs.flags.recursive = false) :
    iprouteNhops ng = ((ng.map (·.attrs)).filter (·.flags.isActive)).map nhopEncode := by
  have hnone : (ng.map (·.attrs)).any (·.flags.recursive) = false := by
    rw [← Bool.not_eq_true, List.any_eq_true]
    rintro ⟨a, ha, hrec⟩
    rcases List.mem_map.mp ha with ⟨nh, hnh, rfl⟩
    rw [h nh hnh] at hrec
    cases hrec
  rw [iprouteNhops, allNexthops_of_direct h, hnone]
  simp

/-- With one that the walk reaches, the active RECURSIVE ones are sent. -/
theorem iprouteNhops_of_recursive {ng : List Nexthop} (hflat : FlatChains ng) {nh : Nexthop}
    (hnh : nh ∈ reachedNexthops ng) (hrec : nh.attrs.flags.recursive = true) :
    iprouteNhops ng = (((reachedNexthops ng).map (·.attrs)).filter
      fun a => a.flags.isActive && a.flags.recursive).map nhopEncode := by
  have hany : (allNexthops ng).any (·.flags.recursive) = true := by
    rw [allNexthops_eq_flatMap hflat, List.any_eq_true]
    exact ⟨nh.attrs, List.mem_flatMap.mpr ⟨nh, hnh, List.mem_cons_self⟩, hrec⟩
  rw [iprouteNhops, hany, allNexthops_eq_flatMap hflat,
    ← filter_recursive_visited hflat.reached (·.flags.isActive)]
  simp

/-! ### The route that is sent -/

variable {σ : Type} [Os σ]

/-- From `w` to `w'`, a request with a route such that `P` was passed to
    `send_rpc_msg`. -/
def PassesRoute (w w' : World σ) (P : IpRoute → Prop) : Prop :=
  ∃ m route v, w.log ++ [⟨.passed m, v⟩] <+: w'.log ∧ m.msg.request.object = .ipRoute route ∧
    P route

omit [Os σ] in
theorem PassesRoute.imp {w w' : World σ} {P Q : IpRoute → Prop} (h : PassesRoute w w' P)
    (himp : ∀ route, P route → Q route) : PassesRoute w w' Q := by
  rcases h with ⟨m, route, v, hlog, hobject, hP⟩
  exact ⟨m, route, v, hlog, hobject, himp route hP⟩

omit [Os σ] in
/-- One request is passed first. -/
theorem PassesRoute.and {w w' : World σ} {P Q : IpRoute → Prop} (h : PassesRoute w w' P)
    (h' : PassesRoute w w' Q) : PassesRoute w w' fun route => P route ∧ Q route := by
  rcases h with ⟨m, route, v, hlog, hobject, hP⟩
  rcases h' with ⟨m', route', v', hlog', hobject', hQ⟩
  have hsame := (List.prefix_of_prefix_length_le hlog hlog' (by simp)).eq_of_length (by simp)
  have hentry := (List.append_inj' hsame rfl).2
  simp only [List.cons.injEq, Entry.mk.injEq, Obs.passed.injEq, and_true] at hentry
  rcases hentry with ⟨rfl, rfl⟩
  rw [hobject] at hobject'
  cases hobject'
  exact ⟨m, route, v, hlog, hobject, hP, hQ⟩

theorem sendRpcRequestIproute_passes {R : Plugin σ Unit} (hR : Reconnects R) {op : RpcOp}
    (hop : op = .add ∨ op = .del ∨ op = .update) {ctx : ZebraCtx} {w w' : World σ}
    {r : Except Halt Int} (h : Ends (sendRpcRequestIproute R op ctx) w r w') :
    PassesRoute w w' fun route => route.nhops = iprouteNhops ctx.ng := by
  have hconn : op ≠ .connect := by
    rintro rfl
    simp at hop
  have hops : ¬ (op ≠ .add ∧ op ≠ .del ∧ op ≠ .update) := by
    rintro ⟨hadd, hdel, hupdate⟩
    rcases hop with h | h | h
    · exact hadd h
    · exact hdel h
    · exact hupdate h
  rw [sendRpcRequestIproute, if_neg hops] at h
  rcases sendRequest_ends hconn h with ⟨ref, pool, next, -, hpass⟩
  have hm : (requestMsg ref op w.seqnum (.ipRoute
      { tableid := ctx.table, type := encodeRouteType ctx.type, distance := ctx.distance,
        metric := ctx.metric, vrfid := ctx.vrf, len := ctx.dest.prefixlen,
        prefixAddr := ctx.dest.addr.toIpAddress, nhops := iprouteNhops ctx.ng })
      (some ctx.ref)).msg.isConnect = false := by
    rw [← Bool.not_eq_true, requestMsg_isConnect]
    exact hconn
  have hlog := log_prefix_of_leads (sendRpcMsg_cached_refines hR hm [] _ hpass).2
  exact ⟨_, _, _, hlog, rfl, rfl⟩

/-- The route that is sent for a group holds only encodings of active next hops.
    For a group without a next hop flagged RECURSIVE it holds those of all active
    ones, in order; for one in which the walk reaches an active RECURSIVE next hop,
    those of all active RECURSIVE ones that it reaches. -/
theorem route_keeps_paths {op : RpcOp} (hop : op = .add ∨ op = .del ∨ op = .update)
    {ctx : ZebraCtx} (hflat : FlatChains ctx.ng) {n : Nat} {w w' : World σ} {r : Except Halt Int}
    (h : Ends (sendRpcRequestIproute (dpConnect n) op ctx) w r w') :
    PassesRoute w w' fun route =>
      (∀ x ∈ route.nhops, ∃ a ∈ allNexthops ctx.ng, a.flags.isActive = true ∧ nhopEncode a = x) ∧
      ((∀ nh ∈ ctx.ng, nh.attrs.flags.recursive = false) →
        route.nhops = ((ctx.ng.map (·.attrs)).filter (·.flags.isActive)).map nhopEncode) ∧
      (∀ nh ∈ reachedNexthops ctx.ng, nh.attrs.flags.isActive = true →
        nh.attrs.flags.recursive = true → nhopEncode nh.attrs ∈ route.nhops ∧
        route.nhops = (((reachedNexthops ctx.ng).map (·.attrs)).filter
          fun a => a.flags.isActive && a.flags.recursive).map nhopEncode) := by
  apply (sendRpcRequestIproute_passes (dpConnect_refines n) hop h).imp
  intro route hnhops
  rw [hnhops]
  refine ⟨?_, ?_, ?_⟩
  · intro x hx
    exact iprouteNhops_active hx
  · intro hdirect
    exact iprouteNhops_of_direct hdirect
  · intro nh hnh hactive hrec
    have hlist := iprouteNhops_of_recursive hflat hnh hrec
    refine ⟨?_, hlist⟩
    rw [hlist]
    apply List.mem_map_of_mem
    apply List.mem_filter.mpr
    exact ⟨List.mem_map_of_mem hnh, by rw [hactive, hrec]; rfl⟩

/-- The flags of an active next hop. -/
def activeFlags : NexthopFlags := ⟨true, false, false, false⟩

/-- A next hop that resolves to one on interface 3. -/
def viaGateway : Nexthop :=
  ⟨⟨0, 0, .ipv4 0x0a000001, { activeFlags with recursive := true }, none⟩,
    [⟨0, 3, .ipv4Ifindex 0x0a000101, activeFlags, none⟩]⟩

/-- A next hop on interface 4. -/
def viaInterface : Nexthop := ⟨⟨0, 4, .ipv4Ifindex 0x0a000201, activeFlags, none⟩, []⟩

/-- A route over both. -/
def mixedCtx : ZebraCtx := { routeCtx 1 with ng := [viaGateway, viaInterface] }

theorem mixedCtx_flat : FlatChains mixedCtx.ng := by
  unfold FlatChains
  decide

theorem route_keeps_paths_of_mixedCtx :
    PassesRoute connectingWorld
      (StateT.run (ExceptT.run (sendRpcRequestIproute (dpConnect 3) .add mixedCtx))
        connectingWorld).2
      fun route => nhopEncode viaGateway.attrs ∈ route.nhops := by
  have hran := ends_run (sendRpcRequestIproute (dpConnect 3) .add mixedCtx) connectingWorld
  have hpassed := route_keeps_paths (.inl rfl) mixedCtx_flat hran
  exact hpassed.imp fun route h => (h.2.2 viaGateway (by decide) rfl rfl).1

/-- The encoding of each active top-level next hop is in the route, or that of an
    active next hop it resolves to; and every next hop of the route is the encoding
    of an active one. -/
def KeepsPaths (ng : List Nexthop) (route : IpRoute) : Prop :=
  (∀ nh ∈ ng, nh.attrs.flags.isActive = true →
    nhopEncode nh.attrs ∈ route.nhops ∨ nh.attrs.flags.recursive = true ∧
      ∃ a ∈ nh.resolved, a.flags.isActive = true ∧ nhopEncode a ∈ route.nhops) ∧
  ∀ x ∈ route.nhops, ∃ a ∈ allNexthops ng, a.flags.isActive = true ∧ nhopEncode a = x

/-- The path over interface 4 is left out. -/
theorem path_left_out :
    ¬ ∀ (n : Nat) (ctx : ZebraCtx) (w w' : World Script) (r : Except Halt Int), FlatChains ctx.ng →
      Ends (sendRpcRequestIproute (dpConnect n) .add ctx) w r w' →
        PassesRoute w w' (KeepsPaths ctx.ng) := by
  intro hall
  have hran := ends_run (sendRpcRequestIproute (dpConnect 3) .add mixedCtx) connectingWorld
  have hkeeps := hall 3 mixedCtx _ _ _ mixedCtx_flat hran
  have hnhops := sendRpcRequestIproute_passes (dpConnect_refines 3) (.inl rfl) hran
  rcases hkeeps.and hnhops with ⟨m, route, v, -, -, ⟨hkept, -⟩, hlist⟩
  have hpath := hkept viaInterface (by decide) rfl
  rw [hlist] at hpath
  revert hpath
  decide

end DplanePlugin
