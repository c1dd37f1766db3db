/-
  DplanePlugin/Alignment.lean
  ===========================
  **The requests in flight, and the answers to come.**

  The plugin matches responses with requests by their position alone.  `Agrees`
  says how the in-flight list of the plugin and the dataplane of `Dataplane.lean`
  fit together: which requests in flight will be answered, in which order, and
  what an answer to a Connect tells of the incarnation that died meanwhile.  Each
  thing that the two sides do keeps it.
-/
import DplanePlugin.Dataplane
import DplanePlugin.Answering

namespace DplanePlugin

open Lib

/-! ### The answers to come -/

/-- The answers to come to some requests in flight, the first of which has the
    number `b`: to the first so many of them; or so, and then to a Connect, which is
    the last. The requests that are skipped were lost with an incarnation. -/
inductive Expected (b : Nat) (inFlight : List DpMsg) (is : List Nat) : Prop
  | first (his : is <+: List.range' b inFlight.length)
  | connect {rest : List DpMsg} {m : DpMsg} {l : List Nat} (hq : inFlight = rest ++ [m])
      (hm : m.msg.isConnect = true) (hl : l <+: List.range' b rest.length)
      (his : is = l ++ [b + rest.length])

section Expected
variable {b : Nat} {inFlight : List DpMsg} {is : List Nat}

theorem expected_nil : Expected b inFlight [] :=
  .first List.nil_prefix

theorem Expected.eq_nil (h : Expected b [] is) : is = [] := by
  cases h with
  | first his => exact List.prefix_nil.mp his
  | connect hq => simp at hq

/-- The last answers to come were lost. -/
theorem Expected.of_prefix {is' : List Nat} (h : Expected b inFlight is) (hle : is' <+: is) :
    Expected b inFlight is' := by
  cases h with
  | first his => exact .first (hle.trans his)
  | @connect rest m l hq hm hl his =>
    rw [his] at hle
    rcases List.prefix_concat_iff.mp hle with rfl | hle
    · exact .connect hq hm hl rfl
    · refine .first ((hle.trans hl).trans ?_)
      rw [hq, List.length_append, List.length_singleton, List.range'_1_concat]
      exact List.prefix_append _ _

/-- The next answer is to the oldest request; or it is the last one, to a Connect. -/
theorem Expected.head {i : Nat} (h : Expected b inFlight (i :: is)) :
    (i = b ∧ inFlight ≠ []) ∨
      (is = [] ∧ ∃ rest m, inFlight = rest ++ [m] ∧ m.msg.isConnect = true ∧
        i = b + rest.length) := by
  cases h with
  | first his =>
    cases inFlight with
    | nil => cases List.prefix_nil.mp his
    | cons m rest =>
      rw [List.length_cons, List.range'_succ, List.cons_prefix_cons] at his
      exact .inl ⟨his.1, List.cons_ne_nil m rest⟩
  | @connect rest m l hq hm hl his =>
    cases l with
    | nil =>
      rcases List.cons.inj his with ⟨hi, rfl⟩
      exact .inr ⟨rfl, rest, m, hq, hm, hi⟩
    | cons i' l =>
      obtain rfl : i = i' := (List.cons.inj his).1
      cases rest with
      | nil => cases List.prefix_nil.mp hl
      | cons m' rest =>
        rw [List.length_cons, List.range'_succ, List.cons_prefix_cons] at hl
        exact .inl ⟨hl.1, by simp [hq]⟩

/-- The oldest request was answered. -/
theorem Expected.pop {m : DpMsg} {rest : List DpMsg} (h : Expected b (m :: rest) (b :: is)) :
    Expected (b + 1) rest is := by
  cases h with
  | first his =>
    rw [List.length_cons, List.range'_succ, List.cons_prefix_cons] at his
    exact .first his.2
  | @connect rest' m' l hq hm hl his =>
    cases rest' with
    | nil =>
      obtain rfl := List.prefix_nil.mp hl
      obtain rfl := (List.cons.inj his).2
      exact expected_nil
    | cons x rest' =>
      obtain rfl : rest = rest' ++ [m'] := (List.cons.inj hq).2
      cases l with
      | nil =>
        have hb := (List.cons.inj his).1
        rw [List.length_cons] at hb
        omega
      | cons i l =>
        rw [List.length_cons, List.range'_succ, List.cons_prefix_cons] at hl
        refine .connect rfl hm hl.2 ?_
        have hlast : is = l ++ [b + (rest'.length + 1)] := (List.cons.inj his).2
        rw [hlast, Nat.add_right_comm, Nat.add_assoc]

/-- A Connect is sent, and no other is in flight. -/
theorem Expected.push_connect (h : Expected b inFlight is) (hno : NoConnect inFlight) {m : DpMsg}
    (hm : m.msg.isConnect = true) :
    Expected b (inFlight ++ [m]) (is ++ [b + inFlight.length]) := by
  cases h with
  | first his => exact .connect rfl hm his rfl
  | @connect rest m' l hq hm' hl his =>
    have hnot := hno m' (by simp [hq])
    rw [hm'] at hnot
    cases hnot

end Expected

/-! ### The two sides -/

/-- What of the plugin's state the dataplane's has to agree with: readiness, the
    connection, the sync token, the requests that were in flight and those that are,
    and the responses on which calls are in progress. -/
structure Party where
  ready : Bool
  connected : Bool
  synt : UInt64
  done : List DpMsg
  inFlight : List DpMsg
  held : List RpcResponse

/-- The requests whose answers the plugin can read, and those still to be answered. -/
def Dataplane.pending (p : Dataplane) : List Nat := p.rx.map (·.1) ++ p.inbox.map (·.1)

/-- `g` is an incarnation that the plugin was ready with last: it is so still; or it
    connected to a later one since; or `g` is no longer up. -/
def Party.LastReady (a : Party) (p : Dataplane) (g : Nat) : Prop :=
  if a.ready then p.link = some g
  else if a.connected then ∃ k, p.link = some k ∧ g < k
  else p.current ≠ some g

/-- The answers that the plugin has yet to handle, the first ones those to the
    requests `known`, which it holds already. -/
structure Arriving (a : Party) (p : Dataplane) (known : List (Nat × RpcResponse)) : Prop where
  held : known.map (·.2) = a.held
  fits : ∀ x ∈ known, p.Fits x.1 x.2
  expected : Expected a.done.length a.inFlight (known.map (·.1) ++ p.pending)
  all : a.ready = true → p.Up →
    known.map (·.1) ++ p.pending = List.range' a.done.length a.inFlight.length

/-- How the plugin and the dataplane fit together. -/
structure Agrees (a : Party) (p : Dataplane) : Prop where
  sound : p.Sound
  received : p.receipts.map (·.2) = (a.done ++ a.inFlight).map (·.msg)
  down : a.connected = false → ¬ p.Up
  inbox : p.inbox ≠ [] → p.Up
  answers : ∃ known, Arriving a p known
  token : a.synt = 0 ∨ ∃ g, p.synts.list[g]? = some a.synt ∧ a.LastReady p g
  nonzero : a.ready = true ∨ (∃ m ∈ a.inFlight, m.msg.isConnect = false) → a.synt ≠ 0
  older : ∀ r ∈ p.receipts.drop a.done.length, r.2.isConnect = false → a.LastReady p r.1
  connecting : ∀ r ∈ p.receipts.drop a.done.length, r.2.isConnect = true → p.link = some r.1

/-- Before the plugin sent anything. -/
theorem Dataplane.Fresh.agrees {p : Dataplane} (h : p.Fresh) :
    Agrees ⟨false, false, 0, [], [], []⟩ p where
  sound := h.sound
  received := by simp [h.receipts]
  down := by simp [Dataplane.Up, h.link]
  inbox := by simp [h.inbox]
  answers := by
    have hnone : p.pending = [] := by simp [Dataplane.pending, h.rx, h.inbox]
    refine ⟨[], rfl, by simp, ?_, by simp⟩
    rw [hnone]
    exact expected_nil
  token := .inl rfl
  nonzero := by simp
  older := by simp [h.receipts]
  connecting := by simp [h.receipts]

section Receipts
variable {a : Party} {p : Dataplane} (ha : Agrees a p)
include ha

theorem Agrees.length : p.receipts.length = a.done.length + a.inFlight.length := by
  simpa using congrArg List.length ha.received

/-- The requests in flight are the last ones received. -/
theorem Agrees.receipts_drop :
    (p.receipts.drop a.done.length).map (·.2) = a.inFlight.map (·.msg) := by
  rw [List.map_drop, ha.received, ← List.map_drop, List.drop_left]

theorem Agrees.receipt {j : Nat} {m : DpMsg} (hm : a.inFlight[j]? = some m) :
    ∃ g, p.receipts[a.done.length + j]? = some (g, m.msg) ∧
      (g, m.msg) ∈ p.receipts.drop a.done.length := by
  have hat := congrArg (fun l => l[j]?) ha.receipts_drop
  simp only [List.getElem?_map, hm, Option.map_some] at hat
  rcases Option.map_eq_some_iff.mp hat with ⟨⟨g, msg⟩, hr, rfl⟩
  refine ⟨g, ?_, List.mem_of_getElem? hr⟩
  rwa [List.getElem?_drop] at hr

theorem Agrees.not_isConnect (hno : NoConnect a.inFlight) {r : Nat × RpcMsg}
    (hr : r ∈ p.receipts.drop a.done.length) : r.2.isConnect = false := by
  have hmem : r.2 ∈ a.inFlight.map (·.msg) := ha.receipts_drop ▸ List.mem_map_of_mem hr
  rcases List.mem_map.mp hmem with ⟨m, hm, heq⟩
  rw [← heq]
  exact hno m hm

end Receipts

/-! ### What the dataplane does -/

section Steps
variable {p p' : Dataplane} (h : p.Steps p')
include h

theorem Dataplane.Steps.link : p'.link = p.link := by
  cases h <;> rfl

theorem Dataplane.Steps.receipts : p'.receipts = p.receipts := by
  cases h <;> rfl

/-- An incarnation that starts is not the one that the plugin is connected to. -/
theorem Dataplane.Steps.up (hp : p.Sound) (hup : p'.Up) : p.Up := by
  rcases hup with ⟨k, hlink, hcurrent⟩
  cases h with
  | idle | answer => exact ⟨k, hlink, hcurrent⟩
  | crash => cases hcurrent
  | start hdown hsynts =>
    have hlt := hp.link k hlink
    have hk := Option.some.inj hcurrent
    omega

/-- A crash loses the last answers to come. -/
theorem Dataplane.Steps.pending : p'.pending <+: p.pending := by
  cases h with
  | idle | start => exact List.prefix_rfl
  | crash => simp [Dataplane.pending]
  | answer hup hinbox => simp [Dataplane.pending, hinbox]

theorem Dataplane.Steps.pending_of_up (hup : p'.Up) : p'.pending = p.pending := by
  rcases hup with ⟨k, -, hcurrent⟩
  cases h with
  | idle | start => rfl
  | crash => cases hcurrent
  | answer hup hinbox => simp [Dataplane.pending, hinbox]

theorem Dataplane.Steps.inbox (hinbox : p.inbox ≠ [] → p.Up) (hne : p'.inbox ≠ []) : p'.Up := by
  cases h with
  | idle => exact hinbox hne
  | crash => exact absurd rfl hne
  | start hdown hsynts =>
    rcases hinbox hne with ⟨k, -, hcurrent⟩
    rw [hdown] at hcurrent
    cases hcurrent
  | answer hup heq => exact hinbox (by simp [heq])

theorem Dataplane.Steps.current_ne {g : Nat} (hg : g < p.synts.list.length)
    (hne : p.current ≠ some g) : p'.current ≠ some g := by
  cases h with
  | idle | answer => exact hne
  | crash => simp
  | start hdown hsynts =>
    intro heq
    have hlt := Option.some.inj heq
    omega

theorem Party.LastReady.steps {a : Party} {g : Nat} (hg : g < p.synts.list.length)
    (hlast : a.LastReady p g) : a.LastReady p' g := by
  rw [Party.LastReady] at hlast ⊢
  rw [h.link]
  split
  · rwa [if_pos ‹_›] at hlast
  rw [if_neg ‹_›] at hlast
  split
  · rwa [if_pos ‹_›] at hlast
  · rw [if_neg ‹_›] at hlast
    exact h.current_ne hg hlast

theorem Dataplane.Steps.agrees {a : Party} (ha : Agrees a p) : Agrees a p' := by
  have hgrow := h.grows
  have hreceipts := h.receipts
  have hold {r : Nat × RpcMsg} (hr : r ∈ p'.receipts.drop a.done.length) :
      r ∈ p.receipts.drop a.done.length ∧ r.1 < p.synts.list.length := by
    rw [hreceipts] at hr
    exact ⟨hr, ha.sound.receipts r (List.mem_of_mem_drop hr)⟩
  constructor
  · exact h.sound ha.sound
  · rw [hreceipts]
    exact ha.received
  · exact fun hconn hup => ha.down hconn (h.up ha.sound hup)
  · exact h.inbox ha.inbox
  · rcases ha.answers with ⟨known, hheld, hfits, hexpected, hall⟩
    refine ⟨known, hheld, fun x hx => (hfits x hx).grow hgrow, ?_, ?_⟩
    · exact hexpected.of_prefix ((List.prefix_append_right_inj _).mpr h.pending)
    · intro hready hup
      rw [h.pending_of_up hup]
      exact hall hready (h.up ha.sound hup)
  · refine ha.token.imp_right ?_
    rintro ⟨g, hsynt, hlast⟩
    exact ⟨g, getElem?_of_prefix hgrow.synts hsynt,
      hlast.steps h (List.getElem?_eq_some_iff.mp hsynt).1⟩
  · exact ha.nonzero
  · intro r hr hm
    exact (ha.older r (hold hr).1 hm).steps h (hold hr).2
  · intro r hr hm
    rw [h.link]
    exact ha.connecting r (hold hr).1 hm

end Steps

/-! ### The connection -/

section Connection
variable {a : Party} {p : Dataplane} (ha : Agrees a p)
include ha

/-- A `send()` failed with a connection error. -/
theorem Agrees.disconnect (hdown : ¬ p.Up) :
    Agrees { a with ready := false, connected := false } p := by
  have hlast {g : Nat} (hg : g < p.synts.list.length) (h : a.LastReady p g) :
      Party.LastReady { a with ready := false, connected := false } p g := by
    have hne : p.current ≠ some g := by
      intro hcurrent
      rw [Party.LastReady] at h
      split at h
      · exact hdown ⟨g, h, hcurrent⟩
      split at h
      · rcases h with ⟨k, hlink, hgk⟩
        have hlt := ha.sound.link k hlink
        have hlen := ha.sound.current g hcurrent
        omega
      · exact h hcurrent
    exact hne
  refine ⟨ha.sound, ha.received, fun _ => hdown, ha.inbox, ?_, ?_, ?_, ?_, ha.connecting⟩
  · rcases ha.answers with ⟨known, hheld, hfits, hexpected, -⟩
    exact ⟨known, hheld, hfits, hexpected, nofun⟩
  · refine ha.token.imp_right ?_
    rintro ⟨g, hsynt, h⟩
    exact ⟨g, hsynt, hlast (List.getElem?_eq_some_iff.mp hsynt).1 h⟩
  · exact fun hor => ha.nonzero (.inr (hor.resolve_left nofun))
  · exact fun r hr hm => hlast (ha.sound.receipts r (List.mem_of_mem_drop hr)) (ha.older r hr hm)

/-- The plugin, disconnected, has opened another socket. -/
theorem Agrees.cut (hready : a.ready = false) (hconn : a.connected = false)
    (hno : NoConnect a.inFlight) : Agrees a p.cut := by
  have hinbox : p.inbox = [] := by
    by_contra hne
    exact ha.down hconn (ha.inbox hne)
  have hlast {g : Nat} (h : a.LastReady p g) : a.LastReady p.cut g := by
    simp only [Party.LastReady, hready, hconn, Bool.false_eq_true, if_false] at h ⊢
    exact h
  refine ⟨ha.sound.cut, ha.received, ?_, ?_, ?_, ?_, ha.nonzero, ?_, ?_⟩
  · simp [Dataplane.Up, Dataplane.cut]
  · exact fun hne => absurd hinbox hne
  · rcases ha.answers with ⟨known, hheld, hfits, hexpected, -⟩
    refine ⟨known, hheld, fun x hx => (hfits x hx).grow ?_, ?_, by simp [hready]⟩
    · exact ⟨List.prefix_rfl, List.prefix_rfl, List.prefix_rfl⟩
    · apply hexpected.of_prefix
      simp [Dataplane.pending, Dataplane.cut, hinbox]
  · refine ha.token.imp_right ?_
    rintro ⟨g, hsynt, h⟩
    exact ⟨g, hsynt, hlast h⟩
  · exact fun r hr hm => hlast (ha.older r hr hm)
  · intro r hr hm
    have hnot := ha.not_isConnect hno hr
    rw [hm] at hnot
    cases hnot

/-- `connect()` succeeded. -/
theorem Agrees.connect {k : Nat} (hready : a.ready = false) (hconn : a.connected = false)
    (hno : NoConnect a.inFlight) (hk : p.current = some k) :
    Agrees { a with connected := true } { p with link := some k } := by
  have hlen := ha.sound.current k hk
  have hlast {g : Nat} (hg : g < p.synts.list.length) (h : a.LastReady p g) :
      Party.LastReady { a with connected := true } { p with link := some k } g := by
    simp only [Party.LastReady, hready, hconn, Bool.false_eq_true, if_false, if_true] at h ⊢
    refine ⟨k, rfl, ?_⟩
    have hne : k ≠ g := fun heq => h (heq ▸ hk)
    omega
  refine ⟨ha.sound.connect hk, ha.received, nofun, fun _ => ⟨k, rfl, hk⟩, ?_, ?_, ha.nonzero, ?_, ?_⟩
  · rcases ha.answers with ⟨known, hheld, hfits, hexpected, -⟩
    refine ⟨known, hheld, fun x hx => (hfits x hx).grow ?_, hexpected, by simp [hready]⟩
    exact ⟨List.prefix_rfl, List.prefix_rfl, List.prefix_rfl⟩
  · refine ha.token.imp_right ?_
    rintro ⟨g, hsynt, h⟩
    exact ⟨g, hsynt, hlast (List.getElem?_eq_some_iff.mp hsynt).1 h⟩
  · exact fun r hr hm => hlast (ha.sound.receipts r (List.mem_of_mem_drop hr)) (ha.older r hr hm)
  · intro r hr hm
    have hnot := ha.not_isConnect hno hr
    rw [hm] at hnot
    cases hnot

/-- A response was read, and no other is being handled. -/
theorem Agrees.recv {i : Nat} {resp : RpcResponse} {rest : List (Nat × RpcResponse)}
    (hheld : a.held = []) (hrx : p.rx = (i, resp) :: rest) :
    Agrees { a with held := [resp] } { p with rx := rest } := by
  refine ⟨ha.sound.recv hrx, ha.received, ha.down, ha.inbox, ?_, ha.token, ha.nonzero, ha.older,
    ha.connecting⟩
  rcases ha.answers with ⟨known, hknown, -, hexpected, hall⟩
  rw [hheld, List.map_eq_nil_iff] at hknown
  subst hknown
  have hpending : p.pending = i :: Dataplane.pending { p with rx := rest } := by
    simp [Dataplane.pending, hrx]
  rw [hpending] at hexpected hall
  refine ⟨[(i, resp)], rfl, ?_, hexpected, hall⟩
  intro x hx
  rw [List.mem_singleton.mp hx]
  have hfits := ha.sound.rx (i, resp) (hrx ▸ List.mem_cons_self)
  exact hfits.grow ⟨List.prefix_rfl, List.prefix_rfl, List.prefix_rfl⟩

/-- A request was sent to the incarnation that is up: a Connect when none is in
    flight, or one for a context when the plugin is ready. -/
theorem Agrees.send {k : Nat} {m : DpMsg} (hlink : p.link = some k) (hk : p.current = some k)
    (hreq : m.msg.type = .request)
    (hm : (m.msg.isConnect = true ∧ a.ready = false ∧ NoConnect a.inFlight) ∨
      (m.msg.isConnect = false ∧ a.ready = true ∧ a.synt ≠ 0)) :
    Agrees { a with inFlight := a.inFlight ++ [m] } (p.receive k m.msg) := by
  have hsound := ha.sound.receive hk m.msg
  have hgrow := p.grows_receive k m.msg
  rw [Dataplane.receive, if_pos hreq] at hsound hgrow ⊢
  have hup : p.Up := ⟨k, hlink, hk⟩
  have hdrop : (p.receipts ++ [(k, m.msg)]).drop a.done.length =
      p.receipts.drop a.done.length ++ [(k, m.msg)] := by
    rw [List.drop_append_of_le_length]
    rw [ha.length]
    exact Nat.le_add_right _ _
  have hpending : Dataplane.pending { p with
      receipts := p.receipts ++ [(k, m.msg)],
      inbox := p.inbox ++ [(p.receipts.length, m.msg)] } =
      p.pending ++ [a.done.length + a.inFlight.length] := by
    simp [Dataplane.pending, ha.length]
  refine ⟨hsound, ?_, fun hconn _ => ha.down hconn hup, fun _ => hup, ?_, ha.token, ?_, ?_, ?_⟩
  · simp [ha.received]
  · rcases ha.answers with ⟨known, hheld, hfits, hexpected, hall⟩
    refine ⟨known, hheld, fun x hx => (hfits x hx).grow hgrow, ?_, ?_⟩
    · rw [hpending, ← List.append_assoc]
      rcases hm with ⟨hconn, -, hno⟩ | ⟨-, hready, -⟩
      · exact hexpected.push_connect hno hconn
      · rw [hall hready hup, ← List.range'_1_concat]
        apply Expected.first
        have hlen : (a.inFlight ++ [m]).length = a.inFlight.length + 1 := by simp
        exact hlen ▸ List.prefix_rfl
    · intro hready _
      rw [hpending, ← List.append_assoc, hall hready hup, ← List.range'_1_concat,
        List.length_append, List.length_singleton]
  · rcases hm with ⟨hconn, hready, hno⟩ | ⟨-, -, hsynt⟩
    · rintro (hnot | ⟨m', hm', hnot⟩)
      · rw [hready] at hnot
        cases hnot
      · rcases List.mem_append.mp hm' with hold | hnew
        · exact ha.nonzero (.inr ⟨m', hold, hnot⟩)
        · rw [List.mem_singleton.mp hnew, hconn] at hnot
          cases hnot
    · exact fun _ => hsynt
  · intro r hr hnot
    rw [hdrop] at hr
    rcases List.mem_append.mp hr with hold | hnew
    · exact ha.older r hold hnot
    · obtain rfl := List.mem_singleton.mp hnew
      rcases hm with ⟨hconn, -, -⟩ | ⟨-, hready, -⟩
      · rw [hconn] at hnot
        cases hnot
      · rw [Party.LastReady, if_pos (by exact hready)]
        exact hlink
  · intro r hr hconn
    rw [hdrop] at hr
    rcases List.mem_append.mp hr with hold | hnew
    · exact ha.connecting r hold hconn
    · rw [List.mem_singleton.mp hnew]
      exact hlink

end Connection

/-! ### Handling a response -/

section Handling
variable {a : Party} {p : Dataplane} (ha : Agrees a p)
include ha

/-- What the response that is being handled answers. -/
theorem Agrees.next {resp : RpcResponse} (hheld : a.held = [resp]) :
    ∃ i, p.Fits i resp ∧ Expected a.done.length a.inFlight (i :: p.pending) ∧
      (a.ready = true → p.Up → i :: p.pending = List.range' a.done.length a.inFlight.length) := by
  rcases ha.answers with ⟨known, hknown, hfits, hexpected, hall⟩
  rw [hheld] at hknown
  rcases List.map_eq_singleton_iff.mp hknown with ⟨⟨i, resp'⟩, rfl, rfl⟩
  exact ⟨i, hfits _ List.mem_cons_self, hexpected, hall⟩

/-- An answer to a request in flight. -/
theorem Agrees.fits_msg {j : Nat} {m : DpMsg} {resp : RpcResponse}
    (hm : a.inFlight[j]? = some m) (hfits : p.Fits (a.done.length + j) resp) :
    resp.op = m.msg.request.op ∧ resp.seqn = m.msg.request.seqn ∧
      (m.msg.request.op = .connect → resp.rescode = .ok) := by
  rcases ha.receipt hm with ⟨g, hat, -⟩
  rcases hfits.receipt with ⟨k, msg, hreceipt, hop, hseqn, hconn⟩
  rw [hat] at hreceipt
  cases hreceipt
  exact ⟨hop, hseqn, fun hc => (hconn hc).1⟩

/-- The answer to a Connect in flight holds the token of the incarnation that the
    plugin is connected to. -/
theorem Agrees.fits_connect {j : Nat} {m : DpMsg} {resp : RpcResponse}
    (hm : a.inFlight[j]? = some m) (hconn : m.msg.isConnect = true)
    (hfits : p.Fits (a.done.length + j) resp) :
    ∃ k info, p.receipts[a.done.length + j]? = some (k, m.msg) ∧ p.link = some k ∧
      resp.objects = some info ∧ p.synts.list[k]? = some info.synt := by
  rcases ha.receipt hm with ⟨g, hat, hmem⟩
  rcases hfits.receipt with ⟨k, msg, hreceipt, -, -, hanswer⟩
  rw [hat] at hreceipt
  cases hreceipt
  rcases hanswer ((RpcMsg.isConnect_iff _).mp hconn).2 with ⟨-, info, hobjects, hsynt⟩
  exact ⟨_, info, hat, ha.connecting _ hmem hconn, hobjects, hsynt⟩

/-- An answer to a Connect that comes while older requests are in flight is the
    answer of a later incarnation. -/
theorem Agrees.restart {rest : List DpMsg} {m : DpMsg} {resp : RpcResponse}
    (hq : a.inFlight = rest ++ [m]) (hm : m.msg.isConnect = true) (hne : rest ≠ [])
    (hno : NoConnect rest) (hconn : a.connected = true) (hready : a.ready = false)
    (hfits : p.Fits (a.done.length + rest.length) resp) : Restart resp a.synt := by
  have hat : a.inFlight[rest.length]? = some m := by simp [hq]
  have hold : ∃ m' ∈ a.inFlight, m'.msg.isConnect = false := by
    rcases List.exists_mem_of_ne_nil rest hne with ⟨m', hm'⟩
    exact ⟨m', by simp [hq, hm'], hno m' hm'⟩
  have hsynt := ha.nonzero (.inr hold)
  rcases ha.token.resolve_left hsynt with ⟨g, htoken, hlast⟩
  rw [Party.LastReady, hready, hconn, if_neg Bool.false_ne_true, if_pos rfl] at hlast
  rcases hlast with ⟨k, hlink, hgk⟩
  rcases ha.fits_connect hat hm hfits with ⟨k', info, -, hlink', hobjects, hinfo⟩
  obtain rfl : k = k' := Option.some.inj (hlink.symm.trans hlink')
  refine ⟨?_, hsynt, info, hobjects, ?_⟩
  · rw [(ha.fits_msg hat hfits).1]
    exact ((RpcMsg.isConnect_iff _).mp hm).2
  · intro heq
    rw [heq, ← htoken] at hinfo
    have hlt := (List.getElem?_eq_some_iff.mp htoken).1
    have hsame := (List.getElem?_inj hlt p.synts.distinct).mp hinfo.symm
    omega

/-- The oldest request in flight was answered; what is to come answers the others. -/
theorem Agrees.pop {m : DpMsg} {rest : List DpMsg} (hq : a.inFlight = m :: rest)
    (hexpected : Expected (a.done.length + 1) rest p.pending)
    (hall : a.ready = true → p.Up → p.pending = List.range' (a.done.length + 1) rest.length) :
    Agrees { a with done := a.done ++ [m], inFlight := rest, held := [] } p := by
  have hlen : (a.done ++ [m]).length = a.done.length + 1 := by simp
  have hsub : (p.receipts.drop (a.done ++ [m]).length).Sublist (p.receipts.drop a.done.length) := by
    rw [hlen]
    exact List.drop_sublist_drop_left _ (Nat.le_succ _)
  refine ⟨ha.sound, ?_, ha.down, ha.inbox, ?_, ha.token, ?_, ?_, ?_⟩
  · rw [ha.received, hq, List.append_assoc]
    rfl
  · refine ⟨[], rfl, nofun, ?_, ?_⟩
    · rw [hlen]
      exact hexpected
    · rw [hlen]
      exact hall
  · intro hor
    refine ha.nonzero (hor.imp_right ?_)
    rintro ⟨m', hm', hnot⟩
    exact ⟨m', hq ▸ List.mem_cons_of_mem m hm', hnot⟩
  · exact fun r hr => ha.older r (hsub.subset hr)
  · exact fun r hr => ha.connecting r (hsub.subset hr)

/-- A response that reports no restart answers the oldest request. -/
theorem Agrees.oldest {resp : RpcResponse} {timer : Bool} {sock : Int} (hheld : a.held = [resp])
    (hs : Handshake a.ready a.connected timer sock a.inFlight)
    (hsynt : reportsRestart resp a.synt = false) :
    ∃ m rest, a.inFlight = m :: rest ∧ p.Fits a.done.length resp ∧
      Expected (a.done.length + 1) rest p.pending ∧
      (a.ready = true → p.Up → p.pending = List.range' (a.done.length + 1) rest.length) := by
  rcases ha.next hheld with ⟨i, hfits, hexpected, hall⟩
  rcases hexpected.head with ⟨rfl, hne⟩ | ⟨hpending, rest, m, hq, hm, rfl⟩
  · rcases List.exists_cons_of_ne_nil hne with ⟨m, rest, hq⟩
    rw [hq] at hexpected hall
    refine ⟨m, rest, hq, hfits, hexpected.pop, ?_⟩
    intro hready hup
    have hrange := hall hready hup
    rw [List.length_cons, List.range'_succ] at hrange
    exact (List.cons.inj hrange).2
  · cases rest with
    | nil => exact ⟨m, [], hq, hfits, hpending ▸ expected_nil, fun _ _ => hpending⟩
    | cons x rest =>
      rcases hs.of_connect (hq ▸ List.mem_append_right _ List.mem_cons_self) hm with
        ⟨hconn, hready, -⟩
      have hno : NoConnect (x :: rest) := by
        have hlast := hs.last
        rwa [hq, List.dropLast_concat] at hlast
      have hrestart := ha.restart hq hm (List.cons_ne_nil x rest) hno hconn hready hfits
      rw [(reportsRestart_iff _ _).mpr hrestart] at hsynt
      cases hsynt

/-- `recover_request` finds the request that the response answers. -/
theorem Agrees.expected_of_oldest {m : DpMsg} {rest : List DpMsg} {resp : RpcResponse}
    {timer : Bool} {sock : Int} (hheld : a.held = [resp])
    (hs : Handshake a.ready a.connected timer sock a.inFlight)
    (hsynt : reportsRestart resp a.synt = false) (hq : a.inFlight = m :: rest) :
    gotExpectedResponse resp m.msg.request = true := by
  rcases ha.oldest hheld hs hsynt with ⟨m', rest', hq', hfits, -⟩
  cases hq.symm.trans hq'
  have hat : a.inFlight[0]? = some m := by simp [hq]
  rcases ha.fits_msg hat hfits with ⟨hop, hseqn, -⟩
  exact (gotExpectedResponse_iff _ _).mpr ⟨hseqn, hop⟩

/-- The purge handles the answer to the last request, a Connect, and nothing is to
    come after it. -/
structure Purges (a : Party) (p : Dataplane) (resp : RpcResponse) : Prop where
  pending : p.pending = []
  last : a.inFlight = [] ∨ ∃ rest m, a.inFlight = rest ++ [m] ∧ m.msg.isConnect = true ∧
    p.Fits (a.done.length + rest.length) resp

/-- A response that reports a restart answers the last request, a Connect. -/
theorem Agrees.purge {resp : RpcResponse} {timer : Bool} {sock : Int} (hheld : a.held = [resp])
    (hs : Handshake a.ready a.connected timer sock a.inFlight)
    (htype : ∀ m ∈ a.inFlight, m.msg.type = .request)
    (hsynt : reportsRestart resp a.synt = true) : Purges a p resp := by
  rcases ha.next hheld with ⟨i, hfits, hexpected, -⟩
  rcases hexpected.head with ⟨rfl, hne⟩ | ⟨hpending, rest, m, hq, hm, rfl⟩
  · rcases List.exists_cons_of_ne_nil hne with ⟨m, rest, hq⟩
    have hop := ((reportsRestart_iff _ _).mp hsynt).1
    have hat : a.inFlight[0]? = some m := by simp [hq]
    rw [(ha.fits_msg hat hfits).1] at hop
    have hm : m.msg.isConnect = true :=
      (RpcMsg.isConnect_iff _).mpr ⟨htype m (hq ▸ List.mem_cons_self), hop⟩
    obtain rfl := hs.only_connect hq hm
    rw [hq] at hexpected
    exact ⟨hexpected.pop.eq_nil, .inr ⟨[], m, hq, hm, hfits⟩⟩
  · exact ⟨hpending, .inr ⟨rest, m, hq, hm, hfits⟩⟩

/-- A Connect, the only request in flight, was answered. -/
theorem Agrees.accept {m : DpMsg} {resp : RpcResponse} (hq : a.inFlight = [m])
    (hm : m.msg.isConnect = true) (hpending : p.pending = []) (hfits : p.Fits a.done.length resp)
    (hconn : a.connected = true) :
    Agrees { a with
      ready := true, synt := (resp.objects.map (·.synt)).getD a.synt,
      done := a.done ++ [m], inFlight := [], held := [] } p := by
  have hat : a.inFlight[0]? = some m := by simp [hq]
  rcases ha.fits_connect hat hm hfits with ⟨k, info, -, hlink, hobjects, hsynt⟩
  have hpop := ha.pop hq (hpending ▸ expected_nil) fun _ _ => hpending
  have hdrop : p.receipts.drop (a.done ++ [m]).length = [] := by
    rw [List.drop_eq_nil_iff, ha.length, hq]
    simp
  rw [hobjects]
  refine ⟨ha.sound, hpop.received, ?_, ha.inbox, ?_, ?_, ?_, ?_, ?_⟩
  · intro hdown
    rw [hconn] at hdown
    cases hdown
  · refine ⟨[], rfl, nofun, ?_, fun _ _ => hpending⟩
    exact hpending ▸ expected_nil
  · exact .inr ⟨k, hsynt, hlink⟩
  · intro _ hzero
    exact p.synts.nonzero (hzero ▸ List.mem_of_getElem? hsynt)
  · intro r hr
    rw [hdrop] at hr
    cases hr
  · intro r hr
    rw [hdrop] at hr
    cases hr

omit ha in
/-- While the purge has requests to answer, the plugin is not ready. -/
theorem Purges.not_ready {resp : RpcResponse} {timer : Bool} {sock : Int} (h : Purges a p resp)
    (hs : Handshake a.ready a.connected timer sock a.inFlight) (hne : a.inFlight ≠ []) :
    a.connected = true ∧ a.ready = false := by
  rcases h.last with hnil | ⟨rest, m, hq, hm, -⟩
  · exact absurd hnil hne
  · rcases hs.of_connect (hq ▸ List.mem_append_right _ List.mem_cons_self) hm with
      ⟨hconn, hready, -⟩
    exact ⟨hconn, hready⟩

/-- The purge starts. -/
theorem Agrees.release {resp : RpcResponse} {timer : Bool} {sock : Int}
    (hs : Handshake a.ready a.connected timer sock a.inFlight) (h : Purges a p resp) :
    Agrees { a with held := [] } p := by
  refine ⟨ha.sound, ha.received, ha.down, ha.inbox, ?_, ha.token, ha.nonzero, ha.older,
    ha.connecting⟩
  refine ⟨[], rfl, by simp, h.pending ▸ expected_nil, fun hready _ => ?_⟩
  by_cases hnil : a.inFlight = []
  · simp [h.pending, hnil]
  · rw [(h.not_ready hs hnil).2] at hready
    cases hready

/-- The purge answers a request that is no Connect. -/
theorem Agrees.purge_pop {m : DpMsg} {rest : List DpMsg} {resp : RpcResponse} {timer : Bool}
    {sock : Int} (hs : Handshake a.ready a.connected timer sock a.inFlight) (h : Purges a p resp)
    (hq : a.inFlight = m :: rest) :
    Agrees { a with done := a.done ++ [m], inFlight := rest, held := [] } p := by
  refine ha.pop hq (h.pending ▸ expected_nil) fun hready => ?_
  rw [(h.not_ready hs (hq ▸ List.cons_ne_nil m rest)).2] at hready
  cases hready

omit ha in
theorem Purges.pop {m : DpMsg} {rest : List DpMsg} {resp : RpcResponse} (h : Purges a p resp)
    (hq : a.inFlight = m :: rest) (hm : m.msg.isConnect = false) :
    Purges { a with done := a.done ++ [m], inFlight := rest, held := [] } p resp := by
  refine ⟨h.pending, ?_⟩
  rcases h.last with hnil | ⟨rest', m', hq', hm', hfits⟩
  · exact absurd (hq.symm.trans hnil) (List.cons_ne_nil m rest)
  · rw [hq] at hq'
    cases rest' with
    | nil =>
      rw [(List.cons.inj hq').1, hm'] at hm
      cases hm
    | cons x rest' =>
      refine .inr ⟨rest', m', (List.cons.inj hq').2, hm', ?_⟩
      rw [List.length_cons, Nat.add_comm rest'.length, ← Nat.add_assoc] at hfits
      rwa [List.length_append, List.length_singleton]

omit ha in
/-- The purge answers a Connect with the response to it. -/
theorem Purges.fits {m : DpMsg} {resp : RpcResponse} (h : Purges a p resp)
    (hq : a.inFlight = [m]) : p.Fits a.done.length resp := by
  rcases h.last with hnil | ⟨rest', m', hq', hm', hfits⟩
  · simp [hq] at hnil
  · rw [hq] at hq'
    have hlen := congrArg List.length hq'
    rw [List.length_append, List.length_singleton, List.length_singleton] at hlen
    rwa [show rest'.length = 0 by omega] at hfits

/-- The request number `i` went to the incarnation `g`, and a later incarnation has
    accepted a Connect since. -/
def Dataplane.Lost (p : Dataplane) (i g : Nat) : Prop :=
  ∃ i' g' msg, i < i' ∧ g < g' ∧ p.receipts[i']? = some (g', msg) ∧ msg.isConnect = true ∧
    (i', .ok) ∈ p.verdicts

/-- What the purge answers instead of the dataplane was lost with an incarnation. -/
theorem Agrees.lost {m m' : DpMsg} {rest rest' : List DpMsg} {resp : RpcResponse}
    (hq : a.inFlight = m :: rest) (hm : m.msg.isConnect = false)
    (hq' : a.inFlight = rest' ++ [m']) (hm' : m'.msg.isConnect = true)
    (hfits : p.Fits (a.done.length + rest'.length) resp) (hconn : a.connected = true)
    (hready : a.ready = false) :
    ∃ g, p.receipts[a.done.length]? = some (g, m.msg) ∧ p.Lost a.done.length g := by
  have hat' : a.inFlight[rest'.length]? = some m' := by simp [hq']
  have hne : rest' ≠ [] := by
    rintro rfl
    obtain rfl : m = m' := (List.cons.inj (hq.symm.trans hq')).1
    rw [hm'] at hm
    cases hm
  have hat : a.inFlight[0]? = some m := by simp [hq]
  rcases ha.receipt hat with ⟨g, hreceipt, hmem⟩
  have hlast := ha.older _ hmem hm
  rw [Party.LastReady, hready, hconn, if_neg Bool.false_ne_true, if_pos rfl] at hlast
  rcases hlast with ⟨k, hlink, hgk⟩
  rcases ha.fits_connect hat' hm' hfits with ⟨k', -, hreceipt', hlink', -⟩
  obtain rfl : k = k' := Option.some.inj (hlink.symm.trans hlink')
  refine ⟨g, hreceipt, _, k, _, ?_, hgk, hreceipt', hm', ?_⟩
  · have hpos := List.length_pos_iff.mpr hne
    omega
  · rw [← (ha.fits_msg hat' hfits).2.2 ((RpcMsg.isConnect_iff _).mp hm').2]
    exact hfits.verdict

end Handling

end DplanePlugin
