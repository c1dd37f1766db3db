/-
  DplanePlugin/Dataplane.lean
  ===========================
  **A dataplane that may crash and come back.**

  The other end of the socket: incarnations of a dataplane, one after the other,
  each with a sync token of its own.  An incarnation handles the requests that it
  received in their order and answers each of them once; a crash loses those it
  has not answered.  What it answered stays readable until the plugin closes its
  socket.

  `Env` makes this an operating system: before every system call the dataplane
  does any number of steps, as the choices to come say, so the runs of the plugin
  over all choices are all interleavings of the two sides.  Requests are numbered
  in the order in which they were received; the numbers and the verdicts are
  kept for the statements only.
-/
import DplanePlugin.Plugin
import Mathlib.Data.List.Nodup

namespace DplanePlugin

open Lib

/-! ### Incarnations -/

/-- The sync tokens of the incarnations, oldest first: not zero, and no two of
    them the same. -/
structure Synts where
  list : List UInt64
  distinct : list.Nodup
  nonzero : 0 ∉ list

/-- One more incarnation, if its token is a fresh one. -/
def Synts.add (s : Synts) (synt : UInt64) : Option Synts :=
  if h : synt ≠ 0 ∧ synt ∉ s.list then
    some {
      list := s.list ++ [synt]
      distinct := by
        rw [← List.concat_eq_append]
        exact s.distinct.concat h.2
      nonzero := by
        intro hmem
        rcases List.mem_append.mp hmem with hold | hnew
        · exact s.nonzero hold
        · exact h.1 (List.mem_singleton.mp hnew).symm }
  else none

/-- The dataplane, and what is under way between it and the plugin: the
    incarnation that is up, the one that the plugin's socket is connected to, the
    requests received, each with the incarnation that received it, the verdicts on
    them, the requests still to be answered, and the responses that the plugin can
    read. -/
structure Dataplane where
  synts : Synts
  current : Option Nat
  link : Option Nat
  receipts : List (Nat × RpcMsg)
  verdicts : List (Nat × RpcResultCode)
  inbox : List (Nat × RpcMsg)
  rx : List (Nat × RpcResponse)

/-- The plugin is connected to the incarnation that is up. -/
def Dataplane.Up (p : Dataplane) : Prop := ∃ k, p.link = some k ∧ p.current = some k

/-- What the dataplane does on its own. -/
inductive DataplaneStep where
  | crash
  | start (synt : UInt64)
  /-- Answer the oldest request. A Connect is answered with `info` and the token of
      the incarnation, another request with the rest. -/
  | answer (info : ConnInfo) (rescode : RpcResultCode) (objects : Option ConnInfo)

/-- The answer of the incarnation `k` to `req`. -/
def Dataplane.response (p : Dataplane) (k : Nat) (req : RpcRequest) (info : ConnInfo)
    (rescode : RpcResultCode) (objects : Option ConnInfo) : RpcResponse :=
  if req.op = .connect then
    ⟨req.op, req.seqn, .ok, some { info with synt := p.synts.list.getD k 0 }⟩
  else ⟨req.op, req.seqn, rescode, objects⟩

def Dataplane.step (p : Dataplane) : DataplaneStep → Dataplane
  | .crash => { p with current := none, inbox := [] }
  | .start synt =>
    match p.current, p.synts.add synt with
    | none, some synts => { p with synts := synts, current := some p.synts.list.length }
    | _, _ => p
  | .answer info rescode objects =>
    match p.current, p.inbox with
    | some k, (i, msg) :: rest =>
      { p with
        inbox := rest,
        verdicts := p.verdicts ++ [(i, (p.response k msg.request info rescode objects).rescode)],
        rx := p.rx ++ [(i, p.response k msg.request info rescode objects)] }
    | _, _ => p

/-- The incarnation `k` receives a message, and will answer it if it is a request. -/
def Dataplane.receive (p : Dataplane) (k : Nat) (msg : RpcMsg) : Dataplane :=
  if msg.type = .request then
    { p with
      receipts := p.receipts ++ [(k, msg)],
      inbox := p.inbox ++ [(p.receipts.length, msg)] }
  else p

/-- The plugin's socket is another one, connected to none. -/
def Dataplane.cut (p : Dataplane) : Dataplane := { p with link := none, rx := [] }

/-! ### The environment of the plugin -/

/-- What happens around a system call: what the dataplane does before it, the error
    that `send()` or `recv()` fails with all the same, the one that `connect()` fails
    with when no incarnation is up, and the results of the calls that do not concern
    the dataplane. -/
structure Choice where
  steps : List DataplaneStep
  error : Option Errno
  refusal : Errno
  sock : Int
  succeeds : Bool
  octets : Option Nat

def Choice.quiet : Choice := ⟨[], none, .econnrefused, 3, true, some 64⟩

structure Env where
  choices : List Choice
  dataplane : Dataplane

def Env.choice (e : Env) : Choice := e.choices.headD .quiet

/-- The dataplane has done the steps of the next choice. -/
def Env.turn (e : Env) : Env := ⟨e.choices.tail, e.choice.steps.foldl Dataplane.step e.dataplane⟩

/-- The errors that any `send()` may fail with. -/
def Errno.isTemporary : Errno → Bool
  | .eagain | .enobufs | .enomem | .eintr => true
  | _ => false

/-- `socket()`, `close()`: what was to be read is gone. -/
def Env.cut (e : Env) : Env := { e.turn with dataplane := e.turn.dataplane.cut }

def Env.connect (e : Env) : Option Errno × Env :=
  match e.turn.dataplane.current with
  | none => (some (if e.choice.refusal = .eisconn then .econnrefused else e.choice.refusal), e.turn)
  | some k => (none, { e.turn with dataplane := { e.turn.dataplane with link := some k } })

def Env.send (e : Env) (msg : RpcMsg) (len : Nat) : SendResult × Env :=
  match e.choice.error.filter Errno.isTemporary with
  | some err => (.error err, e.turn)
  | none =>
    match e.turn.dataplane.link with
    | none => (.error .enotconn, e.turn)
    | some k =>
      if e.turn.dataplane.current = some k then
        (.octets len, { e.turn with dataplane := e.turn.dataplane.receive k msg })
      else (.error .econnrefused, e.turn)

def Env.recv (e : Env) : RecvResult × Env :=
  match e.choice.error, e.turn.dataplane.rx with
  | some err, _ => (.error err, e.turn)
  | none, [] => (.error .eagain, e.turn)
  | none, (_, resp) :: rest =>
    (.data ⟨64, some (.ofResponse resp)⟩,
      { e.turn with dataplane := { e.turn.dataplane with rx := rest } })

instance : Os Env where
  socket e := (e.choice.sock, e.cut)
  unlink _ e := e.turn
  bind _ _ e := (e.choice.succeeds, e.turn)
  chmod _ e := (e.choice.succeeds, e.turn)
  close _ e := e.cut
  connect _ _ e := e.connect
  send _ msg len e := e.send msg len
  recv _ e := e.recv
  getpid _ := 1
  verDp _ := ⟨0, 1, 0⟩
  encodeMsg _ e := (e.choice.octets, e.turn)
  buffNew e := (e.choice.succeeds, e.turn)
  moves e e' := ∃ steps : List DataplaneStep,
    e' = { e with dataplane := steps.foldl Dataplane.step e.dataplane }

/-! ### What the dataplane keeps -/

/-- `resp` answers the request number `i`, with the verdict on it; a Connect
    positively and with the token of the incarnation. -/
structure Dataplane.Fits (p : Dataplane) (i : Nat) (resp : RpcResponse) : Prop where
  receipt : ∃ k msg, p.receipts[i]? = some (k, msg) ∧ resp.op = msg.request.op ∧
    resp.seqn = msg.request.seqn ∧ (msg.request.op = .connect →
      resp.rescode = .ok ∧ ∃ info, resp.objects = some info ∧ p.synts.list[k]? = some info.synt)
  verdict : (i, resp.rescode) ∈ p.verdicts

/-- The requests that were answered or are to be. -/
def Dataplane.handled (p : Dataplane) : List Nat := p.verdicts.map (·.1) ++ p.inbox.map (·.1)

/-- What holds of a dataplane whatever the plugin does. -/
structure Dataplane.Sound (p : Dataplane) : Prop where
  current : ∀ k ∈ p.current, k + 1 = p.synts.list.length
  link : ∀ k ∈ p.link, k < p.synts.list.length
  receipts : ∀ r ∈ p.receipts, r.1 < p.synts.list.length
  inbox : ∀ x ∈ p.inbox, ∃ k, p.current = some k ∧ p.receipts[x.1]? = some (k, x.2)
  rx : ∀ x ∈ p.rx, p.Fits x.1 x.2
  handled : ∀ i ∈ p.handled, i < p.receipts.length
  once : p.handled.Nodup

/-- A dataplane that the plugin has not been in touch with. -/
structure Dataplane.Fresh (p : Dataplane) : Prop where
  current : ∀ k ∈ p.current, k + 1 = p.synts.list.length
  link : p.link = none
  receipts : p.receipts = []
  verdicts : p.verdicts = []
  inbox : p.inbox = []
  rx : p.rx = []

/-- `p'` comes after `p`: nothing that was received or answered is forgotten. -/
structure Dataplane.Grows (p p' : Dataplane) : Prop where
  synts : p.synts.list <+: p'.synts.list
  receipts : p.receipts <+: p'.receipts
  verdicts : p.verdicts <+: p'.verdicts

theorem Dataplane.Grows.refl (p : Dataplane) : p.Grows p :=
  ⟨List.prefix_rfl, List.prefix_rfl, List.prefix_rfl⟩

theorem Dataplane.Grows.trans {p p' p'' : Dataplane} (h : p.Grows p') (h' : p'.Grows p'') :
    p.Grows p'' :=
  ⟨h.synts.trans h'.synts, h.receipts.trans h'.receipts, h.verdicts.trans h'.verdicts⟩

theorem getElem?_of_prefix {α : Type} {l l' : List α} (h : l <+: l') {i : Nat} {a : α}
    (hi : l[i]? = some a) : l'[i]? = some a := by
  rcases List.getElem?_eq_some_iff.mp hi with ⟨hlt, rfl⟩
  exact List.prefix_iff_getElem?.mp h i hlt

theorem Dataplane.Fits.grow {p p' : Dataplane} {i : Nat} {resp : RpcResponse} (h : p.Fits i resp)
    (hgrow : p.Grows p') : p'.Fits i resp := by
  rcases h with ⟨⟨k, msg, hreceipt, hop, hseqn, hconn⟩, hverdict⟩
  refine ⟨⟨k, msg, getElem?_of_prefix hgrow.receipts hreceipt, hop, hseqn, ?_⟩,
    hgrow.verdicts.subset hverdict⟩
  intro hc
  rcases hconn hc with ⟨hok, info, hobjects, hsynt⟩
  exact ⟨hok, info, hobjects, getElem?_of_prefix hgrow.synts hsynt⟩

theorem Synts.add_eq {s s' : Synts} {synt : UInt64} (h : s.add synt = some s') :
    s'.list = s.list ++ [synt] := by
  rw [Synts.add] at h
  split at h
  · cases h
    rfl
  · cases h

/-- What a step of the dataplane does, if anything. -/
inductive Dataplane.Steps (p : Dataplane) : Dataplane → Prop
  | idle : Steps p p
  | crash : Steps p { p with current := none, inbox := [] }
  | start {synts : Synts} {synt : UInt64} (hdown : p.current = none)
      (hsynts : synts.list = p.synts.list ++ [synt]) :
      Steps p { p with synts := synts, current := some p.synts.list.length }
  | answer {k i : Nat} {msg : RpcMsg} {rest : List (Nat × RpcMsg)} {resp : RpcResponse}
      (hup : p.current = some k) (hinbox : p.inbox = (i, msg) :: rest)
      (hop : resp.op = msg.request.op) (hseqn : resp.seqn = msg.request.seqn)
      (hconn : msg.request.op = .connect →
        resp.rescode = .ok ∧ ∃ info, resp.objects = some info ∧
          info.synt = p.synts.list.getD k 0) :
      Steps p { p with
        inbox := rest, verdicts := p.verdicts ++ [(i, resp.rescode)], rx := p.rx ++ [(i, resp)] }

theorem Dataplane.step_steps (p : Dataplane) (st : DataplaneStep) : p.Steps (p.step st) := by
  cases st with
  | crash => exact .crash
  | start synt =>
    rw [Dataplane.step]
    split
    · rename_i synts hdown hadd
      exact .start hdown (Synts.add_eq hadd)
    · exact .idle
  | answer info rescode objects =>
    rw [Dataplane.step]
    split
    · rename_i k i msg rest hup hinbox
      apply Steps.answer hup hinbox
      all_goals
        rw [Dataplane.response]
        split
        · simp_all
        · simp_all
    · exact .idle

/-- What every step keeps is kept by any number of them. -/
theorem Dataplane.foldl_step {I : Dataplane → Prop} (hstep : ∀ p p', I p → p.Steps p' → I p')
    (steps : List DataplaneStep) {p : Dataplane} (hp : I p) :
    I (steps.foldl Dataplane.step p) := by
  induction steps generalizing p with
  | nil => exact hp
  | cons st steps ih => exact ih (hstep p _ hp (p.step_steps st))

section Steps
variable {p p' : Dataplane}

theorem Dataplane.Steps.grows (h : p.Steps p') : p.Grows p' := by
  cases h with
  | idle | crash => exact ⟨List.prefix_rfl, List.prefix_rfl, List.prefix_rfl⟩
  | start hdown hsynts =>
    refine ⟨?_, List.prefix_rfl, List.prefix_rfl⟩
    dsimp only
    rw [hsynts]
    exact List.prefix_append _ _
  | answer => exact ⟨List.prefix_rfl, List.prefix_rfl, List.prefix_append _ _⟩

theorem Dataplane.Steps.sound (h : p.Steps p') (hp : p.Sound) : p'.Sound := by
  have hgrow := h.grows
  cases h with
  | idle => exact hp
  | crash =>
    have hsub : List.Sublist (Dataplane.handled { p with current := none, inbox := [] })
        p.handled := by
      simp [Dataplane.handled]
    refine ⟨by simp, hp.link, hp.receipts, by simp, fun x hx => (hp.rx x hx).grow hgrow, ?_, ?_⟩
    · intro i hi
      exact hp.handled i (hsub.subset hi)
    · exact hp.once.sublist hsub
  | @start synts synt hdown hsynts =>
    have hlen : synts.list.length = p.synts.list.length + 1 := by
      rw [hsynts, List.length_append]
      rfl
    refine ⟨?_, ?_, ?_, ?_, fun x hx => (hp.rx x hx).grow hgrow, hp.handled, hp.once⟩
    · intro k hk
      cases hk
      exact hlen.symm
    · intro k hk
      have hlt := hp.link k hk
      dsimp only
      omega
    · intro r hr
      have hlt := hp.receipts r hr
      dsimp only
      omega
    · intro x hx
      rcases hp.inbox x hx with ⟨k, hk, -⟩
      rw [hdown] at hk
      cases hk
  | @answer k i msg rest resp hup hinbox hop hseqn hconn =>
    have hsame : Dataplane.handled { p with
        inbox := rest, verdicts := p.verdicts ++ [(i, resp.rescode)], rx := p.rx ++ [(i, resp)] } =
        p.handled := by
      simp [Dataplane.handled, hinbox]
    refine ⟨hp.current, hp.link, hp.receipts, ?_, ?_, ?_, ?_⟩
    · intro x hx
      exact hp.inbox x (hinbox ▸ List.mem_cons_of_mem _ hx)
    · intro x hx
      rcases List.mem_append.mp hx with hold | hnew
      · exact (hp.rx x hold).grow hgrow
      · rw [List.mem_singleton.mp hnew]
        rcases hp.inbox (i, msg) (hinbox ▸ List.mem_cons_self) with ⟨k', hk', hreceipt⟩
        obtain rfl : k = k' := Option.some.inj (hup.symm.trans hk')
        refine ⟨⟨k, msg, hreceipt, hop, hseqn, ?_⟩, by simp⟩
        intro hc
        rcases hconn hc with ⟨hok, info, hobjects, hsynt⟩
        refine ⟨hok, info, hobjects, ?_⟩
        have hlt : k < p.synts.list.length := by
          have hlast := hp.current k hup
          omega
        rw [hsynt, List.getD_eq_getElem?_getD, List.getElem?_eq_getElem hlt]
        rfl
    · rw [hsame]
      exact hp.handled
    · rw [hsame]
      exact hp.once

end Steps

/-! ### What the system calls do to it -/

section Calls
variable {p : Dataplane} (hp : p.Sound)
include hp

theorem Dataplane.Sound.cut : p.cut.Sound where
  current := hp.current
  link := by simp [Dataplane.cut]
  receipts := hp.receipts
  inbox := hp.inbox
  rx := by simp [Dataplane.cut]
  handled := hp.handled
  once := hp.once

theorem Dataplane.Sound.connect {k : Nat} (hk : p.current = some k) :
    { p with link := some k }.Sound where
  current := hp.current
  link := by
    intro k' hk'
    have hlast := hp.current k hk
    obtain rfl := Option.mem_some_iff.mp hk'
    dsimp only
    omega
  receipts := hp.receipts
  inbox := hp.inbox
  rx := fun x hx => (hp.rx x hx).grow ⟨List.prefix_rfl, List.prefix_rfl, List.prefix_rfl⟩
  handled := hp.handled
  once := hp.once

theorem Dataplane.Sound.recv {x : Nat × RpcResponse} {rest : List (Nat × RpcResponse)}
    (hrx : p.rx = x :: rest) : { p with rx := rest }.Sound where
  current := hp.current
  link := hp.link
  receipts := hp.receipts
  inbox := hp.inbox
  rx := fun y hy => (hp.rx y (hrx ▸ List.mem_cons_of_mem _ hy)).grow ⟨List.prefix_rfl, List.prefix_rfl, List.prefix_rfl⟩
  handled := hp.handled
  once := hp.once

omit hp in
theorem Dataplane.grows_receive (p : Dataplane) (k : Nat) (msg : RpcMsg) :
    p.Grows (p.receive k msg) := by
  rw [Dataplane.receive]
  split
  · exact ⟨List.prefix_rfl, List.prefix_append _ _, List.prefix_rfl⟩
  · exact .refl p

theorem Dataplane.Sound.receive {k : Nat} (hk : p.current = some k) (msg : RpcMsg) :
    (p.receive k msg).Sound := by
  have hgrow := p.grows_receive k msg
  by_cases hreq : msg.type = .request
  · rw [Dataplane.receive, if_pos hreq] at hgrow ⊢
    have hone : Dataplane.handled { p with
        receipts := p.receipts ++ [(k, msg)],
        inbox := p.inbox ++ [(p.receipts.length, msg)] } = p.handled ++ [p.receipts.length] := by
      simp [Dataplane.handled]
    refine ⟨hp.current, hp.link, ?_, ?_, fun x hx => (hp.rx x hx).grow hgrow, ?_, ?_⟩
    · intro r hr
      rcases List.mem_append.mp hr with hold | hnew
      · exact hp.receipts r hold
      · have hlast := hp.current k hk
        rw [List.mem_singleton.mp hnew]
        dsimp only
        omega
    · intro x hx
      rcases List.mem_append.mp hx with hold | hnew
      · rcases hp.inbox x hold with ⟨k', hk', hreceipt⟩
        exact ⟨k', hk', getElem?_of_prefix hgrow.receipts hreceipt⟩
      · rw [List.mem_singleton.mp hnew]
        exact ⟨k, hk, by simp⟩
    · rw [hone]
      intro i hi
      dsimp only
      rw [List.length_append, List.length_singleton]
      rcases List.mem_append.mp hi with hold | hnew
      · exact Nat.lt_succ_of_lt (hp.handled i hold)
      · rw [List.mem_singleton.mp hnew]
        exact Nat.lt_succ_self _
    · rw [hone, List.nodup_append]
      refine ⟨hp.once, List.nodup_singleton _, ?_⟩
      intro i hi j hj
      rw [List.mem_singleton.mp hj]
      exact Nat.ne_of_lt (hp.handled i hi)
  · rw [Dataplane.receive, if_neg hreq]
    exact hp

end Calls

theorem Dataplane.Fresh.sound {p : Dataplane} (h : p.Fresh) : p.Sound where
  current := h.current
  link := by simp [h.link]
  receipts := by simp [h.receipts]
  inbox := by simp [h.inbox]
  rx := by simp [h.rx]
  handled := by simp [Dataplane.handled, h.verdicts, h.inbox]
  once := by simp [Dataplane.handled, h.verdicts, h.inbox]

/-! ### What the system calls return -/

/-- What every step keeps is kept around a system call. -/
theorem Env.turn_keeps {I : Dataplane → Prop} (hstep : ∀ p p', I p → p.Steps p' → I p') {e : Env}
    (he : I e.dataplane) : I e.turn.dataplane :=
  Dataplane.foldl_step hstep _ he

theorem Env.connect_eq (e : Env) :
    (∃ err, err ≠ .eisconn ∧ e.connect = (some err, e.turn)) ∨
      ∃ k, e.turn.dataplane.current = some k ∧
        e.connect = (none, { e.turn with dataplane := { e.turn.dataplane with link := some k } }) := by
  rw [Env.connect]
  cases hcurrent : e.turn.dataplane.current with
  | none =>
    refine .inl ⟨_, ?_, rfl⟩
    split
    · simp
    · assumption
  | some k => exact .inr ⟨k, rfl, rfl⟩

/-- `send()` fails with a connection error only if the incarnation that the plugin is
    connected to is no longer up. -/
theorem Env.send_eq (e : Env) (msg : RpcMsg) (len : Nat) :
    (∃ err, e.send msg len = (.error err, e.turn) ∧ (err.isDisconnect = true →
      ¬ e.turn.dataplane.Up)) ∨
      ∃ k, e.turn.dataplane.link = some k ∧ e.turn.dataplane.current = some k ∧
        e.send msg len =
          (.octets len, { e.turn with dataplane := e.turn.dataplane.receive k msg }) := by
  rw [Env.send]
  split
  · rename_i err herr
    refine .inl ⟨err, rfl, fun hd => ?_⟩
    have htemporary := (Option.filter_eq_some_iff.mp herr).2
    cases err <;> simp_all [Errno.isTemporary, Errno.isDisconnect]
  split
  · rename_i hlink
    exact .inl ⟨_, rfl, fun _ => by simp [Dataplane.Up, hlink]⟩
  · rename_i k hlink
    split
    · rename_i hcurrent
      exact .inr ⟨k, hlink, hcurrent, rfl⟩
    · rename_i hcurrent
      refine .inl ⟨_, rfl, ?_⟩
      rintro - ⟨k', hlink', hcurrent'⟩
      rw [hlink] at hlink'
      cases hlink'
      exact hcurrent hcurrent'

theorem Env.recv_eq (e : Env) :
    (∃ err, e.recv = (.error err, e.turn)) ∨
      ∃ i resp rest, e.turn.dataplane.rx = (i, resp) :: rest ∧
        e.recv = (.data ⟨64, some (.ofResponse resp)⟩,
          { e.turn with dataplane := { e.turn.dataplane with rx := rest } }) := by
  rw [Env.recv]
  split
  · exact .inl ⟨_, rfl⟩
  · exact .inl ⟨_, rfl⟩
  · rename_i i resp rest herr hrx
    exact .inr ⟨i, resp, rest, hrx, rfl⟩

end DplanePlugin
