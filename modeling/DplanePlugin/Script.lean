/-
  DplanePlugin/Script.lean
  ========================
  **A scripted operating system, and runs that are evaluated.**

  `Script` answers each system call with the next result of a list, and with a
  success when the list is used up.  `play` initializes the plugin on a script
  and runs callbacks one after the other; a state it returns is reachable
  (`play_reachable`).
-/
import DplanePlugin.Plugin

namespace DplanePlugin

open Lib

variable {σ : Type} [Os σ]

/-! ### Evaluating callbacks -/

/-- Run callbacks, each of an event that is armed and each to its end. -/
def playFrom (n : Nat) : List Callback → World σ → Option (World σ)
  | [], w => some w
  | cb :: cbs, w =>
    if cb.enabled w then
      match StateT.run (ExceptT.run (cb.run n)) w with
      | (.ok _, w') => playFrom n cbs w'
      | (.error _, _) => none
    else none

/-- What callbacks keep is kept by an evaluated run. -/
theorem playFrom_keeps {R : World σ → Prop}
    (hR : ∀ (w w' : World σ) (n : Nat) (cb : Callback), R w → cb.enabled w →
      Ran (cb.run n) w () w' → R w') {n : Nat}
    {cbs : List Callback} {w w' : World σ} (hw : R w) (h : playFrom n cbs w = some w') : R w' := by
  induction cbs generalizing w with
  | nil =>
    cases h
    exact hw
  | cons cb cbs ih =>
    rw [playFrom] at h
    by_cases henabled : cb.enabled w
    · rw [if_pos henabled] at h
      rcases hrun : StateT.run (ExceptT.run (cb.run n)) w with ⟨r, t⟩
      rw [hrun] at h
      cases r with
      | ok u => exact ih (hR _ _ _ _ hw henabled hrun) h
      | error e => cases h
    · rw [if_neg henabled] at h
      cases h

/-- The socket paths of the runs that are evaluated: `/p` and `/d`. -/
def pluginPath : PathBuf := [47, 112, 0]

def dataplanePath : PathBuf := [47, 100, 0]

/-- Initialize the plugin, then run callbacks. -/
def play (n : Nat) (os : σ) (cbs : List Callback) : Option (World σ) :=
  match StateT.run (ExceptT.run (initDplaneRpc n)) (World.start pluginPath dataplanePath os) with
  | (.ok r, w) => if r = 0 then playFrom n cbs w else none
  | (.error _, _) => none

/-- An evaluated run initializes the plugin, and then runs callbacks. -/
theorem play_keeps {R : World σ → Prop} {n : Nat} {os : σ} {cbs : List Callback} {w : World σ}
    (hinit : ∀ w, Ran (initDplaneRpc n) (World.start pluginPath dataplanePath os) 0 w → R w)
    (hR : ∀ (w w' : World σ) (n : Nat) (cb : Callback), R w → cb.enabled w →
      Ran (cb.run n) w () w' → R w')
    (h : play n os cbs = some w) : R w := by
  rw [play] at h
  rcases hrun : StateT.run (ExceptT.run (initDplaneRpc n))
    (World.start pluginPath dataplanePath os) with ⟨r, t⟩
  rw [hrun] at h
  cases r with
  | ok r =>
    by_cases hr : r = 0
    · simp only [if_pos hr] at h
      exact playFrom_keeps hR (hinit _ (hr ▸ hrun)) h
    · simp only [if_neg hr] at h
      cases h
  | error e => cases h

theorem play_reachable {n : Nat} {os : σ} {cbs : List Callback} {w : World σ}
    (h : play n os cbs = some w) : Reachable w :=
  play_keeps (fun _ => .init) (fun _ _ _ _ => .callback) h

/-- The state after an evaluated run. -/
def played (n : Nat) (os : σ) (cbs : List Callback) : World σ :=
  (play n os cbs).getD (World.start pluginPath dataplanePath os)

theorem played_reachable (n : Nat) (os : σ) (cbs : List Callback)
    (h : (play n os cbs).isSome = true) : Reachable (played n os cbs) := by
  obtain ⟨w, hw⟩ := Option.isSome_iff_exists.mp h
  rw [played, hw]
  exact play_reachable hw

/-! ### The script -/

/-- The results of the system calls to come. -/
structure Script where
  sockets : List Int
  connects : List (Option Errno)
  encodes : List (Option Nat)
  sends : List SendResult
  recvs : List RecvResult
deriving DecidableEq

/-- A script without a failure and without an incoming message. -/
def Script.plain : Script := ⟨[], [], [], [], []⟩

instance : Os Script where
  socket s := (s.sockets.headD 3, { s with sockets := s.sockets.tail })
  unlink _ s := s
  bind _ _ s := (true, s)
  chmod _ s := (true, s)
  close _ s := s
  connect _ _ s := (s.connects.headD none, { s with connects := s.connects.tail })
  send _ _ len s := (s.sends.headD (.octets len), { s with sends := s.sends.tail })
  recv _ s := (s.recvs.headD (.error .eagain), { s with recvs := s.recvs.tail })
  getpid _ := 1
  verDp _ := ⟨0, 1, 0⟩
  encodeMsg _ s := (s.encodes.headD (some 64), { s with encodes := s.encodes.tail })
  buffNew s := (true, s)
  moves _ _ := False

/-- A datagram that holds a response. -/
def answer (op : RpcOp) (seqn : UInt64) (rescode : RpcResultCode) (objects : Option ConnInfo) :
    RecvResult :=
  .data ⟨64, some (.ofResponse ⟨op, seqn, rescode, objects⟩)⟩

/-- The connection info of a dataplane with the sync token `synt`. -/
def dataplaneInfo (synt : UInt64) : ConnInfo := ⟨"dataplane", 2, ⟨0, 1, 0⟩, synt⟩

/-- A positive answer to a Connect. -/
def accept (synt : UInt64) : RecvResult := answer .connect 0 .ok (some (dataplaneInfo synt))

/-- A route that zebra installs. -/
def routeCtx (ref : CtxRef) : ZebraCtx where
  ref := ref
  op := .routeInstall
  afi := .ip
  safi := .unicast
  type := .bgp
  vrf := 0
  table := 254
  distance := 20
  metric := 0
  dest := ⟨24, .inet 0x0a000000⟩
  ng := []
  intfAddr := ⟨0, .inet 0⟩
  ifname := ""
  ifindex := 0
  ifpVrfId := 0
  macVni := 0
  macAddr := []
  macVtepIp := 0

end DplanePlugin
