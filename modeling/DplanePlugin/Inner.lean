/-
  DplanePlugin/Inner.lean
  =======================
  **What a drain or a reconnect leaves alone.**

  `send_pending_rpc_msgs` and `dp_connect` call each other, to any depth.  What
  they can add to the log, and which statics they never write, is read off the
  actions: as long as some call is in progress below, every action is one of
  theirs.
-/
import DplanePlugin.Lib.Within
import DplanePlugin.Completions

namespace DplanePlugin

open Lib

variable {σ : Type}

/-! ### A state that others come after -/

/-- The log has grown, by entries with the property `φ`; the keepalive timer and
    `finalizing` are as they were. -/
structure World.Extends (φ : Obs → Prop) (w w' : World σ) : Prop where
  log : w.log <+: w'.log
  added : ∀ e ∈ w'.log.drop w.log.length, φ e.obs
  evKeepalive : w'.evKeepalive = w.evKeepalive
  finalizing : w'.finalizing = w.finalizing

section Extends
variable {φ : Obs → Prop} {w w' : World σ}

theorem World.Extends.new (h : w.Extends φ w') :
    ∃ new, w'.log = w.log ++ new ∧ ∀ e ∈ new, φ e.obs := by
  rcases h.log with ⟨new, hlog⟩
  have hadded := h.added
  rw [← hlog, List.drop_left] at hadded
  exact ⟨new, hlog.symm, hadded⟩

instance : IsPreorder (World σ) (World.Extends φ) where
  refl w := ⟨List.prefix_rfl, by simp, rfl, rfl⟩
  trans w₁ w₂ w₃ h h' := by
    rcases h.new with ⟨new, hlog, hnew⟩
    rcases h'.new with ⟨new', hlog', hnew'⟩
    have hall : w₃.log = w₁.log ++ (new ++ new') := by rw [hlog', hlog, List.append_assoc]
    refine ⟨hall ▸ List.prefix_append _ _, ?_, h'.evKeepalive.trans h.evKeepalive,
      h'.finalizing.trans h.finalizing⟩
    rw [hall, List.drop_left]
    exact List.forall_mem_append.mpr ⟨hnew, hnew'⟩

theorem World.Extends.mono {ψ : Obs → Prop} (h : w.Extends φ w') (himp : ∀ o, φ o → ψ o) :
    w.Extends ψ w' :=
  ⟨h.log, fun e he => himp _ (h.added e he), h.evKeepalive, h.finalizing⟩

/-- Entries that `φ` excludes are as many as they were. -/
theorem World.Extends.filterMap_eq {B : Type} {f : Obs → Option B} (h : w.Extends φ w')
    (hf : ∀ o, φ o → f o = none) :
    w'.log.filterMap (fun e => f e.obs) = w.log.filterMap fun e => f e.obs := by
  rcases h.new with ⟨new, hlog, hnew⟩
  rw [hlog, List.filterMap_append, List.filterMap_eq_nil_iff.mpr fun e he => hf _ (hnew e he),
    List.append_nil]

theorem extends_of_same (hlog : w'.log = w.log) (hev : w'.evKeepalive = w.evKeepalive)
    (hfin : w'.finalizing = w.finalizing) : w.Extends φ w' :=
  ⟨hlog ▸ List.prefix_rfl, by simp [hlog], hev, hfin⟩

theorem extends_observe {o : Obs} (ho : φ o) (w : World σ) : w.Extends φ (w.observe o) :=
  ⟨List.prefix_append _ _, by simpa using ho, rfl, rfl⟩

end Extends

/-! ### Drains and reconnects -/

/-- The entries that a drain or a reconnect can make. -/
def Obs.Inner : Obs → Prop
  | .passed m => ∃ ref cinfo, m = connectMsg ref cinfo
  | .connecting | .connect _ | .reopened | .encoded _ _ | .send _ _ _ | .sent _
  | .recycleRefused _ _ => True
  | _ => False

theorem extends_recycle (w : World σ) (m : DpMsg) : w.Extends Obs.Inner (w.recycle m) := by
  refine ⟨List.prefix_append _ _, ?_, rfl, rfl⟩
  rw [World.recycle, List.drop_left, World.refusal]
  split
  · simp
  · simp [Obs.Inner]

variable [Os σ]

/-- Above a call in progress, every action is one of a drain or a reconnect. -/
theorem Act.inner {s s' : Config σ} (h : Act s s') (hbelow : .aborted ∈ s.frames) :
    .aborted ∈ s'.frames ∧ s.world.Extends Obs.Inner s'.world := by
  have hle := h.log_prefix
  cases h with
  | refused hsock hpath hconnect he hreopen =>
    rcases dpUnixSockReopen_ends (by exact hsock) hreopen with ⟨-, sock, os', rfl⟩
    exact ⟨by simpa using hbelow, hle, by simp [Obs.Inner], rfl, rfl⟩
  | @connected w fs os ref next pool result cinfo =>
    refine ⟨by simpa using hbelow, hle, ?_, rfl, rfl⟩
    simp [Obs.Inner]
  | queueControl hfs =>
    rcases hfs with rfl | ⟨msg, rfl⟩ <;> simp at hbelow
  | @sentOther w fs m len os =>
    have hsent : w.Extends Obs.Inner ((w.sendTried os m len (.octets len)).sentOther m) :=
      ⟨by simp, by simp [Obs.Inner], rfl, rfl⟩
    exact ⟨by simpa using hbelow, IsTrans.trans _ _ _ hsent (extends_recycle _ m)⟩
  | @dropConnect w fs m | @recycle w fs m => exact ⟨by simpa using hbelow, extends_recycle w m⟩
  | noSocket | badPath | notSent | encodeFailed | sendBlocked | sendFailed | sendShort
  | sendDisconnected | sendDisconnectedTimer | sentRequest | popUnsent | pushBack | drained
  | subscribe =>
    exact ⟨by simpa using hbelow, hle, by simp [Obs.Inner], rfl, rfl⟩
  | _ =>
    -- the other actions start with no call below
    simp at hbelow

/-- A program that leads along such actions. -/
theorem inner_of_refines {α : Type} {p : Plugin σ α} {f : Frame}
    (h : ∀ fs w, Refines p (f :: fs) w fun _ => fs) : Within (World.Extends Obs.Inner) p := by
  have hpath {s s' : Config σ} (hs : Path s s') (hbelow : .aborted ∈ s.frames) :
      .aborted ∈ s'.frames ∧ s.world.Extends Obs.Inner s'.world := by
    induction hs with
    | refl => exact ⟨hbelow, Std.Refl.refl _⟩
    | tail _ hlast ih => exact ⟨(hlast.inner ih.1).1, IsTrans.trans _ _ _ ih.2 (hlast.inner ih.1).2⟩
  intro w r w' hrun
  have hleads := h [.aborted] w r w' hrun
  cases r with
  | ok a => exact (hpath (s := ⟨f :: [.aborted], w⟩) hleads (by simp)).2
  | error e =>
    rcases hleads with ⟨gs, hs⟩
    exact (hpath hs (by simp)).2

theorem dpConnect_inner (n : Nat) : Within (World.Extends Obs.Inner) (dpConnect n : Plugin σ Unit) :=
  inner_of_refines (dpConnect_refines n)

theorem sendPendingRpcMsgs_inner {R : Plugin σ Unit} (hR : Reconnects R) :
    Within (World.Extends Obs.Inner) (sendPendingRpcMsgs R) :=
  inner_of_refines (sendPendingRpcMsgs_refines hR)

end DplanePlugin
