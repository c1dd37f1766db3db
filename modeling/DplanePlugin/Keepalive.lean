/-
  DplanePlugin/Keepalive.lean
  ===========================
  **The keepalive timer, and the refreshes.**

  `dp_send_keepalive` arms its own timer again, whether it sends a message or not,
  so probing never stops.  A control message that asks for a refresh makes the
  plugin ask zebra for one and then confirm it to the dataplane; no other control
  message that the plugin passes on says so.
-/
import DplanePlugin.Callbacks

namespace DplanePlugin

open Lib

variable {σ : Type} [Os σ]

/-! ### The keepalive timer -/

/-- The keepalive timer is as it was. -/
def World.KeepsKeepalive (w w' : World σ) : Prop := w'.evKeepalive = w.evKeepalive

instance : IsPreorder (World σ) World.KeepsKeepalive where
  refl _ := rfl
  trans _ _ _ h h' := h'.trans h

omit [Os σ] in
theorem admits_keepsKeepalive : Admits (World.KeepsKeepalive (σ := σ)) where
  plain _ _ h := h.evKeepalive
  callback _ _ := rfl
  keepalive _ _ := rfl
  request _ _ _ _ _ _ _ := rfl
  refresh _ _ _ _ := rfl

theorem dpSendKeepalive_arms {R : Plugin σ Unit} {w w' : World σ}
    (h : Ran (dpSendKeepalive R) w () w') : w'.evKeepalive = true := by
  rw [dpSendKeepalive, Ran, ends_get_bind] at h
  split at h
  · rcases (ran_bind _ _ _ _ _).mp h with ⟨_, w₁, -, harm⟩
    obtain ⟨-, rfl⟩ := (ends_modify _ _ _ _).mp harm
    rfl
  · obtain ⟨-, rfl⟩ := (ends_modify _ _ _ _).mp h
    rfl

theorem initDplaneRpc_arms {n : Nat} {w w' : World σ} (h : Ran (initDplaneRpc n) w 0 w') :
    w'.evKeepalive = true := by
  rw [initDplaneRpc, Ran, ends_get_bind] at h
  rcases (ran_bind _ _ _ _ _).mp h with ⟨sock, w₁, -, h⟩
  rw [ran_bind] at h
  rcases h with ⟨_, w₂, -, h⟩
  by_cases hsock : sock = noSock
  · rw [if_pos hsock] at h
    exact absurd (Except.ok.inj ((ends_pure _ _ _ _).mp h).1) (by decide)
  rw [if_neg hsock] at h
  rcases (ran_bind _ _ _ _ _).mp h with ⟨r, w₃, -, h⟩
  by_cases hr : r ≠ 0
  · rw [if_pos hr] at h
    exact absurd (Except.ok.inj ((ends_pure _ _ _ _).mp h).1) (by decide)
  rw [if_neg hr] at h
  rcases (ran_bind _ _ _ _ _).mp h with ⟨_, w₄, -, h⟩
  rcases (ran_bind _ _ _ _ _).mp h with ⟨_, w₅, -, h⟩
  rcases (ran_bind _ _ _ _ _).mp h with ⟨_, w₆, hkeep, hret⟩
  obtain ⟨-, rfl⟩ := (ends_pure _ _ _ _).mp hret
  exact dpSendKeepalive_arms hkeep

/-- In every state between two callbacks of any run the keepalive timer is armed. -/
theorem Reachable.evKeepalive {w : World σ} (h : Reachable w) : w.evKeepalive = true := by
  induction h with
  | init hrun => exact initDplaneRpc_arms hrun
  | outside _ _ ih => exact ih
  | @callback w w' n cb _ _ hrun ih =>
    by_cases hkeep : cb.kind = .keepalive
    · cases cb with
      | keepalive =>
        rw [Callback.run, Ran, ends_observe_bind, ends_modify_bind] at hrun
        exact dpSendKeepalive_arms hrun
      | _ => cases hkeep
    by_cases hfini : cb.kind = .finiEarly
    · cases cb with
      | finiEarly =>
        rw [Callback.run, Ran, ends_observe_bind, zdHhFiniEarly] at hrun
        obtain ⟨-, rfl⟩ := (ends_modify _ _ _ _).mp hrun
        exact ih
      | _ => cases hfini
    have hsame := callback_within admits_keepsKeepalive n hkeep hfini _ _ _ hrun
    exact Eq.trans hsame ih

/-! ### Refreshes -/

/-- What the log says of a refresh. -/
inductive RefreshMark where
  /-- `zebra_dplane_provider_refresh` was called. -/
  | asked
  /-- A control message with `refresh` set was passed on. -/
  | confirmed
deriving DecidableEq, Repr

@[simp] def Obs.refreshMark : Obs → Option RefreshMark
  | .providerRefresh => some .asked
  | .passed m =>
    if m.msg.type = .control ∧ m.msg.control.refresh ≠ 0 then some .confirmed else none
  | _ => none

def refreshMarks (log : List Entry) : List RefreshMark := log.filterMap (·.obs.refreshMark)

/-- So many refreshes, each asked for and then confirmed. -/
def refreshes (n : Nat) : List RefreshMark := (List.replicate n [.asked, .confirmed]).flatten

theorem refreshes_add (m n : Nat) : refreshes (m + n) = refreshes m ++ refreshes n := by
  rw [refreshes, List.replicate_add, List.flatten_append]
  rfl

/-- Some refreshes were asked for, and confirmed. -/
def World.Refreshes (w w' : World σ) : Prop :=
  ∃ n, refreshMarks w'.log = refreshMarks w.log ++ refreshes n

omit [Os σ] in
theorem refreshes_none {w w' : World σ} (h : refreshMarks w'.log = refreshMarks w.log) :
    w.Refreshes w' := ⟨0, by simp [h, refreshes]⟩

instance : IsPreorder (World σ) World.Refreshes where
  refl _ := refreshes_none rfl
  trans w₁ w₂ w₃ h h' := by
    rcases h with ⟨n, hn⟩
    rcases h' with ⟨n', hn'⟩
    exact ⟨n + n', by rw [hn', hn, refreshes_add, List.append_assoc]⟩

omit [Os σ] in
theorem admits_refreshes : Admits (World.Refreshes (σ := σ)) where
  plain w w' h := by
    refine refreshes_none (h.filterMap_eq (f := Obs.refreshMark) ?_)
    intro o ho
    cases o with
    | passed m =>
      rcases ho with ⟨ref, cinfo, rfl⟩
      rfl
    | callback | providerRefresh => exact ho.elim
    | _ => rfl
  callback w k := refreshes_none (by simp [refreshMarks])
  keepalive w ref := refreshes_none (by simp [refreshMarks, controlMsg])
  request w ref op seqn object c _ := refreshes_none (by simp [refreshMarks, requestMsg])
  refresh w ref pool next := ⟨1, by simp [refreshMarks, refreshes, controlMsg]⟩

/-- Up to any moment of any run, whatever messages come in: the plugin asks zebra for a
    refresh and passes a confirmation on in turns, a confirmation right after each
    request, and no other control message that it passes on has `refresh` set. -/
theorem refreshes_confirmed {w : World σ} (h : Reached w) :
    ∃ n, refreshMarks w.log = refreshes n := by
  rcases h.within admits_refreshes (fun _ _ hlog => refreshes_none (by rw [hlog])) with
    ⟨w₀, hw₀, n, hn⟩
  exact ⟨n, by simpa [hw₀, refreshMarks] using hn⟩

/-- A control message that asks for a refresh. -/
def refreshRequest : RecvResult :=
  .data ⟨64, some { RpcMsg.zero with type := .control, control := ⟨1⟩ }⟩

/-- The dataplane asks for a refresh, twice, and a keepalive is sent between. -/
def refreshedWorld : World Script :=
  played 3 { Script.plain with recvs := [accept 7, refreshRequest, .error .eagain, refreshRequest] }
    [.recv, .keepalive, .recv]

theorem refreshes_in_refreshedWorld :
    (sentMsgs refreshedWorld.log).map (·.msg.control.refresh) = [0, 1, 0, 1] ∧
      refreshMarks refreshedWorld.log = refreshes 2 ∧ ∃ n, refreshMarks refreshedWorld.log = refreshes n :=
  ⟨by decide +kernel, by decide +kernel,
    refreshes_confirmed (.between (played_reachable _ _ _ (by decide +kernel)))⟩

end DplanePlugin
