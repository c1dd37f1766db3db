/-
  DplanePlugin/SockPaths.lean
  ===========================
  **Configuring the socket paths.**

  The setters store a path that `is_valid_unix_path` accepts, in a buffer with
  room for `MAX_SUN_PATH` octets and a terminating zero.  Where a path is used,
  it has to leave room for the terminating zero in `MAX_SUN_PATH` octets, so a
  path of just that length is stored and never accepted.
-/
import DplanePlugin.Lib.CString
import DplanePlugin.Script
import DplanePlugin.Actions

namespace DplanePlugin

open Lib

variable {σ : Type}

/-! ### The setters -/

/-- Tell if a Unix path is valid. -/
def isValidUnixPath (path : CString) : Bool :=
  !(decide (path.strlen = 0) || decide (path.strlen > maxSunPath))

/-- Set the local path of the Unix socket. -/
def setDpSockLocalPath (path : CString) : Plugin σ Int :=
  if isValidUnixPath path = false then return -1
  else do
    modify fun w => { w with pluginSockPath := strncpy w.pluginSockPath path maxSunPath }
    return 0

/-- Set the remote path of the Unix socket. -/
def setDpSockRemotePath (path : CString) : Plugin σ Int :=
  if isValidUnixPath path = false then return -1
  else do
    modify fun w => { w with dpSockPath := strncpy w.dpSockPath path maxSunPath }
    return 0

/-- `DFLT_LOC_DPSOCK_PATH`, `/var/run/frr/hhplugin.sock`. -/
def dfltLocDpsockPath : CString where
  octets := [47, 118, 97, 114, 47, 114, 117, 110, 47, 102, 114, 114, 47,
    104, 104, 112, 108, 117, 103, 105, 110, 46, 115, 111, 99, 107]
  noNul := by decide

/-- `DFLT_REM_DPSOCK_PATH`, `/var/run/frr/hh_dataplane.sock`. -/
def dfltRemDpsockPath : CString where
  octets := [47, 118, 97, 114, 47, 114, 117, 110, 47, 102, 114, 114, 47,
    104, 104, 95, 100, 97, 116, 97, 112, 108, 97, 110, 101, 46, 115, 111, 99, 107]
  noNul := by decide

/-- The states that the options lead to: any paths are set, in any order, after
    the default ones. -/
inductive Configured : World σ → Prop
  | dflt (os : σ) : Configured
      (World.start (dfltLocDpsockPath.toBuffer maxSunPath)
        (dfltRemDpsockPath.toBuffer maxSunPath) os)
  | localPath {w w' : World σ} {path : CString} {a : Int} :
      Configured w → Ran (setDpSockLocalPath path) w a w' → Configured w'
  | remotePath {w w' : World σ} {path : CString} {a : Int} :
      Configured w → Ran (setDpSockRemotePath path) w a w' → Configured w'

/-! ### What the setters store -/

theorem isValidUnixPath_iff (path : CString) :
    isValidUnixPath path = true ↔ path.strlen ≠ 0 ∧ path.strlen ≤ maxSunPath := by
  rw [isValidUnixPath, Bool.not_eq_true', Bool.or_eq_false_iff, decide_eq_false_iff_not,
    decide_eq_false_iff_not, Nat.not_lt]

/-- What a setter does with a path. -/
theorem ran_setDpSockLocalPath (path : CString) (w : World σ) (a : Int) (w' : World σ) :
    Ran (setDpSockLocalPath path) w a w' ↔
      (isValidUnixPath path = true ∧ a = 0 ∧
        w' = { w with pluginSockPath := strncpy w.pluginSockPath path maxSunPath }) ∨
      (isValidUnixPath path = false ∧ a = -1 ∧ w' = w) := by
  rw [Ran, setDpSockLocalPath]
  cases isValidUnixPath path with
  | true => simp
  | false => simp

theorem ran_setDpSockRemotePath (path : CString) (w : World σ) (a : Int) (w' : World σ) :
    Ran (setDpSockRemotePath path) w a w' ↔
      (isValidUnixPath path = true ∧ a = 0 ∧
        w' = { w with dpSockPath := strncpy w.dpSockPath path maxSunPath }) ∨
      (isValidUnixPath path = false ∧ a = -1 ∧ w' = w) := by
  rw [Ran, setDpSockRemotePath]
  cases isValidUnixPath path with
  | true => simp
  | false => simp

/-- Both buffers stay terminated. -/
theorem Configured.terminated {w : World σ} (h : Configured w) :
    TerminatedAt maxSunPath w.pluginSockPath ∧ TerminatedAt maxSunPath w.dpSockPath := by
  induction h with
  | dflt os =>
    constructor
    · exact terminatedAt_toBuffer (by decide)
    · exact terminatedAt_toBuffer (by decide)
  | localPath _ hran ih =>
    rcases (ran_setDpSockLocalPath _ _ _ _).mp hran with ⟨-, -, rfl⟩ | ⟨-, -, rfl⟩
    · exact ⟨ih.1.strncpy _, ih.2⟩
    · exact ih
  | remotePath _ hran ih =>
    rcases (ran_setDpSockRemotePath _ _ _ _).mp hran with ⟨-, -, rfl⟩ | ⟨-, -, rfl⟩
    · exact ⟨ih.1, ih.2.strncpy _⟩
    · exact ih

/-! ### Configuration and use -/

/-- The length check of `dp_unix_sock_open` and `dp_unix_connect` depends on what
    the buffer reads back as. -/
theorem valid_iff_content (buf : PathBuf) :
    buf.Valid ↔ (content buf).length ≠ 0 ∧ (content buf).length < maxSunPath := by
  rw [PathBuf.Valid, PathBuf.strlen, not_or, ge_iff_le, Nat.not_le]
  rfl

/-- The buffer holds exactly `path`, and the use sites accept it. -/
def StoresUsable (path : CString) (buf : PathBuf) : Prop := content buf = path.octets ∧ buf.Valid

/-- Configuration and use agree on `path` in the state `w`. -/
structure PathsAgree (path : CString) (w : World σ) : Prop where
  localStored : ∀ w', Ran (setDpSockLocalPath path) w 0 w' → StoresUsable path w'.pluginSockPath
  remoteStored : ∀ w', Ran (setDpSockRemotePath path) w 0 w' → StoresUsable path w'.dpSockPath
  localRefused : ∀ a w', Ran (setDpSockLocalPath path) w a w' → a ≠ 0 →
    w'.pluginSockPath = w.pluginSockPath ∧ ¬ PathBuf.Valid (path.toBuffer path.strlen)
  remoteRefused : ∀ a w', Ran (setDpSockRemotePath path) w a w' → a ≠ 0 →
    w'.dpSockPath = w.dpSockPath ∧ ¬ PathBuf.Valid (path.toBuffer path.strlen)

/-- A path that fits is stored, and accepted if it leaves room for the zero. -/
theorem storesUsable_iff {path : CString} (hlen : path.strlen ≠ 0 ∧ path.strlen ≤ maxSunPath)
    {buf : PathBuf} (hbuf : TerminatedAt maxSunPath buf) :
    StoresUsable path (strncpy buf path maxSunPath) ↔ path.strlen ≠ maxSunPath := by
  have hread := content_strncpy hlen.2 hbuf
  rw [StoresUsable, valid_iff_content, hread]
  change path.octets = path.octets ∧ path.strlen ≠ 0 ∧ path.strlen < maxSunPath ↔ _
  constructor
  · rintro ⟨-, -, hlt⟩
    exact Nat.ne_of_lt hlt
  · intro hne
    exact ⟨rfl, hlen.1, Nat.lt_of_le_of_ne hlen.2 hne⟩

/-- A path that is refused would have been refused where it is used. -/
theorem not_valid_of_refused {path : CString} (h : isValidUnixPath path = false) :
    ¬ PathBuf.Valid (path.toBuffer path.strlen) := by
  have hread : content (path.toBuffer path.strlen) = path.octets := by
    rw [CString.toBuffer, Nat.add_sub_cancel_left]
    exact content_append_zero path []
  rw [valid_iff_content, hread]
  rintro ⟨hne, hlt⟩
  have hvalid := (isValidUnixPath_iff path).mpr ⟨hne, Nat.le_of_lt hlt⟩
  rw [h] at hvalid
  cases hvalid

/-- After any paths were configured, configuration and use agree on a path if
    and only if its length is not `MAX_SUN_PATH`. -/
theorem paths_agree_iff {w : World σ} (h : Configured w) (path : CString) :
    PathsAgree path w ↔ path.strlen ≠ maxSunPath := by
  rcases h.terminated with ⟨hlocal, hremote⟩
  constructor
  · intro hagree hlen
    have hfits : path.strlen ≠ 0 ∧ path.strlen ≤ maxSunPath := by
      rw [hlen]
      decide
    have hset := (ran_setDpSockLocalPath path w 0 _).mpr
      (.inl ⟨(isValidUnixPath_iff path).mpr hfits, rfl, rfl⟩)
    exact (storesUsable_iff hfits hlocal).mp (hagree.localStored _ hset) hlen
  · intro hlen
    constructor
    · intro w' hran
      rcases (ran_setDpSockLocalPath _ _ _ _).mp hran with ⟨hvalid, -, rfl⟩ | ⟨-, ha, -⟩
      · exact (storesUsable_iff ((isValidUnixPath_iff path).mp hvalid) hlocal).mpr hlen
      · cases ha
    · intro w' hran
      rcases (ran_setDpSockRemotePath _ _ _ _).mp hran with ⟨hvalid, -, rfl⟩ | ⟨-, ha, -⟩
      · exact (storesUsable_iff ((isValidUnixPath_iff path).mp hvalid) hremote).mpr hlen
      · cases ha
    · intro a w' hran ha
      rcases (ran_setDpSockLocalPath _ _ _ _).mp hran with ⟨-, hzero, -⟩ | ⟨hrefused, -, rfl⟩
      · exact absurd hzero ha
      · exact ⟨rfl, not_valid_of_refused hrefused⟩
    · intro a w' hran ha
      rcases (ran_setDpSockRemotePath _ _ _ _).mp hran with ⟨-, hzero, -⟩ | ⟨hrefused, -, rfl⟩
      · exact absurd hzero ha
      · exact ⟨rfl, not_valid_of_refused hrefused⟩

/-- The state with the default paths. -/
def dfltWorld : World Script :=
  World.start (dfltLocDpsockPath.toBuffer maxSunPath) (dfltRemDpsockPath.toBuffer maxSunPath)
    .plain

/-- A path of `n` letters. -/
def pathOf (n : Nat) : CString where
  octets := List.replicate n 97
  noNul := by
    intro hmem
    have hzero := List.eq_of_mem_replicate hmem
    revert hzero
    decide

theorem strlen_pathOf (n : Nat) : (pathOf n).strlen = n := List.length_replicate ..

/-- Configuration and use agree on a path one letter shorter than `MAX_SUN_PATH`, after a
    longer one was configured. -/
theorem paths_agree_on_shorter : ∃ w : World Script,
    Ran (setDpSockLocalPath (pathOf maxSunPath)) dfltWorld 0 w ∧
      PathsAgree (pathOf (maxSunPath - 1)) w := by
  have hvalid : isValidUnixPath (pathOf maxSunPath) = true := by
    rw [isValidUnixPath_iff, strlen_pathOf]
    decide
  have hset := (ran_setDpSockLocalPath (pathOf maxSunPath) dfltWorld 0 _).mpr
    (.inl ⟨hvalid, rfl, rfl⟩)
  have hconf : Configured _ := .localPath (.dflt Script.plain) hset
  refine ⟨_, hset, (paths_agree_iff hconf _).mpr ?_⟩
  rw [strlen_pathOf]
  decide

/-- A path of `MAX_SUN_PATH` letters is stored, and not accepted. -/
theorem longest_path_unusable :
    ¬ ∀ (w : World Script) (path : CString), Configured w → PathsAgree path w := by
  intro hall
  have hlen := strlen_pathOf maxSunPath
  have hfits : (pathOf maxSunPath).strlen ≠ 0 ∧ (pathOf maxSunPath).strlen ≤ maxSunPath := by
    rw [hlen]
    decide
  have hconf : Configured dfltWorld := .dflt _
  have hset := (ran_setDpSockLocalPath (pathOf maxSunPath) dfltWorld 0 _).mpr
    (.inl ⟨(isValidUnixPath_iff _).mpr hfits, rfl, rfl⟩)
  have hstored := (hall dfltWorld (pathOf maxSunPath) hconf).localStored _ hset
  exact (storesUsable_iff hfits hconf.terminated.1).mp hstored hlen

end DplanePlugin
