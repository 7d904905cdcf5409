import Apexd.Lib.Service
import Apexd.Rollback
import Apexd.SessionWire

/-!
# A rollback survives any number of crashes

`RollbackActivatedSession` may be cut off between any two of its steps, and so may every
`resumeRollbackIfNeeded` that follows a restart.

* `RollbackInv` — the invariant: the backup is complete and the session is `ACTIVATED` or
  `ROLLBACK_IN_PROGRESS`, or the backup has become the active directory and the session is
  `ROLLBACK_IN_PROGRESS` or `ROLLED_BACK`.
* `rollback_crash_safe` — the backed-up set is never lost, and `ROLLED_BACK` means that it is the
  active one.
-/

set_option autoImplicit false

namespace Apexd

open Text Prog

/-- A directory holds exactly these entries. -/
def World.Holds (w : World) (p : String) (B : List (String × Node)) : Prop :=
  ∃ d, w.dirs p = some d ∧ d.entries = B

/-- A directory of regular files. -/
def World.HoldsFiles (w : World) (p : String) : Prop :=
  ∃ d, w.dirs p = some d ∧ ∀ e ∈ d.entries, e.2.file?.isSome

/-- A restart outside fs-checkpoint mode. -/
def World.PlainRestart (w w' : World) : Prop := w.Restart w' ∧ w'.inFsCheckpointMode = false

/-- How far a rollback to `B` is, by the stored state. -/
inductive RollbackStage (B : List (String × Node)) (w : World) : State → Prop where
  | activated (hb : w.Holds kApexBackupDir B) (ha : w.HoldsFiles kActiveApexPackagesDataDir) :
      RollbackStage B w .ACTIVATED
  | deleting (hb : w.Holds kApexBackupDir B) (ha : w.HoldsFiles kActiveApexPackagesDataDir) :
      RollbackStage B w .ROLLBACK_IN_PROGRESS
  | restored (hb : w.dirs kApexBackupDir = none) (ha : w.Holds kActiveApexPackagesDataDir B) :
      RollbackStage B w .ROLLBACK_IN_PROGRESS
  | rolledBack (hb : w.dirs kApexBackupDir = none) (ha : w.Holds kActiveApexPackagesDataDir B) :
      RollbackStage B w .ROLLED_BACK

/-- What does not change during a rollback of session `id`. -/
structure RollbackFrame (cfg : Config) (id : Int32) (w : World) : Prop where
  unmounted : w.DataUnmounted
  noCheckpoint : w.inFsCheckpointMode = false
  notFile : w.file? kApexBackupDir = none
  listed : toString id ∈ w.sessionNames
  only : ∀ n t, n ∈ w.sessionNames → w.record? cfg n = some t → t.isFinalized = false →
    n = toString id

/-- The invariant of a rollback of session `id` to `B`. -/
structure RollbackInv (cfg : Config) (id : Int32) (B : List (String × Node)) (w : World) :
    Prop where
  frame : RollbackFrame cfg id w
  record : ∃ t, w.record? cfg (toString id) = some t ∧ t.id = id ∧ RollbackStage B w t.state

variable {cfg : Config} {id : Int32} {B : List (String × Node)} {w w' : World}

/-! ## Steps -/

theorem World.record?_congr (h : ∀ q, startsWith q kApexSessionsDir = true → w'.dirs q = w.dirs q)
    (n : String) : w'.record? cfg n = w.record? cfg n := by
  have hd : w'.dirs (join kApexSessionsDir n) = w.dirs (join kApexSessionsDir n) :=
    h _ (by rw [join, String.append_assoc]; exact startsWith_append _ _)
  unfold record? readFile file? node?
  rw [dirName_stateFilePath, hd]

theorem World.sessionNames_congr
    (h : ∀ q, startsWith q kApexSessionsDir = true → w'.dirs q = w.dirs q) :
    w'.sessionNames = w.sessionNames := by
  unfold sessionNames
  rw [h kApexSessionsDir (by decide)]

theorem active_notSession : startsWith kActiveApexPackagesDataDir kApexSessionsDir = false := by
  decide
theorem backup_notSession : startsWith kApexBackupDir kApexSessionsDir = false := by decide
theorem data_notSession : startsWith kApexDataDir kApexSessionsDir = false := by decide

theorem ne_of_startsWith {p q s : String} (hp : startsWith p s = true)
    (hq : startsWith q s = false) : p ≠ q := by
  rintro rfl
  rw [hp] at hq
  cases hq

theorem World.Emptying.sessions (h : w.Emptying w') (q : String)
    (hq : startsWith q kApexSessionsDir = true) : w'.dirs q = w.dirs q := by
  obtain ⟨d, d', _, _, rfl⟩ := h
  exact World.setDir_other _ _ (ne_of_startsWith hq active_notSession)

theorem World.Emptying.notFile (h : w.Emptying w') (hf : w.file? kApexBackupDir = none) :
    w'.file? kApexBackupDir = none := by
  obtain ⟨d, d', _, _, rfl⟩ := h
  rwa [World.file?_setDir_other _ _ (by rw [dirName_backup]; exact active_ne_data.symm)]

theorem World.Restored.sessions (h : w.Restored w') (q : String)
    (hq : startsWith q kApexSessionsDir = true) : w'.dirs q = w.dirs q :=
  h.other q (ne_of_startsWith hq active_notSession) (ne_of_startsWith hq backup_notSession)
    (ne_of_startsWith hq data_notSession)

theorem RollbackFrame.onlyDirs (h : RollbackFrame cfg id w) (hd : w.OnlyDirs w')
    (hn : w.file? kApexBackupDir = none → w'.file? kApexBackupDir = none)
    (hs : ∀ q, startsWith q kApexSessionsDir = true → w'.dirs q = w.dirs q) :
    RollbackFrame cfg id w' where
  unmounted := h.unmounted.onlyDirs hd
  noCheckpoint := hd.inMode.trans h.noCheckpoint
  notFile := hn h.notFile
  listed := by
    rw [World.sessionNames_congr hs]
    exact h.listed
  only := by
    intro n t
    rw [World.sessionNames_congr hs, World.record?_congr hs]
    exact h.only n t

theorem sessionDir_ne_active : getSessionDir id ≠ kActiveApexPackagesDataDir :=
  join_ne (by decide)
theorem sessionDir_ne_data : getSessionDir id ≠ kApexDataDir := join_ne (by decide)
theorem sessionDir_ne_backup : getSessionDir id ≠ kApexBackupDir := join_ne (by decide)

theorem World.Recorded.onlyDirs {b : List UInt8} (h : w.Recorded id b w') : w.OnlyDirs w' := by
  obtain ⟨d, d', _, rfl⟩ := h.eq
  exact World.setDir_onlyDirs _ _ _

theorem RollbackFrame.recorded (h : RollbackFrame cfg id w) {b : List UInt8}
    (hr : w.Recorded id b w') : RollbackFrame cfg id w' where
  unmounted := h.unmounted.onlyDirs hr.onlyDirs
  noCheckpoint := hr.onlyDirs.inMode.trans h.noCheckpoint
  notFile := by
    obtain ⟨d, d', _, rfl⟩ := hr.eq
    rw [World.file?_setDir_other _ _ (by rw [dirName_backup]; exact sessionDir_ne_data.symm)]
    exact h.notFile
  listed := by
    rw [hr.sessionNames]
    exact h.listed
  only := by
    intro n t hn ht hf
    rw [hr.sessionNames] at hn
    by_contra hne
    rw [hr.record?_other hne] at ht
    exact hne (h.only n t hn ht hf)

theorem World.Holds.congr {p : String} (h : w'.dirs p = w.dirs p) : w'.Holds p B ↔ w.Holds p B := by
  unfold World.Holds
  rw [h]

theorem World.HoldsFiles.congr {p : String} (h : w'.dirs p = w.dirs p) :
    w'.HoldsFiles p ↔ w.HoldsFiles p := by
  unfold World.HoldsFiles
  rw [h]

/-- A commit during a rollback: only the stored state changes. -/
theorem RollbackInv.commit (h : RollbackFrame cfg id w) {t : SessionState}
    (ht : t.id = id) {st : State}
    (hr : w.Recorded id (cfg.proto.serialize { t with state := st }) w')
    (hst : RollbackStage B w st) : RollbackInv cfg id B w' := by
  have hb := hr.dirs_other sessionDir_ne_backup.symm
  have ha := hr.dirs_other sessionDir_ne_active.symm
  refine ⟨h.recorded hr, { t with state := st }, ?_, ht, ?_⟩
  · rw [hr.record?, SessionProto.parse_serialize]
  · cases hst with
    | activated h1 h2 =>
      exact .activated ((World.Holds.congr hb).2 h1) ((World.HoldsFiles.congr ha).2 h2)
    | deleting h1 h2 =>
      exact .deleting ((World.Holds.congr hb).2 h1) ((World.HoldsFiles.congr ha).2 h2)
    | restored h1 h2 => exact .restored (hb.trans h1) ((World.Holds.congr ha).2 h2)
    | rolledBack h1 h2 => exact .rolledBack (hb.trans h1) ((World.Holds.congr ha).2 h2)

/-! ## Programs -/

variable {t : SessionState}

theorem wp_commit (hf : RollbackInv cfg id B w) (ht : t.id = id) {st : State}
    (hst : RollbackStage B w st) {Q : Except String Unit → World → Prop}
    (hQ : ∀ w', w.Recorded id (cfg.proto.serialize { t with state := st }) w' → Q (.ok ()) w') :
    wp (kernel .off Sys.NoFault) (RollbackInv cfg id B) (updateStateAndCommit cfg t st) Q w := by
  subst ht
  refine wp_updateStateAndCommit Sys.NoFault.commits hf ?_ ?_ ?_
  · intro hn
    obtain ⟨t', hr, _⟩ := hf.record
    unfold World.record? at hr
    rw [show join (join kApexSessionsDir (toString t.id)) kStateFileName =
      getSessionStateFilePath t.id from rfl, hn] at hr
    cases hr
  · intro w' hr
    exact ⟨RollbackInv.commit hf.frame rfl hr hst, hQ w' hr⟩
  · intro r w' hF
    exact hF.elim

/-- From a complete backup `DoRollback` always gets to the end. -/
theorem wp_doRollback (hf : RollbackInv cfg id B w)
    (hrec : ∃ t, w.record? cfg (toString id) = some t ∧ t.id = id ∧ t.state = .ROLLBACK_IN_PROGRESS)
    (hb : w.Holds kApexBackupDir B) (ha : w.HoldsFiles kActiveApexPackagesDataDir) :
    wp (kernel .off Sys.NoFault) (RollbackInv cfg id B) (doRollback cfg t)
      (fun x w => x = .ok () ∧ RollbackStage B w .ROLLBACK_IN_PROGRESS ∧
        w.dirs kApexBackupDir = none) w := by
  obtain ⟨r, hr, hid, hrs⟩ := hrec
  obtain ⟨db, hdb, rfl⟩ := hb
  obtain ⟨da, hda, hfiles⟩ := ha
  unfold doRollback
  rw [bind_eq, exec_bind]
  refine ⟨hf, trivial, ?_⟩
  rintro _ w' (⟨rfl, rfl⟩ | h)
  case inr => exact h.elim
  dsimp only
  rw [hf.frame.noCheckpoint, if_neg (by simp)]
  refine wp_onFail.2 (wp_restoreBackup Sys.NoFault.commits hf.frame.unmounted hf ?_ ?_ ?_ ?_)
  · rintro (h | h)
    · rw [hdb] at h; cases h
    · rw [hda] at h; cases h
  · intro _
    trivial
  · intro w' he
    have hs := he.sessions
    have hn := he.notFile
    obtain ⟨d, d', hd, hsub, rfl⟩ := he
    rw [hda] at hd
    cases hd
    refine ⟨⟨hf.frame.onlyDirs (World.setDir_onlyDirs _ _ _) hn hs, r, ?_, hid, ?_⟩, ?_⟩
    · rw [World.record?_congr hs, hr]
    · rw [hrs]
      refine .deleting ⟨db, ?_, rfl⟩
        ⟨d', World.setDir_self _ _ _, fun e h => hfiles e (hsub.subset h)⟩
      rw [World.setDir_other _ _ active_ne_backup.symm, hdb]
    · rintro (⟨d, n, hd, hn⟩ | h)
      · rw [hda] at hd
        cases hd
        cases hfiles _ hn
      · rw [hdb] at h; cases h
  · intro w' hR
    obtain ⟨db', d', hdb', hd', hc⟩ := hR.content
    rw [hdb] at hdb'
    cases hdb'
    have hst : RollbackStage db.entries w' .ROLLBACK_IN_PROGRESS := .restored hR.gone ⟨d', hd', hc⟩
    refine ⟨⟨hf.frame.onlyDirs hR.rest hR.notFile hR.sessions, r, ?_, hid, hrs ▸ hst⟩,
      rfl, hst, hR.gone⟩
    rw [World.record?_congr hR.sessions, hr]

theorem wp_rollbackActivatedSession (hf : RollbackInv cfg id B w) (ht : t.id = id)
    (hb : w.Holds kApexBackupDir B) (ha : w.HoldsFiles kActiveApexPackagesDataDir) :
    wp (kernel .off Sys.NoFault) (RollbackInv cfg id B) (rollbackActivatedSession cfg t)
      (fun _ w => ∃ t, w.record? cfg (toString id) = some t ∧ t.state = .ROLLED_BACK) w := by
  unfold rollbackActivatedSession
  rw [bind_eq, exec_bind]
  refine ⟨hf, trivial, ?_⟩
  rintro _ w' (⟨rfl, rfl⟩ | h)
  case inr => exact h.elim
  dsimp only
  rw [hf.frame.noCheckpoint, if_neg (by simp)]
  simp only [bind_eq]
  refine wp_bind.2 (wp_mapErr.2 (wp_commit hf ht (.deleting hb ha) ?_))
  intro w₁ hr
  have hf₁ := RollbackInv.commit (B := B) hf.frame ht hr (.deleting hb ha)
  have hb₁ := (World.Holds.congr (B := B) (hr.dirs_other sessionDir_ne_backup.symm)).2 hb
  have ha₁ := (World.HoldsFiles.congr (hr.dirs_other sessionDir_ne_active.symm)).2 ha
  have hrec : w₁.record? cfg (toString id) = some { t with state := .ROLLBACK_IN_PROGRESS } := by
    rw [hr.record?, SessionProto.parse_serialize]
  refine wp_bind.2 (wp_mapErr.2 ((wp_doRollback hf₁ ⟨_, hrec, ht, rfl⟩ hb₁ ha₁).imp ?_))
  rintro x w₂ hf₂ ⟨rfl, hst, hnone⟩
  unfold commitOrLog
  cases hst with
  | deleting hb' => obtain ⟨d, hd, _⟩ := hb'; rw [hnone] at hd; cases hd
  | restored h1 h2 =>
    refine wp_bind.2 (wp_attempt.2 (wp_commit hf₂ ht (.rolledBack h1 h2) ?_))
    intro w₃ hr₃
    refine ⟨RollbackInv.commit hf₂.frame ht hr₃ (.rolledBack h1 h2),
      { t with state := .ROLLED_BACK }, ?_, rfl⟩
    rw [hr₃.record?, SessionProto.parse_serialize]

theorem World.PlainRestart.inv (hf : RollbackInv cfg id B w) (h : w.PlainRestart w') :
    RollbackInv cfg id B w' := by
  obtain ⟨⟨s, m, rfl⟩, hm⟩ := h
  obtain ⟨hframe, r, hr, hid, hst⟩ := hf
  refine ⟨⟨hframe.unmounted, hm, hframe.notFile, hframe.listed, hframe.only⟩, r, hr, hid, ?_⟩
  generalize r.state = st at hst ⊢
  cases hst with
  | activated h1 h2 => exact .activated h1 h2
  | deleting h1 h2 => exact .deleting h1 h2
  | restored h1 h2 => exact .restored h1 h2
  | rolledBack h1 h2 => exact .rolledBack h1 h2

theorem wp_resumeRollback (hf : RollbackInv cfg id B w) (hr : w.record? cfg (toString id) = some t)
    (ht : t.id = id) (hs : t.state = .ROLLBACK_IN_PROGRESS) :
    wp (kernel .off Sys.NoFault) (RollbackInv cfg id B) (resumeRollback cfg t)
      (fun _ _ => True) w := by
  have hst : RollbackStage B w t.state := by
    obtain ⟨t', hr', _, hst⟩ := hf.record
    rw [hr] at hr'
    cases hr'
    exact hst
  have hmb := hf.frame.unmounted.mounted backup_notApex
  rw [hs] at hst
  unfold resumeRollback
  simp only [bind_eq]
  refine wp_bind.2 (wp_pathExists Sys.NoFault.commits hf ?_)
  intro b hb
  cases hst with
  | deleting h1 h2 =>
    have ⟨d, hd, _⟩ := h1
    rw [hb.2 ⟨⟨true, d.mode⟩, by simp [World.stat, hmb, hd]⟩]
    refine wp_bind.2 ((wp_doRollback hf ⟨t, hr, ht, hs⟩ h1 h2).imp ?_)
    rintro x w₂ hf₂ ⟨rfl, hst, hnone⟩
    cases hst with
    | deleting hb' => obtain ⟨d, hd, _⟩ := hb'; rw [hnone] at hd; cases hd
    | restored h1 h2 =>
      refine wp_bind.2 (wp_attempt.2 (wp_commit hf₂ ht (.rolledBack h1 h2) ?_))
      intro w₃ hr₃
      exact ⟨RollbackInv.commit hf₂.frame ht hr₃ (.rolledBack h1 h2), trivial⟩
  | restored h1 h2 =>
    have hb' : b = false := by
      by_contra hne
      obtain ⟨st, hst⟩ := hb.1 (by simpa using hne)
      simp [World.stat, hmb, h1, hf.frame.notFile] at hst
    subst hb'
    refine wp_bind.2 ⟨hf, wp_bind.2 (wp_attempt.2 (wp_commit hf ht (.rolledBack h1 h2) ?_))⟩
    intro w₃ hr₃
    exact ⟨RollbackInv.commit hf.frame ht hr₃ (.rolledBack h1 h2), trivial⟩

theorem wp_resumeRollbackIfNeeded (hf : RollbackInv cfg id B w) :
    wp (kernel .off Sys.NoFault) (RollbackInv cfg id B) (resumeRollbackIfNeeded cfg)
      (fun _ _ => True) w := by
  unfold resumeRollbackIfNeeded
  rw [bind_eq]
  refine wp_bind.2 (wp_getActiveSession Sys.NoFault.commits.reads
    (hf.frame.unmounted.mounted sessions_notApex) hf ?_)
  intro x hx _ _
  cases x with
  | error e => trivial
  | ok o =>
    cases o with
    | none => exact ⟨hf, trivial⟩
    | some s =>
      -- the session found is the one being rolled back
      obtain ⟨n, hn, hr, hfin⟩ := hx s rfl
      obtain rfl := hf.frame.only n s hn hr hfin
      dsimp only [Then]
      split
      · rename_i hs
        obtain ⟨t', hr', hid, _⟩ := hf.record
        rw [hr] at hr'
        cases hr'
        exact wp_resumeRollback hf hr hid hs
      · exact ⟨hf, trivial⟩

/-! ## Crash safety -/

/-- Where a rollback starts: `s` is the only active session and activated, the active directory
holds `A`, the backup `B`, regular files only, outside fs-checkpoint mode. -/
structure RollbackStart (cfg : Config) (s : SessionState) (A B : List (String × Node)) (w : World) :
    Prop where
  unmounted : w.DataUnmounted
  noCheckpoint : w.inFsCheckpointMode = false
  notFile : w.file? kApexBackupDir = none
  listed : toString s.id ∈ w.sessionNames
  stored : w.record? cfg (toString s.id) = some s
  activated : s.state = .ACTIVATED
  only : ∀ n t, n ∈ w.sessionNames → w.record? cfg n = some t → t.isFinalized = false →
    n = toString s.id
  active : w.Holds kActiveApexPackagesDataDir A
  backup : w.Holds kApexBackupDir B
  files : ∀ e ∈ A ++ B, e.2.file?.isSome

theorem RollbackStart.inv {s : SessionState} {A : List (String × Node)}
    (h : RollbackStart cfg s A B w) :
    w.HoldsFiles kActiveApexPackagesDataDir ∧ RollbackInv cfg s.id B w := by
  have hfiles : w.HoldsFiles kActiveApexPackagesDataDir := by
    obtain ⟨d, hd, hA⟩ := h.active
    refine ⟨d, hd, fun e he => h.files e ?_⟩
    rw [hA] at he
    exact List.mem_append_left _ he
  refine ⟨hfiles, ⟨h.unmounted, h.noCheckpoint, h.notFile, h.listed, h.only⟩, s, h.stored, rfl, ?_⟩
  rw [h.activated]
  exact .activated h.backup hfiles

/-- **A rollback survives any number of crashes**: at every moment the backed-up set is the
content of the backup directory or of the active one, and once `ROLLED_BACK` is stored it is the
content of the active one. -/
theorem rollback_crash_safe {s : SessionState} {A : List (String × Node)}
    (h : RollbackStart cfg s A B w)
    (hc : Crashes (kernel .off Sys.NoFault) World.PlainRestart (rollbackActivatedSession cfg s)
      (resumeRollbackIfNeeded cfg) w w') :
    (w'.Holds kApexBackupDir B ∨ w'.Holds kActiveApexPackagesDataDir B) ∧
      ∃ t, w'.record? cfg (toString s.id) = some t ∧ t.id = s.id ∧
        (t.state = .ROLLED_BACK → w'.Holds kActiveApexPackagesDataDir B) := by
  obtain ⟨hfiles, h0⟩ := h.inv
  have hinv := hc.inv (wp_rollbackActivatedSession h0 rfl h.backup hfiles)
    fun w₁ w₂ hi hr => wp_resumeRollbackIfNeeded (World.PlainRestart.inv hi hr)
  obtain ⟨t, hr, hid, hst⟩ := hinv.record
  refine ⟨?_, t, hr, hid, ?_⟩
  · generalize t.state = st at hst
    cases hst with
    | activated h1 _ => exact Or.inl h1
    | deleting h1 _ => exact Or.inl h1
    | restored _ h2 => exact Or.inr h2
    | rolledBack _ h2 => exact Or.inr h2
  · intro hs
    rw [hs] at hst
    cases hst with
    | rolledBack _ h2 => exact h2

/-- Session 5 is activated, with one updated package and a backup of the one before. -/
def activatedSession : SessionState := ⟨5, .ACTIVATED, []⟩

def activatedWorld : World := .ofDirs
  [ (kApexSessionsDir, ⟨0o700, [("5", .dir)], by decide, by decide⟩),
    (getSessionDir 5, ⟨0o700,
      [("state", .file ⟨1, .bytes (sessionWire.serialize activatedSession)⟩)], by
        decide, by decide⟩),
    (kActiveApexPackagesDataDir,
      ⟨0o755, [("a@2.apex", .file ⟨2, .bytes [2]⟩)], by decide, by decide⟩),
    (kApexBackupDir, ⟨0o700, [("a@1.apex", .file ⟨3, .bytes [1]⟩)], by decide, by decide⟩) ]

theorem activatedStart : RollbackStart deviceConfig activatedSession
    [("a@2.apex", .file ⟨2, .bytes [2]⟩)] [("a@1.apex", .file ⟨3, .bytes [1]⟩)] activatedWorld := by
  have hn : activatedWorld.sessionNames = ["5"] := by rfl
  refine ⟨?_, rfl, ?_, ?_, ?_, rfl, ?_, ⟨_, rfl, rfl⟩, ⟨_, rfl, rfl⟩, ?_⟩
  · intro m hm
    cases hm
  · rfl
  · rw [hn]; decide
  · rfl
  · intro n t h
    rw [hn] at h
    intro _ _
    rw [List.mem_singleton.1 h]
    decide
  · decide

/-- Killed after deleting the updated package, and again after the rename. -/
theorem rollback_crash_safe_killed_twice :
    let w₁ := (runN Sys.run 8 (rollbackActivatedSession deviceConfig activatedSession)
      activatedWorld).2
    let w₂ := (runN Sys.run 9 (resumeRollbackIfNeeded deviceConfig)
      { w₁ with db := [], supportsFsCheckpoints := false, inFsCheckpointMode := false }).2
    (w₂.Holds kApexBackupDir [("a@1.apex", .file ⟨3, .bytes [1]⟩)] ∨
      w₂.Holds kActiveApexPackagesDataDir [("a@1.apex", .file ⟨3, .bytes [1]⟩)]) ∧
    ∃ t, w₂.record? deviceConfig (toString activatedSession.id) = some t ∧
      t.id = activatedSession.id ∧ (t.state = .ROLLED_BACK →
        w₂.Holds kActiveApexPackagesDataDir [("a@1.apex", .file ⟨3, .bytes [1]⟩)]) := by
  exact rollback_crash_safe activatedStart
    (.again (.first (runN_reaches Sys.run_sem _ _ _)) ⟨⟨false, false, rfl⟩, rfl⟩
      (runN_reaches Sys.run_sem _ _ _))

end Apexd
