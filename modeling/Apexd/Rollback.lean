import Apexd.Session

/-!
# Backup and rollback of the active packages

`DeleteBackup`, `BackupActivePackages`, `DoRollback`, `RollbackActivatedSession`,
`RollbackSession`, `ResumeRollback` and the requests made of them.
-/

set_option autoImplicit false

namespace Apexd

open Text Prog

def deleteBackup : ApexM Unit := do
  let exists? ← (pathExists kApexBackupDir).mapErr fun e =>
    "Can't clean " ++ kApexBackupDir ++ " : " ++ e
  if exists? then deleteDirContent kApexBackupDir else ret ()

/-- `backup_path_fn`, for a name that holds no NUL and no slash. -/
def backupPath (m : ApexManifest) : String :=
  kApexBackupDir ++ "/" ++ getPackageId m ++ kApexPackageSuffix

/-- The body of the loop of `BackupActivePackages`. -/
def backupPackage (path : String) : ApexM Unit := do
  match ← sys (.openApex path) with
  | .error e => fail ("Backup failed : " ++ e)
  | .ok apexFile =>
    sys (.link apexFile.path (backupPath apexFile.manifest)) >>=
      check ("Failed to backup " ++ apexFile.path)

def backupActivePackages : ApexM Unit := do
  (createDirIfNeeded kApexBackupDir 0o700).mapErr ("Backup failed : " ++ ·)
  let exists? ← (pathExists kActiveApexPackagesDataDir).mapErr ("Backup failed : " ++ ·)
  if exists? then do
    let activePackages ← (findApexFilesByName kActiveApexPackagesDataDir false).mapErr
      ("Backup failed : " ++ ·)
    deleteBackup.mapErr ("Backup failed : " ++ ·)
    (activePackages.forM backupPackage).onFail (deleteDirContent kApexBackupDir)
  else ret ()

/-- What `DoRollback` logs when it starts deleting. -/
def deletingActivePackages : String :=
  "Deleting existing packages in " ++ kActiveApexPackagesDataDir

/-- `DoRollback` between the checkpoint test and its scope guard. -/
def restoreBackup : ApexM Unit := do
  let backupExists ← pathExists kApexBackupDir
  require backupExists (kApexBackupDir ++ " does not exist")
  let statData ← sys (.stat kActiveApexPackagesDataDir) >>=
    check ("Failed to access " ++ kActiveApexPackagesDataDir)
  sys (.log deletingActivePackages)
  deleteDirContent kActiveApexPackagesDataDir
  sys (.rename kApexBackupDir kActiveApexPackagesDataDir) >>=
    check ("Failed to rename " ++ kApexBackupDir ++ " to " ++ kActiveApexPackagesDataDir)
  sys (.chmod kActiveApexPackagesDataDir statData.mode) >>=
    check ("Failed to restore original permissions for " ++ kActiveApexPackagesDataDir)

def doRollback (cfg : Config) (session : SessionState) : ApexM Unit := do
  let flags ← sys .getFlags
  if flags.inFsCheckpointMode then ret () else
    restoreBackup.onFail (updateStateAndCommit cfg session .ROLLBACK_FAILED)

def rollbackStagedSession (cfg : Config) (session : SessionState) : ApexM Unit :=
  updateStateAndCommit cfg session .ROLLED_BACK

def rollbackActivatedSession (cfg : Config) (session : SessionState) : ApexM Unit := do
  let flags ← sys .getFlags
  if flags.inFsCheckpointMode then ret () else do
    (updateStateAndCommit cfg session .ROLLBACK_IN_PROGRESS).mapErr fun e =>
      "Rollback of session " ++ { session with state := .ROLLBACK_IN_PROGRESS }.print ++
        " failed : " ++ e
    (doRollback cfg { session with state := .ROLLBACK_IN_PROGRESS }).mapErr fun e =>
      "Rollback of session " ++ { session with state := .ROLLBACK_FAILED }.print ++
        " failed : " ++ e
    commitOrLog cfg { session with state := .ROLLBACK_IN_PROGRESS } .ROLLED_BACK

def rollbackSession (cfg : Config) (session : SessionState) : ApexM Unit :=
  match session.state with
  | .ROLLBACK_IN_PROGRESS => ret ()
  | .ROLLED_BACK => ret ()
  | .STAGED => rollbackStagedSession cfg session
  | .ACTIVATED => rollbackActivatedSession cfg session
  | _ => fail ("Can't restore session " ++ session.print ++ " : session is in a wrong state")

def resumeRollback (cfg : Config) (session : SessionState) : ApexM Unit := do
  let backupExists ← pathExists kApexBackupDir
  if backupExists then doRollback cfg session else ret ()
  commitOrLog cfg session .ROLLED_BACK

def resumeRollbackIfNeeded (cfg : Config) : ApexM Unit := do
  match ← getActiveSession cfg with
  | none => ret ()
  | some session =>
    if session.state = .ROLLBACK_IN_PROGRESS then resumeRollback cfg session else ret ()

def rollbackStagedSessionIfAny (cfg : Config) : ApexM Unit := do
  match ← getActiveSession cfg with
  | none => ret ()
  | some session =>
    if session.state = .STAGED then rollbackStagedSession cfg session
    else fail ("Can't rollback " ++ session.print ++ " because it is not in STAGED state")

def rollbackActiveSession (cfg : Config) : ApexM Unit := do
  match ← (getActiveSession cfg).mapErr ("Failed to get active session : " ++ ·) with
  | none => fail "Rollback requested, when there are no active sessions."
  | some session => rollbackSession cfg session

def abortActiveSession (cfg : Config) : ApexM Unit := do
  match ← getActiveSession cfg with
  | none => ret ()
  | some session =>
    match session.state with
    | .VERIFIED => deleteSession session
    | .STAGED => deleteSession session
    | .ACTIVATED => rollbackActivatedSession cfg session
    | _ => fail ("Session " ++ session.print ++ " can't be aborted")

def markStagedSessionReady (cfg : Config) (sessionId : Int32) : ApexM Unit := do
  let session ← getSession cfg sessionId
  match session.state with
  | .STAGED => ret ()
  | .VERIFIED => updateStateAndCommit cfg session .STAGED
  | _ => fail ("Invalid state for session " ++ toString sessionId ++ ". Cannot mark it as ready.")

def markStagedSessionSuccessful (cfg : Config) (sessionId : Int32) : ApexM Unit := do
  let session ← getSession cfg sessionId
  match session.state with
  | .SUCCESS => ret ()
  | .ACTIVATED => do
    deleteBackup.mapErr fun e =>
      "Failed to mark session " ++ session.print ++ " as successful : " ++ e
    updateStateAndCommit cfg session .SUCCESS
  | _ => fail ("Session " ++ session.print ++ " can not be marked successful")

/-! ## What restoring a backup does -/

/-- Some entries of `/data/apex/active` have been deleted. -/
def World.Emptying (w w' : World) : Prop :=
  ∃ d d' : Dir, w.dirs kActiveApexPackagesDataDir = some d ∧ d'.entries.Sublist d.entries ∧
    w' = w.setDir kActiveApexPackagesDataDir (some d')

/-- The backup directory has become `/data/apex/active`. -/
structure World.Restored (w w' : World) : Prop where
  content : ∃ db d' : Dir, w.dirs kApexBackupDir = some db ∧
    w'.dirs kActiveApexPackagesDataDir = some d' ∧ d'.entries = db.entries
  gone : w'.dirs kApexBackupDir = none
  other : ∀ q, q ≠ kActiveApexPackagesDataDir → q ≠ kApexBackupDir → q ≠ kApexDataDir →
    w'.dirs q = w.dirs q
  notFile : w.file? kApexBackupDir = none → w'.file? kApexBackupDir = none
  rest : w.OnlyDirs w'

theorem active_ne_backup : kActiveApexPackagesDataDir ≠ kApexBackupDir := by decide
theorem active_ne_data : kActiveApexPackagesDataDir ≠ kApexDataDir := by decide
theorem dirName_backup : dirName kApexBackupDir = kApexDataDir := by decide
theorem backup_ne_data : kApexBackupDir ≠ kApexDataDir := by decide
theorem active_notApex : startsWith kActiveApexPackagesDataDir kApexRoot = false := by decide
theorem backup_notApex : startsWith kApexBackupDir kApexRoot = false := by decide

/-- `rename` of the backup over an emptied active directory. -/
theorem World.rename_backup {w w' : World} {da db : Dir} {r : Except Errno Unit}
    (ha : w.dirs kActiveApexPackagesDataDir = some da) (hempty : da.entries = [])
    (hb : w.dirs kApexBackupDir = some db)
    (h : (r, w') = w.rename kApexBackupDir kActiveApexPackagesDataDir) :
    r = .ok () ∧ w.Restored w' := by
  unfold rename at h
  rw [hb, ha] at h
  simp only [hempty, List.isEmpty_nil, if_true] at h
  cases h
  refine ⟨rfl, ⟨db, db, hb, setDir_self _ _ _, rfl⟩, ?_, ?_, ?_,
    (dropDir_onlyDirs _ _).trans (setDir_onlyDirs _ _ _)⟩
  · rw [setDir_other _ _ active_ne_backup.symm, dropDir_self]
  · intro q h1 h2 h3
    rw [setDir_other _ _ h1, dropDir_other _ h2 (by rwa [dirName_backup])]
  · intro hf
    rw [file?_setDir_other _ _ (by rw [dirName_backup]; exact active_ne_data.symm)]
    exact dropDir_file? w (by rw [dirName_backup]; exact backup_ne_data) hf

theorem World.Restored.of_emptying {w w' w'' : World} (he : w.Emptying w') (h : w'.Restored w'') :
    w.Restored w'' := by
  obtain ⟨d, d', hd, _, rfl⟩ := he
  obtain ⟨⟨db, d'', hb, ha, hc⟩, gone, other, notFile, rest⟩ := h
  refine ⟨⟨db, d'', ?_, ha, hc⟩, gone, ?_, ?_, (setDir_onlyDirs _ _ _).trans rest⟩
  · rwa [setDir_other _ _ active_ne_backup.symm] at hb
  · intro q h1 h2 h3
    rw [other q h1 h2 h3, setDir_other _ _ h1]
  · intro hf
    refine notFile ?_
    rwa [file?_setDir_other _ _ (by rw [dirName_backup]; exact active_ne_data.symm)]

theorem World.Restored.chmod {w w' w'' : World} {mode : Nat} {r : Except Errno Unit}
    (h : w.Restored w') (hc : (r, w'') = w'.chmod kActiveApexPackagesDataDir mode) :
    r = .ok () ∧ w.Restored w'' := by
  obtain ⟨⟨db, d', hb, ha, he⟩, gone, other, notFile, rest⟩ := h
  unfold World.chmod at hc
  rw [ha] at hc
  cases hc
  refine ⟨rfl, ⟨db, d'.chmod mode, hb, setDir_self _ _ _, he⟩, ?_, ?_, ?_,
    rest.trans (setDir_onlyDirs _ _ _)⟩
  · rwa [setDir_other _ _ active_ne_backup.symm]
  · intro q h1 h2 h3
    rw [setDir_other _ _ h1, other q h1 h2 h3]
  · intro hf
    rw [file?_setDir_other _ _ (by rw [dirName_backup]; exact active_ne_data.symm)]
    exact notFile hf

section Commits

variable {cfg : Config} {V : Watch} {F : Faults} {I : World → Prop} {w : World}

/-- **Restoring**: nothing, or a part of the active packages deleted, or the whole backup in
their place. -/
theorem wp_restoreBackup (hF : F.Commits) {Q : Except String Unit → World → Prop}
    (hm : w.DataUnmounted) (hI : I w)
    (hnone : w.dirs kApexBackupDir = none ∨ w.dirs kActiveApexPackagesDataDir = none →
      ∀ e, Q (.error e) w)
    (hlog : (∃ st, w.stat kApexBackupDir = .ok st) → V.log w)
    (hemp : ∀ w', w.Emptying w' → I w' ∧
      ((∃ d n, w.dirs kActiveApexPackagesDataDir = some d ∧ (n, Node.dir) ∈ d.entries) ∨
        w.dirs kApexBackupDir = none → ∀ e, Q (.error e) w'))
    (hres : ∀ w', w.Restored w' → I w' ∧ Q (.ok ()) w') :
    wp (kernel V F) I restoreBackup Q w := by
  have hma := hm.mounted active_notApex
  have hmb := hm.mounted backup_notApex
  unfold restoreBackup
  simp only [bind_eq, exec_bind]
  refine wp_bind.2 (wp_pathExists hF hI ?_)
  intro b hb
  refine wp_bind.2 (wp_require.2 ⟨hI, ?_⟩)
  cases b with
  | false =>
    refine hnone (Or.inl ?_) _
    by_contra hne
    obtain ⟨d, hd⟩ := Option.ne_none_iff_exists'.1 hne
    exact absurd (hb.2 ⟨⟨true, d.mode⟩, by simp [World.stat, hmb, hd]⟩) (by simp)
  | true =>
  refine ⟨hI, trivial, ?_⟩
  rintro r w' (⟨rfl, rfl⟩ | hf)
  case inr => exact (hF _ _ _ _ hf).elim
  refine wp_bind.2 ?_
  cases hs : w'.stat kActiveApexPackagesDataDir with
  | error e =>
    refine ⟨hI, hnone (Or.inr ?_) _⟩
    by_contra hne
    obtain ⟨d, hd⟩ := Option.ne_none_iff_exists'.1 hne
    simp [World.stat, hma, hd] at hs
  | ok st =>
  refine ⟨hI, hI, hlog (hb.1 rfl), ?_⟩
  rintro r w'' (hw | hf)
  case inr => exact (hF _ _ _ _ hf).elim
  have : w'' = w' := hw
  subst this
  cases hda : w''.dirs kActiveApexPackagesDataDir with
  | none => exact wp_bind.2 (wp_deleteDirContent_none hF hma hda hI fun e => hnone (Or.inr hda) _)
  | some da =>
  refine wp_bind.2 (wp_deleteDirContent hF hma hda ?_ ?_ ?_)
  · intro d' _ hsub
    exact (hemp _ ⟨da, d', hda, hsub, rfl⟩).1
  · -- everything is deleted: the backup takes the place
    intro d' _ hnil
    have hE : w''.Emptying (w''.setDir kActiveApexPackagesDataDir (some d')) :=
      ⟨da, d', hda, by simp [hnil], rfl⟩
    refine ⟨(hemp _ hE).1, trivial, ?_⟩
    rintro r w₁ (hr | hf)
    case inr => exact (hF _ _ _ _ hf).elim
    cases hdb : w''.dirs kApexBackupDir with
    | none =>
      have hr' : (r, w₁) = _ := hr
      unfold World.rename at hr'
      rw [World.setDir_other _ _ active_ne_backup.symm, hdb] at hr'
      cases hr'
      exact ⟨(hemp _ hE).1, (hemp _ hE).2 (Or.inr hdb) _⟩
    | some db =>
    obtain ⟨rfl, hR⟩ := World.rename_backup (World.setDir_self _ _ _) hnil
      (by rw [World.setDir_other _ _ active_ne_backup.symm, hdb]) hr
    have hR' := World.Restored.of_emptying hE hR
    refine ⟨(hres _ hR').1, trivial, ?_⟩
    rintro r w₂ (hr | hf)
    case inr => exact (hF _ _ _ _ hf).elim
    obtain ⟨rfl, hR''⟩ := hR'.chmod hr
    exact hres _ hR''
  · rintro d' e _ hsub ⟨n, hn⟩
    exact (hemp _ ⟨da, d', hda, hsub, rfl⟩).2 (Or.inl ⟨da, n, hda, hn⟩) _

end Commits

end Apexd
