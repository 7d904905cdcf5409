import Apexd.RollbackMode

/-!
# What a resumed rollback has restored

* `Pending` — the session is not stored as rolled back.
* `wp_restoreBackup_refusals` — where `DoRollback` restores, success means the backed-up content.
* `resumeRollback_restores_iff` — a resumed rollback that ends as `ROLLED_BACK` has restored the
  backup exactly when the boot is not in fs-checkpoint mode, or there was nothing to restore.
-/

set_option autoImplicit false

namespace Apexd

open Text Prog

/-- A directory holds exactly these entries, in some order. -/
def World.HoldsPerm (w : World) (p : String) (B : List (String × Node)) : Prop :=
  ∃ d, w.dirs p = some d ∧ d.entries.Perm B

/-- The session is not stored as rolled back. -/
structure Pending (cfg : Config) (id : Int32) (w : World) : Prop where
  sessions : SessionsInv cfg w
  notDone : w.storedState cfg id ≠ some .ROLLED_BACK

section Resume

variable {cfg : Config} {V : Watch} {F : Faults} {id : Int32} {t : SessionState} {db : Dir}
  {B : List (String × Node)} {J : World → Prop} {w w' : World}

theorem World.HoldsPerm.congr {p : String} (h : w'.dirs p = w.dirs p) :
    w'.HoldsPerm p B ↔ w.HoldsPerm p B := by
  unfold World.HoldsPerm
  rw [h]

theorem Pending.same (h : Pending cfg id w) (hs : w.SameSessions cfg w') : Pending cfg id w' where
  sessions := h.sessions.same hs
  notDone := by
    rw [hs.storedState]
    exact h.notDone

/-- `rename` of the backup: nothing, or it has become the active directory. -/
theorem wp_rename_refusals {f : Except Errno Unit → ApexM Unit}
    {Q : Except String Unit → World → Prop}
    (hF : F.Refusals) (hJ : ∀ w w', J w → w.SameSessions cfg w' → J w') (h : J w)
    (hb : w.dirs kApexBackupDir = some db) (herr : ∀ e, wp (kernel V F) J (f (.error e)) Q w)
    (hok : ∀ w', J w' → w'.dirs kActiveApexPackagesDataDir = some db →
      wp (kernel V F) J (f (.ok ())) Q w') :
    wp (kernel V F) J ((sys (.rename kApexBackupDir kActiveApexPackagesDataDir)).bind f) Q w := by
  refine ⟨h, trivial, ?_⟩
  rintro r w' (hs | hf)
  · have hsame : w.SameSessions cfg w' := sameSessions_rename hs
    have hw : (r, w') = w.rename kApexBackupDir kActiveApexPackagesDataDir := hs
    unfold World.rename at hw
    rw [hb] at hw
    dsimp only at hw
    split at hw
    · cases hw
      exact herr _
    split at hw
    · cases hw
      exact hok _ (hJ _ _ h hsame) (World.setDir_self _ _ _)
    · cases hw
      exact herr _
  · obtain ⟨⟨e, _, rfl⟩, rfl⟩ := hF _ _ _ _ hf
    exact herr e

/-- **What restoring has restored** when it says so: the whole backup. -/
theorem wp_restoreBackup_refusals (hF : F.Refusals)
    (hJ : ∀ w w', J w → w.SameSessions cfg w' → J w')
    (h : J w) (hb : w.dirs kApexBackupDir = some db) : wp (kernel .off F) J restoreBackup
      (fun x w' => x = .ok () → w'.HoldsPerm kActiveApexPackagesDataDir db.entries) w := by
  have hlook : ∀ {α : Type} {p : ApexM α} {f : α → ApexM Unit}, p.Uses Looks →
      (∀ a, wp (kernel .off F) J (f a)
        (fun x w' => x = .ok () → w'.HoldsPerm kActiveApexPackagesDataDir db.entries) w) →
      wp (kernel .off F) J (p.bind f)
        (fun x w' => x = .ok () → w'.HoldsPerm kActiveApexPackagesDataDir db.entries) w := by
    intro α p f hp hok
    have hlook := hp.wp (K := kernel .off F) (I := fun _ => True) (w := w)
      (fun c _ hc _ => by cases c <;> trivial) (fun _ _ _ _ _ _ _ => trivial) trivial
    exact hlook.bind_stays hp (fun c r w' hc hs => hc.kept hF.still hs) h (fun a _ => hok a)
      fun e _ he => by cases he
  unfold restoreBackup
  simp only [bind_eq]
  refine hlook (uses_pathExists trivial) fun exists? => ?_
  refine hlook (uses_require _ _) fun _ => ?_
  refine hlook ⟨trivial, fun r => uses_check _ r⟩ fun statData => ?_
  refine hlook (p := sys (.log deletingActivePackages)) ⟨trivial, fun _ => trivial⟩ fun _ => ?_
  -- deleting touches neither the records nor the backup
  have hdel : wp (kernel .off F) (fun w' => J w' ∧ w'.dirs kApexBackupDir = some db)
      (deleteDirContent kActiveApexPackagesDataDir)
      (fun _ w' => J w' ∧ w'.dirs kApexBackupDir = some db) w := by
    refine wp_deleteDirContent_keeps hF (fun n w r w' hn hw hu => ?_) ⟨h, hb⟩
    refine ⟨hJ _ _ hw.1 (sameSessions_unlink (notSession_active (below_join _ n)) hu), ?_⟩
    rw [← hw.2]
    rcases w.unlink_cases (join kActiveApexPackagesDataDir n) with ⟨e, he, _⟩ | ⟨d, f, _, _, he⟩
    · rw [he] at hu; cases hu; rfl
    · rw [he, dirName_join hn] at hu
      cases hu
      exact World.setDir_other _ _ active_ne_backup.symm
  refine wp_bind.2 (hdel.mono (fun _ hI => hI.1) ?_)
  rintro (e | _) w₁ - ⟨h₁, hb₁⟩
  · rintro ⟨⟩
  dsimp only [Then]
  rw [Prog.bind_assoc]
  apply wp_rename_refusals hF hJ h₁ hb₁
  · exact fun e => ⟨h₁, fun he => by cases he⟩
  intro w₂ h₂ ha₂
  refine ⟨h₂, trivial, ?_⟩
  rintro r w₃ (hs | hf)
  · have h₃ := hJ _ _ h₂ (sameSessions_chmod hs)
    have hw : (r, w₃) = w₂.chmod kActiveApexPackagesDataDir statData.mode := hs
    unfold World.chmod at hw
    rw [ha₂] at hw
    cases hw
    exact ⟨h₃, fun _ => ⟨_, World.setDir_self _ _ _, List.Perm.refl _⟩⟩
  · obtain ⟨⟨e, _, rfl⟩, rfl⟩ := hF _ _ _ _ hf
    exact ⟨h₂, fun he => by cases he⟩

theorem wp_doRollback_refusals (hF : F.Refusals) (h : Pending cfg id w) (ht : t.id = id)
    (hb : w.dirs kApexBackupDir = some db)
    (hmode : w.inFsCheckpointMode = false ∨ w.HoldsPerm kActiveApexPackagesDataDir db.entries) :
    wp (kernel .off F) (Pending cfg id) (doRollback cfg t)
      (fun x w' => x = .ok () → w'.HoldsPerm kActiveApexPackagesDataDir db.entries) w := by
  unfold doRollback
  rw [bind_eq, exec_bind]
  refine ⟨h, trivial, ?_⟩
  rintro _ w' (⟨rfl, rfl⟩ | hf)
  case inr => exact (hF _ _ _ _ hf).1.elim
  dsimp only
  split
  · rename_i hin
    refine ⟨h, fun _ => hmode.resolve_left ?_⟩
    rw [hin]
    decide
  refine wp_onFail.2 ((wp_restoreBackup_refusals hF (fun _ _ h hs => h.same hs) h hb).imp ?_)
  rintro (e | _) w₁ h₁ hq
  · -- a failure is recorded, or the record stays
    apply wp_updateStateAndCommit_refusals hF h₁
    · rintro _ ⟨⟩
    · intro w₂ hr
      subst ht
      refine ⟨⟨h₁.sessions.commit (t := { t with state := .ROLLBACK_FAILED }) hr
        (by rintro ⟨⟩), ?_⟩, by rintro ⟨⟩⟩
      unfold World.storedState
      rw [hr.stored, if_pos rfl, Option.map_some]
      rintro ⟨⟩
  · exact hq

/-- Outside fs-checkpoint mode a successful `DoRollback` has put the backup in place. -/
theorem wp_doRollback_content (hF : F.Refusals) (hb : w.dirs kApexBackupDir = some db)
    (hmode : w.inFsCheckpointMode = false) : wp (kernel .off F) (fun _ => True) (doRollback cfg t)
      (fun x w' => x = .ok () → w'.HoldsPerm kActiveApexPackagesDataDir db.entries) w := by
  unfold doRollback
  rw [bind_eq, exec_bind]
  refine ⟨trivial, trivial, ?_⟩
  rintro _ w' (⟨rfl, rfl⟩ | hf)
  case inr => exact (hF _ _ _ _ hf).1.elim
  dsimp only
  rw [hmode, if_neg (by decide)]
  refine wp_onFail.2 ((@wp_restoreBackup_refusals cfg _ _ _ _ hF (fun _ _ _ _ => trivial)
    trivial hb).imp ?_)
  rintro (e | _) w₁ - hq
  · refine wp_updateStateAndCommit_refusals hF trivial ?_ fun w₂ _ => ⟨trivial, ?_⟩
    · rintro _ ⟨⟩
    · rintro ⟨⟩
  · exact hq

/-- What must hold of a resumed rollback to `B`. -/
def RestoredIfDone (cfg : Config) (id : Int32) (B : List (String × Node)) (w : World) : Prop :=
  w.storedState cfg id = some .ROLLED_BACK → w.HoldsPerm kActiveApexPackagesDataDir B

theorem Pending.restoredIfDone (h : Pending cfg id w) : RestoredIfDone cfg id B w :=
  fun hd => absurd hd h.notDone

theorem wp_resumeRollbackIfNeeded_refusals (hF : F.Refusals) (h : SessionsInv cfg w)
    (hr : w.record? cfg (toString t.id) = some t) (ht : t.state = .ROLLBACK_IN_PROGRESS)
    (hb : w.dirs kApexBackupDir = some db)
    (hmode : w.inFsCheckpointMode = false ∨ w.HoldsPerm kActiveApexPackagesDataDir db.entries) :
    wp (kernel .off F) (RestoredIfDone cfg t.id db.entries) (resumeRollbackIfNeeded cfg)
      (fun _ _ => True) w := by
  have hpend : Pending cfg t.id w := by
    refine ⟨h, ?_⟩
    unfold World.storedState
    rw [hr, Option.map_some, ht]
    decide
  unfold resumeRollbackIfNeeded
  rw [bind_eq]
  refine (wp_getActiveSession_honest (I := fun _ => True) hF.honest trivial).bind_stays
    (uses_getActiveSession (S := Looks) trivial fun _ => trivial)
    (fun c r w' hc hs => hc.kept hF.still hs) hpend.restoredIfDone ?_ fun _ _ => trivial
  rintro (_ | u) ⟨-, hu⟩
  · exact ⟨hpend.restoredIfDone, trivial⟩
  dsimp only
  split
  case isFalse => exact ⟨hpend.restoredIfDone, trivial⟩
  -- the session found is the one that is stored
  obtain ⟨⟨n, hn⟩, hf⟩ := hu u rfl
  have hfin : t.isFinalized = false := by
    unfold SessionState.isFinalized
    rw [ht]
  obtain rfl := h.one n u _ t hn hf hr hfin
  rw [hr] at hn
  cases hn
  unfold resumeRollback
  simp only [bind_eq]
  refine (wp_pathExists_refusals (I := fun _ => True) hF trivial).bind_stays
    (uses_pathExists (S := Looks) trivial) (fun c r w' hc hs => hc.kept hF.still hs)
    hpend.restoredIfDone ?_ fun _ _ => trivial
  rintro b ⟨-, hexists⟩
  rw [(hexists b rfl).2 ⟨⟨true, db.mode⟩, by
    unfold World.stat
    rw [h.unmounted.mounted backup_notApex, hb]⟩]
  have hroll := (wp_doRollback_refusals hF hpend rfl hb hmode).imp fun _ _ hI hq => And.intro hI hq
  refine wp_bind.2 (hroll.mono (fun _ hI => hI.restoredIfDone) ?_)
  rintro (e | _) w₁ - ⟨h₁, hq⟩
  · trivial
  have hheld := hq rfl
  unfold commitOrLog
  refine wp_bind.2 (wp_attempt.2 (wp_updateStateAndCommit_refusals hF h₁.restoredIfDone
    (fun e => ⟨h₁.restoredIfDone, trivial⟩) ?_))
  intro w₂ hr₂
  have h₂ : RestoredIfDone cfg t.id db.entries w₂ := fun _ =>
    (World.HoldsPerm.congr (hr₂.dirs_other sessionDir_ne_active.symm)).2 hheld
  exact ⟨h₂, h₂, trivial⟩

/-- In fs-checkpoint mode a resumed rollback that is not disturbed is recorded as done, and the
active directory is as it was. -/
theorem wp_resumeRollbackIfNeeded_checkpoint (h : SessionsInv cfg w)
    (hr : w.record? cfg (toString t.id) = some t) (ht : t.state = .ROLLBACK_IN_PROGRESS)
    (hmode : w.inFsCheckpointMode = true) :
    wp (kernel .off Sys.NoFault) (fun _ => True) (resumeRollbackIfNeeded cfg)
      (fun _ w' => w'.storedState cfg t.id = some .ROLLED_BACK ∧
        w'.dirs kActiveApexPackagesDataDir = w.dirs kActiveApexPackagesDataDir) w := by
  have hfin : t.isFinalized = false := by
    unfold SessionState.isFinalized
    rw [ht]
  have hcommit : wp (kernel .off Sys.NoFault) (fun _ => True) (commitOrLog cfg t .ROLLED_BACK)
      (fun _ w' => w'.storedState cfg t.id = some .ROLLED_BACK ∧
        w'.dirs kActiveApexPackagesDataDir = w.dirs kActiveApexPackagesDataDir) w := by
    unfold commitOrLog
    refine wp_bind.2 (wp_attempt.2 ⟨trivial, trivial, ?_⟩)
    rintro r w' (hs | hf)
    case inr => exact hf.elim
    obtain ⟨rfl, hrec⟩ := World.writeFile_record hs hr
    refine ⟨trivial, trivial, ?_, hrec.dirs_other sessionDir_ne_active.symm⟩
    unfold World.storedState
    rw [hrec.stored, if_pos rfl]
    rfl
  unfold resumeRollbackIfNeeded
  rw [bind_eq]
  refine wp_bind.2 (wp_getActiveSession Sys.NoFault.commits.reads h.mounted trivial
    fun x _ hsome _ => ?_)
  rw [hsome _ t (h.listed hr) hr hfin fun m u _ hu hfu => h.one m u _ t hu hfu hr hfin]
  dsimp only [Then]
  rw [if_pos ht]
  unfold resumeRollback
  simp only [bind_eq]
  refine wp_bind.2 (wp_pathExists Sys.NoFault.commits trivial fun b _ => ?_)
  cases b with
  | false => exact hcommit
  | true =>
    unfold doRollback
    refine wp_bind.2 ⟨trivial, trivial, ?_⟩
    rintro _ w' (⟨rfl, rfl⟩ | hf)
    case inr => exact hf.elim
    dsimp only [ret_bind]
    rw [if_pos hmode]
    exact ⟨trivial, hcommit⟩

/-- The calls a rollback makes. -/
def RollbackCalls : Sys → Prop
  | .stat _ => True
  | .readDir _ => True
  | .readFile _ => True
  | .getFlags => True
  | .log _ => True
  | .unlink _ => True
  | .rename _ _ => True
  | .chmod _ _ => True
  | .writeFile _ _ => True
  | _ => False

/-- Each of them has a normal outcome. -/
theorem RollbackCalls.answered {c : Sys} (hc : RollbackCalls c) (w : World) :
    ∃ r w', (kernel V F).sem c w r w' := by
  have hrun : ∃ x, c.run w = some x := by
    cases c <;> first | exact hc.elim | exact ⟨_, rfl⟩
  obtain ⟨⟨r, w'⟩, hx⟩ := hrun
  exact ⟨r, w', Sys.run_sem c w r w' hx⟩

theorem uses_resumeRollbackIfNeeded : (resumeRollbackIfNeeded cfg).Uses RollbackCalls := by
  have hcommit : ∀ u st, (updateStateAndCommit cfg u st).Uses RollbackCalls :=
    fun u st => uses_updateStateAndCommit trivial
  have hlog : ∀ u st, (commitOrLog cfg u st).Uses RollbackCalls :=
    fun u st => uses_bind (uses_attempt (hcommit u st)) fun _ => trivial
  have hrestore : restoreBackup.Uses RollbackCalls := by
    refine uses_bind (uses_pathExists trivial) fun b => uses_bind (uses_require _ _) fun _ => ?_
    refine uses_bind ⟨trivial, fun r => uses_check _ r⟩ fun st => uses_exec_bind trivial fun _ => ?_
    refine uses_bind (uses_deleteDirContent trivial fun _ => trivial) fun _ => ?_
    refine uses_bind ⟨trivial, fun r => uses_check _ r⟩ fun _ => ⟨trivial, fun r => uses_check _ r⟩
  have hroll : ∀ u, (doRollback cfg u).Uses RollbackCalls := by
    intro u
    refine uses_exec_bind trivial fun flags => ?_
    split
    · trivial
    · exact uses_onFail hrestore (hcommit u _)
  refine uses_bind (uses_getActiveSession trivial fun _ => trivial) fun o => ?_
  cases o with
  | none => trivial
  | some u =>
    dsimp only
    split
    · refine uses_bind (uses_pathExists trivial) fun b => ?_
      cases b with
      | false => exact hlog u _
      | true => exact uses_bind (hroll u) fun _ => hlog u _
    · trivial

/-- **A resumed rollback that is recorded as done has restored the backup** exactly when the boot is
not in fs-checkpoint mode, or the active directory held the backed-up content already. -/
theorem resumeRollback_restores_iff (h : SessionsInv cfg w)
    (hr : w.record? cfg (toString t.id) = some t) (ht : t.state = .ROLLBACK_IN_PROGRESS)
    (hb : w.dirs kApexBackupDir = some db) :
    (∀ p w', Reaches (kernel .off Sys.Refused) (resumeRollbackIfNeeded cfg) w p w' →
      w'.storedState cfg t.id = some .ROLLED_BACK →
        w'.HoldsPerm kActiveApexPackagesDataDir db.entries) ↔
      w.inFsCheckpointMode = false ∨ w.HoldsPerm kActiveApexPackagesDataDir db.entries := by
  constructor
  · intro hall
    cases hmode : w.inFsCheckpointMode with
    | false => exact Or.inl rfl
    | true =>
      -- the undisturbed run ends as rolled back
      obtain ⟨x, w', hends, hdone, hsame⟩ := (wp_resumeRollbackIfNeeded_checkpoint h hr ht
        hmode).exists_ends uses_resumeRollbackIfNeeded fun c w hc _ => hc.answered w
      refine Or.inr ((World.HoldsPerm.congr hsame).1 (hall _ w' (Reaches.mono hends ?_) hdone))
      exact fun c w r w' hs => Or.inl (hs.resolve_right id)
  · intro hmode p w' hreach
    exact ((wp_resumeRollbackIfNeeded_refusals Sys.Refused.refusals h hr ht hb hmode).reaches
      hreach).inv

end Resume

/-! ## A rollback that is resumed in another mode -/

/-- The device of `activatedWorld` after a rollback has begun, booted in this mode. -/
def resumedWorld (inMode : Bool) : World :=
  { (activatedWorld.writeFile (getSessionStateFilePath 5)
      (sessionWire.serialize { activatedSession with state := .ROLLBACK_IN_PROGRESS })).2 with
    supportsFsCheckpoints := inMode, inFsCheckpointMode := inMode }

theorem resumedWorld_sessions (inMode : Bool) : SessionsInv deviceConfig (resumedWorld inMode) := by
  have hr : activatedWorld.record? deviceConfig (toString (5 : Int32)) = some activatedSession := by
    decide
  obtain ⟨-, hrec⟩ := World.writeFile_record (b := sessionWire.serialize
    { activatedSession with state := .ROLLBACK_IN_PROGRESS }) rfl hr
  refine (activatedWorld_sessions.commit
    (t := { activatedSession with state := .ROLLBACK_IN_PROGRESS })
    hrec fun _ n u hu hfu => ?_).same (sameSessions_mounts rfl fun hm => hm)
  exact activatedWorld_sessions.one n u _ _ hu hfu hr rfl

/-- Outside fs-checkpoint mode the backup of `resumedWorld` is restored. -/
theorem resumeRollback_restores : ¬ ∃ p w', Reaches (kernel .off Sys.Refused)
    (resumeRollbackIfNeeded deviceConfig) (resumedWorld false) p w' ∧
    w'.storedState deviceConfig 5 = some .ROLLED_BACK ∧
    ¬ w'.HoldsPerm kActiveApexPackagesDataDir [("a@1.apex", .file ⟨3, .bytes [1]⟩)] := by
  rintro ⟨p, w', hr, hs, hnot⟩
  exact hnot ((resumeRollback_restores_iff
    (t := { activatedSession with state := .ROLLBACK_IN_PROGRESS })
    (resumedWorld_sessions false) (by decide) rfl rfl).2 (Or.inl rfl) p w' hr hs)

/-- In fs-checkpoint mode nothing is restored, and `ROLLED_BACK` is recorded all the same. -/
theorem resumeRollback_restores_nothing : ¬ ∀ p w', Reaches (kernel .off Sys.Refused)
    (resumeRollbackIfNeeded deviceConfig) (resumedWorld true) p w' →
    w'.storedState deviceConfig 5 = some .ROLLED_BACK →
    w'.HoldsPerm kActiveApexPackagesDataDir [("a@1.apex", .file ⟨3, .bytes [1]⟩)] := by
  intro hclaim
  have hdone : (runN Sys.run 30 (resumeRollbackIfNeeded deviceConfig)
      (resumedWorld true)).2.storedState deviceConfig 5 = some .ROLLED_BACK := by
    decide
  obtain ⟨d, hd, hperm⟩ := hclaim _ _ (runN_reaches Sys.run_sem 30 _ _) hdone
  have hleft : ((runN Sys.run 30 (resumeRollbackIfNeeded deviceConfig)
      (resumedWorld true)).2.dirs kActiveApexPackagesDataDir).map (·.entries) =
        some [("a@2.apex", .file ⟨2, .bytes [2]⟩)] := by
    decide
  rw [hd, Option.map_some, List.perm_singleton.1 hperm] at hleft
  exact absurd hleft (by decide)

end Apexd
