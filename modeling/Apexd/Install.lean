import Apexd.Binder
import Apexd.HookMounts
import Apexd.StageFrame
import Apexd.Unmount

/-!
# What binder calls install

Packages are activated from `/data/apex/active`, and a rollback puts back what is in
`/data/apex/backup`.

* `World.Stores` — the files of the two directories; `BringsNone` — the calls that bring no other
  file into them.
* `bringsNone_step` — one call, whatever is refused or cut short; the `uses_*` theorems give it for
  the programs.
* `Lasting.keeps_call` — a call that stages no packages at once keeps what lasts while no file comes
  in.
-/

set_option autoImplicit false

namespace Apexd

open Text Prog

/-- Any call may be refused; a write or a removal may get only part of the way. -/
def Sys.Faulty : Faults := fun c w r w' => Sys.Refused c w r w' ∨ Sys.Torn c w r w'

theorem Sys.Faulty.still : Faults.Still Sys.Faulty := by
  rintro c w r w' hc (h | h)
  · exact h.2
  · cases c <;> first | exact hc.elim | exact h.elim

theorem Sys.Faulty.honest : Faults.Honest Sys.Faulty where
  readDir p w r w' h := by
    rcases h with ⟨⟨e, _, hr⟩, hw⟩ | h
    · exact ⟨⟨e, hr⟩, hw⟩
    · exact h.elim
  readFile p w r w' h := by
    rcases h with h | h
    · exact h
    · exact h.elim

/-- Where packages are activated from and rolled back to. -/
def packageDirs : List String := [kActiveApexPackagesDataDir, kApexBackupDir]

/-- The file is in one of them. -/
def World.Stores (w : World) (f : File) : Prop :=
  ∃ p ∈ packageDirs, ∃ d, w.dirs p = some d ∧ ∃ n, (n, Node.file f) ∈ d.entries

/-- No file has come in. -/
def World.NoneNew (w w' : World) : Prop := ∀ f, w'.Stores f → w.Stores f

/-- The calls that bring no other file into them. -/
def BringsNone : Sys → Prop
  | .link src dst => dirName src ∈ packageDirs ∨ dirName dst ∉ packageDirs
  | .rename src dst => src ∈ packageDirs ∨ dst ∉ packageDirs
  | .writeFile p _ => dirName p ∉ packageDirs
  | _ => True

section Calls

variable {w w' w'' : World} {p : String}

theorem World.NoneNew.refl (w : World) : w.NoneNew w := fun _ h => h

theorem World.NoneNew.trans (h : w.NoneNew w') (h' : w'.NoneNew w'') :
    w.NoneNew w'' := fun f hf => h f (h' f hf)

theorem World.NoneNew.of_dirs (h : w'.dirs = w.dirs) : w.NoneNew w' := by
  intro f hf
  unfold World.Stores at hf
  rwa [h] at hf

/-- A directory with what was stored before. -/
theorem World.noneNew_setDir {d' : Option Dir}
    (h : ∀ d, d' = some d → p ∈ packageDirs → ∀ n f, (n, Node.file f) ∈ d.entries → w.Stores f) :
    w.NoneNew (w.setDir p d') := by
  rintro f ⟨q, hq, d, hd, n, hm⟩
  by_cases hqp : q = p
  · subst hqp
    rw [World.setDir_self] at hd
    exact h d hd hq n f hm
  · rw [World.setDir_other _ _ hqp] at hd
    exact ⟨q, hq, d, hd, n, hm⟩

/-- A directory with some of its files. -/
theorem World.noneNew_shrink {d d' : Dir} (hd : w.dirs p = some d)
    (h : ∀ n f, (n, Node.file f) ∈ d'.entries → (n, Node.file f) ∈ d.entries) :
    w.NoneNew (w.setDir p (some d')) := by
  refine World.noneNew_setDir ?_
  rintro _ ⟨⟩ hp n f hm
  exact ⟨p, hp, d, hd, n, h n f hm⟩

theorem World.noneNew_dropDir (w : World) (p : String) : w.NoneNew (w.dropDir p) := by
  have hnone : ∀ v : World, v.NoneNew (v.setDir p none) := fun v =>
    World.noneNew_setDir fun d hd => by cases hd
  unfold World.dropDir
  split
  · exact hnone w
  · rename_i parent hd
    exact (World.noneNew_shrink hd fun n f hm => (List.mem_filter.1 hm).1).trans (hnone _)

theorem World.noneNew_writeFile (w : World) (b : List UInt8) (hp : dirName p ∉ packageDirs) :
    w.NoneNew (w.writeFile p b).2 := by
  rcases w.writeFile_cases p b with ⟨he, _⟩ | ⟨d, d', _, he, _⟩
  · rw [he]
    exact .refl w
  · rw [he]
    exact World.noneNew_setDir fun _ _ hm => absurd hm hp

theorem World.noneNew_mkdir {mode : Nat} {r : Except Errno Unit} (h : (r, w') = w.mkdir p mode) :
    w.NoneNew w' := by
  rcases w.mkdir_cases p mode with ⟨e, he⟩ | ⟨parent, _, hd, _, he⟩
  · rw [he] at h
    cases h
    exact .refl w
  · rw [he] at h
    cases h
    refine (World.noneNew_shrink hd fun n f hm => ?_).trans (World.noneNew_setDir ?_)
    · rcases Dir.mem_insert.1 hm with he | ⟨hm, _⟩
      · cases he
      · exact hm
    · rintro _ ⟨⟩ _ n f hm
      cases hm

theorem World.noneNew_chmod {mode : Nat} {r : Except Errno Unit} (h : (r, w') = w.chmod p mode) :
    w.NoneNew w' := by
  rcases w.chmod_cases p mode with ⟨e, he⟩ | ⟨d, hd, he⟩
  · rw [he] at h
    cases h
    exact .refl w
  · rw [he] at h
    cases h
    exact World.noneNew_shrink hd fun _ _ hm => hm

theorem World.noneNew_rmdir {r : Except Errno Unit} (h : (r, w') = w.rmdir p) : w.NoneNew w' := by
  rcases w.rmdir_cases p with ⟨e, he⟩ | ⟨d, _, _, _, he⟩
  · rw [he] at h
    cases h
    exact .refl w
  · rw [he] at h
    cases h
    exact w.noneNew_dropDir p

theorem World.noneNew_unlink {r : Except Errno Unit} (h : (r, w') = w.unlink p) : w.NoneNew w' := by
  rcases w.unlink_cases p with ⟨e, he, _⟩ | ⟨d, f, hd, _, he⟩
  · rw [he] at h
    cases h
    exact .refl w
  · rw [he] at h
    cases h
    exact World.noneNew_shrink hd fun n f hm => (Dir.mem_erase.1 hm).1

theorem World.noneNew_link {src dst : String} {r : Except Errno Unit}
    (hc : dirName src ∈ packageDirs ∨ dirName dst ∉ packageDirs) (h : (r, w') = w.link src dst) :
    w.NoneNew w' := by
  rcases w.link_cases src dst with ⟨e, he⟩ | ⟨f, d, hf, hd, _, he⟩
  · rw [he] at h
    cases h
    exact .refl w
  · rw [he] at h
    cases h
    refine World.noneNew_setDir ?_
    rintro _ ⟨⟩ hp n g hm
    rcases Dir.mem_insert.1 hm with he | ⟨hm, _⟩
    · -- the new name of a file that was there
      cases he
      obtain ⟨ds, hds, hms⟩ := World.file?_eq_some.1 hf
      exact ⟨_, hc.resolve_right fun hn => hn hp, ds, hds, _, hms⟩
    · exact ⟨_, hp, d, hd, n, hm⟩

theorem World.noneNew_rename {src dst : String} {r : Except Errno Unit}
    (hc : src ∈ packageDirs ∨ dst ∉ packageDirs) (h : (r, w') = w.rename src dst) :
    w.NoneNew w' := by
  unfold World.rename at h
  split at h
  · cases h
    exact .refl w
  rename_i d hd
  split at h
  · cases h
    exact .refl w
  split at h
  · cases h
    intro f hf
    obtain ⟨q, hq, d', hd', n, hm⟩ := hf
    by_cases hqd : q = dst
    · -- the renamed directory was one of the two
      subst hqd
      rw [World.setDir_self] at hd'
      cases hd'
      exact ⟨src, hc.resolve_right fun hn => hn hq, d, hd, n, hm⟩
    · rw [World.setDir_other _ _ hqd] at hd'
      exact w.noneNew_dropDir src f ⟨q, hq, d', hd', n, hm⟩
  · cases h
    exact .refl w

/-- **One call brings no other file in.** -/
theorem bringsNone_step {c : Sys} {r : c.Res} (hc : BringsNone c)
    (h : (kernel .off Sys.Faulty).sem c w r w') : w.NoneNew w' := by
  rcases h with h | ⟨_, rfl⟩ | ht
  · cases c with
    | mkdir p mode => exact World.noneNew_mkdir h
    | chmod p mode => exact World.noneNew_chmod h
    | rmdir p => exact World.noneNew_rmdir h
    | unlink p => exact World.noneNew_unlink h
    | unlinkRetry p => exact World.noneNew_unlink h
    | link src dst => exact World.noneNew_link hc h
    | rename src dst => exact World.noneNew_rename hc h
    | removeAll p =>
      obtain ⟨_, rfl⟩ := h
      unfold World.removeAll
      split
      · exact .refl w
      · exact w.noneNew_dropDir p
    | writeFile p b =>
      have hw : (r, w') = w.writeFile p b := h
      have he : w' = (w.writeFile p b).2 := congrArg Prod.snd hw
      rw [he]
      exact w.noneNew_writeFile b hc
    | mount b p => exact .of_dirs (by rw [World.mount_onlyMounts h])
    | bindMount s p => exact .of_dirs (by rw [World.bindMount_onlyMounts h])
    | umount2 p => exact .of_dirs (by rw [World.umount2_onlyMounts h])
    | loopGetFree => obtain ⟨n, _, _, rfl⟩ := h; exact .refl _
    | loopSetFd d t => exact .of_dirs (by rw [World.loopSetFd_onlyDevices h])
    | loopSetStatus d o z i => exact .of_dirs (by rw [World.loopSetStatus_onlyDevices h])
    | loopClrFd d => exact .of_dirs (by rw [World.loopClrFd_onlyDevices h])
    | dmCreate n t =>
      obtain ⟨k, _, h'⟩ := h
      exact .of_dirs (by rw [World.dmCreate_onlyDevices h'])
    | dmDelete n => exact .of_dirs (by rw [World.dmDelete_onlyDevices h])
    | setDb db =>
      obtain rfl : w' = { w with db := db } := h
      exact .of_dirs rfl
    | abort m => exact h.elim
    | startCheckpoint n => obtain rfl : w' = w := h; exact .refl _
    | log m => obtain rfl : w' = w := h; exact .refl _
    | _ => obtain ⟨_, rfl⟩ := h; exact .refl _
  · exact .refl _
  · cases c with
    | writeFile p b =>
      obtain ⟨_, k, rfl⟩ := ht
      exact w.noneNew_writeFile _ hc
    | removeAll p =>
      obtain ⟨_, d, d', hd, hsub, rfl⟩ := ht
      exact World.noneNew_shrink hd fun _ _ hm => hsub.subset hm
    | _ => exact ht.elim

end Calls

/-! ## The programs -/

theorem TempCmd.bringsNone {c : Sys} (h : TempCmd c) : BringsNone c := by
  cases c <;> first | exact h.elim | trivial

theorem PopulateCmd.bringsNone {c : Sys} (h : PopulateCmd c) : BringsNone c := by
  cases c <;> first | exact h.elim | trivial

/-- The calls that stage packages at once. -/
def BinderCall.Stages : BinderCall → Prop
  | .stagePackage _ => True
  | .stagePackages _ => True
  | _ => False

/-- It holds as long as no file comes in. -/
def Lasting (I : World → Prop) : Prop := ∀ w w', w.NoneNew w' → I w → I w'

theorem Lasting.keeps {I : World → Prop} (hI : Lasting I) {α : Type} {p : ApexM α}
    (hp : p.Uses BringsNone) : p.Keeps (kernel .off Sys.Faulty) I := by
  apply hp.keeps
  · intro c w _ _
    cases c <;> trivial
  · intro c w r w' hc h hs
    exact hI w w' (bringsNone_step hc hs) h

theorem dirName_stateFile (id : Int32) : dirName (getSessionStateFilePath id) ∉ packageDirs := by
  have hd : dirName (getSessionStateFilePath id) = join kApexSessionsDir (toString id) :=
    dirName_stateFilePath _
  rw [hd]
  have hactive : join kApexSessionsDir (toString id) ≠ kActiveApexPackagesDataDir :=
    join_ne (by decide)
  have hbackup : join kApexSessionsDir (toString id) ≠ kApexBackupDir := join_ne (by decide)
  simp [packageDirs, hactive, hbackup]

section Programs

variable {cfg : Config}

theorem uses_update (s : SessionState) (state : State) :
    (updateStateAndCommit cfg s state).Uses BringsNone :=
  uses_updateStateAndCommit (dirName_stateFile s.id)

theorem uses_commitOrLog (s : SessionState) (state : State) :
    (commitOrLog cfg s state).Uses BringsNone :=
  uses_bind (uses_attempt (uses_update s state)) fun _ => trivial

theorem uses_getActiveSession_none : (getActiveSession cfg).Uses BringsNone :=
  uses_getActiveSession trivial fun _ => trivial

theorem uses_deleteBackup_none : deleteBackup.Uses BringsNone := by
  refine uses_bind (uses_mapErr (uses_pathExists trivial)) fun b => ?_
  cases b with
  | true => exact uses_deleteDirContent trivial fun _ => trivial
  | false => trivial

theorem uses_restoreBackup_none : restoreBackup.Uses BringsNone := by
  refine uses_bind (uses_pathExists trivial) fun b => uses_bind (uses_require _ _) fun _ => ?_
  refine uses_bind (uses_exec_bind trivial fun r => uses_check _ r) fun statData =>
    uses_exec_bind trivial fun _ => ?_
  refine uses_bind (uses_deleteDirContent trivial fun _ => trivial) fun _ => ?_
  refine uses_bind (uses_exec_bind ?_ fun r => uses_check _ r) fun _ =>
    uses_exec_bind trivial fun r => uses_check _ r
  exact Or.inl (by decide)

theorem uses_doRollback_none (s : SessionState) : (doRollback cfg s).Uses BringsNone :=
  uses_exec_bind trivial fun _ =>
    uses_ite trivial (uses_onFail uses_restoreBackup_none (uses_update s _))

theorem uses_rollbackActivatedSession_none (s : SessionState) :
    (rollbackActivatedSession cfg s).Uses BringsNone := by
  refine uses_exec_bind trivial fun _ => uses_ite trivial ?_
  refine uses_bind (uses_mapErr (uses_update s _)) fun _ =>
    uses_bind (uses_mapErr (uses_doRollback_none _)) fun _ => ?_
  exact uses_commitOrLog _ _

theorem uses_rollbackActiveSession_none : (rollbackActiveSession cfg).Uses BringsNone := by
  refine uses_bind (uses_mapErr uses_getActiveSession_none) fun session => ?_
  cases session with
  | none => trivial
  | some s =>
    show (rollbackSession cfg s).Uses BringsNone
    unfold rollbackSession
    split
    · trivial
    · trivial
    · exact uses_update s _
    · exact uses_rollbackActivatedSession_none s
    · trivial

theorem uses_resumeRollbackIfNeeded_none : (resumeRollbackIfNeeded cfg).Uses BringsNone := by
  refine uses_bind uses_getActiveSession_none fun session => ?_
  cases session with
  | none => trivial
  | some s =>
    have hresume : (resumeRollback cfg s).Uses BringsNone := by
      refine uses_bind (uses_pathExists trivial) fun b => ?_
      cases b with
      | true => exact uses_bind (uses_doRollback_none s) fun _ => uses_commitOrLog _ _
      | false => exact uses_commitOrLog _ _
    exact uses_ite hresume (uses_ret _)

theorem uses_abortActiveSession_none : (abortActiveSession cfg).Uses BringsNone := by
  refine uses_bind uses_getActiveSession_none fun session => ?_
  cases session with
  | none => trivial
  | some s =>
    dsimp only
    split
    · exact uses_deleteSession trivial
    · exact uses_deleteSession trivial
    · exact uses_rollbackActivatedSession_none s
    · trivial

theorem uses_mark {α : Type} {id : Int32} {f : SessionState → ApexM α}
    (hf : ∀ s, (f s).Uses BringsNone) : ((getSession cfg id).bind f).Uses BringsNone :=
  uses_bind (uses_getSessionFromFile trivial) hf

theorem uses_markStagedSessionReady_none (id : Int32) :
    (markStagedSessionReady cfg id).Uses BringsNone := by
  refine uses_mark fun s => ?_
  split
  · trivial
  · exact uses_update s _
  · trivial

theorem uses_markStagedSessionSuccessful_none (id : Int32) :
    (markStagedSessionSuccessful cfg id).Uses BringsNone := by
  refine uses_mark fun s => ?_
  split
  · trivial
  · exact uses_bind (uses_mapErr uses_deleteBackup_none) fun _ => uses_update s _
  · trivial

theorem uses_unstagePackages (paths : List String) : (unstagePackages paths).Uses BringsNone := by
  refine uses_bind (uses_require _ _) fun _ => uses_bind (uses_forM _ fun p _ => ?_) fun _ =>
    uses_forM _ fun p _ => ?_
  · exact uses_exec_bind trivial fun r => uses_check _ r
  · exact uses_exec_bind trivial fun r => uses_check _ r

theorem uses_mountPackage_none (apex : ApexFile) :
    (mountPackage cfg apex (getPackageMountPoint apex.manifest)).Uses BringsNone :=
  uses_bind ((uses_mountPackageImpl _ _ _ (below_packageMountPoint _)).mono fun _ =>
      TempCmd.bringsNone) fun _ =>
    uses_addMountedApex _ _ _ trivial (fun _ => trivial) fun _ => trivial

theorem UnmountCmd.bringsNone {c : Sys} (h : UnmountCmd c) : BringsNone c := by
  cases c <;> first | trivial | exact h.choose_spec.elim

theorem uses_unmountPackage_none (apex : ApexFile) (b : Bool) :
    (unmountPackage apex b).Uses BringsNone :=
  (uses_unmountPackage_calls apex b).mono fun _ => UnmountCmd.bringsNone

theorem uses_unmountDanglingMounts_none : unmountDanglingMounts.Uses BringsNone := by
  refine uses_exec_bind trivial fun db => uses_forM _ fun e _ => uses_bind ?_ fun _ =>
    uses_bind ?_ fun _ => ?_
  · exact uses_exec_bind trivial fun _ => uses_exec trivial
  · exact uses_logged ((uses_unmount_calls _).mono fun _ => UnmountCmd.bringsNone)
  · exact uses_when (uses_exec_bind trivial fun _ => trivial)

theorem uses_prePostinstallPackages_none (kind : HookKind) (apexes : List ApexFile) :
    (prePostinstallPackages cfg kind apexes).Uses BringsNone :=
  uses_prePostinstallPackages_of uses_mountPackage_none
    (fun apex => uses_unmountPackage_none apex false) trivial
    (fun _ _ => trivial) (fun _ => trivial) (fun _ => trivial) fun _ _ => trivial

theorem uses_activatePackageImpl_none (apex : ApexFile) :
    (activatePackageImpl cfg apex).Uses BringsNone := by
  refine uses_ite trivial (uses_ite trivial (uses_bind ?_ fun found => uses_ite trivial ?_))
  · refine uses_exec_bind trivial fun db => uses_foldlM _ _ fun acc e _ => ?_
    refine uses_bind (uses_attempt (uses_openApex_any (fun _ => trivial) _)) fun x => ?_
    cases x <;> trivial
  · refine uses_bind (uses_when (uses_mountPackage_none _)) fun _ =>
      uses_when (uses_bind (uses_mapErr ?_) fun _ => ?_)
    · refine (uses_bindMount_calls _ _).mono fun c hc => ?_
      cases c <;> first | exact hc.elim | trivial
    · exact uses_setLatest _ _ trivial (fun _ => trivial) fun _ => trivial

section Backup

variable {I : World → Prop} (hI : Lasting I)

include hI

/-- A backup links what is in the active directory. -/
theorem Lasting.keeps_backupPackage {n : String} (hn : NoSlash n) :
    (backupPackage (join kActiveApexPackagesDataDir n)).Keeps (kernel .off Sys.Faulty) I := by
  intro w h
  refine ⟨h, trivial, ?_⟩
  have hlink : ∀ apex : ApexFile, apex.path = join kActiveApexPackagesDataDir n → ∀ w', I w' →
      wp (kernel .off Sys.Faulty) I (sys (.link apex.path (backupPath apex.manifest)) >>=
        check ("Failed to backup " ++ apex.path)) (fun _ _ => True) w' := by
    intro apex hp w' h'
    have hc : BringsNone (.link apex.path (backupPath apex.manifest)) := by
      left
      rw [hp, dirName_join hn]
      exact List.mem_cons_self
    refine hI.keeps ?_ w' h'
    exact uses_exec_bind hc fun r => uses_check _ r
  rintro r w' (⟨rfl, rfl⟩ | hf)
  · cases ho : w'.openApex (join kActiveApexPackagesDataDir n) with
    | error e => exact ⟨h, trivial⟩
    | ok apex => exact hlink apex (World.openApex_path ho) w' h
  · obtain ⟨e, rfl⟩ : ∃ e, r = .error e := hf.elim (fun h => h.1) fun h => h.elim
    obtain rfl : w' = w := hf.elim (fun h => h.2) fun h => h.elim
    exact ⟨h, trivial⟩

theorem Lasting.keeps_backupActivePackages :
    backupActivePackages.Keeps (kernel .off Sys.Faulty) I := by
  refine keeps_bind (hI.keeps (uses_mapErr (uses_createDirIfNeeded trivial trivial trivial)))
    fun _ => ?_
  refine keeps_bind (hI.keeps (uses_mapErr (uses_pathExists trivial))) fun b => ?_
  cases b with
  | false => exact keeps_ret ()
  | true =>
    intro w h
    refine wp_bind.2 (wp_mapErr.2 ((wp_readDir_paths Sys.Faulty.honest h).imp ?_))
    rintro (e | packages) w' h' ⟨_, hpaths⟩
    · trivial
    refine keeps_bind (hI.keeps (uses_mapErr uses_deleteBackup_none))
      (fun _ => keeps_onFail ?_ ?_) w' h'
    · refine keeps_forM _ fun path hpath => ?_
      obtain ⟨n, hn, rfl⟩ := hpaths packages rfl path hpath
      exact hI.keeps_backupPackage hn
    · exact hI.keeps (uses_deleteDirContent trivial fun _ => trivial)

theorem Lasting.keeps_submitStagedSession (id : Int32) (ids : List Int32) :
    (Apexd.submitStagedSession cfg id ids).Keeps (kernel .off Sys.Faulty) I := by
  have hneeds : needsBackup.Uses BringsNone := by
    refine uses_exec_bind trivial fun flags => uses_ite (uses_exec_bind trivial fun r => ?_) trivial
    cases r <;> trivial
  refine keeps_bind (hI.keeps (uses_clearSessions trivial (fun _ => trivial) fun _ => trivial))
    fun _ => ?_
  refine keeps_bind (hI.keeps hneeds) fun b =>
    keeps_bind (keeps_when hI.keeps_backupActivePackages) fun _ => ?_
  refine hI.keeps (uses_bind (uses_mapM _ fun id _ => ?_) fun verified => ?_)
  · exact (uses_verifySessionDir id).mono fun _ => TempCmd.bringsNone
  refine uses_bind (uses_prePostinstallPackages_none _ _) fun _ => ?_
  refine uses_bind (uses_createSession (fun _ => trivial) (fun _ _ => trivial) fun _ _ => trivial)
    fun s => ?_
  exact uses_bind (uses_update _ _) fun _ => trivial

/-- A call that does not stage, or that may not. -/
theorem Lasting.keeps_call (debuggable : Bool) (call : BinderCall)
    (hcall : debuggable = true → ¬ call.Stages) :
    (call.prog cfg debuggable).Keeps (kernel .off Sys.Faulty) I := by
  refine BinderCall.closed (P := fun _ p => p.Keeps (kernel .off Sys.Faulty) I) keeps_ret keeps_bind
    keeps_attempt call fun hopen => ?_
  have hstage : call.Stages → call.restricted = true → False := by
    intro hs hr
    cases debuggable with
    | false =>
      rw [hopen rfl] at hr
      cases hr
    | true => exact hcall rfl hs
  cases call with
  | stagePackage path => exact (hstage trivial rfl).elim
  | stagePackages paths => exact (hstage trivial rfl).elim
  | unstagePackages paths => exact hI.keeps (uses_unstagePackages paths)
  | submitStagedSession id ids => exact hI.keeps_submitStagedSession id ids
  | markStagedSessionReady id => exact hI.keeps (uses_markStagedSessionReady_none id)
  | markStagedSessionSuccessful id => exact hI.keeps (uses_markStagedSessionSuccessful_none id)
  | getSessions => exact hI.keeps (uses_getSessions trivial fun _ => trivial)
  | getStagedSessionInfo id => exact hI.keeps (uses_getSessionFromFile trivial)
  | activatePackage path =>
    exact hI.keeps (uses_bind (uses_openApex_any (fun _ => trivial) path) fun apex =>
      uses_activatePackageImpl_none apex)
  | deactivatePackage path =>
    exact hI.keeps (uses_bind (uses_openApex_any (fun _ => trivial) path) fun apex =>
      uses_unmountPackage_none apex true)
  | getActivePackages =>
    exact hI.keeps (uses_bind (uses_getActivePackages (fun _ => trivial) trivial) fun _ => trivial)
  | getActivePackage name =>
    exact hI.keeps (uses_getActivePackage (fun _ => trivial) trivial trivial name)
  | getAllPackages =>
    refine hI.keeps (uses_bind (uses_getActivePackages (fun _ => trivial) trivial) fun _ => ?_)
    exact uses_bind (uses_getFactoryPackages (fun _ => trivial) fun _ => trivial) fun _ => trivial
  | preinstallPackages paths =>
    refine hI.keeps (uses_bind (uses_require _ _) fun _ => ?_)
    exact uses_bind (uses_openApexes (fun _ => trivial) paths) fun apexes =>
      uses_prePostinstallPackages_none _ _
  | postinstallPackages paths =>
    refine hI.keeps (uses_bind (uses_require _ _) fun _ => ?_)
    exact uses_bind (uses_openApexes (fun _ => trivial) paths) fun apexes =>
      uses_prePostinstallPackages_none _ _
  | abortActiveSession => exact hI.keeps uses_abortActiveSession_none
  | rollbackActiveSession => exact hI.keeps uses_rollbackActiveSession_none
  | resumeRollbackIfNeeded => exact hI.keeps uses_resumeRollbackIfNeeded_none

end Backup

end Programs

end Apexd
