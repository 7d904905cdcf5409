import Apexd.Requests
import Apexd.RollbackCrash
import Apexd.StageAtomic

/-!
# What leaves session records alone

Only commits and removals of sessions, and what empties directories, could touch a record.

* `Sys.Unreliable` — any call may fail, only directories and files can always be read.
* `SparesSessions` — the calls that change no record; `sparesSessions_same` — one call.
* The `uses_*` theorems: mounting, hooks, activation and the scan of the mounts make no others.
-/

set_option autoImplicit false

namespace Apexd

open Text Prog

/-- Any call may be refused, but directories and files can be read; a removal may get only part of
the way. -/
def Sys.Unreliable : Faults
  | .readDir _, _, _, _ => False
  | .readFile _, _, _, _ => False
  | .removeAll p, w, r, w' => Sys.refusal (.removeAll p) r ∧ (w' = w ∨ w.tornRemove p w')
  | c, w, r, w' => Sys.Refused c w r w'

theorem Sys.Unreliable.reads :
    Faults.Reads Sys.Unreliable := ⟨fun _ _ _ _ h => h, fun _ _ _ _ h => h⟩

/-! ## What leaves the records alone -/

/-- The calls that change no record. -/
def SparesSessions : Sys → Prop
  | .writeFile _ _ => False
  | .removeAll _ => False
  | .unlink p => startsWith p kApexSessionsDir = false
  | .unlinkRetry p => startsWith p kApexSessionsDir = false
  | .link _ dst => startsWith dst kApexSessionsDir = false
  | .rename src dst => src = kApexBackupDir ∧ dst = kActiveApexPackagesDataDir
  | .mount _ p => startsWith p kApexRoot = true
  | .bindMount _ p => startsWith p kApexRoot = true
  | _ => True

/-- The sessions directory lists every directory in it. -/
def World.SessionTree (w : World) : Prop :=
  ∀ n, NoSlash n → (w.dirs (join kApexSessionsDir n)).isSome → n ∈ w.sessionNames

/-- No record has changed. -/
structure World.SameSessions (cfg : Config) (w w' : World) : Prop where
  record : ∀ n, w'.record? cfg n = w.record? cfg n
  tree : w.SessionTree → w'.SessionTree
  unmounted : w.DataUnmounted → w'.DataUnmounted

section Frame

variable {cfg : Config} {w w' w'' : World} {p : String}

theorem World.SameSessions.refl (w : World) : w.SameSessions cfg w :=
  ⟨fun _ => rfl, fun h => h, fun h => h⟩

theorem World.SameSessions.trans (h : w.SameSessions cfg w') (h' : w'.SameSessions cfg w'') :
    w.SameSessions cfg w'' where
  record n := (h'.record n).trans (h.record n)
  tree ht := h'.tree (h.tree ht)
  unmounted hm := h'.unmounted (h.unmounted hm)

/-- Nothing below the sessions directory has changed. -/
theorem World.SameSessions.of_dirs
    (hd : ∀ q, startsWith q kApexSessionsDir = true → w'.dirs q = w.dirs q)
    (hm : w.DataUnmounted → w'.DataUnmounted) : w.SameSessions cfg w' where
  record := World.record?_congr hd
  tree ht n hn hs := by
    rw [World.sessionNames_congr hd]
    rw [hd _ (by rw [join, String.append_assoc]; exact startsWith_append _ _)] at hs
    exact ht n hn hs
  unmounted := hm

theorem World.record?_of_files (h : ∀ q, w'.file? q = w.file? q) (n : String) :
    w'.record? cfg n = w.record? cfg n := by
  unfold record? readFile
  rw [h]

/-- A path outside the sessions directory is in a directory outside it. -/
theorem dirName_notSession (h : startsWith p kApexSessionsDir = false) :
    startsWith (dirName p) kApexSessionsDir = false := by
  by_cases hp : '/' ∈ p.toList
  · by_contra hne
    rw [Bool.not_eq_false] at hne
    rw [eq_join hp, join, String.append_assoc] at h
    rw [startsWith_trans (startsWith_append _ _) hne] at h
    cases h
  · rw [dirName_eq_empty hp]
    decide

theorem sameSessions_setDir {d : Option Dir} (hp : startsWith p kApexSessionsDir = false) :
    w.SameSessions cfg (w.setDir p d) :=
  .of_dirs (fun _ hq => w.setDir_other d (ne_of_startsWith hq hp)) fun hm => hm

theorem sameSessions_dropDir (hp : startsWith p kApexSessionsDir = false) :
    w.SameSessions cfg (w.dropDir p) := by
  refine .of_dirs (fun q hq => ?_) fun hm => hm.onlyDirs (w.dropDir_onlyDirs p)
  exact w.dropDir_other (ne_of_startsWith hq hp) (ne_of_startsWith hq (dirName_notSession hp))

theorem mem_sessionNames {d : Dir} (hd : w.dirs kApexSessionsDir = some d) {n : String} :
    n ∈ w.sessionNames ↔ ∃ e ∈ d.entries, e.1 = n ∧ e.2.file? = none := by
  unfold World.sessionNames
  rw [hd]
  simp only [List.mem_map, List.mem_filter, Option.isNone_iff_eq_none]
  constructor
  · rintro ⟨e, ⟨he, hf⟩, rfl⟩; exact ⟨e, he, rfl, hf⟩
  · rintro ⟨e, he, rfl, hf⟩; exact ⟨e, ⟨he, hf⟩, rfl⟩

/-- Directories have not appeared, and the sessions directory lists what it did. -/
theorem World.SessionTree.of_subset (h : w.SessionTree)
    (hd : ∀ n, (w'.dirs (join kApexSessionsDir n)).isSome →
      (w.dirs (join kApexSessionsDir n)).isSome)
    (hn : w.sessionNames ⊆ w'.sessionNames) : w'.SessionTree :=
  fun n hs hsome => hn (h n hs (hd n hsome))

/-- A new directory is listed in its parent. -/
theorem World.SessionTree.mkdir {mode : Nat} {r : Except Errno Unit} (h : (r, w') = w.mkdir p mode)
    (ht : w.SessionTree) : w'.SessionTree := by
  rcases w.mkdir_cases p mode with ⟨e, he⟩ | ⟨parent, hnone, hd, hl, he⟩
  · rw [he] at h; cases h; exact ht
  rw [he] at h; cases h
  have hsub : w.sessionNames ⊆ ((w.setDir (dirName p) (some (parent.insert (baseName p)
      (noSlash_baseName p) .dir))).setDir p (some (Dir.empty mode))).sessionNames := by
    intro n hn
    by_cases hS : kApexSessionsDir = p
    · subst hS
      unfold World.sessionNames at hn
      rw [hnone] at hn
      cases hn
    by_cases hS' : kApexSessionsDir = dirName p
    · rw [← hS'] at hd ⊢
      obtain ⟨e, he, rfl, hf⟩ := (mem_sessionNames hd).1 hn
      refine (mem_sessionNames (by rw [World.setDir_other _ _ hS, World.setDir_self])).2
        ⟨e, ?_, rfl, hf⟩
      exact Dir.mem_insert.2 (Or.inr ⟨he, Dir.lookup_eq_none.1 hl e he⟩)
    · rwa [World.sessionNames_setDir_other _ _ hS, World.sessionNames_setDir_other _ _ hS']
  intro n hn hsome
  by_cases hp : join kApexSessionsDir n = p
  · -- the new one
    subst hp
    rw [dirName_join hn] at hd ⊢
    refine (mem_sessionNames (by rw [World.setDir_other _ _ (join_ne_self _ _).symm,
      World.setDir_self])).2 ⟨(n, .dir), ?_, rfl, rfl⟩
    rw [Dir.mem_insert, baseName_join hn]
    exact Or.inl rfl
  · refine hsub (ht n hn ?_)
    rw [World.setDir_other _ _ hp] at hsome
    by_cases hq : join kApexSessionsDir n = dirName p
    · rw [hq, hd]; rfl
    · rwa [World.setDir_other _ _ hq] at hsome

/-- Taking out a directory, when it is not the sessions directory with sessions in it. -/
theorem World.SessionTree.dropDir (ht : w.SessionTree)
    (hp : p = kApexSessionsDir → w.sessionNames = []) : (w.dropDir p).SessionTree := by
  intro n hn hsome
  have hne : join kApexSessionsDir n ≠ p := by
    rintro rfl
    rw [World.dropDir_self] at hsome
    cases hsome
  have hold : n ∈ w.sessionNames := by
    refine ht n hn ?_
    unfold World.dropDir at hsome
    split at hsome
    · rwa [World.setDir_other _ _ hne] at hsome
    · rename_i parent hd
      rw [World.setDir_other _ _ hne] at hsome
      by_cases hq : join kApexSessionsDir n = dirName p
      · rw [hq, hd]; rfl
      · rwa [World.setDir_other _ _ hq] at hsome
  by_cases hS : kApexSessionsDir = p
  · rw [hp hS.symm] at hold
    cases hold
  by_cases hS' : kApexSessionsDir = dirName p
  · unfold World.dropDir
    rw [← hS']
    split
    · rwa [World.sessionNames_setDir_other _ _ hS]
    · rename_i parent hd
      rw [World.sessionNames_setDir_other _ _ hS]
      obtain ⟨e, he, rfl, hf⟩ := (mem_sessionNames hd).1 hold
      refine (mem_sessionNames (World.setDir_self _ _ _)).2 ⟨e, List.mem_filter.2 ⟨he, ?_⟩, rfl, hf⟩
      have hb : e.1 ≠ baseName p := by
        intro hb
        refine hne ?_
        rw [hS', hb]
        refine (eq_join ?_).symm
        by_contra hs
        rw [dirName_eq_empty hs] at hS'
        exact absurd hS' (by decide)
      simp [hb]
  · unfold World.sessionNames at hold ⊢
    rwa [World.dropDir_other _ hS hS']

theorem sameSessions_mkdir {mode : Nat} {r : Except Errno Unit} (h : (r, w') = w.mkdir p mode) :
    w.SameSessions cfg w' where
  record := World.record?_of_files (World.mkdir_file? h)
  tree := World.SessionTree.mkdir h
  unmounted hm := hm.onlyDirs (World.mkdir_onlyDirs h)

theorem sameSessions_rmdir {r : Except Errno Unit} (h : (r, w') = w.rmdir p) :
    w.SameSessions cfg w' := by
  refine ⟨World.record?_of_files (World.rmdir_file? h), fun ht => ?_,
    fun hm => hm.onlyDirs (World.rmdir_onlyDirs h)⟩
  rcases w.rmdir_cases p with ⟨e, he⟩ | ⟨d, _, hd, hnil, he⟩
  · rw [he] at h; cases h; exact ht
  rw [he] at h; cases h
  refine ht.dropDir ?_
  rintro rfl
  unfold World.sessionNames
  simp [hd, hnil]

theorem sameSessions_chmod {mode : Nat} {r : Except Errno Unit} (h : (r, w') = w.chmod p mode) :
    w.SameSessions cfg w' := by
  refine ⟨World.record?_of_files (World.chmod_file? h), fun ht => ?_,
    fun hm => hm.onlyDirs (World.chmod_onlyDirs h)⟩
  rcases w.chmod_cases p mode with ⟨e, he⟩ | ⟨d, hd, he⟩
  · rw [he] at h; cases h; exact ht
  rw [he] at h; cases h
  refine ht.of_subset (fun n hs => ?_) fun n hn => ?_
  · by_cases hp : join kApexSessionsDir n = p
    · rw [hp, hd]; rfl
    · rwa [World.setDir_other _ _ hp] at hs
  · by_cases hS : kApexSessionsDir = p
    · subst hS
      obtain ⟨e, he, rfl, hf⟩ := (mem_sessionNames hd).1 hn
      exact (mem_sessionNames (World.setDir_self _ _ _)).2 ⟨e, he, rfl, hf⟩
    · rwa [World.sessionNames_setDir_other _ _ hS]

theorem sameSessions_unlink {r : Except Errno Unit} (hp : startsWith p kApexSessionsDir = false)
    (h : (r, w') = w.unlink p) : w.SameSessions cfg w' := by
  rcases w.unlink_cases p with ⟨e, he, _⟩ | ⟨d, f, _, _, he⟩
  · rw [he] at h; cases h; exact .refl w
  · rw [he] at h; cases h
    exact sameSessions_setDir (dirName_notSession hp)

theorem sameSessions_link {src : String} {r : Except Errno Unit}
    (hp : startsWith p kApexSessionsDir = false) (h : (r, w') = w.link src p) :
    w.SameSessions cfg w' := by
  rcases w.link_cases src p with ⟨e, he⟩ | ⟨f, d, _, _, _, he⟩
  · rw [he] at h; cases h; exact .refl w
  · rw [he] at h; cases h
    exact sameSessions_setDir (dirName_notSession hp)

theorem sameSessions_rename {r : Except Errno Unit}
    (h : (r, w') = w.rename kApexBackupDir kActiveApexPackagesDataDir) : w.SameSessions cfg w' := by
  unfold World.rename at h
  split at h
  · cases h; exact .refl w
  split at h
  · cases h; exact .refl w
  split at h
  · cases h
    exact (sameSessions_dropDir backup_notSession).trans (sameSessions_setDir active_notSession)
  · cases h; exact .refl w

theorem sameSessions_mounts (hd : w'.dirs = w.dirs) (hm : w.DataUnmounted → w'.DataUnmounted) :
    w.SameSessions cfg w' := .of_dirs (fun _ _ => by rw [hd]) hm

theorem sameSessions_devices (h : w.OnlyDevices w') : w.SameSessions cfg w' := by
  refine sameSessions_mounts (by rw [h]) fun hm => ?_
  unfold World.DataUnmounted at hm ⊢
  rw [h]
  exact hm

theorem sameSessions_pushMount {m : Mount} (hm : startsWith m.mountPoint kApexRoot = true) :
    w.SameSessions cfg (w.pushMount m) := by
  refine sameSessions_mounts rfl fun hu m' hm' => ?_
  rcases List.mem_cons.1 hm' with rfl | hm'
  · exact hm
  · exact hu m' hm'

/-- **One call changes no record.** -/
theorem sparesSessions_same {c : Sys} {r : c.Res} (hc : SparesSessions c)
    (h : (kernel .off Sys.Unreliable).sem c w r w') : w.SameSessions cfg w' := by
  rcases h with h | hf
  · cases c with
    | mkdir p mode => exact sameSessions_mkdir h
    | rmdir p => exact sameSessions_rmdir h
    | chmod p mode => exact sameSessions_chmod h
    | unlink p => exact sameSessions_unlink hc h
    | unlinkRetry p => exact sameSessions_unlink hc h
    | link src dst => exact sameSessions_link hc h
    | rename src dst =>
      obtain ⟨rfl, rfl⟩ := hc
      exact sameSessions_rename h
    | mount b p =>
      rcases w.mount_cases b p with ⟨e, he⟩ | ⟨n, f, _, _, he⟩
        <;> rw [h.trans he |> Prod.mk.inj |>.2]
      · exact .refl w
      · exact sameSessions_pushMount hc
    | bindMount s p =>
      rcases w.bindMount_cases s p with ⟨e, he⟩ | ⟨m, _, hm, _, _, _, he⟩ <;>
        rw [h.trans he |> Prod.mk.inj |>.2]
      · exact .refl w
      · exact sameSessions_pushMount (hm ▸ hc)
    | umount2 p =>
      rcases w.umount2_cases p with ⟨e, _, he⟩ | ⟨_, he⟩ <;> rw [h.trans he |> Prod.mk.inj |>.2]
      · exact .refl w
      · exact sameSessions_mounts rfl fun hu m hm => hu m (List.mem_of_mem_eraseP hm)
    | loopGetFree => obtain ⟨n, _, _, rfl⟩ := h; exact .refl _
    | loopSetFd d t => exact sameSessions_devices (World.loopSetFd_onlyDevices h)
    | loopSetStatus d o z i => exact sameSessions_devices (World.loopSetStatus_onlyDevices h)
    | loopClrFd d => exact sameSessions_devices (World.loopClrFd_onlyDevices h)
    | dmCreate n t =>
      obtain ⟨k, _, h'⟩ := h
      exact sameSessions_devices (World.dmCreate_onlyDevices h')
    | dmDelete n => exact sameSessions_devices (World.dmDelete_onlyDevices h)
    | setDb db =>
      obtain rfl : w' = { w with db := db } := h
      exact sameSessions_mounts rfl fun hm => hm
    | startCheckpoint n => obtain rfl : w' = w := h; exact .refl _
    | log m => obtain rfl : w' = w := h; exact .refl _
    | abort m => exact h.elim
    | _ => first | exact hc.elim | (obtain ⟨_, rfl⟩ := h; exact .refl _)
  · cases c <;> first | exact hf.elim | exact hc.elim | (obtain ⟨_, rfl⟩ := hf; exact .refl _)

end Frame

/-! ## Programs that leave the sessions alone -/

theorem TempCmd.sparesSessions {c : Sys} (h : TempCmd c) : SparesSessions c := by
  cases c <;> first | exact h.elim | trivial | exact startsWith_of_below h

theorem notSession_of_below {p d : String} (hp : below d p = true)
    (h : startsWith d kApexSessionsDir = false) (h' : startsWith kApexSessionsDir d = false) :
    startsWith p kApexSessionsDir = false := by
  obtain ⟨n, rfl⟩ := below_iff.1 hp
  rw [join, String.append_assoc]
  exact startsWith_append_eq_false _ h h'

theorem notSession_active {p : String} (hp : below kActiveApexPackagesDataDir p = true) :
    startsWith p kApexSessionsDir = false :=
  notSession_of_below hp active_notSession (by decide)

theorem notSession_backup {p : String} (hp : below kApexBackupDir p = true) :
    startsWith p kApexSessionsDir = false :=
  notSession_of_below hp backup_notSession (by decide)

theorem notSession_apex {p : String} (hp : belowApex p = true) :
    startsWith p kApexSessionsDir = false :=
  notSession_of_below hp (by decide) (by decide)

section Programs

variable {cfg : Config}

theorem uses_temp {α : Type} {p : ApexM α} (hp : p.Uses TempCmd) : p.Uses SparesSessions :=
  hp.mono fun _ => TempCmd.sparesSessions

theorem uses_removeMountedApex (package path : String) :
    (removeMountedApex package path).Uses SparesSessions :=
  uses_exec_bind trivial fun _ => uses_exec trivial

theorem uses_mountPackage (apex : ApexFile) {p : String} (hp : belowApex p) :
    (mountPackage cfg apex p).Uses SparesSessions :=
  uses_bind (uses_temp (uses_mountPackageImpl _ _ _ hp)) fun _ => uses_addMountedApex _ _ _ trivial
    (fun _ => trivial) fun _ => trivial

theorem uses_unmount_any (data : MountedApexData) : (unmount data).Uses SparesSessions := by
  have hrest : (do
      let _ ← sys (.rmdir data.mountPoint)
      when (data.deviceName ≠ "") (logged (deleteVerityDeviceByName data.deviceName))
      when (data.loopName ≠ "") (destroyLoopDevice data.loopName) : ApexM Unit).Uses
          SparesSessions := by
    refine uses_exec_bind trivial fun _ => ?_
    refine uses_bind (uses_when (uses_logged (uses_temp ?_))) fun _ => uses_when (uses_temp ?_)
    · exact (uses_deleteVerityDeviceByName _).mono fun _ h => h.temp
    · exact (uses_destroyLoopDevice _).mono fun _ h => h.temp
  refine uses_exec_bind trivial fun r => ?_
  cases r with
  | ok _ => exact hrest
  | error e => exact uses_bind (uses_require _ _) fun _ => hrest

theorem uses_unmountPackage (apex : ApexFile) (b : Bool) :
    (unmountPackage apex b).Uses SparesSessions := by
  refine uses_exec_bind trivial fun db => ?_
  dsimp only
  split
  · trivial
  · refine uses_bind (uses_when (uses_bind (uses_require _ _) fun _ => ?_)) fun _ =>
      uses_bind (uses_removeMountedApex _ _) fun _ => uses_unmount_any _
    exact uses_bind (uses_exec_bind trivial fun r => uses_check _ r) fun _ =>
      uses_exec_bind trivial fun _ => trivial

theorem uses_hookUndo (m : HookMounts) : m.undo.Uses SparesSessions :=
  uses_bind (uses_forM _ fun f _ => uses_logged (uses_unmountPackage f false)) fun _ =>
    uses_forM _ fun _ _ => uses_exec_bind trivial fun _ => trivial

theorem uses_stageFnInstallLoop {run : ApexM Unit} (hrun : run.Uses SparesSessions)
    (apexes : List ApexFile) (m : HookMounts) :
    (stageFnInstallLoop cfg run apexes m).Uses SparesSessions := by
  induction apexes generalizing m with
  | nil => exact uses_andThen hrun (uses_hookUndo m)
  | cons apex rest ih =>
    refine uses_bind (uses_onFail ?_ (uses_hookUndo m)) fun b => ?_
    · refine uses_exec_bind trivial fun db => uses_ite trivial ?_
      exact uses_bind (uses_mountPackage _ (below_packageMountPoint _)) fun _ => trivial
    · refine uses_bind (uses_onFail (uses_exec_bind trivial fun r => ?_) (uses_hookUndo _)) fun b =>
        ih _
      split <;> trivial

theorem uses_prePostinstallPackages (kind : HookKind) (apexes : List ApexFile) :
    (prePostinstallPackages cfg kind apexes).Uses SparesSessions := by
  refine uses_bind (uses_require _ _) fun _ => uses_ite ?_ trivial
  refine uses_bind (uses_ofExcept _) fun x => ?_
  cases x with
  | none => exact uses_exec_bind trivial fun r => r.elim
  | some hookFile =>
    refine uses_stageFnInstallLoop ?_ _ _
    exact uses_bind (uses_exec trivial) fun r => uses_ofExcept r

theorem uses_bindMount {target : String} (source : String) (ht : belowApex target) :
    (bindMount target source).Uses SparesSessions := by
  refine (uses_bindMount_calls target source).mono fun c hc => ?_
  cases c with
  | unlink p =>
    obtain rfl : p = target := hc
    exact notSession_apex ht
  | bindMount s p =>
    obtain ⟨_, rfl⟩ : s = source ∧ p = target := hc
    exact startsWith_of_below ht
  | _ => first | exact hc.elim | trivial

theorem uses_activatePackageImpl (apex : ApexFile) :
    (activatePackageImpl cfg apex).Uses SparesSessions := by
  refine uses_ite trivial (uses_ite trivial (uses_bind ?_ fun found => uses_ite trivial ?_))
  · refine uses_exec_bind trivial fun db => uses_foldlM _ _ fun acc e _ => ?_
    refine uses_bind (uses_attempt (uses_temp (uses_openApex _))) fun x => ?_
    cases x <;> trivial
  · refine uses_bind (uses_when (uses_mountPackage _ (below_packageMountPoint _))) fun _ => ?_
    exact uses_when (uses_bind (uses_mapErr (uses_bindMount _ (below_activeMountPoint _))) fun _ =>
      uses_setLatest _ _ trivial (fun _ => trivial) fun _ => trivial)

theorem uses_scanPackagesDirAndActivate (dir : String) :
    (scanPackagesDirAndActivate cfg dir).Uses SparesSessions := by
  refine uses_bind (uses_mapErr (uses_readDir trivial)) fun scan =>
    uses_bind (uses_temp uses_getActivePackagesMap) fun m => uses_bind ?_ fun _ => uses_require _ _
  refine uses_foldlM _ _ fun acc p _ => uses_bind ?_ fun _ => trivial
  refine uses_bind (uses_attempt (uses_temp (uses_openApex _))) fun x => ?_
  cases x with
  | error e => trivial
  | ok apex =>
    refine uses_ite trivial (uses_ite trivial (uses_bind (uses_attempt (uses_activatePackageImpl _))
      fun y => ?_))
    cases y <;> trivial

theorem PopulateCmd.sparesSessions {c : Sys} (h : PopulateCmd c) : SparesSessions c := by
  cases c <;> first | exact h.elim | trivial

end Programs

end Apexd
