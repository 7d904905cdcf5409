import Apexd.Activate
import Apexd.Hooks

/-!
# What verifying packages and running hooks leave alone

Both mount packages below `/apex` and take them down again.

* `ApexCmd` — the calls they make; `TempCmd` — those of them that leave the database alone.
* `World.Outside` — no file has changed, and outside `/apex` no directory and no mount.
* `apexCmd_outside` — one call; the `uses_*` theorems then give it for the programs.
-/

set_option autoImplicit false

namespace Apexd

open Text Prog

/-- Below `/apex`. -/
abbrev belowApex (p : String) : Bool := below kApexRoot p

/-- The calls that act below `/apex` only and do not look into `/data/apex/active`. -/
def ApexCmd : Sys → Prop
  | .readDir p => p ≠ kActiveApexPackagesDataDir
  | .chmod _ _ => False
  | .unlink _ => False
  | .unlinkRetry _ => False
  | .link _ _ => False
  | .rename _ _ => False
  | .removeAll _ => False
  | .writeFile _ _ => False
  | .startCheckpoint _ => False
  | .log _ => False
  | .mkdir p _ => belowApex p
  | .rmdir p => belowApex p
  | .mount _ p => belowApex p
  | .bindMount _ p => belowApex p
  | .umount2 p => belowApex p
  | _ => True

/-- Those that leave the database alone and run nothing else. -/
def TempCmd : Sys → Prop
  | .setDb _ => False
  | .abort _ => False
  | .forkAndRun _ => False
  | c => ApexCmd c

theorem TempCmd.apex {c : Sys} (h : TempCmd c) : ApexCmd c := by
  cases c <;> first | exact h | trivial

/-- The queries of a mount. -/
def DeviceQuery : Sys → Prop
  | .openFile _ => True
  | .openDevice _ => True
  | .loopGetFree => True
  | .loopFlush _ => True
  | .loopSetBlockSize _ _ => True
  | .loopSetDirectIo _ => True
  | .writeReadAhead _ => True
  | .dmGetState _ => True
  | .dmGetPath _ => True
  | .deviceExists _ => True
  | .readVerityDevice _ _ => True
  | .verifyApexVerity _ => True
  | .readManifest _ => True
  | .scanShim _ => True
  | .strerror => True
  | _ => False

/-- Together with the calls that set up loop and dm devices and take them down. -/
def DeviceCmd : Sys → Prop
  | .loopSetFd _ _ => True
  | .loopSetStatus _ _ _ _ => True
  | .loopClrFd _ => True
  | .loopGetStatus _ => True
  | .dmCreate _ _ => True
  | .dmDelete _ => True
  | c => DeviceQuery c

/-- Together with the mounts at `m`. -/
def MountCmd (m : String) : Sys → Prop
  | .mount _ p => p = m
  | .bindMount _ p => p = m
  | .umount2 p => p = m
  | c => DeviceCmd c

theorem DeviceQuery.device {c : Sys} (h : DeviceQuery c) : DeviceCmd c := by
  cases c <;> first | exact h | trivial

theorem DeviceCmd.mount {c : Sys} {m : String} (h : DeviceCmd c) : MountCmd m c := by
  cases c <;> first | exact h | exact h.elim

theorem DeviceCmd.temp {c : Sys} (h : DeviceCmd c) : TempCmd c := by
  cases c <;> first | exact h.elim | trivial

theorem MountCmd.temp {c : Sys} {m : String} (hm : belowApex m) (h : MountCmd m c) : TempCmd c := by
  cases c with
  | mount b p => exact h ▸ hm
  | bindMount s p => exact h ▸ hm
  | umount2 p => exact h ▸ hm
  | _ => exact DeviceCmd.temp h

/-- No file has changed, and outside `/apex` no directory and no mount. -/
structure World.Outside (w w' : World) : Prop where
  files : ∀ p, w'.file? p = w.file? p
  dirs : ∀ p, p ≠ kApexRoot → belowApex p = false → w'.dirs p = w.dirs p
  mounted : ∀ p, belowApex p = false → w'.mounted p = w.mounted p

namespace World.Outside

variable {w w' : World}

theorem refl (w : World) : w.Outside w :=
  ⟨fun _ => rfl, fun _ _ _ => rfl, fun _ _ => rfl⟩

/-- Only devices, mounts or the database have changed. -/
theorem of_dirs (hd : w'.dirs = w.dirs)
    (hm : ∀ p, belowApex p = false → w'.mounted p = w.mounted p) : w.Outside w' where
  files p := by
    unfold World.file? World.node?
    rw [hd]
  dirs p _ _ := by rw [hd]
  mounted := hm

theorem of_onlyDevices (h : w.OnlyDevices w') : w.Outside w' := by
  refine of_dirs (by rw [h]) fun p _ => ?_
  unfold World.mounted
  rw [show w'.mounts = w.mounts by rw [h]]

theorem of_onlyDirs (h : w.OnlyDirs w') (hf : ∀ p, w'.file? p = w.file? p)
    (hd : ∀ p, p ≠ kApexRoot → belowApex p = false → w'.dirs p = w.dirs p) : w.Outside w' where
  files := hf
  dirs := hd
  mounted p _ := by
    unfold World.mounted
    rw [h.mounts]

end World.Outside

section Calls

variable {w w' : World} {p : String}

theorem startsWith_of_below {d : String} (h : below d p = true) : startsWith p d = true := by
  obtain ⟨n, rfl⟩ := below_iff.1 h
  rw [join, String.append_assoc]
  exact startsWith_append _ _

theorem active_notBelow (h : belowApex p = true) : p ≠ kActiveApexPackagesDataDir := by
  rintro rfl
  revert h
  decide

theorem ne_of_belowApex {q : String} (hp : belowApex p = true) (hq : belowApex q = false) :
    q ≠ p := by
  rintro rfl
  rw [hp] at hq
  cases hq

/-- Neither a path below `/apex` nor its directory is outside. -/
theorem outside_ne {q : String} (hp : belowApex p = true) (hq : q ≠ kApexRoot)
    (hb : belowApex q = false) : q ≠ p ∧ q ≠ dirName p := by
  refine ⟨ne_of_belowApex hp hb, ?_⟩
  rcases dirName_below hp with h | h
  · rwa [h]
  · exact ne_of_belowApex h hb

theorem outside_mkdir {mode : Nat} {r : Except Errno Unit} (hp : belowApex p)
    (h : (r, w') = w.mkdir p mode) : w.Outside w' := by
  refine .of_onlyDirs (World.mkdir_onlyDirs h) (World.mkdir_file? h) fun q hq hb => ?_
  obtain ⟨h1, h2⟩ := outside_ne hp hq hb
  rcases w.mkdir_cases p mode with ⟨e, he⟩ | ⟨parent, _, _, _, he⟩
  · rw [he] at h; cases h; rfl
  · rw [he] at h; cases h
    rw [World.setDir_other _ _ h1, World.setDir_other _ _ h2]

theorem outside_rmdir {r : Except Errno Unit} (hp : belowApex p) (h : (r, w') = w.rmdir p) :
    w.Outside w' := by
  refine .of_onlyDirs (World.rmdir_onlyDirs h) (World.rmdir_file? h) fun q hq hb => ?_
  obtain ⟨h1, h2⟩ := outside_ne hp hq hb
  rcases w.rmdir_cases p with ⟨e, he⟩ | ⟨d, _, _, _, he⟩
  · rw [he] at h; cases h; rfl
  · rw [he] at h; cases h
    exact World.dropDir_other _ h1 h2

theorem outside_pushMount (m : Mount) (hp : belowApex m.mountPoint) :
    w.Outside (w.pushMount m) := by
  refine .of_dirs rfl fun q hb => ?_
  unfold World.mounted World.pushMount
  rw [List.find?_cons_of_neg]
  simpa using (ne_of_belowApex hp hb).symm

theorem outside_mount {block : String} {r : Except Errno Unit} (hp : belowApex p)
    (h : (r, w') = w.mount block p) : w.Outside w' := by
  rcases w.mount_cases block p with ⟨e, he⟩ | ⟨n, f, _, _, he⟩
  · rw [he] at h; cases h; exact .refl w
  · rw [he] at h; cases h; exact outside_pushMount _ hp

theorem outside_bindMount {source : String} {r : Except Errno Unit} (hp : belowApex p)
    (h : (r, w') = w.bindMount source p) : w.Outside w' := by
  rcases w.bindMount_cases source p with ⟨e, he⟩ | ⟨m, _, rfl, _, _, _, he⟩
  · rw [he] at h; cases h; exact .refl w
  · rw [he] at h; cases h; exact outside_pushMount m hp

theorem find?_eraseP_ne {α : Type} {f : α → String} {p q : String} (h : q ≠ p) (l : List α) :
    (l.eraseP fun m => f m == p).find? (fun m => f m == q) = l.find? fun m => f m == q := by
  induction l with
  | nil => rfl
  | cons m l ih =>
    rw [List.eraseP_cons]
    by_cases hm : f m = p
    · simp [hm, Ne.symm h]
    · rw [show (f m == p) = false from by simpa using hm, cond_false]
      simp only [List.find?_cons, ih]

theorem outside_umount2 {r : Except Errno Unit} (hp : belowApex p) (h : (r, w') = w.umount2 p) :
    w.Outside w' := by
  rcases w.umount2_cases p with ⟨e, _, he⟩ | ⟨_, he⟩
  · rw [he] at h; cases h; exact .refl w
  · rw [he] at h; cases h
    exact .of_dirs rfl fun q hb => find?_eraseP_ne (ne_of_belowApex hp hb) w.mounts

/-- **One call changes nothing outside.** -/
theorem apexCmd_outside {c : Sys} {r : c.Res} (hc : ApexCmd c) (h : c.Normal w r w') :
    w.Outside w' := by
  cases c with
  | mkdir p mode => exact outside_mkdir hc h
  | rmdir p => exact outside_rmdir hc h
  | mount b p => exact outside_mount hc h
  | bindMount s p => exact outside_bindMount hc h
  | umount2 p => exact outside_umount2 hc h
  | loopGetFree => obtain ⟨n, _, _, rfl⟩ := h; exact .refl _
  | loopSetFd d t => exact .of_onlyDevices (World.loopSetFd_onlyDevices h)
  | loopSetStatus d o z i => exact .of_onlyDevices (World.loopSetStatus_onlyDevices h)
  | loopClrFd d => exact .of_onlyDevices (World.loopClrFd_onlyDevices h)
  | dmCreate n t =>
    obtain ⟨k, _, h'⟩ := h
    exact .of_onlyDevices (World.dmCreate_onlyDevices h')
  | dmDelete n => exact .of_onlyDevices (World.dmDelete_onlyDevices h)
  | setDb db =>
    obtain rfl : w' = { w with db := db } := h
    exact .of_dirs rfl fun _ _ => rfl
  | abort m => exact h.elim
  | _ => first | exact hc.elim | (obtain ⟨_, rfl⟩ := h; exact .refl _)

end Calls

/-! ## The programs -/

section Uses

variable {S : Sys → Prop} {cfg : Config}

theorem uses_ite {α : Type} {b : Prop} [Decidable b] {p q : ApexM α} (hp : p.Uses S)
    (hq : q.Uses S) : (if b then p else q).Uses S := by
  split
  · exact hp
  · exact hq

theorem uses_logged {p : ApexM Unit} (hp : p.Uses S) : (logged p).Uses S :=
  uses_bind (uses_attempt hp) fun _ => trivial

theorem uses_configureReadAhead (p : String) : (configureReadAhead p).Uses DeviceQuery := by
  refine uses_bind (uses_require _ _) fun _ => ?_
  exact uses_bind (uses_sys_check _ trivial) fun _ => uses_sys_check _ trivial

theorem uses_maybeCloseBad (d : String) : (maybeCloseBad d).Uses DeviceCmd :=
    ⟨trivial, fun _ => trivial⟩

theorem uses_openLoopDevice (d : String) (n : Nat) : (openLoopDevice d n).Uses DeviceQuery := by
  induction n with
  | zero => trivial
  | succ n ih =>
    refine uses_exec_bind trivial fun r => ?_
    cases r with
    | ok _ => trivial
    | error e => exact uses_ite trivial ih

theorem uses_setUpLoopDevice (d t : String) (o : Int) (z : Nat) :
    (setUpLoopDevice d t o z).Uses DeviceCmd := by
  have hread : (configureReadAhead d).Uses DeviceCmd := (uses_configureReadAhead d).mono
    fun _ h => h.device
  unfold setUpLoopDevice
  refine uses_bind (uses_sys_check (c := .loopSetFd d t) _ trivial) fun _ => ?_
  refine uses_bind (uses_sys_check (c := .loopSetStatus d o z kApexLoopIdPrefix) _ trivial) fun _ =>
    ?_
  refine uses_bind (uses_sys_check (c := .loopFlush d) _ trivial) fun _ => ?_
  refine uses_exec_bind trivial fun r => ?_
  cases r with
  | error e => exact uses_bind trivial fun _ => hread
  | ok _ => exact uses_exec_bind trivial fun _ => hread

theorem uses_createLoopDevice (t : String) (o : Int) (z : Nat) :
    (createLoopDevice t o z).Uses DeviceCmd := by
  unfold createLoopDevice
  refine uses_bind (uses_exec_bind trivial fun r => uses_check _ r) fun _ => ?_
  refine uses_bind (uses_exec_bind trivial fun r => uses_check _ r) fun n => ?_
  refine uses_bind (uses_exec_bind trivial fun r => uses_check _ r) fun _ => ?_
  refine uses_bind ((uses_openLoopDevice _ _).mono fun _ h => h.device) fun _ => ?_
  exact uses_bind (uses_onFail (uses_setUpLoopDevice _ _ _ _) (uses_maybeCloseBad _))
    fun _ => trivial

theorem uses_createLoopDeviceLoop (apex : ApexFile) (n : Nat) :
    (createLoopDeviceLoop apex n).Uses DeviceCmd := by
  induction n with
  | zero => trivial
  | succ n ih =>
    refine uses_bind (uses_attempt (uses_createLoopDevice _ _ _)) fun x => ?_
    cases x with
    | ok d => trivial
    | error e => exact uses_ite trivial ih

theorem uses_destroyLoopDevice (p : String) : (destroyLoopDevice p).Uses DeviceCmd := by
  refine uses_exec_bind trivial fun r => ?_
  cases r with
  | error e => trivial
  | ok _ =>
    refine uses_exec_bind trivial fun r => ?_
    cases r with
    | error e => trivial
    | ok id => exact uses_ite (uses_exec_bind trivial fun _ => trivial) trivial

theorem uses_waitForDevice {S : Sys → Prop} (h : ∀ p, S (.deviceExists p)) (d : String)
    (m : WaitForDeviceMode) : (waitForDevice d m).Uses S := by
  unfold waitForDevice
  generalize (if m = .kWaitToBeCreated then 10 else 15 : Nat) = n
  induction n with
  | zero => trivial
  | succ n ih =>
    refine uses_exec_bind (h d) fun r => ?_
    rcases r with e | b
    · exact ih
    · cases b <;> exact uses_ite trivial ih

theorem uses_deleteVerityDevice (n p : String) : (deleteVerityDevice n p).Uses DeviceCmd :=
  uses_exec_bind trivial fun r => uses_bind (uses_require r _) fun _ =>
    uses_waitForDevice (fun _ => trivial) _ _

theorem uses_deleteVerityDeviceByName (n : String) :
    (deleteVerityDeviceByName n).Uses DeviceCmd := by
  refine uses_exec_bind trivial fun r => ?_
  cases r with
  | none => trivial
  | some p => exact uses_deleteVerityDevice n p

theorem uses_createVerityDevice (n : String) (t : VerityTable) :
    (createVerityDevice n t).Uses DeviceCmd := by
  unfold createVerityDevice
  refine uses_exec_bind trivial fun b => ?_
  refine uses_bind (uses_when (uses_logged (uses_deleteVerityDeviceByName n))) fun _ => ?_
  refine uses_exec_bind trivial fun r => uses_bind (uses_require r _) fun _ => ?_
  refine uses_onFail ⟨trivial, fun r => ?_⟩ (uses_deleteVerityDevice n "")
  cases r <;> trivial

theorem uses_verifyMountedImage (apex : ApexFile) (m : String) :
    (verifyMountedImage apex m).Uses DeviceQuery := by
  refine uses_bind ⟨trivial, fun r => ?_⟩ fun _ => uses_ite ?_ trivial
  · cases r with
    | error e => trivial
    | ok x => exact uses_require _ _
  · exact uses_bind (uses_require _ _) fun _ => uses_exec_bind trivial fun r => uses_ofExcept r

theorem uses_mountBlockDevice (hq : ∀ c, DeviceQuery c → S c) {b m : String} (hm : S (.mount b m))
    (hu : S (.umount2 m)) (apex : ApexFile) (z : Option Nat) :
    (mountBlockDevice apex b m z).Uses S := by
  have hwait : (waitForDevice b .kWaitToBeCreated).Uses S :=
    uses_waitForDevice (fun p => hq (.deviceExists p) trivial) _ _
  have hmount : (mountVerified apex b m).Uses S := by
    refine uses_exec_bind hm fun r => ?_
    cases r with
    | error e => trivial
    | ok _ =>
      refine uses_bind (uses_attempt ((uses_verifyMountedImage _ _).mono hq)) fun x => ?_
      cases x with
      | ok _ => trivial
      | error e => exact uses_exec_bind hu fun _ => trivial
  cases z with
  | none =>
    rw [mountBlockDevice_none]
    exact uses_bind hwait fun _ => hmount
  | some z =>
    rw [mountBlockDevice_some]
    refine uses_bind hwait fun _ => uses_bind ?_ fun _ => hmount
    exact uses_exec_bind (hq (.readVerityDevice b z) trivial) fun r => uses_check _ r

theorem uses_mountLoopDevice (apex : ApexFile) (l m n : String) (v : Bool) :
    (mountLoopDevice cfg apex l m n v).Uses (MountCmd m) := by
  refine uses_exec_bind trivial fun r => uses_bind (uses_mapErr (uses_ofExcept r)) fun d => ?_
  have hmount : ∀ b z, (mountBlockDevice apex b m z).Uses (MountCmd m) := fun b z =>
    uses_mountBlockDevice (fun _ h => h.device.mount) rfl rfl apex z
  refine uses_ite ?_ (hmount _ _)
  refine uses_bind (uses_mapErr ((uses_createVerityDevice _ _).mono fun _ h => h.mount)) fun dev =>
    ?_
  refine uses_onFail (uses_bind ?_ fun _ => ?_)
    ((uses_deleteVerityDevice _ _).mono fun _ h => h.mount)
  · exact (uses_configureReadAhead _).mono fun _ h => h.device.mount
  · exact hmount _ _

theorem uses_mountNonFlattened (apex : ApexFile) (m n : String) (v : Bool) :
    (mountNonFlattened cfg apex m n v).Uses (MountCmd m) := by
  refine uses_bind (uses_require _ _) fun _ => ?_
  refine uses_bind ((uses_createLoopDeviceLoop _ _).mono fun _ h => h.mount) fun l => ?_
  refine uses_bind (uses_onFail (uses_mountLoopDevice _ _ _ _ _) ?_) fun _ => trivial
  exact (uses_maybeCloseBad _).mono fun _ h => h.mount

theorem uses_mountFlattened (apex : ApexFile) (m : String) :
    (mountFlattened apex m).Uses (MountCmd m) := by
  refine uses_bind (uses_require _ _) fun _ => ?_
  exact uses_bind (uses_exec_bind rfl fun r => uses_check _ r) fun _ => trivial

theorem uses_mountPackageImpl (apex : ApexFile) {m : String} (n : String) (v : Bool)
    (hm : belowApex m) : (mountPackageImpl cfg apex m n v).Uses TempCmd := by
  unfold mountPackageImpl
  refine uses_bind (uses_pathExists trivial) fun b => ?_
  refine uses_bind (uses_when (uses_exec_bind hm fun r => uses_check _ r)) fun _ => ?_
  refine uses_onFail (uses_bind (uses_exec_bind ?_ ?_) fun e =>
    uses_bind (uses_when (uses_failErrno trivial _)) fun _ => ?_)
      (uses_exec_bind hm fun _ => trivial)
  · exact active_notBelow hm
  · rintro (e | l) <;> trivial
  refine uses_ite ?_ ?_
  · exact (uses_mountFlattened apex m).mono fun _ h => h.temp hm
  · exact (uses_mountNonFlattened apex m n v).mono fun _ h => h.temp hm

theorem uses_unmount {data : MountedApexData} (hm : belowApex data.mountPoint) :
    (unmount data).Uses TempCmd := by
  have hrest : (do
      let _ ← sys (.rmdir data.mountPoint)
      when (data.deviceName ≠ "") (logged (deleteVerityDeviceByName data.deviceName))
      when (data.loopName ≠ "") (destroyLoopDevice data.loopName) : ApexM Unit).Uses TempCmd := by
    refine uses_exec_bind hm fun _ => ?_
    refine uses_bind (uses_when (uses_logged ?_)) fun _ => uses_when ?_
    · exact (uses_deleteVerityDeviceByName _).mono fun _ h => h.temp
    · exact (uses_destroyLoopDevice _).mono fun _ h => h.temp
  refine uses_exec_bind hm fun r => ?_
  cases r with
  | ok _ => exact hrest
  | error e => exact uses_bind (uses_require _ _) fun _ => hrest

theorem below_packageMountPoint (m : ApexManifest) : belowApex (getPackageMountPoint m) :=
  below_join _ _

theorem below_activeMountPoint (m : ApexManifest) : belowApex (getActiveMountPoint m) :=
    below_join _ _

theorem below_tempMountPoint (m : ApexManifest) : belowApex (getPackageTempMountPoint m) := by
  refine below_iff.2 ⟨getPackageId m ++ ".tmp", ?_⟩
  unfold getPackageTempMountPoint getPackageMountPoint join
  rw [String.append_assoc]

theorem uses_openApex (p : String) : (openApex p).Uses TempCmd :=
  uses_exec_bind trivial fun r => uses_ofExcept r

/-- The calls of `BindMount`, all at its target. -/
def BindCmd (target source : String) : Sys → Prop
  | .stat p => p = target
  | .mkdir p _ => p = target
  | .unlink p => p = target
  | .umount2 p => p = target
  | .bindMount s p => s = source ∧ p = target
  | _ => False

theorem uses_bindMount_calls (target source : String) :
    (bindMount target source).Uses (BindCmd target source) := by
  have hb : (sys (.bindMount source target) >>=
      check ("Could not bind-mount " ++ source ++ " to " ++ target)).Uses (BindCmd target source) :=
    uses_exec_bind ⟨rfl, rfl⟩ fun r => uses_check _ r
  have hm : (sys (.mkdir target kMkdirMode) >>=
      check ("Could not create mountpoint " ++ target)).Uses (BindCmd target source) :=
    uses_exec_bind rfl fun r => uses_check _ r
  unfold bindMount
  simp only [bind_eq] at hb hm ⊢
  refine uses_exec_bind rfl fun r => ?_
  split
  · exact uses_bind hm fun _ => hb
  · exact uses_exec_bind rfl fun _ => hb
  · split
    · exact uses_exec_bind rfl fun _ => hb
    · exact uses_exec_bind rfl fun _ => uses_bind hm fun _ => hb

/-- What `MountPackageImpl` returns describes the mount that was asked for. -/
theorem yields_mountPackageImpl (apex : ApexFile) (m n : String) (v : Bool) :
    (mountPackageImpl cfg apex m n v).Yields fun d => d.mountPoint = m ∧
    d.fullPath = apex.path := by
  unfold mountPackageImpl
  refine yields_then fun _ => yields_then fun _ => yields_onFail ?_
  refine yields_then fun _ => yields_then fun _ => ?_
  split
  · exact yields_then fun _ => yields_then fun _ => ⟨rfl, rfl⟩
  · exact yields_then fun _ => yields_then fun _ => yields_then fun _ => ⟨rfl, rfl⟩

theorem uses_runVerifyFnInsideTempMount (apex : ApexFile) {f : String → ApexM Unit}
    (hf : ∀ m, (f m).Uses TempCmd) : (runVerifyFnInsideTempMount cfg apex f).Uses TempCmd := by
  refine uses_bind_yields (uses_mountPackageImpl _ _ _ (below_tempMountPoint _))
    (yields_mountPackageImpl _ _ _ _) ?_
  rintro data ⟨hm, _⟩
  refine uses_andThen (hf _) (uses_unmount ?_)
  rw [hm]
  exact below_tempMountPoint _

theorem uses_validateUpdate (p q : String) : (validateUpdate p q).Uses TempCmd := by
  refine uses_exec_bind trivial fun r => uses_bind (uses_ofExcept r) fun a => ?_
  exact uses_exec_bind trivial fun r => uses_bind (uses_ofExcept r) fun b => uses_require _ _

theorem uses_verifyPackageBoot (apex : ApexFile) : (verifyPackageBoot cfg apex).Uses TempCmd := by
  refine uses_bind (uses_require _ _) fun _ => uses_exec_bind trivial fun r => ?_
  refine uses_bind (uses_ofExcept r) fun _ => uses_ite ?_ trivial
  exact uses_bind (uses_openApex _) fun s => uses_runVerifyFnInsideTempMount s fun m =>
    uses_validateUpdate _ _

theorem uses_verifyPackageInstall (apex : ApexFile) :
    (verifyPackageInstall cfg apex).Uses TempCmd := by
  refine uses_bind (uses_verifyPackageBoot _) fun _ => uses_bind (uses_require _ _) fun _ => ?_
  exact uses_exec_bind trivial fun r => uses_runVerifyFnInsideTempMount _ fun _ => trivial

theorem uses_verifyPackages (paths : List String) {f : ApexFile → ApexM Unit}
    (hf : ∀ a, (f a).Uses TempCmd) : (verifyPackages paths f).Uses TempCmd := by
  refine uses_bind (uses_require _ _) fun _ => ?_
  refine uses_bind (uses_mapM _ fun p _ => uses_openApex p) fun apexes => ?_
  exact uses_bind (uses_forM _ fun a _ => hf a) fun _ => trivial

theorem sessionDirPath_ne_active (id : Int32) : sessionDirPath id ≠ kActiveApexPackagesDataDir := by
  unfold sessionDirPath
  rw [String.append_assoc]
  exact append_ne (by decide)

theorem uses_verifySessionDir (id : Int32) : (verifySessionDir cfg id).Uses TempCmd := by
  refine uses_bind (uses_readDir (sessionDirPath_ne_active id)) fun scan =>
    uses_bind (uses_require _ _) fun _ => ?_
  refine uses_bind (uses_verifyPackages _ uses_verifyPackageInstall) fun l => ?_
  cases l <;> trivial

theorem uses_getActivePackagesMap : getActivePackagesMap.Uses TempCmd := by
  refine uses_bind (uses_exec_bind trivial fun db => uses_foldlM _ _ fun acc e _ => ?_)
    fun _ => trivial
  refine uses_ite (uses_bind (uses_attempt (uses_openApex _)) fun x => ?_) trivial
  cases x <;> trivial

end Uses

/-! ## The database -/

theorem tempCmd_db {w : World} {c : Sys} {r : c.Res} {w' : World} (hc : TempCmd c)
    (h : c.Normal w r w') : w'.db = w.db := by
  cases c with
  | mkdir p mode => rw [World.mkdir_onlyDirs h]
  | rmdir p => rw [World.rmdir_onlyDirs h]
  | mount b p => rw [World.mount_onlyMounts h]
  | bindMount s p => rw [World.bindMount_onlyMounts h]
  | umount2 p => rw [World.umount2_onlyMounts h]
  | loopGetFree => obtain ⟨n, _, _, rfl⟩ := h; rfl
  | loopSetFd d t => rw [World.loopSetFd_onlyDevices h]
  | loopSetStatus d o z i => rw [World.loopSetStatus_onlyDevices h]
  | loopClrFd d => rw [World.loopClrFd_onlyDevices h]
  | dmCreate n t =>
    obtain ⟨k, _, h'⟩ := h
    rw [World.dmCreate_onlyDevices h']
  | dmDelete n => rw [World.dmDelete_onlyDevices h]
  | _ => first | exact hc.elim | (obtain ⟨_, rfl⟩ := h; rfl)

end Apexd
