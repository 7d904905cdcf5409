import Apexd.HookMounts
import Apexd.MountFailure
import Apexd.MountStack
import Apexd.Requests

/-!
# What a submission leaves behind

`submitStagedSession` mounts every package it verifies, the system's shim package while an update of
it is verified, and all packages again when one of them has a pre-install hook.

* `Stacked.wp_mountPackageImpl`, `Stacked.wp_unmount` — one more mount, and the first one taken
  down.
* `HookStack` — the mounts made to run a hook, with their entries in the database.
* `submitStagedSession_restores` — after the call nothing of it is left, whatever its outcome.
* `submitStagedSession_leaks_loop` — a loop device that cannot be opened any more stays bound.
-/

set_option autoImplicit false

namespace Apexd

open Text Prog

/-! ## Mounting one package -/

/-- What the call holds exists. -/
def Alive (t : (World × Held) × Bool) : Prop := Live t.1

theorem teardown_pre (c : Sys) (t : (World × Held) × Bool) :
    teardownKernel.pre c t := by cases c <;> trivial

/-- A call that changes the database does nothing else. -/
def KeepsDb : Sys → Prop
  | .setDb _ => False
  | _ => True

theorem TempCmd.keepsDb {c : Sys} (h : TempCmd c) :
    KeepsDb c := by cases c <;> first | exact h | trivial

theorem KeepsDb.same {c : Sys} (hc : KeepsDb c) {s s' : World × Held} {r : c.Res}
    (hs : cleanKernel.sem c s r s') : s'.1.db = s.1.db := by
  by_cases hd : SparesDevices c
  · exact (hd.same hs).1.db
  · obtain ⟨-, w', rfl, hn | ⟨-, rfl⟩⟩ := clean_cases hs
    · cases c with
      | loopSetFd d t => exact (World.KeptTree.of_onlyDevices (World.loopSetFd_onlyDevices hn)).db
      | loopSetStatus d o z i =>
        exact (World.KeptTree.of_onlyDevices (World.loopSetStatus_onlyDevices hn)).db
      | loopClrFd d => exact (World.KeptTree.of_onlyDevices (World.loopClrFd_onlyDevices hn)).db
      | dmDelete n => exact (World.KeptTree.of_onlyDevices (World.dmDelete_onlyDevices hn)).db
      | dmCreate n t =>
        obtain ⟨k, -, hk⟩ := hn
        exact (World.KeptTree.of_onlyDevices (World.dmCreate_onlyDevices hk)).db
      | mount b p => rw [World.mount_onlyMounts hn]
      | bindMount s p => rw [World.bindMount_onlyMounts hn]
      | umount2 p => rw [World.umount2_onlyMounts hn]
      | setDb db => exact hc.elim
      | _ => exact absurd trivial hd
    · rfl

section Teardown

variable {α : Type} {p : ApexM α} {t t' : (World × Held) × Bool} {w : World} {m : MountedApex}
  {ms : List MountedApex}

theorem Alive.step (h : Alive t) {c : Sys} {r : c.Res} (hs : teardownKernel.sem c t r t') :
    Alive t' :=
  Live.step h hs.2.1

/-- What is known without the look-ups. -/
theorem wp_alive {Q : Except String α → World × Held → Prop}
    (h : wp deviceKernel (fun _ => True) p Q t.1)
    (hl : Alive t) : wp teardownKernel Alive p (fun x t' => Q x t'.1) t := by
  have hfst : wp teardownKernel (fun _ => True) p (fun x t' => Q x t'.1) t :=
    h.comap (f := Prod.fst) (fun c t _ => teardown_pre c t) fun c t r t' hs => hs.2.1
  have hlive : wp teardownKernel Alive p (fun _ => Alive) t :=
    (uses_all p).wp (fun c t _ _ => teardown_pre c t) (fun c t r t' _ h hs => h.step hs) hl
  exact (hfst.and hlive).mono (fun _ h => h.2) fun _ _ _ h => h.1

theorem wp_spares (hp : p.Uses SparesDevices) (hl : Alive t) : wp teardownKernel Alive p
    (fun _ t' => t.1.1.SameDevices t'.1.1 ∧ t'.1.2 = t.1.2) t := by
  have hwp : wp teardownKernel (fun t' => Alive t' ∧ t.1.1.SameDevices t'.1.1 ∧ t'.1.2 = t.1.2) p
      (fun _ t' => Alive t' ∧ t.1.1.SameDevices t'.1.1 ∧ t'.1.2 = t.1.2) t := by
    refine hp.wp (fun c t _ _ => teardown_pre c t) (fun c t₁ r t₂ hc h₁ hs => ?_) ⟨hl, .refl _, rfl⟩
    obtain ⟨hsame, hheld⟩ := hc.same hs.2.1
    exact ⟨h₁.1.step hs, h₁.2.1.trans hsame, hheld.trans h₁.2.2⟩
  exact hwp.mono (fun _ h => h.1) fun _ _ _ h => h.2

theorem wp_keepsDb (hp : p.Uses KeepsDb) : wp teardownKernel (fun _ => True) p
    (fun _ t' => t'.1.1.db = t.1.1.db) t := by
  have hwp : wp teardownKernel (fun t' => t'.1.1.db = t.1.1.db) p
      (fun _ t' => t'.1.1.db = t.1.1.db) t :=
    hp.wp (fun c t _ _ => teardown_pre c t)
      (fun c t₁ r t₂ hc h₁ hs => (hc.same hs.2.1).trans h₁) rfl
  exact hwp.mono (fun _ _ => trivial) fun _ _ _ h => h

/-- Waiting changes nothing. -/
theorem wp_waits (hp : p.Uses fun c => ∃ d, c = .deviceExists d) (hl : Alive t) :
    wp teardownKernel Alive p (fun _ t' => t' = t) t := by
  have hwp : wp teardownKernel (fun t' => t' = t) p (fun _ t' => t' = t) t := by
    refine hp.wp (fun c t _ _ => teardown_pre c t) ?_ rfl
    rintro _ _ r ⟨s', b'⟩ ⟨d, rfl⟩ rfl ⟨-, hs, hb⟩
    obtain rfl : s' = _ := DeviceQuery.same (c := .deviceExists d) trivial hs
    exact congrArg (Prod.mk _) hb
  exact hwp.mono (fun t' h => h ▸ hl) fun _ _ _ h => h

/-! ### Unmounting it -/

/-- The dm device goes, if there is one. -/
theorem Stacked.wp_deleteDm (h : Stacked w ms (m :: ms) (m :: ms) t.1) (hl : Alive t)
    (hb : t.2 = true) :
    wp teardownKernel Alive (logged (deleteVerityDeviceByName m.data.deviceName))
      (fun x t' => x = .ok () ∧ t'.2 = true ∧ Stacked w ms ms (m :: ms) t'.1) t := by
  unfold logged
  refine wp_bind.2 (wp_attempt.2 ?_)
  suffices hwp : wp teardownKernel Alive (deleteVerityDeviceByName m.data.deviceName)
      (fun _ t' => t'.2 = true ∧ Stacked w ms ms (m :: ms) t'.1) t from
    hwp.imp fun x t' hI hx => ⟨hI, rfl, hx⟩
  unfold deleteVerityDeviceByName
  simp only [bind_eq, exec_bind]
  refine ⟨hl, teardown_pre _ _, fun r t₁ hs₁ => ?_⟩
  have hl₁ := hl.step hs₁
  obtain ⟨hlook, hs₁, hb₁⟩ := hs₁
  have hs : t₁.1 = t.1 := DeviceQuery.same (c := .dmGetPath m.data.deviceName) trivial hs₁
  replace hb₁ : t₁.2 = true := hb₁.trans hb
  rw [← hs] at h
  cases r with
  | none =>
    refine ⟨hl₁, hb₁, h.noDm ?_⟩
    cases hv : m.onVerity with
    | false => rfl
    | true =>
      have hheld : m.data.deviceName ∈ t.1.2.dms := by
        rw [← hs]
        exact h.heldDms.mem_iff.2 (by rw [dmNames_cons, if_pos hv]; exact List.mem_cons_self)
      exact absurd rfl (hlook hb hheld)
  | some path =>
    simp only [deleteVerityDevice, bind_eq, exec_bind]
    refine ⟨hl₁, teardown_pre _ _, fun r t₂ hs₂ => ?_⟩
    have hl₂ := hl₁.step hs₂
    have h₂ := h.dmDelete hs₂.2.1
    have hb₂ : t₂.2 = true := hs₂.2.2.trans hb₁
    have hwaits : ((require r
      ("Failed to delete device " ++ m.data.deviceName ++ " with path " ++ path)).bind
        fun _ => waitForDevice path .kWaitToBeDeleted : ApexM Unit).Uses fun c => ∃ d,
            c = .deviceExists d :=
      uses_bind (uses_require _ _) fun _ => uses_waitForDevice (fun d => ⟨d, rfl⟩) _ _
    exact (wp_waits hwaits hl₂).imp fun x t₃ _ ht => ht ▸ ⟨hb₂, h₂⟩

/-- The loop device goes. -/
theorem Stacked.wp_destroyLoop (h : Stacked w ms ms (m :: ms) t.1) (hl : Alive t)
    (hb : t.2 = true) :
    wp teardownKernel Alive (destroyLoopDevice m.data.loopName)
      (fun _ t' => Stacked w ms ms ms t'.1) t := by
  have hheld : m.data.loopName ∈ t.1.2.loops := h.heldLoops.mem_iff.2 List.mem_cons_self
  unfold destroyLoopDevice
  simp only [bind_eq, exec_bind]
  refine ⟨hl, teardown_pre _ _, fun r t₁ hs₁ => ?_⟩
  have hl₁ := hl.step hs₁
  have hs : t₁.1 = t.1 := DeviceQuery.same (c := .openDevice m.data.loopName) trivial hs₁.2.1
  have hb₁ : t₁.2 = true := hs₁.2.2.trans hb
  obtain rfl : r = .ok () := hs₁.1 hb hheld
  rw [← hs] at h hheld
  refine ⟨hl₁, teardown_pre _ _, fun r t₂ hs₂ => ?_⟩
  have hl₂ := hl₁.step hs₂
  obtain ⟨id, rfl⟩ := hs₂.1 hb₁ hheld
  have hsame := SparesDevices.same (c := .loopGetStatus m.data.loopName) trivial hs₂.2.1
  have h₂ := h.same hsame.1 hsame.2
  -- the device carries the mark of apexd
  have hid : id = kApexLoopIdPrefix := by
    obtain ⟨-, w', -, ⟨hr, -⟩ | ⟨⟨e, he⟩, -⟩⟩ := clean_cases hs₂.2.1
    · split at hr
      · rename_i l hfound
        rw [Except.ok.inj hr]
        have hdev : l.device = m.data.loopName := eq_of_beq (List.find?_some hfound :)
        exact h.ids l (List.mem_of_find?_eq_some hfound) (hdev ▸ List.mem_cons_self)
      · cases hr
    · cases he
  have hmark : startsWith id kApexLoopIdPrefix = true := by rw [hid]; decide
  dsimp only
  rw [if_pos hmark]
  exact ⟨hl₂, teardown_pre _ _, fun r t₃ hs₃ => ⟨hl₂.step hs₃, h₂.clrFd hs₃.2.1⟩⟩

/-- **Unmounting the oldest package** lets go of all that was acquired for it. -/
theorem Stacked.wp_unmount (h : Stacked w (m :: ms) (m :: ms) (m :: ms) t.1) (hl : Alive t) :
    wp teardownKernel Alive (unmount m.data) (fun _ t' => Stacked w ms ms ms t'.1) t := by
  have hsound := h.sound m List.mem_cons_self
  rw [unmount_eq]
  refine ⟨hl, teardown_pre _ _, fun r t₁ hs₁ => ?_⟩
  have hl₁ := hl.step hs₁
  have hb₁ : t₁.2 = true := hs₁.2.2
  obtain ⟨rfl, h₁⟩ := h.umount2 hs₁.2.1
  refine ⟨hl₁, teardown_pre _ _, fun r t₂ hs₂ => ?_⟩
  have hl₂ := hl₁.step hs₂
  have hb₂ : t₂.2 = true := hs₂.2.2.trans hb₁
  have hsame := SparesDevices.same (c := .rmdir m.data.mountPoint) trivial hs₂.2.1
  have h₂ := h₁.same hsame.1 hsame.2
  unfold unmountDevices
  refine wp_bind.2 (wp_when (fun _ => ?_) fun hd => absurd hd (by simp [hsound.device]))
  refine (h₂.wp_deleteDm hl₂ hb₂).imp fun x t₃ hl₃ hx => ?_
  obtain ⟨rfl, hb₃, h₃⟩ := hx
  refine wp_when (fun _ => h₃.wp_destroyLoop hl₃ hb₃) fun hn => ?_
  obtain ⟨k, hk⟩ := hsound.loop
  refine absurd hn ?_
  rw [hk]
  simp [loopName]

/-! ### Mounting it -/

/-- A flattened package is bound on top. -/
def BoundOn (w : World) (ms : List MountedApex) (mountPoint : String) (s : World × Held) : Prop :=
  ∃ (x : Mount) (rest : List Mount), s.1.mounts = x :: rest ∧ x.mountPoint = mountPoint ∧
    Stacked w ms ms ms ({ s.1 with mounts := rest }, s.2)

/-- One more package is mounted. -/
def Pushed (w : World) (ms : List MountedApex) (apex : ApexFile) (mountPoint : String)
    (data : MountedApexData) (s : World × Held) : Prop :=
  if apex.flattened then data = ⟨"", apex.path, mountPoint, ""⟩ ∧ BoundOn w ms mountPoint s
  else ∃ m : MountedApex, m.data = data ∧ data.fullPath = apex.path ∧
    Stacked w (ms ++ [m]) (ms ++ [m]) (ms ++ [m]) s

theorem Stacked.wp_mountPackageImpl (h : Stacked w ms ms ms t.1) (hl : Alive t)
    {mountPoint deviceName : String}
    (hpoint : mountPoint = join kApexRoot deviceName) (hdevice : deviceName ≠ "") (cfg : Config)
    (apex : ApexFile) (verifyImage : Bool) :
    wp teardownKernel Alive (mountPackageImpl cfg apex mountPoint deviceName verifyImage) (fun
      | .ok data, t' => Pushed w ms apex mountPoint data t'.1
      | .error _, t' => Stacked w ms ms ms t'.1) t := by
  rw [mountPackageImpl_eq]
  refine wp_bind.2 ((wp_spares (uses_pathExists trivial) hl).imp fun x t₁ hl₁ hs₁ => ?_)
  have h₁ := h.same hs₁.1 hs₁.2
  cases x with
  | error e => exact h₁
  | ok b =>
    have hmkdir : (when (!b) (sys (.mkdir mountPoint kMkdirMode) >>=
        check ("Could not create mount point " ++ mountPoint))).Uses SparesDevices :=
      uses_when (uses_sys_check _ trivial)
    refine wp_bind.2 ((wp_spares hmkdir hl₁).imp fun x t₂ hl₂ hs₂ => ?_)
    have h₂ := h₁.same hs₂.1 hs₂.2
    cases x with
    | error e => exact h₂
    | ok u =>
      have hnew : t₂.1.1.EmptyDir mountPoint → deviceName ∉ t₂.1.2.dms := by
        intro hempty hmem
        obtain ⟨o, ho, hod⟩ := List.mem_map.1 (h₂.heldDms.mem_iff.1 hmem)
        have ho := List.mem_of_mem_filter ho
        have hsound := h₂.sound o ho
        refine List.find?_eq_none.1 hempty.1 o.mount ?_ (beq_iff_eq.2 ?_)
        · rw [h₂.mounts]
          exact List.mem_append_left _ (List.mem_reverse.2 (List.mem_map_of_mem ho))
        · rw [hsound.point, hsound.named, hod, hpoint]
      refine wp_onFail.2 ((wp_alive (wp_mountInto hnew) hl₂).imp fun x t₃ hl₃ hx => ?_)
      cases x with
      | error e =>
        have hguard : (removeMountPoint mountPoint).Uses SparesDevices :=
          uses_exec_bind trivial fun _ => trivial
        exact (wp_spares hguard hl₃).imp fun y t₄ _ hs => (h₂.free hx.1).same hs.1 hs.2
      | ok data =>
        obtain ⟨hempty, hinto⟩ := hx
        show Pushed w ms apex mountPoint data t₃.1
        unfold MountedInto at hinto
        unfold Pushed
        split at hinto
        · rename_i hflat
          obtain ⟨rfl, x, hx, hs⟩ := hinto
          rw [if_pos hflat, hs]
          exact ⟨rfl, x, _, rfl, hx, h₂⟩
        · rename_i hflat
          obtain ⟨loop, rfl, hown⟩ := hinto
          obtain ⟨m, hm, hstack⟩ := h₂.push hown hl₃ hpoint hdevice hempty.1
          rw [if_neg hflat]
          exact ⟨m, hm, rfl, hstack⟩

/-- Unmounting a flattened package. -/
theorem BoundOn.wp_unmount {path mountPoint : String} (h : BoundOn w ms mountPoint t.1)
    (hl : Alive t) :
    wp teardownKernel Alive (unmount ⟨"", path, mountPoint, ""⟩)
      (fun _ t' => Stacked w ms ms ms t'.1) t := by
  obtain ⟨x, rest, hmounts, rfl, hrest⟩ := h
  have hmounted : t.1.1.mounted x.mountPoint = some x := by simp [World.mounted, hmounts]
  rw [unmount_eq]
  refine ⟨hl, teardown_pre _ _, fun r t₁ hs₁ => ?_⟩
  have hl₁ := hl.step hs₁
  have h₁ : r = .ok () ∧ Stacked w ms ms ms t₁.1 := by
    obtain ⟨hc, w', ht, hn | ⟨⟨e, -, he⟩, -⟩⟩ := clean_cases hs₁.2.1
    · have hw : (r, w') = t.1.1.umount2 x.mountPoint := hn
      unfold World.umount2 at hw
      rw [hmounted, hmounts, List.eraseP_cons_of_pos (by simp)] at hw
      cases hw
      rw [ht]
      exact ⟨rfl, hrest.congr rfl (.refl _) List.filter_sublist rfl⟩
    · have hr : r = (t.1.1.umount2 x.mountPoint).1 := hc
      unfold World.umount2 at hr
      rw [hmounted] at hr
      rw [hr] at he
      cases he
  obtain ⟨rfl, h₁⟩ := h₁
  refine ⟨hl₁, teardown_pre _ _, fun r t₂ hs₂ => ?_⟩
  have hsame := SparesDevices.same (c := .rmdir x.mountPoint) trivial hs₂.2.1
  -- there is no device to let go
  exact ⟨hl₁.step hs₂, h₁.same hsame.1 hsame.2⟩

/-! ### Verifying it -/

theorem tempMountPoint_eq (m : ApexManifest) :
    getPackageTempMountPoint m = join kApexRoot (getPackageId m ++ ".tmp") := by
  unfold getPackageTempMountPoint getPackageMountPoint join
  rw [String.append_assoc]

/-- **A temporary mount** is taken down whatever the check says. -/
theorem Stacked.wp_tempMount (h : Stacked w [] [] [] t.1) (hl : Alive t) (cfg : Config)
    (apex : ApexFile) {verifyFn : String → ApexM Unit} (hf : ∀ m, (verifyFn m).Uses SparesDevices) :
    wp teardownKernel Alive (runVerifyFnInsideTempMount cfg apex verifyFn)
      (fun _ t' => Stacked w [] [] [] t'.1) t := by
  unfold runVerifyFnInsideTempMount verifyAndTempMountPackage
  have hdevice : getPackageId apex.manifest ++ ".tmp" ≠ "" := by simp
  refine wp_bind.2 ((h.wp_mountPackageImpl hl (tempMountPoint_eq apex.manifest) hdevice cfg
    apex true).imp fun x t₁ hl₁ hx => ?_)
  cases x with
  | error e => exact hx
  | ok data =>
    refine wp_andThen.2 ((wp_spares (hf _) hl₁).imp fun y t₂ hl₂ hs₂ => ?_)
    have hx : Pushed w [] apex _ data t₁.1 := hx
    unfold Pushed at hx
    split at hx
    · obtain ⟨rfl, b, rest, hmounts, hb, hrest⟩ := hx
      have hbound : BoundOn w [] (getPackageTempMountPoint apex.manifest) t₂.1 :=
        ⟨b, rest, hs₂.1.mounts.trans hmounts, hb, hrest.congr rfl (hs₂.1.dms ▸ .refl _)
          (hs₂.1.loops ▸ .refl _) hs₂.2⟩
      exact hbound.wp_unmount hl₂
    · obtain ⟨m, rfl, -, hstack⟩ := hx
      exact (hstack.same hs₂.1 hs₂.2).wp_unmount hl₂

theorem Stacked.wp_verifyPackageBoot (h : Stacked w [] [] [] t.1) (hl : Alive t) (cfg : Config)
    (apex : ApexFile) : wp teardownKernel Alive (verifyPackageBoot cfg apex) (fun x t' =>
      (x = .ok () → apex.flattened = false) ∧ Stacked w [] [] [] t'.1) t := by
  unfold verifyPackageBoot
  refine wp_bind.2 (wp_require.2 ⟨hl, ?_⟩)
  cases hflat : apex.flattened with
  | true => exact ⟨nofun, h⟩
  | false =>
    have hverity : (sys (.verifyApexVerity apex.path) >>= ofExcept : ApexM ApexVerityData).Uses
        SparesDevices :=
      uses_exec_bind trivial fun r => uses_ofExcept r
    show wp _ _ ((sys (.verifyApexVerity apex.path) >>= ofExcept).bind _) _ _
    refine wp_bind.2 ((wp_spares hverity hl).imp fun x t₁ hl₁ hs₁ => ?_)
    have h₁ := h.same hs₁.1 hs₁.2
    cases x with
    | error e => exact ⟨nofun, h₁⟩
    | ok data =>
      show wp _ _ (if _ then _ else _) _ _
      split
      · unfold validateStagingShimApex
        have hopen : ∀ p, (openApex p).Uses SparesDevices := fun p =>
          uses_exec_bind trivial fun r => uses_ofExcept r
        refine wp_bind.2 ((wp_spares (hopen _) hl₁).imp fun x t₂ hl₂ hs₂ => ?_)
        have h₂ := h₁.same hs₂.1 hs₂.2
        cases x with
        | error e => exact ⟨nofun, h₂⟩
        | ok shim =>
          have hupdate : ∀ m, (validateUpdate m apex.path).Uses SparesDevices := by
            intro m
            refine uses_exec_bind trivial fun r => uses_bind (uses_ofExcept r) fun _ => ?_
            exact uses_exec_bind trivial fun r => uses_bind (uses_ofExcept r) fun _ =>
              uses_require _ _
          exact (h₂.wp_tempMount hl₂ cfg shim hupdate).imp fun x t₃ _ h₃ => ⟨fun _ => rfl, h₃⟩
      · exact ⟨hl₁, fun _ => rfl, h₁⟩

theorem Stacked.wp_verifyPackageInstall (h : Stacked w [] [] [] t.1) (hl : Alive t) (cfg : Config)
    (apex : ApexFile) : wp teardownKernel Alive (verifyPackageInstall cfg apex) (fun x t' =>
      (x = .ok () → apex.flattened = false) ∧ Stacked w [] [] [] t'.1) t := by
  unfold verifyPackageInstall
  refine wp_bind.2 ((h.wp_verifyPackageBoot hl cfg apex).imp fun x t₁ hl₁ hx => ?_)
  cases x with
  | error e => exact ⟨nofun, hx.2⟩
  | ok u =>
    obtain ⟨hflat, h₁⟩ := hx
    refine wp_bind.2 (wp_require.2 ⟨hl₁, ?_⟩)
    cases cfg.updatable with
    | false => exact ⟨nofun, h₁⟩
    | true =>
      refine ⟨hl₁, teardown_pre _ _, fun r t₂ hs₂ => ?_⟩
      have hsame := SparesDevices.same (c := .verifyApexVerity apex.path) trivial hs₂.2.1
      have hnone : ∀ m : String, ((fun _ => ret () : String → ApexM Unit) m).Uses SparesDevices :=
        fun _ => trivial
      refine ((h₁.same hsame.1 hsame.2).wp_tempMount (hl₁.step hs₂) cfg apex hnone).imp ?_
      exact fun x t₃ _ h₃ => ⟨fun _ => hflat rfl, h₃⟩

theorem Stacked.wp_verifyPackages (h : Stacked w [] [] [] t.1) (hl : Alive t) (cfg : Config)
    (paths : List String) :
    wp teardownKernel Alive (verifyPackages paths (verifyPackageInstall cfg)) (fun x t' =>
      (∀ apexes, x = .ok apexes → ∀ a ∈ apexes, a.flattened = false) ∧ Stacked w [] [] [] t'.1)
      t := by
  unfold verifyPackages
  refine wp_bind.2 (wp_require.2 ⟨hl, ?_⟩)
  split
  · have hopen : (openApexes paths).Uses SparesDevices :=
      uses_mapM _ fun p _ => uses_exec_bind trivial fun r => uses_ofExcept r
    refine wp_bind.2 ((wp_spares hopen hl).imp fun x t₁ hl₁ hs₁ => ?_)
    have h₁ := h.same hs₁.1 hs₁.2
    cases x with
    | error e => exact ⟨nofun, h₁⟩
    | ok apexes =>
      refine wp_bind.2 (wp_forM (fun rest t => Alive t ∧ Stacked w [] [] [] t.1 ∧
        ∀ a ∈ apexes, a ∈ rest ∨ a.flattened = false) apexes ?_ ?_ ⟨hl₁, h₁, fun a ha => Or.inl ha⟩)
      · intro a rest t₂ _ hJ
        obtain ⟨hl₂, h₂, hdone⟩ := hJ
        refine (h₂.wp_verifyPackageInstall hl₂ cfg a).imp fun x t₃ hl₃ hx => ?_
        cases x with
        | error e => exact ⟨nofun, hx.2⟩
        | ok u =>
          refine ⟨hl₃, hx.2, fun b hb => ?_⟩
          rcases hdone b hb with hb | hb
          · rcases List.mem_cons.1 hb with rfl | hb
            · exact Or.inr (hx.1 rfl)
            · exact Or.inl hb
          · exact Or.inr hb
      · intro t₂ hJ
        obtain ⟨hl₂, h₂, hdone⟩ := hJ
        refine ⟨hl₂, hl₂, fun l hl a ha => ?_, h₂⟩
        cases hl
        exact (hdone a ha).resolve_left List.not_mem_nil
  · exact ⟨nofun, h⟩

/-- Nothing of the call is left. -/
def Clean (w : World) (t : (World × Held) × Bool) : Prop := Stacked w [] [] [] t.1 ∧ t.1.1.db = w.db

theorem Clean.wp_spares (h : Clean w t) (hp : p.Uses SparesDevices) (hl : Alive t) :
    wp teardownKernel Alive p (fun _ t' => Clean w t') t :=
  (Apexd.wp_spares hp hl).imp fun _ _ _ hs => ⟨h.1.same hs.1 hs.2, hs.1.db.trans h.2⟩

/-- **One directory of a session**: the package is not flattened, and nothing of the call is
left. -/
theorem Clean.wp_verifySessionDir (h : Clean w t) (hl : Alive t) (cfg : Config) (id : Int32) :
    wp teardownKernel Alive (verifySessionDir cfg id) (fun x t' =>
      (∀ apex, x = .ok apex → apex.flattened = false) ∧ Clean w t') t := by
  suffices hwp : wp teardownKernel Alive (verifySessionDir cfg id) (fun x t' =>
      (∀ apex, x = .ok apex → apex.flattened = false) ∧ Stacked w [] [] [] t'.1) t by
    have huses : (verifySessionDir cfg id).Uses TempCmd := uses_verifySessionDir id
    have hdb := wp_keepsDb (t := t) (huses.mono fun _ h => h.keepsDb)
    exact (hwp.and hdb).mono (fun _ h => h.1) fun x t' _ hx => ⟨hx.1.1, hx.1.2, hx.2.trans h.2⟩
  have hscan : (findApexFilesByName (sessionDirPath id) false).Uses SparesDevices :=
    uses_readDir trivial
  unfold verifySessionDir
  refine wp_bind.2 ((Apexd.wp_spares hscan hl).imp fun x t₁ hl₁ hs₁ => ?_)
  have h₁ := h.1.same hs₁.1 hs₁.2
  cases x with
  | error e => exact ⟨fun _ he => (by cases he), h₁⟩
  | ok scan =>
    refine wp_bind.2 (wp_require.2 ⟨hl₁, ?_⟩)
    split
    · refine wp_bind.2 ((h₁.wp_verifyPackages hl₁ cfg scan).imp fun x t₂ hl₂ hx => ?_)
      cases x with
      | error e => exact ⟨fun _ he => (by cases he), hx.2⟩
      | ok verified =>
        cases verified with
        | nil => exact ⟨hl₂, fun _ he => (by cases he), hx.2⟩
        | cons a rest =>
          refine ⟨hl₂, fun apex ha => ?_, hx.2⟩
          cases ha
          exact hx.1 _ rfl _ List.mem_cons_self
    · exact ⟨fun _ he => (by cases he), h₁⟩

end Teardown

/-! ## The mounts made to run a hook -/

/-- The same world with a directory everywhere; the directories do not matter here. -/
def World.anywhere (w : World) : World := { w with dirs := fun _ => some (Dir.empty 0) }

/-- What the scope guard of `StageFnInstall` will undo: the packages `fs`, mounted as `ms`. -/
structure HookStack (w : World) (fs : List ApexFile) (ms : List MountedApex)
    (t : (World × Held) × Bool) : Prop where
  inv : HookInv w.anywhere fs [] t.1.1
  stack : Stacked w ms ms ms t.1
  entries : List.Forall₂ (fun f m => t.1.1.db.filter (fun e => decide (e.key = f.key)) =
    [⟨f.manifest.name, m.data, false⟩]) fs ms

section Hooks

variable {α : Type} {p : ApexM α} {cfg : Config} {kind : HookKind} {apexes : List ApexFile}
    {f apex : ApexFile}
  {fs : List ApexFile} {t t' : (World × Held) × Bool} {w w₀ : World} {m : MountedApex}
    {ms : List MountedApex}

/-- What is known of the entries alone. -/
theorem wp_hook {Q : Except String α → World → Prop}
    (h : wp (watchedHook kind apexes w₀.anywhere) (fun _ => True) p Q t.1.1) :
    wp teardownKernel (fun _ => True) p (fun x t' => Q x t'.1.1) t := by
  refine h.comap (f := fun t => t.1.1) (fun c t _ => teardown_pre c t) fun c t r t' hs => ?_
  obtain ⟨-, ⟨hc, hk, -⟩, -⟩ := hs
  refine ⟨?_, hk⟩
  cases c with
  | umount2 p => exact hc
  | rmdir p => exact Or.inl rfl
  | _ => trivial

theorem HookStack.start (h : Clean w t) : HookStack w [] [] t where
  inv := ⟨(List.filter_eq_self.2 (by simp)).trans h.2, List.nodup_nil, by simp,
    fun _ _ => Or.inl rfl, fun _ => (congrArg List.length (World.stack_congr h.1.mounts)).le⟩
  stack := h.1
  entries := .nil

theorem HookStack.done (h : HookStack w [] [] t) : Clean w t :=
  ⟨h.stack, (List.filter_eq_self.2 (by simp)).symm.trans h.inv.base⟩

theorem HookStack.same (h : HookStack w fs ms t) (hs : t.1.1.SameDevices t'.1.1)
    (hheld : t'.1.2 = t.1.2) : HookStack w fs ms t' where
  inv := h.inv.congr hs.db (fun _ _ => Or.inr (Or.inl rfl)) fun _ =>
    (congrArg List.length (World.stack_congr hs.mounts)).le
  stack := h.stack.same hs hheld
  entries := hs.db ▸ h.entries

/-- **Undoing one mount** lets its devices go. -/
theorem HookStack.wp_unmountPackage (h : HookStack w (f :: fs) (m :: ms) t) (hl : Alive t) :
    wp teardownKernel Alive (unmountPackage f false) (fun _ t' => HookStack w fs ms t') t := by
  obtain ⟨hone, hrest⟩ := List.forall₂_cons.1 h.entries
  suffices hwp : wp teardownKernel Alive (unmountPackage f false)
    (fun _ t' => Stacked w ms ms ms t'.1 ∧
      t'.1.1.db = t.1.1.db.removeMountedApex f.manifest.name f.path) t by
    have hinv : wp (watchedHook .preInstall [] w.anywhere) (fun _ => True) (unmountPackage f false)
        (fun _ w' => HookInv w.anywhere fs [] w') t.1.1 := h.inv.wp_unmountPackage
    refine (hwp.and (wp_hook hinv)).mono (fun _ h => h.1) fun x t' _ hx => ⟨hx.2, hx.1.1, ?_⟩
    refine (List.forall₂_iff_zip.2 ⟨hrest.length_eq, fun hgo => ?_⟩)
    have hmem := List.of_mem_zip hgo
    have hne : f.key ≠ _ := fun heq => (List.nodup_cons.1 h.inv.nodup).1
      (heq ▸ List.mem_map_of_mem hmem.1)
    rw [hx.1.2]
    exact (filter_removeMountedApex (k := f.key) hone hne).trans
      ((List.forall₂_iff_zip.1 hrest).2 hgo)
  rw [unmountPackage_eq]
  refine ⟨hl, teardown_pre _ _, fun db t₁ hs₁ => ?_⟩
  have hl₁ := hl.step hs₁
  have hsame₁ := SparesDevices.same (c := .getDb) trivial hs₁.2.1
  obtain rfl : db = t.1.1.db := by
    obtain ⟨-, w', -, ⟨hr, -⟩ | ⟨hf, -⟩⟩ := clean_cases hs₁.2.1
    · exact hr
    · exact hf.elim
  have hfound : t.1.1.db.foundEntry? f = some ⟨f.manifest.name, m.data, false⟩ := by
    rw [foundEntry?_eq_filter, hone]
    rfl
  dsimp only
  rw [hfound]
  refine ⟨hl₁, teardown_pre _ _, fun db t₂ hs₂ => ?_⟩
  have hl₂ := hl₁.step hs₂
  have hsame₂ := SparesDevices.same (c := .getDb) trivial hs₂.2.1
  obtain rfl : db = t₁.1.1.db := by
    obtain ⟨-, w', -, ⟨hr, -⟩ | ⟨hf, -⟩⟩ := clean_cases hs₂.2.1
    · exact hr
    · exact hf.elim
  have h₂ := (h.stack.same hsame₁.1 hsame₁.2).same hsame₂.1 hsame₂.2
  refine ⟨hl₂, teardown_pre _ _, fun u t₃ hs₃ => ?_⟩
  have hl₃ := hl₂.step hs₃
  obtain ⟨-, w', ht₃, hw | ⟨hf, -⟩⟩ := clean_cases hs₃.2.1
  · have hw : w' = { t₂.1.1 with db := t₁.1.1.db.removeMountedApex f.manifest.name f.path } := hw
    have h₃ : Stacked w (m :: ms) (m :: ms) (m :: ms) t₃.1 := by
      rw [ht₃, hw]
      exact h₂.congr rfl (.refl _) (.refl _) rfl
    have hdb₃ : t₃.1.1.db = t.1.1.db.removeMountedApex f.manifest.name f.path := by
      rw [ht₃, hw, ← hsame₁.1.db]
    have hbelow : belowApex m.data.mountPoint := by
      rw [(h.stack.sound m List.mem_cons_self).named]
      exact below_join _ _
    have hkeep := wp_keepsDb (t := t₃) ((uses_unmount hbelow).mono fun _ h => h.keepsDb)
    show wp _ _ (unmount m.data) _ _
    exact ((h₃.wp_unmount hl₃).and hkeep).mono (fun _ h => h.1) fun x t₄ _ hx =>
      ⟨hx.1, hx.2.trans hdb₃⟩
  · exact hf.elim

/-- One package of the hook: it is mounted and entered, or nothing has changed. -/
theorem HookStack.wp_hookMount_pushed (h : HookStack w fs ms t) (hl : Alive t)
    (hflat : apex.flattened = false) : wp teardownKernel Alive (hookMount cfg apex) (fun
      | .ok true, t' => ∃ m : MountedApex, m.data.fullPath = apex.path ∧
          Stacked w (ms ++ [m]) (ms ++ [m]) (ms ++ [m]) t'.1 ∧ ¬ t.1.1.db.Lists apex ∧
          t'.1.1.db = t.1.1.db.emplace ⟨apex.manifest.name, m.data, false⟩
      | .ok false, t' => Stacked w ms ms ms t'.1 ∧ t'.1.1.db = t.1.1.db
      | .error _, t' => Stacked w ms ms ms t'.1 ∧ t'.1.1.db = t.1.1.db) t := by
  refine ⟨hl, teardown_pre _ _, fun db t₁ hs₁ => ?_⟩
  have hl₁ := hl.step hs₁
  have hsame₁ := SparesDevices.same (c := .getDb) trivial hs₁.2.1
  have h₁ := h.stack.same hsame₁.1 hsame₁.2
  obtain rfl : db = t.1.1.db := by
    obtain ⟨-, w', -, ⟨hr, -⟩ | ⟨hf, -⟩⟩ := clean_cases hs₁.2.1
    · exact hr
    · exact hf.elim
  show wp _ _ (if _ then _ else _) _ _
  split
  · exact ⟨hl₁, h₁, hsame₁.1.db⟩
  · rename_i hm
    have hnew : ¬ t.1.1.db.Lists apex := fun hlist => hm ((isMounted_iff apex).2 hlist)
    have hdevice : getPackageId apex.manifest ≠ "" := by simp [getPackageId]
    have hpoint : getPackageMountPoint apex.manifest = join kApexRoot
      (getPackageId apex.manifest) := rfl
    have hmount := h₁.wp_mountPackageImpl hl₁ hpoint hdevice cfg apex false
    have huses : (mountPackageImpl cfg apex (getPackageMountPoint apex.manifest)
      (getPackageId apex.manifest)
        false).Uses TempCmd := uses_mountPackageImpl apex _ false
          (below_packageMountPoint apex.manifest)
    have hkeep := wp_keepsDb (t := t₁) (huses.mono fun _ h => h.keepsDb)
    refine wp_bind.2 (wp_bind.2 ((hmount.and hkeep).mono (fun _ h => h.1) fun x t₂ hi hx => ?_))
    have hl₂ := hi.1
    obtain ⟨hx, hdb⟩ := hx
    cases x with
    | error e => exact ⟨hx, hdb.trans hsame₁.1.db⟩
    | ok data =>
      have hx : Pushed w ms apex _ data t₂.1 := hx
      unfold Pushed at hx
      rw [if_neg (by simp [hflat])] at hx
      obtain ⟨m, rfl, hpath, h₂⟩ := hx
      refine ⟨hl₂, teardown_pre _ _, fun db t₃ hs₃ => ?_⟩
      have hl₃ := hl₂.step hs₃
      have hsame₃ := SparesDevices.same (c := .getDb) trivial hs₃.2.1
      have h₃ := h₂.same hsame₃.1 hsame₃.2
      obtain rfl : db = t₂.1.1.db := by
        obtain ⟨-, w', -, ⟨hr, -⟩ | ⟨hf, -⟩⟩ := clean_cases hs₃.2.1
        · exact hr
        · exact hf.elim
      simp only [ret_bind]
      cases hadd : Db.addMountedApex t₂.1.1.db apex.manifest.name false m.data with
      | none => exact ⟨hl₃, teardown_pre _ _, fun r _ _ => r.elim⟩
      | some db' =>
        refine ⟨hl₃, teardown_pre _ _, fun u t₄ hs₄ => ?_⟩
        have hl₄ := hl₃.step hs₄
        obtain ⟨-, w', ht₄, hw | ⟨hf, -⟩⟩ := clean_cases hs₄.2.1
        · have hw : w' = { t₃.1.1 with db := db' } := hw
          refine ⟨hl₄, hl₄, m, hpath, ?_, hnew, ?_⟩
          · rw [ht₄, hw]
            exact h₃.congr rfl (.refl _) (.refl _) rfl
          · rw [ht₄, hw, ← hsame₁.1.db, ← hdb]
            exact Db.addMountedApex_eq_some hadd
        · exact hf.elim

/-- **Mounting one package** for the hook. -/
theorem HookStack.wp_hookMount (h : HookStack w fs ms t) (hl : Alive t)
    (hflat : apex.flattened = false) : wp teardownKernel Alive (hookMount cfg apex) (fun
      | .ok mounted, t' => ∃ ms', HookStack w (if mounted then fs ++ [apex] else fs) ms' t'
      | .error _, t' => HookStack w fs ms t') t := by
  have hinv : wp (watchedHook .preInstall [] w.anywhere) _ (hookMount cfg apex) _ t.1.1 :=
    h.inv.wp_hookMount apex
  refine ((h.wp_hookMount_pushed hl hflat).and (wp_hook hinv)).mono (fun _ h => h.1)
    fun x t' _ hx => ?_
  obtain ⟨hx, hinv⟩ := hx
  rcases x with e | _ | _
  · exact ⟨hinv, hx.1, hx.2 ▸ h.entries⟩
  · exact ⟨ms, hinv.1, hx.1, hx.2 ▸ h.entries⟩
  · obtain ⟨m, hpath, hstack, hnew, hdb⟩ := hx
    refine ⟨ms ++ [m], hinv.1, hstack, List.rel_append ?_ (.cons ?_ .nil)⟩
    · refine h.entries.imp fun g o hg => ?_
      have hgmem : (⟨g.manifest.name, o.data, false⟩ : Entry) ∈ t.1.1.db.filter fun e =>
          decide (e.key = g.key) :=
        hg ▸ List.mem_singleton_self _
      obtain ⟨hgmem, hgk⟩ := List.mem_filter.1 hgmem
      have hne : (apex.manifest.name, m.data.fullPath) ≠ g.key := by
        intro he
        refine hnew ⟨_, hgmem, (of_decide_eq_true hgk).trans (he.symm.trans ?_)⟩
        rw [hpath]
        rfl
      rw [hdb, filter_emplace (decide_eq_false hne)]
      exact hg
    · have hkey : (apex.manifest.name, m.data.fullPath) = apex.key := by rw [hpath]; rfl
      have hone := filter_emplace_key (e := ⟨apex.manifest.name, m.data, false⟩) fun x hx he =>
        hnew ⟨x, hx, he.trans hkey⟩
      rw [hdb]
      rwa [show (⟨apex.manifest.name, m.data, false⟩ : Entry).key = apex.key from hkey] at hone

/-- **The scope guard** lets all devices go. -/
theorem HookStack.wp_undo {hm : HookMounts} (h : HookStack w hm.mountedApexes ms t) (hl : Alive t) :
    wp teardownKernel Alive hm.undo (fun _ t' => Clean w t') t := by
  unfold HookMounts.undo
  refine wp_bind.2 (wp_forM (fun fs t => Alive t ∧ ∃ ms, HookStack w fs ms t) _ ?_ ?_ ⟨hl, ms, h⟩)
  · intro f fs t₁ _ hJ
    obtain ⟨hl₁, ms, h₁⟩ := hJ
    obtain ⟨m, rest, -, -, rfl⟩ := List.forall₂_cons_left_iff.1 h₁.entries
    unfold logged
    exact wp_bind.2 (wp_attempt.2
      ((h₁.wp_unmountPackage hl₁).imp fun x t₂ hl₂ h₂ => ⟨hl₂, hl₂, rest, h₂⟩))
  · intro t₁ hJ
    obtain ⟨hl₁, ms, h₁⟩ := hJ
    obtain rfl : ms = [] := List.forall₂_nil_left_iff.1 h₁.entries
    refine ⟨hl₁, ?_⟩
    have hdirs : (hm.activationDirs.forM fun dir => do
        let _ ← sys (.rmdir dir)
        ret () : ApexM PUnit).Uses SparesDevices :=
      uses_forM _ fun d _ => uses_exec_bind trivial fun _ => trivial
    exact h₁.done.wp_spares hdirs hl₁

/-- The loop over the packages, with what follows it under the guard. -/
theorem HookStack.wp_stageFnInstallLoop {run : ApexM Unit} (hrun : run.Uses SparesDevices)
    (rest : List ApexFile)
    (hflat : ∀ a ∈ rest, a.flattened = false) {hm : HookMounts}
    (h : HookStack w hm.mountedApexes ms t)
    (hl : Alive t) : wp teardownKernel Alive (stageFnInstallLoop cfg run rest hm)
    (fun _ t' => Clean w t') t := by
  induction rest generalizing hm ms t with
  | nil =>
    refine wp_andThen.2 ((Apexd.wp_spares hrun hl).imp fun x t₁ hl₁ hs₁ => ?_)
    exact (h.same hs₁.1 hs₁.2).wp_undo hl₁
  | cons a rest ih =>
    have hrest : ∀ b ∈ rest, b.flattened = false := fun b hb => hflat b (List.mem_cons_of_mem _ hb)
    refine wp_bind.2 (wp_onFail.2
      ((h.wp_hookMount hl (hflat a List.mem_cons_self)).imp fun x t₁ hl₁ hx => ?_))
    cases x with
    | error e => exact HookStack.wp_undo hx hl₁
    | ok mounted =>
      obtain ⟨ms₁, h₁⟩ := hx
      have hsecond : ∀ hm₁ : HookMounts, HookStack w hm₁.mountedApexes ms₁ t₁ →
          wp teardownKernel Alive (do
          let made ← (hookActivationDir a).onFail hm₁.undo
          let m := if made then
            { hm₁ with activationDirs := hm₁.activationDirs ++ [getActiveMountPoint a.manifest] }
              else hm₁
          stageFnInstallLoop cfg run rest m) (fun _ t' => Clean w t') t₁ := by
        intro hm₁ h₁
        have hdir : (hookActivationDir a).Uses SparesDevices := by
          refine uses_exec_bind trivial fun r => ?_
          rcases r with e | u
          · cases e <;> trivial
          · trivial
        refine wp_bind.2 (wp_onFail.2 ((Apexd.wp_spares hdir hl₁).imp fun x t₂ hl₂ hs₂ => ?_))
        have h₂ := h₁.same hs₂.1 hs₂.2
        cases x with
        | error e => exact h₂.wp_undo hl₂
        | ok made => cases made <;> exact ih hrest h₂ hl₂
      cases mounted <;> exact hsecond _ h₁

/-- **The mounts made to run a hook** are gone when `PrePostinstallPackages` returns. -/
theorem Clean.wp_prePostinstallPackages (h : Clean w t) (hl : Alive t) (cfg : Config)
    (kind : HookKind)
    (hflat : ∀ a ∈ apexes, a.flattened = false) :
    wp teardownKernel Alive (prePostinstallPackages cfg kind apexes)
      (fun _ t' => Clean w t') t := by
  unfold prePostinstallPackages
  refine wp_bind.2 (wp_require.2 ⟨hl, ?_⟩)
  cases apexes.isEmpty with
  | true => exact h
  | false =>
    show wp _ _ (if _ then _ else _) _ _
    split
    · unfold stageFnInstall
      cases findHookFile kind apexes none with
      | error e => exact ⟨hl, h⟩
      | ok hookFile =>
        cases hookFile with
        | none => exact ⟨hl, teardown_pre _ _, fun r _ _ => r.elim⟩
        | some f =>
          refine (HookStack.start h).wp_stageFnInstallLoop ?_ apexes hflat hl
          exact uses_exec_bind trivial fun r => uses_ofExcept r
    · exact ⟨hl, h⟩

end Hooks

/-! ## The request -/

section Submit

variable {cfg : Config} {w : World} {t : (World × Held) × Bool}

theorem uses_backupActivePackages : backupActivePackages.Uses SparesDevices := by
  have hdelete : deleteBackup.Uses SparesDevices := by
    refine uses_bind (uses_mapErr (uses_pathExists trivial)) fun b => ?_
    cases b with
    | true => exact uses_deleteDirContent trivial fun _ => trivial
    | false => trivial
  refine uses_bind (uses_mapErr (uses_createDirIfNeeded trivial trivial trivial)) fun _ => ?_
  refine uses_bind (uses_mapErr (uses_pathExists trivial)) fun b => ?_
  cases b with
  | false => trivial
  | true =>
    refine uses_bind (uses_mapErr (uses_readDir trivial)) fun active => ?_
    refine uses_bind (uses_mapErr hdelete) fun _ => ?_
    refine uses_onFail (uses_forM _ fun path _ => ?_)
      (uses_deleteDirContent trivial fun _ => trivial)
    refine uses_exec_bind trivial fun r => ?_
    cases r with
    | error e => trivial
    | ok apexFile => exact uses_sys_check _ trivial

theorem uses_needsBackup : needsBackup.Uses SparesDevices := by
  refine uses_exec_bind trivial fun flags => ?_
  refine uses_ite (uses_exec_bind trivial fun r => ?_) trivial
  cases r <;> trivial

theorem Clean.wp_submitStagedSession (h : Clean w t) (hl : Alive t) (cfg : Config)
    (sessionId : Int32)
    (childSessionIds : List Int32) :
    wp teardownKernel Alive (submitStagedSession cfg sessionId childSessionIds)
      (fun _ t' => Clean w t') t := by
  have hfirst : (do
      clearSessions cfg
      let backup ← needsBackup
      when backup backupActivePackages : ApexM Unit).Uses SparesDevices :=
    uses_bind (uses_clearSessions trivial (fun _ => trivial) fun _ => trivial) fun _ =>
      uses_bind uses_needsBackup fun b => uses_when uses_backupActivePackages
  have hlast : ∀ verified : List ApexFile, (do
      let session ← createSession sessionId
      updateStateAndCommit cfg { session with childSessionIds := childSessionIds } .VERIFIED
      ret verified : ApexM (List ApexFile)).Uses SparesDevices := fun verified =>
    uses_bind (uses_createSession (fun _ => trivial) (fun _ _ => trivial) fun _ _ => trivial)
        fun s =>
      uses_bind (uses_updateStateAndCommit trivial) fun _ => trivial
  have hsplit : submitStagedSession cfg sessionId childSessionIds = (do
      clearSessions cfg
      let backup ← needsBackup
      when backup backupActivePackages : ApexM Unit).bind fun _ =>
        ((if childSessionIds.isEmpty then [sessionId] else childSessionIds).mapM
          (verifySessionDir cfg)).bind
          fun verified => (prePostinstallPackages cfg .preInstall verified).bind fun _ => (do
            let session ← createSession sessionId
            updateStateAndCommit cfg { session with childSessionIds := childSessionIds } .VERIFIED
            ret verified : ApexM (List ApexFile)) := by
    unfold submitStagedSession
    simp only [bind_eq, Prog.bind_assoc]
  rw [hsplit]
  refine wp_bind.2 ((h.wp_spares hfirst hl).imp fun x t₁ hl₁ h₁ => ?_)
  cases x with
  | error e => exact h₁
  | ok u =>
    refine wp_bind.2 (wp_mapM
      (fun _ acc t => Alive t ∧ Clean w t ∧ ∀ a ∈ acc, a.flattened = false) _ ?_ ?_
      ⟨hl₁, h₁, by simp⟩)
    · intro id rest acc t₂ _ hJ
      obtain ⟨hl₂, h₂, hacc⟩ := hJ
      refine (h₂.wp_verifySessionDir hl₂ cfg id).imp fun x t₃ hl₃ hx => ?_
      cases x with
      | error e => exact hx.2
      | ok apex =>
        refine ⟨hl₃, hx.2, fun a ha => ?_⟩
        rcases List.mem_append.1 ha with ha | ha
        · exact hacc a ha
        · obtain rfl := List.mem_singleton.1 ha
          exact hx.1 a rfl
    · intro verified t₂ hJ
      obtain ⟨hl₂, h₂, hflat⟩ := hJ
      refine ⟨hl₂, wp_bind.2 ((h₂.wp_prePostinstallPackages hl₂ cfg .preInstall hflat).imp
        fun x t₃ hl₃ h₃ => ?_)⟩
      cases x with
      | error e => exact h₃
      | ok u => exact h₃.wp_spares (hlast verified) hl₃

/-- **A submission leaves nothing behind.**  Whatever its outcome, the database and the mounts are
what they were, and there is no loop device and no dm device that was not there before. -/
theorem submitStagedSession_restores {sessionId : Int32} {childSessionIds : List Int32}
    {x : Except String (List ApexFile)}
    (hends : Ends teardownKernel (submitStagedSession cfg sessionId childSessionIds)
      ((w, .nothing), false) x t) :
    t.1.1.db = w.db ∧ t.1.1.mounts = w.mounts ∧ t.1.1.dms.Sublist w.dms ∧
      t.1.1.loops.Sublist w.loops := by
  have hstart : Clean w ((w, .nothing), false) := ⟨.start w, rfl⟩
  have hwp := hstart.wp_submitStagedSession (.nothing w) cfg sessionId childSessionIds
  obtain ⟨hstack, hdb⟩ := hwp.ends hends
  exact ⟨hdb, hstack.done⟩

end Submit

/-! ## A package with a hook -/

/-- Session 7 holds one package, which has a hook. -/
def hookSessionWorld : World := .ofDirs
  [ (kApexRoot, Dir.empty 0o755),
    (kApexDataDir, apexDataDir),
    (kActiveApexPackagesDataDir, Dir.empty 0o750),
    ("/data/app-staging/session_7",
      ⟨0o755, [("a.apex", .file ⟨3, .apex (soundContent hookManifest)⟩)], by decide, by decide⟩) ]

/-- The look-ups of a computed run. -/
def Sys.looksUp? : (c : Sys) → (World × Held) × Bool → c.Res → Bool
  | .dmGetPath n, t, none => !(t.2 && t.1.2.dms.contains n)
  | .openDevice d, t, .error _ => !(t.2 && t.1.2.loops.contains d)
  | .loopGetStatus d, t, .error _ => !(t.2 && t.1.2.loops.contains d)
  | _, _, _ => true

def teardownStep : (c : Sys) → (World × Held) × Bool → Option (c.Res × ((World × Held) × Bool)) :=
  onlyStep (observeStep cleanStep tearingDown) Sys.looksUp?

theorem teardownStep_sem (c : Sys) (t : (World × Held) × Bool) (r : c.Res)
    (t' : (World × Held) × Bool)
    (h : teardownStep c t = some (r, t')) : teardownKernel.sem c t r t' := by
  refine onlyStep_sem (fun c t r t' hs hok => ⟨?_, observeStep_sem cleanStep_sem c t r t' hs⟩) c t r
    t' h
  cases c with
  | dmGetPath n =>
    intro hb hn hr
    subst hr
    simp [Sys.looksUp?, hb, hn] at hok
  | openDevice d =>
    intro hb hd
    cases r with
    | ok _ => rfl
    | error e => simp [Sys.looksUp?, hb, hd] at hok
  | loopGetStatus d =>
    intro hb hd
    cases r with
    | ok id => exact ⟨id, rfl⟩
    | error e => simp [Sys.looksUp?, hb, hd] at hok
  | _ => trivial

/-- The package is verified and its hook is run, and no loop device is left. -/
theorem submitStagedSession_restores_hook :
    (runN teardownStep 120 (submitStagedSession deviceConfig 7 [])
      ((hookSessionWorld, .nothing), false)).2.1.1.loops = [] := by
  have hres : (runN teardownStep 120 (submitStagedSession deviceConfig 7 [])
      ((hookSessionWorld, .nothing), false)).1.result?.isSome = true := by decide
  obtain ⟨x, hx⟩ := Option.isSome_iff_exists.1 hres
  obtain ⟨-, -, -, hloops⟩ := submitStagedSession_restores (runN_ends teardownStep_sem hx)
  exact List.sublist_nil.1 hloops

/-- A loop device that is in use cannot be opened a second time. -/
def closedStep : (c : Sys) → World × Held → Option (c.Res × (World × Held))
  | .openDevice d, s =>
    if s.2.loops.contains d then some (.error .eio, s) else cleanStep (.openDevice d) s
  | c, s => cleanStep c s

theorem closedStep_sem (c : Sys) (s : World × Held) (r : c.Res) (s' : World × Held)
    (h : closedStep c s = some (r, s')) : cleanKernel.sem c s r s' := by
  cases c with
  | openDevice d =>
    simp only [closedStep] at h
    split at h
    · cases h
      exact ⟨trivial, Or.inr ⟨⟨.eio, rfl, rfl⟩, rfl⟩, rfl⟩
    · exact cleanStep_sem _ _ _ _ h
  | _ => exact cleanStep_sem _ _ _ _ h

/-- The session is verified, all clean-up calls that are made succeed, and the loop device stays
bound. -/
theorem submitStagedSession_leaks_loop :
    ¬ ∀ (cfg : Config) (sessionId : Int32) (childSessionIds : List Int32)
    (w : World) (x : Except String (List ApexFile)) (s' : World × Held),
    Ends cleanKernel (submitStagedSession cfg sessionId childSessionIds) (w, .nothing) x s' →
      s'.1.loops.Sublist w.loops := by
  intro hclaim
  have hres : (runN closedStep 120 (submitStagedSession deviceConfig 7 [])
      (hookSessionWorld, .nothing)).1.result?.isSome = true := by decide
  obtain ⟨x, hx⟩ := Option.isSome_iff_exists.1 hres
  have hnone := List.sublist_nil.1 (hclaim _ _ _ _ _ _ (runN_ends closedStep_sem hx))
  exact absurd hnone (by decide)

end Apexd
