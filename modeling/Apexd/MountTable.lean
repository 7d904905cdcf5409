import Apexd.Frame

/-!
# Programs and the mount table

What mounting a package and binding it do to the mounts when any call may be refused.

* `World.SameMounts` — what the calls in between leave alone.
* `World.Pushed` — one more mount, on top.
* `wp_mountPackageImpl_table` — `MountPackageImpl` mounts only where nothing is mounted.
-/

set_option autoImplicit false

namespace Apexd

open Text Prog

/-! ## Calls that change no mount -/

/-- The calls that change no file, no mount and no entry of the database. -/
def KeepsMounts : Sys → Prop
  | .stat _ => True
  | .readDir _ => True
  | .openApex _ => True
  | .mkdir _ _ => True
  | .rmdir _ => True
  | .getDb => True
  | c => DeviceCmd c

theorem DeviceCmd.keepsMounts {c : Sys} (h : DeviceCmd c) : KeepsMounts c := by
  cases c <;> first | exact h | exact h.elim

/-- No file, no mount and no entry of the database has changed. -/
structure World.SameMounts (w w' : World) : Prop where
  files : ∀ q, w'.file? q = w.file? q
  mounts : w'.mounts = w.mounts
  db : w'.db = w.db

section Same

variable {w w' : World} {F : Faults}

theorem World.SameMounts.refl (w : World) : w.SameMounts w := ⟨fun _ => rfl, rfl, rfl⟩

theorem World.SameMounts.trans {w'' : World} (h : w.SameMounts w') (h' : w'.SameMounts w'') :
    w.SameMounts w'' :=
  ⟨fun q => (h'.files q).trans (h.files q), h'.mounts.trans h.mounts, h'.db.trans h.db⟩

theorem World.SameMounts.of_onlyDevices (h : w.OnlyDevices w') : w.SameMounts w' :=
  ⟨World.file?_congr (by rw [h]), by rw [h], by rw [h]⟩

theorem World.SameMounts.of_onlyDirs (h : w.OnlyDirs w') (hf : ∀ q, w'.file? q = w.file? q) :
    w.SameMounts w' :=
  ⟨hf, h.mounts, by rw [h]⟩

theorem KeepsMounts.same {c : Sys} {r : c.Res} (hc : KeepsMounts c) (h : c.Normal w r w') :
    w.SameMounts w' := by
  cases c with
  | mkdir p mode => exact .of_onlyDirs (World.mkdir_onlyDirs h) (World.mkdir_file? h)
  | rmdir p => exact .of_onlyDirs (World.rmdir_onlyDirs h) (World.rmdir_file? h)
  | loopSetFd d t => exact .of_onlyDevices (World.loopSetFd_onlyDevices h)
  | loopSetStatus d o z i => exact .of_onlyDevices (World.loopSetStatus_onlyDevices h)
  | loopClrFd d => exact .of_onlyDevices (World.loopClrFd_onlyDevices h)
  | dmDelete n => exact .of_onlyDevices (World.dmDelete_onlyDevices h)
  | dmCreate n t =>
    obtain ⟨k, -, hk⟩ := h
    exact .of_onlyDevices (World.dmCreate_onlyDevices hk)
  | loopGetFree =>
    obtain ⟨n, -, -, rfl⟩ := h
    exact .refl _
  | _ => first | exact hc.elim | (obtain ⟨-, rfl⟩ := h; exact .refl _)

theorem keeps_sameMounts (hF : F.Refusals) {α : Type} {p : ApexM α} (hp : p.Uses KeepsMounts) :
    p.Keeps (kernel .off F) w.SameMounts := by
  apply hp.keeps
  · intro c w hc _
    cases c <;> trivial
  · rintro c w₁ r w₂ hc hI (hn | hf)
    · exact hI.trans (hc.same hn)
    · rw [(hF c w₁ r w₂ hf).2]
      exact hI

theorem wp_sameMounts (hF : F.Refusals) {α : Type} {p : ApexM α} (hp : p.Uses KeepsMounts) :
    wp (kernel .off F) (fun _ => True) p (fun _ w' => w.SameMounts w') w :=
  (keeps_sameMounts hF hp w (.refl w)).mono (fun _ _ => trivial) fun _ _ h _ => h

end Same

/-! ## One more mount -/

/-- `m` is mounted on top. -/
structure World.Pushed (w : World) (m : Mount) (w' : World) : Prop where
  files : ∀ q, w'.file? q = w.file? q
  mounts : w'.mounts = m :: w.mounts
  db : w'.db = w.db

/-- A package is mounted from its devices, or bound from a directory of the system. -/
def Mount.OfPackage (m : Mount) (mountPoint : String) : Prop :=
  m.mountPoint = mountPoint ∧ ∀ s, m.source = some s → isPathForBuiltinApexes s = true

/-- The mount of a package, perhaps one that could not be taken down again after a failure. -/
def World.MountTried {α : Type} (w : World) (mountPoint : String) : Except String α → World → Prop
  | .ok _, w' => ∃ m : Mount, m.OfPackage mountPoint ∧ w.Pushed m w'
  | .error _, w' => w.SameMounts w' ∨ ∃ m : Mount, m.OfPackage mountPoint ∧ w.Pushed m w'

section Mounting

variable {w w₁ w' : World} {F : Faults} {m : Mount} {mountPoint : String} {α β : Type}

theorem World.Pushed.before (h : w.SameMounts w₁) (h' : w₁.Pushed m w') : w.Pushed m w' :=
  ⟨fun q => (h'.files q).trans (h.files q), h'.mounts.trans (by rw [h.mounts]), h'.db.trans h.db⟩

theorem World.Pushed.after (h : w.Pushed m w₁) (h' : w₁.SameMounts w') : w.Pushed m w' :=
  ⟨fun q => (h'.files q).trans (h.files q), h'.mounts.trans h.mounts, h'.db.trans h.db⟩

theorem World.MountTried.before {x : Except String α} (h : w.SameMounts w₁)
    (h' : w₁.MountTried mountPoint x w') : w.MountTried mountPoint x w' := by
  cases x with
  | ok a =>
    obtain ⟨m, hm, hp⟩ := h'
    exact ⟨m, hm, .before h hp⟩
  | error e =>
    rcases h' with hs | ⟨m, hm, hp⟩
    · exact Or.inl (h.trans hs)
    · exact Or.inr ⟨m, hm, .before h hp⟩

theorem World.MountTried.failed {e e' : String}
    (h : w.MountTried mountPoint (.error e : Except String α) w₁)
    (h' : w₁.SameMounts w') : w.MountTried mountPoint (.error e' : Except String β) w' := by
  rcases h with hs | ⟨m, hm, hp⟩
  · exact Or.inl (hs.trans h')
  · exact Or.inr ⟨m, hm, hp.after h'⟩

/-- The rest of a program, after a part that changes no mount. -/
theorem wp_tried_bind (hF : F.Refusals) {p : ApexM β} {f : β → ApexM α} (hp : p.Uses KeepsMounts)
    (hf : ∀ b w, wp (kernel .off F) (fun _ => True) (f b)
      (fun x w' => w.MountTried mountPoint x w') w) :
    wp (kernel .off F) (fun _ => True) (p.bind f) (fun x w' => w.MountTried mountPoint x w') w := by
  apply (wp_sameMounts hF hp).bind
  · intro b w₁ _ h₁
    exact (hf b w₁).imp fun x w' _ h => .before h₁ h
  · intro e w₁ _ h₁
    exact Or.inl h₁

/-- A clean-up that changes no mount. -/
theorem wp_tried_onFail (hF : F.Refusals) {p : ApexM α} {cleanup : ApexM Unit}
    (hc : cleanup.Uses KeepsMounts)
    (hp : wp (kernel .off F) (fun _ => True) p (fun x w' => w.MountTried mountPoint x w') w) :
    wp (kernel .off F) (fun _ => True) (p.onFail cleanup)
      (fun x w' => w.MountTried mountPoint x w') w := by
  refine wp_onFail.2 (hp.imp fun x w₁ _ h => ?_)
  cases x with
  | ok a => exact h
  | error e => exact (wp_sameMounts hF hc).imp fun _ w₂ _ h₂ => h.failed h₂

theorem wp_mountBlockDevice_table (hF : F.Refusals) (apex : ApexFile) (block mountPoint : String)
    (size : Option Nat)
    (w : World) : wp (kernel .off F) (fun _ => True) (mountBlockDevice apex block mountPoint size)
      (fun x w' => w.MountTried mountPoint x w') w := by
  have hmount : ∀ w : World, wp (kernel .off F) (fun _ => True)
    (mountVerified apex block mountPoint)
      (fun x w' => w.MountTried mountPoint x w') w := by
    intro w
    unfold mountVerified
    rw [bind_eq, exec_bind]
    refine ⟨trivial, trivial, fun r w₁ hs => ?_⟩
    have h₁ : (∃ e, r = .error e) ∧ w.SameMounts w₁ ∨
        r = .ok () ∧ ∃ m : Mount, m.OfPackage mountPoint ∧ w.Pushed m w₁ := by
      rcases hs with hn | hf
      · have hw : (r, w₁) = w.mount block mountPoint := hn
        rcases w.mount_cases block mountPoint with ⟨e, he⟩ | ⟨n, f, -, -, he⟩
        · rw [he] at hw
          cases hw
          exact Or.inl ⟨⟨e, rfl⟩, .refl _⟩
        · rw [he] at hw
          cases hw
          refine Or.inr ⟨rfl, ⟨mountPoint, block, some n, .image f, none⟩, ⟨rfl, ?_⟩,
            fun _ => rfl, rfl, rfl⟩
          intro s hs
          cases hs
      · obtain ⟨⟨e, -, rfl⟩, rfl⟩ := hF _ _ _ _ hf
        exact Or.inl ⟨⟨e, rfl⟩, .refl _⟩
    rcases h₁ with ⟨⟨e, rfl⟩, h₁⟩ | ⟨rfl, m, hm, hpush⟩
    · exact ⟨trivial, Or.inl h₁⟩
    have hverify : (verifyMountedImage apex mountPoint).Uses KeepsMounts :=
      (uses_verifyMountedImage apex mountPoint).mono fun _ h => h.device.keepsMounts
    refine wp_bind.2 (wp_attempt.2 ((wp_sameMounts hF hverify).imp fun x w₂ _ h₂ => ?_))
    cases x with
    | ok _ => exact ⟨trivial, m, hm, hpush.after h₂⟩
    | error e =>
      refine ⟨trivial, trivial, fun r w₃ hs₃ => ⟨trivial, ?_⟩⟩
      have hpush₂ := hpush.after h₂
      rcases hs₃ with hn | hf
      · -- the mount goes again
        have hw : (r, w₃) = w₂.umount2 mountPoint := hn
        have hmounts := World.umount2_onlyMounts hw
        have hnew : w₂.mounted mountPoint = some m := by
          unfold World.mounted
          rw [hpush₂.mounts, List.find?_cons_of_pos (by simp [hm.1])]
        rcases w₂.umount2_cases mountPoint with ⟨e, hnone, -⟩ | ⟨-, he⟩
        · rw [hnew] at hnone
          cases hnone
        · rw [he] at hw
          cases hw
          refine Or.inl ⟨fun q => (World.file?_congr (by rw [hmounts]) q).trans (hpush₂.files q),
            ?_, hpush₂.db⟩
          show w₂.mounts.eraseP _ = _
          rw [hpush₂.mounts, List.eraseP_cons_of_pos (by simp [hm.1])]
      · rw [(hF _ _ _ _ hf).2]
        exact Or.inr ⟨m, hm, hpush₂⟩
  have hwait : (waitForDevice block .kWaitToBeCreated).Uses KeepsMounts :=
    uses_waitForDevice (fun _ => trivial) _ _
  cases size with
  | none =>
    rw [mountBlockDevice_none]
    exact wp_tried_bind hF hwait fun _ => hmount
  | some n =>
    rw [mountBlockDevice_some]
    exact wp_tried_bind hF hwait fun _ _ =>
      wp_tried_bind hF (uses_sys_check (c := .readVerityDevice block n) _ trivial) fun _ => hmount

theorem wp_mountNonFlattened_table (hF : F.Refusals) (cfg : Config) (apex : ApexFile)
    (mountPoint deviceName : String) (verifyImage : Bool) (w : World) :
    wp (kernel .off F) (fun _ => True)
      (mountNonFlattened cfg apex mountPoint deviceName verifyImage)
      (fun x w' => w.MountTried mountPoint x w') w := by
  have hloop : ∀ loop w, wp (kernel .off F) (fun _ => True)
      (mountLoopDevice cfg apex loop mountPoint deviceName verifyImage)
      (fun x w' => w.MountTried mountPoint x w') w := by
    intro loop w
    unfold mountLoopDevice
    refine wp_tried_bind hF (p := sys (.verifyApexVerity apex.path))
      ⟨trivial, fun _ => trivial⟩ fun r w => ?_
    refine wp_tried_bind hF (uses_mapErr (uses_ofExcept r)) fun verityData w => ?_
    split
    · have hcreate := (uses_createVerityDevice deviceName
        (createVerityTable verityData loop !verifyImage)).mono fun _ h => h.keepsMounts
      refine wp_tried_bind hF (uses_mapErr hcreate) fun device w => ?_
      refine wp_tried_onFail hF ((uses_deleteVerityDevice _ _).mono fun _ h => h.keepsMounts) ?_
      refine wp_tried_bind hF ((uses_configureReadAhead device).mono fun _ h =>
        h.device.keepsMounts) fun _ w => ?_
      exact wp_mountBlockDevice_table hF _ _ _ _ w
    · exact wp_mountBlockDevice_table hF _ _ _ _ w
  unfold mountNonFlattened
  refine wp_tried_bind hF (uses_require _ _) fun _ w => ?_
  refine wp_tried_bind hF ((uses_createLoopDeviceLoop apex _).mono fun _ h => h.keepsMounts)
    fun loop w => ?_
  refine wp_bind.2 ((wp_tried_onFail hF ((uses_maybeCloseBad loop).mono fun _ h => h.keepsMounts)
    (hloop loop w)).imp fun x w₁ _ h => ?_)
  cases x with
  | ok _ => exact ⟨trivial, h⟩
  | error e => exact h

theorem wp_mountFlattened_table (hF : F.Refusals) (apex : ApexFile)
    (mountPoint : String) (w : World) :
    wp (kernel .off F) (fun _ => True) (mountFlattened apex mountPoint)
      (fun x w' => w.MountTried mountPoint x w') w := by
  unfold mountFlattened
  refine wp_bind.2 (wp_require.2 ⟨trivial, ?_⟩)
  split
  · rename_i hbuiltin
    refine ⟨trivial, trivial, fun r w₁ hs => ?_⟩
    rcases hs with hn | hf
    · have hw : (r, w₁) = w.bindMount apex.path mountPoint := hn
      rcases w.bindMount_cases apex.path mountPoint with ⟨e, he⟩ | ⟨m, -, hm, hsrc, -, -, he⟩
      · rw [he] at hw
        cases hw
        exact ⟨trivial, Or.inl (.refl _)⟩
      · rw [he] at hw
        cases hw
        refine ⟨trivial, m, ⟨hm, fun s hs => ?_⟩, fun _ => rfl, rfl, rfl⟩
        obtain rfl := Option.some.inj (hsrc.symm.trans hs)
        exact hbuiltin
    · obtain ⟨⟨e, -, rfl⟩, rfl⟩ := hF _ _ _ _ hf
      exact ⟨trivial, Or.inl (.refl _)⟩
  · exact Or.inl (.refl _)

/-- Only a directory on which nothing is mounted is empty. -/
theorem wp_isEmptyDirectory_table (hF : F.Refusals) (path : String) (w : World) :
    wp (kernel .off F) (fun _ => True) (isEmptyDirectory path)
      (fun x w' => w' = w ∧ (x = .ok true → w.mounted path = none)) w := by
  refine ⟨trivial, trivial, fun r w₁ hs => ?_⟩
  rcases hs with ⟨hlists, rfl⟩ | hf
  · cases r with
    | error e => exact ⟨trivial, rfl, nofun⟩
    | ok l =>
      refine ⟨trivial, rfl, fun hempty => ?_⟩
      unfold World.Lists at hlists
      split at hlists
      · obtain ⟨l', hl, hne, -⟩ := hlists
        cases hl
        exact absurd (List.isEmpty_iff.1 (Except.ok.inj hempty)) hne
      · cases hlists
      · assumption
  · obtain ⟨⟨e, -, rfl⟩, rfl⟩ := hF _ _ _ _ hf
    exact ⟨trivial, rfl, nofun⟩

/-- **`MountPackageImpl`** mounts one thing at most, and only where nothing is mounted. -/
theorem wp_mountPackageImpl_table (hF : F.Refusals) (cfg : Config) (apex : ApexFile)
    (mountPoint deviceName : String) (verifyImage : Bool) (w : World) :
    wp (kernel .off F) (fun _ => True) (mountPackageImpl cfg apex mountPoint deviceName verifyImage)
      (fun x w' => w.MountTried mountPoint x w' ∧
        (w.mounted mountPoint = none ∨ w.SameMounts w' ∧ ∃ e, x = .error e)) w := by
  have hsame : ∀ (e : String) (w' : World), w.SameMounts w' →
      w.MountTried mountPoint (.error e : Except String MountedApexData) w' ∧
        (w.mounted mountPoint = none ∨ w.SameMounts w' ∧ ∃ e',
            (.error e : Except String MountedApexData) = .error e') :=
    fun e w' h => ⟨Or.inl h, Or.inr ⟨h, e, rfl⟩⟩
  unfold mountPackageImpl
  refine wp_bind.2 ((wp_sameMounts hF (uses_pathExists trivial)).imp fun x w₁ _ h₁ => ?_)
  cases x with
  | error e => exact hsame e w₁ h₁
  | ok b =>
    have hmkdir : (when (!b) (sys (.mkdir mountPoint kMkdirMode) >>=
        check ("Could not create mount point " ++ mountPoint))).Uses KeepsMounts :=
      uses_when (uses_sys_check _ trivial)
    refine wp_bind.2 ((wp_sameMounts hF hmkdir).imp fun x w₂ _ h₂ => ?_)
    replace h₂ := h₁.trans h₂
    cases x with
    | error e => exact hsame e w₂ h₂
    | ok u =>
      refine wp_onFail.2 (wp_bind.2
        ((wp_isEmptyDirectory_table hF mountPoint w₂).imp fun x w₃ _ hx => ?_))
      obtain ⟨rfl, hempty⟩ := hx
      have hguard : (do
          let _ ← sys (.rmdir mountPoint)
          ret () : ApexM Unit).Uses KeepsMounts := uses_exec_bind trivial fun _ => trivial
      have hrmdir : ∀ e w', w.SameMounts w' → wp (kernel .off F) (fun _ => True) (do
          let _ ← sys (.rmdir mountPoint)
          ret () : ApexM Unit) (fun _ w' =>
            w.MountTried mountPoint (.error e : Except String MountedApexData) w' ∧
            (w.mounted mountPoint = none ∨
              w.SameMounts w' ∧ ∃ e', (.error e : Except String MountedApexData) = .error e')) w' :=
        fun e w' h => (wp_sameMounts hF hguard).imp fun _ w'' _ h' => hsame e w'' (h.trans h')
      cases x with
      | error e => exact hrmdir e _ h₂
      | ok b =>
        refine wp_bind.2 ?_
        cases b with
        | false =>
          refine ⟨trivial, trivial, fun text w₄ hs => ⟨trivial, ?_⟩⟩
          cases hF.strerror hs
          exact hrmdir _ _ h₂
        | true =>
          refine ⟨trivial, ?_⟩
          have hnone : w.mounted mountPoint = none := by
            have := hempty rfl
            unfold World.mounted at this ⊢
            rwa [h₂.mounts] at this
          have hinto : wp (kernel .off F) (fun _ => True)
              (if apex.flattened then mountFlattened apex mountPoint
                else mountNonFlattened cfg apex mountPoint deviceName verifyImage)
              (fun x w' => w₃.MountTried mountPoint x w') w₃ := by
            split
            · exact wp_mountFlattened_table hF apex mountPoint w₃
            · exact wp_mountNonFlattened_table hF cfg apex mountPoint deviceName verifyImage w₃
          refine hinto.imp fun x w₄ _ h₄ => ?_
          replace h₄ := World.MountTried.before h₂ h₄
          cases x with
          | ok d => exact ⟨h₄, Or.inl hnone⟩
          | error e =>
            exact (wp_sameMounts hF hguard).imp fun _ w₅ _ h₅ => ⟨h₄.failed h₅, Or.inl hnone⟩

end Mounting

end Apexd
