import Apexd.Frame
import Apexd.Lib.Path

/-!
# Packages in an immutable partition

`isPathForBuiltinApexes` decides on the text of a path whether a package is mounted without
dm-verity, and whether a directory is accepted as a package.

* `Sys.Protected` — a package is only mounted from a dm-verity device, or it is inside a built-in
  directory.
* `wp_mountNonFlattened_protected` — the mount goes through the device where the text does not begin
  with a built-in directory.
* `builtin_protected_iff` — for which paths that is enough.
-/

set_option autoImplicit false

namespace Apexd

open Text Prog

/-- The path, normalised, is that of something inside a built-in directory. -/
def InsideBuiltin (p : String) : Prop := ∃ dir ∈ kApexPackageBuiltinDirs, StrictlyBelow dir p

/-- A mount of a device that is no dm-verity device, or a bind mount, is of a package inside a
built-in directory. -/
def Sys.Protected (p : String) : Sys → World → Prop
  | .mount block _, w => (w.findDmPath block).isSome ∨ InsideBuiltin p
  | .bindMount _ _, _ => InsideBuiltin p
  | _, _ => True

/-- The calls on devices, and a mount of one of them. -/
def MountsOnly (block : String) : Sys → Prop
  | .mount b _ => b = block
  | .umount2 _ => True
  | c => DeviceQuery c

theorem DeviceQuery.mountsOnly {c : Sys} {block : String} (h : DeviceQuery c) :
    MountsOnly block c := by
  cases c <;> first | exact h | exact h.elim

theorem DeviceCmd.protected {c : Sys} (h : DeviceCmd c) (p : String) (w : World) :
    c.Protected p w := by
  cases c <;> trivial

section Protect

variable {F : Faults} {p : String} {w w' : World}

/-- The dm devices stay while one of them is mounted. -/
theorem MountsOnly.dms {c : Sys} {r : c.Res} {block : String} (hc : MountsOnly block c)
    (h : c.Normal w r w') : w'.dms = w.dms := by
  cases c with
  | mount b m => rw [World.mount_onlyMounts h]
  | umount2 m => rw [World.umount2_onlyMounts h]
  | loopGetFree =>
    obtain ⟨n, -, -, rfl⟩ := h
    rfl
  | _ => first | exact hc.elim | (obtain ⟨-, rfl⟩ := h; rfl)

/-- Programs that mount nothing. -/
theorem wp_deviceCmd_protected {α : Type} {q : ApexM α} (hq : q.Uses DeviceCmd) :
    wp ((kernel .off F).withPre (Sys.Protected p)) (fun _ => True) q (fun _ _ => True) w :=
  hq.wp (fun _ w hc _ => hc.protected p w) (fun _ _ _ _ _ _ _ => trivial) trivial

/-- A device that was made is there. -/
theorem wp_createVerityDevice_protected (hF : F.Refusals) (name : String) (table : VerityTable) :
    wp ((kernel .off F).withPre (Sys.Protected p)) (fun _ => True) (createVerityDevice name table)
      (fun x w' => ∀ device, x = .ok device → (w'.findDmPath device).isSome) w := by
  have hpath : ∀ w : World, wp ((kernel .off F).withPre (Sys.Protected p)) (fun _ => True)
    (createdPath name)
      (fun x w' => ∀ device, x = .ok device → (w'.findDmPath device).isSome) w := by
    intro w
    refine ⟨trivial, trivial, fun r w' hs => ?_⟩
    cases r with
    | none => exact ⟨trivial, nofun⟩
    | some path =>
      refine ⟨trivial, ?_⟩
      rintro _ ⟨⟩
      obtain ⟨hr, rfl⟩ | hf := hs
      · obtain ⟨d, hd, rfl⟩ := Option.map_eq_some_iff.1 hr.symm
        unfold World.findDmPath
        rw [List.find?_isSome]
        exact ⟨d, List.mem_of_find?_eq_some hd, beq_self_eq_true _⟩
      · cases (hF _ _ _ _ hf).1
  unfold createVerityDevice
  rw [bind_eq, exec_bind]
  refine ⟨trivial, trivial, fun exists? w₁ _ => ?_⟩
  have hdelete : (when exists? (logged (deleteVerityDeviceByName name)) : ApexM Unit).Uses
      DeviceCmd :=
    uses_when (uses_logged (uses_deleteVerityDeviceByName name))
  refine wp_bind.2 ((wp_deviceCmd_protected hdelete).imp ?_)
  rintro (e | _) w₂ - -
  · exact nofun
  dsimp only [Then]
  rw [bind_eq, exec_bind]
  refine ⟨trivial, trivial, fun created w₃ _ => ?_⟩
  refine wp_bind.2 (wp_require.2 ⟨trivial, ?_⟩)
  split
  case isFalse => exact nofun
  refine wp_onFail.2 ((hpath w₃).imp fun x w₄ _ hx => ?_)
  cases x with
  | ok device => exact hx
  | error e => exact (wp_deviceCmd_protected (uses_deleteVerityDevice name "")).imp fun _ _ _ _ =>
    nofun

/-- **A package whose path does not begin with a built-in directory is mounted from its dm-verity
device.** -/
theorem wp_mountNonFlattened_protected (hF : F.Refusals) {cfg : Config} {apex : ApexFile}
    (hv : mountOnVerity cfg apex.path = true) (mountPoint deviceName : String)
    (verifyImage : Bool) : wp ((kernel .off F).withPre (Sys.Protected p)) (fun _ => True)
      (mountNonFlattened cfg apex mountPoint deviceName verifyImage) (fun _ _ => True) w := by
  have hloop : ∀ loop w, wp ((kernel .off F).withPre (Sys.Protected p)) (fun _ => True)
      (mountLoopDevice cfg apex loop mountPoint deviceName verifyImage) (fun _ _ => True) w := by
    intro loop w
    unfold mountLoopDevice
    rw [bind_eq, exec_bind]
    refine ⟨trivial, trivial, fun r w₁ _ => wp_bind.2 (wp_mapErr.2 (wp_ofExcept.2 ⟨trivial, ?_⟩))⟩
    cases r with
    | error e => trivial
    | ok verityData =>
      change wp _ _ (if mountOnVerity cfg apex.path then _ else _) _ _
      rw [if_pos hv]
      refine wp_bind.2 (wp_mapErr.2 ((wp_createVerityDevice_protected hF _ _).imp ?_))
      rintro (e | device) w₂ - hdevice
      · trivial
      have hmounts : ∀ z, (configureReadAhead device >>= fun _ =>
          mountBlockDevice apex device mountPoint z : ApexM Unit).Uses
              (MountsOnly device) := fun z =>
        uses_bind ((uses_configureReadAhead device).mono fun _ h => h.mountsOnly) fun _ =>
          uses_mountBlockDevice (fun _ h => h.mountsOnly) rfl trivial apex z
      -- the device stays until it is mounted
      have hrest := (hmounts (if verifyImage then some verityData.desc.imageSize else none)).wp
        (K := (kernel .off F).withPre (Sys.Protected p))
          (I := fun w => (w.findDmPath device).isSome)
        (by
          intro c w hc hI
          cases c with
          | mount b m =>
            obtain rfl : b = device := hc
            exact Or.inl hI
          | bindMount s t => exact hc.elim
          | _ => trivial)
        (by
          rintro c w r w' hc hI (hn | hf)
          · unfold World.findDmPath at hI ⊢
            rwa [hc.dms hn]
          · rwa [(hF _ _ _ _ hf).2])
        (hdevice device rfl)
      refine wp_onFail.2 (hrest.mono (fun _ _ => trivial) fun x w₃ _ _ => ?_)
      cases x with
      | ok _ => trivial
      | error e => exact (wp_deviceCmd_protected (uses_deleteVerityDevice _ _)).imp fun _ _ _ _ =>
        trivial
  unfold mountNonFlattened
  refine wp_bind.2 (wp_require.2 ⟨trivial, ?_⟩)
  split
  case isFalse => trivial
  refine wp_bind.2 ((wp_deviceCmd_protected (uses_createLoopDeviceLoop apex _)).imp ?_)
  rintro (e | loop) w₁ - -
  · trivial
  refine wp_bind.2 (wp_onFail.2 ((hloop loop w₁).imp fun x w₂ _ _ => ?_))
  cases x with
  | ok _ => exact ⟨trivial, trivial⟩
  | error e => exact (wp_deviceCmd_protected (uses_maybeCloseBad loop)).imp fun _ _ _ _ => trivial

end Protect

/-! ## Which paths are safe -/

/-- A directory that looks like a package, at any path. -/
def flattenedWorld (p : String) :
    World := .ofDirs [(p, ⟨0o755, [(kManifestFilename, .file ⟨1, .manifest
  (plainManifest 1 version_one)⟩)], by decide, by decide⟩)]

theorem flattenedWorld_openApex (p : String) :
    ∃ apex, (flattenedWorld p).openApex p = .ok apex ∧ apex.path = p ∧ apex.flattened = true := by
  have hfile : (flattenedWorld p).file? (join p kManifestFilename) =
      some ⟨1, .manifest (plainManifest 1 version_one)⟩ := by
    rw [World.file?_join (by decide)]
    unfold flattenedWorld World.ofDirs
    dsimp only
    rw [List.lookup_cons, beq_self_eq_true]
    rfl
  unfold World.openApex
  rw [hfile]
  exact ⟨_, rfl, rfl, rfl⟩

/-- **For which paths a package is protected**: whatever `activatePackage` finds at the path, it is
mounted without dm-verity, or as a directory, only inside a built-in directory, exactly when the
text of the path does not pretend to be. -/
theorem builtin_protected_iff (p : String) :
    (∀ (w₀ : World) (apex : ApexFile), w₀.openApex p = .ok apex →
      ∀ (F : Faults), F.Refusals → ∀ (mountPoint : String) (w : World),
        (∀ cfg : Config, cfg.forceDmVerityOnSystem = false →
          ∀ (deviceName : String) (verifyImage : Bool),
          wp ((kernel .off F).withPre (Sys.Protected p)) (fun _ => True)
            (mountNonFlattened cfg apex mountPoint deviceName verifyImage) (fun _ _ => True) w) ∧
        wp ((kernel .off F).withPre (Sys.Protected p)) (fun _ => True)
          (mountFlattened apex mountPoint) (fun _ _ => True) w) ↔
      (isPathForBuiltinApexes p = true → InsideBuiltin p) := by
  constructor
  · intro h hbuiltin
    obtain ⟨apex, hopen, rfl, -⟩ := flattenedWorld_openApex p
    have hflat := (h _ apex hopen Sys.NoFault Sys.NoFault.refusals "" (flattenedWorld apex.path)).2
    unfold mountFlattened at hflat
    have hmount := (wp_require.1 (wp_bind.1 hflat)).2
    rw [if_pos hbuiltin] at hmount
    exact hmount.2.1
  · intro h w₀ apex hopen F hF mountPoint w
    obtain rfl := World.openApex_path hopen
    by_cases hin : InsideBuiltin apex.path
    · have hall : ∀ c w, Sys.Protected apex.path c w := by
        intro c w
        cases c with
        | mount b m => exact Or.inr hin
        | bindMount s t => exact hin
        | _ => trivial
      constructor
      · intro cfg _ deviceName verifyImage
        exact (uses_all _).wp (fun c w _ _ => hall c w) (fun _ _ _ _ _ _ _ => trivial) trivial
      · exact (uses_all _).wp (fun c w _ _ => hall c w) (fun _ _ _ _ _ _ _ => trivial) trivial
    · have hnot : isPathForBuiltinApexes apex.path = false :=
        Bool.eq_false_iff.2 fun hb => hin (h hb)
      constructor
      · intro cfg hforce deviceName verifyImage
        refine wp_mountNonFlattened_protected hF ?_ mountPoint deviceName verifyImage
        unfold mountOnVerity
        rw [hforce, hnot]
        rfl
      · unfold mountFlattened
        refine wp_bind.2 (wp_require.2 ⟨trivial, ?_⟩)
        rw [hnot]
        trivial

/-- A directory next to the built-in one is bound as a package. -/
theorem builtin_protected_sibling :
    ∃ (w : World) (apex : ApexFile), w.openApex "/system/apex_old/a" = .ok apex ∧
      ¬ InsideBuiltin "/system/apex_old/a" ∧
      ¬ wp ((kernel .off Sys.NoFault).withPre (Sys.Protected "/system/apex_old/a")) (fun _ => True)
        (mountFlattened apex "/apex/a@1") (fun _ _ => True) w := by
  have hout : ¬ InsideBuiltin "/system/apex_old/a" := by
    unfold InsideBuiltin
    decide
  obtain ⟨apex, hopen, hpath, -⟩ := flattenedWorld_openApex "/system/apex_old/a"
  refine ⟨_, apex, hopen, hout, fun h => ?_⟩
  unfold mountFlattened at h
  have hmount := (wp_require.1 (wp_bind.1 h)).2
  rw [if_pos (by rw [hpath]; decide)] at hmount
  exact hout hmount.2.1

end Apexd
