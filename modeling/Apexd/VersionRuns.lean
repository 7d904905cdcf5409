import Apexd.VersionLines

/-!
# Mounted versions over a call

An activation, a deactivation or a scan keeps the table at every moment, whatever is refused.

* `VersionCmd` — the calls around the mount of a version; `World.Restartable.wp_uses` — programs of
  such calls.
* `World.Restartable.wp_addMountedApex` and others — the changes of the database.
* `World.Restartable.wp_call` — one activation, deactivation or scan.
-/

set_option autoImplicit false

namespace Apexd

open Text Prog

/-! ## The other calls -/

/-- The calls of an activation or a deactivation, apart from the mount of a version and the
database. -/
def VersionCmd : Sys → Prop
  | .unlink p => belowApex p
  | .bindMount _ t => belowApex t ∧ isActiveMountPoint t = true
  | .umount2 _ => True
  | .openApex _ => True
  | c => SpareCmd c

theorem SpareCmd.version {c : Sys} (h : SpareCmd c) : VersionCmd c := by
  cases c <;> first | exact h | trivial

theorem notBuiltin_of_below {p : String} (h : belowApex p = true) :
    isPathForBuiltinApexes p = false := by
  obtain ⟨n, rfl⟩ := below_iff.1 h
  have hapart : ∀ dir ∈ kApexPackageBuiltinDirs, startsWith (join kApexRoot n) dir = false := by
    have hjoin : join kApexRoot n = (kApexRoot ++ "/") ++ n := rfl
    intro dir hdir
    rw [hjoin]
    revert dir
    simp only [kApexPackageBuiltinDirs, List.mem_cons, List.not_mem_nil, or_false]
    rintro dir (rfl | rfl | rfl) <;> exact startsWith_append_eq_false _ (by decide) (by decide)
  exact List.any_eq_false.2 fun dir hdir => by simpa using hapart dir hdir

section Calls

variable {w₀ w w' : World} {F : Faults} {α : Type}

theorem World.KeptFrom.same (h : w₀.KeptFrom w) (hs : w.SameStore w') : w₀.KeptFrom w' where
  files q := (hs.files q).trans (h.files q)
  dirs p hp hb := (hs.dirs p hp hb).trans (h.dirs p hp hb)
  points := hs.db ▸ h.points

theorem World.keptFrom_same (w w' : World) (hs : w.SameStore w') (h : w₀.KeptFrom w) :
    w₀.KeptFrom w' := h.same hs

/-- **Such a call keeps the table.** -/
theorem World.Restartable.step (h : w₀.Restartable w)
    (hfree : ∀ p, belowApex p → w₀.file? p = none) {c : Sys}
    {r : c.Res} (hc : VersionCmd c) (hs : c.Normal w r w') : w₀.Restartable w' ∧ w'.db = w.db := by
  have hspare : SpareCmd c → w₀.Restartable w' ∧ w'.db = w.db := fun hc =>
    ⟨⟨h.kept.same (hc.store hs), h.table.step hc.table hs⟩, (hc.store hs).db⟩
  have hmounts : TableCmd c → w.OnlyMounts w' → w₀.Restartable w' ∧ w'.db = w.db := fun hc hm =>
    ⟨⟨h.kept.same (.of_dirs (by rw [hm]) (by rw [hm])), h.table.step hc hs⟩, by rw [hm]⟩
  cases c with
  | unlink p =>
    have hfile : w.file? p = none := (h.kept.files p).trans (hfree p hc)
    have hs : (r, w') = w.unlink p := hs
    rcases w.unlink_cases p with ⟨e, he, _⟩ | ⟨d, f, hd, hm, _⟩
    · rw [he] at hs
      cases hs
      exact ⟨h, rfl⟩
    · rw [World.file?_eq_some.2 ⟨d, hd, hm⟩] at hfile
      cases hfile
  | bindMount s t => exact hmounts ⟨hc.2, notBuiltin_of_below hc.1⟩ (World.bindMount_onlyMounts hs)
  | umount2 p => exact hmounts trivial (World.umount2_onlyMounts hs)
  | openApex p =>
    obtain ⟨_, rfl⟩ := hs
    exact ⟨h, rfl⟩
  | _ => exact hspare hc

theorem World.Restartable.wp_uses (hF : F.Refusals) (h : w₀.Restartable w)
    (hfree : ∀ p, belowApex p → w₀.file? p = none) {p : ApexM α} (hp : p.Uses VersionCmd) :
    wp (kernel .off F) w₀.Restartable p (fun _ w' => w'.db = w.db) w := by
  have hkeep : p.Keeps (kernel .off F) fun w' => w₀.Restartable w' ∧ w'.db = w.db := by
    apply hp.keeps
    · intro c _ _ _
      cases c <;> trivial
    · rintro c w₁ r w₂ hc ⟨h₁, hdb⟩ (hn | hf)
      · obtain ⟨h₂, hdb₂⟩ := h₁.step hfree hc hn
        exact ⟨h₂, hdb₂.trans hdb⟩
      · rw [(hF _ _ _ _ hf).2]
        exact ⟨h₁, hdb⟩
  exact (hkeep w ⟨h, rfl⟩).mono (fun _ h => h.1) fun _ _ h _ => h.2

/-! ## The database -/

theorem World.Restartable.setDb (h : w₀.Restartable w) {db : Db}
    (hdb : ∀ e ∈ db, belowApex e.data.mountPoint) : w₀.Restartable { w with db := db } where
  kept := ⟨h.kept.files, h.kept.dirs, hdb⟩
  table := h.table.same rfl rfl rfl

theorem World.Restartable.wp_setDb (hF : F.Refusals) (h : w₀.Restartable w) {db : Db}
    (hdb : ∀ e ∈ db, belowApex e.data.mountPoint) :
    wp (kernel .off F) w₀.Restartable (sys (.setDb db)) (fun _ _ => True) w := by
  refine ⟨h, trivial, fun u w₁ hs => ?_⟩
  rcases hs with hn | hf
  · obtain rfl : w₁ = { w with db := db } := hn
    exact ⟨h.setDb hdb, trivial⟩
  · exact (hF _ _ _ _ hf).1.elim

theorem World.Restartable.wp_addMountedApex (hF : F.Refusals) (h : w₀.Restartable w)
    (package : String) (latest : Bool) {data : MountedApexData} (hd : belowApex data.mountPoint) :
    wp (kernel .off F) w₀.Restartable (addMountedApex package latest data) (fun _ _ => True) w := by
  refine ⟨h, trivial, ?_⟩
  rintro _ w₁ (⟨rfl, rfl⟩ | hf)
  case inr => exact (hF _ _ _ _ hf).1.elim
  dsimp only [ret_bind]
  split
  · exact ⟨h, trivial, fun r => r.elim⟩
  · rename_i db' hdb'
    refine h.wp_setDb hF fun e he => ?_
    rw [Db.addMountedApex_eq_some hdb'] at he
    rcases Db.mem_emplace.1 he with rfl | he
    · exact hd
    · exact h.kept.points e he

theorem World.Restartable.wp_setLatest (hF : F.Refusals) (h : w₀.Restartable w)
    (package path : String) :
    wp (kernel .off F) w₀.Restartable (setLatest package path) (fun _ _ => True) w := by
  refine ⟨h, trivial, ?_⟩
  rintro _ w₁ (⟨rfl, rfl⟩ | hf)
  case inr => exact (hF _ _ _ _ hf).1.elim
  dsimp only [ret_bind]
  split
  · exact ⟨h, trivial, fun r => r.elim⟩
  · rename_i db' hdb'
    obtain ⟨hit, _, _, _, rfl⟩ := Db.setLatest_eq_some hdb'
    refine h.wp_setDb hF fun e he => ?_
    obtain ⟨x, hx, rfl⟩ := List.mem_map.1 he
    have := h.kept.points x hx
    split <;> exact this

theorem World.Restartable.wp_removeMountedApex (hF : F.Refusals) (h : w₀.Restartable w)
    (package path : String) :
    wp (kernel .off F) w₀.Restartable (removeMountedApex package path) (fun _ _ => True) w := by
  refine ⟨h, trivial, ?_⟩
  rintro _ w₁ (⟨rfl, rfl⟩ | hf)
  case inr => exact (hF _ _ _ _ hf).1.elim
  exact h.wp_setDb hF fun e he => h.kept.points e ((Db.removeMountedApex_sublist _ _ _).subset he)

end Calls

/-! ## One call -/

section Programs

variable {w₀ w : World} {F : Faults} {cfg : Config} {apex : ApexFile} {α β : Type}

/-- The rest of a program. -/
theorem wp_seq {K : Kernel Sys Sys.Res World} {I : World → Prop} {p : ApexM β} {f : β → ApexM α}
    {P : Except String β → World → Prop} (hp : wp K I p P w)
    (hf : ∀ b w', I w' → P (.ok b) w' → wp K I (f b) (fun _ _ => True) w') :
    wp K I (p.bind f) (fun _ _ => True) w :=
  hp.bind hf fun _ _ _ _ => trivial

theorem below_active (ht : w₀.Traceable) (ho : w₀.openApex apex.path = .ok apex) :
    belowApex (getActiveMountPoint apex.manifest) ∧
      isActiveMountPoint (getActiveMountPoint apex.manifest) = true := by
  refine ⟨below_activeMountPoint _, ?_⟩
  have hname := ht.names _ _ ho '@' (by simp)
  unfold isActiveMountPoint getActiveMountPoint
  rw [toList_join, Bool.not_eq_true', ← Bool.not_eq_true, List.contains_iff_mem, List.mem_append,
    List.mem_cons]
  rintro (h | h | h)
  · revert h
    decide
  · revert h
    decide
  · exact hname h

section Uses

variable {S : Sys → Prop} (hS : ∀ c, SpareCmd c → S c)

include hS

theorem uses_bindMount_spare {target source : String} (ht : belowApex target)
    (hunlink : S (.unlink target))
    (hu : S (.umount2 target)) (hb : S (.bindMount source target)) :
    (bindMount target source).Uses S := by
  refine (uses_bindMount_calls target source).mono fun c hc => ?_
  cases c with
  | stat p => exact hS _ trivial
  | mkdir p m =>
    obtain rfl : p = target := hc
    exact hS (.mkdir p m) ht
  | unlink p =>
    obtain rfl : p = target := hc
    exact hunlink
  | umount2 p =>
    obtain rfl : p = target := hc
    exact hu
  | bindMount s p =>
    obtain ⟨rfl, rfl⟩ : s = source ∧ p = target := hc
    exact hb
  | _ => exact hc.elim

theorem uses_detachActive_spare {allowLatest : Bool} {e : Entry}
    (hu : S (.umount2 (getActiveMountPoint apex.manifest))) :
    (detachActive apex allowLatest e).Uses S := by
  refine uses_when (uses_bind (uses_require _ _) fun _ => ?_)
  refine uses_bind (uses_sys_check (c := .umount2 (getActiveMountPoint apex.manifest)) _ hu)
    fun _ => ?_
  exact uses_exec_bind (hS (.rmdir _) (below_activeMountPoint apex.manifest)) fun _ => trivial

theorem uses_unmount_spare {data : MountedApexData} (hd : belowApex data.mountPoint)
    (hu : S (.umount2 data.mountPoint)) : (unmount data).Uses S := by
  have hrest : (call (.rmdir data.mountPoint) fun _ => unmountDevices data : ApexM Unit).Uses
      S := by
    refine ⟨hS (.rmdir _) hd, fun _ => (uses_unmountDevices data).mono fun c hc => ?_⟩
    cases c with
    | rmdir p =>
      obtain rfl : p = data.mountPoint := hc
      exact hS (.rmdir _) hd
    | _ => first | exact hc.elim | exact hS _ trivial
  rw [unmount_eq]
  refine ⟨hu, fun r => ?_⟩
  cases r with
  | ok _ => exact hrest
  | error err => exact uses_bind (uses_require _ _) fun _ => hrest

theorem uses_findApexFilesByName_spare (dir : String) :
    (findApexFilesByName dir (isPathForBuiltinApexes dir)).Uses S := by
  refine uses_exec_bind (hS (.readDir dir) trivial) fun r => ?_
  cases r <;> trivial

theorem uses_getActivePackagesMap_spare (ho : ∀ p, S (.openApex p)) :
    getActivePackagesMap.Uses S := by
  refine uses_bind (uses_exec_bind (hS .getDb trivial) fun db => uses_foldlM _ _ fun acc e _ =>
    uses_ite ?_ trivial) fun _ => trivial
  refine uses_bind (uses_attempt (uses_exec_bind (ho _) fun r => uses_ofExcept r)) fun x => ?_
  cases x <;> trivial

end Uses

theorem World.Restartable.wp_mountPackage (hF : F.Refusals) (h : w₀.Restartable w)
    (ho : w₀.openApex apex.path = .ok apex) :
    wp (kernel .off F) w₀.Restartable (mountPackage cfg apex (getPackageMountPoint apex.manifest))
      (fun _ _ => True) w := by
  have hbelow := below_packageMountPoint apex.manifest
  have hpoint : getPackageMountPoint apex.manifest = join kApexRoot (getPackageId apex.manifest) :=
    rfl
  refine wp_seq (h.wp_mountPackageImpl hF World.keptFrom_same hpoint
    (notBuiltin_of_below hbelow) (fun w f hw hf _ => ?_) (fun hflat hbuiltin => ?_) cfg false)
      fun d w₁ h₁ hd => ?_
  · exact ⟨apex, ho, rfl, (hw.files _).symm.trans hf⟩
  · exact ⟨apex, ho, rfl, hflat, hbuiltin⟩
  · refine h₁.wp_addMountedApex hF _ _ ?_
    rw [(hd d rfl).point]
    exact hbelow

theorem uses_otherVersions_version (manifest : ApexManifest) :
    (otherVersions manifest).Uses VersionCmd := by
  refine uses_exec_bind trivial fun db => uses_foldlM _ _ fun acc e _ => ?_
  refine uses_bind (uses_attempt (uses_exec_bind trivial fun r => uses_ofExcept r)) fun x => ?_
  cases x <;> trivial

theorem World.Restartable.wp_activatePackageImpl (hF : F.Refusals) (h : w₀.Restartable w)
    (ht : w₀.Traceable)
    (hfree : ∀ p, belowApex p → w₀.file? p = none) (ho : w₀.openApex apex.path = .ok apex) :
    wp (kernel .off F) w₀.Restartable (activatePackageImpl cfg apex) (fun _ _ => True) w := by
  unfold activatePackageImpl
  split
  · exact ⟨h, trivial⟩
  split
  · exact ⟨h, trivial⟩
  refine wp_seq (h.wp_uses hF hfree (uses_otherVersions_version _)) fun found w₁ h₁ _ => ?_
  split
  · exact ⟨h₁, trivial⟩
  refine wp_seq (P := fun _ _ => True)
    (wp_when (fun _ => h₁.wp_mountPackage hF ho) fun _ => ⟨h₁, trivial⟩) fun _ w₂ h₂ _ => ?_
  refine wp_when (fun _ => ?_) fun _ => ⟨h₂, trivial⟩
  obtain ⟨hbelow, hactive⟩ := below_active ht ho
  have hbind : (Apexd.bindMount (getActiveMountPoint apex.manifest)
    (getPackageMountPoint apex.manifest)).Uses
      VersionCmd := uses_bindMount_spare (fun _ => SpareCmd.version) hbelow hbelow trivial
        ⟨hbelow, hactive⟩
  exact wp_seq (h₂.wp_uses hF hfree (uses_mapErr hbind)) fun _ w₃ h₃ _ => h₃.wp_setLatest hF _ _

theorem World.Restartable.wp_unmountPackage (hF : F.Refusals) (h : w₀.Restartable w)
    (hfree : ∀ p, belowApex p → w₀.file? p = none) (allowLatest : Bool) :
    wp (kernel .off F) w₀.Restartable (unmountPackage apex allowLatest) (fun _ _ => True) w := by
  rw [unmountPackage_eq]
  refine ⟨h, trivial, ?_⟩
  rintro _ w₁ (⟨rfl, rfl⟩ | hf)
  case inr => exact (hF _ _ _ _ hf).1.elim
  dsimp only
  cases hfound : w₁.db.foundEntry? apex with
  | none => exact ⟨h, trivial⟩
  | some e =>
    have hbelow : belowApex e.data.mountPoint := h.kept.points e (Db.foundEntry?_mem hfound).1
    have hdetach : (detachActive apex allowLatest e).Uses VersionCmd :=
      uses_detachActive_spare (fun _ => SpareCmd.version) trivial
    have hunmount := uses_unmount_spare (S := VersionCmd) (fun _ => SpareCmd.version) hbelow trivial
    refine wp_seq (h.wp_uses hF hfree hdetach) fun _ w₂ h₂ _ => ?_
    refine wp_seq (h₂.wp_removeMountedApex hF _ _) fun _ w₃ h₃ _ => ?_
    exact (h₃.wp_uses hF hfree hunmount).imp fun _ _ _ _ => trivial

/-- A package is opened as it was at the start, or this is refused. -/
theorem World.Restartable.wp_openApex (hF : F.Refusals) (h : w₀.Restartable w) (p : String) :
    wp (kernel .off F) w₀.Restartable (Apexd.openApex p)
      (fun x _ => ∀ apex, x = .ok apex → w₀.openApex apex.path = .ok apex) w := by
  refine ⟨h, trivial, fun r w₁ hs => wp_ofExcept.2 ?_⟩
  rcases hs with ⟨hr, rfl⟩ | hf
  · refine ⟨h, fun apex ha => ?_⟩
    rw [hr, h.kept.openApex] at ha
    rwa [World.openApex_path ha]
  · obtain ⟨⟨e, _, rfl⟩, rfl⟩ := hF _ _ _ _ hf
    refine ⟨h, fun apex ha => ?_⟩
    cases ha

/-- One call, in whatever way it ends. -/
theorem World.Restartable.wp_call (hF : F.Refusals) (h : w₀.Restartable w) (ht : w₀.Traceable)
    (hfree : ∀ p, belowApex p → w₀.file? p = none) (c : MountCall) :
    wp (kernel .off F) w₀.Restartable (c.prog cfg) (fun _ _ => True) w := by
  cases c with
  | activatePackage fullPath =>
    exact wp_seq (h.wp_openApex hF fullPath) fun apex w₁ h₁ ho =>
      h₁.wp_activatePackageImpl hF ht hfree (ho apex rfl)
  | deactivatePackage fullPath =>
    exact wp_seq (h.wp_openApex hF fullPath) fun apex w₁ h₁ _ => h₁.wp_unmountPackage hF hfree true
  | scanPackagesDirAndActivate dir =>
    have hscan := uses_findApexFilesByName_spare (S := VersionCmd) (fun _ => SpareCmd.version) dir
    have hmap := uses_getActivePackagesMap_spare (S := VersionCmd) (fun _ => SpareCmd.version)
      fun _ => trivial
    refine wp_seq (h.wp_uses hF hfree (uses_mapErr hscan)) fun scan w₁ h₁ _ => ?_
    refine wp_seq (h₁.wp_uses hF hfree hmap) fun packagesWithCode w₂ h₂ _ => ?_
    refine wp_seq (P := fun _ _ => True) (wp_foldlM (fun _ _ w' => w₀.Restartable w') scan
      (fun path rest failed w₃ _ h₃ => ?_) (fun failed w₃ h₃ => ⟨h₃, trivial⟩) h₂)
          fun failed w₃ h₃ _ =>
        wp_require.2 ⟨h₃, trivial⟩
    have hstep : wp (kernel .off F) w₀.Restartable (scanAndActivateStep cfg packagesWithCode path)
        (fun _ _ => True) w₃ := by
      unfold scanAndActivateStep
      refine wp_bind.2 (wp_attempt.2 ((h₃.wp_openApex hF path).imp ?_))
      rintro (e | apex) w₄ h₄ ho
      · exact ⟨h₄, trivial⟩
      · have hact : wp (kernel .off F) w₀.Restartable (activateFound cfg apex)
          (fun _ _ => True) w₄ := by
          refine wp_bind.2 (wp_attempt.2
            ((h₄.wp_activatePackageImpl hF ht hfree (ho apex rfl)).imp ?_))
          rintro (e | u) w₅ h₅ _ <;> exact ⟨h₅, trivial⟩
        have hupdatable : wp (kernel .off F) w₀.Restartable
            (if !cfg.updatable && !apex.flattened then ret false else activateFound cfg apex)
                (fun _ _ => True) w₄ := by
          split
          · exact ⟨h₄, trivial⟩
          · exact hact
        dsimp only [Then]
        cases packagesWithCode.lookup apex.manifest.name with
        | none => exact hupdatable
        | some version =>
          dsimp only
          split
          · exact ⟨h₄, trivial⟩
          · exact hupdatable
    have hloop : wp (kernel .off F) w₀.Restartable
      (scanAndActivateLoop cfg packagesWithCode failed path)
        (fun _ w' => w₀.Restartable w') w₃ := hstep.bind (fun _ _ h₄ _ => ⟨h₄, h₄⟩)
          fun _ _ h₄ _ => h₄
    refine hloop.imp ?_
    rintro (e | failed') w₄ h₄ _
    · trivial
    · exact h₄

end Programs

end Apexd
