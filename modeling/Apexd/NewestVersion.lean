import Apexd.StageAtomic

/-!
# The version that becomes the latest

`activatePackageImpl` opens the files behind the entries of the database again to see whether a
package is the newest.

* `Entry.MountedAs` — the version an entry was mounted as, which its mount point names.
* `wp_activatePackageImpl_db` — what an activation can do to the database.
* `activatePackageImpl_newest_iff` — a package that becomes the latest is the highest of those
  mounted exactly when every higher entry still opens as a higher version.
* `activatePackageImpl_downgrades` — the file of a higher version is gone.
-/

set_option autoImplicit false

namespace Apexd

open Text Prog

/-- Any call may be refused, but the opening of a package file. -/
def Sys.RefusedButOpen : Faults
  | .openApex _, _, _, _ => False
  | c, w, r, w' => c.refusal r ∧ w' = w

theorem Sys.RefusedButOpen.refusals : Faults.Refusals Sys.RefusedButOpen := by
  intro c w r w' h
  cases c <;> first | exact h.elim | exact h

theorem readsPackages_refusedButOpen {V : Watch} : ReadsPackages (kernel V Sys.RefusedButOpen) :=
  readsPackages_kernel (fun _ _ _ _ h => h) fun _ _ _ h => h.1

/-- The entry was mounted as version `version` of its package. -/
def Entry.MountedAs (e : Entry) (version : Int) : Prop :=
  e.data.mountPoint = join kApexRoot (e.package ++ "@" ++ toString version)

instance (e : Entry) (version : Int) : Decidable (e.MountedAs version) :=
    inferInstanceAs (Decidable (_ = _))

/-- A mount point names one version. -/
theorem Entry.MountedAs.unique {e : Entry} {v v' : Int} (h : e.MountedAs v) (h' : e.MountedAs v') :
    v = v' := by
  unfold Entry.MountedAs at h h'
  rw [h, join_right_inj, String.append_right_inj, toString_int_inj] at h'
  exact h'

variable {cfg : Config} {w w' : World} {apex : ApexFile}

/-! ## What an activation does to the database -/

/-- The flags that are new need the newest version, and entries only come. -/
structure ActivatedDb (m : ApexManifest) (w w' : World) : Prop where
  flags : ∀ e ∈ w'.db, e.package = m.name → e.latest = true →
    e ∈ w.db ∨ (w.otherVersions m).isNewestVersion = true
  back : ∀ e ∈ w'.db, (∃ e₀ ∈ w.db, e₀.package = e.package ∧ e₀.data = e.data) ∨
    e.package = m.name ∧ e.data.mountPoint = getPackageMountPoint m
  keep : ∀ e₀ ∈ w.db, ∃ e ∈ w'.db, e.package = e₀.package ∧ e.data = e₀.data

theorem ActivatedDb.of_db {m : ApexManifest} (h : w'.db = w.db) : ActivatedDb m w w' := by
  constructor
  · intro e he _ _
    exact Or.inl (h ▸ he)
  · intro e he
    exact Or.inl ⟨e, h ▸ he, rfl, rfl⟩
  · intro e he
    exact ⟨e, h ▸ he, rfl, rfl⟩

theorem ActivatedDb.emplace {m : ApexManifest} {d : MountedApexData}
    (hd : d.mountPoint = getPackageMountPoint m)
    (h : w'.db = w.db.emplace ⟨m.name, d, false⟩) : ActivatedDb m w w' := by
  constructor
  · intro e he _ hl
    rw [h, Db.mem_emplace] at he
    rcases he with rfl | he
    · cases hl
    · exact Or.inl he
  · intro e he
    rw [h, Db.mem_emplace] at he
    rcases he with rfl | he
    · exact Or.inr ⟨rfl, hd⟩
    · exact Or.inl ⟨e, he, rfl, rfl⟩
  · intro e he
    exact ⟨e, h ▸ Db.mem_emplace.2 (Or.inr he), rfl, rfl⟩

/-- `SetLatest` moves flags only. -/
theorem ActivatedDb.setLatest {m : ApexManifest} {w₁ : World} {package path : String}
    (h : ActivatedDb m w w₁)
    (hnew : (w.otherVersions m).isNewestVersion = true)
    (hs : w₁.db.setLatest package path = some w'.db) : ActivatedDb m w w' := by
  obtain ⟨hit, _, _, _, hdb⟩ := Db.setLatest_eq_some hs
  have hsame : ∀ e : Entry,
    (if e.package == package then { e with latest := e.data == hit.data } else e).package =
      e.package ∧ (if e.package == package then { e with latest := e.data == hit.data } else
          e).data = e.data := by
    intro e
    split <;> exact ⟨rfl, rfl⟩
  constructor
  · intro e _ _ _
    exact Or.inr hnew
  · intro e he
    rw [hdb] at he
    obtain ⟨e₁, he₁, rfl⟩ := List.mem_map.1 he
    rw [(hsame e₁).1, (hsame e₁).2]
    exact h.back e₁ he₁
  · intro e₀ he₀
    obtain ⟨e₁, he₁, hp, hd⟩ := h.keep e₀ he₀
    refine ⟨_, hdb ▸ List.mem_map_of_mem he₁, ?_, ?_⟩
    · rw [(hsame e₁).1, hp]
    · rw [(hsame e₁).2, hd]

section Programs

variable {F : Faults}

theorem wp_tempCmd_db {α : Type} {p : ApexM α} (hF : F.Refusals) (hp : p.Uses TempCmd) :
    wp (kernel .off F) (fun _ => True) p (fun _ w' => w'.db = w.db) w := by
  refine (hp.wp (I := fun w' => w'.db = w.db) ?_ ?_ rfl).mono (fun _ _ => trivial) fun _ _ _ h => h
  · intro c w _ _
    cases c <;> trivial
  · rintro c w₁ r w₂ hc hdb (hn | hf)
    · exact (tempCmd_db hc hn).trans hdb
    · rw [(hF c w₁ r w₂ hf).2, hdb]

theorem wp_bindMount_db (hF : F.Refusals) {target source : String} :
    wp (kernel .off F) (fun _ => True) (bindMount target source) (fun _ w' => w'.db = w.db) w := by
  refine ((uses_bindMount_calls target source).wp (I := fun w' => w'.db = w.db) ?_ ?_ rfl).mono
    (fun _ _ => trivial) fun _ _ _ h => h
  · intro c w _ _
    cases c <;> trivial
  · rintro c w₁ r w₂ hc hdb (hn | hf)
    · cases c with
      | unlink p =>
        have hu : (r, w₂) = w₁.unlink p := hn
        rcases w₁.unlink_cases p with ⟨e, he, _⟩ | ⟨d, f, _, _, he⟩
        · rw [he] at hu
          cases hu
          exact hdb
        · rw [he] at hu
          cases hu
          exact hdb
      | stat p => exact (congrArg World.db hn.2).trans hdb
      | mkdir p mode => rw [World.mkdir_onlyDirs hn, ← hdb]
      | umount2 p => rw [World.umount2_onlyMounts hn, ← hdb]
      | bindMount s p => rw [World.bindMount_onlyMounts hn, ← hdb]
      | _ => exact hc.elim
    · rw [(hF c w₁ r w₂ hf).2, hdb]

theorem wp_addMountedApex_db (hF : F.Refusals) {package : String} {latest : Bool}
    {data : MountedApexData} :
    wp (kernel .off F) (fun _ => True) (addMountedApex package latest data)
      (fun _ w' => w'.db = w.db.emplace ⟨package, data, latest⟩) w := by
  refine ⟨trivial, trivial, ?_⟩
  rintro _ w₁ (⟨rfl, rfl⟩ | hf)
  case inr => exact (hF _ _ _ _ hf).1.elim
  dsimp only [ret_bind]
  split
  · exact ⟨trivial, trivial, fun r => r.elim⟩
  · rename_i db' hdb'
    refine ⟨trivial, trivial, ?_⟩
    rintro _ w₂ (rfl | hf)
    · exact ⟨trivial, Db.addMountedApex_eq_some hdb'⟩
    · exact (hF _ _ _ _ hf).1.elim

theorem wp_setLatest_db (hF : F.Refusals) {package path : String} :
    wp (kernel .off F) (fun _ => True) (setLatest package path)
      (fun _ w' => w.db.setLatest package path = some w'.db) w := by
  refine ⟨trivial, trivial, ?_⟩
  rintro _ w₁ (⟨rfl, rfl⟩ | hf)
  case inr => exact (hF _ _ _ _ hf).1.elim
  dsimp only [ret_bind]
  split
  · exact ⟨trivial, trivial, fun r => r.elim⟩
  · rename_i db' hdb'
    refine ⟨trivial, trivial, ?_⟩
    rintro _ w₂ (rfl | hf)
    · exact ⟨trivial, hdb'⟩
    · exact (hF _ _ _ _ hf).1.elim

theorem wp_mountPackage_db (hF : F.Refusals) : wp (kernel .off F) (fun _ => True)
    (mountPackage cfg apex (getPackageMountPoint apex.manifest))
    (fun _ w' => ActivatedDb apex.manifest w w') w := by
  have hmount : wp (kernel .off F) (fun _ => True) (mountPackageImpl cfg apex
      (getPackageMountPoint apex.manifest) (getPackageId apex.manifest) false)
      (fun x w' => w'.db = w.db ∧
        ∀ d, x = .ok d → d.mountPoint = getPackageMountPoint apex.manifest ∧ d.fullPath = apex.path)
            w :=
    (wp_tempCmd_db hF (uses_mountPackageImpl apex _ _ (below_packageMountPoint _))).yields
      (yields_mountPackageImpl apex _ _ _)
  refine hmount.bind ?_ ?_
  · intro d w₁ _ ⟨hdb, hd⟩
    refine (wp_addMountedApex_db hF).imp fun _ w₂ _ hdb₂ => ?_
    exact .emplace (hd d rfl).1 (hdb ▸ hdb₂)
  · intro e w₁ _ h
    exact .of_db h.1

/-- **What an activation can do to the database**, whatever is refused. -/
theorem wp_activatePackageImpl_db (hF : F.Refusals) (hK : ReadsPackages (kernel .off F)) :
    wp (kernel .off F) (fun _ => True) (activatePackageImpl cfg apex)
      (fun _ w' => ActivatedDb apex.manifest w w') w := by
  have hsame : ActivatedDb apex.manifest w w := .of_db rfl
  unfold activatePackageImpl
  split
  · exact ⟨trivial, hsame⟩
  split
  · exact ⟨trivial, hsame⟩
  refine (wp_otherVersions hK trivial).bind ?_ ?_
  case refine_2 =>
    rintro e w₁ _ ⟨he, _⟩
    cases he
  rintro found w₁ _ ⟨hfound, rfl⟩
  obtain rfl := Except.ok.inj hfound
  split
  · exact ⟨trivial, hsame⟩
  -- the package is mounted, and then, if it is the newest, bound and flagged
  have hmount : wp (kernel .off F) (fun _ => True)
      (when (!(w₁.otherVersions apex.manifest).versionFoundMounted)
        (mountPackage cfg apex (getPackageMountPoint apex.manifest)))
      (fun _ w' => ActivatedDb apex.manifest w₁ w') w₁ :=
    wp_when (fun _ => wp_mountPackage_db hF) fun _ => ⟨trivial, hsame⟩
  refine hmount.bind ?_ fun _ _ _ h => h
  intro _ w₂ _ h₂
  refine wp_when (fun hnew => ?_) fun _ => ⟨trivial, h₂⟩
  refine wp_bind.2 (wp_mapErr.2 ((wp_bindMount_db hF).imp ?_))
  intro x w₃ _ hdb₃
  have h₃ : ActivatedDb apex.manifest w₁ w₃ := by
    constructor
    · exact hdb₃ ▸ h₂.flags
    · exact hdb₃ ▸ h₂.back
    · exact hdb₃ ▸ h₂.keep
  cases x with
  | error e => exact h₃
  | ok _ => exact (wp_setLatest_db hF).imp fun _ w₄ _ hs => h₃.setLatest hnew hs

end Programs

/-! ## No downgrade -/

/-- The package at `path` is the latest of its name. -/
def World.IsLatest (w : World) (name path : String) (e : Entry) : Prop :=
  e ∈ w.db ∧ e.package = name ∧ e.data.fullPath = path ∧ e.latest = true

/-- **A package that becomes the latest is the highest of those mounted exactly when every other
entry mounted as a higher version still opens as a higher version.** -/
theorem activatePackageImpl_newest_iff {x : Except String Unit} {e : Entry}
    (h : Ends (kernel .off Sys.RefusedButOpen) (activatePackageImpl cfg apex) w x w')
    (hbefore : ∀ e, ¬ w.IsLatest apex.manifest.name apex.path e)
    (hafter : w'.IsLatest apex.manifest.name apex.path e) :
    (∀ o ∈ w'.db, o.package = apex.manifest.name → o.data ≠ e.data →
      ∀ v, o.MountedAs v → u64 v ≤ u64 apex.manifest.version) ↔
    ∀ o ∈ w.db, o.package = apex.manifest.name → o.data ≠ e.data →
      ∀ v, o.MountedAs v → u64 apex.manifest.version < u64 v →
        ∃ other, w.fileVersion o.data.fullPath = some other ∧
          u64 apex.manifest.version < other := by
  have hdb := (wp_activatePackageImpl_db Sys.RefusedButOpen.refusals
    readsPackages_refusedButOpen).ends h
  obtain ⟨he, hp, hpath, hl⟩ := hafter
  have hnew : (w.otherVersions apex.manifest).isNewestVersion = true :=
    (hdb.flags e he hp hl).resolve_left fun hold => hbefore e ⟨hold, hp, hpath, hl⟩
  rw [World.isNewestVersion_iff] at hnew
  constructor
  · intro hall o ho hop hod v hv hlt
    obtain ⟨o', ho', hpkg, hdata⟩ := hdb.keep o ho
    have hv' : o'.MountedAs v := by
      unfold Entry.MountedAs at hv ⊢
      rw [hdata, hpkg]
      exact hv
    have := hall o' ho' (hpkg.trans hop) (hdata ▸ hod) v hv'
    omega
  · intro hcond o ho hop hod v hv
    rcases hdb.back o ho with ⟨o₀, ho₀, hpkg, hdata⟩ | ⟨_, hpoint⟩
    · by_contra hlt
      have hv₀ : o₀.MountedAs v := by
        unfold Entry.MountedAs at hv ⊢
        rw [hdata, hpkg]
        exact hv
      obtain ⟨other, hother, hgt⟩ := hcond o₀ ho₀ (hpkg.trans hop) (hdata ▸ hod) v hv₀ (by omega)
      have := hnew o₀ ho₀ (hpkg.trans hop) other hother
      omega
    · have hthis : o.MountedAs apex.manifest.version := by
        unfold Entry.MountedAs
        rw [hpoint, hop]
        rfl
      rw [hv.unique hthis]

/-! ## Activating version 3 over another version -/

/-- Version 3 comes with the system; another version is mounted and was read from the active
directory, where its file may be gone. -/
def otherMounted (m : ApexManifest) (root active : Dir) : World := { World.ofDirs
  [ (kApexRoot, root),
    (getPackageMountPoint m, Dir.empty 0o755),
    ("/apex/a", Dir.empty 0o755),
    (kApexPackageSystemDir, ⟨0o755,
      [("a.apex", .file ⟨1, .apex (soundContent (plainManifest 3 version_three))⟩)], by
        decide, by decide⟩),
    (kActiveApexPackagesDataDir, active) ]
  with
    mounts := [⟨"/apex/a", "/dev/block/loop0", some "/dev/block/loop0",
      .image ⟨2, .apex (soundContent m)⟩,
        some (getPackageMountPoint m)⟩,
      ⟨getPackageMountPoint m, "/dev/block/loop0", some "/dev/block/loop0",
        .image ⟨2, .apex (soundContent m)⟩, none⟩]
    loops := [⟨"/dev/block/loop0", "/data/apex/active/a.apex",
      ⟨2, .apex (soundContent m)⟩, 4096, 8192, kApexLoopIdPrefix, false⟩]
    db := [⟨"a", ⟨"/dev/block/loop0", "/data/apex/active/a.apex", getPackageMountPoint m, ""⟩,
      true⟩] }

def lowerMountPoints : Dir := ⟨0o755, [("a@2", .dir), ("a", .dir)], by decide, by decide⟩

/-- Version 2, with its file. -/
def lowerMounted : World := otherMounted (plainManifest 2 version_two) lowerMountPoints
  dataApexDir

/-- Version 5, whose file was unlinked while it was mounted. -/
def higherMounted : World := otherMounted (plainManifest 5 (by decide))
  ⟨0o755, [("a@5", .dir), ("a", .dir)], by decide, by decide⟩ (Dir.empty 0o750)

def systemVersion : ApexFile :=
    ⟨"/system/apex/a.apex", false, 4096, 8192, plainManifest 3 version_three, []⟩

def systemEntry : Entry :=
    ⟨"a", ⟨"/dev/block/loop1", "/system/apex/a.apex", "/apex/a@3", "a@3"⟩, true⟩

def activateSystemVersion (w : World) : ApexM Unit × World :=
  runN Sys.run 60 (activatePackageImpl deviceConfig systemVersion) w

theorem not_isLatest_systemVersion {w : World}
    (h : ∀ e ∈ w.db, e.data.fullPath ≠ systemVersion.path) (e : Entry) :
    ¬ w.IsLatest systemVersion.manifest.name systemVersion.path e := fun he => h e he.1 he.2.2.1

/-- Version 3 replaces version 2. -/
theorem activatePackageImpl_newest_update :
    ¬ ∃ o ∈ (activateSystemVersion lowerMounted).2.db, o.package = "a" ∧ o.data ≠ systemEntry.data ∧
      ∃ v, o.MountedAs v ∧ ¬ u64 v ≤ u64 3 := by
  have hres : (activateSystemVersion lowerMounted).1.result? = some (.ok ()) := by decide
  rintro ⟨o, ho, hp, hd, v, hv, hgt⟩
  refine hgt ((activatePackageImpl_newest_iff (e := systemEntry) (runN_ends Sys.run_sem hres)
    (not_isLatest_systemVersion (by decide)) ⟨by decide, rfl, rfl, rfl⟩).2 ?_ o ho hp hd v hv)
  clear! o v
  intro o ho _ _ v hv hlt
  have hmount : o.MountedAs 2 := by
    rw [List.mem_singleton.1 ho]
    decide
  rw [hv.unique hmount] at hlt
  exact absurd hlt (by decide)

/-- Version 3 becomes the latest while version 5 is mounted, because the file of version 5 is
gone. -/
theorem activatePackageImpl_downgrades : ¬ ∀ (cfg : Config) (apex : ApexFile) (w w' : World) x e,
    Ends (kernel .off Sys.RefusedButOpen) (activatePackageImpl cfg apex) w x w' →
    (∀ e, ¬ w.IsLatest apex.manifest.name apex.path e) →
    w'.IsLatest apex.manifest.name apex.path e →
    ∀ o ∈ w'.db, o.package = apex.manifest.name → o.data ≠ e.data →
      ∀ v, o.MountedAs v → u64 v ≤ u64 apex.manifest.version := by
  intro hclaim
  have hres : (activateSystemVersion higherMounted).1.result? = some (.ok ()) := by decide
  have hle := hclaim deviceConfig systemVersion higherMounted _ _ systemEntry
    (runN_ends Sys.run_sem hres) (not_isLatest_systemVersion (by decide)) ⟨by decide, rfl, rfl, rfl⟩
    ⟨"a", ⟨"/dev/block/loop0", "/data/apex/active/a.apex", "/apex/a@5", ""⟩, false⟩ (by decide) rfl
    (by decide) 5 (by decide)
  exact absurd hle (by decide)

end Apexd
