import Apexd.Verify

/-!
# Activating and deactivating packages

`activatePackageImpl`, `activatePackage`, `deactivatePackage`, `scanPackagesDirAndActivate` and
`unmountDanglingMounts` (`apexd.cpp`).

* `ReadsPackages` — a kernel in which a package file is opened unless it is gone.
* `World.otherVersions`, `World.activeVersions` — what the programs then find out about versions.
-/

set_option autoImplicit false

namespace Apexd

open Text Prog

def isBootstrapApex (apex : ApexFile) : Bool := kBootstrapApexes.contains apex.manifest.name

/-- What `activatePackageImpl` collects about the versions of a package in the database. -/
structure OtherVersions where
  isNewestVersion : Bool
  versionFoundMounted : Bool
  versionFoundActive : Bool
  deriving DecidableEq

/-- The handler for one entry; a package that cannot be opened any more is passed over. -/
def otherVersionsStep (newVersion : Nat) (acc : OtherVersions) (e : Entry) :
    ApexM OtherVersions := do
  match ← (openApex e.data.fullPath).attempt with
  | .error _ => ret acc
  | .ok otherApex => do
    let version := u64 otherApex.manifest.version
    let acc := if version = newVersion then
      { acc with versionFoundMounted := true, versionFoundActive := e.latest } else acc
    ret (if version > newVersion then { acc with isNewestVersion := false } else acc)

def otherVersions (manifest : ApexManifest) : ApexM OtherVersions := do
  let db ← sys .getDb
  (db.forallMountedApexes manifest.name).foldlM (otherVersionsStep (u64 manifest.version))
    ⟨true, false, false⟩

def activatePackageImpl (cfg : Config) (apex : ApexFile) : ApexM Unit :=
  if cfg.bootstrap && !isBootstrapApex apex then ret ()
  else if !cfg.updatable && !cfg.bootstrap && isBootstrapApex apex then ret ()
  else do
    let found ← otherVersions apex.manifest
    if found.versionFoundActive then ret ()
    else do
      let mountPoint := getPackageMountPoint apex.manifest
      when (!found.versionFoundMounted) (mountPackage cfg apex mountPoint)
      when found.isNewestVersion do
        (bindMount (getActiveMountPoint apex.manifest) mountPoint).mapErr fun e =>
          "Failed to update package " ++ apex.manifest.name ++ " to version " ++
            toString apex.manifest.version ++ " : " ++ e
        setLatest apex.manifest.name apex.path

def activatePackage (cfg : Config) (fullPath : String) : ApexM Unit := do
  let apex ← openApex fullPath
  activatePackageImpl cfg apex

def deactivatePackage (fullPath : String) : ApexM Unit := do
  let apex ← openApex fullPath
  unmountPackage apex true

/-- The handler of `getActivePackages`. -/
def activePackagesStep (packages : List ApexFile) (e : Entry) : ApexM (List ApexFile) :=
  if e.latest then do
    match ← (openApex e.data.fullPath).attempt with
    | .error _ => ret packages
    | .ok apex => ret (packages ++ [apex])
  else ret packages

def getActivePackages : ApexM (List ApexFile) := do
  let db ← sys .getDb
  db.foldlM activePackagesStep []

/-- `GetActivePackagesMap`: a map to versions in which the first package of a name stays. -/
def getActivePackagesMap : ApexM (List (String × Nat)) := do
  let active ← getActivePackages
  ret (active.map fun apex => (apex.manifest.name, u64 apex.manifest.version))

/-- One file found by `scanPackagesDirAndActivate`; says whether it failed. -/
def scanAndActivateStep (cfg : Config) (packagesWithCode : List (String × Nat)) (path : String) :
    ApexM Bool := do
  match ← (openApex path).attempt with
  | .error _ => ret true
  | .ok apex => do
    let active := match packagesWithCode.lookup apex.manifest.name with
      | some version => decide (u64 apex.manifest.version ≤ version)
      | none => false
    if active then ret false
    else if !cfg.updatable && !apex.flattened then ret false
    else do
      match ← (activatePackageImpl cfg apex).attempt with
      | .error _ => ret true
      | .ok _ => ret false

def scanAndActivateLoop (cfg : Config) (packagesWithCode : List (String × Nat))
    (failedPkgs : List String) (path : String) : ApexM (List String) := do
  let failed ← scanAndActivateStep cfg packagesWithCode path
  ret (if failed then failedPkgs ++ [path] else failedPkgs)

def scanPackagesDirAndActivate (cfg : Config) (apexPackageDir : String) : ApexM Unit := do
  let scan ← (findApexFilesByName apexPackageDir (isPathForBuiltinApexes apexPackageDir)).mapErr
    ("Failed to scan " ++ apexPackageDir ++ " : " ++ ·)
  let packagesWithCode ← getActivePackagesMap
  let failedPkgs ← scan.foldlM (scanAndActivateLoop cfg packagesWithCode) []
  require failedPkgs.isEmpty
    ("Failed to activate following packages : " ++ ",".intercalate failedPkgs)

/-- One dangling mount. -/
def unmountDangling (e : Entry) : ApexM Unit := do
  removeMountedApex e.package e.data.fullPath
  logged (unmount e.data)
  when (startsWith e.data.fullPath kActiveApexPackagesDataDir) do
    let _ ← sys (.unlink e.data.fullPath)
    ret ()

def unmountDanglingMounts : ApexM Unit := do
  let db ← sys .getDb
  (db.filter fun e => !e.latest).forM unmountDangling

/-! ## What they read -/

/-- Package files and the database are read as they are. -/
structure ReadsPackages (K : Kernel Sys Sys.Res World) : Prop where
  preOpen : ∀ p w, K.pre (.openApex p) w
  preDb : ∀ w, K.pre .getDb w
  openApex : ∀ p w r w', K.sem (.openApex p) w r w' → r = w.openApex p ∧ w' = w
  getDb : ∀ w r w', K.sem .getDb w r w' → r = w.db ∧ w' = w

theorem readsPackages_kernel {V : Watch} {F : Faults} (ho : ∀ p w r w', ¬ F (.openApex p) w r w')
    (hd : ∀ w r w', ¬ F .getDb w r w') : ReadsPackages (kernel V F) where
  preOpen _ _ := trivial
  preDb _ := trivial
  openApex p w r w' h := h.resolve_right (ho p w r w')
  getDb w r w' h := h.resolve_right (hd w r w')

theorem readsPackages_noFault {V : Watch} : ReadsPackages (kernel V Sys.NoFault) :=
  readsPackages_kernel (fun _ _ _ _ h => h) fun _ _ _ h => h

/-- The packages opened for the flagged ones of some entries. -/
def World.openLatest (w : World) (es : List Entry) : List ApexFile :=
  (es.filter (·.latest)).filterMap fun e => (w.openApex e.data.fullPath).toOption

/-- The packages that `getActivePackages` opens. -/
def World.activeFiles (w : World) : List ApexFile := w.openLatest w.db

/-- `GetActivePackagesMap` as a function of the state. -/
def World.activeVersions (w : World) : List (String × Nat) :=
  (w.db.filter (·.latest)).filterMap fun e => (w.openApex e.data.fullPath).toOption.map
    fun apex => (apex.manifest.name, u64 apex.manifest.version)

/-- The version in the package file at a path. -/
def World.fileVersion (w : World) (p : String) : Option Nat :=
  (w.openApex p).toOption.map fun apex => u64 apex.manifest.version

/-- What one entry changes in what is collected. -/
def OtherVersions.add (newVersion : Nat) (acc : OtherVersions) (version : Option Nat)
    (latest : Bool) : OtherVersions :=
  match version with
  | none => acc
  | some v =>
    let acc := if v = newVersion then
      { acc with versionFoundMounted := true, versionFoundActive := latest } else acc
    if v > newVersion then { acc with isNewestVersion := false } else acc

/-- `otherVersions` as a function of the state. -/
def World.otherVersions (w : World) (manifest : ApexManifest) : OtherVersions :=
  (w.db.forallMountedApexes manifest.name).foldl
    (fun acc e => acc.add (u64 manifest.version) (w.fileVersion e.data.fullPath) e.latest)
      ⟨true, false, false⟩

section Reads

variable {K : Kernel Sys Sys.Res World} {I : World → Prop} {w : World}

theorem wp_openApex_eq (hK : ReadsPackages K)
    {Q : Except String ApexFile → World → Prop} {p : String}
    (hI : I w) (hQ : Q (w.openApex p) w) : wp K I (openApex p) Q w := by
  refine ⟨hI, hK.preOpen p w, fun r w' hs => ?_⟩
  obtain ⟨rfl, rfl⟩ := hK.openApex _ _ _ _ hs
  exact wp_ofExcept.2 ⟨hI, hQ⟩

/-- The handler over some entries. -/
theorem wp_activePackagesStep (hK : ReadsPackages K) (hI : I w) (es : List Entry)
    (acc : List ApexFile) :
    wp K I (es.foldlM activePackagesStep acc)
      (fun x w' => x = .ok (acc ++ w.openLatest es) ∧ w' = w) w := by
  unfold World.openLatest
  induction es generalizing acc with
  | nil => exact ⟨hI, by simp, rfl⟩
  | cons e es ih =>
    rw [List.foldlM_cons]
    refine wp_bind.2 ?_
    unfold activePackagesStep
    split
    · rename_i hlatest
      refine wp_bind.2 (wp_attempt.2 (wp_openApex_eq hK hI ?_))
      rw [List.filter_cons_of_pos hlatest, List.filterMap_cons]
      dsimp only [Then]
      cases w.openApex e.data.fullPath with
      | error m => exact ⟨hI, ih acc⟩
      | ok apex =>
        refine ⟨hI, (ih (acc ++ [apex])).imp ?_⟩
        rintro x w' _ ⟨rfl, rfl⟩
        exact ⟨by simp [Except.toOption], rfl⟩
    · rename_i hlatest
      rw [List.filter_cons_of_neg hlatest]
      exact ⟨hI, ih acc⟩

theorem wp_getActivePackages (hK : ReadsPackages K) (hI : I w) :
    wp K I getActivePackages (fun x w' => x = .ok w.activeFiles ∧ w' = w) w := by
  refine ⟨hI, hK.preDb w, fun db w' hs => ?_⟩
  obtain ⟨rfl, rfl⟩ := hK.getDb _ _ _ hs
  exact wp_activePackagesStep hK hI w'.db []

theorem wp_getActivePackagesMap (hK : ReadsPackages K)
    {Q : Except String (List (String × Nat)) → World → Prop} (hI : I w)
    (hQ : Q (.ok w.activeVersions) w) : wp K I getActivePackagesMap Q w := by
  unfold getActivePackagesMap
  refine wp_bind.2 ((wp_getActivePackages hK hI).imp ?_)
  rintro _ _ _ ⟨rfl, rfl⟩
  refine ⟨hI, ?_⟩
  unfold World.activeVersions at hQ
  rwa [← List.map_filterMap] at hQ

theorem wp_otherVersions (hK : ReadsPackages K) {manifest : ApexManifest} (hI : I w) :
    wp K I (otherVersions manifest)
      (fun x w' => x = .ok (w.otherVersions manifest) ∧ w' = w) w := by
  refine ⟨hI, hK.preDb w, fun r w' hs => ?_⟩
  obtain ⟨rfl, rfl⟩ := hK.getDb _ _ _ hs
  refine wp_foldlM (fun rest acc w₁ => rest.foldl (fun acc e => acc.add (u64 manifest.version)
    (w'.fileVersion e.data.fullPath) e.latest) acc = w'.otherVersions manifest ∧ w₁ = w') _
      ?_ ?_ ⟨rfl, rfl⟩
  · rintro e rest acc _ _ ⟨hacc, rfl⟩
    unfold otherVersionsStep
    refine wp_bind.2 (wp_attempt.2 (wp_openApex_eq hK hI ?_))
    rw [List.foldl_cons] at hacc
    unfold World.fileVersion at hacc
    cases ho : World.openApex _ e.data.fullPath with
    | error m =>
      rw [ho] at hacc
      exact ⟨hI, hacc, rfl⟩
    | ok other =>
      rw [ho] at hacc
      exact ⟨hI, hacc, rfl⟩
  · rintro acc _ ⟨hacc, rfl⟩
    exact ⟨hI, congrArg _ hacc, rfl⟩

end Reads

section OtherVersions

variable {newVersion : Nat} {l : List Entry} {f : Entry → Option Nat} {acc : OtherVersions}

theorem OtherVersions.foldl_isNewestVersion :
    (l.foldl (fun acc e => acc.add newVersion (f e) e.latest) acc).isNewestVersion = true ↔
      acc.isNewestVersion = true ∧ ∀ e ∈ l, ∀ v, f e = some v → v ≤ newVersion := by
  induction l generalizing acc with
  | nil => simp
  | cons e l ih =>
    rw [List.foldl_cons, ih, List.forall_mem_cons, ← and_assoc]
    refine and_congr_left fun _ => ?_
    unfold OtherVersions.add
    cases f e with
    | none => simp
    | some v =>
      by_cases hv : v = newVersion
      · simp [hv]
      · by_cases hgt : v > newVersion
        · simp [hv, hgt]
        · simp [hv, hgt, not_lt.1 hgt]

theorem OtherVersions.foldl_versionFoundMounted :
    (l.foldl (fun acc e => acc.add newVersion (f e) e.latest) acc).versionFoundMounted = true ↔
      acc.versionFoundMounted = true ∨ ∃ e ∈ l, f e = some newVersion := by
  induction l generalizing acc with
  | nil => simp
  | cons e l ih =>
    rw [List.foldl_cons, ih, List.exists_mem_cons_iff, ← or_assoc]
    refine or_congr_left ?_
    unfold OtherVersions.add
    cases f e with
    | none => simp
    | some v =>
      by_cases hv : v = newVersion
      · simp [hv]
      · by_cases hgt : v > newVersion <;> simp [hv, hgt]

/-- An entry of the version says whether it is active. -/
theorem OtherVersions.add_versionFoundActive (version : Option Nat) (latest : Bool) :
    (acc.add newVersion version latest).versionFoundActive =
      if version = some newVersion then latest else acc.versionFoundActive := by
  unfold OtherVersions.add
  cases version with
  | none => rfl
  | some v =>
    by_cases hv : v = newVersion
    · simp [hv]
    · by_cases hgt : v > newVersion <;> simp [hv, hgt]

theorem OtherVersions.foldl_versionFoundActive
    (h : (l.foldl (fun acc e => acc.add newVersion (f e) e.latest) acc).versionFoundActive = true) :
    acc.versionFoundActive = true ∨ ∃ e ∈ l, f e = some newVersion ∧ e.latest = true := by
  induction l generalizing acc with
  | nil => exact Or.inl h
  | cons e l ih =>
    rw [List.foldl_cons] at h
    rw [List.exists_mem_cons_iff]
    rcases ih h with ha | hl
    · rw [add_versionFoundActive] at ha
      split at ha
      · rename_i hv
        exact Or.inr (Or.inl ⟨hv, ha⟩)
      · exact Or.inl ha
    · exact Or.inr (Or.inr hl)

theorem OtherVersions.foldl_versionFoundActive_of_all
    (hall : ∀ e ∈ l, f e = some newVersion → e.latest = true)
    (h : acc.versionFoundActive = true ∨ ∃ e ∈ l, f e = some newVersion) :
    (l.foldl (fun acc e => acc.add newVersion (f e) e.latest) acc).versionFoundActive = true := by
  induction l generalizing acc with
  | nil => simpa using h
  | cons e l ih =>
    rw [List.forall_mem_cons] at hall
    rw [List.exists_mem_cons_iff] at h
    rw [List.foldl_cons]
    apply ih hall.2
    rw [add_versionFoundActive]
    split
    · rename_i hv
      exact Or.inl (hall.1 hv)
    · rename_i hv
      exact h.imp_right fun h => h.resolve_left hv

variable {w : World} {m : ApexManifest}

theorem World.isNewestVersion_iff : (w.otherVersions m).isNewestVersion = true ↔
    ∀ e ∈ w.db, e.package = m.name → ∀ v, w.fileVersion e.data.fullPath = some v →
      v ≤ u64 m.version := by
  unfold World.otherVersions Db.forallMountedApexes
  rw [OtherVersions.foldl_isNewestVersion]
  simp only [true_and, List.mem_filter, beq_iff_eq, and_imp]

theorem World.versionFoundMounted_iff : (w.otherVersions m).versionFoundMounted = true ↔
    ∃ e ∈ w.db, e.package = m.name ∧ w.fileVersion e.data.fullPath = some (u64 m.version) := by
  unfold World.otherVersions Db.forallMountedApexes
  rw [OtherVersions.foldl_versionFoundMounted]
  simp only [Bool.false_eq_true, false_or, List.mem_filter, beq_iff_eq, and_assoc]

theorem World.versionFoundActive_latest (h : (w.otherVersions m).versionFoundActive = true) :
    ∃ e ∈ w.db, e.package = m.name ∧ w.fileVersion e.data.fullPath = some (u64 m.version) ∧
      e.latest = true := by
  obtain ⟨e, he, hv⟩ := (OtherVersions.foldl_versionFoundActive h).resolve_left Bool.false_ne_true
  obtain ⟨he, hp⟩ := List.mem_filter.1 he
  exact ⟨e, he, eq_of_beq hp, hv⟩

theorem World.versionFoundActive_of_all
    (hall : ∀ e ∈ w.db, e.package = m.name → w.fileVersion e.data.fullPath = some (u64 m.version) →
      e.latest = true)
    (h : (w.otherVersions m).versionFoundMounted = true) :
    (w.otherVersions m).versionFoundActive = true := by
  obtain ⟨e, he, hp, hv⟩ := World.versionFoundMounted_iff.1 h
  refine OtherVersions.foldl_versionFoundActive_of_all (fun o ho => ?_) (Or.inr ⟨e, ?_, hv⟩)
  · obtain ⟨ho, hop⟩ := List.mem_filter.1 ho
    exact hall o ho (eq_of_beq hop)
  · exact List.mem_filter.2 ⟨he, beq_iff_eq.2 hp⟩

end OtherVersions

end Apexd
