import Apexd.StageAtomic

/-!
# The packages the service lists

`getActivePackages` and `getAllPackages` of the service (`apexservice.cpp`) and `getFactoryPackages`
(`apexd.cpp`).

* `activeInfos`, `allInfos` — what the two calls make of the active and the built-in packages.
* `Agree` — both lists give a package file the same flags.
* `agree_iff`, `getAllPackages_agrees_iff` — exactly when they agree; `getAllPackages` compares
  names and versions, `getActivePackages` looks at the path.
-/

set_option autoImplicit false

namespace Apexd

open Text Prog

structure ApexInfo where
  packageName : String
  packagePath : String
  versionCode : Int
  versionName : String
  isFactory : Bool
  isActive : Bool
  deriving DecidableEq

/-- The caller sets both flags. -/
def getApexInfo (package : ApexFile) : ApexInfo where
  packageName := package.manifest.name
  packagePath := package.path
  versionCode := package.manifest.version
  versionName := package.manifest.versionName
  isFactory := false
  isActive := false

def contains (list : List ApexFile) (apexFile : ApexFile) : Bool :=
  list.any fun listFile => apexFile.manifest.name = listFile.manifest.name &&
    apexFile.manifest.version = listFile.manifest.version

/-- One file of a built-in directory; what cannot be opened is passed over. -/
def factoryPackagesStep (packages : List ApexFile) (path : String) : ApexM (List ApexFile) := do
  match ← (openApex path).attempt with
  | .error _ => ret packages
  | .ok apex => ret (packages ++ [apex])

def factoryPackagesDir (packages : List ApexFile) (dir : String) : ApexM (List ApexFile) := do
  match ← (findApexFilesByName dir false).attempt with
  | .error _ => ret packages
  | .ok files => files.foldlM factoryPackagesStep packages

def getFactoryPackages : ApexM (List ApexFile) :=
    kApexPackageBuiltinDirs.foldlM factoryPackagesDir []

/-- What the service makes of the active packages. -/
def activeInfos (activePackages : List ApexFile) :
    List ApexInfo := activePackages.map fun package =>
  { getApexInfo package with isActive := true, isFactory := isPathForBuiltinApexes package.path }

/-- What it makes of the built-in and the active packages. -/
def allInfos (activePackages factoryPackages : List ApexFile) : List ApexInfo :=
  (factoryPackages.map fun factoryFile =>
    { getApexInfo factoryFile with
      isFactory := true, isActive := contains activePackages factoryFile }) ++
  ((activePackages.filter fun activeFile => !contains factoryPackages activeFile).map
      fun activeFile =>
    { getApexInfo activeFile with isFactory := false, isActive := true })

namespace ApexService

def getActivePackages : ApexM (List ApexInfo) := do
  let packages ← Apexd.getActivePackages
  ret (activeInfos packages)

def getAllPackages : ApexM (List ApexInfo) := do
  let activePackages ← Apexd.getActivePackages
  let factoryPackages ← getFactoryPackages
  ret (allInfos activePackages factoryPackages)

end ApexService

/-! ## Flags that agree -/

/-- Every package of `active` is listed in `all` once, under its path; and in `all` an entry is
flagged active just when it is in `active`, and built-in just when its path is. -/
structure Agree (active all : List ApexInfo) : Prop where
  once : ∀ j ∈ active, all.countP (fun i => i.packagePath == j.packagePath) = 1
  listed : ∀ j ∈ active, ∃ i ∈ all, i.packagePath = j.packagePath ∧ i.packageName = j.packageName ∧
    i.versionCode = j.versionCode
  isActive : ∀ i ∈ all, i.isActive = true ↔ ∃ j ∈ active, j.packageName = i.packageName ∧
    j.versionCode = i.versionCode ∧ j.packagePath = i.packagePath
  isFactory : ∀ i ∈ all, i.isFactory = true ↔ isPathForBuiltinApexes i.packagePath = true

/-- Every active package is a built-in file, or lies elsewhere, has a name and version that no
built-in file has, and is listed once; and a built-in file with the name and version of an active
package is that package. -/
structure FlagsAgree (active factory : List ApexFile) : Prop where
  ofActive : ∀ a ∈ active, a ∈ factory ∨
    (isPathForBuiltinApexes a.path = false ∧ contains factory a = false ∧ active.count a = 1)
  ofFactory : ∀ f ∈ factory, contains active f = true → f ∈ active

/-- What is opened in one state: a path names one package, and the built-in ones have their own
paths. -/
structure Opened (active factory : List ApexFile) : Prop where
  same : ∀ x ∈ active ++ factory, ∀ y ∈ active ++ factory, x.path = y.path → x = y
  paths : (factory.map (·.path)).Nodup
  builtin : ∀ f ∈ factory, isPathForBuiltinApexes f.path = true

section Agree

variable {active factory factory' : List ApexFile} {a f x : ApexFile}

theorem contains_iff : contains factory x = true ↔
    ∃ f ∈ factory, x.manifest.name = f.manifest.name ∧ x.manifest.version = f.manifest.version := by
  unfold contains
  simp

theorem contains_self (h : x ∈ factory) :
    contains factory x = true := contains_iff.2 ⟨x, h, rfl, rfl⟩

theorem contains_perm (h : factory.Perm factory') : contains factory x = contains factory' x := by
  rw [Bool.eq_iff_iff, contains_iff, contains_iff]
  simp only [h.mem_iff]

theorem FlagsAgree.perm (h : factory.Perm factory') :
    FlagsAgree active factory ↔ FlagsAgree active factory' := by
  constructor
  · intro hf
    constructor
    · intro a ha
      rw [← h.mem_iff, ← contains_perm h]
      exact hf.ofActive a ha
    · intro f hm
      exact hf.ofFactory f (h.mem_iff.2 hm)
  · intro hf
    constructor
    · intro a ha
      rw [h.mem_iff, contains_perm h]
      exact hf.ofActive a ha
    · intro f hm
      exact hf.ofFactory f (h.mem_iff.1 hm)

theorem mem_allInfos {i : ApexInfo} : i ∈ allInfos active factory ↔
    (∃ f ∈ factory, i = { getApexInfo f with isFactory := true, isActive := contains active f }) ∨
      ∃ a ∈ active, contains factory a = false ∧
          i = { getApexInfo a with isFactory := false, isActive := true } := by
  unfold allInfos
  rw [List.mem_append, List.mem_map, List.mem_map]
  simp only [List.mem_filter, Bool.not_eq_true', and_assoc, @eq_comm _ _ i]

theorem mem_activeInfos {j : ApexInfo} : j ∈ activeInfos active ↔ ∃ a ∈ active,
    j = { getApexInfo a with isActive := true, isFactory := isPathForBuiltinApexes a.path } := by
  unfold activeInfos
  simp only [List.mem_map, @eq_comm _ _ j]

/-- How often a path is listed. -/
theorem countP_allInfos (p : String) :
    (allInfos active factory).countP (fun i => i.packagePath == p) =
    factory.countP (fun f => f.path == p) +
      active.countP (fun a => !contains factory a && a.path == p) := by
  unfold allInfos
  rw [List.countP_append, List.countP_map, List.countP_map, List.countP_filter]
  congr 1
  congr 1
  funext a
  rw [Bool.and_comm]
  rfl

/-- An active package that is a built-in file is listed there. -/
theorem Opened.once_builtin (h : Opened active factory) (ha : a ∈ active) (hf : a ∈ factory) :
    (allInfos active factory).countP (fun i => i.packagePath == a.path) = 1 := by
  rw [countP_allInfos]
  have hone : factory.countP (fun f => f.path == a.path) = 1 := by
    rw [show (fun f : ApexFile => f.path == a.path) = (· == a.path) ∘ (·.path) from rfl,
      ← List.countP_map]
    exact List.count_eq_one_of_mem h.paths (List.mem_map.2 ⟨a, hf, rfl⟩)
  have hnone : active.countP (fun b => !contains factory b && b.path == a.path) = 0 := by
    rw [List.countP_eq_zero]
    intro b hb hp
    simp only [Bool.and_eq_true, Bool.not_eq_true', beq_iff_eq] at hp
    obtain rfl := h.same b (List.mem_append_left _ hb) a (List.mem_append_left _ ha) hp.2
    rw [contains_self hf] at hp
    cases hp.1
  omega

/-- Another one is listed as often as it is active, if no built-in file has its name and version. -/
theorem Opened.count_other (h : Opened active factory) (ha : a ∈ active) (hf : a ∉ factory) :
    (allInfos active factory).countP (fun i => i.packagePath == a.path) =
      if contains factory a then 0 else active.count a := by
  rw [countP_allInfos]
  have hnone : factory.countP (fun f => f.path == a.path) = 0 := by
    rw [List.countP_eq_zero]
    intro f hm hp
    obtain rfl := h.same f (List.mem_append_right _ hm) a (List.mem_append_left _ ha)
      (by simpa using hp)
    exact hf hm
  have hcount : active.countP (fun b => !contains factory b && b.path == a.path) =
      active.countP (fun b => !contains factory a && b == a) := by
    apply List.countP_congr
    intro b hb
    have heq : b.path = a.path ↔ b = a :=
      ⟨h.same b (List.mem_append_left _ hb) a (List.mem_append_left _ ha), congrArg _⟩
    simp only [Bool.and_eq_true, Bool.not_eq_true', beq_iff_eq, heq]
    constructor
    · rintro ⟨hc, rfl⟩
      exact ⟨hc, rfl⟩
    · rintro ⟨hc, rfl⟩
      exact ⟨hc, rfl⟩
  rw [hnone, hcount]
  cases contains factory a with
  | true => simp
  | false =>
    rw [Nat.zero_add]
    rfl

/-- **The two lists agree exactly when** the active packages are built-in files or have nothing in
common with them. -/
theorem agree_iff (h : Opened active factory) :
    Agree (activeInfos active) (allInfos active factory) ↔ FlagsAgree active factory := by
  constructor
  · intro hagree
    constructor
    · intro a ha
      by_cases hf : a ∈ factory
      · exact Or.inl hf
      right
      have hone := (h.count_other ha hf).symm.trans (hagree.once _ (mem_activeInfos.2 ⟨a, ha, rfl⟩))
      cases hc : contains factory a with
      | true =>
        rw [hc] at hone
        cases hone
      | false =>
        rw [hc] at hone
        refine ⟨?_, rfl, hone⟩
        have hflag := (hagree.isFactory _ (mem_allInfos.2 (Or.inr ⟨a, ha, hc, rfl⟩))).not
        exact Bool.eq_false_iff.2 (hflag.1 (by simp))
    · intro f hf hc
      obtain ⟨j, hj, _, _, hpath⟩ := (hagree.isActive _ (mem_allInfos.2 (Or.inl ⟨f, hf, rfl⟩))).1 hc
      obtain ⟨a, ha, rfl⟩ := mem_activeInfos.1 hj
      obtain rfl := h.same a (List.mem_append_left _ ha) f (List.mem_append_right _ hf) hpath
      exact ha
  · intro hflags
    constructor
    · intro j hj
      obtain ⟨a, ha, rfl⟩ := mem_activeInfos.1 hj
      by_cases hf : a ∈ factory
      · exact h.once_builtin ha hf
      · obtain ⟨_, hc, hone⟩ := (hflags.ofActive a ha).resolve_left hf
        refine (h.count_other ha hf).trans ?_
        rw [hc]
        exact hone
    · intro j hj
      obtain ⟨a, ha, rfl⟩ := mem_activeInfos.1 hj
      rcases hflags.ofActive a ha with hf | ⟨_, hc, _⟩
      · exact ⟨_, mem_allInfos.2 (Or.inl ⟨a, hf, rfl⟩), rfl, rfl, rfl⟩
      · exact ⟨_, mem_allInfos.2 (Or.inr ⟨a, ha, hc, rfl⟩), rfl, rfl, rfl⟩
    · intro i hi
      rcases mem_allInfos.1 hi with ⟨f, hf, rfl⟩ | ⟨a, ha, _, rfl⟩
      · constructor
        · intro hc
          exact ⟨_, mem_activeInfos.2 ⟨f, hflags.ofFactory f hf hc, rfl⟩, rfl, rfl, rfl⟩
        · rintro ⟨j, hj, hname, hversion, _⟩
          obtain ⟨a, ha, rfl⟩ := mem_activeInfos.1 hj
          exact contains_iff.2 ⟨a, ha, hname.symm, hversion.symm⟩
      · exact iff_of_true rfl ⟨_, mem_activeInfos.2 ⟨a, ha, rfl⟩, rfl, rfl, rfl⟩
    · intro i hi
      rcases mem_allInfos.1 hi with ⟨f, hf, rfl⟩ | ⟨a, ha, hc, rfl⟩
      · exact iff_of_true rfl (h.builtin f hf)
      · apply iff_of_false
        · simp
        · rcases hflags.ofActive a ha with hf | ⟨hpath, _⟩
          · rw [contains_self hf] at hc
            cases hc
          · exact Bool.eq_false_iff.1 hpath

end Agree

/-! ## What the calls read -/

/-- The package files of a directory, without the flattened ones. -/
def World.packagePaths (w : World) (dir : String) : List String :=
  match w.dirs dir with
  | none => []
  | some d => (d.entries.filter fun e => isApexEntry false (World.dirEntry dir e)).map fun e =>
    join dir e.1

def World.openAll (w : World) (paths : List String) : List ApexFile :=
  paths.filterMap fun p => (w.openApex p).toOption

/-- The package files that `getFactoryPackages` opens. -/
def World.factoryFiles (w : World) : List ApexFile :=
  kApexPackageBuiltinDirs.flatMap fun dir => w.openAll (w.packagePaths dir)

/-- The built-in directories are not mounted over. -/
def World.BuiltinsPlain (w : World) : Prop := ∀ dir ∈ kApexPackageBuiltinDirs, w.mounted dir = none

section Reads

variable {w : World} {dir p : String} {apex : ApexFile} {I : World → Prop}

theorem mem_openAll {paths : List String} :
    apex ∈ w.openAll paths ↔ ∃ p ∈ paths, w.openApex p = .ok apex := by
  unfold World.openAll
  rw [List.mem_filterMap]
  constructor
  · rintro ⟨p, hp, ho⟩
    cases hr : w.openApex p with
    | error e =>
      rw [hr] at ho
      cases ho
    | ok a =>
      rw [hr] at ho
      cases ho
      exact ⟨p, hp, hr⟩
  · rintro ⟨p, hp, ho⟩
    refine ⟨p, hp, ?_⟩
    rw [ho]
    rfl

/-- What was opened is found again under its path. -/
theorem openApex_of_mem_openAll {paths : List String} (h : apex ∈ w.openAll paths) :
    w.openApex apex.path = .ok apex := by
  obtain ⟨p, _, ho⟩ := mem_openAll.1 h
  rwa [World.openApex_path ho]

theorem map_path_openAll (paths : List String) :
    ((w.openAll paths).map (·.path)).Sublist paths := by
  unfold World.openAll
  induction paths with
  | nil => exact List.Sublist.refl _
  | cons p paths ih =>
    rw [List.filterMap_cons]
    cases ho : w.openApex p with
    | error e => exact ih.cons p
    | ok apex =>
      obtain rfl := World.openApex_path ho
      exact ih.cons_cons apex.path

theorem mem_packagePaths (h : p ∈ w.packagePaths dir) : dirName p = dir := by
  unfold World.packagePaths at h
  split at h
  · cases h
  · rename_i d _
    obtain ⟨e, he, rfl⟩ := List.mem_map.1 h
    exact dirName_join (d.noSlash e (List.mem_filter.1 he).1) dir

theorem packagePaths_nodup (w : World) (dir : String) : (w.packagePaths dir).Nodup := by
  unfold World.packagePaths
  split
  · exact List.nodup_nil
  · rename_i d _
    have hsub : ((d.entries.filter fun e => isApexEntry false (World.dirEntry dir e)).map
        Prod.fst).Nodup :=
      d.nodup.sublist (List.filter_sublist.map _)
    have hmap := hsub.map fun n n' (h : join dir n = join dir n') => join_right_inj.1 h
    rwa [List.map_map] at hmap

theorem factoryFiles_paths (w : World) : (w.factoryFiles.map (·.path)).Nodup := by
  unfold World.factoryFiles
  rw [List.map_flatMap, List.nodup_flatMap]
  constructor
  · intro dir _
    exact (packagePaths_nodup w dir).sublist (map_path_openAll _)
  · apply List.Pairwise.imp_of_mem ?_ (show kApexPackageBuiltinDirs.Nodup by decide)
    intro d d' _ _ hne p hp hp'
    have hd := mem_packagePaths ((map_path_openAll _).subset hp)
    have hd' := mem_packagePaths ((map_path_openAll _).subset hp')
    exact hne (hd.symm.trans hd')

theorem mem_factoryFiles (h : apex ∈ w.factoryFiles) :
    w.openApex apex.path = .ok apex ∧ isPathForBuiltinApexes apex.path = true := by
  obtain ⟨dir, hdir, hm⟩ := List.mem_flatMap.1 h
  refine ⟨openApex_of_mem_openAll hm, ?_⟩
  have hp : apex.path ∈ w.packagePaths dir :=
    (map_path_openAll _).subset (List.mem_map.2 ⟨apex, hm, rfl⟩)
  unfold World.packagePaths at hp
  split at hp
  · cases hp
  · obtain ⟨e, _, he⟩ := List.mem_map.1 hp
    unfold isPathForBuiltinApexes
    rw [← he]
    exact List.any_eq_true.2 ⟨dir, hdir, startsWith_of_below (below_join _ _)⟩

theorem mem_activeFiles (h : apex ∈ w.activeFiles) : w.openApex apex.path = .ok apex := by
  unfold World.activeFiles World.openLatest at h
  obtain ⟨e, _, ho⟩ := List.mem_filterMap.1 h
  cases hr : w.openApex e.data.fullPath with
  | error err =>
    rw [hr] at ho
    cases ho
  | ok a =>
    rw [hr] at ho
    cases ho
    rwa [World.openApex_path hr]

theorem opened_files (w : World) : Opened w.activeFiles w.factoryFiles where
  same x hx y hy hp := by
    have hopen : ∀ z ∈ w.activeFiles ++ w.factoryFiles, w.openApex z.path = .ok z := by
      intro z hz
      rcases List.mem_append.1 hz with hz | hz
      · exact mem_activeFiles hz
      · exact (mem_factoryFiles hz).1
    have ho := hopen x hx
    rw [hp, hopen y hy] at ho
    cases ho
    rfl
  paths := factoryFiles_paths w
  builtin f hf := (mem_factoryFiles hf).2

theorem Opened.perm {active factory factory' : List ApexFile} (h : Opened active factory)
    (hp : factory.Perm factory') : Opened active factory' where
  same x hx y hy := h.same x ((hp.append_left active).mem_iff.2 hx) y
    ((hp.append_left active).mem_iff.2 hy)
  paths := (hp.map _).nodup_iff.1 h.paths
  builtin f hf := h.builtin f (hp.mem_iff.2 hf)

/-- No outside trouble, so everything can be read. -/
abbrev readingKernel : Kernel Sys Sys.Res World := kernel .off Sys.NoFault

/-- The loop over the files of a directory. -/
theorem wp_factoryPackagesStep (paths : List String) (acc : List ApexFile) (w : World) :
    wp readingKernel (fun _ => True) (paths.foldlM factoryPackagesStep acc)
      (fun x w' => x = .ok (acc ++ w.openAll paths) ∧ w' = w) w := by
  unfold World.openAll
  induction paths generalizing acc with
  | nil => exact ⟨trivial, by simp, rfl⟩
  | cons p paths ih =>
    rw [List.foldlM_cons]
    refine wp_bind.2 (wp_bind.2 (wp_attempt.2 (wp_openApex_eq readsPackages_noFault trivial ?_)))
    rw [List.filterMap_cons]
    dsimp only [Then]
    cases w.openApex p with
    | error m => exact ⟨trivial, ih acc⟩
    | ok apex =>
      refine ⟨trivial, (ih (acc ++ [apex])).imp ?_⟩
      rintro x w' _ ⟨rfl, rfl⟩
      exact ⟨by simp [Except.toOption], rfl⟩

theorem wp_factoryPackagesDir (hm : w.mounted dir = none) (acc : List ApexFile) :
    wp readingKernel (fun _ => True) (factoryPackagesDir acc dir)
      (fun x w' => w' = w ∧ ∃ l, x = .ok (acc ++ l) ∧ l.Perm (w.openAll (w.packagePaths dir)))
      w := by
  unfold factoryPackagesDir
  refine wp_bind.2 (wp_attempt.2 ?_)
  apply wp_readDir Sys.NoFault.commits.reads hm trivial
  · intro hd e
    refine ⟨trivial, rfl, [], by simp, ?_⟩
    unfold World.packagePaths
    rw [hd]
    exact List.Perm.refl _
  · intro d es hd hperm
    refine (wp_factoryPackagesStep _ acc w).imp ?_
    rintro x w' _ ⟨rfl, rfl⟩
    refine ⟨rfl, _, rfl, ?_⟩
    unfold World.packagePaths World.openAll
    rw [hd]
    exact ((hperm.filter _).map _).filterMap _

theorem wp_getFactoryPackages (hm : w.BuiltinsPlain) :
    wp readingKernel (fun _ => True) getFactoryPackages
    (fun x w' => w' = w ∧ ∃ l, x = .ok l ∧ l.Perm w.factoryFiles) w := by
  unfold getFactoryPackages World.factoryFiles
  suffices h : ∀ (dirs : List String), (∀ d ∈ dirs, w.mounted d = none) → ∀ acc : List ApexFile,
      wp readingKernel (fun _ => True) (dirs.foldlM factoryPackagesDir acc) (fun x w' => w' = w ∧
        ∃ l, x = .ok (acc ++ l) ∧ l.Perm (dirs.flatMap fun dir => w.openAll (w.packagePaths dir)))
            w by
    apply (h kApexPackageBuiltinDirs hm []).imp
    rintro x w' _ ⟨hw, l, hx, hl⟩
    exact ⟨hw, l, by simpa using hx, hl⟩
  intro dirs
  induction dirs with
  | nil =>
    intro _ acc
    exact ⟨trivial, rfl, [], by simp, List.Perm.refl _⟩
  | cons dir dirs ih =>
    intro hdirs acc
    rw [List.foldlM_cons]
    refine wp_bind.2 ((wp_factoryPackagesDir (hdirs dir List.mem_cons_self) acc).imp ?_)
    rintro x w' _ ⟨rfl, l, rfl, hl⟩
    apply (ih (fun d hd => hdirs d (List.mem_cons_of_mem _ hd)) (acc ++ l)).imp
    rintro x w'' _ ⟨rfl, l', rfl, hl'⟩
    exact ⟨rfl, l ++ l', by rw [List.append_assoc], hl.append hl'⟩

/-- What the two calls of the service return. -/
theorem wp_service_getActivePackages (w : World) : wp readingKernel (fun _ => True)
    ApexService.getActivePackages (fun x _ => x = .ok (activeInfos w.activeFiles)) w := by
  refine wp_bind.2 ((wp_getActivePackages readsPackages_noFault trivial).imp ?_)
  rintro x w' _ ⟨rfl, rfl⟩
  exact ⟨trivial, rfl⟩

theorem wp_service_getAllPackages (hm : w.BuiltinsPlain) : wp readingKernel (fun _ => True)
    ApexService.getAllPackages (fun x _ => ∃ factory, x = .ok (allInfos w.activeFiles factory) ∧
      factory.Perm w.factoryFiles) w := by
  refine wp_bind.2 ((wp_getActivePackages readsPackages_noFault trivial).imp ?_)
  rintro x w' _ ⟨rfl, rfl⟩
  refine wp_bind.2 ((wp_getFactoryPackages hm).imp ?_)
  rintro x w'' _ ⟨rfl, factory, rfl, hperm⟩
  exact ⟨trivial, factory, rfl, hperm⟩

theorem answered_getActivePackages : getActivePackages.Uses Sys.Answered := by
  refine uses_exec_bind (fun _ => rfl) fun db => uses_foldlM _ _ fun acc e _ => ?_
  refine uses_ite (uses_bind (uses_attempt (uses_exec_bind (fun _ => rfl) fun r => uses_ofExcept r))
    fun x => ?_) trivial
  cases x <;> trivial

theorem answered_getFactoryPackages : getFactoryPackages.Uses Sys.Answered := by
  refine uses_foldlM _ _ fun acc dir _ => ?_
  refine uses_bind (uses_attempt (uses_readDir fun _ => rfl)) fun x => ?_
  cases x with
  | error e => trivial
  | ok files =>
    refine uses_foldlM _ _ fun acc p _ => ?_
    refine uses_bind (uses_attempt (uses_exec_bind (fun _ => rfl) fun r => uses_ofExcept r))
      fun x => ?_
    cases x <;> trivial

/-- Both calls come to an end, and what they return fits the state. -/
theorem flagsAgree_of_runs (hm : w.BuiltinsPlain)
    (h : ∀ active all w₁ w₂, Ends readingKernel ApexService.getActivePackages w (.ok active) w₁ →
      Ends readingKernel ApexService.getAllPackages w (.ok all) w₂ → Agree active all) :
    FlagsAgree w.activeFiles w.factoryFiles := by
  obtain ⟨x, w₁, hactive, rfl⟩ := exists_ends (wp_service_getActivePackages w)
    (uses_bind answered_getActivePackages fun _ => trivial)
  obtain ⟨y, w₂, hall, factory, rfl, hperm⟩ := exists_ends (wp_service_getAllPackages hm)
    (uses_bind answered_getActivePackages fun _ => uses_bind answered_getFactoryPackages
      fun _ => trivial)
  have hopened := (opened_files w).perm hperm.symm
  exact (FlagsAgree.perm hperm).1 ((agree_iff hopened).1 (h _ _ _ _ hactive hall))

end Reads

/-- **The two calls of the service agree exactly when** the active packages are built-in files or
have nothing in common with them. -/
theorem getAllPackages_agrees_iff {w : World} (hm : w.BuiltinsPlain) :
    (∀ active all w₁ w₂, Ends readingKernel ApexService.getActivePackages w (.ok active) w₁ →
      Ends readingKernel ApexService.getAllPackages w (.ok all) w₂ → Agree active all) ↔
    FlagsAgree w.activeFiles w.factoryFiles := by
  constructor
  · exact flagsAgree_of_runs hm
  · intro hflags active all w₁ w₂ hactive hall
    cases (wp_service_getActivePackages w).ends hactive
    obtain ⟨factory, hx, hperm⟩ := (wp_service_getAllPackages hm).ends hall
    cases hx
    exact (agree_iff ((opened_files w).perm hperm.symm)).2 ((FlagsAgree.perm hperm.symm).1 hflags)

/-- Version 1 is built in, version 2 is active. -/
def updatedPackage : World := { World.ofDirs
  [ ("/system/apex", systemApexDir),
    (kActiveApexPackagesDataDir, stagedApexDir) ] with
  db := [⟨"a", ⟨"/dev/block/loop0", "/data/apex/active/a@2.apex", "/apex/a@2", "a@2"⟩, true⟩] }

theorem getAllPackages_agrees_iff_updated :
    (∀ active all w₁ w₂, Ends readingKernel ApexService.getActivePackages updatedPackage
      (.ok active) w₁ →
      Ends readingKernel ApexService.getAllPackages updatedPackage (.ok all) w₂ →
        Agree active all) ↔
    FlagsAgree updatedPackage.activeFiles updatedPackage.factoryFiles :=
  getAllPackages_agrees_iff fun _ _ => rfl

/-- A flattened package is active. -/
def flattenedPackage : World := { World.ofDirs
  [ ("/system/apex", ⟨0o755, [("a", .dir)], by decide, by decide⟩),
    ("/system/apex/a", ⟨0o755,
      [("apex_manifest.json", .file ⟨1, .manifest (plainManifest 1 version_one)⟩)],
      by decide, by decide⟩) ] with
  db := [⟨"a", ⟨"", "/system/apex/a", "/apex/a@1", ""⟩, true⟩] }

/-- A flattened package is built-in for one call and not for the other. -/
theorem getAllPackages_disagrees : ¬ ∀ w : World, w.BuiltinsPlain → ∀ active all w₁ w₂,
    Ends readingKernel ApexService.getActivePackages w (.ok active) w₁ →
      Ends readingKernel ApexService.getAllPackages w (.ok all) w₂ → Agree active all := by
  intro hclaim
  have hm : flattenedPackage.BuiltinsPlain := fun _ _ => rfl
  have hflags := flagsAgree_of_runs hm (hclaim flattenedPackage hm)
  have hactive : (⟨"/system/apex/a", true, 0, 0, plainManifest 1 (by decide), []⟩ : ApexFile) ∈
      flattenedPackage.activeFiles := by
    decide
  have hfactory : flattenedPackage.factoryFiles = [] := by
    decide
  rcases hflags.ofActive _ hactive with hf | ⟨hpath, _⟩
  · rw [hfactory] at hf
    cases hf
  · revert hpath
    decide

end Apexd
