import Apexd.VersionMounts
import Apexd.PopulateResult
import Mathlib.Data.List.DropRight

/-!
# The mounted versions as `/proc/mounts` shows them

What `PopulateFromMounts` can tell of a mount from its line, from sysfs and from the inode of its
mount point.

* `mountLine` — the line of a mount; a mount that is passed over has a line that is passed over.
* `World.Restartable` — the table over what the calls leave as it was; `World.Traceable` — the
  packages whose mounts can be told apart.
* `Mount.Resolved` — what a mount was resolved to; `versionLine` — the line of a version.
* `SystemView.Shows.flattenedPath_dir`, `SystemView.Shows.flattenedPath_image` — flattened packages
  and images.
-/

set_option autoImplicit false

namespace Apexd

open Text Prog

/-! ## Text -/

theorem trim_trim (s : String) : trim (trim s) = trim s := by
  have htrim : ∀ s, (trim s).toList = (s.toList.dropWhile isSpace).rdropWhile isSpace := fun s =>
    String.toList_ofList
  rw [← String.toList_inj, htrim (trim s)]
  -- a trimmed text does not begin with a blank
  have hfirst : (trim s).toList.dropWhile isSpace = (trim s).toList := by
    cases hl : (trim s).toList with
    | nil => rfl
    | cons c l =>
      have hpre : c :: l <+: s.toList.dropWhile isSpace := by
        rw [← hl, htrim]
        exact List.rdropWhile_prefix isSpace _
      obtain ⟨rest, hrest⟩ := hpre
      have hne : s.toList.dropWhile isSpace ≠ [] := by simp [← hrest]
      have hhead := List.head_dropWhile_not isSpace hne
      simp only [← hrest, List.cons_append, List.head_cons] at hhead
      exact dropWhile_isSpace_cons hhead
  rw [hfirst, htrim s, List.rdropWhile_idempotent]

namespace World

/-- How one character is written. -/
def mangleChar : Char → List Char
  | ' ' => ['\\', '0', '4', '0']
  | '\t' => ['\\', '0', '1', '1']
  | '\n' => ['\\', '0', '1', '2']
  | '\\' => ['\\', '1', '3', '4']
  | c => [c]

theorem toList_mangle (s : String) : (mangle s).toList = s.toList.flatMap mangleChar :=
    String.toList_ofList

theorem mem_mangleChar {c x : Char} (hx : x ∉ ['\\', '0', '1', '2', '3', '4']) :
    x ∈ mangleChar c ↔ x = c ∧ c ∉ [' ', '\t', '\n', '\\'] := by
  unfold mangleChar
  split <;> simp_all

theorem mangleChar_eq {c : Char} (h : c ∉ [' ', '\t', '\n', '\\']) : mangleChar c = [c] := by
  unfold mangleChar
  split <;> simp_all

/-- A path without blanks and backslashes stays as it is. -/
theorem mangle_eq_self {s : String} (h : ∀ c ∈ [' ', '\t', '\n', '\\'], c ∉ s.toList) :
    mangle s = s := by
  rw [← String.toList_inj, toList_mangle]
  have hone : ∀ c ∈ s.toList, mangleChar c = [c] := fun c hc => mangleChar_eq fun hs => h c hs hc
  rw [List.flatMap_congr hone]
  simp

theorem mem_mangle {s : String} {x : Char} (hx : x ∉ ['\\', '0', '1', '2', '3', '4'])
    (hs : x ∉ [' ', '\t', '\n', '\\']) : x ∈ (mangle s).toList ↔ x ∈ s.toList := by
  rw [toList_mangle, List.mem_flatMap]
  constructor
  · rintro ⟨c, hc, hm⟩
    obtain ⟨rfl, _⟩ := (mem_mangleChar hx).1 hm
    exact hc
  · intro h
    exact ⟨x, h, (mem_mangleChar hx).2 ⟨rfl, hs⟩⟩

theorem blank_notMem_mangle (s : String) : ' ' ∉ (mangle s).toList := by
  rw [toList_mangle, List.mem_flatMap]
  rintro ⟨c, _, hm⟩
  obtain ⟨rfl, hs⟩ := (mem_mangleChar (by decide)).1 hm
  exact hs (by decide)

theorem noSlash_mangle {s : String} (h : NoSlash s) : NoSlash (mangle s) := fun hm =>
  h ((mem_mangle (by decide) (by decide)).1 hm)

theorem mangle_join (d n : String) : mangle (join d n) = join (mangle d) (mangle n) := by
  rw [← String.toList_inj, toList_mangle, toList_join, toList_join, toList_mangle, toList_mangle,
    List.flatMap_append, List.flatMap_cons]
  rfl

/-- Only `/apex` is written as `/apex`. -/
theorem mangle_inj_plain {s t : String} (ht : '\\' ∉ t.toList) (h : mangle s = t) : s = t := by
  refine (mangle_eq_self fun c hc hs => ht ?_).symm.trans h
  rw [← h, toList_mangle, List.mem_flatMap]
  refine ⟨c, hs, ?_⟩
  simp only [List.mem_cons, List.not_mem_nil, or_false] at hc
  rcases hc with rfl | rfl | rfl | rfl <;> decide

theorem dirName_mangle {p d : String} (hd : '\\' ∉ d.toList) (hne : d ≠ "")
    (h : dirName (mangle p) = d) : dirName p = d := by
  by_cases hs : NoSlash p
  · rw [dirName_eq_empty (noSlash_mangle hs)] at h
    exact absurd h.symm hne
  · have hs : '/' ∈ p.toList := by simpa [NoSlash] using hs
    have hp := eq_join hs
    rw [hp, mangle_join, dirName_join (noSlash_mangle (noSlash_baseName p))] at h
    exact mangle_inj_plain hd h

end World

/-- One line of `/proc/mounts`. -/
def mountLine (m : Mount) :
    String := World.mangle m.block ++ " " ++ World.mangle m.mountPoint ++ " ext4 ro 0 0"

theorem World.procMounts_eq (w : World) : w.procMounts = w.mounts.reverse.map mountLine := rfl

theorem parseMountInfo_mountLine (m : Mount) :
    parseMountInfo (mountLine m) = (World.mangle m.block, World.mangle m.mountPoint) := by
  have hline : mountLine m = World.mangle m.block ++ String.singleton ' ' ++
      (World.mangle m.mountPoint ++ String.singleton ' ' ++ "ext4 ro 0 0") := by
    have hrest : " ext4 ro 0 0" = String.singleton ' ' ++ "ext4 ro 0 0" := by decide
    unfold mountLine
    rw [hrest, show " " = String.singleton ' ' from rfl]
    simp only [String.append_assoc]
  unfold parseMountInfo
  rw [hline, split_append (World.blank_notMem_mangle _), split_append (World.blank_notMem_mangle _)]

/-- A mount that is passed over has a line that is passed over. -/
theorem Mount.Passed.line {m : Mount} (h : m.Passed) :
    dirName (parseMountInfo (mountLine m)).2 ≠ kApexRoot ∨
    isActiveMountPoint (parseMountInfo (mountLine m)).2 = true := by
  rw [parseMountInfo_mountLine]
  refine h.imp (fun hd hm => hd (World.dirName_mangle (by decide) (by decide) hm)) fun ha => ?_
  unfold isActiveMountPoint at ha ⊢
  rw [Bool.not_eq_true', ← Bool.not_eq_true, List.contains_iff_mem] at ha ⊢
  rwa [World.mem_mangle (by decide) (by decide)]

/-! ## What the table shows of the packages -/

/-- What the calls leave as it was, and where the known packages are mounted. -/
structure World.KeptFrom (w₀ w : World) : Prop where
  files : ∀ q, w.file? q = w₀.file? q
  dirs : ∀ p, p ≠ kApexRoot → belowApex p = false → w.dirs p = w₀.dirs p
  points : ∀ e ∈ w.db, belowApex e.data.mountPoint = true

/-- A package may be mounted on its versioned mount point: a flattened one of the system, or an
image. -/
def World.MountsFrom (w₀ : World) (mountPoint path : String) (f : Option File) : Prop :=
  ∃ apex, w₀.openApex path = .ok apex ∧ mountPoint = getPackageMountPoint apex.manifest ∧
    match f with
    | some f => w₀.file? path = some f
    | none => apex.flattened = true ∧ isPathForBuiltinApexes path = true

abbrev World.Restartable (w₀ w : World) : Prop := w.Tabled w₀.MountsFrom w₀.KeptFrom

/-- What `PopulateFromMounts` can read back: names of directories that `/proc/mounts` shows as they
are, versions it reads as a number, paths and ids that differ by more than blanks at their ends,
flattened packages where it looks. -/
structure World.Traceable (w : World) : Prop where
  components : ∀ p a, w.openApex p = .ok a → Component a.manifest.name
  names : ∀ p a, w.openApex p = .ok a → ∀ c ∈ ['@', '/', ' ', '\t', '\n', '\\'],
    c ∉ a.manifest.name.toList
  versions : ∀ p a, w.openApex p = .ok a → 0 < a.manifest.version ∧ a.manifest.version < 2 ^ 31
  paths : ∀ p q a b, w.openApex p = .ok a → w.openApex q = .ok b →
    a.manifest.name = b.manifest.name → trim p = trim q → p = q
  ids : ∀ p q a b, w.openApex p = .ok a → w.openApex q = .ok b →
    trim (getPackageId a.manifest) = trim (getPackageId b.manifest) →
      getPackageId a.manifest = getPackageId b.manifest
  flattened : ∀ p a, w.openApex p = .ok a → a.flattened = true → isPathForBuiltinApexes p = true →
    ∃ dir ∈ kApexPackageBuiltinDirs, ∃ n d x, p = join dir n ∧ w.dirs dir = some d ∧
      (n, x) ∈ d.entries

section Resolve

variable {s : SystemView} {w₀ w : World} {m : Mount} {apex : ApexFile}

theorem World.KeptFrom.openApex (h : w₀.KeptFrom w) : w.openApex = w₀.openApex :=
  funext (World.openApex_of_files h.files)

/-- What a version was resolved to. -/
structure Mount.Resolved (w₀ : World) (m : Mount) (a : ResolvedMount) (apex : ApexFile) : Prop where
  opens : w₀.openApex apex.path = .ok apex
  point : m.mountPoint = getPackageMountPoint apex.manifest
  name : a.name = apex.manifest.name
  version : a.version = apex.manifest.version
  dataPoint : a.data.mountPoint = m.mountPoint
  path : a.data.fullPath = apex.path ∨ a.data.fullPath = trim apex.path
  loop : a.data.loopName = "" ∨ m.loop = some a.data.loopName
  device : a.data.deviceName = "" ∨ a.data.deviceName = trim (getPackageId apex.manifest)
  shows : w₀.ShowsPath m apex.path

theorem Mount.Resolved.trim_path {a : ResolvedMount} (h : m.Resolved w₀ a apex) :
    trim a.data.fullPath = trim apex.path := by
  rcases h.path with hp | hp
  · rw [hp]
  · rw [hp, trim_trim]

/-- Two versions in the table are apart. -/
theorem Mount.Resolved.apart (ht : w₀.Traceable) {m' : Mount} {a b : ResolvedMount}
    {apex' : ApexFile}
    (ha : m.Resolved w₀ a apex) (hb : m'.Resolved w₀ b apex')
    (hpoint : m.mountPoint ≠ m'.mountPoint)
    (hloop : m.loop ≠ none → m.loop ≠ m'.loop) : Apart a b := by
  have hid : getPackageId apex.manifest ≠ getPackageId apex'.manifest := fun he =>
    hpoint (ha.point.trans ((congrArg (join kApexRoot) he).trans hb.point.symm))
  refine ⟨fun hn hv => hid ?_, fun hn hp => ?_, fun hne he => ?_, fun hne he => ?_⟩
  · unfold getPackageId
    rw [← ha.name, ← ha.version, ← hb.name, ← hb.version, hn, hv]
  · have hpath : apex.path = apex'.path := by
      refine ht.paths _ _ _ _ ha.opens hb.opens (ha.name.symm.trans (hn.trans hb.name)) ?_
      rw [← ha.trim_path, ← hb.trim_path, hp]
    have hopen := ha.opens
    rw [hpath, hb.opens] at hopen
    cases hopen
    exact hid rfl
  · have hl := ha.loop.resolve_left hne
    have hl' := hb.loop.resolve_left (he ▸ hne)
    exact hloop (by simp [hl]) (hl.trans ((congrArg some he).trans hl'.symm))
  · have hd := ha.device.resolve_left hne
    have hd' := hb.device.resolve_left (he ▸ hne)
    exact hid (ht.ids _ _ _ _ ha.opens hb.opens (hd.symm.trans (he.trans hd')))

/-- The line of a version. -/
def versionLine (m : Mount) (apex : ApexFile) (ht : w₀.Traceable)
    (ho : w₀.openApex apex.path = .ok apex) (hblock : ' ' ∉ m.block.toList) : PackageMount :=
  .ofNat m.block apex.manifest.name apex.manifest.version.toNat "ext4 ro 0 0" hblock
    (fun c hc => ht.names _ _ ho c (by revert hc; simp; tauto))
    (by
      have := ht.versions _ _ ho
      omega)

theorem versionLine_line (ht : w₀.Traceable) (ho : w₀.openApex apex.path = .ok apex)
    (hm : m.mountPoint = getPackageMountPoint apex.manifest)
    (hblock : ∀ c ∈ [' ', '\t', '\n', '\\'], c ∉ m.block.toList) :
    (versionLine m apex ht ho (hblock _ (by simp))).line = mountLine m ∧
      (versionLine m apex ht ho (hblock _ (by simp))).mountPoint = m.mountPoint := by
  have hversion : toString apex.manifest.version.toNat = toString apex.manifest.version := by
    have hpos := (ht.versions _ _ ho).1
    conv_rhs => rw [← Int.toNat_of_nonneg (le_of_lt hpos)]
    rfl
  have hpoint : (versionLine m apex ht ho (hblock _ (by simp))).mountPoint = m.mountPoint := by
    show join kApexRoot (apex.manifest.name ++ "@" ++ toString apex.manifest.version.toNat) = _
    rw [hversion, hm]
    rfl
  refine ⟨?_, hpoint⟩
  have hplain : ∀ c ∈ [' ', '\t', '\n', '\\'], c ∉ m.mountPoint.toList := by
    intro c hc hmem
    rw [hm] at hmem
    unfold getPackageMountPoint getPackageId at hmem
    rw [toList_join, String.toList_append, String.toList_append] at hmem
    simp only [List.mem_append, List.mem_cons] at hmem
    have hc' : c ∈ ['@', '/', ' ', '\t', '\n', '\\'] := by
      revert hc
      simp
      tauto
    rcases hmem with h | h | (h | h) | h
    · revert c
      simp [kApexRoot]
    · subst h
      revert hc
      decide
    · exact ht.names _ _ ho c hc' h
    · revert c
      simp
    · rcases mem_toList_int h with rfl | hd
      · revert hc
        decide
      · revert hc hd
        simp only [List.mem_cons, List.not_mem_nil, or_false]
        rintro (rfl | rfl | rfl | rfl) <;> decide
  unfold PackageMount.line mountLine
  rw [hpoint, World.mangle_eq_self hplain, World.mangle_eq_self hblock]
  show m.block ++ " " ++ (m.mountPoint ++ " " ++ "ext4 ro 0 0") = _
  rw [show " ext4 ro 0 0" = " " ++ "ext4 ro 0 0" from by decide]
  simp only [String.append_assoc]

/-! ## Devices in sysfs -/

theorem plain_append_nat {t : String} (n : Nat) (h : ∀ c ∈ [' ', '\t', '\n', '\\'], c ∉ t.toList) :
    ∀ c ∈ [' ', '\t', '\n', '\\'], c ∉ (t ++ toString n).toList := by
  intro c hc hm
  rw [String.toList_append, List.mem_append] at hm
  rcases hm with hm | hm
  · exact h c hc hm
  · have hd : c.isDigit := by
      rw [show (toString n).toList = Nat.toDigits 10 n from Nat.toList_repr] at hm
      exact Nat.isDigit_of_mem_toDigits (by decide) (by decide) hm
    revert hc hd
    simp only [List.mem_cons, List.not_mem_nil, or_false]
    rintro (rfl | rfl | rfl | rfl) <;> decide

theorem noSlash_append_nat {t : String} (n : Nat) (h : NoSlash t) : NoSlash (t ++ toString n) := by
  intro hm
  rw [String.toList_append, List.mem_append] at hm
  rcases hm with hm | hm
  · exact h hm
  · exact noSlash_int n hm

theorem baseName_loopName (n : Nat) : baseName (loopName n) = "loop" ++ toString n := by
  have hj : loopName n = join "/dev/block" ("loop" ++ toString n) := by
    unfold loopName join
    rw [← String.append_assoc]
    rfl
  rw [hj, baseName_join (noSlash_append_nat n (by decide))]

theorem baseName_dmPath (n : Nat) : baseName (dmPath n) = "dm-" ++ toString n := by
  have hj : dmPath n = join "/dev/block" ("dm-" ++ toString n) := by
    unfold dmPath join
    rw [← String.append_assoc]
    rfl
  rw [hj, baseName_join (noSlash_append_nat n (by decide))]

theorem devPath_loopName (n : Nat) : devPath (loopName n) = loopName n := by
  unfold devPath
  rw [baseName_loopName]
  unfold loopName join
  rw [← String.append_assoc]
  rfl

theorem devPath_dmPath (n : Nat) : devPath (dmPath n) = dmPath n := by
  unfold devPath
  rw [baseName_dmPath]
  unfold dmPath join
  rw [← String.append_assoc]
  rfl

theorem blockDeviceType_loopName (n : Nat) : blockDeviceType (loopName n) = .LoopDevice := by
  unfold blockDeviceType
  rw [baseName_loopName, startsWith_append, if_pos rfl]

theorem blockDeviceType_dmPath (n : Nat) : blockDeviceType (dmPath n) = .DeviceMapperDevice := by
  unfold blockDeviceType
  rw [baseName_dmPath, startsWith_append_eq_false _ (by decide) (by decide), startsWith_append,
    if_neg Bool.false_ne_true, if_pos rfl]

/-! ## Flattened packages -/

theorem SystemView.mem_inodeMap {x : Inode × String} :
    x ∈ s.inodeMap ↔ ∃ dir ∈ kApexPackageBuiltinDirs, ∃ l,
    s.listing dir = .ok l ∧ ∃ e ∈ l, e.path = x.2 ∧ s.flattened x.2 = true ∧
      s.inode x.2 = .ok x.1 := by
  have hentry : ∀ (map : InodeMap) (path : String), x ∈ s.inodeMapEntry map path ↔
      x ∈ map ∨ path = x.2 ∧ s.flattened x.2 = true ∧ s.inode x.2 = .ok x.1 := by
    intro map path
    unfold inodeMapEntry
    by_cases hf : s.flattened path = true
    · rw [if_pos hf]
      cases hi : s.inode path with
      | error e =>
        refine (or_iff_left ?_).symm
        rintro ⟨rfl, _, h⟩
        rw [hi] at h
        cases h
      | ok i =>
        rw [List.mem_cons, or_comm]
        refine or_congr_right ⟨?_, ?_⟩
        · rintro rfl
          exact ⟨rfl, hf, hi⟩
        · rintro ⟨rfl, _, h⟩
          rw [hi] at h
          cases h
          rfl
    · rw [if_neg hf]
      refine (or_iff_left ?_).symm
      rintro ⟨rfl, h, _⟩
      exact hf h
  have hentries : ∀ (paths : List String) (map : InodeMap), x ∈ paths.foldl s.inodeMapEntry map ↔
      x ∈ map ∨ x.2 ∈ paths ∧ s.flattened x.2 = true ∧ s.inode x.2 = .ok x.1 := by
    intro paths
    induction paths with
    | nil => simp
    | cons path paths ih =>
      intro map
      rw [List.foldl_cons, ih, hentry, List.mem_cons]
      have : path = x.2 ↔ x.2 = path := eq_comm
      tauto
  have hdirs : ∀ (dirs : List String) (map : InodeMap), x ∈ dirs.foldl s.inodeMapDir map ↔ x ∈ map ∨
    ∃ dir ∈ dirs, ∃ l,
      s.listing dir = .ok l ∧ ∃ e ∈ l, e.path = x.2 ∧ s.flattened x.2 = true ∧
          s.inode x.2 = .ok x.1 := by
    intro dirs
    induction dirs with
    | nil => simp
    | cons dir dirs ih =>
      intro map
      rw [List.foldl_cons, ih, List.exists_mem_cons_iff, ← or_assoc]
      refine or_congr_left ?_
      unfold inodeMapDir
      cases s.listing dir with
      | error e => simp
      | ok l =>
        dsimp only
        rw [hentries]
        refine or_congr_right ⟨?_, ?_⟩
        · rintro ⟨hmem, hrest⟩
          obtain ⟨e, he, hp⟩ := List.mem_map.1 hmem
          exact ⟨l, rfl, e, he, hp, hrest⟩
        · rintro ⟨_, ⟨⟩, e, he, hp, hrest⟩
          exact ⟨List.mem_map.2 ⟨e, he, hp⟩, hrest⟩
  unfold inodeMap
  rw [hdirs]
  simp

/-- A flattened package of the system is its own directory. -/
theorem SystemView.Shows.inodeMap_path (hs : s.Shows w)
    (ho : ∀ m ∈ w.mounts, isPathForBuiltinApexes m.mountPoint = false)
    {x : Inode × String} (hx : x ∈ s.inodeMap) : x.1 = .dir x.2 := by
  obtain ⟨dir, hdir, l, hl, e, he, hp, hflat, hinode⟩ := SystemView.mem_inodeMap.1 hx
  have hlists := hs.listing dir
  rw [hl] at hlists
  obtain ⟨n, _, hpath⟩ := hlists.path e he
  rw [hp] at hpath
  have hbuiltin : isPathForBuiltinApexes x.2 = true := by
    unfold isPathForBuiltinApexes
    refine List.any_eq_true.2 ⟨dir, hdir, ?_⟩
    rw [hpath]
    unfold join
    rw [String.append_assoc]
    exact startsWith_append _ _
  have hnone : w.mounted x.2 = none := by
    refine List.find?_eq_none.2 fun m hm hme => ?_
    have := ho m hm
    rw [eq_of_beq hme, hbuiltin] at this
    cases this
  rw [hs.flattened, World.file?_join (by decide)] at hflat
  rw [hs.inode] at hinode
  unfold World.inodeOf at hinode
  rw [hnone] at hinode
  cases hd : w.dirs x.2 with
  | none =>
    rw [hd] at hflat
    cases hflat
  | some d =>
    rw [hd] at hinode
    exact (Except.ok.inj hinode).symm

/-! ## The mount of each version -/

theorem World.Table.symm {From : String → String → Option File → Prop}
    (h : w.Table From) {a b : Mount}
    (ha : a ∈ w.mounts) (hb : b ∈ w.mounts) (hne : a ≠ b) (hpa : ¬ a.Passed) (hpb : ¬ b.Passed) :
    a.mountPoint ≠ b.mountPoint ∧ (a.loop ≠ none → a.loop ≠ b.loop) := by
  have hsymm : Std.Symm fun a b : Mount => ¬ a.Passed → ¬ b.Passed →
      a.mountPoint ≠ b.mountPoint ∧ (a.loop ≠ none → a.loop ≠ b.loop) := ⟨fun a b h hpb hpa => by
    obtain ⟨hp, hl⟩ := h hpa hpb
    exact ⟨hp.symm, fun hb he => hl (he ▸ hb) he.symm⟩⟩
  exact h.apart.forall ha hb hne hpa hpb

theorem World.Table.mounted {From : String → String → Option File → Prop} (h : w.Table From)
    (hm : m ∈ w.mounts) (hp : ¬ m.Passed) : w.mounted m.mountPoint = some m := by
  cases hf : w.mounted m.mountPoint with
  | none => exact absurd (beq_self_eq_true m.mountPoint) (List.find?_eq_none.1 hf m hm)
  | some x =>
    have hx : x.mountPoint = m.mountPoint :=
      eq_of_beq (List.find?_some (p := fun y : Mount => y.mountPoint == _) hf)
    have hpx : ¬ x.Passed := by
      unfold Mount.Passed
      rwa [hx]
    by_contra hne
    exact (h.symm (List.mem_of_find?_eq_some hf) hm (fun he => hne (congrArg some he)) hpx hp).1 hx

theorem SystemView.Shows.flattenedPath_image (hs : s.Shows w)
    (ho : ∀ m ∈ w.mounts, isPathForBuiltinApexes m.mountPoint = false)
    (hm : w.mounted m.mountPoint = some m) {f : File}
    (hroot : m.root = .image f) : s.flattenedPath m.mountPoint = none := by
  have hinode : s.inode m.mountPoint = .ok (.image f.ino) := by
    obtain ⟨p, b, l, r, o⟩ := m
    obtain rfl : r = .image f := hroot
    rw [hs.inode]
    unfold World.inodeOf
    rw [hm]
  unfold SystemView.flattenedPath
  rw [hinode]
  show s.inodeMap.lookup (.image f.ino) = none
  rw [List.lookup_eq_none_iff]
  intro x hx
  rw [hs.inodeMap_path ho hx]
  rfl

theorem SystemView.Shows.flattenedPath_dir (hs : s.Shows w)
    (ho : ∀ m ∈ w.mounts, isPathForBuiltinApexes m.mountPoint = false)
    (hm : w.mounted m.mountPoint = some m) {p : String}
    (hroot : m.root = .dir p) (hflat : (w.file? (join p kManifestFilename)).isSome = true)
    (hlisted : ∃ dir ∈ kApexPackageBuiltinDirs, ∃ n d x, p = join dir n ∧ w.dirs dir = some d ∧
      (n, x) ∈ d.entries) :
    s.flattenedPath m.mountPoint = some p := by
  have hinode : s.inode m.mountPoint = .ok (.dir p) := by
    obtain ⟨q, b, l, r, o⟩ := m
    obtain rfl : r = .dir p := hroot
    rw [hs.inode]
    unfold World.inodeOf
    rw [hm]
  have hnone : ∀ q, isPathForBuiltinApexes q = true → w.mounted q = none := by
    intro q hq
    refine List.find?_eq_none.2 fun m hm hme => ?_
    have := ho m hm
    rw [eq_of_beq hme, hq] at this
    cases this
  obtain ⟨dir, hdir, n, d, x, rfl, hd, hmem⟩ := hlisted
  have hbuiltin : ∀ t, isPathForBuiltinApexes (dir ++ t) = true := fun t =>
    List.any_eq_true.2 ⟨dir, hdir, startsWith_append _ _⟩
  have hself : s.inode (join dir n) = .ok (.dir (join dir n)) := by
    rw [World.file?_join (by decide)] at hflat
    rw [hs.inode]
    unfold World.inodeOf
    rw [hnone (join dir n) (by unfold join; rw [String.append_assoc]; exact hbuiltin _)]
    cases hd : w.dirs (join dir n) with
    | none =>
      rw [hd] at hflat
      cases hflat
    | some d => rfl
  have hentry : (Inode.dir (join dir n), join dir n) ∈ s.inodeMap := by
    have hlists := hs.listing dir
    unfold World.Lists at hlists
    rw [hnone dir (by simpa using hbuiltin ""), hd] at hlists
    obtain ⟨es, hperm, hl⟩ := hlists
    refine SystemView.mem_inodeMap.2
      ⟨dir, hdir, _, hl, World.dirEntry dir (n, x), ?_, rfl, ?_, hself⟩
    · exact List.mem_map_of_mem (hperm.mem_iff.2 hmem)
    · rw [hs.flattened]
      exact hflat
  unfold SystemView.flattenedPath
  rw [hinode]
  show s.inodeMap.lookup (.dir (join dir n)) = some (join dir n)
  cases hl : s.inodeMap.lookup (.dir (join dir n)) with
  | none =>
    have := List.lookup_eq_none_iff.1 hl _ hentry
    simp at this
  | some q =>
    obtain ⟨l₁, l₂, he, _⟩ := List.lookup_eq_some_iff.1 hl
    have hq := hs.inodeMap_path ho (x := (.dir (join dir n), q)) (by rw [he]; simp)
    injection hq with hq
    rw [hq]

end Resolve

end Apexd
