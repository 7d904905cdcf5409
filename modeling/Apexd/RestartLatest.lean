import Apexd.VersionRuns

/-!
# What a restart reads back

A restart at any moment of a run: `PopulateFromMounts` finds every version that is mounted, once,
and flags the highest of each package.

* `World.Restartable.exists_item` — the line of one mount and what it resolves to.
* `World.ReadBack` — the entries; `restart_reads_back` — they are found after every run.
* `restart_flags_bound_iff` — exactly when they agree with what is bound on the active mount points.
-/

set_option autoImplicit false

namespace Apexd

open Text Prog

/-! ## One mount -/

section Item

variable {s : SystemView} {w₀ w w' : World} {m : Mount} {apex : ApexFile}

instance : Inhabited MountLine := ⟨.other "" (by decide)⟩

theorem loopName_plain (n : Nat) : ∀ c ∈ [' ', '\t', '\n', '\\'], c ∉ (loopName n).toList :=
  plain_append_nat n (by simp)

theorem dmPath_plain (n : Nat) : ∀ c ∈ [' ', '\t', '\n', '\\'], c ∉ (dmPath n).toList :=
  plain_append_nat n (by simp)

/-- The file of a bound device is the one it was bound to. -/
theorem World.KeptFrom.backingFile (h : w₀.KeptFrom w) {l : Loop}
    (hl : w.findLoop l.device = some l)
    (hf : w₀.file? l.backing = some l.file) : w.backingFile l.device = .ok l.backing := by
  unfold World.backingFile
  rw [hl]
  dsimp only
  rw [h.files, hf]
  exact if_pos rfl

/-- What is found out about a mount. -/
structure SystemView.Resolves (s : SystemView) (m : Mount) (apex : ApexFile)
    (data : MountedApexData) : Prop where
  resolve : s.resolveMount m.block m.mountPoint = some data
  point : data.mountPoint = m.mountPoint
  path : data.fullPath = apex.path ∨ data.fullPath = trim apex.path
  loop : data.loopName = "" ∨ m.loop = some data.loopName
  device : data.deviceName = "" ∨ data.deviceName = trim (getPackageId apex.manifest)
  block : ∀ c ∈ [' ', '\t', '\n', '\\'], c ∉ m.block.toList

/-- A flattened package. -/
theorem World.Restartable.resolves_flattened (h : w₀.Restartable w) (ht : w₀.Traceable)
    (hs : s.Shows w)
    (hm : w.mounted m.mountPoint = some m) (hblock : m.block = kRootBlock)
    (hroot : m.root = .dir apex.path)
    (hopen : w₀.openApex apex.path = .ok apex) (hflat : apex.flattened = true)
    (hbuiltin : isPathForBuiltinApexes apex.path = true) :
    s.Resolves m apex ⟨"", apex.path, m.mountPoint, ""⟩ where
  resolve := by
    have hmanifest : (w.file? (join apex.path kManifestFilename)).isSome = true := by
      rw [h.kept.files]
      unfold World.openApex at hopen
      cases hf : w₀.file? (join apex.path kManifestFilename) with
      | some f => rfl
      | none =>
        rw [hf] at hopen
        dsimp only at hopen
        split at hopen
        · have hflattened := congrArg ApexFile.flattened (Except.ok.inj hopen)
          rw [hflat] at hflattened
          cases hflattened
        · cases hopen
    have hdirs : ∀ dir ∈ kApexPackageBuiltinDirs, w.dirs dir = w₀.dirs dir := by
      have hout : ∀ dir ∈ kApexPackageBuiltinDirs, dir ≠ kApexRoot ∧
        belowApex dir = false := by decide
      exact fun dir hdir => h.kept.dirs _ (hout dir hdir).1 (hout dir hdir).2
    obtain ⟨dir, hdir, n, d, x, hpath, hd, hmem⟩ := ht.flattened _ _ hopen hflat hbuiltin
    unfold SystemView.resolveMount
    rw [hs.flattenedPath_dir h.table.outside hm hroot hmanifest
      ⟨dir, hdir, n, d, x, hpath, (hdirs dir hdir).trans hd, hmem⟩]
  point := rfl
  path := Or.inl rfl
  loop := Or.inl rfl
  device := Or.inl rfl
  block := by
    rw [hblock]
    simp [kRootBlock]

theorem World.KeptFrom.backingPath (h : w₀.KeptFrom w) (hs : s.Shows w) {n : Nat} {l : Loop}
    (hl : w.findLoop (loopName n) = some l) (hf : w₀.file? l.backing = some l.file) :
    s.backingPath (loopName n) = some (trim l.backing) := by
  have hdev := World.findLoop_device hl
  unfold SystemView.backingPath
  rw [devPath_loopName, hs.backingFile, ← hdev, h.backingFile (by rwa [hdev]) hf]
  rfl

/-- A package on a loop device. -/
theorem World.Restartable.resolves_loop (h : w₀.Restartable w) (hs : s.Shows w)
    (hm : w.mounted m.mountPoint = some m) {n : Nat} {l : Loop}
    (hl : w.findLoop (loopName n) = some l)
    (hroot : m.root = .image l.file) (hloop : m.loop = some (loopName n))
    (hblock : m.block = loopName n)
    (hback : l.backing = apex.path) (hf : w₀.file? l.backing = some l.file) :
    s.Resolves m apex ⟨loopName n, trim apex.path, m.mountPoint, ""⟩ where
  resolve := by
    unfold SystemView.resolveMount
    rw [hs.flattenedPath_image h.table.outside hm hroot, hblock, blockDeviceType_loopName,
      h.kept.backingPath hs hl hf, hback, devPath_loopName]
    rfl
  point := rfl
  path := Or.inr rfl
  loop := Or.inr hloop
  device := Or.inl rfl
  block := by
    rw [hblock]
    exact loopName_plain n

/-- A package on a dm device. -/
theorem World.Restartable.resolves_dm (h : w₀.Restartable w) (hs : s.Shows w)
    (hm : w.mounted m.mountPoint = some m) {n : Nat} {l : Loop}
    (hl : w.findLoop (loopName n) = some l)
    (hroot : m.root = .image l.file) (hloop : m.loop = some (loopName n)) {d : DmDevice}
    (hd : w.findDmPath m.block = some d) (hslave : d.slave = loopName n)
    (hname : d.name = getPackageId apex.manifest)
    (hback : l.backing = apex.path) (hf : w₀.file? l.backing = some l.file) :
    s.Resolves m apex ⟨loopName n, trim apex.path, m.mountPoint, trim d.name⟩ := by
  obtain ⟨i, hi⟩ := h.table.dmPaths d (List.mem_of_find?_eq_some hd)
  have hblock : m.block = dmPath i := (World.findDmPath_path hd).symm.trans hi
  rw [hblock] at hd
  refine ⟨?_, rfl, Or.inr rfl, Or.inr hloop, Or.inr (congrArg trim hname), ?_⟩
  · have hfirst : s.loopSlave (dmPath i) = some (loopName n) := by
      unfold SystemView.loopSlave
      rw [devPath_dmPath, hs.slaves, hd]
      show Option.filter _ (some d.slave) = _
      rw [hslave, Option.filter_some, blockDeviceType_loopName]
      rfl
    unfold SystemView.resolveMount
    rw [hs.flattenedPath_image h.table.outside hm hroot, hblock, blockDeviceType_dmPath, hfirst,
      devPath_dmPath, hs.dmName, hd]
    show (s.backingPath (loopName n)).map _ = _
    rw [h.kept.backingPath hs hl hf, hback, devPath_loopName]
    rfl
  · rw [hblock]
    exact dmPath_plain i

/-- The three kinds of mounts resolve to the package they were mounted from. -/
theorem World.Restartable.resolves (h : w₀.Restartable w) (ht : w₀.Traceable) (hs : s.Shows w)
    (hm : m ∈ w.mounts) (hp : ¬ m.Passed) : ∃ apex data, w₀.openApex apex.path = .ok apex ∧
      m.mountPoint = getPackageMountPoint apex.manifest ∧ s.Resolves m apex data ∧
        w₀.ShowsPath m apex.path := by
  have hmounted := h.table.mounted hm hp
  rcases h.table.versions m hm hp with ⟨_, hblock, p, hroot, apex, hopen, hpoint, hflat, hbuiltin⟩ |
    ⟨l, hloop, hl, hroot, ⟨apex, hopen, hpoint, hfile⟩, hblock⟩
  · obtain rfl := World.openApex_path hopen
    exact ⟨apex, _, hopen, hpoint, h.resolves_flattened ht hs hmounted hblock hroot hopen hflat
      hbuiltin, Or.inl hroot⟩
  · have hpath := World.openApex_path hopen
    have hback : w₀.file? l.backing = some l.file := hfile
    obtain ⟨n, hn⟩ := h.table.loopNames l (List.mem_of_find?_eq_some hl)
    rw [hn] at hloop hl hblock
    have hshows : w₀.ShowsPath m l.backing := Or.inr ⟨l.file, hroot, hback⟩
    refine ⟨apex, ?_⟩
    rw [hpath]
    rcases hblock with hblock | ⟨d, hd, hslave, hname⟩
    · exact ⟨_, hopen, hpoint, h.resolves_loop hs hmounted hl hroot hloop hblock hpath.symm hback,
        hshows⟩
    · have hid : d.name = getPackageId apex.manifest := join_right_inj.1 (hname.symm.trans hpoint)
      exact ⟨_, hopen, hpoint, h.resolves_dm hs hmounted hl hroot hloop hd hslave hid hpath.symm
        hback, hshows⟩

/-- What one mount is read as. -/
structure SystemView.Reads (s : SystemView) (w₀ : World) (m : Mount) (item : MountLine) : Prop where
  line : item.line = mountLine m
  other : m.Passed → s.resolveLine item = none
  version : ¬ m.Passed → ∃ a apex, s.resolveLine item = some a ∧ m.Resolved w₀ a apex

theorem World.Restartable.exists_item (h : w₀.Restartable w) (ht : w₀.Traceable) (hs : s.Shows w)
    (hm : m ∈ w.mounts) : ∃ item, s.Reads w₀ m item := by
  by_cases hp : m.Passed
  · exact ⟨.other (mountLine m) hp.line, rfl, fun _ => rfl, fun hn => absurd hp hn⟩
  · obtain ⟨apex, data, hopen, hpoint, hr, hshows⟩ := h.resolves ht hs hm hp
    obtain ⟨hline, hmp⟩ := versionLine_line ht hopen hpoint hr.block
    refine ⟨.package (versionLine m apex ht hopen (hr.block _ (by simp))), hline,
      fun hn => absurd hn hp, fun _ => ?_⟩
    refine ⟨⟨apex.manifest.name, apex.manifest.version, data⟩, apex, ?_, ?_⟩
    · have hversion : (versionLine m apex ht hopen (hr.block _ (by simp))).version =
        apex.manifest.version :=
        Int.toNat_of_nonneg (le_of_lt (ht.versions _ _ hopen).1)
      unfold SystemView.resolveLine
      dsimp only
      rw [hmp, hversion]
      show (s.resolveMount m.block m.mountPoint).map _ = _
      rw [hr.resolve]
      rfl
    · exact ⟨hopen, hpoint, rfl, rfl, hr.point, hr.path, hr.loop, hr.device, hshows⟩

end Item

/-! ## The whole table -/

/-- A version of a package is mounted. -/
def World.MountedVersion (w : World) (apex : ApexFile) : Prop :=
  ∃ m ∈ w.mounts, m.mountPoint = getPackageMountPoint apex.manifest

/-- No version of the package that is mounted is higher. -/
def World.HighestMounted (w₀ w : World) (apex : ApexFile) : Prop := ∀ p a, w₀.openApex p = .ok a →
  a.manifest.name = apex.manifest.name → w.MountedVersion a →
    a.manifest.version ≤ apex.manifest.version

/-- The database `w'.db` holds one entry for every version that is mounted in `w`, the highest
flagged. -/
structure World.ReadBack (w₀ w w' : World) : Prop where
  entries : ∀ e ∈ w'.db, ∃ p apex, w₀.openApex p = .ok apex ∧ e.package = apex.manifest.name ∧
    e.data.mountPoint = getPackageMountPoint apex.manifest ∧ w.MountedVersion apex
  versions : ∀ p apex, w₀.openApex p = .ok apex → w.MountedVersion apex →
    ∃ e ∈ w'.db, e.package = apex.manifest.name ∧
      e.data.mountPoint = getPackageMountPoint apex.manifest
  once : w'.db.Pairwise fun a b => a.data.mountPoint ≠ b.data.mountPoint
  latest : ∀ e ∈ w'.db, ∀ p apex, w₀.openApex p = .ok apex →
    e.data.mountPoint = getPackageMountPoint apex.manifest →
    (e.latest = true ↔ w₀.HighestMounted w apex)

section Table

variable {s : SystemView} {w₀ w w' : World} {m : Mount} {apex : ApexFile} {f : Mount → MountLine}

/-- A versioned mount point is not passed over. -/
theorem World.Traceable.not_passed (ht : w₀.Traceable) {p : String} (ho : w₀.openApex p = .ok apex)
    (hm : m.mountPoint = getPackageMountPoint apex.manifest) : ¬ m.Passed := by
  have hid : NoSlash (getPackageId apex.manifest) := by
    unfold getPackageId NoSlash
    rw [String.toList_append, String.toList_append, List.mem_append, List.mem_append]
    rintro ((h | h) | h)
    · exact ht.names _ _ ho '/' (by simp) h
    · revert h
      decide
    · exact noSlash_int _ h
  rintro (h | h)
  · rw [hm] at h
    exact h (dirName_join hid _)
  · rw [hm] at h
    unfold isActiveMountPoint getPackageMountPoint getPackageId at h
    rw [toList_join, String.toList_append, String.toList_append, Bool.not_eq_true',
      ← Bool.not_eq_true, List.contains_iff_mem] at h
    exact h (by simp)

theorem SystemView.lines_procMounts (hf : ∀ m ∈ w.mounts, s.Reads w₀ m (f m)) :
    (w.mounts.reverse.map f).map MountLine.line = w.procMounts := by
  rw [World.procMounts_eq, List.map_map]
  exact List.map_congr_left fun m hm => (hf m (List.mem_reverse.1 hm)).line

/-- The packages found are those of the versions. -/
theorem SystemView.mem_resolved {a : ResolvedMount} : a ∈ s.resolved (w.mounts.reverse.map f) ↔
    ∃ m ∈ w.mounts, s.resolveLine (f m) = some a := by
  unfold SystemView.resolved
  simp only [List.mem_filterMap, List.mem_map, List.mem_reverse]
  constructor
  · rintro ⟨_, ⟨m, hm, rfl⟩, ha⟩
    exact ⟨m, hm, ha⟩
  · rintro ⟨m, hm, ha⟩
    exact ⟨_, ⟨m, hm, rfl⟩, ha⟩

theorem SystemView.resolved_apart (h : w₀.Restartable w) (ht : w₀.Traceable)
    (hf : ∀ m ∈ w.mounts, s.Reads w₀ m (f m)) :
    (s.resolved (w.mounts.reverse.map f)).Pairwise Apart := by
  unfold SystemView.resolved
  rw [List.pairwise_filterMap, List.pairwise_map, List.pairwise_reverse]
  refine h.table.apart.imp_of_mem fun {m m'} hm hm' hapart => ?_
  intro b hb a ha
  by_cases hp : m.Passed
  · rw [(hf m hm).other hp] at ha
    cases ha
  by_cases hp' : m'.Passed
  · rw [(hf m' hm').other hp'] at hb
    cases hb
  obtain ⟨x, apex, hx, hres⟩ := (hf m hm).version hp
  obtain ⟨y, apex', hy, hres'⟩ := (hf m' hm').version hp'
  rw [hx] at ha
  rw [hy] at hb
  cases ha
  cases hb
  obtain ⟨hpoint, hloop⟩ := hapart hp hp'
  exact (hres.apart ht hres' hpoint hloop).symm

/-- A package found is a version that is mounted, -/
theorem SystemView.Reads.found (hf : ∀ m ∈ w.mounts, s.Reads w₀ m (f m)) {a : ResolvedMount}
    (ha : a ∈ s.resolved (w.mounts.reverse.map f)) :
    ∃ m ∈ w.mounts, ∃ apex, m.Resolved w₀ a apex := by
  obtain ⟨m, hm, hline⟩ := mem_resolved.1 ha
  by_cases hp : m.Passed
  · rw [(hf m hm).other hp] at hline
    cases hline
  · obtain ⟨x, apex, hx, hres⟩ := (hf m hm).version hp
    rw [hx] at hline
    cases hline
    exact ⟨m, hm, apex, hres⟩

/-- and each version that is mounted is found. -/
theorem SystemView.Reads.exists_found (ht : w₀.Traceable)
    (hf : ∀ m ∈ w.mounts, s.Reads w₀ m (f m)) {p : String}
    (ho : w₀.openApex p = .ok apex) (hm : w.MountedVersion apex) :
    ∃ a ∈ s.resolved (w.mounts.reverse.map f),
      a.name = apex.manifest.name ∧ a.version = apex.manifest.version ∧
        a.data.mountPoint = getPackageMountPoint apex.manifest := by
  obtain rfl := World.openApex_path ho
  obtain ⟨m, hmem, hpoint⟩ := hm
  obtain ⟨a, apex', ha, hres⟩ := (hf m hmem).version (ht.not_passed ho hpoint)
  obtain ⟨hname, hversion⟩ := getPackageId_inj (join_right_inj.1 (hres.point.symm.trans hpoint))
  exact ⟨a, mem_resolved.2 ⟨m, hmem, ha⟩, hres.name.trans hname, hres.version.trans hversion,
    hres.dataPoint.trans hpoint⟩

/-- **The entries left for the packages found are those of the versions that are mounted.** -/
theorem World.Restartable.readBack (h : w₀.Restartable w) (ht : w₀.Traceable)
    (hf : ∀ m ∈ w.mounts, s.Reads w₀ m (f m))
    (hdb : w'.db.Perm (flagged (s.resolved (w.mounts.reverse.map f)))) : w₀.ReadBack w w' where
  entries e he := by
    obtain ⟨a, ha, rfl⟩ := List.mem_map.1 (hdb.mem_iff.1 he)
    obtain ⟨m, hm, apex, hres⟩ := SystemView.Reads.found hf ha
    exact ⟨_, apex, hres.opens, hres.name, hres.dataPoint.trans hres.point, m, hm, hres.point⟩
  versions p apex ho hm := by
    obtain ⟨a, ha, hname, _, hpoint⟩ := SystemView.Reads.exists_found ht hf ho hm
    exact ⟨_, hdb.mem_iff.2 (List.mem_map_of_mem ha), hname, hpoint⟩
  once := by
    refine (hdb.pairwise_iff fun h => Ne.symm h).2 ?_
    unfold flagged
    rw [List.pairwise_map]
    refine (SystemView.resolved_apart h ht hf).imp_of_mem fun {a b} ha hb hapart he => ?_
    obtain ⟨m, _, apex, hres⟩ := SystemView.Reads.found hf ha
    obtain ⟨m', _, apex', hres'⟩ := SystemView.Reads.found hf hb
    have hpoint : getPackageMountPoint apex.manifest = getPackageMountPoint apex'.manifest :=
      (hres.dataPoint.trans hres.point).symm.trans (he.trans (hres'.dataPoint.trans hres'.point))
    obtain ⟨hname, hversion⟩ := getPackageId_inj (join_right_inj.1 hpoint)
    exact hapart.version (hres.name.trans (hname.trans hres'.name.symm))
      (hres.version.trans (hversion.trans hres'.version.symm))
  latest e he p apex ho hpoint := by
    obtain ⟨a, ha, rfl⟩ := List.mem_map.1 (hdb.mem_iff.1 he)
    obtain ⟨m, _, apex', hres⟩ := SystemView.Reads.found hf ha
    obtain ⟨hname, hversion⟩ :=
      getPackageId_inj (join_right_inj.1 (hpoint.symm.trans (hres.dataPoint.trans hres.point)))
    have ha : a.name = apex.manifest.name ∧ a.version = apex.manifest.version :=
      ⟨hres.name.trans hname.symm, hres.version.trans hversion.symm⟩
    rw [flaggedEntry_latest, ha.1, ha.2]
    constructor
    · intro hall q b hb hbn hbm
      obtain ⟨y, hy, hyn, hyv, _⟩ := SystemView.Reads.exists_found ht hf hb hbm
      rw [← hyv]
      exact hall y hy (hyn.trans hbn)
    · intro hall y hy hyn
      obtain ⟨m', hm', b, hres'⟩ := SystemView.Reads.found hf hy
      rw [hres'.version]
      exact hall _ b hres'.opens (hres'.name.symm.trans hyn) ⟨m', hm', hres'.point⟩

/-- The process is started on the table that a run has left. -/
theorem World.Restartable.wp_populate (h : w₀.Restartable w) (ht : w₀.Traceable) (hr : w.Restart w')
    (hs : s.Shows w') :
    wp (populateKernel s w.procMounts) (fun _ => True) populateFromMounts (fun x w'' => x = .ok () ∧
      w'' = { w' with db := w''.db } ∧ ∃ f : Mount → MountLine,
        (∀ m ∈ w.mounts, s.Reads w₀ m (f m)) ∧
        w''.db.Perm (flagged (s.resolved (w.mounts.reverse.map f)))) w' := by
  have hshows : s.Shows w := by
    obtain ⟨supports, inMode, rfl⟩ := hr
    exact ⟨hs.listing, hs.flattened, hs.inode, hs.backingFile, hs.dmName, hs.slaves⟩
  have hempty : w'.db = [] := by
    obtain ⟨supports, inMode, rfl⟩ := hr
    rfl
  choose! f hf using fun m (hm : m ∈ w.mounts) => h.exists_item ht hshows hm
  refine (wp_populateFromMounts hempty (SystemView.lines_procMounts hf).symm
    (SystemView.resolved_apart h ht hf)).imp ?_
  rintro x w'' _ ⟨hx, hw, _, hdb⟩
  exact ⟨hx, hw, f, hf, hdb⟩

theorem World.Restartable.wp_restart (h : w₀.Restartable w) (ht : w₀.Traceable) (hr : w.Restart w')
    (hs : s.Shows w') : wp (populateKernel s w.procMounts) (fun _ => True) populateFromMounts
      (fun x w'' => x = .ok () ∧ w'' = { w' with db := w''.db } ∧ w₀.ReadBack w w'') w' := by
  refine (h.wp_populate ht hr hs).imp ?_
  rintro x w'' _ ⟨hx, hw, f, hf, hdb⟩
  exact ⟨hx, hw, h.readBack ht hf hdb⟩

end Table

/-! ## Restarts -/

/-- Nothing is mounted from a package yet, and devices are named as the kernel names them. -/
structure World.Booted (w : World) : Prop where
  nothing : w.NothingMounted
  outside : ∀ m ∈ w.mounts, isPathForBuiltinApexes m.mountPoint = false
  loopNames : ∀ l ∈ w.loops, ∃ n, l.device = loopName n
  dmPaths : ∀ d ∈ w.dms, ∃ n, d.path = dmPath n
  dmNames : w.dms.Pairwise fun a b => a.name ≠ b.name

section Restart

variable {s : SystemView} {w₀ w₁ w w' : World} {F : Faults} {cfg : Config} {c : MountCall}
    {q : ApexM Unit}

theorem World.Booted.restartable (h : w.Booted) : w.Restartable w := by
  have hpassed : ∀ m ∈ w.mounts, m.Passed := by
    intro m hm
    by_contra hp
    have hd : dirName m.mountPoint = kApexRoot := not_not.1 fun hne => hp (Or.inl hne)
    have hslash : '/' ∈ m.mountPoint.toList := by
      by_contra hno
      rw [dirName_eq_empty hno] at hd
      revert hd
      decide
    have hbelow : belowApex m.mountPoint := below_iff.2 ⟨_, (eq_join hslash).trans (by rw [hd])⟩
    have := List.find?_eq_none.1 (h.nothing.mounts _ hbelow) m hm
    exact this (beq_self_eq_true m.mountPoint)
  refine ⟨⟨fun _ => rfl, fun _ _ _ => rfl, by simp [h.nothing.db]⟩, h.loopNames, h.dmPaths,
    h.dmNames, h.outside, fun m hm hp => absurd (hpassed m hm) hp, ?_⟩
  exact List.pairwise_of_forall_mem_list fun a ha _ _ hp => absurd (hpassed a ha) hp

/-- The states after each call and each restart; a restart finds what was mounted when the process
died. -/
inductive MountLives (K : Kernel Sys Sys.Res World) (cfg : Config) (w₀ : World) : World → Prop where
  | boot : MountLives K cfg w₀ w₀
  | call {w w' : World} {c : MountCall} {x : Except String Unit} (h : MountLives K cfg w₀ w)
      (he : Ends K (c.prog cfg) w x w') : MountLives K cfg w₀ w'
  | restart {w w₁ w₂ w₃ : World} {c : MountCall} {q : ApexM Unit} {s : SystemView}
    {x : Except String Unit}
      (h : MountLives K cfg w₀ w) (hr : Reaches K (c.prog cfg) w q w₁) (hw : w₁.Restart w₂)
        (hs : s.Shows w₂)
      (he : Ends (populateKernel s w₁.procMounts) populateFromMounts w₂ x w₃) :
        MountLives K cfg w₀ w₃

/-- The entries read back are again of packages mounted below `/apex`. -/
theorem World.Restartable.restarted (h : w₀.Restartable w) (hr : w.Restart w₁)
    (hw : w' = { w₁ with db := w'.db }) (hb : w₀.ReadBack w w') : w₀.Restartable w' := by
  obtain ⟨supports, inMode, rfl⟩ := hr
  rw [hw]
  refine ⟨⟨h.kept.files, h.kept.dirs, fun e he => ?_⟩, h.table.same rfl rfl rfl⟩
  obtain ⟨_, apex, _, _, hpoint, _⟩ := hb.entries e he
  rw [hpoint]
  exact below_packageMountPoint _

theorem MountLives.restartable (h : MountLives (kernel .off F) cfg w₀ w) (hF : F.Refusals)
    (hw : w₀.Booted) (ht : w₀.Traceable) : w₀.Restartable w := by
  induction h with
  | boot => exact hw.restartable
  | call _ he ih => exact ((ih.wp_call hF ht hw.nothing.files _).reaches he).inv
  | restart _ hr hrestart hs he ih =>
    have hdied := ((ih.wp_call hF ht hw.nothing.files _).reaches hr).inv
    obtain ⟨_, hdb, hb⟩ := (hdied.wp_restart ht hrestart hs).ends he
    exact hdied.restarted hrestart hdb hb

/-- `PopulateFromMounts` comes to an end after a death. -/
theorem MountLives.exists_restarted (h : MountLives (kernel .off F) cfg w₀ w) (hF : F.Refusals)
    (hw : w₀.Booted)
    (ht : w₀.Traceable) (hr : Reaches (kernel .off F) (c.prog cfg) w q w₁)
    (hrestart : w₁.Restart w')
    (hs : s.Shows w') : ∃ x w'', Ends (populateKernel s w₁.procMounts) populateFromMounts
    w' x w'' := by
  have hdied := (((h.restartable hF hw ht).wp_call hF ht hw.nothing.files c).reaches hr).inv
  obtain ⟨x, w'', he, _⟩ := (hdied.wp_restart ht hrestart hs).exists_ends uses_populateFromMounts
    fun c w hc hpre => populateKernel_outcome hc hpre
  exact ⟨x, w'', he⟩

/-- What a restart after a death leaves: the mounts, and what was read back from them. -/
theorem MountLives.readBack (h : MountLives (kernel .off F) cfg w₀ w) (hF : F.Refusals)
    (hw : w₀.Booted)
    (ht : w₀.Traceable) (hr : Reaches (kernel .off F) (c.prog cfg) w q w₁)
    (hrestart : w₁.Restart w') (hs : s.Shows w') {x : Except String Unit} {w'' : World}
    (he : Ends (populateKernel s w₁.procMounts) populateFromMounts w' x w'') :
    w₀.ReadBack w₁ w'' ∧ w''.mounts = w₁.mounts := by
  have hdied := (((h.restartable hF hw ht).wp_call hF ht hw.nothing.files c).reaches hr).inv
  obtain ⟨_, hdb, hb⟩ := (hdied.wp_restart ht hrestart hs).ends he
  refine ⟨hb, ?_⟩
  obtain ⟨supports, inMode, rfl⟩ := hrestart
  rw [hdb]

/-- The version is what is bound on the active mount point of its package. -/
def World.BoundVersion (w : World) (apex : ApexFile) : Prop :=
  ∃ m, w.mounted (getActiveMountPoint apex.manifest) = some m ∧
    m.source = some (getPackageMountPoint apex.manifest)

/-- The entry is what is bound on the active mount point of its package. -/
def World.BoundEntry (w : World) (e : Entry) : Prop :=
  ∃ m, w.mounted e.activeMountPoint = some m ∧ m.source = some e.data.mountPoint

theorem World.boundEntry_iff {apex : ApexFile} (hm : w'.mounts = w.mounts) {e : Entry}
    (hname : e.package = apex.manifest.name)
    (hpoint : e.data.mountPoint = getPackageMountPoint apex.manifest) :
    w'.BoundEntry e ↔ w.BoundVersion apex := by
  unfold World.BoundEntry Entry.activeMountPoint World.BoundVersion World.mounted
    getActiveMountPoint
  rw [hname, hpoint, hm]

/-- Of the entries of a package, the one that is flagged is the one that is bound on the active
mount point, and nothing else is bound there. -/
structure World.FlagsBound (w : World) (name : String) : Prop where
  flagged : ∀ e ∈ w.db, e.package = name → (e.latest = true ↔ w.BoundEntry e)
  entry : ∀ m, w.mounted (join kApexRoot name) = some m →
    ∃ e ∈ w.db, e.package = name ∧ m.source = some e.data.mountPoint

/-- Of the versions of a package that are mounted, the highest is the one that is bound on the
active mount point, and nothing else is bound there. -/
structure World.HighestBound (w₀ w : World) (name : String) : Prop where
  highest : ∀ p apex, w₀.openApex p = .ok apex → apex.manifest.name = name → w.MountedVersion apex →
    (w₀.HighestMounted w apex ↔ w.BoundVersion apex)
  version : ∀ m, w.mounted (join kApexRoot name) = some m → ∃ p apex, w₀.openApex p = .ok apex ∧
    apex.manifest.name = name ∧ w.MountedVersion apex ∧
      m.source = some (getPackageMountPoint apex.manifest)

theorem World.ReadBack.flagsBound (h : w₀.ReadBack w w') (hm : w'.mounts = w.mounts) {name : String}
    (hb : w₀.HighestBound w name) : w'.FlagsBound name where
  flagged := by
    intro e he hname
    obtain ⟨p, apex, ho, hpackage, hpoint, hmounted⟩ := h.entries e he
    rw [h.latest e he p apex ho hpoint, World.boundEntry_iff hm hpackage hpoint]
    exact hb.highest p apex ho (hpackage.symm.trans hname) hmounted
  entry := by
    intro m hmount
    unfold World.mounted at hmount
    rw [hm] at hmount
    obtain ⟨p, apex, ho, hname, hmounted, hsource⟩ := hb.version m hmount
    obtain ⟨e, he, hpackage, hpoint⟩ := h.versions p apex ho hmounted
    exact ⟨e, he, hpackage.trans hname, by rw [hsource, hpoint]⟩

theorem World.ReadBack.highestBound (h : w₀.ReadBack w w') (hm : w'.mounts = w.mounts)
    {name : String} (hb : w'.FlagsBound name) : w₀.HighestBound w name where
  highest := by
    intro p apex ho hname hmounted
    obtain ⟨e, he, hpackage, hpoint⟩ := h.versions p apex ho hmounted
    rw [← h.latest e he p apex ho hpoint, ← World.boundEntry_iff hm hpackage hpoint]
    exact hb.flagged e he (hpackage.trans hname)
  version := by
    intro m hmount
    unfold World.mounted at hmount
    rw [← hm] at hmount
    obtain ⟨e, he, hname, hsource⟩ := hb.entry m hmount
    obtain ⟨p, apex, ho, hpackage, hpoint, hmounted⟩ := h.entries e he
    exact ⟨p, apex, ho, hpackage.symm.trans hname, hmounted, by rw [hsource, hpoint]⟩

/-- **Exactly when a restart leaves what is active as it was**: the package whose highest mounted
version is the one bound on the active mount point, with nothing else bound there. -/
theorem restart_flags_bound_iff (hF : F.Refusals) (hw : w₀.Booted) (ht : w₀.Traceable)
    (h : MountLives (kernel .off F) cfg w₀ w) (hr : Reaches (kernel .off F) (c.prog cfg) w q w₁)
    (hrestart : w₁.Restart w') (hs : s.Shows w') {x : Except String Unit} {w'' : World}
    (he : Ends (populateKernel s w₁.procMounts) populateFromMounts w' x w'') (name : String) :
    w''.FlagsBound name ↔ w₀.HighestBound w₁ name := by
  obtain ⟨hb, hm⟩ := h.readBack hF hw ht hr hrestart hs he
  exact ⟨fun hflags => hb.highestBound hm hflags, fun hbound => hb.flagsBound hm hbound⟩

end Restart

/-! ## A death between two mounts -/

/-- What a state shows. -/
def World.view (w : World) : SystemView where
  listing := w.list
  flattened p := (w.file? (join p kManifestFilename)).isSome
  inode := w.inodeOf
  backingFile := w.backingFile
  dmName b := match w.findDmPath b with | some d => .ok d.name | none => .error .enoent
  slaves b := match w.findDmPath b with | some d => .ok [d.slave] | none => .error .enoent

/-- A restart shows the same. -/
theorem World.view_restarted (w : World) : w.view.Shows { w with db := [] } :=
  ⟨w.lists_list, fun _ => rfl, fun _ => rfl, fun _ => rfl, fun _ => rfl, fun _ => rfl⟩

theorem twoVersionsWorld_booted : twoVersionsWorld.Booted where
  nothing := twoVersionsWorld_nothing
  outside m hm := absurd hm (List.not_mem_nil (a := m))
  loopNames l hl := absurd hl (List.not_mem_nil (a := l))
  dmPaths d hd := absurd hd (List.not_mem_nil (a := d))
  dmNames := List.Pairwise.nil

/-- The packages that can be opened in a table of directories. -/
theorem World.openApex_mem {w : World} {l : List (String × Dir)} {paths : List String}
    (hw : ∀ p, w.dirs p = l.lookup p)
    (hl : ∀ e ∈ l, ∀ x ∈ e.2.files, e.1 ≠ "" ∧ x.1 ≠ kManifestFilename ∧ join e.1 x.1 ∈ paths)
    {p : String} {a : ApexFile} (h : w.openApex p = .ok a) : p ∈ paths := by
  have hmem : ∀ q f, w.file? q = some f → baseName q ≠ kManifestFilename ∧ q ∈ paths := by
    intro q f hf
    obtain ⟨d, hd, hm⟩ := World.file?_mem hw hf
    obtain ⟨hne, hbase, hjoin⟩ := hl _ hd _ hm
    have hslash : '/' ∈ q.toList := by
      by_contra hno
      exact hne (dirName_eq_empty hno)
    rw [← eq_join hslash] at hjoin
    exact ⟨hbase, hjoin⟩
  unfold World.openApex at h
  split at h
  · rename_i hf
    exact absurd (baseName_join (by decide) p) (hmem _ _ hf).1
  · cases h
  · split at h
    · rename_i hf
      exact (hmem _ _ hf).2
    · cases h

/-- Versions of one package. -/
theorem World.traceable_of_paths {w : World} {paths : List String}
    (hopens : ∀ p a, w.openApex p = .ok a → p ∈ paths)
    (hone : ∀ p ∈ paths, ∀ a ∈ (w.openApex p).toOption, a.flattened = false ∧
      a.manifest.name = "a" ∧ a.manifest.version ∈ [1, 2])
    (htrim : ∀ p ∈ paths, trim p = p) : w.Traceable := by
  have hfacts : ∀ {p a}, w.openApex p = .ok a →
      a.flattened = false ∧ a.manifest.name = "a" ∧ a.manifest.version ∈ [1, 2] := by
    intro p a h
    exact hone p (hopens p a h) a (by rw [h]; rfl)
  have hid : ∀ {p a}, w.openApex p = .ok a → getPackageId a.manifest ∈ ["a@1", "a@2"] := by
    intro p a h
    obtain ⟨_, hname, hversion⟩ := hfacts h
    unfold getPackageId
    rw [hname]
    generalize a.manifest.version = v at hversion
    revert v
    decide
  constructor
  · intro p a h
    rw [(hfacts h).2.1]
    decide
  · intro p a h
    rw [(hfacts h).2.1]
    simp
  · intro p a h
    have hversion := (hfacts h).2.2
    generalize a.manifest.version = v at hversion
    revert v
    decide
  · intro p q a b ha hb _ hpq
    rwa [htrim p (hopens p a ha), htrim q (hopens q b hb)] at hpq
  · intro p q a b ha hb
    have hp := hid ha
    have hq := hid hb
    generalize getPackageId a.manifest = x at hp
    generalize getPackageId b.manifest = y at hq
    revert x y
    decide
  · intro p a h hflat
    rw [(hfacts h).1] at hflat
    cases hflat

def packagePaths : List String := ["/system/apex/a.apex", "/data/apex/active/a.apex"]

theorem twoVersionsWorld_opens {p : String} {a : ApexFile}
    (h : twoVersionsWorld.openApex p = .ok a) : p ∈ packagePaths :=
  World.openApex_mem (l := twoVersionsDirs) (fun _ => rfl) (by decide) h

theorem twoVersionsWorld_traceable : twoVersionsWorld.Traceable :=
  World.traceable_of_paths (fun _ _ h => twoVersionsWorld_opens h) (by decide) (by decide)

/-- Version 1 is active. -/
def activeWorld : World := (runN Sys.run 80 activateVersion1 twoVersionsWorld).2

theorem activeWorld_lives {F : Faults} :
    MountLives (kernel .off F) deviceConfig twoVersionsWorld activeWorld := by
  have h : (runN Sys.run 80 activateVersion1 twoVersionsWorld).1.result? = some
    (.ok ()) := by decide
  exact .call (c := .activatePackage "/system/apex/a.apex") .boot (runN_ends Sys.run_sem h)

/-- The process died with version 2 mounted and version 1 bound on the active mount point. -/
def diedWorld : World := (runN Sys.run 26 activateVersion2 activeWorld).2

theorem diedWorld_reached {F : Faults} : Reaches (kernel .off F)
    ((MountCall.activatePackage "/data/apex/active/a.apex").prog deviceConfig) activeWorld
    (runN Sys.run 26 activateVersion2 activeWorld).1 diedWorld :=
    runN_reaches Sys.run_sem 26 activateVersion2 activeWorld

theorem diedWorld_restarted : ∃ x w,
    Ends (populateKernel diedWorld.view diedWorld.procMounts) populateFromMounts
      { diedWorld with db := [] } x w :=
  activeWorld_lives.exists_restarted Sys.RefusedButOpen.refusals twoVersionsWorld_booted
    twoVersionsWorld_traceable diedWorld_reached ⟨_, _, rfl⟩ diedWorld.view_restarted

/-- The two packages there are. -/
theorem twoVersionsWorld_packages {p : String} {a : ApexFile}
    (h : twoVersionsWorld.openApex p = .ok a) : a = systemPackage ∨ a = dataPackage := by
  have hp := twoVersionsWorld_opens h
  simp only [packagePaths, List.mem_cons, List.not_mem_nil, or_false] at hp
  rcases hp with rfl | rfl
  · exact Or.inl (Except.ok.inj (h.symm.trans (by rfl)))
  · exact Or.inr (Except.ok.inj (h.symm.trans (by rfl)))

theorem World.boundVersion_iff {w : World} {apex : ApexFile} : w.BoundVersion apex ↔
    (w.mounted (getActiveMountPoint apex.manifest)).bind Mount.source = some
    (getPackageMountPoint apex.manifest) :=
  Option.bind_eq_some_iff.symm

/-- Version 1 is still the one that is active when the process dies before the next call. -/
theorem restart_flags_bound_iff_active : ∃ x w,
    Ends (populateKernel activeWorld.view activeWorld.procMounts) populateFromMounts
      { activeWorld with db := [] } x w ∧ w.FlagsBound "a" := by
  have hmounted : activeWorld.MountedVersion systemPackage ∧
      ¬ activeWorld.MountedVersion dataPackage := by
    unfold World.MountedVersion
    decide
  have hbound : (activeWorld.mounted "/apex/a").bind Mount.source = some "/apex/a@1" := by decide
  have hdied : Reaches (kernel .off Sys.RefusedButOpen)
    ((MountCall.activatePackage "").prog deviceConfig) activeWorld
      _ activeWorld := .here _ _
  obtain ⟨x, w, he⟩ := activeWorld_lives.exists_restarted Sys.RefusedButOpen.refusals
    twoVersionsWorld_booted twoVersionsWorld_traceable hdied ⟨_, _, rfl⟩ activeWorld.view_restarted
  refine ⟨x, w, he, (restart_flags_bound_iff Sys.RefusedButOpen.refusals twoVersionsWorld_booted
    twoVersionsWorld_traceable activeWorld_lives hdied ⟨_, _, rfl⟩ activeWorld.view_restarted he
      "a").2 ⟨?_, ?_⟩⟩
  · intro p apex ho _ hm
    obtain rfl | rfl := twoVersionsWorld_packages ho
    · refine iff_of_true (fun q a hq _ ha => ?_) (World.boundVersion_iff.2 hbound)
      obtain rfl | rfl := twoVersionsWorld_packages hq
      · exact le_refl _
      · exact absurd ha hmounted.2
    · exact absurd hm hmounted.2
  · intro m hm
    rw [show join kApexRoot "a" = "/apex/a" from rfl] at hm
    rw [hm] at hbound
    exact ⟨"/system/apex/a.apex", systemPackage, rfl, rfl, hmounted.1, hbound⟩

/-- Version 2 is flagged after the restart and version 1 is bound. -/
theorem restart_flags_unbound :
    ¬ ∀ (cfg : Config) (w₀ w w₁ w' w'' : World) (c : MountCall) (q : ApexM Unit)
    (s : SystemView) (x : Except String Unit), w₀.Booted → w₀.Traceable →
    MountLives (kernel .off Sys.NoFault) cfg w₀ w → Reaches (kernel .off Sys.NoFault)
      (c.prog cfg) w q w₁ →
    w₁.Restart w' → s.Shows w' → Ends (populateKernel s w₁.procMounts) populateFromMounts w' x w'' →
    ∀ name, w''.FlagsBound name := by
  intro hclaim
  obtain ⟨x, w, he⟩ := diedWorld_restarted
  have hflags := hclaim _ _ _ _ _ _ _ _ _ _ twoVersionsWorld_booted twoVersionsWorld_traceable
    activeWorld_lives diedWorld_reached ⟨_, _, rfl⟩ diedWorld.view_restarted he "a"
  obtain ⟨hb, hm⟩ := activeWorld_lives.readBack Sys.NoFault.refusals twoVersionsWorld_booted
    twoVersionsWorld_traceable diedWorld_reached ⟨_, _, rfl⟩ diedWorld.view_restarted he
  have hmounted : diedWorld.MountedVersion dataPackage := by
    unfold World.MountedVersion
    decide
  have hbound : (diedWorld.mounted "/apex/a").bind Mount.source = some "/apex/a@1" := by decide
  have hhighest : twoVersionsWorld.HighestMounted diedWorld dataPackage := by
    intro p a ha _ _
    obtain rfl | rfl := twoVersionsWorld_packages ha <;> decide
  have hnew := ((hb.highestBound hm hflags).highest "/data/apex/active/a.apex" dataPackage rfl rfl
    hmounted).1 hhighest
  exact absurd (hbound.symm.trans (World.boundVersion_iff.1 hnew)) (by decide)

end Apexd
