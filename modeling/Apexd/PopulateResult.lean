import Apexd.Populate

/-!
# The database read back from any mount table

* `ResolvedMount`, `flagged` — the packages found, and the entries they should leave: the highest
  version of each package is the latest.
* `Populated` — the loop's invariant; `Populated.add`, `Populated.raise` — one more package.
* `SystemView`, `populateKernel` — any directories, inodes and sysfs files the function may find;
  `SystemView.resolveMount` — what they say of a mount.
* `MountLine` — a line of `/proc/mounts`: a package at its mount point, or any line that is passed
  over.
* `populateFromMounts_exact` — the database left does not depend on the order of the lines.
-/

set_option autoImplicit false

namespace Apexd

open Text Prog

/-! ## The entries to be left -/

/-- A package found in the mount table. -/
structure ResolvedMount where
  name : String
  version : Int
  data : MountedApexData
  deriving DecidableEq

/-- What is distinct in a consistent mount table. -/
structure Apart (a b : ResolvedMount) : Prop where
  version : a.name = b.name → a.version ≠ b.version
  path : a.name = b.name → a.data.fullPath ≠ b.data.fullPath
  loop : a.data.loopName ≠ "" → a.data.loopName ≠ b.data.loopName
  device : a.data.deviceName ≠ "" → a.data.deviceName ≠ b.data.deviceName

/-- The entry of a package: the latest if no other of the name has a higher version. -/
def flaggedEntry (found : List ResolvedMount) (a : ResolvedMount) : Entry where
  package := a.name
  data := a.data
  latest := found.all fun b => b.name != a.name || decide (b.version ≤ a.version)

def flagged (found : List ResolvedMount) : Db := found.map (flaggedEntry found)

section Entries

variable {found found' : List ResolvedMount} {a b : ResolvedMount}

theorem flaggedEntry_latest : (flaggedEntry found a).latest = true ↔
    ∀ b ∈ found, b.name = a.name → b.version ≤ a.version := by
  unfold flaggedEntry
  rw [List.all_eq_true]
  refine forall_congr' fun b => imp_congr_right fun _ => ?_
  rw [Bool.or_eq_true, bne_iff_ne, decide_eq_true_eq]
  exact ⟨fun h hn => h.resolve_left fun hne => hne hn, fun h => or_iff_not_imp_left.2 fun hn =>
    h (not_not.1 hn)⟩

theorem flaggedEntry_eq {l : Bool} (h : (flaggedEntry found a).latest = l) :
    flaggedEntry found a = ⟨a.name, a.data, l⟩ := by
  subst h
  rfl

theorem flaggedEntry_congr
    (h : (flaggedEntry found a).latest = true ↔ (flaggedEntry found' a).latest = true) :
    flaggedEntry found a = flaggedEntry found' a :=
  flaggedEntry_eq (Bool.eq_iff_iff.2 h)

/-- The entries do not depend on the order of the packages. -/
theorem flagged_perm (h : found.Perm found') : (flagged found).Perm (flagged found') := by
  have he : flaggedEntry found = flaggedEntry found' := by
    funext a
    refine flaggedEntry_congr ?_
    rw [flaggedEntry_latest, flaggedEntry_latest]
    exact forall_congr' fun b => imp_congr_left h.mem_iff
  unfold flagged
  rw [he]
  exact h.map _

/-- The loop's invariant: `found` has been recorded, and `versions` holds the highest versions. -/
structure Populated (found : List ResolvedMount) (db : Db) (versions : List (String × Int)) :
    Prop where
  wf : db.Wf
  sorted : db.Sorted
  entries : db.Perm (flagged found)
  below : ∀ a ∈ found, a.version ≤ activeVersion versions a.name
  reached : ∀ n, activeVersion versions n = 0 ∨
    ∃ a ∈ found, a.name = n ∧ a.version = activeVersion versions n

theorem Populated.empty : Populated [] [] [] where
  wf := List.Pairwise.nil
  sorted := List.Pairwise.nil
  entries := List.Perm.nil
  below _ h := by cases h
  reached _ := Or.inl rfl

variable {db db' : Db} {versions : List (String × Int)}

theorem Populated.exists_found (h : Populated found db versions) {e : Entry} (he : e ∈ db) :
    ∃ b ∈ found, e = flaggedEntry found b := by
  obtain ⟨b, hb, rfl⟩ := List.mem_map.1 (h.entries.mem_iff.1 he)
  exact ⟨b, hb, rfl⟩

/-- A package that is apart from those recorded can be added. -/
theorem Populated.compatible (h : Populated found db versions) (ha : ∀ b ∈ found, Apart a b) :
    ∀ e ∈ db, Db.Compatible ⟨a.name, a.data, false⟩ e := by
  intro e he
  obtain ⟨b, hb, rfl⟩ := h.exists_found he
  have hab := ha b hb
  refine ⟨fun hn hd => hab.path hn (congrArg _ hd), hab.loop, hab.device, ?_⟩
  rintro _ ⟨hf, _⟩
  cases hf

theorem Populated.emplaced (h : Populated found db versions) (ha : ∀ b ∈ found, Apart a b) :
    (db.emplace ⟨a.name, a.data, false⟩).Wf ∧ (db.emplace ⟨a.name, a.data, false⟩).Sorted :=
  ⟨Db.emplace_wf.2 ⟨h.compatible ha, h.wf⟩,
    Db.emplace_sorted h.sorted fun e he hp => (h.compatible ha e he).key hp⟩

/-- A package that is not the highest of its name leaves the flags as they are. -/
theorem Populated.add (h : Populated found db versions) (ha : ∀ b ∈ found, Apart a b)
    (hpos : 0 < a.version) (hlow : ¬ activeVersion versions a.name < a.version) :
    Populated (a :: found) (db.emplace ⟨a.name, a.data, false⟩) versions := by
  obtain ⟨hwf, hsorted⟩ := h.emplaced ha
  -- some package of the name is higher
  obtain ⟨m, hm, hmn, hmv⟩ := (h.reached a.name).resolve_left (by omega)
  have hlt : a.version < m.version := by
    have := (ha m hm).version hmn.symm
    omega
  refine ⟨hwf, hsorted, ?_, ?_, ?_⟩
  · have hnew : flaggedEntry (a :: found) a = ⟨a.name, a.data, false⟩ := by
      have hl : (flaggedEntry (a :: found) a).latest = false := by
        rw [← Bool.not_eq_true, flaggedEntry_latest]
        intro hall
        have := hall m (List.mem_cons_of_mem _ hm) hmn
        omega
      exact flaggedEntry_eq hl
    have hold : ∀ b ∈ found, flaggedEntry found b = flaggedEntry (a :: found) b := by
      intro b hb
      refine flaggedEntry_congr ?_
      rw [flaggedEntry_latest, flaggedEntry_latest, List.forall_mem_cons]
      refine ⟨fun hall => ⟨fun hab => ?_, hall⟩, fun hall => hall.2⟩
      have := hall m hm (hmn.trans hab)
      omega
    refine (Db.emplace_perm _ _).trans ?_
    unfold flagged
    rw [List.map_cons, hnew]
    refine (h.entries.trans ?_).cons _
    unfold flagged
    rw [List.map_congr_left hold]
  · intro b hb
    rcases List.mem_cons.1 hb with rfl | hb
    · omega
    · exact h.below b hb
  · intro n
    rcases h.reached n with h0 | ⟨b, hb, hbn⟩
    · exact Or.inl h0
    · exact Or.inr ⟨b, List.mem_cons_of_mem _ hb, hbn⟩

/-- A package that is the highest of its name becomes the latest. -/
theorem Populated.raise (h : Populated found db versions) (ha : ∀ b ∈ found, Apart a b)
    (hhigh : activeVersion versions a.name < a.version) :
    ∃ db', (db.emplace ⟨a.name, a.data, false⟩).setLatest a.name a.data.fullPath = some db' ∧
      Populated (a :: found) db' ((a.name, a.version) :: versions) := by
  obtain ⟨hwf, hsorted⟩ := h.emplaced ha
  have hsome : ((db.emplace ⟨a.name, a.data, false⟩).setLatest a.name a.data.fullPath).isSome :=
    Db.setLatest_isSome.2 ⟨_, Db.mem_emplace.2 (Or.inl rfl), rfl, rfl⟩
  obtain ⟨db', hdb'⟩ := Option.isSome_iff_exists.1 hsome
  refine ⟨db', hdb', Db.setLatest_wf hwf hdb', Db.setLatest_sorted hsorted hdb', ?_, ?_, ?_⟩
  · obtain ⟨hit, hmem, hname, hpath, rfl⟩ := Db.setLatest_eq_some hdb'
    -- the entry found by its path is the new one
    have hdata : hit.data = a.data := by
      rcases Db.mem_emplace.1 hmem with rfl | hmem
      · rfl
      · obtain ⟨b, hb, rfl⟩ := h.exists_found hmem
        exact absurd hpath.symm ((ha b hb).path hname.symm)
    refine ((Db.emplace_perm _ _).map _).trans ?_
    rw [List.map_cons]
    refine List.Perm.trans ((h.entries.map _).cons _) ?_
    unfold flagged
    rw [List.map_cons, List.map_map]
    have hnew : flaggedEntry (a :: found) a = ⟨a.name, a.data, true⟩ := by
      have hl : (flaggedEntry (a :: found) a).latest = true := by
        rw [flaggedEntry_latest, List.forall_mem_cons]
        refine ⟨fun _ => le_refl _, fun b hb hbn => ?_⟩
        have := h.below b hb
        rw [hbn] at this
        omega
      exact flaggedEntry_eq hl
    have hold : ∀ b ∈ found, (if (flaggedEntry found b).package == a.name then
        { flaggedEntry found b with latest := (flaggedEntry found b).data == hit.data }
        else flaggedEntry found b) = flaggedEntry (a :: found) b := by
      intro b hb
      have hpkg : (flaggedEntry found b).package = b.name := rfl
      by_cases hbn : b.name = a.name
      · rw [hpkg, if_pos (beq_iff_eq.2 hbn), hdata]
        have hl : (flaggedEntry (a :: found) b).latest = false := by
          rw [← Bool.not_eq_true, flaggedEntry_latest]
          intro hall
          have h1 := hall a List.mem_cons_self hbn.symm
          have h2 := h.below b hb
          rw [hbn] at h2
          omega
        have hd : ((flaggedEntry found b).data == a.data) = false := by
          rw [beq_eq_false_iff_ne]
          exact fun he => (ha b hb).path hbn.symm (congrArg _ he.symm)
        rw [hd, flaggedEntry_eq hl]
        rfl
      · rw [hpkg, if_neg fun he => hbn (beq_iff_eq.1 he)]
        refine flaggedEntry_congr ?_
        rw [flaggedEntry_latest, flaggedEntry_latest, List.forall_mem_cons]
        exact ⟨fun hall => ⟨fun he => absurd he.symm hbn, hall⟩, fun hall => hall.2⟩
    rw [if_pos (beq_self_eq_true _), hnew]
    refine List.Perm.of_eq (congrArg₂ _ ?_ (List.map_congr_left hold))
    rw [hdata, beq_self_eq_true]
  · intro b hb
    unfold activeVersion
    rw [List.lookup_cons]
    rcases List.mem_cons.1 hb with rfl | hb
    · simp
    · by_cases hbn : b.name = a.name
      · have := h.below b hb
        rw [hbn] at this ⊢
        simp only [beq_self_eq_true, Option.getD_some]
        omega
      · rw [beq_eq_false_iff_ne.2 hbn]
        exact h.below b hb
  · intro n
    unfold activeVersion
    rw [List.lookup_cons]
    by_cases hn : n = a.name
    · subst hn
      exact Or.inr ⟨a, List.mem_cons_self, rfl, by simp⟩
    · rw [beq_eq_false_iff_ne.2 hn]
      rcases h.reached n with h0 | ⟨b, hb, hbn⟩
      · exact Or.inl h0
      · exact Or.inr ⟨b, List.mem_cons_of_mem _ hb, hbn⟩

end Entries

/-! ## What the system shows -/

/-- What `stat`, the directories and sysfs answer while the mounts are read. -/
structure SystemView where
  listing : String → Except Errno (List DirEntry)
  flattened : String → Bool
  inode : String → Except Errno Inode
  backingFile : String → Except Errno String
  dmName : String → Except Errno String
  slaves : String → Except Errno (List String)

/-- The calls of `PopulateFromMounts` on a system with the given mount table. -/
def populateKernel (s : SystemView) (lines : List String) : Kernel Sys Sys.Res World where
  pre
    | .abort _, _ => False
    | _, _ => True
  sem
    | .readDir p, w, r, w' => r = s.listing p ∧ w' = w
    | .isFlattenedApex p, w, r, w' => r = s.flattened p ∧ w' = w
    | .inodeFor p, w, r, w' => r = s.inode p ∧ w' = w
    | .sysBackingFile b, w, r, w' => r = s.backingFile b ∧ w' = w
    | .sysDmName b, w, r, w' => r = s.dmName b ∧ w' = w
    | .sysSlaves b, w, r, w' => r = s.slaves b ∧ w' = w
    | .procMounts, w, r, w' => r = lines ∧ w' = w
    | .getDb, w, r, w' => r = w.db ∧ w' = w
    | .setDb db, w, _, w' => w' = { w with db := db }
    | _, _, _, _ => False

/-- A view that shows the state `w`. -/
structure SystemView.Shows (s : SystemView) (w : World) : Prop where
  listing : ∀ p, w.Lists p (s.listing p)
  flattened : ∀ p, s.flattened p = (w.file? (join p kManifestFilename)).isSome
  inode : ∀ p, s.inode p = w.inodeOf p
  backingFile : ∀ b, s.backingFile b = w.backingFile b
  dmName : ∀ b, s.dmName b = match w.findDmPath b
    with | some d => .ok d.name | none => .error .enoent
  slaves : ∀ b, s.slaves b = match w.findDmPath b
    with | some d => .ok [d.slave] | none => .error .enoent

namespace SystemView

variable (s : SystemView)

def inodeMapEntry (map : InodeMap) (path : String) : InodeMap :=
  if s.flattened path then
    match s.inode path with
    | .error _ => map
    | .ok inode => (inode, path) :: map
  else map

def inodeMapDir (map : InodeMap) (dir : String) : InodeMap :=
  match s.listing dir with
  | .error _ => map
  | .ok l => (l.map (·.path)).foldl s.inodeMapEntry map

/-- The flattened packages of the built-in directories. -/
def inodeMap : InodeMap := kApexPackageBuiltinDirs.foldl s.inodeMapDir []

/-- The flattened package with the inode of a mount point. -/
def flattenedPath (mountPoint : String) : Option String :=
  (s.inode mountPoint).toOption.bind fun inode => s.inodeMap.lookup inode

def backingPath (block : String) :
    Option String := (s.backingFile (devPath block)).toOption.map trim

/-- The loop device under a dm device: its first slave. -/
def loopSlave (block : String) : Option String :=
  ((s.slaves (devPath block)).toOption.getD []).head?.filter fun slave =>
    decide (blockDeviceType slave = .LoopDevice)

/-- What a mount resolves to: a flattened package, a loop device, or a dm device over one. -/
def resolveMount (block mountPoint : String) : Option MountedApexData :=
  match s.flattenedPath mountPoint with
  | some path => some ⟨"", path, mountPoint, ""⟩
  | none =>
    match blockDeviceType block with
    | .LoopDevice => (s.backingPath block).map fun file => ⟨devPath block, file, mountPoint, ""⟩
    | .DeviceMapperDevice =>
      (s.dmName (devPath block)).toOption.bind fun name =>
        (s.loopSlave block).bind fun slave =>
          (s.backingPath slave).map fun file => ⟨devPath slave, file, mountPoint, trim name⟩
    | .UnknownDevice => none

section Calls

variable {s} {lines : List String} {w : World}

theorem wp_scanFlattenedPackages : wp (populateKernel s lines) (fun _ => True) scanFlattenedPackages
    (fun x w' => x = .ok s.inodeMap ∧ w' = w) w := by
  have hentry : ∀ map path, wp (populateKernel s lines) (fun _ => True)
      (scanFlattenedPackagesEntry map path)
          (fun x w' => x = .ok (s.inodeMapEntry map path) ∧ w' = w) w := by
    intro map path
    refine ⟨trivial, trivial, ?_⟩
    rintro _ _ ⟨rfl, rfl⟩
    unfold inodeMapEntry
    dsimp only [ret_bind]
    split
    · refine ⟨trivial, trivial, ?_⟩
      rintro _ _ ⟨rfl, rfl⟩
      cases s.inode path <;> exact ⟨trivial, rfl, rfl⟩
    · exact ⟨trivial, rfl, rfl⟩
  have hdir : ∀ map dir, wp (populateKernel s lines) (fun _ => True)
      (scanFlattenedPackagesDir map dir)
          (fun x w' => x = .ok (s.inodeMapDir map dir) ∧ w' = w) w := by
    intro map dir
    refine ⟨trivial, trivial, ?_⟩
    rintro _ w₁ ⟨rfl, rfl⟩
    unfold inodeMapDir
    cases s.listing dir with
    | error e => exact ⟨trivial, rfl, rfl⟩
    | ok l =>
      show wp _ _ (List.foldlM scanFlattenedPackagesEntry map
        ((l.filter fun _ => true).map (·.path))) _ _
      rw [List.filter_eq_self.2 fun _ _ => rfl]
      refine wp_foldlM (fun rest acc w' => rest.foldl s.inodeMapEntry acc =
        (l.map (·.path)).foldl s.inodeMapEntry map ∧ w' = w₁) _ ?_ ?_ ⟨rfl, rfl⟩
      · rintro path rest acc _ _ ⟨hacc, rfl⟩
        refine (hentry acc path).imp ?_
        rintro _ _ _ ⟨rfl, rfl⟩
        exact ⟨hacc, rfl⟩
      · rintro acc _ ⟨hacc, rfl⟩
        exact ⟨trivial, congrArg _ hacc, rfl⟩
  unfold scanFlattenedPackages
  refine wp_foldlM (fun rest acc w' => rest.foldl s.inodeMapDir acc = s.inodeMap ∧ w' = w) _ ?_ ?_
    ⟨rfl, rfl⟩
  · rintro dir rest acc _ _ ⟨hacc, rfl⟩
    refine (hdir acc dir).imp ?_
    rintro _ _ _ ⟨rfl, rfl⟩
    exact ⟨hacc, rfl⟩
  · rintro acc _ ⟨hacc, rfl⟩
    exact ⟨trivial, congrArg _ hacc, rfl⟩

theorem wp_getBackingFile {block : String} : wp (populateKernel s lines) (fun _ => True)
    (getBackingFile block) (fun x w' => x.toOption = s.backingPath block ∧ w' = w) w := by
  refine ⟨trivial, trivial, ?_⟩
  rintro _ _ ⟨rfl, rfl⟩
  unfold backingPath
  cases s.backingFile (devPath block) <;> exact ⟨trivial, rfl, rfl⟩

/-- What `resolveMountInfo` does with the slaves of a dm device. -/
def resolveSlave (mountPoint device : String) : List String → ApexM MountedApexData
  | [] => fail "DeviceMapper device with no loop devices"
  | slave :: _ => do
    require (blockDeviceType slave = .LoopDevice) "DeviceMapper device with no loop devices"
    let file ← getBackingFile slave
    ret ⟨devPath slave, file, mountPoint, device⟩

/-- `resolveMountInfo` finds what the view says. -/
theorem wp_resolveMountInfo {block mountPoint : String} :
    wp (populateKernel s lines) (fun _ => True) (resolveMountInfo block mountPoint s.inodeMap)
    (fun x w' => x.toOption = s.resolveMount block mountPoint ∧ w' = w) w := by
  -- a mount of a loop device, once the backing file is read
  have hloop : ∀ (loop device : String),
      wp (populateKernel s lines) (fun _ => True)
        ((getBackingFile loop).bind fun file => ret ⟨devPath loop, file, mountPoint, device⟩)
        (fun x w' => x.toOption = ((s.backingPath loop).map fun file =>
          (⟨devPath loop, file, mountPoint, device⟩ : MountedApexData)) ∧ w' = w) w := by
    intro loop device
    refine wp_bind.2 (wp_getBackingFile.imp ?_)
    rintro (e | file) _ _ ⟨he, rfl⟩
    · rw [← he]
      exact ⟨rfl, rfl⟩
    · rw [← he]
      exact ⟨trivial, rfl, rfl⟩
  have hdm : ∀ (device : String) (slaves : List String), wp (populateKernel s lines) (fun _ => True)
      (resolveSlave mountPoint device slaves)
      (fun x w' => x.toOption = (slaves.head?.filter fun slave =>
        decide (blockDeviceType slave = .LoopDevice)).bind (fun slave =>
          (s.backingPath slave).map fun file =>
            (⟨devPath slave, file, mountPoint, device⟩ : MountedApexData)) ∧ w' = w) w := by
    intro device slaves
    cases slaves with
    | nil => exact ⟨trivial, rfl, rfl⟩
    | cons slave rest =>
      -- the test on the slave's name must not be evaluated
      rw [List.head?_cons, Option.filter_some]
      simp only [resolveSlave, bind_eq]
      generalize decide (blockDeviceType slave = .LoopDevice) = b
      cases b with
      | true => exact hloop slave device
      | false => exact ⟨trivial, rfl, rfl⟩
  unfold resolveMountInfo
  simp only [bind_eq, exec_bind]
  refine ⟨trivial, trivial, ?_⟩
  rintro _ _ ⟨rfl, rfl⟩
  unfold resolveMount
  beta_reduce
  split
  · rename_i path heq
    have hflat : s.flattenedPath mountPoint = some path := by
      rw [← heq]
      unfold flattenedPath
      cases s.inode mountPoint <;> rfl
    rw [hflat]
    exact ⟨trivial, rfl, rfl⟩
  · rename_i heq
    have hflat : s.flattenedPath mountPoint = none := by
      rw [← heq]
      unfold flattenedPath
      cases s.inode mountPoint <;> rfl
    rw [hflat]
    cases blockDeviceType block with
    | LoopDevice => exact hloop block ""
    | UnknownDevice => exact ⟨trivial, rfl, rfl⟩
    | DeviceMapperDevice =>
      refine ⟨trivial, trivial, ?_⟩
      rintro _ _ ⟨rfl, rfl⟩
      cases s.dmName (devPath block) with
      | error e => exact ⟨trivial, rfl, rfl⟩
      | ok name =>
        refine ⟨trivial, trivial, ?_⟩
        rintro _ _ ⟨rfl, rfl⟩
        unfold loopSlave
        cases s.slaves (devPath block) with
        | error e => exact ⟨trivial, rfl, rfl⟩
        | ok slaves => exact hdm (trim name) slaves

end Calls

end SystemView

/-! ## The lines of the mount table -/

/-- The line of a package mounted at `/apex/<name>@<version>`; no field of a line holds a blank. -/
structure PackageMount where
  block : String
  name : String
  versionText : String
  version : Int
  rest : String
  block_blank : ' ' ∉ block.toList
  name_plain : ∀ c ∈ ['@', '/', ' '], c ∉ name.toList
  version_plain : ∀ c ∈ ['@', '/', ' '], c ∉ versionText.toList
  version_parses : parseInt versionText = some version
  version_pos : 0 < version

namespace PackageMount

variable (m : PackageMount)

def mountPoint : String := join kApexRoot (m.name ++ "@" ++ m.versionText)

def line : String := m.block ++ " " ++ (m.mountPoint ++ " " ++ m.rest)

theorem packageId_plain {c : Char} (hc : c ∈ ['/', ' ']) :
    c ∉ (m.name ++ "@" ++ m.versionText).toList := by
  have hc' : c ∈ ['@', '/', ' '] := List.mem_cons_of_mem _ hc
  rw [String.toList_append, String.toList_append, List.mem_append, List.mem_append]
  rintro ((h | h) | h)
  · exact m.name_plain c hc' h
  · revert hc h
    simp only [List.mem_cons, List.not_mem_nil, or_false]
    rintro (rfl | rfl) <;> decide
  · exact m.version_plain c hc' h

theorem noSlash_packageId : NoSlash (m.name ++ "@" ++ m.versionText) := m.packageId_plain (by simp)

theorem dirName_mountPoint : dirName m.mountPoint = kApexRoot := dirName_join m.noSlash_packageId _

theorem not_isActiveMountPoint : isActiveMountPoint m.mountPoint = false := by
  unfold isActiveMountPoint mountPoint
  rw [toList_join, String.toList_append, String.toList_append, Bool.not_eq_false',
    List.contains_iff_mem]
  simp

/-- The line is cut at its blanks. -/
theorem parseMountInfo_line : parseMountInfo m.line = (m.block, m.mountPoint) := by
  have hpoint : ' ' ∉ m.mountPoint.toList := by
    unfold mountPoint
    rw [toList_join, List.mem_append, List.mem_cons]
    rintro (h | h | h)
    · revert h; decide
    · revert h; decide
    · exact m.packageId_plain (by simp) h
  unfold parseMountInfo line
  rw [show " " = String.singleton ' ' from rfl, split_append m.block_blank, split_append hpoint]

/-- The mount point is cut at its `@`. -/
theorem parseMountPoint_mountPoint : parseMountPoint m.mountPoint = (m.name, m.version) := by
  have hname : '@' ∉ m.name.toList := m.name_plain _ (by simp)
  have hversion : '@' ∉ m.versionText.toList := m.version_plain _ (by simp)
  unfold parseMountPoint mountPoint
  rw [baseName_join m.noSlash_packageId, show "@" = String.singleton '@' from rfl,
    split_append hname, split_eq_singleton hversion]
  dsimp only
  rw [m.version_parses, Option.getD_some]

/-- The mount of version `n`, written in decimal. -/
def ofNat (block name : String) (n : Nat) (rest : String) (hblock : ' ' ∉ block.toList)
    (hname : ∀ c ∈ ['@', '/', ' '], c ∉ name.toList) (hn : 0 < n ∧ n < 2 ^ 31) : PackageMount where
  block := block
  name := name
  versionText := toString n
  version := n
  rest := rest
  block_blank := hblock
  name_plain := hname
  version_plain := by
    intro c hc h
    have hd : c.isDigit := by
      rw [show (toString n).toList = Nat.toDigits 10 n from Nat.toList_repr] at h
      exact Nat.isDigit_of_mem_toDigits (by decide) (by decide) h
    revert hc hd
    simp only [List.mem_cons, List.not_mem_nil, or_false]
    rintro (rfl | rfl | rfl) <;> decide
  version_parses := parseInt_toString hn.2
  version_pos := by omega

end PackageMount

/-- A line of `/proc/mounts`: a package, or a mount point that is elsewhere or has no version. -/
inductive MountLine where
  | package (m : PackageMount)
  | other (line : String) (h : dirName (parseMountInfo line).2 ≠ kApexRoot ∨
      isActiveMountPoint (parseMountInfo line).2 = true)

def MountLine.line : MountLine → String
  | .package m => m.line
  | .other line _ => line

/-- The package a line stands for, if its mount resolves. -/
def SystemView.resolveLine (s : SystemView) : MountLine → Option ResolvedMount
  | .package m => (s.resolveMount m.block m.mountPoint).map fun data => ⟨m.name, m.version, data⟩
  | .other _ _ => none

def SystemView.resolved (s : SystemView) (items : List MountLine) : List ResolvedMount :=
  items.filterMap s.resolveLine

/-! ## The loop -/

section Loop

variable {s : SystemView} {lines : List String} {w : World} {found : List ResolvedMount}
  {active : List (String × Int)} {items : List MountLine}

theorem Apart.symm {a b : ResolvedMount} (h : Apart a b) : Apart b a where
  version he hv := h.version he.symm hv.symm
  path he hp := h.path he.symm hp.symm
  loop hne he := h.loop (he ▸ hne) he.symm
  device hne he := h.device (he ▸ hne) he.symm

theorem wp_addMountedApex_view {package : String} {data : MountedApexData} {db' : Db}
    (h : w.db.addMountedApex package false data = some db') :
    wp (populateKernel s lines) (fun _ => True) (addMountedApex package false data)
      (fun x w' => x = .ok () ∧ w' = { w with db := db' }) w := by
  refine ⟨trivial, trivial, ?_⟩
  rintro _ _ ⟨rfl, rfl⟩
  dsimp only [ret_bind]
  rw [h]
  refine ⟨trivial, trivial, ?_⟩
  rintro _ _ rfl
  exact ⟨trivial, rfl, rfl⟩

theorem wp_setLatest_view {package path : String} {db' : Db}
    (h : w.db.setLatest package path = some db') :
    wp (populateKernel s lines) (fun _ => True) (setLatest package path)
      (fun x w' => x = .ok () ∧ w' = { w with db := db' }) w := by
  refine ⟨trivial, trivial, ?_⟩
  rintro _ _ ⟨rfl, rfl⟩
  dsimp only [ret_bind]
  rw [h]
  refine ⟨trivial, trivial, ?_⟩
  rintro _ _ rfl
  exact ⟨trivial, rfl, rfl⟩

/-- What one line adds to the packages found. -/
theorem wp_populateStep {item : MountLine} (h : Populated found w.db active)
    (hapart : ∀ a, s.resolveLine item = some a → ∀ b ∈ found, Apart a b) :
    wp (populateKernel s lines) (fun _ => True) (populateStep s.inodeMap active item.line)
      (fun x w' => ∃ active', x = .ok active' ∧ w' = { w with db := w'.db } ∧
        Populated ((s.resolveLine item).toList ++ found) w'.db active') w := by
  cases item with
  | other line hline =>
    have hskip : (decide (dirName (parseMountInfo line).2 ≠ kApexRoot) ||
        isActiveMountPoint (parseMountInfo line).2) = true := by
      rw [Bool.or_eq_true, decide_eq_true_eq]
      exact hline
    unfold populateStep MountLine.line
    dsimp only
    rw [hskip, if_pos rfl]
    exact ⟨trivial, active, rfl, rfl, h⟩
  | package m =>
    have hpass : (decide (dirName m.mountPoint ≠ kApexRoot) || isActiveMountPoint m.mountPoint) =
        false := by
      rw [m.not_isActiveMountPoint, Bool.or_false, decide_eq_false_iff_not, not_not]
      exact m.dirName_mountPoint
    have hpos := m.version_pos
    unfold populateStep MountLine.line SystemView.resolveLine at *
    rw [m.parseMountInfo_line]
    dsimp only at hapart ⊢
    rw [hpass, if_neg Bool.false_ne_true, m.parseMountPoint_mountPoint]
    refine wp_bind.2 (wp_attempt.2 (SystemView.wp_resolveMountInfo.imp ?_))
    rintro (e | data) _ _ ⟨hdata, rfl⟩
    · rw [← hdata]
      exact ⟨trivial, active, rfl, rfl, h⟩
    · rw [← hdata] at hapart ⊢
      have ha := hapart _ rfl
      have hadd := Db.addMountedApex_eq h.wf (h.compatible ha)
      refine wp_bind.2 ((wp_addMountedApex_view hadd).imp ?_)
      rintro _ _ _ ⟨rfl, rfl⟩
      show wp _ _ (if _ then _ else _) _ _
      split
      · rename_i hhigh
        obtain ⟨db', hdb', hp⟩ := h.raise ha hhigh
        refine wp_bind.2 ((wp_setLatest_view hdb').imp ?_)
        rintro _ _ _ ⟨rfl, rfl⟩
        exact ⟨trivial, _, rfl, rfl, hp⟩
      · rename_i hlow
        exact ⟨trivial, _, rfl, rfl, h.add ha hpos hlow⟩

-- what one line does is known; it must not be evaluated on a line that is not
attribute [local irreducible] populateStep

/-- The loop's invariant: the lines that are left, and what the others have added. -/
structure LoopInv (s : SystemView) (items : List MountLine) (w₀ : World) (rest : List String)
    (active : List (String × Int)) (w : World) : Prop where
  split : ∃ found items', rest = items'.map MountLine.line ∧
    (found ++ s.resolved items').Perm (s.resolved items) ∧ Populated found w.db active
  frame : w = { w₀ with db := w.db }

/-- What the next line is. -/
theorem LoopInv.next {w₀ : World} {line : String} {rest : List String}
    (h : LoopInv s items w₀ (line :: rest) active w) : ∃ item items' found, line = item.line ∧
      rest = items'.map MountLine.line ∧ Populated found w.db active ∧
      (found ++ ((s.resolveLine item).toList ++ s.resolved items')).Perm (s.resolved items) := by
  obtain ⟨found, items', hrest, hperm, hpop⟩ := h.split
  cases items' with
  | nil => cases hrest
  | cons item items' =>
    have hresolved : s.resolved (item :: items') = (s.resolveLine item).toList ++
        s.resolved items' := by
      unfold SystemView.resolved
      rw [List.filterMap_cons]
      cases s.resolveLine item <;> rfl
    rw [hresolved] at hperm
    rw [List.map_cons, List.cons_eq_cons] at hrest
    exact ⟨item, items', found, hrest.1, hrest.2, hpop, hperm⟩

/-- A line moves its package to those found. -/
theorem LoopInv.step {w₀ : World} {line : String} {rest : List String}
    (hapart : (s.resolved items).Pairwise Apart) (h : LoopInv s items w₀ (line :: rest) active w) :
    wp (populateKernel s lines) (fun _ => True) (populateStep s.inodeMap active line)
      (fun x w' => ∃ active', x = .ok active' ∧ LoopInv s items w₀ rest active' w') w := by
  obtain ⟨item, items', found, rfl, rfl, hpop, hperm⟩ := h.next
  have hpair := (hperm.pairwise_iff fun h => Apart.symm h).2 hapart
  rw [List.pairwise_append] at hpair
  have hnew : ∀ a, s.resolveLine item = some a → ∀ b ∈ found, Apart a b := by
    intro a ha b hb
    refine (hpair.2.2 b hb a ?_).symm
    rw [ha]
    exact List.mem_append_left _ List.mem_cons_self
  refine (wp_populateStep hpop hnew).imp ?_
  rintro _ w' _ ⟨active', rfl, hw', hpop'⟩
  refine ⟨active', rfl, ⟨_, items', rfl, List.Perm.trans ?_ hperm, hpop'⟩, ?_⟩
  · rw [← List.append_assoc]
    exact List.perm_append_comm.append_right _
  · rw [hw', h.frame]

/-- The whole table: the packages of all lines, each once. -/
theorem wp_populateFromMounts (hdb : w.db = []) (hlines : lines = items.map MountLine.line)
    (hapart : (s.resolved items).Pairwise Apart) :
    wp (populateKernel s lines) (fun _ => True) populateFromMounts (fun x w' => x = .ok () ∧
      w' = { w with db := w'.db } ∧ w'.db.Sorted ∧ w'.db.Perm (flagged (s.resolved items))) w := by
  have h0 : LoopInv s items w lines [] w := by
    refine ⟨⟨[], items, hlines, List.Perm.refl _, ?_⟩, rfl⟩
    rw [hdb]
    exact Populated.empty
  unfold populateFromMounts
  refine wp_bind.2 (SystemView.wp_scanFlattenedPackages.imp ?_)
  rintro _ _ _ ⟨rfl, rfl⟩
  refine ⟨trivial, trivial, ?_⟩
  rintro _ w₁ ⟨rfl, rfl⟩
  dsimp only [ret_bind]
  refine wp_bind.2 (wp_foldlM (LoopInv s items w₁) _ (fun line rest active w' _ hinv => ?_)
    (fun active w' hinv => ?_) h0)
  · refine (hinv.step hapart).imp ?_
    rintro _ _ _ ⟨active', rfl, hinv'⟩
    exact hinv'
  · obtain ⟨found, items', hrest, hperm, hpop⟩ := hinv.split
    obtain rfl : items' = [] := List.map_eq_nil_iff.1 hrest.symm
    rw [show s.resolved [] = [] from rfl, List.append_nil] at hperm
    exact ⟨trivial, trivial, rfl, hinv.frame, hpop.sorted, hpop.entries.trans (flagged_perm hperm)⟩

/-- Every call has an outcome, so that the function ends. -/
theorem populateKernel_outcome {c : Sys} (hc : PopulateCmd c)
    (hpre : (populateKernel s lines).pre c w) : ∃ r w', (populateKernel s lines).sem c w r w' := by
  cases c with
  | readDir p => exact ⟨_, _, rfl, rfl⟩
  | isFlattenedApex p => exact ⟨_, _, rfl, rfl⟩
  | inodeFor p => exact ⟨_, _, rfl, rfl⟩
  | procMounts => exact ⟨_, _, rfl, rfl⟩
  | sysBackingFile b => exact ⟨_, _, rfl, rfl⟩
  | sysDmName b => exact ⟨_, _, rfl, rfl⟩
  | sysSlaves b => exact ⟨_, _, rfl, rfl⟩
  | getDb => exact ⟨_, _, rfl, rfl⟩
  | setDb db => exact ⟨(), _, rfl⟩
  | abort m => exact hpre.elim
  | _ => exact hc.elim

/-- **The database is read back exactly**: one entry for each package mount that resolves, the
highest version of each package its latest, whatever the order of the lines; `PopulateFromMounts`
ends without an abort and changes nothing else. -/
theorem populateFromMounts_exact (s : SystemView) (items : List MountLine) (w : World)
    (hdb : w.db = [])
    (hapart : (s.resolved items).Pairwise Apart) : ∃ db : Db, db.Perm (flagged (s.resolved items)) ∧
      ∀ items' : List MountLine, items'.Perm items →
        let K := populateKernel s (items'.map MountLine.line)
        (∀ m k w', ¬ Reaches K populateFromMounts w (call (.abort m) k) w') ∧
        (∃ x w', Ends K populateFromMounts w x w') ∧
        ∀ x w', Ends K populateFromMounts w x w' → x = .ok () ∧ w' = { w with db := db } := by
  have hwp : ∀ items' : List MountLine, items'.Perm items →
      wp (populateKernel s (items'.map MountLine.line))
          (fun _ => True) populateFromMounts (fun x w' =>
        x = .ok () ∧ w' = { w with db := w'.db } ∧ w'.db.Sorted ∧
          w'.db.Perm (flagged (s.resolved items))) w := by
    intro items' hperm
    have hresolved : (s.resolved items').Perm (s.resolved items) := hperm.filterMap _
    have hapart' := (hresolved.pairwise_iff fun h => Apart.symm h).2 hapart
    refine (wp_populateFromMounts hdb rfl hapart').imp ?_
    rintro x w' _ ⟨hx, hw', hsorted, hentries⟩
    exact ⟨hx, hw', hsorted, hentries.trans (flagged_perm hresolved)⟩
  have hends : ∀ items' : List MountLine, items'.Perm items →
      ∃ x w', Ends (populateKernel s (items'.map MountLine.line)) populateFromMounts w x w' ∧
        x = .ok () ∧ w' = { w with db := w'.db } ∧ w'.db.Sorted ∧
          w'.db.Perm (flagged (s.resolved items)) := fun items' hperm =>
    (hwp items' hperm).exists_ends uses_populateFromMounts fun c w hc hpre =>
      populateKernel_outcome hc hpre
  obtain ⟨_, w₀, _, _, _, hsorted₀, hentries₀⟩ := hends items (List.Perm.refl _)
  refine ⟨w₀.db, hentries₀, fun items' hperm => ⟨?_, ?_, ?_⟩⟩
  · intro m k w' hr
    exact ((hwp items' hperm).reaches hr).2.1
  · obtain ⟨x, w', hx, _⟩ := hends items' hperm
    exact ⟨x, w', hx⟩
  · intro x w' hx
    obtain ⟨hok, hw', hsorted, hentries⟩ := (hwp items' hperm).ends hx
    rw [← Db.Sorted.eq_of_perm hsorted hsorted₀ (hentries.trans hentries₀.symm)]
    exact ⟨hok, hw'⟩

end Loop

/-! ## A table with two versions of a package -/

/-- Version 1 is on a loop device, version 2 on a dm device over another one. -/
def twoVersions : SystemView where
  listing _ := .error .enoent
  flattened _ := false
  inode p := .ok (.dir p)
  backingFile b := .ok (if b = "/dev/block/loop0" then "/system/apex/a.apex\n" else
    "/data/apex/active/a@2.apex\n")
  dmName _ := .ok "a@2\n"
  slaves _ := .ok ["/sys/block/dm-0/slaves/loop1"]

def twoVersionsLines : List MountLine :=
  [.other "tmpfs /apex tmpfs rw 0 0" (by decide),
    .package (.ofNat "/dev/block/loop0" "a" 1 "ext4 ro 0 0" (by decide) (by simp) (by decide)),
    .package (.ofNat "/dev/block/dm-0" "a" 2 "ext4 ro 0 0" (by decide) (by simp) (by decide)),
    .other "/dev/block/dm-0 /apex/a ext4 ro 0 0" (by decide)]

theorem populateFromMounts_exact_two : ∃ db : Db, db.Perm
    [⟨"a", ⟨"/dev/block/loop0", "/system/apex/a.apex", "/apex/a@1", ""⟩, false⟩,
      ⟨"a", ⟨"/dev/block/loop1", "/data/apex/active/a@2.apex", "/apex/a@2", "a@2"⟩, true⟩] ∧
    ∀ x w', Ends (populateKernel twoVersions (twoVersionsLines.reverse.map MountLine.line))
      populateFromMounts (World.ofDirs []) x w' → x = .ok () ∧ w'.db = db := by
  have hresolved : twoVersions.resolved twoVersionsLines =
      [⟨"a", 1, ⟨"/dev/block/loop0", "/system/apex/a.apex", "/apex/a@1", ""⟩⟩,
        ⟨"a", 2, ⟨"/dev/block/loop1", "/data/apex/active/a@2.apex", "/apex/a@2", "a@2"⟩⟩] := by
    decide
  have hapart : (twoVersions.resolved twoVersionsLines).Pairwise Apart := by
    rw [hresolved, List.pairwise_pair]
    constructor <;> decide
  obtain ⟨db, hperm, hall⟩ := populateFromMounts_exact twoVersions twoVersionsLines
    (World.ofDirs []) rfl hapart
  refine ⟨db, ?_, fun x w' hx => ?_⟩
  · rw [hresolved] at hperm
    exact hperm
  · obtain ⟨hok, rfl⟩ := (hall _ twoVersionsLines.reverse_perm).2.2 x w' hx
    exact ⟨hok, rfl⟩

end Apexd
