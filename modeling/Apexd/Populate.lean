import Apexd.Activate

/-!
# The database after a restart

`MountedApexDatabase::PopulateFromMounts` (`apex_database.cpp`): the mounts below `/apex` are read
back from `/proc/mounts` and resolved through sysfs.
-/

set_option autoImplicit false

namespace Apexd

open Text Prog

def parseMountInfo (mountInfo : String) : String × String :=
  match split mountInfo ' ' with
  | block :: mountPoint :: _ => (block, mountPoint)
  | _ => ("", "")

def parseMountPoint (mountPoint : String) : String × Int :=
  match split (baseName mountPoint) '@' with
  | [package, version] => (package, (parseInt version).getD (-1))
  | _ => (baseName mountPoint, -1)

def isActiveMountPoint (mountPoint : String) : Bool := !mountPoint.toList.contains '@'

/-- `BlockDeviceType`. -/
inductive BlockDeviceType where
  | UnknownDevice
  | LoopDevice
  | DeviceMapperDevice
  deriving DecidableEq

/-- The type of a block device, by the last component of its path. -/
def blockDeviceType (block : String) : BlockDeviceType :=
  if startsWith (baseName block) "loop" then .LoopDevice
  else if startsWith (baseName block) "dm-" then .DeviceMapperDevice
  else .UnknownDevice

/-- `DevPath`. -/
def devPath (block : String) : String := join "/dev/block" (baseName block)

/-- `inode_map`: the last path of an inode stays. -/
abbrev InodeMap := List (Inode × String)

def scanFlattenedPackagesEntry (map : InodeMap) (path : String) : ApexM InodeMap := do
  let flattened ← sys (.isFlattenedApex path)
  if flattened then do
    match ← sys (.inodeFor path) with
    | .error _ => ret map
    | .ok inode => ret ((inode, path) :: map)
  else ret map

def scanFlattenedPackagesDir (map : InodeMap) (dir : String) : ApexM InodeMap := do
  match ← (readDir dir fun _ => true).attempt with
  | .error _ => ret map
  | .ok paths => paths.foldlM scanFlattenedPackagesEntry map

/-- `scanFlattendedPackages`. -/
def scanFlattenedPackages :
    ApexM InodeMap := kApexPackageBuiltinDirs.foldlM scanFlattenedPackagesDir []

/-- `loop/backing_file` of a loop device. -/
def getBackingFile (block : String) : ApexM String := do
  match ← sys (.sysBackingFile (devPath block)) with
  | .error e => fail (perror "Fail to read" e)
  | .ok file => ret (trim file)

def resolveMountInfo (block mountPoint : String) (inodeMap : InodeMap) : ApexM MountedApexData := do
  let flattened : Option String := match ← sys (.inodeFor mountPoint) with
    | .error _ => none
    | .ok inode => inodeMap.lookup inode
  match flattened with
  | some path => ret ⟨"", path, mountPoint, ""⟩
  | none =>
    match blockDeviceType block with
    | .LoopDevice => do
      let backingFile ← getBackingFile block
      ret ⟨devPath block, backingFile, mountPoint, ""⟩
    | .DeviceMapperDevice => do
      let read ← sys (.sysDmName (devPath block))
      let name ← check "Fail to read" read
      let slaves := match ← sys (.sysSlaves (devPath block)) with
        | .error _ => []
        | .ok slaves => slaves
      match slaves with
      | [] => fail "DeviceMapper device with no loop devices"
      | slave :: _ => do
        require (blockDeviceType slave = .LoopDevice) "DeviceMapper device with no loop devices"
        let backingFile ← getBackingFile slave
        ret ⟨devPath slave, backingFile, mountPoint, trim name⟩
    | .UnknownDevice => fail ("Can't resolve " ++ devPath block)

/-- `activeVersions[package]`. -/
def activeVersion (activeVersions : List (String × Int)) (package : String) : Int :=
  (activeVersions.lookup package).getD 0

/-- One line of `/proc/mounts`. -/
def populateStep (inodeMap : InodeMap) (activeVersions : List (String × Int)) (line : String) :
    ApexM (List (String × Int)) := do
  let (block, mountPoint) := parseMountInfo line
  if dirName mountPoint ≠ kApexRoot || isActiveMountPoint mountPoint then ret activeVersions
  else do
    match ← (resolveMountInfo block mountPoint inodeMap).attempt with
    | .error _ => ret activeVersions
    | .ok mountData => do
      let (package, version) := parseMountPoint mountPoint
      addMountedApex package false mountData
      if activeVersion activeVersions package < version then do
        setLatest package mountData.fullPath
        ret ((package, version) :: activeVersions)
      else ret activeVersions

def populateFromMounts : ApexM Unit := do
  let inodeMap ← scanFlattenedPackages
  let lines ← sys .procMounts
  let _ ← lines.foldlM (populateStep inodeMap) []
  ret ()

/-! ## The calls they make -/

/-- The calls of `PopulateFromMounts`. -/
def PopulateCmd : Sys → Prop
  | .readDir _ => True
  | .isFlattenedApex _ => True
  | .inodeFor _ => True
  | .procMounts => True
  | .sysBackingFile _ => True
  | .sysDmName _ => True
  | .sysSlaves _ => True
  | .getDb => True
  | .setDb _ => True
  | .abort _ => True
  | _ => False

section Uses

variable {S : Sys → Prop}

theorem uses_addMountedApex (package : String) (latest : Bool) (data : MountedApexData)
    (hg : S .getDb)
    (hs : ∀ db, S (.setDb db)) (ha : ∀ m, S (.abort m)) :
    (addMountedApex package latest data).Uses S := by
  refine uses_exec_bind hg fun db => ?_
  cases db.addMountedApex package latest data with
  | none => exact uses_exec_bind (ha _) fun r => r.elim
  | some db' => exact uses_exec (hs db')

theorem uses_setLatest (package path : String) (hg : S .getDb) (hs : ∀ db, S (.setDb db))
    (ha : ∀ m, S (.abort m)) : (setLatest package path).Uses S := by
  refine uses_exec_bind hg fun db => ?_
  cases db.setLatest package path with
  | none => exact uses_exec_bind (ha _) fun r => r.elim
  | some db' => exact uses_exec (hs db')

theorem uses_getBackingFile (block : String) : (getBackingFile block).Uses PopulateCmd := by
  unfold getBackingFile
  rw [bind_eq, exec_bind]
  refine ⟨trivial, fun r => ?_⟩
  cases r with
  | error e => exact uses_fail _
  | ok file => exact uses_ret _

theorem uses_resolveMountInfo (block mountPoint : String) (map : InodeMap) :
    (resolveMountInfo block mountPoint map).Uses PopulateCmd := by
  unfold resolveMountInfo
  simp only [bind_eq, exec_bind]
  split
  all_goals
    refine ⟨trivial, fun r => ?_⟩
    dsimp only
    split
    · exact uses_ret _
  · exact uses_bind (uses_getBackingFile _) fun _ => uses_ret _
  · refine ⟨trivial, fun r => uses_bind (uses_check _ r) fun name => ⟨trivial, fun r => ?_⟩⟩
    dsimp only
    split
    · exact uses_fail _
    · -- the test on the slave's name must not be evaluated
      generalize decide (_ = BlockDeviceType.LoopDevice) = b
      refine uses_bind (uses_require b _) fun _ => ?_
      exact uses_bind (uses_getBackingFile _) fun _ => uses_ret _
  · exact uses_fail _

theorem uses_scanFlattenedPackages : scanFlattenedPackages.Uses PopulateCmd := by
  refine uses_foldlM _ _ fun map dir _ => uses_bind (uses_attempt (uses_readDir trivial)) fun x =>
    ?_
  cases x with
  | error e => trivial
  | ok paths =>
    refine uses_foldlM _ _ fun m p _ => uses_exec_bind trivial fun b => ?_
    split
    · refine uses_exec_bind trivial fun r => ?_
      cases r <;> trivial
    · trivial

theorem uses_populateFromMounts : populateFromMounts.Uses PopulateCmd := by
  refine uses_bind uses_scanFlattenedPackages fun map => uses_exec_bind trivial fun lines =>
    uses_bind (uses_foldlM _ _ fun active line _ => ?_) fun _ => trivial
  · unfold populateStep
    dsimp only
    generalize (decide (_ ≠ kApexRoot) || isActiveMountPoint _) = b
    cases b with
    | true => exact uses_ret _
    | false =>
      refine uses_bind (uses_attempt (uses_resolveMountInfo _ _ _)) fun x => ?_
      cases x with
      | error e => exact uses_ret _
      | ok data =>
        generalize parseMountPoint _ = x
        refine uses_bind (uses_addMountedApex _ _ _ trivial (fun _ => trivial) fun _ => trivial)
          fun _ => ?_
        split
        · exact uses_bind (uses_setLatest _ _ trivial (fun _ => trivial) fun _ => trivial)
            fun _ => uses_ret _
        · exact uses_ret _

end Uses

end Apexd
