import Apexd.Utils

/-!
# Mounting and unmounting packages

Loop devices (`apexd_loop.cpp`), dm-verity devices, `MountPackageImpl`, `Unmount`,
`UnmountPackage` (`apexd.cpp`), `BindMount` (`apexd_private.cpp`) and the calls into the database
of mounted packages.

* A destructor or a scope guard is `onFail` where success disarms it.
* `abort` stands for a failed `CHECK` and for `LOG(FATAL)`.
-/

set_option autoImplicit false

namespace Apexd

open Text Prog

/-! ## Loop devices -/

def configureReadAhead (devicePath : String) : ApexM Unit := do
  require (startsWith devicePath "/dev/block/") "Device path does not start with /dev/block."
  let sysfsDevice := join (join "/sys/block" (baseName devicePath)) "queue/read_ahead_kb"
  sys (.openDevice sysfsDevice) >>= check ("Failed to open " ++ sysfsDevice)
  sys (.writeReadAhead sysfsDevice) >>= check ("Failed to write to " ++ sysfsDevice)

/-- The destructor of `LoopbackDeviceUniqueFd` on a device that was not accepted. -/
def maybeCloseBad (device : String) : ApexM Unit := do
  let _ ← sys (.loopClrFd device)
  ret ()

/-- The attempts to open a loop device whose node may not be there yet. -/
def openLoopDevice (device : String) : Nat → ApexM Unit
  | 0 => fail ("Failed to open " ++ device)
  | n + 1 => do
    match ← sys (.openDevice device) with
    | .ok _ => ret ()
    | .error e =>
      if n = 0 then fail (perror ("Failed to open " ++ device) e) else openLoopDevice device n

/-- What is done to a loop device once it is open. -/
def setUpLoopDevice (device target : String) (imageOffset : Int) (imageSize : Nat) :
    ApexM Unit := do
  sys (.loopSetFd device target) >>= check "Failed to LOOP_SET_FD"
  sys (.loopSetStatus device imageOffset imageSize kApexLoopIdPrefix) >>=
    check "Failed to LOOP_SET_STATUS64"
  sys (.loopFlush device) >>= check "Failed to flush buffers on the loop device"
  match ← sys (.loopSetBlockSize device 4096) with
  | .error _ => ret ()
  | .ok _ => do
    let _ ← sys (.loopSetDirectIo device)
    ret ()
  configureReadAhead device

def createLoopDevice (target : String) (imageOffset : Int) (imageSize : Nat) : ApexM String := do
  sys (.openDevice "/dev/loop-control") >>= check "Failed to open loop-control"
  let num ← sys .loopGetFree >>= check "Failed LOOP_CTL_GET_FREE"
  sys (.openFile target) >>= check ("Failed to open " ++ target)
  openLoopDevice (loopName num) kLoopDeviceRetryAttempts
  (setUpLoopDevice (loopName num) target imageOffset imageSize).onFail
    (maybeCloseBad (loopName num))
  ret (loopName num)

/-- The attempts of `mountNonFlattened` to get a loop device. -/
def createLoopDeviceLoop (apex : ApexFile) : Nat → ApexM String
  | 0 => fail ("Could not create loop device for " ++ apex.path)
  | n + 1 => do
    match ← (createLoopDevice apex.path apex.imageOffset apex.imageSize).attempt with
    | .ok device => ret device
    | .error e =>
      if n = 0 then fail ("Could not create loop device for " ++ apex.path ++ ": " ++ e)
      else createLoopDeviceLoop apex n

/-- `DestroyLoopDevice`; only devices that carry the prefix of apexd are freed. -/
def destroyLoopDevice (path : String) : ApexM Unit := do
  match ← sys (.openDevice path) with
  | .error _ => ret ()
  | .ok _ => do
    match ← sys (.loopGetStatus path) with
    | .error _ => ret ()
    | .ok id =>
      if startsWith id kApexLoopIdPrefix then do
        let _ ← sys (.loopClrFd path)
        ret ()
      else ret ()

/-! ## dm-verity devices -/

def createVerityTable (verityData : ApexVerityData) (loop : String) (restartOnCorruption : Bool) :
    VerityTable where
  length := verityData.desc.imageSize / 512
  version := verityData.desc.dmVerityVersion
  device := loop
  dataBlockSize := verityData.desc.dataBlockSize
  hashBlockSize := verityData.desc.hashBlockSize
  numDataBlocks := verityData.desc.imageSize / verityData.desc.dataBlockSize
  hashStartBlock := verityData.desc.treeOffset / verityData.desc.hashBlockSize
  hashAlgorithm := verityData.desc.hashAlgorithm
  rootDigest := verityData.rootDigest
  salt := verityData.salt
  restartOnCorruption := restartOnCorruption

def deleteVerityDevice (name path : String) : ApexM Unit := do
  let deleted ← sys (.dmDelete name)
  require deleted ("Failed to delete device " ++ name ++ " with path " ++ path)
  waitForDevice path .kWaitToBeDeleted

def deleteVerityDeviceByName (name : String) : ApexM Unit := do
  match ← sys (.dmGetPath name) with
  | none => fail ("Unable to get path for dm-verity device " ++ name)
  | some path => deleteVerityDevice name path

/-- Run a program whose failure is only logged. -/
def logged (p : ApexM Unit) : ApexM Unit := do
  let _ ← (p.attempt : ApexM (Except String Unit))
  ret ()

/-- The path of a device that was created. -/
def createdPath (name : String) : ApexM String := do
  match ← sys (.dmGetPath name) with
  | none => fail "Couldn't get verity device path!"
  | some path => ret path

/-- The path of the new device; a device whose path cannot be found is deleted again. -/
def createVerityDevice (name : String) (table : VerityTable) : ApexM String := do
  let exists? ← sys (.dmGetState name)
  when exists? (logged (deleteVerityDeviceByName name))
  let created ← sys (.dmCreate name table)
  require created "Couldn't create verity device."
  (createdPath name).onFail (deleteVerityDevice name "")

/-! ## Images -/

def readVerityDevice (verityDevice : String) (deviceSize : Nat) : ApexM Unit :=
  sys (.readVerityDevice verityDevice deviceSize) >>=
    check ("Can't verify " ++ verityDevice ++ "; corrupted?")

def verifyManifestMatches (apex : ApexFile) (mountPath : String) : ApexM Unit := do
  match ← sys (.readManifest mountPath) with
  | .error e => fail e
  | .ok manifest =>
    require (apex.manifest = manifest)
      "Manifest inside filesystem does not match manifest outside it"

def isShimApex (apex : ApexFile) : Bool := apex.manifest.name = kApexCtsShimPackage

def validateShimApex (mountPoint : String) (apex : ApexFile) : ApexM Unit := do
  require (apex.manifest.preInstallHook = "" && apex.manifest.postInstallHook = "")
    "Shim apex is not allowed to have pre or post install hooks"
  let scanned ← sys (.scanShim mountPoint)
  ofExcept scanned

def verifyMountedImage (apex : ApexFile) (mountPoint : String) : ApexM Unit := do
  verifyManifestMatches apex mountPoint
  if isShimApex apex then validateShimApex mountPoint apex else ret ()

def mountOnVerity (cfg : Config) (path : String) : Bool :=
  cfg.forceDmVerityOnSystem || !isPathForBuiltinApexes path

/-- The mount itself; it goes again if the image is not accepted. -/
def mountVerified (apex : ApexFile) (blockDevice mountPoint : String) : ApexM Unit := do
  match ← sys (.mount blockDevice mountPoint) with
  | .error e => fail ("Mounting failed for package " ++ apex.path ++ " : " ++ e.strerror)
  | .ok _ =>
    (verifyMountedImage apex mountPoint).attempt >>= fun
      | .ok _ => ret ()
      | .error e => do
        let _ ← sys (.umount2 mountPoint)
        fail ("Failed to verify " ++ apex.path ++ ": " ++ e)

/-- From a block device to a verified mount; `readSize` is there when the whole device is to be read
through dm-verity first. -/
def mountBlockDevice (apex : ApexFile) (blockDevice mountPoint : String) (readSize : Option Nat) :
    ApexM Unit := do
  waitForDevice blockDevice .kWaitToBeCreated
  match readSize with
  | some size => readVerityDevice blockDevice size
  | none => ret ()
  mountVerified apex blockDevice mountPoint

theorem mountBlockDevice_none (apex : ApexFile) (blockDevice mountPoint : String) :
    mountBlockDevice apex blockDevice mountPoint none =
      (waitForDevice blockDevice .kWaitToBeCreated >>=
        fun _ => mountVerified apex blockDevice mountPoint) := rfl

theorem mountBlockDevice_some (apex : ApexFile) (blockDevice mountPoint : String) (size : Nat) :
    mountBlockDevice apex blockDevice mountPoint (some size) =
      (waitForDevice blockDevice .kWaitToBeCreated >>= fun _ =>
        readVerityDevice blockDevice size >>= fun _ => mountVerified apex blockDevice mountPoint) :=
          rfl

/-- The part of `mountNonFlattened` in which the loop device is not accepted yet. -/
def mountLoopDevice (cfg : Config) (apex : ApexFile) (loop mountPoint deviceName : String)
    (verifyImage : Bool) : ApexM Unit := do
  let verity ← sys (.verifyApexVerity apex.path)
  let verityData ← (ofExcept verity : ApexM ApexVerityData).mapErr
    ("Failed to verify Apex Verity data for " ++ apex.path ++ ": " ++ ·)
  if mountOnVerity cfg apex.path then do
    let device ← (createVerityDevice deviceName
      (createVerityTable verityData loop !verifyImage)).mapErr
      ("Failed to create Apex Verity device " ++ apex.path ++ ": " ++ ·)
    let rest : ApexM Unit := do
      configureReadAhead device
      mountBlockDevice apex device mountPoint
        (if verifyImage then some verityData.desc.imageSize else none)
    rest.onFail (deleteVerityDevice deviceName device)
  else mountBlockDevice apex loop mountPoint none

def mountNonFlattened (cfg : Config) (apex : ApexFile) (mountPoint deviceName : String)
    (verifyImage : Bool) : ApexM MountedApexData := do
  require cfg.updatable ("Unable to mount non-flattened apex package " ++ apex.path ++
    " because device doesn't support it")
  let loop ← createLoopDeviceLoop apex kLoopDeviceSetupAttempts
  (mountLoopDevice cfg apex loop mountPoint deviceName verifyImage).onFail (maybeCloseBad loop)
  ret ⟨loop, apex.path, mountPoint, deviceName⟩

def mountFlattened (apex : ApexFile) (mountPoint : String) : ApexM MountedApexData := do
  require (isPathForBuiltinApexes apex.path) ("Cannot activate flattened APEX " ++ apex.path)
  sys (.bindMount apex.path mountPoint) >>=
    check ("Mounting failed for flattened package " ++ apex.path)
  ret ⟨"", apex.path, mountPoint, ""⟩

/-- The part of `MountPackageImpl` under the scope guard. -/
def mountInto (cfg : Config) (apex : ApexFile) (mountPoint deviceName : String)
    (verifyImage : Bool) : ApexM MountedApexData := do
  let empty ← isEmptyDirectory mountPoint
  when (!empty) (failErrno (mountPoint ++ " is not empty"))
  if apex.flattened then mountFlattened apex mountPoint
  else mountNonFlattened cfg apex mountPoint deviceName verifyImage

/-- The scope guard. -/
def removeMountPoint (mountPoint : String) : ApexM Unit := do
  let _ ← sys (.rmdir mountPoint)
  ret ()

def mountPackageImpl (cfg : Config) (apex : ApexFile) (mountPoint deviceName : String)
    (verifyImage : Bool) : ApexM MountedApexData := do
  let exists? ← pathExists mountPoint
  when (!exists?)
    (sys (.mkdir mountPoint kMkdirMode) >>= check ("Could not create mount point " ++ mountPoint))
  (mountInto cfg apex mountPoint deviceName verifyImage).onFail (removeMountPoint mountPoint)

/-- `Unmount`: only a failed `umount2` is reported. -/
def unmount (data : MountedApexData) : ApexM Unit := do
  match ← sys (.umount2 data.mountPoint) with
  | .ok _ => ret ()
  | .error e =>
    require (e = .einval || e = .enoent)
      (perror ("Failed to unmount directory " ++ data.mountPoint) e)
  let _ ← sys (.rmdir data.mountPoint)
  when (data.deviceName ≠ "") (logged (deleteVerityDeviceByName data.deviceName))
  when (data.loopName ≠ "") (destroyLoopDevice data.loopName)

/-! ## Mount points -/

/-- For a name that holds no NUL, where `%s` would end. -/
def getPackageMountPoint (manifest : ApexManifest) :
    String := join kApexRoot (getPackageId manifest)

/-- For a name that holds no NUL. -/
def getActiveMountPoint (manifest : ApexManifest) : String := join kApexRoot manifest.name

/-- `BindMount`: whatever is mounted on the target is detached first. -/
def bindMount (target source : String) : ApexM Unit := do
  let mkdir : ApexM Unit :=
    sys (.mkdir target kMkdirMode) >>= check ("Could not create mountpoint " ++ target)
  let umount : ApexM Unit := do
    let _ ← sys (.umount2 target)
    ret ()
  match ← sys (.stat target) with
  | .error .enoent => mkdir
  | .error _ => umount
  | .ok st =>
    if st.isDir then umount
    else do
      let _ ← sys (.unlink target)
      mkdir
  sys (.bindMount source target) >>= check ("Could not bind-mount " ++ source ++ " to " ++ target)

/-! ## The database -/

/-- The process ends. -/
def abort {α : Type} (msg : String) : ApexM α := do
  let never ← sys (.abort msg)
  never.elim

def addMountedApex (package : String) (latest : Bool) (data : MountedApexData) : ApexM Unit := do
  let db ← sys .getDb
  match db.addMountedApex package latest data with
  | none => abort "Check failed"
  | some db' => sys (.setDb db')

def removeMountedApex (package fullPath : String) : ApexM Unit := do
  let db ← sys .getDb
  sys (.setDb (db.removeMountedApex package fullPath))

def setLatest (package fullPath : String) : ApexM Unit := do
  let db ← sys .getDb
  match db.setLatest package fullPath with
  | none => abort ("Did not find " ++ package ++ " " ++ fullPath)
  | some db' => sys (.setDb db')

def isMounted (name fullPath : String) : ApexM Bool := do
  let db ← sys .getDb
  ret ((db.forallMountedApexes name).any fun e => e.data.fullPath = fullPath)

def mountPackage (cfg : Config) (apex : ApexFile) (mountPoint : String) : ApexM Unit := do
  let data ← mountPackageImpl cfg apex mountPoint (getPackageId apex.manifest) false
  addMountedApex apex.manifest.name false data

/-- `UnmountPackage`; the last entry with the path of the package decides. -/
def unmountPackage (apex : ApexFile) (allowLatest : Bool) : ApexM Unit := do
  let db ← sys .getDb
  match ((db.forallMountedApexes apex.manifest.name).filter
      fun e => e.data.fullPath = apex.path).getLast? with
  | none => fail ("Did not find " ++ apex.path)
  | some e => do
    when e.latest do
      require allowLatest ("Package " ++ apex.path ++ " is active")
      let mountPoint := getActiveMountPoint apex.manifest
      sys (.umount2 mountPoint) >>= check ("Failed to unmount " ++ mountPoint)
      let _ ← sys (.rmdir mountPoint)
      ret ()
    removeMountedApex apex.manifest.name apex.path
    unmount e.data

end Apexd
