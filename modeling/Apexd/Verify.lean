import Apexd.Mount

/-!
# Verifying packages

`VerifyPackageBoot` and `VerifyPackageInstall`, which temp-mount packages, `verifyPackages`,
`HandlePackages` and `verifySessionDir` (`apexd.cpp`), with the checks of `apex_shim.cpp`.
-/

set_option autoImplicit false

namespace Apexd

open Text Prog

def getPackageTempMountPoint (manifest : ApexManifest) : String :=
  getPackageMountPoint manifest ++ ".tmp"

def verifyAndTempMountPackage (cfg : Config) (apex : ApexFile) (mountPoint : String) :
    ApexM MountedApexData :=
  mountPackageImpl cfg apex mountPoint (getPackageId apex.manifest ++ ".tmp") true

/-- `RunVerifyFnInsideTempMount`: the image is unmounted whatever the check says. -/
def runVerifyFnInsideTempMount (cfg : Config) (apex : ApexFile) (verifyFn : String → ApexM Unit) :
    ApexM Unit := do
  let tempMountPoint := getPackageTempMountPoint apex.manifest
  let data ← verifyAndTempMountPackage cfg apex tempMountPoint
  (verifyFn tempMountPoint).andThen (unmount data)

/-- The update of the shim package must be one that the system's shim lists. -/
def validateUpdate (systemApexPath newApexPath : String) : ApexM Unit := do
  let read ← sys (.readSha512 systemApexPath)
  let allowed ← ofExcept read
  let calculated ← sys (.calculateSha512 newApexPath)
  let actual ← ofExcept calculated
  require (allowed.contains actual) (newApexPath ++ " has unexpected SHA512 hash " ++ actual)

/-- `ApexFile::Open`. -/
def openApex (path : String) : ApexM ApexFile := do
  let opened ← sys (.openApex path)
  ofExcept opened

def validateStagingShimApex (cfg : Config) (toApex : ApexFile) : ApexM Unit := do
  let systemShim ← openApex (join kApexPackageSystemDir kSystemShimApexName)
  runVerifyFnInsideTempMount cfg systemShim fun systemApexPath =>
    validateUpdate systemApexPath toApex.path

def verifyPackageBoot (cfg : Config) (apex : ApexFile) : ApexM Unit := do
  require (!apex.flattened) "Can't upgrade flattened apex"
  let verity ← sys (.verifyApexVerity apex.path)
  let _ ← (ofExcept verity : ApexM ApexVerityData)
  if isShimApex apex then validateStagingShimApex cfg apex else ret ()

def verifyPackageInstall (cfg : Config) (apex : ApexFile) : ApexM Unit := do
  verifyPackageBoot cfg apex
  require cfg.updatable ("Attempted to upgrade apex package " ++ apex.path ++
    " on a device that doesn't support it")
  let _ ← sys (.verifyApexVerity apex.path)
  runVerifyFnInsideTempMount cfg apex fun _ => ret ()

/-- The first half of `HandlePackages`: open all packages. -/
def openApexes (paths : List String) : ApexM (List ApexFile) := paths.mapM openApex

def verifyPackages (paths : List String) (verifyApexFn : ApexFile → ApexM Unit) :
    ApexM (List ApexFile) := do
  require (!paths.isEmpty) "Empty set of inputs"
  let apexes ← openApexes paths
  apexes.forM verifyApexFn
  ret apexes

def sessionDirPath (sessionId : Int32) :
    String := kStagedSessionsDir ++ "/session_" ++ toString sessionId

def verifySessionDir (cfg : Config) (sessionId : Int32) : ApexM ApexFile := do
  let scan ← findApexFilesByName (sessionDirPath sessionId) false
  require (scan.length ≤ 1) "More than one APEX package found in the same session directory."
  let verified ← verifyPackages scan (verifyPackageInstall cfg)
  match verified with
  | [] => fail "Empty set of inputs"
  | apex :: _ => ret apex

end Apexd
