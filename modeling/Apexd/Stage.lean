import Apexd.Activate
import Apexd.Hooks

/-!
# Staging packages

`stagePackages` with `FilterUnnecessaryStagingPaths` and `RemovePreviouslyActiveApexFiles`, and
`unstagePackages` (`apexd.cpp`).
-/

set_option autoImplicit false

namespace Apexd

open Text Prog

/-- For a name that holds no NUL, where `%s` would end, and no slash: the system resolves the
path. -/
def stageDestPath (apex : ApexFile) : String :=
  join kActiveApexPackagesDataDir (getPackageId apex.manifest ++ kApexPackageSuffix)

/-- `filter_fn`: whether a package has to be staged. -/
def isStagingNecessary (packagesWithCode : List (String × Nat)) (path : String) : ApexM Bool := do
  match ← (openApex path).attempt with
  | .error _ => ret true
  | .ok apex => do
    match ← sys (.access (stageDestPath apex)) with
    | .ok _ => ret false
    | .error _ =>
      ret (decide (packagesWithCode.lookup apex.manifest.name ≠ some (u64 apex.manifest.version)))

def filterStagingStep (packagesWithCode : List (String × Nat)) (paths : List String)
    (path : String) : ApexM (List String) := do
  let necessary ← isStagingNecessary packagesWithCode path
  ret (if necessary then paths ++ [path] else paths)

def filterUnnecessaryStagingPaths (tmpPaths : List String) : ApexM (List String) := do
  let packagesWithCode ← getActivePackagesMap
  tmpPaths.foldlM (filterStagingStep packagesWithCode) []

/-- `staged_files` and `staged_packages`. -/
structure Staged where
  files : List String
  packages : List String

/-- The scope guard of `stagePackages`. -/
def Staged.undo (s : Staged) : ApexM Unit := s.files.forM fun path => do
  let _ ← sys (.unlinkRetry path)
  ret ()

/-- Link one package into the active directory. -/
def stageLink (s : Staged) (path : String) : ApexM Staged := do
  let apex ← openApex path
  sys (.link apex.path (stageDestPath apex)) >>=
    check ("Unable to link " ++ apex.path ++ " to " ++ stageDestPath apex)
  ret ⟨s.files ++ [stageDestPath apex], s.packages ++ [apex.manifest.name]⟩

def stageLoop : List String → Staged → ApexM Staged
  | [], s => ret s
  | path :: rest, s => do
    let s' ← (stageLink s path).onFail s.undo
    stageLoop rest s'

/-- One file of the active directory: it goes if its package was staged and it was not. -/
def removePreviouslyActiveStep (affectedPackages filesToKeep : List String) (path : String) :
    ApexM Unit := do
  let apex ← openApex path
  if !affectedPackages.contains apex.manifest.name then ret ()
  else if filesToKeep.contains apex.path then ret ()
  else sys (.unlink apex.path) >>= check ("Failed to unlink " ++ apex.path)

def removePreviouslyActiveApexFiles (affectedPackages filesToKeep : List String) : ApexM Unit := do
  let all ← findApexFilesByName kActiveApexPackagesDataDir false
  all.forM (removePreviouslyActiveStep affectedPackages filesToKeep)

def stagePackages (cfg : Config) (tmpPaths : List String) : ApexM Unit := do
  require (!tmpPaths.isEmpty) "Empty set of inputs"
  let _ ← verifyPackages tmpPaths (verifyPackageBoot cfg)
  createDirIfNeeded kActiveApexPackagesDataDir 0o750
  let pathsToStage ← filterUnnecessaryStagingPaths tmpPaths
  if pathsToStage.isEmpty then ret ()
  else do
    let staged ← stageLoop pathsToStage ⟨[], []⟩
    removePreviouslyActiveApexFiles staged.packages staged.files

/-- One loop checks that all files are there, a second one removes them. -/
def unstagePackages (paths : List String) : ApexM Unit := do
  require (!paths.isEmpty) "Empty set of inputs"
  paths.forM fun path => sys (.access path) >>= check ("Can't access " ++ path)
  paths.forM fun path => sys (.unlink path) >>= check ("Can't unlink " ++ path)

end Apexd
