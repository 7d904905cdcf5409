import Apexd.Mount

/-!
# Pre- and post-install hooks

`StageFnInstall` of `apexd_prepostinstall.cpp`: mount every package that is not mounted yet, make
its active mount point and run the hook in a child process; a scope guard takes all of it down
again.  `PrePostinstallPackages` runs it when a package has a hook.
-/

set_option autoImplicit false

namespace Apexd

open Text Prog

/-- The manifest field a hook is named in, with the names used for it. -/
inductive HookKind where
  | preInstall
  | postInstall
  deriving DecidableEq

def HookKind.fn : HookKind → ApexManifest → String
  | .preInstall => ApexManifest.preInstallHook
  | .postInstall => ApexManifest.postInstallHook

def HookKind.arg : HookKind → String
  | .preInstall => "--pre-install"
  | .postInstall => "--post-install"

def HookKind.name : HookKind → String
  | .preInstall => "pre-install"
  | .postInstall => "post-install"

/-- The loop that looks for the package with the hook. -/
def findHookFile (kind : HookKind) :
    List ApexFile → Option ApexFile → Except String (Option ApexFile)
  | [], hookFile => .ok hookFile
  | f :: rest, hookFile =>
    if kind.fn f.manifest = "" then findHookFile kind rest hookFile else
    match hookFile with
    | some _ => .error ("Missing support for multiple " ++ kind.name ++ " hooks")
    | none => findHookFile kind rest (some f)

/-- What the scope guard has to undo: `mounted_apexes` and `activation_dirs`. -/
structure HookMounts where
  mountedApexes : List ApexFile
  activationDirs : List String

def HookMounts.undo (m : HookMounts) : ApexM Unit := do
  m.mountedApexes.forM fun f => logged (unmountPackage f false)
  m.activationDirs.forM fun dir => do
    let _ ← sys (.rmdir dir)
    ret ()

/-- The first step for a package: mount it unless it is mounted; says whether it did. -/
def hookMount (cfg : Config) (apex : ApexFile) : ApexM Bool := do
  let mounted ← isMounted apex.manifest.name apex.path
  if mounted then ret false
  else do
    mountPackage cfg apex (getPackageMountPoint apex.manifest)
    ret true

/-- The second step: the active mount point; says whether it was made. -/
def hookActivationDir (apex : ApexFile) : ApexM Bool := do
  match ← sys (.mkdir (getActiveMountPoint apex.manifest) kMkdirMode) with
  | .ok _ => ret true
  | .error .eexist => ret false
  | .error e => fail ("Unable to create mount point" ++ getActiveMountPoint apex.manifest ++ ": " ++
      e.strerror)

/-- The loop over the packages and what follows it, under the scope guard: `m` is what the guard
undoes on every way out. -/
def stageFnInstallLoop (cfg : Config) (run : ApexM Unit) : List ApexFile → HookMounts → ApexM Unit
  | [], m => run.andThen m.undo
  | apex :: rest, m => do
    let mounted ← (hookMount cfg apex).onFail m.undo
    let m := if mounted then { m with mountedApexes := m.mountedApexes ++ [apex] } else m
    let made ← (hookActivationDir apex).onFail m.undo
    let m := if made then
      { m with activationDirs := m.activationDirs ++ [getActiveMountPoint apex.manifest] } else m
    stageFnInstallLoop cfg run rest m

/-- The package with the hook comes first; no other one has a hook. -/
def hookArgs (kind : HookKind) (apexes : List ApexFile) (hookFile : ApexFile) : List String :=
  ["/system/bin/apexd", kind.arg, hookFile.path] ++
    ((apexes.filter fun f => kind.fn f.manifest = "").map (·.path))

def stageFnInstall (cfg : Config) (kind : HookKind) (apexes : List ApexFile) : ApexM Unit := do
  match ← ofExcept (findHookFile kind apexes none) with
  | none => abort "Check failed: hook_file != nullptr"
  | some hookFile =>
    let run : ApexM Unit := do
      let ran ← sys (.forkAndRun (hookArgs kind apexes hookFile))
      ofExcept ran
    stageFnInstallLoop cfg run apexes ⟨[], []⟩

/-- `PrePostinstallPackages`. -/
def prePostinstallPackages (cfg : Config) (kind : HookKind) (apexes : List ApexFile) :
    ApexM Unit := do
  require (!apexes.isEmpty) "Empty set of inputs"
  if apexes.any fun f => kind.fn f.manifest ≠ "" then stageFnInstall cfg kind apexes else ret ()

end Apexd
