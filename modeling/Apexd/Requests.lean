import Apexd.Populate
import Apexd.Rollback
import Apexd.Stage

/-!
# Sessions from submission to activation

`submitStagedSession`, and `onStart` (`apexd.cpp`): what apexd does once at every start, before it
serves requests, `scanStagedSessionsDirAndStage` among it.
-/

set_option autoImplicit false

namespace Apexd

open Text Prog

/-- Whether a backup is needed: not when a checkpoint could be started. -/
def needsBackup : ApexM Bool := do
  let flags ← sys .getFlags
  if flags.supportsFsCheckpoints then do
    match ← sys (.startCheckpoint kNumRetriesWhenCheckpointingEnabled) with
    | .error _ => ret true
    | .ok _ => ret false
  else ret true

def submitStagedSession (cfg : Config) (sessionId : Int32) (childSessionIds : List Int32) :
    ApexM (List ApexFile) := do
  clearSessions cfg
  let backup ← needsBackup
  when backup backupActivePackages
  let idsToScan := if childSessionIds.isEmpty then [sessionId] else childSessionIds
  let verified ← idsToScan.mapM (verifySessionDir cfg)
  prePostinstallPackages cfg .preInstall verified
  let session ← createSession sessionId
  updateStateAndCommit cfg { session with childSessionIds := childSessionIds } .VERIFIED
  ret verified

/-- The one package in a directory of a session. -/
def scanSessionDir (dir : String) : ApexM String := do
  let scan ← findApexFilesByName dir false
  match scan with
  | [] => fail ("No APEX packages found while scanning " ++ dir)
  | [path] => ret path
  | _ => fail ("More than one APEX package found in the same session directory " ++ dir ++
      ", skipping activation.")

def postinstallPackages (cfg : Config) (paths : List String) : ApexM Unit := do
  require (!paths.isEmpty) "Empty set of inputs"
  let apexes ← openApexes paths
  prePostinstallPackages cfg .postInstall apexes

/-- The directories that hold the packages of a session. -/
def dirsToScan (session : SessionState) : List String :=
  if session.childSessionIds.isEmpty then [sessionDirPath session.id]
  else session.childSessionIds.map sessionDirPath

/-- Everything that must go well for a session to be activated. -/
def stageSession (cfg : Config) (session : SessionState) : ApexM Unit := do
  let apexes ← (dirsToScan session).mapM scanSessionDir
  postinstallPackages cfg apexes
  stagePackages cfg apexes

def activateStagedSession (cfg : Config) (session : SessionState) : ApexM Unit := do
  match ← (stageSession cfg session).attempt with
  | .error _ => commitOrLog cfg session .ACTIVATION_FAILED
  | .ok _ => commitOrLog cfg session .ACTIVATED

def scanStagedSessionsDirAndStage (cfg : Config) : ApexM Unit := do
  let stagedSessions ← getSessionsInState cfg .STAGED
  stagedSessions.forM (activateStagedSession cfg)

/-! ## Starting up -/

/-- What `onStart` is told: whether vold asks for a rollback, and whether the keys of the built-in
packages could be collected. -/
structure StartReplies where
  needsRollback : Bool
  keysCollected : Bool
  deriving DecidableEq

/-- The reboot that is asked for at the end happens later. -/
def rollbackActiveSessionAndReboot (cfg : Config) : ApexM Unit := rollbackActiveSession cfg

/-- `onStart` once the keys are there. -/
def startPackages (cfg : Config) : ApexM Unit := do
  populateFromMounts
  scanStagedSessionsDirAndStage cfg
  logged (resumeRollbackIfNeeded cfg)
  match ← (scanPackagesDirAndActivate cfg kActiveApexPackagesDataDir).attempt with
  | .ok _ => ret ()
  | .error _ => logged (rollbackActiveSessionAndReboot cfg)
  kApexPackageBuiltinDirs.forM fun dir => logged (scanPackagesDirAndActivate cfg dir)

def onStart (cfg : Config) (replies : StartReplies) : ApexM Unit := do
  let flags ← sys .getFlags
  when (flags.supportsFsCheckpoints && replies.needsRollback)
    (logged (rollbackStagedSessionIfAny cfg))
  if replies.keysCollected then startPackages cfg else ret ()

end Apexd
