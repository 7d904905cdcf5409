import Apexd.Frame
import Apexd.SessionWire
import Apexd.Stage

/-!
# Staging that fails

`stagePackages` links the packages under a scope guard, disarms it and only then removes the
other versions.

* `Linked` — what the link loop has done: paths that were free now hold files, and nothing else
  has changed.  `wp_stageLoop` — a failure inside the loop takes all of it back.
* `stagePackages_error_iff` — a failed call leaves the files of the active directory as they were
  exactly when it failed before the removal was entered; a later failure leaves every new link.
* `stagePackages_leaves_link` — a file the removal cannot open is enough for that.
-/

set_option autoImplicit false

namespace Apexd

open Text Prog

/-! ## Faults, and calls that change no file -/

/-- Any call may be refused, but not the unlinks of the scope guard. -/
def Sys.RefusedButUndo : Faults
  | .unlinkRetry _, _, _, _ => False
  | c, w, r, w' => c.refusal r ∧ w' = w

/-- Faults have no effect and spare the scope guard. -/
def Faults.SpareUndo (F : Faults) : Prop :=
  ∀ c w r w', F c w r w' → c.refusal r ∧ w' = w ∧ ∀ p, c ≠ .unlinkRetry p

theorem Sys.NoFault.spareUndo : Faults.SpareUndo Sys.NoFault := fun _ _ _ _ h => h.elim

theorem Sys.RefusedButUndo.spareUndo : Faults.SpareUndo Sys.RefusedButUndo := by
  intro c w r w' h
  cases c with
  | unlinkRetry p => exact h.elim
  | _ => exact ⟨h.1, h.2, fun p hp => by cases hp⟩

/-- The calls that change no file and do not look into the active directory. -/
def KeepsFiles : Sys → Prop
  | .readDir p => p ≠ kActiveApexPackagesDataDir
  | .unlink _ => False
  | .unlinkRetry _ => False
  | .link _ _ => False
  | .rename _ _ => False
  | .removeAll _ => False
  | .writeFile _ _ => False
  | _ => True

theorem ApexCmd.keepsFiles {c : Sys} (h : ApexCmd c) : KeepsFiles c := by
  cases c <;> first | exact h | trivial

theorem TempCmd.keepsFiles {c : Sys} (h : TempCmd c) : KeepsFiles c := h.apex.keepsFiles

variable {w w' w₀ : World} {cfg : Config}

theorem keepsFiles_file? {c : Sys} {r : c.Res} (hc : KeepsFiles c) (h : c.Normal w r w')
    (q : String) : w'.file? q = w.file? q := by
  cases c with
  | mkdir p m => exact World.mkdir_file? h q
  | rmdir p => exact World.rmdir_file? h q
  | chmod p m => exact World.chmod_file? h q
  | mount b p => exact World.file?_congr (by rw [World.mount_onlyMounts h]) q
  | bindMount s p => exact World.file?_congr (by rw [World.bindMount_onlyMounts h]) q
  | umount2 p => exact World.file?_congr (by rw [World.umount2_onlyMounts h]) q
  | loopGetFree => obtain ⟨n, _, _, rfl⟩ := h; rfl
  | loopSetFd d t => exact World.file?_congr (by rw [World.loopSetFd_onlyDevices h]) q
  | loopSetStatus d o z i => exact World.file?_congr (by rw [World.loopSetStatus_onlyDevices h]) q
  | loopClrFd d => exact World.file?_congr (by rw [World.loopClrFd_onlyDevices h]) q
  | dmCreate n t =>
    obtain ⟨k, _, h'⟩ := h
    exact World.file?_congr (by rw [World.dmCreate_onlyDevices h']) q
  | dmDelete n => exact World.file?_congr (by rw [World.dmDelete_onlyDevices h]) q
  | setDb db =>
    obtain rfl : w' = { w with db := db } := h
    rfl
  | abort m => exact h.elim
  | startCheckpoint n =>
    obtain rfl : w' = w := h
    rfl
  | log m =>
    obtain rfl : w' = w := h
    rfl
  | _ => first | exact hc.elim | (obtain ⟨_, rfl⟩ := h; rfl)

section Loop

variable {F : Faults}

/-- A program of such calls changes no file. -/
theorem wp_keepsFiles {α : Type} {p : ApexM α} (hF : F.SpareUndo) (hp : p.Uses KeepsFiles) :
    wp (kernel Watch.off F) (fun _ => True) p (fun _ w' => ∀ q, w'.file? q = w.file? q) w := by
  refine ((hp.wp (I := fun w' => ∀ q, w'.file? q = w.file? q) ?_ ?_ fun _ => rfl).mono
    (fun _ _ => trivial) fun _ _ h _ => h)
  · intro c w hc _
    cases c <;> trivial
  · rintro c w₁ r w₂ hc hI (hn | hf) q
    · rw [keepsFiles_file? hc hn, hI]
    · rw [(hF c w₁ r w₂ hf).2.1, hI]

/-! ## The link loop -/

/-- The same directories and mounts. -/
structure World.SameDirs (w w' : World) : Prop where
  mounts : w'.mounts = w.mounts
  listed : ∀ q, (w'.dirs q).isSome = (w.dirs q).isSome

theorem World.SameDirs.refl (w : World) : w.SameDirs w := ⟨rfl, fun _ => rfl⟩

theorem World.SameDirs.trans {w w' w'' : World} (h : w.SameDirs w') (h' : w'.SameDirs w'') :
    w.SameDirs w'' :=
  ⟨h'.mounts.trans h.mounts, fun q => (h'.listed q).trans (h.listed q)⟩

theorem World.sameDirs_setDir {p : String} {d d' : Dir} (hd : w.dirs p = some d) :
    w.SameDirs (w.setDir p (some d')) := by
  refine ⟨rfl, fun q => ?_⟩
  by_cases hq : q = p
  · rw [hq, World.setDir_self, hd]
    rfl
  · rw [World.setDir_other _ _ hq]

/-- What the loop has done: its destinations were free and hold files, and no other file has
changed. -/
structure Linked (w₀ : World) (s : Staged) (w : World) : Prop where
  dest : ∀ f ∈ s.files, ∃ apex, f = stageDestPath apex
  nodup : s.files.Nodup
  free : ∀ f ∈ s.files, w₀.file? f = none
  linked : ∀ f ∈ s.files, (w.file? f).isSome
  same : ∀ q, q ∉ s.files → w.file? q = w₀.file? q
  sameDirs : w₀.SameDirs w

theorem Linked.nil (w : World) : Linked w ⟨[], []⟩ w :=
  ⟨by simp, List.nodup_nil, by simp, by simp, fun _ _ => rfl, .refl w⟩

theorem below_stageDestPath (apex : ApexFile) :
    below kActiveApexPackagesDataDir (stageDestPath apex) = true := below_join _ _

theorem dirName_stageDestPath_ne (apex : ApexFile) : dirName (stageDestPath apex) ≠ "" :=
  dirName_ne_empty (by decide) (below_stageDestPath apex)

/-- A destination ends in `.apex`, the files in a flattened package do not. -/
theorem stageDestPath_ne {p n : String} {apex : ApexFile} {c : Char}
    (hn : n.toList.getLast? = some c) (hc : c ≠ 'x') : join p n ≠ stageDestPath apex := by
  intro h
  have h' := congrArg (fun s => s.toList.getLast?) h
  simp only [toList_join, stageDestPath, kApexPackageSuffix, String.toList_append] at h'
  simp only [List.getLast?_append, List.getLast?_cons, hn, Option.getD_some, Option.some_or] at h'
  exact hc (Option.some.inj h')

/-- The files in a flattened package stay as they are. -/
theorem Linked.inside {s : Staged} (h : Linked w₀ s w) (p : String) {n : String} {c : Char}
    (hn : n.toList.getLast? = some c) (hc : c ≠ 'x') :
    w.file? (join p n) = w₀.file? (join p n) := by
  refine h.same _ fun hm => ?_
  obtain ⟨a, ha⟩ := h.dest _ hm
  exact stageDestPath_ne hn hc ha

/-- Where no link was put, a package is opened as before. -/
theorem Linked.openApex_eq {s : Staged} (h : Linked w₀ s w) {p : String} (hp : p ∉ s.files) :
    w.openApex p = w₀.openApex p := by
  unfold World.openApex
  rw [h.same p hp, h.inside p (n := kManifestFilename) (c := 'n') (by decide) (by decide),
    h.inside p (n := kBundledPublicKeyFilename) (c := 'y') (by decide) (by decide)]

/-- A package that could be opened is opened with the same outcome after the links. -/
theorem Linked.openApex {s : Staged} (h : Linked w₀ s w) {p : String} {apex : ApexFile}
    (ho : w₀.openApex p = .ok apex) : w.openApex p = .ok apex := by
  have hfile : ∀ f, w₀.file? p = some f → w.file? p = w₀.file? p := by
    intro f hf
    refine h.same _ fun hm => ?_
    rw [h.free _ hm] at hf
    cases hf
  unfold World.openApex at *
  rw [h.inside p (n := kManifestFilename) (c := 'n') (by decide) (by decide),
    h.inside p (n := kBundledPublicKeyFilename) (c := 'y') (by decide) (by decide)]
  split at ho
  · exact ho
  · cases ho
  · split at ho
    · rename_i hf
      rw [hfile _ hf, hf]
      exact ho
    · cases ho

theorem Linked.link {s : Staged} (h : Linked w₀ s w) {apex : ApexFile} {src : String}
    (hl : (.ok (), w') = w.link src (stageDestPath apex)) :
    Linked w₀ ⟨s.files ++ [stageDestPath apex], s.packages ++ [apex.manifest.name]⟩ w' := by
  rcases w.link_cases src (stageDestPath apex) with ⟨e, he⟩ | ⟨f, d, hf, hd, hnone, he⟩
  · rw [he] at hl; cases hl
  rw [he] at hl
  obtain ⟨_, rfl⟩ := Prod.mk.inj hl
  have hput := w.putFile_file? (dirName_stageDestPath_ne apex) f hd
  have hfree : w.file? (stageDestPath apex) = none := by
    unfold World.file? World.node?
    rw [hd, Option.bind_some, hnone]
    rfl
  have hnew : stageDestPath apex ∉ s.files := by
    intro hm
    have := h.linked _ hm
    rw [hfree] at this
    cases this
  refine ⟨?_, ?_, ?_, ?_, ?_, h.sameDirs.trans (World.sameDirs_setDir hd)⟩
  · intro q hq
    rcases List.mem_append.1 hq with hq | hq
    · exact h.dest q hq
    · exact ⟨apex, List.mem_singleton.1 hq⟩
  · refine List.nodup_append.2 ⟨h.nodup, by simp, ?_⟩
    rintro a ha b hb rfl
    exact hnew (List.mem_singleton.1 hb ▸ ha)
  · intro q hq
    rcases List.mem_append.1 hq with hq | hq
    · exact h.free q hq
    · rw [List.mem_singleton.1 hq, ← h.same _ hnew]
      exact hfree
  · intro q hq
    rw [hput]
    split
    · rfl
    · rename_i hne
      rcases List.mem_append.1 hq with hq | hq
      · exact h.linked q hq
      · exact absurd (List.mem_singleton.1 hq) hne
  · intro q hq
    have hq' := not_or.1 (mt List.mem_append.2 hq)
    rw [hput, if_neg (by simpa using hq'.2)]
    exact h.same q hq'.1

/-- The scope guard takes every link back. -/
theorem Linked.wp_undo (hF : F.SpareUndo) {s : Staged} (h : Linked w₀ s w) :
    wp (kernel Watch.off F) (fun _ => True) s.undo
      (fun _ w' => ∀ q, w'.file? q = w₀.file? q) w := by
  unfold Staged.undo
  refine wp_forM (fun rest w' => rest.Nodup ∧ (∀ f ∈ rest, (w'.file? f).isSome) ∧
    ∀ q, q ∉ rest → w'.file? q = w₀.file? q) _ ?_ ?_ ⟨h.nodup, h.linked, h.same⟩
  · rintro x rest w₁ hs ⟨hnd, hsome, hsame⟩
    have hx : x ∈ s.files := hs.subset List.mem_cons_self
    obtain ⟨apex, rfl⟩ := h.dest x hx
    have hrest := List.nodup_cons.1 hnd
    refine ⟨trivial, trivial, ?_⟩
    rintro r w₂ (hn | hf)
    · have hu : (r, w₂) = w₁.unlink (stageDestPath apex) := hn
      rcases w₁.unlink_cases (stageDestPath apex) with ⟨e, _, hnone⟩ | ⟨d, f, hd, _, he⟩
      · have := hsome _ List.mem_cons_self
        rw [hnone] at this
        cases this
      · rw [he] at hu
        obtain ⟨_, rfl⟩ := Prod.mk.inj hu
        have her := w₁.erase_file? (dirName_stageDestPath_ne apex) hd
        refine ⟨trivial, hrest.2, fun q hq => ?_, fun q hq => ?_⟩
        · rw [her, if_neg (by rintro rfl; exact hrest.1 hq)]
          exact hsome q (List.mem_cons_of_mem _ hq)
        · rw [her]
          split
          · rename_i hqx
            rw [hqx]
            exact (h.free _ hx).symm
          · rename_i hqx
            exact hsame q fun hm => (List.mem_cons.1 hm).elim hqx hq
    · exact absurd rfl ((hF _ _ _ _ hf).2.2 _)
  · rintro w₁ ⟨_, _, hsame⟩
    exact ⟨trivial, fun q => hsame q (by simp)⟩

theorem wp_openApex (hF : F.SpareUndo) {I : World → Prop}
    {Q : Except String ApexFile → World → Prop}
    {p : String} (hI : I w) (hQ : ∀ apex, w.openApex p = .ok apex → Q (.ok apex) w)
    (hE : ∀ e, Q (.error e) w) : wp (kernel Watch.off F) I (openApex p) Q w := by
  refine ⟨hI, trivial, ?_⟩
  rintro r w' (⟨rfl, rfl⟩ | hf)
  · cases hr : w'.openApex p with
    | error e => exact ⟨hI, hE e⟩
    | ok apex => exact ⟨hI, hQ apex hr⟩
  · obtain ⟨⟨e, rfl⟩, rfl, _⟩ := hF _ _ _ _ hf
    exact ⟨hI, hE e⟩

/-- One package: it is linked, or nothing has changed. -/
theorem Linked.wp_stageLink (hF : F.SpareUndo) {s : Staged} (h : Linked w₀ s w) (path : String) :
    wp (kernel Watch.off F) (fun _ => True) (stageLink s path) (fun
      | .ok s', w' => ∃ apex, w.openApex path = .ok apex ∧
          s' = ⟨s.files ++ [stageDestPath apex], s.packages ++ [apex.manifest.name]⟩ ∧
            Linked w₀ s' w'
      | .error _, w' => Linked w₀ s w') w := by
  unfold stageLink
  simp only [bind_eq]
  refine wp_bind.2 (wp_openApex hF trivial (fun apex ho => ?_) fun _ => h)
  refine ⟨trivial, trivial, ?_⟩
  rintro r w' (hn | hf)
  · have hl : (r, w') = w.link apex.path (stageDestPath apex) := hn
    cases r with
    | ok u => exact ⟨trivial, apex, ho, rfl, h.link hl⟩
    | error e =>
      rcases w.link_cases apex.path (stageDestPath apex) with ⟨e', he⟩ | ⟨f, d, _, _, _, he⟩
      · rw [he] at hl; cases hl; exact ⟨trivial, h⟩
      · rw [he] at hl; cases hl
  · obtain ⟨⟨e, _, rfl⟩, rfl, _⟩ := hF _ _ _ _ hf
    exact ⟨trivial, h⟩

/-- The whole loop: every package is linked, or nothing has changed. -/
theorem Linked.wp_stageLoop (hF : F.SpareUndo) (paths : List String) {s : Staged}
    (h : Linked w₀ s w) : wp (kernel Watch.off F) (fun _ => True) (stageLoop paths s) (fun
      | .ok s', w' => Linked w₀ s' w' ∧ ∃ apexes,
          List.Forall₂ (fun p a => ∀ a₀, w₀.openApex p = .ok a₀ → a = a₀) paths apexes ∧
          s'.files = s.files ++ apexes.map stageDestPath ∧
          s'.packages = s.packages ++ apexes.map fun a => a.manifest.name
      | .error _, w' => ∀ q, w'.file? q = w₀.file? q) w := by
  induction paths generalizing s w with
  | nil => exact ⟨trivial, h, [], List.Forall₂.nil, by simp, by simp⟩
  | cons path rest ih =>
    unfold stageLoop
    simp only [bind_eq]
    refine wp_bind.2 (wp_onFail.2 ((h.wp_stageLink hF path).imp ?_))
    rintro (e | s') w' _ hq
    · exact hq.wp_undo hF
    · obtain ⟨apex, ho, rfl, hl⟩ := hq
      refine (ih hl).imp ?_
      rintro (e | s'') w'' _ hq
      · exact hq
      · obtain ⟨hl', apexes, hall, hf, hp⟩ := hq
        refine ⟨hl', apex :: apexes, List.Forall₂.cons (fun a₀ ha₀ => ?_) hall, ?_, ?_⟩
        · rw [h.openApex ha₀] at ho
          cases ho
          rfl
        · rw [hf]
          simp
        · rw [hp]
          simp

/-! ## The removal of other versions -/

/-- The removal spares the links. -/
theorem wp_removePreviouslyActiveStep (hF : F.SpareUndo) {pkgs files : List String} {n : String}
    (hn : NoSlash n) (h : ∀ f ∈ files, (w.file? f).isSome) :
    wp (kernel Watch.off F) (fun _ => True)
      (removePreviouslyActiveStep pkgs files (join kActiveApexPackagesDataDir n))
      (fun _ w' => ∀ f ∈ files, (w'.file? f).isSome) w := by
  unfold removePreviouslyActiveStep
  simp only [bind_eq]
  refine wp_bind.2 (wp_openApex hF trivial (fun apex ho => ?_) fun _ => h)
  have hpath := World.openApex_path ho
  dsimp only [Then]
  split
  · exact ⟨trivial, h⟩
  · split
    · exact ⟨trivial, h⟩
    · rename_i hkeep
      refine ⟨trivial, trivial, ?_⟩
      rintro r w' (hs | hf)
      · have hu : (r, w') = w.unlink apex.path := hs
        have hw' : ∀ f ∈ files, (w'.file? f).isSome := by
          rcases w.unlink_cases apex.path with ⟨e, he, _⟩ | ⟨d, g, hd, _, he⟩
          · rw [he] at hu; cases hu; exact h
          · rw [he] at hu
            obtain ⟨_, rfl⟩ := Prod.mk.inj hu
            intro f hf
            have hne : f ≠ apex.path := by
              rintro rfl
              exact hkeep (by simpa using hf)
            rw [w.erase_file? (by rw [hpath, dirName_join hn]; decide) hd, if_neg hne]
            exact h f hf
        cases r <;> exact ⟨trivial, hw'⟩
      · obtain ⟨⟨e, _, rfl⟩, rfl, _⟩ := hF _ _ _ _ hf
        exact ⟨trivial, h⟩

theorem wp_removePreviouslyActiveApexFiles (hF : F.SpareUndo) {pkgs files : List String}
    (h : ∀ f ∈ files, (w.file? f).isSome) :
    wp (kernel Watch.off F) (fun _ => True) (removePreviouslyActiveApexFiles pkgs files)
      (fun _ w' => ∀ f ∈ files, (w'.file? f).isSome) w := by
  unfold removePreviouslyActiveApexFiles findApexFilesByName readDir
  simp only [bind_eq, exec_bind]
  refine ⟨trivial, trivial, ?_⟩
  rintro r w' hs
  obtain ⟨hl, rfl⟩ : (∀ l, r = .ok l → w.Lists kActiveApexPackagesDataDir (.ok l)) ∧ w' = w := by
    rcases hs with ⟨hl, rfl⟩ | hf
    · exact ⟨fun l he => he ▸ hl, rfl⟩
    · obtain ⟨⟨e, _, rfl⟩, rfl, _⟩ := hF _ _ _ _ hf
      exact ⟨fun l he => (by cases he), rfl⟩
  cases r with
  | error e => exact ⟨trivial, h⟩
  | ok l =>
    refine wp_forM (fun _ w' => ∀ f ∈ files, (w'.file? f).isSome) _ ?_ (fun _ h => ⟨trivial, h⟩) h
    rintro x rest w₁ hs h₁
    obtain ⟨e, he, rfl⟩ := List.mem_map.1 (hs.subset List.mem_cons_self)
    obtain ⟨n, hn, hp⟩ := (hl l rfl).path e (List.mem_filter.1 he).1
    rw [hp]
    refine (wp_removePreviouslyActiveStep hF hn h₁).imp ?_
    rintro (e | a) w₂ _ h₂ <;> exact h₂

end Loop

/-! ## Failures -/

/-- Whether a call enters the removal: nothing before it lists the active directory. -/
def Sys.entersRemoval : Sys → Bool
  | .readDir p => p == kActiveApexPackagesDataDir
  | _ => false

/-- A run of `stagePackages` in which any call may be refused, together with whether it has entered
`RemovePreviouslyActiveApexFiles`. -/
def stageKernel : Kernel Sys Sys.Res (World × Bool) :=
  (kernel Watch.off Sys.RefusedButUndo).observe fun c _ _ _ entered => entered || c.entersRemoval

/-- The same files below `/data/apex/active`. -/
def World.SameActiveFiles (w w' : World) : Prop :=
  ∀ p, below kActiveApexPackagesDataDir p = true → w'.file? p = w.file? p

/-- No file below `/data/apex/active` that was not there. -/
def World.NoNewActiveFile (w w' : World) : Prop :=
  ∀ p, below kActiveApexPackagesDataDir p = true → (w'.file? p).isSome → (w.file? p).isSome

theorem KeepsFiles.entersRemoval {c : Sys} (h : KeepsFiles c) : c.entersRemoval = false := by
  cases c <;> first | rfl | exact beq_eq_false_iff_ne.2 h

/-- A program that changes no file does not enter the removal. -/
theorem wp_stageKernel_keepsFiles {α : Type} {p : ApexM α} (hp : p.Uses KeepsFiles) :
    wp stageKernel (fun _ => True) p (fun _ s => (∀ q, s.1.file? q = w.file? q) ∧ s.2 = false)
      (w, false) := by
  refine (wp_keepsFiles Sys.RefusedButUndo.spareUndo hp).observe_uses hp ?_
  intro c w r w' hc
  rw [hc.entersRemoval]
  rfl

/-- The removal is entered at its first command. -/
theorem wp_stageKernel_enters {packages files : List String} {Q : Except String Unit → World → Prop}
    (h : wp (kernel Watch.off Sys.RefusedButUndo) (fun _ => True)
      (removePreviouslyActiveApexFiles packages files) Q w) :
    wp stageKernel (fun _ => True) (removePreviouslyActiveApexFiles packages files)
      (fun x s => Q x s.1 ∧ s.2 = true) (w, false) :=
  h.observe_first (fun _ _ => rfl) fun _ _ _ _ => rfl

/-- The calls of the link loop. -/
theorem uses_stageLoop (paths : List String) (s : Staged) :
    (stageLoop paths s).Uses fun c => c.entersRemoval = false := by
  have hundo : ∀ s : Staged, s.undo.Uses fun c => c.entersRemoval = false := fun s =>
    uses_forM _ fun p _ => uses_exec_bind rfl fun _ => trivial
  induction paths generalizing s with
  | nil => trivial
  | cons path rest ih =>
    refine uses_bind (uses_onFail (uses_bind ?_ fun apex => ?_) (hundo s)) fun s' => ih s'
    · exact uses_exec_bind rfl fun r => uses_ofExcept r
    · exact uses_bind (uses_exec_bind rfl fun r => uses_check _ r) fun _ => trivial

theorem uses_filterUnnecessaryStagingPaths (paths : List String) :
    (filterUnnecessaryStagingPaths paths).Uses KeepsFiles := by
  refine uses_bind (uses_getActivePackagesMap.mono fun _ => TempCmd.keepsFiles) fun m => ?_
  refine uses_foldlM _ _ fun acc p _ => uses_bind ?_ fun _ => trivial
  refine uses_bind (uses_attempt (uses_exec_bind trivial fun r => uses_ofExcept r)) fun x => ?_
  cases x with
  | error e => trivial
  | ok apex =>
    refine uses_exec_bind trivial fun r => ?_
    cases r <;> trivial

/-- **A failed call** leaves the files of the active directory as they were exactly when it failed
before it entered the removal of other versions; a call that failed there leaves a new file. -/
theorem stagePackages_error_iff {tmpPaths : List String} {s : World × Bool} {e : String}
    (h : Ends stageKernel (stagePackages cfg tmpPaths) (w, false) (.error e) s) :
    (w.SameActiveFiles s.1 ↔ s.2 = false) ∧ (w.NoNewActiveFile s.1 ↔ s.2 = false) := by
  suffices hwp : wp stageKernel (fun _ => True) (stagePackages cfg tmpPaths) (fun x s =>
      (∃ e, x = .error e) → (s.2 = false ∧ ∀ q, s.1.file? q = w.file? q) ∨
        (s.2 = true ∧ ∃ f, below kActiveApexPackagesDataDir f = true ∧ w.file? f = none ∧
          (s.1.file? f).isSome)) (w, false) by
    rcases hwp.ends h ⟨e, rfl⟩ with ⟨hg, hsame⟩ | ⟨hg, f, hb, hnone, hsome⟩
    · refine ⟨iff_of_true (fun p _ => hsame p) hg, iff_of_true (fun p _ hp => ?_) hg⟩
      rwa [hsame p] at hp
    · have hne : s.2 ≠ false := by simp [hg]
      refine ⟨iff_of_false (fun hs => ?_) hne, iff_of_false (fun hs => ?_) hne⟩
      · rw [hs f hb, hnone] at hsome
        cases hsome
      · have := hs f hb hsome
        rw [hnone] at this
        cases this
  have hkeep : ∀ {α : Type} {p : ApexM α} {w₁ : World}, p.Uses KeepsFiles →
      (∀ q, w₁.file? q = w.file? q) → wp stageKernel (fun _ => True) p
        (fun _ s => (∀ q, s.1.file? q = w.file? q) ∧ s.2 = false) (w₁, false) := by
    intro α p w₁ hp hw
    exact (wp_stageKernel_keepsFiles hp).imp fun _ s _ hs => ⟨fun q => (hs.1 q).trans (hw q), hs.2⟩
  have herr : ∀ (e : String) (s : World × Bool), (∀ q, s.1.file? q = w.file? q) ∧ s.2 = false →
      (∃ e', (Except.error e : Except String Unit) = .error e') →
      (s.2 = false ∧ ∀ q, s.1.file? q = w.file? q) ∨ (s.2 = true ∧ ∃ f,
        below kActiveApexPackagesDataDir f = true ∧ w.file? f = none ∧ (s.1.file? f).isSome) :=
    fun _ _ hs _ => Or.inl ⟨hs.2, hs.1⟩
  unfold stagePackages
  simp only [bind_eq]
  refine wp_bind.2 (wp_require.2 ⟨trivial, ?_⟩)
  split
  · refine wp_bind.2 ((hkeep ((uses_verifyPackages _ uses_verifyPackageBoot).mono
      fun _ => TempCmd.keepsFiles) fun _ => rfl).imp ?_)
    rintro (e | _) ⟨w₁, g⟩ _ ⟨hw₁, rfl⟩
    · exact herr e _ ⟨hw₁, rfl⟩
    refine wp_bind.2 ((hkeep (uses_createDirIfNeeded trivial trivial trivial) hw₁).imp ?_)
    rintro (e | _) ⟨w₂, g⟩ _ ⟨hw₂, rfl⟩
    · exact herr e _ ⟨hw₂, rfl⟩
    refine wp_bind.2 ((hkeep (uses_filterUnnecessaryStagingPaths _) hw₂).imp ?_)
    rintro (e | paths) ⟨w₃, g⟩ _ ⟨hw₃, rfl⟩
    · exact herr e _ ⟨hw₃, rfl⟩
    dsimp only [Then]
    split
    · exact ⟨trivial, by rintro ⟨e, he⟩; cases he⟩
    rename_i hne
    -- the links: a failure takes them back, and after a success there is at least one
    refine wp_bind.2 ((((Linked.nil w₃).wp_stageLoop Sys.RefusedButUndo.spareUndo
      paths).observe_uses
      (uses_stageLoop _ _) (g := false) fun c _ _ _ hc => by rw [hc]; rfl).imp ?_)
    rintro (e | s) ⟨w₄, g⟩ _ ⟨hq, rfl⟩
    · exact herr e _ ⟨fun q => (hq q).trans (hw₃ q), rfl⟩
    obtain ⟨hl, apexes, hall, hfiles, -⟩ := hq
    obtain ⟨f, hf⟩ : ∃ f, f ∈ s.files := by
      cases hall with
      | nil => exact absurd rfl hne
      | cons _ _ => exact ⟨_, by rw [hfiles]; exact List.mem_cons_self⟩
    -- the removal keeps them
    have hrem : wp (kernel Watch.off Sys.RefusedButUndo) (fun _ => True)
        (removePreviouslyActiveApexFiles s.packages s.files)
          (fun _ w' => ∀ f ∈ s.files, (w'.file? f).isSome)
        w₄ :=
      wp_removePreviouslyActiveApexFiles Sys.RefusedButUndo.spareUndo hl.linked
    refine (wp_stageKernel_enters hrem).imp ?_
    rintro x ⟨w₅, g⟩ _ ⟨hq, rfl⟩ _
    obtain ⟨apex, rfl⟩ := hl.dest f hf
    exact Or.inr ⟨rfl, _, below_stageDestPath apex, (hw₃ _).symm.trans (hl.free _ hf), hq _ hf⟩
  · exact herr _ _ ⟨fun _ => rfl, rfl⟩

/-- A package file that passes every check. -/
def soundContent (m : ApexManifest) : ApexContent where
  manifest := m
  imageOffset := 4096
  imageSize := 8192
  pubkey := []
  verity := .ok ⟨⟨1, 8192, 8192, 4096, 4096, "sha256"⟩, "", ""⟩
  intact := true
  payloadManifest := some m
  shimScan := .ok ()
  hashTxt := none
  sha512 := ""

def apexDataDir : Dir := ⟨0o771, [("active", .dir)], by decide, by decide⟩

/-- The mount point of version 2. -/
def mountPointDir : Dir := ⟨0o755, [("a@2", .dir)], by decide, by decide⟩

/-- Version 1 comes with the system. -/
def systemApexDir : Dir :=
  ⟨0o755, [("a.apex", .file ⟨1, .apex (soundContent (plainManifest 1 version_one))⟩)], by
    decide, by decide⟩

/-- Version 2 was staged. -/
def stagedApexDir : Dir :=
  ⟨0o750, [("a@2.apex", .file ⟨2, .apex (soundContent (plainManifest 2 version_two))⟩)], by
    decide, by decide⟩

/-- Version 2, under another name. -/
def dataApexDir : Dir :=
  ⟨0o750, [("a.apex", .file ⟨2, .apex (soundContent (plainManifest 2 version_two))⟩)], by
    decide, by decide⟩

/-- Version 3. -/
def newerApexDir : Dir :=
  ⟨0o755, [("a.apex", .file ⟨4, .apex (soundContent (plainManifest 3 version_three))⟩)], by
    decide, by decide⟩

/-- Version 1 of a package is active, next to a file that is no package; version 2 is staged,
twice. -/
def stagingWorld : World := .ofDirs
  [ (kActiveApexPackagesDataDir, ⟨0o750,
      [("a@1.apex", .file ⟨1, .apex (soundContent (plainManifest 1 version_one))⟩),
       ("x.apex", .file ⟨2, .bytes []⟩)], by decide, by decide⟩),
    ("/data/app-staging/session_5", ⟨0o755,
      [("a.apex", .file ⟨3, .apex (soundContent (plainManifest 2 version_two))⟩),
       ("b.apex", .file ⟨4, .apex (soundContent (plainManifest 2 version_two))⟩)], by
         decide, by decide⟩) ]

def stagingRun (tmpPaths : List String) : ApexM Unit × (World × Bool) :=
  runN (observeStep Sys.run fun c _ _ _ entered => entered || c.entersRemoval) 60
    (stagePackages deviceConfig tmpPaths) (stagingWorld, false)

theorem stagingRun_ends {tmpPaths : List String} {x : Except String Unit}
    (h : (stagingRun tmpPaths).1.result? = some x) :
    Ends stageKernel (stagePackages deviceConfig tmpPaths) (stagingWorld, false) x
      (stagingRun tmpPaths).2 :=
  runN_ends (observeStep_sem Sys.run_sem) h

/-- The second link fails, and the first is taken back. -/
theorem stagePackages_error_iff_link_exists :
    let s := (stagingRun ["/data/app-staging/session_5/a.apex",
      "/data/app-staging/session_5/b.apex"]).2
    (stagingWorld.SameActiveFiles s.1 ↔ s.2 = false) ∧
        (stagingWorld.NoNewActiveFile s.1 ↔ s.2 = false) := by
  have hres : (stagingRun ["/data/app-staging/session_5/a.apex",
      "/data/app-staging/session_5/b.apex"]).1.result? =
      some (.error (perror ("Unable to link /data/app-staging/session_5/b.apex to " ++
        "/data/apex/active/a@2.apex") .eexist)) := by
    decide
  exact stagePackages_error_iff (stagingRun_ends hres)

/-- The file that is no package stops the removal, and the new link stays. -/
theorem stagePackages_leaves_link :
    ¬ ∀ (tmpPaths : List String) (w : World) (s : World × Bool) (e : String),
    Ends stageKernel (stagePackages deviceConfig tmpPaths) (w, false) (.error e) s →
      w.SameActiveFiles s.1 := by
  intro hclaim
  have hres : (stagingRun ["/data/app-staging/session_5/a.apex"]).1.result? =
      some (.error "Failed to open package /data/apex/active/x.apex") := by
    decide
  have hsame := hclaim _ _ _ _ (stagingRun_ends hres) "/data/apex/active/a@2.apex" (by decide)
  have hnew : (stagingRun ["/data/app-staging/session_5/a.apex"]).2.1.file?
    "/data/apex/active/a@2.apex" ≠
      stagingWorld.file? "/data/apex/active/a@2.apex" := by
    decide
  exact hnew hsame

end Apexd
