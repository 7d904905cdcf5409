import Apexd.StageAtomic

/-!
# What staging touches

Every state a call of `stagePackages` passes through, whichever calls are refused, the unlinks of
the scope guard among them.

* `TouchesOnly` — the files that may be gone are other versions of the listed packages, the files
  that may be new are links to listed files under their destinations, and no file has been replaced.
* `StageLinks`, `StageRemoval` — the invariants of the link loop and of the removal.
* `stagePackages_touches` — the run theorem; no file changes before all packages were verified.
-/

set_option autoImplicit false

namespace Apexd

open Text Prog

/-- Some listed file is a package of this name. -/
def World.ListedName (w : World) (paths : List String) (name : String) : Prop :=
  ∃ p ∈ paths, ∃ a, w.openApex p = .ok a ∧ a.manifest.name = name

/-- A file in the active directory that is a package of a listed name. -/
def World.MayGo (w : World) (paths : List String) (q : String) : Prop :=
  dirName q = kActiveApexPackagesDataDir ∧ ∃ a, w.openApex q = .ok a ∧
    w.ListedName paths a.manifest.name

/-- `d` is the destination of a listed file that holds `f`. -/
def World.LinkOf (w : World) (paths : List String) (d : String) (f : File) : Prop :=
  ∃ src ∈ paths, ∃ a, w.openApex src = .ok a ∧ d = stageDestPath a ∧ w.file? src = some f

/-- Between `w` and `w'` only files of the listed packages have gone, only links to listed files
have appeared, and nothing was overwritten. -/
structure TouchesOnly (paths : List String) (w w' : World) : Prop where
  kept : ∀ p f, w.file? p = some f → w'.file? p = some f ∨ (w'.file? p = none ∧ w.MayGo paths p)
  appeared : ∀ p f, w'.file? p = some f → w.file? p = some f ∨
    (w.file? p = none ∧ w.LinkOf paths p f)

/-- `stagePackages` after the verification. -/
def stageVerifiedPackages (tmpPaths : List String) : ApexM Unit := do
  createDirIfNeeded kActiveApexPackagesDataDir 0o750
  let pathsToStage ← filterUnnecessaryStagingPaths tmpPaths
  if pathsToStage.isEmpty then ret ()
  else do
    let staged ← stageLoop pathsToStage ⟨[], []⟩
    removePreviouslyActiveApexFiles staged.packages staged.files

theorem stagePackages_eq (cfg : Config) (tmpPaths : List String) : stagePackages cfg tmpPaths =
    (require (!tmpPaths.isEmpty) "Empty set of inputs").bind fun _ =>
      (verifyPackages tmpPaths (verifyPackageBoot cfg)).bind fun _ =>
      stageVerifiedPackages tmpPaths := rfl

section Invariants

variable {w₀ w w' : World} {paths : List String} {s : Staged}

/-- Every listed file was opened as a package with an image. -/
def World.Verified (w : World) (paths : List String) : Prop :=
  ∀ p ∈ paths, ∃ a, w.openApex p = .ok a ∧ a.flattened = false

theorem TouchesOnly.of_same (h : ∀ q, w'.file? q = w.file? q) : TouchesOnly paths w w' where
  kept p _ hf := Or.inl ((h p).trans hf)
  appeared p _ hf := Or.inl ((h p).symm.trans hf)

/-- What the link loop has done so far: the paths in `s.files` were free, and hold links or
nothing. -/
structure StageLinks (w₀ : World) (paths : List String) (s : Staged) (w : World) : Prop where
  free : ∀ d ∈ s.files, w₀.file? d = none
  dest : ∀ d ∈ s.files, ∃ a, d = stageDestPath a
  link : ∀ d ∈ s.files, ∀ f, w.file? d = some f → w₀.LinkOf paths d f
  same : ∀ q, q ∉ s.files → w.file? q = w₀.file? q
  names : ∀ n ∈ s.packages, w₀.ListedName paths n

theorem StageLinks.nil (h : ∀ q, w.file? q = w₀.file? q) : StageLinks w₀ paths ⟨[], []⟩ w where
  free := by simp
  dest := by simp
  link := by simp
  same q _ := h q
  names := by simp

/-- What the removal has done so far. -/
structure StageRemoval (w₀ : World) (paths : List String) (s : Staged) (w : World) : Prop where
  free : ∀ d ∈ s.files, w₀.file? d = none
  dest : ∀ d ∈ s.files, ∃ a, d = stageDestPath a
  link : ∀ d ∈ s.files, ∀ f, w.file? d = some f → w₀.LinkOf paths d f
  same : ∀ q, q ∉ s.files → w.file? q = w₀.file? q ∨ (w.file? q = none ∧ w₀.MayGo paths q)
  names : ∀ n ∈ s.packages, w₀.ListedName paths n

theorem StageLinks.removal (h : StageLinks w₀ paths s w) : StageRemoval w₀ paths s w where
  free := h.free
  dest := h.dest
  link := h.link
  same q hq := Or.inl (h.same q hq)
  names := h.names

theorem StageRemoval.touchesOnly (h : StageRemoval w₀ paths s w) : TouchesOnly paths w₀ w where
  kept p f hf := by
    have hp : p ∉ s.files := by
      intro hm
      rw [h.free p hm] at hf
      cases hf
    rcases h.same p hp with hs | hs
    · exact Or.inl (hs.trans hf)
    · exact Or.inr hs
  appeared p f hf := by
    by_cases hp : p ∈ s.files
    · exact Or.inr ⟨h.free p hp, h.link p hp f hf⟩
    · rcases h.same p hp with hs | ⟨hs, _⟩
      · exact Or.inl (hs.symm.trans hf)
      · rw [hs] at hf
        cases hf

/-- The names of the files inside a flattened package end in no `x`: no destination is among
them. -/
theorem StageRemoval.notMem_inside (h : StageRemoval w₀ paths s w) (p : String)
    {n : String} {c : Char}
    (hn : n.toList.getLast? = some c) (hc : c ≠ 'x') : join p n ∉ s.files := by
  intro hm
  obtain ⟨a, ha⟩ := h.dest _ hm
  exact stageDestPath_ne hn hc ha

/-- A package whose file is the same is opened as before. -/
theorem StageRemoval.openApex_eq (h : StageRemoval w₀ paths s w) {p : String}
    (hp : p ≠ kActiveApexPackagesDataDir) (hf : w.file? p = w₀.file? p) :
    w.openApex p = w₀.openApex p := by
  have hinside : ∀ n : String, NoSlash n → (∃ c, n.toList.getLast? = some c ∧ c ≠ 'x') →
      w.file? (join p n) = w₀.file? (join p n) := by
    rintro n hs ⟨c, hn, hc⟩
    rcases h.same _ (h.notMem_inside p hn hc) with he | ⟨_, hgo, _⟩
    · exact he
    · rw [dirName_join hs] at hgo
      exact absurd hgo hp
  unfold World.openApex
  rw [hf, hinside kManifestFilename (by decide) ⟨'n', by decide, by decide⟩,
    hinside kBundledPublicKeyFilename (by decide) ⟨'y', by decide, by decide⟩]

/-- Where no link was put, a package is opened as before. -/
theorem StageLinks.openApex_eq (h : StageLinks w₀ paths s w) {p : String} (hp : p ∉ s.files) :
    w.openApex p = w₀.openApex p := by
  unfold World.openApex
  rw [h.same p hp, h.same _
    (h.removal.notMem_inside p (n := kManifestFilename) (c := 'n') (by decide) (by decide)),
    h.same _ (h.removal.notMem_inside p (n := kBundledPublicKeyFilename) (c := 'y')
      (by decide) (by decide))]

/-- A listed file is an image, and no link was put over it. -/
theorem StageLinks.listed (h : StageLinks w₀ paths s w) (hv : w₀.Verified paths) {p : String}
    (hp : p ∈ paths) : p ∉ s.files := by
  obtain ⟨a, ha, hflat⟩ := hv p hp
  intro hm
  have hnone := h.free p hm
  unfold World.openApex at ha
  rw [hnone] at ha
  split at ha
  · cases ha
    cases hflat
  · cases ha
  · cases ha

/-- One more link. -/
theorem StageLinks.add (h : StageLinks w₀ paths s w) (hv : w₀.Verified paths) {p : String}
    {a : ApexFile}
    (hp : p ∈ paths) (ho : w.openApex p = .ok a)
    (hl : (.ok (), w') = w.link a.path (stageDestPath a)) :
    StageLinks w₀ paths ⟨s.files ++ [stageDestPath a], s.packages ++ [a.manifest.name]⟩ w' := by
  have hnew := h.listed hv hp
  have ho₀ : w₀.openApex p = .ok a := (h.openApex_eq hnew).symm.trans ho
  obtain rfl : a.path = p := World.openApex_path ho
  rcases w.link_cases a.path (stageDestPath a) with ⟨e, he⟩ | ⟨f, d, hf, hd, hnone, he⟩
  · rw [he] at hl
    cases hl
  rw [he] at hl
  obtain ⟨_, rfl⟩ := Prod.mk.inj hl
  have hput := w.putFile_file? (dirName_stageDestPath_ne a) f hd
  have hfree : w.file? (stageDestPath a) = none := by
    unfold World.file? World.node?
    rw [hd, Option.bind_some, hnone]
    rfl
  have hlink : w₀.LinkOf paths (stageDestPath a) f :=
    ⟨a.path, hp, a, ho₀, rfl, (h.same _ hnew).symm.trans hf⟩
  constructor
  · intro q hq
    rcases List.mem_append.1 hq with hq | hq
    · exact h.free q hq
    · rw [List.mem_singleton.1 hq]
      by_cases hm : stageDestPath a ∈ s.files
      · exact h.free _ hm
      · exact (h.same _ hm).symm.trans hfree
  · intro q hq
    rcases List.mem_append.1 hq with hq | hq
    · exact h.dest q hq
    · exact ⟨a, List.mem_singleton.1 hq⟩
  · intro q hq g hg
    rw [hput] at hg
    split at hg
    · rename_i hqd
      cases hg
      rwa [hqd]
    · rename_i hne
      rcases List.mem_append.1 hq with hq | hq
      · exact h.link q hq g hg
      · exact absurd (List.mem_singleton.1 hq) hne
  · intro q hq
    obtain ⟨hold, hne⟩ := not_or.1 (mt List.mem_append.2 hq)
    rw [hput, if_neg (by simpa using hne)]
    exact h.same q hold
  · intro n hn
    rcases List.mem_append.1 hn with hn | hn
    · exact h.names n hn
    · exact ⟨a.path, hp, a, ho₀, (List.mem_singleton.1 hn).symm⟩

/-- The scope guard takes one link back. -/
theorem StageLinks.unlink (h : StageLinks w₀ paths s w) {d : String} (hd : d ∈ s.files)
    {r : Except Errno Unit} (hu : (r, w') = w.unlink d) : StageLinks w₀ paths s w' := by
  obtain ⟨a, rfl⟩ := h.dest d hd
  rcases w.unlink_cases (stageDestPath a) with ⟨e, he, _⟩ | ⟨dir, f, hdir, _, he⟩
  · rw [he] at hu
    cases hu
    exact h
  · rw [he] at hu
    obtain ⟨_, rfl⟩ := Prod.mk.inj hu
    have her := w.erase_file? (dirName_stageDestPath_ne a) hdir
    constructor
    · exact h.free
    · exact h.dest
    · intro q hq g hg
      rw [her] at hg
      split at hg
      · cases hg
      · exact h.link q hq g hg
    · intro q hq
      rw [her, if_neg (by rintro rfl; exact hq hd)]
      exact h.same q hq
    · exact h.names

/-- The removal takes one file away that it may take. -/
theorem StageRemoval.unlink (h : StageRemoval w₀ paths s w) {n : String} (hn : NoSlash n)
    {a : ApexFile}
    (ho : w.openApex (join kActiveApexPackagesDataDir n) = .ok a)
    (hname : a.manifest.name ∈ s.packages)
    (hkeep : a.path ∉ s.files) {r : Except Errno Unit} (hu : (r, w') = w.unlink a.path) :
    StageRemoval w₀ paths s w' := by
  have hpath := World.openApex_path ho
  rcases w.unlink_cases a.path with ⟨e, he, _⟩ | ⟨d, f, hd, hm, he⟩
  · rw [he] at hu
    cases hu
    exact h
  · rw [he] at hu
    obtain ⟨_, rfl⟩ := Prod.mk.inj hu
    have hdir : dirName a.path = kActiveApexPackagesDataDir := by rw [hpath, dirName_join hn]
    have her := w.erase_file? (by rw [hdir]; decide) hd
    have hgo : w₀.MayGo paths a.path := by
      refine ⟨hdir, a, ?_, h.names _ hname⟩
      rcases h.same _ hkeep with hs | ⟨hs, _⟩
      · rw [← h.openApex_eq (by rw [hpath]; exact join_ne_self _ _) hs, hpath]
        exact ho
      · rw [World.file?_eq_some.2 ⟨d, hd, hm⟩] at hs
        cases hs
    constructor
    · exact h.free
    · exact h.dest
    · intro q hq g hg
      rw [her] at hg
      split at hg
      · cases hg
      · exact h.link q hq g hg
    · intro q hq
      rw [her]
      split
      · rename_i hqa
        rw [hqa]
        exact Or.inr ⟨rfl, hgo⟩
      · exact h.same q hq
    · exact h.names

theorem StageLinks.touchesOnly (h : StageLinks w₀ paths s w) :
    TouchesOnly paths w₀ w := h.removal.touchesOnly

end Invariants

/-! ## The parts of the call -/

section Parts

variable {F : Faults} {w₀ w : World} {cfg : Config} {paths : List String}

theorem wp_openApex_refusals (hF : F.Refusals) {I : World → Prop} (hI : I w) (p : String) :
    wp (kernel .off F) I (openApex p)
      (fun x w' => w' = w ∧ ∀ a, x = .ok a → w.openApex p = .ok a) w := by
  refine ⟨hI, trivial, ?_⟩
  rintro r w' (⟨rfl, rfl⟩ | hf)
  · exact wp_ofExcept.2 ⟨hI, rfl, fun a ha => ha⟩
  · obtain ⟨⟨e, rfl⟩, rfl⟩ := hF _ _ _ _ hf
    exact ⟨hI, rfl, fun a ha => by cases ha⟩

/-- Programs that change no file. -/
theorem keeps_sameFiles (hF : F.Refusals) {α : Type} {p : ApexM α} (hp : p.Uses KeepsFiles) :
    p.Keeps (kernel .off F) fun w' => ∀ q, w'.file? q = w₀.file? q := by
  apply hp.keeps
  · intro c w hc _
    cases c <;> trivial
  · rintro c w r w' hc hI (hn | hf) q
    · rw [keepsFiles_file? hc hn, hI]
    · rw [(hF c w r w' hf).2, hI]

/-- Only an image passes. -/
theorem wp_verifyPackageBoot_image (hF : F.Refusals) (apex : ApexFile)
    (h : ∀ q, w.file? q = w₀.file? q) :
    wp (kernel .off F) (fun w' => ∀ q, w'.file? q = w₀.file? q) (verifyPackageBoot cfg apex)
      (fun x _ => x = .ok () → apex.flattened = false) w := by
  have hkeep : (verifyPackageBoot cfg apex).Keeps (kernel .off F) fun w' =>
      ∀ q, w'.file? q = w₀.file? q :=
    keeps_sameFiles hF ((uses_verifyPackageBoot apex).mono fun _ => TempCmd.keepsFiles)
  cases hflat : apex.flattened with
  | true =>
    unfold verifyPackageBoot
    rw [hflat]
    exact ⟨h, fun hx => by cases hx⟩
  | false => exact (hkeep w h).imp fun _ _ _ _ _ => rfl

/-- All listed files were opened, and are images, when the verification succeeds. -/
theorem wp_verifyPackages_verified (hF : F.Refusals) (h : ∀ q, w.file? q = w₀.file? q) :
    wp (kernel .off F) (fun w' => ∀ q, w'.file? q = w₀.file? q)
      (verifyPackages paths (verifyPackageBoot cfg))
      (fun x _ => ∀ l, x = .ok l → w₀.Verified paths) w := by
  unfold verifyPackages
  refine wp_bind.2 (wp_require.2 ⟨h, ?_⟩)
  split
  · refine wp_bind.2 ((wp_mapM (Q := fun x w' => ∀ l, x = .ok l → ∀ p ∈ paths, ∃ a ∈ l,
      w₀.openApex p = .ok a) (fun rest acc w' => (∀ q, w'.file? q = w₀.file? q) ∧
        ∀ p ∈ paths, p ∈ rest ∨ ∃ a ∈ acc, w₀.openApex p = .ok a)
      paths ?_ ?_ ⟨h, fun p hp => Or.inl hp⟩).imp ?_)
    · intro p rest acc w₁ _ hJ
      apply (wp_openApex_refusals hF hJ.1 p).imp
      rintro (e | a) w₂ hI ⟨rfl, ha⟩
      · intro l hl
        cases hl
      · refine ⟨hI, fun q hq => ?_⟩
        rcases hJ.2 q hq with hm | ⟨b, hb, hbq⟩
        · rcases List.mem_cons.1 hm with rfl | hm
          · have ho := ha a rfl
            rw [World.openApex_of_files hI] at ho
            exact Or.inr ⟨a, List.mem_append_right _ List.mem_cons_self, ho⟩
          · exact Or.inl hm
        · exact Or.inr ⟨b, List.mem_append_left _ hb, hbq⟩
    · intro acc w₁ hJ
      refine ⟨hJ.1, fun l hl p hp => ?_⟩
      cases hl
      exact (hJ.2 p hp).resolve_left List.not_mem_nil
    · rintro (e | apexes) w₁ hI hopen
      · intro l hl
        cases hl
      -- every opened package is then checked
      refine wp_bind.2 ((wp_forM (Q := fun x _ => x = .ok () → ∀ a ∈ apexes, a.flattened = false)
        (fun rest w' => (∀ q, w'.file? q = w₀.file? q) ∧ ∀ a ∈ apexes, a ∈ rest ∨
          a.flattened = false)
        apexes ?_ ?_ ⟨hI, fun a ha => Or.inl ha⟩).imp ?_)
      · intro apex rest w₂ _ hJ
        apply (wp_verifyPackageBoot_image hF apex hJ.1).imp
        rintro (e | u) w₃ hI₃ hflat
        · intro hx
          cases hx
        · refine ⟨hI₃, fun a ha => ?_⟩
          rcases hJ.2 a ha with hm | hm
          · rcases List.mem_cons.1 hm with rfl | hm
            · exact Or.inr (hflat rfl)
            · exact Or.inl hm
          · exact Or.inr hm
      · intro w₂ hJ
        exact ⟨hJ.1, fun _ a ha => (hJ.2 a ha).resolve_left List.not_mem_nil⟩
      · rintro (e | u) w₂ hI₂ hflat
        · intro l hl
          cases hl
        · refine ⟨hI₂, fun _ _ p hp => ?_⟩
          obtain ⟨a, ha, ho⟩ := hopen apexes rfl p hp
          exact ⟨a, ho, hflat rfl a ha⟩
  · intro l hl
    cases hl

/-- What is staged was listed. -/
theorem yields_filterUnnecessaryStagingPaths (paths : List String) :
    (filterUnnecessaryStagingPaths paths).Yields fun l => ∀ p ∈ l, p ∈ paths := by
  unfold filterUnnecessaryStagingPaths
  apply yields_then
  intro packagesWithCode
  apply yields_foldlM paths (by simp)
  intro acc hacc path hpath
  unfold filterStagingStep
  apply yields_then
  intro necessary p hp
  cases necessary with
  | false => exact hacc p hp
  | true =>
    rcases List.mem_append.1 hp with hp | hp
    · exact hacc p hp
    · rw [List.mem_singleton.1 hp]
      exact hpath

variable {s : Staged}

theorem StageLinks.wp_undo (hF : F.Refusals) (h : StageLinks w₀ paths s w) :
    wp (kernel .off F) (TouchesOnly paths w₀) s.undo (fun _ _ => True) w := by
  unfold Staged.undo
  apply wp_forM (fun _ w' => StageLinks w₀ paths s w') s.files
  · intro d rest w₁ hs h₁
    refine ⟨h₁.touchesOnly, trivial, ?_⟩
    rintro r w₂ (hn | hf)
    · have h₂ := h₁.unlink (hs.subset List.mem_cons_self) hn
      exact ⟨h₂.touchesOnly, h₂⟩
    · obtain ⟨_, rfl⟩ := hF _ _ _ _ hf
      exact ⟨h₁.touchesOnly, h₁⟩
  · intro w₁ h₁
    exact ⟨h₁.touchesOnly, trivial⟩
  · exact h

/-- One package: it is linked, or nothing has changed. -/
theorem StageLinks.wp_stageLink (hF : F.Refusals) (h : StageLinks w₀ paths s w)
    (hv : w₀.Verified paths)
    {path : String} (hp : path ∈ paths) :
    wp (kernel .off F) (TouchesOnly paths w₀) (stageLink s path) (fun
      | .ok s', w' => StageLinks w₀ paths s' w'
      | .error _, w' => StageLinks w₀ paths s w') w := by
  unfold stageLink
  refine wp_bind.2 ((wp_openApex_refusals hF h.touchesOnly path).imp ?_)
  rintro (e | apex) w₁ hI ⟨rfl, ho⟩
  · exact h
  refine ⟨hI, trivial, ?_⟩
  rintro r w₂ (hn | hf)
  · cases r with
    | ok u =>
      have h₂ := h.add hv hp (ho apex rfl) hn
      exact ⟨h₂.touchesOnly, h₂⟩
    | error e =>
      have hl : (Except.error e, w₂) = w₁.link apex.path (stageDestPath apex) := hn
      rcases w₁.link_cases apex.path (stageDestPath apex) with ⟨e', he⟩ | ⟨f, d, _, _, _, he⟩
      · rw [he] at hl
        cases hl
        exact ⟨hI, h⟩
      · rw [he] at hl
        cases hl
  · obtain ⟨⟨e, _, rfl⟩, rfl⟩ := hF _ _ _ _ hf
    exact ⟨hI, h⟩

theorem StageLinks.wp_stageLoop (hF : F.Refusals) (hv : w₀.Verified paths) (l : List String)
    (hl : ∀ p ∈ l, p ∈ paths) (h : StageLinks w₀ paths s w) :
    wp (kernel .off F) (TouchesOnly paths w₀) (stageLoop l s)
      (fun x w' => ∀ s', x = .ok s' → StageLinks w₀ paths s' w') w := by
  induction l generalizing s w with
  | nil =>
    refine ⟨h.touchesOnly, fun s' hs' => ?_⟩
    cases hs'
    exact h
  | cons path rest ih =>
    unfold stageLoop
    refine wp_bind.2 (wp_onFail.2 ((h.wp_stageLink hF hv (hl path List.mem_cons_self)).imp ?_))
    rintro (e | s') w₁ _ h₁
    · exact (h₁.wp_undo hF).imp fun _ _ _ _ s' hs' => by cases hs'
    · exact ih (fun p hp => hl p (List.mem_cons_of_mem _ hp)) h₁

theorem StageRemoval.wp_step (hF : F.Refusals) (h : StageRemoval w₀ paths s w) {n : String}
    (hn : NoSlash n) : wp (kernel .off F) (TouchesOnly paths w₀)
      (removePreviouslyActiveStep s.packages s.files (join kActiveApexPackagesDataDir n))
      (fun _ w' => StageRemoval w₀ paths s w') w := by
  unfold removePreviouslyActiveStep
  refine wp_bind.2 ((wp_openApex_refusals hF h.touchesOnly _).imp ?_)
  rintro (e | apex) w₁ hI ⟨rfl, ho⟩
  · exact h
  dsimp only [Then]
  split
  · exact ⟨hI, h⟩
  rename_i hname
  split
  · exact ⟨hI, h⟩
  rename_i hkeep
  refine ⟨hI, trivial, ?_⟩
  rintro r w₂ (hu | hf)
  · have h₂ := h.unlink hn (ho apex rfl) (by simpa using hname) (by simpa using hkeep) hu
    cases r <;> exact ⟨h₂.touchesOnly, h₂⟩
  · obtain ⟨⟨e, _, rfl⟩, rfl⟩ := hF _ _ _ _ hf
    exact ⟨hI, h⟩

theorem StageRemoval.wp_removePreviouslyActive (hF : F.Refusals) (h : StageRemoval w₀ paths s w) :
    wp (kernel .off F) (TouchesOnly paths w₀) (removePreviouslyActiveApexFiles s.packages s.files)
      (fun _ _ => True) w := by
  unfold removePreviouslyActiveApexFiles
  refine wp_bind.2 ((wp_readDir_paths hF.honest h.touchesOnly).imp ?_)
  rintro (e | all) w₁ _ ⟨rfl, hall⟩
  · trivial
  apply wp_forM (fun _ w' => StageRemoval w₀ paths s w') all
  · intro path rest w₂ hs h₂
    obtain ⟨n, hn, rfl⟩ := hall all rfl path (hs.subset List.mem_cons_self)
    apply (h₂.wp_step hF hn).imp
    rintro (e | u) w₃ _ h₃
    · trivial
    · exact h₃
  · intro w₂ h₂
    exact ⟨h₂.touchesOnly, trivial⟩
  · exact h

/-- **After the verification.** -/
theorem wp_stageVerifiedPackages (hF : F.Refusals) (hv : w₀.Verified paths)
    (h : ∀ q, w.file? q = w₀.file? q) :
    wp (kernel .off F) (TouchesOnly paths w₀) (stageVerifiedPackages paths)
      (fun _ _ => True) w := by
  have hI : ∀ w' : World, (∀ q, w'.file? q = w₀.file? q) → TouchesOnly paths w₀ w' :=
    fun _ => .of_same
  have hdir : (createDirIfNeeded kActiveApexPackagesDataDir 0o750).Keeps (kernel .off F) fun w' =>
      ∀ q, w'.file? q = w₀.file? q :=
        keeps_sameFiles hF (uses_createDirIfNeeded trivial trivial trivial)
  have hfilter : (filterUnnecessaryStagingPaths paths).Keeps (kernel .off F) fun w' =>
      ∀ q, w'.file? q = w₀.file? q := keeps_sameFiles hF (uses_filterUnnecessaryStagingPaths paths)
  unfold stageVerifiedPackages
  refine wp_bind.2 ((hdir w h).mono hI ?_)
  rintro (e | u) w₁ h₁ _
  · trivial
  refine wp_bind.2 (((hfilter w₁ h₁).yields (yields_filterUnnecessaryStagingPaths paths)).mono hI
    ?_)
  rintro (e | l) w₂ h₂ ⟨_, hl⟩
  · trivial
  dsimp only [Then]
  split
  · exact ⟨.of_same h₂, trivial⟩
  refine wp_bind.2 (((StageLinks.nil h₂).wp_stageLoop hF hv l (hl l rfl)).imp ?_)
  rintro (e | s) w₃ _ h₃
  · trivial
  · exact (h₃ s rfl).removal.wp_removePreviouslyActive hF

end Parts

/-- The calls of `stagePackages` in which any one may be refused. -/
abbrev refusingKernel : Kernel Sys Sys.Res World := kernel .off Sys.Refused

/-- **Staging touches only the listed packages**: that holds in every state a call passes through,
and before all listed packages were verified no file has changed at all. -/
theorem stagePackages_touches {cfg : Config} {paths : List String} {w w' : World} {p' : ApexM Unit}
    (h : Reaches refusingKernel (stagePackages cfg paths) w p' w') :
    TouchesOnly paths w w' ∧ ((∀ q, w'.file? q = w.file? q) ∨ ∃ apexes w₁,
      Ends refusingKernel (verifyPackages paths (verifyPackageBoot cfg)) w (.ok apexes) w₁ ∧
        Reaches refusingKernel (stageVerifiedPackages paths) w₁ p' w') := by
  rw [stagePackages_eq] at h
  rcases h.of_bind with ⟨p, hp, _⟩ | ⟨u, w₀, hreq, hrest⟩
  · obtain rfl := hp.require
    exact ⟨.of_same fun _ => rfl, Or.inl fun _ => rfl⟩
  obtain rfl := Reaches.require hreq
  have hverify : wp refusingKernel (fun w' => ∀ q, w'.file? q = w₀.file? q)
      (verifyPackages paths (verifyPackageBoot cfg))
          (fun x _ => ∀ l, x = .ok l → w₀.Verified paths) w₀ :=
    wp_verifyPackages_verified Sys.Refused.refusals fun _ => rfl
  rcases hrest.of_bind with ⟨p, hp, _⟩ | ⟨apexes, w₁, hends, h₁⟩
  · have hsame := (hverify.reaches hp).inv
    exact ⟨.of_same hsame, Or.inl hsame⟩
  · have hv := hverify.ends hends apexes rfl
    have hstage := wp_stageVerifiedPackages Sys.Refused.refusals hv (hverify.reaches hends).inv
    exact ⟨(hstage.reaches h₁).inv, Or.inr ⟨apexes, w₁, hends, h₁⟩⟩

/-- Version 2 is linked next to version 1 and a file that is no package. -/
theorem stagePackages_touches_link :
    let run := runN Sys.run 60
      (stagePackages deviceConfig ["/data/app-staging/session_5/a.apex"]) stagingWorld
    TouchesOnly ["/data/app-staging/session_5/a.apex"] stagingWorld run.2 ∧
      ((∀ q, run.2.file? q = stagingWorld.file? q) ∨ ∃ apexes w₁,
        Ends refusingKernel (verifyPackages ["/data/app-staging/session_5/a.apex"]
          (verifyPackageBoot deviceConfig)) stagingWorld (.ok apexes) w₁ ∧
        Reaches refusingKernel (stageVerifiedPackages ["/data/app-staging/session_5/a.apex"]) w₁
            run.1 run.2) :=
  stagePackages_touches (runN_reaches Sys.run_sem 60 _ _)

end Apexd
