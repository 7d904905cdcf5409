import Apexd.StageAtomic

/-!
# What a successful staging leaves in the active directory

* `StagedExactly` — of every package named by a listed file only listed destinations are left, and
  every listed file is there or is the active version.
* `StageCondition` — the condition on the state before the call, in terms of the skip filter: no
  other version of a package of which nothing is linked, and no skipped destination that holds a
  package of which something is linked.
* `stagePackages_ok_iff` — the two are equivalent for every call that succeeds.
* `stagePackages_keeps_newer` — a skipped lower version leaves the higher one that was staged
  before.
-/

set_option autoImplicit false

namespace Apexd

open Text Prog

variable {w w' w₁ w₂ : World} {cfg : Config}

/-! ## The skip filter -/

def World.isActiveVersion (w : World) (apex : ApexFile) : Bool :=
  decide (w.activeVersions.lookup apex.manifest.name = some (u64 apex.manifest.version))

/-- There is something at a path. -/
def World.present (w : World) (p : String) : Bool := (w.stat p).toOption.isSome

/-- Whether the filter lets a package through. -/
def World.stageNeeded (w : World) (apex : ApexFile) : Bool :=
  !w.present (stageDestPath apex) && !w.isActiveVersion apex

def World.pathNeeded (w : World) (path : String) : Bool :=
  match w.openApex path with
  | .ok apex => w.stageNeeded apex
  | .error _ => true

section Filter

variable {V : Watch} {I : World → Prop}

theorem wp_filterUnnecessaryStagingPaths {Q : Except String (List String) → World → Prop}
    {paths : List String} (hI : I w) (hQ : Q (.ok (paths.filter w.pathNeeded)) w) :
    wp (kernel V Sys.NoFault) I (filterUnnecessaryStagingPaths paths) Q w := by
  unfold filterUnnecessaryStagingPaths
  simp only [bind_eq]
  refine wp_bind.2 (wp_getActivePackagesMap readsPackages_noFault hI ?_)
  refine wp_foldlM (fun rest acc w₁ => acc ++ rest.filter w.pathNeeded = paths.filter w.pathNeeded ∧
    w = w₁) _ ?_ ?_ ⟨rfl, rfl⟩
  · rintro path rest acc _ - ⟨hacc, rfl⟩
    suffices h : wp (kernel V Sys.NoFault) I (isStagingNecessary w.activeVersions path)
        (fun x w' => x = .ok (w.pathNeeded path) ∧ w = w') w by
      refine wp_bind.2 (h.imp ?_)
      rintro _ _ _ ⟨rfl, rfl⟩
      refine ⟨hI, ?_, rfl⟩
      rw [← hacc, List.filter_cons]
      split <;> simp
    refine wp_bind.2 (wp_attempt.2 (wp_openApex_eq readsPackages_noFault hI ?_))
    cases ho : w.openApex path with
    | error e => exact ⟨hI, by simp [World.pathNeeded, ho], rfl⟩
    | ok apex =>
      refine ⟨hI, trivial, ?_⟩
      rintro r w' (⟨rfl, rfl⟩ | hf)
      · cases hs : w'.stat (stageDestPath apex) with
        | ok st =>
          refine ⟨hI, ?_, rfl⟩
          simp [World.pathNeeded, ho, World.stageNeeded, World.present, hs, Except.toOption]
        | error e =>
          refine ⟨hI, ?_, rfl⟩
          simp [World.pathNeeded, ho, World.stageNeeded, World.present, hs, World.isActiveVersion,
            Except.toOption]
      · exact hf.elim
  · rintro acc _ ⟨hacc, rfl⟩
    rw [List.filter_nil, List.append_nil] at hacc
    exact ⟨hI, hacc ▸ hQ⟩

end Filter

/-! ## Before the links -/

/-- What the steps before the links keep: files, the database, and below the active directory what
is a directory and what is mounted. -/
structure World.StageSame (w w' : World) : Prop where
  files : ∀ q, w'.file? q = w.file? q
  db : w'.db = w.db
  dirs : ∀ q, below kActiveApexPackagesDataDir q = true → (w'.dirs q).isSome = (w.dirs q).isSome
  mounted : ∀ q, belowApex q = false → w'.mounted q = w.mounted q

namespace World.StageSame

theorem refl (w : World) : w.StageSame w := ⟨fun _ => rfl, rfl, fun _ _ => rfl, fun _ _ => rfl⟩

theorem trans (h : w.StageSame w₁) (h' : w₁.StageSame w₂) : w.StageSame w₂ where
  files q := (h'.files q).trans (h.files q)
  db := h'.db.trans h.db
  dirs q hq := (h'.dirs q hq).trans (h.dirs q hq)
  mounted q hq := (h'.mounted q hq).trans (h.mounted q hq)

theorem openApex (h : w.StageSame w') (p : String) : w'.openApex p = w.openApex p :=
  World.openApex_of_files h.files p

end World.StageSame

/-- What is below the active directory is not below `/apex`. -/
theorem notBelowApex_of_below {q : String} (h : below kActiveApexPackagesDataDir q = true) :
    belowApex q = false := by
  obtain ⟨n, rfl⟩ := below_iff.1 h
  unfold belowApex below startsWith
  rw [toList_join]
  simp only [kActiveApexPackagesDataDir]
  rfl

theorem dirName_active : dirName kActiveApexPackagesDataDir = kApexDataDir := by decide

theorem ne_apexRoot_of_below {q : String} (h : below kActiveApexPackagesDataDir q = true) :
    q ≠ kApexRoot := by
  obtain ⟨n, rfl⟩ := below_iff.1 h
  exact join_ne (by decide)

theorem ne_active_of_below {q : String} (h : below kActiveApexPackagesDataDir q = true) :
    q ≠ kActiveApexPackagesDataDir ∧ q ≠ kApexDataDir := by
  obtain ⟨n, rfl⟩ := below_iff.1 h
  exact ⟨join_ne_self _ _, join_ne (by decide)⟩

theorem World.Outside.stageSame (h : w.Outside w') (hdb : w'.db = w.db) : w.StageSame w' where
  files := h.files
  db := hdb
  dirs q hq := by rw [h.dirs q (ne_apexRoot_of_below hq) (notBelowApex_of_below hq)]
  mounted := h.mounted

section Before

variable {V : Watch} {F : Faults} {I : World → Prop}

theorem wp_tempCmd_stageSame {α : Type} {p : ApexM α} (hp : p.Uses TempCmd) :
    wp (kernel V Sys.NoFault) (fun _ => True) p (fun _ w' => w.StageSame w') w := by
  refine (hp.wp (I := fun w' => w.StageSame w') ?_ ?_ (.refl w)).mono (fun _ _ => trivial)
    fun _ _ h _ => h
  · intro c w hc _
    cases c <;> trivial
  · rintro c w₁ r w₂ hc hI (hn | hf)
    · exact hI.trans ((apexCmd_outside hc.apex hn).stageSame (tempCmd_db hc hn))
    · exact hf.elim

/-- A successful verification has opened every package. -/
theorem wp_verifyPackages_stageSame {paths : List String} {f : ApexFile → ApexM Unit}
    (hf : ∀ a, (f a).Uses TempCmd) :
    wp (kernel V Sys.NoFault) (fun _ => True) (verifyPackages paths f) (fun x w' => w.StageSame w' ∧
      ∀ l, x = .ok l → ∀ p ∈ paths, ∃ apex, w.openApex p = .ok apex) w := by
  suffices h : wp (kernel V Sys.NoFault) (fun _ => True) (openApexes paths) (fun x w' => w = w' ∧
      ∀ l, x = .ok l → ∀ p ∈ paths, ∃ apex, w.openApex p = .ok apex) w by
    unfold verifyPackages
    refine wp_bind.2 (wp_require.2 ⟨trivial, ?_⟩)
    split
    · refine wp_bind.2 (h.imp ?_)
      rintro (e | l) w₁ _ ⟨rfl, ho⟩
      · exact ⟨.refl w, by rintro _ ⟨⟩⟩
      refine (wp_tempCmd_stageSame (p := (l.forM f).bind fun _ => ret l)
        (uses_bind (uses_forM _ fun a _ => hf a) fun _ => trivial)).imp ?_
      exact fun x w' _ hw => ⟨hw, fun _ _ => ho l rfl⟩
    · exact ⟨.refl w, by rintro _ ⟨⟩⟩
  refine wp_mapM (fun rest _ w' => w = w' ∧ ∀ p ∈ paths, p ∉ rest → ∃ apex, w.openApex p = .ok apex)
    _ ?_ ?_ ⟨rfl, fun p hp hn => absurd hp hn⟩
  · rintro path rest acc _ - ⟨rfl, hacc⟩
    refine wp_openApex_eq readsPackages_noFault trivial ?_
    cases ho : w.openApex path with
    | error e => exact ⟨rfl, by rintro _ ⟨⟩⟩
    | ok apex =>
      refine ⟨rfl, fun p hp hn => ?_⟩
      by_cases hpp : p = path
      · exact ⟨apex, hpp ▸ ho⟩
      · exact hacc p hp fun hm => (List.mem_cons.1 hm).elim hpp hn
  · rintro acc _ ⟨rfl, hacc⟩
    exact ⟨trivial, rfl, fun _ _ p hp => hacc p hp (by simp)⟩

theorem wp_createDirIfNeeded_stageSame {mode : Nat} :
    wp (kernel V Sys.NoFault) (fun _ => True) (createDirIfNeeded kActiveApexPackagesDataDir mode)
      (fun _ w' => w.StageSame w') w := by
  let S : Sys → Prop := fun c => (∃ p, c = .stat p) ∨ c = .mkdir kActiveApexPackagesDataDir mode ∨
    c = .chmod kActiveApexPackagesDataDir mode
  have hu : (createDirIfNeeded kActiveApexPackagesDataDir mode).Uses S :=
    uses_createDirIfNeeded (Or.inl ⟨_, rfl⟩) (Or.inr (Or.inl rfl)) (Or.inr (Or.inr rfl))
  refine (hu.wp (I := fun w' => w.StageSame w') ?_ ?_ (.refl w)).mono (fun _ _ => trivial)
    fun _ _ h _ => h
  · rintro c w (⟨p, rfl⟩ | rfl | rfl) _ <;> trivial
  · rintro c w₁ r w₂ hc hI (hn | hf)
    swap
    · exact hf.elim
    refine hI.trans ?_
    rcases hc with ⟨p, rfl⟩ | rfl | rfl
    · obtain ⟨_, rfl⟩ := hn
      exact .refl _
    · have hm : (r, w₂) = w₁.mkdir kActiveApexPackagesDataDir mode := hn
      have hod := World.mkdir_onlyDirs hm
      refine ⟨World.mkdir_file? hm, by rw [hod], fun q hq => ?_, fun q _ => ?_⟩
      · rcases w₁.mkdir_cases kActiveApexPackagesDataDir mode with ⟨e, he⟩ | ⟨parent, _, _, _, he⟩
        · rw [he] at hm
          obtain ⟨_, rfl⟩ := Prod.mk.inj hm
          rfl
        · rw [he] at hm
          obtain ⟨_, rfl⟩ := Prod.mk.inj hm
          rw [World.setDir_other _ _ (ne_active_of_below hq).1,
            World.setDir_other _ _ (by rw [dirName_active]; exact (ne_active_of_below hq).2)]
      · unfold World.mounted
        rw [hod.mounts]
    · have hm : (r, w₂) = w₁.chmod kActiveApexPackagesDataDir mode := hn
      have hod := World.chmod_onlyDirs hm
      refine ⟨World.chmod_file? hm, by rw [hod], fun q hq => ?_, fun q _ => ?_⟩
      · rcases w₁.chmod_cases kActiveApexPackagesDataDir mode with ⟨e, he⟩ | ⟨d, _, he⟩
        · rw [he] at hm
          obtain ⟨_, rfl⟩ := Prod.mk.inj hm
          rfl
        · rw [he] at hm
          obtain ⟨_, rfl⟩ := Prod.mk.inj hm
          rw [World.setDir_other _ _ (ne_active_of_below hq).1]
      · unfold World.mounted
        rw [hod.mounts]

end Before

/-! ## The removal -/

/-- What the removal takes away: the `.apex` files of the affected packages that are not to be
kept. -/
def World.Removed (w : World) (packages filesToKeep : List String) (q : String) : Prop :=
  ∃ n, NoSlash n ∧ q = join kActiveApexPackagesDataDir n ∧ endsWith n kApexPackageSuffix = true ∧
    (w.file? q).isSome ∧ (∃ apex, w.openApex q = .ok apex ∧ apex.manifest.name ∈ packages) ∧
    q ∉ filesToKeep

/-- Exactly these files are gone. -/
structure World.RemovedFrom (w : World) (packages filesToKeep : List String) (w' : World) :
    Prop where
  gone : ∀ q, w.Removed packages filesToKeep q → w'.file? q = none
  kept : ∀ q, ¬ w.Removed packages filesToKeep q → w'.file? q = w.file? q
  sameDirs : w.SameDirs w'

section Removal

variable {V : Watch} {packages filesToKeep : List String}

/-- The loop over the listed files `all`. -/
structure RemovalInv (w : World) (packages filesToKeep rest : List String) (w' : World) : Prop where
  gone : ∀ q, w.Removed packages filesToKeep q → q ∉ rest → w'.file? q = none
  kept : ∀ q, ¬ w.Removed packages filesToKeep q ∨ q ∈ rest → w'.file? q = w.file? q
  sameDirs : w.SameDirs w'

/-- Nothing inside a directory of a package is removed. -/
theorem not_removed_join {n m : String} (hm : NoSlash m) :
    ¬ w.Removed packages filesToKeep (join (join kActiveApexPackagesDataDir n) m) := by
  rintro ⟨k, hk, he, _⟩
  exact join_ne_self _ _ ((join_inj hm hk).1 he).1

theorem RemovalInv.openApex {rest : List String} {n : String}
    (h : RemovalInv w packages filesToKeep (join kActiveApexPackagesDataDir n :: rest) w') :
    w'.openApex (join kActiveApexPackagesDataDir n) = w.openApex
      (join kActiveApexPackagesDataDir n) := by
  unfold World.openApex
  rw [h.kept _ (Or.inr List.mem_cons_self), h.kept _ (Or.inl (not_removed_join (by decide))),
    h.kept _ (Or.inl (not_removed_join (by decide)))]

/-- A file that is not to be removed is passed over. -/
theorem RemovalInv.skip {x : String} {rest : List String}
    (h : RemovalInv w packages filesToKeep (x :: rest) w')
    (hx : ¬ w.Removed packages filesToKeep x) : RemovalInv w packages filesToKeep rest w' := by
  refine ⟨fun q hq hn => h.gone q hq fun hm => ?_, fun q hq => h.kept q ?_, h.sameDirs⟩
  · rcases List.mem_cons.1 hm with rfl | hm
    · exact hx hq
    · exact hn hm
  · exact hq.imp_right fun hm => List.mem_cons_of_mem _ hm

theorem wp_removePreviouslyActiveStep_inv {n : String} {f : File} {rest : List String}
    (hn : NoSlash n) (hs : endsWith n kApexPackageSuffix = true)
    (hf : w.file? (join kActiveApexPackagesDataDir n) = some f)
    (hrest : join kActiveApexPackagesDataDir n ∉ rest)
    (h : RemovalInv w packages filesToKeep (join kActiveApexPackagesDataDir n :: rest) w') :
    wp (kernel V Sys.NoFault) (fun _ => True)
      (removePreviouslyActiveStep packages filesToKeep (join kActiveApexPackagesDataDir n)) (fun
        | .ok _, w'' => RemovalInv w packages filesToKeep rest w''
        | .error _, _ => True) w' := by
  unfold removePreviouslyActiveStep
  simp only [bind_eq]
  refine wp_bind.2 (wp_openApex_eq readsPackages_noFault trivial ?_)
  rw [h.openApex]
  cases ho : w.openApex (join kActiveApexPackagesDataDir n) with
  | error e => trivial
  | ok apex =>
    have hpath := World.openApex_path ho
    dsimp only [Then]
    split
    · rename_i hc
      refine ⟨trivial, h.skip ?_⟩
      rintro ⟨_, _, _, _, _, ⟨a, ha, hm⟩, _⟩
      rw [ho] at ha
      cases ha
      simp [hm] at hc
    · rename_i hc
      split
      · rename_i hk
        refine ⟨trivial, h.skip ?_⟩
        rintro ⟨_, _, _, _, _, _, hnk⟩
        rw [hpath] at hk
        exact hnk (by simpa using hk)
      · rename_i hk
        rw [hpath] at hk ⊢
        refine ⟨trivial, trivial, ?_⟩
        rintro r w'' (hu | hff)
        swap
        · exact hff.elim
        have hu : (r, w'') = w'.unlink (join kActiveApexPackagesDataDir n) := hu
        have hfile := h.kept _ (Or.inr List.mem_cons_self)
        rcases w'.unlink_cases (join kActiveApexPackagesDataDir n)
          with ⟨e, _, hnone⟩ | ⟨d, g, hd, _, he⟩
        · rw [hfile, hf] at hnone
          cases hnone
        rw [he] at hu
        obtain ⟨rfl, rfl⟩ := Prod.mk.inj hu
        have her := w'.erase_file? (p := join kActiveApexPackagesDataDir n)
          (by rw [dirName_join hn]; decide) hd
        have hrem : w.Removed packages filesToKeep (join kActiveApexPackagesDataDir n) :=
          ⟨n, hn, rfl, hs, by rw [hf]; rfl, ⟨apex, ho, by simpa using hc⟩, by simpa using hk⟩
        refine ⟨trivial, fun q hq hnr => ?_, fun q hq => ?_,
          h.sameDirs.trans (World.sameDirs_setDir hd)⟩
        · rw [her]
          split
          · rfl
          · rename_i hne
            exact h.gone q hq fun hm => (List.mem_cons.1 hm).elim hne hnr
        · rw [her, if_neg]
          · exact h.kept q (hq.imp_right fun hm => List.mem_cons_of_mem _ hm)
          · rintro rfl
            exact hq.elim (· hrem) hrest

/-- **The removal** takes away exactly the files it is meant to. -/
theorem wp_removePreviouslyActiveApexFiles_ok (hm : w.mounted kActiveApexPackagesDataDir = none) :
    wp (kernel V Sys.NoFault) (fun _ => True) (removePreviouslyActiveApexFiles packages filesToKeep)
      (fun
      | .ok _, w' => w.RemovedFrom packages filesToKeep w'
      | .error _, _ => True) w := by
  unfold removePreviouslyActiveApexFiles findApexFilesByName
  simp only [bind_eq]
  refine wp_bind.2 (wp_readDir Sys.NoFault.commits.reads hm trivial (fun _ _ => trivial) ?_)
  intro d es hd hes
  have hnd : ((es.filter fun e => isApexEntry false
    (World.dirEntry kActiveApexPackagesDataDir e)).map
      fun e => join kActiveApexPackagesDataDir e.1).Nodup := by
    have h1 : (es.map Prod.fst).Nodup := (hes.map Prod.fst).nodup_iff.2 d.nodup
    have h2 := (h1.sublist ((List.filter_sublist (p := fun e : String × Node => isApexEntry false
      (World.dirEntry kActiveApexPackagesDataDir e))).map Prod.fst)).map
        (f := join kActiveApexPackagesDataDir) fun a b h => join_right_inj.1 h
    rwa [List.map_map] at h2
  refine wp_forM (fun rest w' => rest.Nodup ∧ RemovalInv w packages filesToKeep rest w') _ ?_ ?_ ?_
  · rintro x rest w' hs ⟨hnd, hinv⟩
    obtain ⟨⟨n, node⟩, he, rfl⟩ := List.mem_map.1 (hs.subset List.mem_cons_self)
    obtain ⟨he, hfilter⟩ := List.mem_filter.1 he
    have hn : NoSlash n := d.noSlash _ (hes.mem_iff.1 he)
    simp only [isApexEntry, World.dirEntry, baseName_join hn, Bool.and_false, Bool.or_false,
      Bool.and_eq_true] at hfilter
    obtain ⟨f, rfl⟩ : ∃ f, node = .file f := by
      cases node with
      | file f => exact ⟨f, rfl⟩
      | dir => simp [Node.file?] at hfilter
    have hf : w.file? (join kActiveApexPackagesDataDir n) = some f := by
      rw [World.file?_eq_some, dirName_join hn, baseName_join hn]
      exact ⟨d, hd, hes.mem_iff.1 he⟩
    refine (wp_removePreviouslyActiveStep_inv hn hfilter.2 hf (List.nodup_cons.1 hnd).1 hinv).imp ?_
    rintro (e | u) w'' _ hq
    · trivial
    · exact ⟨(List.nodup_cons.1 hnd).2, hq⟩
  · rintro w' ⟨_, hinv⟩
    exact ⟨trivial, fun q hq => hinv.gone q hq (by simp), fun q hq => hinv.kept q (Or.inl hq),
      hinv.sameDirs⟩
  · refine ⟨hnd, fun q hq hn => absurd ?_ hn, fun _ _ => rfl, .refl w⟩
    obtain ⟨n, hns, rfl, hs, hf, _⟩ := hq
    obtain ⟨f, hf⟩ := Option.isSome_iff_exists.1 hf
    rw [World.file?_eq_some, dirName_join hns, baseName_join hns, hd] at hf
    obtain ⟨_, ⟨⟩, hmem⟩ := hf
    refine List.mem_map.2 ⟨(n, .file f), List.mem_filter.2 ⟨hes.mem_iff.2 hmem, ?_⟩, rfl⟩
    simp [isApexEntry, World.dirEntry, baseName_join hns, hs, Node.file?]

end Removal

/-! ## The result -/

/-- A package in one of the listed files. -/
def World.Listed (w : World) (paths : List String) (apex : ApexFile) : Prop :=
  ∃ path ∈ paths, w.openApex path = .ok apex

/-- A regular `.apex` file of the active directory that holds the named package. -/
structure World.IsActiveApex (w : World) (name p : String) : Prop where
  entry : ∃ n, NoSlash n ∧ p = join kActiveApexPackagesDataDir n ∧
    endsWith n kApexPackageSuffix = true
  regular : ∃ st, w.stat p = .ok st ∧ st.isDir = false
  package : ∃ apex, w.openApex p = .ok apex ∧ apex.manifest.name = name

/-- Of every package named by a listed file only listed destinations are left, and every listed file
is there, in the active directory itself, or is the active version. -/
structure StagedExactly (paths : List String) (w w' : World) : Prop where
  inside : ∀ a, w.Listed paths a → dirName (stageDestPath a) = kActiveApexPackagesDataDir
  only : ∀ a p, w.Listed paths a → w'.IsActiveApex a.manifest.name p →
    ∃ b, w.Listed paths b ∧ p = stageDestPath b
  present : ∀ a, w.Listed paths a → w'.present (stageDestPath a) = true ∨ w.isActiveVersion a = true

/-- When nothing of a listed package has to be linked, the active directory holds listed
destinations of it only; and a destination that is skipped because it exists does not hold a package
of which something has to be linked. -/
structure StageCondition (paths : List String) (w : World) : Prop where
  untouched : ∀ a, w.Listed paths a →
    (∀ b, w.Listed paths b → w.stageNeeded b = true → b.manifest.name ≠ a.manifest.name) →
    ∀ p, w.IsActiveApex a.manifest.name p → ∃ b, w.Listed paths b ∧ p = stageDestPath b
  skipped : ∀ a b, w.Listed paths a → w.present (stageDestPath a) = true →
    w.isActiveVersion a = false → w.Listed paths b → w.stageNeeded b = true →
    ¬ w.IsActiveApex b.manifest.name (stageDestPath a)

theorem World.regular_iff {p : String} : (∃ st, w.stat p = .ok st ∧ st.isDir = false) ↔
    w.mounted p = none ∧ w.dirs p = none ∧ (w.file? p).isSome := by
  unfold World.stat
  cases w.mounted p <;> cases w.dirs p <;> cases w.file? p <;> simp

theorem World.present_iff {p : String} : w.present p = true ↔
    (w.mounted p).isSome ∨ (w.dirs p).isSome ∨ (w.file? p).isSome := by
  unfold World.present World.stat
  cases w.mounted p <;> cases w.dirs p <;> cases w.file? p <;> simp [Except.toOption]

/-- Where there is no directory, opening reads the file alone. -/
theorem World.openApex_congr {p : String} (hd : w.dirs p = none) (hd' : w'.dirs p = none)
    (hf : w'.file? p = w.file? p) : w'.openApex p = w.openApex p := by
  have hin : ∀ {n : String}, NoSlash n → w'.file? (join p n) = w.file? (join p n) := by
    intro n hn
    rw [World.file?_join hn, World.file?_join hn, hd, hd']
  unfold World.openApex
  rw [hf, hin (n := kManifestFilename) (by decide),
    hin (n := kBundledPublicKeyFilename) (by decide)]

theorem World.IsActiveApex.congr {name p : String} (h : w.IsActiveApex name p)
    (hm : w'.mounted p = w.mounted p) (hd : (w'.dirs p).isSome = (w.dirs p).isSome)
    (hf : w'.file? p = w.file? p) : w'.IsActiveApex name p := by
  obtain ⟨h1, h2, h3⟩ := World.regular_iff.1 h.regular
  have hd' : w'.dirs p = none := by simpa [h2] using hd
  refine ⟨h.entry, World.regular_iff.2 ⟨hm.trans h1, hd', hf ▸ h3⟩, ?_⟩
  rw [World.openApex_congr h2 hd' hf]
  exact h.package

theorem World.IsActiveApex.below {name p : String} (h : w.IsActiveApex name p) :
    below kActiveApexPackagesDataDir p = true := by
  obtain ⟨n, _, rfl, _⟩ := h.entry
  exact below_join _ _

/-- What a successful call has done, in terms of the state before it. -/
structure StageOutcome (paths : List String) (s : Staged) (w w' : World) : Prop where
  files : ∀ f, f ∈ s.files ↔ ∃ b, w.Listed paths b ∧ w.stageNeeded b = true ∧ f = stageDestPath b
  packages : ∀ m, m ∈ s.packages ↔ ∃ b, w.Listed paths b ∧ w.stageNeeded b = true ∧
    m = b.manifest.name
  free : ∀ f ∈ s.files, w.file? f = none
  linked : ∀ f ∈ s.files, (w'.file? f).isSome
  gone : ∀ q, q ∉ s.files → w.Removed s.packages s.files q → w'.file? q = none
  kept : ∀ q, q ∉ s.files → ¬ w.Removed s.packages s.files q → w'.file? q = w.file? q
  dirs : ∀ q, below kActiveApexPackagesDataDir q = true → (w'.dirs q).isSome = (w.dirs q).isSome
  mounted : ∀ q, below kActiveApexPackagesDataDir q = true → w'.mounted q = w.mounted q

section Outcome

variable {paths : List String} {s : Staged}

theorem StageOutcome.isActiveApex_before (h : StageOutcome paths s w w') {name p : String}
    (hp : w'.IsActiveApex name p) (hs : p ∉ s.files) :
    w.IsActiveApex name p ∧ name ∉ s.packages := by
  have hf := (World.regular_iff.1 hp.regular).2.2
  have hnr : ¬ w.Removed s.packages s.files p := by
    intro hr
    rw [h.gone p hs hr] at hf
    cases hf
  have hw : w.IsActiveApex name p :=
    hp.congr (h.mounted p hp.below).symm (h.dirs p hp.below).symm (h.kept p hs hnr).symm
  refine ⟨hw, fun hm => hnr ?_⟩
  obtain ⟨n, hn, rfl, hsuf⟩ := hw.entry
  obtain ⟨apex, ho, rfl⟩ := hw.package
  exact ⟨n, hn, rfl, hsuf, (World.regular_iff.1 hw.regular).2.2, ⟨apex, ho, hm⟩, hs⟩

theorem World.IsActiveApex.removed {name p : String} (hp : w.IsActiveApex name p)
    (hn : name ∈ s.packages) (hs : p ∉ s.files) : w.Removed s.packages s.files p := by
  obtain ⟨n, hn', rfl, hsuf⟩ := hp.entry
  obtain ⟨apex, ho, rfl⟩ := hp.package
  exact ⟨n, hn', rfl, hsuf, (World.regular_iff.1 hp.regular).2.2, ⟨apex, ho, hn⟩, hs⟩

theorem World.Spelled.inside {paths : List String} (h : w.Spelled paths) {a : ApexFile}
    (ha : w.Listed paths a) : dirName (stageDestPath a) = kActiveApexPackagesDataDir := by
  obtain ⟨p, hp, ho⟩ := ha
  exact dirName_join (component_packageFile (h.plain p hp a ho)).noSlash _

/-- The condition gives the result. -/
theorem StageOutcome.stagedExactly (hp : w.Spelled paths) (h : StageOutcome paths s w w')
    (hc : StageCondition paths w) : StagedExactly paths w w' := by
  refine ⟨fun _ ha => hp.inside ha, fun a p ha hp => ?_, fun a ha => ?_⟩
  · by_cases hs : p ∈ s.files
    · obtain ⟨b, hb, _, rfl⟩ := (h.files p).1 hs
      exact ⟨b, hb, rfl⟩
    · obtain ⟨hw, hnot⟩ := h.isActiveApex_before hp hs
      refine hc.untouched a ha (fun b hb hnb he => hnot ?_) p hw
      exact (h.packages _).2 ⟨b, hb, hnb, he.symm⟩
  · by_cases hv : w.isActiveVersion a = true
    · exact Or.inr hv
    left
    have hv : w.isActiveVersion a = false := by simpa using hv
    have hb := below_stageDestPath a
    by_cases hpres : w.present (stageDestPath a) = true
    · rcases World.present_iff.1 hpres with hm | hd | hf
      · exact World.present_iff.2 (Or.inl (by rwa [h.mounted _ hb]))
      · exact World.present_iff.2 (Or.inr (Or.inl (by rwa [h.dirs _ hb])))
      · by_cases hd : (w.dirs (stageDestPath a)).isSome ∨ (w.mounted (stageDestPath a)).isSome
        · rcases hd with hd | hm
          · exact World.present_iff.2 (Or.inr (Or.inl (by rwa [h.dirs _ hb])))
          · exact World.present_iff.2 (Or.inl (by rwa [h.mounted _ hb]))
        -- a skipped destination is removed only with a package of which something is linked
        have hd := not_or.1 hd
        have hs : stageDestPath a ∉ s.files := by
          intro hs
          rw [h.free _ hs] at hf
          cases hf
        have hnr : ¬ w.Removed s.packages s.files (stageDestPath a) := by
          rintro ⟨n, hn, he, hsuf, _, ⟨apex, ho, hm⟩, _⟩
          obtain ⟨b, hlb, hnb, hname⟩ := (h.packages _).1 hm
          refine hc.skipped a b ha hpres hv hlb hnb
            ⟨⟨n, hn, he, hsuf⟩, World.regular_iff.2 ⟨?_, ?_, hf⟩, ?_⟩
          · simpa using hd.2
          · simpa using hd.1
          · exact ⟨apex, ho, hname⟩
        exact World.present_iff.2 (Or.inr (Or.inr (by rwa [h.kept _ hs hnr])))
    · have hnb : w.stageNeeded a = true := by simp [World.stageNeeded, hpres, hv]
      exact World.present_iff.2 (Or.inr (Or.inr (h.linked _ ((h.files _).2 ⟨a, ha, hnb, rfl⟩))))

/-- The result needs the condition. -/
theorem StageOutcome.stageCondition (h : StageOutcome paths s w w')
    (hx : StagedExactly paths w w') : StageCondition paths w := by
  refine ⟨fun a ha hno p hp => ?_, fun a b ha hpres hv hb hnb hp => ?_⟩
  · by_cases hs : p ∈ s.files
    · obtain ⟨b, hb, _, rfl⟩ := (h.files p).1 hs
      exact ⟨b, hb, rfl⟩
    · have hnr : ¬ w.Removed s.packages s.files p := by
        rintro ⟨_, _, _, _, _, ⟨apex, ho, hm⟩, _⟩
        obtain ⟨apex', ho', hname⟩ := hp.package
        rw [ho] at ho'
        cases ho'
        obtain ⟨b, hb, hnb, hbn⟩ := (h.packages _).1 hm
        exact hno b hb hnb (hbn.symm.trans hname)
      exact hx.only a p ha (hp.congr (h.mounted p hp.below) (h.dirs p hp.below) (h.kept p hs hnr))
  · obtain ⟨hm, hd, hf⟩ := World.regular_iff.1 hp.regular
    have hs : stageDestPath a ∉ s.files := by
      intro hs
      rw [h.free _ hs] at hf
      cases hf
    have hgone := h.gone _ hs (hp.removed ((h.packages _).2 ⟨b, hb, hnb, rfl⟩) hs)
    rcases hx.present a ha with hpr | hav
    · rcases World.present_iff.1 hpr with h1 | h1 | h1
      · rw [h.mounted _ hp.below, hm] at h1
        cases h1
      · rw [h.dirs _ hp.below, hd] at h1
        cases h1
      · rw [hgone] at h1
        cases h1
    · rw [hav] at hv
      cases hv

/-! ### The run -/

theorem World.StageSame.stageNeeded (h : w.StageSame w') (apex : ApexFile) :
    w'.stageNeeded apex = w.stageNeeded apex := by
  have hb := below_stageDestPath apex
  have hp : w'.present (stageDestPath apex) = w.present (stageDestPath apex) := by
    rw [Bool.eq_iff_iff, World.present_iff, World.present_iff, h.files, h.dirs _ hb,
      h.mounted _ (notBelowApex_of_below hb)]
  have hv : w'.activeVersions = w.activeVersions := by
    unfold World.activeVersions
    rw [h.db]
    simp only [h.openApex]
  unfold World.stageNeeded World.isActiveVersion
  rw [hp, hv]

theorem World.StageSame.pathNeeded (h : w.StageSame w') (path : String) :
    w'.pathNeeded path = w.pathNeeded path := by
  unfold World.pathNeeded
  rw [h.openApex]
  split
  · exact h.stageNeeded _
  · rfl

theorem World.Removed.congr {packages filesToKeep : List String} {q : String}
    (h : w.Removed packages filesToKeep q) (hf : w'.file? q = w.file? q)
    (ho : w'.openApex q = w.openApex q) : w'.Removed packages filesToKeep q := by
  obtain ⟨n, hn, he, hs, hsome, hopen, hk⟩ := h
  exact ⟨n, hn, he, hs, hf ▸ hsome, ho ▸ hopen, hk⟩

theorem World.SameDirs.mounted (h : w.SameDirs w') (q : String) : w'.mounted q = w.mounted q := by
  unfold World.mounted
  rw [h.mounts]

/-- The packages of the loop are those that could be opened before it. -/
theorem mem_opened {l : List String} {apexes : List ApexFile}
    (h : List.Forall₂ (fun p a => ∀ a₀, w.openApex p = .ok a₀ → a = a₀) l apexes)
    (ho : ∀ p ∈ l, ∃ a, w.openApex p = .ok a) (a : ApexFile) :
    a ∈ apexes ↔ ∃ p ∈ l, w.openApex p = .ok a := by
  induction h with
  | nil => simp
  | @cons p b l bs hpb _ ih =>
    obtain ⟨a₀, ha₀⟩ := ho p List.mem_cons_self
    obtain rfl := hpb a₀ ha₀
    have ih := ih fun q hq => ho q (List.mem_cons_of_mem _ hq)
    simp only [List.mem_cons, ih, exists_eq_or_imp, ha₀, Except.ok.injEq]
    exact or_congr_left eq_comm

/-- Nothing had to be linked. -/
theorem StageOutcome.of_empty (h : w.StageSame w') (hF : paths.filter w.pathNeeded = []) :
    StageOutcome paths ⟨[], []⟩ w w' := by
  have hno : ∀ b, w.Listed paths b → w.stageNeeded b = true → False := by
    rintro b ⟨path, hp, ho⟩ hb
    have hm : path ∈ paths.filter w.pathNeeded :=
      List.mem_filter.2 ⟨hp, by unfold World.pathNeeded; rw [ho]; exact hb⟩
    rw [hF] at hm
    cases hm
  refine ⟨fun f => ?_, fun m => ?_, by simp, by simp, ?_, fun q _ _ => h.files q, h.dirs,
    fun q hq => h.mounted q (notBelowApex_of_below hq)⟩
  · exact iff_of_false (by simp) fun ⟨b, hb, hnb, _⟩ => hno b hb hnb
  · exact iff_of_false (by simp) fun ⟨b, hb, hnb, _⟩ => hno b hb hnb
  · rintro q - ⟨_, _, _, _, _, ⟨_, _, hm⟩, _⟩
    cases hm

/-- The links and the removal. -/
theorem StageOutcome.of_linked {w₃ : World} {apexes : List ApexFile} (h : w.StageSame w₂)
    (hopen : ∀ p ∈ paths, ∃ a, w.openApex p = .ok a) (hl : Linked w₂ s w₃)
    (hall : List.Forall₂ (fun p a => ∀ a₀, w₂.openApex p = .ok a₀ → a = a₀)
      (paths.filter w₂.pathNeeded) apexes)
    (hfiles : s.files = apexes.map stageDestPath)
    (hpkgs : s.packages = apexes.map fun a => a.manifest.name)
    (hr : w₃.RemovedFrom s.packages s.files w') : StageOutcome paths s w w' := by
  have hmem : ∀ a, a ∈ apexes ↔ w.Listed paths a ∧ w.stageNeeded a = true := by
    intro a
    rw [mem_opened hall fun p hp => by rw [h.openApex]; exact hopen p (List.mem_filter.1 hp).1]
    constructor
    · rintro ⟨p, hp, ho⟩
      obtain ⟨hp, hn⟩ := List.mem_filter.1 hp
      rw [h.pathNeeded] at hn
      rw [h.openApex] at ho
      unfold World.pathNeeded at hn
      rw [ho] at hn
      exact ⟨⟨p, hp, ho⟩, hn⟩
    · rintro ⟨⟨p, hp, ho⟩, hn⟩
      refine ⟨p, List.mem_filter.2 ⟨hp, ?_⟩, by rw [h.openApex]; exact ho⟩
      rw [h.pathNeeded]
      unfold World.pathNeeded
      rw [ho]
      exact hn
  have hfile : ∀ q, q ∉ s.files → w₃.file? q = w.file? q := fun q hq =>
    (hl.same q hq).trans (h.files q)
  have hopened : ∀ q, q ∉ s.files → w₃.openApex q = w.openApex q := fun q hq =>
    (hl.openApex_eq hq).trans (h.openApex q)
  refine ⟨fun f => ?_, fun m => ?_, fun f hf => ?_, fun f hf => ?_, fun q hq hrem => ?_,
    fun q hq hrem => ?_, fun q hq => ?_, fun q hq => ?_⟩
  · rw [hfiles, List.mem_map]
    simp only [hmem, and_assoc, eq_comm]
  · rw [hpkgs, List.mem_map]
    simp only [hmem, and_assoc, eq_comm]
  · rw [← h.files]
    exact hl.free f hf
  · rw [hr.kept f fun ⟨_, _, _, _, _, _, hn⟩ => hn hf]
    exact hl.linked f hf
  · exact hr.gone q (hrem.congr (hfile q hq) (hopened q hq))
  · rw [hr.kept q fun h3 => hrem (h3.congr (hfile q hq).symm (hopened q hq).symm)]
    exact hfile q hq
  · rw [hr.sameDirs.listed, hl.sameDirs.listed, h.dirs q hq]
  · rw [hr.sameDirs.mounted, hl.sameDirs.mounted, h.mounted q (notBelowApex_of_below hq)]

theorem wp_stagePackages_outcome (hm : w.mounted kActiveApexPackagesDataDir = none) :
    wp (kernel Watch.off Sys.NoFault) (fun _ => True) (stagePackages cfg paths)
      (fun x w' => x = .ok () → ∃ s, StageOutcome paths s w w') w := by
  have hF := Sys.NoFault.spareUndo
  unfold stagePackages
  simp only [bind_eq]
  refine wp_bind.2 (wp_require.2 ⟨trivial, ?_⟩)
  split
  swap
  · rintro ⟨⟩
  refine wp_bind.2 ((wp_verifyPackages_stageSame uses_verifyPackageBoot).imp ?_)
  rintro (e | l) w₁ _ ⟨h₁, hopen⟩
  · rintro ⟨⟩
  have hopen := hopen l rfl
  refine wp_bind.2 (wp_createDirIfNeeded_stageSame.imp ?_)
  rintro (e | _) w₂ _ h₂
  · rintro ⟨⟩
  have h₂ := h₁.trans h₂
  refine wp_bind.2 (wp_filterUnnecessaryStagingPaths trivial ?_)
  dsimp only [Then]
  split
  · rename_i hempty
    refine ⟨trivial, fun _ => ⟨_, StageOutcome.of_empty h₂ ?_⟩⟩
    have : paths.filter w₂.pathNeeded = [] := by simpa using hempty
    rwa [show w₂.pathNeeded = w.pathNeeded from funext h₂.pathNeeded] at this
  refine wp_bind.2 (((Linked.nil w₂).wp_stageLoop hF _).imp ?_)
  rintro (e | s) w₃ _ hq
  · rintro ⟨⟩
  obtain ⟨hl, apexes, hall, hfiles, hpkgs⟩ := hq
  have hm₃ : w₃.mounted kActiveApexPackagesDataDir = none := by
    rw [hl.sameDirs.mounted, h₂.mounted _ (by decide), hm]
  refine (wp_removePreviouslyActiveApexFiles_ok hm₃).imp ?_
  rintro (e | _) w₄ _ hr
  · rintro ⟨⟩
  · exact fun _ => ⟨s, .of_linked h₂ hopen hl hall (by simpa using hfiles)
      (by simpa using hpkgs) hr⟩

end Outcome

/-- **A successful call** leaves exactly the listed packages exactly when the condition on the state
before it holds. -/
theorem stagePackages_ok_iff {paths : List String}
    (hm : w.mounted kActiveApexPackagesDataDir = none) (hp : w.Spelled paths)
    (h : Ends (kernel Watch.off Sys.NoFault) (stagePackages cfg paths) w (.ok ()) w') :
    StagedExactly paths w w' ↔ StageCondition paths w := by
  obtain ⟨s, hs⟩ := (wp_stagePackages_outcome hm).ends h rfl
  exact ⟨hs.stageCondition, hs.stagedExactly hp⟩

/-- Version 1 comes with the system and is active, version 2 was staged before; versions 1 and 3 are
ready to be staged. -/
def rollbackWorld : World := { World.ofDirs
  [ (kApexPackageSystemDir, systemApexDir),
    (kActiveApexPackagesDataDir, stagedApexDir),
    ("/data/app-staging/session_5", ⟨0o755,
      [("a.apex", .file ⟨3, .apex (soundContent (plainManifest 1 version_one))⟩)], by
        decide, by decide⟩),
    ("/data/app-staging/session_6", newerApexDir) ]
  with db := [⟨"a", ⟨"/dev/block/loop0", "/system/apex/a.apex", "/apex/a@1", ""⟩, true⟩] }

/-- Version 3 takes the place of version 2. -/
theorem stagePackages_ok_iff_update :
    let w' := (runN Sys.run 60 (stagePackages deviceConfig ["/data/app-staging/session_6/a.apex"])
      rollbackWorld).2
    StagedExactly ["/data/app-staging/session_6/a.apex"] rollbackWorld w' ↔
      StageCondition ["/data/app-staging/session_6/a.apex"] rollbackWorld := by
  have hres : (runN Sys.run 60 (stagePackages deviceConfig ["/data/app-staging/session_6/a.apex"])
      rollbackWorld).1.result? = some (.ok ()) := by
    decide
  exact stagePackages_ok_iff rfl (by decide) (runN_ends Sys.run_sem hres)

/-- Version 1 is skipped because it is the active one, and version 2 stays to be activated at the
next boot. -/
theorem stagePackages_keeps_newer : ¬ ∀ (paths : List String) (w w' : World),
    Ends (kernel Watch.off Sys.NoFault) (stagePackages deviceConfig paths) w (.ok ()) w' →
      StagedExactly paths w w' := by
  intro hclaim
  let w' := (runN Sys.run 60 (stagePackages deviceConfig ["/data/app-staging/session_5/a.apex"])
    rollbackWorld).2
  have hres : (runN Sys.run 60 (stagePackages deviceConfig ["/data/app-staging/session_5/a.apex"])
      rollbackWorld).1.result? = some (.ok ()) := by
    decide
  have hexact := hclaim _ _ _ (runN_ends Sys.run_sem hres)
  let apex : ApexFile :=
    ⟨"/data/app-staging/session_5/a.apex", false, 4096, 8192, plainManifest 1 (by decide), []⟩
  have hopen : rollbackWorld.openApex "/data/app-staging/session_5/a.apex" = .ok apex := by
    decide
  have hleft : w'.IsActiveApex "a" "/data/apex/active/a@2.apex" := by
    refine ⟨⟨"a@2.apex", by decide, by decide, by decide⟩,
      ⟨⟨false, 0o644⟩, by decide, rfl⟩,
      ⟨⟨"/data/apex/active/a@2.apex", false, 4096, 8192, plainManifest 2 (by decide), []⟩,
        by decide, rfl⟩⟩
  obtain ⟨b, ⟨path, hp, ho⟩, hdest⟩ := hexact.only apex "/data/apex/active/a@2.apex"
    ⟨_, List.mem_singleton.2 rfl, hopen⟩ hleft
  rw [List.mem_singleton.1 hp, hopen] at ho
  rw [← Except.ok.inj ho] at hdest
  have hne : "/data/apex/active/a@2.apex" ≠ stageDestPath apex := by decide
  exact hne hdest

end Apexd
