import Apexd.RollbackResume

/-!
# What a backup holds

* `World.BackedUp` — one link for each active package, under the package's id, and nothing else.
* `Linking` — how far the loop of `BackupActivePackages` is.
* `linkHistory` — a history variable: a link was made or tried, and a call of the clean-up after
  that failed.
* `backupActivePackages_exact_iff` — what is promised of a backup holds exactly when there is an
  active directory or there was no backup.
-/

set_option autoImplicit false

namespace Apexd

open Text Prog

/-- The entries of the active directory. -/
def World.activeEntries (w : World) : List (String × Node) :=
  ((w.dirs kActiveApexPackagesDataDir).map (·.entries)).getD []

/-- The entries of the backup directory. -/
def World.backupEntries (w : World) : List (String × Node) :=
  ((w.dirs kApexBackupDir).map (·.entries)).getD []

/-- The `.apex` files among the entries of a directory. -/
def apexFiles (es : List (String × Node)) : List (String × File) :=
  (es.filterMap fun e => e.2.file?.map fun f => (e.1, f)).filter fun e =>
    endsWith e.1 kApexPackageSuffix

/-- A hard link to an active package, named by the id of the package. -/
def World.IsBackupLink (w : World) (e : String × File) (l : String × Node) : Prop :=
  ∃ a, w.openApex (join kActiveApexPackagesDataDir e.1) = .ok a ∧
    l = (getPackageId a.manifest ++ kApexPackageSuffix, .file e.2)

/-- In `w'`, the backup directory holds one link for each active package of `w` and nothing else. -/
def World.BackedUp (w w' : World) : Prop :=
  ∃ d es ls, w'.dirs kApexBackupDir = some d ∧ es.Perm (apexFiles w.activeEntries) ∧
    List.Forall₂ w.IsBackupLink es ls ∧ d.entries.Perm ls

/-- The paths in the active directory. -/
def World.activePaths (w : World) : List String :=
  w.activeEntries.map fun e => join kActiveApexPackagesDataDir e.1

/-- Every active entry has the name under which its package is staged. -/
def World.StagedNames (w : World) : Prop :=
  ∀ e ∈ w.activeEntries, ∃ f a, e.2 = .file f ∧
    w.openApex (join kActiveApexPackagesDataDir e.1) = .ok a ∧
    join kActiveApexPackagesDataDir e.1 = stageDestPath a

/-! ## History -/

/-- Whether a link was made or tried, and whether a call of the clean-up after that failed. -/
structure LinkHistory where
  linking : Bool
  cleanupFailed : Bool

def linkHistory : (c : Sys) → World → c.Res → World → LinkHistory → LinkHistory
  | .link _ _, _, _, _, g => { g with linking := true }
  | .unlink _, _, .error _, _, g => { g with cleanupFailed := g.cleanupFailed || g.linking }
  | .readDir _, _, .error _, _, g => { g with cleanupFailed := g.cleanupFailed || g.linking }
  | _, _, _, _, g => g

/-- The calls of a backup, any of which may be refused. -/
def backupKernel : Kernel Sys Sys.Res (World × LinkHistory) :=
  (kernel .off Sys.Refused).observe linkHistory

/-! ## The loop -/

/-- The packages `done` have been linked, in a backup directory that was empty. -/
structure Linking (w : World) (done : List (String × File)) (w' : World) : Prop where
  files : ∀ q, dirName q ≠ kApexBackupDir → w'.file? q = w.file? q
  unmounted : w'.DataUnmounted
  links : ∃ d ls, w'.dirs kApexBackupDir = some d ∧ List.Forall₂ w.IsBackupLink done ls ∧
    d.entries.Perm ls

section Loop

variable {V : Watch} {F : Faults} {w w' : World} {done : List (String × File)}
    {n : String} {f : File}

theorem openApex_of_files {p : String} (h : w'.file? p = w.file? p)
    (hm : w'.file? (join p kManifestFilename) = w.file? (join p kManifestFilename))
    (hk : w'.file? (join p kBundledPublicKeyFilename) = w.file?
      (join p kBundledPublicKeyFilename)) :
    w'.openApex p = w.openApex p := by
  unfold World.openApex
  rw [h, hm, hk]

/-- An active package is opened as it was before the links. -/
theorem Linking.openApex (h : Linking w done w') (hn : NoSlash n) :
    w'.openApex (join kActiveApexPackagesDataDir n) = w.openApex
      (join kActiveApexPackagesDataDir n) := by
  have hne : join kActiveApexPackagesDataDir n ≠ kApexBackupDir := join_ne (by decide)
  refine openApex_of_files (h.files _ ?_) (h.files _ ?_) (h.files _ ?_)
  · rw [dirName_join hn]
    exact active_ne_backup
  · rwa [dirName_join (by decide)]
  · rwa [dirName_join (by decide)]

/-- A file has been put under the path of a backup: it is in the backup directory itself. -/
theorem Linking.put {m : ApexManifest} {d : Dir} (h : Linking w done w')
    (hlink : w.IsBackupLink (n, f) (getPackageId m ++ kApexPackageSuffix, .file f))
    (hm : Plain m.name)
    (hd : w'.dirs (dirName (backupPath m)) = some d)
    (hnew : d.lookup (baseName (backupPath m)) = none) :
    Linking w ((n, f) :: done) (w'.putFile (backupPath m) d f) := by
  have hpath : backupPath m = join kApexBackupDir (getPackageId m ++ kApexPackageSuffix) := by
    unfold backupPath join
    simp only [String.append_assoc]
  have hdir : dirName (backupPath m) = kApexBackupDir :=
    hpath ▸ dirName_join (component_packageFile hm).noSlash _
  have hbase : baseName (backupPath m) = getPackageId m ++ kApexPackageSuffix :=
    hpath ▸ baseName_join (component_packageFile hm).noSlash _
  obtain ⟨d₀, ls, hd₀, hlinks, hperm⟩ := h.links
  rw [hdir, hd₀] at hd
  obtain rfl := Option.some.inj hd
  unfold World.putFile
  rw [hdir]
  refine ⟨fun q hq => ?_, h.unmounted, _,
    (getPackageId m ++ kApexPackageSuffix, .file f) :: ls, World.setDir_self _ _ _,
      .cons hlink hlinks, ?_⟩
  · rw [World.file?_setDir_other _ _ hq, h.files q hq]
  · have herase : (d₀.erase (baseName (backupPath m))).entries = d₀.entries := by
      refine List.filter_eq_self.2 fun e he => ?_
      simpa using Dir.lookup_eq_none.1 hnew e he
    show ((_, _) :: (d₀.erase (baseName (backupPath m))).entries).Perm _
    rw [herase, hbase]
    exact hperm.cons _

/-- One package of the loop. -/
theorem wp_backupPackage (hF : F.Refusals) (h : Linking w done w') (hn : NoSlash n)
    (hplain : ∀ apex, w.openApex (join kActiveApexPackagesDataDir n) = .ok apex →
      Plain apex.manifest.name)
    (hf : w.file? (join kActiveApexPackagesDataDir n) = some f) :
    wp (kernel V F) (fun _ => True) (backupPackage (join kActiveApexPackagesDataDir n)) (fun
      | .ok _, w₁ => Linking w ((n, f) :: done) w₁
      | .error _, w₁ => Linking w done w₁) w' := by
  unfold backupPackage
  rw [bind_eq, exec_bind]
  refine ⟨trivial, trivial, ?_⟩
  rintro r w₁ (⟨rfl, rfl⟩ | hr)
  swap
  · obtain ⟨⟨e, rfl⟩, rfl⟩ := hF _ _ _ _ hr
    exact ⟨trivial, h⟩
  rw [h.openApex hn]
  cases ho : w.openApex (join kActiveApexPackagesDataDir n) with
  | error e => exact ⟨trivial, h⟩
  | ok a =>
    have hpath := World.openApex_path ho
    have hfile : w₁.file? a.path = some f := by
      rw [hpath, h.files _ (by rw [dirName_join hn]; exact active_ne_backup), hf]
    refine ⟨trivial, trivial, ?_⟩
    rintro r w₂ (hs | hr)
    · have hw : (r, w₂) = w₁.link a.path (backupPath a.manifest) := hs
      rcases w₁.link_cases a.path (backupPath a.manifest) with ⟨e, he⟩ | ⟨g, d, hg, hd, hnew, he⟩
      · rw [he] at hw
        cases hw
        exact ⟨trivial, h⟩
      · rw [hfile] at hg
        cases hg
        rw [he] at hw
        cases hw
        exact ⟨trivial, h.put ⟨a, ho, rfl⟩ (hplain a ho) hd hnew⟩
    · obtain ⟨⟨e, _, rfl⟩, rfl⟩ := hF _ _ _ _ hr
      exact ⟨trivial, h⟩

/-- **The loop** links every package it is given, or stops with some of them linked. -/
theorem wp_backupPackages (hF : F.Refusals) {left : List (String × File)}
    (hleft : ∀ e ∈ left, NoSlash e.1 ∧ w.file? (join kActiveApexPackagesDataDir e.1) = some e.2)
    (hplain : ∀ e ∈ left, ∀ apex, w.openApex (join kActiveApexPackagesDataDir e.1) = .ok apex →
      Plain apex.manifest.name) (h : Linking w [] w') : wp (kernel V F) (fun _ => True)
      ((left.map fun e => join kActiveApexPackagesDataDir e.1).forM backupPackage)
      (fun x w₁ => ∃ done, Linking w done w₁ ∧ (x = .ok () → done.Perm left)) w' := by
  refine wp_forM (fun rest w₁ => ∃ done todo,
    rest = todo.map (fun e => join kActiveApexPackagesDataDir e.1) ∧
    (done ++ todo).Perm left ∧ Linking w done w₁) _ ?_ ?_ ⟨[], left, rfl, List.Perm.refl _, h⟩
  · rintro x rest w₁ - ⟨done, todo, hrest, hperm, hl⟩
    obtain ⟨⟨n, f⟩, todo, rfl, rfl, rfl⟩ := List.map_eq_cons_iff.1 hrest.symm
    have hmem : (n, f) ∈ left := hperm.mem_iff.1 (by simp)
    obtain ⟨hn, hf⟩ := hleft _ hmem
    refine (wp_backupPackage hF hl hn (hplain _ hmem) hf).imp ?_
    rintro (e | _) w₂ - hl'
    · exact ⟨done, hl', fun he => by cases he⟩
    · exact ⟨(n, f) :: done, todo, rfl, List.perm_middle.symm.trans hperm, hl'⟩
  · rintro w₁ ⟨done, todo, hrest, hperm, hl⟩
    obtain rfl := List.map_eq_nil_iff.1 hrest.symm
    rw [List.append_nil] at hperm
    exact ⟨trivial, done, hl, fun _ => hperm⟩

end Loop

/-! ## The whole function -/

section Backup

variable {V : Watch} {F : Faults} {cfg : Config} {w w' w₁ : World} {g : LinkHistory}

theorem mem_apexFiles {es : List (String × Node)} {e : String × File} :
    e ∈ apexFiles es ↔ (e.1, Node.file e.2) ∈ es ∧ endsWith e.1 kApexPackageSuffix = true := by
  unfold apexFiles
  rw [List.mem_filter, List.mem_filterMap]
  refine and_congr_left fun _ => ⟨?_, fun h => ⟨_, h, rfl⟩⟩
  rintro ⟨⟨m, x⟩, he, hx⟩
  cases x with
  | file f => cases hx; exact he
  | dir => cases hx

theorem isApexEntry_dirEntry {n p : String} (hn : NoSlash n) (x : Node) :
    isApexEntry false (World.dirEntry p (n, x)) =
      (x.file?.isSome && endsWith n kApexPackageSuffix) := by
  unfold isApexEntry World.dirEntry
  rw [baseName_join hn, Bool.and_false, Bool.or_false]

/-- What `FindApexFilesByName` finds in the active directory. -/
theorem map_apexFiles {es : List (String × Node)} (hes : ∀ e ∈ es, NoSlash e.1) :
    (es.filter fun e => isApexEntry false (World.dirEntry kActiveApexPackagesDataDir e)).map
      (fun e => join kActiveApexPackagesDataDir e.1) =
    (apexFiles es).map fun e => join kActiveApexPackagesDataDir e.1 := by
  induction es with
  | nil => rfl
  | cons e es ih =>
    obtain ⟨n, x⟩ := e
    have ih := ih fun x hx => hes x (List.mem_cons_of_mem _ hx)
    unfold apexFiles at ih ⊢
    rw [List.filter_cons, isApexEntry_dirEntry (hes (n, x) List.mem_cons_self)]
    cases x with
    | file f =>
      show List.map _ (if (true && endsWith n kApexPackageSuffix) = true then _ else _) =
        List.map _ (List.filter _ ((n, f) :: _))
      rw [List.filter_cons, Bool.true_and]
      split
      · rw [List.map_cons, List.map_cons, ih]
      · exact ih
    | dir => exact ih

theorem World.activeEntries_some {d : Dir} (h : w.dirs kActiveApexPackagesDataDir = some d) :
    w.activeEntries = d.entries := by
  unfold World.activeEntries
  rw [h]
  rfl

/-- The loop has linked all of them: the directory is a backup. -/
theorem Linking.backedUp {done : List (String × File)} (h : Linking w done w')
    (hperm : done.Perm (apexFiles w.activeEntries)) : w.BackedUp w' := by
  obtain ⟨d, ls, hd, hlinks, he⟩ := h.links
  exact ⟨d, done, ls, hd, hperm, hlinks, he⟩

/-- A clean-up that fails is noticed. -/
theorem wp_cleanup_noticed {s : World × LinkHistory} {p : String} :
    wp backupKernel (fun _ => True) (deleteDirContent p) (fun x s' => s'.2.linking = s.2.linking ∧
      (s.2.linking = true → (∃ e, x = .error e) → s'.2.cleanupFailed = true)) s := by
  unfold deleteDirContent readDir
  simp only [bind_eq, exec_bind]
  refine ⟨trivial, trivial, ?_⟩
  rintro (e | l) ⟨w₁, g₁⟩ ⟨-, hg⟩
  · obtain rfl : g₁ = ⟨s.2.linking, s.2.cleanupFailed || s.2.linking⟩ := hg
    refine ⟨trivial, rfl, fun hl _ => ?_⟩
    show (s.2.cleanupFailed || s.2.linking) = true
    rw [hl, Bool.or_true]
  · obtain rfl : g₁ = s.2 := hg
    refine wp_forM (fun _ s' => s'.2 = s.2) _ ?_ ?_ rfl
    · rintro file rest ⟨w₂, g₂⟩ - rfl
      refine ⟨trivial, trivial, ?_⟩
      rintro (e | _) ⟨w₃, g₃⟩ ⟨-, hg⟩
      · obtain rfl : g₃ = ⟨s.2.linking, s.2.cleanupFailed || s.2.linking⟩ := hg
        refine ⟨trivial, rfl, fun hl _ => ?_⟩
        show (s.2.cleanupFailed || s.2.linking) = true
        rw [hl, Bool.or_true]
      · exact ⟨trivial, hg⟩
    · rintro s' hs'
      exact ⟨trivial, congrArg LinkHistory.linking hs', fun _ ⟨e, he⟩ => by cases he⟩

/-- The loop and its clean-up, from an empty backup directory. -/
theorem wp_backupLoop {left : List (String × File)} (hleft : left.Perm (apexFiles w.activeEntries))
    (hfiles : ∀ e ∈ left, NoSlash e.1 ∧ w.file? (join kActiveApexPackagesDataDir e.1) = some e.2)
    (hplain : ∀ e ∈ left, ∀ apex, w.openApex (join kActiveApexPackagesDataDir e.1) = .ok apex →
      Plain apex.manifest.name) (h : Linking w [] w') : wp backupKernel (fun _ => True)
      (((left.map fun e => join kActiveApexPackagesDataDir e.1).forM backupPackage).onFail
        (deleteDirContent kApexBackupDir))
      (fun x s => (x = .ok () → w.BackedUp s.1) ∧ ((∃ e, x = .error e) → s.2.linking = true →
        s.2.cleanupFailed = false → ∃ d, s.1.dirs kApexBackupDir = some d ∧ d.entries = []))
          (w', g) := by
  refine wp_onFail.2 (((wp_backupPackages (V := .off) Sys.Refused.refusals hfiles hplain h).observe
    g).imp ?_)
  rintro (e | _) ⟨w₁, g₁⟩ - ⟨done, hl, hdone⟩
  · -- the clean-up takes away what was linked, unless a call of it fails
    obtain ⟨d, ls, hd, hlinks, hperm⟩ := hl.links
    have hclean : wp backupKernel _ (deleteDirContent kApexBackupDir) _ (w₁, g₁) :=
      (wp_deleteDirContent_refusals Sys.Refused.refusals (hl.unmounted.mounted backup_notApex)
        hd).observe g₁
    refine (hclean.and wp_cleanup_noticed).mono (fun _ _ => trivial) ?_
    rintro x ⟨w₂, g₂⟩ - ⟨⟨d', _, hw, hok⟩, hlinking, hnoticed⟩
    refine ⟨fun he => (by cases he), fun _ hlink hno => ?_⟩
    cases x with
    | ok u =>
      obtain rfl : w₂ = _ := hw
      exact ⟨d', World.setDir_self _ _ _, (hok rfl).1⟩
    | error e' =>
      rw [hnoticed (hlinking.symm.trans hlink) ⟨e', rfl⟩] at hno
      cases hno
  · refine ⟨fun _ => hl.backedUp ((hdone rfl).trans hleft), ?_⟩
    rintro ⟨e, he⟩
    cases he

/-- The calls made before the first link. -/
def BeforeLinks : Sys → Prop
  | .stat _ => True
  | .mkdir _ _ => True
  | .chmod _ _ => True
  | .readDir _ => True
  | .unlink _ => True
  | _ => False

theorem BeforeLinks.history {c : Sys} {r : c.Res} (hc : BeforeLinks c) :
    linkHistory c w r w' ⟨false, false⟩ = ⟨false, false⟩ := by
  cases c with
  | unlink p => cases r <;> rfl
  | readDir p => cases r <;> rfl
  | stat p => rfl
  | mkdir p m => rfl
  | chmod p m => rfl
  | _ => exact hc.elim

/-- A part of the function before the first link. -/
theorem wp_beforeLinks_bind {α β : Type} {p : ApexM α} {f : α → ApexM β}
    {P : Except String α → World → Prop}
    {Q : Except String β → World × LinkHistory → Prop} {e : String → String}
    (h : wp (kernel .off Sys.Refused) (fun _ => True) p P w) (hp : p.Uses BeforeLinks)
    (hok : ∀ a w', P (.ok a) w' → wp backupKernel (fun _ => True) (f a) Q (w', ⟨false, false⟩))
    (herr : ∀ e s, s.2.linking = false → Q (.error e) s) :
    wp backupKernel (fun _ => True) ((p.mapErr e).bind f) Q (w, ⟨false, false⟩) := by
  refine wp_bind.2 (wp_mapErr.2 ((h.observe_uses hp fun c w r w' hc => hc.history).imp ?_))
  rintro (msg | a) ⟨w₁, g₁⟩ - ⟨hP, hg⟩
  · exact herr _ _ (congrArg LinkHistory.linking hg)
  · obtain rfl : g₁ = ⟨false, false⟩ := hg
    exact hok a w₁ hP

/-- The backup directory has been cleared. -/
theorem World.Created.linking {d₂ : Dir} (hm : w.DataUnmounted) (hc : w.Created kApexBackupDir w₁)
    (hempty : d₂.entries = []) : Linking w [] (w₁.setDir kApexBackupDir (some d₂)) := by
  refine ⟨fun q hq => ?_, hm.onlyDirs (hc.onlyDirs.trans rfl), d₂, [],
    World.setDir_self _ _ _, .nil, ?_⟩
  · rw [World.file?_setDir_other _ _ hq, hc.files q]
  · rw [hempty]

theorem wp_deleteBackup_refusals (hm : w₁.DataUnmounted) {d₁ : Dir}
    (hd₁ : w₁.dirs kApexBackupDir = some d₁) :
    wp (kernel .off Sys.Refused) (fun _ => True) deleteBackup (fun x w' => x = .ok () →
      ∃ d₂ : Dir, w' = w₁.setDir kApexBackupDir (some d₂) ∧ d₂.entries = []) w₁ := by
  unfold deleteBackup
  refine wp_bind.2 (wp_mapErr.2 ((wp_pathExists_refusals Sys.Refused.refusals trivial).imp ?_))
  rintro (e | b) w₂ - ⟨rfl, hb⟩
  · rintro ⟨⟩
  dsimp only [Then, Except.mapError]
  rw [(hb b rfl).2 ⟨⟨true, d₁.mode⟩, by
    unfold World.stat
    rw [hm.mounted backup_notApex, hd₁]⟩, if_pos rfl]
  refine (wp_deleteDirContent_refusals Sys.Refused.refusals (hm.mounted backup_notApex) hd₁).mono
    (fun _ _ => trivial) ?_
  rintro x w' - ⟨d₂, _, hw, hok⟩ hx
  exact ⟨d₂, hw, (hok hx).1⟩

/-- **A backup**, whatever is refused on the way. -/
theorem wp_backupActivePackages (hm : w.DataUnmounted) (hs : w.Spelled w.activePaths) :
    wp backupKernel (fun _ => True) backupActivePackages (fun x s =>
      (x = .ok () → (w.dirs kActiveApexPackagesDataDir = none →
          ∃ d, s.1.dirs kApexBackupDir = some d ∧ d.entries = w.backupEntries) ∧
        (w.dirs kActiveApexPackagesDataDir ≠ none → w.BackedUp s.1)) ∧
      ((∃ e, x = .error e) → s.2.linking = true → s.2.cleanupFailed = false →
        ∃ d, s.1.dirs kApexBackupDir = some d ∧ d.entries = [])) (w, ⟨false, false⟩) := by
  unfold backupActivePackages
  simp only [bind_eq]
  apply wp_beforeLinks_bind (wp_createDirIfNeeded_refusals Sys.Refused.refusals
    (hm.mounted backup_notApex)) (uses_createDirIfNeeded trivial trivial trivial)
  swap
  · intro e s hs
    exact ⟨fun he => (by cases he), fun _ hl => by rw [hs] at hl; cases hl⟩
  rintro _ w₁ ⟨hc, hmade⟩
  obtain ⟨d₁, hd₁, hents⟩ := hmade rfl
  have hm₁ := hm.onlyDirs hc.onlyDirs
  have hactive : w₁.dirs kActiveApexPackagesDataDir = w.dirs kActiveApexPackagesDataDir :=
    hc.other _ active_ne_backup (by rw [dirName_backup]; exact active_ne_data)
  apply wp_beforeLinks_bind (wp_pathExists_refusals Sys.Refused.refusals trivial)
    (uses_pathExists trivial)
  swap
  · intro e s hs
    exact ⟨fun he => (by cases he), fun _ hl => by rw [hs] at hl; cases hl⟩
  rintro b _ ⟨rfl, hb⟩
  cases b with
  | false =>
    refine ⟨trivial, fun _ => ⟨fun _ => ⟨d₁, hd₁, hents⟩, fun hne => ?_⟩,
      fun ⟨e, he⟩ => by cases he⟩
    obtain ⟨d, hd⟩ := Option.ne_none_iff_exists'.1 hne
    have := (hb false rfl).2 ⟨⟨true, d.mode⟩, by
      unfold World.stat
      rw [hm₁.mounted active_notApex, hactive, hd]⟩
    cases this
  | true =>
    apply wp_beforeLinks_bind (wp_readDir_honest Sys.Refused.refusals.honest
      (hm₁.mounted active_notApex) trivial) (uses_readDir trivial)
    swap
    · intro e s hs
      exact ⟨fun he => (by cases he), fun _ hl => by rw [hs] at hl; cases hl⟩
    rintro l _ ⟨rfl, hl⟩
    obtain ⟨d, es, hd, hes, rfl⟩ := hl l rfl
    rw [hactive] at hd
    apply wp_beforeLinks_bind (wp_deleteBackup_refusals hm₁ hd₁)
      (uses_bind (uses_mapErr (uses_pathExists trivial)) fun b => by
        cases b
        · trivial
        · exact uses_deleteDirContent trivial fun _ => trivial)
    swap
    · intro e s hs
      exact ⟨fun he => (by cases he), fun _ hl => by rw [hs] at hl; cases hl⟩
    rintro _ w₂ hdel
    obtain ⟨d₂, rfl, hempty⟩ := hdel rfl
    have hslash : ∀ e ∈ es, NoSlash e.1 := fun e he => d.noSlash e (hes.mem_iff.1 he)
    rw [map_apexFiles hslash]
    have hentry : ∀ e ∈ apexFiles es, (e.1, Node.file e.2) ∈ d.entries := fun e he =>
      hes.mem_iff.1 (mem_apexFiles.1 he).1
    refine (wp_backupLoop ?_ ?_ ?_ (hc.linking hm hempty)).imp ?_
    · rw [World.activeEntries_some hd]
      exact (hes.filterMap _).filter _
    · intro e he
      have hn : NoSlash e.1 := d.noSlash _ (hentry e he)
      refine ⟨hn, ?_⟩
      rw [World.file?_join hn, hd, Option.bind_some, Dir.lookup_eq_some.2 (hentry e he)]
      rfl
    · intro e he
      refine hs.plain _ (List.mem_map.2 ⟨(e.1, Node.file e.2), ?_, rfl⟩)
      rw [World.activeEntries_some hd]
      exact hentry e he
    · rintro x s - ⟨hok, herr⟩
      refine ⟨fun hx => ⟨fun hn => ?_, fun _ => hok hx⟩, herr⟩
      rw [hd] at hn
      cases hn

/-! ## What is promised of a backup -/

/-- What is promised of a run of `BackupActivePackages` from `w` that ends with `x`. -/
structure ExactBackup (cfg : Config) (w : World) (x : Except String Unit)
    (s : World × LinkHistory) : Prop where
  success : x = .ok () → w.BackedUp s.1
  failure : (∃ e, x = .error e) → s.2.linking = true → s.2.cleanupFailed = false →
    ∃ d, s.1.dirs kApexBackupDir = some d ∧ d.entries = []
  restore : x = .ok () → w.StagedNames → ∀ (t : SessionState) (w₁ w₂ : World),
    w₁.inFsCheckpointMode = false → w₁.dirs kApexBackupDir = s.1.dirs kApexBackupDir →
    Ends (kernel .off Sys.Refused) (doRollback cfg t) w₁ (.ok ()) w₂ →
    w₂.HoldsPerm kActiveApexPackagesDataDir w.activeEntries

theorem World.BackedUp.of_nil (h : w.activeEntries = []) : w.BackedUp w' ↔
    ∃ d, w'.dirs kApexBackupDir = some d ∧ d.entries = [] := by
  constructor
  · rintro ⟨d, es, ls, hd, hes, hls, hperm⟩
    rw [h] at hes
    obtain rfl := hes.eq_nil
    obtain rfl := List.forall₂_nil_left_iff.1 hls
    exact ⟨d, hd, hperm.eq_nil⟩
  · rintro ⟨d, hd, hnil⟩
    exact ⟨d, [], [], hd, by rw [h]; rfl, .nil, by rw [hnil]⟩

/-- When the active names are those of staging, the links are the active entries. -/
theorem World.BackedUp.staged (h : w.BackedUp w') (hs : w.StagedNames) :
    w'.HoldsPerm kApexBackupDir w.activeEntries := by
  obtain ⟨d, es, ls, hd, hes, hls, hperm⟩ := h
  have hname : ∀ n a, join kActiveApexPackagesDataDir n = stageDestPath a →
      n = getPackageId a.manifest ++ kApexPackageSuffix := fun n a he => join_right_inj.1 he
  have hlinks : ls = es.map fun e => (e.1, Node.file e.2) := by
    have hmem : ∀ e ∈ es, (e.1, Node.file e.2) ∈ w.activeEntries :=
      fun e he => (mem_apexFiles.1 (hes.mem_iff.1 he)).1
    clear hes hperm
    induction hls with
    | nil => rfl
    | cons hl _ ih =>
      rename_i e l es ls _
      obtain ⟨a, ho, rfl⟩ := hl
      obtain ⟨f, a', _, ho', he'⟩ := hs _ (hmem e List.mem_cons_self)
      rw [ho] at ho'
      cases ho'
      rw [List.map_cons, ih fun x hx => hmem x (List.mem_cons_of_mem _ hx), hname _ _ he']
  have hall : ∀ l : List (String × Node), (∀ e ∈ l, e ∈ w.activeEntries) →
      (apexFiles l).map (fun e => (e.1, Node.file e.2)) = l := by
    intro l hl
    induction l with
    | nil => rfl
    | cons e l ih =>
      obtain ⟨n, x⟩ := e
      obtain ⟨f, a, hx, _, he⟩ := hs _ (hl _ List.mem_cons_self)
      obtain rfl : x = .file f := hx
      have hend : endsWith n kApexPackageSuffix = true := by
        rw [show n = _ from hname _ _ he]
        exact endsWith_append _ _
      have ih := ih fun y hy => hl y (List.mem_cons_of_mem _ hy)
      unfold apexFiles at ih ⊢
      show List.map _ (List.filter _ ((n, f) :: _)) = _
      rw [List.filter_cons, if_pos hend, List.map_cons, ih]
  refine ⟨d, hd, ?_⟩
  calc d.entries.Perm ls := hperm
    _ = es.map fun e => (e.1, Node.file e.2) := hlinks
    _ |>.Perm ((apexFiles w.activeEntries).map fun e => (e.1, Node.file e.2)) := hes.map _
    _ = w.activeEntries := hall _ fun _ h => h

/-- **A backup is exact**, whatever is refused: a successful one holds a link for each active
package and nothing else, a failed one is taken back, and restoring it restores the active entries.
This holds exactly when there is an active directory or there was no backup. -/
theorem backupActivePackages_exact_iff {x : Except String Unit} {s : World × LinkHistory}
    (hm : w.DataUnmounted) (hs : w.Spelled w.activePaths)
    (h : Ends backupKernel backupActivePackages (w, ⟨false, false⟩) x s) :
    ExactBackup cfg w x s ↔
      (x = .ok () → w.dirs kActiveApexPackagesDataDir ≠ none ∨ w.backupEntries = []) := by
  obtain ⟨hok, hfail⟩ := (wp_backupActivePackages hm hs).ends h
  have hnil : w.dirs kActiveApexPackagesDataDir = none → w.activeEntries = [] := by
    intro hn
    unfold World.activeEntries
    rw [hn]
    rfl
  have hiff : x = .ok () → (w.BackedUp s.1 ↔
      (w.dirs kActiveApexPackagesDataDir ≠ none ∨ w.backupEntries = [])) := by
    intro hx
    by_cases hn : w.dirs kActiveApexPackagesDataDir = none
    · obtain ⟨d, hd, hents⟩ := (hok hx).1 hn
      rw [World.BackedUp.of_nil (hnil hn), hd]
      constructor
      · rintro ⟨_, ⟨⟩, hempty⟩
        exact Or.inr (hents.symm.trans hempty)
      · rintro (hne | hempty)
        · exact absurd hn hne
        · exact ⟨d, rfl, hents.trans hempty⟩
    · exact ⟨fun _ => Or.inl hn, fun _ => (hok hx).2 hn⟩
  constructor
  · exact fun hexact hx => (hiff hx).1 (hexact.success hx)
  · intro hcond
    have hbacked : x = .ok () → w.BackedUp s.1 := fun hx => (hiff hx).2 (hcond hx)
    refine ⟨hbacked, hfail, fun hx hs t w₁ w₂ hmode hb hends => ?_⟩
    obtain ⟨d, hd, hperm⟩ := (hbacked hx).staged hs
    obtain ⟨d', hd', hperm'⟩ := (wp_doRollback_content Sys.Refused.refusals (hb.trans hd)
      hmode).ends hends rfl
    exact ⟨d', hd', hperm'.trans hperm⟩

end Backup

/-! ## Backups over a stale one -/

/-- A backup of an earlier update is left over; a package may be active. -/
def staleBackupWorld (active : List (String × Dir)) : World := .ofDirs
  (active ++
  [ (kApexDataDir, ⟨0o771, [("active", .dir), ("backup", .dir)], by decide, by decide⟩),
    (kApexBackupDir, ⟨0o700, [("b@7.apex", .file ⟨9, .bytes [7]⟩)], by decide, by decide⟩) ])

def activeDir : Dir :=
  ⟨0o755, [("a@1.apex", .file ⟨1, .apex (soundContent (plainManifest 1 version_one))⟩)], by
    decide, by decide⟩

/-- The run of a backup from such a world. -/
def staleBackupRun (active : List (String × Dir)) : ApexM Unit × (World × LinkHistory) :=
  runN (observeStep Sys.run linkHistory) 30 backupActivePackages
    (staleBackupWorld active, ⟨false, false⟩)

/-- The stale file is removed when there is an active directory. -/
theorem backupActivePackages_exact_active : ExactBackup deviceConfig
    (staleBackupWorld [(kActiveApexPackagesDataDir, activeDir)]) (.ok ())
    (staleBackupRun [(kActiveApexPackagesDataDir, activeDir)]).2 := by
  have hres : (staleBackupRun [(kActiveApexPackagesDataDir, activeDir)]).1.result? = some
      (.ok ()) := by
    decide
  exact (backupActivePackages_exact_iff (fun m hm => by cases hm) (by decide)
    (runN_ends (observeStep_sem Sys.run_sem) hres)).2 fun _ => Or.inl (by decide)

/-- Without an active directory the stale backup is left, and the function succeeds. -/
theorem backupActivePackages_leaves_stale : ¬ ∀ x s,
    Ends backupKernel backupActivePackages (staleBackupWorld [], ⟨false, false⟩) x s →
    ExactBackup deviceConfig (staleBackupWorld []) x s := by
  intro hclaim
  have hres : (staleBackupRun []).1.result? = some (.ok ()) := by decide
  have hexact := hclaim _ _ (runN_ends (observeStep_sem Sys.run_sem) hres)
  obtain ⟨d, hd, hempty⟩ := (World.BackedUp.of_nil (by decide)).1 (hexact.success rfl)
  have hleft : ((staleBackupRun []).2.1.dirs kApexBackupDir).map (·.entries.length) = some 1 := by
    decide
  unfold staleBackupRun at hleft
  rw [hd, Option.map_some, hempty] at hleft
  cases hleft

end Apexd
