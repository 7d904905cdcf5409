import Apexd.Kernel

/-!
# Helpers of `apexd_utils.h` and `apex_file.cpp`

* `pathExists`, `isEmptyDirectory`, `createDirIfNeeded`, `deleteDirContent`, `readDir`,
  `findApexFilesByName`, `isPathForBuiltinApexes`, `waitForDevice`.
* `check` — the pattern `if (call != 0) return Status::Fail(PStringLog() << msg)`.
-/

set_option autoImplicit false

namespace Apexd

open Text Prog

/-- Fail with a message and the text of `errno` when a call has failed. -/
def check {α : Type} (msg : String) : Except Errno α → ApexM α
  | .ok a => ret a
  | .error e => fail (perror msg e)

/-- A `PStringLog` where no call has just failed: `errno` is what some call before has left
there. -/
def failErrno {α : Type} (msg : String) : ApexM α := do
  let text ← sys .strerror
  fail (msg ++ ": " ++ text)

/-- `ReadDir`: `WalkDir` with a filter; the paths found. -/
def readDir (path : String) (filter : DirEntry → Bool) : ApexM (List String) := do
  match ← sys (.readDir path) with
  | .error e => fail ("Can't open " ++ path ++ " for reading : " ++ e.strerror)
  | .ok l => ret ((l.filter filter).map (·.path))

def isEmptyDirectory (path : String) : ApexM Bool := do
  match ← sys (.readDir path) with
  | .error _ => ret false
  | .ok l => ret l.isEmpty

def createDirIfNeeded (path : String) (mode : Nat) : ApexM Unit := do
  match ← sys (.stat path) with
  | .error .enoent => sys (.mkdir path mode) >>= check ("Could not mkdir " ++ path)
  | .error e => fail (perror ("Could not stat " ++ path) e)
  | .ok st => require st.isDir (path ++ " exists and is not a directory.")
  sys (.chmod path mode) >>= check ("Could not chmod " ++ path)

def deleteDirContent (path : String) : ApexM Unit := do
  let files ← (readDir path fun _ => true).mapErr fun e => "Failed to delete " ++ path ++ " : " ++ e
  files.forM fun file => sys (.unlink file) >>= check ("Failed to delete " ++ file)

def pathExists (path : String) : ApexM Bool := do
  match ← sys (.stat path) with
  | .ok _ => ret true
  | .error .enoent => ret false
  | .error .enotdir => ret false
  | .error e => fail ("Failed to access " ++ path ++ " : " ++ e.strerror)

/-- The filter of `FindApexFilesByName`. -/
def isApexEntry (includeDirs : Bool) (e : DirEntry) : Bool :=
  (e.isRegularFile && endsWith (baseName e.path) kApexPackageSuffix) ||
    (e.isDirectory && includeDirs)

def findApexFilesByName (path : String) (includeDirs : Bool) : ApexM (List String) :=
  readDir path (isApexEntry includeDirs)

def isPathForBuiltinApexes (path : String) : Bool :=
  kApexPackageBuiltinDirs.any fun dir => startsWith path dir

/-- `kWaitToBeCreated` and `kWaitToBeDeleted`. -/
inductive WaitForDeviceMode where
  | kWaitToBeCreated
  | kWaitToBeDeleted
  deriving DecidableEq

/-- The loop of `waitForDevice`, with the tries that are left. -/
def waitForDeviceLoop (device : String) (mode : WaitForDeviceMode) : Nat → ApexM Unit
  | 0 => fail ("Failed to wait for device " ++ device ++ " to be " ++
      (if mode = .kWaitToBeCreated then " created" else " deleted"))
  | n + 1 => do
    match ← sys (.deviceExists device) with
    | .ok true => if mode = .kWaitToBeCreated then ret () else waitForDeviceLoop device mode n
    | .ok false => if mode = .kWaitToBeDeleted then ret () else waitForDeviceLoop device mode n
    | .error _ => waitForDeviceLoop device mode n

def waitForDevice (device : String) (mode : WaitForDeviceMode) : ApexM Unit :=
  waitForDeviceLoop device mode (if mode = .kWaitToBeCreated then 10 else 15)

/-! ## The calls they make -/

section Uses

variable {S : Sys → Prop} {path : String}

theorem uses_check {α : Type} (msg : String) (r : Except Errno α) : (check msg r).Uses S := by
  cases r <;> trivial

theorem uses_failErrno {α : Type} (hs : S .strerror) (msg : String) :
    (failErrno msg : ApexM α).Uses S :=
  uses_exec_bind hs fun _ => trivial

theorem uses_sys_check {α : Type} {c : Sys} {f : c.Res → Except Errno α} (msg : String) (h : S c) :
    (sys c >>= fun r => check msg (f r)).Uses S :=
  ⟨h, fun r => uses_check msg (f r)⟩

theorem uses_readDir {filter : DirEntry → Bool} (h : S (.readDir path)) :
    (readDir path filter).Uses S := by
  refine ⟨h, ?_⟩
  rintro (e | l) <;> trivial

theorem uses_createDirIfNeeded {mode : Nat} (hs : S (.stat path)) (hm : S (.mkdir path mode))
    (hc : S (.chmod path mode)) : (createDirIfNeeded path mode).Uses S := by
  have hch : (sys (.chmod path mode) >>= check ("Could not chmod " ++ path)).Uses S :=
    ⟨hc, fun r => uses_check _ r⟩
  unfold createDirIfNeeded
  simp only [bind_eq, exec_bind] at hch ⊢
  refine ⟨hs, fun r => ?_⟩
  dsimp only
  split
  · exact ⟨hm, fun r => uses_bind (uses_check _ r) fun _ => hch⟩
  · trivial
  · exact uses_bind (uses_require _ _) fun _ => hch

theorem uses_deleteDirContent (hr : S (.readDir path)) (hu : ∀ f, S (.unlink f)) :
    (deleteDirContent path).Uses S := by
  unfold deleteDirContent
  refine uses_bind (uses_mapErr (uses_readDir hr)) fun files => uses_forM _ fun f _ => ?_
  exact ⟨hu f, fun r => uses_check _ r⟩

theorem uses_pathExists (h : S (.stat path)) : (pathExists path).Uses S := by
  unfold pathExists
  simp only [bind_eq, exec_bind]
  refine ⟨h, fun r => ?_⟩
  dsimp only
  split <;> trivial

end Uses

/-! ## What they do when only commits may be cut short -/

section Commits

variable {V : Watch} {F : Faults} {I : World → Prop} {w : World} {path : String}

theorem wp_pathExists (hF : F.Commits) {Q : Except String Bool → World → Prop} (hI : I w)
    (hQ : ∀ b, (b = true ↔ ∃ st, w.stat path = .ok st) → Q (.ok b) w) :
    wp (kernel V F) I (pathExists path) Q w := by
  unfold pathExists
  simp only [bind_eq, exec_bind]
  refine ⟨hI, trivial, ?_⟩
  rintro r w' (⟨rfl, rfl⟩ | hf)
  · cases hs : w'.stat path with
    | ok st => exact ⟨hI, hQ true (by simp [hs])⟩
    | error e =>
      have he : e = .enoent := by
        unfold World.stat at hs
        split at hs <;> simp_all
      subst he
      exact ⟨hI, hQ false (by simp [hs])⟩
  · exact (hF _ _ _ _ hf).elim

/-- An answer of `PathExists` is right, whatever is refused. -/
theorem wp_pathExists_refusals (hF : F.Refusals) (hI : I w) :
    wp (kernel V F) I (pathExists path) (fun x w' => w' = w ∧
      ∀ b, x = .ok b → (b = true ↔ ∃ st, w.stat path = .ok st)) w := by
  unfold pathExists
  simp only [bind_eq, exec_bind]
  refine ⟨hI, trivial, ?_⟩
  rintro r w' (⟨rfl, rfl⟩ | hf)
  · cases hs : w'.stat path with
    | ok st => exact ⟨hI, rfl, by rintro _ ⟨⟩; exact ⟨fun _ => ⟨st, rfl⟩, fun _ => rfl⟩⟩
    | error e =>
      have he : e = .enoent := by
        unfold World.stat at hs
        split at hs <;> simp_all
      subst he
      exact ⟨hI, rfl, by rintro _ ⟨⟩; simp⟩
  · obtain ⟨⟨e, he, rfl⟩, rfl⟩ := hF _ _ _ _ hf
    cases e <;> first | exact absurd he (by decide) | exact ⟨hI, rfl, fun b h => by cases h⟩

theorem map_path_filter (filter : DirEntry → Bool) (es : List (String × Node)) :
    ((es.map (World.dirEntry path)).filter filter).map (·.path) =
      (es.filter fun e => filter (World.dirEntry path e)).map fun e => join path e.1 := by
  rw [List.filter_map, List.map_map]
  rfl

theorem wp_readDir (hF : F.Reads) {filter : DirEntry → Bool}
    {Q : Except String (List String) → World → Prop} (hm : w.mounted path = none) (hI : I w)
    (hnone : w.dirs path = none → ∀ e, Q (.error e) w)
    (hsome : ∀ (d : Dir) (es : List (String × Node)), w.dirs path = some d →
      es.Perm d.entries → Q (.ok ((es.filter fun e => filter (World.dirEntry path e)).map
        fun e => join path e.1)) w) :
    wp (kernel V F) I (readDir path filter) Q w := by
  unfold readDir
  simp only [bind_eq, exec_bind]
  refine ⟨hI, trivial, ?_⟩
  rintro r w' (⟨hl, rfl⟩ | hf)
  · unfold World.Lists at hl
    rw [hm] at hl
    cases hd : w'.dirs path with
    | none =>
      rw [hd] at hl
      subst hl
      exact ⟨hI, hnone hd _⟩
    | some d =>
      rw [hd] at hl
      obtain ⟨es, hp, rfl⟩ := hl
      refine ⟨hI, ?_⟩
      rw [map_path_filter]
      exact hsome d es hd hp
  · exact (hF.readDir _ _ _ _ hf).elim

/-- What is read are paths in the directory. -/
theorem wp_readDir_paths {filter : DirEntry → Bool} (hF : F.Honest) (hI : I w) :
    wp (kernel V F) I (readDir path filter)
      (fun x w' => w' = w ∧ ∀ l, x = .ok l → ∀ q ∈ l, ∃ n, NoSlash n ∧ q = join path n) w := by
  unfold readDir
  simp only [bind_eq, exec_bind]
  refine ⟨hI, trivial, ?_⟩
  rintro r w' (⟨hl, rfl⟩ | hf)
  · cases r with
    | error e => exact ⟨hI, rfl, fun l h => by cases h⟩
    | ok l =>
      refine ⟨hI, rfl, ?_⟩
      rintro _ ⟨⟩ q hq
      obtain ⟨e, he, rfl⟩ := List.mem_map.1 hq
      exact hl.path e (List.mem_filter.1 he).1
  · obtain ⟨⟨e, rfl⟩, rfl⟩ := hF.readDir _ _ _ _ hf
    exact ⟨hI, rfl, fun l h => by cases h⟩

/-- What is read is what the directory holds, whatever is refused. -/
theorem wp_readDir_honest {filter : DirEntry → Bool} (hF : F.Honest) (hm : w.mounted path = none)
    (hI : I w) : wp (kernel V F) I (readDir path filter) (fun x w' => w' = w ∧ ∀ l, x = .ok l →
      ∃ (d : Dir) (es : List (String × Node)), w.dirs path = some d ∧ es.Perm d.entries ∧
        l = (es.filter fun e => filter (World.dirEntry path e)).map fun e => join path e.1) w := by
  unfold readDir
  simp only [bind_eq, exec_bind]
  refine ⟨hI, trivial, ?_⟩
  rintro r w' (⟨hl, rfl⟩ | hf)
  · unfold World.Lists at hl
    rw [hm] at hl
    cases hd : w'.dirs path with
    | none =>
      rw [hd] at hl
      subst hl
      exact ⟨hI, rfl, fun l h => by cases h⟩
    | some d =>
      rw [hd] at hl
      obtain ⟨es, hp, rfl⟩ := hl
      refine ⟨hI, rfl, ?_⟩
      rintro _ ⟨⟩
      exact ⟨d, es, rfl, hp, map_path_filter filter es⟩
  · obtain ⟨⟨e, rfl⟩, rfl⟩ := hF.readDir _ _ _ _ hf
    exact ⟨hI, rfl, fun l h => by cases h⟩

/-- A directory may have been made, or its mode set. -/
structure World.Created (path : String) (w w' : World) : Prop where
  onlyDirs : w.OnlyDirs w'
  files : ∀ q, w'.file? q = w.file? q
  other : ∀ q, q ≠ path → q ≠ dirName path → w'.dirs q = w.dirs q

theorem wp_createDirIfNeeded_refusals (hF : F.Refusals) {mode : Nat} (hm : w.mounted path = none) :
    wp (kernel V F) (fun _ => True) (createDirIfNeeded path mode) (fun x w' => w.Created path w' ∧
      (x = .ok () → ∃ d', w'.dirs path = some d' ∧
        d'.entries = ((w.dirs path).map (·.entries)).getD [])) w := by
  generalize hB : ((w.dirs path).map (·.entries)).getD [] = B
  have hchmod : ∀ w₁ : World, w.Created path w₁ → (∃ d', w₁.dirs path = some d' ∧ d'.entries = B) →
      wp (kernel V F) (fun _ => True)
        (sys (.chmod path mode) >>= check ("Could not chmod " ++ path))
        (fun x w' => w.Created path w' ∧ (x = .ok () → ∃ d', w'.dirs path = some d' ∧
          d'.entries = B)) w₁ := by
    rintro w₁ hc ⟨d₁, hd₁, he₁⟩
    refine ⟨trivial, trivial, ?_⟩
    rintro r w₂ (hs | hf)
    · have hw : (r, w₂) = w₁.chmod path mode := hs
      have hfile := World.chmod_file? hw
      unfold World.chmod at hw
      rw [hd₁] at hw
      cases hw
      refine ⟨trivial, ⟨hc.onlyDirs.trans rfl, fun q => (hfile q).trans (hc.files q),
        fun q h h' => ?_⟩, fun _ => ⟨_, World.setDir_self _ _ _, he₁⟩⟩
      rw [World.setDir_other _ _ h, hc.other q h h']
    · obtain ⟨⟨e, _, rfl⟩, rfl⟩ := hF _ _ _ _ hf
      exact ⟨trivial, hc, fun he => by cases he⟩
  have hself : w.Created path w := ⟨rfl, fun _ => rfl, fun _ _ _ => rfl⟩
  have herr : ∀ e : String, w.Created path w ∧ ((Except.error e : Except String Unit) = .ok () →
      ∃ d', w.dirs path = some d' ∧ d'.entries = B) :=
    fun e => ⟨hself, fun he => by cases he⟩
  unfold createDirIfNeeded
  simp only [bind_eq, exec_bind] at hchmod ⊢
  refine ⟨trivial, trivial, ?_⟩
  rintro r w' (⟨rfl, rfl⟩ | hf)
  · cases hd : w'.dirs path with
    | some d =>
      rw [show w'.stat path = .ok ⟨true, d.mode⟩ by unfold World.stat; rw [hm, hd]]
      rw [hd] at hB
      exact hchmod w' hself ⟨d, hd, hB⟩
    | none =>
      cases hf : w'.file? path with
      | some f =>
        rw [show w'.stat path = .ok ⟨false, 0o644⟩ by unfold World.stat; rw [hm, hd, hf]]
        exact ⟨trivial, herr _⟩
      | none =>
        rw [show w'.stat path = .error .enoent by unfold World.stat; rw [hm, hd, hf]]
        refine ⟨trivial, trivial, ?_⟩
        rintro r w₁ (hs | hr)
        · have hw : (r, w₁) = w'.mkdir path mode := hs
          have hfile := World.mkdir_file? hw
          rcases w'.mkdir_cases path mode with ⟨e, he⟩ | ⟨parent, _, _, _, he⟩
          · rw [he] at hw
            cases hw
            exact ⟨trivial, herr _⟩
          · rw [he] at hw
            cases hw
            refine hchmod _ ⟨rfl, hfile, fun q h h' => ?_⟩ ⟨_, World.setDir_self _ _ _, ?_⟩
            · rw [World.setDir_other _ _ h, World.setDir_other _ _ h']
            · rw [hd] at hB
              exact hB
        · obtain ⟨⟨e, _, rfl⟩, rfl⟩ := hF _ _ _ _ hr
          exact ⟨trivial, herr _⟩
  · obtain ⟨⟨e, he, rfl⟩, rfl⟩ := hF _ _ _ _ hf
    cases e <;> first | exact absurd he (by decide) | exact ⟨trivial, herr _⟩

/-- **Emptying a directory**: what is left at any moment is part of what was there, and nothing is
left at the end; only a subdirectory can stop it. -/
theorem wp_deleteDirContent (hF : F.Commits) {d : Dir} {Q : Except String Unit → World → Prop}
    (hm : w.mounted path = none) (hd : w.dirs path = some d)
    (hI : ∀ d' : Dir, d'.mode = d.mode → d'.entries.Sublist d.entries →
      I (w.setDir path (some d')))
    (hok : ∀ d' : Dir, d'.mode = d.mode → d'.entries = [] → Q (.ok ()) (w.setDir path (some d')))
    (herr : ∀ (d' : Dir) e, d'.mode = d.mode → d'.entries.Sublist d.entries →
      (∃ n, (n, Node.dir) ∈ d.entries) → Q (.error e) (w.setDir path (some d'))) :
    wp (kernel V F) I (deleteDirContent path) Q w := by
  have hw : w.setDir path (some d) = w := World.setDir_same hd
  have hI0 : I w := hw ▸ hI d rfl (List.Sublist.refl _)
  unfold deleteDirContent
  simp only [bind_eq]
  refine wp_bind.2 (wp_mapErr.2 (wp_readDir hF.reads hm hI0 ?_ ?_))
  · intro h
    rw [hd] at h
    cases h
  intro d0 es hd0 hes
  rw [hd] at hd0
  cases hd0
  -- the loop: what is still to be deleted is what the directory still holds
  refine wp_forM (fun rest w' => ∃ d' : Dir, d'.mode = d.mode ∧ d'.entries.Sublist d.entries ∧
    w' = w.setDir path (some d') ∧ rest.Perm (d'.entries.map fun e => join path e.1)) _ ?_ ?_ ?_
  · rintro x rest _ - ⟨d', hmode, hsub, rfl, hperm⟩
    obtain ⟨⟨n, node⟩, he, rfl⟩ := List.mem_map.1 (hperm.mem_iff.1 List.mem_cons_self)
    rw [exec_bind]
    refine ⟨hI d' hmode hsub, trivial, ?_⟩
    rintro r w' (hs | hf)
    · cases node with
      | file f =>
        have hu : (r, w') = _ := hs
        rw [World.unlink_join_file (World.setDir_self w path (some d')) he,
          World.setDir_setDir] at hu
        cases hu
        have hs' := (d'.erase_sublist n).trans hsub
        refine ⟨hI _ hmode hs', d'.erase n, hmode, hs', rfl, ?_⟩
        have hp := hperm.trans ((Dir.perm_erase he).map fun e => join path e.1)
        exact (List.perm_cons _).1 hp
      | dir =>
        have hu : (r, w') = _ := hs
        rw [World.unlink_join_dir (World.setDir_self w path (some d')) he] at hu
        cases hu
        exact ⟨hI _ hmode hsub, herr d' _ hmode hsub ⟨n, hsub.subset he⟩⟩
    · exact (hF _ _ _ _ hf).elim
  · rintro _ ⟨d', hmode, hsub, rfl, hperm⟩
    have hnil : d'.entries = [] := List.map_eq_nil_iff.1 (List.nil_perm.1 hperm)
    exact ⟨hI d' hmode hsub, hok d' hmode hnil⟩
  · refine ⟨d, rfl, List.Sublist.refl _, hw.symm, ?_⟩
    rw [List.filter_eq_self.2 fun _ _ => rfl]
    exact hes.map _

/-- Emptying a directory when removals may be refused: it is empty if that succeeds, and then held
no subdirectory. -/
theorem wp_deleteDirContent_refusals (hF : F.Refusals) {d : Dir} (hm : w.mounted path = none)
    (hd : w.dirs path = some d) : wp (kernel V F)
      (fun w' => ∃ d' : Dir, d'.entries.Sublist d.entries ∧ w' = w.setDir path (some d'))
      (deleteDirContent path) (fun x w' => ∃ d' : Dir, d'.entries.Sublist d.entries ∧
        w' = w.setDir path (some d') ∧
        (x = .ok () → d'.entries = [] ∧ ∀ n, (n, Node.dir) ∉ d.entries)) w := by
  have hw : w.setDir path (some d) = w := World.setDir_same hd
  have h0 : ∃ d' : Dir, d'.entries.Sublist d.entries ∧ w = w.setDir path (some d') :=
    ⟨d, List.Sublist.refl _, hw.symm⟩
  unfold deleteDirContent
  refine wp_bind.2 (wp_mapErr.2 ((wp_readDir_honest hF.honest hm h0).imp ?_))
  rintro (e | files) w' _ ⟨rfl, hfiles⟩
  · exact ⟨d, List.Sublist.refl _, hw.symm, fun he => by cases he⟩
  obtain ⟨d0, es, hd0, hes, rfl⟩ := hfiles files rfl
  rw [hd] at hd0
  cases hd0
  -- the loop: what is still to be deleted is what the directory still holds
  refine wp_forM (fun rest w₁ => ∃ d' : Dir, d'.entries.Sublist d.entries ∧
    w₁ = w'.setDir path (some d') ∧ rest.Perm (d'.entries.map fun e => join path e.1) ∧
    ∀ n, (n, Node.dir) ∈ d.entries → (n, Node.dir) ∈ d'.entries) _ ?_ ?_ ?_
  · rintro x rest _ - ⟨d', hsub, rfl, hperm, hdirs⟩
    obtain ⟨⟨n, node⟩, he, rfl⟩ := List.mem_map.1 (hperm.mem_iff.1 List.mem_cons_self)
    rw [bind_eq, exec_bind]
    refine ⟨⟨d', hsub, rfl⟩, trivial, ?_⟩
    rintro r w₂ (hs | hf)
    · cases node with
      | file f =>
        have hu : (r, w₂) = _ := hs
        rw [World.unlink_join_file (World.setDir_self w' path (some d')) he,
          World.setDir_setDir] at hu
        cases hu
        have hs' := (d'.erase_sublist n).trans hsub
        refine ⟨⟨_, hs', rfl⟩, d'.erase n, hs', rfl, ?_, fun m hm => ?_⟩
        · exact (List.perm_cons _).1 (hperm.trans ((Dir.perm_erase he).map fun e => join path e.1))
        · refine Dir.mem_erase.2 ⟨hdirs m hm, ?_⟩
          rintro rfl
          have hl := Dir.lookup_eq_some.2 he
          rw [Dir.lookup_eq_some.2 (hdirs _ hm)] at hl
          cases hl
      | dir =>
        have hu : (r, w₂) = _ := hs
        rw [World.unlink_join_dir (World.setDir_self w' path (some d')) he] at hu
        cases hu
        exact ⟨⟨d', hsub, rfl⟩, d', hsub, rfl, fun he => by cases he⟩
    · obtain ⟨⟨e, _, rfl⟩, rfl⟩ := hF _ _ _ _ hf
      exact ⟨⟨d', hsub, rfl⟩, d', hsub, rfl, fun he => by cases he⟩
  · rintro _ ⟨d', hsub, rfl, hperm, hdirs⟩
    have hnil : d'.entries = [] := List.map_eq_nil_iff.1 (List.nil_perm.1 hperm)
    refine ⟨⟨d', hsub, rfl⟩, d', hsub, rfl, fun _ => ⟨hnil, fun n hn => ?_⟩⟩
    have := hdirs n hn
    rw [hnil] at this
    cases this
  · refine ⟨d, List.Sublist.refl _, hw.symm, ?_, fun _ h => h⟩
    rw [List.filter_eq_self.2 fun _ _ => rfl]
    exact hes.map _

/-- Emptying a directory keeps what the removal of each entry keeps. -/
theorem wp_deleteDirContent_keeps (hF : F.Refusals) {J : World → Prop}
    (hstep : ∀ n w r w', NoSlash n → J w → (r, w') = w.unlink (join path n) → J w') (h : J w) :
    wp (kernel V F) J (deleteDirContent path) (fun _ w' => J w') w := by
  unfold deleteDirContent
  refine wp_bind.2 (wp_mapErr.2 ((wp_readDir_paths hF.honest h).imp ?_))
  rintro (e | files) w' _ ⟨rfl, hfiles⟩
  · exact h
  refine wp_forM (fun _ => J) files (fun file rest w hs hJ => ?_) (fun w hJ => ⟨hJ, hJ⟩) h
  obtain ⟨n, hn, rfl⟩ := hfiles files rfl file (hs.subset List.mem_cons_self)
  rw [bind_eq, exec_bind]
  refine ⟨hJ, trivial, ?_⟩
  rintro r w' (hu | hf)
  · have hJ' := hstep n w r w' hn hJ hu
    cases r <;> exact ⟨hJ', hJ'⟩
  · obtain ⟨⟨e, _, rfl⟩, rfl⟩ := hF _ _ _ _ hf
    exact ⟨hJ, hJ⟩

theorem wp_deleteDirContent_none (hF : F.Commits) {Q : Except String Unit → World → Prop}
    (hm : w.mounted path = none) (hd : w.dirs path = none) (hI : I w)
    (hQ : ∀ e, Q (.error e) w) : wp (kernel V F) I (deleteDirContent path) Q w := by
  unfold deleteDirContent
  rw [bind_eq]
  refine wp_bind.2 (wp_mapErr.2 (wp_readDir hF.reads hm hI (fun _ e => hQ _) ?_))
  intro d es h
  rw [hd] at h
  cases h

end Commits

end Apexd
