import Apexd.Types
import Apexd.Lib.Text

/-!
# What is in a shim image

`ValidateShimApex` (`apex_shim.cpp`) on the content of the mounted image.

* `FsTree` — a tree of files, directories and symbolic links; the names in a directory are distinct
  by construction.
* `Links` — what the rest of the system has where a link leads.
* `validateShimApex_ok_iff` — what is accepted: the checks look through links, and through them at
  `lost+found`.
* `validateShimApex_exact_iff` — for which images that is no more than a shim may hold.
-/

set_option autoImplicit false

namespace Apexd.Shim

open Text

/-- A file, a directory or a symbolic link with its target; `perms` are the permission bits. -/
inductive FsTree where
  | file (perms : Nat) (content : List UInt8)
  | dir (perms : Nat) (names : List String) (nodup : names.Nodup) (child : String → FsTree)
  | symlink (target : String)

/-- What the link at a path leads to in the end. -/
abbrev Links := String → String → Except Errno FsTree

/-- What `stat` sees at a path. -/
def FsTree.followed (links : Links) (path : String) : FsTree → Except Errno FsTree
  | .symlink target => links path target
  | node => .ok node

def kHashFileName : String := "hash.txt"
def kApexManifestFileName : String := "apex_manifest.json"
def kEtcFolderName : String := "etc"
def kLostFoundFolderName : String := "lost+found"

/-- `owner_exec | group_exec | others_exec` -/
def kFordbiddenFilePermissions : Nat := 0o111

/-- How an `error_code` is written into a message: its category and its number. -/
def printed (ec : Errno) : String :=
  "generic:" ++ toString (match ec with
    | .enoent => 2
    | .eio => 5
    | .enxio => 6
    | .eacces => 13
    | .ebusy => 16
    | .eexist => 17
    | .enotdir => 20
    | .eisdir => 21
    | .einval => 22
    | .enotempty => 39 : Nat)

/-- How a path is written into a message. -/
def quoted (path : String) : String :=
  "\"" ++ String.ofList (path.toList.flatMap fun c => if c = '"' ∨
    c = '\\' then ['\\', c] else [c]) ++ "\""

section Checks

variable (links : Links)

def isRegularFile (path : String) (entry : FsTree) : Except String Unit :=
  match entry.followed links path with
  | .error ec => .error ("Failed to stat " ++ quoted path ++ " : " ++ printed ec)
  | .ok (.file perms _) =>
    if perms &&& kFordbiddenFilePermissions ≠ 0 then .error
      (quoted path ++ " has illegal permissions") else .ok ()
  | .ok _ => .error (quoted path ++ " is not a file")

def isHashTxt (dir name : String) (entry : FsTree) : Except String Unit := do
  isRegularFile links (join dir name) entry
  if name ≠ kHashFileName then .error ("Illegal file " ++ quoted (join dir name)) else .ok ()

/-- `fs::is_empty`: of a file it is asked whether it has any bytes. -/
def isEmpty (path : String) (entry : FsTree) : Except Errno Bool :=
  match entry.followed links path with
  | .error ec => .error ec
  | .ok (.file _ content) => .ok content.isEmpty
  | .ok (.dir _ names _ _) => .ok names.isEmpty
  | .ok (.symlink _) => .error .enoent

/-- `fs::directory_iterator`: the names and what they stand for. -/
def directoryIterator (path : String) (entry : FsTree) : Except Errno (List (String × FsTree)) :=
  match entry.followed links path with
  | .error ec => .error ec
  | .ok (.dir _ names _ child) => .ok (names.map fun name => (name, child name))
  | .ok _ => .error .enotdir

/-- An error of the file system while something is scanned. -/
def scanned {α : Type} (path : String) (r : Except Errno α) : Except String α :=
  r.mapError fun ec => "Failed to scan " ++ path ++ " : " ++ printed ec

def isWhitelistedTopLevelEntry (mountPoint name : String) (entry : FsTree) : Except String Unit :=
  let path := join mountPoint name
  if name = kLostFoundFolderName then do
    let empty ← scanned (quoted path) (isEmpty links path entry)
    if empty then .ok () else .error (quoted path ++ " is not empty")
  else if name = kEtcFolderName then do
    let iter ← scanned (quoted path) (directoryIterator links path entry)
    let empty ← scanned (quoted path) (isEmpty links path entry)
    if empty then .error (quoted path ++ " should contain " ++ kHashFileName) else
    iter.forM fun e => isHashTxt links path e.1 e.2
  else if name = kApexManifestFileName then isRegularFile links path entry
  else .error ("Illegal entry " ++ quoted path)

def validateShimApex (mountPoint : String) (image : FsTree) (manifest : ApexManifest) :
    Except String Unit :=
  if manifest.preInstallHook ≠ "" ∨ manifest.postInstallHook ≠ "" then
    .error "Shim apex is not allowed to have pre or post install hooks"
  else do
    let iter ← scanned mountPoint (directoryIterator links mountPoint image)
    iter.forM fun e => isWhitelistedTopLevelEntry links mountPoint e.1 e.2

end Checks

/-! ## What a shim may hold -/

/-- No one may execute the file. -/
def NotExecutable (perms : Nat) : Prop := perms &&& kFordbiddenFilePermissions = 0

/-- An entry that belongs into a shim image. -/
def ShimEntry (name : String) (entry : FsTree) : Prop :=
  (name = kLostFoundFolderName ∧ ∃ perms nodup child, entry = .dir perms [] nodup child) ∨
  (name = kEtcFolderName ∧ ∃ perms nodup child filePerms content,
    entry = .dir perms [kHashFileName] nodup child ∧
    child kHashFileName = .file filePerms content ∧ NotExecutable filePerms) ∨
  (name = kApexManifestFileName ∧ ∃ perms content, entry = .file perms content ∧
    NotExecutable perms)

/-- The manifest has no hooks and all of the image belongs into it. -/
def ShimImage (names : List String) (child : String → FsTree) (manifest : ApexManifest) : Prop :=
  manifest.preInstallHook = "" ∧ manifest.postInstallHook = "" ∧ ∀ name ∈ names,
    ShimEntry name (child name)

/-! ## What is accepted -/

/-- A file that no one may execute is found at the path. -/
def LeadsToFile (links : Links) (path : String) (entry : FsTree) : Prop :=
  ∃ perms content, entry.followed links path = .ok (.file perms content) ∧ NotExecutable perms

/-- An entry that belongs into a shim image if links are what they lead to and an empty file is an
empty directory. -/
def AcceptedEntry (links : Links) (mountPoint name : String) (entry : FsTree) : Prop :=
  (name = kLostFoundFolderName ∧
    ((∃ perms nodup child, entry.followed links (join mountPoint name) = .ok
      (.dir perms [] nodup child)) ∨
      ∃ perms, entry.followed links (join mountPoint name) = .ok (.file perms []))) ∨
  (name = kEtcFolderName ∧ ∃ perms nodup child,
    entry.followed links (join mountPoint name) = .ok (.dir perms [kHashFileName] nodup child) ∧
    LeadsToFile links (join (join mountPoint name) kHashFileName) (child kHashFileName)) ∨
  (name = kApexManifestFileName ∧ LeadsToFile links (join mountPoint name) entry)

section Accepts

variable {links : Links} {path mountPoint name : String} {entry : FsTree}

theorem isRegularFile_ok_iff : isRegularFile links path entry = .ok () ↔
    LeadsToFile links path entry := by
  unfold isRegularFile LeadsToFile NotExecutable
  cases entry.followed links path with
  | error ec => simp
  | ok node =>
    cases node with
    | file perms content =>
      dsimp only
      split
      · rename_i h
        simp [h]
      · rename_i h
        simpa using not_not.1 h
    | dir perms names nodup child => simp
    | symlink target => simp

theorem bind_unit_eq_ok {α : Type} {x : Except String α} {f : α → Except String Unit} :
    (x >>= f) = .ok () ↔ ∃ a, x = .ok a ∧ f a = .ok () := by
  cases x <;> simp [bind, Except.bind]

theorem isHashTxt_ok_iff : isHashTxt links path name entry = .ok () ↔
    name = kHashFileName ∧ LeadsToFile links (join path name) entry := by
  unfold isHashTxt
  rw [bind_unit_eq_ok]
  constructor
  · rintro ⟨_, hfile, hname⟩
    split at hname
    · cases hname
    · rename_i h
      exact ⟨not_not.1 h, isRegularFile_ok_iff.1 hfile⟩
  · rintro ⟨rfl, hfile⟩
    exact ⟨(), isRegularFile_ok_iff.2 hfile, if_neg (not_not.2 rfl)⟩

theorem forM_ok_iff {α : Type} {l : List α} {f : α → Except String Unit} :
    l.forM f = .ok () ↔ ∀ x ∈ l, f x = .ok () := by
  induction l with
  | nil => simp [List.forM_nil, pure, Except.pure]
  | cons x rest ih =>
    change (f x >>= fun _ => rest.forM f) = .ok () ↔ _
    rw [bind_unit_eq_ok, List.forall_mem_cons]
    constructor
    · rintro ⟨_, hx, hrest⟩
      exact ⟨hx, ih.1 hrest⟩
    · rintro ⟨hx, hrest⟩
      exact ⟨(), hx, ih.2 hrest⟩

theorem scanned_ok_iff {α : Type} {r : Except Errno α} {a : α} :
    scanned path r = .ok a ↔ r = .ok a := by
  unfold scanned
  cases r <;> simp [Except.mapError]

/-- A directory of distinct names that are all the same one. -/
theorem names_eq_singleton {names : List String} (hn : names.Nodup) (hne : names ≠ []) {a : String}
    (h : ∀ x ∈ names, x = a) : names = [a] := by
  have hrep := List.eq_replicate_of_mem h
  match hl : names with
  | [] => exact absurd rfl hne
  | [x] => rw [h x List.mem_cons_self]
  | x :: y :: rest =>
    have hxy : x = y := (h x (by simp)).trans (h y (by simp)).symm
    rw [hxy, List.nodup_cons] at hn
    exact absurd List.mem_cons_self hn.1

theorem isEmpty_iff : isEmpty links path entry = .ok true ↔
    (∃ perms nodup child, entry.followed links path = .ok (.dir perms [] nodup child)) ∨
      ∃ perms, entry.followed links path = .ok (.file perms []) := by
  unfold isEmpty
  cases entry.followed links path with
  | error ec => simp
  | ok node =>
    cases node with
    | file perms content => cases content <;> simp
    | dir perms names nodup child => cases names <;> simp
    | symlink target => simp

/-- Every entry of a directory that is not empty passes as `hash.txt` only if there is no other. -/
theorem hashTxt_only_iff {names : List String} (nodup : names.Nodup) {child : String → FsTree} :
    (names ≠ [] ∧ ∀ x ∈ names, isHashTxt links path x (child x) = .ok ()) ↔
      names = [kHashFileName] ∧ LeadsToFile links (join path kHashFileName)
        (child kHashFileName) := by
  constructor
  · rintro ⟨hne, hall⟩
    have hname : ∀ x ∈ names, x = kHashFileName := fun x hx => (isHashTxt_ok_iff.1 (hall x hx)).1
    obtain rfl := names_eq_singleton nodup hne hname
    exact ⟨rfl, (isHashTxt_ok_iff.1 (hall _ List.mem_cons_self)).2⟩
  · rintro ⟨rfl, hfile⟩
    refine ⟨List.cons_ne_nil _ _, fun x hx => ?_⟩
    obtain rfl := List.mem_singleton.1 hx
    exact isHashTxt_ok_iff.2 ⟨rfl, hfile⟩

theorem isWhitelistedTopLevelEntry_ok_iff :
    isWhitelistedTopLevelEntry links mountPoint name entry = .ok () ↔
      AcceptedEntry links mountPoint name entry := by
  unfold isWhitelistedTopLevelEntry AcceptedEntry
  by_cases hlost : name = kLostFoundFolderName
  · subst hlost
    have hetc : kLostFoundFolderName ≠ kEtcFolderName := by decide
    have hmanifest : kLostFoundFolderName ≠ kApexManifestFileName := by decide
    rw [if_pos rfl, bind_unit_eq_ok, ← isEmpty_iff]
    simp only [scanned_ok_iff, true_and, hetc, hmanifest, false_and, or_false]
    constructor
    · rintro ⟨empty, hempty, h⟩
      split at h
      · rename_i he
        rwa [he] at hempty
      · cases h
    · intro hempty
      exact ⟨true, hempty, rfl⟩
  rw [if_neg hlost]
  by_cases hetc : name = kEtcFolderName
  · subst hetc
    have hmanifest : kEtcFolderName ≠ kApexManifestFileName := by decide
    simp only [if_true, bind_unit_eq_ok, scanned_ok_iff, true_and, hlost, hmanifest, false_and,
      false_or, or_false]
    unfold isEmpty directoryIterator
    cases entry.followed links (join mountPoint kEtcFolderName) with
    | error ec => simp
    | ok node =>
      cases node with
      | file perms content => simp
      | symlink target => simp
      | dir perms names nodup child =>
        constructor
        · rintro ⟨iter, hiter, empty, hempty, h⟩
          cases hiter
          cases hempty
          split at h
          · cases h
          · rename_i hne
            rw [forM_ok_iff, List.forall_mem_map] at h
            obtain ⟨rfl, hfile⟩ := (hashTxt_only_iff nodup).1 ⟨by simpa using hne, h⟩
            exact ⟨perms, nodup, child, rfl, hfile⟩
        · rintro ⟨perms', nodup', child', heq, hfile⟩
          cases heq
          refine ⟨_, rfl, _, rfl, ?_⟩
          rw [if_neg (by decide), forM_ok_iff, List.forall_mem_map]
          exact ((hashTxt_only_iff nodup).2 ⟨rfl, hfile⟩).2
  rw [if_neg hetc]
  by_cases hmanifest : name = kApexManifestFileName
  · subst hmanifest
    rw [if_pos rfl, isRegularFile_ok_iff]
    simp [hlost, hetc]
  · rw [if_neg hmanifest]
    simp [hlost, hetc, hmanifest]

/-- **What `ValidateShimApex` accepts.** -/
theorem validateShimApex_ok_iff {perms : Nat} {names : List String} {nodup : names.Nodup}
    {child : String → FsTree} {manifest : ApexManifest} :
    validateShimApex links mountPoint (.dir perms names nodup child) manifest = .ok () ↔
      manifest.preInstallHook = "" ∧ manifest.postInstallHook = "" ∧
        ∀ name ∈ names, AcceptedEntry links mountPoint name (child name) := by
  unfold validateShimApex
  split
  · rename_i hhook
    refine iff_of_false nofun ?_
    rintro ⟨hpre, hpost, -⟩
    rcases hhook with h | h
    · exact h hpre
    · exact h hpost
  · rename_i hhook
    rw [not_or, not_not, not_not] at hhook
    change (scanned mountPoint (.ok (names.map fun name => (name, child name))) >>= _) = _ ↔ _
    rw [bind_unit_eq_ok]
    simp only [scanned_ok_iff, Except.ok.injEq, exists_eq_left', forM_ok_iff, List.forall_mem_map,
      isWhitelistedTopLevelEntry_ok_iff, hhook, true_and]

/-! ## When it is no more than a shim may hold -/

/-- Nothing is hidden behind a link, and `lost+found` is no file. -/
def Undisguised (name : String) (entry : FsTree) : Prop :=
  (∀ target, entry ≠ .symlink target) ∧
  (name = kLostFoundFolderName → ∀ perms content, entry ≠ .file perms content) ∧
  (name = kEtcFolderName → ∀ perms names nodup child, entry = .dir perms names nodup child →
    ∀ target, child kHashFileName ≠ .symlink target)

theorem followed_of_not_symlink (h : ∀ target, entry ≠ .symlink target) :
    entry.followed links path = .ok entry := by
  cases entry with
  | symlink target => exact absurd rfl (h target)
  | file perms content => rfl
  | dir perms names nodup child => rfl

theorem shimEntry_iff : ShimEntry name entry ↔ AcceptedEntry links mountPoint name entry ∧
    Undisguised name entry := by
  constructor
  · rintro (⟨rfl, perms, nodup, child, rfl⟩ | ⟨rfl, perms, nodup, child, filePerms, content, rfl,
      hchild, hexec⟩ | ⟨rfl, perms, content, rfl, hexec⟩)
    · refine ⟨Or.inl ⟨rfl, Or.inl ⟨perms, nodup, child, rfl⟩⟩, nofun, fun _ => nofun,
        fun h => absurd h (by decide)⟩
    · refine ⟨Or.inr (Or.inl ⟨rfl, perms, nodup, child, rfl, filePerms, content, ?_, hexec⟩), nofun,
        fun _ => nofun, ?_⟩
      · rw [hchild]
        rfl
      · rintro _ _ _ _ _ ⟨⟩ target
        rw [hchild]
        nofun
    · exact ⟨Or.inr (Or.inr ⟨rfl, perms, content, rfl, hexec⟩), nofun,
        fun h => absurd h (by decide), fun _ => nofun⟩
  · rintro ⟨haccepted, hlink, hfile, hhash⟩
    unfold AcceptedEntry LeadsToFile at haccepted
    rw [followed_of_not_symlink hlink] at haccepted
    obtain ⟨rfl, h | h⟩ | ⟨rfl, perms, nodup, child, heq, filePerms, content, hchild, hexec⟩ |
      ⟨rfl, perms, content, heq, hexec⟩ := haccepted
    · obtain ⟨perms, nodup, child, heq⟩ := h
      exact Or.inl ⟨rfl, perms, nodup, child, Except.ok.inj heq⟩
    · obtain ⟨perms, heq⟩ := h
      exact absurd (Except.ok.inj heq) (hfile rfl perms [])
    · have hdir := Except.ok.inj heq
      rw [followed_of_not_symlink (hhash rfl perms _ nodup child hdir)] at hchild
      exact Or.inr (Or.inl ⟨rfl, perms, nodup, child, filePerms, content, hdir,
        Except.ok.inj hchild, hexec⟩)
    · exact Or.inr (Or.inr ⟨rfl, perms, content, Except.ok.inj heq, hexec⟩)

end Accepts

/-- **Exactly when `ValidateShimApex` accepts no more and no less than a shim image**: a hook is
set, or an entry does not belong into one whatever its links lead to, or no entry is disguised. -/
theorem validateShimApex_exact_iff (links : Links) (mountPoint : String) (perms : Nat)
    (names : List String)
    (nodup : names.Nodup) (child : String → FsTree) (manifest : ApexManifest) :
    (validateShimApex links mountPoint (.dir perms names nodup child) manifest = .ok () ↔
      ShimImage names child manifest) ↔
      manifest.preInstallHook ≠ "" ∨ manifest.postInstallHook ≠ "" ∨
        (∃ name ∈ names, ¬ AcceptedEntry links mountPoint name (child name)) ∨
        ∀ name ∈ names, Undisguised name (child name) := by
  rw [validateShimApex_ok_iff]
  unfold ShimImage
  by_cases hpre : manifest.preInstallHook = ""
  swap
  · simp [hpre]
  by_cases hpost : manifest.postInstallHook = ""
  swap
  · simp [hpost]
  by_cases haccepted : ∀ name ∈ names, AcceptedEntry links mountPoint name (child name)
  · have hshim : (∀ name ∈ names, ShimEntry name (child name)) ↔ ∀ name ∈ names,
      Undisguised name (child name) :=
      forall₂_congr fun name hname => by
        have hiff : _ ↔ AcceptedEntry links mountPoint name (child name) ∧ _ := shimEntry_iff
        rw [hiff, and_iff_right (haccepted name hname)]
    have hnone : ¬ ∃ name ∈ names, ¬ AcceptedEntry links mountPoint name (child name) :=
        fun ⟨name, hname, hnot⟩ =>
      hnot (haccepted name hname)
    simp only [hpre, hpost, true_and, ne_eq, not_true_eq_false, false_or, hnone, hshim,
      iff_true_left haccepted]
  · have hnot : ¬ ∀ name ∈ names, ShimEntry name (child name) := fun h =>
      haccepted fun name hname =>
      (shimEntry_iff.1 (h name hname)).1
    have hsome : ∃ name ∈ names, ¬ AcceptedEntry links mountPoint name (child name) := by
      simpa only [not_forall, exists_prop] using haccepted
    simp only [hpre, hpost, true_and, haccepted, hnot, hsome, true_or, or_true]

/-- A shim image with a plain manifest. -/
theorem validateShimApex_exact_iff_plain :
    (validateShimApex (fun _ _ => .error .enoent) "/apex/com.android.apex.cts.shim@2"
        (.dir 0o755 [kApexManifestFileName] (by simp) fun _ => .file 0o644 [0x7b, 0x7d])
        (shimManifest 2 version_two) = .ok () ↔
      ShimImage [kApexManifestFileName] (fun _ => .file 0o644 [0x7b, 0x7d])
        (shimManifest 2 version_two)) :=
  (validateShimApex_exact_iff _ _ 0o755 [kApexManifestFileName] (by simp) _
    (shimManifest 2 version_two)).2 (Or.inr (Or.inr (Or.inr fun _ hname =>
      ⟨nofun, fun hlost => absurd ((List.mem_singleton.1 hname).symm.trans hlost) (by decide),
        fun _ => nofun⟩)))

/-- A manifest that is a link to a file elsewhere. -/
def linkedManifest : FsTree := .symlink "/data/local/tmp/manifest"

theorem validateShimApex_linkedManifest :
    validateShimApex (fun _ _ => .ok (.file 0o644 [0x7b, 0x7d])) "/apex/com.android.apex.cts.shim@2"
        (.dir 0o755 [kApexManifestFileName] (by simp) fun _ => linkedManifest)
        (shimManifest 2 version_two) = .ok () ∧
      ¬ ShimImage [kApexManifestFileName] (fun _ => linkedManifest)
        (shimManifest 2 version_two) := by
  constructor
  · rfl
  · rintro ⟨-, -, h⟩
    obtain ⟨hname, -⟩ | ⟨hname, -⟩ | ⟨-, perms, content, heq, -⟩ := h _ List.mem_cons_self
    · exact absurd hname (by decide)
    · exact absurd hname (by decide)
    · cases heq

end Apexd.Shim
