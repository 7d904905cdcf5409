import Apexd.Database
import Mathlib.Data.List.Perm.Basic

/-!
# Directories, mounts and devices

The state apexd works on: the directories it names, the mount table, the loop and dm-verity
devices, and its own memory (the database of mounted packages and the checkpoint flags).

* `Dir` — a directory; entry names are distinct and hold no slash, by construction.
* `World` — `dirs` maps a directory's path to its content.  A file is named by its full path
  and found by taking the path apart at its last slash.
* The operations (`unlink`, `link`, `mkdir`, `rename`, `mount`, …) are what the system calls of
  the same names do; each fails only for a reason visible in the state and then changes nothing.
-/

set_option autoImplicit false

namespace Apexd

open Text

/-- What `ApexFile::Open` and the checks on a package read from a `.apex` file: its manifest, the
place of the image and the bundled key; the outcome of `VerifyApexVerity`; the manifest inside
the image, the outcome of the shim scan of the image and the lines of its `etc/hash.txt`; and the
SHA-512 of the file.  `intact` says that every block of the image can be read through
dm-verity. -/
structure ApexContent where
  manifest : ApexManifest
  imageOffset : Int
  imageSize : Nat
  pubkey : List UInt8
  verity : Except String ApexVerityData
  intact : Bool
  payloadManifest : Option ApexManifest
  shimScan : Except String Unit
  hashTxt : Option (List String)
  sha512 : String
  deriving DecidableEq

/-- The content of a regular file. -/
inductive Content where
  | apex (a : ApexContent)
  | manifest (m : ApexManifest)
  | bytes (b : List UInt8)
  deriving DecidableEq

/-- A regular file; hard links share it. -/
structure File where
  ino : Nat
  content : Content
  deriving DecidableEq

inductive Node where
  | file (f : File)
  | dir
  deriving DecidableEq

def Node.file? : Node → Option File
  | .file f => some f
  | .dir => none

structure Dir where
  mode : Nat
  entries : List (String × Node)
  nodup : (entries.map Prod.fst).Nodup
  noSlash : ∀ e ∈ entries, NoSlash e.1

namespace Dir

def empty (mode : Nat) : Dir := ⟨mode, [], List.nodup_nil, by simp⟩

def lookup (d : Dir) (n : String) : Option Node := d.entries.lookup n

/-- The regular files of a directory, by name. -/
def files (d : Dir) : List (String × File) :=
  d.entries.filterMap fun e => e.2.file?.map fun f => (e.1, f)

def erase (d : Dir) (n : String) : Dir where
  mode := d.mode
  entries := d.entries.filter fun e => e.1 != n
  nodup := d.nodup.sublist (List.filter_sublist.map _)
  noSlash := fun e he => d.noSlash e (List.mem_filter.1 he).1

/-- Take a subdirectory out. -/
def eraseDir (d : Dir) (n : String) : Dir where
  mode := d.mode
  entries := d.entries.filter fun e => !(e.1 == n && e.2.file?.isNone)
  nodup := d.nodup.sublist (List.filter_sublist.map _)
  noSlash := fun e he => d.noSlash e (List.mem_filter.1 he).1

/-- Add or replace an entry. -/
def insert (d : Dir) (n : String) (h : NoSlash n) (x : Node) : Dir where
  mode := d.mode
  entries := (n, x) :: (d.erase n).entries
  nodup := by
    refine List.nodup_cons.2 ⟨?_, (d.erase n).nodup⟩
    simp [erase]
  noSlash := by
    intro e he
    rcases List.mem_cons.1 he with rfl | he
    · exact h
    · exact (d.erase n).noSlash e he

def chmod (d : Dir) (mode : Nat) : Dir := { d with mode := mode }

theorem lookup_eq_some {d : Dir} {n : String} {x : Node} :
    d.lookup n = some x ↔ (n, x) ∈ d.entries := by
  unfold lookup
  have hn := d.nodup
  generalize d.entries = l at hn
  induction l with
  | nil => simp
  | cons e l ih =>
    obtain ⟨m, y⟩ := e
    simp only [List.map_cons, List.nodup_cons] at hn
    rw [List.lookup_cons]
    by_cases h : n = m
    · subst h
      simp only [beq_self_eq_true, List.mem_cons, Prod.mk.injEq, true_and]
      constructor
      · rintro h; exact Or.inl (Option.some.inj h).symm
      · rintro (rfl | h)
        · rfl
        · exact absurd (List.mem_map_of_mem (f := Prod.fst) h) hn.1
    · rw [beq_eq_false_iff_ne.2 h]
      simp [h, ih hn.2]

theorem lookup_eq_none {d : Dir} {n : String} : d.lookup n = none ↔ ∀ e ∈ d.entries, e.1 ≠ n := by
  rw [Option.eq_none_iff_forall_not_mem]
  constructor
  · rintro h ⟨m, x⟩ he rfl
    exact h x (lookup_eq_some.2 he)
  · intro h x hx
    exact h _ (lookup_eq_some.1 hx) rfl

theorem mem_erase {d : Dir} {n : String} {e : String × Node} :
    e ∈ (d.erase n).entries ↔ e ∈ d.entries ∧ e.1 ≠ n := by
  simp [erase]

theorem mem_insert {d : Dir} {n : String} {h : NoSlash n} {x : Node} {e : String × Node} :
    e ∈ (d.insert n h x).entries ↔ e = (n, x) ∨ e ∈ d.entries ∧ e.1 ≠ n := by
  simp [insert, erase]

/-- An entry and what is left without it. -/
theorem perm_erase {d : Dir} {n : String} {x : Node} (h : (n, x) ∈ d.entries) :
    d.entries.Perm ((n, x) :: (d.erase n).entries) := by
  refine (List.perm_ext_iff_of_nodup d.nodup.of_map ?_).2 fun e => ?_
  · refine List.nodup_cons.2 ⟨fun hm => (mem_erase.1 hm).2 rfl, ?_⟩
    exact (d.erase n).nodup.of_map
  · rw [List.mem_cons, mem_erase]
    constructor
    · intro he
      by_cases hn : e.1 = n
      · have hl := lookup_eq_some.2 h
        have he' : d.lookup e.1 = some e.2 := lookup_eq_some.2 he
        rw [← hn, he'] at hl
        exact Or.inl (Prod.ext hn (Option.some.inj hl))
      · exact Or.inr ⟨he, hn⟩
    · rintro (rfl | he)
      · exact h
      · exact he.1

theorem erase_sublist (d : Dir) (n : String) : (d.erase n).entries.Sublist d.entries :=
  List.filter_sublist

@[simp] theorem erase_mode (d : Dir) (n : String) : (d.erase n).mode = d.mode := rfl

theorem mem_files {d : Dir} {n : String} {f : File} :
    (n, f) ∈ d.files ↔ (n, Node.file f) ∈ d.entries := by
  unfold files
  rw [List.mem_filterMap]
  constructor
  · rintro ⟨⟨m, x⟩, he, hx⟩
    cases x with
    | file g =>
      simp only [Node.file?, Option.map_some, Option.some.injEq, Prod.mk.injEq] at hx
      rw [← hx.1, ← hx.2]
      exact he
    | dir => simp [Node.file?] at hx
  · intro h
    exact ⟨_, h, rfl⟩

end Dir

/-! ## Devices and mounts -/

/-- A bound loop device.  `autoclear` is set by a `LOOP_CLR_FD` that came while it was in use. -/
structure Loop where
  device : String
  backing : String
  file : File
  offset : Int
  sizeLimit : Nat
  id : String
  autoclear : Bool

def loopName (n : Nat) : String := "/dev/block/loop" ++ toString n

/-- A dm-verity device over a loop device. -/
structure DmDevice where
  name : String
  path : String
  slave : String

def dmPath (n : Nat) : String := "/dev/block/dm-" ++ toString n

/-- What is mounted: the image in a package file, or a directory bound elsewhere. -/
inductive Root where
  | image (f : File)
  | dir (path : String)

/-- A line of the mount table.  `block` is the device it is reported with, `loop` the loop device
under it, if any, and `source` the directory a bind mount was made from. -/
structure Mount where
  mountPoint : String
  block : String
  loop : Option String
  root : Root
  source : Option String

/-- The device reported for a directory that is not on a mounted package. -/
def kRootBlock : String := "/dev/root"

structure World where
  dirs : String → Option Dir
  mounts : List Mount
  loops : List Loop
  dms : List DmDevice
  db : Db
  supportsFsCheckpoints : Bool
  inFsCheckpointMode : Bool

/-- A freshly booted device that holds just these directories. -/
def World.ofDirs (l : List (String × Dir)) : World where
  dirs p := l.lookup p
  mounts := []
  loops := []
  dms := []
  db := []
  supportsFsCheckpoints := false
  inFsCheckpointMode := false

structure Stat where
  isDir : Bool
  mode : Nat
  deriving DecidableEq

structure DirEntry where
  path : String
  isRegularFile : Bool
  isDirectory : Bool
  deriving DecidableEq

namespace World

def setDir (w : World) (p : String) (d : Option Dir) : World :=
  { w with dirs := fun q => if q = p then d else w.dirs q }

@[simp] theorem setDir_self (w : World) (p : String) (d : Option Dir) :
    (w.setDir p d).dirs p = d := by simp [setDir]

theorem setDir_other (w : World) {p q : String} (d : Option Dir) (h : q ≠ p) :
    (w.setDir p d).dirs q = w.dirs q := by simp [setDir, h]

theorem setDir_setDir (w : World) (p : String) (a b : Option Dir) :
    (w.setDir p a).setDir p b = w.setDir p b := by
  unfold setDir
  simp only [World.mk.injEq, and_self, and_true]
  funext q
  by_cases h : q = p <;> simp [h]

theorem setDir_same {w : World} {p : String} {d : Option Dir} (h : w.dirs p = d) :
    w.setDir p d = w := by
  subst h
  unfold setDir
  have : (fun q => if q = p then w.dirs p else w.dirs q) = w.dirs := by
    funext q
    by_cases h : q = p <;> simp [h]
  rw [this]

@[simp] theorem setDir_db (w : World) (p : String) (d : Option Dir) :
    (w.setDir p d).db = w.db := rfl
@[simp] theorem setDir_mounts (w : World) (p : String) (d : Option Dir) :
    (w.setDir p d).mounts = w.mounts := rfl
@[simp] theorem setDir_loops (w : World) (p : String) (d : Option Dir) :
    (w.setDir p d).loops = w.loops := rfl
@[simp] theorem setDir_dms (w : World) (p : String) (d : Option Dir) :
    (w.setDir p d).dms = w.dms := rfl
@[simp] theorem setDir_supports (w : World) (p : String) (d : Option Dir) :
    (w.setDir p d).supportsFsCheckpoints = w.supportsFsCheckpoints := rfl
@[simp] theorem setDir_inMode (w : World) (p : String) (d : Option Dir) :
    (w.setDir p d).inFsCheckpointMode = w.inFsCheckpointMode := rfl

/-- Nothing but directories has changed. -/
def OnlyDirs (w w' : World) : Prop := w' = { w with dirs := w'.dirs }

theorem OnlyDirs.refl (w : World) : w.OnlyDirs w := rfl

theorem OnlyDirs.trans {w w' w'' : World} (h : w.OnlyDirs w') (h' : w'.OnlyDirs w'') :
    w.OnlyDirs w'' := by
  unfold OnlyDirs at *
  rw [h', h]

theorem OnlyDirs.mounts {w w' : World} (h : w.OnlyDirs w') : w'.mounts = w.mounts := by rw [h]

theorem OnlyDirs.inMode {w w' : World} (h : w.OnlyDirs w') :
    w'.inFsCheckpointMode = w.inFsCheckpointMode := by rw [h]

theorem setDir_onlyDirs (w : World) (p : String) (d : Option Dir) : w.OnlyDirs (w.setDir p d) := rfl

/-- The entry a path names in its directory. -/
def node? (w : World) (p : String) : Option Node :=
  (w.dirs (dirName p)).bind fun d => d.lookup (baseName p)

/-- The regular file a path names. -/
def file? (w : World) (p : String) : Option File := (w.node? p).bind Node.file?

theorem node?_setDir_other (w : World) {p q : String} (d : Option Dir) (h : dirName q ≠ p) :
    (w.setDir p d).node? q = w.node? q := by
  unfold node?
  rw [setDir_other w d h]

theorem file?_setDir_other (w : World) {p q : String} (d : Option Dir) (h : dirName q ≠ p) :
    (w.setDir p d).file? q = w.file? q := by
  unfold file?
  rw [node?_setDir_other w d h]

/-- A file in the directory that names it. -/
theorem file?_join {w : World} {p n : String} (hn : NoSlash n) :
    w.file? (join p n) = (w.dirs p).bind fun d => (d.lookup n).bind Node.file? := by
  unfold file? node?
  rw [dirName_join hn, baseName_join hn]
  cases w.dirs p <;> rfl

/-- The topmost mount at a path. -/
def mounted (w : World) (p : String) : Option Mount := w.mounts.find? fun m => m.mountPoint == p

/-- All mounts are below `/apex`. -/
def DataUnmounted (w : World) : Prop := ∀ m ∈ w.mounts, startsWith m.mountPoint kApexRoot = true

theorem DataUnmounted.mounted {w : World} (h : w.DataUnmounted) {p : String}
    (hp : startsWith p kApexRoot = false) : w.mounted p = none := by
  unfold World.mounted
  rw [List.find?_eq_none]
  intro m hm he
  rw [← eq_of_beq he, h m hm] at hp
  cases hp

theorem DataUnmounted.onlyDirs {w w' : World} (h : w.DataUnmounted) (hd : w.OnlyDirs w') :
    w'.DataUnmounted := by
  unfold DataUnmounted
  rw [hd.mounts]
  exact h

def stat (w : World) (p : String) : Except Errno Stat :=
  match w.mounted p, w.dirs p, w.file? p with
  | some _, _, _ => .ok ⟨true, 0o755⟩
  | none, some d, _ => .ok ⟨true, d.mode⟩
  | none, none, some _ => .ok ⟨false, 0o644⟩
  | none, none, none => .error .enoent

/-- An entry as `readdir` shows it. -/
def dirEntry (p : String) (e : String × Node) : DirEntry :=
  ⟨join p e.1, e.2.file?.isSome, e.2.file?.isNone⟩

/-- `isFlattenedApex` and the two ways of `ApexFile::Open`. -/
def openApex (w : World) (p : String) : Except String ApexFile :=
  match w.file? (join p kManifestFilename) with
  | some ⟨_, .manifest m⟩ =>
    let pubkey := match w.file? (join p kBundledPublicKeyFilename) with
      | some ⟨_, .bytes b⟩ => b
      | _ => []
    .ok ⟨p, true, 0, 0, m, pubkey⟩
  | some _ => .error "Failed to parse APEX Manifest JSON config"
  | none =>
    match w.file? p with
    | some ⟨_, .apex a⟩ => .ok ⟨p, false, a.imageOffset, a.imageSize, a.manifest, a.pubkey⟩
    | _ => .error ("Failed to open package " ++ p)

/-- Opening reads files only. -/
theorem openApex_of_files {w w' : World} (h : ∀ q, w'.file? q = w.file? q) (p : String) :
    w'.openApex p = w.openApex p := by
  unfold openApex
  simp only [h]

/-- An opened package knows its path. -/
theorem openApex_path {w : World} {p : String} {apex : ApexFile} (h : w.openApex p = .ok apex) :
    apex.path = p := by
  unfold openApex at h
  split at h
  · cases h; rfl
  · cases h
  · split at h
    · cases h; rfl
    · cases h

/-- The paths are in normal form and the packages there have plain names.  The world looks paths up
as texts, which is what the system does with these and with the ones made from the names. -/
structure Spelled (w : World) (paths : List String) : Prop where
  normal : ∀ p ∈ paths, Normal p
  plain : ∀ p ∈ paths, ∀ apex, w.openApex p = .ok apex → Plain apex.manifest.name

instance (w : World) (paths : List String) : Decidable (w.Spelled paths) :=
  decidable_of_iff (∀ p ∈ paths, Normal p ∧ ∀ apex ∈ (w.openApex p).toOption,
      Plain apex.manifest.name) <| by
    have hok : ∀ p (apex : ApexFile), apex ∈ (w.openApex p).toOption ↔ w.openApex p = .ok apex := by
      intro p apex
      cases w.openApex p <;> simp [Except.toOption]
    simp only [hok]
    exact ⟨fun h => ⟨fun p hp => (h p hp).1, fun p hp => (h p hp).2⟩,
      fun h p hp => ⟨h.normal p hp, h.plain p hp⟩⟩

/-- The package content of the file at a path. -/
def content? (w : World) (p : String) : Option ApexContent :=
  match w.file? p with
  | some ⟨_, .apex a⟩ => some a
  | _ => none

/-- The package content of the image mounted at a path. -/
def mountedContent? (w : World) (p : String) : Option ApexContent :=
  match w.mounted p with
  | some ⟨_, _, _, .image ⟨_, .apex a⟩, _⟩ => some a
  | _ => none

/-! ## System calls -/

def mkdir (w : World) (p : String) (mode : Nat) : Except Errno Unit × World :=
  if (w.dirs p).isSome then (.error .eexist, w) else
  if (w.mounted (dirName p)).isSome then (.error .eacces, w) else
  match w.dirs (dirName p) with
  | none => (.error .enoent, w)
  | some parent =>
    match parent.lookup (baseName p) with
    | some _ => (.error .eexist, w)
    | none =>
      (.ok (), (w.setDir (dirName p)
        (some (parent.insert (baseName p) (noSlash_baseName p) .dir))).setDir
        p (some (Dir.empty mode)))

def chmod (w : World) (p : String) (mode : Nat) : Except Errno Unit × World :=
  match w.dirs p with
  | none => (.error .enoent, w)
  | some d => (.ok (), w.setDir p (some (d.chmod mode)))

/-- Remove a directory from the table and from its parent. -/
def dropDir (w : World) (p : String) : World :=
  match w.dirs (dirName p) with
  | none => w.setDir p none
  | some parent => (w.setDir (dirName p) (some (parent.eraseDir (baseName p)))).setDir p none

def rmdir (w : World) (p : String) : Except Errno Unit × World :=
  if (w.mounted p).isSome then (.error .ebusy, w) else
  match w.dirs p with
  | none => (.error .enoent, w)
  | some d => if d.entries.isEmpty then (.ok (), w.dropDir p) else (.error .enotempty, w)

theorem dropDir_other (w : World) {p q : String} (h : q ≠ p) (h' : q ≠ dirName p) :
    (w.dropDir p).dirs q = w.dirs q := by
  unfold dropDir
  split <;> simp [setDir, h, h']

@[simp] theorem dropDir_self (w : World) (p : String) : (w.dropDir p).dirs p = none := by
  unfold dropDir
  split <;> simp

/-- Taking a directory out of its parent does not touch the files there. -/
theorem dropDir_file? (w : World) {p : String} (hp : p ≠ dirName p) (hf : w.file? p = none) :
    (w.dropDir p).file? p = none := by
  unfold file? node? dropDir at *
  cases hd : w.dirs (dirName p) with
  | none => simp [setDir, hd, hp.symm]
  | some parent =>
    rw [hd] at hf
    simp only [setDir_other _ _ hp.symm, setDir_self, Option.bind_some] at hf ⊢
    rw [Option.bind_eq_none_iff] at hf ⊢
    intro x hx
    have hm := List.mem_filter.1 (Dir.lookup_eq_some.1 hx)
    exact hf x (Dir.lookup_eq_some.2 hm.1)

theorem dropDir_onlyDirs (w : World) (p : String) : w.OnlyDirs (w.dropDir p) := by
  unfold dropDir
  split <;> rfl

def unlink (w : World) (p : String) : Except Errno Unit × World :=
  match w.dirs (dirName p) with
  | none => (.error .enoent, w)
  | some d =>
    match d.lookup (baseName p) with
    | none => (.error .enoent, w)
    | some .dir => (.error .eisdir, w)
    | some (.file _) => (.ok (), w.setDir (dirName p) (some (d.erase (baseName p))))

/-- Put a file under a path, in a directory that exists. -/
def putFile (w : World) (p : String) (d : Dir) (f : File) : World :=
  w.setDir (dirName p) (some (d.insert (baseName p) (noSlash_baseName p) (.file f)))

def link (w : World) (src dst : String) : Except Errno Unit × World :=
  match w.file? src, w.dirs (dirName dst) with
  | none, _ => (.error .enoent, w)
  | some _, none => (.error .enoent, w)
  | some f, some d =>
    match d.lookup (baseName dst) with
    | some _ => (.error .eexist, w)
    | none => (.ok (), w.putFile dst d f)

/-- `rename` of a directory onto an empty one. -/
def rename (w : World) (src dst : String) : Except Errno Unit × World :=
  match w.dirs src with
  | none => (.error .enoent, w)
  | some d =>
    match w.dirs dst with
    | none => (.error .enoent, w)
    | some e => if e.entries.isEmpty then (.ok (), (w.dropDir src).setDir dst (some d))
      else (.error .enotempty, w)

/-- `std::filesystem::remove_all`: nothing to do for a path that does not exist. -/
def removeAll (w : World) (p : String) : World :=
  match w.dirs p with
  | none => w
  | some _ => w.dropDir p

/-- Rewrite a file in place, or create it, as `std::ios::trunc` does. -/
def writeFile (w : World) (p : String) (b : List UInt8) : Bool × World :=
  match w.dirs (dirName p) with
  | none => (false, w)
  | some d =>
    match d.lookup (baseName p) with
    | some .dir => (false, w)
    | some (.file f) => (true, w.putFile p d ⟨f.ino, .bytes b⟩)
    | none => (true, w.putFile p d ⟨0, .bytes b⟩)

@[simp] theorem putFile_mounts (w : World) (p : String) (d : Dir) (f : File) :
    (w.putFile p d f).mounts = w.mounts := rfl

def readFile (w : World) (p : String) : Option (List UInt8) :=
  match w.file? p with
  | some ⟨_, .bytes b⟩ => some b
  | _ => none

/-- Some mount or dm device stands on a loop device. -/
def loopHeld (w : World) (device : String) : Prop :=
  (∃ m ∈ w.mounts, m.loop = some device) ∨ ∃ d ∈ w.dms, d.slave = device

instance (w : World) (device : String) : Decidable (w.loopHeld device) :=
  inferInstanceAs (Decidable (_ ∨ _))

/-- A loop device is in use while it is bound or something stands on it. -/
def loopInUse (w : World) (device : String) : Prop :=
  (∃ l ∈ w.loops, l.device = device) ∨ w.loopHeld device

instance (w : World) (device : String) : Decidable (w.loopInUse device) :=
  inferInstanceAs (Decidable (_ ∨ _))

def findLoop (w : World) (device : String) : Option Loop := w.loops.find? fun l =>
    l.device == device

def findDm (w : World) (name : String) : Option DmDevice := w.dms.find? fun d => d.name == name

/-- The last user of a loop device has gone: the ones marked `autoclear` let their file go. -/
def settle (w : World) : World :=
  { w with loops := w.loops.filter fun l => decide (l.autoclear = true → w.loopHeld l.device) }

/-- `LOOP_SET_FD`: busy when another file is bound. -/
def loopSetFd (w : World) (device target : String) : Except Errno Unit × World :=
  match w.findLoop device, w.file? target with
  | some _, _ => (.error .ebusy, w)
  | none, none => (.error .eio, w)
  | none, some f => (.ok (), { w with loops := ⟨device, target, f, 0, 0, "", false⟩ :: w.loops })

def loopSetStatus (w : World) (device : String) (offset : Int) (sizeLimit : Nat) (id : String) :
    Except Errno Unit × World :=
  match w.findLoop device with
  | none => (.error .enxio, w)
  | some _ => (.ok (), { w with loops := w.loops.map fun l =>
      if l.device = device then
        { l with offset := offset, sizeLimit := sizeLimit, id := id } else l })

/-- `LOOP_CLR_FD`: while the device is in use it is only marked `autoclear`. -/
def loopClrFd (w : World) (device : String) : Except Errno Unit × World :=
  match w.findLoop device with
  | none => (.error .enxio, w)
  | some _ => (.ok (), ({ w with loops := w.loops.map fun l =>
      if l.device = device then { l with autoclear := true } else l } : World).settle)

/-- A number whose dm device does not exist. -/
def DmFree (w : World) (n : Nat) : Prop := ∀ d ∈ w.dms, d.path ≠ dmPath n

instance (w : World) (n : Nat) : Decidable (w.DmFree n) := inferInstanceAs (Decidable (∀ _ ∈ _, _))

/-- Create dm device number `n` over a loop device; names are unique. -/
def dmCreate (w : World) (name slave : String) (n : Nat) : Bool × World :=
  match w.findDm name, w.findLoop slave with
  | none, some _ => (true, { w with dms := ⟨name, dmPath n, slave⟩ :: w.dms })
  | _, _ => (false, w)

/-- A dm device that is mounted cannot be deleted. -/
def dmDelete (w : World) (name : String) : Bool × World :=
  match w.findDm name with
  | none => (false, w)
  | some d =>
    if ∃ m ∈ w.mounts, m.block = d.path then (false, w)
    else (true, ({ w with dms := w.dms.filter fun x => x.name != name } : World).settle)

/-- The loop device and the file behind a block device. -/
def blockFile? (w : World) (block : String) : Option (String × File) :=
  match w.findLoop block with
  | some l => some (l.device, l.file)
  | none =>
    match w.dms.find? fun d => d.path == block with
    | none => none
    | some d => (w.findLoop d.slave).map fun l => (l.device, l.file)

@[simp] theorem setDir_mounted (w : World) (p q : String) (d : Option Dir) :
    (w.setDir p d).mounted q = w.mounted q := rfl

theorem unlink_join_file {w : World} {p n : String} {d : Dir} {f : File} (hd : w.dirs p = some d)
    (h : (n, Node.file f) ∈ d.entries) :
    w.unlink (join p n) = (.ok (), w.setDir p (some (d.erase n))) := by
  have hn := d.noSlash _ h
  unfold unlink
  rw [dirName_join hn, baseName_join hn, hd]
  simp only [Dir.lookup_eq_some.2 h]

theorem unlink_join_dir {w : World} {p n : String} {d : Dir} (hd : w.dirs p = some d)
    (h : (n, Node.dir) ∈ d.entries) : w.unlink (join p n) = (.error .eisdir, w) := by
  have hn := d.noSlash _ h
  unfold unlink
  rw [dirName_join hn, baseName_join hn, hd]
  simp only [Dir.lookup_eq_some.2 h]

theorem readFile_setDir_other (w : World) {p q : String} (d : Option Dir) (h : dirName q ≠ p) :
    (w.setDir p d).readFile q = w.readFile q := by
  unfold readFile
  rw [file?_setDir_other w d h]

/-- What `writeFile` can do: nothing, or leave just these bytes under the path. -/
theorem writeFile_cases (w : World) (p : String) (b : List UInt8) :
    w.writeFile p b = (false, w) ∧ w.readFile p = none ∨
      ∃ d d' : Dir, w.dirs (dirName p) = some d ∧
        w.writeFile p b = (true, w.setDir (dirName p) (some d')) ∧
        (w.setDir (dirName p) (some d')).readFile p = some b := by
  have hput : ∀ (d : Dir) (i : Nat), (w.setDir (dirName p)
      (some (d.insert (baseName p) (noSlash_baseName p) (.file ⟨i, .bytes b⟩)))).readFile
          p = some b := by
    intro d i
    have hl : (d.insert (baseName p) (noSlash_baseName p) (.file ⟨i, .bytes b⟩)).lookup
      (baseName p) =
        some (.file ⟨i, .bytes b⟩) := Dir.lookup_eq_some.2 (Dir.mem_insert.2 (Or.inl rfl))
    simp [readFile, file?, node?, hl, Node.file?]
  unfold writeFile
  cases hd : w.dirs (dirName p) with
  | none => exact Or.inl ⟨rfl, by simp [readFile, file?, node?, hd]⟩
  | some d =>
    dsimp only
    cases hl : d.lookup (baseName p) with
    | none => exact Or.inr ⟨d, _, rfl, rfl, hput d 0⟩
    | some x =>
      cases x with
      | dir => exact Or.inl ⟨rfl, by simp [readFile, file?, node?, hd, hl, Node.file?]⟩
      | file f => exact Or.inr ⟨d, _, rfl, rfl, hput d f.ino⟩

/-- Whether a file can be opened for writing does not depend on what is written. -/
theorem writeFile_fst (w : World) (p : String) (b b' : List UInt8) :
    (w.writeFile p b).1 = (w.writeFile p b').1 := by
  unfold writeFile
  cases w.dirs (dirName p) with
  | none => rfl
  | some d =>
    dsimp only
    cases d.lookup (baseName p) with
    | none => rfl
    | some x => cases x <;> rfl

/-- Every file that is there was there before. -/
def FilesShrink (w w' : World) : Prop := ∀ p f, w'.file? p = some f → w.file? p = some f

theorem FilesShrink.refl (w : World) : w.FilesShrink w := fun _ _ h => h

theorem FilesShrink.readFile {w w' : World} (h : w.FilesShrink w') {p : String} {b : List UInt8}
    (hb : w'.readFile p = some b) : w.readFile p = some b := by
  unfold World.readFile at *
  split at hb
  · rename_i i c heq
    rw [h _ _ heq]
    exact hb
  · cases hb

theorem file?_eq_some {w : World} {p : String} {f : File} :
    w.file? p = some f ↔ ∃ d, w.dirs (dirName p) = some d ∧
      (baseName p, Node.file f) ∈ d.entries := by
  unfold file? node?
  constructor
  · intro h
    obtain ⟨x, hx, hf⟩ := Option.bind_eq_some_iff.1 h
    obtain ⟨d, hd, hl⟩ := Option.bind_eq_some_iff.1 hx
    cases x with
    | dir => cases hf
    | file g => cases hf; exact ⟨d, hd, Dir.lookup_eq_some.1 hl⟩
  · rintro ⟨d, hd, hm⟩
    rw [hd, Option.bind_some, Dir.lookup_eq_some.2 hm]
    rfl

/-- What `unlink` can do: nothing, or take one regular file away. -/
theorem unlink_cases (w : World) (p : String) :
    (∃ e, w.unlink p = (.error e, w) ∧ w.file? p = none) ∨
    ∃ (d : Dir) (f : File), w.dirs (dirName p) = some d ∧ (baseName p, Node.file f) ∈ d.entries ∧
      w.unlink p = (.ok (), w.setDir (dirName p) (some (d.erase (baseName p)))) := by
  unfold unlink file? node?
  cases hd : w.dirs (dirName p) with
  | none => exact Or.inl ⟨_, rfl, rfl⟩
  | some d =>
    dsimp only [Option.bind_some]
    cases hl : d.lookup (baseName p) with
    | none => exact Or.inl ⟨_, rfl, rfl⟩
    | some x =>
      cases x with
      | dir => exact Or.inl ⟨_, rfl, rfl⟩
      | file f => exact Or.inr ⟨d, f, rfl, Dir.lookup_eq_some.1 hl, rfl⟩

/-- What `link` can do: nothing, or put the file under a path that was free. -/
theorem link_cases (w : World) (src dst : String) : (∃ e, w.link src dst = (.error e, w)) ∨
    ∃ (f : File) (d : Dir), w.file? src = some f ∧ w.dirs (dirName dst) = some d ∧
      d.lookup (baseName dst) = none ∧ w.link src dst = (.ok (), w.putFile dst d f) := by
  unfold link
  cases hf : w.file? src with
  | none => exact Or.inl ⟨_, rfl⟩
  | some f =>
    cases hd : w.dirs (dirName dst) with
    | none => exact Or.inl ⟨_, rfl⟩
    | some d =>
      dsimp only
      cases hl : d.lookup (baseName dst) with
      | some _ => exact Or.inl ⟨_, rfl⟩
      | none => exact Or.inr ⟨f, d, rfl, rfl, hl, rfl⟩

theorem putFile_file? (w : World) {p : String} (hp : dirName p ≠ "") {d : Dir} (f : File)
    (hd : w.dirs (dirName p) = some d) (q : String) :
    (w.putFile p d f).file? q = if q = p then some f else w.file? q := by
  refine Option.ext fun g => ?_
  unfold putFile
  by_cases hq : dirName q = dirName p
  · rw [file?_eq_some, hq, setDir_self]
    by_cases hb : baseName q = baseName p
    · rw [if_pos (path_ext hq hb hp)]
      simp [Dir.mem_insert, hb, eq_comm]
    · have hne : q ≠ p := by rintro rfl; exact hb rfl
      rw [if_neg hne, file?_eq_some, hq, hd]
      simp [Dir.mem_insert, hb]
  · have hne : q ≠ p := by rintro rfl; exact hq rfl
    rw [if_neg hne, file?_setDir_other _ _ hq]

theorem erase_file? (w : World) {p : String} (hp : dirName p ≠ "") {d : Dir}
    (hd : w.dirs (dirName p) = some d) (q : String) :
    (w.setDir (dirName p) (some (d.erase (baseName p)))).file? q =
      if q = p then none else w.file? q := by
  refine Option.ext fun g => ?_
  by_cases hq : dirName q = dirName p
  · rw [file?_eq_some, hq, setDir_self]
    by_cases hb : baseName q = baseName p
    · rw [if_pos (path_ext hq hb hp)]
      simp [Dir.mem_erase, hb]
    · have hne : q ≠ p := by rintro rfl; exact hb rfl
      rw [if_neg hne, file?_eq_some, hq, hd]
      simp [Dir.mem_erase, hb]
  · have hne : q ≠ p := by rintro rfl; exact hq rfl
    rw [if_neg hne, file?_setDir_other _ _ hq]

theorem filesShrink_setDir {w : World} {p : String} {d' : Option Dir}
    (h : ∀ e, d' = some e → ∀ n f, (n, Node.file f) ∈ e.entries →
      ∃ d, w.dirs p = some d ∧ (n, Node.file f) ∈ d.entries) : w.FilesShrink (w.setDir p d') := by
  intro q f hf
  obtain ⟨e, he, hm⟩ := file?_eq_some.1 hf
  by_cases hq : dirName q = p
  · rw [hq, setDir_self] at he
    obtain ⟨d, hd, hm'⟩ := h e he _ _ hm
    exact file?_eq_some.2 ⟨d, hq ▸ hd, hm'⟩
  · rw [setDir_other _ _ hq] at he
    exact file?_eq_some.2 ⟨e, he, hm⟩

theorem filesShrink_sublist {w : World} {p : String} {d d' : Dir} (hd : w.dirs p = some d)
    (h : d'.entries.Sublist d.entries) : w.FilesShrink (w.setDir p (some d')) := by
  refine filesShrink_setDir ?_
  rintro _ ⟨⟩ n f hm
  exact ⟨d, hd, h.subset hm⟩

theorem filesShrink_dropDir (w : World) (p : String) : w.FilesShrink (w.dropDir p) := by
  unfold dropDir
  split
  · exact filesShrink_setDir fun e he => by cases he
  · rename_i parent hp
    intro q f hf
    have hsub : (parent.eraseDir (baseName p)).entries.Sublist parent.entries := List.filter_sublist
    refine filesShrink_sublist hp hsub q f ?_
    exact filesShrink_setDir (fun e he => by cases he) q f hf

theorem removeAll_onlyDirs (w : World) (p : String) : w.OnlyDirs (w.removeAll p) := by
  unfold removeAll
  split
  · rfl
  · exact dropDir_onlyDirs w p

theorem filesShrink_removeAll (w : World) (p : String) : w.FilesShrink (w.removeAll p) := by
  unfold removeAll
  split
  · exact .refl w
  · exact filesShrink_dropDir w p

/-- What `mkdir` can do: nothing, or make a directory that was not there. -/
theorem mkdir_cases (w : World) (p : String) (mode : Nat) :
    (∃ e, w.mkdir p mode = (.error e, w)) ∨ ∃ parent : Dir, w.dirs p = none ∧
      w.dirs (dirName p) = some parent ∧ parent.lookup (baseName p) = none ∧
      w.mkdir p mode = (.ok (), (w.setDir (dirName p)
        (some (parent.insert (baseName p) (noSlash_baseName p) .dir))).setDir p
          (some (Dir.empty mode))) := by
  unfold mkdir
  split
  · exact Or.inl ⟨_, rfl⟩
  · rename_i hn
    split
    · exact Or.inl ⟨_, rfl⟩
    · cases hd : w.dirs (dirName p) with
      | none => exact Or.inl ⟨_, rfl⟩
      | some parent =>
        cases hl : parent.lookup (baseName p) with
        | some _ => left; simp [hl]
        | none => right; exact ⟨parent, by simpa using hn, rfl, hl, by simp [hl]⟩

theorem mkdir_onlyDirs {w w' : World} {p : String} {mode : Nat} {r : Except Errno Unit}
    (h : (r, w') = w.mkdir p mode) : w.OnlyDirs w' := by
  rcases w.mkdir_cases p mode with ⟨e, he⟩ | ⟨parent, _, _, _, he⟩
  · rw [he] at h; cases h; exact .refl w
  · rw [he] at h; cases h; rfl

theorem filesShrink_mkdir {w w' : World} {p : String} {mode : Nat} {r : Except Errno Unit}
    (h : (r, w') = w.mkdir p mode) : w.FilesShrink w' := by
  rcases w.mkdir_cases p mode with ⟨e, he⟩ | ⟨parent, hn, hd, _, he⟩
  · rw [he] at h; cases h; exact .refl w
  · rw [he] at h
    cases h
    intro q f hf
    have hempty := filesShrink_setDir (fun e he n g hm => (by cases he; cases hm)) q f hf
    refine filesShrink_setDir ?_ q f hempty
    rintro _ ⟨⟩ n g hm
    rcases Dir.mem_insert.1 hm with he | ⟨hm, _⟩
    · cases he
    · exact ⟨parent, hd, hm⟩

/-- A new directory changes no file. -/
theorem mkdir_file? {w w' : World} {p : String} {mode : Nat} {r : Except Errno Unit}
    (h : (r, w') = w.mkdir p mode) (q : String) : w'.file? q = w.file? q := by
  refine Option.ext fun f => ⟨filesShrink_mkdir h q f, fun hf => ?_⟩
  rcases w.mkdir_cases p mode with ⟨e, he⟩ | ⟨parent, hn, hd, hl, he⟩
  · rw [he] at h; cases h; exact hf
  · rw [he] at h
    cases h
    obtain ⟨d, hdq, hm⟩ := file?_eq_some.1 hf
    have hqp : dirName q ≠ p := by
      rintro rfl
      rw [hn] at hdq
      cases hdq
    rw [file?_eq_some]
    by_cases hq : dirName q = dirName p
    · rw [hq, hd] at hdq
      cases hdq
      refine ⟨_, by rw [setDir_other _ _ hqp, hq, setDir_self], Dir.mem_insert.2 (Or.inr ⟨hm, ?_⟩)⟩
      exact Dir.lookup_eq_none.1 hl _ hm
    · exact ⟨d, by rw [setDir_other _ _ hqp, setDir_other _ _ hq, hdq], hm⟩

/-- What `rmdir` can do: nothing, or take an empty directory away. -/
theorem rmdir_cases (w : World) (p : String) :
    (∃ e, w.rmdir p = (.error e, w)) ∨ ∃ d : Dir, w.mounted p = none ∧ w.dirs p = some d ∧
      d.entries = [] ∧ w.rmdir p = (.ok (), w.dropDir p) := by
  unfold rmdir
  split
  · exact Or.inl ⟨_, rfl⟩
  · rename_i hm
    cases hd : w.dirs p with
    | none => exact Or.inl ⟨_, rfl⟩
    | some d =>
      dsimp only
      split
      · rename_i he
        exact Or.inr ⟨d, by simpa using hm, rfl, by simpa using he, rfl⟩
      · exact Or.inl ⟨_, rfl⟩

theorem rmdir_onlyDirs {w w' : World} {p : String} {r : Except Errno Unit}
    (h : (r, w') = w.rmdir p) : w.OnlyDirs w' := by
  rcases w.rmdir_cases p with ⟨e, he⟩ | ⟨d, _, _, _, he⟩
  · rw [he] at h; cases h; exact .refl w
  · rw [he] at h; cases h; exact dropDir_onlyDirs w p

/-- Nor does the removal of an empty one. -/
theorem rmdir_file? {w w' : World} {p : String} {r : Except Errno Unit}
    (h : (r, w') = w.rmdir p) (q : String) : w'.file? q = w.file? q := by
  rcases w.rmdir_cases p with ⟨e, he⟩ | ⟨d, _, hd, hnil, he⟩
  · rw [he] at h; cases h; rfl
  · rw [he] at h
    cases h
    refine Option.ext fun f => ⟨filesShrink_dropDir w p q f, fun hf => ?_⟩
    obtain ⟨d', hdq, hm⟩ := file?_eq_some.1 hf
    have hqp : dirName q ≠ p := by
      rintro rfl
      rw [hd] at hdq
      cases hdq
      rw [hnil] at hm
      cases hm
    rw [file?_eq_some]
    unfold dropDir
    split
    · exact ⟨d', by rw [setDir_other _ _ hqp, hdq], hm⟩
    · rename_i parent hp
      by_cases hq : dirName q = dirName p
      · rw [hq, hp] at hdq
        cases hdq
        refine ⟨_, by rw [setDir_other _ _ hqp, hq, setDir_self], List.mem_filter.2 ⟨hm, ?_⟩⟩
        simp [Node.file?]
      · exact ⟨d', by rw [setDir_other _ _ hqp, setDir_other _ _ hq, hdq], hm⟩

theorem chmod_cases (w : World) (p : String) (mode : Nat) :
    (∃ e, w.chmod p mode = (.error e, w)) ∨ ∃ d, w.dirs p = some d ∧
      w.chmod p mode = (.ok (), w.setDir p (some (d.chmod mode))) := by
  unfold chmod
  cases hd : w.dirs p with
  | none => exact Or.inl ⟨_, rfl⟩
  | some d => exact Or.inr ⟨d, rfl, rfl⟩

theorem chmod_onlyDirs {w w' : World} {p : String} {mode : Nat} {r : Except Errno Unit}
    (h : (r, w') = w.chmod p mode) : w.OnlyDirs w' := by
  rcases w.chmod_cases p mode with ⟨e, he⟩ | ⟨d, _, he⟩ <;> rw [he] at h <;> cases h <;> rfl

theorem filesShrink_chmod {w w' : World} {p : String} {mode : Nat} {r : Except Errno Unit}
    (h : (r, w') = w.chmod p mode) : w.FilesShrink w' := by
  rcases w.chmod_cases p mode with ⟨e, he⟩ | ⟨d, hd, he⟩
  · rw [he] at h; cases h; exact .refl w
  · rw [he] at h; cases h
    exact filesShrink_sublist hd (List.Sublist.refl _)

theorem file?_congr {w w' : World} (h : w'.dirs = w.dirs) (q : String) :
    w'.file? q = w.file? q := by
  unfold file? node?
  rw [h]

/-- A change of mode changes no file. -/
theorem chmod_file? {w w' : World} {p : String} {mode : Nat} {r : Except Errno Unit}
    (h : (r, w') = w.chmod p mode) (q : String) : w'.file? q = w.file? q := by
  rcases w.chmod_cases p mode with ⟨e, he⟩ | ⟨d, hd, he⟩
  · rw [he] at h; cases h; rfl
  · rw [he] at h; cases h
    refine Option.ext fun f => ?_
    rw [file?_eq_some, file?_eq_some]
    by_cases hq : dirName q = p
    · rw [hq, setDir_self, hd]
      constructor
      · rintro ⟨_, ⟨⟩, hm⟩; exact ⟨d, rfl, hm⟩
      · rintro ⟨_, ⟨⟩, hm⟩; exact ⟨_, rfl, hm⟩
    · rw [setDir_other _ _ hq]

theorem unlink_onlyDirs {w w' : World} {p : String} {r : Except Errno Unit}
    (h : (r, w') = w.unlink p) : w.OnlyDirs w' := by
  rcases w.unlink_cases p with ⟨e, he, _⟩ | ⟨d, f, _, _, he⟩ <;> rw [he] at h <;> cases h <;> rfl

theorem link_onlyDirs {w w' : World} {src dst : String} {r : Except Errno Unit}
    (h : (r, w') = w.link src dst) : w.OnlyDirs w' := by
  rcases w.link_cases src dst with ⟨e, he⟩ | ⟨f, d, _, _, _, he⟩ <;> rw [he] at h
    <;> cases h <;> rfl

theorem rename_onlyDirs {w w' : World} {src dst : String} {r : Except Errno Unit}
    (h : (r, w') = w.rename src dst) : w.OnlyDirs w' := by
  unfold rename at h
  split at h
  · cases h
    exact .refl w
  · split at h
    · cases h
      exact .refl w
    · split at h <;> cases h
      · exact (w.dropDir_onlyDirs src).trans (setDir_onlyDirs _ _ _)
      · exact .refl w

theorem writeFile_onlyDirs {w w' : World} {p : String} {b : List UInt8} {r : Bool}
    (h : (r, w') = w.writeFile p b) : w.OnlyDirs w' := by
  rcases w.writeFile_cases p b with ⟨he, _⟩ | ⟨d, d', _, he, _⟩ <;> rw [he] at h <;> cases h <;> rfl

def pushMount (w : World) (m : Mount) : World := { w with mounts := m :: w.mounts }

/-- Mount the image on a block device. -/
def mount (w : World) (block mountPoint : String) : Except Errno Unit × World :=
  match w.dirs mountPoint, w.blockFile? block with
  | none, _ => (.error .enoent, w)
  | some _, none => (.error .einval, w)
  | some _, some (n, f) => (.ok (), w.pushMount ⟨mountPoint, block, some n, .image f, none⟩)

/-- Bind one directory on another; a directory on a mounted package is on that package's device. -/
def bindMount (w : World) (source target : String) : Except Errno Unit × World :=
  match w.dirs target, w.mounted source, w.dirs source with
  | none, _, _ => (.error .enoent, w)
  | some _, some m, _ =>
    (.ok (), w.pushMount ⟨target, m.block, m.loop, m.root, some source⟩)
  | some _, none, some _ =>
    (.ok (), w.pushMount ⟨target, kRootBlock, none, .dir source, some source⟩)
  | some _, none, none => (.error .enoent, w)

/-- `umount2` with `MNT_DETACH`: the topmost mount goes at once, however busy. -/
def umount2 (w : World) (p : String) : Except Errno Unit × World :=
  match w.mounted p with
  | none => (.error (if (w.dirs p).isSome then .einval else .enoent), w)
  | some _ =>
    (.ok (), ({ w with mounts := w.mounts.eraseP fun m => m.mountPoint == p } : World).settle)

/-- Nothing but loop and dm devices has changed. -/
def OnlyDevices (w w' : World) : Prop := w' = { w with loops := w'.loops, dms := w'.dms }

section Devices

variable {w w' : World} {d : String}

theorem loopSetFd_onlyDevices {t : String} {r : Except Errno Unit} (h : (r, w') = w.loopSetFd d t) :
    w.OnlyDevices w' := by
  unfold loopSetFd at h
  split at h <;> cases h <;> rfl

theorem loopSetStatus_onlyDevices {o : Int} {z : Nat} {i : String} {r : Except Errno Unit}
    (h : (r, w') = w.loopSetStatus d o z i) : w.OnlyDevices w' := by
  unfold loopSetStatus at h
  split at h <;> cases h <;> rfl

theorem loopClrFd_onlyDevices {r : Except Errno Unit} (h : (r, w') = w.loopClrFd d) :
    w.OnlyDevices w' := by
  unfold loopClrFd at h
  split at h <;> cases h <;> rfl

theorem dmCreate_onlyDevices {s : String} {n : Nat} {r : Bool} (h : (r, w') = w.dmCreate d s n) :
    w.OnlyDevices w' := by
  unfold dmCreate at h
  split at h <;> cases h <;> rfl

theorem dmDelete_onlyDevices {r : Bool} (h : (r, w') = w.dmDelete d) : w.OnlyDevices w' := by
  unfold dmDelete at h
  split at h
  · cases h; rfl
  · split at h <;> cases h <;> rfl

end Devices

/-- Nothing but mounts has changed, and loop devices they held. -/
def OnlyMounts (w w' : World) : Prop := w' = { w with mounts := w'.mounts, loops := w'.loops }

section Mounts

variable {w w' : World} {p : String} {r : Except Errno Unit}

/-- What `mount` can do: nothing, or put one mount on top. -/
theorem mount_cases (w : World) (b p : String) : (∃ e, w.mount b p = (.error e, w)) ∨
    ∃ n f, (w.dirs p).isSome ∧ w.blockFile? b = some (n, f) ∧
      w.mount b p = (.ok (), w.pushMount ⟨p, b, some n, .image f, none⟩) := by
  unfold mount
  cases hd : w.dirs p with
  | none => exact Or.inl ⟨_, rfl⟩
  | some d =>
    cases hb : w.blockFile? b with
    | none => exact Or.inl ⟨_, rfl⟩
    | some x => exact Or.inr ⟨x.1, x.2, rfl, rfl, rfl⟩

/-- What a bind mount can do: nothing, or put one mount on top. -/
theorem bindMount_cases (w : World) (s p : String) : (∃ e, w.bindMount s p = (.error e, w)) ∨
    ∃ m : Mount, (w.dirs p).isSome ∧ m.mountPoint = p ∧ m.source = some s ∧
      (∀ m', w.mounted s = some m' → m.block = m'.block ∧ m.loop = m'.loop ∧ m.root = m'.root) ∧
      (w.mounted s = none → m.block = kRootBlock ∧ m.loop = none ∧ m.root = .dir s ∧
        (w.dirs s).isSome) ∧
      w.bindMount s p = (.ok (), w.pushMount m) := by
  unfold bindMount
  cases hd : w.dirs p with
  | none => exact Or.inl ⟨_, rfl⟩
  | some d =>
    cases hm : w.mounted s with
    | some m =>
      refine Or.inr ⟨⟨p, m.block, m.loop, m.root, some s⟩, rfl, rfl, rfl, ?_, ?_, rfl⟩
      · rintro _ ⟨⟩
        exact ⟨rfl, rfl, rfl⟩
      · rintro ⟨⟩
    | none =>
      cases hs : w.dirs s with
      | none => exact Or.inl ⟨_, rfl⟩
      | some e =>
        refine Or.inr ⟨⟨p, kRootBlock, none, .dir s, some s⟩, rfl, rfl, rfl, ?_, fun _ => ?_, rfl⟩
        · rintro _ ⟨⟩
        · exact ⟨rfl, rfl, rfl, rfl⟩

/-- What `umount2` can do: nothing, or take the topmost mount away. -/
theorem umount2_cases (w : World) (p : String) :
    (∃ e, w.mounted p = none ∧ w.umount2 p = (.error e, w)) ∨ (w.mounted p).isSome ∧ w.umount2 p =
      (.ok (), ({ w with mounts := w.mounts.eraseP fun m => m.mountPoint == p } :
        World).settle) := by
  unfold umount2
  cases w.mounted p with
  | none => exact Or.inl ⟨_, rfl, rfl⟩
  | some m => exact Or.inr ⟨rfl, rfl⟩

theorem mount_onlyMounts {b : String} (h : (r, w') = w.mount b p) : w.OnlyMounts w' := by
  rcases w.mount_cases b p with ⟨e, he⟩ | ⟨n, f, _, _, he⟩ <;> rw [he] at h <;> cases h <;> rfl

theorem bindMount_onlyMounts {s : String} (h : (r, w') = w.bindMount s p) : w.OnlyMounts w' := by
  rcases w.bindMount_cases s p with ⟨e, he⟩ | ⟨m, _, _, _, _, _, he⟩ <;> rw [he] at h
    <;> cases h <;> rfl

theorem umount2_onlyMounts (h : (r, w') = w.umount2 p) : w.OnlyMounts w' := by
  rcases w.umount2_cases p with ⟨e, _, he⟩ | ⟨_, he⟩ <;> rw [he] at h <;> cases h <;> rfl

end Mounts

/-- What a restart leaves of the state: the disk and the mounts, but not the memory of the
process. -/
def Restart (w w' : World) : Prop :=
  ∃ supports inMode, w' = { w with db := [], supportsFsCheckpoints := supports,
                                   inFsCheckpointMode := inMode }

end World

end Apexd
