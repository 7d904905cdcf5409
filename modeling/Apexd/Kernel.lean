import Apexd.Lib.Prog
import Apexd.World

/-!
# System calls, their outcomes, and the kernel

* `Sys` — what apexd asks of the system: files, packages, loop and dm devices, mounts, its own
  memory and the services it talks to.  `Sys.Res` is the type of the reply.
* `Sys.Normal` — the outcomes without outside trouble: a call fails only for a reason visible in
  the state.  What the system leaves open (the order of a directory, the number of a free loop
  device) is left open.
* `Sys.Refused`, `Sys.Torn` — outside trouble: an error with no effect, and a write or a recursive
  removal that got only part of the way.
* `kernel V F` — normal outcomes and those of the fault model `F`; `V` says what must hold when a
  program logs or aborts.
* `ApexM` — programs over these calls; an error is the message of a failed `Status`.
-/

set_option autoImplicit false

namespace Apexd

open Text Prog

/-- The parameters `createVerityTable` puts into the dm table. -/
structure VerityTable where
  length : Nat
  version : Nat
  device : String
  dataBlockSize : Nat
  hashBlockSize : Nat
  numDataBlocks : Nat
  hashStartBlock : Nat
  hashAlgorithm : String
  rootDigest : String
  salt : String
  restartOnCorruption : Bool
  deriving DecidableEq

/-- What `stat` tells apart: the directory or the image at a path. -/
inductive Inode where
  | image (ino : Nat)
  | dir (path : String)
  | file (ino : Nat)
  deriving DecidableEq

inductive Sys where
  | stat (p : String)
  | access (p : String)
  | readDir (p : String)
  | mkdir (p : String) (mode : Nat)
  | chmod (p : String) (mode : Nat)
  | rmdir (p : String)
  | unlink (p : String)
  | unlinkRetry (p : String)
  | link (src dst : String)
  | rename (src dst : String)
  | removeAll (p : String)
  | readFile (p : String)
  | writeFile (p : String) (b : List UInt8)
  | openApex (p : String)
  | isFlattenedApex (p : String)
  | verifyApexVerity (p : String)
  | readManifest (mountPoint : String)
  | scanShim (mountPoint : String)
  | readSha512 (mountPoint : String)
  | calculateSha512 (p : String)
  | openFile (p : String)
  | openDevice (device : String)
  | loopGetFree
  | loopSetFd (device target : String)
  | loopSetStatus (device : String) (offset : Int) (sizeLimit : Nat) (id : String)
  | loopFlush (device : String)
  | loopSetBlockSize (device : String) (size : Nat)
  | loopSetDirectIo (device : String)
  | loopClrFd (device : String)
  | loopGetStatus (device : String)
  | writeReadAhead (sysfs : String)
  | dmGetState (name : String)
  | dmCreate (name : String) (table : VerityTable)
  | dmDelete (name : String)
  | dmGetPath (name : String)
  | deviceExists (device : String)
  | readVerityDevice (device : String) (size : Nat)
  | mount (block mountPoint : String)
  | bindMount (source target : String)
  | umount2 (p : String)
  | procMounts
  | inodeFor (p : String)
  | sysBackingFile (block : String)
  | sysDmName (block : String)
  | sysSlaves (block : String)
  | getDb
  | setDb (db : Db)
  | abort (msg : String)
  | getFlags
  | startCheckpoint (retries : Nat)
  | forkAndRun (args : List String)
  | log (msg : String)
  | strerror

/-- `gSupportsFsCheckpoints` and `gInFsCheckpointMode`. -/
structure Flags where
  supportsFsCheckpoints : Bool
  inFsCheckpointMode : Bool
  deriving DecidableEq

/-- The reply to a call; there is none to `abort`. -/
@[reducible] def Sys.Res : Sys → Type
  | .stat _ => Except Errno Stat
  | .readDir _ => Except Errno (List DirEntry)
  | .readFile _ => Option (List UInt8)
  | .writeFile _ _ => Bool
  | .openApex _ => Except String ApexFile
  | .isFlattenedApex _ => Bool
  | .verifyApexVerity _ => Except String ApexVerityData
  | .readManifest _ => Except String ApexManifest
  | .scanShim _ => Except String Unit
  | .readSha512 _ => Except String (List String)
  | .calculateSha512 _ => Except String String
  | .loopGetFree => Except Errno Nat
  | .loopGetStatus _ => Except Errno String
  | .dmGetState _ => Bool
  | .dmCreate _ _ => Bool
  | .dmDelete _ => Bool
  | .dmGetPath _ => Option String
  | .deviceExists _ => Except Errno Bool
  | .procMounts => List String
  | .inodeFor _ => Except Errno Inode
  | .sysBackingFile _ => Except Errno String
  | .sysDmName _ => Except Errno String
  | .sysSlaves _ => Except Errno (List String)
  | .getDb => Db
  | .setDb _ => Unit
  | .abort _ => Empty
  | .getFlags => Flags
  | .startCheckpoint _ => Except String Unit
  | .forkAndRun _ => Except String Unit
  | .log _ => Unit
  | .strerror => String
  | _ => Except Errno Unit

/-! ## Queries -/

namespace World

/-- What a directory may be found to hold: its entries in any order; a mounted package is never
empty. -/
def Lists (w : World) (p : String) (r : Except Errno (List DirEntry)) : Prop :=
  match w.mounted p, w.dirs p with
  | some _, _ => ∃ l, r = .ok l ∧ l ≠ [] ∧ ∀ e ∈ l, ∃ n, NoSlash n ∧ e.path = join p n
  | none, none => r = .error (if (w.file? p).isSome then .enotdir else .enoent)
  | none, some d => ∃ es : List (String × Node), es.Perm d.entries ∧ r = .ok (es.map (dirEntry p))

def inodeOf (w : World) (p : String) : Except Errno Inode :=
  match w.mounted p, w.dirs p, w.file? p with
  | some ⟨_, _, _, .image f, _⟩, _, _ => .ok (.image f.ino)
  | some ⟨_, _, _, .dir d, _⟩, _, _ => .ok (.dir d)
  | none, some _, _ => .ok (.dir p)
  | none, none, some f => .ok (.file f.ino)
  | none, none, none => .error .enoent

/-- How `/proc/mounts` writes a path: blanks, tabs, newlines and backslashes in octal. -/
def mangle (s : String) : String := String.ofList (s.toList.flatMap fun
  | ' ' => ['\\', '0', '4', '0']
  | '\t' => ['\\', '0', '1', '1']
  | '\n' => ['\\', '0', '1', '2']
  | '\\' => ['\\', '1', '3', '4']
  | c => [c])

/-- The lines of `/proc/mounts`, in the order of mounting. -/
def procMounts (w : World) : List String :=
  w.mounts.reverse.map fun m => mangle m.block ++ " " ++ mangle m.mountPoint ++ " ext4 ro 0 0"

/-- `/sys/block/<loop>/loop/backing_file`. -/
def backingFile (w : World) (block : String) : Except Errno String :=
  match w.findLoop block with
  | none => .error .enoent
  | some l =>
    if (w.file? l.backing).map File.ino = some l.file.ino then .ok l.backing
    else .ok (l.backing ++ " (deleted)")

def findDmPath (w : World) (block : String) : Option DmDevice := w.dms.find? fun d =>
    d.path == block

def deviceExists (w : World) (device : String) : Bool :=
  (w.findLoop device).isSome || (w.findDmPath device).isSome

/-- Where a package that cannot be opened fails, from the content of its file. -/
def fileResult {α : Type} (w : World) (p : String) (f : ApexContent → α) : Except String α :=
  match w.content? p with
  | some a => .ok (f a)
  | none => .error ("Failed to open " ++ p)

/-- The same for what is inside a mounted image. -/
def mountResult {α : Type} (w : World) (mountPoint : String) (f : ApexContent → Option α)
    (path : String) : Except String α :=
  match (w.mountedContent? mountPoint).bind f with
  | some x => .ok x
  | none => .error ("Failed to read " ++ path)

/-- Every block of the image behind a verity device matches the hash tree. -/
def readsThrough (w : World) (device : String) : Bool :=
  match w.blockFile? device with
  | some (_, ⟨_, .apex a⟩) => a.intact
  | _ => false

end World

/-- What a directory shows are paths in it. -/
theorem World.Lists.path {w : World} {p : String} {l : List DirEntry} (h : w.Lists p (.ok l)) :
    ∀ e ∈ l, ∃ n, NoSlash n ∧ e.path = join p n := by
  unfold World.Lists at h
  split at h
  · obtain ⟨l', hl, _, hp⟩ := h
    cases hl
    exact hp
  · cases h
  · rename_i _ d _ _
    obtain ⟨es, hperm, he⟩ := h
    cases he
    intro e he
    obtain ⟨x, hx, rfl⟩ := List.mem_map.1 he
    exact ⟨x.1, d.noSlash x (hperm.mem_iff.1 hx), rfl⟩

/-! ## Outcomes -/

/-- The outcomes of a call when nothing outside goes wrong. -/
def Sys.Normal : (c : Sys) → World → Sys.Res c → World → Prop
  | .stat p, w, r, w' => r = w.stat p ∧ w' = w
  | .access p, w, r, w' => r = (w.stat p).map (fun _ => ()) ∧ w' = w
  | .readDir p, w, r, w' => w.Lists p r ∧ w' = w
  | .mkdir p mode, w, r, w' => (r, w') = w.mkdir p mode
  | .chmod p mode, w, r, w' => (r, w') = w.chmod p mode
  | .rmdir p, w, r, w' => (r, w') = w.rmdir p
  | .unlink p, w, r, w' => (r, w') = w.unlink p
  | .unlinkRetry p, w, r, w' => (r, w') = w.unlink p
  | .link src dst, w, r, w' => (r, w') = w.link src dst
  | .rename src dst, w, r, w' => (r, w') = w.rename src dst
  | .removeAll p, w, r, w' => r = .ok () ∧ w' = w.removeAll p
  | .readFile p, w, r, w' => r = w.readFile p ∧ w' = w
  | .writeFile p b, w, r, w' => (r, w') = w.writeFile p b
  | .openApex p, w, r, w' => r = w.openApex p ∧ w' = w
  | .isFlattenedApex p, w, r, w' => r = (w.file? (join p kManifestFilename)).isSome ∧ w' = w
  | .verifyApexVerity p, w, r, w' => r = (w.fileResult p (·.verity)).bind id ∧ w' = w
  | .readManifest m, w, r, w' =>
    r = w.mountResult m (·.payloadManifest) (join m kManifestFilename) ∧ w' = w
  | .scanShim m, w, r, w' => r = (w.mountResult m (some ·.shimScan) m).bind id ∧ w' = w
  | .readSha512 m, w, r, w' =>
    r = w.mountResult m (·.hashTxt) (join (join m "etc") "hash.txt") ∧ w' = w
  | .calculateSha512 p, w, r, w' => r = w.fileResult p (·.sha512) ∧ w' = w
  | .openFile p, w, r, w' => r = (if (w.file? p).isSome then .ok () else .error .enoent) ∧ w' = w
  | .openDevice _, w, r, w' => r = .ok () ∧ w' = w
  | .loopGetFree, w, r, w' => ∃ n, r = .ok n ∧ ¬ w.loopInUse (loopName n) ∧ w' = w
  | .loopSetFd d t, w, r, w' => (r, w') = w.loopSetFd d t
  | .loopSetStatus d off size id, w, r, w' => (r, w') = w.loopSetStatus d off size id
  | .loopFlush _, w, r, w' => r = .ok () ∧ w' = w
  | .loopSetBlockSize _ _, w, r, w' => r = .ok () ∧ w' = w
  | .loopSetDirectIo _, w, r, w' => r = .ok () ∧ w' = w
  | .loopClrFd d, w, r, w' => (r, w') = w.loopClrFd d
  | .loopGetStatus d, w, r, w' =>
    r = (match w.findLoop d with | some l => .ok l.id | none => .error .enxio) ∧ w' = w
  | .writeReadAhead _, w, r, w' => r = .ok () ∧ w' = w
  | .dmGetState name, w, r, w' => r = (w.findDm name).isSome ∧ w' = w
  | .dmCreate name t, w, r, w' => ∃ n, w.DmFree n ∧ (r, w') = w.dmCreate name t.device n
  | .dmDelete name, w, r, w' => (r, w') = w.dmDelete name
  | .dmGetPath name, w, r, w' => r = (w.findDm name).map (·.path) ∧ w' = w
  | .deviceExists d, w, r, w' => r = .ok (w.deviceExists d) ∧ w' = w
  | .readVerityDevice d _, w, r, w' =>
    r = (if w.readsThrough d then .ok () else .error .eio) ∧ w' = w
  | .mount b m, w, r, w' => (r, w') = w.mount b m
  | .bindMount s t, w, r, w' => (r, w') = w.bindMount s t
  | .umount2 p, w, r, w' => (r, w') = w.umount2 p
  | .procMounts, w, r, w' => r = w.procMounts ∧ w' = w
  | .inodeFor p, w, r, w' => r = w.inodeOf p ∧ w' = w
  | .sysBackingFile b, w, r, w' => r = w.backingFile b ∧ w' = w
  | .sysDmName b, w, r, w' =>
    r = (match w.findDmPath b with | some d => .ok d.name | none => .error .enoent) ∧ w' = w
  | .sysSlaves b, w, r, w' =>
    r = (match w.findDmPath b with | some d => .ok [d.slave] | none => .error .enoent) ∧ w' = w
  | .getDb, w, r, w' => r = w.db ∧ w' = w
  | .setDb db, w, _, w' => w' = { w with db := db }
  | .abort _, _, _, _ => False
  | .getFlags, w, r, w' => r = ⟨w.supportsFsCheckpoints, w.inFsCheckpointMode⟩ ∧ w' = w
  | .startCheckpoint _, w, _, w' => w' = w
  | .forkAndRun _, w, r, w' => r = .ok () ∧ w' = w
  | .log _, w, _, w' => w' = w
  | .strerror, w, _, w' => w' = w

/-- An `errno` that says nothing about what exists. -/
def Errno.outside : Errno → Bool
  | .eacces => true
  | .eio => true
  | .ebusy => true
  | _ => false

/-- A reply that refuses. -/
def Sys.refusal : (c : Sys) → Sys.Res c → Prop
  | .stat _, r => ∃ e : Errno, e.outside ∧ r = .error e
  | .readDir _, r => ∃ e : Errno, e.outside ∧ r = .error e
  | .readFile _, r => r = none
  | .writeFile _ _, r => r = false
  | .openApex _, r => ∃ e, r = .error e
  | .isFlattenedApex _, r => r = false
  | .verifyApexVerity _, r => ∃ e, r = .error e
  | .readManifest _, r => ∃ e, r = .error e
  | .scanShim _, r => ∃ e, r = .error e
  | .readSha512 _, r => ∃ e, r = .error e
  | .calculateSha512 _, r => ∃ e, r = .error e
  | .loopGetFree, r => ∃ e : Errno, r = .error e
  | .loopGetStatus _, r => ∃ e : Errno, r = .error e
  | .dmGetState _, _ => False
  | .dmCreate _ _, r => r = false
  | .dmDelete _, r => r = false
  | .dmGetPath _, r => r = none
  | .deviceExists _, r => r = .ok false ∨ ∃ e : Errno, r = .error e
  | .procMounts, _ => False
  | .inodeFor _, r => ∃ e : Errno, r = .error e
  | .sysBackingFile _, r => ∃ e : Errno, r = .error e
  | .sysDmName _, r => ∃ e : Errno, r = .error e
  | .sysSlaves _, r => ∃ e : Errno, r = .error e
  | .getDb, _ => False
  | .setDb _, _ => False
  | .abort _, _ => False
  | .getFlags, _ => False
  | .startCheckpoint _, r => ∃ e, r = .error e
  | .forkAndRun _, r => ∃ e, r = .error e
  | .log _, _ => False
  | .strerror, _ => False
  | .access _, r => ∃ e : Errno, e.outside ∧ r = .error e
  | .mkdir _ _, r => ∃ e : Errno, e.outside ∧ r = .error e
  | .chmod _ _, r => ∃ e : Errno, e.outside ∧ r = .error e
  | .rmdir _, r => ∃ e : Errno, e.outside ∧ r = .error e
  | .unlink _, r => ∃ e : Errno, e.outside ∧ r = .error e
  | .unlinkRetry _, r => ∃ e : Errno, e.outside ∧ r = .error e
  | .link _ _, r => ∃ e : Errno, e.outside ∧ r = .error e
  | .rename _ _, r => ∃ e : Errno, e.outside ∧ r = .error e
  | .removeAll _, r => ∃ e : Errno, e.outside ∧ r = .error e
  | .openFile _, r => ∃ e : Errno, e.outside ∧ r = .error e
  | .openDevice _, r => ∃ e : Errno, e.outside ∧ r = .error e
  | .loopSetFd _ _, r => ∃ e : Errno, e.outside ∧ r = .error e
  | .loopSetStatus _ _ _ _, r => ∃ e : Errno, e.outside ∧ r = .error e
  | .loopFlush _, r => ∃ e : Errno, e.outside ∧ r = .error e
  | .loopSetBlockSize _ _, r => ∃ e : Errno, e.outside ∧ r = .error e
  | .loopSetDirectIo _, r => ∃ e : Errno, e.outside ∧ r = .error e
  | .loopClrFd _, r => ∃ e : Errno, e.outside ∧ r = .error e
  | .writeReadAhead _, r => ∃ e : Errno, e.outside ∧ r = .error e
  | .readVerityDevice _ _, r => ∃ e : Errno, e.outside ∧ r = .error e
  | .mount _ _, r => ∃ e : Errno, e.outside ∧ r = .error e
  | .bindMount _ _, r => ∃ e : Errno, e.outside ∧ r = .error e
  | .umount2 _, r => ∃ e : Errno, e.outside ∧ r = .error e

/-- A fault model: the outcomes of a call beyond the normal ones. -/
abbrev Faults := (c : Sys) → World → Sys.Res c → World → Prop

/-- The call is refused and has no effect. -/
def Sys.Refused : Faults := fun c w r w' => c.refusal r ∧ w' = w

/-- A file rewritten in place whose new content was cut short.  The stream flushes its buffer when
it is closed, after its state was tested, so the reply says no more than that the file could be
opened. -/
def World.tornWrite (w : World) (p : String) (b : List UInt8) (r : Bool) (w' : World) : Prop :=
  (r = true → (w.writeFile p b).1 = true) ∧ ∃ k, w' = (w.writeFile p (b.take k)).2

/-- A directory being removed that lost only some of its entries. -/
def World.tornRemove (w : World) (p : String) (w' : World) : Prop :=
  ∃ d d' : Dir, w.dirs p = some d ∧ d'.entries.Sublist d.entries ∧ w' = w.setDir p (some d')

/-- A write or a recursive removal gets only part of the way; the removal says so. -/
def Sys.Torn : Faults
  | .writeFile p b, w, r, w' => w.tornWrite p b r w'
  | .removeAll p, w, r, w' => (∃ e : Errno, e.outside ∧ r = .error e) ∧ w.tornRemove p w'
  | _, _, _, _ => False

/-- No outside trouble at all. -/
def Sys.NoFault : Faults := fun _ _ _ _ => False

/-- A fault model in which only commits and removals of sessions may be cut short. -/
def Faults.Commits (F : Faults) : Prop := ∀ c w r w', F c w r w' → Sys.Torn c w r w'

theorem Sys.NoFault.commits : Faults.Commits Sys.NoFault := fun _ _ _ _ h => h.elim

/-- A fault model in which directories and files can be read. -/
structure Faults.Reads (F : Faults) : Prop where
  readDir : ∀ p w r w', ¬ F (.readDir p) w r w'
  readFile : ∀ p w r w', ¬ F (.readFile p) w r w'

theorem Faults.Commits.reads {F : Faults} (h : F.Commits) : F.Reads where
  readDir _ _ _ _ hf := h _ _ _ _ hf
  readFile _ _ _ _ hf := h _ _ _ _ hf

/-- A fault model in which what is read is what is there. -/
structure Faults.Honest (F : Faults) : Prop where
  readDir : ∀ p w r w', F (.readDir p) w r w' → (∃ e, r = .error e) ∧ w' = w
  readFile : ∀ p w r w', F (.readFile p) w r w' → r = none ∧ w' = w

theorem Faults.Reads.honest {F : Faults} (h : F.Reads) : F.Honest where
  readDir _ _ _ _ hf := (h.readDir _ _ _ _ hf).elim
  readFile _ _ _ _ hf := (h.readFile _ _ _ _ hf).elim

/-- A fault model in which a call that fails from outside has no effect. -/
def Faults.Refusals (F : Faults) : Prop := ∀ c w r w', F c w r w' → Sys.Refused c w r w'

theorem Sys.NoFault.refusals : Faults.Refusals Sys.NoFault := fun _ _ _ _ h => h.elim

theorem Sys.Refused.refusals : Faults.Refusals Sys.Refused := fun _ _ _ _ h => h

theorem Faults.Refusals.honest {F : Faults} (h : F.Refusals) : F.Honest where
  readDir _ _ _ _ hf := by
    obtain ⟨⟨e, _, hr⟩, hw⟩ := h _ _ _ _ hf
    exact ⟨⟨e, hr⟩, hw⟩
  readFile _ _ _ _ hf := h _ _ _ _ hf

/-- What must hold when a program logs or aborts. -/
structure Watch where
  log : World → Prop
  abort : World → Prop

/-- Nothing is watched. -/
def Watch.off : Watch := ⟨fun _ => True, fun _ => True⟩

/-- The normal outcomes and those of a fault model. -/
def kernel (V : Watch) (F : Faults) : Kernel Sys Sys.Res World where
  pre
    | .log _, w => V.log w
    | .abort _, w => V.abort w
    | _, _ => True
  sem c w r w' := c.Normal w r w' ∨ F c w r w'

/-- The calls that only look. -/
def Looks : Sys → Prop
  | .stat _ => True
  | .access _ => True
  | .readDir _ => True
  | .readFile _ => True
  | .openApex _ => True
  | .getFlags => True
  | .log _ => True
  | _ => False

/-- A fault model in which a call that only looks has no effect. -/
def Faults.Still (F : Faults) : Prop := ∀ c w r w', Looks c → F c w r w' → w' = w

theorem Faults.Refusals.still {F : Faults} (h : F.Refusals) :
    F.Still := fun _ _ _ _ _ hf => (h _ _ _ _ hf).2

theorem Sys.NoFault.still : Faults.Still Sys.NoFault := Sys.NoFault.refusals.still

theorem Looks.kept {V : Watch} {F : Faults} {c : Sys} {w w' : World} {r : c.Res} (hc : Looks c)
    (hF : F.Still) (h : (kernel V F).sem c w r w') : w' = w := by
  rcases h with h | h
  · cases c <;> first | exact hc.elim | exact h.2 | exact h
  · exact hF c w r w' hc h

theorem Faults.Refusals.strerror {V : Watch} {F : Faults} (hF : F.Refusals) {text : String}
    {w w' : World} (h : (kernel V F).sem .strerror w text w') : w' = w :=
  h.elim id fun h => (hF _ _ _ _ h).2

/-! ## One normal outcome, computed -/

/-- A mounted package is shown with one entry. -/
def World.list (w : World) (p : String) : Except Errno (List DirEntry) :=
  match w.mounted p, w.dirs p with
  | some _, _ => .ok [⟨join p "etc", false, true⟩]
  | none, none => .error (if (w.file? p).isSome then .enotdir else .enoent)
  | none, some d => .ok (d.entries.map (World.dirEntry p))

def World.freeLoop? (w : World) : Option Nat :=
  (List.range (w.loops.length + w.mounts.length + w.dms.length + 1)).find? fun n =>
    decide (¬ w.loopInUse (loopName n))

def World.freeDm? (w : World) : Option Nat :=
  (List.range (w.dms.length + 1)).find? fun n => decide (w.DmFree n)

/-- A normal outcome: directories in stored order, the first free device. -/
def Sys.run : (c : Sys) → World → Option (c.Res × World)
  | .stat p, w => some (w.stat p, w)
  | .access p, w => some ((w.stat p).map (fun _ => ()), w)
  | .readDir p, w => some (w.list p, w)
  | .mkdir p mode, w => some (w.mkdir p mode)
  | .chmod p mode, w => some (w.chmod p mode)
  | .rmdir p, w => some (w.rmdir p)
  | .unlink p, w => some (w.unlink p)
  | .unlinkRetry p, w => some (w.unlink p)
  | .link src dst, w => some (w.link src dst)
  | .rename src dst, w => some (w.rename src dst)
  | .removeAll p, w => some (.ok (), w.removeAll p)
  | .readFile p, w => some (w.readFile p, w)
  | .writeFile p b, w => some (w.writeFile p b)
  | .openApex p, w => some (w.openApex p, w)
  | .isFlattenedApex p, w => some ((w.file? (join p kManifestFilename)).isSome, w)
  | .verifyApexVerity p, w => some ((w.fileResult p (·.verity)).bind id, w)
  | .readManifest m, w => some (w.mountResult m (·.payloadManifest) (join m kManifestFilename), w)
  | .scanShim m, w => some ((w.mountResult m (some ·.shimScan) m).bind id, w)
  | .readSha512 m, w => some (w.mountResult m (·.hashTxt) (join (join m "etc") "hash.txt"), w)
  | .calculateSha512 p, w => some (w.fileResult p (·.sha512), w)
  | .openFile p, w => some (if (w.file? p).isSome then .ok () else .error .enoent, w)
  | .openDevice _, w => some (.ok (), w)
  | .loopGetFree, w => w.freeLoop?.map fun n => (.ok n, w)
  | .loopSetFd d t, w => some (w.loopSetFd d t)
  | .loopSetStatus d off size id, w => some (w.loopSetStatus d off size id)
  | .loopFlush _, w => some (.ok (), w)
  | .loopSetBlockSize _ _, w => some (.ok (), w)
  | .loopSetDirectIo _, w => some (.ok (), w)
  | .loopClrFd d, w => some (w.loopClrFd d)
  | .loopGetStatus d, w =>
    some (match w.findLoop d with | some l => .ok l.id | none => .error .enxio, w)
  | .writeReadAhead _, w => some (.ok (), w)
  | .dmGetState name, w => some ((w.findDm name).isSome, w)
  | .dmCreate name t, w => w.freeDm?.map fun n => w.dmCreate name t.device n
  | .dmDelete name, w => some (w.dmDelete name)
  | .dmGetPath name, w => some ((w.findDm name).map (·.path), w)
  | .deviceExists d, w => some (.ok (w.deviceExists d), w)
  | .readVerityDevice d _, w => some (if w.readsThrough d then .ok () else .error .eio, w)
  | .mount b m, w => some (w.mount b m)
  | .bindMount s t, w => some (w.bindMount s t)
  | .umount2 p, w => some (w.umount2 p)
  | .procMounts, w => some (w.procMounts, w)
  | .inodeFor p, w => some (w.inodeOf p, w)
  | .sysBackingFile b, w => some (w.backingFile b, w)
  | .sysDmName b, w =>
    some (match w.findDmPath b with | some d => .ok d.name | none => .error .enoent, w)
  | .sysSlaves b, w =>
    some (match w.findDmPath b with | some d => .ok [d.slave] | none => .error .enoent, w)
  | .getDb, w => some (w.db, w)
  | .setDb db, w => some ((), { w with db := db })
  | .abort _, _ => none
  | .getFlags, w => some (⟨w.supportsFsCheckpoints, w.inFsCheckpointMode⟩, w)
  | .startCheckpoint _, w => some (.ok (), w)
  | .forkAndRun _, w => some (.ok (), w)
  | .log _, w => some ((), w)
  | .strerror, w => some ("Success", w)

theorem World.lists_list (w : World) (p : String) : w.Lists p (w.list p) := by
  unfold Lists list
  cases w.mounted p with
  | some _ =>
    refine ⟨_, rfl, by simp, ?_⟩
    intro e he
    rw [List.mem_singleton.1 he]
    exact ⟨"etc", by decide, rfl⟩
  | none =>
    cases w.dirs p with
    | none => rfl
    | some d => exact ⟨d.entries, List.Perm.refl _, rfl⟩

/-- What is computed is a normal outcome. -/
theorem Sys.run_normal {c : Sys} {w w' : World} {r : c.Res} (h : c.run w = some (r, w')) :
    c.Normal w r w' := by
  cases c with
  | readDir p =>
    cases h
    exact ⟨w.lists_list p, rfl⟩
  | loopGetFree =>
    obtain ⟨n, hn, he⟩ := Option.map_eq_some_iff.1 h
    cases he
    exact ⟨n, rfl, by simpa using List.find?_some hn, rfl⟩
  | dmCreate name t =>
    obtain ⟨n, hn, he⟩ := Option.map_eq_some_iff.1 h
    exact ⟨n, by simpa using List.find?_some hn, he.symm⟩
  | abort => cases h
  | setDb db => cases h; rfl
  | startCheckpoint n => cases h; rfl
  | log m => cases h; rfl
  | strerror => cases h; rfl
  | _ => first
    | exact (Option.some.inj h).symm
    | (cases h; exact ⟨rfl, rfl⟩)

/-- The handler's runs are runs of the kernel, whatever the faults. -/
theorem Sys.run_sem {V : Watch} {F : Faults} (c : Sys) (w : World) (r : c.Res) (w' : World)
    (h : c.run w = some (r, w')) : (kernel V F).sem c w r w' := Or.inl (Sys.run_normal h)

/-- Programs of apexd: they end with a value or with the message of a failed `Status`. -/
abbrev ApexM (α : Type) := Prog Sys Sys.Res String α

/-- Issue a system call. -/
abbrev sys (c : Sys) : ApexM c.Res := exec c

/-- A call with a normal outcome in every state. -/
def Sys.Answered (c : Sys) : Prop := ∀ w, (c.run w).isSome

/-- A program of such calls has a complete run. -/
theorem exists_ends {V : Watch} {F : Faults} {I : World → Prop} {α : Type} {p : ApexM α}
    {Q : Except String α → World → Prop} {w : World} (h : wp (kernel V F) I p Q w)
    (hp : p.Uses Sys.Answered) : ∃ x w', Ends (kernel V F) p w x w' ∧ Q x w' := by
  refine h.exists_ends hp fun c w hc _ => ?_
  obtain ⟨⟨r, w'⟩, hr⟩ := Option.isSome_iff_exists.1 (hc w)
  exact ⟨r, w', Sys.run_sem c w r w' hr⟩

end Apexd
