import Apexd.MountMirror
import Apexd.Devices

/-!
# The mounted versions and the devices under them

What the mount table shows of the packages at every moment, also while a call is under way: each
version is mounted once, on a loop device of its own or from a directory of the system.

* `Mount.Passed` — a mount that `PopulateFromMounts` passes over.
* `World.Serves` — the devices under a mount; `World.Table` — the invariant.
* `World.Table.step` — the calls that mount no version keep it; `World.Table.pushVersion` — one more
  version.
-/

set_option autoImplicit false

namespace Apexd

open Text Prog

/-! ## The table -/

/-- The mount point is not below `/apex`, or is that of an active package. -/
def Mount.Passed (m : Mount) : Prop := dirName m.mountPoint ≠ kApexRoot ∨
    isActiveMountPoint m.mountPoint = true

/-- A mount from a directory, or from a loop device that is bound, perhaps through a dm device named
like the mount point.  `From` says which file or directory may be mounted at a mount point. -/
def World.Serves (From : String → String → Option File → Prop) (w : World) (m : Mount) : Prop :=
  (m.loop = none ∧ m.block = kRootBlock ∧ ∃ p, m.root = .dir p ∧ From m.mountPoint p none) ∨
  ∃ l, m.loop = some l.device ∧ w.findLoop l.device = some l ∧ m.root = .image l.file ∧
    From m.mountPoint l.backing (some l.file) ∧
    (m.block = l.device ∨ ∃ d, w.findDmPath m.block = some d ∧ d.slave = l.device ∧
      m.mountPoint = join kApexRoot d.name)

/-- Each version is mounted once, and no loop device carries two of them. -/
structure World.Table (From : String → String → Option File → Prop) (w : World) : Prop where
  loopNames : ∀ l ∈ w.loops, ∃ n, l.device = loopName n
  dmPaths : ∀ d ∈ w.dms, ∃ n, d.path = dmPath n
  dmNames : w.dms.Pairwise fun a b => a.name ≠ b.name
  outside : ∀ m ∈ w.mounts, isPathForBuiltinApexes m.mountPoint = false
  versions : ∀ m ∈ w.mounts, ¬ m.Passed → w.Serves From m
  apart : w.mounts.Pairwise fun a b => ¬ a.Passed → ¬ b.Passed →
    a.mountPoint ≠ b.mountPoint ∧ (a.loop ≠ none → a.loop ≠ b.loop)

/-- The devices under a mount are still there. -/
structure World.StillServes (w w' : World) (m : Mount) : Prop where
  loop : ∀ d l, m.loop = some d → w.findLoop d = some l →
    ∃ l', w'.findLoop d = some l' ∧ l'.device = l.device ∧ l'.backing = l.backing ∧ l'.file = l.file
  dm : ∀ d, w.findDmPath m.block = some d → w'.findDmPath m.block = some d

section Table

variable {From : String → String → Option File → Prop} {w w₁ w' : World} {m : Mount}

theorem World.StillServes.same (hl : w'.loops = w.loops) (hd : w'.dms = w.dms) :
    w.StillServes w' m where
  loop d l _ hf := ⟨l, by unfold findLoop; rwa [hl], rfl, rfl, rfl⟩
  dm d hf := by unfold findDmPath; rwa [hd]

theorem World.StillServes.trans (h : w.StillServes w₁ m) (h' : w₁.StillServes w' m) :
    w.StillServes w' m where
  loop d l hm hf := by
    obtain ⟨l₁, hl₁, hdev, hback, hfile⟩ := h.loop d l hm hf
    obtain ⟨l', hl', hdev', hback', hfile'⟩ := h'.loop d l₁ hm hl₁
    exact ⟨l', hl', hdev'.trans hdev, hback'.trans hback, hfile'.trans hfile⟩
  dm d hf := h'.dm d (h.dm d hf)

theorem World.Serves.still (h : w.Serves From m) (hs : w.StillServes w' m) : w'.Serves From m := by
  rcases h with hdir | ⟨l, hm, hl, hroot, hfrom, hblock⟩
  · exact Or.inl hdir
  · obtain ⟨l', hl', hdev, hback, hfile⟩ := hs.loop _ l hm hl
    rw [← hdev] at hm hl' hblock
    rw [← hfile] at hroot hfrom
    rw [← hback] at hfrom
    refine Or.inr ⟨l', hm, hl', hroot, hfrom, hblock.imp_right ?_⟩
    rintro ⟨d, hd, hslave, hname⟩
    exact ⟨d, hs.dm d hd, hslave, hname⟩

/-- No mount is new, and the devices under those that are left are still there. -/
theorem World.Table.of_sublist (h : w.Table From) (hl : ∀ l ∈ w'.loops, ∃ n, l.device = loopName n)
    (hd : ∀ d ∈ w'.dms, ∃ n, d.path = dmPath n) (hn : w'.dms.Pairwise fun a b => a.name ≠ b.name)
    (hm : w'.mounts.Sublist w.mounts) (hs : ∀ m ∈ w'.mounts, w.StillServes w' m) :
    w'.Table From where
  loopNames := hl
  dmPaths := hd
  dmNames := hn
  outside m hmem := h.outside m (hm.subset hmem)
  versions m hmem hp := (h.versions m (hm.subset hmem) hp).still (hs m hmem)
  apart := h.apart.sublist hm

theorem World.Table.same (h : w.Table From) (hm : w'.mounts = w.mounts) (hl : w'.loops = w.loops)
    (hd : w'.dms = w.dms) : w'.Table From :=
  h.of_sublist (hl ▸ h.loopNames) (hd ▸ h.dmPaths) (hd ▸ h.dmNames) (hm ▸ List.Sublist.refl _)
    fun _ _ => .same hl hd

/-- One more mount that is passed over. -/
theorem World.Table.push (h : w.Table From) (hm : m.Passed)
    (ho : isPathForBuiltinApexes m.mountPoint = false) : (w.pushMount m).Table From where
  loopNames := h.loopNames
  dmPaths := h.dmPaths
  dmNames := h.dmNames
  outside := List.forall_mem_cons.2 ⟨ho, h.outside⟩
  versions := List.forall_mem_cons.2 ⟨fun hp => absurd hm hp, h.versions⟩
  apart := List.pairwise_cons.2 ⟨fun _ _ hp => absurd hm hp, h.apart⟩

/-! ## Devices -/

theorem find?_filter_of_some {α : Type} {l : List α} {p q : α → Bool} {a : α}
    (h : l.find? p = some a) (hq : q a = true) : (l.filter q).find? p = some a := by
  obtain ⟨hp, as, bs, rfl, has⟩ := List.find?_eq_some_iff_append.1 h
  rw [List.filter_append, List.filter_cons_of_pos hq]
  refine List.find?_eq_some_iff_append.2
    ⟨hp, _, _, rfl, fun x hx => has x (List.mem_of_mem_filter hx)⟩

theorem World.findLoop_device {d : String} {l : Loop} (h : w.findLoop d = some l) : l.device = d :=
  eq_of_beq (List.find?_some (p := fun x : Loop => x.device == d) h)

theorem World.findDmPath_path {b : String} {d : DmDevice} (h : w.findDmPath b = some d) :
    d.path = b :=
  eq_of_beq (List.find?_some (p := fun x : DmDevice => x.path == b) h)

/-- A device under a mount does not let its file go. -/
theorem World.StillServes.settle (hm : m ∈ w.mounts) : w.StillServes w.settle m where
  loop d l hd hf := by
    refine ⟨l, find?_filter_of_some hf (decide_eq_true fun _ => Or.inl ⟨m, hm, ?_⟩), rfl, rfl, rfl⟩
    rw [hd, World.findLoop_device hf]
  dm d hf := hf

/-- A change of the bound devices that leaves their names and files. -/
theorem World.StillServes.map {f : Loop → Loop} (hd : ∀ l, (f l).device = l.device)
    (hb : ∀ l, (f l).backing = l.backing) (hf : ∀ l, (f l).file = l.file) :
    w.StillServes { w with loops := w.loops.map f } m where
  loop d l _ hl := by
    refine ⟨f l, ?_, hd l, hb l, hf l⟩
    have hcomp : ((fun x : Loop => x.device == d) ∘ f) = fun x : Loop => x.device == d :=
      funext fun x => congrArg (· == d) (hd x)
    show (w.loops.map f).find? _ = _
    rw [List.find?_map, hcomp]
    exact congrArg (Option.map f) hl
  dm d h := h

theorem World.Table.settle (h : w.Table From) : w.settle.Table From :=
  h.of_sublist (fun l hl => h.loopNames l (List.mem_of_mem_filter hl)) h.dmPaths h.dmNames
    (List.Sublist.refl _) fun _ hm => .settle hm

theorem World.Table.mapLoops (h : w.Table From) {f : Loop → Loop}
    (hd : ∀ l, (f l).device = l.device)
    (hb : ∀ l, (f l).backing = l.backing) (hf : ∀ l, (f l).file = l.file) :
    ({ w with loops := w.loops.map f } : World).Table From := by
  refine h.of_sublist ?_ h.dmPaths h.dmNames (List.Sublist.refl _) fun _ _ => .map hd hb hf
  intro l hl
  obtain ⟨x, hx, rfl⟩ := List.mem_map.1 hl
  rw [hd]
  exact h.loopNames x hx

theorem World.Table.loopSetFd (h : w.Table From) {d t : String} (hd : ∃ n, d = loopName n)
    {r : Except Errno Unit} (hs : (r, w') = w.loopSetFd d t) : w'.Table From := by
  unfold World.loopSetFd at hs
  split at hs
  · cases hs
    exact h
  · cases hs
    exact h
  · rename_i f hnone _
    cases hs
    refine h.of_sublist (List.forall_mem_cons.2 ⟨hd, h.loopNames⟩) h.dmPaths h.dmNames
      (List.Sublist.refl _) ?_
    intro m hm
    refine ⟨fun x l _ hl => ⟨l, ?_, rfl, rfl, rfl⟩, fun _ hf => hf⟩
    -- the new device was not bound
    have hne : x ≠ d := by
      rintro rfl
      rw [hnone] at hl
      cases hl
    show List.find? _ (_ :: _) = _
    rw [List.find?_cons_of_neg (by simpa using Ne.symm hne)]
    exact hl

theorem World.Table.loopSetStatus (h : w.Table From) {d : String} {o : Int} {z : Nat} {i : String}
    {r : Except Errno Unit} (hs : (r, w') = w.loopSetStatus d o z i) : w'.Table From := by
  unfold World.loopSetStatus at hs
  split at hs
  · cases hs
    exact h
  · cases hs
    refine h.mapLoops ?_ ?_ ?_ <;> intro l <;> split <;> rfl

theorem World.Table.loopClrFd (h : w.Table From) {d : String} {r : Except Errno Unit}
    (hs : (r, w') = w.loopClrFd d) : w'.Table From := by
  unfold World.loopClrFd at hs
  split at hs
  · cases hs
    exact h
  · cases hs
    refine World.Table.settle (h.mapLoops ?_ ?_ ?_) <;> intro l <;> split <;> rfl

theorem World.Table.dmCreate (h : w.Table From) {name slave : String} {n : Nat}
    (hn : w.DmFree n) {r : Bool} (hs : (r, w') = w.dmCreate name slave n) : w'.Table From := by
  unfold World.dmCreate at hs
  split at hs
  · rename_i hnone _
    cases hs
    refine h.of_sublist h.loopNames (List.forall_mem_cons.2 ⟨⟨n, rfl⟩, h.dmPaths⟩) ?_
      (List.Sublist.refl _) ?_
    · refine List.pairwise_cons.2 ⟨fun d hd he => ?_, h.dmNames⟩
      exact List.find?_eq_none.1 hnone d hd (beq_iff_eq.2 he.symm)
    · intro m _
      refine ⟨fun d l _ hl => ⟨l, hl, rfl, rfl, rfl⟩, fun d hd => ?_⟩
      -- the number of the new device was free
      have hne : dmPath n ≠ m.block := fun he =>
        hn d (List.mem_of_find?_eq_some hd) ((World.findDmPath_path hd).trans he.symm)
      show List.find? _ (_ :: _) = _
      rw [List.find?_cons_of_neg (by simpa using hne)]
      exact hd
  · cases hs
    exact h

theorem World.Table.dmDelete (h : w.Table From) {name : String} {r : Bool}
    (hs : (r, w') = w.dmDelete name) : w'.Table From := by
  unfold World.dmDelete at hs
  split at hs
  · cases hs
    exact h
  · rename_i d hd
    split at hs
    · cases hs
      exact h
    · rename_i hfree
      cases hs
      refine World.Table.settle (w := { w with dms := w.dms.filter fun x => x.name != name })
        (h.of_sublist h.loopNames (fun x hx => h.dmPaths x (List.mem_of_mem_filter hx))
          (h.dmNames.sublist List.filter_sublist) (List.Sublist.refl _) fun m hm => ?_)
      refine ⟨fun x l _ hl => ⟨l, hl, rfl, rfl, rfl⟩, fun x hx => find?_filter_of_some hx ?_⟩
      -- the device of another name: this one is not mounted
      rw [bne_iff_ne]
      rintro rfl
      have hxmem := List.mem_of_find?_eq_some hx
      have hdmem := List.mem_of_find?_eq_some hd
      have hname : d.name = x.name :=
        eq_of_beq (List.find?_some (p := fun y : DmDevice => y.name == x.name) hd)
      have hsymm : Std.Symm fun a b : DmDevice => a.name ≠ b.name := ⟨fun _ _ h => h.symm⟩
      have hxd : x = d := by
        by_contra hne
        exact h.dmNames.forall hxmem hdmem hne hname.symm
      exact hfree ⟨m, hm, by rw [← hxd]; exact (World.findDmPath_path hx).symm⟩

theorem World.Table.umount2 (h : w.Table From) {p : String} {r : Except Errno Unit}
    (hs : (r, w') = w.umount2 p) : w'.Table From := by
  rcases w.umount2_cases p with ⟨e, _, he⟩ | ⟨_, he⟩
  · rw [he] at hs
    cases hs
    exact h
  · rw [he] at hs
    cases hs
    exact World.Table.settle (h.of_sublist h.loopNames h.dmPaths h.dmNames List.eraseP_sublist
      fun _ _ => .same rfl rfl)

theorem World.Table.bindMount (h : w.Table From) {s t : String} (ht : isActiveMountPoint t = true)
    (ho : isPathForBuiltinApexes t = false) {r : Except Errno Unit}
    (hs : (r, w') = w.bindMount s t) : w'.Table From := by
  rcases w.bindMount_cases s t with ⟨e, he⟩ | ⟨m, _, rfl, _, _, _, he⟩
  · rw [he] at hs
    cases hs
    exact h
  · rw [he] at hs
    cases hs
    exact h.push (Or.inr ht) ho

/-- The calls that mount no version of a package. -/
def TableCmd : Sys → Prop
  | .mount _ _ => False
  | .bindMount _ t => isActiveMountPoint t = true ∧ isPathForBuiltinApexes t = false
  | .loopSetFd d _ => ∃ n, d = loopName n
  | _ => True

/-- **They keep the table.** -/
theorem World.Table.step (h : w.Table From) {c : Sys} {r : c.Res} (hc : TableCmd c)
    (hs : c.Normal w r w') : w'.Table From := by
  have hdirs : w.OnlyDirs w' → w'.Table From := fun hd => h.same hd.mounts (by rw [hd]) (by rw [hd])
  cases c with
  | mount b p => exact hc.elim
  | bindMount s t => exact h.bindMount hc.1 hc.2 hs
  | umount2 p => exact h.umount2 hs
  | loopSetFd d t => exact h.loopSetFd hc hs
  | loopSetStatus d o z i => exact h.loopSetStatus hs
  | loopClrFd d => exact h.loopClrFd hs
  | dmCreate n t =>
    obtain ⟨k, hk, hs⟩ := hs
    exact h.dmCreate hk hs
  | dmDelete n => exact h.dmDelete hs
  | loopGetFree =>
    obtain ⟨n, _, _, rfl⟩ := hs
    exact h
  | mkdir p mode => exact hdirs (World.mkdir_onlyDirs hs)
  | chmod p mode => exact hdirs (World.chmod_onlyDirs hs)
  | rmdir p => exact hdirs (World.rmdir_onlyDirs hs)
  | unlink p => exact hdirs (World.unlink_onlyDirs hs)
  | unlinkRetry p => exact hdirs (World.unlink_onlyDirs hs)
  | link s d => exact hdirs (World.link_onlyDirs hs)
  | rename s d => exact hdirs (World.rename_onlyDirs hs)
  | writeFile p b => exact hdirs (World.writeFile_onlyDirs hs)
  | removeAll p =>
    obtain ⟨_, rfl⟩ := hs
    exact hdirs (World.removeAll_onlyDirs w p)
  | setDb db =>
    obtain rfl : w' = { w with db := db } := hs
    exact h.same rfl rfl rfl
  | startCheckpoint n =>
    obtain rfl : w' = w := hs
    exact h
  | log s =>
    obtain rfl : w' = w := hs
    exact h
  | abort s => exact hs.elim
  | _ =>
    obtain ⟨_, rfl⟩ := hs
    exact h

/-- One more version, where nothing is mounted and from a loop device that is not mounted. -/
theorem World.Table.pushVersion (h : w.Table From) (hs : w.Serves From m)
    (ho : isPathForBuiltinApexes m.mountPoint = false) (hnone : w.mounted m.mountPoint = none)
    (hloop : ∀ d, m.loop = some d → ∀ a ∈ w.mounts, a.loop ≠ some d) :
    (w.pushMount m).Table From where
  loopNames := h.loopNames
  dmPaths := h.dmPaths
  dmNames := h.dmNames
  outside := List.forall_mem_cons.2 ⟨ho, h.outside⟩
  versions := List.forall_mem_cons.2 ⟨fun _ => hs.still (.same rfl rfl), fun a ha hp =>
    (h.versions a ha hp).still (.same rfl rfl)⟩
  apart := by
    refine List.pairwise_cons.2 ⟨fun a ha _ _ => ⟨fun he => ?_, fun hne he => ?_⟩, h.apart⟩
    · exact List.find?_eq_none.1 hnone a ha (beq_iff_eq.2 he.symm)
    · obtain ⟨d, hd⟩ := Option.ne_none_iff_exists'.1 hne
      exact hloop d hd a ha (he.symm.trans hd)

end Table

end Apexd
