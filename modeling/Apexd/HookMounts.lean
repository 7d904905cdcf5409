import Apexd.DanglingMounts
import Apexd.MountFailure

/-!
# The mounts made to run a hook

`StageFnInstall`: packages are mounted and active mount points made in a loop that can stop
anywhere, and one scope guard takes them down again.

* `hookKernel` — any call may be refused, but `umount2` works, and `rmdir` removes what the call has
  made unless something is mounted there.
* `HookInv` — the invariant of the loop and of the guard: which entries of the database, directories
  and mounts are new, and that the guard knows them.
* `stageFnInstall_restores` — when the hook is run, and what is left after the call.
-/

set_option autoImplicit false

namespace Apexd

open Text Prog

/-! ## Entries by key -/

def ApexFile.key (f : ApexFile) : String × String := (f.manifest.name, f.path)

/-- The package is in the database under its path. -/
def Db.Lists (db : Db) (f : ApexFile) : Prop := ∃ e ∈ db, e.key = f.key

section Keys

variable {db : Db} {e : Entry} {k : String × String}

theorem filter_emplace {P : Entry → Bool} (h : P e = false) :
    (db.emplace e).filter P = db.filter P := by
  induction db with
  | nil => simp [Db.emplace, h]
  | cons x xs ih =>
    unfold Db.emplace
    split
    · rw [List.filter_cons_of_neg (by simp [h])]
    · rw [List.filter_cons, List.filter_cons, ih]

theorem filter_emplace_key (h : ∀ x ∈ db, x.key ≠ e.key) :
    (db.emplace e).filter (fun x => decide (x.key = e.key)) = [e] := by
  have hperm := (Db.emplace_perm e db).filter fun x => decide (x.key = e.key)
  have hnone : db.filter (fun x => decide (x.key = e.key)) = [] :=
    List.filter_eq_nil_iff.2 fun x hx => by simpa using h x hx
  rw [List.filter_cons_of_pos (by simp), hnone] at hperm
  exact List.perm_singleton.1 hperm

/-- `RemoveMountedApex` takes the only entry with a key away. -/
theorem removeMountedApex_eq_filter (h : db.filter (fun x => decide (x.key = k)) = [e]) :
    db.removeMountedApex k.1 k.2 = db.filter fun x => decide (x.key ≠ k) := by
  induction db with
  | nil => cases h
  | cons x xs ih =>
    rw [removeMountedApex_cons]
    by_cases hx : x.key = k
    · rw [List.filter_cons_of_pos (by simp [hx])] at h
      have hnone := List.filter_eq_nil_iff.1 (List.cons.inj h).2
      rw [if_pos hx, List.filter_cons_of_neg (by simp [hx])]
      exact (List.filter_eq_self.2 fun y hy => by simpa using hnone y hy).symm
    · rw [List.filter_cons_of_neg (by simp [hx])] at h
      rw [if_neg hx, List.filter_cons_of_pos (by simp [hx]), ih h]

/-- and no other one. -/
theorem filter_removeMountedApex {k' : String × String}
    (h : db.filter (fun x => decide (x.key = k)) = [e])
    (hne : k ≠ k') : (db.removeMountedApex k.1 k.2).filter (fun x => decide (x.key = k')) =
      db.filter fun x => decide (x.key = k') := by
  rw [removeMountedApex_eq_filter h, List.filter_filter]
  refine List.filter_congr fun x _ => ?_
  by_cases hx : x.key = k'
  · simp [hx, hne.symm]
  · simp [hx]

theorem foundEntry?_eq_filter (f : ApexFile) :
    db.foundEntry? f = (db.filter fun x => decide (x.key = f.key)).getLast? := by
  unfold Db.foundEntry? Db.forallMountedApexes
  rw [List.filter_filter]
  congr 2
  funext x
  simp [Entry.key, ApexFile.key, Bool.and_comm, beq_eq_decide]

theorem isMounted_iff (f : ApexFile) : ((db.forallMountedApexes f.manifest.name).any
    fun e => e.data.fullPath = f.path) = true ↔ db.Lists f := by
  unfold Db.forallMountedApexes Db.Lists
  simp [List.any_eq_true, Entry.key, ApexFile.key]

end Keys

/-! ## The kernel -/

/-- `umount2` is not refused, and `rmdir` is not on a directory that was not there at the start and
on which nothing more is mounted than then. -/
def Sys.TakesDown (w₀ : World) : (c : Sys) → World → c.Res → Prop
  | .umount2 p, w, r => r = (w.umount2 p).1
  | .rmdir p, w, r =>
    (w₀.dirs p).isSome ∨ w.dirs p = none ∨ r = .ok () ∨ (w₀.stack p).length < (w.stack p).length
  | _, _, _ => True

def hookKernel (w₀ : World) : Kernel Sys Sys.Res World :=
  (kernel .off Sys.Refused).only (Sys.TakesDown w₀)

/-- What is asked of the state in which the hook process is forked. -/
def ForksListed (kind : HookKind) (apexes : List ApexFile) : Sys → World → Prop
  | .forkAndRun _, w =>
    (apexes.filter fun f => kind.fn f.manifest ≠ "").length = 1 ∧ ∀ f ∈ apexes, w.db.Lists f
  | _, _ => True

def watchedHook (kind : HookKind) (apexes : List ApexFile) (w₀ : World) :
    Kernel Sys Sys.Res World :=
  (hookKernel w₀).withPre (ForksListed kind apexes)

/-- The calls that change no directory, no mount and not the database. -/
def KeepsTree : Sys → Prop
  | .stat _ => True
  | .readDir _ => True
  | .getDb => True
  | c => DeviceCmd c

theorem DeviceCmd.keepsTree {c : Sys} (h : DeviceCmd c) : KeepsTree c := by
  cases c <;> first | exact h | exact h.elim

/-- The same directories, the same database and the same mounts. -/
structure World.KeptTree (w w' : World) : Prop where
  dirs : w'.dirs = w.dirs
  db : w'.db = w.db
  mounts : w'.mounts = w.mounts

theorem World.KeptTree.refl (w : World) : w.KeptTree w := ⟨rfl, rfl, rfl⟩

theorem World.KeptTree.trans {w w' w'' : World} (h : w.KeptTree w') (h' : w'.KeptTree w'') :
    w.KeptTree w'' :=
  ⟨h'.dirs.trans h.dirs, h'.db.trans h.db, h'.mounts.trans h.mounts⟩

section Calls

variable {kind : HookKind} {apexes : List ApexFile} {w₀ w w' : World}

theorem World.KeptTree.of_onlyDevices (h : w.OnlyDevices w') :
    w.KeptTree w' := ⟨by rw [h], by rw [h], by rw [h]⟩

theorem KeepsTree.same {c : Sys} {r : c.Res} (hc : KeepsTree c)
    (hs : (hookKernel w₀).sem c w r w') : w.KeptTree w' := by
  obtain ⟨-, hn | ⟨-, rfl⟩⟩ := hs
  · cases c with
    | loopSetFd d t => exact .of_onlyDevices (World.loopSetFd_onlyDevices hn)
    | loopSetStatus d o z i => exact .of_onlyDevices (World.loopSetStatus_onlyDevices hn)
    | loopClrFd d => exact .of_onlyDevices (World.loopClrFd_onlyDevices hn)
    | dmDelete n => exact .of_onlyDevices (World.dmDelete_onlyDevices hn)
    | dmCreate n t =>
      obtain ⟨k, -, hk⟩ := hn
      exact .of_onlyDevices (World.dmCreate_onlyDevices hk)
    | loopGetFree =>
      obtain ⟨n, -, -, rfl⟩ := hn
      exact .refl _
    | _ => first | exact hc.elim | (obtain ⟨-, rfl⟩ := hn; exact .refl _)
  · exact .refl _

theorem wp_keepsTree {α : Type} {p : ApexM α} (hp : p.Uses KeepsTree) :
    wp (watchedHook kind apexes w₀) (fun _ => True) p (fun _ w' => w.KeptTree w') w := by
  have hstay : wp (watchedHook kind apexes w₀) w.KeptTree p (fun _ w' => w.KeptTree w') w :=
    hp.wp (fun c w hc _ => by cases c <;> first | exact hc.elim | trivial)
      (fun c w₁ r w₂ hc h₁ hs => h₁.trans (hc.same hs)) (.refl w)
  exact hstay.mono (fun _ _ => trivial) fun _ _ _ h => h

theorem wp_keepsTree_bind {α β : Type} {p : ApexM α} {f : α → ApexM β}
    {Q : Except String β → World → Prop}
    (hp : p.Uses KeepsTree) (hok : ∀ a w₁, w.KeptTree w₁ → wp (watchedHook kind apexes w₀)
      (fun _ => True) (f a) Q w₁)
    (herr : ∀ e w₁, w.KeptTree w₁ → Q (.error e) w₁) :
    wp (watchedHook kind apexes w₀) (fun _ => True) (p.bind f) Q w := by
  refine wp_bind.2 ((wp_keepsTree hp).imp fun x w₁ _ hk => ?_)
  cases x with
  | ok a => exact hok a w₁ hk
  | error e => exact herr e w₁ hk

/-- `umount2` does what it does when it is not refused. -/
theorem umount2_takesDown {p : String} {r : Except Errno Unit}
    (hs : (hookKernel w₀).sem (.umount2 p) w r w') : (r, w') = w.umount2 p := by
  obtain ⟨hr, hn | ⟨⟨e, he, rfl⟩, rfl⟩⟩ := hs
  · exact hn
  · have hr : Except.error e = (w'.umount2 p).1 := hr
    unfold World.umount2 at hr
    split at hr
    · have he' := Except.error.inj hr
      split at he' <;> (rw [he'] at he; cases he)
    · cases hr

/-- and takes the topmost mount away. -/
theorem stack_umount2 {p : String} {r : Except Errno Unit} (h : (r, w') = w.umount2 p)
    (q : String) : (w'.stack q).length = (w.stack q).length - if p = q then 1 else 0 := by
  have hpop : w'.mounts = w.mounts.eraseP fun m => m.mountPoint == p := by
    rcases w.umount2_cases p with ⟨e, hnone, he⟩ | ⟨_, he⟩
    · rw [he] at h
      cases h
      exact (eraseP_mounted hnone).symm
    · rw [he] at h
      cases h
      rfl
  rw [World.stack_pop hpop]
  split
  · exact List.length_tail
  · rfl

/-- What `mkdir` adds. -/
theorem mkdir_hasDir {p q : String} {mode : Nat} {r : Except Errno Unit}
    (h : (r, w') = w.mkdir p mode)
    (hq : (w'.dirs q).isSome) : (w.dirs q).isSome ∨ r = .ok () ∧ q = p := by
  rcases w.mkdir_cases p mode with ⟨e, he⟩ | ⟨parent, -, hparent, -, he⟩
  · rw [he] at h
    cases h
    exact Or.inl hq
  · rw [he] at h
    cases h
    by_cases hp : q = p
    · exact Or.inr ⟨rfl, hp⟩
    · rw [World.setDir_other _ _ hp] at hq
      by_cases hup : q = dirName p
      · rw [hup, hparent]
        exact Or.inl rfl
      · rw [World.setDir_other _ _ hup] at hq
        exact Or.inl hq

/-- What `rmdir` leaves. -/
theorem rmdir_hasDir {p q : String} {r : Except Errno Unit} (h : (r, w') = w.rmdir p)
    (hq : (w'.dirs q).isSome) : (w.dirs q).isSome ∧ (r = .ok () → q ≠ p) := by
  rcases w.rmdir_cases p with ⟨e, he⟩ | ⟨d, -, -, -, he⟩
  · rw [he] at h
    cases h
    exact ⟨hq, fun hr => by cases hr⟩
  · rw [he] at h
    cases h
    have hne : q ≠ p := by
      rintro rfl
      rw [World.dropDir_self] at hq
      cases hq
    refine ⟨?_, fun _ => hne⟩
    unfold World.dropDir at hq
    split at hq
    · rwa [World.setDir_other _ _ hne] at hq
    · rename_i parent hparent
      rw [World.setDir_other _ _ hne] at hq
      by_cases hup : q = dirName p
      · rw [hup, hparent]
        rfl
      · rwa [World.setDir_other _ _ hup] at hq

/-- After `rmdir` only directories of the start may be left under the path, and those on which
something more is mounted. -/
theorem rmdir_takesDown {p q : String} {r : Except Errno Unit}
    (hs : (hookKernel w₀).sem (.rmdir p) w r w') (hq : (w'.dirs q).isSome) : (w.dirs q).isSome ∧
      (q = p → (w₀.dirs q).isSome ∨ (w₀.stack q).length < (w.stack q).length) := by
  obtain ⟨hc, hn | ⟨⟨e, -, rfl⟩, rfl⟩⟩ := hs
  · have hleft := rmdir_hasDir hn hq
    refine ⟨hleft.1, ?_⟩
    rintro rfl
    rcases hc with h₀ | hnone | hok | hbusy
    · exact Or.inl h₀
    · rw [hnone] at hleft
      cases hleft.1
    · exact absurd rfl (hleft.2 hok)
    · exact Or.inr hbusy
  · refine ⟨hq, ?_⟩
    rintro rfl
    rcases hc with h₀ | hnone | hok | hbusy
    · exact Or.inl h₀
    · rw [hnone] at hq
      cases hq
    · cases hok
    · exact Or.inr hbusy

theorem rmdir_db {p : String} {r : Except Errno Unit} (hs : (hookKernel w₀).sem (.rmdir p) w r w') :
    w'.db = w.db := by
  obtain ⟨-, hn | ⟨-, rfl⟩⟩ := hs
  · rw [World.rmdir_onlyDirs hn]
  · rfl

theorem rmdir_mounts {p : String} {r : Except Errno Unit}
    (hs : (hookKernel w₀).sem (.rmdir p) w r w') : w'.mounts = w.mounts := by
  obtain ⟨-, hn | ⟨-, rfl⟩⟩ := hs
  · rw [World.rmdir_onlyDirs hn]
  · rfl

end Calls

/-! ## What a mount adds -/

/-- The directories and the database are as before, and there is at most one more mount on `p` after
a success, none after a failure. -/
structure World.Grown {α : Type} (w : World) (p : String) (x : Except String α) (w' : World) :
    Prop where
  dirs : w'.dirs = w.dirs
  db : w'.db = w.db
  stack : ∀ q, (w'.stack q).length ≤ (w.stack q).length + if x.isOk ∧ p = q then 1 else 0

section Grown

variable {kind : HookKind} {apexes : List ApexFile} {w₀ w w₁ w' : World} {p : String} {α β : Type}

theorem World.KeptTree.grown (h : w.KeptTree w') (x : Except String α) : w.Grown p x w' where
  dirs := h.dirs
  db := h.db
  stack q := by
    rw [World.stack_congr h.mounts]
    exact Nat.le_add_right _ _

theorem World.Grown.after {x : Except String α} (h : w₁.Grown p x w') (hk : w.KeptTree w₁) :
    w.Grown p x w' where
  dirs := h.dirs.trans hk.dirs
  db := h.db.trans hk.db
  stack q := (World.stack_congr (p := q) hk.mounts) ▸ h.stack q

theorem World.Grown.kept {x : Except String α} {y : Except String β} (h : w.Grown p x w₁)
    (hk : w₁.KeptTree w') (hxy : x.isOk = y.isOk) : w.Grown p y w' where
  dirs := hk.dirs.trans h.dirs
  db := hk.db.trans h.db
  stack q := by
    rw [World.stack_congr hk.mounts, ← hxy]
    exact h.stack q

/-- A mount is pushed. -/
theorem World.OnlyMounts.grown {m : Mount} (h : w.OnlyMounts w')
    (hm : w'.mounts = m :: w.mounts) (a : α) :
    w.Grown m.mountPoint (.ok a : Except String α) w' where
  dirs := by rw [h]
  db := by rw [h]
  stack q := by
    rw [World.stack_push hm]
    by_cases hq : m.mountPoint = q <;> simp [hq, Except.isOk, Except.toBool]

/-- The program mounts at most once, on `p`, and only if it succeeds. -/
def MountsOnce (kind : HookKind) (apexes : List ApexFile) (w₀ : World) (p : String)
    (prog : ApexM α) : Prop :=
  ∀ w, wp (watchedHook kind apexes w₀) (fun _ => True) prog (fun x w' => w.Grown p x w') w

theorem MountsOnce.fail (msg : String) : MountsOnce kind apexes w₀ p (fail msg : ApexM α) :=
  fun w => ⟨trivial, (World.KeptTree.refl w).grown _⟩

theorem MountsOnce.bind {prog : ApexM α} {f : α → ApexM β} (hp : prog.Uses KeepsTree)
    (hf : ∀ a, MountsOnce kind apexes w₀ p (f a)) : MountsOnce kind apexes w₀ p (prog.bind f) :=
  fun _ => wp_keepsTree_bind hp (fun a w₁ hk => (hf a w₁).imp fun _ _ _ hg => hg.after hk)
    fun _ _ hk => hk.grown _

theorem MountsOnce.onFail {prog : ApexM α} {cleanup : ApexM Unit}
    (h : MountsOnce kind apexes w₀ p prog)
    (hc : cleanup.Uses KeepsTree) : MountsOnce kind apexes w₀ p (prog.onFail cleanup) := by
  intro w
  refine wp_onFail.2 ((h w).imp fun x w₁ _ hx => ?_)
  cases x with
  | ok a => exact hx
  | error e => exact (wp_keepsTree hc).imp fun _ _ _ hk => hx.kept hk rfl

theorem MountsOnce.ret {prog : ApexM α} (h : MountsOnce kind apexes w₀ p prog) (b : β) :
    MountsOnce kind apexes w₀ p (prog.bind fun _ => ret b) := by
  intro w
  refine wp_bind.2 ((h w).imp fun x w₁ _ hx => ?_)
  cases x with
  | ok a => exact ⟨trivial, hx.kept (.refl _) rfl⟩
  | error e => exact hx.kept (.refl _) rfl

theorem DeviceQuery.keepsTree {c : Sys} (h : DeviceQuery c) : KeepsTree c := h.device.keepsTree

theorem mountsOnce_mountVerified (apex : ApexFile) (block : String) :
    MountsOnce kind apexes w₀ p (mountVerified apex block p) := by
  intro w
  unfold mountVerified
  simp only [bind_eq, exec_bind]
  refine ⟨trivial, trivial, fun r w₁ hs₁ => ?_⟩
  obtain ⟨-, hn | ⟨⟨e, -, rfl⟩, rfl⟩⟩ := hs₁
  · have hn : (r, w₁) = w.mount block p := hn
    rcases w.mount_cases block p with ⟨e, he⟩ | ⟨n, f, -, -, he⟩
    · rw [he] at hn
      cases hn
      exact MountsOnce.fail _ w
    · have hmount : w.OnlyMounts w₁ := World.mount_onlyMounts hn
      rw [he] at hn
      cases hn
      -- the mount is there, and goes again if the image is not the right one
      have hgrown := hmount.grown (m := ⟨p, block, some n, .image f, none⟩) rfl ()
      refine wp_bind.2 (wp_attempt.2
          ((wp_keepsTree ((uses_verifyMountedImage apex p).mono fun _ h =>
        h.keepsTree)).imp fun x w₂ _ hk => ?_))
      cases x with
      | ok u => exact ⟨trivial, hgrown.kept hk rfl⟩
      | error e =>
        refine ⟨trivial, trivial, fun r w₃ hs₃ => ⟨trivial, ?_⟩⟩
        have hpop := umount2_takesDown hs₃
        have honly := World.umount2_onlyMounts hpop
        have hkept := hgrown.kept (y := .ok ()) hk rfl
        refine ⟨?_, ?_, fun q => ?_⟩
        · rw [show w₃.dirs = w₂.dirs by rw [honly]]
          exact hkept.dirs
        · rw [show w₃.db = w₂.db by rw [honly]]
          exact hkept.db
        · have hle := hkept.stack q
          rw [stack_umount2 hpop q]
          by_cases hq : p = q <;> simp_all [Except.isOk, Except.toBool]
  · exact MountsOnce.fail _ w₁

theorem mountsOnce_mountBlockDevice (apex : ApexFile) (block : String) (size : Option Nat) :
    MountsOnce kind apexes w₀ p (mountBlockDevice apex block p size) := by
  have hwait : (waitForDevice block .kWaitToBeCreated).Uses KeepsTree :=
    uses_waitForDevice (fun _ => trivial) _ _
  cases size with
  | none =>
    rw [mountBlockDevice_none]
    exact .bind hwait fun _ => mountsOnce_mountVerified apex block
  | some size =>
    rw [mountBlockDevice_some]
    refine .bind hwait fun _ => .bind ?_ fun _ => mountsOnce_mountVerified apex block
    exact uses_exec_bind trivial fun r => uses_check _ r

theorem mountsOnce_mountNonFlattened (cfg : Config) (apex : ApexFile) (deviceName : String)
    (verifyImage : Bool) :
    MountsOnce kind apexes w₀ p (mountNonFlattened cfg apex p deviceName verifyImage) := by
  have hloop : ∀ loop, MountsOnce kind apexes w₀ p
      (mountLoopDevice cfg apex loop p deviceName verifyImage) := by
    intro loop
    refine .bind (uses_exec trivial) fun r => .bind (uses_mapErr (uses_ofExcept r))
      fun verityData => ?_
    split
    · refine .bind (uses_mapErr ((uses_createVerityDevice _ _).mono fun _ h => h.keepsTree))
        fun device => ?_
      refine .onFail (.bind ?_ fun _ => mountsOnce_mountBlockDevice apex device _) ?_
      · exact (uses_configureReadAhead device).mono fun _ h => h.keepsTree
      · exact (uses_deleteVerityDevice _ _).mono fun _ h => h.keepsTree
    · exact mountsOnce_mountBlockDevice apex loop none
  refine .bind (uses_require _ _) fun _ =>
    .bind ((uses_createLoopDeviceLoop _ _).mono fun _ h => h.keepsTree) fun loop => ?_
  exact .ret (.onFail (hloop loop) ((uses_maybeCloseBad loop).mono fun _ h => h.keepsTree)) _

theorem mountsOnce_mountFlattened (apex : ApexFile) :
    MountsOnce kind apexes w₀ p (mountFlattened apex p) := by
  refine .bind (uses_require _ _) fun _ => .ret (fun w => ?_) _
  refine ⟨trivial, trivial, fun r w₁ hs₁ => ?_⟩
  obtain ⟨-, hn | ⟨⟨e, -, rfl⟩, rfl⟩⟩ := hs₁
  · have hn : (r, w₁) = w.bindMount apex.path p := hn
    have hmount : w.OnlyMounts w₁ := World.bindMount_onlyMounts hn
    rcases w.bindMount_cases apex.path p with ⟨e, he⟩ | ⟨m, -, rfl, -, -, -, he⟩
    · rw [he] at hn
      cases hn
      exact ⟨trivial, (World.KeptTree.refl _).grown _⟩
    · rw [he] at hn
      cases hn
      exact ⟨trivial, hmount.grown rfl ()⟩
  · exact ⟨trivial, (World.KeptTree.refl _).grown _⟩

theorem mountsOnce_mountInto (cfg : Config) (apex : ApexFile) (deviceName : String)
    (verifyImage : Bool) :
    MountsOnce kind apexes w₀ p (mountInto cfg apex p deviceName verifyImage) := by
  refine .bind (uses_exec_bind trivial ?_) fun _ =>
    .bind (uses_when (uses_failErrno trivial _)) fun _ => ?_
  · rintro (e | l) <;> trivial
  · split
    · exact mountsOnce_mountFlattened apex
    · exact mountsOnce_mountNonFlattened cfg apex deviceName verifyImage

end Grown

/-! ## What the guard has to undo -/

/-- What is new at some moment of the call, and known to the guard: `fs` and `dirs` are what it will
undo. Every entry of the database that was not there before belongs to one of `fs`, every directory
that was not there before is one of `dirs` or the mount point of one of `fs`, and a mount point has
at most one more mount for each of `fs` that belongs there. -/
structure HookInv (w₀ : World) (fs : List ApexFile) (dirs : List String) (w : World) : Prop where
  base : w.db.filter (fun e => decide (e.key ∉ fs.map ApexFile.key)) = w₀.db
  nodup : (fs.map ApexFile.key).Nodup
  entries : ∀ f ∈ fs, ∃ e, w.db.filter (fun e => decide (e.key = f.key)) = [e] ∧
    e.data.mountPoint = getPackageMountPoint f.manifest ∧ e.latest = false
  dirs : ∀ p, (w.dirs p).isSome → (w₀.dirs p).isSome ∨ p ∈ dirs ∨
    ∃ f ∈ fs, p = getPackageMountPoint f.manifest
  mounts : ∀ p, (w.stack p).length ≤
    (w₀.stack p).length + fs.countP fun f => decide (getPackageMountPoint f.manifest = p)

section Guard

variable {kind : HookKind} {apexes : List ApexFile} {w₀ w w' : World} {fs : List ApexFile}
    {f : ApexFile}
  {dirs : List String} {cfg : Config}

theorem HookInv.start (w : World) : HookInv w [] [] w where
  base := by simp
  nodup := List.nodup_nil
  entries := by simp
  dirs := fun _ h => Or.inl h
  mounts := fun _ => Nat.le_add_right _ _

/-- Something more is mounted only where one of the packages is. -/
theorem HookInv.mounted (h : HookInv w₀ fs dirs w) {p : String}
    (hp : (w₀.stack p).length < (w.stack p).length) :
    ∃ f ∈ fs, p = getPackageMountPoint f.manifest := by
  have hpos : 0 < fs.countP fun f => decide (getPackageMountPoint f.manifest = p) := by
    have := h.mounts p
    omega
  obtain ⟨f, hf, hfp⟩ := List.countP_pos_iff.1 hpos
  exact ⟨f, hf, (of_decide_eq_true hfp).symm⟩

theorem HookInv.congr (h : HookInv w₀ fs dirs w) (hdb : w'.db = w.db)
    (hdirs : ∀ p, (w'.dirs p).isSome → (w.dirs p).isSome ∨ (w₀.dirs p).isSome ∨
      (w₀.stack p).length < (w.stack p).length)
    (hm : ∀ p, (w'.stack p).length ≤ (w.stack p).length) : HookInv w₀ fs dirs w' where
  base := hdb ▸ h.base
  nodup := h.nodup
  entries := hdb ▸ h.entries
  dirs := by
    intro p hp
    rcases hdirs p hp with hp | hp | hp
    · exact h.dirs p hp
    · exact Or.inl hp
    · exact Or.inr (Or.inr (h.mounted hp))
  mounts p := (hm p).trans (h.mounts p)

theorem HookInv.kept (h : HookInv w₀ fs dirs w) (hk : w.KeptTree w') : HookInv w₀ fs dirs w' :=
  h.congr hk.db (fun _ hp => Or.inl (hk.dirs ▸ hp)) fun _ =>
    (congrArg List.length (World.stack_congr hk.mounts)).le

/-- A new package. -/
theorem HookInv.add (h : HookInv w₀ fs dirs w) (hnew : ¬ w.db.Lists f) {data : MountedApexData}
    (hpath : data.fullPath = f.path) (hpoint : data.mountPoint = getPackageMountPoint f.manifest)
    (hdb : w'.db = w.db.emplace ⟨f.manifest.name, data, false⟩)
    (hdirs : ∀ p, (w'.dirs p).isSome → (w.dirs p).isSome ∨ p = getPackageMountPoint f.manifest)
    (hm : ∀ p, (w'.stack p).length ≤ (w.stack p).length + if getPackageMountPoint f.manifest =
      p then 1 else 0) :
    HookInv w₀ (fs ++ [f]) dirs w' := by
  have hkey : (⟨f.manifest.name, data, false⟩ : Entry).key = f.key :=
    congrArg (Prod.mk f.manifest.name) hpath
  have hno : ∀ x ∈ w.db, x.key ≠ f.key := fun x hx he => hnew ⟨x, hx, he⟩
  have hfresh : f.key ∉ fs.map ApexFile.key := by
    intro hm
    obtain ⟨g, hg, hgk⟩ := List.mem_map.1 hm
    obtain ⟨e, he, -⟩ := h.entries g hg
    have hmem : e ∈ w.db.filter fun e => decide (e.key = g.key) := he ▸ List.mem_singleton_self e
    obtain ⟨hmem, hek⟩ := List.mem_filter.1 hmem
    exact hno e hmem ((of_decide_eq_true hek).trans hgk)
  refine ⟨?_, ?_, ?_, ?_, fun p => ?_⟩
  · rw [hdb, filter_emplace (by simp [hkey]), ← h.base]
    refine List.filter_congr fun x hx => ?_
    simp [hno x hx]
  · rw [List.map_append]
    exact List.nodup_append.2 ⟨h.nodup, List.nodup_singleton _, by
      intro a ha b hb he
      rw [List.mem_singleton.1 hb] at he
      exact hfresh (he ▸ ha)⟩
  · intro g hg
    rw [hdb]
    rcases List.mem_append.1 hg with hg | hg
    · have hne : f.key ≠ g.key := fun he => hfresh (he ▸ List.mem_map_of_mem hg)
      rw [filter_emplace (by simp [hkey, hne])]
      exact h.entries g hg
    · obtain rfl := List.mem_singleton.1 hg
      refine ⟨⟨g.manifest.name, data, false⟩, ?_, hpoint, rfl⟩
      have hone := filter_emplace_key (e := ⟨g.manifest.name, data, false⟩) fun x hx he =>
        hno x hx (he.trans hkey)
      rwa [hkey] at hone
  · intro p hp
    rcases hdirs p hp with hp | rfl
    · rcases h.dirs p hp with h₀ | hd | ⟨g, hg, hgp⟩
      · exact Or.inl h₀
      · exact Or.inr (Or.inl hd)
      · exact Or.inr (Or.inr ⟨g, List.mem_append_left _ hg, hgp⟩)
    · exact Or.inr (Or.inr ⟨f, List.mem_append_right _ (List.mem_singleton_self f), rfl⟩)
  · have := h.mounts p
    have := hm p
    rw [List.countP_append, List.countP_singleton]
    simp only [decide_eq_true_eq]
    omega

/-- A new active mount point. -/
theorem HookInv.addDir (h : HookInv w₀ fs dirs w) {d : String} (hdb : w'.db = w.db)
    (hm : w'.mounts = w.mounts)
    (hdirs : ∀ p, (w'.dirs p).isSome → (w.dirs p).isSome ∨ p = d) :
    HookInv w₀ fs (dirs ++ [d]) w' where
  base := hdb ▸ h.base
  nodup := h.nodup
  entries := hdb ▸ h.entries
  dirs := by
    intro p hp
    rcases hdirs p hp with hp | rfl
    · exact (h.dirs p hp).imp_right fun ho => ho.imp_left (List.mem_append_left _)
    · exact Or.inr (Or.inl (List.mem_append_right _ (List.mem_singleton_self p)))
  mounts p := World.stack_congr (p := p) hm ▸ h.mounts p

/-- The entry of the first package goes, and a mount of it. -/
theorem HookInv.removed (h : HookInv w₀ (f :: fs) dirs w) {w₁ w₂ : World}
    (hw₁ : w₁ = { w with db := w.db.removeMountedApex f.manifest.name f.path })
    {r : Except Errno Unit} (hw₂ : (r, w₂) = w₁.umount2 (getPackageMountPoint f.manifest)) :
    HookInv w₀ fs (getPackageMountPoint f.manifest :: dirs) w₂ := by
  have honly := World.umount2_onlyMounts hw₂
  have hdb₂ : w₂.db = w.db.removeMountedApex f.manifest.name f.path := by rw [honly, hw₁]
  have hdirs₂ : w₂.dirs = w.dirs := by rw [honly, hw₁]
  have hstack : ∀ q, (w₂.stack q).length = (w.stack q).length - if getPackageMountPoint f.manifest =
      q then 1 else 0 :=
    fun q => (stack_umount2 hw₂ q).trans (by rw [hw₁]; rfl)
  obtain ⟨e, he, -⟩ := h.entries f List.mem_cons_self
  have hdb : w.db.removeMountedApex f.manifest.name f.path = w.db.filter fun x =>
      decide (x.key ≠ f.key) :=
    removeMountedApex_eq_filter (k := f.key) he
  obtain ⟨hnew, hnodup⟩ := List.nodup_cons.1 h.nodup
  refine ⟨?_, hnodup, ?_, ?_, fun q => ?_⟩
  · rw [hdb₂, hdb, List.filter_filter, ← h.base]
    refine List.filter_congr fun x _ => ?_
    simp [not_or, Bool.and_comm]
  · intro g hg
    have hne : f.key ≠ g.key := fun heq => hnew (heq ▸ List.mem_map_of_mem hg)
    obtain ⟨e', he', hrest⟩ := h.entries g (List.mem_cons_of_mem _ hg)
    rw [hdb₂]
    exact ⟨e', (filter_removeMountedApex (k := f.key) he hne).trans he', hrest⟩
  · intro p hp
    rw [hdirs₂] at hp
    rcases h.dirs p hp with h₀ | hd | ⟨g, hg, rfl⟩
    · exact Or.inl h₀
    · exact Or.inr (Or.inl (List.mem_cons_of_mem _ hd))
    · rcases List.mem_cons.1 hg with rfl | hg
      · exact Or.inr (Or.inl List.mem_cons_self)
      · exact Or.inr (Or.inr ⟨g, hg, rfl⟩)
  · have hle := h.mounts q
    rw [List.countP_cons] at hle
    simp only [decide_eq_true_eq] at hle
    rw [hstack]
    omega

/-- `rmdir` of a directory the guard knows. -/
theorem HookInv.rmdir {d : String} (h : HookInv w₀ fs (d :: dirs) w) {r : Except Errno Unit}
    (hs : (hookKernel w₀).sem (.rmdir d) w r w') : HookInv w₀ fs dirs w' where
  base := rmdir_db hs ▸ h.base
  nodup := h.nodup
  entries := rmdir_db hs ▸ h.entries
  dirs := by
    intro p hp
    obtain ⟨hw, h₀⟩ := rmdir_takesDown hs hp
    rcases h.dirs p hw with hb | hd | hf
    · exact Or.inl hb
    · rcases List.mem_cons.1 hd with rfl | hd
      · exact (h₀ rfl).imp_right fun hm => Or.inr (h.mounted hm)
      · exact Or.inr (Or.inl hd)
    · exact Or.inr (Or.inr hf)
  mounts p := World.stack_congr (p := p) (rmdir_mounts hs) ▸ h.mounts p

theorem HookInv.done (h : HookInv w₀ [] [] w) :
    w.db = w₀.db ∧ ∀ p, (w.dirs p).isSome → (w₀.dirs p).isSome := by
  refine ⟨by simpa using h.base, fun p hp => ?_⟩
  rcases h.dirs p hp with h₀ | hd | ⟨f, hf, -⟩
  · exact h₀
  · cases hd
  · cases hf

/-- **Undoing one mount**: the entry goes, and with it the mount point. -/
theorem HookInv.wp_unmountPackage (h : HookInv w₀ (f :: fs) dirs w) :
    wp (watchedHook kind apexes w₀) (fun _ => True) (unmountPackage f false)
      (fun _ w' => HookInv w₀ fs dirs w') w := by
  obtain ⟨e, he, hpoint, hlatest⟩ := h.entries f List.mem_cons_self
  rw [unmountPackage_eq]
  refine ⟨trivial, trivial, fun db w₁ hs₁ => ?_⟩
  obtain ⟨-, ⟨rfl, rfl⟩ | ⟨hf, -⟩⟩ := hs₁
  · have hfound : w₁.db.foundEntry? f = some e := by
      rw [foundEntry?_eq_filter, he]
      rfl
    dsimp only
    rw [hfound]
    dsimp only
    unfold detachActive
    rw [hlatest]
    -- the entry was added by the call, so nothing is active at `/apex/<name>`
    refine ⟨trivial, trivial, fun db w₂ hs₂ => ?_⟩
    obtain ⟨-, ⟨rfl, rfl⟩ | ⟨hf, -⟩⟩ := hs₂
    · refine ⟨trivial, trivial, fun u w₃ hs₃ => ?_⟩
      obtain ⟨-, rfl | ⟨hf, -⟩⟩ := hs₃
      · have hdevices : (unmountDevices e.data).Uses KeepsTree := by
          refine uses_bind (uses_when (uses_logged ?_)) fun _ => uses_when ?_
          · exact (uses_deleteVerityDeviceByName _).mono fun _ h => h.keepsTree
          · exact (uses_destroyLoopDevice _).mono fun _ h => h.keepsTree
        have hrest : ∀ w₄, HookInv w₀ fs (getPackageMountPoint f.manifest :: dirs) w₄ →
            wp (watchedHook kind apexes w₀) (fun _ => True)
              (call (.rmdir e.data.mountPoint) fun _ => unmountDevices e.data)
              (fun _ w' => HookInv w₀ fs dirs w') w₄ := by
          intro w₄ h₄
          rw [hpoint]
          refine ⟨trivial, trivial, fun r w₅ hs₅ => ?_⟩
          exact (wp_keepsTree hdevices).imp fun _ _ _ hk => (h₄.rmdir hs₅).kept hk
        show wp _ _ (unmount e.data) _ _
        rw [unmount_eq]
        refine ⟨trivial, trivial, fun r w₄ hs₄ => ?_⟩
        have hpop := umount2_takesDown hs₄
        have h₄ : HookInv w₀ fs (getPackageMountPoint f.manifest :: dirs) w₄ :=
          h.removed rfl (hpoint ▸ hpop)
        cases r with
        | ok _ => exact hrest w₄ h₄
        | error err =>
          refine wp_bind.2 (wp_require.2 ⟨trivial, ?_⟩)
          have herr : err = .einval ∨ err = .enoent := by
            unfold World.umount2 at hpop
            split at hpop
            · have := Except.error.inj (congrArg Prod.fst hpop)
              split at this
              · exact Or.inl this
              · exact Or.inr this
            · cases hpop
          rw [if_pos (by simpa using herr)]
          exact hrest w₄ h₄
      · exact hf.elim
    · exact hf.elim
  · exact hf.elim

/-- What `MountPackage` may add: a mount and a directory at the mount point; after a failure there
is no new mount, and the directory is gone again unless it was there at the start or something more
is mounted on it. -/
def World.MayMount (w₀ w : World) (mountPoint : String) :
    Except String MountedApexData → World → Prop
  | .ok _, w' => w'.db = w.db ∧ (∀ p, (w'.dirs p).isSome → (w.dirs p).isSome ∨ p = mountPoint) ∧
      ∀ p, (w'.stack p).length ≤ (w.stack p).length + if mountPoint = p then 1 else 0
  | .error _, w' => w'.db = w.db ∧
      (∀ p, (w'.dirs p).isSome → (w.dirs p).isSome ∨ (w₀.dirs p).isSome ∨
        (w₀.stack p).length < (w.stack p).length) ∧
      ∀ p, (w'.stack p).length ≤ (w.stack p).length

/-- The part under the guard, when at most the mount point is new. -/
theorem wp_mountInto_guarded (apex : ApexFile) (mountPoint deviceName : String)
    (verifyImage : Bool) {w₁ : World}
    (hdb : w₁.db = w.db) (hdirs : ∀ p, (w₁.dirs p).isSome → (w.dirs p).isSome ∨ p = mountPoint)
    (hm : w₁.mounts = w.mounts) :
    wp (watchedHook kind apexes w₀) (fun _ => True)
      ((mountInto cfg apex mountPoint deviceName verifyImage).onFail (removeMountPoint mountPoint))
      (w₀.MayMount w mountPoint) w₁ := by
  refine wp_onFail.2 ((mountsOnce_mountInto cfg apex deviceName verifyImage w₁).imp
    fun x w₂ _ hg => ?_)
  have hstack : ∀ q, (w₂.stack q).length ≤ (w.stack q).length + if x.isOk ∧
      mountPoint = q then 1 else 0 :=
    fun q => World.stack_congr (p := q) hm ▸ hg.stack q
  cases x with
  | ok data =>
    refine ⟨hg.db.trans hdb, fun p hp => hdirs p (hg.dirs ▸ hp), fun p => (hstack p).trans_eq ?_⟩
    simp [Except.isOk, Except.toBool]
  | error e =>
    have hle : ∀ q, (w₂.stack q).length ≤ (w.stack q).length := by
      intro q
      simpa [Except.isOk, Except.toBool] using hstack q
    refine ⟨trivial, trivial, fun r w₃ hs₃ => ⟨trivial, ?_, fun p hp => ?_, fun p => ?_⟩⟩
    · exact (rmdir_db hs₃).trans (hg.db.trans hdb)
    · obtain ⟨hp₂, h₀⟩ := rmdir_takesDown hs₃ hp
      rcases hdirs p (hg.dirs ▸ hp₂) with hp₁ | hp₁
      · exact Or.inl hp₁
      · exact Or.inr ((h₀ hp₁).imp_right fun hlt => Nat.lt_of_lt_of_le hlt (hle p))
    · rw [World.stack_congr (rmdir_mounts hs₃)]
      exact hle p

theorem wp_mountPackageImpl_tree (apex : ApexFile) (mountPoint deviceName : String)
    (verifyImage : Bool) :
    wp (watchedHook kind apexes w₀) (fun _ => True)
      (mountPackageImpl cfg apex mountPoint deviceName verifyImage)
      (w₀.MayMount w mountPoint) w := by
  have hkept : ∀ (e : String) w₁, w.KeptTree w₁ → w₀.MayMount w mountPoint (.error e) w₁ :=
      fun e w₁ hk =>
    ⟨hk.db, fun p hp => Or.inl (hk.dirs ▸ hp),
      fun p => (congrArg List.length (World.stack_congr hk.mounts)).le⟩
  rw [mountPackageImpl_eq]
  refine wp_keepsTree_bind (uses_pathExists trivial) (fun b w₁ hk => ?_) hkept
  have hstart : ∀ p, (w₁.dirs p).isSome → (w.dirs p).isSome ∨ p = mountPoint :=
    fun p hp => Or.inl (hk.dirs ▸ hp)
  refine wp_bind.2 (wp_when (fun _ => ?_) fun _ =>
    ⟨trivial, wp_mountInto_guarded _ _ _ _ hk.db hstart hk.mounts⟩)
  rw [bind_eq, exec_bind]
  refine ⟨trivial, trivial, fun r w₂ hs₂ => ?_⟩
  obtain ⟨-, hn | ⟨⟨e, -, rfl⟩, rfl⟩⟩ := hs₂
  · have hdb : w₂.db = w.db := by rw [World.mkdir_onlyDirs hn, hk.db]
    have hm : w₂.mounts = w.mounts := by rw [World.mkdir_onlyDirs hn, hk.mounts]
    cases r with
    | error e =>
      refine ⟨trivial, hdb, fun p hp => ?_,
        fun p => (congrArg List.length (World.stack_congr hm)).le⟩
      rcases mkdir_hasDir hn hp with hp | ⟨hr, -⟩
      · exact Or.inl (hk.dirs ▸ hp)
      · cases hr
    | ok _ =>
      refine ⟨trivial, wp_mountInto_guarded _ _ _ _ hdb (fun p hp => ?_) hm⟩
      rcases mkdir_hasDir hn hp with hp | ⟨-, hp⟩
      · exact hstart p hp
      · exact Or.inr hp
  · exact ⟨trivial, hkept (perror ("Could not create mount point " ++ mountPoint) e) _ hk⟩

/-- The first step for a package: it is in the database afterwards. -/
theorem HookInv.wp_hookMount (h : HookInv w₀ fs dirs w) (apex : ApexFile) :
    wp (watchedHook kind apexes w₀) (fun _ => True) (hookMount cfg apex) (fun
      | .ok mounted, w' =>
        HookInv w₀ (if mounted then fs ++ [apex] else fs) dirs w' ∧ w'.db.Lists apex ∧
          ∀ g, w.db.Lists g → w'.db.Lists g
      | .error _, w' => HookInv w₀ fs dirs w') w := by
  refine ⟨trivial, trivial, fun db w₁ hs₁ => ?_⟩
  obtain ⟨-, ⟨rfl, rfl⟩ | ⟨hf, -⟩⟩ := hs₁
  · show wp _ _ (if _ then _ else _) _ _
    split
    · rename_i hm
      exact ⟨trivial, h, (isMounted_iff apex).1 hm, fun g hg => hg⟩
    · rename_i hm
      have hnew : ¬ w₁.db.Lists apex := fun hl => hm ((isMounted_iff apex).2 hl)
      refine wp_bind.2 (wp_bind.2 (((wp_mountPackageImpl_tree apex _ _ _).yields
        (yields_mountPackageImpl apex _ _ _)).imp fun x w₂ _ hx => ?_))
      cases x with
      | error e => exact h.congr hx.1.1 hx.1.2.1 hx.1.2.2
      | ok data =>
        obtain ⟨⟨hdb, hdirs, hstack⟩, hdata⟩ := hx
        obtain ⟨hpoint, hpath⟩ := hdata data rfl
        refine ⟨trivial, trivial, fun db w₃ hs₃ => ?_⟩
        obtain ⟨-, ⟨rfl, rfl⟩ | ⟨hf, -⟩⟩ := hs₃
        · simp only [ret_bind]
          cases hadd : Db.addMountedApex w₃.db apex.manifest.name false data with
          | none => exact ⟨trivial, trivial, fun r _ _ => r.elim⟩
          | some db' =>
            refine ⟨trivial, trivial, fun u w₄ hs₄ => ?_⟩
            obtain ⟨-, rfl | ⟨hf, -⟩⟩ := hs₄
            · have hdb' := Db.addMountedApex_eq_some hadd
              refine ⟨trivial, trivial, ?_, ?_, ?_⟩
              · exact h.add hnew hpath hpoint (by rw [hdb', hdb]) hdirs hstack
              · refine ⟨⟨apex.manifest.name, data, false⟩, ?_, congrArg (Prod.mk _) hpath⟩
                rw [hdb']
                exact Db.mem_emplace.2 (Or.inl rfl)
              · rintro g ⟨e, he, hk⟩
                refine ⟨e, ?_, hk⟩
                rw [hdb', hdb]
                exact Db.mem_emplace.2 (Or.inr he)
            · exact hf.elim
        · exact hf.elim
  · exact hf.elim

/-- The second step: the active mount point. -/
theorem HookInv.wp_hookActivationDir (h : HookInv w₀ fs dirs w) (apex : ApexFile) :
    wp (watchedHook kind apexes w₀) (fun _ => True) (hookActivationDir apex) (fun
      | .ok made, w' =>
        HookInv w₀ fs (if made then dirs ++ [getActiveMountPoint apex.manifest] else dirs) w' ∧
          w'.db = w.db
      | .error _, w' => HookInv w₀ fs dirs w') w := by
  refine ⟨trivial, trivial, fun r w₁ hs₁ => ?_⟩
  obtain ⟨-, hn | ⟨⟨e, he, rfl⟩, rfl⟩⟩ := hs₁
  · have hdb : w₁.db = w.db := by rw [World.mkdir_onlyDirs hn]
    have hm : w₁.mounts = w.mounts := by rw [World.mkdir_onlyDirs hn]
    cases r with
    | ok _ =>
      refine ⟨trivial, h.addDir hdb hm fun p hp => ?_, hdb⟩
      exact (mkdir_hasDir hn hp).imp_right And.right
    | error e =>
      have hsame : HookInv w₀ fs dirs w₁ := by
        refine h.congr hdb (fun p hp => ?_) fun p =>
          (congrArg List.length (World.stack_congr hm)).le
        rcases mkdir_hasDir hn hp with hp | ⟨hr, -⟩
        · exact Or.inl hp
        · cases hr
      cases e <;> first | exact ⟨trivial, hsame, hdb⟩ | exact ⟨trivial, hsame⟩
  · cases e <;> first | exact absurd he (by decide) | exact ⟨trivial, h⟩

/-- **The scope guard** undoes everything. -/
theorem HookInv.wp_undo {m : HookMounts} (h : HookInv w₀ m.mountedApexes m.activationDirs w) :
    wp (watchedHook kind apexes w₀) (fun _ => True) m.undo (fun _ w' => HookInv w₀ [] [] w') w := by
  unfold HookMounts.undo
  refine wp_bind.2 (wp_forM (fun fs w => HookInv w₀ fs m.activationDirs w) _ ?_ ?_ h)
  · intro f fs w₁ _ h₁
    exact wp_bind.2 (wp_attempt.2 (h₁.wp_unmountPackage.imp fun x w₂ _ h₂ => ⟨trivial, h₂⟩))
  · intro w₁ h₁
    refine ⟨trivial, wp_forM (fun dirs w => HookInv w₀ [] dirs w) _ ?_ ?_ h₁⟩
    · intro d dirs w₂ _ h₂
      exact ⟨trivial, trivial, fun r w₃ hs₃ => ⟨trivial, h₂.rmdir hs₃⟩⟩
    · intro w₂ h₂
      exact ⟨trivial, h₂⟩

theorem Db.Lists.congr {db db' : Db} (h : db' = db) {g : ApexFile} (hg : db.Lists g) :
    db'.Lists g := h ▸ hg

/-- The loop, with the packages that are done; `run` is what follows it under the guard. -/
theorem wp_stageFnInstallLoop {run : ApexM Unit} (hrun : ∀ w, (∀ g ∈ apexes, w.db.Lists g) →
      wp (watchedHook kind apexes w₀) (fun _ => True) run (fun _ w' => w.KeptTree w') w)
    (rest finished : List ApexFile) {m : HookMounts} {w : World} (hlist : finished ++ rest = apexes)
    (hdone : ∀ g ∈ finished, w.db.Lists g) (h : HookInv w₀ m.mountedApexes m.activationDirs w) :
    wp (watchedHook kind apexes w₀) (fun _ => True) (stageFnInstallLoop cfg run rest m)
      (fun _ w' => HookInv w₀ [] [] w') w := by
  induction rest generalizing finished m w with
  | nil =>
    rw [List.append_nil] at hlist
    subst hlist
    exact wp_andThen.2 ((hrun w hdone).imp fun x w₁ _ hk => (h.kept hk).wp_undo)
  | cons apex rest ih =>
    have hsecond : ∀ (m₁ : HookMounts) (w₁ : World),
      HookInv w₀ m₁.mountedApexes m₁.activationDirs w₁ →
        w₁.db.Lists apex → (∀ g ∈ finished, w₁.db.Lists g) →
        wp (watchedHook kind apexes w₀) (fun _ => True) (do
          let made ← (hookActivationDir apex).onFail m₁.undo
          let m := if made then
            { m₁ with activationDirs := m₁.activationDirs ++ [getActiveMountPoint apex.manifest] }
              else m₁
          stageFnInstallLoop cfg run rest m) (fun _ w' => HookInv w₀ [] [] w') w₁ := by
      intro m₁ w₁ h₁ hlisted hmore
      refine wp_bind.2 (wp_onFail.2 ((h₁.wp_hookActivationDir apex).imp fun x w₂ _ h₂ => ?_))
      cases x with
      | error e => exact h₂.wp_undo
      | ok made =>
        obtain ⟨h₂, hdb⟩ := h₂
        refine ih (finished ++ [apex]) (by rw [← hlist, List.append_assoc]; rfl) ?_ ?_
        · intro g hg
          rcases List.mem_append.1 hg with hg | hg
          · exact (hmore g hg).congr hdb
          · rw [List.mem_singleton.1 hg]
            exact hlisted.congr hdb
        · cases made <;> exact h₂
    refine wp_bind.2 (wp_onFail.2 ((h.wp_hookMount apex).imp fun x w₁ _ h₁ => ?_))
    cases x with
    | error e => exact h₁.wp_undo
    | ok mounted =>
      obtain ⟨h₁, hlisted, hmore⟩ := h₁
      cases mounted <;> exact hsecond _ w₁ h₁ hlisted fun g hg => hmore g (hdone g hg)

end Guard

/-! ## The hook -/

section Hook

variable {kind : HookKind} {f g : ApexFile}

theorem findHookFile_some {l : List ApexFile} (h : findHookFile kind l (some g) = .ok (some f)) :
    f = g ∧ l.filter (fun a => kind.fn a.manifest ≠ "") = [] := by
  induction l with
  | nil =>
    cases h
    exact ⟨rfl, rfl⟩
  | cons a l ih =>
    unfold findHookFile at h
    split at h
    · rename_i ha
      rw [List.filter_cons_of_neg (by simp [ha])]
      exact ih h
    · cases h

/-- The package with the hook is found only if it is the only one. -/
theorem findHookFile_none {l : List ApexFile} (h : findHookFile kind l none = .ok (some f)) :
    l.filter (fun a => kind.fn a.manifest ≠ "") = [f] := by
  induction l with
  | nil => cases h
  | cons a l ih =>
    unfold findHookFile at h
    split at h
    · rename_i ha
      rw [List.filter_cons_of_neg (by simp [ha]), ih h]
    · rename_i ha
      obtain ⟨rfl, hnone⟩ := findHookFile_some h
      rw [List.filter_cons_of_pos (by simp [ha]), hnone]

theorem wp_stageFnInstall (cfg : Config) (kind : HookKind) (apexes : List ApexFile) (w : World) :
    wp (watchedHook kind apexes w) (fun _ => True) (stageFnInstall cfg kind apexes)
      (fun _ w' => HookInv w [] [] w') w := by
  unfold stageFnInstall
  cases hfind : findHookFile kind apexes none with
  | error e => exact ⟨trivial, .start w⟩
  | ok hookFile =>
    cases hookFile with
    | none => exact ⟨trivial, trivial, fun r _ _ => r.elim⟩
    | some f =>
      refine wp_stageFnInstallLoop (fun w₁ hlisted => ?_) apexes [] rfl (by simp) (.start w)
      refine ⟨trivial, ⟨?_, hlisted⟩, fun r w₂ hs₂ => wp_ofExcept.2 ⟨trivial, ?_⟩⟩
      · rw [findHookFile_none hfind]
        rfl
      · obtain ⟨-, ⟨-, rfl⟩ | ⟨-, rfl⟩⟩ := hs₂ <;> exact .refl _

/-- **Running a hook**: the process is forked only if exactly one package of the list has the hook
and all of them are in the database under their paths; when the call returns, the database is what
it was and there is no directory that was not there before. -/
theorem stageFnInstall_restores {cfg : Config} {kind : HookKind} {apexes : List ApexFile}
    {w w' : World}
    {q : ApexM Unit} (hr : Reaches (hookKernel w) (stageFnInstall cfg kind apexes) w q w') :
    (∀ args k, q = call (.forkAndRun args) k →
      (apexes.filter fun f => kind.fn f.manifest ≠ "").length = 1 ∧ ∀ f ∈ apexes, w'.db.Lists f) ∧
    ∀ x, q = ofExcept x → w'.db = w.db ∧ ∀ p, (w'.dirs p).isSome → (w.dirs p).isSome := by
  have hwp := wp_stageFnInstall cfg kind apexes w
  constructor
  · rintro args k rfl
    exact hwp.pre_reached hr
  · rintro x rfl
    exact (hwp.ends (x := x) (Reaches.withPre hr)).done

end Hook

/-! ## The calls that run a hook -/

section Calls

variable {S : Sys → Prop} {cfg : Config} {kind : HookKind}
  (hmount : ∀ apex, (mountPackage cfg apex (getPackageMountPoint apex.manifest)).Uses S)
  (hunmount : ∀ apex, (unmountPackage apex false).Uses S) (hdb : S .getDb)
    (hmkdir : ∀ p m, S (.mkdir p m))
  (hrmdir : ∀ p, S (.rmdir p))
include hmount hunmount hdb hmkdir hrmdir

theorem uses_stageFnInstallLoop_of {run : ApexM Unit} (hrun : run.Uses S) (apexes : List ApexFile)
    (m : HookMounts) : (stageFnInstallLoop cfg run apexes m).Uses S := by
  have hundo : ∀ m : HookMounts, m.undo.Uses S := fun m =>
    uses_bind (uses_forM _ fun f _ => uses_logged (hunmount f)) fun _ =>
      uses_forM _ fun p _ => uses_exec_bind (hrmdir p) fun _ => trivial
  induction apexes generalizing m with
  | nil => exact uses_andThen hrun (hundo m)
  | cons apex rest ih =>
    refine uses_bind (uses_onFail ?_ (hundo m)) fun b => ?_
    · refine uses_exec_bind hdb fun db => uses_ite trivial ?_
      exact uses_bind (hmount _) fun _ => trivial
    · refine uses_bind (uses_onFail (uses_exec_bind (hmkdir _ _) fun r => ?_) (hundo _)) fun b =>
        ih _
      split <;> trivial

theorem uses_prePostinstallPackages_of (habort : ∀ m, S (.abort m)) {apexes : List ApexFile}
    (hfork : ∀ f, findHookFile kind apexes none = .ok (some f) →
      S (.forkAndRun (hookArgs kind apexes f))) :
    (prePostinstallPackages cfg kind apexes).Uses S := by
  refine uses_bind (uses_require _ _) fun _ => uses_ite ?_ trivial
  unfold stageFnInstall
  cases hfind : findHookFile kind apexes none with
  | error e => trivial
  | ok hookFile =>
    cases hookFile with
    | none => exact uses_exec_bind (habort _) fun r => r.elim
    | some f =>
      refine uses_stageFnInstallLoop_of hmount hunmount hdb hmkdir hrmdir ?_ _ _
      exact uses_bind (uses_exec (hfork f hfind)) fun r => uses_ofExcept r

end Calls

/-! ## Packages to be mounted for a hook -/

def hookManifest : ApexManifest := { plainManifest 2 version_two with preInstallHook := "bin/hook" }

def hookPackage : ApexFile := ⟨"/data/app-staging/a.apex", false, 4096, 8192, hookManifest, []⟩

def otherPackage (path : String) : ApexFile := ⟨path, false, 4096, 8192, plainOther, []⟩

/-- Two packages, and a second file of one of them. -/
def hookWorld : World := World.ofDirs
  [ (kApexRoot, Dir.empty 0o755),
    ("/data/app-staging", ⟨0o755, [("a.apex", .file ⟨2, .apex (soundContent hookManifest)⟩),
      ("b.apex", .file ⟨3, .apex (soundContent plainOther)⟩),
      ("b2.apex", .file ⟨4, .apex (soundContent plainOther)⟩)], by decide, by decide⟩) ]

/-- What the system calls of a computed run must do. -/
def Sys.takesDown? (w₀ : World) : (c : Sys) → World → c.Res → Bool
  | .rmdir p, w, .error _ =>
    (w₀.dirs p).isSome || (w.dirs p).isNone || decide ((w₀.stack p).length < (w.stack p).length)
  | _, _, _ => true

def hookStep (w₀ : World) : (c : Sys) → World → Option (c.Res × World) :=
    onlyStep Sys.run (Sys.takesDown? w₀)

theorem hookStep_sem {w₀ : World} (c : Sys) (w : World) (r : c.Res) (w' : World)
    (h : hookStep w₀ c w = some (r, w')) : (hookKernel w₀).sem c w r w' := by
  refine onlyStep_sem (fun c w r w' hs hok => ⟨?_, Sys.run_sem c w r w' hs⟩) c w r w' h
  cases c with
  | umount2 p =>
    have hr : (r, w') = w.umount2 p := Sys.run_normal (c := .umount2 p) hs
    exact congrArg Prod.fst hr
  | rmdir p =>
    cases r with
    | ok _ => exact Or.inr (Or.inr (Or.inl rfl))
    | error e => simpa [Sys.TakesDown, Sys.takesDown?, or_assoc] using hok
  | _ => trivial

/-- The pre-install hook of the one package, with the packages at the paths. -/
def hookRun (paths : List String) : ApexM Unit × World :=
  runN (hookStep hookWorld) 120
    (stageFnInstall deviceConfig .preInstall (hookPackage :: paths.map otherPackage)) hookWorld

/-- The hook is run with both packages mounted; with a second file of one of them in the list the
call fails, as its mount point is in use.  Nothing is left in either case. -/
theorem stageFnInstall_restores_hook :
    (hookRun ["/data/app-staging/b.apex"]).1.result? = some (.ok ()) ∧
    (hookRun ["/data/app-staging/b.apex"]).2.db = [] ∧
    (hookRun ["/data/app-staging/b.apex", "/data/app-staging/b2.apex"]).1.result? = some
    (.error "/apex/b@1 is not empty: Success") ∧
    (hookRun ["/data/app-staging/b.apex", "/data/app-staging/b2.apex"]).2.db = [] ∧
    ∀ p, ((hookRun ["/data/app-staging/b.apex", "/data/app-staging/b2.apex"]).2.dirs p).isSome →
      (hookWorld.dirs p).isSome := by
  have hone : (hookRun ["/data/app-staging/b.apex"]).1.result? = some (.ok ()) := by decide
  have htwo : (hookRun ["/data/app-staging/b.apex", "/data/app-staging/b2.apex"]).1.result? =
      some (.error "/apex/b@1 is not empty: Success") := by decide
  have hleft := (stageFnInstall_restores (runN_reaches hookStep_sem 120 _ hookWorld)).2 _
    (result?_eq_some.1 hone)
  have hnone := (stageFnInstall_restores (runN_reaches hookStep_sem 120 _ hookWorld)).2 _
    (result?_eq_some.1 htwo)
  exact ⟨hone, hleft.1, htwo, hnone.1, hnone.2⟩

end Apexd
