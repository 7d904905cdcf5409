import Apexd.MountPoint
import Apexd.ScanLatest
import Apexd.Unmount

/-!
# The database and the active mounts

Which entry is flagged, and what is bound on the active mount point of its package, over calls of
which any part may be refused.

* `World.Mirrors` — an entry is flagged exactly when `/apex/<name>` is bound from its mount point.
* `World.stack` — the mounts on one mount point, the topmost first.
* `Mirrored` — the invariant of the calls: for each package there is a flagged entry and its binding
  is the only mount, or neither.
* `mounts_mirrored` — it holds as long as `BindMount` binds what it has detached, and is refused
  only where the old binding still stands.
-/

set_option autoImplicit false

namespace Apexd

open Text Prog

/-! ## The calls -/

/-- The calls that mount and unmount packages. -/
inductive MountCall where
  | activatePackage (fullPath : String)
  | deactivatePackage (fullPath : String)
  | scanPackagesDirAndActivate (apexPackageDir : String)

def MountCall.prog (cfg : Config) : MountCall → ApexM Unit
  | .activatePackage fullPath => Apexd.activatePackage cfg fullPath
  | .deactivatePackage fullPath => Apexd.deactivatePackage fullPath
  | .scanPackagesDirAndActivate apexPackageDir =>
    Apexd.scanPackagesDirAndActivate cfg apexPackageDir

/-- The states after each call of a sequence. -/
inductive MountRuns (K : Kernel Sys Sys.Res World) (cfg : Config) (w₀ : World) : World → Prop where
  | start : MountRuns K cfg w₀ w₀
  | call {w w' : World} {c : MountCall} {x : Except String Unit} (h : MountRuns K cfg w₀ w)
      (he : Ends K (c.prog cfg) w x w') : MountRuns K cfg w₀ w'

def Entry.activeMountPoint (e : Entry) : String := join kApexRoot e.package

/-- An entry is flagged exactly when its mount point is what is bound on the active mount point. -/
def World.Mirrors (w : World) : Prop := ∀ e ∈ w.db,
  e.latest = true ↔ ∃ m, w.mounted e.activeMountPoint = some m ∧ m.source = some e.data.mountPoint

/-- Nothing is known to be mounted, and `/apex` is empty. -/
structure World.NothingMounted (w : World) : Prop where
  db : w.db = []
  mounts : ∀ p, belowApex p → w.mounted p = none
  files : ∀ p, belowApex p → w.file? p = none

/-- The mount points of different packages and versions are different directories: every name is
that of a directory, and none is like a version of a package. -/
structure World.NamesApart (w : World) : Prop where
  component : ∀ p a, w.openApex p = .ok a → Component a.manifest.name
  apart : ∀ p q a b, w.openApex p = .ok a → w.openApex q = .ok b →
    a.manifest.name ≠ getPackageId b.manifest

/-- A package is bound on its active mount point only where nothing is mounted any more, and that is
refused only where something still is, if a version of it is flagged. -/
def Sys.Rebinds : (c : Sys) → World → c.Res → Prop
  | .bindMount _ t, w, r => ∀ e ∈ w.db, e.activeMountPoint = t →
      if r = .ok () then w.mounted t = none else e.latest = true → w.mounted t ≠ none
  | _, _, _ => True

/-- Any call but the opening of a package may be refused, within these bounds. -/
def rebindKernel : Kernel Sys Sys.Res World := (kernel .off Sys.RefusedButOpen).only Sys.Rebinds

theorem readsPackages_rebind : ReadsPackages rebindKernel where
  preOpen _ _ := trivial
  preDb _ := trivial
  openApex p w r w' h := readsPackages_refusedButOpen.openApex p w r w' h.2
  getDb w r w' h := readsPackages_refusedButOpen.getDb w r w' h.2

/-! ## The invariant -/

/-- Nothing is mounted on the active mount point of a package and none of its versions is flagged,
or the flagged version is all that is bound there. -/
def World.NameMirrored (w : World) (name : String) : Prop :=
  (w.stack (join kApexRoot name) = [] ∧ ∀ e ∈ w.db, e.package = name → e.latest = false) ∨
  ∃ l ∈ w.db, l.package = name ∧
    (∃ m, w.stack (join kApexRoot name) = [m] ∧ m.source = some l.data.mountPoint) ∧
    ∀ e ∈ w.db, e.package = name → (e.latest = true ↔ e = l)

/-- What holds between the calls. -/
structure Mirrored (w₀ w : World) : Prop where
  files : ∀ q, w.file? q = w₀.file? q
  opens : ∀ e ∈ w.db, ∃ apex, w₀.openApex e.data.fullPath = .ok apex ∧
    e.package = apex.manifest.name ∧ e.data.mountPoint = getPackageMountPoint apex.manifest
  points : w.db.Pairwise fun a b => a.data.mountPoint ≠ b.data.mountPoint
  names : ∀ p apex, w₀.openApex p = .ok apex → w.NameMirrored apex.manifest.name

section Invariant

variable {w₀ w w' : World} {name : String}

theorem Mirrored.eq_of_point (h : Mirrored w₀ w) {a b : Entry} (ha : a ∈ w.db) (hb : b ∈ w.db)
    (hp : a.data.mountPoint = b.data.mountPoint) : a = b := by
  by_contra hne
  have hsymm : Std.Symm fun a b : Entry => a.data.mountPoint ≠ b.data.mountPoint :=
    ⟨fun _ _ h => h.symm⟩
  exact h.points.forall ha hb hne hp

theorem Mirrored.mirrors (h : Mirrored w₀ w) : w.Mirrors := by
  intro e he
  obtain ⟨apex, hopen, hname, _⟩ := h.opens e he
  have hmirror := h.names _ apex hopen
  rw [← hname] at hmirror
  unfold Entry.activeMountPoint
  rw [World.mounted_eq_head?]
  rcases hmirror with ⟨hstack, hnone⟩ | ⟨l, hl, _, ⟨m, hstack, hsource⟩, hlatest⟩
  · rw [hstack, hnone e he rfl]
    simp
  · rw [hstack, hlatest e he rfl]
    constructor
    · rintro rfl
      exact ⟨m, rfl, hsource⟩
    · rintro ⟨_, ⟨⟩, hs⟩
      exact h.eq_of_point he hl (Option.some.inj (hs.symm.trans hsource))

theorem Mirrored.start (h : w.NothingMounted) : Mirrored w w where
  files _ := rfl
  opens := by simp [h.db]
  points := by simp [h.db]
  names p apex _ := by
    refine Or.inl ⟨?_, by simp [h.db]⟩
    have hnone := h.mounts _ (below_activeMountPoint apex.manifest)
    rw [World.mounted_eq_head?] at hnone
    exact List.head?_eq_none_iff.1 hnone

theorem Mirrored.openApex (h : Mirrored w₀ w) :
    w.openApex = w₀.openApex := funext (World.openApex_of_files h.files)

/-- The entries and the mounts of one package are the same. -/
theorem World.NameMirrored.congr (h : w.NameMirrored name)
    (hstack : w'.stack (join kApexRoot name) = w.stack (join kApexRoot name))
    (hdb : ∀ e : Entry, e.package = name → (e ∈ w'.db ↔ e ∈ w.db)) : w'.NameMirrored name := by
  rcases h with ⟨hs, hnone⟩ | ⟨l, hl, hname, ⟨m, hs, hsource⟩, hlatest⟩
  · exact Or.inl ⟨hstack.trans hs, fun e he hp => hnone e ((hdb e hp).1 he) hp⟩
  · exact Or.inr ⟨l, (hdb l hname).2 hl, hname, ⟨m, hstack.trans hs, hsource⟩,
      fun e he hp => hlatest e ((hdb e hp).1 he) hp⟩

theorem Mirrored.congr (h : Mirrored w₀ w) (hf : ∀ q, w'.file? q = w.file? q) (hdb : w'.db = w.db)
    (hstack : ∀ p apex, w₀.openApex p = .ok apex →
      w'.stack (getActiveMountPoint apex.manifest) = w.stack (getActiveMountPoint apex.manifest)) :
        Mirrored w₀ w' where
  files q := (hf q).trans (h.files q)
  opens := hdb ▸ h.opens
  points := hdb ▸ h.points
  names p apex hp := (h.names p apex hp).congr (hstack p apex hp) fun _ _ => by rw [hdb]

theorem Mirrored.same (h : Mirrored w₀ w) (hs : w.SameMounts w') : Mirrored w₀ w' :=
  h.congr hs.files hs.db fun _ _ _ => World.stack_congr hs.mounts

end Invariant

/-! ## What the calls do to it -/

section Operations

variable {w₀ w w' : World} {apex : ApexFile}

theorem World.NamesApart.active_ne (hn : w₀.NamesApart)
    (ho : w₀.openApex apex.path = .ok apex) {p : String}
    {a : ApexFile} (ha : w₀.openApex p = .ok a) :
    getPackageMountPoint apex.manifest ≠ getActiveMountPoint a.manifest := fun he =>
  hn.apart p apex.path a apex ha ho (join_right_inj.1 he).symm

/-- A package is mounted. -/
theorem Mirrored.pushed (h : Mirrored w₀ w) (hn : w₀.NamesApart)
    (ho : w₀.openApex apex.path = .ok apex) {m : Mount}
    (hm : m.mountPoint = getPackageMountPoint apex.manifest) (hpush : w.Pushed m w') :
    Mirrored w₀ w' := by
  refine h.congr hpush.files hpush.db fun p a ha => ?_
  rw [World.stack_push hpush.mounts, hm, if_neg (hn.active_ne ho ha)]

/-- A package is unmounted. -/
theorem Mirrored.unmounted (h : Mirrored w₀ w) (hn : w₀.NamesApart)
    (ho : w₀.openApex apex.path = .ok apex)
    {F : Faults} {data : MountedApexData}
    (hd : data.mountPoint = getPackageMountPoint apex.manifest)
    (hu : Unmounted F data w w') : Mirrored w₀ w' := by
  refine h.congr hu.files hu.db fun p a ha => ?_
  rcases hu.mounts with hm | ⟨hm, _⟩
  · rw [World.stack_pop hm, hd, if_neg (hn.active_ne ho ha)]
  · exact World.stack_congr hm

/-- A package that was mounted gets an entry. -/
theorem Mirrored.add (h : Mirrored w₀ w) (ho : w₀.openApex apex.path = .ok apex)
    {d : MountedApexData}
    (hd : d.mountPoint = getPackageMountPoint apex.manifest ∧ d.fullPath = apex.path)
    (hno : ∀ e ∈ w.db, e.data.mountPoint ≠ getPackageMountPoint apex.manifest) :
    Mirrored w₀ { w with db := w.db.emplace ⟨apex.manifest.name, d, false⟩ } where
  files := h.files
  opens e he := by
    rcases Db.mem_emplace.1 he with rfl | he
    · exact ⟨apex, hd.2 ▸ ho, rfl, hd.1⟩
    · exact h.opens e he
  points := by
    refine ((Db.emplace_perm _ w.db).pairwise_iff fun h => Ne.symm h).2
      (List.pairwise_cons.2 ⟨?_, h.points⟩)
    intro e he hp
    exact hno e he (hp.symm.trans hd.1)
  names p a ha := by
    rcases h.names p a ha with ⟨hs, hnone⟩ | ⟨l, hl, hname, hs, hlatest⟩
    · refine Or.inl ⟨hs, fun e he hp => ?_⟩
      rcases Db.mem_emplace.1 he with rfl | he
      · rfl
      · exact hnone e he hp
    · refine Or.inr ⟨l, Db.mem_emplace.2 (Or.inr hl), hname, hs, fun e he hp => ?_⟩
      rcases Db.mem_emplace.1 he with rfl | he
      · -- the new entry is not flagged, the old one is
        have hflag := (hlatest l hl hname).2 rfl
        constructor
        · intro hf
          cases hf
        · rintro rfl
          exact hflag
      · exact hlatest e he hp

/-- An entry is taken out, after the active mount point was detached if it was flagged. -/
theorem Mirrored.forget (h : Mirrored w₀ w) (ho : w₀.openApex apex.path = .ok apex) {e : Entry}
    (hfound : w.db.foundEntry? apex = some e) (hfiles : ∀ q, w'.file? q = w.file? q)
    (hmounts : w'.mounts = if e.latest then
      w.mounts.eraseP fun m => m.mountPoint == getActiveMountPoint apex.manifest else w.mounts)
    (hdb : w'.db = w.db.removeMountedApex apex.manifest.name apex.path) : Mirrored w₀ w' := by
  obtain ⟨he, hpkg, hpath⟩ := Db.foundEntry?_mem hfound
  have hone : w.db.OnePath apex := by
    intro a ha b hb _ _ hpa hpb
    obtain ⟨x, hx, _, hax⟩ := h.opens a ha
    obtain ⟨y, hy, _, hby⟩ := h.opens b hb
    rw [hpa, ho] at hx
    rw [hpb, ho] at hy
    cases hx
    cases hy
    exact h.eq_of_point ha hb (hax.trans hby.symm)
  have hnodup : w.db.Nodup := h.points.imp fun hne heq => hne (congrArg (·.data.mountPoint) heq)
  have hmem : ∀ x, x ∈ w'.db ↔ x ≠ e ∧ x ∈ w.db := by
    intro x
    rw [hdb, hone.removed hfound, hnodup.mem_erase_iff]
  have hstack : ∀ name, w'.stack (join kApexRoot name) = if e.latest = true ∧
    name = apex.manifest.name then
      (w.stack (join kApexRoot name)).tail else w.stack (join kApexRoot name) := by
    intro name
    by_cases hl : e.latest = true
    · rw [if_pos hl] at hmounts
      rw [World.stack_pop hmounts]
      unfold getActiveMountPoint
      simp only [join_right_inj, hl, true_and, eq_comm]
    · rw [if_neg hl] at hmounts
      rw [World.stack_congr hmounts, if_neg fun hc => hl hc.1]
  refine ⟨fun q => (hfiles q).trans (h.files q), fun x hx => h.opens x ((hmem x).1 hx).2, ?_, ?_⟩
  · rw [hdb]
    exact h.points.sublist (Db.removeMountedApex_sublist ..)
  · intro p a ha
    by_cases hname : a.manifest.name = apex.manifest.name
    · rw [hname]
      rcases hname ▸ h.names p a ha with ⟨hs, hnone⟩ | ⟨l, hl, hlname, ⟨m, hs, hsource⟩, hlatest⟩
      · refine Or.inl ⟨?_, fun x hx => hnone x ((hmem x).1 hx).2⟩
        rw [hstack, hs]
        split <;> rfl
      · by_cases hf : e.latest = true
        · -- the flagged entry goes with its binding
          obtain rfl := (hlatest e he hpkg).1 hf
          refine Or.inl ⟨?_, fun x hx hxp => ?_⟩
          · rw [hstack, if_pos ⟨hf, rfl⟩, hs]
            rfl
          · obtain ⟨hne, hx⟩ := (hmem x).1 hx
            exact Bool.eq_false_iff.2 fun hxf => hne ((hlatest x hx hxp).1 hxf)
        · have hne : l ≠ e := by
            rintro rfl
            exact hf ((hlatest l hl hlname).2 rfl)
          refine Or.inr ⟨l, (hmem l).2 ⟨hne, hl⟩, hlname, ⟨m, ?_, hsource⟩,
            fun x hx => hlatest x ((hmem x).1 hx).2⟩
          rw [hstack, if_neg fun hc => hf hc.1, hs]
    · refine (h.names p a ha).congr ?_ fun x hx => ?_
      · rw [hstack, if_neg fun hc => hname hc.2]
      · rw [hmem, and_iff_right]
        rintro rfl
        exact hname (hx.symm.trans hpkg)

/-- The active mount point was detached and the package bound on it. -/
structure Rebound (apex : ApexFile) (w w' : World) : Prop where
  files : ∀ q, w'.file? q = w.file? q
  db : w'.db = w.db
  bound : ∃ m, w'.stack (getActiveMountPoint apex.manifest) = [m] ∧
    m.source = some (getPackageMountPoint apex.manifest)
  others : ∀ name, name ≠ apex.manifest.name → w'.stack (join kApexRoot name) = w.stack
    (join kApexRoot name)

/-- And then it becomes the latest. -/
theorem Mirrored.setLatest (h : Mirrored w₀ w) (ho : w₀.openApex apex.path = .ok apex)
    (hr : Rebound apex w w')
    {db' : Db} (hs : w'.db.setLatest apex.manifest.name apex.path = some db') :
    Mirrored w₀ { w' with db := db' } := by
  obtain ⟨hit, hhit, hpkg, hpath, rfl⟩ := Db.setLatest_eq_some hs
  rw [hr.db] at hhit ⊢
  -- only flags change
  let flag : Entry → Entry := fun e =>
    if e.package == apex.manifest.name then { e with latest := e.data == hit.data } else e
  have hdata : ∀ e, (flag e).data = e.data := fun e => by
    show (if _ then _ else _ : Entry).data = _
    split <;> rfl
  have hpackage : ∀ e, (flag e).package = e.package := fun e => by
    show (if _ then _ else _ : Entry).package = _
    split <;> rfl
  have hother : ∀ e, e.package ≠ apex.manifest.name → flag e = e := fun e he =>
    if_neg (by simpa using he)
  have hown : ∀ e, e.package = apex.manifest.name →
      flag e = ⟨e.package, e.data, e.data == hit.data⟩ := fun e he =>
    if_pos (beq_iff_eq.2 he)
  show Mirrored w₀ { w' with db := w.db.map flag }
  have hpoint : hit.data.mountPoint = getPackageMountPoint apex.manifest := by
    obtain ⟨x, hx, _, hxp⟩ := h.opens hit hhit
    rw [hpath, ho] at hx
    cases hx
    exact hxp
  refine ⟨fun q => (hr.files q).trans (h.files q), fun e he => ?_, ?_, fun p a ha => ?_⟩
  · obtain ⟨x, hx, rfl⟩ := List.mem_map.1 he
    rw [hdata, hpackage]
    exact h.opens x hx
  · refine List.pairwise_map.2 (h.points.imp fun hne => ?_)
    rwa [hdata, hdata]
  · by_cases hname : a.manifest.name = apex.manifest.name
    · obtain ⟨m, hstack, hsource⟩ := hr.bound
      rw [hname]
      refine Or.inr ⟨flag hit, List.mem_map_of_mem hhit, (hpackage hit).trans hpkg, ⟨m, hstack, ?_⟩,
        fun e he hp => ?_⟩
      · rw [hdata, hpoint, hsource]
      · obtain ⟨x, hx, rfl⟩ := List.mem_map.1 he
        have hxp := (hpackage x).symm.trans hp
        rw [hown x hxp, hown hit hpkg, hxp, hpkg]
        simp
    · refine World.NameMirrored.congr (w := w) (h.names p a ha) (hr.others _ hname) fun e he => ?_
      constructor
      · intro hmem
        obtain ⟨x, hx, rfl⟩ := List.mem_map.1 hmem
        have hxp := (hpackage x).symm.trans he
        rwa [hother x fun hc => hname (hxp.symm.trans hc)]
      · intro hmem
        refine List.mem_map.2 ⟨e, hmem, hother e fun hc => hname (he.symm.trans hc)⟩

end Operations

/-! ## `BindMount` -/

def makeTarget (target : String) : ApexM Unit :=
  sys (.mkdir target kMkdirMode) >>= check ("Could not create mountpoint " ++ target)

/-- `BindMount` between the reply of `stat` and the bind mount. -/
def freeTarget (target : String) : Except Errno Stat → ApexM Unit
  | .error .enoent => makeTarget target
  | .error _ => call (.umount2 target) fun _ => ret ()
  | .ok st => if st.isDir then call (.umount2 target) fun _ =>
    ret () else call (.unlink target) fun _ => makeTarget target

theorem bindMount_eq (target source : String) :
    bindMount target source = call (.stat target) fun r =>
    (freeTarget target r).bind fun _ => (sys (.bindMount source target)).bind
      (check ("Could not bind-mount " ++ source ++ " to " ++ target)) := by
  refine congrArg (call _) (funext fun r => ?_)
  cases r with
  | error e => cases e <;> rfl
  | ok st =>
    obtain ⟨isDir, mode⟩ := st
    cases isDir <;> rfl

/-- The topmost mount at `p` has gone. -/
structure World.Popped (w : World) (p : String) (w' : World) : Prop where
  files : ∀ q, w'.file? q = w.file? q
  mounts : w'.mounts = w.mounts.eraseP fun m => m.mountPoint == p
  db : w'.db = w.db

section Bind

variable {w₀ w w' : World} {F : Faults} {apex : ApexFile} {target : String}

theorem World.umount2_popped {r : Except Errno Unit} (h : (r, w') = w.umount2 target) :
    w.SameMounts w' ∨ w.Popped target w' := by
  rcases w.umount2_cases target with ⟨e, _, he⟩ | ⟨_, he⟩
  · rw [he] at h
    cases h
    exact Or.inl (.refl w)
  · rw [he] at h
    cases h
    exact Or.inr ⟨fun _ => rfl, rfl, rfl⟩

/-- The target is free, or its mount was not detached. -/
theorem wp_freeTarget (hF : F.Refusals) (hfile : w.file? target = none) (r : Except Errno Stat) :
    wp (kernel .off F) (fun _ => True) (freeTarget target r)
      (fun x w' => w.SameMounts w' ∨ x = .ok () ∧ w.Popped target w') w := by
  have hmake : wp (kernel .off F) (fun _ => True) (makeTarget target)
      (fun x w' => w.SameMounts w' ∨ x = .ok () ∧ w.Popped target w') w :=
    (wp_sameMounts hF (uses_sys_check (c := .mkdir target kMkdirMode) _ trivial)).imp
      fun _ _ _ h => Or.inl h
  have humount : wp (kernel .off F) (fun _ => True)
    (call (.umount2 target) fun _ => ret () : ApexM Unit)
      (fun x w' => w.SameMounts w' ∨ x = .ok () ∧ w.Popped target w') w := by
    refine ⟨trivial, trivial, fun r w₁ hs => ⟨trivial, ?_⟩⟩
    rcases hs with hn | hf
    · exact (World.umount2_popped hn).imp_right fun h => ⟨rfl, h⟩
    · rw [(hF _ _ _ _ hf).2]
      exact Or.inl (.refl w)
  have hunlink : wp (kernel .off F) (fun _ => True)
    (call (.unlink target) fun _ => makeTarget target)
      (fun x w' => w.SameMounts w' ∨ x = .ok () ∧ w.Popped target w') w := by
    refine ⟨trivial, trivial, fun r w₁ hs => ?_⟩
    have hw₁ : w₁ = w := by
      rcases hs with hn | hf
      · have hu : (r, w₁) = w.unlink target := hn
        rcases w.unlink_cases target with ⟨e, he, _⟩ | ⟨d, f, hd, hm, _⟩
        · rw [he] at hu
          cases hu
          rfl
        · rw [World.file?_eq_some.2 ⟨d, hd, hm⟩] at hfile
          cases hfile
      · exact (hF _ _ _ _ hf).2
    rw [hw₁]
    exact hmake
  unfold freeTarget
  split
  · exact hmake
  · exact humount
  · split
    · exact humount
    · exact hunlink

/-- The old binding has gone, the new one was refused, and no version of the package is flagged. -/
theorem Mirrored.popped (h : Mirrored w₀ w) (hpop : w.Popped (getActiveMountPoint apex.manifest) w')
    (ho : w₀.openApex apex.path = .ok apex)
    (hflag : ∀ e ∈ w'.db, e.package = apex.manifest.name → e.latest = true →
      w'.mounted (getActiveMountPoint apex.manifest) ≠ none) : Mirrored w₀ w' := by
  have hstack : w'.stack (getActiveMountPoint apex.manifest) = [] := by
    rw [World.stack_pop hpop.mounts, if_pos rfl]
    unfold getActiveMountPoint
    rcases h.names _ apex ho with ⟨hs, _⟩ | ⟨l, _, _, ⟨m, hs, _⟩, _⟩
    · rw [hs]
      rfl
    · rw [hs]
      rfl
  refine ⟨fun q => (hpop.files q).trans (h.files q), hpop.db ▸ h.opens, hpop.db ▸ h.points,
    fun p a ha => ?_⟩
  by_cases hname : a.manifest.name = apex.manifest.name
  · rw [hname]
    refine Or.inl ⟨hstack, fun e he hp => Bool.eq_false_iff.2 fun hf => hflag e he hp hf ?_⟩
    rw [World.mounted_eq_head?, hstack]
    rfl
  · have hne : getActiveMountPoint apex.manifest ≠ join kApexRoot a.manifest.name := fun he =>
      hname (join_right_inj.1 he).symm
    refine (h.names p a ha).congr ?_ fun e _ => by rw [hpop.db]
    rw [World.stack_pop hpop.mounts, if_neg hne]

/-- **`BindMount`** binds a package, or is refused in agreement with the database. -/
theorem wp_bindMount_rebinds (h : Mirrored w₀ w) (hfree : ∀ p, belowApex p → w₀.file? p = none)
    (ho : w₀.openApex apex.path = .ok apex) (hentry : ∃ e ∈ w.db, e.package = apex.manifest.name) :
    wp rebindKernel (fun _ => True)
      (bindMount (getActiveMountPoint apex.manifest) (getPackageMountPoint apex.manifest))
      (fun
        | .ok _, w' => Rebound apex w w'
        | .error _, w' => Mirrored w₀ w') w := by
  have hpoint : ∀ e : Entry, e.package = apex.manifest.name →
      e.activeMountPoint = getActiveMountPoint apex.manifest := fun e he =>
        congrArg (join kApexRoot) he
  rw [bindMount_eq]
  refine ⟨trivial, trivial, fun r w₁ hs => ?_⟩
  obtain rfl : w₁ = w := by
    obtain ⟨_, hn | hf⟩ := hs
    · exact hn.2
    · exact hf.2
  have hfile := (h.files _).trans (hfree _ (below_activeMountPoint apex.manifest))
  refine wp_bind.2 ((wp_freeTarget Sys.RefusedButOpen.refusals hfile r).only.imp ?_)
  rintro (err | u) w₂ _ h₂
  · rcases h₂ with h₂ | ⟨hx, _⟩
    · exact h.same h₂
    · cases hx
  have hdb : w₂.db = w₁.db := h₂.elim (·.db) (·.2.db)
  refine ⟨trivial, trivial, fun r w₃ hs₃ => ?_⟩
  obtain ⟨hreb, hs₃⟩ := hs₃
  have hcases : (∃ e, r = .error e) ∧ w₃ = w₂ ∨ r = .ok () ∧ ∃ m : Mount,
      m.mountPoint = getActiveMountPoint apex.manifest ∧
        m.source = some (getPackageMountPoint apex.manifest) ∧ w₂.Pushed m w₃ := by
    rcases hs₃ with hn | hf
    · have hb : (r, w₃) = w₂.bindMount (getPackageMountPoint apex.manifest)
        (getActiveMountPoint apex.manifest) := hn
      rcases w₂.bindMount_cases (getPackageMountPoint apex.manifest)
        (getActiveMountPoint apex.manifest) with
        ⟨e, he⟩ | ⟨m, _, hm, hsource, _, _, he⟩
      · rw [he] at hb
        cases hb
        exact Or.inl ⟨⟨e, rfl⟩, rfl⟩
      · rw [he] at hb
        cases hb
        exact Or.inr ⟨rfl, m, hm, hsource, fun _ => rfl, rfl, rfl⟩
    · obtain ⟨⟨e, _, hr⟩, hw⟩ := hf
      exact Or.inl ⟨⟨e, hr⟩, hw⟩
  rcases hcases with ⟨⟨e, rfl⟩, rfl⟩ | ⟨rfl, m, hm, hsource, hpush⟩
  · refine ⟨trivial, ?_⟩
    rcases h₂ with h₂ | ⟨_, hpop⟩
    · exact h.same h₂
    · refine h.popped hpop ho fun e he hp hf => ?_
      have := hreb e he (hpoint e hp)
      rw [if_neg nofun] at this
      exact this hf
  · refine ⟨trivial, ?_⟩
    obtain ⟨e, he, hp⟩ := hentry
    have hnone := hreb e (hdb ▸ he) (hpoint e hp)
    rw [if_pos rfl, World.mounted_eq_head?, List.head?_eq_none_iff] at hnone
    have hfiles : ∀ q, w₂.file? q = w₁.file? q := h₂.elim (·.files) (·.2.files)
    refine ⟨fun q => (hpush.files q).trans (hfiles q), hpush.db.trans hdb, ⟨m, ?_, hsource⟩,
      fun name hname => ?_⟩
    · rw [World.stack_push hpush.mounts, if_pos hm, hnone]
    · have hne : getActiveMountPoint apex.manifest ≠ join kApexRoot name := fun he =>
        hname (join_right_inj.1 he).symm
      rw [World.stack_push hpush.mounts, hm, if_neg hne]
      rcases h₂ with h₂ | ⟨_, hpop⟩
      · exact World.stack_congr h₂.mounts
      · rw [World.stack_pop hpop.mounts, if_neg hne]

end Bind

/-! ## The programs -/

section Programs

variable {w₀ w : World} {F : Faults} {cfg : Config} {apex : ApexFile}

theorem wp_addMountedApex_whole (hF : F.Refusals) (package : String) (latest : Bool)
    (data : MountedApexData) (w : World) :
    wp (kernel .off F) (fun _ => True) (addMountedApex package latest data)
      (fun x w' => x = .ok () ∧ w' = { w with db := w.db.emplace ⟨package, data, latest⟩ }) w := by
  refine ⟨trivial, trivial, ?_⟩
  rintro _ w₁ (⟨rfl, rfl⟩ | hf)
  case inr => exact (hF _ _ _ _ hf).1.elim
  dsimp only [ret_bind]
  split
  · exact ⟨trivial, trivial, fun r => r.elim⟩
  · rename_i db' hdb'
    refine ⟨trivial, trivial, ?_⟩
    rintro u w₂ (hn | hf)
    · rw [← Db.addMountedApex_eq_some hdb']
      exact ⟨trivial, rfl, hn⟩
    · exact (hF _ _ _ _ hf).1.elim

theorem wp_setLatest_whole (hF : F.Refusals) (package path : String) (w : World) :
    wp (kernel .off F) (fun _ => True) (setLatest package path)
      (fun _ w' => ∃ db', w.db.setLatest package path = some db' ∧ w' = { w with db := db' })
      w := by
  refine ⟨trivial, trivial, ?_⟩
  rintro _ w₁ (⟨rfl, rfl⟩ | hf)
  case inr => exact (hF _ _ _ _ hf).1.elim
  dsimp only [ret_bind]
  split
  · exact ⟨trivial, trivial, fun r => r.elim⟩
  · rename_i db' hdb'
    refine ⟨trivial, trivial, ?_⟩
    rintro u w₂ (hn | hf)
    · exact ⟨trivial, db', hdb', hn⟩
    · exact (hF _ _ _ _ hf).1.elim

/-- A version that is not mounted is mounted, and its entry added. -/
theorem wp_mountPackage_mirrored (hF : F.Refusals) (h : Mirrored w₀ w) (hn : w₀.NamesApart)
    (ho : w₀.openApex apex.path = .ok apex)
    (hno : ∀ e ∈ w.db, e.data.mountPoint ≠ getPackageMountPoint apex.manifest) :
    wp (kernel .off F) (fun _ => True) (mountPackage cfg apex (getPackageMountPoint apex.manifest))
      (fun x w' => Mirrored w₀ w' ∧ (x = .ok () → ∃ e ∈ w'.db, e.package = apex.manifest.name))
      w := by
  have hmount := (wp_mountPackageImpl_table hF cfg apex (getPackageMountPoint apex.manifest)
    (getPackageId apex.manifest) false w).yields (yields_mountPackageImpl apex _ _ _)
  refine hmount.bind ?_ ?_
  · rintro d w₁ _ ⟨⟨⟨m, hm, hpush⟩, _⟩, hd⟩
    have h₁ := h.pushed hn ho hm.1 hpush
    refine (wp_addMountedApex_whole hF apex.manifest.name false d w₁).imp ?_
    rintro _ _ _ ⟨rfl, rfl⟩
    refine ⟨h₁.add ho (hd d rfl) (hpush.db ▸ hno),
      fun _ => ⟨⟨apex.manifest.name, d, false⟩, ?_, rfl⟩⟩
    exact Db.mem_emplace.2 (Or.inl rfl)
  · rintro e w₁ _ ⟨⟨htried, _⟩, _⟩
    refine ⟨?_, nofun⟩
    rcases htried with hs | ⟨m, hm, hpush⟩
    · exact h.same hs
    · exact h.pushed hn ho hm.1 hpush

/-- **An activation.** -/
theorem wp_activatePackageImpl_mirrored (h : Mirrored w₀ w) (hn : w₀.NamesApart)
    (hfree : ∀ p, belowApex p → w₀.file? p = none) (ho : w₀.openApex apex.path = .ok apex) :
    wp rebindKernel (fun _ => True) (activatePackageImpl cfg apex)
      (fun _ w' => Mirrored w₀ w') w := by
  unfold activatePackageImpl
  split
  · exact ⟨trivial, h⟩
  split
  · exact ⟨trivial, h⟩
  refine (wp_otherVersions readsPackages_rebind trivial).bind ?_ ?_
  case refine_2 =>
    rintro e w₁ _ ⟨he, _⟩
    cases he
  rintro found w₁ _ ⟨hfound, rfl⟩
  obtain rfl := Except.ok.inj hfound
  split
  · exact ⟨trivial, h⟩
  -- the version has an entry after this
  have hmount : wp rebindKernel (fun _ => True)
    (when (!(w₁.otherVersions apex.manifest).versionFoundMounted)
      (mountPackage cfg apex (getPackageMountPoint apex.manifest)))
      (fun x w' => Mirrored w₀ w' ∧ (x = .ok () → ∃ e ∈ w'.db, e.package = apex.manifest.name))
          w₁ := by
    refine wp_when (fun hnot => ?_) fun hnot => ⟨trivial, h, fun _ => ?_⟩
    · refine (wp_mountPackage_mirrored Sys.RefusedButOpen.refusals h hn ho fun e he hp => ?_).only
      obtain ⟨a, ha, hpkg, hpoint⟩ := h.opens e he
      obtain ⟨hname, hversion⟩ := getPackageId_inj (join_right_inj.1 (hpoint.symm.trans hp))
      have hmounted : (w₁.otherVersions apex.manifest).versionFoundMounted = true := by
        refine World.versionFoundMounted_iff.2 ⟨e, he, hpkg.trans hname, ?_⟩
        unfold World.fileVersion
        rw [h.openApex, ha, ← hversion]
        rfl
      rw [hmounted] at hnot
      cases hnot
    · obtain ⟨e, he, hp, _⟩ := World.versionFoundMounted_iff.1 (by simpa using hnot)
      exact ⟨e, he, hp⟩
  refine hmount.bind ?_ fun _ _ _ h => h.1
  rintro _ w₂ _ ⟨h₂, hentry⟩
  refine wp_when (fun _ => ?_) fun _ => ⟨trivial, h₂⟩
  refine wp_bind.2 (wp_mapErr.2 ((wp_bindMount_rebinds h₂ hfree ho (hentry rfl)).imp ?_))
  rintro (err | u) w₃ _ h₃
  · exact h₃
  · refine ((wp_setLatest_whole Sys.RefusedButOpen.refusals apex.manifest.name apex.path
      w₃).only).imp ?_
    rintro x _ _ ⟨db', hdb', rfl⟩
    exact h₂.setLatest ho h₃ hdb'

/-- **A deactivation.** -/
theorem wp_unmountPackage_mirrored (hF : F.Refusals) (h : Mirrored w₀ w) (hn : w₀.NamesApart)
    (ho : w₀.openApex apex.path = .ok apex) (allowLatest : Bool) :
    wp (kernel .off F) (fun _ => True) (unmountPackage apex allowLatest)
      (fun _ w' => Mirrored w₀ w') w := by
  rw [unmountPackage_eq]
  refine ⟨trivial, trivial, ?_⟩
  rintro _ w₁ (⟨rfl, rfl⟩ | hf)
  case inr => exact (hF _ _ _ _ hf).1.elim
  dsimp only
  cases hfound : w₁.db.foundEntry? apex with
  | none => exact ⟨trivial, h⟩
  | some e =>
    obtain ⟨he, hpkg, hpath⟩ := Db.foundEntry?_mem hfound
    have hfiles : (detachActive apex allowLatest e).Uses KeepsFiles := by
      unfold detachActive
      refine uses_when (uses_bind (uses_require _ _) fun _ => ?_)
      exact uses_bind (uses_sys_check (c := .umount2 (getActiveMountPoint apex.manifest)) _ trivial)
          fun _ =>
        uses_exec_bind trivial fun _ => trivial
    have hkeep : (detachActive apex allowLatest e).Keeps (kernel .off F) fun w' =>
        ∀ q, w'.file? q = w₁.file? q :=
      keeps_sameFiles hF hfiles
    have hdetach := (wp_detachActive hF apex allowLatest e w₁).and (hkeep w₁ fun _ => rfl)
    refine wp_bind.2 (hdetach.mono (fun _ _ => trivial) ?_)
    rintro (err | u) w₂ ⟨hdb₂, hfiles₂⟩ ⟨⟨herr, hok⟩, _⟩
    · obtain ⟨rfl, _⟩ := herr nofun
      exact h
    refine wp_bind.2 ((wp_removeMountedApex hF apex.manifest.name apex.path w₂).imp ?_)
    rintro (err | v) w₃ _ ⟨hx, rfl⟩
    · cases hx
    have h₃ : Mirrored w₀ { w₂ with
        db := w₂.db.removeMountedApex apex.manifest.name apex.path } := by
      refine h.forget ho hfound hfiles₂ (hok rfl).1 ?_
      exact congrArg (fun db => Db.removeMountedApex db apex.manifest.name apex.path) hdb₂
    have hpoint : e.data.mountPoint = getPackageMountPoint apex.manifest := by
      obtain ⟨a, ha, _, hp⟩ := h.opens e he
      rw [hpath, ho] at ha
      cases ha
      exact hp
    exact (wp_unmount hF e.data _).mono (fun _ _ => trivial) fun _ _ _ hu =>
      h₃.unmounted hn ho hpoint hu

theorem Mirrored.wp_activatePackage (h : Mirrored w₀ w) (hn : w₀.NamesApart)
    (hfree : ∀ p, belowApex p → w₀.file? p = none) (fullPath : String) :
    wp rebindKernel (fun _ => True) (activatePackage cfg fullPath)
      (fun _ w' => Mirrored w₀ w') w := by
  refine wp_bind.2 (wp_openApex_eq readsPackages_rebind trivial ?_)
  rw [h.openApex]
  cases ho : w₀.openApex fullPath with
  | error e => exact h
  | ok apex =>
    obtain rfl := World.openApex_path ho
    exact wp_activatePackageImpl_mirrored h hn hfree ho

theorem Mirrored.wp_deactivatePackage (h : Mirrored w₀ w) (hn : w₀.NamesApart) (fullPath : String) :
    wp rebindKernel (fun _ => True) (deactivatePackage fullPath)
      (fun _ w' => Mirrored w₀ w') w := by
  refine wp_bind.2 (wp_openApex_eq readsPackages_rebind trivial ?_)
  rw [h.openApex]
  cases ho : w₀.openApex fullPath with
  | error e => exact h
  | ok apex =>
    obtain rfl := World.openApex_path ho
    exact (wp_unmountPackage_mirrored Sys.RefusedButOpen.refusals h hn ho true).only

theorem Mirrored.wp_scanAndActivateLoop (h : Mirrored w₀ w) (hn : w₀.NamesApart)
    (hfree : ∀ p, belowApex p → w₀.file? p = none) (packagesWithCode : List (String × Nat))
    (failed : List String)
    (path : String) : wp rebindKernel (fun _ => True)
    (scanAndActivateLoop cfg packagesWithCode failed path)
      (fun _ w' => Mirrored w₀ w') w := by
  have hstep : wp rebindKernel (fun _ => True) (scanAndActivateStep cfg packagesWithCode path)
      (fun _ w' => Mirrored w₀ w') w := by
    unfold scanAndActivateStep
    refine wp_bind.2 (wp_attempt.2 (wp_openApex_eq readsPackages_rebind trivial ?_))
    rw [h.openApex]
    cases ho : w₀.openApex path with
    | error e => exact ⟨trivial, h⟩
    | ok apex =>
      obtain rfl := World.openApex_path ho
      have hact : wp rebindKernel (fun _ => True) (activateFound cfg apex)
          (fun _ w' => Mirrored w₀ w') w := by
        refine wp_bind.2 (wp_attempt.2 ((wp_activatePackageImpl_mirrored h hn hfree ho).imp ?_))
        rintro (e | u) w₁ _ h₁ <;> exact ⟨trivial, h₁⟩
      have hupdatable : wp rebindKernel (fun _ => True)
          (if !cfg.updatable && !apex.flattened then ret false else activateFound cfg apex)
          (fun _ w' => Mirrored w₀ w') w := by
        split
        · exact ⟨trivial, h⟩
        · exact hact
      dsimp only [Then]
      cases packagesWithCode.lookup apex.manifest.name with
      | none => exact hupdatable
      | some version =>
        dsimp only
        split
        · exact ⟨trivial, h⟩
        · exact hupdatable
  exact hstep.bind (fun _ _ _ h₁ => ⟨trivial, h₁⟩) fun _ _ _ h₁ => h₁

theorem Mirrored.wp_scanPackagesDirAndActivate (h : Mirrored w₀ w) (hn : w₀.NamesApart)
    (hfree : ∀ p, belowApex p → w₀.file? p = none) (dir : String) :
    wp rebindKernel (fun _ => True) (scanPackagesDirAndActivate cfg dir)
      (fun _ w' => Mirrored w₀ w') w := by
  have hscan : (findApexFilesByName dir (isPathForBuiltinApexes dir)).Uses KeepsMounts := by
    refine uses_exec_bind trivial fun r => ?_
    cases r <;> trivial
  unfold scanPackagesDirAndActivate
  refine wp_bind.2 (wp_mapErr.2 (((wp_sameMounts Sys.RefusedButOpen.refusals hscan).only).imp ?_))
  rintro (e | scan) w₁ _ hs
  · exact h.same hs
  have h₁ := h.same hs
  refine wp_bind.2 (wp_getActivePackagesMap readsPackages_rebind trivial ?_)
  refine wp_bind.2 (wp_foldlM (fun _ _ w' => Mirrored w₀ w') scan
    (fun path rest failed w₂ _ h₂ => ?_) (fun failed w₂ h₂ => ?_) h₁)
  · refine (h₂.wp_scanAndActivateLoop hn hfree _ failed path).imp ?_
    rintro (e | failed') w₃ _ h₃ <;> exact h₃
  · exact ⟨trivial, wp_require.2 ⟨trivial, h₂⟩⟩

/-- One call. -/
theorem Mirrored.wp_call (h : Mirrored w₀ w) (hn : w₀.NamesApart)
    (hfree : ∀ p, belowApex p → w₀.file? p = none)
    (c : MountCall) : wp rebindKernel (fun _ => True) (c.prog cfg)
    (fun _ w' => Mirrored w₀ w') w := by
  cases c with
  | activatePackage fullPath => exact h.wp_activatePackage hn hfree fullPath
  | deactivatePackage fullPath => exact h.wp_deactivatePackage hn fullPath
  | scanPackagesDirAndActivate dir => exact h.wp_scanPackagesDirAndActivate hn hfree dir

/-- Every sequence of calls. -/
theorem MountRuns.mirrored (h : MountRuns rebindKernel cfg w₀ w) (hw : w₀.NothingMounted)
    (hn : w₀.NamesApart) : Mirrored w₀ w := by
  induction h with
  | start => exact .start hw
  | call _ he ih => exact (ih.wp_call hn hw.files _).ends he

end Programs

/-- **The database mirrors the mounts** after every sequence of calls in which a package is bound
only on a mount point that was detached, and the bind mount is refused only where the old one still
stands. -/
theorem mounts_mirrored {cfg : Config} {w₀ w : World} (hw : w₀.NothingMounted) (hn : w₀.NamesApart)
    (h : MountRuns rebindKernel cfg w₀ w) : w.Mirrors := (h.mirrored hw hn).mirrors

/-! ## Version 2 after version 1 -/

/-- Only mounts and directories are refused. -/
def Sys.MountRefused : Faults
  | .mount b p, w, r, w' => Sys.Refused (.mount b p) w r w'
  | .bindMount s t, w, r, w' => Sys.Refused (.bindMount s t) w r w'
  | .umount2 p, w, r, w' => Sys.Refused (.umount2 p) w r w'
  | .mkdir p mode, w, r, w' => Sys.Refused (.mkdir p mode) w r w'
  | .rmdir p, w, r, w' => Sys.Refused (.rmdir p) w r w'
  | _, _, _, _ => False

/-- Names without `@` are apart from versions. -/
theorem World.namesApart_of_plain {w : World}
    (h : ∀ p a, w.openApex p = .ok a → Component a.manifest.name ∧ '@' ∉ a.manifest.name.toList) :
    w.NamesApart where
  component p a ha := (h p a ha).1
  apart p q a b ha _ he := by
    apply (h p a ha).2
    rw [he]
    exact at_mem_packageId b.manifest

def File.manifest? (f : File) : Option ApexManifest :=
  match f.content with
  | .apex a => some a.manifest
  | .manifest m => some m
  | _ => none

theorem World.openApex_manifest {w : World} {p : String} {a : ApexFile} (h : w.openApex p = .ok a) :
    ∃ q f, w.file? q = some f ∧ f.manifest? = some a.manifest := by
  unfold World.openApex at h
  split at h
  · rename_i hf
    cases h
    exact ⟨_, _, hf, rfl⟩
  · cases h
  · split at h
    · rename_i hf
      cases h
      exact ⟨_, _, hf, rfl⟩
    · cases h

def twoVersionsDirs : List (String × Dir) :=
  [ (kApexRoot, Dir.empty 0o755),
    (kApexPackageSystemDir, systemApexDir),
    (kActiveApexPackagesDataDir, dataApexDir) ]

/-- Version 1 comes with the system and version 2 is staged; nothing is mounted. -/
def twoVersionsWorld : World := .ofDirs twoVersionsDirs

theorem twoVersionsWorld_nothing : twoVersionsWorld.NothingMounted where
  db := rfl
  mounts _ _ := rfl
  files _ hp := World.noFiles_below (l := twoVersionsDirs) (fun _ => rfl) (by decide) hp

theorem twoVersionsWorld_apart : twoVersionsWorld.NamesApart := by
  refine World.namesApart_of_plain fun p a ha => ?_
  obtain ⟨q, f, hf, hm⟩ := World.openApex_manifest ha
  obtain ⟨d, hd, hmem⟩ := World.file?_mem (l := twoVersionsDirs) (fun _ => rfl) hf
  have hplain : ∀ e ∈ twoVersionsDirs, ∀ x ∈ e.2.files, ∀ m ∈ x.2.manifest?,
      Component m.name ∧ '@' ∉ m.name.toList := by
    decide
  exact hplain _ hd _ hmem a.manifest hm

def activateVersion1 : ApexM Unit := activatePackage deviceConfig "/system/apex/a.apex"

def activateVersion2 : ApexM Unit := activatePackage deviceConfig "/data/apex/active/a.apex"

/-- The replies that `Sys.Rebinds` allows, tested. -/
def Sys.rebinds? : (c : Sys) → World → c.Res → Bool
  | .bindMount _ t, w, r => w.db.all fun e => decide (e.activeMountPoint ≠ t) ||
      if r = .ok () then (w.mounted t).isNone else !e.latest || (w.mounted t).isSome
  | _, _, _ => true

theorem Sys.rebinds_of_run {c : Sys} {w w' : World} {r : c.Res} (_ : c.run w = some (r, w'))
    (hr : c.rebinds? w r = true) : c.Rebinds w r := by
  cases c with
  | bindMount s t =>
    intro e he ht
    have h := List.all_eq_true.1 hr e he
    rw [ht, Bool.or_eq_true] at h
    have h := h.resolve_left (by simp)
    split at h
    · rw [if_pos ‹_›]
      exact Option.isNone_iff_eq_none.1 h
    · rw [if_neg ‹_›]
      intro hl hnone
      rw [hl, hnone] at h
      cases h
  | _ => trivial

theorem rebind_sem (c : Sys) (w : World) (r : c.Res) (w' : World)
    (h : onlyStep Sys.run Sys.rebinds? c w = some (r, w')) : rebindKernel.sem c w r w' :=
  onlyStep_sem (K := kernel _ Sys.RefusedButOpen)
    (fun c w r w' hs hr => ⟨Sys.rebinds_of_run hs hr, Sys.run_sem c w r w' hs⟩) c w r w' h

def rebindRun (p : ApexM Unit) (w : World) :
    ApexM Unit × World := runN (onlyStep Sys.run Sys.rebinds?) 80 p w

theorem mounts_mirrored_update :
    (rebindRun activateVersion2 (rebindRun activateVersion1 twoVersionsWorld).2).2.Mirrors := by
  have h₁ : (rebindRun activateVersion1 twoVersionsWorld).1.result? = some (.ok ()) := by decide
  have h₂ : (rebindRun activateVersion2 (rebindRun activateVersion1 twoVersionsWorld).2).1.result? =
      some (.ok ()) := by
    decide
  have hrun₁ : MountRuns rebindKernel deviceConfig twoVersionsWorld
      (rebindRun activateVersion1 twoVersionsWorld).2 :=
    .call (c := .activatePackage "/system/apex/a.apex") .start (runN_ends rebind_sem h₁)
  have hrun₂ : MountRuns rebindKernel deviceConfig twoVersionsWorld
      (rebindRun activateVersion2 (rebindRun activateVersion1 twoVersionsWorld).2).2 :=
    hrun₁.call (c := .activatePackage "/data/apex/active/a.apex") (runN_ends rebind_sem h₂)
  exact mounts_mirrored twoVersionsWorld_nothing twoVersionsWorld_apart hrun₂

/-- The bind mount of version 2 is refused. -/
def refuseVersion2 : (c : Sys) → World → Option (c.Res × World)
  | .bindMount s t, w =>
    if s = "/apex/a@2" then some (.error .ebusy, w) else Sys.run (.bindMount s t) w
  | c, w => c.run w

theorem refuseVersion2_sem (c : Sys) (w : World) (r : c.Res) (w' : World)
    (h : refuseVersion2 c w = some (r, w')) : (kernel .off Sys.MountRefused).sem c w r w' := by
  cases c with
  | bindMount s t =>
    unfold refuseVersion2 at h
    dsimp only at h
    split at h
    · cases h
      exact Or.inr ⟨⟨.ebusy, rfl, rfl⟩, rfl⟩
    · exact Sys.run_sem _ _ _ _ h
  | _ => exact Sys.run_sem _ _ _ _ h

/-- Version 1 is active. -/
def version1World : World := (runN refuseVersion2 80 activateVersion1 twoVersionsWorld).2

/-- Its binding was detached for version 2. -/
def detachedWorld : World := (runN refuseVersion2 80 activateVersion2 version1World).2

def version1Entry : Entry :=
    ⟨"a", ⟨"/dev/block/loop0", "/system/apex/a.apex", "/apex/a@1", "a@1"⟩, true⟩

/-- Nothing is bound any more, and version 1 is still flagged. -/
theorem mounts_mirrored_detached : ¬ ∀ (cfg : Config) (w₀ w : World), w₀.NothingMounted →
    MountRuns (kernel .off Sys.MountRefused) cfg w₀ w → w.Mirrors := by
  intro hclaim
  have h₁ : (runN refuseVersion2 80 activateVersion1 twoVersionsWorld).1.result? = some
    (.ok ()) := by decide
  have h₂ : (runN refuseVersion2 80 activateVersion2 version1World).1.result?.isSome =
    true := by decide
  obtain ⟨x, h₂⟩ := Option.isSome_iff_exists.1 h₂
  have hrun₁ : MountRuns (kernel .off Sys.MountRefused) deviceConfig twoVersionsWorld
      version1World :=
    .call (c := .activatePackage "/system/apex/a.apex") .start (runN_ends refuseVersion2_sem h₁)
  have hrun₂ : MountRuns (kernel .off Sys.MountRefused) deviceConfig twoVersionsWorld
      detachedWorld :=
    hrun₁.call (c := .activatePackage "/data/apex/active/a.apex") (runN_ends refuseVersion2_sem h₂)
  have hentry : version1Entry ∈ detachedWorld.db := by decide
  have hnone : (detachedWorld.mounted version1Entry.activeMountPoint).isNone = true := by decide
  obtain ⟨m, hm, _⟩ := (hclaim deviceConfig twoVersionsWorld _ twoVersionsWorld_nothing hrun₂
    _ hentry).1 rfl
  rw [Option.isNone_iff_eq_none.1 hnone] at hm
  cases hm

end Apexd
