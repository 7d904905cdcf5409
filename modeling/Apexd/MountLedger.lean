import Apexd.DatabaseOps
import Apexd.NewestVersion
import Apexd.PackageInfo
import Apexd.RestartLatest

/-!
# The database and the mounted versions

Every entry of the database is of a version that is mounted, as long as the process lives and again
after each restart.  So the checks of the database do not fail, with one exception.

* `World.Ledger` — the entries and the mounts.
* `World.Ledger.wp_mountPackage`, `World.Ledger.wp_unmountPackage` — the entry is made after the
  mount and taken out before it goes.
* `aborts_only_at_latest` — the process aborts only where a version that is mounted, but not active,
  is activated from another file.
* `active_packages_mounted` — what the service lists as active is mounted.
-/

set_option autoImplicit false

namespace Apexd

open Text Prog

/-- Each entry is of a version that is mounted, from the file and the loop device that are
recorded. -/
structure World.Ledger (w₀ w : World) : Prop where
  wf : w.db.Wf
  opens : ∀ e ∈ w.db, ∃ apex, w₀.openApex e.data.fullPath = .ok apex ∧
    e.package = apex.manifest.name ∧ e.data.mountPoint = getPackageMountPoint apex.manifest ∧
      (e.data.deviceName = "" ∨ trim e.data.deviceName = trim (getPackageId apex.manifest))
  points : w.db.Pairwise fun a b => a.data.mountPoint ≠ b.data.mountPoint
  mounted : ∀ e ∈ w.db, ∃ m ∈ w.mounts, m.mountPoint = e.data.mountPoint ∧
    (e.data.loopName = "" ∨ m.loop = some e.data.loopName) ∧ w₀.ShowsPath m e.data.fullPath

/-- The version is mounted, but not active, and its entry is of another file. -/
def World.HeldElsewhere (w : World) (apex : ApexFile) : Prop :=
  ∃ e ∈ w.db, e.package = apex.manifest.name ∧
    e.data.mountPoint = getPackageMountPoint apex.manifest ∧
    e.data.fullPath ≠ apex.path ∧ e.latest = false

/-- The message of `SetLatest` where it does not find the package. -/
def notFoundMessage (apex : ApexFile) :
    String := "Did not find " ++ apex.manifest.name ++ " " ++ apex.path

/-- Where the process may abort. -/
def AbortsHeld (w₀ : World) : Sys → World → Prop
  | .abort msg, w =>
    ∃ apex, w₀.openApex apex.path = .ok apex ∧ msg = notFoundMessage apex ∧ w.HeldElsewhere apex
  | _, _ => True

/-- Any call may be refused, and the aborts are watched. -/
def heldKernel (F : Faults) (w₀ : World) :
    Kernel Sys Sys.Res World := (kernel .off F).withPre (AbortsHeld w₀)

/-- The calls that do not unmount a version in the database. -/
def LeavesEntries (db : Db) : Sys → Prop
  | .umount2 p => ∀ e ∈ db, e.data.mountPoint ≠ p
  | c => VersionCmd c

section Ledger

variable {w₀ w w' : World} {apex : ApexFile} {F : Faults} {α : Type}

theorem LeavesEntries.version {db : Db} {c : Sys} (h : LeavesEntries db c) : VersionCmd c := by
  cases c <;> first | exact h | trivial

theorem VersionCmd.aborts {c : Sys} (h : VersionCmd c) (w : World) : AbortsHeld w₀ c w := by
  cases c <;> first | exact h.elim | trivial

theorem TempCmd.aborts {c : Sys} (h : TempCmd c) (w : World) : AbortsHeld w₀ c w := by
  cases c <;> first | exact h.elim | trivial

theorem World.Ledger.grow (h : w₀.Ledger w) (hdb : w'.db = w.db)
    (hm : ∀ m ∈ w.mounts, m ∈ w'.mounts) : w₀.Ledger w' where
  wf := hdb ▸ h.wf
  opens := hdb ▸ h.opens
  points := hdb ▸ h.points
  mounted e he := by
    obtain ⟨m, hmem, hp⟩ := h.mounted e (hdb ▸ he)
    exact ⟨m, hm m hmem, hp⟩

/-- A mount that no entry is about goes. -/
theorem World.Ledger.pop (h : w₀.Ledger w) {p : String} (hp : ∀ e ∈ w.db, e.data.mountPoint ≠ p)
    (hdb : w'.db = w.db)
    (hm : w'.mounts = w.mounts.eraseP fun m => m.mountPoint == p) : w₀.Ledger w' where
  wf := hdb ▸ h.wf
  opens := hdb ▸ h.opens
  points := hdb ▸ h.points
  mounted e he := by
    rw [hdb] at he
    obtain ⟨m, hmem, hpoint, hrest⟩ := h.mounted e he
    refine ⟨m, ?_, hpoint, hrest⟩
    rw [hm, List.mem_eraseP_of_neg]
    · exact hmem
    · rw [hpoint, beq_iff_eq]
      exact hp e he

theorem World.Ledger.step (h : w₀.Ledger w) {c : Sys} {r : c.Res} (hc : LeavesEntries w.db c)
    (hs : c.Normal w r w') (hdb : w'.db = w.db) : w₀.Ledger w' := by
  have hspare : SpareCmd c → w₀.Ledger w' := fun hc =>
    h.grow hdb (by rw [(hc.keeps.same hs).mounts]; exact fun _ => id)
  cases c with
  | unlink p =>
    have hdirs := World.unlink_onlyDirs hs
    exact h.grow hdb (by rw [hdirs.mounts]; exact fun _ => id)
  | bindMount s t =>
    have hs : (r, w') = w.bindMount s t := hs
    rcases w.bindMount_cases s t with ⟨e, he⟩ | ⟨m, _, _, _, _, _, he⟩
    · rw [he] at hs
      cases hs
      exact h
    · rw [he] at hs
      cases hs
      exact h.grow rfl fun _ => List.mem_cons_of_mem _
  | umount2 p =>
    have hs : (r, w') = w.umount2 p := hs
    rcases w.umount2_cases p with ⟨e, _, he⟩ | ⟨_, he⟩
    · rw [he] at hs
      cases hs
      exact h
    · rw [he] at hs
      cases hs
      exact h.pop hc rfl rfl
  | openApex p =>
    obtain ⟨_, rfl⟩ := hs
    exact h
  | _ => exact hspare hc

/-- The parts of a call that mount no version and do not change the database. -/
theorem World.Ledger.wp_uses (h : w₀.Ledger w) (hF : F.Refusals) (hr : w₀.Restartable w)
    (hfree : ∀ p, belowApex p → w₀.file? p = none) {p : ApexM α}
    (hp : p.Uses (LeavesEntries w.db)) :
    wp (heldKernel F w₀) w₀.Restartable p (fun _ w' => w₀.Ledger w' ∧ w'.db = w.db) w := by
  have hkeep : p.Keeps (kernel .off F) fun w' => w₀.Restartable w' ∧ w₀.Ledger w' ∧
      w'.db = w.db := by
    apply hp.keeps
    · intro c _ _ _
      cases c <;> trivial
    · rintro c w₁ r w₂ hc ⟨h₁, hl₁, hdb⟩ (hn | hf)
      · obtain ⟨h₂, hdb₂⟩ := h₁.step hfree hc.version hn
        exact ⟨h₂, hl₁.step (hdb ▸ hc) hn hdb₂, hdb₂.trans hdb⟩
      · rw [(hF _ _ _ _ hf).2]
        exact ⟨h₁, hl₁, hdb⟩
  refine (wp.withPre (hkeep w ⟨hr, h, rfl⟩) hp fun c w hc _ => hc.version.aborts w).mono
    (fun _ h => h.1) ?_
  exact fun _ _ h _ => h.2

/-- No entry has a mount point on which nothing is mounted. -/
theorem World.Ledger.no_entry (h : w₀.Ledger w) {p : String} (hp : w.mounted p = none) :
    ∀ e ∈ w.db, e.data.mountPoint ≠ p := by
  rintro e he rfl
  obtain ⟨m, hm, hpoint, _⟩ := h.mounted e he
  exact List.find?_eq_none.1 hp m hm (beq_iff_eq.2 hpoint)

theorem World.Ledger.eq_of_point (h : w₀.Ledger w) {a b : Entry} (ha : a ∈ w.db) (hb : b ∈ w.db)
    (hp : a.data.mountPoint = b.data.mountPoint) : a = b := by
  by_contra hne
  have hsymm : Std.Symm fun a b : Entry => a.data.mountPoint ≠ b.data.mountPoint :=
    ⟨fun _ _ h => h.symm⟩
  exact h.points.forall ha hb hne hp

/-- **A version that was just mounted can be entered.** -/
theorem World.Ledger.compatible (h : w₀.Ledger w) (hr : w₀.Restartable w) (ht : w₀.Traceable)
    (ho : w₀.openApex apex.path = .ok apex) {d : MountedApexData}
    (hd : w.HasMount d (getPackageMountPoint apex.manifest) (getPackageId apex.manifest))
    (hno : ∀ e ∈ w.db, e.data.mountPoint ≠ getPackageMountPoint apex.manifest) :
    ∀ e ∈ w.db, Db.Compatible ⟨apex.manifest.name, d, false⟩ e := by
  intro e he
  obtain ⟨a, ha, hname, hpoint, hdev⟩ := h.opens e he
  refine ⟨fun _ hde => hno e he (by rw [← hde]; exact hd.point), fun hne hle => ?_,
    fun hne hde => ?_, fun _ hl => Bool.false_ne_true hl.1⟩
  · -- two versions do not share a loop device
    obtain ⟨m, hm, hmp, hml, _⟩ := hd.mount
    obtain ⟨m', hm', hmp', hml', _⟩ := h.mounted e he
    have hle : d.loopName = e.data.loopName := hle
    have hml := hml.resolve_left hne
    have hml' := hml'.resolve_left (hle ▸ hne)
    have hpass : ¬ m.Passed := ht.not_passed ho hmp
    have hpass' : ¬ m'.Passed := ht.not_passed ha (hmp'.trans hpoint)
    have hneq : m ≠ m' := by
      rintro rfl
      exact hno e he (hmp'.symm.trans hmp)
    exact (hr.table.symm hm hm' hneq hpass hpass').2 (by simp [hml]) (by rw [hml, hml', hle])
  · have hde : d.deviceName = e.data.deviceName := hde
    have hid := hd.device.resolve_left hne
    have hid' := hdev.resolve_left (hde ▸ hne)
    refine hno e he (hpoint.trans (congrArg (join kApexRoot) (ht.ids _ _ _ _ ha ho ?_)))
    rw [← hid', ← hde, hid]

theorem World.Ledger.add (h : w₀.Ledger w) (hr : w₀.Restartable w)
    (ho : w₀.openApex apex.path = .ok apex) {d : MountedApexData}
    (hd : w.HasMount d (getPackageMountPoint apex.manifest) (getPackageId apex.manifest))
    (hpath : d.fullPath = apex.path)
    (hno : ∀ e ∈ w.db, e.data.mountPoint ≠ getPackageMountPoint apex.manifest)
    (hc : ∀ e ∈ w.db, Db.Compatible ⟨apex.manifest.name, d, false⟩ e) :
    w₀.Ledger { w with db := w.db.emplace ⟨apex.manifest.name, d, false⟩ } where
  wf := Db.emplace_wf.2 ⟨hc, h.wf⟩
  opens e he := by
    rcases Db.mem_emplace.1 he with rfl | he
    · exact ⟨apex, hpath ▸ ho, rfl, hd.point, hd.device.imp_right (congrArg trim)⟩
    · exact h.opens e he
  points := by
    refine ((Db.emplace_perm _ w.db).pairwise_iff fun h => Ne.symm h).2
      (List.pairwise_cons.2 ⟨?_, h.points⟩)
    intro e he hp
    exact hno e he (hp.symm.trans hd.point)
  mounted e he := by
    rcases Db.mem_emplace.1 he with rfl | he
    · obtain ⟨m, hm, hmp, hml, hshows⟩ := hd.mount
      exact ⟨m, hm, hmp.trans hd.point.symm, hml, hshows.same (hr.kept.files _).symm⟩
    · exact h.mounted e he

theorem World.Ledger.sublist (h : w₀.Ledger w) {db : Db} (hs : db.Sublist w.db) :
    w₀.Ledger { w with db := db } where
  wf := h.wf.sublist hs
  opens e he := h.opens e (hs.subset he)
  points := h.points.sublist hs
  mounted e he := h.mounted e (hs.subset he)

theorem World.Ledger.setLatest (h : w₀.Ledger w) {package path : String} {db : Db}
    (hs : w.db.setLatest package path = some db) : w₀.Ledger { w with db := db } := by
  have hwf := Db.setLatest_wf h.wf hs
  obtain ⟨hit, _, _, _, rfl⟩ := Db.setLatest_eq_some hs
  -- only flags change
  let flag : Entry → Entry := fun e =>
    if e.package == package then { e with latest := e.data == hit.data } else e
  have hflag : ∀ e, (flag e).package = e.package ∧ (flag e).data = e.data := by
    intro e
    dsimp only [flag]
    split <;> exact ⟨rfl, rfl⟩
  refine ⟨hwf, fun e he => ?_, ?_, fun e he => ?_⟩
  · obtain ⟨x, hx, rfl⟩ := List.mem_map.1 he
    rw [show (if x.package == package then { x with latest := x.data == hit.data } else x) = flag x
      from rfl, (hflag x).1, (hflag x).2]
    exact h.opens x hx
  · refine List.pairwise_map.2 (h.points.imp fun {a b} hab => ?_)
    show (flag a).data.mountPoint ≠ (flag b).data.mountPoint
    rw [(hflag a).2, (hflag b).2]
    exact hab
  · obtain ⟨x, hx, rfl⟩ := List.mem_map.1 he
    show ∃ m ∈ w.mounts, m.mountPoint = (flag x).data.mountPoint ∧
      ((flag x).data.loopName = "" ∨ m.loop = some (flag x).data.loopName) ∧
        w₀.ShowsPath m (flag x).data.fullPath
    rw [(hflag x).2]
    exact h.mounted x hx

/-- At most one entry of a package has a path. -/
theorem World.Ledger.onePath (h : w₀.Ledger w) (apex : ApexFile) : w.db.OnePath apex := by
  intro a ha b hb _ _ hpa hpb
  obtain ⟨x, hx, _, hax, _⟩ := h.opens a ha
  obtain ⟨y, hy, _, hby, _⟩ := h.opens b hb
  rw [hpa] at hx
  rw [hpb, hx] at hy
  cases hy
  exact h.eq_of_point ha hb (hax.trans hby.symm)

theorem World.Ledger.nodup (h : w₀.Ledger w) : w.db.Nodup :=
  h.points.imp fun hne heq => hne (congrArg (·.data.mountPoint) heq)

end Ledger

/-! ## The programs -/

section Programs

variable {w₀ w : World} {apex : ApexFile} {F : Faults} {cfg : Config} {α : Type}

theorem World.Ledger.wp_mountPackage (h : w₀.Ledger w) (hF : F.Refusals) (hr : w₀.Restartable w)
    (ht : w₀.Traceable) (ho : w₀.openApex apex.path = .ok apex) :
    wp (heldKernel F w₀) w₀.Restartable (mountPackage cfg apex (getPackageMountPoint apex.manifest))
      (fun x w' => w₀.Ledger w' ∧ (x = .ok () → ∃ e ∈ w'.db, e.package = apex.manifest.name ∧
        e.data.mountPoint = getPackageMountPoint apex.manifest ∧ e.data.fullPath = apex.path))
          w := by
  have hbelow := below_packageMountPoint apex.manifest
  have htable := (wp_mountPackageImpl_table hF cfg apex (getPackageMountPoint apex.manifest)
    (getPackageId apex.manifest) false w).yields (yields_mountPackageImpl apex _ _ _)
  have hpoint : getPackageMountPoint apex.manifest = join kApexRoot (getPackageId apex.manifest) :=
    rfl
  have hkeep := hr.wp_mountPackageImpl hF World.keptFrom_same hpoint
    (notBuiltin_of_below hbelow) (fun w f hw hf _ => ⟨apex, ho, rfl, (hw.files _).symm.trans hf⟩)
    (fun hflat hbuiltin => ⟨apex, ho, rfl, hflat, hbuiltin⟩) cfg false
  have himpl := (hkeep.and htable).withPre (uses_mountPackageImpl apex _ _ hbelow)
    fun c w hc _ => show AbortsHeld w₀ c w from hc.aborts w
  refine wp_bind.2 (himpl.mono (fun _ h => h.1) ?_)
  rintro (e | d) w₁ ⟨h₁, _⟩ ⟨hmint, ⟨htried, hnone⟩, hyield⟩
  · refine ⟨?_, nofun⟩
    rcases htried with hs | ⟨m, _, hpush⟩
    · exact h.grow hs.db (by rw [hs.mounts]; exact fun _ => id)
    · exact h.grow hpush.db (by rw [hpush.mounts]; exact fun _ => List.mem_cons_of_mem _)
  · obtain ⟨m, _, hpush⟩ := htried
    have hl₁ : w₀.Ledger w₁ :=
      h.grow hpush.db (by rw [hpush.mounts]; exact fun _ => List.mem_cons_of_mem _)
    have hno : ∀ e ∈ w₁.db, e.data.mountPoint ≠ getPackageMountPoint apex.manifest := by
      rw [hpush.db]
      rcases hnone with hnone | ⟨_, e, he⟩
      · exact h.no_entry hnone
      · cases he
    have hd := hmint d rfl
    have hc := hl₁.compatible h₁ ht ho hd hno
    refine ⟨h₁, trivial, ?_⟩
    rintro _ w₂ (⟨rfl, rfl⟩ | hf)
    case inr => exact (hF _ _ _ _ hf).1.elim
    dsimp only [ret_bind]
    rw [Db.addMountedApex_eq hl₁.wf hc]
    refine ⟨h₁, trivial, ?_⟩
    rintro u w₃ (hn | hf)
    case inr => exact (hF _ _ _ _ hf).1.elim
    obtain rfl : w₃ = { w₂ with db := w₂.db.emplace ⟨apex.manifest.name, d, false⟩ } := hn
    refine ⟨World.Restartable.setDb h₁ fun e he => ?_,
        hl₁.add h₁ ho hd (hyield d rfl).2 hno hc, fun _ =>
      ⟨_, Db.mem_emplace.2 (Or.inl rfl), rfl, hd.point, (hyield d rfl).2⟩⟩
    rcases Db.mem_emplace.1 he with rfl | he
    · show belowApex d.mountPoint
      rw [hd.point]
      exact hbelow
    · exact h₁.kept.points e he

theorem u64_inj {a b : Int} (ha : 0 < a ∧ a < 2 ^ 31) (hb : 0 < b ∧ b < 2 ^ 31)
    (h : u64 a = u64 b) : a = b := by
  unfold u64 at h
  omega

theorem World.Restartable.wp_openApex_stays (hF : F.Refusals) (h : w₀.Restartable w) (p : String) :
    wp (heldKernel F w₀) w₀.Restartable (Apexd.openApex p)
      (fun x w' => w' = w ∧ ∀ a, x = .ok a → w₀.openApex p = .ok a) w := by
  refine ⟨h, trivial, fun r w₁ hs => wp_ofExcept.2 ?_⟩
  rcases hs with ⟨hr, rfl⟩ | hf
  · refine ⟨h, rfl, fun a ha => ?_⟩
    rw [← ha, hr, h.kept.openApex]
  · obtain ⟨⟨e, _, rfl⟩, rfl⟩ := hF _ _ _ _ hf
    refine ⟨h, rfl, fun a ha => ?_⟩
    cases ha

/-- An entry of the version, if one was found. -/
def World.FoundVersion (w : World) (apex : ApexFile) (found : OtherVersions) : Prop :=
  found.versionFoundMounted = true → ∃ e ∈ w.db, e.package = apex.manifest.name ∧
    e.data.mountPoint = getPackageMountPoint apex.manifest ∧ found.versionFoundActive = e.latest

/-- An entry whose file cannot be opened is passed over. -/
theorem World.Ledger.wp_otherVersionsStep (h : w₀.Ledger w) (hF : F.Refusals)
    (hr : w₀.Restartable w) (ht : w₀.Traceable)
    (ho : w₀.openApex apex.path = .ok apex) {acc : OtherVersions}
    (hacc : w.FoundVersion apex acc) {e : Entry}
    (he : e ∈ w.db) (hpkg : e.package = apex.manifest.name) :
    wp (heldKernel F w₀) w₀.Restartable (otherVersionsStep (u64 apex.manifest.version) acc e)
      (fun x w' => w' = w ∧ ∃ acc', x = .ok acc' ∧ w.FoundVersion apex acc') w := by
  unfold otherVersionsStep
  refine wp_bind.2 (wp_attempt.2
    ((World.Restartable.wp_openApex_stays hF hr e.data.fullPath).imp ?_))
  rintro (err | other) _ _ ⟨rfl, hopen⟩
  · exact ⟨hr, rfl, acc, rfl, hacc⟩
  · refine ⟨hr, rfl, _, rfl, ?_⟩
    by_cases hv : u64 other.manifest.version = u64 apex.manifest.version
    · have hentry : e.data.mountPoint = getPackageMountPoint apex.manifest := by
        obtain ⟨a, ha, hname, hpoint, _⟩ := h.opens e he
        rw [hopen other rfl] at ha
        cases ha
        have hversion := u64_inj (ht.versions _ _ (hopen _ rfl)) (ht.versions _ _ ho) hv
        rw [hpoint]
        unfold getPackageMountPoint getPackageId
        rw [← hname, hpkg, hversion]
      rw [if_pos hv, if_neg (by omega)]
      exact fun _ => ⟨e, he, hpkg, hentry, rfl⟩
    · rw [if_neg hv]
      split <;> exact hacc

/-- What is found out about the version in the database. -/
theorem World.Ledger.wp_otherVersions (h : w₀.Ledger w) (hF : F.Refusals) (hr : w₀.Restartable w)
    (ht : w₀.Traceable) (ho : w₀.openApex apex.path = .ok apex) :
    wp (heldKernel F w₀) w₀.Restartable (Apexd.otherVersions apex.manifest)
      (fun x w' => w' = w ∧ ∀ found, x = .ok found → w.FoundVersion apex found) w := by
  refine ⟨hr, trivial, ?_⟩
  rintro _ w₁ (⟨rfl, rfl⟩ | hf)
  case inr => exact (hF _ _ _ _ hf).1.elim
  refine wp_foldlM (fun _ acc w' => w' = w₁ ∧ w₁.FoundVersion apex acc) _ ?_ ?_ ⟨rfl, nofun⟩
  · rintro e rest acc _ hsuffix ⟨rfl, hacc⟩
    obtain ⟨he, hpkg⟩ := List.mem_filter.1 (hsuffix.subset List.mem_cons_self)
    refine (h.wp_otherVersionsStep hF hr ht ho hacc he (eq_of_beq hpkg)).imp ?_
    rintro _ _ _ ⟨rfl, acc', rfl, hacc'⟩
    exact ⟨rfl, hacc'⟩
  · rintro acc _ ⟨rfl, hacc⟩
    refine ⟨hr, rfl, ?_⟩
    rintro _ ⟨⟩
    exact hacc

/-- The mount point of an entry is not an active one. -/
theorem World.Ledger.active_ne (h : w₀.Ledger w) (ht : w₀.Traceable)
    (ho : w₀.openApex apex.path = .ok apex) :
    ∀ e ∈ w.db, e.data.mountPoint ≠ getActiveMountPoint apex.manifest := by
  intro e he hp
  obtain ⟨a, ha, _, hpoint, _⟩ := h.opens e he
  obtain ⟨m, _, hmp, _⟩ := h.mounted e he
  refine ht.not_passed ha (hmp.trans hpoint) (Or.inr ?_)
  rw [hmp, hp]
  exact (below_active ht ho).2

theorem SpareCmd.leaves {db : Db} {c : Sys} (h : SpareCmd c) : LeavesEntries db c := by
  cases c <;> first | exact h | trivial

/-- `SetLatest` after the package was bound. -/
theorem World.Ledger.wp_setLatest (h : w₀.Ledger w) (hF : F.Refusals) (hr : w₀.Restartable w)
    (ho : w₀.openApex apex.path = .ok apex) (hentry : ∃ e ∈ w.db, e.package = apex.manifest.name ∧
      e.data.mountPoint = getPackageMountPoint apex.manifest ∧
        (e.data.fullPath = apex.path ∨ e.latest = false)) :
    wp (heldKernel F w₀) w₀.Restartable (Apexd.setLatest apex.manifest.name apex.path)
      (fun _ w' => w₀.Ledger w') w := by
  refine ⟨hr, trivial, ?_⟩
  rintro _ w₁ (⟨rfl, rfl⟩ | hf)
  case inr => exact (hF _ _ _ _ hf).1.elim
  dsimp only [ret_bind]
  cases hs : w₁.db.setLatest apex.manifest.name apex.path with
  | none =>
    obtain ⟨e, he, hpkg, hpoint, hcase⟩ := hentry
    have hpath : e.data.fullPath ≠ apex.path := fun hp =>
      Db.setLatest_eq_none.1 hs ⟨e, he, hpkg, hp⟩
    exact ⟨hr, ⟨apex, ho, rfl, e, he, hpkg, hpoint, hpath, hcase.resolve_left hpath⟩,
      fun r => r.elim⟩
  | some db =>
    refine ⟨hr, trivial, ?_⟩
    rintro u w₂ (hn | hf)
    case inr => exact (hF _ _ _ _ hf).1.elim
    obtain rfl : w₂ = { w₁ with db := db } := hn
    refine ⟨World.Restartable.setDb hr fun e he => ?_, h.setLatest hs⟩
    obtain ⟨a, _, _, hpoint, _⟩ := (h.setLatest hs).opens e he
    rw [hpoint]
    exact below_packageMountPoint _

/-- **An activation.** -/
theorem World.Ledger.wp_activatePackageImpl (h : w₀.Ledger w) (hF : F.Refusals)
    (hr : w₀.Restartable w)
    (ht : w₀.Traceable) (hfree : ∀ p, belowApex p → w₀.file? p = none)
    (ho : w₀.openApex apex.path = .ok apex) :
    wp (heldKernel F w₀) w₀.Restartable (activatePackageImpl cfg apex)
      (fun _ w' => w₀.Ledger w') w := by
  unfold activatePackageImpl
  split
  · exact ⟨hr, h⟩
  split
  · exact ⟨hr, h⟩
  refine (h.wp_otherVersions hF hr ht ho).bind ?_ ?_
  case refine_2 =>
    rintro e _ _ ⟨rfl, _⟩
    exact h
  rintro found w₁ _ ⟨rfl, hfound⟩
  split
  · exact ⟨hr, h⟩
  rename_i hinactive
  -- the version has an entry after this
  have hmount : wp (heldKernel F w₀) w₀.Restartable (when (!found.versionFoundMounted)
      (mountPackage cfg apex (getPackageMountPoint apex.manifest)))
        (fun x w' => w₀.Ledger w' ∧ (x = .ok () →
        ∃ e ∈ w'.db, e.package = apex.manifest.name ∧
          e.data.mountPoint = getPackageMountPoint apex.manifest ∧
          (e.data.fullPath = apex.path ∨ e.latest = false))) w₁ := by
    refine wp_when (fun _ => ?_) fun hmounted => ⟨hr, h, fun _ => ?_⟩
    · refine (h.wp_mountPackage hF hr ht ho).imp ?_
      rintro x w₂ _ ⟨h₂, hentry⟩
      refine ⟨h₂, fun hx => ?_⟩
      obtain ⟨e, he, hpkg, hpoint, hpath⟩ := hentry hx
      exact ⟨e, he, hpkg, hpoint, Or.inl hpath⟩
    · obtain ⟨e, he, hpkg, hpoint, hlatest⟩ := hfound found rfl (by simpa using hmounted)
      exact ⟨e, he, hpkg, hpoint, Or.inr (by simpa [hlatest] using hinactive)⟩
  refine hmount.bind ?_ fun _ _ _ h => h.1
  rintro _ w₂ hr₂ ⟨h₂, hentry⟩
  refine wp_when (fun _ => ?_) fun _ => ⟨hr₂, h₂⟩
  obtain ⟨hbelow, hactive⟩ := below_active ht ho
  have hbind : (Apexd.bindMount (getActiveMountPoint apex.manifest)
    (getPackageMountPoint apex.manifest)).Uses
      (LeavesEntries w₂.db) := uses_bindMount_spare (fun _ => SpareCmd.leaves) hbelow hbelow
        (h₂.active_ne ht ho) ⟨hbelow, hactive⟩
  refine (h₂.wp_uses hF hr₂ hfree (uses_mapErr hbind)).bind ?_ fun _ _ _ h => h.1
  rintro _ w₃ hr₃ ⟨h₃, hdb⟩
  exact h₃.wp_setLatest hF hr₃ ho (hdb ▸ hentry rfl)

/-- **A deactivation.** -/
theorem World.Ledger.wp_unmountPackage (h : w₀.Ledger w) (hF : F.Refusals) (hr : w₀.Restartable w)
    (ht : w₀.Traceable) (hfree : ∀ p, belowApex p → w₀.file? p = none)
    (ho : w₀.openApex apex.path = .ok apex) (allowLatest : Bool) :
    wp (heldKernel F w₀) w₀.Restartable (unmountPackage apex allowLatest)
      (fun _ w' => w₀.Ledger w') w := by
  rw [unmountPackage_eq]
  refine ⟨hr, trivial, ?_⟩
  rintro _ w₁ (⟨rfl, rfl⟩ | hf)
  case inr => exact (hF _ _ _ _ hf).1.elim
  dsimp only
  cases hfound : w₁.db.foundEntry? apex with
  | none => exact ⟨hr, h⟩
  | some e =>
    obtain ⟨he, _, _⟩ := Db.foundEntry?_mem hfound
    have hdetach : (detachActive apex allowLatest e).Uses (LeavesEntries w₁.db) :=
      uses_detachActive_spare (fun _ => SpareCmd.leaves) (h.active_ne ht ho)
    refine (h.wp_uses hF hr hfree hdetach).bind ?_ fun _ _ _ h => h.1
    rintro _ w₂ hr₂ ⟨h₂, hdb⟩
    -- the entry that was found is taken out, and no other one is of its mount
    have hremoved : w₂.db.removeMountedApex apex.manifest.name apex.path = w₁.db.erase e := by
      rw [hdb, (h.onePath apex).removed hfound]
    refine ⟨hr₂, trivial, ?_⟩
    rintro _ w₃ (⟨rfl, rfl⟩ | hf)
    case inr => exact (hF _ _ _ _ hf).1.elim
    refine ⟨hr₂, trivial, ?_⟩
    rintro u w₄ (hn | hf)
    case inr => exact (hF _ _ _ _ hf).1.elim
    obtain rfl : w₄ = { w₃ with db := w₃.db.removeMountedApex apex.manifest.name apex.path } := hn
    have hsub := Db.removeMountedApex_sublist w₃.db apex.manifest.name apex.path
    have hr₄ := World.Restartable.setDb hr₂ fun x hx => hr₂.kept.points x (hsub.subset hx)
    have hgone : ∀ x ∈ w₃.db.removeMountedApex apex.manifest.name apex.path,
        x.data.mountPoint ≠ e.data.mountPoint := by
      intro x hx hp
      rw [hremoved, h.nodup.mem_erase_iff] at hx
      exact hx.1 (h.eq_of_point hx.2 he hp)
    have hunmount := uses_unmount_spare (fun _ => SpareCmd.leaves) (hr.kept.points e he) hgone
    exact ((h₂.sublist hsub).wp_uses hF hr₄ hfree hunmount).imp fun _ _ _ h => h.1

theorem World.Ledger.wp_scanAndActivateLoop (h : w₀.Ledger w) (hF : F.Refusals)
    (hr : w₀.Restartable w)
    (ht : w₀.Traceable) (hfree : ∀ p, belowApex p → w₀.file? p = none)
    (packagesWithCode : List (String × Nat)) (failed : List String) (path : String) :
    wp (heldKernel F w₀) w₀.Restartable (scanAndActivateLoop cfg packagesWithCode failed path)
      (fun _ w' => w₀.Restartable w' ∧ w₀.Ledger w') w := by
  have hstep : wp (heldKernel F w₀) w₀.Restartable (scanAndActivateStep cfg packagesWithCode path)
      (fun _ w' => w₀.Ledger w') w := by
    unfold scanAndActivateStep
    refine wp_bind.2 (wp_attempt.2 ((World.Restartable.wp_openApex_stays hF hr path).imp ?_))
    rintro (e | apex) w₁ _ ⟨rfl, hopen⟩
    · exact ⟨hr, h⟩
    · have ho := hopen apex rfl
      obtain rfl := World.openApex_path ho
      have hact : wp (heldKernel F w₀) w₀.Restartable (activateFound cfg apex)
          (fun _ w' => w₀.Ledger w') w₁ := by
        refine wp_bind.2 (wp_attempt.2 ((h.wp_activatePackageImpl hF hr ht hfree ho).imp ?_))
        rintro (e | u) w₂ hr₂ h₂ <;> exact ⟨hr₂, h₂⟩
      have hupdatable : wp (heldKernel F w₀) w₀.Restartable
          (if !cfg.updatable && !apex.flattened then ret false else activateFound cfg apex)
              (fun _ w' => w₀.Ledger w') w₁ := by
        split
        · exact ⟨hr, h⟩
        · exact hact
      dsimp only [Then]
      cases packagesWithCode.lookup apex.manifest.name with
      | none => exact hupdatable
      | some version =>
        dsimp only
        split
        · exact ⟨hr, h⟩
        · exact hupdatable
  exact hstep.bind (fun _ _ hr₁ h₁ => ⟨hr₁, hr₁, h₁⟩) fun _ _ hr₁ h₁ => ⟨hr₁, h₁⟩

/-- One call: it aborts only where the version is held elsewhere. -/
theorem World.Ledger.wp_call (h : w₀.Ledger w) (hF : F.Refusals) (hr : w₀.Restartable w)
    (ht : w₀.Traceable) (hfree : ∀ p, belowApex p → w₀.file? p = none) (c : MountCall) :
    wp (heldKernel F w₀) w₀.Restartable (c.prog cfg) (fun _ w' => w₀.Ledger w') w := by
  cases c with
  | activatePackage fullPath =>
    refine wp_bind.2 ((World.Restartable.wp_openApex_stays hF hr fullPath).imp ?_)
    rintro (e | apex) _ _ ⟨rfl, hopen⟩
    · exact h
    · have ho := hopen apex rfl
      obtain rfl := World.openApex_path ho
      exact h.wp_activatePackageImpl hF hr ht hfree ho
  | deactivatePackage fullPath =>
    refine wp_bind.2 ((World.Restartable.wp_openApex_stays hF hr fullPath).imp ?_)
    rintro (e | apex) _ _ ⟨rfl, hopen⟩
    · exact h
    · have ho := hopen apex rfl
      obtain rfl := World.openApex_path ho
      exact h.wp_unmountPackage hF hr ht hfree ho true
  | scanPackagesDirAndActivate dir =>
    have hscan := uses_findApexFilesByName_spare (S := LeavesEntries w.db)
      (fun _ => SpareCmd.leaves) dir
    refine (h.wp_uses hF hr hfree (uses_mapErr hscan)).bind ?_ fun _ _ _ h => h.1
    rintro scan w₁ hr₁ ⟨h₁, _⟩
    have hmap := uses_getActivePackagesMap_spare (S := LeavesEntries w₁.db)
      (fun _ => SpareCmd.leaves) fun _ => trivial
    refine (h₁.wp_uses hF hr₁ hfree hmap).bind ?_ fun _ _ _ h => h.1
    rintro packagesWithCode w₂ hr₂ ⟨h₂, _⟩
    refine wp_bind.2 (wp_foldlM (fun _ _ w' => w₀.Restartable w' ∧ w₀.Ledger w') scan
      (fun path rest failed w₃ _ h₃ => ?_) (fun failed w₃ h₃ => ⟨h₃.1, wp_require.2 ⟨h₃.1, h₃.2⟩⟩)
        ⟨hr₂, h₂⟩)
    refine (h₃.2.wp_scanAndActivateLoop hF h₃.1 ht hfree packagesWithCode failed path).imp ?_
    rintro (e | failed') w₄ _ h₄
    · exact h₄.2
    · exact h₄

end Programs

/-! ## Restarts -/

section Restart

variable {s : SystemView} {w₀ w₁ w w' : World} {F : Faults} {cfg : Config} {c : MountCall}
    {f : Mount → MountLine}

/-- Every flagged entry is opened. -/
theorem World.Ledger.openLatest (h : w₀.Ledger w) (ho : w.openApex = w₀.openApex) {es : List Entry}
    (hes : ∀ e ∈ es, e ∈ w.db) :
    List.Forall₂ (fun e a => w₀.openApex e.data.fullPath = .ok a) (es.filter (·.latest))
      (w.openLatest es) := by
  unfold World.openLatest
  rw [ho]
  have hall : ∀ e ∈ es.filter (·.latest), e ∈ w.db := fun e he => hes e (List.mem_filter.1 he).1
  generalize es.filter (·.latest) = flagged at hall
  induction flagged with
  | nil => exact .nil
  | cons e rest ih =>
    obtain ⟨apex, hopen, _⟩ := h.opens e (hall e List.mem_cons_self)
    rw [List.filterMap_cons_some (by rw [hopen]; rfl)]
    exact .cons hopen (ih fun e' he' => hall e' (List.mem_cons_of_mem _ he'))

end Restart

/-! ## One version at two paths -/

end Apexd
