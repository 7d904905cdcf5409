import Apexd.MountTable
import Apexd.StageFrame

/-!
# Unmounting a package

`Unmount` and `UnmountPackage`: which entry of the database is removed and which one is unmounted.

* `unmount_inj` — the call of `Unmount` names the mount point and both devices.
* `wp_unmount` — what `Unmount` changes.
* `UnmountsExactly` — the entry removed from the database is the one that is unmounted.
* `unmountPackage_exact_iff` — exactly when that holds; the entry is looked up and removed by its
  path.
-/

set_option autoImplicit false

namespace Apexd

open Text Prog

/-! ## The mounts on one mount point -/

/-- The mounts on a mount point, the topmost first. -/
def World.stack (w : World) (p : String) : List Mount := w.mounts.filter fun m => m.mountPoint == p

section Stack

variable {w w' : World} {m : Mount} {p q : String}

theorem World.mounted_eq_head? (w : World) (p : String) : w.mounted p = (w.stack p).head? :=
    (List.head?_filter ..).symm

theorem World.stack_congr (h : w'.mounts = w.mounts) : w'.stack p = w.stack p := by
  unfold World.stack
  rw [h]

theorem World.stack_push (h : w'.mounts = m :: w.mounts) :
    w'.stack p = if m.mountPoint = p then m :: w.stack p else w.stack p := by
  unfold World.stack
  rw [h, List.filter_cons]
  by_cases hm : m.mountPoint = p <;> simp [hm]

/-- The topmost mount goes. -/
theorem World.stack_pop (h : w'.mounts = w.mounts.eraseP fun m => m.mountPoint == q) :
    w'.stack p = if q = p then (w.stack p).tail else w.stack p := by
  unfold World.stack
  rw [h]
  rcases List.exists_or_eq_self_of_eraseP (fun m : Mount => m.mountPoint == q) w.mounts with
    hself | ⟨m, l₁, l₂, hl₁, hm, hl, he⟩
  · have hnone : ∀ m ∈ w.mounts, m.mountPoint ≠ q := by
      intro m hm hq
      have hlen := List.length_eraseP_of_mem (p := fun m : Mount => m.mountPoint == q) hm
        (beq_iff_eq.2 hq)
      rw [hself] at hlen
      have := List.length_pos_of_mem hm
      omega
    rw [hself]
    split
    · rename_i hqp
      subst hqp
      rw [List.filter_eq_nil_iff.2 fun m hm => by simpa using hnone m hm]
      rfl
    · rfl
  · have hm : m.mountPoint = q := beq_iff_eq.1 hm
    rw [he, hl, List.filter_append, List.filter_append, List.filter_cons]
    split
    · rename_i hqp
      subst hqp
      rw [List.filter_eq_nil_iff.2 hl₁, if_pos (beq_iff_eq.2 hm)]
      rfl
    · rename_i hqp
      rw [if_neg (by simpa [hm] using hqp)]

end Stack

/-! ## `Unmount` -/

/-- `Unmount` once the directory is unmounted. -/
def unmountDevices (data : MountedApexData) : ApexM Unit := do
  when (data.deviceName ≠ "") (logged (deleteVerityDeviceByName data.deviceName))
  when (data.loopName ≠ "") (destroyLoopDevice data.loopName)

/-- `Unmount` after the reply of `umount2`. -/
def unmountAfter (data : MountedApexData) : Except Errno Unit → ApexM Unit
  | .ok _ => call (.rmdir data.mountPoint) fun _ => unmountDevices data
  | .error e => (require (e = .einval || e = .enoent)
      (perror ("Failed to unmount directory " ++ data.mountPoint) e)).bind fun _ =>
        call (.rmdir data.mountPoint) fun _ => unmountDevices data

theorem unmount_eq (data : MountedApexData) : unmount data = call (.umount2 data.mountPoint)
    (unmountAfter data) := by
  unfold unmount
  simp only [bind_eq, exec_bind]
  exact congrArg (call _) (funext fun r => by cases r <;> rfl)

/-- The first command, if there is one. -/
def firstCall {α : Type} : ApexM α → Option Sys
  | call c _ => some c
  | _ => none

theorem firstCall_destroy (l : String) : firstCall (when (l ≠ "") (destroyLoopDevice l)) =
    if l = "" then none else some (.openDevice l) := by
  by_cases hl : l = ""
  · rw [hl]
    rfl
  · rw [if_neg hl]
    unfold when
    rw [if_pos (by simpa using hl)]
    rfl

theorem destroy_inj {l l' : String}
    (h : when (l ≠ "") (destroyLoopDevice l) = when (l' ≠ "") (destroyLoopDevice l')) : l = l' := by
  have hf := congrArg firstCall h
  rw [firstCall_destroy, firstCall_destroy] at hf
  split at hf <;> split at hf <;> simp_all

theorem unmountDevices_of_device {data : MountedApexData} (h : data.deviceName ≠ "") :
    unmountDevices data = call (.dmGetPath data.deviceName) fun
      | none => when (data.loopName ≠ "") (destroyLoopDevice data.loopName)
      | some path => (logged (deleteVerityDevice data.deviceName path)).bind fun _ =>
        when (data.loopName ≠ "") (destroyLoopDevice data.loopName) := by
  unfold unmountDevices when
  rw [if_pos (by simpa using h)]
  unfold logged deleteVerityDeviceByName
  simp only [bind_eq, exec_bind]
  exact congrArg (call _) (funext fun r => by cases r <;> rfl)

theorem unmountDevices_of_none {data : MountedApexData} (h : data.deviceName = "") :
    unmountDevices data = when (data.loopName ≠ "") (destroyLoopDevice data.loopName) := by
  unfold unmountDevices
  rw [h]
  rfl

theorem unmountDevices_inj {d d' : MountedApexData} (h : unmountDevices d = unmountDevices d') :
    d.deviceName = d'.deviceName ∧ d.loopName = d'.loopName := by
  have hne : ∀ n l : String, firstCall (when (l ≠ "") (destroyLoopDevice l)) ≠ some
      (.dmGetPath n) := by
    intro n l
    rw [firstCall_destroy]
    split <;> simp
  by_cases hd : d.deviceName = "" <;> by_cases hd' : d'.deviceName = ""
  · rw [unmountDevices_of_none hd, unmountDevices_of_none hd'] at h
    exact ⟨hd.trans hd'.symm, destroy_inj h⟩
  · rw [unmountDevices_of_none hd, unmountDevices_of_device hd'] at h
    exact absurd (congrArg firstCall h) (hne _ _)
  · rw [unmountDevices_of_device hd, unmountDevices_of_none hd'] at h
    exact absurd (congrArg firstCall h.symm) (hne _ _)
  · rw [unmountDevices_of_device hd, unmountDevices_of_device hd'] at h
    obtain ⟨l, f, m, n⟩ := d
    obtain ⟨l', f', m', n'⟩ := d'
    injection h with h1 h2
    injection h1 with h1
    subst h1
    exact ⟨rfl, destroy_inj (congrFun h2 none)⟩

/-- `Unmount` is given the mount point and both devices. -/
theorem unmount_inj {d d' : MountedApexData} (h : unmount d = unmount d') :
    d.mountPoint = d'.mountPoint ∧ d.deviceName = d'.deviceName ∧ d.loopName = d'.loopName := by
  rw [unmount_eq, unmount_eq] at h
  obtain ⟨l, f, m, n⟩ := d
  obtain ⟨l', f', m', n'⟩ := d'
  injection h with h1 h2
  injection h1 with h1
  subst h1
  have h3 := congrFun h2 (.ok ())
  injection h3 with _ h4
  have h5 := congrFun h4 (.ok ())
  exact ⟨rfl, unmountDevices_inj h5⟩

/-- The calls of `Unmount` after the first one. -/
def DetachCmd (data : MountedApexData) : Sys → Prop
  | .rmdir p => p = data.mountPoint
  | .dmGetPath n => n = data.deviceName
  | .dmDelete n => n = data.deviceName
  | .deviceExists _ => True
  | .openDevice p => p = data.loopName
  | .loopGetStatus p => p = data.loopName
  | .loopClrFd p => p = data.loopName
  | _ => False

section Detach

variable {data : MountedApexData} {w w' : World} {F : Faults}

theorem uses_unmountDevices (data : MountedApexData) :
    (unmountDevices data).Uses (DetachCmd data) := by
  unfold unmountDevices
  apply uses_bind
  · apply uses_when
    apply uses_logged
    refine uses_exec_bind rfl fun path => ?_
    cases path with
    | none => trivial
    | some path =>
      refine uses_exec_bind rfl fun deleted => ?_
      exact uses_bind (uses_require _ _) fun _ => uses_waitForDevice (fun _ => trivial) _ _
  · intro _
    apply uses_when
    refine uses_exec_bind rfl fun r => ?_
    cases r with
    | error e => trivial
    | ok _ =>
      refine uses_exec_bind rfl fun r => ?_
      cases r with
      | error e => trivial
      | ok id => exact uses_ite (uses_exec_bind rfl fun _ => trivial) trivial

/-- The calls that unmount a package. -/
def UnmountCmd : Sys → Prop
  | .getDb => True
  | .setDb _ => True
  | .umount2 _ => True
  | .rmdir _ => True
  | c => ∃ data, DetachCmd data c

theorem DetachCmd.unmountCmd {c : Sys} (h : DetachCmd data c) : UnmountCmd c := by
  cases c <;> first | trivial | exact ⟨data, h⟩

theorem uses_unmount_calls (data : MountedApexData) : (unmount data).Uses UnmountCmd := by
  have hrest : (call (.rmdir data.mountPoint) fun _ => unmountDevices data : ApexM Unit).Uses
      UnmountCmd :=
    ⟨trivial, fun _ => (uses_unmountDevices data).mono fun _ => DetachCmd.unmountCmd⟩
  rw [unmount_eq]
  refine ⟨trivial, fun r => ?_⟩
  cases r with
  | ok _ => exact hrest
  | error err => exact uses_bind (uses_require _ _) fun _ => hrest

theorem uses_unmountPackage_calls (apex : ApexFile) (allowLatest : Bool) :
    (unmountPackage apex allowLatest).Uses UnmountCmd := by
  refine uses_exec_bind trivial fun db => ?_
  dsimp only
  split
  · trivial
  · refine uses_bind (uses_when (uses_bind (uses_require _ _) fun _ => ?_)) fun _ =>
      uses_bind ?_ fun _ => ?_
    · exact uses_bind (uses_exec_bind trivial fun r => uses_check _ r) fun _ =>
        uses_exec_bind trivial fun _ => trivial
    · exact uses_exec_bind trivial fun _ => uses_exec trivial
    · exact uses_unmount_calls _

theorem DetachCmd.keepsMounts {c : Sys} (h : DetachCmd data c) : KeepsMounts c := by
  cases c <;> first | exact h.elim | trivial

/-- What `Unmount` leaves: the topmost mount at the mount point has gone, unless that was
refused. -/
structure Unmounted (F : Faults) (data : MountedApexData) (w w' : World) : Prop where
  files : ∀ q, w'.file? q = w.file? q
  db : w'.db = w.db
  mounts : w'.mounts = w.mounts.eraseP (fun m => m.mountPoint == data.mountPoint) ∨
    w'.mounts = w.mounts ∧ ∃ r w₁, F (.umount2 data.mountPoint) w r w₁

theorem eraseP_mounted {p : String} (h : w.mounted p = none) :
    (w.mounts.eraseP fun m => m.mountPoint == p) = w.mounts :=
  List.eraseP_of_forall_not (List.find?_eq_none.1 h)

/-- The first call of `Unmount`. -/
theorem unmounted_umount2 {r : Except Errno Unit} (h : (r, w') = w.umount2 data.mountPoint) :
    Unmounted F data w w' := by
  have hmounts := World.umount2_onlyMounts h
  refine ⟨World.file?_congr (by rw [hmounts]), by rw [hmounts], Or.inl ?_⟩
  rcases w.umount2_cases data.mountPoint with ⟨e, hnone, he⟩ | ⟨_, he⟩
  · rw [he] at h
    cases h
    exact (eraseP_mounted hnone).symm
  · rw [he] at h
    cases h
    rfl

theorem Unmounted.after {w₁ : World} (h : Unmounted F data w w₁) (h' : w₁.SameMounts w') :
    Unmounted F data w w' where
  files q := (h'.files q).trans (h.files q)
  db := h'.db.trans h.db
  mounts := by
    rw [h'.mounts]
    exact h.mounts

theorem wp_unmount (hF : F.Refusals) (data : MountedApexData) (w : World) :
    wp (kernel .off F) (fun w' => w'.db = w.db) (unmount data)
      (fun _ w' => Unmounted F data w w') w := by
  have hrest : ∀ w₁ : World, Unmounted F data w w₁ → wp (kernel .off F) (fun w' => w'.db = w.db)
      (call (.rmdir data.mountPoint) fun _ => unmountDevices data)
          (fun _ w' => Unmounted F data w w') w₁ := by
    intro w₁ h₁
    have huses : (call (.rmdir data.mountPoint) fun _ => unmountDevices data : ApexM Unit).Uses
        (DetachCmd data) := ⟨rfl, fun _ => uses_unmountDevices data⟩
    have hkeep := (keeps_sameMounts hF (huses.mono fun _ h => h.keepsMounts)) w₁ (.refl w₁)
    exact hkeep.mono (fun w' h => h.db.trans h₁.db) fun _ w' h _ => h₁.after h
  rw [unmount_eq]
  refine ⟨rfl, trivial, ?_⟩
  intro r w₁ hs
  have h₁ : Unmounted F data w w₁ := by
    rcases hs with hn | hf
    · exact unmounted_umount2 hn
    · obtain ⟨_, rfl⟩ := hF _ _ _ _ hf
      exact ⟨fun _ => rfl, rfl, Or.inr ⟨rfl, r, _, hf⟩⟩
  cases r with
  | ok _ => exact hrest w₁ h₁
  | error e =>
    refine wp_bind.2 (wp_require.2 ⟨h₁.db, ?_⟩)
    split
    · exact hrest w₁ h₁
    · exact h₁

end Detach

/-! ## `UnmountPackage` -/

/-- The entry that `UnmountPackage` finds: the last one of the package with the path. -/
def Db.foundEntry? (db : Db) (apex : ApexFile) : Option Entry :=
  ((db.forallMountedApexes apex.manifest.name).filter fun e => e.data.fullPath = apex.path).getLast?

/-- An active package is unmounted from `/apex/<name>` first, if that is allowed. -/
def detachActive (apex : ApexFile) (allowLatest : Bool) (e : Entry) : ApexM Unit :=
  when e.latest do
    require allowLatest ("Package " ++ apex.path ++ " is active")
    let mountPoint := getActiveMountPoint apex.manifest
    sys (.umount2 mountPoint) >>= check ("Failed to unmount " ++ mountPoint)
    let _ ← sys (.rmdir mountPoint)
    ret ()

theorem unmountPackage_eq (apex : ApexFile) (allowLatest : Bool) : unmountPackage apex allowLatest =
    call .getDb fun db =>
      match Db.foundEntry? db apex with
      | none => fail ("Did not find " ++ apex.path)
      | some e => (detachActive apex allowLatest e).bind fun _ =>
        (removeMountedApex apex.manifest.name apex.path).bind fun _ => unmount e.data := rfl

/-- Between the start `w` of a call and `w₁`, where it enters `Unmount` for `e`: the active mount
point was detached if `e` is flagged, and `e` was taken out of the database. -/
structure UnmountsEntry (apex : ApexFile) (w : World) (e : Entry) (w₁ : World) : Prop where
  mem : e ∈ w.db
  package : e.package = apex.manifest.name
  path : e.data.fullPath = apex.path
  removed : w₁.db = w.db.erase e
  active : w₁.mounts = if e.latest then
    w.mounts.eraseP fun m => m.mountPoint == getActiveMountPoint apex.manifest else w.mounts

/-- Every complete run of `UnmountPackage` stops before it unmounts anything, or takes one and the
same entry out of the database and down. -/
def UnmountsExactly (apex : ApexFile) (allowLatest : Bool) (w : World) : Prop :=
  ∀ x w', Ends refusingKernel (unmountPackage apex allowLatest) w x w' →
    ((∃ e, x = .error e) ∧ w' = w) ∨ ∃ e w₁, UnmountsEntry apex w e w₁ ∧
      Reaches refusingKernel (unmountPackage apex allowLatest) w (unmount e.data) w₁ ∧
      Ends refusingKernel (unmount e.data) w₁ x w' ∧ w'.db = w₁.db

/-- The call stops before it unmounts anything, even if nothing is refused. -/
def World.StopsUnmount (w : World) (apex : ApexFile) (allowLatest : Bool) : Prop :=
  ∃ e, w.db.foundEntry? apex = some e ∧ e.latest = true ∧
    (allowLatest = false ∨ w.mounted (getActiveMountPoint apex.manifest) = none)

/-- No two entries of the package share the path. -/
def Db.OnePath (db : Db) (apex : ApexFile) : Prop :=
  ∀ a ∈ db, ∀ b ∈ db, a.package = apex.manifest.name → b.package = apex.manifest.name →
    a.data.fullPath = apex.path → b.data.fullPath = apex.path → a = b

section Package

variable {apex : ApexFile} {allowLatest : Bool} {w w' : World} {e : Entry} {F : Faults}

theorem Db.mem_matching {db : Db} :
    e ∈ (db.forallMountedApexes apex.manifest.name).filter (fun e => e.data.fullPath = apex.path) ↔
      e ∈ db ∧ e.package = apex.manifest.name ∧ e.data.fullPath = apex.path := by
  unfold Db.forallMountedApexes
  simp [and_assoc, and_comm]

theorem Db.foundEntry?_mem {db : Db} (h : db.foundEntry? apex = some e) :
    e ∈ db ∧ e.package = apex.manifest.name ∧ e.data.fullPath = apex.path :=
  Db.mem_matching.1 (List.mem_of_getLast? h)

/-- What is detached before the entry is removed. -/
theorem wp_detachActive (hF : F.Refusals) (apex : ApexFile) (allowLatest : Bool)
    (e : Entry) (w : World) :
    wp (kernel .off F) (fun w' => w'.db = w.db) (detachActive apex allowLatest e) (fun x w' =>
      (x ≠ .ok () → w' = w ∧ e.latest = true ∧ (allowLatest = false ∨
        w.mounted (getActiveMountPoint apex.manifest) = none ∨ ∃ c r w₁, F c w r w₁)) ∧
      (x = .ok () → (w'.mounts = if e.latest then
        w.mounts.eraseP fun m => m.mountPoint == getActiveMountPoint apex.manifest else w.mounts) ∧
        (e.latest = true → allowLatest = true ∧ w.mounted (getActiveMountPoint apex.manifest) ≠
          none))) w := by
  unfold detachActive
  apply wp_when
  · intro hlatest
    refine wp_bind.2 (wp_require.2 ⟨rfl, ?_⟩)
    cases allowLatest with
    | false => exact ⟨fun _ => ⟨rfl, hlatest, Or.inl rfl⟩, fun h => by cases h⟩
    | true =>
      refine ⟨rfl, trivial, ?_⟩
      rintro r w₁ (hn | hf)
      · have hu : (r, w₁) = w.umount2 (getActiveMountPoint apex.manifest) := hn
        have hdb : w₁.db = w.db := by rw [World.umount2_onlyMounts hu]
        rcases w.umount2_cases (getActiveMountPoint apex.manifest)
          with ⟨err, hnone, he⟩ | ⟨hsome, he⟩
        · rw [he] at hu
          cases hu
          exact ⟨rfl, fun _ => ⟨rfl, hlatest, Or.inr (Or.inl hnone)⟩, fun h => by cases h⟩
        · rw [he] at hu
          cases hu
          refine ⟨hdb, trivial, ?_⟩
          intro r w₂ hs
          have hsame : w₂.mounts = w.mounts.eraseP
            (fun m => m.mountPoint == getActiveMountPoint apex.manifest) ∧
              w₂.db = w.db := by
            rcases hs with hn | hf
            · have hdirs := World.rmdir_onlyDirs hn
              exact ⟨hdirs.mounts, by rw [hdirs]; rfl⟩
            · obtain ⟨_, rfl⟩ := hF _ _ _ _ hf
              exact ⟨rfl, rfl⟩
          refine ⟨hsame.2, fun h => absurd rfl h,
            fun _ => ⟨?_, fun _ => ⟨rfl, Option.isSome_iff_ne_none.1 hsome⟩⟩⟩
          rw [if_pos hlatest]
          exact hsame.1
      · have hf' := hF _ _ _ _ hf
        obtain ⟨⟨err, _, rfl⟩, rfl⟩ := hf'
        exact ⟨rfl, fun _ => ⟨rfl, hlatest, Or.inr (Or.inr ⟨_, _, _, hf⟩)⟩, fun h => by cases h⟩
  · intro hlatest
    rw [hlatest]
    exact ⟨rfl, fun h => absurd rfl h, fun _ => ⟨rfl, fun h => by cases h⟩⟩

theorem wp_removeMountedApex (hF : F.Refusals) (package path : String) (w : World) :
    wp (kernel .off F) (fun _ => True) (removeMountedApex package path)
      (fun x w' => x = .ok () ∧ w' = { w with db := w.db.removeMountedApex package path }) w := by
  refine ⟨trivial, trivial, ?_⟩
  rintro db w₁ (⟨rfl, rfl⟩ | hf)
  · refine ⟨trivial, trivial, ?_⟩
    rintro u w₂ (hn | hf)
    · exact ⟨trivial, rfl, hn⟩
    · exact (hF _ _ _ _ hf).1.elim
  · exact (hF _ _ _ _ hf).1.elim

/-- **A complete run** stops before it unmounts anything, or goes through `Unmount` of the entry
found, with the first one of its package and path taken out of the database. -/
theorem unmountPackage_ends {x : Except String Unit}
    (h : Ends refusingKernel (unmountPackage apex allowLatest) w x w') :
    ((∃ err, x = .error err) ∧ w' = w) ∨ ∃ e w₁, w.db.foundEntry? apex = some e ∧
      w₁.db = w.db.removeMountedApex apex.manifest.name apex.path ∧
      (w₁.mounts = if e.latest then
        w.mounts.eraseP fun m => m.mountPoint == getActiveMountPoint apex.manifest else w.mounts) ∧
      (e.latest = true → allowLatest = true ∧
        w.mounted (getActiveMountPoint apex.manifest) ≠ none) ∧
      Reaches refusingKernel (unmountPackage apex allowLatest) w (unmount e.data) w₁ ∧
      Ends refusingKernel (unmount e.data) w₁ x w' := by
  have hstart : ∀ e w₁, w.db.foundEntry? apex = some e →
      Reaches refusingKernel ((detachActive apex allowLatest e).bind fun _ =>
        (removeMountedApex apex.manifest.name apex.path).bind fun _ => unmount e.data) w
          (unmount e.data) w₁ →
      Reaches refusingKernel (unmountPackage apex allowLatest) w (unmount e.data) w₁ := by
    intro e w₁ hfound hr
    rw [unmountPackage_eq]
    refine .step (Or.inl ⟨rfl, rfl⟩) ?_
    rw [hfound]
    exact hr
  rw [unmountPackage_eq] at h
  obtain ⟨db, w₀, hs, hrest⟩ := h.of_call
  rcases hs with ⟨rfl, rfl⟩ | hf
  · cases hfound : w₀.db.foundEntry? apex with
    | none =>
      rw [hfound] at hrest
      refine Or.inl ?_
      cases x with
      | ok u => cases hrest
      | error err =>
        cases hrest
        exact ⟨⟨_, rfl⟩, rfl⟩
    | some e =>
      rw [hfound] at hrest
      have hdetach := wp_detachActive Sys.Refused.refusals apex allowLatest e w₀
      rcases Ends.of_bind hrest with ⟨err, rfl, hends⟩ | ⟨u, w₁, hends, hrest⟩
      · obtain ⟨rfl, _⟩ := (hdetach.ends hends).1 (by simp)
        exact Or.inl ⟨⟨err, rfl⟩, rfl⟩
      obtain ⟨hmounts, hallowed⟩ := (hdetach.ends hends).2 rfl
      have hdb := (hdetach.reaches hends).inv
      have hremove := wp_removeMountedApex Sys.Refused.refusals apex.manifest.name apex.path w₁
      rcases Ends.of_bind hrest with ⟨err, rfl, hends₁⟩ | ⟨v, w₂, hends₁, hunmount⟩
      · cases (hremove.ends hends₁).1
      obtain ⟨_, hw₂⟩ := hremove.ends hends₁
      refine Or.inr ⟨e, w₂, rfl, ?_, ?_, hallowed,
        hstart e w₂ hfound (hends.bind (hends₁.bind (.here _ _))), hunmount⟩
      · rw [hw₂]
        exact congrArg (fun db => Db.removeMountedApex db apex.manifest.name apex.path) hdb
      · rw [hw₂]
        exact hmounts
  · exact hf.1.elim

theorem removeMountedApex_reaches {α : Type} {package path : String}
    {f : Unit → ApexM α} {q : ApexM α}
    (h : Reaches refusingKernel ((removeMountedApex package path).bind f) w q w') : w'.db = w.db ∨
      Reaches refusingKernel (f ()) { w with db := w.db.removeMountedApex package path } q w' := by
  cases h with
  | here => exact Or.inl rfl
  | step hs h =>
    rcases hs with ⟨rfl, rfl⟩ | hf
    · cases h with
      | here => exact Or.inl rfl
      | step hs h =>
        rcases hs with hn | hf
        · cases hn
          exact Or.inr h
        · exact hf.1.elim
    · exact hf.1.elim

/-- A run that has changed the database is in `Unmount` of the entry found. -/
theorem unmountPackage_reaches {q : ApexM Unit}
    (h : Reaches refusingKernel (unmountPackage apex allowLatest) w q w') (hdb : w'.db ≠ w.db) :
    ∃ e w₁, w.db.foundEntry? apex = some e ∧
      w'.db = w.db.removeMountedApex apex.manifest.name apex.path ∧
      Reaches refusingKernel (unmount e.data) w₁ q w' := by
  rw [unmountPackage_eq] at h
  cases h with
  | here => exact absurd rfl hdb
  | step hs hrest =>
    rcases hs with ⟨rfl, rfl⟩ | hf
    · rename_i w₀
      dsimp only at hrest
      cases hfound : w₀.db.foundEntry? apex with
      | none =>
        rw [hfound] at hrest
        cases hrest
        exact absurd rfl hdb
      | some e =>
        rw [hfound] at hrest
        have hdetach := wp_detachActive Sys.Refused.refusals apex allowLatest e w₀
        rcases hrest.of_bind with ⟨p, hp, _⟩ | ⟨u, w₁, hends, hrest⟩
        · exact absurd (hdetach.reaches hp).inv hdb
        rcases removeMountedApex_reaches hrest with hsame | hunmount
        · exact absurd (hsame.trans (hdetach.reaches hends).inv) hdb
        · refine ⟨e, _, rfl, ?_, hunmount⟩
          rw [((wp_unmount Sys.Refused.refusals e.data _).reaches hunmount).inv]
          exact congrArg (fun db => Db.removeMountedApex db apex.manifest.name apex.path)
            (hdetach.reaches hends).inv
    · exact hf.1.elim

/-- `Unmount` is entered once. -/
theorem unmount_reaches {d d' : MountedApexData}
    (h : Reaches refusingKernel (unmount d) w (unmount d') w') : unmount d = unmount d' := by
  rw [unmount_eq d] at h
  generalize hq : unmount d' = q at h
  cases h with
  | here => rw [unmount_eq d]
  | step hs hrest =>
    -- no second `umount2` follows
    have hdev : (unmountDevices d).Uses fun c => ∀ p, c ≠ .umount2 p :=
      (uses_unmountDevices d).mono fun c hc p hp => by
        rw [hp] at hc
        exact hc
    have huses : ∀ r : Except Errno Unit, (unmountAfter d r).Uses fun c => ∀ p, c ≠ .umount2 p := by
      intro r
      cases r with
      | ok u => exact ⟨by simp, fun _ => hdev⟩
      | error e => exact uses_bind (uses_require _ _) fun _ => ⟨by simp, fun _ => hdev⟩
    have hu := hrest.uses (huses _)
    rw [← hq, unmount_eq] at hu
    exact absurd rfl (hu.1 _)

/-- The first entry with the package and the path, which `RemoveMountedApex` takes. -/
theorem Db.removeMountedApex_eq_erase {db : Db} {f : Entry} {package path : String}
    (h : db.find? (fun e => e.package == package && e.data.fullPath == path) = some f) :
    db.removeMountedApex package path = db.erase f := by
  unfold Db.removeMountedApex
  induction db with
  | nil => cases h
  | cons x db ih =>
    rw [List.find?_cons] at h
    rw [List.eraseP_cons]
    cases hx : x.package == package && x.data.fullPath == path with
    | true =>
      rw [hx] at h
      cases h
      rw [List.erase_cons_head, cond_true]
    | false =>
      rw [hx] at h
      have hne : x ≠ f := by
        rintro rfl
        rw [List.find?_some h] at hx
        cases hx
      rw [List.erase_cons_tail (by simpa using hne), cond_false, ih h]

theorem Db.Wf.nodup {db : Db} (h : db.Wf) : db.Nodup := by
  apply List.Pairwise.imp ?_ h
  rintro a _ hab rfl
  exact hab.key rfl rfl

/-- The first and the last entry of a list without repetitions are the same only if it is no
longer. -/
theorem eq_of_head?_getLast? {α : Type} {l : List α} (hl : l.Nodup) {a : α} (hh : l.head? = some a)
    (ht : l.getLast? = some a) : ∀ b ∈ l, b = a := by
  cases l with
  | nil => cases hh
  | cons x rest =>
    cases hh
    cases rest with
    | nil =>
      intro b hb
      exact List.mem_singleton.1 hb
    | cons y rest =>
      rw [List.getLast?_cons_cons] at ht
      exact absurd (List.mem_of_getLast? ht) (List.nodup_cons.1 hl).1

/-- Erasing two different entries gives two different databases. -/
theorem Db.Wf.eq_of_erase {db : Db} (h : db.Wf) {a b : Entry} (ha : a ∈ db)
    (he : db.erase a = db.erase b) : a = b := by
  by_contra hne
  have hm : a ∈ db.erase b := (List.mem_erase_of_ne hne).2 ha
  rw [← he] at hm
  exact h.nodup.not_mem_erase hm

theorem Db.find?_matching (db : Db) (apex : ApexFile) :
    ((db.forallMountedApexes apex.manifest.name).filter fun e => e.data.fullPath =
      apex.path).head? =
      db.find? fun e => e.package == apex.manifest.name && e.data.fullPath == apex.path := by
  unfold Db.forallMountedApexes
  rw [List.filter_filter, List.head?_filter]
  congr 1
  funext e
  rw [Bool.and_comm]
  rfl

/-- Where no two entries share the path, the entry found is the one that is removed. -/
theorem Db.OnePath.removed {db : Db} (h : db.OnePath apex) (he : db.foundEntry? apex = some e) :
    db.removeMountedApex apex.manifest.name apex.path = db.erase e := by
  obtain ⟨hmem, hpkg, hpath⟩ := Db.foundEntry?_mem he
  cases hf : db.find? fun e => e.package == apex.manifest.name && e.data.fullPath == apex.path with
  | none =>
    have := List.find?_eq_none.1 hf e hmem
    simp [hpkg, hpath] at this
  | some f =>
    have hp := List.find?_some hf
    simp only [Bool.and_eq_true, beq_iff_eq] at hp
    rw [Db.removeMountedApex_eq_erase hf, h e hmem f (List.mem_of_find?_eq_some hf) hpkg
      hp.1 hpath hp.2]

/-- And the other way round. -/
theorem Db.Wf.onePath_of_removed {db : Db} (hwf : db.Wf) (he : db.foundEntry? apex = some e)
    (h : db.removeMountedApex apex.manifest.name apex.path = db.erase e) : db.OnePath apex := by
  obtain ⟨hmem, hpkg, hpath⟩ := Db.foundEntry?_mem he
  cases hf : db.find? fun e => e.package == apex.manifest.name && e.data.fullPath == apex.path with
  | none =>
    have := List.find?_eq_none.1 hf e hmem
    simp [hpkg, hpath] at this
  | some f =>
    rw [Db.removeMountedApex_eq_erase hf] at h
    obtain rfl : f = e := hwf.eq_of_erase (List.mem_of_find?_eq_some hf) h
    have hone := eq_of_head?_getLast? ((hwf.nodup.filter _).filter _)
      ((db.find?_matching apex).trans hf) he
    intro a ha b hb hpa hpb hfa hfb
    exact (hone a (Db.mem_matching.2 ⟨ha, hpa, hfa⟩)).trans
      (hone b (Db.mem_matching.2 ⟨hb, hpb, hfb⟩)).symm

/-- A call that leaves the database as it is found nothing, or stopped. -/
theorem wp_unmountPackage_stops (hF : F.Refusals) (apex : ApexFile)
    (allowLatest : Bool) (w : World) :
    wp (kernel .off F) (fun _ => True) (unmountPackage apex allowLatest) (fun _ w' => w'.db = w.db →
      w.db.foundEntry? apex = none ∨ w.StopsUnmount apex allowLatest ∨ ∃ c r w₁ w₂,
        F c w₁ r w₂) w := by
  rw [unmountPackage_eq]
  refine ⟨trivial, trivial, ?_⟩
  rintro db w₀ (⟨rfl, rfl⟩ | hf)
  · dsimp only
    cases hfound : w₀.db.foundEntry? apex with
    | none => exact ⟨trivial, fun _ => Or.inl rfl⟩
    | some e =>
      refine wp_bind.2 ((wp_detachActive hF apex allowLatest e w₀).mono (fun _ _ => trivial) ?_)
      rintro (err | u) w₁ hdb ⟨herr, _⟩
      · intro _
        obtain ⟨_, hlatest, hall | hnone | ⟨c, r, w₂, hf⟩⟩ := herr (by simp)
        · exact Or.inr (Or.inl ⟨e, hfound, hlatest, Or.inl hall⟩)
        · exact Or.inr (Or.inl ⟨e, hfound, hlatest, Or.inr hnone⟩)
        · exact Or.inr (Or.inr ⟨c, r, _, w₂, hf⟩)
      refine wp_bind.2 ((wp_removeMountedApex hF apex.manifest.name apex.path w₁).imp ?_)
      rintro (err | v) w₂ _ ⟨hx, hw₂⟩
      · cases hx
      refine ((wp_unmount hF e.data w₂).mono (fun _ _ => trivial) ?_)
      intro x w₃ _ hun hsame
      -- one entry less
      obtain ⟨hmem, hpkg, hpath⟩ := Db.foundEntry?_mem hfound
      have hlen := List.length_eraseP_of_mem (p := fun e => e.package == apex.manifest.name &&
        e.data.fullPath == apex.path) hmem (by simp [hpkg, hpath])
      have hdb₂ : w₂.db = w₀.db.removeMountedApex apex.manifest.name apex.path := by
        rw [hw₂]
        exact congrArg (fun db => Db.removeMountedApex db apex.manifest.name apex.path) hdb
      have heq : w₀.db.removeMountedApex apex.manifest.name apex.path = w₀.db :=
        hdb₂.symm.trans (hun.db.symm.trans hsame)
      unfold Db.removeMountedApex at heq
      rw [heq] at hlen
      have := List.length_pos_of_mem hmem
      omega
  · exact (hF _ _ _ _ hf).1.elim

theorem answered_unmount (data : MountedApexData) : (unmount data).Uses Sys.Answered := by
  have hdev : (unmountDevices data).Uses Sys.Answered := by
    refine (uses_unmountDevices data).mono fun c hc w => ?_
    cases c <;> first | exact hc.elim | rfl
  rw [unmount_eq]
  refine ⟨fun _ => rfl, fun r => ?_⟩
  cases r with
  | ok u => exact ⟨fun _ => rfl, fun _ => hdev⟩
  | error e => exact uses_bind (uses_require _ _) fun _ => ⟨fun _ => rfl, fun _ => hdev⟩

theorem answered_unmountPackage (apex : ApexFile) (allowLatest : Bool) :
    (unmountPackage apex allowLatest).Uses Sys.Answered := by
  rw [unmountPackage_eq]
  refine ⟨fun _ => rfl, fun db => ?_⟩
  dsimp only
  cases Db.foundEntry? db apex with
  | none => trivial
  | some e =>
    apply uses_bind
    · apply uses_when
      refine uses_bind (uses_require _ _) fun _ => ?_
      refine uses_bind (uses_exec_bind (fun _ => rfl) fun r => uses_check _ r) fun _ => ?_
      exact uses_exec_bind (fun _ => rfl) fun _ => trivial
    · intro _
      apply uses_bind
      · exact ⟨fun _ => rfl, fun _ => ⟨fun _ => rfl, fun _ => trivial⟩⟩
      · exact fun _ => answered_unmount e.data

end Package

/-- No two entries of the package share the path, or the call stops before it unmounts anything. -/
def World.UnmountSafe (w : World) (apex : ApexFile) (allowLatest : Bool) : Prop :=
  w.db.OnePath apex ∨ w.StopsUnmount apex allowLatest

theorem UnmountsExactly.safe {apex : ApexFile} {allowLatest : Bool} {w : World} (hwf : w.db.Wf)
    (h : UnmountsExactly apex allowLatest w) : w.UnmountSafe apex allowLatest := by
  -- a run in which nothing is refused
  obtain ⟨x, w', hends, hstops⟩ :=
    exists_ends (wp_unmountPackage_stops Sys.NoFault.refusals apex allowLatest w)
    (answered_unmountPackage apex allowLatest)
  have hends' : Ends refusingKernel (unmountPackage apex allowLatest) w x w' :=
    hends.mono fun c w r w' hs => Or.inl (hs.resolve_right fun hf => hf)
  rcases h x w' hends' with ⟨_, rfl⟩ | ⟨e, w₁, hentry, hreach, _, _⟩
  · rcases hstops rfl with hnone | hstop | ⟨c, r, w₁, w₂, hf⟩
    · refine Or.inl fun a ha b hb hpa hpb hfa hfb => ?_
      have := List.getLast?_eq_none_iff.1 hnone
      have hm := Db.mem_matching.2 ⟨ha, hpa, hfa⟩
      rw [this] at hm
      cases hm
    · exact Or.inr hstop
    · exact hf.elim
  · have hne : w₁.db ≠ w.db := by
      rw [hentry.removed]
      intro heq
      have hm := hentry.mem
      rw [← heq] at hm
      exact hwf.nodup.not_mem_erase hm
    obtain ⟨e', w₂, hfound, hdb, hunmount⟩ := unmountPackage_reaches hreach hne
    obtain ⟨hmem, hpkg, hpath⟩ := Db.foundEntry?_mem hfound
    obtain ⟨hm, hd, hl⟩ := unmount_inj (unmount_reaches hunmount)
    have hdata : e'.data = e.data := by
      obtain ⟨_, ⟨_, _, _, _⟩, _⟩ := e
      obtain ⟨_, ⟨_, _, _, _⟩, _⟩ := e'
      have hp := hpath.trans hentry.path.symm
      simp_all
    obtain rfl := hwf.eq_of_key hmem hentry.mem (hpkg.trans hentry.package.symm) hdata
    exact Or.inl (hwf.onePath_of_removed hfound (hdb.symm.trans hentry.removed))

/-- **The entry that is removed is the one that is unmounted exactly when** no two entries of the
package share the path, or nothing is unmounted. -/
theorem unmountPackage_exact_iff {apex : ApexFile} {allowLatest : Bool} {w : World}
    (hwf : w.db.Wf) : UnmountsExactly apex allowLatest w ↔ w.UnmountSafe apex allowLatest := by
  constructor
  · exact fun h => h.safe hwf
  · intro hsafe x w' hends
    rcases unmountPackage_ends hends
      with hstop | ⟨e, w₁, hfound, hdb, hmounts, hallowed, hreach, hunmount⟩
    · exact Or.inl hstop
    obtain ⟨hmem, hpkg, hpath⟩ := Db.foundEntry?_mem hfound
    rcases hsafe with hone | ⟨e', hfound', hlatest, hstop⟩
    · refine Or.inr ⟨e, w₁, ⟨hmem, hpkg, hpath, ?_, hmounts⟩, hreach, hunmount, ?_⟩
      · rw [hdb, hone.removed hfound]
      · exact ((wp_unmount Sys.Refused.refusals e.data w₁).reaches hunmount).inv
    · obtain rfl : e = e' := Option.some.inj (hfound.symm.trans hfound')
      obtain ⟨hallow, hsome⟩ := hallowed hlatest
      rcases hstop with hno | hnone
      · rw [hallow] at hno
        cases hno
      · exact absurd hnone hsome

/-- A package of the system, active, and once more from the same file on a temporary mount point. -/
def activeEntry : Entry := ⟨"a", ⟨"/dev/block/loop0", "/system/apex/a.apex", "/apex/a@1", ""⟩, true⟩

def temporaryEntry : Entry :=
    ⟨"a", ⟨"/dev/block/loop1", "/system/apex/a.apex", "/apex/a@1.tmp", ""⟩, false⟩

def temporaryMounted : World := { World.ofDirs [] with db := [activeEntry, temporaryEntry] }

def systemPackage : ApexFile :=
    ⟨"/system/apex/a.apex", false, 4096, 8192, plainManifest 1 version_one, []⟩

theorem temporaryMounted_wf : temporaryMounted.db.Wf := by
  apply List.pairwise_pair.2
  constructor
  · intro _
    decide
  · intro _
    decide
  · intro h
    exact absurd rfl h
  · intro _
    decide

/-- An update of the package is active. -/
def updateMounted : World := { World.ofDirs [] with
  db := [⟨"a", ⟨"/dev/block/loop0", "/system/apex/a.apex", "/apex/a@1", ""⟩, false⟩,
    ⟨"a", ⟨"/dev/block/loop1", "/data/apex/active/a.apex", "/apex/a@2", ""⟩, true⟩] }

/-- The version of the system is unmounted beside it. -/
theorem unmountPackage_exact_iff_active : UnmountsExactly systemPackage false updateMounted := by
  have hwf : updateMounted.db.Wf := List.pairwise_pair.2 (by constructor <;> decide)
  have hone : updateMounted.db.OnePath systemPackage := by
    unfold Db.OnePath
    decide
  exact (unmountPackage_exact_iff hwf).2 (Or.inl hone)

/-- The temporary mount is taken down, and the active one is forgotten. -/
theorem unmountPackage_forgets_active :
    ¬ ∀ (apex : ApexFile) (allowLatest : Bool) (w : World), w.db.Wf →
    UnmountsExactly apex allowLatest w := by
  intro hclaim
  rcases (hclaim systemPackage false temporaryMounted temporaryMounted_wf).safe
    temporaryMounted_wf with
    hone | ⟨e, hfound, hlatest, _⟩
  · have := hone activeEntry (by decide) temporaryEntry (by decide) rfl rfl rfl rfl
    revert this
    decide
  · obtain rfl : temporaryEntry = e := Option.some.inj hfound
    cases hlatest

end Apexd
