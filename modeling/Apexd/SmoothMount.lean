import Apexd.Frame

/-!
# Mounting when every mount succeeds

* `smoothKernel` — the runs in which every `MountPackage` and every `BindMount` succeeds: no mount
  point is removed again, none fails to be made, nothing fails to be bound, and what is looked up is
  not refused.  Other calls may be refused.
* `World.Kept` — what mounting leaves alone.
* `wp_mountPackageImpl_smooth`, `wp_bindMount_smooth` — the outcomes that are left.
-/

set_option autoImplicit false

namespace Apexd

open Text Prog

/-- The replies in such runs; a free loop device is fresh for the database. -/
def Sys.Smooth : (c : Sys) → World → c.Res → Prop
  | .openApex p, w, r => r = w.openApex p
  | .readDir _, _, r => ∃ l, r = .ok l
  | .stat p, w, r => (∃ m, p = getPackageMountPoint m) → r = w.stat p
  | .mkdir _ _, _, r => r = .ok ()
  | .rmdir _, _, _ => False
  | .bindMount _ _, _, r => r = .ok ()
  | .loopGetFree, w, r => ∀ n, r = .ok n → ∀ e ∈ w.db, e.data.loopName ≠ loopName n
  | _, _, _ => True

/-- In these runs nothing may abort. -/
def smoothKernel : Kernel Sys Sys.Res World :=
  (kernel ⟨fun _ => True, fun _ => False⟩ Sys.Refused).only Sys.Smooth

theorem readsPackages_smooth : ReadsPackages smoothKernel where
  preOpen _ _ := trivial
  preDb _ := trivial
  openApex p w r w' h := by
    obtain ⟨hr, ⟨_, hw⟩ | ⟨_, hw⟩⟩ := h
    · exact ⟨hr, hw⟩
    · exact ⟨hr, hw⟩
  getDb w r w' h := by
    obtain ⟨_, hn | hf⟩ := h
    · exact hn
    · exact hf.1.elim

/-- No file and no entry of the database has changed. -/
structure World.Kept (w w' : World) : Prop where
  files : ∀ p, w'.file? p = w.file? p
  db : w'.db = w.db

theorem World.Kept.refl (w : World) : w.Kept w := ⟨fun _ => rfl, rfl⟩

section Calls

variable {w w' w₀ : World}

theorem tempCmd_kept {c : Sys} {r : c.Res} (hs : smoothKernel.sem c w r w') (h : w₀.Kept w)
    (hc : TempCmd c) : w₀.Kept w' := by
  obtain ⟨_, hn | hf⟩ := hs
  · exact ⟨fun p => ((apexCmd_outside hc.apex hn).files p).trans (h.files p),
      (tempCmd_db hc hn).trans h.db⟩
  · rw [hf.2]
    exact h

theorem keeps_kept {α : Type} {p : ApexM α} (hp : p.Uses TempCmd) :
    p.Keeps smoothKernel w₀.Kept := by
  apply hp.keeps
  · intro c w hc _
    cases c <;> trivial
  · intro c w r w' hc h hs
    exact tempCmd_kept hs h hc

/-- A part of a program that only mounts, whatever its outcome. -/
theorem wp_kept_bind {α β : Type} {p : ApexM α} {f : α → ApexM β}
    {Q : Except String β → World → Prop}
    (hp : p.Uses TempCmd) (h : w₀.Kept w)
    (hok : ∀ a w', w₀.Kept w' → wp smoothKernel w₀.Kept (f a) Q w')
    (herr : ∀ e w', w₀.Kept w' → Q (.error e) w') : wp smoothKernel w₀.Kept (p.bind f) Q w := by
  apply (keeps_kept hp w h).bind
  · intro a w' hI _
    exact hok a w' hI
  · intro e w' hI _
    exact herr e w' hI

/-! ## Fresh loop devices -/

/-- The database knows nothing of the device. -/
def World.FreshLoop (w : World) (device : String) : Prop := ∀ e ∈ w.db, e.data.loopName ≠ device

theorem wp_createLoopDevice_fresh (target : String) (offset : Int) (size : Nat) (h : w₀.Kept w) :
    wp smoothKernel w₀.Kept (createLoopDevice target offset size)
      (fun x _ => ∀ d, x = .ok d → w₀.FreshLoop d) w := by
  have herr : ∀ (e : String) (d : String), (Except.error e : Except String String) = .ok d →
      w₀.FreshLoop d := by
    intro e d he
    cases he
  unfold createLoopDevice
  refine wp_kept_bind (uses_exec_bind trivial fun r => uses_check _ r) h ?_ fun e _ _ => herr e
  intro _ w₁ h₁
  refine wp_bind.2 ⟨h₁, trivial, fun r w₂ hs => ?_⟩
  have h₂ := tempCmd_kept hs h₁ trivial
  cases r with
  | error e => exact ⟨h₂, herr _⟩
  | ok num =>
    have hfresh : w₀.FreshLoop (loopName num) := by
      intro e he
      rw [← h₁.db] at he
      exact hs.1 num rfl e he
    refine ⟨h₂, ?_⟩
    refine wp_kept_bind (uses_exec_bind trivial fun r => uses_check _ r) h₂ ?_ fun e _ _ => herr e
    intro _ w₃ h₃
    refine wp_kept_bind ((uses_openLoopDevice _ _).mono fun _ h => h.device.temp) h₃ ?_
      fun e _ _ => herr e
    intro _ w₄ h₄
    have hset := uses_onFail (uses_setUpLoopDevice (loopName num) target offset size)
      (uses_maybeCloseBad (loopName num))
    refine wp_kept_bind (hset.mono fun _ h => h.temp) h₄ ?_ fun e _ _ => herr e
    intro _ w₅ h₅
    refine ⟨h₅, ?_⟩
    rintro _ ⟨⟩
    exact hfresh

theorem wp_createLoopDeviceLoop_fresh (apex : ApexFile) (n : Nat) (h : w₀.Kept w) :
    wp smoothKernel w₀.Kept (createLoopDeviceLoop apex n)
      (fun x _ => ∀ d, x = .ok d → w₀.FreshLoop d) w := by
  induction n generalizing w with
  | zero => exact ⟨h, fun d hd => by cases hd⟩
  | succ n ih =>
    refine wp_bind.2 (wp_attempt.2 ((wp_createLoopDevice_fresh _ _ _ h).imp fun x w₁ h₁ hx => ?_))
    cases x with
    | ok d => exact ⟨h₁, hx⟩
    | error e =>
      show wp _ _ (if _ then _ else _) _ _
      split
      · exact ⟨h₁, fun d hd => by cases hd⟩
      · exact ih h₁

end Calls

/-! ## Packages -/

/-- What is recorded of a package that was mounted. -/
structure MountedFresh (w : World) (apex : ApexFile) (mountPoint deviceName : String)
    (d : MountedApexData) : Prop where
  path : d.fullPath = apex.path
  point : d.mountPoint = mountPoint
  loop : d.loopName ≠ "" → w.FreshLoop d.loopName
  device : d.deviceName = "" ∨ d.deviceName = deviceName

section Packages

variable {w w₀ : World} {cfg : Config} {apex : ApexFile} {deviceName : String}

theorem wp_mountNonFlattened_fresh (verifyImage : Bool) {mountPoint : String}
    (hm : belowApex mountPoint)
    (h : w₀.Kept w) : wp smoothKernel w₀.Kept
    (mountNonFlattened cfg apex mountPoint deviceName verifyImage)
      (fun x _ => ∀ d, x = .ok d → MountedFresh w₀ apex mountPoint deviceName d) w := by
  unfold mountNonFlattened
  refine wp_kept_bind (uses_require _ _) h ?_ fun e _ _ d hd => by cases hd
  intro _ w₁ h₁
  refine (wp_createLoopDeviceLoop_fresh apex _ h₁).bind ?_ ?_
  case refine_2 =>
    intro e _ _ _ d hd
    cases hd
  intro loop w₂ h₂ hfresh
  have hmount : ((mountLoopDevice cfg apex loop mountPoint deviceName verifyImage).onFail
    (maybeCloseBad loop)).Uses
      TempCmd := uses_onFail ((uses_mountLoopDevice apex loop mountPoint deviceName
        verifyImage).mono fun _ h => h.temp hm) ((uses_maybeCloseBad loop).mono fun _ h => h.temp)
  refine wp_kept_bind hmount h₂ ?_ fun e _ _ d hd => by cases hd
  intro _ w₃ h₃
  refine ⟨h₃, ?_⟩
  rintro _ ⟨⟩
  exact ⟨rfl, rfl, fun _ => hfresh loop rfl, Or.inr rfl⟩

theorem wp_mountFlattened_fresh {mountPoint : String} (hm : belowApex mountPoint) (h : w₀.Kept w) :
    wp smoothKernel w₀.Kept (mountFlattened apex mountPoint)
      (fun x _ => ∀ d, x = .ok d → MountedFresh w₀ apex mountPoint deviceName d) w := by
  unfold mountFlattened
  refine wp_kept_bind (uses_require _ _) h ?_ fun e _ _ d hd => by cases hd
  intro _ w₁ h₁
  refine wp_kept_bind (uses_exec_bind hm fun r => uses_check _ r) h₁ ?_
    fun e _ _ d hd => by cases hd
  intro _ w₂ h₂
  refine ⟨h₂, ?_⟩
  rintro _ ⟨⟩
  exact ⟨rfl, rfl, fun hne => absurd rfl hne, Or.inl rfl⟩

/-- **A package is mounted**, on a fresh loop device if it has one. -/
theorem wp_mountPackageImpl_smooth (m : ApexManifest) (verifyImage : Bool) (h : w₀.Kept w) :
    wp smoothKernel w₀.Kept (mountPackageImpl cfg apex (getPackageMountPoint m)
      deviceName verifyImage)
      (fun x _ => ∃ d, x = .ok d ∧ MountedFresh w₀ apex (getPackageMountPoint m) deviceName d)
      w := by
  have hm := below_packageMountPoint m
  have hbody : ∀ w₁, w₀.Kept w₁ → wp smoothKernel w₀.Kept (do
      let empty ← isEmptyDirectory (getPackageMountPoint m)
      when (!empty) (failErrno (getPackageMountPoint m ++ " is not empty"))
      if apex.flattened then mountFlattened apex (getPackageMountPoint m)
      else mountNonFlattened cfg apex (getPackageMountPoint m) deviceName verifyImage)
      (fun x _ => ∀ d, x = .ok d → MountedFresh w₀ apex (getPackageMountPoint m) deviceName d)
          w₁ := by
    intro w₁ h₁
    have hempty : (isEmptyDirectory (getPackageMountPoint m)).Uses TempCmd := by
      refine uses_exec_bind (active_notBelow hm) fun r => ?_
      cases r <;> trivial
    refine wp_kept_bind hempty h₁ ?_ fun e _ _ d hd => by cases hd
    intro empty w₂ h₂
    refine wp_kept_bind (uses_when (uses_failErrno trivial _)) h₂ ?_ fun e _ _ d hd => by cases hd
    intro _ w₃ h₃
    split
    · exact wp_mountFlattened_fresh hm h₃
    · exact wp_mountNonFlattened_fresh verifyImage hm h₃
  have hmkdir : ∀ (b : Bool) w₁, w₀.Kept w₁ → wp smoothKernel w₀.Kept
      (when b (sys (.mkdir (getPackageMountPoint m) kMkdirMode) >>=
        check ("Could not create mount point " ++ getPackageMountPoint m)))
            (fun x _ => x = .ok ()) w₁ := by
    intro b w₁ h₁
    refine wp_when (fun _ => ⟨h₁, trivial, fun r w₂ hs => ?_⟩) fun _ => ⟨h₁, rfl⟩
    have h₂ := tempCmd_kept hs h₁ hm
    obtain rfl : r = .ok () := hs.1
    exact ⟨h₂, rfl⟩
  have hexists : wp smoothKernel w₀.Kept (pathExists (getPackageMountPoint m))
      (fun x _ => ∃ b, x = .ok b) w := by
    refine ⟨h, trivial, fun r w₁ hs => ?_⟩
    have h₁ := tempCmd_kept hs h trivial
    have hr : r = w.stat (getPackageMountPoint m) := hs.1 ⟨m, rfl⟩
    subst hr
    unfold World.stat
    split <;> exact ⟨h₁, _, rfl⟩
  unfold mountPackageImpl
  refine hexists.bind ?_ fun e w₁ _ he => by obtain ⟨b, hb⟩ := he; cases hb
  intro b w₁ h₁ _
  refine (hmkdir _ w₁ h₁).bind ?_ fun e w₂ _ he => by cases he
  intro _ w₂ h₂ _
  refine wp_onFail.2 ((hbody w₂ h₂).imp fun x w₃ h₃ hx => ?_)
  cases x with
  | ok d => exact ⟨d, rfl, hx d rfl⟩
  | error e => exact ⟨h₃, trivial, fun r w₄ hs => hs.1.elim⟩

/-- **A package is bound** to its active mount point; there are no files below `/apex` in the
way. -/
theorem wp_bindMount_smooth {target source : String} (ht : belowApex target)
    (hfree : ∀ p, belowApex p → w₀.file? p = none) (h : w₀.Kept w) :
    wp smoothKernel w₀.Kept (bindMount target source) (fun x _ => x = .ok ()) w := by
  have hb : ∀ w₁, w₀.Kept w₁ → wp smoothKernel w₀.Kept (sys (.bindMount source target) >>=
      check ("Could not bind-mount " ++ source ++ " to " ++ target))
          (fun x _ => x = .ok ()) w₁ := by
    intro w₁ h₁
    refine ⟨h₁, trivial, fun r w₂ hs => ?_⟩
    have h₂ := tempCmd_kept hs h₁ ht
    obtain rfl : r = .ok () := hs.1
    exact ⟨h₂, rfl⟩
  have hm : ∀ w₁, w₀.Kept w₁ → wp smoothKernel w₀.Kept (sys (.mkdir target kMkdirMode) >>=
      check ("Could not create mountpoint " ++ target)) (fun x _ => x = .ok ()) w₁ := by
    intro w₁ h₁
    refine ⟨h₁, trivial, fun r w₂ hs => ?_⟩
    have h₂ := tempCmd_kept hs h₁ ht
    obtain rfl : r = .ok () := hs.1
    exact ⟨h₂, rfl⟩
  have hmb : ∀ w₁, w₀.Kept w₁ → wp smoothKernel w₀.Kept ((sys (.mkdir target kMkdirMode) >>=
      check ("Could not create mountpoint " ++ target)).bind fun _ =>
        sys (.bindMount source target) >>=
      check ("Could not bind-mount " ++ source ++ " to " ++ target))
          (fun x _ => x = .ok ()) w₁ := by
    intro w₁ h₁
    refine (hm w₁ h₁).bind ?_ fun e w₂ _ he => by cases he
    intro _ w₂ h₂ _
    exact hb w₂ h₂
  have hub : ∀ w₁, w₀.Kept w₁ → wp smoothKernel w₀.Kept ((sys (.umount2 target)).bind fun _ =>
      sys (.bindMount source target) >>=
        check ("Could not bind-mount " ++ source ++ " to " ++ target))
            (fun x _ => x = .ok ()) w₁ := by
    intro w₁ h₁
    refine ⟨h₁, trivial, fun r w₂ hs => ?_⟩
    exact hb w₂ (tempCmd_kept hs h₁ ht)
  unfold bindMount
  refine ⟨h, trivial, fun r w₁ hs => ?_⟩
  have h₁ := tempCmd_kept hs h trivial
  cases r with
  | error e =>
    cases e with
    | enoent => exact hmb w₁ h₁
    | _ => exact hub w₁ h₁
  | ok st =>
    cases hdir : st.isDir with
    | true =>
      dsimp only [ret_bind]
      rw [hdir]
      exact hub w₁ h₁
    | false =>
      -- a file below `/apex`
      exfalso
      obtain ⟨_, hn | hf⟩ := hs
      · have hst : w.stat target = .ok st := hn.1.symm
        unfold World.stat at hst
        split at hst
        · cases hst
          cases hdir
        · cases hst
          cases hdir
        · rename_i hfile
          rw [h.files, hfree target ht] at hfile
          cases hfile
        · cases hst
      · obtain ⟨⟨e, _, he⟩, _⟩ := hf
        cases he

end Packages

end Apexd
