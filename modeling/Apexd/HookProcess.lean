import Apexd.HookMounts
import Apexd.MountMirror

/-!
# The process that runs a hook

`RunFnInstall` (`apexd_prepostinstall.cpp`), which `HandleSubcommand` (`apexd_main.cpp`) runs in the
process that `StageFnInstall` has forked.

* `HookWorld` — the state of the daemon and the mount namespace of the process; `hookProcessKernel`
  — its commands.
* `wp_bindMount_shown` — a bind mount that succeeds shows what its source shows.
* `Activated` — the invariant of `RunFnInstall` once its mounts are private.
* `hook_process` — the process that `StageFnInstall` forks changes neither a file nor a mount of the
  daemon, and what it executes is the hook of the one package that has one, with every package on
  its active mount point.
-/

set_option autoImplicit false

namespace Apexd

open Text Prog

/-! ## The program -/

inductive HookSys where
  | sys (c : Sys)
  | unshare
  | mountPrivate
  | execv (path : String)

/-- `execv` returns only if it fails. -/
@[reducible] def HookSys.Res : HookSys → Type
  | .sys c => c.Res
  | _ => Bool

/-- An error is the status that the process exits with. -/
abbrev HookM (α : Type) := Prog HookSys HookSys.Res Nat α

/-- Issue one command. -/
@[reducible] def issue (c : HookSys) : HookM c.Res := exec c

/-- `bind_fn`: the active mount point of the package and its hook. -/
def bindFn (kind : HookKind) (apex : String) : HookM (String × String) := do
  match ← issue (.sys (.openApex apex)) with
  | .error _ => fail 202
  | .ok apexFile => do
    let mountPoint := getPackageMountPoint apexFile.manifest
    let activePoint := getActiveMountPoint apexFile.manifest
    (bindMount activePoint mountPoint).embed .sys (fun _ r => r) fun _ => 203
    ret (activePoint, kind.fn apexFile.manifest)

/-- `RunFnInstall`: the path of what is executed. -/
def runFnInstall (kind : HookKind) (apex : String) (rest : List String) : HookM String := do
  require (← issue .unshare) 200
  require (← issue .mountPrivate) 201
  let (activePoint, hook) ← bindFn kind apex
  let hookPath := activePoint ++ "/" ++ hook
  rest.forM fun apex => do
    let _ ← bindFn kind apex
    ret ()
  require (← issue (.execv hookPath)) 204
  ret hookPath

/-- `HandleSubcommand`, for the two hooks. -/
def handleSubcommand : List String → HookM String
  | _ :: arg :: apex :: rest =>
    if arg = HookKind.preInstall.arg then runFnInstall .preInstall apex rest
    else if arg = HookKind.postInstall.arg then runFnInstall .postInstall apex rest
    else fail 1
  | _ => fail 1

/-! ## Mount namespaces -/

/-- The state of the daemon, and the mounts of the process once they are its own. -/
structure HookWorld where
  daemon : World
  own : Option (List Mount)
  isPrivate : Bool

/-- What the process sees. -/
def HookWorld.view (s : HookWorld) : World := { s.daemon with mounts := s.own.getD s.daemon.mounts }

/-- The process has just been forked. -/
def HookWorld.forked (w : World) : HookWorld := ⟨w, none, false⟩

/-- A call in a namespace: files and mounts change, the devices are held by the mounts of the
daemon. -/
def nsKernel (F : Faults) : Kernel Sys Sys.Res World where
  pre _ _ := True
  sem c w r w' := ∃ v, (kernel .off F).sem c w r v ∧
    w' = { w with dirs := v.dirs, mounts := v.mounts }

/-- Where the mounts are its own and private, what the process mounts does not reach the daemon; any
command may be refused. -/
def hookProcessKernel (F : Faults) : Kernel HookSys HookSys.Res HookWorld where
  pre _ _ := True
  sem
    | .sys c, s, r, s' => (nsKernel F).sem c s.view r s'.view ∧ s'.own.isSome = s.own.isSome ∧
        s'.isPrivate = s.isPrivate ∧
        (s.own.isSome = true → s.isPrivate = true → s'.daemon.mounts = s.daemon.mounts)
    | .unshare, s, r, s' => s' = if r then { s with own := some s.daemon.mounts } else s
    | .mountPrivate, s, r, s' => s' = if r then { s with isPrivate := true } else s
    | .execv _, s, _, s' => s' = s

/-! ## A bind mount -/

/-- What is seen at a path: what is mounted there, or the directory. -/
def World.shown (w : World) (p : String) : Root :=
  match w.mounted p with
  | some m => m.root
  | none => .dir p

theorem World.shown_congr {w w' : World} {p : String} (h : w'.mounted p = w.mounted p) :
    w'.shown p = w.shown p := by
  unfold World.shown
  rw [h]

theorem World.mounted_pushMount_ne (w : World) {m : Mount} {p : String} (h : p ≠ m.mountPoint) :
    (w.pushMount m).mounted p = w.mounted p := by
  unfold World.mounted World.pushMount
  rw [List.find?_cons_of_neg]
  simpa using Ne.symm h

/-- Only the mounts at one point have changed, and no file. -/
structure World.OnlyAt (w : World) (target : String) (w' : World) : Prop where
  mounted : ∀ p, p ≠ target → w'.mounted p = w.mounted p
  files : ∀ q, w'.file? q = w.file? q

section Bind

variable {F : Faults} {w w' : World} {target source : String}

theorem World.OnlyAt.refl (w : World) : w.OnlyAt target w := ⟨fun _ _ => rfl, fun _ => rfl⟩

theorem World.OnlyAt.trans {w'' : World} (h : w.OnlyAt target w') (h' : w'.OnlyAt target w'') :
    w.OnlyAt target w'' :=
  ⟨fun p hp => (h'.mounted p hp).trans (h.mounted p hp), fun q => (h'.files q).trans (h.files q)⟩

/-- The calls of `BindMount` but the last. -/
theorem nsKernel_onlyAt (hF : F.Refusals) (hfree : w.file? target = none) {c : Sys} {r : c.Res}
    (hc : c = .stat target ∨ c = .umount2 target ∨ c = .unlink target ∨
      c = .mkdir target kMkdirMode)
    (hs : (nsKernel F).sem c w r w') : w.OnlyAt target w' := by
  obtain ⟨v, hv, rfl⟩ := hs
  suffices h : w.OnlyAt target v from ⟨h.mounted, h.files⟩
  rcases hv with hv | hf
  · rcases hc with rfl | rfl | rfl | rfl
    · obtain ⟨_, rfl⟩ := hv
      exact .refl _
    · rcases w.umount2_cases target with ⟨e, _, he⟩ | ⟨_, he⟩
        <;> rw [hv.trans he |> Prod.mk.inj |>.2]
      · exact .refl w
      · exact ⟨fun p hp => find?_eraseP_ne hp w.mounts, fun _ => rfl⟩
    · rcases w.unlink_cases target with ⟨e, he, _⟩ | ⟨d, f, hd, hl, _⟩
      · rw [hv.trans he |> Prod.mk.inj |>.2]
        exact .refl w
      · rw [World.file?_eq_some.2 ⟨d, hd, hl⟩] at hfree
        cases hfree
    · refine ⟨fun p _ => ?_, World.mkdir_file? hv⟩
      rw [World.mkdir_onlyDirs hv]
      rfl
  · obtain ⟨_, rfl⟩ := hF _ _ _ _ hf
    exact .refl _

theorem wp_makeTarget_only (hF : F.Refusals) (hfree : w.file? target = none) :
    wp (nsKernel F) (w.OnlyAt target) (makeTarget target) (fun _ _ => True) w := by
  refine ⟨.refl w, trivial, fun r w' hs => ?_⟩
  have h := nsKernel_onlyAt hF hfree (.inr (.inr (.inr rfl))) hs
  cases r <;> exact ⟨h, trivial⟩

theorem wp_freeTarget_only (hF : F.Refusals) (hfree : w.file? target = none)
    (r : Except Errno Stat) :
    wp (nsKernel F) (w.OnlyAt target) (freeTarget target r) (fun _ _ => True) w := by
  have humount : wp (nsKernel F) (w.OnlyAt target)
    (call (.umount2 target) fun _ => ret () : ApexM Unit)
      (fun _ _ => True) w :=
    ⟨.refl w, trivial, fun r w' hs => ⟨nsKernel_onlyAt hF hfree (.inr (.inl rfl)) hs, trivial⟩⟩
  unfold freeTarget
  split
  · exact wp_makeTarget_only hF hfree
  · exact humount
  · split
    · exact humount
    · refine ⟨.refl w, trivial, fun r w' hs => ?_⟩
      have h := nsKernel_onlyAt hF hfree (.inr (.inr (.inl rfl))) hs
      exact (wp_makeTarget_only hF ((h.files target).trans hfree)).mono (fun _ h' => h.trans h')
        fun _ _ _ _ => trivial

/-- **A bind mount** that succeeds shows what its source shows. -/
theorem wp_bindMount_shown (hF : F.Refusals) (hfree : w.file? target = none)
    (hne : source ≠ target) : wp (nsKernel F) (w.OnlyAt target) (bindMount target source)
      (fun x w' => x = .ok () → w'.shown target = w.shown source) w := by
  rw [bindMount_eq]
  refine ⟨.refl w, trivial, fun r w₁ hs => ?_⟩
  have h₁ := nsKernel_onlyAt hF hfree (.inl rfl) hs
  refine wp_bind.2 ((wp_freeTarget_only hF ((h₁.files target).trans hfree) r).mono
    (fun _ h => h₁.trans h) ?_)
  rintro (e | _) w₂ h₂ _
  · exact nofun
  replace h₂ := h₁.trans h₂
  refine ⟨h₂, trivial, ?_⟩
  rintro r w₃ ⟨v, hv | hf, rfl⟩
  · rcases w₂.bindMount_cases source target with ⟨e, he⟩ | ⟨m, _, hm, _, hsome, hnone, he⟩
    · have hr : r = .error e := congrArg Prod.fst (hv.trans he)
      have hw : v = w₂ := congrArg Prod.snd (hv.trans he)
      subst hr hw
      exact ⟨⟨h₂.mounted, h₂.files⟩, nofun⟩
    · have hr : r = .ok () := congrArg Prod.fst (hv.trans he)
      have hw : v = w₂.pushMount m := congrArg Prod.snd (hv.trans he)
      subst hr hw
      refine ⟨⟨fun p hp => ?_, h₂.files⟩, fun _ => ?_⟩
      · exact (w₂.mounted_pushMount_ne (hm ▸ hp)).trans (h₂.mounted p hp)
      · have hshown : (w₂.pushMount m).shown target = m.root := by
          unfold World.shown World.mounted World.pushMount
          rw [List.find?_cons_of_pos (by simp [hm])]
        refine hshown.trans ?_
        rw [← World.shown_congr (h₂.mounted source hne)]
        unfold World.shown
        cases hms : w₂.mounted source with
        | some m' => exact (hsome m' hms).2.2
        | none => exact (hnone hms).2.2.1
  · obtain ⟨⟨e, _, rfl⟩, rfl⟩ := hF _ _ _ _ hf
    exact ⟨⟨h₂.mounted, h₂.files⟩, nofun⟩

end Bind

/-! ## The packages -/

/-- The daemon and the files are as they were. -/
structure Secluded (w : World) (s : HookWorld) : Prop where
  mounts : s.daemon.mounts = w.mounts
  files : ∀ q, s.view.file? q = w.file? q

/-- The mounts are the process's own, and these packages were activated. -/
structure Activated (w : World) (done : List ApexFile) (s : HookWorld) :
    Prop extends Secluded w s where
  own : s.own.isSome = true
  isPrivate : s.isPrivate = true
  versions : ∀ p, isActiveMountPoint p = false → s.view.mounted p = w.mounted p
  shown : ∀ a ∈ done, (∀ b ∈ done, b.manifest.name = a.manifest.name → b = a) →
    s.view.shown (getActiveMountPoint a.manifest) = w.shown (getPackageMountPoint a.manifest)

section Packages

variable {F : Faults} {w : World} {kind : HookKind} {done : List ApexFile} {s s' : HookWorld}
    {apex : ApexFile}

/-- A command of the process that changes mounts at one active mount point only. -/
theorem Secluded.step (h : Secluded w s) {target : String} (hm : s'.daemon.mounts = s.daemon.mounts)
    (hv : s.view.OnlyAt target s'.view) : Secluded w s' :=
  ⟨hm.trans h.mounts, fun q => (hv.files q).trans (h.files q)⟩

theorem Activated.add (h : Activated w done s) (hat : '@' ∉ apex.manifest.name.toList)
    (h' : Secluded w s') (hown : s'.own.isSome = true ∧ s'.isPrivate = true)
    (hv : s.view.OnlyAt (getActiveMountPoint apex.manifest) s'.view)
    (hshown : s'.view.shown (getActiveMountPoint apex.manifest) = s.view.shown
      (getPackageMountPoint apex.manifest)) :
    Activated w (done ++ [apex]) s' where
  toSecluded := h'
  own := hown.1
  isPrivate := hown.2
  versions p hp := by
    refine (hv.mounted p fun he => ?_).trans (h.versions p hp)
    rw [he, isActiveMountPoint_activeMountPoint.2 hat] at hp
    cases hp
  shown a ha huniq := by
    by_cases hname : apex.manifest.name = a.manifest.name
    · -- the package that was activated just now
      obtain rfl := huniq apex (List.mem_append_right _ List.mem_cons_self) hname
      rw [hshown]
      exact World.shown_congr (h.versions _ (isActiveMountPoint_packageMountPoint _))
    · have hmem : a ∈ done := by
        rcases List.mem_append.1 ha with hd | hd
        · exact hd
        · rw [List.mem_singleton.1 hd] at hname
          exact absurd rfl hname
      have hne : getActiveMountPoint a.manifest ≠ getActiveMountPoint apex.manifest := fun he =>
        hname (join_right_inj.1 he).symm
      rw [World.shown_congr (hv.mounted _ hne)]
      exact h.shown a hmem fun b hb hn => huniq b (List.mem_append_left _ hb) hn

/-- `bind_fn` activates the package. -/
theorem wp_bindFn (hF : F.Refusals) (h : Activated w done s) {path : String}
    (ho : w.openApex path = .ok apex)
    (hat : '@' ∉ apex.manifest.name.toList)
    (hfree : w.file? (getActiveMountPoint apex.manifest) = none) :
    wp (hookProcessKernel F) (Secluded w) (bindFn kind path) (fun x s' => ∀ r, x = .ok r →
      r = (getActiveMountPoint apex.manifest, kind.fn apex.manifest) ∧
        Activated w (done ++ [apex]) s') s := by
  refine ⟨h.toSecluded, trivial, ?_⟩
  rintro r s₁ ⟨⟨v, hv, hview⟩, hown, hpriv, hmounts⟩
  -- opening changes nothing
  have hsame : v = s.view := by
    rcases hv with ⟨_, hv⟩ | hf
    · exact hv
    · exact (hF _ _ _ _ hf).2
  have hview₁ : s₁.view = s.view := by
    rw [hview, hsame]
  have h₁ : Activated w done s₁ := by
    refine ⟨⟨(hmounts h.own h.isPrivate).trans h.mounts, ?_⟩, hown.trans h.own,
      hpriv.trans h.isPrivate, ?_, ?_⟩
    · rw [hview₁]
      exact h.files
    · rw [hview₁]
      exact h.versions
    · rw [hview₁]
      exact h.shown
  cases r with
  | error e => exact ⟨h₁.toSecluded, nofun⟩
  | ok apexFile =>
    obtain rfl : apexFile = apex := by
      rcases hv with ⟨hr, -⟩ | hf
      · have hopen := World.openApex_of_files h.files path
        rw [ho, ← hr] at hopen
        cases hopen
        rfl
      · obtain ⟨⟨e, he⟩, -⟩ := hF _ _ _ _ hf
        cases he
    have hne : getPackageMountPoint apexFile.manifest ≠ getActiveMountPoint apexFile.manifest := by
      intro he
      have := isActiveMountPoint_packageMountPoint apexFile.manifest
      rw [he, isActiveMountPoint_activeMountPoint.2 hat] at this
      cases this
    have hbind := wp_bindMount_shown hF ((h₁.files _).trans hfree) hne
    have hsem : ∀ c s₂ r s₃, s₂.own.isSome = true ∧ s₂.isPrivate = true ∧
      s₂.daemon.mounts = w.mounts →
        (hookProcessKernel F).sem (.sys c) s₂ r s₃ → (nsKernel F).sem c s₂.view r s₃.view ∧
          s₃.own.isSome = true ∧ s₃.isPrivate = true ∧ s₃.daemon.mounts = w.mounts := by
      rintro c s₂ r s₃ ⟨hown, hpriv, hm⟩ ⟨hs, hown', hpriv', hm'⟩
      exact ⟨hs, hown'.trans hown, hpriv'.trans hpriv, (hm' hown hpriv).trans hm⟩
    have hembed := wp.embed (f := HookSys.sys) (g := fun _ r => r) (h := fun _ => 203)
      (fun _ _ _ _ => trivial) hsem hbind ⟨h₁.own, h₁.isPrivate, h₁.mounts⟩
    dsimp only [ret_bind]
    refine wp_bind.2 (hembed.mono ?_ ?_)
    · rintro s₂ ⟨hv₂, -, -, hm₂⟩
      exact h₁.toSecluded.step (hm₂.trans h₁.mounts.symm) hv₂
    · rintro (e | _) s₂ ⟨hv₂, -, -, hm₂⟩ ⟨⟨hown₂, hpriv₂, -⟩, y, hy, hshown⟩
      · exact nofun
      have hy : y = .ok () := by
        cases y with
        | error e => cases hy
        | ok _ => rfl
      have hsecluded : Secluded w s₂ := h₁.toSecluded.step (hm₂.trans h₁.mounts.symm) hv₂
      refine ⟨hsecluded, ?_⟩
      rintro _ ⟨⟩
      exact ⟨rfl, h₁.add hat hsecluded ⟨hown₂, hpriv₂⟩ hv₂ (hshown hy)⟩

/-- The other packages are activated in their order. -/
theorem wp_bindRest (hF : F.Refusals) {rest : List ApexFile}
    (hopen : ∀ a ∈ rest, w.openApex a.path = .ok a)
    (hat : ∀ a ∈ rest, '@' ∉ a.manifest.name.toList)
    (hfree : ∀ a ∈ rest, w.file? (getActiveMountPoint a.manifest) = none)
    (h : Activated w done s) :
    wp (hookProcessKernel F) (Secluded w) ((rest.map (·.path)).forM fun apex => do
      let _ ← bindFn kind apex
      ret ()) (fun x s' => x = .ok () → Activated w (done ++ rest) s') s := by
  induction rest generalizing done s with
  | nil => exact ⟨h.toSecluded, fun _ => (List.append_nil done).symm ▸ h⟩
  | cons a rest ih =>
    refine wp_bind.2 (wp_bind.2
      ((wp_bindFn hF h (hopen a List.mem_cons_self) (hat a List.mem_cons_self)
      (hfree a List.mem_cons_self)).imp ?_))
    rintro (e | r) s₁ h₁ hbound
    · exact nofun
    have hrest := ih (fun b hb => hopen b (List.mem_cons_of_mem _ hb))
      (fun b hb => hat b (List.mem_cons_of_mem _ hb))
      (fun b hb => hfree b (List.mem_cons_of_mem _ hb)) (hbound r rfl).2
    rw [← List.append_cons] at hrest
    exact ⟨h₁, hrest⟩

/-- **`RunFnInstall`**: nothing reaches the daemon, and what is executed is the hook of the first
package, with all packages activated. -/
theorem wp_runFnInstall (hF : F.Refusals) {first : ApexFile} {rest : List ApexFile}
    (hopen : ∀ a ∈ first :: rest, w.openApex a.path = .ok a)
    (hat : ∀ a ∈ first :: rest, '@' ∉ a.manifest.name.toList)
    (hfree : ∀ a ∈ first :: rest, w.file? (getActiveMountPoint a.manifest) = none) :
    wp (hookProcessKernel F) (Secluded w) (runFnInstall kind first.path (rest.map (·.path)))
      (fun x s' => ∀ path,
      x = .ok path → path = getActiveMountPoint first.manifest ++ "/" ++ kind.fn first.manifest ∧
        Activated w (first :: rest) s') (.forked w) := by
  have h₀ : Secluded w (.forked w) := ⟨rfl, fun _ => rfl⟩
  refine ⟨h₀, trivial, ?_⟩
  rintro unshared s₁ hs₁
  dsimp only [ret_bind]
  refine wp_bind.2 (wp_require.2 ?_)
  cases unshared with
  | false =>
    obtain rfl : s₁ = .forked w := hs₁
    exact ⟨h₀, nofun⟩
  | true =>
  obtain rfl : s₁ = { HookWorld.forked w with own := some w.mounts } := hs₁
  have h₁ : Secluded w { HookWorld.forked w with own := some w.mounts } := ⟨rfl, fun _ => rfl⟩
  refine ⟨h₁, h₁, trivial, ?_⟩
  rintro mounted s₂ hs₂
  dsimp only [ret_bind]
  refine wp_bind.2 (wp_require.2 ?_)
  cases mounted with
  | false =>
    obtain rfl : s₂ = { HookWorld.forked w with own := some w.mounts } := hs₂
    exact ⟨h₁, nofun⟩
  | true =>
  obtain rfl : s₂ = ⟨w, some w.mounts, true⟩ := hs₂
  have h₂ : Activated w [] ⟨w, some w.mounts, true⟩ :=
    ⟨⟨rfl, fun _ => rfl⟩, rfl, rfl, fun _ _ => rfl, fun a ha => by cases ha⟩
  refine ⟨h₂.toSecluded, wp_bind.2
    ((wp_bindFn hF h₂ (hopen _ List.mem_cons_self) (hat _ List.mem_cons_self)
    (hfree _ List.mem_cons_self)).imp ?_)⟩
  rintro (e | r) s₃ _ hbound
  · exact nofun
  obtain ⟨rfl, h₃⟩ := hbound r rfl
  refine wp_bind.2 ((wp_bindRest hF (fun b hb => hopen b (List.mem_cons_of_mem _ hb))
    (fun b hb => hat b (List.mem_cons_of_mem _ hb))
      (fun b hb => hfree b (List.mem_cons_of_mem _ hb)) h₃).imp ?_)
  rintro (e | _) s₄ h₄ hdone
  · exact nofun
  refine ⟨h₄, trivial, ?_⟩
  rintro executed s₅ hs₅
  dsimp only [ret_bind]
  obtain rfl : s₅ = s₄ := hs₅
  refine wp_bind.2 (wp_require.2 ⟨h₄, ?_⟩)
  cases executed with
  | false => exact nofun
  | true =>
    refine ⟨h₄, ?_⟩
    rintro _ ⟨⟩
    exact ⟨rfl, hdone rfl⟩

end Packages

/-! ## The daemon and the process -/

section Forked

variable {F : Faults} {cfg : Config} {kind : HookKind} {apexes : List ApexFile} {w w₁ : World}

/-- The calls of the daemon: the process is forked with the arguments for the one package that has a
hook. -/
def ForksHook (kind : HookKind) (apexes : List ApexFile) : Sys → Prop
  | .forkAndRun args =>
    ∃ f, findHookFile kind apexes none = .ok (some f) ∧ args = hookArgs kind apexes f
  | c => KeepsFiles c

theorem KeepsFiles.forksHook {c : Sys} (h : KeepsFiles c) (hc : ∀ args, c ≠ .forkAndRun args) :
    ForksHook kind apexes c := by
  cases c with
  | forkAndRun args => exact absurd rfl (hc args)
  | _ => exact h

theorem ForksHook.keepsFiles {c : Sys} (h : ForksHook kind apexes c) : KeepsFiles c := by
  cases c <;> first | exact h | trivial

theorem uses_prePostinstallPackages_forks :
    (prePostinstallPackages cfg kind apexes).Uses (ForksHook kind apexes) := by
  have hmount : ∀ apex, (mountPackage cfg apex (getPackageMountPoint apex.manifest)).Uses
      (ForksHook kind apexes) := by
    intro apex
    refine uses_bind ((uses_mountPackageImpl _ _ _ (below_packageMountPoint _)).mono fun c hc => ?_)
        fun _ =>
      uses_addMountedApex _ _ _ trivial (fun _ => trivial) fun _ => trivial
    refine hc.keepsFiles.forksHook ?_
    rintro args rfl
    exact hc.elim
  have hunmount : ∀ apex, (unmountPackage apex false).Uses (ForksHook kind apexes) := fun apex =>
    (uses_unmountPackage_calls apex false).mono fun c hc => by
      cases c <;> first | trivial | exact hc.choose_spec.elim
  exact uses_prePostinstallPackages_of hmount hunmount trivial (fun _ _ => trivial)
    (fun _ => trivial) (fun _ => trivial) fun f hf => ⟨f, hf, rfl⟩

/-- The hook of the list is run with the arguments that its process takes. -/
theorem handleSubcommand_hookArgs (f : ApexFile) : handleSubcommand (hookArgs kind apexes f) =
    runFnInstall kind f.path ((apexes.filter fun a => kind.fn a.manifest = "").map (·.path)) := by
  cases kind <;> rfl

/-- **The process that runs a hook**: where the daemon has forked it, it changes neither a file nor
a mount that the daemon sees, whatever is refused and wherever it stops; and what it executes is the
hook of the one package that has one, at its active mount point, while the active mount point of
every package shows what its own mount shows. -/
theorem hook_process (hF : F.Refusals) (hopen : ∀ a ∈ apexes, w.openApex a.path = .ok a)
    (hnames : ∀ a ∈ apexes, Component a.manifest.name ∧ '@' ∉ a.manifest.name.toList)
    (hfree : ∀ p, belowApex p → w.file? p = none) {args : List String}
    {k : Except String Unit → ApexM Unit}
    (hfork : Reaches (kernel .off F) (prePostinstallPackages cfg kind apexes) w
      (call (.forkAndRun args) k) w₁)
    {q : HookM String} {s : HookWorld}
    (hr : Reaches (hookProcessKernel F) (handleSubcommand args) (.forked w₁) q s) :
    s.daemon.mounts = w₁.mounts ∧ (∀ p, s.view.file? p = w₁.file? p) ∧ ∀ path, q = ret path →
      ∃ f, apexes.filter (fun a => kind.fn a.manifest ≠ "") = [f] ∧
        path = getActiveMountPoint f.manifest ++ "/" ++ kind.fn f.manifest ∧
        ∀ a ∈ apexes, (∀ b ∈ apexes, b.manifest.name = a.manifest.name → b = a) →
          s.view.shown (getActiveMountPoint a.manifest) = w₁.shown
            (getPackageMountPoint a.manifest) := by
  have huses : (prePostinstallPackages cfg kind apexes).Uses (ForksHook kind apexes) :=
    uses_prePostinstallPackages_forks
  have hfiles : ∀ p, w₁.file? p = w.file? p :=
    ((keeps_sameFiles hF (huses.mono fun _ => ForksHook.keepsFiles) w fun _ => rfl).reaches
      hfork).inv
  obtain ⟨⟨f, hfind, rfl⟩, -⟩ := hfork.uses huses
  rw [handleSubcommand_hookArgs] at hr
  have hfilter := findHookFile_none hfind
  have hmem : ∀ a, a ∈ f :: apexes.filter (fun a => kind.fn a.manifest = "") ↔ a ∈ apexes := by
    intro a
    have hf : a = f ↔ a ∈ apexes ∧ kind.fn a.manifest ≠ "" := by
      rw [← List.mem_singleton, ← hfilter, List.mem_filter, decide_eq_true_eq]
    rw [List.mem_cons, hf, List.mem_filter, decide_eq_true_eq, ← and_or_left]
    exact and_iff_left (ne_or_eq _ _)
  have hreached := (wp_runFnInstall hF
    (fun a ha => (World.openApex_of_files hfiles _).trans (hopen a ((hmem a).1 ha)))
    (fun a ha => (hnames a ((hmem a).1 ha)).2) fun a ha =>
      (hfiles _).trans (hfree _ (below_activeMountPoint _))).reaches hr
  refine ⟨hreached.inv.mounts, hreached.inv.files, ?_⟩
  rintro path rfl
  obtain ⟨hpath, hactivated⟩ := hreached.2 path rfl
  refine ⟨f, hfilter, hpath, fun a ha huniq => ?_⟩
  exact hactivated.shown a ((hmem a).2 ha) fun b hb hn => huniq b ((hmem b).1 hb) hn

end Forked

/-! ## A hook that is run -/

/-- The arguments that a process is forked with next. -/
def forkArgs? : ApexM Unit → Option (List String)
  | call (.forkAndRun args) _ => some args
  | _ => none

theorem forkArgs?_eq_some {p : ApexM Unit} {args : List String} (h : forkArgs? p = some args) :
    ∃ k, p = call (.forkAndRun args) k := by
  unfold forkArgs? at h
  split at h
  · cases h
    exact ⟨_, rfl⟩
  · cases h

/-- The daemon up to where it forks. -/
def untilFork (c : Sys) (w : World) : Option (c.Res × World) :=
  match c with
  | .forkAndRun _ => none
  | c => Sys.run c w

theorem untilFork_sem (c : Sys) (w : World) (r : c.Res) (w' : World)
    (h : untilFork c w = some (r, w')) : (kernel .off Sys.NoFault).sem c w r w' := by
  cases c <;> first | exact Sys.run_sem _ w r w' h | cases h

/-- Nothing is refused to the process. -/
def hookProcessStep : (c : HookSys) → HookWorld → Option (c.Res × HookWorld)
  | .sys c, s => (Sys.run c s.view).map fun x =>
    (x.1, ⟨{ s.daemon with dirs := x.2.dirs, mounts := if s.own.isSome then s.daemon.mounts
      else x.2.mounts }, s.own.map fun _ => x.2.mounts, s.isPrivate⟩)
  | .unshare, s => some (true, { s with own := some s.daemon.mounts })
  | .mountPrivate, s => some (true, { s with isPrivate := true })
  | .execv _, s => some (true, s)

theorem hookProcessStep_sem (c : HookSys) (s : HookWorld) (r : c.Res) (s' : HookWorld)
    (h : hookProcessStep c s = some (r, s')) : (hookProcessKernel Sys.NoFault).sem c s r s' := by
  cases c with
  | sys c =>
    obtain ⟨⟨r', v⟩, hrun, he⟩ := Option.map_eq_some_iff.1 h
    cases he
    refine ⟨⟨v, Sys.run_sem c s.view _ v hrun, ?_⟩, ?_, rfl, fun hown _ => if_pos hown⟩
    · unfold HookWorld.view
      cases s.own <;> rfl
    · cases s.own <;> rfl
  | _ =>
    cases h
    rfl

def hookedPackages : List ApexFile := [hookPackage, otherPackage "/data/app-staging/b.apex"]

/-- The daemon when it forks, and the process when it executes the hook. -/
def hookForked : ApexM Unit × World :=
  runN untilFork 120 (prePostinstallPackages deviceConfig .preInstall hookedPackages) hookWorld

def hookExecuted : HookM String × HookWorld :=
  runN hookProcessStep 60 (handleSubcommand (hookArgs .preInstall hookedPackages hookPackage))
    (.forked hookForked.2)

/-- The process has both packages at their active mount points. -/
theorem hook_process_run : hookExecuted.2.daemon.mounts = hookForked.2.mounts ∧
    hookExecuted.1.result? = some (.ok "/apex/a/bin/hook") ∧
    hookExecuted.2.view.shown "/apex/a" = hookForked.2.shown "/apex/a@2" ∧
    hookExecuted.2.view.shown "/apex/b" = hookForked.2.shown "/apex/b@1" := by
  have hargs : forkArgs? hookForked.1 = some (hookArgs .preInstall hookedPackages hookPackage) := by
    decide
  have hres : hookExecuted.1.result? = some (.ok "/apex/a/bin/hook") := by decide
  obtain ⟨k, hk⟩ := forkArgs?_eq_some hargs
  have hfork : Reaches (kernel .off Sys.NoFault)
    (prePostinstallPackages deviceConfig .preInstall hookedPackages)
      hookWorld hookForked.1 hookForked.2 := runN_reaches untilFork_sem _ _ _
  rw [hk] at hfork
  have hopen : ∀ a ∈ hookedPackages, hookWorld.openApex a.path = .ok a := by
    intro a ha
    simp only [hookedPackages, List.mem_cons, List.not_mem_nil, or_false] at ha
    rcases ha with rfl | rfl <;> rfl
  have hat : ∀ a ∈ hookedPackages, Component a.manifest.name ∧
    '@' ∉ a.manifest.name.toList := by decide
  have hfree : ∀ p, belowApex p → hookWorld.file? p = none := fun p hp =>
    World.noFiles_below (fun _ => rfl) (by decide) hp
  have hone : ∀ a ∈ hookedPackages, ∀ b ∈ hookedPackages,
      b.manifest.name = a.manifest.name → b = a := by
    decide
  obtain ⟨hmounts, -, hpath⟩ := hook_process Sys.NoFault.refusals hopen hat hfree hfork
    (runN_reaches hookProcessStep_sem 60 _ _)
  obtain ⟨f, -, -, hshown⟩ := hpath _ (result?_eq_some.1 hres)
  have ha : hookPackage ∈ hookedPackages := List.mem_cons_self
  have hb : otherPackage "/data/app-staging/b.apex" ∈ hookedPackages :=
    List.mem_cons_of_mem _ List.mem_cons_self
  exact ⟨hmounts, hres, hshown _ ha (hone _ ha), hshown _ hb (hone _ hb)⟩

end Apexd
