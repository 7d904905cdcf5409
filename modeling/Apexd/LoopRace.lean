import Apexd.Devices

/-!
# Loop devices that others use

`createLoopDevice` and the retry loop of `mountNonFlattened` while other processes bind and free
loop devices: on which devices is `LOOP_CLR_FD` issued?

* `loopRaceKernel` — before every call other processes may change the loop devices in any way.
* `LoopLog` — the devices that were bound, those whose `LOOP_SET_FD` failed, and those on which
  `LOOP_CLR_FD` was issued without being bound.
* `loopClrFd_own_iff` — exactly when only devices of the program itself are cleared: the destructor
  of `LoopbackDeviceUniqueFd` does not ask whether `LOOP_SET_FD` has succeeded.
-/

set_option autoImplicit false

namespace Apexd

open Text Prog

/-- Other processes may bind, set up and free loop devices. -/
def World.OthersUse (w w' : World) : Prop := w' = { w with loops := w'.loops }

/-- `bound`: `LOOP_SET_FD` has succeeded and `LOOP_CLR_FD` was not issued yet; `refused`: it has
failed; `foreign`: `LOOP_CLR_FD` was issued on a device that was not bound. -/
structure LoopLog where
  bound : List String
  refused : List String
  foreign : List String

def LoopLog.start : LoopLog := ⟨[], [], []⟩

def LoopLog.upd : (c : Sys) → World → c.Res → World → LoopLog → LoopLog
  | .loopSetFd d _, _, .ok _, _, g => { g with bound := d :: g.bound }
  | .loopSetFd d _, _, .error _, _, g => { g with refused := d :: g.refused }
  | .loopClrFd d, _, _, _, g =>
    if d ∈ g.bound then { g with bound := g.bound.erase d } else
      { g with foreign := d :: g.foreign }
  | _, _, _, _, g => g

theorem LoopLog.upd_clrFd (d : String) (w w' : World) (r : Except Errno Unit) (g : LoopLog) :
    LoopLog.upd (.loopClrFd d) w r w' g =
      if d ∈ g.bound then { g with bound := g.bound.erase d } else
        { g with foreign := d :: g.foreign } := rfl

/-- Any call may be refused, and others use loop devices at any moment. -/
def loopRaceKernel : Kernel Sys Sys.Res (World × LoopLog) :=
  ((kernel .off Sys.Refused).disturb World.OthersUse).observe LoopLog.upd

/-- The programs that set up a loop device. -/
inductive LoopSetUp : ApexM String → Prop
  | create (target : String) (offset : Int) (size : Nat) :
    LoopSetUp (createLoopDevice target offset size)
  | retry (apex : ApexFile) (attempts : Nat) : LoopSetUp (createLoopDeviceLoop apex attempts)

/-! ## The log -/

/-- As long as no `LOOP_SET_FD` has failed, only bound devices are cleared. -/
def OwnClears (s : World × LoopLog) : Prop := s.2.refused = [] → s.2.foreign = []

def ClearsBound : Sys → World × LoopLog → Prop
  | .loopClrFd d, s => s.2.refused = [] → d ∈ s.2.bound
  | _, _ => True

def watchedRace : Kernel Sys Sys.Res (World × LoopLog) := loopRaceKernel.withPre ClearsBound

/-- The calls that do not bind or free a loop device. -/
def KeepsLog : Sys → Prop
  | .loopSetFd _ _ => False
  | .loopClrFd _ => False
  | _ => True

theorem KeepsLog.same {c : Sys} {r : c.Res} {s s' : World × LoopLog} (hc : KeepsLog c)
    (hs : loopRaceKernel.sem c s r s') : s'.2 = s.2 := by
  obtain ⟨-, hg⟩ := hs
  rw [hg]
  cases c <;> first | exact hc.elim | rfl

theorem DeviceQuery.keepsLog {c : Sys} (h : DeviceQuery c) : KeepsLog c := by
  cases c <;> first | exact h.elim | trivial

section Log

variable {s : World × LoopLog} {g : LoopLog}

theorem wp_keepsLog {α : Type} {p : ApexM α} {Q : Except String α → World × LoopLog → Prop}
    (hp : p.Uses KeepsLog) (hI : OwnClears s) (hQ : ∀ x s', s'.2 = s.2 → Q x s') :
    wp watchedRace OwnClears p Q s := by
  have hstay : wp watchedRace (fun s' => s'.2 = s.2) p (fun _ s' => s'.2 = s.2) s :=
    hp.wp (fun c s hc _ => by cases c <;> first | exact hc.elim | trivial)
      (fun c s₁ r s₂ hc hs₁ hs => (hc.same hs).trans hs₁) rfl
  refine hstay.mono (fun s' hs' => ?_) fun x s' _ hs' => hQ x s' hs'
  unfold OwnClears
  rw [hs']
  exact hI

theorem wp_keepsLog_bind {α β : Type} {p : ApexM α} {f : α → ApexM β}
    {Q : Except String β → World × LoopLog → Prop} (hp : p.Uses KeepsLog) (hI : OwnClears s)
    (hok : ∀ a s', s'.2 = s.2 → wp watchedRace OwnClears (f a) Q s')
    (herr : ∀ e s', s'.2 = s.2 → Q (.error e) s') : wp watchedRace OwnClears (p.bind f) Q s := by
  refine wp_bind.2 (wp_keepsLog hp hI fun x s' hs' => ?_)
  cases x with
  | ok a => exact hok a s' hs'
  | error e => exact herr e s' hs'

/-- Nothing is bound, and `LOOP_CLR_FD` was issued without right exactly on the devices that
refused. -/
structure LoopLog.Settled (g : LoopLog) : Prop where
  foreign : g.foreign = g.refused
  bound : g.bound = []

theorem LoopLog.Settled.own (h : s.2.Settled) : OwnClears s := fun hr => h.foreign.trans hr

theorem LoopLog.Settled.congr {g g' : LoopLog} (h : g.Settled) (he : g' = g) : g'.Settled := he ▸ h

theorem keepsLog_setUp (loop : String) (offset : Int) (size : Nat) : Uses KeepsLog (do
    sys (.loopSetStatus loop offset size kApexLoopIdPrefix) >>= check "Failed to LOOP_SET_STATUS64"
    sys (.loopFlush loop) >>= check "Failed to flush buffers on the loop device"
    match ← sys (.loopSetBlockSize loop 4096) with
    | .error _ => ret ()
    | .ok _ => do
      let _ ← sys (.loopSetDirectIo loop)
      ret ()
    configureReadAhead loop : ApexM Unit) := by
  refine uses_bind (uses_sys_check (c := .loopSetStatus loop offset size kApexLoopIdPrefix) _
    trivial) fun _ => ?_
  refine uses_bind (uses_sys_check (c := .loopFlush loop) _ trivial) fun _ => ?_
  have hread : (configureReadAhead loop).Uses KeepsLog :=
    (uses_configureReadAhead loop).mono fun _ h => h.keepsLog
  refine uses_exec_bind trivial fun r => ?_
  cases r with
  | error e => exact hread
  | ok _ => exact uses_exec_bind trivial fun _ => hread

/-- `LOOP_SET_FD` decides what the log says of the device. -/
theorem wp_setUpLoopDevice_log (h : s.2.Settled) (loop path : String) (offset : Int) (size : Nat) :
    wp watchedRace OwnClears (setUpLoopDevice loop path offset size) (fun x s' =>
      s'.2 = { s.2 with bound := [loop] } ∨
        (∃ e, x = .error e) ∧ s'.2 = { s.2 with refused := loop :: s.2.refused }) s := by
  unfold setUpLoopDevice
  simp only [bind_eq, exec_bind]
  refine ⟨h.own, trivial, fun r s₁ hs₁ => ?_⟩
  obtain ⟨-, hg⟩ := hs₁
  cases r with
  | ok _ =>
    have hbound : s₁.2 = { s.2 with bound := [loop] } := by rw [hg]; simp [LoopLog.upd, h.bound]
    have hown : OwnClears s₁ := by unfold OwnClears; rw [hbound]; exact h.own
    exact wp_keepsLog (keepsLog_setUp loop offset size) hown fun x s' hs' =>
      Or.inl (hs'.trans hbound)
  | error e =>
    have hrefused : s₁.2 = { s.2 with refused := loop :: s.2.refused } := hg
    refine ⟨?_, Or.inr ⟨⟨_, rfl⟩, hrefused⟩⟩
    unfold OwnClears
    rw [hrefused]
    rintro ⟨⟩

/-- The destructor clears the device in both cases. -/
theorem wp_maybeCloseBad_log {s₁ : World × LoopLog} (h : s.2.Settled) {loop : String}
    (h₁ : s₁.2 = { s.2 with bound := [loop] } ∨ s₁.2 = { s.2 with refused := loop :: s.2.refused })
    (hI : OwnClears s₁) :
    wp watchedRace OwnClears (maybeCloseBad loop) (fun _ s' => s'.2.Settled) s₁ := by
  refine ⟨hI, ?_, fun r s₂ hs₂ => ?_⟩
  · rcases h₁ with h₁ | h₁
    · exact fun _ => by simp [h₁]
    · rintro hr
      rw [h₁] at hr
      cases hr
  · have hsettled : s₂.2.Settled := by
      rw [hs₂.2, LoopLog.upd_clrFd]
      rcases h₁ with h₁ | h₁
      · rw [h₁, if_pos (by simp)]
        exact ⟨h.foreign, by simp⟩
      · rw [h₁, if_neg (by simp [h.bound])]
        exact ⟨congrArg (loop :: ·) h.foreign, h.bound⟩
    exact ⟨hsettled.own, hsettled⟩

theorem wp_createLoopDevice_log (h : s.2.Settled) (target : String) (offset : Int) (size : Nat) :
    wp watchedRace OwnClears (createLoopDevice target offset size) (fun
      | .ok _, s' => s'.2.foreign = s'.2.refused
      | .error _, s' => s'.2.Settled) s := by
  unfold createLoopDevice
  refine wp_keepsLog_bind (uses_sys_check (c := .openDevice _) _ trivial) h.own (fun _ s₁ hs₁ => ?_)
    fun _ s₁ hs₁ => ?_
  · have h₁ : s₁.2.Settled := h.congr hs₁
    refine wp_keepsLog_bind (uses_sys_check (c := .loopGetFree) _ trivial) h₁.own
      (fun num s₂ hs₂ => ?_) fun _ s₂ hs₂ => h₁.congr hs₂
    have h₂ : s₂.2.Settled := h₁.congr hs₂
    refine wp_keepsLog_bind (uses_sys_check (c := .openFile _) _ trivial) h₂.own
      (fun _ s₃ hs₃ => ?_) fun _ s₃ hs₃ => h₂.congr hs₃
    have h₃ : s₃.2.Settled := h₂.congr hs₃
    refine wp_keepsLog_bind ((uses_openLoopDevice _ _).mono fun _ h => h.keepsLog) h₃.own
      (fun _ s₄ hs₄ => ?_) fun _ s₄ hs₄ => h₃.congr hs₄
    have h₄ : s₄.2.Settled := h₃.congr hs₄
    refine wp_bind.2 (wp_onFail.2 ((wp_setUpLoopDevice_log h₄ _ _ _ _).imp ?_))
    rintro (e | u) s₅ hI hx
    · exact wp_maybeCloseBad_log h₄ (hx.imp_right And.right) hI
    · rcases hx with hx | ⟨⟨e, he⟩, -⟩
      · refine ⟨hI, ?_⟩
        show s₅.2.foreign = s₅.2.refused
        rw [hx]
        exact h₄.foreign
      · cases he
  · exact h.congr hs₁

theorem wp_createLoopDeviceLoop_log (apex : ApexFile) (n : Nat) {s : World × LoopLog}
    (h : s.2.Settled) : wp watchedRace OwnClears (createLoopDeviceLoop apex n) (fun
      | .ok _, s' => s'.2.foreign = s'.2.refused
      | .error _, s' => s'.2.Settled) s := by
  induction n generalizing s with
  | zero => exact ⟨h.own, h⟩
  | succ n ih =>
    refine wp_bind.2 (wp_attempt.2 ((wp_createLoopDevice_log h _ _ _).imp ?_))
    rintro (e | loop) s₁ hI hx
    · dsimp only [Then]
      split
      · exact ⟨hI, hx⟩
      · exact ih hx
    · exact ⟨hI, hx⟩

theorem LoopSetUp.wp_log {p : ApexM String} (hp : LoopSetUp p) (w : World) :
    wp watchedRace OwnClears p (fun _ s' => s'.2.foreign = s'.2.refused) (w, .start) := by
  have h : (w, LoopLog.start).2.Settled := ⟨rfl, rfl⟩
  cases hp with
  | create target offset size =>
    refine (wp_createLoopDevice_log h target offset size).imp ?_
    rintro (e | loop) s' - hx
    · exact hx.foreign
    · exact hx
  | retry apex n =>
    refine (wp_createLoopDeviceLoop_log apex n h).imp ?_
    rintro (e | loop) s' - hx
    · exact hx.foreign
    · exact hx

end Log

/-- **Which loop devices are cleared.**  In every run in which every `LOOP_SET_FD` succeeds,
`LOOP_CLR_FD` is issued only on devices the program has bound; and a complete run does so only if
every `LOOP_SET_FD` has succeeded. -/
theorem loopClrFd_own_iff {p q : ApexM String} (hp : LoopSetUp p) {w : World} {s : World × LoopLog}
    (hr : Reaches loopRaceKernel p (w, .start) q s) :
    (s.2.refused = [] → s.2.foreign = [] ∧ ∀ d k, q = call (.loopClrFd d) k → d ∈ s.2.bound) ∧
      ∀ x, q = ofExcept x → (s.2.foreign = [] ↔ s.2.refused = []) := by
  have hwp := hp.wp_log w
  refine ⟨fun hrefused => ⟨(hwp.reaches hr.withPre).inv hrefused, ?_⟩, fun x hx => ?_⟩
  · rintro d k rfl
    exact hwp.pre_reached hr hrefused
  · subst hx
    rw [hwp.ends (x := x) (Reaches.withPre hr)]

/-! ## A device taken by another process -/

/-- A file to be mounted. -/
def shimWorld : World := World.ofDirs
  [("/d", ⟨0o755, [("a.apex", .file ⟨1, .bytes []⟩)], by decide, by decide⟩)]

/-- The first loop device, bound by another process. -/
def otherLoop : Loop := ⟨loopName 0, "/other", ⟨9, .bytes []⟩, 0, 0, "other", false⟩

/-- Another process binds the device just before `LOOP_SET_FD`. -/
def othersBind : Sys → World → World
  | .loopSetFd _ _, w => { w with loops := otherLoop :: w.loops }
  | _, w => w

def loopRaceStep (step : (c : Sys) → World → Option (c.Res × World)) (f : Sys → World → World) :
    (c : Sys) → World × LoopLog → Option (c.Res × (World × LoopLog)) :=
  observeStep (disturbStep step f) LoopLog.upd

theorem loopRaceStep_sem {step : (c : Sys) → World → Option (c.Res × World)}
    {f : Sys → World → World}
    (hstep : ∀ c w r w', step c w = some (r, w') → (kernel .off Sys.Refused).sem c w r w')
    (hf : ∀ c (w : World), w.OthersUse (f c w)) (c : Sys) (s : World × LoopLog) (r : c.Res)
    (s' : World × LoopLog)
    (h : loopRaceStep step f c s = some (r, s')) : loopRaceKernel.sem c s r s' :=
  observeStep_sem (disturbStep_sem hstep hf) c s r s' h

/-- The kernel binds a loop device and does not accept its status. -/
def statusRefused : (c : Sys) → World → Option (c.Res × World)
  | .loopSetStatus _ _ _ _, w => some (.error .eio, w)
  | c, w => c.run w

theorem statusRefused_sem (c : Sys) (w : World) (r : c.Res) (w' : World)
    (h : statusRefused c w = some (r, w')) : (kernel .off Sys.Refused).sem c w r w' := by
  cases c with
  | loopSetStatus d o z i =>
    cases h
    exact Or.inr ⟨⟨.eio, rfl, rfl⟩, rfl⟩
  | _ => exact Sys.run_sem _ _ _ _ h

/-- The first calls of a `createLoopDevice` that binds the device and then fails. -/
def statusRefusedRun (n : Nat) : ApexM String × (World × LoopLog) :=
  runN (loopRaceStep statusRefused fun _ w => w) n (createLoopDevice "/d/a.apex" 0 0)
    (shimWorld, .start)

/-- The call fails after it has bound the device, and frees that device only. -/
theorem loopClrFd_own_iff_unset :
    (statusRefusedRun 6).2.2.bound = [loopName 0] ∧ (statusRefusedRun 7).2.2.bound = [] ∧
      (statusRefusedRun 7).1.result? = some (.error "Failed to LOOP_SET_STATUS64: I/O error") ∧
      (statusRefusedRun 7).2.2.foreign = [] := by
  have hr := runN_reaches (loopRaceStep_sem statusRefused_sem (f := fun _ w => w) fun _ _ => rfl) 7
    (createLoopDevice "/d/a.apex" 0 0) (shimWorld, LoopLog.start)
  have hown : (statusRefusedRun 7).2.2.refused = [] → (statusRefusedRun 7).2.2.foreign = [] :=
    fun h => ((loopClrFd_own_iff (.create _ _ _) hr).1 h).1
  exact ⟨by decide, by decide, by decide, hown (by decide)⟩

/-- The device of the other process is cleared. -/
theorem loopClrFd_takes_other :
    ¬ ∀ (p q : ApexM String) (w : World) (s : World × LoopLog), LoopSetUp p →
    Reaches loopRaceKernel p (w, .start) q s → ∀ d k, q = call (.loopClrFd d) k →
      d ∈ s.2.bound := by
  intro hclaim
  have hr := runN_reaches (loopRaceStep_sem Sys.run_sem (f := othersBind)
    fun c w => by cases c <;> rfl) 5 (createLoopDevice "/d/a.apex" 0 0) (shimWorld, LoopLog.start)
  have hd := hclaim _ _ _ _ (.create _ _ _) hr (loopName 0) _ rfl
  exact absurd hd (by decide)

end Apexd
