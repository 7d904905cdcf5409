import Apexd.Daemon
import Apexd.Serving

/-!
# The reboots that apexd brings about

A life of the process rolls back the active session and reboots where packages cannot be activated,
or where init says that an updatable process keeps crashing.

* `Life` — what holds at every moment of every life; `Started` — what holds once a start has resumed
  a rollback.
* `wp_rollbackActiveSessionAndReboot` — a reboot comes after the session that was active is over.
* `reboots_le_submissions` — over any lives and deaths, there are no more lives without a checkpoint
  in which apexd reboots than sessions were submitted.
-/

set_option autoImplicit false

namespace Apexd

open Text Prog

/-! ## Tallies -/

/-- There are submissions for all reboots and for `k` more. -/
def Tally.Covered (t : Tally) (k : Nat) : Prop := t.reboots + k ≤ t.submissions

/-- What holds of the sessions and the tally at every moment. -/
structure Life (cfg : Config) (s : World × Tally) : Prop where
  inv : SessionsInv cfg s.1
  covered : s.2.Covered 0
  active : ¬ s.1.Quiet cfg → s.2.Covered 1
  mode : s.1.inFsCheckpointMode = true → s.2.checkpointed = true
  checkpoint : ∀ w : World, w.DataIs s.2.checkpoint → w.DataUnmounted → SessionsInv cfg w ∧
    (s.2.checkpointed = true → ¬ w.Quiet cfg → s.2.Covered 1)

/-- A start has resumed a rollback, or its reboots are not counted. -/
structure Started (cfg : Config) (s : World × Tally) : Prop extends Life cfg s where
  resumed : s.2.excused = false → s.1.NoneUnderway cfg

/-- A reboot is covered. -/
def MayReboot (cfg : Config) (s : World × Tally) : Prop :=
  s.2.rebooting = false → s.2.excused = false → s.1.Quiet cfg ∧ s.2.Covered 1

section Steps

variable {cfg : Config} {s s' : World × Tally} {w w' : World} {t : Tally}

/-- The sessions are what is below `/data/apex`. -/
theorem World.DataIs.sameSessions (h : w'.DataIs w.dirs) (hm : w.DataUnmounted → w'.DataUnmounted) :
    w.SameSessions cfg w' :=
  have hbelow : startsWith kApexSessionsDir kApexDataDir = true := by decide +kernel
  .of_dirs (fun q hq => h q (startsWith_trans hq hbelow)) hm

/-- The programs of apexd leave the tally alone. -/
theorem Life.serve {submits : Bool} (h : Life cfg s) (hsub : submits = true → s.2.Covered 1)
    (hinv : SessionsInv cfg w)
    (hflags : w.flags = s.1.flags) (hquiet : submits = false → s.1.Quiet cfg → w.Quiet cfg) :
    Life cfg (w, s.2) where
  inv := hinv
  covered := h.covered
  active hw := by
    cases submits with
    | true => exact hsub rfl
    | false => exact h.active fun hq => hw (hquiet rfl hq)
  mode hm := h.mode ((congrArg Flags.inFsCheckpointMode hflags).symm.trans hm)
  checkpoint := h.checkpoint

theorem Started.keep (h : Started cfg s) (h' : Life cfg (w, s.2))
    (hn : s.1.NoneUnderway cfg → w.NoneUnderway cfg) : Started cfg (w, s.2) where
  toLife := h'
  resumed he := hn (h.resumed he)

/-- What others do while the process waits for a call. -/
theorem Started.others (h : Started cfg s) (ho : s.1.Others w) : Started cfg (w, s.2) :=
  have hsame : s.1.SameSessions cfg w := ho.data.sameSessions ho.unmounted
  have hsubmits : false = true → s.2.Covered 1 := nofun
  h.keep (h.serve hsubmits (h.inv.same hsame) ho.flags fun _ hq => hsame.quiet hq)
    hsame.noneUnderway

/-- A flag is set. -/
theorem Life.setFlag (h : Life cfg s) (hd : w.dirs = s.1.dirs) (hm : w.mounts = s.1.mounts)
    (hmode : w.inFsCheckpointMode = true → s.2.checkpointed = true) : Life cfg (w, s.2) :=
  have hsame : s.1.SameSessions cfg w := .of_dirs (fun _ _ => by rw [hd]) fun hu => by
    unfold World.DataUnmounted at hu ⊢
    rwa [hm]
  { inv := h.inv.same hsame
    covered := h.covered
    active := fun hw => h.active fun hq => hw (hsame.quiet hq)
    mode := hmode
    checkpoint := h.checkpoint }

theorem Life.keyless (h : Life cfg (w, t)) : Life cfg (w, { t with keyless := true }) :=
    ⟨h.1, h.2, h.3, h.4, h.5⟩

theorem Life.submission (h : Life cfg (w, t)) :
    Life cfg (w, { t with submissions := t.submissions + 1 }) where
  inv := h.inv
  covered := Nat.le_succ_of_le h.covered
  active hq := Nat.le_succ_of_le (h.active hq)
  mode := h.mode
  checkpoint v hd hm :=
    ⟨(h.checkpoint v hd hm).1, fun he hq => Nat.le_succ_of_le ((h.checkpoint v hd hm).2 he hq)⟩

/-- A reboot takes what covers it. -/
theorem Life.reboot (h : Life cfg (w, t)) (hr : MayReboot cfg (w, t)) : Life cfg (w, t.reboot) := by
  unfold Tally.reboot
  split
  · exact ⟨h.1, h.2, h.3, h.4, h.5⟩
  · rename_i hcond
    rw [Bool.or_eq_true, not_or, Bool.not_eq_true, Bool.not_eq_true] at hcond
    obtain ⟨hquiet, hone⟩ := hr hcond.1 hcond.2
    refine ⟨h.inv, hone, fun hq => absurd hquiet hq, h.mode,
      fun v hd hm => ⟨(h.checkpoint v hd hm).1, fun hc => ?_⟩⟩
    have hexcused : t.excused = true := Bool.or_eq_true_iff.2 (Or.inl hc)
    rw [hexcused] at hcond
    cases hcond.2

theorem Tally.reboot_rebooting (t : Tally) : t.reboot.rebooting = true := by
  unfold Tally.reboot
  split <;> rfl

theorem Tally.reboot_excused (t : Tally) : t.reboot.excused = t.excused := by
  unfold Tally.reboot
  split <;> rfl

theorem Started.reboot (h : Started cfg (w, t)) (hr : MayReboot cfg (w, t)) :
    Started cfg (w, t.reboot) where
  toLife := h.toLife.reboot hr
  resumed he := h.resumed (t.reboot_excused.symm.trans he)

/-- Once there was a reboot there may be another. -/
theorem MayReboot.again (t : Tally) : MayReboot cfg (w, t.reboot) := fun hn =>
  absurd (t.reboot_rebooting.symm.trans hn) (by decide)

end Steps

/-! ## Programs -/

/-- The commands that change nothing and are not counted. -/
def Inert : DaemonSys → Prop
  | .getService _ => True
  | .supportsCheckpoint => True
  | .needsCheckpoint => True
  | .needsRollback => True
  | .abortChanges _ _ => True
  | .setProperty _ _ => True
  | .waitForProperty _ _ _ => True
  | .getProperty _ _ => True
  | .patience => True
  | .sys .getFlags => True
  | _ => False

section Programs

variable {cfg : Config} {F : Faults} {s : World × Tally} (hF : F.SparesRecords)
include hF

theorem inert_same {c : DaemonSys} (hc : Inert c) {r : c.Res} {s' : World × Tally}
    (hs : (lifeKernel F).sem c s r s') : s' = s := by
  obtain ⟨-, hw, ht⟩ := hs
  refine Prod.ext ?_ ?_
  · cases c with
    | sys c =>
      cases c with
      | getFlags =>
        rcases hw with ⟨_, hw⟩ | hf
        · exact hw
        · exact (hF.unreliable _ _ _ _ hf).1.elim
      | _ => exact hc.elim
    | _ => first | exact hc.elim | exact hw
  · cases c with
    | sys c => exact ht
    | _ => first | exact hc.elim | exact ht

/-- A command that changes nothing comes before the rest. -/
theorem wp_inert {α : Type} {c : DaemonSys} (hc : Inert c) {f : c.Res → DaemonM α}
    {I : World × Tally → Prop} {Q : Except String α → World × Tally → Prop} (hI : I s)
    (hf : ∀ r, Tally.told c s r → wp (lifeKernel F) I (f r) Q s) :
    wp (lifeKernel F) I ((ask c).bind f) Q s := by
  refine ⟨hI, ?_, fun r s' hs => ?_⟩
  · cases c <;> trivial
  · rw [inert_same hF hc hs]
    exact hf r hs.1

omit hF in
/-- A program of apexd leaves the tally as it is. -/
theorem wp_lift {α : Type} {p : ApexM α} {I : World → Prop} {Q : Except String α → World → Prop}
    (h : wp (kernel .off F) I p Q s.1) :
    wp (lifeKernel F) (fun s' => I s'.1 ∧ s'.2 = s.2) (DaemonM.lift p)
      (fun x s' => s'.2 = s.2 ∧ Q x s'.1) s := by
  have hsem : ∀ c s₁ r s₂, s₁.2 = s.2 → (lifeKernel F).sem (.sys c) s₁ r s₂ →
      (kernel .off F).sem c s₁.1 r s₂.1 ∧ s₂.2 = s.2 := fun c s₁ r s₂ hJ hs =>
        ⟨hs.2.1, hs.2.2.trans hJ⟩
  have hembed : wp (lifeKernel F) (fun s' => I s'.1 ∧ s'.2 = s.2) (DaemonM.lift p) _ s :=
    wp.embed (f := DaemonSys.sys) (g := fun _ r => r) (h := id) (fun _ _ _ _ => trivial) hsem h rfl
  refine hembed.imp ?_
  rintro x s' _ ⟨ht, y, rfl, hQ⟩
  refine ⟨ht, ?_⟩
  cases y <;> exact hQ

omit hF in
/-- A program that serves keeps what holds of the lives. -/
theorem wp_lift_life {α : Type} {p : ApexM α} {b : Bool} (hp : Serves cfg F b p) (h : Life cfg s)
    (hsub : b = true → s.2.Covered 1) :
    wp (lifeKernel F) (Life cfg) (DaemonM.lift p)
      (fun _ s' => s'.2 = s.2 ∧ (s.1.NoneUnderway cfg → s'.1.NoneUnderway cfg)) s := by
  refine (wp_lift (hp s.1 h.inv)).mono ?_ fun _ _ _ hx => hx
  rintro ⟨w', t'⟩ ⟨⟨hinv, hflags, hquiet⟩, rfl⟩
  exact h.serve hsub hinv hflags hquiet

omit hF in
theorem wp_lift_started {α : Type} {p : ApexM α} {b : Bool} (hp : Serves cfg F b p)
    (h : Started cfg s) (hsub : b = true → s.2.Covered 1) :
    wp (lifeKernel F) (Life cfg) (DaemonM.lift p) (fun _ s' => s'.2 = s.2 ∧ Started cfg s') s := by
  refine (wp_lift_life hp h.toLife hsub).imp ?_
  rintro x ⟨w', t'⟩ hlife ⟨rfl, hn⟩
  exact ⟨rfl, h.keep hlife hn⟩

omit hF in
/-- A failure is logged. -/
theorem wp_daemonLogged {p : DaemonM Unit} {I Q : World × Tally → Prop}
    (h : wp (lifeKernel F) I p (fun _ => Q) s) :
    wp (lifeKernel F) I (DaemonM.logged p) (fun _ => Q) s :=
  wp_bind.2 (wp_attempt.2 (h.imp fun _ _ hI hQ => ⟨hI, hQ⟩))

/-! ### The vold service -/

theorem wp_voldCreate (h : Life cfg s) :
    wp (lifeKernel F) (Life cfg) VoldCheckpointInterface.create (fun _ s' => s' = s) s := by
  refine wp_inert hF (c := .getService "vold") trivial h fun b _ => ?_
  cases b with
  | false => exact ⟨h, rfl⟩
  | true =>
    refine wp_inert hF (c := .supportsCheckpoint) trivial h fun r _ => ?_
    cases r <;> exact ⟨h, rfl⟩

/-- The process is in checkpoint mode only where vold holds a checkpoint. -/
theorem wp_needsCheckpoint (h : Life cfg s) (service : VoldCheckpointInterface) :
    wp (lifeKernel F) (Life cfg) service.needsCheckpoint
      (fun x s' => s' = s ∧ (x = .ok (.ok true) → s.2.checkpointed = true)) s := by
  unfold VoldCheckpointInterface.needsCheckpoint
  split
  · refine wp_inert hF (f := ret) (c := .needsCheckpoint) trivial h fun r hr => ⟨h, rfl, ?_⟩
    rintro ⟨⟩
    exact (eq_of_beq hr).symm
  · exact ⟨h, rfl, nofun⟩

theorem wp_needsRollback (h : Life cfg s) (service : VoldCheckpointInterface) :
    wp (lifeKernel F) (Life cfg) service.needsRollback (fun _ s' => s' = s) s := by
  unfold VoldCheckpointInterface.needsRollback
  split
  · exact wp_inert hF (f := ret) (c := .needsRollback) trivial h fun r _ => ⟨h, rfl⟩
  · exact ⟨h, rfl⟩

omit hF in
/-- One of the flags is set. -/
theorem wp_setSupports (h : Life cfg s) (b : Bool) {f : Unit → DaemonM Unit}
    {Q : Except String Unit → World × Tally → Prop}
    (hf : ∀ s', Life cfg s' → wp (lifeKernel F) (Life cfg) (f ()) Q s') :
    wp (lifeKernel F) (Life cfg) ((ask (.setSupportsFsCheckpoints b)).bind f) Q s := by
  refine ⟨h, trivial, ?_⟩
  rintro _ ⟨w', t'⟩ ⟨-, hw, ht⟩
  obtain rfl : w' = { s.1 with supportsFsCheckpoints := b } := hw
  obtain rfl : t' = s.2 := ht
  exact hf _ (h.setFlag rfl rfl h.mode)

omit hF in
theorem wp_setMode (h : Life cfg s) {b : Bool} (hb : b = true → s.2.checkpointed = true) :
    wp (lifeKernel F) (Life cfg) (ask (.setInFsCheckpointMode b)) (fun _ _ => True) s := by
  refine ⟨h, trivial, ?_⟩
  rintro _ ⟨w', t'⟩ ⟨-, hw, ht⟩
  obtain rfl : w' = { s.1 with inFsCheckpointMode := b } := hw
  obtain rfl : t' = s.2 := ht
  exact ⟨h.setFlag rfl rfl hb, trivial⟩

theorem wp_setFlags (h : Life cfg s) (service : VoldCheckpointInterface) :
    wp (lifeKernel F) (Life cfg) (Daemon.setFlags service) (fun _ _ => True) s := by
  refine wp_setSupports h _ fun s₁ h₁ => ?_
  split
  · refine wp_bind.2 ((wp_needsCheckpoint hF h₁ service).imp ?_)
    rintro (e | e | b) _ h₂ ⟨rfl, hb⟩
    · trivial
    · exact ⟨h₂, trivial⟩
    · exact wp_setMode h₂ fun he => hb (he ▸ rfl)
  · exact ⟨h₁, trivial⟩

theorem wp_rollBackIfAsked (h : Life cfg s) (service : VoldCheckpointInterface) :
    wp (lifeKernel F) (Life cfg) (Daemon.rollBackIfAsked cfg service) (fun _ _ => True) s := by
  refine wp_bind.2 ((wp_needsRollback hF h service).imp ?_)
  rintro (e | r) _ hlife rfl
  · trivial
  rcases r with e | _ | _
  · exact ⟨hlife, trivial⟩
  · exact ⟨hlife, trivial⟩
  · exact wp_daemonLogged ((wp_lift_life (b := false) (serves_rollbackStagedSessionIfAny hF)
      hlife nofun).imp fun _ _ _ _ => trivial)

/-! ### A rollback and a reboot -/

omit hF in
theorem wp_reboot (h : Started cfg s) (hr : MayReboot cfg s) :
    wp (lifeKernel F) (Life cfg) Daemon.reboot
      (fun _ s' => Started cfg s' ∧ MayReboot cfg s') s := by
  refine ⟨h.toLife, trivial, ?_⟩
  rintro r ⟨w', t'⟩ ⟨-, hw, ht⟩
  obtain rfl : w' = s.1 := hw
  cases r with
  | false =>
    obtain rfl : t' = s.2 := ht
    exact ⟨h.toLife, h, hr⟩
  | true =>
    obtain rfl : t' = s.2.reboot := ht
    exact ⟨h.toLife.reboot hr, h.reboot hr, .again s.2⟩

/-- A rollback that went well has ended the session that was active. -/
theorem wp_rollbackActiveSession_covers (h : Started cfg s) :
    wp (lifeKernel F) (Life cfg) (DaemonM.lift (rollbackActiveSession cfg))
      (fun x s' => Started cfg s' ∧ (x = .ok () → MayReboot cfg s')) s := by
  have hserves := wp_lift_started (b := false) (serves_rollbackActiveSession hF) h nofun
  have hmoved := wp_lift (F := F) (wp_rollbackActiveSession_moved hF h.inv)
  refine (hserves.and hmoved).mono (fun _ hI => hI.1) ?_
  rintro x ⟨w', t'⟩ ⟨hlife, -⟩ ⟨⟨rfl, hstarted⟩, -, hrolled, hover⟩
  refine ⟨hstarted, fun hx _ he => ?_⟩
  obtain ⟨a, ha, hover⟩ := hover hx
  have hactive : ¬ s.1.Quiet cfg := by
    intro hq
    have hfinal := hq a.id a.state ha.1.storedState
    rw [SessionState.mem_final, ha.2] at hfinal
    cases hfinal
  refine ⟨?_, h.active hactive⟩
  rcases hover with hover | hover | hmode
  · refine ha.quiet_moved hrolled ?_ hover (by decide)
    cases s.1.inFsCheckpointMode <;> decide
  · have hstored := ha.1.storedState
    rw [hover] at hstored
    exact absurd hstored (h.resumed he a.id)
  · have hexcused : s.2.excused = true := Bool.or_eq_true_iff.2 (Or.inl (h.mode hmode))
    rw [show s.2.excused = false from he] at hexcused
    cases hexcused

/-- The session that was active is over when the device is rebooted. -/
theorem wp_rollbackActiveSessionAndReboot (h : Started cfg s) :
    wp (lifeKernel F) (Life cfg) (Daemon.rollbackActiveSessionAndReboot cfg)
      (fun x s' => Started cfg s' ∧ (x = .ok () → MayReboot cfg s')) s := by
  refine wp_bind.2 ((wp_rollbackActiveSession_covers hF h).imp ?_)
  rintro (e | _) s₁ hlife ⟨hstarted, hmay⟩
  · exact ⟨hstarted, nofun⟩
  have hreboot : wp (lifeKernel F) (Life cfg) Daemon.reboot
      (fun x s' => Started cfg s' ∧ (x = .ok () → MayReboot cfg s')) s₁ :=
    (wp_reboot hstarted (hmay rfl)).imp fun _ _ _ hx => ⟨hx.1, fun _ => hx.2⟩
  refine wp_inert hF (c := .sys .getFlags) trivial hlife fun flags _ => ?_
  split
  · exact wp_inert hF (c := .abortChanges "apexd_initiated" false) trivial hlife fun _ _ => hreboot
  · exact hreboot

/-! ### Starts -/

theorem wp_scanBuiltinDirs (h : Started cfg s) :
    wp (lifeKernel F) (Life cfg) (Daemon.scanBuiltinDirs cfg) (fun _ => Started cfg) s := by
  refine wp_forM (fun _ => Started cfg) _ ?_ (fun s' hs => ⟨hs.toLife, hs⟩) h
  rintro dir rest s' - hs
  have hscan : Serves cfg F false (scanPackagesDirAndActivate cfg dir) :=
    serves_spares hF (uses_scanPackagesDirAndActivate dir)
  refine (wp_daemonLogged ((wp_lift_started hscan hs nofun).imp fun _ _ _ hx => hx.2)).imp ?_
  rintro (e | _) s₂ _ h₂ <;> exact h₂

theorem wp_startPackages (h : Life cfg s) :
    wp (lifeKernel F) (Life cfg) (Daemon.startPackages cfg)
      (fun x s' => x = .ok () → Started cfg s') s := by
  have hpopulate : Serves cfg F false populateFromMounts :=
    serves_spares hF (uses_populateFromMounts.mono fun _ => PopulateCmd.sparesSessions)
  refine wp_bind.2 ((wp_lift_life hpopulate h nofun).imp ?_)
  rintro (e | _) s₁ h₁ _
  · exact nofun
  refine wp_bind.2 ((wp_lift_life (b := false) (serves_scanStagedSessionsDirAndStage hF) h₁
    nofun).imp ?_)
  rintro (e | _) s₂ h₂ _
  · exact nofun
  have hresume : wp (lifeKernel F) (Life cfg) (DaemonM.lift (resumeRollbackIfNeeded cfg))
      (fun _ => Started cfg) s₂ := by
    refine ((wp_lift_life (b := false) (serves_resumeRollbackIfNeeded hF) h₂ nofun).and
      (wp_lift (wp_resumeRollbackIfNeeded_none hF h₂.inv))).mono (fun _ hI => hI.1) ?_
    rintro x s₃ ⟨h₃, -⟩ ⟨-, -, hn⟩
    exact ⟨h₃, fun _ => hn⟩
  refine wp_bind.2 ((wp_daemonLogged hresume).imp ?_)
  rintro (e | _) s₃ _ h₃
  · exact nofun
  have hscan : Serves cfg F false (scanPackagesDirAndActivate cfg kActiveApexPackagesDataDir) :=
    serves_spares hF (uses_scanPackagesDirAndActivate _)
  refine wp_bind.2 (wp_attempt.2 ((wp_lift_started hscan h₃ nofun).imp ?_))
  rintro (e | _) s₄ hlife ⟨-, h₄⟩
  · refine wp_bind.2 ((wp_daemonLogged
      ((wp_rollbackActiveSessionAndReboot hF h₄).imp fun _ _ _ hx => hx.1)).imp ?_)
    rintro (e | _) s₅ _ h₅
    · exact nofun
    · exact (wp_scanBuiltinDirs hF h₅).imp fun _ _ _ hs _ => hs
  · exact (wp_scanBuiltinDirs hF h₄).imp fun _ _ _ hs _ => hs

/-- A start that comes to its end has resumed a rollback, unless it is excused. -/
theorem wp_startWithKeys_started (h : Life cfg s) :
    wp (lifeKernel F) (Life cfg) (Daemon.startWithKeys cfg)
    (fun x s' => x = .ok () → Started cfg s') s := by
  refine wp_bind.2 ((wp_lift_life (b := false) (serves_collectApexKeys hF) h nofun).imp ?_)
  rintro (e | ⟨keys, e | _⟩) s₁ h₁ -
  · exact nofun
  · -- the reboots of a life without keys are not counted
    refine ⟨h₁, trivial, ?_⟩
    rintro _ ⟨w₂, t₂⟩ ⟨-, hw, ht⟩
    obtain rfl : w₂ = s₁.1 := hw
    obtain rfl : t₂ = { s₁.2 with keyless := true } := ht
    have h₂ : Life cfg (s₁.1, { s₁.2 with keyless := true }) := h₁.keyless
    refine ⟨h₂, fun _ => ⟨h₂, fun he => ?_⟩⟩
    have hexcused : (s₁.2.checkpointed || true) = false := he
    rw [Bool.or_true] at hexcused
    cases hexcused
  · exact wp_startPackages hF h₁

theorem wp_onStart (h : Life cfg s) (service : Option VoldCheckpointInterface) :
    wp (lifeKernel F) (Life cfg) (Daemon.onStart cfg service)
      (fun x s' => x = .ok () → Started cfg s') s := by
  refine wp_inert hF (c := .setProperty kApexStatusSysprop kApexStatusStarting) trivial h fun _ _ =>
    ?_
  cases service with
  | none => exact wp_startWithKeys_started hF h
  | some service =>
    refine wp_bind.2 ((wp_setFlags hF h service).imp ?_)
    rintro (e | _) s₁ h₁ -
    · exact nofun
    refine wp_inert hF (c := .sys .getFlags) trivial h₁ fun flags _ => ?_
    split
    · refine wp_bind.2 ((wp_rollBackIfAsked hF h₁ service).imp ?_)
      rintro (e | _) s₂ h₂ -
      · exact nofun
      · exact wp_startWithKeys_started hF h₂
    · exact wp_startWithKeys_started hF h₁

/-! ### Lives -/

theorem wp_serveCalls (debuggable : Bool) (n : Nat) (h : Started cfg s) :
    wp (lifeKernel F) (Life cfg) (Daemon.serveCalls cfg debuggable n) (fun _ => Started cfg) s := by
  induction n generalizing s with
  | zero => exact ⟨h.toLife, h⟩
  | succ n ih =>
    have hcall : ∀ (c : BinderCall) (s' : World × Tally), Started cfg s' →
      (c.submits = true → s'.2.Covered 1) →
        wp (lifeKernel F) (Life cfg) (do
          let _ ← ((DaemonM.lift (c.prog cfg debuggable)).attempt :
            DaemonM (Except String BinderStatus))
          Daemon.serveCalls cfg debuggable n) (fun _ => Started cfg) s' := by
      intro c s' hs hsub
      refine wp_bind.2 (wp_attempt.2
        ((wp_lift_started (serves_binderCall hF debuggable c) hs hsub).imp ?_))
      rintro x s₂ _ ⟨-, h₂⟩
      exact ih h₂
    refine ⟨h.toLife, trivial, ?_⟩
    rintro r ⟨w', t'⟩ ⟨-, ho, ht⟩
    have h₁ : Started cfg (w', s.2) := h.others ho
    cases r with
    | none =>
      obtain rfl : t' = s.2 := ht
      exact ⟨h₁.toLife, h₁⟩
    | some c =>
      by_cases hc : c.submits = true
      · cases c with
        | submitStagedSession id ids =>
          obtain rfl : t' = { s.2 with submissions := s.2.submissions + 1 } := ht
          have hlife : Life cfg (w', { s.2 with submissions := s.2.submissions + 1 }) :=
            h₁.toLife.submission
          exact hcall _ _ ⟨hlife, h₁.resumed⟩ fun _ => Nat.succ_le_succ h.covered
        | _ => cases hc
      · have hsame : t' = s.2 := by
          cases c <;> first | exact ht | exact absurd rfl hc
        subst hsame
        exact hcall c _ h₁ fun he => absurd he hc

theorem wp_waitForBootStatus {serve rollbackFn completeFn : DaemonM Unit} (n : Nat)
    (h : Started cfg s)
    (hserve : ∀ s', Started cfg s' → wp (lifeKernel F) (Life cfg) serve (fun _ => Started cfg) s')
    (hrollback : ∀ s', Started cfg s' → wp (lifeKernel F) (Life cfg) rollbackFn
      (fun x s'' => Started cfg s'' ∧ (x = .ok () → MayReboot cfg s'')) s')
    (hcomplete : ∀ s', Started cfg s' → wp (lifeKernel F) (Life cfg) completeFn
      (fun _ => Started cfg) s') :
    wp (lifeKernel F) (Life cfg) (Daemon.waitForBootStatus serve rollbackFn completeFn n)
      (fun _ => Started cfg) s := by
  induction n generalizing s with
  | zero => exact ⟨h.toLife, h⟩
  | succ n ih =>
    refine wp_bind.2 ((hserve s h).imp ?_)
    rintro (e | _) s₁ hlife h₁
    · exact h₁
    refine wp_inert hF (c := .waitForProperty "ro.init.updatable_crashing" "1" 30) trivial
      hlife fun b _ => ?_
    cases b with
    | true =>
      refine wp_bind.2 (wp_attempt.2 ((hrollback s₁ h₁).imp ?_))
      rintro (e | _) s₂ hlife₂ ⟨h₂, hr₂⟩
      · exact ⟨hlife₂, h₂⟩
      · exact (wp_reboot h₂ (hr₂ rfl)).imp fun _ _ _ hx => hx.1
    | false =>
      refine wp_inert hF (c := .getProperty "sys.boot_completed" "") trivial hlife fun v _ => ?_
      split
      · exact hcomplete s₁ h₁
      · exact ih h₁

theorem wp_afterStart (debuggable : Bool) (n : Nat) (h : Started cfg s) :
    wp (lifeKernel F) (Life cfg) (Daemon.afterStart cfg debuggable n) (fun _ => Started cfg) s := by
  refine wp_bind.2 ((wp_serveCalls hF debuggable n h).imp ?_)
  rintro (e | _) s₁ h₁ hs₁
  · exact hs₁
  refine wp_inert hF (c := .setProperty kApexStatusSysprop kApexStatusReady) trivial h₁ fun _ _ =>
    ?_
  refine wp_bind.2 ((wp_waitForBootStatus hF n hs₁ (fun s' hs => wp_serveCalls hF debuggable n hs)
    (fun s' hs => wp_rollbackActiveSessionAndReboot hF hs) fun s' hs => ?_).imp ?_)
  · exact (wp_lift_started (b := false) (serves_unmountDanglingMounts hF) hs nofun).imp
      fun _ _ _ hx => hx.2
  rintro (e | _) s₂ _ h₂
  · exact h₂
  · exact wp_serveCalls hF debuggable n h₂

/-- **One life** of the process. -/
theorem wp_main (debuggable : Bool) (h : Life cfg s) :
    wp (lifeKernel F) (Life cfg) (Daemon.main cfg debuggable) (fun _ => Life cfg) s := by
  refine wp_inert hF (c := .patience) trivial h fun n _ => ?_
  refine wp_bind.2 ((wp_voldCreate hF h).imp ?_)
  rintro (e | vold) _ hlife rfl
  · exact hlife
  refine wp_bind.2 ((wp_onStart hF hlife vold).imp ?_)
  rintro (e | _) s₁ h₁ hstarted
  · exact h₁
  · exact (wp_afterStart hF debuggable n (hstarted rfl)).imp fun _ _ hl _ => hl

end Programs

/-! ## Runs -/

section Runs

variable {cfg : Config} {debuggable up : Bool} {F : Faults} {w₀ : World} {s s' : World × Tally}

/-- The next life begins with the files that are there, or with those of a checkpoint that is not
kept. -/
theorem Life.restart (h : Life cfg s) (hr : s.1.Restarted s.2 s'.1) (hb : s.2.Begins s'.1 s'.2) :
    Life cfg s' := by
  obtain ⟨⟨hreboots, hsubmissions⟩, -, hcheckpoint⟩ := hb
  have hcovered : ∀ k, s.2.Covered k → s'.2.Covered k := by
    intro k hk
    unfold Tally.Covered at hk ⊢
    rwa [hreboots, hsubmissions]
  have hmode : s'.1.inFsCheckpointMode = false := congrArg Flags.inFsCheckpointMode hr.flags
  -- what the next life may begin with, now or later
  have hold : ∀ w : World, w.DataUnmounted → w.DataIs s.1.dirs ∨ s.2.checkpointed = true ∧
    w.DataIs s.2.checkpoint →
      SessionsInv cfg w ∧ (¬ w.Quiet cfg → s'.2.Covered 1) := by
    rintro w hm (hd | ⟨hc, hd⟩)
    · have hsame : s.1.SameSessions cfg w := hd.sameSessions fun _ => hm
      exact ⟨h.inv.same hsame, fun hq => hcovered 1 (h.active fun hq' => hq (hsame.quiet hq'))⟩
    · obtain ⟨hinv, hone⟩ := h.checkpoint w hd hm
      exact ⟨hinv, fun hq => hcovered 1 (hone hc hq)⟩
  refine ⟨(hold _ hr.unmounted hr.data).1, hcovered 0 h.covered,
    (hold _ hr.unmounted hr.data).2, fun hm => ?_, fun w hd hm => ?_⟩
  · rw [hmode] at hm
    cases hm
  · have hfrom : w.DataIs s.1.dirs ∨ s.2.checkpointed = true ∧ w.DataIs s.2.checkpoint := by
      rcases hcheckpoint with hc | ⟨hold, hc⟩
      · rw [hc] at hd
        exact hr.data.imp hd.trans fun hx => ⟨hx.1, hd.trans hx.2⟩
      · exact Or.inr ⟨hold, hc ▸ hd⟩
    exact ⟨(hold w hm hfrom).1, fun _ => (hold w hm hfrom).2⟩

theorem World.NoSessions.life (h0 : w₀.NoSessions) (hmode : w₀.inFsCheckpointMode = false) :
    Life cfg (w₀, .none w₀) := by
  have hquiet : w₀.Quiet cfg := by
    intro id st hst
    unfold World.storedState at hst
    rw [h0.record?] at hst
    cases hst
  refine ⟨h0.inv, Nat.le_refl 0, fun hq => absurd hquiet hq, fun hm => ?_,
    fun w hd hm => ⟨?_, nofun⟩⟩
  · rw [show w₀.inFsCheckpointMode = true from hm] at hmode
    cases hmode
  · have hsame : w₀.SameSessions cfg w := World.DataIs.sameSessions hd fun _ => hm
    exact h0.inv.same hsame

/-- **The lives of the process.** -/
theorem lives_inv (hF : F.SparesRecords) (h0 : w₀.NoSessions)
    (hmode : w₀.inFsCheckpointMode = false)
    (h : (lives cfg debuggable F).Runs (fun _ => True) (w₀, .none w₀) up s) : Life cfg s := by
  have hinv := h.inv_of_wp (I := Life cfg) (J := Life cfg) (h0.life hmode) (fun _ h => h) ?_
    fun i => i.elim
  · cases up <;> exact hinv
  · rintro s₁ s₂ h₁ ⟨hr, hb⟩
    exact wp_main hF debuggable (h₁.restart hr hb)

/-- **Reboots are paid for by submissions**: over any lives and deaths, where the records of the
sessions can be read and written, apexd brings about a reboot in no more lives than sessions were
submitted, lives in which vold holds a checkpoint or the keys cannot be collected apart.  What comes
back of a checkpoint does not bring a reboot back. -/
theorem reboots_le_submissions (hF : F.SparesRecords) (h0 : w₀.NoSessions)
    (hmode : w₀.inFsCheckpointMode = false)
    (h : (lives cfg debuggable F).Runs (fun _ => True) (w₀, .none w₀) up s) :
    s.2.reboots ≤ s.2.submissions :=
  (lives_inv hF h0 hmode h).covered

end Runs

/-! ## A process that keeps crashing -/

/-- Session 5 is submitted and made ready; then init says that an updatable process keeps
crashing. -/
def crashingLife : DaemonM Unit × (World × Tally) :=
  oneLife deviceConfig false true (fun w => match w.storedState deviceConfig 5 with
    | none => some (.submitStagedSession 5 [])
    | some .VERIFIED => some (.markStagedSessionReady 5)
    | _ => none) (submissionWorld, .none submissionWorld)

theorem reboots_le_submissions_crashing :
    crashingLife.2.2.reboots = 1 ∧ crashingLife.2.2.reboots ≤ crashingLife.2.2.submissions := by
  have hrun : crashingLife.1.result? = some (.ok ()) ∧ crashingLife.2.2.reboots = 1 := by
    decide +kernel
  have hruns := oneLife_runs (F := Sys.NoFault) .off
    ⟨⟨Or.inl (.refl _), submissionWorld_noSessions.unmounted, rfl, rfl⟩,
    ⟨rfl, rfl⟩, ⟨rfl, rfl⟩, Or.inl rfl⟩ hrun.1
  exact ⟨hrun.2, reboots_le_submissions Sys.NoFault.sparesRecords
    submissionWorld_noSessions rfl hruns⟩

end Apexd
