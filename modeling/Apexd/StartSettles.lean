import Apexd.SessionChanges

/-!
# What a start makes of the sessions

`onStart` where the records of the sessions can be read and written and everything else may be
refused.

* `Faults.SparesRecords` — the outside trouble that is left.
* `World.Moved` — the stored states, each moved to one that is allowed.
* `State.started` — the states of a session after a start.
* `start_settles` — in every state that requests and deaths lead to, a start leaves no session
  staged or in the middle of a rollback.
-/

set_option autoImplicit false

namespace Apexd

open Text Prog

/-! ## Outcomes -/

/-- Only the one state is left. -/
def State.move (before after : State) (st : State) :
    List State := if st = before then [after] else [st]

/-- `scanStagedSessionsDirAndStage`. -/
def State.scanned : State → List State
  | .STAGED => [.ACTIVATED, .ACTIVATION_FAILED]
  | st => [st]

/-- `resumeRollbackIfNeeded`. -/
def State.resumed (inMode : Bool) : State → List State
  | .ROLLBACK_IN_PROGRESS => if inMode then [.ROLLED_BACK] else [.ROLLED_BACK, .ROLLBACK_FAILED]
  | st => [st]

/-- `rollbackActiveSession`: in checkpoint mode the state is left to the reboot. -/
def State.rolledBack (inMode : Bool) : State → List State
  | .STAGED => [.ROLLED_BACK]
  | .ACTIVATED => if inMode then [.ACTIVATED] else [.ROLLED_BACK, .ROLLBACK_FAILED]
  | st => [st]

/-- `onStart`: `requested` says that vold asks for a rollback. -/
def State.started (requested inMode : Bool) : State → List State
  | .STAGED =>
    if requested then [.ROLLED_BACK]
    else if inMode then [.ACTIVATED, .ACTIVATION_FAILED]
    else [.ACTIVATED, .ACTIVATION_FAILED, .ROLLED_BACK, .ROLLBACK_FAILED]
  | .ACTIVATED => if inMode then [.ACTIVATED] else [.ACTIVATED, .ROLLED_BACK, .ROLLBACK_FAILED]
  | .ROLLBACK_IN_PROGRESS => if inMode then [.ROLLED_BACK] else [.ROLLED_BACK, .ROLLBACK_FAILED]
  | st => [st]

/-- `gSupportsFsCheckpoints` and `gInFsCheckpointMode` of the process. -/
def World.flags (w : World) : Flags := ⟨w.supportsFsCheckpoints, w.inFsCheckpointMode⟩

/-- Each stored state has moved to one of those that `f` gives. -/
structure World.Moved (cfg : Config) (f : State → List State) (w w' : World) : Prop where
  inv : SessionsInv cfg w'
  flags : w'.flags = w.flags
  states : ∀ id, Option.Rel (fun st st' => st' ∈ f st) (w.storedState cfg id)
    (w'.storedState cfg id)

/-- A fault model in which the records of the sessions are read and written, and the backup is found
if it is there. -/
structure Faults.SparesRecords (F : Faults) : Prop where
  unreliable : ∀ c w r w', F c w r w' → Sys.Unreliable c w r w'
  writes : ∀ p b w r w', ¬ F (.writeFile p b) w r w'
  backup : ∀ w r w', ¬ F (.stat kApexBackupDir) w r w'

section Flags

variable {w w' : World}

theorem World.OnlyDirs.flags (h : w.OnlyDirs w') : w'.flags = w.flags := by
  rw [h]
  rfl

theorem World.OnlyDevices.flags (h : w.OnlyDevices w') : w'.flags = w.flags := by
  rw [h]
  rfl

theorem World.OnlyMounts.flags (h : w.OnlyMounts w') : w'.flags = w.flags := by
  rw [h]
  rfl

/-- The flags are set when the process starts. -/
theorem flags_kept {c : Sys} {r : c.Res} (h : (kernel .off Sys.Unreliable).sem c w r w') :
    w'.flags = w.flags := by
  rcases h with h | hf
  · cases c with
    | mkdir p m => exact (World.mkdir_onlyDirs h).flags
    | chmod p m => exact (World.chmod_onlyDirs h).flags
    | rmdir p => exact (World.rmdir_onlyDirs h).flags
    | unlink p => exact (World.unlink_onlyDirs h).flags
    | unlinkRetry p => exact (World.unlink_onlyDirs h).flags
    | link s d => exact (World.link_onlyDirs h).flags
    | rename s d => exact (World.rename_onlyDirs h).flags
    | writeFile p b => exact (World.writeFile_onlyDirs h).flags
    | removeAll p =>
      obtain ⟨_, rfl⟩ := h
      exact (w.removeAll_onlyDirs p).flags
    | loopSetFd d t => exact (World.loopSetFd_onlyDevices h).flags
    | loopSetStatus d o z i => exact (World.loopSetStatus_onlyDevices h).flags
    | loopClrFd d => exact (World.loopClrFd_onlyDevices h).flags
    | dmCreate n t =>
      obtain ⟨_, _, h⟩ := h
      exact (World.dmCreate_onlyDevices h).flags
    | dmDelete n => exact (World.dmDelete_onlyDevices h).flags
    | mount b p => exact (World.mount_onlyMounts h).flags
    | bindMount s p => exact (World.bindMount_onlyMounts h).flags
    | umount2 p => exact (World.umount2_onlyMounts h).flags
    | loopGetFree =>
      obtain ⟨_, _, _, rfl⟩ := h
      rfl
    | setDb db =>
      cases h
      rfl
    | startCheckpoint n =>
      cases h
      rfl
    | log m =>
      cases h
      rfl
    | abort m => exact h.elim
    | _ =>
      obtain ⟨_, rfl⟩ := h
      rfl
  · cases c with
    | removeAll p =>
      obtain ⟨_, rfl | ⟨d, d', _, _, rfl⟩⟩ := hf
      · rfl
      · rfl
    | _ => first | exact hf.elim | (obtain ⟨_, rfl⟩ := hf; rfl)

end Flags

/-! ## Moves -/

section Moves

variable {cfg : Config} {w w' w'' : World} {f g : State → List State}

theorem World.Moved.trans (h : w.Moved cfg f w') (h' : w'.Moved cfg g w'') :
    w.Moved cfg (fun st => (f st).flatMap g) w'' where
  inv := h'.inv
  flags := h'.flags.trans h.flags
  states id := by
    have hfirst := h.states id
    have hsecond := h'.states id
    generalize w.storedState cfg id = a, w'.storedState cfg id = b,
      w''.storedState cfg id = c at hfirst hsecond ⊢
    cases hfirst with
    | none =>
      cases hsecond
      exact .none
    | some hm =>
      cases hsecond with
      | some hm' => exact .some (List.mem_flatMap.2 ⟨_, hm, hm'⟩)

theorem World.Moved.mono (h : w.Moved cfg f w') (hfg : ∀ st, ∀ st' ∈ f st, st' ∈ g st) :
    w.Moved cfg g w' where
  inv := h.inv
  flags := h.flags
  states id := by
    have hf := h.states id
    generalize w.storedState cfg id = a, w'.storedState cfg id = b at hf ⊢
    cases hf with
    | none => exact .none
    | some hm => exact .some (hfg _ _ hm)

/-- The states that are final. -/
def State.final : List State := [.SUCCESS, .ACTIVATION_FAILED, .ROLLED_BACK, .ROLLBACK_FAILED]

theorem SessionState.mem_final {t : SessionState} :
    t.state ∈ State.final ↔ t.isFinalized = true := by
  unfold SessionState.isFinalized State.final
  cases t.state <;> simp

/-- The session is the active one, or there is none. -/
def World.Active (cfg : Config) (w : World) : Option SessionState → Prop
  | none => ∀ n t, w.record? cfg n = some t → t.isFinalized = true
  | some s => Stored cfg s w ∧ s.isFinalized = false

/-- All sessions but the active one are final. -/
theorem World.Active.others {s : SessionState} (h : w.Active cfg (some s)) {n : String}
    {t : SessionState}
    (ht : w.record? cfg n = some t) (hn : n ≠ toString s.id) : t.state ∈ State.final := by
  rw [SessionState.mem_final]
  by_contra hf
  exact hn (h.1.1.one n t _ s ht (by simpa using hf) h.1.2 h.2)

theorem World.Active.stays {o : Option SessionState} (h : w.Active cfg o) (hinv : SessionsInv cfg w)
    (hfinal : ∀ st ∈ State.final, st ∈ f st) (hs : ∀ s, o = some s → s.state ∈ f s.state) :
    w.Moved cfg f w where
  inv := hinv
  flags := rfl
  states id := by
    unfold World.storedState
    cases ht : w.record? cfg (toString id) with
    | none => exact .none
    | some t =>
      refine .some ?_
      cases o with
      | none => exact hfinal _ (SessionState.mem_final.2 (h _ t ht))
      | some s =>
        show t.state ∈ f t.state
        by_cases hn : toString id = toString s.id
        · rw [hn, h.1.2] at ht
          cases ht
          exact hs _ rfl
        · exact hfinal _ (h.others ht hn)

/-- Only the active session moves in any way. -/
theorem World.Active.moved {s : SessionState} (h : w.Active cfg (some s)) (hm : w.Moved cfg g w')
    (hfinal : ∀ st ∈ State.final, ∀ st' ∈ g st, st' ∈ f st)
    (hs : ∀ st, w'.storedState cfg s.id = some st → st ∈ f s.state) : w.Moved cfg f w' where
  inv := hm.inv
  flags := hm.flags
  states id := by
    have hstates := hm.states id
    by_cases hid : id = s.id
    · subst hid
      have hold : w.storedState cfg s.id = some s.state := by
        unfold World.storedState
        rw [h.1.2]
        rfl
      rw [hold] at hstates ⊢
      cases hnew : w'.storedState cfg s.id with
      | none =>
        rw [hnew] at hstates
        cases hstates
      | some st => exact .some (hs st hnew)
    · unfold World.storedState at hstates ⊢
      cases ht : w.record? cfg (toString id) with
      | none =>
        rw [ht] at hstates
        cases hu : w'.record? cfg (toString id) with
        | none => exact .none
        | some u =>
          rw [hu] at hstates
          cases hstates
      | some t =>
        have hfin := h.others ht fun hn => hid (toString_int32_inj.1 hn)
        rw [ht] at hstates
        cases hu : w'.record? cfg (toString id) with
        | none =>
          rw [hu] at hstates
          cases hstates
        | some u =>
          rw [hu] at hstates
          cases hstates with
          | some hmem => exact .some (hfinal _ hfin _ hmem)

/-- The record of the active session is replaced. -/
theorem World.Active.commit {s t : SessionState} (h : w.Active cfg (some s)) (hid : t.id = s.id)
    (hr : w.Recorded t.id (cfg.proto.serialize t) w') (hfinal : ∀ st ∈ State.final, st ∈ f st)
    (hst : t.state ∈ f s.state) : w.Moved cfg f w' ∧ Stored cfg t w' := by
  have hinv : SessionsInv cfg w' := by
    refine h.1.1.commit hr fun _ n u hu hf => ?_
    rw [hid]
    exact h.1.1.one n u _ s hu hf h.1.2 h.2
  refine ⟨⟨hinv, hr.onlyDirs.flags, fun id => ?_⟩, hinv, ?_⟩
  · unfold World.storedState
    rw [hr.stored]
    split
    · rename_i hn
      rw [hn, hid, h.1.2]
      exact .some hst
    · rename_i hn
      cases ht : w.record? cfg (toString id) with
      | none => exact .none
      | some u => exact .some (hfinal _ (h.others ht (hid ▸ hn)))
  · rw [hr.stored, if_pos rfl]

end Moves

/-! ## Programs -/

section Programs

variable {cfg : Config} {w w₀ : World} {F : Faults} {f : State → List State}

theorem Faults.SparesRecords.reads (hF : F.SparesRecords) : F.Reads :=
  ⟨fun _ _ _ _ h => hF.unreliable _ _ _ _ h, fun _ _ _ _ h => hF.unreliable _ _ _ _ h⟩

theorem Faults.SparesRecords.sem (hF : F.SparesRecords) {c : Sys} {r : c.Res} {w' : World}
    (h : (kernel .off F).sem c w r w') : (kernel .off Sys.Unreliable).sem c w r w' :=
  h.imp_right (hF.unreliable _ _ _ _)

variable (hF : F.SparesRecords)
include hF

/-- A program that leaves the sessions alone moves none. -/
theorem wp_spared {α : Type} {p : ApexM α} (hinv : SessionsInv cfg w)
    (hp : p.Keeps (changeKernel cfg fun _ _ => True) (Untouched cfg w)) :
    wp (kernel .off F) (fun _ => True) p (fun _ w' => w.Moved cfg (fun st => [st]) w' ∧
      ∀ o, w.Active cfg o → w'.Active cfg o) w := by
  have huntouched : wp (kernel .off F) (Untouched cfg w) p (fun _ _ => True) w :=
    wp.comap (f := id) (hp w hinv.untouched) (fun c _ _ => by cases c <;> trivial)
      fun _ _ _ _ hs => hF.sem hs
  have hflags : wp (kernel .off F) (fun w' => w'.flags = w.flags) p (fun _ _ => True) w :=
    (uses_all p).keeps (fun c _ _ _ => by cases c <;> trivial)
      (fun _ _ _ _ _ h hs => (flags_kept (hF.sem hs)).trans h) w rfl
  refine (huntouched.and hflags).mono (fun _ _ => trivial) ?_
  rintro x w' ⟨⟨hinv', hsame⟩, hw⟩ -
  refine ⟨⟨hinv', hw, fun id => ?_⟩, fun o h => ?_⟩
  · unfold World.storedState
    rw [hsame.record]
    cases w.record? cfg (toString id) with
    | none => exact .none
    | some t => exact .some List.mem_cons_self
  · cases o with
    | none => exact fun n t ht => h n t (hsame.record n ▸ ht)
    | some s => exact ⟨⟨hinv', (hsame.record _).trans h.1.2⟩, h.2⟩

omit hF in
theorem SessionsInv.exists_active (h : SessionsInv cfg w) : ∃ o, w.Active cfg o := by
  by_cases hex : ∃ n t, w.record? cfg n = some t ∧ t.isFinalized = false
  · obtain ⟨n, t, ht, hf⟩ := hex
    exact ⟨some t, h.stored ht, hf⟩
  · refine ⟨none, fun n t ht => ?_⟩
    by_contra hf
    exact hex ⟨n, t, ht, by simpa using hf⟩

/-- The active session is found. -/
theorem wp_getActiveSession_active (h : SessionsInv cfg w) :
    wp (kernel .off F) (fun _ => True) (getActiveSession cfg)
      (fun x w' => w' = w ∧ ∃ o, x = .ok o ∧ w.Active cfg o) w := by
  refine wp_getActiveSession hF.reads h.mounted trivial fun x _ hsome hnone => ⟨rfl, ?_⟩
  obtain ⟨o, ho⟩ := h.exists_active
  cases o with
  | none => exact ⟨none, hnone fun m t _ ht => ho m t ht, ho⟩
  | some s =>
    refine ⟨some s, hsome _ s (h.listed ho.1.2) ho.1.2 ho.2 fun m u _ hu hg => ?_, ho⟩
    exact h.one m u _ s hu hg ho.1.2 ho.2

/-- A commit over the record of the active session. -/
theorem wp_updateStateAndCommit_active {s t : SessionState} {st : State} (h : w.Active cfg (some s))
    (hid : t.id = s.id) (hfinal : ∀ st ∈ State.final, st ∈ f st) (hst : st ∈ f s.state) :
    wp (kernel .off F) (fun _ => True) (updateStateAndCommit cfg t st)
      (fun x w' => x = .ok () ∧ w.Moved cfg f w' ∧ Stored cfg { t with state := st } w') w := by
  unfold updateStateAndCommit
  rw [bind_eq, exec_bind]
  refine ⟨trivial, trivial, fun r w' hs => ?_⟩
  have hw := hs.resolve_right (hF.writes _ _ _ _ _)
  have hold : w.record? cfg (toString t.id) = some s := hid ▸ h.1.2
  obtain ⟨rfl, hr⟩ := World.writeFile_record hw hold
  exact ⟨trivial, rfl, h.commit (t := { t with state := st }) hid hr hfinal hst⟩

theorem wp_commitOrLog_active {s t : SessionState} {st : State} (h : w.Active cfg (some s))
    (hid : t.id = s.id) (hfinal : ∀ st ∈ State.final, st ∈ f st) (hst : st ∈ f s.state) :
    wp (kernel .off F) (fun _ => True) (commitOrLog cfg t st)
      (fun x w' => x = .ok () ∧ w.Moved cfg f w' ∧ Stored cfg { t with state := st } w') w := by
  refine wp_bind.2 (wp_attempt.2 ((wp_updateStateAndCommit_active hF h hid hfinal hst).imp ?_))
  rintro _ w' _ ⟨rfl, hw⟩
  exact ⟨trivial, rfl, hw⟩

omit hF in
theorem State.final_move {before after : State} (hb : before ∉ State.final) :
    ∀ st ∈ State.final, st ∈ State.move before after st := by
  intro st hst
  unfold State.move
  rw [if_neg fun he : st = before => hb (he ▸ hst)]
  exact List.mem_cons_self

omit hF in
theorem State.move_self {before after : State} : after ∈ State.move before after before := by
  unfold State.move
  rw [if_pos rfl]
  exact List.mem_cons_self

omit hF in
theorem State.move_other {before after st : State} (h : st ≠ before) :
    st ∈ State.move before after st := by
  unfold State.move
  rw [if_neg h]
  exact List.mem_cons_self

theorem wp_rollbackStagedSessionIfAny_moved (h : SessionsInv cfg w) :
    wp (kernel .off F) (fun _ => True) (rollbackStagedSessionIfAny cfg)
      (fun _ w' => w.Moved cfg (State.move .STAGED .ROLLED_BACK) w') w := by
  have hfinal : ∀ st ∈ State.final, st ∈ State.move .STAGED .ROLLED_BACK st :=
    State.final_move (by decide)
  refine wp_bind.2 ((wp_getActiveSession_active hF h).imp ?_)
  rintro _ _ _ ⟨rfl, o, rfl, ho⟩
  cases o with
  | none => exact ⟨trivial, ho.stays h hfinal nofun⟩
  | some s =>
    unfold Then
    dsimp only
    split
    · rename_i hst
      exact (wp_updateStateAndCommit_active hF ho rfl hfinal (hst ▸ State.move_self)).imp
        fun _ _ _ hx => hx.2.1
    · rename_i hst
      refine ⟨trivial, ho.stays h hfinal ?_⟩
      rintro _ ⟨⟩
      exact State.move_other hst

/-- The staged session is found. -/
theorem wp_getSessionsInState_staged (h : SessionsInv cfg w) :
    wp (kernel .off F) (fun _ => True) (getSessionsInState cfg .STAGED) (fun x w' => w' = w ∧
      ((x = .ok [] ∧ ∃ o, w.Active cfg o ∧ ∀ s, o = some s → s.state ≠ .STAGED) ∨
        ∃ s, x = .ok [s] ∧ w.Active cfg (some s) ∧ s.state = .STAGED)) w := by
  refine wp_bind.2 (wp_getSessions hF.reads h.mounted trivial fun names hnames =>
    ⟨trivial, rfl, ?_⟩)
  rw [List.filter_filterMap]
  have hstaged : ∀ n s, w.record? cfg n = some s → s.state = .STAGED → w.Active cfg (some s) := by
    intro n s hs hst
    refine ⟨h.stored hs, ?_⟩
    unfold SessionState.isFinalized
    rw [hst]
  obtain ⟨o, ho⟩ := h.exists_active
  by_cases hex : ∃ s, o = some s ∧ s.state = .STAGED
  · obtain ⟨s, rfl, hst⟩ := hex
    refine Or.inr ⟨s, ?_, ho, hst⟩
    rw [filterMap_eq_singleton (hnames.nodup_iff.2 w.sessionNames_nodup)
      (hnames.mem_iff.2 (h.listed ho.1.2)) (Option.filter_eq_some_iff.2 ⟨ho.1.2, by simp [hst]⟩)]
    intro m hm hne
    obtain ⟨t, ht⟩ := Option.ne_none_iff_exists'.1 hne
    obtain ⟨ht, hf⟩ := Option.filter_eq_some_iff.1 ht
    exact h.one m t _ s ht (hstaged m t ht (by simpa using hf)).2 ho.1.2 ho.2
  · refine Or.inl ⟨?_, o, ho, fun s hs hst => hex ⟨s, hs, hst⟩⟩
    rw [List.filterMap_eq_nil_iff.2]
    intro m hm
    rw [Option.filter_eq_none_iff]
    intro t ht hst
    have hst : t.state = .STAGED := by simpa using hst
    have hactive := hstaged m t ht hst
    cases o with
    | none =>
      have := ho m t ht
      rw [hactive.2] at this
      cases this
    | some s =>
      have hm := h.one m t _ s ht hactive.2 ho.1.2 ho.2
      rw [hm, ho.1.2] at ht
      cases ht
      exact hex ⟨_, rfl, hst⟩

omit hF in
/-- What leaves the sessions alone comes before the rest. -/
theorem World.Moved.after {α : Type} {p : ApexM α} {w' : World}
    (h : w.Moved cfg (fun st => [st]) w')
    (hp : wp (kernel .off F) (fun _ => True) p (fun _ w'' => w'.Moved cfg f w'') w') :
    wp (kernel .off F) (fun _ => True) p (fun _ w'' => w.Moved cfg f w'') w' :=
  hp.imp fun _ _ _ hf => (h.trans hf).mono fun st st' hst => by simpa using hst

theorem wp_scanStagedSessionsDirAndStage_moved (h : SessionsInv cfg w) :
    wp (kernel .off F) (fun _ => True) (scanStagedSessionsDirAndStage cfg)
      (fun _ w' => w.Moved cfg State.scanned w') w := by
  refine wp_bind.2 ((wp_getSessionsInState_staged hF h).imp ?_)
  rintro _ w₁ _ ⟨rfl, ⟨rfl, o, ho, hst⟩ | ⟨s, rfl, ho, hst⟩⟩
  · refine ⟨trivial, ho.stays h (by decide) fun s hs => ?_⟩
    have hne := hst s hs
    cases hs' : s.state <;> simp_all [State.scanned]
  · have hcommit : ∀ w₂ st, w₂.Active cfg (some s) → st ∈ s.state.scanned →
        wp (kernel .off F) (fun _ => True) (commitOrLog cfg s st)
            (fun _ w' => w₂.Moved cfg State.scanned w') w₂ :=
      fun w₂ st ho₂ hst => (wp_commitOrLog_active hF ho₂ rfl (by decide) hst).imp
        fun _ _ _ hx => hx.2.1
    have hstage : wp (kernel .off F) (fun _ => True) (activateStagedSession cfg s)
        (fun _ w' => w₁.Moved cfg State.scanned w') w₁ := by
      refine wp_bind.2 (wp_attempt.2 ((wp_spared hF h (keeps_stageSession s)).imp ?_))
      rintro (e | _) w₂ _ ⟨hmoved, hkeeps⟩
      · exact hmoved.after (hcommit w₂ _ (hkeeps _ ho) (by rw [hst]; decide))
      · exact hmoved.after (hcommit w₂ _ (hkeeps _ ho) (by rw [hst]; decide))
    refine wp_bind.2 (hstage.imp ?_)
    rintro (e | _) w₂ _ hw
    · exact hw
    · exact ⟨trivial, hw⟩

/-- `DoRollback` of a session whose rollback has begun: it leaves the record alone, or says that it
failed. -/
theorem wp_doRollback_moved {s t : SessionState} (ho : w.Active cfg (some s)) (hid : t.id = s.id)
    (hst : s.state = .ROLLBACK_IN_PROGRESS) :
    wp (kernel .off F) (fun _ => True) (doRollback cfg t) (fun x w' =>
      (x = .ok () → w.Moved cfg (fun st => [st]) w' ∧ w'.Active cfg (some s)) ∧
      ((∃ e, x = .error e) → w.inFsCheckpointMode = false ∧
        w.Moved cfg (State.move .ROLLBACK_IN_PROGRESS .ROLLBACK_FAILED) w')) w := by
  refine ⟨trivial, trivial, ?_⟩
  rintro _ w₁ (⟨rfl, rfl⟩ | hf)
  case inr => exact (hF.unreliable _ _ _ _ hf).1.elim
  show wp _ _ (if w₁.inFsCheckpointMode then _ else _) _ _
  split
  · refine ⟨trivial, fun _ => ⟨?_, ho⟩, fun ⟨e, he⟩ => by cases he⟩
    exact ho.stays ho.1.1 (by decide) (by simp)
  · rename_i hmode
    refine wp_onFail.2 ((wp_spared hF ho.1.1 keeps_restoreBackup).imp ?_)
    rintro (e | _) w₂ _ ⟨hmoved, hkeeps⟩
    · refine (hmoved.after ((wp_updateStateAndCommit_active hF (hkeeps _ ho) hid
        (State.final_move (by decide))
        (hst ▸ State.move_self)).imp fun _ _ _ hx => hx.2.1)).imp fun x w₃ _ hw =>
          ⟨?_, fun _ => ⟨?_, hw⟩⟩
      · exact nofun
      · simpa using hmode
    · exact ⟨fun _ => ⟨hmoved, hkeeps _ ho⟩, fun ⟨e, he⟩ => by cases he⟩

theorem wp_pathExists_backup :
    wp (kernel .off F) (fun _ => True) (pathExists kApexBackupDir)
      (fun x w' => w' = w ∧ ∃ b, x = .ok b) w := by
  refine ⟨trivial, trivial, ?_⟩
  rintro r w₁ (⟨rfl, rfl⟩ | hf)
  case inr => exact (hF.backup _ _ _ hf).elim
  cases hs : w₁.stat kApexBackupDir with
  | ok st => exact ⟨trivial, rfl, true, rfl⟩
  | error e =>
    unfold World.stat at hs
    split at hs <;> cases hs
    exact ⟨trivial, rfl, false, rfl⟩

theorem wp_resumeRollbackIfNeeded_moved (h : SessionsInv cfg w) :
    wp (kernel .off F) (fun _ => True) (resumeRollbackIfNeeded cfg)
      (fun _ w' => w.Moved cfg (State.resumed w.inFsCheckpointMode) w') w := by
  have hfinal : ∀ b, ∀ st ∈ State.final, st ∈ State.resumed b st := by decide
  refine wp_bind.2 ((wp_getActiveSession_active hF h).imp ?_)
  rintro _ w₁ _ ⟨rfl, o, rfl, ho⟩
  cases o with
  | none => exact ⟨trivial, ho.stays h (hfinal _) nofun⟩
  | some s =>
    unfold Then
    dsimp only
    split
    · rename_i hst
      have hback : State.ROLLED_BACK ∈ State.resumed w₁.inFsCheckpointMode s.state := by
        rw [hst]
        cases w₁.inFsCheckpointMode <;> decide
      have hcommit : ∀ w₂, w₁.Moved cfg (fun st => [st]) w₂ → w₂.Active cfg (some s) →
          wp (kernel .off F) (fun _ => True) (commitOrLog cfg s .ROLLED_BACK)
            (fun _ w' => w₁.Moved cfg (State.resumed w₁.inFsCheckpointMode) w') w₂ :=
        fun w₂ hmoved ho₂ => hmoved.after
          ((wp_commitOrLog_active hF ho₂ rfl (hfinal _) hback).imp fun _ _ _ hx => hx.2.1)
      refine wp_bind.2 ((wp_pathExists_backup hF).imp ?_)
      rintro _ w₂ _ ⟨rfl, b, rfl⟩
      cases b with
      | false => exact hcommit w₂ (ho.stays h (by decide) (by simp)) ho
      | true =>
        refine wp_bind.2 ((wp_doRollback_moved hF ho rfl hst).imp ?_)
        rintro (e | _) w₃ _ ⟨hok, hfail⟩
        · obtain ⟨hmode, hmoved⟩ := hfail ⟨e, rfl⟩
          rw [hmode]
          refine hmoved.mono fun st st' hst' => ?_
          unfold State.move at hst'
          split at hst'
          · rename_i he
            rw [he, List.mem_singleton.1 hst']
            decide
          · rename_i hne
            rw [List.mem_singleton.1 hst']
            cases st <;> simp_all [State.resumed]
        · exact hcommit w₃ (hok rfl).1 (hok rfl).2
    · rename_i hst
      refine ⟨trivial, ho.stays h (hfinal _) ?_⟩
      rintro _ ⟨⟩
      cases hs : s.state <;> simp_all [State.resumed]

omit hF in
/-- What was committed is what is stored. -/
theorem Stored.storedState {s : SessionState} (h : Stored cfg s w) :
    w.storedState cfg s.id = some s.state := by
  unfold World.storedState
  rw [h.2]
  rfl

theorem wp_rollbackActivatedSession_moved {s : SessionState} (ho : w.Active cfg (some s))
    (hst : s.state = .ACTIVATED) :
    wp (kernel .off F) (fun _ => True) (rollbackActivatedSession cfg s) (fun x w' =>
      w.Moved cfg (State.rolledBack w.inFsCheckpointMode) w' ∧
      (x = .ok () → ∃ s, w.Active cfg (some s) ∧ (w'.storedState cfg s.id = some .ROLLED_BACK ∨
        s.state = .ROLLBACK_IN_PROGRESS ∨ w.inFsCheckpointMode = true))) w := by
  refine ⟨trivial, trivial, ?_⟩
  rintro _ w₁ (⟨rfl, rfl⟩ | hf)
  case inr => exact (hF.unreliable _ _ _ _ hf).1.elim
  show wp _ _ (if w₁.inFsCheckpointMode then _ else _) _ _
  split
  · rename_i hmode
    refine ⟨trivial, ho.stays ho.1.1 (by rw [hmode]; decide) ?_,
      fun _ => ⟨s, ho, Or.inr (Or.inr hmode)⟩⟩
    rintro _ ⟨⟩
    rw [hst, hmode]
    decide
  · rename_i hmode
    have hmode : w₁.inFsCheckpointMode = false := by simpa using hmode
    rw [hmode]
    have hbegin : State.ROLLBACK_IN_PROGRESS ∈ State.move .ACTIVATED
        .ROLLBACK_IN_PROGRESS s.state := by
      rw [hst]
      exact State.move_self
    refine wp_bind.2 (wp_mapErr.2
      ((wp_updateStateAndCommit_active hF ho rfl (State.final_move (by decide)) hbegin).imp ?_))
    rintro _ w₂ _ ⟨rfl, hbegun, hs₂⟩
    have ho₂ : w₂.Active cfg (some { s with state := .ROLLBACK_IN_PROGRESS }) := ⟨hs₂, rfl⟩
    refine wp_bind.2 (wp_mapErr.2 ((wp_doRollback_moved hF ho₂ rfl rfl).imp ?_))
    rintro (e | _) w₃ _ ⟨hok, hfail⟩
    · obtain ⟨_, hmoved⟩ := hfail ⟨e, rfl⟩
      refine ⟨ho.moved (hbegun.trans hmoved) (by decide) fun st hst' => ?_, nofun⟩
      have hfailed := hmoved.states s.id
      rw [hs₂.storedState, hst'] at hfailed
      cases hfailed with
      | some hm =>
        rw [List.mem_singleton.1 hm, hst]
        decide
    · obtain ⟨hmoved, ho₃⟩ := hok rfl
      refine (wp_commitOrLog_active (f := State.move .ROLLBACK_IN_PROGRESS .ROLLED_BACK) hF ho₃ rfl
        (State.final_move (by decide)) State.move_self).imp ?_
      rintro _ w₄ _ ⟨rfl, hback, hs₄⟩
      have hstored : w₄.storedState cfg s.id = some .ROLLED_BACK := hs₄.storedState
      refine ⟨ho.moved ((hbegun.trans hmoved).trans hback) (by decide) fun st hst' => ?_,
        fun _ => ⟨s, ho, Or.inl hstored⟩⟩
      rw [hstored] at hst'
      cases hst'
      rw [hst]
      decide

/-- `RollbackSession` succeeds only if the session is rolled back or a rollback is left to a
reboot. -/
theorem wp_rollbackActiveSession_moved (h : SessionsInv cfg w) :
    wp (kernel .off F) (fun _ => True) (rollbackActiveSession cfg) (fun x w' =>
      w.Moved cfg (State.rolledBack w.inFsCheckpointMode) w' ∧
      (x = .ok () → ∃ s, w.Active cfg (some s) ∧ (w'.storedState cfg s.id = some .ROLLED_BACK ∨
        s.state = .ROLLBACK_IN_PROGRESS ∨ w.inFsCheckpointMode = true))) w := by
  have hfinal : ∀ b, ∀ st ∈ State.final, st ∈ State.rolledBack b st := by decide
  refine wp_bind.2 (wp_mapErr.2 ((wp_getActiveSession_active hF h).imp ?_))
  rintro _ w₁ _ ⟨rfl, o, rfl, ho⟩
  cases o with
  | none => exact ⟨trivial, ho.stays h (hfinal _) nofun, nofun⟩
  | some s =>
    have hstays : s.state ∈ State.rolledBack w₁.inFsCheckpointMode s.state →
        w₁.Moved cfg (State.rolledBack w₁.inFsCheckpointMode) w₁ := by
      intro hs
      refine ho.stays h (hfinal _) ?_
      rintro _ ⟨⟩
      exact hs
    show wp _ _ (rollbackSession cfg s) _ w₁
    unfold rollbackSession
    split
    · rename_i hst
      exact ⟨trivial, hstays (by rw [hst]; exact List.mem_cons_self),
        fun _ => ⟨s, ho, Or.inr (Or.inl hst)⟩⟩
    · rename_i hst
      have hf := ho.2
      unfold SessionState.isFinalized at hf
      rw [hst] at hf
      cases hf
    · rename_i hst
      have hback : State.ROLLED_BACK ∈ State.rolledBack w₁.inFsCheckpointMode s.state := by
        rw [hst]
        exact List.mem_cons_self
      refine (wp_updateStateAndCommit_active hF ho rfl (hfinal _) hback).imp ?_
      rintro _ w₂ _ ⟨rfl, hmoved, hs⟩
      exact ⟨hmoved, fun _ => ⟨s, ho, Or.inl hs.storedState⟩⟩
    · rename_i hst
      exact wp_rollbackActivatedSession_moved hF ho hst
    · rename_i hne₁ hne₂ hne₃ hne₄
      refine ⟨trivial, hstays ?_, nofun⟩
      cases hs : s.state <;> simp_all [State.rolledBack]

omit hF in
theorem total_logged (p : ApexM Unit) :
    (logged p).Total := total_bind (total_attempt p) fun _ => trivial

omit hF in
theorem total_addMountedApex (package : String) (latest : Bool) (data : MountedApexData) :
    (addMountedApex package latest data).Total := by
  refine total_exec_bind fun db => ?_
  cases db.addMountedApex package latest data with
  | none => exact fun r => r.elim
  | some db' => exact fun _ => trivial

omit hF in
theorem total_setLatest (package path : String) : (setLatest package path).Total := by
  refine total_exec_bind fun db => ?_
  cases db.setLatest package path with
  | none => exact fun r => r.elim
  | some db' => exact fun _ => trivial

omit hF in
theorem total_scanFlattenedPackages : scanFlattenedPackages.Total := by
  refine total_foldlM _ fun map dir _ => total_bind (total_attempt _) fun x => ?_
  cases x with
  | error e => trivial
  | ok paths =>
    refine total_foldlM _ fun map path _ => total_exec_bind fun b => ?_
    split
    · refine total_exec_bind fun r => ?_
      cases r <;> trivial
    · trivial

omit hF in
theorem total_populateFromMounts : populateFromMounts.Total := by
  refine total_bind total_scanFlattenedPackages fun map => total_exec_bind fun lines =>
    total_bind (total_foldlM _ fun active line _ => ?_) fun _ => trivial
  unfold populateStep
  dsimp only
  generalize (decide (_ ≠ kApexRoot) || isActiveMountPoint _) = b
  cases b with
  | true => trivial
  | false =>
    refine total_bind (total_attempt _) fun x => ?_
    cases x with
    | error e => trivial
    | ok data =>
      generalize parseMountPoint _ = x
      refine total_bind (total_addMountedApex _ _ _) fun _ => ?_
      split
      · exact total_bind (total_setLatest _ _) fun _ => trivial
      · trivial

omit hF in
theorem total_scanStagedSessionsDirAndStage : (scanStagedSessionsDirAndStage cfg).Total := by
  have hcommit : ∀ (s : SessionState) (st : State), (commitOrLog cfg s st).Total := fun s st =>
    total_bind (total_attempt _) fun _ => trivial
  have hsessions : (getSessions cfg).Total := by
    refine total_bind (total_attempt _) fun x => ?_
    cases x with
    | error e => trivial
    | ok paths =>
      refine total_foldlM _ fun acc path _ => total_bind (total_attempt _) fun x => ?_
      cases x <;> trivial
  refine total_bind (total_bind hsessions fun _ => trivial) fun l => total_forM _ fun s _ => ?_
  refine total_bind (total_attempt _) fun x => ?_
  cases x with
  | error e => exact hcommit s _
  | ok _ => exact hcommit s _

omit hF in
/-- The rule for a step of `onStart`, which does not fail. -/
theorem World.Moved.wp_bind {p q : ApexM Unit} {w₀ : World} {g : State → List State}
    {Q : Except String Unit → World → Prop}
    (h : w₀.Moved cfg f w) (hp : wp (kernel .off F) (fun _ => True) p (fun _ w' => w.Moved cfg g w')
      w) (ht : p.Total)
    (hq : ∀ w', w₀.Moved cfg (fun st => (f st).flatMap g) w' →
      wp (kernel .off F) (fun _ => True) q Q w') :
    wp (kernel .off F) (fun _ => True) (p.bind fun _ => q) Q w := by
  refine Prog.wp_bind.2 ((hp.total ht).imp ?_)
  rintro _ w' _ ⟨hg, _, rfl⟩
  exact hq w' (h.trans hg)

omit hF in
theorem wp_logged_moved {p : ApexM Unit}
    (h : wp (kernel .off F) (fun _ => True) p (fun _ w' => w.Moved cfg f w') w) :
    wp (kernel .off F) (fun _ => True) (logged p) (fun _ w' => w.Moved cfg f w') w :=
  wp_bind.2 (wp_attempt.2 (h.imp fun _ _ _ hw => ⟨trivial, hw⟩))

theorem wp_onStart_moved (h : SessionsInv cfg w) {replies : StartReplies}
    (hk : replies.keysCollected = true) :
    wp (kernel .off F) (fun _ => True) (onStart cfg replies) (fun x w' => x = .ok () ∧
      w.Moved cfg (State.started (w.supportsFsCheckpoints && replies.needsRollback)
        w.inFsCheckpointMode) w') w := by
  have hscan : ∀ (dir : String) (w₁ : World), SessionsInv cfg w₁ →
      wp (kernel .off F) (fun _ => True) (scanPackagesDirAndActivate cfg dir)
        (fun _ w' => w₁.Moved cfg (fun st => [st]) w') w₁ := fun dir w₁ h₁ =>
    (wp_spared hF h₁ (keeps_untouched (uses_scanPackagesDirAndActivate dir))).imp
      fun _ _ _ hx => hx.1
  have hstay : w.Moved cfg (fun st => [st]) w := h.exists_active.choose_spec.stays h
    (by decide) (by simp)
  unfold onStart
  rw [bind_eq, exec_bind]
  refine ⟨trivial, trivial, ?_⟩
  rintro _ w₁ (⟨rfl, rfl⟩ | hf)
  case inr => exact (hF.unreliable _ _ _ _ hf).1.elim
  dsimp only
  rw [if_pos hk]
  -- vold asks for a rollback
  have hrequest : wp (kernel .off F) (fun _ => True)
      (when (w₁.supportsFsCheckpoints && replies.needsRollback)
        (logged (rollbackStagedSessionIfAny cfg)))
      (fun _ w' => w₁.Moved cfg (if w₁.supportsFsCheckpoints && replies.needsRollback then
        State.move .STAGED .ROLLED_BACK else fun st => [st]) w') w₁ := by
    refine wp_when (fun hb => ?_) fun hb => ?_
    · rw [if_pos hb]
      exact wp_logged_moved (wp_rollbackStagedSessionIfAny_moved hF h)
    · rw [hb]
      exact ⟨trivial, hstay⟩
  refine hstay.wp_bind hrequest (total_when (total_logged _)) fun w₂ h₂ => ?_
  refine h₂.wp_bind ((wp_spared hF h₂.inv (keeps_untouched (uses_populateFromMounts.mono fun _ =>
    PopulateCmd.sparesSessions))).imp fun _ _ _ hx => hx.1) total_populateFromMounts fun w₃ h₃ => ?_
  refine h₃.wp_bind (wp_scanStagedSessionsDirAndStage_moved hF h₃.inv)
    total_scanStagedSessionsDirAndStage fun w₄ h₄ => ?_
  refine h₄.wp_bind (wp_logged_moved (wp_resumeRollbackIfNeeded_moved hF h₄.inv)) (total_logged _)
    fun w₅ h₅ => ?_
  have hrest : ∀ w₆, SessionsInv cfg w₆ → wp (kernel .off F) (fun _ => True)
      (kApexPackageBuiltinDirs.forM fun dir => logged (scanPackagesDirAndActivate cfg dir))
      (fun x w' => x = .ok () ∧ w₆.Moved cfg (fun st => [st]) w') w₆ := by
    intro w₆ h₆
    have hkeeps : (kApexPackageBuiltinDirs.forM fun dir => logged
      (scanPackagesDirAndActivate cfg dir)).Keeps
        (changeKernel cfg fun _ _ => True) (Untouched cfg w₆) := keeps_forM _ fun dir _ =>
      keeps_bind (keeps_attempt (keeps_untouched (uses_scanPackagesDirAndActivate dir)))
        fun _ => keeps_ret ()
    refine ((wp_spared hF h₆ hkeeps).total (total_forM _ fun dir _ => total_logged _)).imp ?_
    rintro _ w' _ ⟨⟨hw, _⟩, _, rfl⟩
    exact ⟨rfl, hw⟩
  have hmode : ∀ {f w'}, w₁.Moved cfg f w' → w'.inFsCheckpointMode = w₁.inFsCheckpointMode :=
      fun h =>
    congrArg Flags.inFsCheckpointMode h.flags
  rw [hmode h₄] at h₅
  refine Prog.wp_bind.2 (wp_attempt.2 ((hscan _ w₅ h₅.inv).imp ?_))
  rintro (e | _) w₆ _ hscanned
  · have h₆ := h₅.trans hscanned
    refine h₆.wp_bind (wp_logged_moved
      ((wp_rollbackActiveSession_moved hF h₆.inv).imp fun _ _ _ hx => hx.1))
      (total_logged _) fun w₇ h₇ => (hrest w₇ h₇.inv).imp fun x w₈ _ hx => ⟨hx.1, ?_⟩
    rw [hmode h₆] at h₇
    refine (h₇.trans hx.2).mono ?_
    generalize w₁.inFsCheckpointMode = inMode,
      (w₁.supportsFsCheckpoints && replies.needsRollback) = requested
    cases inMode <;> cases requested <;> intro st <;> cases st <;> decide
  · have h₆ := h₅.trans hscanned
    refine (hrest w₆ h₆.inv).imp fun x w₇ _ hx => ⟨hx.1, (h₆.trans hx.2).mono ?_⟩
    generalize w₁.inFsCheckpointMode = inMode,
      (w₁.supportsFsCheckpoints && replies.needsRollback) = requested
    cases inMode <;> cases requested <;> intro st <;> cases st <;> decide

end Programs

/-! ## Starts -/

section Starts

variable {cfg : Config} {w₀ w w' : World} {F : Faults} {st : State} {requested inMode : Bool}

theorem SessionsInv.restart (h : SessionsInv cfg w) (hr : w.Restart w') : SessionsInv cfg w' := by
  obtain ⟨supports, inMode, rfl⟩ := hr
  exact ⟨h.unmounted, h.tree, h.own, h.one⟩

theorem World.Restart.storedState (hr : w.Restart w') (id : Int32) :
    w'.storedState cfg id = w.storedState cfg id := by
  obtain ⟨supports, inMode, rfl⟩ := hr
  rfl

theorem State.started_settled {st' : State} (h : st' ∈ State.started requested inMode st) :
    st' ≠ .STAGED ∧ st' ≠ .ROLLBACK_IN_PROGRESS := by
  revert st'
  cases requested <;> cases inMode <;> cases st <;> decide

/-- **A start settles the sessions**: after any requests and deaths a start whose keys can be
collected, and whose records can be read and written, ends without an error, moves each session as
its state allows, whatever else is refused, and leaves none that is staged or whose rollback is not
over. -/
theorem start_settles (hF : F.SparesRecords) (h0 : w₀.NoSessions) {up : Bool}
    {s : World × (Int32 → List State)}
    (h : (sessionRequests cfg).Runs (fun _ => True) (w₀, fun _ => []) up s) (hr : s.1.Restart w)
    {replies : StartReplies} (hk : replies.keysCollected = true) {x : Except String Unit}
    (he : Ends (kernel .off F) (onStart cfg replies) w x w') :
    x = .ok () ∧ (∀ id, Option.Rel
      (fun st st' => st' ∈ State.started (w.supportsFsCheckpoints && replies.needsRollback)
        w.inFsCheckpointMode st)
      (s.1.storedState cfg id) (w'.storedState cfg id)) ∧
      ∀ id, w'.storedState cfg id ≠ some .STAGED ∧
        w'.storedState cfg id ≠ some .ROLLBACK_IN_PROGRESS := by
  obtain ⟨hx, hmoved⟩ := (wp_onStart_moved hF ((sessionRequests_inv h0 h).1.restart hr) hk).ends he
  have hstates : ∀ id, Option.Rel
      (fun st st' => st' ∈ State.started (w.supportsFsCheckpoints && replies.needsRollback)
        w.inFsCheckpointMode st)
      (s.1.storedState cfg id) (w'.storedState cfg id) := fun id =>
        hr.storedState id ▸ hmoved.states id
  refine ⟨hx, hstates, fun id => ?_⟩
  have hid := hstates id
  cases hnew : w'.storedState cfg id with
  | none => exact ⟨nofun, nofun⟩
  | some st' =>
    rw [hnew] at hid
    generalize s.1.storedState cfg id = old at hid
    cases hid with
    | some hm => exact ⟨fun he => (State.started_settled hm).1 (Option.some.inj he),
        fun he => (State.started_settled hm).2 (Option.some.inj he)⟩

end Starts

/-! ## A session that is ready -/

theorem Sys.NoFault.sparesRecords : Faults.SparesRecords Sys.NoFault :=
  ⟨fun _ _ _ _ h => h.elim, fun _ _ _ _ _ h => h, fun _ _ _ h => h⟩

/-- Session 5 is submitted and made ready. -/
def readyFive : World × (Int32 → List State) := serveAll [.submit 5 [], .markReady 5]
    (submissionWorld, fun _ => [])

theorem readyFive_runs : (sessionRequests deviceConfig).Runs (fun _ => True)
    (submissionWorld, fun _ => []) true readyFive := by
  refine serveAll_runs _ ?_ (by decide)
  exact Service.Runs.booted (x := .ok ()) .off ⟨⟨false, false, rfl⟩, rfl⟩ (.here _ _) trivial

/-- The process is started again. -/
def restartedFive : World := { readyFive.1 with db := [] }

theorem start_settles_five : ∃ w,
    Ends (kernel .off Sys.NoFault) (onStart deviceConfig ⟨false, true⟩) restartedFive (.ok ()) w ∧
      readyFive.1.storedState deviceConfig 5 = some .STAGED ∧
        w.storedState deviceConfig 5 = some .ACTIVATED ∧
      ∀ id, w.storedState deviceConfig id ≠ some .STAGED ∧
        w.storedState deviceConfig id ≠ some .ROLLBACK_IN_PROGRESS := by
  have hrun : (runN Sys.run 400 (onStart deviceConfig ⟨false, true⟩) restartedFive).1.result? =
    some (.ok ()) ∧
      (runN Sys.run 400 (onStart deviceConfig ⟨false, true⟩) restartedFive).2.storedState
        deviceConfig 5 = some .ACTIVATED := by
    decide
  obtain ⟨hstart, hactivated⟩ := hrun
  have he : Ends (kernel .off Sys.NoFault) (onStart deviceConfig ⟨false, true⟩) restartedFive _ _ :=
    runN_ends Sys.run_sem hstart
  obtain ⟨_, _, hsettled⟩ := start_settles Sys.NoFault.sparesRecords submissionWorld_noSessions
    readyFive_runs ⟨_, _, rfl⟩ rfl he
  exact ⟨_, he, by decide, hactivated, hsettled⟩

end Apexd
