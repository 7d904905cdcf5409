import Apexd.ApexKey
import Apexd.Binder
import Apexd.StartSettles

/-!
# What the programs of apexd make of the sessions

* `World.Quiet` — all sessions are over; `World.NoneUnderway` — no rollback has begun and is not
  over.
* `Serves` — what a program keeps of both, at every moment and at its end, where the records can be
  read and written and everything else may be refused.
* `Serves.binderCall` — the calls of the binder; only a submission brings a session that is not
  over.
-/

set_option autoImplicit false

namespace Apexd

open Text Prog

/-- All sessions are over. -/
def World.Quiet (cfg : Config) (w : World) : Prop :=
  ∀ id st, w.storedState cfg id = some st → st ∈ State.final

/-- No rollback is between its begin and its end. -/
def World.NoneUnderway (cfg : Config) (w : World) : Prop :=
  ∀ id, w.storedState cfg id ≠ some .ROLLBACK_IN_PROGRESS

/-- A program keeps the sessions; only if it `submits` there may be one that is not over where there
was none. -/
def Serves (cfg : Config) (F : Faults) (submits : Bool) {α : Type} (p : ApexM α) : Prop :=
  ∀ w, SessionsInv cfg w → wp (kernel .off F)
    (fun w' => SessionsInv cfg w' ∧ w'.flags = w.flags ∧
      (submits = false → w.Quiet cfg → w'.Quiet cfg)) p
    (fun _ w' => w.NoneUnderway cfg → w'.NoneUnderway cfg) w

section Worlds

variable {cfg : Config} {w w' : World} {f : State → List State}

theorem World.SameSessions.quiet (h : w.SameSessions cfg w') (hq : w.Quiet cfg) :
    w'.Quiet cfg := fun id st hst =>
  hq id st (h.storedState id ▸ hst)

theorem World.SameSessions.noneUnderway (h : w.SameSessions cfg w') (hn : w.NoneUnderway cfg) :
    w'.NoneUnderway cfg := fun id hst => hn id (h.storedState id ▸ hst)

theorem World.Moved.noneUnderway (h : w.Moved cfg f w')
    (hf : ∀ st, st ≠ .ROLLBACK_IN_PROGRESS → .ROLLBACK_IN_PROGRESS ∉ f st)
    (hn : w.NoneUnderway cfg) : w'.NoneUnderway cfg := by
  intro id hst
  have hid := h.states id
  have hne := hn id
  generalize w.storedState cfg id = old at hid hne
  rw [hst] at hid
  cases hid with
  | some hm => exact hf _ (fun he => hne (congrArg some he)) hm

/-- A session that was the last one to be over. -/
theorem World.Active.quiet_moved {s : SessionState} (h : w.Active cfg (some s))
    (hm : w.Moved cfg f w') (hf : ∀ st ∈ State.final, ∀ st' ∈ f st, st' ∈ State.final) {st : State}
    (hst : w'.storedState cfg s.id = some st) (hfinal : st ∈ State.final) : w'.Quiet cfg := by
  intro id st' hst'
  by_cases hid : id = s.id
  · subst hid
    rw [hst] at hst'
    cases hst'
    exact hfinal
  · have hstates := hm.states id
    rw [hst'] at hstates
    unfold World.storedState at hstates
    cases ht : w.record? cfg (toString id) with
    | none =>
      rw [ht] at hstates
      cases hstates
    | some t =>
      have hold := h.others ht fun hn => hid (toString_int32_inj.1 hn)
      rw [ht] at hstates
      cases hstates with
      | some hmem => exact hf _ hold _ hmem

/-- There are only records that were there. -/
def Fewer (cfg : Config) (w w' : World) : Prop :=
  SessionsInv cfg w' ∧ ∀ n t, w'.record? cfg n = some t → w.record? cfg n = some t

theorem Fewer.storedState (h : Fewer cfg w w') {id : Int32} {st : State}
    (hst : w'.storedState cfg id = some st) : w.storedState cfg id = some st := by
  obtain ⟨t, ht, rfl⟩ := Option.map_eq_some_iff.1 hst
  unfold World.storedState
  rw [h.2 _ t ht]
  rfl

theorem Fewer.quiet (h : Fewer cfg w w') (hq : w.Quiet cfg) : w'.Quiet cfg := fun id st hst =>
  hq id st (h.storedState hst)

theorem Fewer.noneUnderway (h : Fewer cfg w w') (hn : w.NoneUnderway cfg) :
    w'.NoneUnderway cfg := fun id hst =>
  hn id (h.storedState hst)

theorem Untouched.fewer (h : Untouched cfg w w') : Fewer cfg w w' :=
  ⟨h.1, fun n _ ht => h.2.record n ▸ ht⟩

/-- A file that is unlinked may be a record. -/
theorem Fewer.unlink {w₀ : World} (h : Fewer cfg w₀ w) {p : String} {r : Except Errno Unit}
    (hw : (r, w') = w.unlink p) : Fewer cfg w₀ w' := by
  rcases w.unlink_cases p with ⟨e, he, _⟩ | ⟨d, f, hd, hl, he⟩
  · rw [he] at hw
    cases hw
    exact h
  rw [he] at hw
  cases hw
  have hshrink : w.FilesShrink (w.setDir (dirName p) (some (d.erase (baseName p)))) :=
    World.filesShrink_sublist hd List.filter_sublist
  refine ⟨⟨h.1.unmounted, ?_, ?_, ?_⟩, fun n t ht => h.2 n t (hshrink.record? ht)⟩
  · refine h.1.tree.of_subset (fun n hs => ?_) fun n hn => ?_
    · by_cases hp : join kApexSessionsDir n = dirName p
      · rw [hp, hd]
        rfl
      · rwa [World.setDir_other _ _ hp] at hs
    · by_cases hS : kApexSessionsDir = dirName p
      · rw [← hS] at hd ⊢
        obtain ⟨e, he, rfl, hf⟩ := (mem_sessionNames hd).1 hn
        refine (mem_sessionNames (World.setDir_self _ _ _)).2
          ⟨e, Dir.mem_erase.2 ⟨he, fun hb => ?_⟩, rfl, hf⟩
        -- what is unlinked is a file
        have hlookup := Dir.lookup_eq_some.2 he
        rw [hb, Dir.lookup_eq_some.2 hl] at hlookup
        rw [← Option.some.inj hlookup] at hf
        cases hf
      · rwa [World.sessionNames_setDir_other _ _ hS]
  · exact fun n t ht => h.1.own n t (hshrink.record? ht)
  · exact fun n t m u ht hf hu hg => h.1.one n t m u (hshrink.record? ht) hf (hshrink.record? hu) hg

end Worlds

/-! ## Rules -/

section Rules

variable {cfg : Config} {F : Faults} {submits : Bool} {α β : Type} {p : ApexM α} {f : α → ApexM β}

theorem serves_ret (a : α) : Serves cfg F submits (ret a : ApexM α) := fun _ h =>
    ⟨⟨h, rfl, fun _ hq => hq⟩, fun hn => hn⟩

theorem Serves.bind (hp : Serves cfg F submits p) (hf : ∀ a, Serves cfg F submits (f a)) :
    Serves cfg F submits (p.bind f) := by
  intro w h
  refine wp.bind (hp w h) ?_ fun _ _ _ hn => hn
  rintro a w₁ ⟨h₁, hflags, hquiet⟩ hn₁
  refine (hf a w₁ h₁).mono ?_ fun _ _ _ hn₂ hn => hn₂ (hn₁ hn)
  rintro w₂ ⟨h₂, hflags₂, hquiet₂⟩
  exact ⟨h₂, hflags₂.trans hflags, fun hs hq => hquiet₂ hs (hquiet hs hq)⟩

theorem Serves.attempt (hp : Serves cfg F submits p) :
    Serves cfg F submits (p.attempt : ApexM (Except String α)) := fun w h => wp_attempt.2 (hp w h)

variable (hF : F.SparesRecords)
include hF

/-- The flags stay as they are. -/
theorem wp_flags {w : World} (p : ApexM α) :
    wp (kernel .off F) (fun w' => w'.flags = w.flags) p (fun _ _ => True) w :=
  (uses_all p).keeps (fun c _ _ _ => by cases c <;> trivial)
    (fun _ _ _ _ _ h hs => (flags_kept (hF.sem hs)).trans h) w rfl

/-- What holds in the kernel in which the changes of the states are watched. -/
theorem wp_ofChange {A : Option State → Option State → Prop} {I : World → Prop}
    {Q : Except String α → World → Prop}
    {w : World} (h : wp (changeKernel cfg A) I p Q w) : wp (kernel .off F) I p Q w :=
  wp.comap (f := id) h (fun c _ _ => by cases c <;> trivial) fun _ _ _ _ hs => hF.sem hs

/-- A program that makes no new records. -/
theorem serves_fewer (hp : ∀ w₀, p.Keeps (kernel .off Sys.Unreliable) (Fewer cfg w₀)) :
    Serves cfg F submits p := by
  intro w h
  have hfewer : wp (kernel .off F) (Fewer cfg w) p (fun _ _ => True) w :=
    wp.comap (f := id) (hp w w ⟨h, fun _ _ ht => ht⟩) (fun c _ _ => by cases c <;> trivial)
      fun _ _ _ _ hs => hF.sem hs
  refine (hfewer.and (wp_flags hF p)).mono ?_ ?_
  · rintro w' ⟨hw, hflags⟩
    exact ⟨hw.1, hflags, fun _ hq => hw.quiet hq⟩
  · rintro x w' ⟨hw, -⟩ -
    exact hw.noneUnderway

/-- A program that leaves the sessions alone. -/
theorem serves_untouched (hp : ∀ w₀, p.Keeps (changeKernel cfg fun _ _ => True)
      (Untouched cfg w₀)) :
    Serves cfg F submits p := by
  intro w h
  refine ((wp_ofChange hF (hp w w h.untouched)).and (wp_flags hF p)).mono ?_ ?_
  · rintro w' ⟨hw, hflags⟩
    exact ⟨hw.1, hflags, fun _ hq => hw.fewer.quiet hq⟩
  · rintro x w' ⟨hw, -⟩ -
    exact hw.fewer.noneUnderway

theorem serves_spares (hp : p.Uses SparesSessions) : Serves cfg F submits p :=
  serves_untouched hF fun _ => keeps_untouched hp

omit hF in
/-- A session that is over changes no more, and none comes except with a submission. -/
theorem Change.final_kept {i : Request} {a b : Option State} (h : Change True i a b)
    (hi : ∀ id ids, i ≠ .submit id ids) (ha : ∀ st, a = some st → st ∈ State.final) {st : State}
    (hb : b = some st) : st ∈ State.final := by
  cases h with
  | submitted => exact absurd rfl (hi _ _)
  | cleared => cases hb
  | aborted => cases hb
  | @moved i st₀ st' hm =>
    have hold := ha st₀ rfl
    have hnone : ∀ st ∈ State.final, st.successors = [] := by decide
    rw [hnone st₀ hold] at hm
    cases hm

/-- A program that changes the states as a request may. -/
theorem serves_request {i : Request} (hi : ∀ id ids, i ≠ .submit id ids)
    (hp : p.Keeps (changeKernel cfg (Change True i)) (SessionsInv cfg))
    (hend : ∀ w, SessionsInv cfg w → wp (kernel .off F) (fun _ => True) p
      (fun _ w' => w.NoneUnderway cfg → w'.NoneUnderway cfg) w) : Serves cfg F submits p := by
  intro w h
  have hinv : wp (kernel .off F) (fun w' => SessionsInv cfg w' ∧ (w.Quiet cfg → w'.Quiet cfg)) p
      (fun _ _ => True) w := by
    have hkeep := (hp w h).keep (T := fun w' => w.Quiet cfg → w'.Quiet cfg)
      (fun c _ _ => by cases c <;> trivial) (fun hq => hq) ?_
    · exact wp.comap (f := id) (hkeep.imp fun _ _ _ _ => trivial)
        (fun c _ _ => by cases c <;> trivial) fun _ _ _ _ hs => hF.sem hs
    · intro c w₁ r w₂ hc _ hs _ hquiet hq id st hst
      by_cases hsame : w₂.storedState cfg id = w₁.storedState cfg id
      · exact hquiet hq id st (hsame ▸ hst)
      · exact (hc r w₂ hs id hsame).final_kept hi (fun st' hst' => hquiet hq id st' hst') hst
  refine ((hinv.and (wp_flags hF p)).and (hend w h)).mono ?_ ?_
  · rintro w' ⟨⟨⟨h', hquiet⟩, hflags⟩, -⟩
    exact ⟨h', hflags, fun _ => hquiet⟩
  · rintro x w' - ⟨-, hn⟩
    exact hn

end Rules

/-! ## Requests -/

section Requests

variable {cfg : Config} {F : Faults} {submits : Bool} {w : World} (hF : F.SparesRecords)
include hF

omit hF in
theorem State.move_notUnderway {before after : State}
    (ha : after ≠ .ROLLBACK_IN_PROGRESS) (st : State)
    (hst : st ≠ .ROLLBACK_IN_PROGRESS) : .ROLLBACK_IN_PROGRESS ∉ State.move before after st := by
  unfold State.move
  split
  · exact fun he => ha (List.mem_singleton.1 he).symm
  · exact fun he => hst (List.mem_singleton.1 he).symm

/-- A record that is read. -/
theorem wp_getSession_spared {id : Int32} {f : SessionState → ApexM Unit}
    {Q : Except String Unit → World → Prop}
    (herr : ∀ e, Q (.error e) w) (hok : ∀ s, w.record? cfg (toString id) = some s →
      wp (kernel .off F) (fun _ => True) (f s) Q w) :
    wp (kernel .off F) (fun _ => True) ((getSession cfg id).bind f) Q w := by
  refine wp_bind.2 (wp_getSessionFromFile hF.reads trivial fun x hx => ?_)
  cases x with
  | error e => exact herr e
  | ok s => exact hok s ((hx s).1 rfl)

theorem wp_markStagedSessionReady_moved (h : SessionsInv cfg w) {id : Int32} :
    wp (kernel .off F) (fun _ => True) (markStagedSessionReady cfg id)
      (fun _ w' => w.NoneUnderway cfg → w'.NoneUnderway cfg) w := by
  refine wp_getSession_spared hF (fun _ hn => hn) fun s hs => ?_
  split
  · exact ⟨trivial, fun hn => hn⟩
  · rename_i hst
    have ho : w.Active cfg (some s) := ⟨h.stored hs, by unfold SessionState.isFinalized; rw [hst]⟩
    have hmove : State.STAGED ∈ State.move .VERIFIED .STAGED s.state := hst ▸ State.move_self
    refine (wp_updateStateAndCommit_active hF ho rfl (State.final_move (by decide)) hmove).imp ?_
    rintro _ w' _ ⟨-, hmoved, -⟩
    exact hmoved.noneUnderway (State.move_notUnderway (by decide))
  · exact ⟨trivial, fun hn => hn⟩

theorem wp_markStagedSessionSuccessful_moved (h : SessionsInv cfg w) {id : Int32} :
    wp (kernel .off F) (fun _ => True) (markStagedSessionSuccessful cfg id)
      (fun _ w' => w.NoneUnderway cfg → w'.NoneUnderway cfg) w := by
  refine wp_getSession_spared hF (fun _ hn => hn) fun s hs => ?_
  split
  · exact ⟨trivial, fun hn => hn⟩
  · rename_i hst
    have ho : w.Active cfg (some s) := ⟨h.stored hs, by unfold SessionState.isFinalized; rw [hst]⟩
    have hmove : State.SUCCESS ∈ State.move .ACTIVATED .SUCCESS s.state := hst ▸ State.move_self
    refine wp_bind.2 ((wp_spared hF h (keeps_mapErr keeps_deleteBackup)).imp ?_)
    rintro (e | _) w₁ _ ⟨hmoved, hkeeps⟩
    · exact hmoved.noneUnderway fun st hne he => hne (List.mem_singleton.1 he).symm
    · refine (wp_updateStateAndCommit_active hF (hkeeps _ ho) rfl
        (State.final_move (by decide)) hmove).imp ?_
      rintro _ w' _ ⟨-, hmoved', -⟩ hn
      refine hmoved'.noneUnderway (State.move_notUnderway (by decide)) ?_
      exact hmoved.noneUnderway (fun st hne he => hne (List.mem_singleton.1 he).symm) hn
  · exact ⟨trivial, fun hn => hn⟩

omit hF in
theorem State.rolledBack_notUnderway (inMode : Bool) (st : State)
    (hst : st ≠ .ROLLBACK_IN_PROGRESS) : .ROLLBACK_IN_PROGRESS ∉ State.rolledBack inMode st := by
  cases inMode <;> cases st <;> first | exact absurd rfl hst | decide

theorem wp_abortActiveSession_moved (h : SessionsInv cfg w) :
    wp (kernel .off F) (fun _ => True) (abortActiveSession cfg)
      (fun _ w' => w.NoneUnderway cfg → w'.NoneUnderway cfg) w := by
  refine wp_bind.2 ((wp_getActiveSession_active hF h).imp ?_)
  rintro _ w₁ _ ⟨rfl, o, rfl, ho⟩
  cases o with
  | none => exact ⟨trivial, fun hn => hn⟩
  | some s =>
    have hdelete : wp (kernel .off F) (fun _ => True) (deleteSession s)
        (fun _ w' => w₁.NoneUnderway cfg → w'.NoneUnderway cfg) w₁ := by
      have hdel := wp_deleteSession_change (A := fun _ _ => True) (s := s) h fun _ _ => trivial
      refine (wp_ofChange hF hdel).mono (fun _ _ => trivial) ?_
      rintro x w' h' ⟨hw, -⟩
      have hfewer : Fewer cfg w₁ w' := ⟨h', fun n t ht => hw.shrink.record? ht⟩
      exact hfewer.noneUnderway
    unfold Then
    dsimp only
    split
    · exact hdelete
    · exact hdelete
    · rename_i hst
      refine (wp_rollbackActivatedSession_moved hF ho hst).imp ?_
      rintro _ w' _ ⟨hmoved, -⟩
      exact hmoved.noneUnderway (State.rolledBack_notUnderway _)
    · exact ⟨trivial, fun hn => hn⟩

theorem wp_resumeRollbackIfNeeded_none (h : SessionsInv cfg w) :
    wp (kernel .off F) (fun _ => True) (resumeRollbackIfNeeded cfg)
      (fun _ w' => w'.NoneUnderway cfg) w := by
  refine (wp_resumeRollbackIfNeeded_moved hF h).imp ?_
  rintro _ w' _ hmoved id hst
  have hid := hmoved.states id
  rw [hst] at hid
  generalize w.storedState cfg id = old, w.inFsCheckpointMode = inMode at hid
  cases hid with
  | @some st _ hm => cases inMode <;> cases st <;> revert hm <;> decide

theorem serves_markStagedSessionReady (id : Int32) :
    Serves cfg F submits (markStagedSessionReady cfg id) :=
  serves_request hF (i := .markReady id) (fun _ _ => nofun) (keeps_request _) fun _ h =>
    wp_markStagedSessionReady_moved hF h

theorem serves_markStagedSessionSuccessful (id : Int32) :
    Serves cfg F submits (markStagedSessionSuccessful cfg id) :=
  serves_request hF (i := .markSuccessful id) (fun _ _ => nofun) (keeps_request _) fun _ h =>
    wp_markStagedSessionSuccessful_moved hF h

theorem serves_abortActiveSession : Serves cfg F submits (abortActiveSession cfg) :=
  serves_request hF (i := .abort) (fun _ _ => nofun) (keeps_request _) fun _ h =>
    wp_abortActiveSession_moved hF h

theorem serves_rollbackActiveSession : Serves cfg F submits (rollbackActiveSession cfg) :=
  serves_request hF (i := .rollback) (fun _ _ => nofun) (keeps_request _) fun _ h =>
    (wp_rollbackActiveSession_moved hF h).imp fun _ _ _ hx =>
      hx.1.noneUnderway (State.rolledBack_notUnderway _)

theorem serves_resumeRollbackIfNeeded : Serves cfg F submits (resumeRollbackIfNeeded cfg) :=
  serves_request hF (i := .resumeRollback) (fun _ _ => nofun) (keeps_request _) fun _ h =>
    (wp_resumeRollbackIfNeeded_none hF h).imp fun _ _ _ hn _ => hn

theorem serves_rollbackStagedSessionIfAny : Serves cfg F submits (rollbackStagedSessionIfAny cfg) :=
  serves_request hF (i := .rollbackStaged) (fun _ _ => nofun) (keeps_request _) fun _ h =>
    (wp_rollbackStagedSessionIfAny_moved hF h).imp fun _ _ _ hmoved =>
      hmoved.noneUnderway (State.move_notUnderway (by decide))

theorem serves_scanStagedSessionsDirAndStage :
    Serves cfg F submits (scanStagedSessionsDirAndStage cfg) :=
  serves_request hF (i := .scanStaged) (fun _ _ => nofun) (keeps_request _) fun _ h =>
    (wp_scanStagedSessionsDirAndStage_moved hF h).imp fun _ _ _ hmoved =>
      hmoved.noneUnderway fun st hne => by cases st <;> first | exact absurd rfl hne | decide

/-- A submission stores no session whose rollback is under way. -/
theorem serves_submitStagedSession (id : Int32) (ids : List Int32) :
    Serves cfg F true (submitStagedSession cfg id ids) := by
  intro w h
  have hsubmit : wp (changeKernel cfg fun _ b => b ≠ some .ROLLBACK_IN_PROGRESS) (SessionsInv cfg)
      (submitStagedSession cfg id ids) (fun _ _ => True) w := by
    have hprog : wp (changeKernel cfg fun _ b => b ≠ some .ROLLBACK_IN_PROGRESS) (SessionsInv cfg)
        ((Request.submit id ids).prog cfg) (fun _ _ => True) w := by
      obtain ⟨p, hp, hwp⟩ := @submit_split cfg id ids
      rw [hp]
      refine wp_bind.2 ((wp_clearSessions_change h fun st => nofun).imp ?_)
      rintro (e | _) w' hI hnone
      · trivial
      · exact hwp _ w' (by decide) hI (hnone rfl)
    exact (wp_bind.1 hprog).imp fun _ _ _ _ => trivial
  have hkeep := hsubmit.keep (T := fun w' => w.NoneUnderway cfg → w'.NoneUnderway cfg)
    (fun c _ _ => by cases c <;> trivial) (fun hn => hn) ?_
  · have hall : wp (kernel .off F) _ _ _ w :=
      wp.comap (f := fun w => w) hkeep (fun c _ _ => by cases c <;> trivial)
      fun _ _ _ _ hs => hF.sem hs
    refine (hall.and (wp_flags hF _)).mono ?_ ?_
    · rintro w' ⟨⟨h', -⟩, hflags⟩
      exact ⟨h', hflags, nofun⟩
    · rintro x w' - ⟨⟨-, hn⟩, -⟩
      exact hn
  · intro c w₁ r w₂ hc _ hs _ hold hn id hst
    by_cases hsame : w₂.storedState cfg id = w₁.storedState cfg id
    · exact hold hn id (hsame ▸ hst)
    · exact hc r w₂ hs id hsame hst

end Requests

/-! ## Calls -/

/-- Only a submission brings a session that is not over. -/
def BinderCall.submits : BinderCall → Bool
  | .submitStagedSession _ _ => true
  | _ => false

/-- The calls that make no new record. -/
def Dwindles : Sys → Prop
  | .unlink _ => True
  | c => SparesSessions c

theorem Looks.sparesSessions {c : Sys} (h : Looks c) : SparesSessions c := by
  cases c <;> first | exact h.elim | trivial

theorem SparesSessions.dwindles {c : Sys} (h : SparesSessions c) : Dwindles c := by
  cases c <;> first | exact h | trivial

theorem Fewer.step {cfg : Config} {w₀ w w' : World} {c : Sys} {r : c.Res} (h : Fewer cfg w₀ w)
    (hc : Dwindles c) (hs : (kernel .off Sys.Unreliable).sem c w r w') : Fewer cfg w₀ w' := by
  have hspares : SparesSessions c → Fewer cfg w₀ w' := fun hc =>
    have hsame : w.SameSessions cfg w' := sparesSessions_same hc hs
    ⟨h.1.same hsame, fun n t ht => h.2 n t (hsame.record n ▸ ht)⟩
  cases c with
  | unlink p =>
    rcases hs with hs | ⟨_, rfl⟩
    · exact h.unlink hs
    · exact h
  | _ => exact hspares hc

section Calls

variable {cfg : Config} {F : Faults} {submits : Bool} (hF : F.SparesRecords)
include hF

theorem serves_dwindles {α : Type} {p : ApexM α} (hp : p.Uses Dwindles) : Serves cfg F submits p :=
  serves_fewer hF fun _ => hp.keeps (fun c _ _ _ => by cases c <;> trivial)
    fun _ _ _ _ hc h hs => h.step hc hs

theorem serves_unstagePackages (paths : List String) :
    Serves cfg F submits (unstagePackages paths) := by
  refine serves_dwindles hF
      (uses_bind (uses_require _ _) fun _ => uses_bind (uses_forM _ fun p _ => ?_) fun _ =>
    uses_forM _ fun p _ => ?_)
  · exact uses_exec_bind trivial fun r => uses_check _ r
  · exact uses_exec_bind trivial fun r => uses_check _ r

theorem serves_unmountDanglingMounts : Serves cfg F submits unmountDanglingMounts := by
  refine serves_dwindles hF (uses_exec_bind trivial fun db => uses_forM _ fun e _ => ?_)
  refine uses_bind ((uses_removeMountedApex _ _).mono fun _ => SparesSessions.dwindles) fun _ => ?_
  refine uses_bind (uses_logged ((uses_unmount_any _).mono fun _ => SparesSessions.dwindles))
    fun _ => ?_
  exact uses_when (uses_exec_bind trivial fun _ => trivial)

theorem serves_collectApexKeys : Serves cfg F submits (collectApexKeys []) :=
  serves_spares hF ((uses_collectApexKeys []).mono fun _ => Looks.sparesSessions)

/-- **Every call** of the binder. -/
theorem serves_binderCall (debuggable : Bool) (c : BinderCall) :
    Serves cfg F c.submits (c.prog cfg debuggable) := by
  refine BinderCall.closed (P := fun _ p => Serves cfg F c.submits p)
    (fun a => serves_ret a) Serves.bind Serves.attempt c fun _ => ?_
  have hopen : ∀ file, (openApex file).Uses SparesSessions := uses_openApex_any fun _ => trivial
  have hactive : Apexd.getActivePackages.Uses SparesSessions :=
    uses_getActivePackages (fun _ => trivial) trivial
  have hhook : ∀ kind paths, Serves cfg F c.submits (do
      require (!paths.isEmpty) "Empty set of inputs"
      let apexes ← openApexes paths
      prePostinstallPackages cfg kind apexes) := fun kind paths =>
    serves_spares hF (uses_bind (uses_require _ _) fun _ => uses_bind
      (uses_openApexes (fun _ => trivial) paths) fun apexes => uses_prePostinstallPackages _ _)
  cases c with
  | stagePackage path => exact serves_untouched hF fun _ => keeps_stagePackages _
  | stagePackages paths => exact serves_untouched hF fun _ => keeps_stagePackages _
  | unstagePackages paths => exact serves_unstagePackages hF paths
  | submitStagedSession id ids => exact serves_submitStagedSession hF id ids
  | markStagedSessionReady id => exact serves_markStagedSessionReady hF id
  | markStagedSessionSuccessful id => exact serves_markStagedSessionSuccessful hF id
  | getSessions => exact serves_spares hF (uses_getSessions trivial fun _ => trivial)
  | getStagedSessionInfo id => exact serves_spares hF (uses_getSessionFromFile trivial)
  | activatePackage path =>
    exact serves_spares hF (uses_bind (hopen path) fun apex => uses_activatePackageImpl apex)
  | deactivatePackage path =>
    exact serves_spares hF (uses_bind (hopen path) fun apex => uses_unmountPackage apex true)
  | getActivePackages => exact serves_spares hF (uses_bind hactive fun _ => trivial)
  | getActivePackage name =>
    exact serves_spares hF (uses_getActivePackage (fun _ => trivial) trivial trivial name)
  | getAllPackages =>
    refine serves_spares hF (uses_bind hactive fun _ => ?_)
    exact uses_bind (uses_getFactoryPackages (fun _ => trivial) fun _ => trivial) fun _ => trivial
  | preinstallPackages paths => exact hhook _ paths
  | postinstallPackages paths => exact hhook _ paths
  | abortActiveSession => exact serves_abortActiveSession hF
  | rollbackActiveSession => exact serves_rollbackActiveSession hF
  | resumeRollbackIfNeeded => exact serves_resumeRollbackIfNeeded hF

end Calls

end Apexd
