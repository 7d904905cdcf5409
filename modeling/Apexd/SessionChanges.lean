import Apexd.SessionStates

/-!
# The stored states of sessions over whole runs

Requests are served one at a time and boots are requests among them; any call may fail, only
directories and records can always be read and a commit is all or nothing.

* `Change` — how a request may change the stored state of a session.
* `StateHistory` — the states of a session since it was submitted.
* `one_active_session`, `session_changes` — over all runs from an empty sessions directory.
-/

set_option autoImplicit false

namespace Apexd

open Text Prog

/-! ## Requests -/

/-- The states that may follow a state of a stored session. -/
def State.successors : State → List State
  | .VERIFIED => [.STAGED]
  | .STAGED => [.ACTIVATED, .ACTIVATION_FAILED, .ROLLED_BACK]
  | .ACTIVATED => [.SUCCESS, .ROLLBACK_IN_PROGRESS]
  | .ROLLBACK_IN_PROGRESS => [.ROLLED_BACK, .ROLLBACK_FAILED]
  | _ => []

inductive Request where
  | submit (sessionId : Int32) (childSessionIds : List Int32)
  | markReady (sessionId : Int32)
  | markSuccessful (sessionId : Int32)
  | abort
  | rollback
  | resumeRollback
  | rollbackStaged
  | scanStaged
  | start (replies : StartReplies)

def Request.prog (cfg : Config) : Request → ApexM Unit
  | .submit sessionId childSessionIds => do
    let _ ← submitStagedSession cfg sessionId childSessionIds
    ret ()
  | .markReady sessionId => markStagedSessionReady cfg sessionId
  | .markSuccessful sessionId => markStagedSessionSuccessful cfg sessionId
  | .abort => abortActiveSession cfg
  | .rollback => rollbackActiveSession cfg
  | .resumeRollback => resumeRollbackIfNeeded cfg
  | .rollbackStaged => rollbackStagedSessionIfAny cfg
  | .scanStaged => scanStagedSessionsDirAndStage cfg
  | .start replies => onStart cfg replies

/-- The changes of the stored state of a session that a request may make; `clearing` says that
`submitStagedSession` is still at its start. -/
inductive Change (clearing : Prop) : Request → Option State → Option State → Prop where
  | submitted {id : Int32} {ids : List Int32} :
    Change clearing (.submit id ids) none (some .VERIFIED)
  | cleared {id : Int32} {ids : List Int32} {st : State} (h : clearing) :
    Change clearing (.submit id ids) (some st) none
  | aborted {st : State} (h : st = .VERIFIED ∨ st = .STAGED) :
    Change clearing .abort (some st) none
  | moved {i : Request} {st st' : State} (h : st' ∈ st.successors) :
    Change clearing i (some st) (some st')

section Requests

variable {cfg : Config} {A : Option State → Option State → Prop} {w : World}

theorem isFinalized_of_successor {t : SessionState} {st : State} (h : st ∈ t.state.successors) :
    t.isFinalized = false := by
  unfold SessionState.isFinalized
  cases hs : t.state <;> rw [hs] at h <;> first | rfl | cases h

theorem keeps_spares {α : Type} {p : ApexM α} (hp : p.Uses SparesSessions) :
    p.Keeps (changeKernel cfg A) (SessionsInv cfg) :=
  hp.keeps (fun _ w hc _ => hc.changes w) fun _ _ _ _ hc h hs => h.same (sparesSessions_same hc hs)

/-- The stored session whose record was read. -/
def Stored (cfg : Config) (s : SessionState) (w : World) : Prop :=
  SessionsInv cfg w ∧ w.record? cfg (toString s.id) = some s

theorem Stored.untouched {s : SessionState} {w₀ : World} (h : Stored cfg s w₀)
    (hw : Untouched cfg w₀ w) : Stored cfg s w :=
  ⟨hw.1, (hw.2.record _).trans h.2⟩

/-- A program that leaves the sessions alone leaves a session stored. -/
theorem Stored.wp {α : Type} {s : SessionState} {p : ApexM α} (h : Stored cfg s w)
    (hp : p.Keeps (changeKernel cfg A) (Untouched cfg w)) :
    wp (changeKernel cfg A) (SessionsInv cfg) p (fun _ w' => Stored cfg s w') w :=
  (hp w h.1.untouched).mono (fun _ hI => hI.1) fun _ _ hI _ => h.untouched hI

/-- The record of a session is the one in its own directory. -/
theorem SessionsInv.stored (h : SessionsInv cfg w) {n : String} {t : SessionState}
    (ht : w.record? cfg n = some t) : Stored cfg t w :=
  ⟨h, h.own n t ht ▸ ht⟩

theorem wp_getSession_stored {id : Int32} (h : SessionsInv cfg w) :
    wp (changeKernel cfg A) (SessionsInv cfg) (getSession cfg id)
      (fun x w' => ∀ s, x = .ok s → Stored cfg s w') w := by
  refine wp_changeKernel ?_ (uses_getSessionFromFile trivial)
  exact wp_getSessionFromFile Sys.Unreliable.reads h fun x hx s hs => h.stored ((hx s).1 hs)

theorem wp_getActiveSession_stored (h : SessionsInv cfg w) :
    wp (changeKernel cfg A) (SessionsInv cfg) (getActiveSession cfg)
      (fun x w' => ∀ s, x = .ok (some s) → Stored cfg s w') w := by
  refine wp_changeKernel ?_ (uses_getActiveSession trivial fun _ => trivial)
  refine wp_getActiveSession Sys.Unreliable.reads h.mounted h fun x hx _ _ s hs => ?_
  obtain ⟨n, _, hr, _⟩ := hx s hs
  exact h.stored hr

theorem wp_getFlags_change {α : Type} {f : Flags → ApexM α} {Q : Except String α → World → Prop}
    (h : SessionsInv cfg w) (hf : ∀ flags, wp (changeKernel cfg A) (SessionsInv cfg)
      (f flags) Q w) :
    wp (changeKernel cfg A) (SessionsInv cfg) ((sys .getFlags).bind f) Q w := by
  refine ⟨h, (show SparesSessions .getFlags from trivial).changes w, ?_⟩
  rintro r w' (⟨rfl, rfl⟩ | hf')
  · exact hf _
  · exact hf'.1.elim

variable (hA : ∀ st st', st' ∈ State.successors st → A (some st) (some st'))
include hA

/-- A commit of a session to a state that may follow the stored one. -/
theorem wp_move {s t : SessionState} {st : State} (h : Stored cfg t w) (hid : s.id = t.id)
    (hst : st ∈ t.state.successors) :
    wp (changeKernel cfg A) (SessionsInv cfg) (updateStateAndCommit cfg s st)
      (fun x w' => x = .ok () → Stored cfg { s with state := st } w') w := by
  refine (wp_update h.1 (hid ▸ h.2) (isFinalized_of_successor hst) (hA _ _ hst)).imp ?_
  intro x w' hI hx he
  exact ⟨hI, hx.1 he⟩

theorem wp_commitOrLog_move {s t : SessionState} {st : State} (h : Stored cfg t w)
    (hid : s.id = t.id) (hst : st ∈ t.state.successors) :
    wp (changeKernel cfg A) (SessionsInv cfg) (commitOrLog cfg s st) (fun _ _ => True) w := by
  refine wp_bind.2 (wp_attempt.2 ((wp_move hA h hid hst).imp fun _ _ hI _ => ?_))
  exact ⟨hI, trivial⟩

theorem wp_doRollback_change {s t : SessionState} (h : Stored cfg t w) (hid : s.id = t.id)
    (hst : t.state = .ROLLBACK_IN_PROGRESS) :
    wp (changeKernel cfg A) (SessionsInv cfg) (doRollback cfg s)
      (fun x w' => x = .ok () → Stored cfg t w') w := by
  refine wp_getFlags_change h.1 fun flags => ?_
  split
  · exact ⟨h.1, fun _ => h⟩
  · refine wp_onFail.2 ((h.wp keeps_restoreBackup).imp ?_)
    rintro (e | _) w'' hI' hs'
    · refine (wp_move hA hs' hid ?_).imp fun _ _ _ _ he => by cases he
      rw [hst]
      decide
    · exact fun _ => hs'

theorem wp_rollbackActivatedSession_change {s : SessionState} (h : Stored cfg s w)
    (hst : s.state = .ACTIVATED) :
    wp (changeKernel cfg A) (SessionsInv cfg) (rollbackActivatedSession cfg s)
      (fun _ _ => True) w := by
  refine wp_getFlags_change h.1 fun flags => ?_
  split
  · exact ⟨h.1, trivial⟩
  · refine wp_bind.2 (wp_mapErr.2 ((wp_move hA h rfl ?_).imp ?_))
    · rw [hst]
      decide
    rintro (e | _) w₁ _ hs₁
    · trivial
    refine wp_bind.2 (wp_mapErr.2 ((wp_doRollback_change hA (hs₁ rfl) rfl rfl).imp ?_))
    rintro (e | _) w₂ _ hs₂
    · trivial
    exact wp_commitOrLog_move hA (hs₂ rfl) rfl List.mem_cons_self

theorem wp_rollbackStagedSession_change {s : SessionState} (h : Stored cfg s w)
    (hst : s.state = .STAGED) :
    wp (changeKernel cfg A) (SessionsInv cfg) (rollbackStagedSession cfg s)
      (fun _ _ => True) w := by
  refine (wp_move hA h rfl ?_).imp fun _ _ _ _ => trivial
  rw [hst]
  decide

theorem keeps_markStagedSessionReady (id : Int32) :
    (markStagedSessionReady cfg id).Keeps (changeKernel cfg A) (SessionsInv cfg) := by
  intro w h
  refine wp_bind.2 ((wp_getSession_stored h).imp ?_)
  rintro (e | s) w' hI hs
  · trivial
  unfold Then
  dsimp only
  split
  · exact ⟨hI, trivial⟩
  · rename_i hst
    refine (wp_move hA (hs s rfl) rfl ?_).imp fun _ _ _ _ => trivial
    rw [hst]
    decide
  · exact ⟨hI, trivial⟩

theorem keeps_markStagedSessionSuccessful (id : Int32) :
    (markStagedSessionSuccessful cfg id).Keeps (changeKernel cfg A) (SessionsInv cfg) := by
  intro w h
  refine wp_bind.2 ((wp_getSession_stored h).imp ?_)
  rintro (e | s) w' hI hs
  · trivial
  unfold Then
  dsimp only
  split
  · exact ⟨hI, trivial⟩
  · rename_i hst
    refine wp_bind.2 (((hs s rfl).wp (keeps_mapErr keeps_deleteBackup)).imp ?_)
    rintro (e | _) w'' _ hs'
    · trivial
    · refine (wp_move hA hs' rfl ?_).imp fun _ _ _ _ => trivial
      rw [hst]
      decide
  · exact ⟨hI, trivial⟩

theorem keeps_rollbackActiveSession :
    (rollbackActiveSession cfg).Keeps (changeKernel cfg A) (SessionsInv cfg) := by
  intro w h
  refine wp_bind.2 (wp_mapErr.2 ((wp_getActiveSession_stored h).imp ?_))
  rintro (e | _ | s) w' hI hs
  · trivial
  · exact ⟨hI, trivial⟩
  have hs := hs s rfl
  show wp _ _ (rollbackSession cfg s) _ w'
  unfold rollbackSession
  split
  · exact ⟨hI, trivial⟩
  · exact ⟨hI, trivial⟩
  · rename_i hst; exact wp_rollbackStagedSession_change hA hs hst
  · rename_i hst; exact wp_rollbackActivatedSession_change hA hs hst
  · exact ⟨hI, trivial⟩

theorem keeps_resumeRollbackIfNeeded :
    (resumeRollbackIfNeeded cfg).Keeps (changeKernel cfg A) (SessionsInv cfg) := by
  intro w h
  refine wp_bind.2 ((wp_getActiveSession_stored h).imp ?_)
  rintro (e | _ | s) w' hI hs
  · trivial
  · exact ⟨hI, trivial⟩
  have hs := hs s rfl
  unfold Then
  dsimp only
  split
  · rename_i hst
    refine wp_bind.2 ((hs.wp (keeps_untouched (uses_pathExists trivial))).imp ?_)
    rintro (e | b) w₁ hI₁ hs₁
    · trivial
    have hcommit : ∀ w₂, Stored cfg s w₂ → wp (changeKernel cfg A) (SessionsInv cfg)
        (commitOrLog cfg s .ROLLED_BACK) (fun _ _ => True) w₂ := by
      intro w₂ hs₂
      refine wp_commitOrLog_move hA hs₂ rfl ?_
      rw [hst]
      decide
    cases b with
    | false => exact hcommit w₁ hs₁
    | true =>
      refine wp_bind.2 ((wp_doRollback_change hA hs₁ rfl hst).imp ?_)
      rintro (e | _) w₂ _ hs₂
      · trivial
      · exact hcommit w₂ (hs₂ rfl)
  · exact ⟨hI, trivial⟩

theorem keeps_rollbackStagedSessionIfAny :
    (rollbackStagedSessionIfAny cfg).Keeps (changeKernel cfg A) (SessionsInv cfg) := by
  intro w h
  refine wp_bind.2 ((wp_getActiveSession_stored h).imp ?_)
  rintro (e | _ | s) w' hI hs
  · trivial
  · exact ⟨hI, trivial⟩
  unfold Then
  dsimp only
  split
  · rename_i hst; exact wp_rollbackStagedSession_change hA (hs s rfl) hst
  · exact ⟨hI, trivial⟩

theorem keeps_abortActiveSession
    (hdel : ∀ st, st = State.VERIFIED ∨ st = .STAGED → A (some st) none) :
    (abortActiveSession cfg).Keeps (changeKernel cfg A) (SessionsInv cfg) := by
  intro w h
  refine wp_bind.2 ((wp_getActiveSession_stored h).imp ?_)
  rintro (e | _ | s) w' hI hs
  · trivial
  · exact ⟨hI, trivial⟩
  have hs := hs s rfl
  have hdelete : s.state = .VERIFIED ∨ s.state = .STAGED →
      wp (changeKernel cfg A) (SessionsInv cfg) (deleteSession s) (fun _ _ => True) w' := by
    intro hst
    refine (wp_deleteSession_change hI fun st he => hdel st ?_).imp fun _ _ _ _ => trivial
    unfold World.storedState at he
    rw [hs.2] at he
    cases he
    exact hst
  unfold Then
  dsimp only
  split
  · rename_i hst; exact hdelete (Or.inl hst)
  · rename_i hst; exact hdelete (Or.inr hst)
  · rename_i hst; exact wp_rollbackActivatedSession_change hA hs hst
  · exact ⟨hI, trivial⟩

omit hA in
/-- The staged sessions are read as they are stored, each once. -/
theorem wp_getSessionsInState_stored {st : State} (h : SessionsInv cfg w) :
    wp (changeKernel cfg A) (SessionsInv cfg) (getSessionsInState cfg st)
      (fun x w' => ∀ l, x = .ok l → l.Nodup ∧ ∀ s ∈ l, Stored cfg s w' ∧ s.state = st) w := by
  refine wp_bind.2 (wp_changeKernel ?_ (uses_getSessions trivial fun _ => trivial))
  refine wp_getSessions Sys.Unreliable.reads h.mounted h fun names hnames => ⟨h, ?_⟩
  rintro _ ⟨⟩
  refine ⟨List.Nodup.filter _ (List.Nodup.filterMap ?_ (hnames.nodup_iff.2 w.sessionNames_nodup)),
    fun s hs => ?_⟩
  · intro n m t hn hm
    exact (h.own n t hn).trans (h.own m t hm).symm
  · obtain ⟨hs, hst⟩ := List.mem_filter.1 hs
    obtain ⟨n, _, ht⟩ := List.mem_filterMap.1 hs
    exact ⟨h.stored ht, by simpa using hst⟩

omit hA in
theorem keeps_stageSession (s : SessionState) {w₀ : World} :
    (stageSession cfg s).Keeps (changeKernel cfg A) (Untouched cfg w₀) := by
  refine keeps_bind (keeps_mapM _ fun dir _ => keeps_untouched ?_) fun apexes =>
    keeps_bind (keeps_untouched ?_) fun _ => keeps_stagePackages apexes
  · refine uses_bind (uses_readDir trivial) fun scan => ?_
    rcases scan with _ | ⟨p, _ | ⟨q, l⟩⟩
    · exact uses_fail _
    · exact uses_ret _
    · exact uses_fail _
  · refine uses_bind (uses_require _ _) fun _ => ?_
    exact uses_bind (uses_mapM _ fun p _ => uses_temp (uses_openApex p)) fun l =>
      uses_prePostinstallPackages _ _

theorem wp_activateStagedSession_change {s : SessionState} (h : Stored cfg s w)
    (hst : s.state = .STAGED) :
    wp (changeKernel cfg A) (SessionsInv cfg) (activateStagedSession cfg s)
      (fun _ _ => True) w := by
  refine wp_bind.2 (wp_attempt.2 ((h.wp (keeps_stageSession s)).imp ?_))
  rintro (e | _) w' _ hs
  · refine wp_commitOrLog_move hA hs rfl ?_
    rw [hst]
    decide
  · refine wp_commitOrLog_move hA hs rfl ?_
    rw [hst]
    decide

theorem keeps_scanStagedSessionsDirAndStage :
    (scanStagedSessionsDirAndStage cfg).Keeps (changeKernel cfg A) (SessionsInv cfg) := by
  intro w h
  refine wp_bind.2 ((wp_getSessionsInState_stored h).imp ?_)
  rintro (e | l) w' hI hl
  · trivial
  obtain ⟨hnodup, hl⟩ := hl l rfl
  -- a session that is still to be staged is the only one that is not finalized
  refine wp_forM (fun rest w' => SessionsInv cfg w' ∧ rest.Nodup ∧
    ∀ s ∈ rest, Stored cfg s w' ∧ s.state = .STAGED) l ?_ ?_ ⟨hI, hnodup, hl⟩
  · rintro s rest w₁ - ⟨_, hnd, hrest⟩
    obtain ⟨hs, hst⟩ := hrest s List.mem_cons_self
    have hnil : rest = [] := by
      refine List.eq_nil_iff_forall_not_mem.2 fun t ht => ?_
      obtain ⟨ht', htst⟩ := hrest t (List.mem_cons_of_mem _ ht)
      have hf : ∀ u : SessionState, u.state = .STAGED → u.isFinalized = false := by
        intro u hu
        unfold SessionState.isFinalized
        rw [hu]
      have hid := hs.1.one _ s _ t hs.2 (hf s hst) ht'.2 (hf t htst)
      have hst' := ht'.2
      rw [← hid, hs.2] at hst'
      cases hst'
      exact (List.nodup_cons.1 hnd).1 ht
    subst hnil
    refine (wp_activateStagedSession_change hA hs hst).imp ?_
    rintro (e | _) w₂ hI₂ _
    · trivial
    · exact ⟨hI₂, List.nodup_nil, fun t ht => by cases ht⟩
  · rintro w₁ ⟨hI₁, _, _⟩
    exact ⟨hI₁, trivial⟩

theorem keeps_onStart (replies : StartReplies) :
    (onStart cfg replies).Keeps (changeKernel cfg A) (SessionsInv cfg) := by
  have hlog : ∀ p : ApexM Unit, p.Keeps (changeKernel cfg A) (SessionsInv cfg) →
      (logged p).Keeps (changeKernel cfg A) (SessionsInv cfg) := fun p hp =>
    keeps_bind (keeps_attempt hp) fun _ => keeps_ret ()
  refine keeps_bind (keeps_spares (uses_exec trivial)) fun flags =>
    keeps_bind (keeps_when (hlog _ (keeps_rollbackStagedSessionIfAny hA))) fun _ => ?_
  cases replies.keysCollected with
  | false => exact keeps_ret ()
  | true =>
    refine keeps_bind (keeps_spares
        (uses_populateFromMounts.mono fun _ => PopulateCmd.sparesSessions)) fun _ =>
      keeps_bind (keeps_scanStagedSessionsDirAndStage hA) fun _ =>
      keeps_bind (hlog _ (keeps_resumeRollbackIfNeeded hA)) fun _ =>
      keeps_bind (keeps_attempt (keeps_spares (uses_scanPackagesDirAndActivate _))) fun x => ?_
    have hrest : (kApexPackageBuiltinDirs.forM fun dir => logged
      (scanPackagesDirAndActivate cfg dir)).Keeps
        (changeKernel cfg A) (SessionsInv cfg) :=
      keeps_forM _ fun dir _ => hlog _ (keeps_spares (uses_scanPackagesDirAndActivate _))
    cases x with
    | ok _ => exact hrest
    | error e => exact keeps_bind (hlog _ (keeps_rollbackActiveSession hA)) fun _ => hrest

omit hA in
/-- First what leaves the sessions alone, then the rest. -/
theorem Untouched.wp_bind {α β : Type} {q : ApexM α} {f : α → ApexM β} {w₀ : World}
    (h : Untouched cfg w₀ w) (hq : q.Keeps (changeKernel cfg A) (Untouched cfg w₀))
    (hf : ∀ a w', Untouched cfg w₀ w' → wp (changeKernel cfg A) (SessionsInv cfg) (f a)
      (fun _ _ => True) w') :
    wp (changeKernel cfg A) (SessionsInv cfg) (q.bind f) (fun _ _ => True) w := by
  refine Prog.wp_bind.2 ((hq w h).mono (fun _ hI => hI.1) ?_)
  rintro (e | a) w' hI _
  · trivial
  · exact hf a w' hI

omit hA in
/-- `submitStagedSession` clears all sessions and then stores one. -/
theorem submit_split (id : Int32) (ids : List Int32) : ∃ p : ApexM Unit,
    (Request.submit id ids).prog cfg = (clearSessions cfg).bind (fun _ => p) ∧
      ∀ (A : Option State → Option State → Prop) (w : World), A none (some .VERIFIED) →
        SessionsInv cfg w → (∀ n, w.record? cfg n = none) →
        wp (changeKernel cfg A) (SessionsInv cfg) p (fun _ _ => True) w := by
  refine ⟨_, Prog.bind_assoc _ _ _, fun A w hA h hnone => ?_⟩
  refine wp_bind.2 (wp.imp (Q := fun _ _ => True) ?_ ?_)
  case refine_2 =>
    rintro (e | l) w' hI _
    · trivial
    · exact ⟨hI, trivial⟩
  have hbackup : needsBackup.Uses SparesSessions := by
    refine uses_exec_bind trivial fun flags => uses_ite ?_ (uses_ret _)
    refine uses_exec_bind trivial fun r => ?_
    cases r <;> exact uses_ret _
  have hverify : ∀ l : List Int32, (l.mapM (verifySessionDir cfg)).Uses SparesSessions := fun l =>
    uses_mapM _ fun i _ => uses_temp (uses_verifySessionDir i)
  have hcreate : (createSession id).Uses SparesSessions :=
    uses_createSession (fun _ => trivial) (fun _ _ => trivial) fun _ _ => trivial
  -- up to the commit nothing happens to sessions
  refine h.untouched.wp_bind (keeps_untouched hbackup) fun backup w₁ h₁ => ?_
  refine h₁.wp_bind (keeps_when keeps_backupActivePackages) fun _ w₂ h₂ => ?_
  refine h₂.wp_bind (keeps_untouched (hverify _)) fun verified w₃ h₃ => ?_
  refine h₃.wp_bind (keeps_untouched (uses_prePostinstallPackages _ _)) fun _ w₄ h₄ => ?_
  have hid : (createSession id).Yields fun s => s.id = id := yields_then fun _ => rfl
  refine wp_bind.2 ((((keeps_untouched hcreate) w₄ h₄).yields hid).mono (fun _ hI => hI.1) ?_)
  rintro (e | s) w₅ h₅ ⟨_, hs⟩
  · trivial
  have hs := hs s rfl
  have hnone₅ : ∀ n, w₅.record? cfg n = none := fun n => (h₅.2.record n).trans (hnone n)
  refine wp_bind.2 (wp_updateStateAndCommit_change h₅.1 ?_ ?_ (fun _ => trivial) fun w₆ _ hI =>
    ⟨hI, trivial⟩)
  · intro _ n u hu
    rw [hnone₅] at hu
    cases hu
  · intro _
    unfold World.storedState
    rw [hnone₅]
    exact hA

end Requests

/-! ## Runs -/

/-- A history of a session: from its submission on, each state followed by one that may follow. -/
inductive StateHistory : State → List State → Prop where
  | submitted : StateHistory .VERIFIED [.VERIFIED]
  | moved {st st' : State} {l : List State} (h : StateHistory st l) (hs : st' ∈ st.successors) :
    StateHistory st' (l ++ [st'])

/-- The states a session has had since it was last absent. -/
def stateHistory (cfg : Config) : (c : Sys) → World → c.Res → World → (Int32 → List State) →
    Int32 → List State :=
  fun _ w _ w' g id =>
    match w'.storedState cfg id with
    | none => []
    | some st => if w.storedState cfg id = some st then g id else g id ++ [st]

/-- Requests are served one at a time; the process may die inside each of them. -/
def sessionRequests (cfg : Config) :
    Service Sys Sys.Res String Unit (World × (Int32 → List State)) Request where
  kernel := (kernel .off Sys.Unreliable).observe (stateHistory cfg)
  restart s s' := s.1.Restart s'.1 ∧ s'.2 = s.2
  boot := ret ()
  request := Request.prog cfg

/-- The sessions directory is empty or missing. -/
structure World.NoSessions (w : World) : Prop where
  unmounted : w.DataUnmounted
  names : w.sessionNames = []
  dirs : ∀ n, w.dirs (join kApexSessionsDir n) = none

section Runs

variable {cfg : Config} {w w₀ : World}

theorem World.NoSessions.record? (h : w.NoSessions) (n : String) : w.record? cfg n = none := by
  unfold World.record? World.readFile World.file? World.node?
  rw [dirName_stateFilePath, h.dirs]
  rfl

theorem World.NoSessions.inv (h : w.NoSessions) : SessionsInv cfg w where
  unmounted := h.unmounted
  tree n _ hs := by
    rw [h.dirs] at hs
    cases hs
  own n t ht := by
    rw [h.record?] at ht
    cases ht
  one n t m u ht := by
    rw [h.record?] at ht
    cases ht

/-- The histories that are kept are those of the stored states. -/
def Histories (cfg : Config) (w : World) (g : Int32 → List State) : Prop :=
  ∀ id, match w.storedState cfg id with
    | none => g id = []
    | some st => StateHistory st (g id)

/-- Whether sessions are being cleared matters to `submitStagedSession` only. -/
theorem Change.imp {P Q : Prop} {i : Request} {a b : Option State} (h : Change P i a b)
    (hPQ : ∀ id ids, i = .submit id ids → P → Q) : Change Q i a b := by
  cases h with
  | submitted => exact .submitted
  | cleared h => exact .cleared (hPQ _ _ rfl h)
  | aborted h => exact .aborted h
  | moved h => exact .moved h

/-- A final state is left only by deletion. -/
theorem Change.final {P : Prop} {i : Request} {st : State} {b : Option State}
    (h : Change P i (some st) b) (hst : st.successors = []) : b = none := by
  cases h with
  | cleared => rfl
  | aborted => rfl
  | moved hmem =>
    rw [hst] at hmem
    cases hmem

/-- **Every request** changes the stored states only as it may. -/
theorem keeps_request (i : Request) :
    (i.prog cfg).Keeps (changeKernel cfg (Change True i)) (SessionsInv cfg) := by
  have hmove : ∀ st st', st' ∈ State.successors st → Change True i (some st) (some st') :=
    fun _ _ h => .moved h
  cases i with
  | submit id ids =>
    intro w h
    obtain ⟨p, hp, hwp⟩ := @submit_split cfg id ids
    rw [hp]
    refine wp_bind.2 ((wp_clearSessions_change h fun st => .cleared trivial).imp ?_)
    rintro (e | _) w' hI hnone
    · trivial
    · exact hwp _ w' .submitted hI (hnone rfl)
  | markReady id => exact keeps_markStagedSessionReady hmove id
  | markSuccessful id => exact keeps_markStagedSessionSuccessful hmove id
  | abort => exact keeps_abortActiveSession hmove fun _ h => .aborted h
  | rollback => exact keeps_rollbackActiveSession hmove
  | resumeRollback => exact keeps_resumeRollbackIfNeeded hmove
  | rollbackStaged => exact keeps_rollbackStagedSessionIfAny hmove
  | scanStaged => exact keeps_scanStagedSessionsDirAndStage hmove
  | start replies => exact keeps_onStart hmove replies

/-- What a change of the stored state does to the history. -/
theorem Histories.step {i : Request} {c : Sys} {r : c.Res} {w' : World} {g : Int32 → List State}
    (hc : c.Changes cfg (Change True i) w) (hs : (kernel .off Sys.Unreliable).sem c w r w')
    (h : Histories cfg w g) : Histories cfg w' (stateHistory cfg c w r w' g) := by
  intro id
  have hold := h id
  unfold stateHistory
  cases hnew : w'.storedState cfg id with
  | none => rfl
  | some st =>
    dsimp only
    split
    · rename_i he
      rw [he] at hold
      exact hold
    · rename_i hne
      have hchange := hc r w' hs id (by rw [hnew]; exact Ne.symm hne)
      rw [hnew] at hchange
      cases hc' : w.storedState cfg id with
      | none =>
        rw [hc'] at hold hchange
        rw [show g id = [] from hold]
        cases hchange
        exact .submitted
      | some st' =>
        rw [hc'] at hold hchange
        cases hchange with
        | moved hmem => exact .moved hold hmem

/-- **The sessions over a whole run.** -/
theorem sessionRequests_inv (h0 : w₀.NoSessions) {up : Bool} {s : World × (Int32 → List State)}
    (h : (sessionRequests cfg).Runs (fun _ => True) (w₀, fun _ => []) up s) :
    SessionsInv cfg s.1 ∧ Histories cfg s.1 s.2 := by
  have hinv := h.inv_of_wp (I := fun s => SessionsInv cfg s.1 ∧ Histories cfg s.1 s.2)
    (J := fun s => SessionsInv cfg s.1 ∧ Histories cfg s.1 s.2) ?_ (fun _ h => h) ?_ ?_
  · cases up <;> exact hinv
  · refine ⟨h0.inv, fun id => ?_⟩
    unfold World.storedState
    rw [h0.record?]
    rfl
  · rintro ⟨w, g⟩ ⟨_, g'⟩ ⟨hI, hH⟩ ⟨⟨b, m, rfl⟩, hg⟩
    obtain rfl : g' = g := hg
    have hI' : SessionsInv cfg
        { w with db := [], supportsFsCheckpoints := b, inFsCheckpointMode := m } :=
      ⟨hI.unmounted, hI.tree, hI.own, hI.one⟩
    exact ⟨⟨hI', hH⟩, hI', hH⟩
  · rintro i ⟨w, g⟩ ⟨hI, hH⟩
    refine (wp.observe_withPre (keeps_request i w hI) (fun c w _ => ?_) hH
      fun c w r w' g hc _ hs h => h.step hc hs).imp fun _ s hs _ => hs
    cases c <;> trivial

/-- A successful session has gone through all its states in order. -/
theorem StateHistory.success {l : List State} (h : StateHistory .SUCCESS l) :
    l = [.VERIFIED, .STAGED, .ACTIVATED, .SUCCESS] := by
  have hverified : ∀ l, StateHistory .VERIFIED l → l = [.VERIFIED] := by
    intro l h
    cases h with
    | submitted => rfl
    | @moved st _ l h hs => cases st <;> simp [State.successors] at hs
  have hstaged : ∀ l, StateHistory .STAGED l → l = [.VERIFIED, .STAGED] := by
    intro l h
    cases h with
    | @moved st _ l h hs =>
      cases st <;> simp [State.successors] at hs
      rw [hverified l h]
      rfl
  have hactivated : ∀ l, StateHistory .ACTIVATED l → l = [.VERIFIED, .STAGED, .ACTIVATED] := by
    intro l h
    cases h with
    | @moved st _ l h hs =>
      cases st <;> simp [State.successors] at hs
      rw [hstaged l h]
      rfl
  cases h with
  | @moved st _ l h hs =>
    cases st <;> simp [State.successors] at hs
    rw [hactivated l h]
    rfl

/-- **At most one session is not finalized** at any moment of any run, so `GetActiveSession` never
finds more than one. -/
theorem one_active_session (h0 : w₀.NoSessions) {up : Bool} {s : World × (Int32 → List State)}
    (h : (sessionRequests cfg).Runs (fun _ => True) (w₀, fun _ => []) up s) :
    (∀ n t m u, s.1.record? cfg n = some t → t.isFinalized = false → s.1.record? cfg m = some u →
      u.isFinalized = false → n = m) ∧
    ∀ x w', Ends (kernel .off Sys.Unreliable) (getActiveSession cfg) s.1 x w' →
      x ≠ .error "More than one active session" := by
  have hinv := (sessionRequests_inv h0 h).1
  refine ⟨hinv.one, fun x w' hx => ?_⟩
  have hget : wp (kernel .off Sys.Unreliable) (fun _ => True) (getActiveSession cfg)
      (fun x _ => x ≠ .error "More than one active session") s.1 := by
    refine wp_getActiveSession Sys.Unreliable.reads hinv.mounted trivial fun x _ hsome hnone => ?_
    by_cases hex : ∃ n t, s.1.record? cfg n = some t ∧ t.isFinalized = false
    · obtain ⟨n, t, ht, hf⟩ := hex
      rw [hsome n t (hinv.listed ht) ht hf fun m u _ hu hg => hinv.one m u n t hu hg ht hf]
      exact fun he => by cases he
    · rw [hnone fun m t _ ht => by
        by_contra hf
        exact hex ⟨m, t, ht, by simpa using hf⟩]
      exact fun he => by cases he
  exact hget.ends hx

/-- **The changes of stored states** in every run: each one is allowed for the request that makes
it, sessions are cleared only at the start of a submission, a final state is left only by deletion,
and a session is successful only after it was verified, staged and activated since it was
submitted. -/
theorem session_changes (h0 : w₀.NoSessions) {up : Bool} {s : World × (Int32 → List State)}
    (h : (sessionRequests cfg).Runs (fun _ => True) (w₀, fun _ => []) up s) :
    (∀ i c k w r w', Reaches (kernel .off Sys.Unreliable) (Request.prog cfg i) s.1 (call c k) w →
      (kernel .off Sys.Unreliable).sem c w r w' → ∀ id,
      w'.storedState cfg id ≠ w.storedState cfg id →
      Change (∃ k', Reaches (kernel .off Sys.Unreliable) (clearSessions cfg) s.1 (call c k') w) i
        (w.storedState cfg id) (w'.storedState cfg id) ∧
      ∀ st ∈ [State.SUCCESS, .ACTIVATION_FAILED, .ROLLED_BACK, .ROLLBACK_FAILED],
        w.storedState cfg id = some st → w'.storedState cfg id = none) ∧
    ∀ id, s.1.storedState cfg id = some .SUCCESS →
      s.2 id = [.VERIFIED, .STAGED, .ACTIVATED, .SUCCESS] := by
  obtain ⟨hinv, hhist⟩ := sessionRequests_inv h0 h
  refine ⟨fun i c k w r w' hr hs id hne => ?_, fun id hst => ?_⟩
  · have hany := (keeps_request i s.1 hinv).pre_reached hr r w' hs id hne
    have hchange : Change (∃ k', Reaches (kernel .off Sys.Unreliable) (clearSessions cfg) s.1
      (call c k') w)
        i (w.storedState cfg id) (w'.storedState cfg id) := by
      by_cases hclear : ∃ k', Reaches (kernel .off Sys.Unreliable)
        (clearSessions cfg) s.1 (call c k') w
      · exact hany.imp fun _ _ _ _ => hclear
      by_cases hi : ∃ sid ids, i = .submit sid ids
      · obtain ⟨sid, ids, rfl⟩ := hi
        obtain ⟨p, hp, hwp⟩ := @submit_split cfg sid ids
        -- the clearing is over
        have hrest : ∃ w₁, Ends (kernel .off Sys.Unreliable) (clearSessions cfg) s.1 (.ok ()) w₁ ∧
            Reaches (kernel .off Sys.Unreliable) p w₁ (call c k) w := by
          rw [hp] at hr
          rcases hr.of_bind with ⟨p', hr', he⟩ | ⟨_, w₁, he, hr'⟩
          · cases p' with
            | ret _ => exact ⟨w, hr', he ▸ .here _ _⟩
            | fail e => cases he
            | call c' k' =>
              cases he
              exact absurd ⟨k', hr'⟩ hclear
          · exact ⟨w₁, he, hr'⟩
        obtain ⟨w₁, he, hr'⟩ := hrest
        have hcl := wp_clearSessions_change (A := Change True (.submit sid ids)) hinv fun st =>
          .cleared trivial
        have hwp' := hwp (Change False (.submit sid ids)) w₁ .submitted
          (hcl.reaches (Reaches.withPre he)).inv (hcl.ends (Reaches.withPre he) rfl)
        exact (hwp'.pre_reached hr' r w' hs id hne).imp fun _ _ _ hf => hf.elim
      · exact hany.imp fun sid ids he => absurd ⟨sid, ids, he⟩ hi
    refine ⟨hchange, fun st hmem hst => ?_⟩
    rw [hst] at hchange
    refine hchange.final ?_
    simp only [List.mem_cons, List.not_mem_nil, or_false] at hmem
    rcases hmem with rfl | rfl | rfl | rfl <;> rfl
  · have := hhist id
    rw [hst] at this
    exact this.success

end Runs

/-! ## A session from its submission to its success -/

/-- Two packages are staged and none is active. -/
def submissionWorld : World := .ofDirs
  [ (kApexRoot, Dir.empty 0o755),
    (kApexDataDir, apexDataDir),
    (kActiveApexPackagesDataDir, Dir.empty 0o750),
    ("/data/app-staging/session_5", ⟨0o755,
      [("a.apex", .file ⟨3, .apex (soundContent (plainManifest 2 version_two))⟩)], by
        decide, by decide⟩),
    ("/data/app-staging/session_6", newerApexDir) ]

/-- One request after the other, each served by a run of at most 200 calls. -/
def serveAll (l : List Request) (s : World × (Int32 → List State)) : World × (Int32 → List State) :=
  (sessionRequests deviceConfig).serveAll (observeStep Sys.run (stateHistory deviceConfig)) 200 l s

theorem serveAll_runs {s₀ s : World × (Int32 → List State)} (l : List Request)
    (h : (sessionRequests deviceConfig).Runs (fun _ => True) s₀ true s)
    (hl : (sessionRequests deviceConfig).served (observeStep Sys.run (stateHistory deviceConfig))
      200 l s = true) :
    (sessionRequests deviceConfig).Runs (fun _ => True) s₀ true (serveAll l s) :=
  h.serveAll (observeStep_sem Sys.run_sem) (fun _ _ _ _ _ => trivial) hl

/-- Session 5 is submitted, made ready, staged at the next boot and successful. -/
def successfulFive : World × (Int32 → List State) :=
  serveAll [.submit 5 [], .markReady 5, .scanStaged, .markSuccessful 5]
    (submissionWorld, fun _ => [])

theorem submissionWorld_noSessions : submissionWorld.NoSessions where
  unmounted m hm := by cases hm
  names := rfl
  dirs n := by
    have h1 : join kApexSessionsDir n ≠ kApexRoot := join_ne (by decide +kernel)
    have h2 : join kApexSessionsDir n ≠ kApexDataDir := join_ne (by decide +kernel)
    have h3 : join kApexSessionsDir n ≠ kActiveApexPackagesDataDir := join_ne (by decide +kernel)
    have h4 : join kApexSessionsDir n ≠ "/data/app-staging/session_5" := join_ne (by decide +kernel)
    have h5 : join kApexSessionsDir n ≠ "/data/app-staging/session_6" := join_ne (by decide +kernel)
    simp only [submissionWorld, World.ofDirs, List.lookup_cons, beq_eq_false_iff_ne.2 h1,
      beq_eq_false_iff_ne.2 h2,
      beq_eq_false_iff_ne.2 h3, beq_eq_false_iff_ne.2 h4, beq_eq_false_iff_ne.2 h5, List.lookup_nil]

theorem successfulFive_runs : (sessionRequests deviceConfig).Runs (fun _ => True)
    (submissionWorld, fun _ => []) true successfulFive := by
  refine serveAll_runs _ ?_ (by decide +kernel)
  exact Service.Runs.booted (x := .ok ()) .off ⟨⟨false, false, rfl⟩, rfl⟩ (.here _ _) trivial

theorem one_active_session_successful :
    ¬ ∃ w', Ends (kernel .off Sys.Unreliable) (getActiveSession deviceConfig) successfulFive.1
      (.error "More than one active session") w' := by
  rintro ⟨w', hends⟩
  exact (one_active_session submissionWorld_noSessions successfulFive_runs).2 _ w' hends rfl

theorem session_changes_successful :
    successfulFive.2 5 = [.VERIFIED, .STAGED, .ACTIVATED, .SUCCESS] :=
  (session_changes submissionWorld_noSessions successfulFive_runs).2 5 (by decide +kernel)

end Apexd
