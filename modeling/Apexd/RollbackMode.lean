import Apexd.SessionStates

/-!
# The mode of the active directory over a rollback

`DoRollback` keeps the mode of `/data/apex/active` in a local variable between the `stat` and the
`chmod` that follows the `rename`.

* `renamedOnly` — a history variable: the rename is done and the `chmod` is not.
* `RollbackModes` — the invariant: the mode is the original one except while `renamedOnly` holds.
* `rollback_keeps_mode` — a rollback that ends as `ROLLED_BACK` has kept the mode, when no death
  falls between the two or both directories have the same mode.
-/

set_option autoImplicit false

namespace Apexd

open Text Prog

/-- The rename is done and the `chmod` is not. -/
def renamedOnly : (c : Sys) → World → c.Res → World → Bool → Bool
  | .rename _ _, _, .ok _, _, _ => true
  | .chmod _ _, _, .ok _, _, _ => false
  | _, _, _, _, g => g

/-- The calls of a rollback, with the state of `renamedOnly`. -/
def modeKernel : Kernel Sys Sys.Res (World × Bool) := (kernel .off Sys.NoFault).observe renamedOnly

/-- A death and a restart: when the rename is done and the `chmod` is not, `safe` must hold. -/
def ModeRestart (safe : Prop) (s s' : World × Bool) : Prop :=
  s.1.Restart s'.1 ∧ s'.2 = false ∧ (s.2 = true → safe)

/-- The invariant of a rollback of session `id`, with the modes `M` of the active directory and `m`
of the backup. -/
structure RollbackModes (cfg : Config) (id : Int32) (M : Nat) (m : Nat → Prop) (s : World × Bool) :
    Prop where
  sessions : SessionsInv cfg s.1
  only : ∀ n t, s.1.record? cfg n = some t → t.isFinalized = false → n = toString id
  active : ∃ da, s.1.dirs kActiveApexPackagesDataDir = some da ∧
    if s.2 then m da.mode else da.mode = M
  backup : ∀ db, s.1.dirs kApexBackupDir = some db → m db.mode
  rolledBack : s.1.storedState cfg id = some .ROLLED_BACK → s.2 = false

section Modes

variable {cfg : Config} {id : Int32} {M : Nat} {m : Nat → Prop} {s : World × Bool}

/-- The session is being rolled back, and the rename has not happened or the `chmod` after it
has. -/
def Settled (cfg : Config) (id : Int32) (M : Nat) (m : Nat → Prop) (s : World × Bool) : Prop :=
  RollbackModes cfg id M m s ∧ s.2 = false ∧ s.1.storedState cfg id ≠ some .ROLLED_BACK

theorem Looks.same {c : Sys} {r : c.Res} {s' : World × Bool} (hc : Looks c)
    (h : modeKernel.sem c s r s') : s' = s := by
  have hw : s'.1 = s.1 := hc.kept Sys.NoFault.still h.1
  refine Prod.ext hw (h.2.trans ?_)
  cases c <;> first | rfl | exact hc.elim

theorem looks_renamedOnly {c : Sys} (hc : Looks c) {w w' : World} {r : c.Res} {g : Bool} :
    renamedOnly c w r w' g = g := by
  cases c <;> first | rfl | exact hc.elim

theorem keeps_looks {α : Type} {p : ApexM α} {I : World × Bool → Prop} (hp : p.Uses Looks) :
    p.Keeps modeKernel I :=
  hp.keeps (fun c _ hc _ => by cases c <;> trivial) fun _ _ _ _ hc h hs => (hc.same hs) ▸ h

/-- What a call does that changes no record and neither directory's mode. -/
theorem RollbackModes.of_dirs {s' : World × Bool} (h : RollbackModes cfg id M m s)
    (hs : s.1.SameSessions cfg s'.1)
    (ha : ∀ da, s.1.dirs kActiveApexPackagesDataDir = some da →
      ∃ da', s'.1.dirs kActiveApexPackagesDataDir = some da' ∧ da'.mode = da.mode)
    (hb : s'.1.dirs kApexBackupDir = s.1.dirs kApexBackupDir) (hg : s'.2 = s.2) :
    RollbackModes cfg id M m s' where
  sessions := h.sessions.same hs
  only n t ht := h.only n t (hs.record n ▸ ht)
  active := by
    obtain ⟨da, hda, hmode⟩ := h.active
    obtain ⟨da', hda', he⟩ := ha da hda
    exact ⟨da', hda', by rwa [hg, he]⟩
  backup db hdb := h.backup db (hb ▸ hdb)
  rolledBack hr := by
    rw [hs.storedState] at hr
    rw [hg]
    exact h.rolledBack hr

/-- A commit is whole or not at all, and keeps the directories. -/
theorem wp_commit_modes {t : SessionState} {st : State}
    {Q : Except String Unit → World × Bool → Prop}
    (h : RollbackModes cfg id M m s) (ht : t.id = id) (hst : st = .ROLLED_BACK → s.2 = false)
    (hfail : ∀ e, Q (.error e) s)
    (hok : ∀ s', RollbackModes cfg id M m s' → s'.2 = s.2 → s'.1.storedState cfg id = some st →
      Q (.ok ()) s') :
    wp modeKernel (RollbackModes cfg id M m) (updateStateAndCommit cfg t st) Q s := by
  obtain ⟨w, g⟩ := s
  subst ht
  unfold updateStateAndCommit
  rw [bind_eq, exec_bind]
  refine ⟨h, trivial, ?_⟩
  rintro r ⟨w', g'⟩ ⟨hs | hf, hg⟩
  case inr => exact hf.elim
  obtain rfl : g' = g := hg
  have hw : (r, w') = _ := hs
  rcases w.writeFile_cases (getSessionStateFilePath t.id)
      (cfg.proto.serialize { t with state := st }) with ⟨he, _⟩ | ⟨d, d', hd, he, hr⟩
  · rw [he] at hw
    cases hw
    exact ⟨h, hfail _⟩
  rw [he] at hw
  cases hw
  rw [show dirName (getSessionStateFilePath t.id) = getSessionDir t.id from dirName_stateFilePath _]
    at hd hr ⊢
  have hrec : w.Recorded t.id (cfg.proto.serialize { t with state := st })
      (w.setDir (getSessionDir t.id) (some d')) := ⟨⟨d, d', hd, rfl⟩, hr⟩
  have hstored : (w.setDir (getSessionDir t.id) (some d')).storedState cfg t.id = some st := by
    unfold World.storedState
    rw [hrec.stored, if_pos rfl]
    rfl
  have hI : RollbackModes cfg t.id M m (w.setDir (getSessionDir t.id) (some d'), g') := by
    refine ⟨h.sessions.commit (t := { t with state := st }) hrec fun _ => h.only, ?_, ?_, ?_, ?_⟩
    · intro n u hu hfu
      rw [hrec.stored] at hu
      split at hu
      · assumption
      · exact h.only n u hu hfu
    · rw [hrec.dirs_other sessionDir_ne_active.symm]
      exact h.active
    · rw [hrec.dirs_other sessionDir_ne_backup.symm]
      exact h.backup
    · intro hst'
      rw [hstored] at hst'
      exact hst (Option.some.inj hst')
  exact ⟨hI, hok _ hI rfl hstored⟩

/-- Deleting what is in the active directory leaves its mode. -/
theorem keeps_deleteActive : (deleteDirContent kActiveApexPackagesDataDir).Keeps modeKernel
    (fun s => Settled cfg id M m s) := by
  rintro ⟨w, g⟩ h
  unfold deleteDirContent
  have hpaths : wp (kernel .off Sys.NoFault) (fun _ => True)
      (readDir kActiveApexPackagesDataDir fun _ => true) _ w :=
    wp_readDir_paths Sys.NoFault.commits.reads.honest trivial
  have hread : wp modeKernel (fun _ => True) _ _ (w, g) :=
    hpaths.observe_uses (uses_readDir (S := Looks) trivial) fun _ _ _ _ hc => looks_renamedOnly hc
  refine wp_bind.2 (wp_mapErr.2 (((keeps_looks (uses_readDir trivial) (w, g) h).and hread).mono
    (fun _ hI => hI.1) ?_))
  rintro (e | files) s' ⟨hs, -⟩ ⟨-, ⟨-, hfiles⟩, -⟩
  · trivial
  refine keeps_forM files (fun file hfile => ?_) s' hs
  obtain ⟨n, hn, rfl⟩ := hfiles files rfl file hfile
  refine Uses.keeps (S := fun c => c = .unlink (join kActiveApexPackagesDataDir n))
    (uses_exec_bind rfl fun r => uses_check _ r) (fun c _ hc _ => by subst hc; trivial) ?_
  rintro c ⟨w, g⟩ r ⟨w', g'⟩ rfl ⟨hI, hg, hne⟩ ⟨hu | hf, hg'⟩
  case inr => exact hf.elim
  obtain rfl : g' = g := hg'
  have hsame : w.SameSessions cfg w' := sameSessions_unlink (notSession_active (below_join _ n)) hu
  have hw : (r, w') = w.unlink (join kActiveApexPackagesDataDir n) := hu
  rcases w.unlink_cases (join kActiveApexPackagesDataDir n) with ⟨e, he, _⟩ | ⟨d, f, hd, _, he⟩
  · rw [he] at hw
    obtain ⟨_, rfl⟩ := Prod.mk.inj hw
    exact ⟨hI, hg, hne⟩
  · rw [he] at hw
    obtain ⟨_, rfl⟩ := Prod.mk.inj hw
    rw [dirName_join hn] at hd hsame ⊢
    refine ⟨hI.of_dirs hsame ?_ (World.setDir_other _ _ active_ne_backup.symm) rfl, hg,
      by rwa [hsame.storedState]⟩
    intro da hda
    rw [show w.dirs kActiveApexPackagesDataDir = some d from hd] at hda
    obtain rfl := Option.some.inj hda
    exact ⟨_, World.setDir_self _ _ _, rfl⟩

theorem wp_rename_modes {f : Except Errno Unit → ApexM Unit}
    {Q : Except String Unit → World × Bool → Prop} (h : Settled cfg id M m s)
    (herr : ∀ e, wp modeKernel (RollbackModes cfg id M m) (f (.error e)) Q s)
    (hok : ∀ s', RollbackModes cfg id M m s' → s'.1.storedState cfg id ≠ some .ROLLED_BACK →
      wp modeKernel (RollbackModes cfg id M m) (f (.ok ())) Q s') :
    wp modeKernel (RollbackModes cfg id M m)
      ((sys (.rename kApexBackupDir kActiveApexPackagesDataDir)).bind f) Q s := by
  obtain ⟨w, g⟩ := s
  obtain ⟨h, rfl : g = false, hne⟩ := h
  refine ⟨h, trivial, ?_⟩
  rintro r ⟨w', g'⟩ ⟨hs | hf, hg⟩
  case inr => exact hf.elim
  have hsame : w.SameSessions cfg w' := sameSessions_rename hs
  have hw : (r, w') = w.rename kApexBackupDir kActiveApexPackagesDataDir := hs
  unfold World.rename at hw
  split at hw
  · cases hw
    obtain rfl : g' = false := hg
    exact herr _
  rename_i db hdb
  split at hw
  · cases hw
    obtain rfl : g' = false := hg
    exact herr _
  split at hw
  · cases hw
    obtain rfl : g' = true := hg
    have hnone : ((w.dropDir kApexBackupDir).setDir kActiveApexPackagesDataDir (some db)).dirs
        kApexBackupDir = none := by
      rw [World.setDir_other _ _ active_ne_backup.symm, World.dropDir_self]
    have hne' : ((w.dropDir kApexBackupDir).setDir kActiveApexPackagesDataDir (some db)).storedState
        cfg id ≠ some .ROLLED_BACK := by
      rwa [hsame.storedState]
    refine hok _ ⟨h.sessions.same hsame, ?_, ?_, ?_, fun hr => absurd hr hne'⟩ hne'
    · exact fun n t ht => h.only n t (hsame.record n ▸ ht)
    · exact ⟨db, World.setDir_self _ _ _, h.backup db hdb⟩
    · intro db' hdb'
      rw [hnone] at hdb'
      cases hdb'
  · cases hw
    obtain rfl : g' = false := hg
    exact herr _

theorem wp_chmod_modes {f : Except Errno Unit → ApexM Unit}
    {Q : Except String Unit → World × Bool → Prop}
    (h : RollbackModes cfg id M m s) (hne : s.1.storedState cfg id ≠ some .ROLLED_BACK)
    (hok : ∀ s', Settled cfg id M m s' → wp modeKernel (RollbackModes cfg id M m)
      (f (.ok ())) Q s') :
    wp modeKernel (RollbackModes cfg id M m)
      ((sys (.chmod kActiveApexPackagesDataDir M)).bind f) Q s := by
  obtain ⟨w, g⟩ := s
  refine ⟨h, trivial, ?_⟩
  rintro r ⟨w', g'⟩ ⟨hs | hf, hg⟩
  case inr => exact hf.elim
  have hsame : w.SameSessions cfg w' := sameSessions_chmod hs
  obtain ⟨da, hda, _⟩ := h.active
  have hw : (r, w') = w.chmod kActiveApexPackagesDataDir M := hs
  unfold World.chmod at hw
  rw [hda] at hw
  cases hw
  obtain rfl : g' = false := hg
  have hne' : (w.setDir kActiveApexPackagesDataDir (some (da.chmod M))).storedState cfg id ≠
      some .ROLLED_BACK := by
    rwa [hsame.storedState]
  refine hok _ ⟨⟨h.sessions.same hsame, ?_, ⟨_, World.setDir_self _ _ _, rfl⟩, ?_,
    fun hr => absurd hr hne'⟩, rfl, hne'⟩
  · exact fun n t ht => h.only n t (hsame.record n ▸ ht)
  · intro db hdb
    rw [World.setDir_other _ _ active_ne_backup.symm] at hdb
    exact h.backup db hdb

/-- The rest of a program, after a part that only looks. -/
theorem wp_looks_bind {α β : Type} {p : ApexM α} {f : α → ApexM β} {I : World × Bool → Prop}
    {Q : Except String β → World × Bool → Prop} (hp : p.Uses Looks) (hI : I s)
    (hok : ∀ a, wp modeKernel I (f a) Q s) (herr : ∀ e, Q (.error e) s) :
    wp modeKernel I (p.bind f) Q s :=
  (keeps_looks hp s rfl).bind_stays hp (fun _ _ _ hc hs => Looks.same hc hs) hI (fun a _ => hok a)
    fun e _ => herr e

/-- **Restoring keeps the mode**, unless it is cut off. -/
theorem wp_restoreBackup_modes (h : Settled cfg id M m s) :
    wp modeKernel (RollbackModes cfg id M m) restoreBackup
      (fun _ s' => Settled cfg id M m s') s := by
  unfold restoreBackup
  simp only [bind_eq]
  apply wp_looks_bind (uses_pathExists trivial) h.1 ?_ fun _ => h
  intro b
  apply wp_looks_bind (uses_require _ _) h.1 ?_ fun _ => h
  intro _
  -- the mode that is read is the original one
  refine wp_bind.2 ⟨h.1, trivial, ?_⟩
  intro r s' hs
  obtain rfl : s' = s := Looks.same (c := .stat _) trivial hs
  obtain ⟨⟨rfl, -⟩ | hf, -⟩ := hs
  case inr => exact hf.elim
  have hstat : s'.1.stat kActiveApexPackagesDataDir = .ok ⟨true, M⟩ := by
    obtain ⟨da, hda, hmode⟩ := h.1.active
    rw [h.2.1, if_neg (by simp)] at hmode
    unfold World.stat
    rw [h.1.sessions.unmounted.mounted active_notApex, hda, ← hmode]
  show wp _ _ (check _ (s'.1.stat kActiveApexPackagesDataDir)) _ _
  rw [hstat]
  refine ⟨h.1, ?_⟩
  apply wp_looks_bind (show (sys (.log deletingActivePackages)).Uses Looks from
    ⟨trivial, fun _ => trivial⟩) h.1 ?_ fun _ => h
  intro _
  refine wp_bind.2 ((keeps_deleteActive s' h).mono (fun _ hI => hI.1) ?_)
  rintro (e | _) s₁ h₁ _
  · exact h₁
  dsimp only [Then]
  rw [Prog.bind_assoc]
  apply wp_rename_modes h₁
  · intro e
    exact ⟨h₁.1, h₁⟩
  intro s₂ h₂ hne
  apply wp_chmod_modes h₂ hne
  intro s₃ h₃
  exact ⟨h₃.1, h₃⟩

theorem wp_doRollback_modes {t : SessionState} (h : Settled cfg id M m s) (ht : t.id = id) :
    wp modeKernel (RollbackModes cfg id M m) (doRollback cfg t) (fun _ s' => s'.2 = false) s := by
  unfold doRollback
  rw [bind_eq]
  apply wp_looks_bind (show (sys .getFlags).Uses Looks from ⟨trivial, fun _ => trivial⟩) h.1 ?_
    fun _ => h.2.1
  intro flags
  split
  · exact ⟨h.1, h.2.1⟩
  refine wp_onFail.2 ((wp_restoreBackup_modes h).imp ?_)
  rintro (e | _) s₁ h₁ hs₁
  · apply wp_commit_modes h₁ ht
    · rintro ⟨⟩
    · exact fun _ => hs₁.2.1
    · exact fun s₂ _ hg _ => hg.trans hs₁.2.1
  · exact hs₁.2.1

theorem wp_commitOrLog_modes {t : SessionState} {st : State} (h : RollbackModes cfg id M m s)
    (ht : t.id = id) (hg : s.2 = false) :
    wp modeKernel (RollbackModes cfg id M m) (commitOrLog cfg t st) (fun _ _ => True) s := by
  unfold commitOrLog
  refine wp_bind.2 (wp_attempt.2 ((wp_commit_modes (Q := fun _ _ => True) h ht (fun _ => hg)
    (fun _ => trivial) fun _ _ _ _ => trivial).imp ?_))
  intro x s' hI _
  exact ⟨hI, trivial⟩

theorem wp_rollbackActivatedSession_modes {t : SessionState} (h : RollbackModes cfg id M m s)
    (ht : t.id = id) (hg : s.2 = false) : wp modeKernel (RollbackModes cfg id M m)
      (rollbackActivatedSession cfg t) (fun _ _ => True) s := by
  unfold rollbackActivatedSession
  rw [bind_eq]
  apply wp_looks_bind (show (sys .getFlags).Uses Looks from ⟨trivial, fun _ => trivial⟩) h ?_
    fun _ => trivial
  intro flags
  split
  · exact ⟨h, trivial⟩
  simp only [bind_eq]
  refine wp_bind.2 (wp_mapErr.2 (wp_commit_modes h ht (fun _ => hg) (fun _ => trivial) ?_))
  intro s₁ h₁ hg₁ hst
  have hs₁ : Settled cfg id M m s₁ := by
    refine ⟨h₁, hg₁.trans hg, ?_⟩
    rw [hst]
    decide
  refine wp_bind.2 (wp_mapErr.2 ((wp_doRollback_modes hs₁ ht).imp ?_))
  rintro (e | _) s₂ h₂ hg₂
  · trivial
  · exact wp_commitOrLog_modes h₂ ht hg₂

theorem wp_resumeRollback_modes {t : SessionState} (h : Settled cfg id M m s) (ht : t.id = id) :
    wp modeKernel (RollbackModes cfg id M m) (resumeRollback cfg t) (fun _ _ => True) s := by
  unfold resumeRollback
  simp only [bind_eq]
  apply wp_looks_bind (uses_pathExists trivial) h.1 ?_ fun _ => trivial
  intro b
  cases b with
  | false => exact wp_commitOrLog_modes h.1 ht h.2.1
  | true =>
    refine wp_bind.2 ((wp_doRollback_modes h ht).imp ?_)
    rintro (e | _) s₁ h₁ hg₁
    · trivial
    · exact wp_commitOrLog_modes h₁ ht hg₁

theorem wp_resumeRollbackIfNeeded_modes (h : RollbackModes cfg id M m s) (hg : s.2 = false) :
    wp modeKernel (RollbackModes cfg id M m) (resumeRollbackIfNeeded cfg) (fun _ _ => True) s := by
  obtain ⟨w, g⟩ := s
  unfold resumeRollbackIfNeeded
  have hactive : wp (kernel .off Sys.NoFault) (fun _ => True) (getActiveSession cfg)
      (fun x _ => ∀ t, x = .ok (some t) → ∃ n, w.record? cfg n = some t ∧ t.isFinalized = false)
          w :=
    wp_getActiveSession Sys.NoFault.commits.reads h.sessions.mounted trivial fun x hx _ _ t ht => by
      obtain ⟨n, _, hr⟩ := hx t ht
      exact ⟨n, hr⟩
  have hread : wp modeKernel (fun _ => True) _ _ (w, g) :=
    hactive.observe_uses (uses_getActiveSession (S := Looks) trivial fun _ => trivial)
      fun _ _ _ _ hc => looks_renamedOnly hc
  have hstay : wp modeKernel (· = (w, g)) (getActiveSession cfg) (fun _ _ => True) (w, g) :=
    keeps_looks (uses_getActiveSession trivial fun _ => trivial) _ rfl
  rw [bind_eq]
  refine wp_bind.2 ((hstay.and hread).mono (fun s' he => he.1 ▸ h) ?_)
  rintro (e | _ | t) s' ⟨rfl, -⟩ ⟨-, hx, -⟩
  · trivial
  · exact ⟨h, trivial⟩
  dsimp only [Then]
  split
  case isFalse => exact ⟨h, trivial⟩
  rename_i hst
  -- the session found is the one being rolled back
  obtain ⟨n, hr, hf⟩ := hx t rfl
  obtain rfl := h.only n t hr hf
  have ht : t.id = id := toString_int32_inj.1 (h.sessions.own _ t hr).symm
  apply wp_resumeRollback_modes ⟨h, hg, ?_⟩ ht
  show w.storedState cfg id ≠ _
  unfold World.storedState
  rw [hr, Option.map_some, hst]
  decide

theorem ModeRestart.modes {safe : Prop} {s' : World × Bool} (h : RollbackModes cfg id M m s)
    (hr : ModeRestart safe s s') (hsafe : safe → ∀ k, m k → k = M) :
    RollbackModes cfg id M m s' := by
  obtain ⟨⟨_, _, hw⟩, hg, hs⟩ := hr
  have hsame : s.1.SameSessions cfg s'.1 := by
    rw [hw]
    exact sameSessions_mounts rfl fun hm => hm
  refine ⟨h.sessions.same hsame, fun n t ht => h.only n t (hsame.record n ▸ ht), ?_,
    ?_, fun _ => hg⟩
  · obtain ⟨da, hda, hmode⟩ := h.active
    refine ⟨da, by rw [hw]; exact hda, ?_⟩
    rw [hg, if_neg (by simp)]
    split at hmode
    · rename_i hgs
      exact hsafe (hs hgs) _ hmode
    · exact hmode
  · intro db hdb
    rw [hw] at hdb
    exact h.backup db hdb

/-- **A rollback keeps the mode of the active directory**: when no death falls between the rename
and the `chmod`, or the backup has that mode, it is there whenever `ROLLED_BACK` is stored. -/
theorem rollback_keeps_mode {w : World} {t : SessionState} {da : Dir} {x : World × Bool}
    (h : SessionsInv cfg w) (hr : w.record? cfg (toString t.id) = some t)
    (ht : t.isFinalized = false) (ha : w.dirs kActiveApexPackagesDataDir = some da)
    (hc : Crashes modeKernel
      (ModeRestart (∀ db, w.dirs kApexBackupDir = some db → db.mode = da.mode))
      (rollbackActivatedSession cfg t) (resumeRollbackIfNeeded cfg) (w, false) x) :
    x.1.storedState cfg t.id = some .ROLLED_BACK →
      ∃ d, x.1.dirs kActiveApexPackagesDataDir = some d ∧ d.mode = da.mode := by
  intro hdone
  have h0 : RollbackModes cfg t.id da.mode
      (fun k => ∃ db, w.dirs kApexBackupDir = some db ∧ k = db.mode) (w, false) := by
    refine ⟨h, fun n u hu hfu => h.one n u _ t hu hfu hr ht, ⟨da, ha, rfl⟩, ?_, fun _ => rfl⟩
    exact fun db hdb => ⟨db, hdb, rfl⟩
  have hinv := hc.inv (wp_rollbackActivatedSession_modes h0 rfl rfl) fun s₁ s₂ hI hrs => by
    refine wp_resumeRollbackIfNeeded_modes (hrs.modes hI ?_) hrs.2.1
    rintro hsafe k ⟨db, hdb, rfl⟩
    exact hsafe db hdb
  obtain ⟨d, hd, hmode⟩ := hinv.active
  rw [hinv.rolledBack hdone, if_neg (by simp)] at hmode
  exact ⟨d, hd, hmode⟩

end Modes

/-! ## A rollback that is killed -/

theorem activatedWorld_sessions : SessionsInv deviceConfig activatedWorld := by
  have honly : ∀ n, (activatedWorld.dirs (join kApexSessionsDir n)).isSome → n = "5" := by
    intro n hn
    obtain ⟨e, he, hp⟩ := List.lookup_isSome_iff.1 hn
    have hp := eq_of_beq hp
    simp only [List.mem_cons, List.not_mem_nil, or_false] at he
    rcases he with rfl | rfl | rfl | rfl
    · exact absurd hp (join_ne_self _ _)
    · exact join_right_inj.1 hp
    · exact absurd hp (join_ne (by decide))
    · exact absurd hp (join_ne (by decide))
  have hrec : activatedWorld.record? deviceConfig "5" = some activatedSession := by decide
  refine ⟨by rintro m ⟨⟩, ?_, ?_, ?_⟩
  · intro n _ hn
    rw [honly n hn]
    decide
  · intro n t ht
    obtain rfl := honly n (World.record?_dir ht)
    rw [hrec] at ht
    cases ht
    decide
  · intro n t k u ht _ hu _
    rw [honly n (World.record?_dir ht), honly k (World.record?_dir hu)]

/-- Killed with the updated package deleted, and resumed. -/
theorem rollback_keeps_mode_killed :
    let x₁ := (runN (observeStep Sys.run renamedOnly) 8
      (rollbackActivatedSession deviceConfig activatedSession) (activatedWorld, false)).2
    let x₂ := (runN (observeStep Sys.run renamedOnly) 30 (resumeRollbackIfNeeded deviceConfig)
      ({ x₁.1 with db := [], supportsFsCheckpoints := false, inFsCheckpointMode := false },
        false)).2
    x₂.1.storedState deviceConfig 5 = some .ROLLED_BACK ∧
      ∃ d, x₂.1.dirs kActiveApexPackagesDataDir = some d ∧ d.mode = 0o755 := by
  intro x₁ x₂
  have hdone : x₂.1.storedState deviceConfig 5 = some .ROLLED_BACK := by decide
  refine ⟨hdone, rollback_keeps_mode (t := activatedSession) activatedWorld_sessions (by decide)
    (by decide) rfl (.again (.first (runN_reaches (observeStep_sem Sys.run_sem) _ _ _))
      ⟨⟨false, false, rfl⟩, rfl, ?_⟩ (runN_reaches (observeStep_sem Sys.run_sem) _ _ _)) hdone⟩
  intro hg
  have : x₁.2 = false := by decide
  rw [this] at hg
  cases hg

/-- Killed between the rename and the `chmod`: the resumed rollback leaves the mode of the
backup. -/
theorem rollback_mode_lost : ¬ ∀ (w : World) (t : SessionState) (da : Dir) (x : World × Bool),
    SessionsInv deviceConfig w → w.record? deviceConfig (toString t.id) = some t →
      t.state = .ACTIVATED →
    w.dirs kActiveApexPackagesDataDir = some da →
    Crashes modeKernel (ModeRestart True) (rollbackActivatedSession deviceConfig t)
      (resumeRollbackIfNeeded deviceConfig) (w, false) x →
    x.1.storedState deviceConfig t.id = some .ROLLED_BACK →
    ∃ d, x.1.dirs kActiveApexPackagesDataDir = some d ∧ d.mode = da.mode := by
  intro hclaim
  let x₁ := (runN (observeStep Sys.run renamedOnly) 9
    (rollbackActivatedSession deviceConfig activatedSession) (activatedWorld, false)).2
  let x₂ := (runN (observeStep Sys.run renamedOnly) 30 (resumeRollbackIfNeeded deviceConfig)
    ({ x₁.1 with db := [], supportsFsCheckpoints := false, inFsCheckpointMode := false }, false)).2
  obtain ⟨d, hd, hmode⟩ := hclaim activatedWorld activatedSession _ x₂ activatedWorld_sessions
    (by decide) rfl rfl (.again (.first (runN_reaches (observeStep_sem Sys.run_sem) _ _ _))
      ⟨⟨false, false, rfl⟩, rfl, fun _ => trivial⟩
        (runN_reaches (observeStep_sem Sys.run_sem) _ _ _))
    (by decide)
  have hbackup : (x₂.1.dirs kActiveApexPackagesDataDir).map (·.mode) = some 0o700 := by decide
  rw [hd, Option.map_some, hmode] at hbackup
  exact absurd hbackup (by decide)

end Apexd
