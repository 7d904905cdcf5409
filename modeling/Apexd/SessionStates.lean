import Apexd.SessionFrame
import Apexd.SessionTorn

/-!
# One session that is not finalized

* `SessionsInv` — every record is its directory's own, and at most one is not finalized.
* `changeKernel cfg A` — the kernel in which every call must change stored states as `A` allows.
* Commits and deletions keep the invariant; so do the programs that touch no record (`Untouched`).
-/

set_option autoImplicit false

namespace Apexd

open Text Prog

/-! ## One session that is not finalized -/

/-- Every record is its directory's own, and at most one is not finalized. -/
structure SessionsInv (cfg : Config) (w : World) : Prop where
  unmounted : w.DataUnmounted
  tree : w.SessionTree
  own : ∀ n t, w.record? cfg n = some t → n = toString t.id
  one : ∀ n t m u, w.record? cfg n = some t → t.isFinalized = false → w.record? cfg m = some u →
    u.isFinalized = false → n = m

/-- The stored state of a session. -/
def World.storedState (w : World) (cfg : Config) (id : Int32) : Option State :=
  (w.record? cfg (toString id)).map (·.state)

/-- A call changes stored states only as `A` allows. -/
def Sys.Changes (cfg : Config) (A : Option State → Option State → Prop) (c : Sys) (w : World) :
    Prop :=
  ∀ r w', (kernel .off Sys.Unreliable).sem c w r w' → ∀ id,
    w'.storedState cfg id ≠ w.storedState cfg id → A (w.storedState cfg id) (w'.storedState cfg id)

/-- The kernel in which every call must keep to `A`. -/
def changeKernel (cfg : Config) (A : Option State → Option State → Prop) :
    Kernel Sys Sys.Res World :=
  (kernel .off Sys.Unreliable).withPre (Sys.Changes cfg A)

theorem toString_int32_inj {i j : Int32} : toString i = toString j ↔ i = j :=
  toString_int_inj.trans Int32.toInt_inj

section Sessions

variable {cfg : Config} {A : Option State → Option State → Prop} {w w₀ w' : World}

theorem World.SameSessions.storedState (h : w.SameSessions cfg w') (i : Int32) :
    w'.storedState cfg i = w.storedState cfg i := by
  unfold World.storedState
  rw [h.record]

theorem SessionsInv.same (h : SessionsInv cfg w) (hs : w.SameSessions cfg w') :
    SessionsInv cfg w' where
  unmounted := hs.unmounted h.unmounted
  tree := hs.tree h.tree
  own n t ht := h.own n t (hs.record n ▸ ht)
  one n t m u ht hf hu hg := h.one n t m u (hs.record n ▸ ht) hf (hs.record m ▸ hu) hg

/-- A record is in the directory of its name. -/
theorem World.record?_dir {n : String} {t : SessionState} (ht : w.record? cfg n = some t) :
    (w.dirs (join kApexSessionsDir n)).isSome := by
  unfold World.record? World.readFile World.file? World.node? at ht
  rw [dirName_stateFilePath] at ht
  cases hd : w.dirs (join kApexSessionsDir n) with
  | some d => rfl
  | none => simp [hd] at ht

/-- A directory with a record is listed. -/
theorem SessionsInv.listed (h : SessionsInv cfg w) {n : String} {t : SessionState}
    (ht : w.record? cfg n = some t) : n ∈ w.sessionNames :=
  h.tree n (h.own n t ht ▸ noSlash_int _) (World.record?_dir ht)

theorem SessionsInv.mounted (h : SessionsInv cfg w) : w.mounted kApexSessionsDir = none :=
  h.unmounted.mounted sessions_notApex

theorem SparesSessions.changes {c : Sys} (hc : SparesSessions c) (w : World) :
    c.Changes cfg A w := by
  intro r w' hs id hne
  unfold World.storedState at hne
  rw [(sparesSessions_same hc hs).record] at hne
  exact absurd rfl hne

/-- Nothing about sessions has happened since `w₀`. -/
def Untouched (cfg : Config) (w₀ w : World) : Prop := SessionsInv cfg w ∧ w₀.SameSessions cfg w

theorem SessionsInv.untouched (h : SessionsInv cfg w) : Untouched cfg w w := ⟨h, .refl w⟩

theorem Untouched.step {c : Sys} {r : c.Res} (h : Untouched cfg w₀ w) (hc : SparesSessions c)
    (hs : (kernel .off Sys.Unreliable).sem c w r w') : Untouched cfg w₀ w' :=
  have hw := sparesSessions_same hc hs
  ⟨h.1.same hw, h.2.trans hw⟩

theorem keeps_untouched {α : Type} {p : ApexM α} (hp : p.Uses SparesSessions) :
    p.Keeps (changeKernel cfg A) (Untouched cfg w₀) :=
  hp.keeps (fun _ w hc _ => hc.changes w) fun _ _ _ _ hc h hs => h.step hc hs

/-- What holds for reading holds in `changeKernel`. -/
theorem wp_changeKernel {α : Type} {p : ApexM α} {I : World → Prop}
    {Q : Except String α → World → Prop}
    (h : wp (kernel .off Sys.Unreliable) I p Q w) (hp : p.Uses SparesSessions) :
    wp (changeKernel cfg A) I p Q w :=
  h.withPre hp fun _ w hc _ => hc.changes w

/-- The records with one of them replaced. -/
theorem World.Recorded.stored {id : Int32} {t : SessionState}
    (h : w.Recorded id (cfg.proto.serialize t) w') (n : String) :
    w'.record? cfg n = if n = toString id then some t else w.record? cfg n := by
  by_cases hn : n = toString id
  · rw [if_pos hn, hn, h.record?, SessionProto.parse_serialize]
  · rw [if_neg hn, h.record?_other hn]

theorem SessionsInv.commit {t : SessionState} (h : SessionsInv cfg w)
    (hr : w.Recorded t.id (cfg.proto.serialize t) w')
    (hone : t.isFinalized = false → ∀ n u, w.record? cfg n = some u → u.isFinalized = false →
      n = toString t.id) : SessionsInv cfg w' where
  unmounted := h.unmounted.onlyDirs hr.onlyDirs
  tree := by
    obtain ⟨d, d', hd, rfl⟩ := hr.eq
    refine h.tree.of_subset (fun n hs => ?_) ?_
    · by_cases hp : join kApexSessionsDir n = getSessionDir t.id
      · rw [hp, hd]; rfl
      · rwa [World.setDir_other _ _ hp] at hs
    · rw [World.sessionNames_setDir_other _ _ (sessions_ne_sessionDir t.id)]
      exact fun _ hn => hn
  own n u hu := by
    rw [hr.stored] at hu
    split at hu
    · rename_i hn
      cases hu
      exact hn
    · exact h.own n u hu
  one n u m v hu hfu hv hfv := by
    rw [hr.stored] at hu hv
    split at hu <;> split at hv
    · rename_i hn hm; rw [hn, hm]
    · rename_i hn _
      cases hu
      exact hn.trans (hone hfu m v hv hfv).symm
    · rename_i _ hm
      cases hv
      exact (hone hfv n u hu hfu).trans hm.symm
    · exact h.one n u m v hu hfu hv hfv

/-- A commit: whole or not at all. -/
theorem wp_updateStateAndCommit_change {s : SessionState} {st : State}
    {Q : Except String Unit → World → Prop} (h : SessionsInv cfg w)
    (hone : ({ s with state := st } : SessionState).isFinalized = false →
      ∀ n u, w.record? cfg n = some u → u.isFinalized = false → n = toString s.id)
    (hA : w.storedState cfg s.id ≠ some st → A (w.storedState cfg s.id) (some st))
    (hfail : ∀ e, Q (.error e) w)
    (hok : ∀ w', w.Recorded s.id (cfg.proto.serialize { s with state := st }) w' →
      SessionsInv cfg w' → Q (.ok ()) w') :
    wp (changeKernel cfg A) (SessionsInv cfg) (updateStateAndCommit cfg s st) Q w := by
  have hsem : ∀ r w', (kernel .off Sys.Unreliable).sem (.writeFile (getSessionStateFilePath s.id)
      (cfg.proto.serialize { s with state := st })) w r w' → (r = false ∧ w' = w) ∨
      (r = true ∧ w.Recorded s.id (cfg.proto.serialize { s with state := st }) w') := by
    rintro r w' (hn | hf)
    · have hw : (r, w') = _ := hn
      rcases w.writeFile_cases (getSessionStateFilePath s.id)
          (cfg.proto.serialize { s with state := st }) with ⟨he, _⟩ | ⟨d, d', hd, he, hr⟩
      · rw [he] at hw
        cases hw
        exact Or.inl ⟨rfl, rfl⟩
      · rw [he] at hw
        cases hw
        rw [show dirName (getSessionStateFilePath s.id) = getSessionDir s.id
          from dirName_stateFilePath _]
          at hd hr ⊢
        exact Or.inr ⟨rfl, ⟨d, d', hd, rfl⟩, hr⟩
    · exact Or.inl hf
  unfold updateStateAndCommit
  rw [bind_eq, exec_bind]
  refine ⟨h, ?_, ?_⟩
  · intro r w' hs id hne
    rcases hsem r w' hs with ⟨_, rfl⟩ | ⟨_, hr⟩
    · exact absurd rfl hne
    · unfold World.storedState at hne ⊢
      rw [hr.stored] at hne ⊢
      by_cases hid : id = s.id
      · subst hid
        rw [if_pos rfl] at hne ⊢
        exact hA fun he => hne he.symm
      · rw [if_neg fun hn => hid (toString_int32_inj.1 hn)] at hne
        exact absurd rfl hne
  · intro r w' hs
    rcases hsem r w' hs with ⟨rfl, rfl⟩ | ⟨rfl, hr⟩
    · exact ⟨h, hfail _⟩
    · have hI : SessionsInv cfg w' := h.commit hr hone
      exact ⟨hI, hok w' hr hI⟩

/-- A commit over the record that is there. -/
theorem wp_update {s t : SessionState} {st : State} (h : SessionsInv cfg w)
    (ht : w.record? cfg (toString s.id) = some t) (hf : t.isFinalized = false)
    (hA : A (some t.state) (some st)) :
    wp (changeKernel cfg A) (SessionsInv cfg) (updateStateAndCommit cfg s st)
      (fun x w' => (x = .ok () → w'.record? cfg (toString s.id) = some { s with state := st }) ∧
        ((∃ e, x = .error e) → w' = w)) w := by
  refine wp_updateStateAndCommit_change h ?_ ?_ ?_ ?_
  · intro _ n u hu hfu
    exact h.one n u _ t hu hfu ht hf
  · intro _
    unfold World.storedState
    rwa [ht]
  · exact fun e => ⟨fun he => (by cases he), fun _ => rfl⟩
  · intro w' hr _
    refine ⟨fun _ => ?_, fun ⟨e, he⟩ => by cases he⟩
    rw [hr.stored, if_pos rfl]

/-- At most the record of `id` has gone. -/
structure World.SessionRemoved (cfg : Config) (id : Int32) (w w' : World) : Prop where
  onlyDirs : w.OnlyDirs w'
  shrink : w.FilesShrink w'
  other : ∀ n, n ≠ toString id → w'.record? cfg n = w.record? cfg n
  tree : w.SessionTree → w'.SessionTree

theorem World.sessionRemoved_removeAll (cfg : Config) (id : Int32) (w : World) :
    w.SessionRemoved cfg id (w.removeAll (getSessionDir id)) := by
  refine ⟨w.removeAll_onlyDirs _, w.filesShrink_removeAll _, fun n hn => ?_, fun ht => ?_⟩
  · have hne : join kApexSessionsDir n ≠ getSessionDir id := fun he => hn (join_right_inj.1 he)
    unfold World.removeAll
    split
    · rfl
    · unfold World.record? World.readFile World.file? World.node?
      rw [dirName_stateFilePath, World.dropDir_other _ hne]
      rw [dirName_getSessionDir]
      exact join_ne_self _ _
  · unfold World.removeAll
    split
    · exact ht
    · exact ht.dropDir fun he => absurd he.symm (sessions_ne_sessionDir id)

theorem World.sessionRemoved_torn {id : Int32} (h : w.tornRemove (getSessionDir id) w') :
    w.SessionRemoved cfg id w' := by
  obtain ⟨d, d', hd, hsub, rfl⟩ := h
  refine ⟨w.setDir_onlyDirs _ _, World.filesShrink_sublist hd hsub, fun n hn => ?_, fun ht => ?_⟩
  · exact w.record?_setDir_other _ fun he => hn (join_right_inj.1 he)
  · refine ht.of_subset (fun n hs => ?_) ?_
    · by_cases hp : join kApexSessionsDir n = getSessionDir id
      · rw [hp, hd]; rfl
      · rwa [World.setDir_other _ _ hp] at hs
    · rw [World.sessionNames_setDir_other _ _ (sessions_ne_sessionDir id)]
      exact fun _ hn => hn

theorem SessionsInv.removed {id : Int32} (h : SessionsInv cfg w) (hw : w.SessionRemoved cfg id w') :
    SessionsInv cfg w' where
  unmounted := h.unmounted.onlyDirs hw.onlyDirs
  tree := hw.tree h.tree
  own n t ht := h.own n t (hw.shrink.record? ht)
  one n t m u ht hf hu hg := h.one n t m u (hw.shrink.record? ht) hf (hw.shrink.record? hu) hg

/-- Deleting a session: its record goes or stays, and no other one changes. -/
theorem wp_deleteSession_change {s : SessionState} (h : SessionsInv cfg w)
    (hA : ∀ st, w.storedState cfg s.id = some st → A (some st) none) :
    wp (changeKernel cfg A) (SessionsInv cfg) (deleteSession s)
      (fun x w' => w.SessionRemoved cfg s.id w' ∧
        (x = .ok () → w'.record? cfg (toString s.id) = none)) w := by
  have hsem : ∀ r w', (kernel .off Sys.Unreliable).sem (.removeAll (getSessionDir s.id)) w r w' →
      w.SessionRemoved cfg s.id w' ∧ (r = .ok () → w'.record? cfg (toString s.id) = none) := by
    rintro r w' (⟨rfl, rfl⟩ | ⟨⟨e, _, rfl⟩, rfl | ht⟩)
    · exact ⟨w.sessionRemoved_removeAll cfg s.id, fun _ => (World.removeAll_session cfg w s.id).1⟩
    · exact ⟨⟨.refl _, .refl _, fun _ _ => rfl, fun h => h⟩, fun he => by cases he⟩
    · exact ⟨World.sessionRemoved_torn ht, fun he => by cases he⟩
  unfold deleteSession deleteSessionDir
  rw [bind_eq, exec_bind]
  refine ⟨h, ?_, ?_⟩
  · intro r w' hs id hne
    obtain ⟨hw, -⟩ := hsem r w' hs
    unfold World.storedState at hne ⊢
    by_cases hid : id = s.id
    · subst hid
      cases hr : w'.record? cfg (toString s.id) with
      | some t =>
        rw [hr, hw.shrink.record? hr] at hne
        exact absurd rfl hne
      | none =>
        rw [hr] at hne
        obtain ⟨t, ht⟩ := Option.ne_none_iff_exists'.1 fun (hn : w.record? cfg _ = none) =>
          hne (by rw [hn])
        rw [ht]
        exact hA t.state (by unfold World.storedState; rw [ht]; rfl)
    · rw [hw.other _ fun hn => hid (toString_int32_inj.1 hn)] at hne
      exact absurd rfl hne
  · intro r w' hs
    obtain ⟨hw, hgone⟩ := hsem r w' hs
    cases r with
    | error e => exact ⟨h.removed hw, hw, fun he => by cases he⟩
    | ok _ => exact ⟨h.removed hw, hw, fun _ => hgone rfl⟩

/-- `ClearSessions`: a success leaves no record. -/
theorem wp_clearSessions_change (h : SessionsInv cfg w) (hA : ∀ st, A (some st) none) :
    wp (changeKernel cfg A) (SessionsInv cfg) (clearSessions cfg)
      (fun x w' => x = .ok () → ∀ n, w'.record? cfg n = none) w := by
  unfold clearSessions
  rw [bind_eq]
  refine wp_bind.2 (wp_changeKernel (wp_getSessions Sys.Unreliable.reads h.mounted h
    fun names hnames => ?_) (uses_getSessions trivial fun _ => trivial))
  -- what is left of the list holds every record that is left
  refine wp_forM (fun rest w' => SessionsInv cfg w' ∧ ∀ n t, w'.record? cfg n = some t → t ∈ rest) _
    ?_ ?_ ⟨h, fun n t ht => List.mem_filterMap.2 ⟨n, hnames.mem_iff.2 (h.listed ht), ht⟩⟩
  · rintro s rest w' - ⟨hI, hrest⟩
    refine (wp_deleteSession_change hI fun st _ => hA st).imp ?_
    rintro (e | _) w'' hI' ⟨hw, hgone⟩
    · intro he; cases he
    · refine ⟨hI', fun n t ht => ?_⟩
      rcases List.mem_cons.1 (hrest n t (hw.shrink.record? ht)) with rfl | hmem
      · rw [hI'.own n t ht, hgone rfl] at ht
        cases ht
      · exact hmem
  · rintro w' ⟨hI, hrest⟩
    refine ⟨hI, fun _ n => Option.eq_none_iff_forall_not_mem.2 fun t ht => ?_⟩
    cases hrest n t ht

end Sessions

/-! ## Programs that empty directories -/

section Keeps

variable {cfg : Config} {A : Option State → Option State → Prop} {w₀ : World}

theorem keeps_deleteDirContent {path : String}
    (hp : ∀ n, startsWith (join path n) kApexSessionsDir = false) :
    (deleteDirContent path).Keeps (changeKernel cfg A) (Untouched cfg w₀) := by
  intro w hI
  unfold deleteDirContent
  refine wp_bind.2 (wp_mapErr.2 ((wp_changeKernel (wp_readDir_paths Sys.Unreliable.reads.honest hI)
    (uses_readDir trivial)).imp ?_))
  rintro (e | files) w' hI' ⟨_, hfiles⟩
  · trivial
  refine keeps_forM files (fun file hfile => keeps_untouched ?_) w' hI'
  obtain ⟨n, _, rfl⟩ := hfiles files rfl file hfile
  exact uses_exec_bind (hp n) fun r => uses_check _ r

theorem keeps_deleteBackup : deleteBackup.Keeps (changeKernel cfg A) (Untouched cfg w₀) := by
  refine keeps_bind (keeps_mapErr (keeps_untouched (uses_pathExists trivial))) fun b => ?_
  cases b
  · exact keeps_ret ()
  · exact keeps_deleteDirContent fun n => notSession_backup (below_join _ n)

theorem uses_backupPackage (path : String) : (backupPackage path).Uses SparesSessions := by
  refine uses_exec_bind trivial fun r => ?_
  cases r with
  | error e => exact uses_fail _
  | ok apex =>
    have hb : below kApexBackupDir (backupPath apex.manifest) = true := by
      unfold backupPath
      rw [String.append_assoc]
      exact below_join _ _
    exact uses_exec_bind (notSession_backup hb) fun r => uses_check _ r

theorem keeps_backupActivePackages :
    backupActivePackages.Keeps (changeKernel cfg A) (Untouched cfg w₀) := by
  have hempty : (deleteDirContent kApexBackupDir).Keeps (changeKernel cfg A) (Untouched cfg w₀) :=
    keeps_deleteDirContent fun n => notSession_backup (below_join _ n)
  refine keeps_bind (keeps_untouched (uses_mapErr (uses_createDirIfNeeded trivial trivial trivial)))
    fun _ => keeps_bind (keeps_untouched (uses_mapErr (uses_pathExists trivial))) fun b => ?_
  cases b
  · exact keeps_ret ()
  · refine keeps_bind (keeps_untouched (uses_mapErr (uses_readDir trivial))) fun packages =>
      keeps_bind (keeps_mapErr keeps_deleteBackup) fun _ => keeps_onFail ?_ hempty
    exact keeps_untouched (uses_forM _ fun path _ => uses_backupPackage path)

/-- A package is opened under the path it was asked for. -/
theorem wp_openApex_path {I : World → Prop} {w : World} {path : String} (hI : I w) :
    wp (kernel .off Sys.Unreliable) I (openApex path)
      (fun x w' => w' = w ∧ ∀ apex, x = .ok apex → apex.path = path) w := by
  refine ⟨hI, trivial, ?_⟩
  rintro r w' (⟨rfl, rfl⟩ | ⟨⟨e, rfl⟩, rfl⟩)
  · refine wp_ofExcept.2 ⟨hI, rfl, fun apex ha => World.openApex_path ha⟩
  · exact ⟨hI, rfl, fun apex ha => by cases ha⟩

theorem keeps_removePreviouslyActiveApexFiles (affectedPackages filesToKeep : List String) :
    (removePreviouslyActiveApexFiles affectedPackages filesToKeep).Keeps (changeKernel cfg A)
      (Untouched cfg w₀) := by
  intro w hI
  refine wp_bind.2 ((wp_changeKernel (wp_readDir_paths Sys.Unreliable.reads.honest hI)
    (uses_readDir trivial)).imp ?_)
  rintro (e | all) w' hI' ⟨_, hall⟩
  · trivial
  refine keeps_forM all (fun path hpath => ?_) w' hI'
  obtain ⟨n, _, rfl⟩ := hall all rfl path hpath
  intro w₁ hI₁
  refine wp_bind.2 ((wp_changeKernel (wp_openApex_path hI₁) (uses_temp (uses_openApex _))).imp ?_)
  rintro (e | apex) w₂ hI₂ ⟨_, hp⟩
  · trivial
  have hu : (sys (.unlink apex.path) >>= check ("Failed to unlink " ++ apex.path)).Uses
      SparesSessions := by
    refine uses_exec_bind ?_ fun r => uses_check _ r
    rw [hp apex rfl]
    exact notSession_active (below_join _ n)
  exact keeps_untouched (uses_ite (uses_ret _) (uses_ite (uses_ret _) hu)) w₂ hI₂

/-- The files that `stageLoop` may have to unlink again are below the active directory. -/
theorem uses_stageLoop_spares (paths : List String) (s : Staged)
    (hs : ∀ f ∈ s.files, below kActiveApexPackagesDataDir f = true) :
    (stageLoop paths s).Uses SparesSessions := by
  have hundo : ∀ s : Staged, (∀ f ∈ s.files, below kActiveApexPackagesDataDir f = true) →
      s.undo.Uses SparesSessions := fun s hs =>
    uses_forM _ fun f hf => uses_exec_bind (notSession_active (hs f hf)) fun _ => uses_ret _
  induction paths generalizing s with
  | nil => exact uses_ret _
  | cons path rest ih =>
    refine uses_bind_yields (P := fun t : Staged => ∀ f ∈ t.files,
      below kActiveApexPackagesDataDir f = true)
      (uses_onFail (uses_bind (uses_temp (uses_openApex _)) fun apex => ?_) (hundo s hs))
      (yields_onFail (yields_then fun apex => yields_then fun _ => ?_)) ih
    · refine uses_bind (uses_exec_bind (notSession_active (below_stageDestPath apex)) fun r =>
        uses_check _ r) fun _ => uses_ret _
    · intro f hf
      rcases List.mem_append.1 hf with hf | hf
      · exact hs f hf
      · rw [List.mem_singleton.1 hf]
        exact below_stageDestPath apex

theorem keeps_stagePackages (paths : List String) :
    (stagePackages cfg paths).Keeps (changeKernel cfg A) (Untouched cfg w₀) := by
  refine keeps_bind (keeps_untouched (uses_require _ _)) fun _ => keeps_bind (keeps_untouched
    (uses_temp (uses_verifyPackages _ uses_verifyPackageBoot))) fun _ => ?_
  refine keeps_bind (keeps_untouched (uses_createDirIfNeeded trivial trivial trivial)) fun _ =>
    keeps_bind (keeps_untouched ?_) fun toStage => ?_
  · refine uses_bind (uses_temp uses_getActivePackagesMap) fun m =>
      uses_foldlM _ _ fun acc p _ => ?_
    refine uses_bind (uses_bind (uses_attempt (uses_temp (uses_openApex _))) fun x => ?_)
      fun _ => uses_ret _
    cases x with
    | error e => exact uses_ret _
    | ok apex =>
      refine uses_exec_bind trivial fun r => ?_
      cases r <;> exact uses_ret _
  · cases hb : toStage.isEmpty with
    | true => exact keeps_ret ()
    | false =>
      refine keeps_bind (keeps_untouched (uses_stageLoop_spares _ _ fun f hf => by cases hf))
        fun staged => ?_
      exact keeps_removePreviouslyActiveApexFiles _ _

theorem keeps_restoreBackup : restoreBackup.Keeps (changeKernel cfg A) (Untouched cfg w₀) := by
  refine keeps_bind (keeps_untouched (uses_pathExists trivial)) fun b =>
    keeps_bind (keeps_untouched (uses_require _ _)) fun _ => ?_
  refine keeps_bind (keeps_untouched (uses_exec_bind trivial fun r => uses_check _ r)) fun st =>
    keeps_bind (keeps_untouched (uses_exec trivial)) fun _ => ?_
  refine keeps_bind (keeps_deleteDirContent fun n => notSession_active (below_join _ n)) fun _ =>
    keeps_untouched ?_
  exact uses_bind (uses_exec_bind ⟨rfl, rfl⟩ fun r => uses_check _ r) fun _ =>
    uses_exec_bind trivial fun r => uses_check _ r

end Keeps

end Apexd
