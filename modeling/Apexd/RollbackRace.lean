import Apexd.Lib.Par
import Apexd.RollbackCrash

/-!
# `markStagedSessionSuccessful` against `rollbackActiveSession`

A binder thread marks the session successful while the main thread rolls it back; each sees the
session as `ACTIVATED` and neither holds a lock.

* `Phases` — history variables: what each call has read and done so far.
* `markOk`, `rollbackOk` — the moves that keep the calls apart: nothing is removed from the backup
  once the rollback has read the record, the rollback does not read it while the backup is being
  removed, and nothing is committed over `ROLLED_BACK`.
* `Joint` — what every pair of phases says about the record and the two directories.
* `race_serial` — under these moves every interleaving ends as one of the two serial orders does.
-/

set_option autoImplicit false

namespace Apexd

open Text Prog

inductive MarkPhase where
  | unread
  | live
  | cleaning
  | done
  | out
  deriving DecidableEq

inductive RollbackPhase where
  | unread
  | live
  | deleting
  | restored
  | done
  | out
  deriving DecidableEq

/-- How far the two calls are. -/
structure Phases where
  mark : MarkPhase
  rollback : RollbackPhase

/-- A record that was read says `ACTIVATED`. -/
def readsActivated (cfg : Config) (r : Option (List UInt8)) : Bool :=
  match r.bind cfg.proto.parse with
  | some t => t.state = .ACTIVATED
  | none => false

/-- What a command of `markStagedSessionSuccessful` does to the phases. -/
def markPhase (cfg : Config) (id : Int32) : (c : Sys) → World → c.Res → World → Phases → Phases
  | .readFile p, _, r, _, g =>
    if p = getSessionStateFilePath id then
      { g with mark := if readsActivated cfg r then .live else .out }
    else g
  | .unlink _, _, .ok _, _, g => { g with mark := .cleaning }
  | .unlink _, _, .error _, _, g => { g with mark := .out }
  | .writeFile _ _, _, _, _, g => { g with mark := .done }
  | _, _, _, _, g => g

/-- What a command of `rollbackActiveSession` does to the phases. -/
def rollbackPhase (cfg : Config) (id : Int32) : (c : Sys) → World → c.Res → World → Phases → Phases
  | .readFile p, _, r, _, g =>
    if p = getSessionStateFilePath id then
      { g with rollback := if readsActivated cfg r then .live else .out }
    else g
  | .writeFile _ _, _, _, _, g =>
    { g with rollback := if g.rollback = .live then .deleting else .done }
  | .rename _ _, _, .ok _, _, g => { g with rollback := .restored }
  | _, _, _, _, g => g

/-- The moves of `markStagedSessionSuccessful` that keep the calls apart. -/
def markOk (cfg : Config) (id : Int32) : Sys → World × Phases → Bool
  | .unlink p, s => s.2.rollback = .unread || (s.1.file? p).isNone
  | .writeFile _ _, s => (s.1.record? cfg (toString id)).map (·.state) ≠ some .ROLLED_BACK
  | _, _ => true

/-- The moves of `rollbackActiveSession` that keep the calls apart. -/
def rollbackOk (id : Int32) : Sys → World × Phases → Bool
  | .readFile p, s => p ≠ getSessionStateFilePath id || s.2.mark ≠ .cleaning
  | _, _ => true

def markKernel (cfg : Config) (id : Int32) : Kernel Sys Sys.Res (World × Phases) :=
  ((kernel .off Sys.NoFault).observe (markPhase cfg id)).restrict
    fun c s => markOk cfg id c s = true

def rollbackKernel (cfg : Config) (id : Int32) : Kernel Sys Sys.Res (World × Phases) :=
  ((kernel .off Sys.NoFault).observe (rollbackPhase cfg id)).restrict
    fun c s => rollbackOk id c s = true

/-! ## The joint invariant -/

/-- What the phases say about the stored state, the active entries and the backup. -/
inductive Joint (A B : List (String × Node)) : MarkPhase → RollbackPhase → State →
    List (String × Node) → Option (List (String × Node)) → Prop where
  | start {m : MarkPhase} (hm : m = .unread ∨ m = .live) : Joint A B m .unread .ACTIVATED A (some B)
  | cleaning {b : List (String × Node)} (hb : ∀ e ∈ b, e.2.file?.isSome) :
      Joint A B .cleaning .unread .ACTIVATED A (some b)
  | success {r : RollbackPhase} (hr : r = .unread ∨ r = .out) :
      Joint A B .done r .SUCCESS A (some [])
  | read {m : MarkPhase} {st : State} (hm : m ≠ .cleaning) (hs : st = .ACTIVATED ∨ st = .SUCCESS) :
      Joint A B m .live st A (some B)
  | deleting {m : MarkPhase} {st : State} {a : List (String × Node)} (hm : m ≠ .cleaning)
      (hs : st = .ROLLBACK_IN_PROGRESS ∨ st = .SUCCESS) (ha : ∀ e ∈ a, e.2.file?.isSome) :
      Joint A B m .deleting st a (some B)
  | restored {m : MarkPhase} {st : State} (hm : m ≠ .cleaning)
      (hs : st = .ROLLBACK_IN_PROGRESS ∨ st = .SUCCESS) : Joint A B m .restored st B none
  | rolledBack {m : MarkPhase} (hm : m ≠ .cleaning) : Joint A B m .done .ROLLED_BACK B none

/-- The invariant of the two calls. -/
structure RaceInv (cfg : Config) (id : Int32) (A B : List (String × Node)) (s : World × Phases) :
    Prop where
  frame : RollbackFrame cfg id s.1
  joint : ∃ t a, s.1.record? cfg (toString id) = some t ∧ t.id = id ∧
    s.1.Holds kActiveApexPackagesDataDir a ∧
    Joint A B s.2.mark s.2.rollback t.state a ((s.1.dirs kApexBackupDir).map (·.entries))

variable {cfg : Config} {id : Int32} {A B : List (String × Node)}

/-- What `markStagedSessionSuccessful` relies on. -/
def MarkRely (cfg : Config) (id : Int32) (A B : List (String × Node)) (s s' : World × Phases) :
    Prop :=
  RaceInv cfg id A B s → RaceInv cfg id A B s' ∧ s'.2.mark = s.2.mark ∧
    (s.2.mark = .cleaning → s'.1.dirs kApexBackupDir = s.1.dirs kApexBackupDir) ∧
    (s.1.dirs kApexBackupDir = none → s'.1.dirs kApexBackupDir = none)

/-- What `rollbackActiveSession` relies on. -/
def RollbackRely (cfg : Config) (id : Int32) (A B : List (String × Node)) (s s' : World × Phases) :
    Prop :=
  RaceInv cfg id A B s → RaceInv cfg id A B s' ∧ s'.2.rollback = s.2.rollback ∧
    s'.1.dirs kActiveApexPackagesDataDir = s.1.dirs kActiveApexPackagesDataDir ∧
    s'.1.sessionNames = s.1.sessionNames

theorem MarkRely.refl (s : World × Phases) : MarkRely cfg id A B s s :=
  fun h => ⟨h, rfl, fun _ => rfl, fun h => h⟩

theorem MarkRely.trans (a b c : World × Phases) (h : MarkRely cfg id A B a b)
    (h' : MarkRely cfg id A B b c) : MarkRely cfg id A B a c := by
  intro hi
  obtain ⟨hb, hm, hc, hn⟩ := h hi
  obtain ⟨hc', hm', hc'', hn'⟩ := h' hb
  refine ⟨hc', hm'.trans hm, fun hcl => ?_, fun h => hn' (hn h)⟩
  rw [hc'' (hm.trans hcl), hc hcl]

theorem RollbackRely.refl (s : World × Phases) : RollbackRely cfg id A B s s :=
  fun h => ⟨h, rfl, rfl, rfl⟩

theorem RollbackRely.trans (a b c : World × Phases) (h : RollbackRely cfg id A B a b)
    (h' : RollbackRely cfg id A B b c) : RollbackRely cfg id A B a c := by
  intro hi
  obtain ⟨hb, hr, ha, hn⟩ := h hi
  obtain ⟨hc, hr', ha', hn'⟩ := h' hb
  exact ⟨hc, hr'.trans hr, ha'.trans ha, hn'.trans hn⟩

/-! ## The call that marks the session -/

theorem Joint.markRead {r : RollbackPhase} {st : State} {a : List (String × Node)}
    {b : Option (List (String × Node))} (h : Joint A B .unread r st a b) :
    Joint A B (if st = .ACTIVATED then .live else .out) r st a b := by
  cases h with
  | start hm => exact .start (Or.inr rfl)
  | read hm hs =>
    rcases hs with rfl | rfl
    · exact .read (by decide) (Or.inl rfl)
    · exact .read (by decide) (Or.inr rfl)
  | deleting hm hs ha => rcases hs with rfl | rfl <;> exact .deleting (by decide) (by simp) ha
  | restored hm hs => rcases hs with rfl | rfl <;> exact .restored (by decide) (by simp)
  | rolledBack hm => exact .rolledBack (by decide)

/-- When the backup is out of the way, marking the session keeps the joint invariant. -/
theorem Joint.markDone {m : MarkPhase} {r : RollbackPhase} {st : State} {a : List (String × Node)}
    {b : Option (List (String × Node))} (h : Joint A B m r st a b)
    (hm : m = .live ∧ (b = none ∨ B = []) ∨ m = .cleaning ∧ b = some []) (hst : st ≠ .ROLLED_BACK) :
    Joint A B .done r .SUCCESS a b := by
  cases h with
  | start _ =>
    rcases hm with ⟨_, hb | rfl⟩ | ⟨_, hb⟩
    · cases hb
    · exact .success (Or.inl rfl)
    · cases hb; exact .success (Or.inl rfl)
  | cleaning _ =>
    rcases hm with ⟨hl, _⟩ | ⟨_, hb⟩
    · cases hl
    · cases hb; exact .success (Or.inl rfl)
  | success hr => exact .success hr
  | read _ _ => exact .read (by decide) (Or.inr rfl)
  | deleting _ _ ha => exact .deleting (by decide) (Or.inr rfl) ha
  | restored _ _ => exact .restored (by decide) (Or.inr rfl)
  | rolledBack _ => exact absurd rfl hst

theorem Joint.of_none {m : MarkPhase} {r : RollbackPhase} {st : State} {a : List (String × Node)}
    (h : Joint A B m r st a none) {m' : MarkPhase} (hm : m' ≠ .cleaning) :
    Joint A B m' r st a none := by
  cases h with
  | restored _ hs => exact .restored hm hs
  | rolledBack _ => exact .rolledBack hm

theorem Joint.of_live {r : RollbackPhase} {st : State} {a b : List (String × Node)}
    (h : Joint A B .live r st a (some b)) :
    b = B ∧ (r = .unread → st = .ACTIVATED ∧ a = A) := by
  cases h with
  | start _ => exact ⟨rfl, fun _ => ⟨rfl, rfl⟩⟩
  | read _ _ => exact ⟨rfl, fun h => by cases h⟩
  | deleting _ _ _ => exact ⟨rfl, fun h => by cases h⟩

theorem Joint.of_cleaning {r : RollbackPhase} {st : State} {a : List (String × Node)}
    {b : Option (List (String × Node))} (h : Joint A B .cleaning r st a b) :
    r = .unread ∧ st = .ACTIVATED ∧ a = A ∧ ∃ b', b = some b' ∧ ∀ e ∈ b', e.2.file?.isSome := by
  cases h with
  | start hm => simp at hm
  | cleaning hb => exact ⟨rfl, rfl, rfl, _, rfl, hb⟩
  | read hm _ => exact absurd rfl hm
  | deleting hm _ _ => exact absurd rfl hm
  | restored hm _ => exact absurd rfl hm
  | rolledBack hm => exact absurd rfl hm

section Mark

variable {s : World × Phases} {α : Type}

/-- Running as `markStagedSessionSuccessful` does, among the moves of the rollback. -/
def MarkWp (cfg : Config) (id : Int32) (A B : List (String × Node)) (p : ApexM α)
    (Q : Except String α → World × Phases → Prop) (s : World × Phases) : Prop :=
  wp ((markKernel cfg id).among (MarkRely cfg id A B) (RollbackRely cfg id A B))
    (RaceInv cfg id A B) p Q s

/-- A call that only looks. -/
theorem markWp_look {c : Sys} {k : c.Res → ApexM α} {Q : Except String α → World × Phases → Prop}
    (hs : RaceInv cfg id A B s) (hlook : ∀ w r w', c.Normal w r w' → w' = w)
    (hphase : ∀ w r w' g, markPhase cfg id c w r w' g = g)
    (hpre : ∀ w, (kernel .off Sys.NoFault).pre c w)
    (h : ∀ s', MarkRely cfg id A B s s' → RaceInv cfg id A B s' →
      ∀ r, c.Normal s'.1 r s'.1 → MarkWp cfg id A B (k r) Q s') :
    MarkWp cfg id A B (call c k) Q s := by
  refine wp_look_among hs (fun s' hr => (hr hs).1) .refl (fun s' => hpre s'.1) ?_ ?_
  · rintro s' r s'' ⟨_, hn | hf, hg⟩
    · exact Prod.ext (hlook _ _ _ hn) (hg.trans (hphase _ _ _ _))
    · exact hf.elim
  · rintro s' hr hs' r ⟨_, hn | hf, _⟩
    · exact h s' hr hs' r hn
    · exact hf.elim

/-- What is left of the backup is what is still to be deleted. -/
inductive Cleaning (B : List (String × Node)) (s : World × Phases) (rest : List String) : Prop where
  | untouched (hm : s.2.mark = .live) (hrest : rest.Perm (B.map fun e => join kApexBackupDir e.1))
  | begun (hm : s.2.mark = .cleaning) (d : Dir) (hd : s.1.dirs kApexBackupDir = some d)
      (hrest : rest.Perm (d.entries.map fun e => join kApexBackupDir e.1))

theorem Cleaning.rely {s' : World × Phases} {rest : List String} (h : Cleaning B s rest)
    (hs : RaceInv cfg id A B s) (hr : MarkRely cfg id A B s s') : Cleaning B s' rest := by
  obtain ⟨_, hm, hc, _⟩ := hr hs
  cases h with
  | untouched hl hrest => exact .untouched (hm.trans hl) hrest
  | begun hl d hd hrest => exact .begun (hm.trans hl) d ((hc hl).trans hd) hrest

theorem RaceInv.setBackup {w : World} {g : Phases} (hframe : RollbackFrame cfg id w)
    {t : SessionState} {d : Dir} (ht : w.record? cfg (toString id) = some t) (hid : t.id = id)
    (ha : w.Holds kActiveApexPackagesDataDir A) (hst : t.state = .ACTIVATED)
    (hg : g.rollback = .unread) (hd : ∀ e ∈ d.entries, e.2.file?.isSome) :
    RaceInv cfg id A B (w.setDir kApexBackupDir (some d), { g with mark := .cleaning }) := by
  have hs : ∀ q, startsWith q kApexSessionsDir = true →
      (w.setDir kApexBackupDir (some d)).dirs q = w.dirs q := fun q hq =>
    World.setDir_other _ _ (ne_of_startsWith hq backup_notSession)
  refine ⟨hframe.onlyDirs (World.setDir_onlyDirs _ _ _) ?_ hs, t, A, ?_, hid, ?_, ?_⟩
  · intro hf
    rwa [World.file?_setDir_other _ _ (by rw [dirName_backup]; exact backup_ne_data.symm)]
  · rw [World.record?_congr hs, ht]
  · obtain ⟨da, hda, rfl⟩ := ha
    exact ⟨da, by rw [World.setDir_other _ _ active_ne_backup, hda], rfl⟩
  · rw [hst, hg, World.setDir_self]
    exact .cleaning hd

/-- One deletion: it takes effect only while the rollback has not started. -/
theorem markWp_unlink {x : String} {rest : List String} (hs : RaceInv cfg id A B s)
    (hB : ∀ e ∈ B, e.2.file?.isSome ∧ NoSlash e.1) (hc : Cleaning B s (x :: rest)) (msg : String) :
    MarkWp cfg id A B (sys (.unlink x) >>= check msg)
      (fun r s' => r = .ok () → Cleaning B s' rest) s := by
  refine wp_call_among hs fun s' hr => ⟨trivial, ?_⟩
  have hs' := (hr hs).1
  replace hc := hc.rely hs hr
  obtain ⟨w, g⟩ := s'
  rintro r ⟨w', g'⟩ ⟨hok, hn | hf, hg⟩
  case inr => exact hf.elim
  have hu : (r, w') = w.unlink x := hn
  replace hg : g' = markPhase cfg id (.unlink x) w r w' g := hg
  replace hok : (g.rollback = .unread || (w.file? x).isNone) = true := hok
  obtain ⟨t, a, ht, hid, ha, hj⟩ := hs'.joint
  -- an effective deletion, from a backup directory of files
  have heff : ∀ d : Dir, w.dirs kApexBackupDir = some d → (∀ e ∈ d.entries, e.2.file?.isSome) →
      (x :: rest).Perm (d.entries.map fun e => join kApexBackupDir e.1) → t.state = .ACTIVATED →
      a = A → g.rollback = .unread → RollbackRely cfg id A B (w, g) (w', g') ∧
        MarkWp cfg id A B (check msg r) (fun r s' => r = .ok () → Cleaning B s' rest) (w', g') := by
    intro d hd hfiles hperm hst hA hun
    subst hA
    obtain ⟨⟨n, node⟩, he, rfl⟩ := List.mem_map.1 (hperm.mem_iff.1 List.mem_cons_self)
    obtain ⟨f, hf⟩ := Option.isSome_iff_exists.1 (hfiles _ he)
    cases node with
    | dir => cases hf
    | file f' =>
    rw [World.unlink_join_file hd he] at hu
    cases hu
    have hinv : RaceInv cfg id a B (w.setDir kApexBackupDir (some (d.erase n)), g') :=
      hg ▸ RaceInv.setBackup hs'.frame ht hid ha hst hun
        fun e h => hfiles e ((d.erase_sublist n).subset h)
    refine ⟨fun _ => ⟨hinv, hg ▸ rfl, World.setDir_other _ _ active_ne_backup, ?_⟩,
      hinv, fun _ => ?_⟩
    · exact World.sessionNames_setDir_other _ _ (by decide)
    · refine .begun (hg ▸ rfl) (d.erase n) (World.setDir_self _ _ _) ?_
      have hp := hperm.trans ((Dir.perm_erase he).map fun e => join kApexBackupDir e.1)
      exact (List.perm_cons _).1 hp
  -- the backup has been renamed: nothing is there to delete
  have hgone : w.dirs kApexBackupDir = none → (∃ n, NoSlash n ∧ x = join kApexBackupDir n) →
      (∀ m, m ≠ .cleaning → Joint A B m g.rollback t.state a none) →
      RollbackRely cfg id A B (w, g) (w', g') ∧
        MarkWp cfg id A B (check msg r) (fun r s' => r = .ok () → Cleaning B s' rest) (w', g') := by
    rintro hd ⟨n, hns, rfl⟩ hj'
    have hu' : w.unlink (join kApexBackupDir n) = (.error .enoent, w) := by
      unfold World.unlink
      rw [dirName_join hns, hd]
    rw [hu'] at hu
    cases hu
    have hinv : RaceInv cfg id A B (w, g') := by
      refine ⟨hs'.frame, t, a, ht, hid, ha, ?_⟩
      rw [hd, hg]
      exact hj' .out (by decide)
    exact ⟨fun _ => ⟨hinv, hg ▸ rfl, rfl, rfl⟩, hinv, fun h => by cases h⟩
  cases hc with
  | untouched hm hrest =>
    obtain ⟨e, he, hx⟩ := List.mem_map.1 (hrest.mem_iff.1 List.mem_cons_self)
    replace hm : g.mark = .live := hm
    replace hj : Joint A B g.mark g.rollback t.state a ((w.dirs kApexBackupDir).map (·.entries)) :=
      hj
    rw [hm] at hj
    -- the backup is gone or complete
    cases hd : w.dirs kApexBackupDir with
    | none =>
      rw [hd] at hj
      exact hgone hd ⟨e.1, (hB e he).2, hx.symm⟩ fun m hm' => hj.of_none hm'
    | some d =>
      rw [hd] at hj
      obtain ⟨hb, hun⟩ := hj.of_live
      replace hb : d.entries = B := hb
      by_cases hr' : g.rollback = .unread
      · exact heff d hd (fun e he => (hB e (hb ▸ he)).1) (hb.symm ▸ hrest) (hun hr').1
          (hun hr').2 hr'
      · -- the file is there, so this deletion is not allowed
        have hf : w.file? x = none := by simpa [hr'] using hok
        obtain ⟨f, hfile⟩ := Option.isSome_iff_exists.1 (hB e he).1
        have hl : d.lookup e.1 = some e.2 := Dir.lookup_eq_some.2 (hb.symm ▸ he)
        rw [← hx, World.file?_join (hB e he).2, hd, Option.bind_some, hl,
          Option.bind_some, hfile] at hf
        cases hf
  | begun hm d hd hrest =>
    replace hm : g.mark = .cleaning := hm
    replace hj : Joint A B g.mark g.rollback t.state a ((w.dirs kApexBackupDir).map (·.entries)) :=
      hj
    replace hd : w.dirs kApexBackupDir = some d := hd
    rw [hm, hd] at hj
    obtain ⟨hr', hst, hA, b, hb, hfiles⟩ := hj.of_cleaning
    cases hb
    exact heff d hd hfiles hrest hst hA hr'

/-- The backup is out of the way of the commit. -/
def Cleared (B : List (String × Node)) (s : World × Phases) : Prop :=
  s.2.mark = .live ∧ (s.1.dirs kApexBackupDir = none ∨ B = []) ∨
    s.2.mark = .cleaning ∧ (s.1.dirs kApexBackupDir).map (·.entries) = some []

theorem Cleared.rely {s' : World × Phases} (h : Cleared B s) (hs : RaceInv cfg id A B s)
    (hr : MarkRely cfg id A B s s') : Cleared B s' := by
  obtain ⟨_, hm, hc, hn⟩ := hr hs
  rcases h with ⟨hl, hb⟩ | ⟨hl, hb⟩
  · exact Or.inl ⟨hm.trans hl, hb.imp hn fun h => h⟩
  · exact Or.inr ⟨hm.trans hl, by rw [hc hl, hb]⟩

theorem markWp_deleteBackup (hs : RaceInv cfg id A B s)
    (hB : ∀ e ∈ B, e.2.file?.isSome ∧ NoSlash e.1) (hl : s.2.mark = .live) :
    MarkWp cfg id A B deleteBackup (fun r s' => r = .ok () → Cleared B s') s := by
  unfold deleteBackup pathExists
  simp only [bind_eq, exec_bind]
  refine wp_bind.2 (wp_mapErr.2 (markWp_look hs (fun _ _ _ h => h.2) (fun _ _ _ _ => rfl)
    (fun _ => trivial) ?_))
  intro s₁ hr₁ hs₁ r hn
  have hl₁ : s₁.2.mark = .live := (hr₁ hs).2.1.trans hl
  have hstat : r = s₁.1.stat kApexBackupDir := hn.1
  have hm := hs₁.frame.unmounted.mounted backup_notApex
  cases hd : s₁.1.dirs kApexBackupDir with
  | none =>
    have hr : r = .error .enoent := by
      rw [hstat]
      simp [World.stat, hm, hd, hs₁.frame.notFile]
    subst hr
    exact ⟨hs₁, hs₁, fun _ => Or.inl ⟨hl₁, Or.inl hd⟩⟩
  | some d =>
    have hr : r = .ok ⟨true, d.mode⟩ := by
      rw [hstat]
      simp [World.stat, hm, hd]
    subst hr
    refine ⟨hs₁, ?_⟩
    dsimp only [Except.mapError, Then]
    rw [if_pos rfl]
    unfold deleteDirContent readDir
    simp only [bind_eq, exec_bind]
    refine wp_bind.2 (wp_mapErr.2 (markWp_look hs₁ (fun _ _ _ h => h.2) (fun _ _ _ _ => rfl)
      (fun _ => trivial) ?_))
    intro s₂ hr₂ hs₂ r hn
    have hl₂ : s₂.2.mark = .live := (hr₂ hs₁).2.1.trans hl₁
    have hlist : s₂.1.Lists kApexBackupDir r := hn.1
    unfold World.Lists at hlist
    rw [hs₂.frame.unmounted.mounted backup_notApex] at hlist
    cases hd₂ : s₂.1.dirs kApexBackupDir with
    | none =>
      rw [hd₂] at hlist
      subst hlist
      exact ⟨hs₂, fun h => by cases h⟩
    | some d₂ =>
      rw [hd₂] at hlist
      obtain ⟨es, hes, rfl⟩ := hlist
      have hent : d₂.entries = B := by
        obtain ⟨t, a, _, _, _, hj⟩ := hs₂.joint
        rw [hl₂, hd₂] at hj
        exact hj.of_live.1
      refine ⟨hs₂, ?_⟩
      dsimp only [Except.mapError, Then]
      rw [map_path_filter, List.filter_eq_self.2 fun _ _ => rfl]
      refine wp_forM (fun rest s => RaceInv cfg id A B s ∧ Cleaning B s rest) _ ?_ ?_ ?_
      · rintro x rest s₃ - ⟨hs₃, hc⟩
        refine (markWp_unlink hs₃ hB hc _).imp ?_
        rintro (e | _) s₄ hs₄ h
        · intro h; cases h
        · exact ⟨hs₄, h rfl⟩
      · rintro s₃ ⟨hs₃, hc⟩
        refine ⟨hs₃, fun _ => ?_⟩
        cases hc with
        | untouched hm' hrest =>
          exact Or.inl ⟨hm', Or.inr (List.map_eq_nil_iff.1 (List.nil_perm.1 hrest))⟩
        | begun hm' d hd hrest =>
          refine Or.inr ⟨hm', ?_⟩
          rw [hd, Option.map_some, List.map_eq_nil_iff.1 (List.nil_perm.1 hrest)]
      · exact ⟨hs₂, .untouched hl₂ (hent ▸ hes.map _)⟩

/-- The commit that marks the session. -/
theorem markWp_commit {t : SessionState} (hs : RaceInv cfg id A B s) (ht : t.id = id)
    (hc : Cleared B s) :
    MarkWp cfg id A B (updateStateAndCommit cfg t .SUCCESS) (fun _ _ => True) s := by
  subst ht
  unfold updateStateAndCommit
  simp only [bind_eq, exec_bind]
  refine wp_call_among hs fun s' hr => ⟨trivial, ?_⟩
  have hs' := (hr hs).1
  replace hc := hc.rely hs hr
  obtain ⟨w, g⟩ := s'
  rintro r ⟨w', g'⟩ ⟨hok, hn | hf, hg⟩
  case inr => exact hf.elim
  obtain ⟨t', a, ht', hid, ha, hj⟩ := hs'.joint
  have hw : (r, w') = w.writeFile (getSessionStateFilePath t.id)
    (cfg.proto.serialize { t with state := .SUCCESS }) := hn
  have hst : t'.state ≠ .ROLLED_BACK := by
    have hok' : decide ((w.record? cfg (toString t.id)).map (·.state) ≠ some .ROLLED_BACK) = true :=
      hok
    rw [ht'] at hok'
    simpa using hok'
  replace hg : g' = { g with mark := .done } := hg
  obtain ⟨rfl, hrec⟩ := World.writeFile_record hw ht'
  have hinv : RaceInv cfg t.id A B (w', g') := by
    refine ⟨hs'.frame.recorded hrec, { t with state := .SUCCESS }, a, ?_, rfl, ?_, ?_⟩
    · rw [hrec.record?, SessionProto.parse_serialize]
    · exact (World.Holds.congr (hrec.dirs_other sessionDir_ne_active.symm)).2 ha
    · rw [hrec.dirs_other sessionDir_ne_backup.symm, hg]
      exact hj.markDone (hc.imp_left fun h => ⟨h.1, h.2.imp_left fun h => by rw [h]; rfl⟩) hst
  refine ⟨fun _ => ⟨hinv, hg ▸ rfl, hrec.dirs_other sessionDir_ne_active.symm, hrec.sessionNames⟩,
    ?_⟩
  exact ⟨hinv, trivial⟩

/-- **The marking call among the moves of the rollback.** -/
theorem markWp_markStagedSessionSuccessful (hs : RaceInv cfg id A B s)
    (hB : ∀ e ∈ B, e.2.file?.isSome ∧ NoSlash e.1) (hu : s.2.mark = .unread) :
    MarkWp cfg id A B (markStagedSessionSuccessful cfg id) (fun _ _ => True) s := by
  unfold markStagedSessionSuccessful getSession getSessionFromFile
  simp only [bind_eq, exec_bind]
  refine wp_bind.2 (wp_call_among hs fun s' hr => ⟨trivial, ?_⟩)
  have hs' := (hr hs).1
  have hu' := (hr hs).2.1.trans hu
  obtain ⟨w, g⟩ := s'
  rintro r ⟨w', g'⟩ ⟨hok, ⟨hrd, rfl⟩ | hf, hg⟩
  case inr => exact hf.elim
  obtain ⟨t, a, ht, hid, ha, hj⟩ := hs'.joint
  have hr' : r.bind cfg.proto.parse = some t := hrd ▸ ht
  replace hg : g' = { g with mark := if readsActivated cfg r then .live else .out } :=
    hg.trans (if_pos rfl)
  have hread : readsActivated cfg r = decide (t.state = .ACTIVATED) := by
    unfold readsActivated
    rw [hr']
  have hinv : RaceInv cfg id A B (w', g') := by
    refine ⟨hs'.frame, t, a, ht, hid, ha, ?_⟩
    rw [hg, hread]
    rw [hu'] at hj
    simpa using hj.markRead
  refine ⟨fun _ => ⟨hinv, hg ▸ rfl, rfl, rfl⟩, ?_⟩
  obtain ⟨b, rfl, hp⟩ := Option.bind_eq_some_iff.1 hr'
  dsimp only
  rw [hp]
  refine ⟨hinv, ?_⟩
  dsimp only [Then]
  split
  · exact ⟨hinv, trivial⟩
  · rename_i hact
    have hl : g'.mark = .live := by rw [hg, hread, hact]; rfl
    refine wp_bind.2 (wp_mapErr.2 ((markWp_deleteBackup hinv hB hl).imp ?_))
    rintro (e | _) s₂ hs₂ hc
    · trivial
    · exact markWp_commit hs₂ hid (hc rfl)
  · exact ⟨hinv, trivial⟩

end Mark

/-! ## The call that rolls back -/

theorem Joint.rollbackRead {m : MarkPhase} {st : State} {a : List (String × Node)}
    {b : Option (List (String × Node))} (h : Joint A B m .unread st a b) (hm : m ≠ .cleaning) :
    Joint A B m (if st = .ACTIVATED then .live else .out) st a b ∧
      (st = .ACTIVATED ∨ st = .SUCCESS) := by
  cases h with
  | start _ => exact ⟨.read hm (Or.inl rfl), Or.inl rfl⟩
  | cleaning _ => exact absurd rfl hm
  | success _ => exact ⟨.success (Or.inr rfl), Or.inr rfl⟩

theorem Joint.rollbackBegin {m : MarkPhase} {st : State} {a : List (String × Node)}
    {b : Option (List (String × Node))} (h : Joint A B m .live st a b)
    (hA : ∀ e ∈ A, e.2.file?.isSome) : Joint A B m .deleting .ROLLBACK_IN_PROGRESS a b := by
  cases h with
  | read hm _ => exact .deleting hm (Or.inl rfl) hA
  | success hr => simp at hr

theorem Joint.of_deleting {m : MarkPhase} {st : State} {a : List (String × Node)}
    {b : Option (List (String × Node))} (h : Joint A B m .deleting st a b) :
    m ≠ .cleaning ∧ b = some B ∧ (∀ e ∈ a, e.2.file?.isSome) ∧
      (st = .ROLLBACK_IN_PROGRESS ∨ st = .SUCCESS) := by
  cases h with
  | deleting hm hs ha => exact ⟨hm, rfl, ha, hs⟩
  | success hr => simp at hr

theorem Joint.rollbackDone {m : MarkPhase} {st : State} {a : List (String × Node)}
    {b : Option (List (String × Node))} (h : Joint A B m .restored st a b) :
    Joint A B m .done .ROLLED_BACK a b := by
  cases h with
  | restored hm _ => exact .rolledBack hm
  | success hr => simp at hr

theorem Joint.of_restored {m : MarkPhase} {st : State} {a : List (String × Node)}
    {b : Option (List (String × Node))} (h : Joint A B m .restored st a b) : b = none ∧ a = B := by
  cases h with
  | restored _ _ => exact ⟨rfl, rfl⟩
  | success hr => simp at hr

section Rollback

variable {s : World × Phases} {α : Type}

/-- Running as `rollbackActiveSession` does, among the moves of the marking call. -/
def RollbackWp (cfg : Config) (id : Int32) (A B : List (String × Node)) (p : ApexM α)
    (Q : Except String α → World × Phases → Prop) (s : World × Phases) : Prop :=
  wp ((rollbackKernel cfg id).among (RollbackRely cfg id A B) (MarkRely cfg id A B))
    (RaceInv cfg id A B) p Q s

theorem rollbackWp_look {c : Sys} {k : c.Res → ApexM α}
    {Q : Except String α → World × Phases → Prop}
    (hs : RaceInv cfg id A B s) (hlook : ∀ w r w', c.Normal w r w' → w' = w)
    (hphase : ∀ w r w' g, rollbackPhase cfg id c w r w' g = g)
    (hpre : ∀ w, (kernel .off Sys.NoFault).pre c w)
    (h : ∀ s', RollbackRely cfg id A B s s' → RaceInv cfg id A B s' →
      ∀ r, c.Normal s'.1 r s'.1 → RollbackWp cfg id A B (k r) Q s') :
    RollbackWp cfg id A B (call c k) Q s := by
  refine wp_look_among hs (fun s' hr => (hr hs).1) .refl (fun s' => hpre s'.1) ?_ ?_
  · rintro s' r s'' ⟨_, hn | hf, hg⟩
    · exact Prod.ext (hlook _ _ _ hn) (hg.trans (hphase _ _ _ _))
    · exact hf.elim
  · rintro s' hr hs' r ⟨_, hn | hf, _⟩
    · exact h s' hr hs' r hn
    · exact hf.elim

/-- A commit of the rollback, from one phase to the next. -/
theorem rollbackWp_commit {t : SessionState} {st : State} {ρ ρ' : RollbackPhase}
    (hs : RaceInv cfg id A B s) (ht : t.id = id) (hρ : s.2.rollback = ρ)
    (hnext : (if ρ = .live then .deleting else .done) = ρ')
    (hj : ∀ m st' a b, Joint A B m ρ st' a b → Joint A B m ρ' st a b) :
    RollbackWp cfg id A B (updateStateAndCommit cfg t st)
      (fun r s => r = .ok () ∧ s.2.rollback = ρ') s := by
  subst ht
  unfold updateStateAndCommit
  simp only [bind_eq, exec_bind]
  refine wp_call_among hs fun s' hr => ⟨trivial, ?_⟩
  have hs' := (hr hs).1
  have hρ' := (hr hs).2.1.trans hρ
  obtain ⟨w, g⟩ := s'
  rintro r ⟨w', g'⟩ ⟨_, hn | hf, hg⟩
  case inr => exact hf.elim
  obtain ⟨t', a, ht', hid, ha, hjt⟩ := hs'.joint
  replace hρ' : g.rollback = ρ := hρ'
  replace hg : g' = { g with rollback := ρ' } := by
    rw [← hnext, ← hρ']
    exact hg
  have hw : (r, w') = w.writeFile (getSessionStateFilePath t.id)
    (cfg.proto.serialize { t with state := st }) := hn
  obtain ⟨rfl, hrec⟩ := World.writeFile_record hw ht'
  have hinv : RaceInv cfg t.id A B (w', g') := by
    refine ⟨hs'.frame.recorded hrec, { t with state := st }, a, ?_, rfl, ?_, ?_⟩
    · rw [hrec.record?, SessionProto.parse_serialize]
    · exact (World.Holds.congr (hrec.dirs_other sessionDir_ne_active.symm)).2 ha
    · rw [hrec.dirs_other sessionDir_ne_backup.symm, hg]
      have hjt' : Joint A B g.mark ρ t'.state a ((w.dirs kApexBackupDir).map (·.entries)) := by
        rw [← hρ']
        exact hjt
      exact hj _ _ _ _ hjt'
  refine ⟨fun _ => ⟨hinv, hg ▸ rfl, fun _ => hrec.dirs_other sessionDir_ne_backup.symm, ?_⟩, ?_⟩
  · intro hnone
    exact (hrec.dirs_other sessionDir_ne_backup.symm).trans hnone
  · exact ⟨hinv, rfl, hg ▸ rfl⟩

/-- A move of the directories while the rollback is deleting. -/
theorem RaceInv.moved {w w' : World} {g g' : Phases} (hs : RaceInv cfg id A B (w, g))
    (hrest : w.OnlyDirs w') (hn : w.file? kApexBackupDir = none → w'.file? kApexBackupDir = none)
    (hses : ∀ q, startsWith q kApexSessionsDir = true → w'.dirs q = w.dirs q)
    {a : List (String × Node)} (ha : w'.Holds kActiveApexPackagesDataDir a)
    (hj : ∀ st a', Joint A B g.mark g.rollback st a' ((w.dirs kApexBackupDir).map (·.entries)) →
      Joint A B g'.mark g'.rollback st a ((w'.dirs kApexBackupDir).map (·.entries))) :
    RaceInv cfg id A B (w', g') := by
  obtain ⟨hframe, t, a', ht, hid, _, hjt⟩ := hs
  exact ⟨hframe.onlyDirs hrest hn hses, t, a, by rw [World.record?_congr hses, ht], hid,
    ha, hj _ _ hjt⟩

/-- One deletion in the active directory. -/
theorem rollbackWp_unlink {x : String} {rest : List String} (hs : RaceInv cfg id A B s)
    (hρ : s.2.rollback = .deleting) {d : Dir} (hd : s.1.dirs kActiveApexPackagesDataDir = some d)
    (hrest : (x :: rest).Perm (d.entries.map fun e => join kActiveApexPackagesDataDir e.1))
    (msg : String) :
    RollbackWp cfg id A B (sys (.unlink x) >>= check msg)
      (fun r s' => r = .ok () ∧ s'.2.rollback = .deleting ∧ ∃ d' : Dir,
        s'.1.dirs kActiveApexPackagesDataDir = some d' ∧
        rest.Perm (d'.entries.map fun e => join kActiveApexPackagesDataDir e.1)) s := by
  refine wp_call_among hs fun s' hr => ⟨trivial, ?_⟩
  obtain ⟨hs', hρ', hact, _⟩ := hr hs
  obtain ⟨w, g⟩ := s'
  rintro r ⟨w', g'⟩ ⟨_, hn | hf, hg⟩
  case inr => exact hf.elim
  have hu : (r, w') = w.unlink x := hn
  obtain rfl : g' = g := hg
  replace hρ' : g'.rollback = .deleting := hρ'.trans hρ
  replace hd : w.dirs kActiveApexPackagesDataDir = some d := hact.trans hd
  obtain ⟨t, a, ht, hid, ⟨d₀, hd₀, rfl⟩, hj⟩ := hs'.joint
  replace hd₀ : w.dirs kActiveApexPackagesDataDir = some d₀ := hd₀
  rw [hd] at hd₀
  cases hd₀
  replace hj : Joint A B g'.mark g'.rollback t.state d.entries _ := hj
  rw [hρ'] at hj
  obtain ⟨hm, hb, hfiles, hst⟩ := hj.of_deleting
  obtain ⟨⟨n, node⟩, he, rfl⟩ := List.mem_map.1 (hrest.mem_iff.1 List.mem_cons_self)
  obtain ⟨f, hfile⟩ := Option.isSome_iff_exists.1 (hfiles _ he)
  cases node with
  | dir => cases hfile
  | file f' =>
  rw [World.unlink_join_file hd he] at hu
  cases hu
  have hback : (w.setDir kActiveApexPackagesDataDir (some (d.erase n))).dirs kApexBackupDir =
      w.dirs kApexBackupDir := World.setDir_other _ _ active_ne_backup.symm
  have hE : w.Emptying (w.setDir kActiveApexPackagesDataDir (some (d.erase n))) :=
    ⟨d, d.erase n, hd, d.erase_sublist n, rfl⟩
  have hinv : RaceInv cfg id A B (w.setDir kActiveApexPackagesDataDir (some (d.erase n)), g') := by
    refine hs'.moved (World.setDir_onlyDirs _ _ _) hE.notFile hE.sessions
      ⟨d.erase n, World.setDir_self _ _ _, rfl⟩ ?_
    intro st a' hj'
    rw [hρ'] at hj' ⊢
    rw [hback]
    obtain ⟨_, hb', _, hst'⟩ := hj'.of_deleting
    rw [hb']
    exact .deleting hm hst' fun e h => hfiles e ((d.erase_sublist n).subset h)
  refine ⟨fun _ => ⟨hinv, rfl, fun _ => hback, hback.trans⟩, hinv, rfl, hρ', d.erase n,
    World.setDir_self _ _ _, ?_⟩
  have hp := hrest.trans ((Dir.perm_erase he).map fun e => join kActiveApexPackagesDataDir e.1)
  exact (List.perm_cons _).1 hp

/-- While it is deleting, both directories are there. -/
theorem RaceInv.both_there (hs : RaceInv cfg id A B s) (hρ : s.2.rollback = .deleting) :
    (∃ st, s.1.stat kApexBackupDir = .ok st) ∧ ∃ st,
    s.1.stat kActiveApexPackagesDataDir = .ok st := by
  obtain ⟨w, g⟩ := s
  obtain ⟨t, a, ht, hid, ⟨d, hd, rfl⟩, hj⟩ := hs.joint
  replace hρ : g.rollback = .deleting := hρ
  replace hj : Joint A B g.mark g.rollback t.state d.entries _ := hj
  rw [hρ] at hj
  obtain ⟨_, hb, _, _⟩ := hj.of_deleting
  obtain ⟨db, hdb, _⟩ := Option.map_eq_some_iff.1 hb
  have hma := hs.frame.unmounted.mounted active_notApex
  have hmb := hs.frame.unmounted.mounted backup_notApex
  replace hd : w.dirs kActiveApexPackagesDataDir = some d := hd
  replace hdb : w.dirs kApexBackupDir = some db := hdb
  refine ⟨⟨⟨true, db.mode⟩, ?_⟩, ⟨true, d.mode⟩, ?_⟩
  · simp only [World.stat, hmb, hdb]
  · simp only [World.stat, hma, hd]

/-- The active directory goes with its content, one entry after the other. -/
theorem rollbackWp_deleteActive (hs : RaceInv cfg id A B s) (hρ : s.2.rollback = .deleting) :
    RollbackWp cfg id A B (deleteDirContent kActiveApexPackagesDataDir)
      (fun r s' => r = .ok () ∧ s'.2.rollback = .deleting ∧ ∃ d : Dir,
        s'.1.dirs kActiveApexPackagesDataDir = some d ∧ d.entries = []) s := by
  unfold deleteDirContent readDir
  simp only [bind_eq, exec_bind]
  refine wp_bind.2 (wp_mapErr.2 (rollbackWp_look hs (fun _ _ _ h => h.2) (fun _ _ _ _ => rfl)
    (fun _ => trivial) ?_))
  intro s₁ hr₁ hs₁ r hn
  have hρ₁ := (hr₁ hs).2.1.trans hρ
  obtain ⟨t, a, ht, hid, ⟨d, hd, rfl⟩, hj⟩ := hs₁.joint
  have hlist : s₁.1.Lists kActiveApexPackagesDataDir r := hn.1
  unfold World.Lists at hlist
  rw [hs₁.frame.unmounted.mounted active_notApex, hd] at hlist
  obtain ⟨es, hes, rfl⟩ := hlist
  refine ⟨hs₁, ?_⟩
  dsimp only [Except.mapError, Then]
  rw [map_path_filter, List.filter_eq_self.2 fun _ _ => rfl]
  refine wp_forM (fun rest s => RaceInv cfg id A B s ∧ s.2.rollback = .deleting ∧ ∃ d : Dir,
    s.1.dirs kActiveApexPackagesDataDir = some d ∧
    rest.Perm (d.entries.map fun e => join kActiveApexPackagesDataDir e.1)) _ ?_ ?_ ?_
  · rintro x rest s₂ - ⟨hs₂, hρ₂, d, hd, hrest⟩
    refine (rollbackWp_unlink hs₂ hρ₂ hd hrest _).imp ?_
    rintro (e | _) s₃ hs₃ ⟨h, hρ₃, hd₃⟩
    · cases h
    · exact ⟨hs₃, hρ₃, hd₃⟩
  · rintro s₂ ⟨hs₂, hρ₂, d, hd, hrest⟩
    exact ⟨hs₂, rfl, hρ₂, d, hd, List.map_eq_nil_iff.1 (List.nil_perm.1 hrest)⟩
  · exact ⟨hs₁, hρ₁, d, hd, hes.map _⟩

/-- The backup takes the place of the empty directory. -/
theorem rollbackWp_rename (hs : RaceInv cfg id A B s) (hρ : s.2.rollback = .deleting) {d : Dir}
    (hd : s.1.dirs kActiveApexPackagesDataDir = some d) (hnil : d.entries = []) (msg : String) :
    RollbackWp cfg id A B (sys (.rename kApexBackupDir kActiveApexPackagesDataDir) >>= check msg)
      (fun r s' => r = .ok () ∧ s'.2.rollback = .restored) s := by
  refine wp_call_among hs fun s' hr => ⟨trivial, ?_⟩
  obtain ⟨hs', hρ', hact, _⟩ := hr hs
  obtain ⟨w, g⟩ := s'
  rintro r ⟨w', g'⟩ ⟨_, hn | hf, hg⟩
  case inr => exact hf.elim
  replace hρ' : g.rollback = .deleting := hρ'.trans hρ
  replace hd : w.dirs kActiveApexPackagesDataDir = some d := hact.trans hd
  obtain ⟨t, a, ht, hid, _, hj⟩ := hs'.joint
  replace hj : Joint A B g.mark g.rollback t.state a _ := hj
  rw [hρ'] at hj
  obtain ⟨hm, hb, _, _⟩ := hj.of_deleting
  obtain ⟨db, hdb, hdbB⟩ := Option.map_eq_some_iff.1 hb
  obtain ⟨rfl, hR⟩ := World.rename_backup hd hnil hdb hn
  replace hg : g' = { g with rollback := .restored } := hg
  obtain ⟨db', d', hdb', hd', hc⟩ := hR.content
  rw [show w.dirs kApexBackupDir = some db from hdb] at hdb'
  cases hdb'
  have hinv : RaceInv cfg id A B (w', g') := by
    refine hs'.moved hR.rest hR.notFile hR.sessions ⟨d', hd', rfl⟩ ?_
    intro st a' hj'
    rw [hρ'] at hj'
    obtain ⟨_, _, _, hst'⟩ := hj'.of_deleting
    rw [hR.gone, hg, hc, show db.entries = B from hdbB]
    exact .restored hm hst'
  exact ⟨fun _ => ⟨hinv, hg ▸ rfl, fun h => absurd h hm, fun _ => hR.gone⟩, hinv, rfl, hg ▸ rfl⟩

/-- The mode of the active directory is restored. -/
theorem rollbackWp_chmod (hs : RaceInv cfg id A B s) (hρ : s.2.rollback = .restored) (mode : Nat)
    (msg : String) :
    RollbackWp cfg id A B (sys (.chmod kActiveApexPackagesDataDir mode) >>= check msg)
      (fun r s' => r = .ok () ∧ s'.2.rollback = .restored) s := by
  refine wp_call_among hs fun s' hr => ⟨trivial, ?_⟩
  obtain ⟨hs', hρ', hact, _⟩ := hr hs
  obtain ⟨w, g⟩ := s'
  rintro r ⟨w', g'⟩ ⟨_, hn | hf, hg⟩
  case inr => exact hf.elim
  obtain rfl : g' = g := hg
  replace hρ' : g'.rollback = .restored := hρ'.trans hρ
  obtain ⟨t, a, ht, hid, ⟨d, hd, rfl⟩, hj⟩ := hs'.joint
  have hch : (r, w') = w.chmod kActiveApexPackagesDataDir mode := hn
  unfold World.chmod at hch
  rw [show w.dirs kActiveApexPackagesDataDir = some d from hd] at hch
  cases hch
  have hback : (w.setDir kActiveApexPackagesDataDir (some (d.chmod mode))).dirs kApexBackupDir =
      w.dirs kApexBackupDir := World.setDir_other _ _ active_ne_backup.symm
  have hinv : RaceInv cfg id A B
      (w.setDir kActiveApexPackagesDataDir (some (d.chmod mode)), g') := by
    refine hs'.moved (World.setDir_onlyDirs _ _ _) ?_ ?_ ⟨_, World.setDir_self _ _ _, rfl⟩ ?_
    · intro hf
      rwa [World.file?_setDir_other _ _ (by rw [dirName_backup]; exact active_ne_data.symm)]
    · intro q hq
      exact World.setDir_other _ _ (ne_of_startsWith hq active_notSession)
    · intro st a' hj'
      replace hj : Joint A B g'.mark g'.rollback t.state d.entries _ := hj
      rw [hρ'] at hj hj' ⊢
      rw [hback, show (d.chmod mode).entries = B from hj.of_restored.2]
      have ha' : a' = B := hj'.of_restored.2
      rw [ha'] at hj'
      exact hj'
  exact ⟨fun _ => ⟨hinv, rfl, fun _ => hback, hback.trans⟩, hinv, rfl, hρ'⟩

/-- While it is deleting, the rollback always gets to the renamed backup. -/
theorem rollbackWp_restoreBackup (hs : RaceInv cfg id A B s) (hρ : s.2.rollback = .deleting) :
    RollbackWp cfg id A B restoreBackup (fun r s => r = .ok () ∧ s.2.rollback = .restored) s := by
  unfold restoreBackup pathExists
  simp only [bind_eq, exec_bind]
  -- both directories are there
  refine wp_bind.2 (rollbackWp_look hs (fun _ _ _ h => h.2) (fun _ _ _ _ => rfl)
    (fun _ => trivial) ?_)
  intro s₁ hr₁ hs₁ r hn
  have hρ₁ := (hr₁ hs).2.1.trans hρ
  obtain ⟨⟨st, hst⟩, _⟩ := hs₁.both_there hρ₁
  obtain rfl : r = .ok st := hn.1.trans hst
  refine ⟨hs₁, wp_bind.2 ⟨hs₁, ?_⟩⟩
  refine rollbackWp_look hs₁ (fun _ _ _ h => h.2) (fun _ _ _ _ => rfl) (fun _ => trivial) ?_
  intro s₂ hr₂ hs₂ r hn
  have hρ₂ := (hr₂ hs₁).2.1.trans hρ₁
  obtain ⟨_, ⟨st', hst'⟩⟩ := hs₂.both_there hρ₂
  obtain rfl : r = .ok st' := hn.1.trans hst'
  refine wp_bind.2 ⟨hs₂, rollbackWp_look hs₂ (fun _ _ _ h => h) (fun _ _ _ _ => rfl)
    (fun _ => trivial) ?_⟩
  intro s₃ hr₃ hs₃ _ _
  have hρ₃ := (hr₃ hs₂).2.1.trans hρ₂
  refine wp_bind.2 ((rollbackWp_deleteActive hs₃ hρ₃).imp ?_)
  rintro (e | _) s₄ hs₄ ⟨h, hρ₄, d, hd, hnil⟩
  · cases h
  refine wp_bind.2 ((rollbackWp_rename hs₄ hρ₄ hd hnil _).imp ?_)
  rintro (e | _) s₅ hs₅ ⟨h, hρ₅⟩
  · cases h
  exact rollbackWp_chmod hs₅ hρ₅ _ _

/-- How far the loop over the session directories is: the record of `id` is read exactly once. -/
inductive Reading (cfg : Config) (id : Int32) (acc : List SessionState) (rest : List String) :
    RollbackPhase → Prop where
  | before (hrest : toString id ∈ rest) (hacc : acc.filter (fun s => !s.isFinalized) = []) :
      Reading cfg id acc rest .unread
  | live (hrest : toString id ∉ rest) {t : SessionState} (ht : t.id = id)
    (hs : t.state = .ACTIVATED)
      (hacc : acc.filter (fun s => !s.isFinalized) = [t]) : Reading cfg id acc rest .live
  | out (hrest : toString id ∉ rest) (hacc : acc.filter (fun s => !s.isFinalized) = []) :
      Reading cfg id acc rest .out

/-- The record of `id` is read now. -/
theorem Reading.own {acc : List SessionState} {rest : List String} {t : SessionState}
    (hnr : toString id ∉ rest) (ht : t.id = id) (hst : t.state = .ACTIVATED ∨ t.state = .SUCCESS)
    (h : Reading cfg id acc (toString id :: rest) .unread) :
    Reading cfg id (acc ++ [t]) rest (if t.state = .ACTIVATED then .live else .out) := by
  cases h with
  | before _ hacc =>
    rcases hst with hst | hst
    · have hfin : t.isFinalized = false := by rw [SessionState.isFinalized, hst]
      simp only [hst, if_true]
      exact .live hnr ht hst (by rw [List.filter_append, hacc]; simp [hfin])
    · have hfin : t.isFinalized = true := by rw [SessionState.isFinalized, hst]
      simp only [hst, reduceCtorEq, if_false]
      exact .out hnr (by rw [List.filter_append, hacc]; simp [hfin])

/-- What is read of another record is finalized. -/
theorem Reading.other {n : String} {acc l : List SessionState} {rest : List String}
    {ρ : RollbackPhase} (hid : n ≠ toString id) (hl : l.filter (fun s => !s.isFinalized) = [])
    (h : Reading cfg id acc (n :: rest) ρ) : Reading cfg id (acc ++ l) rest ρ := by
  have hfilter : ∀ l', acc.filter (fun s => !s.isFinalized) = l' →
      (acc ++ l).filter (fun s => !s.isFinalized) = l' := by
    rintro _ rfl
    rw [List.filter_append, hl, List.append_nil]
  cases h with
  | before hrest hacc =>
    exact .before ((List.mem_cons.1 hrest).resolve_left (Ne.symm hid)) (hfilter _ hacc)
  | live hrest ht hs hacc =>
    exact .live (fun h => hrest (List.mem_cons_of_mem _ h)) ht hs (hfilter _ hacc)
  | out hrest hacc => exact .out (fun h => hrest (List.mem_cons_of_mem _ h)) (hfilter _ hacc)

/-- One session directory. -/
theorem rollbackWp_getSessionsLoop {n : String} {acc : List SessionState} {rest : List String}
    (hs : RaceInv cfg id A B s) (hn : n ∈ s.1.sessionNames) (hnr : n ∉ rest)
    (hr : Reading cfg id acc (n :: rest) s.2.rollback) :
    RollbackWp cfg id A B (getSessionsLoop cfg acc (join kApexSessionsDir n))
      (fun r s' => s'.1.sessionNames = s.1.sessionNames ∧
        ∃ acc', r = .ok acc' ∧ Reading cfg id acc' rest s'.2.rollback) s := by
  unfold getSessionsLoop getSessionFromFile
  simp only [bind_eq, exec_bind]
  refine wp_bind.2 (wp_attempt.2 (wp_call_among hs fun s' hrely => ⟨trivial, ?_⟩))
  obtain ⟨hs', hρ, _, hnames⟩ := hrely hs
  obtain ⟨w, g⟩ := s'
  rintro r ⟨w', g'⟩ ⟨hok, ⟨hread, rfl⟩ | hf, hg⟩
  case inr => exact hf.elim
  have hrec : w'.record? cfg n = r.bind cfg.proto.parse := by rw [hread]; rfl
  have hg' : g' = rollbackPhase cfg id (.readFile (join (join kApexSessionsDir n) kStateFileName))
    w' r w' g := hg
  rw [← hρ] at hr
  replace hr : Reading cfg id acc (n :: rest) g.rollback := hr
  -- what the reply adds to the sessions
  suffices hsuff : RaceInv cfg id A B (w', g') ∧ g'.mark = g.mark ∧
      Reading cfg id (acc ++ (w'.record? cfg n).toList) rest g'.rollback by
    obtain ⟨hinv, hmark, hR⟩ := hsuff
    refine ⟨fun _ => ⟨hinv, hmark, fun _ => rfl, fun h => h⟩, ?_⟩
    rw [hrec] at hR
    cases r with
    | none => exact ⟨hinv, hinv, hnames, _, rfl, by simpa using hR⟩
    | some b =>
      dsimp only [Option.bind_some] at hR ⊢
      cases hp : cfg.proto.parse b with
      | none => exact ⟨hinv, hinv, hnames, _, rfl, by simpa [hp] using hR⟩
      | some t => exact ⟨hinv, hinv, hnames, _, rfl, by simpa [hp] using hR⟩
  by_cases hid : n = toString id
  · -- the record that both calls are about
    subst hid
    obtain ⟨t, a, ht, htid, ha, hj⟩ := hs'.joint
    replace ht : w'.record? cfg (toString id) = some t := ht
    have hread' : readsActivated cfg r = decide (t.state = .ACTIVATED) := by
      unfold readsActivated
      rw [← hrec, ht]
    replace hg' : g' = { g with rollback := if t.state = .ACTIVATED then .live else .out } := by
      rw [hg', rollbackPhase, if_pos (stateFilePath_inj.2 rfl), hread']
      simp
    have hunread : g.rollback = .unread := by
      generalize g.rollback = ρ at hr
      cases hr with
      | before _ _ => rfl
      | live h => exact absurd List.mem_cons_self h
      | out h => exact absurd List.mem_cons_self h
    rw [hunread] at hr
    replace hj : Joint A B g.mark g.rollback t.state a _ := hj
    rw [hunread] at hj
    have hm : g.mark ≠ .cleaning := by
      have hok' : (_ || decide (g.mark ≠ .cleaning)) = true := hok
      simpa [stateFilePath_inj] using hok'
    obtain ⟨hj', hst⟩ := hj.rollbackRead hm
    have hinv : RaceInv cfg id A B (w', g') := by
      refine ⟨hs'.frame, t, a, ht, htid, ha, ?_⟩
      rw [hg']
      exact hj'
    refine ⟨hinv, by rw [hg'], ?_⟩
    rw [hg', ht]
    exact hr.own hnr htid hst
  · -- another record: it is finalized
    replace hg' : g' = g := by
      rw [hg', rollbackPhase, if_neg (mt stateFilePath_inj.1 hid)]
    subst hg'
    refine ⟨hs', rfl, ?_⟩
    have hfin : (w'.record? cfg n).toList.filter (fun s => !s.isFinalized) = [] := by
      cases ht : w'.record? cfg n with
      | none => rfl
      | some t =>
        have : t.isFinalized = true := by
          by_contra hne
          exact hid (hs'.frame.only n t (hnames ▸ hn) ht (by simpa using hne))
        simp [this]
    exact hr.other hid hfin

/-- `GetSessions` finds the record either activated, and then it is the only active one, or
finalized. -/
theorem rollbackWp_getSessions (hs : RaceInv cfg id A B s) (hρ : s.2.rollback = .unread) :
    RollbackWp cfg id A B (getSessions cfg)
      (fun r s => ∃ l, r = .ok l ∧ Reading cfg id l [] s.2.rollback) s := by
  unfold getSessions readDir
  simp only [bind_eq, exec_bind]
  refine wp_bind.2 (wp_attempt.2 (rollbackWp_look hs (fun _ _ _ h => h.2) (fun _ _ _ _ => rfl)
    (fun _ => trivial) ?_))
  intro s₁ hr₁ hs₁ r hn
  have hρ₁ := (hr₁ hs).2.1.trans hρ
  have hlisted := hs₁.frame.listed
  have hlist : s₁.1.Lists kApexSessionsDir r := hn.1
  unfold World.Lists at hlist
  rw [hs₁.frame.unmounted.mounted sessions_notApex] at hlist
  cases hd : s₁.1.dirs kApexSessionsDir with
  | none => rw [World.sessionNames, hd] at hlisted; cases hlisted
  | some d =>
  rw [hd] at hlist
  obtain ⟨es, hes, rfl⟩ := hlist
  refine ⟨hs₁, ?_⟩
  dsimp only [Then]
  rw [map_path_filter]
  have hnames : ((es.filter fun e => e.2.file?.isNone).map Prod.fst).Perm s₁.1.sessionNames := by
    unfold World.sessionNames
    rw [hd]
    exact (hes.filter _).map _
  refine wp_foldlM (fun rest acc s => RaceInv cfg id A B s ∧ s.1.sessionNames = s₁.1.sessionNames ∧
    ∃ left : List String, rest = left.map (join kApexSessionsDir) ∧ left.Nodup ∧
      left ⊆ s₁.1.sessionNames ∧ Reading cfg id acc left s.2.rollback) _ ?_ ?_ ?_
  · rintro path rest acc s₂ - ⟨hs₂, hsn, left, hleft, hnd, hsub, hR⟩
    obtain ⟨n, left, rfl, rfl, rfl⟩ := List.map_eq_cons_iff.1 hleft.symm
    obtain ⟨hnl, hnd⟩ := List.nodup_cons.1 hnd
    refine (rollbackWp_getSessionsLoop hs₂ (hsn ▸ hsub List.mem_cons_self) hnl hR).imp ?_
    rintro _ s₃ hs₃ ⟨hsn₃, acc', rfl, hR⟩
    exact ⟨hs₃, hsn₃.trans hsn, left, rfl, hnd, fun n h => hsub (List.mem_cons_of_mem _ h), hR⟩
  · rintro acc s₂ ⟨hs₂, _, left, hleft, _, _, hR⟩
    rw [List.map_eq_nil_iff.1 hleft.symm] at hR
    exact ⟨hs₂, acc, rfl, hR⟩
  · refine ⟨hs₁, rfl, (es.filter fun e => e.2.file?.isNone).map Prod.fst, ?_, ?_, ?_, ?_⟩
    · rw [List.map_map]
      rfl
    · exact hnames.nodup_iff.2 s₁.1.sessionNames_nodup
    · exact hnames.subset
    · rw [hρ₁]
      exact .before (hnames.mem_iff.2 hlisted) rfl

/-- Once it has read the record as activated, the rollback goes through. -/
theorem rollbackWp_rollbackActivatedSession {t : SessionState} (hs : RaceInv cfg id A B s)
    (hA : ∀ e ∈ A, e.2.file?.isSome) (ht : t.id = id) (hρ : s.2.rollback = .live) :
    RollbackWp cfg id A B (rollbackActivatedSession cfg t)
      (fun _ s => s.2.rollback = .done) s := by
  unfold rollbackActivatedSession doRollback commitOrLog
  simp only [bind_eq, exec_bind]
  -- outside fs-checkpoint mode
  refine rollbackWp_look hs (fun _ _ _ h => h.2) (fun _ _ _ _ => rfl) (fun _ => trivial) ?_
  intro s₁ hr₁ hs₁ r hn
  obtain rfl : r = ⟨s₁.1.supportsFsCheckpoints, s₁.1.inFsCheckpointMode⟩ := hn.1
  dsimp only
  rw [hs₁.frame.noCheckpoint, if_neg (by simp)]
  refine wp_bind.2 (wp_mapErr.2 ((rollbackWp_commit hs₁ ht ((hr₁ hs).2.1.trans hρ) rfl
    fun _ _ _ _ h => h.rollbackBegin hA).imp ?_))
  rintro _ s₂ hs₂ ⟨rfl, hρ₂⟩
  refine wp_bind.2 (wp_mapErr.2 (rollbackWp_look hs₂ (fun _ _ _ h => h.2) (fun _ _ _ _ => rfl)
    (fun _ => trivial) ?_))
  intro s₃ hr₃ hs₃ r hn
  obtain rfl : r = ⟨s₃.1.supportsFsCheckpoints, s₃.1.inFsCheckpointMode⟩ := hn.1
  dsimp only
  rw [hs₃.frame.noCheckpoint, if_neg (by simp)]
  refine wp_onFail.2 ((rollbackWp_restoreBackup hs₃ ((hr₃ hs₂).2.1.trans hρ₂)).imp ?_)
  rintro _ s₄ hs₄ ⟨rfl, hρ₄⟩
  refine wp_bind.2 (wp_attempt.2 ((rollbackWp_commit hs₄ ht hρ₄ rfl
    fun _ _ _ _ h => h.rollbackDone).imp ?_))
  rintro _ s₅ hs₅ ⟨rfl, hρ₅⟩
  exact ⟨hs₅, hρ₅⟩

/-- **The rollback among the moves of the marking call.** -/
theorem rollbackWp_rollbackActiveSession (hs : RaceInv cfg id A B s)
    (hA : ∀ e ∈ A, e.2.file?.isSome) (hρ : s.2.rollback = .unread) :
    RollbackWp cfg id A B (rollbackActiveSession cfg)
      (fun _ s => s.2.rollback = .done ∨ s.2.rollback = .out) s := by
  unfold rollbackActiveSession getActiveSession
  simp only [bind_eq]
  refine wp_bind.2 (wp_mapErr.2 (wp_bind.2 ((rollbackWp_getSessions hs hρ).imp ?_)))
  rintro _ s₁ hs₁ ⟨l, rfl, hR⟩
  refine wp_ofExcept.2 ⟨hs₁, ?_⟩
  rw [findActiveSession_none]
  generalize hρ₁ : s₁.2.rollback = ρ at hR
  cases hR with
  | before h => cases h
  | out _ hacc =>
    rw [hacc]
    exact ⟨hs₁, Or.inr hρ₁⟩
  | live _ ht hst hacc =>
    rw [hacc]
    dsimp only [Except.mapError, Then]
    unfold rollbackSession
    rw [hst]
    exact (rollbackWp_rollbackActivatedSession hs₁ hA ht hρ₁).imp fun _ _ _ h => Or.inl h

end Rollback

/-! ## One after the other -/

/-- The stored state, the active entries and those of the backup. -/
def World.raceOutcome (w : World) (cfg : Config) (id : Int32) :
    Option State × Option (List (String × Node)) × Option (List (String × Node)) :=
  ((w.record? cfg (toString id)).map (·.state),
    (w.dirs kActiveApexPackagesDataDir).map (·.entries), (w.dirs kApexBackupDir).map (·.entries))

/-- The kernel of the race: a call fails only for a reason visible in the state. -/
def raceKernel : Kernel Sys Sys.Res World := kernel .off Sys.NoFault

section Serial

variable {w : World} {s : SessionState}

/-- A session that is not activated any more is left alone. -/
theorem wp_markStagedSessionSuccessful_finished {t : SessionState}
    (ht : w.record? cfg (toString id) = some t) (hs : t.state ≠ .ACTIVATED) :
    wp raceKernel (fun _ => True) (markStagedSessionSuccessful cfg id) (fun _ w' => w' = w) w := by
  unfold markStagedSessionSuccessful getSession
  simp only [bind_eq]
  refine wp_bind.2 (wp_getSessionFromFile Sys.NoFault.commits.reads trivial ?_)
  intro x hx
  obtain rfl := (hx t).2 ht
  dsimp only [Then]
  split
  · exact ⟨trivial, rfl⟩
  · rename_i hact
    exact absurd hact hs
  · exact ⟨trivial, rfl⟩

/-- With no active session there is nothing to roll back. -/
theorem wp_rollbackActiveSession_idle (hm : w.mounted kApexSessionsDir = none)
    (h : ∀ m t, m ∈ w.sessionNames → w.record? cfg m = some t → t.isFinalized = true) :
    wp raceKernel (fun _ => True) (rollbackActiveSession cfg) (fun _ w' => w' = w) w := by
  unfold rollbackActiveSession
  simp only [bind_eq]
  refine wp_bind.2 (wp_mapErr.2 (wp_getActiveSession Sys.NoFault.commits.reads hm trivial ?_))
  intro x _ _ hx
  rw [hx h]
  exact ⟨trivial, rfl⟩

/-- Marking first: the new packages stay and the backup is emptied. -/
theorem wp_markStagedSessionSuccessful (h : RollbackStart cfg s A B w) :
    wp raceKernel (fun _ => True) (markStagedSessionSuccessful cfg s.id)
      (fun _ w' => w'.raceOutcome cfg s.id = (some .SUCCESS, some A, some []) ∧ w'.DataUnmounted ∧
        ∀ m t, m ∈ w'.sessionNames → w'.record? cfg m = some t → t.isFinalized = true) w := by
  obtain ⟨da, hda, hA⟩ := h.active
  obtain ⟨db, hdb, hB⟩ := h.backup
  have hm := h.unmounted.mounted backup_notApex
  unfold markStagedSessionSuccessful getSession
  simp only [bind_eq]
  refine wp_bind.2 (wp_getSessionFromFile Sys.NoFault.commits.reads trivial ?_)
  intro x hx
  obtain rfl := (hx s).2 h.stored
  dsimp only [Then]
  rw [h.activated]
  unfold deleteBackup
  simp only [bind_eq]
  refine wp_bind.2 (wp_mapErr.2
    (wp_bind.2 (wp_mapErr.2 (wp_pathExists Sys.NoFault.commits trivial ?_))))
  intro b hb
  rw [hb.2 ⟨⟨true, db.mode⟩, by simp only [World.stat, hm, hdb]⟩]
  dsimp only [Except.mapError, Then]
  rw [if_pos rfl]
  refine wp_deleteDirContent (I := fun _ => True) Sys.NoFault.commits hm hdb (fun _ _ _ => trivial)
    ?_ ?_
  · intro d' _ hnil
    -- the backup is empty: commit
    have hses : ∀ q, startsWith q kApexSessionsDir = true →
        (w.setDir kApexBackupDir (some d')).dirs q = w.dirs q := fun q hq =>
      World.setDir_other _ _ (ne_of_startsWith hq backup_notSession)
    refine wp_updateStateAndCommit Sys.NoFault.commits trivial ?_ ?_ fun _ _ hF _ => hF.elim
    · intro hn
      have hrec : (w.setDir kApexBackupDir (some d')).record? cfg (toString s.id) =
          w.record? cfg (toString s.id) := World.record?_congr hses (toString s.id)
      rw [h.stored] at hrec
      unfold World.record? at hrec
      rw [show join (join kApexSessionsDir (toString s.id)) kStateFileName =
        getSessionStateFilePath s.id from rfl, hn] at hrec
      cases hrec
    · intro w' hr
      refine ⟨trivial, ?_, ?_, ?_⟩
      · unfold World.raceOutcome
        rw [hr.record?, SessionProto.parse_serialize, hr.dirs_other sessionDir_ne_active.symm,
          hr.dirs_other sessionDir_ne_backup.symm, World.setDir_self,
          World.setDir_other _ _ active_ne_backup, hda, ← hA]
        simp [hnil]
      · exact (h.unmounted.onlyDirs (World.setDir_onlyDirs _ _ _)).onlyDirs hr.onlyDirs
      · intro m t hn ht
        by_cases hne : m = toString s.id
        · subst hne
          rw [hr.record?, SessionProto.parse_serialize] at ht
          cases ht
          rfl
        · rw [hr.sessionNames, World.sessionNames_congr hses] at hn
          rw [hr.record?_other hne, World.record?_congr hses] at ht
          by_contra hf
          exact hne (h.only m t hn ht (by simpa using hf))
  · rintro d' e _ _ ⟨n, hn⟩
    cases h.files _ (List.mem_append_right _ (hB ▸ hn))

/-- Rolling back first: the backup becomes the active directory. -/
theorem wp_rollbackActiveSession (h : RollbackStart cfg s A B w) :
    wp raceKernel (RollbackInv cfg s.id B) (rollbackActiveSession cfg)
      (fun _ w' => w'.raceOutcome cfg s.id = (some .ROLLED_BACK, some B, none)) w := by
  obtain ⟨hfiles, hinv⟩ := h.inv
  have hfin : s.isFinalized = false := by rw [SessionState.isFinalized, h.activated]
  unfold rollbackActiveSession
  simp only [bind_eq]
  refine wp_bind.2 (wp_mapErr.2 (wp_getActiveSession Sys.NoFault.commits.reads
    (h.unmounted.mounted sessions_notApex) hinv ?_))
  intro x _ hx _
  rw [hx _ s h.listed h.stored hfin h.only]
  dsimp only [Except.mapError, Then]
  unfold rollbackSession
  rw [h.activated]
  refine (wp_rollbackActivatedSession hinv rfl h.backup hfiles).imp ?_
  rintro _ w' hinv' ⟨t, ht, hst⟩
  obtain ⟨t', ht', _, hstage⟩ := hinv'.record
  rw [ht] at ht'
  cases ht'
  rw [hst] at hstage
  cases hstage with
  | rolledBack hb ha =>
    obtain ⟨d, hd, hdB⟩ := ha
    unfold World.raceOutcome
    rw [ht, hb, hd, ← hdB]
    simp [hst]

theorem serial_mark_rollback (h : RollbackStart cfg s A B w) {x y : Except String Unit}
    {w₁ w₂ : World} (h₁ : Ends raceKernel (markStagedSessionSuccessful cfg s.id) w x w₁)
    (h₂ : Ends raceKernel (rollbackActiveSession cfg) w₁ y w₂) :
    w₂.raceOutcome cfg s.id = (some .SUCCESS, some A, some []) := by
  obtain ⟨ho, hm, hfin⟩ := (wp_markStagedSessionSuccessful h).ends h₁
  rw [(wp_rollbackActiveSession_idle (hm.mounted sessions_notApex) hfin).ends h₂, ho]

theorem serial_rollback_mark (h : RollbackStart cfg s A B w) {x y : Except String Unit}
    {w₁ w₂ : World} (h₁ : Ends raceKernel (rollbackActiveSession cfg) w x w₁)
    (h₂ : Ends raceKernel (markStagedSessionSuccessful cfg s.id) w₁ y w₂) :
    w₂.raceOutcome cfg s.id = (some .ROLLED_BACK, some B, none) := by
  have ho := (wp_rollbackActiveSession h).ends h₁
  obtain ⟨t, ht, hst⟩ := Option.map_eq_some_iff.1 (congrArg Prod.fst ho)
  rw [(wp_markStagedSessionSuccessful_finished ht (by rw [hst]; decide)).ends h₂, ho]

end Serial

/-- Where both calls have ended, the outcome is that of one of the serial orders. -/
theorem RaceInv.outcome {s : World × Phases} (h : RaceInv cfg id A B s)
    (hr : s.2.rollback = .done ∨ s.2.rollback = .out) :
    s.1.raceOutcome cfg id = (some .SUCCESS, some A, some []) ∨
      s.1.raceOutcome cfg id = (some .ROLLED_BACK, some B, none) := by
  obtain ⟨w, g⟩ := s
  obtain ⟨_, t, a, ht, _, ⟨d, hd, rfl⟩, hj⟩ := h
  replace hr : g.rollback = .done ∨ g.rollback = .out := hr
  replace ht : w.record? cfg (toString id) = some t := ht
  replace hd : w.dirs kActiveApexPackagesDataDir = some d := hd
  replace hj : Joint A B g.mark g.rollback t.state d.entries
      ((w.dirs kApexBackupDir).map (·.entries)) :=
    hj
  have ho : w.raceOutcome cfg id =
      (some t.state, some d.entries, (w.dirs kApexBackupDir).map (·.entries)) := by
    unfold World.raceOutcome
    rw [ht, hd]
    rfl
  rw [show (w, g).1 = w from rfl, ho]
  generalize t.state = st at hj ⊢
  generalize d.entries = a at hj ⊢
  generalize (w.dirs kApexBackupDir).map (·.entries) = b at hj ⊢
  generalize g.rollback = r at hj hr
  generalize g.mark = m at hj
  cases hj with
  | success _ => exact Or.inl rfl
  | rolledBack _ => exact Or.inr rfl
  | _ => simp at hr

/-- **The two calls are serializable while they keep apart**: either serial order has one outcome,
and every interleaving of the moves that `markOk` and `rollbackOk` allow ends in one of the two. -/
theorem race_serial {w : World} {s : SessionState} (h : RollbackStart cfg s A B w) :
    (∀ x w₁ y w₂, Ends raceKernel (markStagedSessionSuccessful cfg s.id) w x w₁ →
      Ends raceKernel (rollbackActiveSession cfg) w₁ y w₂ →
      w₂.raceOutcome cfg s.id = (some .SUCCESS, some A, some [])) ∧
    (∀ x w₁ y w₂, Ends raceKernel (rollbackActiveSession cfg) w x w₁ →
      Ends raceKernel (markStagedSessionSuccessful cfg s.id) w₁ y w₂ →
      w₂.raceOutcome cfg s.id = (some .ROLLED_BACK, some B, none)) ∧
    ∀ x y s', Par (markKernel cfg s.id) (rollbackKernel cfg s.id)
        (markStagedSessionSuccessful cfg s.id) (rollbackActiveSession cfg)
        (w, ⟨.unread, .unread⟩) (ofExcept x) (ofExcept y) s' →
      s'.1.raceOutcome cfg s.id = (some .SUCCESS, some A, some []) ∨
        s'.1.raceOutcome cfg s.id = (some .ROLLED_BACK, some B, none) := by
  refine ⟨fun _ _ _ _ => serial_mark_rollback h, fun _ _ _ _ => serial_rollback_mark h, ?_⟩
  intro x y s' hp
  obtain ⟨db, hdb, hB⟩ := h.backup
  have hinv : RaceInv cfg s.id A B (w, ⟨.unread, .unread⟩) := by
    refine ⟨⟨h.unmounted, h.noCheckpoint, h.notFile, h.listed, h.only⟩, s, A, h.stored,
      rfl, h.active, ?_⟩
    rw [h.activated, hdb, Option.map_some, hB]
    exact .start (Or.inl rfl)
  have hfilesB : ∀ e ∈ B, e.2.file?.isSome ∧ NoSlash e.1 := fun e he =>
    ⟨h.files e (List.mem_append_right _ he), db.noSlash e (hB ▸ he)⟩
  have hend := (hp.inv MarkRely.refl RollbackRely.refl MarkRely.trans RollbackRely.trans
    (fun _ _ hi hr => (hr hi).1) (fun _ _ hi hr => (hr hi).1) (fun _ _ _ h _ => h) ?_
    (fun _ _ h => h) (fun _ _ h => h) (markWp_markStagedSessionSuccessful hinv hfilesB rfl)
    ((rollbackWp_rollbackActiveSession hinv
      (fun e he => h.files e (List.mem_append_left _ he)) rfl).imp
      fun _ s hI hQ => (⟨hI, hQ⟩ : RaceInv cfg _ A B s ∧ _))).2
  · exact (wp_ofExcept.1 hend).2.1.outcome (wp_ofExcept.1 hend).2.2
  · rintro _ a b ⟨hI, hQ⟩ hr
    obtain ⟨hI', hr', _⟩ := hr hI
    exact ⟨hI', hr'.symm ▸ hQ⟩

/-- The rollback runs between the check that the backup exists and the deletion of its files. -/
theorem race_serial_rollback_inside :
    let mark := guardedStep (observeStep Sys.run (markPhase deviceConfig 5)) (markOk deviceConfig 5)
    let rollback := guardedStep (observeStep Sys.run (rollbackPhase deviceConfig 5)) (rollbackOk 5)
    let x₁ := runN mark 2 (markStagedSessionSuccessful deviceConfig 5)
      (activatedWorld, ⟨.unread, .unread⟩)
    let x₂ := runN rollback 20 (rollbackActiveSession deviceConfig) x₁.2
    let x₃ := runN mark 20 x₁.1 x₂.2
    x₃.2.1.raceOutcome deviceConfig 5 =
        (some .SUCCESS, some [("a@2.apex", .file ⟨2, .bytes [2]⟩)], some []) ∨
      x₃.2.1.raceOutcome deviceConfig 5 =
        (some .ROLLED_BACK, some [("a@1.apex", .file ⟨3, .bytes [1]⟩)], none) := by
  intro mark rollback x₁ x₂ x₃
  have h₁ : Reaches _ _ _ x₁.1 x₁.2 :=
    runN_reaches (guardedStep_sem (observeStep_sem (Sys.run_sem (V := .off) (F := Sys.NoFault)))) 2
      _ _
  have h₂ : Reaches _ _ _ x₂.1 x₂.2 :=
    runN_reaches (guardedStep_sem (observeStep_sem (Sys.run_sem (V := .off) (F := Sys.NoFault)))) 20
      _ _
  have h₃ : Reaches _ _ _ x₃.1 x₃.2 :=
    runN_reaches (guardedStep_sem (observeStep_sem (Sys.run_sem (V := .off) (F := Sys.NoFault)))) 20
      _ _
  have hx : x₃.1.result?.isSome := by decide
  have hy : x₂.1.result?.isSome := by decide
  obtain ⟨x, hx⟩ := Option.isSome_iff_exists.1 hx
  obtain ⟨y, hy⟩ := Option.isSome_iff_exists.1 hy
  refine (race_serial activatedStart).2.2 x y x₃.2 ?_
  rw [← result?_eq_some.1 hx, ← result?_eq_some.1 hy]
  exact (Par.of_left h₁ _).trans ((Par.of_right _ h₂).trans (Par.of_left h₃ _))

/-- When the rollback runs between the deletion of the backup and the commit, neither the new nor
the backed-up packages are left. -/
theorem race_loses_packages :
    ∃ x y w', Par raceKernel raceKernel (markStagedSessionSuccessful deviceConfig 5)
        (rollbackActiveSession deviceConfig) activatedWorld (ofExcept x) (ofExcept y) w' ∧
      w'.raceOutcome deviceConfig 5 = (some .SUCCESS, some [], none) ∧
      (∀ x₁ w₁ x₂ w₂, Ends raceKernel (markStagedSessionSuccessful deviceConfig 5)
        activatedWorld x₁ w₁ → Ends raceKernel (rollbackActiveSession deviceConfig) w₁ x₂ w₂ →
        w'.raceOutcome deviceConfig 5 ≠ w₂.raceOutcome deviceConfig 5) ∧
      ∀ x₁ w₁ x₂ w₂, Ends raceKernel (rollbackActiveSession deviceConfig) activatedWorld x₁ w₁ →
        Ends raceKernel (markStagedSessionSuccessful deviceConfig 5) w₁ x₂ w₂ →
        w'.raceOutcome deviceConfig 5 ≠ w₂.raceOutcome deviceConfig 5 := by
  let x₁ := runN Sys.run 4 (markStagedSessionSuccessful deviceConfig 5) activatedWorld
  let x₂ := runN Sys.run 20 (rollbackActiveSession deviceConfig) x₁.2
  let x₃ := runN Sys.run 20 x₁.1 x₂.2
  have ho : x₃.2.raceOutcome deviceConfig 5 = (some .SUCCESS, some [], none) := by
    decide
  have hx : x₃.1.result?.isSome := by decide
  have hy : x₂.1.result?.isSome := by decide
  obtain ⟨x, hx⟩ := Option.isSome_iff_exists.1 hx
  obtain ⟨y, hy⟩ := Option.isSome_iff_exists.1 hy
  refine ⟨x, y, x₃.2, ?_, ho, ?_, ?_⟩
  · rw [← result?_eq_some.1 hx, ← result?_eq_some.1 hy]
    exact (Par.of_left (runN_reaches Sys.run_sem _ _ _) _).trans
      ((Par.of_right _ (runN_reaches Sys.run_sem _ _ _)).trans
        (Par.of_left (runN_reaches Sys.run_sem _ _ _) _))
  · intro _ _ _ _ h₁ h₂ he
    have hs := serial_mark_rollback activatedStart h₁ h₂
    rw [show activatedSession.id = 5 from rfl, ← he, ho] at hs
    simp at hs
  · intro _ _ _ _ h₁ h₂ he
    have hs := serial_rollback_mark activatedStart h₁ h₂
    rw [show activatedSession.id = 5 from rfl, ← he, ho] at hs
    simp at hs

end Apexd
