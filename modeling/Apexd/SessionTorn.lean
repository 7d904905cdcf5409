import Apexd.Lib.Service
import Apexd.Session
import Apexd.SessionWire

/-!
# Interrupted commits of session records

A commit rewrites the state file in place, so a death or a failed write leaves a prefix of it.

* `SessionOp` — the operations on sessions; `sessionService` serves them one at a time, may die at
  any point and remembers, for every directory, the record before the last commit and the one
  being committed.
* `CleanCut` — a cut after which the record is unreadable or one of these two.
* `session_records_survive` — with clean cuts only, no third record is ever read and `ClearSessions`
  leaves none.
-/

set_option autoImplicit false

namespace Apexd

open Text Prog

/-! ## Cuts -/

/-- A prefix of a list of blocks ends between two blocks or inside one. -/
theorem take_flatMap {ι β : Type} (f : ι → List β) (l : List ι) (k : Nat) :
    (∃ n ≤ l.length, (l.flatMap f).take k = (l.take n).flatMap f) ∨
      ∃ n, ∃ h : n < l.length, ∃ j, 0 < j ∧ j < (f l[n]).length ∧
        (l.flatMap f).take k = (l.take n).flatMap f ++ (f l[n]).take j := by
  induction l generalizing k with
  | nil => exact Or.inl ⟨0, Nat.le_refl 0, by simp⟩
  | cons x l ih =>
    rw [List.flatMap_cons]
    rcases Nat.lt_or_ge k (f x).length with hk | hk
    · rw [List.take_append_of_le_length (Nat.le_of_lt hk)]
      rcases Nat.eq_zero_or_pos k with rfl | h0
      · exact Or.inl ⟨0, Nat.zero_le _, by simp⟩
      · exact Or.inr ⟨0, Nat.zero_lt_succ _, k, h0, hk, by simp⟩
    · rw [List.take_append, List.take_of_length_le hk]
      rcases ih (k - (f x).length) with ⟨n, hn, he⟩ | ⟨n, hn, j, h0, hj, he⟩
      · exact Or.inl ⟨n + 1, Nat.succ_le_succ hn, by rw [he, List.take_succ_cons,
          List.flatMap_cons]⟩
      · refine Or.inr ⟨n + 1, Nat.succ_lt_succ hn, j, h0, hj, ?_⟩
        rw [he, List.take_succ_cons, List.flatMap_cons, List.append_assoc]
        rfl

/-- The bytes of the first `n` fields. -/
def SessionProto.fields (P : SessionProto) (r : SessionState) (n : Nat) : List UInt8 :=
  ((List.finRange 3).take n).flatMap (P.field r)

/-- A cut commit parses only at a field boundary. -/
theorem SessionProto.parse_take (P : SessionProto) (r : SessionState) (k : Nat) :
    P.parse ((P.serialize r).take k) = none ∨
      ∃ n ≤ 3, (P.serialize r).take k = P.fields r n ∧
        P.parse ((P.serialize r).take k) = some (r.firstFields n) := by
  unfold SessionProto.serialize
  rcases take_flatMap (P.field r) (List.finRange 3) k with ⟨n, hn, he⟩ | ⟨n, hn, j, h0, hj, he⟩
  · rw [List.length_finRange] at hn
    exact Or.inr ⟨n, hn, he, by rw [he, P.parse_fields r n hn]⟩
  · left
    rw [he]
    have hn' : n < 3 := by rwa [List.length_finRange] at hn
    simp only [List.getElem_finRange] at hj ⊢
    exact P.parse_torn r ⟨n, hn'⟩ j h0 hj

/-- A cut that is not at a field boundary, or where the fields so far make the whole record or the
one that was stored before. -/
def CleanCut (cfg : Config) (old : Option SessionState) (r : SessionState) (k : Nat) : Prop :=
  ∀ n ≤ 3, (cfg.proto.serialize r).take k = cfg.proto.fields r n →
    r.firstFields n = r ∨ some (r.firstFields n) = old

variable {cfg : Config}

theorem CleanCut.parse {old : Option SessionState} {r t : SessionState} {k : Nat}
    (h : CleanCut cfg old r k) (ht : cfg.proto.parse ((cfg.proto.serialize r).take k) = some t) :
    t = r ∨ some t = old := by
  rcases cfg.proto.parse_take r k with hn | ⟨n, hn, he, hp⟩
  · rw [hn] at ht
    cases ht
  · rw [hp] at ht
    cases ht
    exact h n hn he

/-! ## Operations on sessions -/

inductive SessionOp where
  | create (id : Int32) (childSessionIds : List Int32) (state : State)
  | update (id : Int32) (state : State)
  | delete (id : Int32)
  | clear
  | list

/-- The calls into `apexd_session.cpp` that an operation is made of. -/
def SessionOp.prog (cfg : Config) : SessionOp → ApexM Unit
  | .create id childSessionIds state => do
    let session ← createSession id
    updateStateAndCommit cfg { session with childSessionIds := childSessionIds } state
  | .update id state => do
    let session ← getSession cfg id
    updateStateAndCommit cfg session state
  | .delete id => do
    let session ← getSession cfg id
    deleteSession session
  | .clear => clearSessions cfg
  | .list => do
    let _ ← getSessions cfg
    ret ()

/-- The records that may be read from each directory: the one stored before the last commit and the
one committed. -/
def committedRecords (cfg : Config) : (c : Sys) → World → c.Res → World →
    (String → List SessionState) → String → List SessionState
  | .writeFile p b, w, _, _, g => fun n =>
    if p = join (join kApexSessionsDir n) kStateFileName then
      (w.record? cfg n).toList ++ (cfg.proto.parse b).toList
    else g n
  | _, _, _, _, g => g

/-- Removals may be cut short anywhere, commits only cleanly. -/
def Sys.CleanTorn (cfg : Config) : Faults
  | .writeFile p b, w, r, w' => (r = true → (w.writeFile p b).1 = true) ∧ ∃ s k,
    b = cfg.proto.serialize s ∧ CleanCut cfg ((w.readFile p).bind cfg.proto.parse) s k ∧
      w' = (w.writeFile p (b.take k)).2
  | c, w, r, w' => Sys.Torn c w r w'

theorem Sys.CleanTorn.commits : Faults.Commits (Sys.CleanTorn cfg) := by
  intro c w r w' h
  cases c with
  | writeFile p b =>
    obtain ⟨hr, s, k, rfl, _, hw⟩ := h
    exact ⟨hr, k, hw⟩
  | _ => exact h

/-- Operations are served one at a time; the process may die inside each of them. -/
def sessionService (cfg : Config) (F : Faults) :
    Service Sys Sys.Res String Unit (World × (String → List SessionState)) SessionOp where
  kernel := (kernel .off F).observe (committedRecords cfg)
  restart s s' := s.1.Restart s'.1 ∧ s'.2 = s.2
  boot := ret ()
  request := SessionOp.prog cfg

/-! ## No third record -/

/-- The commands of the operations. -/
def SessionCmd (cfg : Config) : Sys → Prop
  | .stat _ => True
  | .readDir _ => True
  | .mkdir _ _ => True
  | .chmod _ _ => True
  | .removeAll _ => True
  | .readFile _ => True
  | .writeFile p b => ∃ s, p = getSessionStateFilePath s.id ∧ b = cfg.proto.serialize s
  | _ => False

theorem SessionOp.uses (op : SessionOp) : (op.prog cfg).Uses (SessionCmd cfg) := by
  have hget : ∀ id, (getSession cfg id).Uses (SessionCmd cfg) := fun id =>
    uses_getSessionFromFile trivial
  cases op with
  | create id childSessionIds state =>
    refine uses_bind (uses_createSession (fun _ => trivial) (fun _ _ => trivial) fun _ _ => trivial)
      fun s => ?_
    exact uses_updateStateAndCommit ⟨⟨s.id, state, childSessionIds⟩, rfl, rfl⟩
  | update id state =>
    exact uses_bind (hget id) fun s =>
      uses_updateStateAndCommit ⟨{ s with state := state }, rfl, rfl⟩
  | delete id => exact uses_bind (hget id) fun s => uses_deleteSession trivial
  | clear => exact uses_clearSessions trivial (fun _ => trivial) fun _ => trivial
  | list => exact uses_bind (uses_getSessions trivial fun _ => trivial) fun _ => trivial

/-- Every record is stored under its own id and is one of those that may be read. -/
structure RecordsInv (cfg : Config) (s : World × (String → List SessionState)) : Prop where
  unmounted : s.1.DataUnmounted
  known : ∀ n t, s.1.record? cfg n = some t → toString t.id = n ∧ t ∈ s.2 n

/-- What any command but a commit does to the records. -/
theorem RecordsInv.shrink {w w' : World} {g : String → List SessionState}
    (h : RecordsInv cfg (w, g))
    (hd : w.OnlyDirs w') (hs : w.FilesShrink w') : RecordsInv cfg (w', g) := by
  refine ⟨h.unmounted.onlyDirs hd, fun n t ht => h.known n t ?_⟩
  obtain ⟨b, hb, hp⟩ := Option.bind_eq_some_iff.1 ht
  exact Option.bind_eq_some_iff.2 ⟨b, hs.readFile hb, hp⟩

/-- A commit, whole or cut. -/
theorem RecordsInv.write {w w' : World} {g g' : String → List SessionState} {s : SessionState}
    {b : List UInt8} {r : Bool} (h : RecordsInv cfg (w, g))
    (hw : (r, w') = w.writeFile (getSessionStateFilePath s.id) b)
    (hb : ∀ t, cfg.proto.parse b = some t → t = s ∨ some t = w.record? cfg (toString s.id))
    (hg : ∀ n, g' n = if n = toString s.id then (w.record? cfg n).toList ++ [s] else g n) :
    RecordsInv cfg (w', g') := by
  refine ⟨h.unmounted.onlyDirs (World.writeFile_onlyDirs hw), fun n t ht => ?_⟩
  change toString t.id = n ∧ t ∈ g' n
  rw [hg n]
  have hdir : dirName (getSessionStateFilePath s.id) = getSessionDir s.id := dirName_stateFilePath _
  rcases w.writeFile_cases (getSessionStateFilePath s.id) b with ⟨he, hn⟩ | ⟨d, d', hd, he, hr⟩
  · -- nothing was written
    rw [he] at hw
    cases hw
    by_cases hid : n = toString s.id
    · subst hid
      obtain ⟨_, hb', _⟩ := Option.bind_eq_some_iff.1 ht
      rw [show join (join kApexSessionsDir (toString s.id)) kStateFileName =
        getSessionStateFilePath s.id from rfl, hn] at hb'
      cases hb'
    · rw [if_neg hid]
      exact h.known n t ht
  · rw [he] at hw
    cases hw
    rw [hdir] at hd hr ht
    have hrec : w.Recorded s.id b (w.setDir (getSessionDir s.id) (some d')) :=
      ⟨⟨d, d', hd, rfl⟩, hr⟩
    by_cases hid : n = toString s.id
    · subst hid
      rw [hrec.record?] at ht
      rw [if_pos rfl]
      rcases hb t ht with rfl | hold
      · exact ⟨rfl, List.mem_append_right _ (List.mem_singleton_self _)⟩
      · exact ⟨(h.known _ _ hold.symm).1, List.mem_append_left _ (Option.mem_toList.2 hold.symm)⟩
    · rw [hrec.record?_other hid] at ht
      rw [if_neg hid]
      exact h.known n t ht

/-- One command. -/
theorem RecordsInv.step {c : Sys} {s s' : World × (String → List SessionState)} {r : c.Res}
    (hc : SessionCmd cfg c) (h : RecordsInv cfg s)
    (hs : ((kernel .off (Sys.CleanTorn cfg)).observe (committedRecords cfg)).sem c s r s') :
    RecordsInv cfg s' := by
  obtain ⟨w, g⟩ := s
  obtain ⟨w', g'⟩ := s'
  obtain ⟨hs, hg⟩ := hs
  cases c with
  | stat p =>
    obtain rfl : g' = g := hg
    obtain ⟨_, rfl⟩ | hf := hs <;> [exact h; exact hf.elim]
  | readDir p =>
    obtain rfl : g' = g := hg
    obtain ⟨_, rfl⟩ | hf := hs <;> [exact h; exact hf.elim]
  | readFile p =>
    obtain rfl : g' = g := hg
    obtain ⟨_, rfl⟩ | hf := hs <;> [exact h; exact hf.elim]
  | mkdir p mode =>
    obtain rfl : g' = g := hg
    rcases hs with hn | hf
    · exact h.shrink (World.mkdir_onlyDirs hn) (World.filesShrink_mkdir hn)
    · exact hf.elim
  | chmod p mode =>
    obtain rfl : g' = g := hg
    rcases hs with hn | hf
    · exact h.shrink (World.chmod_onlyDirs hn) (World.filesShrink_chmod hn)
    · exact hf.elim
  | removeAll p =>
    obtain rfl : g' = g := hg
    rcases hs with ⟨_, hw⟩ | ⟨_, d, d', hd, hsub, hw⟩
    · obtain rfl : w' = w.removeAll p := hw
      exact h.shrink (w.removeAll_onlyDirs p) (w.filesShrink_removeAll p)
    · obtain rfl : w' = w.setDir p (some d') := hw
      exact h.shrink (w.setDir_onlyDirs p _) (World.filesShrink_sublist hd hsub)
  | writeFile p b =>
    obtain ⟨t, rfl, rfl⟩ := hc
    have hg' : ∀ n, g' n = if n = toString t.id then (w.record? cfg n).toList ++ [t] else g n := by
      intro n
      have hn : g' n = if getSessionStateFilePath t.id = join (join kApexSessionsDir n)
        kStateFileName
          then (w.record? cfg n).toList ++
              (cfg.proto.parse (cfg.proto.serialize t)).toList else g n :=
        congrFun hg n
      rw [SessionProto.parse_serialize] at hn
      simp only [@eq_comm _ (getSessionStateFilePath t.id), stateFilePath_inj] at hn
      exact hn
    rcases hs with hn | ⟨_, t', k, hser, hcut, hw⟩
    · refine h.write hn (fun t' ht => ?_) hg'
      rw [SessionProto.parse_serialize] at ht
      exact Or.inl (Option.some.inj ht).symm
    · obtain rfl : t = t' := by
        have hp := congrArg cfg.proto.parse hser
        rw [SessionProto.parse_serialize, SessionProto.parse_serialize] at hp
        exact Option.some.inj hp
      exact h.write (r := (w.writeFile (getSessionStateFilePath t.id) _).1) (Prod.ext rfl hw)
        (fun _ ht => hcut.parse ht) hg'
  | _ => exact hc.elim

/-- **The records over a whole run.** -/
theorem sessionService_inv {s₀ : World × (String → List SessionState)} (h0 : RecordsInv cfg s₀)
    {up : Bool} {s : World × (String → List SessionState)}
    (h : (sessionService cfg (Sys.CleanTorn cfg)).Runs (fun _ => True) s₀ up s) :
    RecordsInv cfg s := by
  have hinv := h.inv_of_wp (I := RecordsInv cfg) (J := RecordsInv cfg) h0 (fun _ h => h) ?_ ?_
  · cases up <;> exact hinv
  · rintro ⟨w, g⟩ ⟨_, g'⟩ hI ⟨⟨b, m, rfl⟩, hg⟩
    obtain rfl : g' = g := hg
    exact ⟨⟨hI.unmounted, hI.known⟩, hI.unmounted, hI.known⟩
  · intro op s hI
    exact (op.uses).wp (fun c w hc _ => by cases c <;> trivial)
      (fun c w r w' hc hI hs => hI.step hc hs) hI

/-! ## `ClearSessions` -/

theorem World.FilesShrink.record? {w w' : World} (h : w.FilesShrink w') {n : String}
    {t : SessionState} (ht : w'.record? cfg n = some t) : w.record? cfg n = some t := by
  obtain ⟨b, hb, hp⟩ := Option.bind_eq_some_iff.1 ht
  exact Option.bind_eq_some_iff.2 ⟨b, h.readFile hb, hp⟩

/-- Deleting a session takes its record and adds no directory. -/
theorem World.removeAll_session (cfg : Config) (w : World) (id : Int32) :
    (w.removeAll (getSessionDir id)).record? cfg (toString id) = none ∧
      (w.removeAll (getSessionDir id)).sessionNames ⊆ w.sessionNames := by
  have hnone : ∀ w' : World, w'.dirs (getSessionDir id) = none →
      w'.record? cfg (toString id) = none := by
    intro w' hd
    unfold World.record? World.readFile World.file? World.node?
    rw [dirName_stateFilePath, show join kApexSessionsDir (toString id) = getSessionDir id from rfl,
      hd]
    rfl
  unfold World.removeAll
  split
  · rename_i hd
    exact ⟨hnone w hd, fun _ h => h⟩
  · refine ⟨hnone _ (World.dropDir_self _ _), ?_⟩
    unfold World.dropDir
    rw [dirName_getSessionDir]
    split
    · rw [World.sessionNames_setDir_other _ _ (sessions_ne_sessionDir id)]
      exact fun _ h => h
    · rename_i parent hp
      rw [World.sessionNames_setDir_other _ _ (sessions_ne_sessionDir id)]
      unfold World.sessionNames
      rw [World.setDir_self, hp]
      exact ((List.filter_sublist.filter _).map _).subset

section Clear

variable {V : Watch} {F : Faults} {w : World}

/-- After a successful `ClearSessions` no directory holds a record. -/
theorem wp_clearSessions (hF : F.Commits) (hm : w.DataUnmounted)
    (hid : ∀ n t, w.record? cfg n = some t → toString t.id = n) :
    wp (kernel V F) (fun _ => True) (clearSessions cfg)
      (fun x w' => x = .ok () → w'.DataUnmounted ∧ ∀ n ∈ w'.sessionNames, w'.record? cfg n = none)
      w := by
  unfold clearSessions
  rw [bind_eq]
  refine wp_bind.2 (wp_getSessions hF.reads (hm.mounted sessions_notApex) trivial
    fun names hnames => ?_)
  refine wp_forM (fun rest w' => w'.DataUnmounted ∧ w.FilesShrink w' ∧
    ∀ n t, n ∈ w'.sessionNames → w'.record? cfg n = some t → t ∈ rest) _ ?_ ?_ ?_
  · rintro s rest w' - ⟨hm', hshrink, hrest⟩
    unfold deleteSession deleteSessionDir
    simp only [bind_eq, exec_bind]
    refine ⟨trivial, trivial, ?_⟩
    rintro r w'' (⟨rfl, rfl⟩ | hf)
    · obtain ⟨hnone, hsub⟩ := World.removeAll_session cfg w' s.id
      have hsh := w'.filesShrink_removeAll (getSessionDir s.id)
      refine ⟨trivial, hm'.onlyDirs (w'.removeAll_onlyDirs _),
        fun p f h => hshrink p f (hsh p f h), ?_⟩
      intro n t hn ht
      rcases List.mem_cons.1 (hrest n t (hsub hn) (hsh.record? ht)) with rfl | h
      · rw [← hid n t (hshrink.record? (hsh.record? ht)), hnone] at ht
        cases ht
      · exact h
    · obtain ⟨⟨e, _, rfl⟩, _⟩ := hF _ _ _ _ hf
      exact ⟨trivial, fun h => by cases h⟩
  · rintro w' ⟨hm', _, hrest⟩
    refine ⟨trivial, fun _ => ⟨hm', fun n hn => Option.eq_none_iff_forall_not_mem.2 fun t ht => ?_⟩⟩
    cases hrest n t hn ht
  · refine ⟨hm, .refl w, fun n t hn ht => ?_⟩
    exact List.mem_filterMap.2 ⟨n, hnames.mem_iff.2 hn, ht⟩

/-- A new directory holds no record. -/
theorem World.record?_newDir (w : World) (id : Int32) (mode : Nat) :
    (w.setDir (getSessionDir id) (some (Dir.empty mode))).record? cfg (toString id) = none := by
  unfold World.record? World.readFile World.file? World.node?
  rw [dirName_stateFilePath, show join kApexSessionsDir (toString id) = getSessionDir id from rfl,
    World.setDir_self]
  rfl

/-- No directory of a session holds a record. -/
structure NoRecord (cfg : Config) (w : World) : Prop where
  unmounted : w.DataUnmounted
  none : ∀ n ∈ w.sessionNames, w.record? cfg n = none

/-- The directories of a session are made empty. -/
theorem NoRecord.mkdir {id : Int32} {p : String} {mode : Nat} {w' : World} {r : Except Errno Unit}
    (h : NoRecord cfg w) (hp : p = kApexSessionsDir ∨ p = getSessionDir id)
    (hw : (r, w') = w.mkdir p mode) : NoRecord cfg w' := by
  refine ⟨h.unmounted.onlyDirs (World.mkdir_onlyDirs hw), fun n hn => ?_⟩
  have hsh := World.filesShrink_mkdir hw
  suffices hmem : n ∈ w.sessionNames ∨ w'.record? cfg n = Option.none by
    rcases hmem with hmem | hnone
    · refine Option.eq_none_iff_forall_not_mem.2 fun t ht => ?_
      cases (hsh.record? ht).symm.trans (h.none n hmem)
    · exact hnone
  rcases w.mkdir_cases p mode with ⟨e, he⟩ | ⟨parent, hnone, hd, _, he⟩
  · rw [he] at hw
    cases hw
    exact Or.inl hn
  · rw [he] at hw
    cases hw
    rcases hp with rfl | rfl
    · -- a new directory of sessions is empty
      unfold World.sessionNames at hn
      rw [World.setDir_self] at hn
      cases hn
    · rw [World.sessionNames_setDir_other _ _ (sessions_ne_sessionDir id)] at hn
      rw [dirName_getSessionDir] at hd
      unfold World.sessionNames at hn ⊢
      rw [dirName_getSessionDir, World.setDir_self] at hn
      rw [hd]
      obtain ⟨e, he, rfl⟩ := List.mem_map.1 hn
      obtain ⟨he, hf⟩ := List.mem_filter.1 he
      rcases Dir.mem_insert.1 he with heq | ⟨he, _⟩
      · -- and so is a new directory of the session
        have hname : e.1 = toString id := (congrArg Prod.fst heq).trans (baseName_getSessionDir id)
        rw [hname]
        exact Or.inr (World.record?_newDir _ _ _)
      · exact Or.inl (List.mem_map.2 ⟨e, List.mem_filter.2 ⟨he, hf⟩, rfl⟩)

theorem NoRecord.chmod {p : String} {mode : Nat} {w' : World} {r : Except Errno Unit}
    (h : NoRecord cfg w) (hw : (r, w') = w.chmod p mode) : NoRecord cfg w' := by
  refine ⟨h.unmounted.onlyDirs (World.chmod_onlyDirs hw), fun n hn => ?_⟩
  have hnames : w'.sessionNames = w.sessionNames := by
    rcases w.chmod_cases p mode with ⟨e, he⟩ | ⟨d, hd, he⟩
    · rw [he] at hw; cases hw; rfl
    · rw [he] at hw; cases hw
      by_cases hp : p = kApexSessionsDir
      · subst hp
        unfold World.sessionNames
        rw [World.setDir_self, hd]
        rfl
      · exact World.sessionNames_setDir_other _ _ (Ne.symm hp)
  refine Option.eq_none_iff_forall_not_mem.2 fun t ht => ?_
  cases ((World.filesShrink_chmod hw).record? ht).symm.trans (h.none n (hnames ▸ hn))

/-- The calls that make the directory of a session. -/
def SessionDirCall (id : Int32) : Sys → Prop
  | .stat _ => True
  | .mkdir p _ => p = kApexSessionsDir ∨ p = getSessionDir id
  | .chmod _ _ => True
  | _ => False

/-- The only record in the directories of sessions, if there is one, is `r`. -/
structure OnlyRecord (cfg : Config) (r : SessionState) (w : World) : Prop where
  unmounted : w.DataUnmounted
  only : ∀ n ∈ w.sessionNames, ∀ t, w.record? cfg n = some t → n = toString r.id ∧ t = r

/-- What `GetSessions` makes of it. -/
theorem OnlyRecord.listed {r : SessionState} {names : List String} (h : OnlyRecord cfg r w)
    (hnames : names.Perm w.sessionNames) :
    names.filterMap (w.record? cfg) = [] ∨ names.filterMap (w.record? cfg) = [r] := by
  by_cases hnone : ∀ n ∈ names, w.record? cfg n = none
  · exact Or.inl (List.filterMap_eq_nil_iff.2 hnone)
  · push Not at hnone
    obtain ⟨n, hn, hne⟩ := hnone
    obtain ⟨t, ht⟩ := Option.ne_none_iff_exists'.1 hne
    obtain ⟨rfl, rfl⟩ := h.only n (hnames.mem_iff.1 hn) t ht
    refine Or.inr (filterMap_eq_singleton (hnames.nodup_iff.2 w.sessionNames_nodup) hn ht ?_)
    intro m hm hmne
    obtain ⟨u, hu⟩ := Option.ne_none_iff_exists'.1 hmne
    exact (h.only m (hnames.mem_iff.1 hm) u hu).1

/-- The commit of the first record, whole or cut. -/
theorem NoRecord.commit {r : SessionState} {b : List UInt8} {w' : World} (h : NoRecord cfg w)
    (hr : w.Recorded r.id b w')
    (hb : ∀ t, cfg.proto.parse b = some t → t = r ∨ some t = w.record? cfg (toString r.id)) :
    OnlyRecord cfg r w' := by
  constructor
  · obtain ⟨d, d', _, rfl⟩ := hr.eq
    exact h.unmounted
  intro n hn t ht
  rw [hr.sessionNames] at hn
  by_cases hne : n = toString r.id
  · subst hne
    rw [hr.record?] at ht
    rcases hb t ht with rfl | hold
    · exact ⟨rfl, rfl⟩
    · rw [h.none _ hn] at hold
      cases hold
  · rw [hr.record?_other hne, h.none n hn] at ht
    cases ht

/-- A session created when no directory holds a record is the only one. -/
theorem wp_create {id : Int32} {childSessionIds : List Int32} {state : State} (h : NoRecord cfg w) :
    wp (kernel .off (Sys.CleanTorn cfg)) (fun _ => True)
      ((SessionOp.create id childSessionIds state).prog cfg)
      (fun x w' => x = .ok () → OnlyRecord cfg ⟨id, state, childSessionIds⟩ w') w := by
  have hF : Faults.Commits (Sys.CleanTorn cfg) := Sys.CleanTorn.commits
  have hdirs : (createSessionDirIfNeeded id).Uses (SessionDirCall id) :=
    uses_createSessionDirIfNeeded (fun _ => trivial) (fun _ hp => hp) fun _ _ => trivial
  unfold SessionOp.prog createSession
  simp only [bind_eq, Prog.bind_assoc, ret_bind]
  refine wp_bind.2 ((hdirs.wp (K := kernel .off (Sys.CleanTorn cfg))
    (I := NoRecord cfg) ?_ ?_ h).mono (fun _ _ => trivial) ?_)
  · intro c w hc _
    cases c <;> trivial
  · rintro c w r w' hc hI (hn | hf)
    · cases c with
      | stat p => obtain ⟨_, rfl⟩ := hn; exact hI
      | mkdir p mode => exact hI.mkdir hc hn
      | chmod p mode => exact hI.chmod hn
      | _ => exact hc.elim
    · have ht := hF _ _ _ _ hf
      cases c <;> first | exact ht.elim | exact hc.elim
  · rintro (e | dir) w' hI _
    · intro he; cases he
    · dsimp only [Then]
      refine wp_updateStateAndCommit hF trivial ?_ ?_ ?_
      · exact fun _ _ => nofun
      · intro w'' hr
        refine ⟨trivial, fun _ => hI.commit hr fun t ht => Or.inl ?_⟩
        rw [SessionProto.parse_serialize] at ht
        exact (Option.some.inj ht).symm
      · rintro r w'' ⟨_, t, k, hser, hcut, rfl⟩ hrec
        obtain rfl : ⟨id, state, childSessionIds⟩ = t := by
          have hp := congrArg cfg.proto.parse hser
          rw [SessionProto.parse_serialize, SessionProto.parse_serialize] at hp
          exact Option.some.inj hp
        exact ⟨trivial, fun _ _ => hI.commit (hrec _) fun _ ht => hcut.parse ht⟩

end Clear

/-- **Session records survive interrupted commits**: in every run whose interrupted commits are cut
cleanly, also those reported as made, a record that can be read is the one before the last commit in
its directory or the one committed; and when `ClearSessions` succeeds no record is left, so that a
session created next is the only one there can be. -/
theorem session_records_survive {w₀ : World} (hm : w₀.DataUnmounted)
    (hid : ∀ n t, w₀.record? cfg n = some t → toString t.id = n) {up : Bool}
    {s : World × (String → List SessionState)}
    (h : (sessionService cfg (Sys.CleanTorn cfg)).Runs (fun _ => True)
      (w₀, fun n => (w₀.record? cfg n).toList) up s) :
    (∀ n t w', Ends (kernel .off (Sys.CleanTorn cfg))
        (getSessionFromFile cfg (join (join kApexSessionsDir n) kStateFileName)) s.1 (.ok t) w' →
      t ∈ s.2 n) ∧
    ∀ w₁, Ends (kernel .off (Sys.CleanTorn cfg)) (clearSessions cfg) s.1 (.ok ()) w₁ →
      (∀ x w₂, Ends (kernel .off (Sys.CleanTorn cfg)) (getSessions cfg) w₁ x w₂ → x = .ok []) ∧
      ∀ id childSessionIds state w₂, Ends (kernel .off (Sys.CleanTorn cfg))
          ((SessionOp.create id childSessionIds state).prog cfg) w₁ (.ok ()) w₂ →
        ∀ x w₃, Ends (kernel .off (Sys.CleanTorn cfg)) (getSessions cfg) w₂ x w₃ →
          x = .ok [] ∨ x = .ok [⟨id, state, childSessionIds⟩] := by
  have hF : Faults.Commits (Sys.CleanTorn cfg) := Sys.CleanTorn.commits
  have hinv : RecordsInv cfg s := sessionService_inv
    ⟨hm, fun n t ht => ⟨hid n t ht, Option.mem_toList.2 ht⟩⟩ h
  refine ⟨fun n t w' he => ?_, fun w₁ he => ?_⟩
  · have hread : wp (kernel .off (Sys.CleanTorn cfg)) (fun _ => True)
        (getSessionFromFile cfg (join (join kApexSessionsDir n) kStateFileName))
        (fun x _ => ∀ t, x = .ok t → t ∈ s.2 n) s.1 :=
      wp_getSessionFromFile hF.reads trivial fun x hx t ht => (hinv.known n t ((hx t).1 ht)).2
    exact hread.ends he t rfl
  · obtain ⟨hm₁, hnone⟩ := (wp_clearSessions hF hinv.unmounted
      fun n t ht => (hinv.known n t ht).1).ends he rfl
    refine ⟨fun x w₂ hx => ?_, fun id childSessionIds state w₂ hc x w₃ hx => ?_⟩
    · have hget : wp (kernel .off (Sys.CleanTorn cfg)) (fun _ => True) (getSessions cfg)
          (fun x _ => x = .ok []) w₁ :=
        wp_getSessions hF.reads (hm₁.mounted sessions_notApex) trivial fun names hnames => by
          rw [List.filterMap_eq_nil_iff.2 fun n hn => hnone n (hnames.mem_iff.1 hn)]
      exact hget.ends hx
    · have honly := (wp_create ⟨hm₁, hnone⟩).ends hc rfl
      have hget : wp (kernel .off (Sys.CleanTorn cfg)) (fun _ => True) (getSessions cfg)
          (fun x _ => x = .ok [] ∨ x = .ok [⟨id, state, childSessionIds⟩]) w₂ :=
        wp_getSessions hF.reads (honly.unmounted.mounted sessions_notApex) trivial
            fun names hnames => by
          rcases honly.listed hnames with hl | hl
          · exact Or.inl (by rw [hl])
          · exact Or.inr (by rw [hl])
      exact hget.ends hx

/-! ## Two runs -/

instance (old : Option SessionState) (r : SessionState) (k : Nat) :
    Decidable (CleanCut cfg old r k) :=
  inferInstanceAs (Decidable (∀ n ≤ 3, _ → _ ∨ _))

/-- A handler that cuts every commit after `k` bytes and reports it as made. -/
def Sys.runCut (k : Nat) : (c : Sys) → World → Option (c.Res × World)
  | .writeFile p b, w => some ((w.writeFile p b).1, (w.writeFile p (b.take k)).2)
  | c, w => c.run w

theorem Sys.runCut_sem {V : Watch} {k : Nat} (c : Sys) (w : World) (r : c.Res) (w' : World)
    (h : c.runCut k w = some (r, w')) : (kernel V Sys.Torn).sem c w r w' := by
  cases c with
  | writeFile p b => cases h; exact Or.inr ⟨id, k, rfl⟩
  | _ => exact Sys.run_sem _ _ _ _ h

/-- The same for the commits that this cuts cleanly. -/
def Sys.runCleanCut (cfg : Config) (k : Nat) : (c : Sys) → World → Option (c.Res × World)
  | .writeFile p b, w => (cfg.proto.parse b).bind fun s =>
    if b = cfg.proto.serialize s ∧ CleanCut cfg ((w.readFile p).bind cfg.proto.parse) s k then
      some ((w.writeFile p b).1, (w.writeFile p (b.take k)).2)
    else none
  | c, w => c.run w

theorem Sys.runCleanCut_sem {V : Watch} {k : Nat} (c : Sys) (w : World) (r : c.Res) (w' : World)
    (h : c.runCleanCut cfg k w = some (r, w')) : (kernel V (Sys.CleanTorn cfg)).sem c w r w' := by
  cases c with
  | writeFile p b =>
    obtain ⟨s, _, hs⟩ := Option.bind_eq_some_iff.1 h
    split at hs
    · rename_i hc
      cases hs
      exact Or.inr ⟨id, s, k, hc.1, hc.2, rfl⟩
    · cases hs
  | _ => exact Sys.run_sem _ _ _ _ h

def tornConfig : Config := ⟨true, false, false, sessionWire⟩

/-- A device without sessions. -/
def noSessions : World := .ofDirs [(kApexDataDir, Dir.empty 0o771)]

theorem noSessions_record? (n : String) : noSessions.record? tornConfig n = none := by
  have hd : noSessions.dirs (join kApexSessionsDir n) = none := by
    have hne : join kApexSessionsDir n ≠ kApexDataDir := join_ne (by decide)
    simp only [noSessions, World.ofDirs, List.lookup_cons, beq_eq_false_iff_ne.2 hne,
      List.lookup_nil]
  unfold World.record? World.readFile World.file? World.node?
  rw [dirName_stateFilePath, hd]
  rfl

def noRecords : World × (String → List SessionState) :=
  (noSessions, fun n => (noSessions.record? tornConfig n).toList)

/-- Session 5 is created and verified. -/
def verifiedFive : World × (String → List SessionState) :=
  (runN (observeStep Sys.run (committedRecords tornConfig)) 30
    ((SessionOp.create 5 [] .VERIFIED).prog tornConfig) noRecords).2

theorem verifiedFive_runs (F : Faults) :
    (sessionService tornConfig F).Runs (fun _ => True) noRecords true verifiedFive := by
  have hboot : (sessionService tornConfig F).Runs (fun _ => True) noRecords true noRecords :=
    Service.Runs.booted (x := .ok ()) .off ⟨⟨false, false, rfl⟩, rfl⟩ (.here _ _) trivial
  have hres : (runN (observeStep Sys.run (committedRecords tornConfig)) 30
      ((SessionOp.create 5 [] .VERIFIED).prog tornConfig) noRecords).1.result? = some (.ok ()) := by
    decide
  exact hboot.served (i := .create 5 [] .VERIFIED)
    (runN_ends (observeStep_sem Sys.run_sem) hres) trivial

/-- Session 5 is being staged when the process dies inside the field `state`. -/
theorem session_records_survive_cut_in_field :
    let s := (runN (observeStep (Sys.runCleanCut tornConfig 3) (committedRecords tornConfig)) 2
      ((SessionOp.update 5 .STAGED).prog tornConfig) verifiedFive).2
    ∀ n t w', Ends (kernel .off (Sys.CleanTorn tornConfig))
        (getSessionFromFile tornConfig (join (join kApexSessionsDir n) kStateFileName))
          s.1 (.ok t) w' →
      t ∈ s.2 n := by
  intro s
  have hruns : (sessionService tornConfig (Sys.CleanTorn tornConfig)).Runs (fun _ => True) noRecords
      false s :=
    (verifiedFive_runs _).died (i := .update 5 .STAGED)
      (runN_reaches (observeStep_sem Sys.runCleanCut_sem) 2 _ _) trivial
  exact (session_records_survive (fun m hm => by cases hm)
    (fun n t ht => by rw [noSessions_record?] at ht; cases ht) hruns).1

/-- When the process dies right after the file was truncated, the record reads as the default one:
neither of the two, and with an id that makes `ClearSessions` delete another directory. -/
theorem truncated_record_survives :
    ∃ s, (sessionService tornConfig Sys.Torn).Runs (fun _ => True) noRecords false s ∧
      (∃ t w', Ends (kernel .off Sys.Torn) (getSessionFromFile tornConfig
        (join (join kApexSessionsDir "5") kStateFileName)) s.1 (.ok t) w' ∧ t ∉ s.2 "5") ∧
      ∃ w₁ w₂, Ends (kernel .off Sys.Torn) (clearSessions tornConfig) s.1 (.ok ()) w₁ ∧
        Ends (kernel .off Sys.Torn) (getSessions tornConfig) w₁ (.ok [.default]) w₂ := by
  let s := (runN (observeStep (Sys.runCut 0) (committedRecords tornConfig)) 2
    ((SessionOp.update 5 .STAGED).prog tornConfig) verifiedFive).2
  have hruns : (sessionService tornConfig Sys.Torn).Runs (fun _ => True) noRecords false s :=
    (verifiedFive_runs _).died (i := .update 5 .STAGED)
      (runN_reaches (observeStep_sem Sys.runCut_sem) 2 _ _) trivial
  have hread : (runN Sys.run 10 (getSessionFromFile tornConfig
      (join (join kApexSessionsDir "5") kStateFileName)) s.1).1.result? = some (.ok .default) := by
    decide
  have hclear : (runN Sys.run 10 (clearSessions tornConfig) s.1).1.result? = some (.ok ()) := by
    decide
  have hget : (runN Sys.run 10 (getSessions tornConfig)
      (runN Sys.run 10 (clearSessions tornConfig) s.1).2).1.result? = some (.ok [.default]) := by
    decide
  exact ⟨s, hruns, ⟨.default, _, runN_ends Sys.run_sem hread, by decide⟩,
    _, _, runN_ends Sys.run_sem hclear, runN_ends Sys.run_sem hget⟩

end Apexd
