import Apexd.Utils

/-!
# Session records

`apexd_session.cpp`: a session is the record in `/data/apex/sessions/<id>/state`.

* `getSessionFromFile`, `getSession`, `getSessions`, `getSessionsInState`, `getActiveSession`,
  `createSession`, `updateStateAndCommit`, `deleteSession`.
* A commit rewrites the file in place under the id inside the record.
-/

set_option autoImplicit false

namespace Apexd

open Text Prog

def getSessionDir (sessionId : Int32) : String := join kApexSessionsDir (toString sessionId)

def getSessionStateFilePath (sessionId : Int32) : String :=
  join (getSessionDir sessionId) kStateFileName

/-- `StatusOr<std::string>(res.ErrorMessage())` is a value: the text of an error is returned as if
it were the directory. -/
def createSessionDirIfNeeded (sessionId : Int32) : ApexM String := do
  match ← (createDirIfNeeded kApexSessionsDir 0o700).attempt with
  | .error message => ret message
  | .ok _ =>
    match ← (createDirIfNeeded (getSessionDir sessionId) 0o700).attempt with
    | .error message => ret message
    | .ok _ => ret (getSessionDir sessionId)

def deleteSessionDir (sessionId : Int32) : ApexM Unit := do
  match ← sys (.removeAll (getSessionDir sessionId)) with
  | .error e => fail ("Failed to delete " ++ getSessionDir sessionId ++ " : " ++ e.strerror)
  | .ok _ => ret ()

/-- `operator<<` of a session. -/
def SessionState.print (s : SessionState) : String :=
  "[id = " ++ toString s.id ++ "; state = " ++ s.state.name ++ "]"

def SessionState.isFinalized (s : SessionState) : Bool :=
  match s.state with
  | .SUCCESS => true
  | .ACTIVATION_FAILED => true
  | .ROLLED_BACK => true
  | .ROLLBACK_FAILED => true
  | _ => false

def createSession (sessionId : Int32) : ApexM SessionState := do
  let _ ← createSessionDirIfNeeded sessionId
  ret { SessionState.default with id := sessionId }

def getSessionFromFile (cfg : Config) (path : String) : ApexM SessionState := do
  match ← sys (.readFile path) with
  | none => fail ("Failed to open " ++ path)
  | some b =>
    match cfg.proto.parse b with
    | none => fail ("Failed to parse " ++ path)
    | some s => ret s

def getSession (cfg : Config) (sessionId : Int32) : ApexM SessionState :=
  getSessionFromFile cfg (getSessionStateFilePath sessionId)

/-- The loop of `GetSessions`: a record that cannot be read is skipped. -/
def getSessionsLoop (cfg : Config) (sessions : List SessionState) (path : String) :
    ApexM (List SessionState) := do
  match ← (getSessionFromFile cfg (join path kStateFileName)).attempt with
  | .error _ => ret sessions
  | .ok s => ret (sessions ++ [s])

def getSessions (cfg : Config) : ApexM (List SessionState) := do
  match ← (readDir kApexSessionsDir fun e => e.isDirectory).attempt with
  | .error _ => ret []
  | .ok paths => paths.foldlM (getSessionsLoop cfg) []

def getSessionsInState (cfg : Config) (state : State) : ApexM (List SessionState) := do
  let sessions ← getSessions cfg
  ret (sessions.filter fun s => s.state = state)

/-- The loop of `GetActiveSession` over the sessions it has read. -/
def findActiveSession : List SessionState → Option SessionState →
    Except String (Option SessionState)
  | [], found => .ok found
  | s :: rest, found =>
    if s.isFinalized then findActiveSession rest found else
    match found with
    | some _ => .error "More than one active session"
    | none => findActiveSession rest (some s)

def getActiveSession (cfg : Config) : ApexM (Option SessionState) := do
  let sessions ← getSessions cfg
  ofExcept (findActiveSession sessions none)

def updateStateAndCommit (cfg : Config) (s : SessionState) (state : State) : ApexM Unit := do
  let ok ← sys (.writeFile (getSessionStateFilePath s.id)
    (cfg.proto.serialize { s with state := state }))
  require ok ("Failed to write state file " ++ getSessionStateFilePath s.id)

def deleteSession (s : SessionState) : ApexM Unit := deleteSessionDir s.id

def clearSessions (cfg : Config) : ApexM Unit := do
  let sessions ← getSessions cfg
  sessions.forM deleteSession

/-- `ScopeGuard` and failed commits: log the failure and go on. -/
def commitOrLog (cfg : Config) (s : SessionState) (state : State) : ApexM Unit := do
  let _ ← ((updateStateAndCommit cfg s state).attempt : ApexM (Except String Unit))
  ret ()

/-! ## The calls they make -/

section Uses

variable {S : Sys → Prop} {cfg : Config}

theorem uses_getSessionFromFile {path : String} (h : S (.readFile path)) :
    (getSessionFromFile cfg path).Uses S := by
  unfold getSessionFromFile
  simp only [bind_eq, exec_bind]
  refine ⟨h, fun r => ?_⟩
  cases r with
  | none => trivial
  | some b =>
    dsimp only
    split <;> trivial

theorem uses_getSessions (hr : S (.readDir kApexSessionsDir)) (hf : ∀ p, S (.readFile p)) :
    (getSessions cfg).Uses S := by
  refine uses_bind (uses_attempt (uses_readDir hr)) fun x => ?_
  cases x with
  | error e => trivial
  | ok paths =>
    refine uses_foldlM _ _ fun acc p _ => ?_
    refine uses_bind (uses_attempt (uses_getSessionFromFile (hf _))) fun y => ?_
    cases y <;> trivial

theorem uses_getActiveSession (hr : S (.readDir kApexSessionsDir)) (hf : ∀ p, S (.readFile p)) :
    (getActiveSession cfg).Uses S :=
  uses_bind (uses_getSessions hr hf) fun _ => uses_ofExcept _

theorem uses_updateStateAndCommit {s : SessionState} {state : State}
    (h : S (.writeFile (getSessionStateFilePath s.id)
      (cfg.proto.serialize { s with state := state }))) :
    (updateStateAndCommit cfg s state).Uses S :=
  ⟨h, fun r => uses_require r _⟩

theorem uses_deleteSession {s : SessionState} (h : S (.removeAll (getSessionDir s.id))) :
    (deleteSession s).Uses S := by
  refine ⟨h, fun r => ?_⟩
  cases r <;> trivial

theorem uses_clearSessions (hr : S (.readDir kApexSessionsDir)) (hf : ∀ p, S (.readFile p))
    (hd : ∀ p, S (.removeAll p)) : (clearSessions cfg).Uses S :=
  uses_bind (uses_getSessions hr hf) fun _ => uses_forM _ fun _ _ => uses_deleteSession (hd _)

theorem uses_createSessionDirIfNeeded {id : Int32} (hs : ∀ p, S (.stat p))
    (hm : ∀ p, p = kApexSessionsDir ∨ p = getSessionDir id → S (.mkdir p 0o700))
    (hc : ∀ p m, S (.chmod p m)) : (createSessionDirIfNeeded id).Uses S := by
  refine uses_bind (uses_attempt (uses_createDirIfNeeded (hs _) (hm _ (Or.inl rfl)) (hc _ _)))
    fun r => ?_
  cases r with
  | error message => trivial
  | ok u =>
    refine uses_bind (uses_attempt (uses_createDirIfNeeded (hs _) (hm _ (Or.inr rfl)) (hc _ _)))
      fun r => ?_
    cases r <;> trivial

theorem uses_createSession {id : Int32} (hs : ∀ p, S (.stat p)) (hm : ∀ p m, S (.mkdir p m))
    (hc : ∀ p m, S (.chmod p m)) : (createSession id).Uses S :=
  uses_bind (uses_createSessionDirIfNeeded hs (fun p _ => hm p _) hc) fun _ => trivial

end Uses

/-! ## What is read back -/

/-- The record kept in the session directory of a name. -/
def World.record? (w : World) (cfg : Config) (name : String) : Option SessionState :=
  (w.readFile (join (join kApexSessionsDir name) kStateFileName)).bind cfg.proto.parse

/-- The names of the directories in `/data/apex/sessions`. -/
def World.sessionNames (w : World) : List String :=
  match w.dirs kApexSessionsDir with
  | none => []
  | some d => (d.entries.filter fun e => e.2.file?.isNone).map Prod.fst

theorem World.sessionNames_nodup (w : World) : w.sessionNames.Nodup := by
  unfold sessionNames
  split
  · exact List.nodup_nil
  · rename_i d _
    exact d.nodup.sublist (List.filter_sublist.map _)

theorem sessions_notApex : startsWith kApexSessionsDir kApexRoot = false := by decide

theorem sessions_ne_sessionDir (id : Int32) : kApexSessionsDir ≠ getSessionDir id :=
  (join_ne_self _ _).symm

theorem dirName_getSessionDir (id : Int32) : dirName (getSessionDir id) = kApexSessionsDir :=
  dirName_join (noSlash_int _) _

theorem baseName_getSessionDir (id : Int32) : baseName (getSessionDir id) = toString id :=
  baseName_join (noSlash_int _) _

theorem dirName_stateFilePath (n : String) :
    dirName (join (join kApexSessionsDir n) kStateFileName) = join kApexSessionsDir n :=
  dirName_join (by decide) _

theorem stateFilePath_inj {id : Int32} {n : String} :
    join (join kApexSessionsDir n) kStateFileName = getSessionStateFilePath id ↔
      n = toString id := by
  refine ⟨fun h => ?_, fun h => by rw [h]; rfl⟩
  have hd := congrArg dirName h
  rw [dirName_stateFilePath, getSessionStateFilePath, getSessionDir, dirName_stateFilePath] at hd
  exact join_right_inj.1 hd

theorem World.record?_setDir_other (w : World) {cfg : Config} {p n : String} (d : Option Dir)
    (h : join kApexSessionsDir n ≠ p) : (w.setDir p d).record? cfg n = w.record? cfg n := by
  unfold record?
  rw [readFile_setDir_other w d (by rwa [dirName_stateFilePath])]

theorem World.sessionNames_setDir_other (w : World) {p : String} (d : Option Dir)
    (h : kApexSessionsDir ≠ p) : (w.setDir p d).sessionNames = w.sessionNames := by
  unfold sessionNames
  rw [setDir_other w d h]

theorem findActiveSession_some (s : SessionState) (l : List SessionState) :
    findActiveSession l (some s) =
      if (l.filter fun s => !s.isFinalized) = [] then .ok (some s)
      else .error "More than one active session" := by
  induction l with
  | nil => rfl
  | cons x l ih =>
    unfold findActiveSession
    cases hx : x.isFinalized <;> simp [hx, ih]

/-- `GetActiveSession` counts the sessions that are not finalized. -/
theorem findActiveSession_none (l : List SessionState) :
    findActiveSession l none =
      match l.filter fun s => !s.isFinalized with
      | [] => .ok none
      | [s] => .ok (some s)
      | _ => .error "More than one active session" := by
  induction l with
  | nil => rfl
  | cons x l ih =>
    unfold findActiveSession
    cases hx : x.isFinalized with
    | true => simpa [hx] using ih
    | false =>
      rw [findActiveSession_some]
      simp only [List.filter_cons, hx, Bool.not_false, if_true]
      cases hl : l.filter fun s => !s.isFinalized <;> simp

/-- Only one element of a list without repetitions contributes. -/
theorem filterMap_eq_singleton {α β : Type} {g : α → Option β} {a : α} {b : β} {l : List α}
    (hl : l.Nodup) (ha : a ∈ l) (hb : g a = some b) (h : ∀ x ∈ l, g x ≠ none → x = a) :
    l.filterMap g = [b] := by
  induction l with
  | nil => cases ha
  | cons x l ih =>
    obtain ⟨hx, hl⟩ := List.nodup_cons.1 hl
    rcases List.mem_cons.1 ha with rfl | ha
    · have hnone : ∀ y ∈ l, g y = none := by
        intro y hy
        by_contra hne
        exact hx (h y (List.mem_cons_of_mem _ hy) hne ▸ hy)
      rw [List.filterMap_cons, hb, List.filterMap_eq_nil_iff.2 hnone]
    · have hxn : g x = none := by
        by_contra hne
        exact hx (h x List.mem_cons_self hne ▸ ha)
      rw [List.filterMap_cons, hxn]
      exact ih hl ha fun y hy => h y (List.mem_cons_of_mem _ hy)

/-- The bytes of a record have been replaced. -/
structure World.Recorded (w : World) (id : Int32) (b : List UInt8) (w' : World) : Prop where
  eq : ∃ d d' : Dir, w.dirs (getSessionDir id) = some d ∧
    w' = w.setDir (getSessionDir id) (some d')
  read : w'.readFile (getSessionStateFilePath id) = some b

theorem World.Recorded.record? {w w' : World} {cfg : Config} {id : Int32} {b : List UInt8}
    (h : w.Recorded id b w') : w'.record? cfg (toString id) = cfg.proto.parse b := by
  have hr := h.read
  unfold getSessionStateFilePath getSessionDir at hr
  unfold World.record?
  rw [hr]
  rfl

theorem World.Recorded.record?_other {w w' : World} {cfg : Config} {id : Int32} {b : List UInt8}
    (h : w.Recorded id b w') {n : String} (hn : n ≠ toString id) :
    w'.record? cfg n = w.record? cfg n := by
  obtain ⟨d, d', _, rfl⟩ := h.eq
  exact w.record?_setDir_other _ fun he => hn (join_right_inj.1 he)

theorem World.Recorded.dirs_other {w w' : World} {id : Int32} {b : List UInt8}
    (h : w.Recorded id b w') {p : String} (hp : p ≠ getSessionDir id) : w'.dirs p = w.dirs p := by
  obtain ⟨d, d', _, rfl⟩ := h.eq
  exact w.setDir_other _ hp

theorem World.Recorded.sessionNames {w w' : World} {id : Int32} {b : List UInt8}
    (h : w.Recorded id b w') : w'.sessionNames = w.sessionNames := by
  obtain ⟨d, d', _, rfl⟩ := h.eq
  exact w.sessionNames_setDir_other _ (join_ne_self _ _).symm

/-- A state file that can be opened gets the bytes. -/
theorem World.recorded_writeFile {w : World} {id : Int32} {b : List UInt8}
    (h : (w.writeFile (getSessionStateFilePath id) b).1 = true) :
    w.Recorded id b (w.writeFile (getSessionStateFilePath id) b).2 := by
  have hdir : dirName (getSessionStateFilePath id) = getSessionDir id := dirName_stateFilePath _
  rcases w.writeFile_cases (getSessionStateFilePath id) b with ⟨he, _⟩ | ⟨d, d', hd, he, hr⟩
  · rw [he] at h
    cases h
  · rw [he]
    rw [hdir] at hd hr ⊢
    exact ⟨⟨d, d', hd, rfl⟩, hr⟩

/-- Writing over a record that is there. -/
theorem World.writeFile_record {w w' : World} {cfg : Config} {id : Int32} {t : SessionState}
    {b : List UInt8} {r : Bool} (h : (r, w') = w.writeFile (getSessionStateFilePath id) b)
    (ht : w.record? cfg (toString id) = some t) : r = true ∧ w.Recorded id b w' := by
  have hdir : dirName (getSessionStateFilePath id) = getSessionDir id := dirName_stateFilePath _
  rcases w.writeFile_cases (getSessionStateFilePath id) b with ⟨_, hn⟩ | ⟨d, d', hd, he, hr⟩
  · unfold World.record? at ht
    rw [show join (join kApexSessionsDir (toString id)) kStateFileName =
      getSessionStateFilePath id from rfl, hn] at ht
    cases ht
  · rw [he] at h
    cases h
    rw [hdir] at hd hr ⊢
    exact ⟨rfl, ⟨d, d', hd, rfl⟩, hr⟩

section Commits

variable {cfg : Config} {V : Watch} {F : Faults} {I : World → Prop} {w : World}

theorem wp_getSessionFromFile (hF : F.Reads) {path : String}
    {Q : Except String SessionState → World → Prop} (hI : I w)
    (hQ : ∀ x, (∀ s, x = .ok s ↔ (w.readFile path).bind cfg.proto.parse = some s) → Q x w) :
    wp (kernel V F) I (getSessionFromFile cfg path) Q w := by
  unfold getSessionFromFile
  simp only [bind_eq, exec_bind]
  refine ⟨hI, trivial, ?_⟩
  rintro r w' (⟨rfl, rfl⟩ | hf)
  · cases hr : w'.readFile path with
    | none => exact ⟨hI, hQ _ (by simp [hr])⟩
    | some b =>
      dsimp only
      split
      · rename_i hp
        exact ⟨hI, hQ _ (by simp [hr, hp])⟩
      · rename_i s hp
        exact ⟨hI, hQ _ (by simp [hr, hp])⟩
  · exact (hF.readFile _ _ _ _ hf).elim

/-- `GetSessions` returns the records that can be read, in the order of the directory. -/
theorem wp_getSessions (hF : F.Reads) {Q : Except String (List SessionState) → World → Prop}
    (hm : w.mounted kApexSessionsDir = none) (hI : I w)
    (hQ : ∀ names : List String, names.Perm w.sessionNames →
      Q (.ok (names.filterMap (w.record? cfg))) w) :
    wp (kernel V F) I (getSessions cfg) Q w := by
  unfold getSessions
  rw [bind_eq, wp_bind, wp_attempt]
  refine wp_readDir hF hm hI ?_ ?_
  · intro hd e
    exact ⟨hI, hQ [] (by simp [World.sessionNames, hd])⟩
  intro d es hd hes
  -- the loop reads the records of the directories that are left and keeps what it has
  have hnames : ((es.filter fun e => e.2.file?.isNone).map Prod.fst).Perm w.sessionNames := by
    unfold World.sessionNames
    rw [hd]
    exact (hes.filter _).map _
  refine wp_foldlM (fun rest acc w' => w' = w ∧ ∃ left : List (String × Node),
    rest = left.map (fun e => join kApexSessionsDir e.1) ∧
    acc ++ (left.map Prod.fst).filterMap (w.record? cfg) =
      ((es.filter fun e => e.2.file?.isNone).map Prod.fst).filterMap (w.record? cfg)) _ ?_ ?_ ?_
  · rintro path rest acc w' - ⟨rfl, left, hrest, hacc⟩
    obtain ⟨e, left, rfl, rfl, rfl⟩ := List.map_eq_cons_iff.1 hrest.symm
    unfold getSessionsLoop
    rw [bind_eq, wp_bind, wp_attempt]
    refine wp_getSessionFromFile hF hI ?_
    intro x hx
    simp only [List.map_cons, List.filterMap_cons] at hacc
    cases x with
    | error msg =>
      have hr : w'.record? cfg e.1 = none := by
        by_contra hne
        obtain ⟨s, hs⟩ := Option.ne_none_iff_exists'.1 hne
        cases (hx s).2 hs
      rw [hr] at hacc
      exact ⟨hI, rfl, left, rfl, hacc⟩
    | ok s =>
      have hr : w'.record? cfg e.1 = some s := (hx s).1 rfl
      rw [hr] at hacc
      exact ⟨hI, rfl, left, rfl, by rw [← hacc, List.append_assoc]; rfl⟩
  · rintro acc w' ⟨rfl, left, hrest, hacc⟩
    rw [List.map_eq_nil_iff.1 hrest.symm, List.map_nil, List.filterMap_nil, List.append_nil] at hacc
    exact ⟨hI, hacc ▸ hQ _ hnames⟩
  · exact ⟨rfl, _, rfl, rfl⟩

/-- **The active session**: the only record that is not finalized, if there is one. -/
theorem wp_getActiveSession (hF : F.Reads) {Q : Except String (Option SessionState) → World → Prop}
    (hm : w.mounted kApexSessionsDir = none) (hI : I w)
    (hQ : ∀ x : Except String (Option SessionState),
      (∀ s, x = .ok (some s) → ∃ n ∈ w.sessionNames, w.record? cfg n = some s ∧
        s.isFinalized = false) →
      (∀ n s, n ∈ w.sessionNames → w.record? cfg n = some s → s.isFinalized = false →
        (∀ m t, m ∈ w.sessionNames → w.record? cfg m = some t → t.isFinalized = false → m = n) →
        x = .ok (some s)) →
      ((∀ m t, m ∈ w.sessionNames → w.record? cfg m = some t → t.isFinalized = true) →
        x = .ok none) →
      Q x w) :
    wp (kernel V F) I (getActiveSession cfg) Q w := by
  unfold getActiveSession
  rw [bind_eq, wp_bind]
  refine wp_getSessions hF hm hI fun names hnames => ?_
  refine wp_ofExcept.2 ⟨hI, hQ _ ?_ ?_ ?_⟩
  all_goals rw [findActiveSession_none, List.filter_filterMap]
  · intro s hs
    split at hs
    · cases hs
    · rename_i t ht
      cases hs
      have hmem : s ∈ names.filterMap fun n => (w.record? cfg n).filter fun s =>
          !s.isFinalized := by
        rw [ht]
        exact List.mem_singleton_self s
      obtain ⟨n, hn, hr⟩ := List.mem_filterMap.1 hmem
      obtain ⟨hr, hf⟩ := Option.filter_eq_some_iff.1 hr
      exact ⟨n, hnames.mem_iff.1 hn, hr, by simpa using hf⟩
    · cases hs
  · intro n s hn hr hs honly
    rw [filterMap_eq_singleton (hnames.nodup_iff.2 w.sessionNames_nodup) (hnames.mem_iff.2 hn)
      (Option.filter_eq_some_iff.2 ⟨hr, by simp [hs]⟩)]
    intro m hm hne
    obtain ⟨t, ht⟩ := Option.ne_none_iff_exists'.1 hne
    obtain ⟨ht, hf⟩ := Option.filter_eq_some_iff.1 ht
    exact honly m t (hnames.mem_iff.1 hm) ht (by simpa using hf)
  · intro hall
    rw [List.filterMap_eq_nil_iff.2]
    intro m hm
    rw [Option.filter_eq_none_iff]
    intro t ht
    simp [hall m t (hnames.mem_iff.1 hm) ht]

/-- What is read from a state file is what is there. -/
theorem wp_getSessionFromFile_honest (hF : F.Honest) {path : String} (hI : I w) :
    wp (kernel V F) I (getSessionFromFile cfg path) (fun x w' => w' = w ∧
      ∀ s, x = .ok s → (w.readFile path).bind cfg.proto.parse = some s) w := by
  unfold getSessionFromFile
  simp only [bind_eq, exec_bind]
  refine ⟨hI, trivial, ?_⟩
  rintro r w' (⟨rfl, rfl⟩ | hf)
  · cases hr : w'.readFile path with
    | none => exact ⟨hI, rfl, fun s h => by cases h⟩
    | some b =>
      dsimp only
      split
      · exact ⟨hI, rfl, fun s h => by cases h⟩
      · rename_i t hp
        exact ⟨hI, rfl, fun s h => by cases h; exact hp⟩
  · obtain ⟨rfl, rfl⟩ := hF.readFile _ _ _ _ hf
    exact ⟨hI, rfl, fun s h => by cases h⟩

/-- `GetSessions` returns records that are there. -/
theorem wp_getSessions_honest (hF : F.Honest) (hI : I w) :
    wp (kernel V F) I (getSessions cfg) (fun x w' => w' = w ∧ ∀ l, x = .ok l →
      ∀ s ∈ l, ∃ n, w.record? cfg n = some s) w := by
  unfold getSessions
  rw [bind_eq, wp_bind, wp_attempt]
  refine (wp_readDir_paths hF hI).imp ?_
  rintro (e | paths) w' _ ⟨rfl, hpaths⟩
  · exact ⟨hI, rfl, by rintro _ ⟨⟩ s hs; cases hs⟩
  refine wp_foldlM (fun rest acc w => w = w' ∧ ∀ s ∈ acc, ∃ n, w'.record? cfg n = some s)
    paths ?_ ?_ ?_
  · rintro path rest acc w hs ⟨rfl, hacc⟩
    obtain ⟨n, _, rfl⟩ := hpaths paths rfl path (hs.subset List.mem_cons_self)
    unfold getSessionsLoop
    rw [bind_eq, wp_bind, wp_attempt]
    refine (wp_getSessionFromFile_honest hF hI).imp ?_
    rintro (e | t) w' _ ⟨rfl, ht⟩
    · exact ⟨hI, rfl, hacc⟩
    · refine ⟨hI, rfl, fun s hs => ?_⟩
      rcases List.mem_append.1 hs with hs | hs
      · exact hacc s hs
      · rw [List.mem_singleton.1 hs]
        exact ⟨n, ht t rfl⟩
  · rintro acc w ⟨rfl, hacc⟩
    exact ⟨hI, rfl, by rintro _ ⟨⟩; exact hacc⟩
  · exact ⟨rfl, fun s hs => by cases hs⟩

/-- The active session is a record that is there and not finalized. -/
theorem wp_getActiveSession_honest (hF : F.Honest) (hI : I w) :
    wp (kernel V F) I (getActiveSession cfg) (fun x w' => w' = w ∧ ∀ s, x = .ok (some s) →
      (∃ n, w.record? cfg n = some s) ∧ s.isFinalized = false) w := by
  unfold getActiveSession
  rw [bind_eq, wp_bind]
  refine (wp_getSessions_honest hF hI).imp ?_
  rintro (e | l) w' _ ⟨rfl, hl⟩
  · exact ⟨rfl, fun s h => by cases h⟩
  refine wp_ofExcept.2 ⟨hI, rfl, fun s hs => ?_⟩
  rw [findActiveSession_none] at hs
  split at hs
  · cases hs
  · rename_i t ht
    cases hs
    have hmem : s ∈ l.filter fun s => !s.isFinalized := by
      rw [ht]
      exact List.mem_singleton_self s
    obtain ⟨hmem, hf⟩ := List.mem_filter.1 hmem
    exact ⟨hl l rfl s hmem, by simpa using hf⟩
  · cases hs

/-- A commit is whole, or not made at all. -/
theorem wp_updateStateAndCommit_refusals (hF : F.Refusals) {s : SessionState} {state : State}
    {Q : Except String Unit → World → Prop} (hI : I w) (hfail : ∀ e, Q (.error e) w)
    (hok : ∀ w', w.Recorded s.id (cfg.proto.serialize { s with state := state }) w' →
      I w' ∧ Q (.ok ()) w') :
    wp (kernel V F) I (updateStateAndCommit cfg s state) Q w := by
  unfold updateStateAndCommit
  rw [bind_eq, exec_bind]
  refine ⟨hI, trivial, ?_⟩
  rintro r w' (hs | hf)
  · have hw : (r, w') = _ := hs
    rcases w.writeFile_cases (getSessionStateFilePath s.id)
        (cfg.proto.serialize { s with state := state }) with ⟨he, _⟩ | ⟨d, d', hd, he, hr⟩
    · rw [he] at hw
      cases hw
      exact ⟨hI, hfail _⟩
    · rw [he] at hw
      cases hw
      rw [show dirName (getSessionStateFilePath s.id) = getSessionDir s.id
        from dirName_stateFilePath _]
        at hd hr ⊢
      exact hok _ ⟨⟨d, d', hd, rfl⟩, hr⟩
  · obtain ⟨rfl, rfl⟩ := hF _ _ _ _ hf
    exact ⟨hI, hfail _⟩

/-- A commit that is cut short may be reported as made. -/
theorem wp_updateStateAndCommit (hF : F.Commits) {s : SessionState} {state : State}
    {Q : Except String Unit → World → Prop} (hI : I w)
    (hfail : w.readFile (getSessionStateFilePath s.id) = none → ∀ e, Q (.error e) w)
    (hok : ∀ w', w.Recorded s.id (cfg.proto.serialize { s with state := state }) w' →
      I w' ∧ Q (.ok ()) w')
    (htorn : ∀ r w', F (.writeFile (getSessionStateFilePath s.id)
        (cfg.proto.serialize { s with state := state })) w r w' →
      (∀ b, w.Recorded s.id b (w.writeFile (getSessionStateFilePath s.id) b).2) → I w' ∧
          ∀ x, Q x w') :
    wp (kernel V F) I (updateStateAndCommit cfg s state) Q w := by
  unfold updateStateAndCommit
  rw [bind_eq, exec_bind]
  refine ⟨hI, trivial, ?_⟩
  rintro r w' hs
  cases hopen : (w.writeFile (getSessionStateFilePath s.id)
    (cfg.proto.serialize { s with state := state })).1 with
  | false =>
    -- the file could not be opened, and the reply says so
    have hclosed : ∀ b, w.writeFile (getSessionStateFilePath s.id) b = (false, w) ∧
        w.readFile (getSessionStateFilePath s.id) = none := by
      intro b
      rcases w.writeFile_cases (getSessionStateFilePath s.id) b with he | ⟨_, _, _, he, _⟩
      · exact he
      · rw [w.writeFile_fst _ _ b, he] at hopen
        cases hopen
    have hrw : r = false ∧ w' = w := by
      rcases hs with hn | hf
      · have hw : (r, w') = _ := hn
        rw [(hclosed _).1] at hw
        cases hw
        exact ⟨rfl, rfl⟩
      · obtain ⟨hr, k, rfl⟩ := hF _ _ _ _ hf
        rw [hopen] at hr
        refine ⟨?_, by rw [(hclosed _).1]⟩
        cases r with
        | true => cases hr rfl
        | false => rfl
    obtain ⟨rfl, rfl⟩ := hrw
    exact ⟨hI, hfail (hclosed []).2 _⟩
  | true =>
    have hrec : ∀ b, w.Recorded s.id b (w.writeFile (getSessionStateFilePath s.id) b).2 := fun b =>
      World.recorded_writeFile (by rw [w.writeFile_fst _ b]; exact hopen)
    rcases hs with hn | hf
    · have hw : (r, w') = _ := hn
      obtain ⟨rfl, rfl⟩ : r = true ∧ w' = _ :=
        ⟨(congrArg Prod.fst hw).trans hopen, congrArg Prod.snd hw⟩
      exact hok _ (hrec _)
    · obtain ⟨hI', hQ⟩ := htorn r w' hf hrec
      cases r with
      | true => exact ⟨hI', hQ _⟩
      | false => exact ⟨hI', hQ _⟩

end Commits

end Apexd
