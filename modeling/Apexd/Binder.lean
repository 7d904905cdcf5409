import Apexd.PackageInfo
import Apexd.SessionChanges

/-!
# The binder service

The calls of `ApexService` (`apexservice.cpp`).

* `checkDebuggable` — the test at the start of the calls that only debuggable builds serve.
* `BinderCall`, `BinderCall.prog` — the calls, and what each one runs.
* `convertToApexSessionInfo`, `ApexService.getSessions`, `ApexService.getStagedSessionInfo` — the
  sessions that are reported.
* `session_infos` — in every state that requests and deaths lead to, each recorded session is
  reported once, with one flag, the two calls agree, and at most one session is reported that is not
  over.
-/

set_option autoImplicit false

namespace Apexd

open Text Prog

/-! ## Replies -/

inductive ExceptionCode where
  | EX_SECURITY
  | EX_ILLEGAL_ARGUMENT
  deriving DecidableEq

inductive BinderStatus where
  | ok
  | fromExceptionCode (code : ExceptionCode) (message : String)
  deriving DecidableEq

/-- `debuggable` is the property `ro.debuggable`. -/
def checkDebuggable (debuggable : Bool) (name : String) : BinderStatus :=
  if debuggable then .ok else .fromExceptionCode .EX_SECURITY (name ++ " unavailable")

/-- What most calls make of a `Status`. -/
def binderStatus (p : ApexM Unit) : ApexM BinderStatus := do
  match ← (p.attempt : ApexM (Except String Unit)) with
  | .ok _ => ret .ok
  | .error message => ret (.fromExceptionCode .EX_ILLEGAL_ARGUMENT message)

/-- A call that only debuggable builds serve. -/
def debuggableOnly (debuggable : Bool) (name : String) (p : ApexM BinderStatus) :
    ApexM BinderStatus :=
  match checkDebuggable debuggable name with
  | .ok => p
  | status => ret status

structure ApexSessionInfo where
  sessionId : Int32
  isUnknown : Bool
  isVerified : Bool
  isStaged : Bool
  isActivated : Bool
  isRollbackInProgress : Bool
  isActivationFailed : Bool
  isSuccess : Bool
  isRolledBack : Bool
  isRollbackFailed : Bool
  deriving DecidableEq

/-- `ClearSessionInfo`. -/
def clearSessionInfo : ApexSessionInfo where
  sessionId := -1
  isUnknown := false
  isVerified := false
  isStaged := false
  isActivated := false
  isRollbackInProgress := false
  isActivationFailed := false
  isSuccess := false
  isRolledBack := false
  isRollbackFailed := false

def convertToApexSessionInfo (session : SessionState) : ApexSessionInfo :=
  let info := { clearSessionInfo with sessionId := session.id }
  match session.state with
  | .VERIFIED => { info with isVerified := true }
  | .STAGED => { info with isStaged := true }
  | .ACTIVATED => { info with isActivated := true }
  | .ACTIVATION_FAILED => { info with isActivationFailed := true }
  | .SUCCESS => { info with isSuccess := true }
  | .ROLLBACK_IN_PROGRESS => { info with isRollbackInProgress := true }
  | .ROLLED_BACK => { info with isRolledBack := true }
  | .ROLLBACK_FAILED => { info with isRollbackFailed := true }
  | _ => { info with isUnknown := true }

/-! ## Calls -/

/-- `getActivePackage`: the first active package of the name. -/
def getActivePackage (packageName : String) : ApexM ApexFile := do
  let packages ← getActivePackages
  match packages.find? fun apex => apex.manifest.name = packageName with
  | some apex => ret apex
  | none => failErrno ("Cannot find matching package for: " ++ packageName)

def preinstallPackages (cfg : Config) (paths : List String) : ApexM Unit := do
  require (!paths.isEmpty) "Empty set of inputs"
  let apexes ← openApexes paths
  prePostinstallPackages cfg .preInstall apexes

namespace ApexService

variable (cfg : Config) (debuggable : Bool)

def stagePackages (paths : List String) : ApexM BinderStatus :=
  debuggableOnly debuggable "stagePackages" (binderStatus (Apexd.stagePackages cfg paths))

def stagePackage (packageTmpPath : String) : ApexM BinderStatus :=
  debuggableOnly debuggable "stagePackage" (stagePackages cfg debuggable [packageTmpPath])

def unstagePackages (paths : List String) :
    ApexM BinderStatus := binderStatus (Apexd.unstagePackages paths)

/-- The packages and whether the session was accepted; the status is always `ok`. -/
def submitStagedSession (sessionId : Int32) (childSessionIds : List Int32) :
    ApexM (List ApexInfo × Bool) := do
  match ← (Apexd.submitStagedSession cfg sessionId childSessionIds).attempt with
  | .error _ => ret ([], false)
  | .ok packages =>
    ret (packages.map fun package => { getApexInfo package with versionName := "" }, true)

/-- Whether the session was marked; the status is always `ok`. -/
def markStagedSessionReady (sessionId : Int32) : ApexM Bool := do
  match ← ((Apexd.markStagedSessionReady cfg sessionId).attempt : ApexM (Except String Unit)) with
  | .error _ => ret false
  | .ok _ => ret true

def markStagedSessionSuccessful (sessionId : Int32) : ApexM BinderStatus :=
  binderStatus (Apexd.markStagedSessionSuccessful cfg sessionId)

def getSessions : ApexM (List ApexSessionInfo) := do
  let sessions ← Apexd.getSessions cfg
  ret (sessions.map convertToApexSessionInfo)

def getStagedSessionInfo (sessionId : Int32) : ApexM ApexSessionInfo := do
  match ← (getSession cfg sessionId).attempt with
  | .error _ => ret { clearSessionInfo with isUnknown := true }
  | .ok session => ret (convertToApexSessionInfo session)

def activatePackage (packagePath : String) : ApexM BinderStatus :=
  debuggableOnly debuggable "activatePackage" (binderStatus (Apexd.activatePackage cfg packagePath))

def deactivatePackage (packagePath : String) : ApexM BinderStatus :=
  debuggableOnly debuggable "deactivatePackage" (binderStatus (Apexd.deactivatePackage packagePath))

/-- What is known of the package, if it is active; the status is always `ok`. -/
def getActivePackage (packageName : String) : ApexM (Option ApexInfo) := do
  match ← (Apexd.getActivePackage packageName).attempt with
  | .error _ => ret none
  | .ok apex =>
    ret (some { getApexInfo apex with
    isActive := true, isFactory := isPathForBuiltinApexes apex.path })

def preinstallPackages (paths : List String) : ApexM BinderStatus :=
  debuggableOnly debuggable "preinstallPackages" (binderStatus (Apexd.preinstallPackages cfg paths))

def postinstallPackages (paths : List String) : ApexM BinderStatus :=
  debuggableOnly debuggable "postinstallPackages"
    (binderStatus (Apexd.postinstallPackages cfg paths))

def abortActiveSession : ApexM BinderStatus := binderStatus (Apexd.abortActiveSession cfg)

def rollbackActiveSession : ApexM BinderStatus :=
  debuggableOnly debuggable "rollbackActiveSession" (binderStatus (Apexd.rollbackActiveSession cfg))

def resumeRollbackIfNeeded : ApexM BinderStatus :=
  debuggableOnly debuggable "resumeRollbackIfNeeded"
    (binderStatus (Apexd.resumeRollbackIfNeeded cfg))

end ApexService

/-- The calls of the interface. -/
inductive BinderCall where
  | stagePackage (packageTmpPath : String)
  | stagePackages (paths : List String)
  | unstagePackages (paths : List String)
  | submitStagedSession (sessionId : Int32) (childSessionIds : List Int32)
  | markStagedSessionReady (sessionId : Int32)
  | markStagedSessionSuccessful (sessionId : Int32)
  | getSessions
  | getStagedSessionInfo (sessionId : Int32)
  | activatePackage (packagePath : String)
  | deactivatePackage (packagePath : String)
  | getActivePackages
  | getActivePackage (packageName : String)
  | getAllPackages
  | preinstallPackages (paths : List String)
  | postinstallPackages (paths : List String)
  | abortActiveSession
  | rollbackActiveSession
  | resumeRollbackIfNeeded

/-- A call that only reports. -/
def reported {α : Type} (p : ApexM α) : ApexM BinderStatus := do
  let _ ← p
  ret .ok

/-- What a call runs, with its status; what it reports besides is left to the caller. -/
def BinderCall.prog (cfg : Config) (debuggable : Bool) : BinderCall → ApexM BinderStatus
  | .stagePackage packageTmpPath => ApexService.stagePackage cfg debuggable packageTmpPath
  | .stagePackages paths => ApexService.stagePackages cfg debuggable paths
  | .unstagePackages paths => ApexService.unstagePackages paths
  | .submitStagedSession id ids => reported (ApexService.submitStagedSession cfg id ids)
  | .markStagedSessionReady id => reported (ApexService.markStagedSessionReady cfg id)
  | .markStagedSessionSuccessful id => ApexService.markStagedSessionSuccessful cfg id
  | .getSessions => reported (ApexService.getSessions cfg)
  | .getStagedSessionInfo id => reported (ApexService.getStagedSessionInfo cfg id)
  | .activatePackage packagePath => ApexService.activatePackage cfg debuggable packagePath
  | .deactivatePackage packagePath => ApexService.deactivatePackage debuggable packagePath
  | .getActivePackages => reported ApexService.getActivePackages
  | .getActivePackage packageName => reported (ApexService.getActivePackage packageName)
  | .getAllPackages => reported ApexService.getAllPackages
  | .preinstallPackages paths => ApexService.preinstallPackages cfg debuggable paths
  | .postinstallPackages paths => ApexService.postinstallPackages cfg debuggable paths
  | .abortActiveSession => ApexService.abortActiveSession cfg
  | .rollbackActiveSession => ApexService.rollbackActiveSession cfg debuggable
  | .resumeRollbackIfNeeded => ApexService.resumeRollbackIfNeeded cfg debuggable

/-- The calls that only debuggable builds serve. -/
def BinderCall.restricted : BinderCall → Bool
  | .stagePackage _ => true
  | .stagePackages _ => true
  | .activatePackage _ => true
  | .deactivatePackage _ => true
  | .preinstallPackages _ => true
  | .postinstallPackages _ => true
  | .rollbackActiveSession => true
  | .resumeRollbackIfNeeded => true
  | _ => false

/-- The program behind a call. -/
def BinderCall.work (cfg : Config) : BinderCall → (α : Type) × ApexM α
  | .stagePackage packageTmpPath => ⟨_, Apexd.stagePackages cfg [packageTmpPath]⟩
  | .stagePackages paths => ⟨_, Apexd.stagePackages cfg paths⟩
  | .unstagePackages paths => ⟨_, Apexd.unstagePackages paths⟩
  | .submitStagedSession id ids => ⟨_, Apexd.submitStagedSession cfg id ids⟩
  | .markStagedSessionReady id => ⟨_, Apexd.markStagedSessionReady cfg id⟩
  | .markStagedSessionSuccessful id => ⟨_, Apexd.markStagedSessionSuccessful cfg id⟩
  | .getSessions => ⟨_, Apexd.getSessions cfg⟩
  | .getStagedSessionInfo id => ⟨_, getSession cfg id⟩
  | .activatePackage packagePath => ⟨_, Apexd.activatePackage cfg packagePath⟩
  | .deactivatePackage packagePath => ⟨_, Apexd.deactivatePackage packagePath⟩
  | .getActivePackages => ⟨_, ApexService.getActivePackages⟩
  | .getActivePackage packageName => ⟨_, Apexd.getActivePackage packageName⟩
  | .getAllPackages => ⟨_, ApexService.getAllPackages⟩
  | .preinstallPackages paths => ⟨_, Apexd.preinstallPackages cfg paths⟩
  | .postinstallPackages paths => ⟨_, Apexd.postinstallPackages cfg paths⟩
  | .abortActiveSession => ⟨_, Apexd.abortActiveSession cfg⟩
  | .rollbackActiveSession => ⟨_, Apexd.rollbackActiveSession cfg⟩
  | .resumeRollbackIfNeeded => ⟨_, Apexd.resumeRollbackIfNeeded cfg⟩

/-- What holds of the program behind a call holds of the call, if it is kept where programs are put
together. -/
theorem BinderCall.closed {cfg : Config} {debuggable : Bool} {P : (α : Type) → ApexM α → Prop}
    (hret : ∀ {α} (a : α), P α (ret a))
    (hbind : ∀ {α β} {p : ApexM α} {f : α → ApexM β}, P α p → (∀ a, P β (f a)) → P β (p.bind f))
    (hattempt : ∀ {α} {p : ApexM α}, P α p → P (Except String α) p.attempt) (c : BinderCall)
    (hwork : (debuggable = false → c.restricted = false) → P _ (c.work cfg).2) :
    P BinderStatus (c.prog cfg debuggable) := by
  have hstatus : ∀ p : ApexM Unit, P Unit p → P BinderStatus (binderStatus p) := fun p hp =>
    hbind (hattempt hp) fun x => by cases x <;> exact hret _
  have hdebug : ∀ name p, (debuggable = true → P BinderStatus p) →
      P BinderStatus (debuggableOnly debuggable name p) := by
    intro name p hp
    cases debuggable with
    | false => exact hret _
    | true => exact hp rfl
  have hopen : debuggable = true → debuggable = false → c.restricted = false := fun hd hn => by
    rw [hd] at hn
    cases hn
  cases c with
  | stagePackage path => exact hdebug _ _ fun hd => hdebug _ _ fun _ => hstatus _ (hwork (hopen hd))
  | stagePackages paths => exact hdebug _ _ fun hd => hstatus _ (hwork (hopen hd))
  | unstagePackages paths => exact hstatus _ (hwork fun _ => rfl)
  | submitStagedSession id ids =>
    refine hbind (hbind (hattempt (hwork fun _ => rfl)) fun x => ?_) fun _ => hret _
    cases x <;> exact hret _
  | markStagedSessionReady id =>
    refine hbind (hbind (hattempt (hwork fun _ => rfl)) fun x => ?_) fun _ => hret _
    cases x <;> exact hret _
  | markStagedSessionSuccessful id => exact hstatus _ (hwork fun _ => rfl)
  | getSessions => exact hbind (hbind (hwork fun _ => rfl) fun _ => hret _) fun _ => hret _
  | getStagedSessionInfo id =>
    refine hbind (hbind (hattempt (hwork fun _ => rfl)) fun x => ?_) fun _ => hret _
    cases x <;> exact hret _
  | activatePackage path => exact hdebug _ _ fun hd => hstatus _ (hwork (hopen hd))
  | deactivatePackage path => exact hdebug _ _ fun hd => hstatus _ (hwork (hopen hd))
  | getActivePackages => exact hbind (hwork fun _ => rfl) fun _ => hret _
  | getActivePackage name =>
    refine hbind (hbind (hattempt (hwork fun _ => rfl)) fun x => ?_) fun _ => hret _
    cases x <;> exact hret _
  | getAllPackages => exact hbind (hwork fun _ => rfl) fun _ => hret _
  | preinstallPackages paths => exact hdebug _ _ fun hd => hstatus _ (hwork (hopen hd))
  | postinstallPackages paths => exact hdebug _ _ fun hd => hstatus _ (hwork (hopen hd))
  | abortActiveSession => exact hstatus _ (hwork fun _ => rfl)
  | rollbackActiveSession => exact hdebug _ _ fun hd => hstatus _ (hwork (hopen hd))
  | resumeRollbackIfNeeded => exact hdebug _ _ fun hd => hstatus _ (hwork (hopen hd))

section Reads

variable {S : Sys → Prop} (ho : ∀ p, S (.openApex p))
include ho

theorem uses_openApex_any (path : String) :
    (openApex path).Uses S := uses_exec_bind (ho path) fun r => uses_ofExcept r

theorem uses_openApexes (paths : List String) : (openApexes paths).Uses S :=
  uses_mapM _ fun path _ => uses_openApex_any ho path

theorem uses_getActivePackages (hg : S .getDb) : Apexd.getActivePackages.Uses S := by
  refine uses_exec_bind hg fun db => uses_foldlM _ _ fun acc e _ => uses_ite ?_ trivial
  refine uses_bind (uses_attempt (uses_openApex_any ho _)) fun x => ?_
  cases x <;> trivial

theorem uses_getFactoryPackages (hr : ∀ p, S (.readDir p)) : getFactoryPackages.Uses S := by
  refine uses_foldlM _ _ fun packages dir _ =>
    uses_bind (uses_attempt (uses_readDir (hr dir))) fun x => ?_
  cases x with
  | error e => trivial
  | ok files =>
    refine uses_foldlM _ _ fun packages path _ =>
      uses_bind (uses_attempt (uses_openApex_any ho _)) fun y => ?_
    cases y <;> trivial

theorem uses_getActivePackage (hg : S .getDb) (hs : S .strerror) (name : String) :
    (Apexd.getActivePackage name).Uses S := by
  refine uses_bind (uses_getActivePackages ho hg) fun packages => ?_
  cases packages.find? fun apex => apex.manifest.name = name
  · exact uses_failErrno hs _
  · trivial

end Reads

/-! ## The sessions that are reported -/

def ApexSessionInfo.flags (i : ApexSessionInfo) : List Bool :=
  [i.isUnknown, i.isVerified, i.isStaged, i.isActivated, i.isRollbackInProgress,
    i.isActivationFailed, i.isSuccess, i.isRolledBack, i.isRollbackFailed]

/-- The session is not over. -/
def ApexSessionInfo.inProgress (i : ApexSessionInfo) : Bool :=
  i.isUnknown || i.isVerified || i.isStaged || i.isActivated || i.isRollbackInProgress

theorem convertToApexSessionInfo_id (s : SessionState) :
    (convertToApexSessionInfo s).sessionId = s.id := by
  unfold convertToApexSessionInfo
  cases s.state <;> rfl

theorem convertToApexSessionInfo_flags (s : SessionState) :
    (convertToApexSessionInfo s).flags.count true = 1 := by
  unfold convertToApexSessionInfo
  cases s.state <;> rfl

theorem convertToApexSessionInfo_inProgress (s : SessionState) :
    (convertToApexSessionInfo s).inProgress = !s.isFinalized := by
  unfold convertToApexSessionInfo SessionState.isFinalized
  cases s.state <;> rfl

section Infos

variable {cfg : Config} {w w₀ : World} {names : List String} {id : Int32}

/-- The records that are listed are those of the sessions, each once. -/
theorem SessionsInv.infos (h : SessionsInv cfg w) (hnames : names.Perm w.sessionNames) :
    ((names.filterMap (w.record? cfg)).map (·.id)).Nodup ∧
      ∀ t, t ∈ names.filterMap (w.record? cfg) ↔ w.record? cfg (toString t.id) = some t := by
  constructor
  · rw [List.map_filterMap]
    refine List.Nodup.filterMap ?_ (hnames.nodup_iff.2 w.sessionNames_nodup)
    intro n m id hn hm
    obtain ⟨t, ht, rfl⟩ := Option.map_eq_some_iff.1 hn
    obtain ⟨u, hu, hid⟩ := Option.map_eq_some_iff.1 hm
    rw [h.own n t ht, h.own m u hu, hid]
  · intro t
    rw [List.mem_filterMap]
    constructor
    · rintro ⟨n, _, ht⟩
      rwa [← h.own n t ht]
    · exact fun ht => ⟨_, hnames.mem_iff.2 (h.listed ht), ht⟩

/-- `getStagedSessionInfo` finds what `getSessions` lists. -/
theorem SessionsInv.find_info (h : SessionsInv cfg w) (hnames : names.Perm w.sessionNames)
    (id : Int32) :
    ((names.filterMap (w.record? cfg)).map convertToApexSessionInfo).find?
    (fun i => i.sessionId = id) =
      (w.record? cfg (toString id)).map convertToApexSessionInfo := by
  obtain ⟨_, hmem⟩ := h.infos hnames
  cases hr : w.record? cfg (toString id) with
  | none =>
    rw [Option.map_none, List.find?_eq_none]
    intro i hi he
    obtain ⟨t, ht, rfl⟩ := List.mem_map.1 hi
    rw [convertToApexSessionInfo_id, decide_eq_true_eq] at he
    rw [hmem, he, hr] at ht
    cases ht
  | some t =>
    have hid : t.id = id := toString_int32_inj.1 (h.own _ t hr).symm
    have hsome : (((names.filterMap (w.record? cfg)).map convertToApexSessionInfo).find?
        fun i => i.sessionId = id).isSome := by
      rw [List.find?_isSome]
      refine ⟨_, List.mem_map_of_mem ((hmem t).2 (hid ▸ hr)), ?_⟩
      rw [convertToApexSessionInfo_id, hid, decide_eq_true_eq]
    obtain ⟨i, hi⟩ := Option.isSome_iff_exists.1 hsome
    obtain ⟨u, hu, rfl⟩ := List.mem_map.1 (List.mem_of_find?_eq_some hi)
    have hu' : u.id = id := by
      have := List.find?_some hi
      rwa [convertToApexSessionInfo_id, decide_eq_true_eq] at this
    rw [hmem, hu', hr] at hu
    cases hu
    exact hi

/-- At most one of them is not over. -/
theorem SessionsInv.infos_inProgress (h : SessionsInv cfg w) (hnames : names.Perm w.sessionNames) :
    ((names.filterMap (w.record? cfg)).map convertToApexSessionInfo).countP (·.inProgress) ≤ 1 := by
  obtain ⟨hnodup, hmem⟩ := h.infos hnames
  rw [List.countP_map, List.countP_eq_length_filter]
  have hsame : ∀ t ∈ (names.filterMap (w.record? cfg)).filter ((·.inProgress) ∘ convertToApexSessionInfo),
      w.record? cfg (toString t.id) = some t ∧ t.isFinalized = false := by
    intro t ht
    obtain ⟨ht, hp⟩ := List.mem_filter.1 ht
    rw [Function.comp_apply, convertToApexSessionInfo_inProgress, Bool.not_eq_true'] at hp
    exact ⟨(hmem t).1 ht, hp⟩
  have hnd := (List.Nodup.of_map _ hnodup).filter ((·.inProgress) ∘ convertToApexSessionInfo)
  generalize (names.filterMap (w.record? cfg)).filter
    ((·.inProgress) ∘ convertToApexSessionInfo) = l at *
  match l with
  | [] => exact Nat.zero_le 1
  | [_] => exact Nat.le_refl 1
  | t :: u :: rest =>
    obtain ⟨ht, hft⟩ := hsame t List.mem_cons_self
    obtain ⟨hu, hfu⟩ := hsame u (List.mem_cons_of_mem _ List.mem_cons_self)
    have hid := h.one _ t _ u ht hft hu hfu
    rw [← hid, ht] at hu
    cases hu
    exact absurd List.mem_cons_self (List.nodup_cons.1 hnd).1

theorem wp_getStagedSessionInfo :
    wp (kernel .off Sys.Unreliable) (fun _ => True) (ApexService.getStagedSessionInfo cfg id)
      (fun x w' => w' = w ∧ x = .ok
        (((w.record? cfg (toString id)).map convertToApexSessionInfo).getD
        { clearSessionInfo with isUnknown := true })) w := by
  refine wp_bind.2 (wp_attempt.2
    (wp_getSessionFromFile Sys.Unreliable.reads trivial fun x hx => ?_))
  cases x with
  | error e =>
    have hnone : w.record? cfg (toString id) = none :=
      Option.eq_none_iff_forall_ne_some.2 fun s hs => nomatch (hx s).2 hs
    exact ⟨trivial, rfl, by rw [hnone]; rfl⟩
  | ok s =>
    have hsome : w.record? cfg (toString id) = some s := (hx s).1 rfl
    exact ⟨trivial, rfl, by rw [hsome]; rfl⟩

end Infos

/-- **The sessions that are reported**, in every state that requests and deaths lead to:
`getSessions` lists each recorded session once, with one flag, at most one of them is not over, and
`getStagedSessionInfo` answers for each id with what is listed, or with an unknown session. -/
theorem session_infos {cfg : Config} {w₀ : World} (h0 : w₀.NoSessions) {up : Bool}
    {s : World × (Int32 → List State)}
    (h : (sessionRequests cfg).Runs (fun _ => True) (w₀, fun _ => []) up s)
    {x : Except String (List ApexSessionInfo)}
    {w' : World} (he : Ends (kernel .off Sys.Unreliable) (ApexService.getSessions cfg) s.1 x w') :
    w' = s.1 ∧ ∃ infos, x = .ok infos ∧ (infos.map (·.sessionId)).Nodup ∧
      (∀ id, (∃ i ∈ infos, i.sessionId = id) ↔ (s.1.storedState cfg id).isSome) ∧
      (∀ i ∈ infos, i.flags.count true = 1) ∧ infos.countP (·.inProgress) ≤ 1 ∧
      ∀ id y w'', Ends (kernel .off Sys.Unreliable)
        (ApexService.getStagedSessionInfo cfg id) s.1 y w'' →
        w'' = s.1 ∧ y = .ok ((infos.find? fun i => i.sessionId = id).getD { clearSessionInfo with
          isUnknown := true }) := by
  have hinv := (sessionRequests_inv h0 h).1
  have hget : wp (kernel .off Sys.Unreliable) (fun _ => True) (ApexService.getSessions cfg)
    (fun x w' => w' = s.1 ∧
      ∃ names : List String, names.Perm s.1.sessionNames ∧
        x = .ok ((names.filterMap (s.1.record? cfg)).map convertToApexSessionInfo)) s.1 :=
    wp_bind.2 (wp_getSessions Sys.Unreliable.reads hinv.mounted trivial fun names hnames =>
      ⟨trivial, rfl, names, hnames, rfl⟩)
  obtain ⟨hw, names, hnames, rfl⟩ := hget.ends he
  obtain ⟨hnodup, hmem⟩ := hinv.infos hnames
  refine ⟨hw, _, rfl, ?_, fun id => ?_, fun i hi => ?_, hinv.infos_inProgress hnames,
    fun id y w'' hy => ?_⟩
  · rw [List.map_map]
    simpa only [Function.comp_def, convertToApexSessionInfo_id] using hnodup
  · unfold World.storedState
    rw [Option.isSome_map, Option.isSome_iff_exists]
    constructor
    · rintro ⟨i, hi, rfl⟩
      obtain ⟨t, ht, rfl⟩ := List.mem_map.1 hi
      rw [convertToApexSessionInfo_id]
      exact ⟨t, (hmem t).1 ht⟩
    · rintro ⟨t, ht⟩
      have hid : t.id = id := toString_int32_inj.1 (hinv.own _ t ht).symm
      subst hid
      exact ⟨_, List.mem_map_of_mem ((hmem t).2 ht), convertToApexSessionInfo_id t⟩
  · obtain ⟨t, _, rfl⟩ := List.mem_map.1 hi
    exact convertToApexSessionInfo_flags t
  · obtain ⟨hw'', rfl⟩ := wp_getStagedSessionInfo.ends hy
    exact ⟨hw'', by rw [hinv.find_info hnames]⟩

/-- Session 6 is submitted after session 5. -/
def submittedSix : World × (Int32 → List State) := serveAll [.submit 5 [], .submit 6 []]
    (submissionWorld, fun _ => [])

theorem submittedSix_runs : (sessionRequests deviceConfig).Runs (fun _ => True)
    (submissionWorld, fun _ => []) true submittedSix := by
  refine serveAll_runs _ ?_ (by decide +kernel)
  exact Service.Runs.booted (x := .ok ()) .off ⟨⟨false, false, rfl⟩, rfl⟩ (.here _ _) trivial

/-- The new session is listed, and the session before it is unknown again. -/
theorem session_infos_submitted : ∃ six : ApexSessionInfo,
    six = { clearSessionInfo with sessionId := 6, isVerified := true } ∧ six.flags.count true = 1 ∧
    ([six].map (·.sessionId)).Nodup ∧ [six].countP (·.inProgress) ≤ 1 ∧
    ∀ y w'', Ends (kernel .off Sys.Unreliable) (ApexService.getStagedSessionInfo deviceConfig 5)
      submittedSix.1 y w'' → y = .ok { clearSessionInfo with isUnknown := true } := by
  have hsix : (runN Sys.run 20 (ApexService.getSessions deviceConfig) submittedSix.1).1.result? =
      some (.ok [{ clearSessionInfo with sessionId := 6, isVerified := true }]) := by decide +kernel
  obtain ⟨-, infos, hx, hnodup, -, hflags, hone, hinfo⟩ :=
    session_infos submissionWorld_noSessions submittedSix_runs (runN_ends Sys.run_sem hsix)
  cases hx
  exact ⟨_, rfl, hflags _ (List.mem_singleton_self _), hnodup, hone,
    fun y w'' hy => (hinfo 5 y w'' hy).2⟩

end Apexd
