import Apexd.Lib.Path
import Mathlib.Data.String.Basic

/-!
# Constants and data types of apexd

Names and values follow `apex_constants.h`, `apex_manifest.h`, `apex_file.h`, `apexd.cpp` and
the two proto files.  Strings are compared as they stand: a path is not resolved, so `.` and
`..` components name nothing else than themselves.

* `ApexManifest` — a manifest that `ParseManifest` accepted; what it checks is in the type.
* `ApexFile` — what `ApexFile::Open` returns.
* `SessionState` — the record of a session, with the nine states of `session_state.proto`.
* `Config` — the values that are fixed for a boot.
-/

set_option autoImplicit false

namespace Apexd

open Text

/-! ## Constants -/

def kApexDataDir : String := "/data/apex"
def kActiveApexPackagesDataDir : String := "/data/apex/active"
def kApexBackupDir : String := "/data/apex/backup"
def kApexPackageSystemDir : String := "/system/apex"
def kApexPackageBuiltinDirs : List String := [kApexPackageSystemDir, "/product/apex"]
def kApexRoot : String := "/apex"
def kStagedSessionsDir : String := "/data/app-staging"
def kApexPackageSuffix : String := ".apex"
def kApexSessionsDir : String := "/data/apex/sessions"
def kStateFileName : String := "state"
def kManifestFilename : String := "apex_manifest.json"
def kBundledPublicKeyFilename : String := "apex_pubkey"
def kBootstrapApexes : List String := ["com.android.runtime", "com.android.tzdata"]
def kApexCtsShimPackage : String := "com.android.apex.cts.shim"
def kSystemShimApexName : String := "com.android.apex.cts.shim.apex"
def kApexLoopIdPrefix : String := "apex:"
def kMkdirMode : Nat := 0o755
def kLoopDeviceSetupAttempts : Nat := 3
def kLoopDeviceRetryAttempts : Nat := 3
def kNumRetriesWhenCheckpointingEnabled : Nat := 1

inductive Errno where
  | enoent
  | eexist
  | enotdir
  | eisdir
  | enotempty
  | einval
  | ebusy
  | eacces
  | eio
  | enxio
  deriving DecidableEq, Repr

def Errno.strerror : Errno → String
  | .enoent => "No such file or directory"
  | .eexist => "File exists"
  | .enotdir => "Not a directory"
  | .eisdir => "Is a directory"
  | .enotempty => "Directory not empty"
  | .einval => "Invalid argument"
  | .ebusy => "Device or resource busy"
  | .eacces => "Permission denied"
  | .eio => "I/O error"
  | .enxio => "No such device or address"

/-- `PStringLog`: the message, a colon and the text of `errno`. -/
def perror (msg : String) (e : Errno) : String := msg ++ ": " ++ e.strerror

/-! ## Packages -/

/-- A manifest `ParseManifest` accepts: the name is not empty and the version, an `int64`, is
not 0. -/
structure ApexManifest where
  name : String
  version : Int
  preInstallHook : String
  postInstallHook : String
  versionName : String
  name_ne : name ≠ ""
  version_ne : version ≠ 0
  version_range : -2 ^ 63 ≤ version ∧ version < 2 ^ 63
  deriving DecidableEq

theorem version_one : (1 : Int) ≠ 0 ∧ -2 ^ 63 ≤ (1 : Int) ∧ (1 : Int) < 2 ^ 63 := by decide

theorem version_two : (2 : Int) ≠ 0 ∧ -2 ^ 63 ≤ (2 : Int) ∧ (2 : Int) < 2 ^ 63 := by decide

theorem version_three : (3 : Int) ≠ 0 ∧ -2 ^ 63 ≤ (3 : Int) ∧ (3 : Int) < 2 ^ 63 := by decide

/-- A package without hooks. -/
def plainManifest (version : Int) (h : version ≠ 0 ∧ -2 ^ 63 ≤ version ∧ version < 2 ^ 63) :
    ApexManifest where
  name := "a"
  version := version
  preInstallHook := ""
  postInstallHook := ""
  versionName := ""
  name_ne := by decide
  version_ne := h.1
  version_range := h.2

def plainOther : ApexManifest :=
    { plainManifest 1 version_one with name := "b", name_ne := by decide }

/-- A version of the shim package. -/
def shimManifest (version : Int) (h : version ≠ 0 ∧ -2 ^ 63 ≤ version ∧ version < 2 ^ 63) :
    ApexManifest where
  name := kApexCtsShimPackage
  version := version
  preInstallHook := ""
  postInstallHook := ""
  versionName := ""
  name_ne := by decide
  version_ne := h.1
  version_range := h.2

/-- `GetPackageId`. -/
def getPackageId (m : ApexManifest) : String := m.name ++ "@" ++ toString m.version

/-- A package id names one version of one package. -/
theorem getPackageId_inj {m m' : ApexManifest} (h : getPackageId m = getPackageId m') :
    m.name = m'.name ∧ m.version = m'.version := by
  have hat : ∀ i : Int, '@' ∉ (toString i).toList := by
    intro i hi
    rcases mem_toList_int hi with h | h <;> exact absurd h (by decide)
  obtain ⟨hn, hv⟩ := (append_sep_inj (hat _) (hat _)).1 h
  exact ⟨hn, toString_int_inj.1 hv⟩

/-- `static_cast<uint64_t>`. -/
def u64 (v : Int) : Nat := (v % 2 ^ 64).toNat

theorem at_mem_packageId (m : ApexManifest) : '@' ∈ (getPackageId m).toList := by
  unfold getPackageId
  simp [String.toList_append]

theorem notMem_packageId {m : ApexManifest} {c : Char} (h : c ∉ m.name.toList) (hat : c ≠ '@')
    (hminus : c ≠ '-') (hdigit : c.isDigit = false) : c ∉ (getPackageId m).toList := by
  unfold getPackageId
  rw [String.toList_append, String.toList_append, List.mem_append, List.mem_append]
  rintro ((hn | hs) | hv)
  · exact h hn
  · exact hat (List.mem_singleton.1 hs)
  · rcases mem_toList_int hv with h | h
    · exact hminus h
    · rw [hdigit] at h
      cases h

theorem noSlash_getPackageId {m : ApexManifest} (h : NoSlash m.name) : NoSlash (getPackageId m) :=
  notMem_packageId h (by decide) (by decide) (by decide)

/-- The file of a package with a plain name is an entry of its directory. -/
theorem component_packageFile {m : ApexManifest} (h : Plain m.name) :
    Component (getPackageId m ++ kApexPackageSuffix) := by
  have hnot : ∀ c, c ∉ (getPackageId m).toList → c ∉ kApexPackageSuffix.toList →
      c ∉ (getPackageId m ++ kApexPackageSuffix).toList := by
    intro c h₁ h₂ hc
    rw [String.toList_append, List.mem_append] at hc
    exact hc.elim h₁ h₂
  have hne : ∀ s : String, '@' ∉ s.toList → getPackageId m ++ kApexPackageSuffix ≠ s := by
    rintro s hs rfl
    apply hs
    rw [String.toList_append]
    exact List.mem_append_left _ (at_mem_packageId m)
  exact {
    noSlash := hnot _ (noSlash_getPackageId h.noSlash) (by decide)
    noNul := hnot _ (notMem_packageId h.noNul (by decide) (by decide) (by decide)) (by decide)
    nonempty := hne _ (by decide)
    notDot := hne _ (by decide)
    notDots := hne _ (by decide) }

structure ApexFile where
  path : String
  flattened : Bool
  imageOffset : Int
  imageSize : Nat
  manifest : ApexManifest
  pubkey : List UInt8
  deriving DecidableEq

/-- The fields of `AvbHashtreeDescriptor` that the verity table is built from. -/
structure AvbHashtreeDescriptor where
  dmVerityVersion : Nat
  imageSize : Nat
  treeOffset : Nat
  dataBlockSize : Nat
  hashBlockSize : Nat
  hashAlgorithm : String
  deriving DecidableEq

structure ApexVerityData where
  desc : AvbHashtreeDescriptor
  salt : String
  rootDigest : String
  deriving DecidableEq

/-! ## Sessions -/

inductive State where
  | UNKNOWN
  | VERIFIED
  | STAGED
  | ACTIVATED
  | ACTIVATION_FAILED
  | SUCCESS
  | ROLLBACK_IN_PROGRESS
  | ROLLED_BACK
  | ROLLBACK_FAILED
  deriving DecidableEq, Repr

/-- The number of a state in `session_state.proto`. -/
def State.number : State → Nat
  | .UNKNOWN => 0
  | .VERIFIED => 1
  | .STAGED => 2
  | .ACTIVATED => 3
  | .ACTIVATION_FAILED => 4
  | .SUCCESS => 5
  | .ROLLBACK_IN_PROGRESS => 6
  | .ROLLED_BACK => 7
  | .ROLLBACK_FAILED => 8

def State.name : State → String
  | .UNKNOWN => "UNKNOWN"
  | .VERIFIED => "VERIFIED"
  | .STAGED => "STAGED"
  | .ACTIVATED => "ACTIVATED"
  | .ACTIVATION_FAILED => "ACTIVATION_FAILED"
  | .SUCCESS => "SUCCESS"
  | .ROLLBACK_IN_PROGRESS => "ROLLBACK_IN_PROGRESS"
  | .ROLLED_BACK => "ROLLED_BACK"
  | .ROLLBACK_FAILED => "ROLLBACK_FAILED"

/-- The stored record of a session. -/
structure SessionState where
  id : Int32
  state : State
  childSessionIds : List Int32
  deriving DecidableEq

/-- The record with every field at its default. -/
def SessionState.default : SessionState := ⟨0, .UNKNOWN, []⟩

/-- The record with only its first `n` fields (`id`, `state`, `child_session_ids`) set. -/
def SessionState.firstFields (r : SessionState) : Nat → SessionState
  | 0 => .default
  | 1 => ⟨r.id, .UNKNOWN, []⟩
  | 2 => ⟨r.id, r.state, []⟩
  | _ => r

/-- What apexd relies on in the protobuf library: a record is written field by field, parsing
undoes serialising, a prefix made of whole fields parses with the others at their defaults, and
a prefix that ends inside a field does not parse. -/
structure SessionProto where
  field : SessionState → Fin 3 → List UInt8
  parse : List UInt8 → Option SessionState
  parse_fields : ∀ r n, n ≤ 3 →
    parse (((List.finRange 3).take n).flatMap (field r)) = some (r.firstFields n)
  parse_torn : ∀ r (i : Fin 3) (k : Nat), 0 < k → k < (field r i).length →
    parse (((List.finRange 3).take i.val).flatMap (field r) ++ (field r i).take k) = none

/-- `SerializeToOstream`. -/
def SessionProto.serialize (P : SessionProto) (r : SessionState) : List UInt8 :=
  (List.finRange 3).flatMap (P.field r)

theorem SessionProto.parse_serialize (P : SessionProto) (r : SessionState) :
    P.parse (P.serialize r) = some r :=
  P.parse_fields r 3 (Nat.le_refl 3)

/-! ## Configuration -/

/-- Build flags and system properties, fixed for a boot: `kUpdatable`, `gBootstrap`,
`gForceDmVerityOnSystem`; and the protobuf library. -/
structure Config where
  updatable : Bool
  bootstrap : Bool
  forceDmVerityOnSystem : Bool
  proto : SessionProto

end Apexd
