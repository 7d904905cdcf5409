import Apexd.Populate

/-!
# Mount points and the names read back from them

`GetPackageMountPoint` and `GetActiveMountPoint` write a manifest into a path; `parseMountPoint` and
`isActiveMountPoint` read the path when the database is populated from the mount table.

* `parseMountPoint_packageMountPoint` — what is read back, for a name without `@`.
* `activeMountPoint_eq_iff` — when an active mount point is also a versioned one.
* `printPackageMountPoint`, `printActiveMountPoint` — the same mount points for names that hold a
  NUL.
* `mountPoint_decodes_iff` — exactly when the two sides agree.
-/

set_option autoImplicit false

namespace Apexd

open Text Prog

variable {m m' : ApexManifest}

theorem at_notMem_version (v : Int) : '@' ∉ (toString v).toList := by
  intro h
  rcases mem_toList_int h with h | h <;> exact absurd h (by decide)

/-! ## What is written -/

/-- A versioned mount point is never taken for an active one. -/
theorem isActiveMountPoint_packageMountPoint (m : ApexManifest) :
    isActiveMountPoint (getPackageMountPoint m) = false := by
  unfold isActiveMountPoint getPackageMountPoint
  rw [toList_join]
  simp [at_mem_packageId]

theorem isActiveMountPoint_activeMountPoint :
    isActiveMountPoint (getActiveMountPoint m) = true ↔ '@' ∉ m.name.toList := by
  have hroot : '@' ∉ kApexRoot.toList := by decide
  unfold isActiveMountPoint getActiveMountPoint
  rw [toList_join]
  simp [hroot]

/-- The two kinds of mount point meet in a name that is itself a package id. -/
theorem activeMountPoint_eq_iff : getActiveMountPoint m = getPackageMountPoint m' ↔
    m.name = getPackageId m' :=
  join_right_inj

/-! ## What is read back -/

theorem parseMountPoint_packageMountPoint (h : NoSlash m.name) (hat : '@' ∉ m.name.toList) :
    parseMountPoint (getPackageMountPoint m) =
      (m.name, if IntRange m.version then m.version else -1) := by
  have hsplit : split (getPackageId m) '@' = [m.name, toString m.version] := by
    unfold getPackageId
    rw [show "@" = String.singleton '@' from rfl, split_append hat,
      split_eq_singleton (at_notMem_version _)]
  unfold parseMountPoint getPackageMountPoint
  rw [baseName_join (noSlash_getPackageId h), hsplit]
  dsimp only
  rw [parseInt_toString_int]
  split <;> rfl

/-- No character is read that is not in the path. -/
theorem mem_parseMountPoint {p : String} {c : Char} (h : c ∈ (parseMountPoint p).1.toList) :
    c ∈ p.toList := by
  have hbase : ∀ c ∈ (baseName p).toList, c ∈ p.toList := by
    intro c hc
    unfold baseName at hc
    rw [String.toList_ofList, List.mem_reverse] at hc
    exact List.mem_reverse.1 ((List.takeWhile_sublist _).subset hc)
  unfold parseMountPoint at h
  split at h
  · rename_i package version hsplit
    have hpiece : IsPiece (baseName p) '@' package := mem_split_iff.1 (hsplit ▸ List.mem_cons_self)
    exact hbase c (hpiece.mem h)
  · exact hbase c h

/-! ## Names with a NUL -/

/-- `GetPackageMountPoint` of any name: `%s` ends at a NUL. -/
def printPackageMountPoint (m : ApexManifest) : String := join kApexRoot (cStr (getPackageId m))

/-- `GetActiveMountPoint` of any name. -/
def printActiveMountPoint (m : ApexManifest) : String := join kApexRoot (cStr m.name)

theorem printPackageMountPoint_eq (h : NoNul m.name) :
    printPackageMountPoint m = getPackageMountPoint m :=
  congrArg (join kApexRoot) (cStr_eq (notMem_packageId h (by decide) (by decide) (by decide)))

theorem printActiveMountPoint_eq (h : NoNul m.name) :
    printActiveMountPoint m = getActiveMountPoint m :=
  congrArg (join kApexRoot) (cStr_eq h)

theorem noNul_printPackageMountPoint : NoNul (printPackageMountPoint m) := by
  have hid := noNul_cStr (getPackageId m)
  have hroot : NoNul kApexRoot := by decide
  unfold printPackageMountPoint NoNul at *
  rw [toList_join, List.mem_append, List.mem_cons]
  rintro (h | h | h)
  · exact hroot h
  · exact absurd h (by decide)
  · exact hid h

/-- Both mount points of `m` are read back as what they are. -/
structure MountPointsDecode (m : ApexManifest) : Prop where
  parsed : parseMountPoint (printPackageMountPoint m) = (m.name, m.version)
  versioned : isActiveMountPoint (printPackageMountPoint m) = false
  active : isActiveMountPoint (printActiveMountPoint m) = true

/-- The name and the version survive being printed and parsed. -/
structure Printable (m : ApexManifest) : Prop where
  noAt : '@' ∉ m.name.toList
  noNul : NoNul m.name
  range : IntRange m.version

theorem MountPointsDecode.printable (hs : NoSlash m.name) (h : MountPointsDecode m) :
    Printable m := by
  have hnul : NoNul m.name := by
    intro hc
    have hname : m.name = (parseMountPoint (printPackageMountPoint m)).1 := by rw [h.parsed]
    rw [hname] at hc
    exact noNul_printPackageMountPoint (mem_parseMountPoint hc)
  have hactive := h.active
  rw [printActiveMountPoint_eq hnul] at hactive
  have hat := isActiveMountPoint_activeMountPoint.1 hactive
  have hparse := h.parsed
  rw [printPackageMountPoint_eq hnul, parseMountPoint_packageMountPoint hs hat] at hparse
  refine ⟨hat, hnul, ?_⟩
  have hversion := congrArg Prod.snd hparse
  dsimp only at hversion
  split at hversion
  · rename_i hrange
    exact hrange
  · unfold IntRange
    omega

theorem Printable.decode (hs : NoSlash m.name) (h : Printable m) : MountPointsDecode m where
  parsed := by
    rw [printPackageMountPoint_eq h.noNul, parseMountPoint_packageMountPoint hs h.noAt,
      if_pos h.range]
  versioned := by
    rw [printPackageMountPoint_eq h.noNul]
    exact isActiveMountPoint_packageMountPoint m
  active := by
    rw [printActiveMountPoint_eq h.noNul]
    exact isActiveMountPoint_activeMountPoint.2 h.noAt

theorem Printable.apart (h : Printable m) (h' : Printable m') :
    printActiveMountPoint m ≠ printPackageMountPoint m' := by
  rw [printActiveMountPoint_eq h.noNul, printPackageMountPoint_eq h'.noNul]
  intro he
  have hname := activeMountPoint_eq_iff.1 he
  have hat := h.noAt
  rw [hname] at hat
  exact hat (at_mem_packageId m')

/-- **Mount points decode to what they encode**, and those of two manifests are apart, exactly when
the names hold no `@` and no NUL and the versions are `int`s. -/
theorem mountPoint_decodes_iff (h : NoSlash m.name) (h' : NoSlash m'.name) :
    (MountPointsDecode m ∧ MountPointsDecode m' ∧
      printActiveMountPoint m ≠ printPackageMountPoint m' ∧
      printActiveMountPoint m' ≠ printPackageMountPoint m) ↔ Printable m ∧ Printable m' := by
  constructor
  · rintro ⟨hm, hm', _, _⟩
    exact ⟨hm.printable h, hm'.printable h'⟩
  · rintro ⟨hm, hm'⟩
    exact ⟨hm.decode h, hm'.decode h', hm.apart hm', hm'.apart hm⟩

def shortVersion : ApexManifest :=
    ⟨"com.android.a", 300000000, "", "", "", by decide, by decide, by decide⟩

def negativeVersion : ApexManifest :=
    ⟨"com.android.b", -7, "", "", "", by decide, by decide, by decide⟩

theorem mountPoint_decodes_short :
    parseMountPoint (printPackageMountPoint shortVersion) = ("com.android.a", 300000000) ∧
      parseMountPoint (printPackageMountPoint negativeVersion) = ("com.android.b", -7) := by
  have hshort : Printable shortVersion := ⟨by decide, by decide, by decide⟩
  have hnegative : Printable negativeVersion := ⟨by decide, by decide, by decide⟩
  have hdecode := (mountPoint_decodes_iff (by decide) (by decide)).2 ⟨hshort, hnegative⟩
  exact ⟨hdecode.1.parsed, hdecode.2.1.parsed⟩

/-- A version that is an `int64` only. -/
def longVersion : ApexManifest :=
    ⟨"com.android.a", 2 ^ 31, "", "", "", by decide, by decide, by decide⟩

theorem mountPoint_loses_version : ¬ ∀ m m' : ApexManifest, NoSlash m.name → NoSlash m'.name →
    MountPointsDecode m ∧ MountPointsDecode m' ∧
      printActiveMountPoint m ≠ printPackageMountPoint m' ∧
      printActiveMountPoint m' ≠ printPackageMountPoint m := by
  intro hclaim
  have hread : parseMountPoint (printPackageMountPoint longVersion) = ("com.android.a", -1) := by
    decide
  have hparse := (hclaim longVersion longVersion (by decide) (by decide)).1.parsed
  rw [hread] at hparse
  exact absurd (congrArg Prod.snd hparse) (by decide)

end Apexd
