import Apexd.NewestVersion
import Apexd.SmoothMount
import Mathlib.Order.Bounds.Basic

/-!
# The latest versions after a scan

* `Db.Consistent` — every entry is what its file says, versions of a package are distinct, and the
  highest one is its latest; `Consistent.add`, `Consistent.raise` — one more package.
* `wp_activatePackageImpl_smooth` — an activation adds its version to those of the package.
* `World.Candidates` — the versions of a package in the database and in a directory.
* `scanPackagesDirAndActivate_latest` — after a scan the latest version of each package is the
  greatest candidate, in whatever order the directory was listed.
-/

set_option autoImplicit false

namespace Apexd

open Text Prog

/-! ## Databases that agree with the files -/

/-- The version of the package file at a path. -/
def versionAt (files : String → Except String ApexFile) (p : String) : Option Nat :=
  (files p).toOption.map fun apex => u64 apex.manifest.version

/-- The entry was made when the package `apex` was mounted. -/
structure Entry.IsMountOf (e : Entry) (apex : ApexFile) : Prop where
  package : e.package = apex.manifest.name
  point : e.data.mountPoint = getPackageMountPoint apex.manifest
  device : e.data.deviceName = "" ∨ e.data.deviceName = getPackageId apex.manifest

structure Db.Consistent (files : String → Except String ApexFile) (db : Db) : Prop where
  wf : db.Wf
  opens : ∀ e ∈ db, ∃ apex, files e.data.fullPath = .ok apex ∧ e.IsMountOf apex
  distinct : ∀ e ∈ db, ∀ o ∈ db, e.package = o.package →
    versionAt files e.data.fullPath = versionAt files o.data.fullPath → e = o
  latest : ∀ e ∈ db, ∃ l ∈ db, l.package = e.package ∧ l.latest = true
  highest : ∀ l ∈ db, l.latest = true → ∀ o ∈ db, o.package = l.package → ∀ u v,
    versionAt files l.data.fullPath = some u → versionAt files o.data.fullPath = some v → v ≤ u

/-- The latest version of a package. -/
def Db.Latest (files : String → Except String ApexFile) (db : Db) (name : String)
    (v : Nat) : Prop :=
  ∃ l ∈ db, l.package = name ∧ l.latest = true ∧ versionAt files l.data.fullPath = some v

section Consistent

variable {files : String → Except String ApexFile} {db : Db} {apex : ApexFile}

theorem versionAt_ok {p : String} (h : files p = .ok apex) :
    versionAt files p = some (u64 apex.manifest.version) := by
  unfold versionAt
  rw [h]
  rfl

theorem Db.Consistent.version (h : db.Consistent files) {e : Entry} (he : e ∈ db) :
    ∃ v, versionAt files e.data.fullPath = some v := by
  obtain ⟨apex, ha, _⟩ := h.opens e he
  exact ⟨_, versionAt_ok ha⟩

theorem Db.Latest.unique (h : db.Consistent files) {name : String} {u v : Nat}
    (hu : db.Latest files name u) (hv : db.Latest files name v) : u = v := by
  obtain ⟨l, hl, hp, hf, hlu⟩ := hu
  obtain ⟨l', hl', hp', hf', hlv⟩ := hv
  obtain rfl := h.wf.eq_of_latest hl hl' (hp.trans hp'.symm) hf hf'
  rw [hlu] at hlv
  exact Option.some.inj hlv

/-- A package with an entry has a latest version, which no entry exceeds. -/
theorem Db.Consistent.exists_latest (h : db.Consistent files) {e : Entry} (he : e ∈ db) {v : Nat}
    (hv : versionAt files e.data.fullPath = some v) : ∃ u, db.Latest files e.package u ∧ v ≤ u := by
  obtain ⟨l, hl, hp, hf⟩ := h.latest e he
  obtain ⟨u, hu⟩ := h.version hl
  exact ⟨u, ⟨l, hl, hp, hf, hu⟩, h.highest l hl hf e he hp.symm u v hu hv⟩

/-- The new entry of a package of which the version is not there. -/
theorem Db.Consistent.compatible (h : db.Consistent files) {p : String} (hp : files p = .ok apex)
    (hno : ∀ e ∈ db, e.package = apex.manifest.name →
      versionAt files e.data.fullPath ≠ some (u64 apex.manifest.version))
    {w : World} {d : MountedApexData} (hdb : w.db = db) (hpath : d.fullPath = p)
    (hd : MountedFresh w apex (getPackageMountPoint apex.manifest) (getPackageId apex.manifest) d) :
    ∀ e ∈ db, Db.Compatible ⟨apex.manifest.name, d, false⟩ e := by
  intro e he
  constructor
  · intro hn heq
    apply hno e he hn.symm
    rw [← (show d = e.data from heq), hpath]
    exact versionAt_ok hp
  · intro hne heq
    exact hd.loop hne e (hdb ▸ he) heq.symm
  · intro hne heq
    obtain ⟨other, ho, hm⟩ := h.opens e he
    have hid : d.deviceName = getPackageId apex.manifest := hd.device.resolve_left hne
    have hid' : e.data.deviceName = getPackageId other.manifest := hm.device.resolve_left fun h0 =>
      hne (heq.trans h0)
    obtain ⟨hname, hversion⟩ := getPackageId_inj ((hid.symm.trans heq).trans hid')
    apply hno e he (hm.package.trans hname.symm)
    rw [versionAt_ok ho, hversion]
  · rintro _ ⟨hf, _⟩
    cases hf

section Added

variable {d : MountedApexData} (h : db.Consistent files) (hp : files d.fullPath = .ok apex)
  (hno : ∀ e ∈ db, e.package = apex.manifest.name →
    versionAt files e.data.fullPath ≠ some (u64 apex.manifest.version))
  (hmount : Entry.IsMountOf ⟨apex.manifest.name, d, false⟩ apex)
  (hc : ∀ e ∈ db, Db.Compatible ⟨apex.manifest.name, d, false⟩ e)

include h hp hno hmount hc

/-- A version that is not the highest is added beside the latest. -/
theorem Db.Consistent.add {o : Entry} (ho : o ∈ db) (hop : o.package = apex.manifest.name) {v : Nat}
    (hv : versionAt files o.data.fullPath = some v) (hlt : u64 apex.manifest.version < v) :
    (db.emplace ⟨apex.manifest.name, d, false⟩).Consistent files ∧
      ∀ name u, (db.emplace ⟨apex.manifest.name, d, false⟩).Latest files name u ↔
        db.Latest files name u := by
  have hnew : versionAt files d.fullPath = some (u64 apex.manifest.version) := versionAt_ok hp
  refine ⟨⟨Db.emplace_wf.2 ⟨hc, h.wf⟩, ?_, ?_, ?_, ?_⟩, ?_⟩
  · intro e he
    rcases Db.mem_emplace.1 he with rfl | he
    · exact ⟨apex, hp, hmount⟩
    · exact h.opens e he
  · intro e he e' he' hpkg hver
    rcases Db.mem_emplace.1 he with rfl | he
    · rcases Db.mem_emplace.1 he' with rfl | he'
      · rfl
      · exact absurd (hver.symm.trans hnew) (hno e' he' hpkg.symm)
    · rcases Db.mem_emplace.1 he' with rfl | he'
      · exact absurd (hver.trans hnew) (hno e he hpkg)
      · exact h.distinct e he e' he' hpkg hver
  · intro e he
    have hold : ∀ e₀ ∈ db, ∃ l ∈ db.emplace ⟨apex.manifest.name, d, false⟩,
        l.package = e₀.package ∧ l.latest = true := by
      intro e₀ he₀
      obtain ⟨l, hl, hlp⟩ := h.latest e₀ he₀
      exact ⟨l, Db.mem_emplace.2 (Or.inr hl), hlp⟩
    rcases Db.mem_emplace.1 he with rfl | he
    · obtain ⟨l, hl, hlp, hlf⟩ := hold o ho
      exact ⟨l, hl, hlp.trans hop, hlf⟩
    · exact hold e he
  · intro l hl hlf e he hep u v' hu hv'
    rcases Db.mem_emplace.1 hl with rfl | hl
    · cases hlf
    rcases Db.mem_emplace.1 he with rfl | he
    · rw [hnew] at hv'
      obtain rfl := Option.some.inj hv'
      have := h.highest l hl hlf o ho (hop.trans hep) u v hu hv
      omega
    · exact h.highest l hl hlf e he hep u v' hu hv'
  · intro name u
    constructor
    · rintro ⟨l, hl, hlp, hlf, hlv⟩
      rcases Db.mem_emplace.1 hl with rfl | hl
      · cases hlf
      · exact ⟨l, hl, hlp, hlf, hlv⟩
    · rintro ⟨l, hl, hl'⟩
      exact ⟨l, Db.mem_emplace.2 (Or.inr hl), hl'⟩

/-- A version higher than all others becomes the latest. -/
theorem Db.Consistent.raise
    (hhigh : ∀ e ∈ db, e.package = apex.manifest.name → ∀ v,
      versionAt files e.data.fullPath = some v → v ≤ u64 apex.manifest.version) :
    ∃ db', (db.emplace ⟨apex.manifest.name, d, false⟩).setLatest apex.manifest.name
      d.fullPath = some db' ∧ db'.Consistent files ∧ ∀ name u, db'.Latest files name u ↔
        if name = apex.manifest.name then u = u64 apex.manifest.version else db.Latest
          files name u := by
  have hnew : versionAt files d.fullPath = some (u64 apex.manifest.version) := versionAt_ok hp
  have hsome : ((db.emplace ⟨apex.manifest.name, d, false⟩).setLatest apex.manifest.name
      d.fullPath).isSome :=
    Db.setLatest_isSome.2 ⟨_, Db.mem_emplace.2 (Or.inl rfl), rfl, rfl⟩
  obtain ⟨db', hdb'⟩ := Option.isSome_iff_exists.1 hsome
  have hmem : ∀ x, x ∈ db' ↔ x = ⟨apex.manifest.name, d, true⟩ ∨
    (x ∈ db ∧ x.package ≠ apex.manifest.name) ∨
      ∃ e ∈ db, e.package = apex.manifest.name ∧ x = { e with latest := false } := fun x =>
    -- no older entry has the path of the new one
    Db.mem_setLatest_emplace (fun e he hep hpath => hno e he hep (hpath ▸ hnew)) hdb'
  -- every entry was there before, or is the new one
  have hold : ∀ x ∈ db', x = ⟨apex.manifest.name, d, true⟩ ∨
      ∃ e ∈ db, e.package = x.package ∧ e.data = x.data ∧
        (x.latest = true → x ∈ db ∧ x.package ≠ apex.manifest.name) := by
    intro x hx
    rcases (hmem x).1 hx with rfl | ⟨hx, hp⟩ | ⟨e, he, hp, rfl⟩
    · exact Or.inl rfl
    · exact Or.inr ⟨x, hx, rfl, rfl, fun _ => ⟨hx, hp⟩⟩
    · exact Or.inr ⟨e, he, rfl, rfl, fun hf => by cases hf⟩
  have hwf : db'.Wf := Db.setLatest_wf (Db.emplace_wf.2 ⟨hc, h.wf⟩) hdb'
  refine ⟨db', hdb', ⟨hwf, ?_, ?_, ?_, ?_⟩, ?_⟩
  · intro x hx
    rcases hold x hx with rfl | ⟨e, he, hep, hed, _⟩
    · exact ⟨apex, hp, hmount.package, hmount.point, hmount.device⟩
    · obtain ⟨a, ha, hm⟩ := h.opens e he
      exact ⟨a, hed ▸ ha, hep ▸ hm.package, hed ▸ hm.point, hed ▸ hm.device⟩
  · intro x hx y hy hpkg hver
    rcases hold x hx with rfl | ⟨e, he, hep, hed, _⟩
    · rcases hold y hy with rfl | ⟨o, ho, hop, hod, _⟩
      · rfl
      · rw [← hod] at hver
        exact absurd (hver.symm.trans hnew) (hno o ho (hop.trans hpkg.symm))
    · rcases hold y hy with rfl | ⟨o, ho, hop, hod, _⟩
      · rw [← hed] at hver
        exact absurd (hver.trans hnew) (hno e he (hep.trans hpkg))
      · rw [← hed, ← hod] at hver
        obtain rfl := h.distinct e he o ho (hep.trans (hpkg.trans hop.symm)) hver
        exact hwf.eq_of_key hx hy hpkg (hed.symm.trans hod)
  · intro x hx
    by_cases hn : x.package = apex.manifest.name
    · exact ⟨_, (hmem _).2 (Or.inl rfl), hn.symm, rfl⟩
    · obtain ⟨e, he, hep, _⟩ := (hold x hx).resolve_left fun hnew => hn (hnew ▸ rfl)
      obtain ⟨l, hl, hlp, hlf⟩ := h.latest e he
      have hlp' : l.package = x.package := hlp.trans hep
      exact ⟨l, (hmem l).2 (Or.inr (Or.inl ⟨hl, hlp' ▸ hn⟩)), hlp', hlf⟩
  · intro l hl hlf o ho hop u v hu hv
    rcases hold l hl with rfl | ⟨_, _, _, _, hflag⟩
    · rw [hnew] at hu
      obtain rfl := Option.some.inj hu
      rcases hold o ho with rfl | ⟨e, he, hep, hed, _⟩
      · rw [hnew] at hv
        exact (Option.some.inj hv).ge
      · exact hhigh e he (hep.trans hop) v (hed ▸ hv)
    · obtain ⟨hldb, hln⟩ := hflag hlf
      obtain ⟨e, he, hep, hed, _⟩ := (hold o ho).resolve_left fun ho' => hln (hop ▸ ho' ▸ rfl)
      exact h.highest l hldb hlf e he (hep.trans hop) u v hu (hed ▸ hv)
  · intro name u
    split
    · rename_i hn
      subst hn
      constructor
      · rintro ⟨l, hl, hlp, hlf, hlv⟩
        rcases hold l hl with rfl | ⟨_, _, _, _, hflag⟩
        · rw [hnew] at hlv
          exact (Option.some.inj hlv).symm
        · exact absurd hlp (hflag hlf).2
      · rintro rfl
        exact ⟨_, (hmem _).2 (Or.inl rfl), rfl, rfl, hnew⟩
    · rename_i hn
      constructor
      · rintro ⟨l, hl, hlp, hlf, hlv⟩
        rcases hold l hl with rfl | ⟨_, _, _, _, hflag⟩
        · exact absurd hlp.symm hn
        · exact ⟨l, (hflag hlf).1, hlp, hlf, hlv⟩
      · rintro ⟨l, hl, hlp, hl'⟩
        exact ⟨l, (hmem l).2 (Or.inr (Or.inl ⟨hl, hlp ▸ hn⟩)), hlp, hl'⟩

end Added

end Consistent

/-! ## One package -/

section Programs

variable {w : World} {cfg : Config} {apex : ApexFile}

theorem wp_setDb_smooth {db : Db} {Q : Except String Unit → World → Prop}
    (h : Q (.ok ()) { w with db := db }) :
    wp smoothKernel (fun _ => True) (sys (.setDb db)) Q w := by
  refine ⟨trivial, trivial, fun _ w' hs => ?_⟩
  obtain ⟨_, hn | hf⟩ := hs
  · cases hn
    exact ⟨trivial, h⟩
  · exact hf.1.elim

theorem wp_addMountedApex_smooth {package : String} {data : MountedApexData} (hwf : w.db.Wf)
    (hc : ∀ e ∈ w.db, Db.Compatible ⟨package, data, false⟩ e)
    {Q : Except String Unit → World → Prop}
    (h : Q (.ok ()) { w with db := w.db.emplace ⟨package, data, false⟩ }) :
    wp smoothKernel (fun _ => True) (addMountedApex package false data) Q w := by
  refine ⟨trivial, trivial, fun r w' hs => ?_⟩
  obtain ⟨rfl, rfl⟩ := readsPackages_smooth.getDb _ _ _ hs
  dsimp only [ret_bind]
  rw [Db.addMountedApex_eq hwf hc]
  exact wp_setDb_smooth h

theorem wp_setLatest_smooth {package path : String} {db' : Db}
    (hdb : w.db.setLatest package path = some db')
    {Q : Except String Unit → World → Prop} (h : Q (.ok ()) { w with db := db' }) :
    wp smoothKernel (fun _ => True) (setLatest package path) Q w := by
  refine ⟨trivial, trivial, fun r w' hs => ?_⟩
  obtain ⟨rfl, rfl⟩ := readsPackages_smooth.getDb _ _ _ hs
  dsimp only [ret_bind]
  rw [hdb]
  exact wp_setDb_smooth h

/-- The state after a package was mounted as `d` and added to the database. -/
structure MountAdded (apex : ApexFile) (d : MountedApexData) (w w' : World) : Prop where
  files : ∀ p, w'.file? p = w.file? p
  path : d.fullPath = apex.path
  mount : Entry.IsMountOf ⟨apex.manifest.name, d, false⟩ apex
  compatible : ∀ e ∈ w.db, Db.Compatible ⟨apex.manifest.name, d, false⟩ e
  db : w'.db = w.db.emplace ⟨apex.manifest.name, d, false⟩

theorem wp_mountPackage_smooth (h : w.db.Consistent w.openApex) {p : String}
    (hp : w.openApex p = .ok apex) (hno : ∀ e ∈ w.db, e.package = apex.manifest.name →
      versionAt w.openApex e.data.fullPath ≠ some (u64 apex.manifest.version)) :
    wp smoothKernel (fun _ => True) (mountPackage cfg apex (getPackageMountPoint apex.manifest))
      (fun x w' => x = .ok () ∧ ∃ d, MountAdded apex d w w') w := by
  have hmount : wp smoothKernel (fun _ => True)
    (mountPackageImpl cfg apex (getPackageMountPoint apex.manifest)
      (getPackageId apex.manifest) false) (fun x w' => w.Kept w' ∧ ∃ d, x = .ok d ∧
        MountedFresh w apex (getPackageMountPoint apex.manifest) (getPackageId apex.manifest) d)
            w := by
    apply (wp_mountPackageImpl_smooth apex.manifest false (World.Kept.refl w)).mono
    · intro _ _
      trivial
    · intro x w' hI hx
      exact ⟨hI, hx⟩
  unfold mountPackage
  refine hmount.bind ?_ ?_
  case refine_2 =>
    rintro e w₁ _ ⟨_, d, he, _⟩
    cases he
  rintro d w₁ _ ⟨hkept, d', hd', hfresh⟩
  cases hd'
  have hc : ∀ e ∈ w.db, Db.Compatible ⟨apex.manifest.name, d, false⟩ e :=
    h.compatible hp hno rfl (hfresh.path.trans (World.openApex_path hp)) hfresh
  refine wp_addMountedApex_smooth (hkept.db ▸ h.wf) (hkept.db ▸ hc) ⟨rfl, d, ?_⟩
  constructor
  · exact hkept.files
  · exact hfresh.path
  · exact ⟨rfl, hfresh.point, hfresh.device⟩
  · exact hc
  · exact congrArg (Db.emplace _) hkept.db

/-- What the activation of version `v` of the package `name` does to the latest versions. -/
structure LatestRaised (files : String → Except String ApexFile) (name : String) (v : Nat)
    (db db' : Db) : Prop where
  consistent : db'.Consistent files
  others : ∀ n, n ≠ name → ∀ u, db'.Latest files n u ↔ db.Latest files n u
  own : ∃ u, db'.Latest files name u ∧ v ≤ u ∧ (db.Latest files name u ∨ u = v)
  monotone : ∀ u u', db.Latest files name u → db'.Latest files name u' → u ≤ u'

/-- A version that is there already, or is below one that is, changes nothing. -/
theorem LatestRaised.same {files : String → Except String ApexFile} {name : String}
    {v : Nat} {db db' : Db}
    (h : db.Consistent files) (h' : db'.Consistent files)
    (hsame : ∀ n u, db'.Latest files n u ↔ db.Latest files n u)
    {e : Entry} (he : e ∈ db) (hp : e.package = name) {v' : Nat}
    (hv : versionAt files e.data.fullPath = some v')
    (hle : v ≤ v') : LatestRaised files name v db db' := by
  obtain ⟨u, hu, hvu⟩ := h.exists_latest he hv
  rw [hp] at hu
  constructor
  · exact h'
  · exact fun n _ u => hsame n u
  · exact ⟨u, (hsame name u).2 hu, hle.trans hvu, Or.inl hu⟩
  · intro u₁ u₂ h₁ h₂
    exact (h₁.unique h ((hsame name u₂).1 h₂)).le

/-- **An activation adds its version to those of the package**, and changes no file. -/
theorem wp_activatePackageImpl_smooth (hup : cfg.updatable = true) (hboot : cfg.bootstrap = false)
    (hfree : ∀ p, belowApex p → w.file? p = none) (h : w.db.Consistent w.openApex) {p : String}
    (hp : w.openApex p = .ok apex) :
    wp smoothKernel (fun _ => True) (activatePackageImpl cfg apex) (fun x w' => x = .ok () ∧
      (∀ q, w'.file? q = w.file? q) ∧
      LatestRaised w.openApex apex.manifest.name (u64 apex.manifest.version) w.db w'.db) w := by
  have hpath : w.openApex apex.path = .ok apex := World.openApex_path hp ▸ hp
  unfold activatePackageImpl
  rw [hup, hboot]
  refine (wp_otherVersions readsPackages_smooth trivial).bind ?_ ?_
  case refine_2 =>
    rintro e w₁ _ ⟨he, _⟩
    cases he
  rintro found w₁ _ ⟨hfound, rfl⟩
  obtain rfl := Except.ok.inj hfound
  split
  · rename_i hactive
    obtain ⟨e, he, hep, hv, _⟩ := World.versionFoundActive_latest hactive
    exact ⟨trivial, rfl, fun _ => rfl, .same h h (fun _ _ => Iff.rfl) he hep hv le_rfl⟩
  rename_i hactive
  cases hmounted : (w₁.otherVersions apex.manifest).versionFoundMounted with
  | true =>
    obtain ⟨e, he, hep, hv⟩ := World.versionFoundMounted_iff.1 hmounted
    cases hnewest : (w₁.otherVersions apex.manifest).isNewestVersion with
    | false => exact ⟨trivial, rfl, fun _ => rfl, .same h h (fun _ _ => Iff.rfl) he hep hv le_rfl⟩
    | true =>
      -- the newest version is the latest one, so it would be active
      refine absurd (World.versionFoundActive_of_all (fun o ho hop hov => ?_) hmounted) hactive
      obtain ⟨l, hl, hlp, hlf⟩ := h.latest o ho
      obtain ⟨u, hu⟩ := h.version hl
      have hle := h.highest l hl hlf o ho hlp.symm u _ hu hov
      have hge := World.isNewestVersion_iff.1 hnewest l hl (hlp.trans hop) u hu
      obtain rfl := h.distinct l hl o ho hlp (hu.trans (le_antisymm hge hle ▸ hov.symm))
      exact hlf
  | false =>
    have hno : ∀ e ∈ w₁.db, e.package = apex.manifest.name →
        versionAt w₁.openApex e.data.fullPath ≠ some (u64 apex.manifest.version) := by
      intro e he hep hv
      rw [World.versionFoundMounted_iff.2 ⟨e, he, hep, hv⟩] at hmounted
      cases hmounted
    refine (wp_mountPackage_smooth h hp hno).bind ?_ ?_
    case refine_2 =>
      rintro e w₂ _ ⟨he, _⟩
      cases he
    rintro _ w₂ _ ⟨_, d, hd⟩
    have hdp : w₁.openApex d.fullPath = .ok apex := hd.path ▸ hpath
    cases hnewest : (w₁.otherVersions apex.manifest).isNewestVersion with
    | false =>
      have hnot : ¬ (w₁.otherVersions apex.manifest).isNewestVersion = true := by simp [hnewest]
      rw [World.isNewestVersion_iff] at hnot
      push Not at hnot
      obtain ⟨o, ho, hop, v, hv, hlt⟩ := hnot
      obtain ⟨hcons, hsame⟩ := h.add hdp hno hd.mount hd.compatible ho hop hv hlt
      rw [← hd.db] at hcons hsame
      exact ⟨trivial, rfl, hd.files, .same h hcons hsame ho hop hv hlt.le⟩
    | true =>
      have hhigh := World.isNewestVersion_iff.1 hnewest
      obtain ⟨db', hdb', hcons, hlat⟩ := h.raise hdp hno hd.mount hd.compatible hhigh
      have hbind : wp smoothKernel (fun _ => True) (bindMount (getActiveMountPoint apex.manifest)
          (getPackageMountPoint apex.manifest)) (fun x w' => w₂.Kept w' ∧ x = .ok ()) w₂ := by
        apply (wp_bindMount_smooth (below_activeMountPoint apex.manifest)
          (fun p hp => (hd.files p).trans (hfree p hp)) (World.Kept.refl w₂)).mono
        · intro _ _
          trivial
        · intro x w' hI hx
          exact ⟨hI, hx⟩
      refine wp_bind.2 (wp_mapErr.2 (hbind.imp ?_))
      rintro _ w₃ _ ⟨hkept, rfl⟩
      rw [← hd.path]
      refine wp_setLatest_smooth (by rw [hkept.db, hd.db]; exact hdb') ⟨rfl, ?_, ?_⟩
      · intro q
        exact (hkept.files q).trans (hd.files q)
      constructor
      · exact hcons
      · intro n hn u
        rw [hlat, if_neg hn]
      · exact ⟨_, (hlat _ _).2 (by rw [if_pos rfl]), le_rfl, Or.inr rfl⟩
      · intro u u' hu hu'
        rw [hlat, if_pos rfl] at hu'
        obtain ⟨l, hl, hlp, _, hv⟩ := hu
        exact hu' ▸ hhigh l hl hlp u hv

end Programs

/-! ## A directory of packages -/

/-- The package files of a directory. -/
def World.apexPaths (w : World) (dir : String) : List String :=
  match w.dirs dir with
  | none => []
  | some d =>
    (d.entries.filter fun e => isApexEntry (isPathForBuiltinApexes dir) (World.dirEntry dir e)).map
      fun e => join dir e.1

/-- The latest version of a package and those of its files among `paths`. -/
def World.CandidatesIn (w : World) (paths : List String) (name : String) : Set Nat :=
  { v | w.db.Latest w.openApex name v ∨ ∃ p ∈ paths, ∃ apex, w.openApex p = .ok apex ∧
    apex.manifest.name = name ∧ u64 apex.manifest.version = v }

/-- The latest version of a package and those of its files in a directory. -/
def World.Candidates (w : World) (dir name : String) :
    Set Nat := w.CandidatesIn (w.apexPaths dir) name

/-- The package has exactly one latest entry, whose file is of version `v`. -/
def Db.OneLatest (files : String → Except String ApexFile) (db : Db) (name : String)
    (v : Nat) : Prop :=
  ∃ l ∈ db, l.package = name ∧ l.latest = true ∧ versionAt files l.data.fullPath = some v ∧
    ∀ o ∈ db, o.package = name → o.latest = true → o = l

theorem Db.Latest.one {files : String → Except String ApexFile} {db : Db} {name : String} {v : Nat}
    (h : db.Latest files name v) (hwf : db.Wf) : db.OneLatest files name v := by
  obtain ⟨l, hl, hp, hf, hv⟩ := h
  exact ⟨l, hl, hp, hf, hv, fun o ho hop hof => hwf.eq_of_latest ho hl (hop.trans hp.symm) hof hf⟩

section Scan

variable {w w' : World} {cfg : Config} {dir : String}

theorem mem_candidatesIn_append {done : List String} {p : String} {apex : ApexFile}
    (hp : w.openApex p = .ok apex)
    {name : String} {v : Nat} : v ∈ w.CandidatesIn (done ++ [p]) name ↔
      v ∈ w.CandidatesIn done name ∨ apex.manifest.name = name ∧ u64 apex.manifest.version = v := by
  constructor
  · rintro (h | ⟨q, hq, other, ho, hn, hv⟩)
    · exact Or.inl (Or.inl h)
    · rcases List.mem_append.1 hq with hq | hq
      · exact Or.inl (Or.inr ⟨q, hq, other, ho, hn, hv⟩)
      · rw [List.mem_singleton.1 hq, hp] at ho
        cases ho
        exact Or.inr ⟨hn, hv⟩
  · rintro ((h | ⟨q, hq, h⟩) | ⟨hn, hv⟩)
    · exact Or.inl h
    · exact Or.inr ⟨q, List.mem_append_left _ hq, h⟩
    · exact Or.inr ⟨p, List.mem_append_right _ (List.mem_singleton.2 rfl), apex, hp, hn, hv⟩

/-- The state after the files `done` were looked at: the latest version of every package is the
greatest candidate among them. -/
structure Scanned (w : World) (done : List String) (w' : World) : Prop where
  files : ∀ p, w'.file? p = w.file? p
  consistent : w'.db.Consistent w.openApex
  greatest : ∀ name u, w'.db.Latest w.openApex name u → IsGreatest (w.CandidatesIn done name) u
  found : ∀ name v, v ∈ w.CandidatesIn done name → ∃ u, w'.db.Latest w.openApex name u

theorem Scanned.start (h : w.db.Consistent w.openApex) : Scanned w [] w := by
  have hmem : ∀ name v, v ∈ w.CandidatesIn [] name ↔ w.db.Latest w.openApex name v := by
    intro name v
    constructor
    · rintro (h | ⟨p, hp, _⟩)
      · exact h
      · cases hp
    · exact Or.inl
  constructor
  · exact fun _ => rfl
  · exact h
  · intro name u hu
    refine ⟨(hmem name u).2 hu, fun v hv => ?_⟩
    exact (((hmem name v).1 hv).unique h hu).le
  · intro name v hv
    exact ⟨v, (hmem name v).1 hv⟩

section Step

variable {done : List String} {p : String} {apex : ApexFile} (h : Scanned w done w')
    (hp : w.openApex p = .ok apex)

include h hp

/-- A file whose version is not above the latest one of its package. -/
theorem Scanned.skip {v : Nat} (hv : v ∈ w.CandidatesIn done apex.manifest.name)
    (hle : u64 apex.manifest.version ≤ v) : Scanned w (done ++ [p]) w' := by
  constructor
  · exact h.files
  · exact h.consistent
  · intro name u hu
    obtain ⟨hmem, hup⟩ := h.greatest name u hu
    refine ⟨(mem_candidatesIn_append hp).2 (Or.inl hmem), fun v' hv' => ?_⟩
    rcases (mem_candidatesIn_append hp).1 hv' with hv' | ⟨rfl, rfl⟩
    · exact hup hv'
    · exact hle.trans (hup hv)
  · intro name v' hv'
    rcases (mem_candidatesIn_append hp).1 hv' with hv' | ⟨rfl, rfl⟩
    · exact h.found name v' hv'
    · exact h.found _ v hv

/-- A file that was activated. -/
theorem Scanned.activate {w₂ : World} (hfiles : ∀ q, w₂.file? q = w'.file? q)
    (hr : LatestRaised w.openApex apex.manifest.name (u64 apex.manifest.version) w'.db w₂.db) :
    Scanned w (done ++ [p]) w₂ := by
  constructor
  · exact fun q => (hfiles q).trans (h.files q)
  · exact hr.consistent
  · intro name u hu
    by_cases hn : apex.manifest.name = name
    · subst hn
      obtain ⟨u', hu', hle, hu'v⟩ := hr.own
      obtain rfl := hu'.unique hr.consistent hu
      constructor
      · rcases hu'v with hold | rfl
        · exact (mem_candidatesIn_append hp).2 (Or.inl (h.greatest _ _ hold).1)
        · exact (mem_candidatesIn_append hp).2 (Or.inr ⟨rfl, rfl⟩)
      · intro v hv
        rcases (mem_candidatesIn_append hp).1 hv with hv | ⟨_, rfl⟩
        · obtain ⟨u, hold⟩ := h.found _ v hv
          exact ((h.greatest _ u hold).2 hv).trans (hr.monotone u u' hold hu')
        · exact hle
    · obtain ⟨hmem, hup⟩ := h.greatest name u ((hr.others name (Ne.symm hn) u).1 hu)
      refine ⟨(mem_candidatesIn_append hp).2 (Or.inl hmem), fun v hv => ?_⟩
      exact hup (((mem_candidatesIn_append hp).1 hv).resolve_right fun h => hn h.1)
  · intro name v hv
    by_cases hn : apex.manifest.name = name
    · obtain ⟨u, hu, _⟩ := hr.own
      exact ⟨u, hn ▸ hu⟩
    · obtain ⟨u, hu⟩ := h.found name v
        (((mem_candidatesIn_append hp).1 hv).resolve_right fun h => hn h.1)
      exact ⟨u, (hr.others name (Ne.symm hn) u).2 hu⟩

end Step

/-- What the map of active versions says of a package is its latest version. -/
theorem mem_activeVersions (h : w.db.Consistent w.openApex) {name : String} {v : Nat}
    (hv : w.activeVersions.lookup name = some v) : w.db.Latest w.openApex name v := by
  have hmem : (name, v) ∈ w.activeVersions := by
    rw [List.lookup_eq_some_iff] at hv
    obtain ⟨l₁, l₂, hl, _⟩ := hv
    rw [hl]
    simp
  unfold World.activeVersions at hmem
  obtain ⟨e, he, hev⟩ := List.mem_filterMap.1 hmem
  obtain ⟨he, hf⟩ := List.mem_filter.1 he
  obtain ⟨apex, ha, hm⟩ := h.opens e he
  rw [ha] at hev
  cases hev
  exact ⟨e, he, hm.package, hf, versionAt_ok ha⟩

/-- The listing holds the package files in some order. -/
theorem wp_findApexFilesByName_smooth (hm : w.mounted dir = none) :
    wp smoothKernel (fun _ => True) (findApexFilesByName dir (isPathForBuiltinApexes dir))
      (fun x w' => w' = w ∧ ∃ l, x = .ok l ∧ l.Perm (w.apexPaths dir)) w := by
  refine ⟨trivial, trivial, fun r w' hs => ?_⟩
  obtain ⟨l, rfl⟩ := hs.1
  obtain ⟨hl, rfl⟩ | hf := hs.2
  · unfold World.Lists at hl
    rw [hm] at hl
    cases hd : w'.dirs dir with
    | none =>
      rw [hd] at hl
      cases hl
    | some d =>
      rw [hd] at hl
      obtain ⟨es, hperm, he⟩ := hl
      obtain rfl := Except.ok.inj he
      refine ⟨trivial, rfl, _, rfl, ?_⟩
      rw [map_path_filter]
      unfold World.apexPaths
      rw [hd]
      exact (hperm.filter _).map _
  · obtain ⟨⟨e, _, he⟩, _⟩ := hf
    cases he

/-- The end of `scanAndActivateStep`: the package is to be activated. -/
def activateFound (cfg : Config) (apex : ApexFile) : ApexM Bool := do
  match ← (activatePackageImpl cfg apex).attempt with
  | .error _ => ret true
  | .ok _ => ret false

/-- One file. -/
theorem Scanned.step (hup : cfg.updatable = true) (hboot : cfg.bootstrap = false)
    (hfree : ∀ p, belowApex p → w.file? p = none) (hcons : w.db.Consistent w.openApex)
    {done : List String}
    (h : Scanned w done w') {p : String} {apex : ApexFile} (hp : w.openApex p = .ok apex) :
    wp smoothKernel (fun _ => True) (scanAndActivateLoop cfg w.activeVersions [] p)
      (fun x w₂ => x = .ok [] ∧ Scanned w (done ++ [p]) w₂) w' := by
  have hopen : w'.openApex = w.openApex := funext (World.openApex_of_files h.files)
  have hp' : w'.openApex p = .ok apex := hopen ▸ hp
  have hstep : wp smoothKernel (fun _ => True) (scanAndActivateStep cfg w.activeVersions p)
      (fun x w₂ => x = .ok false ∧ Scanned w (done ++ [p]) w₂) w' := by
    unfold scanAndActivateStep
    refine wp_bind.2 (wp_attempt.2 (wp_openApex_eq readsPackages_smooth trivial ?_))
    rw [hp']
    have hact : wp smoothKernel (fun _ => True) (activateFound cfg apex)
        (fun x w₂ => x = .ok false ∧ Scanned w (done ++ [p]) w₂) w' := by
      have hone := wp_activatePackageImpl_smooth hup hboot
        (fun p hb => (h.files p).trans (hfree p hb)) (hopen ▸ h.consistent) hp'
      refine wp_bind.2 (wp_attempt.2 (hone.imp ?_))
      rintro _ w₂ _ ⟨rfl, hfiles, hr⟩
      exact ⟨trivial, rfl, h.activate hp hfiles (hopen ▸ hr)⟩
    dsimp only [Then]
    rw [hup]
    cases hl : w.activeVersions.lookup apex.manifest.name with
    | none => exact hact
    | some version =>
      dsimp only
      split
      · rename_i hle
        exact ⟨trivial, rfl, h.skip hp (Or.inl (mem_activeVersions hcons hl))
          (of_decide_eq_true hle)⟩
      · exact hact
  refine hstep.bind ?_ ?_
  · rintro _ w₂ _ ⟨hx, hs⟩
    cases hx
    exact ⟨trivial, rfl, hs⟩
  · rintro _ _ _ ⟨hx, _⟩
    cases hx

/-- The whole scan. -/
theorem wp_scanPackagesDirAndActivate_smooth (hup : cfg.updatable = true)
    (hboot : cfg.bootstrap = false)
    (hm : w.mounted dir = none) (hfree : ∀ p, belowApex p → w.file? p = none)
    (hcons : w.db.Consistent w.openApex)
    (hopens : ∀ p ∈ w.apexPaths dir, ∃ apex, w.openApex p = .ok apex) :
    wp smoothKernel (fun _ => True) (scanPackagesDirAndActivate cfg dir)
      (fun x w' => x = .ok () ∧ w'.db.Wf ∧ ∀ name,
        (∀ u, w'.db.Latest w.openApex name u → IsGreatest (w.Candidates dir name) u) ∧
          ∀ v ∈ w.Candidates dir name, ∃ u, w'.db.Latest w.openApex name u) w := by
  unfold scanPackagesDirAndActivate
  refine wp_bind.2 (wp_mapErr.2 ((wp_findApexFilesByName_smooth hm).imp ?_))
  intro x w₁ _ ⟨hw₁, scan, hx, hperm⟩
  rw [hw₁, hx]
  refine wp_bind.2 (wp_getActivePackagesMap readsPackages_smooth trivial ?_)
  have hsame : ∀ name, w.CandidatesIn scan name = w.Candidates dir name := by
    intro name
    unfold World.Candidates World.CandidatesIn
    simp only [hperm.mem_iff]
  refine wp_bind.2 (wp_foldlM (fun rest failed w' => failed = [] ∧ ∃ done, done ++ rest = scan ∧
    Scanned w done w') scan (fun p rest failed w' _ hinv => ?_) (fun failed w' hinv => ?_)
    ⟨rfl, [], rfl, .start hcons⟩)
  · obtain ⟨rfl, done, hsplit, hs⟩ := hinv
    obtain ⟨apex, hp⟩ := hopens p (hperm.mem_iff.1 (by rw [← hsplit]; simp))
    refine (hs.step hup hboot hfree hcons hp).imp ?_
    rintro _ w₂ _ ⟨rfl, hs₂⟩
    exact ⟨rfl, done ++ [p], by simpa using hsplit, hs₂⟩
  · obtain ⟨rfl, done, hsplit, hs⟩ := hinv
    rw [List.append_nil] at hsplit
    subst hsplit
    refine ⟨trivial, trivial, rfl, hs.consistent.wf, fun name => ?_⟩
    rw [← hsame]
    exact ⟨hs.greatest name, hs.found name⟩

/-- **The latest versions after a scan are the greatest there are**, in whatever order the directory
was listed; nothing is mounted on the directory itself, and `/apex` holds no plain files. -/
theorem scanPackagesDirAndActivate_latest (hup : cfg.updatable = true)
    (hboot : cfg.bootstrap = false)
    (hm : w.mounted dir = none) (hfree : ∀ p, belowApex p → w.file? p = none)
    (hcons : w.db.Consistent w.openApex)
    (hopens : ∀ p ∈ w.apexPaths dir, ∃ apex, w.openApex p = .ok apex) :
    (∀ m k w', ¬ Reaches smoothKernel (scanPackagesDirAndActivate cfg dir) w
      (call (.abort m) k) w') ∧
    (∀ x w', Ends smoothKernel (scanPackagesDirAndActivate cfg dir) w x w' → x = .ok () ∧
      ∀ name, (w.Candidates dir name).Nonempty →
        ∃ v, IsGreatest (w.Candidates dir name) v ∧ w'.db.OneLatest w.openApex name v) ∧
    ∀ x₁ w₁ x₂ w₂, Ends smoothKernel (scanPackagesDirAndActivate cfg dir) w x₁ w₁ →
      Ends smoothKernel (scanPackagesDirAndActivate cfg dir) w x₂ w₂ →
      ∀ name v, w₁.db.OneLatest w.openApex name v ↔ w₂.db.OneLatest w.openApex name v := by
  have hwp := wp_scanPackagesDirAndActivate_smooth hup hboot hm hfree hcons hopens
  have hone : ∀ x w', Ends smoothKernel (scanPackagesDirAndActivate cfg dir) w x w' →
      ∀ name v, w'.db.OneLatest w.openApex name v ↔ IsGreatest (w.Candidates dir name) v := by
    intro x w' hx name v
    obtain ⟨_, hwf, hall⟩ := hwp.ends hx
    constructor
    · rintro ⟨l, hl, hp, hf, hv, _⟩
      exact (hall name).1 v ⟨l, hl, hp, hf, hv⟩
    · intro hg
      obtain ⟨u, hu⟩ := (hall name).2 v hg.1
      obtain rfl := ((hall name).1 u hu).unique hg
      exact hu.one hwf
  refine ⟨?_, ?_, ?_⟩
  · intro m k w' hr
    exact (hwp.reaches hr).2.1
  · intro x w' hx
    refine ⟨(hwp.ends hx).1, fun name hne => ?_⟩
    obtain ⟨v, hv⟩ := hne
    obtain ⟨u, hu⟩ := ((hwp.ends hx).2.2 name).2 v hv
    have hg := ((hwp.ends hx).2.2 name).1 u hu
    exact ⟨u, hg, (hone x w' hx name u).2 hg⟩
  · intro x₁ w₁ x₂ w₂ h₁ h₂ name v
    rw [hone x₁ w₁ h₁, hone x₂ w₂ h₂]

end Scan

/-! ## Version 3 beside version 2 -/

/-- The replies that `Sys.Smooth` allows, tested. -/
def Sys.smooth? : (c : Sys) → World → c.Res → Bool
  | .readDir _, _, r => r.isOk
  | .mkdir _ _, _, r => r = .ok ()
  | .rmdir _, _, _ => false
  | .bindMount _ _, _, r => r = .ok ()
  | .loopGetFree, w, .ok n => w.db.all fun e => e.data.loopName != loopName n
  | _, _, _ => true

theorem Sys.smooth_of_run {c : Sys} {w w' : World} {r : c.Res} (h : c.run w = some (r, w'))
    (hr : c.smooth? w r = true) : c.Smooth w r := by
  cases c with
  | openApex p => cases h; rfl
  | readDir p =>
    cases r with
    | ok l => exact ⟨l, rfl⟩
    | error e => cases hr
  | stat p =>
    cases h
    exact fun _ => rfl
  | mkdir p mode =>
    have hok : r = .ok () := of_decide_eq_true hr
    exact hok
  | rmdir p => cases hr
  | bindMount s t =>
    have hok : r = .ok () := of_decide_eq_true hr
    exact hok
  | loopGetFree =>
    rintro n rfl e he
    exact bne_iff_ne.1 (List.all_eq_true.1 hr e he)
  | _ => trivial

theorem smooth_sem (c : Sys) (w : World) (r : c.Res) (w' : World)
    (h : onlyStep Sys.run Sys.smooth? c w = some (r, w')) : smoothKernel.sem c w r w' :=
  onlyStep_sem (K := kernel _ Sys.Refused)
    (fun c w r w' hs hr => ⟨Sys.smooth_of_run hs hr, Sys.run_sem c w r w' hs⟩) c w r w' h

/-- Every file is in one of the directories of a table. -/
theorem World.file?_mem {w : World} {l : List (String × Dir)} (hw : ∀ p, w.dirs p = l.lookup p)
    {p : String} {f : File}
    (hf : w.file? p = some f) : ∃ d, (dirName p, d) ∈ l ∧ (baseName p, f) ∈ d.files := by
  obtain ⟨dir, hd, hm⟩ := World.file?_eq_some.1 hf
  rw [hw] at hd
  obtain ⟨l₁, l₂, hl, _⟩ := List.lookup_eq_some_iff.1 hd
  exact ⟨dir, by simp [hl], Dir.mem_files.2 hm⟩

/-- A table of directories in which those at and below `/apex` hold no files. -/
theorem World.noFiles_below {w : World} {l : List (String × Dir)} (hw : ∀ p, w.dirs p = l.lookup p)
    (h : ∀ e ∈ l, e.1 = kApexRoot ∨ belowApex e.1 → e.2.files = []) {p : String}
    (hp : belowApex p) : w.file? p = none := by
  rw [Option.eq_none_iff_forall_ne_some]
  intro f hf
  obtain ⟨dir, hd, hm⟩ := World.file?_mem hw hf
  rw [h (dirName p, dir) hd (dirName_below hp)] at hm
  cases hm

/-- The same directory listed the other way round. -/
def listReversed : (c : Sys) → World → Option (c.Res × World)
  | .readDir p, w => some ((w.list p).map List.reverse, w)
  | c, w => c.run w

theorem World.lists_reverse {w : World} {p : String} {r : Except Errno (List DirEntry)}
    (h : w.Lists p r) : w.Lists p (r.map List.reverse) := by
  unfold World.Lists at h ⊢
  split at h
  · obtain ⟨l, rfl, hne, hall⟩ := h
    exact ⟨l.reverse, rfl, by simpa using hne, fun e he => hall e (List.mem_reverse.1 he)⟩
  · rw [h]
    rfl
  · obtain ⟨es, hes, rfl⟩ := h
    refine ⟨es.reverse, (List.reverse_perm es).trans hes, ?_⟩
    rw [List.map_reverse]
    rfl

theorem listReversed_sem (c : Sys) (w : World) (r : c.Res) (w' : World)
    (h : onlyStep listReversed Sys.smooth? c w = some (r, w')) : smoothKernel.sem c w r w' := by
  refine onlyStep_sem (K := kernel _ Sys.Refused) (fun c w r w' hs hr => ?_) c w r w' h
  cases c with
  | readDir p =>
    cases hs
    refine ⟨?_, Or.inl ⟨World.lists_reverse (w.lists_list p), rfl⟩⟩
    cases hl : w.list p with
    | ok l => exact ⟨l.reverse, rfl⟩
    | error e =>
      rw [hl] at hr
      cases hr
  | _ => exact ⟨Sys.smooth_of_run hs hr, Sys.run_sem _ w r w' hs⟩

/-- Version 2 is mounted, and the system holds versions 3 and 4. -/
def threeVersions : World := { World.ofDirs
  [ (kApexRoot, lowerMountPoints),
    ("/apex/a@2", Dir.empty 0o755),
    ("/apex/a", Dir.empty 0o755),
    (kApexPackageSystemDir, ⟨0o755,
      [("a3.apex", .file ⟨1, .apex (soundContent (plainManifest 3 version_three))⟩),
        ("a4.apex", .file ⟨4, .apex (soundContent (plainManifest 4 (by decide)))⟩)], by
          decide, by decide⟩),
    (kActiveApexPackagesDataDir, dataApexDir) ]
  with
    mounts := lowerMounted.mounts
    loops := lowerMounted.loops
    db := lowerMounted.db }

theorem threeVersions_consistent : threeVersions.db.Consistent threeVersions.openApex := by
  have hone : ∀ e ∈ threeVersions.db,
      e = ⟨"a", ⟨"/dev/block/loop0", "/data/apex/active/a.apex", "/apex/a@2", ""⟩, true⟩ := by
    decide
  constructor
  · exact List.pairwise_singleton _ _
  · intro e he
    rw [hone e he]
    refine ⟨⟨"/data/apex/active/a.apex", false, 4096, 8192, plainManifest 2 (by decide),
      []⟩, by decide, ?_⟩
    exact ⟨rfl, by decide, Or.inl rfl⟩
  · intro e he o ho _ _
    rw [hone e he, hone o ho]
  · intro e he
    exact ⟨e, he, rfl, by rw [hone e he]⟩
  · intro l hl _ o ho _ u v hu hv
    rw [hone l hl] at hu
    rw [hone o ho, hu] at hv
    exact (Option.some.inj hv).ge

/-- A scan of the system directory, with the directory listed one way and the other. -/
def scanSystem (step : (c : Sys) → World → Option (c.Res × World)) : ApexM Unit × World :=
  runN (onlyStep step Sys.smooth?) 100
    (scanPackagesDirAndActivate deviceConfig kApexPackageSystemDir) threeVersions

/-- In either order the package has one latest version, the greatest one. -/
theorem scanPackagesDirAndActivate_latest_system :
    (scanSystem Sys.run).2.db.map (·.data.mountPoint) ≠ (scanSystem listReversed).2.db.map
    (·.data.mountPoint) ∧
      ∃ v, IsGreatest (threeVersions.Candidates kApexPackageSystemDir "a") v ∧
        (scanSystem Sys.run).2.db.OneLatest threeVersions.openApex "a" v ∧
        (scanSystem listReversed).2.db.OneLatest threeVersions.openApex "a" v := by
  have hres : (scanSystem Sys.run).1.result? = some (.ok ()) ∧ (scanSystem listReversed).1.result? =
      some (.ok ()) := by
    decide
  have hopens : ∀ p ∈ threeVersions.apexPaths kApexPackageSystemDir,
      (threeVersions.openApex p).isOk = true := by
    decide
  have hopen : ∀ p ∈ threeVersions.apexPaths kApexPackageSystemDir, ∃ apex,
      threeVersions.openApex p = .ok apex := by
    intro p hp
    have := hopens p hp
    cases ho : threeVersions.openApex p with
    | ok apex => exact ⟨apex, rfl⟩
    | error e =>
      rw [ho] at this
      cases this
  have hup : deviceConfig.updatable = true := rfl
  have hm : threeVersions.mounted kApexPackageSystemDir = none := by decide
  have hfree : ∀ p, belowApex p → threeVersions.file? p = none :=
    fun p hp => World.noFiles_below (fun _ => rfl) (by decide) hp
  obtain ⟨-, hscan, hsame⟩ :=
    scanPackagesDirAndActivate_latest hup rfl hm hfree threeVersions_consistent hopen
  have h₁ := runN_ends smooth_sem hres.1
  have h₂ := runN_ends listReversed_sem hres.2
  obtain ⟨v, hv, hone⟩ := (hscan _ _ h₁).2 "a"
    ⟨2, Or.inl ⟨_, List.mem_singleton.2 rfl, rfl, rfl, by decide⟩⟩
  exact ⟨by decide, v, hv, hone, (hsame _ _ _ _ h₁ h₂ "a" v).1 hone⟩

end Apexd
