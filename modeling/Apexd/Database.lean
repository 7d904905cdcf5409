import Apexd.Types
import Mathlib.Data.List.Pairwise
import Mathlib.Data.List.Nodup
import Mathlib.Data.Prod.Lex
import Mathlib.Data.String.Basic

/-!
# The database of mounted packages

`MountedApexDatabase` of `apex_database.h`: a map from package names to maps from
`MountedApexData` to the latest flag.  Both maps are kept here as one list of entries in
iteration order.

* `addMountedApex`, `removeMountedApex`, `setLatest` — as in the source; `none` is a failed
  `CHECK` or the `LOG(FATAL)` of `SetLatest`.
* `Db.Wf` — no two entries clash (same key, same non-empty loop or dm name, both latest in one
  package).  `addMountedApex_eq` is the condition under which adding cannot abort, and
  `emplace_wf`, `removeMountedApex_wf`, `setLatest_wf` keep `Wf`.
* `Db.Sorted` — the entries stand in iteration order; then the set of entries is the database.
-/

set_option autoImplicit false

namespace Apexd

structure MountedApexData where
  loopName : String
  fullPath : String
  mountPoint : String
  deviceName : String
  deriving DecidableEq

/-- `operator<`: by loop name, then path, then mount point, then device name. -/
def MountedApexData.lt (a b : MountedApexData) : Bool :=
  if a.loopName < b.loopName then true
  else if b.loopName < a.loopName then false
  else if a.fullPath < b.fullPath then true
  else if b.fullPath < a.fullPath then false
  else if a.mountPoint < b.mountPoint then true
  else if b.mountPoint < a.mountPoint then false
  else decide (a.deviceName < b.deviceName)

structure Entry where
  package : String
  data : MountedApexData
  latest : Bool
  deriving DecidableEq

/-- The order in which the two nested maps are walked. -/
def Entry.before (a b : Entry) : Bool :=
  if a.package < b.package then true
  else if b.package < a.package then false
  else a.data.lt b.data

/-- `mounted_apexes_`. -/
abbrev Db := List Entry

namespace Db

/-- `emplace` of a key that is not there yet. -/
def emplace (e : Entry) : Db → Db
  | [] => [e]
  | x :: xs => if e.before x then e :: x :: xs else x :: emplace e xs

def has (db : Db) (package : String) (data : MountedApexData) : Bool :=
  db.any fun e => e.package == package && e.data == data

/-- `CheckAtMostOneLatest`: in every package at most one entry is flagged. -/
def checkAtMostOneLatest (db : Db) : Bool :=
  db.all fun e => decide (db.countP (fun x => x.package == e.package && x.latest) ≤ 1)

/-- `CheckUniqueLoopDm`: no non-empty loop name and no non-empty dm name occurs twice. -/
def checkUniqueLoopDm (db : Db) : Bool :=
  decide ((db.map (·.data.loopName)).filter (· != "")).Nodup &&
    decide ((db.map (·.data.deviceName)).filter (· != "")).Nodup

/-- `AddMountedApex`; `none` when a `CHECK` fails. -/
def addMountedApex (db : Db) (package : String) (latest : Bool) (data : MountedApexData) :
    Option Db :=
  if db.has package data then none else
  let db' := db.emplace ⟨package, data, latest⟩
  if db'.checkAtMostOneLatest && db'.checkUniqueLoopDm then some db' else none

/-- `RemoveMountedApex`: the first entry of the package with that path. -/
def removeMountedApex (db : Db) (package fullPath : String) : Db :=
  db.eraseP fun e => e.package == package && e.data.fullPath == fullPath

/-- `SetLatest`: flag the first entry of the package with that path and no other one of the
package; `none` when there is none. -/
def setLatest (db : Db) (package fullPath : String) : Option Db :=
  match db.find? fun e => e.package == package && e.data.fullPath == fullPath with
  | none => none
  | some hit => some (db.map fun e =>
      if e.package == package then { e with latest := e.data == hit.data } else e)

/-- `ForallMountedApexes(package, handler)`: what the handler is called with. -/
def forallMountedApexes (db : Db) (package : String) :
    List Entry := db.filter fun e => e.package == package

/-! ## Entries that do not clash -/

/-- Two entries that may stand in one database. -/
structure Compatible (a b : Entry) : Prop where
  key : a.package = b.package → a.data ≠ b.data
  loop : a.data.loopName ≠ "" → a.data.loopName ≠ b.data.loopName
  device : a.data.deviceName ≠ "" → a.data.deviceName ≠ b.data.deviceName
  latest : a.package = b.package → ¬ (a.latest = true ∧ b.latest = true)

theorem Compatible.symm {a b : Entry} (h : Compatible a b) : Compatible b a where
  key := fun hp he => h.key hp.symm he.symm
  loop := fun hb he => h.loop (he ▸ hb) he.symm
  device := fun hb he => h.device (he ▸ hb) he.symm
  latest := fun hp hl => h.latest hp.symm hl.symm

instance : Std.Symm Compatible := ⟨fun _ _ h => h.symm⟩

/-- No two entries clash. -/
def Wf (db : Db) : Prop := db.Pairwise Compatible

theorem emplace_perm (e : Entry) (db : Db) : (db.emplace e).Perm (e :: db) := by
  induction db with
  | nil => exact List.Perm.refl _
  | cons x xs ih =>
    unfold emplace
    split
    · exact List.Perm.refl _
    · exact (ih.cons x).trans (List.Perm.swap e x xs)

theorem mem_emplace {e x : Entry} {db : Db} : x ∈ db.emplace e ↔ x = e ∨ x ∈ db := by
  rw [(emplace_perm e db).mem_iff, List.mem_cons]

theorem emplace_wf {e : Entry} {db : Db} :
    (db.emplace e).Wf ↔ (∀ x ∈ db, Compatible e x) ∧ db.Wf := by
  unfold Wf
  rw [(emplace_perm e db).pairwise_iff fun h => Compatible.symm h, List.pairwise_cons]

theorem Wf.eq_of_key {db : Db} (h : db.Wf) {a b : Entry} (ha : a ∈ db) (hb : b ∈ db)
    (hp : a.package = b.package) (hd : a.data = b.data) : a = b := by
  by_contra hab
  exact (List.Pairwise.forall h ha hb hab).key hp hd

theorem Wf.eq_of_latest {db : Db} (h : db.Wf) {a b : Entry} (ha : a ∈ db) (hb : b ∈ db)
    (hp : a.package = b.package) (hla : a.latest = true) (hlb : b.latest = true) : a = b := by
  by_contra hab
  exact (List.Pairwise.forall h ha hb hab).latest hp ⟨hla, hlb⟩

theorem nodup_filter_map {α : Type} {f : α → String} {l : List α}
    (h : l.Pairwise fun a b => f a ≠ "" → f a ≠ f b) : ((l.map f).filter (· != "")).Nodup := by
  rw [List.nodup_iff_pairwise_ne, List.pairwise_filter, List.pairwise_map]
  exact h.imp fun h ha _ => h (by simpa using ha)

/-- The two checks of the source succeed on a database without clashes. -/
theorem Wf.checks {db : Db} (h : db.Wf) :
    (db.checkAtMostOneLatest && db.checkUniqueLoopDm) = true := by
  rw [Bool.and_eq_true]
  constructor
  · unfold checkAtMostOneLatest
    rw [List.all_eq_true]
    intro e _
    rw [decide_eq_true_eq, List.countP_eq_length_filter]
    by_contra hlt
    rw [not_le] at hlt
    -- two flagged entries of one package would clash
    match hf : db.filter fun x => x.package == e.package && x.latest with
    | [] => rw [hf] at hlt; simp at hlt
    | [_] => rw [hf] at hlt; simp at hlt
    | a :: b :: rest =>
      have hp := List.Pairwise.filter (fun x => x.package == e.package && x.latest) h
      have ha : a ∈ db.filter fun x => x.package == e.package && x.latest := by rw [hf]; simp
      have hb : b ∈ db.filter fun x => x.package == e.package && x.latest := by rw [hf]; simp
      rw [hf, List.pairwise_cons] at hp
      simp only [List.mem_filter, Bool.and_eq_true, beq_iff_eq] at ha hb
      exact (hp.1 b List.mem_cons_self).latest (ha.2.1.trans hb.2.1.symm) ⟨ha.2.2, hb.2.2⟩
  · unfold checkUniqueLoopDm
    rw [Bool.and_eq_true, decide_eq_true_eq, decide_eq_true_eq]
    exact ⟨nodup_filter_map (h.imp fun h => h.loop), nodup_filter_map (h.imp fun h => h.device)⟩

theorem has_eq_false {db : Db} {package : String} {data : MountedApexData} :
    db.has package data = false ↔ ∀ e ∈ db, e.package = package → e.data ≠ data := by
  unfold has
  rw [List.any_eq_false]
  simp

/-- **Adding a compatible entry never aborts.** -/
theorem addMountedApex_eq {db : Db} (h : db.Wf) {package : String} {latest : Bool}
    {data : MountedApexData} (hc : ∀ x ∈ db, Compatible ⟨package, data, latest⟩ x) :
    db.addMountedApex package latest data = some (db.emplace ⟨package, data, latest⟩) := by
  have hno : db.has package data = false :=
    has_eq_false.2 fun e he hp hd => (hc e he).key hp.symm hd.symm
  unfold addMountedApex
  rw [hno]
  simp [(emplace_wf.2 ⟨hc, h⟩).checks]

/-- What `AddMountedApex` does when it succeeds. -/
theorem addMountedApex_eq_some {db db' : Db} {package : String} {latest : Bool}
    {data : MountedApexData}
    (h : db.addMountedApex package latest data = some db') :
    db' = db.emplace ⟨package, data, latest⟩ := by
  unfold addMountedApex at h
  split at h
  · cases h
  · dsimp only at h
    split at h
    · exact (Option.some.inj h).symm
    · cases h

theorem removeMountedApex_sublist (db : Db) (package fullPath : String) :
    (db.removeMountedApex package fullPath).Sublist db := List.eraseP_sublist

theorem removeMountedApex_wf {db : Db} (h : db.Wf) (package fullPath : String) :
    (db.removeMountedApex package fullPath).Wf :=
  List.Pairwise.sublist (removeMountedApex_sublist db package fullPath) h

theorem setLatest_isSome {db : Db} {package fullPath : String} :
    (db.setLatest package fullPath).isSome ↔
      ∃ e ∈ db, e.package = package ∧ e.data.fullPath = fullPath := by
  unfold setLatest
  split
  · rename_i hf
    rw [List.find?_eq_none] at hf
    simpa using hf
  · rename_i hit hf
    have hm := List.mem_of_find?_eq_some hf
    have hp := List.find?_some hf
    simp only [Bool.and_eq_true, beq_iff_eq] at hp
    simp only [Option.isSome_some, true_iff]
    exact ⟨hit, hm, hp⟩

/-- What `SetLatest` does when it succeeds. -/
theorem setLatest_eq_some {db db' : Db} {package fullPath : String}
    (h : db.setLatest package fullPath = some db') :
    ∃ hit ∈ db, hit.package = package ∧ hit.data.fullPath = fullPath ∧
      db' = db.map fun e =>
        if e.package == package then { e with latest := e.data == hit.data } else e := by
  unfold setLatest at h
  split at h
  · cases h
  · rename_i hit hf
    have hp := List.find?_some hf
    simp only [Bool.and_eq_true, beq_iff_eq] at hp
    cases h
    exact ⟨hit, List.mem_of_find?_eq_some hf, hp.1, hp.2, rfl⟩

theorem setLatest_wf {db db' : Db} (h : db.Wf) {package fullPath : String}
    (hs : db.setLatest package fullPath = some db') : db'.Wf := by
  obtain ⟨hit, _, _, _, rfl⟩ := setLatest_eq_some hs
  unfold Wf
  rw [List.pairwise_map]
  refine List.Pairwise.imp ?_ h
  intro a b hab
  have hkey : ∀ x : Entry,
      (if x.package == package then { x with latest := x.data == hit.data } else x).package =
        x.package ∧
      (if x.package == package then { x with latest := x.data == hit.data } else x).data =
          x.data := by
    intro x; split <;> exact ⟨rfl, rfl⟩
  refine ⟨?_, ?_, ?_, ?_⟩
  · rw [(hkey a).1, (hkey b).1, (hkey a).2, (hkey b).2]; exact hab.key
  · rw [(hkey a).2, (hkey b).2]; exact hab.loop
  · rw [(hkey a).2, (hkey b).2]; exact hab.device
  · rw [(hkey a).1, (hkey b).1]
    intro hp
    by_cases ha : a.package = package
    · -- both flags compare the entry's data with the same hit
      have hb : b.package = package := hp ▸ ha
      simp only [ha, hb, beq_self_eq_true, if_true, beq_iff_eq]
      rintro ⟨h1, h2⟩
      exact hab.key hp (h1.trans h2.symm)
    · have hb : ¬ b.package = package := hp ▸ ha
      simp only [beq_iff_eq, ha, hb, if_false]
      exact hab.latest hp

/-- The entries after a new one has become the latest of its package. -/
theorem mem_setLatest_emplace {db db' : Db} {package : String} {data : MountedApexData}
    (hnew : ∀ e ∈ db, e.package = package → e.data.fullPath ≠ data.fullPath)
    (h : (db.emplace ⟨package, data, false⟩).setLatest package data.fullPath = some db')
    {x : Entry} : x ∈ db' ↔ x = ⟨package, data, true⟩ ∨ (x ∈ db ∧ x.package ≠ package) ∨
      ∃ e ∈ db, e.package = package ∧ x = { e with latest := false } := by
  obtain ⟨hit, hmem, hpkg, hpath, rfl⟩ := setLatest_eq_some h
  have hdata : hit.data = data := by
    rcases mem_emplace.1 hmem with rfl | hmem
    · rfl
    · exact absurd hpath (hnew hit hmem hpkg)
  have hne : ∀ e ∈ db, e.package = package → (e.data == data) = false := by
    intro e he hp
    rw [beq_eq_false_iff_ne]
    rintro rfl
    exact hnew e he hp rfl
  rw [hdata, List.mem_map]
  constructor
  · rintro ⟨e, he, rfl⟩
    rcases mem_emplace.1 he with rfl | he
    · exact Or.inl (by simp)
    by_cases hp : e.package = package
    · rw [if_pos (beq_iff_eq.2 hp), hne e he hp]
      exact Or.inr (Or.inr ⟨e, he, hp, rfl⟩)
    · rw [if_neg fun hb => hp (beq_iff_eq.1 hb)]
      exact Or.inr (Or.inl ⟨he, hp⟩)
  · rintro (rfl | ⟨hx, hp⟩ | ⟨e, he, hp, rfl⟩)
    · exact ⟨_, mem_emplace.2 (Or.inl rfl), by simp⟩
    · exact ⟨x, mem_emplace.2 (Or.inr hx), if_neg fun hb => hp (beq_iff_eq.1 hb)⟩
    · refine ⟨e, mem_emplace.2 (Or.inr he), ?_⟩
      rw [if_pos (beq_iff_eq.2 hp), hne e he hp]

/-! ## Iteration order -/

theorem ite_lt_iff {x y : String} {r : Bool} :
    (if x < y then true else if y < x then false else r) = true ↔ x < y ∨ x = y ∧ r = true := by
  rcases lt_trichotomy x y with h | rfl | h
  · simp only [h, if_true, true_or]
  · simp only [lt_irrefl, if_false, false_or, true_and]
  · simp only [h.not_gt, h, if_false, if_true, h.ne', false_and, or_self, Bool.false_eq_true]

/-- What `Entry.before` compares. -/
def orderKey (e : Entry) : String ×ₗ (String ×ₗ (String ×ₗ (String ×ₗ String))) :=
  toLex (e.package, toLex (e.data.loopName, toLex (e.data.fullPath,
    toLex (e.data.mountPoint, e.data.deviceName))))

theorem before_iff {a b : Entry} : a.before b = true ↔ orderKey a < orderKey b := by
  unfold Entry.before MountedApexData.lt orderKey
  rw [ite_lt_iff, ite_lt_iff, ite_lt_iff, ite_lt_iff, decide_eq_true_eq]
  simp only [Prod.Lex.toLex_lt_toLex]

theorem orderKey_eq {a b : Entry} (h : orderKey a = orderKey b) :
    a.package = b.package ∧ a.data = b.data := by
  obtain ⟨pa, ⟨la, fa, ma, da⟩, _⟩ := a
  obtain ⟨pb, ⟨lb, fb, mb, db⟩, _⟩ := b
  simp only [orderKey, EmbeddingLike.apply_eq_iff_eq, Prod.mk.injEq] at h
  obtain ⟨rfl, rfl, rfl, rfl, rfl⟩ := h
  exact ⟨rfl, rfl⟩

/-- The entries stand in iteration order. -/
def Sorted (db : Db) : Prop := db.Pairwise fun a b => orderKey a < orderKey b

theorem emplace_sorted {e : Entry} {db : Db} (h : db.Sorted)
    (hnew : ∀ x ∈ db, e.package = x.package → e.data ≠ x.data) : (db.emplace e).Sorted := by
  unfold Sorted at h ⊢
  induction db with
  | nil => exact List.pairwise_singleton _ _
  | cons x xs ih =>
    obtain ⟨hx, hxs⟩ := List.pairwise_cons.1 h
    unfold emplace
    split
    · rename_i hb
      have hb := before_iff.1 hb
      refine List.pairwise_cons.2 ⟨fun y hy => ?_, h⟩
      rcases List.mem_cons.1 hy with rfl | hy
      · exact hb
      · exact hb.trans (hx y hy)
    · rename_i hb
      have hlt : orderKey x < orderKey e := by
        rcases lt_trichotomy (orderKey x) (orderKey e) with hlt | heq | hgt
        · exact hlt
        · obtain ⟨hp, hd⟩ := orderKey_eq heq
          exact absurd hd.symm (hnew x List.mem_cons_self hp.symm)
        · exact absurd (before_iff.2 hgt) hb
      refine List.pairwise_cons.2
        ⟨fun y hy => ?_, ih hxs fun y hy => hnew y (List.mem_cons_of_mem _ hy)⟩
      rcases mem_emplace.1 hy with rfl | hy
      · exact hlt
      · exact hx y hy

theorem setLatest_sorted {db db' : Db} (h : db.Sorted) {package fullPath : String}
    (hs : db.setLatest package fullPath = some db') : db'.Sorted := by
  obtain ⟨hit, _, _, _, rfl⟩ := setLatest_eq_some hs
  unfold Sorted
  rw [List.pairwise_map]
  have hkey : ∀ x : Entry, orderKey
      (if x.package == package then { x with latest := x.data == hit.data } else x) =
          orderKey x := by
    intro x
    split <;> rfl
  refine List.Pairwise.imp ?_ h
  intro a b hab
  rwa [hkey, hkey]

/-- Two databases with the same entries are the same. -/
theorem Sorted.eq_of_perm {db db' : Db} (h : db.Sorted) (h' : db'.Sorted) (hp : db.Perm db') :
    db = db' :=
  hp.eq_of_pairwise (fun _ _ _ _ hab hba => absurd hba hab.not_gt) h h'

end Db

end Apexd
