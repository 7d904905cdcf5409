import Apexd.Database
import Apexd.Lib.OrderedMap

/-!
# Runs of the database

The four calls that change a `MountedApexDatabase`, and what holds after every sequence of them.

* `mountedApexData_order` — `MountedApexData.lt` is a strict total order, so no two entries of a map
  are merged and none is kept twice.
* `Db.wf_run` — the entries never clash; `Db.run_spec` says when the calls abort, what they leave
  and that the other packages keep their entries.
-/

set_option autoImplicit false

namespace Apexd

/-! ## The order of the entries -/

/-- What `MountedApexData.lt` compares. -/
def MountedApexData.key (d : MountedApexData) : String ×ₗ (String ×ₗ (String ×ₗ String)) :=
  toLex (d.loopName, toLex (d.fullPath, toLex (d.mountPoint, d.deviceName)))

theorem MountedApexData.lt_iff {a b : MountedApexData} : a.lt b = true ↔ a.key < b.key := by
  unfold MountedApexData.lt MountedApexData.key
  rw [Db.ite_lt_iff, Db.ite_lt_iff, Db.ite_lt_iff, decide_eq_true_eq]
  simp only [Prod.Lex.toLex_lt_toLex]

theorem MountedApexData.key_injective : Function.Injective MountedApexData.key := by
  intro a b h
  obtain ⟨la, fa, ma, da⟩ := a
  obtain ⟨lb, fb, mb, db⟩ := b
  simp only [MountedApexData.key, EmbeddingLike.apply_eq_iff_eq, Prod.mk.injEq] at h
  obtain ⟨rfl, rfl, rfl, rfl⟩ := h
  rfl

instance : IsStrictTotalOrder MountedApexData fun a b => a.lt b = true where
  irrefl a := by
    rw [MountedApexData.lt_iff]
    exact lt_irrefl _
  trans a b c hab hbc := by
    rw [MountedApexData.lt_iff] at hab hbc ⊢
    exact hab.trans hbc
  trichotomous a b hab hba := by
    rw [MountedApexData.lt_iff, not_lt] at hab hba
    exact MountedApexData.key_injective (le_antisymm hba hab)

/-- **`operator<` is a strict total order**, and a map with it keeps every key once. -/
theorem mountedApexData_order :
    (∀ a : MountedApexData, ¬ a.lt a = true) ∧
    (∀ a b c : MountedApexData, a.lt b = true → b.lt c = true → a.lt c = true) ∧
    (∀ a b : MountedApexData,
      (a.lt b = true ∧ ¬ b.lt a = true ∧ a ≠ b) ∨ (¬ a.lt b = true ∧ b.lt a = true ∧ a ≠ b) ∨
        (¬ a.lt b = true ∧ ¬ b.lt a = true ∧ a = b)) ∧
    ∀ l : List (MountedApexData × Bool),
      ((OrderedMap.emplaceAll MountedApexData.lt l).map Prod.fst).Nodup ∧
        ∀ d, d ∈ (OrderedMap.emplaceAll MountedApexData.lt l).map Prod.fst ↔
          d ∈ l.map Prod.fst := by
  have hirr : ∀ a : MountedApexData, ¬ a.lt a = true :=
    irrefl_of fun a b : MountedApexData => a.lt b = true
  have htrans : ∀ a b c : MountedApexData, a.lt b = true → b.lt c = true → a.lt c = true :=
      fun _ _ _ hab hbc =>
    trans_of (fun a b : MountedApexData => a.lt b = true) hab hbc
  refine ⟨hirr, htrans, fun a b => ?_, OrderedMap.emplaceAll_keys⟩
  by_cases hab : a.lt b = true
  · have hba : ¬ b.lt a = true := fun hba => hirr a (htrans a b a hab hba)
    refine Or.inl ⟨hab, hba, ?_⟩
    rintro rfl
    exact hba hab
  · by_cases hba : b.lt a = true
    · refine Or.inr (Or.inl ⟨hab, hba, ?_⟩)
      rintro rfl
      exact hab hba
    · exact Or.inr (Or.inr ⟨hab, hba, @OrderedMap.eq_of_not_lt _ MountedApexData.lt _ a b hab hba⟩)

namespace Db

/-! ## The calls -/

/-- `UnsetLatestForall`. -/
def unsetLatestForall (db : Db) (package : String) : Db :=
  db.map fun e => if e.package == package then { e with latest := false } else e

/-- A call that changes the database. -/
inductive Op
  | addMountedApex (package : String) (latest : Bool) (data : MountedApexData)
  | removeMountedApex (package fullPath : String)
  | setLatest (package fullPath : String)
  | unsetLatestForall (package : String)

/-- The package a call is about. -/
def Op.package : Op → String
  | .addMountedApex package _ _ => package
  | .removeMountedApex package _ => package
  | .setLatest package _ => package
  | .unsetLatestForall package => package

/-- One call; `none` when it aborts. -/
def Op.exec (db : Db) : Op → Option Db
  | .addMountedApex package latest data => db.addMountedApex package latest data
  | .removeMountedApex package fullPath => some (db.removeMountedApex package fullPath)
  | .setLatest package fullPath => db.setLatest package fullPath
  | .unsetLatestForall package => some (db.unsetLatestForall package)

/-- The calls one after the other on an empty database. -/
def run (ops : List Op) : Option Db := ops.foldlM Op.exec []

/-! ## Nothing clashes -/

theorem unsetLatestForall_wf {db : Db} (h : db.Wf) (package : String) :
    (db.unsetLatestForall package).Wf := by
  unfold Wf unsetLatestForall
  rw [List.pairwise_map]
  refine List.Pairwise.imp ?_ h
  intro a b hab
  have hdata : ∀ x : Entry,
      (if x.package == package then { x with latest := false } else x).data = x.data := by
    intro x
    split <;> rfl
  have hpkg : ∀ x : Entry, (if x.package == package then { x with latest := false } else
      x).package = x.package := by
    intro x
    split <;> rfl
  have hlatest : ∀ x : Entry,
      (if x.package == package then { x with latest := false } else x).latest = true →
          x.latest = true := by
    intro x
    split <;> simp
  constructor
  · rw [hpkg, hpkg, hdata, hdata]
    exact hab.key
  · rw [hdata, hdata]
    exact hab.loop
  · rw [hdata, hdata]
    exact hab.device
  · rw [hpkg, hpkg]
    intro hp hl
    exact hab.latest hp ⟨hlatest a hl.1, hlatest b hl.2⟩

/-- The checks of `AddMountedApex` after the insertion say that the new entry clashes with none. -/
theorem compatible_of_checks {db : Db} {e : Entry}
    (hkey : ∀ x ∈ db, e.package = x.package → e.data ≠ x.data)
    (hlatest : (db.emplace e).checkAtMostOneLatest = true)
    (hunique : (db.emplace e).checkUniqueLoopDm = true) : ∀ x ∈ db, Compatible e x := by
  intro x hx
  unfold checkUniqueLoopDm at hunique
  rw [Bool.and_eq_true, decide_eq_true_eq, decide_eq_true_eq] at hunique
  -- both name lists are those of the old entries with the new name in front, in another order
  have hnew : ∀ f : Entry → String, (((db.emplace e).map f).filter (· != "")).Nodup → f e ≠ "" →
      f e ≠ f x := by
    intro f hf hne heq
    rw [(((emplace_perm e db).map f).filter _).nodup_iff, List.map_cons,
      List.filter_cons_of_pos (by simpa using hne), List.nodup_cons] at hf
    refine hf.1 (List.mem_filter.2 ⟨?_, by simpa using hne⟩)
    rw [heq]
    exact List.mem_map_of_mem hx
  constructor
  · exact hkey x hx
  · exact hnew (·.data.loopName) hunique.1
  · exact hnew (·.data.deviceName) hunique.2
  · intro hp hl
    unfold checkAtMostOneLatest at hlatest
    rw [List.all_eq_true] at hlatest
    have hcount := hlatest e (mem_emplace.2 (Or.inl rfl))
    rw [decide_eq_true_eq, (emplace_perm e db).countP_eq,
      List.countP_cons_of_pos (by simpa using hl.1)] at hcount
    have hpos : 0 < db.countP fun x => x.package == e.package && x.latest :=
      List.countP_pos_iff.2 ⟨x, hx, by simpa using ⟨hp.symm, hl.2⟩⟩
    omega

/-- **When `AddMountedApex` aborts.** -/
theorem addMountedApex_eq_none {db : Db} (h : db.Wf) {package : String} {latest : Bool}
    {data : MountedApexData} :
    db.addMountedApex package latest data = none ↔ ∃ x ∈ db,
      ¬ Compatible ⟨package, data, latest⟩ x := by
  constructor
  · intro hnone
    by_contra hno
    have hall : ∀ x ∈ db, Compatible ⟨package, data, latest⟩ x := fun x hx =>
      not_not.1 fun hc => hno ⟨x, hx, hc⟩
    rw [addMountedApex_eq h hall] at hnone
    cases hnone
  · rintro ⟨x, hx, hc⟩
    unfold addMountedApex
    split
    · rfl
    · rename_i hhas
      dsimp only
      rw [if_neg]
      intro hchecks
      rw [Bool.and_eq_true] at hchecks
      apply hc
      refine compatible_of_checks ?_ hchecks.1 hchecks.2 x hx
      intro y hy hp hd
      exact has_eq_false.1 (Bool.eq_false_iff.2 hhas) y hy hp.symm hd.symm

theorem exec_wf {db db' : Db} (h : db.Wf) {op : Op} (hop : op.exec db = some db') : db'.Wf := by
  cases op with
  | addMountedApex package latest data =>
    have hcompat : ∀ x ∈ db, Compatible ⟨package, data, latest⟩ x := by
      intro x hx
      by_contra hc
      have hnone : db.addMountedApex package latest data = none :=
        (addMountedApex_eq_none h).2 ⟨x, hx, hc⟩
      rw [Op.exec, hnone] at hop
      cases hop
    rw [addMountedApex_eq_some hop]
    exact emplace_wf.2 ⟨hcompat, h⟩
  | removeMountedApex package fullPath =>
    cases hop
    exact removeMountedApex_wf h package fullPath
  | setLatest package fullPath => exact setLatest_wf h hop
  | unsetLatestForall package =>
    cases hop
    exact unsetLatestForall_wf h package

theorem wf_run {ops : List Op} {db : Db} (h : run ops = some db) : db.Wf := by
  have hall : ∀ (ops : List Op) (start : Db), start.Wf →
      ops.foldlM Op.exec start = some db → db.Wf := by
    intro ops
    induction ops with
    | nil =>
      intro start hw h
      cases h
      exact hw
    | cons op rest ih =>
      intro start hw h
      rw [List.foldlM_cons] at h
      obtain ⟨next, hnext, hrest⟩ := Option.bind_eq_some_iff.1 h
      exact ih next (exec_wf hw hnext) hrest
  exact hall ops [] List.Pairwise.nil h

theorem Wf.one_latest {db : Db} (h : db.Wf) (package : String) :
    (db.filter fun e => e.package == package && e.latest).length ≤ 1 := by
  have hcheck := h.checks
  rw [Bool.and_eq_true] at hcheck
  have hlatest := hcheck.1
  unfold checkAtMostOneLatest at hlatest
  rw [List.all_eq_true] at hlatest
  match hf : db.filter fun e => e.package == package && e.latest with
  | [] => simp [hf]
  | e :: rest =>
    have he : e ∈ db.filter fun e => e.package == package && e.latest := by
      rw [hf]
      exact List.mem_cons_self
    simp only [List.mem_filter, Bool.and_eq_true, beq_iff_eq] at he
    have hcount := hlatest e he.1
    rwa [decide_eq_true_eq, List.countP_eq_length_filter, he.2.1] at hcount

/-! ## What a call leaves -/

theorem forallMountedApexes_map {db : Db} {package q : String} {f : Entry → Entry}
    (hpkg : ∀ e, (f e).package = e.package) (hf : ∀ e, e.package ≠ package → f e = e)
    (hq : q ≠ package) : forallMountedApexes (db.map f) q = db.forallMountedApexes q := by
  unfold forallMountedApexes
  induction db with
  | nil => rfl
  | cons e rest ih =>
    rw [List.map_cons, List.filter_cons, List.filter_cons, ih, hpkg]
    split
    · rename_i heq
      rw [hf e]
      intro hp
      exact hq ((beq_iff_eq.1 heq).symm.trans hp)
    · rfl

theorem forallMountedApexes_emplace {db : Db} {e : Entry} {q : String} (hq : q ≠ e.package) :
    (db.emplace e).forallMountedApexes q = db.forallMountedApexes q := by
  have he : ¬ (e.package == q) = true := by simpa using hq.symm
  unfold forallMountedApexes
  induction db with
  | nil => simpa [emplace] using hq.symm
  | cons x rest ih =>
    unfold emplace
    split
    · exact List.filter_cons_of_neg he
    · rw [List.filter_cons, List.filter_cons, ih]

theorem forallMountedApexes_removeMountedApex {db : Db} {package fullPath q : String}
    (hq : q ≠ package) :
    (db.removeMountedApex package fullPath).forallMountedApexes q = db.forallMountedApexes q := by
  unfold forallMountedApexes removeMountedApex
  induction db with
  | nil => rfl
  | cons x rest ih =>
    cases hx : (x.package == package && x.data.fullPath == fullPath) with
    | true =>
      rw [List.eraseP_cons_of_pos (by simpa using hx), List.filter_cons_of_neg]
      rw [Bool.and_eq_true, beq_iff_eq] at hx
      simpa [hx.1] using hq.symm
    | false =>
      rw [List.eraseP_cons_of_neg (by simpa using hx), List.filter_cons, List.filter_cons, ih]

/-- **A call changes the entries of its own package only.** -/
theorem exec_others {db db' : Db} {op : Op} (hop : op.exec db = some db') {q : String}
    (hq : q ≠ op.package) : db'.forallMountedApexes q = db.forallMountedApexes q := by
  cases op with
  | addMountedApex package latest data =>
    rw [addMountedApex_eq_some hop]
    exact forallMountedApexes_emplace hq
  | removeMountedApex package fullPath =>
    cases hop
    exact forallMountedApexes_removeMountedApex hq
  | setLatest package fullPath =>
    obtain ⟨hit, -, -, -, rfl⟩ := setLatest_eq_some hop
    refine @forallMountedApexes_map db package q _ ?_ ?_ hq
    · intro e
      split <;> rfl
    · intro e he
      rw [if_neg (by simpa using he)]
  | unsetLatestForall package =>
    cases hop
    refine @forallMountedApexes_map db package q _ ?_ ?_ hq
    · intro e
      split <;> rfl
    · intro e he
      rw [if_neg (by simpa using he)]

/-- The entry that `SetLatest` flags is the only flagged one of its package. -/
theorem setLatest_flagged {db db' : Db} (h : db.Wf) {package fullPath : String}
    (hs : db.setLatest package fullPath = some db') :
    ∃ e, e.data.fullPath = fullPath ∧
      db'.filter (fun e => e.package == package && e.latest) = [e] := by
  have hone := (setLatest_wf h hs).one_latest package
  obtain ⟨hit, hmem, hp, hpath, rfl⟩ := setLatest_eq_some hs
  have hflag : { hit with latest := true } ∈
      (db.map fun e => if e.package == package then { e with latest := e.data == hit.data }
        else e).filter fun e => e.package == package && e.latest := by
    rw [List.mem_filter]
    refine ⟨List.mem_map.2 ⟨hit, hmem, ?_⟩, by simpa using hp⟩
    simp [hp]
  match hf : (db.map fun e => if e.package == package then { e with latest := e.data == hit.data }
    else e).filter
      fun e => e.package == package && e.latest with
  | [] =>
    rw [hf] at hflag
    cases hflag
  | [e] =>
    rw [hf, List.mem_singleton] at hflag
    exact ⟨e, hflag ▸ hpath, hf⟩
  | _ :: _ :: _ =>
    rw [hf] at hone
    simp at hone

theorem setLatest_eq_none {db : Db} {package fullPath : String} :
    db.setLatest package fullPath = none ↔ ¬ ∃ e ∈ db, e.package = package ∧
      e.data.fullPath = fullPath := by
  rw [← setLatest_isSome, Option.not_isSome_iff_eq_none]

/-- The ways in which a new entry clashes with one that is there. -/
theorem not_compatible_iff {db : Db} {package : String} {latest : Bool} {data : MountedApexData} :
    (∃ x ∈ db, ¬ Compatible ⟨package, data, latest⟩ x) ↔
      (∃ x ∈ db, x.package = package ∧ x.data = data) ∨
      (latest = true ∧ ∃ x ∈ db, x.package = package ∧ x.latest = true) ∨
      (data.loopName ≠ "" ∧ ∃ x ∈ db, x.data.loopName = data.loopName) ∨
      (data.deviceName ≠ "" ∧ ∃ x ∈ db, x.data.deviceName = data.deviceName) := by
  constructor
  · rintro ⟨x, hx, hc⟩
    by_contra hno
    simp only [not_or, not_and, not_exists] at hno
    obtain ⟨hkey, hlatest, hloop, hdevice⟩ := hno
    apply hc
    constructor
    · exact fun hp hd => hkey x hx hp.symm hd.symm
    · exact fun hne heq => hloop hne x hx heq.symm
    · exact fun hne heq => hdevice hne x hx heq.symm
    · exact fun hp hl => hlatest hl.1 x hx hp.symm hl.2
  · rintro (⟨x, hx, hp, hd⟩ | ⟨hl, x, hx, hp, hlx⟩ | ⟨hne, x, hx, heq⟩ | ⟨hne, x, hx, heq⟩)
    · exact ⟨x, hx, fun hc => hc.key hp.symm hd.symm⟩
    · exact ⟨x, hx, fun hc => hc.latest hp.symm ⟨hl, hlx⟩⟩
    · exact ⟨x, hx, fun hc => hc.loop hne heq.symm⟩
    · exact ⟨x, hx, fun hc => hc.device hne heq.symm⟩

/-- **The calls on the states of a run**: what never clashes there, when a call aborts, what it
leaves. -/
theorem run_spec {ops : List Op} {db : Db} (hrun : run ops = some db) :
    ((∀ package, (db.filter fun e => e.package == package && e.latest).length ≤ 1) ∧
      db.Pairwise fun a b => (a.data.loopName ≠ "" → a.data.loopName ≠ b.data.loopName) ∧
        (a.data.deviceName ≠ "" → a.data.deviceName ≠ b.data.deviceName)) ∧
    (∀ package latest data, db.addMountedApex package latest data = none ↔
      (∃ x ∈ db, x.package = package ∧ x.data = data) ∨
      (latest = true ∧ ∃ x ∈ db, x.package = package ∧ x.latest = true) ∨
      (data.loopName ≠ "" ∧ ∃ x ∈ db, x.data.loopName = data.loopName) ∨
      (data.deviceName ≠ "" ∧ ∃ x ∈ db, x.data.deviceName = data.deviceName)) ∧
    (∀ package fullPath,
      (db.setLatest package fullPath = none ↔
        ¬ ∃ e ∈ db, e.package = package ∧ e.data.fullPath = fullPath) ∧
      ∀ db', db.setLatest package fullPath = some db' →
        ∃ e, e.data.fullPath = fullPath ∧
          db'.filter (fun e => e.package == package && e.latest) = [e]) ∧
    ∀ op db' q, Op.exec db op = some db' → q ≠ op.package →
      db'.forallMountedApexes q = db.forallMountedApexes q := by
  have hw := wf_run hrun
  refine ⟨⟨hw.one_latest, ?_⟩, ?_, ?_, ?_⟩
  · exact List.Pairwise.imp (fun hc => ⟨hc.loop, hc.device⟩) hw
  · intro package latest data
    rw [addMountedApex_eq_none hw, not_compatible_iff]
  · intro package fullPath
    exact ⟨setLatest_eq_none, fun db' hs => setLatest_flagged hw hs⟩
  · intro op db' q hop hq
    exact exec_others hop hq

/-- Two versions of a package, and the older one taken out again. -/
theorem run_spec_two :
    Db.addMountedApex [⟨"a", ⟨"/dev/block/loop2", "/data/apex/active/a@2.apex", "/apex/a@2", ""⟩,
      true⟩] "b" true
        ⟨"/dev/block/loop2", "/system/apex/b.apex", "/apex/b@1", ""⟩ = none := by
  have hrun : run [
      .addMountedApex "a" true ⟨"/dev/block/loop1", "/system/apex/a.apex", "/apex/a@1", ""⟩,
      .addMountedApex "a" false ⟨"/dev/block/loop2", "/data/apex/active/a@2.apex", "/apex/a@2", ""⟩,
      .setLatest "a" "/data/apex/active/a@2.apex",
      .removeMountedApex "a" "/system/apex/a.apex"] =
      some [⟨"a", ⟨"/dev/block/loop2", "/data/apex/active/a@2.apex", "/apex/a@2", ""⟩, true⟩] := by
    decide
  exact ((run_spec hrun).2.1 _ _ _).2
    (Or.inr (Or.inr (Or.inl ⟨by decide, _, List.mem_cons_self, rfl⟩)))

end Db

end Apexd
