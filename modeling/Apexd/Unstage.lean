import Apexd.StageAtomic

/-!
# Unstaging packages

`unstagePackages` checks every path before it removes the first file; the check does not see that an
earlier removal takes a later file away.

* `SameFile` — two paths of one directory entry.
* `wp_unlinkLoop` — the loop of removals, by induction on the list.
* `unstagePackages_atomic_iff` — exactly when a call removes all listed files or none.
-/

set_option autoImplicit false

namespace Apexd

open Text Prog

/-- Two paths of one entry: the same directory and the same name in it. -/
def SameFile (p q : String) : Prop := dirName p = dirName q ∧ baseName p = baseName q

instance (p q : String) : Decidable (SameFile p q) := inferInstanceAs (Decidable (_ ∧ _))

/-- Only the check of a path may be refused. -/
def Sys.RefusedAccess : Faults
  | .access p, w, r, w' => (Sys.access p).refusal r ∧ w' = w
  | _, _, _, _ => False

/-- The listed files are gone and no other one is. -/
def World.Unstaged (w : World) (paths : List String) (w' : World) : Prop :=
  ∀ q, w'.file? q = if ∃ p ∈ paths, SameFile p q then none else w.file? q

/-- All listed files are removed, or none. -/
structure UnstagedAtomically (paths : List String) (w : World) (x : Except String Unit)
    (w' : World) : Prop where
  success : x = .ok () → ∀ q, Normal q → w'.file? q = if q ∈ paths then none else w.file? q
  failure : ∀ e, x = .error e → ∀ q, Normal q → w'.file? q = w.file? q

/-- The paths name distinct regular files. -/
structure World.Distinct (w : World) (paths : List String) : Prop where
  distinct : paths.Pairwise fun p q => ¬ SameFile p q
  regular : ∀ p ∈ paths, (w.file? p).isSome

section Unlink

variable {w w' : World} {p : String}

theorem SameFile.refl (p : String) : SameFile p p := ⟨rfl, rfl⟩

theorem SameFile.eq {p q : String} (h : SameFile p q) (hp : Normal p) (hq : Normal q) : p = q := by
  rw [eq_join hp.mem_slash, eq_join hq.mem_slash, h.1, h.2]

/-- Paths in normal form name one file only if they mean the same. -/
theorem World.distinct_iff {w : World} {paths : List String} (hp : ∀ p ∈ paths, Normal p) :
    w.Distinct paths ↔ (paths.Pairwise fun p q => lexicallyNormal p ≠ lexicallyNormal q) ∧
      ∀ p ∈ paths, (w.file? p).isSome := by
  constructor
  · rintro ⟨hdist, hreg⟩
    refine ⟨hdist.imp_of_mem fun {p q} hmp hmq hne he => hne ?_, hreg⟩
    rw [(hp p hmp).inj (hp q hmq) he]
    exact SameFile.refl q
  · rintro ⟨hdist, hreg⟩
    refine ⟨hdist.imp_of_mem fun {p q} hmp hmq hne he => hne ?_, hreg⟩
    rw [he.eq (hp p hmp) (hp q hmq)]

/-- Just the listed files are gone. -/
theorem World.Unstaged.listed {w w' : World} {paths : List String} (h : w.Unstaged paths w')
    (hp : ∀ p ∈ paths, Normal p) {q : String} (hq : Normal q) :
    w'.file? q = if q ∈ paths then none else w.file? q := by
  have hiff : (∃ p ∈ paths, SameFile p q) ↔ q ∈ paths := by
    constructor
    · rintro ⟨p, hmem, hs⟩
      rwa [← hs.eq (hp p hmem) hq]
    · exact fun hmem => ⟨q, hmem, SameFile.refl q⟩
  rw [h q]
  simp only [hiff]

/-- A removed file is gone under each of its paths. -/
theorem World.erase_file?_same {d : Dir} (hd : w.dirs (dirName p) = some d) (q : String) :
    (w.setDir (dirName p) (some (d.erase (baseName p)))).file? q =
      if SameFile p q then none else w.file? q := by
  apply Option.ext
  intro g
  by_cases hq : dirName q = dirName p
  · rw [World.file?_eq_some, hq, World.setDir_self]
    by_cases hb : baseName q = baseName p
    · rw [if_pos ⟨hq.symm, hb.symm⟩]
      simp [Dir.mem_erase, hb]
    · rw [if_neg fun h => hb h.2.symm, World.file?_eq_some, hq, hd]
      simp [Dir.mem_erase, hb]
  · rw [World.file?_setDir_other _ _ hq, if_neg fun h => hq h.1.symm]

/-- What one removal does to the files. -/
theorem unlink_file? {r : Except Errno Unit} (h : (r, w') = w.unlink p) :
    (w.file? p = none ∧ (∃ e, r = .error e) ∧ w' = w) ∨
      ((w.file? p).isSome ∧ r = .ok () ∧ ∀ q,
        w'.file? q = if SameFile p q then none else w.file? q) := by
  rcases w.unlink_cases p with ⟨e, he, hnone⟩ | ⟨d, f, hd, hm, he⟩
  · rw [he] at h
    cases h
    exact Or.inl ⟨hnone, ⟨e, rfl⟩, rfl⟩
  · rw [he] at h
    cases h
    have hf : w.file? p = some f := World.file?_eq_some.2 ⟨d, hd, hm⟩
    refine Or.inr ⟨?_, rfl, World.erase_file?_same hd⟩
    rw [hf]
    rfl

end Unlink

section Loop

variable {F : Faults} {w w' : World} {p : String} {paths : List String}

/-- What the loop of removals may leave. -/
structure Unlinked (paths : List String) (w : World) (x : Except String Unit) (w' : World) :
    Prop where
  success : x = .ok () ↔ w.Distinct paths
  removed : x = .ok () → w.Unstaged paths w'
  shrink : w.FilesShrink w'
  first : ∀ p, paths.head? = some p → w.file? p = none → ∀ q, w'.file? q = w.file? q
  gone : ∀ p, paths.head? = some p → w'.file? p = none

theorem Unlinked.nil (w : World) : Unlinked [] w (.ok ()) w where
  success := by
    simp only [true_iff]
    exact ⟨List.Pairwise.nil, by simp⟩
  removed _ q := by simp
  shrink := .refl w
  first p h := by cases h
  gone p h := by cases h

/-- The first path names no file. -/
theorem Unlinked.stop (h : w.file? p = none) (e : String) :
    Unlinked (p :: paths) w (.error e) w where
  success := by
    constructor
    · intro h
      cases h
    · intro hd
      have := hd.regular p List.mem_cons_self
      rw [h] at this
      cases this
  removed h := by cases h
  shrink := .refl w
  first _ _ _ _ := rfl
  gone q hq := by
    cases hq
    exact h

/-- The first file is gone, and the rest follows. -/
theorem Unlinked.cons {w₁ : World} {x : Except String Unit} (hp : (w.file? p).isSome)
    (h₁ : ∀ q, w₁.file? q = if SameFile p q then none else w.file? q) (h : Unlinked paths w₁ x w') :
    Unlinked (p :: paths) w x w' := by
  have hshrink : w.FilesShrink w' := by
    intro q f hf
    have := h.shrink q f hf
    rw [h₁] at this
    split at this
    · cases this
    · exact this
  constructor
  · rw [h.success]
    constructor
    · intro hd
      constructor
      · apply List.pairwise_cons.2
        refine ⟨fun q hq hs => ?_, hd.distinct⟩
        have := hd.regular q hq
        rw [h₁, if_pos hs] at this
        cases this
      · intro q hq
        rcases List.mem_cons.1 hq with rfl | hq
        · exact hp
        · have := hd.regular q hq
          rw [h₁] at this
          split at this
          · cases this
          · exact this
    · intro hd
      obtain ⟨hne, hdist⟩ := List.pairwise_cons.1 hd.distinct
      refine ⟨hdist, fun q hq => ?_⟩
      rw [h₁, if_neg (hne q hq)]
      exact hd.regular q (List.mem_cons_of_mem _ hq)
  · intro hx q
    rw [h.removed hx q, h₁ q]
    simp only [List.exists_mem_cons_iff]
    by_cases hs : SameFile p q
    · simp [hs]
    · simp [hs]
  · exact hshrink
  · intro q hq hnone
    cases hq
    rw [hnone] at hp
    cases hp
  · intro q hq
    cases hq
    have hnone : w₁.file? p = none := by rw [h₁, if_pos (SameFile.refl p)]
    cases hf : w'.file? p with
    | none => rfl
    | some f =>
      have := h.shrink p f hf
      rw [hnone] at this
      cases this

/-- **The loop of removals**: it goes on as long as it comes to new files. -/
theorem wp_unlinkLoop (hF : ∀ q w r w', ¬ F (.unlink q) w r w') (paths : List String) (w : World) :
    wp (kernel .off F) (fun _ => True)
      (paths.forM fun path => sys (.unlink path) >>= check ("Can't unlink " ++ path))
      (fun x w' => Unlinked paths w x w') w := by
  induction paths generalizing w with
  | nil => exact ⟨trivial, Unlinked.nil w⟩
  | cons p paths ih =>
    refine ⟨trivial, trivial, ?_⟩
    rintro r w₁ (hn | hf)
    · rcases unlink_file? hn with ⟨hnone, ⟨e, rfl⟩, rfl⟩ | ⟨hsome, rfl, h₁⟩
      · exact ⟨trivial, Unlinked.stop hnone _⟩
      · exact (ih w₁).imp fun x w' _ h => h.cons hsome h₁
    · exact (hF _ _ _ _ hf).elim

/-- The loop of checks changes nothing; it passes when every path can be accessed and no check is
refused. -/
theorem wp_accessLoop (hF : ∀ c w r w', F c w r w' → Sys.RefusedAccess c w r w')
    (paths : List String) : wp (kernel .off F) (fun _ => True)
      (paths.forM fun path => sys (.access path) >>= check ("Can't access " ++ path))
      (fun x w' => w' = w ∧ (x = .ok () → ∀ p ∈ paths, ∃ st, w.stat p = .ok st) ∧
        (x ≠ .ok () → (∃ p ∈ paths, ∀ st, w.stat p ≠ .ok st) ∨ ∃ c r w', F c w r w')) w := by
  refine wp_forM (fun rest w' => w' = w ∧ rest <:+ paths ∧ ∀ p ∈ paths, p ∈ rest ∨ ∃ st,
    w.stat p = .ok st) paths ?_ ?_ ⟨rfl, List.suffix_refl _, fun p hp => Or.inl hp⟩
  · rintro p rest w₁ - ⟨rfl, hsuf, hrest⟩
    have hp : p ∈ paths := hsuf.subset List.mem_cons_self
    refine ⟨trivial, trivial, ?_⟩
    rintro r w₂ (⟨rfl, rfl⟩ | hf)
    · cases hs : w₂.stat p with
      | error e =>
        refine ⟨trivial, rfl, ?_, fun _ => Or.inl ⟨p, hp, ?_⟩⟩
        · intro h
          cases h
        · intro st h
          rw [hs] at h
          cases h
      | ok st =>
        refine ⟨trivial, rfl, (List.suffix_cons p rest).trans hsuf, fun q hq => ?_⟩
        rcases hrest q hq with hq | hq
        · rcases List.mem_cons.1 hq with rfl | hq
          · exact Or.inr ⟨st, hs⟩
          · exact Or.inl hq
        · exact Or.inr hq
    · obtain ⟨⟨e, _, rfl⟩, rfl⟩ := hF _ _ _ _ hf
      refine ⟨trivial, rfl, ?_, fun _ => Or.inr ⟨_, _, _, hf⟩⟩
      intro h
      cases h
  · rintro w₁ ⟨rfl, _, hall⟩
    refine ⟨trivial, rfl, fun _ p hp => ?_, fun h => absurd rfl h⟩
    rcases hall p hp with h | h
    · cases h
    · exact h

/-- What a call may leave: nothing has changed, or it got past the checks. -/
theorem wp_unstagePackages (hF : ∀ c w r w', F c w r w' → Sys.RefusedAccess c w r w')
    (paths : List String)
    (w : World) : wp (kernel .off F) (fun _ => True) (unstagePackages paths) (fun x w' =>
      ((∃ e, x = .error e) ∧ w' = w ∧
        (paths = [] ∨ (∃ p ∈ paths, ∀ st, w.stat p ≠ .ok st) ∨ ∃ c r w', F c w r w')) ∨
      (paths ≠ [] ∧ (∀ p ∈ paths, ∃ st, w.stat p = .ok st) ∧ Unlinked paths w x w')) w := by
  unfold unstagePackages
  refine wp_bind.2 (wp_require.2 ⟨trivial, ?_⟩)
  split
  · rename_i hne
    have hne' : paths ≠ [] := by simpa using hne
    refine wp_bind.2 ((wp_accessLoop hF paths).imp ?_)
    rintro (e | u) w₁ _ ⟨rfl, hok, herr⟩
    · exact Or.inl ⟨⟨e, rfl⟩, rfl, Or.inr (herr (by simp))⟩
    · refine (wp_unlinkLoop (fun q w r w' hf => hF _ _ _ _ hf) paths w₁).imp fun x w' _ h => ?_
      exact Or.inr ⟨hne', hok rfl, h⟩
  · rename_i hne
    exact Or.inl ⟨⟨_, rfl⟩, rfl, Or.inl (by simpa using hne)⟩

end Loop

/-- The paths mean distinct files, or the call stops before it removes the first one: some path
cannot be accessed, or the first one names no regular file. -/
def World.UnstageSafe (w : World) (paths : List String) : Prop :=
  ((paths.Pairwise fun p q => lexicallyNormal p ≠ lexicallyNormal q) ∧ ∀ p ∈ paths,
    (w.file? p).isSome) ∨
    (∃ p ∈ paths, ∀ st, w.stat p ≠ .ok st) ∨ ∃ p, paths.head? = some p ∧ w.file? p = none

/-- **A call removes all listed files or none exactly when** the paths, which are in normal form,
mean distinct regular files or it stops before the first removal. -/
theorem unstagePackages_atomic_iff {w : World} {paths : List String}
    (hpaths : ∀ p ∈ paths, Normal p) :
    (∀ x w', Ends (kernel .off Sys.RefusedAccess) (unstagePackages paths) w x w' →
      UnstagedAtomically paths w x w') ↔ w.UnstageSafe paths := by
  constructor
  · intro h
    by_contra hnot
    unfold World.UnstageSafe at hnot
    rw [← World.distinct_iff hpaths] at hnot
    push Not at hnot
    obtain ⟨hdist, hacc, hfirst⟩ := hnot
    -- a run in which nothing is refused removes the first file and then fails
    have hrun := wp_unstagePackages (F := Sys.NoFault) (fun _ _ _ _ hf => hf.elim) paths w
    have huses : (unstagePackages paths).Uses fun c => ∃ p, c = .access p ∨ c = .unlink p := by
      refine uses_bind (uses_require _ _) fun _ => ?_
      refine uses_bind (uses_forM _ fun p _ => uses_exec_bind ⟨p, Or.inl rfl⟩ fun r =>
        uses_check _ r) fun _ => ?_
      exact uses_forM _ fun p _ => uses_exec_bind ⟨p, Or.inr rfl⟩ fun r => uses_check _ r
    obtain ⟨x, w', hends, hq⟩ := hrun.exists_ends huses (by
      rintro _ w₁ ⟨p, rfl | rfl⟩ _
      · exact ⟨_, _, Or.inl ⟨rfl, rfl⟩⟩
      · exact ⟨_, _, Or.inl rfl⟩)
    have hends' : Ends (kernel .off Sys.RefusedAccess) (unstagePackages paths) w x w' :=
      hends.mono fun c w r w' hs => Or.inl (hs.resolve_right fun hf => hf)
    have hatomic := h x w' hends'
    rcases hq with ⟨_, _, hstop⟩ | ⟨hne, _, hun⟩
    · rcases hstop with hnil | ⟨p, hp, hno⟩ | ⟨c, r, w₁, hf⟩
      · apply hdist
        rw [hnil]
        exact ⟨List.Pairwise.nil, by simp⟩
      · obtain ⟨st, hst⟩ := hacc p hp
        exact hno st hst
      · exact hf.elim
    · obtain ⟨p, rest, rfl⟩ := List.exists_cons_of_ne_nil hne
      cases x with
      | ok u => exact hdist (hun.success.1 rfl)
      | error e =>
        have hgone := hun.gone p rfl
        rw [hatomic.failure e rfl p (hpaths p List.mem_cons_self)] at hgone
        exact hfirst p rfl hgone
  · intro hsafe x w' hends
    rcases (wp_unstagePackages (fun _ _ _ _ hf => hf) paths w).ends hends with
      ⟨⟨e, rfl⟩, rfl, _⟩ | ⟨_, hacc, hun⟩
    · constructor
      · intro h
        cases h
      · intro _ _ q _
        rfl
    · constructor
      · exact fun hx q hq => (hun.removed hx).listed hpaths hq
      · rintro e rfl q _
        rcases hsafe with hd | ⟨p, hp, hno⟩ | ⟨p, hp, hnone⟩
        · have := hun.success.2 ((World.distinct_iff hpaths).2 hd)
          cases this
        · obtain ⟨st, hst⟩ := hacc p hp
          exact absurd hst (hno st)
        · exact hun.first p hp hnone q

/-- Two files of one directory are both removed. -/
theorem unstagePackages_atomic_iff_two :
    let paths := ["/data/apex/active/a@1.apex", "/data/apex/active/x.apex"]
    UnstagedAtomically paths stagingWorld (.ok ())
        (runN Sys.run 20 (unstagePackages paths) stagingWorld).2 := by
  intro paths
  have hres : (runN Sys.run 20 (unstagePackages paths) stagingWorld).1.result? = some (.ok ()) := by
    decide
  refine (unstagePackages_atomic_iff (by decide)).2 (Or.inl ⟨?_, by decide⟩) _ _
    (runN_ends Sys.run_sem hres)
  exact List.pairwise_pair.2 (by decide)

/-- A file that is listed twice is removed, and the call fails. -/
theorem unstagePackages_removes_first : ¬ ∀ (paths : List String) (w : World) x w',
    Ends (kernel .off Sys.RefusedAccess) (unstagePackages paths) w x w' →
      UnstagedAtomically paths w x w' := by
  intro hclaim
  let run := runN Sys.run 20
    (unstagePackages ["/data/apex/active/a@1.apex", "/data/apex/active/a@1.apex"]) stagingWorld
  have hres : run.1.result? =
      some (.error (perror "Can't unlink /data/apex/active/a@1.apex" .enoent)) := by
    decide
  have hsame := (hclaim _ _ _ _ (runN_ends Sys.run_sem hres)).failure _ rfl
    "/data/apex/active/a@1.apex" (by decide)
  have hnew : run.2.file? "/data/apex/active/a@1.apex" ≠
      stagingWorld.file? "/data/apex/active/a@1.apex" := by
    decide
  exact hnew hsame

end Apexd
