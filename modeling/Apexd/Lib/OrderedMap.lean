import Mathlib.Order.Defs.Unbundled
import Mathlib.Data.List.Pairwise
import Mathlib.Data.List.Nodup

/-!
# Maps ordered by a comparison of their own

`std::map` with a comparison `lt` of the keys: to the map two keys are the same when neither is
before the other.

* `emplace` — with the flag that says whether the key was new.
* `Sorted` — the entries in iteration order; `emplace_sorted` keeps it.
* `emplace_new`, `mem_emplace` — a key is new exactly when it is not there, provided that `lt` is a
  strict total order; then no two keys are merged and none is kept twice.
-/

set_option autoImplicit false

namespace OrderedMap

variable {α β : Type}

/-- `emplace`: nothing changes when an equivalent key is there. -/
def emplace (lt : α → α → Bool) (k : α) (v : β) : List (α × β) → List (α × β) × Bool
  | [] => ([(k, v)], true)
  | x :: rest =>
    if lt k x.1 then ((k, v) :: x :: rest, true)
    else if lt x.1 k then (x :: (emplace lt k v rest).1, (emplace lt k v rest).2)
    else (x :: rest, false)

/-- The entries stand in iteration order. -/
def Sorted (lt : α → α → Bool) (m : List (α × β)) : Prop := m.Pairwise fun a b => lt a.1 b.1 = true

/-- One key after the other into an empty map. -/
def emplaceAll (lt : α → α → Bool) (l : List (α × β)) : List (α × β) :=
  l.foldl (fun m x => (emplace lt x.1 x.2 m).1) []

section Emplace

variable {lt : α → α → Bool} [h : IsStrictTotalOrder α fun a b => lt a b = true] {m : List (α × β)}
    {k : α} {v : β}

theorem eq_of_not_lt {a b : α} (hab : ¬ lt a b = true) (hba : ¬ lt b a = true) : a = b :=
  h.toTrichotomous.trichotomous a b hab hba

theorem emplace_new (hm : Sorted lt m) : (emplace lt k v m).2 = true ↔ k ∉ m.map Prod.fst := by
  induction m with
  | nil => simp [emplace]
  | cons x rest ih =>
    obtain ⟨hx, hrest⟩ := List.pairwise_cons.1 hm
    unfold emplace
    rw [List.map_cons, List.mem_cons]
    split
    · rename_i hlt
      -- all other keys are after the first one
      refine iff_of_true rfl ?_
      rintro (rfl | hk)
      · exact irrefl_of (fun a b => lt a b = true) _ hlt
      · obtain ⟨y, hy, rfl⟩ := List.mem_map.1 hk
        exact irrefl_of (fun a b => lt a b = true) _
          (trans_of (fun a b => lt a b = true) hlt (hx y hy))
    · rename_i hnot
      split
      · rename_i hgt
        rw [ih hrest]
        have hne : k ≠ x.1 := by
          rintro rfl
          exact hnot hgt
        simp [hne]
      · rename_i hnot'
        simp [eq_of_not_lt hnot hnot']

theorem mem_emplace (hm : Sorted lt m) {x : α × β} :
    x ∈ (emplace lt k v m).1 ↔ x ∈ m ∨ x = (k, v) ∧ k ∉ m.map Prod.fst := by
  induction m with
  | nil => simp [emplace]
  | cons y rest ih =>
    obtain ⟨hy, hrest⟩ := List.pairwise_cons.1 hm
    have hnew := emplace_new (k := k) (v := v) hm
    unfold emplace at hnew ⊢
    split at hnew
    · rename_i hlt
      rw [if_pos hlt, List.mem_cons, or_comm]
      have hk : k ∉ (y :: rest).map Prod.fst := hnew.1 rfl
      simp only [hk, not_false_eq_true, and_true]
    · rename_i hnot
      rw [if_neg hnot]
      split at hnew
      · rename_i hgt
        rw [if_pos hgt, List.mem_cons, ih hrest, List.mem_cons, ← or_assoc]
        have hne : k ≠ y.1 := by
          rintro rfl
          exact hnot hgt
        simp [hne]
      · rename_i hnot'
        rw [if_neg hnot', eq_of_not_lt hnot hnot']
        simp

theorem emplace_sorted (hm : Sorted lt m) : Sorted lt (emplace lt k v m).1 := by
  induction m with
  | nil => exact List.pairwise_singleton _ _
  | cons x rest ih =>
    obtain ⟨hx, hrest⟩ := List.pairwise_cons.1 hm
    unfold emplace
    split
    · rename_i hlt
      refine List.pairwise_cons.2 ⟨fun y hy => ?_, hm⟩
      rcases List.mem_cons.1 hy with rfl | hy
      · exact hlt
      · exact trans_of (fun a b => lt a b = true) hlt (hx y hy)
    · split
      · rename_i hgt
        refine List.pairwise_cons.2 ⟨fun y hy => ?_, ih hrest⟩
        rcases (mem_emplace hrest).1 hy with hy | ⟨rfl, -⟩
        · exact hx y hy
        · exact hgt
      · exact hm

/-- The keys of a map are all different. -/
theorem Sorted.keys_nodup (hm : Sorted lt m) : (m.map Prod.fst).Nodup := by
  rw [List.nodup_iff_pairwise_ne, List.pairwise_map]
  refine List.Pairwise.imp ?_ hm
  rintro a b hab heq
  rw [heq] at hab
  exact irrefl_of (fun a b => lt a b = true) _ hab

/-- **Every key is kept, and once.** -/
theorem emplaceAll_keys (l : List (α × β)) :
    ((emplaceAll lt l).map Prod.fst).Nodup ∧ ∀ k, k ∈ (emplaceAll lt l).map Prod.fst ↔
    k ∈ l.map Prod.fst := by
  have hall : ∀ (l m : List (α × β)), Sorted lt m →
      Sorted lt (l.foldl (fun m x => (emplace lt x.1 x.2 m).1) m) ∧
        ∀ k, k ∈ (l.foldl (fun m x => (emplace lt x.1 x.2 m).1) m).map Prod.fst ↔
          k ∈ m.map Prod.fst ∨ k ∈ l.map Prod.fst := by
    intro l
    induction l with
    | nil =>
      intro m hm
      exact ⟨hm, fun k => by simp⟩
    | cons x rest ih =>
      intro m hm
      obtain ⟨hs, hk⟩ := ih _ (emplace_sorted (k := x.1) (v := x.2) hm)
      refine ⟨hs, fun k => ?_⟩
      have hstep : k ∈ (emplace lt x.1 x.2 m).1.map Prod.fst ↔ k ∈ m.map Prod.fst ∨ k = x.1 := by
        simp only [List.mem_map, mem_emplace hm]
        constructor
        · rintro ⟨y, hy | ⟨rfl, -⟩, rfl⟩
          · exact Or.inl ⟨y, hy, rfl⟩
          · exact Or.inr rfl
        · rintro (⟨y, hy, rfl⟩ | rfl)
          · exact ⟨y, Or.inl hy, rfl⟩
          · by_cases hmem : x.1 ∈ m.map Prod.fst
            · obtain ⟨y, hy, hyx⟩ := List.mem_map.1 hmem
              exact ⟨y, Or.inl hy, hyx⟩
            · exact ⟨x, Or.inr ⟨rfl, by simpa using hmem⟩, rfl⟩
      rw [List.foldl_cons, hk, hstep, List.map_cons, List.mem_cons, or_assoc]
  obtain ⟨hs, hk⟩ := hall l [] List.Pairwise.nil
  exact ⟨hs.keys_nodup, fun k => (hk k).trans (by simp)⟩

end Emplace

end OrderedMap
