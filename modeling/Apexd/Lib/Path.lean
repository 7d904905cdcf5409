import Apexd.Lib.Text

/-!
# Lexical normalisation of paths

What a path means when nothing in it is a link: its components, without the empty ones and without
`.`, each `..` taking back the one before it.

* `lexicallyNormal` — the components that are left.
* `StrictlyBelow` — one path names something inside another.
* `Plain`, `Component`, `Normal` — names and paths that the system reads as they are written; paths
  in normal form that mean the same are the same (`Normal.inj`).
-/

set_option autoImplicit false

namespace Text

/-- The texts between the slashes. -/
def components (p : String) : List String := (p.toList.splitOn '/').map String.ofList

/-- One component more on the way down from the root. -/
def descend (stack : List String) (component : String) : List String :=
  if component = "" ∨ component = "." then stack
  else if component = ".." then stack.dropLast
  else stack ++ [component]

def lexicallyNormal (p : String) : List String := (components p).foldl descend []

/-- `p` is absolute and, normalised, goes on where `d` ends. -/
def StrictlyBelow (d p : String) : Prop :=
  startsWith p "/" = true ∧ lexicallyNormal d <+: lexicallyNormal p ∧
    lexicallyNormal p ≠ lexicallyNormal d

instance (d p : String) : Decidable (StrictlyBelow d p) := inferInstanceAs (Decidable (_ ∧ _ ∧ _))

/-- A name the system reads as it is written: it is one component, and no NUL ends it early. -/
structure Plain (n : String) : Prop where
  noSlash : NoSlash n
  noNul : NoNul n

instance (n : String) : Decidable (Plain n) :=
  decidable_of_iff (NoSlash n ∧ NoNul n) ⟨fun ⟨h₁, h₂⟩ => ⟨h₁, h₂⟩, fun ⟨h₁, h₂⟩ => ⟨h₁, h₂⟩⟩

/-- A plain name of an entry of a directory. -/
structure Component (n : String) : Prop extends Plain n where
  nonempty : n ≠ ""
  notDot : n ≠ "."
  notDots : n ≠ ".."

instance (n : String) : Decidable (Component n) :=
  decidable_of_iff (Plain n ∧ n ≠ "" ∧ n ≠ "." ∧ n ≠ "..")
    ⟨fun ⟨h₁, h₂, h₃, h₄⟩ => ⟨h₁, h₂, h₃, h₄⟩, fun ⟨h₁, h₂, h₃, h₄⟩ => ⟨h₁, h₂, h₃, h₄⟩⟩

/-- `p` is absolute and is the only way to write what it means: looking it up as a text is looking
it up component by component. -/
structure Normal (p : String) : Prop where
  nonempty : p ≠ ""
  components : components p = "" :: lexicallyNormal p
  noNul : NoNul p

instance (p : String) : Decidable (Normal p) :=
  decidable_of_iff (p ≠ "" ∧ components p = "" :: lexicallyNormal p ∧ NoNul p)
    ⟨fun ⟨h₁, h₂, h₃⟩ => ⟨h₁, h₂, h₃⟩, fun ⟨h₁, h₂, h₃⟩ => ⟨h₁, h₂, h₃⟩⟩

theorem components_of_noSlash {n : String} (h : NoSlash n) : components n = [n] := by
  unfold components
  rw [List.splitOn_eq_singleton h]
  simp

theorem components_inj {p q : String} (h : components p = components q) : p = q := by
  have hsplit : p.toList.splitOn '/' = q.toList.splitOn '/' :=
    List.map_injective_iff.2 (fun _ _ he => String.ofList_inj.1 he) h
  have hlist := congrArg (List.intercalate ['/']) hsplit
  rw [List.intercalate_splitOn, List.intercalate_splitOn] at hlist
  exact String.toList_inj.1 hlist

/-- **Paths in normal form that mean the same are the same.** -/
theorem Normal.inj {p q : String} (hp : Normal p) (hq : Normal q)
    (h : lexicallyNormal p = lexicallyNormal q) : p = q :=
  components_inj (by rw [hp.components, hq.components, h])

theorem Normal.mem_slash {p : String} (h : Normal p) : '/' ∈ p.toList := by
  by_contra hno
  have hc := h.components
  rw [components_of_noSlash hno] at hc
  exact h.nonempty (List.cons_eq_cons.1 hc).1

end Text
