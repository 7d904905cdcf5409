import Mathlib.Algebra.Group.Int.Defs
import Mathlib.Algebra.Group.Nat.Defs
import Mathlib.Data.List.TakeWhile
import Mathlib.Data.List.Basic
import Mathlib.Tactic.Common
import Std.Data.String.ToInt

/-!
# Path strings and separators

* `cStr` — what C code reads of a string.
* `join`, `dirName`, `baseName` — a path is a directory, a slash and a last component;
  `dirName_join` and `baseName_join` take a joined path apart when the component holds no
  slash, and `join_inj` says that such paths are equal only when their parts are.
* `split` — the pieces of a string between the occurrences of a separator; `trim`, `parseInt`.
* `bytes` — the UTF-8 bytes of a string; `cString` — a string that ends at the first zero byte;
  `bytesToHex`.
-/

set_option autoImplicit false

namespace Text

/-- `d/n`. -/
def join (d n : String) : String := d ++ "/" ++ n

/-- Everything before the last slash. -/
def dirName (p : String) : String :=
  String.ofList ((p.toList.reverse.dropWhile (· != '/')).drop 1).reverse

/-- Everything after the last slash. -/
def baseName (p : String) : String :=
  String.ofList (p.toList.reverse.takeWhile (· != '/')).reverse

/-- A string that can be one component of a path. -/
def NoSlash (n : String) : Prop := '/' ∉ n.toList

instance (n : String) : Decidable (NoSlash n) := inferInstanceAs (Decidable (_ ∉ _))

/-- A string that `%s` and the system read to its end. -/
def NoNul (s : String) : Prop := Char.ofNat 0 ∉ s.toList

instance (s : String) : Decidable (NoNul s) := inferInstanceAs (Decidable (_ ∉ _))

/-- What `%s` prints of a string: all before the first NUL. -/
def cStr (s : String) : String := String.ofList (s.toList.takeWhile (· != Char.ofNat 0))

theorem cStr_eq {s : String} (h : NoNul s) : cStr s = s := by
  unfold cStr
  rw [List.takeWhile_eq_self_iff.2, String.ofList_toList]
  intro c hc
  have hne : c ≠ Char.ofNat 0 := by
    rintro rfl
    exact h hc
  simp [hne]

theorem noNul_cStr (s : String) : NoNul (cStr s) := by
  unfold NoNul cStr
  rw [String.toList_ofList]
  intro h
  simpa using List.mem_takeWhile_imp h

theorem takeWhile_reverse_append {d n : List Char} (h : '/' ∉ n) :
    (d ++ '/' :: n).reverse.takeWhile (· != '/') = n.reverse := by
  have hn : ∀ c ∈ n.reverse, (c != '/') = true := by
    intro c hc
    have : c ≠ '/' := by
      rintro rfl
      exact h (List.mem_reverse.1 hc)
    simp [this]
  rw [List.reverse_append, List.reverse_cons, List.append_assoc, List.takeWhile_append_of_pos hn]
  simp

theorem dropWhile_reverse_append {d n : List Char} (h : '/' ∉ n) :
    (d ++ '/' :: n).reverse.dropWhile (· != '/') = '/' :: d.reverse := by
  have hn : ∀ c ∈ n.reverse, (c != '/') = true := by
    intro c hc
    have : c ≠ '/' := by
      rintro rfl
      exact h (List.mem_reverse.1 hc)
    simp [this]
  rw [List.reverse_append, List.reverse_cons, List.append_assoc, List.dropWhile_append_of_pos hn]
  simp

theorem toList_join (d n : String) : (join d n).toList = d.toList ++ '/' :: n.toList := by
  simp [join, String.toList_append]

theorem dirName_join {n : String} (h : NoSlash n) (d : String) : dirName (join d n) = d := by
  unfold dirName
  rw [toList_join, dropWhile_reverse_append h]
  simp

theorem baseName_join {n : String} (h : NoSlash n) (d : String) : baseName (join d n) = n := by
  unfold baseName
  rw [toList_join, takeWhile_reverse_append h]
  simp

theorem noSlash_baseName (p : String) : NoSlash (baseName p) := by
  unfold NoSlash baseName
  rw [String.toList_ofList, List.mem_reverse]
  intro h
  simpa using List.mem_takeWhile_imp h

theorem join_inj {d d' n n' : String} (h : NoSlash n) (h' : NoSlash n') :
    join d n = join d' n' ↔ d = d' ∧ n = n' := by
  constructor
  · intro he
    have hd := congrArg dirName he
    have hb := congrArg baseName he
    rw [dirName_join h, dirName_join h'] at hd
    rw [baseName_join h, baseName_join h'] at hb
    exact ⟨hd, hb⟩
  · rintro ⟨rfl, rfl⟩; rfl

/-- `StartsWith`. -/
def startsWith (s start : String) : Bool := start.toList.isPrefixOf s.toList

/-- `EndsWith`. -/
def endsWith (s suffix : String) : Bool := suffix.toList.isSuffixOf s.toList

theorem endsWith_append (s t : String) : endsWith (s ++ t) t = true := by
  unfold endsWith
  rw [List.isSuffixOf_iff_suffix, String.toList_append]
  exact List.suffix_append _ _

theorem startsWith_append (s t : String) : startsWith (s ++ t) s = true := by
  unfold startsWith
  rw [String.toList_append]
  exact List.isPrefixOf_iff_prefix.2 (List.prefix_append _ _)

/-- What follows cannot make `q` a beginning when `s` already differs from it. -/
theorem startsWith_append_eq_false {s q : String} (t : String) (h : startsWith s q = false)
    (h' : startsWith q s = false) : startsWith (s ++ t) q = false := by
  unfold startsWith at *
  rw [← Bool.not_eq_true, List.isPrefixOf_iff_prefix] at *
  intro hp
  rw [String.toList_append] at hp
  rcases List.prefix_or_prefix_of_prefix hp (List.prefix_append _ _) with hq | hq
  · exact h hq
  · exact h' hq

theorem startsWith_trans {p d e : String} (h : startsWith p d = true) (h' : startsWith d e = true) :
    startsWith p e = true :=
  List.isPrefixOf_iff_prefix.2
    ((List.isPrefixOf_iff_prefix.1 h').trans (List.isPrefixOf_iff_prefix.1 h))

theorem append_ne {s t q : String} (h : startsWith q s = false) : s ++ t ≠ q := by
  rintro rfl
  rw [startsWith_append] at h
  cases h

/-- A path below `d` is none of the paths that are not below `d`. -/
theorem join_ne {d n q : String} (h : startsWith q (d ++ "/") = false) : join d n ≠ q :=
  append_ne h

theorem join_right_inj {d n n' : String} : join d n = join d n' ↔ n = n' := by
  rw [← String.toList_inj, toList_join, toList_join]
  simp [String.toList_inj]

theorem join_ne_self (d n : String) : join d n ≠ d := by
  intro h
  have := congrArg (fun s => s.toList.length) h
  simp only [toList_join, List.length_append, List.length_cons] at this
  omega

/-- A path with a slash is its directory and its last component. -/
theorem eq_join {p : String} (h : '/' ∈ p.toList) : p = join (dirName p) (baseName p) := by
  have hr : '/' ∈ p.toList.reverse := List.mem_reverse.2 h
  have hsplit := List.takeWhile_append_dropWhile (p := (· != '/')) (l := p.toList.reverse)
  cases hd : p.toList.reverse.dropWhile (· != '/') with
  | nil =>
    rw [hd, List.append_nil] at hsplit
    rw [← hsplit] at hr
    simpa using List.mem_takeWhile_imp hr
  | cons c rest =>
    have hne : p.toList.reverse.dropWhile (· != '/') ≠ [] := by rw [hd]; simp
    have hc : c = '/' := by
      have := List.head_dropWhile_not (· != '/') hne
      simpa [hd] using this
    subst hc
    have hp : p.toList = rest.reverse ++ '/' ::
        (p.toList.reverse.takeWhile (· != '/')).reverse := by
      have := congrArg List.reverse hsplit
      rw [hd, List.reverse_reverse] at this
      simpa using this.symm
    rw [← String.toList_inj, toList_join]
    unfold dirName baseName
    rw [hd, String.toList_ofList, String.toList_ofList]
    exact hp

theorem dirName_eq_empty {p : String} (h : NoSlash p) : dirName p = "" := by
  have hp : ∀ c ∈ p.toList.reverse, (c != '/') = true := by
    intro c hc
    have : c ≠ '/' := by
      rintro rfl
      exact h (List.mem_reverse.1 hc)
    simp [this]
  unfold dirName
  rw [List.dropWhile_eq_nil_iff.2 hp]
  rfl

/-- Two paths with the same parts, one of them in a named directory, are the same. -/
theorem path_ext {p q : String} (hd : dirName p = dirName q) (hb : baseName p = baseName q)
    (hq : dirName q ≠ "") : p = q := by
  have hs : ∀ r, dirName r ≠ "" → '/' ∈ r.toList := by
    intro r hr
    by_contra hn
    exact hr (dirName_eq_empty hn)
  rw [eq_join (hs p (hd ▸ hq)), eq_join (hs q hq), hd, hb]

/-- `p` is below the directory `d`. -/
def below (d p : String) : Bool := startsWith p (d ++ "/")

theorem below_join (d n : String) : below d (join d n) = true := by
  unfold below join
  exact startsWith_append _ _

theorem below_iff {d p : String} : below d p = true ↔ ∃ n, p = join d n := by
  constructor
  · intro h
    obtain ⟨t, ht⟩ := List.isPrefixOf_iff_prefix.1 h
    refine ⟨String.ofList t, ?_⟩
    rw [← String.toList_inj, toList_join, ← ht, String.toList_append]
    simp
  · rintro ⟨n, rfl⟩
    exact below_join d n

theorem mem_slash_of_below {d p : String} (h : below d p = true) : '/' ∈ p.toList := by
  obtain ⟨n, rfl⟩ := below_iff.1 h
  rw [toList_join]
  simp

/-- The directory of a path below `d` is `d` or below it. -/
theorem dirName_below {d p : String} (h : below d p = true) :
    dirName p = d ∨ below d (dirName p) = true := by
  obtain ⟨n, rfl⟩ := below_iff.1 h
  by_cases hn : NoSlash n
  · exact Or.inl (dirName_join hn d)
  · right
    have hn' : '/' ∈ n.toList := by
      unfold NoSlash at hn
      simpa using hn
    have hj : join d n = join (join d (dirName n)) (baseName n) := by
      conv_lhs => rw [eq_join hn']
      simp only [join, String.append_assoc]
    rw [hj, dirName_join (noSlash_baseName n)]
    exact below_join _ _

theorem dirName_ne_empty {d p : String} (hd : d ≠ "") (h : below d p = true) : dirName p ≠ "" := by
  rcases dirName_below h with h | h
  · rwa [h]
  · intro he
    have := mem_slash_of_below h
    rw [he] at this
    simp at this

/-! ## Numbers in names -/

theorem mem_toList_int {c : Char} {i : Int} (h : c ∈ (toString i).toList) :
    c = '-' ∨ c.isDigit := by
  cases i with
  | ofNat n =>
    have h' : c ∈ Nat.toDigits 10 n := by
      simpa [toString, Int.repr, Nat.toList_repr] using h
    exact Or.inr (Nat.isDigit_of_mem_toDigits (by decide) (by decide) h')
  | negSucc n =>
    have h' : c ∈ "-".toList ++ Nat.toDigits 10 (n + 1) := by
      simpa [toString, Int.repr, Nat.toList_repr, String.toList_append] using h
    rcases List.mem_append.1 h' with h' | h'
    · left
      simpa using h'
    · exact Or.inr (Nat.isDigit_of_mem_toDigits (by decide) (by decide) h')

theorem noSlash_int (i : Int) : NoSlash (toString i) := by
  intro h
  rcases mem_toList_int h with h | h
  · exact absurd h (by decide)
  · exact absurd h (by decide)

theorem toString_int_inj {i j : Int} : toString i = toString j ↔ i = j := Int.repr_inj

/-- The pieces of `s` between the occurrences of `c`: one more than there are occurrences. -/
def split (s : String) (c : Char) : List String := (s.toList.splitOn c).map String.ofList

theorem split_append {s t : String} {c : Char} (h : c ∉ s.toList) :
    split (s ++ String.singleton c ++ t) c = s :: split t c := by
  have hs : ∀ x ∈ s.toList, (x == c) = false := by
    intro x hx
    rw [beq_eq_false_iff_ne]
    rintro rfl
    exact h hx
  unfold split List.splitOn
  rw [String.toList_append, String.toList_append, String.toList_singleton, List.append_assoc,
    List.singleton_append, List.splitOnP_append_cons_of_forall_mem hs c (beq_self_eq_true c),
    List.map_cons, String.ofList_toList]

theorem split_eq_singleton {s : String} {c : Char} (h : c ∉ s.toList) : split s c = [s] := by
  have hs : ∀ x ∈ s.toList, (x == c) = false := by
    intro x hx
    rw [beq_eq_false_iff_ne]
    rintro rfl
    exact h hx
  unfold split List.splitOn
  rw [List.splitOnP_eq_singleton hs, List.map_singleton, String.ofList_toList]

/-- `piece` stands between two separators of the text, the two ends of the text counting as
separators. -/
def IsPiece (s : String) (c : Char) (piece : String) : Prop :=
  c ∉ piece.toList ∧ ∃ pre post, c :: s.toList ++ [c] = pre ++ c :: piece.toList ++ c :: post

theorem IsPiece.mem {s piece : String} {c x : Char} (h : IsPiece s c piece)
    (hx : x ∈ piece.toList) : x ∈ s.toList := by
  obtain ⟨hc, pre, post, he⟩ := h
  have hmem : x ∈ c :: s.toList ++ [c] := by
    rw [he]
    simp [hx]
  have hne : x ≠ c := by
    rintro rfl
    exact hc hx
  simpa [hne] using hmem

theorem not_mem_of_mem_splitOn {xs piece : List Char} {c : Char} (h : piece ∈ xs.splitOn c) :
    c ∉ piece := by
  induction xs generalizing piece with
  | nil =>
    rw [List.splitOn_nil, List.mem_singleton] at h
    simp [h]
  | cons x xs ih =>
    rw [List.splitOn_cons_eq_if_modifyHead] at h
    split at h
    · rcases List.mem_cons.1 h with rfl | h
      · simp
      · exact ih h
    · rename_i hx
      obtain ⟨first, rest, hpieces⟩ := List.exists_cons_of_ne_nil (List.splitOn_ne_nil c xs)
      rw [hpieces, List.modifyHead_cons] at h
      rcases List.mem_cons.1 h with rfl | h
      · have hfirst : c ∉ first := ih (by rw [hpieces]; exact List.mem_cons_self)
        have hne : c ≠ x := fun he => hx (by simp [he])
        simp [hne, hfirst]
      · exact ih (by rw [hpieces]; exact List.mem_cons_of_mem _ h)

theorem flatMap_cons_eq {α : Type} (c : α) {pieces : List (List α)} (h : pieces ≠ []) :
    pieces.flatMap (fun piece => c :: piece) = c :: [c].intercalate pieces := by
  induction pieces with
  | nil => exact absurd rfl h
  | cons piece rest ih =>
    cases rest with
    | nil => simp [List.intercalate]
    | cons next rest =>
      rw [List.flatMap_cons, ih (List.cons_ne_nil _ _)]
      simp [List.intercalate, List.intersperse]

/-- What is neither the first nor the last element of a list is between them. -/
theorem mem_of_between {α : Type} {first last x : α} {middle pre post : List α} (hpre : pre ≠ [])
    (hpost : post ≠ []) (h : first :: middle ++ [last] = pre ++ x :: post) : x ∈ middle := by
  obtain ⟨head, pre, rfl⟩ := List.exists_cons_of_ne_nil hpre
  rw [← List.dropLast_append_getLast hpost, List.cons_append, List.cons_append, List.cons.injEq,
    ← List.cons_append, ← List.append_assoc] at h
  rw [(List.append_inj' h.2 rfl).1]
  simp

/-- `split` gives exactly the pieces between the separators. -/
theorem mem_split_iff {s piece : String} {c : Char} : piece ∈ split s c ↔ IsPiece s c piece := by
  have hmem : piece ∈ split s c ↔ piece.toList ∈ s.toList.splitOn c := by
    unfold split
    rw [List.mem_map]
    exact ⟨fun ⟨_, h, he⟩ => by rwa [← he, String.toList_ofList],
      fun h => ⟨_, h, String.ofList_toList⟩⟩
  rw [hmem]
  constructor
  · intro h
    obtain ⟨pre, post, hpieces⟩ := List.append_of_mem h
    have htext : c :: s.toList ++ [c] = (s.toList.splitOn c).flatMap (fun x => c :: x) ++ [c] := by
      rw [flatMap_cons_eq c (List.splitOn_ne_nil c s.toList), List.intercalate_splitOn]
    have hrest : ∃ rest, post.flatMap (fun x => c :: x) ++ [c] = c :: rest := by
      cases post with
      | nil => exact ⟨[], rfl⟩
      | cons next post => exact ⟨_, rfl⟩
    obtain ⟨rest, hrest⟩ := hrest
    refine ⟨not_mem_of_mem_splitOn h, pre.flatMap (fun x => c :: x), rest, ?_⟩
    rw [htext, hpieces, List.flatMap_append, List.flatMap_cons, ← hrest]
    simp only [List.append_assoc]
  · rintro ⟨hpiece, pre, post, h⟩
    have hsplit := congrArg (List.splitOn c) h
    have hleft : (c :: s.toList ++ [c]).splitOn c = [] :: s.toList.splitOn c ++ [[]] := by
      have := List.splitOn_append_cons_self [] (s.toList ++ [c]) (a := c)
      rw [List.nil_append, List.splitOn_append_cons_self, List.splitOn_nil] at this
      exact this
    have hright : (pre ++ c :: piece.toList ++ c :: post).splitOn c =
        pre.splitOn c ++ piece.toList :: post.splitOn c := by
      rw [List.splitOn_append_cons_self, List.splitOn_append_cons_self,
        List.splitOn_eq_singleton hpiece, List.append_assoc, List.singleton_append]
    rw [hleft, hright] at hsplit
    exact mem_of_between (List.splitOn_ne_nil c pre) (List.splitOn_ne_nil c post) hsplit

/-- A string is cut at its last separator in one way. -/
theorem append_sep_inj {s s' t t' : String} {c : Char} (ht : c ∉ t.toList) (ht' : c ∉ t'.toList) :
    s ++ String.singleton c ++ t = s' ++ String.singleton c ++ t' ↔ s = s' ∧ t = t' := by
  constructor
  · intro h
    have hl := congrArg String.toList h
    simp only [String.toList_append, String.toList_singleton, List.append_assoc,
      List.singleton_append] at hl
    rcases List.append_eq_append_iff.1 hl with ⟨l, hs, ht₁⟩ | ⟨l, hs, ht₁⟩
    · cases l with
      | nil =>
        rw [List.append_nil] at hs
        exact ⟨(String.toList_inj.1 hs).symm, String.toList_inj.1 (List.cons_eq_cons.1 ht₁).2⟩
      | cons d l =>
        have := (List.cons_eq_cons.1 ht₁).2
        rw [this] at ht
        simp at ht
    · cases l with
      | nil =>
        rw [List.append_nil] at hs
        exact ⟨String.toList_inj.1 hs, (String.toList_inj.1 (List.cons_eq_cons.1 ht₁).2).symm⟩
      | cons d l =>
        have := (List.cons_eq_cons.1 ht₁).2
        rw [this] at ht'
        simp at ht'
  · rintro ⟨rfl, rfl⟩
    rfl

/-- `isspace` in the C locale. -/
def isSpace (c : Char) : Bool := c = ' ' || '\t' ≤ c && c ≤ '\r'

/-- `Trim`. -/
def trim (s : String) : String :=
  String.ofList ((s.toList.dropWhile isSpace).reverse.dropWhile isSpace).reverse

def digitValue (c : Char) : Nat :=
  if c.isDigit then c.toNat - '0'.toNat
  else if 'a' ≤ c && c ≤ 'f' then c.toNat - 'a'.toNat + 10
  else if 'A' ≤ c && c ≤ 'F' then c.toNat - 'A'.toNat + 10
  else 16

/-- The value of a non-empty string of digits. -/
def parseDigits (base : Nat) (l : List Char) : Option Nat :=
  if l ≠ [] ∧ l.all (digitValue · < base) then some (l.foldl (fun n c => base * n + digitValue c) 0)
  else none

/-- `ParseInt` for an `int`: blanks, a sign and decimal digits, or `0x` and hexadecimal ones, within
range. -/
def parseInt (s : String) : Option Int :=
  let value : Option Int := match s.toList.dropWhile isSpace with
    | '0' :: 'x' :: l => (parseDigits 16 l).map Int.ofNat
    | '0' :: 'X' :: l => (parseDigits 16 l).map Int.ofNat
    | '-' :: l => (parseDigits 10 l).map fun n => -(n : Int)
    | '+' :: l => (parseDigits 10 l).map Int.ofNat
    | l => (parseDigits 10 l).map Int.ofNat
  value.filter fun v => decide (-2 ^ 31 ≤ v ∧ v < 2 ^ 31)

theorem parseDigits_toDigits (n : Nat) : parseDigits 10 (Nat.toDigits 10 n) = some n := by
  have hdigit : ∀ c ∈ Nat.toDigits 10 n, digitValue c = c.toNat - '0'.toNat ∧ c.isDigit := by
    intro c hc
    have hd := Nat.isDigit_of_mem_toDigits (by decide) (by decide) hc
    refine ⟨?_, hd⟩
    unfold digitValue
    rw [if_pos hd]
  have hall : (Nat.toDigits 10 n).all (digitValue · < 10) = true := by
    rw [List.all_eq_true]
    intro c hc
    obtain ⟨hv, hd⟩ := hdigit c hc
    have hle : c.toNat ≤ 57 := by
      unfold Char.isDigit at hd
      rw [Bool.and_eq_true, decide_eq_true_eq, decide_eq_true_eq] at hd
      exact UInt32.le_iff_toNat_le.1 hd.2
    rw [hv, decide_eq_true_eq]
    show c.toNat - 48 < 10
    omega
  unfold parseDigits
  rw [if_pos ⟨Nat.toDigits_ne_nil, hall⟩]
  have hfold : ∀ (l : List Char) (k : Nat), (∀ c ∈ l, digitValue c = c.toNat - '0'.toNat) →
      l.foldl (fun n c => 10 * n + digitValue c) k = Nat.ofDigitChars 10 l k := by
    intro l
    induction l with
    | nil => intros; rfl
    | cons c l ih =>
      intro k hl
      rw [List.foldl_cons, Nat.ofDigitChars_cons, hl c List.mem_cons_self]
      exact ih _ fun x hx => hl x (List.mem_cons_of_mem _ hx)
  rw [hfold _ _ fun c hc => (hdigit c hc).1, Nat.ofDigitChars_toDigits (by decide) (by decide)]

/-- The values of an `int`. -/
def IntRange (v : Int) : Prop := -2 ^ 31 ≤ v ∧ v < 2 ^ 31

instance (v : Int) : Decidable (IntRange v) := inferInstanceAs (Decidable (_ ∧ _))

theorem not_isSpace_of_isDigit {c : Char} (hc : c.isDigit) : isSpace c = false := by
  by_contra hne
  rw [Bool.not_eq_false] at hne
  unfold isSpace at hne
  unfold Char.isDigit at hc
  simp only [Bool.and_eq_true, Bool.or_eq_true, decide_eq_true_eq] at hc hne
  rcases hne with rfl | ⟨_, hle⟩
  · exact absurd hc.1 (by decide)
  · have h1 := UInt32.le_iff_toNat_le.1 hc.1
    have h2 : c.val.toNat ≤ 13 := UInt32.le_iff_toNat_le.1 hle
    have h3 : 48 ≤ c.val.toNat := h1
    omega

theorem dropWhile_isSpace_cons {c : Char} {l : List Char} (h : isSpace c = false) :
    (c :: l).dropWhile isSpace = c :: l := by
  rw [List.dropWhile_cons, h, if_neg (by decide)]

/-- **A number written in decimal is read back if it is an `int`**, and not at all otherwise. -/
theorem parseInt_toString_int (i : Int) :
    parseInt (toString i) = if IntRange i then some i else none := by
  have hdigit : ∀ n : Nat, ∀ c ∈ Nat.toDigits 10 n, c.isDigit := fun n c hc =>
    Nat.isDigit_of_mem_toDigits (by decide) (by decide) hc
  cases i with
  | ofNat n =>
    have hl : (toString (Int.ofNat n)).toList = Nat.toDigits 10 n := Nat.toList_repr
    have hdrop : (Nat.toDigits 10 n).dropWhile isSpace = Nat.toDigits 10 n := by
      cases hd : Nat.toDigits 10 n with
      | nil => rfl
      | cons c l =>
        apply dropWhile_isSpace_cons
        apply not_isSpace_of_isDigit
        apply hdigit n
        rw [hd]
        exact List.mem_cons_self
    have hvalue := parseDigits_toDigits n
    unfold parseInt
    rw [hl, hdrop]
    -- no decimal number starts with a sign or `0x`
    dsimp only
    split
    · rename_i hx
      exact absurd (hdigit n 'x' (by rw [hx]; simp)) (by decide)
    · rename_i hx
      exact absurd (hdigit n 'X' (by rw [hx]; simp)) (by decide)
    · rename_i hx
      exact absurd (hdigit n '-' (by rw [hx]; simp)) (by decide)
    · rename_i hx
      exact absurd (hdigit n '+' (by rw [hx]; simp)) (by decide)
    · rw [hvalue, Option.map_some, Option.filter_some]
      simp only [decide_eq_true_eq]
      rfl
  | negSucc n =>
    have hl : (toString (Int.negSucc n)).toList = '-' :: Nat.toDigits 10 (n + 1) := by
      simp [toString, Int.repr, Nat.toList_repr, String.toList_append]
    unfold parseInt
    rw [hl, dropWhile_isSpace_cons (by decide)]
    dsimp only
    split
    · rename_i hx
      exact absurd (List.cons_eq_cons.1 hx).1 (by decide)
    · rename_i hx
      exact absurd (List.cons_eq_cons.1 hx).1 (by decide)
    · rename_i hx
      rw [← (List.cons_eq_cons.1 hx).2, parseDigits_toDigits]
      simp only [Option.pure_def, Option.bind_eq_bind, Option.bind_some, Option.map_some,
        Option.filter_some, decide_eq_true_eq]
      rfl
    · rename_i hx
      exact absurd (List.cons_eq_cons.1 hx).1 (by decide)
    · rename_i hx _
      exact absurd rfl (hx _)

theorem parseInt_toString {n : Nat} (h : n < 2 ^ 31) : parseInt (toString n) = some (n : Int) := by
  have hi := parseInt_toString_int (n : Int)
  rw [if_pos] at hi
  · exact hi
  · unfold IntRange
    omega

/-! ## Bytes -/

/-- The bytes of a string. -/
def bytes (s : String) : List UInt8 := s.toByteArray.data.toList

/-- Bytes as text; where they are not UTF-8, a character for each byte. -/
def ofBytes (b : List UInt8) : String :=
  (String.fromUTF8? ⟨b.toArray⟩).getD (String.ofList (b.map fun x => Char.ofNat x.toNat))

/-- The string that starts here and ends before the first zero byte. -/
def cString (b : List UInt8) : List UInt8 := b.takeWhile (· != 0)

/-- Two lower-case hexadecimal digits for each byte. -/
def bytesToHex (b : List UInt8) : String :=
  String.ofList (b.flatMap fun x => [Nat.digitChar (x.toNat / 16), Nat.digitChar (x.toNat % 16)])

end Text
