import Mathlib.Data.List.Basic
import Mathlib.Tactic.Common

/-!
# The protobuf wire format: varints and optional fields

* `varint`, `readVarint` — base-128 numbers, low groups first; `readVarint_varint` and
  `readVarint_take` say that a whole number is read back and that a cut one is refused.
* `optField`, `readOpt` — a varint field that is left out at its default.
* `packedField`, `readPacked` — a packed repeated varint field that is left out when empty.
Each field has a lemma for a whole one and a lemma for a cut one.
-/

set_option autoImplicit false

namespace Wire

/-- The base-128 groups of a number, with fuel. -/
def groups : Nat → Nat → List UInt8
  | 0, _ => []
  | fuel + 1, n =>
    if n < 128 then [UInt8.ofNat n] else UInt8.ofNat (n % 128 + 128) :: groups fuel (n / 128)

def varint (n : Nat) : List UInt8 := groups (n + 1) n

def readVarint : List UInt8 → Option (Nat × List UInt8)
  | [] => none
  | b :: bs =>
    if b.toNat < 128 then some (b.toNat, bs)
    else (readVarint bs).map fun x => (b.toNat - 128 + 128 * x.1, x.2)

theorem readVarint_groups {fuel n : Nat} (h : n < fuel) (rest : List UInt8) :
    readVarint (groups fuel n ++ rest) = some (n, rest) := by
  induction fuel generalizing n with
  | zero => omega
  | succ fuel ih =>
    unfold groups
    by_cases hn : n < 128
    · have hb : (UInt8.ofNat n).toNat = n := by rw [UInt8.toNat_ofNat']; omega
      rw [if_pos hn, List.singleton_append, readVarint, hb, if_pos hn]
    · have hb : (UInt8.ofNat (n % 128 + 128)).toNat = n % 128 + 128 := by
        rw [UInt8.toNat_ofNat']; omega
      rw [if_neg hn, List.cons_append, readVarint, hb, if_neg (by omega), ih (by omega)]
      simp only [Option.map_some, Option.some.injEq, Prod.mk.injEq, and_true]
      omega

theorem readVarint_groups_take {fuel n k : Nat} (h : k < (groups fuel n).length) :
    readVarint ((groups fuel n).take k) = none := by
  induction fuel generalizing n k with
  | zero => simp [groups] at h
  | succ fuel ih =>
    unfold groups at h ⊢
    by_cases hn : n < 128
    · rw [if_pos hn, List.length_singleton] at h
      rw [Nat.lt_one_iff.1 h, List.take_zero]
      rfl
    · rw [if_neg hn, List.length_cons] at h
      rw [if_neg hn]
      cases k with
      | zero => rfl
      | succ k =>
        have hb : (UInt8.ofNat (n % 128 + 128)).toNat = n % 128 + 128 := by
          rw [UInt8.toNat_ofNat']; omega
        rw [List.take_succ_cons, readVarint, hb, if_neg (by omega), ih (by omega)]
        rfl

/-- A number is read back, and what follows it is left. -/
theorem readVarint_varint (n : Nat) (rest : List UInt8) :
    readVarint (varint n ++ rest) = some (n, rest) := readVarint_groups (Nat.lt_succ_self n) rest

/-- A number that is cut short is refused. -/
theorem readVarint_take {n k : Nat} (h : k < (varint n).length) :
    readVarint ((varint n).take k) = none := readVarint_groups_take h

/-! ## Optional fields -/

def optField (tag : UInt8) (n : Nat) : List UInt8 := if n = 0 then [] else tag :: varint n

/-- Read a field if its tag comes next. -/
def readOpt (tag : UInt8) : List UInt8 → Option (Nat × List UInt8)
  | [] => some (0, [])
  | b :: bs => if b = tag then readVarint bs else some (0, b :: bs)

theorem readOpt_skip {tag : UInt8} {rest : List UInt8} (h : rest.head? ≠ some tag) :
    readOpt tag rest = some (0, rest) := by
  cases rest with
  | nil => rfl
  | cons b bs =>
    have hb : b ≠ tag := fun e => h (congrArg some e)
    simp [readOpt, hb]

theorem readOpt_optField {tag : UInt8} {rest : List UInt8} (n : Nat) (h : rest.head? ≠ some tag) :
    readOpt tag (optField tag n ++ rest) = some (n, rest) := by
  unfold optField
  split
  · rename_i hn
    rw [List.nil_append, readOpt_skip h, hn]
  · rw [List.cons_append, readOpt, if_pos rfl, readVarint_varint]

theorem readOpt_take {tag : UInt8} {n k : Nat} (h0 : 0 < k) (h : k < (optField tag n).length) :
    readOpt tag ((optField tag n).take k) = none := by
  unfold optField at h ⊢
  split at h
  · simp at h
  · rename_i hn
    obtain ⟨k, rfl⟩ := Nat.exists_eq_succ_of_ne_zero (Nat.pos_iff_ne_zero.1 h0)
    rw [if_neg hn, List.take_succ_cons, readOpt, if_pos rfl]
    exact readVarint_take (by simpa using h)

theorem head?_optField_append {tag tag' : UInt8} (ht : tag ≠ tag') (n : Nat) {rest : List UInt8}
    (h : rest.head? ≠ some tag) : (optField tag' n ++ rest).head? ≠ some tag := by
  unfold optField
  split
  · exact h
  · simpa using Ne.symm ht

theorem head?_take_optField {tag tag' : UInt8} (ht : tag ≠ tag') (n k : Nat) :
    ((optField tag' n).take k).head? ≠ some tag := by
  unfold optField
  split
  · simp
  · cases k with
    | zero => simp
    | succ k => simpa using Ne.symm ht

/-! ## Packed fields -/

def payload (ns : List Nat) : List UInt8 := ns.flatMap varint

/-- Numbers up to the end, the current one having collected `acc` and continuing at `unit`. -/
def readVarints (acc unit : Nat) : List UInt8 → Option (List Nat)
  | [] => if unit = 1 then some [] else none
  | b :: bs =>
    if b.toNat < 128 then (readVarints 0 1 bs).map fun ns => (acc + unit * b.toNat) :: ns
    else readVarints (acc + unit * (b.toNat - 128)) (unit * 128) bs

theorem readVarints_groups {fuel n acc unit : Nat} (h : n < fuel) (rest : List UInt8) :
    readVarints acc unit (groups fuel n ++ rest) =
      (readVarints 0 1 rest).map fun ns => (acc + unit * n) :: ns := by
  induction fuel generalizing n acc unit with
  | zero => omega
  | succ fuel ih =>
    unfold groups
    by_cases hn : n < 128
    · have hb : (UInt8.ofNat n).toNat = n := by rw [UInt8.toNat_ofNat']; omega
      rw [if_pos hn, List.singleton_append, readVarints, hb, if_pos hn]
    · have hb : (UInt8.ofNat (n % 128 + 128)).toNat = n % 128 + 128 := by
        rw [UInt8.toNat_ofNat']; omega
      have hsum : acc + unit * (n % 128 + 128 - 128) + unit * 128 * (n / 128) = acc + unit * n := by
        rw [Nat.add_sub_cancel, Nat.add_assoc, Nat.mul_assoc, ← Nat.mul_add, Nat.mod_add_div]
      rw [if_neg hn, List.cons_append, readVarints, hb, if_neg (by omega), ih (by omega), hsum]

theorem readVarints_payload (ns : List Nat) : readVarints 0 1 (payload ns) = some ns := by
  induction ns with
  | nil => rfl
  | cons n ns ih =>
    rw [payload, List.flatMap_cons, varint, readVarints_groups (Nat.lt_succ_self n)]
    rw [show readVarints 0 1 (List.flatMap varint ns) = some ns from ih]
    simp

def packedField (tag : UInt8) (ns : List Nat) : List UInt8 :=
  if ns = [] then [] else tag :: (varint (payload ns).length ++ payload ns)

/-- Read a packed field if its tag comes next. -/
def readPacked (tag : UInt8) : List UInt8 → Option (List Nat × List UInt8)
  | [] => some ([], [])
  | b :: bs =>
    if b = tag then
      (readVarint bs).bind fun x =>
        if x.2.length < x.1 then none
        else (readVarints 0 1 (x.2.take x.1)).map fun ns => (ns, x.2.drop x.1)
    else some ([], b :: bs)

theorem readPacked_packedField (tag : UInt8) (ns : List Nat) :
    readPacked tag (packedField tag ns) = some (ns, []) := by
  unfold packedField
  split
  · rename_i hn
    rw [hn]
    rfl
  · rw [readPacked, if_pos rfl, readVarint_varint]
    simp [readVarints_payload]

theorem readPacked_take {tag : UInt8} {ns : List Nat} {k : Nat} (h0 : 0 < k)
    (h : k < (packedField tag ns).length) :
    readPacked tag ((packedField tag ns).take k) = none := by
  unfold packedField at h ⊢
  split at h
  · simp at h
  · rename_i hn
    obtain ⟨k, rfl⟩ := Nat.exists_eq_succ_of_ne_zero (Nat.pos_iff_ne_zero.1 h0)
    rw [if_neg hn, List.take_succ_cons, readPacked, if_pos rfl]
    simp only [List.length_cons, List.length_append] at h
    by_cases hk : k < (varint (payload ns).length).length
    · -- the length itself is cut
      rw [List.take_append_of_le_length (Nat.le_of_lt hk), readVarint_take hk]
      rfl
    · -- the numbers are cut
      rw [List.take_append, List.take_of_length_le (by omega), readVarint_varint, Option.bind_some,
        if_pos]
      rw [List.length_take]
      omega

theorem head?_take_packedField {tag tag' : UInt8} (ht : tag ≠ tag') (ns : List Nat) (k : Nat) :
    ((packedField tag' ns).take k).head? ≠ some tag := by
  unfold packedField
  split
  · simp
  · cases k with
    | zero => simp
    | succ k => simpa using Ne.symm ht

theorem head?_packedField {tag tag' : UInt8} (ht : tag ≠ tag') (ns : List Nat) :
    (packedField tag' ns).head? ≠ some tag := by
  have := head?_take_packedField ht ns (packedField tag' ns).length
  rwa [List.take_length] at this

end Wire
