import Apexd.Lib.Wire
import Apexd.Types

/-!
# The stored form of a session record

`session_state.proto` on the wire: `id` under tag `0x08`, `state` under `0x10`, the packed child
ids under `0x1a`, each left out at its default; an `int32` is written as 64 bits.

* `sessionWire` — this format has the two properties that apexd relies on.
-/

set_option autoImplicit false

namespace Apexd

open Wire

/-- An `int32` as it is written: sign-extended. -/
def int32Wire (i : Int32) : Nat := u64 i.toInt

theorem ofInt_int32Wire (i : Int32) : Int32.ofInt (int32Wire i) = i := by
  have h := i.toInt_lt
  have h' := i.le_toInt
  apply Int32.toInt_inj.1
  rw [Int32.toInt_ofInt]
  unfold int32Wire u64
  rw [Int.bmod_def]
  simp only [Int32.size]
  split <;> omega

def State.ofNumber : Nat → Option State
  | 0 => some .UNKNOWN
  | 1 => some .VERIFIED
  | 2 => some .STAGED
  | 3 => some .ACTIVATED
  | 4 => some .ACTIVATION_FAILED
  | 5 => some .SUCCESS
  | 6 => some .ROLLBACK_IN_PROGRESS
  | 7 => some .ROLLED_BACK
  | 8 => some .ROLLBACK_FAILED
  | _ => none

theorem State.ofNumber_number (s : State) : State.ofNumber s.number = some s := by
  cases s <;> rfl

/-- The three fields of a record. -/
def wireField (r : SessionState) : Fin 3 → List UInt8
  | 0 => optField 0x08 (int32Wire r.id)
  | 1 => optField 0x10 r.state.number
  | 2 => packedField 0x1a (r.childSessionIds.map int32Wire)

def wireParse (b : List UInt8) : Option SessionState :=
  (readOpt 0x08 b).bind fun id =>
    (readOpt 0x10 id.2).bind fun state =>
      (readPacked 0x1a state.2).bind fun children =>
        if children.2 = [] then
          (State.ofNumber state.1).map fun st =>
            ⟨Int32.ofInt id.1, st, children.1.map fun (c : Nat) => Int32.ofInt c⟩
        else none

theorem map_ofInt_int32Wire (l : List Int32) :
    (l.map int32Wire).map (fun (c : Nat) => Int32.ofInt c) = l := by
  rw [List.map_map]
  exact (List.map_congr_left fun i _ => ofInt_int32Wire i).trans (List.map_id l)

theorem wireParse_eq {b b₁ b₂ : List UInt8} {i : Int32} {st : State} {c : List Int32}
    (h0 : readOpt 0x08 b = some (int32Wire i, b₁)) (h1 : readOpt 0x10 b₁ = some (st.number, b₂))
    (h2 : readPacked 0x1a b₂ = some (c.map int32Wire, [])) : wireParse b = some ⟨i, st, c⟩ := by
  unfold wireParse
  rw [h0, Option.bind_some, h1, Option.bind_some, h2, Option.bind_some, if_pos rfl,
    State.ofNumber_number, Option.map_some, ofInt_int32Wire, map_ofInt_int32Wire]

theorem wireParse_fields (r : SessionState) (n : Nat) (h : n ≤ 3) :
    wireParse (((List.finRange 3).take n).flatMap (wireField r)) = some (r.firstFields n) := by
  have hn : n = 0 ∨ n = 1 ∨ n = 2 ∨ n = 3 := by omega
  rcases hn with rfl | rfl | rfl | rfl
  · rfl
  · have hu : readOpt 0x10 [] = some (State.UNKNOWN.number, []) := rfl
    exact wireParse_eq (c := []) (readOpt_optField _ (by simp)) hu rfl
  · have hs : readOpt 0x10 (optField 0x10 r.state.number ++ []) = some (r.state.number, []) :=
      readOpt_optField _ (by simp)
    exact wireParse_eq (c := [])
      (readOpt_optField _ (head?_optField_append (by decide) _ (by simp))) hs rfl
  · have hp := head?_packedField (show (0x08 : UInt8) ≠ 0x1a by decide)
      (r.childSessionIds.map int32Wire)
    have hp' := head?_packedField (show (0x10 : UInt8) ≠ 0x1a by decide)
      (r.childSessionIds.map int32Wire)
    show wireParse (optField 0x08 (int32Wire r.id) ++ (optField 0x10 r.state.number ++
      (packedField 0x1a (r.childSessionIds.map int32Wire) ++ []))) = _
    rw [List.append_nil]
    exact wireParse_eq (readOpt_optField _ (head?_optField_append (by decide) _ hp))
      (readOpt_optField _ hp') (readPacked_packedField _ _)

theorem wireParse_torn (r : SessionState) (i : Fin 3) (k : Nat) (h0 : 0 < k)
    (h : k < (wireField r i).length) :
    wireParse (((List.finRange 3).take i.val).flatMap (wireField r) ++ (wireField r i).take k) =
      none := by
  match i with
  | 0 =>
    show wireParse ((optField 0x08 (int32Wire r.id)).take k) = none
    rw [wireParse, readOpt_take h0 h, Option.bind_none]
  | 1 =>
    have hh := head?_take_optField (show (0x08 : UInt8) ≠ 0x10 by decide) r.state.number k
    have ht : readOpt 0x10 ((optField 0x10 r.state.number).take k) = none := readOpt_take h0 h
    show wireParse ((optField 0x08 (int32Wire r.id) ++ []) ++
      (optField 0x10 r.state.number).take k) = none
    rw [List.append_nil, wireParse, readOpt_optField _ hh, Option.bind_some, ht, Option.bind_none]
  | 2 =>
    have hh := head?_take_packedField (show (0x10 : UInt8) ≠ 0x1a by decide)
      (r.childSessionIds.map int32Wire) k
    have hh' := head?_take_packedField (show (0x08 : UInt8) ≠ 0x1a by decide)
      (r.childSessionIds.map int32Wire) k
    have ht : readPacked 0x1a ((packedField 0x1a (r.childSessionIds.map int32Wire)).take k) =
        none :=
      readPacked_take h0 h
    show wireParse ((optField 0x08 (int32Wire r.id) ++ (optField 0x10 r.state.number ++ [])) ++
      (packedField 0x1a (r.childSessionIds.map int32Wire)).take k) = none
    rw [List.append_nil, List.append_assoc, wireParse,
      readOpt_optField _ (head?_optField_append (by decide) _ hh'), Option.bind_some,
      readOpt_optField _ hh, Option.bind_some, ht, Option.bind_none]

/-- The wire format of session records. -/
def sessionWire : SessionProto where
  field := wireField
  parse := wireParse
  parse_fields := wireParse_fields
  parse_torn := wireParse_torn

example : sessionWire.serialize ⟨42, .ACTIVATED, [7, 300]⟩ =
    [0x08, 42, 0x10, 3, 0x1a, 3, 7, 172, 2] := by decide

/-- An updatable device with the stored form of the proto files. -/
def deviceConfig : Config := ⟨true, false, false, sessionWire⟩

end Apexd
