import Mathlib.Data.List.Basic

/-!
# Input file streams

`std::ifstream` with the three bits of its state.

* `IfStream.ofFile` — a file that does not open leaves `failbit`, and neither `badbit` nor `eofbit`.
* `IfStream.read` — a block of at most `n` bytes; a stream that is not good gives none and stays as
  far as it was.
* `IfStream.read_short`, `IfStream.read_full`, `IfStream.read_not_good` — what a read does in each
  of its cases.
-/

set_option autoImplicit false

/-- What there is at a path. -/
inductive FileState where
  | present (content : List UInt8)
  | absent
  | notPermitted

/-- The file can be opened. -/
def FileState.Opens : FileState → Prop
  | .present _ => True
  | _ => False

structure IfStream where
  rest : List UInt8
  eofbit : Bool
  failbit : Bool
  badbit : Bool

namespace IfStream

def good (s : IfStream) : Bool := !s.eofbit && !s.failbit && !s.badbit

def ofFile : FileState → IfStream
  | .present content => { rest := content, eofbit := false, failbit := false, badbit := false }
  | _ => { rest := [], eofbit := false, failbit := true, badbit := false }

/-- `read` of up to `n` bytes: what is extracted, and the stream after it. -/
def read (s : IfStream) (n : Nat) : List UInt8 × IfStream :=
  if s.good then
    if n ≤ s.rest.length then (s.rest.take n, { s with rest := s.rest.drop n })
    else (s.rest, { s with rest := [], eofbit := true, failbit := true })
  else ([], { s with failbit := true })

variable {s : IfStream} {n : Nat}

theorem read_full (hs : s.good = true) (hn : n ≤ s.rest.length) :
    s.read n = (s.rest.take n, { s with rest := s.rest.drop n }) := by
  unfold read
  rw [if_pos hs, if_pos hn]

theorem read_short (hs : s.good = true) (hn : s.rest.length < n) :
    s.read n = (s.rest, { s with rest := [], eofbit := true, failbit := true }) := by
  unfold read
  rw [if_pos hs, if_neg (by omega)]

theorem read_not_good (hs : s.good = false) : s.read n = ([], { s with failbit := true }) := by
  unfold read
  rw [if_neg (by simp [hs])]

/-- Reading never sets `badbit`. -/
theorem read_badbit : (s.read n).2.badbit = s.badbit := by
  unfold read
  repeat' split
  all_goals rfl

end IfStream
