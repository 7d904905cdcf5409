import Apexd.Lib.Stream
import Apexd.ShimImage

/-!
# The hash of a shim update

`CalculateSha512`, `ReadSha512` and `ValidateUpdate` (`apex_shim.cpp`), down to the blocks the file
is read in.

* `Sha512` — the hash of the crypto library, fed piece by piece.
* `readLoop_present` — from a file that opens each byte is fed once, in its place.
* `validateUpdate_ok_iff` — an update is valid iff the system's shim lists its hash in hexadecimal.
* `readLoop_stuck` — the loop waits for `eofbit`, which a file that does not open never sets.
* `calculateSha512_ends_iff` — so it ends on the files that open, and on no other.
-/

set_option autoImplicit false

namespace Apexd.Shim

open Text

/-- `SHA512_Init`, `SHA512_Update` and `SHA512_Final`. -/
structure Sha512 where
  Ctx : Type
  init : Ctx
  update : Ctx → List UInt8 → Ctx
  final : Ctx → List UInt8
  update_update : ∀ ctx a b, update (update ctx a) b = update ctx (a ++ b)
  final_length : ∀ ctx, (final ctx).length = 64

/-- The hash of the whole of a content. -/
def Sha512.digest (sha : Sha512) (content : List UInt8) :
    List UInt8 := sha.final (sha.update sha.init content)

def kBufSize : Nat := 1024

section Calculate

variable (sha : Sha512) (path : String)

/-- `while (!apex.eof())`; `none` if the loop has not ended after `fuel` rounds. -/
def readLoop : Nat → IfStream → sha.Ctx → Option (Except String sha.Ctx)
  | 0, _, _ => none
  | fuel + 1, apex, ctx =>
    if apex.eofbit then some (.ok ctx) else
    let (buf, apex) := apex.read kBufSize
    if apex.badbit then some (.error ("Failed to read " ++ path)) else
    readLoop fuel apex (sha.update ctx buf)

/-- `std::hex << std::setw(2) << std::setfill('0')` for each byte. -/
def hexString (hash : List UInt8) : String :=
  String.ofList (hash.flatMap fun b => (Nat.toDigits 16 b.toNat).leftpad 2 '0')

/-- `CalculateSha512` of the file that is at the path. -/
def calculateSha512 (file : FileState) (fuel : Nat) : Option (Except String String) :=
  let apex := IfStream.ofFile file
  if apex.badbit then some (.error ("Failed to open " ++ path)) else
  (readLoop sha path fuel apex sha.init).map fun r => r.map fun ctx => hexString (sha.final ctx)

end Calculate

/-- `ReadSha512`; `readFileToString` reads a file that is no link, one character for a byte. -/
def readSha512 (readFileToString : String → Except Errno String) (path : String) :
    Except String (List String) :=
  let filePath := path ++ "/" ++ kEtcFolderName ++ "/" ++ kHashFileName
  match readFileToString filePath with
  | .error e => .error (perror ("Failed to read " ++ filePath) e)
  | .ok hash => .ok (split hash '\n')

def validateUpdate (sha : Sha512) (readFileToString : String → Except Errno String)
    (files : String → FileState)
    (systemApexPath newApexPath : String) (fuel : Nat) : Option (Except String Unit) :=
  match readSha512 readFileToString systemApexPath with
  | .error e => some (.error e)
  | .ok allowed =>
    (calculateSha512 sha newApexPath (files newApexPath) fuel).map fun r => do
      let actual ← r
      if actual ∈ allowed then .ok () else
        .error (newApexPath ++ " has unexpected SHA512 hash " ++ actual)

/-! ## The digits -/

theorem toDigits_leftpad {n : Nat} (hn : n < 256) :
    (Nat.toDigits 16 n).leftpad 2 '0' = [(n / 16).digitChar, (n % 16).digitChar] := by
  by_cases h : n < 16
  · rw [Nat.toDigits_of_lt_base h, Nat.div_eq_of_lt h, Nat.mod_eq_of_lt h]
    rfl
  · rw [Nat.toDigits_of_base_le (by decide) (by omega), Nat.toDigits_of_lt_base (by omega)]
    rfl

theorem hexString_eq (hash : List UInt8) : hexString hash = bytesToHex hash := by
  unfold hexString bytesToHex
  congr 2
  funext b
  exact toDigits_leftpad b.toNat_lt

theorem bytesToHex_length (hash : List UInt8) : (bytesToHex hash).length = 2 * hash.length := by
  unfold bytesToHex
  rw [String.length_ofList, List.length_flatMap]
  simp
  omega

/-! ## A file that opens -/

section Loop

variable {sha : Sha512} {path : String}

/-- The end of the file has been seen. -/
theorem readLoop_eof {fuel : Nat} {apex : IfStream} {ctx : sha.Ctx} (heof : apex.eofbit = true) :
    readLoop sha path (fuel + 1) apex ctx = some (.ok ctx) := by
  unfold readLoop
  rw [if_pos heof]

/-- One round of the loop on a stream that is not bad. -/
theorem readLoop_step {fuel : Nat} {apex : IfStream} {ctx : sha.Ctx} (heof : apex.eofbit = false)
    (hbad : apex.badbit = false) : readLoop sha path (fuel + 1) apex ctx =
      readLoop sha path fuel (apex.read kBufSize).2 (sha.update ctx (apex.read kBufSize).1) := by
  have hread : (apex.read kBufSize).2.badbit = false := by rw [IfStream.read_badbit, hbad]
  rw [readLoop, if_neg (by simp [heof])]
  dsimp only
  rw [if_neg (by simp [hread])]

/-- **From a file that opens each byte is fed once, in its place.** -/
theorem readLoop_present {fuel : Nat} {apex : IfStream} {ctx : sha.Ctx} (hgood : apex.good = true)
    (hfuel : apex.rest.length / kBufSize + 2 ≤ fuel) :
    readLoop sha path fuel apex ctx = some (.ok (sha.update ctx apex.rest)) := by
  induction fuel generalizing apex ctx with
  | zero => exact absurd hfuel (Nat.not_succ_le_zero _)
  | succ fuel ih =>
    obtain ⟨⟨heof, -⟩, hbad⟩ : (apex.eofbit = false ∧ apex.failbit = false) ∧
        apex.badbit = false := by
      simpa [IfStream.good] using hgood
    rw [readLoop_step heof hbad]
    by_cases hlen : kBufSize ≤ apex.rest.length
    · rw [IfStream.read_full hgood hlen]
      have hrest : apex.rest.length / kBufSize = (apex.rest.drop kBufSize).length /
          kBufSize + 1 := by
        rw [List.length_drop]
        exact Nat.div_eq_sub_div (by decide) hlen
      have hnext : ({ apex with rest := apex.rest.drop kBufSize } : IfStream).good = true := hgood
      rw [ih hnext (by dsimp only; omega), sha.update_update, List.take_append_drop]
    · -- the last block, which may be empty, sets `eofbit`
      rw [IfStream.read_short hgood (by omega)]
      obtain ⟨more, rfl⟩ := Nat.exists_eq_add_of_le'
        (Nat.le_of_add_left_le (Nat.le_of_succ_le_succ hfuel))
      exact readLoop_eof rfl

theorem calculateSha512_present {content : List UInt8} {fuel : Nat}
    (hfuel : content.length / kBufSize + 2 ≤ fuel) :
    calculateSha512 sha path (.present content) fuel = some
      (.ok (bytesToHex (sha.digest content))) := by
  unfold calculateSha512
  rw [if_neg (by simp [IfStream.ofFile]), readLoop_present rfl hfuel, ← hexString_eq]
  rfl

theorem validateUpdate_present {readFileToString : String → Except Errno String} {files :
      String → FileState}
    {systemApexPath newApexPath hashTxt : String} {content : List UInt8}
    (hhash : readFileToString (systemApexPath ++ "/" ++ kEtcFolderName ++ "/" ++ kHashFileName) =
      .ok hashTxt)
    (hnew : files newApexPath = .present content) {fuel : Nat}
    (hfuel : content.length / kBufSize + 2 ≤ fuel) :
    validateUpdate sha readFileToString files systemApexPath newApexPath fuel = some
      (if bytesToHex (sha.digest content) ∈ split hashTxt '\n' then .ok ()
        else .error (newApexPath ++
          " has unexpected SHA512 hash " ++ bytesToHex (sha.digest content))) := by
  unfold validateUpdate readSha512
  dsimp only
  rw [hhash, hnew, calculateSha512_present hfuel]
  rfl

end Loop

/-- **An update is valid exactly when its SHA-512, in lower-case hexadecimal, is a line of the
system's `hash.txt`.** -/
theorem validateUpdate_ok_iff (sha : Sha512) (readFileToString : String → Except Errno String)
    (files : String → FileState) (systemApexPath newApexPath hashTxt : String)
    (content : List UInt8)
    (hhash : readFileToString (systemApexPath ++ "/" ++ kEtcFolderName ++ "/" ++ kHashFileName) =
      .ok hashTxt)
    (hnew : files newApexPath = .present content) :
    (bytesToHex (sha.digest content)).length = 128 ∧ ∃ rounds, ∀ fuel, rounds ≤ fuel → ∃ result,
      validateUpdate sha readFileToString files systemApexPath newApexPath fuel = some result ∧
      (result = .ok () ↔ IsPiece hashTxt '\n' (bytesToHex (sha.digest content))) := by
  constructor
  · rw [bytesToHex_length, Sha512.digest, sha.final_length]
  · refine ⟨content.length / kBufSize + 2,
      fun fuel hfuel => ⟨_, validateUpdate_present hhash hnew hfuel, ?_⟩⟩
    rw [← mem_split_iff]
    split <;> simp [*]

/-- A file that takes two rounds of the loop. -/
@[irreducible] def zeros : List UInt8 := List.replicate 1500 0

theorem length_zeros : zeros.length = 1500 := by
  unfold zeros
  exact List.length_replicate

/-- A hash that is SHA-512 on the empty file and on 1500 zero bytes. -/
def knownSha512 : Sha512 where
  Ctx := List UInt8
  init := []
  update ctx data := ctx ++ data
  final ctx :=
    if ctx = [] then
      [0xcf, 0x83, 0xe1, 0x35, 0x7e, 0xef, 0xb8, 0xbd, 0xf1, 0x54, 0x28, 0x50, 0xd6,
        0x6d, 0x80, 0x07,
       0xd6, 0x20, 0xe4, 0x05, 0x0b, 0x57, 0x15, 0xdc, 0x83, 0xf4, 0xa9, 0x21, 0xd3,
         0x6c, 0xe9, 0xce,
       0x47, 0xd0, 0xd1, 0x3c, 0x5d, 0x85, 0xf2, 0xb0, 0xff, 0x83, 0x18, 0xd2, 0x87,
         0x7e, 0xec, 0x2f,
       0x63, 0xb9, 0x31, 0xbd, 0x47, 0x41, 0x7a, 0x81, 0xa5, 0x38, 0x32, 0x7a, 0xf9,
         0x27, 0xda, 0x3e]
    else if ctx = zeros then
      [0xb0, 0x76, 0x9d, 0x55, 0x93, 0xed, 0x0c, 0x92, 0x64, 0x7d, 0x1a, 0x2d, 0xd1,
        0x18, 0x53, 0x26,
       0x55, 0x2a, 0xbe, 0x07, 0xaa, 0x58, 0xca, 0x3d, 0xc7, 0xf8, 0xac, 0x47, 0x6c,
         0xc4, 0x87, 0x30,
       0xc4, 0x23, 0x85, 0x75, 0xd2, 0xf9, 0x22, 0x9a, 0x78, 0x8e, 0x5f, 0xd4, 0x08,
         0xb9, 0x03, 0x2f,
       0x43, 0x2c, 0xe4, 0x32, 0xe8, 0x25, 0x5f, 0xce, 0x3c, 0x59, 0xf8, 0x69, 0x43,
         0xbf, 0x74, 0xec]
    else List.replicate 64 0
  update_update ctx a b := List.append_assoc ctx a b
  final_length ctx := by
    split
    · rfl
    · split
      · rfl
      · exact List.length_replicate

def emptyHash : String :=
  "cf83e1357eefb8bdf1542850d66d8007d620e4050b5715dc83f4a921d36ce9ce" ++
    "47d0d13c5d85f2b0ff8318d2877eec2f63b931bd47417a81a538327af927da3e"

def zerosHash : String :=
  "b0769d5593ed0c92647d1a2dd1185326552abe07aa58ca3dc7f8ac476cc48730" ++
    "c4238575d2f9229a788e5fd408b9032f432ce432e8255fce3c59f86943bf74ec"

/-- A `hash.txt` with the hashes of the two files. -/
def knownHashes : String := emptyHash ++ "\n" ++ zerosHash ++ "\n"

theorem digest_zeros : knownSha512.digest zeros =
    [0xb0, 0x76, 0x9d, 0x55, 0x93, 0xed, 0x0c, 0x92, 0x64, 0x7d, 0x1a, 0x2d, 0xd1, 0x18, 0x53, 0x26,
     0x55, 0x2a, 0xbe, 0x07, 0xaa, 0x58, 0xca, 0x3d, 0xc7, 0xf8, 0xac, 0x47, 0x6c, 0xc4, 0x87, 0x30,
     0xc4, 0x23, 0x85, 0x75, 0xd2, 0xf9, 0x22, 0x9a, 0x78, 0x8e, 0x5f, 0xd4, 0x08, 0xb9, 0x03, 0x2f,
     0x43, 0x2c, 0xe4, 0x32, 0xe8, 0x25, 0x5f, 0xce, 0x3c, 0x59, 0xf8, 0x69, 0x43, 0xbf,
       0x74, 0xec] := by
  have hne : zeros ≠ [] := List.ne_nil_of_length_pos (by rw [length_zeros]; decide)
  have hfinal : knownSha512.digest zeros = knownSha512.final zeros :=
    congrArg _ (List.nil_append zeros)
  rw [hfinal]
  exact (if_neg hne).trans (if_pos rfl)

/-- The update that is longer than one block is listed on the second line. -/
theorem validateUpdate_ok_iff_zeros : kBufSize < zeros.length ∧ ∃ rounds, ∀ fuel, rounds ≤ fuel →
    validateUpdate knownSha512 (fun _ => .ok knownHashes)
      (fun _ => .present zeros) "/apex/shim" "/data/v2.apex" fuel = some (.ok ()) := by
  obtain ⟨-, rounds, hrounds⟩ := validateUpdate_ok_iff knownSha512 (fun _ => .ok knownHashes)
    (fun _ => .present zeros) "/apex/shim" "/data/v2.apex" knownHashes zeros rfl rfl
  have hhex : bytesToHex (knownSha512.digest zeros) = zerosHash := by
    rw [digest_zeros]
    decide +kernel
  have hlisted : IsPiece knownHashes '\n' (bytesToHex (knownSha512.digest zeros)) := by
    rw [hhex]
    refine ⟨by decide +kernel, '\n' :: emptyHash.toList, ['\n'], ?_⟩
    have hnewline : "\n".toList = ['\n'] := rfl
    unfold knownHashes
    simp [hnewline]
  refine ⟨by rw [length_zeros]; decide, rounds, fun fuel hfuel => ?_⟩
  obtain ⟨result, hresult, hiff⟩ := hrounds fuel hfuel
  rw [hresult, hiff.2 hlisted]

/-! ## A file that does not open -/

/-- A stream that failed but is not at its end is read over and over. -/
theorem readLoop_stuck {sha : Sha512} {path : String} {fuel : Nat} {apex : IfStream} {ctx : sha.Ctx}
    (heof : apex.eofbit = false) (hfail : apex.failbit = true) (hbad : apex.badbit = false) :
    readLoop sha path fuel apex ctx = none := by
  induction fuel generalizing apex ctx with
  | zero => rfl
  | succ fuel ih =>
    rw [readLoop_step heof hbad, IfStream.read_not_good (by simp [IfStream.good, hfail])]
    exact ih heof rfl hbad

theorem calculateSha512_not_open {sha : Sha512} {path : String} {file : FileState}
    (hfile : ¬ file.Opens) (fuel : Nat) : calculateSha512 sha path file fuel = none := by
  cases file with
  | present content => exact absurd trivial hfile
  | absent | notPermitted =>
    unfold calculateSha512
    rw [if_neg (by simp [IfStream.ofFile]), readLoop_stuck rfl rfl rfl]
    rfl

/-- **`CalculateSha512` ends, and with an error where the file cannot be opened, exactly on the
files that open.** -/
theorem calculateSha512_ends_iff (sha : Sha512) (path : String) (file : FileState) :
    (∃ fuel result, calculateSha512 sha path file fuel = some result ∧
      (¬ file.Opens → ∃ e, result = .error e)) ↔ file.Opens := by
  constructor
  · rintro ⟨fuel, result, hresult, -⟩
    by_contra hfile
    rw [calculateSha512_not_open hfile] at hresult
    cases hresult
  · intro hfile
    match file with
    | .present content =>
      exact ⟨_, _, calculateSha512_present (Nat.le_refl _), fun h => absurd hfile h⟩

theorem calculateSha512_absent : ¬ ∃ fuel result,
    calculateSha512 knownSha512 "/data/v2.apex" .absent fuel = some result ∧
      (¬ FileState.absent.Opens → ∃ e, result = .error e) := by
  rintro ⟨fuel, result, hresult, -⟩
  have hfile : ¬ FileState.absent.Opens := id
  rw [calculateSha512_not_open hfile] at hresult
  cases hresult

end Apexd.Shim
