import Apexd.Mount
import Apexd.ApexVerity

/-!
# The table of a verity device

What `createVerityTable` makes of the descriptor that `verifyDescriptor` lets through.

* `createVerityTable?` — with its divisions as they are: by zero there is no result, and a quotient
  is cut to the width of the parameter it is passed in.
* `createVerityTable?_consistent_iff` — when the table is built and covers the image.
-/

set_option autoImplicit false

namespace Apexd

/-- A division of unsigned numbers; by zero it has no result. -/
def divide (a b : Nat) : Option Nat := if b = 0 then none else some (a / b)

/-- `createVerityTable`, where the constructor of the target takes the two block numbers as numbers
of `bits` bits. -/
def createVerityTable? (bits : Nat) (verityData : ApexVerityData) (loop : String)
    (restartOnCorruption : Bool) : Option VerityTable := do
  let numDataBlocks ← divide verityData.desc.imageSize verityData.desc.dataBlockSize
  let hashStartBlock ← divide verityData.desc.treeOffset verityData.desc.hashBlockSize
  some { createVerityTable verityData loop restartOnCorruption with
    numDataBlocks := numDataBlocks % 2 ^ bits
    hashStartBlock := hashStartBlock % 2 ^ bits }

/-- The data blocks are the sectors of the target, and the hash tree begins where the descriptor
says. -/
def VerityTable.Consistent (table : VerityTable) (desc : AvbHashtreeDescriptor) : Prop :=
  table.numDataBlocks * table.dataBlockSize = table.length * 512 ∧
    table.hashStartBlock * table.hashBlockSize = desc.treeOffset

theorem divide_eq_some {a b q : Nat} : divide a b = some q ↔ b ≠ 0 ∧ q = a / b := by
  unfold divide
  split
  · rename_i h
    simp [h]
  · rename_i h
    simp [h, eq_comm]

theorem createVerityTable?_eq_some {bits : Nat} {verityData : ApexVerityData} {loop : String}
    {restart : Bool}
    {table : VerityTable} : createVerityTable? bits verityData loop restart = some table ↔
      verityData.desc.dataBlockSize ≠ 0 ∧ verityData.desc.hashBlockSize ≠ 0 ∧
        table = { createVerityTable verityData loop restart with
          numDataBlocks := verityData.desc.imageSize / verityData.desc.dataBlockSize % 2 ^ bits
          hashStartBlock := verityData.desc.treeOffset / verityData.desc.hashBlockSize % 2
              ^ bits } := by
  unfold createVerityTable?
  constructor
  · intro h
    obtain ⟨numDataBlocks, hdata, h⟩ := Option.bind_eq_some_iff.1 h
    obtain ⟨hashStartBlock, hhash, h⟩ := Option.bind_eq_some_iff.1 h
    obtain ⟨hd, rfl⟩ := divide_eq_some.1 hdata
    obtain ⟨hh, rfl⟩ := divide_eq_some.1 hhash
    exact ⟨hd, hh, (Option.some.inj h).symm⟩
  · rintro ⟨hd, hh, rfl⟩
    rw [divide_eq_some.2 ⟨hd, rfl⟩, divide_eq_some.2 ⟨hh, rfl⟩]
    rfl

/-- Whole data blocks cover the whole sectors when both leave the same rest. -/
theorem blocks_cover_iff {n d bits : Nat} (hbits : 9 ≤ bits) (hd : d ≠ 0) :
    n / d % 2 ^ bits * d = n / 512 * 512 ↔ n / d < 2 ^ bits ∧ n % d = n % 512 := by
  have hsector : 512 ≤ 2 ^ bits := show 2 ^ 9 ≤ 2 ^ bits from Nat.pow_le_pow_right (by decide) hbits
  have hn : n / d * d + n % d = n := Nat.div_add_mod' n d
  have hn' : n / 512 * 512 + n % 512 = n := Nat.div_add_mod' n 512
  have hrest : n % 512 < 512 := Nat.mod_lt _ (by decide)
  by_cases hfits : n / d < 2 ^ bits
  · rw [Nat.mod_eq_of_lt hfits]
    omega
  · refine iff_of_false ?_ fun h => hfits h.1
    intro heq
    -- the blocks cut off are more than a sector
    have hcut : (n / d % 2 ^ bits + 2 ^ bits) * d ≤ n / d * d := by
      apply Nat.mul_le_mul_right
      have hmod := Nat.div_add_mod (n / d) (2 ^ bits)
      have hone : 1 ≤ n / d / 2 ^ bits := Nat.div_pos (not_lt.1 hfits) (Nat.two_pow_pos bits)
      have hle := Nat.mul_le_mul_left (2 ^ bits) hone
      omega
    have hlarge : 512 * 1 ≤ 2 ^ bits * d := Nat.mul_le_mul hsector (Nat.one_le_iff_ne_zero.2 hd)
    rw [Nat.add_mul] at hcut
    omega

/-- The start of the hash tree is kept when it is a whole number of hash blocks. -/
theorem block_start_iff {n d bits : Nat} (hd : d ≠ 0) :
    n / d % 2 ^ bits * d = n ↔ n / d < 2 ^ bits ∧ d ∣ n := by
  constructor
  · intro h
    have hdvd : d ∣ n := ⟨n / d % 2 ^ bits, by rw [Nat.mul_comm, h]⟩
    refine ⟨?_, hdvd⟩
    have heq : n / d % 2 ^ bits = n / d := by
      apply Nat.eq_of_mul_eq_mul_right (Nat.pos_of_ne_zero hd)
      rw [h, Nat.div_mul_cancel hdvd]
    rw [← heq]
    exact Nat.mod_lt _ (Nat.two_pow_pos bits)
  · rintro ⟨hlt, hdvd⟩
    rw [Nat.mod_eq_of_lt hlt, Nat.div_mul_cancel hdvd]

/-- **When the table is built and covers the image**: the block sizes are not zero, the image leaves
the same rest in data blocks as in sectors, the hash tree starts at a block, and the block numbers
fit. -/
theorem createVerityTable?_consistent_iff {bits : Nat} (hbits : 9 ≤ bits)
    (verityData : ApexVerityData) (loop : String) (restartOnCorruption : Bool) :
    (∃ table, createVerityTable? bits verityData loop restartOnCorruption = some table ∧
        table.Consistent verityData.desc) ↔
      verityData.desc.dataBlockSize ≠ 0 ∧ verityData.desc.hashBlockSize ≠ 0 ∧
      verityData.desc.imageSize % verityData.desc.dataBlockSize = verityData.desc.imageSize % 512 ∧
      verityData.desc.hashBlockSize ∣ verityData.desc.treeOffset ∧
      verityData.desc.imageSize / verityData.desc.dataBlockSize < 2 ^ bits ∧
      verityData.desc.treeOffset / verityData.desc.hashBlockSize < 2 ^ bits := by
  constructor
  · rintro ⟨table, htable, hdata, hhash⟩
    obtain ⟨hd, hh, rfl⟩ := createVerityTable?_eq_some.1 htable
    obtain ⟨hnum, hrest⟩ := (blocks_cover_iff hbits hd).1 hdata
    obtain ⟨hstart, hdvd⟩ := (block_start_iff hh).1 hhash
    exact ⟨hd, hh, hrest, hdvd, hnum, hstart⟩
  · rintro ⟨hd, hh, hrest, hdvd, hnum, hstart⟩
    refine ⟨_, createVerityTable?_eq_some.2 ⟨hd, hh, rfl⟩, ?_, ?_⟩
    · exact (blocks_cover_iff hbits hd).2 ⟨hnum, hrest⟩
    · exact (block_start_iff hh).2 ⟨hstart, hdvd⟩

/-- The table of the shim package. -/
theorem createVerityTable?_consistent_iff_shim :
    ∃ table, createVerityTable? 32 shimData "/dev/block/loop1" false = some table ∧
      table.Consistent shimData.desc :=
  (createVerityTable?_consistent_iff (by decide) shimData "/dev/block/loop1" false).2 (by decide)

/-- A descriptor whose data blocks have no size. -/
def noBlockSize : List UInt8 := beBytes 8 1 ++ beBytes 8 164 ++ beBytes 4 1 ++ beBytes 8 4096 ++
    beBytes 8 4096 ++
  beBytes 8 4096 ++ beBytes 4 0 ++ beBytes 4 4096 ++ beBytes 128 0

/-- It is let through, and then divided by. -/
theorem createVerityTable?_noBlockSize :
    ∃ desc, verifyDescriptor shimAvb noBlockSize = .ok desc ∧
      ∀ salt rootDigest loop restartOnCorruption,
      createVerityTable? 32 ⟨desc.toAvbHashtreeDescriptor, salt, rootDigest⟩ loop
        restartOnCorruption = none := by
  refine ⟨⟨⟨1, 4096, 4096, 0, 4096, ""⟩, 0, 0, 0⟩, rfl, fun salt rootDigest loop restart => rfl⟩

end Apexd
