import Blockwise.Block

/-!
# Block options: value, size and cover

What a block says about itself survives the option value, and the blocks of a
payload cover it one after the other.

* `Block.decode_encode` — an option value that was written reads back.
* `Block.length_encode_le` — it takes at most three bytes.
* `BlockSize.bytes_smaller` — the smaller of two sizes has the fewer bytes.
* `BlockSize.lt_count_iff` — a payload goes on behind a block exactly when the
  block is not the last of the payload's `BlockSize.count`.
-/

namespace Blockwise

/-! ## Numbers in few bytes -/

/-- A number of eight bits for each of so many bytes takes no more bytes. -/
theorem Bytes.length_ofNat_le {value count : Nat} (h : value < 1 <<< (8 * count)) :
    (ofNat value).length ≤ count := by
  fun_induction ofNat value generalizing count with
  | case1 => exact Nat.zero_le _
  | case2 value hvalue ih =>
      cases count with
      | zero =>
          rw [Nat.mul_zero, Nat.shiftLeft_zero] at h
          omega
      | succ count =>
          have hdiv : value / 256 < 1 <<< (8 * count) := by
            rw [Nat.div_lt_iff_lt_mul (by decide)]
            rwa [Nat.mul_succ, Nat.shiftLeft_add, Nat.shiftLeft_eq _ 8] at h
          have := ih hdiv
          rw [List.length_append, List.length_singleton]
          omega

/-! ## Sizes -/

namespace BlockSize

theorem bytes_le_iff {a b : BlockSize} : a.bytes ≤ b.bytes ↔ a.exponent ≤ b.exponent := by
  rw [bytes, bytes, Nat.one_shiftLeft, Nat.one_shiftLeft, Nat.pow_le_pow_iff_right (by decide),
    Nat.add_le_add_iff_right, Fin.le_def]

/-- The smaller of two sizes is the one with fewer bytes. -/
theorem bytes_smaller (a b : BlockSize) : (a.smaller b).bytes = min a.bytes b.bytes := by
  unfold smaller
  by_cases h : a.exponent ≤ b.exponent
  · rw [if_pos h, Nat.min_eq_left (bytes_le_iff.2 h)]
  · rw [if_neg h, Nat.min_eq_right]
    exact bytes_le_iff.2 (Fin.le_of_lt (Fin.not_le.1 h))

@[simp] theorem smaller_self (size : BlockSize) : size.smaller size = size := by
  simp [smaller]

theorem smaller_of_le {a b : BlockSize} (h : a.bytes ≤ b.bytes) : a.smaller b = a := by
  rw [smaller, if_pos (bytes_le_iff.1 h)]

theorem bytes_le_largest (size : BlockSize) : size.bytes ≤ largest.bytes :=
  bytes_le_iff.2 (Fin.le_last size.exponent)

/-- How many blocks a payload of `length` bytes takes.  An empty one takes one. -/
def count (size : BlockSize) (length : Nat) : Nat :=
  max 1 ((length + size.bytes - 1) / size.bytes)

theorem count_pos (size : BlockSize) (length : Nat) : 0 < size.count length :=
  Nat.lt_of_lt_of_le Nat.one_pos (Nat.le_max_left _ _)

/-- Blocks follow block `number` exactly when the payload goes on behind it. -/
theorem lt_count_iff {size : BlockSize} {length number : Nat} (h : 0 < number) :
    number < size.count length ↔ number * size.bytes < length := by
  have hpos := size.bytes_pos
  have hdiv : number < (length + size.bytes - 1) / size.bytes ↔
      number * size.bytes < length := by
    rw [Nat.lt_iff_add_one_le, Nat.le_div_iff_mul_le hpos, Nat.add_mul]
    omega
  rw [← hdiv, count]
  omega

/-- So many blocks are enough exactly when they hold the payload. -/
theorem count_le_iff {size : BlockSize} {length bound : Nat} (h : 0 < bound) :
    size.count length ≤ bound ↔ length ≤ bound * size.bytes := by
  rw [← Nat.not_lt, lt_count_iff h, Nat.not_lt]

end BlockSize

/-! ## The option value -/

namespace Block

theorem length_slice_le (block : Block) (payload : Bytes) :
    (block.slice payload).length ≤ block.size.bytes :=
  List.length_take_le _ _

theorem value_lt (block : Block) : block.value < 1 <<< 24 := by
  have hnumber := block.number.isLt
  have hexponent := block.size.exponent.isLt
  simp only [numberLimit] at hnumber
  unfold value
  cases block.more <;> simp only [Bool.false_eq_true, if_true, if_false] <;> omega

/-- An option value has at most three bytes. -/
theorem length_encode_le (block : Block) : block.encode.length ≤ 3 :=
  Bytes.length_ofNat_le block.value_lt

/-- An option value that was written reads back. -/
@[simp] theorem decode_encode (block : Block) : decode block.encode = .ok block := by
  obtain ⟨number, ⟨exponent⟩, more⟩ := block
  have hexponent := exponent.isLt
  have hlong := length_encode_le ⟨number, ⟨exponent⟩, more⟩
  have hvalue : Bytes.toNat (encode ⟨number, ⟨exponent⟩, more⟩) =
      number.val * 16 + (if more then 8 else 0) + exponent.val := Bytes.toNat_ofNat _
  have hparts : Bytes.toNat (encode ⟨number, ⟨exponent⟩, more⟩) / 16 = number.val ∧
      Bytes.toNat (encode ⟨number, ⟨exponent⟩, more⟩) % 8 = exponent.val ∧
      (Bytes.toNat (encode ⟨number, ⟨exponent⟩, more⟩) / 8 % 2 = 1 ↔ more = true) := by
    rw [hvalue]
    cases more
    · simp only [Bool.false_eq_true, if_false, iff_false]
      omega
    · simp only [if_true, iff_true]
      omega
  obtain ⟨hnumber, hsize, hmore⟩ := hparts
  rw [decode, dif_neg (by omega), dif_neg (by omega)]
  simp only [hnumber, hsize, hmore, Fin.eta, Bool.decide_eq_true]

/-! ## Building -/

/-- A block of a payload can be built from its number and its size in bytes. -/
theorem forPayload_covering (number : Fin numberLimit) (size : BlockSize) (length : Nat) :
    forPayload number.val size.bytes length = .ok (covering number size length) := by
  simp [forPayload, ofParts, BlockSize.ofBytes, Except.map, covering]

end Block
end Blockwise
