import Blockwise.Proofs.Block.Value
import Mathlib.Data.List.Induction

/-!
# The option value of a block

A block option travels as a big-endian number without leading zero bytes.  The
number has the size exponent in its lowest three bits, the "more" bit above them and
the block number above that; the exponent 7 is reserved.

* `Bytes.ofNat_toNat` — to read a number and write it again strips the leading
  zero bytes, and does nothing else.
* `Block.decode_eq_ok_iff` — the values of a block are its option value with zero
  bytes in front, as far as three bytes go.
* `Block.exists_decode_iff` — the values of blocks are told by their length and their
  last byte.
* `Block.exists_ofParts_iff` — the blocks that can be built.
* `Block.value_codec` — the main result: both directions, for all byte strings and
  all parts of blocks.
-/

namespace Blockwise

/-! ## Numbers without leading zero bytes -/

namespace Bytes

/-- A byte string without its leading zero bytes. -/
def stripped (bytes : Bytes) : Bytes := bytes.dropWhile (· = 0)

/-- A last byte is stripped when it is zero and nothing is left in front of it. -/
theorem stripped_append_singleton (front : Bytes) (last : UInt8) :
    stripped (front ++ [last]) =
      if stripped front = [] ∧ last = 0 then [] else stripped front ++ [last] := by
  unfold stripped
  by_cases hfront : front.dropWhile (· = 0) = []
  · by_cases hlast : last = 0
    · simp [List.dropWhile_append, hfront, hlast]
    · simp [List.dropWhile_append, hfront, hlast]
  · simp [List.dropWhile_append, hfront]

/-- The shortest form of a number is empty for zero and ends in the lowest byte. -/
theorem ofNat_append_singleton (value : Nat) (last : UInt8) :
    ofNat (value * 256 + last.toNat) =
      if value = 0 ∧ last = 0 then [] else ofNat value ++ [last] := by
  have hlast := last.toNat_lt
  have hzero : last = 0 ↔ last.toNat = 0 := UInt8.toNat_inj.symm
  rw [ofNat]
  by_cases h : value = 0 ∧ last = 0
  · have hsum : value * 256 + last.toNat = 0 := by rw [hzero] at h; omega
    rw [if_pos h, if_pos hsum]
  · have hsum : value * 256 + last.toNat ≠ 0 := by rw [hzero] at h; omega
    have hfront : (value * 256 + last.toNat) / 256 = value := by omega
    have hback : (value * 256 + last.toNat) % 256 = last.toNat := by omega
    rw [if_neg h, if_neg hsum, hfront, hback, UInt8.ofNat_toNat]

theorem ofNat_eq_nil_iff {value : Nat} : ofNat value = [] ↔ value = 0 := by
  rw [ofNat]
  by_cases h : value = 0
  · simp [h]
  · simp [h]

/-- **To read a number and write it again strips the leading zero bytes.** -/
theorem ofNat_toNat (bytes : Bytes) : ofNat (toNat bytes) = stripped bytes := by
  induction bytes using List.reverseRecOn with
  | nil => rw [ofNat]; rfl
  | append_singleton front last ih =>
      rw [toNat_append_singleton, ofNat_append_singleton, stripped_append_singleton, ← ih]
      simp only [ofNat_eq_nil_iff]

/-- What is written has no zero byte in front. -/
theorem head?_ofNat_ne (value : Nat) : (ofNat value).head? ≠ some 0 := by
  have hform : ofNat value = (ofNat value).dropWhile (· = 0) := by
    rw [← stripped, ← ofNat_toNat, toNat_ofNat]
  intro hhead
  have hnot := List.head?_dropWhile_not (· = (0 : UInt8)) (ofNat value)
  rw [← hform, hhead] at hnot
  exact absurd hnot (by decide)

theorem length_stripped_le (bytes : Bytes) : (stripped bytes).length ≤ bytes.length :=
  (List.dropWhile_sublist _).length_le

/-- Leading zero bytes do not count. -/
theorem toNat_stripped (bytes : Bytes) : toNat (stripped bytes) = toNat bytes := by
  rw [← ofNat_toNat, toNat_ofNat]

/-- The lowest bits of a number are those of its last byte. -/
theorem toNat_mod_eight_iff (bytes : Bytes) :
    toNat bytes % 8 = 7 ↔ ∃ last ∈ bytes.getLast?, last &&& 7 = 7 := by
  rcases List.eq_nil_or_concat bytes with rfl | ⟨front, last, rfl⟩
  · simp [toNat]
  · have hlow : (toNat front * 256 + last.toNat) % 8 = last.toNat % 8 := by omega
    have hmask : (last &&& 7).toNat = last.toNat % 8 := by
      rw [UInt8.toNat_and]
      exact Nat.and_two_pow_sub_one_eq_mod last.toNat 3
    have hseven : last &&& 7 = 7 ↔ (last &&& 7).toNat = 7 := UInt8.toNat_inj.symm
    rw [List.concat_eq_append, toNat_append_singleton, hlow, ← hmask, ← hseven]
    simp

end Bytes

/-! ## Sizes -/

namespace BlockSize

theorem ofBytes_eq_ok_iff {count : Nat} {size : BlockSize} :
    ofBytes count = .ok size ↔ size.bytes = count := by
  unfold ofBytes
  constructor
  · intro h
    split at h
    · rename_i found hfound
      exact bytes_of_ofBytes? (Except.ok.inj h ▸ hfound)
    · cases h
  · rintro rfl
    rw [ofBytes?_bytes]

/-- The block sizes are the powers of two from the smallest to the largest. -/
theorem exists_bytes_iff {count : Nat} :
    (∃ size : BlockSize, size.bytes = count) ↔
      count.isPowerOfTwo ∧ smallest.bytes ≤ count ∧ count ≤ largest.bytes := by
  constructor
  · rintro ⟨size, rfl⟩
    exact ⟨⟨_, Nat.one_shiftLeft _⟩, bytes_le_iff.2 (Fin.zero_le _), size.bytes_le_largest⟩
  · rintro ⟨⟨power, rfl⟩, hlow, hhigh⟩
    have hlow : 2 ^ 4 ≤ 2 ^ power := hlow
    have hhigh : 2 ^ power ≤ 2 ^ 10 := hhigh
    rw [Nat.pow_le_pow_iff_right (by decide)] at hlow hhigh
    refine ⟨⟨⟨power - 4, by omega⟩⟩, ?_⟩
    rw [bytes, Nat.one_shiftLeft, Nat.sub_add_cancel hlow]

end BlockSize

/-! ## Blocks from their parts -/

namespace Block

/-- What the parts of a block have to be: a number of 20 bits, and a power of two
among the block sizes. -/
def Expressible (number bytes : Nat) : Prop :=
  number < 1 <<< 20 ∧ bytes.isPowerOfTwo ∧ 16 ≤ bytes ∧ bytes ≤ 1024

theorem ofParts_eq_ok_iff {number bytes : Nat} {more : Bool} {block : Block} :
    ofParts number bytes more = .ok block ↔
      block.number.val = number ∧ block.size.bytes = bytes ∧ block.more = more := by
  unfold ofParts
  by_cases h : number < numberLimit
  · rw [dif_pos h]
    constructor
    · intro hok
      cases hsize : BlockSize.ofBytes bytes with
      | error fault =>
          rw [hsize] at hok
          cases hok
      | ok size =>
          rw [hsize] at hok
          cases hok
          exact ⟨rfl, BlockSize.ofBytes_eq_ok_iff.1 hsize, rfl⟩
    · rintro ⟨rfl, hsize, rfl⟩
      rw [BlockSize.ofBytes_eq_ok_iff.2 hsize]
      rfl
  · rw [dif_neg h]
    constructor
    · intro hok
      cases hok
    · rintro ⟨rfl, -, -⟩
      exact absurd block.number.isLt h

/-- **A block can be built exactly when its parts are expressible.** -/
theorem exists_ofParts_iff {number bytes : Nat} {more : Bool} :
    (∃ block, ofParts number bytes more = .ok block) ↔ Expressible number bytes := by
  simp only [ofParts_eq_ok_iff]
  constructor
  · rintro ⟨block, rfl, rfl, -⟩
    exact ⟨block.number.isLt, BlockSize.exists_bytes_iff.1 ⟨block.size, rfl⟩⟩
  · rintro ⟨hnumber, hbytes⟩
    obtain ⟨size, hsize⟩ := BlockSize.exists_bytes_iff.2 hbytes
    exact ⟨⟨⟨number, hnumber⟩, size, more⟩, rfl, hsize, rfl⟩

theorem expressible (block : Block) : Expressible block.number.val block.size.bytes :=
  exists_ofParts_iff.1 ⟨block, ofParts_eq_ok_iff.2 ⟨rfl, rfl, rfl⟩⟩

/-! ## Blocks from their value -/

/-- What is read stands for the number of the value. -/
theorem value_of_decode {bytes : Bytes} {block : Block} (h : decode bytes = .ok block) :
    block.value = Bytes.toNat bytes := by
  unfold decode at h
  split at h
  · cases h
  split at h
  · cases h
  cases h
  unfold value
  by_cases hmore : Bytes.toNat bytes / 8 % 2 = 1
  · simp only [hmore, decide_true, if_true]
    omega
  · simp only [hmore, decide_false, Bool.false_eq_true, if_false]
    omega

/-- **A value reads as a block exactly when it is the block's option value, with zero
bytes in front of it as far as three bytes go.** -/
theorem decode_eq_ok_iff {bytes : Bytes} {block : Block} :
    decode bytes = .ok block ↔ bytes.length ≤ 3 ∧ block.encode = Bytes.stripped bytes := by
  constructor
  · intro h
    refine ⟨?_, by rw [encode, value_of_decode h, Bytes.ofNat_toNat]⟩
    by_contra hlong
    rw [decode, dif_pos (Nat.not_le.1 hlong)] at h
    cases h
  · rintro ⟨hlength, hencode⟩
    -- Both sides of the codec look at the number only, and that has no leading zeros.
    have hstripped := decode_encode block
    have hshort := Bytes.length_stripped_le bytes
    rw [hencode] at hstripped
    unfold decode at hstripped ⊢
    simp only [Bytes.toNat_stripped] at hstripped
    rw [dif_neg (by omega)] at hstripped ⊢
    exact hstripped

theorem decode_long {bytes : Bytes} (h : 3 < bytes.length) :
    decode bytes = .error (.valueTooLong bytes.length) := by
  rw [decode, dif_pos h]

theorem decode_reserved {bytes : Bytes} (h : bytes.length ≤ 3)
    (hlast : ∃ last ∈ bytes.getLast?, last &&& 7 = 7) :
    decode bytes = .error .reservedExponent := by
  rw [decode, dif_neg (Nat.not_lt.2 h), dif_pos (Bytes.toNat_mod_eight_iff bytes |>.2 hlast)]

/-- **A value reads as a block exactly when it has at most three bytes and the last of
them does not name the reserved exponent.** -/
theorem exists_decode_iff {bytes : Bytes} :
    (∃ block, decode bytes = .ok block) ↔
      bytes.length ≤ 3 ∧ ∀ last ∈ bytes.getLast?, last &&& 7 ≠ 7 := by
  by_cases hlong : 3 < bytes.length
  · simp [decode_long hlong, Nat.not_le.2 hlong]
  have hshort := Nat.not_lt.1 hlong
  by_cases hlast : ∃ last ∈ bytes.getLast?, last &&& 7 = 7
  · obtain ⟨last, hmem, hlow⟩ := hlast
    rw [decode_reserved hshort ⟨last, hmem, hlow⟩]
    constructor
    · rintro ⟨_, h⟩
      cases h
    · rintro ⟨-, hfree⟩
      exact absurd hlow (hfree last hmem)
  · rw [decode, dif_neg hlong, dif_neg fun h => hlast (Bytes.toNat_mod_eight_iff bytes |>.1 h)]
    exact ⟨fun _ => ⟨hshort, fun last hmem hlow => hlast ⟨last, hmem, hlow⟩⟩,
      fun _ => ⟨_, rfl⟩⟩

/-! ## The codec -/

/-- **The codec of the option value.**  Read: every value of at most three bytes whose
last byte does not name the reserved exponent is the value of a block that can be
built, and the block's own value is the one read without its leading zero bytes; of
two faults the length's is reported.  Written: the parts that make a block are the
expressible ones, and the block's value has at most three bytes and no leading zero
byte, and reads as the block again. -/
theorem value_codec :
    (∀ bytes : Bytes,
      ((∃ block, decode bytes = .ok block) ↔
        bytes.length ≤ 3 ∧ ∀ last ∈ bytes.getLast?, last &&& 7 ≠ 7) ∧
      (∀ block, decode bytes = .ok block →
        Expressible block.number.val block.size.bytes ∧
        ofParts block.number.val block.size.bytes block.more = .ok block ∧
        block.encode = Bytes.stripped bytes) ∧
      (3 < bytes.length → decode bytes = .error (.valueTooLong bytes.length)) ∧
      (bytes.length ≤ 3 → (∃ last ∈ bytes.getLast?, last &&& 7 = 7) →
        decode bytes = .error .reservedExponent)) ∧
    (∀ (number bytes : Nat) (more : Bool),
      ((∃ block, ofParts number bytes more = .ok block) ↔ Expressible number bytes) ∧
      ∀ block, ofParts number bytes more = .ok block →
        (block.number.val = number ∧ block.size.bytes = bytes ∧ block.more = more) ∧
        block.encode.length ≤ 3 ∧ block.encode.head? ≠ some 0 ∧
        decode block.encode = .ok block) := by
  refine ⟨fun bytes => ⟨exists_decode_iff, fun block hok => ?_, decode_long, decode_reserved⟩,
    fun number bytes more => ⟨exists_ofParts_iff, fun block hok => ?_⟩⟩
  · exact ⟨block.expressible, ofParts_eq_ok_iff.2 ⟨rfl, rfl, rfl⟩, (decode_eq_ok_iff.1 hok).2⟩
  · exact ⟨ofParts_eq_ok_iff.1 hok, block.length_encode_le, Bytes.head?_ofNat_ne _,
      block.decode_encode⟩

/-- Block 2 of 64 bytes with more to come, and the same value with a zero byte in front. -/
example : decode [0, 0x2A] = ofParts 2 64 true := by decide

end Block
end Blockwise
