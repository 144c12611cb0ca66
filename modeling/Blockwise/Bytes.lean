/-!
# Byte strings and big-endian numbers

Everything that travels in a datagram is a list of bytes.  Numbers in it are
big-endian: `Bytes.toNat` reads a number of any width, `Bytes.ofNat` writes the
shortest form (zero is the empty string), and 16-bit words have a fixed form of
two bytes.
-/

namespace Blockwise

/-- A byte string, first byte first. -/
abbrev Bytes := List UInt8

namespace Bytes

/-! ## Numbers of any width -/

/-- The number that a byte string stands for, most significant byte first. -/
def toNat (bytes : Bytes) : Nat :=
  bytes.foldl (fun value byte => value * 256 + byte.toNat) 0

/-- The shortest big-endian form of a number.  Zero is the empty string. -/
def ofNat (value : Nat) : Bytes :=
  if value = 0 then [] else ofNat (value / 256) ++ [UInt8.ofNat (value % 256)]
termination_by value

/-- Reading goes on where a first part has been read. -/
theorem toNat_append_singleton (bytes : Bytes) (byte : UInt8) :
    toNat (bytes ++ [byte]) = toNat bytes * 256 + byte.toNat := by
  simp [toNat]

/-- What is written reads back. -/
@[simp] theorem toNat_ofNat (value : Nat) : toNat (ofNat value) = value := by
  fun_induction ofNat value with
  | case1 => rfl
  | case2 value _ ih =>
    rw [toNat_append_singleton, ih]
    simp
    omega

/-- Reading on from a value stays below the next value at that place. -/
theorem foldl_lt (bytes : Bytes) (value : Nat) :
    bytes.foldl (fun value byte => value * 256 + byte.toNat) value <
      (value + 1) <<< (8 * bytes.length) := by
  induction bytes generalizing value with
  | nil => simp
  | cons byte rest ih =>
    have hbyte := byte.toNat_lt
    refine Nat.lt_of_lt_of_le (ih _) ?_
    rw [List.length_cons, show 8 * (rest.length + 1) = 8 + 8 * rest.length by omega,
      Nat.shiftLeft_add, Nat.shiftLeft_eq _ 8, Nat.shiftLeft_eq, Nat.shiftLeft_eq]
    refine Nat.mul_le_mul_right _ ?_
    simp only
    omega

/-- A byte string stands for a number of eight bits for each byte. -/
theorem toNat_lt (bytes : Bytes) : toNat bytes < 1 <<< (8 * bytes.length) := by
  simpa [toNat] using foldl_lt bytes 0

/-! ## Words of 16 bits -/

/-- A 16-bit word as two bytes. -/
def ofUInt16 (word : UInt16) : Bytes :=
  [UInt8.ofNat (word.toNat / 256), UInt8.ofNat (word.toNat % 256)]

/-- The 16-bit word that two bytes stand for. -/
def toUInt16 (high low : UInt8) : UInt16 :=
  UInt16.ofNat (high.toNat * 256 + low.toNat)

end Bytes
end Blockwise
