/-!
# Block sizes

A resource is cut into blocks of 16, 32, …, 1024 bytes.  A block option carries
the size as an exponent from 0 to 6, so an exponent below 7 is all that a
`BlockSize` holds and a size out of range cannot be built.
-/

namespace Blockwise

/-- A block size, `2 ^ (exponent + 4)` bytes. -/
structure BlockSize where
  /-- The exponent as it travels in a block option; 7 is reserved. -/
  exponent : Fin 7
  deriving DecidableEq, Repr

namespace BlockSize

/-- The size in bytes. -/
def bytes (size : BlockSize) : Nat := 1 <<< (size.exponent.val + 4)

/-- The seven block sizes, smallest first. -/
def all : List BlockSize := (List.finRange 7).map BlockSize.mk

/-- The smallest block size, 16 bytes. -/
def smallest : BlockSize := ⟨0⟩

/-- The largest block size, 1024 bytes. -/
def largest : BlockSize := ⟨6⟩

/-- The block size of so many bytes, if there is one. -/
def ofBytes? (count : Nat) : Option BlockSize := all.find? fun size => size.bytes = count

/-- The smaller of two block sizes. -/
def smaller (a b : BlockSize) : BlockSize := if a.exponent ≤ b.exponent then a else b

/-- No block is empty. -/
theorem bytes_pos (size : BlockSize) : 0 < size.bytes := by
  rw [bytes, Nat.one_shiftLeft]
  exact Nat.two_pow_pos _

/-- Every block size is the one of its bytes. -/
@[simp] theorem ofBytes?_bytes (size : BlockSize) : ofBytes? size.bytes = some size := by
  obtain ⟨exponent⟩ := size
  revert exponent
  decide

/-- A size that is found has the bytes that were asked for. -/
theorem bytes_of_ofBytes? {count : Nat} {size : BlockSize} (h : ofBytes? count = some size) :
    size.bytes = count := by
  simpa using List.find?_some h

end BlockSize
end Blockwise
