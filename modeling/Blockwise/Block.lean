import Blockwise.BlockSize
import Blockwise.Bytes

/-!
# Blocks of a resource and their option value

A `Block` names one block of a resource: its number, the block size, and
whether more blocks follow.  In a message it is the value of a BLOCK2 option, a
big-endian number without leading zero bytes whose lowest three bits are the
size exponent, the fourth the "more" bit, and the rest the block number.
-/

namespace Blockwise

/-- Block numbers are below this bound: they have 20 bits. -/
def Block.numberLimit : Nat := 1048576

/-- One block of a resource. -/
structure Block where
  /-- Its place in the resource, from 0. -/
  number : Fin Block.numberLimit
  /-- The size of every block but the last. -/
  size : BlockSize
  /-- Whether blocks follow. -/
  more : Bool
  deriving DecidableEq, Repr

/-- What can be wrong with a block or with the value of a block option. -/
inductive BlockError where
  /-- No block size has so many bytes. -/
  | invalidSize (bytes : Nat)
  /-- The block number needs more than 20 bits. -/
  | numberTooLarge (number : Nat)
  /-- The option value has more than three bytes. -/
  | valueTooLong (length : Nat)
  /-- The size exponent is 7. -/
  | reservedExponent
  deriving DecidableEq, Repr

/-- The text of a block error. -/
def BlockError.message : BlockError → String
  | .invalidSize bytes => s!"block size {bytes} is not a power of two in 16..=1024"
  | .numberTooLarge number => s!"sequence number {number} does not fit in 20 bits"
  | .valueTooLong length => s!"block option value is {length} bytes long (max 3)"
  | .reservedExponent => "reserved SZX value 7"

/-- The block size of so many bytes, or the reason why there is none. -/
def BlockSize.ofBytes (count : Nat) : Except BlockError BlockSize :=
  match BlockSize.ofBytes? count with
  | some size => .ok size
  | none => .error (.invalidSize count)

namespace Block

/-! ## Building blocks -/

/-- The block with the given number, size in bytes and "more" bit.  Of two
faults the number's is reported. -/
def ofParts (number bytes : Nat) (more : Bool) : Except BlockError Block :=
  if h : number < numberLimit then
    (BlockSize.ofBytes bytes).map fun size => ⟨⟨number, h⟩, size, more⟩
  else .error (.numberTooLarge number)

/-- The block with the given number of a payload of `length` bytes: more
follow exactly when the payload goes on behind it. -/
def covering (number : Fin numberLimit) (size : BlockSize) (length : Nat) : Block :=
  ⟨number, size, number.val * size.bytes + size.bytes < length⟩

/-- `covering` for any number and any size in bytes. -/
def forPayload (number bytes length : Nat) : Except BlockError Block :=
  ofParts number bytes (number * bytes + bytes < length)

/-- Where the block begins in the resource. -/
def offset (block : Block) : Nat := block.number.val * block.size.bytes

/-- The part of a payload that the block holds. -/
def slice (block : Block) (payload : Bytes) : Bytes :=
  (payload.drop block.offset).take block.size.bytes

/-! ## The option value -/

/-- The number that the option value stands for. -/
def value (block : Block) : Nat :=
  block.number.val * 16 + (if block.more then 8 else 0) + block.size.exponent.val

/-- The option value, without leading zero bytes. -/
def encode (block : Block) : Bytes := Bytes.ofNat block.value

/-- Three bytes leave 20 bits for the block number. -/
theorem number_lt {bytes : Bytes} (h : bytes.length ≤ 3) :
    Bytes.toNat bytes / 16 < numberLimit := by
  have hlt := Bytes.toNat_lt bytes
  have hpow : 1 <<< (8 * bytes.length) ≤ 1 <<< 24 := by
    rw [Nat.one_shiftLeft, Nat.one_shiftLeft]
    exact Nat.pow_le_pow_right (by decide) (by omega)
  simp only [numberLimit]
  omega

/-- Reads an option value.  A value of more than three bytes is refused
whatever its last byte says. -/
def decode (bytes : Bytes) : Except BlockError Block :=
  if long : 3 < bytes.length then .error (.valueTooLong bytes.length)
  else if reserved : Bytes.toNat bytes % 8 = 7 then .error .reservedExponent
  else
    .ok {
      number := ⟨Bytes.toNat bytes / 16, number_lt (by omega)⟩
      size := ⟨⟨Bytes.toNat bytes % 8, by omega⟩⟩
      more := Bytes.toNat bytes / 8 % 2 = 1 }

/-- The text of a block: number, "more" bit and size in bytes. -/
def text (block : Block) : String :=
  s!"{block.number.val}/{if block.more then 1 else 0}/{block.size.bytes}"

end Block
end Blockwise
