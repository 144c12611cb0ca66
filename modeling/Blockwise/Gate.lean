import Blockwise.History

/-!
# Gates: which requests to ignore

A gate decides, from a request and the number of equal requests before it,
whether the server behaves as if the datagram had been lost.  The gate
`ModuloBackoff` ignores the request for block `n` until it has been seen
`n % modulus` times, so the number of ignored requests of a whole transfer is
known beforehand.
-/

namespace Blockwise

/-- Whether to ignore a request that so many equal ones came before. -/
abbrev Gate := Message → Nat → Bool

namespace Gate

/-- Ignores nothing. -/
def answerAll : Gate := fun _ _ => false

end Gate

/-- The gate that ignores the request for block `n` exactly `n % modulus`
times, where a modulus of zero counts as one. -/
structure ModuloBackoff where
  modulus : Nat
  deriving DecidableEq, Repr

namespace ModuloBackoff

/-- The gate with a modulus of at least one. -/
def ofModulus (modulus : Nat) : ModuloBackoff := ⟨max modulus 1⟩

/-- The modulus used unless another is asked for. -/
def standard : ModuloBackoff := ⟨4⟩

/-- How often the request for a block is ignored. -/
def requiredDrops (backoff : ModuloBackoff) (number : Nat) : Nat :=
  number % max backoff.modulus 1

/-- How many requests are ignored in a transfer of so many blocks. -/
def totalDrops (backoff : ModuloBackoff) (blocks : Nat) : Nat :=
  blocks.fold (fun number _ sum => sum + backoff.requiredDrops number) 0

/-- A request without a readable block is let through: the transfer reports
what is wrong with it. -/
def gate (backoff : ModuloBackoff) : Gate := fun request prior =>
  match request.block with
  | .ok (some block) => prior < backoff.requiredDrops block.number.val
  | _ => false

end ModuloBackoff
end Blockwise
