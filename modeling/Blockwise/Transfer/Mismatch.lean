import Blockwise.Block
import Blockwise.Message.Code

/-!
# Mismatches

A request that does not fit the transfer it belongs to is a mismatch, and so is
a transfer that took another number of ignored requests than it should have.
Each reason is a constructor and `Mismatch.message` gives its text.
-/

namespace Blockwise

/-- What is wrong with a request or with a transfer as a whole. -/
inductive Mismatch where
  /-- A request came while the answer to another was being sent. -/
  | whileSending (path : String) (number : Nat)
  /-- A request came after the last block. -/
  | afterCompletion (path : String)
  /-- The request has another code than 0.01. -/
  | otherMethod (code : Code)
  /-- The request is for another path. -/
  | otherPath (expected actual : String)
  /-- The block option cannot be read. -/
  | malformedBlock (error : BlockError)
  /-- The first request asks for a later block. -/
  | firstBlock (number : Nat)
  /-- The request's block has the "more" bit. -/
  | moreBit
  /-- A request after the first names no block. -/
  | blockMissing (number : Nat)
  /-- The request asks for another block than the next. -/
  | otherBlock (expected actual : Nat)
  /-- The request changes the block size. -/
  | otherSize (expected actual : Nat)
  /-- Another number of requests was ignored than the gate requires. -/
  | dropCount (expected actual : Nat)
  /-- Some other reason, in words. -/
  | note (text : String)
  deriving DecidableEq, Repr

/-- The text of a mismatch. -/
def Mismatch.message : Mismatch → String
  | .whileSending path number => s!"request for {path} while block {number} is being sent"
  | .afterCompletion path => s!"request for {path} after the transfer completed"
  | .otherMethod code => s!"expected GET, got {code.text}"
  | .otherPath expected actual => s!"expected a request for {expected}, got {actual}"
  | .malformedBlock error => s!"malformed BLOCK2: {error.message}"
  | .firstBlock number => s!"first request asked for block {number}"
  | .moreBit => "M bit set in request BLOCK2"
  | .blockMissing number => s!"request for block {number} carries no BLOCK2"
  | .otherBlock expected actual => s!"expected block {expected}, got {actual}"
  | .otherSize expected actual => s!"expected block size {expected}, got {actual}"
  | .dropCount expected actual =>
    s!"expected {expected} dropped requests, server dropped {actual}"
  | .note text => text

end Blockwise
