import Blockwise.Message
import Blockwise.Transfer.Mismatch

/-!
# Transfers: one resource, one client, block by block

A transfer waits for the request for its next block, checks it, answers with
that block, and is complete when a block went out behind which there is
nothing.  The first request may leave the block out or ask for block 0, and a
smaller size that it asks for is adopted; every later request has to name the
next block at that size.

* `Transfer.check` tells which block a request would get.
* `Transfer.handle` answers it and moves on; a request that is refused leaves
  the transfer as it was.
* `Transfer.left_of_handle` is the measure by which a transfer comes to an end.
-/

namespace Blockwise

/-- Where a transfer stands. -/
inductive Phase where
  /-- The request for this block is awaited. -/
  | awaiting (number : Nat)
  /-- The request for this block is being checked. -/
  | validating (number : Nat)
  /-- The answer with this block is being built. -/
  | responding (number : Nat)
  /-- The last block went out. -/
  | complete
  deriving DecidableEq, Repr

namespace Phase

/-- The phase of a fresh transfer. -/
def initial : Phase := .awaiting 0

/-- The text of a phase. -/
def text : Phase → String
  | .awaiting number => s!"AwaitingRequest({number})"
  | .validating number => s!"Validating({number})"
  | .responding number => s!"Responding({number})"
  | .complete => "Complete"

end Phase

/-- A transfer of one resource. -/
structure Transfer where
  /-- The path that requests have to name. -/
  path : String
  /-- The resource as it was when the transfer began. -/
  payload : Bytes
  /-- The block size; final once the first request has been answered. -/
  size : BlockSize
  phase : Phase
  deriving DecidableEq, Repr

namespace Transfer

/-- A fresh transfer. -/
def begin (path : String) (payload : Bytes) (size : BlockSize) : Transfer :=
  { path, payload, size, phase := .initial }

/-- A fresh transfer with a block size in bytes. -/
def ofBlockSize (path : String) (payload : Bytes) (bytes : Nat) : Except BlockError Transfer :=
  (BlockSize.ofBytes bytes).map (begin path payload)

/-! ## Progress -/

/-- Whether the last block went out. -/
def isComplete (transfer : Transfer) : Bool := transfer.phase = .complete

/-- How many blocks the payload takes at the current size, as a 32-bit word.
An empty payload takes one. -/
def blockCount (transfer : Transfer) : Nat :=
  max 1 ((transfer.payload.length + transfer.size.bytes - 1) / transfer.size.bytes) % UInt32.size

/-- The number of the next block; after completion, the number of blocks. -/
def next (transfer : Transfer) : Nat :=
  match transfer.phase with
  | .awaiting number | .validating number | .responding number => number
  | .complete => transfer.blockCount

/-- Where the next block begins in the payload. -/
def readOffset (transfer : Transfer) : Nat := transfer.next * transfer.size.bytes

/-! ## Checking a request -/

/-- The block that a request for block `number` gets, given the block that it
names. -/
def grant (transfer : Transfer) (number : Nat) (requested : Option Block) :
    Except Mismatch Block :=
  let length := transfer.payload.length
  match number, requested with
  | 0, none => .ok (Block.covering ⟨0, by decide⟩ transfer.size length)
  | 0, some block =>
    if block.number.val ≠ 0 then .error (.firstBlock block.number.val)
    else if block.more then .error .moreBit
    else .ok (Block.covering block.number (block.size.smaller transfer.size) length)
  | number, none => .error (.blockMissing number)
  | number, some block =>
    if block.number.val ≠ number then .error (.otherBlock number block.number.val)
    else if block.size ≠ transfer.size then
      .error (.otherSize transfer.size.bytes block.size.bytes)
    else if block.more then .error .moreBit
    else .ok (Block.covering block.number transfer.size length)

/-- The block that a request gets when block `number` is the next. -/
def checkAt (transfer : Transfer) (number : Nat) (request : Message) : Except Mismatch Block :=
  if request.code ≠ .get then .error (.otherMethod request.code)
  else if request.path ≠ transfer.path then .error (.otherPath transfer.path request.path)
  else
    match request.block with
    | .error error => .error (.malformedBlock error)
    | .ok requested => transfer.grant number requested

/-- The block that a request would get now. -/
def check (transfer : Transfer) (request : Message) : Except Mismatch Block :=
  match transfer.phase with
  | .awaiting number | .validating number => transfer.checkAt number request
  | .responding number => .error (.whileSending transfer.path number)
  | .complete => .error (.afterCompletion transfer.path)

/-! ## Answering a request -/

/-- The answer to a request with one block of the payload. -/
def respond (transfer : Transfer) (request : Message) (block : Block) : Message :=
  { (Message.responseTo request .content).withBlock block with
    payload := block.slice transfer.payload }

/-- The transfer after a block went out. -/
def advance (transfer : Transfer) (block : Block) : Transfer :=
  { transfer with
    size := block.size
    phase := if block.more then .awaiting (transfer.next + 1) else .complete }

/-- The answer to a request and the transfer after it, or why the request is
refused. -/
def handle (transfer : Transfer) (request : Message) : Except Mismatch (Message × Transfer) :=
  if transfer.isComplete then .error (.afterCompletion transfer.path)
  else
    match { transfer with phase := .validating transfer.next }.check request with
    | .error mismatch => .error mismatch
    | .ok block => .ok (transfer.respond request block, transfer.advance block)

/-! ## Coming to an end -/

/-- A bound on the requests that are still to be answered. -/
def left (transfer : Transfer) : Nat :=
  match transfer.phase with
  | .complete => 0
  | _ => 1 + (transfer.payload.length + 1 - transfer.next)

/-- A granted block covers the payload at the number it was asked for. -/
theorem covering_of_grant {transfer : Transfer} {number : Nat} {requested : Option Block}
    {block : Block} (h : transfer.grant number requested = .ok block) :
    block.number.val = number ∧
      block = Block.covering block.number block.size transfer.payload.length := by
  unfold grant at h
  split at h
  · cases h
    exact ⟨rfl, rfl⟩
  · split at h
    · cases h
    · split at h
      · cases h
      · cases h
        rename_i hnumber _
        exact ⟨Decidable.not_not.1 hnumber, rfl⟩
  · cases h
  · split at h
    · cases h
    · split at h
      · cases h
      · split at h
        · cases h
        · cases h
          rename_i hnumber _ _
          exact ⟨Decidable.not_not.1 hnumber, rfl⟩

/-- A block that passes the check covers the payload at its number. -/
theorem covering_of_checkAt {transfer : Transfer} {number : Nat} {request : Message}
    {block : Block} (h : transfer.checkAt number request = .ok block) :
    block.number.val = number ∧
      block = Block.covering block.number block.size transfer.payload.length := by
  unfold checkAt at h
  split at h
  · cases h
  · split at h
    · cases h
    · split at h
      · cases h
      · exact covering_of_grant h

/-- Each answered request leaves fewer to be answered. -/
theorem left_of_handle {transfer after : Transfer} {request response : Message}
    (h : transfer.handle request = .ok (response, after)) : after.left < transfer.left := by
  unfold handle at h
  split at h
  case isTrue => cases h
  case isFalse hopen =>
    have hleft : transfer.left = 1 + (transfer.payload.length + 1 - transfer.next) := by
      unfold left
      split
      next hphase => simp [isComplete, hphase] at hopen
      next => rfl
    split at h
    case h_1 => cases h
    case h_2 block hcheck =>
      cases h
      obtain ⟨hnumber, hblock⟩ := covering_of_checkAt hcheck
      rw [hleft]
      cases hmore : block.more with
      | false =>
        have hdone : (transfer.advance block).left = 0 := by simp [left, advance, hmore]
        omega
      | true =>
        have hlong : block.number.val * block.size.bytes + block.size.bytes <
            transfer.payload.length := by
          have hcovers := congrArg Block.more hblock
          rw [hmore] at hcovers
          simpa [Block.covering] using hcovers.symm
        have hle : block.number.val ≤ block.number.val * block.size.bytes :=
          Nat.le_mul_of_pos_right _ block.size.bytes_pos
        have hafter : (transfer.advance block).left =
            1 + (transfer.payload.length + 1 - (transfer.next + 1)) := by
          simp [left, advance, next, hmore]
        have hpos := block.size.bytes_pos
        omega

end Transfer
end Blockwise
