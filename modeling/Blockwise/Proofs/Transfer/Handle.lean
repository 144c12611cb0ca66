import Blockwise.Transfer
import Blockwise.Proofs.Transfer.Blocks

/-!
# One request of a transfer

Which requests a transfer answers, and what the answer and the transfer after
it are.

* `Transfer.Admits` — the block that a request may name when a block is next;
  `grant_eq_ok_iff` says that the check grants these and no others.
* `handle_eq_ok_iff` — the requests that are answered, the answer, and the
  transfer after it, all at once.
* `carriesBlock_of_handle` — the answer carries the next block at the agreed
  size, and the transfer moves on by that block; `exists_handle_of_admits` says that
  the request for it is answered.
-/

namespace Blockwise

namespace Transfer

/-- A transfer can begin with every block size. -/
theorem ofBlockSize_bytes (path : String) (payload : Bytes) (size : BlockSize) :
    ofBlockSize path payload size.bytes = .ok (begin path payload size) := by
  simp [ofBlockSize, BlockSize.ofBytes, Except.map]

/-! ## Granting a block -/

/-- The size agreed on when a size is offered and a request names a block: the
smaller one, or the one offered if the request names none. -/
def negotiated (offered : BlockSize) : Option Block → BlockSize
  | none => offered
  | some block => block.size.smaller offered

/-- What a request may name when block `number` is next: that block, with the
"more" bit clear and, after the first block, at the agreed size.  Only the
first request may name nothing. -/
def Admits (transfer : Transfer) (number : Nat) : Option Block → Prop
  | none => number = 0
  | some block => block.number.val = number ∧ block.more = false ∧
      (number ≠ 0 → block.size = transfer.size)

theorem covering_congr {number : Nat} {block : Block} {size : BlockSize} {length : Nat}
    (hlt : number < Block.numberLimit) :
    Block.covering ⟨number, hlt⟩ size length = block ↔
      block.number.val = number ∧ block = Block.covering block.number size length := by
  constructor
  · rintro rfl
    exact ⟨rfl, rfl⟩
  · rintro ⟨rfl, hblock⟩
    exact hblock.symm

/-- A request is granted a block exactly when it names what it may name; the
block is the next one of the payload at the agreed size. -/
theorem grant_eq_ok_iff {transfer : Transfer} {number : Nat} {requested : Option Block}
    {block : Block} :
    transfer.grant number requested = .ok block ↔
      transfer.Admits number requested ∧ block.number.val = number ∧
        block = Block.covering block.number (negotiated transfer.size requested)
          transfer.payload.length := by
  cases requested with
  | none =>
      cases number with
      | zero =>
          rw [grant, Except.ok.injEq, covering_congr]
          exact ⟨fun h => ⟨rfl, h⟩, fun h => h.2⟩
      | succ number =>
          exact ⟨fun h => absurd h (by simp [grant]), fun h => absurd h.1 (Nat.succ_ne_zero _)⟩
  | some named =>
      obtain ⟨⟨named, hnamed⟩, size, more⟩ := named
      cases number with
      | zero =>
          simp only [grant, Admits, negotiated]
          by_cases hnumber : named = 0
          · cases more with
            | true => simp [hnumber]
            | false =>
                subst hnumber
                rw [if_neg (by simp), if_neg (by simp), Except.ok.injEq, covering_congr]
                simp
          · simp [hnumber]
      | succ number =>
          simp only [grant, Admits, negotiated]
          by_cases hnumber : named = number + 1
          · by_cases hsize : size = transfer.size
            · cases more with
              | true => simp [hnumber, hsize]
              | false =>
                  subst hnumber hsize
                  rw [if_neg (by simp), if_neg (by simp), if_neg (by simp), Except.ok.injEq,
                    covering_congr, BlockSize.smaller_self]
                  simp
            · simp [hnumber, hsize]
          · simp [hnumber]

/-- Whatever may be named is granted a block. -/
theorem exists_grant_of_admits {transfer : Transfer} {number : Nat} {requested : Option Block}
    (h : transfer.Admits number requested) :
    ∃ block, transfer.grant number requested = .ok block := by
  have hlimit : number < Block.numberLimit := by
    cases requested with
    | none => exact h ▸ (by decide : 0 < Block.numberLimit)
    | some named => exact h.1 ▸ named.number.isLt
  exact ⟨Block.covering ⟨number, hlimit⟩ (negotiated transfer.size requested)
    transfer.payload.length, grant_eq_ok_iff.2 ⟨h, rfl, rfl⟩⟩

/-! ## Checking and answering a request -/

/-- The check passes requests to read the transfer's path that name what they
may name. -/
theorem checkAt_eq_ok_iff {transfer : Transfer} {number : Nat} {request : Message}
    {block : Block} :
    transfer.checkAt number request = .ok block ↔
      request.code = .get ∧ request.path = transfer.path ∧
        ∃ requested, request.block = .ok requested ∧
          transfer.grant number requested = .ok block := by
  unfold checkAt
  by_cases hcode : request.code = .get
  · by_cases hpath : request.path = transfer.path
    · rw [if_neg (not_not_intro hcode), if_neg (not_not_intro hpath)]
      cases hblock : request.block with
      | error error => simp
      | ok requested => simp [hcode, hpath]
    · rw [if_neg (not_not_intro hcode), if_pos hpath]
      exact ⟨fun h => absurd h (by simp), fun h => absurd h.2.1 hpath⟩
  · rw [if_pos hcode]
    exact ⟨fun h => absurd h (by simp), fun h => absurd h.1 hcode⟩

/-- Where the check lets a request through, the block that is next can be built:
the request has named it, so its number is none that would be too large. -/
theorem forPayload_of_checkAt {transfer : Transfer} {number : Nat} {request : Message}
    {block : Block} (h : transfer.checkAt number request = .ok block) :
    Block.forPayload number block.size.bytes transfer.payload.length = .ok block := by
  obtain ⟨hnumber, hblock⟩ := covering_of_checkAt h
  rw [← hnumber, Block.forPayload_covering, ← hblock]

/-- The requests that are answered, the answer, and the transfer after it. -/
theorem handle_eq_ok_iff {transfer after : Transfer} {request response : Message} :
    transfer.handle request = .ok (response, after) ↔
      transfer.phase ≠ .complete ∧ request.code = .get ∧ request.path = transfer.path ∧
        ∃ requested block, request.block = .ok requested ∧
          transfer.Admits transfer.next requested ∧ block.number.val = transfer.next ∧
          block = Block.covering block.number (negotiated transfer.size requested)
            transfer.payload.length ∧
          response = transfer.respond request block ∧ after = transfer.advance block := by
  unfold handle
  by_cases hphase : transfer.phase = .complete
  · rw [if_pos (by simp [isComplete, hphase])]
    exact ⟨fun h => absurd h (by simp), fun h => absurd hphase h.1⟩
  · rw [if_neg (by simp [isComplete, hphase])]
    have hcheck : { transfer with phase := .validating transfer.next }.check request =
        transfer.checkAt transfer.next request := rfl
    rw [hcheck]
    constructor
    · intro h
      cases hok : transfer.checkAt transfer.next request with
      | error mismatch =>
          rw [hok] at h
          cases h
      | ok block =>
          rw [hok] at h
          cases h
          obtain ⟨hcode, hpath, requested, hblock, hgrant⟩ := checkAt_eq_ok_iff.1 hok
          obtain ⟨hadmits, hnumber, hcovering⟩ := grant_eq_ok_iff.1 hgrant
          exact ⟨hphase, hcode, hpath, requested, block, hblock, hadmits, hnumber, hcovering,
            rfl, rfl⟩
    · rintro ⟨-, hcode, hpath, requested, block, hblock, hadmits, hnumber, hcovering, rfl, rfl⟩
      have hok : transfer.checkAt transfer.next request = .ok block :=
        checkAt_eq_ok_iff.2
          ⟨hcode, hpath, requested, hblock, grant_eq_ok_iff.2 ⟨hadmits, hnumber, hcovering⟩⟩
      rw [hok]

/-- A request that passes the check is answered with the block that it is granted,
which is the one awaited. -/
theorem handle_of_check {transfer : Transfer} {number : Nat} {request : Message}
    {block : Block} (hphase : transfer.phase = .awaiting number)
    (h : transfer.check request = .ok block) :
    block.number.val = number ∧
      transfer.handle request = .ok (transfer.respond request block, transfer.advance block) := by
  simp only [check, hphase] at h
  have hnext : transfer.next = number := by rw [next, hphase]
  refine ⟨(covering_of_checkAt h).1, ?_⟩
  have hcheck : { transfer with phase := .validating transfer.next }.check request =
      transfer.checkAt transfer.next request := rfl
  rw [handle, if_neg (by simp [isComplete, hphase]), hcheck, hnext, h]

/-- A request that reads the transfer's path is refused for what it names. -/
theorem handle_of_grant_error {transfer : Transfer} {request : Message}
    {requested : Option Block} {mismatch : Mismatch} (hopen : transfer.phase ≠ .complete)
    (hcode : request.code = .get) (hpath : request.path = transfer.path)
    (hblock : request.block = .ok requested)
    (hgrant : transfer.grant transfer.next requested = .error mismatch) :
    transfer.handle request = .error mismatch := by
  have hcheck : { transfer with phase := .validating transfer.next }.check request =
      transfer.checkAt transfer.next request := rfl
  have hrefused : transfer.checkAt transfer.next request = .error mismatch := by
    unfold checkAt
    rw [if_neg (not_not_intro hcode), if_neg (not_not_intro hpath), hblock]
    exact hgrant
  rw [handle, if_neg (by simpa [isComplete] using hopen), hcheck, hrefused]

/-! ## The answer and the transfer after it -/

/-- The answer with a block that covers the payload carries that block. -/
theorem carriesBlock_respond (transfer : Transfer) (request : Message)
    (number : Fin Block.numberLimit) (size : BlockSize) :
    (transfer.respond request
      (Block.covering number size transfer.payload.length)).CarriesBlock
        transfer.payload size number.val where
  code := rfl
  block := by
    refine ⟨Block.covering number size transfer.payload.length,
      Message.block_withBlock (Message.responseTo request .content) _, rfl, rfl, ?_⟩
    rw [Nat.add_mul, Nat.one_mul]
    simp [Block.covering]
  payload := (Message.extract_block transfer.payload size number.val).symm

/-- Where a transfer stands when the block `number` went out. -/
def afterBlock (transfer : Transfer) (size : BlockSize) (number : Nat) : Transfer :=
  { transfer with
    size
    phase :=
      if (number + 1) * size.bytes < transfer.payload.length then .awaiting (number + 1)
      else .complete }

theorem advance_covering {transfer : Transfer} {number : Fin Block.numberLimit} (size : BlockSize)
    (h : number.val = transfer.next) :
    transfer.advance (Block.covering number size transfer.payload.length) =
      transfer.afterBlock size transfer.next := by
  rw [advance, afterBlock, ← h, Nat.add_mul, Nat.one_mul]
  simp [Block.covering]

/-- **One answered request.**  The request names what it may name, the answer
carries the next block at the agreed size, and the transfer moves on by one
block or is complete. -/
theorem carriesBlock_of_handle {transfer after : Transfer} {request response : Message}
    (h : transfer.handle request = .ok (response, after)) :
    ∃ requested, request.block = .ok requested ∧ transfer.Admits transfer.next requested ∧
      transfer.next < Block.numberLimit ∧
      response.CarriesBlock transfer.payload (negotiated transfer.size requested) transfer.next ∧
      after = transfer.afterBlock (negotiated transfer.size requested) transfer.next := by
  obtain ⟨-, -, -, requested, block, hblock, hadmits, hnumber, hcovering, rfl, rfl⟩ :=
    handle_eq_ok_iff.1 h
  rw [hcovering]
  refine ⟨requested, hblock, hadmits, hnumber ▸ block.number.isLt, ?_,
    advance_covering _ hnumber⟩
  rw [← hnumber]
  exact carriesBlock_respond transfer request block.number _

/-- A request for the block that is next is answered, and the transfer moves on by that
block. -/
theorem exists_handle_of_admits {transfer : Transfer} {request : Message}
    {requested : Option Block} (hopen : transfer.phase ≠ .complete) (hcode : request.code = .get)
    (hpath : request.path = transfer.path) (hblock : request.block = .ok requested)
    (hadmits : transfer.Admits transfer.next requested) :
    ∃ response, transfer.handle request = .ok (response,
      transfer.afterBlock (negotiated transfer.size requested) transfer.next) := by
  obtain ⟨block, hgrant⟩ := exists_grant_of_admits hadmits
  obtain ⟨-, hnumber, hcovering⟩ := grant_eq_ok_iff.1 hgrant
  refine ⟨transfer.respond request block, handle_eq_ok_iff.2 ⟨hopen, hcode, hpath, requested,
    block, hblock, hadmits, hnumber, hcovering, rfl, ?_⟩⟩
  rw [hcovering, advance_covering _ hnumber]

/-- After the first block the agreed size stays. -/
theorem negotiated_of_admits {transfer : Transfer} {number : Nat} {requested : Option Block}
    (hnumber : number ≠ 0) (h : transfer.Admits number requested) :
    negotiated transfer.size requested = transfer.size := by
  cases requested with
  | none => exact absurd h hnumber
  | some block => rw [negotiated, h.2.2 hnumber, BlockSize.smaller_self]

/-- A complete transfer answers nothing. -/
theorem handle_of_complete {transfer : Transfer} (h : transfer.phase = .complete)
    (request : Message) :
    transfer.handle request = .error (.afterCompletion transfer.path) := by
  rw [handle, if_pos (by simp [isComplete, h])]

theorem check_of_complete {transfer : Transfer} (h : transfer.phase = .complete)
    (request : Message) :
    transfer.check request = .error (.afterCompletion transfer.path) := by
  rw [check, h]

end Transfer
end Blockwise
