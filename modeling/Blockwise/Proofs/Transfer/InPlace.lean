import Blockwise.Failure
import Blockwise.Proofs.Steps
import Blockwise.Proofs.Transfer.Handle

/-!
# Requests handled in place

A session keeps its transfer in one place and changes it step by step while a request
is handled: the phase tells that the request is being checked, then that its answer is
being built, and a request that is refused puts the phase back.  Seen from outside,
none of these steps shows.

* `Transfer.handleInPlace` — the steps, with every failure that one of them could have.
* `Transfer.Resting` — the phases in which a transfer is found between two requests.
* `handleInPlace_of_mismatch`, `handleInPlace_of_block` — what the steps come to for a
  transfer at rest: what the check says decides, and a refusal leaves no trace.
* `check_foretells_handle` — the main result, for whatever was handled before.
-/

namespace Blockwise
namespace Transfer

/-! ## The steps -/

/-- The block that a request would get now, or why it gets none.  The block is built by
the constructor that checks its number and its size. -/
def checkInFull (transfer : Transfer) (request : Message) : Except Failure Block :=
  match transfer.check request with
  | .error mismatch => .error (.mismatch mismatch)
  | .ok block =>
    (Block.forPayload transfer.next block.size.bytes transfer.payload.length).mapError .block

/-- What is done to a transfer in its place: a failure keeps what was changed before it. -/
abbrev InPlace := ExceptT Failure (StateM Transfer)

/-- Goes over to another phase. -/
def enter (phase : Phase) : InPlace Unit := modify fun transfer => { transfer with phase }

/-- Handles a request in place. -/
def handleInPlace (request : Message) : InPlace Message := do
  let transfer ← get
  let number := transfer.next
  if transfer.isComplete then throw (.mismatch (.afterCompletion transfer.path))
  enter (.validating number)
  match (← get).checkInFull request with
  | .error failure =>
    enter (.awaiting number)
    throw failure
  | .ok block =>
    enter (.responding number)
    modify fun transfer => { transfer with size := block.size }
    let response := (← get).respond request block
    enter (if block.more then .awaiting (number + 1) else .complete)
    return response

/-- The transfer after requests were handled in place, one after the other. -/
def handleAll (transfer : Transfer) (requests : List Message) : Transfer :=
  requests.foldl (fun transfer request => (handleInPlace request transfer).2) transfer

/-! ## A transfer at rest -/

/-- The phases of a transfer between two requests. -/
def Resting (transfer : Transfer) : Prop :=
  transfer.phase = .complete ∨ ∃ number, transfer.phase = .awaiting number

variable {transfer : Transfer} {request : Message} {block : Block} {mismatch : Mismatch}
  {number : Nat}

theorem resting_begin (path : String) (payload : Bytes) (size : BlockSize) :
    (begin path payload size).Resting :=
  Or.inr ⟨0, rfl⟩

theorem resting_advance (transfer : Transfer) (block : Block) : (transfer.advance block).Resting := by
  unfold Resting advance
  cases block.more with
  | false => exact Or.inl rfl
  | true => exact Or.inr ⟨_, rfl⟩

/-- While a request is checked, the check says the same as before. -/
theorem check_validating (hphase : transfer.phase = .awaiting number) (request : Message) :
    { transfer with phase := .validating number }.check request = transfer.check request := by
  rw [check, check, hphase]
  rfl

theorem checkInFull_of_mismatch (hcheck : transfer.check request = .error mismatch) :
    transfer.checkInFull request = .error (.mismatch mismatch) := by
  rw [checkInFull, hcheck]

/-- The number of a block that is let through is in range, and so is its size. -/
theorem checkInFull_eq_ok_iff :
    transfer.checkInFull request = .ok block ↔ transfer.check request = .ok block := by
  cases hcheck : transfer.check request with
  | error mismatch => simp [checkInFull_of_mismatch hcheck]
  | ok granted =>
      have hat : transfer.checkAt transfer.next request = .ok granted := by
        unfold check at hcheck
        split at hcheck
        · rename_i hphase
          rwa [next, hphase]
        · rename_i hphase
          rwa [next, hphase]
        · cases hcheck
        · cases hcheck
      simp [checkInFull, hcheck, forPayload_of_checkAt hat, Except.mapError]

theorem enter_eq (phase : Phase) (transfer : Transfer) :
    enter phase transfer = (.ok (), { transfer with phase }) :=
  rfl

/-- The steps for a transfer that awaits a request, up to the check. -/
theorem handleInPlace_of_awaiting (hphase : transfer.phase = .awaiting number)
    (request : Message) :
    handleInPlace request transfer =
      match { transfer with phase := .validating number }.checkInFull request with
      | .error failure => (.error failure, { transfer with phase := .awaiting number })
      | .ok block => (.ok (transfer.respond request block), transfer.advance block) := by
  have hnext : transfer.next = number := by rw [next, hphase]
  have hopen : transfer.isComplete = false := by simp [isComplete, hphase]
  unfold handleInPlace
  rw [bind_of_ok (get_eq transfer), hopen, hnext]
  simp only [Bool.false_eq_true, if_false]
  rw [bind_of_ok (enter_eq _ _), bind_of_ok (get_eq _)]
  cases hcheck : { transfer with phase := .validating number }.checkInFull request with
  | error failure => rfl
  | ok block =>
      show _ = (Except.ok (transfer.respond request block), transfer.advance block)
      rw [advance, hnext]
      rfl

/-- **A request that does not pass the check leaves no trace** of the steps that were
taken before it was refused. -/
theorem handleInPlace_of_mismatch (hrest : transfer.Resting)
    (hcheck : transfer.check request = .error mismatch) :
    handleInPlace request transfer = (.error (.mismatch mismatch), transfer) := by
  rcases hrest with hphase | ⟨number, hphase⟩
  · have hcomplete : transfer.isComplete = true := decide_eq_true hphase
    rw [check_of_complete hphase] at hcheck
    cases hcheck
    unfold handleInPlace
    rw [bind_of_ok (get_eq transfer), hcomplete]
    rfl
  · rw [← check_validating hphase] at hcheck
    rw [handleInPlace_of_awaiting hphase, checkInFull_of_mismatch hcheck]
    simp only [← hphase]

/-- **A request that passes the check** is answered with the block that it is granted. -/
theorem handleInPlace_of_block (hphase : transfer.phase = .awaiting number)
    (hcheck : transfer.check request = .ok block) :
    handleInPlace request transfer =
      (.ok (transfer.respond request block), transfer.advance block) := by
  rw [← check_validating hphase] at hcheck
  rw [handleInPlace_of_awaiting hphase, checkInFull_eq_ok_iff.2 hcheck]

/-- What passes the check is granted while a request is awaited, and only then. -/
theorem Resting.awaiting_of_check (hrest : transfer.Resting)
    (hcheck : transfer.check request = .ok block) : ∃ number, transfer.phase = .awaiting number := by
  rcases hrest with hphase | hphase
  · rw [check_of_complete hphase] at hcheck
    cases hcheck
  · exact hphase

/-- A request that does not pass the check is refused for the same reason. -/
theorem Resting.handle_of_mismatch (hrest : transfer.Resting)
    (hcheck : transfer.check request = .error mismatch) :
    transfer.handle request = .error mismatch := by
  rcases hrest with hphase | ⟨number, hphase⟩
  · rw [check_of_complete hphase] at hcheck
    cases hcheck
    exact handle_of_complete hphase request
  · have hnext : transfer.next = number := by rw [next, hphase]
    rw [handle, if_neg (by simp [isComplete, hphase]), hnext, check_validating hphase, hcheck]

/-- The check lets a request through if it reads the path and names what it may name. -/
theorem Resting.check_isOk_iff (hrest : transfer.Resting) :
    (∃ block, transfer.check request = .ok block) ↔
      ∃ number, transfer.phase = .awaiting number ∧ request.code = .get ∧
        request.path = transfer.path ∧
        ∃ requested, request.block = .ok requested ∧ transfer.Admits number requested := by
  constructor
  · rintro ⟨block, hcheck⟩
    obtain ⟨number, hphase⟩ := hrest.awaiting_of_check hcheck
    simp only [check, hphase] at hcheck
    obtain ⟨hcode, hpath, requested, hblock, hgrant⟩ := checkAt_eq_ok_iff.1 hcheck
    exact ⟨number, hphase, hcode, hpath, requested, hblock, (grant_eq_ok_iff.1 hgrant).1⟩
  · rintro ⟨number, hphase, hcode, hpath, requested, hblock, hadmits⟩
    obtain ⟨block, hgrant⟩ := exists_grant_of_admits hadmits
    refine ⟨block, ?_⟩
    simp only [check, hphase]
    exact checkAt_eq_ok_iff.2 ⟨hcode, hpath, requested, hblock, hgrant⟩

/-- A transfer is at rest again when a request has been handled. -/
theorem Resting.handleInPlace (hrest : transfer.Resting) (request : Message) :
    (handleInPlace request transfer).2.Resting := by
  cases hcheck : transfer.check request with
  | error mismatch =>
      rw [handleInPlace_of_mismatch hrest hcheck]
      exact hrest
  | ok block =>
      obtain ⟨number, hphase⟩ := hrest.awaiting_of_check hcheck
      rw [handleInPlace_of_block hphase hcheck]
      exact resting_advance transfer block

/-- And so it is after any number of requests. -/
theorem Resting.handleAll (hrest : transfer.Resting) (requests : List Message) :
    (transfer.handleAll requests).Resting := by
  induction requests generalizing transfer with
  | nil => exact hrest
  | cons request requests ih => exact ih (hrest.handleInPlace request)

/-! ## Main result -/

/-- What the check says of a request, and what comes of the request. -/
structure Foretells (transfer : Transfer) (request : Message) : Prop where
  /-- The phases of checking and of answering do not show. -/
  resting : transfer.Resting
  /-- The check lets a request through if it reads the path and names what it may name. -/
  passes_iff : (∃ block, transfer.checkInFull request = .ok block) ↔
    ∃ number, transfer.phase = .awaiting number ∧ request.code = .get ∧
      request.path = transfer.path ∧
      ∃ requested, request.block = .ok requested ∧ transfer.Admits number requested
  /-- A request that passes is answered, with the block that the check has named. -/
  answered : ∀ block, transfer.checkInFull request = .ok block →
    ∃ response after, handleInPlace request transfer = (.ok response, after) ∧
      transfer.handle request = .ok (response, after) ∧
      response.block = .ok (some block) ∧ response.id = request.id ∧
      response.token = request.token ∧
      response.kind = if request.kind = .confirmable then .acknowledgement else .nonConfirmable
  /-- A request that does not pass is refused for the reason that the check has named,
  which is a mismatch, and the transfer is what it was. -/
  refused : ∀ failure, transfer.checkInFull request = .error failure →
    handleInPlace request transfer = (.error failure, transfer) ∧
      ∃ mismatch, failure = .mismatch mismatch ∧ transfer.handle request = .error mismatch

theorem Resting.foretells (hrest : transfer.Resting) (request : Message) :
    transfer.Foretells request where
  resting := hrest
  passes_iff := by
    simp only [checkInFull_eq_ok_iff]
    exact hrest.check_isOk_iff
  answered block hfull := by
    have hcheck := checkInFull_eq_ok_iff.1 hfull
    obtain ⟨number, hphase⟩ := hrest.awaiting_of_check hcheck
    exact ⟨_, _, handleInPlace_of_block hphase hcheck, (handle_of_check hphase hcheck).2,
      Message.block_withBlock (Message.responseTo request .content) block, rfl, rfl, rfl⟩
  refused failure hfull := by
    cases hcheck : transfer.check request with
    | ok block => cases (checkInFull_eq_ok_iff.2 hcheck).symm.trans hfull
    | error mismatch =>
        cases (checkInFull_of_mismatch hcheck).symm.trans hfull
        exact ⟨handleInPlace_of_mismatch hrest hcheck, mismatch, rfl,
          hrest.handle_of_mismatch hcheck⟩

/-- **The check foretells what comes of a request**, whatever requests were handled
before: it passes exactly those that are answered, with the block that it names, and a
request that is refused leaves the transfer as it was. -/
theorem check_foretells_handle (path : String) (payload : Bytes) (offered : BlockSize)
    (requests : List Message) (request : Message) :
    ((begin path payload offered).handleAll requests).Foretells request :=
  ((resting_begin path payload offered).handleAll requests).foretells request

end Transfer
end Blockwise
