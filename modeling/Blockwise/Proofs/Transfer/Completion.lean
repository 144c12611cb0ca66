import Blockwise.Proofs.Transfer.InPlace
import Blockwise.Proofs.Transfer.Run

/-!
# Which transfers can be completed

A transfer may begin with any payload, but a request can name no block behind the
first 2 ^ 20.  How far these reach is settled by the size agreed on, so a small size
can make a resource that cannot be sent to its end.

* `Message.AsksFor`, `Transfer.AsksInTurn` — requests for one block after the other.
* `Log.Sound.handle_next` — such a request is answered where its block is next, and
  `Log.Sound.ask` that all of them are, as far as there are blocks with numbers.
* `refused_of_limit` — a transfer that awaits block 2 ^ 20 answers nothing any more.
* `outlook_run` — the main result: what can become of a transfer, whatever was asked
  of it before.
-/

namespace Blockwise

/-! ## Requests for one block after the other -/

/-- A request to read a path that names one block of it at a size, with the "more" bit
clear. -/
structure Message.AsksFor (request : Message) (path : String) (size : BlockSize) (number : Nat) :
    Prop where
  code : request.code = .get
  path_eq : request.path = path
  block : ∃ block : Block, request.block = .ok (some block) ∧ block.number.val = number ∧
    block.size = size ∧ block.more = false

/-- The request for a block, as it is built.  Without a number of 20 bits no block can be
named. -/
def Message.askFor (path : String) (size : BlockSize) (number : Nat) : Message :=
  if h : number < Block.numberLimit then (get path).withBlock ⟨⟨number, h⟩, size, false⟩
  else get path

theorem Message.asksFor_askFor (path : String) (size : BlockSize) {number : Nat}
    (h : number < Block.numberLimit) :
    (askFor path size number).AsksFor (Path.normalize path) size number := by
  rw [askFor, dif_pos h]
  exact ⟨rfl, by rw [path_withBlock, get, path_withPath], _, block_withBlock _ _, rfl, rfl, rfl⟩

namespace Transfer

/-- Requests for the blocks of a path at one size, a request for each block that has a
number. -/
def AsksInTurn (request : Nat → Message) (path : String) (size : BlockSize) : Prop :=
  ∀ number < Block.numberLimit, (request number).AsksFor path size number

/-- The calls for so many blocks from one on. -/
def callsFor (request : Nat → Message) (first count : Nat) : List Call :=
  (List.range' first count).map fun number => .handle (request number)

/-- Whether the transfer goes on at a size: the one agreed on, or, before the first
answer, any that is not larger than the one offered. -/
def Log.Allows (log : Log) (size : BlockSize) : Prop :=
  if log.served = [] then size.bytes ≤ log.transfer.size.bytes else log.transfer.size = size

variable {log : Log} {path : String} {payload : Bytes} {offered size : BlockSize}
  {request : Message}

/-- Where a transfer stands is known from the number of its answers. -/
theorem Log.Sound.phase_of_allows (h : log.Sound path payload offered)
    (hsize : log.Allows size) :
    log.transfer.phase = if log.answers.length < size.count payload.length
      then .awaiting log.answers.length else .complete := by
  rw [h.phase_eq]
  by_cases hserved : log.served = []
  · have hzero : log.answers.length = 0 := by simp [answers, hserved]
    rw [hzero, if_pos (Or.inl rfl), if_pos (size.count_pos _)]
  · have hpos : 0 < log.answers.length := by
      rw [answers, List.length_map]
      exact List.length_pos_iff.2 hserved
    rw [Allows, if_neg hserved] at hsize
    rw [← h.size_eq, hsize]
    exact if_congr ((or_iff_right (Nat.ne_of_gt hpos)).trans
      (BlockSize.lt_count_iff hpos).symm) rfl rfl

/-- **A request for the block that is next is answered**, and the size stays. -/
theorem Log.Sound.handle_next (h : log.Sound path payload offered) (hsize : log.Allows size)
    (hlt : log.answers.length < size.count payload.length)
    (hasks : request.AsksFor path size log.answers.length) :
    ∃ response after, log.transfer.handle request = .ok (response, after) ∧ after.size = size := by
  obtain ⟨named, hblock, hnumber, hnamed, hmore⟩ := hasks.block
  have hphase := h.phase_of_allows hsize
  rw [if_pos hlt] at hphase
  have hnext : log.transfer.next = log.answers.length := by rw [next, hphase]
  have hagreed : negotiated log.transfer.size (some named) = size := by
    rw [negotiated, hnamed]
    by_cases hserved : log.served = []
    · rw [Allows, if_pos hserved] at hsize
      exact BlockSize.smaller_of_le hsize
    · rw [Allows, if_neg hserved] at hsize
      rw [hsize, BlockSize.smaller_self]
  have hadmits : log.transfer.Admits log.transfer.next (some named) := by
    refine ⟨hnumber.trans hnext.symm, hmore, fun hne => ?_⟩
    have hserved : log.served ≠ [] := by
      rintro hserved
      exact hne (by rw [hnext]; simp [answers, hserved])
    rw [Allows, if_neg hserved] at hsize
    rw [hnamed, hsize]
  obtain ⟨response, hhandle⟩ := exists_handle_of_admits (by simp [hphase]) hasks.code
    (hasks.path_eq.trans h.path_eq.symm) hblock hadmits
  exact ⟨response, _, hhandle, hagreed⟩

/-- **Requests for one block after the other are answered**, as far as there are blocks
and numbers for them. -/
theorem Log.Sound.ask {request : Nat → Message} (h : log.Sound path payload offered)
    (hsize : log.Allows size) (hasks : AsksInTurn request path size) (count : Nat)
    (hcount : log.answers.length + count ≤ size.count payload.length)
    (hlimit : log.answers.length + count ≤ Block.numberLimit) :
    let after := (callsFor request log.answers.length count).foldl Log.call log
    after.served.map (·.1) =
        log.served.map (·.1) ++ (List.range' log.answers.length count).map request ∧
      after.transfer.phase = if log.answers.length + count < size.count payload.length
        then .awaiting (log.answers.length + count) else .complete := by
  induction count generalizing log with
  | zero =>
      have hphase := h.phase_of_allows hsize
      exact ⟨by simp [callsFor], by simpa [callsFor] using hphase⟩
  | succ count ih =>
      obtain ⟨response, next, hhandle, hnext⟩ :=
        h.handle_next hsize (by omega) (hasks _ (by omega))
      have hcall : log.call (.handle (request log.answers.length)) =
          ⟨next, log.served ++ [(request log.answers.length, response)]⟩ := by
        rw [Log.call, hhandle]
      have hsound := sound_handle h hhandle
      rw [← hcall] at hsound
      have hallows : (log.call (.handle (request log.answers.length))).Allows size := by
        simp [hcall, Allows, hnext]
      have hlength : (log.call (.handle (request log.answers.length))).answers.length =
          log.answers.length + 1 := by
        rw [hcall, answers, answers, List.length_map, List.length_map, List.length_append,
          List.length_singleton]
      obtain ⟨hserved, hphase⟩ := ih hsound hallows (by omega) (by omega)
      have hcalls : callsFor request log.answers.length (count + 1) =
          .handle (request log.answers.length) ::
            callsFor request (log.answers.length + 1) count := by
        rw [callsFor, List.range'_succ, List.map_cons, callsFor]
      rw [hlength] at hserved hphase
      simp only [hcalls, List.foldl_cons]
      rw [hserved, hphase, hcall, Nat.add_assoc, Nat.add_comm 1]
      exact ⟨by simp [List.range'_succ], rfl⟩

/-! ## Where the numbers end -/

/-- **Nothing is answered for want of a number**: what awaits block 2 ^ 20 rejects every
message and stays as it is. -/
theorem refused_of_limit {transfer : Transfer}
    (hphase : transfer.phase = .awaiting Block.numberLimit) (request : Message) :
    ∃ mismatch, handleInPlace request transfer = (.error (.mismatch mismatch), transfer) := by
  have hrest : transfer.Resting := Or.inr ⟨_, hphase⟩
  cases hcheck : transfer.check request with
  | error mismatch => exact ⟨mismatch, handleInPlace_of_mismatch hrest hcheck⟩
  | ok block =>
      obtain ⟨number, hnumber, -, -, requested, -, hadmits⟩ :=
        hrest.check_isOk_iff.1 ⟨block, hcheck⟩
      cases hphase.symm.trans hnumber
      -- No block that a request can name has this number.
      cases requested with
      | none => exact absurd hadmits (Nat.succ_ne_zero _)
      | some named => exact absurd hadmits.1 (Nat.ne_of_lt named.number.isLt)

theorem Log.Sound.next_le (h : log.Sound path payload offered) :
    log.transfer.next ≤ Block.numberLimit := by
  have hlength := length_le_of_carryBlocks h.blocks
  by_cases hcomplete : log.transfer.phase = .complete
  · rwa [next, hcomplete, h.blockCount_eq hcomplete]
  · rwa [h.next_eq hcomplete]

/-- A size that a complete transfer has agreed on is large enough. -/
theorem Log.Sound.length_le_of_complete (h : log.Sound path payload offered)
    (hcomplete : log.transfer.phase = .complete) :
    payload.length ≤ Block.numberLimit * log.transfer.size.bytes :=
  Nat.le_trans (h.length_of_complete hcomplete).2
    (Nat.mul_le_mul_right _ (length_le_of_carryBlocks h.blocks))

/-- Once a request was answered the size stays, whatever is asked. -/
theorem Log.Sound.size_foldl_call (h : log.Sound path payload offered)
    (hserved : log.served ≠ []) (calls : List Call) :
    (calls.foldl Log.call log).transfer.size = log.transfer.size := by
  obtain ⟨more, hmore⟩ := served_foldl_call log calls
  rw [(sound_calls h calls).size_eq, hmore, agreed_append hserved, h.size_eq]

theorem exists_asksInTurn (path : String) (size : BlockSize) :
    ∃ request, AsksInTurn request (Path.normalize path) size :=
  ⟨Message.askFor path size, fun _ h => Message.asksFor_askFor path size h⟩

/-! ## Main result -/

/-- What can become of a transfer of a payload that has answered some requests. -/
structure Log.Outlook (log : Log) (path : String) (payload : Bytes) : Prop where
  /-- Some requests complete it exactly if at the size agreed on the numbers reach to the
  end of the payload. -/
  completable_iff : log.served ≠ [] →
    ((∃ requests : List Message,
        ((requests.map Call.handle).foldl Log.call log).transfer.phase = .complete) ↔
      payload.length ≤ Block.numberLimit * log.transfer.size.bytes)
  /-- One can ask for the blocks in turn. -/
  askable : ∀ size, ∃ request, AsksInTurn request path size
  /-- If the numbers reach to the end, whoever asks for the blocks in turn is never
  refused, and the transfer is complete with the last block and not before. -/
  delivers : ∀ size request, log.Allows size →
    payload.length ≤ Block.numberLimit * size.bytes → AsksInTurn request path size →
    ∀ count, log.answers.length + count ≤ size.count payload.length →
      let after := (callsFor request log.answers.length count).foldl Log.call log
      after.served.map (·.1) =
          log.served.map (·.1) ++ (List.range' log.answers.length count).map request ∧
        (after.transfer.phase = .complete ↔
          log.answers.length + count = size.count payload.length)
  /-- If they do not, it gets no further than to await a block that has no number. -/
  stranded : log.served ≠ [] → Block.numberLimit * log.transfer.size.bytes < payload.length →
    ∃ number ≤ Block.numberLimit, log.transfer.phase = .awaiting number
  /-- It gets so far when the blocks are asked for in turn. -/
  strands : ∀ size request, log.Allows size →
    Block.numberLimit * size.bytes < payload.length → AsksInTurn request path size →
    ((callsFor request log.answers.length (Block.numberLimit - log.answers.length)).foldl
      Log.call log).transfer.phase = .awaiting Block.numberLimit
  /-- There every message is rejected and changes nothing. -/
  exhausted : log.transfer.phase = .awaiting Block.numberLimit → ∀ request,
    ∃ mismatch, handleInPlace request log.transfer =
      (.error (.mismatch mismatch), log.transfer)
  /-- The number behind the next block is one of 32 bits. -/
  number_lt : log.transfer.next + 1 < UInt32.size
  /-- So are the offsets where a block of any size begins and ends. -/
  offset_lt : ∀ size : BlockSize, log.transfer.next * size.bytes + size.bytes < UInt32.size

theorem Log.Sound.outlook (h : log.Sound (Path.normalize path) payload offered) :
    log.Outlook (Path.normalize path) payload where
  completable_iff hserved := by
    constructor
    · rintro ⟨requests, hcomplete⟩
      rw [← h.size_foldl_call hserved (requests.map Call.handle)]
      exact (sound_calls h _).length_le_of_complete hcomplete
    · intro hle
      obtain ⟨request, hasks⟩ := exists_asksInTurn path log.transfer.size
      have hallows : log.Allows log.transfer.size := by rw [Allows, if_neg hserved]
      have hlimit : log.transfer.size.count payload.length ≤ Block.numberLimit :=
        (BlockSize.count_le_iff (by decide)).2 hle
      by_cases hlt : log.answers.length < log.transfer.size.count payload.length
      · have hrest := Nat.add_sub_of_le (Nat.le_of_lt hlt)
        obtain ⟨-, hphase⟩ := h.ask hallows hasks _ (Nat.le_of_eq hrest)
          (Nat.le_trans (Nat.le_of_eq hrest) hlimit)
        rw [hrest, if_neg (Nat.lt_irrefl _)] at hphase
        exact ⟨(List.range' _ _).map request, by rwa [List.map_map]⟩
      · refine ⟨[], ?_⟩
        rw [List.map_nil, List.foldl_nil, h.phase_of_allows hallows, if_neg hlt]
  askable := exists_asksInTurn path
  delivers size request hsize hle hasks count hcount := by
    have hlimit : size.count payload.length ≤ Block.numberLimit :=
      (BlockSize.count_le_iff (by decide)).2 hle
    obtain ⟨hserved, hphase⟩ := h.ask hsize hasks count hcount (Nat.le_trans hcount hlimit)
    refine ⟨hserved, ?_⟩
    rw [hphase]
    split <;> simp <;> omega
  stranded hserved hlt := by
    have hopen : log.transfer.phase ≠ .complete := fun hcomplete =>
      Nat.not_lt.2 (h.length_le_of_complete hcomplete) hlt
    have hphase := h.phase_eq
    rw [if_pos (h.open_iff.1 hopen)] at hphase
    exact ⟨_, length_le_of_carryBlocks h.blocks, hphase⟩
  strands size request hsize hlt hasks := by
    have hmore : Block.numberLimit < size.count payload.length :=
      (BlockSize.lt_count_iff (by decide)).2 hlt
    have hrest := Nat.add_sub_of_le (length_le_of_carryBlocks h.blocks)
    obtain ⟨-, hphase⟩ := h.ask hsize hasks _ (hrest.symm ▸ Nat.le_of_lt hmore)
      (Nat.le_of_eq hrest)
    rwa [hrest, if_pos hmore] at hphase
  exhausted hphase := refused_of_limit hphase
  number_lt := by
    have := h.next_le
    simp only [Block.numberLimit] at this
    simp only [UInt32.size]
    omega
  offset_lt size := by
    have hbegin := Nat.mul_le_mul h.next_le size.bytes_le_largest
    have hbytes := size.bytes_le_largest
    have hlargest : BlockSize.largest.bytes = 1024 := rfl
    rw [hlargest] at hbegin hbytes
    simp only [Block.numberLimit] at hbegin
    simp only [UInt32.size]
    omega

/-- **Which transfers can be completed**, and what becomes of the others: whatever was
asked of a transfer before, its outlook is the one that the size agreed on gives it. -/
theorem outlook_run (path : String) (payload : Bytes) (offered : BlockSize)
    (calls : List Call) :
    ∃ fresh, ofBlockSize (Path.normalize path) payload offered.bytes = .ok fresh ∧
      (fresh.run calls).Outlook (Path.normalize path) payload :=
  ⟨_, ofBlockSize_bytes _ _ _, (sound_run _ _ _ calls).outlook⟩

end Transfer
end Blockwise
