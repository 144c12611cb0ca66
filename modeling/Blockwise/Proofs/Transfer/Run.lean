import Blockwise.Proofs.Transfer.Handle

/-!
# Runs of a transfer

What a transfer has answered after any requests at all, in any order, those
that were refused and mere checks included.

* `Transfer.Call`, `Transfer.run` — the calls and what they lead to: the
  transfer with a record of the requests answered and their answers.
* `Transfer.Log.Sound` — the invariant: the answers carry the blocks from 0 on,
  and phase and size are those of a transfer that has sent so many blocks.
* `sound_run` — it holds after every run.
* `run_integrity` — what that says of the blocks, the payload and the end of a
  transfer.
-/

namespace Blockwise

namespace Transfer

/-- What can be asked of a transfer. -/
inductive Call where
  /-- Which block a request would get. -/
  | check (request : Message)
  /-- To answer a request. -/
  | handle (request : Message)

/-- A transfer with the requests it has answered, each with its answer. -/
structure Log where
  transfer : Transfer
  served : List (Message × Message)

namespace Log

/-- The log after a call.  A check and a refusal leave no trace. -/
def call (log : Log) : Call → Log
  | .check _ => log
  | .handle request =>
    match log.transfer.handle request with
    | .error _ => log
    | .ok (response, after) => ⟨after, log.served ++ [(request, response)]⟩

/-- The answers, in order. -/
def answers (log : Log) : List Message := log.served.map (·.2)

end Log

/-- The size agreed on by the size offered and the first request answered. -/
def agreed (offered : BlockSize) : List (Message × Message) → BlockSize
  | [] => offered
  | (request, _) :: _ =>
    match request.block with
    | .ok requested => negotiated offered requested
    | .error _ => offered

/-- What a list of calls leads to. -/
def run (transfer : Transfer) (calls : List Call) : Log := calls.foldl Log.call ⟨transfer, []⟩

/-! ## The invariant -/

/-- The answers carry the blocks from 0 on, and the transfer stands where it has
to stand after so many of them. -/
structure Log.Sound (log : Log) (path : String) (payload : Bytes) (offered : BlockSize) :
    Prop where
  path_eq : log.transfer.path = path
  payload_eq : log.transfer.payload = payload
  size_eq : log.transfer.size = agreed offered log.served
  blocks : Message.CarryBlocks log.answers payload (agreed offered log.served)
  phase_eq : log.transfer.phase =
    if log.answers.length = 0 ∨
      log.answers.length * (agreed offered log.served).bytes < payload.length
    then .awaiting log.answers.length else .complete
  /-- Every block but block 0 begins inside the payload. -/
  needed : log.answers.length ≤ 1 ∨
    (log.answers.length - 1) * (agreed offered log.served).bytes < payload.length

variable {log : Log} {path : String} {payload : Bytes} {offered : BlockSize}

theorem sound_begin (path : String) (payload : Bytes) (offered : BlockSize) :
    Log.Sound ⟨begin path payload offered, []⟩ path payload offered where
  path_eq := rfl
  payload_eq := rfl
  size_eq := rfl
  blocks := Message.carryBlocks_nil
  phase_eq := rfl
  needed := Or.inl (Nat.zero_le _)

/-- The next block is the one behind those that were sent. -/
theorem Log.Sound.next_eq (h : log.Sound path payload offered)
    (hopen : log.transfer.phase ≠ .complete) : log.transfer.next = log.answers.length := by
  have hphase := h.phase_eq
  split at hphase
  · rw [next, hphase]
  · exact absurd hphase hopen

/-- A transfer that is not complete has sent nothing or has more to send. -/
theorem Log.Sound.open_iff (h : log.Sound path payload offered) :
    log.transfer.phase ≠ .complete ↔ log.answers.length = 0 ∨
      log.answers.length * (agreed offered log.served).bytes < payload.length := by
  rw [h.phase_eq]
  split
  · rename_i hmore
    exact ⟨fun _ => hmore, fun _ => by simp⟩
  · rename_i hmore
    exact ⟨fun hopen => absurd rfl hopen, fun hless => absurd hless hmore⟩

/-- Further requests do not change the size agreed on. -/
theorem agreed_append {served : List (Message × Message)} (hne : served ≠ [])
    (offered : BlockSize) (more : List (Message × Message)) :
    agreed offered (served ++ more) = agreed offered served := by
  cases served with
  | nil => exact absurd rfl hne
  | cons first rest => rfl

/-- An answered request is served at the size agreed on. -/
theorem Log.Sound.agreed_handle (h : log.Sound path payload offered) {request : Message}
    {requested : Option Block} (response : Message) (hopen : log.transfer.phase ≠ .complete)
    (hblock : request.block = .ok requested)
    (hadmits : log.transfer.Admits log.transfer.next requested) :
    agreed offered (log.served ++ [(request, response)]) =
      negotiated log.transfer.size requested := by
  by_cases hserved : log.served = []
  · have hoffered : log.transfer.size = offered := by rw [h.size_eq, hserved, agreed]
    rw [hserved, hoffered]
    simp only [agreed, List.nil_append, hblock]
  · have hnext : log.transfer.next ≠ 0 := by
      rw [h.next_eq hopen, Log.answers, List.length_map]
      exact fun hzero => hserved (List.eq_nil_of_length_eq_zero hzero)
    rw [agreed_append hserved, negotiated_of_admits hnext hadmits, h.size_eq]

/-- One answered request keeps the invariant. -/
theorem sound_handle (h : log.Sound path payload offered) {request response : Message}
    {after : Transfer} (hok : log.transfer.handle request = .ok (response, after)) :
    Log.Sound ⟨after, log.served ++ [(request, response)]⟩ path payload offered := by
  have hopen : log.transfer.phase ≠ .complete := (handle_eq_ok_iff.1 hok).1
  obtain ⟨requested, hblock, hadmits, hlimit, hcarries, rfl⟩ := carriesBlock_of_handle hok
  have hnext := h.next_eq hopen
  have hagreed := h.agreed_handle response hopen hblock hadmits
  have hanswers : Log.answers ⟨log.transfer.afterBlock (negotiated log.transfer.size requested)
      log.transfer.next, log.served ++ [(request, response)]⟩ = log.answers ++ [response] := by
    simp [Log.answers]
  rw [hnext, h.payload_eq] at hcarries
  rw [hnext] at hanswers ⊢
  constructor
  · exact h.path_eq
  · exact h.payload_eq
  · exact hagreed.symm
  · rw [hagreed, hanswers]
    refine Message.carryBlocks_append_singleton.2 ⟨fun number hlt => ?_, hcarries⟩
    -- The answers so far carry blocks of the same size: there were none or it stays.
    have hserved : log.served ≠ [] := by
      rintro hserved
      simp [Log.answers, hserved] at hlt
    rw [← hagreed, agreed_append hserved]
    exact h.blocks number hlt
  · rw [hagreed, hanswers]
    simp [afterBlock, h.payload_eq]
  · rw [hagreed, hanswers]
    by_cases hserved : log.served = []
    · left
      simp [Log.answers, hserved]
    · right
      rcases h.open_iff.1 hopen with hzero | hmore
      · exact absurd (List.eq_nil_of_length_eq_zero hzero) (by simpa [Log.answers] using hserved)
      · rw [← hagreed, agreed_append hserved]
        simpa using hmore

theorem sound_call (h : log.Sound path payload offered) (call : Call) :
    (log.call call).Sound path payload offered := by
  cases call with
  | check request => exact h
  | handle request =>
      rw [Log.call]
      cases hok : log.transfer.handle request with
      | error mismatch => exact h
      | ok result => exact sound_handle h hok

theorem sound_calls (h : log.Sound path payload offered) (calls : List Call) :
    (calls.foldl Log.call log).Sound path payload offered := by
  induction calls generalizing log with
  | nil => exact h
  | cons call calls ih => exact ih (sound_call h call)

/-- **The invariant holds after every run.** -/
theorem sound_run (path : String) (payload : Bytes) (offered : BlockSize) (calls : List Call) :
    ((begin path payload offered).run calls).Sound path payload offered :=
  sound_calls (sound_begin path payload offered) calls

/-- What calls lead to does not depend on what was served before them. -/
theorem foldl_call_eq (log : Log) (calls : List Call) :
    calls.foldl Log.call log =
      ⟨(log.transfer.run calls).transfer, log.served ++ (log.transfer.run calls).served⟩ := by
  induction calls generalizing log with
  | nil => simp [run]
  | cons call calls ih =>
      rw [run, List.foldl_cons, List.foldl_cons, ih, ih (Log.call _ call)]
      cases call with
      | check request => rfl
      | handle request =>
          cases hok : log.transfer.handle request with
          | error mismatch => simp [Log.call, hok]
          | ok result => simp [Log.call, hok]

/-- Calls only add to what was served. -/
theorem served_foldl_call (log : Log) (calls : List Call) :
    ∃ more, (calls.foldl Log.call log).served = log.served ++ more := by
  rw [foldl_call_eq]
  exact ⟨_, rfl⟩

theorem run_append (transfer : Transfer) (calls more : List Call) :
    transfer.run (calls ++ more) = more.foldl Log.call (transfer.run calls) := by
  rw [run, List.foldl_append, run]

/-! ## The end of a transfer -/

/-- A complete transfer has sent as many blocks as the payload takes. -/
theorem Log.Sound.length_of_complete (h : log.Sound path payload offered)
    (hcomplete : log.transfer.phase = .complete) :
    log.answers.length = log.transfer.size.count payload.length ∧
      payload.length ≤ log.answers.length * log.transfer.size.bytes := by
  have hdone : ¬log.transfer.phase ≠ .complete := not_not_intro hcomplete
  rw [h.open_iff, ← h.size_eq] at hdone
  have hneeded := h.needed
  rw [← h.size_eq] at hneeded
  have hpos := log.transfer.size.count_pos payload.length
  refine ⟨?_, by omega⟩
  have hle : ¬log.answers.length < log.transfer.size.count payload.length := by
    rw [BlockSize.lt_count_iff (by omega)]
    omega
  rcases hneeded with hone | hmore
  · omega
  · by_cases hone : log.answers.length ≤ 1
    · omega
    · have := (BlockSize.lt_count_iff (by omega)).2 hmore
      omega

/-- Block numbers have 20 bits, and so has the number of blocks sent, but for
its last value. -/
theorem length_le_of_carryBlocks {answers : List Message} {size : BlockSize}
    (h : Message.CarryBlocks answers payload size) : answers.length ≤ Block.numberLimit := by
  cases hlength : answers.length with
  | zero => exact Nat.zero_le _
  | succ last =>
      obtain ⟨block, -, hnumber, -⟩ := (h last (by omega)).block
      have := block.number.isLt
      omega

/-- Counted in a word of 32 bits, the blocks of a complete transfer are those
that were sent. -/
theorem Log.Sound.blockCount_eq (h : log.Sound path payload offered)
    (hcomplete : log.transfer.phase = .complete) :
    log.transfer.blockCount = log.answers.length := by
  have hlength := (h.length_of_complete hcomplete).1
  have hlimit := length_le_of_carryBlocks h.blocks
  simp only [Block.numberLimit] at hlimit
  have hcount : log.transfer.blockCount =
      log.transfer.size.count payload.length % UInt32.size := by
    rw [blockCount, h.payload_eq, BlockSize.count]
  rw [hcount, ← hlength, Nat.mod_eq_of_lt]
  simp only [UInt32.size]
  omega

/-- The last block sent has its "more" bit set exactly when the payload goes on
behind all of them. -/
theorem more_of_getLast? {answers : List Message} {last : Message} {size : BlockSize}
    (h : Message.CarryBlocks answers payload size) (hlast : answers.getLast? = some last) :
    answers.length ≠ 0 ∧ ∃ block, last.block = .ok (some block) ∧
      (block.more = true ↔ answers.length * size.bytes < payload.length) := by
  obtain ⟨front, rfl⟩ := List.getLast?_eq_some_iff.1 hlast
  obtain ⟨block, hblock, -, -, hmore⟩ := (Message.carryBlocks_append_singleton.1 h).2.block
  rw [List.length_append, List.length_singleton]
  exact ⟨Nat.succ_ne_zero _, block, hblock, hmore⟩

/-- A transfer is complete exactly when the last block it sent says so. -/
theorem Log.Sound.complete_iff (h : log.Sound path payload offered) :
    log.transfer.phase = .complete ↔
      ∃ last block, log.answers.getLast? = some last ∧ last.block = .ok (some block) ∧
        block.more = false := by
  have hdone : log.transfer.phase = .complete ↔ ¬(log.answers.length = 0 ∨
      log.answers.length * (agreed offered log.served).bytes < payload.length) := by
    rw [← h.open_iff, not_not]
  rw [hdone]
  constructor
  · intro hless
    cases hlast : log.answers.getLast? with
    | none =>
        rw [List.getLast?_eq_none_iff] at hlast
        exact absurd (Or.inl (by rw [hlast]; rfl)) hless
    | some last =>
        obtain ⟨-, block, hblock, hmore⟩ := more_of_getLast? h.blocks hlast
        refine ⟨last, block, rfl, hblock, ?_⟩
        rw [← Bool.not_eq_true, hmore]
        exact fun hlt => hless (Or.inr hlt)
  · rintro ⟨last, block, hlast, hblock, hfalse⟩ hless
    obtain ⟨hne, other, hother, hmore⟩ := more_of_getLast? h.blocks hlast
    cases hblock.symm.trans hother
    rcases hless with hzero | hlt
    · exact hne hzero
    · rw [hmore.2 hlt] at hfalse
      cases hfalse

/-- A complete transfer is not changed by further calls. -/
theorem foldl_call_of_complete (hcomplete : log.transfer.phase = .complete) (calls : List Call) :
    calls.foldl Log.call log = log := by
  induction calls with
  | nil => rfl
  | cons call calls ih =>
      have hcall : log.call call = log := by
        cases call with
        | check request => rfl
        | handle request => rw [Log.call, handle_of_complete hcomplete]
      rw [List.foldl_cons, hcall, ih]

/-! ## Main result -/

/-- **The integrity of a transfer.**  Whatever is asked of a fresh transfer, in
whatever order, the requests it answers get the blocks 0, 1, 2, … of the
payload at the size that the first of them and the size offered agree on.  The
size stays, and the answers together are the beginning of the payload.  The
transfer is complete exactly when the last answer says that nothing follows;
then the answers are the whole payload, their number is that of its blocks, and
nothing that comes later is answered or changes anything.  Until then it awaits
the block behind those that were sent. -/
theorem run_integrity (path : String) (payload : Bytes) (offered : BlockSize)
    (calls : List Call) :
    ∃ fresh, ofBlockSize path payload offered.bytes = .ok fresh ∧
      let log := fresh.run calls
      let count := log.answers.length
      let size := agreed offered log.served
      Message.CarryBlocks log.answers payload size ∧
      log.transfer.size = size ∧
      (log.served ≠ [] → ∀ more, (fresh.run (calls ++ more)).transfer.size = size) ∧
      log.answers.flatMap (·.payload) = payload.take (min (count * size.bytes) payload.length) ∧
      (log.transfer.phase = .complete ↔
        ∃ last block, log.answers.getLast? = some last ∧ last.block = .ok (some block) ∧
          block.more = false) ∧
      (log.transfer.phase = .complete →
        log.answers.flatMap (·.payload) = payload ∧
        count = log.transfer.blockCount ∧ count = log.transfer.next ∧
        (∀ more, fresh.run (calls ++ more) = log) ∧
        ∀ request, (∃ mismatch, log.transfer.handle request = .error mismatch) ∧
          ∃ mismatch, log.transfer.check request = .error mismatch) ∧
      (log.transfer.phase ≠ .complete → log.transfer.phase = .awaiting count) := by
  refine ⟨begin path payload offered, by simp [ofBlockSize, BlockSize.ofBytes, Except.map], ?_⟩
  intro log count size
  have h : log.Sound path payload offered := sound_run path payload offered calls
  have hjoined := Message.flatMap_payload_of_carryBlocks h.blocks
  refine ⟨h.blocks, h.size_eq, fun hne more => ?_, ?_, h.complete_iff, fun hcomplete => ?_,
    fun hopen => ?_⟩
  · have hmore := sound_run path payload offered (calls ++ more)
    obtain ⟨rest, hrest⟩ := served_foldl_call log more
    rw [hmore.size_eq, run_append, hrest, agreed_append hne]
  · rw [hjoined, List.take_eq_take_iff]
    simp only [count, size]
    omega
  · obtain ⟨hcount, hall⟩ := h.length_of_complete hcomplete
    have hblocks := h.blockCount_eq hcomplete
    rw [h.size_eq] at hall
    refine ⟨?_, hblocks.symm, ?_, fun more => ?_, fun request => ⟨?_, ?_⟩⟩
    · rw [hjoined, List.take_of_length_le hall]
    · rw [next, hcomplete]
      exact hblocks.symm
    · rw [run_append]
      exact foldl_call_of_complete hcomplete more
    · exact ⟨_, handle_of_complete hcomplete request⟩
    · exact ⟨_, check_of_complete hcomplete request⟩
  · rw [h.phase_eq, if_pos (h.open_iff.1 hopen)]

end Transfer
end Blockwise
