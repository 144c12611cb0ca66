import Blockwise.Proofs.Gate
import Blockwise.Proofs.Message.Options

/-!
# What a gate says to a stream of requests

Requests of many kinds arrive in one stream, and all are kept in one history.  A gate
that ignores a request until it was seen often enough ignores the first few requests of
every kind, and the others in between make no difference.

* `Gate.screen` — the requests, each with what the gate says to it.
* `Gate.verdicts_screen` — what is said to the requests of one kind, in order.
* `Gate.perm_ignored` — the order of arrival does not tell how many are ignored.
* `ModuloBackoff.screen_exact` — the main result: all of this for the gate that ignores
  the request for a block by its number.
-/

namespace Blockwise

/-! ## A stream of requests -/

namespace Gate

variable {gate : Gate} {owed : RequestRecord → Nat}

/-- What the gate says to requests that arrive one after the other: whether it ignores
them.  Each is counted and recorded before the gate is asked. -/
def screen (gate : Gate) : History → List Message → List (Message × Bool)
  | _, [] => []
  | history, request :: later =>
    let (prior, history) := history.arrive request.record
    (request, gate request prior) :: gate.screen history later

theorem screen_cons (gate : Gate) (history : History) (request : Message)
    (later : List Message) :
    gate.screen history (request :: later) =
      (request, gate request (history.count request.record)) ::
        gate.screen (history.push request.record) later :=
  rfl

theorem map_fst_screen (gate : Gate) (history : History) (requests : List Message) :
    (gate.screen history requests).map (·.1) = requests := by
  induction requests generalizing history with
  | nil => rfl
  | cons request later ih => rw [screen_cons, List.map_cons, ih]

/-- What the gate says to the requests of one kind, in order. -/
def verdicts (screened : List (Message × Bool)) (record : RequestRecord) : List Bool :=
  (screened.filter (·.1.record = record)).map (·.2)

/-- Verdicts that ignore first and then answer. -/
def ignoreFirst (ignored count : Nat) : List Bool :=
  List.replicate (min count ignored) true ++ List.replicate (count - min count ignored) false

theorem ignoreFirst_zero (count : Nat) : ignoreFirst 0 count = List.replicate count false := by
  simp [ignoreFirst]

theorem ignoreFirst_succ (ignored count : Nat) :
    ignoreFirst (ignored + 1) (count + 1) = true :: ignoreFirst ignored count := by
  rw [ignoreFirst, Nat.add_min_add_right, List.replicate_succ, Nat.add_sub_add_right]
  rfl

/-- A gate that ignores each request until it was seen so often, by what the request is
recorded as. -/
def Threshold (gate : Gate) (owed : RequestRecord → Nat) : Prop :=
  ∀ request prior, gate request prior = decide (prior < owed request.record)

/-- **The first requests of a kind are ignored, the others are answered**, whatever
arrives in between; requests that came before the stream count as well. -/
theorem verdicts_screen (h : gate.Threshold owed) (history : History)
    (requests : List Message) (record : RequestRecord) :
    verdicts (gate.screen history requests) record =
      ignoreFirst (owed record - history.count record)
        ((requests.map Message.record).count record) := by
  induction requests generalizing history with
  | nil => rfl
  | cons request later ih =>
      have hlater := ih (history.push request.record)
      rw [History.count_push] at hlater
      by_cases hrecord : request.record = record
      · have hverdicts : verdicts (gate.screen history (request :: later)) record =
            decide (history.count record < owed record) ::
              verdicts (gate.screen (history.push request.record) later) record := by
          simp [screen_cons, verdicts, h request, hrecord]
        rw [if_pos hrecord.symm] at hlater
        rw [hverdicts, hlater, List.map_cons, hrecord, List.count_cons_self]
        by_cases hlt : history.count record < owed record
        · have hone : owed record - history.count record =
              owed record - (history.count record + 1) + 1 := by omega
          rw [decide_eq_true hlt, hone, ignoreFirst_succ]
        · have hnone : owed record - history.count record = 0 := by omega
          rw [decide_eq_false hlt, ← Nat.sub_sub, hnone, Nat.zero_sub, ignoreFirst_zero,
            ignoreFirst_zero, List.replicate_succ]
      · have hverdicts : verdicts (gate.screen history (request :: later)) record =
            verdicts (gate.screen (history.push request.record) later) record := by
          simp [screen_cons, verdicts, hrecord]
        rw [if_neg (Ne.symm hrecord), Nat.add_zero] at hlater
        rw [hverdicts, hlater, List.map_cons, List.count_cons_of_ne hrecord]

/-! ## How many are ignored -/

/-- The records of the requests that are ignored. -/
def ignored (screened : List (Message × Bool)) : List RequestRecord :=
  (screened.filter (·.2)).map (·.1.record)

theorem count_ignored (screened : List (Message × Bool)) (record : RequestRecord) :
    (ignored screened).count record = (verdicts screened record).count true := by
  induction screened with
  | nil => rfl
  | cons first rest ih =>
      obtain ⟨request, verdict⟩ := first
      by_cases hrecord : request.record = record
      · cases verdict <;> simpa [ignored, verdicts, hrecord] using ih
      · cases verdict <;> simpa [ignored, verdicts, hrecord, List.count_cons] using ih

/-- **Which requests are ignored does not depend on the order of arrival**, up to the
order of these requests themselves. -/
theorem perm_ignored (h : gate.Threshold owed) (history : History)
    {requests others : List Message} (hperm : requests.Perm others) :
    (ignored (gate.screen history requests)).Perm (ignored (gate.screen history others)) := by
  rw [List.perm_iff_count]
  intro record
  rw [count_ignored, count_ignored, verdicts_screen h, verdicts_screen h,
    (hperm.map Message.record).count_eq]

/-- A request that comes again and again is ignored until it was seen often enough, and
then it is answered. -/
theorem screen_replicate (h : gate.Threshold owed) (history : History) (request : Message)
    {times : Nat} (htimes : owed request.record - history.count request.record = times) :
    gate.screen history (List.replicate (times + 1) request) =
      List.replicate times (request, true) ++ [(request, false)] := by
  induction times generalizing history with
  | zero =>
      have hanswered : gate request (history.count request.record) = false := by
        rw [h request, decide_eq_false]
        omega
      rw [List.replicate_one, screen_cons, hanswered]
      rfl
  | succ times ih =>
      have hignored : gate request (history.count request.record) = true := by
        rw [h request, decide_eq_true]
        omega
      have hlater := ih (history.push request.record)
        (by rw [History.count_push, if_pos rfl]; omega)
      rw [List.replicate_succ, screen_cons, hignored, hlater, List.replicate_succ,
        List.cons_append]

theorem mem_screen {history : History} {requests : List Message} {request : Message}
    {verdict : Bool} (hmem : (request, verdict) ∈ gate.screen history requests) :
    ∃ prior, gate request prior = verdict := by
  induction requests generalizing history with
  | nil => cases hmem
  | cons first later ih =>
      rcases List.mem_cons.1 hmem with hfirst | hlater
      · cases hfirst
        exact ⟨_, rfl⟩
      · exact ih hlater

end Gate

/-! ## The gate that ignores by block number -/

/-- The block that requests of a kind name, if it can be read. -/
def RequestRecord.block? (record : RequestRecord) : Option Block :=
  (record.options.values OptionField.block2).head?.bind fun value =>
    (Block.decode value).toOption

/-- The record of a request keeps the block that the request names. -/
theorem Message.block?_record {request : Message} {block : Block} :
    request.record.block? = some block ↔ request.block = .ok (some block) := by
  rw [RequestRecord.block?, record, Message.block]
  cases request.options.values OptionField.block2 with
  | nil => simp
  | cons value others =>
      cases hdecode : Block.decode value with
      | error error => simp [hdecode, Except.map, Except.toOption]
      | ok named => simp [hdecode, Except.map, Except.toOption]

namespace ModuloBackoff

/-- How often a request of a kind is ignored: never if it names no block. -/
def owed (backoff : ModuloBackoff) (record : RequestRecord) : Nat :=
  match record.block? with
  | some block => backoff.requiredDrops block.number.val
  | none => 0

theorem threshold_gate (backoff : ModuloBackoff) : backoff.gate.Threshold backoff.owed := by
  intro request prior
  cases hblock : request.record.block? with
  | some block =>
      rw [gate_of_block (Message.block?_record.1 hblock), owed, hblock]
  | none =>
      have hnone (block : Block) : request.block ≠ .ok (some block) := fun hnamed => by
        rw [Message.block?_record.2 hnamed] at hblock
        cases hblock
      rw [gate_of_unnamed hnone, owed, hblock, decide_eq_false (Nat.not_lt_zero prior)]

/-- **Which requests are ignored, exactly.**  Of the requests of a kind that names block
`n`, the first `n % modulus` are ignored, less those seen before the stream, and all later
ones are answered, whatever arrives in between.  Requests that name no block are never
ignored.  So the order of arrival does not change how many are ignored, and a request
that is sent again until it is answered is answered in the end. -/
theorem screen_exact (backoff : ModuloBackoff) (history : History) (requests : List Message) :
    let screened := backoff.gate.screen history requests
    screened.map (·.1) = requests ∧
    (∀ record block, record.block? = some block →
      let count := (requests.map Message.record).count record
      let ignored :=
        min count (block.number.val % max backoff.modulus 1 - history.count record)
      Gate.verdicts screened record =
        List.replicate ignored true ++ List.replicate (count - ignored) false) ∧
    (∀ request verdict, (request, verdict) ∈ screened →
      (∀ block, request.block ≠ .ok (some block)) → verdict = false) ∧
    (∀ others, requests.Perm others →
      (backoff.gate.screen history others).countP (·.2) = screened.countP (·.2)) ∧
    ∀ request, ∃ times, backoff.gate.screen history (List.replicate (times + 1) request) =
      List.replicate times (request, true) ++ [(request, false)] := by
  have hgate := backoff.threshold_gate
  refine ⟨Gate.map_fst_screen _ _ _, ?_, ?_, ?_, ?_⟩
  · intro record block hblock
    have hverdicts := Gate.verdicts_screen hgate history requests record
    rw [owed, hblock] at hverdicts
    exact hverdicts
  · intro request verdict hmem hnone
    obtain ⟨prior, rfl⟩ := Gate.mem_screen hmem
    exact gate_of_unnamed hnone prior
  · intro others hperm
    have hlength := (Gate.perm_ignored hgate history hperm).length_eq
    simpa [Gate.ignored, List.countP_eq_length_filter] using hlength.symm
  · exact fun request => ⟨_, Gate.screen_replicate hgate history request rfl⟩

end ModuloBackoff
end Blockwise
