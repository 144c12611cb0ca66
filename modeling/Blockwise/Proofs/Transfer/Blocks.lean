import Blockwise.Proofs.Message.Options
import Mathlib.Data.List.Induction

/-!
# Messages that carry the blocks of a payload

* `Message.CarriesBlock` — one message carries one block.
* `Message.CarryBlocks` — a list of messages carries the first blocks, in order.
* `flatMap_payload_of_carryBlocks` — what such messages carry together is the
  beginning of the payload.
-/

namespace Blockwise.Message

/-- A response that carries block `number` of a payload cut to the given size:
code 2.05, a block option with the "more" bit set exactly when the payload goes
on, and the bytes of the block. -/
structure CarriesBlock (response : Message) (payload : Bytes) (size : BlockSize)
    (number : Nat) : Prop where
  code : response.code = .content
  block : ∃ block : Block, response.block = .ok (some block) ∧ block.number.val = number ∧
    block.size = size ∧ (block.more = true ↔ (number + 1) * size.bytes < payload.length)
  payload : response.payload =
    payload.extract (number * size.bytes) (min ((number + 1) * size.bytes) payload.length)

instance (response : Message) (payload : Bytes) (size : BlockSize) (number : Nat) :
    Decidable (response.CarriesBlock payload size number) :=
  match hblock : response.block with
  | .ok (some block) =>
    decidable_of_iff
      (response.code = .content ∧ (block.number.val = number ∧ block.size = size ∧
        (block.more = true ↔ (number + 1) * size.bytes < payload.length)) ∧
        response.payload = payload.extract (number * size.bytes)
          (min ((number + 1) * size.bytes) payload.length))
      ⟨fun ⟨hcode, hnames, hpayload⟩ => ⟨hcode, ⟨block, hblock, hnames⟩, hpayload⟩, by
        rintro ⟨hcode, ⟨other, hother, hnames⟩, hpayload⟩
        cases hblock.symm.trans hother
        exact ⟨hcode, hnames, hpayload⟩⟩
  | .ok none => .isFalse fun h => by
      obtain ⟨other, hother, -⟩ := h.block
      cases hblock.symm.trans hother
  | .error _ => .isFalse fun h => by
      obtain ⟨other, hother, -⟩ := h.block
      cases hblock.symm.trans hother

/-- A message carries no more than one block. -/
theorem CarriesBlock.unique {message : Message} {payload : Bytes} {size : BlockSize}
    {number other : Nat} (h : message.CarriesBlock payload size number)
    (hother : message.CarriesBlock payload size other) : number = other := by
  obtain ⟨block, hblock, hnumber, -⟩ := h.block
  obtain ⟨block', hblock', hnumber', -⟩ := hother.block
  rw [hblock, Except.ok.injEq, Option.some.injEq] at hblock'
  rw [← hnumber, ← hnumber', hblock']

/-- The messages carry the blocks from 0 on, one each and in order. -/
def CarryBlocks (answers : List Message) (payload : Bytes) (size : BlockSize) : Prop :=
  ∀ (number : Nat) (h : number < answers.length), answers[number].CarriesBlock payload size number

/-- A block as a slice of the payload, cut short at the payload's end. -/
theorem extract_block (payload : Bytes) (size : BlockSize) (number : Nat) :
    payload.extract (number * size.bytes) (min ((number + 1) * size.bytes) payload.length) =
      (payload.drop (number * size.bytes)).take size.bytes := by
  rw [List.extract_eq_take_drop, List.take_eq_take_iff, List.length_drop, Nat.add_mul, Nat.one_mul]
  omega

variable {answers : List Message} {answer : Message} {payload : Bytes} {size : BlockSize}

theorem carryBlocks_nil : CarryBlocks [] payload size :=
  fun _ h => absurd h (Nat.not_lt_zero _)

/-- One more message has to carry the next block. -/
theorem carryBlocks_append_singleton :
    CarryBlocks (answers ++ [answer]) payload size ↔
      CarryBlocks answers payload size ∧ answer.CarriesBlock payload size answers.length := by
  constructor
  · intro h
    refine ⟨fun number hlt => ?_, ?_⟩
    · have hcarries := h number (by rw [List.length_append]; omega)
      rwa [List.getElem_append_left hlt] at hcarries
    · have hcarries := h answers.length (by simp)
      rwa [List.getElem_concat_length rfl] at hcarries
  · rintro ⟨hanswers, hanswer⟩ number hlt
    by_cases hnumber : number < answers.length
    · rw [List.getElem_append_left hnumber]
      exact hanswers number hnumber
    · have hlast : number = answers.length := by
        rw [List.length_append, List.length_singleton] at hlt
        omega
      subst hlast
      rw [List.getElem_concat_length rfl]
      exact hanswer

/-- Messages behind others carry the blocks behind theirs. -/
theorem CarryBlocks.getElem_append {more : List Message}
    (h : CarryBlocks (answers ++ more) payload size) {number : Nat} (hlt : number < more.length) :
    more[number].CarriesBlock payload size (answers.length + number) := by
  have hcarries := h (answers.length + number) (by rw [List.length_append]; omega)
  simpa only [List.getElem_append_right (Nat.le_add_right _ _), Nat.add_sub_cancel_left]
    using hcarries

/-- Block by block the messages carry the beginning of the payload. -/
theorem flatMap_payload_of_carryBlocks (h : CarryBlocks answers payload size) :
    answers.flatMap (·.payload) = payload.take (answers.length * size.bytes) := by
  induction answers using List.reverseRecOn with
  | nil => simp
  | append_singleton answers answer ih =>
      obtain ⟨hanswers, hanswer⟩ := carryBlocks_append_singleton.1 h
      rw [List.flatMap_append, ih hanswers, List.flatMap_singleton, hanswer.payload, extract_block,
        List.length_append, List.length_singleton, Nat.add_mul, Nat.one_mul, List.take_add]

end Blockwise.Message
