import Blockwise.Message
import Blockwise.Proofs.Block.Value
import Blockwise.Proofs.Text.Utf8

/-!
# Options as a map from numbers to lists of values

The list of options stands for a map: each number has its list of values.

* `Options.values_add` — adding puts one value behind those of its number.
* `Options.values_remove` — removing empties the list of its number.
* `Options.values_replace` — replacing changes it to the values given.

None of them touches another number, so a message's path and its block are
independent of each other (`path_withBlock`, `block_withPath`), and what is put in
for either is read back (`path_withPath`, `block_withBlock`).
-/

namespace Blockwise

namespace Options

/-- An insertion is not seen among the fields of another number. -/
theorem filter_insertField_of_ne {field : OptionField} {number : UInt16}
    (h : field.number ≠ number) (fields : List OptionField) :
    (insertField field fields).filter (·.number = number) =
      fields.filter (·.number = number) := by
  induction fields with
  | nil => simp [insertField, h]
  | cons first rest ih =>
      unfold insertField
      by_cases hle : first.number ≤ field.number
      · rw [if_pos hle, List.filter_cons, List.filter_cons, ih]
      · rw [if_neg hle, List.filter_cons_of_neg (by simpa using h)]

/-- Among the fields of its own number an insertion comes last. -/
theorem filter_insertField_self (field : OptionField) {fields : List OptionField}
    (hordered : OptionField.Ordered fields) :
    (insertField field fields).filter (·.number = field.number) =
      fields.filter (·.number = field.number) ++ [field] := by
  induction fields with
  | nil => simp [insertField]
  | cons first rest ih =>
      obtain ⟨hfirst, hrest⟩ := List.pairwise_cons.1 hordered
      unfold insertField
      by_cases hle : first.number ≤ field.number
      · rw [if_pos hle, List.filter_cons, List.filter_cons, ih hrest]
        by_cases heq : first.number = field.number
        · simp [heq]
        · simp [heq]
      · rw [if_neg hle]
        -- Everything from here on has a larger number.
        have hnone : (first :: rest).filter (·.number = field.number) = [] := by
          rw [List.filter_eq_nil_iff]
          intro other hother heq
          have hnumber : other.number = field.number := by simpa using heq
          rw [UInt16.le_iff_toNat_le] at hle
          rcases List.mem_cons.1 hother with rfl | hmem
          · rw [hnumber] at hle
            exact hle (Nat.le_refl _)
          · have := hfirst other hmem
            rw [hnumber] at this
            exact hle this
        rw [List.filter_cons_of_pos (by simp), hnone, List.nil_append]

/-- Adding puts one value behind those of its number. -/
theorem values_add (options : Options) (number other : UInt16) (value : Bytes) :
    (options.add number value).values other =
      if other = number then options.values other ++ [value] else options.values other := by
  unfold values add
  by_cases h : other = number
  · subst h
    rw [if_pos rfl, filter_insertField_self ⟨other, value⟩ options.ordered, List.map_append]
    rfl
  · rw [if_neg h, filter_insertField_of_ne (Ne.symm h)]

/-- Removing empties the list of its number. -/
theorem values_remove (options : Options) (number other : UInt16) :
    (options.remove number).values other =
      if other = number then [] else options.values other := by
  unfold values remove
  rw [List.filter_filter]
  by_cases h : other = number
  · subst h
    simp
  · rw [if_neg h]
    congr 1
    apply List.filter_congr
    intro field _
    by_cases hfield : field.number = other
    · simp [hfield, h]
    · simp [hfield]

theorem values_foldl_add (options : Options) (number other : UInt16) (values : List Bytes) :
    (values.foldl (fun options value => options.add number value) options).values other =
      if other = number then options.values other ++ values else options.values other := by
  induction values generalizing options with
  | nil => simp
  | cons value values ih =>
      rw [List.foldl_cons, ih, values_add]
      by_cases h : other = number
      · simp [h]
      · simp [h]

/-- Replacing gives a number the values named and leaves the other numbers
alone. -/
theorem values_replace (options : Options) (number other : UInt16) (values : List Bytes) :
    (options.replace number values).values other =
      if other = number then values else options.values other := by
  rw [replace, values_foldl_add, values_remove]
  by_cases h : other = number
  · simp [h]
  · simp [h]

end Options

namespace Message

/-! ## Path and block -/

/-- The block depends on the options alone. -/
theorem block_congr {message other : Message} (h : message.options = other.options) :
    message.block = other.block := by
  rw [block, block, h]

/-- The block that is put in is the block that is read. -/
@[simp] theorem block_withBlock (message : Message) (block : Block) :
    (message.withBlock block).block = .ok (some block) := by
  unfold Message.block withBlock
  rw [Options.values_replace, if_pos rfl]
  simp [Except.map]

/-- Putting in a block leaves the path as it is. -/
@[simp] theorem path_withBlock (message : Message) (block : Block) :
    (message.withBlock block).path = message.path := by
  unfold path withBlock
  rw [Options.values_replace, if_neg (by decide)]

/-- The path that is put in is read in its canonical form. -/
@[simp] theorem path_withPath (message : Message) (path : String) :
    (message.withPath path).path = Path.normalize path := by
  unfold Message.path withPath
  rw [Options.values_replace, if_pos rfl, List.map_map, Path.normalize]
  simp [Function.comp_def]

/-- Putting in a path leaves the block as it is. -/
@[simp] theorem block_withPath (message : Message) (path : String) :
    (message.withPath path).block = message.block := by
  unfold block withPath
  rw [Options.values_replace, if_neg (by decide)]

end Message
end Blockwise
