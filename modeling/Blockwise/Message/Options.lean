import Blockwise.Bytes

/-!
# The options of a message

Options are kept in the order of their numbers; among equal numbers the order
of insertion stays, which is what makes a path out of repeated Uri-Path
options.  The order is part of the type `Options`, so every list of options
that can be built has the order that the wire format relies on.
-/

namespace Blockwise

/-- One option: its number and its value. -/
structure OptionField where
  number : UInt16
  value : Bytes
  deriving DecidableEq, Repr

/-- The numbers of the options used here. -/
def OptionField.uriHost : UInt16 := 3

/-- A segment of the path; repeated, one for each segment. -/
def OptionField.uriPath : UInt16 := 11

/-- The block that is asked for or sent. -/
def OptionField.block2 : UInt16 := 23

/-- Fields in the order of their numbers. -/
def OptionField.Ordered (fields : List OptionField) : Prop :=
  fields.Pairwise fun a b => a.number.toNat ≤ b.number.toNat

/-- The options of a message, in the order of their numbers. -/
structure Options where
  fields : List OptionField
  ordered : OptionField.Ordered fields
  deriving DecidableEq

namespace Options

/-- No options. -/
def empty : Options := ⟨[], .nil⟩

/-! ## Adding -/

/-- A field put behind all fields whose number is not larger. -/
def insertField (field : OptionField) : List OptionField → List OptionField
  | [] => [field]
  | first :: rest =>
    if first.number ≤ field.number then first :: insertField field rest
    else field :: first :: rest

/-- The fields after an insertion are the old ones and the new one. -/
theorem mem_insertField {field other : OptionField} {fields : List OptionField} :
    other ∈ insertField field fields ↔ other = field ∨ other ∈ fields := by
  induction fields with
  | nil => simp [insertField]
  | cons first rest ih =>
    unfold insertField
    split
    · simp only [List.mem_cons, ih]
      constructor
      · rintro (h | h | h)
        · exact .inr (.inl h)
        · exact .inl h
        · exact .inr (.inr h)
      · rintro (h | h | h)
        · exact .inr (.inl h)
        · exact .inl h
        · exact .inr (.inr h)
    · simp

/-- Insertion keeps the order. -/
theorem ordered_insertField (field : OptionField) {fields : List OptionField}
    (h : OptionField.Ordered fields) : OptionField.Ordered (insertField field fields) := by
  induction fields with
  | nil => simp [insertField, OptionField.Ordered]
  | cons first rest ih =>
    unfold insertField
    obtain ⟨hfirst, hrest⟩ := List.pairwise_cons.1 h
    split
    case isTrue hle =>
      refine List.pairwise_cons.2 ⟨fun other hother => ?_, ih hrest⟩
      rcases mem_insertField.1 hother with rfl | hmem
      · exact UInt16.le_iff_toNat_le.1 hle
      · exact hfirst other hmem
    case isFalse hle =>
      have hlt : field.number.toNat ≤ first.number.toNat := by
        rw [UInt16.le_iff_toNat_le] at hle
        omega
      refine List.pairwise_cons.2 ⟨fun other hother => ?_, h⟩
      rcases List.mem_cons.1 hother with rfl | hmem
      · exact hlt
      · exact Nat.le_trans hlt (hfirst other hmem)

/-- The options with one more. -/
def add (options : Options) (number : UInt16) (value : Bytes) : Options :=
  ⟨insertField ⟨number, value⟩ options.fields, ordered_insertField _ options.ordered⟩

/-! ## Removing and reading -/

/-- The options without those of a number. -/
def remove (options : Options) (number : UInt16) : Options :=
  ⟨options.fields.filter (·.number ≠ number), options.ordered.filter _⟩

/-- The values of a number, in order. -/
def values (options : Options) (number : UInt16) : List Bytes :=
  (options.fields.filter (·.number = number)).map (·.value)

/-- Whether the number occurs. -/
def has (options : Options) (number : UInt16) : Bool :=
  options.fields.any (·.number = number)

/-- The options with the values of a number replaced by others. -/
def replace (options : Options) (number : UInt16) (values : List Bytes) : Options :=
  values.foldl (fun options value => options.add number value) (options.remove number)

end Options
end Blockwise
