import Blockwise.Proofs.Message.Options
import Blockwise.Proofs.Text.Pieces
import Mathlib.Data.List.Basic
import Mathlib.Logic.Function.Basic

/-!
# Editing the options of a message

However a message's options are edited, they stand for a map from numbers to lists of
values, and each edit changes the list of one number.

* `partitionPoint_eq` — halving an ordered list finds the place of an insertion.
* `Options.insertField_eq` — an option is inserted at that place.
* `Options.Represents` — what it means that options stand for a map: they are the
  map's listing, and reading a number gives its list.
* `Options.represents_values` — options stand for the map of their values.
* `Message.values_edit`, `Message.values_edited` — what one edit and what any number of
  them make of the map.
* `Message.edited_options` — the main result, for every start and all edits.
-/

namespace Blockwise

/-! ## The place of an insertion -/

section PartitionPoint

variable {α : Type} {below : α → Bool}

/-- The place where a list stops to be `below`, found by halving: the element in the
middle tells on which side of it the place is. -/
def partitionPoint (below : α → Bool) (list : List α) : Nat :=
  match h : list.drop (list.length / 2) with
  | [] => 0
  | middle :: behind =>
    if below middle then list.length / 2 + 1 + partitionPoint below behind
    else partitionPoint below (list.take (list.length / 2))
termination_by list.length
decreasing_by
  · have hlength := congrArg List.length h
    rw [List.length_drop, List.length_cons] at hlength
    omega
  · have hlength := congrArg List.length h
    rw [List.length_drop, List.length_cons] at hlength
    rw [List.length_take]
    omega

theorem takeWhile_append_cons_of_pos {front : List α} {middle : α}
    (hfront : ∀ a ∈ front, below a = true) (hmiddle : below middle = true) (behind : List α) :
    (front ++ middle :: behind).takeWhile below =
      front ++ middle :: behind.takeWhile below := by
  induction front with
  | nil => rw [List.nil_append, List.takeWhile_cons_of_pos hmiddle, List.nil_append]
  | cons first front ih =>
      obtain ⟨hfirst, hrest⟩ := List.forall_mem_cons.1 hfront
      rw [List.cons_append, List.takeWhile_cons_of_pos hfirst, ih hrest, List.cons_append]

theorem takeWhile_append_cons_of_neg {middle : α} (hmiddle : ¬below middle = true)
    (front behind : List α) :
    (front ++ middle :: behind).takeWhile below = front.takeWhile below := by
  induction front with
  | nil => rw [List.nil_append, List.takeWhile_cons_of_neg hmiddle, List.takeWhile_nil]
  | cons first front ih =>
      by_cases hfirst : below first = true
      · rw [List.cons_append, List.takeWhile_cons_of_pos hfirst, ih,
          List.takeWhile_cons_of_pos hfirst]
      · rw [List.cons_append, List.takeWhile_cons_of_neg hfirst,
          List.takeWhile_cons_of_neg hfirst]

/-- **Halving finds the place,** if whatever is before an element below is below too. -/
theorem partitionPoint_eq {list : List α}
    (h : list.Pairwise fun a b => below b = true → below a = true) :
    partitionPoint below list = (list.takeWhile below).length := by
  fun_induction partitionPoint below list with
  | case1 list hdrop =>
      have hlength := congrArg List.length hdrop
      rw [List.length_drop, List.length_nil] at hlength
      obtain rfl : list = [] := List.length_eq_zero_iff.1 (by omega)
      rfl
  | case2 list middle behind hdrop hmiddle ih =>
      have hlist : list.take (list.length / 2) ++ middle :: behind = list := by
        rw [← hdrop, List.take_append_drop]
      obtain ⟨-, hback, hcross⟩ := List.pairwise_append.1 (hlist ▸ h)
      have hfront : ∀ a ∈ list.take (list.length / 2), below a = true :=
        fun a ha => hcross a ha middle (List.mem_cons_self ..) hmiddle
      have hplace := congrArg List.length (takeWhile_append_cons_of_pos hfront hmiddle behind)
      rw [hlist, List.length_append, List.length_cons, List.length_take] at hplace
      rw [ih (List.pairwise_cons.1 hback).2, hplace]
      omega
  | case3 list middle behind hdrop hmiddle ih =>
      have hlist : list.take (list.length / 2) ++ middle :: behind = list := by
        rw [← hdrop, List.take_append_drop]
      have hplace := takeWhile_append_cons_of_neg hmiddle (list.take (list.length / 2)) behind
      rw [hlist] at hplace
      rw [ih (List.pairwise_append.1 (hlist ▸ h)).1, hplace]

end PartitionPoint

namespace Options

/-- **An option goes to the place that halving finds,** behind all options whose numbers
are not larger. -/
theorem insertField_eq (field : OptionField) {fields : List OptionField}
    (hordered : OptionField.Ordered fields) :
    insertField field fields =
      fields.take (partitionPoint (·.number ≤ field.number) fields) ++
        field :: fields.drop (partitionPoint (·.number ≤ field.number) fields) := by
  have hplace : partitionPoint (·.number ≤ field.number) fields =
      (fields.takeWhile (·.number ≤ field.number)).length := by
    refine partitionPoint_eq (hordered.imp fun {a b} hle hbelow => ?_)
    simp only [decide_eq_true_eq, UInt16.le_iff_toNat_le] at hbelow ⊢
    omega
  rw [hplace]
  clear hplace hordered
  induction fields with
  | nil => rfl
  | cons first rest ih =>
      unfold insertField
      by_cases hle : first.number ≤ field.number
      · rw [if_pos hle, ih, List.takeWhile_cons_of_pos (by simpa using hle)]
        rfl
      · rw [if_neg hle, List.takeWhile_cons_of_neg (by simpa using hle)]
        rfl

/-! ## Options as a map -/

/-- The options that a map from numbers to lists of values stands for, in the order of
the numbers. -/
def listing (map : UInt16 → List Bytes) : List OptionField :=
  (List.range UInt16.size).flatMap fun number =>
    (map (UInt16.ofNat number)).map (OptionField.mk (UInt16.ofNat number))

/-- What it means that options stand for a map. -/
structure Represents (options : Options) (map : UInt16 → List Bytes) : Prop where
  /-- The numbers do not fall. -/
  ordered : options.fields.Pairwise fun a b => a.number ≤ b.number
  /-- They are the map's options and no others, each list in its order. -/
  fields : options.fields = listing map
  /-- Reading a number gives its list. -/
  values : ∀ number, options.values number = map number
  /-- A number occurs if its list is not empty. -/
  has : ∀ number, options.has number = true ↔ map number ≠ []

/-- Of options in order those with the lowest number come first. -/
theorem filter_append_filter {fields : List OptionField} {lowest : Nat}
    (hordered : OptionField.Ordered fields)
    (hlowest : ∀ field ∈ fields, lowest ≤ field.number.toNat) :
    fields.filter (·.number.toNat = lowest) ++ fields.filter (lowest < ·.number.toNat) =
      fields := by
  induction fields with
  | nil => rfl
  | cons first rest ih =>
      obtain ⟨hfirst, hrest⟩ := List.pairwise_cons.1 hordered
      obtain ⟨hlow, hlows⟩ := List.forall_mem_cons.1 hlowest
      by_cases heq : first.number.toNat = lowest
      · rw [List.filter_cons_of_pos (by simpa using heq), List.filter_cons_of_neg (by simp [heq]),
          List.cons_append, ih hrest hlows]
      · -- The first number is larger, and so are all that follow it.
        have hlarger : ∀ field ∈ first :: rest, lowest < field.number.toNat := by
          rw [List.forall_mem_cons]
          refine ⟨by omega, fun field hfield => ?_⟩
          have := hfirst field hfield
          omega
        have hnone : (first :: rest).filter (·.number.toNat = lowest) = [] := by
          rw [List.filter_eq_nil_iff]
          intro field hfield
          have := hlarger field hfield
          simp only [decide_eq_true_eq]
          omega
        have hall : (first :: rest).filter (lowest < ·.number.toNat) = first :: rest := by
          rw [List.filter_eq_self]
          intro field hfield
          simpa using hlarger field hfield
        rw [hnone, hall, List.nil_append]

/-- Options in order are listed number by number. -/
theorem eq_flatMap_filter {fields : List OptionField} (lowest count : Nat)
    (hordered : OptionField.Ordered fields)
    (hrange : ∀ field ∈ fields, lowest ≤ field.number.toNat ∧ field.number.toNat < lowest + count) :
    fields = (List.range' lowest count).flatMap fun number =>
      fields.filter (·.number.toNat = number) := by
  induction count generalizing fields lowest with
  | zero =>
      cases fields with
      | nil => rfl
      | cons first rest =>
          have := hrange first (List.mem_cons_self ..)
          omega
  | succ count ih =>
      have hbehind := ih (lowest + 1) (hordered.filter (lowest < ·.number.toNat))
        fun field hfield => by
          obtain ⟨hmem, hlarger⟩ := List.mem_filter.1 hfield
          have := hrange field hmem
          simp only [decide_eq_true_eq] at hlarger
          omega
      have hsame : ∀ number ∈ List.range' (lowest + 1) count,
          (fields.filter (lowest < ·.number.toNat)).filter (·.number.toNat = number) =
            fields.filter (·.number.toNat = number) := by
        intro number hnumber
        have := (List.mem_range'_1.1 hnumber).1
        rw [List.filter_filter]
        refine List.filter_congr fun field _ => ?_
        simp only [Bool.and_eq_left_iff_imp, decide_eq_true_eq]
        omega
      rw [List.flatMap_congr hsame] at hbehind
      rw [List.range'_succ, List.flatMap_cons, ← hbehind]
      exact (filter_append_filter hordered fun field hfield => (hrange field hfield).1).symm

theorem filter_eq_map_values (options : Options) (number : UInt16) :
    options.fields.filter (·.number = number) =
      (options.values number).map (OptionField.mk number) := by
  rw [values, List.map_map]
  refine ((List.map_congr_left fun field hfield => ?_).trans (List.map_id _)).symm
  obtain rfl : field.number = number := by simpa using (List.mem_filter.1 hfield).2
  rfl

/-- **Options are the listing of their values.** -/
theorem fields_eq_listing (options : Options) : options.fields = listing options.values := by
  have hlisted := eq_flatMap_filter 0 UInt16.size options.ordered
    fun field _ => ⟨Nat.zero_le _, by have := field.number.toNat_lt; simpa using this⟩
  rw [hlisted, listing, List.range_eq_range']
  refine List.flatMap_congr fun number hnumber => ?_
  have hsmall : number < UInt16.size := by simpa using (List.mem_range'_1.1 hnumber).2
  rw [← filter_eq_map_values]
  refine List.filter_congr fun field _ => ?_
  rw [decide_eq_decide, ← UInt16.toNat_inj, UInt16.toNat_ofNat', Nat.mod_eq_of_lt hsmall]

/-- Options stand for the map of their values. -/
theorem represents_values (options : Options) : options.Represents options.values where
  ordered := options.ordered.imp fun {_ _} hle => UInt16.le_iff_toNat_le.2 hle
  fields := options.fields_eq_listing
  values _ := rfl
  has number := by
    rw [has, values, List.any_eq_true, Ne, List.map_eq_nil_iff, List.filter_eq_nil_iff]
    simp

end Options

/-! ## Edits -/

/-- One change of a message's options. -/
inductive Edit where
  /-- One more value of a number. -/
  | add (number : UInt16) (value : Bytes)
  /-- No more values of a number. -/
  | remove (number : UInt16)
  /-- Another path. -/
  | setPath (path : String)
  /-- Another block. -/
  | setBlock (block : Block)

namespace Edit

/-- The number that an edit is about. -/
def number : Edit → UInt16
  | .add number _ => number
  | .remove number => number
  | .setPath _ => OptionField.uriPath
  | .setBlock _ => OptionField.block2

/-- What the edit makes of the values of its number.  A path becomes what is between its
slashes, as far as it is not empty. -/
def values (edit : Edit) (before : List Bytes) : List Bytes :=
  match edit with
  | .add _ value => before ++ [value]
  | .remove _ => []
  | .setPath path =>
    ((path.toList.splitOn '/').filter (!·.isEmpty)).map (Text.Utf8.encode <| String.ofList ·)
  | .setBlock block => [block.encode]

/-- The edit as a change of a map: all numbers but its own keep their values. -/
def onMap (edit : Edit) (map : UInt16 → List Bytes) : UInt16 → List Bytes :=
  Function.update map edit.number (edit.values (map edit.number))

end Edit

namespace Message

/-- The message after one edit. -/
def edit (message : Message) : Edit → Message
  | .add number value => { message with options := message.options.add number value }
  | .remove number => { message with options := message.options.remove number }
  | .setPath path => message.withPath path
  | .setBlock block => message.withBlock block

/-- The message after edits, one after the other. -/
def edited (message : Message) (edits : List Edit) : Message := edits.foldl edit message

/-- Edits change the options alone. -/
theorem edited_eq (message : Message) (edits : List Edit) :
    message.edited edits = { message with options := (message.edited edits).options } := by
  induction edits generalizing message with
  | nil => rfl
  | cons edit edits ih =>
      rw [edited, List.foldl_cons, ← edited, ih]
      cases edit with
      | add _ _ => rfl
      | remove _ => rfl
      | setPath _ => rfl
      | setBlock _ => rfl

/-- The segments of a path are what is between its slashes, as far as it is not empty. -/
theorem segments_eq (path : String) :
    (Path.segments path).map Text.Utf8.encode =
      ((path.toList.splitOn '/').filter (!·.isEmpty)).map
        (Text.Utf8.encode <| String.ofList ·) := by
  rw [Path.segments, Text.piecesOf, Text.pieces_eq_filter_splitOnP, List.map_map]
  rfl

/-- What one edit makes of the values: those of its number change, the others stay. -/
theorem values_edit (message : Message) (edit : Edit) :
    (message.edit edit).options.values = edit.onMap message.options.values := by
  funext other
  rw [Edit.onMap, Function.update_apply]
  cases edit with
  | add number value =>
      refine (Options.values_add message.options number other value).trans ?_
      by_cases h : other = number
      · rw [h]
        rfl
      · rw [if_neg h]
        exact (if_neg h).symm
  | remove number => exact Options.values_remove message.options number other
  | setPath path =>
      refine (Options.values_replace message.options _ other _).trans ?_
      rw [segments_eq]
      rfl
  | setBlock block => exact Options.values_replace message.options _ other _

/-- What edits make of the values, one after the other. -/
theorem values_edited (message : Message) (edits : List Edit) :
    (message.edited edits).options.values =
      edits.foldl (fun map edit => edit.onMap map) message.options.values := by
  induction edits generalizing message with
  | nil => rfl
  | cons edit edits ih =>
      rw [edited, List.foldl_cons, List.foldl_cons, ← values_edit]
      exact ih (message.edit edit)

/-- **Options are a map from numbers to lists of values.**  A bare message has the empty
map, and a request its path on top of that.  From any message, a bare one, a request or
one that was read, and after any edits the options are in order and are the listing of
the map that the edits make: each changes the list of its own number and no other.  An
option is added at the place that halving finds, a block that is put in is the block that
is read, and nothing but the options changes. -/
theorem edited_options :
    (∀ kind code id, (bare kind code id).options.values = fun _ => []) ∧
    (∀ path, (get path).options.values = (Edit.setPath path).onMap fun _ => []) ∧
    ∀ (start : Message) (edits : List Edit),
      (start.edited edits).options.Represents
        (edits.foldl (fun map edit => edit.onMap map) start.options.values) ∧
      (∀ number value, ((start.edited edits).options.add number value).fields =
        let place := partitionPoint (·.number ≤ number) (start.edited edits).options.fields
        (start.edited edits).options.fields.take place ++
          ⟨number, value⟩ :: (start.edited edits).options.fields.drop place) ∧
      (∀ block, (start.edited (edits ++ [.setBlock block])).block = .ok (some block)) ∧
      start.edited edits = { start with options := (start.edited edits).options } := by
  refine ⟨fun _ _ _ => rfl, fun path => ?_, fun start edits => ⟨?_, fun number value => ?_,
    fun block => ?_, start.edited_eq edits⟩⟩
  · exact values_edit (bare .confirmable .get 0) (.setPath path)
  · exact values_edited start edits ▸ Options.represents_values _
  · exact Options.insertField_eq ⟨number, value⟩ (start.edited edits).options.ordered
  · rw [edited, List.foldl_append]
    exact block_withBlock _ block

end Message

end Blockwise
