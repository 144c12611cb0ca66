import Blockwise.Proofs.Text.Pieces
import Blockwise.Text.Blank

/-!
# Words of a line

* `isWord_of_mem_words` — what is read as a word is not empty and holds no white space.
* `words_of_isWord` — such a text is read as one word.
* `words_append_blank` — a space ends a word, so that `words_intercalate` reads texts with
  spaces between them one by one.
* `words_eq_parts` — the words of a line are its parts between white space.
-/

namespace Blockwise.Text

/-- A single word: not empty and without white space. -/
def IsWord (text : String) : Prop := text ≠ "" ∧ ∀ char ∈ text.toList, isBlank char = false

-- The letters of the text are tried, not all characters that there are.
instance (text : String) : Decidable (IsWord text) :=
  @instDecidableAnd _ _ inferInstance (List.decidableBAll _ text.toList)

/-- The words of a line are its parts between white space. -/
theorem words_eq_parts (line : String) : words line = parts isBlank line :=
  piecesOf_eq_parts isBlank line

theorem isWord_of_mem_words {line word : String} (h : word ∈ words line) : IsWord word := by
  rw [words, piecesOf, List.mem_map] at h
  obtain ⟨piece, hpiece, rfl⟩ := h
  obtain ⟨hne, hblank⟩ := mem_pieces hpiece
  refine ⟨fun hempty => hne ?_, by rwa [String.toList_ofList]⟩
  simpa using congrArg String.toList hempty

/-- A single word is read as itself. -/
theorem words_of_isWord {text : String} (h : IsWord text) : words text = [text] := by
  have hne : text.toList ≠ [] := by
    intro hnil
    exact h.1 (String.toList_inj.1 hnil)
  rw [words, piecesOf, pieces_eq_singleton hne h.2, List.map_singleton, String.ofList_toList]

/-- A space ends a word. -/
theorem words_append_blank (front behind : String) :
    words (front ++ " " ++ behind) = words front ++ words behind := by
  have hblank : isBlank ' ' = true := by decide
  have hlist : (front ++ " " ++ behind).toList = front.toList ++ ' ' :: behind.toList := by simp
  rw [words, piecesOf, hlist, pieces_append_cons hblank, List.map_append]
  rfl

/-- Texts with spaces between them are read one by one. -/
theorem words_intercalate (texts : List String) :
    words (" ".intercalate texts) = texts.flatMap words := by
  induction texts with
  | nil => decide
  | cons first rest ih =>
      cases rest with
      | nil => simp
      | cons second rest =>
          rw [String.intercalate_cons_cons, words_append_blank, ih]
          exact List.flatMap_cons.symm

/-- Single words are read as they are. -/
theorem words_intercalate_of_isWord {texts : List String} (h : ∀ text ∈ texts, IsWord text) :
    words (" ".intercalate texts) = texts := by
  rw [words_intercalate]
  induction texts with
  | nil => rfl
  | cons first rest ih =>
      obtain ⟨hfirst, hrest⟩ := List.forall_mem_cons.1 h
      rw [List.flatMap_cons, words_of_isWord hfirst, ih hrest, List.singleton_append]

end Blockwise.Text
