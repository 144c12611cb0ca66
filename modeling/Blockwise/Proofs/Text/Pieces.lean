import Blockwise.Text.Pieces

/-!
# Pieces: what they are and how they come back

* `mem_pieces` — no piece is empty, and none holds a separator.
* `pieces_eq_filter_splitOnP` — they are what splitting leaves when its empty parts are
  dropped.
* `pieces_flatMap` — pieces written down with a separator in front of each are
  found again, so `pieces` is inverse to writing them down.
* `pieces_append_cons` — a separator cuts a list in two.
* `piecesOf_eq_parts` — the pieces of a text are its `parts`.
-/

namespace Blockwise.Text

variable {α : Type} {separates : α → Bool}

theorem closePiece_reverse {piece : List α} (h : piece ≠ []) :
    closePiece piece.reverse = [piece] := by
  cases hreverse : piece.reverse with
  | nil => exact absurd (List.reverse_eq_nil_iff.1 hreverse) h
  | cons last rest => rw [closePiece, ← hreverse, List.reverse_reverse]; simp

/-- What was collected without a separator becomes a piece of its own. -/
theorem mem_closePiece {current piece : List α} (hmem : piece ∈ closePiece current)
    (h : ∀ a ∈ current, separates a = false) :
    piece ≠ [] ∧ ∀ a ∈ piece, separates a = false := by
  cases current with
  | nil => cases hmem
  | cons last rest =>
      rw [closePiece, List.mem_singleton] at hmem
      · subst hmem
        exact ⟨by simp, fun a ha => h a (List.mem_reverse.1 ha)⟩
      · simp

theorem mem_piecesFrom {current list piece : List α}
    (hmem : piece ∈ piecesFrom separates current list)
    (h : ∀ a ∈ current, separates a = false) :
    piece ≠ [] ∧ ∀ a ∈ piece, separates a = false := by
  induction list generalizing current with
  | nil => exact mem_closePiece hmem h
  | cons first rest ih =>
      rw [piecesFrom] at hmem
      by_cases hfirst : separates first = true
      · rw [if_pos hfirst] at hmem
        rcases List.mem_append.1 hmem with hclosed | hrest
        · exact mem_closePiece hclosed h
        · exact ih hrest (by simp)
      · rw [if_neg hfirst] at hmem
        refine ih hmem fun a ha => ?_
        rcases List.mem_cons.1 ha with rfl | ha
        · exact Bool.not_eq_true _ ▸ hfirst
        · exact h a ha

/-- No piece is empty, and none holds a separator. -/
theorem mem_pieces {list piece : List α} (h : piece ∈ pieces separates list) :
    piece ≠ [] ∧ ∀ a ∈ piece, separates a = false :=
  mem_piecesFrom h (by simp)

theorem closePiece_eq_filter (current : List α) :
    closePiece current = [current.reverse].filter (!·.isEmpty) := by
  cases current with
  | nil => rfl
  | cons last rest =>
      rw [List.filter_cons_of_pos (by simp)]
      rfl

theorem modifyHead_nil_append (parts : List (List α)) :
    parts.modifyHead (([] : List α).reverse ++ ·) = parts := by
  cases parts with
  | nil => rfl
  | cons first rest => rfl

/-- The piece under way goes on with the first part. -/
theorem piecesFrom_eq (current list : List α) :
    piecesFrom separates current list =
      ((list.splitOnP separates).modifyHead (current.reverse ++ ·)).filter (!·.isEmpty) := by
  induction list generalizing current with
  | nil => rw [piecesFrom, closePiece_eq_filter, List.splitOnP_nil, List.modifyHead_cons,
      List.append_nil]
  | cons first rest ih =>
      rw [piecesFrom, List.splitOnP_cons_eq_if_modifyHead]
      by_cases hfirst : separates first = true
      · rw [if_pos hfirst, if_pos hfirst, ih, closePiece_eq_filter, modifyHead_nil_append,
          ← List.filter_append, List.modifyHead_cons, List.append_nil, List.singleton_append]
      · rw [if_neg hfirst, if_neg hfirst, ih, List.modifyHead_modifyHead]
        simp only [List.reverse_cons, List.append_assoc, List.singleton_append,
          Function.comp_def]

/-- **Pieces are the parts between separators that are not empty.** -/
theorem pieces_eq_filter_splitOnP (list : List α) :
    pieces separates list = (list.splitOnP separates).filter (!·.isEmpty) := by
  rw [pieces, piecesFrom_eq, modifyHead_nil_append]

/-- A separator cuts a list in two. -/
theorem pieces_append_cons {separator : α} (hseparator : separates separator = true)
    (front behind : List α) :
    pieces separates (front ++ separator :: behind) =
      pieces separates front ++ pieces separates behind := by
  simp only [pieces_eq_filter_splitOnP, List.splitOnP_append_cons _ _ hseparator,
    List.filter_append]

/-- What holds no separator is a piece as a whole. -/
theorem pieces_eq_singleton {piece : List α} (hne : piece ≠ [])
    (h : ∀ a ∈ piece, separates a = false) : pieces separates piece = [piece] := by
  rw [pieces_eq_filter_splitOnP, List.splitOnP_eq_singleton h]
  simp [hne]

theorem piecesFrom_append {piece : List α} (h : ∀ a ∈ piece, separates a = false)
    (current rest : List α) :
    piecesFrom separates current (piece ++ rest) =
      piecesFrom separates (piece.reverse ++ current) rest := by
  induction piece generalizing current with
  | nil => rfl
  | cons first piece ih =>
      obtain ⟨hfirst, hpiece⟩ := List.forall_mem_cons.1 h
      rw [List.cons_append, piecesFrom, if_neg (by rw [hfirst]; exact Bool.false_ne_true),
        ih hpiece, List.reverse_cons, List.append_assoc, List.singleton_append]

/-- Pieces with a separator in front of each follow the piece under way. -/
theorem piecesFrom_flatMap {separator : α} (hseparator : separates separator = true)
    {list : List (List α)} (h : ∀ piece ∈ list, piece ≠ [] ∧ ∀ a ∈ piece, separates a = false)
    (current : List α) :
    piecesFrom separates current (list.flatMap (separator :: ·)) = closePiece current ++ list := by
  induction list generalizing current with
  | nil => simp [piecesFrom]
  | cons piece list ih =>
      obtain ⟨⟨hne, hpiece⟩, hlist⟩ := List.forall_mem_cons.1 h
      rw [List.flatMap_cons, List.cons_append, piecesFrom, if_pos hseparator,
        piecesFrom_append hpiece, ih hlist, List.append_nil, closePiece_reverse hne,
        List.singleton_append]

/-- Pieces written down with a separator in front of each are found again. -/
theorem pieces_flatMap {separator : α} (hseparator : separates separator = true)
    {list : List (List α)}
    (h : ∀ piece ∈ list, piece ≠ [] ∧ ∀ a ∈ piece, separates a = false) :
    pieces separates (list.flatMap (separator :: ·)) = list :=
  piecesFrom_flatMap hseparator h []

/-! ## The parts of a text -/

/-- What is between the separators of a text, as far as it is not empty. -/
def parts (separates : Char → Bool) (text : String) : List String :=
  ((text.toList.splitOnP separates).filter (!·.isEmpty)).map String.ofList

/-- The pieces of a text are its parts. -/
theorem piecesOf_eq_parts (separates : Char → Bool) (text : String) :
    piecesOf separates text = parts separates text := by
  rw [piecesOf, pieces_eq_filter_splitOnP, parts]

end Blockwise.Text
