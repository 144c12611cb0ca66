import Blockwise.Bytes

/-!
# Pieces between separators

`pieces` cuts a list at its separators and keeps the non-empty parts.  With a
slash as the separator these are the segments of a path, with white space the
words of a line.
-/

namespace Blockwise.Text

/-- The piece that has been collected, last element first, as a list of at most
one piece: an empty piece counts for nothing. -/
def closePiece {α : Type} : List α → List (List α)
  | [] => []
  | piece => [piece.reverse]

/-- The pieces of a list when part of the first piece, `current`, has been
collected already, last element first. -/
def piecesFrom {α : Type} (separates : α → Bool) (current : List α) :
    List α → List (List α)
  | [] => closePiece current
  | a :: rest =>
    if separates a then closePiece current ++ piecesFrom separates [] rest
    else piecesFrom separates (a :: current) rest

/-- The non-empty parts of a list between its separators, in order. -/
def pieces {α : Type} (separates : α → Bool) (list : List α) : List (List α) :=
  piecesFrom separates [] list

/-- The pieces of a text, as texts. -/
def piecesOf (separates : Char → Bool) (text : String) : List String :=
  (pieces separates text.toList).map String.ofList

end Blockwise.Text
