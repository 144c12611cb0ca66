import Blockwise.Text.Pieces

/-!
# White space and words

A line of the command protocol is read word by word.  White space is every
character with the Unicode property White_Space, 25 in number.
-/

namespace Blockwise.Text

/-- The ranges of the characters with the Unicode property White_Space. -/
def blankRanges : List (Nat × Nat) :=
  [(0x9, 0xD), (0x20, 0x20), (0x85, 0x85), (0xA0, 0xA0), (0x1680, 0x1680),
    (0x2000, 0x200A), (0x2028, 0x2029), (0x202F, 0x202F), (0x205F, 0x205F),
    (0x3000, 0x3000)]

/-- White space, in Unicode's sense. -/
def isBlank (c : Char) : Bool :=
  blankRanges.any fun range => range.1 ≤ c.toNat && c.toNat ≤ range.2

/-- The words of a line: its non-empty parts between white space. -/
def words (line : String) : List String := piecesOf isBlank line

end Blockwise.Text
