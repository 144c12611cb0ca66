import Blockwise.Text.Pieces

/-!
# Paths

A path is its list of non-empty segments between slashes.  Its canonical text
has one slash before each segment, and a single slash stands for the root.
-/

namespace Blockwise.Path

/-- The non-empty segments of a path. -/
def segments (path : String) : List String := Text.piecesOf (· = '/') path

/-- The text of a path with the given segments: a slash before each, and a
single slash where there is none. -/
def ofSegments : List String → String
  | [] => "/"
  | segments => String.join (segments.map ("/" ++ ·))

/-- The canonical text of a path: exactly one slash in front, none at the end,
none doubled. -/
def normalize (path : String) : String := ofSegments (segments path)

end Blockwise.Path
