import Blockwise.Proofs.Text.Pieces
import Blockwise.Store

/-!
# Canonical paths

* `Path.segments_ofSegments` — the segments of a path survive its canonical text.
* `Path.normalize_normalize` — the canonical text is its own canonical text.
* `Path.normalize_eq_normalize_iff` — two paths have one canonical text if they have the
  same segments, which are the parts of the path between its slashes.
* `Store.get_normalize` — so a look-up finds the same under either.
* `Store.find?_resources_set`, `Store.find?_resources_erase` — what is found after a change.
-/

namespace Blockwise

namespace Path

/-- No segment is empty, and none holds a slash. -/
theorem mem_segments {path segment : String} (h : segment ∈ segments path) :
    segment.toList ≠ [] ∧ ∀ char ∈ segment.toList, (char = '/' : Bool) = false := by
  rw [segments, Text.piecesOf, List.mem_map] at h
  obtain ⟨piece, hpiece, rfl⟩ := h
  rw [String.toList_ofList]
  exact Text.mem_pieces hpiece

theorem toList_ofSegments {segments : List String} (h : segments ≠ []) :
    (ofSegments segments).toList = (segments.map String.toList).flatMap ('/' :: ·) := by
  cases segments with
  | nil => exact absurd rfl h
  | cons first rest =>
      rw [ofSegments]
      · simp [List.flatMap_map]
      · simp

/-- The segments of a path survive its canonical text. -/
theorem segments_ofSegments (path : String) :
    segments (ofSegments (segments path)) = segments path := by
  by_cases hnone : segments path = []
  · rw [hnone]
    decide
  · rw [segments, Text.piecesOf, toList_ofSegments hnone, Text.pieces_flatMap (by simp),
      List.map_map]
    · simp [Function.comp_def]
    · intro piece hpiece
      obtain ⟨segment, hsegment, rfl⟩ := List.mem_map.1 hpiece
      exact mem_segments hsegment

/-- The canonical text is its own canonical text. -/
@[simp] theorem normalize_normalize (path : String) :
    normalize (normalize path) = normalize path := by
  rw [normalize, normalize, segments_ofSegments]

/-- Two paths have one canonical text if they have the same segments. -/
theorem normalize_eq_normalize_iff {path other : String} :
    normalize path = normalize other ↔ segments path = segments other := by
  constructor
  · intro h
    rw [← segments_ofSegments path, ← segments_ofSegments other]
    exact congrArg segments h
  · intro h
    rw [normalize, h, normalize]

/-- Segments are what is between the slashes of a path, as far as it is not empty. -/
theorem segments_eq_parts (path : String) : segments path = Text.parts (· = '/') path :=
  Text.piecesOf_eq_parts _ path

end Path

/-- A look-up goes by the canonical path. -/
@[simp] theorem Store.get_normalize (store : Store) (path : String) :
    store.get (Path.normalize path) = store.get path := by
  simp [get, find?]

@[simp] theorem Store.contains_normalize (store : Store) (path : String) :
    store.contains (Path.normalize path) = store.contains path := by
  simp [contains, find?]

/-- What was put at a path is found there. -/
@[simp] theorem Store.get_set (store : Store) (path : String) (payload : Bytes) :
    (store.set path payload).get path = .ok payload := by
  simp [get, find?, set]

/-- A removal is seen under the canonical path and nowhere else. -/
theorem Store.find?_resources_erase (store : Store) (path key : String) :
    (store.erase path).resources.find? (·.path = key) =
      if Path.normalize path = key then none else store.resources.find? (·.path = key) := by
  rw [erase, List.find?_filter]
  by_cases h : Path.normalize path = key
  · rw [if_pos h, List.find?_eq_none]
    simp [h]
  · rw [if_neg h]
    congr 1
    funext resource
    by_cases hfound : resource.path = key
    · simp [hfound, Ne.symm h]
    · simp [hfound]

/-- An insertion is seen under the canonical path and nowhere else. -/
theorem Store.find?_resources_set (store : Store) (path key : String) (payload : Bytes) :
    (store.set path payload).resources.find? (·.path = key) =
      if Path.normalize path = key then some ⟨Path.normalize path, payload⟩
      else store.resources.find? (·.path = key) := by
  rw [set]
  by_cases h : Path.normalize path = key
  · rw [if_pos h, List.find?_cons_of_pos (by simpa using h)]
  · rw [if_neg h, List.find?_cons_of_neg (by simpa using h), find?_resources_erase, if_neg h]

end Blockwise
