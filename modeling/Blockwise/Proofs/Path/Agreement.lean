import Blockwise.Proofs.Message.Options
import Blockwise.Proofs.Message.Wire
import Blockwise.Proofs.Path.Canonical
import Blockwise.Proofs.Transfer.Handle

/-!
# Requests and the store agree on paths

A path is treated in three places: a request is built from it segment by segment, a
received request is read back into a text, and the store has its canonical text.  All
three come to the same.

* `Text.Utf8.length_encode` — the bytes of a segment are those of its text.
* `Message.encode_asking` — a request can be sent if its segments are not too long, and
  it arrives as it was.
* `Message.path_asking` — its path is the canonical text.
* `Transfer.handle_asking` — a transfer of that path answers it.
* `Message.paths_agree` — the main result, for any two paths.
-/

namespace Blockwise

/-- A text has as many bytes as its UTF-8 form. -/
theorem Text.Utf8.length_encode (text : String) : (encode text).length = text.utf8ByteSize := by
  rw [String.utf8ByteSize, ← String.utf8Encode_toList, List.utf8Encode, List.size_toByteArray,
    encode]

namespace Message

/-- The request to read a path, under an id and a token of the sender. -/
def asking (path : String) (id : UInt16) (token : Bytes) : Message :=
  { get path with id, token }

variable (path : String) (id : UInt16) (token : Bytes)

/-- Its path is the canonical text. -/
theorem path_asking : (asking path id token).path = Path.normalize path :=
  path_withPath (bare .confirmable .get 0) path

/-- It names no block. -/
theorem block_asking : (asking path id token).block = .ok none :=
  block_withPath (bare .confirmable .get 0) path

/-- Its options are the segments of the path. -/
theorem value_of_mem_asking {field : OptionField}
    (h : field ∈ (asking path id token).options.fields) :
    ∃ segment ∈ Path.segments path, field.value = Text.Utf8.encode segment := by
  have hvalue : field.value ∈ (asking path id token).options.values field.number :=
    List.mem_map_of_mem (List.mem_filter.2 ⟨h, by simp⟩)
  have hvalues := Options.values_replace Options.empty OptionField.uriPath field.number
    ((Path.segments path).map Text.Utf8.encode)
  rw [asking, get, withPath, bare, hvalues] at hvalue
  by_cases hnumber : field.number = OptionField.uriPath
  · rw [if_pos hnumber, List.mem_map] at hvalue
    obtain ⟨segment, hsegment, hencode⟩ := hvalue
    exact ⟨segment, hsegment, hencode.symm⟩
  · rw [if_neg hnumber] at hvalue
    exact absurd hvalue List.not_mem_nil

variable {path token}

/-- **A request arrives as it was** if neither its token nor a segment is too long. -/
theorem encode_asking (htoken : token.length ≤ maxTokenLength)
    (hsegments : ∀ segment ∈ Path.segments path, segment.utf8ByteSize ≤ maxExtended) :
    ∃ wire, (asking path id token).encode = .ok wire ∧
      decode wire = .ok (asking path id token) := by
  obtain ⟨wire, hwire⟩ := encode_isOk_iff.2 ⟨htoken, fun field hfield => by
    obtain ⟨segment, hsegment, hvalue⟩ := value_of_mem_asking path id token hfield
    rw [hvalue, Text.Utf8.length_encode]
    exact hsegments segment hsegment⟩
  exact ⟨wire, hwire, decode_of_encode hwire⟩

end Message

/-- A transfer can begin for the path of a request, and it answers the request. -/
theorem Transfer.handle_asking (path : String) (id : UInt16) (token payload : Bytes)
    (size : BlockSize) :
    ∃ transfer response after,
      ofBlockSize (Message.asking path id token).path payload size.bytes = .ok transfer ∧
      transfer.handle (Message.asking path id token) = .ok (response, after) := by
  have hopen : (begin (Message.asking path id token).path payload size).phase ≠ .complete := by
    simp [begin, Phase.initial]
  obtain ⟨response, hresponse⟩ :=
    exists_handle_of_admits hopen rfl rfl (Message.block_asking path id token) rfl
  exact ⟨_, response, _, ofBlockSize_bytes _ payload size, hresponse⟩

/-- What was put at one path is found under another if they have the same segments. -/
theorem Store.find?_register_empty (authority : SocketAddress) (scheme path other : String)
    (payload : Bytes) :
    ((empty authority scheme).register path payload).2.find? other =
      if Path.segments path = Path.segments other then some ⟨Path.normalize path, payload⟩
      else none := by
  rw [register, find?, find?_resources_set]
  simp only [Path.normalize_eq_normalize_iff]
  rfl

/-- **Requests and the store agree on paths.**  A request for a path names its canonical
text, which is its own canonical text, and two paths have the same one just if the parts
between their slashes are the same, apart from empty ones.  A request for a path without
overlong segments can be sent, whatever its id and its token.  Where it arrives it names
the same path; a store in which a resource was put at some path has it for the request
just if both paths have the same parts, and a transfer of the request's path answers the
request. -/
theorem Message.paths_agree (path other : String) :
    (get path).path = Path.normalize path ∧
    Path.normalize (Path.normalize path) = Path.normalize path ∧
    (Path.normalize path = Path.normalize other ↔
      Text.parts (· = '/') path = Text.parts (· = '/') other) ∧
    ∀ (id : UInt16) (token : Bytes), token.length ≤ 8 →
      (∀ part ∈ Text.parts (· = '/') other, part.utf8ByteSize ≤ 65804) →
      ∃ wire received, { get other with id, token }.encode = .ok wire ∧
        decode wire = .ok received ∧
        received.path = Path.normalize other ∧
        (∀ authority scheme payload,
          let store := ((Store.empty authority scheme).register path payload).2
          (store.contains received.path = true ↔
            Text.parts (· = '/') path = Text.parts (· = '/') other) ∧
          store.get received.path =
            if Text.parts (· = '/') path = Text.parts (· = '/') other then .ok payload
            else .error (.notFound (Path.normalize other))) ∧
        ∀ payload (size : BlockSize), ∃ transfer response after,
          Transfer.ofBlockSize received.path payload size.bytes = .ok transfer ∧
          transfer.handle received = .ok (response, after) := by
  simp only [← Path.segments_eq_parts]
  refine ⟨path_asking path 0 [], Path.normalize_normalize path, Path.normalize_eq_normalize_iff,
    fun id token htoken hsegments => ?_⟩
  obtain ⟨wire, hwire, hreceived⟩ := encode_asking id htoken hsegments
  refine ⟨wire, asking other id token, hwire, hreceived, path_asking other id token, ?_,
    Transfer.handle_asking other id token⟩
  intro authority scheme payload
  have hfind := Store.find?_register_empty authority scheme path other payload
  simp only [path_asking, Store.get_normalize, Store.contains_normalize]
  rw [Store.contains, Store.get, hfind]
  by_cases h : Path.segments path = Path.segments other
  · simp [h]
  · simp [h]

/-- Slashes at the end and doubled ones make no difference. -/
theorem Message.paths_agree_slashes :
    ∃ wire received, (asking "/a/b/" 7 [1]).encode = .ok wire ∧ decode wire = .ok received ∧
      ((Store.empty (.v4 127 0 0 1 5683) "coap").register "a//b" [5]).2.get received.path =
        .ok [5] := by
  obtain ⟨-, -, -, hagree⟩ := paths_agree "a//b" "/a/b/"
  obtain ⟨wire, received, hwire, hreceived, -, hstore, -⟩ := hagree 7 [1] (by decide) (by decide)
  refine ⟨wire, received, hwire, hreceived, ?_⟩
  have hsame : Text.parts (· = '/') "a//b" = Text.parts (· = '/') "/a/b/" := by decide
  rw [(hstore _ "coap" [5]).2, if_pos hsame]

end Blockwise
