import Blockwise.Message

/-!
# The wire form of messages

A datagram holds four header bytes (version, type and token length; code; id),
the token, the options, and, after a marker byte, the payload if there is one.
Each option begins with a byte of two nibbles: the difference of its number to
the one before it, and the length of its value.  A nibble of 13 or 14 announces
one or two further bytes, and 15 is reserved, so that the marker byte `0xFF`
cannot be taken for an option.

* `Message.encode` writes a message, `Message.decode` reads a datagram.
* `ordered_of_readFields` is why what has been read is a list of `Options`.
-/

namespace Blockwise

/-- What can be wrong with a datagram or with a message to be sent. -/
inductive MessageError where
  /-- The datagram ends in its header or token. -/
  | headerCutShort
  /-- The header has a version other than 1. -/
  | unsupportedVersion (version : Nat)
  /-- The header gives a token of more than eight bytes. -/
  | tokenLengthReserved (length : Nat)
  /-- The message has a token of more than eight bytes. -/
  | tokenTooLong (length : Nat)
  /-- The datagram ends in an option. -/
  | optionCutShort
  /-- A nibble of an option is 15. -/
  | nibbleReserved
  /-- The option numbers add up to more than 65535. -/
  | optionNumberTooLarge
  /-- The message has an option value that is too long to be written. -/
  | optionTooLong (length : Nat)
  /-- The datagram ends at the payload marker. -/
  | payloadMissing
  deriving DecidableEq, Repr

/-- The text of a message error. -/
def MessageError.message : MessageError → String
  | .headerCutShort => "buffer too short to contain a header and token"
  | .unsupportedVersion version => s!"unsupported protocol version {version}"
  | .tokenLengthReserved length => s!"token length {length} exceeds 8"
  | .tokenTooLong length => s!"token of {length} bytes cannot be encoded"
  | .optionCutShort => "option runs past the end of the datagram"
  | .nibbleReserved => "reserved option nibble 15"
  | .optionNumberTooLarge => "option number exceeds 65535"
  | .optionTooLong length => s!"option value of {length} bytes cannot be encoded"
  | .payloadMissing => "payload marker followed by an empty payload"

namespace Message

/-- The version in every header. -/
def version : Nat := 1

/-- The length of the header, without the token. -/
def headerLength : Nat := 4

/-- The length of the longest token. -/
def maxTokenLength : Nat := 8

/-- The byte between the options and the payload. -/
def payloadMarker : UInt8 := 0xFF

/-- The largest difference or length that a nibble with two further bytes can
express. -/
def maxExtended : Nat := 269 + 65535

/-! ## Nibbles with further bytes -/

/-- A difference or length as a nibble and its further bytes. -/
def writeNibble (value : Nat) : Except MessageError (Nat × Bytes) :=
  if value < 13 then .ok (value, [])
  else if value < 269 then .ok (13, [UInt8.ofNat (value - 13)])
  else if value ≤ maxExtended then .ok (14, Bytes.ofUInt16 (UInt16.ofNat (value - 269)))
  else .error (.optionTooLong value)

/-- The difference or length that a nibble stands for, with the bytes behind
those that it takes. -/
def readNibble (nibble : Nat) (bytes : Bytes) : Except MessageError (Nat × Bytes) :=
  match nibble, bytes with
  | 13, byte :: rest => .ok (13 + byte.toNat, rest)
  | 13, [] => .error .optionCutShort
  | 14, high :: low :: rest => .ok (269 + (Bytes.toUInt16 high low).toNat, rest)
  | 14, _ => .error .optionCutShort
  | 15, _ => .error .nibbleReserved
  | nibble, bytes => .ok (nibble, bytes)

/-- Reading a nibble leaves no more bytes than there were. -/
theorem length_of_readNibble {nibble value : Nat} {bytes rest : Bytes}
    (h : readNibble nibble bytes = .ok (value, rest)) : rest.length ≤ bytes.length := by
  unfold readNibble at h
  split at h <;> cases h
  · exact Nat.le_succ _
  · exact Nat.le_add_right _ 2
  · exact Nat.le_refl _

/-! ## Options and payload -/

/-- The options behind the one with the number `previous`. -/
def writeFields (previous : Nat) : List OptionField → Except MessageError Bytes
  | [] => .ok []
  | field :: rest => do
    let (delta, deltaBytes) ← writeNibble (field.number.toNat - previous)
    let (length, lengthBytes) ← writeNibble field.value.length
    let behind ← writeFields field.number.toNat rest
    return UInt8.ofNat (delta * 16 + length) ::
      (deltaBytes ++ lengthBytes ++ field.value ++ behind)

/-- The marker and the payload; nothing for an empty payload. -/
def writePayload : Bytes → Bytes
  | [] => []
  | payload => payloadMarker :: payload

/-- The options behind the one with the number `previous`, and the payload. -/
def readFields (previous : Nat) (bytes : Bytes) :
    Except MessageError (List OptionField × Bytes) :=
  match bytes with
  | [] => .ok ([], [])
  | head :: rest =>
    if head = payloadMarker then
      if rest.isEmpty then .error .payloadMissing else .ok ([], rest)
    else
      match _hdelta : readNibble (head.toNat / 16) rest with
      | .error error => .error error
      | .ok (delta, behindDelta) =>
        match _hlength : readNibble (head.toNat % 16) behindDelta with
        | .error error => .error error
        | .ok (length, behindLength) =>
          if 65535 < previous + delta then .error .optionNumberTooLarge
          else if (behindLength.take length).length < length then .error .optionCutShort
          else
            match readFields (previous + delta) (behindLength.drop length) with
            | .error error => .error error
            | .ok (fields, payload) =>
              .ok (⟨UInt16.ofNat (previous + delta), behindLength.take length⟩ :: fields, payload)
termination_by bytes.length
decreasing_by
  have := length_of_readNibble _hdelta
  have := length_of_readNibble _hlength
  simp only [List.length_drop, List.length_cons]
  omega

/-- The numbers that are read do not fall below the one before them. -/
theorem ordered_of_readFields {previous : Nat} {bytes : Bytes} {fields : List OptionField}
    {payload : Bytes} (h : readFields previous bytes = .ok (fields, payload)) :
    OptionField.Ordered fields ∧ ∀ field ∈ fields, previous ≤ field.number.toNat := by
  fun_induction readFields previous bytes generalizing fields payload with
  | case1 => cases h; simp [OptionField.Ordered]
  | case2 => cases h
  | case3 => cases h; simp [OptionField.Ordered]
  | case4 => cases h
  | case5 => cases h
  | case6 => cases h
  | case7 => cases h
  | case8 => cases h
  | case9 previous _ _ _ delta _ _ _ _ _ hnumber _ behind _ hbehind ih =>
    cases h
    obtain ⟨hordered, hlower⟩ := ih hbehind
    have hword : (UInt16.ofNat (previous + delta)).toNat = previous + delta := by
      rw [UInt16.toNat_ofNat']
      omega
    constructor
    · refine List.pairwise_cons.2 ⟨fun field hfield => ?_, hordered⟩
      rw [hword]
      exact hlower field hfield
    · intro field hfield
      rcases List.mem_cons.1 hfield with rfl | hmem
      · rw [hword]
        omega
      · have := hlower field hmem
        omega

/-! ## Datagrams -/

/-- The datagram of a message. -/
def encode (message : Message) : Except MessageError Bytes :=
  if maxTokenLength < message.token.length then .error (.tokenTooLong message.token.length)
  else do
    let fields ← writeFields 0 message.options.fields
    let first := version * 64 + message.kind.bits * 16 + message.token.length
    return UInt8.ofNat first :: message.code.byte ::
      (Bytes.ofUInt16 message.id ++ message.token ++ fields ++ writePayload message.payload)

/-- The message in a datagram. -/
def decode (bytes : Bytes) : Except MessageError Message :=
  match bytes with
  | first :: code :: high :: low :: rest =>
    let tokenLength := first.toNat % 16
    if first.toNat / 64 ≠ version then .error (.unsupportedVersion (first.toNat / 64))
    else if maxTokenLength < tokenLength then .error (.tokenLengthReserved tokenLength)
    else if rest.length < tokenLength then .error .headerCutShort
    else
      match hfields : readFields 0 (rest.drop tokenLength) with
      | .error error => .error error
      | .ok (fields, payload) =>
        .ok {
          kind := MessageKind.ofBits (first.toNat / 16)
          code := ⟨code⟩
          id := Bytes.toUInt16 high low
          token := rest.take tokenLength
          options := ⟨fields, (ordered_of_readFields hfields).1⟩
          payload }
  | _ => .error .headerCutShort

end Message
end Blockwise
