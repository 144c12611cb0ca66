import Blockwise.Message.Wire

/-!
# The wire form: round trip and canonicity

Writing and reading are inverse to each other.

* `readNibble_append` / `writeNibble_of_readNibble` — a nibble and its further
  bytes stand for one number, and each number has one such form.
* `readFields_written` — what was written as options reads back, whatever follows it.
* `readFields_append` / `writeFields_of_readFields` — options with the payload behind
  them stand for one list of bytes, and each list has one such form.
* `decode_encode` / `encode_of_decode` — and for a whole message, so that a
  message has at most one datagram and a datagram at most one message.
* `encode_isOk_iff` — the messages that have a datagram at all.
* `length_writeFields` — how many bytes options take, and `length_encode_le` — how long
  a datagram can get.
-/

namespace Blockwise

/-! ## Words and types of a header -/

/-- The bits of the type that a number stands for are its two lowest. -/
theorem MessageKind.bits_ofBits (number : Nat) : (ofBits number).bits = number % 4 := by
  obtain h | h | h | h :
      number % 4 = 0 ∨ number % 4 = 1 ∨ number % 4 = 2 ∨ number % 4 = 3 := by omega
  all_goals rw [ofBits, h]; rfl

namespace Bytes

theorem toUInt16_ofNat (word : UInt16) :
    toUInt16 (UInt8.ofNat (word.toNat / 256)) (UInt8.ofNat (word.toNat % 256)) = word := by
  have hlt := word.toNat_lt
  apply UInt16.toNat_inj.1
  simp only [toUInt16, UInt16.toNat_ofNat', UInt8.toNat_ofNat']
  omega

theorem toNat_toUInt16 (high low : UInt8) :
    (toUInt16 high low).toNat = high.toNat * 256 + low.toNat := by
  have hhigh := high.toNat_lt
  have hlow := low.toNat_lt
  simp only [toUInt16, UInt16.toNat_ofNat']
  omega

@[simp] theorem ofUInt16_toUInt16 (high low : UInt8) :
    ofUInt16 (toUInt16 high low) = [high, low] := by
  have hlow := low.toNat_lt
  rw [ofUInt16, toNat_toUInt16, show (high.toNat * 256 + low.toNat) / 256 = high.toNat by omega,
    show (high.toNat * 256 + low.toNat) % 256 = low.toNat by omega, UInt8.ofNat_toNat,
    UInt8.ofNat_toNat]

end Bytes

namespace Message

/-! ## Nibbles with further bytes -/

/-- Exactly the numbers up to `maxExtended` can be written. -/
theorem writeNibble_isOk_iff {value : Nat} :
    (∃ written, writeNibble value = .ok written) ↔ value ≤ maxExtended := by
  unfold writeNibble maxExtended
  by_cases h13 : value < 13
  · simp only [if_pos h13]
    exact ⟨fun _ => by omega, fun _ => ⟨_, rfl⟩⟩
  · by_cases h269 : value < 269
    · simp only [if_neg h13, if_pos h269]
      exact ⟨fun _ => by omega, fun _ => ⟨_, rfl⟩⟩
    · by_cases hmax : value ≤ 269 + 65535
      · simp only [if_neg h13, if_neg h269, if_pos hmax]
        exact ⟨fun _ => hmax, fun _ => ⟨_, rfl⟩⟩
      · simp only [if_neg h13, if_neg h269, if_neg hmax]
        exact ⟨fun ⟨_, h⟩ => (nomatch h), fun h => absurd h hmax⟩

/-- The reserved nibble 15 is never written. -/
theorem nibble_le_of_writeNibble {value nibble : Nat} {further : Bytes}
    (h : writeNibble value = .ok (nibble, further)) : nibble ≤ 14 := by
  unfold writeNibble at h
  split at h
  · cases h
    omega
  · split at h
    · cases h
      omega
    · split at h
      · cases h
        omega
      · cases h

theorem readNibble_of_lt {nibble : Nat} (h : nibble < 13) (bytes : Bytes) :
    readNibble nibble bytes = .ok (nibble, bytes) := by
  unfold readNibble
  split <;> first | omega | rfl

/-- A nibble that was written reads back, whatever follows its further bytes. -/
theorem readNibble_append {value nibble : Nat} {further : Bytes}
    (h : writeNibble value = .ok (nibble, further)) (rest : Bytes) :
    readNibble nibble (further ++ rest) = .ok (value, rest) := by
  unfold writeNibble at h
  split at h
  case isTrue h13 =>
    cases h
    exact readNibble_of_lt h13 rest
  case isFalse h13 =>
    split at h
    case isTrue h269 =>
      cases h
      have hbyte : (UInt8.ofNat (value - 13)).toNat = value - 13 := by
        rw [UInt8.toNat_ofNat']
        omega
      rw [List.singleton_append, readNibble, hbyte, show 13 + (value - 13) = value by omega]
    case isFalse h269 =>
      split at h
      case isTrue hmax =>
        cases h
        have hword : (UInt16.ofNat (value - 269)).toNat = value - 269 := by
          rw [UInt16.toNat_ofNat']
          simp only [maxExtended] at hmax
          omega
        rw [Bytes.ofUInt16, List.cons_append, List.singleton_append, readNibble,
          Bytes.toUInt16_ofNat, hword, show 269 + (value - 269) = value by omega]
      case isFalse => cases h

/-- What a nibble is read as is written as that nibble and the bytes taken. -/
theorem writeNibble_of_readNibble {nibble value : Nat} {bytes rest : Bytes}
    (hnibble : nibble < 16) (h : readNibble nibble bytes = .ok (value, rest)) :
    ∃ further, writeNibble value = .ok (nibble, further) ∧ bytes = further ++ rest := by
  obtain h13 | rfl | rfl | rfl : nibble < 13 ∨ nibble = 13 ∨ nibble = 14 ∨ nibble = 15 := by
    omega
  · rw [readNibble_of_lt h13] at h
    cases h
    exact ⟨[], by rw [writeNibble, if_pos h13], rfl⟩
  · match bytes, h with
    | byte :: behind, h =>
      cases h
      have hbyte := byte.toNat_lt
      refine ⟨[byte], ?_, rfl⟩
      rw [writeNibble, if_neg (by omega), if_pos (by omega),
        show 13 + byte.toNat - 13 = byte.toNat by omega, UInt8.ofNat_toNat]
  · match bytes, h with
    | high :: low :: behind, h =>
      cases h
      have hword := (Bytes.toUInt16 high low).toNat_lt
      refine ⟨[high, low], ?_, rfl⟩
      rw [writeNibble, if_neg (by omega), if_neg (by omega),
        if_pos (by simp only [maxExtended]; omega),
        show 269 + (Bytes.toUInt16 high low).toNat - 269 = (Bytes.toUInt16 high low).toNat by omega,
        UInt16.ofNat_toNat, Bytes.ofUInt16_toUInt16]
  · cases h

/-! ## Options and payload -/

/-- A computation in steps succeeds if each step does. -/
theorem bind_eq_ok_iff {ε α β : Type} {first : Except ε α} {next : α → Except ε β} {result : β} :
    first >>= next = .ok result ↔ ∃ value, first = .ok value ∧ next value = .ok result := by
  cases first with
  | error error => exact ⟨fun h => (nomatch h), fun ⟨_, h, _⟩ => (nomatch h)⟩
  | ok value =>
      refine ⟨fun h => ⟨value, rfl, h⟩, ?_⟩
      rintro ⟨_, hvalue, h⟩
      cases hvalue
      exact h

/-- An option is written if its two numbers and the options behind it are. -/
theorem writeFields_cons_eq_ok_iff {previous : Nat} {field : OptionField}
    {fields : List OptionField} {bytes : Bytes} :
    writeFields previous (field :: fields) = .ok bytes ↔
      ∃ delta deltaBytes length lengthBytes behind,
        writeNibble (field.number.toNat - previous) = .ok (delta, deltaBytes) ∧
        writeNibble field.value.length = .ok (length, lengthBytes) ∧
        writeFields field.number.toNat fields = .ok behind ∧
        bytes = UInt8.ofNat (delta * 16 + length) ::
          (deltaBytes ++ lengthBytes ++ field.value ++ behind) := by
  constructor
  · intro h
    rw [writeFields, bind_eq_ok_iff] at h
    obtain ⟨⟨delta, deltaBytes⟩, hdelta, h⟩ := h
    obtain ⟨⟨length, lengthBytes⟩, hlength, h⟩ := bind_eq_ok_iff.1 h
    obtain ⟨behind, hbehind, h⟩ := bind_eq_ok_iff.1 h
    cases h
    exact ⟨delta, deltaBytes, length, lengthBytes, behind, hdelta, hlength, hbehind, rfl⟩
  · rintro ⟨delta, deltaBytes, length, lengthBytes, behind, hdelta, hlength, hbehind, rfl⟩
    rw [writeFields, hdelta, hlength, hbehind]
    rfl

/-- The first byte of an option holds its two nibbles and is not the marker. -/
theorem nibbles_of_head {delta length : Nat} (hdelta : delta ≤ 14) (hlength : length ≤ 14) :
    (UInt8.ofNat (delta * 16 + length)).toNat / 16 = delta ∧
      (UInt8.ofNat (delta * 16 + length)).toNat % 16 = length ∧
      UInt8.ofNat (delta * 16 + length) ≠ payloadMarker := by
  have hbyte : (UInt8.ofNat (delta * 16 + length)).toNat = delta * 16 + length := by
    rw [UInt8.toNat_ofNat']
    omega
  refine ⟨by omega, by omega, fun hmarker => ?_⟩
  have h255 : (UInt8.ofNat (delta * 16 + length)).toNat = 255 := by
    rw [hmarker]
    rfl
  omega

/-- Behind a first byte that is not the marker an option is read, and what follows it
with the option's number. -/
theorem readFields_cons {previous : Nat} {head : UInt8} (hmarker : head ≠ payloadMarker)
    (rest : Bytes) :
    readFields previous (head :: rest) = do
      let (delta, behindDelta) ← readNibble (head.toNat / 16) rest
      let (length, behindLength) ← readNibble (head.toNat % 16) behindDelta
      if 65535 < previous + delta then .error .optionNumberTooLarge
      else if (behindLength.take length).length < length then .error .optionCutShort
      else
        let (fields, payload) ← readFields (previous + delta) (behindLength.drop length)
        let field := ⟨UInt16.ofNat (previous + delta), behindLength.take length⟩
        return (field :: fields, payload) := by
  rw [readFields, if_neg hmarker]
  split
  · rename_i herror
    rw [herror]
    rfl
  · rename_i hdelta
    rw [hdelta]
    split
    · rename_i herror
      simp only [bind, Except.bind, herror]
    · rename_i hlength
      simp only [bind, Except.bind, hlength]
      split
      · rfl
      · split
        · rfl
        · split
          · rename_i herror
            rw [herror]
          · rename_i hbehind
            rw [hbehind]
            rfl

/-- What is read, with further options in front. -/
def inFront (fields : List OptionField) (read : List OptionField × Bytes) :
    List OptionField × Bytes := (fields ++ read.1, read.2)

/-- An option that was written reads back, whatever follows it. -/
theorem readFields_field {previous delta length : Nat} {deltaBytes lengthBytes : Bytes}
    {field : OptionField} (hprevious : previous ≤ field.number.toNat)
    (hdelta : writeNibble (field.number.toNat - previous) = .ok (delta, deltaBytes))
    (hlength : writeNibble field.value.length = .ok (length, lengthBytes)) (rest : Bytes) :
    readFields previous (UInt8.ofNat (delta * 16 + length) ::
        (deltaBytes ++ lengthBytes ++ field.value ++ rest)) =
      (readFields field.number.toNat rest).map (inFront [field]) := by
  obtain ⟨hdiv, hmod, hmarker⟩ :=
    nibbles_of_head (nibble_le_of_writeNibble hdelta) (nibble_le_of_writeNibble hlength)
  have hnumber : previous + (field.number.toNat - previous) = field.number.toNat := by omega
  have hlt := field.number.toNat_lt
  have hreadDelta := readNibble_append hdelta (lengthBytes ++ (field.value ++ rest))
  have hreadLength := readNibble_append hlength (field.value ++ rest)
  rw [readFields_cons hmarker, hdiv, hmod, List.append_assoc, List.append_assoc, hreadDelta]
  simp only [bind, Except.bind]
  rw [hreadLength]
  simp only
  rw [hnumber, if_neg (by omega), List.take_left, if_neg (Nat.lt_irrefl _), List.drop_left,
    UInt16.ofNat_toNat]
  cases readFields field.number.toNat rest with
  | error error => rfl
  | ok read => rfl

theorem readFields_writePayload (previous : Nat) (payload : Bytes) :
    readFields previous (writePayload payload) = .ok ([], payload) := by
  cases payload with
  | nil => rw [writePayload, readFields]
  | cons byte rest =>
      rw [writePayload, readFields, if_pos rfl]
      · rfl
      · exact List.cons_ne_nil _ _

/-- The number that the options behind a list of options go on from. -/
def lastNumber (previous : Nat) (fields : List OptionField) : Nat :=
  fields.foldl (fun _ field => field.number.toNat) previous

/-- Options that were written read back, whatever follows them. -/
theorem readFields_written {previous : Nat} {fields : List OptionField} {written : Bytes}
    (hordered : OptionField.Ordered fields)
    (hlower : ∀ field ∈ fields, previous ≤ field.number.toNat)
    (h : writeFields previous fields = .ok written) (rest : Bytes) :
    readFields previous (written ++ rest) =
      (readFields (lastNumber previous fields) rest).map (inFront fields) := by
  induction fields generalizing previous written with
  | nil =>
      cases h
      rw [lastNumber, List.foldl_nil, List.nil_append]
      cases readFields previous rest with
      | error error => rfl
      | ok read => rfl
  | cons field fields ih =>
      obtain ⟨delta, deltaBytes, length, lengthBytes, behind, hdelta, hlength, hbehind, rfl⟩ :=
        writeFields_cons_eq_ok_iff.1 h
      obtain ⟨hhead, htail⟩ := List.pairwise_cons.1 hordered
      have hread := readFields_field (hlower field (List.mem_cons_self ..)) hdelta hlength
        (behind ++ rest)
      rw [← List.append_assoc] at hread
      have hlast : lastNumber previous (field :: fields) = lastNumber field.number.toNat fields :=
        rfl
      rw [List.cons_append, hread, ih htail hhead hbehind, hlast]
      cases readFields (lastNumber field.number.toNat fields) rest with
      | error error => rfl
      | ok read => rfl

/-- Options and a payload that were written read back. -/
theorem readFields_append {previous : Nat} {fields : List OptionField} {written : Bytes}
    (payload : Bytes) (hordered : OptionField.Ordered fields)
    (hlower : ∀ field ∈ fields, previous ≤ field.number.toNat)
    (h : writeFields previous fields = .ok written) :
    readFields previous (written ++ writePayload payload) = .ok (fields, payload) := by
  rw [readFields_written hordered hlower h, readFields_writePayload]
  simp [Except.map, inFront]

/-- What is read as options and a payload is written as the bytes read. -/
theorem writeFields_of_readFields {previous : Nat} {bytes payload : Bytes}
    {fields : List OptionField} (h : readFields previous bytes = .ok (fields, payload)) :
    ∃ written, writeFields previous fields = .ok written ∧
      bytes = written ++ writePayload payload := by
  fun_induction readFields previous bytes generalizing fields payload with
  | case1 => cases h; exact ⟨[], rfl, rfl⟩
  | case2 => cases h
  | case3 previous rest hrest =>
      cases h
      refine ⟨[], rfl, ?_⟩
      cases rest with
      | nil => exact absurd rfl hrest
      | cons byte rest => rfl
  | case4 => cases h
  | case5 => cases h
  | case6 => cases h
  | case7 => cases h
  | case8 => cases h
  | case9 previous head rest hmarker delta behindDelta hdelta length behindLength hlength hnumber
      hlong fields payload hbehind ih =>
      cases h
      obtain ⟨behind, hwritten, hbytes⟩ := ih hbehind
      have hbyte := head.toNat_lt
      obtain ⟨deltaBytes, hdeltaWritten, hrest⟩ :=
        writeNibble_of_readNibble (by omega) hdelta
      obtain ⟨lengthBytes, hlengthWritten, hbehindDelta⟩ :=
        writeNibble_of_readNibble (by omega) hlength
      have hword : (UInt16.ofNat (previous + delta)).toNat = previous + delta := by
        rw [UInt16.toNat_ofNat']
        omega
      have htake : (behindLength.take length).length = length := by
        have := List.length_take_le length behindLength
        omega
      refine ⟨_, writeFields_cons_eq_ok_iff.2 ⟨head.toNat / 16, deltaBytes, head.toNat % 16,
        lengthBytes, behind, ?_, ?_, ?_, rfl⟩, ?_⟩
      · rw [hword, Nat.add_sub_cancel_left]
        exact hdeltaWritten
      · rw [htake]
        exact hlengthWritten
      · rw [hword]
        exact hwritten
      · rw [show head.toNat / 16 * 16 + head.toNat % 16 = head.toNat by omega, UInt8.ofNat_toNat,
          List.cons_append, hrest, hbehindDelta]
        simp only [List.append_assoc, ← hbytes, List.take_append_drop]

/-- Options are written if their values are not too long: a difference of
option numbers always fits. -/
theorem writeFields_isOk_iff {previous : Nat} {fields : List OptionField} :
    (∃ written, writeFields previous fields = .ok written) ↔
      ∀ field ∈ fields, field.value.length ≤ maxExtended := by
  induction fields generalizing previous with
  | nil => exact ⟨fun _ => by simp, fun _ => ⟨[], rfl⟩⟩
  | cons field fields ih =>
      rw [List.forall_mem_cons]
      constructor
      · rintro ⟨_, h⟩
        obtain ⟨delta, deltaBytes, length, lengthBytes, behind, -, hlength, hbehind, -⟩ :=
          writeFields_cons_eq_ok_iff.1 h
        exact ⟨writeNibble_isOk_iff.1 ⟨_, hlength⟩, ih.1 ⟨_, hbehind⟩⟩
      · rintro ⟨hvalue, hvalues⟩
        have hlt := field.number.toNat_lt
        have hmax : field.number.toNat - previous ≤ maxExtended := by
          simp only [maxExtended]
          omega
        obtain ⟨⟨delta, deltaBytes⟩, hdelta⟩ := writeNibble_isOk_iff.2 hmax
        obtain ⟨⟨length, lengthBytes⟩, hlength⟩ := writeNibble_isOk_iff.2 hvalue
        obtain ⟨behind, hbehind⟩ := ih.2 hvalues
        exact ⟨_, writeFields_cons_eq_ok_iff.2
          ⟨delta, deltaBytes, length, lengthBytes, behind, hdelta, hlength, hbehind, rfl⟩⟩

/-! ## Datagrams -/

/-- The datagram of a message: header, token, options, payload. -/
theorem encode_eq_ok_iff {message : Message} {bytes : Bytes} :
    message.encode = .ok bytes ↔
      message.token.length ≤ maxTokenLength ∧
        ∃ written, writeFields 0 message.options.fields = .ok written ∧
          bytes =
            UInt8.ofNat (version * 64 + message.kind.bits * 16 + message.token.length) ::
              message.code.byte :: (Bytes.ofUInt16 message.id ++ message.token ++ written ++
                writePayload message.payload) := by
  unfold encode
  by_cases htoken : maxTokenLength < message.token.length
  · rw [if_pos htoken]
    exact ⟨fun h => (nomatch h), fun h => absurd h.1 (by omega)⟩
  · rw [if_neg htoken, bind_eq_ok_iff]
    constructor
    · rintro ⟨written, hwritten, h⟩
      cases h
      exact ⟨by omega, written, hwritten, rfl⟩
    · rintro ⟨-, written, hwritten, rfl⟩
      exact ⟨written, hwritten, rfl⟩

/-- A datagram that is read: what the header has to say, and where each part of
the message comes from. -/
theorem decode_eq_ok_iff {message : Message} {bytes : Bytes} :
    decode bytes = .ok message ↔
      ∃ first high low rest, bytes = first :: message.code.byte :: high :: low :: rest ∧
        first.toNat / 64 = version ∧ first.toNat % 16 ≤ maxTokenLength ∧
        first.toNat % 16 ≤ rest.length ∧
        message.kind = MessageKind.ofBits (first.toNat / 16) ∧
        message.id = Bytes.toUInt16 high low ∧ message.token = rest.take (first.toNat % 16) ∧
        readFields 0 (rest.drop (first.toNat % 16)) =
          .ok (message.options.fields, message.payload) := by
  constructor
  · intro h
    unfold decode at h
    split at h
    case h_2 => cases h
    case h_1 first code high low rest =>
      simp only at h
      split at h
      · cases h
      · rename_i hversion
        split at h
        · cases h
        · split at h
          · cases h
          · split at h
            · cases h
            · rename_i hfields
              cases h
              exact ⟨first, high, low, rest, rfl, Decidable.not_not.1 hversion, by omega, by omega,
                rfl, rfl, rfl, hfields⟩
  · obtain ⟨kind, ⟨code⟩, id, token, ⟨fields, hordered⟩, payload⟩ := message
    rintro ⟨first, high, low, rest, rfl, hversion, htoken, hlong, rfl, rfl, rfl, hfields⟩
    simp only [decode]
    rw [if_neg (by omega), if_neg (by omega), if_neg (by omega)]
    split
    · rename_i herror
      rw [hfields] at herror
      cases herror
    · rename_i hok
      cases hfields.symm.trans hok
      rfl

/-- The first byte of a header gives back its parts. -/
theorem parts_of_first (kind : MessageKind) {length : Nat} (h : length ≤ maxTokenLength) :
    let first := UInt8.ofNat (version * 64 + kind.bits * 16 + length)
    first.toNat / 64 = version ∧ first.toNat % 16 = length ∧
      MessageKind.ofBits (first.toNat / 16) = kind := by
  intro first
  have hbits : kind.bits ≤ 3 := by cases kind <;> decide
  have hfirst : first.toNat = 64 + kind.bits * 16 + length := by
    simp only [maxTokenLength] at h
    rw [UInt8.toNat_ofNat', version]
    omega
  simp only [maxTokenLength] at h
  refine ⟨by rw [version]; omega, by omega, ?_⟩
  rw [show first.toNat / 16 = 4 + kind.bits by omega]
  cases kind <;> rfl

/-- Header and token. -/
def lead (message : Message) : Bytes :=
  UInt8.ofNat (version * 64 + message.kind.bits * 16 + message.token.length) ::
    message.code.byte :: (Bytes.ofUInt16 message.id ++ message.token)

/-- The datagram of a message is header and token, options, payload. -/
theorem encode_eq_lead {message : Message} {wire : Bytes} (h : message.encode = .ok wire) :
    message.token.length ≤ maxTokenLength ∧
      ∃ written, writeFields 0 message.options.fields = .ok written ∧
        wire = message.lead ++ (written ++ writePayload message.payload) := by
  obtain ⟨htoken, written, hwritten, rfl⟩ := encode_eq_ok_iff.1 h
  exact ⟨htoken, written, hwritten, by simp [lead]⟩

/-- Behind header and token options and payload are read. -/
theorem decode_lead_ok {message : Message} {bytes payload : Bytes} {options : Options}
    (htoken : message.token.length ≤ maxTokenLength)
    (h : readFields 0 bytes = .ok (options.fields, payload)) :
    decode (message.lead ++ bytes) =
      .ok { message with options := options, payload := payload } := by
  obtain ⟨hversion, hlength, hkind⟩ := parts_of_first message.kind htoken
  refine decode_eq_ok_iff.2 ⟨_, _, _, _, rfl, hversion, ?_, ?_, hkind.symm, ?_, ?_, ?_⟩
  · rw [hlength]
    exact htoken
  · rw [hlength]
    simp
  · exact (Bytes.toUInt16_ofNat message.id).symm
  · rw [hlength]
    simp
  · rw [hlength]
    simpa using h

/-- A message that is written reads back. -/
theorem decode_of_encode {message : Message} {bytes : Bytes} (h : message.encode = .ok bytes) :
    decode bytes = .ok message := by
  obtain ⟨htoken, written, hwritten, rfl⟩ := encode_eq_lead h
  exact decode_lead_ok htoken
    (readFields_append message.payload message.options.ordered (by simp) hwritten)

/-- A datagram that is read is the one that its message is written as. -/
theorem encode_of_decode {message : Message} {bytes : Bytes} (h : decode bytes = .ok message) :
    message.encode = .ok bytes := by
  obtain ⟨first, high, low, rest, rfl, hversion, htoken, hlong, hkind, hid, htokenTake, hfields⟩ :=
    decode_eq_ok_iff.1 h
  have hbyte := first.toNat_lt
  have hlength : message.token.length = first.toNat % 16 := by
    rw [htokenTake, List.length_take]
    omega
  obtain ⟨written, hwritten, hrest⟩ := writeFields_of_readFields hfields
  refine encode_eq_ok_iff.2 ⟨by omega, written, hwritten, ?_⟩
  have hbits : message.kind.bits = first.toNat / 16 % 4 := by
    rw [hkind]
    exact MessageKind.bits_ofBits _
  have hfirst : version * 64 + message.kind.bits * 16 + message.token.length = first.toNat := by
    rw [hbits, hlength]
    simp only [version] at hversion ⊢
    omega
  rw [hfirst, UInt8.ofNat_toNat, hid, Bytes.ofUInt16_toUInt16, htokenTake, List.append_assoc,
    List.append_assoc, ← hrest, List.take_append_drop]
  rfl

/-- The messages that have a datagram: the token is short enough and so is
every option value. -/
theorem encode_isOk_iff {message : Message} :
    (∃ bytes, message.encode = .ok bytes) ↔
      message.token.length ≤ maxTokenLength ∧
        ∀ field ∈ message.options.fields, field.value.length ≤ maxExtended := by
  constructor
  · rintro ⟨_, h⟩
    obtain ⟨htoken, written, hwritten, -⟩ := encode_eq_ok_iff.1 h
    exact ⟨htoken, writeFields_isOk_iff.1 ⟨written, hwritten⟩⟩
  · rintro ⟨htoken, hvalues⟩
    obtain ⟨written, hwritten⟩ := writeFields_isOk_iff.2 hvalues
    exact ⟨_, encode_eq_ok_iff.2 ⟨htoken, written, hwritten, rfl⟩⟩

/-! ## How long a datagram is -/

/-- How many further bytes a difference or a length takes. -/
def furtherLength (value : Nat) : Nat :=
  if value < 13 then 0 else if value < 269 then 1 else 2

theorem furtherLength_le (value : Nat) : furtherLength value ≤ 2 := by
  unfold furtherLength
  split
  · exact Nat.zero_le _
  · split
    · exact Nat.le_succ 1
    · exact Nat.le_refl _

theorem length_further {value nibble : Nat} {further : Bytes}
    (h : writeNibble value = .ok (nibble, further)) : further.length = furtherLength value := by
  unfold writeNibble at h
  unfold furtherLength
  by_cases h13 : value < 13
  · rw [if_pos h13] at h ⊢
    cases h
    rfl
  rw [if_neg h13] at h ⊢
  by_cases h269 : value < 269
  · rw [if_pos h269] at h ⊢
    cases h
    rfl
  rw [if_neg h269] at h ⊢
  by_cases hmax : value ≤ maxExtended
  · rw [if_pos hmax] at h
    cases h
    rfl
  · rw [if_neg hmax] at h
    cases h

/-- How many bytes an option takes behind the one with the number `previous`. -/
def fieldLength (previous : Nat) (field : OptionField) : Nat :=
  1 + furtherLength (field.number.toNat - previous) + furtherLength field.value.length +
    field.value.length

/-- How many bytes options take behind the one with the number `previous`. -/
def fieldsLength (previous : Nat) : List OptionField → Nat
  | [] => 0
  | field :: rest => fieldLength previous field + fieldsLength field.number.toNat rest

/-- The bytes of written options are counted by `fieldsLength`. -/
theorem length_writeFields {previous : Nat} {fields : List OptionField} {written : Bytes}
    (h : writeFields previous fields = .ok written) :
    written.length = fieldsLength previous fields := by
  induction fields generalizing previous written with
  | nil =>
      cases h
      rfl
  | cons field fields ih =>
      obtain ⟨delta, deltaBytes, length, lengthBytes, behind, hdelta, hlength, hbehind, rfl⟩ :=
        writeFields_cons_eq_ok_iff.1 h
      simp only [List.length_cons, List.length_append, length_further hdelta,
        length_further hlength, ih hbehind, fieldsLength, fieldLength]
      omega

/-- An option takes at most five bytes more than its value. -/
theorem fieldsLength_le (previous : Nat) {longest : Nat} {fields : List OptionField}
    (hvalues : ∀ field ∈ fields, field.value.length ≤ longest) :
    fieldsLength previous fields ≤ fields.length * (longest + 5) := by
  induction fields generalizing previous with
  | nil => exact Nat.zero_le _
  | cons field fields ih =>
      obtain ⟨hvalue, hrest⟩ := List.forall_mem_cons.1 hvalues
      have hdelta := furtherLength_le (field.number.toNat - previous)
      have hlength := furtherLength_le field.value.length
      have hbehind := ih field.number.toNat hrest
      simp only [fieldsLength, fieldLength, List.length_cons, Nat.succ_mul]
      omega

/-- A datagram is not much longer than its options and its payload. -/
theorem length_encode_le {message : Message} {bytes : Bytes} {longest : Nat}
    (h : message.encode = .ok bytes)
    (hvalues : ∀ field ∈ message.options.fields, field.value.length ≤ longest) :
    bytes.length ≤
      13 + message.options.fields.length * (longest + 5) + message.payload.length := by
  obtain ⟨htoken, written, hwritten, rfl⟩ := encode_eq_ok_iff.1 h
  have hfields := fieldsLength_le 0 hvalues
  rw [← length_writeFields hwritten] at hfields
  have hpayload : (writePayload message.payload).length ≤ message.payload.length + 1 := by
    cases message.payload with
    | nil => exact Nat.zero_le _
    | cons byte rest => simp [writePayload]
  simp only [maxTokenLength] at htoken
  simp only [List.length_cons, List.length_append, Bytes.ofUInt16, List.length_nil]
  omega

/-! ## Main results -/

/-- **Round trip.**  A message can be written exactly when its token has at most
8 bytes and each option value at most 65804, and whatever is written reads back
as the very same message. -/
theorem encode_round_trip (message : Message) :
    ((∃ wire, message.encode = .ok wire) ↔
      message.token.length ≤ 8 ∧
        ∀ field ∈ message.options.fields, field.value.length ≤ 65804) ∧
    ∀ wire, message.encode = .ok wire → decode wire = .ok message :=
  ⟨encode_isOk_iff, fun _ => decode_of_encode⟩

/-- **The wire form is canonical.**  A datagram that is read is the one its
message is written as; so no two datagrams are read as the same message, and
the datagrams that can be read are those that can be written. -/
theorem decode_canonical :
    (∀ bytes message, decode bytes = .ok message → message.encode = .ok bytes) ∧
    (∀ bytes other message, decode bytes = .ok message → decode other = .ok message →
      bytes = other) ∧
    ∀ bytes, (∃ message, decode bytes = .ok message) ↔
      ∃ message : Message, message.encode = .ok bytes := by
  refine ⟨fun _ _ => encode_of_decode, fun bytes other message h hother => ?_, fun bytes => ?_⟩
  · have hsame := (encode_of_decode h).symm.trans (encode_of_decode hother)
    cases hsame
    rfl
  · constructor
    · rintro ⟨message, h⟩
      exact ⟨message, encode_of_decode h⟩
    · rintro ⟨message, h⟩
      exact ⟨message, decode_of_encode h⟩

end Message
end Blockwise
