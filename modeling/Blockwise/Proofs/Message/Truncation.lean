import Blockwise.Proofs.Message.Wire

/-!
# Datagrams that are cut short

What is left of a message when its datagram is cut.  The datagram has a boundary
behind the token and one behind each option; a cut at a boundary leaves a shorter
message, and a cut elsewhere is noticed, except inside the payload.

* `Message.Remnant` — what each cut leaves.
* `Message.encode_upTo` — up to a boundary the datagram is that of a shorter message.
* `Message.readFields_take` — a cut inside an option is never read as an option or as
  a marker.
* `Message.decode_boundary_ok`, `Message.decode_boundary_error` — in front of a boundary
  everything is read as it was written.
* `Message.decode_take_iff` — every cut leaves its `Remnant`, and
  `Message.truncated_datagram` is the main result.
-/

namespace Blockwise

/-- The first `count` options. -/
def Options.first (options : Options) (count : Nat) : Options :=
  ⟨options.fields.take count, options.ordered.sublist (List.take_sublist _ _)⟩

namespace Message

/-! ## The parts of a datagram -/

/-- Where the first `count` options end in the datagram. -/
def boundary (message : Message) (count : Nat) : Nat :=
  headerLength + message.token.length + fieldsLength 0 (message.options.fields.take count)

/-- Where all options end, and the payload's marker stands if there is a payload. -/
def payloadBoundary (message : Message) : Nat :=
  message.boundary message.options.fields.length

/-- The message with its first `count` options only and no payload. -/
def upTo (message : Message) (count : Nat) : Message :=
  { message with options := message.options.first count, payload := [] }

/-- What a cut leaves of a message, by the number of bytes kept. -/
inductive Remnant (message : Message) : Nat → Except MessageError Message → Prop
  /-- The cut is in the header or the token. -/
  | lead {kept : Nat} (h : kept < message.boundary 0) :
      Remnant message kept (.error .headerCutShort)
  /-- The cut is inside an option. -/
  | option {kept count : Nat} (hcount : count < message.options.fields.length)
      (hbegun : message.boundary count < kept) (hopen : kept < message.boundary (count + 1)) :
      Remnant message kept (.error .optionCutShort)
  /-- The cut is behind the token or behind an option. -/
  | options {count : Nat} (hcount : count ≤ message.options.fields.length) :
      Remnant message (message.boundary count) (.ok (message.upTo count))
  /-- The last byte kept is the marker of the payload. -/
  | marker (h : message.payload ≠ []) :
      Remnant message (message.payloadBoundary + 1) (.error .payloadMissing)
  /-- The cut is inside the payload. -/
  | payload {kept : Nat} (h : 0 < kept) :
      Remnant message (message.payloadBoundary + 1 + kept)
        (.ok { message with payload := message.payload.take kept })

theorem length_lead (message : Message) : message.lead.length = message.boundary 0 := by
  simp only [lead, boundary, List.length_cons, List.length_append, Bytes.ofUInt16,
    List.length_nil, List.take_zero, fieldsLength, headerLength]
  omega

/-- The options can be written in two parts. -/
theorem writeFields_append {previous : Nat} {front back : List OptionField} {written : Bytes}
    (h : writeFields previous (front ++ back) = .ok written) :
    ∃ frontBytes backBytes, writeFields previous front = .ok frontBytes ∧
      writeFields (lastNumber previous front) back = .ok backBytes ∧
      written = frontBytes ++ backBytes := by
  induction front generalizing previous written with
  | nil => exact ⟨[], written, rfl, h, rfl⟩
  | cons field front ih =>
      obtain ⟨delta, deltaBytes, length, lengthBytes, behind, hdelta, hlength, hbehind, rfl⟩ :=
        writeFields_cons_eq_ok_iff.1 h
      obtain ⟨frontBytes, backBytes, hfront, hback, rfl⟩ := ih hbehind
      refine ⟨_, backBytes, writeFields_cons_eq_ok_iff.2
        ⟨delta, deltaBytes, length, lengthBytes, frontBytes, hdelta, hlength, hfront, rfl⟩,
        hback, ?_⟩
      simp only [List.cons_append, List.append_assoc]

theorem fieldsLength_append (previous : Nat) (front back : List OptionField) :
    fieldsLength previous (front ++ back) =
      fieldsLength previous front + fieldsLength (lastNumber previous front) back := by
  induction front generalizing previous with
  | nil => exact (Nat.zero_add _).symm
  | cons field front ih =>
      rw [List.cons_append, fieldsLength, fieldsLength, ih, Nat.add_assoc]
      rfl

/-- The options behind others do not fall below the last of them. -/
theorem lastNumber_le {previous : Nat} {front : List OptionField} {field : OptionField}
    {back : List OptionField} (hordered : OptionField.Ordered (front ++ field :: back))
    (hprevious : previous ≤ field.number.toNat) :
    lastNumber previous front ≤ field.number.toNat := by
  induction front generalizing previous with
  | nil => exact hprevious
  | cons first front ih =>
      obtain ⟨hfirst, hrest⟩ := List.pairwise_cons.1 hordered
      exact ih hrest (hfirst field (by simp))

/-! ## Cuts inside an option -/

/-- Further bytes that are cut short are missed. -/
theorem readNibble_take {value nibble kept : Nat} {further : Bytes}
    (h : writeNibble value = .ok (nibble, further)) (hkept : kept < further.length) :
    readNibble nibble (further.take kept) = .error .optionCutShort := by
  unfold writeNibble at h
  split at h
  · cases h
    exact absurd hkept (Nat.not_lt_zero _)
  · split at h
    · cases h
      obtain rfl : kept = 0 := by simpa using hkept
      rfl
    · split at h
      · cases h
        obtain rfl | rfl : kept = 0 ∨ kept = 1 := by
          simp only [Bytes.ofUInt16, List.length_cons, List.length_nil] at hkept
          omega
        · rfl
        · rfl
      · cases h

/-- **An option that is cut short is missed,** wherever behind its beginning the cut
is: in the further bytes of the number, in those of the length, or in the value. -/
theorem readFields_take {previous kept : Nat} {field : OptionField} {fields : List OptionField}
    {written : Bytes} (hprevious : previous ≤ field.number.toNat)
    (h : writeFields previous (field :: fields) = .ok written) (rest : Bytes) (hpos : 0 < kept)
    (hkept : kept < fieldLength previous field) :
    readFields previous ((written ++ rest).take kept) = .error .optionCutShort := by
  obtain ⟨delta, deltaBytes, length, lengthBytes, behind, hdelta, hlength, -, rfl⟩ :=
    writeFields_cons_eq_ok_iff.1 h
  obtain ⟨hdiv, hmod, hmarker⟩ :=
    nibbles_of_head (nibble_le_of_writeNibble hdelta) (nibble_le_of_writeNibble hlength)
  have hlt := field.number.toNat_lt
  have hnumber : ¬65535 < previous + (field.number.toNat - previous) := by omega
  rw [fieldLength, ← length_further hdelta, ← length_further hlength] at hkept
  obtain ⟨kept, rfl⟩ := Nat.exists_eq_add_one.2 hpos
  simp only [List.cons_append, List.append_assoc, List.take_succ_cons]
  rw [readFields_cons hmarker, hdiv, hmod]
  by_cases hinDelta : kept < deltaBytes.length
  · rw [List.take_append_of_le_length (Nat.le_of_lt hinDelta), readNibble_take hdelta hinDelta]
    rfl
  -- The number is read, and of what follows so many bytes are kept.
  obtain ⟨kept, rfl⟩ := Nat.exists_eq_add_of_le (Nat.not_lt.1 hinDelta)
  rw [List.take_length_add_append, readNibble_append hdelta]
  simp only [bind, Except.bind]
  by_cases hinLength : kept < lengthBytes.length
  · rw [List.take_append_of_le_length (Nat.le_of_lt hinLength), readNibble_take hlength hinLength]
  obtain ⟨kept, rfl⟩ := Nat.exists_eq_add_of_le (Nat.not_lt.1 hinLength)
  rw [List.take_length_add_append, readNibble_append hlength]
  have hshort : kept < field.value.length := by omega
  have hmissing : (((field.value ++ (behind ++ rest)).take kept).take
      field.value.length).length < field.value.length := by
    simp only [List.length_take]
    omega
  simp only
  rw [if_neg hnumber, if_pos hmissing]

/-! ## Header and token -/

/-- Header and token that are cut short are missed. -/
theorem decode_lead_take {message : Message} {kept : Nat}
    (htoken : message.token.length ≤ maxTokenLength) (hkept : kept < message.boundary 0) :
    decode (message.lead.take kept) = .error .headerCutShort := by
  obtain ⟨hversion, hlength, -⟩ := parts_of_first message.kind htoken
  unfold decode
  split
  · rename_i first code high low rest hbytes
    obtain ⟨kept, rfl⟩ : ∃ more, kept = 4 + more := by
      refine Nat.exists_eq_add_of_le (Nat.not_lt.1 fun hshort => ?_)
      have := congrArg List.length hbytes
      simp only [List.length_take, List.length_cons] at this
      omega
    rw [boundary, headerLength, List.take_zero, fieldsLength] at hkept
    rw [lead, Nat.add_comm 4] at hbytes
    simp only [Bytes.ofUInt16, List.cons_append, List.nil_append, List.take_succ_cons] at hbytes
    cases hbytes
    have hshort : (message.token.take kept).length < message.token.length := by
      rw [List.length_take]
      omega
    rw [if_neg (Decidable.not_not.2 hversion), if_neg (by omega), if_pos (by rwa [hlength])]
  · rfl

/-- Behind header and token it is the options that a datagram fails for. -/
theorem decode_lead_error {message : Message} {bytes : Bytes} {error : MessageError}
    (htoken : message.token.length ≤ maxTokenLength) (h : readFields 0 bytes = .error error) :
    decode (message.lead ++ bytes) = .error error := by
  obtain ⟨hversion, hlength, -⟩ := parts_of_first message.kind htoken
  simp only [lead, Bytes.ofUInt16, List.cons_append, List.nil_append, decode]
  have hlong : ¬(message.token ++ bytes).length < message.token.length := by
    rw [List.length_append]
    omega
  rw [if_neg (Decidable.not_not.2 hversion), if_neg (by omega), if_neg (by rwa [hlength])]
  split
  · rename_i herror
    rw [hlength, List.drop_left, h] at herror
    cases herror
    rfl
  · rename_i hok
    rw [hlength, List.drop_left, h] at hok
    cases hok

/-! ## Boundaries -/

/-- The datagram in two parts: up to a boundary, and behind it. -/
theorem exists_boundary {message : Message} {wire : Bytes} (h : message.encode = .ok wire)
    (count : Nat) :
    ∃ front back, writeFields 0 (message.options.fields.take count) = .ok front ∧
      writeFields (lastNumber 0 (message.options.fields.take count))
        (message.options.fields.drop count) = .ok back ∧
      (message.lead ++ front).length = message.boundary count ∧
      wire = message.lead ++ front ++ (back ++ writePayload message.payload) := by
  obtain ⟨-, written, hwritten, rfl⟩ := encode_eq_lead h
  rw [← List.take_append_drop count message.options.fields] at hwritten
  obtain ⟨front, back, hfront, hback, rfl⟩ := writeFields_append hwritten
  refine ⟨front, back, hfront, hback, ?_, by simp only [List.append_assoc]⟩
  rw [List.length_append, length_lead, length_writeFields hfront]
  rfl

section Boundary

variable {message : Message} {count : Nat} {front rest : Bytes}

/-- In front of a boundary everything is read as it was written, so that a datagram
fails only for what is behind. -/
theorem decode_boundary_error {error : MessageError}
    (htoken : message.token.length ≤ maxTokenLength)
    (hfront : writeFields 0 (message.options.fields.take count) = .ok front)
    (h : readFields (lastNumber 0 (message.options.fields.take count)) rest = .error error) :
    decode (message.lead ++ front ++ rest) = .error error := by
  rw [List.append_assoc]
  refine decode_lead_error htoken ?_
  rw [readFields_written (message.options.first count).ordered (by simp) hfront, Options.first, h]
  rfl

/-- In front of a boundary everything is read as it was written, and what is read behind
is added to it. -/
theorem decode_boundary_ok {options : Options} {fields : List OptionField} {payload : Bytes}
    (htoken : message.token.length ≤ maxTokenLength)
    (hfront : writeFields 0 (message.options.fields.take count) = .ok front)
    (h : readFields (lastNumber 0 (message.options.fields.take count)) rest =
      .ok (fields, payload))
    (hoptions : options.fields = message.options.fields.take count ++ fields) :
    decode (message.lead ++ front ++ rest) =
      .ok { message with options := options, payload := payload } := by
  rw [List.append_assoc]
  refine decode_lead_ok htoken ?_
  rw [readFields_written (message.options.first count).ordered (by simp) hfront, Options.first, h,
    hoptions]
  rfl

end Boundary

/-! ## Every cut -/

section Cut

variable {message : Message} {wire : Bytes}

/-- The bytes up to a boundary are the datagram of the message up to there. -/
theorem encode_upTo (h : message.encode = .ok wire) (count : Nat) :
    (message.upTo count).encode = .ok (wire.take (message.boundary count)) := by
  obtain ⟨front, back, hfront, -, hlength, rfl⟩ := exists_boundary h count
  rw [← hlength, List.take_left]
  exact encode_eq_ok_iff.2
    ⟨(encode_eq_lead h).1, front, hfront, by simp [lead, upTo, writePayload]⟩

/-- A cut behind the token or behind an option leaves a shorter message. -/
theorem decode_take_boundary (h : message.encode = .ok wire) (count : Nat) :
    decode (wire.take (message.boundary count)) = .ok (message.upTo count) :=
  decode_of_encode (encode_upTo h count)

/-- A cut inside an option is noticed. -/
theorem decode_take_option (h : message.encode = .ok wire) {kept count : Nat}
    (hcount : count < message.options.fields.length) (hbegun : message.boundary count < kept)
    (hopen : kept < message.boundary (count + 1)) :
    decode (wire.take kept) = .error .optionCutShort := by
  obtain ⟨front, back, hfront, hback, hlength, rfl⟩ := exists_boundary h count
  have hdrop := List.drop_eq_getElem_cons hcount
  have hparts : message.options.fields.take count ++
      message.options.fields[count] :: message.options.fields.drop (count + 1) =
        message.options.fields := by
    rw [← hdrop, List.take_append_drop]
  have hprevious := lastNumber_le (hparts ▸ message.options.ordered) (Nat.zero_le _)
  have hnext : message.boundary (count + 1) = message.boundary count +
      fieldLength (lastNumber 0 (message.options.fields.take count))
        message.options.fields[count] := by
    rw [boundary, boundary, List.take_succ_eq_append_getElem hcount, fieldsLength_append,
      ← Nat.add_assoc]
    rfl
  obtain ⟨inside, rfl⟩ := Nat.exists_eq_add_of_le (Nat.le_of_lt hbegun)
  rw [← hlength, List.take_length_add_append]
  rw [hdrop] at hback
  refine decode_boundary_error (encode_eq_lead h).1 hfront ?_
  exact readFields_take hprevious hback _ (by omega) (by omega)

/-- Behind all options are the marker and the payload, or nothing. -/
theorem exists_payloadBoundary (h : message.encode = .ok wire) :
    ∃ front, writeFields 0 (message.options.fields.take message.options.fields.length) =
        .ok front ∧
      (message.lead ++ front).length = message.payloadBoundary ∧
      wire = message.lead ++ front ++ writePayload message.payload := by
  obtain ⟨front, back, hfront, hback, hlength, rfl⟩ :=
    exists_boundary h message.options.fields.length
  rw [List.drop_length] at hback
  cases hback
  exact ⟨front, hfront, hlength, rfl⟩

theorem length_wire (h : message.encode = .ok wire) :
    wire.length = message.payloadBoundary + (writePayload message.payload).length := by
  obtain ⟨front, -, hlength, rfl⟩ := exists_payloadBoundary h
  rw [List.length_append, hlength]

theorem writePayload_of_ne_nil {payload : Bytes} (h : payload ≠ []) :
    writePayload payload = payloadMarker :: payload := by
  cases payload with
  | nil => exact absurd rfl h
  | cons byte payload => rfl

/-- A cut behind the marker is noticed. -/
theorem decode_take_marker (h : message.encode = .ok wire) (hpayload : message.payload ≠ []) :
    decode (wire.take (message.payloadBoundary + 1)) = .error .payloadMissing := by
  obtain ⟨front, hfront, hlength, rfl⟩ := exists_payloadBoundary h
  rw [← hlength, List.take_length_add_append, writePayload_of_ne_nil hpayload]
  refine decode_boundary_error (encode_eq_lead h).1 hfront ?_
  rw [List.take_succ_cons, List.take_zero, readFields, if_pos rfl]
  rfl

/-- A cut inside the payload leaves all options and the payload up to the cut. -/
theorem decode_take_payload (h : message.encode = .ok wire) (hpayload : message.payload ≠ [])
    {kept : Nat} (hkept : 0 < kept) :
    decode (wire.take (message.payloadBoundary + 1 + kept)) =
      .ok { message with payload := message.payload.take kept } := by
  obtain ⟨front, hfront, hlength, rfl⟩ := exists_payloadBoundary h
  rw [← hlength, Nat.add_assoc, List.take_length_add_append, writePayload_of_ne_nil hpayload,
    Nat.add_comm, List.take_succ_cons]
  have hleft : message.payload.take kept ≠ [] := by
    rw [Ne, List.take_eq_nil_iff]
    rintro (hzero | hnil)
    · omega
    · exact hpayload hnil
  rw [← writePayload_of_ne_nil hleft]
  exact decode_boundary_ok (encode_eq_lead h).1 hfront (readFields_writePayload _ _) (by simp)

/-- A place lies between two neighbours of a chain, at one of them, or behind all. -/
theorem exists_between (chain : Nat → Nat) {place : Nat} (h : chain 0 ≤ place) (last : Nat) :
    (∃ index < last, chain index < place ∧ place < chain (index + 1)) ∨
      (∃ index ≤ last, place = chain index) ∨ chain last < place := by
  induction last with
  | zero =>
      rcases Nat.lt_or_eq_of_le h with hlt | heq
      · exact .inr (.inr hlt)
      · exact .inr (.inl ⟨0, Nat.le_refl _, heq.symm⟩)
  | succ last ih =>
      rcases ih with ⟨index, hindex, hbetween⟩ | ⟨index, hindex, hat⟩ | hbehind
      · exact .inl ⟨index, by omega, hbetween⟩
      · exact .inr (.inl ⟨index, by omega, hat⟩)
      · rcases Nat.lt_trichotomy place (chain (last + 1)) with hlt | heq | hgt
        · exact .inl ⟨last, by omega, hbehind, hlt⟩
        · exact .inr (.inl ⟨last + 1, Nat.le_refl _, heq⟩)
        · exact .inr (.inr hgt)

/-- Every cut leaves something, and what it leaves is the cut's `Remnant`. -/
theorem exists_remnant (h : message.encode = .ok wire) {kept : Nat} (hkept : kept < wire.length) :
    ∃ result, Remnant message kept result := by
  by_cases hlead : kept < message.boundary 0
  · exact ⟨_, .lead hlead⟩
  rcases exists_between message.boundary (Nat.not_lt.1 hlead) message.options.fields.length with
    ⟨count, hcount, hbegun, hopen⟩ | ⟨count, hcount, rfl⟩ | hbehind
  · exact ⟨_, .option hcount hbegun hopen⟩
  · exact ⟨_, .options hcount⟩
  · obtain ⟨more, rfl⟩ : ∃ more, kept = message.payloadBoundary + 1 + more :=
      Nat.exists_eq_add_of_le hbehind
    rcases Nat.eq_zero_or_pos more with rfl | hmore
    · refine ⟨_, .marker fun hnil => ?_⟩
      rw [length_wire h, hnil] at hkept
      simp only [writePayload, List.length_nil] at hkept
      omega
    · exact ⟨_, .payload hmore⟩

/-- A cut leaves what its `Remnant` says. -/
theorem Remnant.decode_take {kept : Nat} {result : Except MessageError Message}
    (h : Remnant message kept result) (hwire : message.encode = .ok wire)
    (hkept : kept < wire.length) : decode (wire.take kept) = result := by
  cases h with
  | lead hlead =>
      obtain ⟨htoken, written, -, rfl⟩ := encode_eq_lead hwire
      rw [List.take_append_of_le_length (by rw [length_lead]; omega)]
      exact decode_lead_take htoken hlead
  | option hcount hbegun hopen => exact decode_take_option hwire hcount hbegun hopen
  | options _ => exact decode_take_boundary hwire _
  | marker hpayload => exact decode_take_marker hwire hpayload
  | payload hpos =>
      refine decode_take_payload hwire (fun hnil => ?_) hpos
      rw [length_wire hwire, hnil] at hkept
      simp only [writePayload, List.length_nil] at hkept
      omega

/-- **Every cut leaves its `Remnant`, and nothing else.** -/
theorem decode_take_iff (h : message.encode = .ok wire) {kept : Nat} (hkept : kept < wire.length)
    {result : Except MessageError Message} :
    decode (wire.take kept) = result ↔ Remnant message kept result := by
  refine ⟨?_, fun hremnant => hremnant.decode_take h hkept⟩
  rintro rfl
  obtain ⟨result, hremnant⟩ := exists_remnant h hkept
  rwa [hremnant.decode_take h hkept]

end Cut

/-- **Cut datagrams never turn into different content.**  The datagram of a message ends
behind its last option, or behind marker and payload if there is a payload, and up to
each boundary it is the datagram of the message's first options.  Every cut leaves what
`Remnant` says, by where the cut is. -/
theorem truncated_datagram {message : Message} {wire : Bytes} (h : message.encode = .ok wire) :
    wire.length = message.payloadBoundary + (writePayload message.payload).length ∧
      (∀ count, (message.upTo count).encode = .ok (wire.take (message.boundary count))) ∧
      ∀ kept < wire.length, ∀ result,
        decode (wire.take kept) = result ↔ Remnant message kept result :=
  ⟨length_wire h, encode_upTo h, fun _ hkept _ => decode_take_iff h hkept⟩

/-- A response with a token, a block of two bytes, and a payload of two bytes. -/
def shortResponse : Message :=
  { bare .acknowledgement .content 7 with
    token := [1], options := Options.empty.add 23 [1, 14], payload := [8, 9] }

/-- The cuts of a short response, one of each kind. -/
theorem truncated_shortResponse :
    shortResponse.encode = .ok [97, 69, 0, 7, 1, 210, 10, 1, 14, 255, 8, 9] ∧
      decode [97, 69, 0, 7] = .error .headerCutShort ∧
      decode [97, 69, 0, 7, 1] = .ok (shortResponse.upTo 0) ∧
      decode [97, 69, 0, 7, 1, 210] = .error .optionCutShort ∧
      decode [97, 69, 0, 7, 1, 210, 10, 1, 14, 255] = .error .payloadMissing ∧
      decode [97, 69, 0, 7, 1, 210, 10, 1, 14, 255, 8] =
        .ok { shortResponse with payload := [8] } := by
  have hwire : shortResponse.encode = .ok [97, 69, 0, 7, 1, 210, 10, 1, 14, 255, 8, 9] := rfl
  have hbegun : shortResponse.boundary 0 < 6 := by decide
  obtain ⟨-, -, hcut⟩ := truncated_datagram hwire
  exact ⟨hwire, (hcut 4 (by decide) _).2 (.lead (by decide)),
    (hcut 5 (by decide) _).2 (.options (Nat.zero_le _)),
    (hcut 6 (by decide) _).2 (.option (by decide) hbegun (by decide)),
    (hcut 10 (by decide) _).2 (.marker (by decide)),
    (hcut 11 (by decide) _).2 (.payload Nat.one_pos)⟩

end Message

end Blockwise
