import Blockwise.Text.Utf8

/-!
# UTF-8 reads back

Whatever text is encoded is decoded again, character by character.

* `begin_of_two`, `begin_of_three`, `begin_of_four` — after the first byte of a longer
  character its other bytes are awaited, and the next of them is in range.
* `decodeFrom_utf8EncodeChar` — the bytes of a character yield that character.
* `decode_encode` — so an encoded text is read back as it was.
-/

namespace Blockwise.Text.Utf8

/-! ## The first byte -/

variable {value : Nat}

/-- What is read after the first byte of a character of so many more bytes: the value
so far is known, and the next byte is in range. -/
def Awaits (byte missing value next : Nat) : Prop :=
  ∃ low high, begin byte = ([], .inside missing low high value) ∧ low ≤ next ∧ next ≤ high

theorem begin_of_two (hlow : 0x7F < value) (hhigh : value ≤ 0x7FF) :
    Awaits (value / 64 + 0xC0) 1 (value / 64) (value % 64 + 0x80) := by
  refine ⟨0x80, 0xBF, ?_, by omega, by omega⟩
  rw [begin, if_neg (by omega), if_neg (by omega), if_pos (by omega)]
  simp

/-- The values from D800 to DFFF are no characters, so the byte after ED is limited. -/
theorem begin_of_three (hlow : 0x7FF < value) (hhigh : value ≤ 0xFFFF)
    (hvalid : value < 0xD800 ∨ 0xDFFF < value) :
    Awaits (value / 4096 + 0xE0) 2 (value / 4096) (value / 64 % 64 + 0x80) := by
  unfold Awaits begin
  rw [if_neg (by omega), if_neg (by omega), if_neg (by omega)]
  by_cases hfirst : value / 4096 = 0
  · rw [if_pos (by omega), hfirst]
    exact ⟨_, _, rfl, by omega, by omega⟩
  rw [if_neg (by omega)]
  by_cases hlast : value / 4096 = 0xD
  · rw [if_pos (by omega), hlast]
    exact ⟨_, _, rfl, by omega, by omega⟩
  rw [if_neg (by omega), if_pos (by omega), Nat.add_sub_cancel]
  exact ⟨_, _, rfl, by omega, by omega⟩

theorem begin_of_four (hlow : 0xFFFF < value) (hhigh : value < 0x110000) :
    Awaits (value / 262144 + 0xF0) 3 (value / 262144) (value / 4096 % 64 + 0x80) := by
  unfold Awaits begin
  rw [if_neg (by omega), if_neg (by omega), if_neg (by omega), if_neg (by omega),
    if_neg (by omega), if_neg (by omega)]
  by_cases hfirst : value / 262144 = 0
  · rw [if_pos (by omega), hfirst]
    exact ⟨_, _, rfl, by omega, by omega⟩
  rw [if_neg (by omega)]
  by_cases hlast : value / 262144 = 4
  · rw [if_neg (by omega), if_pos (by omega), hlast]
    exact ⟨_, _, rfl, by omega, by omega⟩
  rw [if_pos (by omega), Nat.add_sub_cancel]
  exact ⟨_, _, rfl, by omega, by omega⟩

/-! ## The bytes of a character -/

variable {low high byte missing : Nat} {done : List Char} {rest : Bytes}

theorem decodeFrom_cons (state : State) (done : List Char) {byte : Nat} (hbyte : byte < 256)
    (rest : Bytes) :
    decodeFrom state done (UInt8.ofNat byte :: rest) =
      decodeFrom (step state byte).2 ((step state byte).1.reverse ++ done) rest := by
  rw [decodeFrom, UInt8.toNat_ofNat_of_lt' hbyte]

/-- The first byte of a longer character. -/
theorem decodeFrom_first {first next : Nat} (hfirst : first < 256)
    (h : Awaits first missing value next) (done : List Char) (rest : Bytes) :
    ∃ low high, low ≤ next ∧ next ≤ high ∧
      decodeFrom .between done (UInt8.ofNat first :: rest) =
        decodeFrom (.inside missing low high value) done rest := by
  obtain ⟨low, high, hbegin, hlow, hhigh⟩ := h
  refine ⟨low, high, hlow, hhigh, ?_⟩
  rw [decodeFrom_cons _ _ hfirst, step, hbegin]
  rfl

/-- A further byte of a character that is not its last. -/
theorem decodeFrom_further (hlow : low ≤ byte) (hhigh : byte ≤ high) (hbyte : byte < 256) :
    decodeFrom (.inside (missing + 2) low high value) done (UInt8.ofNat byte :: rest) =
      decodeFrom (.inside (missing + 1) 0x80 0xBF (value * 64 + (byte - 0x80))) done rest := by
  rw [decodeFrom_cons _ _ hbyte, step, if_pos ⟨hlow, hhigh⟩, if_neg (by omega)]
  rfl

/-- The last byte of a character. -/
theorem decodeFrom_last (hlow : low ≤ byte) (hhigh : byte ≤ high) (hbyte : byte < 256) :
    decodeFrom (.inside 1 low high value) done (UInt8.ofNat byte :: rest) =
      decodeFrom .between (Char.ofNat (value * 64 + (byte - 0x80)) :: done) rest := by
  rw [decodeFrom_cons _ _ hbyte, step, if_pos ⟨hlow, hhigh⟩, if_pos (by omega)]
  rfl

/-- **The bytes of a character yield that character.** -/
theorem decodeFrom_utf8EncodeChar (char : Char) (done : List Char) (rest : Bytes) :
    decodeFrom .between done (String.utf8EncodeChar char ++ rest) =
      decodeFrom .between (char :: done) rest := by
  have hvalid : char.toNat < 0xD800 ∨ 0xDFFF < char.toNat ∧ char.toNat < 0x110000 := char.valid
  have hchar : Char.ofNat char.toNat = char := Char.ofNat_toNat char
  rw [String.utf8EncodeChar, show char.val.toNat = char.toNat from rfl]
  -- The cases are those of the encoding, by the number of bytes.
  by_cases hone : char.toNat ≤ 0x7F
  · rw [if_pos hone, List.singleton_append, decodeFrom_cons _ _ (by omega), step, begin,
      if_pos (by omega), hchar]
    rfl
  rw [if_neg hone]
  by_cases htwo : char.toNat ≤ 0x7FF
  · rw [if_pos htwo, show char.toNat / 64 % 32 = char.toNat / 64 by omega]
    obtain ⟨low, high, hlow, hhigh, hfirst⟩ :=
      decodeFrom_first (by omega) (begin_of_two (Nat.lt_of_not_le hone) htwo) done _
    rw [List.cons_append, hfirst, List.cons_append, decodeFrom_last hlow hhigh (by omega),
      show char.toNat / 64 * 64 + (char.toNat % 64 + 0x80 - 0x80) = char.toNat by omega, hchar]
    rfl
  rw [if_neg htwo]
  by_cases hthree : char.toNat ≤ 0xFFFF
  · rw [if_pos hthree, show char.toNat / 4096 % 16 = char.toNat / 4096 by omega]
    obtain ⟨low, high, hlow, hhigh, hfirst⟩ :=
      decodeFrom_first (by omega) (begin_of_three (Nat.lt_of_not_le htwo) hthree (by omega)) done _
    rw [List.cons_append, hfirst, List.cons_append,
      decodeFrom_further hlow hhigh (by omega), List.cons_append,
      decodeFrom_last (by omega) (by omega) (by omega),
      show (char.toNat / 4096 * 64 + (char.toNat / 64 % 64 + 0x80 - 0x80)) * 64 +
        (char.toNat % 64 + 0x80 - 0x80) = char.toNat by omega, hchar]
    rfl
  · rw [if_neg hthree, show char.toNat / 262144 % 8 = char.toNat / 262144 by omega]
    obtain ⟨low, high, hlow, hhigh, hfirst⟩ :=
      decodeFrom_first (by omega) (begin_of_four (Nat.lt_of_not_le hthree) (by omega)) done _
    rw [List.cons_append, hfirst, List.cons_append,
      decodeFrom_further hlow hhigh (by omega), List.cons_append,
      decodeFrom_further (by omega) (by omega) (by omega), List.cons_append,
      decodeFrom_last (by omega) (by omega) (by omega),
      show ((char.toNat / 262144 * 64 + (char.toNat / 4096 % 64 + 0x80 - 0x80)) * 64 +
        (char.toNat / 64 % 64 + 0x80 - 0x80)) * 64 + (char.toNat % 64 + 0x80 - 0x80) =
        char.toNat by omega, hchar]
    rfl

/-! ## Texts -/

theorem decodeFrom_flatMap (chars done : List Char) :
    decodeFrom .between done (chars.flatMap String.utf8EncodeChar) = chars.reverse ++ done := by
  induction chars generalizing done with
  | nil => rfl
  | cons char chars ih =>
      rw [List.flatMap_cons, decodeFrom_utf8EncodeChar, ih, List.reverse_cons, List.append_assoc,
        List.singleton_append]

/-- An encoded text is read back as it was. -/
@[simp] theorem decode_encode (text : String) : decode (encode text) = text := by
  rw [decode, encode, decodeFrom_flatMap, List.append_nil, List.reverse_reverse, String.ofList_toList]

end Blockwise.Text.Utf8
