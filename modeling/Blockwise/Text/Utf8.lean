import Blockwise.Bytes

/-!
# UTF-8, with replacement of what is ill-formed

`encode` is the UTF-8 form of a text.  `decode` reads any byte string at all:
a part that is not UTF-8 becomes U+FFFD, one for each longest stretch that
could have begun a character.  Reading is a machine of two states, between
characters and inside one, that sees one byte at a time.
-/

namespace Blockwise.Text.Utf8

/-- The UTF-8 form of a text. -/
def encode (text : String) : Bytes := text.toList.flatMap String.utf8EncodeChar

/-- What stands for a stretch of bytes that is not UTF-8. -/
def replacement : Char := '\uFFFD'

/-- Where reading stands between two bytes. -/
inductive State where
  /-- Between characters. -/
  | between
  /-- Inside a character: `missing` bytes are owed, the next of them between
  `low` and `high`, and `value` holds the bits read so far. -/
  | inside (missing low high value : Nat)
  deriving DecidableEq, Repr

/-- The first byte of a character: what it yields and where reading stands
after it.  Bytes that begin no character are replaced on their own. -/
def begin (byte : Nat) : List Char × State :=
  if byte < 0x80 then ([Char.ofNat byte], .between)
  else if byte < 0xC2 then ([replacement], .between)
  else if byte < 0xE0 then ([], .inside 1 0x80 0xBF (byte - 0xC0))
  else if byte = 0xE0 then ([], .inside 2 0xA0 0xBF 0)
  else if byte = 0xED then ([], .inside 2 0x80 0x9F 0xD)
  else if byte < 0xF0 then ([], .inside 2 0x80 0xBF (byte - 0xE0))
  else if byte = 0xF0 then ([], .inside 3 0x90 0xBF 0)
  else if byte < 0xF4 then ([], .inside 3 0x80 0xBF (byte - 0xF0))
  else if byte = 0xF4 then ([], .inside 3 0x80 0x8F 4)
  else ([replacement], .between)

/-- One byte: the characters it completes and where reading stands after it.
A byte that cannot go on with the character under way ends that character as
ill-formed and begins the next one itself. -/
def step : State → Nat → List Char × State
  | .between, byte => begin byte
  | .inside missing low high value, byte =>
    if low ≤ byte ∧ byte ≤ high then
      if missing ≤ 1 then ([Char.ofNat (value * 64 + (byte - 0x80))], .between)
      else ([], .inside (missing - 1) 0x80 0xBF (value * 64 + (byte - 0x80)))
    else
      (replacement :: (begin byte).1, (begin byte).2)

/-- What the end of the bytes yields: a character cut short is ill-formed. -/
def State.close : State → List Char
  | .between => []
  | .inside .. => [replacement]

/-- The characters read, last one first, after `done` have been read and the
rest of the bytes is still to come. -/
def decodeFrom (state : State) (done : List Char) : Bytes → List Char
  | [] => state.close ++ done
  | byte :: rest =>
    decodeFrom (step state byte.toNat).2 ((step state byte.toNat).1.reverse ++ done) rest

/-- The text of a byte string, ill-formed stretches replaced. -/
def decode (bytes : Bytes) : String :=
  String.ofList (decodeFrom .between [] bytes).reverse

end Blockwise.Text.Utf8
