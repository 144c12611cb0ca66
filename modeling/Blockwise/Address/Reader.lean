import Blockwise.Address

/-!
# Reading network addresses

A reader takes what it understands from the front of a list of characters and
gives back the rest.  Decimal bytes of an IPv4 address have at most three
digits and no leading zero; groups of an IPv6 address have at most four
hexadecimal digits, and a double colon stands for at least one group of zeros.
-/

namespace Blockwise

/-- What is read from the front of a text, with the rest. -/
abbrev Reader (α : Type) := List Char → Option (α × List Char)

namespace Reader

/-! ## Numbers -/

/-- The value of a character as a digit below `radix`. -/
def digit? (radix : Nat) (c : Char) : Option Nat :=
  let value :=
    if '0' ≤ c ∧ c ≤ '9' then some (c.toNat - '0'.toNat)
    else if 'a' ≤ c ∧ c ≤ 'z' then some (c.toNat - 'a'.toNat + 10)
    else if 'A' ≤ c ∧ c ≤ 'Z' then some (c.toNat - 'A'.toNat + 10)
    else none
  value.filter (· < radix)

/-- The digits at the front of a text, and the rest. -/
def digits (radix : Nat) : List Char → List Nat × List Char
  | [] => ([], [])
  | c :: rest =>
    match digit? radix c with
    | some value => (value :: (digits radix rest).1, (digits radix rest).2)
    | none => ([], c :: rest)

/-- A number of at least one digit that is at most `limit`.  `width` bounds the
number of digits if given, and leading zeros may be refused. -/
def number (radix : Nat) (width : Option Nat) (leadingZeros : Bool) (limit : Nat) :
    Reader Nat := fun text =>
  let (read, rest) := digits radix text
  let value := read.foldl (fun value digit => value * radix + digit) 0
  if read.isEmpty then none
  else if width.any (· < read.length) then none
  else if !leadingZeros && read.head? = some 0 && 1 < read.length then none
  else if limit < value then none
  else some (value, rest)

/-- A given character. -/
def character (expected : Char) : Reader Unit
  | [] => none
  | c :: rest => if c = expected then some ((), rest) else none

/-- The reader behind a separator, which only the first of a series lacks. -/
def separated {α : Type} (separator : Char) (first : Bool) (reader : Reader α) : Reader α :=
  fun text =>
    if first then reader text
    else do
      let ((), rest) ← character separator text
      reader rest

/-! ## IP addresses -/

/-- A byte of an IPv4 address. -/
def octet : Reader UInt8 := fun text => do
  let (value, rest) ← number 10 (some 3) false 255 text
  return (UInt8.ofNat value, rest)

/-- An IPv4 address, as its four bytes. -/
def ipv4 : Reader (UInt8 × UInt8 × UInt8 × UInt8) := fun text => do
  let (a, text) ← octet text
  let (b, text) ← separated '.' false octet text
  let (c, text) ← separated '.' false octet text
  let (d, text) ← separated '.' false octet text
  return ((a, b, c, d), text)

/-- One group of an IPv6 address. -/
def group : Reader UInt16 := fun text => do
  let (value, rest) ← number 16 (some 4) true 65535 text
  return (UInt16.ofNat value, rest)

/-- Groups that have been read, whether the last two were written as an IPv4
address, and the rest of the text. -/
structure Groups where
  groups : List UInt16
  endsInV4 : Bool
  rest : List Char

/-- As many groups as there are, up to `room`.  An IPv4 address counts for two
groups and ends the series. -/
def groups (first : Bool) (room : Nat) (text : List Char) : Groups :=
  match room with
  | 0 => ⟨[], false, text⟩
  | room + 1 =>
    match if 0 < room then separated ':' first ipv4 text else none with
    | some ((a, b, c, d), rest) =>
      ⟨[UInt16.ofNat (a.toNat * 256 + b.toNat), UInt16.ofNat (c.toNat * 256 + d.toNat)],
        true, rest⟩
    | none =>
      match separated ':' first group text with
      | some (value, rest) =>
        let behind := groups false room rest
        ⟨value :: behind.groups, behind.endsInV4, behind.rest⟩
      | none => ⟨[], false, text⟩

/-- Eight groups with the given front and back and zeros between them. -/
def fill (front back : List UInt16) : Vector UInt16 8 :=
  let all := front ++ List.replicate (8 - front.length - back.length) 0 ++ back
  Vector.ofFn fun place => all.getD place.val 0

/-- An IPv6 address, as its eight groups. -/
def ipv6 : Reader (Vector UInt16 8) := fun text =>
  let front := groups true 8 text
  if front.groups.length = 8 then some (fill front.groups [], front.rest)
  else if front.endsInV4 then none
  else do
    let ((), rest) ← character ':' front.rest
    let ((), rest) ← character ':' rest
    let back := groups true (7 - front.groups.length) rest
    return (fill front.groups back.groups, back.rest)

/-! ## Socket addresses -/

/-- A colon and a port. -/
def port : Reader UInt16 := fun text => do
  let ((), rest) ← character ':' text
  let (value, rest) ← number 10 none true 65535 rest
  return (UInt16.ofNat value, rest)

/-- A percent sign and a scope, or nothing, which is scope zero. -/
def scope : Reader UInt32 := fun text =>
  let given := do
    let ((), rest) ← character '%' text
    number 10 none true 4294967295 rest
  match given with
  | some (value, rest) => some (UInt32.ofNat value, rest)
  | none => some (0, text)

/-- A socket address with an IPv4 address. -/
def socketV4 : Reader SocketAddress := fun text => do
  let ((a, b, c, d), rest) ← ipv4 text
  let (port, rest) ← port rest
  return (.v4 a b c d port, rest)

/-- A socket address with an IPv6 address in brackets. -/
def socketV6 : Reader SocketAddress := fun text => do
  let ((), rest) ← character '[' text
  let (groups, rest) ← ipv6 rest
  let (scope, rest) ← scope rest
  let ((), rest) ← character ']' rest
  let (port, rest) ← port rest
  return (.v6 groups port 0 scope, rest)

end Reader

/-- The socket address that a text is, if it is one from end to end. -/
def SocketAddress.ofText? (text : String) : Option SocketAddress :=
  match (Reader.socketV4 text.toList).or (Reader.socketV6 text.toList) with
  | some (address, []) => some address
  | _ => none

end Blockwise
