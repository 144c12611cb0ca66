/-!
# Message types and codes

A message is confirmable, non-confirmable, an acknowledgement or a reset.  Its
code is one byte of a three-bit class and a five-bit detail: class 0 with a
detail is a request, classes 2 to 5 are responses, and 0.00 is empty.
-/

namespace Blockwise

/-- The type of a message. -/
inductive MessageKind where
  | confirmable
  | nonConfirmable
  | acknowledgement
  | reset
  deriving DecidableEq, Repr

namespace MessageKind

/-- The two bits that stand for a type in the header. -/
def bits : MessageKind → Nat
  | .confirmable => 0
  | .nonConfirmable => 1
  | .acknowledgement => 2
  | .reset => 3

/-- The type that the two lowest bits of a number stand for. -/
def ofBits (number : Nat) : MessageKind :=
  match number % 4 with
  | 0 => .confirmable
  | 1 => .nonConfirmable
  | 2 => .acknowledgement
  | _ => .reset

/-- The name of a type. -/
def name : MessageKind → String
  | .confirmable => "Confirmable"
  | .nonConfirmable => "NonConfirmable"
  | .acknowledgement => "Acknowledgement"
  | .reset => "Reset"

end MessageKind

/-- A method or response code. -/
structure Code where
  byte : UInt8
  deriving DecidableEq, Repr

namespace Code

/-- The code of a class and a detail, each cut to its bits. -/
def ofParts (classNumber detail : Nat) : Code :=
  ⟨UInt8.ofNat (classNumber % 8 * 32 + detail % 32)⟩

/-- The class, from 0 to 7. -/
def classNumber (code : Code) : Nat := code.byte.toNat / 32

/-- The detail, from 0 to 31. -/
def detail (code : Code) : Nat := code.byte.toNat % 32

/-- The code 0.00 of a message that is neither request nor response. -/
def empty : Code := ofParts 0 0

/-- The request to read a resource, 0.01. -/
def get : Code := ofParts 0 1

/-- The request to process a payload, 0.02. -/
def post : Code := ofParts 0 2

/-- The answer that carries content, 2.05. -/
def content : Code := ofParts 2 5

/-- The answer where there is no such resource, 4.04. -/
def notFound : Code := ofParts 4 4

/-- The answer to a method that is not served, 4.05. -/
def methodNotAllowed : Code := ofParts 4 5

/-- The code 0.00. -/
def isEmpty (code : Code) : Bool := code.byte = 0

/-- Class 0 with a detail. -/
def isRequest (code : Code) : Bool := code.classNumber = 0 && code.detail ≠ 0

/-- Classes 2 to 5. -/
def isResponse (code : Code) : Bool := 2 ≤ code.classNumber && code.classNumber ≤ 5

/-- The class, a point, and the detail in two digits. -/
def text (code : Code) : String :=
  s!"{code.classNumber}.{code.detail / 10}{code.detail % 10}"

end Code
end Blockwise
