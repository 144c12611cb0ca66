import Blockwise.Block
import Blockwise.Message.Code
import Blockwise.Message.Options
import Blockwise.Path
import Blockwise.Text.Utf8

/-!
# Messages

A message has a type, a code, an id that pairs requests with acknowledgements,
a token that pairs requests with responses, options, and a payload.  The path
of a request lies in its Uri-Path options and the block that is meant in the
first BLOCK2 option.
-/

namespace Blockwise

/-- A message. -/
structure Message where
  kind : MessageKind
  code : Code
  id : UInt16
  token : Bytes
  options : Options
  payload : Bytes
  deriving DecidableEq

namespace Message

/-! ## Building messages -/

/-- A message without token, options and payload. -/
def bare (kind : MessageKind) (code : Code) (id : UInt16) : Message :=
  { kind, code, id, token := [], options := .empty, payload := [] }

/-- The message with its path replaced. -/
def withPath (message : Message) (path : String) : Message :=
  { message with options :=
      message.options.replace OptionField.uriPath ((Path.segments path).map Text.Utf8.encode) }

/-- The message with its BLOCK2 options replaced by one. -/
def withBlock (message : Message) (block : Block) : Message :=
  { message with options := message.options.replace OptionField.block2 [block.encode] }

/-- The confirmable request to read a path.  Id and token are left to the
sender. -/
def get (path : String) : Message := (bare .confirmable .get 0).withPath path

/-- An empty response to a request: an acknowledgement for a confirmable one,
non-confirmable otherwise, with the request's id and token. -/
def responseTo (request : Message) (code : Code) : Message :=
  { bare (if request.kind = .confirmable then .acknowledgement else .nonConfirmable) code
      request.id with token := request.token }

/-! ## Reading messages -/

/-- The path in the Uri-Path options.  A segment that is not UTF-8 is read with
replacements; it may be empty or hold slashes. -/
def path (message : Message) : String :=
  Path.ofSegments ((message.options.values OptionField.uriPath).map Text.Utf8.decode)

/-- The block in the first BLOCK2 option, if there is one. -/
def block (message : Message) : Except BlockError (Option Block) :=
  match message.options.values OptionField.block2 with
  | [] => .ok none
  | value :: _ => (Block.decode value).map some

/-- Whether the code is a request's. -/
def isRequest (message : Message) : Bool := message.code.isRequest

/-- Whether an acknowledgement is asked for. -/
def isConfirmable (message : Message) : Bool := message.kind = .confirmable

/-- One line about a message: type, code, id, path, the block if one can be
read, and the payload's length unless it is empty. -/
def text (message : Message) : String :=
  let head := s!"{message.kind.name} {message.code.text} mid={message.id.toNat} path={message.path}"
  let block := match message.block with
    | .ok (some block) => s!" block2={block.text}"
    | _ => ""
  let length := if message.payload.isEmpty then "" else s!" len={message.payload.length}"
  head ++ block ++ length

end Message
end Blockwise
