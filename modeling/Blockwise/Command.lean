import Blockwise.Text.Blank
import Blockwise.Text.Quoted

/-!
# Commands to the client

A client is driven by lines of words: download a URI into a file, reconnect,
go offline, come back, forget the server.  `Command.text` writes a line and
`Command.ofLine` reads one.  Nothing is quoted in a line, so it reads back as
the same command only when every part of it is a single word.
-/

namespace Blockwise

/-- The transport that a connection command names. -/
inductive Transport where
  | udp
  | tcp
  deriving DecidableEq, Repr

/-- A line that no client understands, or a word in it. -/
inductive CommandError where
  /-- The words of the line are no command. -/
  | malformed (line : String)
  /-- The word, in lower case, names no transport. -/
  | unknownTransport (word : String)
  deriving DecidableEq, Repr

/-- The text of a command error. -/
def CommandError.message : CommandError → String
  | .malformed line => s!"malformed command {Text.quote line}"
  | .unknownTransport word => s!"unknown transport {Text.quote word}"

namespace Transport

/-- The word for a transport. -/
def text : Transport → String
  | .udp => "udp"
  | .tcp => "tcp"

/-- A word with its ASCII letters in lower case. -/
def lowerCase (word : String) : String := String.ofList (word.toList.map Char.toLower)

/-- The transport that a word names, in any case of its letters. -/
def ofWord (word : String) : Except CommandError Transport :=
  if lowerCase word = "udp" then .ok .udp
  else if lowerCase word = "tcp" then .ok .tcp
  else .error (.unknownTransport (lowerCase word))

end Transport

/-- A command to the client. -/
inductive Command where
  /-- Download a URI into a file, with the credentials of a pre-shared key if
  there are any. -/
  | download (uri destination : String) (credentials : Option (String × String))
  /-- Come back from a new port. -/
  | reconnect (transport : Transport)
  /-- Be silent. -/
  | enterOffline (transport : Transport)
  /-- Come back after the silence. -/
  | exitOffline (transport : Transport)
  /-- Forget the server. -/
  | removeServer
  deriving DecidableEq, Repr

namespace Command

/-- The line of a command. -/
def text : Command → String
  | .download uri destination none => s!"download {uri} {destination}"
  | .download uri destination (some (identity, key)) =>
    s!"download {uri} {destination} {identity} {key}"
  | .reconnect transport => s!"reconnect {transport.text}"
  | .enterOffline transport => s!"enter-offline {transport.text}"
  | .exitOffline transport => s!"exit-offline {transport.text}"
  | .removeServer => "remove-server"

/-- The command that a list of words is; `line` is the line they come from. -/
def ofWords (line : String) : List String → Except CommandError Command
  | ["download", uri, destination] => .ok (.download uri destination none)
  | ["download", uri, destination, identity, key] =>
    .ok (.download uri destination (some (identity, key)))
  | ["reconnect", word] => (Transport.ofWord word).map .reconnect
  | ["enter-offline", word] => (Transport.ofWord word).map .enterOffline
  | ["exit-offline", word] => (Transport.ofWord word).map .exitOffline
  | ["remove-server"] => .ok .removeServer
  | _ => .error (.malformed line)

/-- The command of a line. -/
def ofLine (line : String) : Except CommandError Command := ofWords line (Text.words line)

end Command
end Blockwise
