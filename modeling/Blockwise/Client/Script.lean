import Blockwise.Client

/-!
# Clients that follow a script

A scripted client does on each command what its script says next, answers the
requests that reach it from prepared replies, reports prepared socket counts,
and may write the download it has collected to the destination it was told.
When the script has nothing left it does nothing, and the last socket count
stays.  It keeps a log of its commands.

* `Script.client` is the behaviour, for every entry point of `Client`.
* `Script.collect` puts the payloads of the responses together.
-/

namespace Blockwise

/-! ## The parts of a script -/

/-- One reaction to a command: what is sent, and what is reported if the command
is not carried out. -/
structure ScriptedReaction where
  datagrams : List Datagram
  fault : Option String
  deriving DecidableEq, Repr

/-- What a prepared reply consists of. -/
inductive PreparedReply where
  /-- These very bytes. -/
  | verbatim (bytes : Bytes)
  /-- A message, with the id or the token of the request if so marked. -/
  | fitted (message : Message) (requestId requestToken : Bool)
  deriving DecidableEq

/-- A reply and where it comes from; from where the request went if that is left
open. -/
structure ScriptedReply where
  source : Option SocketAddress
  content : PreparedReply
  deriving DecidableEq

/-- What becomes of a collected download when it is written. -/
inductive Spoiling where
  /-- It is written as it is. -/
  | intact
  /-- The last byte is missing. -/
  | truncated
  /-- A zero byte follows. -/
  | extended
  /-- The lowest bit of the last byte is the other one. -/
  | flipped
  /-- Nothing of it is written. -/
  | emptied
  deriving DecidableEq, Repr

/-- The bytes that are written of a download. -/
def Spoiling.apply : Spoiling → Bytes → Bytes
  | .intact, bytes => bytes
  | .truncated, bytes => bytes.dropLast
  | .extended, bytes => bytes ++ [0]
  | .flipped, bytes => bytes.dropLast ++ (bytes.getLast?.map (· ^^^ 1)).toList
  | .emptied, _ => []

/-- The bytes of a reply to a request; nothing if they have no wire form. -/
def PreparedReply.toBytes? (request : Message) : PreparedReply → Option Bytes
  | .verbatim bytes => some bytes
  | .fitted message requestId requestToken =>
    Except.toOption <| Message.encode { message with
      id := if requestId then request.id else message.id
      token := if requestToken then request.token else message.token }

/-- A scripted client: what it will do, and what it has done. -/
structure Script where
  /-- What it will do on the commands to come. -/
  reactions : List ScriptedReaction
  /-- The socket counts that it will report; the last one stays. -/
  counts : List (Except String Nat)
  /-- The words for the transports of its sockets. -/
  transports : List String
  /-- What it will reply to the requests to come. -/
  replies : List (List ScriptedReply)
  /-- How it writes downloads, if it does. -/
  writes : Option Spoiling
  /-- The commands so far, first one first. -/
  commands : List Command
  /-- Where the last download goes. -/
  destination : Option String
  /-- The files that it has written, the latest first. -/
  files : List (String × Bytes)
  /-- How many datagrams it has sent. -/
  sendCount : Nat

namespace Script

/-- The script of a client that does nothing. -/
def idle : Script :=
  { reactions := [], counts := [], transports := [], replies := [], writes := none
    commands := [], destination := none, files := [], sendCount := 0 }

/-! ## Commands -/

/-- The destination after a command. -/
def destinationAfter (script : Script) : Command → Option String
  | .download _ destination _ => some destination
  | _ => script.destination

/-- Does what the script says next, at once. -/
def obey (command : Command) (script : Script) : Reaction × Script :=
  let script := { script with
    commands := script.commands ++ [command]
    destination := script.destinationAfter command }
  match script.reactions with
  | [] => ({ outcome := .ok (), delay := 0, datagrams := [] }, script)
  | next :: reactions =>
    ({ outcome := match next.fault with
        | none => .ok ()
        | some fault => .error (.client (.report fault))
       delay := 0
       datagrams := next.datagrams.map fun datagram => (0, datagram) },
     { script with reactions, sendCount := script.sendCount + next.datagrams.length })

/-! ## Requests -/

/-- Replies to a request at once with what the script has next.  Other messages
get no reply and use none up. -/
def reply (outgoing : Outgoing) (script : Script) : List (Nat × Datagram) × Script :=
  if outgoing.message.isRequest then
    match script.replies with
    | [] => ([], script)
    | next :: replies =>
      let datagrams := next.filterMap fun reply =>
        (reply.content.toBytes? outgoing.message).map fun bytes =>
          (0, { source := reply.source.getD outgoing.destination, bytes : Datagram })
      (datagrams, { script with replies, sendCount := script.sendCount + datagrams.length })
  else ([], script)

/-! ## Files -/

/-- The payloads of responses by the number of their block, a later one in the
place of an earlier one and a response without a block counting as block 0. -/
def collectBlocks (received : List Outgoing) : List (Nat × Bytes) :=
  received.foldl (fun blocks outgoing =>
    if outgoing.message.code.isResponse then
      let number := match outgoing.message.block with
        | .ok (some block) => block.number.val
        | _ => 0
      (number, outgoing.message.payload) :: blocks.filter (·.1 ≠ number)
    else blocks) []

/-- The payloads of responses, one for each block, in the order of the
blocks. -/
def collect (received : List Outgoing) : Bytes :=
  ((collectBlocks received).mergeSort (fun a b => a.1 ≤ b.1)).flatMap (·.2)

/-- The script with a file written. -/
def write (script : Script) (name : String) (bytes : Bytes) : Script :=
  { script with files := (name, bytes) :: script.files }

/-- What stands in a file. -/
def file (name : String) (script : Script) : Option Bytes := script.files.lookup name

/-- Writes the download as far as it has been received, if there is one and the
script writes downloads. -/
def writeDownload (received : List Outgoing) (script : Script) : Script :=
  match script.writes, script.destination with
  | some spoiling, some destination =>
    script.write destination (spoiling.apply (collect received))
  | _, _ => script

/-! ## Sockets -/

/-- Takes the next socket count.  None at all count as zero. -/
def nextCount (script : Script) : Except Failure Nat × Script :=
  match script.counts with
  | [] => (.ok 0, script)
  | count :: counts =>
    (count.mapError fun fault => .client (.report fault),
      if counts.isEmpty then script else { script with counts })

/-- The transport of a socket, by its place. -/
def socketTransport (place : Nat) (script : Script) : Except Failure Transport :=
  match script.transports[place]? with
  | none => .error (.client (.report s!"no socket at index {place}"))
  | some word => (Transport.ofWord word).mapError fun error => .client (.command error)

/-! ## The client -/

/-- The behaviour of every scripted client. -/
def client : Client Script where
  obey := fun command _ script => script.obey command
  reply := fun outgoing _ script => script.reply outgoing
  socketCount := fun observed script => (script.writeDownload observed.received).nextCount
  socketTransport := socketTransport
  file := file

end Script
end Blockwise
