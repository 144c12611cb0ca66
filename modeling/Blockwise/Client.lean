import Blockwise.Endpoint

/-!
# Clients

The client under test is known by what it does: how it reacts to a command, how
it answers requests, how many sockets it says it has open, and what it has
written to a file.  `Client σ` is any such behaviour over a state `σ` of its
own; it sees the time and everything that has been sent to it.

A `Line` is an endpoint with the client at its other end at a point in time.
Whatever is done on a line may fail, and the line goes on from where the
failure left it.
-/

namespace Blockwise

/-- What a client sees: the time and all that has been sent to it. -/
structure Observed where
  now : Nat
  received : List Outgoing

/-- What a client does on a command. -/
structure Reaction where
  /-- Whether it carries the command out. -/
  outcome : Except Failure Unit
  /-- How long it takes to acknowledge the command. -/
  delay : Nat
  /-- The datagrams that it sends, each with its delay from the command on. -/
  datagrams : List (Nat × Datagram)

/-- The behaviour of a client. -/
structure Client (σ : Type) where
  /-- Carries out a command. -/
  obey : Command → Observed → σ → Reaction × σ
  /-- Answers a request with datagrams, each with its delay. -/
  reply : Outgoing → Observed → σ → List (Nat × Datagram) × σ
  /-- Tells how many sockets are open. -/
  socketCount : Observed → σ → Except Failure Nat × σ
  /-- Tells which transport an open socket uses. -/
  socketTransport : Nat → σ → Except Failure Transport
  /-- What stands in a file. -/
  file : String → σ → Option Bytes

/-- Compares the file that a client wrote with the resource. -/
def Client.verifyFile {σ : Type} (behaviour : Client σ) (client : σ) (destination : String)
    (expected : Bytes) : Except Failure Unit :=
  match behaviour.file destination client with
  | none => .error .file
  | some written =>
    if written = expected then .ok ()
    else .error (.payloadMismatch expected.length written.length)

/-- An endpoint with the client at its other end at a point in time. -/
structure Line (σ : Type) where
  endpoint : Endpoint
  client : σ
  now : Nat

/-- What is done on a line: a result or a failure, and the line after it. -/
abbrev OnLine (σ : Type) := ExceptT Failure (StateM (Line σ))

namespace Line

variable {σ : Type}

/-- What the client sees. -/
def observed (line : Line σ) : Observed := ⟨line.now, line.endpoint.socket.sent⟩

/-- The line with datagrams on their way to the endpoint, each with its delay
from a point in time. -/
def deliver (line : Line σ) (since : Nat) (datagrams : List (Nat × Datagram)) : Line σ :=
  { line with endpoint := { line.endpoint with
      socket := line.endpoint.socket.deliverAll since datagrams } }

/-- An operation of the endpoint that begins now. -/
def wait {α : Type} (operation : Endpoint → Nat → Waited α) : OnLine σ α := fun line =>
  let waited := operation line.endpoint line.now
  (waited.result, { line with endpoint := waited.endpoint, now := waited.time })

/-- Accepts a sender within a limit. -/
def accept (limit : Nat) : OnLine σ Peer :=
  wait fun endpoint now => endpoint.accept now (some limit)

/-- Receives a message within a limit. -/
def receive (limit : Nat) : OnLine σ Message :=
  wait fun endpoint now => endpoint.receive now (some limit)

/-- The peer of the endpoint. -/
def remote : OnLine σ Peer := fun line => (line.endpoint.remote, line)

/-- Resets the endpoint. -/
def reset : OnLine σ Unit := fun line => (.ok (), { line with endpoint := line.endpoint.reset })

/-- Gives the client a command and waits until it acknowledges it. -/
def command (behaviour : Client σ) (command : Command) : OnLine σ Unit := fun line =>
  let (reaction, client) := behaviour.obey command line.observed line.client
  let line := { line with client }.deliver line.now reaction.datagrams
  (reaction.outcome, { line with now := line.now + reaction.delay })

/-- Asks the peer and waits for its response. -/
def request (behaviour : Client σ) (request : Message) (token : Bytes) (limit : Nat) :
    OnLine σ Message := fun line =>
  match line.endpoint.ask request token with
  | (.error failure, endpoint) => (.error failure, { line with endpoint })
  | (.ok request, endpoint) =>
    let line := { line with endpoint }
    match endpoint.peer with
    | none => (.error .notConnected, line)
    | some peer =>
      let (datagrams, client) :=
        behaviour.reply ⟨peer.address, request⟩ line.observed line.client
      let line := { line with client }.deliver line.now datagrams
      wait (fun endpoint now => endpoint.awaitResponse now limit request) line

end Line
end Blockwise
