import Blockwise.Endpoint
import Blockwise.Gate
import Blockwise.Settings
import Blockwise.Transfer

/-!
# Serving requests

A server answers the requests of its endpoint's peer from a store, one transfer
for each path.  A confirmable request that repeats the id and token of the last
one answered gets the same answer again; every other request is recorded, may
be ignored by the gate, and is answered with the next block, with 4.04 where
the store has nothing, or with 4.05 if it does not ask to read.  A request that
does not fit its transfer stops the server.
-/

namespace Blockwise

/-- What a server has done. -/
structure Stats where
  /-- Requests seen. -/
  received : Nat
  /-- Requests that the gate ignored. -/
  dropped : Nat
  /-- Repeated requests that got the same answer again. -/
  duplicates : Nat
  /-- Blocks sent. -/
  answered : Nat
  /-- Transfers that reached their last block. -/
  completed : Nat
  deriving DecidableEq, Repr

/-- Nothing done yet. -/
def Stats.zero : Stats := ⟨0, 0, 0, 0, 0⟩

/-- The answer to a confirmable request, kept for when the request comes
again. -/
structure CachedAnswer where
  id : UInt16
  token : Bytes
  response : Message
  deriving DecidableEq

/-- Whether a message repeats the request that an answer was kept for. -/
def CachedAnswer.fits (answer : CachedAnswer) (request : Message) : Bool :=
  request.isConfirmable && request.id = answer.id && request.token = answer.token

/-- A file server. -/
structure Server where
  endpoint : Endpoint
  store : Store
  history : History
  gate : Gate
  blockSize : BlockSize
  /-- How long a peer may be silent before another one is accepted. -/
  idleTimeout : Nat
  /-- The transfers under way, at most one for each path. -/
  transfers : List Transfer
  /-- The answer to the last confirmable request. -/
  lastAnswer : Option CachedAnswer
  stats : Stats
  /-- Why the server has stopped, if it has. -/
  failure : Option Failure
  /-- When the peer was last heard or a command last came. -/
  wokeAt : Nat

namespace Server

/-- A fresh server at an endpoint, with an empty store. -/
def start (endpoint : Endpoint) (gate : Gate) (settings : Settings) : Except Failure Server :=
  match settings.validBlockSize with
  | .error error => .error (.block error)
  | .ok blockSize =>
    .ok {
      endpoint
      store := Store.empty endpoint.socket.address endpoint.security.scheme
      history := History.empty
      gate
      blockSize
      idleTimeout := settings.receiveTimeout
      transfers := []
      lastAnswer := none
      stats := Stats.zero
      failure := none
      wokeAt := 0 }

/-- Whether the server has stopped. -/
def isStopped (server : Server) : Bool := server.failure.isSome

/-- The server, stopped by a failure. -/
def stop (server : Server) (failure : Failure) : Server := { server with failure := some failure }

/-- The server with its stats changed. -/
def tally (server : Server) (change : Stats → Stats) : Server :=
  { server with stats := change server.stats }

/-! ## Transfers -/

/-- The transfer under way for a path. -/
def transfer? (server : Server) (path : String) : Option Transfer :=
  server.transfers.find? (·.path = path)

/-- The server without the transfer for a path. -/
def dropTransfer (server : Server) (path : String) : Server :=
  { server with transfers := server.transfers.filter (·.path ≠ path) }

/-- The server with a transfer in the place of the one for its path. -/
def keepTransfer (server : Server) (transfer : Transfer) : Server :=
  { server with transfers := transfer :: (server.dropTransfer transfer.path).transfers }

/-- The transfer that a request for a path belongs to: the one under way, else a
fresh one if the store has the resource. -/
def transferFor (server : Server) (path : String) : Except StoreError Transfer :=
  match server.transfer? path with
  | some transfer => .ok transfer
  | none => (server.store.get path).map fun payload => Transfer.begin path payload server.blockSize

/-! ## Answers -/

/-- Sends the answer to a request and keeps it if the request is
confirmable. -/
def answer (server : Server) (request response : Message) : Server :=
  let (response, endpoint) := server.endpoint.correlate request response
  match endpoint.sendMessage response with
  | .error failure => { server with endpoint }.stop failure
  | .ok endpoint =>
    { server with
      endpoint
      lastAnswer :=
        if request.isConfirmable then some ⟨request.id, request.token, response⟩
        else server.lastAnswer }

/-- Sends a kept answer again. -/
def repeatAnswer (server : Server) (answer : CachedAnswer) : Server :=
  match server.endpoint.sendMessage answer.response with
  | .error failure => server.stop failure
  | .ok endpoint =>
    { server with endpoint }.tally fun stats => { stats with duplicates := stats.duplicates + 1 }

/-- Counts a block that was sent and, with the last block, ends its transfer. -/
def countBlock (server : Server) (transfer : Transfer) : Server :=
  let server := server.tally fun stats => { stats with answered := stats.answered + 1 }
  if transfer.isComplete then
    (server.dropTransfer transfer.path).tally
      fun stats => { stats with completed := stats.completed + 1 }
  else server

/-- Answers a request within its transfer. -/
def serveBlock (server : Server) (transfer : Transfer) (request : Message) : Server :=
  let server := server.keepTransfer transfer
  match transfer.handle request with
  | .error mismatch => server.stop (.mismatch mismatch)
  | .ok (response, after) =>
    let server := (server.keepTransfer after).answer request response
    if server.isStopped then server else server.countBlock after

/-- Answers a request that the gate has let through. -/
def respond (server : Server) (request : Message) : Server :=
  if request.code ≠ .get then
    server.answer request (Message.responseTo request .methodNotAllowed)
  else
    match server.transferFor request.path with
    | .error _ => server.answer request (Message.responseTo request .notFound)
    | .ok transfer => server.serveBlock transfer request

/-- Records a request and, unless the gate ignores it, answers it. -/
def consider (server : Server) (request : Message) : Server :=
  let (prior, history) := server.history.arrive request.record
  let server := { server with history }
  if server.gate request prior then
    server.tally fun stats => { stats with dropped := stats.dropped + 1 }
  else server.respond request

/-- Serves one message from the peer.  What is not a request is passed over. -/
def serve (server : Server) (message : Message) : Server :=
  if message.isRequest then
    let server := server.tally fun stats => { stats with received := stats.received + 1 }
    match server.lastAnswer.filter (·.fits message) with
    | some answer => server.repeatAnswer answer
    | none => server.consider message
  else server

end Server
end Blockwise
