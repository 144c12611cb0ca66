import Blockwise.Security
import Blockwise.Socket

/-!
# Endpoints: one socket, one peer

Datagrams know no connections, so an endpoint makes one up.  To accept is to
take the sender of the first readable datagram as the peer; that message is the
next one to be received.  From then on only the peer is heard and spoken to,
until the connection is reset or another sender is accepted.  A reset forgets
the peer and what is queued, but not what waits in the socket.

Operations that wait get the time at which they begin and give the time at
which they end.
-/

namespace Blockwise

/-- One end of the network with the peer it talks to. -/
structure Endpoint where
  socket : Socket
  security : Security
  peer : Option Peer
  /-- Messages from the peer that have been read but not received, in order. -/
  pending : List Message
  /-- The next message id to be made up. -/
  nextId : UInt16
  deriving DecidableEq

/-- An operation that has ended: its result, the endpoint after it, and when. -/
structure Waited (α : Type) where
  result : Except Failure α
  endpoint : Endpoint
  time : Nat

namespace Endpoint

/-- An endpoint without a peer. -/
def bind (address : SocketAddress) (security : Security) (firstId : UInt16) : Endpoint :=
  { socket := Socket.bind address, security, peer := none, pending := [], nextId := firstId }

/-! ## State -/

/-- Whether there is a peer. -/
def isConnected (endpoint : Endpoint) : Bool := endpoint.peer.isSome

/-- The peer. -/
def remote (endpoint : Endpoint) : Except Failure Peer :=
  match endpoint.peer with
  | some peer => .ok peer
  | none => .error .notConnected

/-- Forgets the peer and the messages queued from it. -/
def reset (endpoint : Endpoint) : Endpoint := { endpoint with peer := none, pending := [] }

/-- Makes up a message id. -/
def takeId (endpoint : Endpoint) : UInt16 × Endpoint :=
  (endpoint.nextId, { endpoint with nextId := endpoint.nextId + 1 })

/-- The failure of a wait that nothing came of. -/
def expired (limit : Option Nat) (awaited : Awaited) : Failure :=
  match limit with
  | some _ => .timeout awaited
  | none => .endless awaited

/-! ## Accepting and receiving -/

/-- Every readable datagram will do. -/
def judgeAny (datagram : Datagram) : Socket.Verdict (Message × Peer) :=
  match datagram.message with
  | .ok message => .take (message, Peer.ofAddress datagram.source)
  | .error _ => .pass

/-- Only readable datagrams from the peer's address will do. -/
def judgePeer (peer : Peer) (datagram : Datagram) : Socket.Verdict Message :=
  match datagram.message with
  | .ok message => if datagram.source = peer.address then .take message else .pass
  | .error _ => .pass

/-- Waits for a readable datagram from anywhere and takes its sender as the
peer.  Its message is queued. -/
def accept (endpoint : Endpoint) (now : Nat) (limit : Option Nat) : Waited Peer :=
  let socket := endpoint.socket
  let reading := Socket.read judgeAny (limit.map (now + ·)) now socket.arrivals
  let endpoint := { endpoint with socket := { socket with arrivals := reading.unread } }
  match reading.taken with
  | some (message, peer) =>
    { result := .ok peer
      endpoint := { endpoint with peer := some peer, pending := endpoint.pending ++ [message] }
      time := reading.time }
  | none =>
    { result := .error (expired limit (.connection socket.address)), endpoint
      time := reading.time }

/-- The next message from the peer: the first one queued, else the next one to
come. -/
def receive (endpoint : Endpoint) (now : Nat) (limit : Option Nat) : Waited Message :=
  match endpoint.pending with
  | message :: pending =>
    { result := .ok message, endpoint := { endpoint with pending }, time := now }
  | [] =>
    match endpoint.peer with
    | none => { result := .error .notConnected, endpoint, time := now }
    | some peer =>
      let socket := endpoint.socket
      let reading := Socket.read (judgePeer peer) (limit.map (now + ·)) now socket.arrivals
      let endpoint := { endpoint with socket := { socket with arrivals := reading.unread } }
      match reading.taken with
      | some message => { result := .ok message, endpoint, time := reading.time }
      | none => { result := .error (expired limit (.message peer)), endpoint, time := reading.time }

/-- How many messages and datagrams are still to be received. -/
def waiting (endpoint : Endpoint) : Nat :=
  endpoint.pending.length + endpoint.socket.arrivals.length

/-- What has been received is no longer waiting. -/
theorem waiting_of_receive {endpoint : Endpoint} {now : Nat} {limit : Option Nat}
    {message : Message} (h : (endpoint.receive now limit).result = .ok message) :
    (endpoint.receive now limit).endpoint.waiting < endpoint.waiting := by
  cases hpending : endpoint.pending with
  | cons message pending => simp [receive, waiting, hpending]
  | nil =>
    cases hpeer : endpoint.peer with
    | none => simp [receive, hpending, hpeer] at h
    | some peer =>
      simp only [receive, hpending, hpeer] at h ⊢
      cases htaken : (Socket.read (judgePeer peer) (limit.map (now + ·)) now
          endpoint.socket.arrivals).taken with
      | none => simp [htaken] at h
      | some taken =>
        have := Socket.length_unread_lt htaken
        simpa [htaken, waiting, hpending] using this

/-- The next request from the peer, each message within the limit; what is not a
request is passed over. -/
def receiveRequest (endpoint : Endpoint) (now limit : Nat) : Waited Message :=
  match _received : (endpoint.receive now (some limit)).result with
  | .error _ => endpoint.receive now (some limit)
  | .ok message =>
    if message.isRequest then endpoint.receive now (some limit)
    else
      (endpoint.receive now (some limit)).endpoint.receiveRequest
        (endpoint.receive now (some limit)).time limit
termination_by endpoint.waiting
decreasing_by exact waiting_of_receive _received

/-- A datagram as it meets the endpoint: its message if it is to be served, with
its sender as the peer if there was none. -/
def hear (endpoint : Endpoint) (datagram : Datagram) : Option (Message × Endpoint) :=
  match datagram.message, endpoint.peer with
  | .error _, _ => none
  | .ok message, none =>
    some (message, { endpoint with peer := some (Peer.ofAddress datagram.source) })
  | .ok message, some peer =>
    if datagram.source = peer.address then some (message, endpoint) else none

/-! ## Sending -/

/-- Sends a message to the peer as it is. -/
def sendMessage (endpoint : Endpoint) (message : Message) : Except Failure Endpoint :=
  match endpoint.peer with
  | none => .error .notConnected
  | some peer =>
    match endpoint.socket.send peer.address message with
    | .ok socket => .ok { endpoint with socket }
    | .error fault => .error (.socket fault)

/-- Fits a response to its request: an acknowledgement with the request's id for
a confirmable request, non-confirmable with a made-up id otherwise, and with
the request's token. -/
def correlate (endpoint : Endpoint) (request response : Message) : Message × Endpoint :=
  let fitted := { response with
    kind := (Message.responseTo request response.code).kind
    token := request.token }
  if fitted.kind = .acknowledgement then ({ fitted with id := request.id }, endpoint)
  else
    let (id, endpoint) := endpoint.takeId
    ({ fitted with id }, endpoint)

/-- Sends a response as the answer to a request.  A made-up id is used up even
if nothing can be sent. -/
def reply (endpoint : Endpoint) (request response : Message) :
    Except Failure Unit × Endpoint :=
  let (response, endpoint) := endpoint.correlate request response
  match endpoint.sendMessage response with
  | .ok endpoint => (.ok (), endpoint)
  | .error failure => (.error failure, endpoint)

/-! ## Requests to the peer -/

/-- Sends a request to the peer, confirmable, with a made-up id and, unless it
has one, the given token.  Gives the request as it was sent. -/
def ask (endpoint : Endpoint) (request : Message) (token : Bytes) :
    Except Failure Message × Endpoint :=
  if endpoint.isConnected then
    let (id, endpoint) := endpoint.takeId
    let request := { request with
      kind := .confirmable
      id
      token := if request.token.isEmpty then token else request.token }
    match endpoint.sendMessage request with
    | .ok endpoint => (.ok request, endpoint)
    | .error failure => (.error failure, endpoint)
  else (.error .notConnected, endpoint)

/-- What a message from the peer is to a request: the response, an empty
acknowledgement behind which the response follows, or something else that is
kept. -/
def judgeResponse (peer : Peer) (request : Message) (datagram : Datagram) :
    Socket.Verdict Message :=
  match judgePeer peer datagram with
  | .take message =>
    if message.token = request.token ∧ message.code.isResponse then .take message
    else if message.kind = .acknowledgement ∧ message.id = request.id ∧ message.code.isEmpty then
      .pass
    else .keep message
  | _ => .pass

/-- Waits for the response to a request that was sent; other messages from the
peer are queued. -/
def awaitResponse (endpoint : Endpoint) (now limit : Nat) (request : Message) : Waited Message :=
  match endpoint.peer with
  | none => { result := .error .notConnected, endpoint, time := now }
  | some peer =>
    let socket := endpoint.socket
    let reading :=
      Socket.read (judgeResponse peer request) (some (now + limit)) now socket.arrivals
    let endpoint := { endpoint with
      socket := { socket with arrivals := reading.unread }
      pending := endpoint.pending ++ reading.kept }
    match reading.taken with
    | some message => { result := .ok message, endpoint, time := reading.time }
    | none =>
      { result := .error (.timeout (.response request)), endpoint, time := reading.time }

end Endpoint
end Blockwise
