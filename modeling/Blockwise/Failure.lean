import Blockwise.Address.Text
import Blockwise.Command
import Blockwise.Message.Wire
import Blockwise.Store
import Blockwise.Transfer.Mismatch

/-!
# Failures

What ends a download case.  A failure is a cause; `Failure.message` gives its
text, except where the text would be the operating system's.
-/

namespace Blockwise

/-- What a wait that ran out was for. -/
inductive Awaited where
  /-- A first datagram at an address. -/
  | connection (address : SocketAddress)
  /-- A message from the peer. -/
  | message (peer : Peer)
  /-- The response to a request. -/
  | response (request : Message)
  /-- The client's report of so many open sockets. -/
  | socketCount (count : Nat)
  /-- The first request of a download. -/
  | firstRequest
  /-- Something named in words. -/
  | event (name : String)
  deriving DecidableEq

/-- The text of what is awaited. -/
def Awaited.text : Awaited → String
  | .connection address => s!"a connection on {address.text}"
  | .message peer => s!"a message from {peer.text}"
  | .response request => s!"response to {request.text}"
  | .socketCount count => s!"client socket count {count}"
  | .firstRequest => "first download request"
  | .event name => name

/-- Traffic where there should be none. -/
inductive StrayTraffic where
  /-- A datagram during the offline window. -/
  | whileOffline (peer : Peer)
  /-- Something described in words. -/
  | note (text : String)
  deriving DecidableEq, Repr

/-- The text of stray traffic. -/
def StrayTraffic.text : StrayTraffic → String
  | .whileOffline peer => s!"{peer.text} sent data while offline"
  | .note text => text

/-- What the client did wrong or reported. -/
inductive ClientFault where
  /-- A command that could not be read. -/
  | command (error : CommandError)
  /-- A control request answered with an error. -/
  | controlRound (round : Nat) (code : Code)
  /-- A download over another transport than UDP. -/
  | downloadTransport (transport : Transport)
  /-- Something that the client reported in words. -/
  | report (text : String)
  deriving DecidableEq, Repr

/-- The text of a client fault. -/
def ClientFault.text : ClientFault → String
  | .command error => error.message
  | .controlRound round code => s!"control round {round} answered with {code.text}"
  | .downloadTransport transport => s!"download socket uses {transport.text}, expected udp"
  | .report text => text

/-- What went wrong with the serving loop itself. -/
inductive LoopFault where
  /-- The loop has stopped. -/
  | stopped
  /-- Something described in words. -/
  | note (text : String)
  deriving DecidableEq, Repr

/-- The text of a loop fault. -/
def LoopFault.text : LoopFault → String
  | .stopped => "serving loop has stopped"
  | .note text => text

/-- Why a socket could not be used. -/
inductive SocketFault where
  /-- A message that has no wire form. -/
  | message (error : MessageError)
  /-- The operating system refused. -/
  | refused
  deriving DecidableEq, Repr

/-- What ends a download case. -/
inductive Failure where
  /-- A request or a whole transfer broke the rules of block-wise transfer. -/
  | mismatch (reason : Mismatch)
  /-- What was awaited did not come in time. -/
  | timeout (awaited : Awaited)
  /-- Traffic came where there should be none. -/
  | unexpectedTraffic (traffic : StrayTraffic)
  /-- The peer came back from the same port. -/
  | unchangedRemote (peer : Peer)
  /-- The file written differs from the resource. -/
  | payloadMismatch (expected actual : Nat)
  /-- There is no peer. -/
  | notConnected
  /-- The client failed. -/
  | client (fault : ClientFault)
  /-- The serving loop failed. -/
  | serverTask (fault : LoopFault)
  /-- A socket failed. -/
  | socket (fault : SocketFault)
  /-- A message could not be written or read. -/
  | message (error : MessageError)
  /-- A block could not be built or read. -/
  | block (error : BlockError)
  /-- The store has no such resource. -/
  | store (error : StoreError)
  /-- A file could not be read. -/
  | file
  /-- A wait without a limit for something that never comes. -/
  | endless (awaited : Awaited)
  deriving DecidableEq

namespace Failure

/-- Whether a wait ran out. -/
def isTimeout : Failure → Bool
  | .timeout _ => true
  | _ => false

/-- The text of a failure; nothing where the operating system has the word. -/
def message? : Failure → Option String
  | .mismatch reason => some s!"protocol mismatch: {reason.message}"
  | .timeout awaited => some s!"timed out waiting for {awaited.text}"
  | .unexpectedTraffic traffic => some s!"unexpected traffic: {traffic.text}"
  | .unchangedRemote peer => some s!"remote endpoint did not rebind: still {peer.text}"
  | .payloadMismatch expected actual =>
    some s!"downloaded payload differs: expected {expected} bytes, got {actual}"
  | .notConnected => some "endpoint has no connected peer"
  | .client fault => some s!"client control: {fault.text}"
  | .serverTask fault => some s!"file server task: {fault.text}"
  | .socket (.message error) => some s!"message codec error: {error.message}"
  | .socket .refused => none
  | .message error => some error.message
  | .block error => some error.message
  | .store error => some error.message
  | .file => none
  | .endless awaited => some s!"waiting without end for {awaited.text}"

end Failure
end Blockwise
