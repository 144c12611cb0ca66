import Blockwise.Controller
import Blockwise.Scenario.Scene

/-!
# The download cases

Seven cases judge a client that downloads a resource of 16 KiB.

* `Scenario.sockets`: one socket more is open during the download, over UDP.
* `Scenario.controlTraffic`: control requests are answered during the download.
* `Scenario.unrelatedRequests`: requests to the download socket do no harm.
* `Scenario.secureTransport`: the credentials come with the command.
* `Scenario.retransmissions`: block `n` is ignored `n % 4` times.
* `Scenario.reconnection`: the connection is reset half way.
* `Scenario.offline`: the client goes offline half way.

In the first five a file server runs by itself; the last two answer by hand.
What a case makes up at random comes from a `Chance`.
-/

namespace Blockwise

/-- What a case makes up at random. -/
structure Chance where
  /-- The resource. -/
  payload : Bytes
  /-- Tokens for requests to the client. -/
  tokens : Nat → Bytes
  /-- Message ids for requests to the client. -/
  ids : Nat → UInt16
  /-- The first message id that an endpoint makes up. -/
  firstId : UInt16

/-- How a case ended: its outcome, the client after it, and all that was sent to
the client. -/
structure Report (σ : Type) where
  outcome : Except Failure Unit
  client : σ
  sent : List Outgoing

namespace Scenario

variable {σ : Type}

/-- The length of the resource. -/
def payloadLength : Nat := 16 * 1024

/-- The identity of the pre-shared key. -/
def identity : Bytes := Text.Utf8.encode "Help"

/-- The pre-shared key. -/
def key : Bytes := Text.Utf8.encode "ImTrappedInAUniverseFactory"

/-! ## Cases with a file server -/

/-- Runs the body of a case against a file server.  The server is shut down
whatever the body comes to; the body's failure is reported before the server's. -/
def withServer (address : SocketAddress) (security : Security) (gate : Gate)
    (settings : Settings) (chance : Chance) (client : σ) (control : Option Endpoint)
    (body : InScene σ Unit) : Report σ × Except Failure Stats :=
  match Server.start (Endpoint.bind address security chance.firstId) gate settings with
  | .error failure => (⟨.error failure, client, []⟩, .error failure)
  | .ok server =>
    let (outcome, scene) := body { server, client, now := 0, settings, control }
    let stats := do
      outcome
      scene.settle.server.shutdown
    (⟨stats.map fun _ => (), scene.client, scene.settle.sent⟩, stats)

/-- The download opens exactly one more socket, over UDP, and closes it. -/
def sockets (behaviour : Client σ) (address : SocketAddress) (destination : String)
    (settings : Settings) (chance : Chance) (client : σ) : Report σ :=
  (withServer address .none Gate.answerAll settings chance client none do
    let baseline ← Scene.startDownload behaviour chance.payload destination none
    Scene.awaitSocketCount behaviour (baseline + 1) (settings.socketCountTimeout * 2)
    let transport ← ExceptT.mk (pure (behaviour.socketTransport baseline (← get).client))
    if transport ≠ .udp then throw (.client (.downloadTransport transport))
    Scene.awaitCompletion behaviour baseline
    Scene.verifyFile behaviour destination chance.payload).1

/-- Control requests keep being answered during a download. -/
def controlTraffic (behaviour : Client σ) (address : SocketAddress) (control : Endpoint)
    (destination : String) (settings : Settings) (chance : Chance) (client : σ) : Report σ :=
  (withServer address .none Gate.answerAll settings chance client (some control) do
    let baseline ← Scene.startDownload behaviour chance.payload destination none
    Scene.verifyControl behaviour chance.tokens
    Scene.awaitCompletion behaviour baseline
    Scene.verifyFile behaviour destination chance.payload).1

/-- The requests that have nothing to do with the download. -/
def strayRequests (chance : Chance) (count : Nat) : List Message :=
  (List.range count).map fun place =>
    { Message.get "/3/0/2" with token := chance.tokens place, id := chance.ids place }

/-- Requests to the client's download socket do not disturb the download. -/
def unrelatedRequests (behaviour : Client σ) (address : SocketAddress) (destination : String)
    (settings : Settings) (chance : Chance) (client : σ) : Report σ :=
  (withServer address .none Gate.answerAll settings chance client none do
    let baseline ← Scene.startDownload behaviour chance.payload destination none
    Scene.awaitSocketCount behaviour (baseline + 1) settings.socketCountTimeout
    Scene.awaitFirstRequest settings.receiveTimeout
    (strayRequests chance 10).forM Scene.sendToPeer
    Scene.awaitCompletion behaviour baseline
    Scene.verifyFile behaviour destination chance.payload).1

/-- The same download with a pre-shared key. -/
def secureTransport (behaviour : Client σ) (address : SocketAddress) (destination : String)
    (settings : Settings) (chance : Chance) (client : σ) : Report σ :=
  let security := Security.preSharedKey identity key
  (withServer address security Gate.answerAll settings chance client none do
    let baseline ← Scene.startDownload behaviour chance.payload destination
      security.credentialTexts
    Scene.awaitCompletion behaviour baseline
    Scene.verifyFile behaviour destination chance.payload).1

/-- How many blocks a payload takes at a size in bytes; an empty one takes
one. -/
def blocksOf (payload : Bytes) (bytes : Nat) : Nat := max 1 ((payload.length + bytes - 1) / bytes)

/-- Block `n` is ignored `n % 4` times before it is answered, and at the end as
many requests must have been ignored as that makes for the block size offered. -/
def retransmissions (behaviour : Client σ) (address : SocketAddress) (destination : String)
    (settings : Settings) (chance : Chance) (client : σ) : Report σ :=
  let backoff := ModuloBackoff.standard
  let (report, stats) := withServer address .none backoff.gate settings chance client none do
    let baseline ← Scene.startDownload behaviour chance.payload destination none
    Scene.awaitCompletion behaviour baseline
    Scene.verifyFile behaviour destination chance.payload
  let expected := backoff.totalDrops (blocksOf chance.payload settings.blockSize)
  match stats with
  | .error _ => report
  | .ok stats =>
    if stats.dropped = expected then report
    else { report with outcome := .error (.mismatch (.dropCount expected stats.dropped)) }

/-! ## Cases answered by hand -/

/-- Runs a download that is interrupted when half of the payload has been sent.
The client forgets its server before there is an endpoint to hear from it. -/
def interrupted (behaviour : Client σ) (address : SocketAddress) (destination : String)
    (settings : Settings) (chance : Chance) (client : σ)
    (interruption : Controlled σ Peer) : Report σ :=
  let (reaction, client) := behaviour.obey .removeServer ⟨0, []⟩ client
  match reaction.outcome with
  | .error failure => ⟨.error failure, client, []⟩
  | .ok () =>
    let endpoint := Endpoint.bind address .none chance.firstId
    let (outcome, controller) := course (Controller.start endpoint client reaction.delay settings)
    ⟨outcome, controller.line.client, controller.line.endpoint.socket.sent⟩
where
  /-- Answers requests up to a limit and gives the download as far as it got. -/
  transferTo (download : Download) (limit : Nat) : Controlled σ Download := fun controller =>
    let (result, download, controller) := controller.transfer download limit
    (result.map fun _ => download, controller)
  /-- The course of the case. -/
  course : Controlled σ Unit := do
    let download ← Controller.startDownload behaviour "/test" chance.payload destination
    let download ← transferTo download (chance.payload.length / 2)
    let _ ← Controller.expectRequest download
    let _ ← interruption
    let download ← transferTo download chance.payload.length
    Controller.finish behaviour download

/-- The connection is reset half way; the client comes back from a new port and
resumes. -/
def reconnection (behaviour : Client σ) (address : SocketAddress) (destination : String)
    (settings : Settings) (chance : Chance) (client : σ) : Report σ :=
  interrupted behaviour address destination settings chance client
    (Controller.reconnect behaviour)

/-- The client goes offline half way, keeps silent, comes back from a new port
and resumes. -/
def offline (behaviour : Client σ) (address : SocketAddress) (destination : String)
    (settings : Settings) (chance : Chance) (client : σ) : Report σ :=
  interrupted behaviour address destination settings chance client
    (Controller.offlineThenOnline behaviour)

end Scenario
end Blockwise
