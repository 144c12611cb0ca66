import Blockwise.Client
import Blockwise.Poll
import Blockwise.Settings
import Blockwise.Transfer

/-!
# Driving a download by hand

A controller answers the requests of one download itself, so that it can reset
the connection or send the client offline between two blocks.

* `Controller.startDownload` gives the command and accepts the client.
* `Controller.transfer` answers requests up to a limit of bytes.
* `Controller.expectRequest` takes a request without answering it.
* `Controller.reconnect` and `Controller.offlineThenOnline` interrupt the
  connection; the client has to come back from another port.
* `Controller.finish` compares what the client has written.
-/

namespace Blockwise

/-- A download under way: the file it goes to and its transfer. -/
structure Download where
  destination : String
  transfer : Transfer
  deriving DecidableEq

/-- A line to the client with the settings and the store of the resources. -/
structure Controller (σ : Type) where
  line : Line σ
  settings : Settings
  store : Store

/-- What a controller does: a result or a failure, and the controller after
it. -/
abbrev Controlled (σ : Type) := ExceptT Failure (StateM (Controller σ))

namespace Controller

variable {σ : Type}

/-- A controller at an endpoint. -/
def start (endpoint : Endpoint) (client : σ) (now : Nat) (settings : Settings) : Controller σ where
  line := { endpoint, client, now }
  settings
  store := Store.empty endpoint.socket.address endpoint.security.scheme

/-- Something done on the controller's line. -/
def onLine {α : Type} (act : OnLine σ α) : Controlled σ α := fun controller =>
  let (result, line) := act controller.line
  (result, { controller with line })

/-! ## Watching the client -/

/-- One look at the client's sockets, so long after the wait began. -/
def lookAtSockets (behaviour : Client σ) (began expected elapsed : Nat) (line : Line σ) :
    Except Failure Bool × Line σ :=
  let line := { line with now := began + elapsed }
  let (count, client) := behaviour.socketCount line.observed line.client
  (count.map (· == expected), { line with client })

/-- Waits until the client has so many sockets open. -/
def awaitSocketCount (behaviour : Client σ) (expected limit : Nat) : Controlled σ Unit :=
  fun controller =>
    let line := controller.line
    let ended := Poll.wait limit controller.settings.pollInterval
      (lookAtSockets behaviour line.now expected) line
    (ended.outcome.result (.timeout (.socketCount expected)),
      { controller with line := { ended.state with now := line.now + ended.elapsed } })

/-! ## The course of a download -/

/-- Accepts a client while it is given a command; the command's failure counts
before the endpoint's. -/
def acceptDuring (behaviour : Client σ) (command : Command) (limit : Nat) : OnLine σ Peer :=
  fun line =>
    let (commanded, after) := Line.command behaviour command line
    let accepted := after.endpoint.accept line.now (some limit)
    let line := { after with
      endpoint := accepted.endpoint
      now := max after.now accepted.time }
    match commanded with
    | .error failure => (.error failure, line)
    | .ok () => (accepted.result, line)

/-- Registers a payload, has the client download it, and waits until the client
has one socket open. -/
def startDownload (behaviour : Client σ) (path : String) (payload : Bytes)
    (destination : String) : Controlled σ Download := do
  let path := Path.normalize path
  let (uri, store) := (← get).store.register path payload
  modify fun controller => { controller with store }
  let settings := (← get).settings
  match Transfer.ofBlockSize path payload settings.blockSize with
  | .error error => throw (.block error)
  | .ok transfer =>
    let credentials := (← get).line.endpoint.security.credentialTexts
    let _ ← onLine (acceptDuring behaviour (.download uri destination credentials)
      settings.acceptTimeout)
    awaitSocketCount behaviour 1 settings.socketCountTimeout
    return { destination, transfer }

/-- Receives the next request of the client. -/
def nextRequest : Controlled σ Message := fun controller =>
  onLine (Line.wait fun endpoint now =>
    endpoint.receiveRequest now controller.settings.receiveTimeout) controller

/-- Answers requests until the next block begins at or behind a limit or the
transfer is complete.  The download is given back as far as it got, also after
a failure. -/
def transfer (controller : Controller σ) (download : Download) (limit : Nat) :
    Except Failure Unit × Download × Controller σ :=
  if download.transfer.readOffset < limit ∧ !download.transfer.isComplete then
    match nextRequest controller with
    | (.error failure, controller) => (.error failure, download, controller)
    | (.ok request, controller) =>
      match _handled : download.transfer.handle request with
      | .error mismatch => (.error (.mismatch mismatch), download, controller)
      | .ok (response, after) =>
        let (sent, endpoint) := controller.line.endpoint.reply request response
        let controller := { controller with line := { controller.line with endpoint } }
        let download := { download with transfer := after }
        match sent with
        | .error failure => (.error failure, download, controller)
        | .ok () => transfer controller download limit
  else (.ok (), download, controller)
termination_by download.transfer.left
decreasing_by exact Transfer.left_of_handle _handled

/-- Receives the next request and checks it without an answer. -/
def expectRequest (download : Download) : Controlled σ Message := do
  let request ← nextRequest
  match download.transfer.check request with
  | .error mismatch => throw (.mismatch mismatch)
  | .ok _ => return request

/-- Waits until the client has closed its socket, then compares the file it
wrote with the payload. -/
def finish (behaviour : Client σ) (download : Download) : Controlled σ Unit := do
  awaitSocketCount behaviour 0 (← get).settings.completionTimeout
  ExceptT.mk (pure (behaviour.verifyFile (← get).line.client download.destination
    download.transfer.payload))

/-! ## Interruptions -/

/-- The peer after an interruption, which has to come from another port than the
one before it. -/
def ensureRebound (previous current : Peer) : Except Failure Peer :=
  if current.port = previous.port then .error (.unchangedRemote current) else .ok current

/-- Resets the connection, has the client reconnect, and accepts it again. -/
def reconnect (behaviour : Client σ) : Controlled σ Peer := do
  let previous ← onLine Line.remote
  onLine Line.reset
  onLine (Line.command behaviour (.reconnect .udp))
  let current ← onLine (Line.accept (← get).settings.acceptTimeout)
  ExceptT.mk (pure (ensureRebound previous current))

/-- Waits through the offline window, in which no sender may show up. -/
def expectSilence : Controlled σ Unit := fun controller =>
  match onLine (Line.accept controller.settings.offlineWindow) controller with
  | (.ok peer, controller) => (.error (.unexpectedTraffic (.whileOffline peer)), controller)
  | (.error failure, controller) =>
    if failure.isTimeout then (.ok (), controller) else (.error failure, controller)

/-- Resets the connection, sends the client offline for a window of silence,
brings it back, and accepts it again. -/
def offlineThenOnline (behaviour : Client σ) : Controlled σ Peer := do
  let previous ← onLine Line.remote
  onLine Line.reset
  onLine (Line.command behaviour (.enterOffline .udp))
  expectSilence
  onLine (Line.command behaviour (.exitOffline .udp))
  let current ← onLine (Line.accept (← get).settings.acceptTimeout)
  ExceptT.mk (pure (ensureRebound previous current))

end Controller
end Blockwise
