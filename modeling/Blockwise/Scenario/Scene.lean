import Blockwise.ControlTraffic
import Blockwise.Poll
import Blockwise.Server.Loop

/-!
# Scenes: a file server and a client

In most download cases a file server runs by itself while the case gives
commands to the client and watches it.  A scene holds both, at a point in time,
and the endpoint for control traffic where a case has one.  Before each look at
the client the server has done all it can do up to that time.
-/

namespace Blockwise

/-- A file server and a client at a point in time. -/
structure Scene (σ : Type) where
  server : Server
  client : σ
  now : Nat
  settings : Settings
  /-- The endpoint that the client's control connection leads to. -/
  control : Option Endpoint

/-- What is done in a scene: a result or a failure, and the scene after it. -/
abbrev InScene (σ : Type) := ExceptT Failure (StateM (Scene σ))

namespace Scene

variable {σ : Type}

/-- Everything that was sent to the client: by the server, then by the control
endpoint. -/
def sent (scene : Scene σ) : List Outgoing :=
  scene.server.endpoint.socket.sent ++
    (scene.control.map fun endpoint => endpoint.socket.sent).getD []

/-- What the client sees. -/
def observed (scene : Scene σ) : Observed := ⟨scene.now, scene.sent⟩

/-- The scene after the server has caught up with the time. -/
def settle (scene : Scene σ) : Scene σ := { scene with server := scene.server.run scene.now }

/-- The scene with datagrams on their way to the server, each with its delay
from a point in time. -/
def deliver (scene : Scene σ) (since : Nat) (datagrams : List (Nat × Datagram)) : Scene σ :=
  let endpoint := scene.server.endpoint
  { scene with server := { scene.server with
      endpoint := { endpoint with socket := endpoint.socket.deliverAll since datagrams } } }

/-! ## Talking to the client -/

/-- Asks the client how many sockets are open. -/
def socketCount (behaviour : Client σ) : InScene σ Nat := fun scene =>
  let scene := scene.settle
  let (count, client) := behaviour.socketCount scene.observed scene.client
  (count, { scene with client })

/-- Gives the client a command and waits until it acknowledges it. -/
def command (behaviour : Client σ) (command : Command) : InScene σ Unit := fun scene =>
  let (reaction, client) := behaviour.obey command scene.observed scene.client
  let scene := { scene with client }.deliver scene.now reaction.datagrams
  (reaction.outcome, { scene with now := scene.now + reaction.delay }.settle)

/-- Registers a payload at the root and has the client download it.  Gives the
number of sockets that were open before. -/
def startDownload (behaviour : Client σ) (payload : Bytes) (destination : String)
    (credentials : Option (String × String)) : InScene σ Nat := do
  let baseline ← socketCount behaviour
  let (uri, store) := (← get).server.store.register "/" payload
  modify fun scene => { scene with server := { scene.server with store } }
  command behaviour (.download uri destination credentials)
  return baseline

/-- Compares what the client has written with the payload. -/
def verifyFile (behaviour : Client σ) (destination : String) (payload : Bytes) :
    InScene σ Unit := fun scene =>
  (behaviour.verifyFile scene.client destination payload, scene)

/-- Sends a message to the client from the server's endpoint. -/
def sendToPeer (message : Message) : InScene σ Unit := fun scene =>
  let (result, server) := scene.settle.server.sendToPeer scene.now message
  (result, { scene with server }.settle)

/-! ## Waiting -/

/-- The wait for a condition that is looked at again and again. -/
def poll (awaited : Awaited) (limit : Nat) (look : InScene σ Bool) : InScene σ Unit :=
  fun scene =>
    let ended := Poll.wait limit scene.settings.pollInterval
      (fun elapsed later => look { later with now := scene.now + elapsed }) scene
    (ended.outcome.result (.timeout awaited),
      { ended.state with now := scene.now + ended.elapsed })

/-- Waits until the client has so many sockets open. -/
def awaitSocketCount (behaviour : Client σ) (expected limit : Nat) : InScene σ Unit :=
  poll (.socketCount expected) limit do
    let count ← socketCount behaviour
    return count == expected

/-- Waits for the first request of a download. -/
def awaitFirstRequest (limit : Nat) : InScene σ Unit :=
  poll .firstRequest limit fun scene =>
    let scene := scene.settle
    (.ok (decide (0 < scene.server.history.length)), scene)

/-- Waits until as many sockets are open as before the download. -/
def awaitCompletion (behaviour : Client σ) (baseline : Nat) : InScene σ Unit := do
  awaitSocketCount behaviour baseline (← get).settings.completionTimeout

/-- Checks the control traffic of the client, if there is a control endpoint. -/
def verifyControl (behaviour : Client σ) (tokens : Nat → Bytes) : InScene σ Unit :=
  fun scene =>
    match scene.control with
    | none => (.error .notConnected, scene)
    | some endpoint =>
      let line : Line σ := { endpoint, client := scene.client, now := scene.now }
      let (result, line) := ControlTraffic.verify behaviour scene.settings tokens line
      (result, { scene with control := some line.endpoint, client := line.client, now := line.now })

end Scene
end Blockwise
