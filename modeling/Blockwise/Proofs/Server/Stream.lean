import Blockwise.Proofs.Server.Cases
import Blockwise.Proofs.Server.Loop

/-!
# Streams of messages

A server is given one message after the other, each from some peer, and its
store may be changed between any two of them.

* `Server.take`, `Server.takeAll` — the server after one input and after a
  stream of them.  Once it has stopped it serves nothing.
* `Server.sends`, `Server.transcript` — what goes out for each input.
* `Server.ignores`, `Server.repeats` — what the server counts an input as.
-/

namespace Blockwise

/-! ## Inputs -/

namespace Store

/-- A change of a store from outside. -/
inductive Change where
  | set (path : String) (payload : Bytes)
  | register (path : String) (payload : Bytes)
  | remove (path : String)

/-- The store after a change. -/
def change (store : Store) : Change → Store
  | .set path payload => store.set path payload
  | .register path payload => (store.register path payload).2
  | .remove path => (store.remove path).2

end Store

/-- What comes to a server. -/
inductive Input where
  /-- A message from a peer. -/
  | message (peer : Peer) (message : Message)
  /-- A change of the store. -/
  | change (change : Store.Change)

namespace Server

/-- The server after an input. -/
def take (server : Server) : Input → Server
  | .message peer message =>
    if server.isStopped then server
    else (server.hearing peer server.wokeAt).serve message
  | .change change => { server with store := server.store.change change }

/-- The server after a stream of inputs. -/
def takeAll (server : Server) (inputs : List Input) : Server := inputs.foldl take server

/-- What was sent between two looks at a server. -/
def sentBetween (before after : Server) : List Outgoing :=
  after.endpoint.socket.sent.drop before.endpoint.socket.sent.length

/-- What a server sends for an input. -/
def sends (server : Server) (input : Input) : List Outgoing :=
  server.sentBetween (server.take input)

/-- What a server sends for each input of a stream. -/
def transcript (server : Server) : List Input → List (List Outgoing)
  | [] => []
  | input :: rest => server.sends input :: (server.take input).transcript rest

/-- Whether an input is a request that the server ignores. -/
def ignores (server : Server) (input : Input) : Bool :=
  server.stats.dropped < (server.take input).stats.dropped

/-- Whether an input is a request that gets an earlier answer again. -/
def repeats (server : Server) (input : Input) : Bool :=
  server.stats.duplicates < (server.take input).stats.duplicates

variable {server : Server}

theorem sentBetween_self {after : Server}
    (h : after.endpoint.socket.sent = server.endpoint.socket.sent) :
    server.sentBetween after = [] := by
  rw [sentBetween, h, List.drop_length]

theorem sentBetween_append {after : Server} {sent : List Outgoing}
    (h : after.endpoint.socket.sent = server.endpoint.socket.sent ++ sent) :
    server.sentBetween after = sent := by
  rw [sentBetween, h, List.drop_left]

theorem takeAll_append (server : Server) (inputs more : List Input) :
    server.takeAll (inputs ++ more) = (server.takeAll inputs).takeAll more :=
  List.foldl_append

theorem isStopped_eq_false : server.isStopped = false ↔ server.failure = none := by
  simp [isStopped]

theorem take_of_stopped (peer : Peer) (message : Message) (h : server.failure ≠ none) :
    server.take (.message peer message) = server := by
  rw [take, if_pos]
  simpa [isStopped, Option.isSome_iff_ne_none] using h

theorem take_of_running (peer : Peer) (message : Message) (h : server.failure = none) :
    server.take (.message peer message) =
      (server.hearing peer server.wokeAt).serve message := by
  rw [take, isStopped_eq_false.2 h]
  rfl

/-- A server that has stopped stays so. -/
theorem running_of_take {input : Input} (h : (server.take input).failure = none) :
    server.failure = none := by
  cases input with
  | change change => exact h
  | message peer message =>
      by_contra hstopped
      rw [take_of_stopped peer message hstopped] at h
      exact hstopped h

theorem running_of_takeAll {inputs : List Input} (h : (server.takeAll inputs).failure = none) :
    server.failure = none := by
  induction inputs generalizing server with
  | nil => exact h
  | cons input rest ih => exact running_of_take (ih h)

end Server
end Blockwise
