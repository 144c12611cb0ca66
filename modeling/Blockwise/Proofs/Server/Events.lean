import Blockwise.Proofs.Endpoint.Turn
import Blockwise.Proofs.Server.Stream

/-!
# What happens in the serving loop

Between two looks at it a server has heard datagrams from anywhere, its peer has
been silent for too long, and whoever runs it has sent messages of their own and
changed the store.  One after the other these are its events.

* `Server.step`, `Server.steps` — the server after an event and after a list of
  them.
* `Server.run_eq_steps` — the loop is such a list: it hears what comes up to a
  point in time, in that order, with idle time-outs in between.
* `Server.hear_cases` — a datagram is passed over, or it is the message of the
  peer that is served.
-/

namespace Blockwise

/-- What happens to a server in the loop. -/
inductive Event where
  /-- A datagram comes at a point in time. -/
  | datagram (time : Nat) (datagram : Datagram)
  /-- The peer has been silent for the idle time-out. -/
  | idle
  /-- Someone has a message sent to the peer. -/
  | command (time : Nat) (message : Message)
  /-- The store is changed. -/
  | change (change : Store.Change)

namespace Event

/-- The datagram that comes with an event, if one does. -/
def arrival? : Event → Option Arrival
  | .datagram time heard => some ⟨time, heard⟩
  | _ => none

/-- The datagrams among the events, each with its time. -/
def arrivals (events : List Event) : List Arrival := events.filterMap arrival?

end Event

namespace Server

/-- The server after an event.  One that has stopped hears nothing. -/
def step (server : Server) : Event → Server
  | .datagram time datagram => if server.isStopped then server else server.hear time datagram
  | .idle => server.expireIf fun _ => true
  | .command time message => (server.sendToPeer time message).2
  | .change change => { server with store := server.store.change change }

/-- The server after a list of events. -/
def steps (server : Server) (events : List Event) : Server := events.foldl step server

variable {server : Server}

theorem steps_append (server : Server) (events more : List Event) :
    server.steps (events ++ more) = (server.steps events).steps more :=
  List.foldl_append

/-! ## The loop -/

/-- An idle time-out that is due is an event; one that is not is none. -/
theorem expireIf_eq_steps (server : Server) (passed : Nat → Bool) :
    ∃ events, Event.arrivals events = [] ∧ server.expireIf passed = server.steps events := by
  cases hdue : server.dueAt with
  | none => exact ⟨[], rfl, by simp only [expireIf, hdue, steps, List.foldl_nil]⟩
  | some due =>
      cases hpassed : passed due with
      | false => exact ⟨[], rfl, by simp [expireIf, hdue, hpassed, steps]⟩
      | true => exact ⟨[.idle], rfl, by simp [expireIf, hdue, hpassed, steps, step]⟩

theorem isStopped_expireIf (server : Server) (passed : Nat → Bool) :
    (server.expireIf passed).isStopped = server.isStopped := by
  rw [isStopped, failure_eq_of_unplugged (unplugged_expireIf server passed)]
  rfl

theorem runThrough_eq_steps (server : Server) (now : Nat) (arrivals : List Arrival) :
    ∃ events unread, arrivals = Event.arrivals events ++ unread ∧
      server.runThrough now arrivals = (server.steps events).withArrivals unread := by
  induction arrivals generalizing server with
  | nil =>
      obtain ⟨events, hnone, hexpire⟩ := server.expireIf_eq_steps (· ≤ now)
      exact ⟨events, [], by rw [hnone]; rfl, by rw [runThrough, hexpire]⟩
  | cons arrival rest ih =>
      rw [runThrough]
      by_cases hstopped : server.isStopped = true
      · exact ⟨[], arrival :: rest, rfl, by rw [if_pos hstopped]; rfl⟩
      rw [if_neg hstopped]
      by_cases hdue : arrival.time ≤ now
      · -- The time-out comes before the datagram, and both before the rest.
        rw [if_pos hdue]
        obtain ⟨first, hnone, hexpire⟩ := server.expireIf_eq_steps (· < arrival.time)
        obtain ⟨events, unread, hrest, hrun⟩ :=
          ih ((server.expireIf (· < arrival.time)).hear arrival.time arrival.datagram)
        refine ⟨first ++ .datagram arrival.time arrival.datagram :: events, unread, ?_, ?_⟩
        · rw [Event.arrivals, List.filterMap_append, ← Event.arrivals, hnone, hrest]
          rfl
        · have hheard : (server.steps first).step (.datagram arrival.time arrival.datagram) =
              (server.steps first).hear arrival.time arrival.datagram := by
            rw [step, if_neg]
            rwa [← hexpire, isStopped_expireIf]
          rw [hrun, steps_append, hexpire]
          exact congrArg (fun after => (steps after events).withArrivals unread) hheard.symm
      · rw [if_neg hdue]
        obtain ⟨events, hnone, hexpire⟩ := server.expireIf_eq_steps (· ≤ now)
        exact ⟨events, arrival :: rest, by rw [hnone]; rfl, by rw [hexpire]⟩

/-- **The loop, event by event.**  Up to a point in time it hears the first of
the datagrams that come, in order; the others stay unread. -/
theorem run_eq_steps (server : Server) (now : Nat) :
    ∃ events unread, server.endpoint.socket.arrivals = Event.arrivals events ++ unread ∧
      server.run now = (server.steps events).withArrivals unread :=
  server.runThrough_eq_steps now _

/-! ## Single events -/

/-- A datagram changes nothing, or its sender is the peer from then on at the
latest, and its message is served. -/
theorem hear_cases (server : Server) (time : Nat) (datagram : Datagram) :
    server.hear time datagram = server ∨
      ∃ message, datagram.message = .ok message ∧
        (server.endpoint.peer = none ∨
          server.endpoint.peer = some (Peer.ofAddress datagram.source)) ∧
        server.hear time datagram =
          (server.hearing (Peer.ofAddress datagram.source) time).serve message := by
  rw [hear_eq]
  cases hheard : server.endpoint.heard? datagram with
  | none => exact Or.inl rfl
  | some message =>
      obtain ⟨hread, -⟩ := Option.filter_eq_some_iff.1 hheard
      refine Or.inr ⟨message, ?_, ?_, rfl⟩
      · cases hmessage : datagram.message with
        | error error => simp [hmessage, Except.toOption] at hread
        | ok read => simpa [hmessage, Except.toOption] using hread
      · cases hpeer : server.endpoint.peer with
        | none => exact Or.inl rfl
        | some peer => exact Or.inr (congrArg some (Endpoint.peer_of_heard hpeer hheard))

/-- A message of one's own leaves the peer, the kept answer and the counts. -/
theorem sendToPeer_keeps (server : Server) (time : Nat) (message : Message) :
    (server.sendToPeer time message).2.endpoint.peer = server.endpoint.peer ∧
      (server.sendToPeer time message).2.lastAnswer = server.lastAnswer ∧
      (server.sendToPeer time message).2.stats = server.stats := by
  rw [sendToPeer]
  split
  · exact ⟨rfl, rfl, rfl⟩
  · rcases server.endpoint.sendMessage_cases message with ⟨failure, h⟩ | ⟨peer, -, -, h⟩
    · simp [h]
    · simp [h, Endpoint.afterSending]

end Server
end Blockwise
