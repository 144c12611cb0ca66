import Blockwise.Proofs.Server.Serve
import Blockwise.Server.Loop

/-!
# One datagram through the serving loop

What comes from a peer reaches `serve` as the message that it is, whether or not
an idle time-out has reset the connection before.

* `Server.unplugged` — what a server has and knows apart from its connection;
  idle time-outs do not change it (`unplugged_expireIf`).
* `Server.hear_of_peer` — the peer's datagram is heard.
* `Server.run_deliver` — the loop, run for one datagram of the peer, is `serve`
  between two changes of the connection.
-/

namespace Blockwise

@[simp] theorem Peer.ofAddress_address (peer : Peer) : ofAddress peer.address = peer := by
  obtain ⟨ip, port⟩ := peer
  cases ip with
  | v4 => rfl
  | v6 => rfl

namespace Server

variable {server : Server} {peer : Peer}

/-! ## The connection -/

/-- A server without its connection: no peer, nothing queued or on its way, and
no memory of when it woke. -/
def unplugged (server : Server) : Server :=
  { server with
    endpoint := { server.endpoint with
      socket := { server.endpoint.socket with arrivals := [] }
      peer := none
      pending := [] }
    wokeAt := 0 }

/-- A server that has just heard a peer. -/
def hearing (server : Server) (peer : Peer) (time : Nat) : Server :=
  { server with endpoint := { server.endpoint with peer := some peer }, wokeAt := time }

/-- A server with a datagram on its way to it. -/
def deliver (server : Server) (time : Nat) (datagram : Datagram) : Server :=
  { server with endpoint := { server.endpoint with
      socket := server.endpoint.socket.deliver time datagram } }

@[simp] theorem unplugged_hearing (server : Server) (peer : Peer) (time : Nat) :
    (server.hearing peer time).unplugged = server.unplugged :=
  rfl

@[simp] theorem unplugged_deliver (server : Server) (time : Nat) (datagram : Datagram) :
    (server.deliver time datagram).unplugged = server.unplugged :=
  rfl

@[simp] theorem unplugged_withArrivals (server : Server) (arrivals : List Arrival) :
    (server.withArrivals arrivals).unplugged = server.unplugged :=
  rfl

/-- Either nothing happens or the connection is reset. -/
theorem expireIf_cases (server : Server) (passed : Nat → Bool) :
    server.expireIf passed = server ∨
      ∃ due, server.expireIf passed =
        { server with endpoint := server.endpoint.reset, wokeAt := due } := by
  unfold expireIf
  split
  · rename_i due _
    by_cases hpassed : passed due = true
    · exact Or.inr ⟨due, if_pos hpassed⟩
    · exact Or.inl (if_neg hpassed)
  · exact Or.inl rfl

/-- An idle time-out changes nothing but the connection. -/
@[simp] theorem unplugged_expireIf (server : Server) (passed : Nat → Bool) :
    (server.expireIf passed).unplugged = server.unplugged := by
  rcases server.expireIf_cases passed with h | ⟨due, h⟩
  · rw [h]
  · rw [h]
    rfl

theorem peer_expireIf (h : server.endpoint.peer = none ∨ server.endpoint.peer = some peer)
    (passed : Nat → Bool) :
    (server.expireIf passed).endpoint.peer = none ∨
      (server.expireIf passed).endpoint.peer = some peer := by
  rcases server.expireIf_cases passed with hsame | ⟨due, hreset⟩
  · rwa [hsame]
  · rw [hreset]
    exact Or.inl rfl

theorem failure_eq_of_unplugged {other : Server} (h : other.unplugged = server.unplugged) :
    other.failure = server.failure := by
  show other.unplugged.failure = server.unplugged.failure
  rw [h]

theorem sent_eq_of_unplugged {other : Server} (h : other.unplugged = server.unplugged) :
    other.endpoint.socket.sent = server.endpoint.socket.sent := by
  show other.unplugged.endpoint.socket.sent = server.unplugged.endpoint.socket.sent
  rw [h]

/-! ## Hearing and running -/

/-- The peer's datagram is heard as its message. -/
theorem hear_of_peer {datagram : Datagram} {message : Message} (time : Nat)
    (hpeer : server.endpoint.peer = none ∨ server.endpoint.peer = some peer)
    (hmessage : datagram.message = .ok message) (hsource : datagram.source = peer.address) :
    server.hear time datagram = (server.hearing peer time).serve message := by
  have hheard : server.endpoint.hear datagram =
      some (message, { server.endpoint with peer := some peer }) := by
    rcases hpeer with hnone | hsome
    · simp only [Endpoint.hear, hmessage, hnone, hsource, Peer.ofAddress_address]
    · simp only [Endpoint.hear, hmessage, hsome, hsource, if_true]
      rw [← hsome]
  rw [hear, hheard]
  rfl

/-- **One datagram of the peer.**  Up to the connection, the loop does with it
what `serve` does with its message. -/
theorem run_deliver {datagram : Datagram} {message : Message} (time : Nat)
    (hrunning : server.failure = none) (hquiet : server.endpoint.socket.arrivals = [])
    (hpeer : server.endpoint.peer = none ∨ server.endpoint.peer = some peer)
    (hmessage : datagram.message = .ok message) (hsource : datagram.source = peer.address) :
    ∃ before : Server, before.unplugged = server.unplugged ∧ before.endpoint.peer = some peer ∧
      (server.deliver time datagram).run time =
        ((before.serve message).expireIf (· ≤ time)).withArrivals [] := by
  have harrivals :
      (server.deliver time datagram).endpoint.socket.arrivals = [⟨time, datagram⟩] := by
    simp [deliver, Socket.deliver, hquiet, Socket.insertArrival]
  have hstopped : (server.deliver time datagram).isStopped = false := by
    rw [isStopped, failure_eq_of_unplugged (unplugged_deliver server time datagram), hrunning]
    rfl
  have hdelivered : (server.deliver time datagram).endpoint.peer = none ∨
      (server.deliver time datagram).endpoint.peer = some peer := hpeer
  have hheard := hear_of_peer time (peer_expireIf hdelivered (· < time)) hmessage hsource
  refine ⟨((server.deliver time datagram).expireIf (· < time)).hearing peer time, ?_, rfl, ?_⟩
  · rw [unplugged_hearing, unplugged_expireIf, unplugged_deliver]
  · rw [run, harrivals, runThrough, if_neg (by rw [hstopped]; exact Bool.false_ne_true),
      if_pos (Nat.le_refl time), hheard, runThrough]

end Server
end Blockwise
