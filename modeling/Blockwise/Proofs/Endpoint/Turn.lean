import Blockwise.Proofs.Server.Loop
import Blockwise.Proofs.Socket.Reading

/-!
# Accepting and receiving in turn

A server waits for the next message of its peer, and if it has none, it accepts
one first.  These are two waits with a queue in between, and what comes of them
is one thing: the first datagram that there is something to hear in.

* `Endpoint.heard?` — the message that an endpoint hears in a datagram, if any.
* `Endpoint.nextMessage` — the two waits in turn.
* `Endpoint.nextMessage_cases` — either they run out of time, or their message
  is the first that is heard.  That there is no peer to receive from does not
  happen.
* `Endpoint.hear_eq`, `Server.hear_eq` — what is heard is what the loop serves.
-/

namespace Blockwise

/-! ## Reading until something is picked -/

/-- Reading goes on until a datagram is picked; those passed over before it are
gone, and those behind it are still to be read. -/
theorem Socket.read_cases {α : Type} (pick : Datagram → Option α) (deadline : Option Nat)
    (now : Nat) (arrivals : List Arrival) :
    let reading := read (fun datagram => (pick datagram).elim .pass .take) deadline now arrivals
    reading.taken = none ∨
      ∃ passed arrival value, arrivals = passed ++ arrival :: reading.unread ∧
        (∀ earlier ∈ passed, pick earlier.datagram = none) ∧
        pick arrival.datagram = some value ∧ reading.taken = some value := by
  rcases read_cases_of (fun datagram => (pick datagram).elim .pass .take) deadline now arrivals with
    ⟨htaken, -⟩ | ⟨passed, arrival, value, hsplit, -, hpassed, hjudge, htaken, -⟩
  · exact Or.inl htaken
  · refine Or.inr ⟨passed, arrival, value, hsplit, ?_, ?_, htaken⟩
    · intro earlier hmem
      rw [← Verdict.taken?_elim (pick earlier.datagram)]
      exact hpassed earlier hmem
    · rw [← Verdict.taken?_elim (pick arrival.datagram), hjudge]
      rfl

namespace Endpoint

variable {endpoint : Endpoint} {peer : Peer}

/-! ## What is heard -/

/-- The message that is heard in a datagram: it is readable and comes from the
peer, if there is one. -/
def heard? (endpoint : Endpoint) (datagram : Datagram) : Option Message :=
  datagram.message.toOption.filter fun _ => endpoint.peer.all (datagram.source = ·.address)

/-- Whoever is heard is the peer from then on at the latest. -/
theorem hear_eq (endpoint : Endpoint) (datagram : Datagram) :
    endpoint.hear datagram = (endpoint.heard? datagram).map fun message =>
      (message, { endpoint with peer := some (Peer.ofAddress datagram.source) }) := by
  cases hmessage : datagram.message with
  | error error => simp [hear, heard?, hmessage, Except.toOption]
  | ok message =>
      cases hpeer : endpoint.peer with
      | none => simp [hear, heard?, hmessage, hpeer, Except.toOption, Option.filter]
      | some peer =>
          by_cases hsource : datagram.source = peer.address
          · simp only [hear, heard?, hmessage, hpeer, Except.toOption, Option.filter, hsource,
              Peer.ofAddress_address, if_true, Option.all_some, decide_true, Option.map_some]
            rw [← hpeer]
          · simp [hear, heard?, hmessage, hpeer, Except.toOption, hsource]

/-- A message that is heard comes from the peer, if there is one. -/
theorem peer_of_heard {datagram : Datagram} {message : Message}
    (hpeer : endpoint.peer = some peer) (h : endpoint.heard? datagram = some message) :
    peer = Peer.ofAddress datagram.source := by
  obtain ⟨-, hsource⟩ := Option.filter_eq_some_iff.1 h
  rw [hpeer, Option.all_some, decide_eq_true_iff] at hsource
  rw [hsource, Peer.ofAddress_address]

theorem judgeAny_eq (hpeer : endpoint.peer = none) (datagram : Datagram) :
    judgeAny datagram =
      ((endpoint.heard? datagram).map (·, Peer.ofAddress datagram.source)).elim .pass .take := by
  cases hmessage : datagram.message with
  | error error => simp [judgeAny, heard?, hmessage, Except.toOption]
  | ok message => simp [judgeAny, heard?, hmessage, hpeer, Except.toOption, Option.filter]

theorem judgePeer_eq (hpeer : endpoint.peer = some peer) (datagram : Datagram) :
    judgePeer peer datagram = (endpoint.heard? datagram).elim .pass .take := by
  cases hmessage : datagram.message with
  | error error => simp [judgePeer, heard?, hmessage, Except.toOption]
  | ok message =>
      by_cases hsource : datagram.source = peer.address
      · simp [judgePeer, heard?, hmessage, hpeer, Except.toOption, Option.filter, hsource]
      · simp [judgePeer, heard?, hmessage, hpeer, Except.toOption, hsource]

/-- Of the datagrams that come, this is the first that is heard; those behind it
are still to be read. -/
def HearsFirst (endpoint : Endpoint) (arrival : Arrival) (message : Message)
    (unread : List Arrival) : Prop :=
  endpoint.heard? arrival.datagram = some message ∧
    ∃ passed, endpoint.socket.arrivals = passed ++ arrival :: unread ∧
      ∀ earlier ∈ passed, endpoint.heard? earlier.datagram = none

/-- The endpoint when it has heard a datagram and those behind it are still to be
read. -/
def afterHearing (endpoint : Endpoint) (arrival : Arrival) (unread : List Arrival) : Endpoint :=
  { endpoint with
    socket := { endpoint.socket with arrivals := unread }
    peer := some (Peer.ofAddress arrival.datagram.source) }

/-! ## Two waits in turn -/

/-- The next message from the peer.  Where there is none, the next sender is
accepted first, however long that takes. -/
def nextMessage (endpoint : Endpoint) (now limit : Nat) : Waited Message :=
  if endpoint.isConnected then endpoint.receive now (some limit)
  else
    let accepted := endpoint.accept now none
    match accepted.result with
    | .ok _ => accepted.endpoint.receive accepted.time (some limit)
    | .error failure =>
      { result := .error failure, endpoint := accepted.endpoint, time := accepted.time }

/-- To accept is to hear the first readable datagram, and to queue its message. -/
theorem accept_cases (hpeer : endpoint.peer = none) (now : Nat) :
    let accepted := endpoint.accept now none
    accepted.result = .error (.endless (.connection endpoint.socket.address)) ∨
      ∃ arrival message unread, endpoint.HearsFirst arrival message unread ∧
        accepted.result = .ok (Peer.ofAddress arrival.datagram.source) ∧
        accepted.endpoint =
          { endpoint.afterHearing arrival unread with
            pending := endpoint.pending ++ [message] } := by
  have hread := Socket.read_cases
    (fun datagram => (endpoint.heard? datagram).map (·, Peer.ofAddress datagram.source)) none now
    endpoint.socket.arrivals
  rw [← funext (judgeAny_eq hpeer)] at hread
  rcases hread with htaken | ⟨passed, arrival, value, hsplit, hpassed, hfound, htaken⟩
  · refine Or.inl ?_
    simp [accept, htaken, expired]
  · obtain ⟨message, hheard, rfl⟩ := Option.map_eq_some_iff.1 hfound
    refine Or.inr ⟨arrival, message, _, ⟨hheard, passed, hsplit, ?_⟩, ?_, ?_⟩
    · intro earlier hmem
      exact Option.map_eq_none_iff.1 (hpassed earlier hmem)
    · simp [accept, htaken]
    · simp [accept, htaken, afterHearing]

/-- To receive is to hear the first datagram of the peer, if nothing is queued. -/
theorem receive_cases (hpending : endpoint.pending = []) (hpeer : endpoint.peer = some peer)
    (now limit : Nat) :
    let received := endpoint.receive now (some limit)
    received.result = .error (.timeout (.message peer)) ∨
      ∃ arrival message unread, endpoint.HearsFirst arrival message unread ∧
        received.result = .ok message ∧
        received.endpoint = endpoint.afterHearing arrival unread := by
  have hread := Socket.read_cases endpoint.heard? (some (now + limit)) now endpoint.socket.arrivals
  rw [← funext (judgePeer_eq hpeer)] at hread
  rcases hread with htaken | ⟨passed, arrival, message, hsplit, hpassed, hfound, htaken⟩
  · refine Or.inl ?_
    simp [receive, hpending, hpeer, htaken, expired]
  · refine Or.inr ⟨arrival, message, _, ⟨hfound, passed, hsplit, hpassed⟩, ?_, ?_⟩
    · simp [receive, hpending, hpeer, htaken]
    · rw [afterHearing, ← peer_of_heard hpeer hfound]
      simp [receive, hpending, hpeer, htaken]

/-- **The next message is the first that is heard**, and its sender is the peer.
Or nothing is heard: the peer is silent for too long, or no sender ever comes.
That there is no peer to receive from does not happen. -/
theorem nextMessage_cases (hpending : endpoint.pending = []) (now limit : Nat) :
    let waited := endpoint.nextMessage now limit
    (∃ peer, waited.result = .error (.timeout (.message peer))) ∨
      (∃ address, waited.result = .error (.endless (.connection address))) ∨
      ∃ arrival message unread, endpoint.HearsFirst arrival message unread ∧
        waited.result = .ok message ∧ waited.endpoint = endpoint.afterHearing arrival unread := by
  intro waited
  cases hpeer : endpoint.peer with
  | some peer =>
      have hwaited : waited = endpoint.receive now (some limit) := by
        simp [waited, nextMessage, isConnected, hpeer]
      rw [hwaited]
      exact (receive_cases hpending hpeer now limit).imp (fun hsilent => ⟨peer, hsilent⟩) Or.inr
  | none =>
      rcases accept_cases hpeer now with
        hnobody | ⟨arrival, message, unread, hfirst, haccepted, hqueued⟩
      · refine Or.inr (Or.inl ⟨endpoint.socket.address, ?_⟩)
        simp [waited, nextMessage, isConnected, hpeer, hnobody]
      · refine Or.inr (Or.inr ⟨arrival, message, unread, hfirst, ?_⟩)
        -- What was queued is what is received, and nothing stays in the queue.
        simp [waited, nextMessage, isConnected, hpeer, haccepted, hqueued, receive, hpending,
          afterHearing]

end Endpoint

/-- A server in the loop serves what it hears and passes over the rest. -/
theorem Server.hear_eq (server : Server) (time : Nat) (datagram : Datagram) :
    server.hear time datagram =
      (server.endpoint.heard? datagram).elim server
        ((server.hearing (Peer.ofAddress datagram.source) time).serve ·) := by
  rw [hear, Endpoint.hear_eq]
  cases server.endpoint.heard? datagram with
  | none => rfl
  | some message => rfl

end Blockwise
