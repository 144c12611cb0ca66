import Blockwise.Proofs.Endpoint.Attribution
import Blockwise.Proofs.Server.Failures

/-!
# Receiving requests and answering them

Whoever answers requests one by one receives messages until a request comes, and
sends what its transfer makes of it.  Neither can fail for a reason that lies in
the endpoint: what is received was read, and there is a peer to answer.

* `Endpoint.Orderly` — an endpoint whose queue was read and is of a peer.  All
  that is received or accepted and every reset leave it so.
* `Endpoint.receiveRequest_keeps`, `Endpoint.source_of_receiveRequest` — what the
  wait for a request leaves alone, and where the request comes from.
* `Endpoint.reply_of_handle` — the answer of a transfer goes out to the peer.
-/

namespace Blockwise

namespace Endpoint

variable {endpoint after : Endpoint} {peer : Peer} {message request response : Message}
  {now : Nat}

/-! ## The queue -/

/-- What is queued was read, and there is a peer if anything is. -/
structure Orderly (endpoint : Endpoint) : Prop where
  connected : endpoint.pending ≠ [] → endpoint.isConnected = true
  read : ∀ message ∈ endpoint.pending, ∃ datagram : Datagram, datagram.message = .ok message

/-- Whatever is asked of an endpoint, it is orderly. -/
theorem Log.Accounted.orderly {log : Log} (h : log.Accounted) : log.endpoint.Orderly where
  connected := h.connected
  read message hmem := by
    have hheld : message ∈ log.held.map (·.2) := by
      rw [h.map_held]
      exact List.mem_append_right _ hmem
    obtain ⟨entry, hentry, rfl⟩ := List.mem_map.1 hheld
    exact ⟨entry.1, message_of_mem_held hentry⟩

theorem orderly_reset (endpoint : Endpoint) : endpoint.reset.Orderly :=
  ⟨fun hpending => absurd rfl hpending, fun _ hmem => nomatch hmem⟩

/-- To take from the front of the queue keeps it orderly. -/
theorem Orderly.of_suffix (h : endpoint.Orderly) (hpending : after.pending <:+ endpoint.pending)
    (hpeer : after.peer = endpoint.peer) : after.Orderly where
  connected hqueued := by
    have hsome : endpoint.pending ≠ [] := by
      intro hnone
      rw [hnone, List.suffix_nil] at hpending
      exact hqueued hpending
    rw [isConnected, hpeer]
    exact h.connected hsome
  read message hmem := h.read message (hpending.subset hmem)

theorem Orderly.accept (h : endpoint.Orderly) (now : Nat) (limit : Option Nat) :
    (endpoint.accept now limit).endpoint.Orderly := by
  rcases endpoint.accept_cases_of now limit with
    ⟨-, -, hafter⟩ | ⟨_, arrival, message, _, -, -, -, hmessage, -, hafter⟩
  · rw [hafter]
    exact ⟨h.connected, h.read⟩
  · rw [hafter]
    refine ⟨fun _ => rfl, ?_⟩
    intro queued hmem
    rcases List.mem_append.1 hmem with hbefore | hnew
    · exact h.read queued hbefore
    · refine ⟨arrival.datagram, ?_⟩
      rw [List.mem_singleton.1 hnew]
      cases hread : arrival.datagram.message with
      | error error => simp [hread, Except.toOption] at hmessage
      | ok read => simpa [hread, Except.toOption] using hmessage

/-- Who is accepted is the peer, and one message of it is queued behind the others. -/
theorem accept_of_ok {limit : Option Nat} (h : (endpoint.accept now limit).result = .ok peer) :
    (endpoint.accept now limit).endpoint.peer = some peer ∧
      ∃ message, (endpoint.accept now limit).endpoint.pending = endpoint.pending ++ [message] := by
  rcases endpoint.accept_cases_of now limit with
    ⟨-, herror, -⟩ | ⟨_, _, message, _, -, -, -, -, hok, hafter⟩
  · cases herror.symm.trans h
  · cases hok.symm.trans h
    rw [hafter]
    exact ⟨rfl, message, rfl⟩

/-! ## What a wait leaves alone -/

theorem sent_accept (endpoint : Endpoint) (now : Nat) (limit : Option Nat) :
    (endpoint.accept now limit).endpoint.socket.sent = endpoint.socket.sent := by
  rcases endpoint.accept_cases_of now limit with
    ⟨-, -, hafter⟩ | ⟨_, _, _, _, -, -, -, -, -, hafter⟩
  · rw [hafter]
    rfl
  · rw [hafter]
    rfl

theorem sent_receive (endpoint : Endpoint) (now : Nat) (limit : Option Nat) :
    (endpoint.receive now limit).endpoint.socket.sent = endpoint.socket.sent := by
  cases hpending : endpoint.pending with
  | cons message rest => rw [receive_of_pending hpending]
  | nil =>
      cases hpeer : endpoint.peer with
      | none => simp [receive, hpending, hpeer]
      | some peer =>
          rw [endpoint_receive hpending hpeer]
          rfl

/-- What is queued is received one by one. -/
theorem pending_receive (endpoint : Endpoint) (now : Nat) (limit : Option Nat) :
    (endpoint.receive now limit).endpoint.pending = endpoint.pending.tail := by
  cases hpending : endpoint.pending with
  | cons message rest =>
      rw [receive_of_pending hpending]
      rfl
  | nil =>
      cases hpeer : endpoint.peer with
      | none => simp [receive, hpending, hpeer]
      | some peer =>
          rw [endpoint_receive hpending hpeer]
          exact hpending

/-- The wait for a request leaves the peer and what was sent; it uses up the front
of the queue and of what comes. -/
theorem receiveRequest_keeps (endpoint : Endpoint) (now limit : Nat) :
    let waited := endpoint.receiveRequest now limit
    waited.endpoint.peer = endpoint.peer ∧
      waited.endpoint.socket.sent = endpoint.socket.sent ∧
      waited.endpoint.pending <:+ endpoint.pending.tail ∧
      waited.endpoint.socket.arrivals <:+ endpoint.socket.arrivals := by
  have hreceive (endpoint : Endpoint) (now : Nat) :=
    And.intro (peer_receive endpoint now (some limit)) <|
      And.intro (sent_receive endpoint now (some limit)) <|
        And.intro (pending_receive endpoint now (some limit))
          (suffix_receive endpoint now (some limit))
  fun_induction receiveRequest endpoint now limit with
  | case1 endpoint now failure herror =>
      obtain ⟨hpeer, hsent, hpending, harrivals⟩ := hreceive endpoint now
      exact ⟨hpeer, hsent, hpending ▸ List.suffix_refl _, harrivals⟩
  | case2 endpoint now message hok hrequest =>
      obtain ⟨hpeer, hsent, hpending, harrivals⟩ := hreceive endpoint now
      exact ⟨hpeer, hsent, hpending ▸ List.suffix_refl _, harrivals⟩
  | case3 endpoint now message hok hother ih =>
      obtain ⟨hpeer, hsent, hpending, harrivals⟩ := hreceive endpoint now
      obtain ⟨hpeer', hsent', hpending', harrivals'⟩ := ih
      rw [hpending] at hpending'
      exact ⟨hpeer'.trans hpeer, hsent'.trans hsent, hpending'.trans (List.tail_suffix _),
        harrivals'.trans harrivals⟩

/-! ## Where a request comes from -/

/-- A message that was queued, or that was read from the peer as the last of what
is used up. -/
def Supplies (endpoint : Endpoint) (message : Message) (after : Endpoint) : Prop :=
  message ∈ endpoint.pending ∨
    ∃ peer passed arrival, endpoint.peer = some peer ∧
      endpoint.socket.arrivals = passed ++ arrival :: after.socket.arrivals ∧
      arrival.datagram.messageFrom? peer.address = some message

theorem source_of_receive {limit : Option Nat}
    (h : (endpoint.receive now limit).result = .ok message) :
    endpoint.Supplies message (endpoint.receive now limit).endpoint := by
  cases hpending : endpoint.pending with
  | cons first rest =>
      rw [receive_of_pending hpending] at h
      cases h
      exact Or.inl (by simp [hpending])
  | nil =>
      cases hpeer : endpoint.peer with
      | none => simp [receive, hpending, hpeer] at h
      | some peer =>
          rw [endpoint_receive hpending hpeer]
          rcases Socket.read_cases_of (judgePeer peer) (limit.map (now + ·)) now
              endpoint.socket.arrivals with
            ⟨hnone, -⟩ | ⟨passed, arrival, value, hsplit, -, -, hjudge, htaken, -⟩
          · simp [receive, hpending, hpeer, hnone] at h
          · simp only [receive, hpending, hpeer, htaken] at h
            cases h
            refine Or.inr ⟨peer, passed, arrival, hpeer, hsplit, ?_⟩
            rw [← taken?_judgePeer, hjudge]
            rfl

/-- The request that was waited for was queued, or it was read from the peer. -/
theorem source_of_receiveRequest {limit : Nat}
    (h : (endpoint.receiveRequest now limit).result = .ok request) :
    request.isRequest = true ∧
      endpoint.Supplies request (endpoint.receiveRequest now limit).endpoint := by
  fun_induction receiveRequest endpoint now limit with
  | case1 endpoint now failure herror => cases herror.symm.trans h
  | case2 endpoint now message hok hrequest =>
      cases hok.symm.trans h
      exact ⟨hrequest, source_of_receive h⟩
  | case3 endpoint now message hok hother ih =>
      obtain ⟨hrequest, hqueued | ⟨peer, passed, arrival, hpeer, hsplit, hfrom⟩⟩ := ih h
      · rw [pending_receive] at hqueued
        exact ⟨hrequest, Or.inl (List.mem_of_mem_tail hqueued)⟩
      · obtain ⟨earlier, hearlier⟩ := suffix_receive endpoint now (some limit)
        rw [peer_receive] at hpeer
        refine ⟨hrequest, Or.inr ⟨peer, earlier ++ passed, arrival, hpeer, ?_, hfrom⟩⟩
        rw [List.append_assoc, ← hsplit, hearlier]

/-- What an orderly endpoint supplies comes from a peer and was read. -/
theorem Orderly.of_supplies (h : endpoint.Orderly) (hsupplies : endpoint.Supplies message after) :
    endpoint.isConnected = true ∧ ∃ datagram : Datagram, datagram.message = .ok message := by
  rcases hsupplies with hqueued | ⟨peer, passed, arrival, hpeer, -, hfrom⟩
  · exact ⟨h.connected (List.ne_nil_of_mem hqueued), h.read message hqueued⟩
  · obtain ⟨hmessage, -⟩ := Datagram.message_of_messageFrom? hfrom
    exact ⟨by rw [isConnected, hpeer]; rfl, arrival.datagram, hmessage⟩

/-! ## Answering -/

/-- A response that fits into a datagram goes out to the peer. -/
theorem reply_of_sendable (hpeer : endpoint.peer = some peer)
    (h : (response.fittedTo request endpoint.nextId).Sendable) :
    endpoint.reply request response =
      (.ok (), { endpoint with nextId := endpoint.idAfter request }.afterSending peer
        (response.fittedTo request endpoint.nextId)) := by
  have hsent : { endpoint with nextId := endpoint.idAfter request }.sendMessage _ = _ :=
    sendMessage_of_sendable hpeer h
  simp only [reply, correlate_eq, hsent]

/-- A message cannot be sent for want of a peer or for its form, but not for what it says. -/
theorem failure_of_sendMessage {failure : Failure}
    (h : endpoint.sendMessage message = .error failure) (mismatch : Mismatch) :
    failure ≠ .mismatch mismatch := by
  rintro rfl
  unfold sendMessage at h
  split at h
  · cases h
  · split at h
    · cases h
    · cases h

/-- A reply goes out to the peer, or it fails for a reason that lies in the endpoint. -/
theorem reply_cases (endpoint : Endpoint) (request response : Message) :
    (∃ failure, endpoint.reply request response =
        (.error failure, { endpoint with nextId := endpoint.idAfter request }) ∧
        ∀ mismatch, failure ≠ .mismatch mismatch) ∨
      ∃ peer, endpoint.peer = some peer ∧ endpoint.reply request response =
        (.ok (), { endpoint with nextId := endpoint.idAfter request }.afterSending peer
          (response.fittedTo request endpoint.nextId)) := by
  rcases { endpoint with nextId := endpoint.idAfter request }.sendMessage_cases
      (response.fittedTo request endpoint.nextId) with
    ⟨failure, hfailed⟩ | ⟨peer, hpeer, -, hsent⟩
  · exact Or.inl ⟨failure, by simp only [reply, correlate_eq, hfailed],
      failure_of_sendMessage hfailed⟩
  · exact Or.inr ⟨peer, hpeer, by simp only [reply, correlate_eq, hsent]⟩

/-- **The answer of a transfer goes out to the peer** if the request was read. -/
theorem reply_of_handle {transfer next : Transfer} (hpeer : endpoint.peer = some peer)
    (hread : ∃ datagram : Datagram, datagram.message = .ok request)
    (hhandle : transfer.handle request = .ok (response, next)) :
    endpoint.reply request response =
      (.ok (), { endpoint with nextId := endpoint.idAfter request }.afterSending peer
        (response.fittedTo request endpoint.nextId)) := by
  obtain ⟨datagram, hmessage⟩ := hread
  have htoken := Message.length_token_of_message hmessage
  exact reply_of_sendable hpeer (Transfer.compact_of_handle hhandle htoken _).sendable

end Endpoint
end Blockwise
