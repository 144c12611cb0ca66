import Blockwise.Proofs.Endpoint.Messages

/-!
# Whether an accepted sender is known again

An endpoint remembers the IP address and the port of its peer.  It hears and addresses the
socket address that these two make up, and that has neither flow label nor scope.  For most
senders this is the address they were accepted from; for the others it is not.

* `SocketAddress.plain` — an address without flow label and scope.
* `Endpoint.KnowsOnly` — the endpoint hears one address, ignores all others, and sends there.
* `Endpoint.Log.peer_run` — the peer stays the same as long as the connection lasts.
* `Endpoint.Log.knowsOnly_accepted` — after a sender is accepted, that is its plain address.
* `Endpoint.Log.scoped_sender_ignored` — a sender with a scope that is not known again.
-/

namespace Blockwise

/-! ## Addresses without flow label and scope -/

namespace SocketAddress

/-- The address without flow label and scope. -/
def plain : SocketAddress → SocketAddress
  | .v4 a b c d port => .v4 a b c d port
  | .v6 groups port _ _ => .v6 groups port 0 0

/-- A peer has the plain address of the sender that it was. -/
theorem plain_eq (address : SocketAddress) : address.plain = (Peer.ofAddress address).address := by
  cases address <;> rfl

theorem plain_eq_self_iff {address : SocketAddress} :
    address.plain = address ↔ address.isPlain = true := by
  cases address with
  | v4 a b c d port => simp [plain, isPlain]
  | v6 groups port flow scope =>
      constructor
      · intro h
        cases h
        rfl
      · intro h
        obtain ⟨rfl, rfl⟩ : flow = 0 ∧ scope = 0 := by simpa [isPlain] using h
        rfl

end SocketAddress

namespace Endpoint

/-! ## Whom an endpoint knows -/

/-- An endpoint hears one address and ignores all others, and what it sends goes there. -/
structure KnowsOnly (endpoint : Endpoint) (known : SocketAddress) : Prop where
  /-- What is queued is received first. -/
  queued : ∀ now limit message rest, endpoint.pending = message :: rest →
    endpoint.receive now limit = ⟨.ok message, { endpoint with pending := rest }, now⟩
  /-- What can be read of that address is received when it comes. -/
  heard : ∀ now limit arrival rest message, endpoint.pending = [] →
    endpoint.socket.arrivals = arrival :: rest →
    (limit.map (now + ·)).all (arrival.time ≤ ·) = true →
    arrival.datagram.source = known → arrival.datagram.message = .ok message →
      endpoint.receive now limit =
        ⟨.ok message, endpoint.withArrivals rest, max now arrival.time⟩
  /-- What comes from elsewhere is as if it had not come. -/
  ignored : ∀ now limit arrival rest, endpoint.pending = [] →
    endpoint.socket.arrivals = arrival :: rest →
    (limit.map (now + ·)).all (arrival.time ≤ ·) = true → arrival.datagram.source ≠ known →
      (endpoint.receive now limit).result =
          ((endpoint.withArrivals rest).receive now limit).result ∧
        (endpoint.receive now limit).endpoint =
          ((endpoint.withArrivals rest).receive now limit).endpoint
  /-- What is sent goes to that address. -/
  addressed : ∀ message sent, endpoint.sendMessage message = .ok sent →
    sent.socket.sent = endpoint.socket.sent ++ [⟨known, message⟩]

variable {endpoint : Endpoint} {peer : Peer}

/-- An endpoint with a peer knows the address of its peer only. -/
theorem knowsOnly_of_peer (hpeer : endpoint.peer = some peer) :
    endpoint.KnowsOnly peer.address where
  queued now limit message rest hpending := receive_of_pending hpending now limit
  heard now limit arrival rest message hpending harrivals hdue hsource hmessage := by
    simp [receive, hpending, hpeer, harrivals, Socket.read, hdue, judgePeer, hmessage, hsource,
      withArrivals]
  ignored now limit arrival rest hpending harrivals hdue hsource := by
    have hforeign : arrival.datagram.messageFrom? peer.address = none := by
      simp [Datagram.messageFrom?, hsource]
    have hpassed : (judgePeer peer arrival.datagram).taken? = none := by
      rw [taken?_judgePeer, hforeign]
    have hrest : (endpoint.withArrivals rest).pending = [] := hpending
    have hsame : (endpoint.withArrivals rest).peer = some peer := hpeer
    constructor
    · rw [result_receive hpending hpeer, result_receive hrest hsame, harrivals]
      simp only [Socket.dueBy, List.takeWhile_cons, hdue, if_true, List.findSome?_cons, hforeign]
      rfl
    · rw [endpoint_receive hpending hpeer, endpoint_receive hrest hsame, harrivals,
        Socket.read_cons_of_passed hdue hpassed]
      exact congrArg endpoint.withArrivals (Socket.unread_read_congr _ _ _ _ _)
  addressed message sent hsent := by
    rcases endpoint.sendMessage_cases message with ⟨failure, herror⟩ | ⟨other, hother, -, hok⟩
    · cases herror.symm.trans hsent
    · cases hok.symm.trans hsent
      cases hpeer.symm.trans hother
      rfl

namespace Log

/-- As long as the connection lasts the peer stays the same. -/
theorem peer_step {call : Call} (hcall : call.keepsPeer = true) (log : Log) :
    (log.step call).endpoint.peer = log.endpoint.peer := by
  cases call with
  | accept now limit => cases hcall
  | reset => cases hcall
  | deliver now datagrams => rfl
  | reply request response => exact congrArg (·.peer) (inbound_reply log.endpoint request response)
  | send message => exact congrArg (·.peer) (inbound_send log.endpoint message)
  | receive now limit => exact peer_receive log.endpoint now limit
  | request now limit message token replies =>
      have hask := congrArg (·.peer) (inbound_ask log.endpoint message token)
      rw [step]
      cases hasked : log.endpoint.ask message token with
      | mk result sent =>
          rw [hasked] at hask
          cases result with
          | error failure => exact hask
          | ok request =>
              exact (peer_awaitResponse (sent.deliverAll now replies) now limit request).trans hask

/-- As long as the connection lasts the peer stays the same. -/
theorem peer_run {calls : List Call} (hcalls : ∀ call ∈ calls, call.keepsPeer = true) (log : Log) :
    (log.run calls).endpoint.peer = log.endpoint.peer := by
  induction calls generalizing log with
  | nil => rfl
  | cons call calls ih =>
      obtain ⟨hcall, hrest⟩ := List.forall_mem_cons.1 hcalls
      exact (ih hrest (log.step call)).trans (peer_step hcall log)

/-- **What is known of an accepted sender is its address without flow label and scope.**
Whatever was called before and whatever is called as long as the connection lasts, this is the
address that is heard and written to, and all others are ignored.  It is the sender's own
address exactly if that has neither flow label nor scope, as every IPv4 address. -/
theorem knowsOnly_accepted (log : Log) {now : Nat} {limit : Option Nat} {arrival : Arrival}
    (hfirst : Socket.firstReadable (limit.map (now + ·)) log.endpoint.socket.arrivals =
      some arrival)
    {calls : List Call} (hcalls : ∀ call ∈ calls, call.keepsPeer = true) :
    let sender := arrival.datagram.source
    let after := ((log.step (.accept now limit)).run calls).endpoint
    (log.endpoint.accept now limit).result = .ok (Peer.ofAddress sender) ∧
      after.peer = some (Peer.ofAddress sender) ∧ after.KnowsOnly sender.plain ∧
      (sender.plain = sender ↔ sender.isPlain = true) := by
  intro sender after
  rcases log.endpoint.accept_cases_of now limit with
    ⟨hnone, -⟩ | ⟨_, found, message, unread, hfound, -, -, -, hresult, hafter⟩
  · cases hnone.symm.trans hfirst
  · obtain rfl : found = arrival := Option.some.inj (hfound.symm.trans hfirst)
    have haccepted : (log.step (.accept now limit)).endpoint.peer = some (Peer.ofAddress sender) :=
      congrArg (·.peer) hafter
    have hpeer : after.peer = some (Peer.ofAddress sender) :=
      (peer_run hcalls _).trans haccepted
    rw [SocketAddress.plain_eq]
    refine ⟨hresult, hpeer, knowsOnly_of_peer hpeer, ?_⟩
    rw [← SocketAddress.plain_eq]
    exact SocketAddress.plain_eq_self_iff

/-! ## A sender with a scope -/

/-- A link-local address, in the scope of the second interface. -/
def scopedAddress : SocketAddress := .v6 #v[0xFE80, 0, 0, 0, 0, 0, 0, 1] 40001 0 2

/-- An endpoint of the local host to which that sender sends two requests, and what is sent to
it from the same address without the scope. -/
def scopedVisit : Endpoint :=
  (bind (.v4 127 0 0 1 5683) .none 0).deliverAll 0
    [(0, ⟨scopedAddress, readRequest⟩), (1, ⟨scopedAddress, readRequest⟩),
      (2, ⟨scopedAddress.plain, readRequest⟩)]

/-- When that sender has been accepted and its first request has been received, only the plain
address is known. -/
theorem knowsOnly_accepted_scoped :
    let log : Log := ⟨scopedVisit, [], [], [], 0⟩
    let calls : List Call := [.receive 0 none]
    Socket.firstReadable none scopedVisit.socket.arrivals =
        some ⟨0, scopedAddress, readRequest⟩ ∧
      (∀ call ∈ calls, call.keepsPeer = true) ∧
      ((log.step (.accept 0 none)).run calls).endpoint.KnowsOnly
        (.v6 #v[0xFE80, 0, 0, 0, 0, 0, 0, 1] 40001 0 0) := by
  intro log calls
  have hfirst : Socket.firstReadable none scopedVisit.socket.arrivals =
      some ⟨0, scopedAddress, readRequest⟩ := by
    decide +kernel
  have hcalls : ∀ call ∈ calls, call.keepsPeer = true := by simp [calls, Call.keepsPeer]
  obtain ⟨-, -, hknows, -⟩ := @knowsOnly_accepted log 0 none _ hfirst calls hcalls
  exact ⟨hfirst, hcalls, hknows⟩

/-- **A sender with a scope is ignored after its first datagram.**  Its second request can be
read and has come in time, and it is not received; what is sent goes elsewhere. -/
theorem scoped_sender_ignored :
    let accepted := (scopedVisit.accept 0 none).endpoint
    let received := (accepted.receive 0 none).endpoint
    accepted.peer = some (Peer.ofAddress scopedAddress) ∧
      (accepted.receive 0 none).result.isOk = true ∧
      (received.socket.arrivals.head?.map fun arrival =>
        (arrival.datagram.source == scopedAddress, arrival.datagram.isReadable)) =
          some (true, true) ∧
      (received.receive 0 (some 1)).result =
        .error (.timeout (.message (Peer.ofAddress scopedAddress))) ∧
      ((received.sendMessage (Message.bare .acknowledgement .empty 7)).toOption.map fun sent =>
        sent.socket.sent.map (·.destination)) = some [scopedAddress.plain] ∧
      scopedAddress.plain ≠ scopedAddress := by
  decide +kernel

end Log
end Endpoint
end Blockwise
