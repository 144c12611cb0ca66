import Blockwise.Proofs.Server.Cases
import Blockwise.Proofs.Socket.Reading

/-!
# What comes of a wait

An endpoint waits in three ways: for anyone, for a message of its peer, and for
the response to a request.  Each wait is a reading, and each is known by the
first datagram that it wants among those that come by its deadline.

* `Endpoint.accept_cases_of` — a sender is accepted by the first readable
  datagram.
* `Endpoint.result_receive`, `Endpoint.result_awaitResponse` — the result of
  the other two waits.
* `Endpoint.endpoint_of_receive_error`, `Endpoint.endpoint_of_awaitResponse_error`
  — what a wait that ran out has changed.
* `Endpoint.inbound` — the receiving side of an endpoint, which sending leaves
  alone.
-/

namespace Blockwise

/-! ## Responses and acknowledgements -/

namespace Message

/-- Whether a message answers a request: it has the request's token and the code
of a response. -/
def answers (message request : Message) : Bool :=
  message.token = request.token && message.code.isResponse

/-- Whether a message is an empty acknowledgement of a request. -/
def acknowledges (message request : Message) : Bool :=
  message.kind = .acknowledgement && message.id = request.id && message.code.isEmpty

end Message

/-- The first readable datagram that comes by a deadline. -/
def Socket.firstReadable (deadline : Option Nat) (arrivals : List Arrival) : Option Arrival :=
  (dueBy deadline arrivals).find? (·.datagram.isReadable)

namespace Endpoint

variable {endpoint : Endpoint} {peer : Peer}

/-! ## What is wanted -/

theorem taken?_judgeAny (datagram : Datagram) :
    (judgeAny datagram).taken? =
      datagram.message.toOption.map (·, Peer.ofAddress datagram.source) := by
  unfold judgeAny
  cases datagram.message <;> rfl

theorem judgePeer_eq_elim (peer : Peer) (datagram : Datagram) :
    judgePeer peer datagram = (datagram.messageFrom? peer.address).elim .pass .take := by
  cases hmessage : datagram.message with
  | error error => simp [judgePeer, Datagram.messageFrom?, hmessage, Except.toOption]
  | ok message =>
      by_cases hsource : datagram.source = peer.address
      · simp [judgePeer, Datagram.messageFrom?, hmessage, hsource, Except.toOption, Option.filter]
      · simp [judgePeer, Datagram.messageFrom?, hmessage, hsource, Except.toOption]

theorem taken?_judgePeer (peer : Peer) (datagram : Datagram) :
    (judgePeer peer datagram).taken? = datagram.messageFrom? peer.address := by
  rw [judgePeer_eq_elim, Socket.Verdict.taken?_elim]

theorem judgeResponse_eq_elim (peer : Peer) (request : Message) (datagram : Datagram) :
    judgeResponse peer request datagram =
      (datagram.messageFrom? peer.address).elim .pass fun message =>
        if message.answers request then .take message
        else if message.acknowledges request then .pass else .keep message := by
  rw [judgeResponse, judgePeer_eq_elim]
  cases datagram.messageFrom? peer.address with
  | none => rfl
  | some message => simp [Message.answers, Message.acknowledges, and_assoc]

theorem taken?_judgeResponse (peer : Peer) (request : Message) (datagram : Datagram) :
    (judgeResponse peer request datagram).taken? =
      (datagram.messageFrom? peer.address).filter (·.answers request) := by
  rw [judgeResponse_eq_elim]
  cases datagram.messageFrom? peer.address with
  | none => rfl
  | some message =>
      cases hanswers : message.answers request with
      | true => simp [hanswers, Option.filter, Socket.Verdict.taken?]
      | false =>
          cases hempty : message.acknowledges request <;>
            simp [hanswers, hempty, Option.filter, Socket.Verdict.taken?]

theorem kept?_judgeResponse (peer : Peer) (request : Message) (datagram : Datagram) :
    (judgeResponse peer request datagram).kept? =
      (datagram.messageFrom? peer.address).filter fun message =>
        !message.answers request && !message.acknowledges request := by
  rw [judgeResponse_eq_elim]
  cases datagram.messageFrom? peer.address with
  | none => rfl
  | some message =>
      cases hanswers : message.answers request with
      | true => simp [hanswers, Option.filter, Socket.Verdict.kept?]
      | false =>
          cases hempty : message.acknowledges request <;>
            simp [hanswers, hempty, Option.filter, Socket.Verdict.kept?]

/-! ## Waiting for anyone -/

/-- The endpoint with other datagrams still to be read. -/
def withArrivals (endpoint : Endpoint) (arrivals : List Arrival) : Endpoint :=
  { endpoint with socket := { endpoint.socket with arrivals } }

/-- A sender is accepted by the first readable datagram, whose message is queued
behind the others; without one the wait runs out. -/
theorem accept_cases_of (endpoint : Endpoint) (now : Nat) (limit : Option Nat) :
    let accepted := endpoint.accept now limit
    let deadline := limit.map (now + ·)
    (Socket.firstReadable deadline endpoint.socket.arrivals = none ∧
        accepted.result = .error (expired limit (.connection endpoint.socket.address)) ∧
        accepted.endpoint =
          endpoint.withArrivals (Socket.lateFor deadline endpoint.socket.arrivals)) ∨
      ∃ passed arrival message unread,
        Socket.firstReadable deadline endpoint.socket.arrivals = some arrival ∧
        endpoint.socket.arrivals = passed ++ arrival :: unread ∧
        (∀ earlier ∈ passed, earlier.datagram.message.toOption = none) ∧
        arrival.datagram.message.toOption = some message ∧
        accepted.result = .ok (Peer.ofAddress arrival.datagram.source) ∧
        accepted.endpoint = { endpoint.withArrivals unread with
          peer := some (Peer.ofAddress arrival.datagram.source)
          pending := endpoint.pending ++ [message] } := by
  intro accepted deadline
  have hread {datagram : Datagram} (h : (judgeAny datagram).taken? = none) :
      datagram.message.toOption = none := by
    rwa [taken?_judgeAny, Option.map_eq_none_iff] at h
  rcases Socket.read_cases_of judgeAny deadline now endpoint.socket.arrivals with
    ⟨htaken, hunread, hnone, -⟩ |
    ⟨passed, arrival, value, hsplit, hintime, hpassed, hjudge, htaken, -⟩
  · left
    refine ⟨?_, ?_, ?_⟩
    · rw [Socket.firstReadable, List.find?_eq_none]
      intro arrival hmem
      simp [Datagram.isReadable, hread (hnone arrival hmem)]
    · simp [accepted, accept, deadline, htaken]
    · simp [accepted, accept, deadline, htaken, ← hunread, withArrivals]
  · right
    have htaken? : (judgeAny arrival.datagram).taken? = some value := by
      rw [hjudge]
      rfl
    rw [taken?_judgeAny, Option.map_eq_some_iff] at htaken?
    obtain ⟨message, hmessage, rfl⟩ := htaken?
    let unread := (Socket.read judgeAny deadline now endpoint.socket.arrivals).unread
    refine ⟨passed, arrival, message, unread, ?_, hsplit, fun earlier hmem =>
      hread (hpassed earlier hmem), hmessage, ?_, ?_⟩
    · rw [Socket.firstReadable, hsplit, ← List.singleton_append, ← List.append_assoc,
        Socket.dueBy_append hintime, List.append_assoc, List.find?_append]
      have hearlier : passed.find? (·.datagram.isReadable) = none := by
        rw [List.find?_eq_none]
        intro earlier hmem
        simp [Datagram.isReadable, hread (hpassed earlier hmem)]
      have hfound : arrival.datagram.isReadable = true := by
        rw [Datagram.isReadable, hmessage]
        rfl
      simp [hearlier, hfound]
    · simp [accepted, accept, deadline, htaken]
    · simp [accepted, accept, deadline, unread, htaken, withArrivals]

/-- Where nothing readable comes in time, the wait lasts until its limit. -/
theorem accept_of_none {now limit : Nat}
    (hnone : Socket.firstReadable (some (now + limit)) endpoint.socket.arrivals = none) :
    endpoint.accept now (some limit) =
      { result := .error (.timeout (.connection endpoint.socket.address))
        endpoint :=
          endpoint.withArrivals (Socket.lateFor (some (now + limit)) endpoint.socket.arrivals)
        time := now + limit } := by
  have htaken : (Socket.read judgeAny (some (now + limit)) now endpoint.socket.arrivals).taken =
      none := by
    rw [Socket.taken_read, List.findSome?_eq_none_iff]
    intro arrival hmem
    have hunreadable := List.find?_eq_none.1 hnone arrival hmem
    rw [taken?_judgeAny, Option.map_eq_none_iff]
    simpa [Datagram.isReadable] using hunreadable
  rcases Socket.read_cases_of judgeAny (some (now + limit)) now endpoint.socket.arrivals with
    ⟨-, hunread, -⟩ | ⟨_, _, _, -, -, -, -, hfound, -⟩
  · simp [accept, htaken, hunread, expired, withArrivals, Socket.time_read_of_none htaken]
  · cases htaken.symm.trans hfound

/-- A wait for anyone uses up what nobody can read, and then the datagram that it
takes. -/
theorem usedUp_accept (endpoint : Endpoint) (now : Nat) (limit : Option Nat) :
    let used := Socket.usedUp endpoint.socket.arrivals
      (endpoint.accept now limit).endpoint.socket.arrivals
    let first := Socket.firstReadable (limit.map (now + ·)) endpoint.socket.arrivals
    ∃ passed, used = passed ++ first.toList.map (·.datagram) ∧
      ∀ datagram ∈ passed, datagram.message.toOption = none := by
  intro used first
  rcases endpoint.accept_cases_of now limit with
    ⟨hnone, -, hafter⟩ | ⟨passed, arrival, message, unread, hfirst, hsplit, hpassed, -, -, hafter⟩
  · let due := Socket.dueBy (limit.map (now + ·)) endpoint.socket.arrivals
    have hused : used = due.map (·.datagram) := by
      rw [← Socket.usedUp_append due, Socket.dueBy_append_lateFor]
      exact congrArg (Socket.usedUp _ ·.socket.arrivals) hafter
    refine ⟨due.map (·.datagram), ?_, ?_⟩
    · simp [hused, first, hnone]
    · intro datagram hmem
      obtain ⟨arrival, harrival, rfl⟩ := List.mem_map.1 hmem
      simpa [Datagram.isReadable] using List.find?_eq_none.1 hnone arrival harrival
  · have hused : used = (passed ++ [arrival]).map (·.datagram) := by
      have hread : endpoint.socket.arrivals = (passed ++ [arrival]) ++ unread := by
        rw [hsplit, List.append_assoc, List.singleton_append]
      rw [← Socket.usedUp_append _ unread, ← hread]
      exact congrArg (Socket.usedUp _ ·.socket.arrivals) hafter
    refine ⟨passed.map (·.datagram), ?_, ?_⟩
    · simp [hused, first, hfirst]
    · intro datagram hmem
      obtain ⟨earlier, hearlier, rfl⟩ := List.mem_map.1 hmem
      exact hpassed earlier hearlier

/-! ## Waiting for the peer -/

/-- What is queued is received first. -/
theorem receive_of_pending {message : Message} {rest : List Message}
    (hpending : endpoint.pending = message :: rest) (now : Nat) (limit : Option Nat) :
    endpoint.receive now limit =
      { result := .ok message, endpoint := { endpoint with pending := rest }, time := now } := by
  simp [receive, hpending]

/-- With nothing queued, the first message of the peer that comes in time is
received. -/
theorem result_receive (hpending : endpoint.pending = []) (hpeer : endpoint.peer = some peer)
    (now : Nat) (limit : Option Nat) :
    (endpoint.receive now limit).result =
      ((Socket.dueBy (limit.map (now + ·)) endpoint.socket.arrivals).findSome?
        (·.datagram.messageFrom? peer.address)).elim
          (.error (expired limit (.message peer))) .ok := by
  have htaken := Socket.taken_read (judgePeer peer) (limit.map (now + ·)) now
    endpoint.socket.arrivals
  simp only [taken?_judgePeer] at htaken
  simp only [receive, hpending, hpeer, ← htaken]
  cases (Socket.read (judgePeer peer) (limit.map (now + ·)) now endpoint.socket.arrivals).taken
  · rfl
  · rfl

/-- What `receive` leaves alone when nothing is queued: all but the arrivals. -/
theorem endpoint_receive (hpending : endpoint.pending = []) (hpeer : endpoint.peer = some peer)
    (now : Nat) (limit : Option Nat) :
    (endpoint.receive now limit).endpoint = endpoint.withArrivals
      (Socket.read (judgePeer peer) (limit.map (now + ·)) now endpoint.socket.arrivals).unread := by
  simp only [receive, hpending, hpeer]
  split <;> simp [withArrivals, hpending, hpeer]

/-- Whoever is received from stays the peer. -/
theorem peer_receive (endpoint : Endpoint) (now : Nat) (limit : Option Nat) :
    (endpoint.receive now limit).endpoint.peer = endpoint.peer := by
  cases hpending : endpoint.pending with
  | cons message rest => rw [receive_of_pending hpending]
  | nil =>
      cases hpeer : endpoint.peer with
      | none => simp [receive, hpending, hpeer]
      | some peer =>
          rw [endpoint_receive hpending hpeer]
          exact hpeer

/-- A wait for the peer that ran out has used up what came in time, and changed
nothing else. -/
theorem endpoint_of_receive_error {failure : Failure} (hpeer : endpoint.peer = some peer)
    {now : Nat} {limit : Option Nat}
    (herror : (endpoint.receive now limit).result = .error failure) :
    (endpoint.receive now limit).endpoint = endpoint.withArrivals
      (Socket.lateFor (limit.map (now + ·)) endpoint.socket.arrivals) := by
  cases hpending : endpoint.pending with
  | cons message rest =>
      rw [receive_of_pending hpending] at herror
      cases herror
  | nil =>
      rw [endpoint_receive hpending hpeer]
      rcases Socket.read_cases_of (judgePeer peer) (limit.map (now + ·)) now
          endpoint.socket.arrivals with ⟨-, hunread, -⟩ | ⟨_, _, _, -, -, -, -, htaken, -⟩
      · rw [hunread]
      · simp [receive, hpending, hpeer, htaken] at herror

/-! ## Waiting for a response -/

/-- The first message of the peer that comes in time and answers the request is
the response. -/
theorem result_awaitResponse (hpeer : endpoint.peer = some peer) (now limit : Nat)
    (request : Message) :
    (endpoint.awaitResponse now limit request).result =
      ((Socket.dueBy (some (now + limit)) endpoint.socket.arrivals).findSome? fun arrival =>
        (arrival.datagram.messageFrom? peer.address).filter (·.answers request)).elim
          (.error (.timeout (.response request))) .ok := by
  have htaken := Socket.taken_read (judgeResponse peer request) (some (now + limit)) now
    endpoint.socket.arrivals
  simp only [taken?_judgeResponse] at htaken
  simp only [awaitResponse, hpeer, ← htaken]
  cases (Socket.read (judgeResponse peer request) (some (now + limit)) now
    endpoint.socket.arrivals).taken
  · rfl
  · rfl

/-- What `awaitResponse` leaves alone: all but the arrivals and the queue. -/
theorem endpoint_awaitResponse (hpeer : endpoint.peer = some peer) (now limit : Nat)
    (request : Message) :
    (endpoint.awaitResponse now limit request).endpoint =
      let reading := Socket.read (judgeResponse peer request) (some (now + limit)) now
        endpoint.socket.arrivals
      { endpoint.withArrivals reading.unread with
        pending := endpoint.pending ++ reading.kept } := by
  simp only [awaitResponse, hpeer]
  split <;> simp [withArrivals, hpeer]

/-- Whoever a response is awaited from stays the peer. -/
theorem peer_awaitResponse (endpoint : Endpoint) (now limit : Nat) (request : Message) :
    (endpoint.awaitResponse now limit request).endpoint.peer = endpoint.peer := by
  cases hpeer : endpoint.peer with
  | none => simp [awaitResponse, hpeer]
  | some peer =>
      rw [endpoint_awaitResponse hpeer]
      exact hpeer

/-- A wait for a response that ran out has used up what came in time and queued
what the peer sent besides acknowledgements; it has changed nothing else. -/
theorem endpoint_of_awaitResponse_error {failure : Failure} (hpeer : endpoint.peer = some peer)
    {now limit : Nat} {request : Message}
    (herror : (endpoint.awaitResponse now limit request).result = .error failure) :
    let due := Socket.dueBy (some (now + limit)) endpoint.socket.arrivals
    (endpoint.awaitResponse now limit request).endpoint =
      { endpoint.withArrivals (Socket.lateFor (some (now + limit)) endpoint.socket.arrivals) with
        pending := endpoint.pending ++ due.filterMap fun arrival =>
          (arrival.datagram.messageFrom? peer.address).filter fun message =>
            !message.answers request && !message.acknowledges request } := by
  intro due
  rw [endpoint_awaitResponse hpeer]
  rcases Socket.read_cases_of (judgeResponse peer request) (some (now + limit)) now
      endpoint.socket.arrivals with ⟨-, hunread, -, hkept⟩ | ⟨_, _, _, -, -, -, -, htaken, -⟩
  · simp only [kept?_judgeResponse] at hkept
    simp only [hunread, hkept]
    rfl
  · simp [awaitResponse, hpeer, htaken] at herror

/-! ## What is unread -/

theorem suffix_accept (endpoint : Endpoint) (now : Nat) (limit : Option Nat) :
    (endpoint.accept now limit).endpoint.socket.arrivals <:+ endpoint.socket.arrivals := by
  rcases endpoint.accept_cases_of now limit with
    ⟨-, -, hafter⟩ | ⟨passed, arrival, _, unread, -, hsplit, -, -, -, hafter⟩
  · rw [hafter]
    exact List.dropWhile_suffix _
  · rw [hafter, hsplit]
    exact (List.suffix_cons arrival unread).trans (List.suffix_append passed _)

theorem suffix_receive (endpoint : Endpoint) (now : Nat) (limit : Option Nat) :
    (endpoint.receive now limit).endpoint.socket.arrivals <:+ endpoint.socket.arrivals := by
  cases hpending : endpoint.pending with
  | cons message rest => simp [receive_of_pending hpending]
  | nil =>
      cases hpeer : endpoint.peer with
      | none => simp [receive, hpending, hpeer]
      | some peer =>
          rw [endpoint_receive hpending hpeer]
          exact Socket.unread_suffix _ _ _ _

theorem suffix_awaitResponse (endpoint : Endpoint) (now limit : Nat) (request : Message) :
    (endpoint.awaitResponse now limit request).endpoint.socket.arrivals <:+
      endpoint.socket.arrivals := by
  cases hpeer : endpoint.peer with
  | none => simp [awaitResponse, hpeer]
  | some peer =>
      rw [endpoint_awaitResponse hpeer]
      exact Socket.unread_suffix _ _ _ _

/-! ## Sending -/

/-- The receiving side of an endpoint: nothing is known of what it has sent. -/
def inbound (endpoint : Endpoint) : Endpoint :=
  { endpoint with socket := { endpoint.socket with sent := [] }, nextId := 0 }

theorem inbound_of_sendMessage {message : Message} {after : Endpoint}
    (h : endpoint.sendMessage message = .ok after) : after.inbound = endpoint.inbound := by
  rcases endpoint.sendMessage_cases message with ⟨failure, herror⟩ | ⟨peer, -, -, hsent⟩
  · cases herror.symm.trans h
  · cases hsent.symm.trans h
    rfl

theorem inbound_send (endpoint : Endpoint) (message : Message) :
    ((endpoint.sendMessage message).toOption.getD endpoint).inbound = endpoint.inbound := by
  cases hsend : endpoint.sendMessage message with
  | error failure => rfl
  | ok after => exact inbound_of_sendMessage hsend

theorem inbound_reply (endpoint : Endpoint) (request response : Message) :
    (endpoint.reply request response).2.inbound = endpoint.inbound := by
  obtain ⟨fitted, nextId, -, hfitted⟩ := endpoint.correlate_cases request response
  simp only [reply, hfitted]
  cases hsend : { endpoint with nextId }.sendMessage fitted with
  | ok after => exact (inbound_of_sendMessage hsend).trans rfl
  | error failure => rfl

theorem inbound_ask (endpoint : Endpoint) (request : Message) (token : Bytes) :
    (endpoint.ask request token).2.inbound = endpoint.inbound := by
  unfold ask
  split
  · simp only [takeId]
    split
    · rename_i after hsend
      exact (inbound_of_sendMessage hsend).trans rfl
    · rfl
  · rfl

/-- Only a peer can be asked. -/
theorem isConnected_of_ask {request asked : Message} {token : Bytes} {after : Endpoint}
    (h : endpoint.ask request token = (.ok asked, after)) : endpoint.isConnected = true := by
  unfold ask at h
  split at h
  · assumption
  · cases h

end Endpoint
end Blockwise
