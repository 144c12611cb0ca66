import Blockwise.Proofs.Endpoint.Messages

/-!
# Whose message is received

The queue of an endpoint holds messages without their senders.  The log still
knows them: every message that was kept goes back to the datagram that brought
it.  A sender that is accepted while messages of an earlier one are queued has
to wait for its turn, and until then the messages that are received are not of
the peer.

* `Endpoint.Log.held` — the messages that were kept to be received, each with its
  datagram.
* `Endpoint.Log.Attributed` — the invariant: all that is queued is of the peer,
  except for what was queued before the peer was accepted;
  `Endpoint.Log.Attributed.step` says that every call preserves it.
* `Endpoint.Log.received_from_peer` — which datagram each received message comes
  from, and when that is one of the peer's.
-/

namespace Blockwise
namespace Endpoint
namespace Log

variable {log : Log} {peer : Peer}

/-- The messages that were kept to be received, in order, each with the datagram
that brought it. -/
def held (log : Log) : List (Datagram × Message) :=
  log.reads.filterMap fun read => read.kept?.map (read.datagram, ·)

/-! ## What is held -/

theorem mem_held {entry : Datagram × Message} :
    entry ∈ log.held ↔
      ∃ read ∈ log.reads, read.kept? = some entry.2 ∧ read.datagram = entry.1 := by
  rw [held, List.mem_filterMap]
  constructor
  · rintro ⟨read, hread, hkept⟩
    obtain ⟨message, hmessage, rfl⟩ := Option.map_eq_some_iff.1 hkept
    exact ⟨read, hread, hmessage, rfl⟩
  · rintro ⟨read, hread, hmessage, hdatagram⟩
    exact ⟨read, hread, by rw [hmessage, hdatagram]; rfl⟩

/-- What is held is what was received and then what is queued. -/
theorem Accounted.map_held (h : log.Accounted) :
    log.held.map (·.2) = log.received ++ log.endpoint.pending := by
  rw [h.kept_eq, held, List.map_filterMap]
  apply List.filterMap_congr
  intro read _
  cases read.kept? <;> rfl

theorem Accounted.length_held (h : log.Accounted) :
    log.held.length = log.received.length + log.endpoint.pending.length := by
  rw [← List.length_append, ← h.map_held, List.length_map]

/-- A datagram whose message is held can be read. -/
theorem message_of_mem_held {entry : Datagram × Message} (h : entry ∈ log.held) :
    entry.1.message = .ok entry.2 := by
  obtain ⟨read, -, hkept, hdatagram⟩ := mem_held.1 h
  obtain ⟨hmessage, -⟩ := Option.filter_eq_some_iff.1 hkept
  obtain ⟨hread, -⟩ := Option.filter_eq_some_iff.1 hmessage
  rw [← hdatagram]
  cases hresult : read.datagram.message with
  | error error => simp [hresult, Except.toOption] at hread
  | ok message => simpa [hresult, Except.toOption] using hread

/-- A wait adds what it keeps behind what is held. -/
theorem held_afterWait {α : Type} (log : Log) (began : Endpoint) (waited : Waited α)
    (listened : Option Peer) (asked : Option Message) :
    (log.afterWait began waited listened asked).held = log.held ++
      (Socket.usedUp began.socket.arrivals waited.endpoint.socket.arrivals).filterMap
        fun datagram => (Read.kept? ⟨datagram, listened, asked⟩).map (datagram, ·) :=
  filterMap_reads_afterWait _ log began waited listened asked

/-- Whoever is kept while a peer is listened to is that peer. -/
theorem peer_of_kept {datagram : Datagram} {asked : Option Message} {message : Message}
    (h : Read.kept? ⟨datagram, some peer, asked⟩ = some message) :
    Peer.ofAddress datagram.source = peer := by
  obtain ⟨hmessage, -⟩ := Option.filter_eq_some_iff.1 h
  obtain ⟨-, hsource⟩ := Option.filter_eq_some_iff.1 hmessage
  rw [Option.all_some, decide_eq_true_iff] at hsource
  rw [hsource, Peer.ofAddress_address]

/-! ## The invariant -/

/-- What is queued behind the messages that were queued before the peer was
accepted is from the peer. -/
structure Attributed (log : Log) : Prop where
  accounted : log.Accounted
  /-- What was queued before the peer was accepted is still in front of the queue. -/
  backlog_le : log.backlog ≤ log.endpoint.pending.length
  /-- All behind it goes back to datagrams of the peer. -/
  recent : ∀ entry ∈ log.held.drop (log.received.length + log.backlog),
    log.endpoint.peer = some (Peer.ofAddress entry.1.source)

theorem attributed_start (endpoint : Endpoint) : (start endpoint).Attributed :=
  ⟨accounted_start endpoint, Nat.le_refl 0, fun _ hmem => nomatch hmem⟩

/-- What changes nothing that is received or listened to leaves the queue to the
peer. -/
theorem Attributed.inbound (h : log.Attributed) {after : Endpoint}
    (hafter : after.inbound = log.endpoint.inbound) :
    Attributed { log with endpoint := after } := by
  have hpending : after.pending = log.endpoint.pending := congrArg (·.pending) hafter
  have hpeer : after.peer = log.endpoint.peer := congrArg (·.peer) hafter
  refine ⟨h.accounted.inbound hafter, ?_, ?_⟩
  · show log.backlog ≤ after.pending.length
    rw [hpending]
    exact h.backlog_le
  · show ∀ entry ∈ log.held.drop (log.received.length + log.backlog), after.peer = _
    rw [hpeer]
    exact h.recent

/-- All that is held from some turn on, which is no earlier than the first of the
peer's, is from the peer. -/
theorem Attributed.recent_of_le (h : log.Attributed) {turn : Nat}
    (hturn : log.received.length + log.backlog ≤ turn) {entry : Datagram × Message}
    (hmem : entry ∈ log.held.drop turn) :
    log.endpoint.peer = some (Peer.ofAddress entry.1.source) := by
  obtain ⟨later, rfl⟩ := Nat.exists_eq_add_of_le hturn
  rw [← List.drop_drop] at hmem
  exact h.recent entry (List.mem_of_mem_drop hmem)

/-- A wait for the peer adds only messages of the peer. -/
theorem Attributed.recent_afterWait (h : log.Attributed) {α : Type} {began : Endpoint}
    {waited : Waited α} {asked : Option Message} (hpeer : log.endpoint.peer = some peer)
    {turn : Nat} (hturn : log.received.length + log.backlog ≤ turn) {entry : Datagram × Message}
    (hmem : entry ∈ (log.afterWait began waited (some peer) asked).held.drop turn) :
    peer = Peer.ofAddress entry.1.source := by
  rw [held_afterWait, List.drop_append] at hmem
  rcases List.mem_append.1 hmem with hbefore | hnew
  · exact Option.some.inj (hpeer.symm.trans (h.recent_of_le hturn hbefore))
  · obtain ⟨datagram, -, hkept⟩ := List.mem_filterMap.1 (List.mem_of_mem_drop hnew)
    obtain ⟨message, hmessage, rfl⟩ := Option.map_eq_some_iff.1 hkept
    exact (peer_of_kept hmessage).symm

/-- To accept a sender is to hold the message it was accepted by, and nothing else
of what is read. -/
theorem held_accept (log : Log) (now : Nat) (limit : Option Nat) :
    (log.step (.accept now limit)).held = log.held ++
      (Socket.firstReadable (limit.map (now + ·)) log.endpoint.socket.arrivals).toList.filterMap
        fun arrival => arrival.datagram.message.toOption.map (arrival.datagram, ·) := by
  obtain ⟨passed, hused, hpassed⟩ := log.endpoint.usedUp_accept now limit
  have hunread : passed.filterMap (fun datagram =>
      datagram.message.toOption.map (datagram, ·)) = [] := by
    rw [List.filterMap_eq_nil_iff]
    intro datagram hmem
    rw [hpassed datagram hmem]
    rfl
  refine (held_afterWait log log.endpoint (log.endpoint.accept now limit) none none).trans ?_
  simp only [Read.kept?_of_anyone]
  rw [hused, List.filterMap_append, hunread, List.nil_append, List.filterMap_map]
  rfl

theorem Attributed.accept (h : log.Attributed) (now : Nat) (limit : Option Nat) :
    (log.step (.accept now limit)).Attributed := by
  have haccounted := h.accounted.accept now limit
  have hheld := log.held_accept now limit
  rcases log.endpoint.accept_cases_of now limit with
    ⟨hnone, hresult, hafter⟩ |
    ⟨_, arrival, message, unread, hfirst, -, -, hmessage, hresult, hafter⟩
  · rw [hnone] at hheld
    have hbacklog : (log.step (.accept now limit)).backlog = log.backlog := by
      simp only [Log.step, hresult]
    refine ⟨haccounted, ?_, ?_⟩
    · rw [hbacklog]
      show log.backlog ≤ (log.endpoint.accept now limit).endpoint.pending.length
      rw [hafter]
      exact h.backlog_le
    · rw [hheld, hbacklog]
      show ∀ entry ∈ (log.held ++ []).drop (log.received.length + log.backlog),
        (log.endpoint.accept now limit).endpoint.peer = _
      rw [List.append_nil, hafter]
      exact h.recent
  · rw [hfirst] at hheld
    have hbacklog : (log.step (.accept now limit)).backlog = log.endpoint.pending.length := by
      simp only [Log.step, hresult]
    refine ⟨haccounted, ?_, ?_⟩
    · rw [hbacklog]
      show log.endpoint.pending.length ≤ (log.endpoint.accept now limit).endpoint.pending.length
      rw [hafter, List.length_append]
      exact Nat.le_add_right _ _
    · -- Behind all that was held there is only the message of the new peer.
      rw [hheld, hbacklog]
      show ∀ entry ∈ (log.held ++ _).drop (log.received.length + log.endpoint.pending.length),
        (log.endpoint.accept now limit).endpoint.peer = _
      rw [← h.accounted.length_held, List.drop_left, hafter]
      simp [hmessage]

theorem Attributed.receive (h : log.Attributed) (now : Nat) (limit : Option Nat) :
    (log.step (.receive now limit)).Attributed := by
  have hbacklog := h.backlog_le
  -- What was queued before the peer was accepted is received before what is the peer's.
  have hturn : log.received.length + log.backlog ≤
      (log.step (.receive now limit)).received.length + (log.backlog - 1) := by
    show _ ≤ (log.received ++ _).length + _
    rw [List.length_append]
    cases hpending : log.endpoint.pending with
    | nil =>
        rw [hpending, List.length_nil] at hbacklog
        omega
    | cons message rest =>
        simp only [receive_of_pending hpending, Except.toOption, Option.toList,
          List.length_singleton]
        omega
  refine ⟨h.accounted.receive now limit, ?_, ?_⟩
  · show log.backlog - 1 ≤ (log.endpoint.receive now limit).endpoint.pending.length
    cases hpending : log.endpoint.pending with
    | nil =>
        rw [hpending, List.length_nil] at hbacklog
        omega
    | cons message rest =>
        rw [hpending, List.length_cons] at hbacklog
        rw [receive_of_pending hpending]
        show log.backlog - 1 ≤ rest.length
        omega
  · show ∀ entry ∈ (log.afterWait log.endpoint (log.endpoint.receive now limit) log.endpoint.peer
        none).held.drop _, (log.endpoint.receive now limit).endpoint.peer = _
    rw [peer_receive]
    intro entry hmem
    cases hpeer : log.endpoint.peer with
    | some peer =>
        rw [hpeer] at hmem
        exact congrArg some (h.recent_afterWait hpeer hturn hmem)
    | none =>
        -- Nothing is read where there is no peer, and nothing of a peer was held.
        have hunread : (log.endpoint.receive now limit).endpoint.socket = log.endpoint.socket := by
          cases hpending : log.endpoint.pending with
          | nil => simp [Endpoint.receive, hpending, hpeer]
          | cons message rest => rw [receive_of_pending hpending]
        rw [held_afterWait, hunread, Socket.usedUp_self, List.filterMap_nil,
          List.append_nil] at hmem
        exact hpeer.symm.trans (h.recent_of_le hturn hmem)

theorem Attributed.request (h : log.Attributed) (now limit : Nat) (message : Message)
    (token : Bytes) (replies : List (Nat × Datagram)) :
    (log.step (.request now limit message token replies)).Attributed := by
  have haccounted := h.accounted.request now limit message token replies
  have hinbound := inbound_ask log.endpoint message token
  rw [step] at haccounted ⊢
  cases hask : log.endpoint.ask message token with
  | mk result sent =>
      rw [hask] at hinbound
      cases result with
      | error failure => exact h.inbound hinbound
      | ok request =>
          have hpending : sent.pending = log.endpoint.pending := congrArg (·.pending) hinbound
          have hsame : sent.peer = log.endpoint.peer := congrArg (·.peer) hinbound
          obtain ⟨peer, hpeer⟩ := Option.isSome_iff_exists.1 (isConnected_of_ask hask)
          have hknown : (sent.deliverAll now replies).peer = some peer := hsame.trans hpeer
          rw [hask] at haccounted
          refine ⟨haccounted, ?_, ?_⟩
          · show log.backlog ≤ ((sent.deliverAll now replies).awaitResponse now limit
              request).endpoint.pending.length
            rw [endpoint_awaitResponse hknown]
            show log.backlog ≤ (sent.pending ++ _).length
            rw [hpending, List.length_append]
            exact Nat.le_trans h.backlog_le (Nat.le_add_right _ _)
          · show ∀ entry ∈ (log.afterWait (sent.deliverAll now replies) _ _ _).held.drop _,
              ((sent.deliverAll now replies).awaitResponse now limit request).endpoint.peer = _
            rw [endpoint_awaitResponse hknown, hknown]
            intro entry hmem
            exact hknown.trans (congrArg some (h.recent_afterWait hpeer (Nat.le_refl _) hmem))

/-- Every call leaves what is queued to the peer, but for what was queued before
the peer was accepted. -/
theorem Attributed.step (h : log.Attributed) (call : Call) : (log.step call).Attributed := by
  cases call with
  | deliver now datagrams => exact ⟨h.accounted.step _, h.backlog_le, h.recent⟩
  | accept now limit => exact h.accept now limit
  | receive now limit => exact h.receive now limit
  | request now limit message token replies => exact h.request now limit message token replies
  | reply request response => exact h.inbound (inbound_reply log.endpoint request response)
  | send message => exact h.inbound (inbound_send log.endpoint message)
  | reset => exact attributed_start log.endpoint

/-- **Every run leaves what is queued to the peer**, but for what was queued before
the peer was accepted. -/
theorem Attributed.run (h : log.Attributed) (calls : List Call) : (log.run calls).Attributed := by
  induction calls generalizing log with
  | nil => exact h
  | cons call calls ih => exact ih (h.step call)

/-! ## Main result -/

/-- What is held stays as long as there is no reset. -/
theorem held_run {calls : List Call} (hcalls : ∀ call ∈ calls, call ≠ .reset) (log : Log)
    {turn : Nat} {entry : Datagram × Message} (h : log.held[turn]? = some entry) :
    (log.run calls).held[turn]? = some entry := by
  obtain ⟨later, hlater⟩ := reads_run hcalls log
  obtain ⟨hturn, -⟩ := List.getElem?_eq_some_iff.1 h
  rw [held, ← hlater, List.filterMap_append]
  exact (List.getElem?_append_left hturn).trans h

/-- The message that is received is the one whose turn it is. -/
theorem Accounted.held_received (h : log.Accounted) {now : Nat} {limit : Option Nat}
    {message : Message} (hresult : (log.endpoint.receive now limit).result = .ok message) :
    ∃ datagram,
      (log.step (.receive now limit)).held[log.received.length]? = some (datagram, message) := by
  have hmap := (h.receive now limit).map_held
  have hreceived : (log.step (.receive now limit)).received = log.received ++ [message] := by
    show log.received ++ _ = _
    rw [hresult]
    rfl
  have hturn : ((log.step (.receive now limit)).held.map (·.2))[log.received.length]? =
      some message := by
    rw [hmap, hreceived]
    simp
  rw [List.getElem?_map] at hturn
  obtain ⟨⟨datagram, _⟩, hentry, rfl⟩ := Option.map_eq_some_iff.1 hturn
  exact ⟨datagram, hentry⟩

/-- Whatever is held at the turn of the next message is received next. -/
theorem Accounted.receive_held (h : log.Accounted) {datagram : Datagram} {message : Message}
    (hentry : log.held[log.received.length]? = some (datagram, message)) (now : Nat)
    (limit : Option Nat) : (log.endpoint.receive now limit).result = .ok message := by
  have hturn : (log.held.map (·.2))[log.received.length]? = some message := by
    rw [List.getElem?_map, hentry]
    rfl
  rw [h.map_held, List.getElem?_append_right (Nat.le_refl _), Nat.sub_self] at hturn
  obtain ⟨rest, hpending⟩ := List.head?_eq_some_iff.1 (List.head?_eq_getElem?.trans hturn)
  rw [receive_of_pending hpending]

/-- Only from a peer is anything received. -/
theorem Accounted.peer_of_received (h : log.Accounted) {now : Nat} {limit : Option Nat}
    {message : Message} (hresult : (log.endpoint.receive now limit).result = .ok message) :
    ∃ peer, log.endpoint.peer = some peer := by
  cases hpending : log.endpoint.pending with
  | cons first rest => exact Option.isSome_iff_exists.1 (h.connected (by simp [hpending]))
  | nil =>
      cases hpeer : log.endpoint.peer with
      | some peer => exact ⟨peer, rfl⟩
      | none => simp [Endpoint.receive, hpending, hpeer] at hresult

/-- A message that is received when none is left of what was queued before the peer
was accepted comes from the peer. -/
theorem Attributed.remote_of_received (h : log.Attributed) (hbacklog : log.backlog = 0) {now : Nat}
    {limit : Option Nat} {message : Message} {entry : Datagram × Message}
    (hresult : (log.endpoint.receive now limit).result = .ok message)
    (hentry : (log.step (.receive now limit)).held[log.received.length]? = some entry) :
    (log.step (.receive now limit)).endpoint.remote = .ok (Peer.ofAddress entry.1.source) := by
  obtain ⟨peer, hpeer⟩ := h.accounted.peer_of_received hresult
  have hwaited : (log.step (.receive now limit)).held = (log.afterWait log.endpoint
      (log.endpoint.receive now limit) (some peer) none).held := by
    rw [← hpeer]
    rfl
  have hturn : log.received.length + log.backlog ≤ log.received.length := by omega
  have hmem : entry ∈ (log.step (.receive now limit)).held.drop log.received.length := by
    refine List.mem_of_getElem? (i := 0) ?_
    rw [List.getElem?_drop]
    exact hentry
  rw [hwaited] at hmem
  have hafter : (log.step (.receive now limit)).endpoint.peer = some peer :=
    (peer_receive log.endpoint now limit).trans hpeer
  rw [remote, hafter, h.recent_afterWait hpeer hturn hmem]

/-- The message that a sender is accepted by has its turn behind what is queued, and
keeps it until there is a reset. -/
theorem Accounted.held_accepted (h : log.Accounted) {now : Nat} {limit : Option Nat}
    {arrival : Arrival} {message : Message}
    (hfirst : Socket.firstReadable (limit.map (now + ·)) log.endpoint.socket.arrivals =
      some arrival)
    (hmessage : arrival.datagram.message.toOption = some message) {calls : List Call}
    (hcalls : ∀ call ∈ calls, call ≠ .reset) :
    ((log.step (.accept now limit)).run calls).held[log.received.length +
      log.endpoint.pending.length]? = some (arrival.datagram, message) := by
  apply held_run hcalls
  rw [held_accept, hfirst, ← h.length_held]
  simp [hmessage]

/-- **Messages are received in the order of the datagrams that brought them, and
they are the peer's unless they were queued before it was accepted.**  Whatever
was called before, a message that is received comes from the datagram whose turn
it is, and if none is left of what was queued when the peer was accepted, that is
a datagram of the peer.  The datagram that a sender is accepted by comes behind
what was queued then, and so it is the next one if nothing was. -/
theorem received_from_peer (endpoint : Endpoint) (calls : List Call) :
    let log := (start endpoint).run calls
    (∀ now limit message, (log.endpoint.receive now limit).result = .ok message →
      let after := log.step (.receive now limit)
      ∃ datagram, after.held[log.received.length]? = some (datagram, message) ∧
        datagram.message = .ok message ∧
        (log.backlog = 0 → after.endpoint.remote = .ok (Peer.ofAddress datagram.source))) ∧
      log.backlog ≤ log.endpoint.pending.length ∧
      ∀ now limit peer, (log.endpoint.accept now limit).result = .ok peer →
        let accepted := log.step (.accept now limit)
        let turn := log.received.length + log.endpoint.pending.length
        accepted.backlog = log.endpoint.pending.length ∧
          ∃ arrival message,
            Socket.firstReadable (limit.map (now + ·)) log.endpoint.socket.arrivals =
                some arrival ∧
              peer = Peer.ofAddress arrival.datagram.source ∧
              ∀ calls, (∀ call ∈ calls, call ≠ .reset) →
                let later := accepted.run calls
                later.held[turn]? = some (arrival.datagram, message) ∧
                  (later.received.length = turn → ∀ now limit,
                    (later.endpoint.receive now limit).result = .ok message) := by
  intro log
  have h : log.Attributed := (attributed_start endpoint).run calls
  refine ⟨?_, h.backlog_le, ?_⟩
  · intro now limit message hresult after
    obtain ⟨datagram, hentry⟩ := h.accounted.held_received hresult
    exact ⟨datagram, hentry, message_of_mem_held (List.mem_of_getElem? hentry),
      fun hbacklog => h.remote_of_received hbacklog hresult hentry⟩
  · intro now limit peer hresult accepted turn
    rcases log.endpoint.accept_cases_of now limit with
      ⟨-, herror, -⟩ | ⟨_, arrival, message, _, hfirst, -, -, hmessage, haccepted, -⟩
    · cases herror.symm.trans hresult
    · have hbacklog : accepted.backlog = log.endpoint.pending.length := by
        simp only [accepted, Log.step, hresult]
      refine ⟨hbacklog, arrival, message, hfirst,
        Except.ok.inj (hresult.symm.trans haccepted), ?_⟩
      intro calls hcalls later
      have hheld : later.held[turn]? = some (arrival.datagram, message) :=
        h.accounted.held_accepted hfirst hmessage hcalls
      refine ⟨hheld, ?_⟩
      intro hreceived
      have haccounted : later.Accounted := (h.accounted.accept now limit).run calls
      rw [← hreceived] at hheld
      exact haccounted.receive_held hheld

/-! ## Two clients -/

/-- A client's request for `/a`. -/
def firstVisit : Datagram := ⟨.v4 127 0 0 1 40001, [0x41, 0x01, 0x00, 0x07, 0x01, 0xB1, 0x61]⟩

/-- Another client's request for `/b`. -/
def secondVisit : Datagram := ⟨.v4 127 0 0 1 40002, [0x41, 0x01, 0x00, 0x08, 0x02, 0xB1, 0x62]⟩

/-- An endpoint of the local host. -/
def localEndpoint : Endpoint := bind (.v4 127 0 0 1 5683) .none 0

/-- If the request of the first is received before the other is accepted, what is
received next is the peer's. -/
theorem received_from_peer_in_turn :
    let log := (start localEndpoint).run
      [.deliver 0 [(0, firstVisit), (1, secondVisit)], .accept 0 none, .receive 0 none,
        .accept 0 none]
    let after := log.step (.receive 1 (some 5))
    ∃ message, (log.endpoint.receive 1 (some 5)).result = .ok message ∧ log.backlog = 0 ∧
      after.held.map (·.1) = [firstVisit, secondVisit] ∧
      ∃ datagram, after.held[1]? = some (datagram, message) ∧ datagram.message = .ok message ∧
        after.endpoint.remote = .ok (Peer.ofAddress datagram.source) := by
  intro log after
  have hreceived : (log.endpoint.receive 1 (some 5)).result.toOption.isSome = true := by
    decide +kernel
  have hbacklog : log.backlog = 0 := by decide +kernel
  have hturn : log.received.length = 1 := by decide +kernel
  cases hresult : (log.endpoint.receive 1 (some 5)).result with
  | error failure => simp [hresult, Except.toOption] at hreceived
  | ok message =>
      obtain ⟨datagram, hheld, hmessage, hpeer⟩ :=
        (received_from_peer localEndpoint _).1 1 (some 5) message hresult
      refine ⟨message, rfl, hbacklog, by decide +kernel, datagram, ?_, hmessage, hpeer hbacklog⟩
      rw [← hturn]
      exact hheld

/-- **A message of another client is received.**  Two clients come and are accepted
one after the other.  The second is the peer, but what is received is the
request of the first, and nothing of what the peer has sent. -/
theorem earlier_visitor_received :
    let log := (start localEndpoint).run
      [.deliver 0 [(0, firstVisit), (1, secondVisit)], .accept 0 none, .accept 0 none]
    let received := log.endpoint.receive 1 (some 5)
    received.endpoint.remote = .ok (Peer.ofAddress secondVisit.source) ∧
      received.result.toOption = firstVisit.message.toOption ∧
      received.result.toOption.map (·.path) = some "/a" ∧
      secondVisit.message.toOption.map (·.path) = some "/b" ∧
      Peer.ofAddress firstVisit.source ≠ Peer.ofAddress secondVisit.source := by
  decide +kernel

end Log
end Endpoint
end Blockwise
