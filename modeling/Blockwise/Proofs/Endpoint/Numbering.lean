import Blockwise.Proofs.Endpoint.Requests

/-!
# Which ids an endpoint makes up

One counter numbers what an endpoint sends on its own account: its requests, the responses
that are not acknowledgements, and whatever else asks for an id.  However these come mixed,
and whatever fails, the ids are made up in turn, and none comes again before all others have
been used.

* `Endpoint.Operation` — the calls of an endpoint, and those that only fit a response or
  make up an id.
* `Endpoint.Event` — what an operation fits, asks, sends or makes up; `Endpoint.event?` says
  which one it is.
* `Message.Fits` — a response that is fitted to its request.
* `Endpoint.Numbers` — what events add to an endpoint; `Endpoint.Log.numbers_perform` says it
  of one operation, `Endpoint.Log.numbers_performAll` of every run.
* `Endpoint.Log.madeUp_in_turn` — the main result.
-/

namespace Blockwise

/-! ## Requests and responses as they go out -/

namespace Message

/-- A request as it goes out: confirmable, with a made-up id and with a token. -/
def asked (request : Message) (id : UInt16) (token : Bytes) : Message :=
  { request with
    kind := .confirmable
    id
    token := if request.token.isEmpty then token else request.token }

/-- A response that says what it said, and belongs to a request. -/
structure Fits (fitted response request : Message) : Prop where
  code_eq : fitted.code = response.code
  options_eq : fitted.options = response.options
  payload_eq : fitted.payload = response.payload
  token_eq : fitted.token = request.token
  kind_eq : fitted.kind =
    if request.kind = .confirmable then .acknowledgement else .nonConfirmable
  id_eq : request.kind = .confirmable → fitted.id = request.id

theorem fits_fittedTo (response request : Message) (nextId : UInt16) :
    (response.fittedTo request nextId).Fits response request where
  code_eq := rfl
  options_eq := rfl
  payload_eq := rfl
  token_eq := rfl
  kind_eq := by simp [fittedTo, isConfirmable]
  id_eq hconfirmable := by simp [fittedTo, isConfirmable, hconfirmable]

end Message

namespace Endpoint

/-- A request that fits into a datagram goes out. -/
theorem ask_of_sendable {endpoint : Endpoint} {peer : Peer} {request : Message} {token : Bytes}
    (hpeer : endpoint.peer = some peer)
    (hsendable : (request.asked endpoint.nextId token).Sendable) :
    endpoint.ask request token = (.ok (request.asked endpoint.nextId token),
      { endpoint with nextId := endpoint.nextId + 1 }.afterSending peer
        (request.asked endpoint.nextId token)) := by
  have hconnected : endpoint.isConnected = true := by rw [isConnected, hpeer]; rfl
  have hsent : { endpoint with nextId := endpoint.nextId + 1 }.sendMessage _ = _ :=
    sendMessage_of_sendable hpeer hsendable
  simp only [Message.asked] at hsent
  simp only [ask, hconnected, if_true, takeId, hsent, Message.asked]

/-- A request is not sent without a peer, and takes the next id with one, whether it can be
sent or not. -/
theorem ask_cases (endpoint : Endpoint) (request : Message) (token : Bytes) :
    (endpoint.isConnected = false ∧
        endpoint.ask request token = (.error .notConnected, endpoint)) ∨
      ∃ peer, endpoint.peer = some peer ∧
        ((∃ failure, endpoint.ask request token =
            (.error failure, { endpoint with nextId := endpoint.nextId + 1 })) ∨
          endpoint.ask request token = (.ok (request.asked endpoint.nextId token),
            { endpoint with nextId := endpoint.nextId + 1 }.afterSending peer
              (request.asked endpoint.nextId token))) := by
  cases hconnected : endpoint.isConnected with
  | false => exact Or.inl ⟨rfl, by simp [ask, hconnected]⟩
  | true =>
      rcases { endpoint with nextId := endpoint.nextId + 1 }.sendMessage_cases
          (request.asked endpoint.nextId token) with
        ⟨failure, hfailed⟩ | ⟨peer, hpeer, hsendable, -⟩
      · obtain ⟨peer, hpeer⟩ := Option.isSome_iff_exists.1 hconnected
        refine Or.inr ⟨peer, hpeer, Or.inl ⟨failure, ?_⟩⟩
        simp only [Message.asked] at hfailed
        simp only [ask, hconnected, if_true, takeId, hfailed]
      · exact Or.inr ⟨peer, hpeer, Or.inr (ask_of_sendable hpeer hsendable)⟩

/-! ## Operations and events -/

/-- What can be done with an endpoint. -/
inductive Operation where
  /-- One of its calls. -/
  | call (call : Call)
  /-- To fit a response to a request without sending it. -/
  | correlate (request response : Message)
  /-- To make up an id. -/
  | takeId

/-- What an operation brings about as far as messages and ids are concerned. -/
inductive Event where
  /-- A response is fitted to a request. -/
  | fitted (request response fitted : Message)
  /-- A request goes out. -/
  | asked (request : Message)
  /-- A message is to be sent as it is. -/
  | told (message : Message)
  /-- An id is made up, and no message is known to bear it. -/
  | made (id : UInt16)

namespace Event

/-- The message of an event. -/
def message? : Event → Option Message
  | .fitted _ _ answer => some answer
  | .asked request => some request
  | .told message => some message
  | .made _ => none

/-- The id that is made up in an event: none for a response to a confirmable request. -/
def madeUp? : Event → Option UInt16
  | .fitted request _ answer => if request.kind = .confirmable then none else some answer.id
  | .asked request => some request.id
  | .told _ => none
  | .made id => some id

/-- Whether a response that was fitted in an event fits. -/
def Fits : Event → Prop
  | .fitted request response answer => answer.Fits response request
  | _ => True

end Event

/-- What an operation brings about at an endpoint.  A request that cannot be sent has taken
its id in vain. -/
def event? (endpoint : Endpoint) : Operation → Option Event
  | .call (.reply request response) =>
    some (.fitted request response (endpoint.correlate request response).1)
  | .call (.request _ _ message token _) =>
    match (endpoint.ask message token).1 with
    | .ok request => some (.asked request)
    | .error _ => if endpoint.isConnected then some (.made endpoint.takeId.1) else none
  | .call (.send message) => some (.told message)
  | .call _ => none
  | .correlate request response =>
    some (.fitted request response (endpoint.correlate request response).1)
  | .takeId => some (.made endpoint.takeId.1)

namespace Log

/-- The log after an operation. -/
def perform (log : Log) : Operation → Log
  | .call call => log.step call
  | .correlate request response =>
    { log with endpoint := (log.endpoint.correlate request response).2 }
  | .takeId => { log with endpoint := log.endpoint.takeId.2 }

/-- The log after a list of operations. -/
def performAll (log : Log) (operations : List Operation) : Log := operations.foldl perform log

/-- What a list of operations brings about, in order. -/
def events (log : Log) : List Operation → List Event
  | [] => []
  | operation :: operations =>
    (log.endpoint.event? operation).toList ++ (log.perform operation).events operations

end Log

/-! ## Ids in turn -/

/-- So many ids, made up in turn. -/
def idsFrom (first : UInt16) (count : Nat) : List UInt16 :=
  (List.range count).map fun number => first + UInt16.ofNat number

theorem idsFrom_add (first : UInt16) (count more : Nat) :
    idsFrom first (count + more) =
      idsFrom first count ++ idsFrom (first + UInt16.ofNat count) more := by
  simp [idsFrom, List.range_add, Function.comp_def, UInt16.ofNat_add, UInt16.add_assoc]

theorem toNat_getElem_idsFrom {first : UInt16} {count number : Nat}
    (h : number < (idsFrom first count).length) :
    ((idsFrom first count)[number]).toNat = (first.toNat + number) % 65536 := by
  simp [idsFrom, UInt16.toNat_add]

/-- No id comes again before all others have been made up. -/
theorem nodup_idsFrom (first : UInt16) (count start : Nat) :
    (((idsFrom first count).drop start).take 65536).Nodup := by
  rw [List.Nodup, List.pairwise_iff_getElem]
  intro earlier later hearlier hlater hlt hsame
  rw [List.getElem_take, List.getElem_take, List.getElem_drop, List.getElem_drop] at hsame
  have hids := congrArg UInt16.toNat hsame
  rw [toNat_getElem_idsFrom, toNat_getElem_idsFrom] at hids
  rw [List.length_take] at hlater
  omega

/-- After the last id comes the first. -/
example : idsFrom 65534 4 = [65534, 65535, 0, 1] := by decide

/-! ## What events add to an endpoint -/

/-- An endpoint before and after some events: what was fitted fits, the ids were made up in
turn, and nothing else was sent than messages of the events, in their order. -/
structure Numbers (before : Endpoint) (events : List Event) (after : Endpoint) : Prop where
  fits : ∀ event ∈ events, event.Fits
  ids_eq : events.filterMap Event.madeUp? =
    idsFrom before.nextId (events.filterMap Event.madeUp?).length
  nextId_eq : after.nextId =
    before.nextId + UInt16.ofNat (events.filterMap Event.madeUp?).length
  sent_eq : ∃ sent, after.socket.sent = before.socket.sent ++ sent ∧
    (sent.map (·.message)).Sublist (events.filterMap Event.message?)

variable {before between after endpoint : Endpoint} {events more : List Event}

/-- What neither makes up an id nor sends anything adds nothing. -/
theorem Numbers.quiet (hnextId : after.nextId = before.nextId)
    (hsent : after.socket.sent = before.socket.sent) : Numbers before [] after where
  fits := by simp
  ids_eq := rfl
  nextId_eq := by simpa using hnextId
  sent_eq := ⟨[], by simpa using hsent, List.Sublist.refl _⟩

/-- What happens one after the other adds up. -/
theorem Numbers.append (h : Numbers before events between) (hmore : Numbers between more after) :
    Numbers before (events ++ more) after where
  fits event hmem := (List.mem_append.1 hmem).elim (h.fits event) (hmore.fits event)
  ids_eq := by
    have hids := hmore.ids_eq
    rw [h.nextId_eq] at hids
    rw [List.filterMap_append, List.length_append, idsFrom_add, ← h.ids_eq, ← hids]
  nextId_eq := by
    rw [hmore.nextId_eq, h.nextId_eq, List.filterMap_append, List.length_append, UInt16.add_assoc,
      ← UInt16.ofNat_add]
  sent_eq := by
    obtain ⟨sent, hsent, hsub⟩ := h.sent_eq
    obtain ⟨rest, hrest, hsubRest⟩ := hmore.sent_eq
    refine ⟨sent ++ rest, by rw [hrest, hsent, List.append_assoc], ?_⟩
    rw [List.map_append, List.filterMap_append]
    exact hsub.append hsubRest

/-- One event, which makes up the next id if it makes up any. -/
theorem Numbers.single {event : Event} (hfits : event.Fits)
    (hid : ∀ id ∈ event.madeUp?, id = before.nextId)
    (hnextId : after.nextId =
      if event.madeUp?.isSome then before.nextId + 1 else before.nextId)
    (hsent : ∃ sent, after.socket.sent = before.socket.sent ++ sent ∧
      (sent.map (·.message)).Sublist event.message?.toList) :
    Numbers before [event] after where
  fits := by simpa using hfits
  ids_eq := by
    cases hmade : event.madeUp? with
    | none => simp [hmade, idsFrom]
    | some id =>
        obtain rfl := hid id hmade
        simp [hmade, idsFrom]
  nextId_eq := by
    cases hmade : event.madeUp? with
    | none => simpa [hmade] using hnextId
    | some id => simpa [hmade] using hnextId
  sent_eq := by
    cases hmessage : event.message? with
    | none => simpa [hmessage] using hsent
    | some message => simpa [hmessage] using hsent

/-- To fit a response makes up an id unless it is an acknowledgement. -/
theorem Numbers.fitted (before : Endpoint) (request response : Message)
    (hnextId : after.nextId = before.idAfter request)
    (hsent : ∃ sent, after.socket.sent = before.socket.sent ++ sent ∧
      (sent.map (·.message)).Sublist [response.fittedTo request before.nextId]) :
    Numbers before [.fitted request response (before.correlate request response).1] after := by
  rw [correlate_eq]
  refine Numbers.single (Message.fits_fittedTo response request before.nextId) ?_ ?_ hsent
  · intro id hid
    by_cases hconfirmable : request.kind = .confirmable
    · simp [Event.madeUp?, hconfirmable] at hid
    · simpa [Event.madeUp?, hconfirmable, Message.fittedTo, Message.isConfirmable] using hid.symm
  · by_cases hconfirmable : request.kind = .confirmable
    · simpa [Event.madeUp?, idAfter, Message.isConfirmable, hconfirmable] using hnextId
    · simpa [Event.madeUp?, idAfter, Message.isConfirmable, hconfirmable] using hnextId

/-- Nothing is made up or sent by what comes, -/
theorem numbers_deliverAll (endpoint : Endpoint) (now : Nat) (datagrams : List (Nat × Datagram)) :
    Numbers endpoint [] (endpoint.deliverAll now datagrams) :=
  Numbers.quiet rfl (endpoint.socket.sent_deliverAll now datagrams)

/-- nor in a wait for a response. -/
theorem numbers_awaitResponse (endpoint : Endpoint) (now limit : Nat) (request : Message) :
    Numbers endpoint [] (endpoint.awaitResponse now limit request).endpoint := by
  cases hpeer : endpoint.peer with
  | none =>
      simp only [awaitResponse, hpeer]
      exact Numbers.quiet rfl rfl
  | some peer =>
      rw [endpoint_awaitResponse hpeer]
      exact Numbers.quiet rfl rfl

theorem numbers_accept (endpoint : Endpoint) (now : Nat) (limit : Option Nat) :
    Numbers endpoint [] (endpoint.accept now limit).endpoint := by
  rcases endpoint.accept_cases_of now limit with
    ⟨-, -, hafter⟩ | ⟨_, _, _, _, -, -, -, -, -, hafter⟩
  · rw [hafter]
    exact Numbers.quiet rfl rfl
  · rw [hafter]
    exact Numbers.quiet rfl rfl

theorem numbers_receive (endpoint : Endpoint) (now : Nat) (limit : Option Nat) :
    Numbers endpoint [] (endpoint.receive now limit).endpoint := by
  cases hpending : endpoint.pending with
  | cons message rest =>
      rw [receive_of_pending hpending]
      exact Numbers.quiet rfl rfl
  | nil =>
      cases hpeer : endpoint.peer with
      | none =>
          simp only [receive, hpending, hpeer]
          exact Numbers.quiet rfl rfl
      | some peer =>
          rw [endpoint_receive hpending hpeer]
          exact Numbers.quiet rfl rfl

namespace Log

/-- A request takes an id if there is a peer, whatever becomes of it. -/
theorem numbers_request (log : Log) (now limit : Nat) (message : Message) (token : Bytes)
    (replies : List (Nat × Datagram)) :
    Numbers log.endpoint
      (log.endpoint.event? (.call (.request now limit message token replies))).toList
      (log.step (.request now limit message token replies)).endpoint := by
  rcases log.endpoint.ask_cases message token with
    ⟨hconnected, hask⟩ | ⟨peer, hpeer, ⟨failure, hask⟩ | hask⟩
  · simp only [event?, step, hask, hconnected]
    exact Numbers.quiet rfl rfl
  · have hconnected : log.endpoint.isConnected = true := by rw [isConnected, hpeer]; rfl
    simp only [event?, step, hask, hconnected, if_true, Option.toList_some]
    exact Numbers.single trivial (by simp [Event.madeUp?, takeId]) rfl
      ⟨[], (List.append_nil _).symm, List.nil_sublist _⟩
  · simp only [event?, step, hask, Option.toList_some]
    have hsent : Numbers log.endpoint [.asked (message.asked log.endpoint.nextId token)]
        ({ log.endpoint with nextId := log.endpoint.nextId + 1 }.afterSending peer
          (message.asked log.endpoint.nextId token)) :=
      Numbers.single trivial (by simp [Event.madeUp?, Message.asked]) rfl
        ⟨[⟨peer.address, _⟩], rfl, List.Sublist.refl _⟩
    exact (hsent.append (numbers_deliverAll _ now replies)).append
      (numbers_awaitResponse _ now limit _)

/-- **What one operation adds.** -/
theorem numbers_perform (log : Log) (operation : Operation) :
    Numbers log.endpoint (log.endpoint.event? operation).toList
      (log.perform operation).endpoint := by
  cases operation with
  | correlate request response =>
      refine Numbers.fitted _ request response ?_ ⟨[], ?_, List.nil_sublist _⟩
      · simp only [perform, correlate_eq]
      · simp only [perform, correlate_eq, List.append_nil]
  | takeId =>
      exact Numbers.single trivial (by simp [Event.madeUp?, takeId]) rfl
        ⟨[], (List.append_nil _).symm, List.nil_sublist _⟩
  | call call =>
      cases call with
      | deliver now datagrams => exact numbers_deliverAll log.endpoint now datagrams
      | reset => exact Numbers.quiet rfl rfl
      | accept now limit => exact numbers_accept log.endpoint now limit
      | receive now limit => exact numbers_receive log.endpoint now limit
      | request now limit message token replies =>
          exact numbers_request log now limit message token replies
      | reply request response =>
          rcases log.endpoint.reply_cases request response with
            ⟨failure, hreply, -⟩ | ⟨peer, -, hreply⟩
          · refine Numbers.fitted _ request response ?_ ⟨[], ?_, List.nil_sublist _⟩
            · simp only [perform, step, hreply]
            · simp only [perform, step, hreply, List.append_nil]
          · refine Numbers.fitted _ request response ?_
              ⟨[⟨peer.address, response.fittedTo request log.endpoint.nextId⟩], ?_,
                List.Sublist.refl _⟩
            · simp only [perform, step, hreply]
              rfl
            · simp only [perform, step, hreply]
              rfl
      | send message =>
          rcases log.endpoint.sendMessage_cases message with ⟨failure, hsend⟩ | ⟨peer, -, -, hsend⟩
          · refine Numbers.single trivial (by simp [Event.madeUp?]) ?_
              ⟨[], ?_, List.nil_sublist _⟩
            · simp [perform, step, hsend, Except.toOption, Event.madeUp?]
            · simp [perform, step, hsend, Except.toOption]
          · refine Numbers.single trivial (by simp [Event.madeUp?]) ?_
              ⟨[⟨peer.address, message⟩], ?_, List.Sublist.refl _⟩
            · simp [perform, step, hsend, Except.toOption, Event.madeUp?, afterSending]
            · simp [perform, step, hsend, Except.toOption]

/-- **What a run adds.** -/
theorem numbers_performAll (log : Log) (operations : List Operation) :
    Numbers log.endpoint (log.events operations) (log.performAll operations).endpoint := by
  induction operations generalizing log with
  | nil => exact Numbers.quiet rfl rfl
  | cons operation operations ih =>
      exact (log.numbers_perform operation).append (ih (log.perform operation))

/-- **Responses belong to their requests, and ids are made up in turn.**  Whatever is done with
an endpoint, every response that is fitted to a request keeps what it says, has the request's
token, and is an acknowledgement with the request's id just if the request is confirmable.  The
ids of all other responses, of the requests, and those that are made up otherwise follow one
another modulo 65536, so any 65536 of them in a row are different, and the next one is the next in
turn.  What is sent are messages of these events. -/
theorem madeUp_in_turn (log : Log) (operations : List Operation) :
    let events := log.events operations
    let ids := events.filterMap Event.madeUp?
    (∀ request response fitted, Event.fitted request response fitted ∈ events →
        fitted.Fits response request) ∧
      (∀ (number : Nat) (hlt : number < ids.length),
        ids[number].toNat = (log.endpoint.nextId.toNat + number) % 65536) ∧
      (∀ start, ((ids.drop start).take 65536).Nodup) ∧
      (log.performAll operations).endpoint.nextId.toNat =
        (log.endpoint.nextId.toNat + ids.length) % 65536 ∧
      ∃ sent, (log.performAll operations).endpoint.socket.sent =
          log.endpoint.socket.sent ++ sent ∧
        (sent.map (·.message)).Sublist (events.filterMap Event.message?) := by
  intro events ids
  obtain ⟨hfits, hids, hnextId, hsent⟩ := log.numbers_performAll operations
  have hids : ids = idsFrom log.endpoint.nextId ids.length := hids
  refine ⟨fun request response fitted hmem => hfits _ hmem, ?_, ?_, ?_, hsent⟩
  · intro number hlt
    rw [List.getElem_of_eq hids hlt, toNat_getElem_idsFrom]
  · intro start
    rw [hids]
    exact nodup_idsFrom log.endpoint.nextId ids.length start
  · rw [hnextId, UInt16.toNat_add, UInt16.toNat_ofNat', Nat.add_mod_mod]

end Log
end Endpoint
end Blockwise
