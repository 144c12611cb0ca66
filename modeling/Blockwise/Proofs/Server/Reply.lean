import Blockwise.Proofs.Server.Stream

/-!
# The reply to a request

What a server replies to a request that it lets through is settled by its store
and by the transfer under way for the path.  Sending the reply adds what belongs
to the exchange: type, id and token.

* `Message.fittedTo` — a response as it goes out; `Endpoint.correlate_eq` says
  that this is what an endpoint makes of it.
* `Server.reply` — the response to a request and the transfer behind it, or why
  there is none.
* `Server.respond_of_reply`, `Server.respond_of_refusal` — the server after a
  reply, and after a request that its transfer refuses.
* `Server.Continues` — the server after a message that does not stop it, with
  what was decided on the way; `Server.continues_serve` says that there are no
  other cases.
-/

namespace Blockwise

/-! ## Responses as they go out -/

namespace Message

/-- A response as it goes out in answer to a request: an acknowledgement with the
request's id, or not confirmable with the id that is to be made up next. -/
def fittedTo (response request : Message) (nextId : UInt16) : Message :=
  { response with
    kind := if request.isConfirmable then .acknowledgement else .nonConfirmable
    token := request.token
    id := if request.isConfirmable then request.id else nextId }

/-- The length of a datagram: header, token, options, and a payload behind its
marker. -/
theorem length_encode {message : Message} {bytes : Bytes} (h : message.encode = .ok bytes) :
    ∃ written, writeFields 0 message.options.fields = .ok written ∧
      bytes.length = headerLength + message.token.length + written.length +
        (writePayload message.payload).length := by
  obtain ⟨-, written, hwritten, rfl⟩ := encode_eq_ok_iff.1 h
  refine ⟨written, hwritten, ?_⟩
  simp [headerLength, Bytes.ofUInt16]
  omega

/-- Whether a message fits into a datagram depends on token, options and payload
alone. -/
theorem Sendable.congr {message other : Message} (h : message.Sendable)
    (htoken : message.token = other.token) (hoptions : message.options = other.options)
    (hpayload : message.payload = other.payload) : other.Sendable := by
  obtain ⟨bytes, hbytes, hlength⟩ := h
  obtain ⟨written, hwritten, hsum⟩ := length_encode hbytes
  obtain ⟨others, hothers⟩ := encode_isOk_iff.2
    (htoken ▸ hoptions ▸ encode_isOk_iff.1 ⟨bytes, hbytes⟩)
  obtain ⟨written', hwritten', hsum'⟩ := length_encode hothers
  rw [← hoptions, hwritten] at hwritten'
  cases hwritten'
  refine ⟨others, hothers, ?_⟩
  rw [hsum', ← htoken, ← hpayload, ← hsum]
  exact hlength

/-- Which id has to be made up does not matter for that. -/
theorem sendable_fittedTo {response request : Message} {nextId : UInt16} (other : UInt16)
    (h : (response.fittedTo request nextId).Sendable) :
    (response.fittedTo request other).Sendable :=
  h.congr rfl rfl rfl

end Message

namespace Endpoint

/-- The id to be made up next when a request has been answered: an
acknowledgement uses none up. -/
def idAfter (endpoint : Endpoint) (request : Message) : UInt16 :=
  if request.isConfirmable then endpoint.nextId else endpoint.nextId + 1

theorem correlate_eq (endpoint : Endpoint) (request response : Message) :
    endpoint.correlate request response =
      (response.fittedTo request endpoint.nextId,
        { endpoint with nextId := endpoint.idAfter request }) := by
  by_cases h : request.kind = .confirmable
  · simp [correlate, Message.fittedTo, idAfter, Message.responseTo, Message.isConfirmable,
      Message.bare, h]
  · simp [correlate, Message.fittedTo, idAfter, Message.responseTo, Message.isConfirmable,
      Message.bare, takeId, h]

end Endpoint

namespace Server

variable {server : Server} {request message response : Message} {after : Option Transfer}
  {peer : Peer}

/-! ## The reply -/

/-- The response to a request that is let through, with the transfer that gave it
as it is afterwards if one did.  A transfer may refuse the request. -/
def reply (server : Server) (request : Message) : Except Mismatch (Message × Option Transfer) :=
  if request.code ≠ .get then .ok (Message.responseTo request .methodNotAllowed, none)
  else
    match server.transferFor request.path with
    | .error _ => .ok (Message.responseTo request .notFound, none)
    | .ok transfer =>
      match transfer.handle request with
      | .error mismatch => .error mismatch
      | .ok (response, after) => .ok (response, some after)

/-- A request is declined with 4.05 or 4.04, or its transfer refuses it or gives a
response. -/
theorem reply_cases (server : Server) (request : Message) :
    (∃ code, (code = .notFound ∨ code = .methodNotAllowed) ∧
      server.reply request = .ok (Message.responseTo request code, none) ∧
      server.respond request = server.answer request (Message.responseTo request code)) ∨
    (∃ transfer mismatch, server.reply request = .error mismatch ∧
      server.respond request = (server.keepTransfer transfer).stop (.mismatch mismatch)) ∨
    ∃ transfer response next, server.transferFor request.path = .ok transfer ∧
      transfer.handle request = .ok (response, next) ∧
      server.reply request = .ok (response, some next) ∧
      server.respond request = server.serveBlock transfer request := by
  rw [reply, respond]
  by_cases hcode : request.code ≠ .get
  · rw [if_pos hcode, if_pos hcode]
    exact Or.inl ⟨_, Or.inr rfl, rfl, rfl⟩
  · rw [if_neg hcode, if_neg hcode]
    cases htransfer : server.transferFor request.path with
    | error error => exact Or.inl ⟨_, Or.inl rfl, rfl, rfl⟩
    | ok transfer =>
        cases hhandle : transfer.handle request with
        | error mismatch =>
            refine Or.inr (Or.inl ⟨transfer, mismatch, by simp [hhandle], ?_⟩)
            simp only [serveBlock, hhandle]
        | ok result =>
            obtain ⟨response, next⟩ := result
            exact Or.inr (Or.inr ⟨transfer, response, next, rfl, hhandle, by simp [hhandle], rfl⟩)

/-- The server when a transfer has come this far, if the reply came from one. -/
def moved (server : Server) : Option Transfer → Server
  | none => server
  | some after =>
    { server with
      transfers := server.transfersWith after
      stats := Stats.afterBlock server.stats after }

/-- The server when a reply to a request went out to a peer. -/
def replied (server : Server) (request : Message) (peer : Peer) (response : Message)
    (after : Option Transfer) : Server :=
  (server.answered request peer (server.endpoint.idAfter request)
    (response.fittedTo request server.endpoint.nextId)).moved after

/-- What goes out then is the response, fitted to its request. -/
theorem sentBetween_replied (server : Server) (request : Message) (peer : Peer)
    (response : Message) (after : Option Transfer) :
    server.sentBetween ((server.record request).replied request peer response after) =
      [⟨peer.address, response.fittedTo request server.endpoint.nextId⟩] := by
  cases after <;> exact sentBetween_append rfl

/-! ## Responding -/

/-- A response that fits into a datagram is sent as it is fitted. -/
theorem answer_of_sendable (hpeer : server.endpoint.peer = some peer)
    (hsendable : (response.fittedTo request server.endpoint.nextId).Sendable) :
    server.answer request response =
      server.answered request peer (server.endpoint.idAfter request)
        (response.fittedTo request server.endpoint.nextId) :=
  answer_of_sent (server.endpoint.correlate_eq request response)
    (Endpoint.sendMessage_of_sendable hpeer hsendable)

/-- A reply that fits into a datagram goes out. -/
theorem respond_of_reply (hopen : server.failure = none) (hpeer : server.endpoint.peer = some peer)
    (hreply : server.reply request = .ok (response, after))
    (hsendable : (response.fittedTo request server.endpoint.nextId).Sendable) :
    server.respond request = server.replied request peer response after := by
  rcases server.reply_cases request with
    ⟨code, -, hdecline, hrespond⟩ | ⟨transfer, mismatch, hrefuse, -⟩ |
      ⟨transfer, block, next, -, hhandle, hblock, hrespond⟩
  · cases hdecline.symm.trans hreply
    rw [hrespond, answer_of_sendable hpeer hsendable]
    rfl
  · cases hrefuse.symm.trans hreply
  · cases hblock.symm.trans hreply
    rw [hrespond, serveBlock_of_handle hopen hhandle (server.endpoint.correlate_eq request _)
      (Endpoint.sendMessage_of_sendable hpeer hsendable)]
    rfl

/-- A reply that does not fit stops the server. -/
theorem failure_of_unsendable (hreply : server.reply request = .ok (response, after))
    (hunsendable : ¬(response.fittedTo request server.endpoint.nextId).Sendable) :
    (server.respond request).failure ≠ none := by
  have hfitted := server.endpoint.correlate_eq request response
  obtain ⟨failure, hunsent⟩ := (Endpoint.sendMessage_cases
    { server.endpoint with nextId := server.endpoint.idAfter request }
    (response.fittedTo request server.endpoint.nextId)).resolve_right
      (fun ⟨_, _, hsendable, _⟩ => hunsendable hsendable)
  rcases server.reply_cases request with
    ⟨code, -, hdecline, hrespond⟩ | ⟨transfer, mismatch, hrefuse, -⟩ |
      ⟨transfer, block, next, -, hhandle, hblock, hrespond⟩
  · cases hdecline.symm.trans hreply
    simp [hrespond, answer, hfitted, hunsent, stop]
  · cases hrefuse.symm.trans hreply
  · cases hblock.symm.trans hreply
    rw [hrespond, serveBlock_of_unsent hhandle hfitted hunsent]
    simp [stop]

/-- A request that its transfer refuses stops the server. -/
theorem respond_of_refusal {mismatch : Mismatch} (h : server.reply request = .error mismatch) :
    ∃ transfer,
      server.respond request = (server.keepTransfer transfer).stop (.mismatch mismatch) := by
  rcases server.reply_cases request with
    ⟨code, -, hdecline, -⟩ | ⟨transfer, refusal, hrefuse, hrespond⟩ |
      ⟨transfer, block, next, -, -, hblock, -⟩
  · cases hdecline.symm.trans h
  · cases hrefuse.symm.trans h
    exact ⟨transfer, hrespond⟩
  · cases hblock.symm.trans h

/-! ## Messages that do not stop the server -/

/-- What a message from a peer makes of a server that goes on running, and what
was decided on the way. -/
inductive Continues (server : Server) (peer : Peer) (message : Message) : Server → Prop where
  /-- What is not a request is passed over. -/
  | passed (hmessage : message.isRequest = false) : Continues server peer message server
  /-- A request that repeats the one answered last gets that answer again. -/
  | repeated (kept : CachedAnswer) (hrequest : message.isRequest = true)
      (hkept : server.lastAnswer.filter (·.fits message) = some kept) :
      Continues server peer message (server.count.repeated peer kept)
  /-- The gate ignores a request. -/
  | ignored (hrequest : message.isRequest = true)
      (hnew : server.lastAnswer.filter (·.fits message) = none)
      (hgate : server.gate message (server.history.count message.record) = true) :
      Continues server peer message (server.ignore message)
  /-- A request is let through and gets its reply. -/
  | replied (response : Message) (after : Option Transfer) (hrequest : message.isRequest = true)
      (hnew : server.lastAnswer.filter (·.fits message) = none)
      (hgate : server.gate message (server.history.count message.record) = false)
      (hreply : server.reply message = .ok (response, after))
      (hsendable : (response.fittedTo message server.endpoint.nextId).Sendable) :
      Continues server peer message ((server.record message).replied message peer response after)

/-- A request that is let through and does not stop the server gets its reply. -/
theorem reply_of_running (server : Server) (hopen : server.failure = none)
    (hpeer : server.endpoint.peer = some peer)
    (hrunning : (server.respond request).failure = none) :
    ∃ response after, server.reply request = .ok (response, after) ∧
      (response.fittedTo request server.endpoint.nextId).Sendable ∧
      server.respond request = server.replied request peer response after := by
  cases hreply : server.reply request with
  | error mismatch =>
      obtain ⟨transfer, hrespond⟩ := respond_of_refusal hreply
      rw [hrespond] at hrunning
      cases hrunning
  | ok result =>
      obtain ⟨response, after⟩ := result
      have hsendable : (response.fittedTo request server.endpoint.nextId).Sendable := by
        by_contra hunsendable
        exact failure_of_unsendable hreply hunsendable hrunning
      exact ⟨response, after, rfl, hsendable, respond_of_reply hopen hpeer hreply hsendable⟩

/-- These are all the cases. -/
theorem continues_serve (hpeer : server.endpoint.peer = some peer)
    (hrunning : (server.serve message).failure = none) (hopen : server.failure = none) :
    Continues server peer message (server.serve message) := by
  rcases server.serve_cases message with
    hmessage | ⟨hrequest, ⟨kept, hkept⟩ | ⟨hnew, hgate | hgate⟩⟩
  · rw [serve_of_other hmessage]
    exact .passed hmessage
  · rw [serve_of_kept hrequest hkept] at hrunning ⊢
    rcases server.count.repeatAnswer_cases kept with ⟨failure, hstop⟩ | ⟨known, hknown, hsent⟩
    · rw [hstop] at hrunning
      cases hrunning
    · obtain rfl : known = peer := Option.some.inj (hknown.symm.trans hpeer)
      rw [hsent]
      exact .repeated kept hrequest hkept
  · rw [serve_of_ignored hrequest hnew hgate]
    exact .ignored hrequest hnew hgate
  · rw [serve_of_admitted hrequest hnew hgate] at hrunning ⊢
    obtain ⟨response, after, hreply, hsendable, hrespond⟩ :=
      (server.record message).reply_of_running hopen hpeer hrunning
    rw [hrespond]
    exact .replied response after hrequest hnew hgate hreply hsendable

end Server
end Blockwise
