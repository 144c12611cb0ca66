import Blockwise.Proofs.Server.Serve

/-!
# What a message can do to a server

The step of a server, case by case: what is not a request is passed over, a
request that repeats an answered one gets that answer again, the gate ignores a
request, the server declines it or answers it with a block, or it stops.

* `Message.Sendable` — messages that fit into a datagram.
* `Server.Served` — the server after a message, with one constructor for each
  case; `Server.served_serve` says that there are no others.
-/

namespace Blockwise

/-! ## Sending -/

namespace Message

/-- A message that fits into a datagram. -/
def Sendable (message : Message) : Prop :=
  ∃ bytes, message.encode = .ok bytes ∧ bytes.length ≤ Datagram.sendLimit

/-- Two messages that say the same, whatever exchange they belong to. -/
structure SaysSame (message other : Message) : Prop where
  code : message.code = other.code
  options : message.options = other.options
  payload : message.payload = other.payload

end Message

namespace Endpoint

theorem sendMessage_of_sendable {endpoint : Endpoint} {peer : Peer} {message : Message}
    (hpeer : endpoint.peer = some peer) (h : message.Sendable) :
    endpoint.sendMessage message = .ok (endpoint.afterSending peer message) := by
  obtain ⟨bytes, hbytes, hlength⟩ := h
  exact sendMessage_of_encode hpeer hbytes hlength

/-- A message goes out to the peer if there is one and the message fits. -/
theorem sendMessage_cases (endpoint : Endpoint) (message : Message) :
    (∃ failure, endpoint.sendMessage message = .error failure) ∨
      ∃ peer, endpoint.peer = some peer ∧ message.Sendable ∧
        endpoint.sendMessage message = .ok (endpoint.afterSending peer message) := by
  cases hpeer : endpoint.peer with
  | none => exact Or.inl ⟨.notConnected, by rw [sendMessage, hpeer]⟩
  | some peer =>
      cases hbytes : message.encode with
      | error error =>
          refine Or.inl ⟨.socket (.message error), ?_⟩
          simp only [sendMessage, hpeer, Socket.send, hbytes]
      | ok bytes =>
          by_cases hlength : bytes.length ≤ Datagram.sendLimit
          · exact Or.inr ⟨peer, rfl, ⟨bytes, hbytes, hlength⟩,
              sendMessage_of_encode hpeer hbytes hlength⟩
          · refine Or.inl ⟨.socket .refused, ?_⟩
            simp only [sendMessage, hpeer, Socket.send, hbytes]
            rw [if_pos (by omega)]

/-- Fitting a response to its request leaves what it says, and changes nothing
of the endpoint but the next id. -/
theorem correlate_cases (endpoint : Endpoint) (request response : Message) :
    ∃ fitted nextId, fitted.SaysSame response ∧
      endpoint.correlate request response = (fitted, { endpoint with nextId }) := by
  rw [correlate]
  split
  · refine ⟨_, endpoint.nextId, ?_, rfl⟩
    exact ⟨rfl, rfl, rfl⟩
  · refine ⟨_, endpoint.nextId + 1, ?_, rfl⟩
    exact ⟨rfl, rfl, rfl⟩

end Endpoint

namespace Server

variable {server : Server} {message : Message}

/-! ## The pieces of a step -/

/-- The server when it has counted a request. -/
def count (server : Server) : Server :=
  server.tally fun stats => { stats with received := stats.received + 1 }

/-- The server when it has counted and recorded a request. -/
def record (server : Server) (request : Message) : Server :=
  { server.count with history := server.history.push request.record }

/-- The server when it has ignored a request. -/
def ignore (server : Server) (request : Message) : Server :=
  (server.record request).tally fun stats => { stats with dropped := stats.dropped + 1 }

/-- The server when the answer to a request went out to a peer. -/
def answered (server : Server) (request : Message) (peer : Peer) (nextId : UInt16)
    (answer : Message) : Server :=
  { server with
    endpoint := { server.endpoint with nextId }.afterSending peer answer
    lastAnswer :=
      if request.isConfirmable then some ⟨request.id, request.token, answer⟩
      else server.lastAnswer }

/-- The server when a kept answer went out to a peer once more. -/
def repeated (server : Server) (peer : Peer) (kept : CachedAnswer) : Server :=
  { server with endpoint := server.endpoint.afterSending peer kept.response }.tally
    fun stats => { stats with duplicates := stats.duplicates + 1 }

/-- What is not a request is passed over. -/
theorem serve_of_other (hmessage : message.isRequest = false) : server.serve message = server := by
  rw [serve, hmessage]
  rfl

/-- A request that repeats the one answered last gets that answer again. -/
theorem serve_of_kept {kept : CachedAnswer} (hrequest : message.isRequest = true)
    (hkept : server.lastAnswer.filter (·.fits message) = some kept) :
    server.serve message = server.count.repeatAnswer kept := by
  rw [serve, if_pos hrequest]
  simp only [tally, hkept]
  rfl

/-- A new request that the gate says no to is ignored. -/
theorem serve_of_ignored (hrequest : message.isRequest = true)
    (hnew : server.lastAnswer.filter (·.fits message) = none)
    (hgate : server.gate message (server.history.count message.record) = true) :
    server.serve message = server.ignore message :=
  serve_of_gate hrequest hnew hgate

/-- A request that is neither repeated nor ignored is responded to. -/
theorem serve_of_admitted (hrequest : message.isRequest = true)
    (hnew : server.lastAnswer.filter (·.fits message) = none)
    (hgate : server.gate message (server.history.count message.record) = false) :
    server.serve message = (server.record message).respond message := by
  rw [serve_of_new hrequest hnew]
  simp only [consider, tally, History.arrive, hgate, Bool.false_eq_true, if_false]
  rfl

/-- These are all the cases. -/
theorem serve_cases (server : Server) (message : Message) :
    message.isRequest = false ∨
    message.isRequest = true ∧
      ((∃ kept, server.lastAnswer.filter (·.fits message) = some kept) ∨
        server.lastAnswer.filter (·.fits message) = none ∧
          (server.gate message (server.history.count message.record) = true ∨
            server.gate message (server.history.count message.record) = false)) := by
  cases message.isRequest with
  | false => exact Or.inl rfl
  | true =>
      refine Or.inr ⟨rfl, ?_⟩
      cases server.lastAnswer.filter (·.fits message) with
      | some kept => exact Or.inl ⟨kept, rfl⟩
      | none =>
          cases server.gate message (server.history.count message.record) with
          | true => exact Or.inr ⟨rfl, Or.inl rfl⟩
          | false => exact Or.inr ⟨rfl, Or.inr rfl⟩

/-- Repeating an answer sends it to the peer or stops the server. -/
theorem repeatAnswer_cases (server : Server) (kept : CachedAnswer) :
    (∃ failure, server.repeatAnswer kept = server.stop failure) ∨
      ∃ peer, server.endpoint.peer = some peer ∧
        server.repeatAnswer kept = server.repeated peer kept := by
  rcases server.endpoint.sendMessage_cases kept.response with ⟨failure, h⟩ | ⟨peer, hpeer, -, h⟩
  · exact Or.inl ⟨failure, by rw [repeatAnswer, h]⟩
  · exact Or.inr ⟨peer, hpeer, by rw [repeatAnswer, h]; rfl⟩

/-- An answer goes out to the peer, or the server stops. -/
theorem answer_cases (server : Server) (request response : Message) :
    ∃ fitted nextId, fitted.SaysSame response ∧
      ((∃ failure, server.answer request response =
          { server with endpoint := { server.endpoint with nextId } }.stop failure) ∨
        ∃ peer, server.endpoint.peer = some peer ∧ fitted.Sendable ∧
          server.answer request response = server.answered request peer nextId fitted) := by
  obtain ⟨fitted, nextId, hsame, hfitted⟩ := server.endpoint.correlate_cases request response
  refine ⟨fitted, nextId, hsame, ?_⟩
  rcases { server.endpoint with nextId }.sendMessage_cases fitted with
    ⟨failure, h⟩ | ⟨peer, hpeer, hsendable, h⟩
  · exact Or.inl ⟨failure, by simp only [answer, hfitted, h]⟩
  · exact Or.inr ⟨peer, hpeer, hsendable, answer_of_sent hfitted h⟩

/-- Where the answer cannot be sent, the server stops. -/
theorem serveBlock_of_unsent {request response fitted : Message} {transfer after : Transfer}
    {endpoint : Endpoint} {failure : Failure}
    (hhandle : transfer.handle request = .ok (response, after))
    (hfitted : server.endpoint.correlate request response = (fitted, endpoint))
    (hunsent : endpoint.sendMessage fitted = .error failure) :
    server.serveBlock transfer request =
      { (server.keepTransfer transfer).keepTransfer after with endpoint }.stop failure := by
  have hkept : ((server.keepTransfer transfer).keepTransfer after).endpoint.correlate request
      response = (fitted, endpoint) := hfitted
  simp only [serveBlock, hhandle, answer, hkept, hunsent]
  rfl

/-! ## The step -/

/-- What a message makes of a server. -/
inductive Served (server : Server) (message : Message) : Server → Prop where
  /-- What is not a request is passed over. -/
  | passed (hmessage : message.isRequest = false) : Served server message server
  /-- A request that repeats the one answered last gets that answer again. -/
  | repeated (kept : CachedAnswer) (peer : Peer) (hrequest : message.isRequest = true)
      (hkept : server.lastAnswer = some kept) (hfits : kept.fits message = true)
      (hpeer : server.endpoint.peer = some peer) :
      Served server message (server.count.repeated peer kept)
  /-- The gate ignores a request. -/
  | ignored (hrequest : message.isRequest = true)
      (hnew : server.lastAnswer.filter (·.fits message) = none)
      (hgate : server.gate message (server.history.count message.record) = true) :
      Served server message (server.ignore message)
  /-- A request for nothing that the store has, or one that does not ask to read,
  is declined. -/
  | declined (peer : Peer) (nextId : UInt16) (answer : Message) (code : Code)
      (hrequest : message.isRequest = true) (hcode : code = .notFound ∨ code = .methodNotAllowed)
      (hanswer : answer.SaysSame (Message.responseTo message code))
      (hpeer : server.endpoint.peer = some peer) (hsendable : answer.Sendable) :
      Served server message ((server.record message).answered message peer nextId answer)
  /-- A request is answered with a block of its transfer. -/
  | block (peer : Peer) (nextId : UInt16) (answer response : Message) (transfer after : Transfer)
      (hrequest : message.isRequest = true)
      (htransfer : server.transferFor message.path = .ok transfer)
      (hhandle : transfer.handle message = .ok (response, after))
      (hanswer : answer.SaysSame response)
      (hpeer : server.endpoint.peer = some peer) (hsendable : answer.Sendable) :
      Served server message { (server.record message).answered message peer nextId answer with
        transfers := server.transfersWith after
        stats := Stats.afterBlock (server.record message).stats after }
  /-- The server stops.  Nothing has been sent. -/
  | stopped (failure : Failure) (nextId : UInt16) (history : History) (transfers : List Transfer)
      (hrequest : message.isRequest = true) :
      Served server message { server.count.stop failure with
        endpoint := { server.endpoint with nextId }, history, transfers }

/-- A request that is let through is declined or gets a block, or it stops the
server. -/
theorem served_respond (hrunning : server.failure = none) (hrequest : message.isRequest = true) :
    Served server message ((server.record message).respond message) := by
  have hdeclined : ∀ code, code = .notFound ∨ code = .methodNotAllowed →
      Served server message
        ((server.record message).answer message (Message.responseTo message code)) := by
    intro code hcode
    obtain ⟨fitted, nextId, hsame, ⟨failure, h⟩ | ⟨peer, hpeer, hsendable, h⟩⟩ :=
      (server.record message).answer_cases message (Message.responseTo message code)
    · rw [h]
      exact .stopped failure nextId _ _ hrequest
    · rw [h]
      exact .declined peer nextId fitted code hrequest hcode hsame hpeer hsendable
  rw [respond]
  split
  · exact hdeclined _ (Or.inr rfl)
  · cases htransfer : (server.record message).transferFor message.path with
    | error error => exact hdeclined _ (Or.inl rfl)
    | ok transfer =>
        simp only
        cases hhandle : transfer.handle message with
        | error mismatch =>
            simp only [serveBlock, hhandle]
            exact .stopped (.mismatch mismatch) server.endpoint.nextId _ _ hrequest
        | ok result =>
            obtain ⟨response, after⟩ := result
            obtain ⟨fitted, nextId, hsame, hfitted⟩ :=
              server.endpoint.correlate_cases message response
            rcases { server.endpoint with nextId }.sendMessage_cases fitted with
              ⟨failure, h⟩ | ⟨peer, hpeer, hsendable, h⟩
            · have hserve : (server.record message).serveBlock transfer message = _ :=
                serveBlock_of_unsent hhandle hfitted h
              rw [hserve]
              exact .stopped failure nextId _ _ hrequest
            · have hserve : (server.record message).serveBlock transfer message = _ :=
                serveBlock_of_handle hrunning hhandle hfitted h
              rw [hserve]
              exact .block peer nextId fitted response transfer after hrequest htransfer hhandle
                hsame hpeer hsendable

/-- **The step of a running server**, in all its cases. -/
theorem served_serve (server : Server) (message : Message) (hrunning : server.failure = none) :
    Served server message (server.serve message) := by
  rcases server.serve_cases message with
    hmessage | ⟨hrequest, ⟨kept, hkept⟩ | ⟨hnew, hgate | hgate⟩⟩
  · rw [serve_of_other hmessage]
    exact .passed hmessage
  · rw [serve_of_kept hrequest hkept]
    obtain ⟨hlast, hfits⟩ := Option.filter_eq_some_iff.1 hkept
    rcases server.count.repeatAnswer_cases kept with ⟨failure, hstop⟩ | ⟨peer, hpeer, hsent⟩
    · rw [hstop]
      exact .stopped failure server.endpoint.nextId server.history server.transfers hrequest
    · rw [hsent]
      exact .repeated kept peer hrequest hlast hfits hpeer
  · rw [serve_of_ignored hrequest hnew hgate]
    exact .ignored hrequest hnew hgate
  · rw [serve_of_admitted hrequest hnew hgate]
    exact served_respond hrunning hrequest

/-! ## What every step leaves -/

/-- Serving does not change whom the server talks to. -/
theorem peer_serve (server : Server) (message : Message) (hrunning : server.failure = none) :
    (server.serve message).endpoint.peer = server.endpoint.peer := by
  have h := served_serve server message hrunning
  generalize server.serve message = after at h ⊢
  cases h with
  | passed | repeated | ignored | declined | block | stopped => rfl

/-- Only a kept answer that goes out once more counts as a duplicate. -/
theorem kept_of_duplicates (server : Server) (message : Message)
    (hrunning : server.failure = none)
    (h : server.stats.duplicates < (server.serve message).stats.duplicates) :
    ∃ kept peer, message.isRequest = true ∧ server.lastAnswer = some kept ∧
      kept.fits message = true ∧ server.endpoint.peer = some peer ∧
      server.serve message = server.count.repeated peer kept := by
  have hserved := served_serve server message hrunning
  generalize server.serve message = after at h hserved ⊢
  cases hserved with
  | repeated kept peer hrequest hkept hfits hpeer =>
      exact ⟨kept, peer, hrequest, hkept, hfits, hpeer, rfl⟩
  | passed | ignored | declined | block | stopped => exact absurd h (Nat.lt_irrefl _)

end Server
end Blockwise
