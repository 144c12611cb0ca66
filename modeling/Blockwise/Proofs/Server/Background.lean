import Blockwise.Proofs.Server.Cases

/-!
# What an answer does not depend on

A server goes by its gate and its history when it decides whether to ignore a
request, and it keeps its counts and the list of what it sent only for others
to see.  Once a request is let through, none of this plays a part.

* `Server.against` — the server against another background.
* `Server.respond_against` — a response is the same against every background.
* `Server.serve_having` — so is the whole step, if gate and history stay.
-/

namespace Blockwise

/-! ## The endpoint -/

namespace Endpoint

/-- The endpoint, had it sent some messages before all others. -/
def havingSent (endpoint : Endpoint) (sent : List Outgoing) : Endpoint :=
  { endpoint with socket :=
      { endpoint.socket with sent := sent ++ endpoint.socket.sent } }

variable (endpoint : Endpoint) (sent : List Outgoing)

theorem correlate_havingSent (request response : Message) :
    (endpoint.havingSent sent).correlate request response =
      ((endpoint.correlate request response).1,
        (endpoint.correlate request response).2.havingSent sent) := by
  simp only [correlate]
  split
  · rfl
  · rfl

theorem sendMessage_havingSent (message : Message) :
    (endpoint.havingSent sent).sendMessage message =
      (endpoint.sendMessage message).map (·.havingSent sent) := by
  rw [sendMessage, sendMessage]
  cases hpeer : endpoint.peer with
  | none => simp [havingSent, hpeer, Except.map]
  | some peer =>
      simp only [havingSent, hpeer, Socket.send]
      cases message.encode with
      | error error => rfl
      | ok bytes =>
          by_cases hlength : Datagram.sendLimit < bytes.length
          · simp [hlength, Except.map]
          · simp [hlength, Except.map]

end Endpoint

/-! ## The server -/

/-- What stands behind a server: its gate and its history, what it sent before
and what it counted before. -/
structure Background where
  gate : Gate
  history : History
  sent : List Outgoing
  stats : Stats

namespace Server

/-- The server against a background: with its gate and its history, and with
what was sent and counted before in front of its own. -/
def against (server : Server) (behind : Background) : Server :=
  { server with
    endpoint := server.endpoint.havingSent behind.sent
    gate := behind.gate
    history := behind.history
    stats := {
      received := behind.stats.received + server.stats.received
      dropped := behind.stats.dropped + server.stats.dropped
      duplicates := behind.stats.duplicates + server.stats.duplicates
      answered := behind.stats.answered + server.stats.answered
      completed := behind.stats.completed + server.stats.completed } }

/-- The server with another peer, or with none. -/
def facing (server : Server) (peer : Option Peer) : Server :=
  { server with endpoint := { server.endpoint with peer } }

variable (server : Server) (behind : Background)

theorem count_against : (server.against behind).count = server.count.against behind :=
  rfl

/-- The record of a request goes into the history behind the server. -/
theorem record_against (request : Message) :
    (server.against behind).record request =
      (server.record request).against
        { behind with history := behind.history.push request.record } :=
  rfl

theorem answer_against (request response : Message) :
    (server.against behind).answer request response =
      (server.answer request response).against behind := by
  simp only [answer, against, Endpoint.correlate_havingSent, Endpoint.sendMessage_havingSent]
  cases (server.endpoint.correlate request response).2.sendMessage
      (server.endpoint.correlate request response).1 with
  | error failure => rfl
  | ok endpoint => rfl

theorem repeatAnswer_against (kept : CachedAnswer) :
    (server.against behind).repeatAnswer kept = (server.repeatAnswer kept).against behind := by
  simp only [repeatAnswer, against, Endpoint.sendMessage_havingSent]
  cases server.endpoint.sendMessage kept.response with
  | error failure => rfl
  | ok endpoint => rfl

theorem countBlock_against (transfer : Transfer) :
    (server.against behind).countBlock transfer = (server.countBlock transfer).against behind := by
  simp only [countBlock]
  split
  · rfl
  · rfl

theorem serveBlock_against (transfer : Transfer) (request : Message) :
    (server.against behind).serveBlock transfer request =
      (server.serveBlock transfer request).against behind := by
  have hkeep : ∀ (server : Server) (transfer : Transfer),
      (server.against behind).keepTransfer transfer =
        (server.keepTransfer transfer).against behind := fun _ _ => rfl
  simp only [serveBlock, hkeep]
  cases transfer.handle request with
  | error mismatch => rfl
  | ok result =>
      simp only [answer_against]
      have hstopped : ∀ server : Server, (server.against behind).isStopped = server.isStopped :=
        fun _ => rfl
      rw [hstopped]
      split
      · rfl
      · rw [countBlock_against]

/-- A response is the same against every background. -/
theorem respond_against (request : Message) :
    (server.against behind).respond request = (server.respond request).against behind := by
  have hfor : ∀ path, (server.against behind).transferFor path = server.transferFor path :=
    fun _ => rfl
  simp only [respond, hfor]
  split
  · rw [answer_against]
  · cases server.transferFor request.path with
    | error error => exact answer_against _ _ _ _
    | ok transfer => exact serveBlock_against _ _ _ _

/-! ## The whole step -/

theorem against_self :
    server.against ⟨server.gate, server.history, [], Stats.zero⟩ = server := by
  simp [against, Endpoint.havingSent, Stats.zero]

/-- A response changes neither the gate nor the history. -/
theorem respond_keeps (request : Message) :
    (server.respond request).gate = server.gate ∧
      (server.respond request).history = server.history := by
  have h := respond_against server ⟨server.gate, server.history, [], Stats.zero⟩ request
  rw [against_self] at h
  rw [h]
  exact ⟨rfl, rfl⟩

theorem repeatAnswer_keeps (kept : CachedAnswer) :
    (server.repeatAnswer kept).gate = server.gate ∧
      (server.repeatAnswer kept).history = server.history := by
  have h := repeatAnswer_against server ⟨server.gate, server.history, [], Stats.zero⟩ kept
  rw [against_self] at h
  rw [h]
  exact ⟨rfl, rfl⟩

/-- Serving leaves the gate as it is. -/
theorem gate_serve (message : Message) : (server.serve message).gate = server.gate := by
  rcases server.serve_cases message with
    hother | ⟨hrequest, ⟨kept, hkept⟩ | ⟨hnew, hgate | hgate⟩⟩
  · rw [serve_of_other hother]
  · rw [serve_of_kept hrequest hkept]
    exact (server.count.repeatAnswer_keeps kept).1
  · rw [serve_of_ignored hrequest hnew hgate]
    rfl
  · rw [serve_of_admitted hrequest hnew hgate]
    exact ((server.record message).respond_keeps message).1

/-- The server, had it sent and counted something before. -/
def having (sent : List Outgoing) (stats : Stats) : Server :=
  server.against ⟨server.gate, server.history, sent, stats⟩

/-- A step is the same whatever was sent and counted before. -/
theorem serve_having (sent : List Outgoing) (stats : Stats) (message : Message) :
    (server.having sent stats).serve message = (server.serve message).having sent stats := by
  rcases server.serve_cases message with
    hother | ⟨hrequest, ⟨kept, hkept⟩ | ⟨hnew, hgate | hgate⟩⟩
  · rw [serve_of_other hother, serve_of_other hother]
  · obtain ⟨hsame, hseen⟩ := server.count.repeatAnswer_keeps kept
    have hplain : (server.having sent stats).serve message =
        (server.having sent stats).count.repeatAnswer kept := serve_of_kept hrequest hkept
    rw [hplain, serve_of_kept hrequest hkept, having, having, count_against, repeatAnswer_against,
      hsame, hseen]
    rfl
  · have hplain : (server.having sent stats).serve message =
        (server.having sent stats).ignore message := serve_of_ignored hrequest hnew hgate
    rw [hplain, serve_of_ignored hrequest hnew hgate]
    rfl
  · obtain ⟨hsame, hseen⟩ := (server.record message).respond_keeps message
    have hplain : (server.having sent stats).serve message =
        ((server.having sent stats).record message).respond message :=
      serve_of_admitted hrequest hnew hgate
    rw [hplain, serve_of_admitted hrequest hnew hgate, having, having, record_against,
      respond_against, hsame, hseen]
    rfl

end Server
end Blockwise
