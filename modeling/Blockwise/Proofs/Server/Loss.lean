import Blockwise.Proofs.Server.Background
import Blockwise.Proofs.Server.Stream

/-!
# Ignoring a request is losing it

A gate makes the server behave as if a datagram had been lost.  Here two servers
are run side by side: one with any gate, and one that ignores nothing but does
not get what the first one ignores.

* `Server.heeded` — what is left of a stream when the requests that the server
  ignores, and the messages that are no requests, are taken out of it.
* `Server.Follows` — what the two servers have in common; `Follows.take` says
  that no input separates them.
* `Server.takeAll_heeded` — they send the same and end up the same.
-/

namespace Blockwise

/-- Whether an input is a message that is no request. -/
def Input.isOther : Input → Bool
  | .message _ received => !received.isRequest
  | .change _ => false

namespace Server

/-- The input, unless it is no request or the server ignores it. -/
def heeds (server : Server) (input : Input) : List Input :=
  if input.isOther || server.ignores input then [] else [input]

/-- What is left of a stream without the requests that the server ignores on the
way and without the messages that are no requests. -/
def heeded (server : Server) : List Input → List Input
  | [] => []
  | input :: rest => server.heeds input ++ (server.take input).heeded rest

/-- What stands behind a server that has ignored so many requests. -/
def ignorant (gate : Gate) (history : History) (count : Nat) : Background where
  gate := gate
  history := history
  sent := []
  stats := { Stats.zero with received := count, dropped := count }

/-- One server follows another one that ignores requests: it ignores none, and
but for gate, history, peer and the counts of what was ignored they are the
same. -/
structure Follows (following ignoring : Server) : Prop where
  gate_eq : following.gate = Gate.answerAll
  same : ∃ gate history count peer,
    ignoring = (following.against (ignorant gate history count)).facing peer

variable {server following ignoring : Server}

/-! ## One step -/

/-- Only a new request that the gate says no to is counted as ignored. -/
theorem dropped_serve (server : Server) (message : Message) (hrunning : server.failure = none) :
    (server.serve message).stats.dropped = server.stats.dropped ∨
      server.lastAnswer.filter (·.fits message) = none ∧
        server.gate message (server.history.count message.record) = true := by
  have h := served_serve server message hrunning
  generalize server.serve message = after at h ⊢
  cases h with
  | ignored hrequest hnew hgate => exact Or.inr ⟨hnew, hgate⟩
  | _ => exact Or.inl rfl

/-- One more ignored request shows behind the server only. -/
theorem ignore_against (server : Server) (gate : Gate) (history : History) (count : Nat)
    (request : Message) :
    (server.against (ignorant gate history count)).ignore request =
      server.against (ignorant gate (history.push request.record) (count + 1)) := by
  simp [ignore, record, Server.count, tally, against, ignorant, Nat.add_right_comm]

/-- **One message, served twice.**  In front of a background that ignores
requests, a message either counts as ignored or is no request, and then only the
background changes, or it is served as it is without that background. -/
theorem serve_ignorant (server : Server) (message : Message) (hrunning : server.failure = none)
    (hgate : server.gate = Gate.answerAll) (gate : Gate) (history : History) (count : Nat) :
    (∃ history' count',
      (server.against (ignorant gate history count)).serve message =
        server.against (ignorant gate history' count') ∧
      (message.isRequest = false ∨ count < count')) ∨
    message.isRequest = true ∧ ∃ history',
      (server.against (ignorant gate history count)).serve message =
        (server.serve message).against (ignorant gate history' count) ∧
      (server.serve message).stats.dropped = server.stats.dropped := by
  rcases (server.against (ignorant gate history count)).serve_cases message with
    hother | ⟨hrequest, ⟨kept, hkept⟩ | ⟨hnew, hignored | hadmitted⟩⟩
  · exact Or.inl ⟨history, count, serve_of_other hother, Or.inl hother⟩
  · refine Or.inr ⟨hrequest, history, ?_, ?_⟩
    · have hplain : server.serve message = server.count.repeatAnswer kept :=
        serve_of_kept hrequest hkept
      rw [serve_of_kept hrequest hkept, count_against, repeatAnswer_against, hplain]
    · refine (server.dropped_serve message hrunning).resolve_right fun h => ?_
      exact Option.some_ne_none kept (hkept.symm.trans h.1)
  · refine Or.inl ⟨history.push message.record, count + 1, ?_, Or.inr (Nat.lt_succ_self count)⟩
    rw [serve_of_ignored hrequest hnew hignored, ignore_against]
  · have hopen : server.gate message (server.history.count message.record) = false := by
      rw [hgate]
      rfl
    have hplain : server.serve message = (server.record message).respond message :=
      serve_of_admitted hrequest hnew hopen
    refine Or.inr ⟨hrequest, history.push message.record, ?_, ?_⟩
    · rw [serve_of_admitted hrequest hnew hadmitted, record_against, respond_against, hplain]
      rfl
    · refine (server.dropped_serve message hrunning).resolve_right fun h => ?_
      rw [hopen] at h
      exact Bool.false_ne_true h.2

/-! ## Streams -/

theorem Follows.failure_eq (h : Follows following ignoring) :
    ignoring.failure = following.failure := by
  obtain ⟨gate, history, count, known, rfl⟩ := h.same
  rfl

/-- In front of a background that ignores requests, a message that comes in
either shows behind the server only, or does what it does without that
background. -/
theorem take_ignorant (hrunning : server.failure = none) (hgate : server.gate = Gate.answerAll)
    (gate : Gate) (history : History) (count : Nat) (known : Option Peer) (peer : Peer)
    (message : Message) :
    (∃ history' count',
      ((server.against (ignorant gate history count)).facing known).take (.message peer message) =
        (server.against (ignorant gate history' count')).facing (some peer) ∧
      (message.isRequest = false ∨ count < count')) ∨
    message.isRequest = true ∧ ∃ history' known',
      ((server.against (ignorant gate history count)).facing known).take (.message peer message) =
        ((server.take (.message peer message)).against (ignorant gate history' count)).facing
          known' ∧
      (server.take (.message peer message)).stats.dropped = server.stats.dropped := by
  have hheard : ((server.against (ignorant gate history count)).facing known).take
      (.message peer message) =
        ((server.hearing peer server.wokeAt).against (ignorant gate history count)).serve
          message :=
    take_of_running peer message hrunning
  rw [hheard, take_of_running peer message hrunning]
  rcases serve_ignorant (server.hearing peer server.wokeAt) message hrunning hgate gate history
      count with
    ⟨history', count', hserve, hlost⟩ | ⟨hrequest, history', hserve, hdropped⟩
  · exact Or.inl ⟨history', count', hserve, hlost⟩
  · exact Or.inr ⟨hrequest, history', _, hserve, hdropped⟩

/-- A heard message does not separate the two servers, if the second one does
not hear it in case it is lost. -/
theorem Follows.take_message (h : Follows following ignoring) (hrunning : ignoring.failure = none)
    (peer : Peer) (message : Message) :
    Follows (following.takeAll (ignoring.heeds (.message peer message)))
      (ignoring.take (.message peer message)) := by
  have hfollowing : following.failure = none := h.failure_eq ▸ hrunning
  obtain ⟨gate, history, count, known, rfl⟩ := h.same
  rcases take_ignorant hfollowing h.gate_eq gate history count known peer message with
    ⟨history', count', htake, hlost⟩ | ⟨hrequest, history', known', htake, hdropped⟩
  · have hheeds : ((following.against (ignorant gate history count)).facing known).heeds
        (.message peer message) = [] := by
      rw [heeds, if_pos]
      rw [ignores, htake]
      rcases hlost with hother | hmore
      · simp [Input.isOther, hother]
      · simp [against, ignorant, facing, hmore]
    rw [hheeds, htake]
    exact ⟨h.gate_eq, gate, history', count', some peer, rfl⟩
  · have hheeds : ((following.against (ignorant gate history count)).facing known).heeds
        (.message peer message) = [.message peer message] := by
      rw [heeds, if_neg]
      rw [ignores, htake]
      simp [Input.isOther, hrequest, against, ignorant, facing, hdropped]
    rw [hheeds, htake]
    refine ⟨?_, gate, history', count, known', rfl⟩
    show (following.take (.message peer message)).gate = Gate.answerAll
    rw [take_of_running peer message hfollowing, gate_serve]
    exact h.gate_eq

/-- No input separates the two servers. -/
theorem Follows.take (h : Follows following ignoring) (input : Input) :
    Follows (following.takeAll (ignoring.heeds input)) (ignoring.take input) := by
  cases input with
  | change change =>
      have hheeds : ignoring.heeds (.change change) = [.change change] := by
        rw [heeds, if_neg]
        simp [Input.isOther, ignores, Server.take]
      rw [hheeds]
      obtain ⟨gate, history, count, known, rfl⟩ := h.same
      exact ⟨h.gate_eq, gate, history, count, known, rfl⟩
  | message peer message =>
      by_cases hrunning : ignoring.failure = none
      · exact h.take_message hrunning peer message
      · have hfollowing : following.failure ≠ none := h.failure_eq ▸ hrunning
        have hstill : following.takeAll (ignoring.heeds (.message peer message)) = following := by
          rw [heeds]
          split
          · rfl
          · exact take_of_stopped _ _ hfollowing
        rwa [hstill, take_of_stopped _ _ hrunning]

theorem Follows.takeAll (h : Follows following ignoring) (inputs : List Input) :
    Follows (following.takeAll (ignoring.heeded inputs)) (ignoring.takeAll inputs) := by
  induction inputs generalizing following ignoring with
  | nil => exact h
  | cons input rest ih =>
      have hrest := ih (h.take input)
      rw [← takeAll_append] at hrest
      exact hrest

/-! ## Main result -/

/-- **To ignore a request is to lose it.**  Take any server, with any gate and
anything in its store, and any stream; and take the same server with a gate that
ignores nothing, and the stream without the requests that the first server
ignores and without the messages that are no requests.  Both send the same
messages, in the same order and to the same peers; they end with the same
transfers, the same kept answer and the same next id, with the same number of
blocks sent, of answers repeated and of transfers completed; and they are
stopped by the same failure or not at all. -/
theorem takeAll_heeded (server : Server) (inputs : List Input) :
    let ignoring := server.takeAll inputs
    let answering := { server with gate := Gate.answerAll }.takeAll (server.heeded inputs)
    answering.endpoint.socket.sent = ignoring.endpoint.socket.sent ∧
      answering.transfers = ignoring.transfers ∧
      answering.lastAnswer = ignoring.lastAnswer ∧
      answering.endpoint.nextId = ignoring.endpoint.nextId ∧
      answering.stats.answered = ignoring.stats.answered ∧
      answering.stats.duplicates = ignoring.stats.duplicates ∧
      answering.stats.completed = ignoring.stats.completed ∧
      answering.failure = ignoring.failure := by
  intro ignoring answering
  have hstart : Follows { server with gate := Gate.answerAll } server :=
    ⟨rfl, server.gate, server.history, 0, server.endpoint.peer, by
      simp [against, facing, ignorant, Stats.zero, Endpoint.havingSent]⟩
  obtain ⟨gate, history, count, known, hsame⟩ := (hstart.takeAll inputs).same
  have hignoring : ignoring = (answering.against (ignorant gate history count)).facing known :=
    hsame
  rw [hignoring]
  simp [against, facing, ignorant, Stats.zero, Endpoint.havingSent]

end Server
end Blockwise
