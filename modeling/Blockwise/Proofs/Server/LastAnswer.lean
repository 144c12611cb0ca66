import Blockwise.Proofs.Server.Stream

/-!
# The request that the kept answer is for

A server keeps an answer with the id and the token of the request that got it.
Which request that was, and from whom, shows only if one writes it down.

* `Answered.between?` — the confirmable request that was answered between two
  looks at a server, with its answer.
* `Answered.serve_cases` — serving changes the kept answer exactly if there is
  such a request, and then it keeps that answer.
* `Log.Keeps` — the log of a run names the request that the kept answer is for;
  `Log.Keeps.take` says that every input preserves this.
-/

namespace Blockwise

/-- A confirmable request that was answered, with the peer it came from and the
answer. -/
structure Answered where
  peer : Peer
  request : Message
  response : Message

namespace Answered

/-- What the server keeps of it. -/
def kept (answered : Answered) : CachedAnswer :=
  ⟨answered.request.id, answered.request.token, answered.response⟩

/-- The message, if it is a confirmable request that was answered between two
looks at a server.  An earlier answer sent once more does not count. -/
def between? (before after : Server) (peer : Peer) (message : Message) : Option Answered :=
  if message.isRequest && message.isConfirmable &&
      after.stats.duplicates = before.stats.duplicates then
    (before.sentBetween after).head?.map fun outgoing => ⟨peer, message, outgoing.message⟩
  else none

/-- A request that its kept answer fits, and an answer that can be sent. -/
structure Sound (answered : Answered) : Prop where
  isRequest : answered.request.isRequest = true
  isConfirmable : answered.request.isConfirmable = true
  sendable : answered.response.Sendable

variable {answered : Answered} {server after : Server} {peer : Peer} {message : Message}

/-- The answer is kept for every message that repeats the request. -/
theorem Sound.fits (h : answered.Sound) : answered.kept.fits answered.request = true := by
  simp [kept, CachedAnswer.fits, h.isConfirmable]

theorem between?_of_quiet (hquiet : after.endpoint.socket.sent = server.endpoint.socket.sent) :
    between? server after peer message = none := by
  rw [between?, Server.sentBetween_self hquiet]
  simp

theorem between?_of_counted (h : after.stats.duplicates = server.stats.duplicates + 1) :
    between? server after peer message = none := by
  rw [between?, if_neg]
  simp [h]

/-- An answer that goes out is noted if it is to be kept. -/
theorem between?_of_answered {nextId : UInt16} {answer : Message}
    (hrequest : message.isRequest = true) (hsendable : answer.Sendable)
    (hsent : after.endpoint = (server.answered message peer nextId answer).endpoint)
    (hkept : after.lastAnswer = (server.answered message peer nextId answer).lastAnswer)
    (hcounts : after.stats.duplicates = server.stats.duplicates) :
    (between? server after peer message = none ∧ after.lastAnswer = server.lastAnswer) ∨
      ∃ answered, between? server after peer message = some answered ∧
        after.lastAnswer = some answered.kept ∧ answered.peer = peer ∧
        answered.request = message ∧ answered.Sound := by
  have hnew : server.sentBetween after = [⟨peer.address, answer⟩] :=
    Server.sentBetween_append (by rw [hsent]; rfl)
  cases hconfirmable : message.isConfirmable with
  | false =>
      refine Or.inl ⟨by simp [between?, hconfirmable], ?_⟩
      rw [hkept, Server.answered, hconfirmable]
      rfl
  | true =>
      refine Or.inr ⟨⟨peer, message, answer⟩, ?_, ?_, rfl, rfl, ⟨hrequest, hconfirmable, hsendable⟩⟩
      · rw [between?, hnew, if_pos (by simp [hrequest, hconfirmable, hcounts])]
        rfl
      · rw [hkept, Server.answered, hconfirmable]
        rfl

/-- **What serving does to the kept answer.**  It stays, or it becomes that of
the request that was answered. -/
theorem serve_cases (server : Server) (message : Message) (hrunning : server.failure = none)
    (hpeer : server.endpoint.peer = some peer) :
    (between? server (server.serve message) peer message = none ∧
        (server.serve message).lastAnswer = server.lastAnswer) ∨
      ∃ answered, between? server (server.serve message) peer message = some answered ∧
        (server.serve message).lastAnswer = some answered.kept ∧ answered.peer = peer ∧
        answered.request = message ∧ answered.Sound := by
  have h := Server.served_serve server message hrunning
  generalize server.serve message = after at h ⊢
  cases h with
  | passed => exact Or.inl ⟨between?_of_quiet rfl, rfl⟩
  | repeated => exact Or.inl ⟨between?_of_counted rfl, rfl⟩
  | ignored => exact Or.inl ⟨between?_of_quiet rfl, rfl⟩
  | stopped => exact Or.inl ⟨between?_of_quiet rfl, rfl⟩
  | declined known nextId answer code hrequest hcode hanswer hknown hsendable =>
      obtain rfl : known = peer := Option.some.inj (hknown.symm.trans hpeer)
      exact between?_of_answered hrequest hsendable rfl rfl rfl
  | block known nextId answer response transfer next hrequest _ _ _ hknown hsendable =>
      obtain rfl : known = peer := Option.some.inj (hknown.symm.trans hpeer)
      exact between?_of_answered hrequest hsendable rfl rfl rfl

end Answered

/-! ## Logs -/

/-- A server with a note of the confirmable request that was answered last. -/
structure Log where
  server : Server
  last : Option Answered

namespace Log

/-- What is answered for an input. -/
def answered? (log : Log) (input : Input) : Option Answered :=
  match input with
  | .message peer message => Answered.between? log.server (log.server.take input) peer message
  | .change _ => none

/-- The log after an input. -/
def take (log : Log) (input : Input) : Log where
  server := log.server.take input
  last := (log.answered? input).or log.last

/-- The request that is noted is the one that the server keeps the answer
for. -/
def Keeps (log : Log) : Prop :=
  ∀ answered, log.last = some answered →
    log.server.lastAnswer = some answered.kept ∧ answered.Sound

variable {log : Log}

/-- Every input preserves this. -/
theorem Keeps.take (h : log.Keeps) (input : Input) : (log.take input).Keeps := by
  cases input with
  | change change => exact h
  | message peer message =>
      by_cases hrunning : log.server.failure = none
      · have hserve := Answered.serve_cases (log.server.hearing peer log.server.wokeAt) message
          hrunning rfl
        rw [← Server.take_of_running _ _ hrunning] at hserve
        rcases hserve with ⟨hnone, hsame⟩ | ⟨answered, hsome, hkept, -, -, hsound⟩
        · have hnothing : log.answered? (.message peer message) = none := hnone
          intro answered hlast
          rw [Log.take, hnothing] at hlast
          obtain ⟨hkept, hsound⟩ := h answered hlast
          exact ⟨hsame.trans hkept, hsound⟩
        · have hanswered : log.answered? (.message peer message) = some answered := hsome
          intro other hlast
          rw [Log.take, hanswered] at hlast
          obtain rfl : answered = other := Option.some.inj hlast
          exact ⟨hkept, hsound⟩
      · have htake := Server.take_of_stopped peer message hrunning
        have hnone : log.answered? (.message peer message) = none := by
          rw [answered?, htake]
          exact Answered.between?_of_quiet rfl
        intro answered hlast
        rw [Log.take, hnone] at hlast
        rw [Log.take, htake]
        exact h answered hlast

end Log
end Blockwise
