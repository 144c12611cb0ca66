import Blockwise.Proofs.Server.Background
import Blockwise.Proofs.Server.LastAnswer

/-!
# Copies of an answered request

A network may deliver a request more than once.  Here a stream is served twice:
as it is, and with any number of copies of the confirmable request answered last
put in anywhere.

* `Item` — a stream with the places at which copies come in.
* `Log.copied` — the stream with the copies, and what has to be sent for each of
  its inputs.
* `Server.Doubles` — what the two runs have in common; `Doubles.take` and
  `Doubles.copy` say that neither an input nor a copy separates them.
* `Server.transcript_copied` — each copy gets the answer of the request that it
  is a copy of, and but for two counts nothing else is different.
-/

namespace Blockwise

/-- An element of a stream in which copies may come in. -/
inductive Item where
  /-- An input of the stream itself. -/
  | input (input : Input)
  /-- One more copy of the confirmable request answered last comes in, from some
  peer. -/
  | copy (peer : Peer)

/-- The inputs of the stream itself. -/
def Item.stream (items : List Item) : List Input :=
  items.filterMap fun
    | .input given => some given
    | .copy _ => none

/-- An input of a stream with copies, and what has to be sent for it. -/
structure Delivery where
  input : Input
  sends : List Outgoing
  /-- Whether the input is a copy that was put in. -/
  isCopy : Bool

namespace Log

/-- A copy of the confirmable request answered last, which has to get the same
answer.  There is none before the first such request, nor when the server has
stopped. -/
def copy? (log : Log) (peer : Peer) : Option Delivery :=
  if log.server.isStopped then none
  else log.last.map fun answered =>
    ⟨.message peer answered.request, [⟨peer.address, answered.response⟩], true⟩

/-- A stream with its copies.  Each input of the stream itself has to make the
server send what it sends in the run without copies. -/
def copied (log : Log) : List Item → List Delivery
  | [] => []
  | .input input :: rest =>
    ⟨input, log.server.sends input, false⟩ :: (log.take input).copied rest
  | .copy peer :: rest => (log.copy? peer).toList ++ log.copied rest

end Log

namespace Server

/-- A run with so many copies beside the same run without them: but for what was
sent and counted, and for the peer, the servers are the same. -/
def Doubles (double plain : Server) (count : Nat) : Prop :=
  ∃ (core : Server) (sent sent' : List Outgoing) (stats : Stats) (peer : Option Peer),
    plain = core.having sent stats ∧
      double = (core.having sent' { stats with
        received := count + stats.received
        duplicates := count + stats.duplicates }).facing peer

variable {double plain : Server} {count : Nat} {input : Input} {peer : Peer}

/-! ## One input -/

theorem take_having (server : Server) (sent : List Outgoing) (stats : Stats) (input : Input) :
    (server.having sent stats).take input = (server.take input).having sent stats := by
  cases input with
  | change change => rfl
  | message peer message =>
      by_cases hrunning : server.failure = none
      · have hserve := (server.hearing peer server.wokeAt).serve_having sent stats message
        rw [take_of_running _ _ hrunning, ← hserve]
        exact take_of_running _ _ hrunning
      · rw [take_of_stopped _ _ hrunning]
        exact take_of_stopped _ _ hrunning

theorem sends_having (server : Server) (sent : List Outgoing) (stats : Stats) (input : Input) :
    (server.having sent stats).sends input = server.sends input := by
  rw [sends, take_having, sends, sentBetween, sentBetween]
  simp only [having, against, Endpoint.havingSent]
  rw [List.length_append, List.drop_length_add_append]

/-- Whom a server spoke to before shows in nothing but the peer. -/
theorem take_facing (server : Server) (known : Option Peer) (input : Input) :
    ∃ after, (server.facing known).take input = (server.take input).facing after := by
  cases input with
  | change change => exact ⟨known, rfl⟩
  | message peer message =>
      by_cases hrunning : server.failure = none
      · refine ⟨(server.take (.message peer message)).endpoint.peer, ?_⟩
        rw [take_of_running _ _ hrunning]
        exact take_of_running _ _ hrunning
      · refine ⟨known, ?_⟩
        rw [take_of_stopped _ _ hrunning]
        exact take_of_stopped _ _ hrunning

theorem sends_facing (server : Server) (known : Option Peer) (input : Input) :
    (server.facing known).sends input = server.sends input := by
  obtain ⟨after, h⟩ := server.take_facing known input
  rw [sends, h]
  rfl

/-- An input of the stream does not separate the two runs. -/
theorem Doubles.take (h : Doubles double plain count) (input : Input) :
    Doubles (double.take input) (plain.take input) count ∧
      double.sends input = plain.sends input := by
  obtain ⟨core, sent, sent', stats, known, rfl, rfl⟩ := h
  obtain ⟨after, hafter⟩ := take_facing (core.having sent' { stats with
    received := count + stats.received
    duplicates := count + stats.duplicates }) known input
  refine ⟨⟨core.take input, sent, sent', stats, after, take_having _ _ _ _, ?_⟩, ?_⟩
  · rw [hafter, take_having]
  · rw [sends_facing, sends_having, sends_having]

/-! ## One copy -/

theorem repeatAnswer_of_sendable {server : Server} {kept : CachedAnswer}
    (hpeer : server.endpoint.peer = some peer) (h : kept.response.Sendable) :
    server.repeatAnswer kept = server.repeated peer kept := by
  rw [repeatAnswer, Endpoint.sendMessage_of_sendable hpeer h]
  rfl

/-- The request that the kept answer is for gets it again. -/
theorem take_copy (server : Server) (peer : Peer) {answered : Answered}
    (hrunning : server.failure = none) (hkept : server.lastAnswer = some answered.kept)
    (hsound : answered.Sound) :
    server.take (.message peer answered.request) =
      (server.hearing peer server.wokeAt).count.repeated peer answered.kept := by
  have hfits : (server.hearing peer server.wokeAt).lastAnswer.filter (·.fits answered.request) =
      some answered.kept :=
    Option.filter_eq_some_iff.2 ⟨hkept, hsound.fits⟩
  rw [take_of_running _ _ hrunning, serve_of_kept hsound.isRequest hfits]
  exact repeatAnswer_of_sendable rfl hsound.sendable

/-- What was sent may as well have been sent before. -/
theorem having_of_sent (server : Server) (sent : List Outgoing) (stats : Stats) :
    server.having sent stats = ({ server with endpoint := { server.endpoint with
      socket := { server.endpoint.socket with sent := [] } } }).having
        (sent ++ server.endpoint.socket.sent) stats := by
  simp [having, against, Endpoint.havingSent]

/-- One more copy gets the answer again and does not separate the two runs. -/
theorem Doubles.copy {answered : Answered} (h : Doubles double plain count)
    (hrunning : plain.failure = none) (hkept : plain.lastAnswer = some answered.kept)
    (hsound : answered.Sound) (peer : Peer) :
    Doubles (double.take (.message peer answered.request)) plain (count + 1) ∧
      double.sends (.message peer answered.request) = [⟨peer.address, answered.response⟩] := by
  obtain ⟨core, sent, sent', stats, known, rfl, rfl⟩ := h
  have htake := take_copy ((core.having sent' { stats with
    received := count + stats.received
    duplicates := count + stats.duplicates }).facing known) peer hrunning hkept hsound
  constructor
  · refine ⟨_, _, sent' ++ core.endpoint.socket.sent ++ [⟨peer.address, answered.response⟩],
      stats, some peer, having_of_sent core sent stats, ?_⟩
    rw [htake]
    -- Both sides are records, and but for the two counts they are made alike.
    simp only [repeated, tally, Endpoint.afterSending, Server.count, hearing, facing, having,
      against, Endpoint.havingSent, Answered.kept, List.append_assoc, List.append_nil, mk.injEq,
      Stats.mk.injEq, and_self, and_true, true_and]
    omega
  · rw [sends, htake]
    exact sentBetween_append rfl

/-! ## Streams -/

end Server

namespace Log

variable {log : Log} {peer : Peer} {delivery : Delivery}

/-- Where a copy comes in, the server is running and has answered a request. -/
theorem of_copy? (h : log.copy? peer = some delivery) :
    log.server.failure = none ∧ ∃ answered, log.last = some answered ∧
      delivery = ⟨.message peer answered.request, [⟨peer.address, answered.response⟩], true⟩ := by
  rw [copy?] at h
  split at h
  · cases h
  · rename_i hopen
    obtain ⟨answered, hlast, rfl⟩ := Option.map_eq_some_iff.1 h
    exact ⟨Server.isStopped_eq_false.1 (Bool.eq_false_iff.2 hopen), answered, hlast, rfl⟩

/-- Without the copies the stream is what it was, and so is what is sent. -/
theorem filter_copied (log : Log) (items : List Item) :
    ((log.copied items).filter (!·.isCopy)).map (·.input) = Item.stream items ∧
      ((log.copied items).filter (!·.isCopy)).map (·.sends) =
        log.server.transcript (Item.stream items) := by
  induction items generalizing log with
  | nil => exact ⟨rfl, rfl⟩
  | cons item rest ih =>
      cases item with
      | input input =>
          obtain ⟨hinputs, hsends⟩ := ih (log.take input)
          exact ⟨congrArg (input :: ·) hinputs, congrArg (log.server.sends input :: ·) hsends⟩
      | copy peer =>
          rw [copied]
          cases hcopy : log.copy? peer with
          | none => exact ih log
          | some delivery =>
              obtain ⟨-, answered, -, rfl⟩ := of_copy? hcopy
              exact ih log

end Log

namespace Server

variable {double : Server} {copies : Nat}

/-- The invariant along a stream with copies: each delivery makes the server send
what it has to, and the copies are counted. -/
theorem Doubles.takeAll {log : Log} (h : Doubles double log.server copies) (hkeeps : log.Keeps)
    (items : List Item) :
    double.transcript ((log.copied items).map (·.input)) = (log.copied items).map (·.sends) ∧
      Doubles (double.takeAll ((log.copied items).map (·.input)))
        (log.server.takeAll (Item.stream items))
        (copies + (log.copied items).countP (·.isCopy)) := by
  induction items generalizing log double copies with
  | nil => exact ⟨rfl, h⟩
  | cons item rest ih =>
      cases item with
      | input input =>
          obtain ⟨hafter, hsends⟩ := h.take input
          obtain ⟨htranscript, hend⟩ := ih hafter (hkeeps.take input)
          refine ⟨?_, hend⟩
          rw [Log.copied, List.map_cons, List.map_cons, transcript, hsends, htranscript]
      | copy peer =>
          rw [Log.copied]
          cases hcopy : log.copy? peer with
          | none => exact ih h hkeeps
          | some delivery =>
              obtain ⟨hrunning, answered, hlast, rfl⟩ := Log.of_copy? hcopy
              obtain ⟨hkept, hsound⟩ := hkeeps answered hlast
              obtain ⟨hafter, hsends⟩ := h.copy hrunning hkept hsound peer
              obtain ⟨htranscript, hend⟩ := ih hafter hkeeps
              rw [Nat.add_assoc, Nat.add_comm 1] at hend
              rw [Option.toList_some, List.singleton_append, List.countP_cons_of_pos rfl]
              refine ⟨?_, hend⟩
              rw [List.map_cons, List.map_cons, transcript, hsends, htranscript]

/-! ## Main result -/

/-- **Confirmable requests are served exactly once.**  Take any server and any
stream, and put in copies of the confirmable request answered last, from any
peers, wherever it is running.  (For copies of a request answered before, let the
stream begin earlier.)  Each copy makes the server send the answer that
the request got, and each input of the stream what it makes it send without the
copies.  In the end transfers, history, kept answer, next id and failure are
those of the run without the copies, and so are the counts, but that each copy
was received and counted as a duplicate. -/
theorem transcript_copied (server : Server) (items : List Item) :
    let stream := Item.stream items
    let deliveries := Log.copied ⟨server, none⟩ items
    let count := deliveries.countP (·.isCopy)
    let plain := server.takeAll stream
    let double := server.takeAll (deliveries.map (·.input))
    (deliveries.filter (!·.isCopy)).map (·.input) = stream ∧
      (deliveries.filter (!·.isCopy)).map (·.sends) = server.transcript stream ∧
      server.transcript (deliveries.map (·.input)) = deliveries.map (·.sends) ∧
      double.transfers = plain.transfers ∧ double.history = plain.history ∧
      double.lastAnswer = plain.lastAnswer ∧
      double.endpoint.nextId = plain.endpoint.nextId ∧ double.failure = plain.failure ∧
      double.stats = { plain.stats with
        received := plain.stats.received + count
        duplicates := plain.stats.duplicates + count } := by
  intro stream deliveries count plain double
  have hstart : Doubles server server 0 :=
    ⟨server, [], [], Stats.zero, server.endpoint.peer, (against_self server).symm, by
      simp [having, against, facing, Stats.zero, Endpoint.havingSent]⟩
  have hkeeps : Log.Keeps ⟨server, none⟩ := by
    intro answered hlast
    cases hlast
  obtain ⟨hinputs, hsends⟩ := Log.filter_copied ⟨server, none⟩ items
  obtain ⟨htranscript, core, sent, sent', stats, peer, hplain, hdouble⟩ :=
    hstart.takeAll hkeeps items
  refine ⟨hinputs, hsends, htranscript, ?_⟩
  have hplain' : plain = core.having sent stats := hplain
  have hdouble' : double = (core.having sent' { stats with
      received := 0 + count + stats.received
      duplicates := 0 + count + stats.duplicates }).facing peer := hdouble
  rw [hplain', hdouble']
  refine ⟨rfl, rfl, rfl, rfl, rfl, ?_⟩
  simp only [having, against, facing, Stats.mk.injEq, and_self, and_true, true_and]
  omega

end Server
end Blockwise
