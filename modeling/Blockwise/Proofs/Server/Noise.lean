import Blockwise.Proofs.Endpoint.Turn
import Blockwise.Proofs.Server.Copies
import Blockwise.Proofs.Server.Retransmission

/-!
# Traffic that has nothing to do with requests

Once a server has a peer, much of what happens to it is none of its business:
messages that someone else has sent to the peer, datagrams from other addresses
or that nobody can read, and what the peer sends besides requests.  Here a run is
looked at twice, as it is and with any amount of this put in anywhere.

* `Event.Noise` — the events that may be put in.
* `Server.effect`, `Server.effects` — what others see of each event.
* `Server.gist` — what a server is apart from what it has sent and when it woke.
  But for idle time-outs it settles every event (`step_gist`), and noise leaves it
  (`effect_noise`).
* `Server.effects_noise` — the two runs differ in the messages that were sent
  to the peer for someone else, and in nothing besides.
-/

namespace Blockwise

/-! ## Insertions -/

/-- The second list is the first one with extra elements put in anywhere. -/
inductive Inserted {α : Type} (IsExtra : α → Prop) : List α → List α → Prop where
  | nil : Inserted IsExtra [] []
  /-- The next element is one of the first list. -/
  | keep (element : α) {plain more : List α} (rest : Inserted IsExtra plain more) :
      Inserted IsExtra (element :: plain) (element :: more)
  /-- The next element was put in. -/
  | extra {element : α} (hextra : IsExtra element) {plain more : List α}
      (rest : Inserted IsExtra plain more) : Inserted IsExtra plain (element :: more)

/-- A filter that lets no extra element through does not see the insertions. -/
theorem Inserted.filter_eq {α : Type} {IsExtra : α → Prop} {plain more : List α}
    (h : Inserted IsExtra plain more) {p : α → Bool}
    (hp : ∀ element, IsExtra element → p element = false) : more.filter p = plain.filter p := by
  induction h with
  | nil => rfl
  | keep element _ ih =>
      cases hkeep : p element with
      | false => rw [List.filter_cons_of_neg (by simp [hkeep]),
          List.filter_cons_of_neg (by simp [hkeep]), ih]
      | true => rw [List.filter_cons_of_pos hkeep, List.filter_cons_of_pos hkeep, ih]
  | extra hextra _ ih => rw [List.filter_cons_of_neg (by simp [hp _ hextra]), ih]

/-! ## Noise -/

namespace Event

/-- What has nothing to do with the requests of a peer. -/
inductive Noise (peer : Peer) : Event → Prop where
  /-- Someone has a message sent to the peer. -/
  | command (time : Nat) (message : Message) : Noise peer (.command time message)
  /-- A datagram comes that nobody can read. -/
  | unreadable (time : Nat) {heard : Datagram} {error : MessageError}
      (hmessage : heard.message = .error error) : Noise peer (.datagram time heard)
  /-- A datagram comes from another address. -/
  | foreign (time : Nat) {heard : Datagram} (hsource : heard.source ≠ peer.address) :
      Noise peer (.datagram time heard)
  /-- A message comes that is not a request: it is empty, or its code is that of a
  response or has no meaning. -/
  | other (time : Nat) {heard : Datagram} {message : Message}
      (hmessage : heard.message = .ok message) (hother : message.isRequest = false) :
      Noise peer (.datagram time heard)

/-- Whether a request of a peer comes. -/
def asks (peer : Peer) : Event → Bool
  | .datagram _ heard =>
    match heard.message with
    | .ok message => heard.source = peer.address && message.isRequest
    | .error _ => false
  | _ => false

variable {peer : Peer} {event : Event}

theorem Noise.asks_eq_false (h : Noise peer event) : event.asks peer = false := by
  cases h with
  | command => rfl
  | unreadable time hmessage => simp only [asks, hmessage]
  | @foreign time heard hsource =>
      cases hmessage : heard.message with
      | error error => simp only [asks, hmessage]
      | ok message => simp [asks, hmessage, hsource]
  | other time hmessage hother => simp [asks, hmessage, hother]

end Event

/-- What others see of an event: whether the server was running, what it sends, and
what it tells whoever gave a command. -/
structure Effect where
  event : Event
  running : Bool
  sent : List Outgoing
  report : Option (Except Failure Unit)

namespace Effect

/-- What may be seen of noise.  Someone's message goes out to the peer, once and as
it is, and they are told so; only if it does not fit into a datagram, or the server
has stopped, nothing goes out and they are told of the error.  Of other noise
nothing is seen. -/
inductive Harmless (peer : Peer) : Effect → Prop where
  | sent (time : Nat) (message : Message) :
      Harmless peer ⟨.command time message, true, [⟨peer.address, message⟩], some (.ok ())⟩
  | unsendable (time : Nat) (message : Message) (failure : Failure) (h : ¬message.Sendable) :
      Harmless peer ⟨.command time message, true, [], some (.error failure)⟩
  | stopped (time : Nat) (message : Message) :
      Harmless peer ⟨.command time message, false, [], some (.error (.serverTask .stopped))⟩
  | ignored (time : Nat) (heard : Datagram) (running : Bool)
      (hnoise : Event.Noise peer (.datagram time heard)) :
      Harmless peer ⟨.datagram time heard, running, [], none⟩

theorem Harmless.asks_eq_false {peer : Peer} {effect : Effect} (h : Harmless peer effect) :
    effect.event.asks peer = false := by
  cases h with
  | sent | unsendable | stopped => rfl
  | ignored time heard running hnoise => exact hnoise.asks_eq_false

end Effect

namespace Server

/-- What the server tells whoever gave a command. -/
def report? (server : Server) : Event → Option (Except Failure Unit)
  | .command time message => some (server.sendToPeer time message).1
  | _ => none

/-- What others see of an event. -/
def effect (server : Server) (event : Event) : Effect :=
  ⟨event, !server.isStopped, server.sentBetween (server.step event), server.report? event⟩

/-- What others see of each event. -/
def effects (server : Server) : List Event → List Effect
  | [] => []
  | event :: rest => server.effect event :: (server.step event).effects rest

/-- A server that has sent nothing and was never woken. -/
def gist (server : Server) : Server :=
  { server with
    endpoint := { server.endpoint with socket := { server.endpoint.socket with sent := [] } }
    wokeAt := 0 }

/-- A server, had it been woken at another time. -/
def wokenAt (server : Server) (wokeAt : Nat) : Server := { server with wokeAt }

variable {server noisy plain : Server} {peer : Peer} {event : Event}

/-! ## What was sent before, and when the server woke -/

theorem hear_having (server : Server) (sent : List Outgoing) (stats : Stats) (time : Nat)
    (datagram : Datagram) :
    (server.having sent stats).hear time datagram =
      (server.hear time datagram).having sent stats := by
  have hsame : (server.having sent stats).endpoint.heard? datagram =
    server.endpoint.heard? datagram := rfl
  rw [hear_eq, hear_eq, hsame]
  cases server.endpoint.heard? datagram with
  | none => rfl
  | some message => exact serve_having (server.hearing _ time) sent stats message

theorem sendToPeer_having (server : Server) (sent : List Outgoing) (stats : Stats) (time : Nat)
    (message : Message) :
    (server.having sent stats).sendToPeer time message =
      ((server.sendToPeer time message).1,
        (server.sendToPeer time message).2.having sent stats) := by
  have hsend : (server.having sent stats).endpoint.sendMessage message =
      (server.endpoint.sendMessage message).map (·.havingSent sent) :=
    server.endpoint.sendMessage_havingSent sent message
  have hstopped : (server.having sent stats).isStopped = server.isStopped := rfl
  simp only [sendToPeer, hstopped, hsend]
  split
  · rfl
  · cases server.endpoint.sendMessage message with
    | error failure => rfl
    | ok endpoint => rfl

theorem sendToPeer_wokenAt (server : Server) (woke time : Nat) (message : Message) :
    ∃ later, (server.wokenAt woke).sendToPeer time message =
      ((server.sendToPeer time message).1,
        (server.sendToPeer time message).2.wokenAt later) := by
  have hsend : (server.wokenAt woke).endpoint.sendMessage message =
    server.endpoint.sendMessage message := rfl
  have hstopped : (server.wokenAt woke).isStopped = server.isStopped := rfl
  simp only [sendToPeer, hstopped, hsend]
  split
  · exact ⟨woke, rfl⟩
  · refine ⟨time, ?_⟩
    cases server.endpoint.sendMessage message with
    | error failure => rfl
    | ok endpoint => rfl

/-- But for idle time-outs, an event is the same whatever was sent and counted
before. -/
theorem step_having (server : Server) (sent : List Outgoing) (stats : Stats)
    (hidle : event.isIdle = false) :
    (server.having sent stats).step event = (server.step event).having sent stats ∧
      (server.having sent stats).report? event = server.report? event := by
  cases event with
  | idle => cases hidle
  | change change => exact ⟨rfl, rfl⟩
  | command time message =>
      have hsend := server.sendToPeer_having sent stats time message
      exact ⟨congrArg Prod.snd hsend, by simp only [report?, hsend]⟩
  | datagram time datagram =>
      have hstopped : (server.having sent stats).isStopped = server.isStopped := rfl
      refine ⟨?_, rfl⟩
      simp only [step, hstopped]
      split
      · rfl
      · exact server.hear_having sent stats time datagram

/-- When the server woke shows in nothing else then. -/
theorem step_wokenAt (server : Server) (woke : Nat) (hidle : event.isIdle = false) :
    (∃ later, (server.wokenAt woke).step event = (server.step event).wokenAt later) ∧
      (server.wokenAt woke).report? event = server.report? event := by
  cases event with
  | idle => cases hidle
  | change change => exact ⟨⟨woke, rfl⟩, rfl⟩
  | command time message =>
      obtain ⟨later, hsend⟩ := server.sendToPeer_wokenAt woke time message
      exact ⟨⟨later, congrArg Prod.snd hsend⟩, by simp only [report?, hsend]⟩
  | datagram time datagram =>
      have hstopped : (server.wokenAt woke).isStopped = server.isStopped := rfl
      have hheard : (server.wokenAt woke).endpoint.heard? datagram =
        server.endpoint.heard? datagram := rfl
      refine ⟨?_, rfl⟩
      simp only [step, hstopped, hear_eq, hheard]
      split
      · exact ⟨woke, rfl⟩
      · cases server.endpoint.heard? datagram with
        | none => exact ⟨woke, rfl⟩
        | some message => exact ⟨_, rfl⟩

/-! ## The gist -/

theorem gist_having (server : Server) (sent : List Outgoing) (woke : Nat) :
    ((server.having sent Stats.zero).wokenAt woke).gist = server.gist := by
  simp [gist, wokenAt, having, against, Endpoint.havingSent, Stats.zero]

theorem having_gist (server : Server) :
    (server.gist.having server.endpoint.socket.sent Stats.zero).wokenAt server.wokeAt = server := by
  simp [gist, wokenAt, having, against, Endpoint.havingSent, Stats.zero]

/-- **The gist of a server settles** what becomes of it and what others see. -/
theorem step_gist (server : Server) (hidle : event.isIdle = false) :
    (server.step event).gist = (server.gist.step event).gist ∧
      server.effect event = server.gist.effect event := by
  obtain ⟨hhaving, hsame⟩ :=
    server.gist.step_having server.endpoint.socket.sent Stats.zero hidle
  obtain ⟨⟨later, hlater⟩, hreport⟩ :=
    (server.gist.having server.endpoint.socket.sent Stats.zero).step_wokenAt server.wokeAt hidle
  rw [having_gist] at hlater hreport
  rw [hhaving] at hlater
  have hsent : server.sentBetween (server.step event) =
      server.gist.sentBetween (server.gist.step event) := by
    rw [hlater]
    exact sentBetween_append rfl
  constructor
  · rw [hlater, gist_having]
  · rw [effect, effect, hsent, hreport, hsame]
    rfl

theorem step_congr (hgist : noisy.gist = plain.gist) (hidle : event.isIdle = false) :
    (noisy.step event).gist = (plain.step event).gist ∧
      noisy.effect event = plain.effect event := by
  obtain ⟨hnoisy, hnoisyEffect⟩ := noisy.step_gist hidle
  obtain ⟨hplain, hplainEffect⟩ := plain.step_gist hidle
  constructor
  · rw [hnoisy, hplain, hgist]
  · rw [hnoisyEffect, hplainEffect, hgist]

/-! ## Noise -/

/-- Nothing but an idle time-out separates a server from its peer. -/
theorem peer_step (hpeer : server.endpoint.peer = some peer) (hidle : event.isIdle = false) :
    (server.step event).endpoint.peer = some peer := by
  cases event with
  | idle => cases hidle
  | change change => exact hpeer
  | command time message => exact (server.sendToPeer_keeps time message).1.trans hpeer
  | datagram time datagram =>
      rw [step]
      split
      · exact hpeer
      · rename_i hopen
        rw [hear_eq]
        cases hheard : server.endpoint.heard? datagram with
        | none => exact hpeer
        | some message =>
            have hserved := peer_serve
              (server.hearing (Peer.ofAddress datagram.source) time) message
              (isStopped_eq_false.1 (Bool.eq_false_iff.2 hopen))
            rw [Option.elim_some, hserved, Endpoint.peer_of_heard hpeer hheard]
            rfl

/-- What is sent on behalf of someone changes nothing else. -/
theorem effect_command (hpeer : server.endpoint.peer = some peer) (time : Nat) (message : Message) :
    (server.effect (.command time message)).Harmless peer ∧
      (server.step (.command time message)).gist = server.gist := by
  simp only [effect, report?, step, sendToPeer]
  cases server.isStopped with
  | true => exact ⟨sentBetween_self rfl ▸ .stopped time message, rfl⟩
  | false =>
      rcases server.endpoint.sendMessage_cases message with
        ⟨failure, hsend⟩ | ⟨known, hknown, -, hsend⟩
      · have hunsendable : ¬message.Sendable := by
          intro hsendable
          cases hsend.symm.trans (Endpoint.sendMessage_of_sendable hpeer hsendable)
        simp only [hsend]
        exact ⟨sentBetween_self rfl ▸ .unsendable time message failure hunsendable, rfl⟩
      · obtain rfl : known = peer := Option.some.inj (hknown.symm.trans hpeer)
        have hsent : server.sentBetween { server with
            endpoint := server.endpoint.afterSending known message
            wokeAt := time } = [⟨known.address, message⟩] := sentBetween_append rfl
        simp only [hsend]
        exact ⟨hsent ▸ .sent time message, rfl⟩

/-- What is heard of noise is not a request. -/
theorem isRequest_of_noise {time : Nat} {heard : Datagram} {message : Message}
    (hpeer : server.endpoint.peer = some peer) (hnoise : Event.Noise peer (.datagram time heard))
    (hheard : server.endpoint.heard? heard = some message) : message.isRequest = false := by
  obtain ⟨hmessage, hsource⟩ := Option.filter_eq_some_iff.1 hheard
  cases hnoise with
  | unreadable _ herror =>
      rw [herror] at hmessage
      cases hmessage
  | foreign _ hforeign =>
      rw [hpeer, Option.all_some, decide_eq_true_iff] at hsource
      exact absurd hsource hforeign
  | other _ hother hrequest =>
      rw [hother] at hmessage
      cases hmessage
      exact hrequest

/-- To hear noise changes nothing but when the server woke. -/
theorem hear_noise {time : Nat} {heard : Datagram} (hpeer : server.endpoint.peer = some peer)
    (hnoise : Event.Noise peer (.datagram time heard)) :
    server.hear time heard = server ∨ server.hear time heard = server.wokenAt time := by
  rw [hear_eq]
  cases hheard : server.endpoint.heard? heard with
  | none => exact Or.inl rfl
  | some message =>
      refine Or.inr ?_
      rw [Option.elim_some, serve_of_other (isRequest_of_noise hpeer hnoise hheard),
        ← Endpoint.peer_of_heard hpeer hheard, hearing, ← hpeer]
      rfl

/-- **Noise** changes nothing of a server, and no one but whoever asked for it
hears of it. -/
theorem effect_noise (hpeer : server.endpoint.peer = some peer) (hnoise : Event.Noise peer event) :
    (server.effect event).Harmless peer ∧ (server.step event).gist = server.gist := by
  cases event with
  | idle | change => cases hnoise
  | command time message => exact effect_command hpeer time message
  | datagram time heard =>
      simp only [effect, report?, step]
      split
      · exact ⟨sentBetween_self rfl ▸ .ignored time heard _ hnoise, rfl⟩
      · rcases hear_noise hpeer hnoise with hsame | hwoken
        · rw [hsame]
          exact ⟨sentBetween_self rfl ▸ .ignored time heard _ hnoise, rfl⟩
        · rw [hwoken]
          exact ⟨sentBetween_self rfl ▸ .ignored time heard _ hnoise, rfl⟩

/-! ## Main result -/

/-- The invariant of the two runs: apart from what they have sent and when they
woke, the servers are the same. -/
theorem effects_of_gist (hgist : noisy.gist = plain.gist)
    (hpeer : plain.endpoint.peer = some peer) {events more : List Event}
    (hidle : ∀ event ∈ events, event.isIdle = false)
    (hmore : Inserted (Event.Noise peer) events more) :
    Inserted (Effect.Harmless peer) (plain.effects events) (noisy.effects more) ∧
      (noisy.steps more).gist = (plain.steps events).gist := by
  induction hmore generalizing noisy plain with
  | nil => exact ⟨.nil, hgist⟩
  | keep event _ ih =>
      obtain ⟨hevent, hrest⟩ := List.forall_mem_cons.1 hidle
      obtain ⟨hafter, heffect⟩ := step_congr hgist hevent
      obtain ⟨heffects, hend⟩ := ih hafter (peer_step hpeer hevent) hrest
      refine ⟨?_, hend⟩
      rw [effects, effects, heffect]
      exact .keep _ heffects
  | extra hnoise _ ih =>
      have hknown : noisy.endpoint.peer = some peer := by
        have hsame : noisy.gist.endpoint.peer = plain.gist.endpoint.peer := by rw [hgist]
        exact hsame.trans hpeer
      obtain ⟨hharmless, hafter⟩ := effect_noise hknown hnoise
      obtain ⟨heffects, hend⟩ := ih (hafter.trans hgist) hpeer hidle
      exact ⟨.extra hharmless heffects, hend⟩

/-- **Unrelated traffic does not disturb a server.**  Take any server with a peer
and any events without an idle time-out, and put in noise anywhere: messages that
someone has sent to the peer, datagrams from elsewhere or that nobody can read,
and messages that are no requests.  What others see of the events does not change,
and where noise was put in the server at most sends someone's message to the peer.
In particular every request of the peer gets the same answer, id included.  In the
end transfers, history, counts, kept answer, next id and failure are those of the
run without the noise. -/
theorem effects_noise (server : Server) (hpeer : server.endpoint.peer = some peer)
    {events noisy : List Event} (hidle : ∀ event ∈ events, event.isIdle = false)
    (hnoisy : Inserted (Event.Noise peer) events noisy) :
    Inserted (Effect.Harmless peer) (server.effects events) (server.effects noisy) ∧
      (server.effects noisy).filter (·.event.asks peer) =
        (server.effects events).filter (·.event.asks peer) ∧
      (server.steps noisy).transfers = (server.steps events).transfers ∧
      (server.steps noisy).history = (server.steps events).history ∧
      (server.steps noisy).stats = (server.steps events).stats ∧
      (server.steps noisy).lastAnswer = (server.steps events).lastAnswer ∧
      (server.steps noisy).endpoint.nextId = (server.steps events).endpoint.nextId ∧
      (server.steps noisy).failure = (server.steps events).failure := by
  obtain ⟨heffects, hgist⟩ := effects_of_gist rfl hpeer hidle hnoisy
  refine ⟨heffects, heffects.filter_eq fun _ hharmless => hharmless.asks_eq_false, ?_⟩
  refine ⟨?_, ?_, ?_, ?_, ?_, ?_⟩
  · exact congrArg (·.transfers) hgist
  · exact congrArg (·.history) hgist
  · exact congrArg (·.stats) hgist
  · exact congrArg (·.lastAnswer) hgist
  · exact congrArg (·.endpoint.nextId) hgist
  · exact congrArg (·.failure) hgist

/-! ## A request among noise -/

/-- A server with one file, which a client has just read. -/
def oneReader : Server :=
  Watch.localServer.steps
    [.change (.set "a" [10]), .datagram 0 (Watch.ask 40001 97)]

/-- The client reads the file again, not confirmable. -/
def readAgain : Event :=
  .datagram 5 ⟨.v4 127 0 0 1 40001, [0x51, 0x01, 0x00, 0x08, 0x02, 0xB1, 97]⟩

/-- Before it does, someone has an empty message sent to it and one with a token
that is too long.  Then come one byte that is no message, a request from elsewhere
and an empty message of the client. -/
def noisyReadAgain : List Event :=
  [.command 1 (Message.bare .confirmable .empty 1),
    .command 2 { Message.bare .confirmable .empty 2 with token := List.replicate 9 0 },
    .datagram 3 ⟨.v4 127 0 0 1 40001, [0xFF]⟩, .datagram 3 (Watch.ask 40002 97),
    .datagram 4 ⟨.v4 127 0 0 1 40001, [0x70, 0x00, 0x00, 0x09]⟩, readAgain]

/-- The client gets its answer all the same, and besides it the one message that
could be sent. -/
theorem effects_noise_read_again :
    oneReader.endpoint.peer = some ⟨.v4 127 0 0 1, 40001⟩ ∧
      Inserted (Event.Noise ⟨.v4 127 0 0 1, 40001⟩) [readAgain] noisyReadAgain ∧
      (oneReader.steps noisyReadAgain).stats = (oneReader.steps [readAgain]).stats ∧
      (oneReader.steps noisyReadAgain).stats.answered = 2 ∧
      (oneReader.steps noisyReadAgain).endpoint.socket.sent.length = 3 := by
  have hpeer : oneReader.endpoint.peer = some ⟨.v4 127 0 0 1, 40001⟩ := by decide +kernel
  have hunreadable : Datagram.message ⟨.v4 127 0 0 1 40001, [0xFF]⟩ = .error .headerCutShort := by
    decide +kernel
  have hempty : Datagram.message ⟨.v4 127 0 0 1 40001, [0x70, 0x00, 0x00, 0x09]⟩ =
      .ok (Message.bare .reset .empty 9) := by
    decide +kernel
  have hnoisy : Inserted (Event.Noise ⟨.v4 127 0 0 1, 40001⟩) [readAgain] noisyReadAgain :=
    .extra (.command _ _) <| .extra (.command _ _) <| .extra (.unreadable _ hunreadable) <|
      .extra (.foreign _ (by decide)) <| .extra (.other _ hempty rfl) <| .keep _ .nil
  obtain ⟨-, -, -, -, hstats, -⟩ :=
    oneReader.effects_noise hpeer (by simp [readAgain, Event.isIdle]) hnoisy
  exact ⟨hpeer, hnoisy, hstats, by decide +kernel, by decide +kernel⟩

end Server
end Blockwise
