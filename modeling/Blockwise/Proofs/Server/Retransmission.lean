import Blockwise.Proofs.Server.Events
import Blockwise.Proofs.Server.Fetch
import Blockwise.Proofs.Server.LastAnswer

/-!
# Which messages get a kept answer

A server knows a repeated request by its id and its token alone.  The answer it
keeps outlives the connection: when the peer has been silent for too long, the
next one to come may hit upon it.

* `Watch` — a run with a note of the confirmable request that was answered last,
  and of whether the peer has been silent for too long since.
* `Watch.Knows` — the kept answer is that request's, and until such a silence
  its sender is the peer; `Watch.Knows.step` says that every event preserves
  this.
* `Watch.repeats_answered_request` — what is sent again, to whom, and what makes
  the message that gets it a true retransmission.
-/

namespace Blockwise

/-- A message that a kept answer fits has id and token of the request that got
it. -/
theorem Answered.of_fits (answered : Answered) {message : Message}
    (h : answered.kept.fits message = true) :
    message.isConfirmable = true ∧ message.tag = answered.request.tag := by
  obtain ⟨hconfirmable, hid⟩ := (Bool.and_eq_true_iff.1 (Bool.and_eq_true_iff.1 h).1)
  exact ⟨hconfirmable, Prod.ext (of_decide_eq_true hid)
    (of_decide_eq_true (Bool.and_eq_true_iff.1 h).2)⟩

namespace Event

/-- The confirmable request that comes with an event, and the peer that it comes
from. -/
def request? : Event → Option (Peer × Message)
  | .datagram _ heard =>
    match heard.message with
    | .ok message =>
      if message.isRequest && message.isConfirmable then
        some (Peer.ofAddress heard.source, message)
      else none
    | .error _ => none
  | _ => none

/-- The confirmable requests that come, in order. -/
def requests (events : List Event) : List (Peer × Message) := events.filterMap request?

/-- Id and token tell the confirmable requests apart: those that share them come
from one peer and have the same code and options. -/
def ToldApart (events : List Event) : Prop :=
  ∀ first ∈ requests events, ∀ second ∈ requests events, first.2.tag = second.2.tag →
    first.1 = second.1 ∧ first.2.code = second.2.code ∧ first.2.options = second.2.options

/-- Whether the peer has been silent for too long. -/
def isIdle : Event → Bool
  | .idle => true
  | _ => false

variable {event : Event} {events : List Event} {request : Peer × Message}

theorem request?_of_message {time : Nat} {heard : Datagram} {message : Message}
    (hmessage : heard.message = .ok message) (hrequest : message.isRequest = true)
    (hconfirmable : message.isConfirmable = true) :
    (Event.datagram time heard).request? = some (Peer.ofAddress heard.source, message) := by
  simp only [request?, hmessage]
  exact if_pos (by rw [hrequest, hconfirmable]; rfl)

theorem mem_requests_append (h : request ∈ requests events) (event : Event) :
    request ∈ requests (events ++ [event]) := by
  rw [requests, List.filterMap_append]
  exact List.mem_append_left _ h

theorem mem_requests_of_last (h : event.request? = some request) (events : List Event) :
    request ∈ requests (events ++ [event]) :=
  List.mem_filterMap.2 ⟨event, List.mem_append_right _ (List.mem_singleton_self _), h⟩

end Event

/-- A server in the loop with a note of the confirmable request that was answered
last. -/
structure Watch where
  server : Server
  last : Option Answered
  /-- Whether the peer has been silent for too long since. -/
  hasIdled : Bool

namespace Watch

/-- The confirmable request that an event makes the server answer. -/
def answered? (watch : Watch) (event : Event) : Option Answered :=
  event.request?.bind fun (peer, message) =>
    Answered.between? watch.server (watch.server.step event) peer message

/-- The watch after an event. -/
def step (watch : Watch) (event : Event) : Watch where
  server := watch.server.step event
  last := (watch.answered? event).or watch.last
  hasIdled := (watch.answered? event).isNone && (watch.hasIdled || event.isIdle)

/-- The watch over a run of a server. -/
def run (server : Server) (events : List Event) : Watch := events.foldl step ⟨server, none, false⟩

/-! ## Events -/

variable {watch : Watch} {events : List Event} {event : Event}

/-- An event leaves peer and kept answer and sends nothing again, or it resets
the connection, or it brings a message that is served. -/
theorem step_cases (watch : Watch) (event : Event) :
    ((watch.server.step event).lastAnswer = watch.server.lastAnswer ∧
        (watch.server.step event).stats = watch.server.stats ∧
        watch.answered? event = none ∧
        (event.isIdle = false →
          (watch.server.step event).endpoint.peer = watch.server.endpoint.peer)) ∨
      ∃ time datagram message, event = .datagram time datagram ∧
        datagram.message = .ok message ∧ watch.server.failure = none ∧
        (watch.server.endpoint.peer = none ∨
          watch.server.endpoint.peer = some (Peer.ofAddress datagram.source)) ∧
        watch.server.step event =
          (watch.server.hearing (Peer.ofAddress datagram.source) time).serve message := by
  cases event with
  | change change => exact Or.inl ⟨rfl, rfl, rfl, fun _ => rfl⟩
  | command time message =>
      obtain ⟨hpeer, hkept, hstats⟩ := watch.server.sendToPeer_keeps time message
      exact Or.inl ⟨hkept, hstats, rfl, fun _ => hpeer⟩
  | idle =>
      rcases watch.server.expireIf_cases fun _ => true with hsame | ⟨due, hreset⟩
      · exact Or.inl ⟨by rw [Server.step, hsame], by rw [Server.step, hsame], rfl, nofun⟩
      · exact Or.inl ⟨by rw [Server.step, hreset], by rw [Server.step, hreset], rfl, nofun⟩
  | datagram time datagram =>
      have hquiet : watch.server.step (.datagram time datagram) = watch.server →
          watch.answered? (.datagram time datagram) = none := by
        intro hsame
        rw [answered?, hsame]
        cases (Event.datagram time datagram).request? with
        | none => rfl
        | some request => exact Answered.between?_of_quiet rfl
      by_cases hstopped : watch.server.isStopped = true
      · have hsame : watch.server.step (.datagram time datagram) = watch.server := if_pos hstopped
        exact Or.inl ⟨by rw [hsame], by rw [hsame], hquiet hsame, fun _ => by rw [hsame]⟩
      · have hstep : watch.server.step (.datagram time datagram) =
            watch.server.hear time datagram := if_neg hstopped
        rcases watch.server.hear_cases time datagram with
          hsame | ⟨message, hmessage, hbefore, hheard⟩
        · replace hsame := hstep.trans hsame
          exact Or.inl ⟨by rw [hsame], by rw [hsame], hquiet hsame, fun _ => by rw [hsame]⟩
        · exact Or.inr ⟨time, datagram, message, rfl, hmessage,
            Server.isStopped_eq_false.1 (Bool.eq_false_iff.2 hstopped), hbefore,
            hstep.trans hheard⟩

/-! ## The invariant -/

/-- What the note says of the server after so many events. -/
structure Knows (watch : Watch) (events : List Event) : Prop where
  kept_eq : watch.server.lastAnswer = watch.last.map Answered.kept
  came : ∀ answered, watch.last = some answered →
    (answered.peer, answered.request) ∈ Event.requests events
  peer_eq : ∀ answered, watch.last = some answered → watch.hasIdled = false →
    watch.server.endpoint.peer = some answered.peer

/-- An event that makes the server answer nothing leaves the kept answer and,
unless it is a silence, the peer. -/
theorem Knows.quiet (h : watch.Knows events) (hnone : watch.answered? event = none)
    (hkept : (watch.server.step event).lastAnswer = watch.server.lastAnswer)
    (hpeer : event.isIdle = false → ∀ peer, watch.server.endpoint.peer = some peer →
      (watch.server.step event).endpoint.peer = some peer) :
    (watch.step event).Knows (events ++ [event]) := by
  have hlast : (watch.step event).last = watch.last := by rw [step, hnone]; rfl
  have hidled : (watch.step event).hasIdled = (watch.hasIdled || event.isIdle) := by
    rw [step, hnone]
    rfl
  constructor
  · rw [hlast]
    exact hkept.trans h.kept_eq
  · intro answered hsome
    exact Event.mem_requests_append (h.came answered (hlast ▸ hsome)) event
  · intro answered hsome hfalse
    rw [hidled, Bool.or_eq_false_iff] at hfalse
    exact hpeer hfalse.2 _ (h.peer_eq answered (hlast ▸ hsome) hfalse.1)

/-- An event that makes the server answer a request leads to the answer that is
kept from then on. -/
theorem Knows.answer {answered : Answered} (hsome : watch.answered? event = some answered)
    (hrequest : event.request? = some (answered.peer, answered.request))
    (hkept : (watch.server.step event).lastAnswer = some answered.kept)
    (hpeer : (watch.server.step event).endpoint.peer = some answered.peer) :
    (watch.step event).Knows (events ++ [event]) := by
  have hlast : (watch.step event).last = some answered := by rw [step, hsome]; rfl
  have hsame : ∀ other, (watch.step event).last = some other → other = answered :=
    fun other hother => Option.some.inj (hother.symm.trans hlast)
  constructor
  · rw [hlast]
    exact hkept
  · intro other hother
    rw [hsame other hother]
    exact Event.mem_requests_of_last hrequest events
  · intro other hother _
    rw [hsame other hother]
    exact hpeer

/-- Every event preserves the invariant. -/
theorem Knows.step (h : watch.Knows events) (event : Event) :
    (watch.step event).Knows (events ++ [event]) := by
  rcases watch.step_cases event with
    ⟨hkept, -, hnone, hpeer⟩ | ⟨time, datagram, message, rfl, hmessage, hrunning, hbefore, hstep⟩
  · exact h.quiet hnone hkept fun hidle peer hknown => (hpeer hidle).trans hknown
  · have hafter : (watch.server.step (.datagram time datagram)).endpoint.peer =
        some (Peer.ofAddress datagram.source) := by
      rw [hstep]
      exact Server.peer_serve (watch.server.hearing _ time) message hrunning
    have hserve := Answered.serve_cases
      (watch.server.hearing (Peer.ofAddress datagram.source) time) message hrunning rfl
    rw [← hstep] at hserve
    rcases hserve with ⟨hnone, hkept⟩ | ⟨answered, hsome, hkept, hfrom, hrequest, hsound⟩
    · refine h.quiet ?_ hkept fun _ peer hknown => ?_
      · simp only [answered?, Event.request?, hmessage]
        split
        · exact hnone
        · rfl
      · rcases hbefore with hno | hsender
        · cases hno.symm.trans hknown
        · rw [hafter, ← hsender, hknown]
    · have hnoted : (Event.datagram time datagram).request? =
          some (answered.peer, answered.request) := by
        rw [hfrom, hrequest]
        exact Event.request?_of_message hmessage (hrequest ▸ hsound.isRequest)
          (hrequest ▸ hsound.isConfirmable)
      refine Knows.answer ?_ hnoted hkept (hfrom ▸ hafter)
      rw [answered?, hnoted, Option.bind_some, hfrom, hrequest]
      exact hsome

theorem server_run (server : Server) (events : List Event) :
    (run server events).server = server.steps events := by
  induction events using List.reverseRecOn with
  | nil => rfl
  | append_singleton events event ih =>
      rw [run, List.foldl_append, Server.steps_append, ← ih]
      rfl

/-- **The invariant holds along every run** of a server that has kept nothing
yet. -/
theorem knows_run {server : Server} (hfresh : server.lastAnswer = none) (events : List Event) :
    (run server events).Knows events := by
  induction events using List.reverseRecOn with
  | nil => exact ⟨hfresh, nofun, nofun⟩
  | append_singleton events event ih =>
      rw [run, List.foldl_append]
      exact ih.step event

/-! ## Main result -/

/-- **What is sent again.**  Whenever a server in the loop sends a kept answer
once more, that is for a confirmable request that has the id and the token of
the confirmable request answered last, and what it gets is the answer which that
request got.  Unless the peer has been silent for too long since then, it comes
from the same peer.  Where id and token tell the requests apart, peer, code and
options are the same as well. -/
theorem repeats_answered_request {endpoint : Endpoint} {gate : Gate} {settings : Settings}
    {server : Server} (hstart : Server.start endpoint gate settings = .ok server)
    (events : List Event) (event : Event)
    (hagain : (server.steps events).stats.duplicates <
      ((server.steps events).step event).stats.duplicates) :
    ∃ answered peer message, (run server events).last = some answered ∧
      (answered.peer, answered.request) ∈ Event.requests events ∧
      event.request? = some (peer, message) ∧ message.tag = answered.request.tag ∧
      (server.steps events).sentBetween ((server.steps events).step event) =
        [⟨peer.address, answered.response⟩] ∧
      ((run server events).hasIdled = false → peer = answered.peer) ∧
      (Event.ToldApart (events ++ [event]) →
        peer = answered.peer ∧ message.code = answered.request.code ∧
          message.options = answered.request.options) := by
  have hfresh : server.lastAnswer = none := by
    rw [Server.start] at hstart
    split at hstart
    · cases hstart
    · cases hstart
      rfl
  have hknows := knows_run hfresh events
  rw [← server_run] at hagain ⊢
  generalize run server events = watch at hagain hknows ⊢
  rcases watch.step_cases event with
    ⟨-, hstats, -, -⟩ | ⟨time, datagram, message, rfl, hmessage, hrunning, hbefore, hstep⟩
  · rw [hstats] at hagain
    exact absurd hagain (Nat.lt_irrefl _)
  rw [hstep] at hagain ⊢
  obtain ⟨kept, peer, hrequest, hkept, hfits, hpeer, hrepeated⟩ :=
    Server.kept_of_duplicates (watch.server.hearing _ time) message hrunning hagain
  obtain ⟨answered, hlast, rfl⟩ := Option.map_eq_some_iff.1 (hknows.kept_eq.symm.trans hkept)
  obtain rfl : Peer.ofAddress datagram.source = peer := Option.some.inj hpeer
  obtain ⟨hconfirmable, htag⟩ := answered.of_fits hfits
  have hcame := hknows.came answered hlast
  have hcomes : (Event.datagram time datagram).request? = some (_, message) :=
    Event.request?_of_message hmessage hrequest hconfirmable
  refine ⟨answered, _, message, hlast, hcame, hcomes, htag, ?_, fun hidled => ?_, fun happart => ?_⟩
  · rw [hrepeated]
    exact Server.sentBetween_append rfl
  · have hknown := hknows.peer_eq answered hlast hidled
    rcases hbefore with hno | hsender
    · cases hno.symm.trans hknown
    · exact Option.some.inj (hsender.symm.trans hknown)
  · exact happart _ (Event.mem_requests_of_last hcomes events) _
      (Event.mem_requests_append hcame _) htag

/-! ## Two clients with one id and token -/

/-- A confirmable request to read a file with a name of one letter, from a port
of the local host.  Its id is 7, its token the byte 1, whatever the file. -/
def ask (port : UInt16) (letter : UInt8) : Datagram :=
  ⟨.v4 127 0 0 1 port, [0x41, 0x01, 0x00, 0x07, 0x01, 0xB1, letter]⟩

/-- A fresh server of the local host. -/
def localServer : Server :=
  Server.fresh (Endpoint.bind (.v4 127 0 0 1 5683) .none 0) Gate.answerAll Settings.standard
    BlockSize.largest

/-- A client that asks twice for file `a` gets the same answer twice. -/
theorem repeats_answered_request_twice :
    let events := [.change (.set "a" [10]), .datagram 0 (ask 40001 97)]
    let event := .datagram 1 (ask 40001 97)
    (localServer.steps events).stats.duplicates <
        ((localServer.steps events).step event).stats.duplicates ∧
      ∃ answered peer message, (run localServer events).last = some answered ∧
        event.request? = some (peer, message) ∧ peer = answered.peer ∧
        (localServer.steps events).sentBetween ((localServer.steps events).step event) =
          [⟨peer.address, answered.response⟩] := by
  intro events event
  have hagain : (localServer.steps events).stats.duplicates <
      ((localServer.steps events).step event).stats.duplicates := by decide +kernel
  have hidled : (run localServer events).hasIdled = false := by decide +kernel
  obtain ⟨answered, peer, message, hlast, -, hcomes, -, hsends, hsame, -⟩ :=
    repeats_answered_request (Server.start_eq_ok Gate.answerAll rfl) events event hagain
  exact ⟨hagain, answered, peer, message, hlast, hcomes, hsame hidled, hsends⟩

/-- **A stranger gets the kept answer.**  One client reads file `a` and is silent
for six seconds.  Then another one asks for file `b` and happens to use the same
id and token.  The loop sends it the block of file `a`. -/
theorem stranger_gets_kept_answer :
    let server := { localServer with store := (localServer.store.set "a" [10]).set "b" [20] }
    let first := ask 40001 97
    let second := ask 40002 98
    let after := ((server.deliver 0 first).deliver (Duration.seconds 6) second).run
      (Duration.seconds 6)
    first.message.map (·.path) = .ok "/a" ∧ second.message.map (·.path) = .ok "/b" ∧
      after.store.get "/b" = .ok [20] ∧ after.stats.duplicates = 1 ∧
      after.endpoint.socket.sent.map (fun sent => (sent.destination, sent.message.payload)) =
        [(first.source, [10]), (second.source, [10])] := by
  decide +kernel

end Watch
end Blockwise
