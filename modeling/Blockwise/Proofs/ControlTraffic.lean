import Blockwise.ControlTraffic
import Blockwise.Proofs.Controller.Finishing
import Blockwise.Proofs.Controller.Silence
import Blockwise.Proofs.Endpoint.Numbering
import Blockwise.Proofs.Path.Agreement

/-!
# What control traffic shows

A check asks round after round and looks at one message in each: the first that the peer sends
with the token of the round's request and a response code.  The check goes on as long as these
messages come in time and have class 2.  Whatever else is read on the way is queued.

* `Line.request_of_sendable` — asking the peer is to send the request and to wait on the line
  as it is then.
* `ControlTraffic.Check` — a check that begins, with the requests of its rounds, what there is
  to be read in each, and what each comes to.
* `ControlTraffic.Check.Asked` — the line when so many rounds were asked for;
  `ControlTraffic.Check.Asked.next` is one round more, `ControlTraffic.Check.asked` says it of
  every number of rounds.
* `ControlTraffic.Check.rounds_cases` — the rounds end with the last, or with the first that
  does not go well.
* `ControlTraffic.verify_exact` — the main result, with a peer and without.
-/

namespace Blockwise

variable {σ : Type}

/-! ## The request of a round -/

namespace Message

/-- The request of every round fits into a datagram. -/
theorem sendable_asking (id : UInt16) {token : Bytes} (htoken : token.length ≤ maxTokenLength) :
    (asking ControlTraffic.path id token).Sendable := by
  obtain ⟨wire, hwire, -⟩ := @encode_asking ControlTraffic.path id token htoken
    (by decide +kernel)
  obtain ⟨written, hwritten, hlength⟩ := length_encode hwire
  have hfields : writeFields 0 (get ControlTraffic.path).options.fields =
      .ok [0xB1, 0x31, 0x01, 0x30, 0x01, 0x31] := by
    decide +kernel
  cases hfields.symm.trans hwritten
  refine ⟨wire, hwire, ?_⟩
  have hpayload : (writePayload (asking ControlTraffic.path id token).payload).length = 0 := rfl
  have htoken : (asking ControlTraffic.path id token).token.length ≤ maxTokenLength := htoken
  rw [hlength, hpayload]
  simp only [headerLength, maxTokenLength, Datagram.sendLimit, List.length_cons, List.length_nil]
    at htoken ⊢
  omega

theorem asked_get (path : String) (id : UInt16) (token : Bytes) :
    (get path).asked id token = asking path id token :=
  rfl

/-- Neither requests nor empty messages answer anything. -/
theorem answers_eq_false {message : Message}
    (h : message.code.isRequest = true ∨ message.code.isEmpty = true) (request : Message) :
    message.answers request = false := by
  have hclass : message.code.classNumber = 0 := by
    rcases h with hrequest | hempty
    · have hparts : message.code.classNumber = 0 ∧ message.code.detail ≠ 0 := by
        simpa [Code.isRequest] using hrequest
      exact hparts.1
    · have hbyte : message.code.byte = 0 := by simpa [Code.isEmpty] using hempty
      simp [Code.classNumber, hbyte]
  simp [answers, Code.isResponse, hclass]

end Message

/-! ## Accepting a sender -/

/-- Of what comes in order, the first readable datagram is accepted when it comes. -/
theorem Endpoint.accept_of_first {endpoint : Endpoint} {now limit : Nat} {arrival : Arrival}
    (horder : Socket.InOrder endpoint.socket.arrivals)
    (hfirst : Socket.firstReadable (some (now + limit)) endpoint.socket.arrivals = some arrival) :
    ∃ passed message unread, endpoint.socket.arrivals = passed ++ arrival :: unread ∧
      (∀ earlier ∈ passed, earlier.datagram.isReadable = false) ∧
      endpoint.accept now (some limit) =
        { result := .ok (Peer.ofAddress arrival.datagram.source)
          endpoint := { endpoint.withArrivals unread with
            peer := some (Peer.ofAddress arrival.datagram.source)
            pending := endpoint.pending ++ [message] }
          time := max now arrival.time } := by
  rcases endpoint.accept_cases_of now (some limit) with
    ⟨hnone, -⟩ | ⟨passed, found, message, unread, hfound, hsplit, hpassed, hmessage, -⟩
  · cases hnone.symm.trans hfirst
  · obtain rfl : found = arrival := Option.some.inj (hfound.symm.trans hfirst)
    have hdue : found.time ≤ now + limit :=
      Socket.time_of_mem_dueBy (List.mem_of_find?_eq_some hfirst)
    have hbefore : ∀ earlier ∈ passed, earlier.time ≤ found.time := by
      rw [hsplit] at horder
      exact fun earlier hmem => (List.pairwise_append.1 horder).2.2 earlier hmem found (by simp)
    have hpass : ∀ earlier ∈ passed, judgeAny earlier.datagram = .pass := by
      intro earlier hmem
      have hunreadable := hpassed earlier hmem
      cases hread : earlier.datagram.message with
      | ok read => simp [hread, Except.toOption] at hunreadable
      | error error => simp [judgeAny, hread]
    have hjudge : judgeAny found.datagram =
        .take (message, Peer.ofAddress found.datagram.source) := by
      refine Socket.Verdict.eq_take_of_taken? ?_
      rw [taken?_judgeAny, hmessage]
      rfl
    have hread : Socket.read judgeAny (some (now + limit)) now (passed ++ found :: unread) =
        ⟨some (message, Peer.ofAddress found.datagram.source), [], max now found.time, unread⟩ :=
      Socket.read_of_first hbefore hpass (by simpa using hdue) hjudge now
    refine ⟨passed, message, unread, hsplit, ?_, ?_⟩
    · intro earlier hmem
      simp [Datagram.isReadable, hpassed earlier hmem]
    · simp [accept, hsplit, hread, withArrivals]

/-! ## Asking the peer -/

namespace Line

/-- The line after a wait that is known. -/
theorem wait_of_eq {α : Type} {operation : Endpoint → Nat → Waited α} {line : Line σ}
    {waited : Waited α} (h : operation line.endpoint line.now = waited) :
    Line.wait operation line =
      (waited.result, { line with endpoint := waited.endpoint, now := waited.time }) := by
  rw [← h]
  rfl

/-- The line when a request is out to the peer and what the client sends on it is on its way. -/
def asking (behaviour : Client σ) (line : Line σ) (peer : Peer) (request : Message) : Line σ :=
  let sent := { line with endpoint :=
    { line.endpoint with nextId := line.endpoint.nextId + 1 }.afterSending peer request }
  let replied := behaviour.reply ⟨peer.address, request⟩ sent.observed sent.client
  { sent with client := replied.2 }.deliver sent.now replied.1

section Asking

variable (behaviour : Client σ) (line : Line σ) (peer : Peer) (request : Message)

theorem sent_asking : (line.asking behaviour peer request).endpoint.socket.sent =
    line.endpoint.socket.sent ++ [⟨peer.address, request⟩] :=
  Socket.sent_deliverAll _ _ _

theorem order_asking {line : Line σ} (h : Socket.InOrder line.endpoint.socket.arrivals) :
    Socket.InOrder (line.asking behaviour peer request).endpoint.socket.arrivals :=
  @Socket.InOrder.deliverAll (line.endpoint.afterSending peer request).socket h _ _

end Asking

/-- To ask the peer is to send the request and to wait for the response. -/
theorem request_of_sendable (behaviour : Client σ) {line : Line σ} {peer : Peer}
    {request : Message} {token : Bytes} (limit : Nat) (hpeer : line.endpoint.peer = some peer)
    (hsendable : (request.asked line.endpoint.nextId token).Sendable) :
    Line.request behaviour request token limit line =
      let asked := request.asked line.endpoint.nextId token
      Line.wait (fun endpoint now => endpoint.awaitResponse now limit asked)
        (line.asking behaviour peer asked) := by
  have hknown : ({ line.endpoint with nextId := line.endpoint.nextId + 1 }.afterSending peer
      (request.asked line.endpoint.nextId token)).peer = some peer := hpeer
  rw [Line.request, Endpoint.ask_of_sendable hpeer hsendable]
  simp only [hknown]
  rfl

end Line

/-! ## A check -/

namespace ControlTraffic

/-- A check that begins on a line with a peer, with the tokens of its rounds. -/
structure Check (σ : Type) where
  behaviour : Client σ
  settings : Settings
  tokens : Nat → Bytes
  line : Line σ
  peer : Peer

namespace Check

variable (check : Check σ)

/-- The line when so many rounds have been asked for, whatever came of them. -/
def lineAfter : Nat → Line σ
  | 0 => check.line
  | count + 1 =>
    (Line.request check.behaviour (Message.get path) (check.tokens count)
      check.settings.controlDeadline (lineAfter count)).2

/-- The request of a round. -/
def request (round : Nat) : Message :=
  Message.asking path (check.line.endpoint.nextId + UInt16.ofNat round) (check.tokens round)

/-- What there is to be read from the time on at which the request of a round is out. -/
def arrivals (round : Nat) : List Arrival :=
  ((check.lineAfter round).asking check.behaviour check.peer
    (check.request round)).endpoint.socket.arrivals

/-- When the time of a round is over. -/
def deadline (round : Nat) : Nat := (check.lineAfter round).now + check.settings.controlDeadline

/-- What a datagram brings as an answer to the request of a round: a message of the peer with the
token of the request and a response code. -/
def brings? (round : Nat) (datagram : Datagram) : Option Message :=
  (datagram.messageFrom? check.peer.address).filter (·.answers (check.request round))

/-- The first answer to the request of a round, with the time at which it comes. -/
def answer? (round : Nat) : Option (Nat × Message) :=
  (check.arrivals round).findSome? fun arrival =>
    (check.brings? round arrival.datagram).map (arrival.time, ·)

/-- That answer, if it comes in time. -/
def timely? (round : Nat) : Option Message :=
  ((check.answer? round).filter (·.1 ≤ check.deadline round)).map (·.2)

/-- Whether a round goes well: its first answer comes in time and has class 2. -/
def passes (round : Nat) : Bool := (check.timely? round).any (·.code.classNumber = 2)

/-- Why a round does not go well. -/
def failure (round : Nat) : Failure :=
  match check.timely? round with
  | some response => .client (.controlRound round response.code)
  | none => .timeout (.response (check.request round))

/-- What is read in a round and is not its answer. -/
def passedOver (round : Nat) : List Arrival :=
  (check.arrivals round).takeWhile fun arrival =>
    arrival.time ≤ check.deadline round && (check.brings? round arrival.datagram).isNone

/-- What a round queues: all messages of the peer that are read in it, in order, but for its
answer and for empty acknowledgements of its request. -/
def queued (round : Nat) : List Message :=
  (check.passedOver round).filterMap fun arrival =>
    (arrival.datagram.messageFrom? check.peer.address).filter fun message =>
      !message.answers (check.request round) && !message.acknowledges (check.request round)

/-- The line when so many rounds have been asked for: their requests went out to the peer, and
what they read besides their answers is queued. -/
structure Asked (count : Nat) (line : Line σ) : Prop where
  peer_eq : line.endpoint.peer = some check.peer
  nextId_eq : line.endpoint.nextId = check.line.endpoint.nextId + UInt16.ofNat count
  sent_eq : line.endpoint.socket.sent = check.line.endpoint.socket.sent ++
    (List.range count).map fun round => ⟨check.peer.address, check.request round⟩
  pending_eq : line.endpoint.pending =
    check.line.endpoint.pending ++ (List.range count).flatMap check.queued
  order : Socket.InOrder line.endpoint.socket.arrivals

variable {check} {count : Nat}

/-- A round waits on the line as it is when its request is out. -/
theorem Asked.request_eq (h : check.Asked count (check.lineAfter count))
    (htoken : (check.tokens count).length ≤ Message.maxTokenLength) :
    Line.request check.behaviour (Message.get path) (check.tokens count)
        check.settings.controlDeadline (check.lineAfter count) =
      Line.wait (fun endpoint now => endpoint.awaitResponse now check.settings.controlDeadline
          (check.request count))
        ((check.lineAfter count).asking check.behaviour check.peer (check.request count)) := by
  have hasked : (Message.get path).asked (check.lineAfter count).endpoint.nextId
      (check.tokens count) = check.request count := by
    rw [h.nextId_eq]
    exact Message.asked_get path _ _
  have hsendable : (check.request count).Sendable := Message.sendable_asking _ htoken
  rw [← hasked] at hsendable ⊢
  exact Line.request_of_sendable check.behaviour _ h.peer_eq hsendable

/-- Its result is the first answer, if that comes in time. -/
theorem Asked.result_eq (h : check.Asked count (check.lineAfter count))
    (htoken : (check.tokens count).length ≤ Message.maxTokenLength) :
    (Line.request check.behaviour (Message.get path) (check.tokens count)
        check.settings.controlDeadline (check.lineAfter count)).1 =
      (check.timely? count).elim (.error (.timeout (.response (check.request count)))) .ok := by
  let asking := (check.lineAfter count).asking check.behaviour check.peer (check.request count)
  have hpeer : asking.endpoint.peer = some check.peer := h.peer_eq
  have horder : Socket.InOrder asking.endpoint.socket.arrivals := Line.order_asking _ _ _ h.order
  rw [h.request_eq htoken]
  show (asking.endpoint.awaitResponse asking.now check.settings.controlDeadline
    (check.request count)).result = _
  rw [Endpoint.result_awaitResponse hpeer]
  exact congrArg (Option.elim · _ _) (horder.findSome?_dueBy (check.brings? count))

/-- What it keeps is queued. -/
theorem kept_eq (check : Check σ) (count : Nat) :
    (Socket.read (Endpoint.judgeResponse check.peer (check.request count))
        (some (check.deadline count)) (check.lineAfter count).now (check.arrivals count)).kept =
      check.queued count := by
  rw [Socket.kept_read]
  simp only [Endpoint.kept?_judgeResponse, Endpoint.taken?_judgeResponse]
  rfl

/-- **One round more.** -/
theorem Asked.next (h : check.Asked count (check.lineAfter count))
    (htoken : (check.tokens count).length ≤ Message.maxTokenLength) :
    check.Asked (count + 1) (check.lineAfter (count + 1)) := by
  let asking := (check.lineAfter count).asking check.behaviour check.peer (check.request count)
  have hpeer : asking.endpoint.peer = some check.peer := h.peer_eq
  have horder : Socket.InOrder asking.endpoint.socket.arrivals := Line.order_asking _ _ _ h.order
  have hsent : asking.endpoint.socket.sent =
      (check.lineAfter count).endpoint.socket.sent ++
        [⟨check.peer.address, check.request count⟩] :=
    Line.sent_asking _ _ _ _
  have hafter : (check.lineAfter (count + 1)).endpoint =
      (asking.endpoint.awaitResponse asking.now check.settings.controlDeadline
        (check.request count)).endpoint := by
    rw [lineAfter, h.request_eq htoken]
    rfl
  have hsuffix := Endpoint.suffix_awaitResponse asking.endpoint asking.now
    check.settings.controlDeadline (check.request count)
  rw [← hafter] at hsuffix
  rw [Endpoint.endpoint_awaitResponse hpeer] at hafter
  refine ⟨?_, ?_, ?_, ?_, horder.sublist hsuffix.sublist⟩
  · rw [hafter]
    exact hpeer
  · rw [hafter]
    show (check.lineAfter count).endpoint.nextId + 1 = _
    rw [h.nextId_eq, UInt16.add_assoc]
    simp
  · rw [hafter]
    show asking.endpoint.socket.sent = _
    rw [hsent, h.sent_eq, List.range_succ, List.map_append, List.append_assoc]
    rfl
  · rw [hafter]
    show (check.lineAfter count).endpoint.pending ++ _ = _
    rw [h.pending_eq, List.range_succ, List.flatMap_append, List.flatMap_singleton,
      ← check.kept_eq count, List.append_assoc]
    rfl

/-- **The line after every number of rounds.** -/
theorem asked (hpeer : check.line.endpoint.peer = some check.peer)
    (horder : Socket.InOrder check.line.endpoint.socket.arrivals)
    (htokens : ∀ round < count, (check.tokens round).length ≤ Message.maxTokenLength) :
    check.Asked count (check.lineAfter count) := by
  induction count with
  | zero => exact ⟨hpeer, by simp [lineAfter], by simp [lineAfter], by simp [lineAfter], horder⟩
  | succ count ih =>
      have hbefore := ih fun round hlt => htokens round (Nat.lt_succ_of_lt hlt)
      exact hbefore.next (htokens count (Nat.lt_succ_self count))

/-! ## The rounds -/

/-- What one round comes to. -/
theorem Asked.round_cases (h : check.Asked count (check.lineAfter count))
    (htoken : (check.tokens count).length ≤ Message.maxTokenLength) (left : Nat) :
    (check.passes count = true ∧
        rounds check.behaviour check.settings check.tokens count (left + 1)
            (check.lineAfter count) =
          rounds check.behaviour check.settings check.tokens (count + 1) left
            (check.lineAfter (count + 1))) ∨
      check.passes count = false ∧
        rounds check.behaviour check.settings check.tokens count (left + 1)
            (check.lineAfter count) =
          (.error (check.failure count), check.lineAfter (count + 1)) := by
  have hresult := h.result_eq htoken
  have hrequest : Line.request check.behaviour (Message.get path) (check.tokens count)
      check.settings.controlDeadline (check.lineAfter count) =
        ((check.timely? count).elim (.error (.timeout (.response (check.request count)))) .ok,
          check.lineAfter (count + 1)) :=
    Prod.ext hresult rfl
  rw [rounds]
  cases htimely : check.timely? count with
  | none =>
      rw [htimely] at hrequest
      refine Or.inr ⟨by simp [passes, htimely], ?_⟩
      rw [bind_of_error hrequest, failure, htimely]
  | some response =>
      rw [htimely] at hrequest
      rw [bind_of_ok hrequest]
      by_cases hclass : response.code.classNumber = 2
      · refine Or.inl ⟨by simp [passes, htimely, hclass], ?_⟩
        simp only [hclass]
        rfl
      · refine Or.inr ⟨by simp [passes, htimely, hclass], ?_⟩
        simp only [failure, htimely]
        rw [if_pos hclass]
        rfl

/-- **How the rounds end**: with the last one, or with the first that does not go well. -/
theorem rounds_cases (hpeer : check.line.endpoint.peer = some check.peer)
    (horder : Socket.InOrder check.line.endpoint.socket.arrivals) {left : Nat}
    (htokens : ∀ round < count + left, (check.tokens round).length ≤ Message.maxTokenLength) :
    let ended := rounds check.behaviour check.settings check.tokens count left
      (check.lineAfter count)
    ((∀ round, count ≤ round → round < count + left → check.passes round = true) ∧
        ended = (.ok (), check.lineAfter (count + left))) ∨
      ∃ round, count ≤ round ∧ round < count + left ∧
        (∀ earlier, count ≤ earlier → earlier < round → check.passes earlier = true) ∧
        check.passes round = false ∧
        ended = (.error (check.failure round), check.lineAfter (round + 1)) := by
  intro ended
  induction left generalizing count with
  | zero => exact Or.inl ⟨fun round hle hlt => absurd hlt (by omega), rfl⟩
  | succ left ih =>
      have hasked := check.asked hpeer horder fun round hlt =>
        htokens round (Nat.lt_add_right (left + 1) hlt)
      rcases hasked.round_cases (htokens count (by omega)) left with
        ⟨hpassed, hrest⟩ | ⟨hstopped, hended⟩
      · have hfrom {upto : Nat} (hall : ∀ round, count + 1 ≤ round → round < upto →
            check.passes round = true) :
            ∀ round, count ≤ round → round < upto → check.passes round = true := by
          intro round hle hlt
          rcases Nat.eq_or_lt_of_le hle with rfl | hlater
          · exact hpassed
          · exact hall round hlater hlt
        have hsum : count + (left + 1) = count + 1 + left := by omega
        rw [hsum] at htokens ⊢
        rcases ih htokens with ⟨hall, hended⟩ | ⟨round, hle, hlt, hall, hstopped, hended⟩
        · exact Or.inl ⟨hfrom hall, hrest.trans hended⟩
        · exact Or.inr ⟨round, by omega, hlt, hfrom hall, hstopped, hrest.trans hended⟩
      · exact Or.inr ⟨count, le_rfl, by omega, fun earlier hle hlt => absurd hlt (by omega),
          hstopped, hended⟩

/-- Its request is confirmable and reads the small resource, under the next id and with the token
of the round. -/
theorem request_asks (check : Check σ) (round : Nat) :
    let request := check.request round
    request.kind = .confirmable ∧ request.code = .get ∧ request.path = "/1/0/1" ∧
      request.id.toNat = (check.line.endpoint.nextId.toNat + round) % 65536 ∧
      request.token = check.tokens round := by
  refine ⟨rfl, rfl, ?_, ?_, rfl⟩
  · rw [request, Message.path_asking]
    decide +kernel
  · show (check.line.endpoint.nextId + UInt16.ofNat round).toNat = _
    rw [UInt16.toNat_add, UInt16.toNat_ofNat', Nat.add_mod_mod]

/-- An answer to one round answers no other if all rounds have different tokens. -/
theorem answers_once
    (hdistinct : ∀ round < check.settings.controlRounds, ∀ other < check.settings.controlRounds,
      check.tokens round = check.tokens other → round = other)
    {round other : Nat} (hround : round < check.settings.controlRounds)
    (hother : other < check.settings.controlRounds) (hne : other ≠ round) {message : Message}
    (hanswers : message.answers (check.request round) = true) :
    message.answers (check.request other) = false := by
  have htoken : message.token = check.tokens round := by
    simp only [Message.answers, Bool.and_eq_true, decide_eq_true_eq] at hanswers
    exact hanswers.1
  have hforeign : message.token ≠ (check.request other).token := by
    rw [htoken]
    exact fun hsame => hne (hdistinct round hround other hother hsame).symm
  simp [Message.answers, hforeign]

/-- What a check comes to. -/
structure Account (check : Check σ) (ended : Except Failure Unit × Line σ) : Prop where
  /-- It succeeds exactly if every round goes well, -/
  ok_iff : ended.1 = .ok () ↔
    ∀ round < check.settings.controlRounds, check.passes round = true
  /-- and then it has asked for all of them. -/
  finished : (∀ round < check.settings.controlRounds, check.passes round = true) →
    check.Asked check.settings.controlRounds ended.2
  /-- It fails with the first round that does not, and does not ask for any behind it. -/
  stopped : ∀ round < check.settings.controlRounds,
    (∀ earlier < round, check.passes earlier = true) → check.passes round = false →
      ended.1 = .error (check.failure round) ∧ check.Asked (round + 1) ended.2
  /-- What it asks for are reads of one path, with ids in a row and each with its own token. -/
  requests : ∀ round,
    let request := check.request round
    request.kind = .confirmable ∧ request.code = .get ∧ request.path = "/1/0/1" ∧
      request.id.toNat = (check.line.endpoint.nextId.toNat + round) % 65536 ∧
      request.token = check.tokens round
  /-- No message answers two rounds, -/
  once : ∀ round < check.settings.controlRounds, ∀ other < check.settings.controlRounds,
    other ≠ round → ∀ message : Message, message.answers (check.request round) = true →
      message.answers (check.request other) = false
  /-- and neither a request nor an empty message, as a reset, answers any. -/
  never : ∀ message : Message, message.code.isRequest = true ∨ message.code.isEmpty = true →
    ∀ round, message.answers (check.request round) = false

/-- The rounds on a line with a peer. -/
theorem account_rounds (hpeer : check.line.endpoint.peer = some check.peer)
    (horder : Socket.InOrder check.line.endpoint.socket.arrivals)
    (htokens : ∀ round < check.settings.controlRounds,
      (check.tokens round).length ≤ Message.maxTokenLength)
    (hdistinct : ∀ round < check.settings.controlRounds, ∀ other < check.settings.controlRounds,
      check.tokens round = check.tokens other → round = other) :
    check.Account (rounds check.behaviour check.settings check.tokens 0
      check.settings.controlRounds check.line) := by
  have hasked {count : Nat} (hle : count ≤ check.settings.controlRounds) :
      check.Asked count (check.lineAfter count) :=
    check.asked hpeer horder fun round hlt => htokens round (Nat.lt_of_lt_of_le hlt hle)
  have hrequests := check.request_asks
  have honce : ∀ round < check.settings.controlRounds, ∀ other < check.settings.controlRounds,
      other ≠ round → ∀ message : Message, message.answers (check.request round) = true →
        message.answers (check.request other) = false :=
    fun round hround other hother hne _ => answers_once hdistinct hround hother hne
  have hnever : ∀ message : Message, message.code.isRequest = true ∨ message.code.isEmpty = true →
      ∀ round, message.answers (check.request round) = false :=
    fun _ hcode round => Message.answers_eq_false hcode (check.request round)
  have hcases := @rounds_cases σ check 0 hpeer horder check.settings.controlRounds
    (by simpa using htokens)
  simp only [Nat.zero_add, Nat.zero_le, true_implies, true_and, lineAfter] at hcases
  rcases hcases with ⟨hall, hended⟩ | ⟨round, hlt, hall, hstopped, hended⟩
  · rw [hended]
    refine ⟨⟨fun _ => hall, fun _ => rfl⟩, fun _ => hasked le_rfl, ?_, hrequests, honce, hnever⟩
    intro round hlt _ hstopped
    rw [hall round hlt] at hstopped
    cases hstopped
  · rw [hended]
    have hnot : ¬∀ round < check.settings.controlRounds, check.passes round = true := by
      intro hpassed
      rw [hpassed round hlt] at hstopped
      cases hstopped
    refine ⟨⟨fun hok => (nomatch hok), fun hpassed => absurd hpassed hnot⟩,
      fun hpassed => absurd hpassed hnot, ?_, hrequests, honce, hnever⟩
    intro other hother hbefore hfailed
    -- There is only one round that is the first not to go well.
    obtain rfl : other = round := by
      rcases Nat.lt_trichotomy other round with hearlier | hsame | hlater
      · rw [hall other hearlier] at hfailed
        cases hfailed
      · exact hsame
      · rw [hbefore round hlater] at hstopped
        cases hstopped
    exact ⟨rfl, hasked hlt⟩

end Check

/-! ## With a peer and without -/

section Verify

variable (behaviour : Client σ) (settings : Settings) (tokens : Nat → Bytes) {line : Line σ}

/-- With a peer, the check consists of its rounds. -/
theorem verify_of_peer (hconnected : line.endpoint.isConnected = true) :
    verify behaviour settings tokens line =
      rounds behaviour settings tokens 0 settings.controlRounds line := by
  rw [verify, bind_of_ok (get_eq line)]
  simp only [hconnected]
  rfl

/-- Without a peer, one is accepted and its first message received. -/
theorem verify_of_no_peer (hconnected : line.endpoint.isConnected = false) :
    verify behaviour settings tokens line =
      (Line.accept settings.acceptTimeout >>= fun _ =>
        Line.receive settings.receiveTimeout >>= fun _ =>
          rounds behaviour settings tokens 0 settings.controlRounds) line := by
  rw [verify, bind_of_ok (get_eq line)]
  simp only [hconnected]
  rfl

/-- If nobody can be heard in time, nothing is asked. -/
theorem verify_of_nobody (hconnected : line.endpoint.isConnected = false)
    (hnone : Socket.firstReadable (some (line.now + settings.acceptTimeout))
      line.endpoint.socket.arrivals = none) :
    verify behaviour settings tokens line =
      (.error (.timeout (.connection line.endpoint.socket.address)),
        { line with
          endpoint := line.endpoint.withArrivals
            (Socket.lateFor (some (line.now + settings.acceptTimeout))
              line.endpoint.socket.arrivals)
          now := line.now + settings.acceptTimeout }) := by
  have haccept : Line.accept settings.acceptTimeout line = _ :=
    Line.wait_of_eq (Endpoint.accept_of_none hnone)
  rw [verify_of_no_peer behaviour settings tokens hconnected, bind_of_error haccept]

/-- The line when the sender of an arrival is the peer: what is behind the arrival is unread, and
nothing is queued. -/
def adopting (line : Line σ) (arrival : Arrival) (unread : List Arrival) : Line σ :=
  { line with
    endpoint := { line.endpoint.withArrivals unread with
      peer := some (Peer.ofAddress arrival.datagram.source), pending := [] }
    now := max line.now arrival.time }

/-- The first who can be heard in time is the peer of the rounds, and what it said first is
gone. -/
theorem verify_of_first (hconnected : line.endpoint.isConnected = false)
    (hpending : line.endpoint.pending = []) {arrival : Arrival}
    (horder : Socket.InOrder line.endpoint.socket.arrivals)
    (hfirst : Socket.firstReadable (some (line.now + settings.acceptTimeout))
      line.endpoint.socket.arrivals = some arrival) :
    ∃ passed unread, line.endpoint.socket.arrivals = passed ++ arrival :: unread ∧
      (∀ earlier ∈ passed, earlier.datagram.isReadable = false) ∧
      verify behaviour settings tokens line =
        rounds behaviour settings tokens 0 settings.controlRounds
          (adopting line arrival unread) := by
  obtain ⟨passed, message, unread, hsplit, hpassed, haccepted⟩ :=
    Endpoint.accept_of_first horder hfirst
  refine ⟨passed, unread, hsplit, hpassed, ?_⟩
  rw [hpending] at haccepted
  have haccept : Line.accept settings.acceptTimeout line = _ := Line.wait_of_eq haccepted
  rw [verify_of_no_peer behaviour settings tokens hconnected, bind_of_ok haccept]
  have hreceive {queued : Line σ} {rest : List Message}
      (hqueued : queued.endpoint.pending = message :: rest) :
      Line.receive settings.receiveTimeout queued = _ :=
    Line.wait_of_eq (Endpoint.receive_of_pending hqueued queued.now _)
  rw [bind_of_ok (hreceive rfl)]
  rfl

end Verify

/-- **What control traffic shows.**  Whatever was done with the endpoint before and whatever the
client does, a check on a line with a peer succeeds exactly if in every round the first message of
the peer with the token of the round's request and a response code comes in time and has class 2.
It asks for one round after the other until one does not go well, and queues what else the peer
sends.  Without a peer, the first datagram that can be read in time is used up and makes its sender
the peer of such a check. -/
theorem verify_exact (behaviour : Client σ) (settings : Settings) (tokens : Nat → Bytes)
    (htokens : ∀ round < settings.controlRounds, (tokens round).length ≤ Message.maxTokenLength)
    (hdistinct : ∀ round < settings.controlRounds, ∀ other < settings.controlRounds,
      tokens round = tokens other → round = other)
    (address : SocketAddress) (security : Security) (firstId : UInt16)
    (calls : List Endpoint.Call) (client : σ) (now : Nat) :
    let endpoint :=
      ((Endpoint.Log.start (.bind address security firstId)).run calls).endpoint
    let line : Line σ := ⟨endpoint, client, now⟩
    let ended := verify behaviour settings tokens line
    let first := Socket.firstReadable (some (now + settings.acceptTimeout)) endpoint.socket.arrivals
    (∀ peer, endpoint.peer = some peer →
        Check.Account ⟨behaviour, settings, tokens, line, peer⟩ ended) ∧
      (endpoint.peer = none → first = none →
        ended.1 = .error (.timeout (.connection endpoint.socket.address)) ∧
          ended.2.endpoint.socket.sent = endpoint.socket.sent) ∧
      (endpoint.peer = none → ∀ arrival, first = some arrival →
        ∃ passed unread, endpoint.socket.arrivals = passed ++ arrival :: unread ∧
          (∀ earlier ∈ passed, earlier.datagram.isReadable = false) ∧
          Check.Account ⟨behaviour, settings, tokens, adopting line arrival unread,
            Peer.ofAddress arrival.datagram.source⟩ ended) := by
  intro endpoint line ended first
  have horder : Socket.InOrder endpoint.socket.arrivals :=
    @Endpoint.Log.inOrder_run (Endpoint.Log.start (.bind address security firstId))
      List.Pairwise.nil calls
  have haccounted := (Endpoint.Log.accounted_start (.bind address security firstId)).run calls
  have hunconnected (hnone : endpoint.peer = none) : line.endpoint.isConnected = false := by
    show endpoint.peer.isSome = false
    rw [hnone]
    rfl
  refine ⟨?_, ?_, ?_⟩
  · intro peer hpeer
    have hconnected : line.endpoint.isConnected = true := by
      show endpoint.peer.isSome = true
      rw [hpeer]
      rfl
    have hended : ended = _ := verify_of_peer behaviour settings tokens hconnected
    rw [hended]
    exact @Check.account_rounds σ ⟨behaviour, settings, tokens, line, peer⟩ hpeer horder htokens
      hdistinct
  · intro hnone hfirst
    have hended : ended = _ :=
      verify_of_nobody behaviour settings tokens (hunconnected hnone) hfirst
    rw [hended]
    exact ⟨rfl, rfl⟩
  · intro hnone arrival hfirst
    have hpending : endpoint.pending = [] := by
      by_contra hqueued
      have hconnected := haccounted.connected hqueued
      rw [hunconnected hnone] at hconnected
      cases hconnected
    obtain ⟨passed, unread, hsplit, hpassed, hended⟩ := verify_of_first behaviour settings tokens
      (hunconnected hnone) hpending horder hfirst
    refine ⟨passed, unread, hsplit, hpassed, ?_⟩
    have hbehind : Socket.InOrder unread := by
      have hsuffix : unread <:+ endpoint.socket.arrivals :=
        ⟨passed ++ [arrival], by rw [hsplit, List.append_assoc, List.singleton_append]⟩
      exact horder.sublist hsuffix.sublist
    have hended : ended = _ := hended
    rw [hended]
    exact @Check.account_rounds σ ⟨behaviour, settings, tokens, adopting line arrival unread,
      Peer.ofAddress arrival.datagram.source⟩ rfl hbehind htokens hdistinct

/-! ## A client that repeats itself -/

/-- A client that answers every request twice with 2.05, after one and after two milliseconds. -/
def repeater : Client Unit where
  obey _ _ client := ({ outcome := .ok (), delay := 0, datagrams := [] }, client)
  reply outgoing _ client :=
    let wire := (Message.responseTo outgoing.message .content).encode.toOption.getD []
    let datagram : Datagram := ⟨.v4 127 0 0 1 40001, wire⟩
    ([(Duration.milliseconds 1, datagram), (Duration.milliseconds 2, datagram)], client)
  socketCount _ client := (.ok 1, client)
  socketTransport _ _ := .ok .udp
  file _ _ := none

/-- Its control connection, on which it has registered. -/
def registered : List Endpoint.Call :=
  [.deliver 0 [(0, ⟨.v4 127 0 0 1 40001, [0x40, 0x02, 0x00, 0x07]⟩)], .accept 0 none,
    .receive 0 none]

/-- A check of it in three rounds, whose first request has the last id. -/
def repeating : Check Unit where
  behaviour := repeater
  settings := { Settings.standard with controlRounds := 3 }
  tokens round := [UInt8.ofNat round, 0, 0, 1]
  line := ⟨((Endpoint.Log.start (.bind (.v4 127 0 0 1 5684) .none 65535)).run
    registered).endpoint, (), 0⟩
  peer := ⟨.v4 127 0 0 1, 40001⟩

/-- All rounds go well, and the repeated answers of the first two are queued. -/
theorem verify_exact_repeated :
    let ended := verify repeater repeating.settings repeating.tokens repeating.line
    (∀ round < 3, (repeating.tokens round).length ≤ Message.maxTokenLength) ∧
      (∀ round < 3, ∀ other < 3,
        repeating.tokens round = repeating.tokens other → round = other) ∧
      repeating.line.endpoint.peer = some repeating.peer ∧ ended.1 = .ok () ∧
      ended.2.endpoint.socket.sent.map (·.message.id) = [65535, 0, 1] ∧
      ended.2.endpoint.pending.map (·.token) = [repeating.tokens 0, repeating.tokens 1] := by
  intro ended
  have htokens : ∀ round < 3, (repeating.tokens round).length ≤ Message.maxTokenLength := by
    decide
  have hdistinct : ∀ round < 3, ∀ other < 3,
      repeating.tokens round = repeating.tokens other → round = other := by
    decide
  have hpeer : repeating.line.endpoint.peer = some repeating.peer := by decide +kernel
  have haccount : repeating.Account ended :=
    (verify_exact repeater repeating.settings repeating.tokens htokens hdistinct
      (.v4 127 0 0 1 5684) .none 65535 registered () 0).1 repeating.peer hpeer
  have hpassed : ∀ round < 3, repeating.passes round = true := by decide +kernel
  have hasked := haccount.finished hpassed
  refine ⟨htokens, hdistinct, hpeer, haccount.ok_iff.2 hpassed, ?_, ?_⟩
  · rw [hasked.sent_eq]
    decide +kernel
  · rw [hasked.pending_eq]
    decide +kernel

end ControlTraffic
end Blockwise
