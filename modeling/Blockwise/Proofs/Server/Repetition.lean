import Blockwise.Proofs.Server.Copies
import Blockwise.Proofs.Server.Failures
import Blockwise.Proofs.Server.Fetch
import Mathlib.Data.List.Forall2
import Mathlib.Data.List.TakeWhile

/-!
# Clients that repeat their requests

A client may send each of its requests as often as it likes: until it is answered,
and once more after that, before it goes on to the next block.  The server ignores
what its gate tells it to, answers each block once, and sends an answer again for
each further copy of its request.

* `Fetch.Verbatim` — a client whose copies are true copies.
* `Headway` — how far a download has come; `Fetch.InTurn` says which requests may
  come next.
* `Server.StandsBy` — the server has come just as far; `StandsBy.serve` says that
  one more request leaves it so, in each of its cases.
* `Server.standsBy_runThrough` — so does the serving loop, idle time-outs and all.
-/

namespace Blockwise

/-! ## The client -/

namespace Fetch

variable {fetch : Fetch} {number : Nat}

/-- The request for a block. -/
def asked (fetch : Fetch) (number : Nat) : Message := fetch.request number 0 none

/-- The answer to the request for a block. -/
def answer (fetch : Fetch) (number : Nat) : Message := fetch.answerTo number (fetch.asked number)

/-- The answers to the requests for some blocks, as they go out to a peer. -/
def answersTo (fetch : Fetch) (peer : Peer) (numbers : List Nat) : List Outgoing :=
  numbers.map fun number => ⟨peer.address, fetch.answer number⟩

theorem answersTo_append (fetch : Fetch) (peer : Peer) (numbers more : List Nat) :
    fetch.answersTo peer (numbers ++ more) =
      fetch.answersTo peer numbers ++ fetch.answersTo peer more :=
  List.map_append

/-- A client that repeats each request as it is. -/
structure Verbatim (fetch : Fetch) : Prop extends fetch.Conforms where
  unchanged : ∀ number copy last, number < fetch.blocks →
    fetch.request number copy last = fetch.asked number

theorem Verbatim.asks_asked (h : fetch.Verbatim) (hlt : number < fetch.blocks) :
    fetch.Asks number (fetch.asked number) :=
  h.asks number 0 none hlt

/-- Every block that is asked for has a number that can be written. -/
theorem Asks.lt_numberLimit {request : Message} (h : fetch.Asks number request) :
    number < Block.numberLimit := by
  obtain ⟨requested, -, hnames⟩ := h.block
  cases hnames with
  | nothing => decide
  | first => decide
  | later before block hnumber => exact hnumber ▸ block.number.isLt

theorem Verbatim.carriesBlock_answer (h : fetch.Verbatim) (hlt : number < fetch.blocks) :
    (fetch.answer number).CarriesBlock fetch.payload fetch.size number :=
  fetch.carriesBlock_answerTo _ (h.asks_asked hlt).lt_numberLimit

/-- The request that was answered last when so many blocks were answered. -/
def last (fetch : Fetch) : Nat → Option Message
  | 0 => none
  | before + 1 => some (fetch.asked before)

/-- The answer that is kept when so many blocks were answered. -/
def kept (fetch : Fetch) : Nat → Option CachedAnswer
  | 0 => none
  | before + 1 =>
    some ⟨(fetch.asked before).id, (fetch.asked before).token, fetch.answer before⟩

theorem fits_asked (hasks : fetch.Asks number (fetch.asked number)) (answer : Message) :
    CachedAnswer.fits ⟨(fetch.asked number).id, (fetch.asked number).token, answer⟩
      (fetch.asked number) = true := by
  simp [CachedAnswer.fits, Message.isConfirmable, hasks.confirmable]

theorem sendable_answer (htoken : (fetch.asked number).token.length ≤ Message.maxTokenLength) :
    (fetch.answer number).Sendable :=
  (fetch.transferAt number).encode_respond _ htoken

end Fetch

/-! ## How far a download has come -/

/-- How far a download has come. -/
structure Headway where
  /-- How many blocks were answered. -/
  number : Nat
  /-- How often the request for the next one was ignored. -/
  copies : Nat
  /-- How often an answer was sent once more. -/
  again : Nat
  /-- The blocks that were sent, in order. -/
  sent : List Nat

namespace Headway

/-- Nothing has been asked for yet. -/
def begin : Headway := ⟨0, 0, 0, []⟩

/-- The headway after a request for a block.  That for the next one is ignored or
answered; that for an earlier one gets its answer once more. -/
def ask (backoff : ModuloBackoff) (headway : Headway) (number : Nat) : Headway :=
  if number < headway.number then
    { headway with again := headway.again + 1, sent := headway.sent ++ [number] }
  else if headway.copies < backoff.requiredDrops number then
    { headway with copies := headway.copies + 1 }
  else
    { headway with number := headway.number + 1, copies := 0, sent := headway.sent ++ [number] }

/-- The headway after requests for some blocks, one after the other. -/
def askAll (backoff : ModuloBackoff) (headway : Headway) (numbers : List Nat) : Headway :=
  numbers.foldl (ask backoff) headway

variable {backoff : ModuloBackoff} {headway : Headway} {number : Nat}

theorem askAll_append (backoff : ModuloBackoff) (headway : Headway) (numbers more : List Nat) :
    headway.askAll backoff (numbers ++ more) =
      (headway.askAll backoff numbers).askAll backoff more :=
  List.foldl_append

theorem askAll_cons (backoff : ModuloBackoff) (headway : Headway) (number : Nat)
    (rest : List Nat) :
    headway.askAll backoff (number :: rest) = (headway.ask backoff number).askAll backoff rest :=
  rfl

theorem ask_of_earlier (backoff : ModuloBackoff) (h : number < headway.number) :
    headway.ask backoff number =
      { headway with again := headway.again + 1, sent := headway.sent ++ [number] } :=
  if_pos h

theorem ask_of_ignored (hnext : number = headway.number)
    (h : headway.copies < backoff.requiredDrops number) :
    headway.ask backoff number = { headway with copies := headway.copies + 1 } := by
  rw [ask, if_neg (by omega), if_pos h]

theorem ask_of_answered (hnext : number = headway.number)
    (h : ¬headway.copies < backoff.requiredDrops number) :
    headway.ask backoff number =
      { headway with
        number := headway.number + 1
        copies := 0
        sent := headway.sent ++ [number] } := by
  rw [ask, if_neg (by omega), if_neg h]

/-- A gate that ignores nothing leaves no request without an answer. -/
theorem sent_askAll_of_all (hall : ∀ number, backoff.requiredDrops number = 0)
    (headway : Headway) (numbers : List Nat) :
    (headway.askAll backoff numbers).sent = headway.sent ++ numbers := by
  induction numbers generalizing headway with
  | nil => exact (List.append_nil _).symm
  | cons number rest ih =>
      have hask : (headway.ask backoff number).sent = headway.sent ++ [number] := by
        unfold ask
        split
        · rfl
        · rw [if_neg (by rw [hall]; exact Nat.not_lt_zero _)]
      rw [askAll_cons, ih, hask, List.append_assoc]
      rfl

end Headway

namespace Fetch

/-- Whether requests for these blocks may come in this order: each is for the next
block, or for the one that was answered last. -/
def InTurn (fetch : Fetch) : Headway → List Nat → Prop
  | _, [] => True
  | headway, number :: rest =>
    (number = headway.number ∧ number < fetch.blocks ∨ number + 1 = headway.number) ∧
      fetch.InTurn (headway.ask fetch.backoff number) rest

/-- Requests for these blocks come from a peer, one after the other. -/
def Comes (fetch : Fetch) (peer : Peer) (arrivals : List Arrival) (numbers : List Nat) : Prop :=
  List.Forall₂ (fun arrival number =>
    arrival.datagram.messageFrom? peer.address = some (fetch.asked number)) arrivals numbers

variable {fetch : Fetch} {headway : Headway} {numbers more : List Nat}

theorem inTurn_append :
    fetch.InTurn headway (numbers ++ more) ↔
      fetch.InTurn headway numbers ∧ fetch.InTurn (headway.askAll fetch.backoff numbers) more := by
  induction numbers generalizing headway with
  | nil => exact (iff_of_eq (true_and _)).symm
  | cons number rest ih =>
      rw [List.cons_append, InTurn, InTurn, ih, and_assoc]
      rfl

/-- The blocks that were sent are those that were answered. -/
theorem mem_sent_askAll (hturn : fetch.InTurn headway numbers)
    (hsent : ∀ number, number ∈ headway.sent ↔ number < headway.number) (number : Nat) :
    number ∈ (headway.askAll fetch.backoff numbers).sent ↔
      number < (headway.askAll fetch.backoff numbers).number := by
  induction numbers generalizing headway with
  | nil => exact hsent number
  | cons next rest ih =>
      obtain ⟨hallowed, hrest⟩ := hturn
      refine ih hrest fun other => ?_
      unfold Headway.ask
      split
      · rename_i hlt
        simp only [List.mem_append, List.mem_singleton, hsent other]
        omega
      · split
        · exact hsent other
        · simp only [List.mem_append, List.mem_singleton, hsent other]
          omega

/-! ### Block by block -/

/-- The request for a block that was answered last may come as often as it likes. -/
theorem inTurn_replicate_of_answered {number : Nat} (hlast : number + 1 = headway.number)
    (count : Nat) :
    fetch.InTurn headway (List.replicate count number) ∧
      ∃ again sent, headway.askAll fetch.backoff (List.replicate count number) =
        { headway with again, sent } := by
  induction count generalizing headway with
  | zero => exact ⟨trivial, headway.again, headway.sent, rfl⟩
  | succ count ih =>
      have hask := Headway.ask_of_earlier fetch.backoff (show number < headway.number by omega)
      have hstill : number + 1 = (headway.ask fetch.backoff number).number := by rw [hask, hlast]
      obtain ⟨hturn, again, sent, hall⟩ := ih hstill
      refine ⟨⟨Or.inr hlast, hturn⟩, again, sent, ?_⟩
      rw [List.replicate_succ, Headway.askAll_cons, hall, hask]

/-- The request for the next block may come as often as it likes; if that is often
enough, it is answered. -/
theorem inTurn_replicate (hlt : headway.number < fetch.blocks) {count : Nat}
    (hle : headway.copies ≤ fetch.backoff.requiredDrops headway.number)
    (hcount : fetch.backoff.requiredDrops headway.number < headway.copies + count) :
    fetch.InTurn headway (List.replicate count headway.number) ∧
      ∃ again sent, headway.askAll fetch.backoff (List.replicate count headway.number) =
        ⟨headway.number + 1, 0, again, sent⟩ := by
  induction count generalizing headway with
  | zero => omega
  | succ count ih =>
      by_cases hdrop : headway.copies < fetch.backoff.requiredDrops headway.number
      · have hask := Headway.ask_of_ignored rfl hdrop
        obtain ⟨hturn, hall⟩ := @ih (headway.ask fetch.backoff headway.number)
          (by rwa [hask]) (by rwa [hask]) (by rw [hask]; dsimp only; omega)
        have hsame : (headway.ask fetch.backoff headway.number).number = headway.number := by
          rw [hask]
        rw [hsame] at hturn hall
        exact ⟨⟨Or.inl ⟨rfl, hlt⟩, hturn⟩, hall⟩
      · have hask := Headway.ask_of_answered rfl hdrop
        obtain ⟨hturn, again, sent, hall⟩ := @inTurn_replicate_of_answered fetch
          (headway.ask fetch.backoff headway.number) headway.number (by rw [hask]) count
        refine ⟨⟨Or.inl ⟨rfl, hlt⟩, hturn⟩, again, sent, ?_⟩
        rw [List.replicate_succ, Headway.askAll_cons, hall, hask]

/-- The blocks in order, each so many times. -/
def stream (times : Nat → Nat) (blocks : Nat) : List Nat :=
  (List.range blocks).flatMap fun number => List.replicate (times number) number

theorem stream_succ (times : Nat → Nat) (blocks : Nat) :
    stream times (blocks + 1) = stream times blocks ++ List.replicate (times blocks) blocks := by
  rw [stream, List.range_succ, List.flatMap_append, List.flatMap_singleton, stream]

/-- Block by block the requests may come, and if each comes often enough, all blocks
are answered. -/
theorem inTurn_stream {times : Nat → Nat} {blocks : Nat} (hblocks : blocks ≤ fetch.blocks)
    (htimes : ∀ number < blocks, fetch.backoff.requiredDrops number < times number) :
    fetch.InTurn .begin (stream times blocks) ∧
      ∃ again sent, Headway.begin.askAll fetch.backoff (stream times blocks) =
        ⟨blocks, 0, again, sent⟩ := by
  induction blocks with
  | zero => exact ⟨trivial, 0, [], rfl⟩
  | succ blocks ih =>
      obtain ⟨hturn, again, sent, hall⟩ :=
        ih (Nat.le_of_succ_le hblocks) fun number hlt => htimes number (Nat.lt_succ_of_lt hlt)
      have hnext := htimes blocks (Nat.lt_succ_self blocks)
      obtain ⟨hlast, hdone⟩ := @inTurn_replicate fetch ⟨blocks, 0, again, sent⟩ hblocks
        (times blocks) (Nat.zero_le _) (by rwa [Nat.zero_add])
      rw [stream_succ, inTurn_append, Headway.askAll_append, hall]
      exact ⟨⟨hturn, hlast⟩, hdone⟩

end Fetch

/-! ## The server -/

/-- What is counted for answers that are sent once more. -/
def Stats.ofRepeats (again : Nat) : Stats :=
  { Stats.zero with received := again, duplicates := again }

namespace Server

/-- The server when its connection is another one. -/
theorem eq_of_unplugged {server other : Server} (h : other.unplugged = server.unplugged) :
    other = { server with endpoint := other.endpoint, wokeAt := other.wokeAt } := by
  cases other
  cases server
  simp only [unplugged, mk.injEq] at h
  simp [h]

/-- A server that has come so far with the requests of a peer. -/
structure StandsBy (server : Server) (fetch : Fetch) (peer : Peer) (headway : Headway) : Prop where
  /-- But for the answers that were sent once more it stands where it would without
  them. -/
  plain : ∃ plain : Server,
    plain.StandsAt fetch headway.number headway.copies (fetch.last headway.number) ∧
      server = plain.having [] (.ofRepeats headway.again)
  kept : server.lastAnswer = fetch.kept headway.number
  sent_eq : server.endpoint.socket.sent = fetch.answersTo peer headway.sent
  number_le : headway.number ≤ fetch.blocks
  copies_le : headway.copies ≤ fetch.backoff.requiredDrops headway.number
  copies_eq : fetch.blocks ≤ headway.number → headway.copies = 0

variable {server other : Server} {fetch : Fetch} {peer : Peer} {headway : Headway} {number : Nat}

namespace StandsBy

theorem running (h : server.StandsBy fetch peer headway) : server.failure = none := by
  obtain ⟨plain, hplain, rfl⟩ := h.plain
  exact hplain.running

theorem stats_eq (h : server.StandsBy fetch peer headway) :
    server.stats = {
      received := headway.number + fetch.backoff.totalDrops headway.number + headway.copies +
        headway.again
      dropped := fetch.backoff.totalDrops headway.number + headway.copies
      duplicates := headway.again
      answered := headway.number
      completed := if fetch.blocks ≤ headway.number then 1 else 0 } := by
  obtain ⟨plain, hplain, rfl⟩ := h.plain
  simp only [having, against, Stats.ofRepeats, Stats.zero, hplain.stats_eq, Stats.mk.injEq,
    Nat.zero_add, Nat.add_zero, and_true]
  omega

/-- How far a server has come does not depend on its connection. -/
theorem congr (h : server.StandsBy fetch peer headway)
    (hsame : other.unplugged = server.unplugged) : other.StandsBy fetch peer headway := by
  have hother := eq_of_unplugged hsame
  obtain ⟨plain, hplain, hserver⟩ := h.plain
  constructor
  · refine ⟨{ plain with endpoint := other.endpoint, wokeAt := other.wokeAt }, { hplain with }, ?_⟩
    rw [hother, hserver]
    rfl
  · rw [hother]
    exact h.kept
  · rw [sent_eq_of_unplugged hsame]
    exact h.sent_eq
  · exact h.number_le
  · exact h.copies_le
  · exact h.copies_eq

/-! ### One request -/

/-- The request for the next block is ignored. -/
theorem serve_of_ignored (h : server.StandsBy fetch peer headway) (hverbatim : fetch.Verbatim)
    (hlt : headway.number < fetch.blocks)
    (hdrop : headway.copies < fetch.backoff.requiredDrops headway.number) :
    (server.serve (fetch.asked headway.number)).StandsBy fetch peer
      { headway with copies := headway.copies + 1 } := by
  obtain ⟨plain, hplain, hserver⟩ := h.plain
  obtain ⟨hserved, hendpoint, hkept⟩ := standsAt_ignored hplain hverbatim.toConforms hlt hdrop
  rw [hverbatim.unchanged _ _ _ hlt] at hserved hendpoint hkept
  have hserve : server.serve (fetch.asked headway.number) =
      (plain.serve (fetch.asked headway.number)).having [] (.ofRepeats headway.again) := by
    rw [hserver, serve_having]
  refine ⟨⟨_, hserved, hserve⟩, ?_, ?_, h.number_le, hdrop,
    fun hover => absurd hlt (Nat.not_lt.2 hover)⟩
  · rw [hserve, ← h.kept, hserver]
    exact hkept
  · rw [hserve, ← h.sent_eq, hserver]
    exact congrArg (·.socket.sent) hendpoint

/-- The request for the next block is answered. -/
theorem serve_of_answered (h : server.StandsBy fetch peer headway) (hverbatim : fetch.Verbatim)
    (hlt : headway.number < fetch.blocks)
    (hdone : ¬headway.copies < fetch.backoff.requiredDrops headway.number)
    (hpeer : server.endpoint.peer = some peer)
    (htoken : (fetch.asked headway.number).token.length ≤ Message.maxTokenLength) :
    (server.serve (fetch.asked headway.number)).StandsBy fetch peer
      { headway with
        number := headway.number + 1
        copies := 0
        sent := headway.sent ++ [headway.number] } := by
  obtain ⟨plain, hplain, hserver⟩ := h.plain
  have hunchanged := hverbatim.unchanged headway.number headway.copies
    (fetch.last headway.number) hlt
  have hknown : plain.endpoint.peer = some peer := by
    rw [← hpeer, hserver]
    rfl
  obtain ⟨hserved, hendpoint, hkept⟩ := standsAt_answered hplain hverbatim.toConforms hlt
    (hverbatim.asks_asked hlt).lt_numberLimit (Nat.le_antisymm h.copies_le (Nat.not_lt.1 hdone))
    hknown (by rwa [hunchanged])
  rw [hunchanged] at hserved hendpoint hkept
  have hserve : server.serve (fetch.asked headway.number) =
      (plain.serve (fetch.asked headway.number)).having [] (.ofRepeats headway.again) := by
    rw [hserver, serve_having]
  refine ⟨⟨_, hserved, hserve⟩, ?_, ?_, hlt, Nat.zero_le _, fun _ => rfl⟩
  · rw [hserve]
    exact hkept
  · rw [Fetch.answersTo_append, ← h.sent_eq, hserve, hserver]
    exact congrArg (·.socket.sent) hendpoint

/-- The request answered last gets its answer once more. -/
theorem serve_of_repeated (h : server.StandsBy fetch peer headway) (hverbatim : fetch.Verbatim)
    (hlast : number + 1 = headway.number) (hlt : number < fetch.blocks)
    (hpeer : server.endpoint.peer = some peer)
    (htoken : (fetch.asked number).token.length ≤ Message.maxTokenLength) :
    (server.serve (fetch.asked number)).StandsBy fetch peer
      { headway with again := headway.again + 1, sent := headway.sent ++ [number] } := by
  have hasks := hverbatim.asks_asked hlt
  have hkept := h.kept
  rw [← hlast, Fetch.kept] at hkept
  have hfits : server.lastAnswer.filter (·.fits (fetch.asked number)) = some _ :=
    Option.filter_eq_some_iff.2 ⟨hkept, Fetch.fits_asked hasks _⟩
  have hserve : server.serve (fetch.asked number) = server.count.repeated peer _ :=
    (serve_of_kept (Message.isRequest_of_get hasks.code) hfits).trans
      (repeatAnswer_of_sendable hpeer (Fetch.sendable_answer htoken))
  obtain ⟨plain, hplain, hserver⟩ := h.plain
  rw [hserve]
  refine ⟨⟨{ plain with
    endpoint := plain.endpoint.afterSending peer (fetch.answer number) }, { hplain with }, ?_⟩,
    h.kept, ?_, h.number_le, h.copies_le, h.copies_eq⟩
  · rw [hserver]
    simp only [repeated, Server.count, tally, having, against, Stats.ofRepeats,
      Endpoint.afterSending, Endpoint.havingSent, List.nil_append, mk.injEq, Stats.mk.injEq,
      and_true, true_and]
    omega
  · show server.endpoint.socket.sent ++ [⟨peer.address, fetch.answer number⟩] = _
    rw [h.sent_eq, Fetch.answersTo_append]
    rfl

/-- **One more request.**  Whatever may come next, the server does with it what the
headway says. -/
theorem serve (h : server.StandsBy fetch peer headway) (hverbatim : fetch.Verbatim)
    (hturn : number = headway.number ∧ number < fetch.blocks ∨ number + 1 = headway.number)
    (hpeer : server.endpoint.peer = some peer)
    (htoken : (fetch.asked number).token.length ≤ Message.maxTokenLength) :
    (server.serve (fetch.asked number)).StandsBy fetch peer
      (headway.ask fetch.backoff number) := by
  rcases hturn with ⟨hnext, hlt⟩ | hlast
  · by_cases hdrop : headway.copies < fetch.backoff.requiredDrops number
    · rw [Headway.ask_of_ignored hnext hdrop]
      subst hnext
      exact h.serve_of_ignored hverbatim hlt hdrop
    · rw [Headway.ask_of_answered hnext hdrop]
      subst hnext
      exact h.serve_of_answered hverbatim hlt hdrop hpeer htoken
  · have hle := h.number_le
    rw [Headway.ask_of_earlier _ (by omega)]
    exact h.serve_of_repeated hverbatim hlast (by omega) hpeer htoken

end StandsBy

/-! ## The serving loop -/

/-- The peer that a server has, if it has one, is this one. -/
def Expects (server : Server) (peer : Peer) : Prop :=
  server.endpoint.peer = none ∨ server.endpoint.peer = some peer

/-- The loop hears a request of the peer, whether or not an idle time-out has reset
the connection before. -/
theorem StandsBy.hear (h : server.StandsBy fetch peer headway) (hverbatim : fetch.Verbatim)
    (hturn : number = headway.number ∧ number < fetch.blocks ∨ number + 1 = headway.number)
    (hpeer : server.Expects peer) {datagram : Datagram}
    (hfrom : datagram.messageFrom? peer.address = some (fetch.asked number))
    (passed : Nat → Bool) (time : Nat) :
    let after := (server.expireIf passed).hear time datagram
    after.StandsBy fetch peer (headway.ask fetch.backoff number) ∧ after.Expects peer := by
  obtain ⟨hmessage, hsource⟩ := Datagram.message_of_messageFrom? hfrom
  have hsame : ((server.expireIf passed).hearing peer time).unplugged = server.unplugged := by
    rw [unplugged_hearing, unplugged_expireIf]
  have hstands := h.congr hsame
  have hheard := hear_of_peer time (peer_expireIf hpeer passed) hmessage hsource
  intro after
  have hafter : after = ((server.expireIf passed).hearing peer time).serve _ := hheard
  rw [hafter]
  refine ⟨hstands.serve hverbatim hturn rfl (Message.length_token_of_message hmessage), Or.inr ?_⟩
  exact peer_serve _ _ hstands.running

/-- An idle time-out does not take a server back. -/
theorem StandsBy.idle (h : server.StandsBy fetch peer headway) (passed : Nat → Bool)
    (arrivals : List Arrival) :
    ((server.expireIf passed).withArrivals arrivals).StandsBy fetch peer headway :=
  h.congr (by rw [unplugged_withArrivals, unplugged_expireIf])

/-- **The loop serves the requests as they come**, with idle time-outs in between.
What is late stays unread. -/
theorem standsBy_runThrough (hverbatim : fetch.Verbatim) (now : Nat) {arrivals : List Arrival}
    {numbers : List Nat} (hcomes : fetch.Comes peer arrivals numbers)
    (h : server.StandsBy fetch peer headway) (hpeer : server.Expects peer)
    (hturn : fetch.InTurn headway numbers) :
    let after := server.runThrough now arrivals
    let due := (Socket.dueBy (some now) arrivals).length
    after.StandsBy fetch peer (headway.askAll fetch.backoff (numbers.take due)) ∧
      after.Expects peer ∧
      after.endpoint.socket.arrivals = Socket.lateFor (some now) arrivals := by
  induction hcomes generalizing server headway with
  | nil =>
      rw [runThrough]
      exact ⟨h.idle _ [], peer_expireIf hpeer _, rfl⟩
  | @cons arrival number arrivals numbers hfirst hrest ih =>
      obtain ⟨hallowed, hturn⟩ := hturn
      rw [runThrough, if_neg (by rw [isStopped_eq_false.2 h.running]; exact Bool.false_ne_true)]
      by_cases hdue : arrival.time ≤ now
      · obtain ⟨hheard, hknown⟩ := h.hear hverbatim hallowed hpeer hfirst
          (· < arrival.time) arrival.time
        have hdueBy : Socket.dueBy (some now) (arrival :: arrivals) =
            arrival :: Socket.dueBy (some now) arrivals := by
          simp [Socket.dueBy, hdue]
        have hlate : Socket.lateFor (some now) (arrival :: arrivals) =
            Socket.lateFor (some now) arrivals := by
          simp [Socket.lateFor, hdue]
        rw [if_pos hdue, hdueBy, hlate]
        exact ih hheard hknown hturn
      · have hdueBy : Socket.dueBy (some now) (arrival :: arrivals) = [] := by
          simp [Socket.dueBy, hdue]
        have hlate : Socket.lateFor (some now) (arrival :: arrivals) = arrival :: arrivals := by
          simp [Socket.lateFor, hdue]
        rw [if_neg hdue, hdueBy, hlate]
        exact ⟨h.idle _ _, peer_expireIf hpeer _, rfl⟩

/-- A server in the loop that has heard the first of the requests that come, so many
of them. -/
structure HasHeard (server : Server) (fetch : Fetch) (peer : Peer) (arrivals : List Arrival)
    (numbers : List Nat) (heard : Nat) : Prop where
  stands : server.StandsBy fetch peer (Headway.begin.askAll fetch.backoff (numbers.take heard))
  expects : server.Expects peer
  unread : server.endpoint.socket.arrivals = arrivals.drop heard

/-- A server that has just started has heard nothing. -/
theorem hasHeard_fresh {endpoint : Endpoint} (hsent : endpoint.socket.sent = [])
    (hpeer : endpoint.peer = none) (settings : Settings) {store : Store}
    (hstored : store.get fetch.path = .ok fetch.payload) (peer : Peer) (numbers : List Nat) :
    { fresh endpoint fetch.backoff.gate settings fetch.offered with store }.HasHeard fetch peer
      endpoint.socket.arrivals numbers 0 where
  stands := {
    plain := ⟨_, standsAt_fresh endpoint settings hstored, rfl⟩
    kept := rfl
    sent_eq := hsent
    number_le := Nat.zero_le _
    copies_le := Nat.zero_le _
    copies_eq := fun _ => rfl }
  expects := Or.inl hpeer
  unread := rfl

/-- **The loop hears what is due.** -/
theorem HasHeard.run {arrivals : List Arrival} {numbers : List Nat} {heard : Nat}
    (h : server.HasHeard fetch peer arrivals numbers heard) (hverbatim : fetch.Verbatim)
    (hcomes : fetch.Comes peer arrivals numbers) (hturn : fetch.InTurn .begin numbers) (now : Nat)
    (hle : heard ≤ (Socket.dueBy (some now) arrivals).length) :
    (server.run now).HasHeard fetch peer arrivals numbers
      (Socket.dueBy (some now) arrivals).length := by
  rw [← List.take_append_drop heard numbers, Fetch.inTurn_append] at hturn
  obtain ⟨hstands, hexpects, hunread⟩ := standsBy_runThrough hverbatim now
    (List.forall₂_drop heard hcomes) h.stands h.expects hturn.2
  -- What is due is what was heard and what of the rest is due.
  have hcount : (Socket.dueBy (some now) arrivals).length =
      heard + (Socket.dueBy (some now) (arrivals.drop heard)).length := by
    have hdue : (Socket.dueBy (some now) arrivals).length ≤ arrivals.length :=
      (List.takeWhile_prefix _).length_le
    rw [Socket.dueBy_split hle, List.length_append, List.length_take]
    omega
  have hrun : server.run now = server.runThrough now (arrivals.drop heard) := by
    rw [Server.run, h.unread]
  rw [hrun, hcount]
  refine ⟨?_, hexpects, ?_⟩
  · rw [List.take_add, Headway.askAll_append]
    exact hstands
  · rw [hunread, Socket.lateFor_eq_drop, List.drop_drop]

/-- A fresh server to which all requests have come in the end. -/
theorem HasHeard.run_of_due {arrivals : List Arrival} {numbers : List Nat}
    (h : server.HasHeard fetch peer arrivals numbers 0) (hverbatim : fetch.Verbatim)
    (hcomes : fetch.Comes peer arrivals numbers) (hturn : fetch.InTurn .begin numbers) {now : Nat}
    (hdue : ∀ arrival ∈ arrivals, arrival.time ≤ now) :
    (server.run now).StandsBy fetch peer (Headway.begin.askAll fetch.backoff numbers) := by
  have hall : Socket.dueBy (some now) arrivals = arrivals :=
    List.takeWhile_eq_self_iff.2 fun arrival hmem => decide_eq_true (hdue arrival hmem)
  have hstands := (h.run hverbatim hcomes hturn now (Nat.zero_le _)).stands
  rwa [hall, hcomes.length_eq, List.take_length] at hstands

end Server
end Blockwise
