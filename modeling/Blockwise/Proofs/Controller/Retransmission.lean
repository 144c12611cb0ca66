import Blockwise.Proofs.Controller.Answering
import Blockwise.Proofs.Server.Repetition

/-!
# Repeated requests, answered by hand

A controller that answers by hand takes every request that comes for one for the
next block.  A file server knows a request that it has answered when it comes again.
Here both are given the same requests of one client, which repeats each of them
as often as it likes.

* `Endpoint.Offers` — what an endpoint has got from its peer and gets in time.
* `Controller.exists_transfer_of_offers` — requests for one block after the other
  are answered by hand.
* `Fetch.handle_repeated` — the request for the block that went out last is refused.
* `Controller.answers_of_repetition` — the file server answers all that comes; by
  hand no more is answered than comes up to the first repeated request.
-/

namespace Blockwise

/-! ## What is offered to an endpoint -/

/-- Arrivals that keep nobody waiting: each comes within a limit from the one before
it. -/
def Socket.Punctual (limit : Nat) : Nat → List Arrival → Prop
  | _, [] => True
  | now, arrival :: rest =>
    arrival.time ≤ now + limit ∧ Punctual limit (max now arrival.time) rest

/-- Nobody has to wait for what is there already. -/
theorem Socket.punctual_of_waiting {limit now : Nat} {arrivals : List Arrival}
    (h : ∀ arrival ∈ arrivals, arrival.time ≤ now) : Punctual limit now arrivals := by
  induction arrivals with
  | nil => trivial
  | cons arrival rest ih =>
      obtain ⟨hfirst, hrest⟩ := List.forall_mem_cons.1 h
      refine ⟨Nat.le_add_right_of_le hfirst, ?_⟩
      rw [Nat.max_eq_left hfirst]
      exact ih hrest

namespace Endpoint

/-- The requests for these blocks are what an endpoint gets from its peer: some are
queued already, and the others come in time. -/
structure Offers (endpoint : Endpoint) (fetch : Fetch) (peer : Peer) (now limit : Nat)
    (numbers : List Nat) : Prop where
  orderly : endpoint.Orderly
  peer_eq : endpoint.peer = some peer
  comes : ∃ queued coming, numbers = queued ++ coming ∧
    endpoint.pending = queued.map fetch.asked ∧ fetch.Comes peer endpoint.socket.arrivals coming
  punctual : Socket.Punctual limit now endpoint.socket.arrivals

variable {endpoint : Endpoint} {fetch : Fetch} {peer : Peer} {now limit number : Nat}
  {rest : List Nat}

/-- A request that is received is the request that was waited for. -/
theorem receiveRequest_of_received {request : Message}
    (hreceived : (endpoint.receive now (some limit)).result = .ok request)
    (hrequest : request.isRequest = true) :
    endpoint.receiveRequest now limit = endpoint.receive now (some limit) := by
  rw [receiveRequest]
  split
  · rfl
  · rename_i message hok
    cases hok.symm.trans hreceived
    exact if_pos hrequest

/-- The first of the requests is received, and the others are still offered. -/
theorem Offers.receive (h : endpoint.Offers fetch peer now limit (number :: rest)) :
    let received := endpoint.receive now (some limit)
    received.result = .ok (fetch.asked number) ∧
      received.endpoint.Offers fetch peer received.time limit rest := by
  obtain ⟨queued, coming, hnumbers, hpending, hcomes⟩ := h.comes
  cases queued with
  | cons first queued =>
      obtain ⟨rfl, rfl⟩ := List.cons.inj hnumbers
      rw [List.map_cons] at hpending
      rw [receive_of_pending hpending]
      refine ⟨rfl, ⟨h.orderly.of_suffix ?_ rfl, h.peer_eq, ⟨queued, coming, rfl, rfl, hcomes⟩,
        h.punctual⟩⟩
      rw [hpending]
      exact List.suffix_cons _ _
  | nil =>
      rw [List.nil_append] at hnumbers
      subst hnumbers
      cases harrivals : endpoint.socket.arrivals with
      | nil =>
          rw [harrivals] at hcomes
          cases hcomes
      | cons arrival arrivals =>
          have hpunctual := h.punctual
          rw [harrivals] at hcomes hpunctual
          obtain ⟨hfrom, hlater⟩ := List.forall₂_cons.1 hcomes
          have hjudge : judgePeer peer arrival.datagram = .take (fetch.asked number) :=
            Socket.Verdict.eq_take_of_taken? ((taken?_judgePeer peer _).trans hfrom)
          have hread : Socket.read (judgePeer peer) (some (now + limit)) now
              endpoint.socket.arrivals =
              ⟨some (fetch.asked number), [], max now arrival.time, arrivals⟩ := by
            rw [harrivals, Socket.read, if_pos (by simpa using hpunctual.1), hjudge]
          have hreceived : endpoint.receive now (some limit) =
              ⟨.ok (fetch.asked number), endpoint.withArrivals arrivals, max now arrival.time⟩ := by
            simp [Endpoint.receive, hpending, h.peer_eq, hread, withArrivals]
          rw [hreceived]
          exact ⟨rfl, ⟨h.orderly.connected, h.orderly.read⟩, h.peer_eq,
            ⟨[], rest, rfl, hpending, hlater⟩, hpunctual.2⟩

end Endpoint

/-! ## The transfer -/

namespace Fetch

variable {fetch : Fetch} {number : Nat}

/-- The transfer when so many blocks went out. -/
def transferAfter (fetch : Fetch) : Nat → Transfer
  | 0 => fetch.transferAt 0
  | before + 1 => (fetch.transferAt before).afterBlock fetch.size before

theorem transferAfter_eq (hlt : number < fetch.blocks) :
    fetch.transferAfter number = fetch.transferAt number := by
  cases number with
  | zero => rfl
  | succ before => exact afterBlock_eq hlt

theorem isComplete_transferAfter (fetch : Fetch) :
    (fetch.transferAfter fetch.blocks).isComplete = true := by
  obtain ⟨before, hbefore⟩ := Nat.exists_eq_succ_of_ne_zero (Nat.ne_of_gt fetch.blocks_pos)
  rw [hbefore, transferAfter, isComplete_afterBlock, hbefore]
  exact decide_eq_true (Nat.le_refl _)

/-- Why the request for a block is refused when it comes again behind its answer. -/
def refusal (fetch : Fetch) (number : Nat) : Mismatch :=
  if number = 0 ∧ fetch.wish = none then .blockMissing 1 else .otherBlock (number + 1) number

/-- **A repeated request is refused** where the request for the next block is
awaited. -/
theorem handle_repeated (hasks : fetch.Asks number (fetch.asked number))
    (hmore : number + 1 < fetch.blocks) :
    (fetch.transferAfter (number + 1)).handle (fetch.asked number) =
      .error (fetch.refusal number) := by
  obtain ⟨requested, hblock, hnames⟩ := hasks.block
  have hgrant : (fetch.transferAt (number + 1)).grant (number + 1) requested =
      .error (fetch.refusal number) := by
    cases hnames with
    | nothing hwish => simp [Transfer.grant, refusal, hwish]
    | first block hnumber hwish => simp [Transfer.grant, refusal, hnumber, hwish]
    | later before block hnumber => simp [Transfer.grant, refusal, hnumber]
  rw [transferAfter_eq hmore]
  exact Transfer.handle_of_grant_error (by simp [transferAt]) hasks.code hasks.path hblock hgrant

/-! ### Streams with repeated requests -/

theorem stream_of_once {times : Nat → Nat} (honce : ∀ earlier < number, times earlier = 1) :
    stream times number = List.range number := by
  induction number with
  | zero => rfl
  | succ before ih =>
      rw [stream_succ, ih fun earlier hlt => honce earlier (Nat.lt_succ_of_lt hlt),
        honce before (Nat.lt_succ_self before), List.range_succ]
      rfl

theorem stream_prefix (times : Nat → Nat) {blocks : Nat} (hle : number ≤ blocks) :
    stream times number <+: stream times blocks := by
  induction hle with
  | refl => exact List.prefix_rfl
  | step _ ih =>
      rw [stream_succ]
      exact ih.trans (List.prefix_append _ _)

/-- A stream up to a block before which none is asked for more than once. -/
theorem stream_split {copies : Nat → Nat} {blocks : Nat} (hlt : number < blocks)
    (honce : ∀ earlier < number, copies earlier = 0) :
    ∃ rest, stream (copies · + 1) blocks =
      List.range' 0 (number + 1) ++ (List.replicate (copies number) number ++ rest) := by
  obtain ⟨rest, hrest⟩ := stream_prefix (copies · + 1) (Nat.succ_le_of_lt hlt)
  refine ⟨rest, ?_⟩
  rw [← hrest, stream_succ, stream_of_once fun earlier h => by rw [honce earlier h],
    List.replicate_succ, ← List.range_eq_range', List.range_succ]
  simp only [List.append_assoc, List.cons_append, List.nil_append]

end Fetch

/-! ## By hand -/

namespace Controller

variable {σ : Type} {controller : Controller σ} {download : Download} {fetch : Fetch} {peer : Peer}
  {number : Nat} {rest : List Nat}

/-- What an endpoint offers to a controller. -/
def Offers (controller : Controller σ) (fetch : Fetch) (peer : Peer) (numbers : List Nat) : Prop :=
  controller.line.endpoint.Offers fetch peer controller.line.now
    controller.settings.receiveTimeout numbers

/-- The first of the requests that are offered is the next one. -/
theorem Offers.requested (h : controller.Offers fetch peer (number :: rest))
    (hasks : fetch.Asks number (fetch.asked number)) :
    controller.requested.result = .ok (fetch.asked number) ∧
      (controller.waited controller.requested).Offers fetch peer rest := by
  obtain ⟨hreceived, hrest⟩ := Endpoint.Offers.receive h
  have hrequested : controller.requested = controller.line.endpoint.receive controller.line.now _ :=
    Endpoint.receiveRequest_of_received hreceived (Message.isRequest_of_get hasks.code)
  rw [← hrequested] at hreceived hrest
  exact ⟨hreceived, hrest⟩

/-- The answer to a confirmable request goes out as the transfer makes it. -/
theorem answerTo_answer (controller : Controller σ)
    (hasks : fetch.Asks number (fetch.asked number)) :
    controller.answerTo (fetch.asked number) (fetch.answer number) = fetch.answer number := by
  simp [answerTo, Message.fittedTo, Fetch.answer, Fetch.answerTo, Transfer.respond,
    Message.responseTo, Message.withBlock, Message.bare, Message.isConfirmable, hasks.confirmable]

/-- One request for the next block is answered. -/
theorem exists_turn_of_offers (hverbatim : fetch.Verbatim) (hlt : number < fetch.blocks)
    (htransfer : download.transfer = fetch.transferAfter number) {limit : Nat}
    (hwants : Wants download limit) (hoffers : controller.Offers fetch peer (number :: rest)) :
    ∃ after : Controller σ, controller.transfer download limit =
        after.transfer { download with transfer := fetch.transferAfter (number + 1) } limit ∧
      after.Offers fetch peer rest ∧
      after.sent = controller.sent ++ fetch.answersTo peer [number] := by
  have hasks := hverbatim.asks_asked hlt
  obtain ⟨hrequested, hrest⟩ := hoffers.requested hasks
  have hhandle : download.transfer.handle (fetch.asked number) =
      .ok (fetch.answer number, fetch.transferAfter (number + 1)) := by
    rw [htransfer, Fetch.transferAfter_eq hlt, Fetch.handle_transferAt hasks hasks.lt_numberLimit]
    rfl
  refine ⟨_, transfer_of_request hwants hoffers.orderly hoffers.peer_eq hrequested hhandle, ?_, ?_⟩
  · exact ⟨⟨hrest.orderly.connected, hrest.orderly.read⟩, hrest.peer_eq, hrest.comes,
      hrest.punctual⟩
  · obtain ⟨-, hsent, -⟩ := controller.line.endpoint.receiveRequest_keeps controller.line.now
      controller.settings.receiveTimeout
    have hanswer := answerTo_answer controller hasks
    show controller.requested.endpoint.socket.sent ++
      [⟨peer.address, controller.answerTo (fetch.asked number) (fetch.answer number)⟩] = _
    rw [hanswer]
    exact congrArg (· ++ _) hsent

/-- As long as there is a block to answer, a controller that is to answer them all
goes on. -/
theorem wants_of_lt (hblocks : 1 < fetch.blocks) (hlt : number < fetch.blocks)
    (htransfer : download.transfer = fetch.transferAfter number) :
    Wants download fetch.payload.length := by
  rw [Wants, htransfer, Fetch.transferAfter_eq hlt]
  refine ⟨?_, rfl⟩
  show number * (fetch.transferAt number).size.bytes < fetch.payload.length
  cases number with
  | zero =>
      have hlong := (BlockSize.lt_count_iff Nat.one_pos).1 hblocks
      omega
  | succ before =>
      exact (BlockSize.lt_count_iff (Nat.succ_pos before)).1 hlt

/-- **Requests for one block after the other** are answered by hand. -/
theorem exists_transfer_of_offers (hverbatim : fetch.Verbatim) (hblocks : 1 < fetch.blocks)
    (count : Nat) {controller : Controller σ} {number : Nat}
    (hle : number + count ≤ fetch.blocks) {download : Download}
    (htransfer : download.transfer = fetch.transferAfter number)
    (hoffers : controller.Offers fetch peer (List.range' number count ++ rest)) :
    ∃ after : Controller σ, controller.transfer download fetch.payload.length =
        after.transfer { download with transfer := fetch.transferAfter (number + count) }
          fetch.payload.length ∧
      after.Offers fetch peer rest ∧
      after.sent = controller.sent ++ fetch.answersTo peer (List.range' number count) := by
  induction count generalizing controller number download with
  | zero =>
      refine ⟨controller, ?_, hoffers, (List.append_nil _).symm⟩
      rw [Nat.add_zero, ← htransfer]
  | succ count ih =>
      have hlt : number < fetch.blocks := by omega
      rw [List.range'_succ, List.cons_append] at hoffers
      obtain ⟨next, hturn, hnext, hsent⟩ := exists_turn_of_offers hverbatim hlt htransfer
        (wants_of_lt hblocks hlt htransfer) hoffers
      obtain ⟨after, hrest, hafter, hmore⟩ := @ih next (number + 1) (by omega)
        { download with transfer := fetch.transferAfter (number + 1) } rfl hnext
      refine ⟨after, ?_, hafter, ?_⟩
      · rw [hturn, hrest, Nat.add_right_comm, Nat.add_assoc]
      · rw [hmore, hsent, List.append_assoc, ← Fetch.answersTo_append]
        rfl

/-- **By hand, a client that repeats no request but the last** gets every block. -/
theorem transfer_of_once (hverbatim : fetch.Verbatim) (hblocks : 1 < fetch.blocks)
    {copies : Nat → Nat} (honce : ∀ number, number + 1 < fetch.blocks → copies number = 0)
    (hbegin : download.transfer = fetch.transferAfter 0)
    (hoffers : controller.Offers fetch peer (Fetch.stream (copies · + 1) fetch.blocks)) :
    let byHand := controller.transfer download fetch.payload.length
    byHand.1 = .ok () ∧
      byHand.2.2.sent = controller.sent ++ fetch.answersTo peer (List.range fetch.blocks) := by
  obtain ⟨before, hbefore⟩ := Nat.exists_eq_succ_of_ne_zero (Nat.ne_of_gt fetch.blocks_pos)
  obtain ⟨rest, hstream⟩ := @Fetch.stream_split before copies fetch.blocks (by omega)
    fun earlier hearlier => honce earlier (by omega)
  rw [hstream, ← Nat.succ_eq_add_one, ← hbefore] at hoffers
  obtain ⟨after, hsame, -, hsent⟩ := exists_transfer_of_offers hverbatim hblocks fetch.blocks
    (by omega) hbegin hoffers
  rw [Nat.zero_add] at hsame
  have hdone : ¬Wants { download with transfer := fetch.transferAfter fetch.blocks }
      fetch.payload.length := by
    rw [Wants, fetch.isComplete_transferAfter]
    exact fun h => Bool.false_ne_true h.2
  intro byHand
  have hbyHand : byHand = _ := hsame.trans (transfer_of_done hdone)
  rw [hbyHand, List.range_eq_range']
  exact ⟨rfl, hsent⟩

/-- **By hand, a client that repeats a request** is refused when it does so. -/
theorem transfer_of_repeated (hverbatim : fetch.Verbatim) (hmore : number + 1 < fetch.blocks)
    {copies : Nat → Nat} (hrepeated : copies number ≠ 0)
    (honce : ∀ earlier < number, copies earlier = 0)
    (hbegin : download.transfer = fetch.transferAfter 0)
    (hoffers : controller.Offers fetch peer (Fetch.stream (copies · + 1) fetch.blocks)) :
    let byHand := controller.transfer download fetch.payload.length
    byHand.1 = .error (.mismatch (fetch.refusal number)) ∧
      byHand.2.2.sent = controller.sent ++ fetch.answersTo peer (List.range (number + 1)) := by
  have hasks := hverbatim.asks_asked (Nat.lt_of_succ_lt hmore)
  have hblocks : 1 < fetch.blocks := by omega
  obtain ⟨rest, hstream⟩ := Fetch.stream_split (Nat.lt_of_succ_lt hmore) honce
  obtain ⟨count, hcount⟩ := Nat.exists_eq_succ_of_ne_zero hrepeated
  rw [hstream, hcount, List.replicate_succ, List.cons_append] at hoffers
  obtain ⟨after, hsame, hagain, hsent⟩ := exists_transfer_of_offers hverbatim hblocks (number + 1)
    (by omega) hbegin hoffers
  rw [Nat.zero_add] at hsame
  -- The next request is the one that was answered last.
  obtain ⟨hrequested, -⟩ := hagain.requested hasks
  obtain ⟨-, hquiet, -⟩ := after.line.endpoint.receiveRequest_keeps after.line.now
    after.settings.receiveTimeout
  intro byHand
  have hbyHand : byHand = _ := hsame.trans
    (transfer_of_refusal (wants_of_lt hblocks hmore rfl) hrequested
      (Fetch.handle_repeated hasks hmore))
  rw [hbyHand, List.range_eq_range']
  exact ⟨rfl, Eq.trans hquiet hsent⟩

/-! ## Main result -/

/-- **A repeated request is answered by the file server and refused by hand.**  A
client asks for one block after the other, and each of its requests comes so many
times more before it goes on.  A file server that ignores nothing answers all that
comes, each request with its block.  By hand each block is answered once, with the
same answer, if no request but the last one is repeated; otherwise the transfer fails
at the first copy of a request, having answered no more than came before it. -/
theorem answers_of_repetition (fetch : Fetch) (hverbatim : fetch.Verbatim)
    (hgate : fetch.backoff = ⟨1⟩) (hblocks : 1 < fetch.blocks) (copies : Nat → Nat) (peer : Peer)
    {address : SocketAddress} {security : Security} {firstId : UInt16} {arrivals : List Arrival}
    {settings : Settings} {server : Server} {store : Store}
    (hstart : Server.start ((Endpoint.bind address security firstId).withArrivals arrivals)
      Gate.answerAll settings = .ok server)
    (hoffered : settings.blockSize = fetch.offered.bytes)
    (hstored : store.get fetch.path = .ok fetch.payload)
    (hcomes : fetch.Comes peer arrivals (Fetch.stream (copies · + 1) fetch.blocks)) {now : Nat}
    (hdue : ∀ arrival ∈ arrivals, arrival.time ≤ now)
    {controller : Controller σ} {download : Download}
    (hbegin : download.transfer =
      Transfer.begin (Path.normalize fetch.path) fetch.payload fetch.offered)
    (hoffers : controller.Offers fetch peer (Fetch.stream (copies · + 1) fetch.blocks)) :
    let after := { server with store }.run now
    let byHand := controller.transfer download fetch.payload.length
    (∀ number < fetch.blocks,
        (fetch.answer number).CarriesBlock fetch.payload fetch.size number) ∧
      (after.failure = none ∧ after.stats.answered = fetch.blocks ∧
        after.endpoint.socket.sent =
          fetch.answersTo peer (Fetch.stream (copies · + 1) fetch.blocks)) ∧
      ((∀ number, number + 1 < fetch.blocks → copies number = 0) →
        byHand.1 = .ok () ∧
          byHand.2.2.sent = controller.sent ++ fetch.answersTo peer (List.range fetch.blocks)) ∧
      ∀ number, number + 1 < fetch.blocks → copies number ≠ 0 →
        (∀ earlier < number, copies earlier = 0) →
        byHand.1 = .error (.mismatch (fetch.refusal number)) ∧
          byHand.2.2.sent = controller.sent ++ fetch.answersTo peer (List.range (number + 1)) := by
  have hrequired (number : Nat) : fetch.backoff.requiredDrops number = 0 := by
    rw [hgate]
    exact Nat.mod_one number
  obtain ⟨hturn, again, sent, hall⟩ := @Fetch.inTurn_stream fetch (copies · + 1) fetch.blocks
    (Nat.le_refl _) fun number _ => by rw [hrequired]; exact Nat.succ_pos _
  have hanswers : fetch.backoff.gate = Gate.answerAll := by rw [hgate, ModuloBackoff.gate_one]
  rw [Server.start_eq_ok _ hoffered, Except.ok.injEq, ← hanswers] at hstart
  subst hstart
  have hfresh := @Server.hasHeard_fresh fetch
    ((Endpoint.bind address security firstId).withArrivals arrivals) rfl rfl settings store hstored
    peer (Fetch.stream (copies · + 1) fetch.blocks)
  have hstands := hfresh.run_of_due hverbatim hcomes hturn hdue
  refine ⟨fun number hlt => hverbatim.carriesBlock_answer hlt, ⟨hstands.running, ?_, ?_⟩,
    fun honce => transfer_of_once hverbatim hblocks honce hbegin hoffers,
    fun number hmore hrepeated honce =>
      transfer_of_repeated hverbatim hmore hrepeated honce hbegin hoffers⟩
  · rw [hstands.stats_eq, hall]
  · rw [hstands.sent_eq, Headway.sent_askAll_of_all hrequired]
    rfl

end Controller

/-! ## A client of two blocks -/

namespace Fetch

/-- Two blocks of 16 bytes, and a client that asks for them. -/
def pair : Fetch where
  path := "a"
  payload := List.replicate 32 7
  offered := BlockSize.smallest
  backoff := ⟨1⟩
  wish := none
  request number _ _ := {
    kind := .confirmable
    code := .get
    id := UInt16.ofNat (7 + number)
    token := [UInt8.ofNat (1 + number)]
    options :=
      if number = 0 then Options.empty.add OptionField.uriPath [97]
      else (Options.empty.add OptionField.uriPath [97]).add OptionField.block2
        [UInt8.ofNat (16 * number)]
    payload := [] }

theorem verbatim_pair : pair.Verbatim where
  asks := by
    intro number copy last hlt
    obtain rfl | rfl : number = 0 ∨ number = 1 := by
      have hblocks : pair.blocks = 2 := by decide
      omega
    · exact ⟨rfl, rfl, rfl, none, rfl, .nothing rfl⟩
    · exact ⟨rfl, rfl, rfl, _, rfl, .later 0 _ rfl rfl rfl⟩
  identical := fun _ _ _ _ => rfl
  fresh := by
    intro number copy last again hlt htag
    obtain rfl : number = 0 := by
      have hblocks : pair.blocks = 2 := by decide
      omega
    have hid : UInt16.ofNat (7 + 1) = UInt16.ofNat 7 := congrArg Prod.fst htag
    exact absurd hid (by decide)
  unchanged := fun _ _ _ _ => rfl

/-- The client's end of the connection. -/
def pairPeer : Peer := ⟨.v4 127 0 0 1, 40001⟩

/-- The request for a block as it comes from the client. -/
def pairArrival (number : Nat) : Arrival where
  time := 0
  datagram := ⟨pairPeer.address,
    if number = 0 then [0x41, 0x01, 0x00, 0x07, 0x01, 0xB1, 0x61]
    else [0x41, 0x01, 0x00, 0x08, 0x02, 0xB1, 0x61, 0xC1, 0x10]⟩

theorem comes_pair {numbers : List Nat} (h : ∀ number ∈ numbers, number < 2) :
    pair.Comes pairPeer (numbers.map pairArrival) numbers := by
  rw [Comes, List.forall₂_map_left_iff, List.forall₂_same]
  intro number hmem
  obtain rfl | rfl : number = 0 ∨ number = 1 := by
    have hlt := h number hmem
    omega
  · decide +kernel
  · decide +kernel

end Fetch

namespace Controller

/-- A controller whose client has sent its first request, and others behind it. -/
def ofPair (numbers : List Nat) : Controller Unit :=
  let endpoint := Endpoint.bind (.v4 127 0 0 1 5683) .none 0
  start { endpoint.withArrivals (numbers.map Fetch.pairArrival) with
    peer := some Fetch.pairPeer
    pending := [Fetch.pair.asked 0] } () 0 Settings.standard

theorem offers_ofPair {numbers : List Nat} (h : ∀ number ∈ numbers, number < 2) :
    (ofPair numbers).Offers Fetch.pair Fetch.pairPeer (0 :: numbers) where
  orderly := by
    refine ⟨fun _ => rfl, fun message hmem => ⟨(Fetch.pairArrival 0).datagram, ?_⟩⟩
    rw [List.mem_singleton.1 hmem]
    decide +kernel
  peer_eq := rfl
  comes := ⟨[0], numbers, rfl, rfl, Fetch.comes_pair h⟩
  punctual := by
    refine Socket.punctual_of_waiting fun arrival hmem => ?_
    obtain ⟨number, -, rfl⟩ := List.mem_map.1 hmem
    exact Nat.le_refl 0

/-- The download that the client wants. -/
def pairDownload : Download where
  destination := "file"
  transfer := Transfer.begin (Path.normalize "a") Fetch.pair.payload Fetch.pair.offered

/-- A file server to which requests come, with the resource in its store. -/
def serverOfPair (numbers : List Nat) : Server :=
  { Server.fresh
      ((Endpoint.bind (.v4 127 0 0 1 5683) .none 0).withArrivals (numbers.map Fetch.pairArrival))
      Gate.answerAll { Settings.standard with blockSize := 16 } BlockSize.smallest with
    store := (Store.empty (.v4 127 0 0 1 5683) "coap").set "a" Fetch.pair.payload }

/-- A client that repeats the request for its last block is served either way. -/
theorem answers_of_repetition_last :
    let after := (serverOfPair [0, 1, 1]).run 0
    let byHand := (ofPair [1, 1]).transfer pairDownload Fetch.pair.payload.length
    after.failure = none ∧
      after.endpoint.socket.sent = Fetch.pair.answersTo Fetch.pairPeer [0, 1, 1] ∧
      byHand.1 = .ok () ∧ byHand.2.2.sent = Fetch.pair.answersTo Fetch.pairPeer [0, 1] := by
  have hstream : Fetch.stream (fun number => number + 1) Fetch.pair.blocks = [0, 1, 1] := by decide
  have hstart : Server.start
      ((Endpoint.bind (.v4 127 0 0 1 5683) .none 0).withArrivals ([0, 1, 1].map Fetch.pairArrival))
      Gate.answerAll { Settings.standard with blockSize := 16 } = .ok _ :=
    Server.start_eq_ok Gate.answerAll (show 16 = BlockSize.smallest.bytes from rfl)
  have hstored : ((Store.empty (.v4 127 0 0 1 5683) "coap").set "a" Fetch.pair.payload).get
      Fetch.pair.path = .ok Fetch.pair.payload := rfl
  have hcomes : Fetch.pair.Comes Fetch.pairPeer ([0, 1, 1].map Fetch.pairArrival)
      (Fetch.stream (fun number => number + 1) Fetch.pair.blocks) :=
    hstream ▸ Fetch.comes_pair (by decide)
  have hoffers : (ofPair [1, 1]).Offers Fetch.pair Fetch.pairPeer
      (Fetch.stream (fun number => number + 1) Fetch.pair.blocks) :=
    hstream ▸ offers_ofPair (by decide)
  have hdue : ∀ arrival ∈ [0, 1, 1].map Fetch.pairArrival, arrival.time ≤ 0 := by decide
  have hbegin : pairDownload.transfer =
      Transfer.begin (Path.normalize Fetch.pair.path) Fetch.pair.payload Fetch.pair.offered := rfl
  obtain ⟨-, ⟨hrunning, -, hsent⟩, honce, -⟩ := answers_of_repetition Fetch.pair
    Fetch.verbatim_pair rfl (by decide) (fun number => number) Fetch.pairPeer hstart rfl hstored
    hcomes hdue hbegin hoffers
  rw [hstream] at hsent
  obtain ⟨hok, hanswers⟩ := honce fun number hlt => by
    have hblocks : Fetch.pair.blocks = 2 := by decide
    omega
  exact ⟨hrunning, hsent, hok, hanswers⟩

/-- **A client whose retransmission timer fired early** sends its first request twice.
The file server answers both copies and then block 1; the transfer by hand takes the
second copy for a request that names no block. -/
theorem early_retransmission_refused :
    let numbers := [0, 0, 1]
    let after := (serverOfPair numbers).run 0
    let byHand := (ofPair [0, 1]).transfer pairDownload Fetch.pair.payload.length
    Fetch.pair.Verbatim ∧
      numbers = Fetch.stream (fun number => if number = 0 then 2 else 1) Fetch.pair.blocks ∧
      Fetch.pair.Comes Fetch.pairPeer (numbers.map Fetch.pairArrival) numbers ∧
      (ofPair [0, 1]).Offers Fetch.pair Fetch.pairPeer numbers ∧
      after.failure = none ∧
      after.endpoint.socket.sent = Fetch.pair.answersTo Fetch.pairPeer numbers ∧
      byHand.1 = .error (.mismatch (.blockMissing 1)) ∧
      byHand.2.2.sent = Fetch.pair.answersTo Fetch.pairPeer [0] := by
  intro numbers after byHand
  refine ⟨Fetch.verbatim_pair, by decide, Fetch.comes_pair (by decide),
    offers_ofPair (by decide), ?_, ?_, ?_, ?_⟩
  all_goals decide +kernel

end Controller
end Blockwise
