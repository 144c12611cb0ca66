import Blockwise.Proofs.Server.Fetch
import Blockwise.Proofs.Transfer.Run

/-!
# A whole download under backoff

A client and the server take turns: in each turn the client sends a copy of its
request for the next block, and the server does with it what it does.

* `Carrier` — how the copies come to the server.
* `Exchange.run` — so many turns of a download.
* `Exchange.standsAt_run` — where an exchange stands after them.
* `Exchange.delivered_run` — it ends with the whole payload at the client and
  with exactly the drops that the gate requires.
-/

namespace Blockwise

/-- How the requests of a client come to the server. -/
inductive Carrier where
  /-- Each is handed over as a message of the peer. -/
  | direct (peer : Peer)
  /-- Each is a datagram from the peer's address.  In turn `turn` it comes, and
  the loop runs, at the time `clock turn`. -/
  | datagrams (peer : Peer) (clock : Nat → Nat)

namespace Carrier

/-- Where the requests come from. -/
def peer : Carrier → Peer
  | .direct peer => peer
  | .datagrams peer _ => peer

/-- Whether a request can be sent this way. -/
def Takes : Carrier → Message → Prop
  | .direct _, request => request.token.length ≤ Message.maxTokenLength
  | .datagrams .., request =>
    ∃ bytes, request.encode = .ok bytes ∧ bytes.length ≤ Datagram.readLimit

/-- The server after a request came to it. -/
def carry (carrier : Carrier) (turn : Nat) (server : Server) (request : Message) : Server :=
  match carrier with
  | .direct peer => (server.hearing peer server.wokeAt).serve request
  | .datagrams peer clock =>
    match request.encode with
    | .ok bytes => (server.deliver (clock turn) ⟨peer.address, bytes⟩).run (clock turn)
    | .error _ => server

/-- The first message that went out to the client between two looks at the
server. -/
def answer? (carrier : Carrier) (before after : Server) : Option Message :=
  ((after.endpoint.socket.sent.drop before.endpoint.socket.sent.length).find?
    (·.destination = carrier.peer.address)).map (·.message)

/-- Whether the server will hear the client's next request. -/
def Ready : Carrier → Server → Prop
  | .direct _, _ => True
  | .datagrams peer _, server => server.endpoint.socket.arrivals = [] ∧
      (server.endpoint.peer = none ∨ server.endpoint.peer = some peer)

variable {carrier : Carrier} {server : Server} {request : Message}

theorem length_token_of_takes (h : carrier.Takes request) :
    request.token.length ≤ Message.maxTokenLength := by
  cases carrier with
  | direct peer => exact h
  | datagrams peer clock =>
      obtain ⟨bytes, hbytes, -⟩ := h
      exact (Message.encode_eq_ok_iff.1 hbytes).1

/-- Up to the connection, a request that comes to the server is served. -/
theorem carry_eq (turn : Nat) (hready : carrier.Ready server) (hrunning : server.failure = none)
    (htakes : carrier.Takes request) :
    ∃ before : Server, before.unplugged = server.unplugged ∧
      before.endpoint.peer = some carrier.peer ∧
      (carrier.carry turn server request).unplugged = (before.serve request).unplugged ∧
      ((before.serve request).endpoint.peer = some carrier.peer →
        carrier.Ready (carrier.carry turn server request)) := by
  cases carrier with
  | direct peer => exact ⟨server.hearing peer server.wokeAt, rfl, rfl, rfl, fun _ => trivial⟩
  | datagrams peer clock =>
      obtain ⟨bytes, hbytes, hlength⟩ := htakes
      obtain ⟨hquiet, hpeer⟩ := hready
      have hmessage : (Datagram.mk peer.address bytes).message = .ok request := by
        rw [Datagram.message, List.take_of_length_le hlength]
        exact Message.decode_of_encode hbytes
      obtain ⟨before, hsame, hknown, hrun⟩ :=
        Server.run_deliver (clock turn) hrunning hquiet hpeer hmessage rfl
      refine ⟨before, hsame, hknown, ?_, fun hafter => ?_⟩
      · simp only [carry, hbytes, hrun, Server.unplugged_withArrivals, Server.unplugged_expireIf]
      · simp only [carry, hbytes, hrun]
        exact ⟨rfl, Server.peer_expireIf (Or.inr hafter) _⟩

end Carrier

/-! ## Turns -/

/-- A client and a server in the middle of a download. -/
structure Exchange where
  server : Server
  /-- The answers that the client got. -/
  answers : List Message
  /-- How many copies came to nothing before each of the answers. -/
  drops : List Nat
  /-- How many copies of the request for the next block came to nothing. -/
  copies : Nat
  /-- The request that was answered last. -/
  last : Option Message

namespace Exchange

/-- Nothing has been sent yet. -/
def begin (server : Server) : Exchange := ⟨server, [], [], 0, none⟩

/-- Whether the client is done: the last answer does not say that more follow. -/
def isOver (exchange : Exchange) : Bool :=
  exchange.answers.getLast?.any fun answer =>
    match answer.block with
    | .ok (some block) => !block.more
    | _ => true

/-- One turn: unless it is done, the client sends one more copy of its request.
An answer makes it go on to the next block. -/
def step (fetch : Fetch) (carrier : Carrier) (turn : Nat) (exchange : Exchange) : Exchange :=
  if exchange.isOver then exchange
  else
    let request := fetch.request exchange.answers.length exchange.copies exchange.last
    let server := carrier.carry turn exchange.server request
    match carrier.answer? exchange.server server with
    | none => { exchange with server, copies := exchange.copies + 1 }
    | some answer =>
      { server
        answers := exchange.answers ++ [answer]
        drops := exchange.drops ++ [exchange.copies]
        copies := 0
        last := some request }

/-- What so many turns lead to. -/
def run (fetch : Fetch) (carrier : Carrier) (server : Server) : Nat → Exchange
  | 0 => begin server
  | turn + 1 => (run fetch carrier server turn).step fetch carrier turn

/-! ## The invariant -/

/-- Where an exchange stands when `number` blocks were answered and the request
for the next one was sent in vain `copies` times. -/
structure StandsAt (exchange : Exchange) (fetch : Fetch) (carrier : Carrier)
    (number copies : Nat) : Prop where
  server : exchange.server.StandsAt fetch number copies exchange.last
  ready : carrier.Ready exchange.server
  length_eq : exchange.answers.length = number
  carries : Message.CarryBlocks exchange.answers fetch.payload fetch.size
  drops_eq : exchange.drops = (List.range number).map fetch.backoff.requiredDrops
  copies_eq : exchange.copies = copies

variable {exchange : Exchange} {fetch : Fetch} {carrier : Carrier} {number copies : Nat}

/-- The client is done when every block was answered. -/
theorem StandsAt.isOver_iff (h : exchange.StandsAt fetch carrier number copies) :
    exchange.isOver = true ↔ fetch.blocks ≤ number := by
  have hlength := h.length_eq
  unfold isOver
  cases hlast : exchange.answers.getLast? with
  | none =>
      rw [List.getLast?_eq_none_iff] at hlast
      rw [hlast, List.length_nil] at hlength
      have hpos := fetch.blocks_pos
      simp only [Option.any_none, Bool.false_eq_true, false_iff]
      omega
  | some last =>
      obtain ⟨hne, block, hblock, hmore⟩ := Transfer.more_of_getLast? h.carries hlast
      rw [← BlockSize.lt_count_iff (by omega), hlength] at hmore
      simp only [Option.any_some, hblock]
      rw [Bool.not_eq_true', ← Bool.not_eq_true, hmore, Fetch.blocks]
      exact Nat.not_lt

theorem StandsAt.step_of_done (h : exchange.StandsAt fetch carrier number copies)
    (hdone : fetch.blocks ≤ number) (turn : Nat) : exchange.step fetch carrier turn = exchange :=
  if_pos (h.isOver_iff.2 hdone)

/-- Every request of the client can be sent. -/
def Sendable (fetch : Fetch) (carrier : Carrier) : Prop :=
  ∀ number copy last, number < fetch.blocks → carrier.Takes (fetch.request number copy last)

/-- A turn in which the gate ignores the request. -/
theorem standsAt_step_of_drop (h : exchange.StandsAt fetch carrier number copies)
    (hconforms : fetch.Conforms) (hsendable : Sendable fetch carrier)
    (hlt : number < fetch.blocks) (hdrop : copies < fetch.backoff.requiredDrops number)
    (turn : Nat) :
    (exchange.step fetch carrier turn).StandsAt fetch carrier number (copies + 1) := by
  obtain ⟨before, hbefore, hpeer, hafter, hready⟩ :=
    Carrier.carry_eq turn h.ready h.server.running (hsendable number copies exchange.last hlt)
  obtain ⟨hserved, hendpoint, -⟩ :=
    Server.standsAt_ignored (h.server.congr hbefore) hconforms hlt hdrop
  have hquiet : carrier.answer? exchange.server
      (carrier.carry turn exchange.server (fetch.request number copies exchange.last)) = none := by
    rw [Carrier.answer?, Server.sent_eq_of_unplugged hafter, hendpoint,
      Server.sent_eq_of_unplugged hbefore, List.drop_length]
    rfl
  rw [hendpoint] at hready
  rw [step, if_neg (by rw [h.isOver_iff]; omega)]
  simp only [h.length_eq, h.copies_eq, hquiet]
  exact {
    server := hserved.congr hafter
    ready := hready hpeer
    length_eq := h.length_eq
    carries := h.carries
    drops_eq := h.drops_eq
    copies_eq := rfl }

/-- A turn in which the request is answered. -/
theorem standsAt_step_of_answer (h : exchange.StandsAt fetch carrier number copies)
    (hconforms : fetch.Conforms) (hsendable : Sendable fetch carrier)
    (hlt : number < fetch.blocks) (hlimit : number < Block.numberLimit)
    (hdone : copies = fetch.backoff.requiredDrops number) (turn : Nat) :
    (exchange.step fetch carrier turn).StandsAt fetch carrier (number + 1) 0 := by
  have htakes := hsendable number copies exchange.last hlt
  obtain ⟨before, hbefore, hpeer, hafter, hready⟩ :=
    Carrier.carry_eq turn h.ready h.server.running htakes
  obtain ⟨hserved, hendpoint, -⟩ :=
    Server.standsAt_answered (h.server.congr hbefore) hconforms hlt hlimit hdone hpeer
      (Carrier.length_token_of_takes htakes)
  have hcarries := fetch.carriesBlock_answerTo (fetch.request number copies exchange.last) hlimit
  have hanswer : carrier.answer? exchange.server
      (carrier.carry turn exchange.server (fetch.request number copies exchange.last)) =
        some (fetch.answerTo number (fetch.request number copies exchange.last)) := by
    rw [Carrier.answer?, Server.sent_eq_of_unplugged hafter, hendpoint,
      Endpoint.sent_afterSending, Server.sent_eq_of_unplugged hbefore, List.drop_left]
    simp
  rw [hendpoint] at hready
  rw [step, if_neg (by rw [h.isOver_iff]; omega)]
  simp only [h.length_eq, h.copies_eq, hanswer]
  exact {
    server := hserved.congr hafter
    ready := hready hpeer
    length_eq := by rw [List.length_append, List.length_singleton, h.length_eq]
    carries := Message.carryBlocks_append_singleton.2 ⟨h.carries, by rwa [h.length_eq]⟩
    drops_eq := by
      rw [List.range_succ, List.map_append, List.map_singleton, h.drops_eq, hdone]
    copies_eq := rfl }

/-! ## Whole runs -/

/-- **After any number of turns.**  Each block has taken one turn and the drops
that the gate requires for it, and the turns left over are drops of the next
one; once all blocks were answered nothing happens any more. -/
theorem standsAt_run {server : Server} (hserver : server.StandsAt fetch 0 0 none)
    (hready : carrier.Ready server) (hconforms : fetch.Conforms)
    (hsendable : Sendable fetch carrier) (hlimit : fetch.blocks ≤ Block.numberLimit)
    (turns : Nat) :
    ∃ number copies, (run fetch carrier server turns).StandsAt fetch carrier number copies ∧
      (number < fetch.blocks ∧ copies ≤ fetch.backoff.requiredDrops number ∧
          turns = number + fetch.backoff.totalDrops number + copies ∨
        number = fetch.blocks ∧ copies = 0 ∧
          fetch.blocks + fetch.backoff.totalDrops fetch.blocks ≤ turns) := by
  induction turns with
  | zero =>
      refine ⟨0, 0, ⟨hserver, hready, rfl, Message.carryBlocks_nil, rfl, rfl⟩, Or.inl ?_⟩
      exact ⟨fetch.blocks_pos, Nat.zero_le _, rfl⟩
  | succ turns ih =>
      obtain ⟨number, copies, hstands, ⟨hlt, hle, hturns⟩ | ⟨hdone, hcopies, hturns⟩⟩ := ih
      · by_cases hdrop : copies < fetch.backoff.requiredDrops number
        · refine ⟨number, copies + 1, standsAt_step_of_drop hstands hconforms hsendable hlt hdrop
            turns, Or.inl ⟨hlt, hdrop, by omega⟩⟩
        · have hanswer : copies = fetch.backoff.requiredDrops number := by omega
          have hnext := standsAt_step_of_answer hstands hconforms hsendable hlt (by omega) hanswer
            turns
          have htotal := fetch.backoff.totalDrops_succ number
          refine ⟨number + 1, 0, hnext, ?_⟩
          by_cases hmore : number + 1 < fetch.blocks
          · exact Or.inl ⟨hmore, Nat.zero_le _, by omega⟩
          · have hblocks : number + 1 = fetch.blocks := by omega
            rw [← hblocks]
            exact Or.inr ⟨rfl, rfl, by omega⟩
      · refine ⟨number, copies, ?_, Or.inr ⟨hdone, hcopies, by omega⟩⟩
        rw [run, hstands.step_of_done (Nat.le_of_eq hdone.symm)]
        exact hstands

/-- How a download ends: the client has every block once, in order and at the
size agreed on, each after the drops that the gate requires for it, and the
server has counted just that. -/
structure Delivered (exchange : Exchange) (fetch : Fetch) : Prop where
  length_eq : exchange.answers.length = fetch.blocks
  blocks : ∀ (number : Nat) (h : number < exchange.answers.length),
    exchange.answers[number].code = .content ∧
      ∃ block, exchange.answers[number].block = .ok (some block) ∧ block.number.val = number ∧
        block.size = fetch.size ∧ (block.more = true ↔ number < fetch.blocks - 1)
  payload : exchange.answers.flatMap (·.payload) = fetch.payload
  drops : exchange.drops =
    (List.range fetch.blocks).map fun number => number % max fetch.backoff.modulus 1
  stats : exchange.server.stats = {
    received := fetch.blocks + fetch.backoff.totalDrops fetch.blocks
    dropped := fetch.backoff.totalDrops fetch.blocks
    duplicates := 0
    answered := fetch.blocks
    completed := 1 }
  history : exchange.server.history.length =
    fetch.blocks + fetch.backoff.totalDrops fetch.blocks
  transfers : exchange.server.transfers = []
  running : exchange.server.failure = none

/-- Where every block was answered, the download has ended well. -/
theorem StandsAt.delivered (h : exchange.StandsAt fetch carrier fetch.blocks 0) :
    exchange.Delivered fetch := by
  have hpos := fetch.blocks_pos
  exact {
    length_eq := h.length_eq
    blocks := by
      intro number hnumber
      obtain ⟨hcode, ⟨block, hblock, hsame, hsize, hmore⟩, -⟩ := h.carries number hnumber
      refine ⟨hcode, block, hblock, hsame, hsize, ?_⟩
      rw [hmore, ← BlockSize.lt_count_iff (Nat.succ_pos number), ← Fetch.blocks]
      omega
    payload := by
      have hall : ¬fetch.blocks * fetch.size.bytes < fetch.payload.length := by
        rw [← BlockSize.lt_count_iff hpos]
        exact Nat.lt_irrefl _
      rw [Message.flatMap_payload_of_carryBlocks h.carries, h.length_eq,
        List.take_of_length_le (Nat.not_lt.1 hall)]
    drops := h.drops_eq
    stats := by
      rw [h.server.stats_eq, if_pos (Nat.le_refl _)]
      rfl
    history := h.server.seen
    transfers := by
      rw [h.server.transfers_eq, if_pos (Or.inr (Nat.le_refl _))]
    running := h.server.running }

/-! ## Main result -/

/-- **A download under backoff.**  A fresh server with the gate `ModuloBackoff`
and a client that repeats each of its requests until it is answered get the
whole payload across: the request for block `k` is ignored `k % modulus` times
and then answered with that block.  It takes as many turns as there are blocks
and drops, and from then on nothing changes. -/
theorem delivered_run (fetch : Fetch) (carrier : Carrier) (address : SocketAddress)
    (security : Security) (firstId : UInt16) (settings : Settings) (store : Store)
    (hstored : store.get fetch.path = .ok fetch.payload) (hconforms : fetch.Conforms)
    (hsendable : Sendable fetch carrier) (hlimit : fetch.blocks ≤ Block.numberLimit) :
    ∃ server, Server.start (Endpoint.bind address security firstId) fetch.backoff.gate
        { settings with blockSize := fetch.offered.bytes } = .ok server ∧
      ∀ turns, fetch.blocks + fetch.backoff.totalDrops fetch.blocks ≤ turns →
        (run fetch carrier { server with store } turns).Delivered fetch := by
  refine ⟨_, Server.start_eq_ok _ rfl, fun turns hturns => ?_⟩
  have hserver := Server.standsAt_fresh (Endpoint.bind address security firstId)
    { settings with blockSize := fetch.offered.bytes } hstored
  have hready : carrier.Ready { Server.fresh (Endpoint.bind address security firstId)
      fetch.backoff.gate { settings with blockSize := fetch.offered.bytes } fetch.offered
      with store } := by
    cases carrier with
    | direct peer => trivial
    | datagrams peer clock => exact ⟨rfl, Or.inl rfl⟩
  obtain ⟨number, copies, hstands, ⟨hlt, hle, hexact⟩ | ⟨hdone, hcopies, -⟩⟩ :=
    standsAt_run hserver hready hconforms hsendable hlimit turns
  · -- Before the last block there have been fewer turns.
    have hfewer := fetch.backoff.totalDrops_le (show number + 1 ≤ fetch.blocks from hlt)
    rw [ModuloBackoff.totalDrops_succ] at hfewer
    omega
  · subst hdone hcopies
    exact hstands.delivered

end Exchange

/-! ## A small download -/

namespace Fetch

/-- Three blocks of 16 bytes, the last one cut short, and a gate that ignores
the first request for block 1. -/
def small : Fetch where
  path := "f"
  payload := List.replicate 40 7
  offered := BlockSize.smallest
  backoff := ⟨2⟩
  wish := none
  request number copy _ := {
    kind := .confirmable
    code := .get
    id := UInt16.ofNat number
    token := [UInt8.ofNat copy]
    options :=
      if number = 0 then Options.empty.add OptionField.uriPath [102]
      else (Options.empty.add OptionField.uriPath [102]).add OptionField.block2
        [UInt8.ofNat (16 * number)]
    payload := [] }

theorem lt_blocks_small {number : Nat} (h : number < small.blocks) :
    number = 0 ∨ number = 1 ∨ number = 2 := by
  have hblocks : small.blocks = 3 := by decide
  omega

theorem conforms_small : small.Conforms where
  asks := by
    intro number copy last hlt
    obtain rfl | rfl | rfl := lt_blocks_small hlt
    · exact ⟨rfl, rfl, rfl, none, rfl, .nothing rfl⟩
    · exact ⟨rfl, rfl, rfl, _, rfl, .later 0 _ rfl rfl rfl⟩
    · exact ⟨rfl, rfl, rfl, _, rfl, .later 1 _ rfl rfl rfl⟩
  identical := fun _ _ _ _ => rfl
  fresh := by
    intro number copy last again hlt htag
    have hid : UInt16.ofNat (number + 1) = UInt16.ofNat number := congrArg Prod.fst htag
    obtain rfl | rfl | rfl := lt_blocks_small (Nat.lt_of_succ_lt hlt)
    · exact absurd hid (by decide)
    · exact absurd hid (by decide)
    · exact absurd hid (by decide)

end Fetch

namespace Exchange

theorem sendable_small (carrier : Carrier) : Sendable Fetch.small carrier := by
  intro number copy last hlt
  have hfields : (Fetch.small.request number copy last).options.fields.length ≤ 2 := by
    obtain rfl | rfl | rfl := Fetch.lt_blocks_small hlt
    · exact (by decide : 1 ≤ 2)
    · exact Nat.le_refl 2
    · exact Nat.le_refl 2
  have hall : (Fetch.small.request number copy last).options.fields.all
      (·.value.length ≤ 1) = true := by
    obtain rfl | rfl | rfl := Fetch.lt_blocks_small hlt
    · rfl
    · rfl
    · rfl
  have hvalues : ∀ field ∈ (Fetch.small.request number copy last).options.fields,
      field.value.length ≤ 1 :=
    fun field hfield => of_decide_eq_true (List.all_eq_true.1 hall field hfield)
  have htoken : (Fetch.small.request number copy last).token.length ≤ Message.maxTokenLength :=
    (by decide : 1 ≤ 8)
  cases carrier with
  | direct peer => exact htoken
  | datagrams peer clock =>
      obtain ⟨bytes, hbytes⟩ := Message.encode_isOk_iff.2 ⟨htoken, fun field hfield =>
        Nat.le_trans (hvalues field hfield) (by decide)⟩
      have hlength := Message.length_encode_le hbytes hvalues
      have hpayload : (Fetch.small.request number copy last).payload.length = 0 := rfl
      refine ⟨bytes, hbytes, ?_⟩
      simp only [Datagram.readLimit]
      omega

/-- Three answers and one drop: after four turns the small download is over. -/
theorem delivered_run_small :
    ∃ server, Server.start (Endpoint.bind (.v4 127 0 0 1 5683) .none 0)
        (ModuloBackoff.gate ⟨2⟩) { Settings.standard with blockSize := 16 } = .ok server ∧
      ∀ turns, 4 ≤ turns →
        (run Fetch.small (.datagrams ⟨.v4 127 0 0 1, 40000⟩ (1000 * ·))
          { server with store :=
              (Store.empty (.v4 127 0 0 1 5683) "coap").set "f" (List.replicate 40 7) }
          turns).Delivered Fetch.small := by
  have hturns : Fetch.small.blocks + Fetch.small.backoff.totalDrops Fetch.small.blocks = 4 := by
    decide
  obtain ⟨server, hstart, hrun⟩ := delivered_run Fetch.small
    (.datagrams ⟨.v4 127 0 0 1, 40000⟩ (1000 * ·)) (.v4 127 0 0 1 5683) .none 0 Settings.standard
    ((Store.empty (.v4 127 0 0 1 5683) "coap").set "f" (List.replicate 40 7)) rfl
    Fetch.conforms_small (sendable_small _) (by decide)
  rw [hturns] at hrun
  exact ⟨server, hstart, hrun⟩

end Exchange
end Blockwise
