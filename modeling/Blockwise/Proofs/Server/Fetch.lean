import Blockwise.Proofs.Gate
import Blockwise.Proofs.Path.Canonical
import Blockwise.Proofs.Server.Loop

/-!
# A download under backoff, seen from the server

A `Fetch` says who downloads what: the resource, the size that the server
offers, its gate, and the requests of a client that repeats each of them until
it is answered.

* `Fetch.Conforms` — what the client's requests have to be.
* `Server.StandsAt` — where the server stands when so many blocks were answered
  and the request for the next one was ignored so many times.
* `standsAt_ignored` / `standsAt_answered` — how one more copy moves it on.
-/

namespace Blockwise

/-- What tells a request from a retransmission of another one. -/
def Message.tag (message : Message) : UInt16 × Bytes := (message.id, message.token)

/-- A download as it is set up. -/
structure Fetch where
  /-- The path of the resource. -/
  path : String
  payload : Bytes
  /-- The block size that the server offers. -/
  offered : BlockSize
  /-- The gate of the server. -/
  backoff : ModuloBackoff
  /-- The block size that the first request asks for, if it asks for one. -/
  wish : Option BlockSize
  /-- The request that the client sends as its copy `copy` (from 0) for block
  `number` when `last` is the request that was answered last. -/
  request (number copy : Nat) (last : Option Message) : Message

namespace Fetch

variable {fetch : Fetch} {number other copies : Nat} {request : Message}

/-! ## The client -/

/-- The size agreed on: the one offered, or a smaller one that the first request
asks for. -/
def size (fetch : Fetch) : BlockSize :=
  match fetch.wish with
  | none => fetch.offered
  | some wish => wish.smaller fetch.offered

/-- How many blocks there are to fetch. -/
def blocks (fetch : Fetch) : Nat := fetch.size.count fetch.payload.length

/-- What a request for a block names. -/
inductive Names (fetch : Fetch) : Nat → Option Block → Prop
  /-- A client without a wish names nothing at first. -/
  | nothing : fetch.wish = none → Names fetch 0 none
  /-- One with a wish names block 0 at that size. -/
  | first (block : Block) : block.number.val = 0 → fetch.wish = some block.size →
      block.more = false → Names fetch 0 (some block)
  /-- Later on the block is named at the size agreed on. -/
  | later (before : Nat) (block : Block) : block.number.val = before + 1 →
      block.size = fetch.size → block.more = false → Names fetch (before + 1) (some block)

/-- A confirmable request of the client to read block `number`. -/
structure Asks (fetch : Fetch) (number : Nat) (request : Message) : Prop where
  confirmable : request.kind = .confirmable
  code : request.code = .get
  path : request.path = Path.normalize fetch.path
  block : ∃ requested, request.block = .ok requested ∧ fetch.Names number requested

/-- What the server records of the requests for a block. -/
def record (fetch : Fetch) (number : Nat) : RequestRecord := (fetch.request number 0 none).record

/-- The client asks for one block after the other, repeats a request with the
same code, path and options, and uses id and token of the request answered last
no more. -/
structure Conforms (fetch : Fetch) : Prop where
  asks : ∀ number copy last, number < fetch.blocks →
    fetch.Asks number (fetch.request number copy last)
  identical : ∀ number copy last, number < fetch.blocks →
    (fetch.request number copy last).record = fetch.record number
  fresh : ∀ number copy last again, number + 1 < fetch.blocks →
    (fetch.request (number + 1) again (some (fetch.request number copy last))).tag ≠
      (fetch.request number copy last).tag

theorem blocks_pos (fetch : Fetch) : 0 < fetch.blocks := fetch.size.count_pos _

/-- Requests for different blocks have different records. -/
theorem record_ne (hconforms : fetch.Conforms) (hlt : number < other)
    (hother : other < fetch.blocks) : fetch.record number ≠ fetch.record other := by
  intro hrecord
  obtain ⟨named, hnamed, hnames⟩ := (hconforms.asks number 0 none (by omega)).block
  obtain ⟨others, hothers, hotherNames⟩ := (hconforms.asks other 0 none hother).block
  have hblock := Message.block_congr (congrArg RequestRecord.options hrecord :
    (fetch.request number 0 none).options = (fetch.request other 0 none).options)
  rw [hnamed, hothers, Except.ok.injEq] at hblock
  subst hblock
  cases hotherNames with
  | nothing => omega
  | first => omega
  | later before block hnumber =>
      cases hnames with
      | first _ hfirst => omega
      | later _ _ hlater => omega

/-! ## The gate and the transfer -/

/-- The gate ignores a request for a block until it was seen often enough. -/
theorem gate_of_asks (hasks : fetch.Asks number request) (prior : Nat) :
    fetch.backoff.gate request prior = decide (prior < fetch.backoff.requiredDrops number) := by
  obtain ⟨requested, hblock, hnames⟩ := hasks.block
  cases hnames with
  | nothing =>
      rw [ModuloBackoff.gate_of_unnamed (by simp [hblock])]
      simp
  | first block hnumber => rw [ModuloBackoff.gate_of_block hblock, hnumber]
  | later before block hnumber => rw [ModuloBackoff.gate_of_block hblock, hnumber]

/-- The transfer that awaits the request for a block. -/
def transferAt (fetch : Fetch) (number : Nat) : Transfer where
  path := Path.normalize fetch.path
  payload := fetch.payload
  size := if number = 0 then fetch.offered else fetch.size
  phase := .awaiting number

/-- What the client names is admitted, and agrees on the size. -/
theorem admits_of_names {requested : Option Block} (hnames : fetch.Names number requested) :
    (fetch.transferAt number).Admits number requested ∧
      Transfer.negotiated (fetch.transferAt number).size requested = fetch.size := by
  cases hnames with
  | nothing hwish => simp [Transfer.Admits, Transfer.negotiated, transferAt, size, hwish]
  | first block hnumber hwish hmore =>
      simp [Transfer.Admits, Transfer.negotiated, transferAt, size, hnumber, hwish, hmore]
  | later before block hnumber hsize hmore =>
      simp [Transfer.Admits, Transfer.negotiated, transferAt, hnumber, hsize, hmore]

/-- The answer to a request for a block. -/
def answerTo (fetch : Fetch) (number : Nat) (request : Message) : Message :=
  (fetch.transferAt number).respond request
    (Block.covering ⟨number % Block.numberLimit, Nat.mod_lt _ (by decide)⟩ fetch.size
      fetch.payload.length)

/-- The transfer answers the request that it awaits. -/
theorem handle_transferAt (hasks : fetch.Asks number request)
    (hlimit : number < Block.numberLimit) :
    (fetch.transferAt number).handle request =
      .ok (fetch.answerTo number request,
        (fetch.transferAt number).afterBlock fetch.size number) := by
  obtain ⟨requested, hblock, hnames⟩ := hasks.block
  obtain ⟨hadmits, hsize⟩ := admits_of_names hnames
  have hnumber : number % Block.numberLimit = number := Nat.mod_eq_of_lt hlimit
  refine Transfer.handle_eq_ok_iff.2 ⟨by simp [transferAt], hasks.code, hasks.path, requested,
    _, hblock, hadmits, hnumber, by rw [hsize]; rfl, rfl, ?_⟩
  exact (Transfer.advance_covering fetch.size hnumber).symm

/-- The answer carries the block that was asked for. -/
theorem carriesBlock_answerTo (fetch : Fetch) (request : Message)
    (hlimit : number < Block.numberLimit) :
    (fetch.answerTo number request).CarriesBlock fetch.payload fetch.size number := by
  have hplace : (⟨number % Block.numberLimit, Nat.mod_lt _ (by decide)⟩ : Fin _) =
      ⟨number, hlimit⟩ :=
    Fin.ext (Nat.mod_eq_of_lt hlimit)
  rw [answerTo, hplace]
  exact Transfer.carriesBlock_respond (fetch.transferAt number) request ⟨number, hlimit⟩ fetch.size

/-- A block is the last one when no block is left. -/
theorem isComplete_afterBlock (fetch : Fetch) (number : Nat) :
    ((fetch.transferAt number).afterBlock fetch.size number).isComplete =
      decide (fetch.blocks ≤ number + 1) := by
  have hcount : number + 1 < fetch.blocks ↔
      (number + 1) * fetch.size.bytes < fetch.payload.length :=
    BlockSize.lt_count_iff (Nat.succ_pos number)
  by_cases hmore : number + 1 < fetch.blocks
  · have hlong := hcount.1 hmore
    simp [Transfer.isComplete, Transfer.afterBlock, transferAt, hlong, hmore]
  · have hshort : ¬(number + 1) * fetch.size.bytes < fetch.payload.length :=
      fun h => hmore (hcount.2 h)
    simp [Transfer.isComplete, Transfer.afterBlock, transferAt, hshort, Nat.not_lt.1 hmore]

theorem afterBlock_eq (hmore : number + 1 < fetch.blocks) :
    (fetch.transferAt number).afterBlock fetch.size number = fetch.transferAt (number + 1) := by
  have hlong : (number + 1) * fetch.size.bytes < fetch.payload.length :=
    (BlockSize.lt_count_iff (Nat.succ_pos number)).1 hmore
  simp [Transfer.afterBlock, transferAt, hlong]

end Fetch

/-! ## The server -/

namespace Server

/-- Where a server stands when `number` blocks were answered, the last of them
to the request `last`, and the request for the next block was ignored `copies`
times. -/
structure StandsAt (server : Server) (fetch : Fetch) (number copies : Nat)
    (last : Option Message) : Prop where
  running : server.failure = none
  gate_eq : server.gate = fetch.backoff.gate
  stored : server.store.get fetch.path = .ok fetch.payload
  blockSize_eq : server.blockSize = fetch.offered
  transfers_eq : server.transfers =
    if number = 0 ∨ fetch.blocks ≤ number then [] else [fetch.transferAt number]
  /-- The requests for later blocks have not been seen. -/
  counted : ∀ later, number ≤ later → later < fetch.blocks →
    server.history.count (fetch.record later) = if later = number then copies else 0
  seen : server.history.length = number + fetch.backoff.totalDrops number + copies
  stats_eq : server.stats = {
    received := number + fetch.backoff.totalDrops number + copies
    dropped := fetch.backoff.totalDrops number + copies
    duplicates := 0
    answered := number
    completed := if fetch.blocks ≤ number then 1 else 0 }
  kept : server.lastAnswer.map (fun answer => (answer.id, answer.token)) = last.map Message.tag
  none_before : number = 0 → last = none
  one_before : ∀ before, number = before + 1 →
    ∃ copy earlier, last = some (fetch.request before copy earlier)

variable {server : Server} {fetch : Fetch} {number copies : Nat} {last : Option Message}

namespace StandsAt

/-- Where a server stands does not depend on its connection. -/
theorem congr {other : Server} (h : server.StandsAt fetch number copies last)
    (hsame : other.unplugged = server.unplugged) : other.StandsAt fetch number copies last := by
  have hplain : server.unplugged.StandsAt fetch number copies last := { h with }
  rw [← hsame] at hplain
  exact { hplain with }

/-- The next request belongs to the transfer that awaits it. -/
theorem transferFor_eq (h : server.StandsAt fetch number copies last)
    (hlt : number < fetch.blocks) :
    server.transferFor (Path.normalize fetch.path) = .ok (fetch.transferAt number) := by
  rw [transferFor, transfer?, h.transfers_eq]
  by_cases hzero : number = 0
  · subst hzero
    rw [if_pos (Or.inl rfl), List.find?_nil]
    simp only [Store.get_normalize, h.stored, h.blockSize_eq]
    rfl
  · rw [if_neg (by omega), List.find?_cons_of_pos (by simp [Fetch.transferAt])]

/-- The next request repeats no answered one. -/
theorem isNew (h : server.StandsAt fetch number copies last) (hconforms : fetch.Conforms)
    (hlt : number < fetch.blocks) (copy : Nat) :
    server.lastAnswer.filter (·.fits (fetch.request number copy last)) = none := by
  have hkept := h.kept
  cases number with
  | zero =>
      rw [h.none_before rfl, Option.map_none, Option.map_eq_none_iff] at hkept
      rw [hkept, Option.filter_none]
  | succ before =>
      obtain ⟨again, earlier, hlast⟩ := h.one_before before rfl
      rw [hlast, Option.map_some, Option.map_eq_some_iff] at hkept
      obtain ⟨answer, hanswer, hpair⟩ := hkept
      have hfresh := hconforms.fresh before again earlier copy hlt
      rw [← hlast, ← hpair] at hfresh
      rw [hanswer, Option.filter_some, if_neg]
      -- Had the request the id and the token kept, it would not be fresh.
      intro hfits
      simp only [CachedAnswer.fits, Bool.and_eq_true, decide_eq_true_eq] at hfits
      exact hfresh (Prod.ext hfits.1.2 hfits.2)

/-- The gate ignores the next request until it was seen often enough. -/
theorem gate_next (h : server.StandsAt fetch number copies last) (hconforms : fetch.Conforms)
    (hlt : number < fetch.blocks) (copy : Nat) :
    server.gate (fetch.request number copy last)
        (server.history.count (fetch.request number copy last).record) =
      decide (copies < fetch.backoff.requiredDrops number) := by
  rw [hconforms.identical number copy last hlt, h.counted number (Nat.le_refl _) hlt, if_pos rfl,
    h.gate_eq, Fetch.gate_of_asks (hconforms.asks number copy last hlt)]

end StandsAt

/-- A server that has just started stands at the beginning of every download of
what its store holds. -/
theorem standsAt_fresh (endpoint : Endpoint) (settings : Settings) {store : Store}
    (hstored : store.get fetch.path = .ok fetch.payload) :
    { fresh endpoint fetch.backoff.gate settings fetch.offered with store }.StandsAt fetch 0 0
      none where
  running := rfl
  gate_eq := rfl
  stored := hstored
  blockSize_eq := rfl
  transfers_eq := rfl
  counted := fun later _ _ => by simp [fresh]
  seen := rfl
  stats_eq := by
    have hpos := fetch.blocks_pos
    rw [if_neg (by omega)]
    rfl
  kept := rfl
  none_before := fun _ => rfl
  one_before := fun _ hbefore => absurd hbefore (Nat.succ_ne_zero _).symm

/-- One more copy that is ignored. -/
theorem standsAt_ignored (h : server.StandsAt fetch number copies last)
    (hconforms : fetch.Conforms) (hlt : number < fetch.blocks)
    (hdrop : copies < fetch.backoff.requiredDrops number) :
    (server.serve (fetch.request number copies last)).StandsAt fetch number (copies + 1) last ∧
      (server.serve (fetch.request number copies last)).endpoint = server.endpoint ∧
      (server.serve (fetch.request number copies last)).lastAnswer = server.lastAnswer := by
  have hasks := hconforms.asks number copies last hlt
  have hgate := h.gate_next hconforms hlt copies
  rw [decide_eq_true hdrop] at hgate
  rw [serve_of_gate (Message.isRequest_of_get hasks.code) (h.isNew hconforms hlt copies) hgate]
  refine ⟨?_, rfl, rfl⟩
  have hrecord := hconforms.identical number copies last hlt
  exact {
    running := h.running
    gate_eq := h.gate_eq
    stored := h.stored
    blockSize_eq := h.blockSize_eq
    transfers_eq := h.transfers_eq
    counted := by
      intro later hle hlater
      rw [History.count_push, h.counted later hle hlater, hrecord]
      by_cases hsame : later = number
      · subst hsame
        simp
      · rw [if_neg hsame, if_neg hsame,
          if_neg (Fetch.record_ne hconforms (by omega) hlater).symm]
    seen := by
      rw [History.length_push, h.seen]
      rfl
    stats_eq := by
      simp only [h.stats_eq]
      rfl
    kept := h.kept
    none_before := h.none_before
    one_before := h.one_before }

/-- The copy that is answered. -/
theorem standsAt_answered (h : server.StandsAt fetch number copies last)
    (hconforms : fetch.Conforms) (hlt : number < fetch.blocks)
    (hlimit : number < Block.numberLimit)
    (hdone : copies = fetch.backoff.requiredDrops number) {peer : Peer}
    (hpeer : server.endpoint.peer = some peer)
    (htoken : (fetch.request number copies last).token.length ≤ Message.maxTokenLength) :
    let request := fetch.request number copies last
    let answer := fetch.answerTo number request
    (server.serve request).StandsAt fetch (number + 1) 0 (some request) ∧
      (server.serve request).endpoint = server.endpoint.afterSending peer answer ∧
      (server.serve request).lastAnswer = some ⟨request.id, request.token, answer⟩ := by
  intro request answer
  have hasks : fetch.Asks number request := hconforms.asks number copies last hlt
  have hgate := h.gate_next hconforms hlt copies
  rw [decide_eq_false (by omega)] at hgate
  have htransfer := h.transferFor_eq hlt
  rw [← hasks.path] at htransfer
  have hkept : request.isConfirmable = true := by
    rw [Message.isConfirmable, hasks.confirmable]
    rfl
  rw [serve_of_handle h.running hasks.code (h.isNew hconforms hlt copies) hgate htransfer
    (Fetch.handle_transferAt hasks hlimit)
    (Endpoint.correlate_respond server.endpoint _ _ hasks.confirmable)
    (Endpoint.sendMessage_respond hpeer _ _ htoken)]
  refine ⟨?_, rfl, if_pos hkept⟩
  have hrecord := hconforms.identical number copies last hlt
  have hcomplete := fetch.isComplete_afterBlock number
  exact {
    running := h.running
    gate_eq := h.gate_eq
    stored := h.stored
    blockSize_eq := h.blockSize_eq
    transfers_eq := by
      have hothers : server.transfers.filter
          (·.path ≠ ((fetch.transferAt number).afterBlock fetch.size number).path) = [] := by
        rw [h.transfers_eq]
        split
        · rfl
        · simp [Transfer.afterBlock]
      simp only [transfersWith, hothers, hcomplete]
      by_cases hmore : number + 1 < fetch.blocks
      · simp [Fetch.afterBlock_eq hmore]
      · simp [Nat.not_lt.1 hmore]
    counted := by
      intro later hle hlater
      rw [History.count_push, h.counted later (by omega) hlater, hrecord, if_neg (by omega),
        if_neg (Fetch.record_ne hconforms (by omega) hlater).symm]
      simp
    seen := by
      rw [History.length_push, h.seen, ModuloBackoff.totalDrops_succ]
      omega
    stats_eq := by
      simp only [Stats.afterBlock, h.stats_eq, hcomplete, ModuloBackoff.totalDrops_succ,
        Stats.mk.injEq]
      by_cases hmore : number + 1 < fetch.blocks
      · simp [Nat.lt_of_succ_lt hmore]
        omega
      · simp [Nat.not_lt.1 hmore, hlt]
        omega
    kept := by
      rw [if_pos hkept]
      rfl
    none_before := fun hzero => absurd hzero (Nat.succ_ne_zero _)
    one_before := by
      intro before hbefore
      cases hbefore
      exact ⟨copies, last, rfl⟩ }

end Server
end Blockwise
