import Blockwise.Proofs.Gate.Total
import Blockwise.Proofs.Scenario.Trial

/-!
# The drops that a case expects

In one case a file server ignores block `n` of the download `n % 4` times, and at the
end the case compares how many requests were ignored with how many there should have
been.  It takes the number of blocks from the block size that the server offers; the
server ignores requests for the blocks of the size agreed on.

* `ModuloBackoff.totalDrops_standard` — how many requests a download of 16 KiB takes
  in vain at a block size.
* `Trial.Downloads.outcome` — how the case ends for a client that downloads as it should.
* `Scenario.retransmissions_of_downloads` — such a client passes the case exactly if
  it has not asked for a smaller size.
-/

namespace Blockwise

/-! ## Counting drops -/

namespace ModuloBackoff

/-- Each four blocks are ignored six times. -/
theorem totalDrops_four_mul (count : Nat) : standard.totalDrops (4 * count) = 6 * count := by
  have hperiods : standard.totalDrops (4 * count) = count * 6 := totalDrops_mul standard count
  rw [hperiods, Nat.mul_comm]

/-- The drops of a download of 16 KiB. -/
theorem totalDrops_standard (size : BlockSize) :
    standard.totalDrops (size.count (16 * 1024)) = 24576 / size.bytes := by
  have hsize : ∀ exponent : Fin 7,
      BlockSize.count ⟨exponent⟩ (16 * 1024) = 4 * (4096 / BlockSize.bytes ⟨exponent⟩) ∧
        6 * (4096 / BlockSize.bytes ⟨exponent⟩) = 24576 / BlockSize.bytes ⟨exponent⟩ := by
    decide
  obtain ⟨hcount, hdrops⟩ := hsize size.exponent
  rw [hcount, totalDrops_four_mul, hdrops]

/-- Downloads in blocks of different sizes take different numbers of drops. -/
theorem drops_inj {size other : BlockSize} :
    24576 / size.bytes = 24576 / other.bytes ↔ size = other := by
  obtain ⟨exponent⟩ := size
  obtain ⟨otherExponent⟩ := other
  revert exponent otherExponent
  decide

end ModuloBackoff

namespace Scenario

variable {σ : Type}

/-! ## The outcome of the case -/

/-- A case whose body succeeds, and whose server has not stopped. -/
theorem Trial.withServer_of_ok {trial : Trial σ} {body : InScene σ Unit} {after : Scene σ}
    (hoffered : trial.settings.blockSize = trial.offered.bytes)
    (hbody : body trial.opening = (.ok (), after))
    (hrunning : after.settle.server.failure = none) :
    withServer trial.address .none ModuloBackoff.standard.gate trial.settings trial.chance
        trial.client none body =
      (⟨.ok (), after.client, after.settle.sent⟩, .ok after.settle.server.stats) := by
  have hstart : Server.start (Endpoint.bind trial.address .none trial.chance.firstId)
      ModuloBackoff.standard.gate trial.settings = .ok trial.opening.server :=
    Server.start_eq_ok _ hoffered
  have hshutdown : after.settle.server.shutdown = .ok after.settle.server.stats := by
    rw [Server.shutdown, hrunning]
  have hrun : body ⟨trial.opening.server, trial.client, 0, trial.settings, none⟩ =
      (.ok (), after) :=
    hbody
  simp only [withServer, hstart, hrun]
  show (Report.mk (Except.map _ after.settle.server.shutdown) _ _, _) = _
  rw [hshutdown]
  rfl

/-- **How the case ends** for a client that downloads as it should. -/
theorem Trial.Downloads.outcome {trial : Trial σ} (h : trial.Downloads)
    (hoffered : trial.settings.blockSize = trial.offered.bytes) :
    let expected := ModuloBackoff.standard.totalDrops
      (trial.offered.count trial.chance.payload.length)
    let dropped := ModuloBackoff.standard.totalDrops trial.fetch.blocks
    (retransmissions trial.behaviour trial.address trial.destination trial.settings trial.chance
        trial.client).outcome =
      if dropped = expected then .ok () else .error (.mismatch (.dropCount expected dropped)) := by
  obtain ⟨after, headway, hbody, hstands, hall⟩ := h.course
  have hended := withServer_of_ok hoffered hbody hstands.running
  have hdropped : after.settle.server.stats.dropped =
      ModuloBackoff.standard.totalDrops trial.fetch.blocks := by
    rw [hstands.stats_eq, hstands.copies_eq (Nat.le_of_eq hall.symm), hall]
    rfl
  have hblocks : blocksOf trial.chance.payload trial.settings.blockSize =
      trial.offered.count trial.chance.payload.length := by
    rw [hoffered]
    rfl
  simp only [retransmissions, hended, hblocks, hdropped]
  split
  · rfl
  · rfl

/-! ## A client that asks often enough -/

namespace Eager

/-- The stages of a download. -/
inductive Stage where
  | idle
  | loading
  | done
  deriving DecidableEq

/-- What a client with a wish names when it asks for a block. -/
def named (wish : Option BlockSize) (number : Nat) : Option Block :=
  if number = 0 ∧ wish = none then none
  else (Block.ofParts number (wish.getD .largest).bytes false).toOption

/-- A request for the resource that names a block or none. -/
def naming (number : Nat) (block : Option Block) : Message where
  kind := .confirmable
  code := .get
  id := UInt16.ofNat number
  token := [1]
  options := block.elim (Message.get "/").options fun block =>
    ((Message.get "/").withBlock block).options
  payload := []

/-- A resource in which all bytes are the same. -/
def chance : Chance := ⟨List.replicate payloadLength 7, fun _ => [], fun _ => 0, 0⟩

/-- The download of the resource in the largest blocks, or in those of the wish. -/
def fetch (wish : Option BlockSize) : Fetch where
  path := "/"
  payload := chance.payload
  offered := .largest
  backoff := .standard
  wish := wish
  request number _ _ := naming number (named wish number)

/-- The client asks for each block once more than it is ignored. -/
def numbers (wish : Option BlockSize) : List Nat :=
  Fetch.stream (ModuloBackoff.standard.requiredDrops · + 1) (fetch wish).blocks

/-- Where its requests come from. -/
def peer : Peer := ⟨.v4 127 0 0 1, 40001⟩

/-- A client that sends all its requests at once.  It has a socket open while it is
loading and has not received every block. -/
def behaviour (wish : Option BlockSize) : Client Stage where
  obey command _ stage :=
    match command with
    | .download _ _ _ =>
      ({ outcome := .ok ()
         delay := 0
         datagrams := (numbers wish).map fun number =>
          (0, ⟨peer.address, (((fetch wish).asked number).encode.toOption).getD []⟩) }, .loading)
    | _ => ({ outcome := .ok (), delay := 0, datagrams := [] }, stage)
  reply _ _ stage := ([], stage)
  socketCount observed stage :=
    if stage = .loading then
      if (fetch wish).Received peer observed.received then (.ok 0, .done) else (.ok 1, .loading)
    else (.ok 0, stage)
  socketTransport _ _ := .ok .udp
  file _ stage := if stage = .done then some chance.payload else none

/-- The case with this client. -/
def trial (wish : Option BlockSize) : Trial Stage where
  behaviour := behaviour wish
  client := .idle
  address := .v4 127 0 0 1 5683
  destination := "file"
  settings := .standard
  chance
  offered := .largest
  wish
  request := (fetch wish).asked
  numbers := numbers wish
  peer
  baseline := 0
  busy := (· = .loading)

theorem block_naming (number : Nat) (block : Option Block) :
    (naming number block).block = .ok block := by
  cases block with
  | none => rfl
  | some block => exact (Message.get "/").block_withBlock block

theorem path_naming (number : Nat) (block : Option Block) :
    (naming number block).path = Path.normalize "/" := by
  have hroot : (Message.get "/").path = Path.normalize "/" := by decide
  cases block with
  | none => exact hroot
  | some block => exact ((Message.get "/").path_withBlock block).trans hroot

/-- Requests for different blocks have different ids. -/
theorem tag_naming_ne (number : Nat) (block other : Option Block) :
    (naming (number + 1) block).tag ≠ (naming number other).tag := by
  intro htag
  have hid : UInt16.ofNat (number + 1) = UInt16.ofNat number := congrArg Prod.fst htag
  rw [← UInt16.toNat_inj, UInt16.toNat_ofNat', UInt16.toNat_ofNat'] at hid
  omega

/-- The requests can be sent, and they are read as what they are. -/
theorem messageFrom?_naming (address : SocketAddress) (number : Nat) (block : Option Block) :
    Datagram.messageFrom? address ⟨address, ((naming number block).encode.toOption).getD []⟩ =
      some (naming number block) := by
  have hfields : (naming number block).options.fields = [] ∨ ∃ named : Block,
      (naming number block).options.fields = [⟨OptionField.block2, named.encode⟩] := by
    cases block with
    | none => exact Or.inl rfl
    | some block => exact Or.inr ⟨block, rfl⟩
  obtain ⟨bytes, hbytes, hlength⟩ := @Message.compact_of_parts (naming number block)
    (by decide : 1 ≤ 8) hfields (Nat.zero_le _)
  have hread : bytes.take Datagram.readLimit = bytes :=
    List.take_of_length_le (Nat.le_trans hlength (by decide))
  have hmessage : Datagram.message ⟨address, bytes⟩ = .ok (naming number block) := by
    rw [Datagram.message, hread]
    exact Message.decode_of_encode hbytes
  rw [hbytes]
  simp [Datagram.messageFrom?, Except.toOption, hmessage]

variable (wish : Option BlockSize)

theorem size_fetch : (fetch wish).size = wish.getD .largest := by
  cases wish with
  | none => rfl
  | some wish => exact if_pos (Fin.le_last wish.exponent)

/-- No block has a number that cannot be written. -/
theorem blocks_le : (fetch wish).blocks ≤ Block.numberLimit := by
  have hlimit : ∀ exponent : Fin 7,
      BlockSize.count ⟨exponent⟩ payloadLength ≤ Block.numberLimit := by
    decide
  show BlockSize.count _ chance.payload.length ≤ _
  rw [chance, List.length_replicate]
  exact hlimit _

theorem named_of_lt {number : Nat} (hlimit : number < Block.numberLimit)
    (hnames : number = 0 → wish ≠ none) :
    named wish number = some ⟨⟨number, hlimit⟩, wish.getD .largest, false⟩ := by
  rw [named, if_neg (fun hnothing => hnames hnothing.1 hnothing.2)]
  simp [Block.ofParts, hlimit, BlockSize.ofBytes, Except.map, Except.toOption]

theorem conforms_fetch : (fetch wish).Conforms where
  asks := by
    intro number copy last hlt
    have hlimit : number < Block.numberLimit := Nat.lt_of_lt_of_le hlt (blocks_le wish)
    refine ⟨rfl, rfl, path_naming _ _, _, block_naming _ _, ?_⟩
    cases number with
    | zero =>
        cases wish with
        | none => exact .nothing rfl
        | some wish =>
            rw [named_of_lt (some wish) hlimit nofun]
            exact .first _ rfl rfl rfl
    | succ before =>
        rw [named_of_lt wish hlimit nofun]
        exact .later before _ rfl (size_fetch wish).symm rfl
  identical := fun _ _ _ _ => rfl
  fresh := fun number _ _ _ _ => tag_naming_ne number _ _

/-- All requests come at once. -/
theorem time_of_coming {arrival : Arrival} (hmem : arrival ∈ (trial wish).coming) :
    arrival.time = 0 := by
  obtain ⟨sent, hsent, rfl⟩ := List.mem_map.1 hmem
  obtain ⟨number, -, rfl⟩ := List.mem_map.1 hsent
  rfl

theorem comes_trial : (trial wish).fetch.Comes peer (trial wish).coming (numbers wish) := by
  rw [Fetch.Comes, Trial.coming, List.forall₂_map_left_iff]
  refine List.forall₂_map_left_iff.2 (List.forall₂_same.2 fun number _ => ?_)
  exact messageFrom?_naming _ _ _

theorem comeBy_trial (time : Nat) : (trial wish).comeBy time = (numbers wish).length := by
  have hdue : Socket.dueBy (some time) (trial wish).coming = (trial wish).coming := by
    refine List.takeWhile_eq_self_iff.2 fun arrival hmem => ?_
    rw [time_of_coming wish hmem]
    exact decide_eq_true (Nat.zero_le time)
  rw [Trial.comeBy, hdue]
  exact (comes_trial wish).length_eq

/-- What the client says while it is loading. -/
theorem socketCount_loading (observed : Observed) :
    (trial wish).behaviour.socketCount observed .loading =
      if (fetch wish).Received peer observed.received then (.ok 0, .done) else (.ok 1, .loading) :=
  rfl

/-- The client downloads as it should, whatever its wish. -/
theorem downloads_trial : (trial wish).Downloads := by
  obtain ⟨hturn, again, sent, hall⟩ := @Fetch.inTurn_stream (fetch wish)
    (ModuloBackoff.standard.requiredDrops · + 1) _ (Nat.le_refl _) (fun _ _ => Nat.lt_succ_self _)
  exact {
    conforms := conforms_fetch wish
    counts := rfl
    obeys := rfl
    begins := rfl
    sends := comes_trial wish
    ordered := List.pairwise_of_forall_mem_list fun earlier hmem later _ =>
      (time_of_coming wish hmem).symm ▸ Nat.zero_le later.time
    inTurn := hturn
    inTime := by
      rw [comeBy_trial, show (trial wish).numbers = numbers wish from rfl, List.take_length]
      exact congrArg Headway.number hall
    tells := by
      rintro observed _ rfl
      rw [socketCount_loading]
      split
      · exact ⟨0, rfl, fun hmore => absurd rfl hmore⟩
      · exact ⟨1, rfl, fun _ => rfl⟩
    closes := by
      rintro observed _ rfl - hreceived
      rw [socketCount_loading]
      exact congrArg Prod.fst (if_pos hreceived)
    finishes := by
      rintro observed _ rfl hclosed
      rw [socketCount_loading] at hclosed ⊢
      by_cases hreceived : (fetch wish).Received peer observed.received
      · rw [if_pos hreceived]
        exact ⟨hreceived, rfl⟩
      · rw [if_neg hreceived] at hclosed
        cases hclosed }

end Eager

/-! ## Main result -/

/-- **The case is passed by a client that asks for no smaller blocks, and by no other
that downloads as it should.**  The drops that it expects are those of a download in
blocks of the size offered; the server ignores those of the size agreed on. -/
theorem retransmissions_of_downloads (trial : Trial σ)
    (hlength : trial.chance.payload.length = payloadLength)
    (hoffered : trial.settings.blockSize = trial.offered.bytes) (h : trial.Downloads) :
    (retransmissions trial.behaviour trial.address trial.destination trial.settings trial.chance
        trial.client).outcome =
      if trial.fetch.size = trial.offered then .ok ()
      else .error (.mismatch
        (.dropCount (24576 / trial.offered.bytes) (24576 / trial.fetch.size.bytes))) := by
  have hexpected : ModuloBackoff.standard.totalDrops
      (trial.offered.count trial.chance.payload.length) = 24576 / trial.offered.bytes := by
    rw [hlength]
    exact ModuloBackoff.totalDrops_standard trial.offered
  have hdropped : ModuloBackoff.standard.totalDrops trial.fetch.blocks =
      24576 / trial.fetch.size.bytes := by
    show ModuloBackoff.standard.totalDrops (trial.fetch.size.count trial.chance.payload.length) = _
    rw [hlength]
    exact ModuloBackoff.totalDrops_standard trial.fetch.size
  rw [h.outcome hoffered, hexpected, hdropped]
  congr 1
  rw [eq_iff_iff]
  exact ModuloBackoff.drops_inj

/-- A client without a wish passes. -/
theorem retransmissions_of_downloads_eager :
    let trial := Eager.trial none
    trial.chance.payload.length = payloadLength ∧
      trial.settings.blockSize = trial.offered.bytes ∧ trial.Downloads ∧
      (retransmissions trial.behaviour trial.address trial.destination trial.settings trial.chance
        trial.client).outcome = .ok () := by
  intro trial
  have hlength : trial.chance.payload.length = payloadLength := List.length_replicate
  have hdownloads : trial.Downloads := Eager.downloads_trial none
  refine ⟨hlength, rfl, hdownloads, ?_⟩
  exact (retransmissions_of_downloads trial hlength rfl hdownloads).trans (if_pos rfl)

/-- **Blocks of half the size.**  A client that asks for blocks of 512 bytes downloads as
it should, and does not pass: of 32 blocks 48 requests are ignored, and the case
expects the 24 of 16 blocks. -/
theorem smaller_blocks_refused :
    let trial := Eager.trial (some ⟨5⟩)
    trial.settings.blockSize = trial.offered.bytes ∧ trial.Downloads ∧
      (retransmissions trial.behaviour trial.address trial.destination trial.settings trial.chance
        trial.client).outcome = .error (.mismatch (.dropCount 24 48)) := by
  intro trial
  have hdownloads : trial.Downloads := Eager.downloads_trial (some ⟨5⟩)
  have hlength : trial.chance.payload.length = 16 * 1024 := List.length_replicate
  have hexpected : ModuloBackoff.standard.totalDrops
      (trial.offered.count trial.chance.payload.length) = 24 := by
    rw [hlength, ModuloBackoff.totalDrops_standard]
    decide
  have hdropped : ModuloBackoff.standard.totalDrops trial.fetch.blocks = 48 := by
    show ModuloBackoff.standard.totalDrops (trial.fetch.size.count trial.chance.payload.length) = 48
    rw [hlength, ModuloBackoff.totalDrops_standard]
    decide
  have houtcome := hdownloads.outcome rfl
  rw [hexpected, hdropped] at houtcome
  exact ⟨rfl, hdownloads, houtcome⟩

end Scenario
end Blockwise
