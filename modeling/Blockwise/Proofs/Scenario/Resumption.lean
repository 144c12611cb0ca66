import Blockwise.Proofs.Controller.Operations
import Blockwise.Scenario

/-!
# Downloads that were interrupted and resumed

In two of the cases the connection is interrupted when half of the payload went
out.  If such a case is passed, then the client has resumed, however it behaves:
there is no way to pass by starting over, by keeping the port, or by skipping a
block.

* `Controller.Stretch.length_eq` — a call that succeeds stops at its limit.
* `Scenario.Passage` — the controllers that a case passes through, from its opening on,
  and what each of its operations gave.
* `Scenario.Passage.FirstHalf` — what there is half way; `FirstHalf.requested` and
  `FirstHalf.second` say what the next operations make of it.
* `Scenario.Passage.exists_halves` — every passage has both halves.
* `Scenario.Passage.Resumed` — a case whose download was resumed half way.
* `Scenario.resumed_of_ok` — the two cases are passed by nothing else.
-/

namespace Blockwise

/-- Every block size divides the largest. -/
theorem BlockSize.bytes_dvd_largest (size : BlockSize) : size.bytes ∣ largest.bytes := by
  obtain ⟨exponent⟩ := size
  revert exponent
  decide

/-- What a request names that is let through when it is not the first. -/
theorem Transfer.names_of_check {transfer : Transfer} {number : Nat} {request : Message}
    {granted : Block} (hphase : transfer.phase = .awaiting number) (hnumber : number ≠ 0)
    (h : transfer.check request = .ok granted) :
    request.code = .get ∧ request.path = transfer.path ∧ ∃ block,
      request.block = .ok (some block) ∧ block.size = transfer.size ∧ block.more = false ∧
        block.number.val = number := by
  simp only [check, hphase] at h
  obtain ⟨hcode, hpath, requested, hblock, hgrant⟩ := checkAt_eq_ok_iff.1 h
  obtain ⟨hadmits, -⟩ := grant_eq_ok_iff.1 hgrant
  cases requested with
  | none => exact absurd hadmits hnumber
  | some block =>
      obtain ⟨hnamed, hmore, hsize⟩ := hadmits
      exact ⟨hcode, hpath, block, hblock, hsize hnumber, hmore, hnamed⟩

namespace Controller

variable {σ : Type} {behaviour : Client σ} {controller : Controller σ} {download : Download}
  {limit : Nat} {path : String} {payload : Bytes} {offered : BlockSize}
  {served more : List (Message × Message)}
  {ended : Except Failure Unit × Download × Controller σ}

/-- **A call that succeeds stops at its limit**, where that is inside the payload and
blocks end there. -/
theorem Stretch.length_eq
    (h : Stretch path payload offered controller download limit served more ended)
    (hok : ended.1 = .ok ()) (hinside : limit ≤ payload.length)
    (hfew : served.length * ended.2.1.transfer.size.bytes < limit)
    (hdvd : ended.2.1.transfer.size.bytes ∣ limit) :
    (served ++ more).length * ended.2.1.transfer.size.bytes = limit := by
  let size := ended.2.1.transfer.size
  let count := (served ++ more).length
  have hanswers : (Transfer.Log.answers ⟨ended.2.1.transfer, served ++ more⟩).length = count :=
    List.length_map _
  have hreached : limit ≤ count * size.bytes := by
    by_cases hcomplete : ended.2.1.transfer.phase = .complete
    · have hall := (h.sound.length_of_complete hcomplete).2
      rw [hanswers] at hall
      exact Nat.le_trans hinside hall
    · have hoffset := h.sound.readOffset_eq
      rw [hanswers] at hoffset
      rw [← hoffset]
      by_contra hbefore
      exact h.complete.1 hok ⟨Nat.lt_of_not_le hbefore, by simp [Transfer.isComplete, hcomplete]⟩
  -- The last block begins below the limit, and the limit is where some block begins.
  have hmore : served.length < count :=
    Nat.lt_of_mul_lt_mul_right (Nat.lt_of_lt_of_le hfew hreached)
  have hlast : (count - 1) * size.bytes < limit :=
    h.below (count - 1) (Nat.le_sub_one_of_lt hmore) (Nat.sub_one_lt_of_lt hmore)
  obtain ⟨place, hplace⟩ := hdvd
  have hlimit : limit = place * size.bytes := hplace.trans (Nat.mul_comm _ _)
  rw [hlimit] at hlast hreached ⊢
  have hlow : count - 1 < place := Nat.lt_of_mul_lt_mul_right hlast
  have hhigh : place ≤ count := Nat.le_of_mul_le_mul_right hreached size.bytes_pos
  exact congrArg (· * size.bytes) (show count = place by omega)

/-- With nothing queued, a request that was expected came from the peer. -/
theorem arrival_of_expected {after : Controller σ} {peer : Peer} {request : Message}
    (hpending : controller.line.endpoint.pending = [])
    (hpeer : controller.line.endpoint.peer = some peer)
    (h : expectRequest download controller = (.ok request, after)) :
    ∃ passed arrival, controller.arrivals = passed ++ arrival :: after.arrivals ∧
      arrival.datagram.messageFrom? peer.address = some request := by
  obtain ⟨hresult, rfl, -⟩ := expectRequest_of_ok h
  obtain ⟨-, hqueued | ⟨other, passed, arrival, hother, hsplit, hfrom⟩⟩ :=
    Endpoint.source_of_receiveRequest hresult
  · rw [hpending] at hqueued
    cases hqueued
  · cases hpeer.symm.trans hother
    exact ⟨passed, arrival, hsplit, hfrom⟩

end Controller

namespace Scenario

variable {σ : Type} {behaviour : Client σ}

/-! ## Interruptions -/

/-- What is done half way: it sends nothing, and if it succeeds, the client has moved
to another port. -/
structure Interrupts (interruption : Controlled σ Peer) : Prop where
  quiet : Controller.Quietly interruption
  moves : ∀ {before after : Controller σ} {current : Peer},
    interruption before = (.ok current, after) → Controller.Rebound before after current

theorem interrupts_reconnect (behaviour : Client σ) : Interrupts (Controller.reconnect behaviour) :=
  ⟨Controller.quietly_reconnect behaviour, Controller.reconnect_of_ok⟩

theorem interrupts_offlineThenOnline (behaviour : Client σ) :
    Interrupts (Controller.offlineThenOnline behaviour) :=
  ⟨Controller.quietly_offlineThenOnline behaviour, Controller.offlineThenOnline_of_ok⟩

/-! ## The course of a case -/

/-- Where half of the payload ends. -/
def half : Nat := payloadLength / 2

theorem transferTo_of_ok {download later : Download} {limit : Nat} {controller after : Controller σ}
    (h : interrupted.transferTo download limit controller = (.ok later, after)) :
    controller.transfer download limit = (.ok (), later, after) := by
  unfold interrupted.transferTo at h
  cases hended : controller.transfer download limit with
  | mk result rest =>
      rw [hended] at h
      cases result with
      | error failure => cases h
      | ok _ =>
          cases h
          rfl

/-- What is done in a case before the file is compared. -/
def stages (behaviour : Client σ) (destination : String) (chance : Chance)
    (interruption : Controlled σ Peer) : Controlled σ Download := do
  let download ← Controller.startDownload behaviour "/test" chance.payload destination
  let download ← interrupted.transferTo download (chance.payload.length / 2)
  let _ ← Controller.expectRequest download
  let _ ← interruption
  interrupted.transferTo download chance.payload.length

theorem course_eq (behaviour : Client σ) (destination : String) (chance : Chance)
    (interruption : Controlled σ Peer) :
    interrupted.course behaviour destination chance interruption =
      stages behaviour destination chance interruption >>= Controller.finish behaviour := by
  simp only [interrupted.course, stages, bind_assoc]

/-- Where a case begins: the client has forgotten its server, and nothing has come to the
controller yet. -/
def opening (behaviour : Client σ) (address : SocketAddress) (settings : Settings)
    (chance : Chance) (client : σ) : Controller σ :=
  let (reaction, client) := behaviour.obey .removeServer ⟨0, []⟩ client
  Controller.start (Endpoint.bind address .none chance.firstId) client reaction.delay settings

/-- A case that is passed has run its course from its opening. -/
theorem interrupted_of_ok {address : SocketAddress} {destination : String} {settings : Settings}
    {chance : Chance} {client : σ} {interruption : Controlled σ Peer}
    (h : (interrupted behaviour address destination settings chance client
      interruption).outcome = .ok ()) :
    ∃ closing,
      interrupted.course behaviour destination chance interruption
        (opening behaviour address settings chance client) = (.ok (), closing) ∧
      interrupted behaviour address destination settings chance client interruption =
        ⟨.ok (), closing.line.client, closing.sent⟩ := by
  unfold interrupted at h ⊢
  unfold opening
  cases hobeyed : behaviour.obey .removeServer ⟨0, []⟩ client with
  | mk reaction client' =>
      simp only [hobeyed] at h ⊢
      cases houtcome : reaction.outcome with
      | error failure =>
          rw [houtcome] at h
          cases h
      | ok _ =>
          simp only [houtcome] at h ⊢
          cases hcourse : interrupted.course behaviour destination chance interruption
              (Controller.start (Endpoint.bind address .none chance.firstId) client' reaction.delay
                settings) with
          | mk outcome closing =>
              rw [hcourse] at h
              cases h
              exact ⟨closing, rfl, rfl⟩

/-- The controllers that a case passes through before the file is compared, each of them
what the operation before it left, and what the operations gave. -/
structure Passage (behaviour : Client σ) (destination : String) (chance : Chance)
    (interruption : Controlled σ Peer) (opening : Controller σ) where
  /-- The download as it was started. -/
  began : Download
  ready : Controller σ
  started : Controller.startDownload behaviour "/test" chance.payload destination opening =
    (.ok began, ready)
  /-- The download when its first half was answered. -/
  download : Download
  halfway : Controller σ
  answered : ready.transfer began (chance.payload.length / 2) = (.ok (), download, halfway)
  /-- The request that was not answered. -/
  request : Message
  waiting : Controller σ
  expected : Controller.expectRequest download halfway = (.ok request, waiting)
  /-- The peer after the interruption. -/
  second : Peer
  back : Controller σ
  moved : interruption waiting = (.ok second, back)
  /-- The download when all of it was answered. -/
  whole : Download
  ended : Controller σ
  resumed : back.transfer download chance.payload.length = (.ok (), whole, ended)

/-- Stages that succeed are those of a passage. -/
theorem passage_of_stages {destination : String} {chance : Chance}
    {interruption : Controlled σ Peer} {opening ended : Controller σ} {whole : Download}
    (h : stages behaviour destination chance interruption opening = (.ok whole, ended)) :
    ∃ passage : Passage behaviour destination chance interruption opening,
      passage.whole = whole ∧ passage.ended = ended := by
  obtain ⟨began, ready, hstarted, h⟩ := ok_of_bind h
  obtain ⟨download, halfway, hanswered, h⟩ := ok_of_bind h
  obtain ⟨request, waiting, hexpected, h⟩ := ok_of_bind h
  obtain ⟨second, back, hmoved, hresumed⟩ := ok_of_bind h
  exact ⟨{
    began, ready, download, halfway, request, waiting, second, back, whole, ended
    started := hstarted
    answered := transferTo_of_ok hanswered
    expected := hexpected
    moved := hmoved
    resumed := transferTo_of_ok hresumed }, rfl, rfl⟩

/-! ## Stages -/

/-- A download of a payload whose blocks have gone out up to an offset. -/
structure Upto (offset : Nat) (destination : String) (payload : Bytes) (offered : BlockSize)
    (served : List (Message × Message)) (download : Download) : Prop where
  destination : download.destination = destination
  sound : Transfer.Log.Sound ⟨download.transfer, served⟩ (Path.normalize "/test") payload offered
  reached : served.length * download.transfer.size.bytes = offset

variable {destination : String} {payload : Bytes} {offered : BlockSize}
  {served : List (Message × Message)} {download later : Download} {before after : Controller σ}
  {offset limit : Nat}

/-- What has gone out are the blocks up to the offset. -/
theorem Upto.blocks (h : Upto offset destination payload offered served download) :
    Message.CarryBlocks (served.map (·.2)) payload download.transfer.size := by
  have hblocks := h.sound.blocks
  rw [← h.sound.size_eq] at hblocks
  exact hblocks

/-- So many they are. -/
theorem Upto.count (h : Upto offset destination payload offered served download)
    {sent : List Outgoing} (hsent : sent.map (·.message) = served.map (·.2)) :
    offset / download.transfer.size.bytes = sent.length := by
  have hlength := congrArg List.length hsent
  rw [List.length_map, List.length_map] at hlength
  rw [← h.reached, Nat.mul_div_cancel _ download.transfer.size.bytes_pos, hlength]

/-- A download in the middle of its payload awaits the block at the offset. -/
theorem Upto.awaits (h : Upto offset destination payload offered served download)
    (hinside : offset < payload.length) :
    download.transfer.phase = .awaiting served.length := by
  have hphase := h.sound.phase_eq
  have hlength : (Transfer.Log.answers ⟨download.transfer, served⟩).length = served.length :=
    List.length_map _
  rw [← h.sound.size_eq, hlength, if_pos (Or.inr (h.reached ▸ hinside))] at hphase
  exact hphase

/-- **The next stage.**  A call that succeeds takes a download to its limit, and the
blocks go to the peer. -/
theorem Upto.transfer (h : Upto offset destination payload offered served download)
    (horderly : before.line.endpoint.Orderly) {peer : Peer}
    (hpeer : before.line.endpoint.peer = some peer) (hless : offset < limit)
    (hinside : limit ≤ payload.length) (hdvd : BlockSize.largest.bytes ∣ limit)
    (hok : before.transfer download limit = (.ok (), later, after)) :
    ∃ more fresh, Upto limit destination payload offered (served ++ more) later ∧
      (served ≠ [] → later.transfer.size = download.transfer.size) ∧
      after.sent = before.sent ++ fresh ∧ fresh.map (·.message) = more.map (·.2) ∧
      (∀ outgoing ∈ fresh, outgoing.destination = peer.address) ∧
      after.line.endpoint.peer = some peer ∧ after.line.endpoint.Orderly ∧
      after.line.endpoint.pending <:+ before.line.endpoint.pending.tail := by
  obtain ⟨more, hstretch⟩ := Controller.exists_stretch before download limit horderly h.sound
  rw [hok] at hstretch
  obtain ⟨fresh, hsent, hfresh, hdestinations⟩ := hstretch.sent
  have hsize : served ≠ [] → later.transfer.size = download.transfer.size := by
    intro hserved
    rw [hstretch.sound.size_eq, h.sound.size_eq, Transfer.agreed_append hserved]
  have hfew : served.length * later.transfer.size.bytes < limit := by
    by_cases hserved : served = []
    · rw [hserved, List.length_nil, Nat.zero_mul]
      exact Nat.zero_lt_of_lt hless
    · rw [hsize hserved, h.reached]
      exact hless
  have hwants : Controller.Wants download limit := by
    have hoffset : download.transfer.readOffset = offset := by
      rw [← h.reached, h.sound.readOffset_eq]
      exact congrArg (· * _) (List.length_map _)
    have hphase := h.awaits (Nat.lt_of_lt_of_le hless hinside)
    exact ⟨by omega, by simp [Transfer.isComplete, hphase]⟩
  have hreached := hstretch.length_eq rfl hinside hfew
    (Nat.dvd_trans later.transfer.size.bytes_dvd_largest hdvd)
  refine ⟨more, fresh, ⟨hstretch.destination.trans h.destination, hstretch.sound, hreached⟩, hsize,
    hsent, hfresh, fun outgoing hmem => ?_, hstretch.peer.trans hpeer, hstretch.orderly,
    hstretch.front hwants⟩
  have hsame := hdestinations outgoing hmem
  rw [hpeer] at hsame
  exact (Option.some.inj hsame).symm

/-! ## The two halves -/

namespace Passage

variable {chance : Chance} {interruption : Controlled σ Peer} {opening : Controller σ}
  {passage : Passage behaviour destination chance interruption opening} {first : Peer}

variable (passage) in
/-- Half way, all that was sent are the blocks of the first half, to the peer, and nothing
is queued. -/
structure FirstHalf (offered : BlockSize) (served : List (Message × Message)) (first : Peer) :
    Prop where
  upto : Upto half destination chance.payload offered served passage.download
  messages : passage.halfway.sent.map (·.message) = served.map (·.2)
  destinations : ∀ outgoing ∈ passage.halfway.sent, outgoing.destination = first.address
  peer : passage.halfway.line.endpoint.peer = some first
  orderly : passage.halfway.line.endpoint.Orderly
  pending : passage.halfway.line.endpoint.pending = []

/-- To wait for the request has sent nothing. -/
theorem quiet_waiting (passage : Passage behaviour destination chance interruption opening) :
    Controller.Quiet passage.halfway passage.waiting := by
  have hquiet := Controller.quietly_expectRequest passage.download passage.halfway
  rw [passage.expected] at hquiet
  exact hquiet

/-- Every passage from an opening comes half way. -/
theorem exists_firstHalf {address : SocketAddress} {settings : Settings} {client : σ}
    (passage : Passage behaviour destination chance interruption
      (Scenario.opening behaviour address settings chance client))
    (hlength : chance.payload.length = payloadLength) :
    ∃ offered served first, passage.FirstHalf offered served first := by
  have hquiet := Controller.quietly_startDownload behaviour "/test" chance.payload destination
    (Scenario.opening behaviour address settings chance client)
  rw [passage.started] at hquiet
  have hnothing : passage.ready.sent = [] := hquiet.sent
  have hready := hquiet.orderly
    (Endpoint.orderly_reset (Endpoint.bind address .none chance.firstId))
  obtain ⟨offered, -, hbegan, hconnected, message, hpending⟩ :=
    Controller.startDownload_of_ok passage.started
  obtain ⟨first, hfirst⟩ := Option.isSome_iff_exists.1 hconnected
  have hbegun : Upto 0 destination chance.payload offered [] passage.began := by
    rw [hbegan]
    exact ⟨rfl, Transfer.sound_begin _ _ _, Nat.zero_mul _⟩
  have hanswered := passage.answered
  rw [hlength] at hanswered
  obtain ⟨served, fresh, hhalf, -, hsent, hmessages, hdestinations, hpeer, horderly, hqueue⟩ :=
    hbegun.transfer hready hfirst (by decide) (by rw [hlength]; decide) (by decide) hanswered
  rw [hnothing, List.nil_append] at hsent
  rw [hpending] at hqueue
  refine ⟨offered, served, first, hhalf, ?_, ?_, hpeer, horderly, List.suffix_nil.1 hqueue⟩
  · rw [hsent, hmessages]
  · rw [hsent]
    exact hdestinations

namespace FirstHalf

variable (h : passage.FirstHalf offered served first)

include h

theorem served_ne_nil : served ≠ [] := by
  intro hnone
  have hreached := h.upto.reached
  rw [hnone, List.length_nil, Nat.zero_mul] at hreached
  cases hreached

/-- **The request behind the first half** came from the peer, and it names the block at
the half. -/
theorem requested (hlength : chance.payload.length = payloadLength) :
    (∃ passed arrival, passage.halfway.arrivals = passed ++ arrival :: passage.waiting.arrivals ∧
        arrival.datagram.messageFrom? first.address = some passage.request) ∧
      passage.request.code = .get ∧ passage.request.path = "/test" ∧
      ∃ block, passage.request.block = .ok (some block) ∧
        block.size = passage.download.transfer.size ∧ block.more = false ∧
        block.number.val * passage.download.transfer.size.bytes = half := by
  have hserved : served.length ≠ 0 := fun hnone =>
    h.served_ne_nil (List.length_eq_zero_iff.1 hnone)
  have hawaits := h.upto.awaits (by rw [hlength]; decide)
  obtain ⟨-, -, granted, hcheck⟩ := Controller.expectRequest_of_ok passage.expected
  obtain ⟨hcode, hpath, block, hblock, hsize, hmore, hnumber⟩ :=
    Transfer.names_of_check hawaits hserved hcheck
  refine ⟨Controller.arrival_of_expected h.pending h.peer passage.expected, hcode, ?_, block,
    hblock, hsize, hmore, ?_⟩
  · rw [hpath, h.upto.sound.path_eq]
    decide
  · rw [hnumber]
    exact h.upto.reached

/-- The interruption has sent nothing, and the client has moved. -/
theorem rebound (hinterrupts : Interrupts interruption) :
    passage.second.port ≠ first.port ∧ Controller.Quiet passage.waiting passage.back ∧
      passage.back.line.endpoint.peer = some passage.second := by
  obtain ⟨-, hwaiting, -⟩ := Controller.expectRequest_of_ok passage.expected
  have hsame : passage.waiting.line.endpoint.peer = some first := by
    rw [hwaiting]
    exact (passage.halfway.line.endpoint.receiveRequest_keeps _ _).1.trans h.peer
  obtain ⟨previous, hprevious, hsecond, hport⟩ := hinterrupts.moves passage.moved
  cases hsame.symm.trans hprevious
  have hquiet := hinterrupts.quiet passage.waiting
  rw [passage.moved] at hquiet
  exact ⟨hport, hquiet, hsecond⟩

/-- **The second half** goes to the peer behind the interruption, at the same size. -/
theorem second (hinterrupts : Interrupts interruption)
    (hlength : chance.payload.length = payloadLength) :
    ∃ more fresh,
      Upto payloadLength destination chance.payload offered (served ++ more) passage.whole ∧
      passage.whole.transfer.size = passage.download.transfer.size ∧
      passage.ended.sent = passage.halfway.sent ++ fresh ∧
      fresh.map (·.message) = more.map (·.2) ∧
      ∀ outgoing ∈ fresh, outgoing.destination = passage.second.address := by
  obtain ⟨-, hquiet, hpeer⟩ := h.rebound hinterrupts
  have hresumed := passage.resumed
  rw [hlength] at hresumed
  obtain ⟨more, fresh, hwhole, hagreed, hsent, hmessages, hdestinations, -⟩ :=
    h.upto.transfer (hquiet.orderly (passage.quiet_waiting.orderly h.orderly)) hpeer (by decide)
      (Nat.le_of_eq hlength.symm) (by decide) hresumed
  rw [hquiet.sent, passage.quiet_waiting.sent] at hsent
  exact ⟨more, fresh, hwhole, hagreed h.served_ne_nil, hsent, hmessages, hdestinations⟩

end FirstHalf

/-! ## Resumed downloads -/

variable (passage) in
/-- The blocks of the payload, all of the size agreed on, went out in two halves: the first
half to one peer, and the second half to another one, after an interruption. -/
structure Halves (first : Peer) : Prop where
  /-- The client has moved to another port. -/
  rebound : passage.second.port ≠ first.port
  /-- One size was agreed on for both halves. -/
  agreed : passage.download.transfer.size = passage.whole.transfer.size
  /-- All blocks went out, each exactly once and in order, and nothing else. -/
  blocks : Message.CarryBlocks (passage.ended.sent.map (·.message)) chance.payload
    passage.whole.transfer.size
  count : passage.ended.sent.length = payloadLength / passage.whole.transfer.size.bytes
  /-- Those below the half went to the first peer, the others to the second. -/
  before : ∀ outgoing ∈ passage.ended.sent.take (half / passage.whole.transfer.size.bytes),
    outgoing.destination = first.address
  behind : ∀ outgoing ∈ passage.ended.sent.drop (half / passage.whole.transfer.size.bytes),
    outgoing.destination = passage.second.address
  /-- Half way the blocks below the half had gone out, and the first peer was connected. -/
  halfway_sent : passage.halfway.sent =
    passage.ended.sent.take (half / passage.whole.transfer.size.bytes)
  halfway_peer : passage.halfway.line.endpoint.peer = some first
  /-- From there on until the interruption, a request came from the first peer. -/
  received : ∃ passed arrival,
    passage.halfway.arrivals = passed ++ arrival :: passage.waiting.arrivals ∧
      arrival.datagram.messageFrom? first.address = some passage.request
  /-- It was a valid one for the block at the half. -/
  valid : passage.request.code = .get ∧ passage.request.path = "/test" ∧
    ∃ block, passage.request.block = .ok (some block) ∧
      block.size = passage.whole.transfer.size ∧ block.more = false ∧
      block.number.val * passage.whole.transfer.size.bytes = half

variable (passage) in
/-- A download that was resumed half way, at the first block that the first peer did not
get, and that was finished. -/
structure Resumed (first : Peer) (report : Report σ) : Prop where
  halves : passage.Halves first
  sent_eq : report.sent = passage.ended.sent
  /-- When the client said that it had no socket open any more, the file was the
  payload. -/
  closed : ∃ closing before,
    Controller.finish behaviour passage.whole passage.ended = (.ok (), closing) ∧
      closing.line.client = report.client ∧
      behaviour.socketCount ⟨closing.line.now, report.sent⟩ before = (.ok 0, report.client)
  file : behaviour.file destination report.client = some chance.payload

/-- **Both halves.**  What was half way and was answered to the end went out in two
halves. -/
theorem FirstHalf.halves (h : passage.FirstHalf offered served first)
    (hinterrupts : Interrupts interruption) (hlength : chance.payload.length = payloadLength) :
    passage.Halves first := by
  obtain ⟨more, fresh, hwhole, hagreed, hsent, hmessages, hdestinations⟩ :=
    h.second hinterrupts hlength
  obtain ⟨hreceived, hcode, hpath, block, hblock, hsize, hmore, hnumber⟩ := h.requested hlength
  have hjoined : passage.ended.sent.map (·.message) = (served ++ more).map (·.2) := by
    rw [hsent, List.map_append, List.map_append, h.messages, hmessages]
  have hplace : half / passage.whole.transfer.size.bytes = passage.halfway.sent.length := by
    rw [hagreed]
    exact h.upto.count h.messages
  rw [← hagreed] at hsize hnumber
  constructor
  case rebound => exact (h.rebound hinterrupts).1
  case agreed => exact hagreed.symm
  case blocks =>
    rw [hjoined]
    exact hwhole.blocks
  case count => exact (hwhole.count hjoined).symm
  case before =>
    rw [hplace, hsent, List.take_left]
    exact h.destinations
  case behind =>
    rw [hplace, hsent, List.drop_left]
    exact hdestinations
  case halfway_sent => rw [hplace, hsent, List.take_left]
  case halfway_peer => exact h.peer
  case received => exact hreceived
  case valid => exact ⟨hcode, hpath, block, hblock, hsize, hmore, hnumber⟩

/-- **Every passage from an opening has both halves**, and what is finished in the end is
the download that was asked for. -/
theorem exists_halves {address : SocketAddress} {settings : Settings} {client : σ}
    (passage : Passage behaviour destination chance interruption
      (Scenario.opening behaviour address settings chance client))
    (hinterrupts : Interrupts interruption) (hlength : chance.payload.length = payloadLength) :
    (∃ first, passage.Halves first) ∧ passage.whole.destination = destination ∧
      passage.whole.transfer.payload = chance.payload := by
  obtain ⟨offered, served, first, hhalf⟩ := passage.exists_firstHalf hlength
  obtain ⟨more, -, hwhole, -⟩ := hhalf.second hinterrupts hlength
  exact ⟨⟨first, hhalf.halves hinterrupts hlength⟩, hwhole.destination, hwhole.sound.payload_eq⟩

end Passage

/-! ## Main result -/

/-- A case that has run its course was resumed half way. -/
theorem resumed_of_course {interruption : Controlled σ Peer} (h : Interrupts interruption)
    {chance : Chance} (hlength : chance.payload.length = payloadLength)
    {address : SocketAddress} {client : σ} {settings : Settings} {closing : Controller σ}
    (hcourse : interrupted.course behaviour destination chance interruption
      (opening behaviour address settings chance client) = (.ok (), closing)) :
    ∃ (passage : Passage behaviour destination chance interruption
        (opening behaviour address settings chance client)) (first : Peer),
      passage.Resumed first ⟨.ok (), closing.line.client, closing.sent⟩ := by
  rw [course_eq] at hcourse
  obtain ⟨whole, ended, hstages, hfinish⟩ := ok_of_bind hcourse
  obtain ⟨passage, rfl, rfl⟩ := passage_of_stages hstages
  obtain ⟨⟨first, hhalves⟩, hdestination, hpayload⟩ := passage.exists_halves h hlength
  obtain ⟨hendpoint, ⟨before, hclosed⟩, hfile⟩ := Controller.finish_of_ok hfinish
  have hsent : closing.sent = passage.ended.sent := congrArg (·.socket.sent) hendpoint
  rw [← hsent] at hclosed
  rw [hdestination, hpayload] at hfile
  exact ⟨passage, first, hhalves, hsent, ⟨closing, before, hfinish, rfl, hclosed⟩, hfile⟩

/-- **The two cases are passed by resuming and by nothing else.**  Whatever the client
does on commands, whatever it says and sends, and when: if a case is passed, then
the download was resumed half way on a second connection from another port, no block
was sent twice or left out, and the file is the payload.  All of this is said of the
controllers that this run of the case has passed through. -/
theorem resumed_of_ok (behaviour : Client σ) (address : SocketAddress) (destination : String)
    (settings : Settings) (chance : Chance) (client : σ)
    (hlength : chance.payload.length = payloadLength) :
    (∀ report, reconnection behaviour address destination settings chance client = report →
      report.outcome = .ok () →
        ∃ (passage : Passage behaviour destination chance (Controller.reconnect behaviour)
          (opening behaviour address settings chance client)) (first : Peer),
          passage.Resumed first report) ∧
      ∀ report, offline behaviour address destination settings chance client = report →
        report.outcome = .ok () →
          ∃ (passage : Passage behaviour destination chance
            (Controller.offlineThenOnline behaviour)
            (opening behaviour address settings chance client)) (first : Peer),
            passage.Resumed first report := by
  have hcase {interruption : Controlled σ Peer} (h : Interrupts interruption) :
      ∀ report, interrupted behaviour address destination settings chance client interruption =
        report → report.outcome = .ok () →
          ∃ (passage : Passage behaviour destination chance interruption
            (opening behaviour address settings chance client)) (first : Peer),
            passage.Resumed first report := by
    rintro report rfl hok
    obtain ⟨closing, hcourse, hreport⟩ := interrupted_of_ok hok
    rw [hreport]
    exact resumed_of_course h hlength hcourse
  exact ⟨hcase (interrupts_reconnect behaviour), hcase (interrupts_offlineThenOnline behaviour)⟩

/-! ## A client that passes -/

/-- The resource, in which all bytes are the same. -/
def resource : Bytes := List.replicate payloadLength 7

/-- Requests for blocks of 1024 bytes, all at once and from one port. -/
def requestsFrom (port : UInt16) (numbers : List UInt8) : List (Nat × Datagram) :=
  numbers.map fun number => (0, ⟨.v4 127 0 0 1 port,
    [0x41, 0x01, 0x00, number, 0x01, 0xB4, 0x74, 0x65, 0x73, 0x74, 0xC1, 16 * number + 6]⟩)

/-- A client that asks for the blocks of the first half and the one behind it, and for
those of the second half when it is told to reconnect.  From then on its socket is
closed. -/
def returning : Client Bool where
  obey command _ client :=
    let (datagrams, client) :=
      match command with
      | .download _ _ _ => (requestsFrom 40001 [0, 1, 2, 3, 4, 5, 6, 7, 8], client)
      | .reconnect _ => (requestsFrom 40002 [8, 9, 10, 11, 12, 13, 14, 15], true)
      | _ => ([], client)
    ({ outcome := .ok (), delay := 0, datagrams }, client)
  reply _ _ client := ([], client)
  socketCount _ client := (.ok (if client then 0 else 1), client)
  socketTransport _ _ := .ok .udp
  file _ _ := some resource

/-- A client whose file is the payload passes if all that is done before the file is
compared succeeds. -/
theorem outcome_of_run {interruption : Controlled σ Peer} (h : Interrupts interruption)
    {chance : Chance} (hlength : chance.payload.length = payloadLength)
    {address : SocketAddress} {settings : Settings} {client : σ}
    (hremoved : (behaviour.obey .removeServer ⟨0, []⟩ client).1.outcome = .ok ())
    (hfile : ∀ client, behaviour.file destination client = some chance.payload)
    (hrun : ((do
        let _ ← stages behaviour destination chance interruption
        Controller.awaitSocketCount behaviour 0 (← get).settings.completionTimeout :
          Controlled σ Unit)
      (opening behaviour address settings chance client)).1 = .ok ()) :
    ∀ report, interrupted behaviour address destination settings chance client interruption =
      report → report.outcome = .ok () := by
  rintro report rfl
  obtain ⟨whole, ended, hstages, hrun⟩ := ok_of_bind (Prod.ext hrun rfl)
  obtain ⟨_, _, hget, hclosed⟩ := ok_of_bind hrun
  cases hget
  obtain ⟨passage, rfl, rfl⟩ := passage_of_stages hstages
  obtain ⟨-, hdestination, hpayload⟩ := passage.exists_halves h hlength
  have hverified (client : σ) : behaviour.verifyFile client passage.whole.destination
      passage.whole.transfer.payload = .ok () := by
    simp [Client.verifyFile, hdestination, hpayload, hfile]
  have hcourse : (interrupted.course behaviour destination chance interruption
      (opening behaviour address settings chance client)).1 = .ok () := by
    rw [course_eq, bind_of_ok hstages, Controller.finish,
      bind_of_ok (get_eq _), bind_of_ok hclosed,
      bind_of_ok (get_eq _), hverified]
    rfl
  simp only [interrupted, hremoved]
  exact hcourse

/-- It passes the case with a reset. -/
theorem resumed_of_ok_returning :
    let chance : Chance := ⟨resource, fun _ => [], fun _ => 0, 0⟩
    let report := reconnection returning (.v4 127 0 0 1 5683) "file" Settings.standard chance false
    chance.payload.length = payloadLength ∧ report.outcome = .ok () ∧
      ∃ (passage : Passage returning "file" chance (Controller.reconnect returning)
        (opening returning (.v4 127 0 0 1 5683) Settings.standard chance false)) (first : Peer),
        passage.Resumed first report := by
  intro chance report
  have hlength : chance.payload.length = payloadLength := List.length_replicate
  have hok : report.outcome = .ok () :=
    outcome_of_run (interrupts_reconnect returning) hlength rfl (fun _ => rfl)
      (by decide +kernel) report rfl
  exact ⟨hlength, hok, (resumed_of_ok returning (.v4 127 0 0 1 5683) "file" Settings.standard chance
    false hlength).1 report rfl hok⟩

end Scenario
end Blockwise
