import Blockwise.Proofs.Poll
import Blockwise.Proofs.Server.Repetition
import Blockwise.Proofs.Steps
import Blockwise.Scenario

/-!
# A client that downloads as it should

In a case with a file server the client is told to download the resource, and then
looked at again and again until it has closed its socket.  Here the server ignores
block `n` of the download `n % 4` times.

* `Scenario.Trial` — the case with the download that its client goes about;
  `Trial.Downloads` says that it goes about it as it should.
* `Trial.Underway` — what every look at the client finds until the last one.
* `Trial.Downloads.course` — the case runs its course, and the server has answered all
  blocks of the size agreed on.
-/

namespace Blockwise

/-! ## Receiving everything -/

/-- Whether a peer was sent every block of a download. -/
def Fetch.Received (fetch : Fetch) (peer : Peer) (received : List Outgoing) : Prop :=
  ∀ number < fetch.blocks, ∃ outgoing ∈ received, outgoing.destination = peer.address ∧
    outgoing.message.CarriesBlock fetch.payload fetch.size number

instance (fetch : Fetch) (peer : Peer) (received : List Outgoing) :
    Decidable (fetch.Received peer received) :=
  inferInstanceAs (Decidable (∀ number < fetch.blocks, ∃ outgoing ∈ received,
    outgoing.destination = peer.address ∧
      outgoing.message.CarriesBlock fetch.payload fetch.size number))

/-- The peer has received everything when all blocks were answered, and not before. -/
theorem Server.HasHeard.received_iff {server : Server} {fetch : Fetch} {peer : Peer}
    {arrivals : List Arrival} {numbers : List Nat} {heard : Nat}
    (h : server.HasHeard fetch peer arrivals numbers heard) (hverbatim : fetch.Verbatim)
    (hturn : fetch.InTurn .begin numbers) :
    fetch.Received peer server.endpoint.socket.sent ↔
      (Headway.begin.askAll fetch.backoff (numbers.take heard)).number = fetch.blocks := by
  rw [← List.take_append_drop heard numbers, Fetch.inTurn_append] at hturn
  have hsent := Fetch.mem_sent_askAll hturn.1 (by simp [Headway.begin])
  have hle := h.stands.number_le
  rw [h.stands.sent_eq]
  generalize Headway.begin.askAll fetch.backoff (numbers.take heard) = headway at hsent hle ⊢
  constructor
  · intro hreceived
    have hpos := fetch.blocks_pos
    obtain ⟨outgoing, hmem, -, hcarries⟩ := hreceived (fetch.blocks - 1) (by omega)
    obtain ⟨number, hnumber, rfl⟩ := List.mem_map.1 hmem
    have hlt := (hsent number).1 hnumber
    have hsame := (hverbatim.carriesBlock_answer (by omega)).unique hcarries
    omega
  · intro hall number hlt
    refine ⟨_, List.mem_map_of_mem ((hsent number).2 (hall ▸ hlt)), rfl, ?_⟩
    exact hverbatim.carriesBlock_answer hlt

/-! ## The client -/

namespace Scenario

variable {σ : Type}

/-- A case, and the download that its client goes about. -/
structure Trial (σ : Type) where
  behaviour : Client σ
  client : σ
  address : SocketAddress
  destination : String
  settings : Settings
  chance : Chance
  /-- The block size that the server offers. -/
  offered : BlockSize
  /-- The block size that the client asks for, if it asks for one. -/
  wish : Option BlockSize
  /-- The request of the client for each block. -/
  request : Nat → Message
  /-- The blocks that it asks for, one request after the other. -/
  numbers : List Nat
  /-- Where its requests come from. -/
  peer : Peer
  /-- How many sockets it has open before. -/
  baseline : Nat
  /-- The states that it is in while it downloads. -/
  busy : σ → Prop

namespace Trial

variable {trial : Trial σ} {scene : Scene σ} {time due : Nat}

/-- The download. -/
def fetch (trial : Trial σ) : Fetch where
  path := "/"
  payload := trial.chance.payload
  offered := trial.offered
  backoff := .standard
  wish := trial.wish
  request number _ _ := trial.request number

/-- What the client does when it is asked for its sockets and then told to download. -/
def told (trial : Trial σ) : Reaction × σ :=
  trial.behaviour.obey
    (.download ((Store.empty trial.address Security.none.scheme).uri "/") trial.destination none)
    ⟨0, []⟩ (trial.behaviour.socketCount ⟨0, []⟩ trial.client).2

/-- What comes from the client then. -/
def coming (trial : Trial σ) : List Arrival :=
  trial.told.1.datagrams.map fun sent => ⟨sent.1, sent.2⟩

/-- How much of it has come by a point in time. -/
def comeBy (trial : Trial σ) (time : Nat) : Nat :=
  (Socket.dueBy (some time) trial.coming).length

/-- When the case looks at the client's sockets for the last time. -/
def lastLook (trial : Trial σ) : Nat := trial.told.1.delay + trial.settings.completionTimeout

/-- The client downloads as it should.  Its requests come in order and in turn, each as
often as it likes, and enough of them by the deadline.  It has its socket open until it
has received every block, and closed by the deadline if it has; with the socket closed
the file is written. -/
structure Downloads (trial : Trial σ) : Prop where
  conforms : trial.fetch.Conforms
  counts : (trial.behaviour.socketCount ⟨0, []⟩ trial.client).1 = .ok trial.baseline
  obeys : trial.told.1.outcome = .ok ()
  begins : trial.busy trial.told.2
  sends : trial.fetch.Comes trial.peer trial.coming trial.numbers
  ordered : Socket.InOrder trial.coming
  inTurn : trial.fetch.InTurn .begin trial.numbers
  /-- What has been asked for by the deadline is enough for all blocks. -/
  inTime : (Headway.begin.askAll .standard
    (trial.numbers.take (trial.comeBy trial.lastLook))).number = trial.fetch.blocks
  /-- It always says how many sockets are open, and goes on while there are more. -/
  tells : ∀ observed client, trial.busy client → ∃ count,
    (trial.behaviour.socketCount observed client).1 = .ok count ∧
      (count ≠ trial.baseline → trial.busy (trial.behaviour.socketCount observed client).2)
  /-- By the deadline its socket is closed if it has received every block. -/
  closes : ∀ observed client, trial.busy client → observed.now = trial.lastLook →
    trial.fetch.Received trial.peer observed.received →
    (trial.behaviour.socketCount observed client).1 = .ok trial.baseline
  /-- Its socket is not closed before, and the file is written by then. -/
  finishes : ∀ observed client, trial.busy client →
    (trial.behaviour.socketCount observed client).1 = .ok trial.baseline →
    trial.fetch.Received trial.peer observed.received ∧
      trial.behaviour.file trial.destination (trial.behaviour.socketCount observed client).2 =
        some trial.chance.payload

/-- Each of its requests is always the same. -/
theorem Downloads.verbatim (h : trial.Downloads) : trial.fetch.Verbatim :=
  { h.conforms with unchanged := fun _ _ _ _ => rfl }

theorem comeBy_le (trial : Trial σ) (hle : time ≤ due) : trial.comeBy time ≤ trial.comeBy due :=
  Socket.length_dueBy_le hle trial.coming

/-! ## The course of the case -/

/-- The scene in which the case begins. -/
def opening (trial : Trial σ) : Scene σ where
  server := Server.fresh (Endpoint.bind trial.address .none trial.chance.firstId)
    ModuloBackoff.standard.gate trial.settings trial.offered
  client := trial.client
  now := 0
  settings := trial.settings
  control := none

/-- The server has heard so many of the client's requests. -/
def HasHeard (trial : Trial σ) (scene : Scene σ) (heard : Nat) : Prop :=
  scene.server.HasHeard trial.fetch trial.peer trial.coming trial.numbers heard

/-- The client is busy with its download, and the server has heard nothing that comes
later than this. -/
structure Underway (trial : Trial σ) (time : Nat) (scene : Scene σ) : Prop where
  busy : trial.busy scene.client
  control : scene.control = none
  heard : ∃ heard ≤ trial.comeBy time, trial.HasHeard scene heard

theorem Underway.later (h : trial.Underway time scene) (hle : time ≤ due) :
    trial.Underway due scene := by
  obtain ⟨heard, hcome, hheard⟩ := h.heard
  exact ⟨h.busy, h.control, heard, Nat.le_trans hcome (trial.comeBy_le hle), hheard⟩

/-- A server that catches up with the time hears all that has come. -/
theorem HasHeard.settle {heard : Nat} (hheard : trial.HasHeard scene heard) (h : trial.Downloads)
    (hle : heard ≤ trial.comeBy scene.now) :
    trial.HasHeard scene.settle (trial.comeBy scene.now) :=
  hheard.run h.verbatim h.sends h.inTurn scene.now hle

/-- The download starts. -/
theorem Downloads.start (h : trial.Downloads) :
    ∃ scene, Scene.startDownload trial.behaviour trial.chance.payload trial.destination none
        trial.opening = (.ok trial.baseline, scene) ∧
      scene.now = trial.told.1.delay ∧ scene.settings = trial.settings ∧
      trial.Underway scene.now scene := by
  let store := (Store.empty trial.address Security.none.scheme).set "/" trial.chance.payload
  let asked := { trial.opening with
    client := (trial.behaviour.socketCount ⟨0, []⟩ trial.client).2 }
  let before := { asked with server := { asked.server with store } }
  let after := { { before with client := trial.told.2 }.deliver 0 trial.told.1.datagrams with
    now := 0 + trial.told.1.delay }
  have hcount : Scene.socketCount trial.behaviour trial.opening = (.ok trial.baseline, asked) :=
    Prod.ext h.counts rfl
  have hcommand : Scene.command trial.behaviour (.download
      ((Store.empty trial.address Security.none.scheme).uri "/") trial.destination none) before =
        (.ok (), after.settle) :=
    Prod.ext h.obeys rfl
  have hstart : Scene.startDownload trial.behaviour trial.chance.payload trial.destination none
      trial.opening = (.ok trial.baseline, after.settle) :=
    (bind_of_ok hcount).trans (bind_of_ok hcommand)
  have hordered : trial.told.1.datagrams.Pairwise fun earlier later => earlier.1 ≤ later.1 := by
    have hinOrder := h.ordered
    rwa [Socket.InOrder, coming, List.pairwise_map] at hinOrder
  have harrivals : after.server.endpoint.socket.arrivals = trial.coming := by
    refine (@Socket.arrivals_deliverAll (Socket.bind trial.address) 0 _ hordered
      fun _ hmem => absurd hmem List.not_mem_nil).trans ?_
    simp only [Nat.zero_add]
    rfl
  have hfresh := @Server.hasHeard_fresh trial.fetch after.server.endpoint
    (Socket.sent_deliverAll _ _ _) rfl trial.settings store (Store.get_set _ _ _) trial.peer
    trial.numbers
  rw [harrivals] at hfresh
  have hheard : trial.HasHeard after 0 := hfresh
  exact ⟨_, hstart, Nat.zero_add _, rfl, h.begins, rfl, _, Nat.le_refl _,
    hheard.settle h (Nat.zero_le _)⟩

/-- Whether the client has only those sockets open that it had before. -/
def looksClosed (trial : Trial σ) : InScene σ Bool := do
  let count ← Scene.socketCount trial.behaviour
  return count == trial.baseline

/-- **One look at the client.**  Either the download is over, or it goes on and there will
be another look. -/
theorem Downloads.look (h : trial.Downloads) (hle : scene.now ≤ trial.lastLook)
    (hunderway : trial.Underway scene.now scene) :
    ∃ found after, trial.looksClosed scene = (.ok found, after) ∧
      trial.HasHeard after (trial.comeBy scene.now) ∧
      (found = true → trial.fetch.Received trial.peer after.server.endpoint.socket.sent ∧
        trial.behaviour.file trial.destination after.client = some trial.chance.payload) ∧
      (found = false → scene.now < trial.lastLook ∧ trial.Underway scene.now after) := by
  obtain ⟨hbusy, hcontrol, heard, hdue, hearlier⟩ := hunderway
  have hheard := hearlier.settle h hdue
  have hsent : scene.settle.sent = scene.settle.server.endpoint.socket.sent := by
    rw [Scene.sent, show scene.settle.control = none from hcontrol]
    exact List.append_nil _
  obtain ⟨count, hcount, hgoes⟩ := h.tells scene.settle.observed scene.client hbusy
  have hasked : Scene.socketCount trial.behaviour scene = (.ok count, { scene.settle with
      client := (trial.behaviour.socketCount scene.settle.observed scene.client).2 }) :=
    Prod.ext hcount rfl
  refine ⟨count == trial.baseline, _, bind_of_ok hasked, hheard, fun hfound => ?_, fun hmore => ?_⟩
  · rw [beq_iff_eq.1 hfound] at hcount
    obtain ⟨hreceived, hfile⟩ := h.finishes scene.settle.observed scene.client hbusy hcount
    exact ⟨hsent ▸ hreceived, hfile⟩
  · replace hmore : count ≠ trial.baseline := beq_eq_false_iff_ne.1 hmore
    refine ⟨Nat.lt_of_le_of_ne hle fun hlast => hmore ?_, hgoes hmore, hcontrol, _, Nat.le_refl _,
      hheard⟩
    -- At the deadline all blocks have been received, and so the socket is closed.
    have hreceived : trial.fetch.Received trial.peer scene.settle.sent := by
      rw [hsent, Server.HasHeard.received_iff hheard h.verbatim h.inTurn, hlast]
      exact h.inTime
    have hclosed := h.closes scene.settle.observed scene.client hbusy hlast hreceived
    exact Except.ok.inj (hcount.symm.trans hclosed)

/-- The wait for the end of the download succeeds, and when it does, the file is written
and all blocks were answered. -/
theorem Downloads.await (h : trial.Downloads) (hnow : scene.now = trial.told.1.delay)
    (hsettings : scene.settings = trial.settings) (hunderway : trial.Underway scene.now scene) :
    ∃ after headway, Scene.awaitCompletion trial.behaviour trial.baseline scene = (.ok (), after) ∧
      trial.behaviour.file trial.destination after.client = some trial.chance.payload ∧
      after.settle.server.StandsBy trial.fetch trial.peer headway ∧
      headway.number = trial.fetch.blocks := by
  let limit := scene.settings.completionTimeout
  let look (elapsed : Nat) (later : Scene σ) :=
    trial.looksClosed { later with now := scene.now + elapsed }
  have hlast : trial.lastLook = scene.now + limit := by
    rw [hnow, show limit = trial.settings.completionTimeout by rw [← hsettings]]
    rfl
  have hlook {elapsed : Nat} {later : Scene σ} (hle : elapsed ≤ limit)
      (hlater : trial.Underway (scene.now + elapsed) later) :=
    @Downloads.look _ trial { later with now := scene.now + elapsed } h
      (by rw [hlast]; exact Nat.add_le_add_left hle _) { hlater with }
  have hgoes : ∀ elapsed later, elapsed ≤ limit → trial.Underway (scene.now + elapsed) later →
      ∃ found, (look elapsed later).1 = .ok found ∧ (found = false →
        elapsed < limit ∧ trial.Underway (scene.now + elapsed) (look elapsed later).2) := by
    intro elapsed later hle hlater
    obtain ⟨found, after, hlooked, -, -, hmore⟩ := hlook hle hlater
    refine ⟨found, congrArg Prod.fst hlooked, fun hnot => ?_⟩
    obtain ⟨hearly, hstill⟩ := hmore hnot
    rw [hlast] at hearly
    exact ⟨Nat.lt_of_add_lt_add_left hearly, (congrArg Prod.snd hlooked).symm ▸ hstill⟩
  obtain ⟨hready, before, hinTime, hbefore, hfound⟩ := Poll.wait_ready
    (fun elapsed => trial.Underway (scene.now + elapsed)) limit scene.settings.pollInterval
    (fun _ _ _ hle hearlier => hearlier.later (Nat.add_le_add_left hle _)) hgoes hunderway
  obtain ⟨found, after, hlooked, hheard, hover, -⟩ := hlook hinTime hbefore
  cases hlooked.symm.trans hfound
  obtain ⟨hreceived, hfile⟩ := hover rfl
  have hawaited := congrArg (Poll.Outcome.result (.timeout (.socketCount trial.baseline))) hready
  have hafter : trial.HasHeard (Scene.awaitCompletion trial.behaviour trial.baseline scene).2 _ :=
    hheard
  exact ⟨_, _, Prod.ext hawaited rfl, hfile, (hafter.settle h (Nat.le_refl _)).stands,
    (Server.HasHeard.received_iff hheard h.verbatim h.inTurn).1 hreceived⟩

/-- **The case runs its course**, and the server has answered all blocks of the size
agreed on. -/
theorem Downloads.course (h : trial.Downloads) :
    ∃ after headway, (do
        let baseline ← Scene.startDownload trial.behaviour trial.chance.payload trial.destination
          none
        Scene.awaitCompletion trial.behaviour baseline
        Scene.verifyFile trial.behaviour trial.destination trial.chance.payload : InScene σ Unit)
          trial.opening = (.ok (), after) ∧
      after.settle.server.StandsBy trial.fetch trial.peer headway ∧
      headway.number = trial.fetch.blocks := by
  obtain ⟨scene, hstart, hnow, hsettings, hunderway⟩ := h.start
  obtain ⟨after, headway, hawait, hfile, hstands, hall⟩ := h.await hnow hsettings hunderway
  have hverify : Scene.verifyFile trial.behaviour trial.destination trial.chance.payload after =
      (.ok (), after) := by
    simp [Scene.verifyFile, Client.verifyFile, hfile]
  refine ⟨after, headway, ?_, hstands, hall⟩
  rw [bind_of_ok hstart, bind_of_ok hawait, hverify]

end Trial
end Scenario
end Blockwise
