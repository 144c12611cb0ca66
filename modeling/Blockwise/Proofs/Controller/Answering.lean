import Blockwise.Proofs.Controller.Interruption
import Blockwise.Proofs.Endpoint.Requests
import Blockwise.Proofs.Server.Isolation

/-!
# Answering by hand

A controller answers the requests of one download until a limit is reached or
something fails.  Whatever it comes to, the transfer has moved on by the blocks
that went out and by no others.

* `Controller.transfer_of_request` and its siblings — one turn of the loop.
* `Controller.Stretch` — what a call comes to; `Controller.exists_stretch` says so of
  every call, by induction on its turns.
-/

namespace Blockwise

namespace Transfer.Log

variable {log : Log} {path : String} {payload : Bytes} {offered : BlockSize}

/-- The next block begins behind those that were sent. -/
theorem Sound.readOffset_eq (h : log.Sound path payload offered) :
    log.transfer.readOffset = log.answers.length * log.transfer.size.bytes := by
  rw [readOffset]
  by_cases hcomplete : log.transfer.phase = .complete
  · rw [next, hcomplete]
    exact congrArg (· * _) (h.blockCount_eq hcomplete)
  · rw [h.next_eq hcomplete]

/-- Block by block the answers carry the payload up to where the next one begins. -/
theorem Sound.flatMap_payload (h : log.Sound path payload offered) :
    log.answers.flatMap (·.payload) =
      payload.take (min log.transfer.readOffset payload.length) := by
  rw [Message.flatMap_payload_of_carryBlocks h.blocks, ← h.size_eq, ← h.readOffset_eq,
    List.take_eq_take_iff]
  omega

end Transfer.Log

namespace Controller

variable {σ : Type} {behaviour : Client σ} {controller after : Controller σ}
  {download later : Download} {limit : Nat}

/-! ## One turn -/

/-- Whether there is more to answer up to a limit. -/
def Wants (download : Download) (limit : Nat) : Prop :=
  download.transfer.readOffset < limit ∧ (!download.transfer.isComplete) = true

/-- A controller when its endpoint has waited. -/
def waited {α : Type} (controller : Controller σ) (waited : Waited α) : Controller σ :=
  { controller with
    line := { controller.line with endpoint := waited.endpoint, now := waited.time } }

/-- A controller with another endpoint. -/
def withEndpoint (controller : Controller σ) (endpoint : Endpoint) : Controller σ :=
  { controller with line := { controller.line with endpoint } }

/-- The wait of a controller for the next request. -/
def requested (controller : Controller σ) : Waited Message :=
  controller.line.endpoint.receiveRequest controller.line.now controller.settings.receiveTimeout

/-- What was sent by a controller. -/
def sent (controller : Controller σ) : List Outgoing := controller.line.endpoint.socket.sent

/-- The wait for a request leaves the peer and what was sent; it uses up the front of
the queue. -/
theorem requested_keeps (controller : Controller σ) :
    controller.requested.endpoint.peer = controller.line.endpoint.peer ∧
      controller.requested.endpoint.socket.sent = controller.sent ∧
      controller.requested.endpoint.pending <:+ controller.line.endpoint.pending.tail := by
  obtain ⟨hpeer, hsent, hpending, -⟩ := controller.line.endpoint.receiveRequest_keeps
    controller.line.now controller.settings.receiveTimeout
  exact ⟨hpeer, hsent, hpending⟩

/-- The next request is the one that the endpoint waits for. -/
theorem nextRequest_eq (controller : Controller σ) :
    nextRequest controller =
      (controller.requested.result, controller.waited controller.requested) :=
  rfl

theorem transfer_of_done (h : ¬Wants download limit) :
    controller.transfer download limit = (.ok (), download, controller) := by
  rw [transfer]
  exact if_neg h

theorem transfer_of_silence (h : Wants download limit) {failure : Failure}
    (hrequest : controller.requested.result = .error failure) :
    controller.transfer download limit =
      (.error failure, download, controller.waited controller.requested) := by
  rw [Wants] at h
  rw [transfer, if_pos h, nextRequest_eq, hrequest]

theorem transfer_of_refusal (h : Wants download limit) {request : Message} {mismatch : Mismatch}
    (hrequest : controller.requested.result = .ok request)
    (hhandle : download.transfer.handle request = .error mismatch) :
    controller.transfer download limit =
      (.error (.mismatch mismatch), download, controller.waited controller.requested) := by
  rw [Wants] at h
  rw [transfer, if_pos h, nextRequest_eq, hrequest]
  simp only
  split
  · rename_i hrefused
    cases hhandle.symm.trans hrefused
    rfl
  · rename_i hanswered
    cases hhandle.symm.trans hanswered

/-- A request that the transfer answers makes a turn, or ends the call if the answer
cannot be sent. -/
theorem transfer_of_handle (h : Wants download limit) {request response : Message}
    {next : Transfer}
    (hrequest : controller.requested.result = .ok request)
    (hhandle : download.transfer.handle request = .ok (response, next)) :
    controller.transfer download limit =
      let (sent, endpoint) := controller.requested.endpoint.reply request response
      let there := (controller.waited controller.requested).withEndpoint endpoint
      match sent with
      | .error failure => (.error failure, { download with transfer := next }, there)
      | .ok () => there.transfer { download with transfer := next } limit := by
  rw [Wants] at h
  rw [transfer, if_pos h, nextRequest_eq, hrequest]
  simp only
  split
  · rename_i hrefused
    cases hhandle.symm.trans hrefused
  · rename_i hanswered
    cases hhandle.symm.trans hanswered
    rfl

/-- The answer of a controller to the request that it has waited for. -/
def answerTo (controller : Controller σ) (request response : Message) : Message :=
  response.fittedTo request controller.requested.endpoint.nextId

/-- A controller when it has answered the request that it has waited for. -/
def answering (controller : Controller σ) (peer : Peer) (request response : Message) :
    Controller σ :=
  let endpoint := controller.requested.endpoint
  (controller.waited controller.requested).withEndpoint
    ({ endpoint with nextId := endpoint.idAfter request }.afterSending peer
      (controller.answerTo request response))

/-- A request that the transfer answers leaves the rest to be answered. -/
theorem transfer_of_request (h : Wants download limit) {request response : Message}
    {next : Transfer} {peer : Peer} (horderly : controller.line.endpoint.Orderly)
    (hpeer : controller.line.endpoint.peer = some peer)
    (hrequest : controller.requested.result = .ok request)
    (hhandle : download.transfer.handle request = .ok (response, next)) :
    controller.transfer download limit =
      (controller.answering peer request response).transfer
        { download with transfer := next } limit := by
  obtain ⟨-, hsupplies⟩ := Endpoint.source_of_receiveRequest hrequest
  obtain ⟨-, hread⟩ := horderly.of_supplies hsupplies
  obtain ⟨hkept, -⟩ := controller.requested_keeps
  have hreply : controller.requested.endpoint.reply request response = _ :=
    Endpoint.reply_of_handle (hkept.trans hpeer) hread hhandle
  rw [transfer_of_handle h hrequest hhandle, hreply]
  rfl

/-! ## All turns -/

/-- What a controller has sent since it was another one. -/
def sentSince (before after : Controller σ) : List Message :=
  (after.sent.drop before.sent.length).map (·.message)

section Stretch

variable (path : String) (payload : Bytes) (offered : BlockSize)

/-- What a call to answer up to a limit comes to.  Before it some requests of the
download had been answered, and it has answered more, each with its answer as it
was sent. -/
structure Stretch (before : Controller σ) (download : Download) (limit : Nat)
    (served more : List (Message × Message))
    (ended : Except Failure Unit × Download × Controller σ) : Prop where
  destination : ended.2.1.destination = download.destination
  peer : ended.2.2.line.endpoint.peer = before.line.endpoint.peer
  orderly : ended.2.2.line.endpoint.Orderly
  queue : ended.2.2.line.endpoint.pending <:+ before.line.endpoint.pending
  /-- If there was anything to answer, the front of the queue is used up. -/
  front : Wants download limit →
    ended.2.2.line.endpoint.pending <:+ before.line.endpoint.pending.tail
  sent : ∃ fresh, ended.2.2.sent = before.sent ++ fresh ∧
    fresh.map (·.message) = more.map (·.2) ∧
    ∀ outgoing ∈ fresh, before.line.endpoint.peer.map (·.address) = some outgoing.destination
  sound : Transfer.Log.Sound ⟨ended.2.1.transfer, served ++ more⟩ path payload offered
  /-- Every block that went out begins below the limit. -/
  below : ∀ number, served.length ≤ number → number < (served ++ more).length →
    number * ended.2.1.transfer.size.bytes < limit
  /-- The call succeeds exactly if there is no more to answer. -/
  complete : ended.1 = .ok () ↔ ¬Wants ended.2.1 limit

variable {path payload offered} {served more : List (Message × Message)} {request : Message}

/-- What is sent in a call are its answers. -/
theorem Stretch.sentSince_eq {ended : Except Failure Unit × Download × Controller σ}
    (h : Stretch path payload offered controller download limit served more ended) :
    sentSince controller ended.2.2 = more.map (·.2) := by
  obtain ⟨fresh, hsent, hfresh, -⟩ := h.sent
  rw [sentSince, hsent, List.drop_left, hfresh]

/-- A call that answers nothing. -/
theorem Stretch.of_nothing {result : Except Failure Unit} (horderly : after.line.endpoint.Orderly)
    (hsound : Transfer.Log.Sound ⟨download.transfer, served⟩ path payload offered)
    (hpeer : after.line.endpoint.peer = controller.line.endpoint.peer)
    (hqueue : after.line.endpoint.pending <:+ controller.line.endpoint.pending)
    (hfront : Wants download limit →
      after.line.endpoint.pending <:+ controller.line.endpoint.pending.tail)
    (hsent : after.sent = controller.sent) (hcomplete : result = .ok () ↔ ¬Wants download limit) :
    Stretch path payload offered controller download limit served [] (result, download, after) where
  destination := rfl
  peer := hpeer
  orderly := horderly
  queue := hqueue
  front := hfront
  sent := ⟨[], by simpa using hsent, rfl, fun _ hmem => nomatch hmem⟩
  sound := by simpa using hsound
  below number hlow hhigh := by
    rw [List.append_nil] at hhigh
    omega
  complete := hcomplete

/-- The wait for a request leaves the endpoint in order. -/
theorem orderly_requested (h : controller.line.endpoint.Orderly) :
    controller.requested.endpoint.Orderly := by
  obtain ⟨hpeer, -, hpending⟩ := controller.requested_keeps
  exact h.of_suffix (hpending.trans (List.tail_suffix _)) hpeer

/-- A call that waits for a request and fails has answered nothing. -/
theorem Stretch.of_halt (horderly : controller.line.endpoint.Orderly)
    (hwants : Wants download limit)
    (hsound : Transfer.Log.Sound ⟨download.transfer, served⟩ path payload offered)
    (failure : Failure) :
    Stretch path payload offered controller download limit served []
      (.error failure, download, controller.waited controller.requested) := by
  obtain ⟨hpeer, hsent, hpending⟩ := controller.requested_keeps
  exact .of_nothing (orderly_requested horderly) hsound hpeer
    (hpending.trans (List.tail_suffix _)) (fun _ => hpending) hsent
    ⟨nofun, fun hdone => absurd hwants hdone⟩

/-- One more turn before a call. -/
theorem Stretch.turn {response : Message} {next : Transfer} {peer : Peer}
    {ended : Except Failure Unit × Download × Controller σ}
    (hwants : Wants download limit)
    (hsound : Transfer.Log.Sound ⟨download.transfer, served⟩ path payload offered)
    (hpeer : controller.line.endpoint.peer = some peer)
    (h : Stretch path payload offered (controller.answering peer request response)
      { download with transfer := next } limit
      (served ++ [(request, controller.answerTo request response)]) more ended) :
    Stretch path payload offered controller download limit served
      ((request, controller.answerTo request response) :: more) ended := by
  obtain ⟨hkept, hsent, hpending⟩ := controller.requested_keeps
  let exchange := (request, controller.answerTo request response)
  have hserved : served ++ exchange :: more = (served ++ [exchange]) ++ more := by simp
  have hsame : ended.2.2.line.endpoint.peer = controller.line.endpoint.peer := h.peer.trans hkept
  obtain ⟨fresh, hfresh, hmessages, hdestinations⟩ := h.sent
  have hqueue := h.queue.trans hpending
  refine ⟨h.destination, hsame, h.orderly, hqueue.trans (List.tail_suffix _), fun _ => hqueue,
    ?_, ?_, ?_, h.complete⟩
  · refine ⟨⟨peer.address, controller.answerTo request response⟩ :: fresh, ?_,
      by simp [hmessages], ?_⟩
    · rw [hfresh]
      show (controller.requested.endpoint.socket.sent ++ [_]) ++ fresh = _
      rw [hsent]
      simp
    · intro outgoing hmem
      rcases List.mem_cons.1 hmem with rfl | hmem
      · rw [hpeer]
        rfl
      · rw [← hdestinations outgoing hmem]
        exact congrArg (Option.map _) hkept.symm
  · rw [hserved]
    exact h.sound
  · intro number hlow hhigh
    rw [hserved] at hhigh
    by_cases hnumber : number = served.length
    · -- The first of these blocks begins where the payload was read up to.
      have hoffset := hsound.readOffset_eq
      rw [show Transfer.Log.answers ⟨download.transfer, served⟩ = served.map (·.2) from rfl,
        List.length_map] at hoffset
      have hbelow : served.length * download.transfer.size.bytes < limit := hoffset ▸ hwants.1
      cases hnone : served with
      | nil =>
          rw [hnone, List.length_nil] at hnumber
          rw [hnumber, Nat.zero_mul]
          exact Nat.zero_lt_of_lt hbelow
      | cons first rest =>
          have hsize : ended.2.1.transfer.size = download.transfer.size := by
            rw [h.sound.size_eq, hsound.size_eq, List.append_assoc,
              Transfer.agreed_append (by simp [hnone])]
          rw [hnumber, hsize]
          exact hbelow
    · exact h.below number (by simp; omega) hhigh

/-- If the rest of a call goes on from its first answer, the whole call does so from
where it began. -/
theorem exists_stretch_of_request {response : Message} {next : Transfer}
    (hwants : Wants download limit) (horderly : controller.line.endpoint.Orderly)
    (hsound : Transfer.Log.Sound ⟨download.transfer, served⟩ path payload offered)
    (hrequest : controller.requested.result = .ok request)
    (hhandle : download.transfer.handle request = .ok (response, next))
    (hrest : ∀ after : Controller σ, after.line.endpoint.Orderly →
      let served := served ++ [(request, controller.answerTo request response)]
      Transfer.Log.Sound ⟨next, served⟩ path payload offered →
      ∃ more, Stretch path payload offered after { download with transfer := next } limit served
        more (after.transfer { download with transfer := next } limit)) :
    ∃ more, Stretch path payload offered controller download limit served
      ((request, controller.answerTo request response) :: more)
      (controller.transfer download limit) := by
  obtain ⟨-, hsupplies⟩ := Endpoint.source_of_receiveRequest hrequest
  obtain ⟨hconnected, -⟩ := horderly.of_supplies hsupplies
  obtain ⟨peer, hpeer⟩ := Option.isSome_iff_exists.1 hconnected
  have hsame : (controller.answerTo request response).SaysSame response := ⟨rfl, rfl, rfl⟩
  have hafter := orderly_requested horderly
  obtain ⟨more, hstretch⟩ := hrest (controller.answering peer request response)
    ⟨hafter.connected, hafter.read⟩ ((Transfer.sound_handle hsound hhandle).sent hsame)
  rw [transfer_of_request hwants horderly hpeer hrequest hhandle]
  exact ⟨more, hstretch.turn hwants hsound hpeer⟩

/-- **Every call to answer requests keeps to the blocks of the transfer.**  Whatever
comes, and however the call ends, it has answered some requests, with the blocks
behind those that were sent before. -/
theorem exists_stretch (controller : Controller σ) (download : Download) (limit : Nat)
    (horderly : controller.line.endpoint.Orderly)
    (hsound : Transfer.Log.Sound ⟨download.transfer, served⟩ path payload offered) :
    ∃ more, Stretch path payload offered controller download limit served more
      (controller.transfer download limit) := by
  -- By induction on the requests that are left to be answered.
  induction hleft : download.transfer.left using Nat.strongRecOn
    generalizing controller download served with
  | ind left ih =>
    by_cases hwants : Wants download limit
    case neg =>
      rw [transfer_of_done hwants]
      exact ⟨[], .of_nothing horderly hsound rfl (List.suffix_refl _) (fun h => absurd h hwants) rfl
        ⟨fun _ => hwants, fun _ => rfl⟩⟩
    cases hrequest : controller.requested.result with
    | error failure =>
        rw [transfer_of_silence hwants hrequest]
        exact ⟨[], .of_halt horderly hwants hsound failure⟩
    | ok request =>
        cases hhandle : download.transfer.handle request with
        | error mismatch =>
            rw [transfer_of_refusal hwants hrequest hhandle]
            exact ⟨[], .of_halt horderly hwants hsound (.mismatch mismatch)⟩
        | ok result =>
            obtain ⟨response, next⟩ := result
            have hless : next.left < left := hleft ▸ Transfer.left_of_handle hhandle
            obtain ⟨more, hstretch⟩ := exists_stretch_of_request hwants horderly hsound hrequest
              hhandle fun after hafter hnext => ih next.left hless after _ hafter hnext rfl
            exact ⟨_, hstretch⟩

end Stretch

end Controller
end Blockwise
