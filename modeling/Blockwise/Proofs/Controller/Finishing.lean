import Blockwise.Proofs.Controller.Boundary
import Blockwise.Proofs.Controller.Retransmission

/-!
# Finishing a download by hand

A client that wants a resource asks for one block after the other until it has the last
one.  A controller that answers it up to the length of the payload completes the
transfer, unless the payload is empty: then there is no byte below the limit, and the
one answer that is due is never sent.

* `Endpoint.Brings` — the messages that an endpoint gets from its peer in time, whatever
  else arrives; `Endpoint.Brings.receiveRequest` finds the requests among them.
* `Transfer.Expects` — the requests for all blocks that are left.
* `Controller.Turns.brings` — the turns of a call answer them one by one.
* `Controller.transfer_finishes` — the main result, for every transfer under way.
* `Controller.empty_left_unanswered` — an empty payload, which is never sent.
-/

namespace Blockwise

/-! ## What comes from the peer in time -/

/-- A reader takes the first datagram that it does not pass over, if that one comes in
time. -/
theorem Socket.read_of_first {α : Type} {judge : Datagram → Verdict α} {deadline : Option Nat}
    {passed rest : List Arrival} {arrival : Arrival} {value : α}
    (horder : ∀ earlier ∈ passed, earlier.time ≤ arrival.time)
    (hpassed : ∀ earlier ∈ passed, judge earlier.datagram = .pass)
    (hdue : deadline.all (arrival.time ≤ ·) = true)
    (hjudge : judge arrival.datagram = .take value) (now : Nat) :
    read judge deadline now (passed ++ arrival :: rest) =
      ⟨some value, [], max now arrival.time, rest⟩ := by
  induction passed generalizing now with
  | nil => rw [List.nil_append, read, if_pos hdue, hjudge]
  | cons earlier passed ih =>
      obtain ⟨hearlier, horder⟩ := List.forall_mem_cons.1 horder
      obtain ⟨hpass, hpassed⟩ := List.forall_mem_cons.1 hpassed
      have hcome : deadline.all (earlier.time ≤ ·) = true := by
        cases deadline with
        | none => rfl
        | some deadline =>
            simp only [Option.all_some, decide_eq_true_eq] at hdue ⊢
            omega
      rw [List.cons_append, read, if_pos hcome, hpass, ih horder hpassed]
      simp only [Socket.Reading.mk.injEq, true_and, and_true]
      omega

/-- Whether it is a message of a sender that arrives. -/
def Arrival.isFrom (arrival : Arrival) (sender : SocketAddress) : Bool :=
  (arrival.datagram.messageFrom? sender).isSome

namespace Endpoint

/-- The messages that an endpoint gets from its peer: those in the queue, and those among
the first arrivals, each of which comes within a limit from the one before it.  Other
datagrams may arrive in between, and anything may arrive later. -/
structure Brings (endpoint : Endpoint) (peer : Peer) (now limit : Nat)
    (messages : List Message) : Prop where
  orderly : endpoint.Orderly
  peer_eq : endpoint.peer = some peer
  inOrder : Socket.InOrder endpoint.socket.arrivals
  comes : ∃ early late, endpoint.socket.arrivals = early ++ late ∧
    messages = endpoint.pending ++ early.filterMap (·.datagram.messageFrom? peer.address) ∧
    Socket.Punctual limit now (early.filter (·.isFrom peer.address))

variable {endpoint after : Endpoint} {peer : Peer} {now limit : Nat} {message request : Message}
  {messages rest : List Message}

/-- Of messages that come in time the first is read, and the others still come in time. -/
theorem exists_read_of_punctual {early late : List Arrival}
    (hinOrder : Socket.InOrder (early ++ late))
    (hmessages : early.filterMap (·.datagram.messageFrom? peer.address) = message :: rest)
    (hpunctual : Socket.Punctual limit now (early.filter (·.isFrom peer.address))) :
    ∃ time later, Socket.read (judgePeer peer) (some (now + limit)) now (early ++ late) =
        ⟨some message, [], time, later ++ late⟩ ∧
      Socket.InOrder (later ++ late) ∧
      later.filterMap (·.datagram.messageFrom? peer.address) = rest ∧
      Socket.Punctual limit time (later.filter (·.isFrom peer.address)) := by
  obtain ⟨passed, arrival, later, rfl, hnone, hfrom, hrest⟩ :=
    List.filterMap_eq_cons_iff.1 hmessages
  -- What is in front of the first message is passed over and keeps nobody waiting.
  have hfirst : (passed ++ arrival :: later).filter (·.isFrom peer.address) =
      arrival :: later.filter (·.isFrom peer.address) := by
    have hpassed : passed.filter (·.isFrom peer.address) = [] :=
      List.filter_eq_nil_iff.2 fun earlier hmem => by simp [Arrival.isFrom, hnone earlier hmem]
    rw [List.filter_append, hpassed, List.nil_append,
      List.filter_cons_of_pos (by simp [Arrival.isFrom, hfrom])]
  rw [hfirst] at hpunctual
  obtain ⟨hdue, hlater⟩ := hpunctual
  rw [List.append_assoc, List.cons_append] at hinOrder ⊢
  obtain ⟨-, hback, hcross⟩ := List.pairwise_append.1 hinOrder
  refine ⟨max now arrival.time, later, Socket.read_of_first (fun earlier hmem => ?_)
    (fun earlier hmem => ?_) (by simpa using hdue) ?_ now, (List.pairwise_cons.1 hback).2, hrest,
    hlater⟩
  · exact hcross earlier hmem arrival (List.mem_cons_self ..)
  · rw [judgePeer_eq_elim, hnone earlier hmem]
    rfl
  · rw [judgePeer_eq_elim, hfrom]
    rfl

/-- What was sent does not matter. -/
theorem Brings.congr (h : endpoint.Brings peer now limit messages)
    (hsame : after.inbound = endpoint.inbound) : after.Brings peer now limit messages := by
  have hpending : after.pending = endpoint.pending := (congrArg Endpoint.pending hsame :)
  have hpeer : after.peer = endpoint.peer := (congrArg Endpoint.peer hsame :)
  have harrivals : after.socket.arrivals = endpoint.socket.arrivals :=
    (congrArg (·.socket.arrivals) hsame :)
  refine ⟨h.orderly.of_suffix (hpending ▸ List.suffix_refl _) hpeer, hpeer.trans h.peer_eq,
    harrivals ▸ h.inOrder, ?_⟩
  rw [harrivals, hpending]
  exact h.comes

/-- The first of the messages is received, and the others are still to come. -/
theorem Brings.receive (h : endpoint.Brings peer now limit (message :: rest)) :
    let received := endpoint.receive now (some limit)
    received.result = .ok message ∧ received.endpoint.Brings peer received.time limit rest := by
  obtain ⟨early, late, harrivals, hmessages, hpunctual⟩ := h.comes
  cases hpending : endpoint.pending with
  | cons first queued =>
      rw [hpending, List.cons_append] at hmessages
      obtain ⟨rfl, rfl⟩ := List.cons.inj hmessages
      rw [receive_of_pending hpending]
      refine ⟨rfl, ⟨h.orderly.of_suffix ?_ rfl, h.peer_eq, h.inOrder, early, late, harrivals, rfl,
        hpunctual⟩⟩
      rw [hpending]
      exact List.suffix_cons _ _
  | nil =>
      rw [hpending, List.nil_append] at hmessages
      obtain ⟨time, later, hread, hinOrder, hrest, hlater⟩ :=
        exists_read_of_punctual (harrivals ▸ h.inOrder) hmessages.symm hpunctual
      have hreceived : endpoint.receive now (some limit) =
          ⟨.ok message, endpoint.withArrivals (later ++ late), time⟩ := by
        simp [Endpoint.receive, hpending, h.peer_eq, harrivals, hread, withArrivals]
      rw [hreceived]
      refine ⟨rfl, ⟨⟨h.orderly.connected, h.orderly.read⟩, h.peer_eq, hinOrder, later, late, rfl,
        ?_, hlater⟩⟩
      show rest = endpoint.pending ++ _
      rw [hpending, List.nil_append, hrest]

/-- A wait for a request goes on behind a message that is none. -/
theorem receiveRequest_of_other
    (hreceived : (endpoint.receive now (some limit)).result = .ok message)
    (hother : ¬message.isRequest = true) :
    endpoint.receiveRequest now limit =
      (endpoint.receive now (some limit)).endpoint.receiveRequest
        (endpoint.receive now (some limit)).time limit := by
  rw [receiveRequest]
  split
  · rename_i failure herror
    cases herror.symm.trans hreceived
  · rename_i other hok
    cases hok.symm.trans hreceived
    exact if_neg hother

/-- **The first request among the messages is the one that is waited for,** and the
messages behind it are still to come. -/
theorem Brings.receiveRequest {requests : List Message}
    (h : endpoint.Brings peer now limit messages)
    (hrequests : messages.filter (·.isRequest) = request :: requests) :
    let waited := endpoint.receiveRequest now limit
    waited.result = .ok request ∧ ∃ later, later.filter (·.isRequest) = requests ∧
      waited.endpoint.Brings peer waited.time limit later := by
  induction messages generalizing endpoint now with
  | nil => cases hrequests
  | cons message rest ih =>
      obtain ⟨hreceived, hrest⟩ := h.receive
      by_cases hrequest : message.isRequest = true
      · rw [List.filter_cons_of_pos hrequest] at hrequests
        obtain ⟨rfl, rfl⟩ := List.cons.inj hrequests
        rw [receiveRequest_of_received hreceived hrequest]
        exact ⟨hreceived, rest, rfl, hrest⟩
      · rw [List.filter_cons_of_neg hrequest] at hrequests
        rw [receiveRequest_of_other hreceived hrequest]
        exact ih hrest hrequests

end Endpoint

/-! ## The requests that are left -/

namespace Transfer

/-- The requests for all blocks that are left, one for each: to read the path, and for
the block that is next, named as it may be. -/
def Expects (transfer : Transfer) : List Message → Prop
  | [] => transfer.phase = .complete
  | request :: rest => transfer.phase ≠ .complete ∧ request.code = .get ∧
    request.path = transfer.path ∧ ∃ requested, request.block = .ok requested ∧
      transfer.Admits transfer.next requested ∧
      (transfer.afterBlock (negotiated transfer.size requested) transfer.next).Expects rest

variable {transfer : Transfer} {request : Message} {rest : List Message}

/-- The first of the requests is answered, and the others are those that are left. -/
theorem Expects.handle (h : transfer.Expects (request :: rest)) :
    ∃ response next, transfer.handle request = .ok (response, next) ∧ next.Expects rest := by
  obtain ⟨hopen, hcode, hpath, requested, hblock, hadmits, hrest⟩ := h
  obtain ⟨response, hhandle⟩ := exists_handle_of_admits hopen hcode hpath hblock hadmits
  exact ⟨response, _, hhandle, hrest⟩

theorem Expects.eq_nil (h : transfer.Expects rest) (hcomplete : transfer.phase = .complete) :
    rest = [] := by
  cases rest with
  | nil => rfl
  | cons request rest => exact absurd hcomplete h.1

/-- As long as the transfer is not complete a request is left. -/
theorem Expects.exists_cons (h : transfer.Expects rest) (hopen : transfer.phase ≠ .complete) :
    ∃ request requests, rest = request :: requests := by
  cases rest with
  | nil => exact absurd h hopen
  | cons request requests => exact ⟨request, requests, rfl⟩

/-- A transfer that is not complete has bytes left to read, unless the payload is empty. -/
theorem Log.Sound.readOffset_lt {log : Log} {path : String} {payload : Bytes}
    {offered : BlockSize} (h : log.Sound path payload offered) (hpayload : payload ≠ [])
    (hopen : log.transfer.phase ≠ .complete) : log.transfer.readOffset < payload.length := by
  rw [h.readOffset_eq, h.size_eq]
  rcases h.open_iff.1 hopen with hnone | hless
  · rw [hnone, Nat.zero_mul]
    exact List.length_pos_iff.2 hpayload
  · exact hless

end Transfer

/-! ## The turns of a call -/

namespace Controller

variable {σ : Type} {controller there : Controller σ} {download between : Download}
  {limit : Nat} {served : List (Message × Message)} {peer : Peer} {messages : List Message}

/-- The messages that a controller gets from the client in time. -/
def Brings (controller : Controller σ) (peer : Peer) (messages : List Message) : Prop :=
  controller.line.endpoint.Brings peer controller.line.now controller.settings.receiveTimeout
    messages

theorem Wants.open (h : Wants download limit) : download.transfer.phase ≠ .complete := by
  simpa [Transfer.isComplete] using h.2

/-- Where there is something to answer, the request that is left first is the next one,
and it is answered. -/
theorem Brings.requested (h : controller.Brings peer messages)
    (hexpects : download.transfer.Expects (messages.filter (·.isRequest)))
    (hopen : download.transfer.phase ≠ .complete) :
    ∃ request response next later, controller.requested.result = .ok request ∧
      download.transfer.handle request = .ok (response, next) ∧
      (controller.waited controller.requested).Brings peer later ∧
      next.Expects (later.filter (·.isRequest)) ∧
      messages.filter (·.isRequest) = request :: later.filter (·.isRequest) := by
  obtain ⟨request, requests, hrequests⟩ := hexpects.exists_cons hopen
  rw [hrequests] at hexpects
  obtain ⟨response, next, hhandle, hnext⟩ := hexpects.handle
  obtain ⟨hreceived, later, rfl, hlater⟩ := Endpoint.Brings.receiveRequest h hrequests
  exact ⟨request, response, next, later, hreceived, hhandle, hlater, hnext, hrequests⟩

/-- **The turns of a call answer the requests that are left one by one.** -/
theorem Turns.brings (h : Turns limit controller download served there between)
    (hbrings : controller.Brings peer messages)
    (hexpects : download.transfer.Expects (messages.filter (·.isRequest))) :
    ∃ later, there.Brings peer later ∧ between.transfer.Expects (later.filter (·.isRequest)) ∧
      messages.filter (·.isRequest) = served.map (·.1) ++ later.filter (·.isRequest) := by
  induction h generalizing messages with
  | nil => exact ⟨messages, hbrings, hexpects, rfl⟩
  | @cons controller _ _ _ request response next endpoint served wants received handled replied
      rest ih =>
      obtain ⟨_, _, _, later, hreceived, hhandle, hlater, hnext, hrequests⟩ :=
        hbrings.requested hexpects wants.open
      cases received.symm.trans hreceived
      cases handled.symm.trans hhandle
      have hsame : endpoint.inbound = controller.requested.endpoint.inbound := by
        have hreply := controller.requested.endpoint.inbound_reply request response
        rwa [replied] at hreply
      obtain ⟨last, hbrought, hleft, hfound⟩ := ih (Endpoint.Brings.congr hlater hsame) hnext
      exact ⟨last, hbrought, hleft, by rw [hrequests, hfound]; rfl⟩

/-- A call does not stop before the requests that are left are answered: the next one
comes, the transfer answers it, and the answer can be sent. -/
theorem Stop.satisfied {ended : Except Failure Unit × Download × Controller σ}
    (h : Stop limit there between ended) (hbrings : there.Brings peer messages)
    (hexpects : between.transfer.Expects (messages.filter (·.isRequest))) :
    ¬Wants between limit ∧ ended = (.ok (), between, there) := by
  cases h with
  | done satisfied => exact ⟨satisfied, rfl⟩
  | silence wants waited =>
      obtain ⟨_, _, _, _, hreceived, -⟩ := hbrings.requested hexpects wants.open
      cases waited.symm.trans hreceived
  | refused wants received refused =>
      obtain ⟨_, _, _, _, hreceived, hhandle, -⟩ := hbrings.requested hexpects wants.open
      cases received.symm.trans hreceived
      cases refused.symm.trans hhandle
  | unsent wants received handled failed =>
      obtain ⟨_, hreply⟩ := replied_of_orderly hbrings.orderly received handled
      cases failed.symm.trans hreply

/-! ## Main result -/

section Finishing

variable {path : String} {payload : Bytes} {offered : BlockSize} {calls : List Transfer.Call}

/-- A call up to the length of an empty payload does nothing. -/
theorem transfer_zero (controller : Controller σ) (download : Download) :
    controller.transfer download 0 = (.ok (), download, controller) :=
  transfer_of_done fun hwants => Nat.not_lt_zero _ hwants.1

/-- **A call up to the length of the payload completes the transfer.**  The transfer has
been asked anything before, and the client sends in time the requests for all blocks that
are left, with whatever other messages it likes and among any other datagrams.  Unless the
payload is empty, the call succeeds, and the transfer is complete: all these requests, and
no others, were answered with what the call has sent to the client; with the answers before
them these carry the payload, and the last of all answers says that no more follows.  For
an empty payload the call succeeds without having done anything. -/
theorem transfer_finishes
    (hdownload : download.transfer = ((Transfer.begin path payload offered).run calls).transfer)
    (hbrings : controller.Brings peer messages)
    (hexpects : download.transfer.Expects (messages.filter (·.isRequest))) :
    let requests := messages.filter (·.isRequest)
    let before := (Transfer.begin path payload offered).run calls
    let after := (Transfer.begin path payload offered).run (calls ++ requests.map .handle)
    let ended := controller.transfer download payload.length
    if payload = [] then ended = (.ok (), download, controller)
    else
      ended.1 = .ok () ∧ ended.2.1 = { download with transfer := after.transfer } ∧
        after.transfer.phase = .complete ∧
        (∃ fresh more, ended.2.2.sent = controller.sent ++ fresh ∧
          after.served = before.served ++ more ∧ more.map (·.1) = requests ∧
          List.Forall₂ (AnswerTo (some peer)) fresh more) ∧
        after.answers.flatMap (·.payload) = payload ∧
        ∃ last block, after.answers.getLast? = some last ∧ last.block = .ok (some block) ∧
          block.more = false := by
  intro requests before after ended
  by_cases hpayload : payload = []
  · rw [if_pos hpayload]
    subst hpayload
    exact transfer_zero controller download
  rw [if_neg hpayload]
  obtain ⟨served, there, between, hturns, hstop⟩ :=
    exists_turns controller download payload.length
  obtain ⟨later, hbrought, hleft, hfound⟩ := hturns.brings hbrings hexpects
  obtain ⟨hsatisfied, hended⟩ := hstop.satisfied hbrought hleft
  obtain ⟨hrun, hdestination⟩ := hturns.run_eq
  obtain ⟨fresh, hsent, hanswers⟩ := hturns.sent_eq
  have hserved : (Transfer.begin path payload offered).run
      (calls ++ (served.map (·.1)).map .handle) = ⟨between.transfer, before.served ++ served⟩ := by
    rw [Transfer.run_append, Transfer.foldl_call_eq, ← hdownload, hrun]
  have hsound := Transfer.sound_run path payload offered (calls ++ (served.map (·.1)).map .handle)
  rw [hserved] at hsound
  -- What is behind the last turn is complete, since there is nothing more to answer.
  have hcomplete : between.transfer.phase = .complete := by
    by_contra hopen
    exact hsatisfied ⟨hsound.readOffset_lt hpayload hopen, by simpa [Transfer.isComplete]⟩
  have hrequests : requests = served.map (·.1) := by
    rw [hleft.eq_nil hcomplete, List.append_nil] at hfound
    exact hfound
  have hafter : after = ⟨between.transfer, before.served ++ served⟩ := by
    rw [← hserved, ← hrequests]
  have hall := (hsound.length_of_complete hcomplete).2
  rw [hafter, show ended = _ from hended]
  refine ⟨rfl, ?_, hcomplete, ⟨fresh, served, hsent, rfl, hrequests.symm,
    hbrings.peer_eq ▸ hanswers⟩, ?_, hsound.complete_iff.1 hcomplete⟩
  · rw [← hdestination]
  · rw [Message.flatMap_payload_of_carryBlocks hsound.blocks, ← hsound.size_eq,
      List.take_of_length_le hall]

/-! ## A payload of two blocks, and an empty one -/

/-- Of requests that come one after the other each is heard. -/
theorem heard_of_comes {fetch : Fetch} {arrivals : List Arrival} {numbers : List Nat}
    (h : fetch.Comes peer arrivals numbers) :
    arrivals.filterMap (·.datagram.messageFrom? peer.address) = numbers.map fetch.asked ∧
      arrivals.filter (·.isFrom peer.address) = arrivals := by
  induction h with
  | nil => exact ⟨rfl, rfl⟩
  | @cons arrival number arrivals numbers hfrom _ ih =>
      refine ⟨?_, ?_⟩
      · rw [List.map_cons, ← ih.1]
        exact List.filterMap_cons_some hfrom
      · rw [List.filter_cons_of_pos (by simp [Arrival.isFrom, hfrom]), ih.2]

/-- What is offered to a controller is brought to it. -/
theorem brings_of_offers {fetch : Fetch} {numbers : List Nat}
    (h : controller.Offers fetch peer numbers)
    (horder : Socket.InOrder controller.line.endpoint.socket.arrivals) :
    controller.Brings peer (numbers.map fetch.asked) := by
  obtain ⟨queued, coming, rfl, hpending, hcomes⟩ := h.comes
  obtain ⟨hmessages, hall⟩ := heard_of_comes hcomes
  refine ⟨h.orderly, h.peer_eq, horder, _, [], (List.append_nil _).symm, ?_, ?_⟩
  · rw [hpending, hmessages, List.map_append]
  · rw [hall]
    exact h.punctual

/-- A download of two blocks is finished. -/
theorem transfer_finishes_pair :
    let ended := (ofPair [1]).transfer pairDownload Fetch.pair.payload.length
    (ofPair [1]).Brings Fetch.pairPeer ([0, 1].map Fetch.pair.asked) ∧
      pairDownload.transfer.Expects (([0, 1].map Fetch.pair.asked).filter (·.isRequest)) ∧
      ended.1 = .ok () ∧ ended.2.1.transfer.phase = .complete := by
  intro ended
  have hbrings : (ofPair [1]).Brings Fetch.pairPeer ([0, 1].map Fetch.pair.asked) :=
    brings_of_offers (offers_ofPair (by decide)) (List.pairwise_singleton _ _)
  have hexpects : pairDownload.transfer.Expects
      (([0, 1].map Fetch.pair.asked).filter (·.isRequest)) :=
    ⟨by decide, rfl, rfl, none, rfl, rfl, by decide, rfl, rfl, _, rfl, ⟨rfl, rfl, fun _ => rfl⟩,
      rfl⟩
  have hbegin : pairDownload.transfer =
      ((Transfer.begin (Path.normalize "a") Fetch.pair.payload Fetch.pair.offered).run
        []).transfer := rfl
  have hfinishes := transfer_finishes hbegin hbrings hexpects
  rw [if_neg (by decide)] at hfinishes
  obtain ⟨hok, hdownload, hcomplete, -⟩ := hfinishes
  exact ⟨hbrings, hexpects, hok, hdownload ▸ hcomplete⟩

/-- **An empty payload is never sent.**  The client asks for its one block, but a call up
to the length of the payload succeeds without an answer, and the transfer still awaits the
request. -/
theorem empty_left_unanswered :
    let download : Download :=
      ⟨"file", Transfer.begin (Path.normalize "a") [] BlockSize.smallest⟩
    let ended := (ofPair []).transfer download 0
    (ofPair []).Brings Fetch.pairPeer [Fetch.pair.asked 0] ∧
      download.transfer.Expects ([Fetch.pair.asked 0].filter (·.isRequest)) ∧
      ended.1 = .ok () ∧ ended.2.1.transfer.phase = .awaiting 0 ∧ ended.2.2.sent = [] := by
  intro download ended
  have hended : ended = (.ok (), download, ofPair []) := transfer_zero _ _
  refine ⟨brings_of_offers (offers_ofPair (by decide)) .nil, ?_, ?_, ?_, ?_⟩
  · exact ⟨by decide, rfl, rfl, none, rfl, rfl, rfl⟩
  · rw [hended]
  · rw [hended]
    rfl
  · rw [hended]
    rfl

end Finishing

end Controller
end Blockwise
