import Blockwise.Proofs.Endpoint.Requests

/-!
# What a wait for a request uses up

What comes to an endpoint is the queue first and then what arrives at its socket.  A
wait uses up the front of it, as far as the message that was waited for and no further.

* `Endpoint.incoming` — what is still to come, in the order in which it is looked at.
* `Incoming.ReadsTo`, `Incoming.Passes` — what was used up, up to the last of the
  messages found in it, or without finding any.
* `Endpoint.readsTo_of_receiveRequest` — a request that was waited for is the last that
  was looked at, and there is no request before it.
-/

namespace Blockwise

/-- Something that an endpoint has to look at. -/
inductive Incoming where
  /-- A message in the queue. -/
  | queued (message : Message)
  /-- A datagram in the socket, or on its way to it. -/
  | arriving (arrival : Arrival)

namespace Incoming

/-- The message in it, if it is one of the peer. -/
def message? (peer : Option Peer) : Incoming → Option Message
  | .queued message => some message
  | .arriving arrival => peer.bind fun peer => arrival.datagram.messageFrom? peer.address

/-- The request in it, if it is one of the peer. -/
def request? (peer : Option Peer) (incoming : Incoming) : Option Message :=
  (incoming.message? peer).filter (·.isRequest)

theorem filterMap_request? (peer : Option Peer) (used : List Incoming) :
    used.filterMap (request? peer) =
      (used.filterMap (message? peer)).filter (·.isRequest) :=
  List.filter_filterMap.symm

/-! ## What is used up -/

variable {pick : Incoming → Option Message} {before between after : List Incoming}
  {messages more : List Message} {message : Message}

/-- What was used up has these messages in it, and the last of them at its end. -/
def ReadsTo (pick : Incoming → Option Message) (before after : List Incoming)
    (messages : List Message) : Prop :=
  ∃ used, before = used ++ after ∧ used.filterMap pick = messages ∧
    used.getLast?.map pick = messages.getLast?.map some

/-- What was used up has no message in it. -/
def Passes (pick : Incoming → Option Message) (before after : List Incoming) : Prop :=
  ∃ used, before = used ++ after ∧ used.filterMap pick = []

theorem ReadsTo.nil (pick : Incoming → Option Message) (before : List Incoming) :
    ReadsTo pick before before [] :=
  ⟨[], rfl, rfl, rfl⟩

theorem ReadsTo.trans (h : ReadsTo pick before between messages)
    (hmore : ReadsTo pick between after more) : ReadsTo pick before after (messages ++ more) := by
  obtain ⟨used, rfl, rfl, hlast⟩ := h
  obtain ⟨usedMore, rfl, rfl, hlastMore⟩ := hmore
  refine ⟨used ++ usedMore, by simp, List.filterMap_append, ?_⟩
  rw [List.getLast?_append, List.getLast?_append, Option.map_or, Option.map_or, hlast, hlastMore]

theorem Passes.trans (h : Passes pick before between) (hmore : Passes pick between after) :
    Passes pick before after := by
  obtain ⟨used, rfl, hnone⟩ := h
  obtain ⟨usedMore, rfl, hnoneMore⟩ := hmore
  exact ⟨used ++ usedMore, by simp, by rw [List.filterMap_append, hnone, hnoneMore]; rfl⟩

/-- What is passed over on the way to a message is used up with it. -/
theorem Passes.readsTo (h : Passes pick before between)
    (hread : ReadsTo pick between after [message]) : ReadsTo pick before after [message] := by
  obtain ⟨used, rfl, hnone⟩ := h
  obtain ⟨usedMore, rfl, hmessages, hlast⟩ := hread
  refine ⟨used ++ usedMore, by simp, by rw [List.filterMap_append, hnone, hmessages]; rfl, ?_⟩
  rw [List.getLast?_append, Option.map_or, hlast]
  rfl

/-- Where there is no message there is no request. -/
theorem Passes.request {peer : Option Peer} (h : Passes (message? peer) before after) :
    Passes (request? peer) before after := by
  obtain ⟨used, hsplit, hnone⟩ := h
  exact ⟨used, hsplit, by rw [filterMap_request?, hnone]; rfl⟩

/-- A message that is no request is passed over. -/
theorem ReadsTo.passes {peer : Option Peer} (h : ReadsTo (message? peer) before after [message])
    (hother : ¬message.isRequest) : Passes (request? peer) before after := by
  obtain ⟨used, hsplit, hmessages, -⟩ := h
  exact ⟨used, hsplit, by rw [filterMap_request?, hmessages, List.filter_cons_of_neg hother]; rfl⟩

/-- A message that is a request has been waited for. -/
theorem ReadsTo.request {peer : Option Peer} (h : ReadsTo (message? peer) before after [message])
    (hrequest : message.isRequest) : ReadsTo (request? peer) before after [message] := by
  obtain ⟨used, hsplit, hmessages, hlast⟩ := h
  refine ⟨used, hsplit, ?_, ?_⟩
  · rw [filterMap_request?, hmessages, List.filter_cons_of_pos hrequest]
    rfl
  · cases hused : used.getLast? with
    | none => simp [hused] at hlast
    | some last =>
        rw [hused] at hlast
        have hmessage : last.message? peer = some message := by simpa using hlast
        simp [request?, hmessage, hrequest]

end Incoming

namespace Endpoint

open Incoming

variable {endpoint : Endpoint} {now : Nat} {message request : Message} {failure : Failure}

/-- What is still to come to an endpoint. -/
def incoming (endpoint : Endpoint) : List Incoming :=
  endpoint.pending.map .queued ++ endpoint.socket.arrivals.map .arriving

theorem incoming_of_arrivals (hpending : endpoint.pending = []) :
    endpoint.incoming = endpoint.socket.arrivals.map .arriving := by
  rw [incoming, hpending, List.map_nil, List.nil_append]

theorem incoming_withArrivals (hpending : endpoint.pending = []) (arrivals : List Arrival) :
    (endpoint.withArrivals arrivals).incoming = arrivals.map .arriving :=
  incoming_of_arrivals hpending

/-! ## Receiving a message -/

theorem filterMap_arriving {peer : Peer} {passed : List Arrival}
    (h : ∀ arrival ∈ passed, (judgePeer peer arrival.datagram).taken? = none) :
    (passed.map .arriving).filterMap (message? (some peer)) = [] := by
  rw [List.filterMap_eq_nil_iff]
  intro incoming hmem
  obtain ⟨arrival, harrival, rfl⟩ := List.mem_map.1 hmem
  exact (taken?_judgePeer peer arrival.datagram).symm.trans (h arrival harrival)

/-- A message that is received is the last that was looked at. -/
theorem readsTo_of_receive {limit : Option Nat}
    (h : (endpoint.receive now limit).result = .ok message) :
    ReadsTo (message? endpoint.peer) endpoint.incoming
      (endpoint.receive now limit).endpoint.incoming [message] := by
  cases hpending : endpoint.pending with
  | cons first rest =>
      rw [receive_of_pending hpending] at h ⊢
      cases h
      exact ⟨[.queued message], by simp [incoming, hpending], rfl, rfl⟩
  | nil =>
      cases hpeer : endpoint.peer with
      | none => simp [receive, hpending, hpeer] at h
      | some peer =>
          rw [endpoint_receive hpending hpeer]
          rcases Socket.read_cases_of (judgePeer peer) (limit.map (now + ·)) now
              endpoint.socket.arrivals with
            ⟨hnone, -⟩ | ⟨passed, arrival, value, hsplit, -, hpassed, hjudge, htaken, -⟩
          · simp [receive, hpending, hpeer, hnone] at h
          · simp only [receive, hpending, hpeer, htaken] at h
            cases h
            have hlast : arrival.datagram.messageFrom? peer.address = some message := by
              rw [← taken?_judgePeer, hjudge]
              rfl
            refine ⟨(passed.map .arriving) ++ [.arriving arrival], ?_, ?_, ?_⟩
            · rw [incoming_of_arrivals hpending, incoming_withArrivals hpending,
                congrArg (List.map Incoming.arriving) hsplit]
              simp
            · rw [List.filterMap_append, filterMap_arriving hpassed]
              simp [message?, hlast]
            · simp [message?, hlast]

/-- A wait that comes to nothing has passed over all that it looked at. -/
theorem passes_of_receive {limit : Option Nat}
    (h : (endpoint.receive now limit).result = .error failure) :
    Passes (message? endpoint.peer) endpoint.incoming
      (endpoint.receive now limit).endpoint.incoming := by
  cases hpending : endpoint.pending with
  | cons first rest =>
      rw [receive_of_pending hpending] at h
      cases h
  | nil =>
      cases hpeer : endpoint.peer with
      | none => exact ⟨[], by simp [receive, hpending, hpeer], rfl⟩
      | some peer =>
          rw [endpoint_receive hpending hpeer]
          rcases Socket.read_cases_of (judgePeer peer) (limit.map (now + ·)) now
              endpoint.socket.arrivals with
            ⟨-, hunread, hpassed, -⟩ | ⟨_, _, _, -, -, -, -, htaken, -⟩
          · refine ⟨_, ?_, filterMap_arriving hpassed⟩
            rw [hunread, incoming_of_arrivals hpending, incoming_withArrivals hpending,
              ← List.map_append, Socket.dueBy_append_lateFor]
          · simp [receive, hpending, hpeer, htaken] at h

/-- A wait can fail for want of a peer or of time, but not for what a message says. -/
theorem failure_of_receive {limit : Option Nat}
    (h : (endpoint.receive now limit).result = .error failure) (mismatch : Mismatch) :
    failure ≠ .mismatch mismatch := by
  rintro rfl
  cases hpending : endpoint.pending with
  | cons first rest =>
      rw [receive_of_pending hpending] at h
      cases h
  | nil =>
      cases hpeer : endpoint.peer with
      | none => simp [receive, hpending, hpeer] at h
      | some peer =>
          rw [result_receive hpending hpeer] at h
          cases hfound : (Socket.dueBy (limit.map (now + ·)) endpoint.socket.arrivals).findSome?
              (·.datagram.messageFrom? peer.address) with
          | some message =>
              rw [hfound] at h
              cases h
          | none =>
              rw [hfound] at h
              cases limit with
              | none => cases h
              | some limit => cases h

/-! ## Receiving a request -/

/-- **A request that was waited for is the last that was looked at**, and there was none
before it. -/
theorem readsTo_of_receiveRequest {limit : Nat}
    (h : (endpoint.receiveRequest now limit).result = .ok request) :
    ReadsTo (request? endpoint.peer) endpoint.incoming
      (endpoint.receiveRequest now limit).endpoint.incoming [request] := by
  fun_induction receiveRequest endpoint now limit with
  | case1 endpoint now failure herror => cases herror.symm.trans h
  | case2 endpoint now message hok hrequest =>
      cases hok.symm.trans h
      exact (readsTo_of_receive h).request hrequest
  | case3 endpoint now message hok hother ih =>
      have hrest := ih h
      rw [peer_receive] at hrest
      exact ((readsTo_of_receive hok).passes hother).readsTo hrest

/-- A wait for a request that comes to nothing has passed over all that it looked at, and
not for what a message says. -/
theorem passes_of_receiveRequest {limit : Nat}
    (h : (endpoint.receiveRequest now limit).result = .error failure) :
    Passes (request? endpoint.peer) endpoint.incoming
        (endpoint.receiveRequest now limit).endpoint.incoming ∧
      ∀ mismatch, failure ≠ .mismatch mismatch := by
  fun_induction receiveRequest endpoint now limit with
  | case1 endpoint now failure herror =>
      exact ⟨(passes_of_receive h).request, failure_of_receive h⟩
  | case2 endpoint now message hok hrequest => cases hok.symm.trans h
  | case3 endpoint now message hok hother ih =>
      obtain ⟨hrest, hfailure⟩ := ih h
      rw [peer_receive] at hrest
      exact ⟨((readsTo_of_receive hok).passes hother).trans hrest, hfailure⟩

end Endpoint
end Blockwise
