import Blockwise.Proofs.Endpoint.Turn
import Blockwise.Proofs.Server.Copies
import Blockwise.Proofs.Server.Events
import Blockwise.Proofs.Server.Reply

/-!
# What can stop a server

Much might go wrong in the loop: that there is no peer to receive from or to send
to, that a block has no number or no size, that an answer cannot be written or is
too long.  None of it does.  What stops a server is a request that does not fit its
transfer.

* `Message.Compact` — messages of at most 1042 bytes; `Server.compact_reply` says
  that every reply is one.
* `Server.Steady` — the invariant; `Steady.serve` says what a message can do to a
  server that has it, and `Steady.step` that every event keeps it.
* `Server.withstands_traffic` — the main result.
-/

namespace Blockwise

/-! ## How long answers are -/

namespace Message

/-- The length of the longest answer: header, token, the option with the block,
marker and payload. -/
def longestAnswer : Nat := 1042

/-- A message that takes no more bytes than the longest answer. -/
def Compact (message : Message) : Prop :=
  ∃ bytes, message.encode = .ok bytes ∧ bytes.length ≤ longestAnswer

theorem Compact.sendable {message : Message} (h : message.Compact) : message.Sendable := by
  obtain ⟨bytes, hbytes, hlength⟩ := h
  exact ⟨bytes, hbytes, Nat.le_trans hlength (by decide)⟩

/-- An option with a block takes two bytes more than its value. -/
theorem length_writeFields_block {block : Block} {written : Bytes}
    (h : writeFields 0 [⟨OptionField.block2, block.encode⟩] = .ok written) :
    written.length = 2 + block.encode.length := by
  have hvalue : writeNibble block.encode.length = .ok (block.encode.length, []) :=
    if_pos (Nat.lt_of_le_of_lt block.length_encode_le (by decide))
  obtain ⟨delta, deltaBytes, length, lengthBytes, behind, hdelta, hlength, hbehind, rfl⟩ :=
    writeFields_cons_eq_ok_iff.1 h
  have hnumber : writeNibble (OptionField.block2.toNat - 0) = .ok (13, [10]) := rfl
  cases hnumber.symm.trans hdelta
  cases hvalue.symm.trans hlength
  cases hbehind
  simp
  omega

/-- A message with a token that can be read, with a block for an option or none,
and with no more payload than a block has, is compact. -/
theorem compact_of_parts {message : Message} (htoken : message.token.length ≤ maxTokenLength)
    (hfields : message.options.fields = [] ∨
      ∃ block : Block, message.options.fields = [⟨OptionField.block2, block.encode⟩])
    (hpayload : message.payload.length ≤ BlockSize.largest.bytes) : message.Compact := by
  have hvalues : ∀ field ∈ message.options.fields, field.value.length ≤ maxExtended := by
    intro field hfield
    rcases hfields with hnone | ⟨block, hblock⟩
    · simp [hnone] at hfield
    · rw [hblock, List.mem_singleton] at hfield
      subst hfield
      exact Nat.le_trans block.length_encode_le (by decide)
  obtain ⟨bytes, hbytes⟩ := encode_isOk_iff.2 ⟨htoken, hvalues⟩
  obtain ⟨written, hwritten, hlength⟩ := length_encode hbytes
  have hoptions : written.length ≤ 5 := by
    rcases hfields with hnone | ⟨block, hblock⟩
    · rw [hnone] at hwritten
      cases hwritten
      simp
    · rw [hblock] at hwritten
      have := block.length_encode_le
      have := length_writeFields_block hwritten
      omega
  have hmarked : (writePayload message.payload).length ≤ message.payload.length + 1 := by
    cases message.payload with
    | nil => exact Nat.zero_le _
    | cons byte rest => simp [writePayload]
  have hlargest : BlockSize.largest.bytes = 1024 := rfl
  refine ⟨bytes, hbytes, ?_⟩
  simp only [headerLength, maxTokenLength, longestAnswer] at *
  omega

/-- A token that was read is short enough to be written. -/
theorem length_token_of_message {datagram : Datagram} {message : Message}
    (h : datagram.message = .ok message) : message.token.length ≤ maxTokenLength :=
  (encode_isOk_iff.1 ⟨_, encode_of_decode h⟩).1

end Message

/-- The answer of a transfer is compact as it goes out. -/
theorem Transfer.compact_of_handle {transfer after : Transfer} {request response : Message}
    (h : transfer.handle request = .ok (response, after))
    (htoken : request.token.length ≤ Message.maxTokenLength) (nextId : UInt16) :
    (response.fittedTo request nextId).Compact := by
  obtain ⟨-, -, -, requested, block, -, -, -, -, rfl, -⟩ := handle_eq_ok_iff.1 h
  have hfields := transfer.fields_respond request block
  refine Message.compact_of_parts htoken (Or.inr ⟨block, hfields⟩) ?_
  exact Nat.le_trans (block.length_slice_le transfer.payload) block.size.bytes_le_largest

namespace Server

variable {server next : Server} {peer : Peer} {message request response : Message}
  {after : Option Transfer} {event : Event}

/-- **Replies are compact.** -/
theorem compact_reply (hreply : server.reply request = .ok (response, after))
    (htoken : request.token.length ≤ Message.maxTokenLength) (nextId : UInt16) :
    (response.fittedTo request nextId).Compact := by
  rcases server.reply_cases request with
    ⟨code, -, hdecline, -⟩ | ⟨transfer, mismatch, hrefuse, -⟩ |
      ⟨transfer, carrying, next, -, hhandle, hblock, -⟩
  · cases hdecline.symm.trans hreply
    exact Message.compact_of_parts htoken (Or.inl rfl) (Nat.zero_le _)
  · cases hrefuse.symm.trans hreply
  · cases hblock.symm.trans hreply
    exact Transfer.compact_of_handle hhandle htoken nextId

/-! ## The invariant -/

/-- What holds of a server whatever traffic it has seen. -/
structure Steady (server : Server) : Prop where
  /-- If it has stopped, a request did not fit its transfer. -/
  mismatch : ∀ failure, server.failure = some failure → ∃ reason, failure = .mismatch reason
  /-- The kept answer can be sent again. -/
  kept : ∀ kept, server.lastAnswer = some kept → kept.response.Compact
  /-- Nothing is queued between two messages. -/
  pending : server.endpoint.pending = []

/-- The server goes on running, and what it has sent is compact. -/
structure GoesOn (server next : Server) : Prop where
  steady : next.Steady
  running : next.failure = none
  compact : ∀ outgoing ∈ server.sentBetween next, outgoing.message.Compact

/-- A message that does not stop a server leaves the invariant. -/
theorem Steady.goesOn (h : server.Steady) (hrunning : server.failure = none)
    (htoken : message.token.length ≤ Message.maxTokenLength)
    (hserve : Continues server peer message next) : GoesOn server next := by
  cases hserve with
  | passed =>
      have hquiet : server.sentBetween server = [] := sentBetween_self rfl
      refine ⟨h, hrunning, ?_⟩
      simp [hquiet]
  | ignored =>
      have hquiet : server.sentBetween (server.ignore message) = [] := sentBetween_self rfl
      refine ⟨⟨h.mismatch, h.kept, h.pending⟩, hrunning, ?_⟩
      simp [hquiet]
  | repeated kept hrequest hkept =>
      have hcompact := h.kept kept (Option.filter_eq_some_iff.1 hkept).1
      have hsent : server.sentBetween (server.count.repeated peer kept) =
          [⟨peer.address, kept.response⟩] := sentBetween_append rfl
      refine ⟨⟨h.mismatch, h.kept, h.pending⟩, hrunning, ?_⟩
      simpa [hsent] using hcompact
  | replied response after hrequest _ _ hreply =>
      have hcompact := compact_reply hreply htoken server.endpoint.nextId
      have hkept : ∀ kept, ((server.record message).answered message peer
          (server.endpoint.idAfter message)
          (response.fittedTo message server.endpoint.nextId)).lastAnswer = some kept →
          kept.response.Compact := by
        intro kept hlast
        simp only [answered] at hlast
        split at hlast
        · cases hlast
          exact hcompact
        · exact h.kept kept hlast
      have hsteady : ((server.record message).replied message peer response after).Steady := by
        cases after with
        | none => exact ⟨h.mismatch, hkept, h.pending⟩
        | some transfer => exact ⟨h.mismatch, hkept, h.pending⟩
      refine ⟨hsteady, ?_, ?_⟩
      · cases after <;> exact hrunning
      · simpa [sentBetween_replied] using hcompact

/-- **What a message can do to a server.**  The server goes on, or it stops
because a request does not fit its transfer; then nothing is sent. -/
theorem Steady.serve (h : server.Steady) (hrunning : server.failure = none)
    (hpeer : server.endpoint.peer = some peer)
    (htoken : message.token.length ≤ Message.maxTokenLength) :
    GoesOn server (server.serve message) ∨
      message.isRequest = true ∧ ∃ transfer reason, server.serve message =
        ((server.record message).keepTransfer transfer).stop (.mismatch reason) := by
  rcases server.serve_cases message with
    hmessage | ⟨hrequest, ⟨kept, hkept⟩ | ⟨hnew, hgate | hgate⟩⟩
  · have hpassed : Continues server peer message server := .passed hmessage
    rw [serve_of_other hmessage]
    exact Or.inl (h.goesOn hrunning htoken hpassed)
  · have hcompact := h.kept kept (Option.filter_eq_some_iff.1 hkept).1
    have hrepeat : server.count.repeatAnswer kept = server.count.repeated peer kept :=
      repeatAnswer_of_sendable hpeer hcompact.sendable
    rw [serve_of_kept hrequest hkept, hrepeat]
    exact Or.inl (h.goesOn hrunning htoken (.repeated kept hrequest hkept))
  · have hignored : Continues server peer message (server.ignore message) :=
      .ignored hrequest hnew hgate
    rw [serve_of_ignored hrequest hnew hgate]
    exact Or.inl (h.goesOn hrunning htoken hignored)
  · rw [serve_of_admitted hrequest hnew hgate]
    cases hreply : (server.record message).reply message with
    | error reason =>
        obtain ⟨transfer, hrespond⟩ := respond_of_refusal hreply
        exact Or.inr ⟨hrequest, transfer, reason, hrespond⟩
    | ok result =>
        obtain ⟨response, after⟩ := result
        have hsendable := (compact_reply hreply htoken server.endpoint.nextId).sendable
        have hrespond : (server.record message).respond message =
            (server.record message).replied message peer response after :=
          respond_of_reply hrunning hpeer hreply hsendable
        rw [hrespond]
        exact Or.inl (h.goesOn hrunning htoken
          (.replied response after hrequest hnew hgate hreply hsendable))

/-! ## Events -/

/-- A request stops the server because it does not fit its transfer.  It is not
answered, and all that is counted is that it came. -/
structure GivesUp (server : Server) (datagram : Datagram) (next : Server) : Prop where
  request : ∃ request, datagram.message = .ok request ∧ request.isRequest = true
  mismatch : ∃ reason, next.failure = some (.mismatch reason)
  quiet : server.sentBetween next = []
  stats_eq : next.stats = { server.stats with received := server.stats.received + 1 }
  steady : next.Steady

/-- **What a datagram can do to a server.**  One that has stopped does not hear it.
One that is running goes on, or it gives up. -/
theorem Steady.step_datagram (h : server.Steady) (time : Nat) (datagram : Datagram) :
    server.failure ≠ none ∧ server.step (.datagram time datagram) = server ∨
      GoesOn server (server.step (.datagram time datagram)) ∨
        GivesUp server datagram (server.step (.datagram time datagram)) := by
  by_cases hrunning : server.failure = none
  case neg =>
    have hstopped : server.isStopped = true := by
      simpa [isStopped, Option.isSome_iff_ne_none] using hrunning
    exact Or.inl ⟨hrunning, if_pos hstopped⟩
  have hheard : server.step (.datagram time datagram) = server.hear time datagram := by
    simp [step, isStopped, hrunning]
  rw [hheard]
  refine Or.inr ?_
  rcases server.hear_cases time datagram with hsame | ⟨message, hmessage, -, hserved⟩
  · have hquiet : server.sentBetween server = [] := sentBetween_self rfl
    rw [hsame]
    exact Or.inl ⟨h, hrunning, by simp [hquiet]⟩
  · have hsteady : (server.hearing (Peer.ofAddress datagram.source) time).Steady :=
      ⟨h.mismatch, h.kept, h.pending⟩
    rcases hsteady.serve hrunning rfl (Message.length_token_of_message hmessage) with
      hgoes | ⟨hrequest, transfer, reason, hstop⟩
    · rw [hserved]
      exact Or.inl ⟨hgoes.steady, hgoes.running, hgoes.compact⟩
    · rw [hserved, hstop]
      refine Or.inr ⟨⟨message, hmessage, hrequest⟩, ⟨reason, rfl⟩, sentBetween_self rfl, rfl, ?_⟩
      exact ⟨fun failure hfailure => ⟨reason, (Option.some.inj hfailure).symm⟩, h.kept, h.pending⟩

/-- What has not to do with requests stops no server, leaves the kept answer, and
queues nothing. -/
theorem step_of_other (server : Server) (hother : event.arrival? = none) :
    (server.step event).failure = server.failure ∧
      (server.step event).lastAnswer = server.lastAnswer ∧
      (server.endpoint.pending = [] → (server.step event).endpoint.pending = []) := by
  cases event with
  | datagram time datagram => cases hother
  | change change => exact ⟨rfl, rfl, id⟩
  | idle =>
      rw [step]
      rcases server.expireIf_cases fun _ => true with hsame | ⟨due, hreset⟩
      · rw [hsame]
        exact ⟨rfl, rfl, id⟩
      · rw [hreset]
        exact ⟨rfl, rfl, fun _ => rfl⟩
  | command time message =>
      simp only [step, sendToPeer]
      split
      · exact ⟨rfl, rfl, id⟩
      · rcases server.endpoint.sendMessage_cases message with ⟨failure, h⟩ | ⟨peer, -, -, h⟩
        · simp [h]
        · simp [h, Endpoint.afterSending]

/-- **Every event keeps the invariant.** -/
theorem Steady.step (h : server.Steady) (event : Event) : (server.step event).Steady := by
  have hquiet : event.arrival? = none → (server.step event).Steady := by
    intro hother
    obtain ⟨hfailure, hkept, hpending⟩ := server.step_of_other hother
    exact ⟨hfailure ▸ h.mismatch, hkept ▸ h.kept, hpending h.pending⟩
  cases event with
  | idle | change | command => exact hquiet rfl
  | datagram time datagram =>
      rcases h.step_datagram time datagram with ⟨-, hsame⟩ | hgoes | hgives
      · rw [hsame]
        exact h
      · exact hgoes.steady
      · exact hgives.steady

/-- So does every list of events. -/
theorem Steady.steps (h : server.Steady) (events : List Event) : (server.steps events).Steady := by
  induction events generalizing server with
  | nil => exact h
  | cons event rest ih => exact ih (h.step event)

/-! ## Main result -/

theorem shutdown_eq_error_iff {failure : Failure} :
    server.shutdown = .error failure ↔ server.failure = some failure := by
  unfold shutdown
  cases server.failure with
  | none => simp
  | some reason => simp

/-- What traffic does not do to a server. -/
structure Withstands (server : Server) : Prop where
  /-- Whatever is still to come, from whomever and whenever: if the loop ends with
  a failure, then because a request does not fit its transfer. -/
  loop : ∀ arrivals now failure,
    ((server.withArrivals arrivals).run now).shutdown = .error failure →
      ∃ reason, failure = .mismatch reason
  /-- The wait for the next message fails only if none comes: the peer has been
  silent for too long, or there is no sender. -/
  wait : ∀ arrivals now limit failure,
    ((server.withArrivals arrivals).endpoint.nextMessage now limit).result = .error failure →
      (∃ peer, failure = .timeout (.message peer)) ∨
        ∃ address, failure = .endless (.connection address)
  /-- A transfer can begin with whatever the store has. -/
  begins : ∀ path payload, server.store.get path = .ok payload → server.transfer? path = none →
    ∃ transfer, Transfer.ofBlockSize path payload server.blockSize.bytes = .ok transfer ∧
      server.transferFor path = .ok transfer
  /-- A block that a request is to get can be built. -/
  builds : ∀ request transfer block, server.transferFor request.path = .ok transfer →
    { transfer with phase := .validating transfer.next }.check request = .ok block →
      Block.forPayload transfer.next block.size.bytes transfer.payload.length = .ok block
  /-- What is sent in answer to a datagram has at most 1042 bytes. -/
  answers : ∀ time datagram,
    ∀ outgoing ∈ server.sentBetween (server.step (.datagram time datagram)),
      ∃ bytes, outgoing.message.encode = .ok bytes ∧ bytes.length ≤ 1042
  /-- What stops a running server is a request; it is not answered, and all that is
  counted is that it came. -/
  stops : ∀ event, server.failure = none → (server.step event).failure ≠ none →
    ∃ time datagram, event = .datagram time datagram ∧ server.GivesUp datagram (server.step event)

theorem Steady.withstands (h : server.Steady) : server.Withstands where
  loop := by
    intro arrivals now failure hshutdown
    have hsteady : (server.withArrivals arrivals).Steady := ⟨h.mismatch, h.kept, h.pending⟩
    obtain ⟨events, unread, -, hrun⟩ := (server.withArrivals arrivals).run_eq_steps now
    rw [hrun, shutdown_eq_error_iff] at hshutdown
    exact (hsteady.steps events).mismatch failure hshutdown
  wait := by
    intro arrivals now limit failure hwaited
    have hpending : (server.withArrivals arrivals).endpoint.pending = [] := h.pending
    rcases Endpoint.nextMessage_cases hpending now limit with
      ⟨peer, hsilent⟩ | ⟨address, hnobody⟩ | ⟨arrival, message, unread, -, hok, -⟩
    · exact Or.inl ⟨peer, Except.error.inj (hwaited.symm.trans hsilent)⟩
    · exact Or.inr ⟨address, Except.error.inj (hwaited.symm.trans hnobody)⟩
    · cases hok.symm.trans hwaited
  begins := by
    intro path payload hstored hnone
    refine ⟨_, Transfer.ofBlockSize_bytes path payload server.blockSize, ?_⟩
    simp [transferFor, hnone, hstored, Except.map]
  builds := by
    intro request transfer block _ hcheck
    exact Transfer.forPayload_of_checkAt hcheck
  answers := by
    intro time datagram outgoing hmem
    rcases h.step_datagram time datagram with ⟨-, hsame⟩ | hgoes | hgives
    · rw [hsame, sentBetween_self rfl] at hmem
      cases hmem
    · exact hgoes.compact outgoing hmem
    · rw [hgives.quiet] at hmem
      cases hmem
  stops := by
    intro event hrunning hstops
    have hquiet : event.arrival? = none → False := by
      intro hother
      rw [(server.step_of_other hother).1] at hstops
      exact hstops hrunning
    cases event with
    | idle | change | command => exact (hquiet rfl).elim
    | datagram time datagram =>
        rcases h.step_datagram time datagram with ⟨hstopped, -⟩ | hgoes | hgives
        · exact absurd hrunning hstopped
        · exact absurd hgoes.running hstops
        · exact ⟨time, datagram, rfl, hgives⟩

/-- **Only a protocol mismatch stops a server.**  With every gate and with settings
that have a valid block size it starts.  Then let anything happen: datagrams with
any bytes from any senders at any times, idle time-outs, messages that someone has
sent to the peer, and changes of a store with any content.  Afterwards the server
withstands whatever is still to come. -/
theorem withstands_traffic (address : SocketAddress) (security : Security) (firstId : UInt16)
    (gate : Gate) {settings : Settings} {size : BlockSize}
    (hvalid : settings.validBlockSize = .ok size) :
    ∃ server, start (Endpoint.bind address security firstId) gate settings = .ok server ∧
      ∀ store events, ({ server with store }.steps events).Withstands := by
  refine ⟨fresh (Endpoint.bind address security firstId) gate settings size, ?_, ?_⟩
  · rw [start, hvalid]
    rfl
  · intro store events
    refine (Steady.steps ?_ events).withstands
    exact ⟨by simp [fresh], by simp [fresh], rfl⟩

/-- A client that begins with the second block of a file stops the server, for that
reason. -/
theorem withstands_traffic_second_block :
    Settings.standard.validBlockSize = .ok BlockSize.largest ∧
      ∃ server, start (Endpoint.bind (.v4 127 0 0 1 5683) .none 0) Gate.answerAll
          Settings.standard = .ok server ∧
        (∀ store events, ({ server with store }.steps events).Withstands) ∧
        (({ server with store := server.store.set "a" [10] }.withArrivals
          [⟨0, .v4 127 0 0 1 40001, [0x40, 0x01, 0x00, 0x07, 0xB1, 97, 0xC1, 0x16]⟩]).run
            0).shutdown = .error (.mismatch (.firstBlock 1)) := by
  have hvalid : Settings.standard.validBlockSize = .ok BlockSize.largest := by decide
  obtain ⟨server, hstart, hwithstands⟩ := withstands_traffic (.v4 127 0 0 1 5683) .none 0
    Gate.answerAll hvalid
  refine ⟨hvalid, server, hstart, hwithstands, ?_⟩
  rw [start_eq_ok Gate.answerAll rfl] at hstart
  cases hstart
  decide +kernel

end Server
end Blockwise
