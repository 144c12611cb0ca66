import Blockwise.Proofs.Message.Wire
import Blockwise.Proofs.Transfer.Handle
import Blockwise.Server

/-!
# Sending an answer

* `Endpoint.correlate_respond` — the answer to a confirmable request needs no
  fitting: it is sent as the transfer made it.
* `Endpoint.sendMessage_respond` — an answer with a block can always be sent
  where there is a peer and the token is one that a request can have.
-/

namespace Blockwise

/-! ## The answer of a transfer -/

namespace Transfer

/-- The only option of an answer is its block. -/
theorem fields_respond (transfer : Transfer) (request : Message) (block : Block) :
    (transfer.respond request block).options.fields = [⟨OptionField.block2, block.encode⟩] :=
  rfl

/-- An answer fits into a datagram. -/
theorem encode_respond (transfer : Transfer) {request : Message} (block : Block)
    (htoken : request.token.length ≤ Message.maxTokenLength) :
    ∃ bytes, (transfer.respond request block).encode = .ok bytes ∧
      bytes.length ≤ Datagram.sendLimit := by
  have hvalues : ∀ field ∈ (transfer.respond request block).options.fields,
      field.value.length ≤ 3 := by
    intro field hfield
    rw [fields_respond, List.mem_singleton] at hfield
    subst hfield
    exact block.length_encode_le
  obtain ⟨bytes, hbytes⟩ := Message.encode_isOk_iff.2
    ⟨(show (transfer.respond request block).token.length ≤ Message.maxTokenLength from htoken),
      fun field hfield => Nat.le_trans (hvalues field hfield) (by decide)⟩
  have hlength := Message.length_encode_le hbytes hvalues
  have hslice : (transfer.respond request block).payload.length ≤ block.size.bytes :=
    block.length_slice_le transfer.payload
  have hsize : block.size.bytes ≤ 1024 := block.size.bytes_le_largest
  rw [fields_respond, List.length_singleton] at hlength
  refine ⟨bytes, hbytes, ?_⟩
  simp only [Datagram.sendLimit]
  omega

end Transfer

/-! ## The endpoint -/

namespace Endpoint

variable {endpoint : Endpoint} {peer : Peer}

/-- The endpoint after a message went out to a peer. -/
def afterSending (endpoint : Endpoint) (peer : Peer) (message : Message) : Endpoint :=
  { endpoint with socket :=
      { endpoint.socket with sent := endpoint.socket.sent ++ [⟨peer.address, message⟩] } }

@[simp] theorem sent_afterSending (endpoint : Endpoint) (peer : Peer) (message : Message) :
    (endpoint.afterSending peer message).socket.sent =
      endpoint.socket.sent ++ [⟨peer.address, message⟩] :=
  rfl

/-- A message that fits into a datagram goes out to the peer. -/
theorem sendMessage_of_encode {message : Message} {bytes : Bytes}
    (hpeer : endpoint.peer = some peer) (hbytes : message.encode = .ok bytes)
    (hlength : bytes.length ≤ Datagram.sendLimit) :
    endpoint.sendMessage message = .ok (endpoint.afterSending peer message) := by
  simp only [sendMessage, hpeer, Socket.send, hbytes]
  rw [if_neg (by omega), afterSending, hpeer]

theorem sendMessage_respond (hpeer : endpoint.peer = some peer) (transfer : Transfer)
    {request : Message} (block : Block)
    (htoken : request.token.length ≤ Message.maxTokenLength) :
    endpoint.sendMessage (transfer.respond request block) =
      .ok (endpoint.afterSending peer (transfer.respond request block)) := by
  obtain ⟨bytes, hbytes, hlength⟩ := transfer.encode_respond block htoken
  exact sendMessage_of_encode hpeer hbytes hlength

/-- The answer to a confirmable request is sent as the transfer made it. -/
theorem correlate_respond (endpoint : Endpoint) (transfer : Transfer) {request : Message}
    (block : Block) (hconfirmable : request.kind = .confirmable) :
    endpoint.correlate request (transfer.respond request block) =
      (transfer.respond request block, endpoint) := by
  simp [correlate, Transfer.respond, Message.responseTo, Message.withBlock, Message.bare,
    hconfirmable]

end Endpoint
end Blockwise
