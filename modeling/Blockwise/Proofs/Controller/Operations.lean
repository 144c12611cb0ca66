import Blockwise.Proofs.Controller.Answering
import Blockwise.Proofs.Poll

/-!
# The operations of a controller

Besides answering, a controller starts and finishes downloads, takes a request
without answering it, and interrupts the connection.

* `Controller.Quietly` — what sends nothing and leaves the queue in order; all of
  these operations do, whether they succeed or fail.
* `Controller.startDownload_of_ok` and its siblings — what is known when one of them
  succeeds.
-/

namespace Blockwise
namespace Controller

variable {σ : Type} {behaviour : Client σ} {controller after : Controller σ}

/-! ## What sends nothing -/

/-- Nothing was sent, and if the queue was in order, it still is. -/
structure Quiet (before after : Controller σ) : Prop where
  sent : after.sent = before.sent
  orderly : before.line.endpoint.Orderly → after.line.endpoint.Orderly

/-- What is done sends nothing and leaves the queue in order, from wherever it begins
and whether it succeeds or not. -/
def Quietly {α : Type} (act : Controlled σ α) : Prop :=
  ∀ controller, Quiet controller (act controller).2

section Quietly

variable {α β : Type} {act : Controlled σ α} {next : α → Controlled σ β}

theorem quietly_of_endpoint
    (h : ∀ controller, (act controller).2.line.endpoint = controller.line.endpoint) :
    Quietly act := by
  intro controller
  refine ⟨?_, ?_⟩
  · rw [sent, h, sent]
  · rw [h]
    exact id

/-- One quiet thing after another is quiet. -/
theorem Quietly.bind (hact : Quietly act) (hnext : ∀ value, Quietly (next value)) :
    Quietly (act >>= next) := by
  intro controller
  have hfirst := hact controller
  cases h : act controller with
  | mk result between =>
      rw [h] at hfirst
      cases result with
      | error failure =>
          rw [bind_of_error h]
          exact hfirst
      | ok value =>
          rw [bind_of_ok h]
          have hsecond := hnext value between
          exact ⟨hsecond.sent.trans hfirst.sent, hsecond.orderly ∘ hfirst.orderly⟩

theorem quietly_get : Quietly (get : Controlled σ (Controller σ)) :=
  quietly_of_endpoint fun _ => rfl

theorem quietly_result (result : Except Failure α) :
    Quietly (ExceptT.mk (pure result) : Controlled σ α) :=
  quietly_of_endpoint fun _ => rfl

end Quietly

theorem quietly_remote : Quietly (onLine Line.remote : Controlled σ Peer) :=
  quietly_of_endpoint fun _ => rfl

theorem quietly_reset : Quietly (onLine Line.reset : Controlled σ Unit) := fun controller =>
  ⟨rfl, fun _ => controller.line.endpoint.orderly_reset⟩

/-- What a command brings is on its way; nothing of it is queued. -/
theorem quietly_command (behaviour : Client σ) (command : Command) :
    Quietly (onLine (Line.command behaviour command)) := fun controller =>
  ⟨controller.line.endpoint.socket.sent_deliverAll _ _, fun h => ⟨h.connected, h.read⟩⟩

theorem quietly_accept (limit : Nat) : Quietly (onLine (Line.accept limit) : Controlled σ Peer) :=
  fun controller => ⟨controller.line.endpoint.sent_accept controller.line.now (some limit),
    fun h => h.accept controller.line.now (some limit)⟩

theorem quietly_expectSilence : Quietly (expectSilence : Controlled σ Unit) := by
  intro controller
  have haccept := quietly_accept controller.settings.offlineWindow controller
  unfold expectSilence
  split
  · rename_i peer later h
    rw [h] at haccept
    exact haccept
  · rename_i failure later h
    rw [h] at haccept
    split
    · exact haccept
    · exact haccept

theorem quietly_nextRequest : Quietly (nextRequest : Controlled σ Message) := fun controller =>
  ⟨(controller.line.endpoint.receiveRequest_keeps controller.line.now _).2.1, orderly_requested⟩

/-- To look at the sockets leaves the endpoint alone. -/
theorem endpoint_awaitSocketCount (behaviour : Client σ) (expected limit : Nat)
    (controller : Controller σ) :
    (awaitSocketCount behaviour expected limit controller).2.line.endpoint =
      controller.line.endpoint :=
  (Poll.wait_keeps (fun line : Line σ => line.endpoint = controller.line.endpoint) limit
    controller.settings.pollInterval (fun _ _ h => h) rfl).1

theorem quietly_awaitSocketCount (behaviour : Client σ) (expected limit : Nat) :
    Quietly (awaitSocketCount behaviour expected limit) :=
  quietly_of_endpoint (endpoint_awaitSocketCount behaviour expected limit)

/-- To accept during a command is to give the command and to wait for anyone from
before it on. -/
theorem acceptDuring_eq (behaviour : Client σ) (command : Command) (limit : Nat)
    (controller : Controller σ) :
    onLine (acceptDuring behaviour command limit) controller =
      let called := commanded behaviour command controller
      let line := called.2.line
      let accepted := line.endpoint.accept controller.line.now (some limit)
      (called.1.bind fun _ => accepted.result,
        { called.2 with line := { line with
          endpoint := accepted.endpoint
          now := max line.now accepted.time } }) := by
  simp only [onLine, acceptDuring, commanded]
  cases Line.command behaviour command controller.line with
  | mk result line => cases result <;> rfl

theorem quietly_acceptDuring (behaviour : Client σ) (command : Command) (limit : Nat) :
    Quietly (onLine (acceptDuring behaviour command limit)) := by
  intro controller
  have hcommand := quietly_command behaviour command controller
  rw [acceptDuring_eq]
  exact ⟨(Endpoint.sent_accept _ _ _).trans hcommand.sent,
    fun h => (hcommand.orderly h).accept controller.line.now (some limit)⟩

/-! ## The operations are quiet -/

theorem quietly_startDownload (behaviour : Client σ) (path : String) (payload : Bytes)
    (destination : String) : Quietly (startDownload behaviour path payload destination) := by
  unfold startDownload
  refine quietly_get.bind fun before => (quietly_of_endpoint fun _ => rfl).bind fun _ =>
    quietly_get.bind fun registered => ?_
  dsimp only
  cases Transfer.ofBlockSize (Path.normalize path) payload registered.settings.blockSize with
  | error error => exact quietly_result (.error (.block error))
  | ok transfer =>
      exact quietly_get.bind fun _ => (quietly_acceptDuring behaviour _ _).bind fun _ =>
      (quietly_awaitSocketCount behaviour 1 _).bind fun _ => quietly_result (.ok _)

theorem quietly_expectRequest (download : Download) :
    Quietly (expectRequest download : Controlled σ Message) := by
  refine quietly_nextRequest.bind fun request => ?_
  split
  · exact quietly_result _
  · exact quietly_result (.ok request)

theorem quietly_reconnect (behaviour : Client σ) : Quietly (reconnect behaviour) :=
  quietly_remote.bind fun _ => quietly_reset.bind fun _ =>
    (quietly_command behaviour _).bind fun _ => quietly_get.bind fun _ =>
      (quietly_accept _).bind fun _ => quietly_result _

theorem quietly_offlineThenOnline (behaviour : Client σ) : Quietly (offlineThenOnline behaviour) :=
  quietly_remote.bind fun _ => quietly_reset.bind fun _ =>
    (quietly_command behaviour _).bind fun _ => quietly_expectSilence.bind fun _ =>
      (quietly_command behaviour _).bind fun _ => quietly_get.bind fun _ =>
        (quietly_accept _).bind fun _ => quietly_result _

theorem quietly_finish (behaviour : Client σ) (download : Download) :
    Quietly (finish behaviour download) :=
  quietly_get.bind fun _ => (quietly_awaitSocketCount behaviour 0 _).bind fun _ =>
    quietly_get.bind fun _ => quietly_result _

/-! ## What a success tells -/

/-- Who is accepted during a command is the peer, with one message queued. -/
theorem acceptDuring_of_ok {command : Command} {limit : Nat} {peer : Peer}
    (h : onLine (acceptDuring behaviour command limit) controller = (.ok peer, after)) :
    after.line.endpoint.peer = some peer ∧
      ∃ message, after.line.endpoint.pending = controller.line.endpoint.pending ++ [message] := by
  rw [acceptDuring_eq] at h
  obtain ⟨hresult, rfl⟩ := Prod.mk.inj h
  cases hcalled : (commanded behaviour command controller).1 with
  | error failure =>
      rw [hcalled] at hresult
      cases hresult
  | ok _ =>
      rw [hcalled] at hresult
      exact Endpoint.accept_of_ok hresult

/-- A download that was started is a fresh transfer of the payload, and its client is
connected with one message queued. -/
theorem startDownload_of_ok {path destination : String} {payload : Bytes} {download : Download}
    (h : startDownload behaviour path payload destination controller = (.ok download, after)) :
    ∃ size, BlockSize.ofBytes controller.settings.blockSize = .ok size ∧
      download = ⟨destination, Transfer.begin (Path.normalize path) payload size⟩ ∧
      after.line.endpoint.isConnected = true ∧
      ∃ message, after.line.endpoint.pending = controller.line.endpoint.pending ++ [message] := by
  unfold startDownload at h
  obtain ⟨_, _, hget, h⟩ := ok_of_bind h
  cases hget
  obtain ⟨_, registered, hregistered, h⟩ := ok_of_bind h
  cases hregistered
  obtain ⟨_, _, hget, h⟩ := ok_of_bind h
  cases hget
  dsimp only at h
  cases hsize : BlockSize.ofBytes controller.settings.blockSize with
  | error error =>
      rw [Transfer.ofBlockSize, hsize] at h
      cases h
  | ok size =>
      rw [Transfer.ofBlockSize, hsize] at h
      obtain ⟨_, _, hget, h⟩ := ok_of_bind h
      cases hget
      obtain ⟨peer, accepted, haccepted, h⟩ := ok_of_bind h
      obtain ⟨_, waited, hwaited, h⟩ := ok_of_bind h
      cases h
      obtain ⟨hpeer, message, hpending⟩ := acceptDuring_of_ok haccepted
      have hcounted := endpoint_awaitSocketCount behaviour 1 controller.settings.socketCountTimeout
        accepted
      rw [hwaited] at hcounted
      refine ⟨size, rfl, rfl, ?_, message, ?_⟩
      · rw [hcounted, Endpoint.isConnected, hpeer]
        rfl
      · rw [hcounted]
        exact hpending

/-- A request that was expected is the one that the endpoint waits for, and it names
the block that is next. -/
theorem expectRequest_of_ok {download : Download} {request : Message}
    (h : expectRequest download controller = (.ok request, after)) :
    controller.requested.result = .ok request ∧ after = controller.waited controller.requested ∧
      ∃ block, download.transfer.check request = .ok block := by
  obtain ⟨received, between, hreceived, h⟩ := ok_of_bind h
  rw [nextRequest_eq] at hreceived
  obtain ⟨hresult, rfl⟩ := Prod.mk.inj hreceived
  cases hcheck : download.transfer.check received with
  | error mismatch =>
      rw [hcheck] at h
      cases h
  | ok block =>
      rw [hcheck] at h
      cases h
      exact ⟨hresult, rfl, block, hcheck⟩

/-- The client has come back to a controller: it was the peer before, and it is now,
from another port. -/
def Rebound (before after : Controller σ) (current : Peer) : Prop :=
  ∃ previous, before.line.endpoint.peer = some previous ∧
    after.line.endpoint.peer = some current ∧ current.port ≠ previous.port

theorem remote_of_ok {previous : Peer}
    (h : onLine Line.remote controller = (.ok previous, after)) :
    controller.line.endpoint.peer = some previous := by
  have hremote : controller.line.endpoint.remote = .ok previous := congrArg (·.1) h
  unfold Endpoint.remote at hremote
  split at hremote
  · rename_i peer hpeer
    cases hremote
    exact hpeer
  · cases hremote

/-- The last steps of an interruption leave a client that has moved. -/
theorem moved_of_ok {previous current : Peer}
    (h : (do
        let current ← onLine (Line.accept (← get).settings.acceptTimeout)
        ExceptT.mk (pure (ensureRebound previous current)) : Controlled σ Peer) controller =
      (.ok current, after)) :
    after.line.endpoint.peer = some current ∧ current.port ≠ previous.port := by
  obtain ⟨_, _, hget, h⟩ := ok_of_bind h
  cases hget
  obtain ⟨peer, accepted, haccepted, h⟩ := ok_of_bind h
  obtain ⟨hresult, rfl⟩ := Prod.mk.inj h
  obtain ⟨hfound, rfl⟩ := Prod.mk.inj haccepted
  obtain ⟨hpeer, -⟩ := Endpoint.accept_of_ok hfound
  by_cases hport : peer.port = previous.port
  · rw [ensureRebound, if_pos hport] at hresult
    cases hresult
  · rw [ensureRebound, if_neg hport] at hresult
    cases hresult
    exact ⟨hpeer, hport⟩

/-- A client that has reconnected has moved. -/
theorem reconnect_of_ok {current : Peer}
    (h : reconnect behaviour controller = (.ok current, after)) :
    Rebound controller after current := by
  obtain ⟨previous, _, hremote, h⟩ := ok_of_bind h
  obtain ⟨_, _, -, h⟩ := ok_of_bind h
  obtain ⟨_, _, -, h⟩ := ok_of_bind h
  exact ⟨previous, remote_of_ok hremote, moved_of_ok h⟩

/-- So has one that was offline and is back. -/
theorem offlineThenOnline_of_ok {current : Peer}
    (h : offlineThenOnline behaviour controller = (.ok current, after)) :
    Rebound controller after current := by
  obtain ⟨previous, _, hremote, h⟩ := ok_of_bind h
  obtain ⟨_, _, -, h⟩ := ok_of_bind h
  obtain ⟨_, _, -, h⟩ := ok_of_bind h
  obtain ⟨_, _, -, h⟩ := ok_of_bind h
  obtain ⟨_, _, -, h⟩ := ok_of_bind h
  exact ⟨previous, remote_of_ok hremote, moved_of_ok h⟩

/-- A look at the sockets succeeds if the client tells the number expected. -/
theorem lookAtSockets_of_ok {began expected elapsed : Nat} {line later : Line σ}
    (h : lookAtSockets behaviour began expected elapsed line = (.ok true, later)) :
    behaviour.socketCount ⟨began + elapsed, line.endpoint.socket.sent⟩ line.client =
      (.ok expected, later.client) := by
  obtain ⟨hcount, rfl⟩ := Prod.mk.inj h
  cases htold : behaviour.socketCount ⟨began + elapsed, line.endpoint.socket.sent⟩ line.client with
  | mk result client =>
      simp only [Line.observed, htold] at hcount ⊢
      cases result with
      | error failure => cases hcount
      | ok count => simpa [Except.map] using hcount

/-- What was waited for is what the last look at the sockets has found. -/
theorem awaitSocketCount_of_ok {expected limit : Nat}
    (h : awaitSocketCount behaviour expected limit controller = (.ok (), after)) :
    ∃ client, behaviour.socketCount ⟨after.line.now, controller.sent⟩ client =
      (.ok expected, after.line.client) := by
  let look := lookAtSockets behaviour controller.line.now expected
  let ended := Poll.wait limit controller.settings.pollInterval look controller.line
  obtain ⟨hresult, rfl⟩ := Prod.mk.inj h
  obtain ⟨before, hsame, hlook⟩ : ∃ before : Line σ,
      before.endpoint = controller.line.endpoint ∧ look ended.elapsed before =
        (.ok true, ended.state) :=
    (Poll.wait_keeps (fun line : Line σ => line.endpoint = controller.line.endpoint) _ _
      (fun _ _ h => h) rfl).2 (Poll.Outcome.result_eq_ok_iff.1 hresult)
  have htold := lookAtSockets_of_ok hlook
  rw [hsame] at htold
  exact ⟨before.client, htold⟩

/-- A download is finished when the client has closed its socket and its file is the
payload. -/
theorem finish_of_ok {download : Download}
    (h : finish behaviour download controller = (.ok (), after)) :
    after.line.endpoint = controller.line.endpoint ∧
      (∃ client, behaviour.socketCount ⟨after.line.now, controller.sent⟩ client =
        (.ok 0, after.line.client)) ∧
      behaviour.file download.destination after.line.client = some download.transfer.payload := by
  obtain ⟨_, _, hget, h⟩ := ok_of_bind h
  cases hget
  obtain ⟨_, counted, hcounted, h⟩ := ok_of_bind h
  obtain ⟨_, _, hget, h⟩ := ok_of_bind h
  cases hget
  obtain ⟨hverified, rfl⟩ := Prod.mk.inj h
  have hendpoint := endpoint_awaitSocketCount behaviour 0 controller.settings.completionTimeout
    controller
  rw [hcounted] at hendpoint
  refine ⟨hendpoint, awaitSocketCount_of_ok hcounted, ?_⟩
  unfold Client.verifyFile at hverified
  split at hverified
  · cases hverified
  · rename_i written hfile
    split at hverified
    · rename_i hsame
      rw [hfile, hsame]
    · cases hverified

end Controller
end Blockwise
