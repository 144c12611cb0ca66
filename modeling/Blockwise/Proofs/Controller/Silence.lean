import Blockwise.Proofs.Controller.Interruption
import Blockwise.Proofs.Endpoint.Messages

/-!
# How silent the offline window is

Between the acknowledgement that the client has gone offline and the end of the
window no traffic is to arrive.  What is checked is that nobody calls, and only
datagrams that can be read are calls.

* `Endpoint.Log.inOrder_run` — what comes to an endpoint comes in order, whatever
  is called.
* `Controller.caller_eq_none_iff` — nobody calls exactly if nothing that comes in
  time can be read.
* `Controller.unreadable_of_ok` — what is known of the window when the client is
  welcome, and what becomes of a client that sends anything readable.
-/

namespace Blockwise

/-! ## The order of arrival -/

namespace Endpoint.Log

variable {log : Log}

/-- What is called leaves what comes in order. -/
theorem inOrder_step (h : Socket.InOrder log.endpoint.socket.arrivals) (call : Call) :
    Socket.InOrder (log.step call).endpoint.socket.arrivals := by
  have hinbound {after : Endpoint} (hafter : after.inbound = log.endpoint.inbound) :
      Socket.InOrder after.socket.arrivals := by
    have hsame : after.socket.arrivals = log.endpoint.socket.arrivals :=
      congrArg (·.socket.arrivals) hafter
    rwa [hsame]
  cases call with
  | deliver now datagrams => exact h.deliverAll now datagrams
  | accept now limit => exact h.sublist (suffix_accept log.endpoint now limit).sublist
  | receive now limit => exact h.sublist (suffix_receive log.endpoint now limit).sublist
  | reply request response => exact hinbound (inbound_reply log.endpoint request response)
  | send message => exact hinbound (inbound_send log.endpoint message)
  | reset => exact h
  | request now limit message token replies =>
      have hask := inbound_ask log.endpoint message token
      rw [step]
      cases hasked : log.endpoint.ask message token with
      | mk result sent =>
          rw [hasked] at hask
          cases result with
          | error failure => exact hinbound hask
          | ok request =>
              have hdelivered := (hinbound hask).deliverAll now replies
              exact hdelivered.sublist
                (suffix_awaitResponse (sent.deliverAll now replies) now limit request).sublist

/-- **What comes to an endpoint comes in order**, whatever is called. -/
theorem inOrder_run (h : Socket.InOrder log.endpoint.socket.arrivals) (calls : List Call) :
    Socket.InOrder (log.run calls).endpoint.socket.arrivals := by
  induction calls generalizing log with
  | nil => exact h
  | cons call calls ih => exact ih (inOrder_step h call)

end Endpoint.Log

namespace Controller

variable {σ : Type} {behaviour : Client σ} {controller : Controller σ}

/-! ## Nobody calls -/

/-- Of what comes in order, nobody calls exactly if nothing that comes by the limit
can be read. -/
theorem caller_eq_none_iff (horder : Socket.InOrder controller.arrivals) (limit : Nat) :
    controller.caller limit = none ↔
      ∀ arrival ∈ controller.arrivals, arrival.time ≤ controller.line.now + limit →
        arrival.datagram.isReadable = false := by
  rw [caller, Option.map_eq_none_iff, Socket.firstReadable, List.find?_eq_none]
  constructor
  · intro hnone arrival hmem htime
    simpa using hnone arrival (horder.mem_dueBy_iff.2 ⟨hmem, htime⟩)
  · intro hall arrival hdue
    obtain ⟨hmem, htime⟩ := horder.mem_dueBy_iff.1 hdue
    simpa using hall arrival hmem htime

/-- Where the client is welcome after the offline window, nobody has called in it. -/
theorem nobody_of_ok {current : Peer}
    (h : (offlineThenOnline behaviour controller).1 = .ok current) :
    (controller.entered behaviour).1 = .ok () ∧
      (controller.entered behaviour).2.caller controller.settings.offlineWindow = none := by
  cases hpeer : controller.line.endpoint.peer with
  | none => cases (result_of_no_peer hpeer).2.symm.trans h
  | some previous =>
      rw [result_offlineThenOnline behaviour hpeer] at h
      cases hentered : (controller.entered behaviour).1 with
      | error failure =>
          rw [hentered] at h
          cases h
      | ok _ =>
          rw [hentered] at h
          refine ⟨rfl, ?_⟩
          change (controller.entered behaviour).2.welcomeBack behaviour previous = _ at h
          unfold welcomeBack at h
          split at h
          · cases h
          · assumption

/-- Whoever calls in the offline window is unexpected. -/
theorem result_of_caller {previous peer : Peer}
    (hpeer : controller.line.endpoint.peer = some previous)
    (hentered : (controller.entered behaviour).1 = .ok ())
    (hcaller : (controller.entered behaviour).2.caller controller.settings.offlineWindow =
      some peer) :
    (offlineThenOnline behaviour controller).1 =
      .error (.unexpectedTraffic (.whileOffline peer)) := by
  have hwindow : (controller.entered behaviour).2.caller
      (controller.entered behaviour).2.settings.offlineWindow = some peer := hcaller
  rw [result_offlineThenOnline behaviour hpeer, hentered]
  show (controller.entered behaviour).2.welcomeBack behaviour previous = _
  rw [welcomeBack, hwindow]

/-- What comes to a controller is in order after a command. -/
theorem inOrder_commanded (horder : Socket.InOrder controller.arrivals) (behaviour : Client σ)
    (command : Command) :
    Socket.InOrder (commanded behaviour command controller).2.arrivals :=
  horder.deliverAll controller.line.now _

/-! ## Main result -/

/-- **Silence is checked up to what nobody can read.**  If the client is welcome
after it has been offline, then nothing that came by the end of the window can be
read, be it from whomever.  And if anything can, it was not silent, and the sender
of the first such datagram is named. -/
theorem unreadable_of_ok (horder : Socket.InOrder controller.arrivals) (behaviour : Client σ) :
    let entered := controller.entered behaviour
    let ended := entered.2.line.now + controller.settings.offlineWindow
    (∀ current, (offlineThenOnline behaviour controller).1 = .ok current →
        entered.1 = .ok () ∧ ∀ arrival ∈ entered.2.arrivals, arrival.time ≤ ended →
          arrival.datagram.isReadable = false) ∧
      ∀ previous, controller.line.endpoint.peer = some previous → entered.1 = .ok () →
        (∃ arrival ∈ entered.2.arrivals, arrival.time ≤ ended ∧
          arrival.datagram.isReadable = true) →
        ∃ first, Socket.firstReadable (some ended) entered.2.arrivals = some first ∧
          (offlineThenOnline behaviour controller).1 =
            .error (.unexpectedTraffic (.whileOffline (Peer.ofAddress first.datagram.source))) := by
  intro entered ended
  have hdisconnected : Socket.InOrder controller.disconnected.arrivals := horder
  have hentered : Socket.InOrder entered.2.arrivals := inOrder_commanded hdisconnected behaviour _
  have hnobody := caller_eq_none_iff hentered controller.settings.offlineWindow
  refine ⟨?_, ?_⟩
  · intro current hresult
    obtain ⟨hobeyed, hcaller⟩ := nobody_of_ok hresult
    exact ⟨hobeyed, hnobody.1 hcaller⟩
  · rintro previous hpeer hobeyed ⟨arrival, hmem, htime, hreadable⟩
    cases hfirst : Socket.firstReadable (some ended) entered.2.arrivals with
    | none =>
        have hunread := hnobody.1 (Option.map_eq_none_iff.2 hfirst) arrival hmem htime
        cases hreadable.symm.trans hunread
    | some first =>
        have hcaller : entered.2.caller controller.settings.offlineWindow =
            some (Peer.ofAddress first.datagram.source) :=
          Option.map_eq_some_iff.2 ⟨first, hfirst, rfl⟩
        exact ⟨first, rfl, result_of_caller hpeer hobeyed hcaller⟩

/-! ## A client that goes on sending -/

/-- A client that sends a byte a second after it has gone offline, and its request
from another port when it is told to come back. -/
def mutterer : Client Unit where
  obey command _ client :=
    let datagrams : List (Nat × Datagram) :=
      match command with
      | .enterOffline _ => [(Duration.seconds 1, ⟨.v4 127 0 0 1 40001, [0xFF]⟩)]
      | .exitOffline _ =>
        [(0, ⟨.v4 127 0 0 1 40002, [0x41, 0x01, 0x00, 0x07, 0x01, 0xB1, 0x61]⟩)]
      | _ => []
    ({ outcome := .ok (), delay := 0, datagrams }, client)
  reply _ _ client := ([], client)
  socketCount _ client := (.ok 1, client)
  socketTransport _ _ := .ok .udp
  file _ _ := none

/-- Its controller, which knows it by the port 40001. -/
def muttering : Controller Unit :=
  let endpoint := Endpoint.bind (.v4 127 0 0 1 5683) .none 0
  start { endpoint with peer := some ⟨.v4 127 0 0 1, 40001⟩ } () 0 Settings.standard

/-- The byte that comes in the window cannot be read, for the client is welcome. -/
theorem unreadable_of_ok_muttering :
    let entered := (muttering.entered mutterer).2
    (offlineThenOnline mutterer muttering).1 = .ok ⟨.v4 127 0 0 1, 40002⟩ ∧
      entered.arrivals.length = 1 ∧
      ∀ arrival ∈ entered.arrivals,
        arrival.time ≤ entered.line.now + muttering.settings.offlineWindow →
          arrival.datagram.isReadable = false := by
  intro entered
  have horder : Socket.InOrder muttering.arrivals := List.Pairwise.nil
  have hresult : (offlineThenOnline mutterer muttering).1 = .ok ⟨.v4 127 0 0 1, 40002⟩ := by
    decide +kernel
  obtain ⟨-, hunreadable⟩ := (unreadable_of_ok horder mutterer).1 _ hresult
  exact ⟨hresult, by decide +kernel, hunreadable⟩

/-- **A client that goes on sending passes for silent.**  A byte comes from the
client after it has acknowledged that it is offline and before the window ends.
All the same it is welcome afterwards. -/
theorem mutterer_welcome :
    let entered := muttering.entered mutterer
    let ended := entered.2.line.now + muttering.settings.offlineWindow
    entered.1 = .ok () ∧
      (∃ arrival ∈ entered.2.arrivals, entered.2.line.now < arrival.time ∧ arrival.time < ended) ∧
      (offlineThenOnline mutterer muttering).1 = .ok ⟨.v4 127 0 0 1, 40002⟩ := by
  decide +kernel

end Controller
end Blockwise
