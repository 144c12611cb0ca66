import Blockwise.Client.Script
import Blockwise.Proofs.Controller.Interruption

/-!
# What a client is blamed for

An interruption is to find out whether the client does as it is told.  But a reset
leaves the socket as it is, and what has come before the interruption is found by
it as if the client had sent it then.

* `Controller.result_reconnect_behind`, `Controller.result_offlineThenOnline_behind`
  — the result for any client, with datagrams in the socket when the interruption
  begins.
* `Controller.Reconnects`, `Controller.GoesOffline` — a client that does as it is
  told.
* `Controller.verdict_behind` — the verdict on such a client is that on the first
  readable datagram that is there already, and only if there is none it is the
  client's.
-/

namespace Blockwise
namespace Controller

variable {σ : Type} {behaviour : Client σ} {controller : Controller σ} {previous current : Peer}

/-! ## Interruptions of any client -/

/-- The sender of the first readable datagram that is there already. -/
def stale (waiting : List Arrival) : Option Peer :=
  (waiting.find? (·.datagram.isReadable)).map (Peer.ofAddress ·.datagram.source)

section Behind

variable {waiting : List Arrival} (h : ∀ arrival ∈ waiting, arrival.time ≤ controller.line.now)

include h

/-- What is there already is welcome first. -/
theorem welcome_behind (previous : Peer) :
    (controller.behind waiting).welcome previous =
      (stale waiting).elim (controller.welcome previous) (ensureRebound previous) := by
  show ((controller.behind waiting).caller controller.settings.acceptTimeout).elim _ _ = _
  rw [caller_behind h]
  show ((stale waiting).or _).elim _ _ = _
  cases stale waiting with
  | none => rfl
  | some peer => rfl

/-- What is there already is found in the offline window first. -/
theorem welcomeBack_behind (behaviour : Client σ) (previous : Peer) :
    (controller.behind waiting).welcomeBack behaviour previous =
      (stale waiting).elim (controller.welcomeBack behaviour previous)
        (.error <| .unexpectedTraffic <| .whileOffline ·) := by
  have hexited : (controller.behind waiting).exited behaviour = controller.exited behaviour :=
    congrArg (commanded behaviour (.exitOffline .udp)) (afterSilence_behind h _)
  have hcaller : (controller.behind waiting).caller
      (controller.behind waiting).settings.offlineWindow =
        (stale waiting).or (controller.caller controller.settings.offlineWindow) :=
    caller_behind h _
  rw [welcomeBack, hexited, hcaller]
  cases stale waiting with
  | none => rfl
  | some peer => rfl

theorem result_reconnect_behind (behaviour : Client σ)
    (hpeer : controller.line.endpoint.peer = some previous) :
    (reconnect behaviour (controller.behind waiting)).1 =
      (controller.called behaviour).1.bind fun _ =>
        (stale waiting).elim ((controller.called behaviour).2.welcome previous)
          (ensureRebound previous) := by
  have hdisconnected : ∀ arrival ∈ waiting, arrival.time ≤ controller.disconnected.line.now := h
  have hcalled : (controller.behind waiting).called behaviour =
      ((controller.called behaviour).1, (controller.called behaviour).2.behind waiting) :=
    commanded_behind hdisconnected behaviour _
  have hnow : ∀ arrival ∈ waiting, arrival.time ≤ (controller.called behaviour).2.line.now := by
    intro arrival hmem
    exact Nat.le_trans (h arrival hmem) (now_commanded behaviour _ controller.disconnected)
  have hbehind : (controller.behind waiting).line.endpoint.peer = some previous := hpeer
  rw [result_reconnect behaviour hbehind, hcalled]
  exact congrArg (Except.bind _) (funext fun _ => welcome_behind hnow previous)

theorem result_offlineThenOnline_behind (behaviour : Client σ)
    (hpeer : controller.line.endpoint.peer = some previous) :
    (offlineThenOnline behaviour (controller.behind waiting)).1 =
      (controller.entered behaviour).1.bind fun _ =>
        (stale waiting).elim ((controller.entered behaviour).2.welcomeBack behaviour previous)
          (.error <| .unexpectedTraffic <| .whileOffline ·) := by
  have hdisconnected : ∀ arrival ∈ waiting, arrival.time ≤ controller.disconnected.line.now := h
  have hentered : (controller.behind waiting).entered behaviour =
      ((controller.entered behaviour).1, (controller.entered behaviour).2.behind waiting) :=
    commanded_behind hdisconnected behaviour _
  have hnow : ∀ arrival ∈ waiting, arrival.time ≤ (controller.entered behaviour).2.line.now := by
    intro arrival hmem
    exact Nat.le_trans (h arrival hmem) (now_commanded behaviour _ controller.disconnected)
  have hbehind : (controller.behind waiting).line.endpoint.peer = some previous := hpeer
  rw [result_offlineThenOnline behaviour hbehind, hentered]
  exact congrArg (Except.bind _) (funext fun _ => welcomeBack_behind hnow behaviour previous)

end Behind

/-! ## Clients that obey -/

/-- The client reconnects when it is told to, and what comes then comes from another
port. -/
structure Reconnects (behaviour : Client σ) (controller : Controller σ)
    (previous current : Peer) : Prop where
  obeyed : (controller.called behaviour).1 = .ok ()
  calls : (controller.called behaviour).2.caller controller.settings.acceptTimeout = some current
  moved : current.port ≠ previous.port

/-- The client is silent when it is told to be, up to what nobody can read, and
comes back when it is told to, from another port. -/
structure GoesOffline (behaviour : Client σ) (controller : Controller σ)
    (previous current : Peer) : Prop where
  obeyed : (controller.entered behaviour).1 = .ok ()
  silent : (controller.entered behaviour).2.caller controller.settings.offlineWindow = none
  returned : ((controller.entered behaviour).2.exited behaviour).1 = .ok ()
  calls : ((controller.entered behaviour).2.exited behaviour).2.caller
    controller.settings.acceptTimeout = some current
  moved : current.port ≠ previous.port

/-- Whoever comes from another port is welcome. -/
theorem welcome_of_caller (hmoved : current.port ≠ previous.port)
    (hcalls : controller.caller controller.settings.acceptTimeout = some current) :
    controller.welcome previous = .ok current := by
  rw [welcome, hcalls]
  exact if_neg hmoved

theorem Reconnects.welcome (h : Reconnects behaviour controller previous current) :
    (controller.called behaviour).2.welcome previous = .ok current :=
  welcome_of_caller h.moved h.calls

theorem GoesOffline.welcomeBack (h : GoesOffline behaviour controller previous current) :
    (controller.entered behaviour).2.welcomeBack behaviour previous = .ok current := by
  have hsilent : (controller.entered behaviour).2.caller
      (controller.entered behaviour).2.settings.offlineWindow = none := h.silent
  rw [Controller.welcomeBack, hsilent, h.returned]
  exact welcome_of_caller h.moved h.calls

/-! ## Main result -/

/-- **What is there already is taken for what the client does.**  On a client that
does as it is told the verdict is its new handle.  With datagrams in the socket
when the interruption begins it still is if none of them can be read.  Otherwise
it is the verdict on the first that can: when the client was to reconnect, that
its sender is accepted in the client's place, or that it has not moved; when it
was to go offline, that it was not silent. -/
theorem verdict_behind (hpeer : controller.line.endpoint.peer = some previous)
    {waiting : List Arrival} (hwaiting : ∀ arrival ∈ waiting, arrival.time ≤ controller.line.now)
    (behaviour : Client σ) (current : Peer) :
    (Reconnects behaviour controller previous current →
      (reconnect behaviour controller).1 = .ok current ∧
        (reconnect behaviour (controller.behind waiting)).1 =
          (stale waiting).elim (.ok current) (ensureRebound previous)) ∧
      (GoesOffline behaviour controller previous current →
        (offlineThenOnline behaviour controller).1 = .ok current ∧
          (offlineThenOnline behaviour (controller.behind waiting)).1 =
            (stale waiting).elim (.ok current)
              (.error <| .unexpectedTraffic <| .whileOffline ·)) := by
  refine ⟨?_, ?_⟩
  · intro h
    rw [result_reconnect behaviour hpeer, result_reconnect_behind hwaiting behaviour hpeer,
      h.obeyed, h.welcome]
    exact ⟨rfl, rfl⟩
  · intro h
    rw [result_offlineThenOnline behaviour hpeer,
      result_offlineThenOnline_behind hwaiting behaviour hpeer, h.obeyed, h.welcomeBack]
    exact ⟨rfl, rfl⟩

/-! ## A client that moves to another port -/

/-- A request from a port of the local host. -/
def request (port : UInt16) : Datagram :=
  ⟨.v4 127 0 0 1 port, [0x41, 0x01, 0x00, 0x07, 0x01, 0xB1, 0x61]⟩

/-- A controller whose client is known by the port 40001 and does on each command
what is said. -/
def scripted (reactions : List ScriptedReaction) : Controller Script :=
  let endpoint := Endpoint.bind (.v4 127 0 0 1 5683) .none 0
  start { endpoint with peer := some (Peer.ofAddress (request 40001).source) }
    { Script.idle with reactions } 0 Settings.standard

/-- A client that sends its request from another port when it is told to
reconnect. -/
def reconnecting : Controller Script := scripted [⟨[request 40002], none⟩]

/-- A client that is silent when it goes offline, and sends its request from another
port when it is told to come back. -/
def returning : Controller Script := scripted [⟨[], none⟩, ⟨[request 40002], none⟩]

theorem reconnects_reconnecting :
    Reconnects Script.client reconnecting (Peer.ofAddress (request 40001).source)
      (Peer.ofAddress (request 40002).source) :=
  ⟨by decide +kernel, by decide +kernel, by decide +kernel⟩

theorem goesOffline_returning :
    GoesOffline Script.client returning (Peer.ofAddress (request 40001).source)
      (Peer.ofAddress (request 40002).source) :=
  ⟨by decide +kernel, by decide +kernel, by decide +kernel, by decide +kernel, by decide +kernel⟩

/-- A byte from the old port does no harm to either of them. -/
theorem verdict_behind_noise :
    let waiting : List Arrival := [⟨0, ⟨.v4 127 0 0 1 40001, [0xFF]⟩⟩]
    let moved := Peer.ofAddress (request 40002).source
    (reconnect Script.client (reconnecting.behind waiting)).1 = .ok moved ∧
      (offlineThenOnline Script.client (returning.behind waiting)).1 = .ok moved := by
  intro waiting moved
  have hearlier : ∀ arrival ∈ waiting, arrival.time ≤ reconnecting.line.now := by decide
  have hbefore : ∀ arrival ∈ waiting, arrival.time ≤ returning.line.now := by decide
  have hstale : stale waiting = none := by decide +kernel
  obtain ⟨-, hreconnect⟩ :=
    (verdict_behind rfl hearlier Script.client moved).1 reconnects_reconnecting
  obtain ⟨-, hreturn⟩ :=
    (verdict_behind rfl hbefore Script.client moved).2 goesOffline_returning
  rw [hstale] at hreconnect hreturn
  exact ⟨hreconnect, hreturn⟩

/-- **A client is blamed for a retransmission.**  The clients do as they are told.
But before they were told anything, a retransmission of their request has come
from the old port, and so one of them is said not to have moved, and the other to
have sent data while offline. -/
theorem retransmission_blamed :
    let previous := Peer.ofAddress (request 40001).source
    let moved := Peer.ofAddress (request 40002).source
    let waiting : List Arrival := [⟨0, request 40001⟩]
    (Reconnects Script.client reconnecting previous moved ∧
        (reconnect Script.client reconnecting).1 = .ok moved ∧
        (reconnect Script.client (reconnecting.behind waiting)).1 =
          .error (.unchangedRemote previous)) ∧
      GoesOffline Script.client returning previous moved ∧
        (offlineThenOnline Script.client returning).1 = .ok moved ∧
        (offlineThenOnline Script.client (returning.behind waiting)).1 =
          .error (.unexpectedTraffic (.whileOffline previous)) := by
  refine ⟨⟨reconnects_reconnecting, ?_, ?_⟩, goesOffline_returning, ?_, ?_⟩
  all_goals decide +kernel

end Controller
end Blockwise
