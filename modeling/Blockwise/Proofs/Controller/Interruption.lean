import Blockwise.Controller
import Blockwise.Proofs.Endpoint.Waits
import Blockwise.Proofs.Steps

/-!
# Interruptions of a connection

A controller that reconnects its client, or sends it offline and brings it back,
does so in steps: it forgets the peer, gives a command, waits for whoever comes.
What comes of an interruption depends on whom each of the waits finds.

* `Controller.caller` — whom a controller finds when it waits for anyone.
* `Controller.result_reconnect`, `Controller.result_offlineThenOnline` — the result
  of an interruption in terms of its callers.
* `Controller.behind` — a controller with datagrams in its socket in front of
  those that come.
-/

namespace Blockwise
namespace Controller

variable {σ : Type} {behaviour : Client σ} {controller : Controller σ} {limit : Nat}

/-! ## Commands -/

/-- A controller that has forgotten its peer. -/
def disconnected (controller : Controller σ) : Controller σ :=
  { controller with line := { controller.line with endpoint := controller.line.endpoint.reset } }

/-- What comes of a command to the client. -/
def commanded (behaviour : Client σ) (command : Command) (controller : Controller σ) :
    Except Failure Unit × Controller σ :=
  onLine (Line.command behaviour command) controller

/-- A command takes its time. -/
theorem now_commanded (behaviour : Client σ) (command : Command) (controller : Controller σ) :
    controller.line.now ≤ (commanded behaviour command controller).2.line.now :=
  Nat.le_add_right _ _

/-- The datagrams that come to a controller. -/
def arrivals (controller : Controller σ) : List Arrival :=
  controller.line.endpoint.socket.arrivals

/-! ## Waiting for anyone -/

/-- Whom a controller finds that waits for anyone: the sender of the first readable
datagram. -/
def caller (controller : Controller σ) (limit : Nat) : Option Peer :=
  (Socket.firstReadable (some (controller.line.now + limit)) controller.arrivals).map
    (Peer.ofAddress ·.datagram.source)

/-- A controller that has waited and found nobody. -/
def afterSilence (controller : Controller σ) (limit : Nat) : Controller σ :=
  let line := controller.line
  let ended := line.now + limit
  { controller with line := { line with
      endpoint := line.endpoint.withArrivals (Socket.lateFor (some ended) controller.arrivals)
      now := ended } }

/-- What a wait for anyone comes to if there is nobody. -/
def nobody (controller : Controller σ) : Failure :=
  .timeout (.connection controller.line.endpoint.socket.address)

/-- To accept is to find a caller. -/
theorem result_accept (controller : Controller σ) (limit : Nat) :
    (onLine (Line.accept limit) controller).1 =
      (controller.caller limit).elim (.error controller.nobody) .ok := by
  show (controller.line.endpoint.accept controller.line.now (some limit)).result = _
  rcases controller.line.endpoint.accept_cases_of controller.line.now (some limit) with
    ⟨hnone, hresult, -⟩ | ⟨_, arrival, _, _, hfirst, -, -, -, hresult, -⟩
  · have hcaller : controller.caller limit = none := Option.map_eq_none_iff.2 hnone
    rw [hresult, hcaller]
    rfl
  · have hcaller : controller.caller limit = some (Peer.ofAddress arrival.datagram.source) :=
      Option.map_eq_some_iff.2 ⟨arrival, hfirst, rfl⟩
    rw [hresult, hcaller]
    rfl

/-- Not to find a caller takes until the limit. -/
theorem accept_of_nobody (hnobody : controller.caller limit = none) :
    onLine (Line.accept limit) controller =
      (.error controller.nobody, controller.afterSilence limit) := by
  have hwaited := Endpoint.accept_of_none (Option.map_eq_none_iff.1 hnobody)
  simp only [onLine, Line.accept, Line.wait]
  rw [show controller.line.endpoint.accept controller.line.now (some limit) = _ from hwaited]
  rfl

/-- Whoever shows up in the offline window is unexpected; if nobody does, the
window is waited through. -/
theorem expectSilence_eq (controller : Controller σ) :
    expectSilence controller =
      match controller.caller controller.settings.offlineWindow with
      | none => (.ok (), controller.afterSilence controller.settings.offlineWindow)
      | some peer => (.error (.unexpectedTraffic (.whileOffline peer)),
          (onLine (Line.accept controller.settings.offlineWindow) controller).2) := by
  cases hcaller : controller.caller controller.settings.offlineWindow with
  | none =>
      unfold expectSilence
      rw [accept_of_nobody hcaller]
      rfl
  | some peer =>
      have hresult := controller.result_accept controller.settings.offlineWindow
      rw [hcaller] at hresult
      unfold expectSilence
      cases haccept : onLine (Line.accept controller.settings.offlineWindow) controller with
      | mk result after =>
          obtain rfl : result = .ok peer := by rw [haccept] at hresult; exact hresult
          rfl

/-! ## Interruptions -/

/-- The result of a last wait, in which the client has to come back. -/
def welcome (previous : Peer) (controller : Controller σ) : Except Failure Peer :=
  (controller.caller controller.settings.acceptTimeout).elim (.error controller.nobody)
    (ensureRebound previous)

/-- What comes of the command to reconnect. -/
def called (behaviour : Client σ) (controller : Controller σ) :
    Except Failure Unit × Controller σ :=
  commanded behaviour (.reconnect .udp) controller.disconnected

/-- What comes of the command to go offline. -/
def entered (behaviour : Client σ) (controller : Controller σ) :
    Except Failure Unit × Controller σ :=
  commanded behaviour (.enterOffline .udp) controller.disconnected

/-- What comes of the command to come back, after the offline window. -/
def exited (behaviour : Client σ) (controller : Controller σ) :
    Except Failure Unit × Controller σ :=
  commanded behaviour (.exitOffline .udp)
    (controller.afterSilence controller.settings.offlineWindow)

/-- The result of the offline window and of what follows, in which the client has to
come back. -/
def welcomeBack (behaviour : Client σ) (previous : Peer) (controller : Controller σ) :
    Except Failure Peer :=
  match controller.caller controller.settings.offlineWindow with
  | some peer => .error (.unexpectedTraffic (.whileOffline peer))
  | none => (controller.exited behaviour).1.bind fun _ =>
      (controller.exited behaviour).2.welcome previous

theorem reset_eq (controller : Controller σ) :
    onLine Line.reset controller = (.ok (), controller.disconnected) := rfl

theorem remote_eq {previous : Peer} (hpeer : controller.line.endpoint.peer = some previous) :
    onLine Line.remote controller = (.ok previous, controller) := by
  simp [onLine, Line.remote, Endpoint.remote, hpeer]

theorem result_welcome (previous : Peer) (controller : Controller σ) :
    ((do
        let current ← onLine (Line.accept (← get).settings.acceptTimeout)
        ExceptT.mk (pure (ensureRebound previous current)) : Controlled σ Peer) controller).1 =
      controller.welcome previous := by
  rw [bind_of_ok (get_eq controller), result_bind, result_accept, welcome]
  cases controller.caller controller.settings.acceptTimeout with
  | none => rfl
  | some peer => rfl

variable {previous : Peer}

/-- To reconnect is to forget the peer, to give the command, and to find a caller
that comes from elsewhere. -/
theorem result_reconnect (behaviour : Client σ)
    (hpeer : controller.line.endpoint.peer = some previous) :
    (reconnect behaviour controller).1 =
      (controller.called behaviour).1.bind fun _ =>
        (controller.called behaviour).2.welcome previous := by
  rw [reconnect, bind_of_ok (remote_eq hpeer), bind_of_ok (reset_eq controller), result_bind]
  exact congrArg (Except.bind _) (funext fun _ => result_welcome previous _)

theorem result_silence (behaviour : Client σ) (previous : Peer) (controller : Controller σ) :
    ((do
        expectSilence
        onLine (Line.command behaviour (.exitOffline .udp))
        let current ← onLine (Line.accept (← get).settings.acceptTimeout)
        ExceptT.mk (pure (ensureRebound previous current)) : Controlled σ Peer) controller).1 =
      controller.welcomeBack behaviour previous := by
  have hsilence := expectSilence_eq controller
  unfold welcomeBack
  cases hcaller : controller.caller controller.settings.offlineWindow with
  | some peer =>
      rw [hcaller] at hsilence
      rw [bind_of_error hsilence]
  | none =>
      rw [hcaller] at hsilence
      rw [bind_of_ok hsilence, result_bind]
      exact congrArg (Except.bind _) (funext fun _ => result_welcome previous _)

/-- To send the client offline and to bring it back is to forget the peer, to give
the command, and to find nobody before the client is back. -/
theorem result_offlineThenOnline (behaviour : Client σ)
    (hpeer : controller.line.endpoint.peer = some previous) :
    (offlineThenOnline behaviour controller).1 =
      (controller.entered behaviour).1.bind fun _ =>
        (controller.entered behaviour).2.welcomeBack behaviour previous := by
  rw [offlineThenOnline, bind_of_ok (remote_eq hpeer), bind_of_ok (reset_eq controller),
    result_bind]
  exact congrArg (Except.bind _) (funext fun _ => result_silence behaviour previous _)

/-- Without a peer there is nothing to interrupt. -/
theorem result_of_no_peer (hpeer : controller.line.endpoint.peer = none) :
    (reconnect behaviour controller).1 = .error .notConnected ∧
      (offlineThenOnline behaviour controller).1 = .error .notConnected := by
  have hremote : onLine Line.remote controller = (.error .notConnected, controller) := by
    simp [onLine, Line.remote, Endpoint.remote, hpeer]
  rw [reconnect, offlineThenOnline, bind_of_error hremote, bind_of_error hremote]
  exact ⟨rfl, rfl⟩

/-! ## Datagrams that are there already -/

/-- A controller with datagrams in its socket in front of those that come. -/
def behind (waiting : List Arrival) (controller : Controller σ) : Controller σ :=
  { controller with line := { controller.line with
      endpoint := controller.line.endpoint.withArrivals (waiting ++ controller.arrivals) } }

section Behind

variable {waiting : List Arrival} (h : ∀ arrival ∈ waiting, arrival.time ≤ controller.line.now)

include h

/-- What a client sends on a command comes behind what is there already. -/
theorem commanded_behind (behaviour : Client σ) (command : Command) :
    commanded behaviour command (controller.behind waiting) =
      let called := commanded behaviour command controller
      (called.1, called.2.behind waiting) := by
  have hdelivered := Socket.deliverAll_append h controller.line.endpoint.socket
    (behaviour.obey command controller.line.observed controller.line.client).1.datagrams
  simp only [commanded, onLine, Line.command, Line.deliver, behind, Endpoint.withArrivals, arrivals,
    Line.observed] at hdelivered ⊢
  rw [hdelivered]

/-- What is there already comes by every limit. -/
theorem due_of_waiting (limit : Nat) : ∀ arrival ∈ waiting,
    (some (controller.line.now + limit)).all (arrival.time ≤ ·) = true := by
  intro arrival hmem
  simpa using Nat.le_add_right_of_le (h arrival hmem)

/-- What is there already is found first. -/
theorem caller_behind (limit : Nat) :
    (controller.behind waiting).caller limit =
      ((waiting.find? (·.datagram.isReadable)).map (Peer.ofAddress ·.datagram.source)).or
        (controller.caller limit) := by
  have hfirst : Socket.firstReadable (some (controller.line.now + limit))
      (waiting ++ controller.arrivals) = (waiting.find? (·.datagram.isReadable)).or
        (Socket.firstReadable (some (controller.line.now + limit)) controller.arrivals) := by
    rw [Socket.firstReadable, Socket.dueBy_append (due_of_waiting h limit), List.find?_append]
    rfl
  exact (congrArg (Option.map _) hfirst).trans Option.map_or

/-- What is there already is gone after a wait for nobody. -/
theorem afterSilence_behind (limit : Nat) :
    (controller.behind waiting).afterSilence limit = controller.afterSilence limit := by
  simp only [afterSilence, behind, Endpoint.withArrivals, arrivals,
    Socket.lateFor_append (due_of_waiting h limit)]

end Behind

end Controller
end Blockwise
