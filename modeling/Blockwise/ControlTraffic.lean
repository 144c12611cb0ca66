import Blockwise.Client
import Blockwise.Settings

/-!
# Control traffic

While a client downloads it has to keep answering requests on its control
connection.  The check asks for the same small resource round after round and
is content when each round gets an answer of class 2 in time.
-/

namespace Blockwise.ControlTraffic

variable {σ : Type}

/-- The path that each round asks for. -/
def path : String := "/1/0/1"

/-- The rounds from a given one on, each with its token. -/
def rounds (behaviour : Client σ) (settings : Settings) (tokens : Nat → Bytes) (round : Nat) :
    Nat → OnLine σ Unit
  | 0 => pure ()
  | left + 1 => do
    let response ← Line.request behaviour (Message.get path) (tokens round) settings.controlDeadline
    if response.code.classNumber ≠ 2 then throw (.client (.controlRound round response.code))
    rounds behaviour settings tokens (round + 1) left

/-- Takes the client's first datagram as its registration if there is no peer
yet, then runs all rounds. -/
def verify (behaviour : Client σ) (settings : Settings) (tokens : Nat → Bytes) :
    OnLine σ Unit := do
  unless (← get).endpoint.isConnected do
    let _ ← Line.accept settings.acceptTimeout
    let _ ← Line.receive settings.receiveTimeout
  rounds behaviour settings tokens 0 settings.controlRounds

end Blockwise.ControlTraffic
