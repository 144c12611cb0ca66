import Blockwise.Block
import Blockwise.Duration

/-!
# Settings

The block size offered to clients and the time allowed for each kind of wait.
All waits can be scaled by one factor, for slow hosts or fast tests.
-/

namespace Blockwise

/-- The block size and the waits. -/
structure Settings where
  /-- The block size offered, in bytes; a smaller one that the first request
  asks for wins. -/
  blockSize : Nat
  /-- How long a client may take to show up. -/
  acceptTimeout : Nat
  /-- How long an offline client has to be silent. -/
  offlineWindow : Nat
  /-- How long a client may take for each request. -/
  receiveTimeout : Nat
  /-- How long a client may take to open or close its socket. -/
  socketCountTimeout : Nat
  /-- How long a client may take to report a finished download. -/
  completionTimeout : Nat
  /-- The pause between two looks at a client. -/
  pollInterval : Nat
  /-- How long each control exchange may take. -/
  controlDeadline : Nat
  /-- How many control exchanges there are. -/
  controlRounds : Nat
  deriving DecidableEq, Repr

namespace Settings

/-- The settings used unless others are given. -/
def standard : Settings where
  blockSize := BlockSize.largest.bytes
  acceptTimeout := Duration.seconds 5
  offlineWindow := Duration.seconds 5
  receiveTimeout := Duration.seconds 5
  socketCountTimeout := Duration.seconds 1
  completionTimeout := Duration.seconds 10
  pollInterval := Duration.milliseconds 100
  controlDeadline := Duration.seconds 1
  controlRounds := 10

/-- The settings with every wait scaled, or nothing if a wait gets too long. -/
def scale? (settings : Settings) (factor : Float) : Option Settings := do
  let scale := Duration.scale? factor
  return { settings with
    acceptTimeout := ← scale settings.acceptTimeout
    offlineWindow := ← scale settings.offlineWindow
    receiveTimeout := ← scale settings.receiveTimeout
    socketCountTimeout := ← scale settings.socketCountTimeout
    completionTimeout := ← scale settings.completionTimeout
    pollInterval := ← scale settings.pollInterval
    controlDeadline := ← scale settings.controlDeadline }

/-- The block size offered, if there is such a size. -/
def validBlockSize (settings : Settings) : Except BlockError BlockSize :=
  BlockSize.ofBytes settings.blockSize

end Settings
end Blockwise
