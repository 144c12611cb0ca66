/-!
# Polling with a deadline

Some things can only be watched by looking again and again: how many sockets a
client has open, whether a first request has come.  `Poll.wait` looks at once,
then after each interval, and for the last time at the deadline; the pause
before the deadline is cut short.  Pauses take at least one nanosecond, since
no clock stands still, and that is why the wait ends.
-/

namespace Blockwise.Poll

/-- How a wait ended. -/
inductive Outcome (ε : Type) where
  /-- What was waited for is there. -/
  | ready
  /-- The deadline passed. -/
  | expired
  /-- A look failed. -/
  | failed (error : ε)
  deriving DecidableEq, Repr

/-- The outcome as a result, given the error that a passed deadline counts as. -/
def Outcome.result {ε : Type} (expiry : ε) : Outcome ε → Except ε Unit
  | .ready => .ok ()
  | .expired => .error expiry
  | .failed error => .error error

/-- A wait that has ended: how, how much time had passed, and the state. -/
structure Ended (ε σ : Type) where
  outcome : Outcome ε
  elapsed : Nat
  state : σ

/-- The pause before the next look when `left` is left of the limit. -/
def pause (interval left : Nat) : Nat := max 1 (min interval left)

/-- The wait from the time `elapsed` on. -/
def waitFrom {ε σ : Type} (limit interval : Nat) (probe : Nat → σ → Except ε Bool × σ)
    (elapsed : Nat) (state : σ) : Ended ε σ :=
  match probe elapsed state with
  | (.error error, state) => ⟨.failed error, elapsed, state⟩
  | (.ok true, state) => ⟨.ready, elapsed, state⟩
  | (.ok false, state) =>
    if elapsed < limit then
      waitFrom limit interval probe (elapsed + pause interval (limit - elapsed)) state
    else ⟨.expired, elapsed, state⟩
termination_by limit - elapsed
decreasing_by
  have : 0 < pause interval (limit - elapsed) :=
    Nat.lt_of_lt_of_le Nat.one_pos (Nat.le_max_left _ _)
  omega

/-- Looks until what is waited for is there, a look fails, or the limit has
passed.  A look gets the time that has passed and may change the state. -/
def wait {ε σ : Type} (limit interval : Nat) (probe : Nat → σ → Except ε Bool × σ)
    (state : σ) : Ended ε σ :=
  waitFrom limit interval probe 0 state

/-- The same with looks that cannot fail. -/
def waitUntil {ε σ : Type} (limit interval : Nat) (look : Nat → σ → Bool × σ) (state : σ) :
    Ended ε σ :=
  wait limit interval (fun elapsed state =>
    let (found, state) := look elapsed state
    (.ok found, state)) state

end Blockwise.Poll
