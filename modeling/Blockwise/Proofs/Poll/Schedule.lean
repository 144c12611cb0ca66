import Mathlib.Algebra.Order.Floor.Div
import Blockwise.Failure
import Blockwise.Proofs.Poll

/-!
# When a wait looks

A wait looks at its beginning, after every interval, and for the last time at its limit.  The
times of its looks are known beforehand; what they find only decides how many there are.

* `Poll.lookTime`, `Poll.lastLook` — when a look is taken, and which one is the last.
* `Poll.waitFrom_of_vain` — a look in vain, unless it is the last, leads to the next one.
* `Poll.wait_of_ready`, `Poll.wait_of_failed`, `Poll.wait_of_vain` — how the wait ends, for
  every probe.
* `Poll.wait_exact` — the main result, for every sequence of results.
-/

namespace Blockwise.Poll

/-! ## The times of the looks -/

/-- When a look is taken; the looks are counted from 0. -/
def lookTime (limit interval number : Nat) : Nat := min (number * interval) limit

/-- The number of the look at the limit. -/
def lastLook (limit interval : Nat) : Nat := limit ⌈/⌉ interval

variable {ε σ : Type} {limit interval number : Nat}

@[simp] theorem lookTime_zero (limit interval : Nat) : lookTime limit interval 0 = 0 := by
  simp [lookTime]

/-- Only the last look is taken at the limit. -/
theorem lookTime_lt_iff (hinterval : 0 < interval) :
    lookTime limit interval number < limit ↔ number < lastLook limit interval := by
  rw [← not_le (b := number), lastLook, ceilDiv_le_iff_le_mul hinterval, Nat.mul_comm, lookTime]
  omega

theorem lookTime_lastLook (hinterval : 0 < interval) :
    lookTime limit interval (lastLook limit interval) = limit := by
  have hnotBefore : ¬lookTime limit interval (lastLook limit interval) < limit :=
    (lookTime_lt_iff hinterval).not.2 (lt_irrefl _)
  rw [lookTime] at hnotBefore ⊢
  omega

/-- Between two looks the interval passes, or what is left of the limit. -/
theorem lookTime_add_pause (hinterval : 0 < interval)
    (hbefore : lookTime limit interval number < limit) :
    lookTime limit interval number + pause interval (limit - lookTime limit interval number) =
      lookTime limit interval (number + 1) := by
  rw [lookTime] at hbefore ⊢
  rw [lookTime, pause, Nat.add_one_mul]
  omega

/-! ## What the looks find -/

section Looks

variable (limit interval) (probe : Nat → σ → Except ε Bool × σ) (state : σ)

/-- The state before a look, when all looks before it have been taken. -/
def stateAt : Nat → σ
  | 0 => state
  | number + 1 => (probe (lookTime limit interval number) (stateAt number)).2

/-- What a look finds, when all looks before it have been taken. -/
def found (number : Nat) : Except ε Bool :=
  (probe (lookTime limit interval number) (stateAt limit interval probe state number)).1

/-- A look is known by what it finds and by the state after it. -/
theorem probe_lookTime (number : Nat) :
    probe (lookTime limit interval number) (stateAt limit interval probe state number) =
      (found limit interval probe state number, stateAt limit interval probe state (number + 1)) :=
  rfl

end Looks

variable {probe : Nat → σ → Except ε Bool × σ} {state : σ}

/-- **A look in vain leads to the next one**, unless it is the last. -/
theorem waitFrom_of_vain (hinterval : 0 < interval) (hlt : number < lastLook limit interval)
    (hvain : found limit interval probe state number = .ok false) :
    waitFrom limit interval probe (lookTime limit interval number)
        (stateAt limit interval probe state number) =
      waitFrom limit interval probe (lookTime limit interval (number + 1))
        (stateAt limit interval probe state (number + 1)) := by
  have hbefore := (lookTime_lt_iff hinterval).2 hlt
  rw [waitFrom, probe_lookTime limit interval probe state, hvain]
  simp only [hbefore, if_true, lookTime_add_pause hinterval hbefore]

/-- As long as nothing is found, the wait gets from look to look. -/
theorem wait_eq_waitFrom (hinterval : 0 < interval) (hle : number ≤ lastLook limit interval)
    (hvain : ∀ earlier < number, found limit interval probe state earlier = .ok false) :
    wait limit interval probe state =
      waitFrom limit interval probe (lookTime limit interval number)
        (stateAt limit interval probe state number) := by
  induction number with
  | zero => rw [wait, lookTime_zero, stateAt]
  | succ number ih =>
      rw [ih (by omega) fun earlier hearlier => hvain earlier (by omega)]
      exact waitFrom_of_vain hinterval (by omega) (hvain number (by omega))

/-- The wait succeeds with the first look that finds what is waited for. -/
theorem wait_of_ready (hinterval : 0 < interval) (hle : number ≤ lastLook limit interval)
    (hvain : ∀ earlier < number, found limit interval probe state earlier = .ok false)
    (hready : found limit interval probe state number = .ok true) :
    wait limit interval probe state =
      ⟨.ready, lookTime limit interval number,
        stateAt limit interval probe state (number + 1)⟩ := by
  rw [wait_eq_waitFrom hinterval hle hvain, waitFrom,
    probe_lookTime limit interval probe state, hready]

/-- The wait fails with the first look that fails. -/
theorem wait_of_failed (hinterval : 0 < interval) (hle : number ≤ lastLook limit interval)
    (hvain : ∀ earlier < number, found limit interval probe state earlier = .ok false) {error : ε}
    (hfailed : found limit interval probe state number = .error error) :
    wait limit interval probe state =
      ⟨.failed error, lookTime limit interval number,
        stateAt limit interval probe state (number + 1)⟩ := by
  rw [wait_eq_waitFrom hinterval hle hvain, waitFrom,
    probe_lookTime limit interval probe state, hfailed]

/-- When all looks are in vain, the wait ends at its limit. -/
theorem wait_of_vain (hinterval : 0 < interval)
    (hvain : ∀ number ≤ lastLook limit interval,
      found limit interval probe state number = .ok false) :
    wait limit interval probe state =
      ⟨.expired, limit, stateAt limit interval probe state (lastLook limit interval + 1)⟩ := by
  have hbefore : ∀ earlier < lastLook limit interval,
      found limit interval probe state earlier = .ok false :=
    fun earlier hearlier => hvain earlier (le_of_lt hearlier)
  rw [wait_eq_waitFrom hinterval le_rfl hbefore, waitFrom,
    probe_lookTime limit interval probe state, hvain _ le_rfl]
  simp only [lookTime_lastLook hinterval, lt_irrefl, if_false]

/-- What is there at the limit is found. -/
theorem ready_of_limit {condition : Nat → Bool} (hlimit : condition limit = true) :
    (wait limit interval (fun elapsed (_ : Unit) => (Except.ok (ε := ε) (condition elapsed), ()))
      ()).outcome = .ready := by
  refine (wait_ready (fun _ _ => True) limit interval (fun _ _ _ _ _ => trivial) ?_ trivial).1
  intro elapsed _ hle _
  refine ⟨condition elapsed, rfl, fun hmissing => ⟨lt_of_le_of_ne hle ?_, trivial⟩⟩
  rintro rfl
  exact absurd hlimit (by simp [hmissing])

/-! ## Results in turn -/

/-- The probe that gives the results of a sequence one by one, and notes when it is asked. -/
def noting (results : Nat → Except ε Bool) (elapsed : Nat) (times : List Nat) :
    Except ε Bool × List Nat :=
  (results times.length, times ++ [elapsed])

@[simp] theorem stateAt_noting (results : Nat → Except ε Bool) (number : Nat) :
    stateAt limit interval (noting results) [] number =
      (List.range number).map (lookTime limit interval) := by
  induction number with
  | zero => rfl
  | succ number ih => rw [stateAt, ih, noting, List.range_succ, List.map_append]; rfl

@[simp] theorem found_noting (results : Nat → Except ε Bool) (number : Nat) :
    found limit interval (noting results) [] number = results number := by
  rw [found, stateAt_noting, noting, List.length_map, List.length_range]

/-- **When a wait looks and how it ends.**  For every sequence of results, the look of a number
is taken after as many intervals, or at the limit if that comes first.  The first result that is
not in vain ends the wait, if it is among those of the looks up to the one at the limit: with
success, or with its error.  Otherwise the wait ends at the limit, after one look more than
there are intervals to the limit, with the failure that names what was awaited.  So what is
there at the limit at the latest is found.  With looks that cannot fail it is the same. -/
theorem wait_exact (limit interval : Nat) (hinterval : 0 < interval) (awaited : Awaited)
    (results : Nat → Except Failure Bool) :
    let ended := wait limit interval (noting results) []
    let result := ended.outcome.result (.timeout awaited)
    let last := limit ⌈/⌉ interval
    let time := fun number => min (number * interval) limit
    (∀ number ≤ last, (∀ earlier < number, results earlier = .ok false) →
      results number ≠ .ok false →
        result = (results number).map (fun _ => ()) ∧ ended.elapsed = time number ∧
          ended.state = (List.range (number + 1)).map time) ∧
      ((∀ number ≤ last, results number = .ok false) →
        result = .error (.timeout awaited) ∧ ended.elapsed = limit ∧
          ended.state = (List.range (last + 1)).map time) ∧
      (∀ (condition : Nat → Bool) (since : Nat), since ≤ limit →
        (∀ time, since ≤ time → time ≤ limit → condition time = true) →
        (wait limit interval (fun elapsed (_ : Unit) => (.ok (condition elapsed), ()))
          ()).outcome.result (Failure.timeout awaited) = .ok ()) ∧
      ∀ answers : Nat → Bool,
        waitUntil limit interval (fun elapsed times => (answers times.length, times ++ [elapsed]))
            [] =
          wait limit interval (noting fun number => Except.ok (ε := Failure) (answers number))
            [] := by
  intro ended result last time
  -- Result, end and looks are read off the wait as a whole.
  have hparts {outcome : Outcome Failure} {elapsed : Nat} {times : List Nat}
      (hended : ended = ⟨outcome, elapsed, times⟩) :
      result = outcome.result (.timeout awaited) ∧ ended.elapsed = elapsed ∧
        ended.state = times :=
    ⟨congrArg (·.outcome.result (Failure.timeout awaited)) hended, congrArg (·.elapsed) hended,
      congrArg (·.state) hended⟩
  refine ⟨?_, ?_, ?_, fun answers => rfl⟩
  · intro number hle hvain hdecided
    have hbefore : ∀ earlier < number,
        found limit interval (noting results) [] earlier = .ok false := by
      simpa using hvain
    cases hresult : results number with
    | error error =>
        have hended : ended = _ := wait_of_failed hinterval hle hbefore (by simpa using hresult)
        rw [stateAt_noting] at hended
        exact hparts hended
    | ok found =>
        cases found with
        | false => exact absurd hresult hdecided
        | true =>
            have hended : ended = _ := wait_of_ready hinterval hle hbefore (by simpa using hresult)
            rw [stateAt_noting] at hended
            exact hparts hended
  · intro hvain
    have hallInVain : ∀ number ≤ lastLook limit interval,
        found limit interval (noting results) [] number = .ok false := by
      intro number hle
      rw [found_noting, hvain number hle]
    have hended : ended = _ := wait_of_vain hinterval hallInVain
    rw [stateAt_noting] at hended
    exact hparts hended
  · intro condition since hsince hcondition
    rw [ready_of_limit (hcondition limit hsince le_rfl)]
    rfl

/-- A wait of ten with an interval of four looks at 0, 4, 8 and 10, and finds at ten what is there
then. -/
theorem wait_exact_remainder :
    let results : Nat → Except Failure Bool := fun number => .ok (decide (3 ≤ number))
    let ended := wait 10 4 (noting results) []
    0 < 4 ∧ 10 ⌈/⌉ 4 = 3 ∧ ended.outcome.result (.timeout .firstRequest) = .ok () ∧
      ended.elapsed = 10 ∧ ended.state = [0, 4, 8, 10] := by
  intro results ended
  obtain ⟨hfound, -⟩ := wait_exact 10 4 (by decide) .firstRequest results
  obtain ⟨hresult, helapsed, hstate⟩ := hfound 3 (by decide) (by decide) (by decide)
  exact ⟨by decide, by decide, hresult, helapsed, hstate⟩

end Blockwise.Poll
