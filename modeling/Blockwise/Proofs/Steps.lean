/-!
# One step after another

What a controller or a scene does takes steps, each of which may fail and leaves a
state behind.

* `bind_of_ok`, `bind_of_error` — what comes of two steps when the first succeeds,
  and when it fails.
* `result_bind` — their result.
* `ok_of_bind` — if they succeed, each of them has.
-/

namespace Blockwise

variable {ε ρ α β : Type} {act : ExceptT ε (StateM ρ) α} {next : α → ExceptT ε (StateM ρ) β}
  {state after : ρ}

/-- What is done after something that succeeded. -/
theorem bind_of_ok {value : α} (h : act state = (.ok value, after)) :
    (act >>= next) state = next value after := by
  show (match act state with | (result, after) => ExceptT.bindCont next result after) = _
  rw [h]
  rfl

/-- Nothing is done after a failure. -/
theorem bind_of_error {error : ε} (h : act state = (.error error, after)) :
    (act >>= next) state = (.error error, after) := by
  show (match act state with | (result, after) => ExceptT.bindCont next result after) = _
  rw [h]
  rfl

/-- The result of two things that are done one after the other. -/
theorem result_bind (act : ExceptT ε (StateM ρ) α) (next : α → ExceptT ε (StateM ρ) β)
    (state : ρ) :
    ((act >>= next) state).1 = (act state).1.bind fun value => (next value (act state).2).1 := by
  cases hact : act state with
  | mk result after =>
      cases result with
      | ok value => rw [bind_of_ok hact]; rfl
      | error error => rw [bind_of_error hact]; rfl

/-- A success of two steps is one of the first and then one of the second. -/
theorem ok_of_bind {value : β} (h : (act >>= next) state = (.ok value, after)) :
    ∃ first between, act state = (.ok first, between) ∧
      next first between = (.ok value, after) := by
  cases hact : act state with
  | mk result between =>
      cases result with
      | error error =>
          rw [bind_of_error hact] at h
          cases h
      | ok first =>
          rw [bind_of_ok hact] at h
          exact ⟨first, between, rfl, h⟩

/-- To look at the state leaves it as it is. -/
theorem get_eq (state : ρ) : (get : ExceptT ε (StateM ρ) ρ) state = (.ok state, state) :=
  rfl

end Blockwise
