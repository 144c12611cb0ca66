import Blockwise.Poll

/-!
# What comes of polling

* `Poll.wait_keeps` — what every look keeps, the wait keeps; and if what was waited
  for is there, then because the last look said so.
* `Poll.wait_ready` — what is there by the limit is found.
-/

namespace Blockwise.Poll

variable {ε σ : Type} {probe : Nat → σ → Except ε Bool × σ}

theorem waitFrom_keeps (keeps : σ → Prop) (limit interval : Nat)
    (hlook : ∀ elapsed state, keeps state → keeps (probe elapsed state).2)
    (elapsed : Nat) {state : σ} (h : keeps state) :
    let ended := waitFrom limit interval probe elapsed state
    keeps ended.state ∧
      (ended.outcome = .ready → ∃ before, keeps before ∧
        probe ended.elapsed before = (.ok true, ended.state)) := by
  fun_induction waitFrom limit interval probe elapsed state with
  | case1 elapsed state error after hprobe =>
      have hafter := hlook elapsed state h
      rw [hprobe] at hafter
      exact ⟨hafter, nofun⟩
  | case2 elapsed state after hprobe =>
      have hafter := hlook elapsed state h
      rw [hprobe] at hafter
      exact ⟨hafter, fun _ => ⟨state, h, hprobe⟩⟩
  | case3 elapsed state after hprobe hmore ih =>
      have hafter := hlook elapsed state h
      rw [hprobe] at hafter
      exact ih hafter
  | case4 elapsed state after hprobe hover =>
      have hafter := hlook elapsed state h
      rw [hprobe] at hafter
      exact ⟨hafter, nofun⟩

/-- Only what is there is a success. -/
theorem Outcome.result_eq_ok_iff {outcome : Outcome ε} {expiry : ε} :
    outcome.result expiry = .ok () ↔ outcome = .ready := by
  cases outcome <;> simp [result]

/-- **What every look keeps, the wait keeps**, and it only succeeds if the last look
does. -/
theorem wait_keeps (keeps : σ → Prop) (limit interval : Nat)
    (hlook : ∀ elapsed state, keeps state → keeps (probe elapsed state).2)
    {state : σ} (h : keeps state) :
    let ended := wait limit interval probe state
    keeps ended.state ∧
      (ended.outcome = .ready → ∃ before, keeps before ∧
        probe ended.elapsed before = (.ok true, ended.state)) :=
  waitFrom_keeps keeps limit interval hlook 0 h

theorem waitFrom_ready (keeps : Nat → σ → Prop) (limit interval : Nat)
    (hlater : ∀ elapsed later state, elapsed ≤ later → keeps elapsed state → keeps later state)
    (hlook : ∀ elapsed state, elapsed ≤ limit → keeps elapsed state →
      ∃ found, (probe elapsed state).1 = .ok found ∧
        (found = false → elapsed < limit ∧ keeps elapsed (probe elapsed state).2))
    (elapsed : Nat) {state : σ} (hle : elapsed ≤ limit) (h : keeps elapsed state) :
    let ended := waitFrom limit interval probe elapsed state
    ended.outcome = .ready ∧ ∃ before, ended.elapsed ≤ limit ∧ keeps ended.elapsed before ∧
      probe ended.elapsed before = (.ok true, ended.state) := by
  fun_induction waitFrom limit interval probe elapsed state with
  | case1 elapsed state error after hprobe =>
      obtain ⟨found, hfound, -⟩ := hlook elapsed state hle h
      rw [hprobe] at hfound
      cases hfound
  | case2 elapsed state after hprobe => exact ⟨rfl, state, hle, h, hprobe⟩
  | case3 elapsed state after hprobe hmore ih =>
      obtain ⟨found, hfound, hmissing⟩ := hlook elapsed state hle h
      rw [hprobe] at hfound hmissing
      cases hfound
      have hpause : elapsed + pause interval (limit - elapsed) ≤ limit := by
        rw [pause]
        omega
      exact ih hpause (hlater _ _ _ (Nat.le_add_right _ _) (hmissing rfl).2)
  | case4 elapsed state after hprobe hover =>
      -- At the limit the look would have found what is waited for.
      obtain ⟨found, hfound, hmissing⟩ := hlook elapsed state hle h
      rw [hprobe] at hfound
      cases hfound
      exact absurd (hmissing rfl).1 hover

/-- **What is there at the limit at the latest is found.**  If no look fails, and what
is waited for is there by the limit, the wait succeeds. -/
theorem wait_ready (keeps : Nat → σ → Prop) (limit interval : Nat)
    (hlater : ∀ elapsed later state, elapsed ≤ later → keeps elapsed state → keeps later state)
    (hlook : ∀ elapsed state, elapsed ≤ limit → keeps elapsed state →
      ∃ found, (probe elapsed state).1 = .ok found ∧
        (found = false → elapsed < limit ∧ keeps elapsed (probe elapsed state).2))
    {state : σ} (h : keeps 0 state) :
    let ended := wait limit interval probe state
    ended.outcome = .ready ∧ ∃ before, ended.elapsed ≤ limit ∧ keeps ended.elapsed before ∧
      probe ended.elapsed before = (.ok true, ended.state) :=
  waitFrom_ready keeps limit interval hlater hlook 0 (Nat.zero_le limit) h

end Blockwise.Poll
