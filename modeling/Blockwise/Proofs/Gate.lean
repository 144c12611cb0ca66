import Blockwise.Gate

/-!
# Counting requests and ignoring them

* `History.count_push` — one more request counts once more, and the others as
  before.
* `ModuloBackoff.totalDrops_succ` — the drops of one more block come on top.
* `ModuloBackoff.gate_of_block` — what the gate says to a request for a block.
-/

namespace Blockwise

/-! ## The history -/

namespace History

/-- One more request counts once more, and the others as before. -/
theorem count_push (history : History) (record other : RequestRecord) :
    (history.push record).count other =
      history.count other + if other = record then 1 else 0 := by
  rw [push, count, List.count_append, List.count_singleton, count]
  by_cases h : other = record
  · subst h
    simp
  · rw [if_neg h, if_neg (by simpa using Ne.symm h)]

@[simp] theorem count_empty (record : RequestRecord) : empty.count record = 0 :=
  rfl

@[simp] theorem length_push (history : History) (record : RequestRecord) :
    (history.push record).length = history.length + 1 := by
  simp [push, length]

end History

/-! ## The gate -/

namespace ModuloBackoff

@[simp] theorem requiredDrops_zero (backoff : ModuloBackoff) : backoff.requiredDrops 0 = 0 :=
  Nat.zero_mod _

/-- The drops of one more block come on top. -/
theorem totalDrops_succ (backoff : ModuloBackoff) (blocks : Nat) :
    backoff.totalDrops (blocks + 1) = backoff.totalDrops blocks + backoff.requiredDrops blocks := by
  rw [totalDrops, Nat.fold_succ, totalDrops]

/-- More blocks do not take fewer drops. -/
theorem totalDrops_le (backoff : ModuloBackoff) {blocks more : Nat} (h : blocks ≤ more) :
    backoff.totalDrops blocks ≤ backoff.totalDrops more := by
  induction h with
  | refl => exact Nat.le_refl _
  | step _ ih =>
      rw [totalDrops_succ]
      exact Nat.le_trans ih (Nat.le_add_right _ _)

/-- A modulus of zero counts as one, whether or not it is made one first. -/
theorem requiredDrops_ofModulus (modulus number : Nat) :
    (ofModulus modulus).requiredDrops number = requiredDrops ⟨modulus⟩ number := by
  rw [requiredDrops, requiredDrops, ofModulus, Nat.max_assoc, Nat.max_self]

theorem totalDrops_ofModulus (modulus blocks : Nat) :
    (ofModulus modulus).totalDrops blocks = totalDrops ⟨modulus⟩ blocks := by
  simp only [totalDrops, requiredDrops_ofModulus]

variable {backoff : ModuloBackoff} {request : Message}

/-- A request for a block is ignored until it was seen often enough. -/
theorem gate_of_block {block : Block} (h : request.block = .ok (some block)) (prior : Nat) :
    backoff.gate request prior = decide (prior < backoff.requiredDrops block.number.val) := by
  rw [gate, h]

/-- A request without a block that can be read is let through. -/
theorem gate_of_unnamed (h : ∀ block, request.block ≠ .ok (some block)) (prior : Nat) :
    backoff.gate request prior = false := by
  rw [gate]
  split
  · rename_i block hnamed
    exact absurd hnamed (h block)
  · rfl

/-- With the modulus one nothing is ignored. -/
theorem gate_one : gate ⟨1⟩ = Gate.answerAll := by
  funext request prior
  by_cases hnamed : ∃ block, request.block = .ok (some block)
  · obtain ⟨block, hblock⟩ := hnamed
    rw [gate_of_block hblock]
    simp [requiredDrops, Nat.mod_one, Gate.answerAll]
  · exact gate_of_unnamed (not_exists.1 hnamed) prior

end ModuloBackoff
end Blockwise
