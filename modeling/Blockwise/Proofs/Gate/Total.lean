import Blockwise.Proofs.Gate
import Mathlib.Algebra.Group.Nat.Even
import Mathlib.Data.Nat.Choose.Basic
import Mathlib.Data.UInt

/-!
# How many requests a whole transfer takes in vain

The gate ignores the first block of a period never, the second once, and so on to the last,
and then begins again.  So the number of all that it ignores is a sum of triangular numbers:
one for each whole period, and one for the blocks behind the last of these.

A machine adds this number up in words.  That it comes to the same has to be shown: a machine
cannot divide by zero, and a sum must not run over.

* `ModuloBackoff.totalDrops_eq` — the number for any modulus and any count of blocks.
* `ModuloBackoff.totalDrops_le_triangle` — no modulus makes it more than a triangular number.
* `ModuloBackoff.totalInWords` — the same sum, added up in words.
* `ModuloBackoff.totalInWords_eq` — as long as blocks are counted in 32 bits, nothing fails.
* `ModuloBackoff.totalDrops_closed_form` — the main result: all of this together.
-/

namespace Blockwise

namespace ModuloBackoff

/-! ## Periods of blocks -/

variable (backoff : ModuloBackoff)

/-- After how many blocks the gate begins again. -/
def period : Nat := max backoff.modulus 1

theorem period_pos : 0 < backoff.period :=
  Nat.lt_of_lt_of_le Nat.one_pos (Nat.le_max_right _ _)

/-- The place of a block in its period is how often a request for it is ignored. -/
theorem requiredDrops_of_lt (periods : Nat) {place : Nat} (h : place < backoff.period) :
    backoff.requiredDrops (backoff.period * periods + place) = place := by
  show (backoff.period * periods + place) % backoff.period = place
  rw [Nat.mul_add_mod, Nat.mod_eq_of_lt h]

/-- Blocks of a period that has begun. -/
theorem totalDrops_mul_add (periods : Nat) {rest : Nat} (h : rest ≤ backoff.period) :
    backoff.totalDrops (backoff.period * periods + rest) =
      backoff.totalDrops (backoff.period * periods) + rest * (rest - 1) / 2 := by
  induction rest with
  | zero => simp
  | succ rest ih =>
      rw [← Nat.add_assoc, totalDrops_succ, ih (Nat.le_of_succ_le h),
        requiredDrops_of_lt backoff periods h, Nat.triangle_succ, Nat.add_assoc]

/-- Each whole period takes the same number. -/
theorem totalDrops_mul (periods : Nat) :
    backoff.totalDrops (backoff.period * periods) =
      periods * (backoff.period * (backoff.period - 1) / 2) := by
  induction periods with
  | zero => simp [totalDrops]
  | succ periods ih =>
      rw [Nat.mul_succ, totalDrops_mul_add backoff periods (Nat.le_refl _), ih, Nat.succ_mul]

/-- The number of all requests that are ignored, for so many blocks. -/
theorem totalDrops_eq (blocks : Nat) :
    backoff.totalDrops blocks =
      blocks / backoff.period * backoff.period * (backoff.period - 1) / 2 +
        blocks % backoff.period * (blocks % backoff.period - 1) / 2 := by
  have hrest := Nat.le_of_lt (Nat.mod_lt blocks backoff.period_pos)
  have htwo : 2 ∣ backoff.period * (backoff.period - 1) :=
    (Nat.even_mul_pred_self _).two_dvd
  calc backoff.totalDrops blocks
      = backoff.totalDrops
          (backoff.period * (blocks / backoff.period) + blocks % backoff.period) := by
        rw [Nat.div_add_mod]
    _ = blocks / backoff.period * (backoff.period * (backoff.period - 1) / 2) +
          blocks % backoff.period * (blocks % backoff.period - 1) / 2 := by
        rw [totalDrops_mul_add backoff _ hrest, totalDrops_mul]
    _ = _ := by
        rw [← Nat.mul_div_assoc _ htwo, Nat.mul_assoc]

example : standard.totalDrops 16 = 24 := by decide

/-- No block is ignored more often than its number says, whatever the modulus. -/
theorem totalDrops_le_triangle (blocks : Nat) :
    backoff.totalDrops blocks ≤ blocks * (blocks - 1) / 2 := by
  induction blocks with
  | zero => exact Nat.le_refl _
  | succ blocks ih =>
      rw [totalDrops_succ, Nat.triangle_succ]
      exact Nat.add_le_add ih (Nat.mod_le _ _)

/-- For blocks that are counted in 32 bits the number has 63. -/
theorem totalDrops_lt {blocks : Nat} (h : blocks < UInt32.size) :
    backoff.totalDrops blocks < 2 ^ 63 := by
  have hproduct : blocks * (blocks - 1) < UInt32.size * UInt32.size :=
    Nat.mul_lt_mul'' h (Nat.lt_of_le_of_lt (Nat.sub_le _ _) h)
  calc backoff.totalDrops blocks
      ≤ blocks * (blocks - 1) / 2 := totalDrops_le_triangle backoff blocks
    _ < 2 ^ 63 := (Nat.div_lt_iff_lt_mul (by decide)).2 hproduct

end ModuloBackoff

/-! ## Words -/

/-- What arithmetic of words fails at. -/
inductive WordFault where
  | divisionByZero
  | overflow
  deriving DecidableEq, Repr

namespace Word

/-- The remainder of words of 32 bits, unless the divisor is zero. -/
def remainder (number divisor : UInt32) : Except WordFault UInt32 :=
  if divisor = 0 then .error .divisionByZero else .ok (number % divisor)

/-- The sum of words of 64 bits, unless it needs more. -/
def add (a b : UInt64) : Except WordFault UInt64 :=
  if a.toNat + b.toNat < UInt64.size then .ok (a + b) else .error .overflow

theorem remainder_of_ne_zero {divisor : UInt32} (h : divisor ≠ 0) (number : UInt32) :
    remainder number divisor = .ok (number % divisor) :=
  if_neg h

/-- Numbers whose sum fits into a word are added as they should be. -/
theorem add_ofNat {a b : Nat} (h : a + b < UInt64.size) :
    add (.ofNat a) (.ofNat b) = .ok (.ofNat (a + b)) := by
  have ha : (UInt64.ofNat a).toNat = a :=
    UInt64.toNat_ofNat_of_lt (Nat.lt_of_le_of_lt (Nat.le_add_right a b) h)
  have hb : (UInt64.ofNat b).toNat = b :=
    UInt64.toNat_ofNat_of_lt (Nat.lt_of_le_of_lt (Nat.le_add_left b a) h)
  rw [add, ha, hb, if_pos h, UInt64.ofNat_add]

end Word

namespace ModuloBackoff

variable (modulus : UInt32)

/-- How often the request for a block is ignored, in words. -/
def dropsInWords (number : UInt32) : Except WordFault UInt64 :=
  (Word.remainder number (max modulus 1)).map UInt32.toUInt64

/-- How many requests are ignored for so many blocks, added up in words from the first block
to the last. -/
def totalInWords (blocks : Nat) : Except WordFault UInt64 :=
  (List.range blocks).foldlM
    (fun sum number => dropsInWords modulus (.ofNat number) >>= Word.add sum) 0

theorem totalInWords_succ (blocks : Nat) :
    totalInWords modulus (blocks + 1) =
      totalInWords modulus blocks >>= fun sum =>
        dropsInWords modulus (.ofNat blocks) >>= Word.add sum := by
  rw [totalInWords, List.range_succ, List.foldlM_append]
  simp only [List.foldlM_cons, List.foldlM_nil, bind_pure]
  rfl

variable {modulus}

/-- The divisor is never zero, and the remainder is the right number. -/
theorem dropsInWords_ofNat {number : Nat} (h : number < UInt32.size) :
    dropsInWords modulus (.ofNat number) =
      .ok (.ofNat (requiredDrops ⟨modulus.toNat⟩ number)) := by
  have hdivisor : (max modulus 1).toNat = max modulus.toNat 1 := UInt32.toNat_max _ _
  have hne : max modulus 1 ≠ 0 := fun hzero => by
    rw [hzero, UInt32.toNat_zero] at hdivisor
    omega
  have hrest : (UInt32.ofNat number % max modulus 1).toNat =
      requiredDrops ⟨modulus.toNat⟩ number := by
    rw [UInt32.toNat_mod, UInt32.toNat_ofNat_of_lt' h, hdivisor, requiredDrops]
  rw [dropsInWords, Word.remainder_of_ne_zero hne, Except.map, ← UInt64.ofNat_uInt32ToNat, hrest]

/-- **Nothing fails in words**, and the sum is what it should be. -/
theorem totalInWords_eq {blocks : Nat} (h : blocks < UInt32.size) :
    totalInWords modulus blocks = .ok (.ofNat (totalDrops ⟨modulus.toNat⟩ blocks)) := by
  induction blocks with
  | zero => rfl
  | succ blocks ih =>
      have hblocks := Nat.lt_of_succ_lt h
      -- the sum with this block is the number for one block more, which is bounded already
      have hfits : totalDrops ⟨modulus.toNat⟩ blocks + requiredDrops ⟨modulus.toNat⟩ blocks <
          UInt64.size := by
        rw [← totalDrops_succ]
        exact Nat.lt_trans (totalDrops_lt _ h) (by decide)
      rw [totalInWords_succ, ih hblocks, dropsInWords_ofNat hblocks, totalDrops_succ]
      exact Word.add_ofNat hfits

/-- **The number of requests that a transfer takes in vain, in closed form.**  Each whole
period takes the same number, and what is left of the blocks takes the triangular number of
its own length.  The modulus may be zero, and may be given as it is or made at least one
first.  Added up in words, the sum is the same: there is no division by zero, and after
however many blocks it has no more than 63 bits. -/
theorem totalDrops_closed_form (modulus blocks : UInt32) :
    let backoff : ModuloBackoff := ⟨modulus.toNat⟩
    let period := max modulus.toNat 1
    let periods := blocks.toNat / period
    let rest := blocks.toNat % period
    backoff.totalDrops blocks.toNat =
        periods * period * (period - 1) / 2 + rest * (rest - 1) / 2 ∧
      (ofModulus modulus.toNat).totalDrops blocks.toNat = backoff.totalDrops blocks.toNat ∧
      ∀ first ≤ blocks.toNat,
        totalInWords modulus first = .ok (.ofNat (backoff.totalDrops first)) ∧
          backoff.totalDrops first < 2 ^ 63 := by
  refine ⟨totalDrops_eq _ _, totalDrops_ofModulus _ _, fun first hfirst => ?_⟩
  have hcount : first < UInt32.size := Nat.lt_of_le_of_lt hfirst blocks.toNat_lt
  exact ⟨totalInWords_eq hcount, totalDrops_lt _ hcount⟩

/-- The largest sum of all comes of the largest modulus and the largest count. -/
theorem totalDrops_closed_form_largest :
    4294967295 ≤ (4294967295 : UInt32).toNat ∧
      totalDrops ⟨4294967295⟩ 4294967295 = 9223372030412324865 ∧
      totalInWords 4294967295 4294967295 = .ok 9223372030412324865 := by
  have hword : (4294967295 : UInt32).toNat = 4294967295 := rfl
  obtain ⟨hclosed, -, hwords⟩ := totalDrops_closed_form 4294967295 4294967295
  have hsum := (hwords 4294967295 (Nat.le_of_eq hword.symm)).1
  rw [hword] at hclosed hsum
  refine ⟨Nat.le_of_eq hword.symm, hclosed, ?_⟩
  rw [hsum, hclosed]
  rfl

end ModuloBackoff
end Blockwise
