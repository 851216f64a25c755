import Mathlib.Algebra.Order.Floor.Ring

/-!
# Rounding half away from zero

The nearest integer of a number, where a tie goes to the integer of larger absolute value. Mathlib's
`round` sends a tie upwards, so the two differ on negative ties.

## Main results

* `roundHalfAway_intCast`: integers are fixed.
* `roundHalfAway_eq_iff`
* `roundHalfAway_pos_iff`: the numbers that round to a positive integer.
-/

variable {α : Type*} [Field α] [LinearOrder α] [FloorRing α]

def roundHalfAway (x : α) : ℤ := if 0 ≤ x then ⌊x + 1 / 2⌋ else -⌊-x + 1 / 2⌋

variable [IsStrictOrderedRing α]

theorem floor_intCast_add_half (n : ℤ) : ⌊(n : α) + 1 / 2⌋ = n := by
  rw [Int.floor_eq_iff]
  constructor
  · linarith
  · linarith

@[simp] theorem roundHalfAway_intCast (n : ℤ) : roundHalfAway (n : α) = n := by
  unfold roundHalfAway
  split_ifs
  · exact floor_intCast_add_half n
  · rw [← Int.cast_neg, floor_intCast_add_half, neg_neg]

variable {x : α}

theorem roundHalfAway_eq_iff {n : ℤ} (hn : 0 < n) :
    roundHalfAway x = n ↔ (n : α) - 1 / 2 ≤ x ∧ x < n + 1 / 2 := by
  have hn' : (1 : α) ≤ n := by exact_mod_cast hn
  unfold roundHalfAway
  split_ifs
  · rw [Int.floor_eq_iff]
    constructor
    · rintro ⟨h₁, h₂⟩
      exact ⟨by linarith, by linarith⟩
    · rintro ⟨h₁, h₂⟩
      exact ⟨by linarith, by linarith⟩
  · -- a negative number rounds to zero or below
    constructor
    · intro h
      have hfloor : (0 : ℤ) ≤ ⌊-x + 1 / 2⌋ := Int.floor_nonneg.mpr (by linarith)
      omega
    · rintro ⟨h₁, -⟩
      linarith

theorem roundHalfAway_pos_iff : 0 < roundHalfAway x ↔ 1 / 2 ≤ x := by
  unfold roundHalfAway
  split_ifs
  · rw [Int.floor_pos]
    constructor <;> intro h <;> linarith
  have hfloor : (0 : ℤ) ≤ ⌊-x + 1 / 2⌋ := Int.floor_nonneg.mpr (by linarith)
  constructor
  · intro h
    omega
  · intro h
    linarith

theorem roundHalfAway_nonneg (h : 0 ≤ x) : 0 ≤ roundHalfAway x := by
  rw [roundHalfAway, if_pos h, Int.floor_nonneg]
  linarith
