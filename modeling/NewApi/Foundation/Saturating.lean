import Mathlib.Algebra.Group.Int.Defs
import Mathlib.Algebra.Ring.Nat

/-!
# Arithmetic of 64-bit integers

Addition of `Int64` with the overflow test that compares the wrapped sum with the first summand,
replaced by the largest or smallest value where the test fires; and the value of a result that is
not tested, which wraps around.

## Main results

* `Int64.toInt_addSaturating`
* `Int64.wrap_of_mem`, `Int64.wrap_mem`: what wraps around is in range, and what is in range does
  not change.
-/

namespace Int64

/-- Add, and clamp where the wrapped sum moved against the sign of the second summand. -/
def addSaturating (old value : Int64) : Int64 :=
  let sum := old + value
  if 0 < value ∧ sum < old ∨ value < 0 ∧ old < sum then
    if 0 < value then maxValue else minValue
  else sum

def clamp (n : Int) : Int := max (-2 ^ 63) (min (2 ^ 63 - 1) n)

variable {n : Int}

theorem clamp_of_mem (hlow : -2 ^ 63 ≤ n) (hhigh : n ≤ 2 ^ 63 - 1) : clamp n = n := by
  unfold clamp
  omega

/-- The test fires exactly if the sum leaves the range, and the result is the clamped sum. -/
theorem toInt_addSaturating (old value : Int64) :
    (addSaturating old value).toInt = clamp (old.toInt + value.toInt) := by
  have hold := old.le_toInt
  have hold' := old.toInt_lt
  have hvalue := value.le_toInt
  have hvalue' := value.toInt_lt
  have hsum := toInt_add old value
  rw [Int.bmod_def] at hsum
  simp only [addSaturating, lt_iff_toInt_lt, toInt_zero]
  unfold clamp
  split_ifs
  · rw [toInt_maxValue]
    split_ifs at hsum <;> omega
  · rw [toInt_minValue]
    split_ifs at hsum <;> omega
  · split_ifs at hsum <;> omega

def wrap (n : Int) : Int := n.bmod (2 ^ 64)

theorem wrap_of_mem (hlow : -2 ^ 63 ≤ n) (hhigh : n < 2 ^ 63) : wrap n = n :=
  Int.bmod_eq_of_le (by omega) (by omega)

theorem wrap_mem (n : Int) : -2 ^ 63 ≤ wrap n ∧ wrap n < 2 ^ 63 := by
  have hlow : -(((2 ^ 64 : ℕ) : Int) / 2) ≤ wrap n := Int.le_bmod (by decide)
  have hhigh : wrap n < (((2 ^ 64 : ℕ) : Int) + 1) / 2 := Int.bmod_lt (by decide)
  omega

theorem le_wrap (hhigh : n < 2 ^ 63) : n ≤ wrap n := by
  by_cases hlow : -2 ^ 63 ≤ n
  · exact Int.le_of_eq (wrap_of_mem hlow hhigh).symm
  · have hmem := (wrap_mem n).1
    omega

theorem wrap_succ_of_pos (hlow : 0 ≤ n) (hhigh : n < 2 ^ 63) (hpos : 0 < wrap (n + 1)) :
    wrap (n + 1) = n + 1 := by
  by_cases hmax : n + 1 < 2 ^ 63
  · exact wrap_of_mem (by omega) hmax
  · have hn : n + 1 = 2 ^ 63 := by omega
    rw [hn] at hpos
    exact absurd hpos (by decide)

end Int64
