import Mathlib.Data.Rat.Floor
import NewApi.Foundation.Rounding

/-!
# Quota conversions

The conversions of `common/quota_math.go`. Decimals are exact here, so a `decimal.Decimal` is a
rational number. The intermediate `float64` of the source is exact for every integer within the
bounds and beyond a bound for every integer beyond it, so the comparison is made on the integer.
A `float64` argument is a rational number as well; it is never `NaN`.
-/

namespace NewApi.Common

def maxWalletQuota : Int := 2 ^ 53 - 1

inductive QuotaClampKind
  | overflow
  | underflow

structure QuotaClamp where
  kind : QuotaClampKind
  clamped : Int

/-- `ValidateWalletQuota`: negative balances are valid. -/
def validateWalletQuota (quota : Int) : Bool := quota ≤ maxWalletQuota

/-- A value beyond a bound becomes the bound, with a note of the clamp. -/
def saturateQuotaBounded (value maxQuota minQuota : Int) : Int × Option QuotaClamp :=
  if maxQuota < value then (maxQuota, some ⟨.overflow, maxQuota⟩)
  else if value < minQuota then (minQuota, some ⟨.underflow, minQuota⟩)
  else (value, none)

/-- The strict variants turn a clamp into an error. -/
def strictQuota (r : Int × Option QuotaClamp) : Except QuotaClamp Int :=
  match r.2 with
  | some clamp => .error clamp
  | none => .ok r.1

/-- Rounded half away from zero, or an error beyond the wallet range. -/
def walletQuotaFromDecimalStrict (d : ℚ) : Except QuotaClamp Int :=
  strictQuota (saturateQuotaBounded (roundHalfAway d) maxWalletQuota (-maxWalletQuota))

theorem walletQuotaFromDecimalStrict_ok_iff {d : ℚ} {quota : Int} :
    walletQuotaFromDecimalStrict d = .ok quota ↔
      roundHalfAway d = quota ∧ -maxWalletQuota ≤ quota ∧ quota ≤ maxWalletQuota := by
  unfold walletQuotaFromDecimalStrict saturateQuotaBounded strictQuota
  split_ifs
  · simp only [false_iff]
    omega
  · simp only [false_iff]
    omega
  simp only [Except.ok.injEq]
  constructor
  · rintro rfl
    omega
  · rintro ⟨rfl, -, -⟩
    rfl

/-! ### The quota of one request -/

def maxQuota : Int := 2 ^ 31 - 1

def minQuota : Int := -2 ^ 31

/-- `saturateQuota` of an integer. -/
def saturateQuota (value : Int) : Int × Option QuotaClamp :=
  saturateQuotaBounded value maxQuota minQuota

def quotaFromDecimal (d : ℚ) : Int := (saturateQuota (roundHalfAway d)).1

def quotaRoundChecked (value : ℚ) : Int × Option QuotaClamp := saturateQuota (roundHalfAway value)

def quotaRoundStrict (value : ℚ) : Except QuotaClamp Int := strictQuota (quotaRoundChecked value)

/-- `QuotaFromFloatChecked`: a value within the bounds is truncated toward zero. -/
def quotaFromFloatChecked (value : ℚ) : Int × Option QuotaClamp :=
  if (maxQuota : ℚ) < value then (maxQuota, some ⟨.overflow, maxQuota⟩)
  else if value < (minQuota : ℚ) then (minQuota, some ⟨.underflow, minQuota⟩)
  else (if 0 ≤ value then ⌊value⌋ else ⌈value⌉, none)

def quotaFromFloatStrict (value : ℚ) : Except QuotaClamp Int :=
  strictQuota (quotaFromFloatChecked value)

theorem quotaFromDecimal_pos_iff {d : ℚ} : 0 < quotaFromDecimal d ↔ 1 / 2 ≤ d := by
  rw [← roundHalfAway_pos_iff]
  unfold quotaFromDecimal saturateQuota saturateQuotaBounded maxQuota minQuota
  split_ifs <;> dsimp only <;> omega

variable {value : ℚ}

theorem quotaRoundChecked_nonneg (h : 0 ≤ value) : 0 ≤ (quotaRoundChecked value).1 := by
  have hround := roundHalfAway_nonneg h
  unfold quotaRoundChecked saturateQuota saturateQuotaBounded maxQuota minQuota
  split_ifs <;> dsimp only <;> omega

theorem quotaFromFloatChecked_nonneg (h : 0 ≤ value) : 0 ≤ (quotaFromFloatChecked value).1 := by
  have hmin : ¬ value < (minQuota : ℚ) := by
    have hneg : (minQuota : ℚ) ≤ 0 := by norm_num [minQuota]
    exact not_lt.mpr (hneg.trans h)
  unfold quotaFromFloatChecked
  split_ifs
  · exact (by decide : (0 : Int) ≤ maxQuota)
  · exact Int.floor_nonneg.mpr h

theorem quotaFromFloatStrict_nonneg {quota : Int} (h : 0 ≤ value)
    (hok : quotaFromFloatStrict value = .ok quota) : 0 ≤ quota := by
  have hchecked := quotaFromFloatChecked_nonneg h
  unfold quotaFromFloatStrict strictQuota at hok
  split at hok
  · cases hok
  · cases hok
    exact hchecked

end NewApi.Common
