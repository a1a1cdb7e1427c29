import ZModel.Lib.Truncate

/-!
# Quota conversion

`common/quota_math.go`: computed quotas become integers of the 32-bit range, clamped to the nearest
end. Values are rational, so the branch for a value that is not a number is absent.
-/

namespace ZModel.Common

open Lib

def maxQuota : Int := 2147483647

def minQuota : Int := -2147483648

inductive QuotaClampKind where
  | overflow
  | underflow

structure QuotaClamp where
  op : String
  kind : QuotaClampKind
  original : ℚ
  clamped : Int

variable (value : ℚ)

/-- `saturateQuota`. The ends themselves count as clamped. -/
def saturateQuota (op : String) : Int × Option QuotaClamp :=
  if (maxQuota : ℚ) ≤ value then (maxQuota, some ⟨op, .overflow, value, maxQuota⟩)
  else if value ≤ (minQuota : ℚ) then (minQuota, some ⟨op, .underflow, value, minQuota⟩)
  else (truncate value, none)

def strictQuota : Int × Option QuotaClamp → Except QuotaClamp Int
  | (_, some clamp) => .error clamp
  | (quota, none) => .ok quota

def quotaFromFloatChecked : Int × Option QuotaClamp :=
  saturateQuota value "QuotaFromFloat"

def quotaFromFloatStrict : Except QuotaClamp Int :=
  strictQuota (quotaFromFloatChecked value)

def quotaRoundChecked : Int × Option QuotaClamp :=
  saturateQuota (roundAway value) "QuotaRound"

def quotaRoundStrict : Except QuotaClamp Int := strictQuota (quotaRoundChecked value)

def quotaFromDecimalChecked : Int × Option QuotaClamp :=
  saturateQuota (roundAway value) "QuotaFromDecimal"

theorem saturateQuota_intCast {n : Int} (hmin : minQuota ≤ n) (hmax : n ≤ maxQuota) (op : String) :
    (saturateQuota n op).1 = n := by
  unfold saturateQuota
  split
  next h =>
    have hle : maxQuota ≤ n := by exact_mod_cast h
    exact le_antisymm hle hmax
  split
  next h =>
    have hle : n ≤ minQuota := by exact_mod_cast h
    exact le_antisymm hmin hle
  · exact truncate_intCast n

theorem quotaFromDecimalChecked_intCast {n : Int} (hmin : minQuota ≤ n) (hmax : n ≤ maxQuota) :
    (quotaFromDecimalChecked n).1 = n := by
  rw [quotaFromDecimalChecked, roundAway_intCast]
  exact saturateQuota_intCast hmin hmax _

@[simp] theorem quotaFromDecimalChecked_zero : (quotaFromDecimalChecked 0).1 = 0 :=
  quotaFromDecimalChecked_intCast (by decide) (by decide)

@[simp] theorem quotaFromDecimalChecked_one : (quotaFromDecimalChecked 1).1 = 1 :=
  quotaFromDecimalChecked_intCast (by decide) (by decide)

theorem saturateQuota_nonneg {value : ℚ} (h : 0 ≤ value) (op : String) :
    0 ≤ (saturateQuota value op).1 := by
  unfold saturateQuota
  split
  · show 0 ≤ maxQuota
    decide
  split
  next hle =>
    have hneg : (minQuota : ℚ) < 0 := by norm_num [minQuota]
    exact absurd (h.trans hle) (not_le.mpr hneg)
  · exact truncate_nonneg h

end ZModel.Common
