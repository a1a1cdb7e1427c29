import Mathlib.Data.Rat.Floor
import Mathlib.Tactic.Linarith

/-!
# Conversion of rational numbers to integers

The whole part, rounding toward zero, and rounding to the nearest integer with halves away from
zero.
-/

namespace ZModel.Lib

def truncate (x : ℚ) : Int := if 0 ≤ x then ⌊x⌋ else ⌈x⌉

variable {x : ℚ}

theorem truncate_of_nonneg (h : 0 ≤ x) : truncate x = ⌊x⌋ := if_pos h

theorem truncate_nonpos (h : x < 0) : truncate x ≤ 0 := by
  rw [truncate, if_neg (not_le.mpr h)]
  exact Int.ceil_le.mpr (by exact_mod_cast h.le)

theorem truncate_eq_iff {n : Int} (hn : 0 < n) : truncate x = n ↔ (n : ℚ) ≤ x ∧ x < n + 1 := by
  by_cases hx : 0 ≤ x
  · rw [truncate_of_nonneg hx, Int.floor_eq_iff]
  have hle := truncate_nonpos (not_le.mp hx)
  have hpos : (0 : ℚ) < n := by exact_mod_cast hn
  constructor
  · intro h
    omega
  · rintro ⟨h, -⟩
    exact absurd (hpos.le.trans h) hx

theorem truncate_nonneg (h : 0 ≤ x) : 0 ≤ truncate x := by
  rw [truncate_of_nonneg h]
  exact Int.floor_nonneg.mpr h

@[simp] theorem truncate_intCast (n : Int) : truncate n = n := by
  simp [truncate]

def roundAway (x : ℚ) : Int := if 0 ≤ x then ⌊x + 1 / 2⌋ else ⌈x - 1 / 2⌉

@[simp] theorem roundAway_intCast (n : Int) : roundAway n = n := by
  unfold roundAway
  split
  · rw [Int.floor_eq_iff]
    constructor <;> linarith
  · rw [Int.ceil_eq_iff]
    constructor <;> linarith

theorem roundAway_nonneg (h : 0 ≤ x) : 0 ≤ roundAway x := by
  rw [roundAway, if_pos h]
  exact Int.floor_nonneg.mpr (by linarith)

end ZModel.Lib
