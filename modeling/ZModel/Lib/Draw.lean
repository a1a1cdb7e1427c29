import Mathlib.Algebra.BigOperators.Group.List.Basic
import Mathlib.Algebra.GroupWithZero.Nat
import Mathlib.Data.Finset.Card
import Mathlib.Data.Int.Cast.Basic
import Mathlib.Order.Interval.Finset.Nat

/-!
# Weighted draws

A draw takes each weight of a list from a random number and stops where what is left satisfies a
condition. If it stops at zero, the first position has one draw more.
-/

namespace ZModel.Lib

def drawIndex (stop : Int → Bool) : List Nat → Int → Option Nat
  | [], _ => none
  | w :: ws, r => if stop (r - w) then some 0 else (drawIndex stop ws (r - w)).map (· + 1)

def below (r : Int) : Bool := decide (r < 0)

def atMost (r : Int) : Bool := decide (r ≤ 0)

/-- How many of the random numbers below the total weight stop at a position. -/
def drawsAt (stop : Int → Bool) (ws : List Nat) (i : Nat) : Nat :=
  ((Finset.range ws.sum).filter fun r : Nat => drawIndex stop ws r = some i).card

section Below

variable {ws : List Nat} {r : Int} {i : Nat}

theorem drawIndex_below_iff (hr : 0 ≤ r) : drawIndex below ws r = some i ↔
      i < ws.length ∧ ((ws.take i).sum : Int) ≤ r ∧ r < ((ws.take (i + 1)).sum : Int) := by
  induction ws generalizing r i with
  | nil => simp [drawIndex]
  | cons w ws ih =>
    unfold drawIndex
    by_cases hstop : r - w < 0
    · rw [if_pos (by simpa [below] using hstop)]
      cases i with
      | zero => simp; omega
      | succ i =>
        refine iff_of_false (by simp) ?_
        rintro ⟨-, hle, -⟩
        simp only [List.take_succ_cons, List.sum_cons] at hle
        omega
    rw [if_neg (by simpa [below] using hstop)]
    cases i with
    | zero =>
      refine iff_of_false (by simp) ?_
      rintro ⟨-, -, hlt⟩
      simp only [zero_add, List.take_succ_cons, List.take_zero, List.sum_cons, List.sum_nil] at hlt
      omega
    | succ i =>
      rw [Option.map_eq_some_iff]
      simp only [Nat.succ_inj, exists_eq_right, ih (by omega : 0 ≤ r - w),
        List.length_cons, List.take_succ_cons, List.sum_cons]
      omega

theorem drawIndex_below_isSome (hr : 0 ≤ r) (hlt : r < (ws.sum : Int)) :
    (drawIndex below ws r).isSome = true := by
  induction ws generalizing r with
  | nil =>
    rw [List.sum_nil] at hlt
    omega
  | cons w ws ih =>
    unfold drawIndex
    rw [List.sum_cons] at hlt
    by_cases hstop : r - w < 0
    · rw [if_pos (by simpa [below] using hstop)]
      rfl
    · rw [if_neg (by simpa [below] using hstop), Option.isSome_map]
      exact ih (by omega) (by omega)

theorem sum_take_le (ws : List Nat) (i : Nat) : (ws.take i).sum ≤ ws.sum := by
  conv_rhs => rw [← List.take_append_drop i ws, List.sum_append]
  exact Nat.le_add_right _ _

theorem sum_take_succ {w : Nat} (h : ws[i]? = some w) :
    (ws.take (i + 1)).sum = (ws.take i).sum + w := by
  rw [List.take_add_one, h]
  simp

theorem drawsAt_below {w : Nat} (h : ws[i]? = some w) : drawsAt below ws i = w := by
  have hset : ((Finset.range ws.sum).filter fun r : Nat => drawIndex below ws r = some i) =
      Finset.Ico (ws.take i).sum (ws.take (i + 1)).sum := by
    ext r
    have hlen : i < ws.length := (List.getElem?_eq_some_iff.mp h).1
    have htotal := sum_take_le ws (i + 1)
    rw [Finset.mem_filter, Finset.mem_range, Finset.mem_Ico, drawIndex_below_iff (by omega)]
    omega
  unfold drawsAt
  rw [hset, Nat.card_Ico, sum_take_succ h]
  omega

end Below

section AtMost

variable {ws : List Nat} {r : Int}

theorem drawIndex_atMost_isSome (hws : ws ≠ []) (hle : r ≤ (ws.sum : Int)) :
    (drawIndex atMost ws r).isSome = true := by
  induction ws generalizing r with
  | nil => exact absurd rfl hws
  | cons w ws ih =>
    unfold drawIndex
    rw [List.sum_cons] at hle
    by_cases hstop : r - w ≤ 0
    · rw [if_pos (by simpa [atMost] using hstop)]
      rfl
    rw [if_neg (by simpa [atMost] using hstop), Option.isSome_map]
    refine ih ?_ (by omega)
    rintro rfl
    rw [List.sum_nil] at hle
    omega

theorem drawsAt_atMost_first (w : Nat) (ws : List Nat) :
    drawsAt atMost (w :: ws) 0 = min (w + 1) (w + ws.sum) := by
  have hset : ((Finset.range (w :: ws).sum).filter
      fun r : Nat => drawIndex atMost (w :: ws) r = some 0) =
      Finset.range (min (w + 1) (w + ws.sum)) := by
    ext r
    have hstop : drawIndex atMost (w :: ws) r = some 0 ↔ (r : Int) - w ≤ 0 := by
      unfold drawIndex
      by_cases hle : (r : Int) - w ≤ 0
      · rw [if_pos (by simpa [atMost] using hle)]
        exact iff_of_true rfl hle
      · rw [if_neg (by simpa [atMost] using hle)]
        exact iff_of_false (by simp) hle
    rw [Finset.mem_filter, Finset.mem_range, Finset.mem_range, List.sum_cons, hstop]
    omega
  unfold drawsAt
  rw [hset, Finset.card_range]

theorem drawIndex_atMost_last (ws : List Nat) (w : Nat) (hr : r ≤ ((ws ++ [w]).sum : Int)) :
    drawIndex atMost (ws ++ [w]) r = some ws.length ↔ ws = [] ∨ (ws.sum : Int) < r := by
  induction ws generalizing r with
  | nil =>
    have hstop : r - w ≤ 0 := by
      simp at hr
      omega
    refine iff_of_true ?_ (.inl rfl)
    rw [List.nil_append, drawIndex, if_pos (by simpa [atMost] using hstop)]
    rfl
  | cons v ws ih =>
    rw [List.cons_append, drawIndex]
    rw [List.cons_append, List.sum_cons] at hr
    by_cases hstop : r - v ≤ 0
    · rw [if_pos (by simpa [atMost] using hstop)]
      refine iff_of_false (by simp) ?_
      rw [List.sum_cons]
      rintro (hnil | hlt)
      · cases hnil
      · omega
    rw [if_neg (by simpa [atMost] using hstop), Option.map_eq_some_iff]
    simp only [List.length_cons, Nat.succ_inj, exists_eq_right, ih (by omega : r - v ≤ _)]
    rw [List.sum_cons]
    constructor
    · rintro (rfl | hlt)
      · right
        rw [List.sum_nil]
        omega
      · right
        omega
    rintro (hnil | hlt)
    · cases hnil
    · right
      omega

theorem drawsAt_atMost_last {ws : List Nat} (hws : ws ≠ []) (w : Nat) :
    drawsAt atMost (ws ++ [w]) ws.length = w - 1 := by
  have hset : ((Finset.range (ws ++ [w]).sum).filter
      fun r : Nat => drawIndex atMost (ws ++ [w]) r = some ws.length) =
      Finset.Ioo ws.sum (ws.sum + w) := by
    ext r
    have hsum : (ws ++ [w]).sum = ws.sum + w := by
      rw [List.sum_append, List.sum_singleton]
    rw [Finset.mem_filter, Finset.mem_range, Finset.mem_Ioo, hsum]
    constructor
    · rintro ⟨hlt, hstop⟩
      rw [drawIndex_atMost_last ws w (by omega)] at hstop
      have := hstop.resolve_left hws
      omega
    · rintro ⟨hlt, hlt'⟩
      refine ⟨hlt', (drawIndex_atMost_last ws w (by omega)).mpr (.inr (by omega))⟩
  unfold drawsAt
  rw [hset, Nat.card_Ioo]
  omega

end AtMost

end ZModel.Lib
