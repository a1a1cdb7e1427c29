import Mathlib.Data.List.Sort
import Mathlib.Tactic.Ring
import ZModel.Lib.Draw

/-!
# Priority levels and draws

Both selections of a channel draw by weight among those of one priority level. The draw of the
database stops one step early (`draws_fair`). Sums of weights are not cut to 64 bits.
-/

namespace ZModel.Channels

open Lib

def levels (priorities : List Int) : List Int := priorities.dedup.insertionSort (· ≥ ·)

def level (priorities : List Int) (retry : Nat) : Option Int :=
  (levels priorities)[min retry ((levels priorities).length - 1)]?

section Levels

variable {ps ps' : List Int} {p : Int}

@[simp] theorem mem_levels : p ∈ levels ps ↔ p ∈ ps := by
  unfold levels
  rw [List.mem_insertionSort, List.mem_dedup]

theorem levels_nodup (ps : List Int) : (levels ps).Nodup :=
  (List.perm_insertionSort _ _).nodup_iff.mpr (List.nodup_dedup ps)

theorem levels_pairwise (ps : List Int) : (levels ps).Pairwise (· > ·) := by
  have hge : (levels ps).Pairwise (· ≥ ·) := List.pairwise_insertionSort _ _
  refine (hge.and (levels_nodup ps)).imp ?_
  rintro a b ⟨hle, hne⟩
  exact lt_of_le_of_ne hle hne.symm

theorem levels_congr (h : ∀ p, p ∈ ps ↔ p ∈ ps') : levels ps = levels ps' := by
  refine List.Perm.eq_of_pairwise ?_ (levels_pairwise ps) (levels_pairwise ps') ?_
  · intro a b _ _ hab hba
    exact absurd hab (lt_asymm hba)
  · refine (List.perm_ext_iff_of_nodup (levels_nodup ps) (levels_nodup ps')).mpr fun p => ?_
    rw [mem_levels, mem_levels, h]

theorem level_congr (h : ∀ p, p ∈ ps ↔ p ∈ ps') (retry : Nat) : level ps retry = level ps' retry := by
  unfold level
  rw [levels_congr h]

@[simp] theorem levels_nil : levels [] = [] := rfl

theorem level_mem {retry : Nat} (h : level ps retry = some p) : p ∈ ps :=
  mem_levels.mp (List.mem_of_getElem? h)

theorem level_eq_none_iff {retry : Nat} : level ps retry = none ↔ ps = [] := by
  unfold level
  rw [List.getElem?_eq_none_iff]
  constructor
  · intro hlen
    have hlevels : levels ps = [] := by
      rw [← List.length_eq_zero_iff]
      omega
    rw [List.eq_nil_iff_forall_not_mem]
    intro p hp
    have := mem_levels.mpr hp
    rw [hlevels] at this
    cases this
  · rintro rfl
    simp

theorem level_zero (ps : List Int) : level ps 0 = ps.max? := by
  unfold level
  rw [Nat.zero_min]
  cases hlevels : levels ps with
  | nil =>
    have hps : ps = [] := by
      refine (level_eq_none_iff : level ps 0 = none ↔ _).mp ?_
      unfold level
      rw [hlevels]
      rfl
    rw [hps]
    rfl
  | cons p rest =>
    have hsorted := levels_pairwise ps
    rw [hlevels, List.pairwise_cons] at hsorted
    symm
    rw [List.getElem?_cons_zero, List.max?_eq_some_iff]
    have hmem : ∀ q, q ∈ ps ↔ q ∈ p :: rest := fun q => by rw [← hlevels, mem_levels]
    refine ⟨(hmem p).mpr (.head _), fun q hq => ?_⟩
    obtain rfl | hrest := List.mem_cons.mp ((hmem q).mp hq)
    · exact le_rfl
    · exact (hsorted.1 q hrest).le

theorem level_singleton (p : Int) (retry : Nat) : level [p] retry = some p := by
  unfold level levels
  simp

end Levels

structure Smoothing where
  factor : Nat
  adjustment : Nat

variable (weights : List Nat)

/-- Weights that are all zero count 100 each; weights below 10 on average a hundredfold. -/
def smoothing : Smoothing :=
  if weights.sum = 0 then ⟨1, 100⟩
  else if weights.sum / weights.length < 10 then ⟨100, 0⟩
  else ⟨1, 0⟩

def cachedTotal : Nat :=
  (if weights.sum = 0 then weights.length * 100 else weights.sum) * (smoothing weights).factor

def drawCached (random : Nat) : Option Nat :=
  drawIndex below
    (weights.map fun w => w * (smoothing weights).factor + (smoothing weights).adjustment) random

def databaseSmoothing : Nat := 10

def databaseTotal : Nat := (weights.map (· + databaseSmoothing)).sum

def drawDatabase (random : Nat) : Option Nat :=
  drawIndex atMost (weights.map (· + databaseSmoothing)) random

def picks (draw : Nat → Option Nat) (total i : Nat) : Nat :=
  ((Finset.range total).filter fun r => draw r = some i).card

structure Fair (draw : Nat → Option Nat) (total : Nat) (weights : List Nat) (smoothing : Nat) :
    Prop where
  positive : 0 < total
  picked : ∀ r < total, ∃ i, draw r = some i ∧ i < weights.length
  proportional : ∀ {i j w v}, weights[i]? = some w → weights[j]? = some v →
    picks draw total i * (v + smoothing) = picks draw total j * (w + smoothing)

theorem drawIndex_lt {stop : Int → Bool} {ws : List Nat} {r : Int} {i : Nat}
    (h : drawIndex stop ws r = some i) : i < ws.length := by
  induction ws generalizing r i with
  | nil => cases h
  | cons w ws ih =>
    unfold drawIndex at h
    split at h
    · cases h
      exact Nat.zero_lt_succ _
    · obtain ⟨j, hj, rfl⟩ := Option.map_eq_some_iff.mp h
      exact Nat.succ_lt_succ (ih hj)

section Fairness

variable {ws : List Nat} {i w : Nat}

theorem sum_map_mul_add (ws : List Nat) (a b : Nat) :
    (ws.map fun w => w * a + b).sum = ws.sum * a + ws.length * b := by
  induction ws with
  | nil => simp
  | cons w ws ih =>
    rw [List.map_cons, List.sum_cons, ih, List.sum_cons, List.length_cons]
    ring

theorem cachedTotal_eq (ws : List Nat) : cachedTotal ws =
      (ws.map fun w => w * (smoothing ws).factor + (smoothing ws).adjustment).sum := by
  rw [sum_map_mul_add]
  unfold cachedTotal smoothing
  by_cases hzero : ws.sum = 0
  · simp [hzero]
  by_cases hsmall : ws.sum / ws.length < 10
  · simp [hzero, hsmall]
  · simp [hzero, hsmall]

theorem cachedTotal_pos (hne : ws ≠ []) : 0 < cachedTotal ws := by
  have hlen : 0 < ws.length := List.length_pos_iff.mpr hne
  unfold cachedTotal smoothing
  by_cases hzero : ws.sum = 0
  · simp only [hzero, if_true]
    omega
  by_cases hsmall : ws.sum / ws.length < 10
  · simp only [hzero, hsmall, if_true, if_false]
    omega
  · simp only [hzero, hsmall, if_false]
    omega

theorem picks_cached (h : ws[i]? = some w) : picks (drawCached ws) (cachedTotal ws) i =
      w * (smoothing ws).factor + (smoothing ws).adjustment := by
  rw [cachedTotal_eq]
  refine drawsAt_below ?_
  rw [List.getElem?_map, h, Option.map_some]

theorem smoothing_cases (ws : List Nat) :
    (smoothing ws).adjustment = 0 ∨ (smoothing ws).factor = 1 := by
  unfold smoothing
  split
  · exact .inr rfl
  split
  · exact .inl rfl
  · exact .inl rfl

theorem fair_cached (hne : ws ≠ []) :
    Fair (drawCached ws) (cachedTotal ws) ws (smoothing ws).adjustment where
  positive := cachedTotal_pos hne
  picked r hr := by
    rw [cachedTotal_eq] at hr
    obtain ⟨i, hi⟩ := Option.isSome_iff_exists.mp
      (drawIndex_below_isSome (Int.natCast_nonneg r) (Int.ofNat_lt.mpr hr))
    have hlen := drawIndex_lt hi
    rw [List.length_map] at hlen
    exact ⟨i, hi, hlen⟩
  proportional {i j w v} hi hj := by
    rw [picks_cached hi, picks_cached hj]
    obtain hzero | hone := smoothing_cases ws
    · rw [hzero]
      ring
    · rw [hone]
      ring

theorem picked_database (hne : ws ≠ []) {r : Nat} (hr : r < databaseTotal ws) :
    ∃ i, drawDatabase ws r = some i ∧ i < ws.length := by
  obtain ⟨i, hi⟩ := Option.isSome_iff_exists.mp
    (drawIndex_atMost_isSome (by simpa using hne) (Int.ofNat_le.mpr hr.le))
  have hlen := drawIndex_lt hi
  rw [List.length_map] at hlen
  exact ⟨i, hi, hlen⟩

theorem databaseTotal_pos (hne : ws ≠ []) : 0 < databaseTotal ws := by
  cases ws with
  | nil => exact absurd rfl hne
  | cons w ws =>
    unfold databaseTotal databaseSmoothing
    rw [List.map_cons, List.sum_cons]
    omega

theorem picks_database_first {v : Nat} {vs : List Nat} :
    picks (drawDatabase (w :: v :: vs)) (databaseTotal (w :: v :: vs)) 0 =
      w + databaseSmoothing + 1 := by
  have hsum : 1 ≤ ((v :: vs).map (· + databaseSmoothing)).sum := by
    rw [List.map_cons, List.sum_cons, databaseSmoothing]
    omega
  refine (drawsAt_atMost_first (w + databaseSmoothing)
    ((v :: vs).map (· + databaseSmoothing))).trans ?_
  omega

theorem picks_database_last (hne : ws ≠ []) :
    picks (drawDatabase (ws ++ [w])) (databaseTotal (ws ++ [w])) ws.length =
      w + databaseSmoothing - 1 := by
  have hmap : ws.map (· + databaseSmoothing) ≠ [] := by simpa using hne
  have h := drawsAt_atMost_last hmap (w + databaseSmoothing)
  rw [List.length_map] at h
  unfold picks drawDatabase databaseTotal
  rw [List.map_append]
  exact h

theorem not_fair_database {w v : Nat} {vs : List Nat} :
    ¬Fair (drawDatabase (w :: v :: vs)) (databaseTotal (w :: v :: vs)) (w :: v :: vs)
      databaseSmoothing := by
  intro h
  obtain ⟨rest, l, hrest⟩ := List.eq_nil_or_concat' (v :: vs) |>.resolve_left (by simp)
  have hws : w :: v :: vs = (w :: rest) ++ [l] := by rw [hrest, List.cons_append]
  have hfirst : (w :: v :: vs)[0]? = some w := rfl
  have hlast : (w :: v :: vs)[(w :: rest).length]? = some l := by
    rw [hws, List.getElem?_concat_length]
  have hp := h.proportional hfirst hlast
  rw [picks_database_first] at hp
  have hl : picks (drawDatabase (w :: v :: vs)) (databaseTotal (w :: v :: vs)) (w :: rest).length =
      l + databaseSmoothing - 1 := by
    rw [hws]
    exact picks_database_last (by simp)
  rw [hl] at hp
  unfold databaseSmoothing at hp
  have hless : (l + 10 - 1) * (w + 10) < (w + 10 + 1) * (l + 10) := by
    rw [Nat.mul_comm (w + 10 + 1)]
    exact Nat.mul_lt_mul'' (by omega) (by omega)
  omega

theorem fair_database_single (w : Nat) :
    Fair (drawDatabase [w]) (databaseTotal [w]) [w] databaseSmoothing where
  positive := databaseTotal_pos (by simp)
  picked r hr := picked_database (by simp) hr
  proportional {i j u v} hi hj := by
    have hsame : i = j := by
      have hi := (List.getElem?_eq_some_iff.mp hi).1
      have hj := (List.getElem?_eq_some_iff.mp hj).1
      rw [List.length_singleton] at hi hj
      omega
    subst hsame
    rw [hi] at hj
    cases hj
    rfl

end Fairness

/-- The draw of the cache always picks a candidate, in proportion to the weights. That of the
database does so in proportion if and only if there is just one candidate. -/
theorem draws_fair (weights : List Nat) (hne : weights ≠ []) :
    Fair (drawCached weights) (cachedTotal weights) weights (smoothing weights).adjustment ∧
      (∀ r < databaseTotal weights, ∃ i, drawDatabase weights r = some i ∧ i < weights.length) ∧
      (Fair (drawDatabase weights) (databaseTotal weights) weights databaseSmoothing ↔
        weights.length = 1) := by
  refine ⟨fair_cached hne, fun r hr => picked_database hne hr, ?_⟩
  match weights, hne with
  | [w], _ => exact iff_of_true (fair_database_single w) rfl
  | w :: v :: vs, _ => exact iff_of_false not_fair_database (by simp)

theorem draws_fair_sample :
    (let weights := [3, 0, 12]
    Fair (drawCached weights) (cachedTotal weights) weights (smoothing weights).adjustment) ∧
      Fair (drawDatabase [3]) (databaseTotal [3]) [3] databaseSmoothing :=
  ⟨(draws_fair [3, 0, 12] (by decide)).1, (draws_fair [3] (by decide)).2.2.mpr rfl⟩

/-- Of two candidates of weight zero the database picks the first by eleven of twenty draws. -/
theorem database_prefers_first : picks (drawDatabase [0, 0]) (databaseTotal [0, 0]) 0 = 11 ∧
      picks (drawDatabase [0, 0]) (databaseTotal [0, 0]) 1 = 9 ∧
      ¬Fair (drawDatabase [0, 0]) (databaseTotal [0, 0]) [0, 0] databaseSmoothing := by
  have hfirst : picks (drawDatabase [0, 0]) (databaseTotal [0, 0]) 0 = 11 := by decide
  have hsecond : picks (drawDatabase [0, 0]) (databaseTotal [0, 0]) 1 = 9 := by decide
  refine ⟨hfirst, hsecond, fun h => ?_⟩
  have hp := h.proportional (i := 0) (j := 1) rfl rfl
  exact absurd hp (by decide)

end ZModel.Channels
