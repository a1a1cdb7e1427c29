import Mathlib.Tactic.FieldSimp
import Mathlib.Tactic.Ring
import Mathlib.Algebra.Order.BigOperators.Group.List
import Mathlib.Algebra.Order.BigOperators.GroupWithZero.List
import ZModel.Pricing.ModelPrice

/-!
# The settled quota and the group ratio

A request that is not billed by an expression costs an amount for each unit of the group ratio; one
that is has only the price of its tools multiplied by it.
-/

namespace ZModel.Pricing

open Lib Common BillingExpr

variable {usePrice : Bool} {amount modelRatio multiplier : ℚ}

variable (info : RelayInfo)

def RelayInfo.withGroup (g : GroupRatioInfo) : RelayInfo :=
  { info with priceData := { info.priceData with groupRatioInfo := g } }

variable (settings : Settings)

variable (info : RelayInfo)

def amountPerGroupRatio (usage : Option Usage) : ℚ :=
  let p := info.priceData
  if p.usePrice then (p.modelPrice + toolCallPrice settings info) * settings.quotaPerUnit
  else
    let w := weightedTokens settings info (tokenCounts settings info usage)
    w.1 * p.modelRatio + (toolCallPrice settings info + w.2) * settings.quotaPerUnit

def quotaAt (usePrice : Bool) (modelRatio amount multiplier : ℚ) (totalTokens : Int) (g : ℚ) : Int :=
  let ratio := modelRatio * g
  let value := amount * g * multiplier
  let quota : Int :=
    if usePrice then (quotaFromDecimalChecked value).1
    else (quotaFromDecimalChecked (if ratio ≠ 0 ∧ value ≤ 0 then 1 else value)).1
  if totalTokens = 0 then 0
  else if ratio ≠ 0 ∧ quota = 0 then 1
  else quota

def totalTokens (info : RelayInfo) (usage : Option Usage) : Int :=
  let u := usage.getD { promptTokens := info.estimatePromptTokens
                        totalTokens := info.estimatePromptTokens }
  u.promptTokens + u.completionTokens

theorem summary_quota_eq (usage : Option Usage) :
    (calculateTextQuotaSummary settings info usage).quota =
      quotaAt info.priceData.usePrice info.priceData.modelRatio
        (amountPerGroupRatio settings info usage) info.priceData.otherRatios.multiplier
        (totalTokens info usage) info.priceData.groupRatioInfo.groupRatio := by
  unfold calculateTextQuotaSummary quotaAt amountPerGroupRatio calculateTextToolCallSurcharge
  cases hprice : info.priceData.usePrice with
  | true =>
    have hvalue : ∀ (price tools unit g multiplier : ℚ),
        (price * unit * g + tools * g * unit) * multiplier =
          (price + tools) * unit * g * multiplier := by
      intro price tools unit g multiplier
      ring
    simp only [hprice, hvalue]
    rfl
  | false =>
    have hvalue : ∀ (weighted ratio tools audio unit g multiplier : ℚ),
        (weighted * (ratio * g) + tools * g * unit + audio * g * unit) * multiplier =
          (weighted * ratio + (tools + audio) * unit) * g * multiplier := by
      intro weighted ratio tools audio unit g multiplier
      ring
    simp only [hprice, hvalue]
    rfl

theorem quotaAt_zero (usePrice : Bool) (modelRatio amount multiplier : ℚ) (totalTokens : Int) :
    quotaAt usePrice modelRatio amount multiplier totalTokens 0 = 0 := by
  simp [quotaAt]

theorem quotaAt_free (usePrice : Bool) (multiplier : ℚ) (totalTokens : Int) (g : ℚ) :
    quotaAt usePrice 0 0 multiplier totalTokens g = 0 := by
  simp [quotaAt]

theorem quotaAt_no_tokens (usePrice : Bool) (modelRatio amount multiplier g : ℚ) :
    quotaAt usePrice modelRatio amount multiplier 0 g = 0 := by
  simp [quotaAt]

variable {totalTokens : Int}

theorem quotaAt_one {g : ℚ} (ht : totalTokens ≠ 0) (hvalue : amount * g * multiplier = 1) :
    quotaAt usePrice modelRatio amount multiplier totalTokens g = 1 := by
  have hle : ¬ (1 : ℚ) ≤ 0 := by norm_num
  simp [quotaAt, hvalue, ht]

theorem quotaAt_whole {g : ℚ} {totalTokens n : Int} (ht : totalTokens ≠ 0) (hmin : minQuota ≤ n)
    (hmax : n ≤ maxQuota) (hvalue : amount * g * multiplier = n) :
    quotaAt true 0 amount multiplier totalTokens g = n := by
  simp [quotaAt, hvalue, ht, quotaFromDecimalChecked_intCast hmin hmax]

theorem quotaAt_minimum (ht : totalTokens ≠ 0) (hm : modelRatio ≠ 0) :
    quotaAt usePrice modelRatio 0 multiplier totalTokens 1 = 1 := by
  cases usePrice <;> simp [quotaAt, ht, hm]

theorem quotaAt_const_iff (hmult : 0 < multiplier) :
    (∀ g g', quotaAt usePrice modelRatio amount multiplier totalTokens g =
        quotaAt usePrice modelRatio amount multiplier totalTokens g') ↔
      totalTokens = 0 ∨ (modelRatio = 0 ∧ amount = 0) := by
  constructor
  · intro h
    by_contra hne
    obtain ⟨ht, hfree⟩ := not_or.mp hne
    -- At the ratio 0 the quota is 0, so at no ratio can it be 1.
    have hzero : ∀ g, quotaAt usePrice modelRatio amount multiplier totalTokens g ≠ 1 := by
      intro g hg
      rw [h g 0, quotaAt_zero] at hg
      exact absurd hg (by decide)
    by_cases ha : amount = 0
    · subst ha
      exact hzero 1 (quotaAt_minimum ht fun hm => hfree ⟨hm, rfl⟩)
    refine hzero (1 / (amount * multiplier)) (quotaAt_one ht ?_)
    have hm : multiplier ≠ 0 := hmult.ne'
    field_simp
  · rintro (rfl | ⟨rfl, rfl⟩) g g'
    · rw [quotaAt_no_tokens, quotaAt_no_tokens]
    · rw [quotaAt_free, quotaAt_free]

theorem multiplier_pos (o : Tasks.OtherRatios) : 0 < o.multiplier := by
  refine List.prod_pos ?_
  intro ratio hratio
  obtain ⟨r, hr, rfl⟩ := List.mem_map.mp hratio
  exact o.positive r hr

def RelayInfo.isTiered : Bool :=
  info.tieredBillingSnapshot.any fun snap => snap.billingMode == "tiered_expr"

/-- The surcharge is added to what the expression returned, before rounding. -/
def tieredBase (tieredQuota : Int) (result : Option ℚ) : ℚ :=
  match result, info.tieredBillingSnapshot with
  | some before, some snap => before * snap.groupRatio
  | _, _ => tieredQuota

theorem composeTieredTextQuota_eq (surcharge : ℚ) (tieredQuota : Int) (result : Option ℚ) :
    composeTieredTextQuota info surcharge tieredQuota result = if surcharge = 0 then tieredQuota
      else (quotaFromDecimalChecked (tieredBase info tieredQuota result + surcharge)).1 := by
  unfold composeTieredTextQuota tieredBase
  split
  · rfl
  cases result with
  | none => rfl
  | some before => cases info.tieredBillingSnapshot <;> rfl

theorem composeTieredTextQuota_const_iff (price : ℚ) (tieredQuota : Int) (result : Option ℚ) :
    (∀ g g', composeTieredTextQuota info (price * g) tieredQuota result =
        composeTieredTextQuota info (price * g') tieredQuota result) ↔ price = 0 := by
  constructor
  · intro h
    by_contra hprice
    let base := tieredBase info tieredQuota result
    -- Every small quota other than the base itself is reached at some ratio.
    have hreach : ∀ k : Int, minQuota ≤ k → k ≤ maxQuota → (k : ℚ) ≠ base →
        composeTieredTextQuota info (price * ((k - base) / price)) tieredQuota result = k := by
      intro k hmin hmax hk
      have hsurcharge : price * ((k - base) / price) = k - base := by field_simp
      rw [composeTieredTextQuota_eq, hsurcharge, if_neg (sub_ne_zero.mpr hk)]
      rw [show tieredBase info tieredQuota result + ((k : ℚ) - base) = k by
        ring]
      exact quotaFromDecimalChecked_intCast hmin hmax
    have hpair : ∃ k l : Int, k ≠ l ∧ (k : ℚ) ≠ base ∧ (l : ℚ) ≠ base ∧
        minQuota ≤ k ∧ k ≤ maxQuota ∧ minQuota ≤ l ∧ l ≤ maxQuota := by
      by_cases h1 : ((1 : Int) : ℚ) = base
      · refine ⟨2, 3, by decide, ?_, ?_, by decide, by decide, by decide, by decide⟩ <;>
          · rw [← h1]
            norm_num
      by_cases h2 : ((2 : Int) : ℚ) = base
      · refine ⟨1, 3, by decide, h1, ?_, by decide, by decide, by decide, by decide⟩
        rw [← h2]
        norm_num
      · exact ⟨1, 2, by decide, h1, h2, by decide, by decide, by decide, by decide⟩
    obtain ⟨k, l, hkl, hk, hl, hkmin, hkmax, hlmin, hlmax⟩ := hpair
    refine hkl ?_
    rw [← hreach k hkmin hkmax hk, ← hreach l hlmin hlmax hl]
    exact h _ _
  · rintro rfl g g'
    rw [zero_mul, zero_mul]

theorem settledQuota_untiered {settings : Settings} {engine : Engine} {info : RelayInfo}
    {usage : Option Usage} (h : info.isTiered = false) :
    settledQuota settings engine info usage =
      (calculateTextQuotaSummary settings info usage).quota := by
  have hnone : tieredTextQuota settings engine info usage = none := by
    unfold tieredTextQuota tryTieredSettle
    unfold RelayInfo.isTiered at h
    cases usage with
    | none => rfl
    | some u =>
      cases hsnap : info.tieredBillingSnapshot with
      | none => rfl
      | some snap =>
        rw [hsnap] at h
        have hmode : snap.billingMode ≠ "tiered_expr" := by
          intro heq
          rw [Option.any_some, heq] at h
          exact absurd h (by decide)
        simp only [if_pos hmode, Option.map_none]
  rw [settledQuota, hnone, Option.getD_none]

theorem settledQuota_tiered {settings : Settings} {engine : Engine} {info : RelayInfo} {u : Usage}
    (h : info.isTiered = true) :
    ∃ quota result, ∀ g, settledQuota settings engine (info.withGroup g) (some u) =
      composeTieredTextQuota info
        (toolCallPrice settings info * settings.quotaPerUnit * g.groupRatio) quota result := by
  let usedVars := info.tieredBillingSnapshot.elim [] fun s => engine.usedVars s.exprString
  let params := buildTieredTokenParams u
    (calculateTextQuotaSummary settings info (some u)).tokens.isClaudeUsageSemantic usedVars
  have hsome : ∃ settled, tryTieredSettle engine info params = some settled := by
    unfold RelayInfo.isTiered at h
    unfold tryTieredSettle
    cases hsnap : info.tieredBillingSnapshot with
    | none =>
      rw [hsnap] at h
      cases h
    | some snap =>
      rw [hsnap] at h
      have hmode : ¬ snap.billingMode ≠ "tiered_expr" := not_not.mpr (eq_of_beq h)
      simp only [if_neg hmode]
      split <;> exact ⟨_, rfl⟩
  obtain ⟨⟨quota, result⟩, hsettled⟩ := hsome
  refine ⟨quota, result, fun g => ?_⟩
  have htiered : tieredTextQuota settings engine (info.withGroup g) (some u) =
      (tryTieredSettle engine info params).map fun settled =>
        composeTieredTextQuota info
          (toolCallPrice settings info * g.groupRatio * settings.quotaPerUnit) settled.1 settled.2 :=
    rfl
  rw [settledQuota, htiered, hsettled, mul_right_comm]
  rfl

def GroupFree (u : Usage) : Prop :=
  if info.isTiered then toolCallPrice settings info * settings.quotaPerUnit = 0
  else u.promptTokens + u.completionTokens = 0 ∨
    (info.priceData.modelRatio = 0 ∧ amountPerGroupRatio settings info (some u) = 0)

theorem settledQuota_group (engine : Engine) (info : RelayInfo) (u : Usage) : ∃ quota : ℚ → Int,
      (∀ g, settledQuota settings engine (info.withGroup g) (some u) = quota g.groupRatio) ∧
      ((∀ x y, quota x = quota y) ↔ GroupFree settings info u) := by
  unfold GroupFree
  cases h : info.isTiered with
  | true =>
    obtain ⟨tieredQuota, result, hquota⟩ := settledQuota_tiered h
    exact ⟨fun x => composeTieredTextQuota info _ tieredQuota result, hquota,
      composeTieredTextQuota_const_iff info _ tieredQuota result⟩
  | false =>
    refine ⟨quotaAt info.priceData.usePrice _ _ _ _, fun g => ?_,
      quotaAt_const_iff (multiplier_pos info.priceData.otherRatios)⟩
    have huntiered : (info.withGroup g).isTiered = false := h
    rw [settledQuota_untiered huntiered, summary_quota_eq]
    rfl

end ZModel.Pricing
