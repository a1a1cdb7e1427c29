import ZModel.BillingExpr.Deferred
import ZModel.Pricing.TextQuota

/-!
# The price of an image request

`relay/helper/price.go`: the ratio of the group that serves a request, and `ModelPriceHelper`, which
prices it by the price of its model, by its ratios, or by a tiered expression.
-/

namespace ZModel.Pricing

open Lib Common BillingExpr

structure GroupSettings where
  groupRatio : String → Option ℚ := fun _ => none
  groupGroupRatio : String → String → Option ℚ := fun _ _ => none

def GroupSettings.getGroupRatio (g : GroupSettings) (group : String) : ℚ :=
  (g.groupRatio group).getD 1

def handleGroupRatio (g : GroupSettings) (autoGroup : Option String) (userGroup usingGroup : String) :
    GroupRatioInfo × String :=
  let usingGroup := autoGroup.getD usingGroup
  match g.groupGroupRatio userGroup usingGroup with
  | some ratio => (⟨ratio, ratio, true⟩, usingGroup)
  | none => (⟨g.getGroupRatio usingGroup, -1, false⟩, usingGroup)

def maxImageN : Nat := 128

structure ImageRequest where
  model : String
  size : String := ""
  quality : String := ""
  n : Option Nat := none
  n_le : ∀ k ∈ n, k ≤ maxImageN := by decide

namespace ImageRequest

variable (r : ImageRequest)

def imageN : Nat :=
  match r.n with
  | some n => if 0 < n then n else 1
  | none => 1

theorem imageN_pos : 0 < r.imageN := by
  unfold imageN
  split
  · split <;> omega
  · decide

theorem imageN_le : r.imageN ≤ maxImageN := by
  unfold imageN
  split
  next n hn =>
    have := r.n_le n hn
    split
    · exact this
    · decide
  · decide

def imagePriceRatio : ℚ :=
  if "dall-e".toList.isPrefixOf r.model.toList then
    let wide := r.size = "1024x1792" ∨ r.size = "1792x1024"
    let sizeRatio : ℚ :=
      if r.size = "256x256" then 4 / 10
      else if r.size = "512x512" then 45 / 100
      else if wide then 2
      else 1
    let qualityRatio : ℚ :=
      if r.model = "dall-e-3" ∧ r.quality = "hd" then if wide then 3 / 2 else 2 else 1
    sizeRatio * qualityRatio
  else 1

def billingRatios : List (String × ℚ) := [("n", r.imageN)]

def maxTokens : Int := 1584

end ImageRequest

/-- The settings that price a model. `modelRatio` has whether a ratio is configured; the expression
of `tieredExpr` may be missing. -/
structure ModelSettings where
  modelPrice : Option ℚ := none
  modelRatio : ℚ := 0
  modelRatioConfigured : Bool := false
  acceptUnsetRatioModel : Bool := false
  completionRatio : ℚ := 0
  cacheRatio : ℚ := 0
  createCacheRatio : ℚ := 0
  imageRatio : ℚ := 0
  audioRatio : ℚ := 0
  audioCompletionRatio : ℚ := 0
  preConsumedQuota : Int := 0
  enableFreeModelPreConsume : Bool := false
  tieredExpr : Option (Option String) := none

inductive PriceError where
  | notConfigured
  | noExpression
  | dimensions (message : String)
  | request (message : String)
  | expression (message : String)
  | clamped (clamp : QuotaClamp)

def strictPrice : Except QuotaClamp Int → Except PriceError Int
  | .ok quota => .ok quota
  | .error clamp => .error (.clamped clamp)

structure Priced where
  priceData : PriceData
  tieredBillingSnapshot : Option BillingSnapshot := none
  billingRequestInput : Option RequestInput := none

def claudeCacheCreation1hMultiplier : ℚ := 6 / (375 / 100)

def priceByRatio (m : ModelSettings) (g : GroupRatioInfo) (promptTokens : Int) :
    Except PriceError Priced :=
  if m.modelRatioConfigured = false ∧ m.acceptUnsetRatioModel = false then .error .notConfigured
  else do
    let preConsumedTokens := max promptTokens m.preConsumedQuota + ImageRequest.maxTokens
    let quota ← strictPrice (quotaFromFloatStrict (preConsumedTokens * (m.modelRatio * g.groupRatio)))
    let freeModel := !m.enableFreeModelPreConsume && (g.groupRatio == 0 || m.modelRatio == 0)
    return { priceData :=
      { freeModel
        modelRatio := m.modelRatio
        completionRatio := m.completionRatio
        groupRatioInfo := g
        cacheRatio := m.cacheRatio
        imageRatio := m.imageRatio
        audioRatio := m.audioRatio
        audioCompletionRatio := m.audioCompletionRatio
        cacheCreationRatio := m.createCacheRatio
        cacheCreation5mRatio := m.createCacheRatio
        cacheCreation1hRatio := m.createCacheRatio * claudeCacheCreation1hMultiplier
        quotaToPreConsume := if freeModel then 0 else quota } }

variable (quotaPerUnit : ℚ)

/-- `ModelPriceHelper` for a fixed price. The quota to pre-consume is set again at the end. -/
def priceByPrice (m : ModelSettings) (g : GroupRatioInfo) (r : ImageRequest)
    (price : ℚ) : Except PriceError Priced := do
  let modelPrice := if r.imagePriceRatio ≠ 0 then price * r.imagePriceRatio else price
  let priceData : PriceData :=
    { freeModel := !m.enableFreeModelPreConsume && (g.groupRatio == 0 || modelPrice == 0)
      modelPrice
      groupRatioInfo := g
      usePrice := true
      otherRatios := ({} : Tasks.OtherRatios).addAll r.billingRatios }
  let quota ← strictPrice (quotaFromFloatStrict
    (modelPrice * quotaPerUnit * g.groupRatio * priceData.otherRatios.multiplier))
  return { priceData := { priceData with quotaToPreConsume := quota } }

structure TieredSubmission where
  dimensions : Except String BillingDimensions
  request : Except String RequestInput
  exprVersion : Int
  exprHash : String
  now : Int

def defaultTieredPreConsumeMaxTokens : Int := 8192

def estimatedCompletionTokens (maxTokens : Int) (g : GroupRatioInfo) (dimensions : BillingDimensions) :
    Int :=
  if maxTokens = 0 ∧ g.groupRatio ≠ 0 ∧ dimensions = {} then defaultTieredPreConsumeMaxTokens
  else maxTokens

def modelPriceHelperTiered (engine : Engine) (m : ModelSettings)
    (g : GroupRatioInfo) (promptTokens : Int) (r : ImageRequest) (t : TieredSubmission)
    (dimensions : BillingDimensions) (exprString : String) : Except PriceError Priced :=
  let completionTokens := estimatedCompletionTokens ImageRequest.maxTokens g dimensions
  let usedVars := engine.usedVars exprString
  match t.request with
  | .error message => .error (.request message)
  | .ok request =>
    if validBillingDimensions dimensions usedVars = false then .error (.dimensions exprString)
    else
      let params : TokenParams :=
        { p := promptTokens, c := completionTokens, len := promptTokens
          evaluationTime := some t.now }
      match engine.run exprString
          { params, dimensions, phase := .estimate, now := t.now } request with
      | .error message => .error (.expression message)
      | .ok (rawCost, trace) => do
        let quotaBeforeGroup := rawCost / 1000000 * quotaPerUnit
        let quota ← strictPrice (quotaRoundStrict (quotaBeforeGroup * g.groupRatio))
        let freeModel := !m.enableFreeModelPreConsume && g.groupRatio == 0
        let quotaToPreConsume := if freeModel then 0 else quota
        return {
          priceData := { freeModel, groupRatioInfo := g, quotaToPreConsume }
          tieredBillingSnapshot := some
            { billingMode := "tiered_expr", modelName := r.model, exprString
              exprHash := t.exprHash, groupRatio := g.groupRatio
              estimatedPromptTokens := promptTokens
              estimatedCompletionTokens := completionTokens
              estimatedQuotaBeforeGroup := quotaBeforeGroup
              estimatedQuotaAfterGroup := quotaToPreConsume
              estimatedTier := trace.matchedTier, quotaPerUnit, exprVersion := t.exprVersion
              evaluationTime := some t.now, estimatedDimensions := dimensions }
          billingRequestInput :=
            if "param" ∈ usedVars ∨ "header" ∈ usedVars then some request else none }

def modelPriceHelper (engine : Engine) (m : ModelSettings) (g : GroupRatioInfo)
    (promptTokens : Int) (r : ImageRequest) (t : TieredSubmission) : Except PriceError Priced :=
  match m.tieredExpr with
  | some expression =>
    match t.dimensions with
    | .error message => .error (.dimensions message)
    | .ok dimensions =>
      match expression with
      | none => .error .noExpression
      | some exprString =>
        modelPriceHelperTiered quotaPerUnit engine m g promptTokens r t dimensions exprString
  | none =>
    match m.modelPrice with
    | some price => priceByPrice quotaPerUnit m g r price
    | none => priceByRatio m g promptTokens

def ModelSettings.FixedPrice (m : ModelSettings) : Prop :=
  m.tieredExpr = none ∧ m.modelPrice.isSome

instance (m : ModelSettings) : Decidable m.FixedPrice :=
  inferInstanceAs (Decidable (_ ∧ _))

section Priced

variable {quotaPerUnit : ℚ} {engine : Engine} {m : ModelSettings} {g : GroupRatioInfo}
  {promptTokens : Int} {r : ImageRequest} {t : TieredSubmission} {priced : Priced}

theorem strictPrice_bind {α : Type} {x : Except QuotaClamp Int} {f : Int → Except PriceError α}
    {a : α} (h : (strictPrice x >>= f) = .ok a) : ∃ quota, x = .ok quota ∧ f quota = .ok a := by
  cases x with
  | error clamp => cases h
  | ok quota => exact ⟨quota, rfl, h⟩

theorem modelPriceHelper_fixed
    (h : modelPriceHelper quotaPerUnit engine m g promptTokens r t = .ok priced)
    (hm : m.FixedPrice) :
    priced.tieredBillingSnapshot = none ∧ priced.priceData.usePrice = true ∧
      priced.priceData.modelRatio = 0 ∧ priced.priceData.groupRatioInfo = g ∧
      priced.priceData.otherRatios = ({} : Tasks.OtherRatios).addAll r.billingRatios := by
  obtain ⟨htiered, hprice⟩ := hm
  obtain ⟨price, hprice⟩ := Option.isSome_iff_exists.mp hprice
  unfold modelPriceHelper at h
  rw [htiered, hprice] at h
  obtain ⟨quota, -, hquota⟩ := strictPrice_bind h
  cases hquota
  exact ⟨rfl, rfl, rfl, rfl, rfl⟩

theorem priceByRatio_ok (h : priceByRatio m g promptTokens = .ok priced) :
    priced.priceData.usePrice = false ∧ priced.priceData.otherRatios = {} := by
  unfold priceByRatio at h
  split at h
  · cases h
  obtain ⟨quota, -, hquota⟩ := strictPrice_bind h
  cases hquota
  exact ⟨rfl, rfl⟩

theorem modelPriceHelperTiered_ok {dimensions : BillingDimensions} {exprString : String}
    (h : modelPriceHelperTiered quotaPerUnit engine m g promptTokens r t dimensions exprString =
      .ok priced) :
    priced.priceData.usePrice = false ∧ priced.priceData.otherRatios = {} := by
  unfold modelPriceHelperTiered at h
  dsimp only at h
  split at h
  · cases h
  split at h
  · cases h
  split at h
  · cases h
  obtain ⟨quota, -, hquota⟩ := strictPrice_bind h
  cases hquota
  exact ⟨rfl, rfl⟩

theorem modelPriceHelper_other
    (h : modelPriceHelper quotaPerUnit engine m g promptTokens r t = .ok priced)
    (hm : ¬ m.FixedPrice) :
    priced.priceData.usePrice = false ∧ priced.priceData.otherRatios = {} := by
  unfold modelPriceHelper at h
  split at h
  · split at h
    · cases h
    · split at h
      · cases h
      · exact modelPriceHelperTiered_ok h
  rename_i htiered
  split at h
  next price hprice =>
    exact absurd ⟨htiered, by simp [hprice]⟩ hm
  · exact priceByRatio_ok h

end Priced

end ZModel.Pricing
