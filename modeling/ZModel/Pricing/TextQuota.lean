import ZModel.Pricing.PriceData
import ZModel.BillingExpr.Freeze

/-!
# The quota of a text or image request

`service/text_quota.go` and `service/tiered_settle.go`. Prices, ratios and decimals are rational
numbers. That a quota was clamped goes to the logs only, and is left out.
-/

namespace ZModel.Pricing

open Lib Common BillingExpr

structure Usage where
  promptTokens : Int := 0
  completionTokens : Int := 0
  totalTokens : Int := 0
  usageSemantic : String := ""
  usageSource : String := ""
  cachedTokens : Int := 0
  cachedCreationTokens : Int := 0
  cacheWriteTokens : Int := 0
  imageTokens : Int := 0
  audioTokens : Int := 0
  outputImageTokens : Int := 0
  outputAudioTokens : Int := 0
  claudeCacheCreation5mTokens : Int := 0
  claudeCacheCreation1hTokens : Int := 0
  cost : Option ℚ := none

def Usage.cacheCreationTokensTotal (u : Usage) : Int :=
  max (max u.cachedCreationTokens u.cacheWriteTokens) 0

structure Settings where
  quotaPerUnit : ℚ := 500000
  toolPriceForModel : String → String → ℚ := fun _ _ => 0
  gptImage1PriceOnceCall : String → String → ℚ := fun _ _ => 0
  geminiInputAudioPrice : String → ℚ := fun _ => 0
  defaultModelRatio : String → Option ℚ := fun _ => none

variable (settings : Settings)

def Settings.toolPrice (tool : String) : ℚ :=
  settings.toolPriceForModel tool ""

structure ResponsesUsageInfo where
  webSearchPreview : Option Int := none
  fileSearch : Option Int := none

structure ToolUse where
  responsesUsageInfo : Option ResponsesUsageInfo := none
  claudeWebSearchRequests : Int := 0
  imageGenerationCall : Option (String × String) := none

structure Engine where
  usedVars : String → List String
  run : String → RunEnv → RequestInput → Except String (ℚ × TraceResult)

structure RelayInfo where
  originModelName : String := ""
  priceData : PriceData := {}
  tieredBillingSnapshot : Option BillingSnapshot := none
  billingRequestInput : Option RequestInput := none
  claudeFormat : Bool := false
  openRouter : Bool := false
  estimatePromptTokens : Int := 0
  finalPreConsumedQuota : Int := 0
  actualBillingDimensions : Option BillingDimensions := none
  tools : ToolUse := {}

structure TokenCounts where
  promptTokens : Int
  completionTokens : Int
  totalTokens : Int
  cacheTokens : Int
  cacheCreationTokens : Int
  cacheCreationTokens5m : Int
  cacheCreationTokens1h : Int
  imageTokens : Int
  audioTokens : Int
  isClaudeUsageSemantic : Bool
  legacyClaudeDerived : Bool

variable (info : RelayInfo)

def usageSemanticFromUsage (usage : Option Usage) : String :=
  match usage.map Usage.usageSemantic with
  | some semantic => if semantic ≠ "" then semantic else fallback
  | none => fallback
where
  fallback : String := if info.claudeFormat then "anthropic" else "openai"

def isLegacyClaudeDerivedOpenAIUsage (u : Usage) : Bool :=
  !info.claudeFormat && u.usageSource == "" && u.usageSemantic == "" &&
    (decide (0 < u.claudeCacheCreation5mTokens) || decide (0 < u.claudeCacheCreation1hTokens))

section

variable (settings : Settings)

def hasCustomModelRatio (modelName : String) (currentRatio : ℚ) : Bool :=
  match settings.defaultModelRatio modelName with
  | none => true
  | some ratio => currentRatio != ratio

def calcOpenRouterCacheCreateTokens (u : Usage) (p : PriceData) : Int :=
  if p.cacheCreationRatio = 1 then 0
  else
    let quotaPrice := p.modelRatio / settings.quotaPerUnit
    let promptCacheCreatePrice := quotaPrice * p.cacheCreationRatio
    let promptCacheReadPrice := quotaPrice * p.cacheRatio
    let completionPrice := quotaPrice * p.completionRatio
    roundAway ((u.cost.getD 0 - u.promptTokens * quotaPrice +
      u.cachedTokens * (quotaPrice - promptCacheReadPrice) -
      u.completionTokens * completionPrice) / (promptCacheCreatePrice - quotaPrice))

variable (info : RelayInfo)

/-- The tokens of a usage. An OpenRouter channel reports prompt tokens with those of the cache, and
cache creation only through the cost. -/
def tokenCounts (usage : Option Usage) : TokenCounts :=
  let isClaude := usageSemanticFromUsage info usage == "anthropic"
  let u := usage.getD { promptTokens := info.estimatePromptTokens
                        totalTokens := info.estimatePromptTokens }
  let p := info.priceData
  let isOpenRouterClaudeBilling := info.openRouter && isClaude
  let promptTokens :=
    if isOpenRouterClaudeBilling then u.promptTokens - u.cachedTokens else u.promptTokens
  let isUsingCustomSettings :=
    p.usePrice || hasCustomModelRatio settings info.originModelName p.modelRatio
  let maybeCacheCreationTokens := calcOpenRouterCacheCreateTokens settings u p
  let cacheCreationTokens :=
    if isOpenRouterClaudeBilling ∧ u.cacheCreationTokensTotal = 0 ∧ p.cacheCreationRatio ≠ 1 ∧
        isUsingCustomSettings = false ∧ 0 ≤ maybeCacheCreationTokens ∧
        maybeCacheCreationTokens ≤ promptTokens then maybeCacheCreationTokens
    else u.cacheCreationTokensTotal
  { promptTokens :=
      if isOpenRouterClaudeBilling then promptTokens - cacheCreationTokens else promptTokens
    completionTokens := u.completionTokens
    totalTokens := u.promptTokens + u.completionTokens
    cacheTokens := u.cachedTokens
    cacheCreationTokens
    cacheCreationTokens5m := u.claudeCacheCreation5mTokens
    cacheCreationTokens1h := u.claudeCacheCreation1hTokens
    imageTokens := u.imageTokens
    audioTokens := u.audioTokens
    isClaudeUsageSemantic := isClaude
    legacyClaudeDerived := isLegacyClaudeDerivedOpenAIUsage info u }

def toolCallPrice : ℚ :=
  let tools := info.tools
  let webSearch : ℚ :=
    match tools.responsesUsageInfo with
    | some responses =>
      match responses.webSearchPreview with
      | some calls =>
        if 0 < calls then
          settings.toolPriceForModel "web_search_preview" info.originModelName * calls / 1000
        else 0
      | none => 0
    | none =>
      if "search-preview".toList.isSuffixOf info.originModelName.toList then
        settings.toolPriceForModel "web_search_preview" info.originModelName / 1000
      else 0
  let claudeWebSearch : ℚ :=
    if 0 < tools.claudeWebSearchRequests then
      settings.toolPrice "web_search" / 1000 * tools.claudeWebSearchRequests
    else 0
  let fileSearch : ℚ :=
    match tools.responsesUsageInfo.bind ResponsesUsageInfo.fileSearch with
    | some calls => if 0 < calls then settings.toolPrice "file_search" * calls / 1000 else 0
    | none => 0
  let imageGeneration : ℚ :=
    match tools.imageGenerationCall with
    | some (quality, size) => settings.gptImage1PriceOnceCall quality size
    | none => 0
  webSearch + claudeWebSearch + fileSearch + imageGeneration

def calculateTextToolCallSurcharge : ℚ :=
  toolCallPrice settings info * info.priceData.groupRatioInfo.groupRatio * settings.quotaPerUnit

def weightedTokens (t : TokenCounts) : ℚ × ℚ :=
  let p := info.priceData
  let separate := t.isClaudeUsageSemantic || t.legacyClaudeDerived
  let audioInputPrice := settings.geminiInputAudioPrice info.originModelName
  let pricedAudio := t.audioTokens ≠ 0 ∧ 0 < audioInputPrice
  let splitCacheCreation := t.cacheCreationTokens ≠ 0 ∨ 0 < t.cacheCreationTokens5m ∨
    0 < t.cacheCreationTokens1h
  let baseTokens : Int := t.promptTokens - (if separate then 0 else t.cacheTokens) -
    (if splitCacheCreation ∧ separate = false then t.cacheCreationTokens else 0) - t.imageTokens -
    (if pricedAudio then t.audioTokens else 0)
  let cacheCreation : ℚ :=
    if splitCacheCreation then
      if separate then
        let remaining :=
          max (t.cacheCreationTokens - t.cacheCreationTokens5m - t.cacheCreationTokens1h) 0
        remaining * p.cacheCreationRatio + t.cacheCreationTokens5m * p.cacheCreation5mRatio +
          t.cacheCreationTokens1h * p.cacheCreation1hRatio
      else t.cacheCreationTokens * p.cacheCreationRatio
    else 0
  let prompt : ℚ := (max baseTokens 0 : Int) + t.cacheTokens * p.cacheRatio +
    t.imageTokens * p.imageRatio + cacheCreation
  (prompt + t.completionTokens * p.completionRatio,
    if pricedAudio then audioInputPrice / 1000000 * t.audioTokens else 0)

structure TextQuotaSummary where
  tokens : TokenCounts
  quota : Int
  toolCallSurchargeQuota : ℚ

def calculateTextQuotaSummary (usage : Option Usage) : TextQuotaSummary :=
  let p := info.priceData
  let groupRatio := p.groupRatioInfo.groupRatio
  let t := tokenCounts settings info usage
  let ratio := p.modelRatio * groupRatio
  let surcharge := calculateTextToolCallSurcharge settings info
  let quota : Int :=
    if p.usePrice then
      let value := (p.modelPrice * settings.quotaPerUnit * groupRatio + surcharge) *
        p.otherRatios.multiplier
      (quotaFromDecimalChecked value).1
    else
      let (weighted, audio) := weightedTokens settings info t
      let value := (weighted * ratio + surcharge + audio * groupRatio * settings.quotaPerUnit) *
        p.otherRatios.multiplier
      (quotaFromDecimalChecked (if ratio ≠ 0 ∧ value ≤ 0 then 1 else value)).1
  { tokens := t
    quota :=
      if t.totalTokens = 0 then 0
      else if ratio ≠ 0 ∧ quota = 0 then 1
      else quota
    toolCallSurchargeQuota := surcharge }

end

def buildTieredTokenParams (u : Usage) (isClaude : Bool) (usedVars : List String) : TokenParams :=
  let anthropic := u.usageSemantic == "anthropic"
  let cr : ℚ := u.cachedTokens
  let cc5m : ℚ :=
    if anthropic then u.claudeCacheCreation5mTokens else u.cacheCreationTokensTotal
  let cc1h : ℚ := if anthropic then u.claudeCacheCreation1hTokens else 0
  let excluded (name : String) (tokens : ℚ) : ℚ :=
    if isClaude = false ∧ name ∈ usedVars then tokens else 0
  let p : ℚ := u.promptTokens - excluded "cr" cr - excluded "cc" cc5m - excluded "cc1h" cc1h -
    excluded "img" u.imageTokens - excluded "ai" u.audioTokens
  let c : ℚ := u.completionTokens - excluded "img_o" u.outputImageTokens -
    excluded "ao" u.outputAudioTokens
  { p := max p 0
    c := max c 0
    len := if isClaude then u.promptTokens + cr + cc5m + cc1h else u.promptTokens
    cr
    cc := cc5m
    cc1h
    img := u.imageTokens
    imgO := u.outputImageTokens
    ai := u.audioTokens
    ao := u.outputAudioTokens
    total := u.totalTokens }

def validBillingDimensions (d : BillingDimensions) (usedVars : List String) : Bool :=
  let numeric := [("units", d.units), ("seconds", d.seconds), ("width", d.width),
    ("height", d.height)]
  let counts := [d.referenceImageCount, d.referenceVideoCount, d.referenceAudioCount]
  let texts := [("quality", d.quality), ("resolution_tier", d.resolutionTier),
    ("image_size_tier", d.imageSizeTier), ("image_size", d.imageSize)]
  numeric.all (fun n => decide (0 ≤ n.2) && !(decide (n.1 ∈ usedVars) && decide (n.2 = 0))) &&
    counts.all (fun n => decide (0 ≤ n) && decide (n.den = 1)) &&
    texts.all (fun t => !(decide (t.1 ∈ usedVars) && isBlank t.2))

def mergeBillingDimensions (estimated actual : BillingDimensions) : BillingDimensions :=
  { estimated with
    units := if 0 < actual.units then actual.units else estimated.units
    seconds := if 0 < actual.seconds then actual.seconds else estimated.seconds
    width := if 0 < actual.width then actual.width else estimated.width
    height := if 0 < actual.height then actual.height else estimated.height
    quality := if actual.quality ≠ "" then actual.quality else estimated.quality
    resolutionTier :=
      if actual.resolutionTier ≠ "" then actual.resolutionTier else estimated.resolutionTier
    imageSizeTier :=
      if actual.imageSizeTier ≠ "" then actual.imageSizeTier else estimated.imageSizeTier
    imageSize := if actual.imageSize ≠ "" then actual.imageSize else estimated.imageSize }

variable (engine : Engine)

def computeTieredQuota (snap : BillingSnapshot) (params : TokenParams)
    (dimensions : BillingDimensions) (request : RequestInput) : Option (ℚ × Int) :=
  if validBillingDimensions dimensions (engine.usedVars snap.exprString) then
    let params := { params with
      evaluationTime := snap.evaluationTime.or params.evaluationTime }
    match engine.run snap.exprString { params, dimensions } request with
    | .error _ => none
    | .ok (cost, _) =>
      let before := cost / 1000000 * snap.quotaPerUnit
      some (before, (quotaRoundChecked (before * snap.groupRatio)).1)
  else none

def tryTieredSettle (info : RelayInfo) (params : TokenParams) : Option (Int × Option ℚ) :=
  match info.tieredBillingSnapshot with
  | none => none
  | some snap =>
    if snap.billingMode ≠ "tiered_expr" then none
    else
      let dimensions := mergeBillingDimensions snap.estimatedDimensions
        (info.actualBillingDimensions.getD {})
      match computeTieredQuota engine snap params dimensions
          (info.billingRequestInput.getD {}) with
      | some (before, after) => some (after, some before)
      | none =>
        some (if info.finalPreConsumedQuota ≤ 0 then snap.estimatedQuotaAfterGroup
          else info.finalPreConsumedQuota, none)

def composeTieredTextQuota (surcharge : ℚ) (tieredQuota : Int) (result : Option ℚ) : Int :=
  if surcharge = 0 then tieredQuota
  else
    match result, info.tieredBillingSnapshot with
    | some before, some snap =>
      (quotaFromDecimalChecked (before * snap.groupRatio + surcharge)).1
    | _, _ => (quotaFromDecimalChecked (tieredQuota + surcharge)).1

def tieredTextQuota (info : RelayInfo) (usage : Option Usage) : Option Int :=
  match usage with
  | none => none
  | some u =>
    let summary := calculateTextQuotaSummary settings info usage
    let usedVars := info.tieredBillingSnapshot.elim [] fun s => engine.usedVars s.exprString
    let params := buildTieredTokenParams u summary.tokens.isClaudeUsageSemantic usedVars
    (tryTieredSettle engine info params).map fun (quota, result) =>
      composeTieredTextQuota info summary.toolCallSurchargeQuota quota result

def settledQuota (info : RelayInfo) (usage : Option Usage) : Int :=
  (tieredTextQuota settings engine info usage).getD
    (calculateTextQuotaSummary settings info usage).quota

end ZModel.Pricing
