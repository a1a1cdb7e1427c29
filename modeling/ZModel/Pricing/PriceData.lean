import ZModel.BillingExpr.Run
import ZModel.Tasks.Price

/-!
# Price data and the billing context of an image task

`PriceData` of `types/price_data.go` and the context that is stored with a task as JSON. The other
ratios are not exported, so they are not stored.
-/

namespace ZModel.Pricing

open Lib Common BillingExpr
open Codec (num bool int str any field_omitEmpty lookup_omitEmpty_ne field_congr lookup_omitNil_ne)
open Tasks (OtherRatios)

structure GroupRatioInfo where
  groupRatio : ℚ := 0
  groupSpecialRatio : ℚ := 0
  hasSpecialRatio : Bool := false

structure PriceData where
  freeModel : Bool := false
  modelPrice : ℚ := 0
  modelRatio : ℚ := 0
  completionRatio : ℚ := 0
  cacheRatio : ℚ := 0
  cacheCreationRatio : ℚ := 0
  cacheCreation5mRatio : ℚ := 0
  cacheCreation1hRatio : ℚ := 0
  imageRatio : ℚ := 0
  audioRatio : ℚ := 0
  audioCompletionRatio : ℚ := 0
  otherRatios : OtherRatios := {}
  usePrice : Bool := false
  quota : Int := 0
  quotaToPreConsume : Int := 0
  groupRatioInfo : GroupRatioInfo := {}

structure BillingSnapshot where
  billingMode : String := ""
  modelName : String := ""
  exprString : String := ""
  exprHash : String := ""
  groupRatio : ℚ := 0
  estimatedPromptTokens : Int := 0
  estimatedCompletionTokens : Int := 0
  estimatedQuotaBeforeGroup : ℚ := 0
  estimatedQuotaAfterGroup : Int := 0
  estimatedTier : String := ""
  quotaPerUnit : ℚ := 0
  exprVersion : Int := 0
  evaluationTime : Option Int := none
  estimatedDimensions : BillingDimensions := {}

structure AsyncImageBillingContext where
  priceData : PriceData := {}
  tieredBillingSnapshot : Option BillingSnapshot := none
  billingRequestInput : Option RequestInput := none
  tokenGroup : String := ""
  userGroup : String := ""
  estimatedTokens : Int := 0

def record {α : Type} (fields : α → List (String × Json)) (read : List (String × Json) → Option α)
    (zero : α) (h : ∀ a, read (fields a) = some a) : Codec α where
  encode a := .obj (fields a)
  decode
    | .obj fs => read fs
    | .null => some zero
    | _ => none
  zero := zero
  decode_encode := h

def groupRatioInfoCodec : Codec GroupRatioInfo :=
  record
    (fun g => [("GroupRatio", num.encode g.groupRatio),
      ("GroupSpecialRatio", num.encode g.groupSpecialRatio),
      ("HasSpecialRatio", bool.encode g.hasSpecialRatio)])
    (fun fs => do
      return { groupRatio := ← num.field fs "GroupRatio"
               groupSpecialRatio := ← num.field fs "GroupSpecialRatio"
               hasSpecialRatio := ← bool.field fs "HasSpecialRatio" })
    {} (fun _ => rfl)

def PriceData.fields (p : PriceData) : List (String × Json) :=
  [("FreeModel", bool.encode p.freeModel), ("ModelPrice", num.encode p.modelPrice),
    ("ModelRatio", num.encode p.modelRatio),
    ("CompletionRatio", num.encode p.completionRatio),
    ("CacheRatio", num.encode p.cacheRatio),
    ("CacheCreationRatio", num.encode p.cacheCreationRatio),
    ("CacheCreation5mRatio", num.encode p.cacheCreation5mRatio),
    ("CacheCreation1hRatio", num.encode p.cacheCreation1hRatio),
    ("ImageRatio", num.encode p.imageRatio), ("AudioRatio", num.encode p.audioRatio),
    ("AudioCompletionRatio", num.encode p.audioCompletionRatio),
    ("UsePrice", bool.encode p.usePrice), ("Quota", int.encode p.quota),
    ("QuotaToPreConsume", int.encode p.quotaToPreConsume),
    ("GroupRatioInfo", groupRatioInfoCodec.encode p.groupRatioInfo)]

variable (fs : List (String × Json))

def PriceData.ofFields : Option PriceData := do
  return { freeModel := ← bool.field fs "FreeModel"
           modelPrice := ← num.field fs "ModelPrice"
           modelRatio := ← num.field fs "ModelRatio"
           completionRatio := ← num.field fs "CompletionRatio"
           cacheRatio := ← num.field fs "CacheRatio"
           cacheCreationRatio := ← num.field fs "CacheCreationRatio"
           cacheCreation5mRatio := ← num.field fs "CacheCreation5mRatio"
           cacheCreation1hRatio := ← num.field fs "CacheCreation1hRatio"
           imageRatio := ← num.field fs "ImageRatio"
           audioRatio := ← num.field fs "AudioRatio"
           audioCompletionRatio := ← num.field fs "AudioCompletionRatio"
           usePrice := ← bool.field fs "UsePrice"
           quota := ← int.field fs "Quota"
           quotaToPreConsume := ← int.field fs "QuotaToPreConsume"
           groupRatioInfo := ← groupRatioInfoCodec.field fs "GroupRatioInfo" }

def PriceData.exported (p : PriceData) : PriceData := { p with otherRatios := {} }

theorem PriceData.ofFields_fields (p : PriceData) :
    PriceData.ofFields p.fields = some p.exported := rfl

def dimensionsCodec : Codec BillingDimensions :=
  record
    (fun d => [("units", num.encode d.units), ("seconds", num.encode d.seconds),
      ("width", num.encode d.width), ("height", num.encode d.height),
      ("reference_image_count", num.encode d.referenceImageCount),
      ("reference_video_count", num.encode d.referenceVideoCount),
      ("reference_audio_count", num.encode d.referenceAudioCount),
      ("quality", str.encode d.quality),
      ("resolution_tier", str.encode d.resolutionTier),
      ("image_size_tier", str.encode d.imageSizeTier),
      ("image_size", str.encode d.imageSize)])
    (fun fs => do
      return { units := ← num.field fs "units"
               seconds := ← num.field fs "seconds"
               width := ← num.field fs "width"
               height := ← num.field fs "height"
               referenceImageCount := ← num.field fs "reference_image_count"
               referenceVideoCount := ← num.field fs "reference_video_count"
               referenceAudioCount := ← num.field fs "reference_audio_count"
               quality := ← str.field fs "quality"
               resolutionTier := ← str.field fs "resolution_tier"
               imageSizeTier := ← str.field fs "image_size_tier"
               imageSize := ← str.field fs "image_size" })
    {} (fun _ => rfl)

def snapshotCodec : Codec BillingSnapshot :=
  record
    (fun s => int.omitNil "evaluation_time" s.evaluationTime ++
      [("billing_mode", str.encode s.billingMode), ("model_name", str.encode s.modelName),
        ("expr_string", str.encode s.exprString),
        ("expr_hash", str.encode s.exprHash),
        ("group_ratio", num.encode s.groupRatio),
        ("estimated_prompt_tokens", int.encode s.estimatedPromptTokens),
        ("estimated_completion_tokens", int.encode s.estimatedCompletionTokens),
        ("estimated_quota_before_group", num.encode s.estimatedQuotaBeforeGroup),
        ("estimated_quota_after_group", int.encode s.estimatedQuotaAfterGroup),
        ("estimated_tier", str.encode s.estimatedTier),
        ("quota_per_unit", num.encode s.quotaPerUnit),
        ("expr_version", int.encode s.exprVersion),
        ("estimated_dimensions", dimensionsCodec.encode s.estimatedDimensions)])
    (fun fs => do
      return { billingMode := ← str.field fs "billing_mode"
               modelName := ← str.field fs "model_name"
               exprString := ← str.field fs "expr_string"
               exprHash := ← str.field fs "expr_hash"
               groupRatio := ← num.field fs "group_ratio"
               estimatedPromptTokens := ← int.field fs "estimated_prompt_tokens"
               estimatedCompletionTokens := ← int.field fs "estimated_completion_tokens"
               estimatedQuotaBeforeGroup := ← num.field fs "estimated_quota_before_group"
               estimatedQuotaAfterGroup := ← int.field fs "estimated_quota_after_group"
               estimatedTier := ← str.field fs "estimated_tier"
               quotaPerUnit := ← num.field fs "quota_per_unit"
               exprVersion := ← int.field fs "expr_version"
               evaluationTime := ← int.pointerField fs "evaluation_time"
               estimatedDimensions := ← dimensionsCodec.field fs "estimated_dimensions" })
    {} (fun s => by
      obtain ⟨_, _, _, _, _, _, _, _, _, _, _, _, time, _⟩ := s
      cases time <;> rfl)

def requestInputFields (r : RequestInput) : List (String × Json) :=
  str.map.omitEmpty "headers" r.headers.isEmpty r.headers ++
    (str.omitEmpty "body" (r.body == "") r.body ++
      (any.map.omitEmpty "params" r.params.isEmpty r.params ++ []))

def requestInputCodec : Codec RequestInput :=
  record requestInputFields
    (fun fs => do
      return { headers := ← str.map.field fs "headers"
               body := ← str.field fs "body"
               params := ← any.map.field fs "params" })
    {} (fun r => by
      have hheaders : str.map.field (requestInputFields r) "headers" = some r.headers := by
        refine field_omitEmpty _ (fun h => List.isEmpty_iff.mp h) ?_
        rw [lookup_omitEmpty_ne _ rfl, lookup_omitEmpty_ne _ rfl]
        rfl
      have hbody : str.field (requestInputFields r) "body" = some r.body := by
        refine (field_congr _ (lookup_omitEmpty_ne _ (by rfl) _ _ _)).trans ?_
        refine field_omitEmpty _ (fun h => eq_of_beq h) ?_
        rw [lookup_omitEmpty_ne _ rfl]
        rfl
      have hparams : any.map.field (requestInputFields r) "params" = some r.params := by
        refine (field_congr _ (lookup_omitEmpty_ne _ (by rfl) _ _ _)).trans ?_
        refine (field_congr _ (lookup_omitEmpty_ne _ (by rfl) _ _ _)).trans ?_
        exact field_omitEmpty _ (fun h => List.isEmpty_iff.mp h) rfl
      rw [hheaders, hbody, hparams]
      rfl)

def AsyncImageBillingContext.fields (c : AsyncImageBillingContext) : List (String × Json) :=
  snapshotCodec.omitNil "tiered_billing_snapshot" c.tieredBillingSnapshot ++
    (requestInputCodec.omitNil "billing_request_input" c.billingRequestInput ++
      [("price_data", .obj c.priceData.fields), ("token_group", str.encode c.tokenGroup),
        ("user_group", str.encode c.userGroup),
        ("estimated_tokens", int.encode c.estimatedTokens)])

def priceDataField : Option PriceData :=
  match fs.lookup "price_data" with
  | none => some {}
  | some .null => some {}
  | some (.obj price) => PriceData.ofFields price
  | _ => none

def AsyncImageBillingContext.ofFields : Option AsyncImageBillingContext := do
  return { priceData := ← priceDataField fs
           tieredBillingSnapshot := ← snapshotCodec.pointerField fs "tiered_billing_snapshot"
           billingRequestInput := ← requestInputCodec.pointerField fs "billing_request_input"
           tokenGroup := ← str.field fs "token_group"
           userGroup := ← str.field fs "user_group"
           estimatedTokens := ← int.field fs "estimated_tokens" }

theorem AsyncImageBillingContext.ofFields_fields (c : AsyncImageBillingContext) :
    AsyncImageBillingContext.ofFields c.fields =
      some { c with priceData := c.priceData.exported } := by
  have hplain : ∀ name, (name == "tiered_billing_snapshot") = false →
      (name == "billing_request_input") = false → c.fields.lookup name =
        [("price_data", .obj c.priceData.fields), ("token_group", str.encode c.tokenGroup),
          ("user_group", str.encode c.userGroup),
          ("estimated_tokens", int.encode c.estimatedTokens)].lookup name := by
    intro name hsnapshot hinput
    rw [AsyncImageBillingContext.fields, lookup_omitNil_ne _ hsnapshot, lookup_omitNil_ne _ hinput]
  have hprice : priceDataField c.fields = some c.priceData.exported := by
    rw [priceDataField, hplain _ rfl rfl]
    exact c.priceData.ofFields_fields
  have hsnapshot : snapshotCodec.pointerField c.fields "tiered_billing_snapshot" =
      some c.tieredBillingSnapshot := by
    refine snapshotCodec.pointerField_omitNil (fun s h => ?_) _ ?_
    · cases (show Json.obj _ = Json.null from h)
    · rw [lookup_omitNil_ne _ rfl]
      rfl
  have hinput : requestInputCodec.pointerField c.fields "billing_request_input" =
      some c.billingRequestInput := by
    refine (Codec.pointerField_congr _ (lookup_omitNil_ne _ (by rfl) _ _)).trans ?_
    refine requestInputCodec.pointerField_omitNil (fun r h => ?_) _ rfl
    cases (show Json.obj _ = Json.null from h)
  rw [AsyncImageBillingContext.ofFields, hprice, hsnapshot, hinput,
    field_congr _ (hplain "token_group" rfl rfl),
    field_congr _ (hplain "user_group" rfl rfl),
    field_congr _ (hplain "estimated_tokens" rfl rfl)]
  rfl

end ZModel.Pricing
