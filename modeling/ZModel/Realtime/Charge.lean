import ZModel.Billing.Settlement
import ZModel.Common.QuotaMath

/-!
# Charging a realtime session

The realtime part of `service/quota.go`: `PreWssConsumeQuota` charges one turn,
`PostWssConsumeQuota` settles the sum.
-/

namespace ZModel.Realtime

open Lib Store Billing Common

@[ext] structure RealtimeUsage where
  totalTokens : Int := 0
  inputTokens : Int := 0
  outputTokens : Int := 0
  inputTextTokens : Int := 0
  inputAudioTokens : Int := 0
  inputCachedTokens : Int := 0
  outputTextTokens : Int := 0
  outputAudioTokens : Int := 0
  deriving DecidableEq

namespace RealtimeUsage

instance : Zero RealtimeUsage := ⟨{}⟩

instance : Add RealtimeUsage where
  add u v :=
    { totalTokens := u.totalTokens + v.totalTokens
      inputTokens := u.inputTokens + v.inputTokens
      outputTokens := u.outputTokens + v.outputTokens
      inputTextTokens := u.inputTextTokens + v.inputTextTokens
      inputAudioTokens := u.inputAudioTokens + v.inputAudioTokens
      inputCachedTokens := u.inputCachedTokens + v.inputCachedTokens
      outputTextTokens := u.outputTextTokens + v.outputTextTokens
      outputAudioTokens := u.outputAudioTokens + v.outputAudioTokens }

instance : AddCommMonoid RealtimeUsage where
  add_assoc u v w := by ext <;> exact Int.add_assoc _ _ _
  zero_add u := by ext <;> exact Int.zero_add _
  add_zero u := by ext <;> exact Int.add_zero _
  add_comm u v := by ext <;> exact Int.add_comm _ _
  nsmul := nsmulRec

def input (text audio : Int) : RealtimeUsage :=
  { totalTokens := text + audio, inputTokens := text + audio
    inputTextTokens := text, inputAudioTokens := audio }

def output (text audio : Int) : RealtimeUsage :=
  { totalTokens := text + audio, outputTokens := text + audio
    outputTextTokens := text, outputAudioTokens := audio }

end RealtimeUsage

structure RatioSettings where
  quotaPerUnit : ℚ
  modelRatio : String → ℚ
  completionRatio : String → ℚ
  audioRatio : String → ℚ
  audioCompletionRatio : String → ℚ
  groupRatio : String → ℚ
  groupGroupRatio : String → String → Option ℚ

structure QuotaInfo where
  modelName : String
  usePrice : Bool
  modelPrice : ℚ
  modelRatio : ℚ
  groupRatio : ℚ

def QuotaInfo.ratio (q : QuotaInfo) : ℚ := q.groupRatio * q.modelRatio

variable (cfg : RatioSettings)

def weighted (modelName : String) (u : RealtimeUsage) : ℚ :=
  u.inputTextTokens + u.outputTextTokens * cfg.completionRatio modelName +
    u.inputAudioTokens * cfg.audioRatio modelName +
    u.outputAudioTokens * cfg.audioRatio modelName * cfg.audioCompletionRatio modelName

def calculateAudioQuota (q : QuotaInfo) (u : RealtimeUsage) : Int × Option QuotaClamp :=
  if q.usePrice then
    quotaFromDecimalChecked (q.modelPrice * cfg.quotaPerUnit * q.groupRatio)
  else
    let quota := weighted cfg q.modelName u * q.ratio
    quotaFromDecimalChecked (if q.ratio ≠ 0 ∧ quota ≤ 0 then 1 else quota)

theorem calculateAudioQuota_nonneg {q : QuotaInfo} (hq : q.usePrice = false)
    (u : RealtimeUsage) : 0 ≤ (calculateAudioQuota cfg q u).1 := by
  have hvalue : 0 ≤ if q.ratio ≠ 0 ∧ weighted cfg q.modelName u * q.ratio ≤ 0 then (1 : ℚ)
      else weighted cfg q.modelName u * q.ratio := by
    split
    · exact zero_le_one
    rename_i h
    -- With a ratio of 0 the product is 0; otherwise it was found to be positive.
    by_cases hratio : q.ratio = 0
    · simp [hratio]
    · exact le_of_not_ge fun hle => h ⟨hratio, hle⟩
  rw [calculateAudioQuota, if_neg (by simp [hq])]
  refine saturateQuota_nonneg ?_ _
  exact_mod_cast roundAway_nonneg hvalue

structure TieredSnapshot where
  compute : Int → Int → Option Int
  estimatedQuotaAfterGroup : Int

/-- The fields of `RelayInfo` that the charges read. `usePrice` is that of `RelayInfo` itself, which
nothing sets. -/
structure WssInfo where
  originModelName : String
  upstreamModelName : String
  userGroup : String
  usingGroup : String
  autoGroup : Option String := none
  usePrice : Bool := false
  priceData : QuotaInfo
  tiered : Option TieredSnapshot := none

section

variable (i : WssInfo)

def WssInfo.group : String := i.autoGroup.getD i.usingGroup

variable (cfg : RatioSettings)

def WssInfo.actualGroupRatio : ℚ :=
  (cfg.groupGroupRatio i.userGroup i.group).getD (cfg.groupRatio i.group)

structure TokenView where
  unlimitedQuota : Bool
  remainQuota : Int

structure WssEnv where
  settings : RatioSettings
  userQuota : Option Int
  token : Option TokenView
  fundingWrite : Write
  tokenWrite : Write

inductive PreWssError where
  | lookupFailed
  | userQuotaNotEnough (quota need : Int)
  | tokenQuotaNotEnough (remain need : Int)
  | consume (e : ConsumeError)

def turnQuota (u : RealtimeUsage) : Int :=
  (calculateAudioQuota cfg
    { modelName := i.originModelName, usePrice := i.usePrice, modelPrice := 0
      modelRatio := cfg.modelRatio i.originModelName
      groupRatio := i.actualGroupRatio cfg } u).1

def preWssConsumeQuota (e : WssEnv) (a : Accounts) (r : Request)
    (u : RealtimeUsage) : Except PreWssError Unit × Request × Accounts :=
  if i.usePrice then (.ok (), r, a)
  else match e.userQuota, e.token with
    | some userQuota, some token =>
      let quota := turnQuota i e.settings u
      if userQuota < quota then (.error (.userQuotaNotEnough userQuota quota), r, a)
      else if token.unlimitedQuota = false ∧ token.remainQuota < quota then
        (.error (.tokenQuotaNotEnough token.remainQuota quota), r, a)
      else
        let (result, r', a') := postConsumeQuota e.fundingWrite e.tokenWrite a r quota
        (result.mapError .consume, r', a')
    | _, _ => (.error .lookupFailed, r, a)

def tryTieredSettle (r : Request) (u : RealtimeUsage) : Option Int :=
  i.tiered.map fun snap =>
    match snap.compute u.inputTokens u.outputTokens with
    | some quota => quota
    | none =>
      if r.info.finalPreConsumedQuota ≤ 0 then snap.estimatedQuotaAfterGroup
      else r.info.finalPreConsumedQuota

def postWssQuota (r : Request) (u : RealtimeUsage) : Int :=
  if u.totalTokens = 0 then 0
  else (tryTieredSettle i r u).getD
    (calculateAudioQuota cfg
      { i.priceData with modelName := i.upstreamModelName, modelPrice := 0 } u).1

def postWssConsumeQuota (fundingWrite tokenWrite : Write)
    (a : Accounts) (r : Request) (u : RealtimeUsage) : Accounts :=
  (settleBilling fundingWrite tokenWrite a r (postWssQuota i cfg r u)).2.2

end

end ZModel.Realtime
