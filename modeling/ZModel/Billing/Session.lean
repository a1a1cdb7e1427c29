import ZModel.Lib.Transaction
import ZModel.Subscription.PreConsume

/-!
# Billing sessions

`BillingSession` of `service/billing_session.go` with its two funding sources. Each function takes
the outcome of its store writes, and what it reads through a cache, as inputs.
-/

namespace ZModel.Billing

open Lib Store Subscription

structure RelayInfo where
  userId : Nat
  tokenId : Nat
  requestId : String
  isPlayground : Bool := false
  tokenUnlimited : Bool := false
  forcePreConsume : Bool := false
  billingPreference : String := ""
  userQuota : Int := 0
  finalPreConsumedQuota : Int := 0
  billingSource : BillingSource := .wallet
  subscriptionId : Nat := 0
  subscriptionPreConsumed : Int := 0
  subscriptionPostDelta : Int := 0

structure SubscriptionFunding where
  requestId : String
  userId : Nat
  amount : Int
  subscriptionId : Nat := 0
  preConsumed : Int := 0

inductive Funding where
  | wallet (userId : Nat) (consumed : Int)
  | subscription (f : SubscriptionFunding)

def Funding.source : Funding → BillingSource
  | .wallet _ _ => .wallet
  | .subscription _ => .subscription

structure BillingSession where
  relayInfo : RelayInfo
  funding : Funding
  preConsumedQuota : Int := 0
  tokenConsumed : Int := 0
  extraReserved : Int := 0
  trusted : Bool := false
  fundingSettled : Bool := false
  settled : Bool := false
  refunded : Bool := false

inductive FundingError where
  | quota (e : QuotaError)
  | preConsume (e : PreConsumeError)

def Funding.preConsume (zone now : Int) (w : Write) (a : Accounts) (amount : Int) :
    Funding → Except FundingError (Funding × Accounts)
  | .wallet userId consumed =>
    if amount ≤ 0 then .ok (.wallet userId consumed, a)
    else match decreaseUserQuota w a userId amount with
      | .error e => .error (.quota e)
      | .ok a' => .ok (.wallet userId amount, a')
  | .subscription f =>
    match preConsumeUserSubscription zone now w a f.requestId f.userId f.amount with
    | .error e => .error (.preConsume e)
    | .ok (result, a') => .ok (.subscription { f with
        subscriptionId := result.userSubscriptionId, preConsumed := result.preConsumed }, a')

def Funding.settle (w : Write) (a : Accounts) (delta : Int) : Funding → Except QuotaError Accounts
  | .wallet userId _ =>
    if delta = 0 then .ok a
    else if 0 < delta then decreaseUserQuota w a userId delta
    else increaseUserQuota w a userId (-delta)
  | .subscription f =>
    if delta = 0 then .ok a
    else postConsumeUserSubscriptionDelta w a f.subscriptionId delta

def refundWithRetry (fn : Accounts → Except RefundError Unit × Accounts) : Nat → Accounts → Accounts
  | 0, a => a
  | attempts + 1, a =>
    match fn a with
    | (.ok (), a') => a'
    | (.error _, a') => refundWithRetry fn attempts a'

def Funding.refund (a : Accounts) : Funding → Accounts
  | .wallet userId consumed =>
    if consumed ≤ 0 then a else commit a (increaseUserQuota .done a userId consumed)
  | .subscription f =>
    if f.preConsumed ≤ 0 then a
    else refundWithRetry (refundSubscriptionPreConsume .done .done · f.requestId) 3 a

def Funding.reserve (w : Write) (a : Accounts) (delta : Int) :
    Funding → Except QuotaError (Funding × Accounts)
  | .wallet userId consumed =>
    match decreaseUserQuota w a userId delta with
    | .error e => .error e
    | .ok a' => .ok (.wallet userId (consumed + delta), a')
  | .subscription f =>
    match postConsumeUserSubscriptionDelta w a f.subscriptionId delta with
    | .error e => .error e
    | .ok a' => .ok (.subscription f, a')

def Funding.rollbackReserve (a : Accounts) (delta : Int) : Funding → Funding × Accounts
  | .wallet userId consumed =>
    match increaseUserQuota .done a userId delta with
    | .error _ => (.wallet userId consumed, a)
    | .ok a' => (.wallet userId (consumed - delta), a')
  | .subscription f =>
    (.subscription f, commit a (postConsumeUserSubscriptionDelta .done a f.subscriptionId (-delta)))

inductive TokenError where
  | negativeQuota
  | lookupFailed
  | notEnough (remain need : Int)
  | quota (e : QuotaError)

structure TokenOutcome where
  lookup : Option Int
  write : Write

def preConsumeTokenQuota (o : TokenOutcome) (a : Accounts) (info : RelayInfo) (quota : Int) :
    Except TokenError Accounts :=
  if quota < 0 then .error .negativeQuota
  else if info.isPlayground then .ok a
  else match o.lookup with
    | none => .error .lookupFailed
    | some remain =>
      if info.tokenUnlimited = false ∧ remain < quota then .error (.notEnough remain quota)
      else match decreaseTokenQuota o.write a info.tokenId quota with
        | .error e => .error (.quota e)
        | .ok a' => .ok a'

def returnTokenQuota (isPlayground : Bool) (tokenId : Nat) (tokenConsumed : Int) (a : Accounts) :
    Accounts :=
  if 0 < tokenConsumed ∧ isPlayground = false then
    commit a (increaseTokenQuota .done a tokenId tokenConsumed)
  else a

def adjustTokenQuota (info : RelayInfo) (w : Write) (a : Accounts) (quota : Int) :
    Except QuotaError Accounts :=
  if info.isPlayground then .ok a
  else if 0 < quota then decreaseTokenQuota w a info.tokenId quota
  else increaseTokenQuota w a info.tokenId (-quota)

namespace BillingSession

section

variable (s : BillingSession)

def syncRelayInfo : BillingSession :=
  let info := { s.relayInfo with
    finalPreConsumedQuota := s.preConsumedQuota, billingSource := s.funding.source }
  { s with relayInfo :=
      match s.funding with
      | .subscription f => { info with
          subscriptionId := f.subscriptionId
          subscriptionPreConsumed := f.preConsumed + s.extraReserved
          subscriptionPostDelta := 0 }
      | .wallet _ _ => { info with subscriptionId := 0, subscriptionPreConsumed := 0 } }

variable (s : BillingSession)

@[simp] theorem syncRelayInfo_tokenId :
    s.syncRelayInfo.relayInfo.tokenId = s.relayInfo.tokenId := by
  cases hf : s.funding <;> simp [syncRelayInfo, hf]

@[simp] theorem syncRelayInfo_isPlayground :
    s.syncRelayInfo.relayInfo.isPlayground = s.relayInfo.isPlayground := by
  cases hf : s.funding <;> simp [syncRelayInfo, hf]

theorem syncRelayInfo_subscriptionId {f : SubscriptionFunding} (hf : s.funding = .subscription f) :
    s.syncRelayInfo.relayInfo.subscriptionId = f.subscriptionId := by
  simp [syncRelayInfo, hf]

def shouldTrust (trustQuota tokenQuota : Int) : Bool :=
  !s.relayInfo.forcePreConsume && 0 < trustQuota &&
    (s.relayInfo.tokenUnlimited || trustQuota < tokenQuota) &&
    match s.funding with
    | .wallet _ _ => trustQuota < s.relayInfo.userQuota
    | .subscription _ => false

structure Outcome where
  zone : Int
  now : Int
  trustQuota : Int
  tokenQuota : Int
  token : TokenOutcome
  funding : Write

inductive PreConsumeFailure where
  | token (e : TokenError)
  | funding (e : FundingError)

def effectiveQuota (o : Outcome) (quota : Int) : Int :=
  if s.shouldTrust o.trustQuota o.tokenQuota then 0 else quota

def preConsumeToken (o : Outcome) (a : Accounts) (effective : Int) :
    Except TokenError (Int × Accounts) :=
  if 0 < effective then
    match preConsumeTokenQuota o.token a s.relayInfo effective with
    | .error e => .error e
    | .ok a' => .ok (effective, a')
  else .ok (s.tokenConsumed, a)

def preConsume (o : Outcome) (a : Accounts) (quota : Int) :
    Except PreConsumeFailure BillingSession × Accounts :=
  let effective := s.effectiveQuota o quota
  match s.preConsumeToken o a effective with
  | .error e => (.error (.token e), a)
  | .ok (tokenConsumed, a₁) =>
    match s.funding.preConsume o.zone o.now o.funding a₁ effective with
    | .error e =>
      (.error (.funding e), returnTokenQuota s.relayInfo.isPlayground s.relayInfo.tokenId
        tokenConsumed a₁)
    | .ok (funding, a₂) =>
      (.ok { s with
        trusted := s.shouldTrust o.trustQuota o.tokenQuota, tokenConsumed := tokenConsumed
        funding := funding, preConsumedQuota := effective }.syncRelayInfo, a₂)

def reserveToken (o : TokenOutcome) (a : Accounts) (delta : Int) : Except TokenError Accounts :=
  if delta ≤ 0 ∨ s.relayInfo.isPlayground = true then .ok a
  else preConsumeTokenQuota o a s.relayInfo delta

def reserve (w : Write) (o : TokenOutcome) (a : Accounts) (target : Int) :
    BillingSession × Accounts :=
  if s.settled ∨ s.refunded ∨ s.trusted ∨ target ≤ s.preConsumedQuota then (s, a)
  else
    let delta := target - s.preConsumedQuota
    match s.funding.reserve w a delta with
    | .error _ => (s, a)
    | .ok (funding, a₁) =>
      match s.reserveToken o a₁ delta with
      | .error _ =>
        let (funding, a₂) := funding.rollbackReserve a₁ delta
        ({ s with funding }, a₂)
      | .ok a₂ =>
        ({ s with
          funding, preConsumedQuota := s.preConsumedQuota + delta
          tokenConsumed := s.tokenConsumed + delta
          extraReserved := s.extraReserved + delta }.syncRelayInfo, a₂)

/-- `Settle`. A token adjustment that fails is only reported. -/
def settle (fundingWrite tokenWrite : Write) (a : Accounts) (actual : Int) :
    Except QuotaError Unit × BillingSession × Accounts :=
  if s.settled then (.ok (), s, a)
  else
    let delta := actual - s.preConsumedQuota
    if delta = 0 then (.ok (), { s with settled := true }, a)
    else
      let funded : Except QuotaError Accounts :=
        if s.fundingSettled then .ok a else s.funding.settle fundingWrite a delta
      match funded with
      | .error e => (.error e, s, a)
      | .ok a₁ =>
        let postDelta := match s.funding with
          | .subscription _ => s.relayInfo.subscriptionPostDelta + delta
          | .wallet _ _ => s.relayInfo.subscriptionPostDelta
        let closed := { s with
          fundingSettled := true, settled := true
          relayInfo := { s.relayInfo with subscriptionPostDelta := postDelta } }
        match adjustTokenQuota s.relayInfo tokenWrite a₁ delta with
        | .error e => (.error e, closed, a₁)
        | .ok a₂ => (.ok (), closed, a₂)

def needsRefund : Bool :=
  if s.settled || s.refunded || s.fundingSettled then false
  else if 0 < s.tokenConsumed then true
  else match s.funding with
    | .subscription f => 0 < f.preConsumed
    | .wallet _ _ => false

structure RefundJob where
  tokenId : Nat
  isPlayground : Bool
  tokenConsumed : Int
  extraReserved : Int
  subscriptionId : Nat
  funding : Funding

def refundJob : RefundJob :=
  { tokenId := s.relayInfo.tokenId, isPlayground := s.relayInfo.isPlayground
    tokenConsumed := s.tokenConsumed, extraReserved := s.extraReserved
    subscriptionId := s.relayInfo.subscriptionId, funding := s.funding }

def refund : Option RefundJob × BillingSession :=
  if s.settled ∨ s.refunded ∨ s.needsRefund = false then (none, s)
  else (some s.refundJob, { s with refunded := true })

end

def RefundJob.returnFunding (j : RefundJob) (a : Accounts) : Accounts :=
  let a := j.funding.refund a
  if 0 < j.extraReserved ∧ j.funding.source = .subscription ∧ 0 < j.subscriptionId then
    commit a (postConsumeUserSubscriptionDelta .done a j.subscriptionId (-j.extraReserved))
  else a

def RefundJob.returnToken (j : RefundJob) (a : Accounts) : Accounts :=
  returnTokenQuota j.isPlayground j.tokenId j.tokenConsumed a

def RefundJob.run (j : RefundJob) (a : Accounts) : Accounts := j.returnToken (j.returnFunding a)

end BillingSession

end ZModel.Billing
