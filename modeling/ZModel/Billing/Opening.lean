import ZModel.Billing.Invariant

/-!
# Opening a billing session

`NewBillingSession` and `PreConsumeBilling`: the preference of the user decides which funding source
is tried first. Every session they return is open.
-/

namespace ZModel.Billing

open Lib Store Subscription BillingSession

variable {a a' : Accounts} {s : BillingSession} {clamped : Bool} {quota : Int} {o : Outcome}

inductive ErrorCode where
  | modelPriceError
  | insufficientUserQuota
  | preConsumeTokenQuotaFailed
  | queryDataError
  | updateDataError
  deriving DecidableEq

inductive SessionError where
  | quotaClamped
  | negativePreConsume (quota : Int)
  | queryFailed
  | quotaEmpty (quota : Int)
  | quotaShort (quota need : Int)
  | token (e : TokenError)
  | subscriptionUnavailable (e : PreConsumeError)
  | fundingFailed (e : FundingError)

def SessionError.code : SessionError → ErrorCode
  | .quotaClamped | .negativePreConsume _ => .modelPriceError
  | .queryFailed => .queryDataError
  | .quotaEmpty _ | .quotaShort _ _ | .subscriptionUnavailable _ => .insufficientUserQuota
  | .token _ => .preConsumeTokenQuotaFailed
  | .fundingFailed _ => .updateDataError

/-- The error of a failed pre-consume. The source recognises an unavailable subscription by the
texts of two errors. -/
def SessionError.ofFailure : PreConsumeFailure → SessionError
  | .token e => .token e
  | .funding (.preConsume .noActiveSubscription) => .subscriptionUnavailable .noActiveSubscription
  | .funding (.preConsume (.insufficient need)) => .subscriptionUnavailable (.insufficient need)
  | .funding e => .fundingFailed e

structure OpenEnv where
  zone : Int := 0
  now : Int
  trustQuota : Int
  tokenQuota : Int
  userQuota : Option Int
  walletToken : TokenOutcome := ⟨some tokenQuota, .done⟩
  walletWrite : Write := .done
  subscriptionToken : TokenOutcome := ⟨some tokenQuota, .done⟩
  subscriptionWrite : Write := .done
  activeQuery : Write := .done
  overflowQuery : Write := .done

def attempt : Except PreConsumeFailure BillingSession × Accounts →
    Except SessionError BillingSession × Accounts
  | (.ok s, a) => (.ok s, a)
  | (.error e, a) => (.error (.ofFailure e), a)

def tryWallet (e : OpenEnv) (a : Accounts) (info : RelayInfo) (quota : Int) :
    Except SessionError BillingSession × Accounts :=
  match e.userQuota with
  | none => (.error .queryFailed, a)
  | some userQuota =>
    if userQuota ≤ 0 then (.error (.quotaEmpty userQuota), a)
    else if userQuota - quota < 0 then (.error (.quotaShort userQuota quota), a)
    else
      let session : BillingSession :=
        { relayInfo := { info with userQuota }, funding := .wallet info.userId 0 }
      attempt (session.preConsume
        ⟨e.zone, e.now, e.trustQuota, e.tokenQuota, e.walletToken, e.walletWrite⟩ a quota)

def trySubscription (e : OpenEnv) (a : Accounts) (info : RelayInfo) (quota : Int) :
    Except SessionError BillingSession × Accounts :=
  let subConsume := if quota ≤ 0 then 1 else quota
  let session : BillingSession :=
    { relayInfo := info
      funding := .subscription
        { requestId := info.requestId, userId := info.userId, amount := subConsume } }
  attempt (session.preConsume
    ⟨e.zone, e.now, e.trustQuota, e.tokenQuota, e.subscriptionToken, e.subscriptionWrite⟩ a
    subConsume)

/-- The billing preferences; an unknown text means the subscription first. -/
inductive BillingPreference where
  | subscriptionFirst
  | walletFirst
  | subscriptionOnly
  | walletOnly

def normalizeBillingPreference (preference : String) : BillingPreference :=
  match trimSpace preference with
  | "wallet_first" => .walletFirst
  | "subscription_only" => .subscriptionOnly
  | "wallet_only" => .walletOnly
  | _ => .subscriptionFirst

def hasActiveUserSubscription (w : Write) (a : Accounts) (userId : Nat) (now : Int) : Option Bool :=
  match w with
  | .fails => none
  | .done =>
    if userId = 0 then none
    else some ((a.subscriptions.rows.filter (isActiveFor userId now)).length > 0)

def activeSubscriptionsAllowWalletOverflow (w : Write) (a : Accounts) (userId : Nat) (now : Int) :
    Option Bool :=
  match w with
  | .fails => none
  | .done =>
    if userId = 0 then none
    else some ((a.subscriptions.rows.filter fun s =>
      isActiveFor userId now s && !s.allowWalletOverflow).length = 0)

section

variable (e : OpenEnv) (a : Accounts) (info : RelayInfo)

def subscriptionFirst (quota : Int) : Except SessionError BillingSession × Accounts :=
  match hasActiveUserSubscription e.activeQuery a info.userId e.now with
  | none => (.error .queryFailed, a)
  | some false => tryWallet e a info quota
  | some true =>
    match trySubscription e a info quota with
    | (.ok s, a₁) => (.ok s, a₁)
    | (.error err, a₁) =>
      if err.code = .insufficientUserQuota then
        match activeSubscriptionsAllowWalletOverflow e.overflowQuery a₁ info.userId e.now with
        | none => (.error .queryFailed, a₁)
        | some true => tryWallet e a₁ info quota
        | some false => (.error err, a₁)
      else (.error err, a₁)

def newBillingSession (quota : Int) : Except SessionError BillingSession × Accounts :=
  match normalizeBillingPreference info.billingPreference with
  | .subscriptionOnly => trySubscription e a info quota
  | .walletOnly => tryWallet e a info quota
  | .walletFirst =>
    match tryWallet e a info quota with
    | (.ok s, a₁) => (.ok s, a₁)
    | (.error err, a₁) =>
      if err.code = .insufficientUserQuota then trySubscription e a₁ info quota
      else (.error err, a₁)
  | .subscriptionFirst => subscriptionFirst e a info quota

def preConsumeBilling (clamped : Bool)
    (quota : Int) : Except SessionError BillingSession × Accounts :=
  if clamped then (.error .quotaClamped, a)
  else if quota < 0 then (.error (.negativePreConsume quota), a)
  else newBillingSession e a info quota

end

/-! ## Every session returned is open -/

structure Unopened (s : BillingSession) : Prop where
  tokenConsumed : s.tokenConsumed = 0
  extraReserved : s.extraReserved = 0
  fundingSettled : s.fundingSettled = false
  settled : s.settled = false
  refunded : s.refunded = false

theorem preConsumeToken_spec {effective consumed : Int} (hnew : Unopened s)
    (hnonneg : 0 ≤ effective) (h : s.preConsumeToken o a effective = .ok (consumed, a')) :
    consumed = effective ∧
      TakesFrom (.token s.relayInfo.tokenId) (s.relayInfo.tokenShare effective) a a' ∧
      ∃ tokens, a' = { a with tokens } := by
  unfold preConsumeToken at h
  split at h
  · split at h
    · cases h
    next a₁ htoken =>
      cases h
      obtain ⟨htakes, htokens⟩ := preConsumeTokenQuota_spec htoken
      exact ⟨rfl, htakes, htokens⟩
  cases h
  have hzero : effective = 0 := by omega
  rw [hzero, RelayInfo.tokenShare_zero]
  exact ⟨hnew.tokenConsumed, takesFrom_zero _ a, a.tokens, rfl⟩

def Funding.Ready (zone now : Int) (a : Accounts) (amount : Int) : Funding → Prop
  | .wallet _ consumed => consumed = 0
  | .subscription g => g.amount = amount ∧ a.preConsumeRecords.find? g.requestId = none ∧
      NoResetDue zone now a g.userId

theorem preConsumeFunding_spec {f f' : Funding} {zone now : Int} {w : Write} {amount : Int}
    (hnonneg : 0 ≤ amount) (hready : f.Ready zone now a amount)
    (h : f.preConsume zone now w a amount = .ok (f', a')) :
    TakesFrom f'.account amount a a' ∧ f'.Holds a' amount 0 := by
  cases f with
  | wallet userId consumed =>
    simp only [Funding.preConsume] at h
    split at h
    · cases h
      have hzero : amount = 0 := by omega
      rw [hzero]
      exact ⟨takesFrom_zero _ a, hready⟩
    split at h
    · cases h
    next a₁ hdecrease =>
      cases h
      exact ⟨decreaseUserQuota_spec hdecrease, rfl⟩
  | subscription g =>
    obtain ⟨hamount, hfresh, hdue⟩ := hready
    simp only [Funding.preConsume] at h
    split at h
    · cases h
    rename_i result a₁ hpre
    cases h
    obtain ⟨hblank, hpos, hresult, htakes, hwithin, hrecord⟩ := preConsume_fresh hfresh hdue hpre
    rw [hamount] at htakes hpos hresult hrecord
    refine ⟨htakes, ?_, ?_, Int.le_refl 0, hwithin, hblank, _, hrecord, rfl, hresult.symm, rfl⟩
    · show result.preConsumed + 0 = amount
      omega
    · show 0 < result.preConsumed
      omega

theorem effectiveQuota_spec (hquota : 0 ≤ quota) (hready : s.funding.Ready o.zone o.now a quota) :
    0 ≤ s.effectiveQuota o quota ∧ s.funding.Ready o.zone o.now a (s.effectiveQuota o quota) ∧
      (s.shouldTrust o.trustQuota o.tokenQuota = true → s.effectiveQuota o quota = 0) := by
  unfold effectiveQuota
  split
  next htrust =>
    refine ⟨Int.le_refl 0, ?_, fun _ => rfl⟩
    cases hf : s.funding with
    | wallet userId consumed => rw [hf] at hready; exact hready
    | subscription g => simp [shouldTrust, hf] at htrust
  next htrust =>
    exact ⟨hquota, hready, fun h => absurd h htrust⟩

theorem preConsume_open {s' : BillingSession} (hnew : Unopened s) (hquota : 0 ≤ quota)
    (hready : s.funding.Ready o.zone o.now a quota) (h : s.preConsume o a quota = (.ok s', a')) :
    Open a s' a' := by
  obtain ⟨hnonneg, hready, htrust⟩ := effectiveQuota_spec hquota hready
  unfold preConsume at h
  simp only at h
  split at h
  · cases h
  rename_i consumed a₁ htoken
  obtain ⟨rfl, htakes, tokens, rfl⟩ := preConsumeToken_spec hnew hnonneg htoken
  split at h
  · cases h
  rename_i f a₂ hfunding
  have hready' : s.funding.Ready o.zone o.now { a with tokens }
      (s.effectiveQuota o quota) := by
    cases hf : s.funding with
    | wallet => rw [hf] at hready; exact hready
    | subscription => rw [hf] at hready; exact hready
  obtain ⟨htakes', hholds⟩ := preConsumeFunding_spec hnonneg hready' hfunding
  have hdrawn := ((drawn_refl f.account _ a).second htakes).first htakes'
  rw [Int.zero_add, Int.zero_add] at hdrawn
  cases h
  exact
    { settled := hnew.settled
      refunded := hnew.refunded
      fundingSettled := hnew.fundingSettled
      tokenConsumed := rfl
      nonneg := hnonneg
      trusted := htrust
      holds := by rw [← hnew.extraReserved] at hholds; exact hholds
      subscriptionId := fun g hg => syncRelayInfo_subscriptionId _ hg
      took := Took.congr (s := { s with funding := f }) hdrawn rfl (syncRelayInfo_tokenId _)
        (syncRelayInfo_isPlayground _) }

structure Unpaid (a a' : Accounts) : Prop where
  balances : balance a' = balance a
  tables : ∃ tokens, a' = { a with tokens }

theorem Unpaid.refl (a : Accounts) : Unpaid a a := ⟨rfl, a.tokens, rfl⟩

theorem Unpaid.trans {b c : Accounts} (h : Unpaid a b) (h' : Unpaid b c) : Unpaid a c := by
  obtain ⟨hab, tokens, rfl⟩ := h
  obtain ⟨hbc, tokens', rfl⟩ := h'
  exact ⟨hbc.trans hab, tokens', rfl⟩

theorem preConsume_failed {e : PreConsumeFailure} (hnew : Unopened s) (hquota : 0 ≤ quota)
    (h : s.preConsume o a quota = (.error e, a')) : Unpaid a a' := by
  have hnonneg : 0 ≤ s.effectiveQuota o quota := by
    unfold effectiveQuota
    split <;> omega
  unfold preConsume at h
  simp only at h
  split at h
  · cases h
    exact .refl a
  rename_i consumed a₁ htoken
  obtain ⟨rfl, htakes, tokens, rfl⟩ := preConsumeToken_spec hnew hnonneg htoken
  split at h
  · cases h
    have hback := returnTokenQuota_spec s hnonneg { a with tokens }
    refine ⟨?_, returnTokenQuota_tables _ _ _ _⟩
    funext acc
    rw [hback acc, htakes acc, Option.map_map]
    cases balance a acc with
    | none => rfl
    | some b =>
      simp only [Option.map_some, Function.comp, Option.some.injEq]
      split <;> omega
  · cases h

theorem Open.rebase {a₀ a₁ : Accounts} (h : Open a₁ s a) (hbalance : balance a₁ = balance a₀) :
    Open a₀ s a := by
  refine { h with took := fun acc => ?_ }
  rw [← hbalance]
  exact h.took acc

theorem attempt_ok {x : Except PreConsumeFailure BillingSession × Accounts}
    (h : attempt x = (.ok s, a)) : x = (.ok s, a) := by
  obtain ⟨result, a₁⟩ := x
  cases result with
  | error e => cases h
  | ok s' => cases h; rfl

theorem attempt_error {x : Except PreConsumeFailure BillingSession × Accounts} {e : SessionError}
    (h : attempt x = (.error e, a)) : ∃ f, x = (.error f, a) ∧ e = .ofFailure f := by
  obtain ⟨result, a₁⟩ := x
  cases result with
  | error f => cases h; exact ⟨f, rfl, rfl⟩
  | ok s => cases h

theorem preConsume_wallet_code {consumed : Int} {userId : Nat} {f : PreConsumeFailure}
    (hf : s.funding = .wallet userId consumed) (h : s.preConsume o a quota = (.error f, a')) :
    (SessionError.ofFailure f).code ≠ .insufficientUserQuota := by
  unfold preConsume at h
  simp only [hf, Funding.preConsume] at h
  split at h
  · cases h
    exact nofun
  split at h
  next hfunding =>
    cases h
    split at hfunding
    · cases hfunding
    split at hfunding
    · cases hfunding
      exact nofun
    · cases hfunding
  · cases h

section Opening

variable {e : OpenEnv} {a a' : Accounts} {info : RelayInfo} {quota : Int} {s : BillingSession}
  {err : SessionError}

theorem tryWallet_open (hquota : 0 ≤ quota) (h : tryWallet e a info quota = (.ok s, a')) :
    Open a s a' := by
  unfold tryWallet at h
  split at h
  · cases h
  split at h
  · cases h
  split at h
  · cases h
  refine preConsume_open ?_ hquota ?_ (attempt_ok h)
  · exact ⟨rfl, rfl, rfl, rfl, rfl⟩
  · rfl

theorem tryWallet_failed (hquota : 0 ≤ quota) (h : tryWallet e a info quota = (.error err, a')) :
    Unpaid a a' ∧ (err.code = .insufficientUserQuota → a' = a) := by
  unfold tryWallet at h
  split at h
  · cases h
    exact ⟨.refl a, fun _ => rfl⟩
  split at h
  · cases h
    exact ⟨.refl a, fun _ => rfl⟩
  split at h
  · cases h
    exact ⟨.refl a, fun _ => rfl⟩
  obtain ⟨f, hf, rfl⟩ := attempt_error h
  refine ⟨preConsume_failed ?_ hquota hf, fun hcode => ?_⟩
  · exact ⟨rfl, rfl, rfl, rfl, rfl⟩
  · exact absurd hcode (preConsume_wallet_code rfl hf)

theorem trySubscription_open (hfresh : a.preConsumeRecords.find? info.requestId = none)
    (hdue : NoResetDue e.zone e.now a info.userId)
    (h : trySubscription e a info quota = (.ok s, a')) : Open a s a' := by
  have hpos : 0 ≤ if quota ≤ 0 then 1 else quota := by split <;> omega
  refine preConsume_open ?_ hpos ?_ (attempt_ok h)
  · exact ⟨rfl, rfl, rfl, rfl, rfl⟩
  · exact ⟨rfl, hfresh, hdue⟩

theorem trySubscription_failed (h : trySubscription e a info quota = (.error err, a')) :
    Unpaid a a' := by
  have hpos : 0 ≤ if quota ≤ 0 then 1 else quota := by split <;> omega
  obtain ⟨f, hf, -⟩ := attempt_error h
  refine preConsume_failed ?_ hpos hf
  exact ⟨rfl, rfl, rfl, rfl, rfl⟩

theorem newBillingSession_cases (hquota : 0 ≤ quota)
    (h : newBillingSession e a info quota = (.ok s, a')) :
    (∃ a₁, balance a₁ = balance a ∧ tryWallet e a₁ info quota = (.ok s, a')) ∨
      trySubscription e a info quota = (.ok s, a') := by
  unfold newBillingSession at h
  split at h
  · exact .inr h
  · exact .inl ⟨a, rfl, h⟩
  · split at h
    next hwallet =>
      cases h
      exact .inl ⟨a, rfl, hwallet⟩
    next hwallet =>
      split at h
      next hcode =>
        -- The wallet was refused before anything was taken.
        obtain rfl := (tryWallet_failed hquota hwallet).2 hcode
        exact .inr h
      · cases h
  unfold subscriptionFirst at h
  split at h
  · cases h
  · exact .inl ⟨a, rfl, h⟩
  split at h
  next hsub =>
    cases h
    exact .inr hsub
  rename_i hsub
  split at h
  · split at h
    · cases h
    · exact .inl ⟨_, (trySubscription_failed hsub).balances, h⟩
    · cases h
  · cases h

theorem preConsumeBilling_cases (h : preConsumeBilling e a info clamped quota = (.ok s, a')) :
    0 ≤ quota ∧ newBillingSession e a info quota = (.ok s, a') := by
  unfold preConsumeBilling at h
  split at h
  · cases h
  split at h
  · cases h
  next hneg =>
    exact ⟨Int.not_lt.mp hneg, h⟩

theorem preConsumeBilling_open (hfresh : a.preConsumeRecords.find? info.requestId = none)
    (hdue : NoResetDue e.zone e.now a info.userId)
    (h : preConsumeBilling e a info clamped quota = (.ok s, a')) : Open a s a' := by
  obtain ⟨hquota, h⟩ := preConsumeBilling_cases h
  obtain ⟨a₁, hbalance, hwallet⟩ | hsub := newBillingSession_cases hquota h
  · exact (tryWallet_open hquota hwallet).rebase hbalance
  · exact trySubscription_open hfresh hdue hsub

theorem newBillingSession_failed (hquota : 0 ≤ quota)
    (h : newBillingSession e a info quota = (.error err, a')) : Unpaid a a' := by
  unfold newBillingSession at h
  split at h
  · exact trySubscription_failed h
  · exact (tryWallet_failed hquota h).1
  · split at h
    · cases h
    next hwallet =>
      have hunpaid := (tryWallet_failed hquota hwallet).1
      split at h
      · exact hunpaid.trans (trySubscription_failed h)
      · cases h
        exact hunpaid
  unfold subscriptionFirst at h
  split at h
  · cases h
    exact .refl a
  · exact (tryWallet_failed hquota h).1
  split at h
  · cases h
  rename_i hsub
  have hunpaid := trySubscription_failed hsub
  split at h
  · split at h
    · cases h
      exact hunpaid
    · exact hunpaid.trans (tryWallet_failed hquota h).1
    · cases h
      exact hunpaid
  · cases h
    exact hunpaid

theorem preConsumeBilling_failed (h : preConsumeBilling e a info clamped quota = (.error err, a')) :
    Unpaid a a' := by
  unfold preConsumeBilling at h
  split at h
  · cases h
    exact .refl a
  split at h
  · cases h
    exact .refl a
  next hneg =>
    exact newBillingSession_failed (Int.not_lt.mp hneg) h

end Opening

end ZModel.Billing
