import ZModel.Billing.Opening

/-!
# Charging a request

`PostConsumeQuota` of `service/quota.go` and `SettleBilling` of `service/billing.go`. A request
without a session, because its model is free, pays the difference to what it has paid already.
-/

namespace ZModel.Billing

open Lib Store Subscription BillingSession

variable {a a' a₀ : Accounts} {s : BillingSession} {quota δ : Int} {w : Write}

inductive Request where
  | plain (info : RelayInfo)
  | billed (s : BillingSession)

namespace Request

def info : Request → RelayInfo
  | .plain info => info
  | .billed s => s.relayInfo

def addPostDelta (delta : Int) : Request → Request
  | .plain info => .plain { info with
      subscriptionPostDelta := info.subscriptionPostDelta + delta }
  | .billed s => .billed { s with relayInfo := { s.relayInfo with
      subscriptionPostDelta := s.relayInfo.subscriptionPostDelta + delta } }

end Request

inductive ConsumeError where
  | subscriptionIdMissing
  | quota (e : QuotaError)

def consumeFunding (info : RelayInfo) (w : Write) (a : Accounts) (quota : Int) :
    Except ConsumeError Accounts :=
  match info.billingSource with
  | .subscription =>
    if info.subscriptionId = 0 then .error .subscriptionIdMissing
    else if quota = 0 then .ok a
    else (postConsumeUserSubscriptionDelta w a info.subscriptionId quota).mapError .quota
  | .wallet =>
    if 0 < quota then (decreaseUserQuota w a info.userId quota).mapError .quota
    else (increaseUserQuota w a info.userId (-quota)).mapError .quota

def Request.consumed (r : Request) (quota : Int) : Request :=
  match r.info.billingSource with
  | .subscription => r.addPostDelta quota
  | .wallet => r

def postConsumeQuota (fundingWrite tokenWrite : Write) (a : Accounts) (r : Request) (quota : Int) :
    Except ConsumeError Unit × Request × Accounts :=
  match consumeFunding r.info fundingWrite a quota with
  | .error e => (.error e, r, a)
  | .ok a₁ =>
    match adjustTokenQuota r.info tokenWrite a₁ quota with
    | .error e => (.error (.quota e), r.consumed quota, a₁)
    | .ok a₂ => (.ok (), r.consumed quota, a₂)

def settleBilling (fundingWrite tokenWrite : Write) (a : Accounts) (r : Request) (actual : Int) :
    Except ConsumeError Unit × Request × Accounts :=
  match r with
  | .billed s =>
    let (result, s', a') := s.settle fundingWrite tokenWrite a actual
    (result.mapError .quota, .billed s', a')
  | .plain info =>
    let delta := actual - info.finalPreConsumedQuota
    if delta = 0 then (.ok (), r, a) else postConsumeQuota fundingWrite tokenWrite a r delta

def RelayInfo.account (info : RelayInfo) : Account :=
  match info.billingSource with
  | .wallet => .wallet info.userId
  | .subscription => .subscription info.subscriptionId

def Request.Linked : Request → Prop
  | .plain info => info.billingSource = .wallet
  | .billed s => s.funding.account = s.relayInfo.account

theorem syncRelayInfo_linked (s : BillingSession)
    (hwallet : ∀ userId consumed, s.funding = .wallet userId consumed →
      userId = s.relayInfo.userId) : (Request.billed s.syncRelayInfo).Linked := by
  unfold Request.Linked syncRelayInfo RelayInfo.account
  cases hf : s.funding with
  | wallet userId consumed => simp [Funding.source, hwallet userId consumed hf]
  | subscription f => simp [Funding.source]

theorem preConsume_linked {s' : BillingSession} {o : Outcome}
    (hwallet : ∀ userId consumed, s.funding = .wallet userId consumed →
      userId = s.relayInfo.userId) (h :
    s.preConsume o a quota = (.ok s', a')) : (Request.billed s').Linked := by
  unfold preConsume at h
  simp only at h
  split at h
  · cases h
  split at h
  · cases h
  rename_i f a₂ hfunding
  cases h
  refine syncRelayInfo_linked _ fun userId consumed hf => ?_
  have hf : f = .wallet userId consumed := hf
  subst hf
  -- A wallet remains the wallet of its user.
  cases hs : s.funding with
  | wallet u c =>
    rw [hs] at hfunding
    simp only [Funding.preConsume] at hfunding
    split at hfunding
    · cases hfunding
      exact hwallet _ _ hs
    split at hfunding
    · cases hfunding
    · cases hfunding
      exact hwallet _ _ hs
  | subscription g =>
    rw [hs] at hfunding
    simp only [Funding.preConsume] at hfunding
    split at hfunding <;> cases hfunding

variable {info : RelayInfo}

theorem preConsumeBilling_linked {e : OpenEnv} {clamped : Bool}
    (h : preConsumeBilling e a info clamped quota = (.ok s, a')) : (Request.billed s).Linked := by
  obtain ⟨hquota, h⟩ := preConsumeBilling_cases h
  obtain ⟨a₁, -, hwallet⟩ | hsub := newBillingSession_cases hquota h
  · unfold tryWallet at hwallet
    split at hwallet
    · cases hwallet
    split at hwallet
    · cases hwallet
    split at hwallet
    · cases hwallet
    refine preConsume_linked (fun userId consumed hf => ?_) (attempt_ok hwallet)
    cases hf
    rfl
  · refine preConsume_linked (fun userId consumed hf => ?_) (attempt_ok hsub)
    cases hf

namespace Request

variable (r : Request) (δ : Int)

@[simp] theorem addPostDelta_account : (r.addPostDelta δ).info.account = r.info.account := by
  cases r <;> rfl

@[simp] theorem addPostDelta_tokenId : (r.addPostDelta δ).info.tokenId = r.info.tokenId := by
  cases r <;> rfl

@[simp] theorem addPostDelta_tokenShare (n : Int) :
    (r.addPostDelta δ).info.tokenShare n = r.info.tokenShare n := by
  cases r <;> rfl

@[simp] theorem addPostDelta_finalPreConsumedQuota :
    (r.addPostDelta δ).info.finalPreConsumedQuota = r.info.finalPreConsumedQuota := by
  cases r <;> rfl

@[simp] theorem addPostDelta_add (δ' : Int) :
    (r.addPostDelta δ).addPostDelta δ' = r.addPostDelta (δ + δ') := by
  cases r <;> simp [addPostDelta, Int.add_assoc]

@[simp] theorem addPostDelta_zero : r.addPostDelta 0 = r := by
  cases r <;> simp [addPostDelta]

theorem consumed_eq : ∃ δ', r.consumed δ = r.addPostDelta δ' := by
  unfold consumed
  split
  · exact ⟨δ, rfl⟩
  · exact ⟨0, (r.addPostDelta_zero).symm⟩

end Request

def AboveZero (a : Accounts) (δ : Int) : Account → Prop
  | .subscription id => ∀ row, a.subscriptions.find? id = some row → 0 ≤ row.amountUsed + δ
  | _ => True

theorem mapError_ok {ε ε' α : Type} {f : ε → ε'} {x : Except ε α} {y : α} :
    x.mapError f = .ok y ↔ x = .ok y := by
  cases x <;> simp [Except.mapError]

theorem consumeFunding_takes (hfloor : AboveZero a quota info.account)
    (h : consumeFunding info w a quota = .ok a') : TakesFrom info.account quota a a' := by
  unfold consumeFunding at h
  unfold RelayInfo.account at hfloor ⊢
  split at h
  next hsource =>
    rw [hsource] at hfloor ⊢
    split at h
    · cases h
    split at h
    next hzero =>
      cases h
      rw [hzero]
      exact takesFrom_zero _ a
    · exact postConsume_takes hfloor (mapError_ok.mp h)
  rename_i hsource
  rw [hsource]
  split at h
  · exact decreaseUserQuota_spec (mapError_ok.mp h)
  · simpa using increaseUserQuota_spec (mapError_ok.mp h)

theorem postConsumeQuota_cases {fw tw : Write} {r r' : Request}
    {result : Except ConsumeError Unit} (hfloor : AboveZero a quota r.info.account)
    (h : postConsumeQuota fw tw a r quota = (result, r', a')) :
    (r' = r ∧ a' = a ∧ ∀ a₁, consumeFunding r.info fw a quota ≠ .ok a₁) ∨
      (r' = r.consumed quota ∧ (∃ a₁, consumeFunding r.info fw a quota = .ok a₁) ∧
        ∃ m, Drawn r.info.account (.token r.info.tokenId) quota m a a' ∧
          (tw = .done → result = .ok () ∧ m = r.info.tokenShare quota)) := by
  unfold postConsumeQuota at h
  split at h
  next e herror =>
    cases h
    exact .inl ⟨rfl, rfl, fun a₁ ha₁ => by rw [herror] at ha₁; cases ha₁⟩
  rename_i a₁ hfunding
  have htaken := (drawn_refl r.info.account (.token r.info.tokenId) a).first
    (consumeFunding_takes hfloor hfunding)
  rw [Int.zero_add] at htaken
  split at h
  next e herror =>
    cases h
    refine .inr ⟨rfl, ⟨_, hfunding⟩, 0, htaken, ?_⟩
    rintro rfl
    obtain ⟨a₂, htoken⟩ := adjustTokenQuota_done r.info a' quota
    rw [herror] at htoken
    cases htoken
  rename_i a₂ htoken
  cases h
  have hdrawn := htaken.second (adjustTokenQuota_spec htoken)
  rw [Int.zero_add] at hdrawn
  exact .inr ⟨rfl, ⟨_, hfunding⟩, _, hdrawn, fun _ => ⟨rfl, rfl⟩⟩

theorem consumeFunding_ok_iff (hne : quota ≠ 0) : (∃ a', consumeFunding info w a quota = .ok a') ↔
      w = .done ∧ HasRoom a quota info.account := by
  unfold consumeFunding RelayInfo.account
  cases hsource : info.billingSource with
  | wallet =>
    dsimp only
    split
    · simp only [mapError_ok, HasRoom, and_true]
      exact writeQuota_ok_iff (by omega) _
    · simp only [mapError_ok, HasRoom, and_true]
      exact writeQuota_ok_iff (by omega) _
  | subscription =>
    dsimp only
    rw [← postConsume_ok_iff hne]
    split
    next hid =>
      simp [hid, postConsumeUserSubscriptionDelta]
    · simp only [mapError_ok]

theorem postConsumeQuota_done {r : Request} (hroom : HasRoom a quota r.info.account)
    (hfloor : AboveZero a quota r.info.account) :
    ∃ a', postConsumeQuota .done .done a r quota = (.ok (), r.consumed quota, a') ∧
      Drawn r.info.account (.token r.info.tokenId) quota (r.info.tokenShare quota) a a' := by
  have hfunding : ∃ a₁, consumeFunding r.info .done a quota = .ok a₁ := by
    by_cases hne : quota = 0
    · unfold RelayInfo.account at hroom
      unfold consumeFunding
      cases hsource : r.info.billingSource with
      | wallet => exact ⟨_, by simp [hne]; rfl⟩
      | subscription =>
        rw [hsource] at hroom
        obtain ⟨row, hrow, -⟩ := hroom
        have hid : r.info.subscriptionId ≠ 0 := by
          rw [← show row.id = r.info.subscriptionId from Table.find?_key hrow]
          exact Nat.ne_of_gt row.id_pos
        exact ⟨a, by simp [hid, hne]⟩
    · exact (consumeFunding_ok_iff hne).mpr ⟨rfl, hroom⟩
  obtain ⟨result, r', a', h⟩ : ∃ result r' a',
      postConsumeQuota .done .done a r quota = (result, r', a') := ⟨_, _, _, rfl⟩
  obtain ⟨a₁, ha₁⟩ := hfunding
  obtain ⟨-, -, hrefused⟩ | ⟨rfl, -, m, hdrawn, hdone⟩ := postConsumeQuota_cases hfloor h
  · exact absurd ha₁ (hrefused a₁)
  · obtain ⟨rfl, rfl⟩ := hdone rfl
    exact ⟨a', h, hdrawn⟩

def Request.preConsumed : Request → Int
  | .plain info => info.finalPreConsumedQuota
  | .billed s => s.preConsumedQuota

def Request.Unsettled : Request → Prop
  | .plain _ => True
  | .billed s => s.settled = false ∧ s.fundingSettled = false

theorem settleFunding_ok_iff {f : Funding} (hne : δ ≠ 0) :
    (∃ a', f.settle w a δ = .ok a') ↔ w = .done ∧ HasRoom a δ f.account := by
  cases f with
  | wallet userId consumed =>
    simp only [Funding.settle, if_neg hne, Funding.account_wallet, HasRoom, and_true]
    split
    · exact writeQuota_ok_iff (by omega) _
    · exact writeQuota_ok_iff (by omega) _
  | subscription g =>
    simp only [Funding.settle, if_neg hne]
    exact postConsume_ok_iff hne

namespace Request

variable (r : Request) (δ : Int)

@[simp] theorem addPostDelta_preConsumed : (r.addPostDelta δ).preConsumed = r.preConsumed := by
  cases r <;> rfl

@[simp] theorem addPostDelta_linked : (r.addPostDelta δ).Linked ↔ r.Linked := by
  cases r <;> rfl

@[simp] theorem addPostDelta_unsettled : (r.addPostDelta δ).Unsettled ↔ r.Unsettled := by
  cases r <;> rfl

end Request

def CanSettle (w : Write) (a : Accounts) (r : Request) (actual : Int) : Prop :=
  actual = r.preConsumed ∨ w = .done ∧ HasRoom a (actual - r.preConsumed) r.info.account

theorem settleBilling_takes {w' : Write} {r r' : Request} {actual : Int}
    {result : Except ConsumeError Unit} (hlinked : r.Linked) (hunsettled : r.Unsettled)
    (hfloor : AboveZero a (actual - r.preConsumed) r.info.account)
    (h : settleBilling w w' a r actual = (result, r', a')) :
    (¬CanSettle w a r actual ∧ a' = a) ∨ (CanSettle w a r actual ∧ ∃ m,
        Drawn r.info.account (.token r.info.tokenId) (actual - r.preConsumed) m a a' ∧
        (w' = .done → result = .ok () ∧ m = r.info.tokenShare (actual - r.preConsumed))) := by
  cases r with
  | plain info =>
    simp only [settleBilling] at h
    split at h
    next hzero =>
      cases h
      refine .inr ⟨.inl (by simp only [Request.preConsumed]; omega), 0, ?_⟩
      simp only [Request.preConsumed, hzero]
      exact ⟨drawn_refl _ _ a, fun _ => by simp⟩
    rename_i hne
    have hcan : CanSettle w a (.plain info) actual ↔
        ∃ a₁, consumeFunding info w a (actual - info.finalPreConsumedQuota) = .ok a₁ := by
      rw [consumeFunding_ok_iff hne]
      exact or_iff_right fun heq => hne (Int.sub_eq_zero.mpr heq)
    rw [hcan]
    obtain ⟨rfl, rfl, hrefused⟩ | ⟨rfl, hfunded, htakes⟩ := postConsumeQuota_cases hfloor h
    · exact .inl ⟨fun ⟨a₁, ha₁⟩ => hrefused a₁ ha₁, rfl⟩
    · exact .inr ⟨hfunded, htakes⟩
  | billed s =>
    obtain ⟨result, s', a₁, hs⟩ : ∃ result s' a₁, s.settle w w' a actual = (result, s', a₁) :=
      ⟨_, _, _, rfl⟩
    simp only [settleBilling, hs] at h
    cases h
    have hlinked : s.funding.account = s.relayInfo.account := hlinked
    have hfloor' : ∀ f row, s.funding = .subscription f →
        a.subscriptions.find? f.subscriptionId = some row →
        0 ≤ row.amountUsed + (actual - s.preConsumedQuota) := by
      intro f row hf hrow
      have hfloor : AboveZero a (actual - s.preConsumedQuota) s.relayInfo.account := hfloor
      rw [← hlinked, hf] at hfloor
      exact hfloor row hrow
    have hcan : CanSettle w a (.billed s) actual ↔ actual = s.preConsumedQuota ∨
        ∃ a₁, s.funding.settle w a (actual - s.preConsumedQuota) = .ok a₁ := by
      by_cases heq : actual = s.preConsumedQuota
      · exact ⟨fun _ => .inl heq, fun _ => .inl heq⟩
      · rw [settleFunding_ok_iff (fun h => heq (Int.sub_eq_zero.mp h)), hlinked]
        exact Iff.rfl
    rw [hcan]
    obtain ⟨rfl, rfl, -, hne, hrefused⟩ | ⟨-, -, -, hfunded, m, hdrawn, hdone⟩ :=
      settle_takes hunsettled.1 hunsettled.2 hfloor' hs
    · refine .inl ⟨?_, rfl⟩
      rintro (heq | ⟨a₁, ha₁⟩)
      · exact hne heq
      · exact hrefused a₁ ha₁
    rw [hlinked] at hdrawn
    refine .inr ⟨hfunded, m, hdrawn, fun hw => ?_⟩
    obtain ⟨rfl, rfl⟩ := hdone hw
    exact ⟨rfl, rfl⟩

theorem postConsumeQuota_account (fw tw : Write) (a : Accounts) (r : Request) (quota : Int) :
    (postConsumeQuota fw tw a r quota).2.1.info.account = r.info.account := by
  obtain ⟨δ, hδ⟩ := r.consumed_eq quota
  unfold postConsumeQuota
  split
  · rfl
  · split <;> rw [hδ, Request.addPostDelta_account]

theorem settle_account (s : BillingSession) (w w' : Write) (a : Accounts) (actual : Int) :
    (s.settle w w' a actual).2.1.relayInfo.account = s.relayInfo.account := by
  unfold settle
  split
  · rfl
  dsimp only
  split
  · rfl
  split
  · rfl
  · split <;> rfl

theorem settleBilling_account (w w' : Write) (a : Accounts) (r : Request) (actual : Int) :
    (settleBilling w w' a r actual).2.1.info.account = r.info.account := by
  cases r with
  | plain info =>
    unfold settleBilling
    dsimp only
    split
    · rfl
    · exact postConsumeQuota_account _ _ _ _ _
  | billed s => exact settle_account s w w' a actual

theorem plain_paid (hbalance : balance a = balance a₀) (hpaid : info.finalPreConsumedQuota = 0) :
    Drawn info.account (.token info.tokenId) info.finalPreConsumedQuota
      (info.tokenShare info.finalPreConsumedQuota) a₀ a := by
  rw [hpaid, RelayInfo.tokenShare_zero]
  intro acc
  rw [hbalance]
  exact drawn_refl _ _ a₀ acc

theorem open_paid (h : Open a₀ s a) (hlinked : (Request.billed s).Linked) :
    (Request.billed s).Unsettled ∧ Drawn s.relayInfo.account (.token s.relayInfo.tokenId)
      s.preConsumedQuota (s.relayInfo.tokenShare s.preConsumedQuota) a₀ a := by
  have htook := h.took
  unfold Took at htook
  rw [hlinked] at htook
  exact ⟨⟨h.settled, h.fundingSettled⟩, htook⟩

inductive Started (e : OpenEnv) (a₀ : Accounts) (info : RelayInfo) : Request → Accounts → Prop where
  | free (hsource : info.billingSource = .wallet) (hpaid : info.finalPreConsumedQuota = 0) :
      Started e a₀ info (.plain info) a₀
  | billed {clamped : Bool} {quota : Int} {s : BillingSession} {a : Accounts}
      (hopened : preConsumeBilling e a₀ info clamped quota = (.ok s, a)) :
      Started e a₀ info (.billed s) a

theorem Started.spec {e : OpenEnv} {r : Request} (h : Started e a₀ info r a)
    (hfresh : a₀.preConsumeRecords.find? info.requestId = none)
    (hdue : NoResetDue e.zone e.now a₀ info.userId) :
    r.Linked ∧ r.Unsettled ∧ Drawn r.info.account (.token r.info.tokenId) r.preConsumed
      (r.info.tokenShare r.preConsumed) a₀ a := by
  cases h with
  | free hsource hpaid => exact ⟨hsource, trivial, plain_paid rfl hpaid⟩
  | billed hopened =>
    have hlinked := preConsumeBilling_linked hopened
    exact ⟨hlinked, open_paid (preConsumeBilling_open hfresh hdue hopened) hlinked⟩

theorem aboveZero_of_drawn {acc : Account} {k : Nat} {n m : Int}
    (hdrawn : Drawn acc (.token k) n m a₀ a) (hfloor : AboveZero a₀ (n + δ) acc) :
    AboveZero a δ acc := by
  cases acc with
  | subscription id =>
    intro row hrow
    obtain ⟨row₀, hrow₀, hused⟩ := hdrawn.subscription hrow
    have := hfloor row₀ hrow₀
    omega
  | wallet u => trivial
  | token k => trivial

theorem AboveZero.mono {acc : Account} {δ' : Int} (h : AboveZero a δ acc) (hle : δ ≤ δ') :
    AboveZero a δ' acc := by
  cases acc with
  | subscription id =>
    intro row hrow
    have := h row hrow
    omega
  | wallet u => trivial
  | token k => trivial

theorem aboveZero_of_nonneg (h : 0 ≤ δ) (acc : Account) : AboveZero a δ acc := by
  cases acc with
  | subscription id =>
    intro row _
    have := row.used_nonneg
    omega
  | wallet u => trivial
  | token k => trivial

end ZModel.Billing
