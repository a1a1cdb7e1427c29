import ZModel.Billing.Session

/-!
# What an open session holds

What was taken from the funding and the token of an open session is its pre-consumed quota. Each
function of the session is described once in these terms.
-/

namespace ZModel.Billing

open Lib Store Subscription BillingSession

variable {a a' a₀ : Accounts} {s s' : BillingSession} {f : Funding} {extra taken δ : Int}
  {o : TokenOutcome} {w : Write}

def Funding.account : Funding → Account
  | .wallet userId _ => .wallet userId
  | .subscription f => .subscription f.subscriptionId

@[simp] theorem Funding.account_wallet (userId : Nat) (consumed : Int) :
    (Funding.wallet userId consumed).account = .wallet userId := rfl

@[simp] theorem Funding.account_subscription (f : SubscriptionFunding) :
    (Funding.subscription f).account = .subscription f.subscriptionId := rfl

variable (info : RelayInfo)

/-- The part of a quota the token pays: nothing in the playground. -/
def RelayInfo.tokenShare (quota : Int) : Int :=
  if info.isPlayground then 0 else quota

@[simp] theorem RelayInfo.tokenShare_zero : info.tokenShare 0 = 0 := by
  simp [RelayInfo.tokenShare]

theorem RelayInfo.tokenShare_add (m n : Int) :
    info.tokenShare (m + n) = info.tokenShare m + info.tokenShare n := by
  unfold RelayInfo.tokenShare
  split <;> simp

/-- The amount `n` is taken from the funding and its token share from the token. -/
def BillingSession.Took (s : BillingSession) (n : Int) (a₀ a : Accounts) : Prop :=
  Drawn s.funding.account (.token s.relayInfo.tokenId) n (s.relayInfo.tokenShare n) a₀ a

def SubscriptionFunding.Recorded (f : SubscriptionFunding) (a : Accounts) : Prop :=
  isBlank f.requestId = false ∧ ∃ r, a.preConsumeRecords.find? f.requestId = some r ∧
    r.userSubscriptionId = f.subscriptionId ∧ r.preConsumed = f.preConsumed ∧ r.status = .consumed

def Funding.Holds (a : Accounts) (taken extra : Int) : Funding → Prop
  | .wallet _ consumed => consumed = taken
  | .subscription f =>
    f.preConsumed + extra = taken ∧ 0 < f.preConsumed ∧ 0 ≤ extra ∧
      WithinTotal a f.subscriptionId ∧ f.Recorded a

structure Open (a₀ : Accounts) (s : BillingSession) (a : Accounts) : Prop where
  settled : s.settled = false
  refunded : s.refunded = false
  fundingSettled : s.fundingSettled = false
  tokenConsumed : s.tokenConsumed = s.preConsumedQuota
  nonneg : 0 ≤ s.preConsumedQuota
  trusted : s.trusted = true → s.preConsumedQuota = 0
  holds : s.funding.Holds a s.preConsumedQuota s.extraReserved
  subscriptionId : ∀ f, s.funding = .subscription f → s.relayInfo.subscriptionId = f.subscriptionId
  took : s.Took s.preConsumedQuota a₀ a

theorem preConsumeTokenQuota_spec {info : RelayInfo} {quota : Int}
    (h : preConsumeTokenQuota o a info quota = .ok a') :
    TakesFrom (.token info.tokenId) (if info.isPlayground then 0 else quota) a a' ∧
      ∃ tokens, a' = { a with tokens } := by
  unfold preConsumeTokenQuota at h
  split at h
  · cases h
  split at h
  next hplay =>
    cases h
    rw [if_pos hplay]
    exact ⟨takesFrom_zero _ a, a.tokens, rfl⟩
  rename_i hplay
  rw [if_neg hplay]
  split at h
  · cases h
  split at h
  · cases h
  split at h
  · cases h
  rename_i a₁ hdecrease
  cases h
  obtain ⟨-, rfl⟩ := writeQuota_ok hdecrease
  exact ⟨takesFrom_addTokenQuota a info.tokenId quota, _, rfl⟩

theorem reserveToken_spec (hpos : 0 < δ) (h : s.reserveToken o a δ = .ok a') :
    TakesFrom (.token s.relayInfo.tokenId) (s.relayInfo.tokenShare δ) a a' ∧
      ∃ tokens, a' = { a with tokens } := by
  unfold reserveToken at h
  split at h
  next hskip =>
    cases h
    have hplay : s.relayInfo.isPlayground = true := hskip.resolve_left (by omega)
    rw [RelayInfo.tokenShare, if_pos hplay]
    exact ⟨takesFrom_zero _ a, a.tokens, rfl⟩
  · exact preConsumeTokenQuota_spec h

theorem adjustTokenQuota_spec {info : RelayInfo} (h : adjustTokenQuota info w a δ = .ok a') :
    TakesFrom (.token info.tokenId) (info.tokenShare δ) a a' := by
  unfold adjustTokenQuota at h
  unfold RelayInfo.tokenShare
  split at h
  next hplay =>
    cases h
    rw [if_pos hplay]
    exact takesFrom_zero _ a
  rename_i hplay
  rw [if_neg hplay]
  split at h
  · exact decreaseTokenQuota_spec h
  · simpa using increaseTokenQuota_spec h

theorem adjustTokenQuota_done (a : Accounts) (δ : Int) :
    ∃ a', adjustTokenQuota info .done a δ = .ok a' := by
  unfold adjustTokenQuota
  split
  · exact ⟨a, rfl⟩
  split
  · exact ⟨_, writeQuota_done (by omega) _⟩
  · exact ⟨_, writeQuota_done (by omega) _⟩

theorem returnTokenQuota_spec (s : BillingSession) {n : Int} (hnonneg : 0 ≤ n) (a : Accounts) :
    TakesFrom (.token s.relayInfo.tokenId) (-s.relayInfo.tokenShare n) a
      (returnTokenQuota s.relayInfo.isPlayground s.relayInfo.tokenId n a) := by
  unfold returnTokenQuota
  split
  next htoken =>
    have hback : increaseTokenQuota .done a s.relayInfo.tokenId n =
        .ok (a.addTokenQuota s.relayInfo.tokenId n) := writeQuota_done hnonneg _
    rw [hback, commit, RelayInfo.tokenShare, if_neg (by simp [htoken.2])]
    exact increaseTokenQuota_spec hback
  rename_i htoken
  have hzero : s.relayInfo.tokenShare n = 0 := by
    unfold RelayInfo.tokenShare
    split
    · rfl
    rename_i hplay
    have hplay' : s.relayInfo.isPlayground = false := by simpa using hplay
    have hnot : ¬0 < n := fun hpos => htoken ⟨hpos, hplay'⟩
    omega
  rw [hzero]
  exact takesFrom_zero _ a

theorem returnTokenQuota_tables (isPlayground : Bool) (tokenId : Nat) (n : Int) (a : Accounts) :
    ∃ tokens, returnTokenQuota isPlayground tokenId n a = { a with tokens } := by
  unfold returnTokenQuota
  split
  · refine commit_rule (P := fun a' : Accounts => ∃ tokens, a' = { a with tokens })
      ⟨a.tokens, rfl⟩ ?_
    intro a' ha'
    obtain ⟨-, rfl⟩ := writeQuota_ok ha'
    exact ⟨_, rfl⟩
  · exact ⟨a.tokens, rfl⟩

theorem Funding.Holds.withTokens (h : f.Holds a taken extra) (tokens : Table Token) :
    f.Holds { a with tokens } taken extra := by
  cases f with
  | wallet => exact h
  | subscription f => exact h

theorem reserveFunding_spec {f' : Funding} (hholds : f.Holds a taken extra) (hpos : 0 < δ)
    (h : f.reserve w a δ = .ok (f', a')) :
    f'.account = f.account ∧ TakesFrom f.account δ a a' ∧ f'.Holds a' (taken + δ) (extra + δ) ∧
      ∀ g, f' = .subscription g → f = .subscription g := by
  cases f with
  | wallet userId consumed =>
    simp only [Funding.reserve] at h
    split at h
    · cases h
    rename_i a₁ hdecrease
    cases h
    refine ⟨rfl, decreaseUserQuota_spec hdecrease, ?_, nofun⟩
    rw [show consumed = taken from hholds]
    rfl
  | subscription g =>
    obtain ⟨hsum, hpre, hextra, ⟨s, hs, hroom⟩, hrecorded⟩ := hholds
    simp only [Funding.reserve] at h
    split at h
    · cases h
    rename_i a₁ hpost
    cases h
    obtain ⟨htakes, hrecords, hwithin⟩ :=
      postConsume_spec hs (by have := s.used_nonneg; omega) hpost
    refine ⟨rfl, htakes, ⟨by omega, hpre, by omega, hwithin (by omega), ?_⟩, fun _ he => he⟩
    simpa only [SubscriptionFunding.Recorded, hrecords] using hrecorded

theorem rollbackReserve_spec {f' : Funding} {a₁ : Accounts} (hholds : f.Holds a taken extra)
    (hpos : 0 < δ) (h : f.reserve w a δ = .ok (f', a₁)) :
    (f'.rollbackReserve a₁ δ).1 = f ∧ TakesFrom f.account (-δ) a₁ (f'.rollbackReserve a₁ δ).2 ∧
      f.Holds (f'.rollbackReserve a₁ δ).2 taken extra := by
  obtain ⟨-, htakes, hholds', -⟩ := reserveFunding_spec hholds hpos h
  cases f with
  | wallet userId consumed =>
    simp only [Funding.reserve] at h
    split at h
    · cases h
    cases h
    have hback : increaseUserQuota .done a₁ userId δ = .ok (a₁.addUserQuota userId δ) :=
      writeQuota_done (by omega) _
    simp only [Funding.rollbackReserve, hback]
    exact ⟨by rw [Int.add_sub_cancel], increaseUserQuota_spec hback, hholds⟩
  | subscription g =>
    simp only [Funding.reserve] at h
    split at h
    · cases h
    cases h
    obtain ⟨hsum, hpre, hextra, -, -⟩ := hholds
    obtain ⟨-, -, -, ⟨s, hs, hroom⟩, hrecorded⟩ := hholds'
    obtain ⟨s₀, -, hused⟩ := (Drawn.first (drawn_refl _ (.token 0) a) htakes).subscription hs
    have hnonneg := s₀.used_nonneg
    obtain ⟨a₂, hpost, htakes₂, hrecords, hwithin⟩ :=
      postConsume_giveBack hs hroom (x := δ) (by omega) (by omega)
    simp only [Funding.rollbackReserve, hpost, commit]
    refine ⟨trivial, htakes₂, hsum, hpre, hextra, hwithin, ?_⟩
    simpa only [SubscriptionFunding.Recorded, hrecords] using hrecorded

theorem settleFunding_spec
    (hfloor : ∀ g s, f = .subscription g → a.subscriptions.find? g.subscriptionId = some s →
      0 ≤ s.amountUsed + δ) (h : f.settle w a δ = .ok a') : TakesFrom f.account δ a a' := by
  cases f with
  | wallet userId consumed =>
    simp only [Funding.settle] at h
    split at h
    next hδ =>
      cases h
      rw [hδ]
      exact takesFrom_zero _ a
    · split at h
      · exact decreaseUserQuota_spec h
      · simpa using increaseUserQuota_spec h
  | subscription g =>
    simp only [Funding.settle] at h
    split at h
    next hδ =>
      cases h
      rw [hδ]
      exact takesFrom_zero _ a
    · exact postConsume_takes (fun s hs => hfloor g s rfl hs) h

theorem refundSubscription_spec {f : SubscriptionFunding} (hrecorded : f.Recorded a)
    {s : UserSubscription} (hs : a.subscriptions.find? f.subscriptionId = some s)
    (hroom : s.amountTotal ≤ 0 ∨ s.amountUsed ≤ s.amountTotal) (hpre : 0 < f.preConsumed)
    (hused : f.preConsumed ≤ s.amountUsed) :
    TakesFrom (.subscription f.subscriptionId) (-f.preConsumed) a
        ((Funding.subscription f).refund a) ∧
      WithinTotal ((Funding.subscription f).refund a) f.subscriptionId := by
  obtain ⟨hid, r, hr, hsub, hamount, hstatus⟩ := hrecorded
  obtain ⟨a₁, hpost, htakes, -, hwithin⟩ := postConsume_giveBack hs hroom (by omega) hused
  have hrefund : refundSubscriptionPreConsume .done .done a f.requestId =
      markRefunded .done a₁ r := by
    simp only [refundSubscriptionPreConsume, hid, hr, hstatus, hsub, hamount, hpost]
    simp [Int.not_le.mpr hpre]
  simp only [Funding.refund, if_neg (Int.not_le.mpr hpre), refundWithRetry, hrefund]
  exact ⟨htakes, hwithin⟩

theorem returnFunding_wallet (h : Open a₀ s a) {userId : Nat} {consumed : Int}
    (hf : s.funding = .wallet userId consumed) :
    TakesFrom s.funding.account (-s.preConsumedQuota) a (s.refundJob.returnFunding a) := by
  have hnonneg := h.nonneg
  have hholds := h.holds
  rw [hf] at hholds ⊢
  have hconsumed : consumed = s.preConsumedQuota := hholds
  simp only [RefundJob.returnFunding, refundJob, hf, Funding.source, reduceCtorEq, false_and,
    and_false, if_false, Funding.refund]
  split
  · rw [show s.preConsumedQuota = 0 by omega]
    exact takesFrom_zero _ a
  have hback : increaseUserQuota .done a userId consumed =
      .ok (a.addUserQuota userId consumed) := writeQuota_done (by omega) _
  rw [hback, ← hconsumed]
  exact increaseUserQuota_spec hback

theorem returnFunding_subscription (h : Open a₀ s a) {f : SubscriptionFunding}
    (hf : s.funding = .subscription f) :
    Drawn s.funding.account (.token s.relayInfo.tokenId) 0 (s.relayInfo.tokenShare s.preConsumedQuota) a₀
      (s.refundJob.returnFunding a) := by
  have htook := h.took
  have hholds := h.holds
  have hid := h.subscriptionId f hf
  rw [hf] at hholds
  obtain ⟨hsum, hpre, hextra, ⟨r, hr, hroom⟩, hrecorded⟩ := hholds
  simp only [Took, hf] at htook ⊢
  obtain ⟨r₀, -, hused⟩ := htook.subscription hr
  have hnonneg := r₀.used_nonneg
  obtain ⟨htakes, hwithin⟩ := refundSubscription_spec hrecorded hr hroom hpre (by omega)
  have hdrawn := htook.first htakes
  simp only [RefundJob.returnFunding, refundJob, hf, hid]
  by_cases hzero : s.extraReserved = 0
  · rw [if_neg (by omega)]
    rwa [show s.preConsumedQuota + -f.preConsumed = 0 by omega] at hdrawn
  obtain ⟨r₁, hr₁, hroom₁⟩ := hwithin
  obtain ⟨r₂, hr₂, hused₁⟩ := hdrawn.subscription hr₁
  have hnonneg₂ := r₂.used_nonneg
  have hpos : 0 < f.subscriptionId := by
    rw [← show r.id = f.subscriptionId from Table.find?_key hr]
    exact r.id_pos
  obtain ⟨a₂, hpost, htakes₂, -, -⟩ :=
    postConsume_giveBack hr₁ hroom₁ (x := s.extraReserved) (by omega) (by omega)
  rw [if_pos ⟨by omega, rfl, hpos⟩, hpost]
  have hfinal := hdrawn.first htakes₂
  rwa [show s.preConsumedQuota + -f.preConsumed + -s.extraReserved = 0 by omega] at hfinal

theorem refundJob_spec (h : Open a₀ s a) : s.Took 0 a₀ (s.refundJob.run a) := by
  have hfunding : Drawn s.funding.account (.token s.relayInfo.tokenId) 0
      (s.relayInfo.tokenShare s.preConsumedQuota) a₀ (s.refundJob.returnFunding a) := by
    cases hf : s.funding with
    | wallet userId consumed =>
      have hdrawn := h.took.first (returnFunding_wallet h hf)
      rwa [Int.add_right_neg, hf] at hdrawn
    | subscription f => rw [← hf]; exact returnFunding_subscription h hf
  have hnonneg : 0 ≤ s.tokenConsumed := by
    rw [h.tokenConsumed]
    exact h.nonneg
  rw [← h.tokenConsumed] at hfunding
  have hdrawn := hfunding.second (returnTokenQuota_spec s hnonneg (s.refundJob.returnFunding a))
  rw [Int.add_right_neg] at hdrawn
  rw [Took, RelayInfo.tokenShare_zero]
  exact hdrawn

theorem Took.congr {n : Int} (h : s.Took n a₀ a) (hfunding : s'.funding.account = s.funding.account)
    (htoken : s'.relayInfo.tokenId = s.relayInfo.tokenId)
    (hplay : s'.relayInfo.isPlayground = s.relayInfo.isPlayground) : s'.Took n a₀ a := by
  simpa only [Took, RelayInfo.tokenShare, hfunding, htoken, hplay] using h

theorem reserve_open (h : Open a₀ s a) {target : Int} (hr : s.reserve w o a target = (s', a')) :
    Open a₀ s' a' := by
  unfold reserve at hr
  split at hr
  · cases hr
    exact h
  rename_i hskip
  simp only [h.settled, h.refunded, Bool.false_eq_true, false_or, not_or] at hskip
  have hpos : 0 < target - s.preConsumedQuota := by omega
  simp only at hr
  split at hr
  · cases hr
    exact h
  rename_i f a₁ hreserve
  obtain ⟨haccount, htakes, hholds, hsub⟩ := reserveFunding_spec h.holds hpos hreserve
  split at hr
  · -- The token refused: the funding goes back to what it was.
    obtain ⟨hback, htakes', hholds'⟩ := rollbackReserve_spec h.holds hpos hreserve
    cases hr
    have htook := (h.took.first htakes).first htakes'
    rw [Int.add_neg_cancel_right] at htook
    simp only [hback]
    exact { h with holds := hholds', took := htook }
  rename_i a₂ htoken
  obtain ⟨htakes', tokens, rfl⟩ := reserveToken_spec hpos htoken
  cases hr
  have htook : s.Took (s.preConsumedQuota + (target - s.preConsumedQuota)) a₀
      { a₁ with tokens } := by
    rw [Took, RelayInfo.tokenShare_add]
    exact (h.took.first htakes).second htakes'
  have hnonneg := h.nonneg
  exact
    { settled := h.settled
      refunded := h.refunded
      fundingSettled := h.fundingSettled
      tokenConsumed := congrArg (· + (target - s.preConsumedQuota)) h.tokenConsumed
      nonneg := by show 0 ≤ s.preConsumedQuota + (target - s.preConsumedQuota); omega
      trusted := fun htrusted => absurd htrusted hskip.1
      holds := hholds.withTokens tokens
      subscriptionId := fun g hg => syncRelayInfo_subscriptionId _ hg
      took := Took.congr htook haccount (syncRelayInfo_tokenId _)
        (syncRelayInfo_isPlayground _) }

theorem settle_takes {w' : Write} {actual : Int} {r : Except QuotaError Unit}
    (hsettled : s.settled = false) (hfunding : s.fundingSettled = false)
    (hfloor : ∀ f row, s.funding = .subscription f →
      a.subscriptions.find? f.subscriptionId = some row →
      0 ≤ row.amountUsed + (actual - s.preConsumedQuota))
    (hs : s.settle w w' a actual = (r, s', a')) :
    (s' = s ∧ a' = a ∧ (∃ e, r = .error e) ∧ actual ≠ s.preConsumedQuota ∧
        ∀ a₁, s.funding.settle w a (actual - s.preConsumedQuota) ≠ .ok a₁) ∨
      (s'.settled = true ∧ s'.funding = s.funding ∧
        (∃ p, s'.relayInfo = { s.relayInfo with subscriptionPostDelta := p }) ∧
        (actual = s.preConsumedQuota ∨
          ∃ a₁, s.funding.settle w a (actual - s.preConsumedQuota) = .ok a₁) ∧
        ∃ m, Drawn s.funding.account (.token s.relayInfo.tokenId) (actual - s.preConsumedQuota) m
            a a' ∧
          (w' = .done → r = .ok () ∧
            m = s.relayInfo.tokenShare (actual - s.preConsumedQuota))) := by
  unfold settle at hs
  rw [if_neg (by simp [hsettled])] at hs
  simp only at hs
  split at hs
  next hzero =>
    cases hs
    rw [hzero, RelayInfo.tokenShare_zero]
    exact .inr ⟨rfl, rfl, ⟨_, rfl⟩, .inl (by omega), 0, drawn_refl _ _ a, fun _ => ⟨rfl, rfl⟩⟩
  rename_i hne
  rw [if_neg (by simp [hfunding])] at hs
  split at hs
  next e herror =>
    cases hs
    refine .inl ⟨rfl, rfl, ⟨e, rfl⟩, by omega, fun a₁ ha₁ => ?_⟩
    rw [herror] at ha₁
    cases ha₁
  rename_i a₁ hfunded
  have htaken := (drawn_refl s.funding.account (.token s.relayInfo.tokenId) a).first
    (settleFunding_spec hfloor hfunded)
  rw [Int.zero_add] at htaken
  split at hs
  next e herror =>
    cases hs
    refine .inr ⟨rfl, rfl, ⟨_, rfl⟩, .inr ⟨_, hfunded⟩, 0, htaken, ?_⟩
    rintro rfl
    obtain ⟨a₂, htoken⟩ := adjustTokenQuota_done s.relayInfo a' (actual - s.preConsumedQuota)
    rw [herror] at htoken
    cases htoken
  rename_i a₂ htoken
  cases hs
  have hdrawn := htaken.second (adjustTokenQuota_spec htoken)
  rw [Int.zero_add] at hdrawn
  exact .inr ⟨rfl, rfl, ⟨_, rfl⟩, .inr ⟨_, hfunded⟩, _, hdrawn, fun _ => ⟨rfl, rfl⟩⟩

/-- `Settle` leaves an open session as it is, with an error, or settles it at the actual quota. -/
theorem settle_open (h : Open a₀ s a) {actual : Int} {r : Except QuotaError Unit}
    (hfloor : ∀ f s₀, s.funding = .subscription f →
      a₀.subscriptions.find? f.subscriptionId = some s₀ → 0 ≤ s₀.amountUsed + actual)
    (hs : s.settle w .done a actual = (r, s', a')) :
    (s' = s ∧ a' = a ∧ ∃ e, r = .error e) ∨
      (r = .ok () ∧ s'.settled = true ∧ s'.Took actual a₀ a') := by
  have hfloor' : ∀ f row, s.funding = .subscription f →
      a.subscriptions.find? f.subscriptionId = some row →
      0 ≤ row.amountUsed + (actual - s.preConsumedQuota) := by
    intro f row hf hrow
    have htook := h.took
    simp only [Took, hf] at htook
    obtain ⟨s₀, hs₀, hused⟩ := htook.subscription hrow
    have := hfloor f s₀ hf hs₀
    omega
  obtain ⟨hs', ha', herror, -⟩ | ⟨hsettled, hfunding, ⟨p, hinfo⟩, -, m, hdrawn, hdone⟩ :=
    settle_takes h.settled h.fundingSettled hfloor' hs
  · exact .inl ⟨hs', ha', herror⟩
  obtain ⟨hr, rfl⟩ := hdone rfl
  refine .inr ⟨hr, hsettled, ?_⟩
  have htook := h.took.trans hdrawn
  rw [← RelayInfo.tokenShare_add, show s.preConsumedQuota + (actual - s.preConsumedQuota) = actual
    by omega] at htook
  exact Took.congr htook (by rw [hfunding]) (by rw [hinfo]) (by rw [hinfo])

theorem refund_open (h : Open a₀ s a) : (s.refund = (none, s) ∧ s.Took 0 a₀ a) ∨
      s.refund = (some s.refundJob, { s with refunded := true }) := by
  unfold refund
  simp only [h.settled, h.refunded, Bool.false_eq_true, false_or]
  by_cases hneeds : s.needsRefund = false
  · rw [if_pos hneeds]
    refine .inl ⟨rfl, ?_⟩
    have hnone : s.tokenConsumed ≤ 0 := by
      by_contra hpos
      simp [needsRefund, h.settled, h.refunded, h.fundingSettled, Int.not_le.mp hpos] at hneeds
    have hnonneg := h.nonneg
    have hzero : s.preConsumedQuota = 0 := by
      have := h.tokenConsumed
      omega
    exact hzero ▸ h.took
  · rw [if_neg hneeds]
    exact .inr rfl

end ZModel.Billing
