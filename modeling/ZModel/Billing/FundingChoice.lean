import ZModel.AsyncImage.Billing
import ZModel.Billing.Opening

/-!
# The choice of the funding source

A billing session and the reservation of an asynchronous image task share the rule `decideFunding`;
they differ in when the wallet may pay.
-/

namespace ZModel.Billing

open Lib Store Subscription BillingSession

inductive Decision where
  | reject
  | wallet
  | subscription (id : Nat)
  deriving DecidableEq

def Funding.decision : Funding → Decision
  | .wallet _ _ => .wallet
  | .subscription f => .subscription f.subscriptionId

def sessionDecision : Except SessionError BillingSession × Accounts → Decision
  | (.error _, _) => .reject
  | (.ok s, _) => s.funding.decision

def reservationDecision : Except AsyncImage.Error (AsyncImage.Funding × Accounts) → Decision
  | .error _ => .reject
  | .ok (f, _) =>
    match f.source with
    | .wallet => .wallet
    | .subscription => .subscription f.subscriptionID

def choiceDecision : Except ChargeError (Option Nat) → Decision
  | .ok (some id) => .subscription id
  | _ => .reject

/-- The rule: `choice` is the subscription that has room, `covered` whether the wallet has the
price, `overflow` whether it may pay. -/
def decideFunding (overflow : Bool) (choice : Except ChargeError (Option Nat)) (covered : Bool) :
    BillingPreference → Decision :=
  let byWallet : Decision := if covered then .wallet else .reject
  fun
  | .walletOnly => byWallet
  | .subscriptionOnly => choiceDecision choice
  | .walletFirst => if covered then .wallet else choiceDecision choice
  | .subscriptionFirst =>
    match choice with
    | .ok none => if overflow then byWallet else .reject
    | choice => choiceDecision choice

def TokenOutcome.Pays (o : TokenOutcome) (info : RelayInfo) (price : Int) : Prop :=
  o.write = .done ∧ ∃ remain ∈ o.lookup, info.tokenUnlimited = true ∨ price ≤ remain

instance (o : TokenOutcome) (info : RelayInfo) (price : Int) : Decidable (o.Pays info price) :=
  inferInstanceAs (Decidable (_ ∧ ∃ remain ∈ o.lookup, _))

/-- A user with a price to pay under new request ids. Queries and writes succeed, and the token
pays. -/
structure Faced (e : OpenEnv) (a : Accounts) (info : RelayInfo) (user : User) (r : ChargeRequest) :
    Prop where
  named : 0 < info.userId
  stored : a.users.find? info.userId = some user
  quota : e.userQuota = some user.quota
  sameUser : r.userId = info.userId
  request : isBlank info.requestId = false
  fresh : a.preConsumeRecords.find? info.requestId = none
  freshTask : a.preConsumeRecords.find? r.requestId = none
  walletToken : e.walletToken.Pays info r.amount
  walletWrite : e.walletWrite = .done
  subscriptionToken : e.subscriptionToken.Pays info r.amount
  subscriptionWrite : e.subscriptionWrite = .done
  activeQuery : e.activeQuery = .done
  overflowQuery : e.overflowQuery = .done

section Session

variable {e : OpenEnv} {a : Accounts} {info : RelayInfo} {user : User} {r : ChargeRequest}

theorem preConsumeTokenQuota_pays {o : TokenOutcome} {price : Int} (h : o.Pays info price)
    (hprice : 0 ≤ price) (a : Accounts) :
    ∃ tokens, preConsumeTokenQuota o a info price = .ok { a with tokens } := by
  obtain ⟨hwrite, remain, hlookup, hpays⟩ := h
  have hlookup : o.lookup = some remain := hlookup
  unfold preConsumeTokenQuota
  rw [if_neg (Int.not_lt.mpr hprice)]
  split
  · exact ⟨a.tokens, rfl⟩
  rw [hlookup]
  dsimp only
  rw [if_neg (by rintro ⟨hlimited, hshort⟩; simp [hlimited] at hpays; omega), hwrite,
    decreaseTokenQuota, writeQuota_done hprice]
  exact ⟨_, rfl⟩

theorem preConsume_of_pays {s : BillingSession} {o : Outcome} {price : Int} (hprice : 0 ≤ price)
    (hpays : o.token.Pays s.relayInfo price) (b : Accounts) :
    ∃ tokens, ∀ result, s.funding.preConsume o.zone o.now o.funding { b with tokens }
        (s.effectiveQuota o price) = result →
      match result with
      | .ok (f, _) => sessionDecision (attempt (s.preConsume o b price)) = f.decision
      | .error err => ∃ tokens', attempt (s.preConsume o b price) =
          (.error (.ofFailure (.funding err)), { b with tokens := tokens' }) := by
  have htoken : ∃ consumed tokens, s.preConsumeToken o b (s.effectiveQuota o price) =
      .ok (consumed, { b with tokens }) := by
    unfold effectiveQuota preConsumeToken
    split
    · exact ⟨s.tokenConsumed, b.tokens, rfl⟩
    split
    · obtain ⟨tokens, htokens⟩ := preConsumeTokenQuota_pays hpays hprice b
      rw [htokens]
      exact ⟨_, tokens, rfl⟩
    · exact ⟨s.tokenConsumed, b.tokens, rfl⟩
  obtain ⟨consumed, tokens, htoken⟩ := htoken
  refine ⟨tokens, fun result hresult => ?_⟩
  unfold preConsume
  dsimp only
  rw [htoken]
  dsimp only
  rw [hresult]
  cases result with
  | ok funded => rfl
  | error err =>
    obtain ⟨tokens', htokens'⟩ := returnTokenQuota_tables s.relayInfo.isPlayground
      s.relayInfo.tokenId consumed { b with tokens }
    exact ⟨tokens', by rw [htokens']; rfl⟩

def walletSession (info : RelayInfo) (userQuota : Int) : BillingSession :=
  { relayInfo := { info with userQuota }, funding := .wallet info.userId 0 }

def subscriptionSession (info : RelayInfo) (amount : Int) : BillingSession :=
  { relayInfo := info
    funding := .subscription
      { requestId := info.requestId, userId := info.userId, amount } }

theorem walletFunding_pays (zone now : Int) (b : Accounts) (amount : Int) (userId : Nat)
    (taken : Int) : ∃ consumed b',
      (Funding.wallet userId taken).preConsume zone now .done b amount =
        .ok (.wallet userId consumed, b') := by
  unfold Funding.preConsume
  by_cases hamount : amount ≤ 0
  · exact ⟨taken, b, if_pos hamount⟩
  · refine ⟨amount, b.addUserQuota userId (-amount), ?_⟩
    simp only [if_neg hamount, decreaseUserQuota, writeQuota_done (Int.le_of_not_le hamount)]

theorem tryWallet_decision (h : Faced e a info user r) (b : Accounts) :
    (r.amount ≤ user.quota ∧ sessionDecision (tryWallet e b info r.amount) = .wallet) ∨
      (user.quota < r.amount ∧ ∃ err, tryWallet e b info r.amount = (.error err, b) ∧
        err.code = .insufficientUserQuota) := by
  have hpos := r.amount_pos
  unfold tryWallet
  rw [h.quota]
  dsimp only
  by_cases hcovered : r.amount ≤ user.quota
  · rw [if_neg (by omega), if_neg (by omega)]
    refine .inl ⟨hcovered, ?_⟩
    let o : Outcome := ⟨e.zone, e.now, e.trustQuota, e.tokenQuota, e.walletToken, e.walletWrite⟩
    obtain ⟨tokens, hopen⟩ := preConsume_of_pays (s := walletSession info user.quota) (o := o)
      (Int.le_of_lt hpos) h.walletToken b
    obtain ⟨consumed, b', hfunding⟩ := walletFunding_pays e.zone e.now { b with tokens }
      ((walletSession info user.quota).effectiveQuota o r.amount) info.userId 0
    rw [← h.walletWrite] at hfunding
    exact hopen _ hfunding
  refine .inr ⟨by omega, ?_⟩
  by_cases hempty : user.quota ≤ 0
  · rw [if_pos hempty]
    exact ⟨_, rfl, rfl⟩
  · rw [if_neg hempty, if_pos (by omega)]
    exact ⟨_, rfl, rfl⟩

theorem preConsumeUserSubscription_choice (h : Faced e a info user r) (tokens : Table Token) :
    match firstWithRoom e.zone e.now a r (activeSubscriptions a info.userId e.now) with
    | .ok (some id) => ∃ result b, result.userSubscriptionId = id ∧
        preConsumeUserSubscription e.zone e.now .done { a with tokens } info.requestId
          info.userId r.amount = .ok (result, b)
    | .ok none => ∃ err, preConsumeUserSubscription e.zone e.now .done { a with tokens }
          info.requestId info.userId r.amount = .error err ∧
        (err = .noActiveSubscription ∨ err = .insufficient r.amount)
    | .error err => preConsumeUserSubscription e.zone e.now .done { a with tokens }
        info.requestId info.userId r.amount = .error (.walk err) := by
  have hwalk := chargeFirst_choice e.zone e.now (a := a)
    (r := ⟨info.requestId, info.userId, r.amount, r.amount_pos⟩)
    (b := { a with tokens }) (listed_active { a with tokens } info.userId e.now)
    h.fresh rfl
  have hsame : firstWithRoom e.zone e.now a ⟨info.requestId, info.userId, r.amount, r.amount_pos⟩ =
      firstWithRoom e.zone e.now a r := firstWithRoom_amount rfl
  rw [hsame] at hwalk
  have hpre : preConsumeUserSubscription e.zone e.now .done { a with tokens }
      info.requestId info.userId r.amount = freshPreConsume e.zone e.now .done
        { a with tokens } ⟨info.requestId, info.userId, r.amount, r.amount_pos⟩ := by
    have hnamed := h.named
    rw [preConsumeUserSubscription, if_neg (by omega), h.request]
    simp only [Bool.false_eq_true, if_false, dif_pos r.amount_pos, h.fresh]
  rw [← show activeSubscriptions { a with tokens } info.userId e.now =
    activeSubscriptions a info.userId e.now from rfl, ← hwalk, hpre]
  unfold freshPreConsume
  by_cases hempty : (activeSubscriptions { a with tokens } info.userId e.now).length = 0
  · -- Without an active subscription the walk has nothing to choose from.
    rw [List.length_eq_zero_iff.mp hempty]
    exact ⟨_, rfl, .inl rfl⟩
  simp only [if_neg hempty]
  cases chargeFirst e.zone e.now ⟨info.requestId, info.userId, r.amount, r.amount_pos⟩
    (activeSubscriptions { a with tokens } info.userId e.now)
    { a with tokens } with
  | error err => rfl
  | ok charged =>
    cases charged with
    | charged s b => exact ⟨_, _, rfl, rfl⟩
    | exhausted b => exact ⟨_, rfl, .inr rfl⟩

theorem trySubscription_decision (h : Faced e a info user r) :
    match firstWithRoom e.zone e.now a r (activeSubscriptions a info.userId e.now) with
    | .ok (some id) => sessionDecision (trySubscription e a info r.amount) = .subscription id
    | .ok none => ∃ err tokens, trySubscription e a info r.amount =
        (.error err, { a with tokens }) ∧ err.code = .insufficientUserQuota
    | .error _ => ∃ err b, trySubscription e a info r.amount = (.error err, b) ∧
        err.code ≠ .insufficientUserQuota := by
  have hpos := r.amount_pos
  let o : Outcome :=
    ⟨e.zone, e.now, e.trustQuota, e.tokenQuota, e.subscriptionToken, e.subscriptionWrite⟩
  have htry : trySubscription e a info r.amount =
      attempt ((subscriptionSession info r.amount).preConsume o a r.amount) := by
    simp only [trySubscription, if_neg (Int.not_le.mpr hpos)]
    rfl
  have heffective : (subscriptionSession info r.amount).effectiveQuota o r.amount = r.amount := by
    simp [effectiveQuota, shouldTrust, subscriptionSession]
  obtain ⟨tokens, hopen⟩ := preConsume_of_pays (s := subscriptionSession info r.amount) (o := o)
    (Int.le_of_lt hpos) h.subscriptionToken a
  have hcharge := preConsumeUserSubscription_choice h tokens
  rw [← htry] at hopen
  simp only [subscriptionSession, Funding.preConsume, o, h.subscriptionWrite] at hopen
  split at hcharge
  · obtain ⟨result, b, hid, hcharge⟩ := hcharge
    rw [hcharge] at hopen
    have hdecision := hopen _ rfl
    rw [hdecision, Funding.decision, hid]
  · obtain ⟨err, hcharge, herr⟩ := hcharge
    rw [hcharge] at hopen
    obtain ⟨tokens', htokens'⟩ := hopen _ rfl
    refine ⟨_, tokens', htokens', ?_⟩
    obtain rfl | rfl := herr <;> rfl
  · rw [hcharge] at hopen
    obtain ⟨tokens', htokens'⟩ := hopen _ rfl
    refine ⟨_, _, htokens', fun hcode => ?_⟩
    cases hcode

theorem of_sessionDecision {x : Except SessionError BillingSession × Accounts} {d : Decision}
    (h : sessionDecision x = d) (hd : d ≠ .reject) : ∃ s b, x = (.ok s, b) := by
  obtain ⟨result, b⟩ := x
  cases result with
  | error err => exact absurd h.symm hd
  | ok s => exact ⟨s, b, rfl⟩

section

variable (h : Faced e a info user r)

include h

theorem hasActiveUserSubscription_eq : hasActiveUserSubscription e.activeQuery a info.userId e.now =
      some (decide (overflowFlags a info.userId e.now ≠ [])) := by
  have hnamed := h.named
  rw [h.activeQuery, hasActiveUserSubscription, if_neg (by omega), Option.some.injEq]
  refine decide_eq_decide.mpr ?_
  rw [gt_iff_lt, List.length_pos_iff]
  exact not_congr List.map_eq_nil_iff.symm

theorem allowWalletOverflow_eq (tokens : Table Token) :
    activeSubscriptionsAllowWalletOverflow e.overflowQuery { a with tokens } info.userId
      e.now = some ((overflowFlags a info.userId e.now).all fun b => b) := by
  have hnamed := h.named
  rw [h.overflowQuery, activeSubscriptionsAllowWalletOverflow, if_neg (by omega),
    Option.some.injEq, Bool.eq_iff_iff, decide_eq_true_eq, List.length_eq_zero_iff,
    List.filter_eq_nil_iff, overflowFlags, List.all_map, List.all_eq_true]
  simp only [List.mem_filter, Bool.and_eq_true, Bool.not_eq_true', not_and, Bool.not_eq_false,
    and_imp, Function.comp]

theorem tryWallet_decides (b : Accounts) : sessionDecision (tryWallet e b info r.amount) =
      if decide (r.amount ≤ user.quota) = true then .wallet else .reject := by
  obtain ⟨hcovered, hwallet⟩ | ⟨hshort, err, hwallet, -⟩ := tryWallet_decision h b
  · rw [hwallet, if_pos (decide_eq_true hcovered)]
  · rw [hwallet, if_neg (by simpa using hshort)]
    rfl

theorem newBillingSession_decision : sessionDecision (newBillingSession e a info r.amount) =
      decideFunding ((overflowFlags a info.userId e.now).all fun b => b)
        (firstWithRoom e.zone e.now a r (activeSubscriptions a info.userId e.now))
        (decide (r.amount ≤ user.quota)) (normalizeBillingPreference info.billingPreference) := by
  have hsub := trySubscription_decision h
  have hdecides : sessionDecision (trySubscription e a info r.amount) = choiceDecision
      (firstWithRoom e.zone e.now a r (activeSubscriptions a info.userId e.now)) := by
    generalize firstWithRoom e.zone e.now a r (activeSubscriptions a info.userId e.now) = choice
      at hsub
    rcases choice with err | (_ | id)
    · obtain ⟨err, b, hfailed, -⟩ := hsub
      rw [hfailed]
      rfl
    · obtain ⟨err, tokens, hfailed, -⟩ := hsub
      rw [hfailed]
      rfl
    · exact hsub
  unfold newBillingSession
  cases normalizeBillingPreference info.billingPreference with
  | walletOnly => exact tryWallet_decides h a
  | subscriptionOnly => exact hdecides
  | walletFirst =>
    dsimp only [decideFunding]
    obtain ⟨hcovered, hwallet⟩ | ⟨hshort, err, hwallet, hcode⟩ := tryWallet_decision h a
    · obtain ⟨s, b, hopen⟩ := of_sessionDecision hwallet nofun
      rw [if_pos (decide_eq_true hcovered), ← hwallet, hopen]
    rw [hwallet, if_neg (by simpa using hshort)]
    dsimp only
    rw [if_pos hcode]
    exact hdecides
  | subscriptionFirst =>
    dsimp only [subscriptionFirst]
    rw [hasActiveUserSubscription_eq h]
    by_cases hactive : overflowFlags a info.userId e.now = []
    · have hnone : activeSubscriptions a info.userId e.now = [] := by
        rw [overflowFlags, List.map_eq_nil_iff] at hactive
        rw [activeSubscriptions, hactive]
        rfl
      rw [hnone, hactive]
      exact tryWallet_decides h a
    rw [decide_eq_true hactive]
    generalize firstWithRoom e.zone e.now a r (activeSubscriptions a info.userId e.now) = choice
      at hsub hdecides ⊢
    rcases choice with err | (_ | id)
    · obtain ⟨err, b, hfailed, hcode⟩ := hsub
      rw [hfailed]
      dsimp only
      rw [if_neg hcode]
      rfl
    · obtain ⟨err, tokens, hfailed, hcode⟩ := hsub
      rw [hfailed]
      dsimp only
      rw [if_pos hcode, allowWalletOverflow_eq h]
      cases (overflowFlags a info.userId e.now).all fun b => b with
      | true => exact tryWallet_decides h _
      | false => rfl
    · obtain ⟨s, b, hopen⟩ := of_sessionDecision hsub nofun
      rw [hopen] at hdecides ⊢
      exact hdecides

end

end Session

theorem preference_ofText (preference : String) : AsyncImage.Preference.ofText preference =
      match normalizeBillingPreference preference with
      | .walletOnly => .walletOnly
      | .subscriptionOnly => .subscriptionOnly
      | .walletFirst => .walletFirst
      | .subscriptionFirst => .subscriptionFirst := by
  unfold AsyncImage.Preference.ofText normalizeBillingPreference
  generalize trimSpace preference = text
  by_cases hwallet : text = "wallet_only"
  · subst hwallet
    rfl
  by_cases hsubscription : text = "subscription_only"
  · subst hsubscription
    rfl
  by_cases hfirst : text = "wallet_first"
  · subst hfirst
    rfl
  · simp

section Reservation

variable {zone now : Int} {a : Accounts} {r : ChargeRequest} {user : User}

theorem asyncTryWallet_decides (h : a.users.find? r.userId = some user) :
    (r.amount ≤ user.quota ∧ reservationDecision (AsyncImage.tryWallet a r) = .wallet) ∨
      (user.quota < r.amount ∧ AsyncImage.tryWallet a r = .error .insufficientWallet) := by
  rw [AsyncImage.tryWallet, h]
  dsimp only
  split
  next hshort =>
    exact .inr ⟨hshort, rfl⟩
  next hcovered =>
    exact .inl ⟨Int.not_lt.mp hcovered, rfl⟩

theorem asyncTrySubscription_decides (hfresh : a.preConsumeRecords.find? r.requestId = none) :
    reservationDecision (AsyncImage.trySubscription zone now a r >>= AsyncImage.chargedFunding) =
      choiceDecision (firstWithRoom zone now a r (activeSubscriptions a r.userId now)) := by
  rw [← chargeFirst_choice zone now (listed_active a r.userId now) hfresh rfl, AsyncImage.trySubscription]
  cases chargeFirst zone now r (activeSubscriptions a r.userId now) a with
  | error err => rfl
  | ok charged => cases charged <;> rfl

theorem reserve_decision (hstored : a.users.find? r.userId = some user)
    (hfresh : a.preConsumeRecords.find? r.requestId = none) (preference : String) :
    reservationDecision (AsyncImage.reserveAsyncImageFunding zone now a r preference) =
      decideFunding (decide (overflowFlags a r.userId now = []) ||
          (overflowFlags a r.userId now).any fun b => b)
        (firstWithRoom zone now a r (activeSubscriptions a r.userId now))
        (decide (r.amount ≤ user.quota)) (normalizeBillingPreference preference) := by
  have hsub : reservationDecision
      (AsyncImage.trySubscription zone now a r >>= AsyncImage.chargedFunding) = _ :=
    asyncTrySubscription_decides hfresh
  have hwallet : ∀ b : Accounts, b.users = a.users →
      reservationDecision (AsyncImage.tryWallet b r) =
        if decide (r.amount ≤ user.quota) = true then .wallet else .reject := by
    intro b husers
    obtain ⟨hcovered, hwallet⟩ | ⟨hshort, hwallet⟩ :=
      asyncTryWallet_decides (a := b) (husers ▸ hstored)
    · rw [hwallet, if_pos (decide_eq_true hcovered)]
    · rw [hwallet, if_neg (by simpa using hshort)]
      rfl
  unfold AsyncImage.reserveAsyncImageFunding
  rw [preference_ofText]
  cases normalizeBillingPreference preference with
  | walletOnly => exact hwallet a rfl
  | subscriptionOnly => exact hsub
  | walletFirst =>
    dsimp only [decideFunding]
    obtain ⟨hcovered, hdecision⟩ | ⟨hshort, hdecision⟩ := asyncTryWallet_decides hstored
    · rw [if_pos (decide_eq_true hcovered)]
      generalize AsyncImage.tryWallet a r = opened at hdecision ⊢
      cases opened with
      | ok result => exact hdecision
      | error err => cases hdecision
    · rw [hdecision, if_neg (by simpa using hshort)]
      exact hsub
  | subscriptionFirst =>
    rw [← chargeFirst_choice zone now (listed_active a r.userId now) hfresh rfl,
      AsyncImage.trySubscription]
    cases hwalk : chargeFirst zone now r (activeSubscriptions a r.userId now) a with
    | error err => rfl
    | ok charged =>
      cases charged with
      | charged s b => rfl
      | exhausted b =>
        -- The walk may have stored resets; the flags and the wallet are as before.
        obtain ⟨hflags, hframe⟩ :=
          chargeFirst_exhausted_flags (listed_active a r.userId now) hwalk r.userId now
        have hany : ((b.subscriptions.rows.filter (isActiveFor r.userId now)).filter
            (·.allowWalletOverflow)).length = 0 ↔
            (overflowFlags b r.userId now).any (fun b => b) = false := by
          rw [List.length_eq_zero_iff, List.filter_eq_nil_iff, overflowFlags, List.any_map,
            List.any_eq_false]
          rfl
        have hempty : (b.subscriptions.rows.filter (isActiveFor r.userId now)).length = 0 ↔
            overflowFlags b r.userId now = [] := by
          rw [List.length_eq_zero_iff, overflowFlags, List.map_eq_nil_iff]
        simp only [hany, hempty, hflags]
        by_cases hnone : overflowFlags a r.userId now = []
        · rw [if_pos hnone, decide_eq_true hnone]
          exact hwallet b hframe.users
        rw [if_neg hnone, decide_eq_false hnone]
        cases (overflowFlags a r.userId now).any fun b => b with
        | true => exact hwallet b hframe.users
        | false => rfl

end Reservation

/-- No subscription has room, the wallet has the price, and of the active subscriptions one allows
the wallet to pay and one forbids it. -/
def Contested (zone now : Int) (a : Accounts) (user : User) (r : ChargeRequest)
    (preference : String) : Prop :=
  normalizeBillingPreference preference = .subscriptionFirst ∧
    (∀ s ∈ activeSubscriptions a r.userId now, Short zone now a r s) ∧
    r.amount ≤ user.quota ∧ true ∈ overflowFlags a r.userId now ∧
    false ∈ overflowFlags a r.userId now

theorem decideFunding_eq_iff {flags : List Bool} {choice : Except ChargeError (Option Nat)}
    {covered : Bool} {preference : BillingPreference} :
    decideFunding (flags.all fun b => b) choice covered preference =
        decideFunding (decide (flags = []) || flags.any fun b => b) choice covered preference ↔
      ¬(preference = .subscriptionFirst ∧ choice = .ok none ∧ covered = true ∧ true ∈ flags ∧
        false ∈ flags) := by
  cases preference with
  | walletOnly => simp [decideFunding]
  | subscriptionOnly => simp [decideFunding]
  | walletFirst => simp [decideFunding]
  | subscriptionFirst =>
    rcases choice with err | (_ | id)
    · simp [decideFunding]
    · cases covered with
      | false => simp [decideFunding]
      | true =>
        cases flags with
        | nil => simp
        | cons b bs => cases b <;> simp [decideFunding]
    · simp [decideFunding]

/-- The session and the reservation make the same decision, unless it is contested. -/
theorem decisions_agree_iff {e : OpenEnv} {a : Accounts} {info : RelayInfo} {user : User}
    {r : ChargeRequest} (h : Faced e a info user r) :
    sessionDecision (newBillingSession e a info r.amount) =
        reservationDecision (AsyncImage.reserveAsyncImageFunding e.zone e.now a r
          info.billingPreference) ↔
      ¬Contested e.zone e.now a user r info.billingPreference := by
  have hsame := h.sameUser
  rw [newBillingSession_decision h, reserve_decision (hsame ▸ h.stored) h.freshTask, ← hsame,
    decideFunding_eq_iff, firstWithRoom_none_iff, decide_eq_true_eq]
  rfl

def spentSubscription (id : Nat) (hid : 0 < id) (allowWalletOverflow : Bool) : UserSubscription :=
  ⟨id, 1, 1, 50, 50, 0, 1000000, .active, 0, 0, allowWalletOverflow, hid, by decide⟩

def spentAccounts (overflow₁ overflow₂ : Bool) : Accounts where
  users := .single ⟨1, 100⟩
  tokens := .single ⟨1, 1, 80, 0, false, Nat.one_pos⟩
  subscriptions := .pair (spentSubscription 1 Nat.one_pos overflow₁)
    (spentSubscription 2 Nat.two_pos overflow₂)
  plans := .single ⟨1, "never", 0⟩

def spentEnv : OpenEnv where
  now := 10
  trustQuota := 1000
  tokenQuota := 80
  userQuota := some 100

def spentInfo : RelayInfo where
  userId := 1
  tokenId := 1
  requestId := "req"

theorem spent_faced (overflow₁ overflow₂ : Bool) :
    Faced spentEnv (spentAccounts overflow₁ overflow₂) spentInfo ⟨1, 100⟩
      ⟨"task", 1, 10, by decide⟩ where
  named := by decide
  stored := rfl
  quota := rfl
  sameUser := rfl
  request := by decide
  fresh := rfl
  freshTask := rfl
  walletToken := by decide
  walletWrite := rfl
  subscriptionToken := by decide
  subscriptionWrite := rfl
  activeQuery := rfl
  overflowQuery := rfl

theorem decisions_agree_sample :
    sessionDecision (newBillingSession spentEnv (spentAccounts true true) spentInfo 10) = .wallet ∧
      sessionDecision (newBillingSession spentEnv (spentAccounts true true) spentInfo 10) =
        reservationDecision (AsyncImage.reserveAsyncImageFunding 0 10 (spentAccounts true true)
          ⟨"task", 1, 10, by decide⟩ "") := by
  refine ⟨by decide, (decisions_agree_iff (spent_faced true true)).mpr ?_⟩
  rintro ⟨-, -, -, -, hforbids⟩
  exact absurd hforbids (by decide)

/-- One subscription forbids it: the session refuses, the reservation charges the wallet. -/
theorem decisions_differ :
    Faced spentEnv (spentAccounts true false) spentInfo ⟨1, 100⟩ ⟨"task", 1, 10, by decide⟩ ∧
      sessionDecision (newBillingSession spentEnv (spentAccounts true false) spentInfo 10) =
        .reject ∧
      reservationDecision (AsyncImage.reserveAsyncImageFunding 0 10 (spentAccounts true false)
          ⟨"task", 1, 10, by decide⟩ "") = .wallet :=
  ⟨spent_faced true false, by decide, by decide⟩

end ZModel.Billing
