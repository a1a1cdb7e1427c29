import ZModel.Payment.Parity

/-!
# Top-ups in tokens

In the token display an Epay order is priced by the number of tokens, but it stores the whole number
of units. What does not fill a unit is paid and not credited.
-/

namespace ZModel.Payment

open Lib Store

theorem truncate_units_eq_iff (a : Int) (u : ℚ) :
    max 0 (truncate (truncate (a / u) * u)) = a ↔ 0 ≤ a ∧ ∃ k : Int, (a : ℚ) = k * u := by
  constructor
  · intro h
    have ha : 0 ≤ a := by omega
    refine ⟨ha, ?_⟩
    obtain rfl | hpos := ha.eq_or_lt
    · exact ⟨0, by simp⟩
    have hunits : truncate (truncate (a / u) * u) = a := by omega
    obtain ⟨hle, -⟩ := (truncate_eq_iff hpos).mp hunits
    refine ⟨truncate (a / u), le_antisymm hle ?_⟩
    have hposq : (0 : ℚ) < a := by exact_mod_cast hpos
    -- The whole part lies between 0 and the quotient, so its units are not more than `a`.
    obtain hneg | rfl | hu := lt_trichotomy u 0
    · have hquot : (a : ℚ) / u < 0 := div_neg_of_pos_of_neg hposq hneg
      rw [truncate, if_neg (not_le.mpr hquot)]
      have hceil := Int.le_ceil ((a : ℚ) / u)
      calc (⌈(a : ℚ) / u⌉ : ℚ) * u ≤ a / u * u := mul_le_mul_of_nonpos_right hceil hneg.le
        _ = a := div_mul_cancel₀ _ hneg.ne
    · rw [mul_zero] at hle ⊢
      exact hposq.le
    have hquot : (0 : ℚ) ≤ a / u := (div_pos hposq hu).le
    rw [truncate_of_nonneg hquot]
    have hfloor := Int.floor_le ((a : ℚ) / u)
    calc (⌊(a : ℚ) / u⌋ : ℚ) * u ≤ a / u * u := mul_le_mul_of_nonneg_right hfloor hu.le
      _ = a := div_mul_cancel₀ _ hu.ne'
  rintro ⟨ha, k, hk⟩
  by_cases hu : u = 0
  · rw [hu, mul_zero] at hk
    obtain rfl : a = 0 := by exact_mod_cast hk
    simp [truncate]
  · have hunits : (a : ℚ) / u = k := by rw [hk, mul_div_cancel_right₀ _ hu]
    rw [hunits, truncate_intCast, ← hk, truncate_intCast]
    exact max_eq_right ha

theorem requestEpay_ok {cfg : PaymentSettings} {e : OrderEnv} {amount : Int} {method : String}
    {t : TopUp} (h : requestEpay cfg e amount method = .ok t) :
    t.amount = epayAmount cfg amount ∧ t.paymentProvider = .epay ∧ t.status = .pending := by
  unfold requestEpay at h
  split at h
  · cases h
  split at h
  · cases h
  split_ifs at h
  rw [insertOrder_ok h]
  exact ⟨rfl, rfl, rfl⟩

/-- The callback for an accepted order credits the number of tokens that was priced exactly if they
fill a whole number of units. -/
theorem epay_tokens_credited_iff (cfg : PaymentSettings) (hdisplay : cfg.displayTokens = true)
    {e : OrderEnv} {amount : Int} {method : String} {t : TopUp}
    (haccepted : requestEpay cfg e amount method = .ok t) {db : Db}
    (ht : db.orders.find? t.tradeNo = some t) {q : Int}
    (hq : db.accounts.userQuota t.userId = some q) (type : String) (now : Int) :
    ((epayNotify cfg t.tradeNo type).eval (machine cfg) 0 ⟨now, .done⟩ db).2.accounts.userQuota
        t.userId = some (q + amount) ↔
      0 ≤ amount ∧ ∃ units : Int, (amount : ℚ) = units * cfg.quotaPerUnit := by
  obtain ⟨hamount, hprovider, hpending⟩ := requestEpay_ok haccepted
  rw [userQuota_epay ht hpending hprovider hq, Option.some.injEq, Int.add_right_inj]
  unfold amountQuota
  rw [hamount, epayAmount, if_pos hdisplay]
  exact truncate_units_eq_iff amount cfg.quotaPerUnit

def tokenDisplay : PaymentSettings := { displayTokens := true }

def tokenOrder (units : Int) (money : ℚ) : TopUp where
  tradeNo := "T"
  userId := 1
  amount := units
  money := money
  paymentMethod := "alipay"
  paymentProvider := .epay
  createTime := 0

def withOrder (t : TopUp) : Db where
  orders := ⟨[t], List.nodup_singleton _⟩
  accounts := { users := .single ⟨1, 0⟩ }

theorem epay_tokens_credited_million :
    ((epayNotify tokenDisplay "T" "alipay").eval (machine tokenDisplay) 0 ⟨1, .done⟩
      (withOrder (tokenOrder 2 (73 / 5)))).2.accounts.userQuota 1 = some (0 + 1000000) := by
  have haccepted : requestEpay tokenDisplay buyer 1000000 "alipay" =
      .ok (tokenOrder 2 (73 / 5)) := by decide +kernel
  have hstored : (withOrder (tokenOrder 2 (73 / 5))).orders.find? "T" =
      some (tokenOrder 2 (73 / 5)) := rfl
  refine (epay_tokens_credited_iff tokenDisplay rfl haccepted hstored rfl "alipay" 1).mpr
    ⟨by decide, 2, ?_⟩
  norm_num [tokenDisplay]

/-- Three quarters of a million are paid for, and half a million are credited. -/
theorem epay_tokens_lost :
    requestEpay tokenDisplay buyer 750000 "alipay" = .ok (tokenOrder 1 (219 / 20)) ∧
      getPayMoney tokenDisplay 750000 "default" = 3 / 2 * getPayMoney tokenDisplay 500000 "default" ∧
      ((epayNotify tokenDisplay "T" "alipay").eval (machine tokenDisplay) 0 ⟨1, .done⟩
        (withOrder (tokenOrder 1 (219 / 20)))).2.accounts.userQuota 1 = some 500000 := by
  decide +kernel

end ZModel.Payment
