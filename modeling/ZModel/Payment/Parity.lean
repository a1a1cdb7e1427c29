import Mathlib.Algebra.Order.Field.Rat
import ZModel.Payment.Recharge

/-!
# Manual completion and webhooks

Both credit the units of the order for Epay and Waffo. For Stripe the store rounds the fractional
quota of the webhook; for Creem only the webhook knows that the amount is the quota.
-/

namespace ZModel.Payment

open Lib Store

variable {db : Db} {q : Int} {t : TopUp}

variable {cfg : PaymentSettings}

inductive Created (cfg : PaymentSettings) (t : TopUp) : Prop where
  | epay (e : OrderEnv) (amount : Int) (method : String)
      (h : requestEpay cfg e amount method = .ok t)
  | stripe (e : OrderEnv) (amount : Int) (method : String)
      (h : requestStripePay cfg e amount method = .ok t)
  | creem (e : OrderEnv) (productId method : String)
      (h : requestCreemPay cfg e productId method = .ok t)
  | waffo (e : OrderEnv) (amount : Int) (m : WaffoPayMethod)
      (h : requestWaffoPay cfg e amount m = .ok t)
  | waffoPancake (e : OrderEnv) (amount : Int) (h : requestWaffoPancakePay cfg e amount = .ok t)

def afterManual (cfg : PaymentSettings) (now : Int) (db : Db) (t : TopUp) : Db :=
  commit db ((manualCompleteTopUp cfg).run now .done db t.tradeNo)

def afterWebhook (cfg : PaymentSettings) (round : ColumnRounding) (now : Int) (db : Db)
    (t : TopUp) : Db :=
  match t.paymentProvider with
  | .epay => ((epayNotify cfg t.tradeNo t.paymentMethod).eval (machine cfg) 0 ⟨now, .done⟩ db).2
  | .stripe => commit db ((recharge cfg round).run now .done db t.tradeNo)
  | .creem => commit db (rechargeCreem.run now .done db t.tradeNo)
  | .waffo => commit db ((rechargeWaffo cfg).run now .done db t.tradeNo)
  | .waffoPancake => commit db ((rechargeWaffoPancake cfg).run now .done db t.tradeNo)

theorem insertOrder_ok {e : OrderEnv} {t' : TopUp} (h : insertOrder e t = .ok t') : t' = t := by
  unfold insertOrder at h
  split at h
  · cases h
    rfl
  · cases h

theorem Created.fresh (h : Created cfg t) : t.status = .pending ∧ t.tradeNo ≠ "" := by
  cases h with
  | epay e amount method h =>
    unfold requestEpay at h
    split at h
    · cases h
    split at h
    · cases h
    split_ifs at h
    rw [insertOrder_ok h]
    exact ⟨rfl, e.tradeNo_ne⟩
  | stripe e amount method h =>
    unfold requestStripePay at h
    split_ifs at h
    rw [insertOrder_ok h]
    exact ⟨rfl, e.tradeNo_ne⟩
  | creem e productId method h =>
    unfold requestCreemPay at h
    split_ifs at h
    split at h
    · cases h
    · rw [insertOrder_ok h]
      exact ⟨rfl, e.tradeNo_ne⟩
  | waffo e amount m h =>
    unfold requestWaffoPay at h
    split_ifs at h
    rw [insertOrder_ok h]
    exact ⟨rfl, e.tradeNo_ne⟩
  | waffoPancake e amount h =>
    unfold requestWaffoPancakePay at h
    split at h
    · cases h
    split at h
    · cases h
    split_ifs at h
    rw [insertOrder_ok h]
    exact ⟨rfl, e.tradeNo_ne⟩

theorem userQuota_credit (hq : db.accounts.userQuota t.userId = some q) (quota : Int) :
    (db.credit t quota).accounts.userQuota t.userId = some (q + quota) := by
  simp [Db.credit, Accounts.userQuota_addUserQuota, hq]

def Completion.credited (c : Completion) (t : TopUp) : Int :=
  if c.positive then max 0 (c.quota t) else c.quota t

theorem userQuota_complete {c : Completion} (ht : db.orders.find? t.tradeNo = some t)
    (hpending : t.status = .pending) (hne : t.tradeNo ≠ "")
    (hprovider : c.provider = none ∨ c.provider = some t.paymentProvider)
    (hq : db.accounts.userQuota t.userId = some q) (now : Int) :
    (commit db (c.run now .done db t.tradeNo)).accounts.userQuota t.userId =
      some (q + c.credited t) := by
  have haccepted : ¬(c.provider ≠ none ∧ c.provider ≠ some t.paymentProvider) := by tauto
  unfold Completion.run
  rw [if_neg hne, ht]
  simp only [if_neg haccepted, hpending]
  by_cases hpositive : c.positive = true ∧ c.quota t ≤ 0
  · rw [if_pos hpositive, Completion.credited, if_pos hpositive.1, max_eq_left hpositive.2, add_zero]
    exact hq
  have hcredited : c.credited t = c.quota t := by
    unfold Completion.credited
    split
    next hc =>
      exact max_eq_right (Int.le_of_not_le fun h => hpositive ⟨hc, h⟩)
    · rfl
  rw [if_neg hpositive, hcredited]
  exact userQuota_credit (t := { t with completeTime := now, status := .success }) hq _

theorem userQuota_epay (ht : db.orders.find? t.tradeNo = some t) (hpending : t.status = .pending)
    (hprovider : t.paymentProvider = .epay) (hq : db.accounts.userQuota t.userId = some q)
    (type : String) (now : Int) :
    ((epayNotify cfg t.tradeNo type).eval (machine cfg) 0 ⟨now, .done⟩
      db).2.accounts.userQuota t.userId = some (q + max 0 (amountQuota cfg t)) := by
  unfold epayNotify completeEpay
  simp only [Program.eval_bind, Program.eval_call, machine, exec, ht, hprovider, hpending, ne_eq,
    not_true, if_false, if_true, amountQuota, increaseUserQuota, writeQuota]
  by_cases hneg : truncate (t.amount * cfg.quotaPerUnit) < 0
  · simp only [if_pos hneg, max_eq_left hneg.le, add_zero]
    exact hq
  simp only [if_neg hneg, max_eq_right (Int.not_lt.mp hneg)]
  exact userQuota_credit (t := { t with
    paymentMethod := type, paymentProvider := .epay, status := .success }) hq _

def webhookCredit (cfg : PaymentSettings) (round : ColumnRounding) (t : TopUp) : Int :=
  match t.paymentProvider with
  | .epay | .waffo | .waffoPancake => max 0 (amountQuota cfg t)
  | .stripe => round.toInt (moneyQuota cfg t)
  | .creem => t.amount

theorem userQuota_afterWebhook (ht : db.orders.find? t.tradeNo = some t)
    (hpending : t.status = .pending) (hne : t.tradeNo ≠ "")
    (hq : db.accounts.userQuota t.userId = some q) (now : Int) (round : ColumnRounding) :
    (afterWebhook cfg round now db t).accounts.userQuota t.userId =
      some (q + webhookCredit cfg round t) := by
  have hcomplete : ∀ c : Completion, c.provider = some t.paymentProvider → _ :=
    fun c hc => userQuota_complete ht hpending hne (.inr hc) hq now
  unfold afterWebhook webhookCredit
  cases hp : t.paymentProvider with
  | epay => exact userQuota_epay ht hpending hp hq t.paymentMethod now
  | stripe => exact hcomplete (recharge cfg round) (by rw [hp]; rfl)
  | creem => exact hcomplete rechargeCreem (by rw [hp]; rfl)
  | waffo => exact hcomplete (rechargeWaffo cfg) (by rw [hp]; rfl)
  | waffoPancake => exact hcomplete (rechargeWaffoPancake cfg) (by rw [hp]; rfl)

/-- The orders whose amount counts units; for Stripe those whose fractional quota becomes its whole
part; for Creem those of no quota, or where a unit is one quota or hardly more. -/
def CreditsAgree (cfg : PaymentSettings) (round : ColumnRounding) (t : TopUp) : Prop :=
  match t.paymentProvider with
  | .stripe => round.toInt (t.money * cfg.quotaPerUnit) =
      max 0 (truncate (t.money * cfg.quotaPerUnit))
  | .creem => t.amount = 0 ∨
      0 < t.amount ∧ 1 ≤ cfg.quotaPerUnit ∧ t.amount * (cfg.quotaPerUnit - 1) < 1
  | _ => True

theorem truncate_mul_eq_iff {a : Int} (ha : 0 < a) (u : ℚ) :
    truncate (a * u) = a ↔ 1 ≤ u ∧ a * (u - 1) < 1 := by
  have hpos : (0 : ℚ) < a := by exact_mod_cast ha
  rw [truncate_eq_iff ha]
  constructor
  · rintro ⟨hle, hlt⟩
    exact ⟨by nlinarith, by linarith⟩
  · rintro ⟨hle, hlt⟩
    exact ⟨by nlinarith, by linarith⟩

theorem max_truncate_mul_eq_iff (a : Int) (u : ℚ) :
    max 0 (truncate (a * u)) = a ↔ a = 0 ∨ 0 < a ∧ 1 ≤ u ∧ a * (u - 1) < 1 := by
  obtain hneg | rfl | hpos := lt_trichotomy a 0
  · -- No credit is negative.
    constructor <;> intro h <;> omega
  · simp [truncate]
  · rw [← truncate_mul_eq_iff hpos]
    constructor <;> intro h <;> omega

/-- The manual completion of a created order credits what its provider's webhook would have credited
exactly if the order is one for which the two agree. -/
theorem manual_eq_webhook_iff (cfg : PaymentSettings) (round : ColumnRounding) {t : TopUp}
    (hcreated : Created cfg t) {db : Db} (ht : db.orders.find? t.tradeNo = some t) {q : Int}
    (hq : db.accounts.userQuota t.userId = some q) (now : Int) :
    (afterManual cfg now db t).accounts.userQuota t.userId =
      (afterWebhook cfg round now db t).accounts.userQuota t.userId ↔ CreditsAgree cfg round t := by
  obtain ⟨hpending, hne⟩ := hcreated.fresh
  rw [afterManual, userQuota_complete ht hpending hne (.inl rfl) hq,
    userQuota_afterWebhook ht hpending hne hq, Option.some.injEq, Int.add_right_inj]
  have hmanual : (manualCompleteTopUp cfg).credited t = max 0 (if t.paymentProvider = .stripe then
      truncate (moneyQuota cfg t) else amountQuota cfg t) := rfl
  rw [hmanual]
  unfold webhookCredit CreditsAgree
  cases hp : t.paymentProvider with
  | epay | waffo | waffoPancake => simp
  | stripe => simp [moneyQuota, eq_comm]
  | creem =>
    exact max_truncate_mul_eq_iff t.amount cfg.quotaPerUnit

def oneProduct : PaymentSettings := { creemProducts := [⟨"prod", 10, 5000000⟩] }

def buyer : OrderEnv where
  userId := 1
  group := some "default"
  tradeNo := "T"
  now := 0
  gateway := true
  insert := .done
  tradeNo_ne := by decide

def creemOrder : TopUp where
  tradeNo := "T"
  userId := 1
  amount := 5000000
  money := 10
  paymentMethod := "creem"
  paymentProvider := .creem
  createTime := 0

def creemDb : Db where
  orders := .single creemOrder
  accounts := { users := .single ⟨1, 0⟩ }

def wholePart : ColumnRounding where
  toInt := truncate
  whole := truncate_intCast

/-- The manual completion credits half a million times as much as the webhook. -/
theorem manual_ne_webhook_creem : requestCreemPay oneProduct buyer "prod" "creem" = .ok creemOrder ∧
    (afterWebhook oneProduct wholePart 1 creemDb creemOrder).accounts.userQuota 1 = some 5000000 ∧
    (afterManual oneProduct 1 creemDb creemOrder).accounts.userQuota 1 = some 2500000000000 := by
  refine ⟨?_, ?_, ?_⟩ <;> decide +kernel

def epayOrder : TopUp where
  tradeNo := "T"
  userId := 1
  amount := 10
  money := 73
  paymentMethod := "alipay"
  paymentProvider := .epay
  createTime := 0

def epayDb : Db where
  orders := .single epayOrder
  accounts := { users := .single ⟨1, 0⟩ }

theorem manual_eq_webhook_epay :
    (afterManual {} 1 epayDb epayOrder).accounts.userQuota 1 =
      (afterWebhook {} wholePart 1 epayDb epayOrder).accounts.userQuota 1 := by
  have hcreated : Created {} epayOrder := .epay buyer 10 "alipay" (by decide +kernel)
  have hstored : epayDb.orders.find? epayOrder.tradeNo = some epayOrder := rfl
  have hquota : epayDb.accounts.userQuota epayOrder.userId = some 0 := rfl
  exact (manual_eq_webhook_iff {} wholePart hcreated hstored hquota 1).mpr trivial

end ZModel.Payment
