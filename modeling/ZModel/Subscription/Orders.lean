import Mathlib.Algebra.Order.Floor.Ring
import ZModel.Lib.Locking
import ZModel.Payment.Order
import ZModel.Subscription.Groups

/-!
# Buying a subscription

Paid orders, purchases from the balance and grants share `CreateUserSubscriptionFromPlanTx`. Only
the row of an order, or of the user who pays, is locked.
-/

namespace ZModel.Subscription

open Lib
open Store (SubscriptionStatus SubscriptionPlan)
open Payment (TopUpStatus)

structure PurchasePlan extends GroupPlan where
  priceAmount : ℚ := 0
  enabled : Bool := true
  allowBalancePay : Option Bool := none
  allowWalletOverflow : Option Bool := none
  totalAmount : Int := 0
  quotaResetPeriod : String := "never"
  quotaResetCustomSeconds : Int := 0

instance : Keyed PurchasePlan Nat := ⟨fun plan => plan.id⟩

def PurchasePlan.resets (plan : PurchasePlan) : SubscriptionPlan :=
  ⟨plan.id, plan.quotaResetPeriod, plan.quotaResetCustomSeconds⟩

inductive PurchaseSource where
  | order
  | balance
  | admin
  deriving DecidableEq

structure CreatedSubscription where
  userId : Nat
  planId : Nat
  amountTotal : Int
  amountUsed : Int := 0
  startTime : Int
  endTime : Int
  status : SubscriptionStatus := .active
  source : PurchaseSource
  lastResetTime : Int
  nextResetTime : Int
  upgradeGroup : String
  prevUserGroup : String
  downgradeGroup : String
  allowWalletOverflow : Bool
  counted : Nat

structure SubscriptionOrder where
  tradeNo : String
  userId : Nat
  planId : Nat
  money : ℚ
  paymentMethod : String
  paymentProvider : String
  status : TopUpStatus := .pending
  createTime : Int
  completeTime : Int := 0
  providerPayload : String := ""

structure Bill where
  tradeNo : String
  userId : Nat
  amount : Int := 0
  money : ℚ
  paymentMethod : String
  createTime : Int
  completeTime : Int
  status : TopUpStatus

instance : Keyed SubscriptionOrder String := ⟨SubscriptionOrder.tradeNo⟩
instance : Keyed Bill String := ⟨Bill.tradeNo⟩

structure PurchaseDb where
  subscriptions : List CreatedSubscription := []
  orders : Table SubscriptionOrder := .empty
  topUps : Table Bill := .empty
  group : Nat → Option String := fun _ => none
  quota : Nat → Option Int := fun _ => none

inductive RowLock where
  | order (tradeNo : String)
  | user (id : Nat)
  deriving DecidableEq

inductive PurchaseError where
  | tradeNoEmpty
  | orderNotFound
  | paymentMethodMismatch
  | orderStatusInvalid
  | planNotFound
  | invalidPlan
  | invalidUserId
  | purchaseLimit
  | invalidDuration
  | invalidUserOrPlanId
  | planDisabled
  | negativePrice
  | balanceNotAllowed
  | quotaUnit
  | userNotFound
  | insufficientBalance
  | duplicateKey

structure PurchaseSettings where
  plans : Table PurchasePlan
  zone : Int := 0
  quotaPerUnit : ℚ := 500000

abbrev PurchaseTx := Tx RowLock PurchaseDb PurchaseError

namespace PurchaseDb

section

variable (db : PurchaseDb)

def number (user plan : Nat) : Nat :=
  db.subscriptions.countP fun s => s.userId = user && s.planId = plan

def userGroup (user : Nat) : String := (db.group user).getD ""

def setGroup (user : Nat) (target : String) : PurchaseDb :=
  { db with group := fun u => if u = user then (db.group u).map fun _ => target else db.group u }

def takeQuota (user : Nat) (quota : Int) : PurchaseDb :=
  { db with quota := fun u => if u = user then (db.quota u).map (· - quota) else db.quota u }

def insertSubscription (s : CreatedSubscription) : PurchaseDb :=
  { db with subscriptions := db.subscriptions ++ [s] }

def insertTopUp (b : Bill) : PurchaseDb :=
  { db with topUps := (db.topUps.create b).getD db.topUps }

def saveTopUp (b : Bill) : PurchaseDb := { db with topUps := db.topUps.put b }

def insertOrder (o : SubscriptionOrder) : PurchaseDb :=
  { db with orders := (db.orders.create o).getD db.orders }

def saveOrder (o : SubscriptionOrder) : PurchaseDb :=
  { db with orders := db.orders.put o }

end

end PurchaseDb

def countPurchases (userId : Nat) (plan : PurchasePlan) : PurchaseTx Nat :=
  if 0 < plan.maxPurchasePerUser then do
    let count ← Tx.select fun db => db.number userId plan.id
    Tx.require ((count : Int) < plan.maxPurchasePerUser) PurchaseError.purchaseLimit
    return count
  else return 0

def upgradeUserGroup (userId : Nat) (upgradeGroup : String) : PurchaseTx String :=
  if upgradeGroup = "" then return ""
  else do
    let currentGroup ← Tx.select fun db => db.userGroup userId
    if currentGroup = upgradeGroup then return ""
    else do
      Tx.update fun db => db.setGroup userId upgradeGroup
      return currentGroup

variable (cfg : PurchaseSettings)

def createUserSubscriptionFromPlanTx (now : Int) (userId : Nat)
    (plan : PurchasePlan) (source : PurchaseSource) : PurchaseTx Unit := do
  Tx.require (plan.id ≠ 0) PurchaseError.invalidPlan
  Tx.require (userId ≠ 0) PurchaseError.invalidUserId
  let counted ← countPurchases userId plan
  let endTime ← Tx.ofOption PurchaseError.invalidDuration
    (calcPlanEndTime { now := now, zone := cfg.zone } plan.toGroupPlan)
  let nextReset := calcNextResetTime cfg.zone now plan.resets endTime
  let prevGroup ← upgradeUserGroup userId (trimSpace plan.upgradeGroup)
  Tx.update fun db => db.insertSubscription
    { userId, planId := plan.id, amountTotal := plan.totalAmount, startTime := now, endTime, source
      lastResetTime := if 0 < nextReset then now else 0, nextResetTime := nextReset
      upgradeGroup := trimSpace plan.upgradeGroup, prevUserGroup := prevGroup
      downgradeGroup := trimSpace plan.downgradeGroup
      allowWalletOverflow := plan.allowWalletOverflow.getD true, counted }

variable (order : SubscriptionOrder)

def SubscriptionOrder.newBill (now : Int) : Bill where
  tradeNo := order.tradeNo
  userId := order.userId
  money := order.money
  paymentMethod := order.paymentMethod
  createTime := order.createTime
  completeTime := now
  status := .success

def upsertSubscriptionTopUpTx (now : Int) (order : SubscriptionOrder) : PurchaseTx Unit := do
  let found ← Tx.select fun db => db.topUps.find? order.tradeNo
  match found with
  | none => do
    let free ← Tx.updateReturning (fun db => db.insertTopUp (order.newBill now))
      fun db => (db.topUps.find? order.tradeNo).isNone
    Tx.require free PurchaseError.duplicateKey
  | some topUp => do
    Tx.require (topUp.paymentMethod = "" ∨ topUp.paymentMethod = order.paymentMethod)
      PurchaseError.paymentMethodMismatch
    Tx.update fun db => db.saveTopUp
      { topUp with
        money := order.money, paymentMethod := order.paymentMethod
        createTime := if topUp.createTime = 0 then order.createTime else topUp.createTime
        completeTime := now, status := .success }

structure SuccessCallback where
  providerPayload : String := ""
  expectedPaymentProvider : String
  actualPaymentMethod : String := ""
  now : Int
  topUpAt : Int
  completedAt : Int

def SubscriptionOrder.complete (c : SuccessCallback) : SubscriptionOrder :=
  { order with
    status := .success
    completeTime := c.completedAt
    providerPayload := if c.providerPayload ≠ "" then c.providerPayload else order.providerPayload
    paymentMethod :=
      if c.actualPaymentMethod ≠ "" then c.actualPaymentMethod else order.paymentMethod }

def completePending (c : SuccessCallback) : PurchaseTx Unit := do
  Tx.require (order.status = .pending) PurchaseError.orderStatusInvalid
  let plan ← Tx.ofOption PurchaseError.planNotFound (cfg.plans.find? order.planId)
  createUserSubscriptionFromPlanTx cfg c.now order.userId plan .order
  upsertSubscriptionTopUpTx c.topUpAt order
  Tx.update fun db => db.saveOrder (order.complete c)

def completeSubscriptionOrder (tradeNo : String) (c : SuccessCallback) : PurchaseTx Unit :=
  if tradeNo = "" then .fail .tradeNoEmpty
  else do
    let found ← Tx.selectForUpdate (.order tradeNo) fun db => db.orders.find? tradeNo
    let order ← Tx.ofOption PurchaseError.orderNotFound found
    Tx.require (c.expectedPaymentProvider = "" ∨ order.paymentProvider = c.expectedPaymentProvider)
      PurchaseError.paymentMethodMismatch
    if order.status = .success then return ()
    else completePending cfg order c

def expireSubscriptionOrder (tradeNo expectedPaymentProvider : String) (now : Int) :
    PurchaseTx Unit :=
  if tradeNo = "" then .fail .tradeNoEmpty
  else do
    let found ← Tx.selectForUpdate (.order tradeNo) fun db => db.orders.find? tradeNo
    let order ← Tx.ofOption PurchaseError.orderNotFound found
    Tx.require (expectedPaymentProvider = "" ∨ order.paymentProvider = expectedPaymentProvider)
      PurchaseError.paymentMethodMismatch
    if order.status = .pending then
      Tx.update fun db => db.saveOrder { order with status := .expired, completeTime := now }
    else return ()

def adminBindSubscription (now : Int) (userId planId : Nat) : PurchaseTx Unit := do
  Tx.require (userId ≠ 0 ∧ planId ≠ 0) PurchaseError.invalidUserOrPlanId
  let plan ← Tx.ofOption PurchaseError.planNotFound (cfg.plans.find? planId)
  createUserSubscriptionFromPlanTx cfg now userId plan .admin

def calcSubscriptionBalanceQuota (priceAmount : ℚ) : Option Int :=
  if priceAmount ≤ 0 then some 0
  else if cfg.quotaPerUnit ≤ 0 then none
  else some ⌈priceAmount * cfg.quotaPerUnit⌉

def chargeBalance (userId : Nat) (required : Int) : PurchaseTx Unit :=
  if 0 < required then Tx.update fun db => db.takeQuota userId required else return ()

def purchaseSubscriptionWithBalance (now orderedAt : Int)
    (tradeNo providerPayload : String) (userId planId : Nat) : PurchaseTx Unit := do
  Tx.require (userId ≠ 0 ∧ planId ≠ 0) PurchaseError.invalidUserOrPlanId
  let plan ← Tx.ofOption PurchaseError.planNotFound (cfg.plans.find? planId)
  Tx.require plan.enabled PurchaseError.planDisabled
  Tx.require (0 ≤ plan.priceAmount) PurchaseError.negativePrice
  Tx.require (plan.allowBalancePay ≠ some false) PurchaseError.balanceNotAllowed
  let required ← Tx.ofOption PurchaseError.quotaUnit
    (calcSubscriptionBalanceQuota cfg plan.priceAmount)
  let found ← Tx.selectForUpdate (.user userId) fun db => db.quota userId
  let quota ← Tx.ofOption PurchaseError.userNotFound found
  Tx.require (0 < required → required ≤ quota) PurchaseError.insufficientBalance
  chargeBalance userId required
  createUserSubscriptionFromPlanTx cfg now userId plan .balance
  let order : SubscriptionOrder :=
    { tradeNo, userId, planId := plan.id, money := plan.priceAmount, paymentMethod := "balance"
      paymentProvider := "balance", status := .success, createTime := orderedAt
      completeTime := orderedAt, providerPayload }
  let free ← Tx.updateReturning (fun db => db.insertOrder order)
    fun db => (db.orders.find? order.tradeNo).isNone
  Tx.require free PurchaseError.duplicateKey

/-- An order to be paid by Stripe, and the callback that it was paid. -/
def paidOrder (tradeNo : String) : SubscriptionOrder where
  tradeNo := tradeNo
  userId := 1
  planId := 1
  money := 1
  paymentMethod := "stripe"
  paymentProvider := "stripe"
  createTime := 1000

def paidCallback : SuccessCallback :=
  { expectedPaymentProvider := "stripe", now := 2000, topUpAt := 2000, completedAt := 2000 }

end ZModel.Subscription
