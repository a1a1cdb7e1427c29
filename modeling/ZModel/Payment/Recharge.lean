import ZModel.Lib.Program
import ZModel.Lib.Transaction
import ZModel.Payment.Order

/-!
# Completing a top-up order

The success webhooks of the five providers, the manual completion and `UpdatePendingTopUpStatus`.
Only the Epay callback is a program of separate writes, under an in-process lock.
-/

namespace ZModel.Payment

open Lib Store

structure Db where
  orders : Table TopUp
  accounts : Accounts
  locks : List (Nat × String) := []
  credits : List String := []

def Db.status (db : Db) (tradeNo : String) : Option TopUpStatus :=
  (db.orders.find? tradeNo).map TopUp.status

def Db.credit (db : Db) (t : TopUp) (quota : Int) : Db :=
  { db with accounts := db.accounts.addUserQuota t.userId quota
            credits := t.tradeNo :: db.credits }

/-- How one of the completing transactions differs from the others. -/
structure Completion where
  provider : Option PaymentProvider
  idempotent : Bool
  quota : TopUp → Int
  positive : Bool
  noTradeNo : String := "未提供支付单号"
  notPending : String := "充值订单状态错误"

def Completion.run (c : Completion) (now : Int) (w : Write) (db : Db) (tradeNo : String) :
    Except String Db :=
  if tradeNo = "" then .error c.noTradeNo
  else match db.orders.find? tradeNo with
    | none => .error "充值订单不存在"
    | some t =>
      if c.provider ≠ none ∧ c.provider ≠ some t.paymentProvider then
        .error "payment method mismatch"
      else if t.status = .success ∧ c.idempotent then .ok db
      else if t.status ≠ .pending then .error c.notPending
      else if c.positive ∧ c.quota t ≤ 0 then .error "无效的充值额度"
      else match w with
        | .fails => .error "write failed"
        | .done =>
          let t' := { t with completeTime := now, status := .success }
          .ok ({ db with orders := db.orders.put t' }.credit t' (c.quota t))

section

variable (cfg : PaymentSettings)

def amountQuota (t : TopUp) : Int := truncate (t.amount * cfg.quotaPerUnit)

def moneyQuota (t : TopUp) : ℚ := t.money * cfg.quotaPerUnit

def manualCompleteTopUp : Completion where
  provider := none
  idempotent := true
  quota t := if t.paymentProvider = .stripe then truncate (moneyQuota cfg t) else amountQuota cfg t
  positive := true
  noTradeNo := "未提供订单号"
  notPending := "订单状态不是待支付，无法补单"

/-- What an integer column gains by an increment: of a column that rounds the sum to `R (quota + x)`
it is `R (quota + x) - quota`. -/
structure ColumnRounding where
  toInt : ℚ → Int
  whole : ∀ n : Int, toInt n = n

def recharge (round : ColumnRounding) : Completion where
  provider := some .stripe
  idempotent := false
  quota t := round.toInt (moneyQuota cfg t)
  positive := false

end

def rechargeCreem : Completion where
  provider := some .creem
  idempotent := false
  quota := TopUp.amount
  positive := false

def rechargeWaffo (cfg : PaymentSettings) : Completion where
  provider := some .waffo
  idempotent := true
  quota := amountQuota cfg
  positive := true

def rechargeWaffoPancake (cfg : PaymentSettings) : Completion where
  provider := some .waffoPancake
  idempotent := true
  quota := amountQuota cfg
  positive := true

def updatePendingTopUpStatus (w : Write) (db : Db) (tradeNo : String)
    (expected : Option PaymentProvider) (target : TopUpStatus) : Except String Db :=
  if tradeNo = "" then .error "未提供支付单号"
  else match db.orders.find? tradeNo with
    | none => .error "topup not found"
    | some t =>
      if expected ≠ none ∧ expected ≠ some t.paymentProvider then
        .error "payment method mismatch"
      else if t.status ≠ .pending then .error "topup status invalid"
      else match w with
        | .fails => .error "write failed"
        | .done => .ok { db with orders := db.orders.put { t with status := target } }

inductive Op where
  | lockOrder (tradeNo : String)
  | unlockOrder (tradeNo : String)
  | getTopUpByTradeNo (tradeNo : String)
  | update (t : TopUp)
  | increaseUserQuota (t : TopUp) (quota : Int)
  | manualCompleteTopUp (tradeNo : String)
  | updatePendingTopUpStatus (tradeNo : String) (expected : Option PaymentProvider)
      (target : TopUpStatus)

abbrev Op.Ret : Op → Type
  | .getTopUpByTradeNo _ => Option TopUp
  | .update _ => Bool
  | .increaseUserQuota _ _ => Bool
  | _ => Unit

structure Env where
  now : Int
  write : Write

section

variable (cfg : PaymentSettings)

def exec (node : Nat) : (o : Op) → Env → Db → o.Ret × Db
  | .lockOrder tradeNo, _, db => ((), { db with locks := (node, tradeNo) :: db.locks })
  | .unlockOrder tradeNo, _, db => ((), { db with locks := db.locks.erase (node, tradeNo) })
  | .getTopUpByTradeNo tradeNo, e, db =>
    (match e.write with
      | .done => db.orders.find? tradeNo
      | .fails => none, db)
  | .update t, e, db =>
    match e.write with
    | .done => (true, { db with orders := db.orders.put t })
    | .fails => (false, db)
  | .increaseUserQuota t quota, e, db =>
    match increaseUserQuota e.write db.accounts t.userId quota with
    | .ok _ => (true, db.credit t quota)
    | .error _ => (false, db)
  | .manualCompleteTopUp tradeNo, e, db =>
    ((), commit db ((manualCompleteTopUp cfg).run e.now e.write db tradeNo))
  | .updatePendingTopUpStatus tradeNo expected target, e, db =>
    ((), commit db (updatePendingTopUpStatus e.write db tradeNo expected target))

/-- `LockOrder` waits while its process holds the lock; a crash frees its locks. -/
def machine : Machine Op Op.Ret Env Db where
  exec := exec cfg
  enabled node o db := match o with
    | .lockOrder tradeNo => (node, tradeNo) ∉ db.locks
    | _ => true
  crash node db := { db with locks := db.locks.filter fun l => l.1 ≠ node }

inductive Job where
  | epayNotify (tradeNo type : String)
  | manualComplete (tradeNo : String)
  | close (tradeNo : String) (expected : Option PaymentProvider) (target : TopUpStatus)

abbrev Prog := Program Op Op.Ret Job

abbrev call (o : Op) : Prog o.Ret := Program.call o

def completeEpay (tradeNo type : String) : Prog Unit := do
  let found : Option TopUp ← call (.getTopUpByTradeNo tradeNo)
  match found with
  | none => pure ()
  | some t =>
    if t.paymentProvider ≠ .epay then pure ()
    else if t.status = .pending then
      let t' := { t with paymentMethod := type, status := .success }
      let saved : Bool ← call (.update t')
      if saved then
        let _ : Bool ← call (.increaseUserQuota t' (amountQuota cfg t'))
    else pure ()

def epayNotify (tradeNo type : String) : Prog Unit := do
  let _ : Unit ← call (.lockOrder tradeNo)
  completeEpay cfg tradeNo type
  call (.unlockOrder tradeNo)

def program : Job → Prog Unit
  | .epayNotify tradeNo type => epayNotify cfg tradeNo type
  | .manualComplete tradeNo => call (.manualCompleteTopUp tradeNo)
  | .close tradeNo expected target =>
    call (.updatePendingTopUpStatus tradeNo expected target)

end

end ZModel.Payment
