import ZModel.Lib.Truncate
import ZModel.Store.Quota

/-!
# Top-up orders

`TopUp` of `model/topup.go` and the endpoints that create orders. Prices, ratios and money are
rational numbers; the trade number, the clock and the answers of the gateway are inputs.
-/

namespace ZModel.Payment

open Lib Store

inductive PaymentProvider where
  | epay
  | stripe
  | creem
  | waffo
  | waffoPancake
  deriving DecidableEq

inductive TopUpStatus where
  | pending
  | success
  | failed
  | expired
  deriving DecidableEq

structure TopUp where
  tradeNo : String
  userId : Nat
  amount : Int
  money : ℚ
  paymentMethod : String
  paymentProvider : PaymentProvider
  createTime : Int
  completeTime : Int := 0
  status : TopUpStatus := .pending
  deriving DecidableEq

instance : Keyed TopUp String := ⟨TopUp.tradeNo⟩

@[simp] theorem key_topUp (t : TopUp) : key t = t.tradeNo := rfl

structure CreemProduct where
  productId : String
  price : ℚ
  quota : Int

structure PaymentSettings where
  quotaPerUnit : ℚ := 500000
  displayTokens : Bool := false
  minTopUp : Int := 1
  stripeMinTopUp : Int := 1
  waffoMinTopUp : Int := 1
  waffoPancakeMinTopUp : Int := 1
  price : ℚ := 73 / 10
  waffoUnitPrice : ℚ := 1
  waffoPancakeUnitPrice : ℚ := 1
  topupGroupRatio : String → ℚ := fun _ => 1
  amountDiscount : Int → Option ℚ := fun _ => none
  payMethods : List String := ["alipay", "wxpay", "custom1"]
  waffoPayMethods : List (String × String) :=
    [("CREDITCARD,DEBITCARD", ""), ("APPLEPAY", "APPLEPAY"), ("GOOGLEPAY", "GOOGLEPAY")]
  creemProducts : List CreemProduct := []

section

variable (cfg : PaymentSettings)

def groupRatio (group : String) : ℚ :=
  if cfg.topupGroupRatio group = 0 then 1 else cfg.topupGroupRatio group

def discount (amount : Int) : ℚ :=
  match cfg.amountDiscount amount with
  | some d => if 0 < d then d else 1
  | none => 1

def payMoney (unitPrice : ℚ) (amount : Int) (group : String) : ℚ :=
  (if cfg.displayTokens then amount / cfg.quotaPerUnit else amount) * unitPrice *
    groupRatio cfg group * discount cfg amount

def getPayMoney : Int → String → ℚ := payMoney cfg cfg.price

def getWaffoPayMoney : Int → String → ℚ := payMoney cfg cfg.waffoUnitPrice

def getWaffoPancakePayMoney : Int → String → ℚ :=
  payMoney cfg cfg.waffoPancakeUnitPrice

def getChargedAmount (count : Int) (group : String) : ℚ :=
  count * groupRatio cfg group

def getMinTopup : Int :=
  if cfg.displayTokens then truncate (cfg.minTopUp * cfg.quotaPerUnit) else cfg.minTopUp

def getStripeMinTopup : Int :=
  if cfg.displayTokens then cfg.stripeMinTopUp * truncate cfg.quotaPerUnit else cfg.stripeMinTopUp

end

structure OrderEnv where
  userId : Nat
  group : Option String
  tradeNo : String
  now : Int
  gateway : Bool
  insert : Write
  tradeNo_ne : tradeNo ≠ ""

def insertOrder (e : OrderEnv) (t : TopUp) : Except String TopUp :=
  match e.insert with
  | .done => .ok t
  | .fails => .error "创建订单失败"

def belowMinimum (least : Int) : String := "充值数量不能小于 " ++ toString least

section

variable (cfg : PaymentSettings)

def epayAmount (amount : Int) : Int :=
  if cfg.displayTokens then truncate (amount / cfg.quotaPerUnit) else amount

variable (e : OrderEnv)

def requestEpay (amount : Int) (paymentMethod : String) : Except String TopUp :=
  if amount < getMinTopup cfg then .error (belowMinimum (getMinTopup cfg))
  else match e.group with
    | none => .error "获取用户分组失败"
    | some group =>
      if getPayMoney cfg amount group < 1 / 100 then .error "充值金额过低"
      else if paymentMethod ∉ cfg.payMethods then .error "支付方式不存在"
      else if e.gateway = false then .error "拉起支付失败"
      else insertOrder e
        { tradeNo := e.tradeNo, userId := e.userId, amount := epayAmount cfg amount
          money := getPayMoney cfg amount group, paymentMethod := paymentMethod
          paymentProvider := .epay, createTime := e.now }

def requestStripePay (amount : Int) (paymentMethod : String) : Except String TopUp :=
  if paymentMethod ≠ "stripe" then .error "不支持的支付渠道"
  else if amount < getStripeMinTopup cfg then .error (belowMinimum (getStripeMinTopup cfg))
  else if 10000 < amount then .error "充值数量不能大于 10000"
  else if e.gateway = false then .error "拉起支付失败"
  else insertOrder e
    { tradeNo := e.tradeNo, userId := e.userId, amount := amount
      money := getChargedAmount cfg amount (e.group.getD ""), paymentMethod := "stripe"
      paymentProvider := .stripe, createTime := e.now }

def requestCreemPay (productId paymentMethod : String) : Except String TopUp :=
  if paymentMethod ≠ "creem" then .error "不支持的支付渠道"
  else if productId = "" then .error "请选择产品"
  else match cfg.creemProducts.find? (fun p => p.productId = productId) with
    | none => .error "产品不存在"
    | some product => insertOrder e
        { tradeNo := e.tradeNo, userId := e.userId, amount := product.quota
          money := product.price, paymentMethod := "creem"
          paymentProvider := .creem, createTime := e.now }

structure WaffoPayMethod where
  payMethodIndex : Option Int
  payMethodType : String
  payMethodName : String

def WaffoPayMethod.Valid (m : WaffoPayMethod) : Bool :=
  match m.payMethodIndex with
  | some i => 0 ≤ i && i < cfg.waffoPayMethods.length
  | none => m.payMethodType == "" ||
      cfg.waffoPayMethods.contains (m.payMethodType, m.payMethodName)

def normalizeWaffoAmount (amount : Int) : Int :=
  if cfg.displayTokens then
    let units := truncate (amount / cfg.quotaPerUnit)
    if units < 1 then 1 else units
  else amount

def requestWaffoPay (amount : Int) (m : WaffoPayMethod) : Except String TopUp :=
  if amount < cfg.waffoMinTopUp then .error (belowMinimum cfg.waffoMinTopUp)
  else if m.Valid cfg = false then .error "不支持的支付方式"
  else if getWaffoPayMoney cfg amount (e.group.getD "") < 1 / 100 then .error "充值金额过低"
  else insertOrder e
    { tradeNo := e.tradeNo, userId := e.userId, amount := normalizeWaffoAmount cfg amount
      money := getWaffoPayMoney cfg amount (e.group.getD ""), paymentMethod := "waffo"
      paymentProvider := .waffo, createTime := e.now }

def requestWaffoPancakePay (amount : Int) : Except String TopUp :=
  if amount < cfg.waffoPancakeMinTopUp then .error (belowMinimum cfg.waffoPancakeMinTopUp)
  else match e.group with
    | none => .error "获取用户分组失败"
    | some group =>
      if getWaffoPancakePayMoney cfg amount group < 1 / 100 then .error "充值金额过低"
      else insertOrder e
        { tradeNo := e.tradeNo, userId := e.userId, amount := normalizeWaffoAmount cfg amount
          money := getWaffoPancakePayMoney cfg amount group, paymentMethod := "waffo_pancake"
          paymentProvider := .waffoPancake, createTime := e.now }

end

end ZModel.Payment
