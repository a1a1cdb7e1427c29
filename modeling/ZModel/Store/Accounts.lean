import ZModel.Lib.Table

/-!
# The account tables

The rows of `model/user.go`, `model/token.go` and `model/subscription.go` with the columns that
billing uses. The quota writes are SQL statements of the form `quota = quota + ?`; they touch one
row, and nothing when it is missing.
-/

namespace ZModel.Store

open Lib

structure User where
  id : Nat
  quota : Int
  deriving DecidableEq

structure Token where
  id : Nat
  userId : Nat
  remainQuota : Int
  usedQuota : Int
  unlimitedQuota : Bool
  id_pos : 0 < id
  deriving DecidableEq

inductive BillingSource where
  | wallet
  | subscription
  deriving DecidableEq

inductive SubscriptionStatus where
  | active
  | expired
  | cancelled
  deriving DecidableEq

/-- `UserSubscription`. `amountTotal = 0` means no limit; no statement stores a negative used
amount. -/
structure UserSubscription where
  id : Nat
  userId : Nat
  planId : Nat
  amountTotal : Int
  amountUsed : Int
  startTime : Int
  endTime : Int
  status : SubscriptionStatus
  lastResetTime : Int
  nextResetTime : Int
  allowWalletOverflow : Bool
  id_pos : 0 < id
  used_nonneg : 0 ≤ amountUsed
  deriving DecidableEq

structure SubscriptionPlan where
  id : Nat
  quotaResetPeriod : String
  quotaResetCustomSeconds : Int
  deriving DecidableEq

inductive PreConsumeStatus where
  | consumed
  | refunded
  deriving DecidableEq

structure SubscriptionPreConsumeRecord where
  requestId : String
  userId : Nat
  userSubscriptionId : Nat
  preConsumed : Int
  status : PreConsumeStatus
  deriving DecidableEq

instance : Keyed User Nat := ⟨User.id⟩
instance : Keyed Token Nat := ⟨Token.id⟩
instance : Keyed UserSubscription Nat := ⟨UserSubscription.id⟩
instance : Keyed SubscriptionPlan Nat := ⟨SubscriptionPlan.id⟩
instance : Keyed SubscriptionPreConsumeRecord String := ⟨SubscriptionPreConsumeRecord.requestId⟩

-- Proofs that several modules share.
variable (s : UserSubscription)

@[simp] theorem key_user (u : User) : key u = u.id := rfl
@[simp] theorem key_token (t : Token) : key t = t.id := rfl
@[simp] theorem key_subscription : key s = s.id := rfl
def UserSubscription.setUsed (used : Int) (h : 0 ≤ used) : UserSubscription :=
  { s with amountUsed := used, used_nonneg := h }

@[simp] theorem UserSubscription.setUsed_id (used : Int) (h : 0 ≤ used) :
    (s.setUsed used h).id = s.id := rfl

@[simp] theorem UserSubscription.setUsed_amountUsed (used : Int)
    (h : 0 ≤ used) : (s.setUsed used h).amountUsed = used := rfl

@[simp] theorem UserSubscription.setUsed_amountTotal (used : Int)
    (h : 0 ≤ used) : (s.setUsed used h).amountTotal = s.amountTotal := rfl

structure Accounts where
  users : Table User := .empty
  tokens : Table Token := .empty
  subscriptions : Table UserSubscription := .empty
  plans : Table SubscriptionPlan := .empty
  preConsumeRecords : Table SubscriptionPreConsumeRecord := .empty

namespace Accounts

section

variable (a : Accounts) (id : Nat)

def userQuota : Option Int := (a.users.find? id).map User.quota

def tokenRemain : Option Int := (a.tokens.find? id).map Token.remainQuota

def subscriptionUsed : Option Int :=
  (a.subscriptions.find? id).map UserSubscription.amountUsed

def addUserQuota (δ : Int) : Accounts :=
  { a with users := a.users.modify id fun u => { u with quota := u.quota + δ } }

def addTokenQuota (δ : Int) : Accounts :=
  { a with tokens := a.tokens.modify id fun t =>
      { t with remainQuota := t.remainQuota + δ, usedQuota := t.usedQuota - δ } }

end

variable (a : Accounts)

theorem userQuota_addUserQuota (id other : Nat) (δ : Int) : (a.addUserQuota id δ).userQuota other =
      if other = id then (a.userQuota other).map (· + δ) else a.userQuota other := by
  refine (congrArg (Option.map _) (Table.find?_modify a.users id other ?_)).trans ?_
  · exact fun _ => rfl
  split
  · cases h : a.users.find? other <;> simp [userQuota, h]
  · rfl

theorem tokenRemain_addTokenQuota (id other : Nat) (δ : Int) :
    (a.addTokenQuota id δ).tokenRemain other =
      if other = id then (a.tokenRemain other).map (· + δ) else a.tokenRemain other := by
  refine (congrArg (Option.map _) (Table.find?_modify a.tokens id other ?_)).trans ?_
  · exact fun _ => rfl
  split
  · cases h : a.tokens.find? other <;> simp [tokenRemain, h]
  · rfl

def saveUser (u : User) : Accounts := { a with users := a.users.put u }

def saveToken (t : Token) : Accounts := { a with tokens := a.tokens.put t }

def saveSubscription (s : UserSubscription) : Accounts :=
  { a with subscriptions := a.subscriptions.put s }

variable {a}

theorem userQuota_saveUser {u : User} (hu : a.users.find? u.id = some u) (u' : User)
    (hid : u'.id = u.id) (id : Nat) :
    (a.saveUser u').userQuota id =
      (a.userQuota id).map (· + if id = u.id then u'.quota - u.quota else 0) :=
  Table.column_put User.quota hu hid id

theorem tokenRemain_saveToken {t : Token} (ht : a.tokens.find? t.id = some t) (t' : Token)
    (hid : t'.id = t.id) (id : Nat) :
    (a.saveToken t').tokenRemain id =
      (a.tokenRemain id).map (· + if id = t.id then t'.remainQuota - t.remainQuota else 0) :=
  Table.column_put Token.remainQuota ht hid id

theorem subscriptionUsed_save {s : UserSubscription} (hs : a.subscriptions.find? s.id = some s)
    (s' : UserSubscription) (hid : s'.id = s.id) (id : Nat) :
    (a.saveSubscription s').subscriptionUsed id =
      (a.subscriptionUsed id).map (· + if id = s.id then s'.amountUsed - s.amountUsed else 0) :=
  Table.column_put UserSubscription.amountUsed hs hid id

end Accounts

end ZModel.Store
