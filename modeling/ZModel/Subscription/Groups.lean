import Mathlib.Data.List.Dedup
import Mathlib.Data.List.Sort
import ZModel.Lib.Run
import ZModel.Store.Quota
import ZModel.Subscription.Reset

/-!
# User groups of subscriptions

A purchase puts its user into the upgrade group of the plan; expiry, invalidation and deletion put
the user back, by code of their own in `model/subscription.go`.
-/

namespace ZModel.Subscription

open Lib
open Store (Write SubscriptionStatus)

inductive DurationUnit where
  | year
  | month
  | day
  | hour
  | custom
  deriving DecidableEq

structure GroupPlan where
  id : Nat
  durationUnit : Option DurationUnit := some .month
  durationValue : Int := 1
  customSeconds : Int := 0
  maxPurchasePerUser : Int := 0
  upgradeGroup : String := ""
  downgradeGroup : String := ""

structure GroupSubscription where
  id : Nat
  userId : Nat
  planId : Nat
  endTime : Int
  status : SubscriptionStatus := .active
  upgradeGroup : String := ""
  prevUserGroup : String := ""
  downgradeGroup : String := ""
  deriving DecidableEq

instance : Keyed GroupSubscription Nat := ⟨GroupSubscription.id⟩

structure GroupDb where
  subscriptions : Table GroupSubscription
  group : Nat → Option String

structure Moment where
  now : Int
  zone : Int := 0
  write : Nat → Write := fun _ => .done
  newId : Nat := 0
  rank : Nat → Nat := id

def addDate (zone unix years months : Int) : Int :=
  let day := localDay zone unix
  let (year, month) := yearMonth day
  let total := (year + years) * 12 + (month - 1) + months
  let day' := firstOfMonth (total / 12) (total % 12 + 1) + (day - firstOfMonth year month)
  unix + (day' - day) * 86400

def addDuration (unix n unitSeconds : Int) : Int :=
  unix + wrapInt64 (n * unitSeconds * 10 ^ 9) / 10 ^ 9

variable (m : Moment)

def calcPlanEndTime (plan : GroupPlan) : Option Int :=
  if plan.durationValue ≤ 0 ∧ plan.durationUnit ≠ some .custom then none
  else match plan.durationUnit with
    | some .year => some (addDate m.zone m.now plan.durationValue 0)
    | some .month => some (addDate m.zone m.now 0 plan.durationValue)
    | some .day => some (addDuration m.now plan.durationValue 86400)
    | some .hour => some (addDuration m.now plan.durationValue 3600)
    | some .custom =>
      if plan.customSeconds ≤ 0 then none else some (addDuration m.now plan.customSeconds 1)
    | none => none

-- One month after January 31st is March 2nd in a leap year.
example : addDate 0 (19753 * 86400) 0 1 = 19784 * 86400 := by decide

variable (db : GroupDb) (user : Nat)

namespace GroupDb

def userGroup : String := (db.group user).getD ""

def setGroup (target : String) : GroupDb :=
  { db with group := fun u => if u = user then (db.group u).map fun _ => target else db.group u }

end GroupDb

def GroupSubscription.upgrading (s : GroupSubscription) (user : Nat) (now : Int) : Bool :=
  s.userId = user && s.status = .active && now < s.endTime && s.upgradeGroup ≠ ""

def returnGroup (currentGroup : String) (sub : GroupSubscription) : String :=
  if trimSpace sub.downgradeGroup ≠ "" then trimSpace sub.downgradeGroup
  else if currentGroup ≠ trimSpace sub.upgradeGroup then ""
  else trimSpace sub.prevUserGroup

def moveTo (target : String) : GroupDb :=
  if target = "" ∨ target = db.userGroup user then db else db.setGroup user target

def downgradeUserGroup (sub : GroupSubscription) (now : Int) : GroupDb :=
  if trimSpace sub.downgradeGroup = "" ∧ trimSpace sub.upgradeGroup = "" then db
  else if db.subscriptions.rows.any fun s => s.upgrading sub.userId now && s.id ≠ sub.id then db
  else moveTo db sub.userId (returnGroup (db.userGroup sub.userId) sub)

def newSubscription (plan : GroupPlan) (endTime : Int)
    (currentGroup : String) : GroupSubscription where
  id := m.newId
  userId := user
  planId := plan.id
  endTime := endTime
  upgradeGroup := trimSpace plan.upgradeGroup
  prevUserGroup :=
    if trimSpace plan.upgradeGroup ≠ "" ∧ currentGroup ≠ trimSpace plan.upgradeGroup then
      currentGroup else ""
  downgradeGroup := trimSpace plan.downgradeGroup

def createUserSubscriptionFromPlan (db : GroupDb) (user : Nat) (plan : GroupPlan) :
    Option GroupDb :=
  if plan.id = 0 ∨ user = 0 then none
  else if 0 < plan.maxPurchasePerUser ∧ plan.maxPurchasePerUser ≤
      (db.subscriptions.rows.countP fun s => s.userId = user && s.planId = plan.id : Nat) then none
  else do
    let endTime ← calcPlanEndTime m plan
    let subscriptions ←
      db.subscriptions.create (newSubscription m user plan endTime (db.userGroup user))
    let upgradeGroup := trimSpace plan.upgradeGroup
    let db' :=
      if upgradeGroup ≠ "" ∧ db.userGroup user ≠ upgradeGroup then db.setGroup user upgradeGroup
      else db
    return { db' with subscriptions }

def invalidate (db : GroupDb) (id : Nat) : GroupDb :=
  match db.subscriptions.find? id with
  | none => db
  | some sub =>
    downgradeUserGroup { db with
      subscriptions := db.subscriptions.put
        { sub with status := .cancelled, endTime := m.now } } sub m.now

def deleteRow (t : Table GroupSubscription) (id : Nat) : Table GroupSubscription :=
  ⟨t.rows.filter fun s => s.id ≠ id, t.nodup.sublist (List.filter_sublist.map _)⟩

def delete (db : GroupDb) (id : Nat) : GroupDb :=
  match db.subscriptions.find? id with
  | none => db
  | some sub =>
    let db' := downgradeUserGroup db sub m.now
    { db' with subscriptions := deleteRow db'.subscriptions id }

def GroupSubscription.due (s : GroupSubscription) (now : Int) : Bool :=
  s.status = .active && 0 < s.endTime && s.endTime ≤ now

def markExpired (now : Int) : Table GroupSubscription :=
  ⟨db.subscriptions.rows.map fun s =>
      if s.userId = user && s.due now then { s with status := .expired } else s, by
    have hkeys : ∀ s : GroupSubscription,
        key (if s.userId = user && s.due now then { s with status := .expired } else s) = key s := by
      intro s
      split <;> rfl
    rw [List.map_map, Function.comp_def]
    simp only [hkeys]
    exact db.subscriptions.nodup⟩

def latest (rows : List GroupSubscription) : Option GroupSubscription :=
  rows.find? fun s => rows.all fun t => t.endTime < s.endTime || (t.endTime = s.endTime && t.id ≤ s.id)

def expiryGroup (currentGroup : String) (sub : GroupSubscription) : String :=
  if trimSpace sub.downgradeGroup = "" ∧ trimSpace sub.upgradeGroup = "" then ""
  else returnGroup currentGroup sub

def expireUser (now : Int) : GroupDb :=
  let db' := { db with subscriptions := markExpired db user now }
  if db'.subscriptions.rows.any fun s => s.upgrading user now then db'
  else
    let expired := db'.subscriptions.rows.filter fun s =>
      s.userId = user && s.status = .expired && (s.downgradeGroup ≠ "" || s.upgradeGroup ≠ "")
    match latest expired with
    | none => db'
    | some sub => moveTo db' user (expiryGroup (db'.userGroup user) sub)

def dueUsers (db : GroupDb) (limit : Int) : List Nat :=
  let subs := ((db.subscriptions.rows.filter fun s => s.due m.now).insertionSort fun s t =>
    s.endTime < t.endTime ∨ (s.endTime = t.endTime ∧ s.id ≤ t.id)).take
      (if limit ≤ 0 then 200 else limit.toNat)
  ((subs.map GroupSubscription.userId).filter (0 < ·)).dedup.insertionSort fun u v =>
    m.rank u ≤ m.rank v

def expireUsers (m : Moment) : List Nat → GroupDb → GroupDb
  | [], db => db
  | user :: users, db =>
    match m.write user with
    | .fails => db
    | .done => expireUsers m users (expireUser db user m.now)

inductive GroupStep where
  | purchase (user : Nat) (plan : GroupPlan)
  | expireDueSubscriptions (limit : Int)
  | invalidate (id : Nat)
  | delete (id : Nat)

def groupStep : GroupStep × Moment → GroupDb
  | (.purchase user plan, m) =>
    match m.write user with
    | .fails => db
    | .done => (createUserSubscriptionFromPlan m db user plan).getD db
  | (.expireDueSubscriptions limit, m) => expireUsers m (dueUsers m db limit) db
  | (.invalidate id, m) =>
    match m.write 0 with
    | .fails => db
    | .done => invalidate m db id
  | (.delete id, m) =>
    match m.write 0 with
    | .fails => db
    | .done => delete m db id

end ZModel.Subscription
