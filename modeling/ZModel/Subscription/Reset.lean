import ZModel.Lib.Text
import ZModel.Store.Accounts

/-!
# Periodic reset of a subscription's used amount

`calcNextResetTime` and `maybeResetUserSubscriptionWithPlanTx`, in a zone with a fixed offset. The
fuel of the catch-up loop covers every run that ends; `diverges` is running out of it.
-/

namespace ZModel.Subscription

open Lib Store

variable {now zone : Int} {plan : SubscriptionPlan} {sub : UserSubscription}

def localDay (zone unix : Int) : Int := (unix + zone) / 86400

def dayStart (zone day : Int) : Int := day * 86400 - zone

def weekday (day : Int) : Int := (day + 4) % 7

def yearMonth (day : Int) : Int × Int :=
  let z := day + 719468
  let era := z / 146097
  let dayOfEra := z % 146097
  let yearOfEra := (dayOfEra - dayOfEra / 1460 + dayOfEra / 36524 - dayOfEra / 146096) / 365
  let dayOfYear := dayOfEra - (365 * yearOfEra + yearOfEra / 4 - yearOfEra / 100)
  let shifted := (5 * dayOfYear + 2) / 153
  let month := if shifted < 10 then shifted + 3 else shifted - 9
  (yearOfEra + era * 400 + if month ≤ 2 then 1 else 0, month)

def firstOfMonth (year month : Int) : Int :=
  let y := if month ≤ 2 then year - 1 else year
  let era := y / 400
  let yearOfEra := y % 400
  let shifted := if month ≤ 2 then month + 9 else month - 3
  let dayOfYear := (153 * shifted + 2) / 5
  era * 146097 + (yearOfEra * 365 + yearOfEra / 4 - yearOfEra / 100 + dayOfYear) - 719468

def firstOfNextMonth (day : Int) : Int :=
  let (year, month) := yearMonth day
  if month = 12 then firstOfMonth (year + 1) 1 else firstOfMonth year (month + 1)

def wrapInt64 (x : Int) : Int := (x + 2 ^ 63) % 2 ^ 64 - 2 ^ 63

example : yearMonth 19782 = (2024, 2) := by decide
example : firstOfNextMonth 19782 = 19783 := by decide

inductive ResetPeriod where
  | never
  | daily
  | weekly
  | monthly
  | custom
  deriving DecidableEq

def normalizeResetPeriod (period : String) : ResetPeriod :=
  match trimSpace period with
  | "daily" => .daily
  | "weekly" => .weekly
  | "monthly" => .monthly
  | "custom" => .custom
  | _ => .never

/-- `calcNextResetTime`, or 0 when there is no reset before the end. `time.Duration(seconds) *
time.Second` is a 64-bit product. -/
def calcNextResetTime (zone base : Int) (plan : SubscriptionPlan) (endUnix : Int) : Int :=
  let day := localDay zone base
  let next : Option Int :=
    match normalizeResetPeriod plan.quotaResetPeriod with
    | .never => none
    | .daily => some (dayStart zone (day + 1))
    | .weekly =>
      let w := if weekday day = 0 then 7 else weekday day
      some (dayStart zone (day + (8 - w)))
    | .monthly => some (dayStart zone (firstOfNextMonth day))
    | .custom =>
      if plan.quotaResetCustomSeconds ≤ 0 then none
      else some (base + wrapInt64 (plan.quotaResetCustomSeconds * 10 ^ 9) / 10 ^ 9)
  match next with
  | none => 0
  | some next => if 0 < endUnix ∧ endUnix < next then 0 else next

/-- The loop `for next > 0 && next <= now`; `none` when the fuel does not suffice. -/
def catchUp (zone : Int) (plan : SubscriptionPlan) (endUnix now : Int) :
    Nat → Int → Int → Option (Int × Int)
  | fuel, base, next =>
    if 0 < next ∧ next ≤ now then
      match fuel with
      | 0 => none
      | fuel + 1 =>
        catchUp zone plan endUnix now fuel next (calcNextResetTime zone next plan endUnix)
    else some (base, next)

inductive ResetOutcome where
  | unchanged
  | saved (s : UserSubscription)
  | diverges

def resetBase (sub : UserSubscription) : Int :=
  if sub.lastResetTime ≤ 0 then sub.startTime else sub.lastResetTime

section

variable (zone : Int) (sub : UserSubscription) (plan : SubscriptionPlan) (now : Int)

/-- The reset check after its two early returns. Each pass moves the base by at least a second, so
the fuel is exhausted only by a loop that stands still. -/
def resetNow : ResetOutcome :=
  let base := resetBase sub
  let next := calcNextResetTime zone base plan sub.endTime
  match catchUp zone plan sub.endTime now (now.toNat + 1) base next with
  | none => .diverges
  | some (base', next') =>
    if 0 < next ∧ next ≤ now then
      .saved { sub with amountUsed := 0, used_nonneg := Int.natCast_nonneg .zero,
                        lastResetTime := base', nextResetTime := next' }
    else if sub.nextResetTime = 0 ∧ 0 < next' then
      .saved { sub with nextResetTime := next', lastResetTime := base' }
    else .unchanged

def maybeReset : ResetOutcome :=
  if 0 < sub.nextResetTime ∧ now < sub.nextResetTime then .unchanged
  else if normalizeResetPeriod plan.quotaResetPeriod = .never then .unchanged
  else resetNow zone sub plan now

def ResetDue : Prop :=
  ¬(0 < sub.nextResetTime ∧ now < sub.nextResetTime) ∧
    normalizeResetPeriod plan.quotaResetPeriod ≠ .never ∧
    0 < calcNextResetTime zone (resetBase sub) plan sub.endTime ∧
    calcNextResetTime zone (resetBase sub) plan sub.endTime ≤ now

end

instance (zone : Int) (sub : UserSubscription) (plan : SubscriptionPlan) (now : Int) :
    Decidable (ResetDue zone sub plan now) :=
  inferInstanceAs (Decidable (_ ∧ _))

theorem maybeReset_of_not_due (h : ¬ResetDue zone sub plan now) :
    maybeReset zone sub plan now = .unchanged ∨ ∃ last next, maybeReset zone sub plan now =
        .saved { sub with lastResetTime := last, nextResetTime := next } := by
  unfold maybeReset
  split
  · exact .inl rfl
  rename_i hnext
  split
  · exact .inl rfl
  rename_i hperiod
  have hidle : ¬(0 < calcNextResetTime zone (resetBase sub) plan sub.endTime ∧
      calcNextResetTime zone (resetBase sub) plan sub.endTime ≤ now) :=
    fun hloop => h ⟨hnext, hperiod, hloop⟩
  simp only [resetNow, catchUp, if_neg hidle]
  split
  · exact .inr ⟨_, _, rfl⟩
  · exact .inl rfl

theorem maybeReset_saved {sub' : UserSubscription}
    (h : maybeReset zone sub plan now = .saved sub') :
    ∃ used last next, ∃ hused : 0 ≤ used, sub' = { sub with
      amountUsed := used, used_nonneg := hused, lastResetTime := last, nextResetTime := next } := by
  unfold maybeReset at h
  split at h
  · cases h
  split at h
  · cases h
  unfold resetNow at h
  simp only at h
  split at h
  · cases h
  split at h
  · cases h
    exact ⟨_, _, _, _, rfl⟩
  split at h
  · cases h
    exact ⟨_, _, _, sub.used_nonneg, rfl⟩
  · cases h

theorem maybeReset_saved_id {sub' : UserSubscription}
    (h : maybeReset zone sub plan now = .saved sub') : sub'.id = sub.id := by
  obtain ⟨used, last, next, hused, rfl⟩ := maybeReset_saved h
  rfl

end ZModel.Subscription
