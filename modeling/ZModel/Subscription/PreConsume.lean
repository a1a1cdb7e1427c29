import ZModel.Store.Quota
import ZModel.Subscription.Charge

/-!
# Pre-consuming subscription quota

`PreConsumeUserSubscription` and `RefundSubscriptionPreConsume`, which gives the amount back in a
transaction of its own, before the record is marked.
-/

namespace ZModel.Subscription

open Lib Store

inductive PreConsumeError where
  | invalidUserId
  | requestIdEmpty
  | amountNotPositive
  | alreadyRefunded
  | noActiveSubscription
  | insufficient (need : Int)
  | walk (e : ChargeError)
  | recordNotFound
  | writeFailed

structure PreConsumeResult where
  userSubscriptionId : Nat
  preConsumed : Int
  amountTotal : Int
  amountUsedBefore : Int
  amountUsedAfter : Int

def repeatedPreConsume (a : Accounts) (record : SubscriptionPreConsumeRecord) :
    Except PreConsumeError PreConsumeResult :=
  if record.status = .refunded then .error .alreadyRefunded
  else match a.subscriptions.find? record.userSubscriptionId with
    | none => .error .recordNotFound
    | some s => .ok
        { userSubscriptionId := s.id, preConsumed := record.preConsumed
          amountTotal := s.amountTotal, amountUsedBefore := s.amountUsed
          amountUsedAfter := s.amountUsed }

def freshPreConsume (zone now : Int) (w : Write) (a : Accounts) (r : ChargeRequest) :
    Except PreConsumeError (PreConsumeResult × Accounts) :=
  let subs := activeSubscriptions a r.userId now
  if subs.length = 0 then .error .noActiveSubscription
  else match chargeFirst zone now r subs a with
    | .error e => .error (.walk e)
    | .ok (.exhausted _) => .error (.insufficient r.amount)
    | .ok (.charged s a') =>
      match w with
      | .fails => .error .writeFailed
      | .done => .ok
          ({ userSubscriptionId := s.id, preConsumed := r.amount, amountTotal := s.amountTotal
             amountUsedBefore := s.amountUsed, amountUsedAfter := s.amountUsed + r.amount }, a')

def preConsumeUserSubscription (zone now : Int) (w : Write) (a : Accounts) (requestId : String)
    (userId : Nat) (amount : Int) : Except PreConsumeError (PreConsumeResult × Accounts) :=
  if userId = 0 then .error .invalidUserId
  else if isBlank requestId then .error .requestIdEmpty
  else if h : 0 < amount then
    match a.preConsumeRecords.find? requestId with
    | some record => repeatedPreConsume a record >>= fun result => .ok (result, a)
    | none => freshPreConsume zone now w a ⟨requestId, userId, amount, h⟩
  else .error .amountNotPositive

inductive RefundError where
  | requestIdEmpty
  | quota (e : QuotaError)
  | recordNotFound
  | writeFailed

def markRefunded (w : Write) (a : Accounts) (record : SubscriptionPreConsumeRecord) :
    Except RefundError Unit × Accounts :=
  match w with
  | .fails => (.error .writeFailed, a)
  | .done =>
    let records := a.preConsumeRecords.put { record with status := .refunded }
    (.ok (), { a with preConsumeRecords := records })

/-- `RefundSubscriptionPreConsume`. `give` stays committed when `mark` fails. -/
def refundSubscriptionPreConsume (give mark : Write) (a : Accounts) (requestId : String) :
    Except RefundError Unit × Accounts :=
  if isBlank requestId then (.error .requestIdEmpty, a)
  else match a.preConsumeRecords.find? requestId with
    | none => (.error .recordNotFound, a)
    | some record =>
      if record.status = .refunded then (.ok (), a)
      else if record.preConsumed ≤ 0 then markRefunded mark a record
      else match postConsumeUserSubscriptionDelta give a record.userSubscriptionId
          (-record.preConsumed) with
        | .error e => (.error (.quota e), a)
        | .ok a' => markRefunded mark a' record

theorem preConsume_fresh {zone now : Int} {w : Write} {a a' : Accounts} {requestId : String}
    {userId : Nat} {amount : Int} {result : PreConsumeResult}
    (hfresh : a.preConsumeRecords.find? requestId = none)
    (hdue : NoResetDue zone now a userId)
    (h : preConsumeUserSubscription zone now w a requestId userId amount = .ok (result, a')) :
    isBlank requestId = false ∧ 0 < amount ∧ result.preConsumed = amount ∧
      TakesFrom (.subscription result.userSubscriptionId) amount a a' ∧
      WithinTotal a' result.userSubscriptionId ∧
      a'.preConsumeRecords.find? requestId =
        some ⟨requestId, userId, result.userSubscriptionId, amount, .consumed⟩ := by
  unfold preConsumeUserSubscription at h
  split at h
  · cases h
  split at h
  · cases h
  rename_i hblank
  split at h
  next hpos =>
    rw [hfresh] at h
    simp only [freshPreConsume] at h
    split at h
    · cases h
    split at h
    · cases h
    · cases h
    rename_i s a₁ hwalk
    split at h
    · cases h
    cases h
    obtain ⟨hframe, hused⟩ := walk_of_not_due hdue hwalk
    obtain ⟨hroom, hrow, hrecord⟩ := chargeFirst_charged (listed_active a userId now) hwalk
    refine ⟨by simpa using hblank, hpos, rfl,
      takesFrom_used hframe.users hframe.tokens hused, ⟨_, hrow, ?_⟩, hrecord⟩
    simp only [ChargeRequest.Exceeds] at hroom
    simp only [ChargeRequest.charge, UserSubscription.setUsed_amountTotal,
      UserSubscription.setUsed_amountUsed]
    omega
  · cases h

end ZModel.Subscription
