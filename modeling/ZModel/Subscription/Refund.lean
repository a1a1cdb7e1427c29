import ZModel.Lib.Run
import ZModel.Subscription.PreConsume

/-!
# Repeated refunds of one pre-consume

The amount is given back in a transaction that stays committed when the record cannot be marked, so
each further call gives it back once more.
-/

namespace ZModel.Subscription

open Lib Store

structure RefundWrites where
  give : Write
  mark : Write
  deriving DecidableEq

def refundStep (requestId : String) (s : Bool × Accounts) (c : RefundWrites) : Bool × Accounts :=
  match refundSubscriptionPreConsume c.give c.mark s.2 requestId with
  | (.ok (), a) => (true, a)
  | (.error _, a) => (s.1, a)

def completes (calls : List RefundWrites) : Bool := calls.contains ⟨.done, .done⟩

def giveBacks : List RefundWrites → Nat
  | [] => 0
  | ⟨.fails, _⟩ :: rest => giveBacks rest
  | ⟨.done, .fails⟩ :: rest => giveBacks rest + 1
  | ⟨.done, .done⟩ :: _ => 1

theorem giveBacks_pos {calls : List RefundWrites} (h : completes calls = true) :
    0 < giveBacks calls := by
  induction calls with
  | nil => cases h
  | cons c rest ih =>
    obtain ⟨give, mark⟩ := c
    cases give with
    | fails => exact ih (by simpa [completes] using h)
    | done =>
      cases mark with
      | fails => exact Nat.succ_pos _
      | done => exact Nat.one_pos

structure Pending (requestId : String) (r : SubscriptionPreConsumeRecord) (s : UserSubscription)
    (a : Accounts) : Prop where
  named : isBlank requestId = false
  record : a.preConsumeRecords.find? requestId = some r
  consumed : r.status = .consumed
  amount : 0 < r.preConsumed
  row : a.subscriptions.find? r.userSubscriptionId = some s

section Calls

variable {requestId : String} {r : SubscriptionPreConsumeRecord} {s : UserSubscription}
  {a : Accounts}

def UserSubscription.less (s : UserSubscription) (amount : Int) : UserSubscription :=
  s.setUsed (max 0 (s.amountUsed + -amount)) (Int.le_max_left 0 _)

section

variable (h : Pending requestId r s a)

include h

theorem Pending.refund_eq (give mark : Write) : refundSubscriptionPreConsume give mark a requestId =
      match postConsumeUserSubscriptionDelta give a r.userSubscriptionId (-r.preConsumed) with
      | .error e => (.error (.quota e), a)
      | .ok a' => markRefunded mark a' r := by
  have hconsumed : r.status ≠ .refunded := by
    rw [h.consumed]
    nofun
  have hamount : ¬ r.preConsumed ≤ 0 := Int.not_le.mpr h.amount
  rw [refundSubscriptionPreConsume, h.named, h.record]
  cases hgive : postConsumeUserSubscriptionDelta give a r.userSubscriptionId (-r.preConsumed) with
  | error e => simp [hconsumed, hamount, hgive]
  | ok a' => simp [hconsumed, hamount, hgive]

theorem Pending.gives (hroom : HasRoom a (-r.preConsumed) (.subscription r.userSubscriptionId)) :
    postConsumeUserSubscriptionDelta .done a r.userSubscriptionId (-r.preConsumed) =
      .ok (a.saveSubscription (UserSubscription.less s r.preConsumed)) := by
  have hne : -r.preConsumed ≠ 0 := by
    have := h.amount
    omega
  obtain ⟨a', ha'⟩ := (postConsume_ok_iff hne).mpr ⟨rfl, hroom⟩
  obtain ⟨row, hrow, rfl⟩ := postConsume_saves hne ha'
  obtain rfl : s = row := Option.some.inj (h.row.symm.trans hrow)
  exact ha'

theorem Pending.keeps {give : Write} (mark : Write) (hfails : ¬(give = .done ∧
      HasRoom a (-r.preConsumed) (.subscription r.userSubscriptionId))) (b : Bool) :
    refundStep requestId (b, a) ⟨give, mark⟩ = (b, a) := by
  have hne : -r.preConsumed ≠ 0 := by
    have := h.amount
    omega
  rw [refundStep, h.refund_eq]
  cases hpost : postConsumeUserSubscriptionDelta give a r.userSubscriptionId (-r.preConsumed) with
  | error e => rfl
  | ok a' => exact absurd ((postConsume_ok_iff hne).mp ⟨a', hpost⟩) hfails

theorem Pending.interrupted
    (hroom : HasRoom a (-r.preConsumed) (.subscription r.userSubscriptionId)) (b : Bool) :
    refundStep requestId (b, a) ⟨.done, .fails⟩ =
      (b, a.saveSubscription (UserSubscription.less s r.preConsumed)) := by
  rw [refundStep, h.refund_eq, h.gives hroom]
  rfl

theorem Pending.completed
    (hroom : HasRoom a (-r.preConsumed) (.subscription r.userSubscriptionId)) (b : Bool) :
    refundStep requestId (b, a) ⟨.done, .done⟩ =
      (true, { a.saveSubscription (UserSubscription.less s r.preConsumed) with
        preConsumeRecords := a.preConsumeRecords.put { r with status := .refunded } }) := by
  rw [refundStep, h.refund_eq, h.gives hroom]
  rfl

theorem Pending.key_less : key (UserSubscription.less s r.preConsumed) = r.userSubscriptionId :=
  (UserSubscription.setUsed_id s _ _).trans (Table.find?_key h.row)

theorem Pending.less : Pending requestId r (UserSubscription.less s r.preConsumed)
      (a.saveSubscription (UserSubscription.less s r.preConsumed)) where
  named := h.named
  record := h.record
  consumed := h.consumed
  amount := h.amount
  row := Table.find?_put_of_find? h.row _ h.key_less

theorem HasRoom.less (hroom : HasRoom a (-r.preConsumed) (.subscription r.userSubscriptionId)) :
    HasRoom (a.saveSubscription (UserSubscription.less s r.preConsumed)) (-r.preConsumed)
      (.subscription r.userSubscriptionId) := by
  have hamount := h.amount
  rw [hasRoom_subscription h.row] at hroom
  rw [hasRoom_subscription h.less.row]
  simp only [UserSubscription.less, UserSubscription.setUsed_amountTotal,
    UserSubscription.setUsed_amountUsed]
  omega

end

theorem run_refunded (hnamed : isBlank requestId = false)
    (hrecord : a.preConsumeRecords.find? requestId = some r) (hrefunded : r.status = .refunded)
    (calls : List RefundWrites) : run (refundStep requestId) (true, a) calls = (true, a) := by
  induction calls with
  | nil => rfl
  | cons c rest ih =>
    have hstep : refundStep requestId (true, a) c = (true, a) := by
      rw [refundStep, refundSubscriptionPreConsume, hnamed, hrecord]
      simp only [Bool.false_eq_true, if_false, if_pos hrefunded]
    rw [run_cons, hstep, ih]

theorem Pending.run_used (h : Pending requestId r s a)
    (hroom : HasRoom a (-r.preConsumed) (.subscription r.userSubscriptionId))
    (calls : List RefundWrites) :
    (run (refundStep requestId) (false, a) calls).1 = completes calls ∧
      (run (refundStep requestId) (false, a) calls).2.subscriptionUsed r.userSubscriptionId =
        some (max 0 (s.amountUsed - giveBacks calls * r.preConsumed)) := by
  induction calls generalizing s a with
  | nil =>
    refine ⟨rfl, ?_⟩
    rw [run_nil, Accounts.subscriptionUsed, h.row]
    have := s.used_nonneg
    simp only [giveBacks, Option.map_some, Option.some.injEq]
    omega
  | cons c rest ih =>
    obtain ⟨give, mark⟩ := c
    rw [run_cons]
    cases give with
    | fails =>
      rw [h.keeps mark (by simp)]
      have hrest := ih h hroom
      simpa [completes, giveBacks] using hrest
    | done =>
      cases mark with
      | fails =>
        rw [h.interrupted hroom]
        obtain ⟨hdone, hused⟩ := ih h.less (HasRoom.less h hroom)
        refine ⟨by simpa [completes] using hdone, hused.trans ?_⟩
        have hamount := h.amount
        have hnonneg : 0 ≤ (giveBacks rest : Int) * r.preConsumed :=
          Int.mul_nonneg (Int.natCast_nonneg _) (Int.le_of_lt hamount)
        simp only [giveBacks, UserSubscription.less, UserSubscription.setUsed_amountUsed,
          Option.some.injEq, Nat.cast_add, Int.add_mul]
        omega
      | done =>
        rw [h.completed hroom]
        have hkey : r.requestId = requestId := Table.find?_key h.record
        have hmarked := Table.find?_put_of_find? h.record { r with status := .refunded } hkey
        rw [run_refunded h.named hmarked rfl rest]
        refine ⟨by simp [completes], ?_⟩
        rw [Accounts.subscriptionUsed]
        simp only [Accounts.saveSubscription]
        rw [Table.find?_put_of_find? h.row _ h.key_less, Option.map_some]
        simp only [giveBacks, UserSubscription.less, UserSubscription.setUsed_amountUsed,
          Option.some.injEq]
        omega

theorem Pending.run_full (h : Pending requestId r s a)
    (hroom : ¬HasRoom a (-r.preConsumed) (.subscription r.userSubscriptionId))
    (calls : List RefundWrites) : run (refundStep requestId) (false, a) calls = (false, a) := by
  induction calls with
  | nil => rfl
  | cons c rest ih => rw [run_cons, h.keeps c.mark (fun hc => hroom hc.2), ih]

end Calls

/-- If the subscription takes the amount back at all, only the call that carries out both writes
gives it back. The floor at 0 may hide a second one. -/
def SingleGiveBack (a : Accounts) (r : SubscriptionPreConsumeRecord) (s : UserSubscription)
    (calls : List RefundWrites) : Prop :=
  HasRoom a (-r.preConsumed) (.subscription r.userSubscriptionId) →
    if completes calls then
      (giveBacks calls = 1 ∧ r.preConsumed ≤ s.amountUsed) ∨ s.amountUsed = r.preConsumed
    else giveBacks calls = 0 ∨ s.amountUsed = 0

instance (a : Accounts) (r : SubscriptionPreConsumeRecord) (s : UserSubscription)
    (calls : List RefundWrites) : Decidable (SingleGiveBack a r s calls) :=
  inferInstanceAs (Decidable (_ → _))

/-- A sequence of calls reduces the used amount by the pre-consumed amount once if a call succeeds,
and not at all if none does, exactly under this condition. -/
theorem refund_once_iff {requestId : String} {r : SubscriptionPreConsumeRecord}
    {s : UserSubscription} {a : Accounts} (h : Pending requestId r s a)
    (calls : List RefundWrites) :
    let final := run (refundStep requestId) (false, a) calls
    final.2.subscriptionUsed r.userSubscriptionId =
        some (s.amountUsed - if final.1 then r.preConsumed else 0) ↔
      SingleGiveBack a r s calls := by
  intro final
  have hamount := h.amount
  have hnonneg := s.used_nonneg
  by_cases hroom : HasRoom a (-r.preConsumed) (.subscription r.userSubscriptionId)
  · obtain ⟨hdone, hused⟩ := h.run_used hroom calls
    have hcondition : SingleGiveBack a r s calls ↔ if completes calls then
        (giveBacks calls = 1 ∧ r.preConsumed ≤ s.amountUsed) ∨ s.amountUsed = r.preConsumed
      else giveBacks calls = 0 ∨ s.amountUsed = 0 := ⟨fun h => h hroom, fun h _ => h⟩
    rw [hcondition, hused, hdone, Option.some.injEq]
    -- Every give-back after the first one takes at least the amount once more.
    have hmore : ∀ n : Nat, n ≤ giveBacks calls →
        (n : Int) * r.preConsumed ≤ giveBacks calls * r.preConsumed := fun n hn =>
      Int.mul_le_mul_of_nonneg_right (Int.ofNat_le.mpr hn) (Int.le_of_lt hamount)
    split
    next hcompletes =>
      have hpos := giveBacks_pos hcompletes
      by_cases hone : giveBacks calls = 1
      · rw [hone]
        omega
      · have htwo := hmore 2 (by omega)
        omega
    by_cases hzero : giveBacks calls = 0
    · rw [hzero]
      omega
    · have hone := hmore 1 (by omega)
      omega
  have hfull := h.run_full hroom calls
  refine iff_of_true ?_ fun h => absurd h hroom
  rw [show final = (false, a) from hfull, Accounts.subscriptionUsed, h.row]
  simp

def sampleSubscription : UserSubscription :=
  let used : Nat := 100
  { id := 1, userId := 1, planId := 1, amountTotal := 1000, amountUsed := used, startTime := 0
    endTime := 1000, status := .active, lastResetTime := 0, nextResetTime := 0
    allowWalletOverflow := false, id_pos := Nat.one_pos, used_nonneg := Int.natCast_nonneg used }

def sampleRecord : SubscriptionPreConsumeRecord := ⟨"req", 1, 1, 30, .consumed⟩

def sampleCharged : Accounts :=
  ⟨.empty, .empty, .single sampleSubscription, .empty, .single sampleRecord⟩

theorem sampleCharged_pending : Pending "req" sampleRecord sampleSubscription sampleCharged :=
  ⟨by decide, by decide, rfl, by decide, by decide⟩

theorem refund_once_sample : SingleGiveBack sampleCharged sampleRecord sampleSubscription
        [⟨.fails, .done⟩, ⟨.done, .done⟩, ⟨.done, .done⟩] ∧
      (run (refundStep "req") (false, sampleCharged)
        [⟨.fails, .done⟩, ⟨.done, .done⟩, ⟨.done, .done⟩]).2.subscriptionUsed 1 =
          some (100 - if (run (refundStep "req") (false, sampleCharged)
            [⟨.fails, .done⟩, ⟨.done, .done⟩, ⟨.done, .done⟩]).1 then 30 else 0) := by
  have hsafe : SingleGiveBack sampleCharged sampleRecord sampleSubscription
      [⟨.fails, .done⟩, ⟨.done, .done⟩, ⟨.done, .done⟩] := by decide
  exact ⟨hsafe, (refund_once_iff sampleCharged_pending _).mpr hsafe⟩

/-- The record cannot be marked, and the amount is given back twice. -/
theorem refund_twice :
    let final := run (refundStep "req") (false, sampleCharged) [⟨.done, .fails⟩, ⟨.done, .done⟩]
    final.1 = true ∧ sampleCharged.subscriptionUsed 1 = some 100 ∧
      final.2.subscriptionUsed 1 = some (100 - 2 * 30) := by
  decide

end ZModel.Subscription
