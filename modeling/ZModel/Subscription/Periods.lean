import ZModel.Lib.Transaction
import ZModel.Subscription.CatchUp
import ZModel.Subscription.PreConsume

/-!
# What a step does to one subscription

A pre-consume walks over all active subscriptions, so its effect on one of them is a reset check,
with or without the charge, or nothing.
-/

namespace ZModel.Subscription

open Lib Store

variable {r : ChargeRequest} {c : Charged} {subs : List UserSubscription}

variable (zone now : Int)

def resetDueSubscription (w : Write) (a : Accounts) (id : Nat) : Accounts :=
  match w, a.subscriptions.find? id with
  | .done, some s =>
    if 0 < s.nextResetTime ∧ s.nextResetTime ≤ now then
      match checkReset zone now a s with
      | .ok (_, a') => a'
      | .error _ => a
    else a
  | _, _ => a

def resetUserSubscription (plan : SubscriptionPlan) (advanceResetTime : Bool)
    (s : UserSubscription) : UserSubscription :=
  let s := s.setUsed 0 (Int.natCast_nonneg .zero)
  if advanceResetTime then
    let nextReset := calcNextResetTime zone now plan s.endTime
    { s with nextResetTime := nextReset, lastResetTime := if 0 < nextReset then now else 0 }
  else s

def selectedForReset (planId : Nat) (userId : Option Nat) (now : Int) (s : UserSubscription) : Bool :=
  s.planId = planId && userId.all (s.userId = ·) && s.status = .active && now < s.endTime

def adminReset (w : Write) (a : Accounts) (planId : Nat) (userId : Option Nat)
    (advanceResetTime : Bool) : Accounts :=
  match w, getSubscriptionPlanById a planId with
  | .done, .ok plan =>
    { a with
      subscriptions := a.subscriptions.mapRows
        (fun s => if selectedForReset planId userId now s then
          resetUserSubscription zone now plan advanceResetTime s else s)
        (fun s => by
          unfold resetUserSubscription
          split
          · split <;> rfl
          · rfl) }
  | _, _ => a

inductive CheckedRow (zone now : Int) (a : Accounts) (s : UserSubscription) :
    UserSubscription → Prop where
  | kept : CheckedRow zone now a s s
  | saved {plan : SubscriptionPlan} {row : UserSubscription}
      (hplan : getSubscriptionPlanById a s.planId = .ok plan)
      (hsaved : maybeReset zone s plan now = .saved row) : CheckedRow zone now a s row

section Rows

variable {zone now : Int} {a a' : Accounts} {s s' : UserSubscription} {id : Nat}

theorem checkReset_row (h : checkReset zone now a s = .ok (s', a')) :
    CheckedRow zone now a s s' := by
  unfold checkReset at h
  split at h
  · cases h
  rename_i plan hplan
  split at h
  · cases h
    exact .kept
  next hsaved =>
    cases h
    exact .saved hplan hsaved
  · cases h

theorem CheckedRow.frame (h : CheckedRow zone now a' s s') (hframe : Frame a a') :
    CheckedRow zone now a s s' := by
  cases h with
  | kept => exact .kept
  | saved hplan hsaved => exact .saved (getSubscriptionPlanById_frame hframe _ ▸ hplan) hsaved

theorem chargeFirst_unlisted (hlisted : Listed a subs) (hid : id ∉ subs.map UserSubscription.id)
    (h : chargeFirst zone now r subs a = .ok c) :
    c.accounts.subscriptions.find? id = a.subscriptions.find? id ∧ c.choice ≠ some id := by
  induction subs generalizing a with
  | nil =>
    cases h
    exact ⟨rfl, nofun⟩
  | cons t rest ih =>
    obtain ⟨hne, hrest⟩ := not_or.mp (mt List.mem_cons.mpr hid)
    simp only [chargeFirst] at h
    split at h
    · cases h
    rename_i t' a₁ hcheck
    obtain ⟨-, hid', hrow, hother⟩ := checkReset_stored (hlisted.current t (.head _)) hcheck
    split at h
    · obtain ⟨hsame, hchoice⟩ := ih (hlisted.tail hother) hrest h
      exact ⟨hsame.trans (hother id hne), hchoice⟩
    split at h
    · cases h
    cases h
    have hne' : id ≠ t'.id := by rwa [hid']
    refine ⟨(Table.find?_put_of_ne hne').trans (hother id hne), ?_⟩
    exact fun hchoice => hne' (Option.some.inj hchoice).symm

theorem chargeFirst_row (hlisted : Listed a subs) (hs : a.subscriptions.find? id = some s)
    (h : chargeFirst zone now r subs a = .ok c) :
    ∃ row, CheckedRow zone now a s row ∧ c.accounts.subscriptions.find? id =
      some (if c.choice = some id then r.charge row else row) := by
  induction subs generalizing a with
  | nil =>
    cases h
    exact ⟨s, .kept, hs⟩
  | cons t rest ih =>
    have hcurrent := hlisted.current t (.head _)
    simp only [chargeFirst] at h
    split at h
    · cases h
    rename_i t' a₁ hcheck
    obtain ⟨hframe, hid, hrow, hother⟩ := checkReset_stored hcurrent hcheck
    by_cases heq : id = t.id
    · -- The row is checked now, and the rest of the walk does not come back to it.
      subst heq
      obtain rfl : s = t := Option.some.inj (hs.symm.trans hcurrent)
      refine ⟨t', checkReset_row hcheck, ?_⟩
      split at h
      · obtain ⟨hsame, hchoice⟩ := chargeFirst_unlisted (hlisted.tail hother)
          (List.nodup_cons.mp hlisted.nodup).1 h
        rw [if_neg hchoice, hsame, hrow]
      split at h
      · cases h
      cases h
      rw [← hid] at hrow ⊢
      simp only [Charged.choice]
      exact Table.find?_put_of_find? hrow _ rfl
    split at h
    · obtain ⟨row, hchecked, hfind⟩ :=
        ih (hlisted.tail hother) ((hother id heq).trans hs) h
      exact ⟨row, hchecked.frame hframe, hfind⟩
    split at h
    · cases h
    cases h
    have hne : id ≠ t'.id := by rwa [hid]
    refine ⟨s, .kept, ?_⟩
    simp only [Charged.choice, Option.some.injEq, if_neg hne.symm]
    exact (Table.find?_put_of_ne hne).trans ((hother id heq).trans hs)

theorem chargeFirst_frame (hlisted : Listed a subs) (h : chargeFirst zone now r subs a = .ok c) :
    Frame a c.accounts := by
  induction subs generalizing a with
  | nil =>
    cases h
    exact .refl a
  | cons t rest ih =>
    simp only [chargeFirst] at h
    split at h
    · cases h
    rename_i t' a₁ hcheck
    obtain ⟨hframe, -, -, hother⟩ := checkReset_stored (hlisted.current t (.head _)) hcheck
    split at h
    · exact hframe.trans (ih (hlisted.tail hother) h)
    split at h
    · cases h
    · cases h
      exact hframe.trans ⟨rfl, rfl, rfl⟩

theorem preConsume_walk {w : Write} {requestId : String} {userId : Nat} {amount : Int}
    {result : PreConsumeResult}
    (h : preConsumeUserSubscription zone now w a requestId userId amount = .ok (result, a')) :
    (a' = a ∧ ∃ record, a.preConsumeRecords.find? requestId = some record) ∨
      a.preConsumeRecords.find? requestId = none ∧ ∃ (hpos : 0 < amount) (s : UserSubscription),
        result.userSubscriptionId = s.id ∧ chargeFirst zone now ⟨requestId, userId, amount, hpos⟩
            (activeSubscriptions a userId now) a = .ok (.charged s a') := by
  unfold preConsumeUserSubscription at h
  split at h
  · cases h
  split at h
  · cases h
  split at h
  next hpos =>
    cases hrecord : a.preConsumeRecords.find? requestId with
    | some record =>
      rw [hrecord] at h
      obtain ⟨result', -, hresult⟩ := bind_eq_ok.mp h
      cases hresult
      exact .inl ⟨rfl, record, rfl⟩
    | none =>
      rw [hrecord] at h
      simp only [freshPreConsume] at h
      split at h
      · cases h
      split at h
      · cases h
      · cases h
      rename_i s a₁ hwalk
      split at h
      · cases h
      · cases h
        exact .inr ⟨rfl, hpos, s, rfl, hwalk⟩
  · cases h

def rowBegins (zone now : Int) (a : Accounts) (s row : UserSubscription) : Bool :=
  match getSubscriptionPlanById a s.planId with
  | .error _ => false
  | .ok plan => decide (ResetDue zone s plan now) && row.lastResetTime ≠ s.lastResetTime

def beginsPeriod (zone now : Int) (a a' : Accounts) (id : Nat) : Bool :=
  match a.subscriptions.find? id, a'.subscriptions.find? id with
  | some s, some row => rowBegins zone now a s row
  | _, _ => false

theorem rowBegins_self : rowBegins zone now a s s = false := by
  unfold rowBegins
  split <;> simp

theorem beginsPeriod_eq (hs : a.subscriptions.find? id = some s)
    (hrow : a'.subscriptions.find? id = some s') :
    beginsPeriod zone now a a' id = rowBegins zone now a s s' := by
  unfold beginsPeriod
  rw [hs, hrow]

theorem CheckedRow.cases (h : CheckedRow zone now a s s') :
    (rowBegins zone now a s s' = false ∧ ∃ last next, s' = { s with
      lastResetTime := last, nextResetTime := next }) ∨
    (rowBegins zone now a s s' = true ∧ ∃ plan last next,
      getSubscriptionPlanById a s.planId = .ok plan ∧ ResetDue zone s plan now ∧
      maybeReset zone s plan now = .saved s' ∧ s' = { s with
        amountUsed := 0, used_nonneg := Int.le_refl 0, lastResetTime := last,
        nextResetTime := next }) := by
  cases h with
  | kept => exact .inl ⟨rowBegins_self, _, _, rfl⟩
  | @saved plan row hplan hsaved =>
    by_cases hdue : ResetDue zone s plan now
    · right
      have hends : LoopEnds zone s plan now := by
        by_contra hends
        have hdiverges := maybeReset_diverges_iff.mpr ⟨⟨hdue.1, hdue.2.1⟩, hends⟩
        rw [hsaved] at hdiverges
        cases hdiverges
      obtain ⟨last, next, hsaved', hmoved⟩ := due_saved hdue hends
      obtain rfl : s' = _ := ResetOutcome.saved.inj (hsaved.symm.trans hsaved')
      refine ⟨?_, plan, last, next, hplan, hdue, hsaved, rfl⟩
      unfold rowBegins
      rw [hplan]
      simp [hdue, hmoved]
    left
    obtain hsame | ⟨last, next, hsaved'⟩ := maybeReset_of_not_due hdue
    · rw [hsaved] at hsame
      cases hsame
    refine ⟨?_, last, next, ResetOutcome.saved.inj (hsaved.symm.trans hsaved')⟩
    unfold rowBegins
    rw [hplan]
    simp [hdue]

theorem CheckedRow.used (h : CheckedRow zone now a s s') :
    s'.amountUsed = if rowBegins zone now a s s' then 0 else s.amountUsed := by
  obtain ⟨hbegins, last, next, rfl⟩ | ⟨hbegins, plan, last, next, -, -, -, rfl⟩ := h.cases
  · rw [hbegins]
    rfl
  · rw [hbegins]
    rfl

theorem resetDueSubscription_row (zone now : Int) (w : Write) (other : Nat)
    (hs : a.subscriptions.find? id = some s) :
    ∃ row, CheckedRow zone now a s row ∧
      (resetDueSubscription zone now w a other).subscriptions.find? id = some row ∧
      (row = s ∨ 0 < s.nextResetTime ∧ s.nextResetTime ≤ now) := by
  unfold resetDueSubscription
  split
  next t ht =>
    split
    next hdue =>
      split
      next t' a₁ hcheck =>
        have hid : t.id = other := Table.find?_key ht
        rw [← hid] at ht
        obtain ⟨-, -, hrow, hother⟩ := checkReset_stored ht hcheck
        by_cases heq : id = t.id
        · subst heq
          obtain rfl : s = t := Option.some.inj (hs.symm.trans ht)
          exact ⟨t', checkReset_row hcheck, hrow, .inr hdue⟩
        · exact ⟨s, .kept, (hother id heq).trans hs, .inl rfl⟩
      · exact ⟨s, .kept, hs, .inl rfl⟩
    · exact ⟨s, .kept, hs, .inl rfl⟩
  · exact ⟨s, .kept, hs, .inl rfl⟩

theorem resetDueSubscription_frame (zone now : Int) (w : Write) (a : Accounts) (id : Nat) :
    Frame a (resetDueSubscription zone now w a id) ∧
      (resetDueSubscription zone now w a id).preConsumeRecords = a.preConsumeRecords := by
  unfold resetDueSubscription
  split
  next t ht =>
    split
    · split
      next hcheck =>
        have hid : t.id = id := Table.find?_key ht
        exact ⟨(checkReset_stored (hid ▸ ht) hcheck).1, checkReset_records hcheck⟩
      · exact ⟨.refl a, rfl⟩
    · exact ⟨.refl a, rfl⟩
  · exact ⟨.refl a, rfl⟩

end Rows

end ZModel.Subscription
