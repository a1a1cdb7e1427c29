import ZModel.Lib.Run
import ZModel.Subscription.Periods

/-!
# Charges and periods

A reset sets the used amount of a subscription to 0, but a request charged before it may still be
adjusted or refunded. The ledger below keeps the charges of the requests of the current period.
-/

namespace ZModel.Subscription

open Lib Store

structure PeriodLedger where
  accounts : Accounts
  charges : List (String × Int)

inductive LedgerStep where
  | preConsume (now : Int) (w : Write) (requestId : String) (userId : Nat) (amount : Int)
  | adjust (w : Write) (requestId : String) (delta : Int)
  | refund (give mark : Write) (requestId : String)
  | resetDue (now : Int) (w : Write) (id : Nat)

structure UsedChange where
  requestId : String
  subscription : Nat
  delta : Int
  write : Write

def LedgerStep.change (a : Accounts) : LedgerStep → Option UsedChange
  | .adjust w requestId delta => (a.preConsumeRecords.find? requestId).map fun record =>
    ⟨requestId, record.userSubscriptionId, delta, w⟩
  | .refund give _ requestId =>
    if isBlank requestId then none
    else (a.preConsumeRecords.find? requestId).bind fun record =>
      if record.status = .refunded ∨ record.preConsumed ≤ 0 then none
      else some ⟨requestId, record.userSubscriptionId, -record.preConsumed, give⟩
  | _ => none

def UsedChange.transaction (c : UsedChange) (a : Accounts) : Except QuotaError Accounts :=
  postConsumeUserSubscriptionDelta c.write a c.subscription c.delta

def LedgerStep.apply (zone : Int) (a : Accounts) : LedgerStep → Accounts
  | .preConsume now w requestId userId amount =>
    commit a ((preConsumeUserSubscription zone now w a requestId userId amount).map Prod.snd)
  | .adjust w requestId delta =>
    match a.preConsumeRecords.find? requestId with
    | none => a
    | some record =>
      commit a (postConsumeUserSubscriptionDelta w a record.userSubscriptionId delta)
  | .refund give mark requestId => (refundSubscriptionPreConsume give mark a requestId).2
  | .resetDue now w id => resetDueSubscription zone now w a id

def attributed (charges : List (String × Int)) (requestId : String) : Bool :=
  charges.any fun c => c.1 = requestId

def chargedNow (zone now : Int) (w : Write) (a : Accounts) (requestId : String) (userId : Nat)
    (amount : Int) (id : Nat) : Bool :=
  match preConsumeUserSubscription zone now w a requestId userId amount with
  | .error _ => false
  | .ok (result, _) =>
    result.userSubscriptionId = id && (a.preConsumeRecords.find? requestId).isNone

def LedgerStep.charges (zone : Int) (id : Nat) (l : PeriodLedger) (e : LedgerStep) :
    List (String × Int) :=
  match e with
  | .preConsume now w requestId userId amount =>
    let charges :=
      if beginsPeriod zone now l.accounts (e.apply zone l.accounts) id then [] else l.charges
    if chargedNow zone now w l.accounts requestId userId amount id then
      (requestId, amount) :: charges
    else charges
  | .resetDue now _ _ =>
    if beginsPeriod zone now l.accounts (e.apply zone l.accounts) id then [] else l.charges
  | _ =>
    match e.change l.accounts with
    | none => l.charges
    | some c =>
      match c.transaction l.accounts with
      | .error _ => l.charges
      | .ok _ =>
        if c.subscription = id ∧ attributed l.charges c.requestId then
          (c.requestId, c.delta) :: l.charges
        else l.charges

def ledgerStep (zone : Int) (id : Nat) (l : PeriodLedger) (e : LedgerStep) : PeriodLedger :=
  ⟨e.apply zone l.accounts, e.charges zone id l⟩

def Accounted (id : Nat) (l : PeriodLedger) : Prop :=
  ∃ s ∈ l.accounts.subscriptions.find? id, s.amountUsed = (l.charges.map Prod.snd).sum

def StaysInPeriod (id : Nat) (l : PeriodLedger) (e : LedgerStep) : Prop :=
  ∀ c ∈ e.change l.accounts, c.subscription = id → c.delta ≠ 0 → c.write = .done →
    HasRoom l.accounts c.delta (.subscription id) →
    ∀ s ∈ l.accounts.subscriptions.find? id,
      if attributed l.charges c.requestId then 0 ≤ s.amountUsed + c.delta
      else s.amountUsed = 0 ∧ c.delta < 0

instance (id : Nat) (l : PeriodLedger) (e : LedgerStep) : Decidable (StaysInPeriod id l e) :=
  inferInstanceAs (Decidable (∀ c ∈ e.change l.accounts, _))

section Steps

variable {zone : Int} {id : Nat} {l : PeriodLedger} {s row : UserSubscription}

theorem accounted_iff (hs : l.accounts.subscriptions.find? id = some s) :
    Accounted id l ↔ s.amountUsed = (l.charges.map Prod.snd).sum := by
  simp [Accounted, hs]

theorem sum_charges_preConsume (now : Int) (w : Write) (requestId : String) (userId : Nat)
    (amount : Int) :
    ((LedgerStep.charges zone id l (.preConsume now w requestId userId amount)).map Prod.snd).sum =
      (if chargedNow zone now w l.accounts requestId userId amount id then amount else 0) +
        if beginsPeriod zone now l.accounts
          (LedgerStep.apply zone l.accounts (.preConsume now w requestId userId amount)) id then 0
        else (l.charges.map Prod.snd).sum := by
  simp only [LedgerStep.charges]
  split <;> split <;> simp

theorem accounted_preConsume (now : Int) (w : Write) (requestId : String) (userId : Nat)
    (amount : Int) (hs : l.accounts.subscriptions.find? id = some s)
    (h : s.amountUsed = (l.charges.map Prod.snd).sum)
    (hrow : (LedgerStep.apply zone l.accounts
      (.preConsume now w requestId userId amount)).subscriptions.find? id = some row) :
    row.amountUsed = ((LedgerStep.charges zone id l
      (.preConsume now w requestId userId amount)).map Prod.snd).sum := by
  rw [sum_charges_preConsume, beginsPeriod_eq hs hrow, ← h]
  dsimp only [LedgerStep.apply] at hrow
  cases hpre : preConsumeUserSubscription zone now w l.accounts requestId userId amount with
  | error e =>
    have hcharged : chargedNow zone now w l.accounts requestId userId amount id = false := by
      simp [chargedNow, hpre]
    rw [hpre] at hrow
    obtain rfl : s = row := Option.some.inj (hs.symm.trans hrow)
    simp [hcharged, rowBegins_self]
  | ok done =>
    obtain ⟨result, a'⟩ := done
    have hcharged : chargedNow zone now w l.accounts requestId userId amount id =
        (decide (result.userSubscriptionId = id) &&
          (l.accounts.preConsumeRecords.find? requestId).isNone) := by
      simp [chargedNow, hpre]
    rw [hpre] at hrow
    obtain ⟨rfl, record, hrecord⟩ | ⟨hfresh, hpos, t, hid, hwalk⟩ := preConsume_walk hpre
    · obtain rfl : s = row := Option.some.inj (hs.symm.trans hrow)
      simp [hcharged, hrecord, rowBegins_self]
    obtain ⟨checked, hchecked, hfind⟩ :=
      chargeFirst_row (listed_active l.accounts userId now) hs hwalk
    have hused := hchecked.used
    obtain rfl : row = _ := Option.some.inj (hrow.symm.trans hfind)
    by_cases hchoice : t.id = id
    · have hrowBegins : rowBegins zone now l.accounts s
          (ChargeRequest.charge ⟨requestId, userId, amount, hpos⟩ checked) =
          rowBegins zone now l.accounts s checked := rfl
      simp only [hcharged, hid, hfresh, Charged.choice, hchoice, if_true, hrowBegins, ← hused]
      simp [ChargeRequest.charge, Int.add_comm]
    · simp [hcharged, hid, Charged.choice, hchoice, hused]

theorem accounted_resetDue (now : Int) (w : Write) (other : Nat)
    (hs : l.accounts.subscriptions.find? id = some s)
    (h : s.amountUsed = (l.charges.map Prod.snd).sum)
    (hrow : (LedgerStep.apply zone l.accounts (.resetDue now w other)).subscriptions.find? id =
      some row) :
    row.amountUsed = ((LedgerStep.charges zone id l (.resetDue now w other)).map Prod.snd).sum := by
  obtain ⟨checked, hchecked, hfind, -⟩ := resetDueSubscription_row zone now w other hs
  obtain rfl : row = checked := Option.some.inj (hrow.symm.trans hfind)
  rw [hchecked.used]
  simp only [LedgerStep.charges, beginsPeriod_eq hs hrow]
  split
  · simp
  · exact h

def LedgerStep.isChange : LedgerStep → Bool
  | .adjust .. | .refund .. => true
  | _ => false

variable {e : LedgerStep}

theorem apply_change (he : e.isChange = true) (a : Accounts) :
    (e.apply zone a).subscriptions = match e.change a with
      | none => a.subscriptions
      | some c => (commit a (c.transaction a)).subscriptions := by
  cases e with
  | preConsume => cases he
  | resetDue => cases he
  | adjust w requestId delta =>
    dsimp only [LedgerStep.apply, LedgerStep.change]
    cases a.preConsumeRecords.find? requestId <;> rfl
  | refund give mark requestId =>
    dsimp only [LedgerStep.apply, LedgerStep.change, refundSubscriptionPreConsume]
    have hmark : ∀ b record, (markRefunded mark b record).2.subscriptions = b.subscriptions := by
      intro b record
      cases mark <;> rfl
    cases isBlank requestId with
    | true => rfl
    | false =>
      cases a.preConsumeRecords.find? requestId with
      | none => rfl
      | some record =>
        simp only [Bool.false_eq_true, if_false, Option.bind_some]
        by_cases hstatus : record.status = .refunded
        · simp only [hstatus, if_true, true_or]
        by_cases hamount : record.preConsumed ≤ 0
        · simp only [hstatus, hamount]
          exact hmark a record
        simp only [hstatus, hamount, if_false, or_self]
        dsimp only [UsedChange.transaction]
        cases postConsumeUserSubscriptionDelta give a record.userSubscriptionId
            (-record.preConsumed) with
        | error err => rfl
        | ok a' => exact hmark a' record

theorem charges_change (he : e.isChange = true) :
    e.charges zone id l = match e.change l.accounts with
      | none => l.charges
      | some c =>
        match c.transaction l.accounts with
        | .error _ => l.charges
        | .ok _ =>
          if c.subscription = id ∧ attributed l.charges c.requestId then
            (c.requestId, c.delta) :: l.charges
          else l.charges := by
  cases e with
  | preConsume => cases he
  | resetDue => cases he
  | adjust => rfl
  | refund => rfl

theorem transaction_row {c : UsedChange} {a a' : Accounts} (hc : c.transaction a = .ok a')
    (hother : c.subscription ≠ id ∨ c.delta = 0) :
    a'.subscriptions.find? id = a.subscriptions.find? id := by
  by_cases hdelta : c.delta = 0
  · unfold UsedChange.transaction postConsumeUserSubscriptionDelta at hc
    rw [if_pos hdelta] at hc
    split at hc
    · cases hc
    · cases hc
      rfl
  obtain ⟨t, ht, rfl⟩ := postConsume_saves hdelta hc
  have hid : t.id = c.subscription := Table.find?_key ht
  refine Table.find?_put_of_ne ?_
  rw [key_subscription, UserSubscription.setUsed_id, hid]
  exact (hother.resolve_right hdelta).symm

theorem apply_row (hs : l.accounts.subscriptions.find? id = some s) (e : LedgerStep) :
    ∃ row, (e.apply zone l.accounts).subscriptions.find? id = some row := by
  have hchange : e.isChange = true →
      ∃ row, (e.apply zone l.accounts).subscriptions.find? id = some row := by
    intro he
    rw [apply_change he]
    cases e.change l.accounts with
    | none => exact ⟨s, hs⟩
    | some c =>
      refine commit_rule (P := fun a : Accounts => ∃ row, a.subscriptions.find? id = some row) ⟨s, hs⟩ ?_
      intro a' hc
      by_cases hother : c.subscription ≠ id ∨ c.delta = 0
      · exact ⟨s, (transaction_row hc hother).trans hs⟩
      obtain ⟨hsub, hdelta⟩ := not_or.mp hother
      obtain ⟨t, ht, rfl⟩ := postConsume_saves hdelta hc
      rw [not_not.mp hsub] at ht
      have hid : key t = id := Table.find?_key ht
      exact ⟨_, Table.find?_put_of_find? ht _ hid⟩
  cases e with
  | preConsume now w requestId userId amount =>
    refine commit_rule (P := fun a : Accounts => ∃ row, a.subscriptions.find? id = some row) ⟨s, hs⟩ ?_
    intro a' ha'
    cases hpre : preConsumeUserSubscription zone now w l.accounts requestId userId amount with
    | error err =>
      rw [hpre] at ha'
      cases ha'
    | ok done =>
      rw [hpre] at ha'
      cases ha'
      obtain ⟨hsame, -⟩ | ⟨-, hpos, t, -, hwalk⟩ := preConsume_walk hpre
      · exact ⟨s, hsame ▸ hs⟩
      obtain ⟨checked, -, hfind⟩ := chargeFirst_row (listed_active l.accounts userId now) hs hwalk
      exact ⟨_, hfind⟩
  | resetDue now w other =>
    obtain ⟨row, -, hrow, -⟩ := resetDueSubscription_row zone now w other hs
    exact ⟨row, hrow⟩
  | adjust => exact hchange rfl
  | refund => exact hchange rfl

theorem accounted_change_iff (he : e.isChange = true)
    (hs : l.accounts.subscriptions.find? id = some s)
    (h : s.amountUsed = (l.charges.map Prod.snd).sum)
    (hrow : (e.apply zone l.accounts).subscriptions.find? id = some row) :
    row.amountUsed = ((e.charges zone id l).map Prod.snd).sum ↔ StaysInPeriod id l e := by
  unfold StaysInPeriod
  rw [charges_change he]
  rw [apply_change he] at hrow
  cases hchange : e.change l.accounts with
  | none =>
    rw [hchange] at hrow
    obtain rfl : s = row := Option.some.inj (hs.symm.trans hrow)
    simp [h]
  | some c =>
    rw [hchange] at hrow
    dsimp only at hrow
    simp only [Option.mem_def, Option.some.injEq, forall_eq', hs]
    cases hc : c.transaction l.accounts with
    | error err =>
      rw [hc] at hrow
      obtain rfl : s = row := Option.some.inj (hs.symm.trans hrow)
      refine iff_of_true h fun hsub hdelta hwrite hroom => ?_
      -- A change that fits and is written does not fail.
      obtain ⟨a', ha'⟩ := (postConsume_ok_iff hdelta).mpr ⟨hwrite, hsub ▸ hroom⟩
      rw [UsedChange.transaction, ha'] at hc
      cases hc
    | ok a' =>
      rw [hc] at hrow
      dsimp only [commit] at hrow ⊢
      by_cases hother : c.subscription ≠ id ∨ c.delta = 0
      · rw [transaction_row hc hother] at hrow
        obtain rfl : s = row := Option.some.inj (hs.symm.trans hrow)
        refine iff_of_true ?_ fun hsub hdelta => (hother.elim (· hsub) (hdelta ·)).elim
        split
        next hattributed =>
          have hdelta := hother.resolve_left (not_not.mpr hattributed.1)
          rw [List.map_cons, List.sum_cons, hdelta, Int.zero_add]
          exact h
        · exact h
      obtain ⟨hsub, hdelta⟩ := not_or.mp hother
      obtain rfl := not_not.mp hsub
      obtain ⟨hwrite, hroom⟩ := (postConsume_ok_iff hdelta).mp ⟨a', hc⟩
      obtain ⟨t, ht, rfl⟩ := postConsume_saves hdelta hc
      obtain rfl : s = t := Option.some.inj (hs.symm.trans ht)
      have hid : key s = c.subscription := Table.find?_key hs
      obtain rfl : row = _ := Option.some.inj (hrow.symm.trans (Table.find?_put_of_find? hs _ hid))
      simp only [true_and, forall_const, hdelta, hwrite, hroom, ne_eq, not_false_eq_true]
      have hnonneg := s.used_nonneg
      cases attributed l.charges c.requestId with
      | true =>
        simp only [if_true, List.map_cons, List.sum_cons, UserSubscription.setUsed_amountUsed]
        omega
      | false =>
        simp only [Bool.false_eq_true, if_false, UserSubscription.setUsed_amountUsed]
        omega

theorem accounted_step_iff (l : PeriodLedger) (e : LedgerStep) (h : Accounted id l) :
    Accounted id (ledgerStep zone id l e) ↔ StaysInPeriod id l e := by
  obtain ⟨s, hs, hused⟩ := h
  obtain ⟨row, hrow⟩ := apply_row hs e
  rw [accounted_iff (l := ledgerStep zone id l e) hrow]
  cases e with
  | preConsume now w requestId userId amount =>
    exact iff_of_true (accounted_preConsume now w requestId userId amount hs hused hrow) nofun
  | resetDue now w other =>
    exact iff_of_true (accounted_resetDue now w other hs hused hrow) nofun
  | adjust w requestId delta =>
    exact accounted_change_iff (e := .adjust w requestId delta) rfl hs hused hrow
  | refund give mark requestId =>
    exact accounted_change_iff (e := .refund give mark requestId) rfl hs hused hrow

end Steps

/-- In every interleaving of pre-consumes, adjustments, refunds and resets the used amount is always
the sum of the net charges of the current period exactly if every change stays in the period. -/
theorem used_is_charged_iff (zone : Int) (id : Nat) {l : PeriodLedger} (h : Accounted id l)
    (steps : List LedgerStep) :
    (∀ before, before <+: steps → Accounted id (run (ledgerStep zone id) l before)) ↔
      Along (ledgerStep zone id) (StaysInPeriod id) l steps :=
  run_invariant_iff (ledgerStep zone id) (Accounted id) accounted_step_iff h steps

def samplePeriodic : UserSubscription :=
  { id := 1, userId := 1, planId := 1, amountTotal := 1000, amountUsed := 0, startTime := 1000
    endTime := 9000, status := .active, lastResetTime := 1000, nextResetTime := 1100
    allowWalletOverflow := false, id_pos := Nat.one_pos, used_nonneg := Int.natCast_nonneg .zero }

def samplePeriodLedger : PeriodLedger :=
  ⟨⟨.empty, .empty, .single samplePeriodic, .single ⟨1, "custom", 100⟩, .empty⟩, []⟩

theorem used_is_charged_sample :
    let steps : List LedgerStep :=
      [.preConsume 1050 .done "a" 1 30, .preConsume 1150 .done "b" 1 20, .adjust .done "b" 5,
        .refund .done .done "b"]
    Along (ledgerStep 0 1) (StaysInPeriod 1) samplePeriodLedger steps ∧ ∀ before, before <+: steps →
        Accounted 1 (run (ledgerStep 0 1) samplePeriodLedger before) := by
  intro steps
  have hstart : Accounted 1 samplePeriodLedger := ⟨samplePeriodic, by decide, by decide⟩
  have hsteps : Along (ledgerStep 0 1) (StaysInPeriod 1) samplePeriodLedger steps := by
    decide +kernel
  exact ⟨hsteps, (used_is_charged_iff 0 1 hstart steps).mpr hsteps⟩

/-- The refund of 30 that were charged before the reset takes the 20 of the new period. -/
theorem refund_crosses_period :
    let l := run (ledgerStep 0 1) samplePeriodLedger
      [.preConsume 1050 .done "a" 1 30, .preConsume 1150 .done "b" 1 20, .refund .done .done "a"]
    l.charges = [("b", 20)] ∧ l.accounts.subscriptionUsed 1 = some 0 := by
  decide +kernel

end ZModel.Subscription
