import ZModel.Lib.Run
import ZModel.Subscription.Periods

/-!
# Automatic resets and the boundaries of periods

An automatic reset waits for the boundary after the last one. If an administrator advances the times
beyond the end of the subscription, both are stored as 0, and the next check counts from the start.
-/

namespace ZModel.Subscription

open Lib Store

variable (zone : Int)

def IsBoundary (plan : SubscriptionPlan) (anchor t : Int) : Prop :=
  match normalizeResetPeriod plan.quotaResetPeriod with
  | .never => False
  | .daily => ∃ day, t = dayStart zone day
  | .weekly => ∃ day, weekday day = 1 ∧ t = dayStart zone day
  | .monthly => ∃ year month, 1 ≤ month ∧ month ≤ 12 ∧ t = dayStart zone (firstOfMonth year month)
  | .custom => ∃ k : Nat, 0 < k ∧ t = anchor + k * plan.quotaResetCustomSeconds

structure HasPeriod (plan : SubscriptionPlan) : Prop where
  period : normalizeResetPeriod plan.quotaResetPeriod ≠ .never
  custom : normalizeResetPeriod plan.quotaResetPeriod = .custom →
    0 < plan.quotaResetCustomSeconds ∧ plan.quotaResetCustomSeconds ≤ 9223372036

instance (plan : SubscriptionPlan) : Decidable (HasPeriod plan) :=
  decidable_of_iff (normalizeResetPeriod plan.quotaResetPeriod ≠ .never ∧
    (normalizeResetPeriod plan.quotaResetPeriod = .custom →
      0 < plan.quotaResetCustomSeconds ∧ plan.quotaResetCustomSeconds ≤ 9223372036))
    ⟨fun h => ⟨h.1, h.2⟩, fun h => ⟨h.period, h.custom⟩⟩

section Plan

variable {zone endUnix anchor : Int} {plan : SubscriptionPlan}

theorem HasPeriod.step (h : HasPeriod plan)
    (hcustom : normalizeResetPeriod plan.quotaResetPeriod = .custom) :
    customStep plan = plan.quotaResetCustomSeconds := by
  obtain ⟨hpos, hmax⟩ := h.custom hcustom
  unfold customStep wrapInt64
  omega

theorem HasPeriod.forward (h : HasPeriod plan) (b : Int) :
    calcNextResetTime zone b plan endUnix = 0 ∨ b < calcNextResetTime zone b plan endUnix := by
  by_cases hcustom : normalizeResetPeriod plan.quotaResetPeriod = .custom
  · obtain ⟨hpos, -⟩ := h.custom hcustom
    rw [calcNextResetTime_custom hcustom hpos, h.step hcustom]
    exact lt_before_end (by omega)
  · exact lt_calcNextResetTime hcustom

def OnPeriod (plan : SubscriptionPlan) (anchor base : Int) : Prop :=
  normalizeResetPeriod plan.quotaResetPeriod = .custom →
    ∃ k : Nat, base = anchor + k * plan.quotaResetCustomSeconds

theorem IsBoundary.onPeriod {t : Int} (h : IsBoundary zone plan anchor t) :
    OnPeriod plan anchor t := by
  intro hcustom
  unfold IsBoundary at h
  rw [hcustom] at h
  obtain ⟨k, -, hk⟩ := h
  exact ⟨k, hk⟩

theorem cut_eq {next : Int} (h : 0 < if 0 < endUnix ∧ endUnix < next then 0 else next) :
    (if 0 < endUnix ∧ endUnix < next then 0 else next) = next := by
  split at h
  · exact absurd h (Int.lt_irrefl 0)
  next hend =>
    exact if_neg hend

theorem isBoundary_next (hplan : HasPeriod plan) {base : Int} (hbase : OnPeriod plan anchor base)
    (hpos : 0 < calcNextResetTime zone base plan endUnix) :
    IsBoundary zone plan anchor (calcNextResetTime zone base plan endUnix) := by
  unfold IsBoundary
  cases hp : normalizeResetPeriod plan.quotaResetPeriod with
  | never => exact hplan.period hp
  | custom =>
    obtain ⟨hseconds, -⟩ := hplan.custom hp
    obtain ⟨k, hk⟩ := hbase hp
    rw [calcNextResetTime_custom hp hseconds] at hpos ⊢
    rw [cut_eq hpos, hplan.step hp, hk]
    refine ⟨k + 1, Nat.succ_pos k, ?_⟩
    rw [Nat.cast_add, Int.add_mul, Nat.cast_one, Int.one_mul, Int.add_assoc]
  | daily =>
    unfold calcNextResetTime at hpos ⊢
    rw [hp] at hpos ⊢
    exact ⟨_, cut_eq hpos⟩
  | weekly =>
    unfold calcNextResetTime at hpos ⊢
    rw [hp] at hpos ⊢
    refine ⟨_, ?_, cut_eq hpos⟩
    unfold weekday
    split <;> omega
  | monthly =>
    unfold calcNextResetTime at hpos ⊢
    rw [hp] at hpos ⊢
    obtain ⟨year, month, hlow, hhigh, hfirst⟩ := firstOfNextMonth_eq (localDay zone base)
    exact ⟨year, month, hlow, hhigh, (cut_eq hpos).trans (congrArg _ hfirst)⟩

end Plan

structure ResetHistory where
  accounts : Accounts
  time : Int
  automatic : Option Int := none
  advanced : Option Int := none

inductive ResetStep where
  | scheduled (now : Int) (w : Write) (id : Nat)
  | preConsume (now : Int) (w : Write) (requestId : String) (userId : Nat) (amount : Int)
  | adminReset (now : Int) (w : Write) (planId : Nat) (userId : Option Nat) (advance : Bool)
  | adjust (now : Int) (w : Write) (id : Nat) (delta : Int)

variable (id : Nat) (a : Accounts)

namespace ResetStep

def now : ResetStep → Int
  | scheduled now .. | preConsume now .. | adminReset now .. | adjust now .. => now

def apply : ResetStep → Accounts
  | scheduled now w id => resetDueSubscription zone now w a id
  | preConsume now w requestId userId amount =>
    commit a ((preConsumeUserSubscription zone now w a requestId userId amount).map Prod.snd)
  | adminReset now w planId userId advance =>
    Subscription.adminReset zone now w a planId userId advance
  | adjust _ w id delta => commit a (postConsumeUserSubscriptionDelta w a id delta)

def isAutomatic : ResetStep → Bool
  | scheduled .. | preConsume .. => true
  | _ => false

def clears (e : ResetStep) : Bool :=
  e.isAutomatic && beginsPeriod zone e.now a (e.apply zone a) id

def advancing : ResetStep → Option (SubscriptionPlan × UserSubscription)
  | adminReset now .done planId userId true =>
    match getSubscriptionPlanById a planId, a.subscriptions.find? id with
    | .ok plan, some s => if selectedForReset planId userId now s then some (plan, s) else none
    | _, _ => none
  | _ => none

end ResetStep

def resetStep (h : ResetHistory) (e : ResetStep) : ResetHistory where
  accounts := e.apply zone h.accounts
  time := e.now
  automatic := if e.clears zone id h.accounts then some e.now else h.automatic
  advanced := if (e.advancing id h.accounts).isSome then some e.now else h.advanced

def ResetHistory.anchor (h : ResetHistory) (start : Int) : Int := h.advanced.getD start

def ResetHistory.latest (h : ResetHistory) (start : Int) : Int :=
  max start (max (h.automatic.getD start) (h.advanced.getD start))

def InOrder (h : ResetHistory) (e : ResetStep) : Prop := h.time ≤ e.now

/-- The times are advanced only if another boundary lies within the subscription. -/
def AdvancesWithin (h : ResetHistory) (e : ResetStep) : Prop :=
  ∀ found ∈ e.advancing id h.accounts, 0 < calcNextResetTime zone e.now found.1 found.2.endTime

instance (h : ResetHistory) (e : ResetStep) : Decidable (InOrder h e) :=
  inferInstanceAs (Decidable (_ ≤ _))

instance (zone : Int) (id : Nat) (h : ResetHistory) (e : ResetStep) :
    Decidable (AdvancesWithin zone id h e) :=
  inferInstanceAs (Decidable (∀ found ∈ e.advancing id h.accounts, _))

/-- An automatic reset that clears the used amount comes after a boundary that lies after the latest
of the start, the previous automatic reset and the last advance. -/
def ClearsAfterBoundary (plan : SubscriptionPlan) (start : Int)
    (h : ResetHistory) (e : ResetStep) : Prop :=
  e.clears zone id h.accounts = true →
    ∃ b, IsBoundary zone plan (h.anchor start) b ∧ h.latest start < b ∧ b ≤ e.now

/-! ## What a step does to the row -/

structure SameTimes (s row : UserSubscription) : Prop where
  planId : row.planId = s.planId
  startTime : row.startTime = s.startTime
  endTime : row.endTime = s.endTime
  lastResetTime : row.lastResetTime = s.lastResetTime
  nextResetTime : row.nextResetTime = s.nextResetTime

variable (s : UserSubscription)

theorem SameTimes.refl : SameTimes s s := ⟨rfl, rfl, rfl, rfl, rfl⟩

theorem sameTimes_setUsed (used : Int) (h : 0 ≤ used) :
    SameTimes s (s.setUsed used h) := ⟨rfl, rfl, rfl, rfl, rfl⟩

section Steps

variable (zone : Int) {id : Nat} {a : Accounts} {s : UserSubscription}

theorem automatic_row {e : ResetStep} (he : e.isAutomatic = true)
    (hs : a.subscriptions.find? id = some s) :
    ∃ checked row, CheckedRow zone e.now a s checked ∧ SameTimes checked row ∧
      (e.apply zone a).subscriptions.find? id = some row := by
  cases e with
  | adminReset => cases he
  | adjust => cases he
  | scheduled now w other =>
    obtain ⟨row, hchecked, hrow, -⟩ := resetDueSubscription_row zone now w other hs
    exact ⟨row, row, hchecked, .refl row, hrow⟩
  | preConsume now w requestId userId amount =>
    dsimp only [ResetStep.apply]
    cases hpre : preConsumeUserSubscription zone now w a requestId userId amount with
    | error err => exact ⟨s, s, .kept, .refl s, hs⟩
    | ok done =>
      obtain ⟨result, a'⟩ := done
      obtain ⟨rfl, -⟩ | ⟨-, hpos, t, -, hwalk⟩ := preConsume_walk hpre
      · exact ⟨s, s, .kept, .refl s, hs⟩
      obtain ⟨checked, hchecked, hfind⟩ := chargeFirst_row (listed_active a userId now) hs hwalk
      refine ⟨checked, _, hchecked, ?_, hfind⟩
      split
      · exact sameTimes_setUsed _ _ _
      · exact .refl checked

theorem adjust_row (now : Int) (w : Write) (other : Nat) (delta : Int)
    (hs : a.subscriptions.find? id = some s) :
    ∃ row, SameTimes s row ∧
      (ResetStep.apply zone a (.adjust now w other delta)).subscriptions.find? id = some row := by
  refine commit_rule (P := fun b : Accounts => ∃ row, SameTimes s row ∧
    b.subscriptions.find? id = some row) ⟨s, .refl s, hs⟩ ?_
  intro b hb
  by_cases hdelta : delta = 0
  · unfold postConsumeUserSubscriptionDelta at hb
    rw [if_pos hdelta] at hb
    split at hb
    · cases hb
    · cases hb
      exact ⟨s, .refl s, hs⟩
  obtain ⟨t, ht, rfl⟩ := postConsume_saves hdelta hb
  have hid : t.id = other := Table.find?_key ht
  by_cases heq : id = other
  · subst heq
    obtain rfl : s = t := Option.some.inj (hs.symm.trans ht)
    exact ⟨_, sameTimes_setUsed _ _ _, Table.find?_put_of_find? hs _ hid⟩
  · refine ⟨s, .refl s, (Table.find?_put_of_ne ?_).trans hs⟩
    rw [key_subscription, UserSubscription.setUsed_id, hid]
    exact heq

theorem adminReset_row (now : Int) (w : Write) (planId : Nat) (userId : Option Nat)
    (advance : Bool) (hs : a.subscriptions.find? id = some s) :
    ∃ row, (adminReset zone now w a planId userId advance).subscriptions.find? id = some row ∧
      (ResetStep.advancing id a (.adminReset now w planId userId advance) = none ∧ SameTimes s row ∨
        ∃ plan, ResetStep.advancing id a (.adminReset now w planId userId advance) =
          some (plan, s) ∧ getSubscriptionPlanById a s.planId = .ok plan ∧
            row = resetUserSubscription zone now plan true s) := by
  cases w with
  | fails => exact ⟨s, hs, .inl ⟨rfl, .refl s⟩⟩
  | done =>
    cases hplan : getSubscriptionPlanById a planId with
    | error err =>
      refine ⟨s, ?_, .inl ⟨?_, .refl s⟩⟩
      · simp only [adminReset, hplan, hs]
      cases advance
      · rfl
      · simp only [ResetStep.advancing, hplan]
    | ok plan =>
      simp only [adminReset, hplan, Table.find?_mapRows, hs, Option.map_some]
      refine ⟨_, rfl, ?_⟩
      split
      next hselected =>
        cases advance with
        | false => exact .inl ⟨rfl, sameTimes_setUsed _ _ _⟩
        | true =>
          refine .inr ⟨plan, ?_, ?_, rfl⟩
          · simp only [ResetStep.advancing, hplan, hs, hselected, if_true]
          simp only [selectedForReset, Bool.and_eq_true, decide_eq_true_eq] at hselected
          rw [hselected.1.1.1]
          exact hplan
      rename_i hselected
      refine .inl ⟨?_, .refl s⟩
      cases advance
      · rfl
      · simp only [ResetStep.advancing, hplan, hs, if_neg hselected]

theorem apply_plans (a : Accounts) (e : ResetStep) : (e.apply zone a).plans = a.plans := by
  cases e with
  | scheduled now w other => exact (resetDueSubscription_frame zone now w a other).1.plans
  | preConsume now w requestId userId amount =>
    refine commit_rule (P := fun b : Accounts => b.plans = a.plans) rfl ?_
    intro b hb
    cases hpre : preConsumeUserSubscription zone now w a requestId userId amount with
    | error err =>
      rw [hpre] at hb
      cases hb
    | ok done =>
      rw [hpre] at hb
      cases hb
      obtain ⟨hsame, -⟩ | ⟨-, hpos, t, -, hwalk⟩ := preConsume_walk hpre
      · rw [hsame]
      · exact (chargeFirst_frame (listed_active a userId now) hwalk).plans
  | adminReset now w planId userId advance =>
    dsimp only [ResetStep.apply]
    unfold adminReset
    split <;> rfl
  | adjust now w other delta =>
    refine commit_rule (P := fun b : Accounts => b.plans = a.plans) rfl ?_
    intro b hb
    by_cases hdelta : delta = 0
    · unfold postConsumeUserSubscriptionDelta at hb
      rw [if_pos hdelta] at hb
      split at hb
      · cases hb
      · cases hb
        rfl
    · obtain ⟨t, -, rfl⟩ := postConsume_saves hdelta hb
      rfl

end Steps

structure RegularRow (zone : Int) (plan : SubscriptionPlan) (start anchor latest : Int)
    (s : UserSubscription) : Prop where
  start_eq : s.startTime = start
  next : s.nextResetTime = calcNextResetTime zone (resetBase s) plan s.endTime
  later : s.nextResetTime = 0 ∨ latest < s.nextResetTime
  period : OnPeriod plan anchor (resetBase s)

section Regular

variable {zone start anchor latest now : Int} {plan : SubscriptionPlan} {a : Accounts}
  {s row : UserSubscription}

theorem SameTimes.resetBase_eq (h : SameTimes s row) : resetBase row = resetBase s := by
  unfold resetBase
  rw [h.lastResetTime, h.startTime]

theorem RegularRow.congr (hs : RegularRow zone plan start anchor latest s) (h : SameTimes s row) :
    RegularRow zone plan start anchor latest row where
  start_eq := h.startTime.trans hs.start_eq
  next := by rw [h.nextResetTime, h.endTime, h.resetBase_eq, hs.next]
  later := h.nextResetTime ▸ hs.later
  period := h.resetBase_eq ▸ hs.period

theorem RegularRow.not_due (hs : RegularRow zone plan start anchor latest s)
    (hdue : ¬ResetDue zone s plan now) : maybeReset zone s plan now = .unchanged := by
  unfold maybeReset
  split
  · rfl
  rename_i hnext
  split
  · rfl
  rename_i hperiod
  have hidle : ¬(0 < calcNextResetTime zone (resetBase s) plan s.endTime ∧
      calcNextResetTime zone (resetBase s) plan s.endTime ≤ now) :=
    fun hloop => hdue ⟨hnext, hperiod, hloop⟩
  simp only [resetNow, catchUp, if_neg hidle]
  refine if_neg ?_
  rw [← hs.next]
  omega

theorem RegularRow.due (hplan : HasPeriod plan) (hs : RegularRow zone plan start anchor latest s)
    (hdue : ResetDue zone s plan now) (hrow : maybeReset zone s plan now = .saved row) :
    (∃ b, IsBoundary zone plan anchor b ∧ latest < b ∧ b ≤ now) ∧
      RegularRow zone plan start anchor now row := by
  obtain ⟨-, last, next, hsaved, hnext, hfirst, hlast, hlater, hpass⟩ :=
    due_forward hdue fun b => hplan.forward b
  obtain rfl := ResetOutcome.saved.inj (hrow.symm.trans hsaved)
  have hpos : 0 < calcNextResetTime zone (resetBase s) plan s.endTime := hdue.2.2.1
  have hboundary : IsBoundary zone plan anchor last :=
    hpass _ (isBoundary_next hplan hs.period hpos) fun b hb => isBoundary_next hplan hb.onPeriod
  have hbase : resetBase { s with
      amountUsed := 0, used_nonneg := Int.le_refl 0, lastResetTime := last,
      nextResetTime := next } = last := by
    have hlast : 0 < last := by omega
    exact if_neg (Int.not_le.mpr hlast)
  refine ⟨⟨last, hboundary, ?_, hlast⟩, hs.start_eq, ?_, hlater, ?_⟩
  · have := hs.later
    have := hs.next
    omega
  · rw [hbase]
    exact hnext
  · rw [hbase]
    exact hboundary.onPeriod

theorem RegularRow.checked (hplan : HasPeriod plan)
    (hs : RegularRow zone plan start anchor latest s)
    (hget : getSubscriptionPlanById a s.planId = .ok plan)
    (hchecked : CheckedRow zone now a s row) :
    (rowBegins zone now a s row = false ∧ row = s) ∨
    (rowBegins zone now a s row = true ∧ row.planId = s.planId ∧
      (∃ b, IsBoundary zone plan anchor b ∧ latest < b ∧ b ≤ now) ∧
      RegularRow zone plan start anchor now row) := by
  cases hchecked with
  | kept => exact .inl ⟨rowBegins_self, rfl⟩
  | @saved plan' row hplan' hsaved =>
    obtain rfl : plan = plan' := Except.ok.inj (hget.symm.trans hplan')
    have hdue : ResetDue zone s plan now := by
      by_contra hdue
      rw [hs.not_due hdue] at hsaved
      cases hsaved
    obtain ⟨hboundary, hregular⟩ := hs.due hplan hdue hsaved
    have hends : LoopEnds zone s plan now := (due_forward hdue fun b => hplan.forward b).1
    obtain ⟨last, next, hrow, hmoved⟩ := due_saved hdue hends
    obtain rfl := ResetOutcome.saved.inj (hsaved.symm.trans hrow)
    refine .inr ⟨?_, rfl, hboundary, hregular⟩
    unfold rowBegins
    rw [hplan']
    simp [hdue, hmoved]

theorem RegularRow.advanced (hnow : 0 < now) (hplan : HasPeriod plan) (hstart : s.startTime = start)
    (hwithin : 0 < calcNextResetTime zone now plan s.endTime) :
    RegularRow zone plan start now now (resetUserSubscription zone now plan true s) := by
  have hlast : (resetUserSubscription zone now plan true s).lastResetTime = now := if_pos hwithin
  have hbase : resetBase (resetUserSubscription zone now plan true s) = now := by
    unfold resetBase
    rw [if_neg (by omega), hlast]
  refine ⟨hstart, ?_, .inr ?_, ?_⟩
  · rw [hbase]
    rfl
  · exact (hplan.forward now).resolve_left (Int.ne_of_gt hwithin)
  rw [hbase]
  intro _
  exact ⟨0, by omega⟩

end Regular

structure Regular (zone : Int) (id : Nat) (plan : SubscriptionPlan) (start : Int)
    (h : ResetHistory) : Prop where
  row : ∃ s, h.accounts.subscriptions.find? id = some s ∧
    getSubscriptionPlanById h.accounts s.planId = .ok plan ∧
    RegularRow zone plan start (h.anchor start) (h.latest start) s
  past : h.latest start ≤ h.time

section Runs

variable {zone start : Int} {id : Nat} {plan : SubscriptionPlan} {h : ResetHistory} {e : ResetStep}

theorem latest_le (zone : Int) (id : Nat) (hpast : h.latest start ≤ h.time) (horder : InOrder h e) :
    (resetStep zone id h e).latest start ≤ e.now := by
  unfold ResetHistory.latest at hpast ⊢
  unfold InOrder at horder
  dsimp only [resetStep]
  split <;> split <;> simp <;> omega

theorem Regular.keep {s row : UserSubscription} (hclears : e.clears zone id h.accounts = false)
    (hadvancing : e.advancing id h.accounts = none)
    (hget : getSubscriptionPlanById (e.apply zone h.accounts) s.planId = .ok plan)
    (hs : RegularRow zone plan start (h.anchor start) (h.latest start) s)
    (hpast : h.latest start ≤ h.time) (horder : InOrder h e) (hsame : SameTimes s row)
    (hrow : (e.apply zone h.accounts).subscriptions.find? id = some row) :
    ClearsAfterBoundary zone id plan start h e ∧
      Regular zone id plan start (resetStep zone id h e) := by
  have hanchor : (resetStep zone id h e).anchor start = h.anchor start := by
    simp [ResetHistory.anchor, resetStep, hadvancing]
  have hlatest : (resetStep zone id h e).latest start = h.latest start := by
    simp [ResetHistory.latest, resetStep, hadvancing, hclears]
  refine ⟨fun hc => absurd (hclears.symm.trans hc) Bool.false_ne_true, ⟨row, hrow, ?_, ?_⟩,
    latest_le zone id hpast horder⟩
  · rw [hsame.planId]
    exact hget
  · rw [hanchor, hlatest]
    exact hs.congr hsame

theorem Regular.step (hstart : 0 < start) (hplan : HasPeriod plan)
    (hh : Regular zone id plan start h) (horder : InOrder h e)
    (hwithin : AdvancesWithin zone id h e) :
    ClearsAfterBoundary zone id plan start h e ∧
      Regular zone id plan start (resetStep zone id h e) := by
  obtain ⟨⟨s, hs, hget, hregular⟩, hpast⟩ := hh
  have hget' : getSubscriptionPlanById (e.apply zone h.accounts) s.planId = .ok plan := by
    unfold getSubscriptionPlanById at hget ⊢
    rw [apply_plans]
    exact hget
  by_cases hauto : e.isAutomatic = true
  · have hadvancing : e.advancing id h.accounts = none := by
      cases e <;> first | rfl | cases hauto
    obtain ⟨checked, row, hchecked, hsame, hrow⟩ := automatic_row zone hauto hs
    have hclears : e.clears zone id h.accounts = rowBegins zone e.now h.accounts s checked := by
      unfold ResetStep.clears
      rw [hauto, Bool.true_and, beginsPeriod_eq hs hrow]
      unfold rowBegins
      rw [hsame.lastResetTime]
    obtain ⟨hbegins, rfl⟩ | ⟨hbegins, hplanId, hboundary, hregular'⟩ :=
      hregular.checked hplan hget hchecked
    · exact Regular.keep (hclears.trans hbegins) hadvancing hget' hregular hpast horder hsame hrow
    have hanchor : (resetStep zone id h e).anchor start = h.anchor start := by
      simp [ResetHistory.anchor, resetStep, hadvancing]
    refine ⟨fun _ => hboundary, ⟨row, hrow, ?_, ?_⟩, latest_le zone id hpast horder⟩
    · rw [hsame.planId, hplanId]
      exact hget'
    -- The latest time is that of the step now.
    have hlatest := latest_le zone id hpast horder
    rw [hanchor]
    refine (RegularRow.congr ?_ hsame)
    exact { hregular' with later := hregular'.later.imp_right (Int.lt_of_le_of_lt hlatest) }
  have hclears : e.clears zone id h.accounts = false := by
    unfold ResetStep.clears
    rw [Bool.eq_false_iff.mpr hauto, Bool.false_and]
  cases e with
  | scheduled | preConsume => exact absurd rfl hauto
  | adjust now w other delta =>
    obtain ⟨row, hsame, hrow⟩ := adjust_row zone now w other delta hs
    exact Regular.keep hclears rfl hget' hregular hpast horder hsame hrow
  | adminReset now w planId userId advance =>
    obtain ⟨row, hrow, ⟨hadvancing, hsame⟩ | ⟨plan', hadvancing, hget₂, rfl⟩⟩ :=
      adminReset_row zone now w planId userId advance hs
    · exact Regular.keep hclears hadvancing hget' hregular hpast horder hsame hrow
    obtain rfl : plan = plan' := Except.ok.inj (hget.symm.trans hget₂)
    have hnow : start ≤ now := by
      unfold ResetHistory.latest at hpast
      unfold InOrder at horder
      dsimp only [ResetStep.now] at horder
      omega
    have hlatest := latest_le zone id hpast horder
    have hends : 0 < calcNextResetTime zone now plan s.endTime := hwithin (plan, s) hadvancing
    have hadvanced := RegularRow.advanced (Int.lt_of_lt_of_le hstart hnow) hplan
      hregular.start_eq hends
    have hanchor : (resetStep zone id h (.adminReset now w planId userId advance)).anchor
        start = now := by
      simp [ResetHistory.anchor, resetStep, hadvancing, ResetStep.now]
    refine ⟨fun hc => absurd (hclears.symm.trans hc) Bool.false_ne_true,
      ⟨_, hrow, hget', ?_⟩, hlatest⟩
    rw [hanchor]
    exact { hadvanced with later := hadvanced.later.imp_right (Int.lt_of_le_of_lt hlatest) }

end Runs

structure CreatedTimes (zone : Int) (plan : SubscriptionPlan) (s : UserSubscription) : Prop where
  next : s.nextResetTime = calcNextResetTime zone s.startTime plan s.endTime
  last : s.lastResetTime = if 0 < s.nextResetTime then s.startTime else 0

def begun : ResetHistory := ⟨a, s.startTime, none, none⟩

theorem regular_begun {zone : Int} {id : Nat} {plan : SubscriptionPlan} {a : Accounts}
    {s : UserSubscription} (hplan : HasPeriod plan) (hs : a.subscriptions.find? id = some s)
    (hget : getSubscriptionPlanById a s.planId = .ok plan) (hcreated : CreatedTimes zone plan s) :
    Regular zone id plan s.startTime (begun a s) := by
  have hbase : resetBase s = s.startTime := by
    unfold resetBase
    rw [hcreated.last]
    split <;> split <;> omega
  have hlatest : (begun a s).latest s.startTime = s.startTime := by
    simp [begun, ResetHistory.latest]
  refine ⟨⟨s, hs, hget, rfl, ?_, ?_, ?_⟩, Int.le_of_eq hlatest⟩
  · rw [hbase]
    exact hcreated.next
  · rw [hlatest, hcreated.next]
    exact hplan.forward s.startTime
  rw [hbase]
  intro _
  exact ⟨0, by simp [begun, ResetHistory.anchor]⟩

/-- If the times are advanced only while another period ends within the subscription, every
automatic reset that clears comes after a boundary later than the start, the previous automatic
reset and the last advance. -/
theorem automatic_reset_after_boundary (zone : Int) (id : Nat) {plan : SubscriptionPlan}
    (hplan : HasPeriod plan) {a : Accounts} {s : UserSubscription}
    (hs : a.subscriptions.find? id = some s)
    (hget : getSubscriptionPlanById a s.planId = .ok plan)
    (hcreated : CreatedTimes zone plan s) (hstart : 0 < s.startTime) (steps : List ResetStep)
    (horder : Along (resetStep zone id) InOrder (begun a s) steps)
    (hwithin : Along (resetStep zone id) (AdvancesWithin zone id) (begun a s) steps) :
    Along (resetStep zone id) (ClearsAfterBoundary zone id plan s.startTime) (begun a s) steps := by
  have hboth : Along (resetStep zone id)
      (fun h e => InOrder h e ∧ AdvancesWithin zone id h e) (begun a s) steps :=
    horder.imp₂ (resetStep zone id) (fun _ _ => And.intro) hwithin
  refine .of_invariant (resetStep zone id) (Regular zone id plan s.startTime) ?_
    (regular_begun hplan hs hget hcreated) hboth
  rintro h e hh ⟨horder, hwithin⟩
  exact hh.step hstart hplan horder hwithin

def dailyPlan : SubscriptionPlan := ⟨1, "daily", 0⟩

def twoDays : UserSubscription :=
  { id := 1, userId := 1, planId := 1, amountTotal := 1000, amountUsed := 0, startTime := 865000
    endTime := 1080000, status := .active, lastResetTime := 865000, nextResetTime := 950400
    allowWalletOverflow := false, id_pos := Nat.one_pos, used_nonneg := Int.natCast_nonneg .zero }

def twoDaysAccounts : Accounts :=
  ⟨.empty, .empty, .single twoDays, .single dailyPlan, .empty⟩

theorem automatic_reset_after_boundary_sample :
    let steps : List ResetStep :=
      [.adminReset 866000 .done 1 none true, .preConsume 867000 .done "a" 1 30,
        .scheduled 950500 .done 1]
    (ResetStep.scheduled 950500 .done 1).clears 0 1
      (run (resetStep 0 1) (begun twoDaysAccounts twoDays) (steps.take 2)).accounts = true ∧
    Along (resetStep 0 1) (ClearsAfterBoundary 0 1 dailyPlan 865000) (begun twoDaysAccounts twoDays)
      steps := by
  intro steps
  refine ⟨by decide +kernel, ?_⟩
  have hplan : HasPeriod dailyPlan := by decide
  have hcreated : CreatedTimes 0 dailyPlan twoDays := ⟨by decide, by decide⟩
  exact automatic_reset_after_boundary 0 1 hplan (s := twoDays) (by decide) (by decide) hcreated
    (by decide) steps (by decide +kernel) (by decide +kernel)

/-- On the last day the advance stores 0 for both times, and the next check clears what has been
used although no midnight has passed. -/
theorem advance_forgets_boundary :
    let steps : List ResetStep :=
      [.adminReset 1036900 .done 1 none true, .adjust 1036950 .done 1 40]
    let h := run (resetStep 0 1) (begun twoDaysAccounts twoDays) steps
    h.accounts.subscriptionUsed 1 = some 40 ∧
      (ResetStep.preConsume 1037000 .done "a" 1 5).clears 0 1 h.accounts = true ∧
      (resetStep 0 1 h (.preConsume 1037000 .done "a" 1 5)).accounts.subscriptionUsed 1 = some 5 ∧
      ¬∃ b, IsBoundary 0 dailyPlan (h.anchor 865000) b ∧ h.latest 865000 < b ∧ b ≤ 1037000 := by
  intro steps h
  have hlatest : h.latest 865000 = 1036900 := by decide +kernel
  refine ⟨by decide +kernel, by decide +kernel, by decide +kernel, ?_⟩
  rintro ⟨b, ⟨day, rfl⟩, hafter, hnow⟩
  rw [hlatest] at hafter
  unfold dayStart at hafter hnow
  omega

end ZModel.Subscription
