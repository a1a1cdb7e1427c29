import ZModel.Subscription.Reset

/-!
# The catch-up loop of a reset

`maybeResetUserSubscriptionWithPlanTx` moves the base from one reset time to the next until it has
passed the present; it ends unless the nanoseconds of a custom period have wrapped around.
-/

namespace ZModel.Subscription

open Lib Store

variable {base next y : Int}

/-! ## The calendar moves forward -/

def daysBeforeYear (y : Int) : Int := 365 * y + y / 4 - y / 100

theorem year_of_century {n b : Int} (hb : 0 ≤ b) (hb3 : b ≤ 3) (hlow : 36524 * b ≤ n)
    (hhigh : n < 36524 * (b + 1)) (hy : y = (n - n / 1460 + b) / 365) :
    0 ≤ y ∧ y < 400 ∧ daysBeforeYear y ≤ n ∧ n < daysBeforeYear (y + 1) := by
  have hyear : 365 * y ≤ n - n / 1460 + b ∧ n - n / 1460 + b ≤ 365 * y + 364 := by omega
  have hcentury : 100 * b ≤ y ∧ y ≤ 100 * b + 99 := by omega
  have h100 : y / 100 = b := by omega
  have hleap : y / 4 ≤ n / 1460 := by omega
  unfold daysBeforeYear
  refine ⟨by omega, by omega, by omega, ?_⟩
  by_cases hlast : y = 100 * b + 99
  · omega
  have h100' : (y + 1) / 100 = b := by omega
  have hleap' : n / 1460 ≤ (y + 1) / 4 := by omega
  omega

theorem yearOfEra_spec {n : Int} (hn : 0 ≤ n) (hn' : n < 146097)
    (hy : y = (n - n / 1460 + n / 36524 - n / 146096) / 365) :
    0 ≤ y ∧ y < 400 ∧ daysBeforeYear y ≤ n ∧ (y < 399 → n < daysBeforeYear (y + 1)) := by
  by_cases hlast : n = 146096
  · subst hlast
    subst hy
    decide
  have hend : n / 146096 = 0 := by omega
  rw [hend, Int.sub_zero] at hy
  have hcentury : 36524 * (n / 36524) ≤ n ∧ n < 36524 * (n / 36524 + 1) := by omega
  obtain ⟨hy0, hy400, hlow, hhigh⟩ := year_of_century (by omega) (by omega) hcentury.1 hcentury.2 hy
  exact ⟨hy0, hy400, hlow, fun _ => hhigh⟩

theorem firstOfMonth_fromMarch (era : Int) {m : Int} (hy : 0 ≤ y) (hy' : y < 400) (hm : 0 ≤ m)
    (hm' : m ≤ 11) :
    firstOfMonth (y + era * 400 + if m < 10 then 0 else 1) (if m < 10 then m + 3 else m - 9) =
      era * 146097 + (daysBeforeYear y + (153 * m + 2) / 5) - 719468 := by
  have hera : (y + era * 400) / 400 = era ∧ (y + era * 400) % 400 = y := by omega
  unfold firstOfMonth daysBeforeYear
  by_cases h10 : m < 10
  · simp only [if_pos h10, if_neg (show ¬m + 3 ≤ 2 by omega), Int.add_zero, hera]
    omega
  · simp only [if_neg h10, if_pos (show m - 9 ≤ 2 by omega), Int.add_sub_cancel, hera]
    omega

theorem nextMonth_fromMarch (era : Int) {m : Int} (hy : 0 ≤ y) (hy' : y < 400) (hm : 0 ≤ m)
    (hm' : m ≤ 11) :
    let month := if m < 10 then m + 3 else m - 9
    let year := y + era * 400 + if month ≤ 2 then 1 else 0
    (if month = 12 then firstOfMonth (year + 1) 1 else firstOfMonth year (month + 1)) =
      era * 146097 - 719468 + if m < 11 then daysBeforeYear y + (153 * (m + 1) + 2) / 5
        else if y < 399 then daysBeforeYear (y + 1) else 146097 := by
  intro month year
  by_cases hfeb : m < 11
  · -- The month `m + 1` is one of the same year.
    have hnext := firstOfMonth_fromMarch era hy hy' (show 0 ≤ m + 1 by omega) (by omega)
    rw [if_pos hfeb]
    by_cases h12 : month = 12
    · have hm9 : m = 9 := by omega
      have hyear : year = y + era * 400 := by omega
      subst hm9
      rw [hyear]
      exact hnext.trans (by omega)
    have hyear : (y + era * 400 + if m + 1 < 10 then 0 else 1) = year := by omega
    have hmonth : (if m + 1 < 10 then m + 1 + 3 else m + 1 - 9) = month + 1 := by omega
    rw [← hyear, ← hmonth]
    omega
  obtain rfl : m = 11 := by omega
  rw [if_neg hfeb]
  by_cases hlast : y < 399
  · have hmarch := firstOfMonth_fromMarch era (show 0 ≤ y + 1 by omega) (by omega)
      (Int.le_refl 0) (by omega)
    rw [if_pos hlast]
    refine Eq.trans (congrArg (firstOfMonth · 3) ?_) (hmarch.trans ?_)
    · simp only [Int.reduceLT, if_true]
      omega
    · omega
  obtain rfl : y = 399 := by omega
  have hmarch := firstOfMonth_fromMarch (era + 1) (Int.le_refl 0) (by omega)
    (Int.le_refl 0) (by omega)
  rw [if_neg hlast]
  refine Eq.trans (congrArg (firstOfMonth · 3) ?_) (hmarch.trans ?_)
  · simp only [Int.reduceLT, if_true]
    omega
  · unfold daysBeforeYear
    omega

theorem yearMonth_fromMarch (day : Int) : ∃ era y m d : Int, 0 ≤ y ∧ y < 400 ∧ 0 ≤ m ∧ m ≤ 11 ∧
      day = era * 146097 + (daysBeforeYear y + d) - 719468 ∧
      daysBeforeYear y + d < (if y < 399 then daysBeforeYear (y + 1) else 146097) ∧
      153 * m ≤ 5 * d + 2 ∧ 5 * d + 2 < 153 * (m + 1) ∧
      yearMonth day = (y + era * 400 + if (if m < 10 then m + 3 else m - 9) ≤ 2 then 1 else 0,
        if m < 10 then m + 3 else m - 9) := by
  generalize hz : day + 719468 = z
  have hn : 0 ≤ z % 146097 ∧ z % 146097 < 146097 := by omega
  generalize hy : (z % 146097 - z % 146097 / 1460 + z % 146097 / 36524 - z % 146097 / 146096) / 365
    = y
  obtain ⟨hy0, hy400, hlow, hhigh⟩ := yearOfEra_spec hn.1 hn.2 hy.symm
  have hd : daysBeforeYear y + (z % 146097 - (365 * y + y / 4 - y / 100)) = z % 146097 := by
    unfold daysBeforeYear
    omega
  have hd365 : z % 146097 - (365 * y + y / 4 - y / 100) ≤ 365 := by
    unfold daysBeforeYear at hhigh
    omega
  have hd0 : 0 ≤ z % 146097 - (365 * y + y / 4 - y / 100) := by
    omega
  refine ⟨z / 146097, y, (5 * (z % 146097 - (365 * y + y / 4 - y / 100)) + 2) / 153,
    z % 146097 - (365 * y + y / 4 - y / 100), hy0, hy400, by omega, by omega, by omega, ?_,
    by omega, by omega, ?_⟩
  · rw [hd]
    split
    · exact hhigh ‹_›
    · exact hn.2
  unfold yearMonth
  rw [hz]
  dsimp only
  rw [hy]

theorem lt_firstOfNextMonth (day : Int) : day < firstOfNextMonth day := by
  obtain ⟨era, y, m, d, hy0, hy400, hm0, hm11, hday, hyear, hlow, hhigh, heq⟩ :=
    yearMonth_fromMarch day
  have hnext := nextMonth_fromMarch era hy0 hy400 hm0 hm11
  unfold firstOfNextMonth
  rw [heq]
  dsimp only at hnext ⊢
  rw [hnext]
  split at hyear <;> split <;> omega

theorem firstOfNextMonth_eq (day : Int) :
    ∃ year month, 1 ≤ month ∧ month ≤ 12 ∧ firstOfNextMonth day = firstOfMonth year month := by
  obtain ⟨era, y, m, d, -, -, hm0, hm11, -, -, -, -, heq⟩ := yearMonth_fromMarch day
  have hmonth : 1 ≤ (yearMonth day).2 ∧ (yearMonth day).2 ≤ 12 := by
    rw [heq]
    split <;> omega
  unfold firstOfNextMonth
  dsimp only
  split
  · exact ⟨_, 1, by decide, by decide, rfl⟩
  · exact ⟨_, _, by omega, by omega, rfl⟩

/-- The length of a custom period in whole seconds, from 64-bit nanoseconds. -/
def customStep (plan : SubscriptionPlan) : Int :=
  wrapInt64 (plan.quotaResetCustomSeconds * 10 ^ 9) / 10 ^ 9

section Next

variable {zone base endUnix : Int} {plan : SubscriptionPlan}

theorem lt_dayStart {day : Int} (h : localDay zone base < day) : base < dayStart zone day := by
  unfold localDay at h
  unfold dayStart
  omega

theorem lt_before_end (h : base < next) : (if 0 < endUnix ∧ endUnix < next then 0 else next) = 0 ∨
      base < if 0 < endUnix ∧ endUnix < next then 0 else next := by
  split
  · exact .inl rfl
  · exact .inr h

theorem lt_calcNextResetTime (hperiod : normalizeResetPeriod plan.quotaResetPeriod ≠ .custom) :
    calcNextResetTime zone base plan endUnix = 0 ∨
      base < calcNextResetTime zone base plan endUnix := by
  unfold calcNextResetTime
  cases hp : normalizeResetPeriod plan.quotaResetPeriod with
  | never => exact .inl rfl
  | custom => exact absurd hp hperiod
  | daily => exact lt_before_end (lt_dayStart (Int.lt_succ _))
  | weekly =>
    refine lt_before_end (lt_dayStart ?_)
    have hweekday : weekday (localDay zone base) < 7 := Int.emod_lt_of_pos _ (by decide)
    split <;> omega
  | monthly => exact lt_before_end (lt_dayStart (lt_firstOfNextMonth _))

theorem calcNextResetTime_custom (hperiod : normalizeResetPeriod plan.quotaResetPeriod = .custom)
    (hseconds : 0 < plan.quotaResetCustomSeconds) :
    calcNextResetTime zone base plan endUnix =
      if 0 < endUnix ∧ endUnix < base + customStep plan then 0 else base + customStep plan := by
  unfold calcNextResetTime
  rw [hperiod]
  rw [if_neg (Int.not_le.mpr hseconds)]
  rfl

end Next

section Loop

variable {zone endUnix now : Int} {plan : SubscriptionPlan}

theorem catchUp_stop {fuel : Nat} (h : ¬(0 < next ∧ next ≤ now)) :
    catchUp zone plan endUnix now fuel base next = some (base, next) := by
  unfold catchUp
  exact if_neg h

theorem catchUp_next {fuel : Nat} (h : 0 < next ∧ next ≤ now) :
    catchUp zone plan endUnix now (fuel + 1) base next =
      catchUp zone plan endUnix now fuel next (calcNextResetTime zone next plan endUnix) := by
  rw [catchUp]
  exact if_pos h

theorem catchUp_forward (hforward : ∀ b, calcNextResetTime zone b plan endUnix = 0 ∨
      b < calcNextResetTime zone b plan endUnix) (fuel : Nat) (hbase : 0 < base)
    (hnow : base ≤ now) (hfuel : now - base ≤ fuel) :
    ∃ last, catchUp zone plan endUnix now fuel base (calcNextResetTime zone base plan endUnix) =
        some (last, calcNextResetTime zone last plan endUnix) ∧
      base ≤ last ∧ last ≤ now ∧
      (calcNextResetTime zone last plan endUnix = 0 ∨
        now < calcNextResetTime zone last plan endUnix) ∧
      ∀ P : Int → Prop, P base → (∀ b, P b → 0 < calcNextResetTime zone b plan endUnix →
          P (calcNextResetTime zone b plan endUnix)) → P last := by
  induction fuel generalizing base with
  | zero =>
    have hnext := hforward base
    exact ⟨base, catchUp_stop (by omega), Int.le_refl _, hnow, by omega, fun _ h _ => h⟩
  | succ fuel ih =>
    by_cases hloop : 0 < calcNextResetTime zone base plan endUnix ∧
        calcNextResetTime zone base plan endUnix ≤ now
    · have hlt := (hforward base).resolve_left (Int.ne_of_gt hloop.1)
      obtain ⟨last, hresult, hle, hlast, hend, hpass⟩ := ih hloop.1 hloop.2 (by omega)
      refine ⟨last, (catchUp_next hloop).trans hresult, by omega, hlast, hend, ?_⟩
      exact fun P h hstep => hpass P (hstep base h hloop.1) hstep
    · have hnext := hforward base
      exact ⟨base, catchUp_stop hloop, Int.le_refl _, hnow, by omega, fun _ h _ => h⟩

theorem catchUp_backward {d top : Int} (hd : d < 0) (htop : top ≤ now)
    (hback : ∀ b, b ≤ top → calcNextResetTime zone b plan endUnix = b + d) (fuel : Nat)
    (hbase : 0 < base) (hle : base ≤ top) (hfuel : base ≤ fuel) :
    ∃ last, catchUp zone plan endUnix now fuel base (base + d) = some (last, last + d) ∧
      0 < last ∧ last ≤ base ∧ last + d ≤ 0 ∧ d ∣ base - last := by
  induction fuel generalizing base with
  | zero => omega
  | succ fuel ih =>
    by_cases hloop : 0 < base + d ∧ base + d ≤ now
    · obtain ⟨last, hresult, hlast, hle', hend, hdvd⟩ := ih hloop.1 (by omega) (by omega)
      rw [catchUp_next hloop, hback _ (by omega)]
      refine ⟨last, hresult, hlast, by omega, hend, ?_⟩
      have hsplit : base - last = (base + d - last) - d := by omega
      rw [hsplit]
      exact Int.dvd_sub hdvd (Int.dvd_refl d)
    · exact ⟨base, catchUp_stop hloop, hbase, Int.le_refl _, by omega, by simp⟩

theorem catchUp_still (hstill : calcNextResetTime zone base plan endUnix = base)
    (hbase : 0 < base) (hnow : base ≤ now) (fuel : Nat) :
    catchUp zone plan endUnix now fuel base base = none := by
  induction fuel with
  | zero =>
    exact if_pos ⟨hbase, hnow⟩
  | succ fuel ih => rw [catchUp_next ⟨hbase, hnow⟩, hstill, ih]

end Loop

def ResetPeriod.word : ResetPeriod → String
  | .never => "never"
  | .daily => "daily"
  | .weekly => "weekly"
  | .monthly => "monthly"
  | .custom => "custom"

@[simp] theorem normalizeResetPeriod_word (p : ResetPeriod) : normalizeResetPeriod p.word = p := by
  cases p <;> rfl

def acceptResetPeriod (plan : SubscriptionPlan) : Option SubscriptionPlan :=
  let period := normalizeResetPeriod plan.quotaResetPeriod
  if period = .custom ∧ plan.quotaResetCustomSeconds ≤ 0 then none
  else some { plan with quotaResetPeriod := period.word }

theorem acceptResetPeriod_custom {request plan : SubscriptionPlan}
    (h : acceptResetPeriod request = some plan)
    (hcustom : normalizeResetPeriod plan.quotaResetPeriod = .custom) :
    0 < plan.quotaResetCustomSeconds := by
  unfold acceptResetPeriod at h
  dsimp only at h
  split at h
  · cases h
  rename_i haccepted
  cases h
  simp only [normalizeResetPeriod_word] at hcustom
  simp only [hcustom, true_and, Int.not_le] at haccepted
  exact haccepted

section Check

variable {zone now : Int} {sub : UserSubscription} {plan : SubscriptionPlan}

def ReachesLoop (sub : UserSubscription) (plan : SubscriptionPlan) (now : Int) : Prop :=
  ¬(0 < sub.nextResetTime ∧ now < sub.nextResetTime) ∧
    normalizeResetPeriod plan.quotaResetPeriod ≠ .never

def LoopEnds (zone : Int) (sub : UserSubscription) (plan : SubscriptionPlan) (now : Int) : Prop :=
  ∃ fuel result, catchUp zone plan sub.endTime now fuel (resetBase sub)
    (calcNextResetTime zone (resetBase sub) plan sub.endTime) = some result

/-- A check that clears leaves its last reset in the past and its next one in the future. -/
def ClearsUpToNow (zone : Int) (sub : UserSubscription) (plan : SubscriptionPlan) (now : Int) :
    Prop :=
  ∀ row, maybeReset zone sub plan now = .saved row → ResetDue zone sub plan now →
    row.lastResetTime ≤ now ∧ (row.nextResetTime = 0 ∨ now < row.nextResetTime)

/-- A custom period has a positive length in 64-bit nanoseconds. Otherwise the check does not reach
the first reset time, or the length is negative and divides the time the periods are counted from.
-/
def PeriodMovesOn (sub : UserSubscription) (plan : SubscriptionPlan) (now : Int) : Prop :=
  normalizeResetPeriod plan.quotaResetPeriod = .custom → 0 < customStep plan ∨
    (customStep plan ≠ 0 ∧ customStep plan ∣ resetBase sub) ∨
    (0 < sub.nextResetTime ∧ now < sub.nextResetTime) ∨
    resetBase sub + customStep plan ≤ 0 ∨ now < resetBase sub + customStep plan ∨
    (0 < sub.endTime ∧ sub.endTime < resetBase sub + customStep plan)

instance (sub : UserSubscription) (plan : SubscriptionPlan) (now : Int) :
    Decidable (PeriodMovesOn sub plan now) :=
  inferInstanceAs (Decidable (_ → _))

theorem maybeReset_due (hdue : ResetDue zone sub plan now) {last : Int}
    (h : catchUp zone plan sub.endTime now now.toNat
      (calcNextResetTime zone (resetBase sub) plan sub.endTime)
      (calcNextResetTime zone (calcNextResetTime zone (resetBase sub) plan sub.endTime) plan
        sub.endTime) = some (last, next)) :
    maybeReset zone sub plan now = .saved { sub with
      amountUsed := 0, used_nonneg := Int.le_refl 0, lastResetTime := last,
      nextResetTime := next } := by
  obtain ⟨hnext, hperiod, hloop⟩ := hdue
  unfold maybeReset resetNow
  dsimp only
  rw [if_neg hnext, if_neg hperiod, catchUp_next hloop, h]
  dsimp only
  rw [if_pos hloop]

theorem LoopEnds.of_not_due (hreach : ReachesLoop sub plan now)
    (hdue : ¬ResetDue zone sub plan now) : LoopEnds zone sub plan now := by
  refine ⟨0, _, catchUp_stop fun hloop => hdue ?_⟩
  exact ⟨hreach.1, hreach.2, hloop⟩

theorem due_forward (hdue : ResetDue zone sub plan now)
    (hforward : ∀ b, calcNextResetTime zone b plan sub.endTime = 0 ∨
      b < calcNextResetTime zone b plan sub.endTime) :
    LoopEnds zone sub plan now ∧ ∃ last next, maybeReset zone sub plan now = .saved { sub with
        amountUsed := 0, used_nonneg := Int.le_refl 0, lastResetTime := last,
        nextResetTime := next } ∧
      next = calcNextResetTime zone last plan sub.endTime ∧
      calcNextResetTime zone (resetBase sub) plan sub.endTime ≤ last ∧ last ≤ now ∧
      (next = 0 ∨ now < next) ∧
      ∀ P : Int → Prop, P (calcNextResetTime zone (resetBase sub) plan sub.endTime) →
        (∀ b, P b → 0 < calcNextResetTime zone b plan sub.endTime →
          P (calcNextResetTime zone b plan sub.endTime)) → P last := by
  have hloop := hdue.2.2
  obtain ⟨last, hresult, hle, hlast, hend, hpass⟩ :=
    catchUp_forward hforward now.toNat hloop.1 hloop.2 (by omega)
  exact ⟨⟨_, _, (catchUp_next hloop).trans hresult⟩, last, _, maybeReset_due hdue hresult, rfl,
    hle, hlast, hend, hpass⟩

theorem resetDue_custom_iff (hcustom : normalizeResetPeriod plan.quotaResetPeriod = .custom)
    (hseconds : 0 < plan.quotaResetCustomSeconds) :
    ResetDue zone sub plan now ↔ ¬(0 < sub.nextResetTime ∧ now < sub.nextResetTime) ∧
      0 < resetBase sub + customStep plan ∧ resetBase sub + customStep plan ≤ now ∧
      ¬(0 < sub.endTime ∧ sub.endTime < resetBase sub + customStep plan) := by
  have hnever : normalizeResetPeriod plan.quotaResetPeriod ≠ .never := by
    rw [hcustom]
    nofun
  unfold ResetDue
  rw [calcNextResetTime_custom hcustom hseconds]
  split
  next hend =>
    refine iff_of_false (fun h => absurd h.2.2.1 (Int.lt_irrefl 0)) fun h => h.2.2.2 hend
  next hend =>
    exact ⟨fun h => ⟨h.1, h.2.2.1, h.2.2.2, hend⟩, fun h => ⟨h.1, hnever, h.2.1, h.2.2.1⟩⟩

section

variable (hdue : ResetDue zone sub plan now)

include hdue

theorem due_backward (hcustom : normalizeResetPeriod plan.quotaResetPeriod = .custom)
    (hseconds : 0 < plan.quotaResetCustomSeconds) (hstep : customStep plan < 0) :
    LoopEnds zone sub plan now ∧ ∃ last, maybeReset zone sub plan now = .saved { sub with
        amountUsed := 0, used_nonneg := Int.le_refl 0, lastResetTime := last,
        nextResetTime := last + customStep plan } ∧
      0 < last ∧ last < resetBase sub ∧ last ≤ now ∧ last + customStep plan ≤ 0 ∧
      (customStep plan ∣ resetBase sub ↔ customStep plan ∣ last) := by
  obtain ⟨-, hpos, hnow, hend⟩ := (resetDue_custom_iff hcustom hseconds).mp hdue
  have hnext : ∀ b, b ≤ resetBase sub → calcNextResetTime zone b plan sub.endTime =
      b + customStep plan := by
    intro b hb
    rw [calcNextResetTime_custom hcustom hseconds]
    exact if_neg (by omega)
  have hfirst := hnext (resetBase sub) (Int.le_refl _)
  obtain ⟨last, hresult, hlast, hle, hlow, hdvd⟩ :=
    catchUp_backward hstep hnow (fun b hb => hnext b (by omega)) now.toNat hpos (Int.le_refl _)
      (by omega)
  rw [← hnext (resetBase sub + customStep plan) (by omega), ← hfirst] at hresult
  refine ⟨⟨_, _, (catchUp_next hdue.2.2).trans hresult⟩, last, maybeReset_due hdue hresult, hlast,
    by omega, by omega, hlow, ?_⟩
  exact (Int.dvd_add_left (Int.dvd_refl _)).symm.trans (Int.dvd_iff_dvd_of_dvd_sub hdvd)

theorem due_still (hcustom : normalizeResetPeriod plan.quotaResetPeriod = .custom)
    (hseconds : 0 < plan.quotaResetCustomSeconds) (hstep : customStep plan = 0) :
    ¬LoopEnds zone sub plan now := by
  rintro ⟨fuel, result, hresult⟩
  obtain ⟨-, hpos, hnow, hend⟩ := (resetDue_custom_iff hcustom hseconds).mp hdue
  have hstill : calcNextResetTime zone (resetBase sub) plan sub.endTime = resetBase sub := by
    rw [calcNextResetTime_custom hcustom hseconds, if_neg hend, hstep, Int.add_zero]
  rw [hstep, Int.add_zero] at hpos hnow
  rw [hstill, catchUp_still hstill hpos hnow] at hresult
  cases hresult

theorem due_cases : (∀ b, calcNextResetTime zone b plan sub.endTime = 0 ∨
      b < calcNextResetTime zone b plan sub.endTime) ∨
    (normalizeResetPeriod plan.quotaResetPeriod = .custom ∧ 0 < plan.quotaResetCustomSeconds ∧
      customStep plan ≤ 0) := by
  by_cases hcustom : normalizeResetPeriod plan.quotaResetPeriod = .custom
  · by_cases hseconds : 0 < plan.quotaResetCustomSeconds
    · by_cases hstep : 0 < customStep plan
      · left
        intro b
        rw [calcNextResetTime_custom hcustom hseconds]
        exact lt_before_end (by omega)
      · exact .inr ⟨hcustom, hseconds, Int.not_lt.mp hstep⟩
    · -- Without a length there is no reset time, and no check is due.
      have hnone : calcNextResetTime zone (resetBase sub) plan sub.endTime = 0 := by
        unfold calcNextResetTime
        rw [hcustom]
        rw [if_pos (Int.not_lt.mp hseconds)]
      have hpos := hdue.2.2.1
      omega
  · exact .inl fun b => lt_calcNextResetTime hcustom

theorem due_saved (hends : LoopEnds zone sub plan now) :
    ∃ last next, maybeReset zone sub plan now = .saved { sub with
        amountUsed := 0, used_nonneg := Int.le_refl 0, lastResetTime := last,
        nextResetTime := next } ∧ last ≠ sub.lastResetTime := by
  have hbase : ∀ last, 0 < last → last ≠ resetBase sub → last ≠ sub.lastResetTime := by
    unfold resetBase
    intro last hpos hne heq
    rw [if_neg (by omega)] at hne
    exact hne heq
  have hloop := hdue.2.2
  obtain hforward | ⟨hcustom, hseconds, hstep⟩ := due_cases hdue
  · obtain ⟨-, last, next, hsaved, -, hle, -⟩ := due_forward hdue hforward
    have hlt := (hforward (resetBase sub)).resolve_left (Int.ne_of_gt hloop.1)
    exact ⟨last, next, hsaved, hbase last (by omega) (by omega)⟩
  obtain hstep | hstep := Int.lt_or_eq_of_le hstep
  · obtain ⟨-, last, hsaved, hpos, hlt, -⟩ := due_backward hdue hcustom hseconds hstep
    exact ⟨last, _, hsaved, hbase last hpos (Int.ne_of_lt hlt)⟩
  · exact absurd hends (due_still hdue hcustom hseconds hstep)

end

theorem maybeReset_diverges_iff : maybeReset zone sub plan now = .diverges ↔
    ReachesLoop sub plan now ∧ ¬LoopEnds zone sub plan now := by
  by_cases hreach : ReachesLoop sub plan now
  · constructor
    · intro hdiverges
      refine ⟨hreach, fun hends => ?_⟩
      by_cases hdue : ResetDue zone sub plan now
      · obtain ⟨last, next, hsaved, -⟩ := due_saved hdue hends
        rw [hsaved] at hdiverges
        cases hdiverges
      obtain hsame | ⟨last, next, hsaved⟩ := maybeReset_of_not_due hdue
      · rw [hsame] at hdiverges
        cases hdiverges
      · rw [hsaved] at hdiverges
        cases hdiverges
    · rintro ⟨-, hends⟩
      have hnone : catchUp zone plan sub.endTime now (now.toNat + 1) (resetBase sub)
          (calcNextResetTime zone (resetBase sub) plan sub.endTime) = none := by
        cases hresult : catchUp zone plan sub.endTime now (now.toNat + 1) (resetBase sub)
            (calcNextResetTime zone (resetBase sub) plan sub.endTime) with
        | none => rfl
        | some result => exact absurd ⟨_, _, hresult⟩ hends
      unfold maybeReset resetNow
      rw [if_neg hreach.1, if_neg hreach.2]
      simp only [hnone]
  refine iff_of_false ?_ fun h => hreach h.1
  have hsame : maybeReset zone sub plan now = .unchanged := by
    unfold maybeReset
    split
    · rfl
    next hnext =>
      exact if_pos (by_contra fun hperiod => hreach ⟨hnext, hperiod⟩)
  rw [hsame]
  nofun

theorem due_wrapped_iff (hdue : ResetDue zone sub plan now)
    (hcustom : normalizeResetPeriod plan.quotaResetPeriod = .custom)
    (hseconds : 0 < plan.quotaResetCustomSeconds) (hstep : customStep plan ≤ 0) :
    (ReachesLoop sub plan now → LoopEnds zone sub plan now) ∧ ClearsUpToNow zone sub plan now ↔
      customStep plan ≠ 0 ∧ customStep plan ∣ resetBase sub := by
  obtain hstep | hstep := Int.lt_or_eq_of_le hstep
  · obtain ⟨hends, last, hsaved, hpos, -, hnow, hlow, hdvd⟩ :=
      due_backward hdue hcustom hseconds hstep
    rw [hdvd]
    constructor
    · rintro ⟨-, hclears⟩
      obtain ⟨-, hnext⟩ := hclears _ hsaved hdue
      dsimp only at hnext
      have hneg : last = -customStep plan := by omega
      rw [hneg]
      exact ⟨by omega, Int.dvd_neg.mpr (Int.dvd_refl _)⟩
    rintro ⟨-, hlast⟩
    refine ⟨fun _ => hends, fun row hrow _ => ?_⟩
    rw [hsaved] at hrow
    cases hrow
    -- The last base is a positive multiple of the step, and no longer than it.
    have hlength : -customStep plan ≤ last := Int.le_of_dvd hpos (Int.neg_dvd.mpr hlast)
    dsimp only
    omega
  · refine iff_of_false (fun h => ?_) fun h => h.1 hstep
    exact due_still hdue hcustom hseconds hstep (h.1 ⟨hdue.1, hdue.2.1⟩)

end Check

/-- For every plan, subscription and time: the loop ends, and a check that clears leaves its last
reset in the past and its next one at 0 or in the future, exactly if a custom period moves on. -/
theorem catchUp_ends_after_now_iff {request plan : SubscriptionPlan}
    (haccepted : acceptResetPeriod request = some plan) (zone : Int) (sub : UserSubscription)
    (now : Int) :
    (ReachesLoop sub plan now → LoopEnds zone sub plan now) ∧ ClearsUpToNow zone sub plan now ↔
      PeriodMovesOn sub plan now := by
  by_cases hdue : ResetDue zone sub plan now
  · obtain hforward | ⟨hcustom, hseconds, hstep⟩ := due_cases hdue
    · obtain ⟨hends, last, next, hsaved, -, -, hlast, hnext, -⟩ := due_forward hdue hforward
      refine iff_of_true ⟨fun _ => hends, fun row hrow _ => ?_⟩ fun hcustom => .inl ?_
      · rw [hsaved] at hrow
        cases hrow
        exact ⟨hlast, hnext⟩
      -- The first reset time is not cut off, so it shows the step.
      have hseconds := acceptResetPeriod_custom haccepted hcustom
      have hlt := (hforward (resetBase sub)).resolve_left (Int.ne_of_gt hdue.2.2.1)
      have hend := ((resetDue_custom_iff hcustom hseconds).mp hdue).2.2.2
      rw [calcNextResetTime_custom hcustom hseconds] at hlt
      omega
    · rw [due_wrapped_iff hdue hcustom hseconds hstep]
      obtain ⟨hnext, hpos, hnow, hend⟩ := (resetDue_custom_iff hcustom hseconds).mp hdue
      constructor
      · exact fun h _ => .inr (.inl h)
      intro h
      obtain h | h | h := h hcustom
      · omega
      · exact h
      · omega
  refine iff_of_true ⟨fun hreach => .of_not_due hreach hdue, fun _ _ h => absurd h hdue⟩ ?_
  intro hcustom
  rw [resetDue_custom_iff hcustom (acceptResetPeriod_custom haccepted hcustom)] at hdue
  omega

def begunAt (start : Int) : UserSubscription :=
  { id := 1, userId := 1, planId := 1, amountTotal := 1000, amountUsed := 100, startTime := start
    endTime := 0, status := .active, lastResetTime := 0, nextResetTime := 0
    allowWalletOverflow := false, id_pos := Nat.one_pos, used_nonneg := Int.natCast_nonneg 100 }

def everySeconds (seconds : Int) : SubscriptionPlan := ⟨1, "custom", seconds⟩

theorem catchUp_ends_after_now_hourly :
    acceptResetPeriod (everySeconds 3600) = some (everySeconds 3600) ∧
      (ReachesLoop (begunAt 1000) (everySeconds 3600) 10000 →
        LoopEnds 0 (begunAt 1000) (everySeconds 3600) 10000) ∧
      ClearsUpToNow 0 (begunAt 1000) (everySeconds 3600) 10000 :=
  have haccepted : acceptResetPeriod (everySeconds 3600) = some (everySeconds 3600) := rfl
  ⟨haccepted, (catchUp_ends_after_now_iff haccepted 0 (begunAt 1000) 10000).mpr (by decide)⟩

/-- A period of `2 ^ 55` seconds has 0 nanoseconds in 64 bits; one of 18446744069 seconds runs back
by 5. -/
theorem catchUp_stands_still :
    (acceptResetPeriod (everySeconds (2 ^ 55)) = some (everySeconds (2 ^ 55)) ∧
      ReachesLoop (begunAt 1000) (everySeconds (2 ^ 55)) 10000 ∧
      ¬LoopEnds 0 (begunAt 1000) (everySeconds (2 ^ 55)) 10000) ∧
    (acceptResetPeriod (everySeconds 18446744069) = some (everySeconds 18446744069) ∧
      ResetDue 0 (begunAt 7) (everySeconds 18446744069) 10 ∧
      ∃ row, maybeReset 0 (begunAt 7) (everySeconds 18446744069) 10 = .saved row ∧
        row.nextResetTime = -3) := by
  refine ⟨⟨rfl, ⟨by decide, by decide⟩, ?_⟩, rfl, by decide, _, rfl, by decide⟩
  rintro ⟨fuel, result, hresult⟩
  have hstill : calcNextResetTime 0 1000 (everySeconds (2 ^ 55)) 0 = 1000 := by decide
  have hnone : catchUp 0 (everySeconds (2 ^ 55)) 0 10000 fuel 1000 1000 = none :=
    catchUp_still hstill (by decide) (by decide) fuel
  have hbase : resetBase (begunAt 1000) = 1000 := rfl
  rw [hbase, show (begunAt 1000).endTime = 0 from rfl, hstill, hnone] at hresult
  cases hresult

end ZModel.Subscription
