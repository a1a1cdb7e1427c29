import ZModel.Tasks.Submit

/-!
# Remixing a task

`ResolveOriginTask` puts the ratios of the origin task into the price data once, before all
attempts; each attempt then replaces the price data.
-/

namespace ZModel.Tasks

open Lib Common Store Billing

def maxTaskDurationSeconds : Int := 3600

structure OriginData where
  seconds : Int := 0
  size : String := ""

def legacyRatios (data : OriginData) : OtherRatios :=
  let seconds := if data.seconds ≤ 0 then 4 else data.seconds
  let seconds := if maxTaskDurationSeconds < seconds then maxTaskDurationSeconds else seconds
  let ratios := (OtherRatios.add {} "seconds" seconds).add "size" 1
  if data.size = "1792x1024" ∨ data.size = "1024x1792" then
    ratios.add "size" (1666667 / 1000000)
  else ratios

def originRatios (origin : Task) (data : OriginData) : OtherRatios :=
  match origin.privateData.billingContext with
  | some bc => bc.otherRatios
  | none => legacyRatios data

structure OriginEnv where
  videoID : String
  tasks : Except String (List Task)
  data : Task → OriginData := fun _ => {}
  channel : Nat → Except String Bool := fun _ => .ok true
  channelId : Nat := 0
  nextKey : Except TaskError Unit := .ok ()

def taskErrorLocal (message code : String) (statusCode : Int) : TaskError :=
  ⟨.reported code message, statusCode, true⟩

variable (e : OriginEnv)

def OriginEnv.getByTaskId (userId : Nat) : Except TaskError Task :=
  match e.tasks with
  | .error message => .error ⟨.reported "get_origin_task_failed" message, 500, false⟩
  | .ok tasks =>
    match tasks.find? fun t => t.userId = userId ∧ t.taskID = e.videoID with
    | none => .error (taskErrorLocal "task_origin_not_exist" "task_not_exist" 400)
    | some origin => .ok origin

def OriginEnv.lockChannel (origin : Task) : Except TaskError Unit :=
  match e.channel origin.channelId with
  | .error message => .error (taskErrorLocal message "channel_not_found" 400)
  | .ok false =>
    .error (taskErrorLocal "the channel of the origin task is disabled" "task_channel_disable" 400)
  | .ok true => if origin.channelId ≠ e.channelId then e.nextKey else .ok ()

def resolveOriginTask (s : Submission) : Except TaskError Submission :=
  if isBlank e.videoID then .error (taskErrorLocal "video_id is required" "invalid_request" 400)
  else do
    let origin ← e.getByTaskId s.request.info.userId
    e.lockChannel origin
    let ratios := s.priceData.otherRatios.addAll (originRatios origin (e.data origin)).ratios
    return { s with priceData := { s.priceData with otherRatios := ratios } }

def relayRemix (s : Submission) (first : Attempt) (rest : List Attempt) :
    Except TaskError TaskSubmitResult × Submission :=
  match resolveOriginTask e s with
  | .error err => (.error err, s)
  | .ok s => relayAttempts s first rest

def PriceEnv.base (e : PriceEnv) : ℚ :=
  match e.price with
  | some price => price * e.quotaPerUnit
  | none => e.ratio.getD e.unsetRatio / 2 * e.quotaPerUnit

def PriceEnv.worth (e : PriceEnv) : ℚ := e.base * e.groupRatio

def Attempt.requestFactor (t : Attempt) (pricePatched : Bool) : ℚ :=
  if pricePatched then 1 else (OtherRatios.addAll {} t.estimatedRatios).multiplier

/-- The ratios of the new request give the same quota as those of the origin task, with product `m`.
-/
def Attempt.SameCharge (t : Attempt) (pricePatched : Bool) (m : ℚ) : Prop :=
  (quotaFromFloatChecked (truncate t.price.worth * t.requestFactor pricePatched)).1 =
    truncate (t.price.worth * m)

theorem strictPrice_float_ok {value : ℚ} {quota : Int}
    (h : strictPrice (quotaFromFloatStrict value) = .ok quota) :
    quota = truncate value ∧ (minQuota : ℚ) < value ∧ value < maxQuota := by
  unfold quotaFromFloatStrict quotaFromFloatChecked saturateQuota at h
  split_ifs at h with hmax hmin <;> cases h
  exact ⟨rfl, not_le.mp hmin, not_le.mp hmax⟩

theorem quotaFromFloatChecked_truncate {value : ℚ} (hmin : (minQuota : ℚ) < value)
    (hmax : value < maxQuota) : (quotaFromFloatChecked (truncate value)).1 = truncate value := by
  refine saturateQuota_intCast ?_ ?_ _
  · obtain hneg | hnonneg := lt_or_ge value 0
    · rw [truncate, if_neg (not_le.mpr hneg)]
      exact_mod_cast hmin.le.trans (Int.le_ceil value)
    · exact le_trans (by decide) (truncate_nonneg hnonneg)
  obtain hneg | hnonneg := lt_or_ge value 0
  · exact (truncate_nonpos hneg).trans (by decide)
  · rw [truncate_of_nonneg hnonneg]
    exact_mod_cast (Int.floor_le value).trans hmax.le

variable {e : PriceEnv}

theorem PriceEnv.free_worth {price factor : ℚ} (h : e.free price = true) :
    price * factor * e.groupRatio = 0 := by
  unfold PriceEnv.free at h
  simp only [Bool.and_eq_true, Bool.or_eq_true, beq_iff_eq] at h
  obtain hgroup | hprice := h.2
  · rw [hgroup, mul_zero]
  · rw [hprice, zero_mul, zero_mul]

theorem quota_of_free {price factor : ℚ} {quota : Int}
    (h : quota = truncate (price * factor * e.groupRatio)) :
    (if e.free price then 0 else quota) = truncate (price * factor * e.groupRatio) := by
  split_ifs with hfree
  · rw [PriceEnv.free_worth hfree]
    rfl
  · exact h

theorem modelPriceHelperPerCall_ok {p : PriceData} (h : modelPriceHelperPerCall e = .ok p) :
    p.quota = truncate e.worth ∧ p.otherRatios = {} ∧
      (minQuota : ℚ) < e.worth ∧ e.worth < maxQuota := by
  unfold modelPriceHelperPerCall at h
  split at h
  next price hprice =>
    have hworth : e.worth = price * e.quotaPerUnit * e.groupRatio := by
      rw [PriceEnv.worth, PriceEnv.base, hprice]
    obtain ⟨quota, hquota, hp⟩ := bind_eq_ok.mp h
    obtain ⟨htrunc, hrange⟩ := strictPrice_float_ok hquota
    cases hp
    rw [hworth]
    exact ⟨quota_of_free htrunc, rfl, hrange⟩
  rename_i hprice
  split at h
  · cases h
  have hworth : e.worth = e.ratio.getD e.unsetRatio * (1 / 2 * e.quotaPerUnit) * e.groupRatio := by
    rw [PriceEnv.worth, PriceEnv.base, hprice]
    ring
  obtain ⟨quota, hquota, hp⟩ := bind_eq_ok.mp h
  obtain ⟨htrunc, hrange⟩ := strictPrice_float_ok hquota
  cases hp
  rw [show e.ratio.getD e.unsetRatio / 2 * e.quotaPerUnit * e.groupRatio = e.worth by
    rw [hworth]; ring] at htrunc hrange
  rw [hworth] at htrunc hrange ⊢
  exact ⟨quota_of_free htrunc, rfl, hrange⟩

section Remix

variable {s s' : Submission} {t : Attempt} {r : TaskSubmitResult}

theorem applyRatios_quota {p : PriceData} (htiered : s.tiered = false) (hp : p.otherRatios = {}) :
    ({ s with priceData := p }.applyRatios t).priceData.quota =
      if s.channel.pricePatched then p.quota
      else (quotaFromFloatChecked
        (p.quota * (OtherRatios.addAll {} t.estimatedRatios).multiplier)).1 := by
  unfold Submission.applyRatios
  rw [htiered, hp]
  cases s.channel.pricePatched <;> rfl

theorem price_tiered (hpriced : t.price.tieredExpr = none) : (s.price t).2.tiered = s.tiered := by
  unfold Submission.price modelPriceHelperMedia
  rw [hpriced]
  cases modelPriceHelperPerCall t.price with
  | error e => exact Bool.or_false s.tiered
  | ok p => exact applyRatios_tiered.trans (Bool.or_false s.tiered)

theorem send_tiered : (s.send t).2.tiered = s.tiered := by
  unfold Submission.send
  split
  · rfl
  · rfl
  · rfl
  · rfl
  unfold Submission.adjustBillingOnSubmit
  dsimp only
  split_ifs <;> rfl

theorem relayTaskSubmit_tiered (hpriced : t.price.tieredExpr = none) :
    (relayTaskSubmit s t).2.tiered = s.tiered := by
  have hprice := price_tiered (s := s) hpriced
  unfold relayTaskSubmit
  split
  · rfl
  split
  next hs =>
    rwa [hs] at hprice
  rename_i s₁ hs
  rw [hs] at hprice
  have hpaid := (preConsume_frame (s := s₁) (t := t)).2.2.trans hprice
  split
  next hs₁ =>
    rwa [hs₁] at hpaid
  rename_i s₂ hs₁
  rw [hs₁] at hpaid
  exact send_tiered.trans hpaid

theorem relayTaskSubmit_quota (htiered : s.tiered = false) (hpriced : t.price.tieredExpr = none)
    (hadjusted : t.adjustedRatios = []) (h : relayTaskSubmit s t = (.ok r, s')) :
    r.quota = (quotaFromFloatChecked
      (truncate t.price.worth * t.requestFactor s.channel.pricePatched)).1 := by
  obtain ⟨p, tiered, s₁, hp, -, -, hdata, hs', hquota⟩ := relayTaskSubmit_accepted h
  have hkept : s' = s₁ := by
    obtain rfl | rfl := hs'
    · rfl
    · unfold Submission.adjustBillingOnSubmit
      rw [hadjusted, if_pos (by simp)]
  rw [modelPriceHelperMedia, hpriced] at hp
  have hcall : modelPriceHelperPerCall t.price = .ok p := (Prod.mk.inj hp).1
  obtain rfl : false = tiered := (Prod.mk.inj hp).2
  obtain ⟨hworth, hratios, hmin, hmax⟩ := modelPriceHelperPerCall_ok hcall
  have happlied := applyRatios_quota (s := { s with tiered := s.tiered || false }) (t := t) (p := p)
    (by rw [htiered]; rfl) hratios
  rw [hquota, hkept, hdata, happlied, hworth]
  unfold Attempt.requestFactor
  split_ifs
  · rw [mul_one, quotaFromFloatChecked_truncate hmin hmax]
  · rfl

theorem resolveOriginTask_ok {e : OriginEnv} (h : resolveOriginTask e s = .ok s') :
    ∃ origin, e.getByTaskId s.request.info.userId = .ok origin ∧ s'.tiered = s.tiered := by
  unfold resolveOriginTask at h
  split at h
  · cases h
  obtain ⟨origin, horigin, h⟩ := bind_eq_ok.mp h
  obtain ⟨_, -, h⟩ := bind_eq_ok.mp h
  cases h
  exact ⟨origin, horigin, rfl⟩

end Remix

def originTask (ratios : OtherRatios) : Task :=
  { id := 7, taskID := "origin", userId := 1, submitTime := 5, quota := 480, status := .success
    platform := .video 0, channelId := 2
    privateData := { billingContext := some { otherRatios := ratios } } }

def originEnv (ratios : OtherRatios) : OriginEnv where
  videoID := "origin"
  tasks := .ok [originTask ratios]

def remixStart : Submission where
  request := .plain sampleInfo
  accounts := sampleAccounts

end ZModel.Tasks
