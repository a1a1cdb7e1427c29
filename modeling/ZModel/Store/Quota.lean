import ZModel.Store.Balance

/-!
# Quota writes that may fail

`IncreaseUserQuota`, `DecreaseUserQuota`, `IncreaseTokenQuota`, `DecreaseTokenQuota` and
`PostConsumeUserSubscriptionDelta`. Whether a write is carried out is an input.
-/

namespace ZModel.Store

open Lib

variable {a a' : Accounts} {quota δ : Int} {id : Nat} {s : UserSubscription}

inductive Write where
  | done
  | fails
  deriving DecidableEq

inductive QuotaError where
  | negativeQuota
  | writeFailed
  | recordNotFound
  | invalidUserSubscriptionId
  | usedExceedsTotal (used total : Int)

def writeQuota (w : Write) (quota : Int) (a' : Accounts) : Except QuotaError Accounts :=
  if quota < 0 then .error .negativeQuota
  else match w with
    | .fails => .error .writeFailed
    | .done => .ok a'

section

variable (w : Write) (a : Accounts) (id : Nat) (quota : Int)

def increaseUserQuota : Except QuotaError Accounts :=
  writeQuota w quota (a.addUserQuota id quota)

def decreaseUserQuota : Except QuotaError Accounts :=
  writeQuota w quota (a.addUserQuota id (-quota))

def increaseTokenQuota : Except QuotaError Accounts :=
  writeQuota w quota (a.addTokenQuota id quota)

def decreaseTokenQuota : Except QuotaError Accounts :=
  writeQuota w quota (a.addTokenQuota id (-quota))

end

def postConsumeUserSubscriptionDelta (w : Write) (a : Accounts) (id : Nat) (delta : Int) :
    Except QuotaError Accounts :=
  if id = 0 then .error .invalidUserSubscriptionId
  else if delta = 0 then .ok a
  else match a.subscriptions.find? id with
    | none => .error .recordNotFound
    | some s =>
      let used := max 0 (s.amountUsed + delta)
      if 0 < s.amountTotal ∧ s.amountTotal < used then
        .error (.usedExceedsTotal used s.amountTotal)
      else match w with
        | .fails => .error .writeFailed
        | .done => .ok (a.saveSubscription (s.setUsed used (Int.le_max_left 0 _)))

/-! ## What a committed write did -/

variable {w : Write}

theorem writeQuota_ok (h : writeQuota w quota a = .ok a') : 0 ≤ quota ∧ a' = a := by
  unfold writeQuota at h
  split at h
  · cases h
  split at h
  · cases h
  · cases h
    exact ⟨by omega, rfl⟩

theorem writeQuota_done (h : 0 ≤ quota) (a : Accounts) : writeQuota .done quota a = .ok a := by
  simp [writeQuota, Int.not_lt.mpr h]

theorem writeQuota_ok_iff (h : 0 ≤ quota) (a : Accounts) :
    (∃ a', writeQuota w quota a = .ok a') ↔ w = .done := by
  cases w <;> simp [writeQuota, Int.not_lt.mpr h]

theorem increaseUserQuota_spec (h : increaseUserQuota w a id quota = .ok a') :
    TakesFrom (.wallet id) (-quota) a a' := by
  obtain ⟨-, rfl⟩ := writeQuota_ok h
  simpa using takesFrom_addUserQuota a id (-quota)

theorem decreaseUserQuota_spec (h : decreaseUserQuota w a id quota = .ok a') :
    TakesFrom (.wallet id) quota a a' := by
  obtain ⟨-, rfl⟩ := writeQuota_ok h
  exact takesFrom_addUserQuota a id quota

theorem increaseTokenQuota_spec (h : increaseTokenQuota w a id quota = .ok a') :
    TakesFrom (.token id) (-quota) a a' := by
  obtain ⟨-, rfl⟩ := writeQuota_ok h
  simpa using takesFrom_addTokenQuota a id (-quota)

theorem decreaseTokenQuota_spec (h : decreaseTokenQuota w a id quota = .ok a') :
    TakesFrom (.token id) quota a a' := by
  obtain ⟨-, rfl⟩ := writeQuota_ok h
  exact takesFrom_addTokenQuota a id quota

def WithinTotal (a : Accounts) (id : Nat) : Prop :=
  ∃ s, a.subscriptions.find? id = some s ∧ (s.amountTotal ≤ 0 ∨ s.amountUsed ≤ s.amountTotal)

theorem postConsume_spec (hs : a.subscriptions.find? id = some s)
    (hfloor : 0 ≤ s.amountUsed + δ) (h : postConsumeUserSubscriptionDelta w a id δ = .ok a') :
    TakesFrom (.subscription id) δ a a' ∧ a'.preConsumeRecords = a.preConsumeRecords ∧
      (δ ≠ 0 → WithinTotal a' id) := by
  have hid : s.id = id := Table.find?_key hs
  unfold postConsumeUserSubscriptionDelta at h
  split at h
  · cases h
  split at h
  next hδ =>
    cases h
    subst hδ
    exact ⟨takesFrom_zero _ a, rfl, fun hne => absurd rfl hne⟩
  rw [hs] at h
  simp only [Int.max_eq_right hfloor] at h
  split at h
  · cases h
  rename_i hroom
  split at h
  · cases h
  cases h
  subst hid
  refine ⟨takesFrom_used rfl rfl fun id => ?_, rfl, fun _ => ?_⟩
  · rw [Accounts.subscriptionUsed_save hs (s.setUsed (s.amountUsed + δ) _) rfl id]
    simp
  refine ⟨s.setUsed (s.amountUsed + δ) hfloor, Table.find?_put_of_find? hs _ rfl, ?_⟩
  simp only [UserSubscription.setUsed_amountTotal, UserSubscription.setUsed_amountUsed]
  omega

theorem postConsume_saves (hδ : δ ≠ 0) (h : postConsumeUserSubscriptionDelta w a id δ = .ok a') :
    ∃ s, a.subscriptions.find? id = some s ∧
      a' = a.saveSubscription (s.setUsed (max 0 (s.amountUsed + δ)) (Int.le_max_left 0 _)) := by
  unfold postConsumeUserSubscriptionDelta at h
  rw [if_neg hδ] at h
  split at h
  · cases h
  split at h
  · cases h
  rename_i s hs
  dsimp only at h
  split at h
  · cases h
  split at h
  · cases h
  · cases h
    exact ⟨s, hs, rfl⟩

theorem postConsume_takes (hfloor : ∀ s, a.subscriptions.find? id = some s → 0 ≤ s.amountUsed + δ)
    (h : postConsumeUserSubscriptionDelta w a id δ = .ok a') :
    TakesFrom (.subscription id) δ a a' := by
  cases hs : a.subscriptions.find? id with
  | some s => exact (postConsume_spec hs (hfloor s hs) h).1
  | none =>
    -- Without a row only a change by 0 is accepted.
    unfold postConsumeUserSubscriptionDelta at h
    split at h
    · cases h
    split at h
    next hδ =>
      cases h
      rw [hδ]
      exact takesFrom_zero _ a
    · simp [hs] at h

def HasRoom (a : Accounts) (δ : Int) : Account → Prop
  | .subscription id => ∃ s ∈ a.subscriptions.find? id,
      s.amountTotal ≤ 0 ∨ max 0 (s.amountUsed + δ) ≤ s.amountTotal
  | _ => True

instance (a : Accounts) (δ : Int) : (acc : Account) → Decidable (HasRoom a δ acc)
  | .subscription id => inferInstanceAs (Decidable (∃ s ∈ a.subscriptions.find? id, _))
  | .wallet _ => isTrue trivial
  | .token _ => isTrue trivial

theorem hasRoom_subscription (hs : a.subscriptions.find? id = some s) :
    HasRoom a δ (.subscription id) ↔
      s.amountTotal ≤ 0 ∨ max 0 (s.amountUsed + δ) ≤ s.amountTotal := by
  simp [HasRoom, hs]

theorem postConsume_ok_iff (hδ : δ ≠ 0) :
    (∃ a', postConsumeUserSubscriptionDelta w a id δ = .ok a') ↔
      w = .done ∧ HasRoom a δ (.subscription id) := by
  unfold postConsumeUserSubscriptionDelta
  rw [if_neg hδ]
  cases hs : a.subscriptions.find? id with
  | none =>
    simp only [HasRoom, hs]
    split <;> simp
  | some s =>
    have hpos : id ≠ 0 := by
      rw [← show s.id = id from Table.find?_key hs]
      exact Nat.ne_of_gt s.id_pos
    rw [if_neg hpos, hasRoom_subscription hs]
    simp only
    split
    next hover =>
      simp only [reduceCtorEq, exists_false, false_iff]
      rintro ⟨-, hroom⟩
      omega
    rename_i hroom
    cases w with
    | fails => simp
    | done =>
      refine ⟨fun _ => ⟨rfl, ?_⟩, fun _ => ⟨_, rfl⟩⟩
      omega

theorem postConsume_done (hs : a.subscriptions.find? id = some s)
    (hroom : s.amountTotal ≤ 0 ∨ max 0 (s.amountUsed + δ) ≤ s.amountTotal) :
    ∃ a', postConsumeUserSubscriptionDelta .done a id δ = .ok a' := by
  by_cases hδ : δ = 0
  · have hpos : id ≠ 0 := by
      rw [← show s.id = id from Table.find?_key hs]
      exact Nat.ne_of_gt s.id_pos
    exact ⟨a, by rw [postConsumeUserSubscriptionDelta, if_neg hpos, if_pos hδ]⟩
  · refine (postConsume_ok_iff hδ).mpr ⟨rfl, ?_⟩
    exact ⟨s, hs, hroom⟩

theorem postConsume_giveBack {x : Int} (hs : a.subscriptions.find? id = some s)
    (hroom : s.amountTotal ≤ 0 ∨ s.amountUsed ≤ s.amountTotal) (hx : 0 ≤ x)
    (hused : x ≤ s.amountUsed) :
    ∃ a', postConsumeUserSubscriptionDelta .done a id (-x) = .ok a' ∧
      TakesFrom (.subscription id) (-x) a a' ∧ a'.preConsumeRecords = a.preConsumeRecords ∧
      WithinTotal a' id := by
  obtain ⟨a', ha'⟩ : ∃ a', postConsumeUserSubscriptionDelta .done a id (-x) = .ok a' :=
    postConsume_done hs (by omega)
  obtain ⟨htakes, hrecords, hwithin⟩ := postConsume_spec hs (by omega) ha'
  refine ⟨a', ha', htakes, hrecords, ?_⟩
  by_cases hzero : x = 0
  · have hpos : id ≠ 0 := by
      rw [← show s.id = id from Table.find?_key hs]
      exact Nat.ne_of_gt s.id_pos
    simp only [postConsumeUserSubscriptionDelta, hzero, if_neg hpos] at ha'
    cases ha'
    exact ⟨s, hs, hroom⟩
  · exact hwithin (by omega)

theorem Drawn.subscription {k : Nat} {n m : Int}
    (h : Drawn (.subscription id) (.token k) n m a a') (hs : a'.subscriptions.find? id = some s) :
    ∃ s₀, a.subscriptions.find? id = some s₀ ∧ s.amountUsed = s₀.amountUsed + n := by
  have hbalance := h (.subscription id)
  simp only [balance, Accounts.subscriptionUsed, hs] at hbalance
  cases hs₀ : a.subscriptions.find? id with
  | none => simp [hs₀] at hbalance
  | some s₀ =>
    refine ⟨s₀, rfl, ?_⟩
    simp [hs₀] at hbalance
    omega

end ZModel.Store
