import ZModel.Store.Quota
import ZModel.Tasks.Price

/-!
# Task rows

`Task` of `model/task.go`. The row is identified by its primary key; the public task id and the id
given by the provider are other columns.
-/

namespace ZModel.Tasks

open Lib Store

variable {a : Accounts} {delta : Int}

/-- `TaskStatus`. Words of the providers have a number. -/
inductive TaskStatus where
  | notStart
  | preparing
  | submitted
  | queued
  | inProgress
  | failure
  | success
  | unknown
  | empty
  | other (word : Nat)
  deriving DecidableEq

def TaskStatus.finished : TaskStatus → Bool
  | .success | .failure => true
  | _ => false

inductive Platform where
  | suno
  | midjourney
  | video (channelType : Nat)
  deriving DecidableEq

/-- The fields of `TaskBillingContext` that settlement uses, and the group ratio. -/
structure TaskBillingContext where
  groupRatio : ℚ := 0
  otherRatios : OtherRatios := {}
  originModelName : String := ""
  perCallBilling : Bool := false
  tieredExpr : Bool := false
  actualQuota : Option Int := none

structure TaskPrivateData where
  upstreamTaskID : String := ""
  resultURL : String := ""
  billingSource : BillingSource := .wallet
  subscriptionId : Nat := 0
  tokenId : Nat := 0
  billingContext : Option TaskBillingContext := none
  videoPreparation : Option String := none

structure Task where
  id : Nat
  taskID : String
  platform : Platform
  userId : Nat
  group : String := ""
  channelId : Nat
  quota : Int
  status : TaskStatus := .notStart
  failReason : String := ""
  submitTime : Int := 0
  startTime : Int := 0
  finishTime : Int := 0
  progress : String := "0%"
  originModelName : String := ""
  privateData : TaskPrivateData := {}
  data : String := ""
  updatedAt : Int := 0

instance : Keyed Task Nat := ⟨Task.id⟩

variable (t : Task)

@[simp] theorem key_task : key t = t.id := rfl

def Task.getUpstreamTaskID : String :=
  if t.privateData.upstreamTaskID ≠ "" then t.privateData.upstreamTaskID else t.taskID

structure TaskSnapshot where
  status : TaskStatus
  progress : String
  startTime : Int
  finishTime : Int
  failReason : String
  resultURL : String
  data : String
  deriving DecidableEq

def Task.snapshot : TaskSnapshot :=
  ⟨t.status, t.progress, t.startTime, t.finishTime, t.failReason, t.privateData.resultURL, t.data⟩

def Task.isSubscription : Bool :=
  t.privateData.billingSource == .subscription && 0 < t.privateData.subscriptionId

def Task.account : Account :=
  if t.isSubscription then .subscription t.privateData.subscriptionId else .wallet t.userId

def taskAdjustFunding (w : Write) (a : Accounts) (t : Task) (delta : Int) :
    Except QuotaError Accounts :=
  if t.isSubscription then postConsumeUserSubscriptionDelta w a t.privateData.subscriptionId delta
  else if 0 < delta then decreaseUserQuota w a t.userId delta
  else increaseUserQuota w a t.userId (-delta)

def taskAdjustTokenQuota (keyFound : Bool) (w : Write) (a : Accounts) (t : Task) (delta : Int) :
    Accounts :=
  if t.privateData.tokenId = 0 ∨ delta = 0 ∨ keyFound = false then a
  else if 0 < delta then
    match decreaseTokenQuota w a t.privateData.tokenId delta with
    | .ok a' => a'
    | .error _ => a
  else
    match increaseTokenQuota w a t.privateData.tokenId (-delta) with
    | .ok a' => a'
    | .error _ => a

variable {t : Task}

theorem taskAdjustFunding_takes {w : Write} {a' : Accounts} (hfloor : ∀ s, t.isSubscription = true →
      a.subscriptions.find? t.privateData.subscriptionId = some s → 0 ≤ s.amountUsed + delta)
    (h : taskAdjustFunding w a t delta = .ok a') : TakesFrom t.account delta a a' := by
  unfold taskAdjustFunding at h
  unfold Task.account
  split at h
  next hsub =>
    rw [if_pos hsub]
    exact postConsume_takes (fun s hs => hfloor s hsub hs) h
  rename_i hwallet
  rw [if_neg hwallet]
  split at h
  · exact decreaseUserQuota_spec h
  · simpa using increaseUserQuota_spec h

/-- A write by `δ` changes what is stored for the account. -/
def Shifts (a : Accounts) (δ : Int) : Account → Prop
  | .subscription id =>
    ∃ s ∈ a.subscriptions.find? id, max 0 (s.amountUsed + δ) ≠ s.amountUsed
  | acc => balance a acc ≠ none

instance (a : Accounts) (δ : Int) : (acc : Account) → Decidable (Shifts a δ acc)
  | .subscription id => inferInstanceAs (Decidable (∃ s ∈ a.subscriptions.find? id, _))
  | .wallet u => inferInstanceAs (Decidable (balance a (.wallet u) ≠ none))
  | .token k => inferInstanceAs (Decidable (balance a (.token k) ≠ none))

theorem taskAdjustFunding_ok_iff (hdelta : delta ≠ 0) :
    (∃ a', taskAdjustFunding .done a t delta = .ok a') ↔ HasRoom a delta t.account := by
  unfold taskAdjustFunding Task.account
  split
  · rw [postConsume_ok_iff hdelta]
    exact and_iff_right rfl
  refine iff_of_true ?_ trivial
  split
  · exact ⟨_, writeQuota_done (by omega) _⟩
  · exact ⟨_, writeQuota_done (by omega) _⟩

theorem taskAdjustFunding_shifts {w : Write} {a' : Accounts} (hdelta : delta ≠ 0)
    (h : taskAdjustFunding w a t delta = .ok a') :
    (∃ taken, TakesFrom t.account taken a a' ∧
      (Shifts a delta t.account → taken ≠ 0 ∧ balance a t.account ≠ none)) ∧
    (¬Shifts a delta t.account → a' = a) := by
  by_cases hsub : t.isSubscription = true
  · rw [taskAdjustFunding, if_pos hsub] at h
    rw [Task.account, if_pos hsub]
    obtain ⟨s, hs, rfl⟩ := postConsume_saves hdelta h
    have hid : s.id = t.privateData.subscriptionId := Table.find?_key hs
    refine ⟨⟨max 0 (s.amountUsed + delta) - s.amountUsed, ?_, ?_⟩, ?_⟩
    · rw [← hid] at hs ⊢
      exact takesFrom_used rfl rfl (Accounts.subscriptionUsed_save hs _ rfl)
    · rintro ⟨s', hs', hne⟩
      obtain rfl : s = s' := Option.some.inj (hs.symm.trans hs')
      refine ⟨by omega, ?_⟩
      simp [balance, Accounts.subscriptionUsed, hs]
    intro hsame
    have hused : max 0 (s.amountUsed + delta) = s.amountUsed := by
      by_contra hne
      exact hsame ⟨s, hs, hne⟩
    simp only [hused]
    exact congrArg (fun subs => { a with subscriptions := subs }) (Table.put_self hs)
  have htakes : TakesFrom t.account delta a a' :=
    taskAdjustFunding_takes (fun _ hsub' => absurd hsub' hsub) h
  rw [taskAdjustFunding, if_neg hsub] at h
  rw [Task.account, if_neg hsub] at htakes ⊢
  refine ⟨⟨delta, htakes, fun hshift => ⟨hdelta, hshift⟩⟩, fun hmissing => ?_⟩
  have hnone : a.users.find? t.userId = none := by
    have hbalance := Decidable.not_not.mp hmissing
    simpa [balance, Accounts.userQuota] using hbalance
  have hsame : ∀ δ, a.addUserQuota t.userId δ = a := fun δ => by
    rw [Accounts.addUserQuota, Table.modify, hnone]
  split at h
  · exact (writeQuota_ok h).2.trans (hsame _)
  · exact (writeQuota_ok h).2.trans (hsame _)

def Task.tokenShifts (t : Task) (keyFound : Bool) (a : Accounts) : Prop :=
  t.privateData.tokenId ≠ 0 ∧ keyFound = true ∧ a.tokenRemain t.privateData.tokenId ≠ none

instance (t : Task) (keyFound : Bool) (a : Accounts) : Decidable (t.tokenShifts keyFound a) :=
  inferInstanceAs (Decidable (_ ∧ _ ∧ _))

theorem taskAdjustTokenQuota_shifts {keyFound : Bool} (hdelta : delta ≠ 0) :
    (∃ taken, TakesFrom (.token t.privateData.tokenId) taken a
        (taskAdjustTokenQuota keyFound .done a t delta) ∧
      (t.tokenShifts keyFound a → taken ≠ 0)) ∧
    (¬t.tokenShifts keyFound a → taskAdjustTokenQuota keyFound .done a t delta = a) := by
  unfold taskAdjustTokenQuota
  split
  next hskip =>
    refine ⟨⟨0, takesFrom_zero _ a, fun hshift => ?_⟩, fun _ => rfl⟩
    obtain hid | hzero | hkey := hskip
    · exact absurd hid hshift.1
    · exact absurd hzero hdelta
    · exact absurd (hkey.symm.trans hshift.2.1) nofun
  rename_i hmoves
  push Not at hmoves
  have hsame : ¬t.tokenShifts keyFound a → ∀ δ, a.addTokenQuota t.privateData.tokenId δ = a := by
    intro hshift δ
    have hnone : a.tokens.find? t.privateData.tokenId = none := by
      by_contra hsome
      exact hshift ⟨hmoves.1, by simpa using hmoves.2.2, by simpa [Accounts.tokenRemain] using hsome⟩
    rw [Accounts.addTokenQuota, Table.modify, hnone]
  split
  · have hok : decreaseTokenQuota .done a t.privateData.tokenId delta = .ok _ :=
      writeQuota_done (by omega) _
    rw [hok]
    exact ⟨⟨delta, decreaseTokenQuota_spec hok, fun _ => hdelta⟩, fun hshift => hsame hshift _⟩
  have hok : increaseTokenQuota .done a t.privateData.tokenId (-delta) = .ok _ :=
    writeQuota_done (by omega) _
  rw [hok]
  exact ⟨⟨_, increaseTokenQuota_spec hok, fun _ => by omega⟩, fun hshift => hsame hshift _⟩

end ZModel.Tasks
