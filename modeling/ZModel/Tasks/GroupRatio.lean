import ZModel.Pricing.ModelPrice
import ZModel.Tasks.Polling
import ZModel.Tasks.Submit

/-!
# The group ratio of a re-billed task

A submission uses the special ratio of the user's group for the used group.
`RecalculateTaskQuotaByTokens` looks for a special ratio of the used group for itself.
-/

namespace ZModel.Tasks

open Lib Common Store Billing Pricing

structure GroupedAttempt where
  attempt : Attempt
  autoGroup : Option String := none
  requestedGroup : String

variable (g : GroupSettings)

def GroupedAttempt.resolve (userGroup : String) (x : GroupedAttempt) : Attempt :=
  let (info, usingGroup) := handleGroupRatio g x.autoGroup userGroup x.requestedGroup
  { x.attempt with
    channel := x.attempt.channel.map fun c => { c with usingGroup }
    price := { x.attempt.price with groupRatio := info.groupRatio } }

def specialOrGroupRatio (userGroup usingGroup : String) : ℚ :=
  (g.groupGroupRatio userGroup usingGroup).getD (g.getGroupRatio usingGroup)

theorem handleGroupRatio_groupRatio (autoGroup : Option String) (userGroup usingGroup : String) :
    (handleGroupRatio g autoGroup userGroup usingGroup).1.groupRatio =
      specialOrGroupRatio g userGroup (handleGroupRatio g autoGroup userGroup usingGroup).2 := by
  unfold handleGroupRatio specialOrGroupRatio
  dsimp only
  cases h : g.groupGroupRatio userGroup (autoGroup.getD usingGroup) with
  | none =>
    rw [h, Option.getD_none]
  | some ratio =>
    rw [h, Option.getD_some]

theorem modelPriceHelperMedia_groupRatio {e : PriceEnv} {p : PriceData} {tiered : Bool}
    (h : modelPriceHelperMedia e = (.ok p, tiered)) : p.groupRatio = e.groupRatio := by
  unfold modelPriceHelperMedia at h
  split at h
  · -- a price or a ratio: the quota is converted strictly, and the rest is copied
    obtain ⟨h, -⟩ := Prod.mk.inj h
    unfold modelPriceHelperPerCall at h
    split at h
    · obtain ⟨quota, -, hp⟩ := bind_eq_ok.mp h
      cases hp
      rfl
    split at h
    · cases h
    · obtain ⟨quota, -, hp⟩ := bind_eq_ok.mp h
      cases hp
      rfl
  unfold modelPriceHelperTiered at h
  split at h
  · cases h
  split at h
  · cases h
  · split at h <;> cases h
    rfl

section Accepted

variable {s s' : Submission} {t : Attempt} {r : TaskSubmitResult}

theorem applyRatios_groupRatio : (s.applyRatios t).priceData.groupRatio = s.priceData.groupRatio := by
  unfold Submission.applyRatios
  split_ifs <;> rfl

theorem adjustBillingOnSubmit_frame :
    (s.adjustBillingOnSubmit t).priceData.groupRatio = s.priceData.groupRatio ∧
      (s.adjustBillingOnSubmit t).channel = s.channel := by
  unfold Submission.adjustBillingOnSubmit
  dsimp only
  split_ifs <;> exact ⟨rfl, rfl⟩

theorem relayTaskSubmit_groupRatio (h : relayTaskSubmit s t = (.ok r, s')) :
    s'.priceData.groupRatio = t.price.groupRatio ∧ s'.channel = s.channel := by
  obtain ⟨p, tiered, s₁, hp, hchannel, -, hdata, hs', -⟩ := relayTaskSubmit_accepted h
  have hratio : s₁.priceData.groupRatio = t.price.groupRatio := by
    rw [hdata, applyRatios_groupRatio]
    exact modelPriceHelperMedia_groupRatio hp
  obtain rfl | rfl := hs'
  · exact ⟨hratio, hchannel⟩
  · exact ⟨adjustBillingOnSubmit_frame.1.trans hratio, adjustBillingOnSubmit_frame.2.trans hchannel⟩

theorem relayAttempts_groupRatio {g : GroupSettings} {userGroup : String} {first : GroupedAttempt}
    {rest : List GroupedAttempt}
    (h : relayAttempts s (first.resolve g userGroup) (rest.map (·.resolve g userGroup)) =
      (.ok r, s')) :
    s'.priceData.groupRatio = specialOrGroupRatio g userGroup s'.channel.usingGroup := by
  obtain ⟨u, hu, s₀, channel, -, hchannel, hsubmit⟩ :=
    relayAttempts_accepted (P := fun _ => True) (fun _ _ _ _ _ => trivial) trivial h
  obtain ⟨hratio, hs'⟩ := relayTaskSubmit_groupRatio hsubmit
  rw [← List.map_cons] at hu
  obtain ⟨x, -, rfl⟩ := List.mem_map.mp hu
  obtain ⟨c, -, hc⟩ : ∃ c, x.attempt.channel = .ok c ∧ { c with usingGroup :=
        (handleGroupRatio g x.autoGroup userGroup x.requestedGroup).2 } = channel := by
    cases hx : x.attempt.channel with
    | error e =>
      rw [GroupedAttempt.resolve, hx] at hchannel
      cases hchannel
    | ok c =>
      rw [GroupedAttempt.resolve, hx] at hchannel
      exact ⟨c, rfl, Except.ok.inj hchannel⟩
  have hgroup : s'.channel.usingGroup =
      (handleGroupRatio g x.autoGroup userGroup x.requestedGroup).2 := by
    rw [hs', ← hc]
  rw [hratio, hgroup]
  exact handleGroupRatio_groupRatio g x.autoGroup userGroup x.requestedGroup

end Accepted

variable (w : World)

def World.withGroups (g : GroupSettings) : World :=
  { w with
    groupRatio := g.getGroupRatio
    groupGroupRatio := fun group => g.groupGroupRatio group group }

variable (t : Task)

def rebilledGroup : String :=
  if t.group ≠ "" then t.group else (w.userGroup t.userId).getD ""

def rebilledGroupRatio : ℚ :=
  (w.groupGroupRatio (rebilledGroup w t)).getD (w.groupRatio (rebilledGroup w t))

def Task.storedGroupRatio : Option ℚ := t.privateData.billingContext.map (·.groupRatio)

def Task.otherMultiplier : ℚ :=
  match t.privateData.billingContext with
  | some bc => bc.otherRatios.multiplier
  | none => 1

theorem quotaByTokens_eq (totalTokens : Int) :
    quotaByTokens w t totalTokens =
      match w.modelRatio (taskModelName t) with
      | none => none
      | some ratio =>
        if ratio ≤ 0 || rebilledGroup w t = "" then none
        else
          let quota := (quotaFromFloatChecked
            (totalTokens * ratio * rebilledGroupRatio w t * t.otherMultiplier)).1
          if quota ≤ 0 then none else some quota := rfl

theorem rebilledGroup_ne_empty {w : World} {t : Task} {totalTokens quota : Int}
    (h : quotaByTokens w t totalTokens = some quota) : rebilledGroup w t ≠ "" := by
  rw [quotaByTokens_eq] at h
  split at h
  · cases h
  intro hempty
  rw [if_pos (by simp [hempty])] at h
  cases h

structure Task.SubmittedAs (t t₀ : Task) : Prop where
  group : t.group = t₀.group
  userId : t.userId = t₀.userId
  groupRatio : t.storedGroupRatio = t₀.storedGroupRatio

def laterGroup (userGroup usingGroup : String) : String :=
  if usingGroup ≠ "" then usingGroup else userGroup

/-- The user's group pays in the used group what the later group pays in itself. -/
def SameGroupCharge (userGroup usingGroup later : String) : Prop :=
  match g.groupGroupRatio userGroup usingGroup, g.groupGroupRatio later later with
  | none, none => g.getGroupRatio usingGroup = g.getGroupRatio later
  | some ratio, none => ratio = g.getGroupRatio later
  | none, some ratio => g.getGroupRatio usingGroup = ratio
  | some ratio, some ratio' => ratio = ratio'

theorem specialOrGroupRatio_eq_iff (userGroup usingGroup later : String) :
    specialOrGroupRatio g userGroup usingGroup = specialOrGroupRatio g later later ↔
      SameGroupCharge g userGroup usingGroup later := by
  unfold specialOrGroupRatio SameGroupCharge
  cases g.groupGroupRatio userGroup usingGroup <;> cases g.groupGroupRatio later later <;> rfl

/-- **The group ratio of a task that is billed again is the stored one exactly if** the user's group
pays in the used group what the used group pays in itself. -/
theorem rebilled_group_ratio_iff {g : GroupSettings} {userGroup : String} {first : GroupedAttempt}
    {rest : List GroupedAttempt} {s s' : Submission} {r : TaskSubmitResult} {e : SubmitEnv}
    {w : World} {t : Task} {totalTokens quota : Int}
    (hs : relayAttempts s (first.resolve g userGroup) (rest.map (·.resolve g userGroup)) =
      (.ok r, s'))
    (ht : t.SubmittedAs (s'.acceptedTask e r))
    (huser : ∀ group, w.userGroup t.userId = some group → group = userGroup)
    (hbilled : quotaByTokens (w.withGroups g) t totalTokens = some quota) :
    t.storedGroupRatio = some (rebilledGroupRatio (w.withGroups g) t) ↔
      SameGroupCharge g userGroup t.group (laterGroup userGroup t.group) := by
  have hstored : t.storedGroupRatio = some (specialOrGroupRatio g userGroup t.group) := by
    rw [ht.groupRatio, ht.group]
    exact congrArg some (relayAttempts_groupRatio hs)
  have hlater : rebilledGroup (w.withGroups g) t = laterGroup userGroup t.group := by
    have hne := rebilledGroup_ne_empty hbilled
    unfold rebilledGroup at hne ⊢
    unfold laterGroup
    split_ifs with hgroup
    · rfl
    -- the group of the user is found, since otherwise nothing is billed
    rw [if_neg hgroup] at hne
    cases hfound : w.userGroup t.userId with
    | none =>
      refine absurd ?_ hne
      show (w.userGroup t.userId).getD "" = ""
      rw [hfound, Option.getD_none]
    | some group =>
      show (w.userGroup t.userId).getD "" = userGroup
      rw [hfound]
      exact huser group hfound
  have hrebilled : rebilledGroupRatio (w.withGroups g) t =
      specialOrGroupRatio g (laterGroup userGroup t.group) (laterGroup userGroup t.group) := by
    rw [rebilledGroupRatio, hlater]
    rfl
  rw [hstored, hrebilled, Option.some.injEq]
  exact specialOrGroupRatio_eq_iff g userGroup t.group (laterGroup userGroup t.group)

theorem sameGroupCharge_self {group : String} (h : group ≠ "") :
    SameGroupCharge g group group (laterGroup group group) := by
  rw [laterGroup, if_pos h, ← specialOrGroupRatio_eq_iff]

def sampleGroups : GroupSettings where
  groupRatio group := if group = "vip" then some 2 else if group = "default" then some 1 else none
  groupGroupRatio userGroup usingGroup :=
    if userGroup = "vip" then
      if usingGroup = "default" then some (1 / 2)
      else if usingGroup = "vip" then some (3 / 4) else none
    else none

def ratioAttempt (group : String) : GroupedAttempt where
  attempt :=
    { channel := .ok { channelId := 2, originModelName := "video" }
      price := { quotaPerUnit := 60, ratio := some 2 }
      opening := sampleOpening
      response := .ok ("upstream", "") }
  requestedGroup := group

def sampleWorld : World where
  modelRatio _ := some 2
  userGroup _ := some "vip"

def sampleEnv : SubmitEnv where
  id := 1
  taskID := "task"
  now := 10

def vipAttempts (group : String) : Except TaskError TaskSubmitResult × Submission :=
  relayAttempts { request := .plain sampleInfo, accounts := sampleAccounts }
    ((ratioAttempt group).resolve sampleGroups "vip") []

/-- The task is billed again at the whole ratio: 80 for tokens that cost 40. -/
theorem rebilled_at_other_ratio :
    (vipAttempts "default").1.toOption.map (fun r =>
      let t := (vipAttempts "default").2.acceptedTask sampleEnv r
      (t.group, t.storedGroupRatio, rebilledGroupRatio (sampleWorld.withGroups sampleGroups) t,
        quotaByTokens (sampleWorld.withGroups sampleGroups) t 40)) =
      some ("default", some (1 / 2), 1, some 80) ∧
    (quotaFromFloatChecked (40 * 2 * (1 / 2))).1 = 40 := by
  decide +kernel

theorem rebilled_at_stored_ratio : ∃ r s', vipAttempts "vip" = (.ok r, s') ∧
      quotaByTokens (sampleWorld.withGroups sampleGroups) (s'.acceptedTask sampleEnv r) 40 =
        some 60 ∧
      (s'.acceptedTask sampleEnv r).storedGroupRatio =
        some (rebilledGroupRatio (sampleWorld.withGroups sampleGroups)
          (s'.acceptedTask sampleEnv r)) := by
  obtain ⟨⟨result, s'⟩, hout⟩ : ∃ out, vipAttempts "vip" = out := ⟨_, rfl⟩
  have hresult : result = (vipAttempts "vip").1 := by rw [hout]
  have hs' : s' = (vipAttempts "vip").2 := by rw [hout]
  have hgroup : s'.channel.usingGroup = "vip" := by
    rw [hs']
    decide +kernel
  have hbilled : result.toOption.map (fun r =>
      quotaByTokens (sampleWorld.withGroups sampleGroups) (s'.acceptedTask sampleEnv r) 40) =
      some (some 60) := by
    rw [hresult, hs']
    decide +kernel
  cases result with
  | error e => cases hbilled
  | ok r =>
    have hquota := Option.some.inj hbilled
    have hsame : SameGroupCharge sampleGroups "vip" (s'.acceptedTask sampleEnv r).group
        (laterGroup "vip" (s'.acceptedTask sampleEnv r).group) := by
      show SameGroupCharge sampleGroups "vip" s'.channel.usingGroup
        (laterGroup "vip" s'.channel.usingGroup)
      rw [hgroup]
      exact sameGroupCharge_self sampleGroups (by decide)
    have hattempts : relayAttempts { request := .plain sampleInfo, accounts := sampleAccounts }
        ((ratioAttempt "vip").resolve sampleGroups "vip")
        (([] : List GroupedAttempt).map (·.resolve sampleGroups "vip")) = (.ok r, s') := hout
    have hratio := (rebilled_group_ratio_iff hattempts ⟨rfl, rfl, rfl⟩
      (fun group hfound => (Option.some.inj hfound).symm) hquota).mpr hsame
    exact ⟨r, s', hout, hquota, hratio⟩

end ZModel.Tasks
