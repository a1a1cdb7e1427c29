import ZModel.Pricing.GroupCharge

/-!
# Settling image tasks

`generateAsyncImageTask` of `controller/async_image_worker.go` prices a task by the stored billing
context and by what the adaptors record. Each attempt replaces the group ratio of the price data by
the current one.
-/

namespace ZModel.Pricing

open Lib Common BillingExpr
open Tasks (OtherRatios)

inductive Recorded where
  | imageCount (count : Int)
  | ratio (key : String) (ratio : ℚ)

variable (info : RelayInfo)

def RelayInfo.addOtherRatio (key : String) (ratio : ℚ) : RelayInfo :=
  { info with priceData :=
    { info.priceData with otherRatios := info.priceData.otherRatios.add key ratio } }

def updateOpenAIImageCount (count : Int) : RelayInfo :=
  if count ≤ 0 ∨ maxImageN < count then info
  else
    let info :=
      match info.tieredBillingSnapshot with
      | some snap =>
        let dimensions := { snap.estimatedDimensions with units := count }
        { info with actualBillingDimensions := some dimensions }
      | none => info
    if info.priceData.usePrice then info.addOtherRatio "n" count else info

def RelayInfo.record : Recorded → RelayInfo
  | .imageCount count => updateOpenAIImageCount info count
  | .ratio key ratio => info.addOtherRatio key ratio

structure Response where
  recorded : List Recorded := []
  usage : Usage := {}
  claudeFormat : Bool := false
  openRouter : Bool := false
  tools : ToolUse := {}

variable (response : Response)

def Response.imageUsage : Usage :=
  { response.usage with
    totalTokens := if response.usage.totalTokens = 0 then 1 else response.usage.totalTokens
    promptTokens := if response.usage.promptTokens = 0 then 1 else response.usage.promptTokens }

def RelayInfo.respond : RelayInfo :=
  { response.recorded.foldl RelayInfo.record info with
    claudeFormat := response.claudeFormat
    openRouter := response.openRouter
    tools := response.tools }

variable (settings : Settings) (engine : Engine)

def settleResponse (info : RelayInfo) (response : Response) : Int :=
  settledQuota settings engine (info.respond response) (some response.imageUsage)

def Recorded.otherRatios (usePrice : Bool) (o : OtherRatios) : Recorded → OtherRatios
  | .imageCount count =>
    if count ≤ 0 ∨ maxImageN < count then o else if usePrice then o.add "n" count else o
  | .ratio key value => o.add key value

def Recorded.dimensions (snapshot : Option BillingSnapshot) (d : Option BillingDimensions) :
    Recorded → Option BillingDimensions
  | .imageCount count =>
    if count ≤ 0 ∨ maxImageN < count then d
    else (snapshot.map fun snap => { snap.estimatedDimensions with units := count }).or d
  | .ratio _ _ => d

def RelayInfo.withRatios (o : OtherRatios) : RelayInfo :=
  { info with priceData := { info.priceData with otherRatios := o } }

def RelayInfo.recorded (rs : List Recorded) : RelayInfo :=
  { info.withRatios (rs.foldl (Recorded.otherRatios info.priceData.usePrice)
      info.priceData.otherRatios) with
    actualBillingDimensions := rs.foldl (Recorded.dimensions info.tieredBillingSnapshot)
      info.actualBillingDimensions }

theorem RelayInfo.record_eq (x : Recorded) : info.record x = info.recorded [x] := by
  cases x with
  | ratio key value => rfl
  | imageCount count =>
    obtain ⟨_, p, snapshot, _, _, _, _, _, _, _⟩ := info
    obtain ⟨_, _, _, _, _, _, _, _, _, _, _, _, usePrice, _, _, _⟩ := p
    simp only [RelayInfo.record, RelayInfo.recorded, List.foldl_cons, updateOpenAIImageCount,
      Recorded.otherRatios, Recorded.dimensions]
    split
    · rfl
    · cases snapshot <;> cases usePrice <;> rfl

theorem RelayInfo.foldl_record (rs : List Recorded) :
    rs.foldl RelayInfo.record info = info.recorded rs := by
  induction rs generalizing info with
  | nil => rfl
  | cons x rs ih =>
    rw [List.foldl_cons, ih, info.record_eq]
    rfl

theorem RelayInfo.respond_eq : info.respond response = { info.recorded response.recorded with
        claudeFormat := response.claudeFormat
        openRouter := response.openRouter
        tools := response.tools } := by
  rw [RelayInfo.respond, RelayInfo.foldl_record]

def fixedAmount (info : RelayInfo) (response : Response) : ℚ :=
  (info.priceData.modelPrice + toolCallPrice settings { info with tools := response.tools }) *
    settings.quotaPerUnit

theorem settleResponse_fixed {info : RelayInfo} (hsnapshot : info.tieredBillingSnapshot = none)
    (hprice : info.priceData.usePrice = true) (hratio : info.priceData.modelRatio = 0)
    (o : OtherRatios) (settings : Settings) (engine : Engine) (response : Response) :
    settleResponse settings engine (info.withRatios o) response =
      quotaAt true 0 (fixedAmount settings info response)
        (response.recorded.foldl (Recorded.otherRatios true) o).multiplier
        (response.imageUsage.promptTokens + response.imageUsage.completionTokens)
        info.priceData.groupRatioInfo.groupRatio := by
  have htiered : ((info.withRatios o).respond response).isTiered = false := by
    rw [RelayInfo.respond_eq]
    show info.tieredBillingSnapshot.any _ = false
    rw [hsnapshot]
    rfl
  rw [settleResponse, settledQuota_untiered htiered, summary_quota_eq, RelayInfo.respond_eq]
  show quotaAt info.priceData.usePrice info.priceData.modelRatio
      (if info.priceData.usePrice = true then fixedAmount settings info response else _)
      (response.recorded.foldl (Recorded.otherRatios info.priceData.usePrice) o).multiplier _ _ = _
  rw [hprice, hratio]
  rfl

def Priced.context (priced : Priced) (tokenGroup userGroup : String) (tokens : Int) :
    AsyncImageBillingContext where
  priceData := priced.priceData
  tieredBillingSnapshot := priced.tieredBillingSnapshot
  billingRequestInput := priced.billingRequestInput
  tokenGroup := tokenGroup
  userGroup := userGroup
  estimatedTokens := tokens

def AsyncImageBillingContext.relayInfo (c : AsyncImageBillingContext) (originModelName : String)
    (reservedQuota : Int) : RelayInfo where
  originModelName := originModelName
  priceData := c.priceData
  tieredBillingSnapshot := c.tieredBillingSnapshot
  billingRequestInput := c.billingRequestInput
  estimatePromptTokens := c.estimatedTokens
  finalPreConsumedQuota := reservedQuota

def AddsUnit (o o' : OtherRatios) : Prop :=
  o.ratios = o'.ratios ∨ o.ratios = o'.ratios ++ [("n", 1)]

variable {o o' : OtherRatios}

theorem AddsUnit.multiplier_eq (h : AddsUnit o o') : o.multiplier = o'.multiplier := by
  unfold OtherRatios.multiplier
  obtain h | h := h <;> simp [h]

theorem AddsUnit.add (h : AddsUnit o o') (key : String) (ratio : ℚ) :
    AddsUnit (o.add key ratio) (o'.add key ratio) := by
  unfold OtherRatios.add
  split
  · obtain h | h := h
    · exact .inl (by simp only [h])
    · by_cases hkey : key = "n"
      · -- The count that is recorded takes the place of the one that was lost.
        exact .inl (by simp [h, hkey])
      · exact .inr (by simp [h, Ne.symm hkey])
  · exact h

theorem AddsUnit.recorded (h : AddsUnit o o') (usePrice : Bool) (rs : List Recorded) :
    AddsUnit (rs.foldl (Recorded.otherRatios usePrice) o)
      (rs.foldl (Recorded.otherRatios usePrice) o') := by
  induction rs generalizing o o' with
  | nil => exact h
  | cons x rs ih =>
    refine ih ?_
    cases x with
    | ratio key value => exact h.add key value
    | imageCount count =>
      unfold Recorded.otherRatios
      dsimp only
      split
      · exact h
      split
      · exact h.add "n" count
      · exact h

theorem PriceData.exported_eq {p : PriceData} (h : p.otherRatios = {}) : p.exported = p := by
  rw [PriceData.exported, ← h]

def searchResponse : Response where
  usage := { promptTokens := 1 }
  tools := { claudeWebSearchRequests := 1 }

def searchSettings (modelPrice groupRatio : ℚ) : Settings where
  quotaPerUnit := 1
  toolPriceForModel tool _ :=
    if tool = "web_search" then 1000 * (1 / groupRatio - modelPrice) else 0

theorem fixedAmount_search (g : ℚ) :
    fixedAmount (searchSettings info.priceData.modelPrice g) info searchResponse = 1 / g := by
  let settings := searchSettings info.priceData.modelPrice g
  have hpreview : settings.toolPriceForModel "web_search_preview" info.originModelName = 0 := by
    simp [settings, searchSettings]
  have hsearch : settings.toolPrice "web_search" =
      1000 * (1 / g - info.priceData.modelPrice) := by
    simp [settings, searchSettings, Settings.toolPrice]
  show (info.priceData.modelPrice +
    ((if _ then settings.toolPriceForModel "web_search_preview" info.originModelName / 1000 else 0) +
      settings.toolPrice "web_search" / 1000 * ((1 : Int) : ℚ) + 0 + 0)) * 1 = 1 / g
  rw [hpreview, hsearch, zero_div, ite_self]
  ring

theorem billingRatios_ratios (r : ImageRequest) :
    (({} : OtherRatios).addAll r.billingRatios).ratios = [("n", (r.imageN : ℚ))] := by
  have hpos : (0 : ℚ) < r.imageN := by exact_mod_cast r.imageN_pos
  simp [OtherRatios.addAll, ImageRequest.billingRatios, OtherRatios.add, hpos]

theorem settleResponse_exported_iff {n : Nat} (hn : n ≤ maxImageN)
    (hsnapshot : info.tieredBillingSnapshot = none) (hprice : info.priceData.usePrice = true)
    (hratio : info.priceData.modelRatio = 0)
    (hother : info.priceData.otherRatios.ratios = [("n", (n : ℚ))]) :
    (∀ settings engine response, settleResponse settings engine (info.withRatios {}) response =
          settleResponse settings engine info response) ↔
      info.priceData.groupRatioInfo.groupRatio = 0 ∨ n = 1 := by
  have hsettle := settleResponse_fixed hsnapshot hprice hratio
  have horiginal := hsettle info.priceData.otherRatios
  constructor
  · intro h
    by_contra hne
    obtain ⟨hgroup, hn1⟩ := not_or.mp hne
    let settings :=
      searchSettings info.priceData.modelPrice info.priceData.groupRatioInfo.groupRatio
    let engine : Engine := { usedVars := fun _ => [], run := fun _ _ _ => .error "" }
    have hamount : fixedAmount settings info searchResponse *
        info.priceData.groupRatioInfo.groupRatio = 1 := by
      rw [fixedAmount_search]
      exact one_div_mul_cancel hgroup
    -- Without the count the response costs one, with it as much as there are images.
    have hone : settleResponse settings engine (info.withRatios {}) searchResponse = 1 := by
      refine (hsettle {} settings engine searchResponse).trans (quotaAt_whole ?_ ?_ ?_ ?_)
      · decide
      · decide
      · decide
      · rw [hamount, one_mul]
        rfl
    have hcount : settleResponse settings engine info searchResponse = n := by
      refine (horiginal settings engine searchResponse).trans (quotaAt_whole ?_ ?_ ?_ ?_)
      · decide
      · show (-2147483648 : Int) ≤ n
        omega
      · show (n : Int) ≤ 2147483647
        have : n ≤ 128 := hn
        omega
      · show _ * info.priceData.otherRatios.multiplier = _
        rw [hamount, OtherRatios.multiplier, hother]
        simp
    have hsame := h settings engine searchResponse
    rw [hone, hcount] at hsame
    exact hn1 (by exact_mod_cast hsame.symm)
  rintro (hgroup | rfl) settings engine response
  · rw [hsettle, hgroup, quotaAt_zero]
    refine ((horiginal settings engine response).trans ?_).symm
    rw [hgroup, quotaAt_zero]
  · have hunit : AddsUnit info.priceData.otherRatios {} := .inr (by simpa using hother)
    rw [hsettle, ← (hunit.recorded true response.recorded).multiplier_eq]
    exact (horiginal settings engine response).symm

section Stored

variable {quotaPerUnit : ℚ} {engine : Engine} {m : ModelSettings} {g : GroupRatioInfo}
  {promptTokens : Int} {r : ImageRequest} {t : TieredSubmission} {priced : Priced}

/-- The worker loads a context that settles every response as the submitted one exactly if the
request has no fixed price, is free for its group, or is for one image. -/
theorem stored_settles_alike_iff
    (h : modelPriceHelper quotaPerUnit engine m g promptTokens r t = .ok priced)
    (tokenGroup userGroup : String) :
    ∃ loaded, AsyncImageBillingContext.ofFields
        (priced.context tokenGroup userGroup promptTokens).fields = some loaded ∧
      ((∀ settings engine reservedQuota response,
          settleResponse settings engine (loaded.relayInfo r.model reservedQuota) response =
            settleResponse settings engine ((priced.context tokenGroup userGroup
              promptTokens).relayInfo r.model reservedQuota) response) ↔
        ¬ m.FixedPrice ∨ g.groupRatio = 0 ∨ r.imageN = 1) := by
  refine ⟨_, AsyncImageBillingContext.ofFields_fields _, ?_⟩
  by_cases hm : m.FixedPrice
  · obtain ⟨hsnapshot, hprice, hratio, hgroup, hother⟩ := modelPriceHelper_fixed h hm
    have halike (reservedQuota : Int) := settleResponse_exported_iff
      ((priced.context tokenGroup userGroup promptTokens).relayInfo r.model reservedQuota)
      r.imageN_le hsnapshot hprice hratio
      ((congrArg OtherRatios.ratios hother).trans (billingRatios_ratios r))
    constructor
    · intro hsettled
      refine .inr (hgroup ▸ (halike 0).mp ?_)
      intro settings engine response
      exact hsettled settings engine 0 response
    · intro hcond settings engine reservedQuota response
      refine (halike reservedQuota).mpr ?_ settings engine response
      exact (hgroup ▸ hcond.resolve_left (not_not.mpr hm) : _)
  have hloaded : priced.priceData.exported = priced.priceData :=
    PriceData.exported_eq (modelPriceHelper_other h hm).2
  refine iff_of_true ?_ (.inl hm)
  intro settings engine reservedQuota response
  show settleResponse settings engine (AsyncImageBillingContext.relayInfo
    { priced.context tokenGroup userGroup promptTokens with
      priceData := priced.priceData.exported } r.model reservedQuota) response = _
  rw [hloaded]
  rfl

end Stored

def noEngine : Engine where
  usedVars _ := []
  run _ _ _ := .error "expr compile error"

def pricedModel : ModelSettings where
  modelPrice := some (1 / 100)

def threeImages : ImageRequest where
  model := "imagen"
  n := some 3

def plainSubmission : TieredSubmission where
  dimensions := .ok {}
  request := .ok {}
  exprVersion := 1
  exprHash := ""
  now := 0

theorem stored_settles_alike_sample :
    ∃ priced, modelPriceHelper 500000 noEngine pricedModel { groupRatio := 1 } 10 threeImages
        plainSubmission = .ok priced ∧
      ∃ loaded, AsyncImageBillingContext.ofFields (priced.context "" "" 10).fields = some loaded ∧
        ((∀ settings engine reservedQuota response,
            settleResponse settings engine (loaded.relayInfo "imagen" reservedQuota) response =
              settleResponse settings engine
                ((priced.context "" "" 10).relayInfo "imagen" reservedQuota) response) ↔
          ¬ pricedModel.FixedPrice ∨ (1 : ℚ) = 0 ∨ threeImages.imageN = 1) := by
  have hok : (modelPriceHelper 500000 noEngine pricedModel { groupRatio := 1 } 10 threeImages
      plainSubmission).toBool = true := by decide +kernel
  cases h : modelPriceHelper 500000 noEngine pricedModel { groupRatio := 1 } 10 threeImages
      plainSubmission with
  | error e =>
    rw [h] at hok
    cases hok
  | ok priced => exact ⟨priced, rfl, stored_settles_alike_iff h "" ""⟩

/-- Three images are settled at the price of three from the submitted context, and of one from the
stored one. -/
theorem stored_loses_count :
    (modelPriceHelper 500000 noEngine pricedModel { groupRatio := 1 } 10 threeImages
        plainSubmission).toOption.bind (fun priced =>
      (AsyncImageBillingContext.ofFields (priced.context "" "" 10).fields).map fun loaded =>
        (settleResponse {} noEngine ((priced.context "" "" 10).relayInfo "imagen" 15000) {},
          settleResponse {} noEngine (loaded.relayInfo "imagen" 15000) {})) =
      some (15000, 5000) := by
  decide +kernel

structure GroupChoice where
  groups : GroupSettings
  autoGroup : String

structure WorkerState where
  info : RelayInfo
  tokenGroup : String
  userGroup : String
  usingGroup : String

variable (w : WorkerState)

def WorkerState.getChannel (choice : GroupChoice) : WorkerState :=
  let g := handleGroupRatio choice.groups
    (if w.tokenGroup = "auto" then some choice.autoGroup else none) w.userGroup w.usingGroup
  { w with info := w.info.withGroup g.1, usingGroup := g.2 }

def WorkerState.fail (choice : GroupChoice) (recorded : List Recorded) : WorkerState :=
  let w := w.getChannel choice
  { w with info := recorded.foldl RelayInfo.record w.info }

def WorkerState.failAll (w : WorkerState) (choices : Nat → GroupChoice) :
    List (List Recorded) → WorkerState
  | [] => w
  | recorded :: rest => (w.fail (choices 0) recorded).failAll (fun k => choices (k + 1)) rest

structure Upstream where
  failed : List (List Recorded) := []
  response : Response := {}

structure ImageTask where
  originModelName : String
  usingGroup : String
  reservedQuota : Int
  billingContext : AsyncImageBillingContext

variable (task : ImageTask)

def ImageTask.start : WorkerState where
  info := task.billingContext.relayInfo task.originModelName task.reservedQuota
  tokenGroup := task.billingContext.tokenGroup
  userGroup := task.billingContext.userGroup
  usingGroup := task.usingGroup

def ImageTask.settled (task : ImageTask)
    (choices : Nat → GroupChoice) (upstream : Upstream) : Int :=
  let w := task.start.failAll choices upstream.failed
  let w := w.getChannel (choices upstream.failed.length)
  settleResponse settings engine w.info upstream.response

theorem WorkerState.failAll_spec (choices : Nat → GroupChoice)
    (failed : List (List Recorded)) (g : GroupRatioInfo) :
    (w.failAll choices failed).info.withGroup g = (w.info.recorded failed.flatten).withGroup g ∧
      (w.failAll choices failed).userGroup = w.userGroup ∧
      (w.failAll choices failed).tokenGroup = w.tokenGroup := by
  induction failed generalizing w choices with
  | nil => exact ⟨rfl, rfl, rfl⟩
  | cons recorded rest ih =>
    obtain ⟨hinfo, huser, htoken⟩ := ih (w.fail (choices 0) recorded) fun k => choices (k + 1)
    refine ⟨hinfo.trans ?_, huser, htoken⟩
    rw [List.flatten_cons]
    show ((RelayInfo.recorded (recorded.foldl RelayInfo.record
      (w.info.withGroup _)) rest.flatten)).withGroup g = _
    rw [RelayInfo.foldl_record]
    simp only [RelayInfo.recorded, List.foldl_append]
    rfl

def ImageTask.answered (upstream : Upstream) : RelayInfo :=
  (task.start.info.recorded upstream.failed.flatten).respond upstream.response

theorem RelayInfo.respond_withGroup (g : GroupRatioInfo) (response : Response) :
    (info.withGroup g).respond response = (info.respond response).withGroup g := by
  rw [RelayInfo.respond_eq, RelayInfo.respond_eq]
  rfl

def ImageTask.lastGroup (choices : Nat → GroupChoice) (upstream : Upstream) : GroupRatioInfo :=
  ((task.start.failAll choices upstream.failed).getChannel
    (choices upstream.failed.length)).info.priceData.groupRatioInfo

theorem ImageTask.settled_eq (task : ImageTask)
    (choices : Nat → GroupChoice) (upstream : Upstream) :
    task.settled settings engine choices upstream = settledQuota settings engine
        ((task.answered upstream).withGroup (task.lastGroup choices upstream))
        (some upstream.response.imageUsage) := by
  rw [ImageTask.settled, settleResponse, WorkerState.getChannel,
    (task.start.failAll_spec choices upstream.failed _).1, RelayInfo.respond_withGroup]
  rfl

def uniformRatio (g : ℚ) : GroupChoice where
  groups := { groupGroupRatio := fun _ _ => some g }
  autoGroup := "default"

theorem ImageTask.lastGroup_uniform (g : ℚ) (upstream : Upstream) :
    (task.lastGroup (fun _ => uniformRatio g) upstream).groupRatio = g := rfl

/-- The quota of a task is the same for all group ratios and chosen groups exactly if its response
costs the same at every group ratio. -/
theorem settled_ignores_groups_iff (settings : Settings) (engine : Engine) (task : ImageTask)
    (upstream : Upstream) :
    (∀ choices choices', task.settled settings engine choices upstream =
        task.settled settings engine choices' upstream) ↔
      GroupFree settings (task.answered upstream) upstream.response.imageUsage := by
  obtain ⟨quota, hquota, hconst⟩ := settledQuota_group settings engine (task.answered upstream)
    upstream.response.imageUsage
  have hsettled : ∀ choices, task.settled settings engine choices upstream =
      quota (task.lastGroup choices upstream).groupRatio := by
    intro choices
    rw [task.settled_eq, hquota]
  rw [← hconst]
  constructor
  · intro h x y
    have hsame := h (fun _ => uniformRatio x) fun _ => uniformRatio y
    rwa [hsettled, hsettled, task.lastGroup_uniform, task.lastGroup_uniform] at hsame
  · intro h choices choices'
    rw [hsettled, hsettled]
    exact h _ _

def pricedTask : ImageTask where
  originModelName := "imagen"
  usingGroup := "default"
  reservedQuota := 5000
  billingContext :=
    { priceData := { modelPrice := 1 / 100, usePrice := true, groupRatioInfo := ⟨1, -1, false⟩ }
      tokenGroup := "default", userGroup := "default", estimatedTokens := 10 }

def defaultRatio (g : ℚ) : GroupChoice where
  groups := { groupRatio := fun group => if group = "default" then some g else none }
  autoGroup := ""

/-- The same response is settled at twice the quota after the ratio was doubled. -/
theorem settled_follows_groups :
    pricedTask.settled {} noEngine (fun _ => defaultRatio 1) {} = 5000 ∧
      pricedTask.settled {} noEngine (fun _ => defaultRatio 2) {} = 10000 := by
  decide +kernel

end ZModel.Pricing
