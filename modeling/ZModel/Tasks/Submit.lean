import ZModel.Billing.Settlement
import ZModel.Tasks.Row

/-!
# Submitting a task

`RelayTask` of `controller/relay.go` with `RelayTaskSubmit`. The first attempt that costs something
opens the billing session; later attempts find it open.
-/

namespace ZModel.Tasks

open Lib Common Store Subscription Billing BillingSession

inductive TaskErrorCause where
  | reported (code message : String)
  | price (e : PriceError)
  | session (e : SessionError)

structure TaskError where
  cause : TaskErrorCause
  statusCode : Int
  localError : Bool := false

def sessionStatusCode : SessionError → Int
  | .quotaClamped | .negativePreConsume _ => 400
  | .queryFailed | .fundingFailed _ => 500
  | .quotaEmpty _ | .quotaShort _ _ | .token _ | .subscriptionUnavailable _ => 403

/-- `TaskErrorFromAPIError`: the mark against retries is lost. -/
def taskErrorFromAPIError (e : SessionError) : TaskError := ⟨.session e, sessionStatusCode e, false⟩

def isAlwaysSkipRetryStatusCode (code : Int) : Bool := code == 504 || code == 524

def shouldRetryTaskRelay (affinityFailed specificChannel : Bool) (retryTimes : Int)
    (e : TaskError) : Bool :=
  if affinityFailed then false
  else if retryTimes ≤ 0 then false
  else if specificChannel then false
  else if e.statusCode = 429 then true
  else if e.statusCode = 307 then true
  else if e.statusCode / 100 = 5 then !isAlwaysSkipRetryStatusCode e.statusCode
  else if e.statusCode = 400 then false
  else if e.statusCode = 408 then false
  else if e.localError then false
  else if e.statusCode / 100 = 2 then false
  else true

structure ChannelMeta where
  platform : Platform := .video 0
  channelId : Nat := 0
  usingGroup : String := ""
  originModelName : String := ""
  pricePatched : Bool := false

structure Attempt where
  channel : Except TaskError ChannelMeta
  validate : Except TaskError Unit := .ok ()
  price : PriceEnv
  estimatedRatios : List (String × ℚ) := []
  opening : OpenEnv
  build : Except TaskError Unit := .ok ()
  preparation : Except TaskError (Option String) := .ok none
  response : Except TaskError (String × String)
  adjustedRatios : List (String × ℚ) := []
  affinityFailed : Bool := false
  specificChannel : Bool := false
  retryTimes : Int := 0

/-- The request, the fields of `RelayInfo` that the attempts share, and the tables. No attempt
undoes `tiered`. -/
structure Submission where
  request : Request
  accounts : Accounts
  channel : ChannelMeta := {}
  priceData : PriceData := {}
  tiered : Bool := false
  quotaClamp : Option QuotaClamp := none

structure TaskSubmitResult where
  upstreamTaskID : String := ""
  taskData : String := ""
  preparation : Option String := none
  quota : Int

namespace Submission

section

variable (s : Submission)

def noteTaskQuotaClamp (clamp : Option QuotaClamp) : Submission :=
  { s with quotaClamp := s.quotaClamp.or clamp }

variable (t : Attempt)

def applyRatios : Submission :=
  if s.tiered then
    { s with priceData := { s.priceData with quota := s.priceData.quotaToPreConsume } }
  else
    let p := { s.priceData with otherRatios := s.priceData.otherRatios.addAll t.estimatedRatios }
    if s.channel.pricePatched then { s with priceData := p }
    else
      let (quota, clamp) := quotaFromFloatChecked (p.quota * p.otherRatios.multiplier)
      { s with priceData := { p with quota } }.noteTaskQuotaClamp clamp

def price (t : Attempt) : Except TaskError Unit × Submission :=
  match modelPriceHelperMedia t.price with
  | (.error e, tiered) => (.error ⟨.price e, 400, false⟩, { s with tiered := s.tiered || tiered })
  | (.ok p, tiered) =>
    (.ok (), { s with priceData := p, tiered := s.tiered || tiered }.applyRatios t)

def preConsume : Except TaskError Unit × Submission :=
  match s.request with
  | .billed _ => (.ok (), s)
  | .plain info =>
    if s.priceData.freeModel then (.ok (), s)
    else
      let info := { info with forcePreConsume := true }
      match preConsumeBilling t.opening s.accounts info s.quotaClamp.isSome s.priceData.quota with
      | (.error e, a) =>
        (.error (taskErrorFromAPIError e), { s with request := .plain info, accounts := a })
      | (.ok session, a) => (.ok (), { s with request := .billed session, accounts := a })

def adjustBillingOnSubmit : Submission :=
  if s.tiered || t.adjustedRatios.isEmpty then s
  else
    let baseQuota : ℚ := s.priceData.quota / s.priceData.otherRatios.multiplier
    let ratios := OtherRatios.addAll {} t.adjustedRatios
    if ratios.ratios.isEmpty then s
    else
      let (quota, clamp) := quotaFromFloatChecked (baseQuota * ratios.multiplier)
      { s with priceData := { s.priceData with otherRatios := ratios, quota } }
        |>.noteTaskQuotaClamp clamp

def send : Except TaskError TaskSubmitResult × Submission :=
  match t.build, t.preparation, t.response with
  | .error e, _, _ => (.error e, s)
  | .ok (), .error e, _ => (.error e, s)
  | .ok (), .ok (some preparation), _ =>
    (.ok { preparation := preparation, quota := s.priceData.quota }, s)
  | .ok (), .ok none, .error e => (.error e, s)
  | .ok (), .ok none, .ok (upstreamTaskID, taskData) =>
    let s := s.adjustBillingOnSubmit t
    (.ok { upstreamTaskID := upstreamTaskID, taskData := taskData
           quota := s.priceData.quota }, s)

end

end Submission

variable (s : Submission)

def relayTaskSubmit (t : Attempt) : Except TaskError TaskSubmitResult × Submission :=
  match t.validate with
  | .error e => (.error e, s)
  | .ok () =>
    match s.price t with
    | (.error e, s) => (.error e, s)
    | (.ok (), s) =>
      match s.preConsume t with
      | (.error e, s) => (.error e, s)
      | (.ok (), s) => s.send t

def relayAttempts (s : Submission) (t : Attempt) (rest : List Attempt) :
    Except TaskError TaskSubmitResult × Submission :=
  match t.channel with
  | .error e => (.error e, s)
  | .ok channel =>
    match relayTaskSubmit { s with channel } t with
    | (.ok result, s) => (.ok result, s)
    | (.error e, s) =>
      if shouldRetryTaskRelay t.affinityFailed t.specificChannel t.retryTimes e then
        match rest with
        | [] => (.error e, s)
        | next :: rest => relayAttempts s next rest
      else (.error e, s)

structure SubmitEnv where
  id : Nat
  taskID : String
  now : Int
  fundingWrite : Write := .done
  tokenWrite : Write := .done
  insert : Write := .done
  recordsFailure : Bool := true
  text : TaskErrorCause → String := fun _ => ""

variable (e : SubmitEnv)

namespace Submission

def initTask : Task :=
  { id := e.id, taskID := e.taskID, userId := s.request.info.userId, submitTime := e.now, quota := 0
    platform := s.channel.platform, channelId := s.channel.channelId, group := s.channel.usingGroup
    originModelName := s.channel.originModelName }

def acceptedTask (r : TaskSubmitResult) : Task :=
  let t := s.initTask e
  { t with
    status := if r.preparation.isSome then .preparing else t.status
    quota := r.quota
    data := r.taskData
    privateData :=
      { upstreamTaskID := r.upstreamTaskID
        videoPreparation := r.preparation
        billingSource := s.request.info.billingSource
        subscriptionId := s.request.info.subscriptionId
        tokenId := s.request.info.tokenId
        billingContext := some
          { groupRatio := s.priceData.groupRatio
            otherRatios := s.priceData.otherRatios
            originModelName := t.originModelName
            perCallBilling := !s.tiered && (s.channel.pricePatched || s.priceData.usePrice)
            tieredExpr := s.tiered } } }

def failedTask (err : TaskError) : Task :=
  { s.initTask e with
    status := .failure, progress := "100%", failReason := e.text err.cause, startTime := e.now
    finishTime := e.now }

def refund (s : Submission) : Submission :=
  match s.request with
  | .plain _ => s
  | .billed session =>
    let (job, session) := session.refund
    { s with
      request := .billed session
      accounts := match job with
        | some job => job.run s.accounts
        | none => s.accounts }

end Submission

def insertTask (w : Write) (t : Task) : Option Task :=
  match w with
  | .done => some t
  | .fails => none

def relayTask (s : Submission) (first : Attempt) (rest : List Attempt) : Option Task × Submission :=
  match relayAttempts s first rest with
  | (.ok r, s) =>
    let (_, request, a) := settleBilling e.fundingWrite e.tokenWrite s.accounts s.request r.quota
    let s := { s with request, accounts := a }
    (insertTask e.insert (s.acceptedTask e r), s)
  | (.error err, s) =>
    (if e.recordsFailure then insertTask e.insert (s.failedTask e err) else none, s.refund)

section Accepted

variable {s s' : Submission} {t : Attempt} {r : TaskSubmitResult}

@[simp] theorem applyRatios_channel : (s.applyRatios t).channel = s.channel := by
  unfold Submission.applyRatios
  split_ifs <;> rfl

@[simp] theorem applyRatios_tiered : (s.applyRatios t).tiered = s.tiered := by
  unfold Submission.applyRatios
  split_ifs <;> rfl

theorem preConsume_frame :
    (s.preConsume t).2.channel = s.channel ∧ (s.preConsume t).2.priceData = s.priceData ∧
      (s.preConsume t).2.tiered = s.tiered := by
  unfold Submission.preConsume
  split
  · exact ⟨rfl, rfl, rfl⟩
  split
  · exact ⟨rfl, rfl, rfl⟩
  · dsimp only
    split <;> exact ⟨rfl, rfl, rfl⟩

theorem send_accepted (h : s.send t = (.ok r, s')) :
    (s' = s ∨ s' = s.adjustBillingOnSubmit t) ∧ r.quota = s'.priceData.quota := by
  unfold Submission.send at h
  split at h <;> cases h
  · exact ⟨.inl rfl, rfl⟩
  · exact ⟨.inr rfl, rfl⟩

theorem relayTaskSubmit_accepted (h : relayTaskSubmit s t = (.ok r, s')) :
    ∃ p tiered s₁, modelPriceHelperMedia t.price = (.ok p, tiered) ∧
      s₁.channel = s.channel ∧ s₁.tiered = (s.tiered || tiered) ∧
      s₁.priceData =
        ({ s with priceData := p, tiered := s.tiered || tiered }.applyRatios t).priceData ∧
      (s' = s₁ ∨ s' = s₁.adjustBillingOnSubmit t) ∧ r.quota = s'.priceData.quota := by
  unfold relayTaskSubmit at h
  split at h
  · cases h
  split at h
  · cases h
  rename_i s₀ hprice
  split at h
  · cases h
  rename_i s₁ hpaid
  obtain ⟨hchannel, hdata, htiered⟩ := preConsume_frame (s := s₀) (t := t)
  rw [hpaid] at hchannel hdata htiered
  obtain ⟨hs', hquota⟩ := send_accepted h
  unfold Submission.price at hprice
  split at hprice
  · cases hprice
  rename_i p tiered hp
  cases hprice
  refine ⟨p, tiered, s₁, hp, hchannel.trans ?_, htiered.trans ?_, hdata, hs', hquota⟩
  · exact applyRatios_channel
  · exact applyRatios_tiered

theorem relayAttempts_accepted {P : Submission → Prop} {rest : List Attempt}
    (hstep : ∀ u ∈ t :: rest, ∀ s channel, P s → P (relayTaskSubmit { s with channel } u).2)
    (hs : P s) (h : relayAttempts s t rest = (.ok r, s')) :
    ∃ u ∈ t :: rest, ∃ s₀ channel, P s₀ ∧ u.channel = .ok channel ∧
      relayTaskSubmit { s₀ with channel } u = (.ok r, s') := by
  fun_induction relayAttempts s t rest with
  | case1 => cases h
  | case2 rest s t channel hchannel result s₁ hsubmit =>
    cases h
    exact ⟨t, (.head _), s, channel, hs, hchannel, hsubmit⟩
  | case3 | case5 => cases h
  | case4 s t channel _ e s₁ hsubmit _ next rest ih =>
    -- the failed attempt leaves a state of which the property still holds
    have hs₁ := hstep t (.head _) s channel hs
    rw [hsubmit] at hs₁
    obtain ⟨u, hu, hrest⟩ := ih (fun u hu => hstep u (List.mem_cons_of_mem t hu)) hs₁ h
    exact ⟨u, List.mem_cons_of_mem t hu, hrest⟩

end Accepted

/-! ## What a submission has paid -/

/-- A submission before its first attempt: no session, a new request id, and no reset due. -/
structure Fresh (a₀ : Accounts) (info : RelayInfo) (attempts : List Attempt) : Prop where
  billingSource : info.billingSource = .wallet
  unpaid : info.finalPreConsumedQuota = 0
  requestId : a₀.preConsumeRecords.find? info.requestId = none
  notDue : ∀ t ∈ attempts, NoResetDue t.opening.zone t.opening.now a₀ info.userId

inductive Submitted (a₀ : Accounts) (info : RelayInfo) : Request → Accounts → Prop where
  | unpaid {a : Accounts} (force : Bool) (hunpaid : Unpaid a₀ a) :
      Submitted a₀ info (.plain { info with forcePreConsume := force }) a
  | paid {a : Accounts} {s : BillingSession} (hopen : Open a₀ s a)
      (hlinked : (Request.billed s).Linked) : Submitted a₀ info (.billed s) a

section Attempts

variable {a₀ : Accounts} {info : RelayInfo} {s : Submission} {t : Attempt}

theorem price_request : (s.price t).2.request = s.request ∧ (s.price t).2.accounts = s.accounts := by
  unfold Submission.price Submission.applyRatios
  split
  · exact ⟨rfl, rfl⟩
  dsimp only
  split
  · exact ⟨rfl, rfl⟩
  · split <;> exact ⟨rfl, rfl⟩

theorem send_request : (s.send t).2.request = s.request ∧ (s.send t).2.accounts = s.accounts := by
  unfold Submission.send Submission.adjustBillingOnSubmit
  split
  · exact ⟨rfl, rfl⟩
  · exact ⟨rfl, rfl⟩
  · exact ⟨rfl, rfl⟩
  · exact ⟨rfl, rfl⟩
  dsimp only
  split
  · exact ⟨rfl, rfl⟩
  · split <;> exact ⟨rfl, rfl⟩

section

variable (h : Submitted a₀ info s.request s.accounts)

include h

theorem preConsume_submitted (hfresh : a₀.preConsumeRecords.find? info.requestId = none)
    (hdue : NoResetDue t.opening.zone t.opening.now a₀ info.userId) :
    Submitted a₀ info (s.preConsume t).2.request (s.preConsume t).2.accounts := by
  unfold Submission.preConsume
  obtain ⟨request, a, channel, priceData, tiered, quotaClamp⟩ := s
  cases h with
  | paid hopen hlinked => exact .paid hopen hlinked
  | unpaid force hunpaid =>
    dsimp only
    split
    · exact .unpaid force hunpaid
    split
    next hopened =>
      exact .unpaid true (hunpaid.trans (preConsumeBilling_failed hopened))
    rename_i hopened
    obtain ⟨hbalances, tokens, rfl⟩ := hunpaid
    have hopen := preConsumeBilling_open (by exact hfresh) (by exact hdue) hopened
    exact .paid (hopen.rebase hbalances) (preConsumeBilling_linked hopened)

theorem relayTaskSubmit_submitted {rest : List Attempt} {s' : Submission}
    {result : Except TaskError TaskSubmitResult}
    (hfresh : Fresh a₀ info (t :: rest)) (hs : relayTaskSubmit s t = (result, s')) :
    Submitted a₀ info s'.request s'.accounts := by
  have hprice : Submitted a₀ info (s.price t).2.request (s.price t).2.accounts := by
    rwa [price_request.1, price_request.2]
  have hpaid := preConsume_submitted hprice hfresh.requestId (hfresh.notDue t (.head _))
  unfold relayTaskSubmit at hs
  split at hs
  · cases hs
    exact h
  split at hs
  next hs₁ =>
    cases hs
    rwa [hs₁] at hprice
  rename_i hs₁
  rw [hs₁] at hpaid
  split at hs
  next hs₂ =>
    cases hs
    rwa [hs₂] at hpaid
  rename_i s₂ hs₂
  rw [hs₂] at hpaid
  have hsend := send_request (s := s₂) (t := t)
  rw [hs] at hsend
  rwa [← hsend.1, ← hsend.2] at hpaid

theorem relayAttempts_submitted {rest : List Attempt} (hfresh : Fresh a₀ info (t :: rest)) :
    Submitted a₀ info (relayAttempts s t rest).2.request (relayAttempts s t rest).2.accounts := by
  fun_induction relayAttempts s t rest with
  | case1 => exact h
  | case2 rest s t channel _ result s' hs => exact relayTaskSubmit_submitted (by exact h) hfresh hs
  | case3 s t channel _ e s' hs => exact relayTaskSubmit_submitted (by exact h) hfresh hs
  | case4 s t channel _ e s' hs _ next rest ih =>
    refine ih (relayTaskSubmit_submitted (by exact h) hfresh hs) { hfresh with
      notDue := fun u hu => hfresh.notDue u (List.mem_cons_of_mem t hu) }
  | case5 rest s t channel _ e s' hs => exact relayTaskSubmit_submitted (by exact h) hfresh hs

end

theorem Submitted.spec {r : Request} {a : Accounts} (h : Submitted a₀ info r a)
    (hsource : info.billingSource = .wallet) (hunpaid : info.finalPreConsumedQuota = 0) :
    r.Linked ∧ r.Unsettled ∧ Drawn r.info.account (.token r.info.tokenId) r.preConsumed
      (r.info.tokenShare r.preConsumed) a₀ a := by
  cases h with
  | unpaid force hrefused => exact ⟨hsource, trivial, plain_paid hrefused.balances hunpaid⟩
  | paid hopen hlinked => exact ⟨hlinked, open_paid hopen hlinked⟩

theorem refund_balances (h : Submitted a₀ info s.request s.accounts) :
    balance s.refund.accounts = balance a₀ := by
  obtain ⟨request, a, channel, priceData, tiered, quotaClamp⟩ := s
  cases h with
  | unpaid force hunpaid => exact hunpaid.balances
  | paid hopen hlinked =>
    rename_i session
    have htook : ∀ a', session.Took 0 a₀ a' → balance a' = balance a₀ := by
      intro a' htook
      unfold Took at htook
      rw [RelayInfo.tokenShare_zero] at htook
      exact htook.balance_eq
    unfold Submission.refund
    obtain ⟨hnone, hpaid⟩ | hsome := refund_open hopen
    · simp only [hnone]
      exact htook a hpaid
    · simp only [hsome]
      exact htook _ (refundJob_spec hopen)

end Attempts

def Settles : Except TaskError TaskSubmitResult × Submission → Prop
  | (.ok r, s) => CanSettle e.fundingWrite s.accounts s.request r.quota
  | (.error _, _) => True

theorem insertTask_eq {w : Write} {t t' : Task} (h : insertTask w t = some t') : t = t' := by
  unfold insertTask at h
  split at h
  · exact Option.some.inj h
  · cases h

theorem account_ne_token (info : RelayInfo) (id : Nat) : info.account ≠ .token id := by
  unfold RelayInfo.account
  split <;> exact nofun

theorem acceptedTask_account {a : Accounts} (e : SubmitEnv) (s : Submission) (r : TaskSubmitResult)
    (hexists : balance a s.request.info.account ≠ none) :
    (s.acceptedTask e r).account = s.request.info.account := by
  unfold RelayInfo.account at *
  by_cases hsource : s.request.info.billingSource = .wallet
  · simp [Task.account, Task.isSubscription, Submission.acceptedTask, Submission.initTask, hsource]
  have hsource : s.request.info.billingSource = .subscription := by
    cases hs : s.request.info.billingSource with
    | wallet => exact absurd hs hsource
    | subscription => rfl
  simp only [hsource] at hexists ⊢
  -- Rows have positive ids, so the subscription is not mistaken for the wallet.
  have hpos : 0 < s.request.info.subscriptionId := by
    obtain ⟨b, hb⟩ := Option.ne_none_iff_exists'.mp hexists
    simp only [balance, Accounts.subscriptionUsed, Option.map_map, Option.map_eq_some_iff] at hb
    obtain ⟨row, hrow, -⟩ := hb
    rw [← show row.id = s.request.info.subscriptionId from Table.find?_key hrow]
    exact row.id_pos
  simp [Task.account, Task.isSubscription, Submission.acceptedTask, hsource, hpos]

theorem settled_deducted {w w' : Write} {a₀ a a' : Accounts} {r r' : Request} {actual m : Int}
    {result : Except ConsumeError Unit} (hlinked : r.Linked) (hunsettled : r.Unsettled)
    (hpaid : Drawn r.info.account (.token r.info.tokenId) r.preConsumed m a₀ a)
    (hexists : balance a₀ r.info.account ≠ none) (hfloor : AboveZero a₀ actual r.info.account)
    (h : settleBilling w w' a r actual = (result, r', a')) :
    (balance a' r.info.account = (balance a₀ r.info.account).map (· - actual) ↔
        CanSettle w a r actual) ∧
      (CanSettle w a r actual →
        ∃ m, Drawn r.info.account (.token r.info.tokenId) actual m a₀ a') := by
  have habove : AboveZero a (actual - r.preConsumed) r.info.account :=
    aboveZero_of_drawn hpaid (hfloor.mono (by omega))
  have htoken := account_ne_token r.info r.info.tokenId
  obtain ⟨hrefused, rfl⟩ | ⟨hcan, m', hdrawn, -⟩ := settleBilling_takes hlinked hunsettled habove h
  · -- What was pre-consumed stays paid, so the quota would have to be that amount.
    refine ⟨iff_of_false (fun hbalance => hrefused (.inl ?_)) hrefused, fun hcan =>
      absurd hcan hrefused⟩
    rw [hpaid.balance_first htoken] at hbalance
    obtain ⟨b, hb⟩ := Option.ne_none_iff_exists'.mp hexists
    simp only [hb, Option.map_some, Option.some.injEq] at hbalance
    omega
  · have htotal := hpaid.trans hdrawn
    rw [show r.preConsumed + (actual - r.preConsumed) = actual by omega] at htotal
    exact ⟨iff_of_true (htotal.balance_first htoken) hcan, fun _ => ⟨_, htotal⟩⟩

theorem refund_restores {w : Write} {a₀ a a' : Accounts} {t : Task} {k : Nat} {m : Int}
    (hpaid : Drawn t.account (.token k) t.quota m a₀ a) (hne : t.account ≠ .token k)
    (h : taskAdjustFunding w a t (-t.quota) = .ok a') :
    balance a' t.account = balance a₀ t.account := by
  have habove : AboveZero a (-t.quota) t.account :=
    aboveZero_of_drawn hpaid (aboveZero_of_nonneg (by omega) _)
  have htakes : TakesFrom t.account (-t.quota) a a' := by
    refine taskAdjustFunding_takes (fun row hsub hrow => ?_) h
    unfold Task.account at habove
    rw [if_pos hsub] at habove
    exact habove row hrow
  rw [htakes t.account, hpaid.balance_first hne]
  cases balance a₀ t.account <;> simp

/-- The quota stored on the task is what its funding source paid exactly if the settlement can be
made. A full refund then restores what the funding source had. -/
theorem task_quota_deducted_iff {e : SubmitEnv} {a₀ : Accounts} {info : RelayInfo} {first : Attempt}
    {rest : List Attempt} {t : Task} {s : Submission} (hfresh : Fresh a₀ info (first :: rest))
    (h : relayTask e { request := .plain info, accounts := a₀ } first rest = (some t, s))
    (hexists : balance a₀ s.request.info.account ≠ none)
    (hfloor : AboveZero a₀ t.quota s.request.info.account) :
    (balance s.accounts s.request.info.account =
          (balance a₀ s.request.info.account).map (· - t.quota) ↔
        Settles e (relayAttempts { request := .plain info, accounts := a₀ } first rest)) ∧
      (Settles e (relayAttempts { request := .plain info, accounts := a₀ } first rest) →
        ∀ w a, taskAdjustFunding w s.accounts t (-t.quota) = .ok a →
          balance a s.request.info.account = balance a₀ s.request.info.account) := by
  have hsubmitted := relayAttempts_submitted
    (s := { request := .plain info, accounts := a₀ }) (.unpaid info.forcePreConsume (.refl a₀))
    hfresh
  unfold relayTask at h
  split at h
  next r s₁ hattempts =>
    rw [hattempts] at hsubmitted ⊢
    obtain ⟨hlinked, hunsettled, hpaid⟩ := hsubmitted.spec hfresh.billingSource hfresh.unpaid
    obtain ⟨result, request, a, hsettle⟩ : ∃ result request a,
        settleBilling e.fundingWrite e.tokenWrite s₁.accounts s₁.request r.quota =
          (result, request, a) := ⟨_, _, _, rfl⟩
    simp only [hsettle] at h
    obtain ⟨htask, rfl⟩ := Prod.mk.inj h
    have haccount : request.info.account = s₁.request.info.account := by
      have hsame := settleBilling_account e.fundingWrite e.tokenWrite s₁.accounts s₁.request r.quota
      rwa [hsettle] at hsame
    obtain rfl := insertTask_eq htask
    have hstored := acceptedTask_account e _ r hexists
    simp only [haccount] at hexists hfloor hstored ⊢
    obtain ⟨hiff, hdrawn⟩ := settled_deducted hlinked hunsettled hpaid hexists hfloor hsettle
    refine ⟨hiff, fun hsettles w a ha => ?_⟩
    obtain ⟨m, hdrawn⟩ := hdrawn hsettles
    rw [← hstored] at hdrawn ⊢
    refine refund_restores hdrawn ?_ ha
    rw [hstored]
    exact account_ne_token _ _
  rename_i err s₁ hattempts
  rw [hattempts] at hsubmitted ⊢
  obtain ⟨htask, rfl⟩ := Prod.mk.inj h
  have hbalance := refund_balances hsubmitted
  split at htask
  · obtain rfl := insertTask_eq htask
    have hzero : (s₁.failedTask e err).quota = 0 := rfl
    rw [hzero, hbalance]
    refine ⟨iff_of_true (by simp) trivial, fun _ w a ha => ?_⟩
    -- Nothing was stored and nothing is returned.
    have htakes : TakesFrom (s₁.failedTask e err).account 0 s₁.refund.accounts a := by
      refine taskAdjustFunding_takes (fun row _ _ => ?_) ha
      simpa using row.used_nonneg
    rw [htakes, hbalance]
    simp
  · cases htask

def sampleAccounts : Accounts where
  users := .single ⟨1, 0⟩
  tokens := .single ⟨1, 1, 1000, 0, false, Nat.one_pos⟩
  subscriptions :=
    let used : Nat := 100
    .single ⟨1, 1, 1, 200, used, 0, 1000000, .active, 0, 0, true, Nat.one_pos,
      Int.natCast_nonneg used⟩
  plans := .single ⟨1, "never", 0⟩

def sampleOpening : OpenEnv where
  now := 10
  trustQuota := 1000
  tokenQuota := 1000
  userQuota := some 0

def sampleInfo : RelayInfo where
  userId := 1
  tokenId := 1
  requestId := "req"

def unavailableAttempt : Attempt where
  channel := .ok { channelId := 1 }
  price := { quotaPerUnit := 1, price := some 60 }
  opening := sampleOpening
  response := .error ⟨.reported "fail_to_fetch_task" "unavailable", 503, false⟩
  retryTimes := 1

def acceptedAttempt (groupRatio : ℚ) : Attempt where
  channel := .ok { channelId := 2 }
  price := { quotaPerUnit := 1, price := some 60, groupRatio }
  opening := sampleOpening
  response := .ok ("upstream", "")

/-- The first attempt takes 60 and the second costs 120; the subscription has no room for the
difference, and the refund returns twice what was taken. -/
theorem task_quota_not_deducted :
    let out := relayTask { id := 1, taskID := "task", now := 10 }
      { request := .plain sampleInfo, accounts := sampleAccounts } unavailableAttempt
      [acceptedAttempt 2]
    out.1.map (fun t => (t.quota, t.account)) = some (120, .subscription 1) ∧
      out.2.request.info.account = .subscription 1 ∧
      balance sampleAccounts (.subscription 1) = some (-100) ∧
      balance out.2.accounts (.subscription 1) = some (-160) ∧
      (out.1.bind fun t => (taskAdjustFunding .done out.2.accounts t (-t.quota)).toOption.bind
        (balance · (.subscription 1))) = some (-40) := by
  decide +kernel

theorem task_quota_deducted_sample : ∃ t s, relayTask { id := 1, taskID := "task", now := 10 }
        { request := .plain sampleInfo, accounts := sampleAccounts } unavailableAttempt
        [acceptedAttempt (4 / 3)] = (some t, s) ∧
      t.quota = 80 ∧ balance s.accounts (.subscription 1) = some (-180) ∧
      ∀ w a, taskAdjustFunding w s.accounts t (-t.quota) = .ok a →
        balance a (.subscription 1) = balance sampleAccounts (.subscription 1) := by
  obtain ⟨out, hout⟩ : ∃ out, relayTask { id := 1, taskID := "task", now := 10 }
      { request := .plain sampleInfo, accounts := sampleAccounts } unavailableAttempt
      [acceptedAttempt (4 / 3)] = out := ⟨_, rfl⟩
  have hquota : out.1.map Task.quota = some 80 := by rw [← hout]; decide +kernel
  have haccount : out.2.request.info.account = .subscription 1 := by rw [← hout]; decide +kernel
  have hbalance : balance out.2.accounts (.subscription 1) = some (-180) := by
    rw [← hout]
    decide +kernel
  obtain ⟨t, ht, htq⟩ := Option.map_eq_some_iff.mp hquota
  have hfresh : Fresh sampleAccounts sampleInfo [unavailableAttempt, acceptedAttempt (4 / 3)] :=
    { billingSource := rfl, unpaid := rfl, requestId := rfl
      notDue := by
        intro u hu
        simp only [List.mem_cons, List.not_mem_nil, or_false] at hu
        obtain rfl | rfl := hu <;> decide }
  have hspec := task_quota_deducted_iff (s := out.2) hfresh (hout.trans (Prod.ext ht rfl))
    (by rw [haccount]; decide) (aboveZero_of_nonneg (by omega) _)
  rw [haccount, htq] at hspec
  refine ⟨t, out.2, hout.trans (Prod.ext ht rfl), htq, hbalance, ?_⟩
  rw [htq]
  exact hspec.2 (hspec.1.mp hbalance)

end ZModel.Tasks
