import ZModel.AsyncImage.Transactions
import ZModel.Billing.Settlement
import ZModel.Lib.Run
import ZModel.Pricing.GroupCharge

/-!
# Usage statistics and settlement

`PostTextConsumeQuotaWithError` adds the quota of a request to the used quotas before it settles it;
the worker of image tasks runs all of it again after a failed settlement.
-/

namespace ZModel.Pricing

open Lib Store

/-- What settles a request, and the quota at which it is settled; the first one stays. -/
structure Settler (P S : Type) where
  settle : P → S → Int → Bool × S
  settledAt : S → Option Int
  settledAt_first : ∀ p s quota, settledAt s = none →
    settledAt (settle p s quota).2 = none ∨ settledAt (settle p s quota).2 = some quota
  settledAt_stays : ∀ p s quota q, settledAt s = some q → settledAt (settle p s quota).2 = some q

structure AsyncImageBillingSettler where
  now : Int
  leaseOwner : String
  manifest : String := ""
  sourceKind : String := ""
  objects : List AsyncImage.StorageObject := []
  archiveErrorCode : String := ""
  archiveError : String := ""

def AsyncImageBillingSettler.settle (p : AsyncImageBillingSettler) (taskID : String)
    (db : AsyncImage.DB) (actual : Int) : Except AsyncImage.Error AsyncImage.DB :=
  if p.manifest ≠ "" ∧ 0 < p.objects.length then
    AsyncImage.completeAsyncImageGeneration p.now db taskID p.leaseOwner actual p.manifest
      p.sourceKind p.objects
  else if p.archiveErrorCode ≠ "" then
    AsyncImage.completeAsyncImageGenerationWithArchiveFailure p.now db taskID p.leaseOwner actual
      p.sourceKind p.archiveErrorCode p.archiveError
  else AsyncImage.settleAsyncImageBilling p.now db taskID actual

def taskSettledAt (taskID : String) (db : AsyncImage.DB) : Option Int :=
  (db.tasks.find? taskID).bind fun t =>
    if t.billingStatus = .settled then some t.actualQuota else none

variable {actual : Int}

theorem AsyncImageBillingSettler.settle_cases {p : AsyncImageBillingSettler} {taskID : String}
    {db db' : AsyncImage.DB} (h : p.settle taskID db actual = .ok db') :
    ∃ t new, db.tasks.find? taskID = some t ∧ AsyncImage.SettledAs db db' t new actual ∧
      new.taskID = t.taskID ∧ new.billingStatus = .settled ∧ new.actualQuota = actual := by
  unfold AsyncImageBillingSettler.settle at h
  split at h
  · obtain ⟨t, hrow, -, hsettled, -⟩ := AsyncImage.complete_cases h
    exact ⟨t, _, hrow, hsettled, rfl, rfl, rfl⟩
  split at h
  · obtain ⟨t, hrow, -, hsettled, -⟩ := AsyncImage.archiveFailure_cases h
    exact ⟨t, _, hrow, hsettled, rfl, rfl, rfl⟩
  · obtain ⟨t, hrow, hsettled, -⟩ := AsyncImage.settleBilling_cases h
    exact ⟨t, _, hrow, hsettled, rfl, rfl, rfl⟩

theorem AsyncImageBillingSettler.settle_settledAt {p : AsyncImageBillingSettler} {taskID : String}
    {db db' : AsyncImage.DB} (h : p.settle taskID db actual = .ok db') :
    db' = db ∨ (taskSettledAt taskID db = none ∧ taskSettledAt taskID db' = some actual) := by
  obtain ⟨t, new, hrow, hsettled, hid, hstatus, hactual⟩ := settle_cases h
  cases hsettled with
  | already _ hkeep => exact .inl hkeep
  | now hbilling _ hput =>
    refine .inr ⟨?_, ?_⟩
    · simp [taskSettledAt, hrow, hbilling]
    · have hkey : key new = taskID := hid.trans (Table.find?_key hrow)
      simp [taskSettledAt, hput, Table.find?_put_of_find? hrow new hkey, hstatus, hactual]

def imageSettler (taskID : String) : Settler AsyncImageBillingSettler AsyncImage.DB where
  settle p db actual :=
    match p.settle taskID db actual with
    | .ok db' => (true, db')
    | .error _ => (false, db)
  settledAt := taskSettledAt taskID
  settledAt_first p db actual hnone := by
    cases h : p.settle taskID db actual with
    | error e => exact .inl hnone
    | ok db' =>
      obtain rfl | ⟨-, hsome⟩ := AsyncImageBillingSettler.settle_settledAt h
      · exact .inl hnone
      · exact .inr hsome
  settledAt_stays p db actual q hsome := by
    cases h : p.settle taskID db actual with
    | error e => exact hsome
    | ok db' =>
      obtain rfl | ⟨hnone, -⟩ := AsyncImageBillingSettler.settle_settledAt h
      · exact hsome
      · rw [hsome] at hnone
        cases hnone

def chargesFunding (w : Write) (a : Accounts) (r : Billing.Request) (actual : Int) : Bool :=
  let delta := actual - r.preConsumed
  delta = 0 ||
    match r with
    | .billed s => (s.funding.settle w a delta).toBool
    | .plain info => (Billing.consumeFunding info w a delta).toBool

structure Payment where
  request : Billing.Request
  accounts : Accounts
  settledAt : Option Int := none
  unsettled : settledAt = none → request.Unsettled

theorem settleBilling_refused {w w' : Write} {a : Accounts} {r : Billing.Request}
    (hr : r.Unsettled) (h : chargesFunding w a r actual = false) :
    (Billing.settleBilling w w' a r actual).2 = (r, a) := by
  obtain ⟨hdelta, hfunding⟩ := Bool.or_eq_false_iff.mp h
  cases r with
  | billed s =>
    have hdelta : ¬ actual - s.preConsumedQuota = 0 := of_decide_eq_false hdelta
    cases hsettle : s.funding.settle w a (actual - s.preConsumedQuota) with
    | ok a' =>
      have hfunding : (s.funding.settle w a (actual - s.preConsumedQuota)).toBool = false :=
        hfunding
      rw [hsettle] at hfunding
      cases hfunding
    | error e =>
      have hclosed : s.settle w w' a actual = (.error e, s, a) := by
        unfold Billing.BillingSession.settle
        rw [if_neg (by simp [hr.1])]
        rw [if_neg hdelta, if_neg (by simp [hr.2]), hsettle]
      simp only [Billing.settleBilling, hclosed]
  | plain info =>
    have hdelta : ¬ actual - info.finalPreConsumedQuota = 0 := of_decide_eq_false hdelta
    cases hconsume : Billing.consumeFunding info w a (actual - info.finalPreConsumedQuota) with
    | ok a' =>
      have hfunding : (Billing.consumeFunding info w a
          (actual - info.finalPreConsumedQuota)).toBool = false := hfunding
      rw [hconsume] at hfunding
      cases hfunding
    | error e =>
      have hpost : Billing.postConsumeQuota w w' a (.plain info)
          (actual - info.finalPreConsumedQuota) = (.error e, .plain info, a) := by
        unfold Billing.postConsumeQuota
        rw [show Billing.Request.info (.plain info) = info from rfl, hconsume]
      unfold Billing.settleBilling
      dsimp only
      rw [if_neg hdelta, hpost]

def Payment.settle (writes : Write × Write) (p : Payment) (actual : Int) : Bool × Payment :=
  let settled := Billing.settleBilling writes.1 writes.2 p.accounts p.request actual
  (settled.1.toBool,
    { request := settled.2.1
      accounts := settled.2.2
      settledAt := p.settledAt.or
        (if chargesFunding writes.1 p.accounts p.request actual then some actual else none)
      unsettled := by
        intro h
        obtain ⟨hnone, hcharged⟩ := Option.or_eq_none_iff.mp h
        have hrefused : chargesFunding writes.1 p.accounts p.request actual = false := by
          by_contra hne
          rw [if_pos (Bool.not_eq_false _ ▸ hne)] at hcharged
          cases hcharged
        rw [show settled.2.1 = p.request from
          congrArg Prod.fst (settleBilling_refused (p.unsettled hnone) hrefused)]
        exact p.unsettled hnone })

def paymentSettler : Settler (Write × Write) Payment where
  settle := Payment.settle
  settledAt := Payment.settledAt
  settledAt_first writes p actual hnone := by
    show p.settledAt.or _ = none ∨ p.settledAt.or _ = some actual
    rw [hnone, Option.none_or]
    split
    · exact .inr rfl
    · exact .inl rfl
  settledAt_stays writes p actual q hsome := by
    show p.settledAt.or _ = some q
    rw [hsome, Option.some_or]

structure ConsumeLog where
  channelId : Nat
  modelName : String
  promptTokens : Int
  completionTokens : Int
  quota : Int

structure Statistics where
  usedQuota : List Int := []
  channelUsedQuota : List (Nat × Int) := []
  consumeLogs : List ConsumeLog := []

structure Posting (P : Type) where
  payment : P
  settings : Settings
  engine : Engine
  info : RelayInfo
  usage : Option Usage
  channelId : Nat

namespace Posting

variable {P : Type} (c : Posting P)

def quota : Int := settledQuota c.settings c.engine c.info c.usage

def totalTokens : Int := (calculateTextQuotaSummary c.settings c.info c.usage).tokens.totalTokens

def logModel : String :=
  let name := c.info.originModelName.toList
  if "gpt-4-gizmo".toList.isPrefixOf name then "gpt-4-gizmo-*"
  else if "gpt-4o-gizmo".toList.isPrefixOf name then "gpt-4o-gizmo-*"
  else c.info.originModelName

def log : ConsumeLog :=
  let tokens := (calculateTextQuotaSummary c.settings c.info c.usage).tokens
  { channelId := c.channelId
    modelName := c.logModel
    promptTokens := tokens.promptTokens
    completionTokens := tokens.completionTokens
    quota := c.quota }

end Posting

def Statistics.update (st : Statistics) (channelId : Nat) (quota : Int) : Statistics :=
  { st with
    usedQuota := st.usedQuota ++ [quota]
    channelUsedQuota := st.channelUsedQuota ++ [(channelId, quota)] }

def Statistics.recordConsumeLog (logConsumeEnabled : Bool) (st : Statistics) (log : ConsumeLog) :
    Statistics :=
  if logConsumeEnabled then { st with consumeLogs := st.consumeLogs ++ [log] } else st

section Posting

variable {P S : Type} (X : Settler P S) (logConsumeEnabled : Bool)

def postTextConsumeQuota (c : Posting P) (s : S) (st : Statistics) : Bool × S × Statistics :=
  let st := if c.totalTokens = 0 then st else st.update c.channelId c.quota
  let settled := X.settle c.payment s c.quota
  (settled.1, settled.2, st.recordConsumeLog logConsumeEnabled c.log)

inductive Event where
  | post (c : Posting P)
  | other (f : S → S) (h : ∀ s, X.settledAt (f s) = X.settledAt s)

variable {X}

def Event.step (x : S × Statistics) : Event X → S × Statistics
  | .post c => (postTextConsumeQuota X logConsumeEnabled c x.1 x.2).2
  | .other f _ => (f x.1, x.2)

variable (events : List (Event X))

def postings : List (Posting P) :=
  events.filterMap fun
    | .post c => some c
    | .other _ _ => none

theorem statistics_run (x : S × Statistics) :
    (run (Event.step logConsumeEnabled) x events).2.usedQuota = x.2.usedQuota ++
        ((postings events).filter fun c => c.totalTokens ≠ 0).map Posting.quota ∧
      (run (Event.step logConsumeEnabled) x events).2.channelUsedQuota = x.2.channelUsedQuota ++
        ((postings events).filter fun c => c.totalTokens ≠ 0).map (fun c => (c.channelId, c.quota)) ∧
      (run (Event.step logConsumeEnabled) x events).2.consumeLogs = x.2.consumeLogs ++
        if logConsumeEnabled then (postings events).map Posting.log else [] := by
  induction events generalizing x with
  | nil => cases logConsumeEnabled <;> simp [postings]
  | cons e events ih =>
    obtain ⟨hused, hchannel, hlogs⟩ := ih (Event.step logConsumeEnabled x e)
    rw [run_cons, hused, hchannel, hlogs]
    cases e with
    | other f h => exact ⟨rfl, rfl, rfl⟩
    | post c =>
      by_cases htokens : c.totalTokens = 0 <;> cases logConsumeEnabled <;>
        simp [postings, Event.step, postTextConsumeQuota, Statistics.recordConsumeLog,
          Statistics.update, htokens]

theorem settledAt_stays_run {s : S} {q : Int} (hs : X.settledAt s = some q) (st : Statistics) :
    X.settledAt (run (Event.step logConsumeEnabled) (s, st) events).1 = some q := by
  induction events generalizing s st with
  | nil => exact hs
  | cons e events ih =>
    cases e with
    | other f h => exact ih ((h s).trans hs) st
    | post c => exact ih (X.settledAt_stays c.payment s c.quota q hs) _

theorem settledAt_run {s : S} (hs : X.settledAt s = none) (st : Statistics) {q : Int}
    (hq : X.settledAt (run (Event.step logConsumeEnabled) (s, st) events).1 = some q) :
    ∃ c ∈ postings events, c.quota = q := by
  induction events generalizing s st with
  | nil =>
    rw [run_nil, hs] at hq
    cases hq
  | cons e events ih =>
    cases e with
    | other f h => exact ih ((h s).trans hs) st hq
    | post c =>
      obtain hnone | hsome := X.settledAt_first c.payment s c.quota hs
      · obtain ⟨c', hc', hquota⟩ := ih hnone _ hq
        exact ⟨c', List.mem_cons_of_mem c hc', hquota⟩
      · refine ⟨c, (.head _), Option.some.inj ?_⟩
        exact (settledAt_stays_run logConsumeEnabled events hsome _).symm.trans hq

def RecordedOnce (st : Statistics) (q : Int) : Prop :=
  st.usedQuota.sum = q ∧ (st.channelUsedQuota.map Prod.snd).sum = q ∧
    st.consumeLogs.map ConsumeLog.quota = [q]

/-- There is one posting, whose usage has tokens or is not charged by an expression. -/
def PostedOnce (cs : List (Posting P)) : Prop :=
  ∃ c, cs = [c] ∧
    (c.totalTokens ≠ 0 ∨ (tieredTextQuota c.settings c.engine c.info c.usage).getD 0 = 0)

theorem Posting.quota_no_tokens {c : Posting P} (h : c.totalTokens = 0) :
    c.quota = (tieredTextQuota c.settings c.engine c.info c.usage).getD 0 := by
  have hsummary : (calculateTextQuotaSummary c.settings c.info c.usage).quota = 0 := if_pos h
  rw [Posting.quota, settledQuota, hsummary]

theorem recordedOnce_iff {s : S} (hs : X.settledAt s = none) {q : Int}
    (hq : X.settledAt (run (Event.step logConsumeEnabled) (s, {}) events).1 = some q) :
    RecordedOnce (run (Event.step logConsumeEnabled) (s, {}) events).2 q ↔
      logConsumeEnabled = true ∧ PostedOnce (postings events) := by
  obtain ⟨hused, hchannel, hlogs⟩ := statistics_run logConsumeEnabled events (s, {})
  obtain ⟨c, hc, hquota⟩ := settledAt_run logConsumeEnabled events hs {} hq
  unfold RecordedOnce PostedOnce
  rw [hused, hchannel, hlogs]
  constructor
  · rintro ⟨hsum, -, hlog⟩
    cases logConsumeEnabled with
    | false => cases hlog
    | true =>
      obtain ⟨c', hposted⟩ : ∃ c', postings events = [c'] := by
        refine List.length_eq_one_iff.mp ?_
        simpa using congrArg List.length hlog
      rw [hposted, List.mem_singleton] at hc
      subst hc
      refine ⟨rfl, c, hposted, or_iff_not_imp_left.mpr fun htokens => ?_⟩
      have htokens : c.totalTokens = 0 := not_not.mp htokens
      rw [← Posting.quota_no_tokens htokens, hquota, ← hsum, hposted]
      simp [htokens]
  rintro ⟨rfl, c', hposted, hcharge⟩
  rw [hposted, List.mem_singleton] at hc
  subst hc
  rw [hposted]
  by_cases htokens : c.totalTokens = 0
  · have hzero : q = 0 := by
      rw [← hquota, Posting.quota_no_tokens htokens]
      exact hcharge.resolve_left (not_not.mpr htokens)
    simp [htokens, hzero, Posting.log, hquota]
  · simp [htokens, Posting.log, hquota]

end Posting

/-- A request that is settled in the end is recorded at the quota of its funding exactly if logs are
written and it was posted once, with tokens or without a charge. -/
theorem settled_recorded_once_iff (logConsumeEnabled : Bool) :
    (∀ taskID (events : List (Event (imageSettler taskID))) db q, taskSettledAt taskID db = none →
        taskSettledAt taskID (run (Event.step logConsumeEnabled) (db, {}) events).1 = some q →
        (RecordedOnce (run (Event.step logConsumeEnabled) (db, {}) events).2 q ↔
          logConsumeEnabled = true ∧ PostedOnce (postings events))) ∧
      ∀ (events : List (Event paymentSettler)) payment q, Payment.settledAt payment = none →
        (run (Event.step logConsumeEnabled) (payment, {}) events).1.settledAt = some q →
        (RecordedOnce (run (Event.step logConsumeEnabled) (payment, {}) events).2 q ↔
          logConsumeEnabled = true ∧ PostedOnce (postings events)) :=
  ⟨fun _ events _ _ hs hq => recordedOnce_iff logConsumeEnabled events hs hq,
    fun events _ _ hs hq => recordedOnce_iff logConsumeEnabled events hs hq⟩

def walletOf (quota : Int) : Accounts where
  users := ⟨[⟨1, quota⟩], by simp⟩
  tokens := Table.empty
  subscriptions := Table.empty
  plans := Table.empty
  preConsumeRecords := Table.empty

theorem wallet_unnamed : BillingSource.wallet = .subscription → 0 < 0 := by simp

def unreservedTask : AsyncImage.AsyncImageTask where
  taskID := "task_a"
  userID := 1
  tokenID := 0
  lifecycle := { AsyncImage.Lifecycle.submitted 10 ⟨86400, 3, 3600⟩ [] "a" with
    status := .running, leaseOwner := "w", leaseExpiresAt := 400 }
  billingStatus := .reserved
  billingSource := .wallet
  subscriptionID := 0
  reservedQuota := 0
  actualQuota := 0
  tokenReservedQuota := 0
  tokenUnlimited := true
  billingFinalizedAt := 0
  token_reserved := rfl
  subscription_named := wallet_unnamed

def unreservedDB : AsyncImage.DB where
  accounts := walletOf 0
  tasks := .single unreservedTask
  objects := Table.empty

def imagePosting : Posting AsyncImageBillingSettler where
  payment := { now := 20, leaseOwner := "w", archiveErrorCode := "archive_staging_failed" }
  settings := {}
  engine := { usedVars := fun _ => [], run := fun _ _ _ => .error "expr compile error" }
  info := { originModelName := "imagen"
            priceData := { modelPrice := 1 / 100, usePrice := true, groupRatioInfo := ⟨1, -1, false⟩ } }
  usage := some { promptTokens := 1 }
  channelId := 7

def topUp : Event (imageSettler "task_a") :=
  .other (fun db => { db with accounts := db.accounts.addUserQuota 1 5000 }) fun _ => rfl

def flatSnapshot : BillingSnapshot where
  billingMode := "tiered_expr"
  exprString := "tier(\"flat\", 10000)"
  groupRatio := 1
  quotaPerUnit := 500000

def flatPosting (usage : Usage) : Posting (Write × Write) where
  payment := (.done, .done)
  settings := {}
  engine := { usedVars := fun _ => [], run := fun _ _ _ => .ok (10000, {}) }
  info := { originModelName := "video", tieredBillingSnapshot := some flatSnapshot }
  usage := some usage
  channelId := 7

def walletPayment : Payment where
  request := .plain
    { userId := 1, tokenId := 0, requestId := "request_a", isPlayground := true
      tokenUnlimited := true, forcePreConsume := false, billingPreference := "wallet_only" }
  accounts := walletOf 9000
  unsettled _ := trivial

theorem settled_recorded_once_sample : RecordedOnce (run (Event.step true) (walletPayment, {})
      [.post (X := paymentSettler) (flatPosting { promptTokens := 3 })]).2 5000 := by
  refine ((settled_recorded_once_iff true).2 _ walletPayment 5000 rfl (by decide +kernel)).mpr ?_
  exact ⟨rfl, _, rfl, .inl (by decide +kernel)⟩

def retried : AsyncImage.DB × Statistics :=
  run (Event.step true) (unreservedDB, {}) [.post imagePosting, topUp, .post imagePosting]

def untokened : Payment × Statistics :=
  run (Event.step true) (walletPayment, {}) [.post (X := paymentSettler) (flatPosting {})]

/-- A task whose first settlement fails is recorded twice; a request without tokens that an
expression charges is not added to the used quotas. -/
theorem settled_recorded_otherwise :
    (taskSettledAt "task_a" retried.1 = some 5000 ∧ retried.2.usedQuota = [5000, 5000] ∧
        retried.2.channelUsedQuota = [(7, 5000), (7, 5000)] ∧
        retried.2.consumeLogs.map ConsumeLog.quota = [5000, 5000]) ∧
      untokened.1.settledAt = some 5000 ∧ untokened.1.accounts.userQuota 1 = some 4000 ∧
        untokened.2.usedQuota = [] ∧ untokened.2.channelUsedQuota = [] ∧
        untokened.2.consumeLogs.map ConsumeLog.quota = [5000] := by
  decide +kernel

end ZModel.Pricing
