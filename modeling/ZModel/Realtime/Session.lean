import Mathlib.Algebra.Order.BigOperators.Group.List
import ZModel.Lib.Run
import ZModel.Realtime.Charge

/-!
# Realtime sessions

`OpenaiRealtimeHandler` and `WssHelper`. Each turn is charged when it is done, and at the end the
sum of all turns is settled, so each turn is paid twice.
-/

namespace ZModel.Realtime

open Lib Store Subscription Billing

inductive Message where
  | client (text audio : Int)
  | sessionUpdated
  | target (text audio : Int)
  | responseDone (usage : Option RealtimeUsage) (text audio : Int) (e : WssEnv)

structure Handler where
  request : Request
  accounts : Accounts
  usage : RealtimeUsage := 0
  localUsage : RealtimeUsage := 0
  sumUsage : RealtimeUsage := 0
  refused : Bool := false

section

variable (i : WssInfo) (e : WssEnv)

/-- `preConsumeUsage`: the usage is added whether or not it can be charged. -/
def preConsumeUsage (h : Handler) (u : RealtimeUsage) : Except PreWssError Unit × Handler :=
  let (result, r, a) := preWssConsumeQuota i e h.accounts h.request u
  (result, { h with request := r, accounts := a, sumUsage := h.sumUsage + u })

def reportedDone (h : Handler) (u : RealtimeUsage) : Handler :=
  match preConsumeUsage i e { h with usage := h.usage + u } (h.usage + u) with
  | (.ok (), h') => { h' with usage := 0, localUsage := 0 }
  | (.error _, h') => { h' with refused := true }

def countedDone (h : Handler) (text audio : Int) : Handler :=
  let counted := h.localUsage + .input text audio
  match preConsumeUsage i e { h with localUsage := counted } counted with
  | (.ok (), h') => { h' with localUsage := 0 }
  | (.error _, h') => { h' with refused := true }

def handle (h : Handler) (m : Message) : Handler :=
  if h.refused then h
  else match m with
    | .client text audio => { h with localUsage := h.localUsage + .input text audio }
    | .sessionUpdated => h
    | .target text audio => { h with localUsage := h.localUsage + .output text audio }
    | .responseDone (some u) _ _ e => reportedDone i e h u
    | .responseDone none text audio e => countedDone i e h text audio

def chargeLeft (h : Handler) (u : RealtimeUsage) : Handler :=
  if u.totalTokens ≠ 0 then (preConsumeUsage i e h u).2 else h

def finish (e e' : WssEnv) (h : Handler) : Handler :=
  let h := chargeLeft i e h h.usage
  chargeLeft i e' h h.localUsage

def openaiRealtimeHandler (e e' : WssEnv) (r : Request) (a : Accounts)
    (messages : List Message) : Handler :=
  finish i e e' (run (handle i) { request := r, accounts := a } messages)

structure SettleEnv where
  settings : RatioSettings
  fundingWrite : Write

def wssHelper (e e' : WssEnv) (se : SettleEnv) (r : Request) (a : Accounts)
    (messages : List Message) : Accounts :=
  let h := openaiRealtimeHandler i e e' r a messages
  postWssConsumeQuota i se.settings se.fundingWrite .done h.accounts h.request h.sumUsage

structure Turn where
  usage : RealtimeUsage
  env : WssEnv

def Turn.quota (t : Turn) : Int :=
  if i.usePrice then 0 else turnQuota i t.env.settings t.usage

end

def turns (e' : WssEnv) : RealtimeUsage → List Message → List Turn
  | counted, [] => if counted.totalTokens ≠ 0 then [⟨counted, e'⟩] else []
  | counted, .client text audio :: rest => turns e' (counted + .input text audio) rest
  | counted, .sessionUpdated :: rest => turns e' counted rest
  | counted, .target text audio :: rest => turns e' (counted + .output text audio) rest
  | _, .responseDone (some u) _ _ e :: rest => ⟨u, e⟩ :: turns e' 0 rest
  | counted, .responseDone none text audio e :: rest =>
    ⟨counted + .input text audio, e⟩ :: turns e' 0 rest

def summedUsage (e' : WssEnv) (messages : List Message) : RealtimeUsage :=
  ((turns e' 0 messages).map Turn.usage).sum

variable (i : WssInfo)

theorem Turn.quota_nonneg (t : Turn) : 0 ≤ t.quota i := by
  unfold Turn.quota
  split
  · exact le_rfl
  next h =>
    exact calculateAudioQuota_nonneg _ (by simpa using h) _

def Covered (a : Accounts) (r : Request) (t : Turn) : Prop :=
  i.usePrice = true ∨ ((∃ q ∈ t.env.userQuota, t.quota i ≤ q) ∧
      (∃ k ∈ t.env.token, k.unlimitedQuota = true ∨ t.quota i ≤ k.remainQuota) ∧
      t.env.fundingWrite = .done ∧ t.env.tokenWrite = .done ∧
      HasRoom a (t.quota i) r.info.account)

instance (i : WssInfo) (a : Accounts) (r : Request) (t : Turn) : Decidable (Covered i a r t) :=
  inferInstanceAs (Decidable (_ ∨ _))

def Handler.turn (h : Handler) : Message → Option Turn
  | .responseDone (some u) _ _ e => some ⟨h.usage + u, e⟩
  | .responseDone none text audio e => some ⟨h.localUsage + .input text audio, e⟩
  | _ => none

def Covers (h : Handler) (m : Message) : Prop :=
  ∀ t ∈ h.turn m, Covered i h.accounts h.request t

instance (i : WssInfo) (h : Handler) (m : Message) : Decidable (Covers i h m) :=
  inferInstanceAs (Decidable (∀ t ∈ h.turn m, _))

def CoversLeft (e' : WssEnv) (h : Handler) : Prop :=
  h.localUsage.totalTokens ≠ 0 → Covered i h.accounts h.request ⟨h.localUsage, e'⟩

instance (i : WssInfo) (e' : WssEnv) (h : Handler) : Decidable (CoversLeft i e' h) :=
  inferInstanceAs (Decidable (_ → _))

/-! ## What a session charges while it runs -/

variable {i : WssInfo}

structure Charged (h h' : Handler) (us : RealtimeUsage) (n : Int) : Prop where
  refused : h'.refused = false
  usage : h'.usage = 0
  sumUsage : h'.sumUsage = h.sumUsage + us
  request : ∃ δ, h'.request = h.request.addPostDelta δ
  drawn : Drawn h.request.info.account (.token h.request.info.tokenId) n
    (h.request.info.tokenShare n) h.accounts h'.accounts

theorem Charged.trans {h₁ h₂ h₃ : Handler} {us us' : RealtimeUsage} {n n' : Int}
    (h : Charged h₁ h₂ us n) (h' : Charged h₂ h₃ us' n') : Charged h₁ h₃ (us + us') (n + n') := by
  obtain ⟨δ, hδ⟩ := h.request
  obtain ⟨δ', hδ'⟩ := h'.request
  refine ⟨h'.refused, h'.usage, ?_, ⟨δ + δ', by rw [hδ', hδ, Request.addPostDelta_add]⟩, ?_⟩
  · rw [h'.sumUsage, h.sumUsage, add_assoc]
  have hdrawn := h'.drawn
  rw [hδ, Request.addPostDelta_account, Request.addPostDelta_tokenId,
    Request.addPostDelta_tokenShare] at hdrawn
  rw [RelayInfo.tokenShare_add]
  exact h.drawn.trans hdrawn

variable {h : Handler}

theorem charged_local (hrefused : h.refused = false) (husage : h.usage = 0)
    (u : RealtimeUsage) : Charged h { h with localUsage := u } 0 0 := by
  refine ⟨hrefused, husage, (add_zero _).symm, ⟨0, (h.request.addPostDelta_zero).symm⟩, ?_⟩
  rw [RelayInfo.tokenShare_zero]
  exact drawn_refl _ _ _

theorem preWssConsumeQuota_covered {a : Accounts} {r : Request} {t : Turn}
    (hcovered : Covered i a r t) :
    ∃ r' a', preWssConsumeQuota i t.env a r t.usage = (.ok (), r', a') ∧
      (∃ δ, r' = r.addPostDelta δ) ∧
      Drawn r.info.account (.token r.info.tokenId) (t.quota i) (r.info.tokenShare (t.quota i)) a
        a' := by
  unfold preWssConsumeQuota
  by_cases hprice : i.usePrice = true
  · have hzero : t.quota i = 0 := if_pos hprice
    rw [if_pos hprice, hzero, RelayInfo.tokenShare_zero]
    exact ⟨r, a, rfl, ⟨0, r.addPostDelta_zero.symm⟩, drawn_refl _ _ a⟩
  obtain ⟨⟨q, hq, hquota⟩, ⟨k, hk, htoken⟩, hfunding, hwrite, hroom⟩ := hcovered.resolve_left hprice
  have hturn : turnQuota i t.env.settings t.usage = t.quota i := (if_neg hprice).symm
  obtain ⟨a', ha', hdrawn⟩ := postConsumeQuota_done hroom (aboveZero_of_nonneg (t.quota_nonneg i) _)
  refine ⟨r.consumed (t.quota i), a', ?_, r.consumed_eq _, hdrawn⟩
  have hremain : ¬(k.unlimitedQuota = false ∧ k.remainQuota < t.quota i) := by
    rintro ⟨hlimited, hshort⟩
    obtain hunlimited | henough := htoken
    · simp [hlimited] at hunlimited
    · omega
  rw [if_neg hprice, hq, hk]
  simp only [hturn, if_neg (Int.not_lt.mpr hquota), if_neg hremain, hfunding, hwrite, ha',
    Except.mapError]

theorem preConsumeUsage_covered {t : Turn} (hcovered : Covered i h.accounts h.request t) :
    ∃ r a, preConsumeUsage i t.env h t.usage =
        (.ok (), { h with request := r, accounts := a, sumUsage := h.sumUsage + t.usage }) ∧
      (∃ δ, r = h.request.addPostDelta δ) ∧
      Drawn h.request.info.account (.token h.request.info.tokenId) (t.quota i)
        (h.request.info.tokenShare (t.quota i)) h.accounts a := by
  obtain ⟨r, a, hpre, hrequest, hdrawn⟩ := preWssConsumeQuota_covered hcovered
  exact ⟨r, a, by simp only [preConsumeUsage, hpre], hrequest, hdrawn⟩

theorem handle_charged (hrefused : h.refused = false) (husage : h.usage = 0)
    {m : Message} (hcovers : Covers i h m) (e' : WssEnv) (rest : List Message) :
    Charged h (handle i h m) ((h.turn m).elim 0 Turn.usage) ((h.turn m).elim 0 (Turn.quota i)) ∧
      turns e' h.localUsage (m :: rest) =
        (h.turn m).toList ++ turns e' (handle i h m).localUsage rest := by
  unfold handle
  rw [if_neg (by simp [hrefused])]
  match m with
  | .client text audio => exact ⟨charged_local hrefused husage _, rfl⟩
  | .sessionUpdated => exact ⟨charged_local hrefused husage _, rfl⟩
  | .target text audio => exact ⟨charged_local hrefused husage _, rfl⟩
  | .responseDone (some u) _ _ e =>
    have hcovered : Covered i h.accounts h.request ⟨h.usage + u, e⟩ := hcovers _ rfl
    obtain ⟨r, a, hpre, hrequest, hdrawn⟩ :=
      preConsumeUsage_covered (h := { h with usage := h.usage + u }) hcovered
    simp only [reportedDone, hpre]
    refine ⟨⟨hrefused, rfl, rfl, hrequest, hdrawn⟩, ?_⟩
    show ⟨u, e⟩ :: turns e' 0 rest = [⟨h.usage + u, e⟩] ++ turns e' 0 rest
    rw [husage, zero_add]
    rfl
  | .responseDone none text audio e =>
    have hcovered : Covered i h.accounts h.request ⟨h.localUsage + .input text audio, e⟩ :=
      hcovers _ rfl
    obtain ⟨r, a, hpre, hrequest, hdrawn⟩ := preConsumeUsage_covered
      (h := { h with localUsage := h.localUsage + .input text audio }) hcovered
    simp only [countedDone, hpre]
    exact ⟨⟨hrefused, husage, rfl, hrequest, hdrawn⟩, rfl⟩

theorem finish_charged (hrefused : h.refused = false) (husage : h.usage = 0)
    {e' : WssEnv} (hleft : CoversLeft i e' h) (e : WssEnv) :
    Charged h (finish i e e' h) ((turns e' h.localUsage []).map Turn.usage).sum
      ((turns e' h.localUsage []).map (Turn.quota i)).sum := by
  have hreported : chargeLeft i e h h.usage = h := by
    rw [husage]
    exact if_neg (by decide)
  have hfinish : finish i e e' h = chargeLeft i e' h h.localUsage := by
    simp only [finish, hreported]
  rw [hfinish]
  simp only [turns, chargeLeft]
  by_cases htokens : h.localUsage.totalTokens ≠ 0
  · obtain ⟨r, a, hpre, hrequest, hdrawn⟩ := preConsumeUsage_covered (hleft htokens)
    simp only [if_pos htokens, hpre, List.map_cons, List.map_nil, List.sum_cons, List.sum_nil,
      add_zero]
    exact ⟨hrefused, husage, rfl, hrequest, hdrawn⟩
  · simp only [if_neg htokens]
    exact charged_local hrefused husage h.localUsage

theorem handler_charged {e' : WssEnv} (messages : List Message)
    (hrefused : h.refused = false) (husage : h.usage = 0)
    (hcovers : Along (handle i) (Covers i) h messages)
    (hleft : CoversLeft i e' (run (handle i) h messages)) (e : WssEnv) :
    Charged h (finish i e e' (run (handle i) h messages))
      ((turns e' h.localUsage messages).map Turn.usage).sum
      ((turns e' h.localUsage messages).map (Turn.quota i)).sum := by
  induction messages generalizing h with
  | nil => exact finish_charged hrefused husage hleft e
  | cons m rest ih =>
    obtain ⟨hm, hrest⟩ := hcovers
    obtain ⟨hcharged, hturns⟩ := handle_charged hrefused husage hm e' rest
    have hlater := ih hcharged.refused hcharged.usage hrest hleft
    have htotal := hcharged.trans hlater
    rw [hturns]
    cases hturn : h.turn m with
    | none => simpa [hturn] using htotal
    | some t => simpa [hturn] using htotal

def SettlementAccepted (i : WssInfo) (se : SettleEnv) (h : Handler) : Prop :=
  let quota := postWssQuota i se.settings h.request h.sumUsage
  quota = h.request.preConsumed ∨
    se.fundingWrite = .done ∧ HasRoom h.accounts (quota - h.request.preConsumed) h.request.info.account

instance (i : WssInfo) (se : SettleEnv) (h : Handler) : Decidable (SettlementAccepted i se h) :=
  inferInstanceAs (Decidable (_ ∨ _))

theorem postWssQuota_addPostDelta (cfg : RatioSettings) (r : Request) (δ : Int)
    (u : RealtimeUsage) : postWssQuota i cfg (r.addPostDelta δ) u = postWssQuota i cfg r u := by
  simp [postWssQuota, tryTieredSettle]

theorem postWssConsumeQuota_drawn {a₀ a : Accounts} {r : Request}
    {us : RealtimeUsage} {n : Int} {se : SettleEnv} (hlinked : r.Linked) (hunsettled : r.Unsettled)
    (hpaid : Drawn r.info.account (.token r.info.tokenId) r.preConsumed
      (r.info.tokenShare r.preConsumed) a₀ a)
    (hcharged : Charged { request := r, accounts := a } h us n) (hn : 0 ≤ n)
    (hsettle : SettlementAccepted i se h)
    (hfloor : AboveZero a₀ (postWssQuota i se.settings r us) r.info.account) :
    Drawn r.info.account (.token r.info.tokenId) (postWssQuota i se.settings r us + n)
      (r.info.tokenShare (postWssQuota i se.settings r us + n)) a₀
      (postWssConsumeQuota i se.settings se.fundingWrite .done h.accounts h.request h.sumUsage) := by
  obtain ⟨δ, hrequest⟩ := hcharged.request
  have hrequest : h.request = r.addPostDelta δ := hrequest
  have hsum : h.sumUsage = us := by
    rw [hcharged.sumUsage]
    exact zero_add us
  have hquota : postWssQuota i se.settings h.request h.sumUsage = postWssQuota i se.settings r us := by
    rw [hrequest, hsum, postWssQuota_addPostDelta]
  unfold SettlementAccepted at hsettle
  unfold postWssConsumeQuota
  rw [hquota] at hsettle ⊢
  generalize postWssQuota i se.settings r us = quota at *
  -- What was paid before the settlement: the pre-consumed quota and the turns.
  have hsofar := hpaid.trans hcharged.drawn
  have hlinked' : h.request.Linked := by rw [hrequest, Request.addPostDelta_linked]; exact hlinked
  have hunsettled' : h.request.Unsettled := by
    rw [hrequest, Request.addPostDelta_unsettled]
    exact hunsettled
  have habove : AboveZero h.accounts (quota - h.request.preConsumed) h.request.info.account := by
    rw [hrequest, Request.addPostDelta_preConsumed, Request.addPostDelta_account]
    exact aboveZero_of_drawn hsofar (hfloor.mono (by omega))
  obtain ⟨result, r', a', hdone⟩ : ∃ result r' a',
      settleBilling se.fundingWrite .done h.accounts h.request quota = (result, r', a') :=
    ⟨_, _, _, rfl⟩
  obtain ⟨hrefused, -⟩ | ⟨-, m, hsettled, hshare⟩ :=
    settleBilling_takes hlinked' hunsettled' habove hdone
  · exact absurd hsettle hrefused
  obtain ⟨rfl, rfl⟩ := hshare rfl
  simp only [hrequest, Request.addPostDelta_preConsumed, Request.addPostDelta_account,
    Request.addPostDelta_tokenId, Request.addPostDelta_tokenShare] at hsettled
  have htotal := hsofar.trans hsettled
  simp only [← RelayInfo.tokenShare_add] at htotal
  rw [hdone]
  have hsum : r.preConsumed + n + (quota - r.preConsumed) = quota + n := by omega
  rwa [hsum] at htotal

structure Accepted (i : WssInfo) (e e' : WssEnv) (se : SettleEnv) (r : Request) (a : Accounts)
    (messages : List Message) : Prop where
  turns : Along (handle i) (Covers i) { request := r, accounts := a } messages
  left : CoversLeft i e' (run (handle i) { request := r, accounts := a } messages)
  settlement : SettlementAccepted i se (openaiRealtimeHandler i e e' r a messages)

/-- A session whose turns and settlement are accepted takes the quota of its summed usage exactly if
each of its turns is priced at 0. -/
theorem realtime_charged_once_iff {oe : OpenEnv} {a₀ a : Accounts} {info : RelayInfo} {r : Request}
    (hstart : Started oe a₀ info r a) (hfresh : a₀.preConsumeRecords.find? info.requestId = none)
    (hdue : NoResetDue oe.zone oe.now a₀ info.userId) (hfunding : balance a₀ r.info.account ≠ none)
    {e e' : WssEnv} {se : SettleEnv} {messages : List Message}
    (haccepted : Accepted i e e' se r a messages)
    (hfloor : AboveZero a₀ (postWssQuota i se.settings r (summedUsage e' messages))
      r.info.account) :
    let quota := postWssQuota i se.settings r (summedUsage e' messages)
    Drawn r.info.account (.token r.info.tokenId) quota (r.info.tokenShare quota) a₀
        (wssHelper i e e' se r a messages) ↔
      ∀ t ∈ turns e' 0 messages, t.quota i = 0 := by
  intro quota
  obtain ⟨hlinked, hunsettled, hpaid⟩ := hstart.spec hfresh hdue
  have hnonneg : ∀ n ∈ (turns e' 0 messages).map (Turn.quota i), 0 ≤ n := by
    intro n hn
    obtain ⟨t, -, rfl⟩ := List.mem_map.mp hn
    exact t.quota_nonneg i
  have hcharged := handler_charged messages rfl rfl haccepted.turns haccepted.left e
  have hdrawn := postWssConsumeQuota_drawn hlinked hunsettled hpaid hcharged (List.sum_nonneg hnonneg)
    haccepted.settlement hfloor
  have hne : r.info.account ≠ .token r.info.tokenId := by
    unfold RelayInfo.account
    split <;> simp
  constructor
  · intro hexact t ht
    have hsame := hdrawn.first_unique hexact hne hfunding
    have hsum : ((turns e' 0 messages).map (Turn.quota i)).sum = 0 := by
      have hsame : quota + ((turns e' 0 messages).map (Turn.quota i)).sum = quota := hsame
      omega
    exact List.all_zero_of_le_zero_le_of_sum_eq_zero hnonneg hsum (List.mem_map_of_mem ht)
  intro hzero
  have hsum : ((turns e' 0 messages).map (Turn.quota i)).sum = 0 := by
    refine List.sum_eq_zero fun n hn => ?_
    obtain ⟨t, ht, rfl⟩ := List.mem_map.mp hn
    exact hzero t ht
  have hdrawn : Drawn r.info.account (.token r.info.tokenId)
      (quota + ((turns e' 0 messages).map (Turn.quota i)).sum)
      (r.info.tokenShare (quota + ((turns e' 0 messages).map (Turn.quota i)).sum)) a₀
      (wssHelper i e e' se r a messages) := hdrawn
  rwa [hsum, add_zero] at hdrawn

def sampleAccounts : Accounts where
  users := .single ⟨1, 1000⟩
  tokens := .single ⟨1, 1, 1000, 0, false, Nat.one_pos⟩
  subscriptions := .empty
  plans := .empty

def sampleRelay : RelayInfo where
  userId := 1
  tokenId := 1
  requestId := "req"
  billingPreference := "wallet_only"

def sampleOpening : OpenEnv where
  now := 10
  trustQuota := 5000000
  tokenQuota := 1000
  userQuota := some 1000

variable (modelRatio : ℚ)

def sampleSettings : RatioSettings where
  quotaPerUnit := 500000
  modelRatio _ := modelRatio
  completionRatio _ := 1
  audioRatio _ := 1
  audioCompletionRatio _ := 1
  groupRatio _ := 1
  groupGroupRatio _ _ := none

def sampleWss : WssInfo where
  originModelName := "realtime"
  upstreamModelName := "realtime"
  userGroup := "default"
  usingGroup := "default"
  priceData := ⟨"realtime", false, 0, modelRatio, 1⟩

def sampleEnv (userQuota : Int) : WssEnv :=
  ⟨sampleSettings modelRatio, some userQuota, some ⟨false, 1000⟩, .done, .done⟩

def sampleTurn (tokens : Int) (e : WssEnv) : Message := .responseDone (some (.input tokens 0)) 0 0 e

def sampleSession : BillingSession where
  relayInfo := { sampleRelay with userQuota := 1000, finalPreConsumedQuota := 50 }
  funding := .wallet 1 50
  preConsumedQuota := 50
  tokenConsumed := 50

def samplePaid : Accounts :=
  { sampleAccounts with
    users := .single ⟨1, 950⟩, tokens := .single ⟨1, 1, 950, 50, false, Nat.one_pos⟩ }

theorem sample_opened : preConsumeBilling sampleOpening sampleAccounts sampleRelay false 50 =
      (.ok sampleSession, samplePaid) := rfl

/-- One turn of 100 tokens at ratio 1 takes 200; a refused turn is settled at twice its usage. -/
theorem realtime_charged_twice :
    Started sampleOpening sampleAccounts sampleRelay (.billed sampleSession) samplePaid ∧
      (let messages := [sampleTurn 100 (sampleEnv 1 1000)]
       let final := wssHelper (sampleWss 1) (sampleEnv 1 1000) (sampleEnv 1 1000)
         ⟨sampleSettings 1, .done⟩ (.billed sampleSession) samplePaid messages
       postWssQuota (sampleWss 1) (sampleSettings 1) (.billed sampleSession)
           (summedUsage (sampleEnv 1 1000) messages) = 100 ∧
         final.userQuota 1 = some 800 ∧ final.tokenRemain 1 = some 800) ∧
      (let messages := [sampleTurn 100 (sampleEnv 1 10)]
       let final := wssHelper (sampleWss 1) (sampleEnv 1 10) (sampleEnv 1 10)
         ⟨sampleSettings 1, .done⟩ (.billed sampleSession) samplePaid messages
       postWssQuota (sampleWss 1) (sampleSettings 1) (.billed sampleSession)
           (summedUsage (sampleEnv 1 10) messages) = 100 ∧
         final.userQuota 1 = some 800 ∧ final.tokenRemain 1 = some 800) :=
  ⟨.billed sample_opened, by decide +kernel, by decide +kernel⟩

def smallTurns : List Message :=
  [sampleTurn 300 (sampleEnv (1 / 1000) 1000), sampleTurn 300 (sampleEnv (1 / 1000) 1000)]

theorem realtime_charged_once_sample :
    let final := wssHelper (sampleWss (1 / 1000)) (sampleEnv (1 / 1000) 1000)
      (sampleEnv (1 / 1000) 1000) ⟨sampleSettings (1 / 1000), .done⟩ (.billed sampleSession)
      samplePaid smallTurns
    final.userQuota 1 = some 999 ∧ Drawn (.wallet 1) (.token 1) 1 1 sampleAccounts final := by
  refine ⟨by decide +kernel, ?_⟩
  have haccepted : Accepted (sampleWss (1 / 1000)) (sampleEnv (1 / 1000) 1000)
      (sampleEnv (1 / 1000) 1000) ⟨sampleSettings (1 / 1000), .done⟩ (.billed sampleSession)
      samplePaid smallTurns := ⟨by decide +kernel, by decide +kernel, by decide +kernel⟩
  have hquota : postWssQuota (sampleWss (1 / 1000)) (sampleSettings (1 / 1000))
      (.billed sampleSession) (summedUsage (sampleEnv (1 / 1000) 1000) smallTurns) = 1 := by
    decide +kernel
  have hexact := (realtime_charged_once_iff (.billed sample_opened) (by decide) (by decide)
    (by decide) haccepted trivial).mpr (by decide +kernel)
  rw [hquota] at hexact
  exact hexact

end ZModel.Realtime
