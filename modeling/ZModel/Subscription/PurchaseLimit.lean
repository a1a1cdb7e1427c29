import ZModel.Subscription.Orders

/-!
# The purchase limit of a plan

The count of the subscriptions of a user is a plain query, so two purchases may count the same
number. The limit holds if the number counted is still the number at the commit.
-/

namespace ZModel.Subscription

open Lib

variable {plan : PurchasePlan} {t : PurchaseTx Unit}

/-! ## Transactions that insert one subscription -/

def LeavesSubscriptions (u : PurchaseDb → PurchaseDb) : Prop :=
  ∀ db, (u db).subscriptions = db.subscriptions

variable (cfg : PurchaseSettings)

def WithinCount (s : CreatedSubscription) : Prop :=
  ∀ plan, cfg.plans.find? s.planId = some plan → 0 < plan.maxPurchasePerUser →
    (s.counted : Int) < plan.maxPurchasePerUser

/-- The transaction inserts at most one subscription, within the limit by its count. -/
def InsertsOne (cfg : PurchaseSettings) : PurchaseTx Unit → Prop
  | .done _ => True
  | .fail _ => True
  | .lock _ next => InsertsOne cfg next
  | .statement u next =>
    (LeavesSubscriptions u ∧ ∀ db, InsertsOne cfg (next db)) ∨
    ((∃ s, WithinCount cfg s ∧ ∀ db, (u db).subscriptions = db.subscriptions ++ [s]) ∧
      ∀ db, (next db).Writes LeavesSubscriptions fun _ => True)

section Inserts

variable {cfg : PurchaseSettings}

theorem leavesSubscriptions_id : LeavesSubscriptions id := fun _ => rfl

theorem InsertsOne.after {α : Type} {Q : α → Prop} {t : PurchaseTx α} {f : α → PurchaseTx Unit}
    (h : t.Writes LeavesSubscriptions Q) (hf : ∀ a, Q a → InsertsOne cfg (f a)) :
    InsertsOne cfg (t >>= f) := by
  induction t with
  | done a => exact hf a h
  | fail e => trivial
  | lock l next ih => exact ih h
  | statement u next ih => exact .inl ⟨h.1, fun db => ih db (h.2 db)⟩

theorem InsertsOne.before {f : Unit → PurchaseTx Unit} (h : InsertsOne cfg t)
    (hf : ∀ a, (f a).Writes LeavesSubscriptions fun _ => True) (hf' : ∀ a, InsertsOne cfg (f a)) :
    InsertsOne cfg (t >>= f) := by
  induction t with
  | done a => exact hf' a
  | fail e => trivial
  | lock l next ih => exact ih h
  | statement u next ih =>
    obtain ⟨hu, hnext⟩ | ⟨hu, hnext⟩ := h
    · exact .inl ⟨hu, fun db => ih db (hnext db)⟩
    · exact .inr ⟨hu, fun db => (hnext db).bind fun a _ => hf a⟩

theorem InsertsOne.of_writes {Q : Unit → Prop} (h : t.Writes LeavesSubscriptions Q) :
    InsertsOne cfg t := by
  induction t with
  | done a => trivial
  | fail e => trivial
  | lock l next ih => exact ih h
  | statement u next ih => exact .inl ⟨h.1, fun db => ih db (h.2 db)⟩

theorem InsertsOne.then {f : Unit → PurchaseTx Unit} (h : InsertsOne cfg t)
    (hf : ∀ a, (f a).Writes LeavesSubscriptions fun _ => True) : InsertsOne cfg (t >>= f) :=
  h.before hf fun a => .of_writes (hf a)

theorem countPurchases_writes (userId : Nat) (plan : PurchasePlan) :
    (countPurchases userId plan).Writes LeavesSubscriptions fun count : Nat =>
      0 < plan.maxPurchasePerUser → (count : Int) < plan.maxPurchasePerUser := by
  unfold countPurchases
  split
  · refine Tx.Writes.bind (Q := fun _ => True) ?_ fun count _ => ?_
    · exact Tx.Writes.select leavesSubscriptions_id _ fun _ => trivial
    · exact (Tx.Writes.require PurchaseError.purchaseLimit).bind fun _ hcount _ => hcount
  next hlimit =>
    exact fun h => absurd h hlimit

theorem upgradeUserGroup_writes (userId : Nat) (upgradeGroup : String) :
    (upgradeUserGroup userId upgradeGroup).Writes LeavesSubscriptions fun _ => True := by
  unfold upgradeUserGroup
  split
  · trivial
  refine Tx.Writes.bind (Q := fun _ => True) ?_ fun current _ => ?_
  · exact Tx.Writes.select leavesSubscriptions_id _ fun _ => trivial
  split
  · trivial
  · exact ⟨fun _ => rfl, fun _ => trivial⟩

theorem createUserSubscription_inserts (hplan : cfg.plans.find? plan.id = some plan) (now : Int)
    (userId : Nat) (source : PurchaseSource) :
    InsertsOne cfg (createUserSubscriptionFromPlanTx cfg now userId plan source) := by
  refine .after (Tx.Writes.require _) fun _ _ => .after (Tx.Writes.require _) fun _ _ => ?_
  refine .after (countPurchases_writes userId plan) fun counted hcounted => ?_
  refine .after (Tx.Writes.ofOption _ _) fun endTime _ => ?_
  refine .after (upgradeUserGroup_writes userId _) fun prevGroup _ => ?_
  refine .inr ⟨⟨_, fun plan' hplan' hlimit => ?_, fun _ => rfl⟩, fun _ => trivial⟩
  obtain rfl : plan = plan' := Option.some.inj (hplan.symm.trans hplan')
  exact hcounted hlimit

theorem upsertSubscriptionTopUp_writes (now : Int) (order : SubscriptionOrder) :
    (upsertSubscriptionTopUpTx now order).Writes LeavesSubscriptions fun _ => True := by
  refine Tx.Writes.bind (Q := fun _ => True) ?_ fun found _ => ?_
  · exact Tx.Writes.select leavesSubscriptions_id _ fun _ => trivial
  cases found with
  | none =>
    refine Tx.Writes.bind (Q := fun _ => True) ⟨fun _ => rfl, fun _ => trivial⟩ fun free _ => ?_
    exact (Tx.Writes.require PurchaseError.duplicateKey).mono fun _ _ => trivial
  | some topUp =>
    refine (Tx.Writes.require _).bind fun _ _ => ?_
    exact ⟨fun _ => rfl, fun _ => trivial⟩

theorem chargeBalance_writes (userId : Nat) (required : Int) :
    (chargeBalance userId required).Writes LeavesSubscriptions fun _ => True := by
  unfold chargeBalance
  split
  · exact ⟨fun _ => rfl, fun _ => trivial⟩
  · trivial

end Inserts

inductive PurchaseJob where
  | complete (tradeNo : String) (c : SuccessCallback)
  | balance (now orderedAt : Int) (tradeNo providerPayload : String) (userId planId : Nat)
  | grant (now : Int) (userId planId : Nat)

def PurchaseJob.tx : PurchaseJob → PurchaseTx Unit
  | complete tradeNo c => completeSubscriptionOrder cfg tradeNo c
  | balance now orderedAt tradeNo providerPayload userId planId =>
    purchaseSubscriptionWithBalance cfg now orderedAt tradeNo providerPayload userId planId
  | grant now userId planId => adminBindSubscription cfg now userId planId

theorem find?_plan_id {cfg : PurchaseSettings} {planId : Nat}
    (h : cfg.plans.find? planId = some plan) : cfg.plans.find? plan.id = some plan := by
  have hid : plan.id = planId := Table.find?_key h
  rw [hid]
  exact h

theorem completePending_inserts (order : SubscriptionOrder)
    (c : SuccessCallback) : InsertsOne cfg (completePending cfg order c) := by
  refine .after (Tx.Writes.require _) fun _ _ => .after (Tx.Writes.ofOption _ _) fun plan hplan => ?_
  refine (createUserSubscription_inserts (find?_plan_id hplan) _ _ _).then fun _ => ?_
  refine (upsertSubscriptionTopUp_writes _ _).bind fun _ _ => ?_
  exact ⟨fun _ => rfl, fun _ => trivial⟩

theorem PurchaseJob.inserts (j : PurchaseJob) : InsertsOne cfg (j.tx cfg) := by
  cases j with
  | complete tradeNo c =>
    dsimp only [tx]
    unfold completeSubscriptionOrder
    split
    · trivial
    refine .after (Tx.Writes.selectForUpdate (Q := fun _ => True) leavesSubscriptions_id _ _
      fun _ => trivial) fun found _ => ?_
    refine .after (Tx.Writes.ofOption _ _) fun order _ => ?_
    refine .after (Tx.Writes.require _) fun _ _ => ?_
    split
    · trivial
    · exact completePending_inserts cfg order c
  | grant now userId planId =>
    dsimp only [tx]
    refine .after (Tx.Writes.require _) fun _ _ => .after (Tx.Writes.ofOption _ _)
      fun plan hplan => ?_
    exact createUserSubscription_inserts (find?_plan_id hplan) _ _ _
  | balance now orderedAt tradeNo providerPayload userId planId =>
    dsimp only [tx]
    refine .after (Tx.Writes.require _) fun _ _ => .after (Tx.Writes.ofOption _ _)
      fun plan hplan => ?_
    refine .after (Tx.Writes.require _) fun _ _ => .after (Tx.Writes.require _) fun _ _ =>
      .after (Tx.Writes.require _) fun _ _ => .after (Tx.Writes.ofOption _ _) fun required _ => ?_
    refine .after (Tx.Writes.selectForUpdate (Q := fun _ => True) leavesSubscriptions_id _ _
      fun _ => trivial) fun found _ => ?_
    refine .after (Tx.Writes.ofOption _ _) fun quota _ => .after (Tx.Writes.require _)
      fun _ _ => ?_
    refine .after (chargeBalance_writes userId required) fun _ _ => ?_
    refine (createUserSubscription_inserts (find?_plan_id hplan) _ _ _).then fun _ => ?_
    refine Tx.Writes.bind (Q := fun _ => True) ⟨fun _ => rfl, fun _ => trivial⟩ fun free _ => ?_
    exact (Tx.Writes.require PurchaseError.duplicateKey).mono fun _ _ => trivial

/-- A transaction that has not inserted yet, or has inserted one within the limit and inserts no
other. -/
def WithinSession (s : Session RowLock PurchaseDb PurchaseError Unit PurchaseJob) : Prop :=
  (LeavesSubscriptions s.pending ∧ InsertsOne cfg s.rest) ∨
  ((∃ row, WithinCount cfg row ∧ ∀ db, (s.pending db).subscriptions = db.subscriptions ++ [row]) ∧
    s.rest.Writes LeavesSubscriptions fun _ => True)

abbrev PurchaseSessions := Sessions RowLock PurchaseDb PurchaseError Unit PurchaseJob

section Sessions

variable {cfg : PurchaseSettings}

theorem withinSession_step {st : PurchaseSessions}
    (h : ∀ k s, st.session k = some s → WithinSession cfg s) (move : SessionMove PurchaseJob) :
    ∀ k s, (st.step (PurchaseJob.tx cfg) move).session k = some s → WithinSession cfg s := by
  refine Sessions.step_session ?_ ?_ ?_ h move
  · intro j
    exact .inl ⟨leavesSubscriptions_id, j.inserts cfg⟩
  · intro j u l next hs
    exact hs
  rintro j u v next (⟨hu, ⟨hv, hnext⟩ | ⟨⟨row, hrow, hv⟩, hnext⟩⟩ | ⟨⟨row, hrow, hu⟩, hv, hnext⟩) db
  · exact .inl ⟨fun db => (hv (u db)).trans (hu db), hnext db⟩
  · exact .inr ⟨⟨row, hrow, fun db => (hv (u db)).trans (congrArg (· ++ [row]) (hu db))⟩, hnext db⟩
  · exact .inr ⟨⟨row, hrow, fun db => (hv (u db)).trans (hu db)⟩, hnext db⟩

end Sessions

/-- When a transaction commits a subscription, there are as many as it has counted. -/
def CountStands (user planId : Nat) (st : PurchaseSessions) : SessionMove PurchaseJob → Prop
  | .run k =>
    match st.session k with
    | some ⟨_, pending, .done _⟩ =>
      ∀ row ∈ (pending st.committed).subscriptions.drop st.committed.subscriptions.length,
        row.userId = user → row.planId = planId → row.counted = st.committed.number user planId
    | _ => True
  | _ => True

instance (user planId : Nat) (st : PurchaseSessions) :
    ∀ move, Decidable (CountStands user planId st move)
  | .begin _ _ => isTrue trivial
  | .lose _ => isTrue trivial
  | .run k => by
    unfold CountStands
    dsimp only
    split <;> infer_instance

def PurchaseDb.purchased (db : PurchaseDb) (user planId : Nat) : Nat :=
  db.subscriptions.countP fun s => s.userId = user && s.planId = planId && s.source ≠ .admin

theorem purchased_le_number (db : PurchaseDb) (user planId : Nat) :
    db.purchased user planId ≤ db.number user planId := by
  refine List.countP_mono_left fun s _ h => ?_
  simp only [Bool.and_eq_true] at h ⊢
  exact h.1

theorem number_step {cfg : PurchaseSettings} {user : Nat}
    (hplan : cfg.plans.find? plan.id = some plan) (hlimit : 0 < plan.maxPurchasePerUser)
    {st : PurchaseSessions} (hsessions : ∀ k s, st.session k = some s → WithinSession cfg s)
    (hnumber : (st.committed.number user plan.id : Int) ≤ plan.maxPurchasePerUser)
    {move : SessionMove PurchaseJob} (hstands : CountStands user plan.id st move) :
    ((st.step (PurchaseJob.tx cfg) move).committed.number user plan.id : Int) ≤
      plan.maxPurchasePerUser := by
  obtain hsame | ⟨k, ⟨j, u, rest⟩, a, rfl, hs, rfl, hcommitted⟩ :=
    Sessions.step_committed (PurchaseJob.tx cfg) st move
  · rw [hsame]
    exact hnumber
  rw [hcommitted]
  obtain ⟨hleaves, -⟩ | ⟨⟨row, hrow, hadds⟩, -⟩ := hsessions k _ hs
  · unfold PurchaseDb.number
    rw [hleaves]
    exact hnumber
  replace hadds := hadds st.committed
  dsimp only [CountStands] at hstands
  rw [hs] at hstands
  dsimp only at hstands
  rw [hadds, List.drop_left] at hstands
  have hstands := hstands row (List.mem_singleton.mpr rfl)
  unfold PurchaseDb.number at hnumber hstands ⊢
  rw [hadds, List.countP_append, List.countP_singleton]
  split
  next hmatch =>
    simp only [Bool.and_eq_true, decide_eq_true_eq] at hmatch
    have hcounted := hstands hmatch.1 hmatch.2
    have hbelow := hrow plan (hmatch.2 ▸ hplan) hlimit
    omega
  · omega

/-- In every interleaving: if the number counted still holds at the commit, the user never has more
subscriptions from the plan than its limit. -/
theorem purchases_within_limit (cfg : PurchaseSettings) (user : Nat) {plan : PurchasePlan}
    (hplan : cfg.plans.find? plan.id = some plan) (hlimit : 0 < plan.maxPurchasePerUser)
    (db : PurchaseDb) (hdb : (db.number user plan.id : Int) ≤ plan.maxPurchasePerUser)
    (moves : List (SessionMove PurchaseJob))
    (hstands : Along (Sessions.step (PurchaseJob.tx cfg)) (CountStands user plan.id) (.idle db)
      moves) :
    ((run (Sessions.step (PurchaseJob.tx cfg)) (.idle db) moves).committed.purchased user plan.id :
      Int) ≤ plan.maxPurchasePerUser := by
  have hidle : ∀ k s, (Sessions.idle db : PurchaseSessions).session k = some s →
      WithinSession cfg s := by
    intro k s hs
    cases hs
  have hend := run_invariant (Sessions.step (PurchaseJob.tx cfg))
    (fun st => (∀ k s, st.session k = some s → WithinSession cfg s) ∧
      (st.committed.number user plan.id : Int) ≤ plan.maxPurchasePerUser)
    (fun st move h hmove => ⟨withinSession_step h.1 move, number_step hplan hlimit h.1 h.2 hmove⟩)
    ⟨hidle, hdb⟩ hstands
  have hle := purchased_le_number
    (run (Sessions.step (PurchaseJob.tx cfg)) (.idle db) moves).committed user plan.id
  have := hend.2
  omega

def oncePlan : PurchasePlan := { id := 1, maxPurchasePerUser := 1 }

def onceSettings : PurchaseSettings where
  plans := .single oncePlan

def twoOrders : PurchaseDb where
  orders := ⟨[paidOrder "a", paidOrder "b"], by decide⟩

def paid (k : Nat) (tradeNo : String) : SessionMove PurchaseJob :=
  .begin k (.complete tradeNo paidCallback)

theorem purchases_within_limit_sample :
    let moves := paid 0 "a" :: .replicate 8 (.run 0) ++ paid 1 "b" :: .replicate 8 (.run 1)
    let st := run (Sessions.step (PurchaseJob.tx onceSettings)) (.idle twoOrders) moves
    st.results.length = 2 ∧ (st.committed.purchased 1 oncePlan.id : Int) ≤ 1 := by
  intro moves st
  have hplan : onceSettings.plans.find? oncePlan.id = some oncePlan := rfl
  exact ⟨by decide +kernel, purchases_within_limit onceSettings 1 hplan (by decide) twoOrders
    (by decide) moves (by decide +kernel)⟩

theorem two_orders_exceed_limit :
    let moves := [paid 0 "a", paid 1 "b"] ++
      (List.replicate 8 [.run 0, .run 1]).flatten
    oncePlan.maxPurchasePerUser = 1 ∧
      (run (Sessions.step (PurchaseJob.tx onceSettings)) (.idle twoOrders) moves).committed.purchased
        1 1 = 2 := by
  decide +kernel

end ZModel.Subscription
