import ZModel.Subscription.Orders

/-!
# Callbacks of a subscription order

The callbacks for one order lock its row first. A pending order is settled once, as a success or as
expired, and the subscription and the bill come with the success.
-/

namespace ZModel.Subscription

open Lib
open Payment (TopUpStatus)

variable {userId : Nat} {a : Unit}

inductive OrderCallback where
  | success (c : SuccessCallback)
  | expiry (expectedPaymentProvider : String) (now : Int)

variable (cfg : PurchaseSettings)

namespace OrderCallback

def provider : OrderCallback → String
  | success c => c.expectedPaymentProvider
  | expiry expected _ => expected

def tx (tradeNo : String) : OrderCallback → PurchaseTx Unit
  | success c => completeSubscriptionOrder cfg tradeNo c
  | expiry expected now => expireSubscriptionOrder tradeNo expected now

theorem tx_locksFirst (tradeNo : String) (c : OrderCallback) :
    (c.tx cfg tradeNo).LocksFirst (.order tradeNo) := by
  cases c with
  | success c =>
    dsimp only [tx]
    unfold completeSubscriptionOrder
    split
    · trivial
    · rfl
  | expiry expected now =>
    dsimp only [tx]
    unfold expireSubscriptionOrder
    split
    · trivial
    · rfl

end OrderCallback

section Alone

variable {cfg : PurchaseSettings} {db db' : PurchaseDb}

structure SameOrders (db db' : PurchaseDb) : Prop where
  orders : db'.orders = db.orders
  topUps : db'.topUps = db.topUps

theorem countPurchases_ok {plan : PurchasePlan} {count : Nat}
    (h : (countPurchases userId plan).run db = .ok (count, db')) : db' = db := by
  unfold countPurchases at h
  split at h
  · simp only [Tx.run_bind_eq_ok, Tx.run_select, Tx.run_require_eq_ok, Tx.run_pure] at h
    obtain ⟨_, _, ⟨-, rfl⟩, _, _, ⟨-, rfl⟩, -, rfl⟩ := h
    rfl
  · cases h
    rfl

theorem upgradeUserGroup_ok {upgradeGroup group : String}
    (h : (upgradeUserGroup userId upgradeGroup).run db = .ok (group, db')) :
    SameOrders db db' ∧ db'.subscriptions = db.subscriptions := by
  unfold upgradeUserGroup at h
  split at h
  · cases h
    exact ⟨⟨rfl, rfl⟩, rfl⟩
  simp only [Tx.run_bind_eq_ok] at h
  obtain ⟨current, _, ⟨-, rfl⟩, h⟩ := h
  split at h
  · cases h
    exact ⟨⟨rfl, rfl⟩, rfl⟩
  simp only [Tx.run_bind_eq_ok, Tx.run_update, Tx.run_pure, Except.ok.injEq] at h
  obtain ⟨_, _, ⟨-, rfl⟩, -, rfl⟩ := h
  exact ⟨⟨rfl, rfl⟩, rfl⟩

theorem createUserSubscription_ok {now : Int} {plan : PurchasePlan} {source : PurchaseSource}
    (h : (createUserSubscriptionFromPlanTx cfg now userId plan source).run db = .ok (a, db')) :
    SameOrders db db' ∧ ∃ s : CreatedSubscription, s.userId = userId ∧ s.planId = plan.id ∧
      db'.subscriptions = db.subscriptions ++ [s] := by
  unfold createUserSubscriptionFromPlanTx at h
  simp only [Tx.run_bind_eq_ok, Tx.run_require_eq_ok, Tx.run_ofOption_eq_ok, Tx.run_update] at h
  obtain ⟨_, _, ⟨-, rfl⟩, _, _, ⟨-, rfl⟩, counted, _, hcount, endTime, _, ⟨-, rfl⟩, group, db₁,
    hgroup, -, rfl⟩ := h
  obtain rfl := countPurchases_ok hcount
  obtain ⟨hsame, hsubs⟩ := upgradeUserGroup_ok hgroup
  exact ⟨⟨hsame.orders, hsame.topUps⟩, _, rfl, rfl, congrArg (· ++ [_]) hsubs⟩

theorem upsertSubscriptionTopUp_ok {now : Int} {order : SubscriptionOrder}
    (hnone : db.topUps.find? order.tradeNo = none)
    (h : (upsertSubscriptionTopUpTx now order).run db = .ok (a, db')) :
    db'.orders = db.orders ∧ db'.subscriptions = db.subscriptions ∧
      ∃ bill : Bill, bill.tradeNo = order.tradeNo ∧ db.topUps.create bill = some db'.topUps := by
  unfold upsertSubscriptionTopUpTx at h
  simp only [Tx.run_bind_eq_ok, Tx.run_select] at h
  obtain ⟨found, _, ⟨rfl, rfl⟩, h⟩ := h
  rw [hnone] at h
  simp only [Tx.run_bind_eq_ok, Tx.run_updateReturning, Tx.run_require_eq_ok, Except.ok.injEq] at h
  obtain ⟨free, _, ⟨-, rfl⟩, -, rfl⟩ := h
  have hfree : db.topUps.find? (key (order.newBill now)) = none := hnone
  obtain ⟨topUps, hcreate⟩ := Option.ne_none_iff_exists'.mp (Table.create_ne_none hfree)
  refine ⟨rfl, rfl, order.newBill now, rfl, ?_⟩
  dsimp only [PurchaseDb.insertTopUp]
  rw [hcreate]
  rfl

end Alone

/-- An order as it is created for a payment provider: pending, and without a bill. -/
structure NewOrder where
  db : PurchaseDb
  order : SubscriptionOrder
  stored : db.orders.find? order.tradeNo = some order
  pending : order.status = .pending
  unbilled : db.topUps.find? order.tradeNo = none

/-- Where the callbacks have brought the order: it is stored as `o`, and the subscription and the
bill are there exactly if it is a success. -/
structure Settled (n : NewOrder) (o : SubscriptionOrder) (db : PurchaseDb) : Prop where
  stored : db.orders.find? n.order.tradeNo = some o
  provider : o.paymentProvider = n.order.paymentProvider
  created : (o.status = .success ∧ (∃ s, db.subscriptions = n.db.subscriptions ++ [s]) ∧
      ∃ bill : Bill, bill.tradeNo = n.order.tradeNo ∧ n.db.topUps.create bill = some db.topUps) ∨
    (o.status = .pending ∨ o.status = .expired) ∧ db.subscriptions = n.db.subscriptions ∧
      db.topUps = n.db.topUps

theorem NewOrder.settled (n : NewOrder) : Settled n n.order n.db :=
  ⟨n.stored, rfl, .inr ⟨.inl n.pending, rfl, rfl⟩⟩

section Callbacks

variable {cfg : PurchaseSettings} {n : NewOrder} {o : SubscriptionOrder} {db db' : PurchaseDb}

section

variable (h : Settled n o db)

include h

theorem Settled.untouched (hpending : o.status = .pending) :
    db.subscriptions = n.db.subscriptions ∧ db.topUps = n.db.topUps := by
  obtain ⟨hsuccess, -⟩ | ⟨-, hsame⟩ := h.created
  · rw [hpending] at hsuccess
    cases hsuccess
  · exact hsame

theorem Settled.saved (o' : SubscriptionOrder) (hkey : o'.tradeNo = o.tradeNo)
    {orders : Table SubscriptionOrder} (horders : orders = db.orders) :
    (orders.put o').find? n.order.tradeNo = some o' := by
  have hid : o.tradeNo = n.order.tradeNo := Table.find?_key h.stored
  rw [horders]
  exact Table.find?_put_of_find? h.stored o' (hkey.trans hid)

theorem Settled.expired (hpending : o.status = .pending) (now : Int) :
    Settled n { o with status := .expired, completeTime := now }
      (db.saveOrder { o with status := .expired, completeTime := now }) where
  stored := h.saved { o with status := .expired, completeTime := now } rfl rfl
  provider := h.provider
  created := .inr ⟨.inr rfl, h.untouched hpending⟩

theorem Settled.completePending {c : SuccessCallback}
    (hrun : (completePending cfg o c).run db = .ok (a, db')) :
    o.status = .pending ∧ Settled n (o.complete c) db' := by
  unfold Subscription.completePending at hrun
  simp only [Tx.run_bind_eq_ok, Tx.run_require_eq_ok, Tx.run_ofOption_eq_ok, Tx.run_update] at hrun
  obtain ⟨_, _, ⟨hpending, rfl⟩, plan, _, ⟨-, rfl⟩, _, db₁, hcreate, _, db₂, hupsert, -, rfl⟩ := hrun
  obtain ⟨hsame, s, -, -, hsubs⟩ := createUserSubscription_ok hcreate
  obtain ⟨hsubs₀, htopUps⟩ := h.untouched hpending
  have hid : o.tradeNo = n.order.tradeNo := Table.find?_key h.stored
  have hnone : db₁.topUps.find? o.tradeNo = none := by
    rw [hsame.topUps, htopUps, hid]
    exact n.unbilled
  obtain ⟨horders, hsubs₂, bill, hbill, hbilled⟩ := upsertSubscriptionTopUp_ok hnone hupsert
  refine ⟨hpending, h.saved (o.complete c) rfl (horders.trans hsame.orders), h.provider,
    .inl ⟨rfl, ⟨s, ?_⟩, bill, hbill.trans hid, ?_⟩⟩
  · rw [← hsubs₀, ← hsubs]
    exact hsubs₂
  · rw [← htopUps, ← hsame.topUps]
    exact hbilled

/-- Both callbacks begin by locking the row and checking the provider. -/
theorem Settled.locked {expected : String} {next : SubscriptionOrder → PurchaseTx Unit}
    (hrun : (do
      let found ← Tx.selectForUpdate (.order n.order.tradeNo) fun db =>
        db.orders.find? n.order.tradeNo
      let order ← Tx.ofOption PurchaseError.orderNotFound found
      Tx.require (expected = "" ∨ order.paymentProvider = expected)
        PurchaseError.paymentMethodMismatch
      next order : PurchaseTx Unit).run db = .ok (a, db')) :
    (expected = "" ∨ n.order.paymentProvider = expected) ∧ (next o).run db = .ok (a, db') := by
  simp only [Tx.run_bind_eq_ok, Tx.run_selectForUpdate, Tx.run_ofOption_eq_ok,
    Tx.run_require_eq_ok, Except.ok.injEq, Prod.mk.injEq] at hrun
  obtain ⟨_, _, ⟨hfound, rfl⟩, order, _, ⟨rfl, rfl⟩, _, _, ⟨hprovider, rfl⟩, hrun⟩ := hrun
  obtain rfl : order = o := Option.some.inj (hfound.symm.trans h.stored)
  exact ⟨h.provider ▸ hprovider, hrun⟩

theorem Settled.callback {c : OrderCallback}
    (hrun : (c.tx cfg n.order.tradeNo).run db = .ok (a, db')) :
    (c.provider = "" ∨ n.order.paymentProvider = c.provider) ∧
      (db' = db ∨ o.status = .pending ∧ ∃ o', Settled n o' db') := by
  cases c with
  | expiry expected now =>
    dsimp only [OrderCallback.tx] at hrun ⊢
    unfold expireSubscriptionOrder at hrun
    split at hrun
    · cases hrun
    obtain ⟨hprovider, hrun⟩ := h.locked hrun
    refine ⟨hprovider, ?_⟩
    split at hrun
    next hpending =>
      cases hrun
      exact .inr ⟨hpending, _, h.expired hpending now⟩
    · cases hrun
      exact .inl rfl
  | success c =>
    dsimp only [OrderCallback.tx] at hrun ⊢
    unfold completeSubscriptionOrder at hrun
    split at hrun
    · cases hrun
    obtain ⟨hprovider, hrun⟩ := h.locked hrun
    refine ⟨hprovider, ?_⟩
    split at hrun
    · cases hrun
      exact .inl rfl
    · obtain ⟨hpending, hsettled⟩ := h.completePending hrun
      exact .inr ⟨hpending, _, hsettled⟩

end

end Callbacks

def PurchaseDb.orderStatus (db : PurchaseDb) (tradeNo : String) : Option TopUpStatus :=
  (db.orders.find? tradeNo).map SubscriptionOrder.status

def callbacks (n : NewOrder) (moves : List (SessionMove OrderCallback)) :
    Sessions RowLock PurchaseDb PurchaseError Unit OrderCallback :=
  run (Sessions.step (OrderCallback.tx cfg n.order.tradeNo)) (.idle n.db) moves

section Interleaved

variable (cfg : PurchaseSettings) (n : NewOrder) (moves : List (SessionMove OrderCallback))

theorem callbacks_serial :
    Serial (OrderCallback.tx cfg n.order.tradeNo) n.db (.order n.order.tradeNo)
      (callbacks cfg n moves) :=
  (Serial.idle _ _ _).run (OrderCallback.tx_locksFirst cfg n.order.tradeNo) moves

theorem callbacks_settled : ∃ o, Settled n o (callbacks cfg n moves).committed := by
  refine Serial.keeps (P := fun db => ∃ o, Settled n o db)
    (OrderCallback.tx_locksFirst cfg n.order.tradeNo) ?_ (Serial.idle _ n.db _) ⟨_, n.settled⟩ moves
  rintro c db a db' ⟨o, h⟩ hrun
  obtain ⟨-, rfl | ⟨-, hsettled⟩⟩ := h.callback hrun
  · exact ⟨o, h⟩
  · exact hsettled

theorem callbacks_absorbed {o : SubscriptionOrder} (h : Settled n o (callbacks cfg n moves).committed)
    (hstatus : o.status ≠ .pending) (more : List (SessionMove OrderCallback)) :
    (callbacks cfg n (moves ++ more)).committed = (callbacks cfg n moves).committed := by
  unfold callbacks
  rw [run_append]
  refine Serial.keeps (P := fun db => db = (callbacks cfg n moves).committed)
    (OrderCallback.tx_locksFirst cfg n.order.tradeNo) ?_ (callbacks_serial cfg n moves) rfl more
  rintro c db a db' rfl hrun
  exact (h.callback hrun).2.resolve_right fun hpending => hstatus hpending.1

/-- In every interleaving of callbacks: one subscription and one bill are created if the order is a
success, none otherwise; success and expired stay; a callback naming another provider changes
nothing. -/
theorem order_settled_once (cfg : PurchaseSettings) (n : NewOrder)
    (moves : List (SessionMove OrderCallback)) :
    let st := callbacks cfg n moves
    (∃ created bills, st.committed.subscriptions = n.db.subscriptions ++ created ∧
      st.committed.topUps.rows = n.db.topUps.rows ++ bills ∧
      (∀ bill ∈ bills, bill.tradeNo = n.order.tradeNo) ∧ bills.length = created.length ∧
      created.length =
        if st.committed.orderStatus n.order.tradeNo = some .success then 1 else 0) ∧
    (∀ status, status = .success ∨ status = .expired →
      st.committed.orderStatus n.order.tradeNo = some status →
      ∀ more, (callbacks cfg n (moves ++ more)).committed.orderStatus n.order.tradeNo =
        some status) ∧
    ∀ k s, st.session k = some s → s.job.provider ≠ "" →
      s.job.provider ≠ n.order.paymentProvider →
      ∀ move, move = .run k ∨ move = .lose k →
        (st.step (OrderCallback.tx cfg n.order.tradeNo) move).committed = st.committed := by
  intro st
  obtain ⟨o, h⟩ := callbacks_settled cfg n moves
  have hstatus : st.committed.orderStatus n.order.tradeNo = some o.status := by
    unfold PurchaseDb.orderStatus
    rw [h.stored]
    rfl
  refine ⟨?_, ?_, ?_⟩
  · rw [hstatus]
    obtain ⟨hsuccess, ⟨s, hsubs⟩, bill, hbill, hcreate⟩ | ⟨hopen, hsubs, htopUps⟩ := h.created
    · refine ⟨[s], [bill], hsubs, Table.create_rows hcreate, ?_, rfl, ?_⟩
      · simpa using hbill
      · simp [hsuccess]
    have hne : o.status ≠ .success := by
      obtain hpending | hexpired := hopen
      · simp [hpending]
      · simp [hexpired]
    refine ⟨[], [], ?_, ?_, nofun, rfl, ?_⟩
    · simpa using hsubs
    · simpa using congrArg Table.rows htopUps
    · simp [hne]
  · intro status hfinal heq more
    have ho : o.status ≠ .pending := by
      rw [hstatus] at heq
      obtain rfl := Option.some.inj heq
      obtain hsuccess | hexpired := hfinal
      · simp [hsuccess]
      · simp [hexpired]
    rw [callbacks_absorbed cfg n moves h ho more]
    exact heq
  rintro k s hs hnamed hother move hmove
  obtain hsame | ⟨k', s', a, rfl, hs', hrun⟩ := (callbacks_serial cfg n moves).step_committed
    (OrderCallback.tx_locksFirst cfg n.order.tradeNo) move
  · exact hsame
  -- A commit of the callback would have passed the check of the provider.
  obtain rfl : k' = k := by simpa using hmove
  obtain rfl : s' = s := Option.some.inj (hs'.symm.trans hs)
  obtain ⟨hempty | hprovider, -⟩ := h.callback hrun
  · exact absurd hempty hnamed
  · exact absurd hprovider.symm hother

end Interleaved

def newOrder : NewOrder :=
  ⟨{ orders := .single (paidOrder "a") }, paidOrder "a", rfl, rfl, rfl⟩

def freePlan : PurchaseSettings where
  plans := .single { id := 1, maxPurchasePerUser := 0 }

/-- A success and an expiry compete for the order. -/
def competing : List (SessionMove OrderCallback) :=
  [.begin 0 (.success paidCallback), .begin 1 (.expiry "stripe" 2000)] ++
    (List.replicate 9 [.run 0, .run 1]).flatten

theorem order_settled_once_competing :
    let st := callbacks freePlan newOrder competing
    st.results.length = 2 ∧ st.committed.orderStatus "a" = some .success ∧
      st.committed.subscriptions.length = 1 ∧ st.committed.topUps.rows.length = 1 := by
  intro st
  have hstatus : st.committed.orderStatus "a" = some .success := by decide +kernel
  obtain ⟨⟨created, bills, hsubs, htopUps, -, hbills, hcreated⟩, -⟩ :=
    order_settled_once freePlan newOrder competing
  have hone : created.length = 1 := hcreated.trans (if_pos hstatus)
  refine ⟨by decide +kernel, hstatus, ?_, ?_⟩
  · exact (congrArg List.length hsubs).trans hone
  · exact (congrArg List.length htopUps).trans (hbills.trans hone)

/-- An order paid from the balance is created as a success, and no bill is created for it. -/
theorem balance_order_unbilled :
    ∃ db, (purchaseSubscriptionWithBalance freePlan 1000 1000 "b" "" 1 1).run
      { quota := fun _ => some 0 } = .ok ((), db) ∧ db.orderStatus "b" = some .success ∧
        db.topUps.find? "b" = none :=
  ⟨_, rfl, by decide +kernel, rfl⟩

end ZModel.Subscription
