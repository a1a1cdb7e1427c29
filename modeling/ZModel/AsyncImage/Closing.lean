import ZModel.AsyncImage.Runs
import ZModel.Subscription.PreConsume

/-!
# Closing a reservation

A refund or settlement meets accounts that other requests have changed, and checks the ranges of
what it writes. `Covers` says when these checks pass.
-/

namespace ZModel.AsyncImage

open Lib Store Subscription

section

variable (a : Accounts) (t : AsyncImageTask) (delta : Int)

def FundingCovers : Prop :=
  delta = 0 ∨
    if t.subscriptionFunded then
      ∃ s ∈ a.subscriptions.find? t.subscriptionID, 0 ≤ s.amountUsed + delta ∧
        (0 < s.amountTotal → s.amountUsed + delta ≤ s.amountTotal)
    else ∃ u ∈ a.users.find? t.userID, 0 ≤ u.quota - delta

def TokenCovers : Prop :=
  delta = 0 ∨ t.tokenUnlimited = true ∨ t.tokenID = 0 ∨ ∃ token ∈ a.tokens.find? t.tokenID,
      0 ≤ token.remainQuota - delta ∧ 0 ≤ token.usedQuota + delta

/-- The accounts of a task bear `delta` more. -/
def Covers : Prop :=
  FundingCovers a t delta ∧ TokenCovers a t delta

end

section Adjust

variable {a : Accounts} {t : AsyncImageTask} {delta : Int}

theorem adjustFunding_ok_iff :
    (∃ a', adjustAsyncImageFunding a t delta = .ok a') ↔ FundingCovers a t delta := by
  unfold adjustAsyncImageFunding FundingCovers
  by_cases hzero : delta = 0
  · simp [hzero]
  rw [if_neg hzero, or_iff_right hzero]
  split
  · cases a.subscriptions.find? t.subscriptionID with
    | none => simp
    | some s =>
      dsimp only
      split
      next hneg =>
        simp [Int.not_le.mpr hneg]
      rename_i hused
      split
      next htotal =>
        simp [htotal.1, Int.not_le.mpr htotal.2]
      rename_i htotal
      simp only [Except.ok.injEq, exists_eq', Option.mem_def, Option.some.injEq,
        exists_eq_left', true_iff]
      exact ⟨by omega, fun hpos => by omega⟩
  cases a.users.find? t.userID with
  | none => simp
  | some u =>
    dsimp only
    split
    next hshort =>
      simp only [reduceCtorEq, exists_false, Option.mem_def, Option.some.injEq,
        exists_eq_left', false_iff]
      omega
    next hquota =>
      simpa using Int.not_lt.mp hquota

theorem adjustToken_ok_iff :
    (∃ a', adjustAsyncImageToken a t delta = .ok a') ↔ TokenCovers a t delta := by
  unfold adjustAsyncImageToken TokenCovers
  split
  next hskip =>
    tauto
  rename_i hlimited
  simp only [not_or] at hlimited
  obtain ⟨hzero, hlimited, hid⟩ := hlimited
  rw [or_iff_right hzero, or_iff_right hlimited, or_iff_right hid]
  cases a.tokens.find? t.tokenID with
  | none => simp
  | some token =>
    dsimp only
    split
    next hremain =>
      simp only [reduceCtorEq, exists_false, Option.mem_def, Option.some.injEq,
        exists_eq_left', false_iff]
      omega
    rename_i hremain
    split
    next hused =>
      simp [Int.not_le.mpr hused]
    rename_i hused
    simp only [Except.ok.injEq, exists_eq', Option.mem_def, Option.some.injEq,
      exists_eq_left', true_iff]
    exact ⟨by omega, by omega⟩

theorem tokenCovers_of_tokens {a' : Accounts} (h : a'.tokens = a.tokens) :
    TokenCovers a' t delta ↔ TokenCovers a t delta := by
  rw [TokenCovers, TokenCovers, h]

theorem tokenCovers_tokenPart (h : tokenPart t.tokenUnlimited delta = delta ∨
    t.tokenUnlimited = true) :
    TokenCovers a t (tokenPart t.tokenUnlimited delta) ↔ TokenCovers a t delta := by
  obtain hpart | hunlimited := h
  · rw [hpart]
  · simp [TokenCovers, hunlimited]

theorem tokenPart_or (t : AsyncImageTask) (delta : Int) :
    tokenPart t.tokenUnlimited delta = delta ∨ t.tokenUnlimited = true := by
  cases t.tokenUnlimited <;> simp [tokenPart]

theorem adjust_ok_iff {f : Accounts → Accounts} (hf : ∀ a, (f a).tokens = a.tokens) {part : Int}
    (hpart : part = tokenPart t.tokenUnlimited delta) :
    (∃ a', (adjustAsyncImageFunding a t delta >>= fun a =>
      adjustAsyncImageToken (f a) t part) = .ok a') ↔ Covers a t delta := by
  have htoken : ∀ a₁, adjustAsyncImageFunding a t delta = .ok a₁ →
      ((∃ a', adjustAsyncImageToken (f a₁) t part = .ok a') ↔ TokenCovers a t delta) := by
    intro a₁ hfunding
    have htokens : (f a₁).tokens = a.tokens := (hf a₁).trans (adjustFunding_spec hfunding).2
    rw [adjustToken_ok_iff, tokenCovers_of_tokens htokens, hpart]
    exact tokenCovers_tokenPart (tokenPart_or t delta)
  constructor
  · rintro ⟨a', h⟩
    obtain ⟨a₁, hfunding, h⟩ := bind_eq_ok.mp h
    exact ⟨adjustFunding_ok_iff.mp ⟨a₁, hfunding⟩, (htoken a₁ hfunding).mp ⟨a', h⟩⟩
  rintro ⟨hfundingCovers, htokenCovers⟩
  obtain ⟨a₁, hfunding⟩ := adjustFunding_ok_iff.mpr hfundingCovers
  obtain ⟨a', h⟩ := (htoken a₁ hfunding).mpr htokenCovers
  exact ⟨a', bind_eq_ok.mpr ⟨a₁, hfunding, h⟩⟩

theorem adjustTo_ok_iff {quota : Int} :
    (∃ a', adjustTo a t quota = .ok a') ↔ Covers a t (quota - t.reservedQuota) := by
  refine adjust_ok_iff (f := id) (fun _ => rfl) ?_
  rw [t.token_reserved]
  cases t.tokenUnlimited <;> simp [tokenPart]

end Adjust

inductive Settlement where
  | generation (owner manifest sourceKind : String) (objects : List StorageObject)
  | archiveFailure (owner sourceKind errorCode errorMessage : String)
  | billing

def Settlement.transaction (now : Int) (db : DB) (taskID : String) (actual : Int) :
    Settlement → Except Error DB
  | .generation owner manifest sourceKind objects =>
    completeAsyncImageGeneration now db taskID owner actual manifest sourceKind objects
  | .archiveFailure owner sourceKind errorCode errorMessage =>
    completeAsyncImageGenerationWithArchiveFailure now db taskID owner actual sourceKind
      errorCode errorMessage
  | .billing => settleAsyncImageBilling now db taskID actual

def Settlement.Proper (t : AsyncImageTask) : Settlement → Prop
  | .generation owner manifest _ objects =>
    t.leasedTo owner ∧ t.lifecycle.status = .running ∧ isBlank manifest = false ∧
      objects ≠ [] ∧ (∀ o ∈ objects, isBlank o.businessID = false) ∧
      (objects.map fun o => (o.businessID, o.objectIndex)).Nodup
  | .archiveFailure owner _ _ _ => t.leasedTo owner
  | .billing => True

instance (t : AsyncImageTask) (owner : String) : Decidable (t.leasedTo owner) :=
  inferInstanceAs (Decidable (_ ∨ _))

instance (t : AsyncImageTask) : ∀ s : Settlement, Decidable (s.Proper t)
  | .generation .. => inferInstanceAs (Decidable (_ ∧ _))
  | .archiveFailure .. => inferInstanceAs (Decidable (_ ∨ _))
  | .billing => isTrue trivial

theorem createObjects_ok {t : AsyncImageTask} {objects : List StorageObject}
    {table : Table StorageObject} (hbusiness : ∀ o ∈ objects, isBlank o.businessID = false)
    (hnodup : (objects.map fun o => (o.businessID, o.objectIndex)).Nodup)
    (hfresh : ∀ row ∈ table.rows, row.resourceID = t.taskID →
      (row.businessID, row.objectIndex) ∉ objects.map fun o => (o.businessID, o.objectIndex)) :
    ∃ table', createObjects t objects table = .ok table' := by
  induction objects generalizing table with
  | nil => exact ⟨table, rfl⟩
  | cons o rest ih =>
    rw [List.map_cons, List.nodup_cons] at hnodup
    rw [List.forall_mem_cons] at hbusiness
    unfold createObjects
    rw [if_neg (by simp [hbusiness.1])]
    split
    next hcreate =>
      simp only [Table.create, dite_eq_left_iff, reduceCtorEq, imp_false, not_not,
        List.mem_map] at hcreate
      obtain ⟨row, hrow, hkey⟩ := hcreate
      simp only [key_object, Prod.mk.injEq] at hkey
      exact absurd (List.mem_map.mpr ⟨o, (.head _), by rw [hkey.1, hkey.2.2]⟩)
        (hfresh row hrow hkey.2.1)
    rename_i table' hcreate
    refine ih hbusiness.2 hnodup.2 fun row hrow hresource => ?_
    obtain hold | rfl := (Table.mem_create hcreate).mp hrow
    · exact fun hmem => hfresh row hold hresource (.tail _ hmem)
    · exact hnodup.1

theorem createObjects_mem {t : AsyncImageTask} {objects : List StorageObject}
    {table table' : Table StorageObject} (h : createObjects t objects table = .ok table')
    {row : StorageObject} (hrow : row ∈ table'.rows) :
    row ∈ table.rows ∨ row.resourceID = t.taskID := by
  induction objects generalizing table with
  | nil =>
    cases h
    exact .inl hrow
  | cons o rest ih =>
    unfold createObjects at h
    split at h
    · cases h
    split at h
    · cases h
    rename_i hcreate
    obtain hmem | hresource := ih h
    · obtain hold | rfl := (Table.mem_create hcreate).mp hmem
      · exact .inl hold
      · exact .inr rfl
    · exact .inr hresource

section Close

variable {db : DB} {t : AsyncImageTask} (ht : db.tasks.find? t.taskID = some t)
  (hreserved : t.billingStatus = .reserved) (now : Int)

include ht hreserved

theorem refund_ok_iff (errorCode errorMessage failureReason : String) :
    (∃ db', refundAsyncImageBilling now db t.taskID errorCode errorMessage failureReason =
      .ok db') ↔ Covers db.accounts t (-t.reservedQuota) := by
  have hpart : -t.tokenReservedQuota = tokenPart t.tokenUnlimited (-t.reservedQuota) := by
    rw [t.token_reserved]
    cases t.tokenUnlimited <;> simp [tokenPart]
  have hrecord : ∀ a, (refundRecord a t).tokens = a.tokens := by
    intro a
    unfold refundRecord
    split <;> rfl
  rw [← adjust_ok_iff hrecord hpart]
  constructor
  · rintro ⟨db', h⟩
    obtain ⟨row, hrow, -, ⟨hrefunded, -⟩ | ⟨-, -, a, hfunding, htoken⟩⟩ := refund_cases h
    · obtain rfl : t = row := by simpa [ht] using hrow
      rw [hreserved] at hrefunded
      cases hrefunded
    · obtain rfl : t = row := by simpa [ht] using hrow
      exact ⟨db'.accounts, bind_eq_ok.mpr ⟨a, hfunding, htoken⟩⟩
  rintro ⟨a', h⟩
  obtain ⟨a, hfunding, htoken⟩ := bind_eq_ok.mp h
  have hfind : findTask db t.taskID "" = .ok t := findTask_eq_ok_iff.mpr ⟨ht, .inl rfl⟩
  simp only [refundAsyncImageBilling, hfind, hreserved, hfunding, htoken,
    updateReserved_eq ht hreserved, bind, Except.bind]
  exact ⟨_, rfl⟩

theorem settlement_ok_iff {actual : Int} (hactual : 0 ≤ actual) (s : Settlement)
    (hproper : s.Proper t)
    (hfresh : ∀ row ∈ db.objects.rows, row.resourceID ≠ t.taskID) :
    (∃ db', s.transaction now db t.taskID actual = .ok db') ↔
      Covers db.accounts t (actual - t.reservedQuota) := by
  rw [← adjustTo_ok_iff]
  -- The settled case of an inversion does not apply to a reserved row.
  have hadjust : ∀ {db' : DB} {row new : AsyncImageTask}, db.tasks.find? t.taskID = some row →
      SettledAs db db' row new actual → ∃ a', adjustTo db.accounts t actual = .ok a' := by
    intro db' row new hrow hsettled
    obtain rfl : t = row := by simpa [ht] using hrow
    cases hsettled with
    | already hbilling =>
      rw [hreserved] at hbilling
      cases hbilling
    | now _ hadjust => exact ⟨_, hadjust⟩
  cases s with
  | generation owner manifest sourceKind objects =>
    obtain ⟨hleased, hrunning, hmanifest, hobjects, hbusiness, hnodup⟩ := hproper
    constructor
    · rintro ⟨db', h⟩
      obtain ⟨row, hrow, -, hsettled, -⟩ := complete_cases h
      exact hadjust hrow hsettled
    rintro ⟨a', h⟩
    have hfind : findTask db t.taskID owner = .ok t := findTask_eq_ok_iff.mpr ⟨ht, hleased⟩
    obtain ⟨table', htable⟩ := createObjects_ok hbusiness hnodup fun row hrow hresource =>
      absurd hresource (hfresh row hrow)
    simp only [Settlement.transaction, completeAsyncImageGeneration]
    rw [if_neg (Int.not_lt.mpr hactual), if_neg (by simp [hmanifest, hobjects])]
    simp only [hfind, hreserved, hrunning, h, htable, updateReserved_eq ht hreserved, bind,
      Except.bind]
    exact ⟨_, rfl⟩
  | archiveFailure owner sourceKind errorCode errorMessage =>
    constructor
    · rintro ⟨db', h⟩
      obtain ⟨row, hrow, -, hsettled, -⟩ := archiveFailure_cases h
      exact hadjust hrow hsettled
    rintro ⟨a', h⟩
    have hfind : findTask db t.taskID owner = .ok t := findTask_eq_ok_iff.mpr ⟨ht, hproper⟩
    simp only [Settlement.transaction, completeAsyncImageGenerationWithArchiveFailure]
    rw [if_neg (Int.not_lt.mpr hactual)]
    simp only [hfind, hreserved, h, updateReserved_eq ht hreserved, bind, Except.bind]
    exact ⟨_, rfl⟩
  | billing =>
    constructor
    · rintro ⟨db', h⟩
      obtain ⟨row, hrow, hsettled, -⟩ := settleBilling_cases h
      exact hadjust hrow hsettled
    rintro ⟨a', h⟩
    have hfind : findTask db t.taskID "" = .ok t := findTask_eq_ok_iff.mpr ⟨ht, .inl rfl⟩
    simp only [Settlement.transaction, settleAsyncImageBilling]
    rw [if_neg (Int.not_lt.mpr hactual)]
    simp only [hfind, hreserved, h, bind, Except.bind]
    exact ⟨_, rfl⟩

end Close

/-! ## Runs with other requests in between -/

inductive Request where
  | increaseUserQuota (id : Nat) (quota : Int)
  | decreaseUserQuota (id : Nat) (quota : Int)
  | increaseTokenQuota (id : Nat) (quota : Int)
  | decreaseTokenQuota (id : Nat) (quota : Int)
  | postConsumeUserSubscriptionDelta (id : Nat) (delta : Int)
  | preConsumeUserSubscription (now : Int) (requestId : String) (userId : Nat) (amount : Int)
  | resetUserSubscription (now : Int) (id : Nat)
  | deleteToken (id : Nat)

def Request.apply (zone : Int) (a : Accounts) : Request → Accounts
  | .increaseUserQuota id quota => commit a (Store.increaseUserQuota .done a id quota)
  | .decreaseUserQuota id quota => commit a (Store.decreaseUserQuota .done a id quota)
  | .increaseTokenQuota id quota => commit a (Store.increaseTokenQuota .done a id quota)
  | .decreaseTokenQuota id quota => commit a (Store.decreaseTokenQuota .done a id quota)
  | .postConsumeUserSubscriptionDelta id delta =>
    commit a (Store.postConsumeUserSubscriptionDelta .done a id delta)
  | .preConsumeUserSubscription now requestId userId amount =>
    commit a ((Subscription.preConsumeUserSubscription zone now .done a requestId userId
      amount).map Prod.snd)
  | .resetUserSubscription now id =>
    match a.subscriptions.find? id with
    | none => a
    | some s => commit a ((checkReset zone now a s).map Prod.snd)
  | .deleteToken id => { a with tokens := a.tokens.erase id }

inductive Event where
  | call (i : Issued)
  | request (r : Request)

def Event.step (zone : Int) (db : DB) : Event → DB
  | .call i => AsyncImage.step zone db i
  | .request r => { db with accounts := r.apply zone db.accounts }

def ObjectsSettled (db : DB) : Prop :=
  ∀ o ∈ db.objects.rows, billingStatusOf db o.resourceID = some .settled

section Steps

variable {db db' : DB}

theorem settled_put {old new : AsyncImageTask} (hold : db.tasks.find? old.taskID = some old)
    (hput : db'.tasks = db.tasks.put new) (hid : new.taskID = old.taskID)
    (hkeep : old.billingStatus = .settled → new.billingStatus = .settled) {taskID : String}
    (h : billingStatusOf db taskID = some .settled) :
    billingStatusOf db' taskID = some .settled := by
  unfold billingStatusOf at h ⊢
  rw [hput]
  by_cases heq : taskID = old.taskID
  · rw [heq, hold, Option.map_some, Option.some.injEq] at h
    rw [heq, Table.find?_put_of_find? hold new hid, Option.map_some, hkeep h]
  · rw [Table.find?_put_of_ne (by rw [key_task, hid]; exact heq)]
    exact h

section

variable (h : ObjectsSettled db)

include h

theorem ObjectsSettled.put {t u : AsyncImageTask}
    (ht : db.tasks.find? t.taskID = some t) (hput : db'.tasks = db.tasks.put u)
    (hid : u.taskID = t.taskID) (hkeep : t.billingStatus = .settled → u.billingStatus = .settled)
    (hobjects : db'.objects = db.objects) : ObjectsSettled db' := by
  intro o ho
  rw [hobjects] at ho
  exact settled_put ht hput hid hkeep (h o ho)

theorem ObjectsSettled.settle {t new : AsyncImageTask} {actual : Int}
    (ht : db.tasks.find? t.taskID = some t) (hsettled : SettledAs db db' t new actual)
    (hid : new.taskID = t.taskID) (hbilling : new.billingStatus = .settled)
    (hobjects : t.billingStatus = .reserved →
      ∀ o ∈ db'.objects.rows, o ∈ db.objects.rows ∨ o.resourceID = t.taskID) :
    ObjectsSettled db' := by
  cases hsettled with
  | already _ hkeep =>
    rw [hkeep]
    exact h
  | now hreserved _ hput =>
    intro o ho
    obtain hold | hresource := hobjects hreserved o ho
    · exact settled_put ht hput hid (fun _ => hbilling) (h o hold)
    · rw [hresource, billingStatusOf, hput, Table.find?_put_of_find? ht new hid,
        Option.map_some, hbilling]

theorem ObjectsSettled.transaction {zone : Int} {c : Call}
    (hcall : c.transaction zone db = .ok db') : ObjectsSettled db' := by
  cases c with
  | submit now s =>
    obtain ⟨token, -, hcreate⟩ := submit_cases hcall
    obtain ⟨-, -, hobjects, f, a, -, -, hcreate⟩ := create_cases hcreate
    intro o ho
    rw [hobjects] at ho
    have hold := h o ho
    unfold billingStatusOf at hold ⊢
    rw [Table.find?_create hcreate]
    split
    next hkey =>
      rw [hkey, Table.create_fresh hcreate] at hold
      cases hold
    · exact hold
  | reserve taskID target =>
    obtain rfl | ⟨t, ht, hreserved, hobjects, -, hput⟩ := reserve_cases hcall
    · exact h
    · exact h.put ht hput rfl (fun hsettled => hsettled) hobjects
  | complete now taskID owner actual manifest sourceKind objects =>
    obtain ⟨t, ht, -, hsettled, hrecords⟩ := complete_cases hcall
    refine h.settle (find?_self ht) hsettled rfl rfl fun hreserved o ho => ?_
    exact createObjects_mem (hrecords hreserved).2 ho
  | completeWithArchiveFailure now taskID owner actual sourceKind errorCode errorMessage =>
    obtain ⟨t, ht, -, hsettled, hobjects⟩ := archiveFailure_cases hcall
    exact h.settle (find?_self ht) hsettled rfl rfl fun _ o ho => .inl (hobjects ▸ ho)
  | settle now taskID actual =>
    obtain ⟨t, ht, hsettled, hobjects⟩ := settleBilling_cases hcall
    exact h.settle (find?_self ht) hsettled rfl rfl fun _ o ho => .inl (hobjects ▸ ho)
  | refund now taskID errorCode errorMessage failureReason =>
    obtain ⟨t, ht, hobjects, ⟨-, rfl⟩ | ⟨hreserved, hput, -⟩⟩ := refund_cases hcall
    · exact h
    refine h.put (find?_self ht) hput rfl (fun hsettled => ?_) hobjects
    rw [hreserved] at hsettled
    cases hsettled
  | worker taskID l =>
    cases hcall
    cases hrow : db.tasks.find? taskID with
    | none =>
      intro o ho
      simpa [Table.modify, hrow] using h o ho
    | some t =>
      refine h.put (u := { t with lifecycle := l }) (find?_self hrow) ?_ rfl id rfl
      simp [Table.modify, hrow]

theorem ObjectsSettled.event {zone : Int} (e : Event) : ObjectsSettled (e.step zone db) := by
  cases e with
  | request r => exact h
  | call i =>
    show ObjectsSettled (AsyncImage.step zone db i)
    unfold AsyncImage.step
    split
    · exact h
    · exact commit_rule h fun db' hcall => h.transaction hcall

end

end Steps

/-- In every reachable state the refund and the settlements of a reserved task succeed exactly if
its accounts bear what is given back. -/
theorem reservation_closes_iff (zone : Int) (accounts : Accounts) (events : List Event) :
    let db := run (Event.step zone) (DB.start accounts .empty) events
    ∀ t, db.tasks.find? t.taskID = some t → t.billingStatus = .reserved →
      (∀ now errorCode errorMessage failureReason,
        (∃ db', refundAsyncImageBilling now db t.taskID errorCode errorMessage failureReason =
          .ok db') ↔ Covers db.accounts t (-t.reservedQuota)) ∧
      ∀ now actual, 0 ≤ actual → actual ≤ t.reservedQuota → ∀ s : Settlement, s.Proper t →
        ((∃ db', s.transaction now db t.taskID actual = .ok db') ↔
          Covers db.accounts t (actual - t.reservedQuota)) := by
  intro db t ht hreserved
  have hsettled : ObjectsSettled db := by
    refine run_invariant (C := fun _ _ => True) (Event.step zone) ObjectsSettled
      (fun _ e h _ => h.event e) ?_ ?_
    · intro o ho
      cases ho
    · exact Along.of_forall (Event.step zone) (fun _ _ => trivial) _ events
  have hfresh : ∀ row ∈ db.objects.rows, row.resourceID ≠ t.taskID := by
    intro row hrow hresource
    have hstatus := hsettled row hrow
    rw [hresource, billingStatusOf, ht, Option.map_some, hreserved] at hstatus
    cases hstatus
  refine ⟨fun now _ _ _ => refund_ok_iff ht hreserved now _ _ _, ?_⟩
  intro now actual hactual _ s hproper
  exact settlement_ok_iff ht hreserved now hactual s hproper hfresh

def sampleSubmission (billingPreference : String) : Submission :=
  ⟨1, "task_a", 30, false, billingPreference, [], "a", ⟨86400, 3, 3600⟩⟩

def sampleRunning : Lifecycle :=
  { Lifecycle.submitted 10 ⟨86400, 3, 3600⟩ [] "a" with
    status := .running, leaseOwner := "w", leaseExpiresAt := 400 }

def sampleStart (billingPreference : String) : List Event :=
  [.call ⟨.submit 10 (sampleSubmission billingPreference), false⟩,
    .call ⟨.worker "task_a" sampleRunning, false⟩]

def sampleSettlement : Settlement :=
  .generation "w" "[\x7b\"index\":0\x7d]" "base64"
    [⟨"img", "task_a", 0, "s3", .uploading, .available,
      ⟨"endpoint", "region", "bucket", ⟨"root", "img", 1, "2026/07/28", "task_a", 0, "png"⟩⟩, 0,
      ⟨1, "2026/07/28", "task_a", 0⟩⟩]

def sampleTask : AsyncImageTask :=
  { ((sampleSubmission "wallet_only").task 10 ⟨1, 1, 80, 0, false, Nat.one_pos⟩).row .wallet with
    lifecycle := sampleRunning }

theorem reservation_closes_sample :
    let db := run (Event.step 0) (DB.start sampleAccounts .empty) (sampleStart "wallet_only")
    (∃ db', refundAsyncImageBilling 20 db "task_a" "code" "message" "reason" = .ok db') ∧
      ∃ db', sampleSettlement.transaction 20 db "task_a" 12 = .ok db' := by
  have hclose := reservation_closes_iff 0 sampleAccounts (sampleStart "wallet_only") sampleTask
    (by decide) (by decide)
  constructor
  · refine (hclose.1 20 "code" "message" "reason").mpr ⟨.inr ?_, ?_⟩
    · exact ⟨⟨1, 70⟩, by decide, by decide⟩
    · exact .inr (.inr (.inr ⟨⟨1, 1, 50, 30, false, by decide⟩, by decide, by decide⟩))
  refine (hclose.2 20 12 (by decide) (by decide) sampleSettlement (by decide)).mpr
    ⟨.inr ?_, ?_⟩
  · exact ⟨⟨1, 70⟩, by decide, by decide⟩
  · exact .inr (.inr (.inr ⟨⟨1, 1, 50, 30, false, by decide⟩, by decide, by decide⟩))

def errorOf : Except Error DB → Option Error
  | .ok _ => none
  | .error e => some e

/-- Neither the refund nor a lower settlement succeeds: the subscription was reset, the token
deleted, or the wallet overdrawn. -/
theorem reservation_not_closed :
    (let db := run (Event.step 0) (DB.start sampleAccounts .empty)
      (sampleStart "" ++ [.request (.resetUserSubscription 900001 1)])
     billingStatusOf db "task_a" = some .reserved ∧
      errorOf (refundAsyncImageBilling 900002 db "task_a" "code" "message" "reason") =
        some .subscriptionRefundExceedsUsed ∧
      errorOf (sampleSettlement.transaction 900002 db "task_a" 12) =
        some .subscriptionRefundExceedsUsed) ∧
    (let db := run (Event.step 0) (DB.start sampleAccounts .empty)
      (sampleStart "" ++ [.request (.deleteToken 1)])
     billingStatusOf db "task_a" = some .reserved ∧
      errorOf (refundAsyncImageBilling 20 db "task_a" "code" "message" "reason") =
        some .recordNotFound ∧
      errorOf (sampleSettlement.transaction 20 db "task_a" 12) = some .recordNotFound) ∧
    (let db := run (Event.step 0) (DB.start sampleAccounts .empty)
      (sampleStart "wallet_only" ++ [.request (.decreaseUserQuota 1 200)])
     billingStatusOf db "task_a" = some .reserved ∧
      errorOf (refundAsyncImageBilling 20 db "task_a" "code" "message" "reason") =
        some (.userShort (-30)) ∧
      errorOf (sampleSettlement.transaction 20 db "task_a" 12) = some (.userShort (-18))) := by
  decide +kernel

end ZModel.AsyncImage
