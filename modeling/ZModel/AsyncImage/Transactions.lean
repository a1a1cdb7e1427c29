import ZModel.AsyncImage.Billing

/-!
# What a billing transaction leaves when it commits

One inversion per transaction: the row it found, and the database after it.
-/

namespace ZModel.AsyncImage

open Lib Store

def AsyncImageTask.leasedTo (t : AsyncImageTask) (owner : String) : Prop :=
  owner = "" ∨ t.lifecycle.leaseOwner = owner

variable {t : AsyncImageTask}

theorem findTask_eq_ok_iff {db : DB} {taskID owner : String} :
    findTask db taskID owner = .ok t ↔ db.tasks.find? taskID = some t ∧ t.leasedTo owner := by
  unfold findTask AsyncImageTask.leasedTo
  cases hrow : db.tasks.find? taskID with
  | none => simp
  | some row =>
    dsimp only
    split
    next hforeign =>
      simp only [reduceCtorEq, Option.some.injEq, false_iff, not_and, not_or]
      rintro rfl
      exact hforeign
    rename_i hleased
    simp only [Except.ok.injEq, Option.some.injEq, iff_self_and]
    rintro rfl
    by_cases howner : owner = ""
    · exact .inl howner
    · exact .inr (Decidable.not_not.mp fun hne => hleased ⟨howner, hne⟩)

theorem findTask_ok {db : DB} {taskID owner : String}
    (h : findTask db taskID owner = .ok t) : db.tasks.find? t.taskID = some t := by
  obtain ⟨hrow, -⟩ := findTask_eq_ok_iff.mp h
  rw [show t.taskID = taskID from Table.find?_key hrow]
  exact hrow

theorem updateReserved_eq {tasks : Table AsyncImageTask}
    (ht : tasks.find? t.taskID = some t) (hreserved : t.billingStatus = .reserved)
    (f : AsyncImageTask → AsyncImageTask) :
    updateReserved tasks t f = (1, tasks.put (f t)) := by
  simp [updateReserved, ht, hreserved]

section Inversions

variable {db db' : DB} {taskID owner : String} {now actual : Int}

inductive SettledAs (db db' : DB) (t new : AsyncImageTask) (actual : Int) : Prop where
  | already (hbilling : t.billingStatus = .settled) (hkeep : db' = db)
  | now (hbilling : t.billingStatus = .reserved)
      (hadjust : adjustTo db.accounts t actual = .ok db'.accounts)
      (hput : db'.tasks = db.tasks.put new)

theorem complete_cases {manifest sourceKind : String} {objects : List StorageObject}
    (h : completeAsyncImageGeneration now db taskID owner actual manifest sourceKind objects =
      .ok db') :
    ∃ t, db.tasks.find? taskID = some t ∧ t.leasedTo owner ∧
      SettledAs db db' t (t.completed now actual manifest sourceKind) actual ∧
      (t.billingStatus = .reserved → t.lifecycle.status = .running ∧
        createObjects t objects db.objects = .ok db'.objects) := by
  unfold completeAsyncImageGeneration at h
  split at h
  · cases h
  split at h
  · cases h
  obtain ⟨t, ht, h⟩ := bind_eq_ok.mp h
  obtain ⟨hrow, hleased⟩ := findTask_eq_ok_iff.mp ht
  refine ⟨t, hrow, hleased, ?_⟩
  split at h
  next hbilling =>
    cases h
    exact ⟨.already hbilling rfl, fun hreserved => by rw [hbilling] at hreserved; cases hreserved⟩
  · cases h
  rename_i hbilling
  split at h
  · cases h
  rename_i hrunning
  obtain ⟨a', hadjust, h⟩ := bind_eq_ok.mp h
  obtain ⟨objects', hobjects, h⟩ := bind_eq_ok.mp h
  rw [updateReserved_eq (findTask_ok ht) hbilling] at h
  cases h
  exact ⟨.now hbilling hadjust rfl, fun _ => ⟨Decidable.not_not.mp hrunning, hobjects⟩⟩

theorem archiveFailure_cases {sourceKind errorCode errorMessage : String}
    (h : completeAsyncImageGenerationWithArchiveFailure now db taskID owner actual sourceKind
      errorCode errorMessage = .ok db') :
    ∃ t, db.tasks.find? taskID = some t ∧ t.leasedTo owner ∧
      SettledAs db db' t (t.completedUnarchived now actual sourceKind errorCode errorMessage)
        actual ∧ db'.objects = db.objects := by
  unfold completeAsyncImageGenerationWithArchiveFailure at h
  split at h
  · cases h
  obtain ⟨t, ht, h⟩ := bind_eq_ok.mp h
  obtain ⟨hrow, hleased⟩ := findTask_eq_ok_iff.mp ht
  refine ⟨t, hrow, hleased, ?_⟩
  split at h
  next hbilling =>
    cases h
    exact ⟨.already hbilling rfl, rfl⟩
  · cases h
  rename_i hbilling
  obtain ⟨a', hadjust, h⟩ := bind_eq_ok.mp h
  rw [updateReserved_eq (findTask_ok ht) hbilling] at h
  cases h
  exact ⟨.now hbilling hadjust rfl, rfl⟩

theorem settleBilling_cases (h : settleAsyncImageBilling now db taskID actual = .ok db') :
    ∃ t, db.tasks.find? taskID = some t ∧
      SettledAs db db' t (t.settle now actual t.lifecycle) actual ∧ db'.objects = db.objects := by
  unfold settleAsyncImageBilling at h
  split at h
  · cases h
  obtain ⟨t, ht, h⟩ := bind_eq_ok.mp h
  refine ⟨t, (findTask_eq_ok_iff.mp ht).1, ?_⟩
  split at h
  next hbilling =>
    cases h
    exact ⟨.already hbilling rfl, rfl⟩
  · cases h
  rename_i hbilling
  obtain ⟨a', hadjust, h⟩ := bind_eq_ok.mp h
  rw [updateReserved_eq (findTask_ok ht) hbilling] at h
  cases h
  exact ⟨.now hbilling hadjust rfl, rfl⟩

theorem refund_cases {errorCode errorMessage failureReason : String}
    (h : refundAsyncImageBilling now db taskID errorCode errorMessage failureReason = .ok db') :
    ∃ t, db.tasks.find? taskID = some t ∧ db'.objects = db.objects ∧
      (t.billingStatus = .refunded ∧ db' = db ∨ t.billingStatus = .reserved ∧
          db'.tasks = db.tasks.put (t.refunded now errorCode errorMessage failureReason) ∧
          ∃ a, adjustAsyncImageFunding db.accounts t (-t.reservedQuota) = .ok a ∧
            adjustAsyncImageToken (refundRecord a t) t (-t.tokenReservedQuota) =
              .ok db'.accounts) := by
  obtain ⟨t, ht, h⟩ := bind_eq_ok.mp h
  refine ⟨t, (findTask_eq_ok_iff.mp ht).1, ?_⟩
  split at h
  next hbilling =>
    cases h
    exact ⟨rfl, .inl ⟨hbilling, rfl⟩⟩
  · cases h
  rename_i hbilling
  obtain ⟨a, hfunding, h⟩ := bind_eq_ok.mp h
  obtain ⟨a', htoken, h⟩ := bind_eq_ok.mp h
  rw [updateReserved_eq (findTask_ok ht) hbilling] at h
  cases h
  exact ⟨rfl, .inr ⟨hbilling, rfl, a, hfunding, htoken⟩⟩

theorem reserve_cases {target : Int} (h : reserveAsyncImageBilling db taskID target = .ok db') :
    db' = db ∨ ∃ t, db.tasks.find? t.taskID = some t ∧ t.billingStatus = .reserved ∧
        db'.objects = db.objects ∧ adjustTo db.accounts t target = .ok db'.accounts ∧
        db'.tasks = db.tasks.put { t with
          reservedQuota := target, tokenReservedQuota := tokenPart t.tokenUnlimited target
          token_reserved := rfl } := by
  unfold reserveAsyncImageBilling at h
  split at h
  · cases h
  obtain ⟨t, ht, h⟩ := bind_eq_ok.mp h
  split at h
  · cases h
    exact .inl rfl
  rename_i hopen
  simp only [not_or, Decidable.not_not] at hopen
  obtain ⟨a', hadjust, h⟩ := bind_eq_ok.mp h
  cases h
  exact .inr ⟨t, findTask_ok ht, hopen.1, rfl, hadjust, rfl⟩

theorem create_cases {zone : Int} {t : NewTask} {preference : String}
    (h : createAsyncImageTaskWithReservation zone now db t preference = .ok db') :
    0 ≤ t.reservedQuota ∧ 0 ≤ t.tokenReservedQuota ∧ db'.objects = db.objects ∧
      ∃ f a, reserveFundingFor zone now db.accounts t preference = .ok (f, a) ∧
        reserveTokenFor a t = .ok db'.accounts ∧ db.tasks.create (t.row f) = some db'.tasks := by
  unfold createAsyncImageTaskWithReservation at h
  split at h
  · cases h
  split at h
  · cases h
  rename_i hnonneg
  simp only [not_or, Int.not_lt] at hnonneg
  obtain ⟨⟨f, a⟩, hfunding, h⟩ := bind_eq_ok.mp h
  obtain ⟨a', htoken, h⟩ := bind_eq_ok.mp h
  split at h
  · cases h
  rename_i tasks hcreate
  cases h
  exact ⟨hnonneg.1, hnonneg.2, rfl, f, a, hfunding, htoken, hcreate⟩

theorem submit_cases {zone : Int} {s : Submission} (h : submit zone now db s = .ok db') :
    ∃ token, db.accounts.tokens.find? s.tokenID = some token ∧
      createAsyncImageTaskWithReservation zone now db (s.task now token) s.billingPreference =
        .ok db' := by
  unfold submit at h
  split at h
  · cases h
  next token htoken =>
    exact ⟨token, htoken, h⟩

end Inversions

end ZModel.AsyncImage
