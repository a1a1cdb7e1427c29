import ZModel.AsyncImage.Transactions
import ZModel.Lib.Run
import ZModel.Store.Balance

/-!
# Asynchronous image billing conserves quota

`Transition` says what a committed transaction can do to the charge that a task holds;
`transaction_transition` that every transaction does one of these things.
-/

namespace ZModel.AsyncImage

open Lib Store Subscription

variable {a a' a₁ : Accounts} {t : AsyncImageTask} {r : ChargeRequest} {db db' : DB} {f : Funding}
  {actual now zone δ : Int} {preference taskID : String}

def AsyncImageTask.currentCharge (t : AsyncImageTask) : Int :=
  match t.billingStatus with
  | .reserved => t.reservedQuota
  | .settled => t.actualQuota
  | .refunded => 0

def AsyncImageTask.fundingAccount (t : AsyncImageTask) : Account :=
  if t.subscriptionFunded then .subscription t.subscriptionID else .wallet t.userID

def charging : Charging AsyncImageTask Account where
  charge := AsyncImageTask.currentCharge
  draws t acc := acc == t.fundingAccount || (!t.tokenUnlimited && acc == .token t.tokenID)

def tokenFixed (a : Accounts) (k : Nat) : Option (Bool × Int) :=
  (a.tokens.find? k).map fun t => (t.unlimitedQuota, t.remainQuota + t.usedQuota)

structure Moved (t : AsyncImageTask) (δ : Int) (a a' : Accounts) : Prop where
  takes : charging.Takes t δ (balance a) (balance a')
  tokens : tokenFixed a' = tokenFixed a

theorem tokenFixed_saveToken {t : Token} (ht : a.tokens.find? t.id = some t) (t' : Token)
    (hid : t'.id = t.id) (hunlimited : t'.unlimitedQuota = t.unlimitedQuota)
    (hsum : t'.remainQuota + t'.usedQuota = t.remainQuota + t.usedQuota) :
    tokenFixed (a.saveToken t') = tokenFixed a := by
  funext k
  simp only [tokenFixed, Accounts.saveToken]
  by_cases h : k = t.id
  · subst h
    rw [Table.find?_put_of_find? ht t' hid, ht, Option.map_some, Option.map_some, hunlimited, hsum]
  · rw [Table.find?_put_of_ne (by rw [key_token, hid]; exact h)]

theorem tokenFixed_of_tokens (h : a'.tokens = a.tokens) : tokenFixed a' = tokenFixed a := by
  funext k
  simp only [tokenFixed, h]

theorem adjustFunding_spec (h : adjustAsyncImageFunding a t δ = .ok a') :
    TakesFrom t.fundingAccount δ a a' ∧ a'.tokens = a.tokens := by
  unfold adjustAsyncImageFunding at h
  split at h
  next hδ =>
    cases h
    subst hδ
    exact ⟨takesFrom_zero _ a, rfl⟩
  split at h
  next hfunded =>
    rw [AsyncImageTask.fundingAccount, if_pos hfunded]
    split at h
    · cases h
    rename_i s hs
    have hid : s.id = t.subscriptionID := Table.find?_key hs
    rw [← hid] at hs ⊢
    split at h
    · cases h
    split at h
    · cases h
    cases h
    refine ⟨takesFrom_used rfl rfl fun id => ?_, rfl⟩
    rw [Accounts.subscriptionUsed_save hs (s.setUsed (s.amountUsed + δ) _) rfl id]
    simp
  rename_i hwallet
  rw [AsyncImageTask.fundingAccount, if_neg hwallet]
  split at h
  · cases h
  rename_i u hu
  have hid : u.id = t.userID := Table.find?_key hu
  rw [← hid] at hu ⊢
  split at h
  · cases h
  · cases h
    exact ⟨takesFrom_saveUser hu _ rfl rfl, rfl⟩

theorem adjustToken_spec (h : adjustAsyncImageToken a t δ = .ok a') :
    TakesFrom (.token t.tokenID) (tokenPart t.tokenUnlimited δ) a a' ∧
      tokenFixed a' = tokenFixed a := by
  unfold adjustAsyncImageToken at h
  split at h
  next hskip =>
    cases h
    refine ⟨?_, rfl⟩
    obtain rfl | hunlimited | hzero := hskip
    · simpa [tokenPart] using takesFrom_zero (.token t.tokenID) a
    · simpa [tokenPart, hunlimited] using takesFrom_zero (.token t.tokenID) a
    · rw [hzero]
      exact takesFrom_token_zero a _
  rename_i hskip
  split at h
  · cases h
  rename_i token ht
  have hid : token.id = t.tokenID := Table.find?_key ht
  rw [← hid] at ht ⊢
  have hpart : tokenPart t.tokenUnlimited δ = δ := by
    simp only [not_or] at hskip
    simp [tokenPart, hskip.2.1]
  rw [hpart]
  split at h
  · cases h
  split at h
  · cases h
  cases h
  refine ⟨takesFrom_saveToken ht _ rfl rfl, tokenFixed_saveToken ht _ rfl rfl ?_⟩
  simp only
  omega

theorem moved_of_takesFrom {a₂ a₃ : Accounts} (hfunding : TakesFrom t.fundingAccount δ a₁ a₂)
    (htoken : TakesFrom (.token t.tokenID) (tokenPart t.tokenUnlimited δ) a₂ a₃)
    (hfixed : tokenFixed a₃ = tokenFixed a₁) : Moved t δ a₁ a₃ := by
  refine ⟨fun acc => ?_, hfixed⟩
  have hne : Account.token t.tokenID ≠ t.fundingAccount := by
    unfold AsyncImageTask.fundingAccount
    split <;> simp
  rw [htoken acc, hfunding acc, Option.map_map]
  congr 1
  funext x
  simp only [charging, tokenPart]
  by_cases hacc : acc = .token t.tokenID
  · subst hacc
    by_cases hunlimited : t.tokenUnlimited = true <;> simp [hne, hunlimited]
  · simp [hacc]

theorem adjustTo_spec {quota : Int} (h : adjustTo a t quota = .ok a') :
    Moved t (quota - t.reservedQuota) a a' := by
  obtain ⟨a₁, hfunding, htoken⟩ := bind_eq_ok.mp h
  obtain ⟨htakes, htokens⟩ := adjustFunding_spec hfunding
  obtain ⟨htakes', hfixed⟩ := adjustToken_spec htoken
  have hpart : tokenPart t.tokenUnlimited
      (tokenPart t.tokenUnlimited quota - t.tokenReservedQuota) =
      tokenPart t.tokenUnlimited (quota - t.reservedQuota) := by
    rw [t.token_reserved]
    cases t.tokenUnlimited <;> simp [tokenPart]
  rw [hpart] at htakes'
  exact moved_of_takesFrom htakes htakes' (hfixed.trans (tokenFixed_of_tokens htokens))

theorem refund_spec (hfunding : adjustAsyncImageFunding a t (-t.reservedQuota) = .ok a₁)
    (htoken : adjustAsyncImageToken (refundRecord a₁ t) t (-t.tokenReservedQuota) = .ok a') :
    Moved t (-t.reservedQuota) a a' := by
  obtain ⟨htakes, htokens⟩ := adjustFunding_spec hfunding
  obtain ⟨htakes', hfixed⟩ := adjustToken_spec htoken
  have hrecord : balance (refundRecord a₁ t) = balance a₁ ∧
      (refundRecord a₁ t).tokens = a₁.tokens := by
    unfold refundRecord
    split <;> exact ⟨rfl, rfl⟩
  have hpart : tokenPart t.tokenUnlimited (-t.tokenReservedQuota) =
      tokenPart t.tokenUnlimited (-t.reservedQuota) := by
    rw [t.token_reserved]
    by_cases hunlimited : t.tokenUnlimited = true <;> simp [tokenPart, hunlimited]
  rw [hpart] at htakes'
  refine moved_of_takesFrom htakes ?_ (hfixed.trans ?_)
  · intro acc
    rw [htakes' acc, hrecord.1]
  · exact tokenFixed_of_tokens (hrecord.2.trans htokens)

theorem tryWallet_spec (h : tryWallet a r = .ok (f, a')) :
    f = .wallet ∧ TakesFrom (.wallet r.userId) r.amount a a' ∧ a'.tokens = a.tokens := by
  unfold tryWallet at h
  split at h
  · cases h
  rename_i u hu
  have hid : u.id = r.userId := Table.find?_key hu
  rw [← hid] at hu ⊢
  split at h
  · cases h
  · cases h
    exact ⟨rfl, takesFrom_saveUser hu _ rfl rfl, rfl⟩

def Funding.account (f : Funding) (userID : Nat) : Account :=
  match f.source with
  | .subscription => .subscription f.subscriptionID
  | .wallet => .wallet userID

theorem trySubscription_spec {c : Charged} (hdue : NoResetDue zone now a r.userId)
    (h : trySubscription zone now a r = .ok c) :
    c.accounts.tokens = a.tokens ∧ c.accounts.users = a.users ∧
      ∀ id, c.accounts.subscriptionUsed id = (a.subscriptionUsed id).map (· + c.taken r id) := by
  unfold trySubscription at h
  split at h
  · cases h
  rename_i c' hc
  cases h
  obtain ⟨hframe, hused⟩ := walk_of_not_due hdue hc
  exact ⟨hframe.tokens, hframe.users, hused⟩

def Reserves (r : ChargeRequest) (a : Accounts) (f : Funding) (a' : Accounts) : Prop :=
  TakesFrom (f.account r.userId) r.amount a a' ∧ a'.tokens = a.tokens

theorem reserves_subscription {s : UserSubscription} (hdue : NoResetDue zone now a r.userId)
    (h : trySubscription zone now a r = .ok (.charged s a')) :
    Reserves r a (.subscription s) a' := by
  obtain ⟨htokens, husers, hused⟩ := trySubscription_spec hdue h
  exact ⟨takesFrom_used husers htokens hused, htokens⟩

theorem reserves_chargedFunding (hdue : NoResetDue zone now a r.userId)
    (h : (trySubscription zone now a r >>= chargedFunding) = .ok (f, a')) :
    Reserves r a f a' := by
  obtain ⟨c, hc, hf⟩ := bind_eq_ok.mp h
  cases c with
  | exhausted a₁ => cases hf
  | charged s a₁ =>
    cases hf
    exact reserves_subscription hdue hc

theorem reserves_tryWallet (h : tryWallet a r = .ok (f, a')) : Reserves r a f a' := by
  obtain ⟨rfl, htakes, htokens⟩ := tryWallet_spec h
  exact ⟨htakes, htokens⟩

theorem reserves_overflow (hdue : NoResetDue zone now a r.userId)
    (hwalk : trySubscription zone now a r = .ok (.exhausted a₁))
    (h : tryWallet a₁ r = .ok (f, a')) : Reserves r a f a' := by
  obtain ⟨htokens, husers, hused⟩ := trySubscription_spec hdue hwalk
  obtain ⟨htakes, htokens'⟩ := reserves_tryWallet h
  refine ⟨fun acc => ?_, htokens'.trans htokens⟩
  have hsame : TakesFrom (.subscription 0) 0 a a₁ :=
    takesFrom_used husers htokens fun id => by
      simpa [Charged.accounts, Charged.taken] using hused id
  rw [htakes acc, hsame acc]
  simp

theorem reserveFunding_spec (hdue : NoResetDue zone now a r.userId)
    (h : reserveAsyncImageFunding zone now a r preference = .ok (f, a')) : Reserves r a f a' := by
  unfold reserveAsyncImageFunding at h
  split at h
  · exact reserves_tryWallet h
  · exact reserves_chargedFunding hdue h
  · split at h
    next hwallet =>
      cases h
      exact reserves_tryWallet hwallet
    · split at h
      · exact reserves_chargedFunding hdue h
      · cases h
  split at h
  · cases h
  next hwalk =>
    cases h
    exact reserves_subscription hdue hwalk
  rename_i hwalk
  simp only at h
  split at h
  · exact reserves_overflow hdue hwalk h
  split at h
  · cases h
  · exact reserves_overflow hdue hwalk h

theorem reserveToken_spec {t : NewTask} (h : reserveTokenFor a t = .ok a')
    (hnonneg : 0 ≤ t.tokenReservedQuota) :
    TakesFrom (.token t.tokenID) t.tokenReservedQuota a a' ∧ tokenFixed a' = tokenFixed a := by
  unfold reserveTokenFor at h
  split at h
  · split at h
    · cases h
    next token ht =>
      have hid : token.id = t.tokenID := Table.find?_key ht
      rw [← hid] at ht ⊢
      split at h
      · cases h
      split at h
      · cases h
      cases h
      refine ⟨takesFrom_saveToken ht _ rfl rfl, tokenFixed_saveToken ht _ rfl rfl ?_⟩
      simp only
      omega
  rename_i hskip
  cases h
  refine ⟨?_, rfl⟩
  by_cases hzero : t.tokenReservedQuota = 0
  · rw [hzero]
    exact takesFrom_zero _ a
  -- A positive reservation was skipped: the token is limited, so there is no token id.
  have hlimited : t.tokenUnlimited = false := by
    by_contra hunlimited
    apply hzero
    rw [t.token_reserved]
    simp [tokenPart, hunlimited]
  have hid : t.tokenID = 0 := by
    by_contra hid
    exact hskip ⟨by omega, hlimited, Nat.pos_of_ne_zero hid⟩
  rw [hid]
  exact takesFrom_token_zero a _

theorem fundingAccount_row (t : NewTask) (f : Funding) :
    (t.row f).fundingAccount = f.account t.userID := by
  obtain ⟨source, id, hnamed⟩ := f
  cases source with
  | wallet => rfl
  | subscription =>
    have hpos : 0 < id := hnamed rfl
    simp [AsyncImageTask.fundingAccount, AsyncImageTask.subscriptionFunded, NewTask.row,
      Funding.account, hpos]

theorem reserveFundingFor_spec {t : NewTask} (hdue : NoResetDue zone now a t.userID)
    (hnonneg : 0 ≤ t.reservedQuota) (h : reserveFundingFor zone now a t preference = .ok (f, a')) :
    TakesFrom (t.row f).fundingAccount t.reservedQuota a a' ∧ a'.tokens = a.tokens := by
  rw [fundingAccount_row]
  unfold reserveFundingFor at h
  split at h
  · exact reserveFunding_spec hdue h
  rename_i hpos
  cases h
  have hzero : t.reservedQuota = 0 := by omega
  rw [hzero]
  exact ⟨takesFrom_zero _ a, rfl⟩

/-! ## What a transaction can do -/

structure SameParties (old new : AsyncImageTask) : Prop where
  taskID : new.taskID = old.taskID
  userID : new.userID = old.userID
  tokenID : new.tokenID = old.tokenID
  tokenUnlimited : new.tokenUnlimited = old.tokenUnlimited
  billingSource : new.billingSource = old.billingSource
  subscriptionID : new.subscriptionID = old.subscriptionID

theorem SameParties.draws {old new : AsyncImageTask} (h : SameParties old new) :
    charging.draws new = charging.draws old := by
  have hfunded : new.subscriptionFunded = old.subscriptionFunded := by
    simp [AsyncImageTask.subscriptionFunded, h.billingSource, h.subscriptionID]
  funext acc
  simp only [charging, AsyncImageTask.fundingAccount, hfunded, h.userID, h.tokenID,
    h.tokenUnlimited, h.subscriptionID]

/-- What a committed transaction does to the tasks and the accounts; only a reserved task changes
its billing status. -/
inductive Transition (db db' : DB) : Prop where
  | keep (htasks : db'.tasks = db.tasks) (haccounts : db'.accounts = db.accounts)
  | create (t : AsyncImageTask) (token : Token)
      (hcreate : db.tasks.create t = some db'.tasks)
      (hreserved : t.billingStatus = .reserved)
      (hmoved : Moved t t.currentCharge db.accounts db'.accounts)
      (htoken : db.accounts.tokens.find? t.tokenID = some token)
      (hunlimited : token.unlimitedQuota = t.tokenUnlimited)
  | rewrite (old new : AsyncImageTask)
      (hold : db.tasks.find? old.taskID = some old)
      (hput : db'.tasks = db.tasks.put new)
      (hparties : SameParties old new)
      (hmoved : Moved old (new.currentCharge - old.currentCharge) db.accounts db'.accounts)
      (hstatus : old.billingStatus = .reserved ∨ new.billingStatus = old.billingStatus)

theorem moved_zero (t : AsyncImageTask) (a : Accounts) : Moved t 0 a a := by
  refine ⟨fun acc => ?_, rfl⟩
  cases balance a acc <;> simp

theorem settle_transition {l : Lifecycle} (ht : db.tasks.find? t.taskID = some t)
    (h : SettledAs db db' t (t.settle now actual l) actual) : Transition db db' := by
  cases h with
  | already _ hkeep => exact .keep (by rw [hkeep]) (by rw [hkeep])
  | now hreserved hadjust hput =>
    refine .rewrite t (t.settle now actual l) ht hput ⟨rfl, rfl, rfl, rfl, rfl, rfl⟩ ?_
      (.inl hreserved)
    have hcharge : (t.settle now actual l).currentCharge - t.currentCharge =
        actual - t.reservedQuota := by
      simp [AsyncImageTask.currentCharge, AsyncImageTask.settle, hreserved]
    rw [hcharge]
    exact adjustTo_spec hadjust

def NoReset (zone : Int) (db : DB) (i : Issued) : Prop :=
  match i.call with
  | .submit now s =>
    match db.accounts.tokens.find? s.tokenID with
    | some token => NoResetDue zone now db.accounts token.userId
    | none => True
  | _ => True

instance (zone : Int) (db : DB) (i : Issued) : Decidable (NoReset zone db i) := by
  unfold NoReset
  split
  · split <;> infer_instance
  · infer_instance

theorem create_transition {t : NewTask} {token : Token}
    (hdue : NoResetDue zone now db.accounts t.userID)
    (htoken : db.accounts.tokens.find? t.tokenID = some token)
    (hunlimited : token.unlimitedQuota = t.tokenUnlimited)
    (h : createAsyncImageTaskWithReservation zone now db t preference = .ok db') :
    Transition db db' := by
  obtain ⟨hreserved, htokenReserved, -, f, a, hfunding, htok, hcreate⟩ := create_cases h
  refine .create (t.row f) token hcreate rfl ?_ htoken hunlimited
  obtain ⟨htakes, htokens⟩ := reserveFundingFor_spec hdue hreserved hfunding
  obtain ⟨htakes', hfixed⟩ := reserveToken_spec htok htokenReserved
  have hpart : t.tokenReservedQuota = tokenPart t.tokenUnlimited t.reservedQuota := t.token_reserved
  rw [hpart] at htakes'
  exact moved_of_takesFrom htakes htakes' (hfixed.trans (tokenFixed_of_tokens htokens))

theorem reserve_transition {target : Int}
    (h : reserveAsyncImageBilling db taskID target = .ok db') : Transition db db' := by
  obtain rfl | ⟨t, ht, hreserved, -, hadjust, hput⟩ := reserve_cases h
  · exact .keep rfl rfl
  · refine .rewrite t _ ht hput ⟨rfl, rfl, rfl, rfl, rfl, rfl⟩ ?_ (.inl hreserved)
    simpa [AsyncImageTask.currentCharge, hreserved] using adjustTo_spec hadjust

theorem find?_self {tasks : Table AsyncImageTask} (h : tasks.find? taskID = some t) :
    tasks.find? t.taskID = some t := by
  rw [show t.taskID = taskID from Table.find?_key h]
  exact h

theorem settleBilling_transition (h : settleAsyncImageBilling now db taskID actual = .ok db') :
    Transition db db' := by
  obtain ⟨t, ht, hsettled, -⟩ := settleBilling_cases h
  exact settle_transition (find?_self ht) hsettled

theorem complete_transition {owner : String} {manifest sourceKind : String}
    {objects : List StorageObject}
    (h : completeAsyncImageGeneration now db taskID owner actual manifest sourceKind objects =
      .ok db') : Transition db db' := by
  obtain ⟨t, ht, -, hsettled, -⟩ := complete_cases h
  exact settle_transition (find?_self ht) hsettled

theorem archiveFailure_transition {owner : String} {sourceKind errorCode errorMessage : String}
    (h : completeAsyncImageGenerationWithArchiveFailure now db taskID owner actual sourceKind
      errorCode errorMessage = .ok db') : Transition db db' := by
  obtain ⟨t, ht, -, hsettled, -⟩ := archiveFailure_cases h
  exact settle_transition (find?_self ht) hsettled

theorem refund_transition {errorCode errorMessage failureReason : String}
    (h : refundAsyncImageBilling now db taskID errorCode errorMessage failureReason = .ok db') :
    Transition db db' := by
  obtain ⟨t, ht, -, ⟨-, rfl⟩ | ⟨hreserved, hput, a, hfunding, htoken⟩⟩ := refund_cases h
  · exact .keep rfl rfl
  refine .rewrite t _ (find?_self ht) hput ⟨rfl, rfl, rfl, rfl, rfl, rfl⟩ ?_ (.inl hreserved)
  simpa [AsyncImageTask.currentCharge, AsyncImageTask.refunded, hreserved] using
    refund_spec hfunding htoken

theorem worker_transition (db : DB) (taskID : String) (l : Lifecycle) : Transition db
      { db with tasks := db.tasks.modify taskID fun t => { t with lifecycle := l } } := by
  cases hrow : db.tasks.find? taskID with
  | none => exact .keep (by simp [Table.modify, hrow]) rfl
  | some t =>
    have hid : t.taskID = taskID := Table.find?_key hrow
    refine .rewrite t { t with lifecycle := l } (by rw [hid]; exact hrow)
      (by simp [Table.modify, hrow]) ⟨rfl, rfl, rfl, rfl, rfl, rfl⟩ ?_ (.inr rfl)
    have hcharge : ({ t with lifecycle := l } : AsyncImageTask).currentCharge =
        t.currentCharge := rfl
    rw [hcharge, Int.sub_self]
    exact moved_zero t db.accounts

theorem transaction_transition {i : Issued} (hreset : NoReset zone db i)
    (h : i.call.transaction zone db = .ok db') : Transition db db' := by
  obtain ⟨call, aborted⟩ := i
  cases call with
  | submit now s =>
    obtain ⟨token, htoken, h⟩ := submit_cases h
    have hid : token.id = s.tokenID := Table.find?_key htoken
    simp only [NoReset, htoken] at hreset
    rw [← hid] at htoken
    exact create_transition hreset htoken rfl h
  | reserve => exact reserve_transition h
  | complete => exact complete_transition h
  | completeWithArchiveFailure => exact archiveFailure_transition h
  | settle => exact settleBilling_transition h
  | refund => exact refund_transition h
  | worker taskID l =>
    cases h
    exact worker_transition db taskID l

theorem step_transition {i : Issued} (hreset : NoReset zone db i) :
    Transition db (step zone db i) := by
  unfold step
  split
  · exact .keep rfl rfl
  · exact commit_rule (.keep rfl rfl) fun db' h => transaction_transition hreset h

end ZModel.AsyncImage
