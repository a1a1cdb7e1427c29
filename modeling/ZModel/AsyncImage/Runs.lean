import ZModel.AsyncImage.Conservation

/-!
# Runs of asynchronous image billing

For every sequence of calls in which no subscription begins a new period, each account keeps the sum
of its balance and the charges of its tasks.
-/

namespace ZModel.AsyncImage

open Lib Store Subscription

variable {db db' : DB}

def walletCharges (db : DB) (user : Nat) : Int :=
  db.tasks.sum fun t =>
    if t.userID = user ∧ t.subscriptionFunded = false then t.currentCharge else 0

def subscriptionCharges (db : DB) (id : Nat) : Int :=
  db.tasks.sum fun t =>
    if t.subscriptionFunded = true ∧ t.subscriptionID = id then t.currentCharge else 0

def tokenCharges (db : DB) (id : Nat) : Int :=
  db.tasks.sum fun t => if t.tokenID = id then t.currentCharge else 0

def walletTotal (db : DB) (user : Nat) : Option Int :=
  (db.accounts.userQuota user).map (· + walletCharges db user)

def subscriptionRest (db : DB) (id : Nat) : Option Int :=
  (db.accounts.subscriptionUsed id).map (· - subscriptionCharges db id)

def tokenTotal (db : DB) (id : Nat) : Option Int :=
  (db.accounts.tokenRemain id).map (· + tokenCharges db id)

def tokenSum (db : DB) (id : Nat) : Option Int :=
  (db.accounts.tokens.find? id).map fun t => t.remainQuota + t.usedQuota

def LimitedToken (db : DB) (id : Nat) : Prop :=
  ∃ token, db.accounts.tokens.find? id = some token ∧ token.unlimitedQuota = false

def total (db : DB) (acc : Account) : Option Int :=
  charging.total (balance db.accounts) db.tasks acc

def TokensAgree (db : DB) : Prop :=
  db.tasks.All fun t => ∀ fixed, tokenFixed db.accounts t.tokenID = some fixed →
    fixed.1 = t.tokenUnlimited

theorem Transition.tokenFixed (h : Transition db db') :
    tokenFixed db'.accounts = tokenFixed db.accounts := by
  cases h with
  | keep _ haccounts => rw [haccounts]
  | create t token _ _ hmoved => exact hmoved.tokens
  | rewrite old new _ _ _ hmoved => exact hmoved.tokens

theorem Transition.total (h : Transition db db') (acc : Account) :
    total db' acc = total db acc := by
  unfold AsyncImage.total
  cases h with
  | keep htasks haccounts => rw [htasks, haccounts]
  | create t token hcreate _ hmoved => exact charging.total_create hcreate hmoved.takes acc
  | rewrite old new hold hput hparties hmoved =>
    rw [hput]
    exact charging.total_put hold hparties.taskID hparties.draws hmoved.takes acc

theorem Transition.tokensAgree (h : Transition db db') (hagree : TokensAgree db) :
    TokensAgree db' := by
  unfold TokensAgree
  rw [h.tokenFixed]
  cases h with
  | keep htasks => rw [htasks]; exact hagree
  | create t token hcreate _ _ htoken hunlimited =>
    refine hagree.create (fun fixed hfixed => ?_) hcreate
    simp only [AsyncImage.tokenFixed, htoken, Option.map_some, Option.some.injEq] at hfixed
    rw [← hfixed]
    exact hunlimited
  | rewrite old new hold hput hparties =>
    rw [hput]
    refine hagree.put fun fixed hfixed => ?_
    rw [hparties.tokenID] at hfixed
    rw [hparties.tokenUnlimited]
    exact hagree.find? hold fixed hfixed

def billingStatusOf (db : DB) (taskID : String) : Option BillingStatus :=
  (db.tasks.find? taskID).map AsyncImageTask.billingStatus

theorem Transition.billingStatusOf (h : Transition db db') {taskID : String} {b : BillingStatus}
    (hb : billingStatusOf db taskID = some b) :
    ∃ b', billingStatusOf db' taskID = some b' ∧ (b = .reserved ∨ b' = b) := by
  unfold AsyncImage.billingStatusOf at hb ⊢
  cases h with
  | keep htasks => rw [htasks]; exact ⟨b, hb, .inr rfl⟩
  | create t token hcreate =>
    have hne : taskID ≠ key t := by
      intro he
      rw [he, Table.create_fresh hcreate] at hb
      cases hb
    rw [Table.find?_create hcreate, if_neg hne]
    exact ⟨b, hb, .inr rfl⟩
  | rewrite old new hold hput hparties _ hstatus =>
    rw [hput]
    by_cases hid : taskID = old.taskID
    · subst hid
      rw [hold] at hb
      cases hb
      exact ⟨new.billingStatus,
        by rw [Table.find?_put_of_find? hold new hparties.taskID]; rfl, hstatus⟩
    · rw [Table.find?_put_of_ne (by rw [key_task, hparties.taskID]; exact hid)]
      exact ⟨b, hb, .inr rfl⟩

theorem total_wallet (db : DB) (user : Nat) : total db (.wallet user) = walletTotal db user := by
  have hheld : charging.held db.tasks (.wallet user) = walletCharges db user := by
    unfold Charging.held walletCharges
    congr 1
    funext t
    simp only [Charging.share, charging, AsyncImageTask.fundingAccount]
    by_cases hfunded : t.subscriptionFunded = true <;> simp [hfunded, eq_comm (a := user)]
  simp only [total, Charging.total, balance, walletTotal, hheld]

theorem total_subscription (db : DB) (id : Nat) :
    total db (.subscription id) = (subscriptionRest db id).map fun rest => -rest := by
  have hheld : charging.held db.tasks (.subscription id) = subscriptionCharges db id := by
    unfold Charging.held subscriptionCharges
    congr 1
    funext t
    simp only [Charging.share, charging, AsyncImageTask.fundingAccount]
    by_cases hfunded : t.subscriptionFunded = true <;> simp [hfunded, eq_comm (a := id)]
  simp only [total, Charging.total, balance, subscriptionRest]
  cases db.accounts.subscriptionUsed id with
  | none => rfl
  | some used =>
    simp only [Option.map_some, Option.some.injEq]
    omega

theorem total_token (hagree : TokensAgree db) {id : Nat} (hlimited : LimitedToken db id) :
    total db (.token id) = tokenTotal db id := by
  obtain ⟨token, htoken, hflag⟩ := hlimited
  have hheld : charging.held db.tasks (.token id) = tokenCharges db id := by
    unfold Charging.held tokenCharges Table.sum
    congr 1
    apply List.map_congr_left
    intro t ht
    have hfunding : (Account.token id == t.fundingAccount) = false := by
      unfold AsyncImageTask.fundingAccount
      split <;> rfl
    simp only [Charging.share, charging, hfunding]
    by_cases hid : t.tokenID = id
    · have hunlimited : t.tokenUnlimited = false := by
        have hfixed := hagree t ht (token.unlimitedQuota, token.remainQuota + token.usedQuota)
        rw [hid] at hfixed
        rw [← hfixed (by simp [tokenFixed, htoken]), hflag]
      simp [hid, hunlimited]
    · simp [hid, Ne.symm hid]
  simp only [total, Charging.total, balance, tokenTotal, hheld]

def DB.start (accounts : Accounts) (objects : Table StorageObject) : DB :=
  { accounts := accounts, tasks := Table.empty, objects }

theorem tokensAgree_start (accounts : Accounts) (objects : Table StorageObject) :
    TokensAgree (DB.start accounts objects) := by
  intro t ht
  cases ht

def departures (zone : Int) (taskID : String) : DB → List Issued → Nat
  | _, [] => 0
  | db, i :: rest =>
    (if billingStatusOf db taskID = some .reserved ∧
        billingStatusOf (step zone db i) taskID ≠ some .reserved then 1 else 0) +
      departures zone taskID (step zone db i) rest

section Runs

variable {zone : Int} {db : DB} {calls : List Issued}

theorem run_tokensAgree (hagree : TokensAgree db)
    (hrun : Along (step zone) (NoReset zone) db calls) :
    TokensAgree (run (step zone) db calls) :=
  run_invariant (step zone) TokensAgree (fun _ _ h hreset => (step_transition hreset).tokensAgree h)
    hagree hrun

theorem run_total (hrun : Along (step zone) (NoReset zone) db calls) (acc : Account) :
    total (run (step zone) db calls) acc = total db acc :=
  run_const (step zone) (fun db => total db acc)
    (fun _ _ hreset => (step_transition hreset).total acc) hrun

theorem run_tokenFixed (hrun : Along (step zone) (NoReset zone) db calls) :
    tokenFixed (run (step zone) db calls).accounts = tokenFixed db.accounts :=
  run_const (step zone) (fun db => tokenFixed db.accounts)
    (fun _ _ hreset => (step_transition hreset).tokenFixed) hrun

theorem departures_of_final {taskID : String} {b : BillingStatus}
    (hb : billingStatusOf db taskID = some b) (hfinal : b ≠ .reserved)
    (hrun : Along (step zone) (NoReset zone) db calls) :
    departures zone taskID db calls = 0 := by
  induction calls generalizing db with
  | nil => rfl
  | cons i rest ih =>
    obtain ⟨b', hb', hkeep⟩ := (step_transition hrun.1).billingStatusOf hb
    have hsame : b' = b := hkeep.resolve_left hfinal
    rw [departures, ih (hsame ▸ hb') hrun.2, if_neg (by simp [hb, hfinal])]

/-- Over any run a task leaves the reserved state at most once. -/
theorem departures_le_one (taskID : String) (hrun : Along (step zone) (NoReset zone) db calls) :
    departures zone taskID db calls ≤ 1 := by
  induction calls generalizing db with
  | nil => exact Nat.zero_le 1
  | cons i rest ih =>
    rw [departures]
    split
    next hleaves =>
      obtain ⟨b', hb', -⟩ := (step_transition hrun.1).billingStatusOf hleaves.1
      have hfinal : b' ≠ .reserved := fun he => hleaves.2 (he ▸ hb')
      rw [departures_of_final hb' hfinal hrun.2]
    · rw [Nat.zero_add]
      exact ih hrun.2

theorem tokenSum_eq (db : DB) (id : Nat) :
    tokenSum db id = (tokenFixed db.accounts id).map Prod.snd := by
  simp [tokenSum, tokenFixed, Function.comp_def]

theorem limitedToken_of_fixed (hfixed : tokenFixed db'.accounts = tokenFixed db.accounts)
    {id : Nat} (h : LimitedToken db id) : LimitedToken db' id := by
  obtain ⟨token, htoken, hflag⟩ := h
  have hsome : tokenFixed db'.accounts id =
      some (token.unlimitedQuota, token.remainQuota + token.usedQuota) := by
    rw [hfixed]
    simp [tokenFixed, htoken]
  obtain ⟨token', htoken', hpair⟩ := Option.map_eq_some_iff.mp hsome
  exact ⟨token', htoken', by rw [(Prod.mk.inj hpair).1, hflag]⟩

end Runs

/-- Without a subscription reset, each wallet, subscription and limited token keeps its balance plus
the charges of its tasks, and a task leaves the reserved state at most once. -/
theorem billing_conserves (zone : Int) (accounts : Accounts) (objects : Table StorageObject)
    (earlier later : List Issued)
    (hreset : Along (step zone) (NoReset zone) (DB.start accounts objects) (earlier ++ later)) :
    let db := run (step zone) (DB.start accounts objects) earlier
    let db' := run (step zone) db later
    (∀ user, walletTotal db' user = walletTotal db user) ∧
      (∀ id, subscriptionRest db' id = subscriptionRest db id) ∧
      (∀ id, LimitedToken db id →
        tokenTotal db' id = tokenTotal db id ∧ tokenSum db' id = tokenSum db id) ∧
      ∀ taskID, departures zone taskID (.start accounts objects) (earlier ++ later) ≤ 1 := by
  intro db db'
  obtain ⟨hearlier, hlater⟩ := (along_append (step zone)).mp hreset
  have hagree : TokensAgree db := run_tokensAgree (tokensAgree_start accounts objects) hearlier
  have hagree' : TokensAgree db' := run_tokensAgree hagree hlater
  have hfixed := run_tokenFixed hlater
  refine ⟨fun user => ?_, fun id => ?_, fun id hlimited => ⟨?_, ?_⟩,
    fun taskID => departures_le_one taskID hreset⟩
  · rw [← total_wallet, ← total_wallet]
    exact run_total hlater _
  · have htotal := run_total hlater (.subscription id)
    rw [total_subscription, total_subscription] at htotal
    exact Option.map_injective neg_injective htotal
  · have hlimited' : LimitedToken db' id := limitedToken_of_fixed hfixed hlimited
    rw [← total_token hagree' hlimited', ← total_token hagree hlimited]
    exact run_total hlater _
  · rw [tokenSum_eq, tokenSum_eq, hfixed]

def sampleAccounts : Accounts where
  users := .single ⟨1, 100⟩
  tokens := .single ⟨1, 1, 80, 0, false, Nat.one_pos⟩
  subscriptions :=
    .single ⟨1, 1, 1, 50, 0, 0, 1000000, .active, 0, 900000, true, Nat.one_pos,
      Int.natCast_nonneg .zero⟩
  plans := .single ⟨1, "daily", 0⟩
  preConsumeRecords := Table.empty

def sampleCalls : List Issued :=
  [⟨.submit 10 ⟨1, "task_a", 30, false, "", [], "a", ⟨86400, 3, 3600⟩⟩, false⟩,
   ⟨.submit 11 ⟨1, "task_b", 40, false, "", [], "b", ⟨86400, 3, 3600⟩⟩, false⟩,
   ⟨.settle 12 "task_a" 20, false⟩,
   ⟨.reserve "task_b" 45, false⟩,
   ⟨.refund 13 "task_b" "code" "message" "message", false⟩]

theorem billing_conserves_sample :
    departures 0 "task_a" (DB.start sampleAccounts .empty) sampleCalls = 1 ∧
      ∀ user, walletTotal (run (step 0) (DB.start sampleAccounts .empty) sampleCalls) user =
        walletTotal (DB.start sampleAccounts .empty) user :=
  ⟨by decide, (billing_conserves 0 sampleAccounts .empty [] sampleCalls (by decide)).1⟩

end ZModel.AsyncImage
