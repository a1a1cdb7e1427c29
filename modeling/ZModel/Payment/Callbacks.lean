import Mathlib.Algebra.Order.Group.Multiset
import ZModel.Lib.Threads
import ZModel.Payment.Recharge

/-!
# Callbacks on several processes

Success callbacks, manual completions and closings of orders in any interleaving. A callback writes
the order and the credit in two statements and owns the credit it owes in between.
-/

namespace ZModel.Payment

open Lib Store

variable {db : Db} {owed : Multiset String} {t : TopUp}

variable {cfg : PaymentSettings}

theorem status_put (ht : db.orders.find? t.tradeNo = some t) (t' : TopUp)
    (hkey : t'.tradeNo = t.tradeNo) (tradeNo : String) :
    Db.status { db with orders := db.orders.put t' } tradeNo =
      if tradeNo = t.tradeNo then some t'.status else db.status tradeNo := by
  simp only [Db.status, Table.find?_put, key_topUp, hkey]
  split
  next h =>
    simp [h, ht]
  · rfl

/-- The credits written and owed for an order are one together if it is stored as completed, and
none otherwise. -/
def Accounted (db : Db) (owed : Multiset String) : Prop :=
  ∀ tradeNo, db.credits.count tradeNo + owed.count tradeNo =
    if db.status tradeNo = some .success then 1 else 0

theorem Accounted.save (h : Accounted db owed) {t' : TopUp}
    (ht : db.orders.find? t.tradeNo = some t) (hpending : t.status = .pending)
    (hkey : t'.tradeNo = t.tradeNo) (hsuccess : t'.status = .success) :
    Accounted { db with orders := db.orders.put t' } (t'.tradeNo ::ₘ owed) := by
  intro tradeNo
  have hcount := h tradeNo
  show db.credits.count tradeNo + _ = _
  rw [status_put ht t' hkey]
  by_cases hk : tradeNo = t.tradeNo
  · have hstatus : db.status tradeNo = some .pending := by simp [Db.status, hk, ht, hpending]
    rw [if_neg (by simp [hstatus])] at hcount
    rw [if_pos hk, if_pos (by rw [hsuccess]), hkey, ← hk, Multiset.count_cons_self]
    omega
  · rw [if_neg hk, hkey, Multiset.count_cons_of_ne hk]
    exact hcount

theorem Accounted.credit (h : Accounted db (t.tradeNo ::ₘ owed)) (quota : Int) :
    Accounted (db.credit t quota) owed := by
  intro tradeNo
  have hcount := h tradeNo
  show (t.tradeNo :: db.credits).count tradeNo + owed.count tradeNo =
    if db.status tradeNo = some .success then 1 else 0
  by_cases hk : tradeNo = t.tradeNo
  · subst hk
    rw [Multiset.count_cons_self] at hcount
    rw [List.count_cons_self]
    omega
  · rw [Multiset.count_cons_of_ne hk] at hcount
    rwa [List.count_cons_of_ne (Ne.symm hk)]

theorem Accounted.complete {c : Completion} {now : Int} {w : Write} {db' : Db} {tradeNo : String}
    (h : Accounted db owed) (hrun : c.run now w db tradeNo = .ok db') : Accounted db' owed := by
  unfold Completion.run at hrun
  split at hrun
  · cases hrun
  split at hrun
  · cases hrun
  rename_i t ht
  split_ifs at hrun
  · cases hrun
    exact h
  rename_i hpending _
  cases w with
  | fails => cases hrun
  | done =>
    cases hrun
    obtain rfl : t.tradeNo = tradeNo := Table.find?_key ht
    have hsaved : Accounted _ ({ t with completeTime := now, status := .success }.tradeNo ::ₘ
        owed) := h.save ht (not_not.mp hpending) rfl rfl
    exact hsaved.credit (c.quota t)

theorem Accounted.close {w : Write} {db' : Db} {tradeNo : String}
    {expected : Option PaymentProvider} {target : TopUpStatus} (h : Accounted db owed)
    (htarget : target ≠ .success)
    (hrun : updatePendingTopUpStatus w db tradeNo expected target = .ok db') :
    Accounted db' owed := by
  unfold updatePendingTopUpStatus at hrun
  split at hrun
  · cases hrun
  split at hrun
  · cases hrun
  rename_i t ht
  split_ifs at hrun with _ hpending
  cases w with
  | fails => cases hrun
  | done =>
    cases hrun
    obtain rfl : t.tradeNo = tradeNo := Table.find?_key ht
    intro k
    have hcount := h k
    rw [status_put ht { t with status := target } rfl]
    by_cases hk : k = t.tradeNo
    · have hstatus : db.status k = some .pending := by
        simp [Db.status, hk, ht, not_not.mp hpending]
      rw [if_neg (by simp [hstatus])] at hcount
      rwa [if_pos hk, if_neg (by simpa using htarget)]
    · rwa [if_neg hk]

def Crediting (t : Thread Op Op.Ret Job) : Bool :=
  match t.program with
  | .perform (.increaseUserQuota _ _) _ => true
  | _ => false

/-- A callback finds its order still pending when it saves it, its credit is carried out, no process
crashes between the two, and orders are closed with another status. -/
def conditions : Conditions Op Op.Ret Job Env Db where
  start
    | _, .close _ _ target => target ≠ .success
    | _, _ => True
  run _ o e db := match o with
    | .update t => db.status t.tradeNo = some .pending
    | .increaseUserQuota _ quota => e.write = .done ∧ 0 ≤ quota
    | _ => True
  crash node sys := ∀ t ∈ sys.threads, t.node = node → Crediting t = false

instance (node : Nat) : ∀ j, Decidable (conditions.start node j)
  | .close _ _ target => inferInstanceAs (Decidable (target ≠ .success))
  | .epayNotify _ _ => isTrue trivial
  | .manualComplete _ => isTrue trivial

instance (node : Nat) : ∀ o e db, Decidable (conditions.run node o e db)
  | .update t, _, db => inferInstanceAs (Decidable (db.status t.tradeNo = some .pending))
  | .increaseUserQuota _ quota, e, _ => inferInstanceAs (Decidable (e.write = .done ∧ 0 ≤ quota))
  | .lockOrder _, _, _ => isTrue trivial
  | .unlockOrder _, _, _ => isTrue trivial
  | .getTopUpByTradeNo _, _, _ => isTrue trivial
  | .manualCompleteTopUp _, _, _ => isTrue trivial
  | .updatePendingTopUpStatus _ _ _, _, _ => isTrue trivial

instance (node : Nat) (sys : System Op Op.Ret Job Db) : Decidable (conditions.crash node sys) :=
  inferInstanceAs (Decidable (∀ t ∈ sys.threads, t.node = node → Crediting t = false))

def logic : Logic Op Job Env Db (Multiset String) where
  Inv := Accounted
  pre _ j owed := owed = 0 ∧ ∀ tradeNo expected target, j = .close tradeNo expected target →
    target ≠ .success
  post _ owed := owed = 0
  held _ o owed := owed = 0 ∨ ∃ t quota, o = some (.increaseUserQuota t quota) ∧ owed = {t.tradeNo}
  check _ _ _ _ := True

abbrev SafeCall {α : Type} (cfg : PaymentSettings) (node : Nat) :
    Prog α → Multiset String → (α → Multiset String → Prop) → Prop :=
  Safe (machine cfg) conditions logic node

section

variable (node : Nat) (tradeNo : String)

include node tradeNo

theorem safe_lockOrder : SafeCall cfg node (call (.lockOrder tradeNo)) 0 fun _ owed => owed = 0 :=
  .call (.inl rfl) fun _ _ _ _ _ hinv => ⟨trivial, 0, hinv, rfl⟩

theorem safe_unlockOrder :
    SafeCall cfg node (call (.unlockOrder tradeNo)) 0 fun _ owed => owed = 0 :=
  .call (.inl rfl) fun _ _ _ _ _ hinv => ⟨trivial, 0, hinv, rfl⟩

theorem safe_manualComplete :
    SafeCall cfg node (call (.manualCompleteTopUp tradeNo)) 0 fun _ owed => owed = 0 := by
  refine .call (.inl rfl) fun env db rest _ _ hinv => ⟨trivial, 0, ?_, rfl⟩
  exact commit_rule (P := fun db' => Accounted db' (0 + rest)) hinv fun db' h => hinv.complete h

theorem safe_close (expected : Option PaymentProvider)
    {target : TopUpStatus} (htarget : target ≠ .success) :
    SafeCall cfg node (call (.updatePendingTopUpStatus tradeNo expected target)) 0
      fun _ owed => owed = 0 := by
  refine .call (.inl rfl) fun env db rest _ _ hinv => ⟨trivial, 0, ?_, rfl⟩
  exact commit_rule (P := fun db' => Accounted db' (0 + rest)) hinv
    fun db' h => hinv.close htarget h

theorem safe_getTopUp :
    SafeCall cfg node (call (.getTopUpByTradeNo tradeNo)) 0 fun _ owed => owed = 0 :=
  .call (.inl rfl) fun _ _ _ _ _ hinv => ⟨trivial, 0, hinv, rfl⟩

end

theorem safe_update (node : Nat) (hstatus : t.status = .success) :
    SafeCall cfg node (call (.update t)) 0
      fun (saved : Bool) owed => owed = if saved then {t.tradeNo} else 0 := by
  refine .call (.inl rfl) fun env db rest hpending _ hinv => ⟨trivial, ?_⟩
  rw [zero_add] at hinv
  obtain ⟨now, w⟩ := env
  cases w with
  | fails => exact ⟨0, by rwa [zero_add], rfl⟩
  | done =>
    obtain ⟨old, hold, hstored⟩ := Option.map_eq_some_iff.mp hpending
    have hkey : old.tradeNo = t.tradeNo := Table.find?_key hold
    refine ⟨{t.tradeNo}, ?_, rfl⟩
    exact hinv.save (hkey ▸ hold) hstored hkey.symm hstatus

theorem safe_increaseUserQuota (node : Nat) (t : TopUp) (quota : Int) :
    SafeCall cfg node (call (.increaseUserQuota t quota)) {t.tradeNo} fun _ owed => owed = 0 := by
  refine .call (.inr ⟨t, quota, rfl, rfl⟩) fun env db rest hok _ hinv => ⟨trivial, 0, ?_, rfl⟩
  obtain ⟨hwrite, hquota⟩ := hok
  have hexec : (exec cfg node (.increaseUserQuota t quota) env db).2 = db.credit t quota := by
    simp [exec, hwrite, increaseUserQuota, writeQuota_done hquota]
  rw [zero_add]
  show Accounted (exec cfg node (.increaseUserQuota t quota) env db).2 rest
  rw [hexec]
  exact hinv.credit quota

theorem safe_completeEpay (node : Nat) (tradeNo type : String) :
    SafeCall cfg node (completeEpay cfg tradeNo type) 0 fun _ owed => owed = 0 := by
  refine (safe_getTopUp node tradeNo).bind fun found owed howed => ?_
  subst howed
  cases found with
  | none => exact rfl
  | some t =>
    show SafeCall cfg node (if _ then _ else if _ then _ else _) 0 _
    split
    · exact rfl
    split
    · refine (safe_update node rfl).bind fun saved owed howed => ?_
      subst howed
      cases saved with
      | false => exact rfl
      | true =>
        refine (safe_increaseUserQuota node _ _).bind fun _ owed howed => ?_
        exact howed
    · exact rfl

theorem safe_program (node : Nat) (j : Job) (owed : Multiset String) (h : logic.pre node j owed) :
    SafeThread (machine cfg) conditions logic ⟨node, program cfg j⟩ owed := by
  obtain ⟨rfl, htarget⟩ := h
  cases j with
  | epayNotify tradeNo type =>
    refine (safe_lockOrder node tradeNo).bind fun _ owed howed => ?_
    subst howed
    refine (safe_completeEpay node tradeNo type).bind fun _ owed howed => ?_
    subst howed
    exact safe_unlockOrder node tradeNo
  | manualComplete tradeNo => exact safe_manualComplete node tradeNo
  | close tradeNo expected target =>
    exact safe_close node tradeNo expected (htarget tradeNo expected target rfl)

theorem owed_eq_zero {t : Thread Op Op.Ret Job}
    (hsafe : SafeThread (machine cfg) conditions logic t owed) (hnot : Crediting t = false) :
    owed = 0 := by
  obtain ⟨node, p⟩ := t
  cases p with
  | done a => exact hsafe
  | perform o next =>
    obtain ⟨hzero | ⟨t, quota, ho, -⟩, -⟩ := hsafe
    · exact hzero
    · cases ho
      cases hnot
  | fork j next =>
    obtain ⟨hzero | ⟨t, quota, ho, -⟩, -⟩ := hsafe
    · exact hzero
    · cases ho

theorem sound : Sound (machine cfg) conditions logic (program cfg) where
  job := safe_program
  start _ j hj := by
    refine ⟨rfl, ?_⟩
    rintro tradeNo expected target rfl
    exact hj
  drop node sys hcrash t ht hnode owed hsafe db rest hinv := by
    obtain rfl := owed_eq_zero hsafe (hcrash t ht hnode)
    rwa [zero_add] at hinv
  lost _ _ _ _ hinv := hinv

def Consistent (db : Db) : Prop :=
  ∀ tradeNo, db.credits.count tradeNo = if db.status tradeNo = some .success then 1 else 0

theorem consistent_of_new (hcredits : db.credits = [])
    (horders : db.orders.All fun t => t.status ≠ .success) : Consistent db := by
  intro tradeNo
  rw [hcredits, List.count_nil, if_neg]
  intro hstatus
  obtain ⟨t, ht, hsuccess⟩ := Option.map_eq_some_iff.mp hstatus
  exact horders.find? ht hsuccess

/-- In every run that meets the conditions an order is credited at most once, only if stored as
completed, and with no request running the completed orders are exactly the credited ones. -/
theorem order_credited_once (cfg : PaymentSettings) {db : Db} (hdb : Consistent db)
    (moves : List (Move Job Env))
    (hrun : Along (System.step (machine cfg) (program cfg)) conditions.Meets ⟨db, []⟩ moves)
    (tradeNo : String) :
    let sys := run (System.step (machine cfg) (program cfg)) ⟨db, []⟩ moves
    sys.state.credits.count tradeNo ≤ 1 ∧
      (tradeNo ∈ sys.state.credits → sys.state.status tradeNo = some .success) ∧
      (sys.Quiet → (sys.state.status tradeNo = some .success ↔ tradeNo ∈ sys.state.credits)) := by
  intro sys
  have hstart : Holds (machine cfg) conditions logic ⟨db, []⟩ :=
    ⟨[], .nil, fun k => by simpa using hdb k⟩
  have hend : Holds (machine cfg) conditions logic sys := (hstart.along sound hrun).2
  have hcount : ∃ owed : Nat, sys.state.credits.count tradeNo + owed =
      if sys.state.status tradeNo = some .success then 1 else 0 := by
    obtain ⟨rs, -, hinv⟩ := hend
    exact ⟨_, hinv tradeNo⟩
  have hmem : tradeNo ∈ sys.state.credits ↔ 0 < sys.state.credits.count tradeNo :=
    List.count_pos_iff.symm
  obtain ⟨owed, hcount⟩ := hcount
  refine ⟨?_, fun h => ?_, fun hquiet => ?_⟩
  · split at hcount <;> omega
  · by_contra hstatus
    rw [if_neg hstatus] at hcount
    have := hmem.mp h
    omega
  obtain ⟨rs, hzero, hinv⟩ := hend.quiet hquiet
  have hall := hinv tradeNo
  have hnone : ∀ r ∈ rs, r = 0 := fun r hr => (hzero r hr).elim fun _ h => h
  rw [List.sum_eq_zero hnone, Multiset.count_zero, add_zero] at hall
  rw [hmem, hall]
  split <;> simp_all

def sampleOrder : TopUp where
  tradeNo := "T"
  userId := 1
  amount := 10
  money := 73
  paymentMethod := "alipay"
  paymentProvider := .epay
  createTime := 0

def sampleDb : Db where
  orders := .single sampleOrder
  accounts := { users := .single ⟨1, 0⟩ }

def go (i : Nat) : Move Job Env := .run i ⟨0, .done⟩

def twoProcesses : List (Move Job Env) :=
  [.start 0 (.epayNotify "T" "alipay"), .start 1 (.epayNotify "T" "alipay"),
   go 0, go 0, go 1, go 1, go 0, go 0, go 0, go 1, go 1, go 1]

def crashBetween : List (Move Job Env) :=
  [.start 0 (.epayNotify "T" "alipay"), go 0, go 0, go 0, .crash 0]

/-- Two processes credit one order twice, and a crash leaves a completed order without its credit.
-/
theorem order_credit_not_exact :
    Consistent sampleDb ∧
    (let sys := run (System.step (machine {}) (program {})) ⟨sampleDb, []⟩
      twoProcesses
     sys.Quiet ∧ sys.state.credits.count "T" = 2 ∧ sys.state.accounts.userQuota 1 = some 10000000) ∧
    (let sys := run (System.step (machine {}) (program {})) ⟨sampleDb, []⟩
      crashBetween
     sys.Quiet ∧ sys.state.status "T" = some .success ∧ "T" ∉ sys.state.credits) :=
  ⟨consistent_of_new rfl (by decide), by decide +kernel, by decide +kernel⟩

def oneByOne : List (Move Job Env) :=
  [.start 0 (.epayNotify "T" "alipay"), go 0, go 0, go 0, go 0, go 0,
   .start 1 (.manualComplete "T"), go 1, .start 1 (.epayNotify "T" "alipay"), go 2, go 2, go 2]

theorem order_credited_once_sample :
    let sys := run (System.step (machine {}) (program {})) ⟨sampleDb, []⟩
      oneByOne
    sys.Quiet ∧ sys.state.accounts.userQuota 1 = some 5000000 ∧
      (sys.state.status "T" = some .success ↔ "T" ∈ sys.state.credits) :=
  ⟨by decide +kernel, by decide +kernel,
    (order_credited_once {} (consistent_of_new rfl (by decide)) oneByOne
      (by decide +kernel) "T").2.2 (by decide +kernel)⟩

end ZModel.Payment
