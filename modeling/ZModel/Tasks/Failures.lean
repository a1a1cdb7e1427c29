import Mathlib.Algebra.Order.Group.Multiset
import ZModel.Tasks.Statements

/-!
# A failed task is refunded once, by the pass that failed it

What a thread still owes, or has paid ahead, are its resources, and `Stage` lists the states a task
can be in. The bulk updates never refund.
-/

namespace ZModel.Tasks.Failures

open Lib Store
open Multiset (card card_add card_singleton notMem_zero mem_add mem_singleton)

structure Entry where
  paid : Bool
  node : Nat
  id : Nat
  quota : Int
  legacy : Bool

def refundsOf (db : Db) (id : Nat) : List Bill :=
  db.bills.filter fun b => b.kind ≠ .settlement && b.task.id = id

def failuresOf (db : Db) (id : Nat) : List Failure :=
  db.failures.filter fun f => f.task.id = id && f.task.quota ≠ 0

def unfinished (db : Db) (id : Nat) : Bool := (db.status id).all fun st => !st.finished

def bulkAllowed (db : Db) (id : Nat) : Bool :=
  (db.tasks.find? id).all fun row =>
    row.quota = 0 || row.status = .failure || (row.isLegacy && refundsOf db id = [])

/-- What each operation must find for a failed task to be refunded once. -/
def allowed : Op → World → Db → Bool
  | .getAllUnFinishSyncTasks, w, db => Distinct (allUnFinishSyncTasks db w.taskQueryLimit)
  | .updateWithStatus t _ _, _, db => t.status ≠ .failure || refundsOf db t.id = []
  | .taskAdjustFunding .refund t delta, w, db =>
    (taskAdjustFunding w.write db.accounts t delta).isOk
  | .taskAdjustFunding .sunoRefund t delta, w, db =>
    (taskAdjustFunding w.write db.accounts t delta).isOk && t.status = .failure &&
      unfinished db t.id && refundsOf db t.id = []
  | .update t _ _, w, db =>
    unfinished db t.id && (t.status ≠ .failure || (w.write = .done && (db.status t.id).isSome))
  | .taskBulkUpdateByID ids _, _, db => ids.all (bulkAllowed db)
  | _, _, _ => true

abbrev conditions : Conditions Op Op.Ret Job World Db := pollConditions Job.isPoll allowed idle

def owed (node : Nat) (t : Task) : Entry := ⟨false, node, t.id, t.quota, t.isLegacy⟩

/-- The refund that was made for a failure that is still to be stored. -/
def ahead (node : Nat) (t : Task) : Entry := ⟨true, node, t.id, t.quota, t.isLegacy⟩

def vocabulary (node : Nat) : PollVocabulary (Multiset Entry) where
  Tracked := True
  SunoPolled := True
  SunoTracked := False
  Realtime := False
  Rewrites _ _ := False
  Named _ := True
  Good _ := True
  Spare r := ∀ e ∈ r, e.node = node
  Over r := ∀ e ∈ r, e.node = node ∧ e.paid = false ∧ e.legacy = true
  claim t := if t.status = .failure ∧ t.quota ≠ 0 then {owed node t} else 0
  paid t := {ahead node t}
  due _ := 0
  Refunded st := st = .failure

/-- A task's stored status, its failures and refunds, and what threads hold for it. -/
inductive Stage (st : Option TaskStatus) : List Failure → List Bill → Multiset Entry → Prop where
  | untouched : Stage st [] [] 0
  | ahead (b : Bill) (e : Entry) (hpaid : e.paid = true) (hnode : b.node = e.node)
      (hdelta : b.delta = -e.quota) : Stage st [] [b] {e}
  | owed (f : Failure) (e : Entry) (hst : st = some .failure) (hpaid : e.paid = false)
      (hnode : f.node = e.node) (hquota : f.task.quota = e.quota)
      (hlegacy : f.task.isLegacy = e.legacy) : Stage st [f] [] {e}
  | refunded (f : Failure) (b : Bill) (hst : st = some .failure) (hnode : b.node = f.node)
      (hdelta : b.delta = -f.task.quota) : Stage st [f] [b] 0
  | left (f : Failure) (hst : st = some .failure) (hlegacy : f.task.isLegacy = true) :
      Stage st [f] [] 0

def Accounted (db : Db) (r : Multiset Entry) : Prop :=
  ∀ id, Stage (db.status id) (failuresOf db id) (refundsOf db id) (r.filter fun e => e.id = id)

namespace Stage

variable {st st' : Option TaskStatus} {fs : List Failure} {bs : List Bill} {es : Multiset Entry}

theorem of_status (h : Stage st fs bs es) (hst : st = some .failure → st' = some .failure) :
    Stage st' fs bs es := by
  cases h with
  | untouched => exact .untouched
  | ahead b e hpaid hnode hdelta => exact .ahead b e hpaid hnode hdelta
  | owed f e h hpaid hnode hquota hlegacy => exact .owed f e (hst h) hpaid hnode hquota hlegacy
  | refunded f b h hnode hdelta => exact .refunded f b (hst h) hnode hdelta
  | left f h hlegacy => exact .left f (hst h) hlegacy

theorem eq_untouched (h : Stage st fs bs es) (hst : st ≠ some .failure) (hbs : bs = []) :
    fs = [] ∧ es = 0 := by
  cases h with
  | untouched => exact ⟨rfl, rfl⟩
  | ahead => cases hbs
  | owed f e h => exact absurd h hst
  | refunded f b h => exact absurd h hst
  | left f h => exact absurd h hst

variable {x : Entry}

theorem add_singleton_ne_zero : es + {x} ≠ 0 := fun h => by
  have hcard := congrArg card h
  rw [card_add, card_singleton, Multiset.card_zero] at hcard
  omega

theorem singleton_eq_add {e x : Entry} (h : ({e} : Multiset Entry) = es + {x}) : es = 0 ∧ e = x := by
  have hcard := congrArg card h
  rw [card_add, card_singleton, card_singleton] at hcard
  have hzero : es = 0 := Multiset.card_eq_zero.mp (by omega)
  rw [hzero, zero_add, Multiset.singleton_inj] at h
  exact ⟨hzero, h⟩

theorem of_owed (h : Stage st fs bs (es + {x})) (hx : x.paid = false) :
    ∃ f, fs = [f] ∧ bs = [] ∧ es = 0 ∧ st = some .failure ∧ f.node = x.node ∧
      f.task.quota = x.quota ∧ f.task.isLegacy = x.legacy := by
  generalize hall : es + {x} = all at h
  cases h with
  | untouched | refunded | left => exact absurd hall add_singleton_ne_zero
  | ahead b e hpaid =>
    obtain ⟨-, rfl⟩ := singleton_eq_add hall.symm
    rw [hx] at hpaid
    cases hpaid
  | owed f e hst hpaid hnode hquota hlegacy =>
    obtain ⟨hzero, rfl⟩ := singleton_eq_add hall.symm
    exact ⟨f, rfl, rfl, hzero, hst, hnode, hquota, hlegacy⟩

theorem of_ahead (h : Stage st fs bs (es + {x})) (hx : x.paid = true) :
    ∃ b, fs = [] ∧ bs = [b] ∧ es = 0 ∧ b.node = x.node ∧ b.delta = -x.quota := by
  generalize hall : es + {x} = all at h
  cases h with
  | untouched | refunded | left => exact absurd hall add_singleton_ne_zero
  | ahead b e hpaid hnode hdelta =>
    obtain ⟨hzero, rfl⟩ := singleton_eq_add hall.symm
    exact ⟨b, rfl, rfl, hzero, hnode, hdelta⟩
  | owed f e hst hpaid =>
    obtain ⟨-, rfl⟩ := singleton_eq_add hall.symm
    rw [hx] at hpaid
    cases hpaid

end Stage

variable {db : Db} {r r' : Multiset Entry} {key node : Nat} {row t : Task}

theorem failuresOf_save (db : Db) (node : Nat) (row t : Task) (id : Nat) :
    failuresOf (db.save node row t) id =
      if (t.status = .failure ∧ row.status ≠ .failure) ∧ t.id = id ∧ t.quota ≠ 0 then
        ⟨node, t⟩ :: failuresOf db id else failuresOf db id := by
  unfold failuresOf Db.save
  by_cases hfail : t.status = .failure ∧ row.status ≠ .failure
  · rw [if_pos hfail, List.filter_cons]
    simp only [hfail, true_and, Bool.and_eq_true, decide_eq_true_eq, ne_eq, not_false_eq_true]
  · rw [if_neg hfail, if_neg fun h => hfail h.1]

theorem Accounted.save (h : Accounted db r) (hrow : db.tasks.find? key = some row)
    (hkey : t.id = key)
    (hothers : ∀ id, id ≠ key → (r'.filter fun e => e.id = id) = r.filter fun e => e.id = id)
    (hstage : Stage (some t.status) (failuresOf (db.save node row t) key) (refundsOf db key)
      (r'.filter fun e => e.id = key)) : Accounted (db.save node row t) r' := by
  intro id
  rw [Db.status_save hrow hkey]
  split
  next hid =>
    rw [hid]
    exact hstage
  next hid =>
    rw [hothers id hid, failuresOf_save, if_neg fun hnew => hid (hnew.2.1.symm.trans hkey)]
    exact h id

theorem Accounted.save_same (h : Accounted db r) (hrow : db.tasks.find? key = some row)
    (hkey : t.id = key) (hkept : row.status = .failure → t.status = .failure)
    (hnone : t.status = .failure → row.status = .failure ∨ t.quota = 0) :
    Accounted (db.save node row t) r := by
  refine h.save hrow hkey (fun _ _ => rfl) ?_
  have hstage := h key
  rw [Db.status_of_find? hrow] at hstage
  rw [failuresOf_save, if_neg ?_]
  · refine hstage.of_status fun hst => ?_
    rw [hkept (Option.some.inj hst)]
  · rintro ⟨⟨hfailure, hnot⟩, -, hquota⟩
    exact (hnone hfailure).elim hnot hquota

theorem Accounted.stage_fail (h : Accounted db r) (node : Nat) (hrow : db.tasks.find? key = some row)
    (hkey : t.id = key) (hold : row.status ≠ .failure) (hfailure : t.status = .failure)
    (hquota : t.quota ≠ 0) (hrefunds : refundsOf db key = []) :
    failuresOf (db.save node row t) key = [⟨node, t⟩] ∧ (r.filter fun e => e.id = key) = 0 := by
  have hst : db.status key ≠ some .failure := by
    rw [Db.status_of_find? hrow]
    exact fun heq => hold (Option.some.inj heq)
  obtain ⟨hnone, hzero⟩ := (h key).eq_untouched hst hrefunds
  rw [failuresOf_save, if_pos ⟨⟨hfailure, hold⟩, hkey, hquota⟩, hnone]
  exact ⟨rfl, hzero⟩

theorem filter_add_singleton (r : Multiset Entry) (e : Entry) (id : Nat) :
    ((r + {e}).filter fun e => e.id = id) =
      (r.filter fun e => e.id = id) + if e.id = id then {e} else 0 := by
  rw [Multiset.filter_add, Multiset.filter_singleton]
  rfl

theorem filter_add_singleton_self (r : Multiset Entry) (e : Entry) :
    ((r + {e}).filter fun x => x.id = e.id) = (r.filter fun x => x.id = e.id) + {e} := by
  rw [filter_add_singleton, if_pos rfl]

variable {e : Entry}

variable {id : Nat}

theorem filter_add_singleton_ne (r : Multiset Entry) (h : id ≠ e.id) :
    ((r + {e}).filter fun x => x.id = id) = r.filter fun x => x.id = id := by
  rw [filter_add_singleton, if_neg (Ne.symm h), add_zero]

theorem Accounted.transition (h : Accounted db r) (hrow : db.tasks.find? t.id = some row)
    (hold : row.status.finished = false)
    (hrefunds : t.status = .failure → refundsOf db t.id = []) :
    Accounted (db.save node row t) (r + (vocabulary node).claim t) := by
  have hnot : row.status ≠ .failure := fun heq => by
    rw [heq] at hold
    cases hold
  by_cases hcounts : t.status = .failure ∧ t.quota ≠ 0
  · obtain ⟨hfailure, hquota⟩ := hcounts
    have hclaim : (vocabulary node).claim t = {owed node t} := if_pos ⟨hfailure, hquota⟩
    obtain ⟨hfailures, hzero⟩ := h.stage_fail node hrow rfl hnot hfailure hquota
      (hrefunds hfailure)
    rw [hclaim]
    refine h.save hrow rfl (fun id hid => filter_add_singleton_ne r hid) ?_
    rw [hfailures, hrefunds hfailure, show t.id = (owed node t).id from rfl,
      filter_add_singleton_self, show (r.filter fun x => x.id = (owed node t).id) = 0 from hzero,
      hfailure]
    exact .owed _ _ rfl rfl rfl rfl rfl
  have hclaim : (vocabulary node).claim t = 0 := if_neg hcounts
  rw [hclaim, add_zero]
  refine h.save_same hrow rfl (fun heq => absurd heq hnot) fun hfailure => .inr ?_
  by_contra hquota
  exact hcounts ⟨hfailure, hquota⟩

theorem Accounted.bill (h : Accounted db r) {b : Bill} (a : Accounts)
    (hothers : ∀ id, id ≠ b.task.id → (r'.filter fun e => e.id = id) = r.filter fun e => e.id = id)
    (hstage : Stage (db.status b.task.id) (failuresOf db b.task.id)
      (if b.kind ≠ .settlement then b :: refundsOf db b.task.id else refundsOf db b.task.id)
      (r'.filter fun e => e.id = b.task.id)) :
    Accounted { db with accounts := a, bills := b :: db.bills } r' := by
  intro id
  have hrefunds : refundsOf { db with accounts := a, bills := b :: db.bills } id =
      if b.kind ≠ .settlement ∧ b.task.id = id then b :: refundsOf db id else refundsOf db id := by
    unfold refundsOf
    rw [List.filter_cons]
    simp only [Bool.and_eq_true, decide_eq_true_eq]
  rw [hrefunds]
  by_cases hid : id = b.task.id
  · subst hid
    simp only [and_true]
    exact hstage
  · rw [if_neg fun hb => hid hb.2.symm, hothers id hid]
    exact h id

theorem Accounted.settle (h : Accounted db r) {b : Bill} (hb : b.kind = .settlement) (a : Accounts) :
    Accounted { db with accounts := a, bills := b :: db.bills } r := by
  refine h.bill a (fun _ _ => rfl) ?_
  rw [if_neg fun hne => hne hb]
  exact h b.task.id

theorem Accounted.refund (h : Accounted db (r + {owed node t})) (a : Accounts) :
    Accounted { db with accounts := a, bills := ⟨.refund, node, t, -t.quota⟩ :: db.bills } r := by
  have hstage := h t.id
  rw [show t.id = (owed node t).id from rfl, filter_add_singleton_self] at hstage
  obtain ⟨f, hfailures, hrefunds, hzero, hst, hnode, hquota, -⟩ := hstage.of_owed rfl
  refine h.bill a (fun id hid => (filter_add_singleton_ne r hid).symm) ?_
  rw [if_pos nofun]
  show Stage (db.status (owed node t).id) (failuresOf db (owed node t).id)
    (_ :: refundsOf db (owed node t).id) (r.filter fun e => e.id = (owed node t).id)
  rw [hfailures, hrefunds, hzero]
  exact .refunded f _ hst hnode.symm (by rw [hquota]; rfl)

theorem Accounted.payAhead (h : Accounted db r) (hst : db.status t.id ≠ some .failure)
    (hrefunds : refundsOf db t.id = []) (a : Accounts) :
    Accounted { db with accounts := a, bills := ⟨.sunoRefund, node, t, -t.quota⟩ :: db.bills }
      (r + {ahead node t}) := by
  obtain ⟨hnone, hzero⟩ := (h t.id).eq_untouched hst hrefunds
  refine h.bill a (fun id hid => filter_add_singleton_ne r hid) ?_
  rw [if_pos nofun]
  show Stage (db.status t.id) (failuresOf db t.id) (_ :: refundsOf db t.id)
    ((r + {ahead node t}).filter fun e => e.id = (ahead node t).id)
  rw [filter_add_singleton_self, show (r.filter fun x => x.id = (ahead node t).id) = 0 from hzero,
    hnone, hrefunds]
  exact .ahead _ _ rfl rfl rfl

theorem Accounted.saveAhead (h : Accounted db (r + {ahead node t}))
    (hrow : db.tasks.find? t.id = some row) (hold : row.status ≠ .failure)
    (hfailure : t.status = .failure) (hquota : t.quota ≠ 0) (now : Int) :
    Accounted (db.save node row { t with updatedAt := now }) r := by
  have hstage := h t.id
  rw [show t.id = (ahead node t).id from rfl, filter_add_singleton_self] at hstage
  obtain ⟨b, hfailures, hrefunds, hzero, hnode, hdelta⟩ := hstage.of_ahead rfl
  refine h.save hrow rfl (fun id hid => (filter_add_singleton_ne r hid).symm) ?_
  rw [failuresOf_save, if_pos ⟨⟨hfailure, hold⟩, rfl, hquota⟩]
  show Stage _ (_ :: failuresOf db (ahead node t).id) (refundsOf db (ahead node t).id)
    (r.filter fun e => e.id = (ahead node t).id)
  rw [hfailures, hrefunds, hzero]
  exact .refunded _ b (congrArg some hfailure) hnode hdelta

theorem Accounted.bulk (h : Accounted db r) (hrow : db.tasks.find? key = some row)
    (hallowed : row.quota = 0 ∨ row.status = .failure ∨
      (row.isLegacy = true ∧ refundsOf db key = [])) (now : Int) (reason : Option String) :
    Accounted (db.save node row (row.bulkFailed now reason)) r := by
  have hkey : (row.bulkFailed now reason).id = key := Table.find?_key hrow
  by_cases hcounts : row.status ≠ .failure ∧ row.quota ≠ 0
  · obtain ⟨hold, hquota⟩ := hcounts
    obtain ⟨hlegacy, hrefunds⟩ := (hallowed.resolve_left hquota).resolve_left hold
    obtain ⟨hfailures, hzero⟩ := h.stage_fail node hrow hkey hold rfl hquota hrefunds
    refine h.save hrow hkey (fun _ _ => rfl) ?_
    rw [hfailures, hrefunds, hzero]
    exact .left _ rfl hlegacy
  refine h.save_same hrow hkey (fun _ => rfl) fun _ => ?_
  by_contra hnone
  rw [not_or] at hnone
  exact hcounts hnone

theorem isOk_of_error {α ε : Type} {x : Except ε α} {e : ε} (h : x = .error e) : x.isOk = false := by
  rw [h]
  rfl

theorem not_failure_of_unfinished (h : unfinished db id = true) : db.status id ≠ some .failure := by
  intro heq
  rw [unfinished, heq] at h
  cases h

theorem bulkAllowed_save (hrow : db.tasks.find? key = some row) (now : Int)
    (reason : Option String) (h : bulkAllowed db id = true) :
    bulkAllowed (db.save node row (row.bulkFailed now reason)) id = true := by
  have hkey : (row.bulkFailed now reason).id = key := Table.find?_key hrow
  unfold bulkAllowed Db.save at *
  by_cases hid : id = key
  · rw [hid, Table.find?_put_of_find? hrow _ hkey]
    show (_ || decide (TaskStatus.failure = .failure) || _) = true
    simp
  · rw [Table.find?_put_of_ne (by rwa [key_task, hkey])]
    exact h

theorem mem_claim : e ∈ (vocabulary node).claim t ↔
    (t.status = .failure ∧ t.quota ≠ 0) ∧ e = owed node t := by
  show e ∈ (if _ then _ else _) ↔ _
  split <;> simp [*]

theorem rules (node : Nat) :
    StateRules (vocabulary node) conditions Accounted (fun _ _ _ _ => True) node where
  tracked := .inl trivial
  sunoTracked := .inr fun _ => ⟨rfl, trivial⟩
  over_zero _ he := absurd he (notMem_zero _)
  spare l hf e he := by
    rw [(vocabulary node).dues_eq_zero fun _ _ => rfl, add_zero] at he
    exact (hf e he).1
  due_null _ := rfl
  due_midjourney _ := rfl
  claim_unfinished h := if_neg fun hfailure => by
    rw [hfailure.1] at h
    cases h
  claim_private _ _ := rfl
  claim_realtime h := h.elim
  kept {f t} hf hkeep e he := by
    obtain he | he := mem_add.mp he
    · exact hf e he
    obtain ⟨⟨hfailure, hquota⟩, rfl⟩ := mem_claim.mp he
    exact ⟨rfl, rfl, (hkeep hfailure).resolve_left hquota⟩
  paid_result _ _ := rfl
  good_timedOut _ _ := trivial
  good_preparationFailed _ _ _ := trivial
  good_activated _ _ _ _ := trivial
  spare_dues l hspare := by
    rwa [(vocabulary node).dues_eq_zero fun _ _ => rfl, add_zero]
  spare_claim t hspare e he := by
    obtain he | he := mem_add.mp he
    · exact hspare e he
    obtain ⟨-, rfl⟩ := mem_claim.mp he
    rfl
  spare_paid t hspare e he := by
    obtain he | he := mem_add.mp he
    · exact hspare e he
    · rw [mem_singleton.mp he]
      rfl
  like hlike h id := by
    have hstage := h id
    rw [hlike.status, failuresOf, hlike.failures, refundsOf, hlike.bills]
    exact hstage
  plain _ _ _ _ := trivial
  read _ _ _ _ := ⟨trivial, trivial⟩
  observe _ := ⟨fun _ _ => rfl, fun _ _ => rfl, fun _ _ => rfl⟩
  unfinished {w db r rows} hrun h hrows := by
    have hdistinct : Distinct rows := hrows ▸ of_decide_eq_true hrun
    rw [(vocabulary node).dues_eq_zero fun _ _ => rfl, add_zero]
    exact ⟨h, fun _ => hdistinct, False.elim, fun _ _ _ => trivial⟩
  fetch {_ db r _ _} _ h _ _ :=
    ⟨trivial, (congrArg (Accounted db) (add_zero r)).mp h, fun _ _ _ _ _ _ _ _ _ => trivial⟩
  fetchRealtime h := h.elim
  fetchSuno {_ db r _ _ _} _ _ h _ _ := by
    rw [(vocabulary node).dues_eq_zero fun _ _ => rfl, add_zero] at h
    exact ⟨trivial, h, fun _ _ => ⟨False.elim, fun _ _ _ _ => trivial⟩⟩
  transition {w db r t _ _} hrun h _ _ hold _ := by
    have hrefunds : t.status = .failure → refundsOf db t.id = [] := by
      simpa [pollConditions, allowed, or_iff_not_imp_left] using hrun
    refine ⟨trivial, fun row hrow hstatus => ?_⟩
    refine h.transition (t := { t with updatedAt := w.now }) hrow ?_ hrefunds
    rw [hstatus]
    exact (hold trivial).resolve_right fun hrealtime => hrealtime.1
  settlement {db r t} delta h hsuccess := by
    have hclaim : (vocabulary node).claim t = 0 := if_neg fun hfailure => by
      rw [hsuccess] at hfailure
      cases hfailure.1
    rw [hclaim, add_zero] at h
    exact ⟨h, h.settle rfl _⟩
  refund {w db r t} hrun h hfailure hquota := by
    rw [show (vocabulary node).claim t = {owed node t} from if_pos ⟨hfailure, hquota⟩] at h
    obtain ⟨⟨e, he⟩, -⟩ | ⟨a, heq⟩ := exec_funding node .refund t (-t.quota) w db
    · have hok : (taskAdjustFunding w.write db.accounts t (-t.quota)).isOk = true := hrun
      rw [isOk_of_error he] at hok
      cases hok
    · rw [heq]
      exact h.refund a
  bulk {w db r} l reason hrun h _ := by
    refine ⟨trivial, ?_⟩
    have hall : Accounted db r ∧ ∀ id ∈ l.map Task.id, bulkAllowed db id = true :=
      ⟨h, List.all_eq_true.mp hrun⟩
    refine (exec_bulk node _ reason w
      (P := fun db' => Accounted db' r ∧ ∀ id ∈ l.map Task.id, bulkAllowed db' id = true) hall ?_).1
    rintro db' id row hid ⟨h', hallowed⟩ hrow
    refine ⟨h'.bulk hrow ?_ w.now reason, fun id' hid' => ?_⟩
    · simpa [bulkAllowed, hrow, or_assoc] using hallowed id hid
    · exact bulkAllowed_save hrow w.now reason (hallowed id' hid')
  sunoRefund {w db r t} _ hrun h hquota := by
    have hrun : (taskAdjustFunding w.write db.accounts t (-t.quota)).isOk = true ∧
        t.status = .failure ∧ unfinished db t.id = true ∧ refundsOf db t.id = [] := by
      simpa [pollConditions, allowed, and_assoc] using hrun
    obtain ⟨hok, hfailure, hunfinished, hrefunds⟩ := hrun
    refine ⟨?_, hfailure⟩
    obtain ⟨⟨e, he⟩, -⟩ | ⟨a, heq⟩ := exec_funding node .sunoRefund t (-t.quota) w db
    · rw [isOk_of_error he] at hok
      cases hok
    · rw [heq]
      exact h.payAhead (not_failure_of_unfinished hunfinished) hrefunds a
  save {w db r t q item} _ hrun h _ _ _ hzero := by
    refine ⟨trivial, ?_⟩
    have hunfinished : unfinished db t.id = true := (Bool.and_eq_true_iff.mp hrun).1
    obtain heq | ⟨row, hrow, heq⟩ := exec_update node t q item w db
    · rw [heq]
      exact h
    rw [heq]
    have hold := not_failure_of_unfinished hunfinished
    rw [Db.status_of_find? hrow] at hold
    exact h.save_same (t := { t with updatedAt := w.now }) hrow rfl
      (fun hst => absurd (congrArg some hst) hold) fun hfailure => .inr (hzero hfailure)
  savePaid {w db r t q item} _ hrun h _ _ _ hrefunded hquota := by
    refine ⟨trivial, ?_⟩
    have hfailure : t.status = .failure := hrefunded
    have hrun : unfinished db t.id = true ∧ w.write = .done ∧ (db.status t.id).isSome = true := by
      simpa [pollConditions, allowed, hfailure] using hrun
    obtain ⟨hunfinished, hdone, hsome⟩ := hrun
    obtain ⟨row, hrow⟩ : ∃ row, db.tasks.find? t.id = some row := by
      rw [Db.status, Option.isSome_map] at hsome
      exact Option.isSome_iff_exists.mp hsome
    have hold := not_failure_of_unfinished hunfinished
    rw [Db.status_of_find? hrow] at hold
    rw [exec_update_done hdone node q item hrow]
    exact h.saveAhead hrow (fun hst => hold (congrArg some hst)) hfailure hquota w.now

abbrev logic : Logic Op Job World Db (Multiset Entry) :=
  pollLogic vocabulary Accounted fun _ _ _ _ => True

theorem Accounted.drop (h : Accounted db (r + r')) (hr : (vocabulary node).Over r) :
    Accounted db r' := by
  induction r using Multiset.induction_on with
  | empty => rwa [zero_add] at h
  | cons e r ih =>
    obtain ⟨-, hpaid, hlegacy⟩ := hr e (Multiset.mem_cons_self e r)
    refine ih ?_ fun x hx => hr x (Multiset.mem_cons_of_mem hx)
    rw [← Multiset.singleton_add, add_assoc, add_comm] at h
    intro id
    have hstage := h id
    by_cases hid : id = e.id
    · rw [hid, filter_add_singleton_self] at hstage
      obtain ⟨f, hfailures, hrefunds, hzero, hst, -, -, hsame⟩ := hstage.of_owed hpaid
      rw [hid, hfailures, hrefunds, hzero]
      exact .left f hst (hsame.trans hlegacy)
    · rwa [filter_add_singleton_ne _ hid] at hstage

theorem sound : Sound machine conditions logic program where
  job node j _ hr := (rules node).rules.safe_program j hr
  start node j hj := by
    cases j with
    | poll => rfl
    | channel | realtimeFetch => cases hj
  drop node sys hidle t ht hnode r hsafe db rest h := by
    have hfinished := finished_of_idle hidle ht hnode
    obtain ⟨n, p⟩ := t
    cases p with
    | done => exact h.drop hsafe
    | perform | fork => cases hfinished
  lost _ _ _ _ h := h

theorem entry_of_owned {sys : System Op Op.Ret Job Db} {rs : List (Multiset Entry)}
    (howned : List.Forall₂ logic.Owned sys.threads rs) {node : Nat} (hidle : idle node sys = true)
    (he : e ∈ rs.sum) (hnode : e.node = node) : e.legacy = true := by
  have hmem : ∀ rs : List (Multiset Entry), e ∈ rs.sum → ∃ r ∈ rs, e ∈ r := by
    intro rs
    induction rs with
    | nil => exact fun h => absurd h (notMem_zero e)
    | cons r rs ih =>
      rw [List.sum_cons, mem_add]
      rintro (h | h)
      · exact ⟨r, (.head _), h⟩
      · obtain ⟨r', hr', he'⟩ := ih h
        exact ⟨r', List.mem_cons_of_mem r hr', he'⟩
  obtain ⟨r, hr, he⟩ := hmem rs he
  refine forall₂_right (Q := fun r => ∀ e ∈ r, e.node = node → e.legacy = true) howned ?_ r hr e he
    hnode
  rintro ⟨n, p⟩ ht r hr e he rfl
  cases p with
  | done => exact (hr e he).2.2
  | perform o next =>
    have hn : e.node = n := hr e he
    cases finished_of_idle hidle ht hn.symm
  | fork j next =>
    have hn : e.node = n := hr e he
    cases finished_of_idle hidle ht hn.symm

/-- In every run that meets the conditions: when nothing is running on a node, every task that it
has moved to FAILURE, that had quota and is not a legacy task, has exactly one refund, made on that
node and of its quota. -/
theorem failed_task_refunded_once {db : Db} (hbills : db.bills = []) (hfailures : db.failures = [])
    (moves : List (Move Job World))
    (hrun : Along (System.step machine program) conditions.Meets ⟨db, []⟩ moves) (node : Nat) :
    let sys := run (System.step machine program) ⟨db, []⟩ moves
    idle node sys = true → ∀ f ∈ sys.state.failures, f.node = node → f.task.quota ≠ 0 →
      f.task.isLegacy = false →
        ∃ b, refundsOf sys.state f.task.id = [b] ∧ b.node = node ∧ b.delta = -f.task.quota := by
  intro sys hidle f hf hnode hquota hlegacy
  have hstart : Holds machine conditions logic ⟨db, []⟩ := by
    refine ⟨[], .nil, fun id => ?_⟩
    rw [failuresOf, hfailures, refundsOf, hbills]
    exact .untouched
  obtain ⟨rs, howned, hinv⟩ := (hstart.along sound hrun).2.owned
  have hstage := hinv f.task.id
  have hmem : f ∈ failuresOf sys.state f.task.id := by
    rw [failuresOf, List.mem_filter]
    exact ⟨hf, by simp [hquota]⟩
  generalize hentries : (rs.sum.filter fun e => e.id = f.task.id) = entries at hstage
  generalize failuresOf sys.state f.task.id = failures at hstage hmem
  generalize hrefunds : refundsOf sys.state f.task.id = refunds at hstage
  cases hstage with
  | untouched | ahead => cases hmem
  | owed f' e _ _ hnode' _ hlegacy' =>
    -- The entry is on an idle node, so its task is a legacy task.
    obtain rfl := List.mem_singleton.mp hmem
    have he : e ∈ rs.sum := by
      have he : e ∈ rs.sum.filter fun e => e.id = f.task.id :=
        hentries ▸ Multiset.mem_singleton_self e
      exact (Multiset.mem_filter.mp he).1
    rw [entry_of_owned howned hidle he (hnode'.symm.trans hnode), hlegacy] at hlegacy'
    cases hlegacy'
  | refunded f' b _ hnode' hdelta =>
    obtain rfl := List.mem_singleton.mp hmem
    exact ⟨b, rfl, hnode'.trans hnode, hdelta⟩
  | left f' _ hlegacy' =>
    obtain rfl := List.mem_singleton.mp hmem
    rw [hlegacy] at hlegacy'
    cases hlegacy'

def sampleTask : Task where
  id := 1
  taskID := "task"
  platform := .video 24
  userId := 1
  channelId := 7
  quota := 10
  status := .inProgress
  submitTime := 2000000000

def sampleDb : Db where
  tasks := ⟨[sampleTask], List.nodup_singleton _⟩
  accounts := { users := .single ⟨1, 0⟩ }

def failing (found : Bool) : World where
  now := 2000000000
  channelType _ := if found then some 24 else none
  fetch _ _ := .parsed { status := .failure, reason := "rejected" } ""

def onePass (w : World) : List (Move Job World) :=
  .start 0 .poll :: (List.replicate 8 (.run 0 w) ++ List.replicate 7 (.run 1 w))

/-- The channel was deleted: the task is stored as failed and nothing is returned. -/
theorem failed_task_not_refunded :
    let sys := run (System.step machine program) ⟨sampleDb, []⟩ (onePass (failing false))
    sys.Quiet ∧ sys.state.status 1 = some .failure ∧ sys.state.bills = [] ∧
      sys.state.accounts.userQuota 1 = some 0 := by
  decide +kernel

theorem failed_task_refunded_sample :
    let sys := run (System.step machine program) ⟨sampleDb, []⟩ (onePass (failing true))
    sys.state.accounts.userQuota 1 = some 10 ∧
      ∀ f ∈ sys.state.failures, f.node = 0 → f.task.quota ≠ 0 → f.task.isLegacy = false →
        ∃ b, refundsOf sys.state f.task.id = [b] ∧ b.node = 0 ∧ b.delta = -f.task.quota :=
  ⟨by decide +kernel,
    failed_task_refunded_once (show sampleDb.bills = [] from rfl) rfl (onePass (failing true))
      (by decide +kernel) 0 (by decide +kernel)⟩

end ZModel.Tasks.Failures
