import ZModel.Tasks.Statements

/-!
# The realtime fetch against the poller

A task may be finished by the poller, which then settles or refunds it, or by a realtime fetch,
which only stores the new row. The two paths are compared from one database and one reply.
-/

namespace ZModel.Tasks.RealtimeBilling

open Lib Store
open Program (eval_bind eval_call)

variable {db db' : Db} {t t' : Task} {w : World}

def Alike (t t' : Task) : Prop :=
  t' = t ∨ t'.id = t.id ∧ t'.status = t.status ∧ t.status.finished = true ∧ t'.quota = t.quota

theorem Alike.key (h : Alike t t') : key t' = key t := by
  obtain rfl | h := h
  · rfl
  · exact h.1

theorem Alike.status (h : Alike t t') : t'.status = t.status := by
  obtain rfl | h := h
  · rfl
  · exact h.2.1

theorem Alike.quota (h : Alike t t') : t'.quota = t.quota := by
  obtain rfl | h := h
  · rfl
  · exact h.2.2.2

theorem Alike.trans {t'' : Task} (h : Alike t t') (h' : Alike t' t'') : Alike t t'' := by
  obtain rfl | h' := h'
  · exact h
  refine .inr ⟨h'.1.trans h.key, h'.2.1.trans h.status, ?_, h'.2.2.2.trans h.quota⟩
  rw [← h.status]
  exact h'.2.2.1

structure Agree (db db' : Db) : Prop where
  accounts : db'.accounts = db.accounts
  rows : List.Forall₂ Alike db.tasks.rows db'.tasks.rows

namespace Agree

variable {db db' : Db}

theorem row (h : Agree db db') (id : Nat) : (db.tasks.find? id = none ∧ db'.tasks.find? id = none) ∨
    ∃ row row', db.tasks.find? id = some row ∧ db'.tasks.find? id = some row' ∧ Alike row row' := by
  have hfind := Table.find?_rel Alike.key h.rows id
  generalize db.tasks.find? id = o, db'.tasks.find? id = o' at hfind
  cases hfind with
  | none => exact .inl ⟨rfl, rfl⟩
  | some halike => exact .inr ⟨_, _, rfl, rfl, halike⟩

theorem filter (h : Agree db db') {p : Task → Bool}
    (hp : ∀ t, t.status.finished = true → p t = false) :
    db'.tasks.rows.filter p = db.tasks.rows.filter p := by
  obtain ⟨-, hrows⟩ := h
  generalize db.tasks.rows = l, db'.tasks.rows = l' at hrows
  induction hrows with
  | nil => rfl
  | @cons t t' l l' ht _ ih =>
    obtain rfl | ⟨-, hstatus, hfinished, -⟩ := ht
    · rw [List.filter_cons, List.filter_cons, ih]
    have ht : p t = false := hp t hfinished
    have ht' : p t' = false := hp t' (hstatus ▸ hfinished)
    simp only [List.filter_cons, ht, ht', ih, Bool.false_eq_true, if_false]

theorem put (h : Agree db db') (ht : Alike t t') {bills bills' : List Bill} :
    Agree { db with tasks := db.tasks.put t, bills }
      { db' with tasks := db'.tasks.put t', bills := bills' } :=
  ⟨h.accounts, Table.put_rel Alike.key h.rows ht⟩

theorem save (h : Agree db db') (ht : Alike t t') (node node' : Nat) (row row' : Task) :
    Agree (db.save node row t) (db'.save node' row' t') :=
  ⟨h.accounts, Table.put_rel Alike.key h.rows ht⟩

theorem refl (db : Db) : Agree db db := ⟨rfl, List.forall₂_same.mpr fun _ _ => .inl rfl⟩

theorem trans {db'' : Db} (h : Agree db db') (h' : Agree db' db'') : Agree db db'' := by
  refine ⟨h'.accounts.trans h.accounts, ?_⟩
  obtain ⟨-, hrows⟩ := h
  obtain ⟨-, hrows'⟩ := h'
  generalize db.tasks.rows = l, db'.tasks.rows = l', db''.tasks.rows = l'' at hrows hrows'
  induction hrows generalizing l'' with
  | nil => exact hrows'
  | cons ht _ ih =>
    cases hrows' with
    | cons ht' hrest => exact .cons (ht.trans ht') (ih _ hrest)

end Agree

/-! ## Statements on databases that agree -/

theorem Alike.write (h : Alike t t') (f : Task → Task) (hid : ∀ t, (f t).id = t.id)
    (hstatus : ∀ t t', t'.status = t.status → (f t').status = (f t).status)
    (hfinished : ∀ t, t.status.finished = true → (f t).status.finished = true)
    (hquota : ∀ t t', t'.quota = t.quota → (f t').quota = (f t).quota) : Alike (f t) (f t') := by
  obtain rfl | h := h
  · exact .inl rfl
  · refine .inr ⟨?_, hstatus t t' h.2.1, hfinished t h.2.2.1, hquota t t' h.2.2.2⟩
    rw [hid, hid, h.1]

section Statements

variable {db db' : Db} (h : Agree db db') (node : Nat) (w : World)

include h

variable (t : Task)

theorem agree_updateWithStatus (old : TaskStatus) (reply : Option Query) :
    (exec node (.updateWithStatus t old reply) w db').1 =
        (exec node (.updateWithStatus t old reply) w db).1 ∧
      Agree (exec node (.updateWithStatus t old reply) w db).2
        (exec node (.updateWithStatus t old reply) w db').2 := by
  dsimp only [exec]
  obtain ⟨hrow, hrow'⟩ | ⟨row, row', hrow, hrow', halike⟩ := h.row t.id
  · rw [hrow, hrow']
    cases w.write <;> exact ⟨rfl, h⟩
  rw [hrow, hrow']
  cases w.write with
  | fails => exact ⟨rfl, h⟩
  | done =>
    dsimp only
    rw [halike.status]
    split
    · exact ⟨rfl, h.save (.inl rfl) node node row row'⟩
    · exact ⟨rfl, h⟩

theorem agree_updatePrivateData (old : TaskStatus) :
    Agree (exec node (.updatePrivateDataWithStatus t old) w db).2
      (exec node (.updatePrivateDataWithStatus t old) w db').2 := by
  dsimp only [exec]
  obtain ⟨hrow, hrow'⟩ | ⟨row, row', hrow, hrow', halike⟩ := h.row t.id
  · rw [hrow, hrow']
    cases w.write <;> exact h
  rw [hrow, hrow']
  cases w.write with
  | fails => exact h
  | done =>
    by_cases hold : row.status = old
    · have hold' : row'.status = old := halike.status.trans hold
      dsimp only
      rw [if_pos hold, if_pos hold']
      refine h.put (halike.write (fun row => { row with
        privateData := t.privateData, updatedAt := w.now }) ?_ ?_ ?_ ?_)
      · exact fun _ => rfl
      · exact fun _ _ hstatus => hstatus
      · exact fun _ hfinished => hfinished
      · exact fun _ _ hquota => hquota
    have hold' : row'.status ≠ old := fun heq => hold (halike.status.symm.trans heq)
    dsimp only
    rw [if_neg hold, if_neg hold']
    exact h

theorem agree_updateQuota (settles : Bool) :
    Agree (exec node (.updateQuotaAndPrivateData t settles) w db).2
      (exec node (.updateQuotaAndPrivateData t settles) w db').2 := by
  dsimp only [exec]
  obtain ⟨hrow, hrow'⟩ | ⟨row, row', hrow, hrow', halike⟩ := h.row t.id
  · rw [hrow, hrow']
    cases w.write <;> exact h
  rw [hrow, hrow']
  cases w.write with
  | fails => exact h
  | done =>
    refine h.put (halike.write (fun row => { row with
      quota := t.quota, privateData := t.privateData, updatedAt := w.now }) ?_ ?_ ?_ ?_)
    · exact fun _ => rfl
    · exact fun _ _ hstatus => hstatus
    · exact fun _ hfinished => hfinished
    · exact fun _ _ _ => rfl

theorem agree_update (q : Query) (item : String) :
    Agree (exec node (.update t q item) w db).2 (exec node (.update t q item) w db').2 := by
  dsimp only [exec]
  obtain ⟨hrow, hrow'⟩ | ⟨row, row', hrow, hrow', halike⟩ := h.row t.id
  · rw [hrow, hrow']
    cases w.write <;> exact h
  rw [hrow, hrow']
  cases w.write with
  | fails => exact h
  | done => exact h.save (.inl rfl) node node row row'

theorem agree_fail (now : Int) (reason : Option String) (id : Nat) :
    Agree (db.fail node now reason id) (db'.fail node now reason id) := by
  unfold Db.fail
  obtain ⟨hrow, hrow'⟩ | ⟨row, row', hrow, hrow', halike⟩ := h.row id
  · rw [hrow, hrow']
    exact h
  rw [hrow, hrow']
  refine h.save (halike.write (fun row => { row with
    status := .failure, progress := "100%", failReason := reason.getD row.failReason
    updatedAt := now }) ?_ ?_ ?_ ?_) node node row row'
  · exact fun _ => rfl
  · exact fun _ _ _ => rfl
  · exact fun _ _ => rfl
  · exact fun _ _ hquota => hquota

theorem agree_bulk (ids : List Nat) (reason : Option String) :
    Agree (exec node (.taskBulkUpdateByID ids reason) w db).2
      (exec node (.taskBulkUpdateByID ids reason) w db').2 := by
  dsimp only [exec]
  cases w.write with
  | fails => exact h
  | done =>
    induction ids generalizing db db' with
    | nil => exact h
    | cons id ids ih => exact ih (agree_fail h node w.now reason id)

theorem agree_funding (kind : BillKind) (t : Task) (delta : Int) :
    (exec node (.taskAdjustFunding kind t delta) w db').1 =
        (exec node (.taskAdjustFunding kind t delta) w db).1 ∧
      Agree (exec node (.taskAdjustFunding kind t delta) w db).2
        (exec node (.taskAdjustFunding kind t delta) w db').2 := by
  dsimp only [exec]
  rw [h.accounts]
  split
  · exact ⟨rfl, h⟩
  · exact ⟨rfl, rfl, h.rows⟩

end Statements

theorem lockstep : Lockstep machine (fun o => o.realtime = false) Agree where
  enabled _ _ _ := rfl
  crash h _ := h
  exec {db db'} h {o} ho node w := by
    cases o with
    | observe => exact ⟨rfl, h⟩
    | getTimedOutUnfinishedTasks cutoff limit =>
      have hrows : timedOutUnfinishedTasks db' cutoff limit =
          timedOutUnfinishedTasks db cutoff limit := by
        unfold timedOutUnfinishedTasks
        rw [h.filter fun t hfinished => by simp [hfinished]]
      dsimp only [machine, exec]
      rw [hrows]
      split <;> exact ⟨rfl, h⟩
    | getPreparingVideoTasks limit =>
      have hrows : preparingVideoTasks db' limit = preparingVideoTasks db limit := by
        unfold preparingVideoTasks
        rw [h.filter fun t hfinished => ?_]
        exact decide_eq_false fun hstatus => by rw [hstatus] at hfinished; cases hfinished
      dsimp only [machine, exec]
      rw [hrows]
      split <;> exact ⟨rfl, h⟩
    | getAllUnFinishSyncTasks =>
      have hrows : allUnFinishSyncTasks db' w.taskQueryLimit =
          allUnFinishSyncTasks db w.taskQueryLimit := by
        unfold allUnFinishSyncTasks
        rw [h.filter fun t hfinished => by simp [hfinished]]
      dsimp only [machine, exec]
      rw [hrows]
      split
      · exact ⟨rfl, h⟩
      · exact ⟨rfl, h.accounts, h.rows⟩
    | getByTaskId | fetchRealtime => cases ho
    | fetchTask q t => exact ⟨rfl, h.accounts, h.rows⟩
    | fetchSuno q ids => exact ⟨rfl, h.accounts, h.rows⟩
    | updateWithStatus t old reply => exact agree_updateWithStatus h node w t old reply
    | updatePrivateDataWithStatus t old => exact ⟨rfl, agree_updatePrivateData h node w t old⟩
    | updateQuotaAndPrivateData t settles => exact ⟨rfl, agree_updateQuota h node w t settles⟩
    | update t q item => exact ⟨rfl, agree_update h node w t q item⟩
    | taskBulkUpdateByID ids reason => exact ⟨rfl, agree_bulk h node w ids reason⟩
    | taskAdjustFunding kind t delta => exact agree_funding h node w kind t delta
    | taskAdjustTokenQuota t delta =>
      refine ⟨rfl, ?_, h.rows⟩
      dsimp only [machine, exec]
      rw [h.accounts]

abbrev conditions : Conditions Op Op.Ret Job World Db :=
  pollConditions Job.isPoll (fun _ _ _ => true) fun _ _ => true

def vocabulary : RowVocabulary where
  Tracked := False
  SunoTracked := False
  Realtime := False
  Rewrites _ _ := True
  Named _ := True
  Good _ := True

def Polls (_ : Nat) (o : Op) (_ : World) (_ : Db) : Prop := o.realtime = false

variable (node : Nat)

theorem rules : RowRules vocabulary conditions (fun _ => True) Polls node where
  sunoTracked := .inr fun _ => trivial
  good_timedOut _ _ := trivial
  good_preparationFailed _ _ _ := trivial
  good_activated _ _ _ _ := trivial
  rows _ _ := trivial
  plain _ _ _ hrealtime := hrealtime.resolve_right False.elim
  read _ _ _ _ := ⟨trivial, trivial⟩
  unfinished _ _ := ⟨False.elim, False.elim⟩
  fetch _ _ := ⟨rfl, fun _ _ _ _ _ _ _ _ _ => trivial⟩
  fetchRealtime hrealtime := hrealtime.elim
  fetchSuno _ := ⟨rfl, fun _ _ => ⟨False.elim, fun _ _ _ _ => trivial⟩⟩
  transition _ _ _ _ _ := ⟨rfl, fun _ _ _ => trivial⟩
  bulk _ _ _ _ _ := ⟨rfl, trivial⟩
  save _ _ _ _ := ⟨rfl, fun _ _ => trivial⟩

theorem sound : Sound machine conditions (rowLogic vocabulary (fun _ => True) Polls) program :=
  RowRules.sound rules fun _ j hj => by
    cases j with
    | poll => rfl
    | channel => cases hj
    | realtimeFetch => cases hj

def billing (db : Db) (id : Nat) : (Account → Option Int) × Option Int :=
  (balance db.accounts, (db.tasks.find? id).map Task.quota)

theorem Agree.billed (h : Agree db db') (id : Nat) : billing db' id = billing db id := by
  unfold billing
  rw [h.accounts]
  obtain ⟨hrow, hrow'⟩ | ⟨row, row', hrow, hrow', halike⟩ := h.row id
  · rw [hrow, hrow']
  · rw [hrow, hrow', Option.map_some, Option.map_some, halike.quota]

theorem Agree.later (h : Agree db db') {moves : List (Move Job World)}
    (hrun : Along (System.step machine program) conditions.Meets ⟨db, []⟩ moves) (id : Nat) :
    billing (run (System.step machine program) ⟨db', []⟩ moves).state id =
      billing (run (System.step machine program) ⟨db, []⟩ moves).state id := by
  have hstart : Holds machine conditions (rowLogic vocabulary (fun _ => True) Polls) ⟨db, []⟩ :=
    holds_of_rows trivial
  have hstep : ∀ (sys sys' : System Op Op.Ret Job Db) (move : Move Job World),
      sys.Related Agree sys' →
      Checked machine (rowLogic vocabulary (fun _ => True) Polls) sys move →
      (sys.step machine program move).Related Agree (sys'.step machine program move) :=
    fun sys sys' move hrel hcheck => lockstep.step (fun _ _ _ _ hpolls => hpolls) hrel hcheck
  have hrelated := run_rel _ hstep
    (show System.Related Agree ⟨db, []⟩ ⟨db', []⟩ from ⟨rfl, h⟩) (hstart.along sound hrun).1
  exact hrelated.state.billed id

/-! ## The billing of the poller -/

def billedQuota (w : World) (t : Task) (info : TaskInfo) : Int :=
  if t.status = .success then
    match settlementQuota w t info with
    | none => 0
    | some quota => quota - t.quota
  else -t.quota

/-- The billing of the poller changes nothing: nothing is moved, the subscription has no room, or
the refund does not show. -/
def NothingBilled (w : World) (a : Accounts) (t : Task) (info : TaskInfo) : Prop :=
  billedQuota w t info = 0 ∨ ¬HasRoom a (billedQuota w t info) t.account ∨
    (t.status = .failure ∧ ¬Shifts a (billedQuota w t info) t.account ∧
      ¬t.tokenShifts w.tokenFound a)

instance (w : World) (a : Accounts) (t : Task) (info : TaskInfo) :
    Decidable (NothingBilled w a t info) :=
  inferInstanceAs (Decidable (_ ∨ _ ∨ _))

section Funding

variable {w : World} {db : Db} {t : Task} {delta : Int}

theorem exec_funding_error {e : QuotaError}
    (h : taskAdjustFunding w.write db.accounts t delta = .error e) (node : Nat) (kind : BillKind) :
    machine.exec node (.taskAdjustFunding kind t delta) w db = (false, db) := by
  dsimp only [machine, exec]
  rw [h]

theorem exec_funding_ok {a : Accounts} (h : taskAdjustFunding w.write db.accounts t delta = .ok a)
    (node : Nat) (kind : BillKind) :
    machine.exec node (.taskAdjustFunding kind t delta) w db =
      (true, { db with accounts := a, bills := ⟨kind, node, t, delta⟩ :: db.bills }) := by
  dsimp only [machine, exec]
  rw [h]

end Funding

theorem refund_agree (hw : w.write = .done)
    (h : t.quota = 0 ∨ ¬HasRoom db.accounts (-t.quota) t.account ∨
      ¬Shifts db.accounts (-t.quota) t.account ∧ ¬t.tokenShifts w.tokenFound db.accounts)
    (node : Nat) : Agree db ((refundTaskQuota .refund t).eval machine node w db).2 := by
  unfold refundTaskQuota
  split
  · exact .refl db
  rename_i hquota
  have hdelta : -t.quota ≠ 0 := by omega
  rw [eval_bind, eval_call]
  cases hfund : taskAdjustFunding w.write db.accounts t (-t.quota) with
  | error e =>
    rw [exec_funding_error hfund]
    exact .refl db
  | ok a =>
    rw [exec_funding_ok hfund]
    rw [hw] at hfund
    have hroom := (taskAdjustFunding_ok_iff hdelta).mp ⟨a, hfund⟩
    obtain ⟨hshift, htoken⟩ := (h.resolve_left hquota).resolve_left (not_not.mpr hroom)
    obtain rfl : a = db.accounts := (taskAdjustFunding_shifts hdelta hfund).2 hshift
    refine ⟨?_, (Agree.refl db).rows⟩
    show taskAdjustTokenQuota w.tokenFound w.write db.accounts t (-t.quota) = db.accounts
    rw [hw]
    exact (taskAdjustTokenQuota_shifts hdelta).2 htoken

theorem refund_differs (hw : w.write = .done) (hquota : t.quota ≠ 0)
    (hroom : HasRoom db.accounts (-t.quota) t.account)
    (hshift : Shifts db.accounts (-t.quota) t.account ∨ t.tokenShifts w.tokenFound db.accounts)
    (node : Nat) :
    balance ((refundTaskQuota .refund t).eval machine node w db).2.accounts ≠
      balance db.accounts := by
  have hdelta : -t.quota ≠ 0 := by omega
  obtain ⟨a, hfund⟩ := (taskAdjustFunding_ok_iff hdelta).mpr hroom
  have heval : ((refundTaskQuota .refund t).eval machine node w db).2.accounts =
      taskAdjustTokenQuota w.tokenFound .done a t (-t.quota) := by
    unfold refundTaskQuota
    rw [if_neg hquota, eval_bind, eval_call, exec_funding_ok (hw.symm ▸ hfund)]
    show taskAdjustTokenQuota w.tokenFound w.write a t (-t.quota) = _
    rw [hw]
  obtain ⟨taken, htakes, hfunded⟩ := (taskAdjustFunding_shifts hdelta hfund).1
  obtain ⟨taken', htakes', htoken⟩ := (taskAdjustTokenQuota_shifts (a := a) (t := t) hdelta).1
  have hdrawn := ((drawn_refl t.account (.token t.privateData.tokenId) db.accounts).first
    htakes).second htakes'
  have hne : t.account ≠ .token t.privateData.tokenId := by
    unfold Task.account
    split <;> exact nofun
  intro hsame
  rw [heval] at hsame
  have hnothing := drawn_of_balance_eq t.account (.token t.privateData.tokenId) hsame
  obtain hshift | hshift := hshift
  · obtain ⟨hne_zero, hsome⟩ := hfunded hshift
    have hzero := hdrawn.first_unique hnothing hne hsome
    omega
  obtain ⟨hid, hkey, hremain⟩ := hshift
  have hremain' : balance a (.token t.privateData.tokenId) ≠ none := by
    rw [htakes, Ne, Option.map_eq_none_iff]
    exact hremain
  have hzero := hdrawn.symm.first_unique hnothing.symm hne.symm hremain
  have hne_zero := htoken ⟨hid, hkey, hremain'⟩
  omega

@[simp] theorem withActualQuota_id (w : World) (t : Task) (info : TaskInfo) :
    (t.withActualQuota w info).id = t.id := by
  unfold Task.withActualQuota
  split <;> rfl

@[simp] theorem withActualQuota_quota (w : World) (t : Task) (info : TaskInfo) :
    (t.withActualQuota w info).quota = t.quota := by
  unfold Task.withActualQuota
  split <;> rfl

@[simp] theorem withActualQuota_account (w : World) (t : Task) (info : TaskInfo) :
    (t.withActualQuota w info).account = t.account := by
  unfold Task.withActualQuota
  split <;> rfl

theorem recalculate_agree (hw : w.write = .done) {row : Task} {quota : Int}
    (hrow : db.tasks.find? t.id = some row) (hfinished : row.status.finished = true)
    (hquota : row.quota = t.quota)
    (h : quota - t.quota = 0 ∨ ¬HasRoom db.accounts (quota - t.quota) t.account) (node : Nat) :
    Agree db ((recalculateTaskQuota t quota).eval machine node w db).2 := by
  unfold recalculateTaskQuota
  dsimp only
  split
  · rw [eval_bind, eval_call]
    dsimp only [machine, exec]
    rw [hw, hrow]
    refine ⟨rfl, ?_⟩
    have hself : db.tasks.put row = db.tasks := Table.put_self hrow
    have halike : Alike row
        { row with quota := t.quota, privateData := t.privateData, updatedAt := w.now } :=
      .inr ⟨rfl, rfl, hfinished, hquota.symm⟩
    have hrows := Table.put_rel Alike.key (Agree.refl db).rows halike
    rwa [hself] at hrows
  rename_i hdelta
  rw [eval_bind, eval_call]
  cases hfund : taskAdjustFunding w.write db.accounts t (quota - t.quota) with
  | error e =>
    rw [exec_funding_error hfund]
    exact .refl db
  | ok a =>
    rw [hw] at hfund
    have hroom := (taskAdjustFunding_ok_iff hdelta).mp ⟨a, hfund⟩
    exact absurd hroom (h.resolve_left hdelta)

theorem recalculate_differs (hw : w.write = .done) {row : Task} {quota : Int}
    (hrow : db.tasks.find? t.id = some row) (hdelta : quota - t.quota ≠ 0)
    (hroom : HasRoom db.accounts (quota - t.quota) t.account) (node : Nat) :
    (((recalculateTaskQuota t quota).eval machine node w db).2.tasks.find? t.id).map Task.quota =
      some quota := by
  obtain ⟨a, hfund⟩ := (taskAdjustFunding_ok_iff hdelta).mpr hroom
  unfold recalculateTaskQuota
  rw [if_neg hdelta, eval_bind, eval_call, exec_funding_ok (hw.symm ▸ hfund)]
  rw [if_pos rfl, eval_bind, eval_call, eval_bind, eval_call]
  dsimp only [machine, exec]
  rw [hw, hrow]
  have hid : row.id = t.id := Table.find?_key hrow
  have hstored := Table.find?_put_of_find? hrow
    { row with quota, privateData := t.privateData, updatedAt := w.now } hid
  exact congrArg (Option.map Task.quota) hstored

section Bill

variable {w : World} {t row : Task} {info : TaskInfo} {db : Db}

theorem bill_agree (hw : w.write = .done) (hrow : db.tasks.find? t.id = some row)
    (hstatus : row.status = t.status) (hfinished : t.status.finished = true)
    (hquota : row.quota = t.quota) (h : NothingBilled w db.accounts t info) (node : Nat) :
    Agree db ((billFinished w t info).eval machine node w db).2 := by
  unfold billFinished
  split
  next hsuccess =>
    unfold NothingBilled billedQuota at h
    rw [if_pos hsuccess] at h
    unfold settleTaskBillingOnComplete
    cases hsettle : settlementQuota w t info with
    | none => exact .refl db
    | some quota =>
      rw [hsettle] at h
      refine recalculate_agree hw ?_ (hstatus ▸ hfinished) ?_ ?_ node
      · rwa [withActualQuota_id]
      · rw [withActualQuota_quota, hquota]
      rw [withActualQuota_quota, withActualQuota_account]
      refine h.imp_right fun h => h.resolve_right ?_
      rintro ⟨hfailure, -⟩
      rw [hsuccess] at hfailure
      cases hfailure
  rename_i hne
  split
  next hfailure =>
    rw [eval_bind]
    refine refund_agree hw ?_ node
    unfold NothingBilled billedQuota at h
    rw [if_neg hne] at h
    refine h.imp (fun h => by omega) (Or.imp_right And.right)
  · exact .refl db

theorem bill_differs (hw : w.write = .done) (hrow : db.tasks.find? t.id = some row)
    (hfinished : t.status.finished = true) (hquota : row.quota = t.quota)
    (h : ¬NothingBilled w db.accounts t info) (node : Nat) :
    billing ((billFinished w t info).eval machine node w db).2 t.id ≠ billing db t.id := by
  unfold NothingBilled billedQuota at h
  push Not at h
  obtain ⟨hdelta, hroom, hshift⟩ := h
  unfold billFinished
  split
  next hsuccess =>
    rw [if_pos hsuccess] at hdelta hroom
    unfold settleTaskBillingOnComplete
    cases hsettle : settlementQuota w t info with
    | none => simp [hsettle] at hdelta
    | some quota =>
      simp only [hsettle] at hdelta hroom
      intro hsame
      have hbefore : (db.tasks.find? t.id).map Task.quota = some t.quota := by
        rw [hrow, Option.map_some, hquota]
      have hafter := recalculate_differs hw (t := t.withActualQuota w info)
        (by rwa [withActualQuota_id]) (by rwa [withActualQuota_quota])
        (by rwa [withActualQuota_quota, withActualQuota_account]) node
      rw [withActualQuota_id] at hafter
      have hquotas := (hafter.symm.trans (congrArg Prod.snd hsame)).trans hbefore
      rw [Option.some.injEq] at hquotas
      omega
  rename_i hne
  have hfailure : t.status = .failure := by
    cases hstatus : t.status <;> simp_all [TaskStatus.finished]
  rw [if_neg hne] at hdelta hroom hshift
  have hpaid : t.quota ≠ 0 := by omega
  rw [if_pos ⟨hfailure, hpaid⟩, eval_bind]
  intro hsame
  refine refund_differs hw hpaid hroom ?_ node (congrArg Prod.fst hsame)
  by_cases hfunded : Shifts db.accounts (-t.quota) t.account
  · exact .inl hfunded
  · exact .inr (hshift hfailure hfunded)

end Bill

def realtime (w : World) (t : Task) (db : Db) : Db :=
  ((tryRealtimeFetch t).eval machine node w db).2

def polled (w : World) (channelType : Nat) (t : Task) (db : Db) : Db :=
  ((updateVideoSingleTask t.channelId channelType t).eval machine node w db).2

def Applied (w : World) (channelType : Nat) (t : Task) (info : TaskInfo) (data : String) : Task :=
  ({ t with data }.applyTaskInfo w channelType info).2

structure Finishes (id : Nat) (db db' : Db) : Prop where
  unfinished : ∃ st, db.status id = some st ∧ st.finished = false
  finished : ∃ st, db'.status id = some st ∧ st.finished = true

theorem Finishes.ne {id : Nat} (h : Finishes id db db') : db'.status id ≠ db.status id := by
  obtain ⟨⟨st, hst, hunfinished⟩, st', hst', hfinished⟩ := h
  rw [hst, hst']
  intro heq
  cases heq
  rw [hunfinished] at hfinished
  cases hfinished

section Transitions

variable {node : Nat} {w : World} {db : Db} {t row : Task} {info : TaskInfo} {data : String}

theorem eval_observe {α : Type} (next : World → Prog α) :
    (call .observe >>= next).eval machine node w db = (next w).eval machine node w db := rfl

theorem eval_fetchRealtime {α : Type} (next : FetchReply → Prog α) :
    (call (.fetchRealtime t) >>= next).eval machine node w db =
      (next (w.fetch t.channelId t)).eval machine node w db := rfl

theorem eval_fetchTask {α : Type} (q : Query) (next : FetchReply → Prog α) :
    (call (.fetchTask q t) >>= next).eval machine node w db =
      (next (w.fetch q.channel t)).eval machine node w { db with queries := q :: db.queries } := rfl

theorem realtime_cases (hreply : w.fetch t.channelId t = .parsed info data) :
    realtime node w t db = db ∨ realtime node w t db =
      (exec node (.updateWithStatus (t.applyRealtime w info) t.status none) w db).2 := by
  generalize hend : realtime node w t db = db'
  unfold realtime tryRealtimeFetch at hend
  rw [eval_observe] at hend
  split at hend
  · exact .inl hend.symm
  split at hend
  · exact .inl hend.symm
  rw [eval_fetchRealtime, hreply] at hend
  dsimp only at hend
  split at hend
  · exact .inr hend.symm
  · exact .inl hend.symm

theorem realtime_finishes (h : Finishes t.id db (realtime node w t db))
    (hreply : w.fetch t.channelId t = .parsed info data) :
    ∃ row, db.tasks.find? t.id = some row ∧ row.status = t.status ∧
      t.status.finished = false ∧ info.status.finished = true ∧ w.write = .done ∧
      realtime node w t db = db.save node row { t.applyRealtime w info with updatedAt := w.now } := by
  have hmoved := h.ne
  have hupdate := (realtime_cases hreply).resolve_left fun hsame => hmoved (hsame.symm ▸ rfl)
  obtain ⟨-, hsame⟩ | ⟨row, hrow, hstatus, hwon⟩ :=
    exec_updateWithStatus node (t.applyRealtime w info) t.status none w db
  · rw [hupdate, hsame] at hmoved
    exact absurd rfl hmoved
  have hsave : realtime node w t db =
      db.save node row { t.applyRealtime w info with updatedAt := w.now } :=
    hupdate.trans (congrArg Prod.snd hwon)
  have hunfinished : t.status.finished = false := by
    obtain ⟨st, hst, hunfinished⟩ := h.unfinished
    have hst' := (Db.status_of_find? hrow).symm.trans hst
    rw [hstatus, Option.some.injEq] at hst'
    rwa [hst']
  have hfinished : (t.applyRealtime w info).status.finished = true := by
    obtain ⟨st, hst, hfinished⟩ := h.finished
    have hstored := Db.status_save (t := { t.applyRealtime w info with updatedAt := w.now })
      hrow rfl node t.id
    rw [if_pos (show t.id = (t.applyRealtime w info).id from rfl)] at hstored
    rw [hsave, hstored, Option.some.injEq] at hst
    rwa [← hst] at hfinished
  refine ⟨row, hrow, hstatus, hunfinished, ?_, ?_, hsave⟩
  · -- The status of the row is kept if the reply has none.
    change (if info.status ≠ .empty then info.status else t.status).finished = true at hfinished
    split at hfinished
    · exact hfinished
    · rw [hunfinished] at hfinished
      cases hfinished
  cases hw : w.write with
  | done => rfl
  | fails =>
    have hlost := congrArg Prod.fst hwon
    dsimp only [exec] at hlost
    rw [hw] at hlost
    cases hlost

theorem applyTaskInfo_finished (t : Task) (w : World) (data : String)
    (hfinished : info.status.finished = true) (channelType : Nat) :
    { t with data }.applyTaskInfo w channelType info = (true, Applied w channelType t info data) ∧
      (Applied w channelType t info data).id = t.id ∧
      (Applied w channelType t info data).status = info.status ∧
      (Applied w channelType t info data).quota = t.quota := by
  unfold Applied Task.applyTaskInfo
  cases hstatus : info.status <;> first
    | exact ⟨rfl, rfl, rfl, rfl⟩
    | (rw [hstatus] at hfinished; cases hfinished)

theorem polled_eq (node channelType : Nat) (hcancelled : w.cancelled = false)
    (hreply : w.fetch t.channelId t = .parsed info data) (hrow : db.tasks.find? t.id = some row)
    (hstatus : row.status = t.status) (hunfinished : t.status.finished = false)
    (hfinished : info.status.finished = true) (hw : w.write = .done) :
    polled node w channelType t db =
      ((billFinished w (Applied w channelType t info data) info).eval machine node w
        ({ db with queries := ⟨t.channelId, [t.id]⟩ :: db.queries }.save node row
          { Applied w channelType t info data with updatedAt := w.now })).2 := by
  obtain ⟨happly, hid, hstatus', -⟩ := applyTaskInfo_finished t w data hfinished channelType
  have hresolve : info.resolve = some info := by
    unfold TaskInfo.resolve
    rw [if_pos]
    rintro hempty
    rw [hempty] at hfinished
    cases hfinished
  have hmoves : (Applied w channelType t info data).status.finished = true ∧
      t.status ≠ (Applied w channelType t info data).status := by
    rw [hstatus']
    refine ⟨hfinished, fun heq => ?_⟩
    rw [heq, hfinished] at hunfinished
    cases hunfinished
  unfold polled updateVideoSingleTask
  rw [eval_observe, hcancelled, if_neg nofun]
  rw [eval_fetchTask, hreply]
  dsimp only
  rw [hresolve]
  dsimp only
  rw [happly]
  dsimp only
  unfold storeTaskInfo
  rw [if_pos hmoves, eval_bind, eval_call]
  have hwon : machine.exec node (.updateWithStatus (Applied w channelType t info data) t.status
      (some ⟨t.channelId, [t.id]⟩)) w { db with queries := ⟨t.channelId, [t.id]⟩ :: db.queries } =
      (some true, { db with queries := ⟨t.channelId, [t.id]⟩ :: db.queries }.save node row
          { Applied w channelType t info data with updatedAt := w.now }) := by
    dsimp only [machine, exec]
    rw [hw, hid, hrow]
    dsimp only
    rw [if_pos hstatus]
  rw [hwon, if_pos rfl]

theorem applied_alike (hfinished : info.status.finished = true) (channelType : Nat) :
    Alike { t.applyRealtime w info with updatedAt := w.now }
      { Applied w channelType t info data with updatedAt := w.now } := by
  obtain ⟨-, hid, hstatus, hquota⟩ := applyTaskInfo_finished t w data hfinished channelType
  have hrealtime : (t.applyRealtime w info).status = info.status := by
    refine if_pos ?_
    intro hempty
    rw [hempty] at hfinished
    cases hfinished
  exact .inr ⟨hid, hstatus.trans hrealtime.symm, hrealtime.symm ▸ hfinished, hquota⟩

end Transitions

/-- For every reply with which a realtime fetch finishes a task: after all later passes balances and
recorded quota are as if the poller had finished it on the same reply exactly if the poller's
billing changes nothing. -/
theorem realtime_billed_iff (node node' : Nat) (w : World) (db : Db) (t : Task) (channelType : Nat)
    (info : TaskInfo) (data : String) (hcancelled : w.cancelled = false)
    (hreply : w.fetch t.channelId t = .parsed info data)
    (hfinishes : Finishes t.id db (realtime node w t db)) :
    (∀ moves, Along (System.step machine program) conditions.Meets
        ⟨realtime node w t db, []⟩ moves →
      billing (run (System.step machine program) ⟨realtime node w t db, []⟩ moves).state t.id =
        billing (run (System.step machine program)
          ⟨polled node' w channelType t db, []⟩ moves).state t.id) ↔
      NothingBilled w db.accounts (Applied w channelType t info data) info := by
  obtain ⟨row, hrow, hstatus, hunfinished, hfinished, hw, hrealtime⟩ :=
    realtime_finishes hfinishes hreply
  have hpolled := polled_eq node' channelType hcancelled hreply hrow hstatus hunfinished
    hfinished hw
  obtain ⟨-, hid, hstatus', hquota⟩ := applyTaskInfo_finished t w data hfinished channelType
  -- The database in which the poller has stored the task and not yet billed it.
  generalize hstored : ({ db with queries := ⟨t.channelId, [t.id]⟩ :: db.queries }.save node' row
    { Applied w channelType t info data with updatedAt := w.now }) = stored at hpolled
  have hagree : Agree (realtime node w t db) stored := by
    rw [hrealtime, ← hstored]
    have hasked : Agree db { db with queries := ⟨t.channelId, [t.id]⟩ :: db.queries } :=
      ⟨rfl, (Agree.refl db).rows⟩
    exact hasked.save (applied_alike hfinished channelType) node node' row row
  have hfind : stored.tasks.find? (Applied w channelType t info data).id =
      some { Applied w channelType t info data with updatedAt := w.now } := by
    rw [← hstored, hid]
    exact Table.find?_put_of_find? hrow _ hid
  have haccounts : stored.accounts = db.accounts := by rw [← hstored]; rfl
  have hfinished' : (Applied w channelType t info data).status.finished = true :=
    hstatus' ▸ hfinished
  rw [← haccounts]
  constructor
  · intro hsame
    by_contra hbilled
    refine bill_differs hw hfind hfinished' rfl hbilled node' ?_
    rw [hid, ← hpolled, hagree.billed]
    exact (hsame [] trivial).symm
  intro hnothing moves hrun
  have hbill := bill_agree hw hfind rfl hfinished' rfl hnothing node'
  rw [← hpolled] at hbill
  exact ((hagree.trans hbill).later hrun t.id).symm

def sampleTask : Task where
  id := 1
  taskID := "task"
  platform := .video 24
  userId := 1
  channelId := 7
  quota := 10
  status := .inProgress
  progress := "30%"
  submitTime := 2000000000

def sampleDb : Db where
  tasks := ⟨[sampleTask], List.nodup_singleton _⟩
  accounts := { users := .single ⟨1, 0⟩ }

def answering (status : TaskStatus) (actualQuota : Int) : World where
  now := 2000000000
  fetch _ _ := .parsed { status := status } ""
  adjustBillingOnComplete _ _ := actualQuota

def onePass (w : World) : List (Move Job World) :=
  .start 0 .poll :: List.replicate 8 (.run 0 w)

def after (db : Db) (w : World) : Bool × Option Int × Option Int :=
  let sys := run (System.step machine program) ⟨db, []⟩ (onePass w)
  (decide sys.Quiet, (sys.state.tasks.find? 1).map Task.quota, sys.state.accounts.userQuota 1)

/-- A failed task, and one that cost less than was reserved: nothing is given back, where the poller
gives back 10 and 6. -/
theorem realtime_not_billed :
    let failed := answering .failure 0
    let done := answering .success 4
    ((realtime 0 failed sampleTask sampleDb).status 1 = some .failure ∧
      after (realtime 0 failed sampleTask sampleDb) failed = (true, some 10, some 0) ∧
      after (polled 0 failed 24 sampleTask sampleDb) failed = (true, some 10, some 10)) ∧
    (realtime 0 done sampleTask sampleDb).status 1 = some .success ∧
      after (realtime 0 done sampleTask sampleDb) done = (true, some 10, some 0) ∧
      after (polled 0 done 24 sampleTask sampleDb) done = (true, some 4, some 6) := by
  decide +kernel

theorem realtime_billed_sample : billing (run (System.step machine program)
        ⟨realtime 0 (answering .success 10) sampleTask sampleDb, []⟩
        (onePass (answering .success 10))).state 1 =
      billing (run (System.step machine program)
        ⟨polled 0 (answering .success 10) 24 sampleTask sampleDb, []⟩
        (onePass (answering .success 10))).state 1 :=
  (realtime_billed_iff 0 0 (answering .success 10) sampleDb sampleTask 24 { status := .success } ""
    rfl rfl ⟨⟨.inProgress, by decide +kernel, rfl⟩, .success, by decide +kernel, rfl⟩).mpr
    (by decide +kernel) (onePass (answering .success 10)) (by decide +kernel)

end ZModel.Tasks.RealtimeBilling
