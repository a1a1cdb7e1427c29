import Mathlib.Algebra.Order.PUnit
import ZModel.Tasks.Passes

/-!
# Statements of the polling service

What single statements do to the database, and `StateRules`: what has to be shown of an invariant
for its logic to follow `PollRules`.
-/

namespace ZModel.Tasks

open Lib

def Db.row (db : Db) (id : Nat) : Option (TaskStatus × String) :=
  (db.tasks.find? id).map fun t => (t.status, t.progress)

theorem Db.status_eq_row (db : Db) (id : Nat) : db.status id = (db.row id).map Prod.fst := by
  simp only [Db.status, Db.row, Option.map_map, Function.comp_def]

variable {db : Db} {t : Task}

theorem Db.row_of_find? {id : Nat} (h : db.tasks.find? id = some t) :
    db.row id = some (t.status, t.progress) := by
  rw [Db.row, h, Option.map_some]

theorem Db.status_of_find? {id : Nat} (h : db.tasks.find? id = some t) :
    db.status id = some t.status := by
  rw [Db.status, h, Option.map_some]

structure Db.Like (db db' : Db) : Prop where
  row : ∀ id, db'.row id = db.row id
  bills : db'.bills = db.bills
  failures : db'.failures = db.failures
  polled : db'.polled = db.polled
  queries : db'.queries = db.queries

theorem Db.Like.refl (db : Db) : db.Like db := ⟨fun _ => rfl, rfl, rfl, rfl, rfl⟩

theorem Db.Like.status {db db' : Db} (h : db.Like db') (id : Nat) : db'.status id = db.status id := by
  rw [db'.status_eq_row, h.row, db.status_eq_row]

theorem Db.Like.put {key : Nat} {row t : Task} (hrow : db.tasks.find? key = some row)
    (hid : t.id = row.id) (hstatus : t.status = row.status) (hprogress : t.progress = row.progress) :
    db.Like { db with tasks := db.tasks.put t } := by
  have hkey : t.id = key := hid.trans (Table.find?_key hrow)
  refine ⟨fun id => ?_, rfl, rfl, rfl, rfl⟩
  unfold Db.row
  rw [Table.find?_put, key_task, hkey]
  split
  next heq =>
    rw [heq, hrow, Option.map_map, Option.map_some, Option.map_some]
    simp only [Function.comp_apply, hstatus, hprogress]
  · rfl

def Op.quiet : Op → Bool
  | .observe | .getTimedOutUnfinishedTasks _ _ | .getPreparingVideoTasks _ | .getByTaskId _ _
  | .fetchRealtime _ | .updatePrivateDataWithStatus _ _ | .updateQuotaAndPrivateData _ false
  | .taskAdjustTokenQuota _ _ => true
  | _ => false

theorem exec_quiet {o : Op} (ho : o.quiet = true) (node : Nat) (w : World) (db : Db) :
    db.Like (exec node o w db).2 := by
  cases o with
  | observe | fetchRealtime t | taskAdjustTokenQuota t delta =>
    exact ⟨fun _ => rfl, rfl, rfl, rfl, rfl⟩
  | getTimedOutUnfinishedTasks | getPreparingVideoTasks | getByTaskId =>
    simp only [exec]
    split <;> exact Db.Like.refl db
  | updatePrivateDataWithStatus t old =>
    simp only [exec]
    split
    next row _ hrow =>
      split
      · exact Db.Like.put (t := { row with privateData := t.privateData, updatedAt := w.now })
          hrow rfl rfl rfl
      · exact Db.Like.refl db
    · exact Db.Like.refl db
  | updateQuotaAndPrivateData t settles =>
    cases settles with
    | true => cases ho
    | false =>
      simp only [exec]
      split
      next row _ hrow =>
        exact Db.Like.put (t := { row with
          quota := t.quota, privateData := t.privateData, updatedAt := w.now })
          hrow rfl rfl rfl
      · exact Db.Like.refl db
  | _ => cases ho

variable {limit : Nat}

theorem mem_timedOut {cutoff : Int} (h : t ∈ timedOutUnfinishedTasks db cutoff limit) :
    t ∈ db.tasks.rows ∧ t.progress ≠ "100%" ∧ t.status.finished = false := by
  have h := (List.mem_insertionSort _).mp (List.mem_of_mem_take h)
  simp only [List.mem_filter, Bool.and_eq_true, decide_eq_true_eq, Bool.not_eq_true'] at h
  exact ⟨h.1, h.2.1.1, h.2.1.2⟩

theorem mem_preparing (h : t ∈ preparingVideoTasks db limit) :
    t ∈ db.tasks.rows ∧ t.status = .preparing := by
  have h := (List.mem_insertionSort _).mp (List.mem_of_mem_take h)
  simpa only [List.mem_filter, decide_eq_true_eq] using h

theorem mem_unfinished (h : t ∈ allUnFinishSyncTasks db limit) :
    t ∈ db.tasks.rows ∧ t.progress ≠ "100%" ∧ t.status.finished = false := by
  have h := (List.mem_insertionSort _).mp (List.mem_of_mem_take h)
  simp only [List.mem_filter, Bool.and_eq_true, decide_eq_true_eq, Bool.not_eq_true'] at h
  exact ⟨h.1, h.2.1.1, h.2.1.2⟩

theorem mem_byTaskId {userId : Nat} {taskID : String}
    (h : byTaskId db userId taskID = some t) : t ∈ db.tasks.rows := by
  unfold byTaskId at h
  split at h
  · cases h
  · exact List.mem_of_find?_eq_some h

theorem exec_unfinished (node : Nat) (w : World) (db : Db) :
    exec node .getAllUnFinishSyncTasks w db = ([], db) ∨
    ∃ rows, rows = allUnFinishSyncTasks db w.taskQueryLimit ∧
      exec node .getAllUnFinishSyncTasks w db = (rows, { db with polled := rows ++ db.polled }) := by
  unfold exec
  dsimp only
  split
  · exact .inl rfl
  · exact .inr ⟨_, rfl, rfl⟩

theorem exec_updateWithStatus (node : Nat) (t : Task) (old : TaskStatus) (reply : Option Query)
    (w : World) (db : Db) :
    ((exec node (.updateWithStatus t old reply) w db).1 ≠ some true ∧
      (exec node (.updateWithStatus t old reply) w db).2 = db) ∨
    ∃ row, db.tasks.find? t.id = some row ∧ row.status = old ∧
      exec node (.updateWithStatus t old reply) w db =
        (some true, db.save node row { t with updatedAt := w.now }) := by
  unfold exec
  dsimp only
  split
  · exact .inl ⟨by simp, rfl⟩
  · exact .inl ⟨by simp, rfl⟩
  rename_i row _ hrow
  split
  next hstatus =>
    exact .inr ⟨row, hrow, hstatus, rfl⟩
  · exact .inl ⟨by simp, rfl⟩

theorem Db.status_save {key : Nat} {row t : Task} (hrow : db.tasks.find? key = some row)
    (hkey : t.id = key) (node id : Nat) :
    (db.save node row t).status id = if id = key then some t.status else db.status id := by
  split
  next hid =>
    rw [hid]
    exact Db.status_of_find? (Table.find?_put_of_find? hrow t hkey)
  next hid =>
    unfold Db.status Db.save
    rw [Table.find?_put_of_ne (by rwa [key_task, hkey])]

theorem exec_update (node : Nat) (t : Task) (q : Query) (item : String) (w : World) (db : Db) :
    (exec node (.update t q item) w db).2 = db ∨
    ∃ row, db.tasks.find? t.id = some row ∧
      (exec node (.update t q item) w db).2 = db.save node row { t with updatedAt := w.now } := by
  unfold exec
  dsimp only
  split
  next row _ hrow =>
    exact .inr ⟨row, hrow, rfl⟩
  · exact .inl rfl

theorem exec_update_done {w : World} (hw : w.write = .done) (node : Nat) {t row : Task} (q : Query)
    (item : String) (hrow : db.tasks.find? t.id = some row) :
    (exec node (.update t q item) w db).2 = db.save node row { t with updatedAt := w.now } := by
  unfold exec
  dsimp only
  rw [hw, hrow]

def Task.bulkFailed (now : Int) (reason : Option String) (row : Task) : Task :=
  { row with
    status := .failure, progress := "100%", failReason := reason.getD row.failReason
    updatedAt := now }

theorem exec_bulk {P : Db → Prop} (node : Nat) (ids : List Nat) (reason : Option String) (w : World)
    (hdb : P db) (hrow : ∀ db' id row, id ∈ ids → P db' → db'.tasks.find? id = some row →
      P (db'.save node row (row.bulkFailed w.now reason))) :
    P (exec node (.taskBulkUpdateByID ids reason) w db).2 := by
  unfold exec
  dsimp only
  split
  · exact hdb
  induction ids generalizing db with
  | nil => exact hdb
  | cons id ids ih =>
    rw [List.foldl_cons]
    refine ih ?_ fun db' id' row hid => hrow db' id' row (List.mem_cons_of_mem id hid)
    unfold Db.fail
    split
    · exact hdb
    next row hfind =>
      exact hrow db id row (.head _) hdb hfind

theorem exec_funding (node : Nat) (kind : BillKind) (t : Task) (delta : Int) (w : World) (db : Db) :
    ((∃ e, taskAdjustFunding w.write db.accounts t delta = .error e) ∧
      (exec node (.taskAdjustFunding kind t delta) w db).2 = db) ∨
    ∃ a, (exec node (.taskAdjustFunding kind t delta) w db).2 =
      { db with accounts := a, bills := ⟨kind, node, t, delta⟩ :: db.bills } := by
  unfold exec
  dsimp only
  split
  next e he =>
    exact .inl ⟨⟨e, he⟩, rfl⟩
  next a _ =>
    exact .inr ⟨a, rfl⟩

def Op.plain : Op → Bool
  | .fetchTask _ _ | .fetchSuno _ _ | .updateWithStatus _ _ _ | .update _ _ _
  | .taskBulkUpdateByID _ _ => false
  | _ => true

theorem exec_plain {o : Op} (ho : o.plain = true) (node : Nat) (w : World) (db : Db) (id : Nat) :
    (exec node o w db).2.row id = db.row id := by
  by_cases hquiet : o.quiet = true
  · exact (exec_quiet hquiet node w db).row id
  cases o with
  | getAllUnFinishSyncTasks =>
    obtain heq | ⟨rows, -, heq⟩ := exec_unfinished node w db
    · rw [heq]
    · rw [heq]
      rfl
  | taskAdjustFunding kind t delta =>
    obtain ⟨-, heq⟩ | ⟨a, heq⟩ := exec_funding node kind t delta w db
    · rw [heq]
    · rw [heq]
      rfl
  | updateQuotaAndPrivateData t settles =>
    -- The row is written as it is without the record of a settlement.
    have hlike := exec_quiet (o := .updateQuotaAndPrivateData t false) rfl node w db
    rw [← hlike.row id]
    unfold exec
    dsimp only
    split <;> rfl
  | fetchTask | fetchSuno | updateWithStatus | update | taskBulkUpdateByID => cases ho
  | observe | getTimedOutUnfinishedTasks | getPreparingVideoTasks | getByTaskId | fetchRealtime
  | updatePrivateDataWithStatus | taskAdjustTokenQuota => exact absurd rfl hquiet

def Op.realtime : Op → Bool
  | .getByTaskId _ _ | .fetchRealtime _ => true
  | _ => false

/-! ## Rules for states -/

def pollConditions (starts : Job → Bool) (allowed : Op → World → Db → Bool)
    (crashes : Nat → System Op Op.Ret Job Db → Bool) : Conditions Op Op.Ret Job World Db where
  start _ j := starts j = true
  run _ o w db := allowed o w db = true
  crash node sys := crashes node sys = true

section Computed

variable (starts : Job → Bool) (allowed : Op → World → Db → Bool)
  (crashes : Nat → System Op Op.Ret Job Db → Bool)

instance (node : Nat) (j : Job) : Decidable ((pollConditions starts allowed crashes).start node j) :=
  inferInstanceAs (Decidable (_ = true))

instance (node : Nat) (o : Op) (w : World) (db : Db) :
    Decidable ((pollConditions starts allowed crashes).run node o w db) :=
  inferInstanceAs (Decidable (_ = true))

instance (node : Nat) (sys : System Op Op.Ret Job Db) :
    Decidable ((pollConditions starts allowed crashes).crash node sys) :=
  inferInstanceAs (Decidable (_ = true))

end Computed

def idle (node : Nat) (sys : System Op Op.Ret Job Db) : Bool :=
  sys.threads.all fun t => t.node ≠ node || t.program.finished

theorem finished_of_idle {node : Nat} {sys : System Op Op.Ret Job Db} (h : idle node sys = true)
    {t : Thread Op Op.Ret Job} (ht : t ∈ sys.threads) (hnode : t.node = node) :
    t.program.finished = true := by
  simpa [hnode] using List.all_eq_true.mp h t ht

def Job.isPoll : Job → Bool
  | .poll => true
  | _ => false

variable {R : Type} [AddCommMonoid R]

def pollLogic (V : Nat → PollVocabulary R) (Inv : Db → R → Prop)
    (check : Nat → Op → World → Db → Prop) : Logic Op Job World Db R where
  Inv := Inv
  pre node j r := (V node).jobPre j r
  post node r := (V node).Over r
  held node _ r := (V node).Spare r
  check := check

abbrev PollVocabulary.RealtimeRule (V : PollVocabulary R)
    (C : Conditions Op Op.Ret Job World Db) (node : Nat) : Prop :=
  ∀ {w db t}, V.Realtime → C.run node (.fetchRealtime t) w db → V.Good t →
    ∀ info data, w.fetch t.channelId t = .parsed info data → ∀ w',
      V.Good (t.applyRealtime w' info) ∧ (V.Tracked → t.status.finished = false ∨
        V.Rewrites t.status (t.applyRealtime w' info).status)

structure StateRules (V : PollVocabulary R) (C : Conditions Op Op.Ret Job World Db)
    (Inv : Db → R → Prop) (check : Nat → Op → World → Db → Prop) (node : Nat) : Prop
    extends V.Lawful where
  spare_dues : ∀ {r} l, V.Spare r → V.Spare (r + V.dues l)
  spare_claim : ∀ {r} t, V.Spare r → V.Spare (r + V.claim t)
  spare_paid : ∀ {r} t, V.Spare r → V.Spare (r + V.paid t)
  like : ∀ {db db' r}, db.Like db' → Inv db r → Inv db' r
  plain : ∀ {o} w db, o.plain = true → o.realtime = false ∨ V.Realtime → check node o w db
  read : ∀ {db r}, Inv db r → ∀ t ∈ db.tasks.rows, V.Realtime ∨ t.status.finished = false →
    V.Named t.id ∧ V.Good t
  observe : ∀ {w db}, C.run node .observe w db → (w.cancelled = true → ∀ t, V.due t = 0) ∧
      (∀ t : Task, w.hasAdaptor t.platform = false → V.due t = 0) ∧
      ∀ t : Task, w.channelType t.channelId = none → V.due t = 0
  unfinished : ∀ {w db r rows}, C.run node .getAllUnFinishSyncTasks w db → Inv db r →
    rows = allUnFinishSyncTasks db w.taskQueryLimit →
    Inv { db with polled := rows ++ db.polled } (r + V.dues rows) ∧ (V.Tracked → Distinct rows) ∧
      (V.SunoTracked →
        ((rows.filter fun t => t.platform = .suno).map Task.getUpstreamTaskID).Nodup) ∧
      ∀ t ∈ rows, t.platform = .suno → V.SunoPolled
  fetch : ∀ {w db r t q}, C.run node (.fetchTask q t) w db → Inv db (r + V.due t) → V.Named t.id →
    (V.Tracked → V.Fresh t ∧ t.Answers q) →
    check node (.fetchTask q t) w db ∧ Inv { db with queries := q :: db.queries } r ∧
      V.Replied t (w.fetch q.channel t)
  fetchRealtime : V.RealtimeRule C node
  fetchSuno : ∀ {w db r q ids l}, V.SunoPolled → C.run node (.fetchSuno q ids) w db →
    Inv db (r + V.dues l) → q.asked = l.map Task.id →
    (V.SunoTracked → ids = l.map Task.getUpstreamTaskID ∧ ∀ t ∈ l, t.Answers q) →
    check node (.fetchSuno q ids) w db ∧ Inv { db with queries := q :: db.queries } r ∧
      ∀ items, w.fetchSuno q.channel ids = some items →
        (V.SunoTracked → (items.map SunoItem.taskID).Nodup ∧ ∀ item ∈ items, item.taskID ∈ ids) ∧
        ∀ item ∈ items, ∀ t, V.Fresh t → V.Good (t.sunoResult item)
  transition : ∀ {w db r t old reply}, C.run node (.updateWithStatus t old reply) w db →
    Inv db r → V.Named t.id → V.Good t →
    (V.Tracked → old.finished = false ∨ V.Realtime ∧ V.Rewrites old t.status) →
    (∀ q, reply = some q → V.Tracked → t.Answers q) →
    check node (.updateWithStatus t old reply) w db ∧
      ∀ row, db.tasks.find? t.id = some row → row.status = old →
        Inv (db.save node row { t with updatedAt := w.now }) (r + V.claim t)
  settlement : ∀ {db r t} delta, Inv db (r + V.claim t) → t.status = .success →
    Inv db r ∧ Inv { db with bills := ⟨.settlement, node, t, delta⟩ :: db.bills } r
  refund : ∀ {w db r t}, C.run node (.taskAdjustFunding .refund t (-t.quota)) w db →
    Inv db (r + V.claim t) → t.status = .failure → t.quota ≠ 0 →
    Inv (exec node (.taskAdjustFunding .refund t (-t.quota)) w db).2 r
  bulk : ∀ {w db r} (l : List Task) reason,
    C.run node (.taskBulkUpdateByID (l.map Task.id) reason) w db → Inv db r →
    (∀ t ∈ l, V.Named t.id) →
    check node (.taskBulkUpdateByID (l.map Task.id) reason) w db ∧
      Inv (exec node (.taskBulkUpdateByID (l.map Task.id) reason) w db).2 r
  sunoRefund : ∀ {w db r t}, V.SunoPolled →
    C.run node (.taskAdjustFunding .sunoRefund t (-t.quota)) w db → Inv db r → t.quota ≠ 0 →
    Inv (exec node (.taskAdjustFunding .sunoRefund t (-t.quota)) w db).2 (r + V.paid t) ∧
      V.Refunded t.status
  save : ∀ {w db r t q item}, V.SunoPolled → C.run node (.update t q item) w db → Inv db r →
    V.Named t.id → V.Good t → (V.SunoTracked → t.Answers q ∧ t.getUpstreamTaskID = item) →
    (t.status = .failure → t.quota = 0) →
    check node (.update t q item) w db ∧ Inv (exec node (.update t q item) w db).2 r
  savePaid : ∀ {w db r t q item}, V.SunoPolled → C.run node (.update t q item) w db →
    Inv db (r + V.paid t) → V.Named t.id → V.Good t →
    (V.SunoTracked → t.Answers q ∧ t.getUpstreamTaskID = item) → V.Refunded t.status →
    t.quota ≠ 0 →
    check node (.update t q item) w db ∧ Inv (exec node (.update t q item) w db).2 r

section Derivation

variable {V : Nat → PollVocabulary R} {C : Conditions Op Op.Ret Job World Db}
  {Inv : Db → R → Prop} {check : Nat → Op → World → Db → Prop} {node : Nat} {o : Op}

theorem safe_statement {r r' : R} {P : o.Ret → Prop} (hheld : (V node).Spare r)
    (h : ∀ w db rest, C.run node o w db → Inv db (r + rest) →
      check node o w db ∧ Inv (exec node o w db).2 (r' + rest) ∧ P (exec node o w db).1) :
    Safe machine C (pollLogic V Inv check) node (call o) r fun a s => s = r' ∧ P a :=
  .call hheld fun w db rest hrun _ hinv =>
    let ⟨hcheck, hinv', hP⟩ := h w db rest hrun hinv
    ⟨hcheck, r', hinv', rfl, hP⟩

theorem safe_statement' {r r' : R} (hheld : (V node).Spare r)
    (h : ∀ w db rest, C.run node o w db → Inv db (r + rest) →
      check node o w db ∧ Inv (exec node o w db).2 (r' + rest)) :
    Safe machine C (pollLogic V Inv check) node (call o) r fun _ s => s = r' :=
  .call hheld fun w db rest hrun _ hinv =>
    let ⟨hcheck, hinv'⟩ := h w db rest hrun hinv
    ⟨hcheck, r', hinv', rfl⟩

variable {r : R} (h : StateRules (V node) C Inv check node)

include h

theorem StateRules.safe_quiet (ho : o.quiet = true)
    (hrealtime : o.realtime = false ∨ (V node).Realtime) (hspare : (V node).Spare r)
    {P : o.Ret → Prop}
    (hP : ∀ w db rest, C.run node o w db → Inv db (r + rest) → P (exec node o w db).1) :
    Safe machine C (pollLogic V Inv check) node (call o) r fun a s => s = r ∧ P a := by
  refine safe_statement hspare fun w db rest hrun hinv => ⟨?_, ?_, hP w db rest hrun hinv⟩
  · refine h.plain w db ?_ hrealtime
    cases o <;> first | rfl | cases ho
  · exact h.like (exec_quiet ho node w db) hinv

theorem StateRules.safe_unread (ho : o.quiet = true) (hrealtime : o.realtime = false)
    (hspare : (V node).Spare r) :
    Safe machine C (pollLogic V Inv check) node (call o) r fun _ s => s = r :=
  (h.safe_quiet ho (.inl hrealtime) hspare (P := fun _ => True)
    fun _ _ _ _ _ => trivial).mono fun _ _ hs => hs.1

theorem StateRules.safe_rows (ho : o.quiet = true)
    (hrealtime : o.realtime = false ∨ (V node).Realtime) (hspare : (V node).Spare r)
    (rows : o.Ret → List Task) {P : Task → Prop}
    (hrows : ∀ w db, (∀ t ∈ rows (exec node o w db).1,
      t ∈ db.tasks.rows ∧ t.status.finished = false ∧ P t)) :
    Safe machine C (pollLogic V Inv check) node (call o) r fun a s => s = r ∧
      ∀ t ∈ rows a, (V node).Named t.id ∧ (V node).Good t ∧ t.status.finished = false ∧ P t := by
  refine h.safe_quiet ho hrealtime hspare fun w db rest _ hinv t ht => ?_
  obtain ⟨hmem, hunfinished, hP⟩ := hrows w db t ht
  obtain ⟨hnamed, hgood⟩ := h.read hinv t hmem (.inr hunfinished)
  exact ⟨hnamed, hgood, hunfinished, hP⟩

theorem StateRules.safe_timedOut (cutoff : Int) (limit : Nat) (hspare : (V node).Spare r) :
    Safe machine C (pollLogic V Inv check) node (call (.getTimedOutUnfinishedTasks cutoff limit)) r
      fun (rows : List Task) s => s = r ∧ ∀ t ∈ rows, (V node).Named t.id ∧ (V node).Fresh t := by
  refine (h.safe_rows rfl (.inl rfl) hspare id (P := fun t => t.progress ≠ "100%")
    fun w db t ht => ?_).mono fun rows s hs => ⟨hs.1, fun t ht => ?_⟩
  · simp only [exec] at ht
    split at ht
    · cases ht
    · obtain ⟨hmem, hprogress, hunfinished⟩ := mem_timedOut ht
      exact ⟨hmem, hunfinished, hprogress⟩
  · obtain ⟨hnamed, hgood, hunfinished, hprogress⟩ := hs.2 t ht
    exact ⟨hnamed, hgood, hunfinished, hprogress⟩

theorem StateRules.safe_preparing (limit : Nat) (hspare : (V node).Spare r) :
    Safe machine C (pollLogic V Inv check) node (call (.getPreparingVideoTasks limit)) r
      fun (rows : List Task) s => s = r ∧ ∀ t ∈ rows, (V node).Named t.id ∧ (V node).Good t := by
  refine (h.safe_rows rfl (.inl rfl) hspare id (P := fun _ => True) fun w db t ht => ?_).mono
    fun rows s hs => ⟨hs.1, fun t ht => ⟨(hs.2 t ht).1, (hs.2 t ht).2.1⟩⟩
  simp only [exec] at ht
  split at ht
  · cases ht
  obtain ⟨hmem, hstatus⟩ := mem_preparing ht
  refine ⟨hmem, ?_, trivial⟩
  rw [hstatus]
  rfl

theorem StateRules.safe_unfinished (hspare : (V node).Spare r) :
    Safe machine C (pollLogic V Inv check) node (call .getAllUnFinishSyncTasks) r
      fun (rows : List Task) s => s = r + (V node).dues rows ∧ (V node).Polled rows := by
  refine .call hspare fun w db rest hrun _ (hinv : Inv db (r + rest)) =>
    ⟨h.plain w db rfl (.inl rfl), ?_⟩
  show ∃ r', Inv (exec node .getAllUnFinishSyncTasks w db).2 (r' + rest) ∧
    r' = r + (V node).dues (exec node .getAllUnFinishSyncTasks w db).1 ∧
      (V node).Polled (exec node .getAllUnFinishSyncTasks w db).1
  obtain heq | ⟨rows, hrows, heq⟩ := exec_unfinished node w db
  · rw [heq]
    exact ⟨r, hinv, (add_zero r).symm, by simp, by simp, by simp [Distinct], by simp, by simp⟩
  rw [heq]
  obtain ⟨hinv', hdistinct, hsuno, hpolled⟩ := h.unfinished hrun hinv hrows
  rw [add_right_comm] at hinv'
  have hread : ∀ t ∈ rows, (V node).Named t.id ∧ (V node).Fresh t := by
    intro t ht
    obtain ⟨hmem, hprogress, hunfinished⟩ := mem_unfinished (hrows ▸ ht)
    obtain ⟨hnamed, hgood⟩ := h.read hinv t hmem (.inr hunfinished)
    exact ⟨hnamed, hgood, hunfinished, hprogress⟩
  exact ⟨_, hinv', rfl, fun t ht => (hread t ht).1, fun t ht => (hread t ht).2, hdistinct, hsuno,
    hpolled⟩

theorem StateRules.safe_byTaskId (userId : Nat) (taskID : String)
    (hrealtime : (V node).Realtime) (hspare : (V node).Spare r) :
    Safe machine C (pollLogic V Inv check) node (call (.getByTaskId userId taskID)) r
      fun (row : Option Task) s => s = r ∧
        ∀ t, row = some t → (V node).Named t.id ∧ (V node).Good t := by
  refine h.safe_quiet rfl (.inr hrealtime) hspare fun w db rest _ hinv t ht => ?_
  simp only [exec] at ht
  split at ht
  · cases ht
  · exact h.read hinv t (mem_byTaskId ht) (.inl hrealtime)

variable {t : Task}

theorem StateRules.safe_transition (old : TaskStatus) (reply : Option Query)
    (hspare : (V node).Spare r) (hnamed : (V node).Named t.id) (hgood : (V node).Good t)
    (hold : (V node).Tracked → old.finished = false ∨
      (V node).Realtime ∧ (V node).Rewrites old t.status)
    (hanswers : ∀ q, reply = some q → (V node).Tracked → t.Answers q) :
    Safe machine C (pollLogic V Inv check) node (call (.updateWithStatus t old reply)) r
      fun (won : Option Bool) s => s = r + if won = some true then (V node).claim t else 0 := by
  refine .call hspare fun w db rest hrun _ hinv => ?_
  obtain ⟨hcheck, hwin⟩ := h.transition hrun hinv hnamed hgood hold hanswers
  refine ⟨hcheck, ?_⟩
  obtain ⟨hlost, hsame⟩ | ⟨row, hrow, hstatus, hwon⟩ := exec_updateWithStatus node t old reply w db
  · refine ⟨r, ?_, ?_⟩
    · exact hsame.symm ▸ hinv
    · exact ((if_neg hlost).symm ▸ (add_zero r).symm)
  refine ⟨r + (V node).claim t, ?_, ?_⟩
  · have hinv' := hwin row hrow hstatus
    rw [add_right_comm] at hinv'
    exact (congrArg Prod.snd hwon).symm ▸ hinv'
  · exact congrArg (r + ·) (if_pos (congrArg Prod.fst hwon)).symm

theorem StateRules.safe_settled (hspare : (V node).Spare r) (hsuccess : t.status = .success) :
    Safe machine C (pollLogic V Inv check) node (call (.updateQuotaAndPrivateData t true))
      (r + (V node).claim t) fun _ s => s = r := by
  refine .call (h.spare_claim t hspare) fun w db rest _ _ hinv =>
    ⟨h.plain w db rfl (.inl rfl), r, ?_, rfl⟩
  rw [add_right_comm] at hinv
  obtain ⟨hsame, hbilled⟩ := h.settlement 0 hinv hsuccess
  show Inv (exec node (.updateQuotaAndPrivateData t true) w db).2 (r + rest)
  unfold exec
  dsimp only
  split
  next row _ hrow =>
    have hlike := Db.Like.put
      (t := { row with quota := t.quota, privateData := t.privateData, updatedAt := w.now })
      hrow rfl rfl rfl
    refine h.like ?_ hbilled
    exact ⟨hlike.row, rfl, rfl, rfl, rfl⟩
  · exact hsame

theorem StateRules.safe_settlement (delta : Int) (hspare : (V node).Spare r)
    (hsuccess : t.status = .success) :
    Safe machine C (pollLogic V Inv check) node (call (.taskAdjustFunding .settlement t delta))
      (r + (V node).claim t) fun _ s => s = r := by
  refine .call (h.spare_claim t hspare) fun w db rest _ _ hinv =>
    ⟨h.plain w db rfl (.inl rfl), r, ?_, rfl⟩
  rw [add_right_comm] at hinv
  obtain ⟨hsame, hbilled⟩ := h.settlement delta hinv hsuccess
  show Inv (exec node (.taskAdjustFunding .settlement t delta) w db).2 (r + rest)
  obtain ⟨-, heq⟩ | ⟨a, heq⟩ := exec_funding node .settlement t delta w db
  · rw [heq]
    exact hsame
  rw [heq]
  refine h.like ?_ hbilled
  exact ⟨fun _ => rfl, rfl, rfl, rfl, rfl⟩

theorem StateRules.rules : PollRules (V node) C (pollLogic V Inv check) node where
  toLawful := h.toLawful
  pre _ _ := Iff.rfl
  post hover := hover
  fork hspare := hspare
  observe hspare := h.safe_quiet rfl (.inl rfl) hspare fun _ _ _ hrun _ => h.observe hrun
  timedOut := h.safe_timedOut
  preparing := h.safe_preparing
  unfinished := h.safe_unfinished
  byTaskId := h.safe_byTaskId
  fetch q hspare hnamed hfresh := by
    refine safe_statement ?_ fun w db rest hrun hinv => ?_
    · simpa using h.spare_dues [_] hspare
    · rw [add_right_comm] at hinv
      exact h.fetch hrun hinv hnamed hfresh
  fetchRealtime hrealtime hspare hgood :=
    h.safe_quiet rfl (.inr hrealtime) hspare fun _ _ _ hrun _ =>
      h.fetchRealtime hrealtime hrun hgood
  fetchSuno q ids l hsuno hspare hasked hids := by
    refine safe_statement (h.spare_dues l hspare) fun w db rest hrun hinv => ?_
    rw [add_right_comm] at hinv
    exact h.fetchSuno hsuno hrun hinv hasked hids
  transition := h.safe_transition
  privateData old hspare _ := h.safe_unread rfl rfl hspare
  quota hspare _ := h.safe_unread rfl rfl hspare
  settled hspare _ := h.safe_settled hspare
  settlement delta hspare _ := h.safe_settlement delta hspare
  refund hspare _ hfailure hquota := by
    refine safe_statement' (h.spare_claim _ hspare)
      fun w db rest hrun hinv => ⟨h.plain w db rfl (.inl rfl), ?_⟩
    rw [add_right_comm] at hinv
    exact h.refund hrun hinv hfailure hquota
  token delta hspare _ := h.safe_unread rfl rfl hspare
  bulk l reason hspare hnamed :=
    safe_statement' hspare fun w db rest hrun hinv => h.bulk l reason hrun hinv hnamed
  sunoRefund hsuno hspare _ hquota := by
    refine safe_statement hspare fun w db rest hrun hinv => ?_
    obtain ⟨hinv', hrefunded⟩ := h.sunoRefund hsuno hrun hinv hquota
    rw [add_right_comm] at hinv'
    exact ⟨h.plain w db rfl (.inl rfl), hinv', hrefunded⟩
  tokenPaid delta hspare _ := h.safe_unread rfl rfl (h.spare_paid _ hspare)
  save q item hsuno hspare hnamed hgood hanswers hfailed :=
    safe_statement' hspare fun w db rest hrun hinv =>
      h.save hsuno hrun hinv hnamed hgood hanswers hfailed
  savePaid q item hsuno hspare hnamed hgood hanswers hrefunded hquota := by
    refine safe_statement' (h.spare_paid _ hspare) fun w db rest hrun hinv => ?_
    rw [add_right_comm] at hinv
    exact h.savePaid hsuno hrun hinv hnamed hgood hanswers hrefunded hquota

end Derivation

/-! ## Invariants of the stored rows alone -/

structure RowVocabulary where
  Tracked : Prop
  SunoTracked : Prop
  Realtime : Prop
  Rewrites : TaskStatus → TaskStatus → Prop
  Named : Nat → Prop
  Good : Task → Prop

def RowVocabulary.toPoll (V : RowVocabulary) : PollVocabulary Unit where
  Tracked := V.Tracked
  SunoPolled := True
  SunoTracked := V.SunoTracked
  Realtime := V.Realtime
  Rewrites := V.Rewrites
  Named := V.Named
  Good := V.Good
  Spare _ := True
  Over _ := True
  claim _ := ()
  paid _ := ()
  due _ := ()
  Refunded _ := True

structure RowRules (V : RowVocabulary) (C : Conditions Op Op.Ret Job World Db) (Inv : Db → Prop)
    (check : Nat → Op → World → Db → Prop) (node : Nat) : Prop where
  sunoTracked : V.SunoTracked ∨ ∀ t, V.Good t
  good_timedOut : ∀ {t} w, V.Good t → V.Good (t.timedOut w)
  good_preparationFailed : ∀ {t} w reason, V.Good t → V.Good (t.preparationFailed w reason)
  good_activated : ∀ {t} w id data, V.Good t → V.Good (t.activated w id data)
  rows : ∀ {db db'}, (∀ id, db'.row id = db.row id) → Inv db → Inv db'
  plain : ∀ {o} w db, o.plain = true → o.realtime = false ∨ V.Realtime → check node o w db
  read : ∀ {db}, Inv db → ∀ t ∈ db.tasks.rows, V.Realtime ∨ t.status.finished = false →
    V.Named t.id ∧ V.Good t
  unfinished : ∀ {w db rows}, C.run node .getAllUnFinishSyncTasks w db →
    rows = allUnFinishSyncTasks db w.taskQueryLimit →
    (V.Tracked → Distinct rows) ∧ (V.SunoTracked →
      ((rows.filter fun t => t.platform = .suno).map Task.getUpstreamTaskID).Nodup)
  fetch : ∀ {w db t q}, C.run node (.fetchTask q t) w db → V.Named t.id →
    check node (.fetchTask q t) w db ∧ V.toPoll.Replied t (w.fetch q.channel t)
  fetchRealtime : V.toPoll.RealtimeRule C node
  fetchSuno : ∀ {w db q ids}, C.run node (.fetchSuno q ids) w db →
    check node (.fetchSuno q ids) w db ∧ ∀ items, w.fetchSuno q.channel ids = some items →
      (V.SunoTracked → (items.map SunoItem.taskID).Nodup ∧ ∀ item ∈ items, item.taskID ∈ ids) ∧
      ∀ item ∈ items, ∀ t, V.toPoll.Fresh t → V.Good (t.sunoResult item)
  transition : ∀ {w db t old reply}, C.run node (.updateWithStatus t old reply) w db →
    Inv db → V.Named t.id → V.Good t →
    (V.Tracked → old.finished = false ∨ V.Realtime ∧ V.Rewrites old t.status) →
    check node (.updateWithStatus t old reply) w db ∧
      ∀ row, db.tasks.find? t.id = some row → row.status = old →
        Inv (db.save node row { t with updatedAt := w.now })
  bulk : ∀ {w db} (l : List Task) reason,
    C.run node (.taskBulkUpdateByID (l.map Task.id) reason) w db → Inv db →
    (∀ t ∈ l, V.Named t.id) →
    check node (.taskBulkUpdateByID (l.map Task.id) reason) w db ∧
      Inv (exec node (.taskBulkUpdateByID (l.map Task.id) reason) w db).2
  save : ∀ {w db t q item}, C.run node (.update t q item) w db → Inv db → V.Named t.id → V.Good t →
    check node (.update t q item) w db ∧
      ∀ row, db.tasks.find? t.id = some row → Inv (db.save node row { t with updatedAt := w.now })

section Rows

variable {V : RowVocabulary} {C : Conditions Op Op.Ret Job World Db} {Inv : Db → Prop}
  {check : Nat → Op → World → Db → Prop} {node : Nat}

section

variable (h : RowRules V C Inv check node)

include h

theorem RowRules.same {db db' : Db} (hinv : Inv db) (htasks : db'.tasks = db.tasks) : Inv db' :=
  h.rows (fun id => by rw [Db.row, Db.row, htasks]) hinv

theorem RowRules.funding {db : Db} (hinv : Inv db)
    (kind : BillKind) (t : Task) (delta : Int) (w : World) :
    Inv (exec node (.taskAdjustFunding kind t delta) w db).2 := by
  obtain ⟨-, heq⟩ | ⟨a, heq⟩ := exec_funding node kind t delta w db
  · exact heq.symm ▸ hinv
  · exact heq.symm ▸ h.same hinv rfl

theorem RowRules.update {w : World} {db : Db} {t : Task}
    {q : Query} {item : String} (hrun : C.run node (.update t q item) w db) (hinv : Inv db)
    (hnamed : V.Named t.id) (hgood : V.Good t) :
    check node (.update t q item) w db ∧ Inv (exec node (.update t q item) w db).2 := by
  obtain ⟨hcheck, hsave⟩ := h.save hrun hinv hnamed hgood
  refine ⟨hcheck, ?_⟩
  obtain heq | ⟨row, hrow, heq⟩ := exec_update node t q item w db
  · exact heq.symm ▸ hinv
  · exact heq.symm ▸ hsave row hrow

theorem RowRules.lawful : V.toPoll.Lawful where
  tracked := .inr fun _ => ⟨rfl, rfl⟩
  sunoTracked := h.sunoTracked.imp id fun hgood t => ⟨rfl, hgood t⟩
  over_zero := trivial
  spare _ _ := trivial
  due_null _ := rfl
  due_midjourney _ := rfl
  claim_unfinished _ := rfl
  claim_private _ _ := rfl
  claim_realtime _ _ := rfl
  kept _ _ := trivial
  paid_result _ _ := rfl
  good_timedOut := h.good_timedOut
  good_preparationFailed := h.good_preparationFailed
  good_activated := h.good_activated

theorem RowRules.states : StateRules V.toPoll C (fun db _ => Inv db) check node where
  toLawful := h.lawful
  spare_dues _ _ := trivial
  spare_claim _ _ := trivial
  spare_paid _ _ := trivial
  like hlike hinv := h.rows hlike.row hinv
  plain := h.plain
  read hinv := h.read hinv
  observe _ := ⟨fun _ _ => rfl, fun _ _ => rfl, fun _ _ => rfl⟩
  unfinished hrun hinv hrows :=
    let ⟨hdistinct, hsuno⟩ := h.unfinished hrun hrows
    ⟨h.same hinv rfl, hdistinct, hsuno, fun _ _ _ => trivial⟩
  fetch hrun hinv hnamed _ :=
    let ⟨hcheck, hreplied⟩ := h.fetch hrun hnamed
    ⟨hcheck, h.same hinv rfl, hreplied⟩
  fetchRealtime := h.fetchRealtime
  fetchSuno _ hrun hinv _ _ :=
    let ⟨hcheck, hitems⟩ := h.fetchSuno hrun
    ⟨hcheck, h.same hinv rfl, hitems⟩
  transition hrun hinv hnamed hgood hold _ := h.transition hrun hinv hnamed hgood hold
  settlement _ hinv _ := ⟨hinv, h.same hinv rfl⟩
  refund _ hinv _ _ := h.funding hinv ..
  bulk l reason hrun hinv hnamed := h.bulk l reason hrun hinv hnamed
  sunoRefund _ _ hinv _ := ⟨h.funding hinv .., trivial⟩
  save _ hrun hinv hnamed hgood _ _ := h.update hrun hinv hnamed hgood
  savePaid _ hrun hinv hnamed hgood _ _ _ := h.update hrun hinv hnamed hgood

end

abbrev rowLogic (V : RowVocabulary) (Inv : Db → Prop) (check : Nat → Op → World → Db → Prop) :
    Logic Op Job World Db Unit :=
  pollLogic (fun _ => V.toPoll) (fun db _ => Inv db) check

theorem RowRules.sound (h : ∀ node, RowRules V C Inv check node)
    (hstart : ∀ node j, C.start node j → V.toPoll.jobPre j 0) :
    Sound machine C (rowLogic V Inv check) program where
  job node j _ hr := (h node).states.rules.safe_program j hr
  start := hstart
  drop _ _ _ _ _ _ _ _ _ _ hinv := hinv
  lost _ _ _ _ hinv := hinv

theorem holds_of_rows {db : Db} (hdb : Inv db) : Holds machine C (rowLogic V Inv check) ⟨db, []⟩ :=
  ⟨[], .nil, hdb⟩

end Rows

end ZModel.Tasks
