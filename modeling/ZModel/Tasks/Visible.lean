import ZModel.Tasks.Statements

/-!
# Unfinished tasks stay visible

The queries that keep tasks alive skip rows with a progress of 100%, which must go with SUCCESS or
FAILURE. Then sweeps that are not disturbed finish all expired tasks.
-/

namespace ZModel.Tasks.Visible

open Lib Store

variable {db : Db} {t : Task} {info : TaskInfo} {w : World}

def active : TaskStatus → Bool
  | .submitted | .queued | .inProgress => true
  | _ => false

def honest : FetchReply → Bool
  | .parsed info _ => !active info.status || info.progress ≠ "100%"
  | _ => true

/-- A realtime reply that leaves a task unfinished leaves no 100%. -/
def honestRealtime (t : Task) : FetchReply → Bool
  | .parsed info _ =>
    (if info.status ≠ .empty then info.status else t.status).finished ||
      (if info.progress ≠ "" then info.progress else t.progress) ≠ "100%"
  | _ => true

/-- The items of a Suno reply are for tasks that were asked, once each, and a reason of failure
comes with a finished status. -/
def honestSuno (ids : List String) : Option (List SunoItem) → Bool
  | none => true
  | some items =>
    (items.map SunoItem.taskID).Nodup && items.all fun item =>
      item.taskID ∈ ids && (item.failReason = "" || item.status.finished)

def sunoIds (rows : List Task) : List String :=
  (rows.filter fun t => t.platform = .suno).map Task.getUpstreamTaskID

def allowed : Op → World → Db → Bool
  | .getAllUnFinishSyncTasks, w, db => (sunoIds (allUnFinishSyncTasks db w.taskQueryLimit)).Nodup
  | .fetchTask q t, w, _ => honest (w.fetch q.channel t)
  | .fetchRealtime t, w, _ => honestRealtime t (w.fetch t.channelId t)
  | .fetchSuno q ids, w, _ => honestSuno ids (w.fetchSuno q.channel ids)
  | _, _, _ => true

def starts : Job → Bool
  | .channel _ _ _ _ => false
  | _ => true

abbrev conditions : Conditions Op Op.Ret Job World Db :=
  pollConditions starts allowed fun _ _ => true

def Done (t : Task) : Prop := t.progress = "100%" → t.status.finished = true

instance : DecidablePred Done := fun t =>
  inferInstanceAs (Decidable (t.progress = "100%" → t.status.finished = true))

def vocabulary : RowVocabulary where
  Tracked := False
  SunoTracked := True
  Realtime := True
  Rewrites _ _ := True
  Named _ := True
  Good := Done

def AllDone (db : Db) : Prop :=
  ∀ id st, db.row id = some (st, "100%") → st.finished = true

theorem AllDone.of_mem (h : AllDone db) (ht : t ∈ db.tasks.rows) : Done t := by
  intro hprogress
  have hfind : db.tasks.find? t.id = some t := Table.find?_eq_some_iff.mpr ⟨ht, rfl⟩
  exact h t.id t.status (hprogress ▸ Db.row_of_find? hfind)

theorem AllDone.save (h : AllDone db) {key : Nat} {row : Task}
    (hrow : db.tasks.find? key = some row) (hkey : t.id = key) (ht : Done t) (node : Nat) :
    AllDone (db.save node row t) := by
  intro id st hst
  by_cases hid : id = key
  · rw [hid, Db.row_of_find? (Table.find?_put_of_find? hrow t hkey), Option.some.injEq,
      Prod.mk.injEq] at hst
    exact hst.1 ▸ ht hst.2
  refine h id st ?_
  rw [← hst]
  unfold Db.row Db.save
  rw [Table.find?_put_of_ne (by rwa [key_task, hkey])]

theorem done_applyTaskInfo {channelType : Nat} {t' : Task}
    (h : active info.status = true → info.progress ≠ "100%")
    (happly : t.applyTaskInfo w channelType info = (true, t')) : Done t' := by
  intro hprogress
  unfold Task.applyTaskInfo at happly
  dsimp only at happly
  -- Only a task at work takes its progress from the reply.
  have hreported : active info.status = true → ∀ progress, progress ≠ "100%" →
      (if info.progress ≠ "" then info.progress else progress) ≠ "100%" := by
    intro hactive progress hne
    split
    · exact h hactive
    · exact hne
  split at happly <;> rename_i hstatus <;> cases happly
  · exact absurd hprogress (hreported (hstatus ▸ rfl) "10%" (by decide))
  · exact absurd hprogress (hreported (hstatus ▸ rfl) "20%" (by decide))
  · exact absurd hprogress (hreported (hstatus ▸ rfl) "30%" (by decide))
  · exact hstatus ▸ rfl
  · exact hstatus ▸ rfl

theorem resolve_active {info' : TaskInfo} (h : info.resolve = some info')
    (hactive : active info'.status = true) : info' = info := by
  unfold TaskInfo.resolve at h
  split at h
  · exact (Option.some.inj h).symm
  split at h
  · exact (Option.some.inj h).symm
  · cases h
  · cases h
    cases hactive
  · cases h
    cases hactive

theorem done_applyRealtime {data : String} (h : honestRealtime t (.parsed info data) = true)
    (w : World) : Done (t.applyRealtime w info) := by
  intro hprogress
  unfold honestRealtime at h
  rw [Bool.or_eq_true, decide_eq_true_eq] at h
  unfold Task.applyRealtime at hprogress ⊢
  dsimp only at hprogress ⊢
  obtain hdone | hne := h
  · exact hdone
  by_contra hnot
  rw [if_neg hnot] at hprogress
  exact hne hprogress

theorem done_sunoResult {item : SunoItem} (h : item.failReason = "" ∨ item.status.finished = true)
    (ht : t.progress ≠ "100%") : Done (t.sunoResult item) := by
  intro hprogress
  have hitem : item.status.finished = true →
      (if item.status ≠ .empty then item.status else t.status).finished = true := by
    intro hdone
    rw [if_pos fun hempty => ?_]
    · exact hdone
    · rw [hempty] at hdone
      cases hdone
  unfold Task.sunoResult at hprogress
  split at hprogress
  next hfailed =>
    unfold sunoFailed at hfailed
    simp only [Bool.or_eq_true, decide_eq_true_eq] at hfailed
    obtain (hreason | hfailure) | hsuccess := hfailed
    · exact hitem (h.resolve_left hreason)
    · exact (congrArg TaskStatus.finished hfailure).trans rfl
    · exact hitem (hsuccess ▸ rfl)
  · exact absurd hprogress ht

theorem rules (node : Nat) : RowRules vocabulary conditions AllDone (fun _ _ _ _ => True) node where
  sunoTracked := .inl trivial
  good_timedOut _ _ _ := rfl
  good_preparationFailed _ _ _ _ := rfl
  good_activated _ _ _ _ hprogress := absurd hprogress (by decide : "20%" ≠ "100%")
  rows hrows h id st hst := h id st (hrows id ▸ hst)
  plain _ _ _ _ := trivial
  read h t ht _ := ⟨trivial, h.of_mem ht⟩
  unfinished hrun hrows := by
    refine ⟨False.elim, fun _ => ?_⟩
    rw [hrows]
    exact of_decide_eq_true hrun
  fetch {w _ t q} hrun _ := by
    refine ⟨trivial, fun info data hreply info' hresolve w' channelType t' happly => ?_⟩
    refine done_applyTaskInfo (fun hactive => ?_) happly
    have hhonest : honest (.parsed info data) = true := hreply ▸ hrun
    obtain rfl := resolve_active hresolve hactive
    simpa [honest, hactive] using hhonest
  fetchRealtime {w _ t} _ hrun _ info data hreply w' := by
    have hhonest : honestRealtime t (.parsed info data) = true := hreply ▸ hrun
    exact ⟨done_applyRealtime hhonest w', fun _ => .inr trivial⟩
  fetchSuno {w _ q ids} hrun := by
    refine ⟨trivial, fun items hitems => ?_⟩
    have hhonest : honestSuno ids (some items) = true := hitems ▸ hrun
    simp only [honestSuno, Bool.and_eq_true, decide_eq_true_eq, List.all_eq_true,
      Bool.or_eq_true] at hhonest
    refine ⟨fun _ => ⟨hhonest.1, fun item hitem => (hhonest.2 item hitem).1⟩, ?_⟩
    exact fun item hitem t ht => done_sunoResult (hhonest.2 item hitem).2 ht.progress
  transition {w _ t _ _} _ h _ hgood _ :=
    ⟨trivial, fun _ hrow _ => h.save (t := { t with updatedAt := w.now }) hrow rfl hgood node⟩
  bulk {w _} l reason _ h _ :=
    ⟨trivial, exec_bulk node _ reason _ (P := AllDone) h fun _ _ row _ h hrow =>
      h.save (t := row.bulkFailed w.now reason) hrow (Table.find?_key hrow) (fun _ => rfl) node⟩
  save {w _ t _ _} _ h _ hgood :=
    ⟨trivial, fun _ hrow => h.save (t := { t with updatedAt := w.now }) hrow rfl hgood node⟩

theorem sound : Sound machine conditions (rowLogic vocabulary AllDone fun _ _ _ _ => True) program :=
  RowRules.sound rules fun _ j hj => by
    cases j with
    | poll => rfl
    | channel => cases hj
    | realtimeFetch => exact ⟨trivial, rfl⟩

theorem take_of_length_le_of_mem {α : Type} {l l' : List α} {x : α} {n : Nat}
    (hperm : l.Perm l') (hx : x ∈ l') (hn : l'.length ≤ n) : x ∈ l.take n := by
  rw [List.take_of_length_le (hperm.length_eq ▸ hn)]
  exact hperm.mem_iff.mpr hx

structure Seen (db : Db) (t : Task) : Prop where
  polled : t.status ≠ .preparing → ∀ limit, db.tasks.rows.length ≤ limit →
    t ∈ allUnFinishSyncTasks db limit
  prepared : t.status = .preparing → ∀ limit, db.tasks.rows.length ≤ limit →
    t ∈ preparingVideoTasks db limit
  swept : ∀ cutoff limit, t.submitTime < cutoff → db.tasks.rows.length ≤ limit →
    t ∈ timedOutUnfinishedTasks db cutoff limit

theorem AllDone.seen (h : AllDone db) (ht : t ∈ db.tasks.rows)
    (hunfinished : t.status.finished = false) : Seen db t := by
  have hprogress : t.progress ≠ "100%" := fun hfull => by
    rw [h.of_mem ht hfull] at hunfinished
    cases hunfinished
  refine ⟨fun hstatus limit hlimit => ?_, fun hstatus limit hlimit => ?_,
    fun cutoff limit hcutoff hlimit => ?_⟩
  all_goals
    refine take_of_length_le_of_mem (List.perm_insertionSort _ _) (List.mem_filter.mpr ⟨ht, ?_⟩)
      ((List.length_filter_le _ _).trans hlimit)
  · simp [hprogress, hunfinished, hstatus]
  · simp [hstatus]
  · simp [hprogress, hunfinished, hcutoff]

/-! ## Sweeps that are not disturbed -/

def expired (cutoff : Int) (t : Task) : Bool :=
  t.progress ≠ "100%" && !t.status.finished && t.submitTime < cutoff

def sweep (node : Nat) (w : World) (db : Db) : Db :=
  (sweepTimedOutTasks.eval machine node w db).2

def backlog (cutoff : Int) (db : Db) : Nat := db.tasks.sum fun t => if expired cutoff t then 1 else 0

theorem backlog_eq_length (cutoff : Int) (db : Db) :
    backlog cutoff db = (db.tasks.rows.filter (expired cutoff)).length := by
  unfold backlog Table.sum
  induction db.tasks.rows with
  | nil => rfl
  | cons t rows ih =>
    rw [List.map_cons, List.sum_cons, ih, List.filter_cons]
    split
    · rw [List.length_cons, add_comm]
    · rw [zero_add]

theorem eval_refund_tasks (node : Nat) (w : World) (kind : BillKind) (t : Task) (db : Db) :
    ((refundTaskQuota kind t).eval machine node w db).2.tasks = db.tasks := by
  unfold refundTaskQuota
  split
  · rfl
  rw [Program.eval_bind]
  have hfunding : (exec node (.taskAdjustFunding kind t (-t.quota)) w db).2.tasks = db.tasks := by
    obtain ⟨-, heq⟩ | ⟨a, heq⟩ := exec_funding node kind t (-t.quota) w db
    · rw [heq]
    · rw [heq]
  split
  · exact hfunding
  · exact hfunding

section

variable (hw : w.write = .done)

include hw

theorem eval_sweepTask (node : Nat) (hrow : db.tasks.find? t.id = some t) :
    ((sweepTask w t).eval machine node w db).2.tasks =
      db.tasks.put { t.timedOut w with updatedAt := w.now } := by
  have hcas : exec node (.updateWithStatus (t.timedOut w) t.status none) w db =
      (some true, db.save node t { t.timedOut w with updatedAt := w.now }) := by
    unfold exec
    dsimp only
    rw [hw, show db.tasks.find? (t.timedOut w).id = some t from hrow]
    exact if_pos rfl
  unfold sweepTask
  rw [Program.eval_bind]
  have htasks := congrArg (fun result => result.2.tasks) hcas
  split
  · rw [eval_refund_tasks]
    exact htasks
  · exact htasks

theorem foldl_sweepTask (node : Nat) {cutoff : Int} {tasks : List Task}
    (hdone : AllDone db) (hnodup : (tasks.map Task.id).Nodup)
    (hrows : ∀ t ∈ tasks, db.tasks.find? t.id = some t ∧ expired cutoff t = true) :
    let db' := tasks.foldl (fun db t => ((sweepTask w t).eval machine node w db).2) db
    backlog cutoff db' + tasks.length = backlog cutoff db ∧ AllDone db' := by
  induction tasks generalizing db with
  | nil => exact ⟨rfl, hdone⟩
  | cons t tasks ih =>
    obtain ⟨hrow, hexpired⟩ := hrows t (.head _)
    obtain ⟨hnot, hnodup⟩ := List.nodup_cons.mp hnodup
    have htasks := eval_sweepTask hw node hrow
    have hsaved := hdone.save (t := { t.timedOut w with updatedAt := w.now }) hrow rfl
      (fun _ => rfl) node
    have hdone' : AllDone ((sweepTask w t).eval machine node w db).2 :=
      (rules node).same hsaved htasks
    have hcount : backlog cutoff ((sweepTask w t).eval machine node w db).2 + 1 =
        backlog cutoff db := by
      have hsum := Table.sum_put db.tasks (fun t => if expired cutoff t then 1 else 0) hrow
        (r := { t.timedOut w with updatedAt := w.now }) rfl
      have hfailed : expired cutoff { t.timedOut w with updatedAt := w.now } = false := rfl
      rw [if_pos hexpired] at hsum
      unfold backlog
      rw [htasks]
      exact hsum
    -- The other tasks have other keys, so their rows are as they were read.
    have hothers : ∀ u ∈ tasks,
        ((sweepTask w t).eval machine node w db).2.tasks.find? u.id = some u ∧
          expired cutoff u = true := by
      intro u hu
      obtain ⟨hfind, hu'⟩ := hrows u (List.mem_cons_of_mem t hu)
      refine ⟨?_, hu'⟩
      have hne : u.id ≠ t.id := fun heq => hnot (heq ▸ List.mem_map_of_mem hu)
      rw [htasks, Table.find?_put_of_ne hne]
      exact hfind
    obtain ⟨hrest, hdone''⟩ := ih hdone' hnodup hothers
    refine ⟨?_, hdone''⟩
    rw [List.foldl_cons, List.length_cons]
    omega

theorem sweep_backlog (htimeout : 0 < w.taskTimeoutMinutes) (node : Nat) (hdone : AllDone db) :
    let cutoff := w.now - w.taskTimeoutMinutes * 60
    backlog cutoff (sweep node w db) = backlog cutoff db - 100 ∧ AllDone (sweep node w db) := by
  intro cutoff
  have hsweep : sweep node w db = (timedOutUnfinishedTasks db cutoff 100).foldl
      (fun db t => ((sweepTask w t).eval machine node w db).2) db := by
    unfold sweep sweepTimedOutTasks
    rw [Program.eval_bind]
    show ((if w.taskTimeoutMinutes ≤ 0 then _ else _ : Prog Unit).eval machine node w db).2 = _
    rw [if_neg (not_le.mpr htimeout)]
    have hquery : machine.exec node (.getTimedOutUnfinishedTasks cutoff 100) w db =
        (timedOutUnfinishedTasks db cutoff 100, db) := by
      show exec node (.getTimedOutUnfinishedTasks cutoff 100) w db = _
      unfold exec
      dsimp only
      rw [hw]
    show ((Program.forEach (sweepTask w) (machine.exec node
      (.getTimedOutUnfinishedTasks cutoff 100) w db).1).eval machine node w (machine.exec node
        (.getTimedOutUnfinishedTasks cutoff 100) w db).2).2 = _
    rw [hquery]
    exact Program.eval_forEach _ _ _ _ _ _
  let all := (db.tasks.rows.filter (expired cutoff)).insertionSort
    fun s t => s.submitTime ≤ t.submitTime
  have hperm : all.Perm (db.tasks.rows.filter (expired cutoff)) := List.perm_insertionSort _ _
  have hnodup : (all.map Task.id).Nodup :=
    (hperm.map Task.id).nodup_iff.mpr
      (List.Nodup.sublist (List.filter_sublist.map Task.id) db.tasks.nodup)
  have hrows : ∀ t ∈ all.take 100, db.tasks.find? t.id = some t ∧ expired cutoff t = true := by
    intro t ht
    obtain ⟨hmem, hexpired⟩ := List.mem_filter.mp (hperm.mem_iff.mp (List.mem_of_mem_take ht))
    exact ⟨Table.find?_eq_some_iff.mpr ⟨hmem, rfl⟩, hexpired⟩
  obtain ⟨hcount, hdone'⟩ := foldl_sweepTask hw node hdone
    (List.Nodup.sublist ((List.take_sublist 100 all).map Task.id) hnodup) hrows
  rw [hsweep]
  refine ⟨?_, hdone'⟩
  have hlength : (all.take 100).length = min 100 (backlog cutoff db) := by
    rw [List.length_take, hperm.length_eq, backlog_eq_length]
  rw [hlength] at hcount
  show backlog cutoff ((all.take 100).foldl _ db) = _
  omega

theorem sweeps_finish (htimeout : 0 < w.taskTimeoutMinutes) (node : Nat)
    (hdone : AllDone db) {n : Nat} (hn : db.tasks.rows.length ≤ 100 * n) :
    ∀ t ∈ ((sweep node w)^[n] db).tasks.rows,
      t.submitTime < w.now - w.taskTimeoutMinutes * 60 → t.status.finished = true := by
  have hiterate : ∀ n, backlog (w.now - w.taskTimeoutMinutes * 60) ((sweep node w)^[n] db) =
      backlog (w.now - w.taskTimeoutMinutes * 60) db - 100 * n ∧
        AllDone ((sweep node w)^[n] db) := by
    intro n
    induction n with
    | zero => exact ⟨rfl, hdone⟩
    | succ n ih =>
      rw [Function.iterate_succ_apply']
      obtain ⟨hcount, hdone'⟩ := sweep_backlog hw htimeout node ih.2
      refine ⟨?_, hdone'⟩
      have := ih.1
      omega
  obtain ⟨hcount, hdone'⟩ := hiterate n
  have hle : backlog (w.now - w.taskTimeoutMinutes * 60) db ≤ db.tasks.rows.length := by
    rw [backlog_eq_length]
    exact List.length_filter_le _ _
  have hzero : backlog (w.now - w.taskTimeoutMinutes * 60) ((sweep node w)^[n] db) = 0 := by omega
  intro t ht hcutoff
  rw [backlog_eq_length, List.length_eq_zero_iff, List.filter_eq_nil_iff] at hzero
  have hnot := hzero t ht
  by_contra hunfinished
  refine hnot ?_
  have hprogress : t.progress ≠ "100%" := fun hfull => hunfinished (hdone'.of_mem ht hfull)
  rw [Bool.not_eq_true] at hunfinished
  rw [expired, hunfinished, decide_eq_true hprogress, decide_eq_true hcutoff]
  rfl

end

/-- In every run that meets the conditions a stored progress of 100% implies SUCCESS or FAILURE,
every unfinished task is seen by the poller and by the sweep, and undisturbed sweeps finish every
task that has timed out. -/
theorem unfinished_visible {db : Db} (hdb : db.tasks.All Done) (moves : List (Move Job World))
    (hrun : Along (System.step machine program) conditions.Meets ⟨db, []⟩ moves) :
    let db' := (run (System.step machine program) ⟨db, []⟩ moves).state
    (∀ t ∈ db'.tasks.rows, t.progress = "100%" → t.status.finished = true) ∧
      (∀ t ∈ db'.tasks.rows, t.status.finished = false → Seen db' t) ∧
      ∀ node w n, w.write = .done → 0 < w.taskTimeoutMinutes → db'.tasks.rows.length ≤ 100 * n →
        ∀ t ∈ ((sweep node w)^[n] db').tasks.rows,
          t.submitTime < w.now - w.taskTimeoutMinutes * 60 → t.status.finished = true := by
  intro db'
  have hstart : Holds machine conditions (rowLogic vocabulary AllDone fun _ _ _ _ => True)
      ⟨db, []⟩ := by
    refine holds_of_rows fun id st hst => ?_
    obtain ⟨t, ht, heq⟩ := Option.map_eq_some_iff.mp hst
    obtain ⟨rfl, hprogress⟩ := Prod.mk.inj heq
    exact hdb.find? ht hprogress
  obtain ⟨rs, -, hdone⟩ := (hstart.along sound hrun).2
  have hdone : AllDone db' := hdone
  exact ⟨fun t ht => hdone.of_mem ht, fun t ht => hdone.seen ht,
    fun node w n hw htimeout hn => sweeps_finish hw htimeout node hdone hn⟩

def sampleTask (platform : Platform) : Task where
  id := 1
  taskID := "task"
  platform := platform
  userId := 1
  channelId := 7
  quota := 10
  status := .inProgress
  submitTime := 1900000000

def sampleDb (platform : Platform) : Db where
  tasks := ⟨[sampleTask platform], List.nodup_singleton _⟩
  accounts := { users := .single ⟨1, 0⟩ }

def reporting (progress reason : String) : World where
  now := 1900000000
  fetch _ _ := .parsed { status := .inProgress, progress } ""
  fetchSuno _ ids :=
    some (ids.map fun id => { taskID := id, status := .inProgress, failReason := reason })

def onePass (w : World) : List (Move Job World) :=
  .start 0 .poll :: (List.replicate 16 (.run 0 w) ++ List.replicate 5 (.run 1 w))

/-- A video task in progress at 100%, and a Suno task in progress with a reason of failure, are
hidden from every query. -/
theorem unfinished_hidden :
    (let db := (run (System.step machine program) ⟨sampleDb (.video 24), []⟩
      (onePass (reporting "100%" ""))).state
     db.row 1 = some (.inProgress, "100%") ∧ allUnFinishSyncTasks db 100 = [] ∧
      timedOutUnfinishedTasks db 2000000000 100 = []) ∧
    (let db := (run (System.step machine program) ⟨sampleDb .suno, []⟩
      (onePass (reporting "" "slow"))).state
     db.row 1 = some (.inProgress, "100%") ∧ allUnFinishSyncTasks db 100 = [] ∧
      timedOutUnfinishedTasks db 2000000000 100 = []) := by
  decide +kernel

theorem unfinished_visible_sample :
    let db := (run (System.step machine program) ⟨sampleDb (.video 24), []⟩
      (onePass (reporting "50%" ""))).state
    db.row 1 = some (.inProgress, "50%") ∧
      ∀ t ∈ ((sweep 0 { now := 2000000000 })^[1] db).tasks.rows,
        t.submitTime < 2000000000 - 1440 * 60 → t.status.finished = true :=
  ⟨by decide +kernel,
    (unfinished_visible (by decide +kernel) _ (by decide +kernel)).2.2 0 { now := 2000000000 } 1 rfl
      (by decide) (by decide +kernel)⟩

end ZModel.Tasks.Visible
