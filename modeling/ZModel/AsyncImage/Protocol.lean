import ZModel.AsyncImage.Machine

/-!
# The protocol of an image task

`View` has the four columns that follow a task from its claim to its expiry, and `Act` the ways in
which they may change. Every operation makes the one act it stands for (`exec_moves`).
-/

namespace ZModel.AsyncImage

open Lib Store

variable {deadline : Int} {o : Op} {settings : StorageSettings} {taskID : String}

structure View where
  status : Status
  output : OutputAvailability
  billing : BillingStatus
  owner : String
  deriving DecidableEq

def AsyncImageTask.view (t : AsyncImageTask) : View :=
  ⟨t.lifecycle.status, t.lifecycle.outputAvailability, t.billingStatus, t.lifecycle.leaseOwner⟩

def View.new : View := ⟨.queued, .pending, .reserved, ""⟩

/-- What can happen to a task. Most acts are those of a lease owner. -/
inductive Act where
  | claim (owner : String)
  | start (owner : String)
  | postpone (owner : String)
  | complete (owner : String)
  | completeUnarchived (owner : String)
  | bill
  | refund (owner : String)
  | publish (owner : String)
  | retryArchive (owner : String)
  | failArchive (owner : String)
  | incident
  | reset
  | expire

def View.generated (v : View) : Prop := v.status = .succeeded ∧ v.billing = .settled

def Act.Enabled (v : View) : Act → Prop
  | .claim _ => True
  | .start owner => v.owner = owner ∧ v.status.open = true ∧ v.billing = .reserved
  | .postpone owner => v.owner = owner ∧ v.billing = .reserved
  | .complete owner =>
    (owner = "" ∨ v.owner = owner) ∧ v.status = .running ∧ v.billing = .reserved
  | .completeUnarchived owner => (owner = "" ∨ v.owner = owner) ∧ v.billing = .reserved
  | .bill => v.billing = .reserved
  | .refund _ => v.billing = .reserved
  | .publish owner | .retryArchive owner | .failArchive owner => v.owner = owner ∧ v.generated
  | .incident => v.generated
  | .reset => v.generated ∧ v.output = .failed
  | .expire => v.output = .available

def Act.apply (v : View) : Act → View
  | .claim owner => { v with owner }
  | .start _ => { v with status := .running }
  | .postpone _ => { v with owner := "" }
  | .complete _ => { v with status := .succeeded, output := .archiving, billing := .settled }
  | .completeUnarchived _ => ⟨.succeeded, .failed, .settled, ""⟩
  | .bill => { v with billing := .settled }
  | .refund _ => ⟨.failed, .failed, .refunded, ""⟩
  | .publish _ => { v with output := .available, owner := "" }
  | .retryArchive _ => { v with output := .archiving, owner := "" }
  | .failArchive _ => { v with output := .failed, owner := "" }
  | .incident => { v with output := .failed }
  | .reset => { v with output := .archiving, owner := "" }
  | .expire => { v with output := .expired }

theorem Act.owner_apply (a : Act) (v : View) :
    (∃ owner, a = .claim owner) ∨ (a.apply v).owner = "" ∨ (a.apply v).owner = v.owner := by
  cases a with
  | claim owner => exact .inl ⟨owner, rfl⟩
  | start | complete | bill | incident | expire => exact .inr (.inr rfl)
  | postpone | completeUnarchived | refund | publish | retryArchive | failArchive | reset =>
    exact .inr (.inl rfl)

def Statement.act : Statement → Option Act
  | .claim owner _ => some (.claim owner)
  | .markRunning owner => some (.start owner)
  | .generationRetry owner _ _ => some (.postpone owner)
  | .outputAvailable owner _ => some (.publish owner)
  | .archiveRetry owner _ _ _ => some (.retryArchive owner)
  | .failArchive owner _ _ _ => some (.failArchive owner)
  | .incident _ => some .incident
  | .reset _ => some .reset
  | .expired _ => some .expire
  | .renew _ | .withLease _ | .claimNotification | .notificationSent => none

variable (s : AsyncImageBillingSettler)

def AsyncImageBillingSettler.act : Act :=
  if s.manifest ≠ "" ∧ 0 < s.objects.length then .complete s.leaseOwner
  else if s.archiveErrorCode ≠ "" then .completeUnarchived s.leaseOwner
  else .bill

def Op.act (taskID : String) : Op → Option Act
  | .update id st => if id = taskID then st.act else none
  | .refund owner id _ _ _ => if id = taskID then some (.refund owner) else none
  | .settle s => if s.taskID = taskID then some s.act else none
  | .rebind _ ids => if taskID ∈ ids then some .reset else none
  | _ => none

@[simp] theorem Op.act_update (taskID : String) (st : Statement) :
    (Op.update taskID st).act taskID = st.act := if_pos rfl

@[simp] theorem Op.act_refund (owner taskID code message reason : String) :
    (Op.refund owner taskID code message reason).act taskID = some (.refund owner) := if_pos rfl

@[simp] theorem Op.act_settle : (Op.settle s).act s.taskID = some s.act := if_pos rfl

inductive Op.Acts (taskID : String) : Op → Act → Prop where
  | update (st : Statement) (a : Act) (h : st.act = some a) : Op.Acts taskID (.update taskID st) a
  | refund (owner code message reason : String) :
      Op.Acts taskID (.refund owner taskID code message reason) (.refund owner)
  | settle (s : AsyncImageBillingSettler) (a : Act) (hid : s.taskID = taskID) (h : s.act = a) :
      Op.Acts taskID (.settle s) a
  | rebind (settings : StorageSettings) (ids : List String) (h : taskID ∈ ids) :
      Op.Acts taskID (.rebind settings ids) .reset

theorem Op.acts_of_act {a : Act} (h : o.act taskID = some a) : o.Acts taskID a := by
  cases o with
  | update id st =>
    simp only [Op.act] at h
    split at h
    next hid =>
      subst hid
      exact .update st a h
    · cases h
  | refund owner id code message reason =>
    simp only [Op.act] at h
    split at h
    next hid =>
      subst hid
      cases h
      exact .refund owner code message reason
    · cases h
  | settle s =>
    simp only [Op.act] at h
    split at h
    next hid =>
      exact .settle s a hid (Option.some.inj h)
    · cases h
  | rebind settings ids =>
    simp only [Op.act] at h
    split at h
    next hmem =>
      cases h
      exact .rebind settings ids hmem
    · cases h
  | _ => cases h

theorem AsyncImageBillingSettler.act_cases :
    s.act = .complete s.leaseOwner ∨ s.act = .completeUnarchived s.leaseOwner ∨ s.act = .bill := by
  unfold AsyncImageBillingSettler.act
  split
  · exact .inl rfl
  split
  · exact .inr (.inl rfl)
  · exact .inr (.inr rfl)

def DB.view (db : DB) (taskID : String) : Option View :=
  (db.tasks.find? taskID).map AsyncImageTask.view

inductive Moves (o : Op) (taskID : String) : Option View → Option View → Prop where
  | stay (v : Option View) : Moves o taskID v v
  | create (s : Submission) (h : o = .submit s) : Moves o taskID none (some .new)
  | act (a : Act) (v : View) (ha : o.act taskID = some a) (henabled : a.Enabled v) :
      Moves o taskID (some v) (some (a.apply v))

theorem Moves.of_some {v v' : View} (h : Moves o taskID (some v) (some v')) :
    v' = v ∨ ∃ a, o.act taskID = some a ∧ a.Enabled v ∧ v' = a.apply v := by
  cases h with
  | stay => exact .inl rfl
  | act a _ ha henabled => exact .inr ⟨a, ha, henabled, rfl⟩

theorem Moves.of_none {before after : Option View} (h : Moves o taskID before after)
    (hact : o.act taskID = none) (hsubmit : ∀ s, o ≠ .submit s) : after = before := by
  cases h with
  | stay => rfl
  | create s ho => exact absurd ho (hsubmit s)
  | act a _ ha =>
    rw [hact] at ha
    cases ha

section Updates

variable {u : Update} {w : Write} {tasks : Table AsyncImageTask} {taskID : String}

theorem Update.exec_cases (u : Update) (w : Write) (tasks : Table AsyncImageTask)
    (taskID : String) :
    ((u.exec w tasks taskID).1 ≠ some true ∧ (u.exec w tasks taskID).2 = tasks) ∨
      ∃ t, tasks.find? taskID = some t ∧ u.guard t = true ∧
        u.exec w tasks taskID = (some true, tasks.put (u.row t)) := by
  unfold Update.exec
  split
  · exact .inl ⟨by simp, rfl⟩
  · exact .inl ⟨by simp, rfl⟩
  rename_i t ht
  split
  next hguard =>
    exact .inr ⟨t, ht, hguard, rfl⟩
  · exact .inl ⟨by simp, rfl⟩

@[simp] theorem Update.row_taskID (u : Update) (t : AsyncImageTask) :
    (u.row t).taskID = t.taskID := rfl

end Updates

theorem Statement.view_row {now : Int} {st : Statement} {t : AsyncImageTask}
    (h : (st.update now).guard t = true) :
    (st.act = none ∧ ((st.update now).row t).view = t.view) ∨
      ∃ a, st.act = some a ∧ a.Enabled t.view ∧ ((st.update now).row t).view = a.apply t.view := by
  cases st with
  | claim owner now => exact .inr ⟨_, rfl, trivial, rfl⟩
  | renew owner | withLease owner | claimNotification | notificationSent =>
    exact .inl ⟨rfl, rfl⟩
  | markRunning owner =>
    simp only [Statement.update, markAsyncImageTaskRunning, Bool.and_eq_true,
      decide_eq_true_eq] at h
    exact .inr ⟨_, rfl, ⟨h.1.1, h.1.2, h.2⟩, rfl⟩
  | generationRetry owner nextAttemptAt message =>
    simp only [Statement.update, scheduleAsyncImageGenerationRetry, Bool.and_eq_true,
      decide_eq_true_eq] at h
    exact .inr ⟨_, rfl, ⟨h.1.1.1, h.2⟩, rfl⟩
  | outputAvailable owner expiresAt =>
    simp only [Statement.update, markAsyncImageOutputAvailable, AsyncImageTask.generated,
      Bool.and_eq_true, decide_eq_true_eq] at h
    exact .inr ⟨_, rfl, h, rfl⟩
  | archiveRetry owner attempts nextAttemptAt message =>
    simp only [Statement.update, scheduleAsyncImageArchiveRetry, AsyncImageTask.generated,
      Bool.and_eq_true, decide_eq_true_eq] at h
    exact .inr ⟨_, rfl, h, rfl⟩
  | failArchive owner attempts code message =>
    simp only [Statement.update, failAsyncImageArchive, AsyncImageTask.generated,
      Bool.and_eq_true, decide_eq_true_eq] at h
    exact .inr ⟨_, rfl, h, rfl⟩
  | incident message =>
    simp only [Statement.update, markAsyncImageStagingIntegrityIncident,
      AsyncImageTask.generated, Bool.and_eq_true, decide_eq_true_eq] at h
    exact .inr ⟨_, rfl, h, rfl⟩
  | reset retryDeadlineAt =>
    simp only [Statement.update, resetAsyncImageArchiveForRetry, AsyncImageTask.archiveFailed,
      AsyncImageTask.generated, Bool.and_eq_true, decide_eq_true_eq] at h
    exact .inr ⟨_, rfl, h, rfl⟩
  | expired now =>
    simp only [Statement.update, markExpiredAsyncImageTask, Bool.and_eq_true,
      decide_eq_true_eq] at h
    exact .inr ⟨_, rfl, h.1.1, rfl⟩

def Op.writesTasks : Op → Bool
  | .submit _ | .update _ _ | .refund .. | .settle _ | .rebind .. => true
  | _ => false

theorem exec_tasks (h : o.writesTasks = false) (w : World) (s : Shared) :
    (exec o w s).2.db.tasks = s.db.tasks := by
  cases o with
  | submit | update | refund | settle | rebind => cases h
  | runnableTasks | executeImageAttempt | stageImage | deleteStagedImage | headObject =>
    simp only [exec]
    split <;> rfl
  | putObject | deleteObject =>
    simp only [exec, Shared.execute]
    split <;> rfl
  | observe | request | getTask | finish | readStagedImage | oldStagedFiles
  | hasStorageObjectForStagingPath | listStorageObjects | updateObject | expiredStorageObjects
  | stagingDeletePending | failedTasks | pendingNotifications | rebindCandidates | countActive =>
    rfl

@[simp] theorem record_db (s : Shared) (taskID : String) (st : Statement) :
    (s.record taskID st).db = s.db := by
  cases st <;> rfl

theorem exec_update_db (taskID : String) (st : Statement) (w : World) (s : Shared) :
    (exec (.update taskID st) w s).2.db =
      { s.db with tasks := ((st.update w.now).exec w.write s.db.tasks taskID).2 } := by
  simp only [exec]
  split
  · rw [record_db]
  · rfl

theorem commit_cases (s : Shared) (w : World) (tx : Except Error DB) :
    (s.commit w tx = (false, s)) ∨
      ∃ db, w.write = .done ∧ tx = .ok db ∧ s.commit w tx = (true, { s with db }) := by
  unfold Shared.commit
  split
  next db hwrite =>
    exact .inr ⟨db, hwrite, rfl, rfl⟩
  · exact .inl rfl

theorem commit_db {s : Shared} {w : World} {tx : Except Error DB} {db : DB}
    (hwrite : w.write = .done) (htx : tx = .ok db) : (s.commit w tx).2.db = db := by
  rw [htx, Shared.commit]
  exact hwrite

section ViewAfter

variable {db db' : DB} {t u : AsyncImageTask} {taskID : String}

section

variable (ht : db.tasks.find? taskID = some t)

include ht

theorem view_put (hid : u.taskID = t.taskID) (hput : db'.tasks = db.tasks.put u) (id : String) :
    db'.view id = if id = taskID then some u.view else db.view id := by
  have htask : u.taskID = taskID := hid.trans (Table.find?_key ht)
  unfold DB.view
  rw [hput]
  split
  next heq =>
    rw [heq, Table.find?_put_of_find? ht u htask, Option.map_some]
  next hne =>
    rw [Table.find?_put_of_ne (by rw [key_task, htask]; exact hne)]

theorem view_of_find? : db.view taskID = some t.view := by
  rw [DB.view, ht, Option.map_some]

theorem Moves.put {a : Act} (hid : u.taskID = t.taskID)
    (hput : db'.tasks = db.tasks.put u) (hact : o.act taskID = some a)
    (henabled : a.Enabled t.view) (hview : u.view = a.apply t.view) (id : String) :
    Moves o id (db.view id) (db'.view id) := by
  rw [view_put ht hid hput]
  split
  next heq =>
    rw [heq, view_of_find? ht, hview]
    exact .act a t.view hact henabled
  · exact .stay _

end

end ViewAfter

section Transactions

variable {db db' : DB} {zone now : Int}

theorem submit_moves {sub : Submission} (h : submit zone now db sub = .ok db') (id : String) :
    Moves (.submit sub) id (db.view id) (db'.view id) := by
  obtain ⟨token, -, hcreate⟩ := submit_cases h
  obtain ⟨-, -, -, f, a, -, -, hcreate⟩ := create_cases hcreate
  unfold DB.view
  rw [Table.find?_create hcreate]
  split
  next heq =>
    rw [heq, Table.create_fresh hcreate]
    exact .create sub rfl
  · exact .stay _

theorem refund_moves {owner code message reason : String}
    (h : refundAsyncImageBilling now db taskID code message reason = .ok db') (id : String) :
    Moves (.refund owner taskID code message reason) id (db.view id) (db'.view id) := by
  obtain ⟨t, ht, -, ⟨-, rfl⟩ | ⟨hreserved, hput, -⟩⟩ := refund_cases h
  · exact .stay _
  · exact .put (u := t.refunded now code message reason) ht rfl hput
      (Op.act_refund owner taskID code message reason) hreserved rfl id

theorem SettledAs.moves {t new : AsyncImageTask} {actual : Int} {s : AsyncImageBillingSettler}
    (h : SettledAs db db' t new actual) (ht : db.tasks.find? s.taskID = some t)
    (hid : new.taskID = t.taskID)
    (hact : t.billingStatus = .reserved → s.act.Enabled t.view ∧ new.view = s.act.apply t.view)
    (id : String) : Moves (.settle s) id (db.view id) (db'.view id) := by
  cases h with
  | already _ hkeep =>
    rw [hkeep]
    exact .stay _
  | now hreserved _ hput =>
    obtain ⟨henabled, hview⟩ := hact hreserved
    exact Moves.put ht hid hput (Op.act_settle s) henabled hview id

theorem settle_moves {s : AsyncImageBillingSettler} {actual : Int}
    (h : s.settle now db actual = .ok db') (id : String) :
    Moves (.settle s) id (db.view id) (db'.view id) := by
  unfold AsyncImageBillingSettler.settle at h
  by_cases hcomplete : s.manifest ≠ "" ∧ 0 < s.objects.length
  · rw [if_pos hcomplete] at h
    obtain ⟨t, ht, hleased, hsettled, hrunning⟩ := complete_cases h
    refine hsettled.moves ht rfl (fun hreserved => ?_) id
    rw [AsyncImageBillingSettler.act, if_pos hcomplete]
    exact ⟨⟨hleased, (hrunning hreserved).1, hreserved⟩, rfl⟩
  rw [if_neg hcomplete] at h
  by_cases hcode : s.archiveErrorCode ≠ ""
  · rw [if_pos hcode] at h
    obtain ⟨t, ht, hleased, hsettled, -⟩ := archiveFailure_cases h
    refine hsettled.moves ht rfl (fun hreserved => ?_) id
    rw [AsyncImageBillingSettler.act, if_neg hcomplete, if_pos hcode]
    exact ⟨⟨hleased, hreserved⟩, rfl⟩
  rw [if_neg hcode] at h
  obtain ⟨t, ht, hsettled, -⟩ := settleBilling_cases h
  refine hsettled.moves ht rfl (fun hreserved => ?_) id
  rw [AsyncImageBillingSettler.act, if_neg hcomplete, if_neg hcode]
  exact ⟨hreserved, rfl⟩

theorem rebindTask_cases (h : rebindTask settings deadline now db taskID = some db') :
    ∃ t, db.tasks.find? taskID = some t ∧ t.archiveFailed = true ∧
      (listStorageObjects db taskID).all StorageObject.rebindable = true ∧
      db' = { db with
        tasks := db.tasks.put { t with lifecycle := t.lifecycle.rearchive deadline now }
        objects := (listStorageObjects db taskID).foldl
          (fun table o => table.put (o.rebound settings)) db.objects } := by
  unfold rebindTask at h
  split at h
  · cases h
  rename_i t ht
  dsimp only at h
  split at h
  next hready =>
    simp only [Bool.and_eq_true] at hready
    cases h
    exact ⟨t, ht, hready.1.1, hready.2, rfl⟩
  · cases h

theorem rebindTask_view (h : rebindTask settings deadline now db taskID = some db') :
    ∃ v, db.view taskID = some v ∧ Act.reset.Enabled v ∧
      ∀ id, db'.view id = if id = taskID then some (Act.reset.apply v) else db.view id := by
  obtain ⟨t, ht, hfailed, -, rfl⟩ := rebindTask_cases h
  simp only [AsyncImageTask.archiveFailed, AsyncImageTask.generated, Bool.and_eq_true,
    decide_eq_true_eq] at hfailed
  refine ⟨t.view, view_of_find? ht, hfailed, ?_⟩
  exact view_put (u := { t with lifecycle := t.lifecycle.rearchive deadline now }) ht rfl rfl

theorem rebind_moves {taskIDs : List String}
    (h : rebindTasks settings deadline now taskIDs db = some db') (id : String) :
    db'.view id = db.view id ∨ ∃ v, id ∈ taskIDs ∧ db.view id = some v ∧ Act.reset.Enabled v ∧
        db'.view id = some (Act.reset.apply v) := by
  induction taskIDs generalizing db with
  | nil =>
    cases h
    exact .inl rfl
  | cons taskID rest ih =>
    obtain ⟨db₁, hfirst, hrest⟩ := Option.bind_eq_some_iff.mp h
    obtain ⟨v, hv, henabled, hviews⟩ := rebindTask_view hfirst
    obtain hlater | ⟨v', hmem, hv', henabled', hlater⟩ := ih hrest
    · rw [hlater, hviews]
      split
      next heq =>
        subst heq
        exact .inr ⟨v, (.head _), hv, henabled, rfl⟩
      · exact .inl rfl
    rw [hviews] at hv'
    split at hv'
    · cases hv'
      exact absurd henabled'.2 (by simp [Act.apply])
    · exact .inr ⟨v', List.mem_cons_of_mem taskID hmem, hv', henabled', hlater⟩

theorem rebind_lease {taskIDs : List String}
    (h : rebindTasks settings deadline now taskIDs db = some db') {id : String}
    (hid : id ∈ taskIDs) : ∃ v, db'.view id = some v ∧ v.owner = "" := by
  induction taskIDs generalizing db with
  | nil => cases hid
  | cons taskID rest ih =>
    obtain ⟨db₁, hfirst, hrest⟩ := Option.bind_eq_some_iff.mp h
    obtain rfl | hlater := List.mem_cons.mp hid
    · obtain ⟨v, -, -, hviews⟩ := rebindTask_view hfirst
      obtain hkeep | ⟨v', -, -, -, hreset⟩ := rebind_moves hrest id
      · exact ⟨_, hkeep.trans ((hviews id).trans (if_pos rfl)), rfl⟩
      · exact ⟨_, hreset, rfl⟩
    · exact ih hrest hlater

end Transactions

theorem exec_moves (o : Op) (w : World) (s : Shared) (id : String) :
    Moves o id (s.db.view id) ((exec o w s).2.db.view id) := by
  by_cases hwrites : o.writesTasks = false
  · rw [show (exec o w s).2.db.view id = s.db.view id by rw [DB.view, exec_tasks hwrites]; rfl]
    exact .stay _
  cases o with
  | submit sub =>
    show Moves _ id _ (DB.view (s.commit w (submit w.zone w.now s.db sub)).2.db id)
    obtain hnone | ⟨db, -, htx, hcommit⟩ :=
      commit_cases s w (AsyncImage.submit w.zone w.now s.db sub)
    · rw [hnone]
      exact .stay _
    · rw [hcommit]
      exact submit_moves htx id
  | refund owner taskID code message reason =>
    show Moves _ id _ (DB.view (s.commit w
      (refundAsyncImageBilling w.now s.db taskID code message reason)).2.db id)
    obtain hnone | ⟨db, -, htx, hcommit⟩ :=
      commit_cases s w (refundAsyncImageBilling w.now s.db taskID code message reason)
    · rw [hnone]
      exact .stay _
    · rw [hcommit]
      exact refund_moves htx id
  | settle settler =>
    show Moves _ id _ (DB.view (s.commit w
      (settler.settle w.now s.db w.actualQuota)).2.db id)
    obtain hnone | ⟨db, -, htx, hcommit⟩ :=
      commit_cases s w (settler.settle w.now s.db w.actualQuota)
    · rw [hnone]
      exact .stay _
    · rw [hcommit]
      exact settle_moves htx id
  | update taskID st =>
    rw [exec_update_db]
    obtain ⟨-, hkeep⟩ | ⟨t, ht, hguard, hput⟩ :=
      (st.update w.now).exec_cases w.write s.db.tasks taskID
    · rw [hkeep]
      exact .stay _
    rw [hput]
    have hrow : (({ s.db with tasks := s.db.tasks.put ((st.update w.now).row t) } : DB)).tasks =
      s.db.tasks.put ((st.update w.now).row t) := rfl
    obtain ⟨hact, hview⟩ | ⟨a, hact, henabled, hview⟩ := Statement.view_row hguard
    · rw [view_put ht ((st.update w.now).row_taskID t) hrow, hview]
      split
      next heq =>
        rw [heq, view_of_find? ht]
        exact .stay _
      · exact .stay _
    · exact .put ht ((st.update w.now).row_taskID t) hrow
        ((Op.act_update taskID st).trans hact) henabled hview id
  | rebind settings taskIDs =>
    simp only [exec]
    split
    next db _ htx =>
      obtain hkeep | ⟨v, hmem, hv, henabled, hview⟩ := rebind_moves htx id
      · rw [hkeep]
        exact .stay _
      · rw [hv, hview]
        exact .act .reset v (if_pos hmem) henabled
    · exact .stay _
  | _ => exact absurd rfl hwrites

end ZModel.AsyncImage
