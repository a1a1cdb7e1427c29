import ZModel.AsyncImage.Protocol

/-!
# The protocol of a storage object

An object row is created by a settlement, changed by the conditional updates, and moved by a change
of the settings (`exec_objectMoves`).
-/

namespace ZModel.AsyncImage

open Lib Store

def Location.id (l : Location) : ObjectID :=
  (l.objectKey.businessID, l.objectKey.taskID, l.objectKey.index)

def StorageObject.Placed (x : StorageObject) : Prop := x.location.id = key x

/-- What the worker settles with: objects of the task at locations of their own, or an error. -/
inductive AsyncImageBillingSettler.Built (s : AsyncImageBillingSettler) : Prop where
  | staged (hmanifest : isBlank s.manifest = false) (hobjects : s.objects ≠ [])
      (hplaced : ∀ x ∈ s.objects, x.location.id = (x.businessID, s.taskID, x.objectIndex))
      (hindex : (s.objects.map StorageObject.objectIndex).Nodup)
  | failed (hmanifest : s.manifest = "") (hcode : s.archiveErrorCode ≠ "")

/-- Settlements are as the worker builds them, and an object is deleted where its row says. -/
def Op.Built : Op → Prop
  | .settle s => s.Built
  | .deleteObject id loc => loc.id = id
  | _ => True

theorem AsyncImageBillingSettler.Built.act_eq {s : AsyncImageBillingSettler} (h : s.Built) :
    s.act = .complete s.leaseOwner ∨ s.act = .completeUnarchived s.leaseOwner := by
  unfold AsyncImageBillingSettler.act
  cases h with
  | staged hmanifest hobjects =>
    have hne : s.manifest ≠ "" := by
      rintro hempty
      rw [hempty] at hmanifest
      exact absurd hmanifest (by decide)
    exact .inl (if_pos ⟨hne, List.length_pos_iff.mpr hobjects⟩)
  | failed hmanifest hcode =>
    rw [if_neg (by simp [hmanifest]), if_pos hcode]
    exact .inr rfl

theorem marshalManifest_nonblank (items : List ManifestItem) :
    isBlank (marshalManifest items) = false := by
  have hhead : (marshalManifest items).toList =
      '[' :: (",".intercalate (items.map ManifestItem.json) ++ "]").toList := by
    rw [marshalManifest, String.append_assoc, String.toList_append]
    rfl
  exact isBlank_of_cons hhead (by decide)

inductive ObjectMoves (o : Op) (id : ObjectID) :
    Option StorageObject → Option StorageObject → Prop where
  | stay (x : Option StorageObject) : ObjectMoves o id x x
  | create (s : AsyncImageBillingSettler) (x : StorageObject) (h : o = .settle s)
      (hstatus : x.status = .uploading) (hresource : x.resourceID = s.taskID)
      (hplaced : s.Built → x.Placed) : ObjectMoves o id none (some x)
  | update (st : ObjectStatement) (x : StorageObject) (h : o = .updateObject id st)
      (hguard : st.update.guard x = true) : ObjectMoves o id (some x) (some (st.update.row x))
  | rebind (settings : StorageSettings) (taskIDs : List String) (x : StorageObject)
      (h : o = .rebind settings taskIDs) (hmem : x.resourceID ∈ taskIDs)
      (hready : x.rebindable = true) : ObjectMoves o id (some x) (some (x.rebound settings))

theorem ObjectUpdate.exec_cases (u : ObjectUpdate) (w : Write) (objects : Table StorageObject)
    (id : ObjectID) :
    ((u.exec w objects id).1 ≠ some true ∧ (u.exec w objects id).2 = objects) ∨
      ∃ x, objects.find? id = some x ∧ u.guard x = true ∧
        u.exec w objects id = (some true, objects.put (u.row x)) := by
  unfold ObjectUpdate.exec
  split
  · exact .inl ⟨by simp, rfl⟩
  · exact .inl ⟨by simp, rfl⟩
  rename_i x hx
  split
  next hguard =>
    exact .inr ⟨x, hx, hguard, rfl⟩
  · exact .inl ⟨by simp, rfl⟩

@[simp] theorem ObjectUpdate.key_row (u : ObjectUpdate) (x : StorageObject) :
    key (u.row x) = key x := rfl

theorem createObjects_find? {t : AsyncImageTask} {new : List StorageObject}
    {table table' : Table StorageObject} (h : createObjects t new table = .ok table')
    (id : ObjectID) :
    table'.find? id = table.find? id ∨
      table.find? id = none ∧ ∃ x ∈ new, table'.find? id = some { x with
        resourceID := t.taskID, provider := "s3", status := .uploading
        stagingStatus := .available } := by
  induction new generalizing table with
  | nil =>
    cases h
    exact .inl rfl
  | cons x rest ih =>
    unfold createObjects at h
    split at h
    · cases h
    split at h
    · cases h
    rename_i table₁ hcreate
    have hfirst := Table.find?_create hcreate id
    obtain hsame | ⟨hnone, y, hy, hnew⟩ := ih h
    · by_cases hid : id = key ({ x with
          resourceID := t.taskID, provider := "s3", status := .uploading
          stagingStatus := .available } : StorageObject)
      · rw [if_pos hid] at hfirst
        refine .inr ⟨?_, x, (.head _), hsame.trans hfirst⟩
        rw [hid]
        exact Table.create_fresh hcreate
      · rw [if_neg hid] at hfirst
        exact .inl (hsame.trans hfirst)
    rw [hfirst] at hnone
    split at hnone
    · cases hnone
    · exact .inr ⟨hnone, y, List.mem_cons_of_mem x hy, hnew⟩

theorem mem_listStorageObjects {db : DB} {taskID : String} {x : StorageObject} :
    x ∈ listStorageObjects db taskID ↔ x ∈ db.objects.rows ∧ x.resourceID = taskID := by
  simp [listStorageObjects]

theorem nodup_listStorageObjects (db : DB) (taskID : String) :
    ((listStorageObjects db taskID).map key).Nodup := by
  refine ((List.perm_insertionSort _ _).map key).nodup_iff.mpr ?_
  exact db.objects.nodup.sublist (List.filter_sublist.map key)

theorem find?_foldl_rebound (settings : StorageSettings) (l : List StorageObject)
    (table : Table StorageObject) (id : ObjectID) :
    (l.foldl (fun table x => table.put (x.rebound settings)) table).find? id = table.find? id ∨
      ∃ x ∈ l, key x = id ∧
        (l.foldl (fun table x => table.put (x.rebound settings)) table).find? id =
          some (x.rebound settings) := by
  induction l generalizing table with
  | nil => exact .inl rfl
  | cons x rest ih =>
    rw [List.foldl_cons]
    obtain hsame | ⟨y, hy, hkey, hnew⟩ := ih (table.put (x.rebound settings))
    · rw [hsame, Table.find?_put]
      split
      next hid =>
        cases hrow : table.find? id with
        | none => exact .inl rfl
        | some old => exact .inr ⟨x, (.head _), hid.symm, rfl⟩
      · exact .inl rfl
    · exact .inr ⟨y, List.mem_cons_of_mem x hy, hkey, hnew⟩

theorem rebindTask_objects {settings : StorageSettings} {deadline now : Int} {db db' : DB}
    {taskID : String} (h : rebindTask settings deadline now db taskID = some db')
    (id : ObjectID) :
    db'.objects.find? id = db.objects.find? id ∨
      ∃ x, db.objects.find? id = some x ∧ x.resourceID = taskID ∧ x.rebindable = true ∧
        db'.objects.find? id = some (x.rebound settings) := by
  obtain ⟨t, -, -, hready, rfl⟩ := rebindTask_cases h
  obtain hsame | ⟨x, hx, hkey, hnew⟩ :=
    find?_foldl_rebound settings (listStorageObjects db taskID) db.objects id
  · exact .inl hsame
  obtain ⟨hrow, hresource⟩ := mem_listStorageObjects.mp hx
  exact .inr ⟨x, Table.find?_eq_some_iff.mpr ⟨hrow, hkey⟩, hresource,
    List.all_eq_true.mp hready x hx, hnew⟩

theorem rebindTasks_objects {settings : StorageSettings} {deadline now : Int}
    {taskIDs : List String} {db db' : DB}
    (h : rebindTasks settings deadline now taskIDs db = some db') (id : ObjectID) :
    db'.objects.find? id = db.objects.find? id ∨
      ∃ x, db.objects.find? id = some x ∧ x.resourceID ∈ taskIDs ∧ x.rebindable = true ∧
        db'.objects.find? id = some (x.rebound settings) := by
  induction taskIDs generalizing db with
  | nil =>
    cases h
    exact .inl rfl
  | cons taskID rest ih =>
    obtain ⟨db₁, hfirst, hrest⟩ := Option.bind_eq_some_iff.mp h
    obtain hsame | ⟨x, hx, hresource, hready, hnew⟩ := rebindTask_objects hfirst id
    · rw [← hsame]
      obtain hlater | ⟨y, hy, hmem, hready, hnew⟩ := ih hrest
      · exact .inl hlater
      · exact .inr ⟨y, hy, List.mem_cons_of_mem taskID hmem, hready, hnew⟩
    have hmem : x.resourceID ∈ taskID :: rest := hresource ▸ (.head _)
    obtain hlater | ⟨y, hy, -, -, hlater⟩ := ih hrest
    · exact .inr ⟨x, hx, hmem, hready, hlater.trans hnew⟩
    -- A row that is moved twice is moved to the same place.
    obtain rfl : x.rebound settings = y := Option.some.inj (hnew.symm.trans hy)
    exact .inr ⟨x, hx, hmem, hready, hlater⟩

def Op.writesObjects : Op → Bool
  | .settle _ | .updateObject _ _ | .rebind .. => true
  | _ => false

theorem exec_objects {o : Op} (h : o.writesObjects = false) (w : World) (s : Shared) :
    (exec o w s).2.db.objects = s.db.objects := by
  cases o with
  | settle | updateObject | rebind => cases h
  | runnableTasks | executeImageAttempt | stageImage | deleteStagedImage | headObject =>
    simp only [exec]
    split <;> rfl
  | putObject | deleteObject =>
    simp only [exec, Shared.execute]
    split <;> rfl
  | submit sub =>
    simp only [exec]
    obtain hnone | ⟨db, -, htx, hcommit⟩ :=
      commit_cases s w (AsyncImage.submit w.zone w.now s.db sub)
    · rw [hnone]
    obtain ⟨token, -, hcreate⟩ := submit_cases htx
    rw [hcommit]
    exact (create_cases hcreate).2.2.1
  | refund owner taskID code message reason =>
    simp only [exec]
    obtain hnone | ⟨db, -, htx, hcommit⟩ :=
      commit_cases s w (refundAsyncImageBilling w.now s.db taskID code message reason)
    · rw [hnone]
    obtain ⟨t, -, hobjects, -⟩ := refund_cases htx
    rw [hcommit]
    exact hobjects
  | update taskID st => rw [exec_update_db]
  | observe | request | getTask | finish | readStagedImage | oldStagedFiles
  | hasStorageObjectForStagingPath | listStorageObjects | expiredStorageObjects
  | stagingDeletePending | failedTasks | pendingNotifications | rebindCandidates | countActive =>
    rfl

theorem settle_objectMoves {st : AsyncImageBillingSettler} {now actual : Int} {db db' : DB}
    (h : st.settle now db actual = .ok db') (id : ObjectID) :
    ObjectMoves (.settle st) id (db.objects.find? id) (db'.objects.find? id) := by
  unfold AsyncImageBillingSettler.settle at h
  split at h
  next hcomplete =>
    obtain ⟨t, ht, -, hsettled, hrecords⟩ := complete_cases h
    cases hsettled with
    | already _ hkeep =>
      rw [hkeep]
      exact .stay _
    | now hreserved _ _ =>
      have htask : t.taskID = st.taskID := Table.find?_key ht
      obtain hsame | ⟨hnone, x, hx, hnew⟩ := createObjects_find? (hrecords hreserved).2 id
      · rw [hsame]
        exact .stay _
      rw [hnone, hnew]
      refine .create st _ rfl rfl htask fun hbuilt => ?_
      cases hbuilt with
      | staged _ _ hplaced _ =>
        rw [htask]
        exact hplaced x hx
      | failed hmanifest _ => exact absurd hmanifest hcomplete.1
  split at h
  · obtain ⟨t, -, -, -, hobjects⟩ := archiveFailure_cases h
    rw [hobjects]
    exact .stay _
  · obtain ⟨t, -, -, hobjects⟩ := settleBilling_cases h
    rw [hobjects]
    exact .stay _

theorem exec_objectMoves (o : Op) (w : World) (s : Shared) (id : ObjectID) :
    ObjectMoves o id (s.db.objects.find? id) ((exec o w s).2.db.objects.find? id) := by
  by_cases hwrites : o.writesObjects = false
  · rw [exec_objects hwrites]
    exact .stay _
  cases o with
  | settle st =>
    simp only [exec]
    obtain hnone | ⟨db, -, htx, hcommit⟩ := commit_cases s w (st.settle w.now s.db w.actualQuota)
    · rw [hnone]
      exact .stay _
    · rw [hcommit]
      exact settle_objectMoves htx id
  | updateObject id' st =>
    simp only [exec]
    obtain ⟨-, hkeep⟩ | ⟨x, hx, hguard, hput⟩ := st.update.exec_cases w.write s.db.objects id'
    · rw [hkeep]
      exact .stay _
    rw [hput]
    have hkey : key (st.update.row x) = id' := (st.update.key_row x).trans (Table.find?_key hx)
    by_cases hid : id = id'
    · subst hid
      rw [Table.find?_put_of_find? hx _ hkey, hx]
      exact .update st x rfl hguard
    · rw [Table.find?_put_of_ne (by rw [hkey]; exact hid)]
      exact .stay _
  | rebind settings taskIDs =>
    simp only [exec]
    split
    next db _ htx =>
      obtain hsame | ⟨x, hx, hmem, hready, hnew⟩ := rebindTasks_objects htx id
      · rw [hsame]
        exact .stay _
      · rw [hx, hnew]
        exact .rebind settings taskIDs x rfl hmem hready
    · exact .stay _
  | _ => exact absurd rfl hwrites

theorem objectAt_cons (op : RemoteOp) (log : List RemoteOp) (loc : Location) :
    objectAt (op :: log) loc =
      if op.location = loc then (match op with | .put _ o => some o | .delete _ => none)
      else objectAt log loc := by
  unfold objectAt
  rw [List.find?_cons]
  by_cases h : op.location = loc
  · rw [if_pos h, decide_eq_true h]
    cases op <;> rfl
  · rw [if_neg h, decide_eq_false h]

theorem objectAt_put (loc : Location) (x : RemoteObject) (log : List RemoteOp) :
    objectAt (.put loc x :: log) loc = some x := by
  rw [objectAt_cons]
  exact if_pos rfl

theorem objectAt_exec_put {loc : Location} {x : RemoteObject} {w : World} {s : Shared}
    (h : (exec (.putObject loc x) w s).1 = true) :
    objectAt (exec (.putObject loc x) w s).2.remote loc ≠ none := by
  simp only [exec, Shared.execute] at h ⊢
  split at h
  · rw [objectAt_put]
    exact Option.some_ne_none _
  · cases h
  · cases h

theorem objectAt_exec {o : Op} {loc : Location} (h : ∀ id, o ≠ .deleteObject id loc) (w : World)
    {s : Shared} (hpresent : objectAt s.remote loc ≠ none) :
    objectAt (exec o w s).2.remote loc ≠ none := by
  have hput : ∀ x, objectAt (.put loc x :: s.remote) loc ≠ none := by
    intro x
    rw [objectAt_put]
    exact Option.some_ne_none _
  have hother : ∀ op : RemoteOp, op.location ≠ loc → objectAt (op :: s.remote) loc ≠ none := by
    intro op hop
    rw [objectAt_cons, if_neg hop]
    exact hpresent
  cases o with
  | putObject loc' x =>
    simp only [exec, Shared.execute]
    by_cases hloc : loc' = loc
    · subst hloc
      split
      · exact hput _
      · exact hpresent
      · exact hput _
    split
    · exact hother _ hloc
    · exact hpresent
    · exact hother _ hloc
  | deleteObject id loc' =>
    have hloc : loc' ≠ loc := fun heq => h id (heq ▸ rfl)
    simp only [exec, Shared.execute]
    split
    · exact hother _ hloc
    · exact hpresent
    · exact hother _ hloc
  | update taskID st =>
    simp only [exec]
    split
    · cases st <;> exact hpresent
    · exact hpresent
  | submit | refund | settle =>
    simp only [exec, Shared.commit]
    split <;> exact hpresent
  | runnableTasks | executeImageAttempt | stageImage | deleteStagedImage | headObject
  | rebind =>
    simp only [exec]
    split <;> exact hpresent
  | _ => exact hpresent

end ZModel.AsyncImage
