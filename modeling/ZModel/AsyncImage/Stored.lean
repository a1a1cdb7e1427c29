import ZModel.AsyncImage.Fencing

/-!
# Available objects are stored

The object of an available row is stored, unless a cleaner deletes an object that was uploaded
again, or a worker that lost its lease marks the row.
-/

namespace ZModel.AsyncImage

open Lib Store

variable {owner taskID : String}

/-- An object is deleted while its row waits for it; a row is marked available by the holder of the
lease. -/
def Punctual (s : Shared) : Op → Prop
  | .deleteObject id _ => ∀ x ∈ s.db.objects.find? id, x.status = .deletePending
  | .updateObject id (.available owner _ _) => s.holder id.2.1 = some owner
  | _ => True

instance (s : Shared) (o : Op) : Decidable (Punctual s o) := by
  unfold Punctual
  split <;> infer_instance

def ObjectStatus.unstored : ObjectStatus → Bool
  | .uploading | .failed | .deleted => true
  | .available | .deletePending => false

def AvailableStored (s : Shared) : Prop :=
  ∀ id x, s.db.objects.find? id = some x → x.status = .available →
    objectAt s.remote x.location ≠ none

section Rows

variable {o : Op} {w : World} {s : Shared} {id : ObjectID} {x y : StorageObject}

theorem holder_eq (s : Shared) (taskID : String) :
    s.holder taskID = (s.db.view taskID).map View.owner := by
  rw [DB.view, Option.map_map]
  rfl

theorem objectAt_kept (hbase : Base s) (hbuilt : o.Built) (hpunctual : Punctual s o)
    (hy : s.db.objects.find? id = some y) (hstatus : y.status ≠ .deletePending)
    (hpresent : objectAt s.remote y.location ≠ none) :
    objectAt (exec o w s).2.remote y.location ≠ none := by
  refine objectAt_exec (fun id' ho => ?_) w hpresent
  subst ho
  have hplaced : y.location.id = id := (hbase.placed hy).trans (Table.find?_key hy)
  obtain rfl : id = id' := hplaced.symm.trans hbuilt
  exact hstatus (hpunctual y hy)

theorem AvailableStored.step (h : AvailableStored s) (hbase : Base s) (hbuilt : o.Built)
    (hpunctual : Punctual s o)
    (hmark : ∀ id owner expected expiresAt y,
      o = .updateObject id (.available owner expected expiresAt) →
      s.db.objects.find? id = some y → y.status = expected →
      objectAt s.remote y.location ≠ none) : AvailableStored (exec o w s).2 := by
  intro id x hx havailable
  have hmoves := exec_objectMoves o w s id
  generalize hbefore : s.db.objects.find? id = before,
    hafter : (exec o w s).2.db.objects.find? id = after at hx hmoves
  cases hmoves with
  | stay =>
    have hx := hbefore.trans hx
    refine objectAt_kept hbase hbuilt hpunctual hx ?_ (h id x hx havailable)
    rw [havailable]
    nofun
  | create st y ho hstatus =>
    cases hx
    rw [hstatus] at havailable
    cases havailable
  | update st y ho hguard =>
    cases hx
    subst ho
    cases st with
    | available owner expected expiresAt =>
      exact hmark id owner expected expiresAt y rfl hbefore (of_decide_eq_true hguard)
    | stagingAvailable | deleteFailed | stagingDeletePending | stagingDeleted =>
      exact h id y hbefore havailable
    | uploading | failed | stagingFailed | claimExpired | deleted => cases havailable
  | rebind settings taskIDs y =>
    cases hx
    cases havailable

theorem row_kept (howner : owner ≠ "") (hholder : (exec o w s).2.holder id.2.1 = some owner)
    (hmark : ∀ owner expected expiresAt, o ≠ .updateObject id (.available owner expected expiresAt))
    (hy : s.db.objects.find? id = some y) :
    ∃ y', (exec o w s).2.db.objects.find? id = some y' ∧ y'.location = y.location ∧
      (y.status.unstored = true → y'.status.unstored = true) := by
  have hkey : key y = id := Table.find?_key hy
  generalize hafter : (exec o w s).2.db.objects.find? id = after
  have hmoves : ObjectMoves o id (some y) after := hy ▸ hafter ▸ exec_objectMoves o w s id
  cases hmoves with
  | stay => exact ⟨y, rfl, rfl, fun h => h⟩
  | update st _ ho hguard =>
    refine ⟨_, rfl, rfl, fun hstatus => ?_⟩
    cases st with
    | available owner expected expiresAt => exact absurd ho (hmark owner expected expiresAt)
    | uploading | failed | stagingFailed | deleted => rfl
    | stagingAvailable | deleteFailed | stagingDeletePending | stagingDeleted => exact hstatus
    | claimExpired now =>
      have havailable : y.status = .available := by
        simp only [ObjectStatement.update, claimExpiredStorageObject, Bool.and_eq_true,
          decide_eq_true_eq] at hguard
        exact hguard.1
      rw [havailable] at hstatus
      cases hstatus
  | rebind settings taskIDs _ ho hmem =>
    -- A rebind that is committed takes the lease.
    subst ho
    simp only [exec] at hholder hafter
    split at hholder
    next db _ htx =>
      obtain ⟨v, hv, hempty⟩ := rebind_lease htx hmem
      have hresource : id.2.1 = y.resourceID := congrArg (fun i => i.2.1) hkey.symm
      rw [holder_eq, hresource] at hholder
      rw [show db.view y.resourceID = some v from hv, Option.map_some, hempty] at hholder
      exact absurd (Option.some.inj hholder).symm howner
    rename_i hnone
    split at hafter
    next db hwrite htx =>
      exact absurd htx (hnone db hwrite)
    · rw [hy] at hafter
      exact ⟨y, hafter.symm, rfl, fun h => h⟩

end Rows

def Current (x : StorageObject) (s : Shared) : Prop :=
  ∃ y, s.db.objects.find? (key x) = some y ∧ y.location = x.location ∧
    (x.status.unstored = true → y.status.unstored = true)

def Unstored (x : StorageObject) (s : Shared) : Prop :=
  ∃ y, s.db.objects.find? (key x) = some y ∧ y.location = x.location ∧ y.status.unstored = true

structure Listed (k : Lease) (l : List StorageObject) (s : Shared) : Prop where
  owned : ∀ x ∈ l, x.resourceID = k.2
  nodup : (l.map key).Nodup
  current : s.holder k.2 = some k.1 → ∀ x ∈ l, Current x s

/-- While the worker holds the lease, what it has found or uploaded stays. -/
def Outline.stored : Outline where
  good := AvailableStored
  means k f s := match f with
    | .listed l => Listed k l s
    | .uploading x rest => Listed k (x :: rest) s ∧ (s.holder k.2 = some k.1 → Unstored x s)
    | .stored expected x rest => Listed k (x :: rest) s ∧
        (expected.unstored = true → s.holder k.2 = some k.1 →
          Unstored x s ∧ objectAt s.remote x.location ≠ none)
    | _ => True
  allowed o _ s := Punctual s o
  crashes := True
  check _ _ _ := True

section Step

variable {o : Op} {w : World} {s : Shared} {k : Lease} {x : StorageObject}
  {l rest : List StorageObject}

theorem Unstored.step (h : Unstored x s) (howner : k.1 ≠ "") (hresource : x.resourceID = k.2)
    (hholder : (exec o w s).2.holder k.2 = some k.1)
    (hmark : ∀ owner expected expiresAt,
      o ≠ .updateObject (key x) (.available owner expected expiresAt)) :
    Unstored x (exec o w s).2 := by
  obtain ⟨y, hy, hlocation, hstatus⟩ := h
  obtain ⟨y', hy', hlocation', hstatus'⟩ := row_kept howner (hresource ▸ hholder) hmark hy
  exact ⟨y', hy', hlocation'.trans hlocation, hstatus' hstatus⟩

theorem Listed.step (h : Listed k l s) (howner : k.1 ≠ "")
    (hkeep : (exec o w s).2.holder k.2 = some k.1 → s.holder k.2 = some k.1)
    (hmark : ∀ x ∈ l, (exec o w s).2.holder k.2 = some k.1 → ∀ owner expected expiresAt,
      o ≠ .updateObject (key x) (.available owner expected expiresAt)) :
    Listed k l (exec o w s).2 := by
  refine ⟨h.owned, h.nodup, fun hholder x hx => ?_⟩
  obtain ⟨y, hy, hlocation, hstatus⟩ := h.current (hkeep hholder) x hx
  obtain ⟨y', hy', hlocation', hstatus'⟩ :=
    row_kept howner (h.owned x hx ▸ hholder) (hmark x hx hholder) hy
  exact ⟨y', hy', hlocation'.trans hlocation, fun hx => hstatus' (hstatus hx)⟩

theorem Unstored.object (h : Unstored x s) (hbase : Base s) (hbuilt : o.Built)
    (hpunctual : Punctual s o) (hpresent : objectAt s.remote x.location ≠ none) :
    objectAt (exec o w s).2.remote x.location ≠ none := by
  obtain ⟨y, hy, hlocation, hstatus⟩ := h
  rw [← hlocation] at hpresent ⊢
  refine objectAt_kept hbase hbuilt hpunctual hy (fun hpending => ?_) hpresent
  rw [hpending] at hstatus
  cases hstatus

theorem Listed.tail (h : Listed k (x :: rest) s) : Listed k rest s :=
  ⟨fun y hy => h.owned y (List.mem_cons_of_mem x hy), (List.nodup_cons.mp h.nodup).2,
    fun hholder y hy => h.current hholder y (List.mem_cons_of_mem x hy)⟩

theorem Foreign.holder (h : Foreign k o) (howner : k.1 ≠ "")
    (hholder : (exec o w s).2.holder k.2 = some k.1) : s.holder k.2 = some k.1 := by
  rw [holder_eq] at hholder ⊢
  obtain ⟨v, hv, hlease⟩ := Option.map_eq_some_iff.mp hholder
  obtain ⟨u, hu, huowner, -⟩ := h.view howner hv hlease
  rw [hu, Option.map_some, huowner]

namespace Outline

theorem stored_foreign {f : Phase} (h : Foreign k o) (howner : k.1 ≠ "") (hbase : Base s)
    (hpunctual : Punctual s o)
    (hmark : ∀ (x : StorageObject) owner expected expiresAt,
      o = .updateObject (key x) (.available owner expected expiresAt) → x.resourceID = k.2 →
      owner ≠ k.1)
    (hmeans : Outline.stored.means k f s) : Outline.stored.means k f (exec o w s).2 := by
  have hother : ∀ x : StorageObject, x.resourceID = k.2 →
      (exec o w s).2.holder k.2 = some k.1 → ∀ owner expected expiresAt,
        o ≠ .updateObject (key x) (.available owner expected expiresAt) := by
    intro x hresource hholder owner expected expiresAt ho
    refine hmark x owner expected expiresAt ho hresource ?_
    subst ho
    have hleased : s.holder x.resourceID = some owner := hpunctual
    rw [hresource, h.holder howner hholder] at hleased
    exact (Option.some.inj hleased).symm
  have hlisted : ∀ {l}, Listed k l s → Listed k l (exec o w s).2 := fun hl =>
    hl.step howner (h.holder howner) fun x hx hholder => hother x (hl.owned x hx) hholder
  cases f with
  | listed l => exact hlisted hmeans
  | uploading x rest =>
    obtain ⟨hl, hunstored⟩ := hmeans
    have hresource := hl.owned x (.head _)
    refine ⟨hlisted hl, fun hholder => ?_⟩
    exact (hunstored (h.holder howner hholder)).step howner hresource hholder
      (hother x hresource hholder)
  | stored expected x rest =>
    obtain ⟨hl, hunstored⟩ := hmeans
    have hresource := hl.owned x (.head _)
    refine ⟨hlisted hl, fun hexpected hholder => ?_⟩
    obtain ⟨hrow, hpresent⟩ := hunstored hexpected (h.holder howner hholder)
    exact ⟨hrow.step howner hresource hholder (hother x hresource hholder),
      hrow.object hbase h.built hpunctual hpresent⟩
  | _ => trivial

theorem stored_list {rows : List StorageObject}
    (h : (exec (.listStorageObjects taskID) w s).1 = some rows) :
    Listed (owner, taskID) rows s := by
  obtain rfl : listStorageObjects s.db taskID = rows := World.read_eq_some h
  refine ⟨fun x hx => (mem_listStorageObjects.mp hx).2, nodup_listStorageObjects s.db taskID, ?_⟩
  intro _ x hx
  have hrow := (mem_listStorageObjects.mp hx).1
  exact ⟨x, Table.find?_eq_some_iff.mpr ⟨hrow, rfl⟩, rfl, fun h => h⟩

theorem stored_mark {expected : ObjectStatus} (hgood : AvailableStored s)
    (hmeans : Outline.stored.means (owner, taskID) (.stored expected x rest) s)
    (hexpected : expected ≠ .deletePending) (hholder : s.holder x.resourceID = some owner)
    {y : StorageObject} (hy : s.db.objects.find? (key x) = some y) (hstatus : y.status = expected) :
    objectAt s.remote y.location ≠ none := by
  obtain ⟨hl, hunstored⟩ := hmeans
  rw [hl.owned x (.head _)] at hholder
  cases expected with
  | uploading | failed | deleted =>
    obtain ⟨⟨z, hz, hlocation, -⟩, hpresent⟩ := hunstored rfl hholder
    obtain rfl : y = z := Option.some.inj (hy.symm.trans hz)
    rw [hlocation]
    exact hpresent
  | available => exact hgood _ y hy hstatus
  | deletePending => exact absurd rfl hexpected

theorem stored_next {f : Phase} {next : o.Ret → Phase} (h : WorkerStep owner taskID f o next)
    (howner : owner ≠ "") (hmeans : Outline.stored.means (owner, taskID) f s) :
    Outline.stored.means (owner, taskID) (next (exec o w s).1) (exec o w s).2 := by
  -- The statements of an archive do not touch the task.
  have hholder : o.act taskID = none → (∀ s, o ≠ .submit s) →
      (exec o w s).2.holder taskID = s.holder taskID := by
    intro hact hsubmit
    rw [holder_eq, holder_eq, exec_view hact hsubmit]
  cases h with
  | claim | start | settle =>
    beta_reduce
    split <;> trivial
  | readBack => cases (exec (.getTask taskID) w s).1 <;> trivial
  | attempt =>
    unfold Phase.afterAttempt
    split <;> trivial
  | postpone | choose | refund | readAgain | markFailed | endArchive | finish => trivial
  | list =>
    cases hrows : (exec (.listStorageObjects taskID) w s).1 with
    | none => trivial
    | some rows => exact stored_list hrows
  | head x rest =>
    have hl : Listed (owner, taskID) (x :: rest) s := hmeans
    simp only [exec]
    split
    · cases hobject : objectAt s.remote x.location with
      | none => exact hl
      | some found =>
        refine ⟨hl, fun hstatus hleased => ?_⟩
        obtain ⟨y, hy, hlocation, hrow⟩ := hl.current hleased x (.head _)
        refine ⟨⟨y, hy, hlocation, hrow hstatus⟩, ?_⟩
        rw [hobject]
        exact Option.some_ne_none found
    · exact hl
  | markUploading x rest =>
    have hl : Listed (owner, taskID) (x :: rest) s := hmeans
    beta_reduce
    split
    next haffected =>
      have hkeep := hholder rfl fun _ ho => by cases ho
      refine ⟨hl.step howner (hkeep ▸ ·) ?_, fun hleased => ?_⟩
      · intro _ _ _ _ _ _ ho
        cases (Op.updateObject.inj ho).2
      obtain ⟨y, hy, hlocation, -⟩ := hl.current (hkeep ▸ hleased) x (.head _)
      obtain ⟨hnone, -⟩ | ⟨z, hz, -, hput⟩ := (ObjectStatement.uploading owner).update.exec_cases
        w.write s.db.objects (key x)
      · exact absurd haffected hnone
      obtain rfl : y = z := Option.some.inj (hy.symm.trans hz)
      have hkey : key ((ObjectStatement.uploading owner).update.row y) = key x :=
        (ObjectUpdate.key_row _ y).trans (Table.find?_key hy)
      refine ⟨(ObjectStatement.uploading owner).update.row y, ?_, hlocation, rfl⟩
      simp only [exec, hput]
      exact Table.find?_put_of_find? hy _ hkey
    · trivial
  | put x rest r =>
    obtain ⟨hl, hunstored⟩ := hmeans
    have hkeep := hholder rfl fun _ ho => by cases ho
    have hl' : Listed (owner, taskID) (x :: rest) (exec (.putObject x.location r) w s).2 :=
      hl.step howner (hkeep ▸ ·) fun _ _ _ _ _ _ ho => by cases ho
    have hrow : (exec (.putObject x.location r) w s).2.holder taskID = some owner →
        Unstored x (exec (.putObject x.location r) w s).2 := fun hleased =>
      (hunstored (hkeep ▸ hleased)).step howner (hl.owned x (.head _)) hleased
        fun _ _ _ ho => by cases ho
    beta_reduce
    split
    next hstored =>
      exact ⟨hl', fun _ hleased => ⟨hrow hleased, objectAt_exec_put hstored⟩⟩
    · exact ⟨hl', hrow⟩
  | markAvailable expected x rest hexpected expiresAt =>
    have hl : Listed (owner, taskID) (x :: rest) s := hmeans.1
    have hnew := (List.nodup_cons.mp hl.nodup).1
    have hkeep := hholder rfl fun _ ho => by cases ho
    refine hl.tail.step howner (hkeep ▸ ·) ?_
    rintro y hy - owner' expected' expiresAt' ho
    exact hnew (List.mem_map.mpr ⟨y, hy, (Op.updateObject.inj ho).1.symm⟩)

theorem stored_valid : Outline.stored.Valid where
  common {o w s} hcommon hbuilt hpunctual hbase hgood := by
    refine ⟨trivial, .step hgood hbase hbuilt hpunctual ?_, ?_⟩
    · rintro id owner expected expiresAt y rfl
      cases hcommon
    intro k f _ howner _ hmeans
    refine stored_foreign (.common hcommon hbuilt) howner hbase hpunctual ?_ hmeans
    rintro x owner expected expiresAt rfl
    cases hcommon
  fresh _ _ _ _ := trivial
  step {owner taskID f o next w s} h howner hmem hpunctual hbase hgood hmeans := by
    refine ⟨⟨trivial, .step hgood hbase h.built hpunctual ?_, ?_⟩, stored_next h howner hmeans⟩
    · rintro id owner' expected expiresAt y rfl hy hstatus
      cases h with
      | markAvailable _ x rest hexpected =>
        exact stored_mark hgood hmeans hexpected hpunctual hy hstatus
    intro k f' hown hne _ hmeans'
    have hother : (owner, taskID) ≠ k := fun heq => hown (congrArg some heq)
    refine stored_foreign (.step owner taskID f next h howner hother) hne hbase hpunctual ?_
      hmeans'
    rintro x owner' expected expiresAt rfl hresource rfl
    generalize hid : key x = id at h
    cases h with
    | markAvailable _ z rest =>
      have hz : z.resourceID = taskID := hmeans.1.owned z (.head _)
      have hsame : x.resourceID = z.resourceID := congrArg (fun i => i.2.1) hid
      exact hother (Prod.ext rfl (hz.symm.trans (hsame.symm.trans hresource)))
  yields {owner taskID f g s} h _ _ _ hmeans := by
    cases h with
    | ended | archive => trivial
    | keep x rest => exact hmeans.1.tail
    | replace x rest => exact hmeans.1

end Outline

end Step

/-- In every such run, for every row that says available, the last operation executed on its key was
a put. -/
theorem available_stored (accounts : Accounts) (moves : List (Move Job World))
    (hrun : Along (System.step machine program)
      (imageConditions (fun o _ s => Punctual s o) True).Meets ⟨.start accounts, []⟩ moves) :
    let s := (run (System.step machine program) ⟨.start accounts, []⟩ moves).state
    ∀ x ∈ s.db.objects.rows, x.status = .available →
      ∃ object, s.remote.find? (fun op => op.location = x.location) =
        some (.put x.location object) := by
  intro s x hx havailable
  have hgood : Outline.stored.good (.start accounts) := fun id x hx => by cases hx
  have hend := (Outline.stored_valid.along (Base.start accounts) hgood hrun).1.2
  have hpresent := hend (key x) x (Table.find?_eq_some_iff.mpr ⟨hx, rfl⟩) havailable
  unfold objectAt at hpresent
  split at hpresent
  next loc object hlast =>
    have hlocation := List.find?_some hlast
    obtain rfl : loc = x.location := of_decide_eq_true hlocation
    exact ⟨object, hlast⟩
  · exact absurd rfl hpresent

def lateWorld (systemTaskID : String) : World :=
  { sampleWorld systemTaskID with now := 100000, storageNow := 100000 }

def sampleUploaded : List (Move Job World) :=
  [.start 0 (.submit { sampleSubmission "wallet_only" with settings := ⟨86400, 5, 3600⟩ })] ++
    steps 0 1 (sampleWorld "") ++ [.start 0 .process] ++ steps 1 8 (sampleWorld "1") ++
    steps 2 21 (sampleWorld "1") ++ steps 2 6 { sampleWorld "1" with write := .fails }

def sampleReuploaded : List (Move Job World) :=
  sampleUploaded ++ [.start 1 .cleanup] ++ steps 3 13 (lateWorld "") ++
    [.start 0 .process] ++ steps 4 8 (lateWorld "2") ++ steps 5 30 (lateWorld "2")

theorem available_stored_sample :
    let s := (run (System.step machine program) ⟨.start sampleAccounts, []⟩ sampleReuploaded).state
    s.db.objects.rows.map (fun x => (x.status, x.expiresAt)) = [(.available, 186400)] ∧
      ∀ x ∈ s.db.objects.rows, x.status = .available →
        ∃ object, s.remote.find? (fun op => op.location = x.location) =
          some (.put x.location object) :=
  ⟨by decide +kernel, available_stored sampleAccounts sampleReuploaded (by decide +kernel)⟩

def sampleTwoCleaners : List (Move Job World) :=
  sampleUploaded ++ [.start 1 .cleanup] ++ steps 3 3 (lateWorld "") ++
    [.start 2 .cleanup] ++ steps 4 3 (lateWorld "") ++ steps 3 10 (lateWorld "") ++
    [.start 0 .process] ++ steps 5 8 (lateWorld "2") ++ steps 6 30 (lateWorld "2")

/-- The row says available, and the last operation on its key is a delete. -/
theorem available_deleted :
    let sys := run (System.step machine program) ⟨.start sampleAccounts, []⟩ sampleTwoCleaners
    let after := (sys.step machine program (.run 4 (lateWorld ""))).state
    sys.state.db.objects.rows.map (fun x => (x.status, x.expiresAt)) = [(.available, 186400)] ∧
      after.db.objects.rows.map (fun x => (x.status, x.expiresAt)) = [(.available, 186400)] ∧
      ∀ x ∈ after.db.objects.rows,
        after.remote.find? (fun op => op.location = x.location) = some (.delete x.location) := by
  decide +kernel

end ZModel.AsyncImage
