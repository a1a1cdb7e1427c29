import Mathlib.Data.List.Pairwise
import ZModel.Lib.Table

/-!
# The tables of the system tasks

The rows of `model/system_task.go` and the statements that write them. The runner of a task has the
row of its type in `system_task_locks`.
-/

namespace ZModel.SystemTasks

open Lib

inductive Status where
  | pending
  | running
  | succeeded
  | failed
  deriving DecidableEq

def Status.active : Status → Bool
  | .pending | .running => true
  | .succeeded | .failed => false

structure SystemTask where
  id : Nat
  taskID : String
  type : String
  status : Status := .pending
  activeKey : Option String
  payload : String
  state : String
  result : String := ""
  error : String := ""
  lockedBy : String := ""
  createdAt : Int
  updatedAt : Int
  deriving DecidableEq

structure SystemTaskLock where
  type : String
  taskID : String
  lockedBy : String
  lockedUntil : Int
  updatedAt : Int

instance : Keyed SystemTask Nat := ⟨SystemTask.id⟩

instance : Keyed SystemTaskLock String := ⟨SystemTaskLock.type⟩

structure Tasks where
  table : Table SystemTask
  taskIDs : (table.rows.map SystemTask.taskID).Nodup
  keys : (table.rows.filterMap SystemTask.activeKey).Nodup

def Tasks.empty : Tasks := ⟨Table.empty, List.nodup_nil, List.nodup_nil⟩

namespace Tasks

abbrev rows (ts : Tasks) : List SystemTask := ts.table.rows

variable {ts : Tasks} {t₁ t₂ : SystemTask}

theorem eq_of_taskID (h₁ : t₁ ∈ ts.rows) (h₂ : t₂ ∈ ts.rows) (h : t₁.taskID = t₂.taskID) :
    t₁ = t₂ :=
  List.inj_on_of_nodup_map ts.taskIDs h₁ h₂ h

theorem eq_of_activeKey (h₁ : t₁ ∈ ts.rows) (h₂ : t₂ ∈ ts.rows)
    (h : t₁.activeKey = t₂.activeKey) (hsome : t₁.activeKey.isSome = true) : t₁ = t₂ := by
  obtain ⟨k, hk⟩ := Option.isSome_iff_exists.mp hsome
  by_contra hne
  have hsymm : Std.Symm fun t t' : SystemTask =>
      ∀ b, t.activeKey = some b → ∀ b', t'.activeKey = some b' → b ≠ b' :=
    ⟨fun _ _ h b hb b' hb' => (h b' hb' b hb).symm⟩
  exact (List.pairwise_filterMap.mp ts.keys).forall h₁ h₂ hne k hk k (h ▸ hk) rfl

def newTask (id : Nat) (taskID type key payload state : String) (now : Int) : SystemTask where
  id := id
  taskID := taskID
  type := type
  activeKey := some key
  payload := payload
  state := state
  createdAt := now
  updatedAt := now

def create (ts : Tasks) (taskID type key payload state : String) (now : Int) : Option Tasks :=
  let t := newTask (ts.rows.length + 1) taskID type key payload state now
  match h : ts.table.create t with
  | none => none
  | some table =>
    if hunique : taskID ∉ ts.rows.map SystemTask.taskID ∧
        key ∉ ts.rows.filterMap SystemTask.activeKey then
      some ⟨table, by
        rw [Table.create_rows h, List.map_append]
        exact ts.taskIDs.append (List.nodup_singleton _) (List.disjoint_singleton.mpr hunique.1), by
        rw [Table.create_rows h, List.filterMap_append]
        exact ts.keys.append (List.nodup_singleton _) (List.disjoint_singleton.mpr hunique.2)⟩
    else none

theorem create_rows {taskID type key payload state : String} {now : Int} {ts' : Tasks}
    (h : ts.create taskID type key payload state now = some ts') :
    taskID ∉ ts.rows.map SystemTask.taskID ∧
      ts'.rows = ts.rows ++ [newTask (ts.rows.length + 1) taskID type key payload state now] := by
  unfold create at h
  dsimp only at h
  split at h
  · cases h
  rename_i table hcreate
  split at h
  next hunique =>
    cases h
    exact ⟨hunique.1, Table.create_rows hcreate⟩
  · cases h

end Tasks

structure Columns where
  status : Option Status := none
  clearsKey : Bool := false
  state : Option String := none
  result : Option String := none
  error : Option String := none
  lockedBy : Option String := none
  updatedAt : Int

def SystemTask.set (t : SystemTask) (c : Columns) : SystemTask :=
  { t with
    status := c.status.getD t.status
    activeKey := if c.clearsKey then none else t.activeKey
    state := c.state.getD t.state
    result := c.result.getD t.result
    error := c.error.getD t.error
    lockedBy := c.lockedBy.getD t.lockedBy
    updatedAt := c.updatedAt }

def SystemTask.after (t : SystemTask) (guard : SystemTask → Bool) (c : Columns) : SystemTask :=
  if guard t then t.set c else t

section After

variable (t : SystemTask) (guard : SystemTask → Bool) (c : Columns)

@[simp] theorem SystemTask.after_id : (t.after guard c).id = t.id := by
  unfold after
  split <;> rfl

@[simp] theorem SystemTask.after_taskID : (t.after guard c).taskID = t.taskID := by
  unfold after
  split <;> rfl

@[simp] theorem SystemTask.after_type : (t.after guard c).type = t.type := by
  unfold after
  split <;> rfl

theorem SystemTask.after_activeKey {k : String} (h : (t.after guard c).activeKey = some k) :
    t.activeKey = some k := by
  unfold after at h
  split at h
  · change (if c.clearsKey then none else t.activeKey) = some k at h
    split at h
    · cases h
    · exact h
  · exact h

end After

def Tasks.update (ts : Tasks) (guard : SystemTask → Bool) (c : Columns) : Tasks where
  table := ts.table.mapRows (fun t => t.after guard c) fun t => t.after_id guard c
  taskIDs := by
    show ((ts.rows.map _).map _).Nodup
    rw [List.map_map, List.map_congr_left fun t _ => t.after_taskID guard c]
    exact ts.taskIDs
  keys := by
    show ((ts.rows.map _).filterMap _).Nodup
    rw [List.filterMap_map]
    exact ts.keys.sublist
      (Table.filterMap_sublist (fun t _ h => t.after_activeKey guard c h) ts.rows)

inductive Outcome where
  | succeeded
  | failed

def Outcome.status : Outcome → Status
  | .succeeded => .succeeded
  | .failed => .failed

/-- The updates of tasks: those of `ClaimSystemTask`, `MarkSystemTaskLeaseExpired`,
`UpdateSystemTaskState` and `FinishSystemTask`. -/
inductive TaskUpdate where
  | start (id : Nat) (type runner : String) (now : Int)
  | leaseExpired (taskID : String) (now : Int)
  | state (taskID runner state : String) (now : Int)
  | finish (taskID runner : String) (outcome : Outcome) (result error : String) (now : Int)

def lockHeld (locks : Table SystemTaskLock) (taskID runner : String) (now : Int) : Bool :=
  locks.rows.any fun l => l.taskID = taskID && l.lockedBy = runner && now ≤ l.lockedUntil

def TaskUpdate.guard (locks : Table SystemTaskLock) : TaskUpdate → SystemTask → Bool
  | .start id type _ _, t => t.id = id && t.type = type && t.status = .pending
  | .leaseExpired taskID _, t => t.taskID = taskID && t.status = .running
  | .state taskID runner _ now, t | .finish taskID runner _ _ _ now, t =>
    t.taskID = taskID && t.status = .running && t.lockedBy = runner &&
      lockHeld locks t.taskID runner now

def TaskUpdate.columns : TaskUpdate → Columns
  | .start _ _ runner now =>
    { status := some .running, lockedBy := some runner, updatedAt := now }
  | .leaseExpired _ now =>
    { status := some .failed, clearsKey := true, error := some "task lease expired",
      updatedAt := now }
  | .state _ _ text now => { state := some text, updatedAt := now }
  | .finish _ _ outcome result error now =>
    { status := some outcome.status, clearsKey := true, result := some result,
      error := some error, updatedAt := now }

theorem TaskUpdate.active_of_guard {u : TaskUpdate} {locks : Table SystemTaskLock} {t : SystemTask}
    (h : u.guard locks t = true) : t.status.active = true := by
  cases u <;> simp only [guard, Bool.and_eq_true, decide_eq_true_eq] at h <;> simp [h, Status.active]

/-- The statements on existing locks. No statement writes `task_id` and `type` of a task, so they
are taken from its row. -/
inductive LockStatement where
  | takeOver (id : Nat) (runner : String) (lockUntil now : Int)
  | renew (taskID runner : String) (lockUntil now : Int)
  | release (taskID runner : String)
  | expire (lock : SystemTaskLock) (now : Int)

namespace LockStatement

def guard (tasks : Tasks) : LockStatement → SystemTaskLock → Bool
  | .takeOver id _ _ now, l =>
    (tasks.table.find? id).any fun t => l.type = t.type && l.lockedUntil < now
  | .renew taskID runner _ now, l =>
    l.taskID = taskID && l.lockedBy = runner && now ≤ l.lockedUntil
  | .release taskID runner, l => l.taskID = taskID && l.lockedBy = runner
  | .expire lock now, l =>
    l.type = lock.type && l.taskID = lock.taskID && l.lockedBy = lock.lockedBy &&
      l.lockedUntil < now

def set (tasks : Tasks) : LockStatement → SystemTaskLock → Option SystemTaskLock
  | .takeOver id runner lockUntil now, l => (tasks.table.find? id).map fun t =>
    { l with taskID := t.taskID, lockedBy := runner, lockedUntil := lockUntil, updatedAt := now }
  | .renew _ _ lockUntil now, l => some { l with lockedUntil := lockUntil, updatedAt := now }
  | .release _ _, _ | .expire _ _, _ => none

def after (st : LockStatement) (tasks : Tasks) (l : SystemTaskLock) : Option SystemTaskLock :=
  if st.guard tasks l then st.set tasks l else some l

theorem after_type {st : LockStatement} {tasks : Tasks} {l l' : SystemTaskLock}
    (h : st.after tasks l = some l') : l'.type = l.type := by
  unfold after at h
  split at h
  · cases st with
    | takeOver id runner lockUntil now =>
      obtain ⟨t, -, rfl⟩ := Option.map_eq_some_iff.mp h
      rfl
    | _ =>
      cases h
      try rfl
  · cases h
    rfl

def run (st : LockStatement) (tasks : Tasks) (locks : Table SystemTaskLock) :
    Table SystemTaskLock :=
  locks.filterMapRows (st.after tasks) fun _ _ h => after_type h

end LockStatement

end ZModel.SystemTasks
