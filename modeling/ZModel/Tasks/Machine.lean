import Mathlib.Data.List.Sort
import ZModel.Lib.Program
import ZModel.Tasks.Row

/-!
# The store of asynchronous tasks

The statements of the polling service and the realtime fetch on tasks (`model/task.go`) and quota;
every statement meets a `World` of its own. The histories are not in the code.
-/

namespace ZModel.Tasks

open Lib Store

inductive ErrorBody where
  | unparsable
  | rateLimited
  | openaiError
  | unrecognized

structure TaskInfo where
  status : TaskStatus
  url : String := ""
  progress : String := ""
  reason : String := ""
  totalTokens : Int := 0
  errorBody : ErrorBody := .unparsable

inductive FetchReply where
  | requestError (recorded : Bool)
  | unreadable
  | parsed (info : TaskInfo) (data : String)

structure SunoItem where
  taskID : String
  status : TaskStatus := .empty
  failReason : String := ""
  submitTime : Int := 0
  startTime : Int := 0
  finishTime : Int := 0
  data : String := ""

inductive PrepareReply where
  | failed (publicMessage : String)
  | waiting (preparation : Option String)
  | submitted (upstreamTaskID : String) (taskData : String)

/-- The outside at one moment; the ranks give the order in which a map is iterated. -/
structure World where
  now : Int := 0
  write : Write := .done
  tokenFound : Bool := true
  cancelled : Bool := false
  taskTimeoutMinutes : Int := 1440
  taskQueryLimit : Nat := 1000
  platformRank : Platform → Nat := fun _ => 0
  channelRank : Nat → Nat := fun _ => 0
  channelType : Nat → Option Nat := fun _ => some 24
  hasAdaptor : Platform → Bool := fun _ => true
  canPrepare : Platform → Bool := fun _ => true
  prepare : Task → PrepareReply := fun _ => .waiting none
  fetch : Nat → Task → FetchReply := fun _ _ => .unreadable
  fetchSuno : Nat → List String → Option (List SunoItem) := fun _ _ => none
  proxyURL : String → String := id
  tieredQuota : Task → TaskInfo → Option Int := fun _ _ => none
  adjustBillingOnComplete : Task → TaskInfo → Int := fun _ _ => 0
  modelRatio : String → Option ℚ := fun _ => none
  userGroup : Nat → Option String := fun _ => none
  groupRatio : String → ℚ := fun _ => 1
  groupGroupRatio : String → Option ℚ := fun _ => none

/-- For what quota is moved. A Suno refund is made before the task is saved. -/
inductive BillKind where
  | refund
  | sunoRefund
  | settlement
  deriving DecidableEq

structure Bill where
  kind : BillKind
  node : Nat
  task : Task
  delta : Int

structure Failure where
  node : Nat
  task : Task

structure Query where
  channel : Nat
  asked : List Nat
  deriving DecidableEq

structure Db where
  tasks : Table Task
  accounts : Accounts
  bills : List Bill := []
  failures : List Failure := []
  polled : List Task := []
  queries : List Query := []

variable (db : Db)

namespace Db

def status (db : Db) (id : Nat) : Option TaskStatus := (db.tasks.find? id).map Task.status

def save (node : Nat) (row t : Task) : Db :=
  { db with
    tasks := db.tasks.put t
    failures := if t.status = .failure ∧ row.status ≠ .failure then ⟨node, t⟩ :: db.failures
      else db.failures }

def fail (node : Nat) (now : Int) (failReason : Option String) (id : Nat) : Db :=
  match db.tasks.find? id with
  | none => db
  | some row => db.save node row
      { row with
        status := .failure, progress := "100%", failReason := failReason.getD row.failReason
        updatedAt := now }

end Db

def timedOutUnfinishedTasks (cutoff : Int) (limit : Nat) : List Task :=
  ((db.tasks.rows.filter fun t =>
    t.progress ≠ "100%" && !t.status.finished && t.submitTime < cutoff).insertionSort
      fun s t => s.submitTime ≤ t.submitTime).take limit

def preparingVideoTasks (limit : Nat) : List Task :=
  ((db.tasks.rows.filter fun t => t.status = .preparing).insertionSort fun s t =>
    s.updatedAt < t.updatedAt ∨ (s.updatedAt = t.updatedAt ∧ s.id ≤ t.id)).take limit

def allUnFinishSyncTasks (limit : Nat) : List Task :=
  ((db.tasks.rows.filter fun t =>
    t.progress ≠ "100%" && !t.status.finished && t.status ≠ .preparing).insertionSort
      fun s t => s.id ≤ t.id).take limit

def byTaskId (userId : Nat) (taskID : String) : Option Task :=
  if taskID = "" then none
  else db.tasks.rows.find? fun t => t.userId = userId && t.taskID = taskID

inductive Op where
  | observe
  | getTimedOutUnfinishedTasks (cutoff : Int) (limit : Nat)
  | getPreparingVideoTasks (limit : Nat)
  | getAllUnFinishSyncTasks
  | getByTaskId (userId : Nat) (taskID : String)
  | fetchTask (q : Query) (t : Task)
  | fetchRealtime (t : Task)
  | fetchSuno (q : Query) (ids : List String)
  | updateWithStatus (t : Task) (old : TaskStatus) (reply : Option Query)
  | updatePrivateDataWithStatus (t : Task) (old : TaskStatus)
  | updateQuotaAndPrivateData (t : Task) (settles : Bool)
  | update (t : Task) (reply : Query) (item : String)
  | taskBulkUpdateByID (ids : List Nat) (failReason : Option String)
  | taskAdjustFunding (kind : BillKind) (t : Task) (delta : Int)
  | taskAdjustTokenQuota (t : Task) (delta : Int)

abbrev Op.Ret : Op → Type
  | .observe => World
  | .getTimedOutUnfinishedTasks _ _ | .getPreparingVideoTasks _ | .getAllUnFinishSyncTasks =>
    List Task
  | .getByTaskId _ _ => Option Task
  | .fetchTask _ _ | .fetchRealtime _ => FetchReply
  | .fetchSuno _ _ => Option (List SunoItem)
  | .updateWithStatus _ _ _ => Option Bool
  | .taskAdjustFunding _ _ _ => Bool
  | _ => Unit

def exec (node : Nat) : (o : Op) → World → Db → o.Ret × Db
  | .observe, w, db => (w, db)
  | .getTimedOutUnfinishedTasks cutoff limit, w, db =>
    match w.write with
    | .fails => ([], db)
    | .done => (timedOutUnfinishedTasks db cutoff limit, db)
  | .getPreparingVideoTasks limit, w, db =>
    match w.write with
    | .fails => ([], db)
    | .done => (preparingVideoTasks db limit, db)
  | .getAllUnFinishSyncTasks, w, db =>
    match w.write with
    | .fails => ([], db)
    | .done =>
      let rows := allUnFinishSyncTasks db w.taskQueryLimit
      (rows, { db with polled := rows ++ db.polled })
  | .getByTaskId userId taskID, w, db =>
    match w.write with
    | .fails => (none, db)
    | .done => (byTaskId db userId taskID, db)
  | .fetchTask q t, w, db => (w.fetch q.channel t, { db with queries := q :: db.queries })
  | .fetchRealtime t, w, db => (w.fetch t.channelId t, db)
  | .fetchSuno q ids, w, db => (w.fetchSuno q.channel ids, { db with queries := q :: db.queries })
  | .updateWithStatus t old _, w, db =>
    match w.write, db.tasks.find? t.id with
    | .fails, _ => (none, db)
    | .done, none => (some false, db)
    | .done, some row =>
      if row.status = old then (some true, db.save node row { t with updatedAt := w.now })
      else (some false, db)
  | .updatePrivateDataWithStatus t old, w, db =>
    match w.write, db.tasks.find? t.id with
    | .done, some row =>
      ((), if row.status = old then
        { db with
          tasks := db.tasks.put { row with privateData := t.privateData, updatedAt := w.now } }
        else db)
    | _, _ => ((), db)
  | .updateQuotaAndPrivateData t settles, w, db =>
    match w.write, db.tasks.find? t.id with
    | .done, some row =>
      ((), { db with
        tasks := db.tasks.put
          { row with quota := t.quota, privateData := t.privateData, updatedAt := w.now }
        bills := if settles then ⟨.settlement, node, t, 0⟩ :: db.bills else db.bills })
    | _, _ => ((), db)
  | .update t _ _, w, db =>
    match w.write, db.tasks.find? t.id with
    | .done, some row => ((), db.save node row { t with updatedAt := w.now })
    | _, _ => ((), db)
  | .taskBulkUpdateByID ids failReason, w, db =>
    match w.write with
    | .fails => ((), db)
    | .done => ((), ids.foldl (fun db id => db.fail node w.now failReason id) db)
  | .taskAdjustFunding kind t delta, w, db =>
    match taskAdjustFunding w.write db.accounts t delta with
    | .error _ => (false, db)
    | .ok a => (true, { db with accounts := a, bills := ⟨kind, node, t, delta⟩ :: db.bills })
  | .taskAdjustTokenQuota t delta, w, db =>
    ((), { db with accounts := taskAdjustTokenQuota w.tokenFound w.write db.accounts t delta })

def machine : Machine Op Op.Ret World Db := ⟨exec, fun _ _ _ => true, fun _ db => db⟩

end ZModel.Tasks
