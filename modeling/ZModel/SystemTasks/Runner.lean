import ZModel.Lib.Threads
import ZModel.SystemTasks.Tables

/-!
# The runners of the system tasks

Requests, the scheduler, the passes of `StartSystemTaskRunner` and the handlers with their
heartbeats are jobs of their own, in any order.
-/

namespace ZModel.SystemTasks

open Lib

structure Work where
  states : List String := []
  outcome : Outcome := .succeeded
  result : String := ""
  error : String := ""
  heartbeats : Nat := 0

structure World where
  answers : Bool := true
  elapsed : Nat := 0
  work : Work := {}

structure Shared where
  tasks : Tasks := .empty
  locks : Table SystemTaskLock := Table.empty
  clock : Int := 0
  finished : List String := []

inductive Op where
  | timestamp
  | work
  | create (taskID type key payload state : String) (now : Int)
  | earliestPending
  | findPending (id : Nat) (type : String)
  | findTask (id : Nat)
  | createLock (id : Nat) (runner : String) (lockUntil now : Int)
  | findLock (type : String)
  | staleLocks (now : Int)
  | updateTask (u : TaskUpdate)
  | writeLock (st : LockStatement)

abbrev Op.Ret : Op → Type
  | .timestamp => Int
  | .work => Work
  | .create .. => Bool
  | .earliestPending => String → Option SystemTask
  | .findPending _ _ => Option SystemTask
  | .findTask _ => Option SystemTask
  | .createLock .. => Bool
  | .findLock _ => Option SystemTaskLock
  | .staleLocks _ => List SystemTaskLock
  | .updateTask _ => Option Bool
  | .writeLock _ => Option Bool

def Shared.update (s : Shared) (u : TaskUpdate) : Shared :=
  { s with
    tasks := s.tasks.update (u.guard s.locks) u.columns
    finished := match u with
      | .finish taskID .. =>
        if s.tasks.rows.any (u.guard s.locks) then taskID :: s.finished else s.finished
      | _ => s.finished }

def answer : (o : Op) → World → Shared → o.Ret × Shared
  | .timestamp, w, s => (s.clock + w.elapsed, { s with clock := s.clock + w.elapsed })
  | .work, w, s => (w.work, s)
  | .create taskID type key payload state now, _, s =>
    match s.tasks.create taskID type key payload state now with
    | some tasks => (true, { s with tasks })
    | none => (false, s)
  | .earliestPending, _, s =>
    (fun type => s.tasks.rows.find? fun t => t.type = type && t.status = .pending, s)
  | .findPending id type, _, s =>
    ((s.tasks.table.find? id).filter fun t => t.type = type && t.status = .pending, s)
  | .findTask id, _, s => (s.tasks.table.find? id, s)
  | .createLock id runner lockUntil now, _, s =>
    match (s.tasks.table.find? id).bind fun t =>
      s.locks.create ⟨t.type, t.taskID, runner, lockUntil, now⟩ with
    | some locks => (true, { s with locks })
    | none => (false, s)
  | .findLock type, _, s => (s.locks.find? type, s)
  | .staleLocks now, _, s => (s.locks.rows.filter fun l => l.lockedUntil < now, s)
  | .updateTask u, _, s => (some (s.tasks.rows.any (u.guard s.locks)), s.update u)
  | .writeLock st, _, s =>
    (some (s.locks.rows.any (st.guard s.tasks)), { s with locks := st.run s.tasks s.locks })

def Op.error : (o : Op) → Shared → World → o.Ret
  | .timestamp, s, _ => s.clock
  | .work, _, w => w.work
  | .create .., _, _ | .createLock .., _, _ => false
  | .earliestPending, _, _ => fun _ => none
  | .staleLocks _, _, _ => []
  | .findPending _ _, _, _ | .findTask _, _, _ | .findLock _, _, _ | .updateTask _, _, _
  | .writeLock _, _, _ => none

def exec (o : Op) (w : World) (s : Shared) : o.Ret × Shared :=
  if w.answers then answer o w s else (o.error s w, s)

def machine : Machine Op Op.Ret World Shared := ⟨fun _ => exec, fun _ _ _ => true, fun _ s => s⟩

inductive Job where
  | create (taskID type key payload state : String)
  | sweep
  | claimPass (runner : String) (types : List String)
  | handle (task : SystemTask) (runner : String)
  | heartbeat (taskID runner : String) (n : Nat)

abbrev Prog := Program Op Op.Ret Job

abbrev call (o : Op) : Prog o.Ret := Program.call o

def createSystemTask (taskID type key payload state : String) : Prog Bool :=
  if type = "" || key = "" || 64 < key.utf8ByteSize then return false
  else do
    let now ← call .timestamp
    call (.create taskID type key payload state now)

def markSystemTaskLeaseExpired (taskID : String) : Prog (Option Bool) := do
  let now ← call .timestamp
  call (.updateTask (.leaseExpired taskID now))

def expireLocks (now : Int) : List SystemTaskLock → Prog Unit
  | [] => return ()
  | l :: locks => do
    let marked ← markSystemTaskLeaseExpired l.taskID
    if marked = none then return ()
    else
      let deleted ← call (.writeLock (.expire l now))
      if deleted = none then return () else expireLocks now locks

def expireStaleSystemTaskLocks (now : Int) : Prog Unit := do
  let locks ← call (.staleLocks now)
  expireLocks now locks

variable (task : SystemTask)

def acquireSystemTaskLock (runner : String) (now lockUntil : Int) : Prog (Option String) := do
  let created ← call (.createLock task.id runner lockUntil now)
  if created then return some ""
  else
    let existing ← call (.findLock task.type)
    match existing with
    | none => return none
    | some lock =>
      if now ≤ lock.lockedUntil then return none
      else
        let affected ← call (.writeLock (.takeOver task.id runner lockUntil now))
        return if affected = some true then some lock.taskID else none

def failExpired (expired : String) : Prog Bool :=
  if expired ≠ "" && expired ≠ task.taskID then do
    let marked ← markSystemTaskLeaseExpired expired
    return marked.isSome
  else return true

def releaseSystemTaskLock (taskID runner : String) : Prog Unit := do
  let _ ← call (.writeLock (.release taskID runner))
  return ()

def startClaimed (runner expired : String) (now : Int) : Prog (Option SystemTask) := do
  let cleared ← failExpired task expired
  if cleared then
    let started ← call (.updateTask (.start task.id task.type runner now))
    if started = some true then call (.findTask task.id)
    else
      releaseSystemTaskLock task.taskID runner
      return none
  else
    releaseSystemTaskLock task.taskID runner
    return none

def claimSystemTask (id : Nat) (type runner : String) (lockUntil : Int) :
    Prog (Option SystemTask) := do
  let now ← call .timestamp
  let found ← call (.findPending id type)
  match found with
  | none => return none
  | some task =>
    let acquired ← acquireSystemTaskLock task runner now lockUntil
    match acquired with
    | none => return none
    | some expired => startClaimed task runner expired now

def systemTaskLockTTL : Int := 60

def systemTaskLockUntil : Prog Int := do
  let now ← call .timestamp
  return now + systemTaskLockTTL

def claimOne (runner type : String) : Option SystemTask → Prog Unit
  | none => return ()
  | some task => do
    let lockUntil ← systemTaskLockUntil
    let claimed ← claimSystemTask task.id type runner lockUntil
    match claimed with
    | none => return ()
    | some task => Program.start (.handle task runner)

def heartbeat (taskID runner : String) : Nat → Prog Unit
  | 0 => return ()
  | n + 1 => do
    let lockUntil ← systemTaskLockUntil
    let now ← call .timestamp
    let renewed ← call (.writeLock (.renew taskID runner lockUntil now))
    if renewed = some true then heartbeat taskID runner n else return ()

def updateSystemTaskState (taskID runner state : String) : Prog Unit := do
  let now ← call .timestamp
  let _ ← call (.updateTask (.state taskID runner state now))
  return ()

def finishSystemTask (taskID runner : String) (w : Work) : Prog Unit := do
  let now ← call .timestamp
  let finished ← call (.updateTask (.finish taskID runner w.outcome w.result w.error now))
  if finished = some true then releaseSystemTaskLock taskID runner else return ()

def handle (runner : String) : Prog Unit := do
  let w ← call .work
  Program.start (.heartbeat task.taskID runner w.heartbeats)
  Program.forEach (updateSystemTaskState task.taskID runner) w.states
  finishSystemTask task.taskID runner w

def program : Job → Prog Unit
  | .create taskID type key payload state => do
    let _ ← createSystemTask taskID type key payload state
    return ()
  | .sweep => do
    let now ← call .timestamp
    expireStaleSystemTaskLocks now
  | .claimPass runner types => do
    let pending ← call .earliestPending
    Program.forEach (fun type => claimOne runner type (pending type)) types
  | .handle task runner => handle task runner
  | .heartbeat taskID runner n => heartbeat taskID runner n

def step := System.step machine program

def initial : System Op Op.Ret Job Shared := ⟨{}, []⟩

end ZModel.SystemTasks
