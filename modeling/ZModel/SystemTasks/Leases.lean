import ZModel.SystemTasks.Runner

/-!
# Locks of running tasks

A runner writes the row of a task only while it holds the lock of the task's type (`writes_fenced`).
A running task may lose its lock to a claim, to a sweep, or to a claim that failed to start it.
-/

namespace ZModel.SystemTasks

open Lib

/-! ## Invariants of the tables -/

structure Shared.Good (s : Shared) : Prop where
  locked : ∀ l ∈ s.locks.rows, ∃ t ∈ s.tasks.rows, t.taskID = l.taskID ∧ t.type = l.type
  keyed : ∀ t ∈ s.tasks.rows, t.status.active = true → t.activeKey.isSome = true
  finished : ∀ x ∈ s.finished, ∃ t ∈ s.tasks.rows, t.taskID = x ∧ t.status.active = false
  once : s.finished.Nodup

section Steps

variable {s : Shared} {t : SystemTask} {u : TaskUpdate}

theorem mem_update_of_ended (ht : t ∈ s.tasks.rows) (hended : t.status.active = false) :
    t ∈ (s.update u).tasks.rows := by
  refine List.mem_map.mpr ⟨t, ht, if_neg fun hguard => ?_⟩
  rw [TaskUpdate.active_of_guard hguard] at hended
  cases hended

theorem mem_update {t' : SystemTask} (h : t' ∈ (s.update u).tasks.rows) :
    ∃ t ∈ s.tasks.rows, t.after (u.guard s.locks) u.columns = t' :=
  List.mem_map.mp h

theorem keyed_set (h : t.status.active = true → t.activeKey.isSome = true)
    (hguard : u.guard s.locks t = true) :
    (t.set u.columns).status.active = true → (t.set u.columns).activeKey.isSome = true := by
  have hkey := h (TaskUpdate.active_of_guard hguard)
  cases u with
  | start | state => exact fun _ => hkey
  | leaseExpired => nofun
  | finish taskID runner outcome => cases outcome <;> nofun

theorem Shared.Good.update (h : s.Good) (u : TaskUpdate) : (s.update u).Good where
  locked l hl := by
    obtain ⟨t, ht, htask, htype⟩ := h.locked l hl
    refine ⟨_, List.mem_map_of_mem ht, ?_, ?_⟩
    · rw [SystemTask.after_taskID, htask]
    · rw [SystemTask.after_type, htype]
  keyed t' ht' := by
    obtain ⟨t, ht, rfl⟩ := mem_update ht'
    unfold SystemTask.after
    split
    · exact keyed_set (h.keyed t ht) ‹_›
    · exact h.keyed t ht
  finished x hx := by
    have hold : x ∈ s.finished → ∃ t ∈ (s.update u).tasks.rows, t.taskID = x ∧
        t.status.active = false := fun hx =>
      let ⟨t, ht, htask, hended⟩ := h.finished x hx
      ⟨t, mem_update_of_ended ht hended, htask, hended⟩
    cases u with
    | finish taskID runner outcome result error now =>
      change x ∈ (if _ then taskID :: s.finished else s.finished) at hx
      split at hx
      next hany =>
        obtain rfl | hx := List.mem_cons.mp hx
        · obtain ⟨t, ht, hguard⟩ := List.any_eq_true.mp hany
          refine ⟨_, List.mem_map_of_mem ht, ?_, ?_⟩
          · rw [SystemTask.after_taskID]
            simp only [TaskUpdate.guard, Bool.and_eq_true, decide_eq_true_eq] at hguard
            exact hguard.1.1.1
          · rw [SystemTask.after, if_pos hguard]
            cases outcome <;> rfl
        · exact hold hx
      · exact hold hx
    | _ => exact hold hx
  once := by
    cases u with
    | finish taskID runner outcome result error now =>
      show (if _ then taskID :: s.finished else s.finished).Nodup
      split
      next hany =>
        -- a task that was finished is not running, so it is not finished again
        refine List.nodup_cons.mpr ⟨fun hx => ?_, h.once⟩
        obtain ⟨t, ht, hguard⟩ := List.any_eq_true.mp hany
        obtain ⟨t', ht', htask, hended⟩ := h.finished taskID hx
        have hactive := TaskUpdate.active_of_guard hguard
        simp only [TaskUpdate.guard, Bool.and_eq_true, decide_eq_true_eq] at hguard
        rw [Tasks.eq_of_taskID ht' ht (htask.trans hguard.1.1.1.symm), hactive] at hended
        cases hended
      · exact h.once
    | _ => exact h.once

theorem Shared.Good.create (h : s.Good) {tasks : Tasks} {taskID type key payload state : String}
    {now : Int} (hcreate : s.tasks.create taskID type key payload state now = some tasks) :
    { s with tasks }.Good := by
  have hrows := (Tasks.create_rows hcreate).2
  have hmem : ∀ t ∈ s.tasks.rows, t ∈ tasks.rows := fun t ht => by
    rw [hrows]
    exact List.mem_append_left _ ht
  refine ⟨fun l hl => ?_, fun t ht => ?_, fun x hx => ?_, h.once⟩
  · obtain ⟨t, ht, hl⟩ := h.locked l hl
    exact ⟨t, hmem t ht, hl⟩
  · change t ∈ tasks.rows at ht
    rw [hrows] at ht
    obtain ht | ht := List.mem_append.mp ht
    · exact h.keyed t ht
    · rw [List.mem_singleton.mp ht]
      exact fun _ => rfl
  · obtain ⟨t, ht, hx⟩ := h.finished x hx
    exact ⟨t, hmem t ht, hx⟩

theorem Shared.Good.setLocks (h : s.Good) {locks : Table SystemTaskLock}
    (hlocked : ∀ l ∈ locks.rows, ∃ t ∈ s.tasks.rows, t.taskID = l.taskID ∧ t.type = l.type) :
    { s with locks }.Good :=
  ⟨hlocked, h.keyed, h.finished, h.once⟩

theorem Shared.Good.after (h : s.Good) {st : LockStatement} {l l' : SystemTaskLock}
    (hl : l ∈ s.locks.rows) (hafter : st.after s.tasks l = some l') :
    ∃ t ∈ s.tasks.rows, t.taskID = l'.taskID ∧ t.type = l'.type := by
  have hold := h.locked l hl
  unfold LockStatement.after at hafter
  split at hafter
  next hguard =>
    cases st with
    | takeOver id runner lockUntil now =>
      obtain ⟨t, ht, rfl⟩ := Option.map_eq_some_iff.mp hafter
      simp only [LockStatement.guard, ht, Option.any_some, Bool.and_eq_true,
        decide_eq_true_eq] at hguard
      exact ⟨t, Table.find?_mem ht, rfl, hguard.1.symm⟩
    | renew => cases hafter; exact hold
    | release | expire => cases hafter
  · cases hafter
    exact hold

theorem exec_good (o : Op) (w : World) (h : s.Good) : (exec o w s).2.Good := by
  unfold exec
  split
  · cases o with
    | timestamp => exact ⟨h.locked, h.keyed, h.finished, h.once⟩
    | create taskID type key payload state now =>
      unfold answer
      dsimp only
      split
      · exact h.create ‹_›
      · exact h
    | createLock id runner lockUntil now =>
      unfold answer
      dsimp only
      split
      next locks hlocks =>
        obtain ⟨t, ht, hcreate⟩ := Option.bind_eq_some_iff.mp hlocks
        refine h.setLocks fun l hl => ?_
        obtain hl | rfl := (Table.mem_create hcreate).mp hl
        · exact h.locked l hl
        · exact ⟨t, Table.find?_mem ht, rfl, rfl⟩
      · exact h
    | updateTask u => exact h.update u
    | writeLock st =>
      refine h.setLocks fun l' hl' => ?_
      obtain ⟨l, hl, hafter⟩ := List.mem_filterMap.mp hl'
      exact h.after hl hafter
    | _ => exact h
  · exact h

theorem exec_ended (o : Op) (w : World) (ht : t ∈ s.tasks.rows)
    (hended : t.status.active = false) : t ∈ (exec o w s).2.tasks.rows := by
  unfold exec
  split
  · cases o with
    | create taskID type key payload state now =>
      unfold answer
      dsimp only
      split
      next tasks hcreate =>
        rw [(Tasks.create_rows hcreate).2]
        exact List.mem_append_left _ ht
      · exact ht
    | createLock =>
      unfold answer
      dsimp only
      split <;> exact ht
    | updateTask u => exact mem_update_of_ended ht hended
    | _ => exact ht
  · exact ht

end Steps

/-- The runner holds the lock of the type of this running task, for this task. -/
def Holds (taskID runner : String) (now : Int) (s : Shared) : Prop :=
  ∃ t ∈ s.tasks.rows, ∃ l ∈ s.locks.rows, t.taskID = taskID ∧ t.status = .running ∧
    t.lockedBy = runner ∧ l.type = t.type ∧ l.taskID = taskID ∧ l.lockedBy = runner ∧
      now ≤ l.lockedUntil

def TaskUpdate.issuer : TaskUpdate → Option (String × String × Int)
  | .state taskID runner _ now | .finish taskID runner _ _ _ now => some (taskID, runner, now)
  | .start .. | .leaseExpired .. => none

/-- A state update or a finish that takes effect is issued by the holder of the lock. -/
def Fenced : Op → World → Shared → Prop
  | .updateTask u, w, s => ∀ taskID runner now, u.issuer = some (taskID, runner, now) →
    (exec (.updateTask u) w s).1 = some true → Holds taskID runner now s
  | _, _, _ => True

theorem Shared.Good.fenced {s : Shared} (h : s.Good) (o : Op) (w : World) : Fenced o w s := by
  cases o with
  | updateTask u =>
    intro taskID runner now hissuer htrue
    have hany : s.tasks.rows.any (u.guard s.locks) = true := by
      unfold exec at htrue
      split at htrue
      · exact Option.some.inj htrue
      · cases htrue
    obtain ⟨t, ht, hguard⟩ := List.any_eq_true.mp hany
    have hmatch : ((t.taskID = taskID ∧ t.status = .running) ∧ t.lockedBy = runner) ∧
        lockHeld s.locks t.taskID runner now = true := by
      cases u with
      | state | finish =>
        cases hissuer
        simpa only [TaskUpdate.guard, Bool.and_eq_true, decide_eq_true_eq] using hguard
      | start | leaseExpired => cases hissuer
    obtain ⟨⟨⟨rfl, hrunning⟩, hby⟩, hheld⟩ := hmatch
    obtain ⟨l, hl, hheld⟩ := List.any_eq_true.mp hheld
    simp only [Bool.and_eq_true, decide_eq_true_eq] at hheld
    obtain ⟨⟨htask, hlockedBy⟩, huntil⟩ := hheld
    obtain ⟨t', ht', htask', htype⟩ := h.locked l hl
    obtain rfl := Tasks.eq_of_taskID ht' ht (htask'.trans htask)
    exact ⟨t', ht', l, hl, rfl, hrunning, hby, htype.symm, htask, hlockedBy, huntil⟩
  | _ => trivial

theorem step_good {sys : System Op Op.Ret Job Shared} (h : sys.state.Good) (move : Move Job World) :
    (step sys move).state.Good :=
  System.step_keeps (I := Shared.Good) (M := machine) (fun _ _ _ => rfl) (fun _ _ => rfl) h
    fun _ o w _ => exec_good o w h

theorem initial_good : initial.state.Good :=
  ⟨fun _ h => (List.not_mem_nil h).elim, fun _ h => (List.not_mem_nil h).elim,
    fun _ h => (List.not_mem_nil h).elim, List.nodup_nil⟩

theorem run_good (moves : List (Move Job World)) : (run step initial moves).state.Good :=
  run_invariant (C := fun _ _ => True) step (fun sys => sys.state.Good)
    (fun _ move h _ => step_good h move) initial_good (.of_forall step (fun _ _ => trivial) _ _)

/-- State updates and finishes that take effect are issued by the runner holding the type's lock for
the task, no task is finished twice, an ended task stays as it is, and no two active tasks share a
key. -/
theorem writes_fenced (moves : List (Move Job World)) :
    Along step (fun sys move => ∀ o w, sys.performed move = some (o, w) → Fenced o w sys.state)
        initial moves ∧
      (run step initial moves).state.finished.Nodup ∧
      (∀ before after, moves = before ++ after → ∀ t ∈ (run step initial before).state.tasks.rows,
        t.status.active = false → t ∈ (run step initial moves).state.tasks.rows) ∧
      ∀ t₁ ∈ (run step initial moves).state.tasks.rows,
        ∀ t₂ ∈ (run step initial moves).state.tasks.rows, t₁.status.active = true →
          t₂.status.active = true → t₁.activeKey = t₂.activeKey → t₁ = t₂ := by
  have hall := fun sys => Along.of_forall (C := fun _ _ => True) step (fun _ _ => trivial) sys
  refine ⟨?_, (run_good moves).once, ?_, ?_⟩
  · refine Along.of_invariant step (fun sys => sys.state.Good) (fun sys move h _ => ?_)
      initial_good (hall initial moves)
    exact ⟨fun o w _ => h.fenced o w, step_good h move⟩
  · rintro before after rfl t ht hended
    rw [run_append]
    let Kept (s : Shared) : Prop := t ∈ s.tasks.rows
    refine run_invariant step (fun sys => Kept sys.state) (fun sys move h _ => ?_) ht (hall _ after)
    exact System.step_keeps (I := Kept) (M := machine) (fun _ _ _ => rfl) (fun _ _ => rfl) h
      fun _ o w _ => exec_ended o w h hended
  · intro t₁ h₁ t₂ h₂ hactive _ hkey
    exact Tasks.eq_of_activeKey h₁ h₂ hkey ((run_good moves).keyed t₁ h₁ hactive)

/-! ## Running tasks and their locks -/

variable (s : Shared)

def RunningLocked : Prop :=
  ∀ t ∈ s.tasks.rows, t.status = .running → ∃ l ∈ s.locks.rows, l.taskID = t.taskID

instance (s : Shared) : Decidable (RunningLocked s) :=
  inferInstanceAs (Decidable (∀ t ∈ s.tasks.rows, _))

def Runs (taskID : String) (s : Shared) : Prop :=
  ∃ t ∈ s.tasks.rows, t.taskID = taskID ∧ t.status = .running

/-- A claim starts a task whose lock is still there, and a statement that takes a lock from its task
finds the task not running. -/
def KeepsLocks : Op → World → Shared → Prop
  | .updateTask (.start id type _ _), w, s => w.answers = true → ∀ t ∈ s.tasks.rows,
    t.id = id → t.type = type → t.status = .pending → ∃ l ∈ s.locks.rows, l.taskID = t.taskID
  | .writeLock st, w, s => w.answers = true → ∀ l ∈ s.locks.rows, st.guard s.tasks l = true →
    (st.set s.tasks l).map SystemTaskLock.taskID = some l.taskID ∨ ¬Runs l.taskID s
  | _, _, _ => True

section Locks

variable {s : Shared} {u : TaskUpdate}

theorem running_of_after {t : SystemTask} (hu : u.columns.status ≠ some .running)
    (h : (t.after (u.guard s.locks) u.columns).status = .running) : t.status = .running := by
  unfold SystemTask.after at h
  split at h
  · change u.columns.status.getD t.status = .running at h
    cases hstatus : u.columns.status with
    | none => rwa [hstatus] at h
    | some status =>
      rw [hstatus] at h hu
      exact absurd (congrArg some h) hu
  · exact h

theorem runningLocked_update (h : RunningLocked s) (hu : u.columns.status ≠ some .running) :
    RunningLocked (s.update u) := by
  intro t' ht' hrunning
  obtain ⟨t, ht, rfl⟩ := mem_update ht'
  rw [SystemTask.after_taskID]
  exact h t ht (running_of_after hu hrunning)

theorem runningLocked_start (h : RunningLocked s) (id : Nat) (type runner : String) (now : Int) :
    RunningLocked (s.update (.start id type runner now)) ↔ ∀ t ∈ s.tasks.rows, t.id = id →
      t.type = type → t.status = .pending → ∃ l ∈ s.locks.rows, l.taskID = t.taskID := by
  constructor
  · intro h' t ht hid htype hpending
    have hguard : (TaskUpdate.start id type runner now).guard s.locks t = true := by
      simp [TaskUpdate.guard, hid, htype, hpending]
    have hlocked := h' _ (List.mem_map_of_mem ht)
    rw [SystemTask.after, if_pos hguard] at hlocked
    exact hlocked rfl
  intro hstart t' ht' hrunning
  obtain ⟨t, ht, rfl⟩ := mem_update ht'
  rw [SystemTask.after_taskID]
  by_cases hguard : (TaskUpdate.start id type runner now).guard s.locks t = true
  · simp only [TaskUpdate.guard, Bool.and_eq_true, decide_eq_true_eq] at hguard
    exact hstart t ht hguard.1.1 hguard.1.2 hguard.2
  · rw [SystemTask.after, if_neg hguard] at hrunning
    exact h t ht hrunning

theorem runningLocked_writeLock (hgood : s.Good) (h : RunningLocked s) (st : LockStatement) :
    RunningLocked { s with locks := st.run s.tasks s.locks } ↔
      ∀ l ∈ s.locks.rows, st.guard s.tasks l = true →
        (st.set s.tasks l).map SystemTaskLock.taskID = some l.taskID ∨ ¬Runs l.taskID s := by
  constructor
  · intro h' l hl hguard
    refine or_iff_not_imp_right.mpr fun hruns => ?_
    obtain ⟨t, ht, htask, hrunning⟩ := not_not.mp hruns
    obtain ⟨l', hl', hname⟩ := h' t ht hrunning
    obtain ⟨l₀, hl₀, hafter⟩ := List.mem_filterMap.mp hl'
    -- both locks are of the type of the task
    obtain ⟨t₁, ht₁, htask₁, htype₁⟩ := hgood.locked l hl
    obtain ⟨t₂, ht₂, htask₂, htype₂⟩ := hgood.after hl₀ hafter
    rw [Tasks.eq_of_taskID ht₁ ht (htask₁.trans htask.symm)] at htype₁
    rw [Tasks.eq_of_taskID ht₂ ht (htask₂.trans hname)] at htype₂
    have htypes : l₀.type = l.type :=
      (LockStatement.after_type hafter).symm.trans (htype₂.symm.trans htype₁)
    obtain rfl := Table.eq_of_key_eq hl₀ hl htypes
    rw [LockStatement.after, if_pos hguard] at hafter
    rw [hafter, Option.map_some, hname, htask]
  intro hkeeps t ht hrunning
  obtain ⟨l, hl, hname⟩ := h t ht hrunning
  by_cases hguard : st.guard s.tasks l = true
  · have hset := (hkeeps l hl hguard).resolve_right fun hruns =>
      hruns ⟨t, ht, hname.symm, hrunning⟩
    obtain ⟨l', hl', hname'⟩ := Option.map_eq_some_iff.mp hset
    refine ⟨l', List.mem_filterMap.mpr ⟨l, hl, ?_⟩, hname'.trans hname⟩
    rw [LockStatement.after, if_pos hguard, hl']
  · exact ⟨l, List.mem_filterMap.mpr ⟨l, hl, if_neg hguard⟩, hname⟩

theorem exec_runningLocked (o : Op) (w : World) (hgood : s.Good) (h : RunningLocked s) :
    RunningLocked (exec o w s).2 ↔ KeepsLocks o w s := by
  unfold exec
  cases hw : w.answers with
  | false =>
    refine iff_of_true h ?_
    unfold KeepsLocks
    split <;> simp [hw]
  | true =>
    rw [if_pos rfl]
    cases o with
    | updateTask u =>
      cases u with
      | start id type runner now =>
        simp only [KeepsLocks, hw, true_imp_iff]
        exact runningLocked_start h id type runner now
      | finish taskID runner outcome =>
        exact iff_of_true (runningLocked_update h (by cases outcome <;> nofun)) trivial
      | leaseExpired | state => exact iff_of_true (runningLocked_update h (by nofun)) trivial
    | writeLock st =>
      simp only [KeepsLocks, hw, true_imp_iff]
      exact runningLocked_writeLock hgood h st
    | create taskID type key payload state now =>
      refine iff_of_true ?_ trivial
      unfold answer
      dsimp only
      split
      next tasks hcreate =>
        intro t ht hrunning
        rw [(Tasks.create_rows hcreate).2] at ht
        obtain ht | ht := List.mem_append.mp ht
        · exact h t ht hrunning
        · rw [List.mem_singleton.mp ht] at hrunning
          cases hrunning
      · exact h
    | createLock id runner lockUntil now =>
      refine iff_of_true ?_ trivial
      unfold answer
      dsimp only
      split
      next locks hlocks =>
        obtain ⟨_, -, hcreate⟩ := Option.bind_eq_some_iff.mp hlocks
        intro t ht hrunning
        obtain ⟨l, hl, hname⟩ := h t ht hrunning
        exact ⟨l, (Table.mem_create hcreate).mpr (.inl hl), hname⟩
      · exact h
    | _ => exact iff_of_true h trivial

end Locks

theorem expireLocks_ends (node : Nat) (now : Int) (locks : List SystemTaskLock) {s : Shared}
    {t : SystemTask} (ht : t ∈ s.tasks.rows)
    (h : t.status = .running ∧ (∃ l ∈ locks, l.taskID = t.taskID) ∨
      t.status = .failed ∧ t.activeKey = none) :
    ∃ t' ∈ ((expireLocks now locks).eval machine node {} s).2.tasks.rows,
      t'.id = t.id ∧ t'.status = .failed ∧ t'.activeKey = none := by
  induction locks generalizing s t with
  | nil =>
    obtain ⟨-, l, hl, -⟩ | h := h
    · cases hl
    · exact ⟨t, ht, rfl, h⟩
  | cons l locks ih =>
    -- the task of the first lock is failed, then the lock is deleted
    obtain ⟨u, s', heval, hu, htasks⟩ : ∃ u s',
        (expireLocks now (l :: locks)).eval machine node {} s =
          (expireLocks now locks).eval machine node {} s' ∧
        u = .leaseExpired l.taskID (s.clock + 0) ∧ s'.tasks = (s.update u).tasks :=
      ⟨_, _, rfl, rfl, rfl⟩
    rw [heval]
    have hmem : t.after (u.guard s.locks) u.columns ∈ s'.tasks.rows := by
      rw [htasks]
      exact List.mem_map_of_mem ht
    have hguard : u.guard s.locks t = (decide (t.taskID = l.taskID) && t.status = .running) := by
      rw [hu]
      rfl
    rw [← t.after_id (u.guard s.locks) u.columns]
    refine ih hmem ?_
    unfold SystemTask.after
    obtain ⟨hrunning, l', hl', hname⟩ | h := h
    · obtain rfl | hl' := List.mem_cons.mp hl'
      · rw [if_pos (by simp [hguard, hname, hrunning]), hu]
        exact .inr ⟨rfl, rfl⟩
      · split
        · rw [hu]
          exact .inr ⟨rfl, rfl⟩
        · exact .inl ⟨hrunning, l', hl', hname⟩
    · rw [if_neg (by simp [hguard, h.1])]
      exact .inr h

/-- In every run, all running tasks have their locks in all states if and only if every statement
meets `KeepsLocks`; and a sweep fails every running task whose lock has expired and frees its key. -/
theorem running_locked_iff (moves : List (Move Job World)) :
    ((∀ before, before <+: moves → RunningLocked (run step initial before).state) ↔
      Along step (Conditions.operations KeepsLocks).Meets initial moves) ∧
    ∀ (s : Shared) (node : Nat) (now : Int), ∀ t ∈ s.tasks.rows, t.status = .running →
      (∃ l ∈ s.locks.rows, l.taskID = t.taskID ∧ l.lockedUntil < now) →
      ∃ t' ∈ ((expireStaleSystemTaskLocks now).eval machine node {} s).2.tasks.rows,
        t'.id = t.id ∧ t'.status = .failed ∧ t'.activeKey = none := by
  constructor
  · let Inv (s : Shared) : Prop := s.Good ∧ RunningLocked s
    have hexec : ∀ (node : Nat) o w s, Inv s → (Inv (exec o w s).2 ↔ KeepsLocks o w s) := by
      rintro - o w s ⟨hgood, hlocked⟩
      rw [← exec_runningLocked o w hgood hlocked]
      exact and_iff_right (exec_good o w hgood)
    have hinitial : Inv initial.state := ⟨initial_good, fun _ h => (List.not_mem_nil h).elim⟩
    refine Iff.trans (forall₂_congr fun before _ => (and_iff_right (run_good before)).symm) ?_
    exact System.invariant_iff (M := machine) Inv hexec (fun _ _ _ => rfl) (fun _ _ => rfl) hinitial
      moves
  rintro s node now t ht hrunning ⟨l, hl, hname, huntil⟩
  have hstale : l ∈ s.locks.rows.filter fun l => l.lockedUntil < now :=
    List.mem_filter.mpr ⟨hl, decide_eq_true huntil⟩
  exact expireLocks_ends node now _ ht (.inl ⟨hrunning, l, hstale, hname⟩)

/-- Two tasks of one type are pending. The first is claimed, and its runner is lost. Another runner
takes its expired lock over for the second task, and is lost before it marks the first. Later the
lock is swept. -/
def takenOver : List (Move Job World) :=
  let retry key taskID := Job.create taskID "retry" key "" ""
  let runs i n : List (Move Job World) := List.replicate n (.run i {})
  [.start 0 (retry "a" "ta"), .start 0 (retry "b" "tb")] ++ runs 0 2 ++ runs 1 2 ++
    [.start 1 (.claimPass "r1" ["retry"])] ++ runs 2 8 ++
    [.crash 1, .start 2 (.claimPass "r2" ["retry"]), .run 2 {}, .run 2 { elapsed := 61 }] ++
    runs 2 5 ++ [.crash 2, .start 3 .sweep, .run 2 { elapsed := 61 }] ++ runs 2 4

/-- The first task keeps running, with its key and without a lock. -/
theorem running_task_unlocked :
    let s := (run step initial takenOver).state
    ¬RunningLocked s ∧ s.locks.rows = [] ∧ (s.tasks.rows.map fun t =>
      (t.taskID, t.status, t.activeKey)) =
        [("ta", .running, some "a"), ("tb", .pending, some "b")] := by
  decide +kernel

/-! ## The follow-up of an image run -/

def systemTaskTypeAsyncImageProcess : String := "async_image_process"

def getActiveSystemTask (ts : Tasks) (type : String) : Option SystemTask :=
  (ts.rows.filter fun t => t.type = type && t.status.active).getLast?

/-- The active task of the type is returned if there is one, otherwise a task is created. -/
def enqueueSystemTask (taskID type : String) : Shared :=
  if (getActiveSystemTask s.tasks type).isSome || type = "" || 64 < type.utf8ByteSize then s
  else (answer (.create taskID type type "" "" s.clock) {} s).2

/-- `FinishSystemTask`, and whether it has finished the task. -/
def finishRun (taskID runner result : String) : Bool × Shared :=
  let u := .finish taskID runner .succeeded result "" s.clock
  if s.tasks.rows.any (u.guard s.locks) then
    let s := s.update u
    (true, { s with locks := (LockStatement.release taskID runner).run s.tasks s.locks })
  else (false, s)

def ImagePending : Prop :=
  ∃ t ∈ s.tasks.rows, t.type = systemTaskTypeAsyncImageProcess ∧ t.status = .pending

/-- Image tasks are created under their type as the active key, as `CreateSystemTask` does. -/
def ImageKeyed : Op → World → Shared → Prop
  | .create _ type key .., _, _ => type = systemTaskTypeAsyncImageProcess → key = type
  | _, _, _ => True

instance (w : World) (s : Shared) : ∀ o, Decidable (ImageKeyed o w s)
  | .create .. => inferInstanceAs (Decidable (_ → _))
  | .timestamp | .work | .earliestPending | .findPending .. | .findTask _ | .createLock ..
  | .findLock _ | .staleLocks _ | .updateTask _ | .writeLock _ => isTrue trivial

def ImageKeys : Prop := ∀ t ∈ s.tasks.rows, t.type = systemTaskTypeAsyncImageProcess →
  t.activeKey = none ∨ t.activeKey = some t.type

section FollowUp

variable {s : Shared}

theorem ImageKeys.exec (h : ImageKeys s) {o : Op} {w : World} (ho : ImageKeyed o w s) :
    ImageKeys (exec o w s).2 := by
  unfold SystemTasks.exec
  split
  · cases o with
    | create taskID type key payload state now =>
      unfold answer
      dsimp only
      split
      next tasks hcreate =>
        intro t ht
        rw [(Tasks.create_rows hcreate).2] at ht
        obtain ht | ht := List.mem_append.mp ht
        · exact h t ht
        · rw [List.mem_singleton.mp ht]
          exact fun htype => .inr (congrArg some (ho htype))
      · exact h
    | createLock =>
      unfold answer
      dsimp only
      split <;> exact h
    | updateTask u =>
      intro t' ht' htype
      obtain ⟨t, ht, rfl⟩ := mem_update ht'
      rw [SystemTask.after_type] at htype ⊢
      unfold SystemTask.after
      split
      · -- the key is cleared or kept
        change (if _ then none else t.activeKey) = none ∨ (if _ then none else t.activeKey) = _
        split
        · exact .inl rfl
        · exact h t ht htype
      · exact h t ht htype
    | _ => exact h
  · exact h

theorem run_imageKeys {moves : List (Move Job World)}
    (hkeys : Along step (Conditions.operations ImageKeyed).Meets initial moves) :
    ImageKeys (run step initial moves).state := by
  have hinitial : ImageKeys initial.state := fun _ h => (List.not_mem_nil h).elim
  exact System.run_keeps (I := ImageKeys) (fun _ _ _ => rfl) (fun _ _ => rfl)
    (fun _ _ _ _ h => h.exec) hinitial hkeys

theorem enqueueSystemTask_active {t : SystemTask} (ht : t ∈ s.tasks.rows)
    (hactive : t.status.active = true) (newID : String) : enqueueSystemTask s newID t.type = s := by
  have hmem : t ∈ s.tasks.rows.filter fun t' => t'.type = t.type && t'.status.active :=
    List.mem_filter.mpr ⟨ht, by simp [hactive]⟩
  unfold enqueueSystemTask getActiveSystemTask
  rw [List.getLast?_eq_some_getLast (List.ne_nil_of_mem hmem)]
  rfl

/-- A running image task is the only active one. -/
theorem not_imagePending (hgood : s.Good) (hkeys : ImageKeys s) {t : SystemTask}
    (ht : t ∈ s.tasks.rows) (htype : t.type = systemTaskTypeAsyncImageProcess)
    (hrunning : t.status = .running) : ¬ImagePending s := by
  have hkey : ∀ t' ∈ s.tasks.rows, t'.type = systemTaskTypeAsyncImageProcess →
      t'.status.active = true → t'.activeKey = some systemTaskTypeAsyncImageProcess := by
    intro t' ht' htype' hactive
    obtain hnone | hsome := hkeys t' ht' htype'
    · have hsome := hgood.keyed t' ht' hactive
      rw [hnone] at hsome
      cases hsome
    · rw [hsome, htype']
  rintro ⟨t', ht', htype', hpending⟩
  have hkey₁ := hkey t ht htype (by rw [hrunning]; rfl)
  have hkey₂ := hkey t' ht' htype' (by rw [hpending]; rfl)
  obtain rfl := Tasks.eq_of_activeKey ht ht' (hkey₁.trans hkey₂.symm) (by rw [hkey₁]; rfl)
  rw [hrunning] at hpending
  cases hpending

theorem imagePending_of_finishRun {taskID runner result : String}
    (h : ImagePending (finishRun s taskID runner result).2) : ImagePending s := by
  unfold finishRun at h
  dsimp only at h
  split at h
  · obtain ⟨t', ht', htype, hpending⟩ := h
    obtain ⟨t, ht, rfl⟩ := mem_update ht'
    rw [SystemTask.after_type] at htype
    unfold SystemTask.after at hpending
    split at hpending
    · cases hpending
    · exact ⟨t, ht, htype, hpending⟩
  · exact h

end FollowUp

/-- Whenever the run of an image task enqueues a follow-up, nothing is created, as the task itself
is found; and whenever the run is then finished, no image task is pending. -/
theorem follow_up_never_pending {moves : List (Move Job World)}
    (hkeys : Along step (Conditions.operations ImageKeyed).Meets initial moves)
    {t : SystemTask} (ht : t ∈ (run step initial moves).state.tasks.rows)
    (htype : t.type = systemTaskTypeAsyncImageProcess) (hrunning : t.status = .running)
    (newID runner result : String) :
    let s := (run step initial moves).state
    enqueueSystemTask s newID systemTaskTypeAsyncImageProcess = s ∧
      ¬ImagePending (finishRun s t.taskID runner result).2 := by
  refine ⟨htype ▸ enqueueSystemTask_active ht (by rw [hrunning]; rfl) newID, fun hpending => ?_⟩
  exact not_imagePending (run_good moves) (run_imageKeys hkeys) ht htype hrunning
    (imagePending_of_finishRun hpending)

/-- An image task is created and claimed. -/
def claimed : List (Move Job World) :=
  let image := systemTaskTypeAsyncImageProcess
  [.start 0 (.create "run" image image "" ""), .start 1 (.claimPass "r" [image])] ++
    List.replicate 2 (.run 0 {}) ++ List.replicate 8 (.run 1 {})

theorem follow_up_never_pending_claimed :
    let s := (run step initial claimed).state
    (finishRun s "run" "r" "").1 = true ∧ ¬ImagePending (finishRun s "run" "r" "").2 := by
  obtain ⟨t, ht, hid, htype, hrunning⟩ : ∃ t ∈ (run step initial claimed).state.tasks.rows,
      t.taskID = "run" ∧ t.type = systemTaskTypeAsyncImageProcess ∧ t.status = .running := by
    decide +kernel
  refine ⟨by decide +kernel, ?_⟩
  rw [← hid]
  exact (follow_up_never_pending (by decide +kernel) ht htype hrunning "next" "r" "").2

/-- The run enqueues a follow-up and is finished: its own task is the only one, and succeeded. -/
theorem follow_up_missing :
    let s := enqueueSystemTask (run step initial claimed).state "next"
      systemTaskTypeAsyncImageProcess
    (finishRun s "run" "r" "").2.tasks.rows.map (fun t => (t.taskID, t.status)) =
      [("run", .succeeded)] := by
  decide +kernel

end ZModel.SystemTasks
