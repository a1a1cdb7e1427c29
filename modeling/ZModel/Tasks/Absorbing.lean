import ZModel.Tasks.Statements

/-!
# SUCCESS and FAILURE are final

As long as every writer is conditional on an unfinished status. The realtime fetch, the saves of the
Suno poll and the bulk updates are not.
-/

namespace ZModel.Tasks.Absorbing

open Lib Store

/-- A provider asked again about a finished task says nothing else. -/
def sameStatus (t : Task) : FetchReply → Bool
  | .parsed info _ => info.status = .empty || info.status = t.status
  | _ => true

def allowed : Op → World → Db → Bool
  | .getAllUnFinishSyncTasks, w, db => Distinct (allUnFinishSyncTasks db w.taskQueryLimit)
  | .fetchRealtime t, w, _ => !t.status.finished || sameStatus t (w.fetch t.channelId t)
  | .update t _ _, _, db => (db.status t.id).all fun st => !st.finished || t.status = st
  | .taskBulkUpdateByID ids _, _, db => ids.all fun id => db.status id ≠ some .success
  | _, _, _ => true

def starts : Job → Bool
  | .channel _ _ _ _ => false
  | _ => true

abbrev conditions : Conditions Op Op.Ret Job World Db :=
  pollConditions starts allowed fun _ _ => true

def vocabulary : RowVocabulary where
  Tracked := True
  SunoTracked := False
  Realtime := True
  Rewrites old new := new = old
  Named _ := True
  Good _ := True

def Kept (node : Nat) (o : Op) (w : World) (db : Db) : Prop :=
  ∀ id st, db.status id = some st → st.finished = true → (exec node o w db).2.status id = some st

theorem kept_save {db : Db} {key : Nat} {row t : Task} (hrow : db.tasks.find? key = some row)
    (hkey : t.id = key) (h : row.status.finished = false ∨ t.status = row.status) (node : Nat)
    {id : Nat} {st : TaskStatus} (hst : db.status id = some st) (hdone : st.finished = true) :
    (db.save node row t).status id = some st := by
  rw [Db.status_save hrow hkey]
  split
  next hid =>
    rw [hid, Db.status_of_find? hrow, Option.some.injEq] at hst
    obtain hold | hsame := h
    · rw [hst, hdone] at hold
      cases hold
    · rw [hsame, hst]
  · exact hst

theorem rules (node : Nat) : RowRules vocabulary conditions (fun _ => True) Kept node where
  sunoTracked := .inr fun _ => trivial
  good_timedOut _ _ := trivial
  good_preparationFailed _ _ _ := trivial
  good_activated _ _ _ _ := trivial
  rows _ _ := trivial
  plain w db ho _ id st hst _ := by
    rw [Db.status_eq_row, exec_plain ho, ← Db.status_eq_row, hst]
  read _ _ _ _ := ⟨trivial, trivial⟩
  unfinished hrun hrows := by
    refine ⟨fun _ => ?_, False.elim⟩
    rw [hrows]
    exact of_decide_eq_true hrun
  fetch _ _ := ⟨fun _ _ hst _ => hst, fun _ _ _ _ _ _ _ _ _ => trivial⟩
  fetchRealtime {w _ t} _ hrun _ info data hreply w' := by
    refine ⟨trivial, fun _ => ?_⟩
    have hallowed : t.status.finished = false ∨ info.status = .empty ∨ info.status = t.status := by
      simpa [pollConditions, allowed, hreply, sameStatus] using hrun
    refine hallowed.imp_right fun hsame => ?_
    show (if info.status ≠ .empty then info.status else t.status) = t.status
    split
    next hne =>
      exact hsame.resolve_left hne
    · rfl
  fetchSuno _ := ⟨fun _ _ hst _ => hst, fun _ _ => ⟨False.elim, fun _ _ _ _ => trivial⟩⟩
  transition {w db t old reply} _ _ _ _ hold := by
    refine ⟨fun id st hst hdone => ?_, fun _ _ _ => trivial⟩
    obtain ⟨-, heq⟩ | ⟨row, hrow, hstatus, heq⟩ := exec_updateWithStatus node t old reply w db
    · rw [heq, hst]
    rw [heq]
    refine kept_save (t := { t with updatedAt := w.now }) hrow rfl ?_ node hst hdone
    rw [hstatus]
    exact (hold trivial).imp_right And.right
  bulk {w db} l reason hrun _ _ := by
    refine ⟨fun id st hst hdone => ?_, trivial⟩
    have hallowed : ∀ id ∈ l.map Task.id, db.status id ≠ some .success := by
      simpa [pollConditions, allowed] using hrun
    refine exec_bulk node _ reason w (P := fun db' => db'.status id = some st) hst ?_
    intro db' id' row hmem hst' hrow
    rw [Db.status_save hrow (t := row.bulkFailed w.now reason) (Table.find?_key hrow)]
    split
    · -- A finished row that is named here is stored as FAILURE already.
      rename_i hid
      have hne := hallowed id' hmem
      rw [← hid, hst] at hne
      cases st with
      | failure => rfl
      | success => exact absurd rfl hne
      | _ => cases hdone
    · exact hst'
  save {w db t q item} hrun _ _ _ := by
    refine ⟨fun id st hst hdone => ?_, fun _ _ => trivial⟩
    obtain heq | ⟨row, hrow, heq⟩ := exec_update node t q item w db
    · rw [heq, hst]
    rw [heq]
    refine kept_save (t := { t with updatedAt := w.now }) hrow rfl ?_ node hst hdone
    simpa [pollConditions, allowed, Db.status_of_find? hrow] using hrun

theorem sound : Sound machine conditions (rowLogic vocabulary (fun _ => True) Kept) program :=
  RowRules.sound rules fun _ j hj => by
    cases j with
    | poll => rfl
    | channel => cases hj
    | realtimeFetch => exact ⟨trivial, rfl⟩

theorem step_kept {sys : System Op Op.Ret Job Db} {move : Move Job World}
    (h : Checked machine (rowLogic vocabulary (fun _ => True) Kept) sys move) {id : Nat}
    {st : TaskStatus} (hdone : st.finished = true) (hst : sys.state.status id = some st) :
    (System.step machine program sys move).state.status id = some st := by
  cases move with
  | start => exact hst
  | crash => exact hst
  | run i w =>
    unfold Checked at h
    unfold System.step
    dsimp only at h ⊢
    split
    next node o next hthread =>
      rw [hthread] at h
      exact h rfl id st hst hdone
    · exact hst
    · exact hst

/-- In every run that meets the conditions, in any interleaving and with any crashes: a task that is
stored as SUCCESS or FAILURE is stored with that status ever after. -/
theorem finished_absorbing (db : Db) (moves more : List (Move Job World))
    (hrun : Along (System.step machine program) conditions.Meets ⟨db, []⟩ (moves ++ more)) (id : Nat)
    (st : TaskStatus) (hdone : st.finished = true)
    (hstored : (run (System.step machine program) ⟨db, []⟩ moves).state.status id = some st) :
    (run (System.step machine program) ⟨db, []⟩ (moves ++ more)).state.status id = some st := by
  have hstart : Holds machine conditions (rowLogic vocabulary (fun _ => True) Kept) ⟨db, []⟩ :=
    holds_of_rows trivial
  have hchecked := (along_append _).mp (hstart.along sound hrun).1
  rw [run_append]
  exact run_invariant _ (fun sys => sys.state.status id = some st)
    (fun _ _ hst hcheck => step_kept hcheck hdone hst) hstored hchecked.2

def sampleTask (platform : Platform) (status : TaskStatus) (progress : String) : Task where
  id := 1
  taskID := "task"
  platform := platform
  userId := 1
  channelId := 7
  quota := 0
  status := status
  progress := progress
  submitTime := 2000000000

def sampleDb (t : Task) : Db where
  tasks := ⟨[t], List.nodup_singleton _⟩
  accounts := {}

def working : World where
  now := 2000000000
  fetch _ _ := .parsed { status := .inProgress } ""
  fetchSuno _ ids := some (ids.map fun id => { taskID := id, status := .inProgress })

def succeeded : World := { working with
  fetch := fun _ _ => .parsed { status := .success } ""
  fetchSuno := fun _ ids => some (ids.map fun id => { taskID := id, status := .success }) }

def askAgain : List (Move Job World) :=
  .start 0 (.realtimeFetch 1 "task") :: List.replicate 4 (.run 0 working)

def lateSave : List (Move Job World) :=
  [.start 0 .poll, .start 1 .poll] ++ List.replicate 11 (.run 0 working) ++
    List.replicate 13 (.run 1 succeeded)

/-- A realtime fetch turns a stored SUCCESS into IN_PROGRESS, and so does a late Suno poll. -/
theorem finished_not_absorbing :
    (run (System.step machine program) ⟨sampleDb (sampleTask (.video 24) .success "100%"), []⟩
      askAgain).state.status 1 = some .inProgress ∧
    (let sys := run (System.step machine program)
      ⟨sampleDb (sampleTask .suno .submitted "0%"), []⟩ lateSave
     sys.state.status 1 = some .success ∧
      (run (.step machine program) sys (List.replicate 2 (.run 0 working))).state.status 1 =
        some .inProgress) := by
  decide +kernel

theorem finished_absorbing_sample :
    (run (System.step machine program) ⟨sampleDb (sampleTask (.video 24) .inProgress "0%"), []⟩
      (.start 0 .poll :: List.replicate 8 (.run 0 succeeded) ++ List.replicate 5 (.run 1 succeeded)
        ++ (.start 1 .poll :: List.replicate 8 (.run 2 working) ++
          .start 1 (.realtimeFetch 1 "task") :: List.replicate 4 (.run 3 succeeded)))).state.status 1 =
      some .success :=
  finished_absorbing _ _ _ (by decide +kernel) 1 .success rfl (by decide +kernel)

end ZModel.Tasks.Absorbing
