import Mathlib.Algebra.Order.Group.Multiset
import ZModel.Video.Staging

/-!
# Stored videos that the rows record

The cleaner finds a stored object only by a row with its location. Between the put and the mark the
object is owed by the thread that marks the row.
-/

namespace ZModel.Video

open Lib Store
open AsyncImage (ObjectStatus StagingStatus)

def VideoObject.ForCleanup (o : VideoObject) : Prop :=
  o.status = .deletePending ∨ o.status = .available ∧ 0 < o.expiresAt

instance (o : VideoObject) : Decidable o.ForCleanup := inferInstanceAs (Decidable (_ ∨ _))

/-- Every stored object has a row for cleanup, or its task owes the mark. -/
def Recorded (s : Shared) (owed : Multiset String) : Prop :=
  ∀ loc, s.stored loc ≠ none → ∃ taskID o, s.objects.find? taskID = some o ∧ o.location = loc ∧
      (o.ForCleanup ∨ taskID ∈ owed)

/-- The statement takes the row from the cleaner, or changes its location. -/
def Statement.Loses (st : Statement) (now : Int) (o : VideoObject) : Prop :=
  o.ForCleanup ∧ ¬(st.after now o).ForCleanup ∨ (st.after now o).location ≠ o.location

instance (st : Statement) (now : Int) (o : VideoObject) : Decidable (st.Loses now o) :=
  inferInstanceAs (Decidable (_ ∨ _))

def Op.stores : Op → Bool
  | .putObject _ _ _ => true
  | _ => false

def Op.publishes : Op → Bool
  | .update _ (.available _ _ _) => true
  | _ => false

/-- A put is confirmed or not executed and stores under the location of its row, a row is marked
available if that is attempted, and no other statement loses the location of a stored object. -/
def keepsRecorded : Op → World → Shared → Prop
  | .putObject taskID loc _, w, s =>
    w.remote ≠ .unconfirmed ∧
      (w.remote = .done → 0 ≤ w.now ∧ ∃ o ∈ s.objects.find? taskID, o.location = loc)
  | .update taskID (.available x lease expiresAt), w, s =>
    w.write = .done ∧ ∃ o ∈ s.objects.find? taskID,
      (markVideoStorageArchiveAvailable x lease expiresAt).guard o = true
  | .update taskID st, w, s =>
    w.write = .done → ∀ o ∈ s.objects.find? taskID, st.Loses w.now o → s.stored o.location = none
  | _, _, _ => True

instance (o : Op) (w : World) (s : Shared) : Decidable (keepsRecorded o w s) := by
  unfold keepsRecorded
  split <;> infer_instance

def publishing (t : Thread Op Op.Ret Job) : Bool :=
  match t.program with
  | .perform o _ => o.publishes
  | _ => false

/-- The steps are those of `keepsRecorded`, and no node crashes before a mark. -/
def recordedConditions : Conditions Op Op.Ret Job World Shared where
  start _ _ := True
  run _ o w s := keepsRecorded o w s
  crash node sys := ∀ t ∈ sys.threads, t.node = node → publishing t = false

instance (node : Nat) (j : Job) : Decidable (recordedConditions.start node j) := isTrue trivial

instance (node : Nat) (o : Op) (w : World) (s : Shared) :
    Decidable (recordedConditions.run node o w s) :=
  inferInstanceAs (Decidable (keepsRecorded o w s))

instance (node : Nat) (sys : System Op Op.Ret Job Shared) :
    Decidable (recordedConditions.crash node sys) :=
  inferInstanceAs (Decidable (∀ t ∈ sys.threads, _))

section Steps

variable {s : Shared} {w : World} {r : Multiset String}

theorem available_not_loses (x : OperationID) (lease expiresAt now : Int) (o : VideoObject) :
    ¬(Statement.available x lease expiresAt).Loses now o := by
  rintro (⟨hbefore, hafter⟩ | hloc)
  · cases hguard : (markVideoStorageArchiveAvailable x lease expiresAt).guard o with
    | false =>
      rw [after_of_not_guard (.available x lease expiresAt) now o hguard] at hafter
      exact hafter hbefore
    | true =>
      simp only [markVideoStorageArchiveAvailable, Bool.and_eq_true, decide_eq_true_eq] at hguard
      unfold VideoObject.ForCleanup at hbefore
      rw [hguard.1.1] at hbefore
      simp at hbefore
  · apply hloc
    unfold Statement.after ObjectUpdate.row
    split <;> rfl

variable {taskID : String}

theorem not_stored_of_loses {st : Statement} {o : VideoObject}
    (h : keepsRecorded (.update taskID st) w s) (hw : w.write = .done)
    (ho : s.objects.find? taskID = some o) (hloses : st.Loses w.now o) :
    s.stored o.location = none := by
  cases st with
  | available x lease expiresAt =>
    exact absurd hloses (available_not_loses x lease expiresAt w.now o)
  | _ => exact h hw o ho hloses

theorem Recorded.of_rows (h : Recorded s r) {op : Op}
    (hstored : ∀ loc, (exec op w s).2.stored loc ≠ none → s.stored loc ≠ none)
    (hrows : ∀ taskID st o, op = .update taskID st → w.write = .done →
      s.objects.find? taskID = some o → st.Loses w.now o → s.stored o.location = none) :
    Recorded (exec op w s).2 r := by
  intro loc hloc
  have hbefore : s.stored loc ≠ none := hstored loc hloc
  obtain ⟨taskID, o, ho, rfl, hcovered⟩ := h loc hbefore
  have hrow := exec_row op w s taskID
  rw [ho] at hrow
  generalize hafter : (exec op w s).2.objects.find? taskID = after at hrow
  cases hrow with
  | stay => exact ⟨taskID, o, hafter, rfl, hcovered⟩
  | write st _ hop hw =>
    have hkeeps : ¬st.Loses w.now o := fun hloses =>
      hbefore (hrows taskID st o hop hw ho hloses)
    unfold Statement.Loses at hkeeps
    push Not at hkeeps
    exact ⟨taskID, _, hafter, hkeeps.2, hcovered.imp_left hkeeps.1⟩

theorem Recorded.exec (h : Recorded s r) {op : Op} (hop : op.stores = false)
    (hkeeps : keepsRecorded op w s) : Recorded (exec op w s).2 r := by
  have hrows : ∀ taskID st o, op = .update taskID st → w.write = .done →
      s.objects.find? taskID = some o → st.Loses w.now o → s.stored o.location = none := by
    rintro taskID st o rfl hw ho
    exact not_stored_of_loses hkeeps hw ho
  refine h.of_rows (fun loc hloc => ?_) hrows
  cases op with
  | putObject taskID loc o => cases hop
  | deleteObject deleted =>
    dsimp only [Video.exec] at hloc
    split at hloc
    · change Function.update s.stored deleted none loc ≠ none at hloc
      have hne : loc ≠ deleted := fun heq => hloc (by rw [heq, Function.update_self])
      rwa [Function.update_of_ne hne] at hloc
    · exact hloc
  | newOperation | stageVideo _ | deleteStagedVideo _ | headObject _ =>
    dsimp only [Video.exec] at hloc
    split at hloc <;> exact hloc
  | _ => exact hloc

theorem exec_put_done {loc : Location} {o : RemoteObject} (hdone : w.remote = .done) :
    (Video.exec (.putObject taskID loc o) w s).2 = { s with
        stored := Function.update s.stored loc (some { o with lastModified := w.storageNow }) } := by
  dsimp only [Video.exec]
  rw [hdone]
  rfl

theorem Recorded.put (h : Recorded s r) {loc : Location} {o : RemoteObject}
    (hkeeps : keepsRecorded (.putObject taskID loc o) w s) (hdone : w.remote = .done) :
    Recorded (Video.exec (.putObject taskID loc o) w s).2 ({taskID} + r) := by
  obtain ⟨-, row, hrow, hloc⟩ := hkeeps.2 hdone
  rw [exec_put_done hdone]
  intro loc' hstored
  by_cases heq : loc' = loc
  · subst heq
    exact ⟨taskID, row, hrow, hloc, .inr (by simp)⟩
  change Function.update s.stored loc _ loc' ≠ none at hstored
  rw [Function.update_of_ne heq] at hstored
  obtain ⟨id, other, hother, hloc', hcovered⟩ := h loc' hstored
  exact ⟨id, other, hother, hloc', hcovered.imp_right fun hmem => Multiset.mem_add.mpr (.inr hmem)⟩

theorem Recorded.publish {x : OperationID} {lease expiresAt : Int}
    (h : Recorded s ({taskID} + r)) (hexpires : 0 < expiresAt)
    (hkeeps : keepsRecorded (.update taskID (.available x lease expiresAt)) w s) :
    Recorded (Video.exec (.update taskID (.available x lease expiresAt)) w s).2 r := by
  have hafter := h.exec rfl hkeeps
  obtain ⟨hw, o, ho, hguard⟩ := hkeeps
  intro loc hloc
  obtain ⟨id, o', ho', hloc', hcovered⟩ := hafter loc hloc
  refine ⟨id, o', ho', hloc', ?_⟩
  by_cases heq : id = taskID
  · subst heq
    rw [exec_update_row (.available x lease expiresAt) hw ho] at ho'
    cases ho'
    rw [after_of_guard (.available x lease expiresAt) w.now o hguard]
    exact .inl (.inr ⟨rfl, hexpires⟩)
  · refine hcovered.imp_right fun hmem => ?_
    rw [Multiset.mem_add, Multiset.mem_singleton] at hmem
    exact hmem.resolve_left heq

end Steps

def Op.staging : Op → Bool
  | .update _ (.stagingDeletePending _) | .update _ (.stagingDeleted _) | .deleteStagedVideo _
  | .stagingCandidates _ | .oldFiles | .hasStagingReference _ => true
  | _ => false

abbrev OnlyStaging {α : Type} (p : Prog α) : Prop := p.Only fun o => o.staging = true

section Staging

theorem removeStaged_only (issuer : Option OperationID) (taskID : String)
    (path : Option String) : OnlyStaging (removeStaged issuer taskID path) := by
  have hpath : OnlyStaging (deleteStagedPath path) := by
    cases path with
    | none => exact trivial
    | some path => exact .call rfl
  refine hpath.bind fun deleted => ?_
  split
  · exact Program.Only.bind (.call rfl) fun _ => trivial
  · exact trivial

theorem deleteVideoStagedFile_only (issuer : Option OperationID) (taskID : String)
    (path : Option String) : OnlyStaging (deleteVideoStagedFile issuer taskID path) := by
  refine Program.Only.bind (.call rfl) fun marked => ?_
  split
  · exact removeStaged_only issuer taskID path
  · exact trivial

theorem cleanStaged_only (o : VideoObject) : OnlyStaging (cleanStaged o) := by
  unfold cleanStaged
  split
  · exact deleteVideoStagedFile_only none o.taskID o.stagingRelativePath
  · exact removeStaged_only none o.taskID o.stagingRelativePath

theorem cleanupOrphans_only (n : Nat) (files : List String) :
    OnlyStaging (cleanupOrphans n files) := by
  fun_induction cleanupOrphans n files with
  | case1 => exact trivial
  | case2 => exact trivial
  | case3 n path rest ihkept ihdeleted =>
    refine Program.Only.bind (.call rfl) fun referenced => ?_
    split
    · exact trivial
    · exact ihkept
    refine Program.Only.bind (.call rfl) fun deleted => ?_
    split
    · exact ihdeleted
    · exact trivial

theorem cleanupStaging_only : OnlyStaging cleanupStaging := by
  refine Program.Only.bind (.call rfl) fun candidates => ?_
  refine Program.Only.bind (.forEach fun o _ => cleanStaged_only o) fun _ => ?_
  exact Program.Only.bind (.call rfl) fun files => cleanupOrphans_only 100 _

end Staging

/-! ## The debts of the programs -/

/-- A thread owes something only when it is about to mark a row available. -/
def recordedLogic : Logic Op Job World Shared (Multiset String) where
  Inv := Recorded
  pre _ _ r := r = 0
  post _ r := r = 0
  held _ o r := r = 0 ∨ o.any Op.publishes = true
  check _ _ _ _ := True

section Programs

variable {node : Nat} {α β : Type}

variable (node) in
def Clears (p : Prog α) : Prop :=
  Safe machine recordedConditions recordedLogic node p 0 fun _ r => r = 0

theorem Clears.pure (a : α) : Clears node (Pure.pure a : Prog α) :=
  rfl

theorem Clears.bind {p : Prog α} {f : α → Prog β} (hp : Clears node p)
    (hf : ∀ a, Clears node (f a)) : Clears node (p >>= f) :=
  Safe.bind hp (by rintro a _ rfl; exact hf a)

theorem Clears.call {o : Op} (ho : o.stores = false) : Clears node (Video.call o) := by
  refine Safe.call (.inl rfl) fun w s rest hrun _ hinv => ?_
  exact ⟨trivial, 0, hinv.exec ho hrun, rfl⟩

theorem Clears.ite {c : Prop} [Decidable c] {p q : Prog α} (hp : Clears node p)
    (hq : Clears node q) : Clears node (if c then p else q) := by
  split
  · exact hp
  · exact hq

theorem Clears.of_staging {p : Prog α} (hp : OnlyStaging p) : Clears node p := by
  induction p with
  | done a => rfl
  | perform o next ih =>
    have hstores : o.stores = false := by
      cases o with
      | putObject taskID loc x => cases hp.1
      | _ => rfl
    exact (Clears.call hstores).bind fun x => ih x (hp.2 x)
  | fork j next ih => exact ⟨.inl rfl, 0, 0, rfl, rfl, ih hp⟩

variable (x : OperationID)

theorem clears_stageAgain (taskID : String) : Clears node (stageAgain x taskID) := by
  refine (Clears.call rfl).bind fun staged => ?_
  split
  · exact .pure none
  refine (Clears.call rfl).bind fun marked => ?_
  split
  · exact .pure none
  refine (Clears.call rfl).bind fun opened => ?_
  split
  · exact .pure _
  · exact (Clears.call rfl).bind fun _ => .pure none

theorem clears_openOrStage (o : VideoObject) : Clears node (openOrStage x o) := by
  unfold openOrStage
  split
  · refine (Clears.call rfl).bind fun opened => ?_
    split
    · exact .pure _
    · exact (Clears.call rfl).bind fun _ => clears_stageAgain x o.taskID
  · exact clears_stageAgain x o.taskID

theorem clears_finishArchive (taskID : String) (lease expiresAt : Int)
    (path : Option String) {r : Multiset String} (hr : r = 0 ∨ r = {taskID} ∧ 0 < expiresAt) :
    Safe machine recordedConditions recordedLogic node
      (finishArchive x taskID lease expiresAt path) r fun _ r' => r' = 0 := by
  have hmark : Safe machine recordedConditions recordedLogic node
      (call (.update taskID (.available x lease expiresAt))) r fun _ r' => r' = 0 := by
    refine .call (.inr rfl) fun w s rest hrun _ hinv => ⟨trivial, 0, ?_, rfl⟩
    rw [zero_add]
    obtain rfl | ⟨rfl, hexpires⟩ := hr
    · rw [zero_add] at hinv
      exact hinv.exec rfl hrun
    · exact hinv.publish hexpires hrun
  refine hmark.bind ?_
  rintro marked _ rfl
  show Clears node _
  split
  · exact (Clears.of_staging (deleteVideoStagedFile_only (some x) taskID path)).bind
      fun _ => .pure true
  · exact .pure false

variable (taskID : String)

def PutOwes : Option Int → Multiset String → Prop
  | none, r => r = 0
  | some uploadedAt, r => r = {taskID} ∧ 0 ≤ uploadedAt

theorem safe_put (loc : Location) (o : RemoteObject) :
    Safe machine recordedConditions recordedLogic node (call (.putObject taskID loc o)) 0
      (PutOwes taskID) := by
  refine .call (.inl rfl) fun w s rest hrun _ hinv => ⟨trivial, ?_⟩
  rw [zero_add] at hinv
  cases hremote : w.remote with
  | done =>
    refine ⟨{taskID}, hinv.put hrun hremote, ?_⟩
    show PutOwes taskID (if w.remote = .done then some w.now else none) _
    rw [if_pos hremote]
    exact ⟨rfl, (hrun.2 hremote).1⟩
  | unconfirmed => exact absurd hremote hrun.1
  | fails =>
    refine ⟨0, ?_, ?_⟩
    · rw [zero_add]
      show Recorded (if executes w.remote then _ else s) rest
      rw [hremote]
      exact hinv
    · show PutOwes taskID (if w.remote = .done then some w.now else none) _
      rw [hremote]
      rfl

variable {settings : VideoSettings}

section

variable (h : settings.validate = true)

include h

theorem retention_pos : 0 < settings.retentionSeconds := by
  simp only [VideoSettings.validate, Bool.and_eq_true, decide_eq_true_eq] at h
  omega

theorem clears_putVideo (x : OperationID) (taskID : String)
    (lease : Int) (f : VideoStagedFile) : Clears node (putVideo settings x taskID lease f) := by
  refine Safe.bind (safe_put taskID _ _) fun put r hr => ?_
  cases put with
  | none => exact hr
  | some uploadedAt =>
    have hexpires : 0 < uploadedAt + settings.retentionSeconds := by
      have := retention_pos h
      have := hr.2
      omega
    exact clears_finishArchive x taskID lease _ f.relativePath (.inr ⟨hr.1, hexpires⟩)

theorem clears_uploadVideo (x : OperationID) (taskID : String)
    (lease : Int) (f : VideoStagedFile) : Clears node (uploadVideo settings x taskID lease f) := by
  refine (Clears.call rfl).bind fun located => ?_
  split
  · exact .pure false
  refine (Clears.call rfl).bind fun ready => ?_
  split
  · exact .pure false
  refine (Clears.call rfl).bind fun head => ?_
  split
  · refine (Clears.call rfl).bind fun w => Clears.ite ?_ (clears_putVideo h x taskID lease f)
    exact clears_finishArchive x taskID lease _ f.relativePath (.inl rfl)
  · exact clears_putVideo h x taskID lease f

theorem clears_runOperation (o : VideoObject) (x : OperationID) :
    Clears node (runOperation settings o x) := by
  refine (clears_openOrStage x o).bind fun staged => ?_
  have hupload : Clears node (uploadStaged settings o x staged) := by
    cases staged with
    | none => exact .pure false
    | some f => exact clears_uploadVideo h x o.taskID o.archiveLeaseExpiresAt f
  refine hupload.bind fun archived => ?_
  split
  · exact .pure true
  · exact (Clears.call rfl).bind fun w => (Clears.call rfl).bind fun _ => .pure false

theorem clears_takeObject (o : VideoObject) : Clears node (takeObject settings o) := by
  refine (Clears.call rfl).bind fun id => ?_
  split
  · exact .pure false
  refine (Clears.call rfl).bind fun w => ?_
  split
  · exact .pure false
  refine (Clears.call rfl).bind fun marked => ?_
  split
  · exact clears_runOperation h _ _
  · exact .pure false

end

theorem clears_initializeObject (o : VideoObject) : Clears node (initializeObject settings o) := by
  unfold initializeObject
  split
  · refine (Clears.call rfl).bind fun w => (Clears.call rfl).bind fun marked => ?_
    split
    · exact .pure _
    · exact .pure none
  · exact .pure _

theorem clears_archiveVideoTask : Clears node (archiveVideoTask taskID) := by
  refine (Clears.call rfl).bind fun w => ?_
  split
  · exact .pure false
  rename_i hvalid
  have hvalid : w.settings.validate = true := by simpa using hvalid
  refine (Clears.call rfl).bind fun found => ?_
  split
  · exact .pure false
  refine (Clears.call rfl).bind fun w' => ?_
  split
  · exact .pure true
  refine (clears_initializeObject _).bind fun initialized => ?_
  split
  · exact .pure false
  · exact clears_takeObject hvalid _

theorem clears_retryVideoStorageArchive : Clears node (retryVideoStorageArchive taskID) := by
  refine (Clears.call rfl).bind fun object => (Clears.call rfl).bind fun w => ?_
  split
  · exact clears_archiveVideoTask taskID
  split
  · exact .pure false
  · exact (Clears.call rfl).bind fun _ => .pure false

theorem clears_recoverUploads (now : Int) (l : List VideoObject) :
    Clears node (recoverUploads now l) := by
  induction l with
  | nil => exact .pure true
  | cons o rest ih =>
    refine (Clears.call rfl).bind fun marked => ?_
    split
    · exact .pure false
    · exact ih

theorem clears_retryDueObjects (l : List VideoObject) : Clears node (retryDueObjects l) := by
  induction l with
  | nil => exact .pure ()
  | cons o rest ih =>
    refine (Clears.call rfl).bind fun w => ?_
    split
    · exact .pure ()
    · exact (clears_retryVideoStorageArchive o.taskID).bind fun _ => ih

theorem clears_scheduledRetries : Clears node runScheduledVideoStorageRetries := by
  refine (Clears.call rfl).bind fun w => (Clears.call rfl).bind fun expired => ?_
  split
  · exact .pure ()
  refine (clears_recoverUploads w.now _).bind fun recovered => ?_
  split
  · exact .pure ()
  · exact (Clears.call rfl).bind fun due => clears_retryDueObjects _

theorem clears_retryVideoStorageUpload : Clears node (retryVideoStorageUpload taskID) := by
  refine (Clears.call rfl).bind fun w => ?_
  split
  · exact .pure ()
  refine (Clears.call rfl).bind fun found => ?_
  split
  · exact .pure ()
  split
  · exact .pure ()
  refine (Clears.call rfl).bind fun w' => ?_
  split
  · exact .pure ()
  refine (Clears.call rfl).bind fun marked => ?_
  split
  · refine (Clears.call rfl).bind fun queue => ?_
    split
    · exact .pure ()
    · exact (Clears.call rfl).bind fun _ => .pure ()
  · exact .pure ()

theorem clears_claimExpired (now : Int) (n : Nat) (l : List VideoObject) :
    Clears node (claimExpired now n l) := by
  fun_induction claimExpired now n l with
  | case1 => exact .pure _
  | case2 => exact .pure _
  | case3 n o rest havailable ihrefused ihclaimed =>
    refine (Clears.call rfl).bind fun claimed => ?_
    split
    · exact .pure none
    · exact ihrefused
    · exact ihclaimed.bind fun _ => .pure _
  | case4 n o rest hpending ih => exact ih.bind fun _ => .pure _

theorem clears_deleteAllClaimed (l : List VideoObject) : Clears node (deleteAllClaimed l) := by
  induction l with
  | nil => exact .pure ()
  | cons o rest ih =>
    have hdelete : Clears node (deleteClaimed o) := by
      refine (Clears.call rfl).bind fun ready => ?_
      split
      · exact (Clears.call rfl).bind fun deleted => (Clears.call rfl).bind fun _ => .pure ()
      · exact (Clears.call rfl).bind fun _ => .pure ()
    refine (Clears.call rfl).bind fun w => ?_
    split
    · exact .pure ()
    · exact hdelete.bind fun _ => ih

theorem clears_runCleanup : Clears node runCleanup := by
  refine (Clears.call rfl).bind fun expired => ?_
  split
  · exact .pure ()
  refine (clears_claimExpired _ 100 _).bind fun claimed => ?_
  split
  · exact .pure ()
  · exact (clears_deleteAllClaimed _).bind fun _ => .of_staging cleanupStaging_only

theorem clears_program (j : Job) : Clears node (program j) := by
  cases j with
  | archive taskID => exact (clears_archiveVideoTask taskID).bind fun _ => .pure ()
  | retry taskID => exact (clears_retryVideoStorageArchive taskID).bind fun _ => .pure ()
  | scheduledRetries => exact clears_scheduledRetries
  | administratorRetry taskID => exact clears_retryVideoStorageUpload taskID
  | cleanup => exact clears_runCleanup

end Programs

theorem owes_nothing {t : Thread Op Op.Ret Job} {r : Multiset String}
    (h : SafeThread machine recordedConditions recordedLogic t r) (ht : publishing t = false) :
    r = 0 := by
  obtain ⟨node, p⟩ := t
  cases p with
  | done a => exact h
  | perform o next => exact h.1.resolve_right (by rw [Option.any_some]; exact ne_true_of_eq_false ht)
  | fork j next => exact h.1.resolve_right (by nofun)

theorem recorded_sound : Sound machine recordedConditions recordedLogic program where
  job node j r hr := by
    obtain rfl : r = 0 := hr
    exact clears_program j
  start _ _ _ := rfl
  drop node sys hcrash t ht hnode r hr s rest hinv := by
    have hr0 : r = 0 := owes_nothing hr (hcrash t ht hnode)
    rwa [hr0, zero_add] at hinv
  lost _ _ _ _ hinv := hinv

theorem recorded_when_quiet {s : Shared} (hs : Recorded s 0) {moves : List (Move Job World)}
    (hrun : Along (System.step machine program) recordedConditions.Meets ⟨s, []⟩ moves)
    (hquiet : (run (System.step machine program) ⟨s, []⟩ moves).Quiet) :
    Recorded (run (System.step machine program) ⟨s, []⟩ moves).state 0 := by
  have hstart : Holds machine recordedConditions recordedLogic
      (⟨s, []⟩ : System Op Op.Ret Job Shared) := ⟨[], .nil, hs⟩
  obtain ⟨rs, hrs, hinv⟩ := (hstart.along recorded_sound hrun).2.quiet hquiet
  have hnone : rs.sum = 0 := by
    refine List.sum_eq_zero fun r hr => ?_
    obtain ⟨_, hr0⟩ := hrs r hr
    exact hr0
  rwa [hnone] at hinv

end ZModel.Video
