import ZModel.Lib.Threads
import ZModel.Video.Archive

/-!
# Fencing of archive operations

Some statements look for the id of the operation; the marks of the staged file, the update of the
location and the stop of the retries do not.
-/

namespace ZModel.Video

open Lib Store
open AsyncImage (ObjectStatus StagingStatus)

structure Columns where
  status : ObjectStatus
  bucket : String
  objectKey : ObjectKey
  sizeBytes : Int
  mimeType : String
  stagingStatus : StagingStatus
  stagingRelativePath : Option String
  stagingSizeBytes : Int
  stagingSHA256 : String

variable (o : VideoObject)

def VideoObject.columns : Columns :=
  ⟨o.status, o.location.bucket, o.location.objectKey, o.sizeBytes, o.mimeType, o.stagingStatus,
    o.stagingRelativePath, o.stagingSizeBytes, o.stagingSHA256⟩

def Statement.issuer : Statement → Option OperationID
  | .available x _ _ | .staged x _ | .stagingFailed x | .located x _ _ => some x
  | .failed _ x _ _ _ _ | .stagingDeletePending x | .stagingDeleted x => x
  | _ => none

def Statement.byAdministrator : Statement → Bool
  | .reset _ _ | .objectFailed => true
  | _ => false

def Statement.clock (now : Int) : Statement → Int
  | .claimExpired queried => queried
  | _ => now

/-- Without its operation's id in the row a statement changes no column, and it takes the status of
a stored object only after its expiry or for the administrator. -/
structure Statement.Fenced (st : Statement) (now : Int) (o : VideoObject) : Prop where
  overtaken : ∀ x, st.issuer = some x → o.archiveOperationID ≠ some x →
    (st.after now o).columns = o.columns
  stored : o.status = .available → (st.after now o).status ≠ .available →
    st.byAdministrator = true ∨ o.expiresAt ≤ st.clock now

def VideoObject.SaysStaged (f : VideoStagedFile) : Prop :=
  o.stagingStatus = .available ∧ o.stagingRelativePath = f.relativePath ∧
    o.stagingSizeBytes = f.sizeBytes ∧ o.stagingSHA256 = f.sha256 ∧ o.mimeType = f.mimeType

def VideoObject.SaysLocated (loc : Location) (f : VideoStagedFile) : Prop :=
  o.location.bucket = loc.bucket ∧ o.location.objectKey = loc.objectKey ∧
    o.sizeBytes = f.sizeBytes ∧ o.mimeType = f.mimeType

/-- What the statements without a guard have to find: the id of their operation or nothing to
change, and no stored object. -/
def Statement.Allowed (st : Statement) (now : Int) (o : VideoObject) : Prop :=
  match st with
  | .staged x f => o.archiveOperationID = some x ∨ o.SaysStaged f
  | .stagingFailed x => o.archiveOperationID = some x ∨ o.stagingStatus = .failed
  | .located x loc f => o.archiveOperationID = some x ∨ o.SaysLocated loc f
  | .stagingDeletePending (some x) =>
    o.archiveOperationID = some x ∨ o.stagingStatus ≠ .available
  | .stagingDeleted (some x) => o.archiveOperationID = some x ∨ o.stagingStatus ≠ .deletePending
  | .uploading status operation _ _ =>
    o.status = .available → status = .available → o.archiveOperationID = operation →
      o.expiresAt ≤ now
  | .stop => o.status = .available → o.expiresAt ≤ now
  | _ => True

section Statements

variable {now : Int} {o : VideoObject} {st : Statement}

theorem columns_eq_iff {o o' : VideoObject} :
    o'.columns = o.columns ↔ o'.status = o.status ∧ o'.location.bucket = o.location.bucket ∧
      o'.location.objectKey = o.location.objectKey ∧ o'.sizeBytes = o.sizeBytes ∧
      o'.mimeType = o.mimeType ∧ o'.stagingStatus = o.stagingStatus ∧
      o'.stagingRelativePath = o.stagingRelativePath ∧
      o'.stagingSizeBytes = o.stagingSizeBytes ∧ o'.stagingSHA256 = o.stagingSHA256 :=
  Columns.mk.injEq .. ▸ Iff.rfl

theorem after_of_guard (st : Statement) (now : Int) (o : VideoObject)
    (h : (st.update now).guard o = true) :
    st.after now o = { (st.update now).set o with taskID := o.taskID, updatedAt := now } :=
  if_pos h

theorem after_of_not_guard (st : Statement) (now : Int) (o : VideoObject)
    (h : (st.update now).guard o = false) : st.after now o = o :=
  if_neg (by rw [h]; nofun)

theorem fenced_of_not_guard (h : (st.update now).guard o = false) : st.Fenced now o := by
  have hkept := after_of_not_guard st now o h
  constructor
  · intro x _ _
    rw [hkept]
  intro hstatus hne
  rw [hkept] at hne
  exact absurd hstatus hne

theorem fenced_of_columns {x : OperationID} (hissuer : st.issuer = some x)
    (hstatus : (st.after now o).status = o.status) :
    st.Fenced now o ↔ (o.archiveOperationID = some x ∨ (st.after now o).columns = o.columns) := by
  constructor
  · intro h
    by_cases hid : o.archiveOperationID = some x
    · exact .inl hid
    · exact .inr (h.overtaken x hissuer hid)
  intro h
  constructor
  · intro y hy hne
    obtain rfl : x = y := Option.some.inj (hissuer.symm.trans hy)
    exact h.resolve_left hne
  · intro havailable hne
    exact absurd (hstatus.trans havailable) hne

theorem fenced_of_stored (hissuer : st.issuer = none) :
    st.Fenced now o ↔ (o.status = .available → (st.after now o).status ≠ .available →
      st.byAdministrator = true ∨ o.expiresAt ≤ st.clock now) := by
  constructor
  · intro h
    exact h.stored
  intro h
  refine ⟨fun x hx => ?_, h⟩
  rw [hissuer] at hx
  cases hx

theorem fenced_of_guard {x : Option OperationID} (hissuer : st.issuer = x)
    (hguard : (st.update now).guard o = true → o.archiveOperationID = x ∧ o.status ≠ .available) :
    st.Fenced now o := by
  cases h : (st.update now).guard o with
  | false => exact fenced_of_not_guard h
  | true =>
    obtain ⟨hid, hstatus⟩ := hguard h
    constructor
    · intro y hy hne
      exact absurd (hid.trans (hissuer.symm.trans hy)) hne
    · intro havailable
      exact absurd havailable hstatus

variable (x : OperationID)

theorem staged_fenced_iff (f : VideoStagedFile) :
    (Statement.staged x f).Fenced now o ↔ (Statement.staged x f).Allowed now o := by
  rw [fenced_of_columns rfl rfl, columns_eq_iff]
  refine or_congr_right ?_
  constructor
  · rintro ⟨-, -, -, -, hmime, hstatus, hpath, hsize, hsha⟩
    exact ⟨hstatus.symm, hpath.symm, hsize.symm, hsha.symm, hmime.symm⟩
  · rintro ⟨hstatus, hpath, hsize, hsha, hmime⟩
    exact ⟨rfl, rfl, rfl, rfl, hmime.symm, hstatus.symm, hpath.symm, hsize.symm, hsha.symm⟩

theorem located_fenced_iff (loc : Location) (f : VideoStagedFile) :
    (Statement.located x loc f).Fenced now o ↔ (Statement.located x loc f).Allowed now o := by
  rw [fenced_of_columns rfl rfl, columns_eq_iff]
  refine or_congr_right ?_
  constructor
  · rintro ⟨-, hbucket, hkey, hsize, hmime, -⟩
    exact ⟨hbucket.symm, hkey.symm, hsize.symm, hmime.symm⟩
  · rintro ⟨hbucket, hkey, hsize, hmime⟩
    exact ⟨rfl, hbucket.symm, hkey.symm, hsize.symm, hmime.symm, rfl, rfl, rfl, rfl⟩

theorem stagingFailed_fenced_iff :
    (Statement.stagingFailed x).Fenced now o ↔ (Statement.stagingFailed x).Allowed now o := by
  rw [fenced_of_columns rfl rfl, columns_eq_iff]
  refine or_congr_right ⟨?_, ?_⟩
  · rintro ⟨-, -, -, -, -, hstatus, -⟩
    exact hstatus.symm
  · intro hstatus
    exact ⟨rfl, rfl, rfl, rfl, rfl, hstatus.symm, rfl, rfl, rfl⟩

/-- A statement that moves `staging_status` away from the one it asks for. -/
theorem staging_fenced_iff {x : OperationID} {status : StagingStatus} (hissuer : st.issuer = some x)
    (hstatus : ((st.update now).set o).status = o.status)
    (hguard : (st.update now).guard o = decide (o.stagingStatus = status))
    (hleaves : ((st.update now).set o).stagingStatus ≠ status) :
    st.Fenced now o ↔ (o.archiveOperationID = some x ∨ o.stagingStatus ≠ status) := by
  by_cases hstaging : o.stagingStatus = status
  · have hafter := after_of_guard st now o (hguard.trans (decide_eq_true hstaging))
    rw [fenced_of_columns hissuer (by rw [hafter]; exact hstatus)]
    refine or_congr_right (iff_of_false (fun hcolumns => ?_) (absurd hstaging))
    rw [hafter] at hcolumns
    exact hleaves ((congrArg Columns.stagingStatus hcolumns).trans hstaging)
  · have hskipped := fenced_of_not_guard (hguard.trans (decide_eq_false hstaging))
    exact iff_of_true hskipped (.inr hstaging)

theorem stagingDeletePending_fenced_iff : (Statement.stagingDeletePending (some x)).Fenced now o ↔
      (Statement.stagingDeletePending (some x)).Allowed now o :=
  staging_fenced_iff rfl rfl rfl nofun

theorem stagingDeleted_fenced_iff : (Statement.stagingDeleted (some x)).Fenced now o ↔
      (Statement.stagingDeleted (some x)).Allowed now o :=
  staging_fenced_iff rfl rfl rfl nofun

theorem uploading_fenced_iff (status : ObjectStatus) (operation : Option OperationID)
    (x : OperationID) (leaseExpiresAt : Int) :
    (Statement.uploading status operation x leaseExpiresAt).Fenced now o ↔
      (Statement.uploading status operation x leaseExpiresAt).Allowed now o := by
  rw [fenced_of_stored rfl]
  show _ ↔ (o.status = .available → status = .available → o.archiveOperationID = operation →
    o.expiresAt ≤ now)
  refine imp_congr_right fun havailable => ?_
  by_cases hguard : o.status = status ∧ o.archiveOperationID = operation
  · have hafter := after_of_guard (.uploading status operation x leaseExpiresAt) now o
      (by simpa [Statement.update, markVideoStorageArchiveUploading] using hguard)
    have hne : ((Statement.uploading status operation x leaseExpiresAt).after now o).status ≠
        .available := by
      rw [hafter]
      nofun
    constructor
    · intro h _ _
      exact (h hne).resolve_left (by nofun)
    · intro h _
      exact .inr (h (hguard.1.symm.trans havailable) hguard.2)
  have hkept := after_of_not_guard (.uploading status operation x leaseExpiresAt) now o
    (by simpa [Statement.update, markVideoStorageArchiveUploading] using hguard)
  rw [hkept]
  constructor
  · intro _ hstatus hid
    exact absurd ⟨havailable.trans hstatus.symm, hid⟩ hguard
  · intro _ hne
    exact absurd havailable hne

theorem stop_fenced_iff : Statement.stop.Fenced now o ↔ Statement.stop.Allowed now o := by
  rw [fenced_of_stored rfl]
  refine imp_congr_right fun havailable => ?_
  have hafter := after_of_guard .stop now o
    (by simp [Statement.update, stopVideoStorageArchiveRetries, havailable])
  have hne : (Statement.stop.after now o).status ≠ .available := by
    rw [hafter]
    nofun
  constructor
  · intro h
    exact (h hne).resolve_left (by nofun)
  · intro h _
    exact .inr h

theorem fenced_of_status (hissuer : st.issuer = none)
    (h : o.status = .available → ((st.update now).set o).status = .available) :
    st.Fenced now o := by
  rw [fenced_of_stored hissuer]
  intro havailable hne
  cases hguard : (st.update now).guard o with
  | false =>
    rw [after_of_not_guard st now o hguard] at hne
    exact absurd havailable hne
  | true =>
    rw [after_of_guard st now o hguard] at hne
    exact absurd (h havailable) hne

theorem Statement.fenced_iff (st : Statement) (now : Int) (o : VideoObject) :
    st.Fenced now o ↔ st.Allowed now o := by
  cases st with
  | staged x f => exact staged_fenced_iff x f
  | stagingFailed x => exact stagingFailed_fenced_iff x
  | located x loc f => exact located_fenced_iff x loc f
  | uploading status operation x lease => exact uploading_fenced_iff status operation x lease
  | stop => exact stop_fenced_iff
  | stagingDeletePending issuer =>
    cases issuer with
    | none => exact iff_of_true (fenced_of_status rfl id) trivial
    | some x => exact stagingDeletePending_fenced_iff x
  | stagingDeleted issuer =>
    cases issuer with
    | none => exact iff_of_true (fenced_of_status rfl id) trivial
    | some x => exact stagingDeleted_fenced_iff x
  | prepare maxAttempts deadline => exact iff_of_true (fenced_of_status rfl id) trivial
  | deleteFailed => exact iff_of_true (fenced_of_status rfl id) trivial
  | available x lease expiresAt =>
    refine iff_of_true (fenced_of_guard rfl fun hguard => ?_) trivial
    simp only [Statement.update, markVideoStorageArchiveAvailable, Bool.and_eq_true,
      decide_eq_true_eq] at hguard
    exact ⟨hguard.1.2, by rw [hguard.1.1]; nofun⟩
  | failed attempts x lease maxAttempts deadline nextAttempt =>
    refine iff_of_true (fenced_of_guard rfl fun hguard => ?_) trivial
    simp only [Statement.update, markVideoStorageArchiveFailed, Bool.and_eq_true,
      decide_eq_true_eq] at hguard
    exact ⟨hguard.1.2, by rw [hguard.1.1.2]; nofun⟩
  | reset maxAttempts deadline =>
    exact iff_of_true ((fenced_of_stored rfl).mpr fun _ _ => .inl rfl) trivial
  | objectFailed => exact iff_of_true ((fenced_of_stored rfl).mpr fun _ _ => .inl rfl) trivial
  | claimExpired queried =>
    refine iff_of_true ((fenced_of_stored rfl).mpr fun havailable hne => .inr ?_) trivial
    by_contra hexpires
    refine hne ?_
    rw [after_of_not_guard _ _ _ (by
      simp only [Statement.update, claimExpiredStorageObject, Bool.and_eq_false_iff,
        decide_eq_false_iff_not]
      exact .inr hexpires)]
    exact havailable
  | deleted =>
    refine iff_of_true ((fenced_of_stored rfl).mpr fun havailable hne => ?_) trivial
    rw [after_of_not_guard _ _ _ (by
      simp [Statement.update, markStorageObjectDeleted, havailable])] at hne
    exact absurd havailable hne

end Statements

structure FencedMove (sys : System Op Op.Ret Job Shared) (move : Move Job World) : Prop where
  overtaken : ∀ {taskID st w x o o'}, sys.performed move = some (.update taskID st, w) →
    st.issuer = some x → sys.state.objects.find? taskID = some o →
    o.archiveOperationID ≠ some x →
    (sys.step machine program move).state.objects.find? taskID = some o' →
    o'.columns = o.columns
  stored : ∀ {taskID o o'}, sys.state.objects.find? taskID = some o →
    (sys.step machine program move).state.objects.find? taskID = some o' →
    o.status = .available → o'.status ≠ .available →
    ∃ st w, sys.performed move = some (.update taskID st, w) ∧
      (st.byAdministrator = true ∨ o.expiresAt ≤ st.clock w.now)

def allowed : Op → World → Shared → Prop
  | .update taskID st, w, s =>
    w.write = .done → ∀ o, s.objects.find? taskID = some o → st.Allowed w.now o
  | _, _, _ => True

variable (sys : System Op Op.Ret Job Shared)

theorem fencedMove_iff (move : Move Job World) :
    FencedMove sys move ↔ (Conditions.operations allowed).Meets sys move := by
  rw [Conditions.operations_meets_iff]
  have hstep := System.step_state (M := machine) program (fun _ _ _ => rfl) (fun _ _ => rfl) sys move
  constructor
  · intro h op w hperformed
    cases op with
    | update taskID st =>
      intro hw o ho
      obtain ⟨-, hnone⟩ | ⟨_, _, _, hperformed', hstate⟩ := hstep
      · rw [hnone] at hperformed
        cases hperformed
      rw [hperformed] at hperformed'
      cases hperformed'
      have hrow : (sys.step machine program move).state.objects.find? taskID =
          some (st.after w.now o) := by
        rw [hstate]
        exact exec_update_row st hw ho
      refine (st.fenced_iff w.now o).mp ⟨fun x hx hne => ?_, fun havailable hne => ?_⟩
      · exact h.overtaken hperformed hx ho hne hrow
      obtain ⟨st', w', hsame, hreason⟩ := h.stored ho hrow havailable hne
      rw [hperformed] at hsame
      cases hsame
      exact hreason
    | _ => trivial
  intro h
  -- what the row of a task becomes is decided by the operation that is performed
  obtain ⟨hstate, hnone⟩ | ⟨_, op, w, hperformed, hstate⟩ := hstep
  · constructor
    · intro taskID st w x o o' hperformed
      rw [hnone] at hperformed
      cases hperformed
    · intro taskID o o' ho ho' havailable hne
      rw [hstate, ho] at ho'
      cases ho'
      exact absurd havailable hne
  have hrow : ∀ taskID, RowStep op w taskID (sys.state.objects.find? taskID)
      ((sys.step machine program move).state.objects.find? taskID) := by
    intro taskID
    rw [hstate]
    exact exec_row op w sys.state taskID
  constructor
  · intro taskID st w' x o o' hsame hx ho hne ho'
    rw [hperformed] at hsame
    cases hsame
    have hwritten := hrow taskID
    rw [ho, ho'] at hwritten
    cases hwritten with
    | stay => rfl
    | write st' _ hst hw =>
      cases hst
      exact ((st.fenced_iff w.now o).mpr (h _ _ hperformed hw o ho)).overtaken x hx hne
  intro taskID o o' ho ho' havailable hne
  have hwritten := hrow taskID
  rw [ho, ho'] at hwritten
  cases hwritten with
  | stay => exact absurd havailable hne
  | write st' _ hst hw =>
    subst hst
    have hallowed := h _ _ hperformed hw o ho
    refine ⟨st', w, hperformed, ?_⟩
    exact ((st'.fenced_iff w.now o).mpr hallowed).stored havailable hne

/-- **Every move of a run keeps the promises if and only if** every executed statement is allowed by
the row that it finds. -/
theorem operations_fenced_iff (s : Shared) (moves : List (Move Job World)) :
    Along (System.step machine program) FencedMove ⟨s, []⟩ moves ↔
      Along (System.step machine program) (Conditions.operations allowed).Meets ⟨s, []⟩ moves :=
  Along.congr _ fencedMove_iff ⟨s, []⟩ moves

def runs (i n : Nat) (w : World) : List (Move Job World) := List.replicate n (.run i w)

def overtakenRun : List (Move Job World) :=
  [.start 0 (.archive "t")] ++ runs 0 9 { now := 100, settings := { bucket := "old" } } ++
    [.start 1 .scheduledRetries] ++ runs 1 4 { now := 1000, settings := { bucket := "new" } } ++
    [.start 1 .scheduledRetries] ++ runs 2 21 { now := 1100, settings := { bucket := "new" } }

def lateMove : Move Job World := .run 0 { now := 1100 }

def overtakenSystem : System Op Op.Ret Job Shared :=
  run (System.step machine program) ⟨{}, []⟩ overtakenRun

def sampleRow : Option (ObjectStatus × Int × Option OperationID × String) :=
  (sys.state.objects.find? "t").map fun o =>
    (o.status, o.expiresAt, o.archiveOperationID, o.location.bucket)

def issuedBy (move : Move Job World) : Option OperationID :=
  match sys.performed move with
  | some (.update _ st, _) => st.issuer
  | _ => none

/-- The overtaken operation moves the row of the stored object to the old bucket. -/
theorem overtaken_operation_relocates :
    sampleRow overtakenSystem = some (.available, 87500, none, "new") ∧
      issuedBy overtakenSystem lateMove = some 0 ∧
      sampleRow (overtakenSystem.step machine program lateMove) =
        some (.available, 87500, none, "old") := by
  decide +kernel

end ZModel.Video
