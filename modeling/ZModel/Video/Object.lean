import ZModel.AsyncImage.Machine

/-!
# Storage objects of videos

The row of `storage_objects` of a video task. An archive operation takes the row by writing its id.
Statements that are not guarded by the id carry the operation that issues them.
-/

namespace ZModel.Video

open Lib Store
open AsyncImage (ObjectStatus StagingStatus)

abbrev OperationID := Nat

structure ObjectKey where
  s3KeyPrefix : String
  taskID : String
  extension : String
  deriving DecidableEq

structure Location where
  endpoint : String
  region : String
  bucket : String
  objectKey : ObjectKey
  deriving DecidableEq

/-- `StorageObject` of a video, unique by its task. The staging path is named by the task. -/
structure VideoObject where
  taskID : String
  status : ObjectStatus := .uploading
  location : Location
  mimeType : String := "video/mp4"
  extension : String := "mp4"
  sizeBytes : Int := 0
  expiresAt : Int := 0
  stagingStatus : StagingStatus := .pending
  stagingRelativePath : Option String := none
  stagingSizeBytes : Int := 0
  stagingSHA256 : String := ""
  archiveMaxAttempts : Int
  archiveAttempts : Int := 0
  archiveRetryDeadlineAt : Int
  archiveNextAttemptAt : Int := 0
  archiveOperationID : Option OperationID := none
  archiveLeaseExpiresAt : Int := 0
  updatedAt : Int := 0

instance : Keyed VideoObject String := ⟨VideoObject.taskID⟩

structure VideoStagedFile where
  relativePath : Option String
  sizeBytes : Int
  mimeType : String
  extension : String
  sha256 : String

variable (o : VideoObject)

def VideoObject.staged : VideoStagedFile :=
  ⟨o.stagingRelativePath, o.stagingSizeBytes, o.mimeType, o.extension, o.stagingSHA256⟩

structure ObjectUpdate where
  guard : VideoObject → Bool := fun _ => true
  set : VideoObject → VideoObject

def ObjectUpdate.row (u : ObjectUpdate) (now : Int) (o : VideoObject) : VideoObject :=
  if u.guard o then { u.set o with taskID := o.taskID, updatedAt := now } else o

def initializeVideoStorageArchive (maxAttempts retryDeadlineAt : Int) : ObjectUpdate where
  guard o := o.archiveMaxAttempts = 0 || o.archiveRetryDeadlineAt = 0
  set o := { o with
    archiveMaxAttempts := maxAttempts, archiveRetryDeadlineAt := retryDeadlineAt
    archiveNextAttemptAt := 0, archiveOperationID := none, archiveLeaseExpiresAt := 0 }

def markVideoStorageArchiveUploading (expectedStatus : ObjectStatus)
    (expectedOperationID : Option OperationID) (operationID : OperationID) (leaseExpiresAt : Int) :
    ObjectUpdate where
  guard o := o.status = expectedStatus && o.archiveOperationID = expectedOperationID
  set o := { o with
    status := .uploading, archiveOperationID := some operationID
    archiveLeaseExpiresAt := leaseExpiresAt }

def markVideoStorageArchiveAvailable (operationID : OperationID) (leaseExpiresAt expiresAt : Int) :
    ObjectUpdate where
  guard o := o.status = .uploading && o.archiveOperationID = some operationID &&
    o.archiveLeaseExpiresAt = leaseExpiresAt
  set o := { o with
    status := .available, expiresAt, archiveNextAttemptAt := 0
    archiveOperationID := none, archiveLeaseExpiresAt := 0 }

def markVideoStorageArchiveFailed (previousAttempts : Int) (operationID : Option OperationID)
    (leaseExpiresAt maxAttempts retryDeadlineAt nextAttemptAt : Int) : ObjectUpdate where
  guard o := o.archiveAttempts = previousAttempts && o.status = .uploading &&
    o.archiveOperationID = operationID && o.archiveLeaseExpiresAt = leaseExpiresAt
  set o := { o with
    status := .failed, archiveAttempts := previousAttempts + 1, archiveMaxAttempts := maxAttempts
    archiveRetryDeadlineAt := retryDeadlineAt, archiveNextAttemptAt := nextAttemptAt
    archiveOperationID := none, archiveLeaseExpiresAt := 0 }

def resetVideoStorageArchiveForRetry (maxAttempts retryDeadlineAt now : Int) : ObjectUpdate where
  guard o := o.status ≠ .deletePending
  set o := { o with
    status := .failed, archiveAttempts := 0, archiveMaxAttempts := maxAttempts
    archiveRetryDeadlineAt := retryDeadlineAt, archiveNextAttemptAt := now
    archiveOperationID := none, archiveLeaseExpiresAt := 0 }

def stopVideoStorageArchiveRetries : ObjectUpdate where
  guard o := o.status ≠ .deletePending
  set o := { o with
    status := .failed, archiveNextAttemptAt := 0, archiveOperationID := none
    archiveLeaseExpiresAt := 0 }

def markStorageObjectFailed : ObjectUpdate where
  guard o := o.status ≠ .deletePending
  set o := { o with status := .failed }

def markVideoStorageStaged (f : VideoStagedFile) : ObjectUpdate where
  set o := { o with
    stagingRelativePath := f.relativePath, stagingStatus := .available
    stagingSizeBytes := f.sizeBytes, stagingSHA256 := f.sha256, mimeType := f.mimeType
    extension := f.extension }

def markVideoStorageStagingFailed : ObjectUpdate where
  set o := { o with stagingStatus := .failed }

def updateVideoStorageLocation (location : Location) (f : VideoStagedFile) : ObjectUpdate where
  set o := { o with
    location, mimeType := f.mimeType, extension := f.extension
    sizeBytes := f.sizeBytes }

def markVideoStorageStagingDeletePending : ObjectUpdate where
  guard o := o.stagingStatus = .available
  set o := { o with stagingStatus := .deletePending }

def markVideoStorageStagingDeleted : ObjectUpdate where
  guard o := o.stagingStatus = .deletePending
  set o := { o with stagingStatus := .deleted }

def claimExpiredStorageObject (now : Int) : ObjectUpdate where
  guard o := o.status = .available && o.expiresAt ≤ now
  set o := { o with status := .deletePending }

def markStorageObjectDeleted : ObjectUpdate where
  guard o := o.status = .deletePending
  set o := { o with status := .deleted }

def markStorageObjectDeleteFailed : ObjectUpdate where
  guard o := o.status = .deletePending
  set o := o

inductive Statement where
  | prepare (maxAttempts retryDeadlineAt : Int)
  | uploading (expectedStatus : ObjectStatus) (expectedOperationID : Option OperationID)
      (operationID : OperationID) (leaseExpiresAt : Int)
  | available (operationID : OperationID) (leaseExpiresAt expiresAt : Int)
  | failed (previousAttempts : Int) (operationID : Option OperationID)
      (leaseExpiresAt maxAttempts retryDeadlineAt nextAttemptAt : Int)
  | reset (maxAttempts retryDeadlineAt : Int)
  | stop
  | objectFailed
  | staged (issuer : OperationID) (f : VideoStagedFile)
  | stagingFailed (issuer : OperationID)
  | located (issuer : OperationID) (location : Location) (f : VideoStagedFile)
  | stagingDeletePending (issuer : Option OperationID)
  | stagingDeleted (issuer : Option OperationID)
  | claimExpired (now : Int)
  | deleted
  | deleteFailed

def Statement.update (now : Int) : Statement → ObjectUpdate
  | .prepare maxAttempts retryDeadlineAt =>
    initializeVideoStorageArchive maxAttempts retryDeadlineAt
  | .uploading expectedStatus expectedOperationID operationID leaseExpiresAt =>
    markVideoStorageArchiveUploading expectedStatus expectedOperationID operationID leaseExpiresAt
  | .available operationID leaseExpiresAt expiresAt =>
    markVideoStorageArchiveAvailable operationID leaseExpiresAt expiresAt
  | .failed previousAttempts operationID leaseExpiresAt maxAttempts retryDeadlineAt nextAttemptAt =>
    markVideoStorageArchiveFailed previousAttempts operationID leaseExpiresAt maxAttempts
      retryDeadlineAt nextAttemptAt
  | .reset maxAttempts retryDeadlineAt =>
    resetVideoStorageArchiveForRetry maxAttempts retryDeadlineAt now
  | .stop => stopVideoStorageArchiveRetries
  | .objectFailed => markStorageObjectFailed
  | .staged _ f => markVideoStorageStaged f
  | .stagingFailed _ => markVideoStorageStagingFailed
  | .located _ location f => updateVideoStorageLocation location f
  | .stagingDeletePending _ => markVideoStorageStagingDeletePending
  | .stagingDeleted _ => markVideoStorageStagingDeleted
  | .claimExpired now => claimExpiredStorageObject now
  | .deleted => markStorageObjectDeleted
  | .deleteFailed => markStorageObjectDeleteFailed

variable (st : Statement)

def Statement.after (now : Int) (o : VideoObject) : VideoObject :=
  (st.update now).row now o

def Statement.exec (w : Write) (now : Int) (objects : Table VideoObject)
    (taskID : String) : Option Bool × Table VideoObject :=
  match w, objects.find? taskID with
  | .fails, _ => (none, objects)
  | .done, none => (some false, objects)
  | .done, some o => (some ((st.update now).guard o), objects.put (st.after now o))

@[simp] theorem Statement.after_taskID (now : Int) (o : VideoObject) :
    (st.after now o).taskID = o.taskID := by
  unfold Statement.after ObjectUpdate.row
  split <;> rfl

theorem Statement.exec_done (now : Int) (objects : Table VideoObject) (taskID : String) :
    (st.exec .done now objects taskID).2 = objects.modify taskID (st.after now) := by
  cases h : objects.find? taskID with
  | none => simp [Statement.exec, Table.modify, h]
  | some o => simp [Statement.exec, Table.modify, h]

theorem Statement.find?_exec_done (now : Int) (objects : Table VideoObject) (id taskID : String) :
    (st.exec .done now objects id).2.find? taskID =
      if taskID = id then (objects.find? taskID).map (st.after now) else objects.find? taskID := by
  rw [Statement.exec_done]
  exact Table.find?_modify objects id taskID (st.after_taskID now)

def VideoObject.uploadExpired (now legacyStaleBefore : Int) : Bool :=
  o.status = .uploading &&
    ((0 < o.archiveLeaseExpiresAt && o.archiveLeaseExpiresAt ≤ now) ||
      (o.archiveLeaseExpiresAt = 0 && o.updatedAt ≤ legacyStaleBefore))

variable (objects : Table VideoObject)

def listExpiredVideoStorageArchiveUploads
    (now legacyStaleBefore : Int) (limit : Nat) : List VideoObject :=
  ((objects.rows.filter fun o => o.uploadExpired now legacyStaleBefore).insertionSort
    fun o o' => o.updatedAt ≤ o'.updatedAt).take limit

def VideoObject.retryDue (now : Int) : Bool :=
  o.status = .failed && 0 < o.archiveNextAttemptAt && o.archiveNextAttemptAt ≤ now &&
    o.archiveAttempts < o.archiveMaxAttempts && now < o.archiveRetryDeadlineAt

def listDueVideoStorageArchiveRetries (now : Int) (limit : Nat) : List VideoObject :=
  ((objects.rows.filter fun o => o.retryDue now).insertionSort
    fun o o' => o.archiveNextAttemptAt ≤ o'.archiveNextAttemptAt).take limit

def VideoObject.claimable (now : Int) : Bool :=
  (o.status = .available && 0 < o.expiresAt && o.expiresAt ≤ now) || o.status = .deletePending

def expiredStorageObjects (now : Int) (limit : Nat) : List VideoObject :=
  (objects.rows.filter fun o => o.claimable now).take (limit * 2)

def listVideoStorageStagingCleanupCandidates (limit : Nat) : List VideoObject :=
  (objects.rows.filter fun o => o.stagingStatus = .deletePending ||
    (o.stagingStatus = .available && (o.status = .available || o.status = .deleted))).take limit

def hasVideoStorageStagingReference (path : String) : Bool :=
  objects.rows.any fun o => o.stagingRelativePath = some path

end ZModel.Video
