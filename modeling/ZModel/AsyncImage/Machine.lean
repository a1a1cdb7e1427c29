import ZModel.AsyncImage.Closing
import ZModel.Lib.Program

/-!
# The store of the image workers

The statements on image tasks and storage objects (`model/async_image.go`), the staged files and the
object storage; every statement meets a `World` of its own. The histories are not in the code.
-/

namespace ZModel.AsyncImage

open Lib Store

structure ManifestItem where
  index : Int
  sourceType : String
  stagingRelativePath : StagingPath
  sizeBytes : Int
  mimeType : String
  extension : String
  sha256 : String

def StagingPath.text (p : StagingPath) : String :=
  toString p.userID ++ "/" ++ p.date ++ "/" ++ p.taskID ++ "/" ++ toString p.index ++ ".img"

def jsonChar (c : Char) : List Char :=
  let escaped (n : Nat) : List Char :=
    '\\' :: 'u' :: [n / 4096, n / 256 % 16, n / 16 % 16, n % 16].map Nat.digitChar
  if c = '"' then ['\\', '"'] else if c = '\\' then ['\\', '\\']
  else if c = '\n' then ['\\', 'n'] else if c = '\r' then ['\\', 'r']
  else if c = '\t' then ['\\', 't'] else if c.toNat = 8 then ['\\', 'b']
  else if c.toNat = 12 then ['\\', 'f']
  else if c.toNat < 32 || c = '<' || c = '>' || c = '&' || c.toNat = 8232 || c.toNat = 8233 then
    escaped c.toNat
  else [c]

def jsonString (s : String) : String := String.ofList ('"' :: s.toList.flatMap jsonChar ++ ['"'])

def ManifestItem.json (i : ManifestItem) : String :=
  "\x7b\"index\":" ++ toString i.index ++ ",\"source_type\":" ++ jsonString i.sourceType ++
    ",\"staging_relative_path\":" ++ jsonString i.stagingRelativePath.text ++
    ",\"size_bytes\":" ++ toString i.sizeBytes ++ ",\"mime_type\":" ++ jsonString i.mimeType ++
    ",\"extension\":" ++ jsonString i.extension ++ ",\"sha256\":" ++ jsonString i.sha256 ++ "\x7d"

def marshalManifest (items : List ManifestItem) : String :=
  "[" ++ ",".intercalate (items.map ManifestItem.json) ++ "]"

structure AsyncImageBillingSettler where
  taskID : String
  leaseOwner : String
  manifest : String := ""
  sourceKind : String
  objects : List StorageObject := []
  archiveErrorCode : String := ""
  archiveError : String := ""

def AsyncImageBillingSettler.settle (s : AsyncImageBillingSettler) (now : Int) (db : DB)
    (actual : Int) : Except Error DB :=
  if s.manifest ≠ "" ∧ 0 < s.objects.length then
    completeAsyncImageGeneration now db s.taskID s.leaseOwner actual s.manifest s.sourceKind
      s.objects
  else if s.archiveErrorCode ≠ "" then
    completeAsyncImageGenerationWithArchiveFailure now db s.taskID s.leaseOwner actual s.sourceKind
      s.archiveErrorCode s.archiveError
  else settleAsyncImageBilling now db s.taskID actual

structure StorageSettings where
  endpoint : String := ""
  region : String := ""
  bucket : String := ""
  s3KeyPrefix : String := "prod"
  businessID : String := ""
  archiveRetryWindowSeconds : Int := 21600

inductive StartFailure where
  | relayContext
  | request
  | relayInfo
  | billingContext

def StartFailure.code : StartFailure → String
  | .request => "invalid_request_error"
  | _ => "image_generation_failed"

def StartFailure.message : StartFailure → String
  | .request => "stored image request is invalid"
  | .billingContext => "stored billing context is invalid"
  | _ => "image generation could not be started"

/-- What `generateAsyncImageTask` finds before its first attempt: a failure, or the numbers of
images and of retries. -/
inductive Preparation where
  | failed (f : StartFailure)
  | ready (requested retryTimes : Nat)

structure AttemptError where
  code : String
  reason : String

inductive AttemptReply where
  | failed (e : AttemptError) (retry : Bool)
  | executed (images : Option Nat)

inductive StageErrorKind where
  | invalid
  | sourceFetch
  | infrastructure
  deriving DecidableEq

inductive StageReply where
  | failed (kind : StageErrorKind)
  | staged (sourceType : String) (sizeBytes : Int) (mimeType extension sha256 : String)

inductive RemoteOutcome where
  | done
  | fails
  | unconfirmed
  deriving DecidableEq

/-- The outside at one moment. `write` is the outcome of the statement that meets it. -/
structure World where
  now : Int := 0
  write : Write := .done
  zone : Int := 0
  cancelled : Bool := false
  runnerID : String := "node"
  systemTaskID : String := ""
  settings : StorageSettings := {}
  stagingReady : Bool := true
  preparation : Preparation := .ready 1 0
  channelError : Option AttemptError := none
  bodyError : Option AttemptError := none
  attempt : AttemptReply := .executed (some 1)
  stage : StageReply := .staged "base64" 1 "image/png" "png" ""
  today : String := ""
  actualQuota : Int := 0
  decodeManifest : String → Option (List ManifestItem) := fun _ => none
  intact : Bool := true
  storageReady : Bool := true
  storageNow : Int := 0
  remote : RemoteOutcome := .done
  oldFiles : List StagingPath := []

structure RemoteObject where
  contentLength : Int
  contentType : String
  lastModified : Int
  sha256 : String
  businessID : String
  resourceID : String
  objectIndex : Int
  deriving DecidableEq

inductive RemoteOp where
  | put (loc : Location) (o : RemoteObject)
  | delete (loc : Location)
  deriving DecidableEq

def RemoteOp.location : RemoteOp → Location
  | .put loc _ => loc
  | .delete loc => loc

def objectAt (log : List RemoteOp) (loc : Location) : Option RemoteObject :=
  match log.find? fun op => op.location = loc with
  | some (.put _ o) => some o
  | _ => none

structure Shared where
  db : DB
  owners : List String := []
  staged : List StagingPath := []
  remote : List RemoteOp := []
  claims : List (String × String) := []
  generations : List (String × String) := []
  generating : List (String × String) := []

structure Update where
  guard : AsyncImageTask → Bool
  set : Lifecycle → Lifecycle

def Update.row (u : Update) (t : AsyncImageTask) : AsyncImageTask :=
  { t with lifecycle := u.set t.lifecycle }

def Update.exec (u : Update) (w : Write) (tasks : Table AsyncImageTask) (taskID : String) :
    Option Bool × Table AsyncImageTask :=
  match w, tasks.find? taskID with
  | .fails, _ => (none, tasks)
  | .done, none => (some false, tasks)
  | .done, some t => if u.guard t then (some true, tasks.put (u.row t)) else (some false, tasks)

def Status.open : Status → Bool
  | .queued | .running => true
  | _ => false

variable (l : Lifecycle)

def Lifecycle.leaseFree (now : Int) : Bool :=
  l.leaseOwner = "" || l.leaseExpiresAt ≤ now

def claimRunnableAsyncImageTask (owner : String) (now leaseUntil : Int) : Update where
  guard t := t.lifecycle.nextAttemptAt ≤ now && t.lifecycle.leaseFree now
  set l := { l with leaseOwner := owner, leaseExpiresAt := leaseUntil }

def renewAsyncImageTaskLease (owner : String) (now leaseUntil : Int) : Update where
  guard t := t.lifecycle.leaseOwner = owner && now < t.lifecycle.leaseExpiresAt
  set l := { l with leaseExpiresAt := leaseUntil }

def updateAsyncImageTaskWithLease (owner : String) : Update where
  guard t := t.lifecycle.leaseOwner = owner
  set l := l

def markAsyncImageTaskRunning (owner : String) : Update where
  guard t := t.lifecycle.leaseOwner = owner && t.lifecycle.status.open && t.billingStatus = .reserved
  set l := { l with status := .running, lastError := "" }

def scheduleAsyncImageGenerationRetry (owner : String) (nextAttemptAt : Int)
    (errorMessage : String) : Update where
  guard t := t.lifecycle.leaseOwner = owner && t.lifecycle.status.open &&
    t.lifecycle.outputAvailability = .pending && t.billingStatus = .reserved
  set l := { l with
    nextAttemptAt, lastError := errorMessage, leaseOwner := ""
    leaseExpiresAt := 0 }

variable (t : AsyncImageTask)

def AsyncImageTask.generated : Bool :=
  t.lifecycle.status = .succeeded && t.billingStatus = .settled

def markAsyncImageOutputAvailable (owner : String) (expiresAt now : Int) : Update where
  guard t := t.lifecycle.leaseOwner = owner && t.generated
  set l := { l with
    outputAvailability := .available, outputExpiresAt := expiresAt, completedAt := now
    publicErrorCode := "", publicErrorMessage := "", lastError := ""
    adminNotificationState := .none, adminNotificationClaimedAt := 0, leaseOwner := ""
    leaseExpiresAt := 0 }

def scheduleAsyncImageArchiveRetry (owner : String) (attempts nextAttemptAt : Int)
    (errorMessage : String) : Update where
  guard t := t.lifecycle.leaseOwner = owner && t.generated
  set l := { l with
    outputAvailability := .archiving, archiveAttempts := attempts, nextAttemptAt := nextAttemptAt
    lastError := errorMessage, leaseOwner := "", leaseExpiresAt := 0 }

def failAsyncImageArchive (owner : String) (attempts : Int) (errorCode errorMessage : String)
    (now : Int) : Update where
  guard t := t.lifecycle.leaseOwner = owner && t.generated
  set l := { l with
    outputAvailability := .failed, archiveAttempts := attempts, completedAt := now
    publicErrorCode := errorCode, publicErrorMessage := errorMessage, lastError := errorMessage
    adminNotificationState := .pending, adminNotificationClaimedAt := 0, leaseOwner := ""
    leaseExpiresAt := 0 }

def markAsyncImageStagingIntegrityIncident (errorMessage : String) : Update where
  guard t := t.generated
  set l := { l with
    outputAvailability := .failed, publicErrorCode := "archive_staging_integrity_failed"
    publicErrorMessage := "staged image is missing or damaged", lastError := errorMessage
    adminNotificationState := .pending, adminNotificationClaimedAt := 0 }

def Lifecycle.rearchive (retryDeadlineAt now : Int) : Lifecycle :=
  { l with
    outputAvailability := .archiving, archiveAttempts := 0
    archiveRetryDeadlineAt := retryDeadlineAt, nextAttemptAt := now, publicErrorCode := ""
    publicErrorMessage := "", lastError := "", adminNotificationState := .none
    adminNotificationClaimedAt := 0, leaseOwner := "", leaseExpiresAt := 0 }

def AsyncImageTask.archiveFailed : Bool :=
  t.generated && t.lifecycle.outputAvailability = .failed

def resetAsyncImageArchiveForRetry (retryDeadlineAt now : Int) : Update where
  guard t := t.archiveFailed
  set l := l.rearchive retryDeadlineAt now

variable (now : Int)

def markExpiredAsyncImageTask : Update where
  guard t := t.lifecycle.outputAvailability = .available && 0 < t.lifecycle.outputExpiresAt &&
    t.lifecycle.outputExpiresAt ≤ now
  set l := { l with outputAvailability := .expired }

def Lifecycle.notificationDue (now : Int) : Bool :=
  l.adminNotificationState = .pending ||
    (l.adminNotificationState = .claimed && l.adminNotificationClaimedAt ≤ now - 300)

def claimPendingAsyncImageNotification : Update where
  guard t := t.lifecycle.notificationDue now
  set l := { l with adminNotificationState := .claimed, adminNotificationClaimedAt := now }

def markAsyncImageNotificationSent : Update where
  guard t := t.lifecycle.adminNotificationState = .claimed
  set l := { l with adminNotificationState := .sent }

/-- The updates of task rows; the first seven are those of a lease owner. -/
inductive Statement where
  | claim (owner : String) (now : Int)
  | renew (owner : String)
  | withLease (owner : String)
  | markRunning (owner : String)
  | generationRetry (owner : String) (nextAttemptAt : Int) (errorMessage : String)
  | outputAvailable (owner : String) (expiresAt : Int)
  | archiveRetry (owner : String) (attempts nextAttemptAt : Int) (errorMessage : String)
  | failArchive (owner : String) (attempts : Int) (errorCode errorMessage : String)
  | incident (errorMessage : String)
  | reset (retryDeadlineAt : Int)
  | expired (now : Int)
  | claimNotification
  | notificationSent

def asyncImageLeaseDuration : Int := 300

def Statement.update : Statement → Update
  | .claim owner now => claimRunnableAsyncImageTask owner now (now + asyncImageLeaseDuration)
  | .renew owner => renewAsyncImageTaskLease owner now (now + asyncImageLeaseDuration)
  | .withLease owner => updateAsyncImageTaskWithLease owner
  | .markRunning owner => markAsyncImageTaskRunning owner
  | .generationRetry owner nextAttemptAt message =>
    scheduleAsyncImageGenerationRetry owner nextAttemptAt message
  | .outputAvailable owner expiresAt => markAsyncImageOutputAvailable owner expiresAt now
  | .archiveRetry owner attempts nextAttemptAt message =>
    scheduleAsyncImageArchiveRetry owner attempts nextAttemptAt message
  | .failArchive owner attempts code message => failAsyncImageArchive owner attempts code message now
  | .incident message => markAsyncImageStagingIntegrityIncident message
  | .reset retryDeadlineAt => resetAsyncImageArchiveForRetry retryDeadlineAt now
  | .expired now => markExpiredAsyncImageTask now
  | .claimNotification => claimPendingAsyncImageNotification now
  | .notificationSent => markAsyncImageNotificationSent

structure ObjectUpdate where
  guard : StorageObject → Bool
  status : ObjectStatus → ObjectStatus
  stagingStatus : StagingStatus → StagingStatus := id
  expiresAt : Int → Int := id

def ObjectUpdate.row (u : ObjectUpdate) (o : StorageObject) : StorageObject :=
  { o with
    status := u.status o.status, stagingStatus := u.stagingStatus o.stagingStatus
    expiresAt := u.expiresAt o.expiresAt }

abbrev ObjectID := String × String × Int

def ObjectUpdate.exec (u : ObjectUpdate) (w : Write) (objects : Table StorageObject)
    (id : ObjectID) : Option Bool × Table StorageObject :=
  match w, objects.find? id with
  | .fails, _ => (none, objects)
  | .done, none => (some false, objects)
  | .done, some o => if u.guard o then (some true, objects.put (u.row o)) else (some false, objects)

def markStorageObjectAvailable (expectedStatus : ObjectStatus) (expiresAt : Int) :
    ObjectUpdate where
  guard o := o.status = expectedStatus
  status _ := .available
  expiresAt _ := expiresAt

def markStorageObjectUploading : ObjectUpdate where
  guard o := o.status ≠ .deletePending
  status _ := .uploading

def markStorageObjectFailed : ObjectUpdate where
  guard o := o.status ≠ .deletePending
  status _ := .failed

def markStorageObjectStagingFailed : ObjectUpdate where
  guard _ := true
  status _ := .failed
  stagingStatus _ := .failed

def markStorageObjectStagingAvailable : ObjectUpdate where
  guard o := o.stagingStatus = .failed
  status := id
  stagingStatus _ := .available

def claimExpiredStorageObject : ObjectUpdate where
  guard o := o.status = .available && o.expiresAt ≤ now
  status _ := .deletePending

def markStorageObjectDeleted : ObjectUpdate where
  guard o := o.status = .deletePending
  status _ := .deleted

def markStorageObjectDeleteFailed : ObjectUpdate where
  guard o := o.status = .deletePending
  status := id

def markStagingDeletePending : ObjectUpdate where
  guard o := o.stagingStatus = .available
  status := id
  stagingStatus _ := .deletePending

def markStagingObjectDeleted : ObjectUpdate where
  guard o := o.stagingStatus = .deletePending
  status := id
  stagingStatus _ := .deleted

/-- The updates of storage objects; `owner` is the worker's lease owner. -/
inductive ObjectStatement where
  | available (owner : String) (expectedStatus : ObjectStatus) (expiresAt : Int)
  | uploading (owner : String)
  | failed (owner : String)
  | stagingFailed
  | stagingAvailable
  | claimExpired (now : Int)
  | deleted
  | deleteFailed
  | stagingDeletePending
  | stagingDeleted

def ObjectStatement.update : ObjectStatement → ObjectUpdate
  | .available _ expectedStatus expiresAt => markStorageObjectAvailable expectedStatus expiresAt
  | .uploading _ => markStorageObjectUploading
  | .failed _ => markStorageObjectFailed
  | .stagingFailed => markStorageObjectStagingFailed
  | .stagingAvailable => markStorageObjectStagingAvailable
  | .claimExpired now => claimExpiredStorageObject now
  | .deleted => markStorageObjectDeleted
  | .deleteFailed => markStorageObjectDeleteFailed
  | .stagingDeletePending => markStagingDeletePending
  | .stagingDeleted => markStagingObjectDeleted

def AsyncImageTask.runnable (now : Int) : Bool :=
  t.lifecycle.nextAttemptAt ≤ now && t.lifecycle.leaseFree now &&
    ((t.lifecycle.status.open && t.lifecycle.outputAvailability = .pending &&
        t.billingStatus = .reserved) ||
      (t.generated && t.lifecycle.outputAvailability = .archiving))

section

variable (db : DB)

def runnableAsyncImageTasks (now : Int) (limit : Nat) : List String :=
  ((db.tasks.rows.filter fun t => t.runnable now).map AsyncImageTask.taskID).take (limit * 3)

def listStorageObjects (resourceID : String) : List StorageObject :=
  (db.objects.rows.filter fun o => o.resourceID = resourceID).insertionSort
    fun o o' => o.objectIndex ≤ o'.objectIndex

def listFailedAsyncImageTaskIDs (afterID maxID limit : Nat) : List (Nat × String) :=
  ((db.tasks.rows.zipIdx.filter fun (t, i) =>
    afterID < i + 1 && i + 1 ≤ maxID && t.archiveFailed).map fun (t, i) => (i + 1, t.taskID)).take
      limit

def expiredStorageObjects (businessID : String) (now : Int) (limit : Nat) : List StorageObject :=
  (db.objects.rows.filter fun o => o.businessID = businessID &&
    ((o.status = .available && 0 < o.expiresAt && o.expiresAt ≤ now) ||
      o.status = .deletePending)).take (limit * 2)

def listStagingDeletePending (limit : Nat) : List StorageObject :=
  (db.objects.rows.filter fun o => o.stagingStatus = .deletePending).take limit

def pendingNotifications (now : Int) (limit : Nat) : List String :=
  ((db.tasks.rows.filter fun t => t.lifecycle.notificationDue now).map
    AsyncImageTask.taskID).take (limit * 2)

def listRebindCandidates : List (AsyncImageTask × List StorageObject) :=
  ((db.tasks.rows.filter AsyncImageTask.archiveFailed).map fun t =>
    (t, listStorageObjects db t.taskID)).filter fun (_, objects) => objects.length ≠ 0

def countActiveStorageObjects (businessID : String) : Nat :=
  (db.objects.rows.filter fun o => o.businessID = businessID &&
    (o.status = .uploading || o.status = .available || o.status = .deletePending)).length

end

def StorageObject.rebound (o : StorageObject) (s : StorageSettings) : StorageObject :=
  { o with
    location := { o.location with endpoint := s.endpoint, region := s.region, bucket := s.bucket }
    status := .uploading, expiresAt := 0 }

def StorageObject.rebindable (o : StorageObject) : Bool :=
  o.stagingStatus = .available && (o.status = .failed || o.status = .deleted)

def rebindTask (s : StorageSettings) (retryDeadlineAt now : Int) (db : DB) (taskID : String) :
    Option DB :=
  match db.tasks.find? taskID with
  | none => none
  | some t =>
    let objects := listStorageObjects db taskID
    if t.archiveFailed && objects.length ≠ 0 && objects.all StorageObject.rebindable then
      some { db with
        tasks := db.tasks.put { t with lifecycle := t.lifecycle.rearchive retryDeadlineAt now }
        objects := objects.foldl (fun table o => table.put (o.rebound s)) db.objects }
    else none

def rebindTasks (s : StorageSettings) (retryDeadlineAt now : Int) : List String → DB → Option DB
  | [], db => some db
  | taskID :: rest, db =>
    (rebindTask s retryDeadlineAt now db taskID).bind (rebindTasks s retryDeadlineAt now rest)

inductive Op where
  | observe
  | request (r : Request)
  | submit (s : Submission)
  | runnableTasks (limit : Nat)
  | getTask (taskID : String)
  | update (taskID : String) (s : Statement)
  | refund (owner taskID errorCode errorMessage failureReason : String)
  | settle (s : AsyncImageBillingSettler)
  | executeImageAttempt (owner taskID : String)
  | finish (owner taskID : String)
  | stageImage (userID : Nat) (taskID : String) (index : Nat)
  | readStagedImage (path : StagingPath)
  | deleteStagedImage (path : StagingPath)
  | oldStagedFiles
  | hasStorageObjectForStagingPath (path : StagingPath)
  | listStorageObjects (taskID : String)
  | updateObject (id : ObjectID) (s : ObjectStatement)
  | expiredStorageObjects (limit : Nat)
  | stagingDeletePending (limit : Nat)
  | headObject (loc : Location)
  | putObject (loc : Location) (o : RemoteObject)
  | deleteObject (id : ObjectID) (loc : Location)
  | failedTasks (afterID maxID limit : Nat)
  | pendingNotifications (limit : Nat)
  | rebindCandidates
  | countActive (businessID : String)
  | rebind (s : StorageSettings) (taskIDs : List String)

abbrev Op.Ret : Op → Type
  | .observe => World
  | .runnableTasks _ => Option (String × Int × List String)
  | .getTask _ => Option AsyncImageTask
  | .update _ _ | .updateObject _ _ => Option Bool
  | .settle _ | .readStagedImage _ | .deleteStagedImage _ | .putObject _ _
  | .deleteObject _ _ => Bool
  | .executeImageAttempt _ _ => AttemptReply
  | .stageImage _ _ _ => Except StageErrorKind ManifestItem
  | .oldStagedFiles => List StagingPath
  | .hasStorageObjectForStagingPath _ => Option Bool
  | .listStorageObjects _ | .expiredStorageObjects _ => Option (List StorageObject)
  | .stagingDeletePending _ => List StorageObject
  | .headObject _ => Option (Option RemoteObject)
  | .failedTasks _ _ _ => Option (List (Nat × String))
  | .pendingNotifications _ => List String
  | .rebindCandidates => Option (List (AsyncImageTask × List StorageObject))
  | .countActive _ => Option Nat
  | _ => Unit

def World.read (w : World) {α : Type} (a : α) : Option α :=
  match w.write with
  | .fails => none
  | .done => some a

def Shared.commit (s : Shared) (w : World) (tx : Except Error DB) : Bool × Shared :=
  match w.write, tx with
  | .done, .ok db => (true, { s with db })
  | _, _ => (false, s)

def Shared.record (s : Shared) (taskID : String) : Statement → Shared
  | .claim owner _ => { s with claims := (owner, taskID) :: s.claims }
  | .markRunning owner => { s with generating := (owner, taskID) :: s.generating }
  | _ => s

def Shared.execute (s : Shared) (w : World) (op : RemoteOp) : Bool × Shared :=
  match w.remote with
  | .done => (true, { s with remote := op :: s.remote })
  | .fails => (false, s)
  | .unconfirmed => (false, { s with remote := op :: s.remote })

def World.owner (w : World) : String := w.runnerID ++ ":" ++ w.systemTaskID

def exec : (o : Op) → World → Shared → o.Ret × Shared
  | .observe, w, s => (w, s)
  | .request r, w, s =>
    ((), { s with db := { s.db with accounts := r.apply w.zone s.db.accounts } })
  | .submit sub, w, s => ((), (s.commit w (AsyncImage.submit w.zone w.now s.db sub)).2)
  | .runnableTasks limit, w, s =>
    if w.owner ∈ s.owners then (none, s)
    else
      (w.read (w.owner, w.now, runnableAsyncImageTasks s.db w.now limit),
        { s with owners := w.owner :: s.owners })
  | .getTask taskID, w, s => ((w.read (s.db.tasks.find? taskID)).join, s)
  | .update taskID st, w, s =>
    let (affected, tasks) := (st.update w.now).exec w.write s.db.tasks taskID
    let s := { s with db := { s.db with tasks } }
    (affected, if affected = some true then s.record taskID st else s)
  | .refund _ taskID code message reason, w, s =>
    ((), (s.commit w (refundAsyncImageBilling w.now s.db taskID code message reason)).2)
  | .settle settler, w, s => s.commit w (settler.settle w.now s.db w.actualQuota)
  | .executeImageAttempt owner taskID, w, s =>
    (w.attempt,
      match w.attempt with
      | .executed (some (_ + 1)) => { s with generations := (owner, taskID) :: s.generations }
      | _ => s)
  | .finish owner taskID, _, s =>
    ((), { s with generating := s.generating.filter fun g => g ≠ (owner, taskID) })
  | .stageImage userID taskID index, w, s =>
    match w.stage with
    | .failed kind => (.error kind, s)
    | .staged sourceType sizeBytes mimeType extension sha256 =>
      let path : StagingPath := ⟨userID, w.today, taskID, index⟩
      (.ok ⟨index, sourceType, path, sizeBytes, mimeType, extension, sha256⟩,
        { s with staged := path :: s.staged })
  | .readStagedImage path, w, s => (w.intact && s.staged.contains path, s)
  | .deleteStagedImage path, w, s =>
    match w.write with
    | .fails => (false, s)
    | .done => (true, { s with staged := s.staged.filter fun p => p ≠ path })
  | .oldStagedFiles, w, s => (w.oldFiles.filter fun p => s.staged.contains p, s)
  | .hasStorageObjectForStagingPath path, w, s =>
    (w.read (s.db.objects.rows.any fun o => o.stagingRelativePath = path), s)
  | .listStorageObjects taskID, w, s => (w.read (AsyncImage.listStorageObjects s.db taskID), s)
  | .updateObject id st, w, s =>
    let (affected, objects) := st.update.exec w.write s.db.objects id
    (affected, { s with db := { s.db with objects } })
  | .expiredStorageObjects limit, w, s =>
    (w.read (AsyncImage.expiredStorageObjects s.db w.settings.businessID w.now limit), s)
  | .stagingDeletePending limit, w, s =>
    ((w.read (listStagingDeletePending s.db limit)).getD [], s)
  | .headObject loc, w, s =>
    match w.remote with
    | .done => (some (objectAt s.remote loc), s)
    | _ => (none, s)
  | .putObject loc o, w, s => s.execute w (.put loc { o with lastModified := w.storageNow })
  | .deleteObject _ loc, w, s => s.execute w (.delete loc)
  | .failedTasks afterID maxID limit, w, s =>
    (w.read (listFailedAsyncImageTaskIDs s.db afterID maxID limit), s)
  | .pendingNotifications limit, w, s =>
    ((w.read (AsyncImage.pendingNotifications s.db w.now limit)).getD [], s)
  | .rebindCandidates, w, s => (w.read (listRebindCandidates s.db), s)
  | .countActive businessID, w, s => (w.read (countActiveStorageObjects s.db businessID), s)
  | .rebind settings taskIDs, w, s =>
    match w.write, rebindTasks settings (w.now + settings.archiveRetryWindowSeconds) w.now taskIDs
        s.db with
    | .done, some db => ((), { s with db })
    | _, _ => ((), s)

def machine : Machine Op Op.Ret World Shared := ⟨fun _ => exec, fun _ _ _ => true, fun _ s => s⟩

end ZModel.AsyncImage
