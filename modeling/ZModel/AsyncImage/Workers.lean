import ZModel.AsyncImage.Machine

/-!
# The programs on image tasks

Those of the controllers `async_image_worker.go`, `async_image_admin.go`, `async_image.go` and
`object_storage.go` that write image tasks. The goroutines of a run are jobs of their own.
-/

namespace ZModel.AsyncImage

open Lib

inductive Job where
  | request (r : Request)
  | submit (s : Submission)
  | process
  | worker (owner : String) (t : AsyncImageTask)
  | renew (owner taskID : String)
  | retry (taskIDs : List String)
  | bulkRetry (cursorID maxID : Nat)
  | cleanup
  | getTask (userID : Nat) (taskID : String)
  | updateSettings (candidate : StorageSettings)

abbrev Prog := Program Op Op.Ret Job

abbrev call (o : Op) : Prog o.Ret := Program.call o

open Program (start forEach)

variable (owner : String) (t : AsyncImageTask)

def failArchiveWithAttempts (attempts : Int) (code message : String) : Prog Unit := do
  let _ ← call (.update t.taskID (.failArchive owner attempts code message))

def failArchive (code message : String) : Prog Unit :=
  failArchiveWithAttempts owner t (t.lifecycle.archiveAttempts + 1) code message

def retryDelay : Nat → Int
  | 0 => 15
  | n + 1 => min (retryDelay n * 2) 900

def retryArchive (errorMessage : String) : Prog Unit := do
  let attempts := t.lifecycle.archiveAttempts + 1
  let w ← call .observe
  if t.lifecycle.archiveMaxAttempts ≤ attempts ∨ t.lifecycle.archiveRetryDeadlineAt ≤ w.now then
    failArchiveWithAttempts owner t attempts "archive_upload_failed"
      "generated images could not be uploaded"
  else
    let _ ← call (.update t.taskID (.archiveRetry owner attempts
      (w.now + retryDelay (attempts - 1).toNat) errorMessage))

def headMatches (head : RemoteObject) (o : StorageObject) (t : AsyncImageTask)
    (item : ManifestItem) : Bool :=
  head.contentLength = item.sizeBytes && head.contentType = item.mimeType &&
    head.lastModified ≠ 0 && head.sha256 = item.sha256 && head.businessID = o.businessID &&
    head.resourceID = t.taskID && head.objectIndex = item.index

section

variable (owner : String) (t : AsyncImageTask) (o : StorageObject) (item : ManifestItem)

def uploadObject : Prog Bool := do
  if (← call (.updateObject (key o) (.uploading owner))) ≠ some true then
    pure false
  else if (← call (.putObject o.location
      ⟨item.sizeBytes, item.mimeType, 0, item.sha256, o.businessID, t.taskID, item.index⟩)) = false
  then do
    let _ ← call (.updateObject (key o) (.failed owner))
    retryArchive owner t "upload failed"
    pure false
  else do
    let w ← call .observe
    let marked ← call (.updateObject (key o)
      (.available owner .uploading (w.now + t.lifecycle.retentionSeconds)))
    pure (marked = some true)

def keepOrUpload : Prog Bool := do
  let found ← call (.headObject o.location)
  let w ← call .observe
  match found with
  | some (some head) =>
    let expiresAt := head.lastModified + t.lifecycle.retentionSeconds
    if headMatches head o t item ∧ 0 < head.lastModified ∧ w.now < expiresAt then
      if o.status = .available ∧ o.expiresAt = expiresAt then pure true
      else do
        let marked ← call (.updateObject (key o) (.available owner o.status expiresAt))
        pure (marked = some true)
    else uploadObject owner t o item
  | _ => uploadObject owner t o item

def archiveObject : Prog Bool := do
  if o.status = .deletePending then
    retryArchive owner t "object cleanup is still pending"
    pure false
  else if item.index ≠ o.objectIndex then do
    failArchive owner t "archive_manifest_invalid" "archive object records do not match the manifest"
    pure false
  else if (← call (.readStagedImage item.stagingRelativePath)) = false then do
    let _ ← call (.updateObject (key o) .stagingFailed)
    failArchive owner t "archive_staging_integrity_failed" "staged image is missing or damaged"
    pure false
  else do
    let w ← call .observe
    if w.storageReady = false then do
      retryArchive owner t "storage is not available"
      pure false
    else keepOrUpload owner t o item

end

def archiveObjects (owner : String) (t : AsyncImageTask) :
    List (StorageObject × ManifestItem) → Prog Bool
  | [] => pure true
  | (o, item) :: rest => do
    if ← archiveObject owner t o item then archiveObjects owner t rest else pure false

def cleanupStaging (objects : List StorageObject) : Prog Unit :=
  forEach (fun o =>
    if o.stagingStatus ≠ .available then pure ()
    else do
      if (← call (.updateObject (key o) .stagingDeletePending)) = none then pure ()
      else if (← call (.deleteStagedImage o.stagingRelativePath)) = false then pure ()
      else
        let _ ← call (.updateObject (key o) .stagingDeleted)) objects

def minExpiresAt (objects : List StorageObject) (now : Int) : Option Int :=
  if objects.all fun o => o.status = .available && now < o.expiresAt then
    some ((objects.map StorageObject.expiresAt).foldl
      (fun least e => if least = 0 ∨ e < least then e else least) 0)
  else none

def finishArchive : Prog Unit := do
  match ← call (.listStorageObjects t.taskID) with
  | none => pure ()
  | some objects => do
    let w ← call .observe
    match minExpiresAt objects w.now with
    | none => retryArchive owner t "not all archived images are available"
    | some expiresAt => do
      if (← call (.update t.taskID (.outputAvailable owner expiresAt))) = some true then
        cleanupStaging objects

def archiveAsyncImageTask : Prog Unit := do
  let w ← call .observe
  match w.decodeManifest t.lifecycle.archiveManifest with
  | none | some [] =>
    failArchive owner t "archive_manifest_invalid" "archive manifest is invalid"
  | some manifest => do
    let records ← call (.listStorageObjects t.taskID)
    match records with
    | none =>
      failArchive owner t "archive_manifest_invalid" "archive object records are incomplete"
    | some objects =>
      if objects.length ≠ manifest.length then
        failArchive owner t "archive_manifest_invalid" "archive object records are incomplete"
      else do
        if ← archiveObjects owner t (objects.zip manifest) then finishArchive owner t

def refund (owner : String) (t : AsyncImageTask) (code message reason : String) : Prog Unit :=
  call (.refund owner t.taskID code message reason)

inductive Generation where
  | stopped
  | failed (e : AttemptError)
  | executed (images : Option Nat)

def attempts (owner : String) (t : AsyncImageTask) : Nat → AttemptError → Prog Generation
  | 0, last => pure (.failed last)
  | left + 1, _ => do
    let w ← call .observe
    if w.cancelled then pure .stopped
    else match w.channelError with
      | some e => pure (.failed e)
      | none => do
        if (← call (.update t.taskID (.withLease owner))) ≠ some true then pure .stopped
        else do
          let w ← call .observe
          match w.bodyError with
          | some e => pure (.failed e)
          | none =>
            match ← call (.executeImageAttempt owner t.taskID) with
            | .executed images => pure (.executed images)
            | .failed e retry =>
              if retry then attempts owner t left e else pure (.failed e)

/-- An error comes with the items staged before it. -/
def stageImages (t : AsyncImageTask) :
    Nat → Nat → Prog (Except (StageErrorKind × List ManifestItem) (List ManifestItem))
  | 0, _ => pure (.ok [])
  | left + 1, index => do
    match ← call (.stageImage t.userID t.taskID index) with
    | .error kind => pure (.error (kind, []))
    | .ok item => do
      match ← stageImages t left (index + 1) with
      | .error (kind, staged) => pure (.error (kind, item :: staged))
      | .ok rest => pure (.ok (item :: rest))

def sourceKind (items : List ManifestItem) : String :=
  match (items.map ManifestItem.sourceType).dedup with
  | [] => "none"
  | [kind] => kind
  | _ => "mixed"

def ManifestItem.object (s : StorageSettings) (t : AsyncImageTask) (i : ManifestItem) :
    StorageObject :=
  { businessID := s.businessID, resourceID := t.taskID, objectIndex := i.index, provider := "s3"
    status := .uploading, stagingStatus := .available
    location := ⟨s.endpoint, s.region, s.bucket,
      ⟨s.s3KeyPrefix, s.businessID, t.userID, i.stagingRelativePath.date, t.taskID, i.index,
        i.extension⟩⟩
    expiresAt := 0, stagingRelativePath := i.stagingRelativePath }

def maxImageN : Nat := 128

section

variable (owner : String) (t : AsyncImageTask)

def settleImages (images : Nat) : Prog Unit := do
  match ← stageImages t images 0 with
  | .error (.invalid, _) =>
    refund owner t "invalid_upstream_response" "image provider returned invalid image data"
      "image provider returned invalid image data"
  | .error (kind, staged) =>
    let code :=
      if kind = .sourceFetch then "archive_source_fetch_failed" else "archive_staging_failed"
    let _ ← call (.settle
      { taskID := t.taskID, leaseOwner := owner, sourceKind := sourceKind staged
        archiveErrorCode := code, archiveError := "generated image could not be archived" })
  | .ok manifest => do
    let w ← call .observe
    let settled ← call (.settle
      { taskID := t.taskID, leaseOwner := owner, manifest := marshalManifest manifest
        sourceKind := sourceKind manifest
        objects := manifest.map fun i => i.object w.settings t })
    if settled then
      match ← call (.getTask t.taskID) with
      | none => pure ()
      | some updated => archiveAsyncImageTask owner updated

def closeGeneration (requested : Nat) : Generation → Prog Unit
  | .stopped => pure ()
  | .failed e =>
    refund owner t (if e.code = "" then "image_generation_failed" else e.code)
      "image generation failed" e.reason
  | .executed none =>
    refund owner t "invalid_upstream_response" "image provider returned an invalid response"
      "image provider returned an invalid response"
  | .executed (some images) =>
    if images = 0 ∨ maxImageN < images then
      refund owner t "invalid_upstream_response" "image provider returned an invalid response"
        "image provider returned an invalid response"
    else if requested < images then
      refund owner t "invalid_upstream_response" "image provider returned too many images"
        "image provider returned too many images"
    else settleImages owner t images

def generateAsyncImageTask : Prog Unit := do
  if (← call (.update t.taskID (.markRunning owner))) = some true then
    let w ← call .observe
    match w.preparation with
    | .failed f => refund owner t f.code f.message f.message
    | .ready requested retryTimes => do
      let generation ← attempts owner t (retryTimes + 1) ⟨"", "image generation failed"⟩
      closeGeneration owner t requested generation

def processClaimedAsyncImageTask : Prog Unit := do
  if t.lifecycle.status = .succeeded ∧ t.lifecycle.outputAvailability = .archiving then
    archiveAsyncImageTask owner t
  else
    let w ← call .observe
    if w.stagingReady = false then
      let _ ← call (.update t.taskID
        (.generationRetry owner (w.now + 15) "archive staging is unavailable"))
    else generateAsyncImageTask owner t

end

def asyncImageProcessBatchSize : Nat := 16

def claimTasks (owner : String) (now : Int) :
    Nat → List String → Prog (Option (List AsyncImageTask))
  | 0, _ | _, [] => pure (some [])
  | left + 1, taskID :: rest => do
    match ← call (.update taskID (.claim owner now)) with
    | none => pure none
    | some false => claimTasks owner now (left + 1) rest
    | some true => do
      match ← call (.getTask taskID) with
      | none => pure none
      | some t => do
        match ← claimTasks owner now left rest with
        | none => pure none
        | some claimed => pure (some (t :: claimed))

def startWorkers (owner : String) : List AsyncImageTask → Prog Unit
  | [] => pure ()
  | t :: rest => do
    let w ← call .observe
    if w.cancelled then pure ()
    else do
      start (.worker owner t)
      startWorkers owner rest

def sendPendingNotifications : Prog Unit := do
  let due ← call (.pendingNotifications 20)
  forEach (fun taskID => do
    if (← call (.update taskID .claimNotification)) = some true then
      let _ ← call (.listStorageObjects taskID)
      let _ ← call (.update taskID .notificationSent)) due

def process : Prog Unit := do
  match ← call (.runnableTasks asyncImageProcessBatchSize) with
  | none => pure ()
  | some (owner, now, candidates) => do
    match ← claimTasks owner now asyncImageProcessBatchSize candidates with
    | none => pure ()
    | some claimed => do
      startWorkers owner claimed
      sendPendingNotifications

def validateStaged (taskID : String) : List (StorageObject × ManifestItem) → Prog Bool
  | [] => pure true
  | (o, item) :: rest => do
    if o.objectIndex ≠ item.index then pure false
    else if (← call (.readStagedImage item.stagingRelativePath)) = false then do
      let _ ← call (.updateObject (key o) .stagingFailed)
      let _ ← call (.update taskID (.incident "staged image integrity check failed"))
      pure false
    else do
      if o.stagingStatus = .failed then
        let _ ← call (.updateObject (key o) .stagingAvailable)
      validateStaged taskID rest

def validateAndResetAsyncImageArchive (taskID : String) : Prog Unit := do
  match ← call (.getTask taskID) with
  | none => pure ()
  | some t =>
    if t.archiveFailed = false then pure ()
    else do
      let w ← call .observe
      match w.decodeManifest t.lifecycle.archiveManifest with
      | none | some [] => pure ()
      | some manifest => do
        match ← call (.listStorageObjects taskID) with
        | none => pure ()
        | some objects =>
          if objects.length ≠ manifest.length then pure ()
          else do
            if ← validateStaged taskID (objects.zip manifest) then
              let w ← call .observe
              let _ ← call (.update taskID
                (.reset (w.now + w.settings.archiveRetryWindowSeconds)))

def asyncImageRetryBatchLimit : Nat := 100

def retryAsyncImageTasks (taskIDs : List String) : Prog Unit :=
  if taskIDs.length = 0 ∨ asyncImageRetryBatchLimit < taskIDs.length then pure ()
  else forEach validateAndResetAsyncImageArchive taskIDs.dedup

def bulkRetry (maxID : Nat) : Nat → Nat → Prog Unit
  | 0, _ => pure ()
  | left + 1, cursorID => do
    let w ← call .observe
    if maxID ≤ cursorID ∨ w.cancelled then pure ()
    else do
      match ← call (.failedTasks cursorID maxID 100) with
      | none | some [] => pure ()
      | some (first :: rest) => do
        forEach (fun task => validateAndResetAsyncImageArchive task.2) (first :: rest)
        bulkRetry maxID left ((first :: rest).getLastD first).1

def claimExpired (now : Int) : Nat → List StorageObject → Prog (Option (List StorageObject))
  | 0, _ | _, [] => pure (some [])
  | left + 1, o :: rest => do
    let claimed ← (if o.status = .available then call (.updateObject (key o) (.claimExpired now))
      else pure (some true) : Prog (Option Bool))
    match claimed with
    | none => pure none
    | some false => claimExpired now (left + 1) rest
    | some true => do
      match ← claimExpired now left rest with
      | none => pure none
      | some claimed => pure (some (o :: claimed))

def deleteObjects : List StorageObject → Prog Unit
  | [] => pure ()
  | o :: rest => do
    let w ← call .observe
    if w.cancelled then pure ()
    else do
      let deleted ← (if w.storageReady then call (.deleteObject (key o) o.location)
        else pure false : Prog Bool)
      if deleted then do
        let _ ← call (.updateObject (key o) .deleted)
        let w ← call .observe
        let _ ← call (.update o.resourceID (.expired w.now))
      else
        let _ ← call (.updateObject (key o) .deleteFailed)
      deleteObjects rest

def cleanupStagingFiles : Prog Unit := do
  let waiting ← call (.stagingDeletePending 100)
  forEach (fun o => do
    if ← call (.deleteStagedImage o.stagingRelativePath) then
      let _ ← call (.updateObject (key o) .stagingDeleted)) waiting
  let files ← call .oldStagedFiles
  forEach (fun path => do
    if (← call (.hasStorageObjectForStagingPath path)) = some false then
      let _ ← call (.deleteStagedImage path)) files

def cleanup : Prog Unit := do
  let w ← call .observe
  match ← call (.expiredStorageObjects 100) with
  | none => pure ()
  | some candidates => do
    match ← claimExpired w.now 100 candidates with
    | none => pure ()
    | some objects => do
      deleteObjects objects
      cleanupStagingFiles

def presentObjects (taskID : String) (now : Int) : List StorageObject → Prog Unit
  | [] => pure ()
  | o :: rest => do
    if o.expiresAt ≤ now then
      let _ ← call (.update taskID (.expired now))
    else if o.status ≠ .available then pure ()
    else presentObjects taskID now rest

def getAsyncImageTask (userID : Nat) (taskID : String) : Prog Unit := do
  match ← call (.getTask taskID) with
  | none => pure ()
  | some t =>
    if t.userID ≠ userID then pure ()
    else do
      let w ← call .observe
      if t.lifecycle.outputAvailability ≠ .available then pure ()
      else if 0 < t.lifecycle.outputExpiresAt ∧ t.lifecycle.outputExpiresAt ≤ w.now then
        let _ ← call (.update taskID (.expired w.now))
      else
        match ← call (.listStorageObjects taskID) with
        | none => pure ()
        | some objects => presentObjects taskID w.now objects

def rebindReady : List (StorageObject × ManifestItem) → Prog Bool
  | [] => pure true
  | (o, item) :: rest => do
    if item.index ≠ o.objectIndex ∨ o.rebindable = false then pure false
    else if (← call (.readStagedImage item.stagingRelativePath)) = false then pure false
    else if o.status = .deleted then rebindReady rest
    else do
      match ← call (.headObject o.location) with
      | some none => rebindReady rest
      | _ => pure false

def prepareRebind (w : World) :
    List (AsyncImageTask × List StorageObject) → Prog (Option (List String))
  | [] => pure (some [])
  | (t, objects) :: rest => do
    match w.decodeManifest t.lifecycle.archiveManifest with
    | none => pure none
    | some manifest =>
      if manifest.length ≠ objects.length then pure none
      else if (← rebindReady (objects.zip manifest)) = false then pure none
      else do
        match ← prepareRebind w rest with
        | none => pure none
        | some taskIDs => pure (some (t.taskID :: taskIDs))

def StorageSettings.moved (current candidate : StorageSettings) : Bool :=
  current.endpoint ≠ candidate.endpoint || current.region ≠ candidate.region ||
    current.bucket ≠ candidate.bucket || current.s3KeyPrefix ≠ candidate.s3KeyPrefix ||
    current.businessID ≠ candidate.businessID

def updateObjectStorageSettings (candidate : StorageSettings) : Prog Unit := do
  let w ← call .observe
  if w.settings.moved candidate = false then pure ()
  else if (← call (.countActive w.settings.businessID)) ≠ some 0 then pure ()
  else do
    match ← call .rebindCandidates with
    | none => pure ()
    | some candidates =>
      if (w.settings.s3KeyPrefix ≠ candidate.s3KeyPrefix ∨
          w.settings.businessID ≠ candidate.businessID) ∧ candidates ≠ [] then pure ()
      else do
        match ← prepareRebind w candidates with
        | none => pure ()
        | some taskIDs => do
          let w ← call .observe
          if w.storageReady ∧ taskIDs ≠ [] then call (.rebind candidate taskIDs)

def program : Job → Prog Unit
  | .request r => call (.request r)
  | .submit s => call (.submit s)
  | .process => process
  | .worker owner t => do
    processClaimedAsyncImageTask owner t
    call (.finish owner t.taskID)
  | .renew owner taskID => do
    let _ ← call (.update taskID (.renew owner))
  | .retry taskIDs => retryAsyncImageTasks taskIDs
  | .bulkRetry cursorID maxID => bulkRetry maxID maxID cursorID
  | .cleanup => cleanup
  | .getTask userID taskID => getAsyncImageTask userID taskID
  | .updateSettings candidate => updateObjectStorageSettings candidate

end ZModel.AsyncImage
