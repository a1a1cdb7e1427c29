import ZModel.Video.Machine

/-!
# Archiving, retrying and cleaning

The programs of `controller/video_storage.go`. A program that returns an error in the source returns
`false`.
-/

namespace ZModel.Video

open Lib Store
open AsyncImage (ObjectStatus StagingStatus)

inductive Job where
  | archive (taskID : String)
  | retry (taskID : String)
  | scheduledRetries
  | administratorRetry (taskID : String)
  | cleanup

abbrev Prog := Program Op Op.Ret Job

abbrev call (o : Op) : Prog o.Ret := Program.call o

def archiveDelay : Nat → Int → Int
  | 0, delay => delay
  | n + 1, delay => if delay < 900 then archiveDelay n (min (delay * 2) 900) else delay

variable (o : VideoObject)

def nextVideoArchiveAttemptAt (now : Int) : Int :=
  let attempts := o.archiveAttempts + 1
  if o.archiveMaxAttempts ≤ attempts || o.archiveRetryDeadlineAt ≤ now then 0
  else
    let delay := archiveDelay (attempts - 1).toNat 15
    if o.archiveRetryDeadlineAt ≤ now + delay then 0 else now + delay

def failedFrom (now : Int) : Statement :=
  .failed o.archiveAttempts o.archiveOperationID o.archiveLeaseExpiresAt o.archiveMaxAttempts
    o.archiveRetryDeadlineAt (nextVideoArchiveAttemptAt o now)

def deleteStagedPath : Option String → Prog Bool
  | some path => call (.deleteStagedVideo path)
  | none => return false

def removeStaged (issuer : Option OperationID) (taskID : String) (path : Option String) :
    Prog Unit := do
  let deleted ← deleteStagedPath path
  if deleted then
    let _ : Option Bool ← call (.update taskID (.stagingDeleted issuer))
    return ()
  else return ()

def deleteVideoStagedFile (issuer : Option OperationID) (taskID : String) (path : Option String) :
    Prog Unit := do
  let marked : Option Bool ← call (.update taskID (.stagingDeletePending issuer))
  if marked = some true then removeStaged issuer taskID path else return ()

variable (x : OperationID) (taskID : String)

def stageAgain : Prog (Option VideoStagedFile) := do
  let staged : Option VideoStagedFile ← call (.stageVideo taskID)
  match staged with
  | none => return none
  | some f =>
    let marked : Option Bool ← call (.update taskID (.staged x f))
    if marked = none then return none
    else
      let opened : Bool ← call (.openStagedVideo f)
      if opened then return some f
      else
        let _ : Option Bool ← call (.update taskID (.stagingFailed x))
        return none

def openOrStage (o : VideoObject) : Prog (Option VideoStagedFile) :=
  if o.stagingStatus = .available then do
    let opened : Bool ← call (.openStagedVideo o.staged)
    if opened then return some o.staged
    else
      let _ : Option Bool ← call (.update o.taskID (.stagingFailed x))
      stageAgain x o.taskID
  else stageAgain x o.taskID

def videoObjectHeadMatches (head : RemoteObject) (taskID : String) (f : VideoStagedFile) : Bool :=
  head.contentLength = f.sizeBytes && head.sha256 = f.sha256 && head.resourceID = taskID

def finishArchive (leaseExpiresAt expiresAt : Int) (path : Option String) : Prog Bool := do
  let marked : Option Bool ← call (.update taskID (.available x leaseExpiresAt expiresAt))
  if marked = some true then
    deleteVideoStagedFile (some x) taskID path
    return true
  else return false

section

variable (settings : VideoSettings)

def putVideo (x : OperationID) (taskID : String) (leaseExpiresAt : Int)
    (f : VideoStagedFile) : Prog Bool := do
  let loc := settings.location taskID f.extension
  let put : Option Int ← call (.putObject taskID loc ⟨f.sizeBytes, 0, f.sha256, taskID⟩)
  match put with
  | none => return false
  | some uploadedAt =>
    finishArchive x taskID leaseExpiresAt (uploadedAt + settings.retentionSeconds) f.relativePath

def uploadVideo (x : OperationID) (taskID : String)
    (leaseExpiresAt : Int) (f : VideoStagedFile) : Prog Bool := do
  let loc := settings.location taskID f.extension
  let located : Option Bool ← call (.update taskID (.located x loc f))
  if located = none then return false
  else
    let ready : World ← call .observe
    if ready.storageReady = false then return false
    else
      let head : Option (Option RemoteObject) ← call (.headObject loc)
      match head with
      | some (some stored) =>
        let w : World ← call .observe
        let uploadedAt := if stored.lastModified ≤ 0 then w.now else stored.lastModified
        let expiresAt := uploadedAt + settings.retentionSeconds
        if videoObjectHeadMatches stored taskID f && w.now < expiresAt then
          finishArchive x taskID leaseExpiresAt expiresAt f.relativePath
        else putVideo settings x taskID leaseExpiresAt f
      | _ => putVideo settings x taskID leaseExpiresAt f

variable (o : VideoObject)

def uploadStaged (x : OperationID) : Option VideoStagedFile → Prog Bool
  | none => return false
  | some f => uploadVideo settings x o.taskID o.archiveLeaseExpiresAt f

def runOperation (x : OperationID) : Prog Bool := do
  let staged ← openOrStage x o
  let archived ← uploadStaged settings o x staged
  if archived then return true
  else
    let w : World ← call .observe
    let _ : Option Bool ← call (.update o.taskID (failedFrom o w.now))
    return false

def takeObject : Prog Bool := do
  let id : Option OperationID ← call .newOperation
  match id with
  | none => return false
  | some x =>
    let w : World ← call .observe
    let leaseExpiresAt := w.now + settings.archiveTimeoutSeconds
    if o.status = .uploading ∧ o.archiveOperationID ≠ none then return false
    else
      let marked : Option Bool ← call
        (.update o.taskID (.uploading o.status o.archiveOperationID x leaseExpiresAt))
      if marked = some true then
        runOperation settings
          { o with
            status := .uploading, archiveOperationID := some x
            archiveLeaseExpiresAt := leaseExpiresAt } x
      else return false

def initializeObject : Prog (Option VideoObject) :=
  if o.archiveMaxAttempts = 0 ∨ o.archiveRetryDeadlineAt = 0 then do
    let w : World ← call .observe
    let retryDeadlineAt := w.now + settings.archiveRetryWindowSeconds
    let marked : Option Bool ← call
      (.update o.taskID (.prepare settings.archiveMaxAttempts retryDeadlineAt))
    if marked = some true then
      return some { o with
        archiveMaxAttempts := settings.archiveMaxAttempts, archiveRetryDeadlineAt := retryDeadlineAt }
    else return none
  else return some o

end

def archiveVideoTask : Prog Bool := do
  let w : World ← call .observe
  if w.settings.validate = false then return false
  else
    let found : Option VideoObject ← call (.ensureObject w.settings w.now taskID)
    match found with
    | none => return false
    | some o =>
      let w' : World ← call .observe
      if o.status = .available ∧ w'.now < o.expiresAt then return true
      else
        let initialized ← initializeObject w.settings o
        match initialized with
        | none => return false
        | some o => takeObject w.settings o

def retryVideoStorageArchive : Prog Bool := do
  let object : Option VideoObject ← call (.getObject taskID)
  let w : World ← call .observe
  if w.taskReady && w.settings.validate && w.channelFound then archiveVideoTask taskID
  else
    match object with
    | none => return false
    | some _ =>
      let _ : Option Bool ← call (.update taskID .stop)
      return false

def recoverUploads (now : Int) : List VideoObject → Prog Bool
  | [] => return true
  | o :: rest => do
    let marked : Option Bool ← call (.update o.taskID (failedFrom o now))
    if marked = none then return false else recoverUploads now rest

def retryDueObjects : List VideoObject → Prog Unit
  | [] => return ()
  | o :: rest => do
    let w : World ← call .observe
    if w.cancelled then return ()
    else
      let _ ← retryVideoStorageArchive o.taskID
      retryDueObjects rest

def runScheduledVideoStorageRetries : Prog Unit := do
  let w : World ← call .observe
  let expired : Option (List VideoObject) ← call
    (.expiredUploads w.now (w.now - w.settings.archiveTimeoutSeconds) 10)
  match expired with
  | none => return ()
  | some expired =>
    let recovered ← recoverUploads w.now expired
    if recovered = false then return ()
    else
      let due : Option (List VideoObject) ← call (.dueRetries w.now 10)
      retryDueObjects (due.getD [])

def retryVideoStorageUpload : Prog Unit := do
  let w : World ← call .observe
  if w.taskReady = false ∨ w.settings.validate = false then return ()
  else
    let found : Option VideoObject ← call (.ensureObject w.settings w.now taskID)
    match found with
    | none => return ()
    | some o =>
      if o.status = .deletePending then return ()
      else
        let w' : World ← call .observe
        if w'.activeTask ≠ .absent then return ()
        else
          let retryDeadlineAt := w'.now + w.settings.archiveRetryWindowSeconds
          let marked : Option Bool ← call
            (.update taskID (.reset w.settings.archiveMaxAttempts retryDeadlineAt))
          if marked = some true then
            let queue : World ← call .observe
            if queue.enqueues then return ()
            else
              let _ : Option Bool ← call (.update taskID .objectFailed)
              return ()
          else return ()

def claimExpired (now : Int) : Nat → List VideoObject → Prog (Option (List VideoObject))
  | 0, _ => return some []
  | _, [] => return some []
  | n + 1, o :: rest =>
    if o.status = .available then do
      let claimed : Option Bool ← call (.update o.taskID (.claimExpired now))
      match claimed with
      | none => return none
      | some false => claimExpired now (n + 1) rest
      | some true =>
        let others ← claimExpired now n rest
        return others.map (o :: ·)
    else do
      let others ← claimExpired now n rest
      return others.map (o :: ·)

def deleteClaimed : Prog Unit := do
  let ready : World ← call .observe
  if ready.storageReady then
    let deleted : Bool ← call (.deleteObject o.location)
    let _ : Option Bool ← call (.update o.taskID (if deleted then .deleted else .deleteFailed))
    return ()
  else
    let _ : Option Bool ← call (.update o.taskID .deleteFailed)
    return ()

def deleteAllClaimed : List VideoObject → Prog Unit
  | [] => return ()
  | o :: rest => do
    let w : World ← call .observe
    if w.cancelled then return ()
    else
      deleteClaimed o
      deleteAllClaimed rest

def cleanStaged : Prog Unit :=
  if o.stagingStatus = .available then
    deleteVideoStagedFile none o.taskID o.stagingRelativePath
  else removeStaged none o.taskID o.stagingRelativePath

def cleanupOrphans : Nat → List String → Prog Unit
  | 0, _ => return ()
  | _, [] => return ()
  | n + 1, path :: rest => do
    let referenced : Option Bool ← call (.hasStagingReference path)
    match referenced with
    | none => return ()
    | some true => cleanupOrphans (n + 1) rest
    | some false =>
      let deleted : Bool ← call (.deleteStagedVideo path)
      if deleted then cleanupOrphans n rest else return ()

def cleanupStaging : Prog Unit := do
  let candidates : List VideoObject ← call (.stagingCandidates 100)
  Program.forEach cleanStaged candidates
  let files : List String ← call .oldFiles
  cleanupOrphans 100 (files.take 2000)

def runCleanup : Prog Unit := do
  let expired : Option (Int × List VideoObject) ← call (.expiredObjects 100)
  match expired with
  | none => return ()
  | some (now, candidates) =>
    let claimed ← claimExpired now 100 candidates
    match claimed with
    | none => return ()
    | some claimed =>
      deleteAllClaimed claimed
      cleanupStaging

def program : Job → Prog Unit
  | .archive taskID => do let _ ← archiveVideoTask taskID
  | .retry taskID => do let _ ← retryVideoStorageArchive taskID
  | .scheduledRetries => runScheduledVideoStorageRetries
  | .administratorRetry taskID => retryVideoStorageUpload taskID
  | .cleanup => runCleanup

end ZModel.Video
