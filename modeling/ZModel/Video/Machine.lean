import ZModel.Video.Object

/-!
# The store of the video archiver

Object rows, the staging directory and the object storage; every operation meets a `World` of its
own. Staging replaces a file in one step (temporary files are not modelled).
-/

namespace ZModel.Video

open Lib Store
open AsyncImage (ObjectStatus StagingStatus RemoteOutcome)

/-- What the archiver uses of `VideoSettings`. `otherwiseValid` stands for the checks of the other
fields. -/
structure VideoSettings where
  endpoint : String := ""
  region : String := "region"
  bucket : String := "bucket"
  s3KeyPrefix : String := "prod"
  retentionSeconds : Int := 86400
  archiveTimeoutSeconds : Int := 300
  archiveMaxAttempts : Int := 8
  archiveRetryWindowSeconds : Int := 21600
  otherwiseValid : Bool := true

def VideoSettings.validate (s : VideoSettings) : Bool :=
  s.otherwiseValid && s.region ≠ "" && s.bucket ≠ "" &&
    (60 ≤ s.retentionSeconds && s.retentionSeconds ≤ 31536000) &&
    (1 ≤ s.archiveTimeoutSeconds && s.archiveTimeoutSeconds ≤ 1200) &&
    (1 ≤ s.archiveMaxAttempts && s.archiveMaxAttempts ≤ 100) &&
    (60 ≤ s.archiveRetryWindowSeconds && s.archiveRetryWindowSeconds ≤ 604800) &&
    s.archiveTimeoutSeconds ≤ s.archiveRetryWindowSeconds

def VideoSettings.location (s : VideoSettings) (taskID extension : String) : Location :=
  ⟨s.endpoint, s.region, s.bucket, s.s3KeyPrefix, taskID, extension⟩

def newVideoObject (settings : VideoSettings) (now : Int) (taskID : String) : VideoObject where
  taskID := taskID
  location := settings.location taskID "mp4"
  archiveMaxAttempts := settings.archiveMaxAttempts
  archiveRetryDeadlineAt := now + settings.archiveRetryWindowSeconds
  updatedAt := now

structure VideoSource where
  sizeBytes : Int := 1
  mimeType : String := "video/mp4"
  extension : String := "mp4"
  sha256 : String := "sha"

inductive ActiveTask where
  | unknown
  | active
  | absent
  deriving DecidableEq

/-- The outside at one moment. `write` is the outcome of the statement that meets it. -/
structure World where
  now : Int := 0
  write : Write := .done
  cancelled : Bool := false
  settings : VideoSettings := {}
  taskReady : Bool := true
  channelFound : Bool := true
  randomReady : Bool := true
  source : Option VideoSource := some {}
  readable : Bool := true
  storageReady : Bool := true
  storageNow : Int := 0
  remote : RemoteOutcome := .done
  activeTask : ActiveTask := .absent
  enqueues : Bool := true
  oldFiles : List String := []

def World.read (w : World) {α : Type} (a : α) : Option α :=
  match w.write with
  | .fails => none
  | .done => some a

structure File where
  sizeBytes : Int
  sha256 : String
  deriving DecidableEq

structure RemoteObject where
  contentLength : Int
  lastModified : Int
  sha256 : String
  resourceID : String

structure Shared where
  objects : Table VideoObject := Table.empty
  files : String → Option File := fun _ => none
  stored : Location → Option RemoteObject := fun _ => none
  operations : Nat := 0

inductive Op where
  | observe
  | ensureObject (settings : VideoSettings) (now : Int) (taskID : String)
  | getObject (taskID : String)
  | newOperation
  | update (taskID : String) (st : Statement)
  | stageVideo (taskID : String)
  | openStagedVideo (f : VideoStagedFile)
  | deleteStagedVideo (path : String)
  | headObject (loc : Location)
  | putObject (taskID : String) (loc : Location) (o : RemoteObject)
  | deleteObject (loc : Location)
  | expiredUploads (now legacyStaleBefore : Int) (limit : Nat)
  | dueRetries (now : Int) (limit : Nat)
  | expiredObjects (limit : Nat)
  | stagingCandidates (limit : Nat)
  | oldFiles
  | hasStagingReference (path : String)

abbrev Op.Ret : Op → Type
  | .observe => World
  | .ensureObject _ _ _ | .getObject _ => Option VideoObject
  | .newOperation => Option OperationID
  | .update _ _ => Option Bool
  | .stageVideo _ => Option VideoStagedFile
  | .openStagedVideo _ | .deleteStagedVideo _ | .deleteObject _ => Bool
  | .putObject _ _ _ => Option Int
  | .headObject _ => Option (Option RemoteObject)
  | .expiredUploads _ _ _ | .dueRetries _ _ => Option (List VideoObject)
  | .expiredObjects _ => Option (Int × List VideoObject)
  | .stagingCandidates _ => List VideoObject
  | .oldFiles => List String
  | .hasStagingReference _ => Option Bool

def getOrCreateStorageObject (w : World) (objects : Table VideoObject) (o : VideoObject) :
    Option VideoObject × Table VideoObject :=
  match w.write, objects.find? o.taskID with
  | .fails, _ => (none, objects)
  | .done, some old => (some old, objects)
  | .done, none =>
    match objects.create o with
    | some objects => (some o, objects)
    | none => (none, objects)

def executes : RemoteOutcome → Bool
  | .fails => false
  | .done | .unconfirmed => true

def exec : (o : Op) → World → Shared → o.Ret × Shared
  | .observe, w, s => (w, s)
  | .ensureObject settings now taskID, w, s =>
    let (found, objects) := getOrCreateStorageObject w s.objects (newVideoObject settings now taskID)
    (found, { s with objects })
  | .getObject taskID, w, s => ((w.read (s.objects.find? taskID)).join, s)
  | .newOperation, w, s =>
    if w.randomReady then (some s.operations, { s with operations := s.operations + 1 })
    else (none, s)
  | .update taskID st, w, s =>
    let (affected, objects) := st.exec w.write w.now s.objects taskID
    (affected, { s with objects })
  | .stageVideo taskID, w, s =>
    match w.source with
    | none => (none, s)
    | some v =>
      (some ⟨some taskID, v.sizeBytes, v.mimeType, v.extension, v.sha256⟩,
        { s with files := Function.update s.files taskID (some ⟨v.sizeBytes, v.sha256⟩) })
  | .openStagedVideo f, w, s =>
    (w.readable && decide (f.relativePath.bind s.files = some ⟨f.sizeBytes, f.sha256⟩), s)
  | .deleteStagedVideo path, w, s =>
    match w.write with
    | .fails => (false, s)
    | .done => (true, { s with files := Function.update s.files path none })
  | .headObject loc, w, s =>
    match w.remote with
    | .done => (some (s.stored loc), s)
    | _ => (none, s)
  | .putObject _ loc o, w, s =>
    (if w.remote = .done then some w.now else none,
      if executes w.remote then
        { s with
          stored := Function.update s.stored loc (some { o with lastModified := w.storageNow }) }
      else s)
  | .deleteObject loc, w, s =>
    (decide (w.remote = .done),
      if executes w.remote then { s with stored := Function.update s.stored loc none } else s)
  | .expiredUploads now legacyStaleBefore limit, w, s =>
    (w.read (listExpiredVideoStorageArchiveUploads s.objects now legacyStaleBefore limit), s)
  | .dueRetries now limit, w, s =>
    (w.read (listDueVideoStorageArchiveRetries s.objects now limit), s)
  | .expiredObjects limit, w, s =>
    (w.read (w.now, expiredStorageObjects s.objects w.now limit), s)
  | .stagingCandidates limit, w, s =>
    ((w.read (listVideoStorageStagingCleanupCandidates s.objects limit)).getD [], s)
  | .oldFiles, w, s => (w.oldFiles.filter fun p => (s.files p).isSome, s)
  | .hasStagingReference path, w, s =>
    (w.read (hasVideoStorageStagingReference s.objects path), s)

def machine : Machine Op Op.Ret World Shared := ⟨fun _ => exec, fun _ _ _ => true, fun _ s => s⟩

inductive RowStep (o : Op) (w : World) (taskID : String) :
    Option VideoObject → Option VideoObject → Prop where
  | stay (row : Option VideoObject) : RowStep o w taskID row row
  | create (settings : VideoSettings) (now : Int) (ho : o = .ensureObject settings now taskID) :
      RowStep o w taskID none (some (newVideoObject settings now taskID))
  | write (st : Statement) (row : VideoObject) (ho : o = .update taskID st)
      (hw : w.write = .done) : RowStep o w taskID (some row) (some (st.after w.now row))

section Rows

variable {w : World} {s : Shared} {taskID : String}

theorem exec_update_row {o : VideoObject} (st : Statement) (hw : w.write = .done)
    (ho : s.objects.find? taskID = some o) :
    (exec (.update taskID st) w s).2.objects.find? taskID = some (st.after w.now o) := by
  show (st.exec w.write w.now s.objects taskID).2.find? taskID = _
  rw [hw, Statement.find?_exec_done, if_pos rfl, ho, Option.map_some]

theorem exec_update_step (st : Statement) (id : String) :
    RowStep (.update id st) w taskID (s.objects.find? taskID)
      ((exec (.update id st) w s).2.objects.find? taskID) := by
  show RowStep _ _ _ _ ((st.exec w.write w.now s.objects id).2.find? taskID)
  cases hw : w.write with
  | fails => exact .stay _
  | done =>
    rw [Statement.find?_exec_done]
    split
    next hid =>
      subst hid
      cases s.objects.find? taskID with
      | none => exact .stay none
      | some o => exact .write st o rfl hw
    · exact .stay _

theorem exec_ensureObject_step (settings : VideoSettings) (now : Int) (id : String) :
    RowStep (.ensureObject settings now id) w taskID (s.objects.find? taskID)
      ((exec (.ensureObject settings now id) w s).2.objects.find? taskID) := by
  show RowStep _ _ _ _
    ((getOrCreateStorageObject w s.objects (newVideoObject settings now id)).2.find? taskID)
  unfold getOrCreateStorageObject
  split
  · exact .stay _
  · exact .stay _
  rename_i hnone
  split
  next objects hcreate =>
    rw [Table.find?_create hcreate]
    split
    next hid =>
      obtain rfl : taskID = id := hid
      rw [show s.objects.find? taskID = none from hnone]
      exact .create settings now rfl
    · exact .stay _
  · exact .stay _

theorem exec_row (o : Op) (w : World) (s : Shared) (taskID : String) :
    RowStep o w taskID (s.objects.find? taskID) ((exec o w s).2.objects.find? taskID) := by
  cases o with
  | ensureObject settings now id => exact exec_ensureObject_step settings now id
  | update id st => exact exec_update_step st id
  | newOperation | stageVideo _ | deleteStagedVideo _ | headObject _ | putObject _ _ _
  | deleteObject _ =>
    -- these leave the rows alone, whatever the outside decides
    dsimp only [exec]
    split <;> exact .stay _
  | _ => exact .stay _

theorem exec_row_cases {op : Op} {o' : VideoObject}
    (h : (exec op w s).2.objects.find? taskID = some o') :
    s.objects.find? taskID = some o' ∨ (∃ settings now, op = .ensureObject settings now taskID ∧
        o' = newVideoObject settings now taskID) ∨
      ∃ st o, op = .update taskID st ∧ w.write = .done ∧ s.objects.find? taskID = some o ∧
        o' = st.after w.now o := by
  have hrow := exec_row op w s taskID
  rw [h] at hrow
  cases ho : s.objects.find? taskID with
  | none =>
    rw [ho] at hrow
    cases hrow with
    | create settings now hop => exact .inr (.inl ⟨settings, now, hop, rfl⟩)
  | some o =>
    rw [ho] at hrow
    cases hrow with
    | stay => exact .inl rfl
    | write st _ hop hw => exact .inr (.inr ⟨st, o, hop, hw, rfl, rfl⟩)

end Rows

end ZModel.Video
