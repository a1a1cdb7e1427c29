import ZModel.Lib.Text
import ZModel.Tasks.Machine

/-!
# The polling service and the realtime fetch

`RunTaskPollingOnce` of `service/task_polling.go` and `tryRealtimeFetch` of `relay/relay_task.go`. A
task in the memory of a pass is changed in place, so the programs return it.
-/

namespace ZModel.Tasks

open Lib Store Common

abbrev TaskMap := List (String × Task)

def TaskMap.get (m : TaskMap) (id : String) : Option Task :=
  (m.find? fun e => e.1 = id).map Prod.snd

def TaskMap.set (m : TaskMap) (id : String) (t : Task) : TaskMap :=
  m.map fun e => if e.1 = id then (id, t) else e

inductive Job where
  | poll
  | channel (platform : Platform) (channelId : Nat) (ids : List String) (taskM : TaskMap)
  | realtimeFetch (userId : Nat) (taskID : String)

abbrev Prog := Program Op Op.Ret Job

abbrev call (o : Op) : Prog o.Ret := Program.call o

def refundTaskQuota (kind : BillKind) (t : Task) : Prog Unit :=
  if t.quota = 0 then pure ()
  else do
    let returned : Bool ← call (.taskAdjustFunding kind t (-t.quota))
    if returned then call (.taskAdjustTokenQuota t (-t.quota)) else pure ()

def recalculateTaskQuota (t : Task) (actualQuota : Int) : Prog Task :=
  let delta := actualQuota - t.quota
  if delta = 0 then do
    call (.updateQuotaAndPrivateData t true)
    return t
  else do
    let adjusted : Bool ← call (.taskAdjustFunding .settlement t delta)
    if adjusted then do
      call (.taskAdjustTokenQuota t delta)
      call (.updateQuotaAndPrivateData { t with quota := actualQuota } false)
      return { t with quota := actualQuota }
    else return t

def taskModelName (t : Task) : String :=
  match t.privateData.billingContext with
  | some bc => if bc.originModelName ≠ "" then bc.originModelName else t.originModelName
  | none => t.originModelName

section

variable (w : World) (t : Task)

/-- The float64 product is read as an exact rational. -/
def quotaByTokens (totalTokens : Int) : Option Int :=
  match w.modelRatio (taskModelName t) with
  | none => none
  | some ratio =>
    let group := if t.group ≠ "" then t.group else (w.userGroup t.userId).getD ""
    if ratio ≤ 0 || group = "" then none
    else
      let groupRatio := (w.groupGroupRatio group).getD (w.groupRatio group)
      let multiplier := match t.privateData.billingContext with
        | some bc => bc.otherRatios.multiplier
        | none => 1
      let quota := (quotaFromFloatChecked (totalTokens * ratio * groupRatio * multiplier)).1
      if quota ≤ 0 then none else some quota

variable (info : TaskInfo)

def settlementQuota : Option Int :=
  match t.privateData.billingContext with
  | some { tieredExpr := true, .. } =>
    match w.tieredQuota t info with
    | none => none
    | some quota => if quota < 0 then none else some quota
  | some { perCallBilling := true, .. } => none
  | _ =>
    if 0 < w.adjustBillingOnComplete t info then some (w.adjustBillingOnComplete t info)
    else if 0 < info.totalTokens then quotaByTokens w t info.totalTokens
    else none

def Task.withActualQuota : Task :=
  match t.privateData.billingContext with
  | some ⟨groupRatio, ratios, model, perCall, true, old⟩ =>
    { t with
      privateData := { t.privateData with
        billingContext := some
          ⟨groupRatio, ratios, model, perCall, true, (w.tieredQuota t info).or old⟩ } }
  | _ => t

def settleTaskBillingOnComplete : Prog Task :=
  match settlementQuota w t info with
  | none => pure (t.withActualQuota w info)
  | some quota => recalculateTaskQuota (t.withActualQuota w info) quota

end

/-- Tasks submitted before this time are not refunded by the sweep. -/
def legacyTaskCutoff : Int := 1740182400

def Task.isLegacy (t : Task) : Bool := 0 < t.submitTime && t.submitTime < legacyTaskCutoff

variable (w : World)

def Task.timedOut (t : Task) : Task :=
  { t with
    status := .failure, progress := "100%", finishTime := w.now
    failReason :=
      if t.isLegacy then "任务超时（旧系统遗留任务，不进行退款，请联系管理员）"
      else "任务超时（" ++ toString w.taskTimeoutMinutes ++ "分钟）" }

def sweepTask (t : Task) : Prog Unit := do
  let won : Option Bool ← call (.updateWithStatus (t.timedOut w) t.status none)
  if won = some true ∧ t.isLegacy = false ∧ t.quota ≠ 0 then refundTaskQuota .refund (t.timedOut w)
  else pure ()

def sweepTimedOutTasks : Prog Unit := do
  let w : World ← call .observe
  if w.taskTimeoutMinutes ≤ 0 then pure ()
  else do
    let tasks : List Task ←
      call (.getTimedOutUnfinishedTasks (w.now - w.taskTimeoutMinutes * 60) 100)
    let w : World ← call .observe
    Program.forEach (sweepTask w) tasks

def Task.preparationFailed (t : Task) (publicReason : String) : Task :=
  { t with status := .failure, progress := "100%", failReason := publicReason, finishTime := w.now }

def failPreparingVideoTask (t : Task) (publicReason : String) : Prog Unit := do
  let won : Option Bool ←
    call (.updateWithStatus (t.preparationFailed w publicReason) .preparing none)
  if won = some true then refundTaskQuota .refund (t.preparationFailed w publicReason) else pure ()

def Task.activated (t : Task) (upstreamTaskID taskData : String) : Task :=
  { t with
    privateData := { t.privateData with upstreamTaskID, videoPreparation := none }
    data := taskData, status := .queued, progress := "20%"
    startTime := if t.startTime = 0 then w.now else t.startTime }

def updatePreparingVideoTask (t : Task) : Prog Unit :=
  if t.status ≠ .preparing then pure ()
  else do
    let w : World ← call .observe
    if w.channelType t.channelId = none then
      failPreparingVideoTask w t "video input preparation failed"
    else if w.canPrepare t.platform = false then
      failPreparingVideoTask w t "video input preparation is unavailable"
    else match w.prepare t with
      | .failed message =>
        failPreparingVideoTask w t (if message = "" then "video input preparation failed"
          else "video input preparation failed: " ++ message)
      | .waiting preparation =>
        call (.updatePrivateDataWithStatus
          { t with privateData := { t.privateData with videoPreparation := preparation } }
          .preparing)
      | .submitted upstreamTaskID taskData =>
        if isBlank upstreamTaskID then
          failPreparingVideoTask w t "video generation submission failed"
        else do
          let _won : Option Bool ←
            call (.updateWithStatus (t.activated w upstreamTaskID taskData) .preparing none)
          return

def updatePreparingVideoTasks : List Task → Prog Unit
  | [] => pure ()
  | t :: tasks => do
    let w : World ← call .observe
    if w.cancelled then pure ()
    else do
      updatePreparingVideoTask t
      updatePreparingVideoTasks tasks

def TaskInfo.resolve (info : TaskInfo) : Option TaskInfo :=
  if info.status ≠ .empty then some info
  else match info.errorBody with
    | .unparsable => some info
    | .rateLimited => none
    | .openaiError => some { status := .failure, reason := "upstream returned error" }
    | .unrecognized =>
      some { status := .failure, reason := "upstream returned unrecognized message" }

def resultURL (channelType : Nat) (t : Task) (info : TaskInfo) : String :=
  if channelType = 1 ∨ channelType = 55 then ""
  else if "data:".isPrefixOf info.url then w.proxyURL t.taskID
  else if info.url ≠ "" then info.url
  else w.proxyURL t.taskID

def Task.applyTaskInfo (channelType : Nat) (t : Task) (info : TaskInfo) : Bool × Task :=
  let t := { t with status := info.status }
  let reported := fun (progress : String) => if info.progress ≠ "" then info.progress else progress
  match info.status with
  | .submitted => (true, { t with progress := reported "10%" })
  | .queued => (true, { t with progress := reported "20%" })
  | .inProgress => (true, { t with
      progress := reported "30%", startTime := if t.startTime = 0 then w.now else t.startTime })
  | .success => (true, { t with
      progress := "100%", finishTime := if t.finishTime = 0 then w.now else t.finishTime
      privateData := { t.privateData with resultURL := resultURL w channelType t info } })
  | .failure => (true, { t with
      progress := "100%", finishTime := if t.finishTime = 0 then w.now else t.finishTime
      failReason := info.reason })
  | _ => (false, t)

def billFinished (t : Task) (info : TaskInfo) : Prog Task :=
  if t.status = .success then settleTaskBillingOnComplete w t info
  else if t.status = .failure ∧ t.quota ≠ 0 then do
    refundTaskQuota .refund t
    return t
  else return t

def storeTaskInfo (q : Query) (old t : Task) (info : TaskInfo) : Prog Task :=
  if t.status.finished = true ∧ old.status ≠ t.status then do
    let won : Option Bool ← call (.updateWithStatus t old.status (some q))
    if won = some true then billFinished w t info else return t
  else if old.snapshot ≠ t.snapshot then do
    let _won : Option Bool ← call (.updateWithStatus t old.status (some q))
    billFinished w t info
  else billFinished w t info

def updateVideoSingleTask (channelId channelType : Nat) (t : Task) : Prog Task := do
  let w : World ← call .observe
  if w.cancelled then return t
  else do
    let q : Query := ⟨channelId, [t.id]⟩
    let reply : FetchReply ← call (.fetchTask q t)
    match reply with
    | .requestError recorded =>
      if recorded then do
        call (.updatePrivateDataWithStatus t t.status)
        return t
      else return t
    | .unreadable => do
      call (.updatePrivateDataWithStatus t t.status)
      return t
    | .parsed info data =>
      let fetched := { t with data }
      match info.resolve with
      | none => do
        call (.updatePrivateDataWithStatus fetched t.status)
        return fetched
      | some info =>
        match fetched.applyTaskInfo w channelType info with
        | (false, t') => return t'
        | (true, t') => storeTaskInfo w q t t' info

def pollVideoTasks (channelId channelType : Nat) : List String → TaskMap → Prog Unit
  | [], _ => pure ()
  | id :: ids, m => do
    let w : World ← call .observe
    if w.cancelled then pure ()
    else match m.get id with
      | none => pollVideoTasks channelId channelType ids m
      | some t => do
        let t' ← updateVideoSingleTask channelId channelType t
        pollVideoTasks channelId channelType ids (m.set id t')

def TaskMap.keys (m : TaskMap) (ids : List String) : List Nat :=
  ids.filterMap fun id => (m.get id).map Task.id

def updateVideoTasks (platform : Platform) (channelId : Nat) (ids : List String) (m : TaskMap) :
    Prog Unit := do
  let w : World ← call .observe
  if w.cancelled || ids.isEmpty then pure ()
  else match w.channelType channelId with
    | none => call (.taskBulkUpdateByID (m.keys ids)
        ("Failed to get channel info, channel ID: " ++ toString channelId))
    | some channelType =>
      if w.hasAdaptor platform then pollVideoTasks channelId channelType ids m else pure ()

def sortedData (data : String) : List Nat :=
  (data.toUTF8.toList.map UInt8.toNat).insertionSort (· ≤ ·)

section

variable (t : Task) (item : SunoItem)

def taskNeedsUpdate : Bool :=
  t.submitTime ≠ item.submitTime || t.startTime ≠ item.startTime ||
    t.finishTime ≠ item.finishTime || t.status ≠ item.status || t.failReason ≠ item.failReason ||
    (t.status.finished && t.progress ≠ "100%") || sortedData t.data ≠ sortedData item.data

def Task.withSunoItem : Task :=
  { t with
    status := if item.status ≠ .empty then item.status else t.status
    failReason := if item.failReason ≠ "" then item.failReason else t.failReason
    submitTime := if item.submitTime ≠ 0 then item.submitTime else t.submitTime
    startTime := if item.startTime ≠ 0 then item.startTime else t.startTime
    finishTime := if item.finishTime ≠ 0 then item.finishTime else t.finishTime }

def sunoFailed : Bool :=
  item.failReason ≠ "" || (t.withSunoItem item).status = .failure

def Task.sunoResult : Task :=
  { t.withSunoItem item with
    progress := if sunoFailed t item || item.status = .success then "100%" else t.progress
    data := item.data }

end

/-- The body of the loop of `updateSunoTasks`: refunded before it is saved. -/
def applySunoItem (q : Query) (t : Task) (item : SunoItem) : Prog Task := do
  if sunoFailed t item then
    refundTaskQuota .sunoRefund { t.withSunoItem item with progress := "100%" }
  else pure ()
  call (.update (t.sunoResult item) q item.taskID)
  return t.sunoResult item

def applySunoItems (q : Query) : List SunoItem → TaskMap → Prog TaskMap
  | [], m => pure m
  | item :: items, m => do
    let w : World ← call .observe
    if w.cancelled then return m
    else match m.get item.taskID with
      | none => applySunoItems q items m
      | some t =>
        if taskNeedsUpdate t item then do
          let t' ← applySunoItem q t item
          applySunoItems q items (m.set item.taskID t')
        else applySunoItems q items m

def updateSunoTasks (channelId : Nat) (ids : List String) (m : TaskMap) : Prog TaskMap := do
  let w : World ← call .observe
  if w.cancelled || ids.isEmpty then return m
  else if w.channelType channelId = none then do
    call (.taskBulkUpdateByID (m.keys ids)
      ("获取渠道信息失败，请联系管理员，渠道ID：" ++ toString channelId))
    return m
  else if w.hasAdaptor .suno = false then return m
  else do
    let reply : Option (List SunoItem) ← call (.fetchSuno ⟨channelId, m.keys ids⟩ ids)
    match reply with
    | none => return m
    | some items => applySunoItems ⟨channelId, m.keys ids⟩ items m

variable (tasks : List Task)

def named : List Task := tasks.filter fun t => t.getUpstreamTaskID ≠ ""

/-- `taskM` of a platform: a later task with the same upstream id wins. -/
def buildTaskM : TaskMap :=
  (named tasks).reverse.map fun t => (t.getUpstreamTaskID, t)

def channelTasks (channelId : Nat) : List Task :=
  (named tasks).filter fun t => t.channelId = channelId

def channelsOf : List Nat := ((named tasks).map Task.channelId).dedup

def updateSunoChannels (tasks : List Task) : List Nat → TaskMap → Prog Unit
  | [], _ => pure ()
  | channelId :: channels, m => do
    let w : World ← call .observe
    if w.cancelled then pure ()
    else do
      let m ← updateSunoTasks channelId
        ((channelTasks tasks channelId).map Task.getUpstreamTaskID) m
      updateSunoChannels tasks channels m

section

variable (platform : Platform) (tasks : List Task)

def forkVideoChannels (channels : List Nat) : Prog Unit :=
  Program.forEach (fun channelId => Program.start (.channel platform channelId
    ((channelTasks tasks channelId).map Task.getUpstreamTaskID) (buildTaskM tasks))) channels

def dispatchPlatformUpdate : Prog Unit :=
  match platform with
  | .midjourney => pure ()
  | .suno => do
    let w : World ← call .observe
    updateSunoChannels tasks
      ((channelsOf tasks).insertionSort fun c d => w.channelRank c ≤ w.channelRank d)
      (buildTaskM tasks)
  | .video _ =>
    forkVideoChannels platform tasks ((channelsOf tasks).insertionSort fun c d => c ≤ d)

def pollPlatform : Prog Unit := do
  let nullTaskIds := (tasks.filter fun t => t.getUpstreamTaskID = "").map Task.id
  if nullTaskIds.isEmpty then pure () else call (.taskBulkUpdateByID nullTaskIds none)
  dispatchPlatformUpdate platform tasks

end

def pollPlatforms (tasks : List Task) : List Platform → Prog Unit
  | [] => pure ()
  | platform :: platforms => do
    let w : World ← call .observe
    if w.cancelled then pure ()
    else do
      pollPlatform platform (tasks.filter fun t => t.platform = platform)
      pollPlatforms tasks platforms

def preparingVideoTaskLimitPerPass : Nat := 10

def runTaskPollingOnce : Prog Unit := do
  sweepTimedOutTasks
  let preparingTasks : List Task ← call (.getPreparingVideoTasks preparingVideoTaskLimitPerPass)
  let allTasks : List Task ← call .getAllUnFinishSyncTasks
  updatePreparingVideoTasks preparingTasks
  let w : World ← call .observe
  pollPlatforms allTasks ((allTasks.map Task.platform).dedup.insertionSort fun p r =>
    w.platformRank p ≤ w.platformRank r)

def Task.applyRealtime (t : Task) (info : TaskInfo) : Task :=
  let status := if info.status ≠ .empty then info.status else t.status
  { t with
    status := status
    progress :=
      if status.finished then "100%" else if info.progress ≠ "" then info.progress else t.progress
    privateData := { t.privateData with
      resultURL :=
        if "data:".isPrefixOf info.url then t.privateData.resultURL
        else if info.url ≠ "" then info.url
        else if status = .success then w.proxyURL t.taskID
        else t.privateData.resultURL } }

def tryRealtimeFetch (t : Task) : Prog Unit := do
  let w : World ← call .observe
  match w.channelType t.channelId with
  | none => pure ()
  | some channelType =>
    if (channelType ≠ 41 ∧ channelType ≠ 24) ∨ w.hasAdaptor (.video channelType) = false then
      pure ()
    else do
      let reply : FetchReply ← call (.fetchRealtime t)
      match reply with
      | .requestError recorded =>
        if recorded then call (.updatePrivateDataWithStatus t t.status) else pure ()
      | .unreadable => call (.updatePrivateDataWithStatus t t.status)
      | .parsed info _ =>
        if t.snapshot ≠ (t.applyRealtime w info).snapshot then do
          let _won : Option Bool ←
            call (.updateWithStatus (t.applyRealtime w info) t.status none)
          return
        else pure ()

def videoFetchByID (userId : Nat) (taskID : String) : Prog Unit := do
  let found : Option Task ← call (.getByTaskId userId taskID)
  match found with
  | none => pure ()
  | some t => tryRealtimeFetch t

def program : Job → Prog Unit
  | .poll => runTaskPollingOnce
  | .channel platform channelId ids m => updateVideoTasks platform channelId ids m
  | .realtimeFetch userId taskID => videoFetchByID userId taskID

end ZModel.Tasks
