import ZModel.AsyncImage.Task
import ZModel.Lib.Transaction
import ZModel.Subscription.Charge

/-!
# The billing transactions of asynchronous image tasks

Those of `model/async_image.go`, each a function to the new database or an error.
-/

namespace ZModel.AsyncImage

open Lib Store Subscription

structure Funding where
  source : BillingSource
  subscriptionID : Nat
  named : source = .subscription → 0 < subscriptionID

def Funding.wallet : Funding := ⟨.wallet, 0, nofun⟩

def Funding.subscription (s : UserSubscription) : Funding := ⟨.subscription, s.id, fun _ => s.id_pos⟩

/-- The billing preferences of a user; every other text means the default. -/
inductive Preference where
  | walletOnly
  | subscriptionOnly
  | walletFirst
  | subscriptionFirst

def Preference.ofText (preference : String) : Preference :=
  match trimSpace preference with
  | "wallet_only" => .walletOnly
  | "subscription_only" => .subscriptionOnly
  | "wallet_first" => .walletFirst
  | _ => .subscriptionFirst

def Error.ofCharge : ChargeError → Error
  | .invalidPlanId => .invalidPlanId
  | .recordNotFound => .recordNotFound
  | .duplicatedKey => .duplicatedKey
  | .resetDiverges => .resetDiverges

variable (a : Accounts)

def tryWallet (r : ChargeRequest) : Except Error (Funding × Accounts) :=
  match a.users.find? r.userId with
  | none => .error .recordNotFound
  | some user =>
    if user.quota < r.amount then .error .insufficientWallet
    else .ok (.wallet, a.saveUser { user with quota := user.quota - r.amount })

variable (zone now : Int)

def trySubscription (a : Accounts) (r : ChargeRequest) : Except Error Charged :=
  match chargeFirst zone now r (activeSubscriptions a r.userId now) a with
  | .error e => .error (.ofCharge e)
  | .ok c => .ok c

def chargedFunding : Charged → Except Error (Funding × Accounts)
  | .charged s a => .ok (.subscription s, a)
  | .exhausted _ => .error .insufficientSubscription

def reserveAsyncImageFunding (a : Accounts) (r : ChargeRequest)
    (preference : String) : Except Error (Funding × Accounts) :=
  match Preference.ofText preference with
  | .walletOnly => tryWallet a r
  | .subscriptionOnly => trySubscription zone now a r >>= chargedFunding
  | .walletFirst =>
    match tryWallet a r with
    | .ok result => .ok result
    | .error e =>
      if e.isInsufficient then trySubscription zone now a r >>= chargedFunding else .error e
  | .subscriptionFirst =>
    match trySubscription zone now a r with
    | .error e => .error e
    | .ok (.charged s a) => .ok (.subscription s, a)
    | .ok (.exhausted a) =>
      let active := a.subscriptions.rows.filter (isActiveFor r.userId now)
      if active.length = 0 then tryWallet a r
      else if (active.filter (·.allowWalletOverflow)).length = 0 then
        .error .insufficientSubscription
      else tryWallet a r

structure NewTask where
  taskID : String
  userID : Nat
  tokenID : Nat
  lifecycle : Lifecycle
  reservedQuota : Int
  tokenReservedQuota : Int
  tokenUnlimited : Bool
  token_reserved : tokenReservedQuota = tokenPart tokenUnlimited reservedQuota

def NewTask.row (t : NewTask) (f : Funding) : AsyncImageTask :=
  { taskID := t.taskID, userID := t.userID, tokenID := t.tokenID, lifecycle := t.lifecycle,
    billingStatus := .reserved, billingSource := f.source, subscriptionID := f.subscriptionID,
    reservedQuota := t.reservedQuota, actualQuota := 0,
    tokenReservedQuota := t.tokenReservedQuota, tokenUnlimited := t.tokenUnlimited,
    billingFinalizedAt := 0, token_reserved := t.token_reserved, subscription_named := f.named }

def reserveFundingFor (a : Accounts) (t : NewTask) (preference : String) :
    Except Error (Funding × Accounts) :=
  if h : 0 < t.reservedQuota then
    reserveAsyncImageFunding zone now a ⟨t.taskID, t.userID, t.reservedQuota, h⟩ preference
  else .ok (.wallet, a)

def reserveTokenFor (t : NewTask) : Except Error Accounts :=
  if 0 < t.tokenReservedQuota ∧ t.tokenUnlimited = false ∧ 0 < t.tokenID then
    match a.tokens.find? t.tokenID with
    | none => .error .recordNotFound
    | some token =>
      if token.userId ≠ t.userID then .error .recordNotFound
      else if token.remainQuota < t.tokenReservedQuota then .error .insufficientToken
      else .ok (a.saveToken { token with
        remainQuota := token.remainQuota - t.tokenReservedQuota
        usedQuota := token.usedQuota + t.tokenReservedQuota })
  else .ok a

variable (db : DB)

def createAsyncImageTaskWithReservation (t : NewTask) (preference : String) : Except Error DB :=
  if t.taskID = "" then .error .invalidTask
  else if t.reservedQuota < 0 ∨ t.tokenReservedQuota < 0 then .error .negativeReservation
  else do
    let (funding, accounts) ← reserveFundingFor zone now db.accounts t preference
    let accounts ← reserveTokenFor accounts t
    match db.tasks.create (t.row funding) with
    | none => .error .duplicatedKey
    | some tasks => .ok { db with accounts, tasks }

variable (t : AsyncImageTask)

def AsyncImageTask.subscriptionFunded : Bool :=
  t.billingSource = .subscription ∧ 0 < t.subscriptionID

section

variable (a : Accounts) (t : AsyncImageTask)

def adjustAsyncImageFunding (delta : Int) : Except Error Accounts :=
  if delta = 0 then .ok a
  else if t.subscriptionFunded then
    match a.subscriptions.find? t.subscriptionID with
    | none => .error .recordNotFound
    | some s =>
      if h : s.amountUsed + delta < 0 then .error .subscriptionRefundExceedsUsed
      else if 0 < s.amountTotal ∧ s.amountTotal < s.amountUsed + delta then
        .error (.subscriptionShort delta)
      else .ok (a.saveSubscription (s.setUsed (s.amountUsed + delta) (Int.not_lt.mp h)))
  else
    match a.users.find? t.userID with
    | none => .error .recordNotFound
    | some user =>
      if user.quota - delta < 0 then .error (.userShort delta)
      else .ok (a.saveUser { user with quota := user.quota - delta })

def adjustAsyncImageToken (delta : Int) : Except Error Accounts :=
  if delta = 0 ∨ t.tokenUnlimited = true ∨ t.tokenID = 0 then .ok a
  else
    match a.tokens.find? t.tokenID with
    | none => .error .recordNotFound
    | some token =>
      if token.remainQuota - delta < 0 then .error (.tokenShort delta)
      else if token.usedQuota + delta < 0 then .error .tokenRefundExceedsUsed
      else .ok (a.saveToken { token with
        remainQuota := token.remainQuota - delta, usedQuota := token.usedQuota + delta })

def adjustTo (quota : Int) : Except Error Accounts := do
  let a ← adjustAsyncImageFunding a t (quota - t.reservedQuota)
  adjustAsyncImageToken a t (tokenPart t.tokenUnlimited quota - t.tokenReservedQuota)

end

/-- `SELECT … WHERE task_id = ?`, and `AND lease_owner = ?` for a named owner. -/
def findTask (taskID owner : String) : Except Error AsyncImageTask :=
  match db.tasks.find? taskID with
  | none => .error .recordNotFound
  | some t => if owner ≠ "" ∧ t.lifecycle.leaseOwner ≠ owner then .error .recordNotFound else .ok t

def updateReserved (tasks : Table AsyncImageTask) (t : AsyncImageTask)
    (f : AsyncImageTask → AsyncImageTask) : Nat × Table AsyncImageTask :=
  match tasks.find? t.taskID with
  | none => (0, tasks)
  | some row => if row.billingStatus = .reserved then (1, tasks.put (f row)) else (0, tasks)

def AsyncImageTask.settle (now actual : Int) (l : Lifecycle) : AsyncImageTask :=
  { t with actualQuota := actual, billingStatus := .settled, billingFinalizedAt := now,
           lifecycle := l }

def createObjects (t : AsyncImageTask) :
    List StorageObject → Table StorageObject → Except Error (Table StorageObject)
  | [], objects => .ok objects
  | o :: rest, objects =>
    if isBlank o.businessID then .error .businessIdRequired
    else match objects.create { o with
        resourceID := t.taskID, provider := "s3", status := .uploading,
        stagingStatus := .available } with
      | none => .error .duplicatedKey
      | some objects => createObjects t rest objects

def AsyncImageTask.completed (t : AsyncImageTask) (now actual : Int)
    (manifest sourceKind : String) : AsyncImageTask :=
  t.settle now actual { t.lifecycle with
    status := .succeeded, outputAvailability := .archiving
    generationCompletedAt := now, archiveManifest := manifest, sourceKind := sourceKind
    requestBody := [], requestPayload := "", publicErrorCode := ""
    publicErrorMessage := "", lastError := "" }

def AsyncImageTask.completedUnarchived (t : AsyncImageTask) (now actual : Int)
    (sourceKind errorCode errorMessage : String) : AsyncImageTask :=
  t.settle now actual { t.lifecycle with
    status := .succeeded, outputAvailability := .failed
    generationCompletedAt := now, completedAt := now, sourceKind := sourceKind
    requestBody := [], requestPayload := "", publicErrorCode := errorCode
    publicErrorMessage := errorMessage, lastError := errorMessage
    adminNotificationState := .pending, adminNotificationClaimedAt := 0
    leaseOwner := "", leaseExpiresAt := 0 }

def AsyncImageTask.refunded (t : AsyncImageTask) (now : Int)
    (errorCode errorMessage failureReason : String) : AsyncImageTask :=
  { t with
    billingStatus := .refunded, billingFinalizedAt := now
    lifecycle := { t.lifecycle with
      status := .failed, outputAvailability := .failed, completedAt := now
      publicErrorCode := errorCode, publicErrorMessage := errorMessage
      lastError := failureReason, requestBody := [], requestPayload := ""
      adminNotificationState := .none, leaseOwner := "", leaseExpiresAt := 0 } }

variable (now : Int)

def completeAsyncImageGeneration (db : DB) (taskID owner : String) (actual : Int)
    (manifest sourceKind : String) (objects : List StorageObject) : Except Error DB :=
  if actual < 0 then .error .negativeActual
  else if isBlank manifest ∨ objects.length = 0 then .error .manifestRequired
  else do
    let t ← findTask db taskID owner
    match t.billingStatus with
    | .settled => .ok db
    | .refunded => .error .refundedCannotSettle
    | .reserved =>
      if t.lifecycle.status ≠ .running then .error (.notRunning t.lifecycle.status)
      else do
        let accounts ← adjustTo db.accounts t actual
        let objects ← createObjects t objects db.objects
        let (affected, tasks) := updateReserved db.tasks t fun row =>
          row.completed now actual manifest sourceKind
        if affected ≠ 1 then .error .changedDuringSettlement
        else .ok { accounts := accounts, tasks, objects }

def completeAsyncImageGenerationWithArchiveFailure (db : DB) (taskID owner : String)
    (actual : Int) (sourceKind errorCode errorMessage : String) : Except Error DB :=
  if actual < 0 then .error .negativeActual
  else do
    let t ← findTask db taskID owner
    match t.billingStatus with
    | .settled => .ok db
    | .refunded => .error .refundedCannotSettle
    | .reserved => do
      let accounts ← adjustTo db.accounts t actual
      let (affected, tasks) := updateReserved db.tasks t fun row =>
        row.completedUnarchived now actual sourceKind errorCode errorMessage
      if affected ≠ 1 then .error .changedDuringSettlement
      else .ok { db with accounts, tasks }

/-- `SettleAsyncImageBilling`. The rows affected are not looked at. -/
def settleAsyncImageBilling (db : DB) (taskID : String) (actual : Int) : Except Error DB :=
  if actual < 0 then .error .negativeActual
  else do
    let t ← findTask db taskID ""
    match t.billingStatus with
    | .settled => .ok db
    | .refunded => .error .refundedCannotSettle
    | .reserved => do
      let accounts ← adjustTo db.accounts t actual
      let (_, tasks) := updateReserved db.tasks t fun row =>
        row.settle now actual row.lifecycle
      .ok { db with accounts, tasks }

def refundRecord : Accounts :=
  if t.subscriptionFunded then
    { a with preConsumeRecords := a.preConsumeRecords.modify t.taskID fun r =>
        if r.status = .consumed then { r with status := .refunded } else r }
  else a

def refundAsyncImageBilling (db : DB)
    (taskID errorCode errorMessage failureReason : String) : Except Error DB := do
  let t ← findTask db taskID ""
  match t.billingStatus with
  | .refunded => .ok db
  | .settled => .error .settledCannotRefund
  | .reserved => do
    let accounts ← adjustAsyncImageFunding db.accounts t (-t.reservedQuota)
    let accounts ← adjustAsyncImageToken (refundRecord accounts t) t (-t.tokenReservedQuota)
    let (affected, tasks) := updateReserved db.tasks t fun row =>
      row.refunded now errorCode errorMessage failureReason
    if affected ≠ 1 then .error .changedDuringRefund
    else .ok { db with accounts, tasks }

def reserveAsyncImageBilling (taskID : String) (target : Int) : Except Error DB :=
  if target < 0 then .error .negativeTarget
  else do
    let t ← findTask db taskID ""
    if t.billingStatus ≠ .reserved ∨ target ≤ t.reservedQuota then .ok db
    else do
      let accounts ← adjustTo db.accounts t target
      .ok { db with
        accounts := accounts
        tasks := db.tasks.put { t with
          reservedQuota := target, tokenReservedQuota := tokenPart t.tokenUnlimited target
          token_reserved := rfl } }

structure ArchiveSettings where
  retentionSeconds : Int
  archiveMaxAttempts : Int
  archiveRetryWindowSeconds : Int

def Lifecycle.submitted (settings : ArchiveSettings) (requestBody : List UInt8)
    (requestPayload : String) : Lifecycle :=
  { status := .queued, outputAvailability := .pending, leaseOwner := "", leaseExpiresAt := 0
    nextAttemptAt := now, retentionSeconds := settings.retentionSeconds
    archiveMaxAttempts := settings.archiveMaxAttempts, archiveAttempts := 0
    archiveRetryDeadlineAt := now + settings.archiveRetryWindowSeconds, outputExpiresAt := 0
    requestBody := requestBody, requestPayload, archiveManifest := ""
    sourceKind := "none", publicErrorCode := "", publicErrorMessage := "", lastError := ""
    generationCompletedAt := 0, completedAt := 0, adminNotificationState := .none
    adminNotificationClaimedAt := 0 }

structure Submission where
  tokenID : Nat
  taskID : String
  quotaToPreConsume : Int
  freeModel : Bool
  billingPreference : String
  requestBody : List UInt8
  requestPayload : String
  settings : ArchiveSettings

def Submission.task (s : Submission) (now : Int) (token : Token) : NewTask :=
  let reservedQuota := if s.freeModel then 0 else s.quotaToPreConsume
  { taskID := s.taskID, userID := token.userId, tokenID := token.id
    lifecycle := .submitted now s.settings s.requestBody s.requestPayload
    reservedQuota := reservedQuota
    tokenReservedQuota := tokenPart token.unlimitedQuota reservedQuota
    tokenUnlimited := token.unlimitedQuota, token_reserved := rfl }

def submit (db : DB) (s : Submission) : Except Error DB :=
  match db.accounts.tokens.find? s.tokenID with
  | none => .error .recordNotFound
  | some token =>
    createAsyncImageTaskWithReservation zone now db (s.task now token) s.billingPreference

/-- The transactions on asynchronous image tasks. `worker` stands for every statement that leaves
the billing columns alone. -/
inductive Call where
  | submit (now : Int) (s : Submission)
  | reserve (taskID : String) (target : Int)
  | complete (now : Int) (taskID owner : String) (actual : Int) (manifest sourceKind : String)
      (objects : List StorageObject)
  | completeWithArchiveFailure (now : Int) (taskID owner : String) (actual : Int)
      (sourceKind errorCode errorMessage : String)
  | settle (now : Int) (taskID : String) (actual : Int)
  | refund (now : Int) (taskID errorCode errorMessage failureReason : String)
  | worker (taskID : String) (lifecycle : Lifecycle)

def Call.transaction (zone : Int) (db : DB) : Call → Except Error DB
  | .submit now s => AsyncImage.submit zone now db s
  | .reserve taskID target => reserveAsyncImageBilling db taskID target
  | .complete now taskID owner actual manifest sourceKind objects =>
    completeAsyncImageGeneration now db taskID owner actual manifest sourceKind objects
  | .completeWithArchiveFailure now taskID owner actual sourceKind errorCode errorMessage =>
    completeAsyncImageGenerationWithArchiveFailure now db taskID owner actual sourceKind
      errorCode errorMessage
  | .settle now taskID actual => settleAsyncImageBilling now db taskID actual
  | .refund now taskID errorCode errorMessage failureReason =>
    refundAsyncImageBilling now db taskID errorCode errorMessage failureReason
  | .worker taskID lifecycle =>
    .ok { db with tasks := db.tasks.modify taskID fun t => { t with lifecycle } }

structure Issued where
  call : Call
  aborted : Bool

def step (zone : Int) (db : DB) (i : Issued) : DB :=
  if i.aborted then db else commit db (i.call.transaction zone db)

end ZModel.AsyncImage
