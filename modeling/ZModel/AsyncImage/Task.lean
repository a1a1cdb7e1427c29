import ZModel.Lib.Ledger
import ZModel.Lib.Text
import ZModel.Store.Accounts

/-!
# Asynchronous image tasks

The rows of `model/async_image.go` and the errors of its billing functions. A row carries two facts
about its reservation that every writer keeps.
-/

namespace ZModel.AsyncImage

open Lib Store

inductive Status where
  | queued
  | running
  | succeeded
  | failed
  deriving DecidableEq

inductive OutputAvailability where
  | pending
  | archiving
  | available
  | expired
  | failed
  deriving DecidableEq

inductive BillingStatus where
  | reserved
  | settled
  | refunded
  deriving DecidableEq

inductive NotificationState where
  | unset
  | none
  | pending
  | claimed
  | sent
  deriving DecidableEq

structure Lifecycle where
  status : Status
  outputAvailability : OutputAvailability
  leaseOwner : String
  leaseExpiresAt : Int
  nextAttemptAt : Int
  retentionSeconds : Int
  archiveMaxAttempts : Int
  archiveAttempts : Int
  archiveRetryDeadlineAt : Int
  outputExpiresAt : Int
  requestBody : List UInt8
  requestPayload : String
  archiveManifest : String
  sourceKind : String
  publicErrorCode : String
  publicErrorMessage : String
  lastError : String
  generationCompletedAt : Int
  completedAt : Int
  adminNotificationState : NotificationState
  adminNotificationClaimedAt : Int
  deriving DecidableEq

/-- The token part of a quota: an unlimited token is charged nothing. -/
def tokenPart (tokenUnlimited : Bool) (quota : Int) : Int := if tokenUnlimited then 0 else quota

structure AsyncImageTask where
  taskID : String
  userID : Nat
  tokenID : Nat
  lifecycle : Lifecycle
  billingStatus : BillingStatus
  billingSource : BillingSource
  subscriptionID : Nat
  reservedQuota : Int
  actualQuota : Int
  tokenReservedQuota : Int
  tokenUnlimited : Bool
  billingFinalizedAt : Int
  token_reserved : tokenReservedQuota = tokenPart tokenUnlimited reservedQuota
  subscription_named : billingSource = .subscription → 0 < subscriptionID
  deriving DecidableEq

instance : Keyed AsyncImageTask String := ⟨AsyncImageTask.taskID⟩

@[simp] theorem key_task (t : AsyncImageTask) : key t = t.taskID := rfl

inductive ObjectStatus where
  | uploading
  | available
  | failed
  | deletePending
  | deleted
  deriving DecidableEq

inductive StagingStatus where
  | pending
  | available
  | failed
  | deletePending
  | deleted
  deriving DecidableEq

structure StagingPath where
  userID : Nat
  date : String
  taskID : String
  index : Int
  deriving DecidableEq

structure ObjectKey where
  s3KeyPrefix : String
  businessID : String
  userID : Nat
  date : String
  taskID : String
  index : Int
  extension : String
  deriving DecidableEq

structure Location where
  endpoint : String
  region : String
  bucket : String
  objectKey : ObjectKey
  deriving DecidableEq

structure StorageObject where
  businessID : String
  resourceID : String
  objectIndex : Int
  provider : String
  status : ObjectStatus
  stagingStatus : StagingStatus
  location : Location
  expiresAt : Int
  stagingRelativePath : StagingPath

instance : Keyed StorageObject (String × String × Int) :=
  ⟨fun o => (o.businessID, o.resourceID, o.objectIndex)⟩

@[simp] theorem key_object (o : StorageObject) :
    key o = (o.businessID, o.resourceID, o.objectIndex) := rfl

structure DB where
  accounts : Accounts
  tasks : Table AsyncImageTask
  objects : Table StorageObject

inductive Error where
  | recordNotFound
  | duplicatedKey
  | invalidPlanId
  | resetDiverges
  | invalidTask
  | negativeReservation
  | negativeActual
  | negativeTarget
  | manifestRequired
  | businessIdRequired
  | insufficientWallet
  | insufficientSubscription
  | insufficientToken
  | refundedCannotSettle
  | settledCannotRefund
  | notRunning (status : Status)
  | changedDuringSettlement
  | changedDuringRefund
  | subscriptionRefundExceedsUsed
  | subscriptionShort (need : Int)
  | userShort (need : Int)
  | tokenShort (need : Int)
  | tokenRefundExceedsUsed
  deriving DecidableEq

def Error.isInsufficient : Error → Bool
  | .insufficientWallet | .insufficientSubscription | .insufficientToken => true
  | _ => false

end ZModel.AsyncImage
