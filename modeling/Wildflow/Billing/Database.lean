import Wildflow.Store.Calendar
import Wildflow.Store.Table
import Wildflow.Store.Transaction
import Mathlib.Data.Rat.Defs

/-!
# The billing tables

Rows carry the columns that the billing code reads or writes. A soft-deleted row keeps its place with `deleted` set, and
`DB` also holds the clock, the time zone and the pending batch of quota updates.
-/

namespace Wildflow.Billing
open Wildflow.Store

def isSpace (c : Char) : Bool :=
  c = ' ' || c = '\t' || c = '\n' || c = '\r' ||
    [0x0b, 0x0c, 0x85, 0xa0, 0x1680, 0x2028, 0x2029, 0x202f, 0x205f, 0x3000].contains c.toNat ||
    (0x2000 ≤ c.toNat && c.toNat ≤ 0x200a)

def trimSpace (text : String) : String :=
  String.ofList (((text.toList.dropWhile isSpace).reverse.dropWhile isSpace).reverse)

structure User where
  id : Int
  quota : Int
  usedQuota : Int
  requestCount : Int
  group : String
  deleted : Bool
  email : String := ""
  stripeCustomer : String := ""

structure Token where
  id : Int
  userId : Int
  key : String
  remainQuota : Int
  usedQuota : Int
  unlimitedQuota : Bool
  deleted : Bool

inductive DurationUnit where
  | year | month | day | hour | custom
  | other (name : String)
deriving DecidableEq

structure SubscriptionPlan where
  id : Int
  durationUnit : DurationUnit
  durationValue : Int
  customSeconds : Int
  allowWalletOverflow : Option Bool
  maxPurchasePerUser : Int
  upgradeGroup : String
  downgradeGroup : String
  totalAmount : Int
  quotaResetPeriod : String
  quotaResetCustomSeconds : Int
  title : String := ""

inductive SubscriptionStatus where
  | active | expired | cancelled
deriving DecidableEq

structure UserSubscription where
  id : Int
  id_pos : 0 < id
  userId : Int
  planId : Int
  amountTotal : Int
  amountUsed : Int
  startTime : Int
  endTime : Int
  status : SubscriptionStatus
  lastResetTime : Int
  nextResetTime : Int
  upgradeGroup : String
  prevUserGroup : String
  downgradeGroup : String
  allowWalletOverflow : Bool

inductive PreConsumeStatus where
  | consumed | refunded
deriving DecidableEq

structure SubscriptionPreConsumeRecord where
  requestId : String
  userId : Int
  userSubscriptionId : Int
  preConsumed : Int
  status : PreConsumeStatus
  updatedAt : Int

inductive ReservationState where
  | reserved | providerStarted | settled | released
deriving DecidableEq

inductive ReservationSource where
  | wallet | subscription
deriving DecidableEq

structure BillingReservationRecord where
  requestId : String
  userId : Int
  tokenId : Int
  unlimitedToken : Bool
  source : ReservationSource
  userSubscriptionId : Int
  amount : Int
  topUpAmount : Int
  state : ReservationState
  updatedAt : Int

/-- `unset` is the empty column of an older row; an image operation leaves its billing to the task. -/
inductive WildFlowBillingState where
  | unset | pending | reserved | refunding | settled | refunded | managedByTask
deriving DecidableEq

inductive WildFlowBillingSource where
  | unset | wallet | subscription | teamTrial | taskHost
deriving DecidableEq

/-- `unset` is the empty column of a row older than the submission columns. -/
inductive SubmissionPhase where
  | unset | prepared | submitting | retryable | accepted | failed | recoveryRequired
deriving DecidableEq

structure WildFlowOperation where
  operationId : String
  userId : Int
  tokenId : Int
  idempotencyKeyDigest : String := ""
  requestDigest : String := ""
  requestId : String := ""
  productModelRef : String := ""
  taskId : String := ""
  modelVersionRef : String
  jobId : String
  state : String
  lastErrorCode : String
  billingState : WildFlowBillingState
  billingSource : WildFlowBillingSource
  billingSubscriptionId : Int
  billingQuota : Int
  billingTokenQuota : Int
  billingCurrency : String
  billingAmountMicros : Int
  billingUnit : String
  billingBillableUnits : Int
  billingQuotaPerUnit : String
  billingUSDExchangeRate : String
  billingPriceVersion : String
  billingUsageEventId : String
  billingSettledTime : Int
  resultJSON : String
  resultValidatedTime : Int
  resultRetentionSeconds : Int
  resultExpiresAt : Int
  submissionPhase : SubmissionPhase := .prepared
  submissionOwner : String := ""
  submissionLeaseToken : String := ""
  submissionLeaseExpiresAt : Int := 0
  submissionRetryUntil : Int := 0
  submissionAttempt : Int := 0
  submissionStartedTime : Int := 0
  updatedTime : Int
deriving DecidableEq

/-- Instants are in milliseconds, the precision to which the source truncates them. -/
structure WildFlowUsageEvent where
  eventId : String
  aggregateType : String
  aggregateId : String
  eventType : String
  payloadDigest : String
  operationId : String
  jobId : String
  attemptId : String
  modelVersionRef : String
  channelType : String
  kind : String
  quantity : Int
  unit : String
  startedAt : Int
  endedAt : Int
  evidenceRef : String
  createdTime : Int

inductive BillingLogType where
  | consume | refund
deriving DecidableEq

inductive BillingProjectionState where
  | unset | pending | notRequired
deriving DecidableEq

structure WildFlowBillingLogEntry where
  operationId : String
  logType : BillingLogType
  usageEventId : String
  billingSource : WildFlowBillingSource
  billingQuota : Int
  billingCurrency : String
  billingAmountMicros : Int
  content : String
  projectionState : BillingProjectionState

def WildFlowBillingLogEntry.primaryKey (entry : WildFlowBillingLogEntry) : String × BillingLogType :=
  (entry.operationId, entry.logType)

inductive BillingSource where
  | unset | wallet | subscription
deriving DecidableEq

structure Task where
  userId : Int
  quota : Int
  billingSource : BillingSource
  subscriptionId : Int
  tokenId : Int
deriving DecidableEq

inductive TaskStatus where
  | notStart | submitted | queued | inProgress | persisting | failure | success | unknown
  | other (text : String)
deriving DecidableEq

def TaskStatus.ofText (text : String) : TaskStatus :=
  if text = "NOT_START" then .notStart
  else if text = "SUBMITTED" then .submitted
  else if text = "QUEUED" then .queued
  else if text = "IN_PROGRESS" then .inProgress
  else if text = "PERSISTING" then .persisting
  else if text = "FAILURE" then .failure
  else if text = "SUCCESS" then .success
  else if text = "UNKNOWN" then .unknown
  else .other text

structure TaskInfo where
  status : String
  reason : String := ""
  url : String := ""
  progress : String := ""
  completionTokens : Int := 0
  totalTokens : Int := 0
  pluginState : String := ""
deriving DecidableEq

structure TaskRow extends Task where
  id : Int
  taskId : String
  platform : String := ""
  channelId : Int
  action : String := ""
  status : TaskStatus
  failReason : String := ""
  submitTime : Int
  startTime : Int := 0
  finishTime : Int := 0
  progress : String
  data : String := ""
  upstreamTaskId : String
  resultURL : String := ""
  pluginState : String := ""
  pollFailures : Int := 0
  imageCompletion : Option TaskInfo := none
  storedArtifacts : Bool := false
  tieredSnapshot : Bool := false
  perCallBilling : Bool := false
deriving DecidableEq

inductive TopUpStatus where
  | pending | success | failed | expired
deriving DecidableEq

inductive PaymentProvider where
  | unset | epay | stripe | creem | waffo | waffoPancake | balance
deriving DecidableEq

structure TopUp where
  tradeNo : String
  userId : Int
  amount : Int
  money : ℚ
  paymentMethod : String
  paymentProvider : PaymentProvider
  completeTime : Int
  status : TopUpStatus

structure DB where
  now : Int
  zone : Calendar
  users : Table User.id
  tokens : Table Token.id
  plans : Table SubscriptionPlan.id
  userSubscriptions : Table UserSubscription.id
  preConsumeRecords : Table SubscriptionPreConsumeRecord.requestId
  reservations : Table BillingReservationRecord.requestId
  operations : Table WildFlowOperation.operationId
  usageEvents : Table WildFlowUsageEvent.eventId
  billingLog : Table WildFlowBillingLogEntry.primaryKey
  tasks : Table TaskRow.id := .empty
  topUps : Table TopUp.tradeNo := .empty
  batchUpdateEnabled : Bool
  /-- What waits for the next batch update: quota deltas of users and tokens, use of users. -/
  batchUserQuota : Int → Int
  batchTokenQuota : Int → Int
  batchUsedQuota : Int → Int
  batchRequestCount : Int → Int
  logConsumeEnabled : Bool

def DB.empty (now : Int) : DB where
  now := now
  zone := .utc
  users := .empty
  tokens := .empty
  plans := .empty
  userSubscriptions := .empty
  preConsumeRecords := .empty
  reservations := .empty
  operations := .empty
  usageEvents := .empty
  billingLog := .empty
  batchUpdateEnabled := false
  batchUserQuota := fun _ => 0
  batchTokenQuota := fun _ => 0
  batchUsedQuota := fun _ => 0
  batchRequestCount := fun _ => 0
  logConsumeEnabled := true

inductive BillingError where
  | insufficientUserQuota
  | insufficientTokenQuota
  | noActiveSubscription
  | subscriptionQuotaInsufficient (need : Int)
  | billingReservationNotFound
  | billingReservationStateConflict
  | recordNotFound
  | invalidUserId
  | amountNegative
  | amountNotPositive
  | quotaNegative
  | walletQuotaExceeds (limit : Int)
  | walletQuotaLimitExceeded
  | invalidPlan
  | invalidPlanId
  | invalidUserIdOfPurchase
  | purchaseLimitReached
  | durationValueNotPositive
  | customSecondsNotPositive
  | invalidDurationUnit (name : String)
  | invalidUserSubscriptionId
  | invalidSubscriptionPreConsumeArgs
  | subscriptionPreConsumeAlreadyRefunded
  | subscriptionUsedExceedsTotal (used total : Int)
  | subscriptionIdMissing
  /-- The loop that catches up on missed resets never ends, so its transaction never commits. -/
  | resetLoopDiverges
  | wildFlowBillingStateConflict
  | wildFlowInsufficientUserQuota
  | wildFlowInsufficientTokenQuota
  | invalidWildFlowBillingQuote
  | incompleteWildFlowBillingQuote
  | invalidWildFlowCanonicalBillingAudit
  | wildFlowUsageEventUnknown
  | wildFlowUsageEventConflict
  | wildFlowUsageEventInvalid
  | invalidWildFlowOperationResult
  | wildFlowOperationResultNotSuccessful
  | invalidWildFlowSubmissionLease
  | wildFlowSubmissionLeaseLost
  | invalidWildFlowSubmissionRetryDeadline
  | invalidWildFlowSubmittedJob
  | invalidWildFlowSubmissionOperation
  | invalidTaskOperationReservation
  | taskOperationConflict
  | taskOperationState
  | duplicatedKey
  | requestIdEmpty
  | invalidUserIdOrPlanId
  | invalidPlanIdOfReset
  | noActivePlanSubscription
deriving DecidableEq

abbrev BillingTx := Tx DB BillingError

end Wildflow.Billing
