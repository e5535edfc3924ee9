import Wildflow.Billing.Subscription

/-!
# WildFlow operations

An operation reserves the quote of its job and settles it once the job has succeeded and reported its usage, or refunds
it once the job has failed. Pollers write the execution state independently.
-/

namespace Wildflow.Billing
open Wildflow.Store

structure WildFlowBillingQuote where
  currency : String
  amountMicros : Int
  unit : String
  billableUnits : Int
  quota : Int
  quotaPerUnit : String
  usdExchangeRate : String
  priceVersion : String
deriving DecidableEq

def WildFlowBillingQuote.validate (quote : WildFlowBillingQuote) : Except BillingError Unit :=
  if quote.currency ≠ "CNY" ∨ quote.amountMicros ≤ 0 ∨ quote.unit = "" ∨ quote.billableUnits ≤ 0 ∨
      quote.quota ≤ 0 then
    .error .invalidWildFlowBillingQuote
  else if quote.quotaPerUnit = "" ∨ quote.usdExchangeRate = "" ∨ quote.priceVersion = "" then
    .error .incompleteWildFlowBillingQuote
  else .ok ()

section
variable (operation : WildFlowOperation)

section
variable (quote : WildFlowBillingQuote)

def billingQuoteMatchesOperation : Bool :=
  operation.billingCurrency = quote.currency && operation.billingAmountMicros = quote.amountMicros &&
    operation.billingUnit = quote.unit && operation.billingBillableUnits = quote.billableUnits &&
    operation.billingQuota = quote.quota && operation.billingQuotaPerUnit = quote.quotaPerUnit &&
    operation.billingUSDExchangeRate = quote.usdExchangeRate &&
    operation.billingPriceVersion = quote.priceVersion

def loadWildFlowOperationForBilling (operationId : String) : BillingTx WildFlowOperation := do
  let db ← Tx.read
  Tx.orFail .recordNotFound (db.operations.find operationId)

def updateOperation (operationId : String) (condition : WildFlowOperation → Bool)
    (change : WildFlowOperation → WildFlowOperation) : BillingTx Nat := do
  let db ← Tx.read
  let updated := db.operations.updateWhere operationId condition change
  Tx.write { db with operations := updated.1 }
  return updated.2

def newBillingLogEntry (logType : BillingLogType) (content : String)
    (projectionState : BillingProjectionState) : WildFlowBillingLogEntry :=
  { operationId := operation.operationId, logType, usageEventId := operation.billingUsageEventId,
    billingSource := operation.billingSource, billingQuota := operation.billingQuota,
    billingCurrency := operation.billingCurrency, billingAmountMicros := operation.billingAmountMicros,
    content, projectionState }

def billingLogEntryMatches (entry : WildFlowBillingLogEntry) (operation : WildFlowOperation)
    (content : String) : Bool :=
  entry.usageEventId = operation.billingUsageEventId && entry.billingSource = operation.billingSource &&
    entry.billingQuota = operation.billingQuota && entry.billingCurrency = operation.billingCurrency &&
    entry.billingAmountMicros = operation.billingAmountMicros && entry.content = content

/-- The insert does nothing when the entry exists; the entry is then read back and compared. -/
def ensureWildFlowCanonicalBillingLogTx (logType : BillingLogType)
    (content : String) : BillingTx WildFlowBillingLogEntry :=
  if trimSpace operation.operationId = "" then Tx.fail .invalidWildFlowCanonicalBillingAudit
  else do
    let db ← Tx.read
    let projectionState : BillingProjectionState :=
      if logType = .consume ∧ db.logConsumeEnabled = false then .notRequired else .pending
    let entry := (db.billingLog.find (operation.operationId, logType)).getD
      (newBillingLogEntry operation logType content projectionState)
    Tx.ensure (billingLogEntryMatches entry operation content) .wildFlowBillingStateConflict
    let stored := if entry.projectionState = .unset then { entry with projectionState } else entry
    Tx.write { db with billingLog := db.billingLog.put stored }
    return stored

def ensureWildFlowBillingCanReserve : Except BillingError Bool :=
  match operation.billingState with
  | .reserved | .settled =>
    if billingQuoteMatchesOperation operation quote then .ok false
    else .error .wildFlowBillingStateConflict
  | .unset | .pending => .ok true
  | .refunding | .refunded | .managedByTask => .error .wildFlowBillingStateConflict

def wildFlowBillingSnapshotUpdates (source : WildFlowBillingSource)
    (subscriptionId tokenQuota now : Int) (operation : WildFlowOperation) : WildFlowOperation :=
  { operation with
    billingState := .reserved, billingSource := source, billingSubscriptionId := subscriptionId
    billingQuota := quote.quota, billingTokenQuota := tokenQuota, billingCurrency := quote.currency
    billingAmountMicros := quote.amountMicros, billingUnit := quote.unit
    billingBillableUnits := quote.billableUnits, billingQuotaPerUnit := quote.quotaPerUnit
    billingUSDExchangeRate := quote.usdExchangeRate, billingPriceVersion := quote.priceVersion
    updatedTime := now }

def findUserTx (userId : Int) : BillingTx User := do
  let db ← Tx.read
  Tx.orFail .recordNotFound ((db.users.find userId).filter fun user => !user.deleted)

def findTokenOfUserTx (tokenId userId : Int) : BillingTx Token := do
  let db ← Tx.read
  Tx.orFail .recordNotFound ((db.tokens.find tokenId).filter fun token => !token.deleted && token.userId = userId)

def reserveWildFlowTokenQuotaTx (quota : Int) : BillingTx Int :=
  if operation.tokenId ≤ 0 then return 0
  else do
    let token ← findTokenOfUserTx operation.tokenId operation.userId
    if token.unlimitedQuota then return 0
    else do
      Tx.ensure (quota ≤ token.remainQuota) .wildFlowInsufficientTokenQuota
      let _ ← updateToken token.id (fun _ => true) (Token.debit quota)
      return quota

def snapshotWildFlowBillingTx (operationId : String) (quote : WildFlowBillingQuote)
    (source : WildFlowBillingSource) (subscriptionId tokenQuota : Int) : BillingTx WildFlowOperation := do
  let db ← Tx.read
  let _ ← updateOperation operationId (fun _ => true)
    (wildFlowBillingSnapshotUpdates quote source subscriptionId tokenQuota db.now)
  loadWildFlowOperationForBilling operationId

def reserveWildFlowWalletTx :
    BillingTx WildFlowOperation := do
  let user ← findUserTx operation.userId
  Tx.ensure (quote.quota ≤ user.quota) .wildFlowInsufficientUserQuota
  let tokenQuota ← reserveWildFlowTokenQuotaTx operation quote.quota
  let _ ← updateUser operation.userId (fun _ => true) (User.debit quote.quota)
  snapshotWildFlowBillingTx operation.operationId quote .wallet 0 tokenQuota

def reserveWildFlowSubscriptionTx :
    BillingTx WildFlowOperation := do
  let preConsume ← preConsumeUserSubscriptionTx operation.operationId operation.userId quote.quota
  let tokenQuota ← reserveWildFlowTokenQuotaTx operation quote.quota
  snapshotWildFlowBillingTx operation.operationId quote .subscription preConsume.userSubscriptionId tokenQuota

end

def reserveWildFlowBilling
    (reserve : WildFlowOperation → WildFlowBillingQuote → BillingTx WildFlowOperation) (db : DB)
    (operationId : String) (quote : WildFlowBillingQuote) : Except BillingError WildFlowOperation × DB :=
  match quote.validate with
  | .error failure => (.error failure, db)
  | .ok _ => Tx.commit (do
      let operation ← loadWildFlowOperationForBilling operationId
      match ensureWildFlowBillingCanReserve operation quote with
      | .error failure => Tx.fail failure
      | .ok false => return operation
      | .ok true => reserve operation quote) db

section
variable (db : DB) (operationId : String) (quote : WildFlowBillingQuote)

def reserveWildFlowWalletBilling : Except BillingError WildFlowOperation × DB :=
  reserveWildFlowBilling reserveWildFlowWalletTx db operationId quote

def reserveWildFlowSubscriptionBilling : Except BillingError WildFlowOperation × DB :=
  reserveWildFlowBilling reserveWildFlowSubscriptionTx db operationId quote

end

def validWildFlowUsagePayloadDigest (value : String) : Bool :=
  value.utf8ByteSize = 64 && value.toList.all fun c => ('0' ≤ c && c ≤ '9') || ('a' ≤ c && c ≤ 'f')

def wildFlowUsageEventIdentityMatches (persisted incoming : WildFlowUsageEvent) : Bool :=
  persisted.eventId = incoming.eventId && persisted.aggregateType = incoming.aggregateType &&
    persisted.aggregateId = incoming.aggregateId && persisted.eventType = incoming.eventType &&
    persisted.payloadDigest = incoming.payloadDigest && persisted.operationId = incoming.operationId &&
    persisted.jobId = incoming.jobId && persisted.attemptId = incoming.attemptId &&
    persisted.modelVersionRef = incoming.modelVersionRef &&
    persisted.channelType = incoming.channelType && persisted.kind = incoming.kind &&
    persisted.quantity = incoming.quantity && persisted.unit = incoming.unit &&
    persisted.startedAt = incoming.startedAt && persisted.endedAt = incoming.endedAt &&
    persisted.evidenceRef = incoming.evidenceRef

def wildFlowUsageEventMatchesOperation (event : WildFlowUsageEvent) : Bool :=
  if operation.billingUsageEventId ≠ "" ∧ operation.billingUsageEventId ≠ event.eventId then false
  else if operation.billingState = .unset ∨ operation.billingState = .pending then true
  else if operation.billingUnit = "10k_characters" then
    event.quantity = operation.billingBillableUnits && event.kind = "characters" && event.unit = "character"
  else if operation.billingUnit = "image" then
    event.quantity = operation.billingBillableUnits && event.kind = "images" && event.unit = "image"
  else if operation.billingUnit = "audio_millisecond" then
    event.kind = "audio_duration" && event.unit = "millisecond" && 0 < event.quantity &&
      event.quantity ≤ operation.billingBillableUnits
  else false

def claimTeamTrialUsageTx (event : WildFlowUsageEvent) : BillingTx Unit :=
  if operation.billingSource ≠ .teamTrial then pure ()
  else if operation.billingUsageEventId = "" then do
    let db ← Tx.read
    let rows ← updateOperation operation.operationId
      (fun stored => stored.billingSource = .teamTrial && stored.billingState = .pending &&
        stored.billingUsageEventId = "")
      fun stored => { stored with billingUsageEventId := event.eventId, updatedTime := db.now }
    Tx.ensure (rows = 1) .wildFlowUsageEventConflict
  else Tx.ensure (operation.billingUsageEventId = event.eventId) .wildFlowUsageEventConflict

end

/-- The insert cannot meet a duplicate here: the transaction looked the event up before. -/
def recordWildFlowUsageEventTx (event : WildFlowUsageEvent) : BillingTx Bool := do
  let db ← Tx.read
  let operation ← Tx.orFail .wildFlowUsageEventUnknown (db.operations.find event.operationId)
  Tx.ensure (operation.jobId = event.jobId ∧ operation.modelVersionRef = event.modelVersionRef)
    .wildFlowUsageEventConflict
  Tx.ensure (wildFlowUsageEventMatchesOperation operation event) .wildFlowUsageEventConflict
  match db.usageEvents.find event.eventId with
  | some persisted => do
      Tx.ensure (wildFlowUsageEventIdentityMatches persisted event) .wildFlowUsageEventConflict
      claimTeamTrialUsageTx operation event
      return true
  | none => do
      Tx.write { db with usageEvents := db.usageEvents.put event }
      claimTeamTrialUsageTx operation event
      return false

def recordWildFlowUsageEvent (db : DB) (event : WildFlowUsageEvent) : Except BillingError Bool × DB :=
  if validWildFlowUsagePayloadDigest event.payloadDigest then
    let event := { event with createdTime := if event.createdTime = 0 then db.now else event.createdTime }
    (recordWildFlowUsageEventTx event).commit db
  else (.error .wildFlowUsageEventInvalid, db)

def IngestedBefore (a b : WildFlowUsageEvent) : Prop :=
  a.createdTime < b.createdTime ∨ (a.createdTime = b.createdTime ∧ a.eventId ≤ b.eventId)

instance : DecidableRel IngestedBefore := fun a b => by unfold IngestedBefore; infer_instance

def firstUsageEvent (db : DB) (operation : WildFlowOperation) : Option WildFlowUsageEvent :=
  ((db.usageEvents.rows.filter fun event =>
    event.operationId = operation.operationId ∧ event.jobId = operation.jobId ∧
      event.modelVersionRef = operation.modelVersionRef).insertionSort IngestedBefore).head?

/-- The sum and the product wrap in 64 bits. -/
def ceilProportionalInt64 (total actual maximum : Int) : Int :=
  if total = 0 then 0
  else (Int.bmod (total * actual + maximum - 1) (2 ^ 64)).tdiv maximum

structure WildFlowActualBilling where
  amountMicros : Int
  quota : Int
  tokenQuota : Int
  billableUnits : Int

section
variable (operation : WildFlowOperation)

/-- A quota fits the platform's integer, so the source's upper bounds never fail. -/
def wildFlowActualUsageBilling (event : WildFlowUsageEvent) : Except BillingError WildFlowActualBilling :=
  if operation.billingUnit ≠ "audio_millisecond" then
    .ok ⟨operation.billingAmountMicros, operation.billingQuota, operation.billingTokenQuota,
      operation.billingBillableUnits⟩
  else
    let maximum := operation.billingBillableUnits
    let actual := event.quantity
    if maximum ≤ 0 ∨ actual ≤ 0 ∨ maximum < actual then .error .wildFlowBillingStateConflict
    else
      let amountMicros := ceilProportionalInt64 operation.billingAmountMicros actual maximum
      let quota := ceilProportionalInt64 operation.billingQuota actual maximum
      let tokenQuota := ceilProportionalInt64 operation.billingTokenQuota actual maximum
      if amountMicros ≤ 0 ∨ quota ≤ 0 ∨ tokenQuota < 0 then .error .wildFlowBillingStateConflict
      else .ok ⟨amountMicros, quota, tokenQuota, actual⟩

def returnWildFlowQuotaTx (actualQuota : Int) : BillingTx Unit :=
  let refund := operation.billingQuota - actualQuota
  if refund ≤ 0 then pure ()
  else match operation.billingSource with
    | .wallet => do
        let _ ← updateUser operation.userId (fun _ => true) (User.debit (-refund))
    | .subscription => do
        postConsumeUserSubscriptionDeltaTx operation.billingSubscriptionId (-refund)
        let db ← Tx.read
        let updated := db.preConsumeRecords.updateWhere operation.operationId
          (fun record => record.status = .consumed && record.preConsumed = operation.billingQuota)
          fun record => { record with preConsumed := actualQuota, updatedAt := db.now }
        Tx.ensure (updated.2 = 1) .wildFlowBillingStateConflict
        Tx.write { db with preConsumeRecords := updated.1 }
    | .unset | .teamTrial | .taskHost => Tx.fail .wildFlowBillingStateConflict

def returnWildFlowTokenQuotaTx (actualTokenQuota : Int) : BillingTx Unit :=
  let refund := operation.billingTokenQuota - actualTokenQuota
  if refund ≤ 0 ∨ operation.tokenId ≤ 0 then pure ()
  else do
    let token ← findTokenOfUserTx operation.tokenId operation.userId
    let _ ← updateToken token.id (fun _ => true) (Token.debit (-refund))

def WildFlowOperation.settledWith (actual : WildFlowActualBilling) (eventId : String) (now : Int)
    (operation : WildFlowOperation) : WildFlowOperation :=
  { operation with
    billingState := .settled, billingUsageEventId := eventId, billingQuota := actual.quota
    billingTokenQuota := actual.tokenQuota, billingAmountMicros := actual.amountMicros
    billingBillableUnits := actual.billableUnits, billingSettledTime := now, updatedTime := now }

/-- When the guarded update finds no row, the source returns without an error and so keeps what it gave back. -/
def settleByUsageTx (event : WildFlowUsageEvent) :
    BillingTx (WildFlowOperation × Bool) := do
  Tx.ensure (wildFlowUsageEventMatchesOperation operation event) .wildFlowBillingStateConflict
  match wildFlowActualUsageBilling operation event with
  | .error failure => Tx.fail failure
  | .ok actual => do
      Tx.ensure (actual.quota ≤ operation.billingQuota ∧ actual.tokenQuota ≤ operation.billingTokenQuota)
        .wildFlowBillingStateConflict
      returnWildFlowQuotaTx operation actual.quota
      returnWildFlowTokenQuotaTx operation actual.tokenQuota
      let db ← Tx.read
      let rows ← updateOperation operation.operationId
        (fun stored => stored.billingState = .reserved && stored.state = "succeeded" &&
          stored.resultJSON ≠ "" && 0 < stored.resultValidatedTime)
        (WildFlowOperation.settledWith actual event.eventId db.now)
      if rows = 0 then do
        let stored ← loadWildFlowOperationForBilling operation.operationId
        return (stored, false)
      else do
        let _ ← updateUser operation.userId (fun _ => true) (User.addUse actual.quota 1)
        let settled := operation.settledWith actual event.eventId db.now
        let _ ← ensureWildFlowCanonicalBillingLogTx settled .consume "WildFlow job settled"
        return (settled, true)

def settleWildFlowOperationBilling (db : DB) (operationId : String) :
    Except BillingError (WildFlowOperation × Bool) × DB :=
  Tx.commit (do
    let operation ← loadWildFlowOperationForBilling operationId
    if operation.billingState = .settled then do
      let _ ← ensureWildFlowCanonicalBillingLogTx operation .consume "WildFlow job settled"
      return (operation, false)
    else if operation.billingState ≠ .reserved ∨ operation.state ≠ "succeeded" ∨
        operation.resultJSON = "" ∨ operation.resultValidatedTime = 0 then
      return (operation, false)
    else do
      let db ← Tx.read
      match firstUsageEvent db operation with
      | none => return (operation, false)
      | some event => settleByUsageTx operation event) db

/-- A refund also reaches a soft-deleted token; a token that is gone has no balance to restore. -/
def refundWildFlowTokenQuotaTx : BillingTx Unit :=
  if operation.billingTokenQuota ≤ 0 ∨ operation.tokenId ≤ 0 then pure ()
  else do
    let db ← Tx.read
    let updated := db.tokens.updateWhere operation.tokenId (fun _ => true)
      (Token.debit (-operation.billingTokenQuota))
    Tx.write { db with tokens := updated.1 }

def refundWildFlowSourceTx : BillingTx Unit :=
  match operation.billingSource with
  | .subscription => refundSubscriptionPreConsumeTx operation.operationId
  | .wallet => do
      let _ ← updateUser operation.userId (fun _ => true) (User.debit (-operation.billingQuota))
  | .unset | .teamTrial | .taskHost => pure ()

def WildFlowOperation.refundedAt (now : Int) (operation : WildFlowOperation) : WildFlowOperation :=
  { operation with billingState := .refunded, billingSettledTime := now, updatedTime := now }

def refundReservedTx : BillingTx (WildFlowOperation × Bool) := do
  refundWildFlowSourceTx operation
  refundWildFlowTokenQuotaTx operation
  let db ← Tx.read
  let _ ← updateOperation operation.operationId (fun _ => true) (WildFlowOperation.refundedAt db.now)
  let refunded := operation.refundedAt db.now
  let _ ← ensureWildFlowCanonicalBillingLogTx refunded .refund "WildFlow job refunded"
  return (refunded, true)

end

def refundWildFlowOperationBilling (db : DB) (operationId : String) :
    Except BillingError (WildFlowOperation × Bool) × DB :=
  Tx.commit (do
    let operation ← loadWildFlowOperationForBilling operationId
    if operation.billingState = .refunded then do
      let _ ← ensureWildFlowCanonicalBillingLogTx operation .refund "WildFlow job refunded"
      return (operation, false)
    else if (operation.billingState ≠ .reserved ∧ operation.billingState ≠ .refunding) ∨
        (operation.state ≠ "failed" ∧ operation.state ≠ "cancelled") then
      return (operation, false)
    else refundReservedTx operation) db

def updateWildFlowOperationExecution (db : DB) (operationId jobId state errorCode : String) : DB :=
  { db with operations := (db.operations.updateWhere operationId (fun _ => true) fun operation =>
      { operation with jobId, state, lastErrorCode := errorCode, updatedTime := db.now }).1 }

/-- The first result is stored for good; later calls only fill in what an old row lacks. -/
def WildFlowOperation.withResult (resultJSON : String) (expiresAt now : Int)
    (operation : WildFlowOperation) : WildFlowOperation :=
  let retention :=
    if operation.resultRetentionSeconds = 0 then expiresAt - now else operation.resultRetentionSeconds
  if operation.resultJSON ≠ "" then
    { operation with
      resultRetentionSeconds := retention
      resultExpiresAt := if operation.resultExpiresAt = 0 then expiresAt else operation.resultExpiresAt
      resultValidatedTime :=
        if operation.resultValidatedTime = 0 then now else operation.resultValidatedTime }
  else
    { operation with
      resultJSON, resultValidatedTime := now, resultExpiresAt := expiresAt, updatedTime := now
      resultRetentionSeconds := retention }

def storeWildFlowOperationResult (db : DB) (operationId resultJSON : String) (expiresAt : Int) :
    Except BillingError WildFlowOperation × DB :=
  if operationId = "" ∨ resultJSON = "" ∨ expiresAt ≤ db.now then
    (.error .invalidWildFlowOperationResult, db)
  else Tx.commit (do
    let operation ← loadWildFlowOperationForBilling operationId
    Tx.ensure (operation.state = "succeeded") .wildFlowOperationResultNotSuccessful
    let _ ← updateOperation operationId (fun _ => true) (WildFlowOperation.withResult resultJSON expiresAt db.now)
    loadWildFlowOperationForBilling operationId) db

end Wildflow.Billing
