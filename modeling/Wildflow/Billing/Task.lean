import Wildflow.Billing.Quota

/-!
# Billing of asynchronous tasks

A submission reserves any adjusted price, stores the task row and settles. A later refund or recalculation goes by the
funding source in that row.
-/

namespace Wildflow.Billing
open Wildflow.Store

inductive AttemptOutcome where
  | failedBeforeBilling
  | failedBeforeDispatch
  | failedAtProvider (rejected : Bool)
  | accepted (quota : Int)
deriving DecidableEq

structure SubmitAttempt where
  quota : Int
  freeModel : Bool
  quotaClamped : Bool
  outcome : AttemptOutcome
  cancelled : Bool
  retriable : Bool

inductive TaskError where
  | attemptFailed
  | preConsumeFailed (cause : SessionError)
  | markProviderStartedFailed (cause : SessionError)
  | requestCancelled
  | noResult
  | insufficientQuota
  | taskInsertFailed
  | billingSettlementFailed
deriving DecidableEq

structure TaskRelay extends BilledRelay where
  providerRequestStarted : Bool
  providerRequestRejected : Bool

structure TaskSubmission where
  imageOperation : Bool
  attempts : List SubmitAttempt
  cancelledBeforeReserve : Bool
  cancelledBeforeInsert : Bool
  inserted : Bool

section
variable (relay : TaskRelay) (db : DB)

def TaskRelay.preConsumeOnce (attempt : SubmitAttempt) : Except SessionError TaskRelay × DB :=
  if relay.billing.isNone && !attempt.freeModel then
    match preConsumeBilling db relay.info attempt.quotaClamped attempt.quota with
    | (.error failure, db) => (.error failure, db)
    | (.ok session, db) => (.ok { relay with billing := some session }, db)
  else (.ok relay, db)

def TaskRelay.markProviderStarted : Except SessionError Unit × DB :=
  match relay.billing with
  | some session => session.markProviderStarted db
  | none => (.ok (), db)

def relayTaskSubmit (attempt : SubmitAttempt) : Except TaskError Int × TaskRelay × DB :=
  if attempt.outcome = .failedBeforeBilling then (.error .attemptFailed, relay, db)
  else match relay.preConsumeOnce db attempt with
    | (.error failure, db) => (.error (.preConsumeFailed failure), relay, db)
    | (.ok relay, db) =>
      if attempt.outcome = .failedBeforeDispatch then (.error .attemptFailed, relay, db)
      else match relay.markProviderStarted db with
        | (.error failure, db) => (.error (.markProviderStartedFailed failure), relay, db)
        | (.ok _, db) =>
          let relay := { relay with providerRequestStarted := true, providerRequestRejected := false }
          match attempt.outcome with
          | .accepted quota => (.ok quota, relay, db)
          | .failedAtProvider rejected =>
            (.error .attemptFailed, { relay with providerRequestRejected := rejected }, db)
          | _ => (.error .attemptFailed, relay, db)

/-- An image operation whose fate at the provider is unknown keeps its reservation. -/
def TaskRelay.abandon (imageOperation : Bool) : TaskRelay × DB :=
  if imageOperation && relay.providerRequestStarted && !relay.providerRequestRejected then (relay, db)
  else match relay.billing with
    | some session =>
      let (session, db) := session.refund db
      ({ relay with billing := some session }, db)
    | none => (relay, db)

def TaskRelay.reserve (quota : Int) : Except SessionError Unit × TaskRelay × DB :=
  match relay.billing with
  | some session =>
    let (outcome, session, db) := session.reserve db quota
    (outcome, { relay with billing := some session }, db)
  | none => (.ok (), relay, db)

end

def submitAttempts (imageOperation : Bool) (relay : TaskRelay) (db : DB) :
    List SubmitAttempt → Except TaskError Int × TaskRelay × DB
  | [] => (.error .noResult, relay, db)
  | attempt :: rest =>
    match relayTaskSubmit relay db attempt with
    | (outcome, relay, db) =>
      if attempt.cancelled then (.error .requestCancelled, relay, db)
      else match outcome with
        | .ok quota => (.ok quota, relay, db)
        | .error failure =>
          if !imageOperation && attempt.retriable && !rest.isEmpty then
            submitAttempts imageOperation relay db rest
          else (.error failure, relay, db)

def newTask (info : RelayInfo) (quota : Int) : Task where
  userId := info.userId
  quota := quota
  billingSource := info.billingSource
  subscriptionId := info.subscriptionId
  tokenId := info.tokenId

structure TaskOutcome where
  result : Except TaskError Unit
  task : Option Task
  relay : TaskRelay
  db : DB

def executeTaskSubmissionWith (db : DB) (info : RelayInfo) (submission : TaskSubmission) : TaskOutcome :=
  let start : TaskRelay :=
    { info, billing := none, providerRequestStarted := false, providerRequestRejected := false }
  let abandoned (failure : TaskError) (relay : TaskRelay) (db : DB) : TaskOutcome :=
    let (relay, db) := relay.abandon db submission.imageOperation
    { result := .error failure, task := none, relay, db }
  match submitAttempts submission.imageOperation start db submission.attempts with
  | (.error failure, relay, db) => abandoned failure relay db
  | (.ok quota, relay, db) =>
    if submission.cancelledBeforeReserve then abandoned .requestCancelled relay db
    else match relay.reserve db quota with
      | (.error _, relay, db) => abandoned .insufficientQuota relay db
      | (.ok _, relay, db) =>
        if submission.cancelledBeforeInsert then abandoned .requestCancelled relay db
        else if !submission.inserted then abandoned .taskInsertFailed relay db
        else
          let task := newTask relay.relayInfo quota
          match settleBilling db relay.toBilledRelay quota with
          | (.error _, billed, db) =>
            { result := .error .billingSettlementFailed, task := some task,
              relay := { relay with toBilledRelay := billed }, db }
          | (.ok _, billed, db) =>
            { result := .ok (), task := some task, relay := { relay with toBilledRelay := billed }, db }

def taskIsSubscription (task : Task) : Bool :=
  task.billingSource = .subscription ∧ 0 < task.subscriptionId

def resolveTokenKey (db : DB) (tokenId : Int) : String :=
  match db.tokens.find tokenId with
  | some token => if token.deleted then "" else token.key
  | none => ""

section
variable (db : DB) (task : Task)

def taskAdjustFunding (delta : Int) : Except BillingError Unit × DB :=
  if taskIsSubscription task then postConsumeUserSubscriptionDelta db task.subscriptionId delta
  else if 0 < delta then decreaseUserQuota db task.userId delta false
  else increaseUserQuota db task.userId (-delta) false

def taskAdjustTokenQuota (delta : Int) : DB :=
  if task.tokenId ≤ 0 ∨ delta = 0 then db
  else if resolveTokenKey db task.tokenId = "" then db
  else if 0 < delta then (decreaseTokenQuota db task.tokenId delta).2
  else (increaseTokenQuota db task.tokenId (-delta)).2

def refundTaskQuota : Bool × Task × DB :=
  if task.quota = 0 then (true, task, db)
  else match taskAdjustFunding db task (-task.quota) with
    | (.error _, db) => (false, task, db)
    | (.ok _, db) =>
      let db := taskAdjustTokenQuota db task (-task.quota)
      (true, { task with quota := 0 }, updateUserUsedQuota db task.userId (-task.quota))

def recalculateTaskQuota (actualQuota : Int) : Task × DB :=
  let quotaDelta := actualQuota - task.quota
  if actualQuota < 0 ∨ quotaDelta = 0 then (task, db)
  else match taskAdjustFunding db task quotaDelta with
    | (.error _, db) => (task, db)
    | (.ok _, db) =>
      let db := taskAdjustTokenQuota db task quotaDelta
      ({ task with quota := actualQuota }, updateUserUsedQuota db task.userId quotaDelta)

end

end Wildflow.Billing
