import Wildflow.Billing.Account
import Mathlib.Algebra.Order.Ring.Int
import Mathlib.Data.List.Sort

/-!
# User subscriptions

Pre-consuming, adjusting and refunding the quota of a subscription, and its periodic reset.
-/

namespace Wildflow.Billing
open Wildflow.Store

inductive ResetPeriod where
  | never | daily | weekly | monthly | custom
deriving DecidableEq

def normalizeResetPeriod (period : String) : ResetPeriod :=
  if trimSpace period = "daily" then .daily
  else if trimSpace period = "weekly" then .weekly
  else if trimSpace period = "monthly" then .monthly
  else if trimSpace period = "custom" then .custom
  else .never

/-- `base.Add(time.Duration(count) * unit).Unix()`: the product of nanoseconds wraps in 64 bits. -/
def addDuration (base count unitSeconds : Int) : Int :=
  base + Int.bmod (count * (unitSeconds * 1000000000)) (2 ^ 64) / 1000000000

def calcPlanEndTime (zone : Calendar) (start : Int) (plan : SubscriptionPlan) : Except BillingError Int :=
  if plan.durationValue ≤ 0 ∧ plan.durationUnit ≠ .custom then .error .durationValueNotPositive
  else match plan.durationUnit with
    | .year => .ok (zone.addDate start plan.durationValue 0 0)
    | .month => .ok (zone.addDate start 0 plan.durationValue 0)
    | .day => .ok (addDuration start plan.durationValue (24 * 3600))
    | .hour => .ok (addDuration start plan.durationValue 3600)
    | .custom =>
      if plan.customSeconds ≤ 0 then .error .customSecondsNotPositive
      else .ok (addDuration start plan.customSeconds 1)
    | .other name => .error (.invalidDurationUnit name)

def calcNextResetTime (zone : Calendar) (base : Int) (plan : SubscriptionPlan) (endUnix : Int) : Int :=
  let bounded (next : Int) : Int := if 0 < endUnix ∧ endUnix < next then 0 else next
  match normalizeResetPeriod plan.quotaResetPeriod with
  | .never => 0
  | .daily => bounded (zone.addDate (zone.startOfDay base) 0 0 1)
  | .weekly =>
    let weekday := if zone.weekday base = 0 then 7 else zone.weekday base
    bounded (zone.addDate (zone.startOfDay base) 0 0 (8 - weekday))
  | .monthly => bounded (zone.addDate (zone.startOfMonth base) 0 1 0)
  | .custom =>
    if plan.quotaResetCustomSeconds ≤ 0 then 0
    else bounded (addDuration base plan.quotaResetCustomSeconds 1)

structure ResetCursor where
  base : Int
  next : Int
  advanced : Bool

/-- The loop over missed resets; `none` when the fuel runs out. -/
def catchUpResets (zone : Calendar) (plan : SubscriptionPlan) (endTime now : Int) :
    Nat → ResetCursor → Option ResetCursor
  | 0, _ => none
  | fuel + 1, cursor =>
    if 0 < cursor.next ∧ cursor.next ≤ now then
      catchUpResets zone plan endTime now fuel ⟨cursor.next, calcNextResetTime zone cursor.next plan endTime, true⟩
    else some cursor

def resetStart (zone : Calendar) (plan : SubscriptionPlan) (sub : UserSubscription) : ResetCursor :=
  let base := if sub.lastResetTime ≤ 0 then sub.startTime else sub.lastResetTime
  ⟨base, calcNextResetTime zone base plan sub.endTime, false⟩

def UserSubscription.afterResets (sub : UserSubscription) (cursor : ResetCursor) : UserSubscription :=
  if cursor.advanced then
    { sub with amountUsed := 0, lastResetTime := cursor.base, nextResetTime := cursor.next }
  else if sub.nextResetTime = 0 ∧ 0 < cursor.next then
    { sub with lastResetTime := cursor.base, nextResetTime := cursor.next }
  else sub

/-- Each turn of the loop moves the next reset by at least a second, up to `now` or down to zero, unless it stands still
for ever; so this fuel is enough. -/
def resetDue (zone : Calendar) (plan : SubscriptionPlan) (now : Int) (sub : UserSubscription) :
    Option UserSubscription :=
  if 0 < sub.nextResetTime ∧ now < sub.nextResetTime then some sub
  else if normalizeResetPeriod plan.quotaResetPeriod = .never then some sub
  else
    let start := resetStart zone plan sub
    (catchUpResets zone plan sub.endTime now ((max now start.next).toNat + 2) start).map sub.afterResets

def saveUserSubscription (sub : UserSubscription) : BillingTx Unit := do
  let db ← Tx.read
  Tx.write { db with userSubscriptions := db.userSubscriptions.put sub }

def getSubscriptionPlanByIdTx (id : Int) : BillingTx SubscriptionPlan :=
  if id ≤ 0 then Tx.fail .invalidPlanId
  else do
    let db ← Tx.read
    Tx.orFail .recordNotFound (db.plans.find id)

structure SubscriptionPreConsumeResult where
  userSubscriptionId : Int
  preConsumed : Int
  amountTotal : Int
  amountUsedBefore : Int
  amountUsedAfter : Int

def EndsBefore (a b : UserSubscription) : Prop :=
  a.endTime < b.endTime ∨ (a.endTime = b.endTime ∧ a.id ≤ b.id)

instance : DecidableRel EndsBefore := fun a b => by unfold EndsBefore; infer_instance

def activeUserSubscriptions (db : DB) (userId : Int) : List UserSubscription :=
  (db.userSubscriptions.rows.filter fun sub =>
    sub.userId = userId ∧ sub.status = .active ∧ db.now < sub.endTime).insertionSort EndsBefore

def postConsumeUserSubscriptionDeltaTx (userSubscriptionId delta : Int) : BillingTx Unit := do
  let db ← Tx.read
  let sub ← Tx.orFail .recordNotFound (db.userSubscriptions.find userSubscriptionId)
  let newUsed := max (sub.amountUsed + delta) 0
  Tx.ensure (¬(0 < sub.amountTotal ∧ sub.amountTotal < newUsed))
    (.subscriptionUsedExceedsTotal newUsed sub.amountTotal)
  saveUserSubscription { sub with amountUsed := newUsed }

def postConsumeUserSubscriptionDelta (db : DB) (userSubscriptionId delta : Int) : Except BillingError Unit × DB :=
  if userSubscriptionId ≤ 0 then (.error .invalidUserSubscriptionId, db)
  else if delta = 0 then (.ok (), db)
  else (postConsumeUserSubscriptionDeltaTx userSubscriptionId delta).commit db

def returnPreConsumed (record : SubscriptionPreConsumeRecord) : BillingTx Unit :=
  if 0 < record.preConsumed then
    postConsumeUserSubscriptionDeltaTx record.userSubscriptionId (-record.preConsumed)
  else pure ()

def refundSubscriptionPreConsumeTx (requestId : String) : BillingTx Unit := do
  let db ← Tx.read
  let record ← Tx.orFail .recordNotFound (db.preConsumeRecords.find requestId)
  if record.status = .refunded then pure ()
  else do
    returnPreConsumed record
    let db ← Tx.read
    let refunded := { record with status := .refunded, updatedAt := db.now }
    Tx.write { db with preConsumeRecords := db.preConsumeRecords.put refunded }

def refundSubscriptionPreConsume (db : DB) (requestId : String) : Except BillingError Unit × DB :=
  if trimSpace requestId = "" then (.error .requestIdEmpty, db)
  else (refundSubscriptionPreConsumeTx requestId).commit db

def cleanupSubscriptionPreConsumeRecords (db : DB) (olderThanSeconds : Int) : DB :=
  let older := if olderThanSeconds ≤ 0 then 7 * 24 * 3600 else olderThanSeconds
  { db with preConsumeRecords := db.preConsumeRecords.keep fun record =>
      decide (¬record.updatedAt < db.now - older) }

def dueSubscriptions (db : DB) (limit : Int) : List UserSubscription :=
  let limit := if limit ≤ 0 then 200 else limit
  ((db.userSubscriptions.rows.filter fun sub =>
    0 < sub.nextResetTime ∧ sub.nextResetTime ≤ db.now ∧ sub.status = .active).insertionSort
      fun a b => a.nextResetTime ≤ b.nextResetTime).take limit.toNat

def subscriptionDue (db : DB) (id : Int) : Bool :=
  ((db.userSubscriptions.find id).filter fun sub => 0 < sub.nextResetTime ∧ sub.nextResetTime ≤ db.now).isSome

structure SubscriptionResetResult where
  planId : Int
  matchedCount : Int
  resetCount : Int
  userCount : Int
  advanceResetTime : Bool
  planTitle : String
  affectedUserIds : List Int

def UserSubscription.resetByAdmin (zone : Calendar) (plan : SubscriptionPlan) (now : Int) (advanceResetTime : Bool)
    (sub : UserSubscription) : UserSubscription :=
  let nextReset := calcNextResetTime zone now plan sub.endTime
  if advanceResetTime then
    { sub with amountUsed := 0, nextResetTime := nextReset, lastResetTime := if 0 < nextReset then now else 0 }
  else { sub with amountUsed := 0 }

section
variable (sub : UserSubscription) (plan : SubscriptionPlan) (now : Int)

/-- The source skips the save of a row it did not change, which would write the same values. -/
def maybeResetUserSubscriptionWithPlanTx : BillingTx UserSubscription := do
  let db ← Tx.read
  let current ← Tx.orFail .resetLoopDiverges (resetDue db.zone plan now sub)
  saveUserSubscription current
  return current

def resetUserSubscriptionTx (advanceResetTime : Bool) : BillingTx Unit := do
  let db ← Tx.read
  saveUserSubscription (sub.resetByAdmin db.zone plan now advanceResetTime)

end

def consumeFirstFitting (requestId : String) (userId amount now : Int) :
    List UserSubscription → BillingTx SubscriptionPreConsumeResult
  | [] => Tx.fail (.subscriptionQuotaInsufficient amount)
  | candidate :: rest => do
      let plan ← getSubscriptionPlanByIdTx candidate.planId
      let sub ← maybeResetUserSubscriptionWithPlanTx candidate plan now
      if 0 < sub.amountTotal ∧ sub.amountTotal - sub.amountUsed < amount then
        consumeFirstFitting requestId userId amount now rest
      else do
        let db ← Tx.read
        let record : SubscriptionPreConsumeRecord :=
          { requestId, userId, userSubscriptionId := sub.id, preConsumed := amount,
            status := .consumed, updatedAt := db.now }
        Tx.write { db with preConsumeRecords := db.preConsumeRecords.put record }
        saveUserSubscription { sub with amountUsed := sub.amountUsed + amount }
        return { userSubscriptionId := sub.id, preConsumed := amount, amountTotal := sub.amountTotal,
                 amountUsedBefore := sub.amountUsed, amountUsedAfter := sub.amountUsed + amount }

/-- The insert of the record cannot meet a duplicate here: the transaction looked it up before. -/
def preConsumeUserSubscriptionTx (requestId : String) (userId amount : Int) :
    BillingTx SubscriptionPreConsumeResult :=
  if userId ≤ 0 ∨ trimSpace requestId = "" ∨ amount ≤ 0 then
    Tx.fail .invalidSubscriptionPreConsumeArgs
  else do
    let db ← Tx.read
    match db.preConsumeRecords.find requestId with
    | some existing =>
      Tx.ensure (existing.status ≠ .refunded) .subscriptionPreConsumeAlreadyRefunded
      let sub ← Tx.orFail .recordNotFound (db.userSubscriptions.find existing.userSubscriptionId)
      return { userSubscriptionId := sub.id, preConsumed := existing.preConsumed,
               amountTotal := sub.amountTotal, amountUsedBefore := sub.amountUsed,
               amountUsedAfter := sub.amountUsed }
    | none =>
      let subs := activeUserSubscriptions db userId
      Tx.ensure (subs ≠ []) .noActiveSubscription
      consumeFirstFitting requestId userId amount db.now subs

def preConsumeUserSubscription (db : DB) (requestId : String) (userId amount : Int) :
    Except BillingError SubscriptionPreConsumeResult × DB :=
  if userId ≤ 0 then (.error .invalidUserId, db)
  else if trimSpace requestId = "" then (.error .requestIdEmpty, db)
  else if amount ≤ 0 then (.error .amountNotPositive, db)
  else (preConsumeUserSubscriptionTx requestId userId amount).commit db

/-- The row is read again in its own transaction; the status is not. -/
def resetDueSubscriptionTx (id : Int) (plan : SubscriptionPlan) : BillingTx Unit := do
  let db ← Tx.read
  match (db.userSubscriptions.find id).filter fun sub =>
      0 < sub.nextResetTime ∧ sub.nextResetTime ≤ db.now with
  | none => pure ()
  | some locked => do
      let _ ← maybeResetUserSubscriptionWithPlanTx locked plan db.now

def resetEachDue (db : DB) : List UserSubscription → Int → Except BillingError Int × DB
  | [], resetCount => (.ok resetCount, db)
  | sub :: rest, resetCount =>
    match (getSubscriptionPlanByIdTx sub.planId).commit db with
    | (.error _, db) => resetEachDue db rest resetCount
    | (.ok plan, db) =>
      let counted := if subscriptionDue db sub.id then resetCount + 1 else resetCount
      match (resetDueSubscriptionTx sub.id plan).commit db with
      | (.error failure, db) => (.error failure, db)
      | (.ok _, db) => resetEachDue db rest counted

def resetDueSubscriptions (db : DB) (limit : Int) : Except BillingError Int × DB :=
  resetEachDue db (dueSubscriptions db limit) 0

def resetEachSubscriptionTx (plan : SubscriptionPlan) (now : Int) (advanceResetTime : Bool) :
    List UserSubscription → BillingTx Unit
  | [] => pure ()
  | sub :: rest => do
      resetUserSubscriptionTx sub plan now advanceResetTime
      resetEachSubscriptionTx plan now advanceResetTime rest

def buildSubscriptionResetResult (plan : SubscriptionPlan) (subs : List UserSubscription)
    (advanceResetTime : Bool) : SubscriptionResetResult :=
  let userIds := ((subs.map (·.userId)).reverse.dedup).reverse
  { planId := plan.id, matchedCount := subs.length, resetCount := subs.length, userCount := userIds.length,
    advanceResetTime, planTitle := plan.title, affectedUserIds := userIds }

def UserSubscription.OfPlan (sub : UserSubscription) (planId now : Int) : Prop :=
  sub.planId = planId ∧ sub.status = .active ∧ now < sub.endTime

instance (sub : UserSubscription) (planId now : Int) : Decidable (sub.OfPlan planId now) := by
  unfold UserSubscription.OfPlan; infer_instance

def adminResetUserSubscriptionsByPlanTx (userId : Int) (plan : SubscriptionPlan) (now : Int)
    (advanceResetTime : Bool) : BillingTx SubscriptionResetResult := do
  let db ← Tx.read
  let subs := (db.userSubscriptions.rows.filter fun sub =>
    sub.userId = userId ∧ sub.OfPlan plan.id now).insertionSort EndsBefore
  Tx.ensure (subs ≠ []) .noActivePlanSubscription
  resetEachSubscriptionTx plan now advanceResetTime subs
  return buildSubscriptionResetResult plan subs advanceResetTime

def adminResetUserSubscriptionsByPlan (db : DB) (userId planId : Int) (advanceResetTime : Bool) :
    Except BillingError SubscriptionResetResult × DB :=
  if userId ≤ 0 ∨ planId ≤ 0 then (.error .invalidUserIdOrPlanId, db)
  else Tx.commit (do
    let plan ← getSubscriptionPlanByIdTx planId
    adminResetUserSubscriptionsByPlanTx userId plan db.now advanceResetTime) db

def UserThenEndsBefore (a b : UserSubscription) : Prop :=
  a.userId < b.userId ∨ (a.userId = b.userId ∧ EndsBefore a b)

instance : DecidableRel UserThenEndsBefore := fun a b => by unfold UserThenEndsBefore; infer_instance

/-- Unlike the reset of one user's subscriptions, this one succeeds without a match. -/
def adminResetPlanSubscriptionsTx (plan : SubscriptionPlan) (now : Int) (advanceResetTime : Bool) :
    BillingTx SubscriptionResetResult := do
  let db ← Tx.read
  let subs := (db.userSubscriptions.rows.filter fun sub => sub.OfPlan plan.id now).insertionSort UserThenEndsBefore
  resetEachSubscriptionTx plan now advanceResetTime subs
  return buildSubscriptionResetResult plan subs advanceResetTime

def adminResetPlanSubscriptions (db : DB) (planId : Int) (advanceResetTime : Bool) :
    Except BillingError SubscriptionResetResult × DB :=
  if planId ≤ 0 then (.error .invalidPlanIdOfReset, db)
  else Tx.commit (do
    let plan ← getSubscriptionPlanByIdTx planId
    adminResetPlanSubscriptionsTx plan db.now advanceResetTime) db

end Wildflow.Billing
