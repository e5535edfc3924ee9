import Wildflow.Billing.Subscription

/-!
# Billing reservations

A request reserves quota of its user or a subscription together with quota of its token, under its request id, and
later settles or releases it.
-/

namespace Wildflow.Billing
open Wildflow.Store

section
variable (requestId : String)

def validateBillingReservationArgs (userId amount : Int) : Except BillingError Unit :=
  if requestId = "" then .error .billingReservationNotFound
  else if userId ≤ 0 then .error .invalidUserId
  else if amount < 0 then .error .amountNegative
  else .ok ()

def findReservationTx : BillingTx BillingReservationRecord := do
  let db ← Tx.read
  Tx.orFail .billingReservationNotFound (db.reservations.find requestId)

/-- `UPDATE … SET state = ? WHERE request_id = ? AND state = ?`, and the number of rows changed. -/
def transitionReservation (source target : ReservationState) : BillingTx Nat := do
  let db ← Tx.read
  let updated := db.reservations.updateWhere requestId (fun record => record.state = source)
    fun record => { record with state := target, updatedAt := db.now }
  Tx.write { db with reservations := updated.1 }
  return updated.2

section
variable (record : BillingReservationRecord)

def saveReservation : BillingTx Unit := do
  let db ← Tx.read
  Tx.write { db with reservations := db.reservations.put { record with updatedAt := db.now } }

def appendSource (delta : Int) : BillingTx Unit :=
  match record.source with
  | .wallet => reserveUserQuotaTx record.userId delta
  | .subscription => postConsumeUserSubscriptionDeltaTx record.userSubscriptionId delta

def settleSource (delta : Int) : BillingTx Unit :=
  match record.source with
  | .wallet => adjustUserQuotaDeltaTx record.userId delta
  | .subscription => postConsumeUserSubscriptionDeltaTx record.userSubscriptionId delta

end

/-- False when the request already has a record: the caller must then skip every debit. -/
def claimBillingReservationTx (userId tokenId : Int) (unlimitedToken : Bool)
    (source : ReservationSource) (amount : Int) : BillingTx Bool := do
  let db ← Tx.read
  match db.reservations.find requestId with
  | some _ => return false
  | none =>
    saveReservation
      { requestId, userId, tokenId, unlimitedToken, source, userSubscriptionId := 0, amount,
        topUpAmount := 0, state := .reserved, updatedAt := db.now }
    return true

def reserveWalletBillingQuotaTx (userId tokenId amount : Int) (unlimitedToken : Bool) : BillingTx Bool := do
  let claimed ← claimBillingReservationTx requestId userId tokenId unlimitedToken .wallet amount
  if !claimed then return false
  else do
    reserveUserQuotaTx userId amount
    reserveTokenQuotaTx tokenId amount unlimitedToken
    return true

/-- The pre-consume runs before the claim is looked at. -/
def reserveSubscriptionBillingQuotaTx (userId tokenId amount : Int)
    (unlimitedToken : Bool) : BillingTx (SubscriptionPreConsumeResult × Bool) := do
  let claimed ← claimBillingReservationTx requestId userId tokenId unlimitedToken .subscription amount
  let result ← preConsumeUserSubscriptionTx requestId userId amount
  if !claimed then return (result, false)
  else do
    reserveTokenQuotaTx tokenId amount unlimitedToken
    let record ← findReservationTx requestId
    saveReservation { record with userSubscriptionId := result.userSubscriptionId }
    return (result, true)

/-- Only a record that was not yet marked as sent to the provider takes more quota. -/
def appendBillingReservationTx (delta : Int) : BillingTx Unit := do
  let record ← findReservationTx requestId
  Tx.ensure (record.state = .reserved) .billingReservationStateConflict
  appendSource record delta
  reserveTokenQuotaTx record.tokenId delta record.unlimitedToken
  saveReservation { record with amount := record.amount + delta, topUpAmount := record.topUpAmount + delta }

def settleBillingReservationTx (delta : Int) : BillingTx Unit := do
  let record ← findReservationTx requestId
  if record.state = .settled ∨ record.state = .released then pure ()
  else do
    let rows ← transitionReservation requestId record.state .settled
    if rows = 0 then pure ()
    else if delta ≠ 0 then do
      settleSource record delta
      adjustTokenQuotaDeltaTx record.tokenId delta record.unlimitedToken
    else pure ()

/-- The pre-consume record gives back the first reservation, the appended part goes back by itself. -/
def releaseSource (record : BillingReservationRecord) : BillingTx Unit :=
  match record.source with
  | .wallet => do
      let _ ← updateUser record.userId (fun _ => true) (User.debit (-record.amount))
  | .subscription => do
      refundSubscriptionPreConsumeTx record.requestId
      if 0 < record.topUpAmount then
        postConsumeUserSubscriptionDeltaTx record.userSubscriptionId (-record.topUpAmount)
      else pure ()

def releaseBillingReservationTx (reservedOnly : Bool) : BillingTx Bool := do
  let record ← findReservationTx requestId
  if record.state ≠ .reserved ∧ (reservedOnly = true ∨ record.state ≠ .providerStarted) then return false
  else do
    let rows ← transitionReservation requestId record.state .released
    if rows = 0 then return false
    else do
      releaseSource record
      refundTokenQuotaTx record.tokenId record.amount
      return true

end

section
variable (db : DB) (requestId : String)

def reserveWalletBillingQuota (userId tokenId amount : Int) (unlimitedToken : Bool) : Except BillingError Bool × DB :=
  match validateBillingReservationArgs requestId userId amount with
  | .error failure => (.error failure, db)
  | .ok _ =>
    if amount = 0 then (.ok false, db)
    else (reserveWalletBillingQuotaTx requestId userId tokenId amount unlimitedToken).commit db

def reserveSubscriptionBillingQuota (userId tokenId amount : Int)
    (unlimitedToken : Bool) : Except BillingError (SubscriptionPreConsumeResult × Bool) × DB :=
  match validateBillingReservationArgs requestId userId amount with
  | .error failure => (.error failure, db)
  | .ok _ =>
    if amount ≤ 0 then (.error .amountNotPositive, db)
    else (reserveSubscriptionBillingQuotaTx requestId userId tokenId amount unlimitedToken).commit db

def appendBillingReservation (delta : Int) : Except BillingError Unit × DB :=
  if delta ≤ 0 then (.ok (), db)
  else if requestId = "" then (.error .billingReservationNotFound, db)
  else (appendBillingReservationTx requestId delta).commit db

def markBillingReservationProviderStarted : Except BillingError Unit × DB :=
  if requestId = "" then (.error .billingReservationNotFound, db)
  else Tx.commit (do
    let rows ← transitionReservation requestId .reserved .providerStarted
    if 0 < rows then pure ()
    else do
      let record ← findReservationTx requestId
      Tx.ensure (record.state = .providerStarted) .billingReservationStateConflict) db

def settleBillingReservation (delta : Int) : Except BillingError Unit × DB :=
  if requestId = "" then (.error .billingReservationNotFound, db)
  else (settleBillingReservationTx requestId delta).commit db

def releaseReservation (reservedOnly : Bool) : Except BillingError Bool × DB :=
  if requestId = "" then (.error .billingReservationNotFound, db)
  else (releaseBillingReservationTx requestId reservedOnly).commit db

def releaseBillingReservation : Except BillingError Bool × DB :=
  releaseReservation db requestId false

def releaseUnsentBillingReservation : Except BillingError Bool × DB :=
  releaseReservation db requestId true

end

def billingReservationStaleFloorSeconds : Int := 600

def releaseEach (db : DB) : List BillingReservationRecord → Int → Except BillingError Int × DB
  | [], released => (.ok released, db)
  | record :: rest, released =>
    match releaseUnsentBillingReservation db record.requestId with
    | (.error failure, db) => (.error failure, db)
    | (.ok didRelease, db) => releaseEach db rest (if didRelease then released + 1 else released)

def staleReservations (db : DB) (olderThanSeconds limit : Int) : List BillingReservationRecord :=
  let older := max olderThanSeconds billingReservationStaleFloorSeconds
  let limit := if limit ≤ 0 then 100 else limit
  ((db.reservations.rows.filter fun record =>
    record.state = .reserved ∧ record.updatedAt < db.now - older).insertionSort
      fun a b => a.updatedAt ≤ b.updatedAt).take limit.toNat

def releaseStaleBillingReservations (db : DB) (olderThanSeconds limit : Int) : Except BillingError Int × DB :=
  releaseEach db (staleReservations db olderThanSeconds limit) 0

def cleanupBillingReservationRecords (db : DB) (olderThanSeconds : Int) : DB :=
  let older := if olderThanSeconds ≤ 0 then 7 * 24 * 3600 else olderThanSeconds
  { db with reservations := db.reservations.keep fun record =>
      !((record.state = .settled || record.state = .released) && record.updatedAt < db.now - older) }

end Wildflow.Billing
