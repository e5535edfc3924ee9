import Wildflow.Billing.Session

/-!
# Billing a request

Pre-consume and settlement with or without a session, the per-call reservation, and the direct charge of a request that
reserved nothing.
-/

namespace Wildflow.Billing
open Wildflow.Store

structure PostConsumeQuotaResult where
  fundingApplied : Bool
  tokenApplied : Bool

/-- A request under billing. Once it has a session, the session holds its relay info. -/
structure BilledRelay where
  info : RelayInfo
  billing : Option BillingSession

def BilledRelay.relayInfo (relay : BilledRelay) : RelayInfo :=
  match relay.billing with
  | some session => session.relayInfo
  | none => relay.info

section
variable (db : DB) (info : RelayInfo)

def preConsumeBilling (quotaClamped : Bool) (preConsumedQuota : Int) : Except SessionError BillingSession × DB :=
  if quotaClamped then (.error .quotaClamped, db)
  else if preConsumedQuota < 0 then (.error (.preConsumeNegative preConsumedQuota), db)
  else newBillingSession db info preConsumedQuota

def postConsumeFunding (quota : Int) : Except BillingError RelayInfo × DB :=
  if info.billingSource = .subscription then
    if info.subscriptionId = 0 then (.error .subscriptionIdMissing, db)
    else if quota = 0 then (.ok info, db)
    else match postConsumeUserSubscriptionDelta db info.subscriptionId quota with
      | (.error failure, db) => (.error failure, db)
      | (.ok _, db) =>
        (.ok { info with subscriptionPostDelta := info.subscriptionPostDelta + quota }, db)
  else
    match if 0 < quota then decreaseUserQuota db info.userId quota false
      else increaseUserQuota db info.userId (-quota) false with
    | (.error failure, db) => (.error failure, db)
    | (.ok _, db) => (.ok info, db)

def postConsumeQuotaWithResult (quota : Int) : PostConsumeQuotaResult × Except BillingError Unit × RelayInfo × DB :=
  match postConsumeFunding db info quota with
  | (.error failure, db) => (⟨false, false⟩, .error failure, info, db)
  | (.ok info, db) =>
    if info.isPlayground then (⟨true, false⟩, .ok (), info, db)
    else
      match if 0 < quota then decreaseTokenQuota db info.tokenId quota
        else increaseTokenQuota db info.tokenId (-quota) with
      | (.error failure, db) => (⟨true, false⟩, .error failure, info, db)
      | (.ok _, db) => (⟨true, true⟩, .ok (), info, db)

def postConsumeQuota (quota : Int) : Except BillingError Unit × RelayInfo × DB :=
  (postConsumeQuotaWithResult db info quota).2

def reservePerCallBilling (quota : Int) : Except BillingError Unit × DB :=
  if quota ≤ 0 then (.ok (), db)
  else if info.requestId ≠ "" then
    match reserveWalletBillingQuota db info.requestId info.userId info.tokenId quota info.tokenUnlimited with
    | (.error failure, db) => (.error failure, db)
    | (.ok _, db) => (.ok (), db)
  else match reserveUserQuota db info.userId quota with
    | (.error failure, db) => (.error failure, db)
    | (.ok _, db) =>
      if info.isPlayground then (.ok (), db)
      else match reserveTokenQuota db info.tokenId quota info.tokenUnlimited with
        | (.error failure, db) => (.error failure, (increaseUserQuota db info.userId quota false).2)
        | (.ok _, db) => (.ok (), db)

def settlePerCallBilling (quota : Int) : Except BillingError Unit × DB :=
  if quota ≤ 0 then (.ok (), db)
  else if info.requestId ≠ "" then
    match settleBillingReservation db info.requestId (quota - info.finalPreConsumedQuota) with
    | (.ok _, db) => (.ok (), updateUserUsedQuotaAndRequestCount db info.userId quota)
    | (.error failure, db) =>
      if failure ≠ .billingReservationNotFound then (.error failure, db)
      else (.ok (), updateUserUsedQuotaAndRequestCount db info.userId quota)
  else (.ok (), updateUserUsedQuotaAndRequestCount db info.userId quota)

def releasePerCallBilling : DB :=
  if info.requestId ≠ "" then (releaseBillingReservation db info.requestId).2 else db

end

def settleBilling (db : DB) (relay : BilledRelay) (actualQuota : Int) : Except SessionError Unit × BilledRelay × DB :=
  match relay.billing with
  | some session =>
    let (outcome, session, db) := session.settle db actualQuota
    (outcome, { relay with billing := some session }, db)
  | none =>
    let quotaDelta := actualQuota - relay.info.finalPreConsumedQuota
    if quotaDelta = 0 then (.ok (), relay, db)
    else match postConsumeQuota db relay.info quotaDelta with
      | (.error failure, info, db) => (.error (.store failure), { relay with info }, db)
      | (.ok _, info, db) => (.ok (), { relay with info }, db)

end Wildflow.Billing
