import Wildflow.Billing.Reservation

/-!
# Billing sessions

Pre-consume, top up, mark, settle or refund. A session keeps its own account of what it took, next to the reservation
record. A failed call keeps what it did before failing.
-/

namespace Wildflow.Billing
open Wildflow.Store

structure RelayInfo where
  requestId : String
  userId : Int
  tokenId : Int
  tokenKey : String
  tokenUnlimited : Bool
  isPlayground : Bool
  billingPreference : String
  finalPreConsumedQuota : Int
  billingSource : BillingSource
  subscriptionId : Int
  subscriptionPreConsumed : Int
  subscriptionPostDelta : Int

inductive FundingSource where
  | wallet (userId consumed : Int)
  | subscription (requestId : String) (userId amount subscriptionId preConsumed : Int)

def FundingSource.source : FundingSource → BillingSource
  | .wallet .. => .wallet
  | .subscription .. => .subscription

structure BillingSession where
  relayInfo : RelayInfo
  funding : FundingSource
  preConsumedQuota : Int
  tokenConsumed : Int
  extraReserved : Int
  alreadyReserved : Bool
  fundingSettled : Bool
  settled : Bool
  refunded : Bool

inductive ErrorCode where
  | insufficientUserQuota | updateDataError | queryDataError | preConsumeTokenQuotaFailed | modelPriceError
deriving DecidableEq

inductive SessionError where
  | store (cause : BillingError)
  | coded (code : ErrorCode) (cause : BillingError)
  | userQuotaEmpty (userQuota : Int)
  | userQuotaShort (userQuota preConsumedQuota : Int)
  | subscriptionUnavailable (cause : BillingError)
  | providerDispatchReplay (requestId : String)
  | markProviderStarted (requestId : String) (cause : BillingError)
  | quotaClamped
  | preConsumeNegative (preConsumedQuota : Int)
deriving DecidableEq

def SessionError.code : SessionError → Option ErrorCode
  | .coded code _ => some code
  | .quotaClamped | .preConsumeNegative _ => some .modelPriceError
  | .userQuotaEmpty _ | .userQuotaShort .. | .subscriptionUnavailable _ => some .insufficientUserQuota
  | .store _ | .providerDispatchReplay _ | .markProviderStarted .. => none

def FundingSource.settle (funding : FundingSource) (db : DB) (delta : Int) : Except BillingError Unit × DB :=
  if delta = 0 then (.ok (), db)
  else match funding with
    | .wallet userId _ =>
      if 0 < delta then decreaseUserQuota db userId delta false
      else increaseUserQuota db userId (-delta) false
    | .subscription _ _ _ subscriptionId _ => postConsumeUserSubscriptionDelta db subscriptionId delta

/-- The source retries a failed subscription refund, which changes nothing when it fails. -/
def FundingSource.refund (funding : FundingSource) (db : DB) : DB :=
  match funding with
  | .wallet userId consumed =>
    if consumed ≤ 0 then db else (increaseUserQuota db userId consumed false).2
  | .subscription requestId _ _ _ preConsumed =>
    if preConsumed ≤ 0 ∨ trimSpace requestId = "" then db
    else ((refundSubscriptionPreConsumeTx requestId).commit db).2

def preConsumeTokenQuota (db : DB) (info : RelayInfo) (quota : Int) : Except BillingError Unit × DB :=
  if quota < 0 then (.error .quotaNegative, db)
  else if info.tokenId ≤ 0 ∧ ¬info.isPlayground then
    match db.tokens.rows.find? fun token => token.key = info.tokenKey ∧ token.deleted = false with
    | none => (.error .recordNotFound, db)
    | some token => reserveTokenQuota db token.id quota token.unlimitedQuota
  else reserveTokenQuota db info.tokenId quota info.tokenUnlimited

namespace BillingSession

variable (s : BillingSession)

def hasReservation : Bool := 0 < s.preConsumedQuota

def syncRelayInfo : BillingSession :=
  let info := { s.relayInfo with
    finalPreConsumedQuota := s.preConsumedQuota, billingSource := s.funding.source }
  { s with relayInfo :=
    match s.funding with
    | .subscription _ _ _ subscriptionId preConsumed =>
      { info with
        subscriptionId, subscriptionPreConsumed := preConsumed + s.extraReserved,
        subscriptionPostDelta := 0 }
    | .wallet .. => { info with subscriptionId := 0, subscriptionPreConsumed := 0 } }

def preConsumeFailure (cause : BillingError) : SessionError :=
  match cause with
  | .insufficientUserQuota | .insufficientTokenQuota | .noActiveSubscription
  | .subscriptionQuotaInsufficient _ => .coded .insufficientUserQuota cause
  | _ => .coded .updateDataError cause

variable (db : DB)

/-- The result of the subscription reservation, the id of its subscription with it, is dropped. -/
def reserveFirst (quota : Int) : Except BillingError BillingSession × DB :=
  let info := s.relayInfo
  match s.funding with
  | .wallet userId _ =>
    match reserveWalletBillingQuota db info.requestId info.userId info.tokenId quota info.tokenUnlimited with
    | (.error failure, db) => (.error failure, db)
    | (.ok reserved, db) =>
      (.ok { s with funding := .wallet userId quota, tokenConsumed := quota,
                    alreadyReserved := s.alreadyReserved || !reserved }, db)
  | .subscription requestId userId amount subscriptionId _ =>
    match reserveSubscriptionBillingQuota db info.requestId info.userId info.tokenId quota info.tokenUnlimited with
    | (.error failure, db) => (.error failure, db)
    | (.ok (_, reserved), db) =>
      (.ok { s with funding := .subscription requestId userId amount subscriptionId quota, tokenConsumed := quota,
                    alreadyReserved := s.alreadyReserved || !reserved }, db)

def preConsume (s : BillingSession) (db : DB) (quota : Int) : Except SessionError BillingSession × DB :=
  if 0 < quota then
    match s.reserveFirst db quota with
    | (.error failure, db) => (.error (preConsumeFailure failure), db)
    | (.ok s, db) => (.ok { s with preConsumedQuota := quota }.syncRelayInfo, db)
  else (.ok { s with preConsumedQuota := quota }.syncRelayInfo, db)

section
variable (delta : Int)

def reserveFunding : Except SessionError Unit × BillingSession × DB :=
  match s.funding with
  | .wallet userId consumed =>
    match decreaseUserQuota db userId delta false with
    | (.error failure, db) => (.error (.coded .updateDataError failure), s, db)
    | (.ok _, db) => (.ok (), { s with funding := .wallet userId (consumed + delta) }, db)
  | .subscription _ _ _ subscriptionId _ =>
    match postConsumeUserSubscriptionDelta db subscriptionId delta with
    | (.error failure, db) => (.error (.subscriptionUnavailable failure), s, db)
    | (.ok _, db) => (.ok (), s, db)

def rollbackFundingReserve : BillingSession × DB :=
  match s.funding with
  | .wallet userId consumed =>
    match increaseUserQuota db userId delta false with
    | (.error _, db) => (s, db)
    | (.ok _, db) => ({ s with funding := .wallet userId (consumed - delta) }, db)
  | .subscription _ _ _ subscriptionId _ =>
    (s, (postConsumeUserSubscriptionDelta db subscriptionId (-delta)).2)

def reserveToken : Except SessionError Unit × DB :=
  if delta ≤ 0 ∨ s.relayInfo.isPlayground then (.ok (), db)
  else match preConsumeTokenQuota db s.relayInfo delta with
    | (.error failure, db) => (.error (.coded .preConsumeTokenQuotaFailed failure), db)
    | (.ok _, db) => (.ok (), db)

def reserveWithoutRecord : Except SessionError Unit × BillingSession × DB :=
  match s.reserveFunding db delta with
  | (.error failure, s, db) => (.error failure, s, db)
  | (.ok _, s, db) =>
    match s.reserveToken db delta with
    | (.error failure, db) => (.error failure, s.rollbackFundingReserve db delta)
    | (.ok _, db) => (.ok (), s, db)

def topUp : BillingSession :=
  { s with preConsumedQuota := s.preConsumedQuota + delta, tokenConsumed := s.tokenConsumed + delta,
           extraReserved := s.extraReserved + delta }.syncRelayInfo

def reserve (targetQuota : Int) : Except SessionError Unit × BillingSession × DB :=
  if s.settled ∨ s.refunded ∨ targetQuota ≤ s.preConsumedQuota then (.ok (), s, db)
  else
    let delta := targetQuota - s.preConsumedQuota
    match appendBillingReservation db s.relayInfo.requestId delta with
    | (.ok _, db) => (.ok (), s.topUp delta, db)
    | (.error failure, db) =>
      if failure ≠ .billingReservationNotFound then (.error (.store failure), s, db)
      else match s.reserveWithoutRecord db delta with
        | (.error failure, s, db) => (.error failure, s, db)
        | (.ok _, s, db) => (.ok (), s.topUp delta, db)

def markProviderStarted (s : BillingSession) (db : DB) : Except SessionError Unit × DB :=
  if s.settled ∨ s.refunded ∨ ¬s.hasReservation then (.ok (), db)
  else if s.alreadyReserved then (.error (.providerDispatchReplay s.relayInfo.requestId), db)
  else match markBillingReservationProviderStarted db s.relayInfo.requestId with
    | (.error failure, db) => (.error (.markProviderStarted s.relayInfo.requestId failure), db)
    | (.ok _, db) => (.ok (), db)

def addPostDelta : BillingSession :=
  if s.funding.source = .subscription then
    { s with relayInfo := { s.relayInfo with
        subscriptionPostDelta := s.relayInfo.subscriptionPostDelta + delta } }
  else s

def settleToken : Except BillingError Unit × DB :=
  if s.relayInfo.isPlayground then (.ok (), db)
  else if 0 < delta then decreaseTokenQuota db s.relayInfo.tokenId delta
  else increaseTokenQuota db s.relayInfo.tokenId (-delta)

def settleFunding : Except BillingError Unit × DB :=
  if s.fundingSettled then (.ok (), db) else s.funding.settle db delta

def settleWithoutRecord : Except SessionError Unit × BillingSession × DB :=
  match s.settleFunding db delta with
  | (.error failure, db) => (.error (.store failure), s, db)
  | (.ok _, db) =>
    let outcome := s.settleToken db delta
    let s := { { s with fundingSettled := true }.addPostDelta delta with settled := true }
    match outcome with
    | (.error failure, db) => (.error (.store failure), s, db)
    | (.ok _, db) => (.ok (), s, db)

end

def settle (actualQuota : Int)
    (settleReservation : DB → String → Int → Except BillingError Unit × DB := settleBillingReservation) :
    Except SessionError Unit × BillingSession × DB :=
  if s.settled then (.ok (), s, db)
  else
    let delta := actualQuota - s.preConsumedQuota
    if delta = 0 then
      if s.hasReservation then
        match settleReservation db s.relayInfo.requestId 0 with
        | (.ok _, db) => (.ok (), { s with settled := true }, db)
        | (.error failure, db) =>
          if failure ≠ .billingReservationNotFound then
            (.error (.store failure), { s with settled := true }, db)
          else (.ok (), { s with settled := true }, db)
      else (.ok (), { s with settled := true }, db)
    else if s.hasReservation then
      match settleReservation db s.relayInfo.requestId delta with
      | (.ok _, db) => (.ok (), { s.addPostDelta delta with settled := true }, db)
      | (.error failure, db) =>
        if failure = .billingReservationNotFound then s.settleWithoutRecord db delta
        else (.error (.store failure), s, db)
    else s.settleWithoutRecord db delta

/-- `Settle` on a database that fails in `SettleBillingReservation` if there is a `failure`. -/
def settleAmid (failure : Option { cause : BillingError // cause ≠ .billingReservationNotFound })
    (s : BillingSession) (db : DB) (actualQuota : Int) : Except SessionError Unit × BillingSession × DB :=
  s.settle db actualQuota fun db requestId delta =>
    failure.elim (settleBillingReservation db requestId delta) fun cause => (.error cause, db)

def needsRefund : Bool :=
  if s.settled || s.refunded || s.fundingSettled then false
  else if 0 < s.tokenConsumed then true
  else match s.funding with
    | .subscription _ _ _ _ preConsumed => 0 < preConsumed
    | .wallet .. => false

def refundWithoutRecord : DB :=
  let db := s.funding.refund db
  let db :=
    if 0 < s.extraReserved ∧ s.funding.source = .subscription ∧ 0 < s.relayInfo.subscriptionId then
      (postConsumeUserSubscriptionDelta db s.relayInfo.subscriptionId (-s.extraReserved)).2
    else db
  if 0 < s.tokenConsumed ∧ ¬s.relayInfo.isPlayground then
    (increaseTokenQuota db s.relayInfo.tokenId s.tokenConsumed).2
  else db

/-- The source runs the refund in the background; here it has run. -/
def refund : BillingSession × DB :=
  if s.settled ∨ s.refunded ∨ ¬s.needsRefund then (s, db)
  else
    let refunded := { s with refunded := true }
    if s.hasReservation || s.alreadyReserved then
      (refunded, (releaseBillingReservation db s.relayInfo.requestId).2)
    else (refunded, s.refundWithoutRecord db)

def refundUnsent : BillingSession × DB :=
  if s.alreadyReserved then (s, db) else s.refund db

end BillingSession

def BillingSession.start (info : RelayInfo) (funding : FundingSource) : BillingSession where
  relayInfo := info
  funding := funding
  preConsumedQuota := 0
  tokenConsumed := 0
  extraReserved := 0
  alreadyReserved := false
  fundingSettled := false
  settled := false
  refunded := false

def getUserQuota (db : DB) (id : Int) : Int :=
  match db.users.find id with
  | some user => if user.deleted then 0 else user.quota
  | none => 0

inductive BillingPreference where
  | subscriptionFirst | walletFirst | subscriptionOnly | walletOnly

def normalizeBillingPreference (preference : String) : BillingPreference :=
  if trimSpace preference = "wallet_first" then .walletFirst
  else if trimSpace preference = "subscription_only" then .subscriptionOnly
  else if trimSpace preference = "wallet_only" then .walletOnly
  else .subscriptionFirst

def hasActiveUserSubscription (db : DB) (userId : Int) : Except BillingError Bool :=
  if userId ≤ 0 then .error .invalidUserId
  else .ok (db.userSubscriptions.rows.any fun sub =>
    sub.userId = userId ∧ sub.status = .active ∧ db.now < sub.endTime)

def userActiveSubscriptionsAllowWalletOverflow (db : DB) (userId : Int) : Except BillingError Bool :=
  if userId ≤ 0 then .error .invalidUserId
  else .ok (!db.userSubscriptions.rows.any fun sub =>
    sub.userId = userId ∧ sub.status = .active ∧ db.now < sub.endTime ∧ sub.allowWalletOverflow = false)

section
variable (db : DB) (info : RelayInfo) (preConsumedQuota : Int)

def tryWallet : Except SessionError BillingSession × DB :=
  let userQuota := getUserQuota db info.userId
  if userQuota ≤ 0 then (.error (.userQuotaEmpty userQuota), db)
  else if userQuota - preConsumedQuota < 0 then
    (.error (.userQuotaShort userQuota preConsumedQuota), db)
  else
    (BillingSession.start info (.wallet info.userId 0)).preConsume db preConsumedQuota

def trySubscription : Except SessionError BillingSession × DB :=
  let subConsume := if preConsumedQuota ≤ 0 then 1 else preConsumedQuota
  (BillingSession.start info (.subscription info.requestId info.userId subConsume 0 0)).preConsume db subConsume

def newBillingSession : Except SessionError BillingSession × DB :=
  match normalizeBillingPreference info.billingPreference with
  | .subscriptionOnly => trySubscription db info preConsumedQuota
  | .walletOnly => tryWallet db info preConsumedQuota
  | .walletFirst =>
    match tryWallet db info preConsumedQuota with
    | (.ok session, db) => (.ok session, db)
    | (.error failure, db) =>
      if failure.code = some .insufficientUserQuota then trySubscription db info preConsumedQuota
      else (.error failure, db)
  | .subscriptionFirst =>
    match hasActiveUserSubscription db info.userId with
    | .error failure => (.error (.coded .queryDataError failure), db)
    | .ok false => tryWallet db info preConsumedQuota
    | .ok true =>
      match trySubscription db info preConsumedQuota with
      | (.ok session, db) => (.ok session, db)
      | (.error failure, db) =>
        if failure.code = some .insufficientUserQuota then
          match userActiveSubscriptionsAllowWalletOverflow db info.userId with
          | .error failure => (.error (.coded .queryDataError failure), db)
          | .ok true => tryWallet db info preConsumedQuota
          | .ok false => (.error failure, db)
        else (.error failure, db)

end

end Wildflow.Billing
