import Wildflow.Billing.Realtime

/-!
# The retry loop of a request

A request pre-consumes its estimate and tries one channel after the other. With tiered billing the estimate follows the
ratio of the attempt's group, and the session reserves what is missing.
-/

namespace Wildflow.Billing
open Wildflow.Store

structure BillingSnapshot where
  billingMode : String
  groupRatio : ℚ
  estimatedQuotaBeforeGroup : ℚ
  estimatedQuotaAfterGroup : Int

structure TieredRelay extends BilledRelay where
  tieredBillingSnapshot : Option BillingSnapshot
  groupRatio : ℚ
  freeModel : Bool
  quotaClamped : Bool

inductive RelayError where
  | channelUnavailable
  | tieredEstimateClamped
  | preConsumeFailed (cause : SessionError)
  | reserveFailed (cause : SessionError)
  | bodyUnreadable
  | markProviderStartedFailed (cause : SessionError)
  | attemptFailed
deriving DecidableEq

/-- A rounded value outside the range of a quota is an error, not saturated. -/
def quotaRoundStrict (value : ℚ) : Option Int :=
  if minQuota ≤ roundAwayFromZero value ∧ roundAwayFromZero value ≤ maxQuota then
    some (roundAwayFromZero value)
  else none

def refreshTieredBillingGroup (relay : TieredRelay) : Except RelayError (Option BillingSnapshot) :=
  match relay.tieredBillingSnapshot with
  | none => .ok none
  | some snap =>
    if snap.billingMode ≠ "tiered_expr" then .ok none
    else if snap.groupRatio = relay.groupRatio then .ok (some snap)
    else match quotaRoundStrict (snap.estimatedQuotaBeforeGroup * relay.groupRatio) with
      | none => .error .tieredEstimateClamped
      | some quota =>
        .ok (some { snap with groupRatio := relay.groupRatio, estimatedQuotaAfterGroup := quota })

def BillingSession.recordPreConsumed (s : BillingSession) : BillingSession :=
  { s with relayInfo := { s.relayInfo with finalPreConsumedQuota := s.preConsumedQuota } }

/-- A paid group starts the session that a free one skipped, or raises the reservation there is. -/
def prepareTieredBillingForSelectedGroup (relay : TieredRelay) (db : DB) :
    Except RelayError Unit × TieredRelay × DB :=
  match refreshTieredBillingGroup relay with
  | .error failure => (.error failure, relay, db)
  | .ok none => (.ok (), relay, db)
  | .ok (some snap) =>
    let relay := { relay with tieredBillingSnapshot := some snap }
    if snap.groupRatio = 0 then (.ok (), relay, db)
    else
      let relay := { relay with freeModel := false }
      match relay.billing with
      | none =>
        match preConsumeBilling db relay.info relay.quotaClamped snap.estimatedQuotaAfterGroup with
        | (.error failure, db) => (.error (.preConsumeFailed failure), relay, db)
        | (.ok session, db) => (.ok (), { relay with billing := some session }, db)
      | some session =>
        match session.reserve db snap.estimatedQuotaAfterGroup with
        | (.error failure, session, db) =>
          (.error (.reserveFailed failure), { relay with billing := some session }, db)
        | (.ok _, session, db) => (.ok (), { relay with billing := some session.recordPreConsumed }, db)

def TieredRelay.markProviderStarted (relay : TieredRelay) (db : DB) : Except SessionError Unit × DB :=
  match relay.billing with
  | some session => session.markProviderStarted db
  | none => (.ok (), db)

inductive ProviderOutcome where
  | unsent | unknown | explicitFailure
deriving DecidableEq

structure RelayAttempt where
  groupRatio : Option ℚ
  bodyReadable : Bool
  failure : Option ProviderOutcome
  retriable : Bool

structure RelayEnd where
  failure : Option RelayError
  providerResult : ProviderOutcome
  relay : TieredRelay
  db : DB

def relayAttempts (relay : TieredRelay) (db : DB) (providerResult : ProviderOutcome) :
    List RelayAttempt → RelayEnd
  | [] => { failure := none, providerResult, relay, db }
  | attempt :: rest =>
    match attempt.groupRatio with
    | none => { failure := some .channelUnavailable, providerResult, relay, db }
    | some groupRatio =>
      match prepareTieredBillingForSelectedGroup { relay with groupRatio } db with
      | (.error failure, relay, db) => { failure := some failure, providerResult, relay, db }
      | (.ok _, relay, db) =>
        if !attempt.bodyReadable then { failure := some .bodyUnreadable, providerResult, relay, db }
        else match relay.markProviderStarted db with
          | (.error failure, db) =>
            { failure := some (.markProviderStartedFailed failure), providerResult, relay, db }
          | (.ok _, db) =>
            match attempt.failure with
            | none => { failure := none, providerResult := .unknown, relay, db }
            | some outcome =>
              if outcome = .unknown || !attempt.retriable || rest.isEmpty then
                { failure := some .attemptFailed, providerResult := outcome, relay, db }
              else relayAttempts relay db outcome rest

/-- The deferred refund of a failed request. When the provider may have served it, nothing is refunded. -/
def RelayEnd.refund (result : RelayEnd) : RelayEnd :=
  match result.failure, result.relay.billing with
  | some _, some session =>
    match result.providerResult with
    | .unsent =>
      let (session, db) := session.refundUnsent result.db
      { result with relay := { result.relay with billing := some session }, db }
    | .explicitFailure =>
      let (session, db) := session.refund result.db
      { result with relay := { result.relay with billing := some session }, db }
    | .unknown => result
  | _, _ => result

structure PriceData where
  freeModel : Bool
  quotaToPreConsume : Int
  quotaClamped : Bool
  groupRatio : ℚ
  tieredBillingSnapshot : Option BillingSnapshot

def relay (db : DB) (info : RelayInfo) (price : PriceData) (attempts : List RelayAttempt) : RelayEnd :=
  let start : TieredRelay :=
    { info, billing := none, tieredBillingSnapshot := price.tieredBillingSnapshot,
      groupRatio := price.groupRatio, freeModel := price.freeModel, quotaClamped := price.quotaClamped }
  if price.freeModel then (relayAttempts start db .unsent attempts).refund
  else match preConsumeBilling db info price.quotaClamped price.quotaToPreConsume with
    | (.error failure, db) =>
      { failure := some (.preConsumeFailed failure), providerResult := .unsent, relay := start, db }
    | (.ok session, db) => (relayAttempts { start with billing := some session } db .unsent attempts).refund

end Wildflow.Billing
