import Wildflow.Billing.Quota
import Wildflow.Store.Run
import Mathlib.Algebra.Order.Floor.Defs
import Mathlib.Data.Rat.Floor

/-!
# Realtime sessions

A session pre-consumes, is debited for the usage that its events report while the socket is open, and settles for the
usage of the whole session when it closes.
-/

namespace Wildflow.Billing
open Wildflow.Store

structure RatioSettings where
  quotaPerUnit : ℚ
  modelRatio : String → ℚ
  completionRatio : String → ℚ
  audioRatio : String → ℚ
  audioCompletionRatio : String → ℚ
  groupRatio : String → ℚ
  groupGroupRatio : String → String → Option ℚ

structure QuotaInfo where
  inputTextTokens : Int
  inputAudioTokens : Int
  outputTextTokens : Int
  outputAudioTokens : Int
  modelName : String
  usePrice : Bool
  modelPrice : ℚ
  modelRatio : ℚ
  groupRatio : ℚ

def minQuota : Int := -2 ^ 31

/-- `decimal.Round(0)`: halves go away from zero. -/
def roundAwayFromZero (value : ℚ) : Int :=
  if 0 ≤ value then ⌊value + 1 / 2⌋ else -⌊-value + 1 / 2⌋

def quotaFromDecimal (value : ℚ) : Int := max minQuota (min maxQuota (roundAwayFromZero value))

def calculateAudioQuota (settings : RatioSettings) (info : QuotaInfo) : Int :=
  if info.usePrice then quotaFromDecimal (info.modelPrice * settings.quotaPerUnit * info.groupRatio)
  else
    let ratio := info.groupRatio * info.modelRatio
    let quota :=
      (info.inputTextTokens + info.outputTextTokens * settings.completionRatio info.modelName +
        info.inputAudioTokens * settings.audioRatio info.modelName +
        info.outputAudioTokens * settings.audioRatio info.modelName *
          settings.audioCompletionRatio info.modelName) * ratio
    quotaFromDecimal (if ratio ≠ 0 ∧ quota ≤ 0 then 1 else quota)

structure RealtimeUsage where
  totalTokens : Int
  inputTokens : Int
  outputTokens : Int
  inputTextTokens : Int
  inputAudioTokens : Int
  outputTextTokens : Int
  outputAudioTokens : Int

def RealtimeUsage.zero : RealtimeUsage := ⟨0, 0, 0, 0, 0, 0, 0⟩

def RealtimeUsage.add (a b : RealtimeUsage) : RealtimeUsage where
  totalTokens := a.totalTokens + b.totalTokens
  inputTokens := a.inputTokens + b.inputTokens
  outputTokens := a.outputTokens + b.outputTokens
  inputTextTokens := a.inputTextTokens + b.inputTextTokens
  inputAudioTokens := a.inputAudioTokens + b.inputAudioTokens
  outputTextTokens := a.outputTextTokens + b.outputTextTokens
  outputAudioTokens := a.outputAudioTokens + b.outputAudioTokens

/-- What the increments look ratios up by, the frozen price data of the settlement, and what the tiered expression makes of
a usage. -/
structure RealtimePricing where
  originModelName : String
  upstreamModelName : String
  userGroup : String
  usingGroup : String
  autoGroup : Option String
  usePrice : Bool
  priceUsePrice : Bool
  priceModelPrice : ℚ
  priceModelRatio : ℚ
  priceGroupRatio : ℚ
  tieredSettle : RealtimeUsage → Option Int

section
variable (settings : RatioSettings) (pricing : RealtimePricing)

/-- An increment looks up its ratios anew, by the original model name and the selected group. -/
def preWssQuota (usage : RealtimeUsage) : Int :=
  let usingGroup := pricing.autoGroup.getD pricing.usingGroup
  let groupRatio := (settings.groupGroupRatio pricing.userGroup usingGroup).getD (settings.groupRatio usingGroup)
  calculateAudioQuota settings
    { inputTextTokens := usage.inputTextTokens, inputAudioTokens := usage.inputAudioTokens,
      outputTextTokens := usage.outputTextTokens, outputAudioTokens := usage.outputAudioTokens,
      modelName := pricing.originModelName, usePrice := pricing.usePrice, modelPrice := 0,
      modelRatio := settings.modelRatio pricing.originModelName, groupRatio }

/-- The settlement goes by the upstream model name and the frozen price data. -/
def postWssQuota (usage : RealtimeUsage) : Int :=
  if usage.totalTokens = 0 then 0
  else (pricing.tieredSettle usage).getD (calculateAudioQuota settings
    { inputTextTokens := usage.inputTextTokens, inputAudioTokens := usage.inputAudioTokens,
      outputTextTokens := usage.outputTextTokens, outputAudioTokens := usage.outputAudioTokens,
      modelName := pricing.upstreamModelName, usePrice := pricing.priceUsePrice,
      modelPrice := pricing.priceModelPrice, modelRatio := pricing.priceModelRatio,
      groupRatio := pricing.priceGroupRatio })

def preWssConsumeQuota (db : DB) (info : RelayInfo) (usage : RealtimeUsage) : Except BillingError Unit × DB :=
  if pricing.usePrice then (.ok (), db)
  else
    let quota := preWssQuota settings pricing usage
    if quota ≤ 0 then (.ok (), db)
    else match reserveUserQuota db info.userId quota with
      | (.error failure, db) => (.error failure, db)
      | (.ok _, db) =>
        if info.isPlayground then (.ok (), db)
        else match reserveTokenQuota db info.tokenId quota info.tokenUnlimited with
          | (.error failure, db) => (.error failure, (increaseUserQuota db info.userId quota false).2)
          | (.ok _, db) => (.ok (), db)

end

inductive RealtimeEvent where
  | client (textTokens audioTokens : Int)
  | output (textTokens audioTokens : Int)
  | responseDone (usage : RealtimeUsage)
  | responseDoneUncounted (textTokens audioTokens : Int)

structure PendingUsage where
  usage : RealtimeUsage
  localUsage : RealtimeUsage

def localInput (textTokens audioTokens : Int) : RealtimeUsage :=
  { RealtimeUsage.zero with
    totalTokens := textTokens + audioTokens, inputTokens := textTokens + audioTokens,
    inputTextTokens := textTokens, inputAudioTokens := audioTokens }

def localOutput (textTokens audioTokens : Int) : RealtimeUsage :=
  { RealtimeUsage.zero with
    totalTokens := textTokens + audioTokens, outputTokens := textTokens + audioTokens,
    outputTextTokens := textTokens, outputAudioTokens := audioTokens }

def PendingUsage.receive (pending : PendingUsage) : RealtimeEvent → PendingUsage
  | .client text audio | .responseDoneUncounted text audio =>
    { pending with localUsage := pending.localUsage.add (localInput text audio) }
  | .output text audio => { pending with localUsage := pending.localUsage.add (localOutput text audio) }
  | .responseDone usage => { pending with usage := pending.usage.add usage }

def PendingUsage.due (pending : PendingUsage) : RealtimeEvent → Option (RealtimeUsage × PendingUsage)
  | .client .. | .output .. => none
  | .responseDone _ => some (pending.usage, ⟨.zero, .zero⟩)
  | .responseDoneUncounted .. => some (pending.localUsage, { pending with localUsage := .zero })

structure RealtimeState where
  pending : PendingUsage
  sumUsage : RealtimeUsage
  failed : Bool
  db : DB

section
variable (settings : RatioSettings) (pricing : RealtimePricing) (info : RelayInfo)

def preConsumeUsage (state : RealtimeState) (usage : RealtimeUsage) : RealtimeState :=
  match preWssConsumeQuota settings pricing state.db info usage with
  | (.error _, db) => { state with sumUsage := state.sumUsage.add usage, failed := true, db }
  | (.ok _, db) => { state with sumUsage := state.sumUsage.add usage, db }

def realtimeStep (state : RealtimeState) (event : RealtimeEvent) : RealtimeState :=
  if state.failed then state
  else
    let pending := state.pending.receive event
    match pending.due event with
    | none => { state with pending }
    | some (usage, cleared) =>
      let billed := preConsumeUsage settings pricing info { state with pending } usage
      if billed.failed then billed else { billed with pending := cleared }

def realtimeClose (state : RealtimeState) : RealtimeState :=
  let state :=
    if state.pending.usage.totalTokens = 0 then state
    else preConsumeUsage settings pricing info state state.pending.usage
  if state.pending.localUsage.totalTokens = 0 then state
  else preConsumeUsage settings pricing info state state.pending.localUsage

def realtimeHandler (db : DB) (events : List RealtimeEvent) : RealtimeState :=
  realtimeClose settings pricing info (runSteps (realtimeStep settings pricing info)
    { pending := ⟨.zero, .zero⟩, sumUsage := .zero, failed := false, db } events)

end

structure RealtimeOutcome where
  quota : Int
  settled : Except SessionError Unit
  failed : Bool
  session : BillingSession
  db : DB

def realtimeSession (settings : RatioSettings) (pricing : RealtimePricing) (db : DB) (info : RelayInfo)
    (preConsumedQuota : Int) (events : List RealtimeEvent) : Except SessionError RealtimeOutcome × DB :=
  match preConsumeBilling db info false preConsumedQuota with
  | (.error failure, db) => (.error failure, db)
  | (.ok session, db) =>
    match session.markProviderStarted db with
    | (.error failure, db) => (.error failure, (session.refundUnsent db).2)
    | (.ok _, db) =>
      let state := realtimeHandler settings pricing session.relayInfo db events
      let quota := postWssQuota settings pricing state.sumUsage
      let db :=
        if state.sumUsage.totalTokens = 0 then state.db
        else updateUserUsedQuotaAndRequestCount state.db info.userId quota
      let (settled, session, db) := session.settle db quota
      (.ok { quota, settled, failed := state.failed, session, db }, db)

end Wildflow.Billing
