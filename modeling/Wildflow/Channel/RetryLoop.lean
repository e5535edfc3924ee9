import Wildflow.Channel.Selection
import Wildflow.Store.Run

/-!
# Retrying over the auto groups

`CacheGetRandomSatisfiedChannel` of `service/channel_select.go` for the token group `auto` and the loop of `Relay` in
`controller/relay.go`. The first attempt uses the channel that the distributor has selected the same way, with a counter
of its own; channels that are pinned or come from the affinity cache are left out.
-/

namespace Wildflow.Channels
open Wildflow.Store

/-- `providerUnknown`: nobody knows whether the provider has got the request; `alwaysSkip`: its error code is never retried. -/
structure RelayError where
  message : String
  isChannelError : Bool
  isSkipRetryError : Bool
  providerUnknown : Bool
  alwaysSkip : Bool
  statusCode : Int

/-- `prepare` is an error between the selection and the dispatch of an attempt, `outcome` its error after that; attempts are
numbered from zero. -/
structure RelayRequest where
  modelName : String
  retryTimes : Nat
  autoGroups : List String
  candidates : String → List ChannelRow
  crossGroupRetry : Bool
  skipRetryAfterAffinityFailure : Bool
  suppressesRetry : Bool
  shouldRetryByStatusCode : Int → Bool
  draw : Nat → Nat
  prepare : Nat → Option String
  outcome : Nat → Option RelayError

structure RetryParam where
  retry : Nat
  resetNextTry : Bool
  groupIndex : Option Nat

def RetryParam.increaseRetry (param : RetryParam) : RetryParam :=
  if param.resetNextTry then { param with resetNextTry := false } else { param with retry := param.retry + 1 }

structure Attempt where
  groupIndex : Nat
  priorityRetry : Nat
  channel : ChannelRow

variable (request : RelayRequest)

def searchGroups (start draw : Nat) : Nat → List String → RetryParam → RetryParam × Option Attempt
  | _, [], param => (param, none)
  | i, group :: rest, param =>
    let priorityRetry := if start < i then 0 else param.retry
    match selectCandidate (request.candidates group) priorityRetry draw with
    | none => searchGroups start draw (i + 1) rest { param with retry := 0, groupIndex := some (i + 1) }
    | some channel =>
      if request.crossGroupRetry ∧ request.retryTimes ≤ priorityRetry then
        (⟨0, true, some (i + 1)⟩, some ⟨i, priorityRetry, channel⟩)
      else ({ param with groupIndex := some i }, some ⟨i, priorityRetry, channel⟩)

def cacheGetRandomSatisfiedChannel (param : RetryParam) (draw : Nat) : RetryParam × Option Attempt :=
  let start := param.groupIndex.getD 0
  searchGroups request start draw start (request.autoGroups.drop start) param

def shouldRetry (error : RelayError) (retryTimes : Nat) : Bool :=
  if request.skipRetryAfterAffinityFailure then false
  else if error.isChannelError then true
  else if error.isSkipRetryError then false
  else if retryTimes = 0 then false
  else if request.suppressesRetry then false
  else if 200 ≤ error.statusCode ∧ error.statusCode < 300 then false
  else if error.statusCode < 100 ∨ 599 < error.statusCode then true
  else if error.alwaysSkip then false
  else request.shouldRetryByStatusCode error.statusCode

inductive LoopError where
  | getChannel (message : String)
  | prepare (message : String)
  | attempt (number : Nat) (error : RelayError)

structure RelayLoop where
  param : RetryParam
  attempts : List Attempt
  error : Option LoopError

def selectChannel (first : Attempt) (loop : RelayLoop) : RetryParam × Option Attempt :=
  if loop.attempts = [] then (loop.param, some first)
  else cacheGetRandomSatisfiedChannel request loop.param (request.draw loop.attempts.length)

def relayRound (first : Attempt) (loop : RelayLoop) : RelayLoop ⊕ RelayLoop :=
  if request.retryTimes < loop.param.retry then .inl loop
  else
    match selectChannel request first loop with
    | (param, none) =>
      .inl { loop with param, error := some (.getChannel ("分组 auto 下模型 " ++ request.modelName ++ " 的可用渠道不存在（retry）")) }
    | (param, some attempt) =>
      match request.prepare loop.attempts.length with
      | some message => .inl { loop with param, error := some (.prepare message) }
      | none =>
        let attempts := loop.attempts ++ [attempt]
        match request.outcome loop.attempts.length with
        | none => .inl ⟨param, attempts, none⟩
        | some error =>
          let ended : RelayLoop := ⟨param, attempts, some (.attempt loop.attempts.length error)⟩
          if error.providerUnknown ∨ shouldRetry request error (request.retryTimes - param.retry) = false then .inl ended
          else .inr { ended with param := param.increaseRetry }

def relay (fuel : Nat) : Option (Option RelayLoop) :=
  match cacheGetRandomSatisfiedChannel request ⟨0, false, none⟩ (request.draw 0) with
  | (_, none) => none
  | (selected, some first) => some (loopRounds (relayRound request first) fuel ⟨⟨0, false, selected.groupIndex⟩, [], none⟩)

end Wildflow.Channels
