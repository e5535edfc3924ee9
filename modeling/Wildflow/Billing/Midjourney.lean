import Wildflow.Billing.Task

/-!
# Midjourney requests

The submit and swap-face handlers reserve the price, send the call, store a task row and bill it; a deferred closure
settles or releases the reservation.
-/

namespace Wildflow.Billing
open Wildflow.Store

structure MidjourneyTask where
  id : Int
  userId : Int
  code : Int
  quota : Int
  tokenId : Int

def prepareMidjourneyTaskBilling (info : RelayInfo) (task : MidjourneyTask) (quota : Int)
    (shouldBill : Bool) : Bool × MidjourneyTask :=
  let task := { task with quota := 0, tokenId := 0 }
  if !shouldBill then (false, task)
  else if quota < 0 then (false, task)
  else if info.billingSource = .subscription then (false, task)
  else (true, { task with quota })

def refundMidjourneyQuota (db : DB) (task : MidjourneyTask) : Bool × MidjourneyTask × DB :=
  if task.quota = 0 then (true, task, db)
  else match increaseUserQuota db task.userId task.quota false with
    | (.error _, db) => (false, task, db)
    | (.ok _, db) =>
      let db :=
        if 0 < task.tokenId ∧ resolveTokenKey db task.tokenId ≠ "" then
          (increaseTokenQuota db task.tokenId task.quota).2
        else db
      (true, { task with quota := 0 }, updateUserUsedQuota db task.userId (-task.quota))

structure MidjourneyResponse where
  statusCode : Int
  code : Int

inductive MidjourneyAction where
  | inPaint | customZoom | other
deriving DecidableEq

/-- A call that passed validation. Without a response the request failed on its way. -/
structure MidjourneyRequest where
  action : MidjourneyAction
  quota : Int
  response : Option MidjourneyResponse
  insertedId : Option { id : Int // 0 < id }

inductive MidjourneyReply where
  | quotaNotEnough | billingMarkFailed | requestFailed | insertTaskFailed | done

structure MidjourneyOutcome where
  reply : MidjourneyReply
  task : Option MidjourneyTask
  db : DB

section
variable (db : DB) (info : RelayInfo)

def settleMidjourneyTaskBilling (task : MidjourneyTask) (prepared : Bool) : Bool × MidjourneyTask × RelayInfo × DB :=
  if !prepared || task.id = 0 then (false, task, info, db)
  else match postConsumeQuotaWithResult db info task.quota with
    | (result, _, info, db) =>
      if !result.fundingApplied then (false, { task with quota := 0, tokenId := 0 }, info, db)
      else (true, { task with tokenId := if result.tokenApplied then info.tokenId else 0 }, info, db)

def beginMidjourneyCall (quota : Int) (reserved : Bool) : Except MidjourneyReply Unit × DB :=
  if !reserved then (.ok (), db)
  else match reservePerCallBilling db info quota with
    | (.error _, db) => (.error .quotaNotEnough, db)
    | (.ok _, db) =>
      match markBillingReservationProviderStarted db info.requestId with
      | (.error _, db) => (.error .billingMarkFailed, releasePerCallBilling db info)
      | (.ok _, db) => (.ok (), db)

def storeMidjourneyTask (request : MidjourneyRequest) (code : Int) (shouldBill : Bool) : MidjourneyOutcome :=
  let task : MidjourneyTask := { id := 0, userId := info.userId, code, quota := 0, tokenId := 0 }
  let (prepared, task) := prepareMidjourneyTaskBilling info task request.quota shouldBill
  match request.insertedId with
  | none => { reply := .insertTaskFailed, task := none, db }
  | some id =>
    let (applied, task, _, db) := settleMidjourneyTaskBilling db info { task with id := id.1 } prepared
    let db := if applied then updateUserUsedQuotaAndRequestCount db info.userId task.quota else db
    { reply := .done, task := some task, db }

def finishMidjourneyCall (quota : Int) (accepted : Bool) : DB :=
  if accepted then (settlePerCallBilling db { info with finalPreConsumedQuota := quota } quota).2
  else releasePerCallBilling db info

def relaySwapFace (request : MidjourneyRequest) : MidjourneyOutcome :=
  match beginMidjourneyCall db info request.quota (0 < request.quota) with
  | (.error reply, db) => { reply, task := none, db }
  | (.ok _, db) =>
    match request.response with
    | none => { reply := .requestFailed, task := none, db := releasePerCallBilling db info }
    | some response =>
      let accepted := response.statusCode = 200 && response.code = 1
      let outcome := storeMidjourneyTask db info request response.code accepted
      { outcome with db := finishMidjourneyCall outcome.db info request.quota accepted }

def relayMidjourneySubmit (request : MidjourneyRequest) : MidjourneyOutcome :=
  let consumeQuota := !(request.action = .inPaint || request.action = .customZoom)
  let reserved := consumeQuota && 0 < request.quota
  match beginMidjourneyCall db info request.quota reserved with
  | (.error reply, db) => { reply, task := none, db }
  | (.ok _, db) =>
    match request.response with
    | none =>
      { reply := .requestFailed, task := none, db := if reserved then releasePerCallBilling db info else db }
    | some response =>
      let consumeQuota := consumeQuota && (response.code = 1 || response.code = 21 || response.code = 22)
      let accepted := response.statusCode = 200 && consumeQuota
      let outcome := storeMidjourneyTask db info request response.code accepted
      { outcome with
        db := if reserved then finishMidjourneyCall outcome.db info request.quota accepted
              else outcome.db }

end

end Wildflow.Billing
