import Wildflow.Billing.Task
import Wildflow.Store.Dict

/-!
# Polling of asynchronous tasks

A pass works on copies of the unfinished tasks: it asks the provider, writes the copy back if the row still has the
status it was read with, and bills a task that it has finished. So does a sweep with tasks that took too long. Tasks without an
upstream id or a channel are failed by a bulk update that looks at no status.
-/

namespace Wildflow.Billing
open Wildflow.Store

/-- `TaskRefundLegacyCutoff`, 2026-02-22 00:00:00 UTC. -/
def taskRefundLegacyCutoff : Int := 1771718400

def progressSubmitted : String := "10%"
def progressQueued : String := "20%"
def progressInProgress : String := "30%"
def progressComplete : String := "100%"

structure TaskEnvironment where
  taskPollMaxFailures : Int
  taskTimeoutMinutes : Int
  serverAddress : String
  /-- The adaptor's own price of a finished task; not positive when it has none. -/
  adjustBillingOnComplete : TaskRow → TaskInfo → Int
  /-- The price by the tiered expression of the task; none when its evaluation fails. -/
  tieredQuota : TaskRow → TaskInfo → Option Int
  /-- The price of a number of tokens; none when the model has no ratio or the task no group. -/
  tokenQuota : TaskRow → Int → Option Int

def TaskRow.getUpstreamTaskID (task : TaskRow) : String :=
  if task.upstreamTaskId ≠ "" then task.upstreamTaskId else task.taskId

def TaskEnvironment.buildProxyURL (env : TaskEnvironment) (taskId : String) : String :=
  env.serverAddress ++ "/v1/videos/" ++ taskId ++ "/content"

def TaskRow.unfinished (task : TaskRow) : Bool :=
  task.progress ≠ "100%" && task.status ≠ .failure && task.status ≠ .success

def TaskRow.timedOut (cutoff : Int) (task : TaskRow) : Bool :=
  task.progress ≠ "100%" && task.status ≠ .failure && task.status ≠ .success && task.status ≠ .persisting &&
    task.submitTime < cutoff

def getAllUnFinishSyncTasks (db : DB) (limit : Nat) : List TaskRow :=
  (db.tasks.rows.filter TaskRow.unfinished).take limit

def getTimedOutUnfinishedTasks (db : DB) (cutoff : Int) (limit : Nat) : List TaskRow :=
  ((db.tasks.rows.filter (TaskRow.timedOut cutoff)).insertionSort fun a b => a.submitTime ≤ b.submitTime).take limit

def TaskRow.bulkFailed (ids : List Int) (failReason : Option String) (row : TaskRow) : TaskRow :=
  if ids.contains row.id then
    { row with status := .failure, progress := "100%", failReason := failReason.getD row.failReason }
  else row

theorem bulkFailed_id (ids : List Int) (failReason : Option String) (row : TaskRow) :
    (row.bulkFailed ids failReason).id = row.id := by
  unfold TaskRow.bulkFailed
  split <;> rfl

def taskBulkUpdateByID (db : DB) (ids : List Int) (failReason : Option String) : DB :=
  { db with tasks := db.tasks.map (TaskRow.bulkFailed ids failReason) (bulkFailed_id ids failReason) }

inductive TaskEvent where
  | settled (id : Int)
  | refunded (id : Int)
deriving DecidableEq

def TaskEvent.id : TaskEvent → Int
  | .settled id | .refunded id => id

structure TaskPoll where
  task : TaskRow
  db : DB
  events : List TaskEvent

section
variable (db : DB) (task : TaskRow)

def updateWithStatus (fromStatus : TaskStatus) : Bool × DB :=
  let updated := db.tasks.updateWhere task.id (fun row => row.status = fromStatus) fun _ => task
  (updated.2 = 1, { db with tasks := updated.1 })

def updateTaskQuota : DB :=
  { db with tasks := (db.tasks.updateWhere task.id (fun _ => true) fun row =>
      { row with toTask := { row.toTask with quota := task.quota } }).1 }

def TaskRow.refund : TaskRow × DB :=
  match refundTaskQuota db task.toTask with
  | (false, _, db) => (task, db)
  | (true, changed, db) =>
    let refunded := { task with toTask := changed }
    (refunded, if changed.quota = task.quota then db else updateTaskQuota db refunded)

def TaskRow.recalculate (actualQuota : Int) : TaskRow × DB :=
  let (changed, db) := recalculateTaskQuota db task.toTask actualQuota
  let recalculated := { task with toTask := changed }
  (recalculated, if changed.quota = task.quota then db else updateTaskQuota db recalculated)

end

inductive PollClass where
  | ok | otherClient | notFound | auth | transient | unrecognized | hookError | transportError
deriving DecidableEq

def PollClass.text : PollClass → String
  | .ok => "ok"
  | .otherClient => "other_client"
  | .notFound => "not_found"
  | .auth => "auth"
  | .transient => "transient"
  | .unrecognized => "unrecognized"
  | .hookError => "hook_error"
  | .transportError => "transport_error"

def classifyPollHTTP (statusCode : Int) : PollClass :=
  if 200 ≤ statusCode ∧ statusCode < 300 then .ok
  else if statusCode = 404 ∨ statusCode = 410 then .notFound
  else if statusCode = 401 ∨ statusCode = 403 then .auth
  else if statusCode = 429 ∨ 500 ≤ statusCode then .transient
  else if 400 ≤ statusCode ∧ statusCode < 500 then .otherClient
  else .transient

def isNonTerminalPollStatus : TaskStatus → Bool
  | .notStart | .submitted | .queued | .inProgress => true
  | .persisting | .failure | .success | .unknown | .other _ => false

def knownPollStatus : TaskStatus → Bool
  | .notStart | .submitted | .queued | .inProgress | .success | .failure => true
  | .persisting | .unknown | .other _ => false

def pollFailureReason (pollClass : PollClass) (statusCode : Int) (detail : String) : String :=
  let reason :=
    if 0 < statusCode then "poll failed: " ++ pollClass.text ++ " (HTTP " ++ toString statusCode ++ ")"
    else "poll failed: " ++ pollClass.text
  if detail ≠ "" then reason ++ ": " ++ detail else reason

/-- `body` is the redacted body, cut to the length that is logged. -/
def unrecognizedPollDetail (reason body : String) : String :=
  if trimSpace reason = "" then "body=" ++ body else reason ++ "; body=" ++ body

section
variable (env : TaskEnvironment) (db : DB)

/-- Whether the usage decided the charge. A failed evaluation keeps the charge and counts as a decision. -/
def settleTaskBillingOnComplete (task : TaskRow) (taskResult : TaskInfo) : Bool × TaskRow × DB :=
  if task.tieredSnapshot then
    if task.status = .failure then (false, task, db)
    else match env.tieredQuota task taskResult with
      | none => (true, task, db)
      | some actualQuota =>
        let (task, db) := task.recalculate db actualQuota
        (true, task, db)
  else if task.perCallBilling then (false, task, db)
  else if 0 < env.adjustBillingOnComplete task taskResult then
    let (task, db) := task.recalculate db (env.adjustBillingOnComplete task taskResult)
    (true, task, db)
  else
    let tokens :=
      if taskResult.totalTokens = 0 ∧ 0 < taskResult.completionTokens then taskResult.completionTokens
      else taskResult.totalTokens
    if 0 < tokens then
      match env.tokenQuota task tokens with
      | none => (false, task, db)
      | some actualQuota =>
        let (task, db) := task.recalculate db actualQuota
        (true, task, db)
    else (false, task, db)

def finalizeTaskBilling (task : TaskRow) (taskResult : TaskInfo) : TaskPoll :=
  let (billingSettled, settled, db) := settleTaskBillingOnComplete env db task taskResult
  if settled.status = .failure then
    if billingSettled then ⟨settled, db, [.settled settled.id]⟩
    else if settled.quota ≠ 0 then
      let (refunded, db) := settled.refund db
      ⟨refunded, db, [.refunded settled.id]⟩
    else ⟨settled, db, []⟩
  else ⟨settled, db, []⟩

def failTaskFromPoll (now : Int) (task : TaskRow) (fromStatus : TaskStatus) (reason : String) : TaskPoll :=
  let task := { task with
    status := .failure, progress := progressComplete, failReason := reason
    finishTime := if task.finishTime = 0 then now else task.finishTime }
  let (won, db) := updateWithStatus db task fromStatus
  if won then finalizeTaskBilling env db task { status := "FAILURE", reason } else ⟨task, db, []⟩

def recordPollFailure (now : Int) (task : TaskRow) (fromStatus : TaskStatus)
    (pollClass : PollClass) (statusCode : Int) (detail : String) : TaskPoll :=
  let task := { task with pollFailures := task.pollFailures + 1 }
  if 0 < env.taskPollMaxFailures ∧ env.taskPollMaxFailures ≤ task.pollFailures then
    failTaskFromPoll env db now task fromStatus (pollFailureReason pollClass statusCode detail)
  else ⟨task, (updateWithStatus db task fromStatus).2, []⟩

end

structure TaskSnapshot where
  status : TaskStatus
  progress : String
  startTime : Int
  finishTime : Int
  failReason : String
  resultURL : String
  data : String
  pluginState : String
  pollFailures : Int
deriving DecidableEq

def TaskRow.snapshot (task : TaskRow) : TaskSnapshot :=
  ⟨task.status, task.progress, task.startTime, task.finishTime, task.failReason, task.resultURL, task.data,
    task.pluginState, task.pollFailures⟩

inductive PollAnswer where
  | transportError (statusCode : Int) (detail : String)
  | response (statusCode : Int) (body : String) (relayed : Option String) (parsed : Except String TaskInfo)

variable (env : TaskEnvironment)

def TaskRow.answered (now : Int) (status : TaskStatus) (taskResult : TaskInfo) (task : TaskRow) : TaskRow × Bool :=
  let finishTime := if task.finishTime = 0 then now else task.finishTime
  match status with
  | .submitted => ({ task with status, progress := progressSubmitted }, false)
  | .queued => ({ task with status, progress := progressQueued }, false)
  | .inProgress =>
    ({ task with
        status, progress := progressInProgress
        startTime := if task.startTime = 0 then now else task.startTime }, false)
  | .success =>
    ({ task with
        status, progress := progressComplete, finishTime
        resultURL :=
          if taskResult.url.startsWith "data:" ∨ taskResult.url = "" then env.buildProxyURL task.taskId
          else taskResult.url }, true)
  | .failure =>
    ({ task with status, progress := progressComplete, finishTime, failReason := taskResult.reason }, true)
  | .notStart | .persisting | .unknown | .other _ => ({ task with status }, false)

section
variable (db : DB)

section
variable (now : Int)

/-- The end of `updateVideoSingleTask`. A won image completion goes on with `resumeTaskImagePersistence`. -/
def applyTaskResult (snap : TaskSnapshot) (task : TaskRow) (taskResult : TaskInfo) : TaskPoll :=
  let parsedStatus := TaskStatus.ofText taskResult.status
  if parsedStatus = .success ∧ task.action = "image_generation" then
    let task := { task with
      imageCompletion := some taskResult, status := .persisting, progress := "99%" }
    ⟨task, (updateWithStatus db task snap.status).2, []⟩
  else
    let (task, shouldFinalizeBilling) := task.answered env now parsedStatus taskResult
    let task := { task with
      progress :=
        if parsedStatus ≠ .failure ∧ taskResult.progress ≠ "" then taskResult.progress else task.progress }
    let isDone := task.status = .success ∨ task.status = .failure
    if isDone ∧ snap.status ≠ task.status then
      let (won, db) := updateWithStatus db task snap.status
      if won ∧ shouldFinalizeBilling then finalizeTaskBilling env db task taskResult
      else ⟨task, db, []⟩
    else
      let db := if snap ≠ task.snapshot then (updateWithStatus db task snap.status).2 else db
      if shouldFinalizeBilling then finalizeTaskBilling env db task taskResult
      else ⟨task, db, []⟩

section
variable (task : TaskRow)

def updateParsedTask (httpClass : PollClass)
    (statusCode : Int) (body : String) (relayed : Option String) (parsed : Except String TaskInfo) : TaskPoll :=
  let snap := task.snapshot
  let task := { task with data := relayed.getD task.data }
  match parsed with
  | .error detail => recordPollFailure env db now task snap.status .hookError statusCode detail
  | .ok taskResult =>
    let parsedStatus := TaskStatus.ofText taskResult.status
    if !knownPollStatus parsedStatus || (httpClass = .otherClient && isNonTerminalPollStatus parsedStatus) then
      recordPollFailure env db now task snap.status .unrecognized statusCode
        (unrecognizedPollDetail taskResult.reason body)
    else
      let task := { task with
        data := body
        pluginState := if taskResult.pluginState ≠ "" then taskResult.pluginState else task.pluginState
        pollFailures := if isNonTerminalPollStatus parsedStatus then 0 else task.pollFailures }
      applyTaskResult env db now snap task taskResult

def updateByPollClass (statusCode : Int) (parsed : PollClass → TaskPoll) : TaskPoll :=
  match classifyPollHTTP statusCode with
  | .notFound => failTaskFromPoll env db now task task.status
      ("upstream task not found (HTTP " ++ toString statusCode ++ ")")
  | .auth => recordPollFailure env db now task task.status .auth statusCode ""
  | .transient => recordPollFailure env db now task task.status .transient statusCode ""
  | httpClass => parsed httpClass

def updateVideoSingleTask (answer : PollAnswer) : TaskPoll :=
  match answer with
  | .transportError statusCode detail =>
    recordPollFailure env db now task task.status .transportError statusCode detail
  | .response statusCode body relayed parsed =>
    updateByPollClass env db now task statusCode fun httpClass =>
      updateParsedTask env db now task httpClass statusCode body relayed parsed

structure BatchTaskResult where
  taskInfo : TaskInfo
  submitTime : Int
  startTime : Int
  finishTime : Int
  data : Option String

inductive BatchAnswer where
  | transportError (statusCode : Int) (detail : String)
  | response (statusCode : Int) (parsed : Except String (Option BatchTaskResult))

def TaskRow.batched (item : BatchTaskResult) (task : TaskRow) : TaskRow :=
  let parsedStatus := TaskStatus.ofText item.taskInfo.status
  let failed := item.taskInfo.reason ≠ "" ∨ parsedStatus = .failure
  { task with
    pollFailures := if isNonTerminalPollStatus parsedStatus then 0 else task.pollFailures
    pluginState := if item.taskInfo.pluginState ≠ "" then item.taskInfo.pluginState else task.pluginState
    status := if failed then .failure else parsedStatus
    failReason := if item.taskInfo.reason ≠ "" then item.taskInfo.reason else task.failReason
    submitTime := if item.submitTime ≠ 0 then item.submitTime else task.submitTime
    startTime := if item.startTime ≠ 0 then item.startTime else task.startTime
    finishTime := if item.finishTime ≠ 0 then item.finishTime else task.finishTime
    progress :=
      if failed ∨ parsedStatus = .success then "100%"
      else if item.taskInfo.progress ≠ "" then item.taskInfo.progress
      else task.progress
    data := item.data.getD task.data
    resultURL := if item.taskInfo.url ≠ "" then item.taskInfo.url else task.resultURL }

def updateParsedBatchTask (httpClass : PollClass)
    (statusCode : Int) (parsed : Except String (Option BatchTaskResult)) : TaskPoll :=
  let snap := task.snapshot
  match parsed with
  | .error detail => recordPollFailure env db now task snap.status .hookError statusCode detail
  | .ok none => ⟨task, db, []⟩
  | .ok (some item) =>
    let parsedStatus := TaskStatus.ofText item.taskInfo.status
    if !knownPollStatus parsedStatus || (httpClass = .otherClient && isNonTerminalPollStatus parsedStatus) then
      recordPollFailure env db now task snap.status .unrecognized statusCode item.taskInfo.reason
    else
      let task := task.batched item
      let isDone := task.status = .success ∨ task.status = .failure
      let (won, db) := updateWithStatus db task snap.status
      if won ∧ isDone ∧ snap.status ≠ task.status then finalizeTaskBilling env db task item.taskInfo
      else ⟨task, db, []⟩

def updateBatchTask (answer : BatchAnswer) : TaskPoll :=
  match answer with
  | .transportError statusCode detail =>
    recordPollFailure env db now task task.status .transportError statusCode detail
  | .response statusCode parsed =>
    updateByPollClass env db now task statusCode fun httpClass =>
      updateParsedBatchTask env db now task httpClass statusCode parsed

inductive PersistOutcome where
  | unavailable
  | failed (stored : Bool)
  | persisted (stored : Bool)

def resumeTaskImagePersistence (outcome : PersistOutcome) : TaskPoll :=
  match task.imageCompletion with
  | none => ⟨task, db, []⟩
  | some completion =>
    if task.status ≠ .persisting then ⟨task, db, []⟩
    else match outcome with
      | .unavailable => ⟨task, db, []⟩
      | .failed stored =>
        let task := { task with storedArtifacts := stored }
        ⟨task, (updateWithStatus db task .persisting).2, []⟩
      | .persisted false => ⟨{ task with storedArtifacts := false }, db, []⟩
      | .persisted true =>
        let task := { task with
          storedArtifacts := true, status := .success, progress := progressComplete, finishTime := now
          imageCompletion := none, resultURL := env.buildProxyURL task.taskId }
        let (won, db) := updateWithStatus db task .persisting
        if won then finalizeTaskBilling env db task completion else ⟨task, db, []⟩

def TaskRow.isLegacy : Bool :=
  0 < task.submitTime && task.submitTime < taskRefundLegacyCutoff

def sweepTimedOutTask : TaskPoll :=
  let oldStatus := task.status
  let failed := { task with
    status := .failure, progress := "100%", finishTime := now
    failReason :=
      if task.isLegacy then "任务超时（旧系统遗留任务，不进行退款，请联系管理员）"
      else "任务超时（" ++ toString env.taskTimeoutMinutes ++ "分钟）" }
  let failed :=
    if task.isLegacy then { failed with toTask := { failed.toTask with quota := 0 } } else failed
  let (won, db) := updateWithStatus db failed oldStatus
  if won ∧ task.isLegacy = false ∧ failed.quota ≠ 0 then
    let (refunded, db) := failed.refund db
    ⟨refunded, db, [.refunded failed.id]⟩
  else ⟨failed, db, []⟩

end

structure SubmittedTask extends Task where
  taskId : String
  platform : String
  channelId : Int
  action : String
  upstreamTaskId : String
  data : String
  pluginState : String
  tieredSnapshot : Bool
  perCallBilling : Bool

def TaskRow.withImmediate (immediate : TaskInfo) (task : TaskRow) : TaskRow :=
  let status := TaskStatus.ofText immediate.status
  { task with
    status, progress := immediate.progress
    finishTime := if status = .success ∨ status = .failure then now else task.finishTime
    failReason := if status = .failure then immediate.reason else task.failReason
    resultURL :=
      if immediate.url ≠ "" then immediate.url
      else if status = .success then env.buildProxyURL task.taskId
      else task.resultURL }

def nextTaskId : Int :=
  (db.tasks.rows.map TaskRow.id).foldr max 0 + 1

def newTaskRow (submitted : SubmittedTask) (immediate : Option TaskInfo) : TaskRow :=
  let task : TaskRow :=
    { submitted with
      id := nextTaskId db, status := .notStart, progress := "0%", submitTime := now }
  match immediate with
  | some immediate => task.withImmediate env now immediate
  | none => task

end

def insertTask (task : TaskRow) : DB :=
  { db with tasks := db.tasks.put task }

end

structure PlatformTasks where
  taskChannelM : Dict Int (List String) := .empty
  taskM : Dict String TaskRow := .empty
  nullTaskIds : List Int := []

def PlatformTasks.add (maps : PlatformTasks) (task : TaskRow) : PlatformTasks :=
  let upstreamID := task.getUpstreamTaskID
  if upstreamID = "" then { maps with nullTaskIds := maps.nullTaskIds ++ [task.id] }
  else { maps with
    taskM := maps.taskM.set upstreamID task
    taskChannelM := maps.taskChannelM.set task.channelId
      ((maps.taskChannelM.get task.channelId).getD [] ++ [upstreamID]) }

def platformTasks (tasks : List TaskRow) : PlatformTasks := tasks.foldl PlatformTasks.add {}

def PlatformTasks.polledOn (maps : PlatformTasks) (channelId : Int) : List (Option TaskRow) :=
  ((maps.taskChannelM.get channelId).getD []).map maps.taskM.get

inductive FetchMode where
  | single | batch

def FetchMode.missingChannelReason (channelId : Int) : FetchMode → String
  | .single => "Failed to get channel info, channel ID: " ++ toString channelId
  | .batch => "获取渠道信息失败，请联系管理员，渠道ID：" ++ toString channelId

structure TaskSystem where
  db : DB
  copies : Nat → Option TaskRow
  events : List TaskEvent

def TaskSystem.start (db : DB) : TaskSystem := ⟨db, fun _ => none, []⟩

inductive TaskStep where
  | submit (now : Int) (submitted : SubmittedTask) (immediate : Option TaskInfo)
  | load (slot : Nat) (id : Int)
  | loadTimedOut (slot : Nat) (id cutoff : Int)
  | poll (slot : Nat) (now : Int) (answer : PollAnswer)
  | pollBatch (slot : Nat) (now : Int) (answer : BatchAnswer)
  | resume (slot : Nat) (now : Int) (outcome : PersistOutcome)
  | sweep (slot : Nat) (now : Int)
  /-- `RunTaskPollingOnce` fails the tasks without an upstream id. -/
  | failUnaddressed (slots : List Nat)
  /-- `CacheGetChannel` has failed. -/
  | failChannel (mode : FetchMode) (channelId : Int) (slots : List Nat)

section
variable (s : TaskSystem)

def TaskSystem.fill (slot : Nat) (id : Int) (selected : TaskRow → Bool) : TaskSystem :=
  match s.db.tasks.find id with
  | some row => if selected row then { s with copies := Function.update s.copies slot (some row) } else s
  | none => s

def TaskSystem.polled (slot : Nat) (outcome : TaskPoll) : TaskSystem :=
  ⟨outcome.db, Function.update s.copies slot (some outcome.task), s.events ++ outcome.events⟩

def TaskSystem.handle (slot : Nat) (handler : TaskRow → TaskPoll) : TaskSystem :=
  match s.copies slot with
  | some task => s.polled slot (handler task)
  | none => s

def TaskSystem.held (slots : List Nat) (selected : TaskRow → Bool) : List Int :=
  ((slots.filterMap s.copies).filter selected).map TaskRow.id

def TaskSystem.bulk : TaskStep → List Int
  | .failUnaddressed slots =>
    s.held slots fun task => task.status ≠ .persisting && task.getUpstreamTaskID = ""
  | .failChannel _ _ slots => s.held slots fun task => task.getUpstreamTaskID ≠ ""
  | .submit _ _ _ | .load _ _ | .loadTimedOut _ _ _ | .poll _ _ _ | .pollBatch _ _ _ | .resume _ _ _
  | .sweep _ _ => []

def applyTaskStep : TaskStep → TaskSystem
  | .submit now submitted immediate =>
    { s with db := insertTask s.db (newTaskRow env s.db now submitted immediate) }
  | .load slot id => s.fill slot id TaskRow.unfinished
  | .loadTimedOut slot id cutoff => s.fill slot id (TaskRow.timedOut cutoff)
  | .poll slot now answer => s.handle slot fun task => updateVideoSingleTask env s.db now task answer
  | .pollBatch slot now answer => s.handle slot fun task => updateBatchTask env s.db now task answer
  | .resume slot now outcome => s.handle slot fun task => resumeTaskImagePersistence env s.db now task outcome
  | .sweep slot now => s.handle slot fun task => sweepTimedOutTask env s.db now task
  | .failUnaddressed slots =>
    { s with db := taskBulkUpdateByID s.db (s.bulk (.failUnaddressed slots)) none }
  | .failChannel mode channelId slots =>
    let failReason := mode.missingChannelReason channelId
    { s with db := taskBulkUpdateByID s.db (s.bulk (.failChannel mode channelId slots)) (some failReason) }

end

/-- Polls of one task. A copy comes with the number of commits at its load; a commit is a poll that changes the row. -/
structure PollRace where
  db : DB
  commits : Nat := 0
  copies : Nat → Option (Nat × TaskRow) := fun _ => none

inductive PollMove where
  | load (slot : Nat)
  | poll (slot : Nat) (now : Int) (answer : PollAnswer)

def applyPollMove (id : Int) (s : PollRace) : PollMove → PollRace
  | .load slot =>
    let row := (s.db.tasks.find id).filter TaskRow.unfinished
    { s with copies := Function.update s.copies slot (row.map fun row => (s.commits, row)) }
  | .poll slot now answer =>
    match s.copies slot with
    | none => s
    | some (_, task) =>
      let db := (updateVideoSingleTask env s.db now task answer).db
      { db
        commits := if db.tasks.find id = s.db.tasks.find id then s.commits else s.commits + 1
        copies := Function.update s.copies slot none }

end Wildflow.Billing
