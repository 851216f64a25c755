import NewApi.Service.TaskBilling

/-!
# Polling of asynchronous tasks

`service/task_polling.go`: the sweep of timed-out tasks and the polling pass, seen from one task. A
pass first loads the task and visits the loaded copy later; until then other passes, on this node or
on another, may have moved the row. What a visit writes goes through an update that is guarded by
the status of the copy, except for the two bulk updates: of tasks without an upstream id, and of
tasks whose channel cannot be read.

A visit is one step. The only statements of it that other passes could come between are its guarded
update and the billing after it, and after that update the status of the row is final.

A copy that has reached a final status is not visited again. (The source visits one again only if
two unfinished tasks of a platform share an upstream id.)
-/

namespace NewApi.Service

open Model

/-! ### Answers -/

structure PollSettings where
  taskTimeoutMinutes : Int
  taskPollMaxFailures : Int
  serverAddress : String

inductive PollClass
  | ok
  | otherClient
  | notFound
  | auth
  | transient
  | unrecognized
  | hookError
  | transport
  deriving DecidableEq, Repr

def PollClass.text : PollClass → String
  | ok => "ok"
  | otherClient => "other_client"
  | notFound => "not_found"
  | auth => "auth"
  | transient => "transient"
  | unrecognized => "unrecognized"
  | hookError => "hook_error"
  | transport => "transport_error"

def classifyPollHTTP (statusCode : ℕ) : PollClass :=
  if 200 ≤ statusCode ∧ statusCode < 300 then .ok
  else if statusCode = 404 ∨ statusCode = 410 then .notFound
  else if statusCode = 401 ∨ statusCode = 403 then .auth
  else if statusCode = 429 ∨ 500 ≤ statusCode then .transient
  else if 400 ≤ statusCode ∧ statusCode < 500 then .otherClient
  else .transient

def knownPollStatus : TaskStatus → Bool
  | .notStart | .submitted | .queued | .inProgress | .success | .failure => true
  | .unknown | .other _ => false

def isNonTerminalPollStatus : TaskStatus → Bool
  | .notStart | .submitted | .queued | .inProgress => true
  | .success | .failure | .unknown | .other _ => false

def pollFailureReason (cls : PollClass) (statusCode : ℕ) (detail : String) : String :=
  let reason := if 0 < statusCode then
      "poll failed: " ++ cls.text ++ " (HTTP " ++ toString statusCode ++ ")"
    else "poll failed: " ++ cls.text
  if detail ≠ "" then reason ++ ": " ++ detail else reason

/-- What an upstream reports on the task: `BatchTaskResult`, or the parsed answer to the fetch of
one task. `data` is the redacted body of such an answer, `excerpt` the bounded copy of it for a
failure, and `newApiData` the data of an answer in the format of this program itself. -/
structure UpstreamItem where
  info : TaskInfo
  submitTime : Int
  startTime : Int
  finishTime : Int
  data : Option String
  excerpt : String
  newApiData : Option String
  deriving DecidableEq, Repr

inductive PollAnswer
  | channelMissing
  /-- There is no adaptor, the platform polls itself, or the pass is cancelled before the visit. -/
  | notPolled
  | fetchError (detail : String)
  | bodyError (statusCode : ℕ) (detail : String)
  /-- `item` is `none` if a batch does not report on the task, and `hookError` the error of the
  parser. -/
  | response (statusCode : ℕ) (hookError : Option String) (item : Option UpstreamItem)
  deriving DecidableEq, Repr

inductive FetchMode
  | single
  | batch

structure PollReply where
  update : UpdateReply
  bulk : Bool
  settle : BillingReply
  refund : BillingReply

inductive PollVerdict
  /-- Nothing is written. -/
  | keep (task : Task)
  /-- The copy is written under the guard of the status that it was loaded with. -/
  | save (task : Task)
  /-- The copy has ended: it is written under the guard and then billed. -/
  | finish (task : Task) (taskResult : TaskInfo)
  /-- The copy had ended before: it is written if it has changed, and billed in any case. -/
  | finishAgain (task : Task) (taskResult : TaskInfo)
  /-- The bulk update, with its reason. -/
  | bulk (failReason : Option String)

section

variable (cfg : PollSettings) (now : Int)

/-! ### Failures -/

def failTaskFromPoll (task : Task) (reason : String) : PollVerdict :=
  .finish
    { task with
      status := .failure
      progress := progressComplete
      finishTime := if task.finishTime = 0 then now else task.finishTime
      failReason := reason }
    (failTaskInfo reason)

/-- One failure more, or the end of the task at the limit. -/
def recordPollFailure (task : Task) (cls : PollClass) (statusCode : ℕ) (detail : String) :
    PollVerdict :=
  let task := { task with pollFailures := task.pollFailures + 1 }
  if 0 < cfg.taskPollMaxFailures ∧ cfg.taskPollMaxFailures ≤ task.pollFailures then
    failTaskFromPoll now task (pollFailureReason cls statusCode detail)
  else .save task

/-! ### Answers for one task -/

/-- The answers that both fetch modes treat alike: errors of the transport, the status codes of
tasks that cannot be found, of bad credentials and of passing errors, and errors of the parser.
Every other answer is `read`. -/
def pollAnswer (task : Task) (read : ℕ → UpstreamItem → PollVerdict) : PollAnswer → PollVerdict
  | .channelMissing | .notPolled => .keep task
  | .fetchError detail => recordPollFailure cfg now task .transport 0 detail
  | .bodyError statusCode detail => recordPollFailure cfg now task .transport statusCode detail
  | .response statusCode hookError item =>
    match classifyPollHTTP statusCode with
    | .notFound =>
      failTaskFromPoll now task ("upstream task not found (HTTP " ++ toString statusCode ++ ")")
    | .auth => recordPollFailure cfg now task .auth statusCode ""
    | .transient => recordPollFailure cfg now task .transient statusCode ""
    | .ok | .otherClient | .unrecognized | .hookError | .transport =>
      match hookError, item with
      | some detail, _ => recordPollFailure cfg now task .hookError statusCode detail
      | none, some item => read statusCode item
      | none, none => .keep task

def Unrecognized (statusCode : ℕ) (status : TaskStatus) : Prop :=
  knownPollStatus status = false ∨
    classifyPollHTTP statusCode = .otherClient ∧ isNonTerminalPollStatus status = true
  deriving Decidable

def unrecognizedPollDetail (reason excerpt : String) : String :=
  if reason.trimAscii.isEmpty then "body=" ++ excerpt else reason ++ "; body=" ++ excerpt

def buildProxyURL (taskId : String) : String :=
  cfg.serverAddress ++ "/v1/videos/" ++ taskId ++ "/content"

/-- The copy with the answer to the fetch of a single task. -/
def applyItem (task : Task) (item : UpstreamItem) : Task :=
  let info := item.info
  let task := { task with
    data := item.data.getD ""
    pluginState := if info.pluginState ≠ "" then info.pluginState else task.pluginState
    pollFailures := if isNonTerminalPollStatus info.status then 0 else task.pollFailures
    status := info.status
    progress := if info.progress ≠ "" then info.progress else task.progress }
  match info.status with
  | .submitted => { task with progress := if info.progress ≠ "" then info.progress else "10%" }
  | .queued => { task with progress := if info.progress ≠ "" then info.progress else "20%" }
  | .inProgress =>
    { task with
      progress := if info.progress ≠ "" then info.progress else "30%"
      startTime := if task.startTime = 0 then now else task.startTime }
  | .success =>
    { task with
      progress := if info.progress ≠ "" then info.progress else progressComplete
      finishTime := if task.finishTime = 0 then now else task.finishTime
      resultUrl := if info.url.startsWith "data:" ∨ info.url = "" then
        buildProxyURL cfg task.taskId else info.url }
  | .failure =>
    { task with
      progress := progressComplete
      finishTime := if task.finishTime = 0 then now else task.finishTime
      failReason := info.reason }
  | .notStart | .unknown | .other _ => task

/-- `updateVideoSingleTask`, from the answer on. -/
def updateVideoSingleTask (task : Task) (answer : PollAnswer) : PollVerdict :=
  pollAnswer cfg now task (fun statusCode item =>
    if Unrecognized statusCode item.info.status then
      recordPollFailure cfg now { task with data := item.newApiData.getD task.data }
        .unrecognized statusCode (unrecognizedPollDetail item.info.reason item.excerpt)
    else
      let task' := applyItem cfg now task item
      if task'.status.isDone then
        if task.status ≠ task'.status then .finish task' item.info else .finishAgain task' item.info
      else if task.sameSnapshot task' then .keep task'
      else .save task') answer

/-- The copy with the item of a batch. -/
def applyBatchItem (task : Task) (item : UpstreamItem) : Task :=
  let info := item.info
  let failed : Bool := info.reason ≠ "" ∨ info.status = .failure
  { task with
    pollFailures := if isNonTerminalPollStatus info.status then 0 else task.pollFailures
    pluginState := if info.pluginState ≠ "" then info.pluginState else task.pluginState
    status := if failed then .failure else info.status
    failReason := if info.reason ≠ "" then info.reason else task.failReason
    submitTime := if item.submitTime ≠ 0 then item.submitTime else task.submitTime
    startTime := if item.startTime ≠ 0 then item.startTime else task.startTime
    finishTime := if item.finishTime ≠ 0 then item.finishTime else task.finishTime
    progress := if failed ∨ info.status = .success then progressComplete
      else if info.progress ≠ "" then info.progress else task.progress
    data := item.data.getD task.data
    resultUrl := if info.url ≠ "" then info.url else task.resultUrl }

/-- `updateBatchTasks`, from the answer on. -/
def updateBatchTask (task : Task) (answer : PollAnswer) : PollVerdict :=
  pollAnswer cfg now task (fun statusCode item =>
    if Unrecognized statusCode item.info.status then
      recordPollFailure cfg now task .unrecognized statusCode item.info.reason
    else
      let task' := applyBatchItem task item
      if task'.status.isDone = true ∧ task.status ≠ task'.status then .finish task' item.info
      else .save task') answer

/-- The reason of the bulk update if the channel cannot be read. -/
def channelMissingReason (mode : FetchMode) (channelId : Int) : String :=
  match mode with
  | .batch => "获取渠道信息失败，请联系管理员，渠道ID：" ++ toString channelId
  | .single => "Failed to get channel info, channel ID: " ++ toString channelId

/-- The visit of a loaded copy in a pass. -/
def pollTask (mode : FetchMode) (task : Task) (answer : PollAnswer) : PollVerdict :=
  if task.getUpstreamTaskID = "" then .bulk none
  else if answer = .channelMissing then .bulk (some (channelMissingReason mode task.channelId))
  else
    match mode with
    | .single => updateVideoSingleTask cfg now task answer
    | .batch => updateBatchTask cfg now task answer

end

/-! ### Writes -/

/-- The writes of a visit. -/
def PollVerdict.run (pricing : TaskPricing) (ans : PollReply) (b : TaskBilling) :
    PollVerdict → TaskBilling
  | keep task => { b with task := task }
  | save task =>
    { b with task := task, row := (task.updateWithStatus ans.update b.row b.task.status).2 }
  | finish task taskResult =>
    match task.updateWithStatus ans.update b.row b.task.status with
    | (some true, row) =>
      finishTaskBilling pricing ans.settle ans.refund ⟨task, row, b.accounts⟩ taskResult
    | (_, row) => ⟨task, row, b.accounts⟩
  | finishAgain task taskResult =>
    let row := if b.task.sameSnapshot task then b.row
      else (task.updateWithStatus ans.update b.row b.task.status).2
    finishTaskBilling pricing ans.settle ans.refund ⟨task, row, b.accounts⟩ taskResult
  | bulk failReason => { b with row := b.row.bulkFail ans.bulk failReason }

/-- The copy as the sweep fails it: a legacy task loses its quota. -/
def timedOutTask (cfg : PollSettings) (now : Int) (task : Task) : Task :=
  { task with
    status := .failure
    progress := progressComplete
    finishTime := now
    failReason := if task.isLegacy then "任务超时（旧系统遗留任务，不进行退款，请联系管理员）"
      else "任务超时（" ++ toString cfg.taskTimeoutMinutes ++ "分钟）"
    quota := if task.isLegacy then 0 else task.quota }

/-- `sweepTimedOutTasks` on one loaded task. -/
def sweepTask (cfg : PollSettings) (ans : PollReply) (now : Int) (b : TaskBilling) :
    TaskBilling :=
  let failed := timedOutTask cfg now b.task
  match failed.updateWithStatus ans.update b.row b.task.status with
  | (some true, row) =>
    if ¬ b.task.isLegacy ∧ failed.quota ≠ 0 then
      (refundTaskQuota ans.refund ⟨failed, row, b.accounts⟩).2
    else ⟨failed, row, b.accounts⟩
  | (_, row) => ⟨failed, row, b.accounts⟩

/-! ### Passes -/

/-- The row of the task with the balances, and the copies that sweeps and passes have loaded and not
visited yet. -/
structure TaskState where
  row : Task
  accounts : TaskAccounts
  polled : List Task
  swept : List Task

inductive TaskEvent
  | load
  | loadTimedOut (now : Int)
  | poll (k : ℕ) (mode : FetchMode) (answer : PollAnswer) (ans : PollReply) (now : Int)
  | sweep (k : ℕ) (ans : PollReply) (now : Int)

def keepUnfinished (copies : List Task) (k : ℕ) (t : Task) : List Task :=
  if t.status.isDone then copies.eraseIdx k else copies.set k t

/-- One step. A sweep only runs with a timeout that is set. -/
def taskStep (cfg : PollSettings) (pricing : TaskPricing) (x : TaskState) :
    TaskEvent → TaskState
  | .load => if x.row.unfinished then { x with polled := x.polled ++ [x.row] } else x
  | .loadTimedOut now =>
    if 0 < cfg.taskTimeoutMinutes ∧
        x.row.timedOut (now - cfg.taskTimeoutMinutes * 60) then
      { x with swept := x.swept ++ [x.row] }
    else x
  | .poll k mode answer ans now =>
    match x.polled[k]? with
    | none => x
    | some t =>
      let b := (pollTask cfg now mode t answer).run pricing ans ⟨t, x.row, x.accounts⟩
      ⟨b.row, b.accounts, keepUnfinished x.polled k b.task, x.swept⟩
  | .sweep k ans now =>
    match x.swept[k]? with
    | none => x
    | some t =>
      let b := sweepTask cfg ans now ⟨t, x.row, x.accounts⟩
      ⟨b.row, b.accounts, x.polled, x.swept.eraseIdx k⟩

end NewApi.Service
