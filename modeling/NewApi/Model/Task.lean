import Mathlib.Data.Int.Notation

/-!
# Asynchronous tasks

A row of the table `tasks` (`model/task.go`) and the statements that the poller runs on it: the two
queries for unfinished tasks, the update that is guarded by the status, the update of the quota, and
the bulk update by primary key, which has no guard.

The private data of a row is kept in fields of its own. Left out are the columns that neither the
poller nor the billing of a task reads: the names of user, group, action and node, the request
properties, and the plugin and pricing records that only go into logs.
-/

namespace NewApi.Model

inductive TaskStatus
  | notStart
  | submitted
  | queued
  | inProgress
  | failure
  | success
  | unknown
  | other (text : String)
  deriving DecidableEq, Repr

def TaskStatus.isDone : TaskStatus → Bool
  | failure | success => true
  | notStart | submitted | queued | inProgress | unknown | other _ => false

inductive TaskBillingSource
  | unset
  | wallet
  | subscription
  deriving DecidableEq, Repr

structure TaskBillingContext where
  perCallBilling : Bool
  hasTieredSnapshot : Bool
  deriving DecidableEq, Repr

/-- A task. -/
structure Task where
  taskId : String
  channelId : Int
  quota : Int
  status : TaskStatus
  failReason : String
  submitTime : Int
  startTime : Int
  finishTime : Int
  progress : String
  data : String
  upstreamTaskId : String
  resultUrl : String
  billingSource : TaskBillingSource
  subscriptionId : Int
  tokenId : Int
  billingContext : Option TaskBillingContext
  pluginState : String
  pollFailures : Int
  deriving DecidableEq, Repr

def taskRefundLegacyCutoff : Int := 1771718400

def progressComplete : String := "100%"

namespace Task

variable (t : Task)

/-- `GetUpstreamTaskID`: the id of an old row is its task id. -/
def getUpstreamTaskID : String := if t.upstreamTaskId ≠ "" then t.upstreamTaskId else t.taskId

/-- The condition of `GetAllUnFinishSyncTasks`. -/
def unfinished : Prop := t.progress ≠ progressComplete ∧ t.status.isDone = false
  deriving Decidable

/-- The condition of `GetTimedOutUnfinishedTasks`. -/
def timedOut (cutoffUnix : Int) : Prop := t.unfinished ∧ t.submitTime < cutoffUnix
  deriving Decidable

def isLegacy : Prop := 0 < t.submitTime ∧ t.submitTime < taskRefundLegacyCutoff
  deriving Decidable

/-- `taskSnapshot.Equal` of two snapshots. -/
def sameSnapshot (t' : Task) : Prop :=
  t.status = t'.status ∧ t.progress = t'.progress ∧ t.startTime = t'.startTime ∧
    t.finishTime = t'.finishTime ∧ t.failReason = t'.failReason ∧ t.resultUrl = t'.resultUrl ∧
    t.data = t'.data ∧ t.pluginState = t'.pluginState ∧ t.pollFailures = t'.pollFailures
  deriving Decidable

end Task

/-- The reply to a guarded update: whether it runs without error, and whether the database counts
the rows that match or only those that change. -/
structure UpdateReply where
  ok : Bool
  countsMatched : Bool

/-- `UpdateWithStatus`: all columns of `t` go into the row if the row still has the status
`fromStatus`. The result tells whether this caller won; `none` is an error. -/
def Task.updateWithStatus (t : Task) (ans : UpdateReply) (row : Task) (fromStatus : TaskStatus) :
    Option Bool × Task :=
  if ans.ok = false then (none, row)
  else if row.status = fromStatus then (some (ans.countsMatched || decide (t ≠ row)), t)
  else (some false, row)

/-- `TaskBulkUpdateByID` with the parameters of a failure: no guard, no quota.

Source: `model/task.go` and `service/task_polling.go`. -/
def Task.bulkFail (row : Task) (ok : Bool) (failReason : Option String) : Task :=
  if ok then
    { row with
      status := .failure
      progress := progressComplete
      failReason := failReason.getD row.failReason }
  else row

end NewApi.Model
