import Mathlib.Data.Int.Notation
import Mathlib.Logic.Basic

/-!
# Midjourney tasks

A row of the table `midjourneys` (`model/midjourney.go`), the task description that the upstream
sends (`dto.MidjourneyDto`), and the statements that the pollers and the notify handler run on the
row: the update that is guarded by the status, the save of all columns, the bulk updates, and the
update of the billing columns.

Left out are the columns that none of them reads or changes: user, action, prompt and description.
-/

namespace NewApi.Model

/-- The status of a task: the two texts that end one, and any other text of the upstream. -/
inductive MjStatus
  | failure
  | success
  | other (text : String)
  deriving DecidableEq, Repr

/-- A Midjourney task. -/
structure Midjourney where
  code : Int
  mjId : String
  promptEn : String
  state : String
  submitTime : Int
  startTime : Int
  finishTime : Int
  imageUrl : String
  videoUrl : String
  videoUrls : String
  status : MjStatus
  progress : String
  failReason : String
  channelId : Int
  quota : Int
  buttons : String
  properties : String
  tokenId : Int
  billingChannelId : Int
  deriving DecidableEq, Repr

/-- What the upstream reports on a task. `videoUrls` is the JSON text of the list and `noVideoUrls`
tells whether the list is empty; `properties` and `buttons` are JSON texts, `none` if missing. -/
structure MidjourneyDto where
  mjId : String
  promptEn : String
  state : String
  submitTime : Int
  startTime : Int
  finishTime : Int
  imageUrl : String
  videoUrl : String
  videoUrls : String
  noVideoUrls : Bool
  status : MjStatus
  progress : String
  failReason : String
  buttons : Option String
  properties : Option String
  deriving DecidableEq, Repr

def mjComplete : String := "100%"

namespace Midjourney

variable (task : Midjourney)

/-- The condition of `GetAllUnFinishTasks`. -/
def unfinished : Prop := task.progress ≠ mjComplete
  deriving Decidable

/-- `UpdateWithStatus`: all columns of `task` go into the row if the row has the status
`fromStatus`. `ok` is false for an error, and `countsMatched` tells whether the database counts the
rows that match or only those that change. The result is `none` for an error, and otherwise tells
whether this caller won. -/
def updateWithStatus (ok countsMatched : Bool) (row : Midjourney) (fromStatus : MjStatus) :
    Option Bool × Midjourney :=
  if ok = false then (none, row)
  else if row.status = fromStatus then (some (countsMatched || decide (task ≠ row)), task)
  else (some false, row)

/-- `MjBulkUpdate` and `MjBulkUpdateByTaskIds` with the parameters of a failure.

Source: `model/midjourney.go` and `controller/midjourney.go`. -/
def bulkFail (ok : Bool) (failReason : Option String) : Midjourney :=
  if ok then
    { task with
      status := .failure
      progress := mjComplete
      failReason := failReason.getD task.failReason }
  else task

/-- `UpdateBillingState`: the billing columns of the copy `task` go into the row. -/
def updateBillingState (ok : Bool) (row : Midjourney) : Midjourney :=
  if ok then
    { row with
      quota := task.quota
      tokenId := task.tokenId
      billingChannelId := task.billingChannelId }
  else row

/-- The copy with a report of the upstream, as a poller fills it in.

Source: `controller/midjourney.go`. -/
def applyItem (item : MidjourneyDto) : Midjourney :=
  { task with
    code := 1
    progress := item.progress
    promptEn := item.promptEn
    state := item.state
    submitTime := item.submitTime
    startTime := item.startTime
    finishTime := item.finishTime
    imageUrl := item.imageUrl
    status := item.status
    failReason := item.failReason
    properties := item.properties.getD task.properties
    buttons := item.buttons.getD task.buttons
    videoUrl := item.videoUrl
    videoUrls := if item.noVideoUrls then "" else item.videoUrls }

/-- The copy with a report of the upstream, as the notify handler fills it in.

Source: `relay/mjproxy_handler.go`. -/
def notified (item : MidjourneyDto) : Midjourney :=
  { task with
    progress := item.progress
    promptEn := item.promptEn
    state := item.state
    submitTime := item.submitTime
    startTime := item.startTime
    finishTime := item.finishTime
    imageUrl := item.imageUrl
    videoUrl := item.videoUrl
    videoUrls := item.videoUrls
    status := item.status
    failReason := item.failReason }

end Midjourney

def checkMjTaskNeedUpdate (oldTask : Midjourney) (newTask : MidjourneyDto) : Bool :=
  oldTask.code ≠ 1 ∨ oldTask.progress ≠ newTask.progress ∨ oldTask.promptEn ≠ newTask.promptEn ∨
    oldTask.state ≠ newTask.state ∨ oldTask.submitTime ≠ newTask.submitTime ∨
    oldTask.startTime ≠ newTask.startTime ∨ oldTask.finishTime ≠ newTask.finishTime ∨
    oldTask.imageUrl ≠ newTask.imageUrl ∨ oldTask.status ≠ newTask.status ∨
    oldTask.failReason ≠ newTask.failReason ∨
    oldTask.progress ≠ mjComplete ∧ newTask.failReason ≠ "" ∨
    oldTask.videoUrl ≠ newTask.videoUrl ∨
    (if newTask.noVideoUrls then oldTask.videoUrls ≠ "" else oldTask.videoUrls ≠ newTask.videoUrls)

theorem Midjourney.updateWithStatus_cases (task row : Midjourney) (ok countsMatched : Bool)
    (fromStatus : MjStatus) :
    (∃ won, won ≠ some true ∧ task.updateWithStatus ok countsMatched row fromStatus = (won, row)) ∨
      row.status = fromStatus ∧
        task.updateWithStatus ok countsMatched row fromStatus = (some true, task) := by
  unfold updateWithStatus
  by_cases hok : ok = false
  · rw [if_pos hok]
    exact .inl ⟨none, by decide, rfl⟩
  rw [if_neg hok]
  by_cases hstatus : row.status = fromStatus
  · rw [if_pos hstatus]
    cases hwon : countsMatched || decide (task ≠ row) with
    | true => exact .inr ⟨hstatus, rfl⟩
    | false =>
      -- a database that only counts changed rows reports a loss if nothing had to change
      have hsame : ¬ task ≠ row := of_decide_eq_false (Bool.or_eq_false_iff.mp hwon).2
      rw [not_not.mp hsame]
      exact .inl ⟨some false, by decide, rfl⟩
  · rw [if_neg hstatus]
    exact .inl ⟨some false, by decide, rfl⟩

end NewApi.Model
