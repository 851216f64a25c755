import NewApi.Service.TaskRefund

/-!
# The cutoff of failed polls

A poll that fails counts one failure on the task, and the task is failed when the count reaches
`TASK_POLL_MAX_FAILURES`; a status that is recognized and not final sets the count to zero. The
count is a column of the task and is written only if the update of the task is. Here one poller
polls the task again and again and nothing else writes the row.

Source: `service/task_polling.go`.
-/

namespace NewApi.Service

open Model StepSystem List

inductive PollKind
  /-- The upstream was not asked. -/
  | unpolled
  | failure
  /-- A recognized status that is not final. -/
  | recognized
  | terminal

def PollAnswer.kind : PollAnswer → PollKind
  | .channelMissing | .notPolled => .unpolled
  | .fetchError _ | .bodyError _ _ => .failure
  | .response statusCode hookError item =>
    match classifyPollHTTP statusCode with
    | .notFound => .terminal
    | .auth | .transient => .failure
    | .ok | .otherClient | .unrecognized | .hookError | .transport =>
      match hookError, item with
      | some _, _ => .failure
      | none, none => .unpolled
      | none, some item =>
        if Unrecognized statusCode item.info.status then .failure
        else if isNonTerminalPollStatus item.info.status then .recognized
        else .terminal

/-- A visit of a task that has an upstream id and a channel; without one of them the pass fails the
task by the bulk update and counts nothing. -/
structure PollVisit where
  answer : PollAnswer
  reply : PollReply
  now : Int
  hasChannel : answer ≠ .channelMissing

def consecutiveFailures (visits : List PollVisit) : Int :=
  visits.foldl (fun n visit =>
    match visit.answer.kind with
    | .unpolled => n
    | .failure => n + 1
    | .recognized | .terminal => 0) 0

section

variable (cfg : PollSettings) (pricing : TaskPricing)

/-- One pass of the only poller: it loads the row if the task is unfinished, and visits it. -/
def pollPass (b : TaskBilling) (visit : PollVisit) : TaskBilling :=
  if b.row.unfinished then
    (updateVideoSingleTask cfg visit.now b.row visit.answer).run pricing visit.reply
      { b with task := b.row }
  else b

variable {cfg pricing} {task : Task} {b : TaskBilling} {visit : PollVisit} {now : Int}

/-! ### One visit -/

theorem applyItem_status (item : UpstreamItem) :
    (applyItem cfg now task item).status = item.info.status := by
  unfold applyItem
  dsimp only
  split <;> simp_all

theorem applyItem_pollFailures (item : UpstreamItem) :
    (applyItem cfg now task item).pollFailures =
      if isNonTerminalPollStatus item.info.status then 0 else task.pollFailures := by
  unfold applyItem
  dsimp only
  split <;> rfl

theorem isDone_of_recognized {statusCode : ℕ} {status : TaskStatus}
    (h : ¬ Unrecognized statusCode status) :
    status.isDone = !isNonTerminalPollStatus status := by
  cases status <;> simp_all [Unrecognized, knownPollStatus, isNonTerminalPollStatus,
    TaskStatus.isDone]

theorem updateVideoSingleTask_kind (hopen : task.status.isDone = false) (answer : PollAnswer) :
    let verdict := updateVideoSingleTask cfg now task answer
    match answer.kind with
    | .unpolled => verdict = .keep task
    | .failure => ∃ data cls statusCode detail,
        verdict = recordPollFailure cfg now { task with data := data } cls statusCode detail
    | .recognized => ∃ task', task'.pollFailures = 0 ∧ task'.status.isDone = false ∧
        (verdict = .save task' ∨ verdict = .keep task' ∧ task.sameSnapshot task')
    | .terminal => ∃ task' taskResult, task'.status.isDone = true ∧
        verdict = .finish task' taskResult := by
  cases answer with
  | fetchError | bodyError => exact ⟨task.data, _, _, _, rfl⟩
  | response statusCode hookError item =>
    simp only [PollAnswer.kind, updateVideoSingleTask, pollAnswer]
    cases hclass : classifyPollHTTP statusCode with
    | notFound => exact ⟨_, _, rfl, rfl⟩
    | auth | transient => exact ⟨task.data, _, _, _, rfl⟩
    | _ =>
      cases hookError with
      | some detail => exact ⟨task.data, _, _, _, rfl⟩
      | none =>
        rcases item with - | item
        · rfl
        by_cases hunrecognized : Unrecognized statusCode item.info.status
        · simp only [if_pos hunrecognized]
          exact ⟨_, _, _, _, rfl⟩
        have hdone : (applyItem cfg now task item).status.isDone =
            !isNonTerminalPollStatus item.info.status := by
          rw [applyItem_status, isDone_of_recognized hunrecognized]
        cases hopen' : isNonTerminalPollStatus item.info.status with
        | true =>
          rw [hopen', Bool.not_true] at hdone
          simp only [if_neg hunrecognized, hopen', hdone, Bool.false_eq_true, if_false]
          refine ⟨_, by rw [applyItem_pollFailures, if_pos hopen'], hdone, ?_⟩
          split_ifs with hsame
          · exact .inr ⟨rfl, hsame⟩
          · exact .inl rfl
        | false =>
          rw [hopen'] at hdone
          have hmoved : task.status ≠ (applyItem cfg now task item).status := by
            intro heq
            rw [← heq, hopen] at hdone
            cases hdone
          simp only [if_neg hunrecognized, hopen', hdone, if_pos hmoved]
          exact ⟨_, _, hdone, rfl⟩
  | _ => rfl

/-- **Step.** What a pass does to the row of an unfinished task. -/
theorem pollPass_row (cfg : PollSettings) (pricing : TaskPricing)
    (hopen : b.row.unfinished) (hok : visit.reply.update.ok = true) :
    let row := (pollPass cfg pricing b visit).row
    match visit.answer.kind with
    | .unpolled => row = b.row
    | .failure =>
      if 0 < cfg.taskPollMaxFailures ∧
          cfg.taskPollMaxFailures ≤ b.row.pollFailures + 1 then row.status = .failure
      else row.pollFailures = b.row.pollFailures + 1 ∧ row.status = b.row.status
    | .recognized => row.pollFailures = 0 ∧ row.status.isDone = false
    | .terminal => row.status.isDone = true := by
  have hwrites (task : Task) : task.updateWithStatus visit.reply.update b.row b.row.status =
      (some (visit.reply.update.countsMatched || decide (task ≠ b.row)), task) := by
    simp [Task.updateWithStatus, hok]
  have hfinish (task : Task) (taskResult : TaskInfo) (hmoved : task ≠ b.row) :
      ((PollVerdict.finish task taskResult).run pricing visit.reply
        { b with task := b.row }).row.status = task.status := by
    simp only [PollVerdict.run, hwrites, decide_eq_true hmoved, Bool.or_true]
    exact (finishTaskBilling_sameStatus _ _ _).row
  have hkind := @updateVideoSingleTask_kind cfg b.row visit.now hopen.2 visit.answer
  rw [pollPass, if_pos hopen]
  generalize updateVideoSingleTask cfg visit.now b.row visit.answer = verdict at hkind ⊢
  cases hk : visit.answer.kind with
  | unpolled =>
    simp only [hk] at hkind
    rw [hkind]
    rfl
  | failure =>
    simp only [hk] at hkind
    obtain ⟨data, cls, statusCode, detail, rfl⟩ := hkind
    simp only [recordPollFailure]
    split_ifs
    · refine hfinish _ _ fun heq => ?_
      have hstatus := congrArg (fun task => task.status.isDone) heq
      simp only [hopen.2] at hstatus
      cases hstatus
    · simp [PollVerdict.run, hwrites]
  | recognized =>
    simp only [hk] at hkind
    obtain ⟨task', hzero, hopen', rfl | ⟨rfl, hsame⟩⟩ := hkind
    · simp [PollVerdict.run, hwrites, hzero, hopen', and_self]
    · -- Nothing is written, but the snapshot contains the count, which was zero before.
      exact ⟨hsame.2.2.2.2.2.2.2.2.trans hzero, hopen.2⟩
  | terminal =>
    simp only [hk] at hkind
    obtain ⟨task', taskResult, hdone, rfl⟩ := hkind
    refine (congrArg _ (hfinish _ _ fun heq => ?_)).trans hdone
    rw [heq, hopen.2] at hdone
    cases hdone

/-! ### Passes -/

/-- What every pass keeps: the row of an unfinished task has the failures since the last recognized
result as its count, and they are below the limit. -/
def CountsFailures (cfg : PollSettings) (b : TaskBilling) (n : Int) : Prop :=
  b.row.unfinished → b.row.pollFailures = n ∧
    (0 < cfg.taskPollMaxFailures → n < cfg.taskPollMaxFailures)

theorem consecutiveFailures_append (visits : List PollVisit) (visit : PollVisit) :
    consecutiveFailures (visits ++ [visit]) =
      match visit.answer.kind with
      | .unpolled => consecutiveFailures visits
      | .failure => consecutiveFailures visits + 1
      | .recognized | .terminal => 0 := by
  rw [consecutiveFailures, foldl_append]
  rfl

theorem CountsFailures.append {visits : List PollVisit}
    (h : CountsFailures cfg b (consecutiveFailures visits)) (pricing : TaskPricing)
    (hok : visit.reply.update.ok = true) :
    CountsFailures cfg (pollPass cfg pricing b visit)
      (consecutiveFailures (visits ++ [visit])) := by
  by_cases hopen : b.row.unfinished
  · obtain ⟨hcount, hbelow⟩ := h hopen
    have hrow := pollPass_row cfg pricing hopen hok
    rw [consecutiveFailures_append]
    intro hopen'
    cases hk : visit.answer.kind with
    | unpolled =>
      simp only [hk] at hrow
      rw [hrow]
      exact ⟨hcount, hbelow⟩
    | failure =>
      simp only [hk] at hrow
      split_ifs at hrow with hcut
      · rw [Task.unfinished, hrow] at hopen'
        cases hopen'.2
      · rw [hrow.1, hcount]
        exact ⟨rfl, fun hlimit => by rw [hcount] at hcut; simp only; omega⟩
    | recognized =>
      simp only [hk] at hrow
      exact ⟨hrow.1, id⟩
    | terminal =>
      simp only [hk] at hrow
      rw [Task.unfinished, hrow] at hopen'
      cases hopen'.2
  · rw [pollPass, if_neg hopen]
    exact fun hopen' => absurd hopen' hopen

/-- **Run.** -/
theorem countsFailures_run (hzero : b.row.pollFailures = 0) (visits : List PollVisit)
    (hok : ∀ visit ∈ visits, visit.reply.update.ok = true) :
    CountsFailures cfg (run (pollPass cfg pricing) b visits)
      (consecutiveFailures visits) := by
  induction visits using reverseRecOn with
  | nil => exact fun _ => ⟨hzero, id⟩
  | append_singleton visits visit ih =>
    have hlast := (ih fun v hv => hok v (mem_append_left _ hv)).append pricing
      (hok visit (mem_append_right _ mem_cons_self))
    rwa [run, foldl_append]

/-- **The cutoff.** After any passes from a count of zero, the row of an unfinished task has the
failures in a row as its count. A failed poll then fails the task if and only if the failures in a
row reach the limit, and a recognized status sets the count to zero and leaves the task open. -/
theorem cutoff_iff (cfg : PollSettings) (pricing : TaskPricing)
    (hzero : b.row.pollFailures = 0) (visits : List PollVisit) (visit : PollVisit)
    (hok : ∀ v ∈ visits ++ [visit], v.reply.update.ok = true)
    (hopen : (run (pollPass cfg pricing) b visits).row.unfinished) :
    let before := (run (pollPass cfg pricing) b visits).row
    let after := (run (pollPass cfg pricing) b (visits ++ [visit])).row
    before.pollFailures = consecutiveFailures visits ∧
      (visit.answer.kind = .unpolled → after = before) ∧
      (visit.answer.kind = .failure → (after.status = .failure ↔ 0 < cfg.taskPollMaxFailures ∧
          consecutiveFailures (visits ++ [visit]) = cfg.taskPollMaxFailures)) ∧
      (visit.answer.kind = .recognized → after.pollFailures = 0 ∧ after.status.isDone = false) := by
  intro before after
  obtain ⟨hcount, hbelow⟩ := countsFailures_run hzero visits
    (fun v hv => hok v (mem_append_left _ hv)) hopen
  have hrow := pollPass_row cfg pricing hopen (hok visit (mem_append_right _ mem_cons_self))
  have hafter : after = (pollPass cfg pricing (run (pollPass cfg pricing) b visits)
      visit).row := by
    simp [after, run]
  refine ⟨hcount, fun hk => ?_, fun hk => ?_, fun hk => ?_⟩
  · rw [hafter]
    simpa only [hk] using hrow
  · rw [consecutiveFailures_append, hafter]
    simp only [hk, hcount] at hrow ⊢
    split_ifs at hrow with hcut
    · exact ⟨fun _ => ⟨hcut.1, by have := hbelow hcut.1; omega⟩, fun _ => hrow⟩
    refine ⟨fun hfailed => ?_, fun hreached => absurd ⟨hreached.1, hreached.2.ge⟩ hcut⟩
    have hdone := hopen.2
    rw [← hrow.2, hfailed] at hdone
    cases hdone
  · rw [hafter]
    simpa only [hk] using hrow

end

def unreachablePass : PollVisit := ⟨.fetchError "timeout", .allOk, 1771800000, by decide⟩

theorem cutoff_unreachablePass : (run (pollPass dayTimeout (adaptorPricing 0))
      ⟨(chargedTask 1771790000).row, (chargedTask 1771790000).row,
        (chargedTask 1771790000).accounts⟩
      ([unreachablePass, unreachablePass] ++ [unreachablePass])).row.status = .failure :=
  ((cutoff_iff dayTimeout (adaptorPricing 0) (by decide) [unreachablePass, unreachablePass]
    unreachablePass (by decide) (by decide +kernel)).2.2.1 rfl).mpr ⟨by decide, by decide⟩

end NewApi.Service
