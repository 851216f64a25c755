import NewApi.Foundation.Pool
import NewApi.Service.TaskRefund

/-!
# A task is settled at most once

The passes and sweeps of `service/task_polling.go` over one task, with the billing of a task as a
step of its own. A worker is a pass or a sweep with the copy of the row that it has loaded. Its
guarded update and the settlement or refund after it are two steps, and any other worker may come
between them; a visit of `Service.TaskPolling` is the two taken together (`PollVerdict.run_eq_bill`,
`sweepTask_eq_bill`).

The argument is a potential: an open row is worth one settlement, and so is a worker that has won
its guarded update and has not billed yet. Only a worker that takes the row out of an open status
comes to owe a settlement.

Two things are outside the argument. A pass visits a copy that is already final if two unfinished
tasks of a platform share an upstream id, and then bills without an update of its own. And the bulk
updates have no guard, so they move a task that has succeeded to `FAILURE`.
-/

namespace NewApi.Service

open Model StepSystem

/-! ### Workers -/

inductive Worker
  /-- A pass that may visit its copy. -/
  | polling (task : Task)
  /-- A sweep that has not come to its copy yet. -/
  | sweeping (task : Task) (hopen : task.status.isDone = false)
  /-- A pass that settles next. -/
  | settling (task : Task) (taskResult : TaskInfo)
  /-- A sweep that refunds next. -/
  | refunding (task : Task)
  | finished

def Worker.owes : Worker → Bool
  | settling _ _ | refunding _ => true
  | polling _ | sweeping _ _ | finished => false

structure SettlementState where
  row : Task
  accounts : TaskAccounts
  workers : List Worker

inductive SettlementEvent
  | load
  | loadTimedOut (now : Int)
  | poll (k : ℕ) (mode : FetchMode) (answer : PollAnswer) (ans : PollReply) (now : Int)
  | sweep (k : ℕ) (ans : PollReply) (now : Int)
  | bill (k : ℕ) (settle refund : BillingReply)

/-- What a visit writes before it bills, and what its worker does next. -/
def PollVerdict.write (ans : PollReply) (copy row : Task) : PollVerdict → Task × Worker
  | keep task => (row, .polling task)
  | save task => ((task.updateWithStatus ans.update row copy.status).2, .polling task)
  | finish task taskResult =>
    match task.updateWithStatus ans.update row copy.status with
    | (some true, row') => (row', .settling task taskResult)
    | (_, row') => (row', .polling task)
  | finishAgain task taskResult =>
    (if copy.sameSnapshot task then row
      else (task.updateWithStatus ans.update row copy.status).2, .settling task taskResult)
  | bulk failReason => (row.bulkFail ans.bulk failReason, .polling copy)

/-- What a sweep writes before it refunds. -/
def sweepWrite (cfg : PollSettings) (ans : PollReply) (now : Int) (copy row : Task) :
    Task × Worker :=
  let failed := timedOutTask cfg now copy
  match failed.updateWithStatus ans.update row copy.status with
  | (some true, row') =>
    (row', if ¬ copy.isLegacy ∧ failed.quota ≠ 0 then .refunding failed else .finished)
  | (_, row') => (row', .finished)

section

variable (cfg : PollSettings) (pricing : TaskPricing)

/-- The settlement or refund of a worker. -/
def Worker.bill (settle refund : BillingReply) (row : Task) (accounts : TaskAccounts) :
    Worker → Task × TaskAccounts × Worker
  | settling task taskResult =>
    let b := finishTaskBilling pricing settle refund ⟨task, row, accounts⟩ taskResult
    (b.row, b.accounts, .polling b.task)
  | refunding task =>
    let b := (refundTaskQuota refund ⟨task, row, accounts⟩).2
    (b.row, b.accounts, .finished)
  | w => (row, accounts, w)

def settlementStep (x : SettlementState) : SettlementEvent → SettlementState
  | .load =>
    if x.row.unfinished then { x with workers := x.workers ++ [.polling x.row] } else x
  | .loadTimedOut now =>
    if h : 0 < cfg.taskTimeoutMinutes ∧
        x.row.timedOut (now - cfg.taskTimeoutMinutes * 60) then
      { x with workers := x.workers ++ [.sweeping x.row h.2.1.2] }
    else x
  | .poll k mode answer ans now =>
    match x.workers[k]? with
    | some (.polling copy) =>
      let r := (pollTask cfg now mode copy answer).write ans copy x.row
      ⟨r.1, x.accounts, x.workers.set k r.2⟩
    | _ => x
  | .sweep k ans now =>
    match x.workers[k]? with
    | some (.sweeping copy _) =>
      let r := sweepWrite cfg ans now copy x.row
      ⟨r.1, x.accounts, x.workers.set k r.2⟩
    | _ => x
  | .bill k settle refund =>
    match x.workers[k]? with
    | some w =>
      let r := w.bill pricing settle refund x.row x.accounts
      ⟨r.1, r.2.1, x.workers.set k r.2.2⟩
    | none => x

end

def billings (x : SettlementState) : SettlementEvent → ℕ
  | .bill k _ _ => (x.workers[k]?.any Worker.owes).toNat
  | _ => 0

/-! ### A visit is an update and a bill -/

theorem PollVerdict.run_eq_bill (pricing : TaskPricing) (ans : PollReply) (b : TaskBilling)
    (v : PollVerdict) :
    let r := v.write ans b.task b.row
    let billed := r.2.bill pricing ans.settle ans.refund r.1 b.accounts
    (v.run pricing ans b).row = billed.1 ∧ (v.run pricing ans b).accounts = billed.2.1 ∧
      billed.2.2 = .polling (v.run pricing ans b).task := by
  cases v with
  | keep task | save task | finishAgain task taskResult | bulk failReason => exact ⟨rfl, rfl, rfl⟩
  | finish task taskResult =>
    simp only [PollVerdict.run, PollVerdict.write]
    rcases updateWithStatus_cases task ans.update b.row b.task.status with
      heq | heq | ⟨-, heq⟩ <;> rw [heq] <;> exact ⟨rfl, rfl, rfl⟩

theorem sweepTask_eq_bill (cfg : PollSettings) (pricing : TaskPricing) (ans : PollReply)
    (now : Int) (b : TaskBilling) :
    let r := sweepWrite cfg ans now b.task b.row
    let billed := r.2.bill pricing ans.settle ans.refund r.1 b.accounts
    (sweepTask cfg ans now b).row = billed.1 ∧
      (sweepTask cfg ans now b).accounts = billed.2.1 ∧ billed.2.2 = .finished := by
  simp only [sweepTask, sweepWrite]
  rcases updateWithStatus_cases (timedOutTask cfg now b.task) ans.update b.row b.task.status
    with heq | heq | ⟨-, heq⟩ <;> rw [heq]
  · exact ⟨rfl, rfl, rfl⟩
  · exact ⟨rfl, rfl, rfl⟩
  · simp only
    split_ifs <;> exact ⟨rfl, rfl, rfl⟩

/-! ### A bill adjusts the funding source at most once -/

/-- The balances are unchanged, or one adjustment of the funding source has succeeded and the token
and the counters have followed it. -/
def Adjusted (a a' : TaskAccounts) : Prop :=
  a' = a ∨ ∃ (task : Task) (ans : BillingReply) (delta : Int) (l : Ledger),
    taskAdjustFunding ans.funding task a.ledger delta = (true, l) ∧
      a' = ⟨taskAdjustTokenQuota ans task l delta, a.userUsedQuota + delta,
        a.channelUsedQuota + delta⟩

section

variable {pricing : TaskPricing} {ans settle refund : BillingReply} {b : TaskBilling}

@[simp] theorem updateQuota_accounts (ok : Bool) : (b.updateQuota ok).accounts = b.accounts := by
  unfold TaskBilling.updateQuota
  split_ifs <;> rfl

theorem refundTaskQuota_adjusted : Adjusted b.accounts (refundTaskQuota ans b).2.accounts := by
  unfold refundTaskQuota
  split_ifs
  · exact .inl rfl
  split
  · exact .inl rfl
  next l hadjust =>
    exact .inr ⟨b.task, ans, -b.task.quota, l, hadjust, by
      simp [sub_eq_add_neg]⟩

theorem recalculateTaskQuota_adjusted (actualQuota : Int) :
    Adjusted b.accounts (recalculateTaskQuota ans b actualQuota).accounts := by
  unfold recalculateTaskQuota
  simp only
  split_ifs
  · exact .inl rfl
  · exact .inl rfl
  split
  · exact .inl rfl
  next l hadjust => exact .inr ⟨b.task, ans, actualQuota - b.task.quota, l, hadjust, by simp⟩

theorem settleByUsage_cases (taskResult : TaskInfo) :
    settleByUsage pricing ans b taskResult = (false, b) ∨ ∃ actualQuota,
      settleByUsage pricing ans b taskResult =
        (true, recalculateTaskQuota ans b actualQuota) := by
  unfold settleByUsage recalculateTaskQuotaByTokens
  simp only
  split_ifs
  · exact .inr ⟨_, rfl⟩
  · exact .inl rfl
  · split
    · exact .inl rfl
    · exact .inr ⟨_, rfl⟩
  · exact .inl rfl

theorem settleTaskBilling_cases (taskResult : TaskInfo) :
    (settleTaskBillingOnComplete pricing ans b taskResult).2 = b ∨ ∃ actualQuota,
      settleTaskBillingOnComplete pricing ans b taskResult =
        (true, recalculateTaskQuota ans b actualQuota) := by
  have husage : (settleByUsage pricing ans b taskResult).2 = b ∨ ∃ actualQuota,
      settleByUsage pricing ans b taskResult = (true, recalculateTaskQuota ans b actualQuota) :=
    (settleByUsage_cases taskResult).imp_left fun h => by rw [h]
  unfold settleTaskBillingOnComplete
  split
  · exact husage
  split_ifs
  · exact .inl rfl
  · split
    · exact .inl rfl
    · exact .inr ⟨_, rfl⟩
  · exact .inl rfl
  · exact husage

theorem finishTaskBilling_adjusted (taskResult : TaskInfo) :
    Adjusted b.accounts (finishTaskBilling pricing settle refund b taskResult).accounts := by
  have hsettle : (settleTaskBillingOnComplete pricing settle b taskResult).2 = b ∨ ∃ actualQuota,
      settleTaskBillingOnComplete pricing settle b taskResult =
        (true, recalculateTaskQuota settle b actualQuota) := settleTaskBilling_cases taskResult
  unfold finishTaskBilling
  rcases hsettle with hsame | ⟨actualQuota, hsettled⟩
  · simp only [hsame]
    split_ifs
    · exact refundTaskQuota_adjusted
    · exact .inl rfl
  · simp only [hsettled, Bool.true_eq_false, false_and, and_false]
    exact recalculateTaskQuota_adjusted actualQuota

end

/-! ### Which verdicts are bulk updates -/

/-- The visit of a copy ends in a bulk update: it has no upstream id, or its channel is missing. -/
def BulkDue (copy : Task) (answer : PollAnswer) : Prop :=
  copy.getUpstreamTaskID = "" ∨ answer = .channelMissing
  deriving Decidable

def PollVerdict.isBulk : PollVerdict → Bool
  | bulk _ => true
  | keep _ | save _ | finish _ _ | finishAgain _ _ => false

section

variable {cfg : PollSettings} {now : Int}

theorem recordPollFailure_isBulk (task : Task) (cls : PollClass) (code : ℕ) (detail : String) :
    (recordPollFailure cfg now task cls code detail).isBulk = false := by
  unfold recordPollFailure
  simp only
  split_ifs <;> rfl

theorem bulkDue_of_isBulk {mode : FetchMode} {copy : Task} {answer : PollAnswer}
    (h : (pollTask cfg now mode copy answer).isBulk = true) : BulkDue copy answer := by
  by_contra hdue
  obtain ⟨hid, hch⟩ := not_or.mp hdue
  have hbulk : (pollTask cfg now mode copy answer).isBulk = false := by
    unfold pollTask
    rw [if_neg hid, if_neg hch]
    cases mode with
    | single | batch =>
      refine pollAnswer_rule (P := (·.isBulk = false)) rfl (fun _ => rfl)
        (recordPollFailure_isBulk copy) (fun code item => ?_) answer
      simp only
      split_ifs <;> first | exact recordPollFailure_isBulk _ _ _ _ | rfl
  rw [hbulk] at h
  cases h

end

/-! ### What a worker can do -/

/-- What the write of a visit or a sweep can do with an open copy; `bulk` tells whether a bulk
update is due. -/
inductive CopyMove (copy row : Task) (bulk : Prop) : Task × Worker → Prop
  /-- Nothing is written, or another worker was faster. -/
  | unmoved {w : Worker} (hw : w.owes = false) : CopyMove copy row bulk (row, w)
  | saved {task : Task} {w : Worker} (hstatus : row.status = copy.status)
      (hopen : task.status.isDone = false) (hw : w.owes = false) :
      CopyMove copy row bulk (task, w)
  | ended {task : Task} {w : Worker} (hstatus : row.status = copy.status)
      (hdone : task.status.isDone = true) : CopyMove copy row bulk (task, w)
  | bulkFailed {w : Worker} (hbulk : bulk) (ok : Bool) (failReason : Option String)
      (hw : w.owes = false) : CopyMove copy row bulk (row.bulkFail ok failReason, w)

theorem PollVerdict.Sound.write {v : PollVerdict} {copy : Task} (hv : v.Sound copy)
    (ans : PollReply) (row : Task) :
    CopyMove copy row (v.isBulk = true) (v.write ans copy row) := by
  cases v with
  | keep task => exact .unmoved rfl
  | save task =>
    simp only [PollVerdict.write]
    rcases updateWithStatus_cases task ans.update row copy.status with
      heq | heq | ⟨hstatus, heq⟩ <;> rw [heq]
    · exact .unmoved rfl
    · exact .unmoved rfl
    · exact .saved hstatus hv.1 rfl
  | finish task taskResult =>
    simp only [PollVerdict.write]
    rcases updateWithStatus_cases task ans.update row copy.status with
      heq | heq | ⟨hstatus, heq⟩ <;> rw [heq]
    · exact .unmoved rfl
    · exact .unmoved rfl
    · exact .ended hstatus hv.1
  | finishAgain task taskResult => exact hv.elim
  | bulk failReason => exact .bulkFailed rfl _ failReason rfl

theorem sweepWrite_move (cfg : PollSettings) (ans : PollReply) (now : Int)
    (copy row : Task) : CopyMove copy row False (sweepWrite cfg ans now copy row) := by
  simp only [sweepWrite]
  rcases updateWithStatus_cases (timedOutTask cfg now copy) ans.update row copy.status
    with heq | heq | ⟨hstatus, heq⟩ <;> rw [heq]
  · exact .unmoved rfl
  · exact .unmoved rfl
  · exact .ended hstatus rfl

def openRow (row : Task) : ℕ := (!row.status.isDone).toNat

section

variable {copy row : Task} {bulk : Prop} {r : Task × Worker}

theorem CopyMove.pays (h : CopyMove copy row bulk r) (hopen : copy.status.isDone = false) :
    openRow r.1 + r.2.owes.toNat ≤ openRow row := by
  unfold openRow
  cases h with
  | unmoved hw => simp [hw]
  | saved hstatus hopen' hw => simp [hstatus, hopen, hopen', hw]
  | @ended task w hstatus hdone =>
    simp only [hstatus, hopen, hdone]
    cases w.owes <;> decide
  | bulkFailed hbulk ok failReason hw =>
    simp only [hw]
    rcases bulkFail_cases row ok failReason with hsame | hfailed
    · rw [hsame]
      exact le_refl _
    · rw [hfailed]
      exact Nat.zero_le _

theorem CopyMove.status_eq (h : CopyMove copy row bulk r) (hopen : copy.status.isDone = false)
    (hdone : row.status.isDone = true) (hbulk : row.status = .success → ¬ bulk) :
    r.1.status = row.status := by
  have hguard : row.status ≠ copy.status := by
    intro heq
    rw [heq, hopen] at hdone
    cases hdone
  cases h with
  | unmoved => rfl
  | saved hstatus | ended hstatus => exact absurd hstatus hguard
  | bulkFailed hdue ok failReason =>
    rcases bulkFail_cases row ok failReason with hsame | hfailed
    · rw [hsame]
    have hfailure : row.status = .failure := by
      cases hrow : row.status with
      | failure => rfl
      | success => exact absurd hdue (hbulk hrow)
      | _ => rw [hrow] at hdone; cases hdone
    rw [hfailed, hfailure]

end

theorem Worker.bill_spec (pricing : TaskPricing) (settle refund : BillingReply) (row : Task)
    (accounts : TaskAccounts) (w : Worker) :
    (w.bill pricing settle refund row accounts).1.status = row.status ∧
      (w.bill pricing settle refund row accounts).2.2.owes = false ∧
      Adjusted accounts (w.bill pricing settle refund row accounts).2.1 ∧
      (w.owes = false → (w.bill pricing settle refund row accounts).2.1 = accounts) := by
  cases w with
  | settling task taskResult =>
    exact ⟨(finishTaskBilling_sameStatus settle refund taskResult).row, rfl,
      finishTaskBilling_adjusted taskResult, nofun⟩
  | refunding task => exact ⟨refundTaskQuota_sameStatus.row, rfl, refundTaskQuota_adjusted, nofun⟩
  | _ => exact ⟨rfl, rfl, .inl rfl, fun _ => rfl⟩

/-! ### Steps -/

def potential (x : SettlementState) : ℕ := openRow x.row + x.workers.countP Worker.owes

def SettlementState.copy (x : SettlementState) (k : ℕ) : Option Task :=
  match x.workers[k]? with
  | some (.polling copy) => some copy
  | _ => none

def OpenVisit (x : SettlementState) : SettlementEvent → Prop
  | .poll k _ _ _ _ => ∀ copy ∈ x.copy k, copy.status.isDone = false
  | _ => True

def SparesSuccess (x : SettlementState) : SettlementEvent → Prop
  | .poll k _ answer _ _ => x.row.status = .success → ∀ copy ∈ x.copy k, ¬ BulkDue copy answer
  | _ => True

section

variable {cfg : PollSettings} {pricing : TaskPricing} {x : SettlementState}
  {e : SettlementEvent}

theorem CopyMove.potential_le {copy : Task} {bulk : Prop} {r : Task × Worker} {k : ℕ} {w : Worker}
    (h : CopyMove copy x.row bulk r) (hopen : copy.status.isDone = false)
    (hk : x.workers[k]? = some w) :
    potential ⟨r.1, x.accounts, x.workers.set k r.2⟩ ≤ potential x := by
  have hcount := Pool.countP_set_add (p := Worker.owes) hk r.2
  have hpays := h.pays hopen
  unfold potential
  simp only
  omega

/-- **One step**: a settlement or refund is paid for with the potential. -/
theorem billings_add_potential_le (hvisit : OpenVisit x e) :
    billings x e + potential (settlementStep cfg pricing x e) ≤ potential x := by
  cases e with
  | load | loadTimedOut now =>
    simp only [settlementStep, billings]
    split_ifs
    · simp [potential, Worker.owes]
    · simp
  | poll k mode answer ans now =>
    simp only [settlementStep, billings, zero_add]
    split
    next copy hk =>
      have hopen : copy.status.isDone = false := hvisit copy (by simp [SettlementState.copy, hk])
      exact ((pollTask_sound mode hopen answer).write ans x.row).potential_le hopen hk
    · exact le_refl _
  | sweep k ans now =>
    simp only [settlementStep, billings, zero_add]
    split
    next copy hopen hk =>
      exact (sweepWrite_move cfg ans now copy x.row).potential_le hopen hk
    · exact le_refl _
  | bill k settle refund =>
    simp only [settlementStep, billings]
    rcases hk : x.workers[k]? with - | w
    · simp
    obtain ⟨hstatus, howes, -, -⟩ := w.bill_spec pricing settle refund x.row x.accounts
    have hcount := Pool.countP_set_add (p := Worker.owes) hk
      (w.bill pricing settle refund x.row x.accounts).2.2
    rw [howes, Bool.toNat_false] at hcount
    simp only [potential, openRow, hstatus, Option.any_some]
    omega

/-- **One step** moves the balances only if it bills, and then by at most one adjustment. -/
theorem settlementStep_accounts :
    Adjusted x.accounts (settlementStep cfg pricing x e).accounts ∧
      (billings x e = 0 → (settlementStep cfg pricing x e).accounts = x.accounts) := by
  cases e with
  | load | loadTimedOut now =>
    simp only [settlementStep]
    split_ifs <;> exact ⟨.inl rfl, fun _ => rfl⟩
  | poll | sweep =>
    simp only [settlementStep]
    split <;> exact ⟨.inl rfl, fun _ => rfl⟩
  | bill k settle refund =>
    simp only [settlementStep, billings]
    cases hk : x.workers[k]? with
    | none => exact ⟨.inl rfl, fun _ => rfl⟩
    | some w =>
      obtain ⟨-, -, hadjusted, hsame⟩ := w.bill_spec pricing settle refund x.row x.accounts
      refine ⟨hadjusted, fun hzero => hsame ?_⟩
      simpa using hzero

/-- **One step** leaves a final status. -/
theorem settlementStep_status (hvisit : OpenVisit x e) (hbulk : SparesSuccess x e)
    (hdone : x.row.status.isDone = true) :
    (settlementStep cfg pricing x e).row.status = x.row.status := by
  cases e with
  | load | loadTimedOut now =>
    simp only [settlementStep]
    split_ifs <;> rfl
  | poll k mode answer ans now =>
    simp only [settlementStep]
    split
    next copy hk =>
      have hcopy : copy ∈ x.copy k := by simp [SettlementState.copy, hk]
      have hopen : copy.status.isDone = false := hvisit copy hcopy
      refine ((pollTask_sound mode hopen answer).write ans x.row).status_eq hopen hdone ?_
      intro hsuccess hisBulk
      exact hbulk hsuccess copy hcopy (bulkDue_of_isBulk hisBulk)
    · rfl
  | sweep k ans now =>
    simp only [settlementStep]
    split
    next copy hopen hk =>
      exact (sweepWrite_move cfg ans now copy x.row).status_eq hopen hdone fun _ => id
    · rfl
  | bill k settle refund =>
    simp only [settlementStep]
    cases x.workers[k]? with
    | none => rfl
    | some w => exact (w.bill_spec pricing settle refund x.row x.accounts).1

end

/-! ### Runs -/

/-- **A task is settled at most once.** Take any task that nobody has loaded yet and any run of
passes and sweeps over it in which only open copies are visited. At most one step of the run settles
or refunds the task, that step adjusts the funding source at most once, and no other step moves a
balance. If moreover no bulk update meets a task that has succeeded, then no step changes a status
that is final. -/
theorem task_settled_at_most_once (cfg : PollSettings) (pricing : TaskPricing)
    {x : SettlementState} (hfresh : x.workers = []) {events : List SettlementEvent}
    (hvisits : Along (settlementStep cfg pricing) OpenVisit x events) :
    sumAlong (settlementStep cfg pricing) billings x events ≤ 1 ∧
      Along (settlementStep cfg pricing)
        (fun y e => Adjusted y.accounts (settlementStep cfg pricing y e).accounts ∧
          (billings y e = 0 → (settlementStep cfg pricing y e).accounts = y.accounts))
        x events ∧
      (Along (settlementStep cfg pricing) SparesSuccess x events →
        Along (settlementStep cfg pricing) (fun y e => y.row.status.isDone = true →
            (settlementStep cfg pricing y e).row.status = y.row.status) x events) := by
  refine ⟨?_, along_of_forall (fun y e => settlementStep_accounts) x events, fun hbulk => ?_⟩
  · have hsum : sumAlong (settlementStep cfg pricing) billings x events +
        potential (run (settlementStep cfg pricing) x events) ≤ potential x :=
      sumAlong_add_le (fun y e hvisit => billings_add_potential_le hvisit) hvisits
    have hstart : potential x ≤ 1 := by
      simp only [potential, hfresh]
      exact Bool.toNat_le _
    omega
  · exact (along_and.mpr ⟨hvisits, hbulk⟩).imp fun y e h => settlementStep_status h.1 h.2

def unloadedTask : SettlementState :=
  ⟨(chargedTask 1771790000).row, (chargedTask 1771790000).accounts, []⟩

def reported (status : TaskStatus) : PollAnswer :=
  .response 200 none (some
    { info := { failTaskInfo "" with status := status }, submitTime := 0, startTime := 0,
      finishTime := 0, data := some "", excerpt := "", newApiData := none })

def twoPasses : List SettlementEvent :=
  [.load, .load, .poll 0 .single (reported .failure) .allOk 1771800000,
    .poll 1 .single (reported .failure) .allOk 1771800000,
    .bill 0 ⟨true, true, true, true⟩ ⟨true, true, true, true⟩,
    .bill 1 ⟨true, true, true, true⟩ ⟨true, true, true, true⟩]

theorem task_settled_at_most_once_twoPasses :
    sumAlong (settlementStep dayTimeout (adaptorPricing 0)) billings unloadedTask twoPasses ≤ 1 ∧
      (run (settlementStep dayTimeout (adaptorPricing 0)) unloadedTask
        twoPasses).accounts.ledger.wallet = 1000 := by
  have hvisits : Along (settlementStep dayTimeout (adaptorPricing 0)) OpenVisit unloadedTask
      twoPasses := by
    refine ⟨trivial, trivial, ?_, ?_, trivial, trivial, trivial⟩
    all_goals
      intro copy hcopy
      obtain rfl := Option.some.inj hcopy
      rfl
  exact ⟨(task_settled_at_most_once dayTimeout (adaptorPricing 0) rfl hvisits).1, by decide +kernel⟩

/-- What an unguarded write does to a task that has ended. In the first run the task has succeeded
and a pass with an older copy, which cannot read its channel, fails it. In the second run a pass
has lost the guarded update and visits its copy again, which is final by then: the charge of `100`
is refunded twice. -/
theorem final_status_overwritten :
    (let x := run (settlementStep dayTimeout (adaptorPricing 0)) unloadedTask
      [.load, .load, .poll 0 .single (reported .success) .allOk 1771800000]
    x.row.status = .success ∧ (settlementStep dayTimeout (adaptorPricing 0) x
        (.poll 1 .single .channelMissing .allOk 1771800000)).row.status = .failure) ∧
    (let events := twoPasses ++ [.poll 1 .single (reported .failure) .allOk 1771800000,
      .bill 1 ⟨true, true, true, true⟩ ⟨true, true, true, true⟩]
    sumAlong (settlementStep dayTimeout (adaptorPricing 0)) billings unloadedTask events = 2 ∧
      (run (settlementStep dayTimeout (adaptorPricing 0)) unloadedTask
        events).accounts.ledger.wallet = 1100) := by
  decide +kernel

end NewApi.Service
