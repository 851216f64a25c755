import NewApi.Foundation.Run
import NewApi.Service.TaskPolling

/-!
# Failed tasks are refunded

The quota of a task is charged while the task is open, and only the pass or sweep that moves the row
out of the status it was loaded with settles or refunds it. The invariant is that the row, as long
as it is open, and all loaded copies carry the charge that the task was submitted with, so a pass
that wins the guarded update knows what to give back.

Three kinds of failures are not refunded: legacy tasks in the sweep, tasks whose usage is settled
instead, and tasks that fail by a bulk update.
-/

namespace NewApi.Service

open Model StepSystem List

/-! ### The charge of a task -/

structure SameCharge (t t' : Task) : Prop where
  quota : t'.quota = t.quota
  billingSource : t'.billingSource = t.billingSource
  subscriptionId : t'.subscriptionId = t.subscriptionId
  tokenId : t'.tokenId = t.tokenId

theorem SameCharge.refl (t : Task) : SameCharge t t := ⟨rfl, rfl, rfl, rfl⟩

variable {t t' : Task}

section

variable (h : SameCharge t t')
include h

theorem SameCharge.trans {t'' : Task} (h' : SameCharge t' t'') : SameCharge t t'' :=
  ⟨h'.quota.trans h.quota, h'.billingSource.trans h.billingSource,
    h'.subscriptionId.trans h.subscriptionId, h'.tokenId.trans h.tokenId⟩

theorem SameCharge.taskIsSubscription_iff : taskIsSubscription t' ↔ taskIsSubscription t := by
  unfold taskIsSubscription
  rw [h.billingSource, h.subscriptionId]

theorem SameCharge.taskAdjustFunding (ok : Bool) (l : Ledger) (delta : Int) :
    Service.taskAdjustFunding ok t' l delta = Service.taskAdjustFunding ok t l delta := by
  unfold Service.taskAdjustFunding
  simp [h.taskIsSubscription_iff, h.subscriptionId]

theorem SameCharge.returned {quota : Int} {found : Bool}
    {a a' : TaskAccounts} (hreturned : Returned t' quota found a a') :
    Returned t quota found a a' where
  wallet hsub := hreturned.wallet fun hsub' => hsub (h.taskIsSubscription_iff.mp hsub')
  subscription hsub := by
    rw [← h.subscriptionId]
    exact hreturned.subscription (h.taskIsSubscription_iff.mpr hsub)
  token := by
    rw [← h.tokenId]
    exact hreturned.token
  userUsedQuota := hreturned.userUsedQuota
  channelUsedQuota := hreturned.channelUsedQuota

/-! ### Verdicts -/

end

def PollVerdict.Sound (t : Task) : PollVerdict → Prop
  | keep task | save task => task.status.isDone = false ∧ SameCharge t task
  | finish task _ => task.status.isDone = true ∧ SameCharge t task
  | finishAgain _ _ => False
  | bulk _ => True

section

variable {cfg : PollSettings} {now : Int} {t t' : Task}

theorem failTaskFromPoll_sound (hcharge : SameCharge t t') (reason : String) :
    (failTaskFromPoll now t' reason).Sound t :=
  ⟨rfl, hcharge.quota, hcharge.billingSource, hcharge.subscriptionId, hcharge.tokenId⟩

theorem recordPollFailure_sound (hcharge : SameCharge t t') (hopen : t'.status.isDone = false)
    (cls : PollClass) (statusCode : ℕ) (detail : String) :
    (recordPollFailure cfg now t' cls statusCode detail).Sound t := by
  unfold recordPollFailure
  have hcharge' : SameCharge t { t' with pollFailures := t'.pollFailures + 1 } :=
    ⟨hcharge.quota, hcharge.billingSource, hcharge.subscriptionId, hcharge.tokenId⟩
  simp only
  split_ifs
  · exact failTaskFromPoll_sound hcharge' _
  · exact ⟨hopen, hcharge'⟩

variable {read : ℕ → UpstreamItem → PollVerdict}

theorem pollAnswer_rule {P : PollVerdict → Prop}
    (hkeep : P (.keep t)) (hmissing : ∀ reason, P (failTaskFromPoll now t reason))
    (hfailed : ∀ cls code detail, P (recordPollFailure cfg now t cls code detail))
    (hread : ∀ code item, P (read code item)) (answer : PollAnswer) :
    P (pollAnswer cfg now t read answer) := by
  cases answer with
  | fetchError | bodyError => exact hfailed _ _ _
  | response code hookError item =>
    simp only [pollAnswer]
    cases classifyPollHTTP code with
    | notFound => exact hmissing _
    | auth | transient => exact hfailed _ _ _
    | _ =>
      cases hookError with
      | some detail => exact hfailed _ _ _
      | none =>
        cases item with
        | some item => exact hread code item
        | none => exact hkeep
  | _ => exact hkeep

theorem pollAnswer_sound (hopen : t.status.isDone = false)
    (hread : ∀ code item, (read code item).Sound t)
    (answer : PollAnswer) : (pollAnswer cfg now t read answer).Sound t :=
  pollAnswer_rule ⟨hopen, .refl t⟩ (failTaskFromPoll_sound (.refl t))
    (recordPollFailure_sound (.refl t) hopen) hread answer

theorem applyItem_charge (item : UpstreamItem) : SameCharge t (applyItem cfg now t item) := by
  simp only [applyItem]
  split <;> exact ⟨rfl, rfl, rfl, rfl⟩

theorem updateVideoSingleTask_sound (hopen : t.status.isDone = false) (answer : PollAnswer) :
    (updateVideoSingleTask cfg now t answer).Sound t := by
  refine pollAnswer_sound hopen (fun code item => ?_) answer
  have hcharge : SameCharge t (applyItem cfg now t item) := applyItem_charge item
  by_cases hunrecognized : Unrecognized code item.info.status
  · rw [if_pos hunrecognized]
    have hsame : SameCharge t { t with data := item.newApiData.getD t.data } := ⟨rfl, rfl, rfl, rfl⟩
    exact recordPollFailure_sound hsame hopen _ _ _
  rw [if_neg hunrecognized]
  generalize applyItem cfg now t item = task at hcharge
  cases hdone : task.status.isDone with
  | true =>
    have hne : t.status ≠ task.status := by
      intro heq
      rw [← heq, hopen] at hdone
      cases hdone
    simp only [hdone, ne_eq, hne]
    exact ⟨hdone, hcharge⟩
  | false =>
    simp only [hdone, Bool.false_eq_true, if_false]
    split_ifs <;> exact ⟨hdone, hcharge⟩

theorem updateBatchTask_sound (hopen : t.status.isDone = false) (answer : PollAnswer) :
    (updateBatchTask cfg now t answer).Sound t := by
  refine pollAnswer_sound hopen (fun code item => ?_) answer
  have hcharge : SameCharge t (applyBatchItem t item) := ⟨rfl, rfl, rfl, rfl⟩
  by_cases hunrecognized : Unrecognized code item.info.status
  · rw [if_pos hunrecognized]
    exact recordPollFailure_sound (.refl t) hopen _ _ _
  rw [if_neg hunrecognized]
  generalize applyBatchItem t item = task at hcharge
  simp only
  split_ifs with hdone
  · exact ⟨hdone.1, hcharge⟩
  refine ⟨?_, hcharge⟩
  cases htask : task.status.isDone with
  | false => rfl
  | true =>
    have heq : t.status = task.status := not_not.mp fun hne => hdone ⟨htask, hne⟩
    rw [← heq, hopen] at htask
    cases htask

theorem pollTask_sound (mode : FetchMode) (hopen : t.status.isDone = false) (answer : PollAnswer) :
    (pollTask cfg now mode t answer).Sound t := by
  unfold pollTask
  split_ifs
  · trivial
  · trivial
  · cases mode with
    | single => exact updateVideoSingleTask_sound hopen answer
    | batch => exact updateBatchTask_sound hopen answer

end

/-! ### Writes -/

section

variable {pricing : TaskPricing} {ans : BillingReply} {b : TaskBilling}

theorem updateWithStatus_cases (task : Task) (ans : UpdateReply) (row : Task)
    (fromStatus : TaskStatus) :
    task.updateWithStatus ans row fromStatus = (none, row) ∨
      task.updateWithStatus ans row fromStatus = (some false, row) ∨
      row.status = fromStatus ∧ task.updateWithStatus ans row fromStatus = (some true, task) := by
  unfold Task.updateWithStatus
  split_ifs with hok hstatus
  · exact .inl rfl
  · cases hwon : ans.countsMatched || decide (task ≠ row) with
    | true => exact .inr (.inr ⟨hstatus, rfl⟩)
    | false =>
      -- a database that only counts changed rows reports a loss if nothing had to change
      have hsame : ¬ task ≠ row := of_decide_eq_false (Bool.or_eq_false_iff.mp hwon).2
      rw [not_not.mp hsame]
      exact .inr (.inl rfl)
  · exact .inr (.inl rfl)

structure SameStatus (b b' : TaskBilling) : Prop where
  task : b'.task.status = b.task.status
  row : b'.row.status = b.row.status

@[simp] theorem updateQuota_task (ok : Bool) : (b.updateQuota ok).task = b.task := by
  unfold TaskBilling.updateQuota
  split_ifs <;> rfl

@[simp] theorem updateQuota_row_status (ok : Bool) :
    (b.updateQuota ok).row.status = b.row.status := by
  unfold TaskBilling.updateQuota
  split_ifs <;> rfl

theorem refundTaskQuota_sameStatus : SameStatus b (refundTaskQuota ans b).2 := by
  unfold refundTaskQuota
  split_ifs
  · exact ⟨rfl, rfl⟩
  · split
    · exact ⟨rfl, rfl⟩
    · exact ⟨by simp, by simp⟩

theorem recalculateTaskQuota_sameStatus (actualQuota : Int) :
    SameStatus b (recalculateTaskQuota ans b actualQuota) := by
  unfold recalculateTaskQuota
  simp only
  split_ifs
  · exact ⟨rfl, rfl⟩
  · exact ⟨rfl, rfl⟩
  · split
    · exact ⟨rfl, rfl⟩
    · exact ⟨by simp, by simp⟩

theorem settleByUsage_sameStatus (taskResult : TaskInfo) :
    SameStatus b (settleByUsage pricing ans b taskResult).2 := by
  unfold settleByUsage recalculateTaskQuotaByTokens
  simp only
  split_ifs
  · exact recalculateTaskQuota_sameStatus _
  · exact ⟨rfl, rfl⟩
  · split
    · exact ⟨rfl, rfl⟩
    · exact recalculateTaskQuota_sameStatus _
  · exact ⟨rfl, rfl⟩

theorem settleTaskBilling_sameStatus (taskResult : TaskInfo) :
    SameStatus b (settleTaskBillingOnComplete pricing ans b taskResult).2 := by
  unfold settleTaskBillingOnComplete
  split
  · exact settleByUsage_sameStatus taskResult
  split_ifs
  · exact ⟨rfl, rfl⟩
  · split
    · exact ⟨rfl, rfl⟩
    · exact recalculateTaskQuota_sameStatus _
  · exact ⟨rfl, rfl⟩
  · exact settleByUsage_sameStatus taskResult

theorem finishTaskBilling_sameStatus (settle refund : BillingReply) (taskResult : TaskInfo) :
    SameStatus b (finishTaskBilling pricing settle refund b taskResult) := by
  have hsettle : SameStatus b (settleTaskBillingOnComplete pricing settle b taskResult).2 :=
    settleTaskBilling_sameStatus taskResult
  unfold finishTaskBilling
  simp only
  split_ifs
  · have hrefund : SameStatus _ (refundTaskQuota refund
        (settleTaskBillingOnComplete pricing settle b taskResult).2).2 := refundTaskQuota_sameStatus
    exact ⟨hrefund.task.trans hsettle.task, hrefund.row.trans hsettle.row⟩
  · exact hsettle

end

/-! ### Steps -/

section

variable (cfg : PollSettings) (pricing : TaskPricing)

/-- The charge of a task over a run: the row, while it is open, and all loaded copies carry the
charge of `t`, and all loaded copies are open. -/
structure ChargeKept (t : Task) (x : TaskState) : Prop where
  row : x.row.status.isDone = false → SameCharge t x.row
  polled : ∀ c ∈ x.polled, c.status.isDone = false ∧ SameCharge t c
  swept : ∀ c ∈ x.swept, c.status.isDone = false ∧ SameCharge t c

def FailsAt (x : TaskState) (e : TaskEvent) : Prop :=
  x.row.status ≠ .failure ∧ (taskStep cfg pricing x e).row.status = .failure

/-- A refund is due for the task that this step fails: in a pass, the visit ends the copy under the
guard of its status and no usage takes over; in a sweep, the task is no legacy task. -/
def RefundDue (x : TaskState) : TaskEvent → Prop
  | .poll k mode answer _ now => ∀ t ∈ x.polled[k]?,
      ∃ task taskResult, pollTask cfg now mode t answer = .finish task taskResult ∧
        ¬ UsageTakesOver pricing task taskResult
  | .sweep k _ _ => ∀ t ∈ x.swept[k]?, ¬ t.isLegacy
  | .load | .loadTimedOut _ => False

def TaskEvent.refund : TaskEvent → Option BillingReply
  | poll _ _ _ ans _ | sweep _ ans _ => some ans.refund
  | load | loadTimedOut _ => none

/-- The writes of a refund succeed: the funding source takes the quota of `t` back, and the updates
of the token and of the quota column run without error. -/
def RefundWrites (t : Task) (x : TaskState) (e : TaskEvent) : Prop :=
  ∀ ans ∈ e.refund,
    (taskAdjustFunding ans.funding t x.accounts.ledger (-t.quota)).1 = true ∧
      ans.token = true ∧ ans.updateQuota = true

def ReturnsCharge (t : Task) (x : TaskState) (e : TaskEvent) : Prop :=
  ∃ ans ∈ e.refund,
    Returned t t.quota ans.tokenFound x.accounts (taskStep cfg pricing x e).accounts ∧
      (taskStep cfg pricing x e).row.quota = 0

end

/-! ### What a step can do -/

inductive VisitMove (pricing : TaskPricing) (ans : PollReply) (b : TaskBilling) :
    PollVerdict → TaskBilling → Prop
  /-- Nothing is written, or another pass was faster. -/
  | unmoved {v : PollVerdict} {task : Task}
      (hcopy : task.status.isDone = true ∨ SameCharge b.task task) :
      VisitMove pricing ans b v ⟨task, b.row, b.accounts⟩
  | saved {v : PollVerdict} {task : Task} (hstatus : b.row.status = b.task.status)
      (hopen : task.status.isDone = false) (hcharge : SameCharge b.task task) :
      VisitMove pricing ans b v ⟨task, task, b.accounts⟩
  | ended {task : Task} {taskResult : TaskInfo} (hstatus : b.row.status = b.task.status)
      (hdone : task.status.isDone = true) (hcharge : SameCharge b.task task) :
      VisitMove pricing ans b (.finish task taskResult)
        (finishTaskBilling pricing ans.settle ans.refund ⟨task, task, b.accounts⟩ taskResult)
  | bulk (failReason : Option String) :
      VisitMove pricing ans b (.bulk failReason)
        { b with row := b.row.bulkFail ans.bulk failReason }

inductive SweepMove (cfg : PollSettings) (ans : PollReply) (now : Int) (b : TaskBilling) :
    TaskBilling → Prop
  | unmoved {task : Task} : SweepMove cfg ans now b ⟨task, b.row, b.accounts⟩
  | refunded {failed : Task} (hfailed : failed = timedOutTask cfg now b.task)
      (hstatus : b.row.status = b.task.status) :
      SweepMove cfg ans now b (refundTaskQuota ans.refund ⟨failed, failed, b.accounts⟩).2
  /-- A legacy task, or one without a charge. -/
  | dropped {failed : Task} (hfailed : failed = timedOutTask cfg now b.task)
      (hstatus : b.row.status = b.task.status) (hfree : b.task.isLegacy ∨ failed.quota = 0) :
      SweepMove cfg ans now b ⟨failed, failed, b.accounts⟩

inductive TaskMove (cfg : PollSettings) (pricing : TaskPricing) (x : TaskState) :
    TaskEvent → TaskState → Prop
  | still {e : TaskEvent} : TaskMove cfg pricing x e x
  | loaded (hopen : x.row.status.isDone = false) :
      TaskMove cfg pricing x .load { x with polled := x.polled ++ [x.row] }
  | loadedTimedOut {now : Int} (hopen : x.row.status.isDone = false) :
      TaskMove cfg pricing x (.loadTimedOut now) { x with swept := x.swept ++ [x.row] }
  | visited {k : ℕ} {mode : FetchMode} {answer : PollAnswer} {ans : PollReply} {now : Int}
      {c : Task} {b : TaskBilling} (hc : x.polled[k]? = some c)
      (hvisit : VisitMove pricing ans ⟨c, x.row, x.accounts⟩ (pollTask cfg now mode c answer)
        b) :
      TaskMove cfg pricing x (.poll k mode answer ans now)
        ⟨b.row, b.accounts, keepUnfinished x.polled k b.task, x.swept⟩
  | swept {k : ℕ} {ans : PollReply} {now : Int} {c : Task} {b : TaskBilling}
      (hc : x.swept[k]? = some c) (hsweep : SweepMove cfg ans now ⟨c, x.row, x.accounts⟩ b) :
      TaskMove cfg pricing x (.sweep k ans now)
        ⟨b.row, b.accounts, x.polled, x.swept.eraseIdx k⟩

theorem PollVerdict.Sound.move {v : PollVerdict} {b : TaskBilling} (hv : v.Sound b.task)
    (pricing : TaskPricing) (ans : PollReply) :
    VisitMove pricing ans b v (v.run pricing ans b) := by
  cases v with
  | keep task => exact .unmoved (.inr hv.2)
  | save task =>
    simp only [PollVerdict.run]
    rcases updateWithStatus_cases task ans.update b.row b.task.status with
      heq | heq | ⟨hstatus, heq⟩ <;> rw [heq]
    · exact .unmoved (.inr hv.2)
    · exact .unmoved (.inr hv.2)
    · exact .saved hstatus hv.1 hv.2
  | finish task taskResult =>
    simp only [PollVerdict.run]
    rcases updateWithStatus_cases task ans.update b.row b.task.status with
      heq | heq | ⟨hstatus, heq⟩ <;> rw [heq]
    · exact .unmoved (.inl hv.1)
    · exact .unmoved (.inl hv.1)
    · exact .ended hstatus hv.1 hv.2
  | finishAgain task taskResult => exact hv.elim
  | bulk failReason => exact .bulk failReason

theorem sweepTask_move (cfg : PollSettings) (ans : PollReply) (now : Int) (b : TaskBilling) :
    SweepMove cfg ans now b (sweepTask cfg ans now b) := by
  simp only [sweepTask]
  rcases updateWithStatus_cases (timedOutTask cfg now b.task) ans.update b.row b.task.status
    with heq | heq | ⟨hstatus, heq⟩ <;> rw [heq]
  · exact .unmoved
  · exact .unmoved
  simp only
  split_ifs with hdue
  · exact .refunded rfl hstatus
  · rw [not_and_or, not_not, not_not] at hdue
    exact .dropped rfl hstatus hdue

section

variable {cfg : PollSettings} {pricing : TaskPricing} {t : Task} {x : TaskState}

/-- **Inversion** of a step. -/
theorem ChargeKept.move (h : ChargeKept t x) (e : TaskEvent) :
    TaskMove cfg pricing x e (taskStep cfg pricing x e) := by
  cases e with
  | load =>
    simp only [taskStep]
    split_ifs with hunfinished
    · exact .loaded hunfinished.2
    · exact .still
  | loadTimedOut now =>
    simp only [taskStep]
    split_ifs with htimedOut
    · exact .loadedTimedOut htimedOut.2.1.2
    · exact .still
  | poll k mode answer ans now =>
    simp only [taskStep]
    rcases hk : x.polled[k]? with - | c
    · exact .still
    obtain ⟨hopen, -⟩ := h.polled c (mem_of_getElem? hk)
    have hsound : (pollTask cfg now mode c answer).Sound c :=
      pollTask_sound mode hopen answer
    exact .visited hk (PollVerdict.Sound.move (b := ⟨c, x.row, x.accounts⟩) hsound pricing ans)
  | sweep k ans now =>
    simp only [taskStep]
    cases hk : x.swept[k]? with
    | none => exact .still
    | some c => exact .swept hk (sweepTask_move cfg ans now _)

theorem bulkFail_cases (row : Task) (ok : Bool) (failReason : Option String) :
    row.bulkFail ok failReason = row ∨ (row.bulkFail ok failReason).status = .failure := by
  unfold Task.bulkFail
  split_ifs
  · exact .inr rfl
  · exact .inl rfl

theorem mem_keepUnfinished {copies : List Task} {k : ℕ} {task c : Task}
    (hc : c ∈ keepUnfinished copies k task) :
    c ∈ copies ∨ c = task ∧ task.status.isDone = false := by
  unfold keepUnfinished at hc
  split_ifs at hc with hdone
  · exact .inl (mem_of_mem_eraseIdx hc)
  · rcases mem_or_eq_of_mem_set hc with hmem | heq
    · exact .inl hmem
    · exact .inr ⟨heq, Bool.not_eq_true _ ▸ hdone⟩

section

variable {ans : PollReply} {b b' : TaskBilling} {v : PollVerdict}
  (hmove : VisitMove pricing ans b v b') (hcharge : SameCharge t b.task)
include hmove hcharge

theorem VisitMove.row_charge (hrow : b.row.status.isDone = false → SameCharge t b.row)
    (hopen : b'.row.status.isDone = false) : SameCharge t b'.row := by
  cases hmove with
  | unmoved => exact hrow hopen
  | saved _ _ hcharge' => exact hcharge.trans hcharge'
  | @ended task taskResult _ hdone =>
    rw [(finishTaskBilling_sameStatus _ _ _).row, hdone] at hopen
    cases hopen
  | bulk failReason =>
    rcases bulkFail_cases b.row ans.bulk failReason with hsame | hfailed
    · rw [hsame] at hopen ⊢
      exact hrow hopen
    · rw [hfailed] at hopen
      cases hopen

theorem VisitMove.copy_charge (hopen : b'.task.status.isDone = false) : SameCharge t b'.task := by
  cases hmove with
  | unmoved hcopy =>
    rcases hcopy with hdone | hcharge'
    · rw [hdone] at hopen
      cases hopen
    · exact hcharge.trans hcharge'
  | saved _ _ hcharge' => exact hcharge.trans hcharge'
  | @ended task taskResult _ hdone =>
    rw [(finishTaskBilling_sameStatus _ _ _).task, hdone] at hopen
    cases hopen
  | bulk => exact hcharge

end

theorem SweepMove.row_cases {ans : PollReply} {now : Int} {b b' : TaskBilling}
    (hmove : SweepMove cfg ans now b b') : b'.row = b.row ∨ b'.row.status = .failure := by
  cases hmove with
  | unmoved => exact .inl rfl
  | refunded hfailed =>
    subst hfailed
    exact .inr refundTaskQuota_sameStatus.row
  | dropped hfailed =>
    subst hfailed
    exact .inr rfl

theorem ChargeKept.mem_append (h : ChargeKept t x) (hopen : x.row.status.isDone = false)
    {copies : List Task} (hcopies : ∀ c ∈ copies, c.status.isDone = false ∧ SameCharge t c) :
    ∀ c ∈ copies ++ [x.row], c.status.isDone = false ∧ SameCharge t c := by
  intro c hc
  rcases List.mem_append.mp hc with hc | hc
  · exact hcopies c hc
  · obtain rfl := mem_singleton.mp hc
    exact ⟨hopen, h.row hopen⟩

/-- **One step** keeps the charge with the task. -/
theorem ChargeKept.step (h : ChargeKept t x) (e : TaskEvent) :
    ChargeKept t (taskStep cfg pricing x e) := by
  have hmove : TaskMove cfg pricing x e (taskStep cfg pricing x e) := h.move e
  generalize taskStep cfg pricing x e = x' at hmove ⊢
  cases hmove with
  | still => exact h
  | loaded hopen => exact ⟨h.row, h.mem_append hopen h.polled, h.swept⟩
  | loadedTimedOut hopen => exact ⟨h.row, h.polled, h.mem_append hopen h.swept⟩
  | visited hc hvisit =>
    obtain ⟨-, hcharge⟩ := h.polled _ (mem_of_getElem? hc)
    refine ⟨hvisit.row_charge hcharge h.row, fun c' hc' => ?_, h.swept⟩
    rcases mem_keepUnfinished hc' with hmem | ⟨rfl, hopen'⟩
    · exact h.polled c' hmem
    · exact ⟨hopen', hvisit.copy_charge hcharge hopen'⟩
  | swept hc hsweep =>
    refine ⟨fun hopen => ?_, h.polled, fun c' hc' => h.swept c' (mem_of_mem_eraseIdx hc')⟩
    rcases hsweep.row_cases with hrow | hfailed
    · simp only [hrow] at hopen ⊢
      exact h.row hopen
    · simp only [hfailed] at hopen
      cases hopen

theorem SameCharge.refunded {task row : Task} {a : TaskAccounts} {ans : BillingReply}
    (hcharge : SameCharge t task) (hquota : 0 < t.quota)
    (hfunding : (Service.taskAdjustFunding ans.funding t a.ledger (-t.quota)).1 = true)
    (htoken : ans.token = true) (hupdate : ans.updateQuota = true) :
    Returned t t.quota ans.tokenFound a (refundTaskQuota ans ⟨task, row, a⟩).2.accounts ∧
      (refundTaskQuota ans ⟨task, row, a⟩).2.row.quota = 0 := by
  have hquota' : 0 < task.quota := by rw [hcharge.quota]; exact hquota
  rw [← hcharge.quota, ← hcharge.taskAdjustFunding] at hfunding
  obtain ⟨-, hrow, hreturned⟩ :=
    refundTaskQuota_returned (b := ⟨task, row, a⟩) hquota' hfunding htoken hupdate
  refine ⟨hcharge.returned ?_, by rw [hrow]⟩
  rw [← hcharge.quota]
  exact hreturned

/-- **One step** that fails the task returns its charge, if a refund is due. -/
theorem ChargeKept.returns (h : ChargeKept t x) (hquota : 0 < t.quota) {e : TaskEvent}
    (hfails : FailsAt cfg pricing x e) (hdue : RefundDue cfg pricing x e)
    (hwrites : RefundWrites t x e) : ReturnsCharge cfg pricing t x e := by
  have hmove : TaskMove cfg pricing x e (taskStep cfg pricing x e) := h.move e
  obtain ⟨hbefore, hafter⟩ := hfails
  unfold ReturnsCharge
  generalize taskStep cfg pricing x e = x' at hmove hafter ⊢
  cases hmove with
  | still => exact absurd hafter hbefore
  | @visited k mode answer ans now c b hc hvisit =>
    obtain ⟨hfunding, htoken, hupdate⟩ := hwrites ans.refund rfl
    refine ⟨ans.refund, rfl, ?_⟩
    obtain ⟨-, hcharge⟩ := h.polled c (mem_of_getElem? hc)
    obtain ⟨task, taskResult, hverdict, husage⟩ := hdue c hc
    rw [hverdict] at hvisit
    cases hvisit with
    | unmoved => exact absurd hafter hbefore
    | saved _ hopen' =>
      rw [hafter] at hopen'
      cases hopen'
    | ended _ hdone hcharge' =>
      have hfailed : task.status = .failure :=
        (finishTaskBilling_sameStatus ans.settle ans.refund taskResult).row.symm.trans hafter
      have hcharged : SameCharge t task := hcharge.trans hcharge'
      rw [finishTaskBilling_failure hfailed (by rw [hcharged.quota]; exact hquota) husage]
      exact hcharged.refunded hquota hfunding htoken hupdate
  | @swept k ans now c b hc hsweep =>
    obtain ⟨hfunding, htoken, hupdate⟩ := hwrites ans.refund rfl
    refine ⟨ans.refund, rfl, ?_⟩
    obtain ⟨-, hcharge⟩ := h.swept c (mem_of_getElem? hc)
    have hlegacy : ¬ c.isLegacy := hdue c hc
    have hcharged : SameCharge t (timedOutTask cfg now c) :=
      hcharge.trans ⟨if_neg hlegacy, rfl, rfl, rfl⟩
    cases hsweep with
    | unmoved => exact absurd hafter hbefore
    | refunded hfailed =>
      subst hfailed
      exact hcharged.refunded hquota hfunding htoken hupdate
    | dropped hfailed _ hfree =>
      subst hfailed
      have hpos : (timedOutTask cfg now c).quota ≠ 0 := by rw [hcharged.quota]; omega
      exact absurd hfree (not_or.mpr ⟨hlegacy, hpos⟩)
  | _ => exact hdue.elim

theorem ChargeKept.quota_of_failed (h : ChargeKept t x) (hfailed : x.row.status = .failure)
    (e : TaskEvent) : (taskStep cfg pricing x e).row.quota = x.row.quota := by
  -- the guard of an open copy does not match the row
  have hguard : ∀ c : Task, c.status.isDone = false → x.row.status ≠ c.status := by
    intro c hopen heq
    rw [← heq, hfailed] at hopen
    cases hopen
  have hmove : TaskMove cfg pricing x e (taskStep cfg pricing x e) := h.move e
  generalize taskStep cfg pricing x e = x' at hmove ⊢
  cases hmove with
  | @visited k mode answer ans now c b hc hvisit =>
    obtain ⟨hopen, -⟩ := h.polled c (mem_of_getElem? hc)
    generalize pollTask cfg now mode c answer = v at hvisit
    cases hvisit with
    | unmoved => rfl
    | saved hstatus | ended hstatus => exact absurd hstatus (hguard c hopen)
    | bulk failReason =>
      simp only [Task.bulkFail]
      split_ifs <;> rfl
  | @swept k ans now c b hc hsweep =>
    obtain ⟨hopen, -⟩ := h.swept c (mem_of_getElem? hc)
    cases hsweep with
    | unmoved => rfl
    | refunded _ hstatus | dropped _ hstatus => exact absurd hstatus (hguard c hopen)
  | _ => rfl

end

/-! ### Runs -/

/-- **Failed tasks are refunded.** Start with an open task that is charged and that no pass has
loaded, and take any run of passes and sweeps, on any number of nodes, with any answers of the
upstream. Every step that moves the task to `FAILURE`, and for which a refund is due and its writes
succeed, returns the charge to the funding source and the token and clears it. If this is so for
all steps that move the task to `FAILURE`, then a task that ends in `FAILURE` has no charge left. -/
theorem failed_task_refunded (cfg : PollSettings) (pricing : TaskPricing) {x : TaskState}
    (hopen : x.row.status.isDone = false) (hquota : 0 < x.row.quota) (hpolled : x.polled = [])
    (hswept : x.swept = []) (events : List TaskEvent) :
    Along (taskStep cfg pricing)
        (fun y e => FailsAt cfg pricing y e → RefundDue cfg pricing y e →
          RefundWrites x.row y e → ReturnsCharge cfg pricing x.row y e) x events ∧
      (Along (taskStep cfg pricing) (fun y e => FailsAt cfg pricing y e →
            RefundDue cfg pricing y e ∧ RefundWrites x.row y e) x events →
        (run (taskStep cfg pricing) x events).row.status = .failure →
          (run (taskStep cfg pricing) x events).row.quota = 0) := by
  have hstart : ChargeKept x.row x := by
    refine ⟨fun _ => .refl x.row, fun c hc => ?_, fun c hc => ?_⟩
    · rw [hpolled] at hc
      cases hc
    · rw [hswept] at hc
      cases hc
  have hkept : ∀ (y : TaskState) (e : TaskEvent), ChargeKept x.row y → True →
      ChargeKept x.row (taskStep cfg pricing y e) := fun _ e h _ => h.step e
  refine ⟨along_of_invariant hkept (fun y e h _ => h.returns hquota) hstart
    (along_of_forall (fun _ _ => trivial) x events), fun hsteps => ?_⟩
  -- beside the charges: a row that has failed has none left
  have hinv : ∀ (y : TaskState) (e : TaskEvent),
      ChargeKept x.row y ∧ (y.row.status = .failure → y.row.quota = 0) →
      (FailsAt cfg pricing y e → RefundDue cfg pricing y e ∧ RefundWrites x.row y e) →
      ChargeKept x.row (taskStep cfg pricing y e) ∧
        ((taskStep cfg pricing y e).row.status = .failure →
          (taskStep cfg pricing y e).row.quota = 0) := by
    rintro y e ⟨hcharge, hclear⟩ hstep
    refine ⟨hcharge.step e, fun hafter => ?_⟩
    by_cases hbefore : y.row.status = .failure
    · rw [hcharge.quota_of_failed hbefore]
      exact hclear hbefore
    · obtain ⟨hdue, hwrites⟩ := hstep ⟨hbefore, hafter⟩
      obtain ⟨-, -, -, hzero⟩ := hcharge.returns hquota ⟨hbefore, hafter⟩ hdue hwrites
      exact hzero
  refine (run_induction hinv ⟨hstart, fun hfailed => ?_⟩ hsteps).2
  rw [hfailed] at hopen
  cases hopen

/-- An open task, submitted at `submitTime` and charged `100` from the wallet and a token. -/
def chargedTask (submitTime : Int) : TaskState where
  row :=
    { taskId := "task_1", channelId := 3, quota := 100, status := .inProgress, failReason := "",
      submitTime := submitTime, startTime := submitTime, finishTime := 0, progress := "30%",
      data := "", upstreamTaskId := "cgt-1", resultUrl := "", billingSource := .wallet,
      subscriptionId := 0, tokenId := 5, billingContext := none, pluginState := "",
      pollFailures := 0 }
  accounts := ⟨⟨900, 400, ⟨⟨[], .nil⟩, ⟨[], .nil⟩⟩⟩, 100, 100⟩
  polled := []
  swept := []

def dayTimeout : PollSettings := ⟨1440, 3, "https://localhost"⟩

def adaptorPricing (quota : Int) : TaskPricing :=
  ⟨fun _ taskResult => (quota, taskResult), fun _ _ => none, fun _ _ => none⟩

def PollReply.allOk : PollReply :=
  ⟨⟨true, true⟩, true, ⟨true, true, true, true⟩, ⟨true, true, true, true⟩⟩

def notFoundPass : List TaskEvent :=
  [.load, .poll 0 .single (.response 404 none none) .allOk 1771800000]

theorem failed_task_refunded_notFoundPass :
    (run (taskStep dayTimeout (adaptorPricing 0)) (chargedTask 1771790000)
        notFoundPass).row.status = .failure ∧
      (run (taskStep dayTimeout (adaptorPricing 0)) (chargedTask 1771790000)
        notFoundPass).row.quota = 0 := by
  have hfailed : (run (taskStep dayTimeout (adaptorPricing 0)) (chargedTask 1771790000)
      notFoundPass).row.status = .failure := by decide +kernel
  refine ⟨hfailed, (failed_task_refunded dayTimeout (adaptorPricing 0) (by decide) (by decide) rfl
    rfl notFoundPass).2 ⟨fun hfails => ?_, fun _ => ⟨?_, ?_⟩, trivial⟩ hfailed⟩
  · exact absurd hfails.2 (by decide +kernel)
  · intro t ht
    obtain rfl := Option.some.inj ht
    refine ⟨_, _, rfl, fun husage => ?_⟩
    exact absurd husage.2 (by unfold UsageKnown; decide +kernel)
  · intro ans hreply
    obtain rfl := Option.some.inj hreply
    decide +kernel

def failedPass : List TaskEvent :=
  [.load, .poll 0 .single (.response 200 none (some
    { info := failTaskInfo "content policy", submitTime := 0, startTime := 0, finishTime := 0,
      data := some "", excerpt := "", newApiData := none })) .allOk 1771800000]

/-- Two tasks that move to `FAILURE` and keep a charge: a legacy task that times out, and a task
whose adaptor asks for `60` of the `100` when the upstream reports a failure. -/
theorem failure_keeps_charge :
    (let x := run (taskStep dayTimeout (adaptorPricing 0)) (chargedTask 1771700000)
      [.loadTimedOut 1771800000, .sweep 0 .allOk 1771800000]
    x.row.status = .failure ∧ x.accounts = (chargedTask 1771700000).accounts) ∧
    (let x := run (taskStep dayTimeout (adaptorPricing 60)) (chargedTask 1771790000) failedPass
    x.row.status = .failure ∧ x.row.quota = 60 ∧ x.accounts.ledger.wallet = 940) := by
  decide +kernel

end NewApi.Service
