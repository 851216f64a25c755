import NewApi.Common.QuotaMath
import NewApi.Model.Task
import NewApi.Service.FundingSource

/-!
# Billing of asynchronous tasks

A task is charged when it is submitted; its `Quota` column is what is charged. When it ends, the
poller settles it by its usage, or, if it failed and no usage takes over, gives the whole charge
back: `service/task_billing.go` with `settleTaskBillingOnComplete` of `service/task_polling.go`.

The functions work on the copy of the task that the poller has loaded, on the stored row and on the
balances. What the task plugin, the ratio settings and the billing expressions compute is a
parameter, `TaskPricing`. The logs are left out.
-/

namespace NewApi.Service

open Common Model

structure TaskInfo where
  status : TaskStatus
  reason : String
  url : String
  progress : String
  completionTokens : Int
  totalTokens : Int
  pluginState : String
  deriving DecidableEq, Repr

def failTaskInfo (reason : String) : TaskInfo :=
  { status := .failure, reason := reason, url := "", progress := "", completionTokens := 0,
    totalTokens := 0, pluginState := "" }

/-- What is computed outside the poller:
* `adjustBillingOnComplete`: the adaptor's decision, which may also fill in the token counts;
* `tokenQuota`: the quota of a number of tokens, `none` if the model has no ratio or the group is
  not known;
* `tieredQuota`: the billing expression, `none` if it cannot be evaluated. -/
structure TaskPricing where
  adjustBillingOnComplete : Task → TaskInfo → Int × TaskInfo
  tokenQuota : Task → Int → Option Int
  tieredQuota : Task → TaskInfo → Option Int

/-- Which writes of a settlement or refund succeed, and whether the token can be found. -/
structure BillingReply where
  funding : Bool
  tokenFound : Bool
  token : Bool
  updateQuota : Bool

/-- The balances behind a task, with the used quota of the user and of the channel. -/
structure TaskAccounts where
  ledger : Ledger
  userUsedQuota : Int
  channelUsedQuota : Int
  deriving DecidableEq

structure TaskBilling where
  task : Task
  row : Task
  accounts : TaskAccounts

/-! ### Adjustments -/

def taskIsSubscription (task : Task) : Prop :=
  task.billingSource = .subscription ∧ 0 < task.subscriptionId
  deriving Decidable

/-- `taskAdjustFunding`; the Boolean tells whether the error is `nil`. -/
def taskAdjustFunding (ok : Bool) (task : Task) (l : Ledger) (delta : Int) : Bool × Ledger :=
  if taskIsSubscription task then
    match SubscriptionFunding.adjust l task.subscriptionId delta ok with
    | (l', none) => (true, l')
    | (_, some _) => (false, l)
  else if 0 < delta then
    if ok then (true, { l with wallet := l.wallet - delta }) else (false, l)
  else if validateWalletQuota (-delta) = true ∧ ok = true then
    (true, { l with wallet := l.wallet + -delta })
  else (false, l)

/-- `taskAdjustTokenQuota`: an error is only logged. -/
def taskAdjustTokenQuota (ans : BillingReply) (task : Task) (l : Ledger) (delta : Int) : Ledger :=
  if task.tokenId ≤ 0 ∨ delta = 0 then l
  else if ans.tokenFound = false then l
  else if 0 < delta then (decreaseTokenQuota l delta ans.token).1
  else (increaseTokenQuota l (-delta) ans.token).1

/-- `UpdateQuota` of the copy. -/
def TaskBilling.updateQuota (ok : Bool) (b : TaskBilling) : TaskBilling :=
  if ok then { b with row := { b.row with quota := b.task.quota } } else b

/-! ### Refunds and settlements -/

/-- `RefundTaskQuota`; the result tells whether the funding source got its quota back. -/
def refundTaskQuota (ans : BillingReply) (b : TaskBilling) : Bool × TaskBilling :=
  if b.task.quota = 0 then (true, b)
  else
    match taskAdjustFunding ans.funding b.task b.accounts.ledger (-b.task.quota) with
    | (false, _) => (false, b)
    | (true, l) =>
      (true, TaskBilling.updateQuota ans.updateQuota
        { b with
          task := { b.task with quota := 0 }
          accounts :=
            { ledger := taskAdjustTokenQuota ans b.task l (-b.task.quota)
              userUsedQuota := b.accounts.userUsedQuota - b.task.quota
              channelUsedQuota := b.accounts.channelUsedQuota - b.task.quota } })

def recalculateTaskQuota (ans : BillingReply) (b : TaskBilling) (actualQuota : Int) :
    TaskBilling :=
  if actualQuota < 0 then b
  else
    let quotaDelta := actualQuota - b.task.quota
    if quotaDelta = 0 then b
    else
      match taskAdjustFunding ans.funding b.task b.accounts.ledger quotaDelta with
      | (false, _) => b
      | (true, l) =>
        TaskBilling.updateQuota ans.updateQuota
          { b with
            task := { b.task with quota := actualQuota }
            accounts :=
              { ledger := taskAdjustTokenQuota ans b.task l quotaDelta
                userUsedQuota := b.accounts.userUsedQuota + quotaDelta
                channelUsedQuota := b.accounts.channelUsedQuota + quotaDelta } }

def recalculateTaskQuotaByTokens (pricing : TaskPricing) (ans : BillingReply) (b : TaskBilling)
    (totalTokens : Int) : Bool × TaskBilling :=
  if totalTokens ≤ 0 then (false, b)
  else
    match pricing.tokenQuota b.task totalTokens with
    | none => (false, b)
    | some actualQuota => (true, recalculateTaskQuota ans b actualQuota)

/-- The tokens that a settlement counts. -/
def TaskInfo.settledTokens (info : TaskInfo) : Int :=
  if info.totalTokens = 0 ∧ 0 < info.completionTokens then info.completionTokens
  else info.totalTokens

/-- The settlement without a billing expression: the adaptor first, then the tokens. -/
def settleByUsage (pricing : TaskPricing) (ans : BillingReply) (b : TaskBilling)
    (taskResult : TaskInfo) : Bool × TaskBilling :=
  let adjusted := pricing.adjustBillingOnComplete b.task taskResult
  if 0 < adjusted.1 then (true, recalculateTaskQuota ans b adjusted.1)
  else
    let tokens := adjusted.2.settledTokens
    if 0 < tokens then recalculateTaskQuotaByTokens pricing ans b tokens else (false, b)

/-- `settleTaskBillingOnComplete`; the result tells whether the settlement has taken over. -/
def settleTaskBillingOnComplete (pricing : TaskPricing) (ans : BillingReply) (b : TaskBilling)
    (taskResult : TaskInfo) : Bool × TaskBilling :=
  match b.task.billingContext with
  | none => settleByUsage pricing ans b taskResult
  | some bc =>
    if bc.hasTieredSnapshot then
      if b.task.status = .failure then (false, b)
      else
        match pricing.tieredQuota b.task taskResult with
        | none => (true, b)
        | some actualQuota => (true, recalculateTaskQuota ans b actualQuota)
    else if bc.perCallBilling then (false, b)
    else settleByUsage pricing ans b taskResult

/-- The billing of a task that has ended: settle it, and refund it if it failed and the settlement
has not taken over. The replies are those to the settlement and to the refund. -/
def finishTaskBilling (pricing : TaskPricing) (settle refund : BillingReply) (b : TaskBilling)
    (taskResult : TaskInfo) : TaskBilling :=
  match settleTaskBillingOnComplete pricing settle b taskResult with
  | (billingSettled, b') =>
    if b'.task.status = .failure ∧ billingSettled = false ∧ b'.task.quota ≠ 0 then
      (refundTaskQuota refund b').2
    else b'

/-! ### What a refund does -/

/-- The charge `quota` of a task has been given back: to the wallet or to the subscription that paid
for it, whose usage stops at `0`, and to the token if there is one. -/
structure Returned (task : Task) (quota : Int) (tokenFound : Bool) (a a' : TaskAccounts) :
    Prop where
  wallet : ¬ taskIsSubscription task → a'.ledger.wallet = a.ledger.wallet + quota ∧
    a'.ledger.subscription = a.ledger.subscription
  subscription : taskIsSubscription task → a'.ledger.wallet = a.ledger.wallet ∧
    ∃ sub, a.ledger.subscription.subs.find task.subscriptionId = some sub ∧
      a'.ledger.subscription.subs.find task.subscriptionId =
        some { sub with amountUsed := max (sub.amountUsed - quota) 0 }
  token : a'.ledger.token =
    a.ledger.token + if 0 < task.tokenId ∧ tokenFound = true then quota else 0
  userUsedQuota : a'.userUsedQuota = a.userUsedQuota - quota
  channelUsedQuota : a'.channelUsedQuota = a.channelUsedQuota - quota

section

variable {task : Task} {l l' : Ledger} {quota : Int} {ok : Bool} {ans : BillingReply}
  {b : TaskBilling}

theorem taskAdjustFunding_refund (hquota : 0 < quota)
    (h : taskAdjustFunding ok task l (-quota) = (true, l')) :
    l'.token = l.token ∧ (¬ taskIsSubscription task →
        l'.wallet = l.wallet + quota ∧ l'.subscription = l.subscription) ∧
      (taskIsSubscription task → l'.wallet = l.wallet ∧
        ∃ sub, l.subscription.subs.find task.subscriptionId = some sub ∧
          l'.subscription.subs.find task.subscriptionId =
            some { sub with amountUsed := max (sub.amountUsed - quota) 0 }) := by
  unfold taskAdjustFunding at h
  by_cases hsub : taskIsSubscription task
  · rw [if_pos hsub] at h
    unfold SubscriptionFunding.adjust at h
    cases hpost : postConsumeUserSubscriptionDelta l.subscription.subs task.subscriptionId (-quota)
        ok with
    | error e => simp [hpost] at h
    | ok subs =>
      simp only [hpost, Prod.mk.injEq, true_and] at h
      subst h
      obtain ⟨-, ⟨hzero, -⟩ | ⟨sub, hfind, -, rfl⟩⟩ := postConsume_ok hpost
      · omega
      refine ⟨rfl, fun hnot => absurd hsub hnot, fun _ => ⟨rfl, sub, hfind, ?_⟩⟩
      obtain ⟨-, hid⟩ := Table.mem_of_find hfind
      have hkey := Table.mem_keys_of_find hfind
      rw [← hid] at hkey ⊢
      exact Table.find_save hkey
  · rw [if_neg hsub, if_neg (by omega)] at h
    split_ifs at h
    · cases h
      refine ⟨rfl, fun _ => ⟨?_, rfl⟩, fun hnot => absurd hnot hsub⟩
      simp
    · cases h

theorem taskAdjustTokenQuota_refund (hquota : 0 < quota) (htoken : ans.token = true) :
    taskAdjustTokenQuota ans task l (-quota) = { l with
        token := l.token + if 0 < task.tokenId ∧ ans.tokenFound = true then quota else 0 } := by
  unfold taskAdjustTokenQuota
  by_cases hid : 0 < task.tokenId
  · rw [if_neg (by omega)]
    cases hfound : ans.tokenFound with
    | false => simp
    | true =>
      have hneg : ¬ quota < 0 := by omega
      simp [increaseTokenQuota, htoken, hid, hneg]
  · rw [if_pos (by omega)]
    simp [hid]

/-- **A refund** whose writes succeed gives the charge back and clears it, in the copy and in the
row. -/
theorem refundTaskQuota_returned (hquota : 0 < b.task.quota)
    (hfunding : (taskAdjustFunding ans.funding b.task b.accounts.ledger (-b.task.quota)).1 = true)
    (htoken : ans.token = true) (hupdate : ans.updateQuota = true) :
    (refundTaskQuota ans b).2.task = { b.task with quota := 0 } ∧
      (refundTaskQuota ans b).2.row = { b.row with quota := 0 } ∧
      Returned b.task b.task.quota ans.tokenFound b.accounts
        (refundTaskQuota ans b).2.accounts := by
  unfold refundTaskQuota
  rw [if_neg (by omega)]
  generalize hadjust : taskAdjustFunding ans.funding b.task b.accounts.ledger (-b.task.quota) = r
    at hfunding
  obtain ⟨ok, l⟩ := r
  obtain rfl : ok = true := hfunding
  obtain ⟨hl, hwallet, hsub⟩ := taskAdjustFunding_refund hquota hadjust
  simp only [TaskBilling.updateQuota, hupdate, if_true, taskAdjustTokenQuota_refund hquota htoken]
  exact ⟨trivial, trivial, hwallet, hsub, by rw [hl], rfl, rfl⟩

end

/-! ### What the end of a task does -/

def UsageKnown (pricing : TaskPricing) (task : Task) (taskResult : TaskInfo) : Prop :=
  0 < (pricing.adjustBillingOnComplete task taskResult).1 ∨
    0 < (pricing.adjustBillingOnComplete task taskResult).2.settledTokens ∧
      (pricing.tokenQuota task
        (pricing.adjustBillingOnComplete task taskResult).2.settledTokens).isSome = true

/-- A failed task is settled by its usage: its usage is known, and it is billed neither by a billing
expression nor per call. -/
def UsageTakesOver (pricing : TaskPricing) (task : Task) (taskResult : TaskInfo) : Prop :=
  (∀ bc ∈ task.billingContext, bc.hasTieredSnapshot = false ∧ bc.perCallBilling = false) ∧
    UsageKnown pricing task taskResult

variable {pricing : TaskPricing} {settle refund : BillingReply} {b : TaskBilling}
  {taskResult : TaskInfo}

theorem settleByUsage_of_not_known (h : ¬ UsageKnown pricing b.task taskResult) :
    settleByUsage pricing settle b taskResult = (false, b) := by
  unfold UsageKnown at h
  rw [not_or, not_and] at h
  obtain ⟨hadaptor, htokens⟩ := h
  unfold settleByUsage
  simp only [if_neg hadaptor]
  split_ifs with hpos
  · have hnone := Option.not_isSome_iff_eq_none.mp (htokens hpos)
    rw [recalculateTaskQuotaByTokens, if_neg (by omega), hnone]
  · rfl

theorem settleTaskBilling_of_not_takesOver (hstatus : b.task.status = .failure)
    (h : ¬ UsageTakesOver pricing b.task taskResult) :
    settleTaskBillingOnComplete pricing settle b taskResult = (false, b) := by
  unfold settleTaskBillingOnComplete
  rcases hcontext : b.task.billingContext with - | bc
  · refine settleByUsage_of_not_known fun hknown => h ⟨?_, hknown⟩
    rw [hcontext]
    exact nofun
  dsimp only
  split_ifs with htiered hperCall
  · rfl
  · rfl
  refine settleByUsage_of_not_known fun hknown => h ⟨?_, hknown⟩
  rw [hcontext]
  intro bc' hbc
  obtain rfl := Option.some.inj hbc
  exact ⟨Bool.not_eq_true _ ▸ htiered, Bool.not_eq_true _ ▸ hperCall⟩

theorem finishTaskBilling_failure (hstatus : b.task.status = .failure) (hquota : 0 < b.task.quota)
    (h : ¬ UsageTakesOver pricing b.task taskResult) :
    finishTaskBilling pricing settle refund b taskResult = (refundTaskQuota refund b).2 := by
  unfold finishTaskBilling
  rw [settleTaskBilling_of_not_takesOver hstatus h]
  exact if_pos ⟨hstatus, rfl, by omega⟩

end NewApi.Service
