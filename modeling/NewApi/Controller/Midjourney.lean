import NewApi.Common.QuotaMath
import NewApi.Foundation.Pool
import NewApi.Foundation.Run
import NewApi.Model.Midjourney

/-!
# Refunds of failed Midjourney tasks

Three programs write to a Midjourney task: the legacy poller `UpdateMidjourneyTaskBulk`, the poller
of the system tasks `runMidjourneyTaskUpdateOnce` (both `controller/midjourney.go`), and the notify
handler `RelayMidjourneyNotify` (`relay/mjproxy_handler.go`). Each works on a copy of the row that
it has loaded before. The pollers update the row under the guard of the status of their copy and
credit the charge of a failed task afterwards, in a step of its own; the notify handler saves all
columns and credits nothing, and so do the bulk updates.

The pollers rely on the status to leave what their copy has: the row of a failed task has the status
`FAILURE` and is complete, so no copy with that status is loaded, and the guard of every other copy
is lost. The invariant `Charged` says this together with the charge that the row and the copies
carry. It holds as long as the reports of the upstream call a task `FAILURE` exactly when the
pollers treat it as failed, and the notify handler neither saves over a failed task nor reports a
failure that is not complete.
-/

namespace NewApi.Controller

open Common Model StepSystem List

/-! ### Reports of the upstream -/

inductive MjPoller
  | legacy
  | systemTask
  deriving DecidableEq, Repr

inductive MjAnswer
  | channelMissing
  /-- The request fails, or the answer does not list the task. -/
  | unanswered
  | item (item : MidjourneyDto)
  deriving DecidableEq, Repr

/-- A report on a task that was submitted more than an hour ago is a failure. -/
def timedOutItem (now : Int) (task : Midjourney) (item : MidjourneyDto) : MidjourneyDto :=
  if 3600000 < now - task.submitTime ∧ task.progress ≠ mjComplete then
    { item with failReason := "上游任务超时（超过1小时）", status := .failure }
  else item

/-- A report that the pollers treat as a failure. -/
def MidjourneyDtoFails (item : MidjourneyDto) : Prop :=
  item.progress ≠ mjComplete ∧ item.failReason ≠ "" ∨
    item.progress = mjComplete ∧ item.status = .failure
  deriving Decidable

inductive MjVerdict
  | keep
  | bulk (failReason : Option String)
  | save (task : Midjourney) (shouldReturnQuota : Bool)

/-- The visit of a copy by a poller; the two pollers decide alike. -/
def pollMidjourney (now : Int) (task : Midjourney) (answer : MjAnswer) : MjVerdict :=
  if task.mjId = "" then .bulk none
  else
    match answer with
    | .channelMissing =>
      .bulk (some ("获取渠道信息失败，请联系管理员，渠道ID：" ++ toString task.channelId))
    | .unanswered => .keep
    | .item item =>
      let item := timedOutItem now task item
      if checkMjTaskNeedUpdate task item then
        if MidjourneyDtoFails item then
          .save { task.applyItem item with progress := mjComplete } (decide (task.quota ≠ 0))
        else .save (task.applyItem item) false
      else .keep

/-! ### Credits -/

structure MjAccounts where
  userQuota : Int
  tokenQuota : Int
  userUsedQuota : Int
  channelUsedQuota : Int
  deriving DecidableEq, Repr

/-- The replies to the writes of a credit; `tokenFound` tells whether the token still exists. -/
structure CreditReply where
  user : Bool
  tokenFound : Bool
  token : Bool
  billingState : Bool

/-- `IncreaseUserQuota`; `none` is an error. -/
def increaseUserQuota (ok : Bool) (quota : Int) (a : MjAccounts) : Option MjAccounts :=
  if quota < 0 ∨ validateWalletQuota quota = false ∨ ok = false then none
  else some { a with userQuota := a.userQuota + quota }

/-- `RefundMidjourneyQuota`: the row, the balances and the copy after it. -/
def refundMidjourneyQuota (ans : CreditReply) (task row : Midjourney) (a : MjAccounts) :
    Midjourney × MjAccounts × Midjourney :=
  if task.quota = 0 then (row, a, task)
  else
    match increaseUserQuota ans.user task.quota a with
    | none => (row, a, task)
    | some a' =>
      let task' := { task with quota := 0 }
      (task'.updateBillingState ans.billingState row,
        { a' with
          tokenQuota := if 0 < task.tokenId ∧ ans.tokenFound = true ∧ ans.token = true then
            a'.tokenQuota + task.quota else a'.tokenQuota
          userUsedQuota := a'.userUsedQuota - task.quota
          channelUsedQuota := a'.channelUsedQuota - task.quota },
        task')

/-- The credit of a poller that has won the update of a failed task. The legacy poller credits the
user only, and leaves the charge in the row. -/
def creditFailure (poller : MjPoller) (ans : CreditReply) (task row : Midjourney)
    (a : MjAccounts) : Midjourney × MjAccounts × Midjourney :=
  match poller with
  | .legacy => (row, (increaseUserQuota ans.user task.quota a).getD a, task)
  | .systemTask => refundMidjourneyQuota ans task row a

/-! ### Workers -/

inductive MjWorker
  | polling (poller : MjPoller) (task : Midjourney)
  /-- A poller that credits next. -/
  | crediting (poller : MjPoller) (task : Midjourney)
  /-- A notify handler with its request. -/
  | notifying (task : Midjourney) (item : MidjourneyDto)
  | finished
  deriving DecidableEq, Repr

def MjWorker.owes : MjWorker → Bool
  | crediting _ _ => true
  | polling _ _ | notifying _ _ | finished => false

structure MjState where
  row : Midjourney
  accounts : MjAccounts
  workers : List MjWorker
  deriving DecidableEq

inductive MjEvent
  | load (poller : MjPoller)
  | poll (k : ℕ) (answer : MjAnswer) (ok countsMatched : Bool) (now : Int)
  | credit (k : ℕ) (ans : CreditReply)
  | notify (item : MidjourneyDto)
  | save (k : ℕ) (ok : Bool)

def MjVerdict.write (poller : MjPoller) (ok countsMatched : Bool) (copy row : Midjourney) :
    MjVerdict → Midjourney × MjWorker
  | keep => (row, .polling poller copy)
  | bulk failReason => (row.bulkFail ok failReason, .polling poller copy)
  | save task shouldReturnQuota =>
    match task.updateWithStatus ok countsMatched row copy.status with
    | (some true, row') =>
      (row', if shouldReturnQuota then .crediting poller task else .polling poller task)
    | (_, row') => (row', .polling poller task)

/-- One step of one of the programs. A step that its worker cannot take changes nothing. -/
def mjStep (x : MjState) : MjEvent → MjState
  | .load poller =>
    if x.row.unfinished then { x with workers := x.workers ++ [.polling poller x.row] } else x
  | .poll k answer ok countsMatched now =>
    match x.workers[k]? with
    | some (.polling poller copy) =>
      let r := (pollMidjourney now copy answer).write poller ok countsMatched copy x.row
      ⟨r.1, x.accounts, x.workers.set k r.2⟩
    | _ => x
  | .credit k ans =>
    match x.workers[k]? with
    | some (.crediting poller copy) =>
      let r := creditFailure poller ans copy x.row x.accounts
      ⟨r.1, r.2.1, x.workers.set k (.polling poller r.2.2)⟩
    | _ => x
  | .notify item =>
    if x.row.mjId = item.mjId then { x with workers := x.workers ++ [.notifying x.row item] } else x
  | .save k ok =>
    match x.workers[k]? with
    | some (.notifying copy item) =>
      ⟨if ok then copy.notified item else x.row, x.accounts, x.workers.set k .finished⟩
    | _ => x

def credits (x : MjState) : MjEvent → ℕ
  | .credit k ans =>
    match x.workers[k]? with
    | some (.crediting _ task) =>
      if task.quota ≠ 0 ∧ (increaseUserQuota ans.user task.quota x.accounts).isSome then 1 else 0
    | _ => 0
  | _ => 0

/-! ### Conditions -/

/-- The status guards this step: a poller visits no copy that has failed, and its report is called
`FAILURE` exactly if it is treated as a failure; the notify handler does not save over a task that
has failed, and reports no failure that is not complete. -/
def GuardedByStatus (x : MjState) : MjEvent → Prop
  | .poll k (.item item) _ _ now => ∀ poller copy, x.workers[k]? = some (.polling poller copy) →
      copy.status ≠ .failure ∧ (MidjourneyDtoFails (timedOutItem now copy item) ↔
        (timedOutItem now copy item).status = .failure)
  | .save k ok => ok = true → ∀ copy item, x.workers[k]? = some (.notifying copy item) →
      x.row.status ≠ .failure ∧ (item.status = .failure → item.progress = mjComplete)
  | _ => True

/-- The step leaves failures to the pollers: a bulk update and the notify handler fail no task, and
the credit of a poller is accepted. -/
def RefundsFailure (x : MjState) : MjEvent → Prop
  | .poll k answer ok _ _ => ok = true → ∀ poller copy,
      x.workers[k]? = some (.polling poller copy) → copy.mjId = "" ∨ answer = .channelMissing →
        x.row.status = .failure
  | .save k ok => ok = true → ∀ copy item, x.workers[k]? = some (.notifying copy item) →
      item.status ≠ .failure
  | .credit _ ans => ans.user = true
  | _ => True

/-! ### The charge of a task -/

def MjWorker.Carries (quota : Int) (row : Midjourney) : MjWorker → Prop
  | polling _ task => task.status ≠ .failure → task.quota = quota
  | crediting _ task => row.status = .failure ∧ task.status = .failure ∧ task.quota = quota
  | notifying task _ => row.status ≠ .failure → task.quota = quota
  | finished => True

/-- The charge over a run: a failed task is complete, a task that has not failed has its charge, and
so have the workers. -/
structure Charged (quota : Int) (x : MjState) : Prop where
  complete : x.row.status = .failure → x.row.progress = mjComplete
  row : x.row.status ≠ .failure → x.row.quota = quota
  workers : ∀ w ∈ x.workers, w.Carries quota x.row

/-- What a step can do to a charged task; `paying` is the condition under which failures are left to
the pollers. -/
inductive MjMove (quota : Int) (paying : Prop) (x : MjState) : MjState → Prop
  | still : MjMove quota paying x x
  | joined {w : MjWorker} (hw : w.Carries quota x.row) (howes : w.owes = false) :
      MjMove quota paying x { x with workers := x.workers ++ [w] }
  /-- The worker goes on without a write. -/
  | turned {k : ℕ} {w w' : MjWorker} (hk : x.workers[k]? = some w) (hw : w'.Carries quota x.row)
      (howes : w.owes = false) (howes' : w'.owes = false) :
      MjMove quota paying x { x with workers := x.workers.set k w' }
  /-- The worker writes to a task that has not failed. -/
  | stored {k : ℕ} {w w' : MjWorker} {row : Midjourney} (hk : x.workers[k]? = some w)
      (howes : w.owes = false) (hopen : x.row.status ≠ .failure) (hquota : row.quota = quota)
      (hcomplete : row.status = .failure → row.progress = mjComplete) (hw : w'.Carries quota row)
      (hpays : paying → quota ≠ 0 → row.status = .failure → w'.owes = true) :
      MjMove quota paying x ⟨row, x.accounts, x.workers.set k w'⟩
  | bulkFailed {k : ℕ} {w : MjWorker} {row : Midjourney} (hk : x.workers[k]? = some w)
      (howes : w.owes = false) (hw : w.Carries quota row) (hstatus : row.status = .failure)
      (hprogress : row.progress = mjComplete) (hdue : paying → x.row.status = .failure) :
      MjMove quota paying x ⟨row, x.accounts, x.workers.set k w⟩

/-! ### What a visit decides -/

/-- What the visit of a copy can decide: a stored failure is complete and owes the charge, and
nothing else does. -/
def MjVerdict.Sound (copy : Midjourney) (bulkDue : Prop) : MjVerdict → Prop
  | keep => True
  | bulk _ => bulkDue
  | save task shouldReturnQuota => task.quota = copy.quota ∧
      (task.status = .failure → task.progress = mjComplete ∧
        (copy.quota ≠ 0 → shouldReturnQuota = true)) ∧
      (shouldReturnQuota = true → task.status = .failure)

theorem pollMidjourney_sound {now : Int} {copy : Midjourney} {answer : MjAnswer}
    (hreport : ∀ item, answer = .item item → (MidjourneyDtoFails (timedOutItem now copy item) ↔
      (timedOutItem now copy item).status = .failure)) :
    (pollMidjourney now copy answer).Sound copy (copy.mjId = "" ∨ answer = .channelMissing) := by
  unfold pollMidjourney
  by_cases hid : copy.mjId = ""
  · rw [if_pos hid]
    exact .inl hid
  rw [if_neg hid]
  cases answer with
  | channelMissing => exact .inr rfl
  | unanswered => trivial
  | item item =>
    have hfailure := hreport item rfl
    simp only
    split_ifs with hneeded hfails
    · exact ⟨rfl, fun _ => ⟨rfl, decide_eq_true⟩, fun _ => hfailure.mp hfails⟩
    · exact ⟨rfl, fun hstatus => absurd (hfailure.mpr hstatus) hfails, nofun⟩
    · trivial

section

variable {quota : Int} {x : MjState}

theorem Charged.write (h : Charged quota x) {k : ℕ} {poller : MjPoller} {copy : Midjourney}
    (hk : x.workers[k]? = some (.polling poller copy)) {v : MjVerdict} {bulkDue paying : Prop}
    (hv : v.Sound copy bulkDue) {ok countsMatched : Bool}
    (hopen : ∀ task ret, v = .save task ret → copy.status ≠ .failure)
    (hpaying : paying → ok = true → bulkDue → x.row.status = .failure) :
    MjMove quota paying x ⟨(v.write poller ok countsMatched copy x.row).1, x.accounts,
        x.workers.set k (v.write poller ok countsMatched copy x.row).2⟩ := by
  have hcopy : copy.status ≠ .failure → copy.quota = quota :=
    h.workers _ (mem_of_getElem? hk)
  cases v with
  | keep => exact .turned hk hcopy rfl rfl
  | bulk failReason =>
    cases ok with
    | false => exact .turned hk hcopy rfl rfl
    | true => exact .bulkFailed hk rfl hcopy rfl rfl fun hpay => hpaying hpay rfl hv
  | save task shouldReturnQuota =>
    obtain ⟨hsame, hfailed, howed⟩ := hv
    have hquota : copy.quota = quota := hcopy (hopen task shouldReturnQuota rfl)
    have htask : task.quota = quota := hsame.trans hquota
    simp only [MjVerdict.write]
    obtain ⟨won, hlost, heq⟩ | ⟨hstatus, heq⟩ :=
      task.updateWithStatus_cases x.row ok countsMatched copy.status
    · rw [heq]
      split
      next heq' => exact absurd (Prod.mk.inj heq').1 hlost
      next heq' =>
        rw [← (Prod.mk.inj heq').2]
        exact .turned hk (fun _ => htask) rfl rfl
    · rw [heq]
      have hrow : x.row.status ≠ .failure := hstatus ▸ hopen task shouldReturnQuota rfl
      cases shouldReturnQuota with
      | true =>
        exact .stored hk rfl hrow htask (fun hstatus => (hfailed hstatus).1)
          ⟨howed rfl, howed rfl, htask⟩
          fun _ _ _ => rfl
      | false =>
        refine .stored hk rfl hrow htask (fun hstatus => (hfailed hstatus).1) (fun _ => htask) ?_
        intro _ hzero hstatus
        exact absurd ((hfailed hstatus).2 (hquota ▸ hzero)) (by decide)

variable {e : MjEvent}

/-- **Inversion** of a step that is no credit. -/
theorem Charged.move (h : Charged quota x) (hguard : GuardedByStatus x e)
    (hcredit : ∀ k ans, e ≠ .credit k ans) :
    MjMove quota (RefundsFailure x e) x (mjStep x e) := by
  cases e with
  | load poller =>
    simp only [mjStep]
    split_ifs
    · refine .joined (fun hopen => h.row hopen) rfl
    · exact .still
  | poll k answer ok countsMatched now =>
    simp only [mjStep]
    split
    next poller copy hk =>
      cases answer with
      | item item =>
        obtain ⟨hopen, hreport⟩ := hguard poller copy hk
        refine h.write hk (pollMidjourney_sound fun item' hitem => ?_) (fun _ _ _ => hopen)
          fun hpay hok hdue => hpay hok poller copy hk hdue
        cases hitem
        exact hreport
      | _ =>
        refine h.write hk (pollMidjourney_sound fun _ hitem => by cases hitem)
          (fun task ret hsave => ?_)
          fun hpay hok hdue => hpay hok poller copy hk hdue
        unfold pollMidjourney at hsave
        split_ifs at hsave
    · exact .still
  | credit k ans => exact absurd rfl (hcredit k ans)
  | notify item =>
    simp only [mjStep]
    split_ifs
    · exact .joined h.row rfl
    · exact .still
  | save k ok =>
    simp only [mjStep]
    split
    next copy item hk =>
      cases ok with
      | false => exact .turned hk trivial rfl rfl
      | true =>
        obtain ⟨hopen, hcomplete⟩ := hguard rfl copy item hk
        have hcopy : x.row.status ≠ .failure → copy.quota = quota :=
          h.workers _ (mem_of_getElem? hk)
        refine .stored hk rfl hopen (hcopy hopen) hcomplete trivial ?_
        intro hpay _ hstatus
        exact absurd hstatus (hpay rfl copy item hk)
    · exact .still

theorem MjWorker.Carries.mono {row row' : Midjourney} {w : MjWorker} (h : w.Carries quota row)
    (hrow : row.status = .failure → row'.status = .failure) : w.Carries quota row' := by
  cases w with
  | polling => exact h
  | crediting => exact ⟨hrow h.1, h.2⟩
  | notifying => exact fun hopen => h fun hfailed => hopen (hrow hfailed)
  | finished => trivial

theorem Charged.workers_set (h : Charged quota x) {row : Midjourney} {w : MjWorker} (k : ℕ)
    (hrow : x.row.status = .failure → row.status = .failure) (hw : w.Carries quota row) :
    ∀ w' ∈ x.workers.set k w, w'.Carries quota row := by
  intro w' hw'
  rcases mem_or_eq_of_mem_set hw' with hmem | rfl
  · exact (h.workers w' hmem).mono hrow
  · exact hw

theorem MjMove.charged {paying : Prop} {x' : MjState} (hmove : MjMove quota paying x x')
    (h : Charged quota x) : Charged quota x' := by
  cases hmove with
  | still => exact h
  | joined hw =>
    refine ⟨h.complete, h.row, fun w' hw' => ?_⟩
    rcases mem_append.mp hw' with hmem | hmem
    · exact h.workers w' hmem
    · rw [mem_singleton.mp hmem]
      exact hw
  | turned hk hw => exact ⟨h.complete, h.row, h.workers_set _ id hw⟩
  | stored hk howes hopen hquota hcomplete hw =>
    exact ⟨hcomplete, fun _ => hquota, h.workers_set _ (fun hfailed => absurd hfailed hopen) hw⟩
  | bulkFailed hk howes hw hstatus hprogress =>
    exact ⟨fun _ => hprogress, fun hopen => absurd hstatus hopen,
      h.workers_set _ (fun _ => hstatus) hw⟩

/-! ### Credits -/

theorem creditFailure_spec (poller : MjPoller) (ans : CreditReply) (task row : Midjourney)
    (a : MjAccounts) :
    let r := creditFailure poller ans task row a
    r.1.status = row.status ∧ r.1.progress = row.progress ∧ (r.2.2.status = task.status) ∧
      r.2.1.userQuota = a.userQuota +
        if task.quota ≠ 0 ∧ (increaseUserQuota ans.user task.quota a).isSome then task.quota
        else 0 := by
  cases poller with
  | legacy =>
    simp only [creditFailure, increaseUserQuota]
    split_ifs <;> simp_all
  | systemTask =>
    simp only [creditFailure, refundMidjourneyQuota]
    by_cases hzero : task.quota = 0
    · simp [hzero]
    rw [if_neg hzero]
    unfold increaseUserQuota
    by_cases hrefused : task.quota < 0 ∨ validateWalletQuota task.quota = false ∨ ans.user = false
    · simp [hrefused]
    · rw [if_neg hrefused]
      simp only [Midjourney.updateBillingState]
      split_ifs <;> simp_all

/-- **One step** keeps the charge with the task. -/
theorem Charged.step (h : Charged quota x) (hguard : GuardedByStatus x e) :
    Charged quota (mjStep x e) := by
  by_cases hcredit : ∃ k ans, e = .credit k ans
  · obtain ⟨k, ans, rfl⟩ := hcredit
    simp only [mjStep]
    split
    next poller copy hk =>
      obtain ⟨hrow, hcopy, -⟩ : x.row.status = .failure ∧ copy.status = .failure ∧
        copy.quota = quota := h.workers _ (mem_of_getElem? hk)
      obtain ⟨hstatus, hprogress, hcopy', -⟩ :=
        creditFailure_spec poller ans copy x.row x.accounts
      refine ⟨fun _ => hprogress.trans (h.complete hrow), fun hopen => ?_, ?_⟩
      · exact absurd (hstatus.trans hrow) hopen
      · exact h.workers_set k (fun _ => hstatus.trans hrow)
          fun hopen => absurd (hcopy'.trans hcopy) hopen
    · exact h
  · exact (h.move hguard fun k ans he => hcredit ⟨k, ans, he⟩).charged h

/-! ### The potential -/

/-- A task that has not failed is worth one credit, and so is a poller that has yet to credit. -/
def creditPotential (x : MjState) : ℕ :=
  (decide (x.row.status ≠ .failure)).toNat + x.workers.countP MjWorker.owes

theorem MjMove.potential {paying : Prop} {x' : MjState} (hmove : MjMove quota paying x x') :
    creditPotential x' ≤ creditPotential x ∧
      (paying → quota ≠ 0 → creditPotential x ≤ creditPotential x') := by
  unfold creditPotential
  cases hmove with
  | still => exact ⟨le_refl _, fun _ _ => le_refl _⟩
  | joined _ howes => simp [howes]
  | @turned k w w' hk _ howes howes' =>
    have hcount := Pool.countP_set_add (p := MjWorker.owes) hk w'
    rw [howes, howes'] at hcount
    simp only
    omega
  | @stored k w w' row hk howes hopen _ _ hw hpays =>
    have hcount := Pool.countP_set_add (p := MjWorker.owes) hk w'
    rw [howes, Bool.toNat_false] at hcount
    have hbefore : (decide (x.row.status ≠ .failure)).toNat = 1 := by simp [hopen]
    have hafter : (decide (row.status ≠ .failure)).toNat + w'.owes.toNat ≤ 1 := by
      cases w' with
      | crediting poller task => simp [hw.1, MjWorker.owes]
      | _ => exact Bool.toNat_le _
    refine ⟨by simp only; omega, fun hpaying hquota => ?_⟩
    have hpaid : 1 ≤ (decide (row.status ≠ .failure)).toNat + w'.owes.toNat := by
      by_cases hstatus : row.status = .failure
      · simp [hpays hpaying hquota hstatus]
      · simp [hstatus]
    simp only
    omega
  | @bulkFailed k w row hk howes _ hstatus _ hdue =>
    have hcount := Pool.countP_set_add (p := MjWorker.owes) hk w
    have hafter : (decide (row.status ≠ .failure)).toNat = 0 := by simp [hstatus]
    refine ⟨by simp only; omega, fun hpaying _ => ?_⟩
    have hbefore : (decide (x.row.status ≠ .failure)).toNat = 0 := by simp [hdue hpaying]
    simp only
    omega

theorem creditPotential_credit {k : ℕ} {poller : MjPoller} {copy : Midjourney} {ans : CreditReply}
    (hk : x.workers[k]? = some (.crediting poller copy)) :
    creditPotential (mjStep x (.credit k ans)) + 1 = creditPotential x := by
  obtain ⟨hstatus, -, -, -⟩ := creditFailure_spec poller ans copy x.row x.accounts
  simp only [mjStep, hk, creditPotential, hstatus]
  have hcount := Pool.countP_set_add (p := MjWorker.owes) hk
    (.polling poller (creditFailure poller ans copy x.row x.accounts).2.2)
  simp only [MjWorker.owes, Bool.toNat_true, Bool.toNat_false] at hcount
  omega

theorem credits_cases (x : MjState) (e : MjEvent) : (∃ k ans poller copy, e = .credit k ans ∧
        x.workers[k]? = some (.crediting poller copy)) ∨
      credits x e = 0 ∧ (mjStep x e = x ∨ ∀ k ans, e ≠ .credit k ans) := by
  cases e with
  | credit k ans =>
    by_cases howes : ∃ poller copy, x.workers[k]? = some (.crediting poller copy)
    · obtain ⟨poller, copy, hk⟩ := howes
      exact .inl ⟨k, ans, poller, copy, rfl, hk⟩
    simp only [credits, mjStep]
    split
    next poller copy hk => exact absurd ⟨poller, copy, hk⟩ howes
    · exact .inr ⟨rfl, .inl rfl⟩
  | _ => exact .inr ⟨rfl, .inr (by simp)⟩

variable (h : Charged quota x)
include h

/-- **One step**: a credit is paid for with the potential. -/
theorem Charged.credits_le (hguard : GuardedByStatus x e) :
    credits x e + creditPotential (mjStep x e) ≤ creditPotential x := by
  rcases credits_cases x e with ⟨k, ans, poller, copy, rfl, hk⟩ | ⟨hzero, hsame | hne⟩
  · have hpot : creditPotential (mjStep x (.credit k ans)) + 1 = creditPotential x :=
      creditPotential_credit hk
    have hone : credits x (.credit k ans) ≤ 1 := by
      simp only [credits, hk]
      split_ifs <;> omega
    omega
  · rw [hzero, hsame, zero_add]
  · rw [hzero, zero_add]
    exact (h.move hguard hne).potential.1

/-- **One step**: if failures are left to the pollers, the potential is spent on credits only. -/
theorem Charged.le_credits (hquota : 0 < quota)
    (hvalid : validateWalletQuota quota = true) (hguard : GuardedByStatus x e)
    (hpaying : RefundsFailure x e) :
    creditPotential x ≤ credits x e + creditPotential (mjStep x e) := by
  rcases credits_cases x e with ⟨k, ans, poller, copy, rfl, hk⟩ | ⟨hzero, hsame | hne⟩
  · have hpot : creditPotential (mjStep x (.credit k ans)) + 1 = creditPotential x :=
      creditPotential_credit hk
    have hone : credits x (.credit k ans) = 1 := by
      obtain ⟨-, -, hcopy⟩ : x.row.status = .failure ∧ copy.status = .failure ∧
        copy.quota = quota := h.workers _ (mem_of_getElem? hk)
      have hpos : ¬ quota < 0 := by omega
      have hne : quota ≠ 0 := by omega
      have huser : ans.user = true := hpaying
      simp [credits, hk, hcopy, increaseUserQuota, hpos, hne, hvalid, huser]
    omega
  · rw [hzero, hsame, zero_add]
  · rw [hzero, zero_add]
    exact (h.move hguard hne).potential.2 hpaying (by omega)

/-- **One step** moves the quota of the user by the charge for each credit. -/
theorem Charged.userQuota_step (e : MjEvent) :
    (mjStep x e).accounts.userQuota = x.accounts.userQuota + quota * credits x e := by
  cases e with
  | poll | save =>
    simp only [mjStep, credits]
    split <;> simp
  | credit k ans =>
    simp only [mjStep, credits]
    split
    next poller copy hk =>
      obtain ⟨-, -, hcopy⟩ : x.row.status = .failure ∧ copy.status = .failure ∧
        copy.quota = quota := h.workers _ (mem_of_getElem? hk)
      obtain ⟨-, -, -, huser⟩ := creditFailure_spec poller ans copy x.row x.accounts
      simp only [huser, hcopy]
      split_ifs <;> simp
    · simp
  | _ =>
    simp only [mjStep, credits]
    split_ifs <;> simp

end

/-! ### Runs -/

/-- **A failed Midjourney task is credited once.** Start with a task that has not failed and that
nobody has loaded, and take any run of the two pollers and the notify handler in which the status
guards every step. The user is credited at most once, with the charge of the task. If moreover the
failures are left to the pollers and the task ends in `FAILURE`, then, once no poller has yet to
credit it, the user has been credited exactly once. -/
theorem midjourney_credited_once {x : MjState} (hopen : x.row.status ≠ .failure)
    (hfresh : x.workers = []) {events : List MjEvent}
    (hguard : Along mjStep GuardedByStatus x events) :
    sumAlong mjStep credits x events ≤ 1 ∧ (run mjStep x events).accounts.userQuota =
        x.accounts.userQuota + x.row.quota * (sumAlong mjStep credits x events : ℕ) ∧
      (0 < x.row.quota → validateWalletQuota x.row.quota = true →
        Along mjStep RefundsFailure x events → (run mjStep x events).row.status = .failure →
        (∀ w ∈ (run mjStep x events).workers, w.owes = false) →
          sumAlong mjStep credits x events = 1) := by
  have hstart : Charged x.row.quota x :=
    ⟨fun hfailed => absurd hfailed hopen, fun _ => rfl, by simp [hfresh]⟩
  have hpot : creditPotential x = 1 := by simp [creditPotential, hopen, hfresh]
  have hkept : ∀ (y : MjState) (e : MjEvent), Charged x.row.quota y → GuardedByStatus y e →
      Charged x.row.quota (mjStep y e) := fun y e h hg => h.step hg
  have hcharged : Along mjStep (fun y e => Charged x.row.quota y ∧ GuardedByStatus y e) x events :=
    along_of_invariant hkept (fun y e h hg => ⟨h, hg⟩) hstart hguard
  have hmost : sumAlong mjStep credits x events ≤ 1 := by
    have hsum : sumAlong mjStep credits x events + creditPotential (run mjStep x events) ≤
        creditPotential x := sumAlong_add_le (fun y e h => h.1.credits_le h.2) hcharged
    omega
  refine ⟨hmost, ?_, fun hquota hvalid hpaying hfailed hpaid => ?_⟩
  · have hcast : x.row.quota * (sumAlong mjStep credits x events : ℕ) =
        sumAlong mjStep (fun y e => x.row.quota * (credits y e : ℕ)) x events :=
      map_sumAlong ((AddMonoidHom.mulLeft x.row.quota).comp (Nat.castAddMonoidHom Int)) credits x
        events
    rw [hcast]
    exact measure_run (m := fun y => y.accounts.userQuota) hkept
      (fun y e h _ => h.userQuota_step e) hstart hguard
  · have hsum : creditPotential x ≤
        sumAlong mjStep credits x events + creditPotential (run mjStep x events) :=
      le_sumAlong_add (fun y e h => h.1.1.le_credits hquota hvalid h.1.2 h.2)
        (along_and.mpr ⟨hcharged, hpaying⟩)
    have hend : creditPotential (run mjStep x events) = 0 := by
      have hnone : (run mjStep x events).workers.countP MjWorker.owes = 0 :=
        countP_eq_zero.mpr fun w hw => by rw [hpaid w hw]; decide
      simp [creditPotential, hfailed, hnone]
    omega

def chargedMidjourney : MjState where
  row :=
    { code := 1, mjId := "1320098173412546", promptEn := "cat", state := "", submitTime := 1000,
      startTime := 1000, finishTime := 0, imageUrl := "", videoUrl := "", videoUrls := "",
      status := .other "IN_PROGRESS", progress := "30%", failReason := "", channelId := 3,
      quota := 100, buttons := "", properties := "", tokenId := 5, billingChannelId := 3 }
  accounts := ⟨900, 400, 100, 100⟩
  workers := []

def mjReport (status : MjStatus) (progress failReason : String) : MidjourneyDto :=
  { mjId := "1320098173412546", promptEn := "cat", state := "", submitTime := 1000,
    startTime := 1000, finishTime := 0, imageUrl := "", videoUrl := "", videoUrls := "[]",
    noVideoUrls := true, status := status, progress := progress, failReason := failReason,
    buttons := none, properties := none }

def bothPollers (item : MidjourneyDto) : List MjEvent :=
  [.load .legacy, .load .systemTask, .poll 0 (.item item) true true 2000,
    .poll 1 (.item item) true true 2000, .credit 0 ⟨true, true, true, true⟩,
    .credit 1 ⟨true, true, true, true⟩]

theorem midjourney_credited_once_bothPollers : sumAlong mjStep credits chargedMidjourney
        (bothPollers (mjReport .failure "100%" "blocked")) = 1 := by
  refine (midjourney_credited_once (by decide) rfl ?_).2.2 (by decide) (by decide) ?_
    (by decide +kernel) (by decide +kernel)
  · refine ⟨trivial, trivial, ?_, ?_, trivial, trivial, trivial⟩
    all_goals
      intro poller copy hk
      cases hk
      decide +kernel
  · refine ⟨trivial, trivial, ?_, ?_, rfl, rfl, trivial⟩
    all_goals
      intro _ poller copy hk hdue
      cases hk
      exact absurd hdue (by decide +kernel)

/-- Two runs of a task that is charged `100`. In the first the upstream notifies a failure: the task
ends in `FAILURE` and is complete, nothing is credited, and no poller loads it again. In the second
both pollers are told of a failure that keeps the status, both win the guarded update, and the user
is credited twice. -/
theorem midjourney_refunds_fail :
    (let x := run mjStep chargedMidjourney
      [.notify (mjReport .failure "100%" "blocked"), .save 0 true]
    x.row.status = .failure ∧ x.row.progress = "100%" ∧
      x.accounts = chargedMidjourney.accounts ∧ x.workers = [.finished] ∧
      ∀ poller ∈ [MjPoller.legacy, .systemTask], mjStep x (.load poller) = x) ∧
    (let events := bothPollers (mjReport (.other "IN_PROGRESS") "50%" "blocked")
    sumAlong mjStep credits chargedMidjourney events = 2 ∧
      (run mjStep chargedMidjourney events).accounts.userQuota = 1100) := by
  decide +kernel

end NewApi.Controller
