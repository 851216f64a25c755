import NewApi.Model.TopUp

/-!
# The life of a top-up order

Seven calls share one order row, each with its own test of the status, its own credit and its own
completion. `topUpCall_move` says once what a call can do: nothing, close the order without a
credit, or complete it with one. The results about whole histories follow from that alone.
-/

namespace NewApi.Model

open Common Tx StepSystem

/-- The quota that a call offers for an order; `none` for a status update, which offers none. -/
def TopUpCall.offer (perUnit : ℚ) (topUp : TopUp) : TopUpCall → Option (Except TopUpError Int)
  | rechargeEpay _ _ | rechargeWaffo _ | rechargeWaffoPancake _ =>
    some (quotaToAdd (amountQuota perUnit topUp))
  | recharge _ _ => some (quotaToAdd (moneyQuota perUnit topUp))
  | rechargeCreem _ _ _ => some (quotaToAdd topUp.amount)
  | manualCompleteTopUp _ => some (quotaToAdd (if topUp.paymentProvider = .stripe then
      moneyQuota perUnit topUp else amountQuota perUnit topUp))
  | updatePendingTopUpStatus _ _ => none

/-- What a call that offers `offer` can do to the order and the user, with its result. -/
inductive TopUpMove (offer : Option (Except TopUpError Int)) (x : TopUpRows) :
    Except TopUpError Int → TopUpRows → Prop
  | rejected (e : TopUpError) : TopUpMove offer x (.error e) x
  /-- The order had been completed before. -/
  | kept (hdone : x.topUp.status = .success) : TopUpMove offer x (.ok 0) x
  | closed {target : TopUpStatus} (hoffer : offer = none) (hpend : x.topUp.status = .pending)
      (htarget : target ≠ .success) (htarget' : target ≠ .pending) :
      TopUpMove offer x (.ok 0) { x with topUp := { x.topUp with status := target } }
  | credited {quota : Int} {user user' : PayingUser} {topUp' : TopUp}
      (hoffer : offer = some (.ok quota)) (hpend : x.topUp.status = .pending)
      (hquota : 0 < quota) (huser : x.user = some user)
      (hroom : user.quota + quota ≤ maxWalletQuota) (hdone : topUp'.status = .success)
      (htradeNo : topUp'.tradeNo = x.topUp.tradeNo)
      (huserId : topUp'.userId = x.topUp.userId) (hquota' : user'.quota = user.quota + quota) :
      TopUpMove offer x (.ok quota) ⟨topUp', some user'⟩

section

variable {offer : Option (Except TopUpError Int)} {x : TopUpRows} {ans : TopUpReply} {now : Int}
  {tradeNo : String}

theorem TopUpMove.unless {c : Prop} [Decidable c] {e : TopUpError}
    {r : Except TopUpError Int × TopUpRows} (h : TopUpMove offer x r.1 r.2) :
    TopUpMove offer x (if c then (.error e, x) else r).1 (if c then (.error e, x) else r).2 := by
  by_cases hc : c
  · rw [if_pos hc]
    exact .rejected e
  · rw [if_neg hc]
    exact h

theorem TopUpMove.reportFailure {r : Except TopUpError Int × TopUpRows}
    (h : TopUpMove offer x r.1 r.2) :
    TopUpMove offer x (Model.reportFailure r).1 (Model.reportFailure r).2 := by
  obtain ⟨r, y⟩ := r
  cases h with
  | rejected e => exact .rejected .rechargeFailed
  | kept hdone => exact .kept hdone
  | closed hoffer hpend htarget htarget' => exact .closed hoffer hpend htarget htarget'
  | credited hoffer hpend hquota huser hroom hdone htradeNo huserId hquota' =>
    exact .credited hoffer hpend hquota huser hroom hdone htradeNo huserId hquota'

theorem TopUpMove.transaction {commit : Option TopUpError} {body : TopUpTx Int}
    (h : ∀ quota y, exec body x = (.ok quota, y) → TopUpMove offer x (.ok quota) y) :
    TopUpMove offer x (Tx.transaction commit body x).1 (Tx.transaction commit body x).2 := by
  rcases transaction_cases commit body x with ⟨e, herror⟩ | ⟨quota, y, hok, hexec⟩
  · rw [herror]
    exact .rejected e
  · rw [hok]
    exact h quota y hexec

theorem IdempotentRecharge.move (c : IdempotentRecharge)
    (hoffer : offer = some (quotaToAdd (c.decimalQuota x.topUp))) :
    TopUpMove offer x (Tx.transaction ans.commitError (c.body ans now tradeNo) x).1
      (Tx.transaction ans.commitError (c.body ans now tradeNo) x).2 := by
  refine .transaction fun quota y hexec => ?_
  obtain ⟨-, -, ⟨hdone, rfl, rfl⟩ | ⟨hpend, hquota, -, -, user, huser, hroom, rfl⟩⟩ :=
    c.exec_body_ok_iff.mp hexec
  · exact .kept hdone
  · have hpos : 0 < quota := (quotaToAdd_ok_iff.mp hquota).2.1
    exact .credited (hquota ▸ hoffer) hpend hpos huser hroom rfl rfl rfl rfl

theorem OneShotRecharge.move (c : OneShotRecharge)
    (hoffer : offer = some (quotaToAdd (c.decimalQuota x.topUp)))
    (hreads : ∀ {z z' : TopUpRows} {f : PayingUser → PayingUser},
      exec (c.updates ans) z = (.ok f, z') → z = z') :
    TopUpMove offer x (Tx.transaction ans.commitError (c.body ans now tradeNo) x).1
      (Tx.transaction ans.commitError (c.body ans now tradeNo) x).2 := by
  refine .transaction fun quota y hexec => ?_
  obtain ⟨-, -, hpend, hquota, -, -, f, z, user, hf, huser, hroom, rfl⟩ :=
    c.exec_body_ok_iff.mp hexec
  obtain rfl := hreads hf
  have hpos : 0 < quota := (quotaToAdd_ok_iff.mp hquota).2.1
  exact .credited (hquota ▸ hoffer) hpend hpos huser hroom rfl rfl rfl rfl

theorem updatePendingTopUpStatus_move (expected : Option PaymentProvider) {target : TopUpStatus}
    (htarget : target ≠ .success) (htarget' : target ≠ .pending) :
    TopUpMove none x (updatePendingTopUpStatus ans x tradeNo expected target).1
      (updatePendingTopUpStatus ans x tradeNo expected target).2 := by
  refine .unless (.transaction fun quota y hexec => ?_)
  simp only [exec_findTopUp_bind_ok_iff, exec_ensure_bind_ok_iff, exec_saveTopUp_bind_ok_iff]
    at hexec
  obtain ⟨-, -, hpend, -, hret⟩ := hexec
  cases hret
  exact .closed rfl hpend htarget htarget'

end

/-- **One call** on an order does nothing, closes the order, or completes it with a credit. -/
theorem topUpCall_move (perUnit : ℚ) (x : TopUpRows) (e : TopUpEvent) :
    TopUpMove (e.call.offer perUnit x.topUp) x (topUpCall perUnit x e).1
      (topUpCall perUnit x e).2 := by
  obtain ⟨call, ans, now⟩ := e
  cases call with
  | rechargeEpay tradeNo method | manualCompleteTopUp tradeNo =>
    refine .unless (IdempotentRecharge.move _ ?_)
    rfl
  | recharge referenceId customerId =>
    refine .unless (OneShotRecharge.move _ ?_ fun h => ?_).reportFailure
    · rfl
    · cases h
      rfl
  | rechargeCreem referenceId email name =>
    refine .unless (OneShotRecharge.move _ ?_ exec_creemUpdates).reportFailure
    rfl
  | rechargeWaffo tradeNo | rechargeWaffoPancake tradeNo =>
    refine .unless (IdempotentRecharge.move _ ?_).reportFailure
    rfl
  | updatePendingTopUpStatus tradeNo caller =>
    exact updatePendingTopUpStatus_move _ (by cases caller <;> decide) (by cases caller <;> decide)

/-! ### Histories -/

section

variable (perUnit : ℚ)

def TopUpRows.userQuota (x : TopUpRows) : Option Int := x.user.map PayingUser.quota

def creditedBy (x : TopUpRows) (e : TopUpEvent) : ℕ :=
  if (topUpStep perUnit x e).userQuota = x.userQuota then 0 else 1

def TopUpRows.completed (x : TopUpRows) : ℕ := if x.topUp.status = .success then 1 else 0

/-- What one call promises: only a pending order changes its status, a call that fails changes
nothing, and the quota of the user never falls. -/
structure OrderlyCall (x : TopUpRows) (e : TopUpEvent) : Prop where
  status_of_ne_pending : x.topUp.status ≠ .pending →
    (topUpStep perUnit x e).topUp.status = x.topUp.status
  unchanged_of_error : ∀ err, (topUpCall perUnit x e).1 = .error err →
    topUpStep perUnit x e = x
  quota_le : ∀ q ∈ x.userQuota, ∃ q' ∈ (topUpStep perUnit x e).userQuota, q ≤ q'

theorem orderlyCall (x : TopUpRows) (e : TopUpEvent) : OrderlyCall perUnit x e := by
  have hmove := topUpCall_move perUnit x e
  have hsame : ∀ q ∈ x.userQuota, ∃ q' ∈ x.userQuota, q ≤ q' := fun q hq => ⟨q, hq, le_refl q⟩
  refine ⟨fun hne => ?_, fun err herr => ?_, ?_⟩ <;> unfold topUpStep
  · generalize topUpCall perUnit x e = r at hmove ⊢
    obtain ⟨r, y⟩ := r
    cases hmove with
    | closed _ hpend | credited _ hpend => exact absurd hpend hne
    | _ => rfl
  · generalize topUpCall perUnit x e = r at hmove herr ⊢
    obtain ⟨r, y⟩ := r
    obtain rfl : r = .error err := herr
    cases hmove
    rfl
  · generalize topUpCall perUnit x e = r at hmove ⊢
    obtain ⟨r, y⟩ := r
    cases hmove with
    | @credited quota user user' _ _ _ hquota huser _ _ _ _ hquota' =>
      intro q hq
      simp only [TopUpRows.userQuota, huser, Option.map_some, Option.mem_some_iff] at hq
      exact ⟨user'.quota, rfl, by omega⟩
    | _ => exact hsame

theorem completed_step (x : TopUpRows) (e : TopUpEvent) :
    (topUpStep perUnit x e).completed = x.completed + creditedBy perUnit x e := by
  have hmove := topUpCall_move perUnit x e
  unfold creditedBy topUpStep
  generalize topUpCall perUnit x e = r at hmove ⊢
  obtain ⟨r, y⟩ := r
  cases hmove with
  | closed _ hpend htarget => simp [TopUpRows.completed, TopUpRows.userQuota, hpend, htarget]
  | @credited quota user user' _ _ hpend hquota huser _ hdone _ _ hquota' =>
    have hne : user.quota + quota ≠ user.quota := by omega
    simp [TopUpRows.completed, TopUpRows.userQuota, hpend, huser, hdone, hquota', hne]
  | _ => simp

/-- **Credited at most once.** Over any history of callbacks, manual completions and status updates
on a pending order, the quota of the user is moved at most once, and exactly if the order ends in
success; every call changes only a pending status, changes nothing if it fails, and never lowers the
quota. -/
theorem topUp_credited_at_most_once {x : TopUpRows} (hpend : x.topUp.status = .pending)
    (events : List TopUpEvent) :
    sumAlong (topUpStep perUnit) (creditedBy perUnit) x events ≤ 1 ∧
      (sumAlong (topUpStep perUnit) (creditedBy perUnit) x events = 1 ↔
        (run (topUpStep perUnit) x events).topUp.status = .success) ∧
      Along (topUpStep perUnit) (OrderlyCall perUnit) x events := by
  have hsum := measure_run_of_step (completed_step perUnit) x events
  have hstart : x.completed = 0 := by simp [TopUpRows.completed, hpend]
  have horderly : Along (topUpStep perUnit) (OrderlyCall perUnit) x events :=
    along_of_forall (orderlyCall perUnit) x events
  rw [hstart, zero_add] at hsum
  rw [← hsum]
  unfold TopUpRows.completed
  split_ifs with hdone
  · exact ⟨le_rfl, by simp [hdone], horderly⟩
  · exact ⟨Nat.zero_le 1, by simp [hdone], horderly⟩

end

def pendingEpay : TopUpRows :=
  ⟨⟨1, 10, 10, "USR1NO1", "alipay", .epay, 0, 0, .pending⟩, some ⟨0, "", ""⟩⟩

def completedTwice : List TopUpEvent :=
  [⟨.rechargeEpay "USR1NO1" "", .allOk, 1⟩, ⟨.manualCompleteTopUp "USR1NO1", .allOk, 2⟩]

theorem topUp_credited_at_most_once_pendingEpay : pendingEpay.topUp.status = .pending ∧
      sumAlong (topUpStep 500000) (creditedBy 500000) pendingEpay completedTwice ≤ 1 ∧
      (sumAlong (topUpStep 500000) (creditedBy 500000) pendingEpay completedTwice = 1 ↔
        (run (topUpStep 500000) pendingEpay completedTwice).topUp.status = .success) ∧
      Along (topUpStep 500000) (OrderlyCall 500000) pendingEpay completedTwice :=
  ⟨rfl, topUp_credited_at_most_once 500000 rfl completedTwice⟩

end NewApi.Model
