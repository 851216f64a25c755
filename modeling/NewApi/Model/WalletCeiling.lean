import NewApi.Model.AccountMoves

/-!
# The ceiling of the wallet

The quota of a user row is to stay within `MaxWalletQuota`. Each credit enforces this in its own
way: the order callbacks and redemption codes with the condition of their `UPDATE`, a direct
`IncreaseUserQuota` likewise, a manual adjustment with a check of its target. The check-in in a
transaction, the transfer of affiliate quota and the flush of a batched credit do not look at the
ceiling.
-/

namespace NewApi.Model

open Common StepSystem Option List

/-! ### Credits -/

/-- The credit that an operation offers to the row, if it offers one. A credit that goes to the
batch updater is offered by the flush that writes it. -/
def AccountOp.credit (cfg : QuotaSettings) (perUnit : ℚ) (id : Int) (a : Account) :
    AccountOp → Option Int
  | call (.increase quota db) _ =>
    if db = false ∧ cfg.batchUpdateEnabled = true then none else some quota.toInt
  | topUp e _ =>
    match a.orders.find e.call.tradeNo with
    | none => none
    | some order =>
      match e.call.offer perUnit order with
      | some (.ok quota) => some quota
      | some (.error _) | none => none
  | redeem _ _ _ key => (a.codes.find key).map Redemption.quota
  | checkin setting _ _ _ random => some (setting.quotaAwarded random)
  | transferAff _ quota => some quota
  | adjust _ _ mode value =>
    some (mode.target (a.wallet.dbQuota id) value - a.wallet.dbQuota id)
  | flush k key _ =>
    match a.wallet.batch.flushes[k]? with
    | none => none
    | some f => if f.writes .userQuota = true ∧ id = key then some (f.held .userQuota id) else none
  | call (.tryReserve _) _ | call (.decrease _ _) _ | purchase _ _ _ | startFlush => none

structure Untouched (id : Int) (a a' : Account) : Prop where
  quota : a'.wallet.dbQuota id = a.wallet.dbQuota id
  orders : a'.orders = a.orders
  codes : a'.codes = a.codes
  checkins : a'.checkins = a.checkins

theorem Untouched.refl (id : Int) (a : Account) : Untouched id a a := ⟨rfl, rfl, rfl, rfl⟩

/-- An operation whose credit goes beyond the ceiling changes neither the quota nor any order, code
or record. -/
def RefusesOver (cfg : QuotaSettings) (perUnit : ℚ) (id : Int) (a : Account)
    (op : AccountOp) : Prop :=
  ∀ v ∈ op.credit cfg perUnit id a, maxWalletQuota < a.wallet.dbQuota id + v →
    Untouched id a (accountStep cfg perUnit id a op)

/-- What the operations without a check have to meet:
* a check-in in a transaction stays within the ceiling, and one without a transaction that goes
  beyond it can delete its record;
* a transfer stays within the ceiling;
* a flush that writes the row stays within the ceiling. -/
def CeilingOp (perUnit : ℚ) (id : Int) (a : Account) : AccountOp → Prop
  | .checkin setting sqlite ans today random =>
    CheckinAccepted a setting ans today →
      (sqlite = true → maxWalletQuota < a.wallet.dbQuota id + setting.quotaAwarded random →
        ans.delete = true) ∧
      (sqlite = false → ans.update = true → ans.commit = true →
        a.wallet.dbQuota id + setting.quotaAwarded random ≤ maxWalletQuota)
  | .transferAff ans quota =>
    TransferAccepted perUnit a ans quota → a.wallet.dbQuota id + quota ≤ maxWalletQuota
  | .flush k key ok =>
    ok = true → ∀ f ∈ a.wallet.batch.flushes[k]?, f.writes .userQuota = true → id = key →
      a.wallet.dbQuota id + f.held .userQuota id ≤ maxWalletQuota
  | .call _ _ | .topUp _ _ | .redeem _ _ _ _ | .adjust _ _ _ _ | .purchase _ _ _
  | .startFlush => True

/-! ### Calls -/

section

variable {cfg : QuotaSettings} {id : Int} {replies : ℕ → StoreReply} {w : Wallet}
  {t : QuotaThread}

theorem dbQuota_reserve_le {quota : Int64} {s s' : ReserveState} {ans : StoreReply} {w' : Wallet}
    (hmove : ReserveMove cfg id ans w quota s s' w') (hvalid : s.Valid id quota) :
    w'.dbQuota id ≤ w.dbQuota id := by
  cases hmove with
  | hydrate =>
    have hbatch := (HydrateState.step_cases cfg ans w hvalid.2).2.1
    simp [Wallet.dbQuota, hbatch]
  | grantDB hdb hle =>
    have hquota : 0 < quota.toInt := hvalid
    rw [dbQuota_addQuota]
    omega
  | persistRow =>
    have hquota : 0 < quota.toInt := hvalid
    have hneg := toInt_neg_of_nonneg (le_of_lt hquota)
    rw [dbQuota_addQuota]
    omega
  | _ => exact le_refl _

/-- **One step of a thread** stays within the ceiling: only a direct `IncreaseUserQuota` raises the
quota, and its `UPDATE` has the ceiling as a condition. -/
theorem dbQuota_thread_le {ans : StoreReply} (hvalid : t.Valid id)
    (h : w.dbQuota id ≤ maxWalletQuota) :
    (t.step cfg id ans w).2.dbQuota id ≤ maxWalletQuota := by
  cases t with
  | tryReserve quota s =>
    exact le_trans (dbQuota_reserve_le (s.step_move cfg ans w hvalid) hvalid) h
  | getUserCache s =>
    have hbatch := (HydrateState.step_cases cfg ans w hvalid).2.1
    simp only [QuotaThread.step, Wallet.dbQuota, hbatch]
    exact h
  | increase quota db =>
    simp only [QuotaThread.step, increaseUserQuota]
    split_ifs
    · exact h
    · simp only [dbQuota_addQuota]
      omega
    · exact h
  | decrease quota db =>
    have hquota : 0 ≤ quota.toInt := hvalid
    simp only [QuotaThread.step]
    split_ifs
    · exact h
    · simp only [dbQuota_addQuota]
      omega
    · exact h
  | cacheIncr delta =>
    simp only [QuotaThread.step, Wallet.dbQuota, cacheIncrUserQuota_batch]
    exact h
  | done => exact h

theorem dbQuota_drain_le {n : ℕ} (hvalid : t.Valid id) (h : w.dbQuota id ≤ maxWalletQuota) :
    (t.drain cfg id replies n w).2.dbQuota id ≤ maxWalletQuota := by
  induction n generalizing t w with
  | zero => exact h
  | succ n ih => exact ih (hvalid.step cfg (replies n) w) (dbQuota_thread_le hvalid h)

theorem dbQuota_call_le (c : WalletCall) (h : w.dbQuota id ≤ maxWalletQuota) :
    (w.call cfg id replies c).dbQuota id ≤ maxWalletQuota := by
  have hvalid : ∀ t ∈ spawned cfg c.event, t.Valid id := spawned_valid c.event
  unfold Wallet.call
  generalize spawned cfg c.event = threads at hvalid
  induction threads generalizing w with
  | nil => exact h
  | cons t ts ih =>
    exact ih (dbQuota_drain_le (hvalid t mem_cons_self) h)
      fun t' ht' => hvalid t' (mem_cons_of_mem _ ht')

theorem call_increase_over {quota : Int64} {db : Bool}
    (hdirect : ¬ (db = false ∧ cfg.batchUpdateEnabled = true))
    (hover : maxWalletQuota < w.dbQuota id + quota.toInt) :
    w.call cfg id replies (.increase quota db) = w := by
  simp only [Wallet.call, WalletCall.event, spawned]
  split_ifs
  · exact QuotaThread.drain_done cfg id replies 9 w
  have hroom : ¬ ((replies 8).db = true ∧ w.dbQuota id ≤ maxWalletQuota - quota.toInt) := by omega
  have hstep : QuotaThread.step cfg id (replies 8) w (.increase quota db) = (.done, w) := by
    simp [QuotaThread.step, increaseUserQuota, if_neg hdirect, if_neg hroom]
  simp only [foldl_cons, QuotaThread.drain, hstep]
  rfl

end

/-! ### Flushes -/

theorem FlushState.step_userQuota (f : FlushState) (stores : BatchStores) (db : BatchColumns)
    (key : Int) (ok : Bool) (id : Int) :
    (f.step stores db key ok).2.2 .userQuota id = db .userQuota id +
      if ok = true ∧ f.writes .userQuota = true ∧ id = key then f.held .userQuota id else 0 := by
  cases f with
  | scan rest =>
    cases rest with
    | nil => simp [step, writes]
    | cons type rest =>
      simp only [step]
      split_ifs <;> simp_all [writes]
  | swap rest taken => cases rest <;> simp [step, writes]
  | writeTokens taken | writeChannels taken =>
    simp only [step, writes]
    split_ifs <;> simp_all [credit_apply]
  | writeUsers taken =>
    simp only [step]
    by_cases hempty : (taken .userQuota).entries.isEmpty ∧ (taken .usedQuota).entries.isEmpty ∧
        (taken .requestCount).entries.isEmpty
    · rw [if_pos hempty]
      simp [held, value_of_isEmpty id hempty.1]
    rw [if_neg hempty]
    simp only [updateUser_apply (fun type => (taken type).value key), writes,
      held]
    by_cases hkey : id = key
    · subst hkey
      simp [BatchUpdateType.isUser]
    · simp [hkey]
  | done => simp [step, writes]

/-! ### Operations -/

section

variable {cfg : QuotaSettings} {perUnit : ℚ} {id : Int} {a a' : Account}

/-- What an operation keeps: the ceiling, and with it the refusal of credits beyond it. -/
structure WithinCeiling (cfg : QuotaSettings) (perUnit : ℚ) (id : Int) (a : Account)
    (op : AccountOp) : Prop where
  quota_le : (accountStep cfg perUnit id a op).wallet.dbQuota id ≤ maxWalletQuota
  refuses : RefusesOver cfg perUnit id a op

variable (h : a.wallet.dbQuota id ≤ maxWalletQuota)
include h

/-- An operation that is one transaction: it is enough that it moves the row within the ceiling, and
that it does not run with a credit beyond it. -/
theorem WithinCeiling.of_move {redis : Bool} {guard : Int → Int → Prop} {op : AccountOp}
    (hmove : AccountMove cfg id redis a guard (accountStep cfg perUnit id a op))
    (hle : ∀ v c, guard v c → a.wallet.dbQuota id + v ≤ maxWalletQuota)
    (hover : ∀ v c, guard v c → ∀ v' ∈ op.credit cfg perUnit id a,
      ¬ maxWalletQuota < a.wallet.dbQuota id + v') :
    WithinCeiling cfg perUnit id a op := by
  refine ⟨?_, fun v' hv' hlt => ?_⟩ <;>
    generalize accountStep cfg perUnit id a op = a' at hmove ⊢
  · cases hmove with
    | refused => exact h
    | @moved _ v c hguard hbatch =>
      have hquota : a'.wallet.dbQuota id = a.wallet.dbQuota id + v := by
        rw [← dbQuota_addQuota]
        simp [Wallet.dbQuota, hbatch]
      rw [hquota]
      exact hle v c hguard
  · cases hmove with
    | refused => exact .refl id a
    | moved hguard => exact absurd hlt (hover _ _ hguard v' hv')

theorem WithinCeiling.call {c : WalletCall} {replies : ℕ → StoreReply} :
    WithinCeiling cfg perUnit id a (.call c replies) := by
  refine ⟨dbQuota_call_le c h, fun v hv hover => ?_⟩
  cases c with
  | tryReserve quota => cases hv
  | decrease quota db => cases hv
  | increase quota db =>
    simp only [AccountOp.credit] at hv
    split_ifs at hv with hdirect
    · cases hv
    · obtain rfl := some.inj hv
      simp only [accountStep, call_increase_over hdirect hover]
      exact .refl id a

theorem WithinCeiling.flush {k : ℕ} {key : Int} {ok : Bool}
    (hop : CeilingOp perUnit id a (.flush k key ok)) :
    WithinCeiling cfg perUnit id a (.flush k key ok) := by
  cases hk : a.wallet.batch.flushes[k]? with
  | none =>
    have hsame : batchStep a.wallet.batch (.flush k key ok) = a.wallet.batch := by
      simp [batchStep, hk]
    refine ⟨?_, fun v hv _ => ?_⟩
    · simp only [accountStep, hsame]
      exact h
    · simp only [AccountOp.credit, hk] at hv
      cases hv
  | some f =>
    have hquota : (accountStep cfg perUnit id a (.flush k key ok)).wallet.dbQuota id =
        a.wallet.dbQuota id + if ok = true ∧ f.writes .userQuota = true ∧ id = key then
          f.held .userQuota id else 0 := by
      simp only [accountStep, Wallet.dbQuota, persisted, batchStep, hk]
      exact f.step_userQuota _ _ key ok id
    by_cases hwrites : ok = true ∧ f.writes .userQuota = true ∧ id = key
    · rw [if_pos hwrites] at hquota
      have hroom := hop hwrites.1 f hk hwrites.2.1 hwrites.2.2
      refine ⟨by rw [hquota]; exact hroom, fun v hv hover => ?_⟩
      simp only [AccountOp.credit, hk, if_pos hwrites.2] at hv
      obtain rfl := some.inj hv
      omega
    · rw [if_neg hwrites, add_zero] at hquota
      exact ⟨by rw [hquota]; exact h, fun _ _ _ => ⟨hquota, rfl, rfl, rfl⟩⟩

/-- **One operation** keeps the ceiling and refuses credits beyond it. -/
theorem withinCeiling_step {op : AccountOp}
    (hop : CeilingOp perUnit id a op) : WithinCeiling cfg perUnit id a op := by
  cases op with
  | call c replies => exact .call h
  | topUp e redis =>
    refine .of_move h (topUpAccount_move cfg perUnit id a e redis) ?_ ?_
    · rintro v c ⟨-, order, -, ⟨rfl, -⟩ | ⟨-, hroom⟩⟩
      · omega
      · exact hroom
    rintro v c ⟨-, order, hfind, ⟨-, hoffer⟩ | ⟨hoffer, hroom⟩⟩ v' hv' <;>
      simp only [AccountOp.credit, hfind, hoffer] at hv'
    · cases hv'
    · obtain rfl := some.inj hv'
      omega
  | redeem ans now redis key =>
    refine .of_move h (redeem_move cfg id a ans now redis key) ?_ ?_
    · rintro v c ⟨-, code, -, -, hroom⟩
      exact hroom
    rintro v c ⟨-, code, hfind, rfl, hroom⟩ v' hv'
    simp only [AccountOp.credit, hfind] at hv'
    obtain rfl := some.inj hv'
    omega
  | checkin setting sqlite ans today random =>
    refine .of_move h (userCheckin_move cfg id a setting sqlite ans today random) ?_ ?_
    · rintro v c ⟨-, hacc, ⟨-, rfl, -⟩ | ⟨-, -, hroom⟩ | ⟨hsqlite, rfl, hupdate, hcommit⟩⟩
      · omega
      · exact hroom
      · exact (hop hacc).2 hsqlite hupdate hcommit
    rintro v c ⟨-, hacc, hcase⟩ v' hv' hover
    obtain rfl := some.inj hv'
    rcases hcase with ⟨hsqlite, -, hdelete⟩ | ⟨-, rfl, hroom⟩ | ⟨hsqlite, -, hupdate, hcommit⟩
    · rw [(hop hacc).1 hsqlite hover] at hdelete
      cases hdelete
    · omega
    · have hroom := (hop hacc).2 hsqlite hupdate hcommit
      omega
  | transferAff ans quota =>
    refine .of_move h (transferAffQuotaToQuota_move cfg perUnit id a ans quota) ?_ ?_
    · rintro v c ⟨-, rfl, hacc⟩
      exact hop hacc
    · rintro v c ⟨-, rfl, hacc⟩ v' hv'
      obtain rfl := some.inj hv'
      exact not_lt.mpr (hop hacc)
  | adjust ans operatorRole mode value =>
    refine .of_move h (adjustUserQuota_move cfg id a ans operatorRole mode value) ?_ ?_
    · rintro v c ⟨-, -, hroom⟩
      exact hroom
    · rintro v c ⟨-, htarget, hroom⟩ v' hv'
      obtain rfl := some.inj hv'
      omega
  | purchase ans planId plan =>
    refine .of_move h
      (purchaseSubscriptionWithBalance_move cfg perUnit id a ans planId plan) ?_ ?_
    · rintro v c ⟨-, hv⟩
      omega
    · rintro v c - v' hv'
      cases hv'
  | startFlush => exact ⟨h, fun v hv => by cases hv⟩
  | flush k key ok => exact .flush h hop

end

/-- **Wallet ceiling.** Start with a quota within the ceiling and run any credits and debits. If the
operations without a check meet `CeilingOp`, the quota of the row is within the ceiling afterwards,
and at every step a credit beyond the ceiling changed neither the quota nor any order, code or
record. -/
theorem wallet_ceiling (cfg : QuotaSettings) (perUnit : ℚ) (id : Int) {a : Account}
    (hquota : a.wallet.dbQuota id ≤ maxWalletQuota) {ops : List AccountOp}
    (hops : Along (accountStep cfg perUnit id) (CeilingOp perUnit id) a ops) :
    (run (accountStep cfg perUnit id) a ops).wallet.dbQuota id ≤ maxWalletQuota ∧
      Along (accountStep cfg perUnit id) (RefusesOver cfg perUnit id) a
        ops := by
  have hstep : ∀ (a : Account) (op : AccountOp), a.wallet.dbQuota id ≤ maxWalletQuota →
      CeilingOp perUnit id a op → WithinCeiling cfg perUnit id a op :=
    fun _ _ h hop => withinCeiling_step h hop
  have hkept := fun a op h hop => (hstep a op h hop).quota_le
  exact ⟨run_induction hkept hquota hops,
    along_of_invariant hkept (fun a op h hop => (hstep a op h hop).refuses) hquota hops⟩

/-- A user whose quota is at the ceiling, with affiliate quota and a redemption code. -/
def fullAccount : Account where
  wallet := ⟨⟨fun _ => ∅, [], fun _ _ => maxWalletQuota⟩, 1, ⟨none, 0, 0⟩⟩
  email := ""
  stripeCustomer := ""
  affQuota := 500000
  role := 1
  orders := ⟨[], nodup_nil⟩
  codes := ⟨[⟨"gift", .enabled, 40, 0, 0, 0⟩], nodup_singleton _⟩
  checkins := []

def redeemedAfterDebit : List AccountOp :=
  [.redeem .allOk 100 true "gift", .call (.decrease 40 true) fun _ => ⟨true, true⟩,
    .redeem .allOk 200 true "gift"]

theorem wallet_ceiling_redeemedAfterDebit :
    (run (accountStep ⟨true, true⟩ 500000 1) fullAccount redeemedAfterDebit).wallet.dbQuota 1 ≤
        maxWalletQuota ∧
      Along (accountStep ⟨true, true⟩ 500000 1) (RefusesOver ⟨true, true⟩ 500000 1) fullAccount
        redeemedAfterDebit :=
  wallet_ceiling ⟨true, true⟩ 500000 1 (by decide) ⟨trivial, trivial, trivial, trivial⟩

/-- A check-in in a transaction, a transfer, and a batched credit with its flush, each at the
ceiling: all three go beyond it. -/
theorem unchecked_credits : fullAccount.wallet.dbQuota 1 = maxWalletQuota ∧
      (accountStep ⟨true, true⟩ 500000 1 fullAccount (.checkin ⟨true, 1000, 10000⟩ false
        ⟨true, true, true, true, true, true⟩ "2026-01-01" 0)).wallet.dbQuota 1 =
          maxWalletQuota + 1000 ∧
      (accountStep ⟨true, true⟩ 500000 1 fullAccount (.transferAff ⟨true, true, true, true, true⟩
        500000)).wallet.dbQuota 1 = maxWalletQuota + 500000 ∧
      (run (accountStep ⟨true, true⟩ 500000 1) fullAccount
        (.call (.increase 7 false) (fun _ => ⟨true, true⟩) :: .startFlush ::
          replicate 10 (.flush 0 1 true))).wallet.dbQuota 1 = maxWalletQuota + 7 := by
  refine ⟨rfl, by decide +kernel, by decide +kernel, by decide +kernel⟩

end NewApi.Model
