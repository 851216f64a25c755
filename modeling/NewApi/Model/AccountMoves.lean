import NewApi.Model.Account
import NewApi.Model.QuotaSafety
import NewApi.Model.TopUpOrder

/-!
# What an operation does to the wallet

Each operation on an account that is one transaction moves the quota of the user row by some amount
and then the cached balance by some amount, or it changes nothing at all. One lemma per operation
says which amounts these are and what has been checked before; the results about whole histories use
these lemmas only.
-/

namespace NewApi.Model

open Common Tx

/-- An operation changes nothing, or moves the row by `v` and the cached balance by `c`, with what
`guard` says about the two. The cached balance is only known if Redis is there. -/
inductive AccountMove (cfg : QuotaSettings) (id : Int) (redis : Bool) (a : Account)
    (guard : Int → Int → Prop) : Account → Prop
  | refused : AccountMove cfg id redis a guard a
  | moved {a' : Account} {v c : Int} (hguard : guard v c)
      (hbatch : a'.wallet.batch = (a.wallet.addQuota id v).batch)
      (hcache : cfg.redisEnabled = true → redis = true →
        cachedQuota a'.wallet.cache id = (cachedQuota a.wallet.cache id).map (· + c)) :
      AccountMove cfg id redis a guard a'

@[simp] theorem addQuota_zero (w : Wallet) (id : Int) : w.addQuota id 0 = w := by
  have hdb : w.batch.db.credit .userQuota id 0 = w.batch.db := by
    funext type id'
    rw [credit_apply]
    simp
  simp [Wallet.addQuota, hdb]

@[simp] theorem dbQuota_addQuota (w : Wallet) (id v : Int) :
    (w.addQuota id v).dbQuota id = w.dbQuota id + v := by
  simp [Wallet.dbQuota, Wallet.addQuota, persisted, credit_apply, and_self]

theorem setPayingUser_wallet (a : Account) (id : Int) {user : PayingUser} {v : Int}
    (h : user.quota = a.wallet.dbQuota id + v) :
    (a.setPayingUser id user).wallet = a.wallet.addQuota id v := by
  have hv : user.quota - a.wallet.dbQuota id = v := by omega
  simp [Account.setPayingUser, hv]

section

variable {cfg : QuotaSettings} (id : Int) {ans : StoreReply} (w : Wallet) (delta : Int)

@[simp] theorem cacheIncrUserQuota_batch :
    (cacheIncrUserQuota cfg id ans w delta).batch = w.batch := by
  unfold cacheIncrUserQuota
  split_ifs <;> rfl

theorem cachedQuota_cacheIncr (hon : cfg.redisEnabled = true)
    (hredis : ans.redis = true) :
    cachedQuota (cacheIncrUserQuota cfg id ans w delta).cache id =
      (cachedQuota w.cache id).map (· + delta) := by
  rw [cacheIncrUserQuota, if_pos ⟨hon, hredis⟩]
  exact cachedQuota_apply _ _ _

end

section

variable {cfg : QuotaSettings} {id : Int} {redis : Bool} {a a' : Account}
  {guard : Int → Int → Prop}

theorem AccountMove.mono {guard' : Int → Int → Prop}
    (hmove : AccountMove cfg id redis a guard a') (h : ∀ v c, guard v c → guard' v c) :
    AccountMove cfg id redis a guard' a' := by
  cases hmove with
  | refused => exact .refused
  | moved hguard hbatch hcache => exact .moved (h _ _ hguard) hbatch hcache

theorem AccountMove.unless {α : Type*} {c : Prop} [Decidable c] {e : α} {r : α × Account}
    (h : AccountMove cfg id redis a guard r.2) :
    AccountMove cfg id redis a guard (if c then (e, a) else r).2 := by
  by_cases hc : c
  · rw [if_pos hc]
    exact .refused
  · rw [if_neg hc]
    exact h

variable {v : Int}

theorem AccountMove.of_row (hguard : guard v 0)
    (hwallet : a'.wallet = a.wallet.addQuota id v) : AccountMove cfg id redis a guard a' := by
  refine .moved hguard (by rw [hwallet]) fun _ _ => ?_
  rw [hwallet]
  simp

theorem AccountMove.of_cacheIncr (hguard : guard v v)
    (hwallet : a'.wallet = a.wallet.addQuota id v) :
    AccountMove cfg id redis a guard (a'.cacheIncr id cfg redis v) := by
  refine .moved hguard ?_ fun hon hredis => ?_
  · simp [Account.cacheIncr, cacheIncrUserQuota_batch, hwallet]
  · simp only [Account.cacheIncr]
    rw [cachedQuota_cacheIncr id _ v hon hredis, hwallet, addQuota_cache]

theorem AccountMove.of_syncCredit (hguard : guard v v) (hv : 0 < v)
    (hwallet : a'.wallet = a.wallet.addQuota id v) :
    AccountMove cfg id redis a guard (a'.syncCredit id cfg redis v) := by
  rw [Account.syncCredit, if_neg (by omega)]
  exact .of_cacheIncr hguard hwallet

end

variable (cfg : QuotaSettings) (perUnit : ℚ) (id : Int) (a : Account)

theorem topUpAccount_move (e : TopUpEvent) (redis : Bool) : AccountMove cfg id redis a
      (fun v c => c = v ∧ ∃ topUp, a.orders.find e.call.tradeNo = some topUp ∧
        (v = 0 ∧ e.call.offer perUnit topUp = none ∨
          e.call.offer perUnit topUp = some (.ok v) ∧
            a.wallet.dbQuota id + v ≤ maxWalletQuota))
      (topUpAccount cfg perUnit id a e redis) := by
  unfold topUpAccount
  rcases hfind : a.orders.find e.call.tradeNo with - | topUp
  · exact .refused
  have hmove := topUpCall_move perUnit ⟨topUp, some (a.payingUser id)⟩ e
  simp only
  generalize topUpCall perUnit ⟨topUp, some (a.payingUser id)⟩ e = r at hmove
  obtain ⟨r, y⟩ := r
  cases hmove with
  | rejected err => exact .refused
  | kept =>
    have hsave : a.orders.save topUp = a.orders :=
      Table.save_of_find ((Table.mem_of_find hfind).2 ▸ hfind)
    have hsame : (Account.setPayingUser { a with orders := a.orders.save topUp } id
        (a.payingUser id)).syncCredit id cfg redis 0 = a := by
      simp [Account.syncCredit, Account.setPayingUser, Account.payingUser, hsave, addQuota_zero]
    simp only [hsame]
    exact .refused
  | closed hoffer =>
    exact .of_row ⟨rfl, topUp, rfl, .inl ⟨rfl, hoffer⟩⟩
      (setPayingUser_wallet { a with orders := _ } id (add_zero _).symm)
  | credited hoffer hpend hquota huser hroom hdone htradeNo huserId hquota' =>
    obtain rfl := Option.some.inj huser
    exact .of_syncCredit ⟨rfl, topUp, rfl, .inr ⟨hoffer, hroom⟩⟩ hquota
      (setPayingUser_wallet { a with orders := _ } id hquota')

theorem redeem_move (ans : TopUpReply) (now : Int) (redis : Bool) (key : String) :
    AccountMove cfg id redis a
      (fun v c => c = v ∧ ∃ code, a.codes.find key = some code ∧ code.quota = v ∧
        a.wallet.dbQuota id + v ≤ maxWalletQuota)
      (redeem cfg id a ans now redis key).2 := by
  refine .unless (.unless ?_)
  generalize hr : transaction _ (redeemBody id ans now key) a = r
  obtain ⟨e | quota, a'⟩ := r
  · obtain rfl := eq_of_transaction_error hr
    exact .refused
  obtain ⟨-, hexec⟩ := transaction_ok_iff.mp hr
  rw [redeemBody, exec_get_bind] at hexec
  rcases hfind : a.codes.find key with - | code
  · simp only [hfind] at hexec
    cases hexec
  simp only [hfind, exec_ensure_bind_ok_iff] at hexec
  obtain ⟨-, -, -, -, hrest⟩ := hexec
  cases hcredit : creditTopUpQuota ans code.quota (fun user => user) (some (a.payingUser id)) with
  | error e =>
    simp only [hcredit] at hrest
    cases hrest
  | ok user =>
    obtain ⟨hquota, -, user₀, huser, hroom, rfl⟩ := creditTopUpQuota_ok_iff.mp hcredit
    obtain rfl := Option.some.inj huser
    simp only [hcredit] at hrest
    cases hrest
    exact .of_syncCredit ⟨rfl, code, rfl, rfl, hroom⟩ hquota.1
      (setPayingUser_wallet { a with codes := _ } id rfl)

def CheckinAccepted (setting : CheckinSetting) (ans : CheckinReply) (today : String) : Prop :=
  setting.enabled = true ∧ ans.query = true ∧ ans.create = true ∧ today ∉ a.checkins
  deriving Decidable

theorem userCheckinWithTransaction_move {ans : CheckinReply} {today : String} {award : Int} :
    AccountMove cfg id ans.redis a
      (fun v c => c = v ∧ v = award ∧ ans.create = true ∧ ans.update = true ∧
        ans.commit = true)
      (userCheckinWithTransaction cfg id a ans today award).2 := by
  unfold userCheckinWithTransaction
  generalize hr : transaction (if ans.commit then none else some CheckinError.database) _ a = r
  obtain ⟨e | _, a'⟩ := r
  · obtain rfl := eq_of_transaction_error hr
    exact .refused
  obtain ⟨hcommit, hexec⟩ := transaction_ok_iff.mp hr
  simp only [exec_get_bind, exec_ensure_bind_ok_iff, exec_modify_bind] at hexec
  obtain ⟨hcreate, hupdate, hmodify⟩ := hexec
  cases hmodify
  have hcommit' : ans.commit = true := by
    split_ifs at hcommit with h
    exact h
  exact .of_cacheIncr ⟨rfl, rfl, hcreate.1, hupdate, hcommit'⟩ rfl

/-- A check-in without a transaction checks the ceiling; if it cannot delete its record, the record
stays without the credit. -/
theorem userCheckinWithoutTransaction_move {ans : CheckinReply} {today : String} {award : Int} :
    AccountMove cfg id ans.redis a (fun v c => c = v ∧ ans.create = true ∧
        (v = 0 ∧ ans.delete = false ∨ v = award ∧ a.wallet.dbQuota id + v ≤ maxWalletQuota))
      (userCheckinWithoutTransaction cfg id a ans today award).2 := by
  unfold userCheckinWithoutTransaction
  by_cases hrejected : ans.create = false ∨ today ∈ a.checkins
  · rw [if_pos hrejected]
    exact .refused
  have hcreate : ans.create = true := Bool.not_eq_false _ ▸ fun h => hrejected (.inl h)
  -- a failed credit takes the record back, if the delete takes effect
  have hundone : AccountMove cfg id ans.redis a (fun v c => c = v ∧ ans.create = true ∧
        (v = 0 ∧ ans.delete = false ∨ v = award ∧ a.wallet.dbQuota id + v ≤ maxWalletQuota))
      (if ans.delete then { a with checkins := (today :: a.checkins).erase today }
        else { a with checkins := today :: a.checkins }) := by
    cases hdelete : ans.delete with
    | true =>
      simp only [List.erase_cons_head]
      exact .refused
    | false => exact .of_row ⟨rfl, hcreate, .inl ⟨rfl, rfl⟩⟩ (addQuota_zero _ _).symm
  rw [if_neg hrejected]
  simp only [increaseUserQuota]
  by_cases hbad : award < 0 ∨ validateWalletQuota award = false
  · rw [if_pos hbad]
    exact hundone
  rw [if_neg hbad]
  by_cases hroom : ans.update = true ∧ a.wallet.dbQuota id ≤ maxWalletQuota - award
  · rw [if_pos hroom]
    have hle : a.wallet.dbQuota id + award ≤ maxWalletQuota := by omega
    exact .of_cacheIncr ⟨rfl, hcreate, .inr ⟨rfl, hle⟩⟩ rfl
  · rw [if_neg hroom]
    exact hundone

theorem userCheckin_move (setting : CheckinSetting) (sqlite : Bool) (ans : CheckinReply)
    (today : String) (random : ℕ) :
    AccountMove cfg id ans.redis a
      (fun v c => c = v ∧ CheckinAccepted a setting ans today ∧
        (sqlite = true ∧ v = 0 ∧ ans.delete = false ∨
          sqlite = true ∧ v = setting.quotaAwarded random ∧
            a.wallet.dbQuota id + v ≤ maxWalletQuota ∨
          sqlite = false ∧ v = setting.quotaAwarded random ∧ ans.update = true ∧
            ans.commit = true))
      (userCheckin cfg id a setting sqlite ans today random).2 := by
  have hacc (hon : ¬ setting.enabled = false) (hquery : ¬ ans.query = false)
      (hchecked : today ∉ a.checkins) (hcreate : ans.create = true) :
      CheckinAccepted a setting ans today :=
    ⟨Bool.not_eq_false _ ▸ hon, Bool.not_eq_false _ ▸ hquery, hcreate, hchecked⟩
  fun_cases userCheckin cfg id a setting sqlite ans today random with
  | case4 hon hquery hchecked hsqlite =>
    refine (userCheckinWithoutTransaction_move cfg id a).mono ?_
    rintro v c ⟨hc, hcreate, hreply⟩
    refine ⟨hc, hacc hon hquery hchecked hcreate, ?_⟩
    rcases hreply with ⟨hv, hdelete⟩ | ⟨hv, hroom⟩
    · exact .inl ⟨hsqlite, hv, hdelete⟩
    · exact .inr (.inl ⟨hsqlite, hv, hroom⟩)
  | case5 hon hquery hchecked hsqlite =>
    refine (userCheckinWithTransaction_move cfg id a).mono ?_
    rintro v c ⟨hc, hv, hcreate, hupdate, hcommit⟩
    exact ⟨hc, hacc hon hquery hchecked hcreate,
      .inr (.inr ⟨Bool.not_eq_true _ ▸ hsqlite, hv, hupdate, hcommit⟩)⟩
  | _ => exact .refused

def TransferAccepted (ans : RowReply) (quota : Int) : Prop :=
  perUnit ≤ quota ∧ quota ≤ a.affQuota ∧ ans.find = true ∧ ans.update = true ∧
    ans.commit = true
  deriving Decidable

theorem RowReply.commitError_eq_none {ans : RowReply} :
    ans.commitError = none ↔ ans.commit = true := by
  unfold RowReply.commitError
  split_ifs with h <;> simp [h]

theorem transferAffQuotaToQuota_move (ans : RowReply) (quota : Int) :
    AccountMove cfg id ans.redis a
      (fun v c => c = 0 ∧ v = quota ∧ TransferAccepted perUnit a ans quota)
      (transferAffQuotaToQuota perUnit id a ans quota).2 := by
  unfold transferAffQuotaToQuota
  by_cases hmin : (quota : ℚ) < perUnit
  · rw [if_pos hmin]
    exact .refused
  rw [if_neg hmin]
  generalize hr : transaction ans.commitError _ a = r
  obtain ⟨e | _, a'⟩ := r
  · obtain rfl := eq_of_transaction_error hr
    exact .refused
  obtain ⟨hcommit, hexec⟩ := transaction_ok_iff.mp hr
  simp only [exec_get_bind, exec_ensure_bind_ok_iff] at hexec
  obtain ⟨hfind, haff, hupdate, hmodify⟩ := hexec
  cases hmodify
  have hacc : TransferAccepted perUnit a ans quota :=
    ⟨not_lt.mp hmin, haff, hfind, hupdate, RowReply.commitError_eq_none.mp hcommit⟩
  exact .of_row ⟨rfl, rfl, hacc⟩ rfl

theorem adjustUserQuota_move (ans : RowReply) (operatorRole : Int) (mode : AdjustMode)
    (value : Int) :
    AccountMove cfg id ans.redis a
      (fun v c => c = v ∧ a.wallet.dbQuota id + v = mode.target (a.wallet.dbQuota id) value ∧
        a.wallet.dbQuota id + v ≤ maxWalletQuota)
      (adjustUserQuota cfg id a ans operatorRole mode value).2 := by
  refine .unless (.unless (.unless ?_))
  generalize hr : transaction ans.commitError _ a = r
  obtain ⟨e | delta, a'⟩ := r
  · obtain rfl := eq_of_transaction_error hr
    exact .refused
  obtain ⟨-, hexec⟩ := transaction_ok_iff.mp hr
  simp only [adjustBody, exec_get_bind, exec_ensure_bind_ok_iff] at hexec
  obtain ⟨-, -, -, hrest⟩ := hexec
  cases hstrict : walletQuotaFromDecimalStrict (mode.target (a.wallet.dbQuota id) value : Int) with
  | error clamp =>
    simp only [hstrict] at hrest
    cases hrest
  | ok after =>
    obtain ⟨hafter, -, hroom⟩ := walletQuotaFromDecimalStrict_ok_iff.mp hstrict
    rw [roundHalfAway_intCast] at hafter
    simp only [hstrict, exec_ensure_bind_ok_iff] at hrest
    cases hrest.2
    have hguard : a.wallet.dbQuota id + (after - a.wallet.dbQuota id) =
        mode.target (a.wallet.dbQuota id) value ∧
        a.wallet.dbQuota id + (after - a.wallet.dbQuota id) ≤ maxWalletQuota := by omega
    simp only
    split_ifs with hzero
    · refine .of_row (v := after - a.wallet.dbQuota id) ⟨hzero.symm, hguard⟩ rfl
    · exact .of_cacheIncr ⟨rfl, hguard⟩ rfl

theorem purchaseSubscriptionWithBalance_move (ans : RowReply) (planId : Int)
    (plan : Option BalancePlan) :
    AccountMove cfg id ans.redis a (fun v c => c = v ∧ v ≤ 0)
      (purchaseSubscriptionWithBalance cfg perUnit id a ans planId plan).2 := by
  refine .unless ?_
  rcases plan with - | plan
  · exact .refused
  simp only
  generalize hr : transaction ans.commitError (purchaseBody perUnit id ans plan) a = r
  obtain ⟨e | charged, a'⟩ := r
  · obtain rfl := eq_of_transaction_error hr
    exact .refused
  obtain ⟨-, hexec⟩ := transaction_ok_iff.mp hr
  simp only [purchaseBody, exec_get_bind, exec_ensure_bind_ok_iff, exec_attempt_bind_ok_iff,
    exec_modify_bind] at hexec
  obtain ⟨-, -, -, _, -, -, -, -, -, hret⟩ := hexec
  cases hret
  by_cases hfree : charged ≤ 0
  · simp only [if_pos hfree]
    exact .refused
  · simp only [if_neg hfree]
    have hcharge : -charged ≤ 0 := by omega
    exact .of_cacheIncr ⟨rfl, hcharge⟩ rfl

/-! ### Redemption codes -/

open StepSystem Table

structure RedeemCall where
  id : Int
  reply : TopUpReply
  now : Int
  redis : Bool
  key : String

def RedeemCall.result (c : RedeemCall) : Except RedeemError Int × Account :=
  redeem cfg c.id a c.reply c.now c.redis c.key

theorem RedeemCall.result_cases (c : RedeemCall) :
    (∃ e, c.result cfg a = (.error e, a)) ∨
      ∃ quota a' code code', c.result cfg a = (.ok quota, a') ∧
        a.codes.find c.key = some code ∧ code.status = .enabled ∧ code'.key = code.key ∧
        code'.status = .used ∧ a'.codes = a.codes.save code' := by
  rw [result]
  fun_cases redeem cfg c.id a c.reply c.now c.redis c.key with
  | case3 _ _ e a' h =>
    obtain rfl := eq_of_transaction_error h
    exact .inl ⟨_, rfl⟩
  | case4 _ _ quota a' h =>
    obtain ⟨-, hexec⟩ := transaction_ok_iff.mp h
    rw [redeemBody, exec_get_bind] at hexec
    split at hexec
    next => cases hexec
    next code hfind =>
      simp only [exec_ensure_bind_ok_iff] at hexec
      obtain ⟨-, hon, -, -, hrest⟩ := hexec
      rw [exec_modify_bind] at hrest
      split at hrest <;> cases hrest
      refine .inr ⟨_, _, code, { code with
        status := .used, redeemedTime := c.now, usedUserId := c.id }, rfl, hfind, hon, rfl,
        rfl, ?_⟩
      unfold Account.syncCredit
      split_ifs <;> rfl
  | _ => exact .inl ⟨_, rfl⟩

def Account.redeemable (key : String) : ℕ :=
  if (a.codes.find key).any (·.status = .enabled) then 1 else 0

/-- **A code is redeemed once.** Whoever presents codes, in whatever order, and whatever fails, at
most one of the calls with a key redeems its code, and none if the code was not enabled before. -/
theorem code_redeemed_once (key : String) (calls : List RedeemCall) :
    sumAlong (fun a c => (c.result cfg a).2)
      (fun a c => if c.key = key ∧ (c.result cfg a).1.isOk then 1 else 0) a calls ≤
        a.redeemable key := by
  -- the code pays for the call that redeems it
  refine Nat.le_of_add_right_le (sumAlong_add_le (m := (·.redeemable key)) ?_
    (along_of_forall (fun _ _ => trivial) a calls))
  rintro a c -
  obtain ⟨e, h⟩ | ⟨quota, a', code, code', h, hfind, hon, hkey, hused, ha'⟩ :=
    c.result_cases cfg a
  · simp [h, Except.isOk, Except.toBool]
  have hc : code'.key = c.key := hkey.trans (mem_of_find hfind).2
  rw [← hc] at hfind
  simp only [h, Account.redeemable, ha', ← hc]
  by_cases heq : code'.key = key
  · subst heq
    simp [find_save_of_find hfind rfl, hfind, hon, hused, Except.isOk, Except.toBool]
  · simp [heq, find_save_of_ne (Ne.symm heq)]

end NewApi.Model
