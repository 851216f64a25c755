import NewApi.Foundation.Table
import NewApi.Model.QuotaReserve
import NewApi.Model.TopUp

/-!
# The operations on one wallet

Everything that moves the wallet quota of one user, one operation after the other: the calls of
`NewApi.Model.QuotaReserve`, each with its goroutine run to the end, the callbacks on the user's
top-up orders, redemption codes (`model/redemption.go`), check-ins (`model/checkin.go`), the
transfer of affiliate quota (`model/user.go`), manual adjustments
(`model/user_quota_adjustment.go`), the purchase of a subscription from the balance
(`model/subscription.go`) and the flushes of the batch updater. The row of the user exists
throughout.
-/

namespace NewApi.Model

open Common Tx

inductive RedemptionStatus
  | enabled
  | disabled
  | used
  deriving DecidableEq, Repr

structure Redemption where
  key : String
  status : RedemptionStatus
  quota : Int
  expiredTime : Int
  redeemedTime : Int
  usedUserId : Int

/-- The user with everything that can move the wallet: the wallet, further columns of the user row,
the user's orders, the redemption codes, and the dates of the user's check-ins. -/
structure Account where
  wallet : Wallet
  email : String
  stripeCustomer : String
  affQuota : Int
  role : Int
  orders : Table TopUp.tradeNo
  codes : Table Redemption.key
  checkins : List String

namespace Account

variable (a : Account) (id : Int)

def payingUser : PayingUser := ⟨a.wallet.dbQuota id, a.email, a.stripeCustomer⟩

def setPayingUser (user : PayingUser) : Account :=
  { a with
    wallet := a.wallet.addQuota id (user.quota - a.wallet.dbQuota id)
    email := user.email
    stripeCustomer := user.stripeCustomer }

def addQuota (v : Int) : Account := { a with wallet := a.wallet.addQuota id v }

/-- `cacheIncrUserQuota`, after the commit. -/
def cacheIncr (cfg : QuotaSettings) (redis : Bool) (delta : Int) : Account :=
  { a with wallet := cacheIncrUserQuota cfg id ⟨redis, true⟩ a.wallet delta }

/-- `syncCreditUserQuotaCache`.

Source: `model/user_cache.go`. -/
def syncCredit (cfg : QuotaSettings) (redis : Bool) (quota : Int) : Account :=
  if quota ≤ 0 then a else a.cacheIncr id cfg redis quota

end Account

/-! ### Calls run to their end -/

def QuotaThread.drain (cfg : QuotaSettings) (id : Int) (replies : ℕ → StoreReply) :
    ℕ → QuotaThread → Wallet → QuotaThread × Wallet
  | 0, t, w => (t, w)
  | n + 1, t, w =>
    let r := t.step cfg id (replies n) w
    drain cfg id replies n r.1 r.2

theorem QuotaThread.drain_done (cfg : QuotaSettings) (id : Int) (replies : ℕ → StoreReply)
    (n : ℕ) (w : Wallet) : (QuotaThread.drain cfg id replies n .done w).2 = w := by
  induction n with
  | zero => rfl
  | succ n ih => exact ih

def HydrateState.rank : HydrateState → ℕ
  | readCache => 4
  | readRow => 3
  | readFloor _ => 2
  | populate _ => 1
  | returned _ => 0

def ReserveState.rank : ReserveState → ℕ
  | script => 9
  | hydrate h => h.rank + 4
  | retry => 3
  | persist => 2
  | reserveDB | compensate => 1
  | returned _ => 0

def QuotaThread.rank : QuotaThread → ℕ
  | tryReserve _ s => s.rank
  | getUserCache h => h.rank
  | increase _ _ => 2
  | decrease _ _ | cacheIncr _ => 1
  | done => 0



section

variable (cfg : QuotaSettings) (id : Int) (ans : StoreReply) (w : Wallet)

theorem HydrateState.rank_step (h : HydrateState) :
    (h.step cfg id ans w).1.rank ≤ h.rank - 1 := by
  cases h with
  | readCache | readRow | readFloor user =>
    simp only [HydrateState.step]
    split_ifs <;> simp [HydrateState.rank]
  | populate user =>
    simp only [HydrateState.step]
    split_ifs
    · simp [HydrateState.rank]
    · split <;> simp [HydrateState.rank]
  | returned ok => simp [HydrateState.step, HydrateState.rank]

theorem reserveScript_rank (quota : Int64) (onMiss : ReserveState) :
    (reserveScript id ans w quota onMiss).1.rank ≤ max 2 onMiss.rank := by
  simp only [reserveScript]
  split_ifs
  · simp [ReserveState.rank]
  · split <;> simp [ReserveState.rank]

theorem ReserveState.rank_step (quota : Int64) (s : ReserveState) :
    (s.step cfg id ans w quota).1.rank ≤ s.rank - 1 := by
  cases s with
  | script => exact reserveScript_rank id ans w quota (.hydrate .readCache)
  | hydrate h =>
    have hrank := h.rank_step cfg id ans w
    simp only [step]
    generalize h.step cfg id ans w = r at hrank
    obtain ⟨h', w'⟩ := r
    cases h' with
    | returned ok => cases ok <;> simp [ReserveState.rank]
    | readCache | readRow | readFloor user | populate user =>
      simp only [HydrateState.rank, ReserveState.rank] at hrank ⊢
      omega
  | retry => exact reserveScript_rank id ans w quota .reserveDB
  | reserveDB | compensate | returned granted => simp [step, ReserveState.rank]
  | persist =>
    simp only [step]
    split <;> simp [ReserveState.rank]

theorem QuotaThread.rank_step (t : QuotaThread) :
    (t.step cfg id ans w).1.rank ≤ t.rank - 1 := by
  cases t with
  | tryReserve quota s => exact s.rank_step cfg id ans w quota
  | getUserCache h => exact h.rank_step cfg id ans w
  | increase quota db =>
    simp only [step]
    split_ifs
    · simp [rank]
    · split <;> simp [rank]
  | decrease quota db =>
    simp only [step]
    split_ifs <;> simp [rank]
  | cacheIncr delta | done => simp [step, rank]

theorem QuotaThread.rank_le (t : QuotaThread) : t.rank ≤ 9 := by
  cases t with
  | tryReserve quota s =>
    cases s with
    | hydrate h => cases h <;> simp [rank, ReserveState.rank, HydrateState.rank]
    | _ =>
      simp [rank, ReserveState.rank]
  | getUserCache h => cases h <;> simp [rank, HydrateState.rank]
  | _ => simp [rank]

theorem QuotaThread.finished_drain (replies : ℕ → StoreReply) {n : ℕ} {t : QuotaThread}
    (h : t.rank ≤ n) : (t.drain cfg id replies n w).1.rank = 0 := by
  induction n generalizing t w with
  | zero => exact Nat.le_zero.mp h
  | succ n ih =>
    have hrank := t.rank_step cfg id (replies n) w
    exact ih _ (by omega)

end

inductive WalletCall
  | tryReserve (quota : Int64)
  | increase (quota : Int64) (db : Bool)
  | decrease (quota : Int64) (db : Bool)

def WalletCall.event : WalletCall → QuotaEvent
  | tryReserve quota => .tryReserve quota
  | increase quota db => .increase quota db
  | decrease quota db => .decrease quota db

def Wallet.call (cfg : QuotaSettings) (id : Int) (replies : ℕ → StoreReply) (w : Wallet)
    (c : WalletCall) : Wallet :=
  (spawned cfg c.event).foldl (fun w t => (t.drain cfg id replies 9 w).2) w

/-! ### Orders and codes -/

def TopUpCall.tradeNo : TopUpCall → String
  | rechargeEpay tradeNo _ | recharge tradeNo _ | rechargeCreem tradeNo _ _ | rechargeWaffo tradeNo
  | rechargeWaffoPancake tradeNo | manualCompleteTopUp tradeNo
  | updatePendingTopUpStatus tradeNo _ => tradeNo

section

variable (cfg : QuotaSettings) (perUnit : ℚ) (id : Int) (a : Account)

def topUpAccount (e : TopUpEvent) (redis : Bool) : Account :=
  match a.orders.find e.call.tradeNo with
  | none => a
  | some topUp =>
    match topUpCall perUnit ⟨topUp, some (a.payingUser id)⟩ e with
    | (.ok quota, ⟨topUp', some user'⟩) =>
      ({ a with orders := a.orders.save topUp' }.setPayingUser id user').syncCredit id cfg
        redis quota
    | _ => a

/-- The errors of a redemption before they are all reported as `ErrRedeemFailed`. -/
inductive RedeemError
  | noKey
  | noUser
  | invalidKey
  | usedKey
  | expiredKey
  | database
  | credit (e : TopUpError)
  | redeemFailed

/-- The text of an error; `none` for an error that the database or the credit supplies. -/
def RedeemError.message : RedeemError → Option String
  | noKey => some "未提供兑换码"
  | noUser => some "无效的 user id"
  | invalidKey => some "无效的兑换码"
  | usedKey => some "该兑换码已被使用"
  | expiredKey => some "该兑换码已过期"
  | database => none
  | credit e => e.message
  | redeemFailed => some "redeem.failed"

/-- The transaction of `Redeem`. Its compare-and-swap on the status cannot miss here, since nothing
runs between the read and the update. -/
def redeemBody (ans : TopUpReply) (now : Int) (key : String) : Tx Account RedeemError Int := do
  let a ← get
  match a.codes.find key with
  | none => throw .invalidKey
  | some code =>
    ensure (ans.find = true) .invalidKey
    ensure (code.status = .enabled) .usedKey
    ensure (code.expiredTime = 0 ∨ now ≤ code.expiredTime) .expiredKey
    ensure (ans.save = true) .database
    modify fun a => { a with
      codes := a.codes.save { code with status := .used, redeemedTime := now, usedUserId := id } }
    match creditTopUpQuota ans code.quota (fun user => user) (some (a.payingUser id)) with
    | .error e => throw (.credit e)
    | .ok user =>
      modify fun a => a.setPayingUser id user
      return code.quota

/-- `Redeem` in `model/redemption.go`. -/
def redeem (ans : TopUpReply) (now : Int) (redis : Bool) (key : String) :
    Except RedeemError Int × Account :=
  if key = "" then (.error .noKey, a)
  else if id = 0 then (.error .noUser, a)
  else
    match transaction (if ans.commit then none else some .database) (redeemBody id ans now key)
      a with
    | (.error _, a') => (.error .redeemFailed, a')
    | (.ok quota, a') => (.ok quota, a'.syncCredit id cfg redis quota)

/-! ### Check-ins -/

structure CheckinSetting where
  enabled : Bool
  minQuota : Int
  maxQuota : Int

structure CheckinReply where
  query : Bool
  create : Bool
  update : Bool
  commit : Bool
  delete : Bool
  redis : Bool

inductive CheckinError
  | disabled
  | alreadyChecked
  | createFailed
  | updateFailed
  | database

def CheckinError.message : CheckinError → Option String
  | disabled => some "签到功能未启用"
  | alreadyChecked => some "今日已签到"
  | createFailed => some "签到失败，请稍后重试"
  | updateFailed => some "签到失败：更新额度出错"
  | database => none

def CheckinSetting.quotaAwarded (setting : CheckinSetting) (random : ℕ) : Int :=
  if setting.minQuota < setting.maxQuota then
    setting.minQuota + random % (setting.maxQuota - setting.minQuota + 1)
  else setting.minQuota

/-- `userCheckinWithTransaction`: record and credit in one transaction, the cache after it. -/
def userCheckinWithTransaction (ans : CheckinReply) (today : String) (quotaAwarded : Int) :
    Except CheckinError Unit × Account :=
  match transaction (if ans.commit then none else some .database) (do
      let a ← get
      ensure (ans.create = true ∧ today ∉ a.checkins) CheckinError.createFailed
      modify fun a => { a with checkins := today :: a.checkins }
      ensure (ans.update = true) .updateFailed
      modify fun a => a.addQuota id quotaAwarded) a with
  | (.error e, a') => (.error e, a')
  | (.ok _, a') => (.ok (), a'.cacheIncr id cfg ans.redis quotaAwarded)

/-- `userCheckinWithoutTransaction`: record, then `IncreaseUserQuota` on the database, and the
record deleted if that fails. -/
def userCheckinWithoutTransaction (ans : CheckinReply) (today : String) (quotaAwarded : Int) :
    Except CheckinError Unit × Account :=
  if ans.create = false ∨ today ∈ a.checkins then (.error .createFailed, a)
  else
    let recorded := { a with checkins := today :: a.checkins }
    let undone := if ans.delete then { a with checkins := recorded.checkins.erase today }
      else recorded
    if quotaAwarded < 0 ∨ validateWalletQuota quotaAwarded = false then
      (.error .updateFailed, undone)
    else
      match increaseUserQuota id ⟨ans.redis, ans.update⟩ a.wallet quotaAwarded with
      | (false, _) => (.error .updateFailed, undone)
      | (true, w) =>
        (.ok (), { recorded with wallet := w }.cacheIncr id cfg ans.redis quotaAwarded)

/-- `UserCheckin`; SQLite has no nested transactions. -/
def userCheckin (setting : CheckinSetting) (sqlite : Bool) (ans : CheckinReply) (today : String)
    (random : ℕ) : Except CheckinError Unit × Account :=
  if setting.enabled = false then (.error .disabled, a)
  else if ans.query = false then (.error .database, a)
  else if today ∈ a.checkins then (.error .alreadyChecked, a)
  else if sqlite then
    userCheckinWithoutTransaction cfg id a ans today (setting.quotaAwarded random)
  else userCheckinWithTransaction cfg id a ans today (setting.quotaAwarded random)

/-! ### Transfers, adjustments and purchases -/

structure RowReply where
  find : Bool
  update : Bool
  insert : Bool
  commit : Bool
  redis : Bool

inductive RowError
  | belowMinimum
  | insufficientAffQuota
  | invalidAdjustment
  | permission
  | walletQuotaLimitExceeded
  | invalidIds
  | planDisabled
  | negativePrice
  | balancePayNotAllowed
  | unitConfiguration
  | quotaRange
  | insufficientBalance
  | database

/-- The text of an error; `none` for a text that holds a number, and for an error that the database
supplies. -/
def RowError.message : RowError → Option String
  | insufficientAffQuota => some "邀请额度不足！"
  | invalidAdjustment => some "invalid user quota adjustment"
  | permission => some "cannot adjust quota for this user role"
  | walletQuotaLimitExceeded => some "wallet quota limit exceeded"
  | invalidIds => some "invalid userId or planId"
  | planDisabled => some "套餐未启用"
  | negativePrice => some "套餐价格不能为负数"
  | balancePayNotAllowed => some "该套餐不允许使用余额兑换"
  | unitConfiguration => some "额度单位配置错误"
  | insufficientBalance => some "余额不足"
  | belowMinimum | quotaRange | database => none

def RowReply.commitError (ans : RowReply) : Option RowError :=
  if ans.commit then none else some .database

/-- `TransferAffQuotaToQuota` of `model/user.go`. -/
def transferAffQuotaToQuota (ans : RowReply) (quota : Int) : Except RowError Unit × Account :=
  if (quota : ℚ) < perUnit then (.error .belowMinimum, a)
  else transaction ans.commitError (do
    let a ← get
    ensure (ans.find = true) RowError.database
    ensure (quota ≤ a.affQuota) .insufficientAffQuota
    ensure (ans.update = true) .database
    modify fun a => { a.addQuota id quota with affQuota := a.affQuota - quota }) a

inductive AdjustMode
  | add
  | subtract
  | override
  | other
  deriving DecidableEq, Repr

def AdjustMode.target (quota value : Int) : AdjustMode → Int
  | add => quota + value
  | subtract => quota - value
  | override | other => value

def roleRootUser : Int := 100

/-- The transaction of `AdjustUserQuota`; the result is the committed difference. -/
def adjustBody (ans : RowReply) (operatorRole : Int) (mode : AdjustMode) (value : Int) :
    Tx Account RowError Int := do
  let a ← get
  ensure (ans.find = true) .database
  ensure (operatorRole = roleRootUser ∨ a.role < operatorRole) .permission
  let before := a.wallet.dbQuota id
  ensure (before ≤ maxWalletQuota ∧ -maxWalletQuota ≤ before) .walletQuotaLimitExceeded
  match walletQuotaFromDecimalStrict (mode.target before value) with
  | .error _ => throw .walletQuotaLimitExceeded
  | .ok after =>
    ensure (after = before ∨ ans.update = true) .database
    modify fun a => a.addQuota id (after - before)
    return after - before

/-- `AdjustUserQuota`, by an administrator. -/
def adjustUserQuota (ans : RowReply) (operatorRole : Int) (mode : AdjustMode) (value : Int) :
    Except RowError Int × Account :=
  if id ≤ 0 ∨ mode = .other then (.error .invalidAdjustment, a)
  else if mode ≠ .override ∧ value ≤ 0 then (.error .invalidAdjustment, a)
  else if maxWalletQuota < value ∨ value < -maxWalletQuota then
    (.error .walletQuotaLimitExceeded, a)
  else
    match transaction ans.commitError (adjustBody id ans operatorRole mode value) a with
    | (.error e, a') => (.error e, a')
    | (.ok delta, a') =>
      (.ok delta, if delta = 0 then a' else a'.cacheIncr id cfg ans.redis delta)

structure BalancePlan where
  enabled : Bool
  priceAmount : ℚ
  allowBalancePay : Option Bool

/-- The price of a plan as a quota, rounded up. -/
def calcSubscriptionBalanceQuota (priceAmount : ℚ) : Except RowError Int :=
  if priceAmount ≤ 0 then .ok 0
  else if perUnit ≤ 0 then .error .unitConfiguration
  else
    match walletQuotaFromDecimalStrict ⌈priceAmount * perUnit⌉ with
    | .ok quota => .ok quota
    | .error _ => .error .quotaRange

/-- The transaction of `PurchaseSubscriptionWithBalance`; the result is the charged quota. The
subscription and the order that it inserts do not bear on the wallet. -/
def purchaseBody (ans : RowReply) (plan : BalancePlan) : Tx Account RowError Int := do
  let a ← get
  ensure (plan.enabled = true) .planDisabled
  ensure (0 ≤ plan.priceAmount) .negativePrice
  ensure (plan.allowBalancePay ≠ some false) .balancePayNotAllowed
  let requiredQuota ← attempt (calcSubscriptionBalanceQuota perUnit plan.priceAmount)
  ensure (ans.find = true) .database
  ensure (requiredQuota ≤ 0 ∨ requiredQuota ≤ a.wallet.dbQuota id) .insufficientBalance
  ensure (requiredQuota ≤ 0 ∨ ans.update = true) .database
  modify fun a => if requiredQuota ≤ 0 then a else a.addQuota id (-requiredQuota)
  ensure (ans.insert = true) .database
  return requiredQuota

/-- `PurchaseSubscriptionWithBalance`; `plan` is the row of the plan, if it can be read. -/
def purchaseSubscriptionWithBalance (ans : RowReply) (planId : Int) (plan : Option BalancePlan) :
    Except RowError Int × Account :=
  if id ≤ 0 ∨ planId ≤ 0 then (.error .invalidIds, a)
  else
    match plan with
    | none => (.error .database, a)
    | some plan =>
      match transaction ans.commitError (purchaseBody perUnit id ans plan) a with
      | (.error e, a') => (.error e, a')
      | (.ok charged, a') =>
        (.ok charged, if charged ≤ 0 then a' else a'.cacheIncr id cfg ans.redis (-charged))

end

/-! ### All operations -/

inductive AccountOp
  | call (c : WalletCall) (replies : ℕ → StoreReply)
  | topUp (e : TopUpEvent) (redis : Bool)
  | redeem (ans : TopUpReply) (now : Int) (redis : Bool) (key : String)
  | checkin (setting : CheckinSetting) (sqlite : Bool) (ans : CheckinReply) (today : String)
      (random : ℕ)
  | transferAff (ans : RowReply) (quota : Int)
  | adjust (ans : RowReply) (operatorRole : Int) (mode : AdjustMode) (value : Int)
  | purchase (ans : RowReply) (planId : Int) (plan : Option BalancePlan)
  /-- A step of the batch updater; it does not add records, which the calls do. -/
  | startFlush
  | flush (k : ℕ) (key : Int) (ok : Bool)

/-- One call on the account. -/
def accountStep (cfg : QuotaSettings) (perUnit : ℚ) (id : Int) (a : Account) :
    AccountOp → Account
  | .call c replies => { a with wallet := a.wallet.call cfg id replies c }
  | .topUp e redis => topUpAccount cfg perUnit id a e redis
  | .redeem ans now redis key => (redeem cfg id a ans now redis key).2
  | .checkin setting sqlite ans today random =>
    (userCheckin cfg id a setting sqlite ans today random).2
  | .transferAff ans quota => (transferAffQuotaToQuota perUnit id a ans quota).2
  | .adjust ans operatorRole mode value =>
    (adjustUserQuota cfg id a ans operatorRole mode value).2
  | .purchase ans planId plan =>
    (purchaseSubscriptionWithBalance cfg perUnit id a ans planId plan).2
  | .startFlush => { a with wallet := { a.wallet with batch := batchStep a.wallet.batch .start } }
  | .flush k key ok =>
    { a with wallet := { a.wallet with batch := batchStep a.wallet.batch (.flush k key ok) } }

end NewApi.Model
