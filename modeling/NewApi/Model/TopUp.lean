import NewApi.Common.QuotaMath
import NewApi.Foundation.Run
import NewApi.Foundation.Transaction

/-!
# Top-up orders

The payment callbacks, the manual completion and the status update of `model/topup.go` on one order
and the row of its user. Each call is a transaction that locks the order row; which of its
statements fail is part of the reply of the database. The calls return the quota that they credited,
`0` if the order had been completed before, which is what they hand to the quota cache afterwards.

The callbacks come in two shapes. The Epay and Waffo callbacks and the manual completion accept a
completed order and compute the quota before they save the order; the Stripe and Creem callbacks
reject a completed order and save first.
-/

namespace NewApi.Model

open Common Tx Except

inductive TopUpStatus
  | pending
  | success
  | failed
  | expired
  deriving DecidableEq, Repr

inductive PaymentProvider
  | unset
  | epay
  | stripe
  | creem
  | waffo
  | waffoPancake
  | balance
  deriving DecidableEq, Repr

/-- A top-up order. The payment method is free text for Epay, where it names the channel. -/
structure TopUp where
  userId : Int
  amount : Int
  money : ℚ
  tradeNo : String
  paymentMethod : String
  paymentProvider : PaymentProvider
  createTime : Int
  completeTime : Int
  status : TopUpStatus
  deriving DecidableEq

structure PayingUser where
  quota : Int
  email : String
  stripeCustomer : String

structure TopUpRows where
  topUp : TopUp
  user : Option PayingUser

structure TopUpReply where
  find : Bool
  save : Bool
  readUser : Bool
  credit : Bool
  count : Bool
  commit : Bool

def TopUpReply.allOk : TopUpReply := ⟨true, true, true, true, true, true⟩

inductive TopUpError
  | noTradeNo
  | noOrderNo
  | notFound
  | orderNotFound
  | paymentMethodMismatch
  | statusInvalid
  | orderStatus
  | orderNotPending
  | invalidQuota
  | quotaLimitExceeded
  | recordNotFound
  | database
  | rechargeFailed

def TopUpError.message : TopUpError → Option String
  | noTradeNo => some "未提供支付单号"
  | noOrderNo => some "未提供订单号"
  | notFound => some "topup not found"
  | orderNotFound => some "充值订单不存在"
  | paymentMethodMismatch => some "payment method mismatch"
  | statusInvalid => some "topup status invalid"
  | orderStatus => some "充值订单状态错误"
  | orderNotPending => some "订单状态不是待支付，无法补单"
  | invalidQuota => some "invalid top-up quota"
  | quotaLimitExceeded => some "top-up quota limit exceeded"
  | recordNotFound => some "record not found"
  | database => none
  | rechargeFailed => some "充值失败，请稍后重试"

/-! ### Statements -/

abbrev TopUpTx (α : Type) := Tx TopUpRows TopUpError α

def topUpQuotaMaxCurrent (creditedQuota : Int) : Except TopUpError Int :=
  if creditedQuota ≤ 0 ∨ maxWalletQuota < creditedQuota then .error .invalidQuota
  else .ok (maxWalletQuota - creditedQuota)

section

variable (ans : TopUpReply)

def findTopUp (tradeNo : String) (e : TopUpError) : TopUpTx TopUp := do
  let x ← get
  ensure (ans.find = true ∧ x.topUp.tradeNo = tradeNo) e
  return x.topUp

def saveTopUp (topUp : TopUp) : TopUpTx Unit := do
  ensure (ans.save = true) .database
  modify fun x => { x with topUp := topUp }

/-- `creditTopUpQuota`: one conditional `UPDATE` of the user row, then a count to tell why it
changed no row. The result is the row after it. -/
def creditTopUpQuota (creditedQuota : Int) (updates : PayingUser → PayingUser)
    (user : Option PayingUser) : Except TopUpError PayingUser := do
  let maxCurrentQuota ← topUpQuotaMaxCurrent creditedQuota
  if !ans.credit then throw .database
  match user with
  | some user =>
    if user.quota ≤ maxCurrentQuota then
      return { updates user with quota := user.quota + creditedQuota }
    else if !ans.count then throw .database
    else throw .quotaLimitExceeded
  | none => if !ans.count then throw .database else throw .recordNotFound

/-- The credit to the user, inside the transaction of an order. -/
def creditUser (creditedQuota : Int) (updates : PayingUser → PayingUser) : TopUpTx Unit := do
  let x ← get
  let user ← attempt (creditTopUpQuota ans creditedQuota updates x.user)
  modify fun x => { x with user := some user }

def TopUpReply.commitError : Option TopUpError := if ans.commit then none else some .database

end

/-- A credit is rounded, within the wallet range and positive. -/
def quotaToAdd (d : ℚ) : Except TopUpError Int :=
  match walletQuotaFromDecimalStrict d with
  | .error _ => .error .invalidQuota
  | .ok quota => if quota ≤ 0 then .error .invalidQuota else .ok quota

def TopUp.complete (topUp : TopUp) (now : Int) : TopUp :=
  { topUp with completeTime := now, status := .success }

/-! ### The two shapes of a completion -/

structure IdempotentRecharge where
  /-- The provider that the order must have; `none` if any will do. -/
  provider : Option PaymentProvider
  notFound : TopUpError
  statusInvalid : TopUpError
  paymentMethod : TopUp → String
  decimalQuota : TopUp → ℚ

def IdempotentRecharge.body (c : IdempotentRecharge) (ans : TopUpReply) (now : Int)
    (tradeNo : String) : TopUpTx Int := do
  let topUp ← findTopUp ans tradeNo c.notFound
  ensure (∀ p ∈ c.provider, topUp.paymentProvider = p) .paymentMethodMismatch
  if topUp.status = .success then
    return 0
  else
    ensure (topUp.status = .pending) c.statusInvalid
    let quota ← attempt (quotaToAdd (c.decimalQuota topUp))
    saveTopUp ans (TopUp.complete { topUp with paymentMethod := c.paymentMethod topUp } now)
    creditUser ans quota fun user => user
    return quota

structure OneShotRecharge where
  provider : PaymentProvider
  decimalQuota : TopUp → ℚ
  /-- The further columns of the user row that are written with the quota. -/
  updates : TopUpReply → TopUpTx (PayingUser → PayingUser)

def OneShotRecharge.body (c : OneShotRecharge) (ans : TopUpReply) (now : Int)
    (tradeNo : String) : TopUpTx Int := do
  let topUp ← findTopUp ans tradeNo .orderNotFound
  ensure (topUp.paymentProvider = c.provider) .paymentMethodMismatch
  ensure (topUp.status = .pending) .orderStatus
  saveTopUp ans (topUp.complete now)
  let quota ← attempt (quotaToAdd (c.decimalQuota topUp))
  let updates ← c.updates ans
  creditUser ans quota updates
  return quota

/-- The callbacks of Stripe, Creem and Waffo report every failure in the same words. -/
def reportFailure (r : Except TopUpError Int × TopUpRows) : Except TopUpError Int × TopUpRows :=
  match r with
  | (.error _, x) => (.error .rechargeFailed, x)
  | (.ok quota, x) => (.ok quota, x)

section

variable (perUnit : ℚ) (ans : TopUpReply) (now : Int) (x : TopUpRows)

def amountQuota (topUp : TopUp) : ℚ := topUp.amount * perUnit

def moneyQuota (topUp : TopUp) : ℚ := topUp.money * perUnit

def rechargeEpay (tradeNo actualPaymentMethod : String) : Except TopUpError Int × TopUpRows :=
  if tradeNo = "" then (.error .noTradeNo, x)
  else transaction ans.commitError
    (IdempotentRecharge.body
      { provider := some .epay
        notFound := .notFound
        statusInvalid := .statusInvalid
        paymentMethod := fun topUp =>
          if actualPaymentMethod = "" then topUp.paymentMethod else actualPaymentMethod
        decimalQuota := amountQuota perUnit } ans now tradeNo) x

/-- `Recharge`, the callback of Stripe. -/
def recharge (referenceId customerId : String) : Except TopUpError Int × TopUpRows :=
  if referenceId = "" then (.error .noTradeNo, x)
  else reportFailure <| transaction ans.commitError
    (OneShotRecharge.body
      { provider := .stripe
        decimalQuota := moneyQuota perUnit
        updates := fun _ => pure fun user => { user with stripeCustomer := customerId } }
      ans now referenceId) x

/-- The email of the payment goes into a user row that has none. -/
def creemUpdates (customerEmail : String) (ans : TopUpReply) :
    TopUpTx (PayingUser → PayingUser) :=
  if customerEmail = "" then pure fun user => user
  else do
    let x ← get
    match x.user with
    | none => throw .recordNotFound
    | some _ =>
      ensure (ans.readUser = true) .database
      return fun user => if user.email = "" then { user with email := customerEmail } else user

/-- `RechargeCreem`; the order's amount is the quota itself. The customer's name is not used. -/
def rechargeCreem (referenceId customerEmail _customerName : String) :
    Except TopUpError Int × TopUpRows :=
  if referenceId = "" then (.error .noTradeNo, x)
  else reportFailure <| transaction ans.commitError
    (OneShotRecharge.body
      { provider := .creem
        decimalQuota := fun topUp => topUp.amount
        updates := creemUpdates customerEmail } ans now referenceId) x

def rechargeWaffo (tradeNo : String) : Except TopUpError Int × TopUpRows :=
  if tradeNo = "" then (.error .noTradeNo, x)
  else reportFailure <| transaction ans.commitError
    (IdempotentRecharge.body
      { provider := some .waffo
        notFound := .orderNotFound
        statusInvalid := .orderStatus
        paymentMethod := TopUp.paymentMethod
        decimalQuota := amountQuota perUnit } ans now tradeNo) x

def rechargeWaffoPancake (tradeNo : String) : Except TopUpError Int × TopUpRows :=
  if tradeNo = "" then (.error .noTradeNo, x)
  else reportFailure <| transaction ans.commitError
    (IdempotentRecharge.body
      { provider := some .waffoPancake
        notFound := .orderNotFound
        statusInvalid := .orderStatus
        paymentMethod := TopUp.paymentMethod
        decimalQuota := amountQuota perUnit } ans now tradeNo) x

/-- `ManualCompleteTopUp`, for orders of every provider. -/
def manualCompleteTopUp (tradeNo : String) : Except TopUpError Int × TopUpRows :=
  if tradeNo = "" then (.error .noOrderNo, x)
  else transaction ans.commitError
    (IdempotentRecharge.body
      { provider := none
        notFound := .orderNotFound
        statusInvalid := .orderNotPending
        paymentMethod := TopUp.paymentMethod
        decimalQuota := fun topUp =>
          if topUp.paymentProvider = .stripe then moneyQuota perUnit topUp
          else amountQuota perUnit topUp } ans now tradeNo) x

/-- `UpdatePendingTopUpStatus`; an empty expected provider accepts every order. -/
def updatePendingTopUpStatus (tradeNo : String) (expected : Option PaymentProvider)
    (target : TopUpStatus) : Except TopUpError Int × TopUpRows :=
  if tradeNo = "" then (.error .noTradeNo, x)
  else transaction ans.commitError
    (do
      let topUp ← findTopUp ans tradeNo .notFound
      ensure (∀ p ∈ expected, topUp.paymentProvider = p) .paymentMethodMismatch
      ensure (topUp.status = .pending) .statusInvalid
      saveTopUp ans { topUp with status := target }
      return 0) x

end

inductive StatusCaller
  /-- `controller/topup_stripe.go`, line 333. -/
  | stripeSessionExpired
  /-- `controller/topup_waffo.go`, line 399. -/
  | waffoPaymentFailed

def StatusCaller.provider : StatusCaller → PaymentProvider
  | stripeSessionExpired => .stripe
  | waffoPaymentFailed => .waffo

def StatusCaller.target : StatusCaller → TopUpStatus
  | stripeSessionExpired => .expired
  | waffoPaymentFailed => .failed

inductive TopUpCall
  | rechargeEpay (tradeNo actualPaymentMethod : String)
  | recharge (referenceId customerId : String)
  | rechargeCreem (referenceId customerEmail customerName : String)
  | rechargeWaffo (tradeNo : String)
  | rechargeWaffoPancake (tradeNo : String)
  | manualCompleteTopUp (tradeNo : String)
  | updatePendingTopUpStatus (tradeNo : String) (caller : StatusCaller)

structure TopUpEvent where
  call : TopUpCall
  reply : TopUpReply
  now : Int

section

variable (perUnit : ℚ)

/-- The call of an event, with its answer. -/
def topUpCall (x : TopUpRows) (e : TopUpEvent) : Except TopUpError Int × TopUpRows :=
  match e.call with
  | .rechargeEpay tradeNo method => rechargeEpay perUnit e.reply e.now x tradeNo method
  | .recharge referenceId customerId => recharge perUnit e.reply e.now x referenceId customerId
  | .rechargeCreem referenceId email name => rechargeCreem e.reply e.now x referenceId email name
  | .rechargeWaffo tradeNo => rechargeWaffo perUnit e.reply e.now x tradeNo
  | .rechargeWaffoPancake tradeNo => rechargeWaffoPancake perUnit e.reply e.now x tradeNo
  | .manualCompleteTopUp tradeNo => manualCompleteTopUp perUnit e.reply e.now x tradeNo
  | .updatePendingTopUpStatus tradeNo caller =>
    updatePendingTopUpStatus e.reply x tradeNo (some caller.provider) caller.target

def topUpStep (x : TopUpRows) (e : TopUpEvent) : TopUpRows := (topUpCall perUnit x e).2

end

/-! ### What a committed call has done -/

theorem quotaToAdd_ok_iff {d : ℚ} {quota : Int} :
    quotaToAdd d = .ok quota ↔ roundHalfAway d = quota ∧ 0 < quota ∧ quota ≤ maxWalletQuota := by
  have hconv : quotaToAdd d = .ok quota ↔
      walletQuotaFromDecimalStrict d = .ok quota ∧ 0 < quota := by
    unfold quotaToAdd
    rcases walletQuotaFromDecimalStrict d with e | q
    · simp
    simp only [ok.injEq]
    split_ifs
    · simp only [false_iff]
      omega
    · simp only [ok.injEq]
      omega
  rw [hconv, walletQuotaFromDecimalStrict_ok_iff]
  constructor
  · rintro ⟨⟨hround, -, hhigh⟩, hpos⟩
    exact ⟨hround, hpos, hhigh⟩
  · rintro ⟨hround, hpos, hhigh⟩
    exact ⟨⟨hround, by omega, hhigh⟩, hpos⟩

variable {ans : TopUpReply} {now : Int} {tradeNo : String} {x y : TopUpRows} {quota : Int}

theorem exec_findTopUp_bind_ok_iff {e : TopUpError} {f : TopUp → TopUpTx Int} :
    exec (findTopUp ans tradeNo e >>= f) x = (.ok quota, y) ↔
      (ans.find = true ∧ x.topUp.tradeNo = tradeNo) ∧ exec (f x.topUp) x = (.ok quota, y) := by
  simp [findTopUp, exec_get_bind, exec_ensure_bind_ok_iff]

theorem exec_saveTopUp_bind_ok_iff {topUp : TopUp} {f : Unit → TopUpTx Int} :
    exec (saveTopUp ans topUp >>= f) x = (.ok quota, y) ↔
      ans.save = true ∧ exec (f ()) { x with topUp := topUp } = (.ok quota, y) := by
  simp [saveTopUp, exec_modify_bind, exec_ensure_bind_ok_iff]

theorem topUpQuotaMaxCurrent_ok_iff {maxCurrent : Int} :
    topUpQuotaMaxCurrent quota = .ok maxCurrent ↔
      (0 < quota ∧ quota ≤ maxWalletQuota) ∧ maxCurrent = maxWalletQuota - quota := by
  unfold topUpQuotaMaxCurrent
  split_ifs
  · simp only [false_iff]
    omega
  · simp only [ok.injEq]
    omega

theorem creditTopUpQuota_ok_iff {updates : PayingUser → PayingUser} {row : Option PayingUser}
    {user' : PayingUser} :
    creditTopUpQuota ans quota updates row = .ok user' ↔
      (0 < quota ∧ quota ≤ maxWalletQuota) ∧ ans.credit = true ∧ ∃ user, row = some user ∧
        user.quota + quota ≤ maxWalletQuota ∧
        user' = { updates user with quota := user.quota + quota } := by
  unfold creditTopUpQuota
  cases hmax : topUpQuotaMaxCurrent quota with
  | error e =>
    have hbad : ¬ (0 < quota ∧ quota ≤ maxWalletQuota) := by
      intro hquota
      rw [topUpQuotaMaxCurrent_ok_iff.mpr ⟨hquota, rfl⟩] at hmax
      cases hmax
    exact ⟨nofun, fun h => absurd h.1 hbad⟩
  | ok maxCurrent =>
    obtain ⟨hquota, rfl⟩ := topUpQuotaMaxCurrent_ok_iff.mp hmax
    cases hcredit : ans.credit with
    | false => exact ⟨nofun, nofun⟩
    | true =>
      rcases row with - | user
      · cases ans.count <;> exact ⟨nofun, nofun⟩
      change (if user.quota ≤ maxWalletQuota - quota then
        ok { updates user with quota := user.quota + quota }
        else if !ans.count then error TopUpError.database
        else error TopUpError.quotaLimitExceeded) = _ ↔ _
      split_ifs
      · constructor
        · intro h
          exact ⟨hquota, rfl, user, rfl, by omega, (ok.inj h).symm⟩
        · rintro ⟨-, -, _, huser, -, rfl⟩
          obtain rfl := Option.some.inj huser
          rfl
      all_goals
        refine ⟨nofun, ?_⟩
        rintro ⟨-, -, _, huser, hle, -⟩
        obtain rfl := Option.some.inj huser
        omega

theorem exec_creditUser_bind_ok_iff {credit : Int} {updates : PayingUser → PayingUser}
    {f : Unit → TopUpTx Int} :
    exec (creditUser ans credit updates >>= f) x = (.ok quota, y) ↔
      ∃ user', creditTopUpQuota ans credit updates x.user = .ok user' ∧
        exec (f ()) { x with user := some user' } = (.ok quota, y) := by
  simp [creditUser, bind_assoc, exec_get_bind, exec_attempt_bind_ok_iff, exec_modify_bind]

theorem IdempotentRecharge.exec_body_ok_iff (c : IdempotentRecharge) :
    exec (c.body ans now tradeNo) x = (.ok quota, y) ↔
      (ans.find = true ∧ x.topUp.tradeNo = tradeNo) ∧
      (∀ p ∈ c.provider, x.topUp.paymentProvider = p) ∧
      (x.topUp.status = .success ∧ quota = 0 ∧ y = x ∨
        x.topUp.status = .pending ∧ quotaToAdd (c.decimalQuota x.topUp) = .ok quota ∧
          ans.save = true ∧ ans.credit = true ∧ ∃ user, x.user = some user ∧
            user.quota + quota ≤ maxWalletQuota ∧
            y = ⟨TopUp.complete { x.topUp with paymentMethod := c.paymentMethod x.topUp } now,
              some { user with quota := user.quota + quota }⟩) := by
  simp only [IdempotentRecharge.body, exec_findTopUp_bind_ok_iff, exec_ensure_bind_ok_iff]
  refine and_congr_right fun _ => and_congr_right fun _ => ?_
  by_cases hdone : x.topUp.status = .success
  · rw [if_pos hdone]
    constructor
    · intro h
      cases h
      exact .inl ⟨hdone, rfl, rfl⟩
    · rintro (⟨-, rfl, rfl⟩ | ⟨hpend, -⟩)
      · rfl
      · rw [hdone] at hpend
        cases hpend
  · rw [if_neg hdone]
    simp only [exec_ensure_bind_ok_iff, exec_attempt_bind_ok_iff, exec_saveTopUp_bind_ok_iff,
      exec_creditUser_bind_ok_iff]
    constructor
    · rintro ⟨hpend, q, hquota, hsave, user', hcredit, hret⟩
      obtain ⟨-, hreply, user, huser, hroom, rfl⟩ := creditTopUpQuota_ok_iff.mp hcredit
      cases hret
      exact .inr ⟨hpend, hquota, hsave, hreply, user, huser, hroom, rfl⟩
    · rintro (⟨hdone', -⟩ | ⟨hpend, hquota, hsave, hreply, user, huser, hroom, rfl⟩)
      · exact absurd hdone' hdone
      · exact ⟨hpend, quota, hquota, hsave, _, creditTopUpQuota_ok_iff.mpr
          ⟨(quotaToAdd_ok_iff.mp hquota).2, hreply, user, huser, hroom, rfl⟩, rfl⟩

theorem OneShotRecharge.exec_body_ok_iff (c : OneShotRecharge) :
    exec (c.body ans now tradeNo) x = (.ok quota, y) ↔
      (ans.find = true ∧ x.topUp.tradeNo = tradeNo) ∧ x.topUp.paymentProvider = c.provider ∧
      x.topUp.status = .pending ∧ quotaToAdd (c.decimalQuota x.topUp) = .ok quota ∧
      ans.save = true ∧ ans.credit = true ∧ ∃ f z user,
        exec (c.updates ans) { x with topUp := x.topUp.complete now } = (.ok f, z) ∧
        z.user = some user ∧ user.quota + quota ≤ maxWalletQuota ∧
        y = { z with user := some { f user with quota := user.quota + quota } } := by
  simp only [OneShotRecharge.body, exec_findTopUp_bind_ok_iff, exec_ensure_bind_ok_iff,
    exec_attempt_bind_ok_iff, exec_saveTopUp_bind_ok_iff]
  constructor
  · rintro ⟨hfind, hprovider, hpend, hsave, q, hquota, hrest⟩
    obtain ⟨f, z, hf, hrest⟩ := exec_bind_ok_iff.mp hrest
    obtain ⟨user', hcredit, hret⟩ := exec_creditUser_bind_ok_iff.mp hrest
    obtain ⟨-, hreply, user, huser, hroom, rfl⟩ := creditTopUpQuota_ok_iff.mp hcredit
    cases hret
    exact ⟨hfind, hprovider, hpend, hquota, hsave, hreply, f, z, user, hf, huser, hroom, rfl⟩
  · rintro ⟨hfind, hprovider, hpend, hquota, hsave, hreply, f, z, user, hf, huser, hroom, rfl⟩
    refine ⟨hfind, hprovider, hpend, hsave, quota, hquota, exec_bind_ok_iff.mpr ⟨f, z, hf, ?_⟩⟩
    exact exec_creditUser_bind_ok_iff.mpr ⟨_, creditTopUpQuota_ok_iff.mpr
      ⟨(quotaToAdd_ok_iff.mp hquota).2, hreply, user, huser, hroom, rfl⟩, rfl⟩

theorem exec_creemUpdates {email : String} {f : PayingUser → PayingUser} :
    exec (creemUpdates email ans) x = (.ok f, y) → x = y := by
  intro h
  unfold creemUpdates at h
  split_ifs at h
  · cases h
    rfl
  rw [exec_get_bind] at h
  cases huser : x.user with
  | none =>
    simp only [huser] at h
    cases h
  | some user =>
    simp only [huser, exec_ensure_bind_ok_iff] at h
    cases h.2
    rfl

end NewApi.Model
