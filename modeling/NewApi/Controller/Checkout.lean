import NewApi.Model.TopUpOrder

/-!
# Checkouts and the completion of their orders

How the five checkouts of `controller/topup*.go` fill in an order, and what completing such an order
by hand credits in comparison with the callback of its provider. The price of a checkout is computed
in floating point from the group of the user and the discounts; it is an input here, and so is
whether the checks that do not touch the order (payment method, redirect addresses, the call to the
provider) went through.

Epay, Waffo and Waffo Pancake orders store an amount of units and Stripe orders the money, which
both completions multiply by `QuotaPerUnit`. A Creem order stores the quota of the product itself;
its callback credits it as it is, and the manual completion multiplies it too.
-/

namespace NewApi.Controller

open Common Model Tx Option

/-! ### Creating an order -/

structure CreemProduct where
  productId : String
  price : ℚ
  quota : Int

structure CheckoutSettings where
  quotaPerUnit : ℚ
  /-- Amounts are entered and shown in tokens. -/
  displayTokens : Bool
  minTopUp : Int
  stripeMinTopUp : Int
  waffoMinTopUp : Int
  waffoPancakeMinTopUp : Int
  creemProducts : List CreemProduct

structure CheckoutContext where
  userId : Int
  /-- The quota in the user row; `none` if it cannot be read. -/
  userQuota : Option Int
  /-- The price of the request; for Stripe the charged amount. -/
  money : ℚ
  /-- The random and time-dependent part of the trade number. -/
  reference : String
  now : Int
  /-- The checks that do not touch the order went through. -/
  accepted : Bool

def intPart (d : ℚ) : Int := d.num.tdiv d.den

section

variable (cfg : CheckoutSettings) (ctx : CheckoutContext)

/-- The least amount of a checkout, in the unit that is displayed. -/
def getMinTopup : Int :=
  if cfg.displayTokens then
    match walletQuotaFromDecimalStrict (cfg.minTopUp * cfg.quotaPerUnit) with
    | .ok quota => quota
    | .error _ => maxWalletQuota
  else cfg.minTopUp

/-- The quota that an amount will credit. -/
def getTopUpQuota (amount : Int) : Except QuotaClamp Int :=
  if cfg.displayTokens then
    walletQuotaFromDecimalStrict
      (intPart (amount / cfg.quotaPerUnit) * cfg.quotaPerUnit)
  else walletQuotaFromDecimalStrict (amount * cfg.quotaPerUnit)

/-- `getStripeMinTopup` has no bound on its product. -/
def getStripeMinTopup : Int :=
  if cfg.displayTokens then cfg.stripeMinTopUp * intPart cfg.quotaPerUnit
  else cfg.stripeMinTopUp

/-- A converted quota that is positive and fits into the wallet: `validateTopUpQuota` or
`validateCreditedQuota`, and `ValidateTopUpQuotaCapacity`.

Source: `controller/topup.go` and `model/topup.go`. -/
def acceptsQuota (quota : Except QuotaClamp Int) : Bool :=
  match quota, ctx.userQuota with
  | .ok quota, some current =>
    0 < quota ∧ quota ≤ maxWalletQuota ∧ current ≤ maxWalletQuota - quota
  | _, _ => false

def newOrder (amount : Int) (money : ℚ) (tradeNo paymentMethod : String)
    (provider : PaymentProvider) : TopUp :=
  ⟨ctx.userId, amount, money, tradeNo, paymentMethod, provider, ctx.now, 0, .pending⟩

/-- `RequestEpay`: the pending order, or none if the checkout is refused. -/
def requestEpay (amount : Int) (paymentMethod : String) : Option TopUp :=
  if amount < getMinTopup cfg then none
  else if acceptsQuota ctx (getTopUpQuota cfg amount) = false then none
  else if ctx.money < 1 / 100 ∨ ctx.accepted = false then none
  else
    let stored := if cfg.displayTokens then intPart (amount / cfg.quotaPerUnit)
      else amount
    some (newOrder ctx stored ctx.money ("USR" ++ toString ctx.userId ++ "NO" ++ ctx.reference)
      paymentMethod .epay)

/-- `StripeAdaptor.RequestPay`. -/
def requestStripe (amount : Int) (paymentMethod : String) : Option TopUp :=
  if paymentMethod ≠ "stripe" then none
  else if amount < getStripeMinTopup cfg ∨ 10000 < amount then none
  else if acceptsQuota ctx
      (walletQuotaFromDecimalStrict (ctx.money * cfg.quotaPerUnit)) = false then none
  else if ctx.accepted = false then none
  else some (newOrder ctx amount ctx.money ("ref_" ++ ctx.reference) "stripe" .stripe)

/-- `CreemAdaptor.RequestPay`; the order stores the quota of the product. -/
def requestCreem (productId : String) : Option TopUp :=
  if productId = "" then none
  else
    match cfg.creemProducts.find? fun product => product.productId = productId with
    | none => none
    | some product =>
      if acceptsQuota ctx (walletQuotaFromDecimalStrict product.quota) = false then none
      else if ctx.accepted = false then none
      else some (newOrder ctx product.quota product.price ("ref_" ++ ctx.reference) "creem" .creem)

/-- `RequestWaffoPay`. -/
def requestWaffo (amount : Int) : Option TopUp :=
  if amount < cfg.waffoMinTopUp then none
  else if acceptsQuota ctx (getTopUpQuota cfg amount) = false then none
  else if ctx.money < 1 / 100 ∨ ctx.accepted = false then none
  else
    let stored :=
      if cfg.displayTokens then max (intPart (amount / cfg.quotaPerUnit)) 1 else amount
    some (newOrder ctx stored ctx.money ("WAFFO-" ++ toString ctx.userId ++ "-" ++ ctx.reference)
      "waffo" .waffo)

def normalizeWaffoPancakeTopUpAmount (amount : Int) : Int :=
  if cfg.displayTokens = false then amount
  else if intPart (amount / cfg.quotaPerUnit) < 1 then 1
  else intPart (amount / cfg.quotaPerUnit)

/-- `RequestWaffoPancakePay`. -/
def requestWaffoPancake (amount : Int) : Option TopUp :=
  if amount < cfg.waffoPancakeMinTopUp then none
  else if acceptsQuota ctx (getTopUpQuota cfg amount) = false then none
  else if ctx.money < 1 / 100 ∨ ctx.accepted = false then none
  else some (newOrder ctx (normalizeWaffoPancakeTopUpAmount cfg amount) ctx.money
    ("WAFFO_PANCAKE-" ++ toString ctx.userId ++ "-" ++ ctx.reference) "waffo_pancake" .waffoPancake)

end

inductive CheckoutRequest
  | epay (amount : Int) (paymentMethod : String)
  | stripe (amount : Int) (paymentMethod : String)
  | creem (productId : String)
  | waffo (amount : Int)
  | waffoPancake (amount : Int)

def CheckoutRequest.order (cfg : CheckoutSettings) (ctx : CheckoutContext) :
    CheckoutRequest → Option TopUp
  | epay amount paymentMethod => requestEpay cfg ctx amount paymentMethod
  | stripe amount paymentMethod => requestStripe cfg ctx amount paymentMethod
  | creem productId => requestCreem cfg ctx productId
  | waffo amount => requestWaffo cfg ctx amount
  | waffoPancake amount => requestWaffoPancake cfg ctx amount

/-! ### Completing it -/

structure CallbackArgs where
  actualPaymentMethod : String
  customerId : String
  customerEmail : String
  customerName : String

/-- The callback of the provider that the order names. -/
def completeByProvider (perUnit : ℚ) (ans : TopUpReply) (now : Int) (args : CallbackArgs)
    (x : TopUpRows) : Except TopUpError Int × TopUpRows :=
  match x.topUp.paymentProvider with
  | .epay => rechargeEpay perUnit ans now x x.topUp.tradeNo args.actualPaymentMethod
  | .stripe => recharge perUnit ans now x x.topUp.tradeNo args.customerId
  | .creem => rechargeCreem ans now x x.topUp.tradeNo args.customerEmail args.customerName
  | .waffo => rechargeWaffo perUnit ans now x x.topUp.tradeNo
  | .waffoPancake => rechargeWaffoPancake perUnit ans now x x.topUp.tradeNo
  | .unset | .balance => (.error .paymentMethodMismatch, x)

/-! ### What a completion credits -/

section

variable {x : TopUpRows} {d : ℚ}

/-- The quota of the user after a credit of `d` units of quota, if it goes through. -/
def creditedQuota (x : TopUpRows) (d : ℚ) : Option Int :=
  match quotaToAdd d with
  | .error _ => x.userQuota
  | .ok quota =>
    x.userQuota.map fun current =>
      if current + quota ≤ maxWalletQuota then current + quota else current

/-- A body that runs through exactly if the credit of `d` does, and then makes it. -/
structure Credits (body : TopUpTx Int) (x : TopUpRows) (d : ℚ) : Prop where
  sound : ∀ quota y, exec body x = (.ok quota, y) → ∃ user, quotaToAdd d = .ok quota ∧
    x.user = some user ∧ user.quota + quota ≤ maxWalletQuota ∧
    y.userQuota = some (user.quota + quota)
  complete : ∀ quota user, quotaToAdd d = .ok quota → x.user = some user →
    user.quota + quota ≤ maxWalletQuota → ∃ y, exec body x = (.ok quota, y)

theorem Credits.userQuota {body : TopUpTx Int} (h : Credits body x d) :
    (transaction TopUpReply.allOk.commitError body x).2.userQuota = creditedQuota x d := by
  unfold creditedQuota
  rcases transaction_cases TopUpReply.allOk.commitError body x with
    ⟨e, herror⟩ | ⟨quota, y, hok, hexec⟩
  · rw [herror]
    rcases hquota : quotaToAdd d with e | quota
    · rfl
    rcases huser : x.user with - | user
    · simp [TopUpRows.userQuota, huser]
    -- the body would have run through if there had been room
    have hfull : ¬ user.quota + quota ≤ maxWalletQuota := by
      intro hroom
      obtain ⟨y, hexec⟩ := h.complete quota user hquota huser hroom
      have hok : transaction TopUpReply.allOk.commitError body x = (.ok quota, y) :=
        transaction_ok_iff.mpr ⟨rfl, hexec⟩
      rw [herror] at hok
      cases hok
    simp [TopUpRows.userQuota, huser, hfull]
  · obtain ⟨user, hquota, huser, hroom, hy⟩ := h.sound quota y hexec
    rw [hok, hquota]
    change y.userQuota = _
    rw [hy]
    simp [TopUpRows.userQuota, huser, hroom]

theorem IdempotentRecharge.credits (c : IdempotentRecharge) (now : Int)
    (hprovider : ∀ p ∈ c.provider, x.topUp.paymentProvider = p)
    (hpend : x.topUp.status = .pending) :
    Credits (c.body .allOk now x.topUp.tradeNo) x (c.decimalQuota x.topUp) where
  sound quota y hexec := by
    obtain ⟨-, -, ⟨hdone, -, -⟩ | ⟨-, hquota, -, -, user, huser, hroom, rfl⟩⟩ :=
      c.exec_body_ok_iff.mp hexec
    · rw [hpend] at hdone
      cases hdone
    · exact ⟨user, hquota, huser, hroom, rfl⟩
  complete quota user hquota huser hroom :=
    ⟨_, c.exec_body_ok_iff.mpr ⟨⟨rfl, rfl⟩, hprovider,
      .inr ⟨hpend, hquota, rfl, rfl, user, huser, hroom, rfl⟩⟩⟩

theorem OneShotRecharge.credits (c : OneShotRecharge) (now : Int)
    (hprovider : x.topUp.paymentProvider = c.provider) (hpend : x.topUp.status = .pending)
    (hreads : ∀ {z z' : TopUpRows} {f : PayingUser → PayingUser},
      exec (c.updates .allOk) z = (.ok f, z') → z = z')
    (hruns : ∀ z : TopUpRows, z.user ≠ none → ∃ f, exec (c.updates .allOk) z = (.ok f, z)) :
    Credits (c.body .allOk now x.topUp.tradeNo) x (c.decimalQuota x.topUp) where
  sound quota y hexec := by
    obtain ⟨-, -, -, hquota, -, -, f, z, user, hf, huser, hroom, rfl⟩ :=
      c.exec_body_ok_iff.mp hexec
    obtain rfl := hreads hf
    exact ⟨user, hquota, huser, hroom, rfl⟩
  complete quota user hquota huser hroom := by
    obtain ⟨f, hf⟩ := hruns { x with topUp := x.topUp.complete now } (by simp [huser])
    exact ⟨_, c.exec_body_ok_iff.mpr ⟨⟨rfl, rfl⟩, hprovider, hpend, hquota, rfl, rfl, f, _, user,
      hf, huser, hroom, rfl⟩⟩

theorem creemUpdates_runs {email : String} (z : TopUpRows) (hz : z.user ≠ none) :
    ∃ f, exec (creemUpdates email .allOk) z = (.ok f, z) := by
  obtain ⟨topUp, user⟩ := z
  obtain ⟨user, rfl⟩ := ne_none_iff_exists'.mp hz
  unfold creemUpdates
  split_ifs <;> exact ⟨_, rfl⟩

theorem reportFailure_rows (r : Except TopUpError Int × TopUpRows) : (reportFailure r).2 = r.2 := by
  obtain ⟨_ | _, _⟩ := r <;> rfl

end

/-! ### Comparing the completions -/

structure Created (topUp : TopUp) : Prop where
  pending : topUp.status = .pending
  tradeNo : topUp.tradeNo ≠ ""
  provider : topUp.paymentProvider ≠ .unset ∧ topUp.paymentProvider ≠ .balance
  creem : topUp.paymentProvider = .creem → 0 < topUp.amount ∧ topUp.amount ≤ maxWalletQuota

theorem acceptsQuota_intCast {ctx : CheckoutContext} {n : Int}
    (h : acceptsQuota ctx (walletQuotaFromDecimalStrict n) ≠ false) :
    0 < n ∧ n ≤ maxWalletQuota := by
  unfold acceptsQuota at h
  split at h
  next quota current hquota _ =>
    obtain ⟨hround, -, -⟩ := walletQuotaFromDecimalStrict_ok_iff.mp hquota
    rw [roundHalfAway_intCast] at hround
    simp only [Bool.not_eq_false, decide_eq_true_eq] at h
    omega
  · exact absurd rfl h

theorem newOrder_created (ctx : CheckoutContext) (money : ℚ) (paymentMethod : String) {amount : Int}
    {tradeNo : String} {provider : PaymentProvider} (htradeNo : tradeNo ≠ "")
    (hprovider : provider ≠ .unset ∧ provider ≠ .balance)
    (hcreem : provider = .creem → 0 < amount ∧ amount ≤ maxWalletQuota) :
    Created (newOrder ctx amount money tradeNo paymentMethod provider) :=
  ⟨rfl, htradeNo, hprovider, hcreem⟩

open CheckoutRequest

theorem CheckoutRequest.order_created {cfg : CheckoutSettings} {ctx : CheckoutContext}
    {request : CheckoutRequest} {topUp : TopUp} (h : request.order cfg ctx = some topUp) :
    Created topUp := by
  cases request with
  | stripe amount paymentMethod =>
    simp only [order, requestStripe, ite_eq_iff, reduceCtorEq, and_false, false_or] at h
    obtain ⟨-, -, -, -, h⟩ := h
    obtain rfl := some.inj h
    exact newOrder_created ctx _ _ (by simp) (by decide) nofun
  | creem productId =>
    simp only [order, requestCreem] at h
    cases hproduct : cfg.creemProducts.find? fun product => product.productId = productId with
    | none => simp [hproduct] at h
    | some product =>
      simp only [hproduct, ite_eq_iff, reduceCtorEq, and_false, false_or] at h
      obtain ⟨-, haccept, -, h⟩ := h
      obtain rfl := some.inj h
      exact newOrder_created ctx _ _ (by simp) (by decide) fun _ => acceptsQuota_intCast haccept
  | _ =>
    simp only [order, requestEpay, requestWaffo, requestWaffoPancake, ite_eq_iff,
      reduceCtorEq, and_false, false_or] at h
    obtain ⟨-, -, -, h⟩ := h
    obtain rfl := some.inj h
    exact newOrder_created ctx _ _ (by simp) (by decide) nofun

section

variable (perUnit : ℚ) (now : Int) {x : TopUpRows}

def manualQuota (topUp : TopUp) : ℚ :=
  if topUp.paymentProvider = .stripe then moneyQuota perUnit topUp
  else amountQuota perUnit topUp

def providerQuota (topUp : TopUp) : ℚ :=
  if topUp.paymentProvider = .creem then topUp.amount else manualQuota perUnit topUp

theorem manualCompleteTopUp_userQuota (h : Created x.topUp) :
    (manualCompleteTopUp perUnit .allOk now x x.topUp.tradeNo).2.userQuota =
      creditedQuota x (manualQuota perUnit x.topUp) := by
  unfold manualCompleteTopUp
  rw [if_neg h.tradeNo]
  exact (IdempotentRecharge.credits _ now (fun p hp => by cases hp) h.pending).userQuota

theorem completeByProvider_userQuota (args : CallbackArgs) (h : Created x.topUp) :
    (completeByProvider perUnit .allOk now args x).2.userQuota =
      creditedQuota x (providerQuota perUnit x.topUp) := by
  have hexpected (q : PaymentProvider) (hq : x.topUp.paymentProvider = q) :
      ∀ p ∈ some q, x.topUp.paymentProvider = p := fun p hp => hq.trans (some.inj hp)
  unfold completeByProvider providerQuota manualQuota
  cases hprovider : x.topUp.paymentProvider with
  | unset => exact absurd hprovider h.provider.1
  | balance => exact absurd hprovider h.provider.2
  | epay =>
    unfold rechargeEpay
    rw [if_neg h.tradeNo]
    exact (IdempotentRecharge.credits _ now (hexpected _ hprovider) h.pending).userQuota
  | stripe =>
    unfold recharge
    rw [if_neg h.tradeNo, reportFailure_rows]
    refine (OneShotRecharge.credits _ now hprovider h.pending (fun hf => ?_)
      fun z _ => ⟨_, rfl⟩).userQuota
    cases hf
    rfl
  | creem =>
    unfold rechargeCreem
    rw [if_neg h.tradeNo, reportFailure_rows]
    exact (OneShotRecharge.credits _ now hprovider h.pending exec_creemUpdates
      creemUpdates_runs).userQuota
  | waffo =>
    unfold rechargeWaffo
    rw [if_neg h.tradeNo, reportFailure_rows]
    exact (IdempotentRecharge.credits _ now (hexpected _ hprovider) h.pending).userQuota
  | waffoPancake =>
    unfold rechargeWaffoPancake
    rw [if_neg h.tradeNo, reportFailure_rows]
    exact (IdempotentRecharge.credits _ now (hexpected _ hprovider) h.pending).userQuota

theorem creditedQuota_empty {topUp : TopUp} {n : Int} (hn : 0 < n ∧ n ≤ maxWalletQuota) (d : ℚ) :
    creditedQuota ⟨topUp, some ⟨0, "", ""⟩⟩ d = some n ↔ roundHalfAway d = n := by
  have hquota : quotaToAdd d = .ok n ↔ roundHalfAway d = n := by
    rw [quotaToAdd_ok_iff]
    exact ⟨fun h => h.1, fun h => ⟨h, hn⟩⟩
  rw [← hquota]
  unfold creditedQuota
  cases hd : quotaToAdd d with
  | error e =>
    simp only [TopUpRows.userQuota, map_some, some.injEq, reduceCtorEq, iff_false]
    omega
  | ok quota =>
    have hroom : quota ≤ maxWalletQuota := (quotaToAdd_ok_iff.mp hd).2.2
    simp [TopUpRows.userQuota, hroom]

theorem creditedQuota_congr {d d' : ℚ} (h : roundHalfAway d = roundHalfAway d') :
    creditedQuota x d = creditedQuota x d' := by
  unfold creditedQuota quotaToAdd walletQuotaFromDecimalStrict
  rw [h]

/-- **Manual completion against the provider.** For every order that a checkout creates, the manual
completion and the callback of its provider leave every user with the same quota, exactly if the
order is not of Creem or its amount times `QuotaPerUnit` still rounds to the amount. -/
theorem manual_agrees_iff {cfg : CheckoutSettings} {ctx : CheckoutContext}
    {request : CheckoutRequest} {topUp : TopUp} (h : request.order cfg ctx = some topUp) :
    (∀ user args now, (manualCompleteTopUp cfg.quotaPerUnit .allOk now ⟨topUp, user⟩
          topUp.tradeNo).2.userQuota =
        (completeByProvider cfg.quotaPerUnit .allOk now args ⟨topUp, user⟩).2.userQuota) ↔
      (topUp.paymentProvider = .creem →
        (topUp.amount : ℚ) - 1 / 2 ≤ topUp.amount * cfg.quotaPerUnit ∧
          topUp.amount * cfg.quotaPerUnit < topUp.amount + 1 / 2) := by
  have hcreated := order_created h
  have hboth (user : Option PayingUser) (args : CallbackArgs) (now : Int) :
      ((manualCompleteTopUp cfg.quotaPerUnit .allOk now ⟨topUp, user⟩ topUp.tradeNo).2.userQuota =
        (completeByProvider cfg.quotaPerUnit .allOk now args ⟨topUp, user⟩).2.userQuota) ↔
      creditedQuota ⟨topUp, user⟩ (manualQuota cfg.quotaPerUnit topUp) =
        creditedQuota ⟨topUp, user⟩ (providerQuota cfg.quotaPerUnit topUp) := by
    rw [completeByProvider_userQuota cfg.quotaPerUnit now args hcreated,
      ← manualCompleteTopUp_userQuota cfg.quotaPerUnit now hcreated]
  simp only [hboth]
  by_cases hcreem : topUp.paymentProvider = .creem
  · have hamount := hcreated.creem hcreem
    have hmanual : manualQuota cfg.quotaPerUnit topUp = topUp.amount * cfg.quotaPerUnit := by
      simp [manualQuota, amountQuota, hcreem]
    have hprovider : providerQuota cfg.quotaPerUnit topUp = topUp.amount := by
      simp [providerQuota, hcreem]
    rw [hmanual, hprovider, ← roundHalfAway_eq_iff hamount.1]
    constructor
    · -- an empty wallet shows the two credits
      intro hall _
      have hempty := hall (some ⟨0, "", ""⟩) ⟨"", "", "", ""⟩ 0
      rw [(creditedQuota_empty hamount (topUp.amount : ℚ)).mpr (roundHalfAway_intCast _)] at hempty
      exact (creditedQuota_empty hamount _).mp hempty
    · intro hround user _ _
      exact creditedQuota_congr ((hround hcreem).trans (roundHalfAway_intCast _).symm)
  · have hsame : providerQuota cfg.quotaPerUnit topUp = manualQuota cfg.quotaPerUnit topUp := by
      simp [providerQuota, hcreem]
    rw [hsame]
    exact ⟨fun _ h => absurd h hcreem, fun _ _ _ _ => rfl⟩

end

def creemSettings : CheckoutSettings :=
  ⟨500000, false, 1, 1, 1, 1, [⟨"prod_1", 10, 5000000⟩]⟩

def emptyWallet : CheckoutContext := ⟨1, some 0, 10, "8c5d", 0, true⟩

def epayOrder : TopUp := ⟨1, 10, 10, "USR1NO8c5d", "alipay", .epay, 0, 0, .pending⟩

theorem manual_agrees_epayOrder :
    (CheckoutRequest.epay 10 "alipay").order creemSettings emptyWallet = some epayOrder ∧
      ∀ user args now,
        (manualCompleteTopUp 500000 .allOk now ⟨epayOrder, user⟩ "USR1NO8c5d").2.userQuota =
          (completeByProvider 500000 .allOk now args ⟨epayOrder, user⟩).2.userQuota := by
  have horder : (epay 10 "alipay").order creemSettings emptyWallet = some epayOrder := by
    decide +kernel
  exact ⟨horder, (manual_agrees_iff horder).mpr nofun⟩

def creemOrder : TopUp := ⟨1, 5000000, 10, "ref_8c5d", "creem", .creem, 0, 0, .pending⟩

/-- The callback credits the product's quota; the manual completion credits it as if it were an
amount of units. -/
theorem manual_creem_overcredits :
    (CheckoutRequest.creem "prod_1").order creemSettings emptyWallet = some creemOrder ∧
      (completeByProvider 500000 .allOk 1 ⟨"", "", "", ""⟩
        ⟨creemOrder, some ⟨0, "", ""⟩⟩).2.userQuota = some 5000000 ∧
      (manualCompleteTopUp 500000 .allOk 1 ⟨creemOrder, some ⟨0, "", ""⟩⟩
        "ref_8c5d").2.userQuota = some 2500000000000 := by
  decide +kernel

end NewApi.Controller
