import NewApi.Common.QuotaMath
import NewApi.Service.BillingSession

/-!
# The charges of one request

What `controller/relay.go` and the services it calls do to the balances of a user during one
request: the pre-charge, the re-pricing before each attempt, the charges of a realtime stream, the
settlement, and after a failure the refund and the violation fee.

The funding source of a request is chosen in `NewBillingSession`, which `PreConsumeBilling` calls.
A request whose estimate is free skips it and has no session. Three charges do not go through the
session but through `PostConsumeQuota`, which reads the funding source off the relay info: the
settlement of a request without a session, the charges of a realtime stream, and the violation fee.

Prices and ratios are rational numbers; the rounding of `float64` products is not modelled. The
relay info is shared by the request and its session, so `BilledRequest.info` is the copy inside the
session as soon as there is one.

Further source: `service/quota.go`.
-/

namespace NewApi.Service

open Common Model BillingSession GoText

/-! ### Data -/

structure PriceData where
  freeModel : Bool
  quotaToPreConsume : Int
  groupRatio : ℚ

/-- `BillingSnapshot` of the mode `tiered_expr`: the estimate of a billing expression.
`countsImages` says whether `EstimatedImageCount` is set. -/
structure BillingSnapshot where
  groupRatio : ℚ
  estimatedQuotaBeforeGroup : ℚ
  estimatedQuotaAfterGroup : Int
  countsImages : Bool

/-- A request as far as its charges are concerned: the fields of `RelayInfo` that are not in
`NewApi.Service.RelayInfo`, the balances, and the refunds that have been started. -/
structure BilledRequest where
  relayInfo : RelayInfo
  billing : Option BillingSession
  billingPreference : String
  usePrice : Bool
  priceData : PriceData
  tieredBillingSnapshot : Option BillingSnapshot
  quotaClamp : Option QuotaClamp
  ledger : Ledger
  jobs : List RefundJob

inductive BillingError
  /-- `model_price_error`: an estimate that is out of range. -/
  | quotaClamp (clamp : QuotaClamp)
  /-- `pre-consume quota cannot be negative`. -/
  | negativePreConsume (quota : Int)
  | session (e : NewAPIError)
  | reserve (e : NewAPIError)
  /-- `image_count must be an integer between 1 and 128`. -/
  | imageCount (count : Int)
  /-- The billing expression cannot be evaluated. -/
  | expression

/-- The errors of `PostConsumeQuota`, and of the checks before it in a realtime stream. -/
inductive PostConsumeError
  /-- `subscription id is missing`. -/
  | subscriptionIdMissing
  | funding (e : FundingError)
  | token (e : TokenError)
  | query
  /-- `user quota is not enough`. -/
  | userQuotaShort (userQuota quota : Int)
  /-- `token quota is not enough`. -/
  | tokenQuotaShort (remainQuota quota : Int)

inductive SettleError
  | session (e : SessionError)
  | postConsume (e : PostConsumeError)

namespace BilledRequest

def info (x : BilledRequest) : RelayInfo :=
  match x.billing with
  | some s => s.relayInfo
  | none => x.relayInfo

def setInfo (x : BilledRequest) (info : RelayInfo) : BilledRequest :=
  match x.billing with
  | some s => { x with billing := some { s with relayInfo := info } }
  | none => { x with relayInfo := info }

def setSession (x : BilledRequest) (r : BillingSession × Ledger) : BilledRequest :=
  { x with billing := some r.1, ledger := r.2 }

/-- `noteQuotaClamp`: the first saturation is kept. -/
def noteQuotaClamp (x : BilledRequest) (clamp : Option QuotaClamp) : BilledRequest :=
  match x.quotaClamp with
  | none => { x with quotaClamp := clamp }
  | some _ => x

end BilledRequest

/-! ### Opening a session -/

/-- The replies to the reads of `NewBillingSession`, and the times at which the subscriptions are
looked at. -/
structure OpenReplies where
  userQuota : Option Int
  activeAt : Int
  activeOk : Bool
  overflowAt : Int
  overflowOk : Bool
  wallet : PreConsumeEnv
  subscription : PreConsumeEnv

/-- The reads of `NewBillingSession` on the stored subscriptions. A failed attempt to charge a
subscription is rolled back, so both reads see the same rows. -/
def OpenReplies.env (o : OpenReplies) (info : RelayInfo) (l : Ledger) : NewSessionEnv where
  userQuota := o.userQuota
  hasActiveSubscription :=
    hasActiveUserSubscription l.subscription.subs info.userId o.activeAt o.activeOk
  allowWalletOverflow := userActiveSubscriptionsAllowWalletOverflow l.subscription.subs
    info.userId o.overflowAt o.overflowOk
  wallet := o.wallet
  subscription := o.subscription

/-- `PreConsumeBilling` refuses a noted clamp and a negative quota first. -/
def preConsumeBilling (x : BilledRequest) (preConsumedQuota : Int) (o : OpenReplies) :
    BilledRequest × Option BillingError :=
  match x.quotaClamp with
  | some clamp => (x, some (.quotaClamp clamp))
  | none =>
    if preConsumedQuota < 0 then (x, some (.negativePreConsume preConsumedQuota))
    else match newBillingSession x.info x.ledger x.billingPreference preConsumedQuota
        (o.env x.info x.ledger) with
      | .error (e, info, l) => ({ x.setInfo info with ledger := l }, some (.session e))
      | .ok r => (x.setSession r, none)

/-- The charge of `Relay` before its first attempt: a free estimate is not charged, and no session
is opened. -/
def startBilling (x : BilledRequest) (priceData : PriceData) (snapshot : Option BillingSnapshot)
    (clamp : Option QuotaClamp) (o : OpenReplies) : BilledRequest × Option BillingError :=
  let x := { x with priceData := priceData, tieredBillingSnapshot := snapshot }.noteQuotaClamp clamp
  if priceData.freeModel then (x, none)
  else preConsumeBilling x priceData.quotaToPreConsume o

/-! ### Re-pricing before an attempt -/

/-- An estimate that is charged before an attempt: it opens the session, or is reserved on it.

Source: `service/tiered_settle.go` and `service/image_billing.go`. -/
def chargeEstimate (x : BilledRequest) (quota : Int) (o : OpenReplies) (r : ReserveReplies) :
    BilledRequest × Option BillingError :=
  match x.billing with
  | none => preConsumeBilling x quota o
  | some s =>
    match s.reserve x.ledger quota r with
    | (res, some e) => (x.setSession res, some (.reserve e))
    | ((s, l), none) =>
      (x.setSession ({ s with
        relayInfo := { s.relayInfo with finalPreConsumedQuota := s.preConsumedQuota } }, l), none)

/-- The estimate of a snapshot after a change of the group. -/
def refreshTieredBillingGroup (x : BilledRequest) : Except QuotaClamp (Option BillingSnapshot) :=
  match x.tieredBillingSnapshot with
  | none => .ok none
  | some snap =>
    if snap.groupRatio = x.priceData.groupRatio then .ok (some snap)
    else match quotaRoundStrict (snap.estimatedQuotaBeforeGroup * x.priceData.groupRatio) with
      | .error clamp => .error clamp
      | .ok quota => .ok (some { snap with
          groupRatio := x.priceData.groupRatio, estimatedQuotaAfterGroup := quota })

def prepareTieredBillingForSelectedGroup (x : BilledRequest) (o : OpenReplies)
    (r : ReserveReplies) : BilledRequest × Option BillingError :=
  match refreshTieredBillingGroup x with
  | .error clamp => (x, some (.quotaClamp clamp))
  | .ok none => (x, none)
  | .ok (some snap) =>
    let x := { x with tieredBillingSnapshot := some snap }
    if snap.groupRatio = 0 then (x, none)
    else chargeEstimate { x with priceData := { x.priceData with freeModel := false } }
      snap.estimatedQuotaAfterGroup o r

def maxImageN : Int := 128

/-- The price of the images of an attempt before its conversion: of the billing expression, `none`
if it cannot be evaluated, and of a request that has no billing expression. -/
structure ImagePrice where
  expression : Option ℚ
  flat : ℚ

/-- The quota of the images of an attempt, with the snapshot that keeps it; `none` if the billing
expression does not count images.

Source: `service/image_billing.go`. -/
def imageQuota (x : BilledRequest) (price : ImagePrice) :
    Except BillingError (Option (Int × Option BillingSnapshot)) :=
  match x.tieredBillingSnapshot with
  | some snap =>
    if snap.countsImages = false then .ok none
    else match price.expression with
      | none => .error .expression
      | some beforeGroup =>
        match quotaRoundStrict (beforeGroup * x.priceData.groupRatio) with
        | .error clamp => .error (.quotaClamp clamp)
        | .ok quota => .ok (some (quota, some { snap with
            estimatedQuotaBeforeGroup := beforeGroup
            estimatedQuotaAfterGroup := quota
            groupRatio := x.priceData.groupRatio }))
  | none =>
    match quotaFromFloatStrict price.flat with
    | .error clamp => .error (.quotaClamp clamp)
    | .ok quota => .ok (some (quota, none))

def prepareImageBillingForRequest (x : BilledRequest) (count : Int) (price : ImagePrice)
    (o : OpenReplies) (r : ReserveReplies) : BilledRequest × Option BillingError :=
  if count < 1 ∨ maxImageN < count then (x, some (.imageCount count))
  else
    let x := x.setInfo { x.info with imageRequestCount := count }
    match imageQuota x price with
    | .error e => (x, some e)
    | .ok none => (x, none)
    | .ok (some (quota, snapshot)) =>
      let x := { x with
        tieredBillingSnapshot := snapshot
        priceData := { x.priceData with quotaToPreConsume := quota } }
      if quota = 0 ∧ x.billing = none then (x, none)
      else chargeEstimate { x with priceData := { x.priceData with freeModel := false } } quota o r

/-! ### Charges past the session -/

/-- The first part of `PostConsumeQuota`: the subscription of the relay info, or else the wallet. -/
def consumeFunding (info : RelayInfo) (l : Ledger) (quota : Int) (dbOk : Bool) :
    Except PostConsumeError (RelayInfo × Ledger) :=
  if info.billingSource = some .subscription then
    if info.subscriptionId = 0 then .error .subscriptionIdMissing
    else if quota = 0 then .ok (info, l)
    else match SubscriptionFunding.adjust l info.subscriptionId quota dbOk with
      | (_, some e) => .error (.funding e)
      | (l, none) =>
        .ok ({ info with subscriptionPostDelta := info.subscriptionPostDelta + quota }, l)
  else if 0 < quota then
    if dbOk then .ok (info, { l with wallet := l.wallet - quota })
    else .error (.funding .database)
  else if validateWalletQuota (-quota) = true ∧ dbOk = true then
    .ok (info, { l with wallet := l.wallet + -quota })
  else .error (.funding .database)

/-- `PostConsumeQuota`. The token is charged as by a settlement. -/
def postConsumeQuota (x : BilledRequest) (quota : Int) (r : SettleReplies) :
    BilledRequest × Option PostConsumeError :=
  match consumeFunding x.info x.ledger quota r.funding with
  | .error e => (x, some e)
  | .ok (info, l) =>
    let t := settleToken info.isPlayground l quota r.token
    ({ x.setInfo info with ledger := t.1 }, t.2.map .token)

def settleBilling (x : BilledRequest) (actualQuota : Int) (r : SettleReplies) :
    BilledRequest × Option SettleError :=
  match x.billing with
  | some s =>
    let res := s.settle x.ledger actualQuota r
    (x.setSession res.1, res.2.map .session)
  | none =>
    let quotaDelta := actualQuota - x.relayInfo.finalPreConsumedQuota
    if quotaDelta = 0 then (x, none)
    else
      let res := postConsumeQuota x quotaDelta r
      (res.1, res.2.map .postConsume)

/-- The reads of a charge of a realtime stream: the quota of the user, and of the token whether it
is unlimited and what remains. -/
structure WssReads where
  userQuota : Option Int
  token : Option (Bool × Int)

/-- The check of a charge of a realtime stream: the user and the token must have the quota. -/
def WssReads.check (reads : WssReads) (quota : Int) : Option PostConsumeError :=
  match reads.userQuota, reads.token with
  | some userQuota, some (unlimited, remainQuota) =>
    if userQuota < quota then some (.userQuotaShort userQuota quota)
    else if unlimited = false ∧ remainQuota < quota then some (.tokenQuotaShort remainQuota quota)
    else none
  | _, _ => some .query

/-- `PreWssConsumeQuota`; `quota` and `clamp` are the results of `calculateAudioQuota`. -/
def preWssConsumeQuota (x : BilledRequest) (quota : Int) (clamp : Option QuotaClamp)
    (reads : WssReads) (r : SettleReplies) : BilledRequest × Option PostConsumeError :=
  if x.usePrice then (x, none)
  else
    match reads.check quota with
    -- a read that fails returns before the quota is computed
    | some .query => (x, some .query)
    | some e => (x.noteQuotaClamp clamp, some e)
    | none => postConsumeQuota (x.noteQuotaClamp clamp) quota r

/-! ### The violation fee -/

/-- The error of an attempt: its text, the message of `ToOpenAIError`, and its code. -/
structure UpstreamError where
  text : String
  openAIMessage : String
  code : String

def violationFeeCodePrefix : String := "violation_fee."

def violationFeeGrokCSAM : String := "violation_fee.grok.csam"

def csamViolationMarker : String := "Failed check: SAFETY_CHECK_TYPE"

def contentViolatesUsageMarker : String := "Content violates usage guidelines"

/-- `HasCSAMViolationMarker`. The last test of the source repeats the second. -/
def hasCSAMViolationMarker (err : UpstreamError) : Bool :=
  contains err.text csamViolationMarker ||
    contains err.text contentViolatesUsageMarker ||
    contains err.openAIMessage csamViolationMarker

/-- `NormalizeViolationFeeError`, without the flag that stops the retries. -/
def normalizeViolationFeeError (err : UpstreamError) : UpstreamError :=
  if hasCSAMViolationMarker err then
    { err with text := err.openAIMessage, code := violationFeeGrokCSAM }
  else if hasPrefix err.code violationFeeCodePrefix then
    { err with text := err.openAIMessage }
  else err

def shouldChargeViolationFee (err : UpstreamError) : Bool :=
  decide (err.code = violationFeeGrokCSAM) || hasCSAMViolationMarker err

/-- The settings of the fee: `ViolationDeductionEnabled`, `ViolationDeductionAmount` and
`QuotaPerUnit`. -/
structure ViolationSettings where
  enabled : Bool
  amount : ℚ
  quotaPerUnit : ℚ

def calcViolationFeeQuota (cfg : ViolationSettings) (groupRatio : ℚ) : Int :=
  if cfg.amount ≤ 0 then 0
  else if groupRatio ≤ 0 then 0
  else
    let quota := quotaFromDecimal
      (roundHalfAway (cfg.amount * cfg.quotaPerUnit * groupRatio))
    if quota ≤ 0 then 0 else quota

/-- `ChargeViolationFeeIfNeeded`; the Boolean tells whether the fee has been charged. -/
def chargeViolationFeeIfNeeded (cfg : ViolationSettings) (x : BilledRequest)
    (err : UpstreamError) (r : SettleReplies) : BilledRequest × Bool :=
  if !shouldChargeViolationFee err then (x, false)
  else if !cfg.enabled then (x, false)
  else
    let feeQuota := calcViolationFeeQuota cfg x.priceData.groupRatio
    if feeQuota ≤ 0 then (x, false)
    else
      let res := postConsumeQuota x feeQuota r
      (res.1, res.2.isNone)

/-- The refund job runs later. -/
def refundBilling (x : BilledRequest) : BilledRequest :=
  match x.billing with
  | none => x
  | some s => { x with billing := some s.refund.1, jobs := x.jobs ++ s.refund.2.toList }

/-- The deferred function of `Relay` after a failure. -/
def failRequest (cfg : ViolationSettings) (x : BilledRequest) (err : UpstreamError)
    (r : SettleReplies) : BilledRequest × Bool :=
  chargeViolationFeeIfNeeded cfg (refundBilling x) (normalizeViolationFeeError err) r

/-! ### Steps -/

inductive BillingEvent
  /-- The request is priced, and charged unless the estimate is free. -/
  | start (priceData : PriceData) (snapshot : Option BillingSnapshot) (clamp : Option QuotaClamp)
      (o : OpenReplies)
  /-- A channel is selected, and with it the ratio of the group. -/
  | selectGroup (groupRatio : ℚ)
  | prepareTiered (o : OpenReplies) (r : ReserveReplies)
  | prepareImage (count : Int) (price : ImagePrice) (o : OpenReplies) (r : ReserveReplies)
  /-- A part of a realtime stream is charged. -/
  | stream (quota : Int) (clamp : Option QuotaClamp) (reads : WssReads) (r : SettleReplies)
  | settle (actualQuota : Int) (r : SettleReplies)
  /-- The request ends with an error. -/
  | fail (cfg : ViolationSettings) (err : UpstreamError) (r : SettleReplies)
  /-- The goroutine of a refund runs. -/
  | refundJob (k : ℕ) (r : RefundJobReplies)
  /-- Other programs use the token or the subscriptions. -/
  | elsewhere (token : Int) (subscription : SubscriptionStore)

def runRefundJob (x : BilledRequest) (k : ℕ) (r : RefundJobReplies) : BilledRequest :=
  match x.jobs[k]? with
  | none => x
  | some job => { x with ledger := job.run x.ledger r, jobs := x.jobs.eraseIdx k }

def billingStep (x : BilledRequest) : BillingEvent → BilledRequest
  | .start priceData snapshot clamp o => (startBilling x priceData snapshot clamp o).1
  | .selectGroup groupRatio => { x with priceData := { x.priceData with groupRatio := groupRatio } }
  | .prepareTiered o r => (prepareTieredBillingForSelectedGroup x o r).1
  | .prepareImage count price o r => (prepareImageBillingForRequest x count price o r).1
  | .stream quota clamp reads r => (preWssConsumeQuota x quota clamp reads r).1
  | .settle actualQuota r => (settleBilling x actualQuota r).1
  | .fail cfg err r => (failRequest cfg x err r).1
  | .refundJob k r => runRefundJob x k r
  | .elsewhere token subscription =>
    { x with ledger := { x.ledger with token := token, subscription := subscription } }

end NewApi.Service
