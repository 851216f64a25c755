import NewApi.Foundation.GoMap
import NewApi.Model.Task
import NewApi.Service.RequestBilling

/-!
# Submission of asynchronous tasks

`executeTaskSubmissionWith` of `controller/relay.go` with `RelayTaskSubmit` of
`relay/relay_task.go`: a task is priced and submitted to a channel, with retries on other channels,
then the final quota is reserved, the task is stored, and the charge is settled. The first attempt
that is not free opens the billing session; every return before the task is stored refunds it.

The adaptors, the channel selection and the request context are inputs: their errors, the cost of a
billing expression, the ratios an adaptor adds, and at which points the client has gone away. The
messages of the errors are left out, and so are the diagnostics.

Further source: `relay/helper/price.go`.
-/

namespace NewApi.Controller

open Common Model Service BillingSession

/-! ### Errors -/

/-- `TaskError`. -/
structure TaskError where
  noRetry : Bool
  code : String
  statusCode : ℕ
  localError : Bool

def taskErrorWrapper (code : String) (statusCode : ℕ) : TaskError :=
  ⟨false, code, statusCode, false⟩

def taskErrorWrapperLocal (code : String) (statusCode : ℕ) : TaskError :=
  { taskErrorWrapper code statusCode with localError := true }

def errorCodeText : ErrorCode → String
  | .insufficientUserQuota => "insufficient_user_quota"
  | .preConsumeTokenQuotaFailed => "pre_consume_token_quota_failed"
  | .updateDataError => "update_data_error"
  | .queryDataError => "query_data_error"

/-- `TaskErrorFromAPIError` of the errors of `PreConsumeBilling`. -/
def taskErrorFromAPIError : BillingError → TaskError
  | .session e | .reserve e => taskErrorWrapper (errorCodeText e.code) e.statusCode
  | .quotaClamp _ | .negativePreConsume _ | .expression => taskErrorWrapper "model_price_error" 400
  | .imageCount _ => taskErrorWrapper "invalid_request" 400

structure TaskRetrySettings where
  skipRetryAfterAffinityFailure : Bool
  suppressesRetry : Bool
  alwaysSkipRetryStatusCode : ℕ → Bool

/-- `shouldRetryTaskRelay` of an error. -/
def shouldRetryTaskRelay (cfg : TaskRetrySettings) (taskErr : TaskError) (retryTimes : Int) :
    Bool :=
  if taskErr.noRetry then false
  else if cfg.skipRetryAfterAffinityFailure then false
  else if retryTimes ≤ 0 then false
  else if cfg.suppressesRetry then false
  else if taskErr.statusCode = 429 then true
  else if taskErr.statusCode = 307 then true
  else if taskErr.statusCode / 100 = 5 then !cfg.alwaysSkipRetryStatusCode taskErr.statusCode
  else if taskErr.statusCode = 400 then false
  else if taskErr.statusCode = 408 then false
  else if taskErr.localError then false
  else if taskErr.statusCode / 100 = 2 then false
  else true

/-! ### Prices -/

structure TaskPriceData where
  freeModel : Bool
  modelPrice : ℚ
  modelRatio : ℚ
  usePrice : Bool
  quota : Int
  groupRatio : ℚ
  otherRatios : GoMap String ℚ

structure TaskSnapshot where
  groupRatio : ℚ
  quotaPerUnit : ℚ

namespace TaskPriceData

/-- `AddOtherRatio`: a ratio must be positive. -/
def addOtherRatio (p : TaskPriceData) (r : String × ℚ) : TaskPriceData :=
  if 0 < r.2 then { p with otherRatios := p.otherRatios.insert r.1 r.2 } else p

/-- `ReplaceOtherRatios`, without its result. -/
def replaceOtherRatios (p : TaskPriceData) (ratios : List (String × ℚ)) : TaskPriceData :=
  ratios.foldl addOtherRatio { p with otherRatios := ∅ }

def otherRatioMultiplier (p : TaskPriceData) : ℚ :=
  (p.otherRatios.entries.map fun e => e.2).prod

end TaskPriceData

/-- The settings behind the price of a model: the configured or default price, the ratio and whether
it is set, and the flags that `ModelPriceHelperPerCall` reads. -/
structure TaskPriceConfig where
  modelPrice : Option ℚ
  modelRatio : ℚ
  ratioSuccess : Bool
  acceptUnsetRatio : Bool
  enableFreeModelPreConsume : Bool

/-- The two cases of `ModelPriceHelperPerCall`: the price in units of quota before the ratio of the
group, and what makes the model free. -/
def perCallPrice (config : TaskPriceConfig) (quotaPerUnit groupRatio base value : ℚ)
    (priceData : TaskPriceData) : Except TaskError TaskPriceData :=
  match quotaFromFloatStrict (base * quotaPerUnit * groupRatio) with
  | .error _ => .error (taskErrorWrapper "model_price_error" 400)
  | .ok quota =>
    if config.enableFreeModelPreConsume = false ∧ (groupRatio = 0 ∨ value = 0) then
      .ok { priceData with quota := 0, freeModel := true }
    else .ok { priceData with quota := quota }

/-- `ModelPriceHelperPerCall`, with the error of its caller. -/
def modelPriceHelperPerCall (config : TaskPriceConfig) (quotaPerUnit groupRatio : ℚ) :
    Except TaskError TaskPriceData :=
  match config.modelPrice with
  | some modelPrice =>
    perCallPrice config quotaPerUnit groupRatio modelPrice modelPrice
      ⟨false, modelPrice, 0, true, 0, groupRatio, ∅⟩
  | none =>
    if config.ratioSuccess = false ∧ config.acceptUnsetRatio = false then
      .error (taskErrorWrapper "model_price_error" 400)
    else
      -- half of the ratio of the model is charged in advance
      perCallPrice config quotaPerUnit groupRatio (config.modelRatio / 2) config.modelRatio
        ⟨false, -1, config.modelRatio, false, 0, groupRatio, ∅⟩

/-! ### One attempt -/

/-- How a task is priced: by a billing expression, with its cost or the error before it, or per
call. -/
inductive TaskPricingMode
  | tiered (cost : Except TaskError ℚ)
  | perCall (config : TaskPriceConfig)

structure ImmediateTask where
  status : TaskStatus
  progress : String
  reason : String
  url : String
  hasUsageFacts : Bool

/-- The parsed answer of the upstream, the cost of the billing expression on its usage (`none` if it
cannot be evaluated), and the ratios of `AdjustBillingOnSubmit`. -/
structure ParsedTask where
  upstreamTaskId : String
  taskData : String
  pluginState : String
  immediate : Option ImmediateTask
  completionCost : Option ℚ
  adjustedRatios : List (String × ℚ)

/-- The inputs of one attempt: the error of the adaptor, the model mapping or the validation; the
price; whether the model has a fixed price (`TaskPricePatches`); the ratios of the adaptor; the
replies to the pre-charge; and the answer of the upstream or the error on the way to it. -/
structure TaskAttempt where
  validate : Option TaskError
  pricing : TaskPricingMode
  groupRatio : ℚ
  quotaPerUnit : ℚ
  pricePatched : Bool
  estimatedRatios : Except TaskError (List (String × ℚ))
  openReplies : OpenReplies
  response : Except TaskError ParsedTask

structure TaskRequest where
  request : BilledRequest
  priceData : TaskPriceData
  snapshot : Option TaskSnapshot

structure TaskSubmitResult where
  upstreamTaskId : String
  taskData : String
  quota : Int
  immediate : Option ImmediateTask
  pluginState : String
  pricePatched : Bool

namespace TaskRequest

def noteTaskQuotaClamp (x : TaskRequest) (clamp : Option QuotaClamp) : TaskRequest :=
  { x with request := x.request.noteQuotaClamp clamp }

/-- The price of an attempt. -/
def price (x : TaskRequest) (a : TaskAttempt) : Except TaskError TaskRequest :=
  match a.pricing with
  | .tiered (.error e) => .error e
  | .tiered (.ok cost) =>
    if cost < 0 then .error (taskErrorWrapper "model_price_error" 400)
    else
      let res := quotaRoundChecked (cost * a.quotaPerUnit * a.groupRatio)
      .ok { x.noteTaskQuotaClamp res.2 with
        priceData := ⟨false, 0, 0, false, res.1, a.groupRatio, ∅⟩
        snapshot := some ⟨a.groupRatio, a.quotaPerUnit⟩ }
  | .perCall config =>
    match modelPriceHelperPerCall config a.quotaPerUnit a.groupRatio with
    | .error e => .error e
    | .ok priceData => .ok { x with priceData := priceData }

/-- The ratios of the adaptor, unless a billing expression has priced the task. -/
def estimate (x : TaskRequest) (a : TaskAttempt) : TaskRequest × Option TaskError :=
  match x.snapshot with
  | some _ => (x, none)
  | none =>
    match a.estimatedRatios with
    | .error e => (x, some e)
    | .ok ratios =>
      let priceData := ratios.foldl TaskPriceData.addOtherRatio x.priceData
      if a.pricePatched then ({ x with priceData := priceData }, none)
      else
        let res := quotaFromFloatChecked (priceData.quota * priceData.otherRatioMultiplier)
        ({ x with priceData := { priceData with quota := res.1 } }.noteTaskQuotaClamp res.2, none)

/-- The pre-charge of the first attempt that is not free. -/
def preConsume (x : TaskRequest) (a : TaskAttempt) : TaskRequest × Option TaskError :=
  if x.request.billing = none ∧ x.priceData.freeModel = false then
    let info := { x.request.info with forcePreConsume := true }
    let res := preConsumeBilling (x.request.setInfo info) x.priceData.quota a.openReplies
    ({ x with request := res.1 }, res.2.map taskErrorFromAPIError)
  else (x, none)

/-- `recalcQuotaFromRatios`: the base quota is what remains without the ratios so far. -/
def recalcQuotaFromRatios (x : TaskRequest) (ratios : List (String × ℚ)) :
    TaskRequest × Option Int :=
  let baseQuota := (x.priceData.quota : ℚ) / x.priceData.otherRatioMultiplier
  let priceData := x.priceData.replaceOtherRatios ratios
  if priceData.otherRatios.len = 0 then (x, none)
  else
    let res := quotaFromFloatChecked (baseQuota * priceData.otherRatioMultiplier)
    (x.noteTaskQuotaClamp res.2, some res.1)

/-- The quota after the answer of the upstream. -/
def adjust (x : TaskRequest) (parsed : ParsedTask) : TaskRequest × Int :=
  if parsed.immediate.any fun i => i.status = .failure then (x, 0)
  else match x.snapshot with
    | some snap =>
      if parsed.immediate.any fun i => i.status = .success ∧ i.hasUsageFacts then
        match parsed.completionCost with
        | none => (x, x.priceData.quota)
        | some cost =>
          -- a negative cost is an error, and the reserved quota is kept
          if cost * snap.quotaPerUnit < 0 then (x, x.priceData.quota)
          else
            let res := quotaRoundChecked (cost * snap.quotaPerUnit * snap.groupRatio)
            (x.noteTaskQuotaClamp res.2, res.1)
      else (x, x.priceData.quota)
    | none =>
      if parsed.adjustedRatios = [] then (x, x.priceData.quota)
      else match x.recalcQuotaFromRatios parsed.adjustedRatios with
        | (x, none) => (x, x.priceData.quota)
        | (x, some quota) =>
          ({ x with priceData := x.priceData.replaceOtherRatios parsed.adjustedRatios }, quota)

end TaskRequest

/-- `RelayTaskSubmit`: one attempt. -/
def relayTaskSubmit (x : TaskRequest) (a : TaskAttempt) :
    TaskRequest × Except TaskError TaskSubmitResult :=
  match a.validate with
  | some e => (x, .error e)
  | none =>
    match x.price a with
    | .error e => (x, .error e)
    | .ok x =>
      match x.estimate a with
      | (x, some e) => (x, .error e)
      | (x, none) =>
        match x.preConsume a with
        | (x, some e) => (x, .error e)
        | (x, none) =>
          match a.response with
          | .error e => (x, .error e)
          | .ok parsed =>
            let res := x.adjust parsed
            ({ res.1 with priceData := { res.1.priceData with quota := res.2 } },
              .ok ⟨parsed.upstreamTaskId, parsed.taskData, res.2, parsed.immediate,
                parsed.pluginState, a.pricePatched⟩)

/-! ### The submission -/

/-- The inputs of one round of the retry loop: whether the client is gone before or after the
attempt, and the error of the channel selection or of the request body. -/
structure SubmissionRound where
  cancelledBefore : Bool
  channelErr : Option TaskError
  attempt : TaskAttempt
  cancelledAfter : Bool

structure SubmissionEnv where
  retryTimes : Int
  retrySettings : TaskRetrySettings
  cancelledFirst : Bool
  rounds : ℕ → SubmissionRound
  cancelledBeforeReserve : Bool
  reserveReplies : ReserveReplies
  cancelledBeforeInsert : Bool
  insertOk : Bool
  settleReplies : SettleReplies
  serverAddress : String
  publicTaskId : String
  channelId : Int
  tokenId : Int
  now : Int

def requestCancelled : TaskError := taskErrorWrapperLocal "request_cancelled" 408

variable (submit : TaskRequest → TaskAttempt → TaskRequest × Except TaskError TaskSubmitResult)
  (env : SubmissionEnv)

/-- The retry loop with `n` rounds left; `taskErr` is the error of the round before. -/
def submitLoop : ℕ → ℕ → TaskRequest → Option TaskError →
    TaskRequest × Except TaskError (Option TaskSubmitResult)
  | 0, _, x, none => (x, .ok none)
  | 0, _, x, some e => (x, .error e)
  | n + 1, retry, x, _ =>
    let round := env.rounds retry
    if round.cancelledBefore then (x, .error requestCancelled)
    else match round.channelErr with
      | some e => (x, .error e)
      | none =>
        match submit x round.attempt with
        | (x, res) =>
          if round.cancelledAfter then (x, .error requestCancelled)
          else match res with
            | .ok result => (x, .ok (some result))
            | .error e =>
              if shouldRetryTaskRelay env.retrySettings e (env.retryTimes - retry) then
                submitLoop n (retry + 1) x (some e)
              else (x, .error e)

structure SubmissionOutcome where
  request : TaskRequest
  task : Option Task
  error : Option TaskError

/-- A return before the task is stored: the deferred function refunds the session. -/
def abortSubmission (x : TaskRequest) (e : TaskError) : SubmissionOutcome :=
  ⟨{ x with request := refundBilling x.request }, none, some e⟩

def taskBillingSource : Option BillingSource → TaskBillingSource
  | none => .unset
  | some .wallet => .wallet
  | some .subscription => .subscription

/-- The result URL of a task that is finished at once. -/
def immediateResultUrl (immediate : ImmediateTask) : String :=
  if immediate.url ≠ "" then immediate.url
  else if immediate.status = .success then
    env.serverAddress ++ "/v1/videos/" ++ env.publicTaskId ++ "/content"
  else ""

/-- The task that is stored. -/
def submittedTask (x : TaskRequest) (result : TaskSubmitResult) : Task where
  taskId := env.publicTaskId
  channelId := env.channelId
  quota := result.quota
  status := (result.immediate.map (·.status)).getD .notStart
  failReason := (result.immediate.map fun i => if i.status = .failure then i.reason else "").getD ""
  submitTime := env.now
  startTime := 0
  finishTime := if result.immediate.any (·.status.isDone) then env.now else 0
  progress := (result.immediate.map (·.progress)).getD "0%"
  data := result.taskData
  upstreamTaskId := result.upstreamTaskId
  resultUrl := (result.immediate.map (immediateResultUrl env)).getD ""
  billingSource := taskBillingSource x.request.info.billingSource
  subscriptionId := x.request.info.subscriptionId
  tokenId := env.tokenId
  billingContext := some ⟨result.pricePatched || x.priceData.usePrice, x.snapshot.isSome⟩
  pluginState := result.pluginState
  pollFailures := 0

/-- The reservation of the final quota on the session, if there is one. -/
def reserveFinal (x : TaskRequest) (quota : Int) : TaskRequest × Option TaskError :=
  match x.request.billing with
  | none => (x, none)
  | some s =>
    match s.reserve x.request.ledger quota env.reserveReplies with
    | (res, some _) => ({ x with request := x.request.setSession res },
        some (taskErrorWrapperLocal "insufficient_user_quota" 403))
    | (res, none) => ({ x with request := x.request.setSession res }, none)

/-- The submission after an attempt has succeeded: reserve, store, settle. -/
def finishSubmission (x : TaskRequest) (result : TaskSubmitResult) : SubmissionOutcome :=
  if env.cancelledBeforeReserve then abortSubmission x requestCancelled
  else match reserveFinal env x result.quota with
    | (x, some e) => abortSubmission x e
    | (x, none) =>
      if env.cancelledBeforeInsert then abortSubmission x requestCancelled
      else if env.insertOk = false then
        abortSubmission x (taskErrorWrapperLocal "task_insert_failed" 500)
      else
        let res := settleBilling x.request result.quota env.settleReplies
        ⟨{ x with request := res.1 }, some (submittedTask env x result),
          res.2.map fun _ => taskErrorWrapperLocal "task_billing_settlement_failed" 500⟩

end NewApi.Controller
