import NewApi.Service.FundingSource

/-!
# Billing sessions

`BillingSession` of `service/billing_session.go`: the pre-charge of one request, later reservations
on top of it, and its settlement or refund. The methods hold the mutex of the session, so each call
is one step on the session and the ledger. The work that `Refund` hands to a goroutine is a
`RefundJob` of its own, run in a later step.

Quotas are Go `int`s and are modelled by `Int`. A reservation target exceeds a non-negative
`preConsumedQuota`, so the differences computed here stay in range.
-/

namespace NewApi.Service


/-! ### Data -/

/-- The fields of `RelayInfo` that a session reads or writes. `requestIsImage` says whether
`Request` is a `*dto.ImageRequest`. -/
structure RelayInfo where
  requestId : String
  userId : Int
  isPlayground : Bool
  requestIsImage : Bool
  imageRequestCount : Int
  forcePreConsume : Bool
  tokenUnlimited : Bool
  userQuota : Int
  finalPreConsumedQuota : Int
  billingSource : Option BillingSource
  subscriptionId : Int
  subscriptionPreConsumed : Int
  subscriptionPostDelta : Int
  subscriptionAmountTotal : Int
  subscriptionAmountUsedAfterPreConsume : Int
  subscriptionPlanId : Int
  subscriptionPlanTitle : String
  deriving DecidableEq, Repr

inductive ErrorCode
  | insufficientUserQuota
  | preConsumeTokenQuotaFailed
  | updateDataError
  | queryDataError
  deriving DecidableEq, Repr

inductive SessionError
  | token (e : TokenError)
  | funding (e : FundingError)
  /-- `用户额度不足, 剩余额度`. -/
  | balanceTooLow (userQuota : Int)
  /-- `预扣费额度失败, 用户剩余额度, 需要预扣费额度`. -/
  | preConsumeTooLarge (userQuota preConsumedQuota : Int)
  /-- `订阅额度不足或未配置订阅`. -/
  | subscriptionShort (e : FundingError)
  | query

structure NewAPIError where
  err : SessionError
  code : ErrorCode
  statusCode : ℕ

structure BillingSession where
  relayInfo : RelayInfo
  funding : FundingSource
  preConsumedQuota : Int
  tokenConsumed : Int
  extraReserved : Int
  trusted : Bool
  fundingSettled : Bool
  settled : Bool
  refunded : Bool
  deriving DecidableEq, Repr

def RelayInfo.imageRequest (info : RelayInfo) : Bool :=
  info.requestIsImage || decide (0 < info.imageRequestCount)

namespace BillingSession

/-- The fields of the request that the session mirrors. -/
def syncRelayInfo (s : BillingSession) : BillingSession :=
  let info := { s.relayInfo with
    finalPreConsumedQuota := s.preConsumedQuota
    billingSource := some s.funding.source }
  match s.funding with
  | .subscription sub =>
    { s with relayInfo := { info with
        subscriptionId := sub.subscriptionId
        subscriptionPreConsumed := sub.preConsumed + s.extraReserved
        subscriptionPostDelta := 0
        subscriptionAmountTotal := sub.amountTotal
        subscriptionAmountUsedAfterPreConsume := sub.amountUsedAfter + s.extraReserved
        subscriptionPlanId := sub.planId
        subscriptionPlanTitle := sub.planTitle } }
  | .wallet _ =>
    { s with relayInfo := { info with subscriptionId := 0, subscriptionPreConsumed := 0 } }

section

variable (s : BillingSession)

@[simp] theorem syncRelayInfo_unchanged : s.syncRelayInfo.funding = s.funding ∧
    s.syncRelayInfo.preConsumedQuota = s.preConsumedQuota ∧
    s.syncRelayInfo.tokenConsumed = s.tokenConsumed ∧
    s.syncRelayInfo.extraReserved = s.extraReserved ∧ s.syncRelayInfo.settled = s.settled ∧
    s.syncRelayInfo.refunded = s.refunded ∧ s.syncRelayInfo.fundingSettled = s.fundingSettled ∧
    s.syncRelayInfo.relayInfo.isPlayground = s.relayInfo.isPlayground := by
  unfold syncRelayInfo
  split <;> simp

theorem syncRelayInfo_subscriptionId {f : SubscriptionFunding} (h : s.funding = .subscription f) :
    s.syncRelayInfo.relayInfo.subscriptionId = f.subscriptionId := by
  simp [syncRelayInfo, h]

end

/-! ### Pre-consuming -/

/-- `shouldTrust`: a wallet with enough quota on both sides is not charged in advance. -/
def shouldTrust (s : BillingSession) (trustQuota tokenQuota : Int) : Bool :=
  if s.relayInfo.forcePreConsume then false
  else if trustQuota ≤ 0 then false
  else if !(s.relayInfo.tokenUnlimited || decide (trustQuota < tokenQuota)) then false
  else match s.funding.source with
    | .wallet => decide (trustQuota < s.relayInfo.userQuota)
    | .subscription => false

/-- What `preConsume` reads from its surroundings: `GetTrustQuota`, the token quota of the request
context, the replies to the updates, and the wallet quota quoted in an error. -/
structure PreConsumeEnv where
  trustQuota : Int
  tokenQuota : Int
  token : ReserveReply
  funding : PreConsumeFundingReplies
  rollback : Bool
  userQuota : Option Int

/-- The error that `preConsume` makes of an error of the funding source. -/
def preConsumeFundingError (userQuota : Option Int) : FundingError → NewAPIError
  | .insufficientWalletQuota => ⟨.balanceTooLow (userQuota.getD 0), .insufficientUserQuota, 403⟩
  | .subscription .noActiveSubscription =>
    ⟨.subscriptionShort (.subscription .noActiveSubscription), .insufficientUserQuota, 403⟩
  | .subscription (.quotaInsufficient need) =>
    ⟨.subscriptionShort (.subscription (.quotaInsufficient need)), .insufficientUserQuota, 403⟩
  | e => ⟨.funding e, .updateDataError, 500⟩

/-- The two steps of `preConsume` after the trust check: the token, then the funding source. A
failure of the second rolls the first one back. -/
def preConsumeSteps (s : BillingSession) (l : Ledger) (effectiveQuota : Int)
    (env : PreConsumeEnv) : (BillingSession × Ledger) × Option NewAPIError :=
  match (if 0 < effectiveQuota then
      preConsumeTokenQuota s.relayInfo.isPlayground l effectiveQuota env.token
    else (l, none)) with
  | (l, some e) => ((s, l), some ⟨.token e, .preConsumeTokenQuotaFailed, 403⟩)
  | (l, none) =>
    let s := if 0 < effectiveQuota then { s with tokenConsumed := effectiveQuota } else s
    match s.funding.preConsume l effectiveQuota env.funding with
    | ((funding, l), some e) =>
      let s := { s with funding := funding }
      if 0 < s.tokenConsumed ∧ s.relayInfo.isPlayground = false then
        (({ s with tokenConsumed := 0 }, (increaseTokenQuota l s.tokenConsumed env.rollback).1),
          some (preConsumeFundingError env.userQuota e))
      else ((s, l), some (preConsumeFundingError env.userQuota e))
    | ((funding, l), none) =>
      ((syncRelayInfo { s with funding := funding, preConsumedQuota := effectiveQuota }, l), none)

/-- `preConsume`. A trusted session is charged nothing in advance. -/
def preConsume (s : BillingSession) (l : Ledger) (quota : Int) (env : PreConsumeEnv) :
    (BillingSession × Ledger) × Option NewAPIError :=
  if s.shouldTrust env.trustQuota env.tokenQuota then
    preConsumeSteps { s with trusted := true } l 0 env
  else preConsumeSteps s l quota env

/-! ### Reserving more -/

structure ReserveReplies where
  funding : ReserveReply
  token : ReserveReply
  rollback : Bool
  deriving DecidableEq, Repr

/-- `reserveFunding`. An image request on the wallet goes through `WalletFunding.PreConsume`. -/
def reserveFunding (f : FundingSource) (l : Ledger) (delta : Int) (requireAvailableQuota : Bool)
    (ans : ReserveReply) : (FundingSource × Ledger) × Option NewAPIError :=
  match f with
  | .wallet w =>
    if requireAvailableQuota then
      match w.preConsume l delta ans with
      | ((w, l), some .insufficientWalletQuota) => ((.wallet w, l),
          some ⟨.funding .insufficientWalletQuota, .insufficientUserQuota, 403⟩)
      | ((w, l), some e) => ((.wallet w, l), some ⟨.funding e, .updateDataError, 500⟩)
      | ((w, l), none) => ((.wallet w, l), none)
    else if ans = .ok then
      ((.wallet { w with consumed := w.consumed + delta }, { l with wallet := l.wallet - delta }),
        none)
    else ((.wallet w, l), some ⟨.funding .database, .updateDataError, 500⟩)
  | .subscription s =>
    match SubscriptionFunding.adjust l s.subscriptionId delta (ans = .ok) with
    | (l, some e) =>
      ((.subscription s, l), some ⟨.subscriptionShort e, .insufficientUserQuota, 403⟩)
    | (l, none) => ((.subscription s, l), none)

/-- Gives a reservation back to the funding source. -/
def rollbackFundingReserve (f : FundingSource) (l : Ledger) (delta : Int) (dbOk : Bool) :
    FundingSource × Ledger :=
  match f with
  | .wallet w =>
    if dbOk then
      (.wallet { w with consumed := w.consumed - delta }, { l with wallet := l.wallet + delta })
    else (.wallet w, l)
  | .subscription s =>
    (.subscription s, (SubscriptionFunding.adjust l s.subscriptionId (-delta) dbOk).1)

/-- The playground has no token to charge. -/
def reserveToken (isPlayground : Bool) (l : Ledger) (delta : Int) (ans : ReserveReply) :
    Ledger × Option NewAPIError :=
  if delta ≤ 0 ∨ isPlayground then (l, none)
  else match preConsumeTokenQuota isPlayground l delta ans with
    | (l, some e) => (l, some ⟨.token e, .preConsumeTokenQuotaFailed, 403⟩)
    | (l, none) => (l, none)

/-- `Reserve` returns at once: the session is over, trusted, or holds enough already. -/
def SkipsReserve (s : BillingSession) (targetQuota : Int) : Prop :=
  s.settled ∨ s.refunded ∨ (s.trusted ∧ s.relayInfo.imageRequest = false) ∨
    targetQuota ≤ s.preConsumedQuota
  deriving Decidable

def addReserved (s : BillingSession) (delta : Int) : BillingSession :=
  syncRelayInfo { s with
    preConsumedQuota := s.preConsumedQuota + delta
    tokenConsumed := s.tokenConsumed + delta
    extraReserved := s.extraReserved + delta
    trusted := s.trusted && !s.relayInfo.imageRequest }

section

variable (s : BillingSession) (delta : Int)

attribute [simp] addReserved

theorem addReserved_subscriptionId {f : SubscriptionFunding} (h : s.funding = .subscription f) :
    (s.addReserved delta).relayInfo.subscriptionId = f.subscriptionId :=
  syncRelayInfo_subscriptionId { s with
    preConsumedQuota := s.preConsumedQuota + delta
    tokenConsumed := s.tokenConsumed + delta
    extraReserved := s.extraReserved + delta
    trusted := s.trusted && !s.relayInfo.imageRequest } h

end

/-- `Reserve`. The second test of the source, `delta <= 0`, cannot hold after the first. -/
def reserve (s : BillingSession) (l : Ledger) (targetQuota : Int) (r : ReserveReplies) :
    (BillingSession × Ledger) × Option NewAPIError :=
  if s.SkipsReserve targetQuota then ((s, l), none)
  else
    let delta := targetQuota - s.preConsumedQuota
    match reserveFunding s.funding l delta s.relayInfo.imageRequest r.funding with
    | ((funding, l), some e) => (({ s with funding := funding }, l), some e)
    | ((funding, l), none) =>
      match reserveToken s.relayInfo.isPlayground l delta r.token with
      | (l, some e) =>
        let rolled := rollbackFundingReserve funding l delta r.rollback
        (({ s with funding := rolled.1 }, rolled.2), some e)
      | (l, none) => (({ s with funding := funding }.addReserved delta, l), none)

/-! ### Settling and refunding -/

structure SettleReplies where
  funding : Bool
  token : Bool

/-- The token part of `Settle`: nothing for a playground request. -/
def settleToken (isPlayground : Bool) (l : Ledger) (delta : Int) (dbOk : Bool) :
    Ledger × Option TokenError :=
  if isPlayground then (l, none)
  else if 0 < delta then decreaseTokenQuota l delta dbOk
  else increaseTokenQuota l (-delta) dbOk

def markSettled (s : BillingSession) (delta : Int) : BillingSession :=
  { s with
    fundingSettled := true
    settled := true
    relayInfo := if s.funding.source = .subscription then
        { s.relayInfo with subscriptionPostDelta := s.relayInfo.subscriptionPostDelta + delta }
      else s.relayInfo }

/-- `Settle`. It looks at `settled` and `fundingSettled` only. -/
def settle (s : BillingSession) (l : Ledger) (actualQuota : Int) (r : SettleReplies) :
    (BillingSession × Ledger) × Option SessionError :=
  if s.settled then ((s, l), none)
  else
    let delta := actualQuota - s.preConsumedQuota
    if delta = 0 then (({ s with settled := true }, l), none)
    else
      match (if s.fundingSettled then (l, none) else s.funding.settle l delta r.funding) with
      | (l, some e) => ((s, l), some (.funding e))
      | (l, none) =>
        let t := settleToken s.relayInfo.isPlayground l delta r.token
        ((s.markSettled delta, t.1), t.2.map .token)

/-- `needsRefundLocked`. -/
def needsRefund (s : BillingSession) : Bool :=
  if s.settled || s.refunded || s.fundingSettled then false
  else if 0 < s.tokenConsumed then true
  else match s.funding with
    | .subscription sub => decide (0 < sub.preConsumed)
    | .wallet _ => false

end BillingSession

/-- What the goroutine of `Refund` works with. The funding source is shared with the session, which
changes it in `Reserve` only, and `Reserve` does nothing on a refunded session. -/
structure RefundJob where
  isPlayground : Bool
  tokenConsumed : Int
  extraReserved : Int
  subscriptionId : Int
  funding : FundingSource

/-- `Refund` up to the start of its goroutine. -/
def BillingSession.refund (s : BillingSession) : BillingSession × Option RefundJob :=
  if s.settled || s.refunded || !s.needsRefund then (s, none)
  else ({ s with refunded := true }, some
    ⟨s.relayInfo.isPlayground, s.tokenConsumed, s.extraReserved, s.relayInfo.subscriptionId,
      s.funding⟩)

structure RefundJobReplies where
  funding : FundingSource.Replies
  extra : Bool
  token : Bool

def RefundJobReplies.allOk : RefundJobReplies := ⟨⟨true, fun _ => .allOk⟩, true, true⟩

/-- The goroutine of `Refund`: the funding source, the extra reservation of a subscription, the
token. An error is logged and the next part runs. -/
def RefundJob.run (j : RefundJob) (l : Ledger) (r : RefundJobReplies) : Ledger :=
  let l := (j.funding.refund l r.funding).1
  let l := if 0 < j.extraReserved ∧ j.funding.source = .subscription ∧ 0 < j.subscriptionId then
      (SubscriptionFunding.adjust l j.subscriptionId (-j.extraReserved) r.extra).1
    else l
  if 0 < j.tokenConsumed ∧ j.isPlayground = false then
    (increaseTokenQuota l j.tokenConsumed r.token).1
  else l

/-! ### Opening a session -/

def walletSession (info : RelayInfo) : BillingSession :=
  ⟨info, .wallet ⟨0⟩, 0, 0, 0, false, false, false, false⟩

def subscriptionSession (info : RelayInfo) (subConsume : Int) : BillingSession :=
  ⟨info, .subscription ⟨info.requestId, info.userId, subConsume, 0, 0, 0, 0, 0, ""⟩, 0, 0, 0,
    false, false, false, false⟩

/-- A session and its ledger, or the error with the relay info and the ledger it leaves. -/
abbrev OpenResult := Except (NewAPIError × RelayInfo × Ledger) (BillingSession × Ledger)

/-- A session exists once its pre-consume has succeeded. -/
def openSession (s : BillingSession) (l : Ledger) (quota : Int)
    (env : BillingSession.PreConsumeEnv) : OpenResult :=
  match s.preConsume l quota env with
  | ((s, l), none) => .ok (s, l)
  | ((s, l), some e) => .error (e, s.relayInfo, l)

/-- `tryWallet`. `userQuota` is the answer of `GetUserQuota`. -/
def tryWallet (info : RelayInfo) (l : Ledger) (preConsumedQuota : Int) (userQuota : Option Int)
    (env : BillingSession.PreConsumeEnv) : OpenResult :=
  match userQuota with
  | none => .error (⟨.query, .queryDataError, 500⟩, info, l)
  | some q =>
    if q ≤ 0 then .error (⟨.balanceTooLow q, .insufficientUserQuota, 403⟩, info, l)
    else if q - preConsumedQuota < 0 then
      .error (⟨.preConsumeTooLarge q preConsumedQuota, .insufficientUserQuota, 403⟩, info, l)
    else openSession (walletSession { info with userQuota := q }) l preConsumedQuota env

/-- `trySubscription`: at least one unit is charged. -/
def trySubscription (info : RelayInfo) (l : Ledger) (preConsumedQuota : Int)
    (env : BillingSession.PreConsumeEnv) : OpenResult :=
  let subConsume := if preConsumedQuota ≤ 0 then 1 else preConsumedQuota
  openSession (subscriptionSession info subConsume) l subConsume env

inductive BillingPreference
  | subscriptionFirst
  | walletFirst
  | subscriptionOnly
  | walletOnly
  deriving DecidableEq, Repr

def normalizeBillingPreference (pref : String) : BillingPreference :=
  if GoText.trimSpace pref = "wallet_first" then .walletFirst
  else if GoText.trimSpace pref = "subscription_only" then .subscriptionOnly
  else if GoText.trimSpace pref = "wallet_only" then .walletOnly
  else .subscriptionFirst

/-- The reads of `NewBillingSession`; `none` is a failed read. Each attempt to open a session has
its own replies. -/
structure NewSessionEnv where
  userQuota : Option Int
  hasActiveSubscription : Option Bool
  allowWalletOverflow : Option Bool
  wallet : BillingSession.PreConsumeEnv
  subscription : BillingSession.PreConsumeEnv

/-- `NewBillingSession` on a relay info that is not `nil`. -/
def newBillingSession (info : RelayInfo) (l : Ledger) (pref : String) (preConsumedQuota : Int)
    (env : NewSessionEnv) : OpenResult :=
  match normalizeBillingPreference pref with
  | .subscriptionOnly => trySubscription info l preConsumedQuota env.subscription
  | .walletOnly => tryWallet info l preConsumedQuota env.userQuota env.wallet
  | .walletFirst =>
    match tryWallet info l preConsumedQuota env.userQuota env.wallet with
    | .ok x => .ok x
    | .error (e, info, l) =>
      if e.code = .insufficientUserQuota then
        trySubscription info l preConsumedQuota env.subscription
      else .error (e, info, l)
  | .subscriptionFirst =>
    match env.hasActiveSubscription with
    | none => .error (⟨.query, .queryDataError, 500⟩, info, l)
    | some false => tryWallet info l preConsumedQuota env.userQuota env.wallet
    | some true =>
      match trySubscription info l preConsumedQuota env.subscription with
      | .ok x => .ok x
      | .error (e, info, l) =>
        if e.code = .insufficientUserQuota then
          match env.allowWalletOverflow with
          | none => .error (⟨.query, .queryDataError, 500⟩, info, l)
          | some true => tryWallet info l preConsumedQuota env.userQuota env.wallet
          | some false => .error (e, info, l)
        else .error (e, info, l)

end NewApi.Service
