import NewApi.Model.Subscription

/-!
# Funding sources of a billing session

The `FundingSource` interface of `service/funding_source.go` with its two implementations, the
wallet and a subscription, and the balances they move. A `Ledger` holds what one session can
reach: the wallet quota of the user, the remaining quota of the token, and the subscription tables.
Every call takes the reply of the store as an argument
and returns the funding source and the ledger after the call with the Go error, `none` for `nil`.

The wallet quota is the balance behind `TryReserveUserQuota`, `IncreaseUserQuota` and
`DecreaseUserQuota`; where its three copies are kept is `NewApi.Model.QuotaReserve`.
-/

namespace NewApi.Service

open Model

structure Ledger where
  wallet : Int
  token : Int
  subscription : SubscriptionStore
  deriving DecidableEq

def Ledger.setSubs (l : Ledger) (subs : SubTable) : Ledger :=
  { l with subscription := { l.subscription with subs := subs } }

@[simp] theorem Ledger.setSubs_setSubs (l : Ledger) (subs subs' : SubTable) :
    (l.setSubs subs).setSubs subs' = l.setSubs subs' := rfl

@[simp] theorem Ledger.setSubs_self (l : Ledger) : l.setSubs l.subscription.subs = l := rfl

@[simp] theorem Ledger.setSubs_subs (l : Ledger) (subs : SubTable) :
    (l.setSubs subs).subscription.subs = subs := rfl

@[simp] theorem Ledger.setSubs_wallet (l : Ledger) (subs : SubTable) :
    (l.setSubs subs).wallet = l.wallet := rfl

@[simp] theorem Ledger.setSubs_token (l : Ledger) (subs : SubTable) :
    (l.setSubs subs).token = l.token := rfl

/-- The answers of an atomic reservation (`TryReserveUserQuota`, `TryReserveTokenQuota`): `true`,
`false`, or an error. -/
inductive ReserveReply
  | ok
  | refused
  | failed
  deriving DecidableEq, Repr

inductive FundingError
  | insufficientWalletQuota
  | database
  | subscription (e : SubscriptionError)

inductive BillingSource
  | wallet
  | subscription
  deriving DecidableEq, Repr

/-! ### The wallet -/

structure WalletFunding where
  consumed : Int
  deriving DecidableEq, Repr

namespace WalletFunding

/-- `WalletFunding.PreConsume`. The amount taken replaces what `consumed` held before. -/
def preConsume (w : WalletFunding) (l : Ledger) (amount : Int) (ans : ReserveReply) :
    (WalletFunding × Ledger) × Option FundingError :=
  if amount ≤ 0 then ((w, l), none)
  else match ans with
    | .failed => ((w, l), some .database)
    | .refused => ((w, l), some .insufficientWalletQuota)
    | .ok => (({ w with consumed := amount }, { l with wallet := l.wallet - amount }), none)

/-- `WalletFunding.Settle`: a positive difference is charged, a negative one given back. -/
def settle (l : Ledger) (delta : Int) (dbOk : Bool) : Ledger × Option FundingError :=
  if delta = 0 then (l, none)
  else if !dbOk then (l, some .database)
  else ({ l with wallet := l.wallet - delta }, none)

def refund (w : WalletFunding) (l : Ledger) (dbOk : Bool) : Ledger × Option FundingError :=
  if w.consumed ≤ 0 then (l, none)
  else if !dbOk then (l, some .database)
  else ({ l with wallet := l.wallet + w.consumed }, none)

end WalletFunding

/-! ### A subscription -/

structure SubscriptionFunding where
  requestId : String
  userId : Int
  amount : Int
  subscriptionId : Int
  preConsumed : Int
  amountTotal : Int
  amountUsedAfter : Int
  planId : Int
  planTitle : String
  deriving DecidableEq, Repr

/-- The replies to a pre-consume: of the wallet reservation, of the subscription transaction, and
of the lookup of the plan behind the charged subscription. -/
structure PreConsumeFundingReplies where
  wallet : ReserveReply
  subscription : PreConsumeReplies
  planInfo : Option (Int × String)

namespace SubscriptionFunding

def withPlan (s : SubscriptionFunding) : Option (Int × String) → SubscriptionFunding
  | some (planId, planTitle) => { s with planId := planId, planTitle := planTitle }
  | none => s

section

variable (s : SubscriptionFunding) (planInfo : Option (Int × String))

@[simp] theorem withPlan_unchanged : (s.withPlan planInfo).requestId = s.requestId ∧
    (s.withPlan planInfo).userId = s.userId ∧
    (s.withPlan planInfo).subscriptionId = s.subscriptionId ∧
    (s.withPlan planInfo).preConsumed = s.preConsumed := by
  cases planInfo <;> simp [withPlan]

end

/-- `SubscriptionFunding.PreConsume`: the argument is ignored, the amount is the one fixed when the
session was built. -/
def preConsume (s : SubscriptionFunding) (l : Ledger) (r : PreConsumeFundingReplies) :
    (SubscriptionFunding × Ledger) × Option FundingError :=
  match preConsumeUserSubscription l.subscription s.requestId s.userId s.amount r.subscription with
  | .error e => ((s, l), some (.subscription e))
  | .ok (res, st) =>
    let s := { s with
      subscriptionId := res.userSubscriptionId
      preConsumed := res.preConsumed
      amountTotal := res.amountTotal
      amountUsedAfter := res.amountUsedAfter }
    ((s.withPlan r.planInfo, { l with subscription := st }), none)

def adjust (l : Ledger) (subscriptionId delta : Int) (dbOk : Bool) :
    Ledger × Option FundingError :=
  match postConsumeUserSubscriptionDelta l.subscription.subs subscriptionId delta dbOk with
  | .error e => (l, some (.subscription e))
  | .ok subs => (l.setSubs subs, none)

def settle (s : SubscriptionFunding) (l : Ledger) (delta : Int) (dbOk : Bool) :
    Ledger × Option FundingError :=
  if delta = 0 then (l, none) else adjust l s.subscriptionId delta dbOk

def refund (s : SubscriptionFunding) (l : Ledger) (attempts : ℕ → RefundReplies) :
    Ledger × Option FundingError :=
  if s.preConsumed ≤ 0 then (l, none)
  else match refundWithRetry l.subscription s.requestId attempts with
    | (st, e) => ({ l with subscription := st }, e.map .subscription)

end SubscriptionFunding

/-! ### The interface -/

inductive FundingSource
  | wallet (w : WalletFunding)
  | subscription (s : SubscriptionFunding)
  deriving DecidableEq, Repr

namespace FundingSource

def source : FundingSource → BillingSource
  | wallet _ => .wallet
  | subscription _ => .subscription

def preConsume (f : FundingSource) (l : Ledger) (amount : Int) (r : PreConsumeFundingReplies) :
    (FundingSource × Ledger) × Option FundingError :=
  match f with
  | wallet w =>
    let res := w.preConsume l amount r.wallet
    ((wallet res.1.1, res.1.2), res.2)
  | subscription s =>
    let res := s.preConsume l r
    ((subscription res.1.1, res.1.2), res.2)

def settle (f : FundingSource) (l : Ledger) (delta : Int) (dbOk : Bool) :
    Ledger × Option FundingError :=
  match f with
  | wallet _ => WalletFunding.settle l delta dbOk
  | subscription s => s.settle l delta dbOk

/-- The replies to the updates of a refund: of the wallet, and of the statements of each attempt on
a subscription. -/
structure Replies where
  wallet : Bool
  attempts : ℕ → RefundReplies

def refund (f : FundingSource) (l : Ledger) (r : Replies) : Ledger × Option FundingError :=
  match f with
  | wallet w => w.refund l r.wallet
  | subscription s => s.refund l r.attempts

end FundingSource

/-! ### The token -/

inductive TokenError
  | negativeQuota
  | notEnough
  | database

/-- `PreConsumeTokenQuota` with the `TryReserveTokenQuota` it calls. A playground request has no
token to charge.

Source: `service/quota.go` and `model/quota_reserve.go`. -/
def preConsumeTokenQuota (isPlayground : Bool) (l : Ledger) (quota : Int) (ans : ReserveReply) :
    Ledger × Option TokenError :=
  if quota < 0 then (l, some .negativeQuota)
  else if isPlayground then (l, none)
  else if quota = 0 then (l, none)
  else match ans with
    | .failed => (l, some .database)
    | .refused => (l, some .notEnough)
    | .ok => ({ l with token := l.token - quota }, none)

def increaseTokenQuota (l : Ledger) (quota : Int) (dbOk : Bool) : Ledger × Option TokenError :=
  if quota < 0 then (l, some .negativeQuota)
  else if !dbOk then (l, some .database)
  else ({ l with token := l.token + quota }, none)

def decreaseTokenQuota (l : Ledger) (quota : Int) (dbOk : Bool) : Ledger × Option TokenError :=
  if quota < 0 then (l, some .negativeQuota)
  else if !dbOk then (l, some .database)
  else ({ l with token := l.token - quota }, none)

end NewApi.Service
