import NewApi.Common.QuotaMath
import NewApi.Model.BatchUpdate
import NewApi.Model.UserCache

/-!
# Concurrent access to one wallet

`TryReserveUserQuota` (`model/quota_reserve.go`), `GetUserCache` (`model/user_cache.go`),
`IncreaseUserQuota` and `DecreaseUserQuota` (`model/user.go`) as threads over the three copies of
one user's balance: the user row, the deltas of the batch updater, and the Redis hash. One step of a
thread is one Lua script, one read of Redis, one SQL statement or one `addNewRecord`; between two
steps anything else may happen. The asynchronous cache updates that `IncreaseUserQuota` and
`DecreaseUserQuota` hand to the goroutine pool are threads of their own.

A thread that returned keeps the Boolean that `TryReserveUserQuota` returned; the error that may
come with `false` is not kept.
-/

namespace NewApi.Model

open Common

structure QuotaSettings where
  redisEnabled : Bool
  batchUpdateEnabled : Bool

/-- The stores behind one wallet: the batch updater with the database columns, the `auth_version` of
the user row, and the Redis keys of the user. -/
structure Wallet where
  batch : BatchState
  authVersion : Int
  cache : UserCache

/-- What the stores answer to one step: whether Redis can be reached, and whether the SQL statement
runs without error on an existing row. -/
structure StoreReply where
  redis : Bool
  db : Bool

inductive HydrateState
  | readCache
  | readRow
  | readFloor (user : UserBase)
  | populate (user : UserBase)
  /-- `ok` tells whether the error is `nil`. -/
  | returned (ok : Bool)
  deriving DecidableEq, Repr

inductive ReserveState
  | script
  | hydrate (h : HydrateState)
  | retry
  | reserveDB
  | persist
  | compensate
  | returned (granted : Bool)
  deriving DecidableEq, Repr

inductive QuotaThread
  | tryReserve (quota : Int64) (s : ReserveState)
  | getUserCache (h : HydrateState)
  | increase (quota : Int64) (db : Bool)
  | decrease (quota : Int64) (db : Bool)
  | cacheIncr (delta : Int64)
  | done
  deriving DecidableEq, Repr

structure QuotaState where
  wallet : Wallet
  threads : List QuotaThread

/-- New calls, the expiry or invalidation of the hash, flushes, whose writes take effect, and the
next step of thread `k`. -/
inductive QuotaEvent
  | tryReserve (quota : Int64)
  | getUserCache
  | increase (quota : Int64) (db : Bool)
  | decrease (quota : Int64) (db : Bool)
  | expire
  | startFlush
  | flush (k : ℕ) (key : Int)
  | step (k : ℕ) (ans : StoreReply)

/-! ### Statements on the wallet -/

namespace Wallet

variable (w : Wallet) (id : Int)

def dbQuota : Int := persisted .userQuota id w.batch

def pendingQuota : Int := pending .userQuota id w.batch

def trueBalance : Int := balance .userQuota id w.batch

def addQuota (v : Int) : Wallet :=
  { w with batch := { w.batch with db := w.batch.db.credit .userQuota id v } }

def addNewRecord (v : Int64) : Wallet :=
  { w with batch := batchStep w.batch (.add .userQuota id v) }

def setCache (cache : UserCache) : Wallet := { w with cache := cache }

def getUserById : UserBase := ⟨id, w.dbQuota id, w.authVersion⟩

end Wallet

section

variable (cfg : QuotaSettings) (id : Int) (ans : StoreReply) (w : Wallet)

/-- The next step of `GetUserCache`. An unreachable Redis is no error here; the read of the two
version keys after the hash only decides with it whether the hash is used. -/
def HydrateState.step : HydrateState → HydrateState × Wallet
  | readCache =>
    if cfg.redisEnabled ∧ ans.redis ∧ (cacheGetUserBase w.cache id).isSome then
      (returned true, w)
    else (readRow, w)
  | readRow =>
    if !ans.db then (returned false, w)
    else if cfg.redisEnabled then (readFloor (w.getUserById id), w)
    else (returned true, w)
  | readFloor user =>
    if ans.redis ∧ user.authVersion < getUserAuthVersionFloor w.cache then (returned false, w)
    else (populate user, w)
  | populate user =>
    if !ans.redis then (returned true, w)
    else
      match writeUserCache w.cache user true with
      | .ok cache => (returned true, w.setCache cache)
      | .error .authCachePending => (returned false, w)
      | .error .invalidAuthVersion => (returned true, w)
  | returned ok => (returned ok, w)

/-- The reserve script within `TryReserveUserQuota`: where the call goes on after a hit, and, with
`onMiss`, after a miss. -/
def reserveScript (quota : Int64) (onMiss : ReserveState) : ReserveState × Wallet :=
  if !ans.redis then (.reserveDB, w)
  else
    match cacheTryReserveUserQuota w.cache id quota.toInt with
    | (.miss, _) => (onMiss, w)
    | (.insufficient, _) => (.returned false, w)
    | (.ok, cache) => (.persist, w.setCache cache)

/-- A conditional update: the quota must cover the reservation. -/
def reserveUserQuotaDB (quota : Int) : Bool × Wallet :=
  if ans.db ∧ quota ≤ w.dbQuota id then (true, w.addQuota id (-quota))
  else (false, w)

/-- `persistUserQuotaDelta`; the Boolean tells whether the error is `nil`. -/
def persistUserQuotaDelta (delta : Int64) : Bool × Wallet :=
  if cfg.batchUpdateEnabled then (true, w.addNewRecord id delta)
  else if ans.db then (true, w.addQuota id delta.toInt)
  else (false, w)

/-- The next step of `TryReserveUserQuota` with a positive quota. -/
def ReserveState.step (quota : Int64) : ReserveState → ReserveState × Wallet
  | script => reserveScript id ans w quota (hydrate .readCache)
  | hydrate h =>
    match h.step cfg id ans w with
    | (.returned true, w') => (retry, w')
    | (.returned false, w') => (reserveDB, w')
    | (h', w') => (hydrate h', w')
  | retry => reserveScript id ans w quota reserveDB
  | reserveDB => (returned (reserveUserQuotaDB id ans w quota.toInt).1,
      (reserveUserQuotaDB id ans w quota.toInt).2)
  | persist =>
    match persistUserQuotaDelta cfg id ans w (-quota) with
    | (true, w') => (returned true, w')
    | (false, w') => (compensate, w')
  | compensate =>
    (returned false,
      if ans.redis then w.setCache (cacheApplyUserQuotaDelta w.cache id quota.toInt).2 else w)
  | returned granted => (returned granted, w)

def cacheIncrUserQuota (delta : Int) : Wallet :=
  if cfg.redisEnabled ∧ ans.redis then
    w.setCache (cacheApplyUserQuotaDelta w.cache id delta).2
  else w

/-- `increaseUserQuota`; the Boolean tells whether the error is `nil`. -/
def increaseUserQuota (quota : Int) : Bool × Wallet :=
  if ans.db ∧ w.dbQuota id ≤ maxWalletQuota - quota then (true, w.addQuota id quota)
  else (false, w)

/-- The next step of a thread. `IncreaseUserQuota` starts its goroutine after its write, so the
thread goes on as that goroutine. -/
def QuotaThread.step : QuotaThread → QuotaThread × Wallet
  | tryReserve quota s => (tryReserve quota (s.step cfg id ans w quota).1,
      (s.step cfg id ans w quota).2)
  | getUserCache h => (getUserCache (h.step cfg id ans w).1,
      (h.step cfg id ans w).2)
  | increase quota db =>
    if db = false ∧ cfg.batchUpdateEnabled then (cacheIncr quota, w.addNewRecord id quota)
    else
      match increaseUserQuota id ans w quota.toInt with
      | (true, w') => (cacheIncr quota, w')
      | (false, w') => (done, w')
  | decrease quota db =>
    if db = false ∧ cfg.batchUpdateEnabled then (done, w.addNewRecord id (-quota))
    else (done, if ans.db then w.addQuota id (-quota.toInt) else w)
  | cacheIncr delta => (done, cacheIncrUserQuota cfg id ans w delta.toInt)
  | done => (done, w)

end

variable (cfg : QuotaSettings) (id : Int)

/-- The threads that a call starts. Bad arguments are rejected before anything is touched; a quota
of `0` is reserved without a look at the balance. `DecreaseUserQuota` starts its goroutine first. -/
def spawned : QuotaEvent → List QuotaThread
  | .tryReserve quota =>
    if quota < 0 then [.tryReserve quota (.returned false)]
    else if quota = 0 then [.tryReserve quota (.returned true)]
    else if cfg.redisEnabled then [.tryReserve quota .script]
    else [.tryReserve quota .reserveDB]
  | .getUserCache => [.getUserCache .readCache]
  | .increase quota db =>
    if quota < 0 ∨ validateWalletQuota quota.toInt = false then [.done] else [.increase quota db]
  | .decrease quota db =>
    if quota < 0 then [.done] else [.cacheIncr (-quota), .decrease quota db]
  | .expire | .startFlush | .flush _ _ | .step _ _ => []

def quotaStep (x : QuotaState) (e : QuotaEvent) : QuotaState :=
  match e with
  | .tryReserve _ | .getUserCache | .increase _ _ | .decrease _ _ =>
    { x with threads := x.threads ++ spawned cfg e }
  | .expire => { x with wallet := x.wallet.setCache { x.wallet.cache with hash := none } }
  | .startFlush => { x with wallet := { x.wallet with batch := batchStep x.wallet.batch .start } }
  | .flush k key =>
    { x with wallet := { x.wallet with batch := batchStep x.wallet.batch (.flush k key true) } }
  | .step k ans =>
    match x.threads[k]? with
    | none => x
    | some t =>
      ⟨(t.step cfg id ans x.wallet).2,
        x.threads.set k (t.step cfg id ans x.wallet).1⟩

theorem toInt_neg_of_nonneg {quota : Int64} (h : 0 ≤ quota.toInt) :
    (-quota).toInt = -quota.toInt := by
  have hhigh := quota.toInt_lt
  rw [Int64.toInt_neg, Int.bmod_eq_of_le (by omega) (by omega)]

end NewApi.Model
