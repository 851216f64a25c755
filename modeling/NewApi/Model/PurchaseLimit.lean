import NewApi.Foundation.Locks
import NewApi.Model.Account
import NewApi.Model.SubscriptionPurchase

/-!
# The purchase limit of a plan, and the fulfilment of an order

Three paths create a subscription from a plan: the completion of a paid order, the binding by an
administrator and the purchase from the balance. Each is a transaction that locks the row of the
user before it counts the purchases; the completion locks the row of the order first. A transaction
holds its locks until it commits or is rolled back, and the steps of different transactions
interleave in any way. What a transaction reads after its last lock is the store at the grant of
that lock.

Source: `model/subscription.go`.
-/

namespace NewApi.Model

open StepSystem List Option Table

/-! ### The store -/

/-- A row of `subscription_orders`. -/
structure SubscriptionOrder where
  tradeNo : String
  userId : Int
  planId : Int
  paymentMethod : String
  paymentProvider : PaymentProvider
  status : TopUpStatus

structure PurchaseUser where
  id : Int
  group : String
  quota : Int

structure PlanRow where
  plan : SubscriptionPlan
  balance : BalancePlan

def PlanRow.id (row : PlanRow) : Int := row.plan.id

structure PurchaseStore where
  subs : Table SubscriptionRow.id
  orders : Table SubscriptionOrder.tradeNo
  users : Table PurchaseUser.id

inductive OrderError
  | tradeNoEmpty
  | orderNotFound
  | paymentMethodMismatch
  | orderStatusInvalid
  | row (e : RowError)
  | create (e : PurchaseError)

/-! ### Transactions -/

/-- A call of one of the purchase paths, or of `ExpireSubscriptionOrder`. No provider is expected if
`expected` is `none`. -/
inductive PurchaseCall
  | completeSubscriptionOrder (tradeNo : String) (expected : Option PaymentProvider)
      (actualPaymentMethod : String)
  | expireSubscriptionOrder (tradeNo : String) (expected : Option PaymentProvider)
  | adminBindSubscription (userId planId : Int)
  | purchaseSubscriptionWithBalance (userId planId : Int)

def StoredPlan (plans : Table PlanRow.id) : Type :=
  { row : PlanRow // plans.find row.id = some row }

def PendingOrder : Type := { order : SubscriptionOrder // order.status = .pending }

/-- What a purchase is made for: a pending order, with the payment method that was used; an
administrator; or a charge to the balance. -/
inductive PurchaseOrigin
  | order (order : PendingOrder) (actualPaymentMethod : String)
  | admin
  | balance (requiredQuota : Int)

/-- How far a transaction is: not begun; it holds the order; it holds the order to expire it; it
holds the user, with the store that it reads from; it is over. -/
inductive PurchaseThread (plans : Table PlanRow.id)
  | ready (call : PurchaseCall)
  | orderLocked (order : PendingOrder) (actualPaymentMethod : String) (plan : StoredPlan plans)
  | expiring (order : PendingOrder)
  | userLocked (userId : Int) (plan : StoredPlan plans) (origin : PurchaseOrigin)
      (view : PurchaseStore)
  | done (err : Option OrderError)

inductive RowLock
  | order (tradeNo : String)
  | user (id : Int)
  deriving DecidableEq, Repr

def PurchaseOrigin.pendingOrder : PurchaseOrigin → Option PendingOrder
  | .order pending _ => some pending
  | .admin | .balance _ => none

namespace PurchaseThread

variable {plans : Table PlanRow.id}

def pendingOrder : PurchaseThread plans → Option PendingOrder
  | .ready _ | .done _ => none
  | .orderLocked order _ _ | .expiring order => some order
  | .userLocked _ _ origin _ => origin.pendingOrder

def lockedUser : PurchaseThread plans → Option Int
  | .ready _ | .orderLocked _ _ _ | .expiring _ | .done _ => none
  | .userLocked userId _ _ _ => some userId

def holds (t : PurchaseThread plans) : List RowLock :=
  (t.lockedUser.map RowLock.user).toList ++
    (t.pendingOrder.map fun order => RowLock.order order.1.tradeNo).toList

end PurchaseThread

/-- The store, the transactions, and the trade number of the order for each subscription that was
created for one. The program does not keep the last. -/
structure PurchaseState (plans : Table PlanRow.id) where
  store : PurchaseStore
  pool : List (PurchaseThread plans)
  fulfilled : List String

open PurchaseState

open PurchaseThread

section

variable (perUnit : ℚ) {plans : Table PlanRow.id}

def getSubscriptionPlanById (plans : Table PlanRow.id) (planOk : Bool) (planId : Int) :
    Option (StoredPlan plans) :=
  if planOk then
    match h : plans.find planId with
    | none => none
    | some row => some ⟨row, (Table.mem_of_find h).2 ▸ h⟩
  else none

def SubscriptionOrder.Mismatch (order : SubscriptionOrder) (expected : Option PaymentProvider) :
    Prop :=
  ∃ provider ∈ expected, order.paymentProvider ≠ provider
  deriving Decidable

/-- The first part of `CompleteSubscriptionOrder`, up to the lock of the user. -/
def beginCompletion (st : PurchaseStore) (tradeNo : String) (expected : Option PaymentProvider)
    (actualPaymentMethod : String) (planOk : Bool) : PurchaseThread plans :=
  match st.orders.find tradeNo with
  | none => .done (some .orderNotFound)
  | some order =>
    if order.Mismatch expected then .done (some .paymentMethodMismatch)
    else if order.status = .success then .done none
    else if h : order.status = .pending then
      match getSubscriptionPlanById plans planOk order.planId with
      | none => .done (some (.row .database))
      | some plan => .orderLocked ⟨order, h⟩ actualPaymentMethod plan
    else .done (some .orderStatusInvalid)

/-- `ExpireSubscriptionOrder`, up to its write. -/
def beginExpiry (st : PurchaseStore) (tradeNo : String) (expected : Option PaymentProvider) :
    PurchaseThread plans :=
  match st.orders.find tradeNo with
  | none => .done (some .orderNotFound)
  | some order =>
    if order.Mismatch expected then .done (some .paymentMethodMismatch)
    else if h : order.status = .pending then .expiring ⟨order, h⟩
    else .done none

def lockUserRow (st : PurchaseStore) (userId : Int) (plan : StoredPlan plans)
    (origin : PurchaseOrigin) : PurchaseThread plans :=
  match st.users.find userId with
  | none => .done (some (.row .database))
  | some user =>
    match origin with
    | .balance requiredQuota =>
      if 0 < requiredQuota ∧ user.quota < requiredQuota then
        .done (some (.row .insufficientBalance))
      else .userLocked userId plan origin st
    | .order _ _ | .admin => .userLocked userId plan origin st

/-- The plan and the charge of `PurchaseSubscriptionWithBalance`, before its lock. -/
def chargeOfPlan (plans : Table PlanRow.id) (planOk : Bool) (userId planId : Int) :
    Except RowError (StoredPlan plans × Int) :=
  if userId ≤ 0 ∨ planId ≤ 0 then .error .invalidIds
  else match getSubscriptionPlanById plans planOk planId with
    | none => .error .database
    | some plan =>
      if plan.1.balance.enabled = false then .error .planDisabled
      else if plan.1.balance.priceAmount < 0 then .error .negativePrice
      else if plan.1.balance.allowBalancePay = some false then .error .balancePayNotAllowed
      else match calcSubscriptionBalanceQuota perUnit plan.1.balance.priceAmount with
        | .error e => .error e
        | .ok requiredQuota => .ok (plan, requiredQuota)

/-- The replies to the statements of a purchase after its last lock: those of the creation, the
error of the writes after it, and the trade number of a purchase from the balance. -/
structure PurchaseReplies where
  create : CreateReplies
  writes : Option OrderError
  tradeNo : String

def PurchaseOrigin.source : PurchaseOrigin → String
  | .order _ _ => "order"
  | .admin => "admin"
  | .balance _ => "balance"

def PurchaseOrigin.charge : PurchaseOrigin → Int
  | .order _ _ | .admin => 0
  | .balance requiredQuota => if 0 < requiredQuota then requiredQuota else 0

/-- The orders after a purchase, and the trade number of the order that it completes. -/
def closeOrder (orders : Table SubscriptionOrder.tradeNo) (userId planId : Int)
    (tradeNo : String) : PurchaseOrigin → Option (Table SubscriptionOrder.tradeNo × List String)
  | .order order actualPaymentMethod =>
    let method := if actualPaymentMethod = "" then order.1.paymentMethod else actualPaymentMethod
    some (orders.save { order.1 with status := .success, paymentMethod := method },
      [order.1.tradeNo])
  | .admin => some (orders, [])
  | .balance _ =>
    if tradeNo ∈ orders.keys then none
    else some (orders.insert ⟨tradeNo, userId, planId, "balance", .balance, .success⟩, [tradeNo])

namespace PurchaseState

def Free (s : PurchaseState plans) (lock : RowLock) : Prop :=
  Locks.Free PurchaseThread.holds s.pool lock
  deriving Decidable

def move (s : PurchaseState plans) (k : ℕ) (t : PurchaseThread plans) : PurchaseState plans :=
  { s with pool := s.pool.set k t }

def await (s : PurchaseState plans) (k : ℕ) (lock : RowLock) (t : PurchaseThread plans) :
    PurchaseState plans :=
  if s.Free lock then s.move k t else s

def lockOrder (s : PurchaseState plans) (k : ℕ) (planOk : Bool) : PurchaseState plans :=
  match s.pool[k]? with
  | some (.ready (.completeSubscriptionOrder tradeNo expected actualPaymentMethod)) =>
    if tradeNo = "" then s.move k (.done (some .tradeNoEmpty))
    else s.await k (.order tradeNo)
      (beginCompletion s.store tradeNo expected actualPaymentMethod planOk)
  | some (.ready (.expireSubscriptionOrder tradeNo expected)) =>
    if tradeNo = "" then s.move k (.done (some .tradeNoEmpty))
    else s.await k (.order tradeNo) (beginExpiry s.store tradeNo expected)
  | _ => s

/-- The lock of the user row, by the transactions that begin with it and by a completion that holds
its order. -/
def lockUser (s : PurchaseState plans) (k : ℕ) (planOk : Bool) : PurchaseState plans :=
  match s.pool[k]? with
  | some (.ready (.adminBindSubscription userId planId)) =>
    if userId ≤ 0 ∨ planId ≤ 0 then s.move k (.done (some (.row .invalidIds)))
    else match getSubscriptionPlanById plans planOk planId with
      | none => s.move k (.done (some (.row .database)))
      | some plan => s.await k (.user userId) (lockUserRow s.store userId plan .admin)
  | some (.ready (.purchaseSubscriptionWithBalance userId planId)) =>
    match chargeOfPlan perUnit plans planOk userId planId with
    | .error e => s.move k (.done (some (.row e)))
    | .ok (plan, requiredQuota) =>
      s.await k (.user userId) (lockUserRow s.store userId plan (.balance requiredQuota))
  | some (.orderLocked order actualPaymentMethod plan) =>
    s.await k (.user order.1.userId)
      (lockUserRow s.store order.1.userId plan (.order order actualPaymentMethod))
  | _ => s

def commitPurchase (s : PurchaseState plans) (k : ℕ) (userId : Int) (plan : StoredPlan plans)
    (origin : PurchaseOrigin) (view : PurchaseStore) (r : PurchaseReplies) : PurchaseState plans :=
  match view.users.find userId with
  | none => s.move k (.done (some (.row .database)))
  | some user =>
    match createUserSubscriptionFromPlanTx view.subs user.group userId plan.1.plan origin.source
        r.create with
    | .error e => s.move k (.done (some (.create e)))
    | .ok (row, group) =>
      match r.writes with
      | some e => s.move k (.done (some e))
      | none =>
        if row.id ∈ s.store.subs.keys then s.move k (.done (some (.row .database)))
        else match closeOrder s.store.orders userId plan.1.id r.tradeNo origin with
          | none => s.move k (.done (some (.row .database)))
          | some (orders, completed) =>
            { store :=
                { subs := s.store.subs.insert row
                  orders := orders
                  users := s.store.users.save
                    { user with group := group, quota := user.quota - origin.charge } }
              pool := s.pool.set k (.done none)
              fulfilled := s.fulfilled ++ completed }

def commit (s : PurchaseState plans) (k : ℕ) (r : PurchaseReplies) : PurchaseState plans :=
  match s.pool[k]? with
  | some (.userLocked userId plan origin view) => s.commitPurchase k userId plan origin view r
  | some (.expiring order) =>
    match r.writes with
    | some e => s.move k (.done (some e))
    | none =>
      { s with
        store := { s.store with orders := s.store.orders.save { order.1 with status := .expired } }
        pool := s.pool.set k (.done none) }
  | _ => s

end PurchaseState

/-- What happens: a call arrives; an order is inserted, or marked as failed after its checkout could
not be made; or transaction `k` asks for the lock of its order, asks for the lock of its user,
commits, or is rolled back. -/
inductive PurchaseEvent
  | call (c : PurchaseCall)
  | insertOrder (order : SubscriptionOrder)
  | failOrder (order : SubscriptionOrder)
  | lockOrder (k : ℕ) (planOk : Bool)
  | lockUser (k : ℕ) (planOk : Bool)
  | commit (k : ℕ) (r : PurchaseReplies)
  | rollback (k : ℕ) (e : OrderError)

def purchaseStep (s : PurchaseState plans) : PurchaseEvent → PurchaseState plans
  | .call c => { s with pool := s.pool ++ [.ready c] }
  | .insertOrder order =>
    { s with store := { s.store with orders := s.store.orders.insert order } }
  | .failOrder order =>
    if s.Free (.order order.tradeNo) then
      { s with store := { s.store with
        orders := s.store.orders.save { order with status := .failed } } }
    else s
  | .lockOrder k planOk => s.lockOrder k planOk
  | .lockUser k planOk => s.lockUser perUnit k planOk
  | .commit k r => s.commit k r
  | .rollback k e => s.move k (.done (some e))

/-- No transaction has begun. Each completed order counts as one that has its subscription. -/
def PurchaseState.start (plans : Table PlanRow.id) (st : PurchaseStore) : PurchaseState plans where
  store := st
  pool := []
  fulfilled := (st.orders.rows.filter fun order => order.status = .success).map (·.tradeNo)

/-! ### What a step can do -/

inductive PurchaseMove (s : PurchaseState plans) : PurchaseState plans → Prop
  | idle : PurchaseMove s s
  | opened (c : PurchaseCall) : PurchaseMove s { s with pool := s.pool ++ [.ready c] }
  | inserted (order : SubscriptionOrder) :
      PurchaseMove s { s with store := { s.store with orders := s.store.orders.insert order } }
  | failed (order : SubscriptionOrder) (hfree : s.Free (.order order.tradeNo)) :
      PurchaseMove s { s with store := { s.store with
        orders := s.store.orders.save { order with status := .failed } } }
  | advanced (k : ℕ) (t t' : PurchaseThread plans) (hk : s.pool[k]? = some t)
      (hlocks : ∀ r ∈ t'.holds, r ∈ t.holds ∨ s.Free r)
      (horder : ∀ order, t'.pendingOrder = some order →
        t.pendingOrder = some order ∨ s.store.orders.find order.1.tradeNo = some order.1)
      (hview : ∀ userId plan origin view, t' = .userLocked userId plan origin view →
        view = s.store) :
      PurchaseMove s (s.move k t')
  | expired (k : ℕ) (order : PendingOrder) (hk : s.pool[k]? = some (.expiring order)) :
      PurchaseMove s { s with
        store := { s.store with orders := s.store.orders.save { order.1 with status := .expired } }
        pool := s.pool.set k (.done none) }
  | created (k : ℕ) (userId : Int) (plan : StoredPlan plans) (origin : PurchaseOrigin)
      (view : PurchaseStore) (row : SubscriptionRow) (tradeNo : String)
      (orders : Table SubscriptionOrder.tradeNo) (completed : List String)
      (users : Table PurchaseUser.id)
      (hk : s.pool[k]? = some (.userLocked userId plan origin view))
      (hid : row.id ∉ s.store.subs.keys) (huser : row.userId = userId)
      (hplan : row.planId = plan.1.id)
      (hroom : 0 < plan.1.plan.maxPurchasePerUser →
        purchases view.subs userId plan.1.id < plan.1.plan.maxPurchasePerUser)
      (hclose : closeOrder s.store.orders userId plan.1.id tradeNo origin =
        some (orders, completed)) :
      PurchaseMove s
        { store := { subs := s.store.subs.insert row, orders := orders, users := users }
          pool := s.pool.set k (.done none)
          fulfilled := s.fulfilled ++ completed }

variable {s : PurchaseState plans} {k : ℕ}

theorem stopped_move (err : Option OrderError) : PurchaseMove s (s.move k (.done err)) := by
  cases hk : s.pool[k]? with
  | none =>
    have hlen : s.pool.length ≤ k := getElem?_eq_none_iff.mp hk
    unfold move
    rw [set_eq_of_length_le hlen]
    exact .idle
  | some t =>
    refine .advanced k t _ hk ?_ ?_ ?_
    · intro r hr
      simp [holds, lockedUser, pendingOrder] at hr
    · intro order h
      cases h
    · intro userId plan origin view h
      cases h

variable {t : PurchaseThread plans} {tradeNo : String} {origin : PurchaseOrigin}
  {plan : StoredPlan plans} {userId : Int} {st : PurchaseStore}
  {orders : Table SubscriptionOrder.tradeNo}

theorem mem_holds {r : RowLock} :
    r ∈ t.holds ↔ (∃ userId, t.lockedUser = some userId ∧ r = .user userId) ∨
      ∃ order, t.pendingOrder = some order ∧ r = .order order.1.tradeNo := by
  simp [holds, eq_comm]

section

variable (hk : s.pool[k]? = some t)
include hk

section

variable (hfree : s.Free (.order tradeNo))
include hfree

theorem order_move {t' : PurchaseThread plans} {order : PendingOrder}
    (hfind : s.store.orders.find tradeNo = some order.1)
    (hpend : t'.pendingOrder = some order) (huser : t'.lockedUser = none) :
    PurchaseMove s (s.move k t') := by
  have hno : order.1.tradeNo = tradeNo := (mem_of_find hfind).2
  subst hno
  refine .advanced k t t' hk ?_ ?_ ?_
  · intro r hr
    obtain ⟨_, h, -⟩ | ⟨_, h, rfl⟩ := mem_holds.mp hr
    · rw [huser] at h
      cases h
    · obtain rfl := some.inj (hpend.symm.trans h)
      exact .inr hfree
  · intro o h
    obtain rfl := some.inj (hpend.symm.trans h)
    exact .inr hfind
  · rintro userId plan origin view rfl
    cases huser

theorem beginCompletion_move {expected : Option PaymentProvider} {actualPaymentMethod : String}
    {planOk : Bool} :
    PurchaseMove s
      (s.move k (beginCompletion s.store tradeNo expected actualPaymentMethod planOk)) := by
  unfold beginCompletion
  rcases hfind : s.store.orders.find tradeNo with - | order
  · exact stopped_move _
  dsimp only
  split_ifs
  · exact stopped_move _
  · exact stopped_move _
  · cases getSubscriptionPlanById plans planOk order.planId with
    | none => exact stopped_move _
    | some plan => exact order_move hk hfree hfind rfl rfl
  · exact stopped_move _

theorem beginExpiry_move {expected : Option PaymentProvider} :
    PurchaseMove s (s.move k (beginExpiry s.store tradeNo expected)) := by
  unfold beginExpiry
  rcases hfind : s.store.orders.find tradeNo with - | order
  · exact stopped_move _
  dsimp only
  split_ifs
  · exact stopped_move _
  · exact order_move hk hfree hfind rfl rfl
  · exact stopped_move _

end

theorem user_move (hfree : s.Free (.user userId))
    (hpend : t.pendingOrder = origin.pendingOrder) :
    PurchaseMove s (s.move k (.userLocked userId plan origin s.store)) := by
  refine .advanced k t _ hk ?_ ?_ ?_
  · intro r hr
    obtain ⟨_, h, rfl⟩ | ⟨order, h, rfl⟩ := mem_holds.mp hr
    · cases h
      exact .inr hfree
    · exact .inl (mem_holds.mpr (.inr ⟨order, hpend.trans h, rfl⟩))
  · intro order h
    exact .inl (hpend.trans h)
  · intro userId' plan' origin' view h
    cases h
    rfl

theorem lockUserRow_move (hfree : s.Free (.user userId))
    (hpend : t.pendingOrder = origin.pendingOrder) :
    PurchaseMove s (s.move k (lockUserRow s.store userId plan origin)) := by
  unfold lockUserRow
  rcases s.store.users.find userId with - | user
  · exact stopped_move _
  cases origin with
  | order order method | admin => exact user_move hk hfree hpend
  | balance requiredQuota =>
    dsimp only
    split_ifs
    · exact stopped_move _
    · exact user_move hk hfree hpend

end

theorem await_move {lock : RowLock} (h : s.Free lock → PurchaseMove s (s.move k t)) :
    PurchaseMove s (s.await k lock t) := by
  unfold await
  split_ifs with hfree
  · exact h hfree
  · exact .idle

theorem lockOrder_move (planOk : Bool) : PurchaseMove s (s.lockOrder k planOk) := by
  unfold lockOrder
  split
  next tradeNo expected actualPaymentMethod hk =>
    split_ifs
    · exact stopped_move _
    · exact await_move fun hfree => beginCompletion_move hk hfree
  next tradeNo expected hk =>
    split_ifs
    · exact stopped_move _
    · exact await_move fun hfree => beginExpiry_move hk hfree
  · exact .idle

theorem lockUser_move (planOk : Bool) : PurchaseMove s (s.lockUser perUnit k planOk) := by
  unfold lockUser
  split
  next userId planId hk =>
    split_ifs
    · exact stopped_move _
    · cases getSubscriptionPlanById plans planOk planId with
      | none => exact stopped_move _
      | some plan => exact await_move fun hfree => lockUserRow_move hk hfree rfl
  next userId planId hk =>
    cases chargeOfPlan perUnit plans planOk userId planId with
    | error e => exact stopped_move _
    | ok charge => exact await_move fun hfree => lockUserRow_move hk hfree rfl
  next order actualPaymentMethod plan hk =>
    exact await_move fun hfree => lockUserRow_move hk hfree rfl
  · exact .idle

theorem commitPurchase_move {view : PurchaseStore} (r : PurchaseReplies)
    (hk : s.pool[k]? = some (.userLocked userId plan origin view)) :
    PurchaseMove s (s.commitPurchase k userId plan origin view r) := by
  unfold commitPurchase
  rcases view.users.find userId with - | user
  · exact stopped_move _
  dsimp only
  cases hcreate : createUserSubscriptionFromPlanTx view.subs user.group userId plan.1.plan
      origin.source r.create with
  | error e => exact stopped_move _
  | ok made =>
    obtain ⟨row, group⟩ := made
    obtain ⟨-, huser, hplan, -, hroom, -⟩ := create_ok hcreate
    cases r.writes with
    | some e => exact stopped_move _
    | none =>
      dsimp only
      split_ifs with hid
      · exact stopped_move _
      cases hclose : closeOrder s.store.orders userId plan.1.id r.tradeNo origin with
      | none => exact stopped_move _
      | some closed =>
        exact .created k userId plan origin view row r.tradeNo closed.1 closed.2 _ hk hid
          huser hplan hroom hclose

theorem commit_move (r : PurchaseReplies) : PurchaseMove s (s.commit k r) := by
  unfold commit
  split
  next userId plan origin view hk => exact commitPurchase_move r hk
  next order hk =>
    cases r.writes with
    | some e => exact stopped_move _
    | none => exact .expired k order hk
  · exact .idle

/-- **What a step can do.** -/
theorem purchaseStep_move (s : PurchaseState plans) (e : PurchaseEvent) :
    PurchaseMove s (purchaseStep perUnit s e) := by
  cases e with
  | call c => exact .opened c
  | insertOrder order => exact .inserted order
  | failOrder order =>
    rw [purchaseStep]
    split_ifs with hfree
    · exact .failed order hfree
    · exact .idle
  | lockOrder k planOk => exact lockOrder_move planOk
  | lockUser k planOk => exact lockUser_move perUnit planOk
  | commit k r => exact commit_move r
  | rollback k e => exact stopped_move _

/-! ### The invariant -/

/-- What a transaction has read under its locks is still stored: its order, and the purchases of its
user. -/
structure PurchaseThread.Sound (st : PurchaseStore) (t : PurchaseThread plans) : Prop where
  order : ∀ order, t.pendingOrder = some order →
    st.orders.find order.1.tradeNo = some order.1
  purchases : ∀ userId plan origin view, t = .userLocked userId plan origin view →
    ∀ planId, purchases view.subs userId planId = purchases st.subs userId planId

theorem PurchaseThread.Sound.frame {st' : PurchaseStore} (h : t.Sound st)
    (horder : ∀ order, t.pendingOrder = some order → st.orders.find order.1.tradeNo = some order.1 →
      st'.orders.find order.1.tradeNo = some order.1)
    (hsubs : ∀ userId, t.lockedUser = some userId →
      ∀ planId, NewApi.Model.purchases st'.subs userId planId =
        NewApi.Model.purchases st.subs userId planId) : t.Sound st' where
  order order hpend := horder order hpend (h.order order hpend)
  purchases := by
    rintro userId plan origin view rfl planId
    rw [hsubs userId rfl planId]
    exact h.purchases userId plan origin view rfl planId

theorem PurchaseThread.sound_of_none (st : PurchaseStore) (hpend : t.pendingOrder = none)
    (hlocked : t.lockedUser = none) : t.Sound st where
  order order h := by
    rw [hpend] at h
    cases h
  purchases := by
    rintro userId plan origin view rfl
    cases hlocked

def Closed (orders : Table SubscriptionOrder.tradeNo) (tradeNo : String) : Prop :=
  ∃ order, orders.find tradeNo = some order ∧ order.status ≠ .pending

/-- **The invariant.** The locks are exclusive, what a transaction has read under them is stored,
and no order has two subscriptions: an order with one is not pending any more. -/
structure PurchaseInv (s : PurchaseState plans) : Prop where
  locks : Locks.Exclusive PurchaseThread.holds s.pool
  sound : ∀ t ∈ s.pool, t.Sound s.store
  once : s.fulfilled.Nodup
  closed : ∀ tradeNo ∈ s.fulfilled, Closed s.store.orders tradeNo

theorem purchaseInv_start (st : PurchaseStore) : PurchaseInv (PurchaseState.start plans st) where
  locks := by
    intro i j t t' r hi
    simp [start] at hi
  sound := by
    intro t ht
    simp [start] at ht
  once := st.orders.nodup.sublist (filter_sublist.map _)
  closed := by
    intro tradeNo hmem
    obtain ⟨order, horder, rfl⟩ := mem_map.mp hmem
    obtain ⟨hrow, hstatus⟩ := mem_filter.mp horder
    refine ⟨order, find_of_mem hrow, ?_⟩
    rw [of_decide_eq_true hstatus]
    decide

theorem purchases_insert {subs : Table SubscriptionRow.id} {row : SubscriptionRow}
    (h : row.id ∉ subs.keys) (userId planId : Int) :
    purchases (subs.insert row) userId planId = purchases subs userId planId +
      if row.userId = userId ∧ row.planId = planId then 1 else 0 := by
  unfold purchases
  rw [rows_insert h, countP_cons]
  simp [decide_eq_true_eq]

/-- What `closeOrder` completes was pending and is not any more, and every row that is there stays,
apart from the order of the purchase. -/
theorem closeOrder_some {orders' : Table SubscriptionOrder.tradeNo} {planId : Int}
    {completed : List String}
    (h : closeOrder orders userId planId tradeNo origin = some (orders', completed))
    (hpend : ∀ order, origin.pendingOrder = some order →
      orders.find order.1.tradeNo = some order.1) :
    completed.Nodup ∧ (∀ no ∈ completed, Closed orders' no ∧ ¬ Closed orders no) ∧
      ∀ no order, orders.find no = some order →
        (∀ o, origin.pendingOrder = some o → no ≠ o.1.tradeNo) → orders'.find no = some order := by
  cases origin with
  | order o actualPaymentMethod =>
    have hfind := hpend o rfl
    obtain ⟨rfl, rfl⟩ := h
    refine ⟨nodup_singleton _, ?_, ?_⟩
    · intro no hno
      obtain rfl := mem_singleton.mp hno
      refine ⟨⟨_, find_save_of_find hfind rfl, by simp⟩, ?_⟩
      rintro ⟨order, horder, hstatus⟩
      obtain rfl := some.inj (hfind.symm.trans horder)
      exact hstatus o.2
    · intro no order hno hne
      refine (find_save_of_ne ?_).trans hno
      exact hne o rfl
  | admin =>
    obtain ⟨rfl, rfl⟩ := h
    refine ⟨nodup_nil, ?_, ?_⟩
    · intro no hno
      cases hno
    · intro no order hno _
      exact hno
  | balance requiredQuota =>
    unfold closeOrder at h
    split_ifs at h with hkey
    obtain ⟨rfl, rfl⟩ := h
    have hnone : orders.find tradeNo = none := by
      cases hfind : orders.find tradeNo with
      | none => rfl
      | some order => exact absurd (mem_keys_of_find hfind) hkey
    refine ⟨nodup_singleton _, ?_, ?_⟩
    · intro no hno
      obtain rfl := mem_singleton.mp hno
      refine ⟨⟨_, find_insert hnone, by simp⟩, ?_⟩
      rintro ⟨order, horder, -⟩
      rw [hnone] at horder
      cases horder
    · intro no order hno _
      exact find_insert_of_find hno

theorem Closed.save (h : Closed orders tradeNo) {row : SubscriptionOrder}
    (hrow : row.status ≠ .pending) : Closed (orders.save row) tradeNo := by
  obtain ⟨order, hfind, hstatus⟩ := h
  by_cases hno : tradeNo = row.tradeNo
  · exact ⟨row, find_save_of_find hfind hno.symm, hrow⟩
  · exact ⟨order, (find_save_of_ne hno).trans hfind, hstatus⟩

theorem PurchaseThread.Sound.save (h : t.Sound st) {row : SubscriptionOrder}
    (hrow : .order row.tradeNo ∉ t.holds) : t.Sound { st with orders := st.orders.save row } := by
  refine h.frame ?_ fun _ _ _ => rfl
  intro order hpend hfind
  refine (find_save_of_ne ?_).trans hfind
  intro hno
  exact hrow (mem_holds.mpr (.inr ⟨order, hpend, congrArg _ hno.symm⟩))

theorem PurchaseThread.Sound.create (h : t.Sound st) {row : SubscriptionRow}
    {users : Table PurchaseUser.id} (hid : row.id ∉ st.subs.keys) (huser : row.userId = userId)
    (hkept : ∀ no order, st.orders.find no = some order →
      (∀ o, origin.pendingOrder = some o → no ≠ o.1.tradeNo) → orders.find no = some order)
    (hnotUser : .user userId ∉ t.holds)
    (hnotOrder : ∀ o, origin.pendingOrder = some o → .order o.1.tradeNo ∉ t.holds) :
    t.Sound { subs := st.subs.insert row, orders := orders, users := users } := by
  refine h.frame ?_ ?_
  · intro order hpend hfind
    refine hkept _ _ hfind fun o ho hno => ?_
    exact hnotOrder o ho (mem_holds.mpr (.inr ⟨order, hpend, congrArg _ hno.symm⟩))
  intro userId' hlocked planId
  have hne : ¬ (row.userId = userId' ∧ row.planId = planId) := by
    rintro ⟨hsame, -⟩
    refine hnotUser (mem_holds.mpr (.inl ⟨userId', hlocked, ?_⟩))
    rw [← huser, hsame]
  rw [purchases_insert hid, if_neg hne, add_zero]

theorem purchaseInv_move {s s' : PurchaseState plans} (h : PurchaseInv s)
    (hmove : PurchaseMove s s') : PurchaseInv s' := by
  have hmem {j : ℕ} {u : PurchaseThread plans} (hj : s.pool[j]? = some u) : u.Sound s.store :=
    h.sound u (mem_of_getElem? hj)
  cases hmove with
  | idle => exact h
  | opened c =>
    refine ⟨?_, ?_, h.once, h.closed⟩
    · exact h.locks.append rfl
    intro t ht
    obtain hold | hnew := mem_append.mp ht
    · exact h.sound t hold
    · obtain rfl := mem_singleton.mp hnew
      exact sound_of_none _ rfl rfl
  | inserted order =>
    refine ⟨h.locks, ?_, h.once, ?_⟩
    · intro t ht
      exact (h.sound t ht).frame (fun _ _ hfind => find_insert_of_find hfind) fun _ _ _ => rfl
    · intro no hno
      obtain ⟨row, hfind, hstatus⟩ := h.closed no hno
      exact ⟨row, find_insert_of_find hfind, hstatus⟩
  | failed order hfree =>
    refine ⟨h.locks, ?_, h.once, fun no hno => (h.closed no hno).save (by simp)⟩
    intro t ht
    exact (h.sound t ht).save (hfree t ht)
  | advanced k t t' hk hlocks horder hview =>
    refine ⟨h.locks.set hk hlocks, ?_, h.once, h.closed⟩
    refine Pool.forall_mem_set (fun j u _ hj => hmem hj) ⟨?_, ?_⟩
    · intro order hpend
      obtain hold | hfind := horder order hpend
      · exact (hmem hk).order order hold
      · exact hfind
    · intro userId plan origin view heq planId
      rw [hview userId plan origin view heq]
      rfl
  | expired k order hk =>
    refine ⟨h.locks.set hk ?_, ?_, h.once, fun no hno => (h.closed no hno).save (by simp)⟩
    · intro r hr
      cases hr
    · refine Pool.forall_mem_set (fun j u hne hj => ?_) (sound_of_none _ rfl rfl)
      refine (hmem hj).save (h.locks.notMem hk hj hne ?_)
      exact mem_holds.mpr (.inr ⟨order, rfl, rfl⟩)
  | created k userId plan origin view row tradeNo orders completed users hk hid huser hplan hroom
      hclose =>
    obtain ⟨hnodup, hcompleted, hkept⟩ := closeOrder_some hclose (hmem hk).order
    refine ⟨h.locks.set hk ?_, ?_, ?_, ?_⟩
    · intro r hr
      cases hr
    · refine Pool.forall_mem_set (fun j u hne hj => ?_) (sound_of_none _ rfl rfl)
      refine (hmem hj).create hid huser hkept ?_ fun o ho => ?_
      · exact h.locks.notMem hk hj hne (mem_holds.mpr (.inl ⟨userId, rfl, rfl⟩))
      · exact h.locks.notMem hk hj hne (mem_holds.mpr (.inr ⟨o, ho, rfl⟩))
    · refine nodup_append.mpr ⟨h.once, hnodup, ?_⟩
      rintro no hno _ hdone rfl
      exact (hcompleted no hdone).2 (h.closed no hno)
    intro no hno
    obtain hold | hdone := mem_append.mp hno
    · obtain ⟨order, hfind, hstatus⟩ := h.closed no hold
      refine ⟨order, hkept no order hfind ?_, hstatus⟩
      rintro o ho rfl
      -- the order of the purchase is pending
      obtain rfl := some.inj (((hmem hk).order o ho).symm.trans hfind)
      exact hstatus o.2
    · exact (hcompleted no hdone).1

structure LimitInv (userId : Int) (plan : StoredPlan plans) (s : PurchaseState plans) : Prop
    extends PurchaseInv s where
  limit : purchases s.store.subs userId plan.1.id ≤ plan.1.plan.maxPurchasePerUser

/-- A step keeps the purchases of a user within the limit of the plan: the count that was checked is
that of the store, since the user was locked before it. -/
theorem limitInv_move {s s' : PurchaseState plans} (h : LimitInv userId plan s)
    (hmove : PurchaseMove s s') (hlimited : 0 < plan.1.plan.maxPurchasePerUser) :
    LimitInv userId plan s' := by
  refine ⟨purchaseInv_move h.toPurchaseInv hmove, ?_⟩
  have hle := h.limit
  cases hmove with
  | created k userId' plan' origin view row tradeNo orders completed users hk hid huser hplan hroom
      hclose =>
    rw [purchases_insert hid]
    by_cases hsame : row.userId = userId ∧ row.planId = plan.1.id
    · have hids : plan'.1.id = plan.1.id := hplan.symm.trans hsame.2
      have hplans : plan'.1 = plan.1 := by
        have hfind := plan'.2
        rw [hids, plan.2] at hfind
        exact (some.inj hfind).symm
      rw [hplans] at hroom
      have hcount := (h.sound _ (mem_of_getElem? hk)).purchases _ _ _ _ rfl plan.1.id
      have huserId : userId' = userId := huser.symm.trans hsame.1
      have hlt := hroom hlimited
      rw [hcount, huserId] at hlt
      push_cast
      omega
    · rw [if_neg hsame]
      exact hle
  | _ => exact hle

/-- **The purchase limit and the fulfilment of orders.** In every state that the transactions can
reach, a user has no more subscriptions of a limited plan than its limit, and each order has created
at most one subscription. -/
theorem purchase_limit (st : PurchaseStore) (events : List PurchaseEvent) (userId : Int)
    (plan : StoredPlan plans) (hlimited : 0 < plan.1.plan.maxPurchasePerUser)
    (hstart : purchases st.subs userId plan.1.id ≤ plan.1.plan.maxPurchasePerUser) :
    let s := run (purchaseStep perUnit) (start plans st) events
    purchases s.store.subs userId plan.1.id ≤ plan.1.plan.maxPurchasePerUser ∧
      ∀ tradeNo, s.fulfilled.count tradeNo ≤ 1 := by
  intro s
  have hrun : LimitInv userId plan s := by
    refine run_induction (P := fun _ _ => True) ?_ ⟨purchaseInv_start st, hstart⟩ ?_
    · intro s e hinv _
      exact limitInv_move hinv (purchaseStep_move perUnit s e) hlimited
    · exact along_of_forall (fun _ _ => trivial) _ _
  exact ⟨hrun.limit, nodup_iff_count_le_one.mp hrun.once⟩

end

/-! ### Two orders for a plan that can be bought once -/

def sampleOncePlan : PlanRow :=
  ⟨⟨7, 1, "", "", fun now => some (now + 10)⟩, ⟨true, 5, none⟩⟩

def samplePlans : Table PlanRow.id := ⟨[sampleOncePlan], List.nodup_singleton _⟩

def sampleStoredPlan : StoredPlan samplePlans := ⟨sampleOncePlan, rfl⟩

def sampleOrders : PurchaseStore where
  subs := ⟨[], List.nodup_nil⟩
  orders := ⟨[⟨"a", 3, 7, "", .stripe, .pending⟩, ⟨"b", 3, 7, "", .stripe, .pending⟩], by decide⟩
  users := ⟨[⟨3, "default", 100⟩], List.nodup_singleton _⟩

def samplePurchaseReplies (id : Int) : PurchaseReplies :=
  ⟨⟨0, true, true, true, true, id⟩, none, "c"⟩

def samplePurchases : List PurchaseEvent :=
  [.call (.completeSubscriptionOrder "a" none ""), .call (.completeSubscriptionOrder "b" none ""),
   .call (.completeSubscriptionOrder "a" none ""), .lockOrder 0 true, .lockOrder 1 true,
   .lockOrder 2 true, .lockUser 1 true, .lockUser 0 true, .commit 1 (samplePurchaseReplies 1),
   .lockUser 0 true, .commit 0 (samplePurchaseReplies 2), .lockOrder 2 true, .lockUser 2 true,
   .commit 2 (samplePurchaseReplies 3)]

theorem purchase_limit_samplePurchases :
    let s := run (purchaseStep (500000 : ℚ)) (start samplePlans sampleOrders)
      samplePurchases
    s.fulfilled = ["b"] ∧ (purchases s.store.subs 3 7 : Int) ≤ 1 ∧
      ∀ tradeNo, s.fulfilled.count tradeNo ≤ 1 :=
  ⟨by decide +kernel,
    purchase_limit 500000 sampleOrders samplePurchases 3 sampleStoredPlan (by decide) (by decide)⟩

end NewApi.Model
