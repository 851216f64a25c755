import Mathlib.Data.List.Sort
import NewApi.Foundation.GoText
import NewApi.Foundation.Table

/-!
# User subscriptions and the pre-consume records of requests

The tables `user_subscriptions` and `subscription_pre_consume_records`, and the three transactions
of `model/subscription.go` that a billing session runs on them. A transaction locks the rows it
reads, so it is one step; the replies of the database to its statements are arguments, and an error
returns the tables as they were unless a nested transaction has already committed.

The reset that a candidate row gets while a subscription is selected is a `ResetDecision`: what
`maybeResetUserSubscriptionWithPlanTx` can do to the row. Which decision the calendar and the plan
lead to is an argument here.
-/

namespace NewApi.Model

open List Table GoText

/-! ### Rows -/

inductive SubscriptionStatus
  | active
  | expired
  | cancelled
  deriving DecidableEq, Repr

/-- A row of `user_subscriptions`, without the columns that only concern the group of the user. -/
structure UserSubscription where
  id : Int
  userId : Int
  amountTotal : Int
  amountUsed : Int
  endTime : Int
  status : SubscriptionStatus
  lastResetTime : Int
  nextResetTime : Int
  allowWalletOverflow : Bool
  deriving DecidableEq, Repr

abbrev SubTable := Table UserSubscription.id

inductive PreConsumeStatus
  | consumed
  | refunded
  deriving DecidableEq, Repr

/-- The idempotency record of one request id. -/
structure SubscriptionPreConsumeRecord where
  requestId : String
  userId : Int
  userSubscriptionId : Int
  preConsumed : Int
  status : PreConsumeStatus
  deriving DecidableEq, Repr

structure SubscriptionStore where
  subs : SubTable
  records : Table SubscriptionPreConsumeRecord.requestId
  deriving DecidableEq

/-- The errors of the three transactions, one constructor for each text of the source. -/
inductive SubscriptionError
  | invalidUserId
  | requestIdEmpty
  | invalidUserSubscriptionId
  | amountNotPositive
  | alreadyRefunded
  | noActiveSubscription
  | quotaInsufficient (need : Int)
  | usedExceedsTotal (used total : Int)
  | recordNotFound
  | database

/-! ### Selecting the row to charge -/

/-- The rows of a user that are active and not over, with the earliest end first. -/
def activeSubscriptions (subs : SubTable) (userId now : Int) :
    List UserSubscription :=
  (subs.rows.filter fun s => s.userId = userId ∧ s.status = .active ∧ now < s.endTime).insertionSort
    fun s s' => s.endTime < s'.endTime ∨ s.endTime = s'.endTime ∧ s.id ≤ s'.id

def UserSubscription.ActiveFor (sub : UserSubscription) (userId now : Int) : Prop :=
  sub.userId = userId ∧ sub.status = .active ∧ now < sub.endTime
  deriving Decidable

/-- `HasActiveUserSubscription`; `none` is an error. -/
def hasActiveUserSubscription (subs : SubTable) (userId now : Int) (dbOk : Bool) :
    Option Bool :=
  if userId ≤ 0 then none
  else if !dbOk then none
  else some (decide (∃ sub ∈ subs.rows, sub.ActiveFor userId now))

/-- `UserActiveSubscriptionsAllowWalletOverflow`: one active subscription that does not allow it is
enough to block the wallet; `none` is an error. -/
def userActiveSubscriptionsAllowWalletOverflow (subs : SubTable)
    (userId now : Int) (dbOk : Bool) : Option Bool :=
  if userId ≤ 0 then none
  else if !dbOk then none
  else some (decide (∀ sub ∈ subs.rows, sub.ActiveFor userId now → sub.allowWalletOverflow))

/-- What `maybeResetUserSubscriptionWithPlanTx` does to a row, the lookup of the plan included. -/
inductive ResetDecision
  /-- The reset is not due, or the plan never resets. -/
  | keep
  /-- The first reset time is filled in. -/
  | schedule (base next : Int)
  /-- At least one reset time has passed. -/
  | advance (base next : Int)
  /-- The plan cannot be read or the row cannot be saved. -/
  | fail

def ResetDecision.apply (sub : UserSubscription) :
    ResetDecision → Except SubscriptionError UserSubscription
  | keep => .ok sub
  | schedule base next => .ok { sub with nextResetTime := next, lastResetTime := base }
  | advance base next =>
    .ok { sub with amountUsed := 0, lastResetTime := base, nextResetTime := next }
  | fail => .error .database

/-- The row has no room for `amount`: `AmountTotal` bounds the usage when it is positive. -/
def UserSubscription.Lacks (sub : UserSubscription) (amount : Int) : Prop :=
  0 < sub.amountTotal ∧ sub.amountTotal - sub.amountUsed < amount
  deriving Decidable

/-- The loop over the candidates: each one gets its due reset, and the first with room is taken. -/
def selectSubscription (reset : UserSubscription → ResetDecision) (amount : Int)
    (subs : SubTable) : List UserSubscription →
    Except SubscriptionError (SubTable × Option UserSubscription)
  | [] => .ok (subs, none)
  | candidate :: rest =>
    match (reset candidate).apply candidate with
    | .error e => .error e
    | .ok sub =>
      if sub.Lacks amount then selectSubscription reset amount (subs.save sub) rest
      else .ok (subs.save sub, some sub)

/-! ### The transactions -/

/-- The answers to `tx.Create(record)`; `duplicate` carries the record that another transaction has
stored under the request id meanwhile. -/
inductive CreateReply
  | ok
  | duplicate (dup : SubscriptionPreConsumeRecord)
  | failed
  deriving DecidableEq, Repr

/-- What `PreConsumeUserSubscription` reads from its surroundings: the clock, the replies to its
statements, and the reset decision for each candidate. -/
structure PreConsumeReplies where
  now : Int
  findRecord : Bool
  findSub : Bool
  list : Bool
  reset : UserSubscription → ResetDecision
  create : CreateReply
  save : Bool

structure SubscriptionPreConsumeResult where
  userSubscriptionId : Int
  preConsumed : Int
  amountTotal : Int
  amountUsedBefore : Int
  amountUsedAfter : Int

/-- `PreConsumeUserSubscription`. A request id that has a record is answered from the record and
charges nothing. -/
def preConsumeUserSubscription (st : SubscriptionStore) (reqId : String)
    (userId amount : Int) (r : PreConsumeReplies) :
    Except SubscriptionError (SubscriptionPreConsumeResult × SubscriptionStore) :=
  if userId ≤ 0 then .error .invalidUserId
  else if isBlank reqId then .error .requestIdEmpty
  else if amount ≤ 0 then .error .amountNotPositive
  else if !r.findRecord then .error .database
  else match st.records.find reqId with
    | some existing =>
      if existing.status = .refunded then .error .alreadyRefunded
      else if !r.findSub then .error .database
      else match st.subs.find existing.userSubscriptionId with
        | none => .error .recordNotFound
        | some sub => .ok (⟨sub.id, existing.preConsumed, sub.amountTotal, sub.amountUsed,
            sub.amountUsed⟩, st)
    | none =>
      -- a failed read of the rows is reported as if there were none
      if !r.list || (activeSubscriptions st.subs userId r.now).isEmpty then
        .error .noActiveSubscription
      else match selectSubscription r.reset amount st.subs
          (activeSubscriptions st.subs userId r.now) with
        | .error e => .error e
        | .ok (_, none) => .error (.quotaInsufficient amount)
        | .ok (subs, some sub) =>
          match r.create with
          | .failed => .error .database
          | .duplicate dup =>
            if dup.status = .refunded then .error .alreadyRefunded
            else .ok (⟨sub.id, dup.preConsumed, sub.amountTotal, sub.amountUsed, sub.amountUsed⟩,
              { st with subs := subs })
          | .ok =>
            if !r.save then .error .database
            else .ok (⟨sub.id, amount, sub.amountTotal, sub.amountUsed, sub.amountUsed + amount⟩,
              ⟨subs.save { sub with amountUsed := sub.amountUsed + amount },
                st.records.insert ⟨reqId, userId, sub.id, amount, .consumed⟩⟩)

/-- `PostConsumeUserSubscriptionDelta`: move the usage of the row `userSubscriptionId` by `delta`,
clamped at `0` from below and refused above `AmountTotal`. -/
def postConsumeUserSubscriptionDelta (subs : SubTable)
    (subId delta : Int) (dbOk : Bool) :
    Except SubscriptionError (SubTable) :=
  if subId ≤ 0 then .error .invalidUserSubscriptionId
  else if delta = 0 then .ok subs
  else match subs.find subId with
    | none => .error .recordNotFound
    | some sub =>
      let newUsed := max (sub.amountUsed + delta) 0
      if 0 < sub.amountTotal ∧ sub.amountTotal < newUsed then
        .error (.usedExceedsTotal newUsed sub.amountTotal)
      else if !dbOk then .error .database
      else .ok (subs.save { sub with amountUsed := newUsed })

/-- The replies to the statements of one refund attempt: the locked read of the record, the nested
transaction on the subscription row, and the final save of the record. -/
structure RefundReplies where
  find : Bool
  adjust : Bool
  save : Bool

def RefundReplies.allOk : RefundReplies := ⟨true, true, true⟩

/-- `RefundSubscriptionPreConsume`. The adjustment of the subscription row runs in a transaction of
its own, so it stays when the save of the record fails afterwards. -/
def refundSubscriptionPreConsume (st : SubscriptionStore) (reqId : String)
    (r : RefundReplies) : SubscriptionStore × Option SubscriptionError :=
  if isBlank reqId then (st, some .requestIdEmpty)
  else if !r.find then (st, some .database)
  else match st.records.find reqId with
    | none => (st, some .recordNotFound)
    | some record =>
      if record.status = .refunded then (st, none)
      else if record.preConsumed ≤ 0 then
        if r.save then
          ({ st with records := st.records.save { record with status := .refunded } }, none)
        else (st, some .database)
      else match postConsumeUserSubscriptionDelta st.subs record.userSubscriptionId
          (-record.preConsumed) r.adjust with
        | .error e => (st, some e)
        | .ok subs =>
          if r.save then (⟨subs, st.records.save { record with status := .refunded }⟩, none)
          else ({ st with subs := subs }, some .database)

/-- `refundWithRetry` on `RefundSubscriptionPreConsume`: up to three attempts, stopping at the first
one that reports success. -/
def refundWithRetry (st : SubscriptionStore) (reqId : String)
    (attempts : ℕ → RefundReplies) : SubscriptionStore × Option SubscriptionError :=
  match refundSubscriptionPreConsume st reqId (attempts 0) with
  | (st₁, none) => (st₁, none)
  | (st₁, some _) =>
    match refundSubscriptionPreConsume st₁ reqId (attempts 1) with
    | (st₂, none) => (st₂, none)
    | (st₂, some _) => refundSubscriptionPreConsume st₂ reqId (attempts 2)

/-! ### Selection keeps to the stored rows -/

def UserSubscription.Valid (sub : UserSubscription) : Prop :=
  0 < sub.id ∧ 0 ≤ sub.amountUsed
  deriving Decidable

variable {sub sub' : UserSubscription} {subs subs' : SubTable}

theorem ResetDecision.apply_ok {d : ResetDecision} (h : d.apply sub = .ok sub') :
    sub'.id = sub.id ∧ (sub.Valid → sub'.Valid) := by
  cases d with
  | keep | schedule base next | advance base next =>
    simp only [ResetDecision.apply, Except.ok.injEq] at h
    subst h
    refine ⟨rfl, fun hv => ⟨hv.1, ?_⟩⟩
    first | exact hv.2 | exact le_refl 0
  | fail => simp [ResetDecision.apply] at h

theorem mem_of_mem_activeSubscriptions {userId now : Int}
    (h : sub ∈ activeSubscriptions subs userId now) : sub ∈ subs.rows := by
  rw [activeSubscriptions, mem_insertionSort] at h
  exact mem_of_mem_filter h

variable {reset : UserSubscription → ResetDecision} {amount : Int}

theorem selectSubscription_some
    {candidates : List UserSubscription} (hmem : ∀ c ∈ candidates, c.id ∈ subs.keys)
    (hvalid : ∀ c ∈ candidates, c.Valid)
    (h : selectSubscription reset amount subs candidates = .ok (subs', some sub)) :
    subs'.find sub.id = some sub ∧ ¬ sub.Lacks amount ∧ sub.Valid := by
  induction candidates generalizing subs with
  | nil => simp [selectSubscription] at h
  | cons c rest ih =>
    simp only [selectSubscription] at h
    split at h
    · cases h
    rename_i sub₁ happly
    obtain ⟨hid, hval⟩ := ResetDecision.apply_ok happly
    split_ifs at h with hlacks
    · refine ih (fun c' hc' => ?_) (fun c' hc' => hvalid c' (mem_cons_of_mem _ hc')) h
      rw [keys_save]
      exact hmem c' (mem_cons_of_mem _ hc')
    · cases h
      refine ⟨find_save ?_, hlacks, hval (hvalid c mem_cons_self)⟩
      rw [hid]
      exact hmem c mem_cons_self

/-! ### Resets row by row -/

def UserSubscription.ResetOf (sub sub' : UserSubscription) : Prop :=
  ∃ last next, sub' = { sub with lastResetTime := last, nextResetTime := next } ∨
    sub' = { sub with amountUsed := 0, lastResetTime := last, nextResetTime := next }

theorem UserSubscription.ResetOf.refl (sub : UserSubscription) : sub.ResetOf sub :=
  ⟨sub.lastResetTime, sub.nextResetTime, .inl rfl⟩

theorem UserSubscription.ResetOf.trans {sub'' : UserSubscription} (h : sub.ResetOf sub')
    (h' : sub'.ResetOf sub'') : sub.ResetOf sub'' := by
  obtain ⟨last, next, rfl | rfl⟩ := h <;> obtain ⟨last', next', rfl | rfl⟩ := h'
  · exact ⟨last', next', .inl rfl⟩
  all_goals exact ⟨last', next', .inr rfl⟩

theorem ResetDecision.apply_resetOf {d : ResetDecision} (h : d.apply sub = .ok sub') :
    sub.ResetOf sub' := by
  cases d with
  | keep =>
    cases h
    exact .refl sub
  | schedule base next =>
    cases h
    exact ⟨base, next, .inl rfl⟩
  | advance base next =>
    cases h
    exact ⟨base, next, .inr rfl⟩
  | fail => cases h

/-- Every row of `subs'` is the row of `subs` with that id, after any number of resets. -/
def ResetsTo (subs subs' : SubTable) : Prop :=
  ∀ id, Option.Rel UserSubscription.ResetOf (subs.find id) (subs'.find id)

theorem ResetsTo.refl (subs : SubTable) : ResetsTo subs subs := by
  intro id
  cases subs.find id with
  | none => exact .none
  | some sub => exact .some (.refl sub)

theorem ResetsTo.trans {subs'' : SubTable} (h : ResetsTo subs subs')
    (h' : ResetsTo subs' subs'') : ResetsTo subs subs'' := by
  intro id
  have hid := h id
  have hid' := h' id
  generalize subs.find id = o at hid
  generalize subs'.find id = o' at hid hid'
  cases hid with
  | none => exact hid'
  | some hr =>
    generalize subs''.find id = o'' at hid'
    cases hid' with
    | some hr' => exact .some (hr.trans hr')

theorem nodup_activeSubscriptions (subs : SubTable) (userId now : Int) :
    ((activeSubscriptions subs userId now).map UserSubscription.id).Nodup := by
  have hperm := (perm_insertionSort
    (fun s s' : UserSubscription => s.endTime < s'.endTime ∨ s.endTime = s'.endTime ∧ s.id ≤ s'.id)
    (subs.rows.filter fun s => s.userId = userId ∧ s.status = .active ∧ now < s.endTime)).map
    UserSubscription.id
  exact hperm.nodup_iff.mpr (subs.nodup.sublist (filter_sublist.map _))

theorem selectSubscription_resetsTo
    {candidates : List UserSubscription} {selected : Option UserSubscription}
    (hstored : ∀ c ∈ candidates, subs.find c.id = some c)
    (hnodup : (candidates.map UserSubscription.id).Nodup)
    (h : selectSubscription reset amount subs candidates = .ok (subs', selected)) :
    ResetsTo subs subs' := by
  induction candidates generalizing subs with
  | nil =>
    cases h
    exact .refl _
  | cons c rest ih =>
    rw [map_cons, nodup_cons] at hnodup
    simp only [selectSubscription] at h
    split at h
    · cases h
    rename_i sub happly
    obtain ⟨hid, -⟩ := ResetDecision.apply_ok happly
    have hsave : ResetsTo subs (subs.save sub) := by
      have hfind : subs.find sub.id = some c := by
        rw [hid]
        exact hstored c mem_cons_self
      exact rel_save hfind (ResetDecision.apply_resetOf happly) fun r _ => .refl r
    split_ifs at h
    · refine hsave.trans (ih (fun c' hc' => ?_) hnodup.2 h)
      -- the later candidates have other ids
      rw [find_save_of_ne]
      · exact hstored c' (mem_cons_of_mem _ hc')
      · intro heq
        rw [hid] at heq
        exact hnodup.1 (heq ▸ mem_map_of_mem hc')
    · cases h
      exact hsave

/-! ### What the transactions do to the usage -/

def UserSubscription.use (sub : UserSubscription) (delta : Int) : UserSubscription :=
  { sub with amountUsed := sub.amountUsed + delta }

@[simp] theorem UserSubscription.use_zero (sub : UserSubscription) : sub.use 0 = sub := by
  simp [use]

@[simp] theorem UserSubscription.use_use (sub : UserSubscription) (a b : Int) :
    (sub.use a).use b = sub.use (a + b) := by
  simp [use, add_assoc]

theorem postConsume_of_inRange {delta : Int} (hfind : subs.find sub.id = some sub)
    (hpos : 0 < sub.id) (hlow : 0 ≤ sub.amountUsed + delta)
    (hhigh : 0 < sub.amountTotal → sub.amountUsed + delta ≤ sub.amountTotal) :
    postConsumeUserSubscriptionDelta subs sub.id delta true = .ok (subs.save (sub.use delta)) := by
  have hmax : max (sub.amountUsed + delta) 0 = sub.amountUsed + delta := by omega
  have h₁ : ¬ sub.id ≤ 0 := by omega
  have h₂ : ¬ (0 < sub.amountTotal ∧ sub.amountTotal < sub.amountUsed + delta) := by
    rintro ⟨ht, hlt⟩
    exact absurd (hhigh ht) (by omega)
  by_cases h₀ : delta = 0
  · subst h₀
    simp [postConsumeUserSubscriptionDelta, h₁, save_of_find hfind]
  · simp [postConsumeUserSubscriptionDelta, h₀, h₁, h₂, hfind, hmax, UserSubscription.use]

theorem postConsume_ok {id delta : Int} {dbOk : Bool}
    (h : postConsumeUserSubscriptionDelta subs id delta dbOk = .ok subs') :
    0 < id ∧ (delta = 0 ∧ subs' = subs ∨ ∃ sub, subs.find id = some sub ∧
      (0 < sub.amountTotal → max (sub.amountUsed + delta) 0 ≤ sub.amountTotal) ∧
      subs' = subs.save { sub with amountUsed := max (sub.amountUsed + delta) 0 }) := by
  cases hfind : subs.find id with
  | none =>
    simp only [postConsumeUserSubscriptionDelta, hfind] at h
    split_ifs at h with hid hdelta
    cases h
    exact ⟨by omega, .inl ⟨hdelta, rfl⟩⟩
  | some sub =>
    simp only [postConsumeUserSubscriptionDelta, hfind] at h
    split_ifs at h with hid hdelta htotal
    · cases h
      exact ⟨by omega, .inl ⟨hdelta, rfl⟩⟩
    · cases h
      exact ⟨by omega, .inr ⟨sub, rfl, fun ht => by omega, rfl⟩⟩

/-- A successful pre-consume on a fresh request id charges one valid stored row that has room, and
records the charge. `subs₀` is the table after the due resets. -/
theorem preConsume_fresh {st st' : SubscriptionStore} {reqId : String} {userId : Int}
    {r : PreConsumeReplies} {res : SubscriptionPreConsumeResult}
    (hvalid : ∀ sub ∈ st.subs.rows, sub.Valid) (hfresh : st.records.find reqId = none)
    (hcreate : ∀ dup, r.create ≠ .duplicate dup)
    (h : preConsumeUserSubscription st reqId userId amount r = .ok (res, st')) :
    ∃ subs₀ sub, selectSubscription r.reset amount st.subs
        (activeSubscriptions st.subs userId r.now) = .ok (subs₀, some sub) ∧
      subs₀.find sub.id = some sub ∧ ¬ sub.Lacks amount ∧ sub.Valid ∧
      isBlank reqId = false ∧ 0 < amount ∧
      res = ⟨sub.id, amount, sub.amountTotal, sub.amountUsed, sub.amountUsed + amount⟩ ∧
      st' = ⟨subs₀.save (sub.use amount),
        st.records.insert ⟨reqId, userId, sub.id, amount, .consumed⟩⟩ := by
  simp only [preConsumeUserSubscription, hfresh] at h
  cases hsel : selectSubscription r.reset amount st.subs
      (activeSubscriptions st.subs userId r.now) with
  | error e =>
    simp only [hsel] at h
    split_ifs at h
  | ok selected =>
    obtain ⟨subs₀, _ | sub⟩ := selected
    · simp only [hsel] at h
      split_ifs at h
    obtain ⟨hfind, hroom, hv⟩ := selectSubscription_some
      (fun c hc => mem_map_of_mem (mem_of_mem_activeSubscriptions hc))
      (fun c hc => hvalid c (mem_of_mem_activeSubscriptions hc)) hsel
    cases hc : r.create with
    | failed =>
      simp only [hsel, hc] at h
      split_ifs at h
    | duplicate dup => exact absurd hc (hcreate dup)
    | ok =>
      simp only [hsel, hc] at h
      split_ifs at h with h₁ h₂ h₃
      cases h
      exact ⟨subs₀, sub, rfl, hfind, hroom, hv, by simpa using h₂, by omega, rfl, rfl⟩

theorem refundWithRetry_consumed {st : SubscriptionStore} {sub : UserSubscription}
    {record : SubscriptionPreConsumeRecord} {attempts : ℕ → RefundReplies}
    (hreq : isBlank record.requestId = false)
    (hrecord : st.records.find record.requestId = some record) (hstatus : record.status = .consumed)
    (hsub : st.subs.find sub.id = some sub) (hid : record.userSubscriptionId = sub.id)
    (hpos : 0 < sub.id) (hamount : 0 < record.preConsumed)
    (hlow : record.preConsumed ≤ sub.amountUsed)
    (hhigh : 0 < sub.amountTotal → sub.amountUsed ≤ sub.amountTotal)
    (hok : attempts 0 = .allOk) :
    refundWithRetry st record.requestId attempts = (⟨st.subs.save (sub.use (-record.preConsumed)),
        st.records.save { record with status := .refunded }⟩, none) := by
  have hpost : postConsumeUserSubscriptionDelta st.subs sub.id (-record.preConsumed) true =
      .ok (st.subs.save (sub.use (-record.preConsumed))) :=
    postConsume_of_inRange hsub hpos (by omega) fun ht => by have := hhigh ht; omega
  have hneg : ¬ record.preConsumed ≤ 0 := by omega
  simp [refundWithRetry, refundSubscriptionPreConsume, hreq, hok, RefundReplies.allOk, hrecord,
    hstatus, hneg, hid, hpost]

end NewApi.Model
