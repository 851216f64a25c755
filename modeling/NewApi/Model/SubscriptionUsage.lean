import NewApi.Common.QuotaMath
import NewApi.Foundation.Run
import NewApi.Foundation.Saturating
import NewApi.Model.Subscription

/-!
# The usage of a subscription stays within its total

The transactions of `model/subscription.go` on `AmountUsed`, with the 64-bit arithmetic of the
source: pre-consume, refund, settlement by a delta, and the resets. Each one locks the rows that it
changes, so it is one step of a run, and any interleaving is a run.

`Model.Subscription` has the same transactions over exact integers. The callers pass quotas that
saturate at 32 bits, so no run is long enough for a sum to leave the 64-bit range
(`noOverflow_of_inQuotaRange`).
-/

namespace NewApi.Model

open Common StepSystem List Table

/-! ### Resets -/

/-- What a reset reads beside the row: its start time, whether the plan never resets, and
`calcNextResetTime` for the plan and the end time of the row, which is `0` if there is no next
reset. -/
structure ResetPlan where
  startTime : Int
  never : Bool
  calcNextResetTime : Int → Int

def Passed (now time : Int) : Prop := 0 < time ∧ time ≤ now
  deriving Decidable

/-- The loop over the reset times that have passed, or none if it needs more rounds than `fuel`. -/
def advanceLoop (nextTime : Int → Int) (now : Int) :
    ℕ → Int → Int → Bool → Option (Int × Int × Bool)
  | 0, _, _, _ => none
  | fuel + 1, base, next, advanced =>
    if Passed now next then advanceLoop nextTime now fuel next (nextTime next) true
    else some (base, next, advanced)

/-- The time from which the reset times of a row are counted. -/
def resetBase (plan : ResetPlan) (sub : UserSubscription) : Int :=
  if sub.lastResetTime ≤ 0 then plan.startTime else sub.lastResetTime

/-- What is done to a row after the loop; `ok` tells whether it can be saved. -/
def decisionAfter (ok : Bool) (sub : UserSubscription) : Int × Int × Bool → ResetDecision
  | (base, next, false) =>
    if sub.nextResetTime = 0 ∧ 0 < next then if ok then .schedule base next else .fail else .keep
  | (base, next, true) => if ok then .advance base next else .fail

/-- The reset of a row if a plan sets one; none if the loop needs more rounds than `fuel`. -/
def resetDecision (fuel : ℕ) (plan : ResetPlan) (ok : Bool) (now : Int) (sub : UserSubscription) :
    Option ResetDecision :=
  if 0 < sub.nextResetTime ∧ now < sub.nextResetTime then some .keep
  else if plan.never then some .keep
  else
    (advanceLoop plan.calcNextResetTime now fuel (resetBase plan sub)
      (plan.calcNextResetTime (resetBase plan sub)) false).map (decisionAfter ok sub)

/-- `maybeResetUserSubscriptionWithPlanTx`. The reset times of a plan go forward, so at most `now`
of them have passed. -/
def maybeResetUserSubscriptionWithPlanTx (plan : ResetPlan) (ok : Bool) (now : Int)
    (sub : UserSubscription) : ResetDecision :=
  (resetDecision (now.toNat + 1) plan ok now sub).getD .keep

/-- `resetUserSubscriptionTx`, by an administrator; `times` are the new reset times if they are to
be advanced. -/
def resetUserSubscriptionTx (times : Option (Int × Int)) (ok : Bool) (sub : UserSubscription) :
    ResetDecision :=
  if ok then
    match times with
    | some (last, next) => .advance last next
    | none => .advance sub.lastResetTime sub.nextResetTime
  else .fail

variable {sub : UserSubscription} {reset : UserSubscription → ResetDecision} {amount : Int}
  {candidates : List UserSubscription} {subs subs' : SubTable} {reqId : String}

/-! ### Transactions -/

namespace Machine

/-- The row has no room for `amount`. -/
def Lacks (sub : UserSubscription) (amount : Int) : Prop :=
  0 < sub.amountTotal ∧ Int64.wrap (sub.amountTotal - sub.amountUsed) < amount
  deriving Decidable

/-- The loop over the candidates. -/
def selectSubscription (reset : UserSubscription → ResetDecision) (amount : Int)
    (subs : SubTable) : List UserSubscription →
    Except SubscriptionError (SubTable × Option UserSubscription)
  | [] => .ok (subs, none)
  | candidate :: rest =>
    match (reset candidate).apply candidate with
    | .error e => .error e
    | .ok sub =>
      if Lacks sub amount then selectSubscription reset amount (subs.save sub) rest
      else .ok (subs.save sub, some sub)

/-- A request that is repeated gets its record back. -/
def preConsumeUserSubscription (st : SubscriptionStore) (reqId : String)
    (userId amount : Int) (r : PreConsumeReplies) :
    Except SubscriptionError (SubscriptionPreConsumeResult × SubscriptionStore) :=
  if userId ≤ 0 then .error .invalidUserId
  else if GoText.isBlank reqId then .error .requestIdEmpty
  else if amount ≤ 0 then .error .amountNotPositive
  else if !r.findRecord then .error .database
  else match st.records.find reqId with
    | some existing =>
      if existing.status = .refunded then .error .alreadyRefunded
      else if !r.findSub then .error .database
      else match st.subs.find existing.userSubscriptionId with
        | none => .error .recordNotFound
        | some sub => .ok (⟨sub.id, existing.preConsumed, sub.amountTotal, sub.amountUsed,
            sub.amountUsed⟩, st)
    | none =>
      if !r.list || (activeSubscriptions st.subs userId r.now).isEmpty then
        .error .noActiveSubscription
      else match selectSubscription r.reset amount st.subs
          (activeSubscriptions st.subs userId r.now) with
        | .error e => .error e
        | .ok (_, none) => .error (.quotaInsufficient amount)
        | .ok (subs, some sub) =>
          match r.create with
          | .failed => .error .database
          | .duplicate dup =>
            if dup.status = .refunded then .error .alreadyRefunded
            else .ok (⟨sub.id, dup.preConsumed, sub.amountTotal, sub.amountUsed, sub.amountUsed⟩,
              { st with subs := subs })
          | .ok =>
            let usedAfter := Int64.wrap (sub.amountUsed + amount)
            if !r.save then .error .database
            else .ok (⟨sub.id, amount, sub.amountTotal, sub.amountUsed, usedAfter⟩,
              ⟨subs.save { sub with amountUsed := usedAfter },
                st.records.insert ⟨reqId, userId, sub.id, amount, .consumed⟩⟩)

/-- A usage stops at zero and may not exceed the total. -/
def postConsumeUserSubscriptionDelta (subs : SubTable)
    (subId delta : Int) (dbOk : Bool) :
    Except SubscriptionError (SubTable) :=
  if subId ≤ 0 then .error .invalidUserSubscriptionId
  else if delta = 0 then .ok subs
  else match subs.find subId with
    | none => .error .recordNotFound
    | some sub =>
      let newUsed := max (Int64.wrap (sub.amountUsed + delta)) 0
      if 0 < sub.amountTotal ∧ sub.amountTotal < newUsed then
        .error (.usedExceedsTotal newUsed sub.amountTotal)
      else if !dbOk then .error .database
      else .ok (subs.save { sub with amountUsed := newUsed })

def refundSubscriptionPreConsume (st : SubscriptionStore) (reqId : String)
    (r : RefundReplies) : SubscriptionStore × Option SubscriptionError :=
  if GoText.isBlank reqId then (st, some .requestIdEmpty)
  else if !r.find then (st, some .database)
  else match st.records.find reqId with
    | none => (st, some .recordNotFound)
    | some record =>
      if record.status = .refunded then (st, none)
      else if record.preConsumed ≤ 0 then
        if r.save then
          ({ st with records := st.records.save { record with status := .refunded } }, none)
        else (st, some .database)
      else match postConsumeUserSubscriptionDelta st.subs record.userSubscriptionId
          (-record.preConsumed) r.adjust with
        | .error e => (st, some e)
        | .ok subs =>
          if r.save then (⟨subs, st.records.save { record with status := .refunded }⟩, none)
          else ({ st with subs := subs }, some .database)

/-- The reset of one row, under its lock. -/
def resetLocked (subs : SubTable) (subId : Int)
    (due : UserSubscription → Bool) (reset : UserSubscription → ResetDecision) :
    Except SubscriptionError (SubTable) :=
  match subs.find subId with
  | none => .ok subs
  | some sub =>
    if due sub then
      match (reset sub).apply sub with
      | .ok sub' => .ok (subs.save sub')
      | .error e => .error e
    else .ok subs

end Machine

/-- The calls that change the usage of subscriptions. The request that a settlement belongs to is
known to its caller only; an administrator resets a row whether or not a reset is due. -/
inductive UsageCall
  | preConsume (reqId : String) (userId : Int) (amount : Int64) (r : PreConsumeReplies)
  | refund (reqId : String) (r : RefundReplies)
  | settle (reqId : String) (subId : Int) (delta : Int64) (ok : Bool)
  | resetDue (subId now : Int) (plan : ResetPlan) (ok : Bool)
  | adminReset (subId : Int) (times : Option (Int × Int)) (ok : Bool)

def usageCall (st : SubscriptionStore) : UsageCall → SubscriptionStore × Option SubscriptionError
  | .preConsume reqId userId amount r =>
    match Machine.preConsumeUserSubscription st reqId userId amount.toInt r with
    | .ok (_, st') => (st', none)
    | .error e => (st, some e)
  | .refund reqId r => Machine.refundSubscriptionPreConsume st reqId r
  | .settle _ subId delta ok =>
    match Machine.postConsumeUserSubscriptionDelta st.subs subId delta.toInt ok with
    | .ok subs => ({ st with subs := subs }, none)
    | .error e => (st, some e)
  | .resetDue subId now plan ok =>
    match Machine.resetLocked st.subs subId
      (fun sub => Passed now sub.nextResetTime)
      (maybeResetUserSubscriptionWithPlanTx plan ok now) with
    | .ok subs => ({ st with subs := subs }, none)
    | .error e => (st, some e)
  | .adminReset subId times ok =>
    match Machine.resetLocked st.subs subId (fun _ => true)
      (resetUserSubscriptionTx times ok) with
    | .ok subs => ({ st with subs := subs }, none)
    | .error e => (st, some e)

def usageStep (st : SubscriptionStore) (call : UsageCall) : SubscriptionStore :=
  (usageCall st call).1

/-! ### What a transaction does to a row -/

def ResetDecision.resets : ResetDecision → Bool
  | advance _ _ => true
  | keep | schedule _ _ | fail => false

theorem ResetDecision.apply_spec {d : ResetDecision} {sub' : UserSubscription}
    (h : d.apply sub = .ok sub') :
    sub'.id = sub.id ∧ sub'.userId = sub.userId ∧ sub'.amountTotal = sub.amountTotal ∧
      sub'.amountUsed = if d.resets then 0 else sub.amountUsed := by
  cases d with
  | keep | schedule base next | advance base next =>
    obtain rfl := Except.ok.inj h
    exact ⟨rfl, rfl, rfl, rfl⟩
  | fail => cases h

def visitedIds (reset : UserSubscription → ResetDecision) (amount : Int) :
    List UserSubscription → List Int
  | [] => []
  | candidate :: rest =>
    match (reset candidate).apply candidate with
    | .error _ => [candidate.id]
    | .ok sub =>
      if Machine.Lacks sub amount then candidate.id :: visitedIds reset amount rest
      else [candidate.id]

theorem mem_of_mem_visitedIds {id : Int} (h : id ∈ visitedIds reset amount candidates) :
    id ∈ candidates.map UserSubscription.id := by
  induction candidates with
  | nil => exact h
  | cons c rest ih =>
    simp only [visitedIds] at h
    rw [map_cons, mem_cons]
    split at h
    · exact .inl (mem_singleton.mp h)
    split_ifs at h
    · rcases mem_cons.mp h with heq | hmem
      · exact .inl heq
      · exact .inr (ih hmem)
    · exact .inl (mem_singleton.mp h)

def Visited (reset : UserSubscription → ResetDecision) (ids : List Int)
    (sub sub' : UserSubscription) : Prop :=
  if sub.id ∈ ids then (reset sub).apply sub = .ok sub' else sub' = sub

/-- **The loop over the candidates** resets the rows that it comes to, and selects one of them that
has room. -/
theorem selectSubscription_spec {selected : Option UserSubscription}
    (hstored : ∀ c ∈ candidates, subs.find c.id = some c)
    (hnodup : (candidates.map UserSubscription.id).Nodup)
    (h : Machine.selectSubscription reset amount subs candidates = .ok (subs', selected)) :
    (∀ id, Option.Rel (Visited reset (visitedIds reset amount candidates)) (subs.find id)
      (subs'.find id)) ∧
      ∀ sub ∈ selected, subs'.find sub.id = some sub ∧ ¬ Machine.Lacks sub amount ∧
        ∃ c ∈ candidates, c.id ∈ visitedIds reset amount candidates ∧
          (reset c).apply c = .ok sub := by
  induction candidates generalizing subs with
  | nil =>
    obtain ⟨rfl, rfl⟩ := Prod.mk.inj (Except.ok.inj h)
    refine ⟨fun id => ?_, fun _ hsub => by cases hsub⟩
    cases subs.find id with
    | none => exact .none
    | some sub => exact .some (by simp [Visited, visitedIds])
  | cons c rest ih =>
    rw [map_cons, nodup_cons] at hnodup
    have hc : subs.find c.id = some c := hstored c mem_cons_self
    simp only [Machine.selectSubscription] at h
    simp only [visitedIds]
    rcases happly : (reset c).apply c with e | sub
    · simp [happly] at h
    obtain ⟨hid, -, -, -⟩ := ResetDecision.apply_spec happly
    have hold : subs.find sub.id = some c := hid ▸ hc
    simp only [happly] at h ⊢
    split_ifs at h ⊢ with hlacks
    · have hne : ∀ c' ∈ rest, c'.id ≠ sub.id := by
        intro c' hc' heq
        exact hnodup.1 (hid ▸ heq ▸ mem_map_of_mem hc')
      have hstored' : ∀ c' ∈ rest, (subs.save sub).find c'.id = some c' := by
        intro c' hc'
        rw [find_save_of_ne (hne c' hc')]
        exact hstored c' (mem_cons_of_mem _ hc')
      obtain ⟨hrel, hsel⟩ := ih hstored' hnodup.2 h
      refine ⟨fun id => ?_, fun s hs => ?_⟩
      · by_cases heq : id = sub.id
        · -- the row of this candidate is not visited again
          have hnot : sub.id ∉ visitedIds reset amount rest := by
            intro hmem
            obtain ⟨c', hc', hid'⟩ := mem_map.mp (mem_of_mem_visitedIds hmem)
            exact hne c' hc' hid'
          have hlast := hrel sub.id
          rw [find_save (mem_keys_of_find hold)] at hlast
          rw [heq, hold]
          generalize subs'.find sub.id = o at hlast
          cases hlast with
          | some hv =>
            rw [Visited, if_neg hnot] at hv
            exact .some (by simp [Visited, happly, hv])
        · have hlast := hrel id
          rw [find_save_of_ne heq] at hlast
          cases hfind : subs.find id with
          | none =>
            rw [hfind] at hlast
            generalize subs'.find id = o at hlast
            cases hlast with
            | none => exact .none
          | some r =>
            obtain ⟨-, rfl⟩ := mem_of_find hfind
            rw [hfind] at hlast
            generalize subs'.find r.id = o at hlast
            cases hlast with
            | some hv =>
              rw [hid] at heq
              exact .some (by simpa [Visited, heq] using hv)
      · obtain ⟨hfind, hroom, c', hc', hmem, happly'⟩ := hsel s hs
        exact ⟨hfind, hroom, c', mem_cons_of_mem _ hc', mem_cons_of_mem _ hmem, happly'⟩
    · obtain ⟨rfl, rfl⟩ := Prod.mk.inj (Except.ok.inj h)
      refine ⟨rel_save hold ?_ fun r hr => ?_, fun s hs => ?_⟩
      · simp [Visited, happly]
      · rw [hid] at hr
        simp [Visited, hr]
      · obtain rfl := Option.some.inj hs
        exact ⟨find_save (mem_keys_of_find hold), hlacks, c, mem_cons_self,
          mem_singleton.mpr rfl, happly⟩

/-- The effect of a call on one row: whether the row is reset first, and the change of its usage
that comes then, with the request that it is made for. -/
structure UsageEffect where
  resets : Bool
  change : Option (String × Int)

def UsageEffect.none : UsageEffect := ⟨false, .none⟩

def refunding (st : SubscriptionStore) (reqId : String) (r : RefundReplies) :
    Option (SubscriptionPreConsumeRecord × SubTable) :=
  match st.records.find reqId with
  | some record =>
    if GoText.isBlank reqId = false ∧ r.find = true ∧ record.status ≠ .refunded ∧
        0 < record.preConsumed then
      (Machine.postConsumeUserSubscriptionDelta st.subs record.userSubscriptionId
        (-record.preConsumed) r.adjust).toOption.map (record, ·)
    else none
  | none => none

def usageEffect (st : SubscriptionStore) (id : Int) : UsageCall → UsageEffect
  | .preConsume reqId userId amount r =>
    match Machine.preConsumeUserSubscription st reqId userId amount.toInt r,
      st.records.find reqId, st.subs.find id with
    | .ok (res, _), .none, some sub =>
      ⟨id ∈ visitedIds r.reset amount.toInt (activeSubscriptions st.subs userId r.now) ∧
        (r.reset sub).resets = true,
        if r.create = .ok ∧ res.userSubscriptionId = id then some (reqId, amount.toInt)
        else .none⟩
    | _, _, _ => .none
  | .refund reqId r =>
    match refunding st reqId r with
    | some (record, _) =>
      if record.userSubscriptionId = id then ⟨false, some (reqId, -record.preConsumed)⟩
      else .none
    | .none => .none
  | .settle reqId subId delta ok =>
    match Machine.postConsumeUserSubscriptionDelta st.subs subId delta.toInt ok with
    | .ok _ =>
      if subId = id ∧ delta ≠ 0 then ⟨false, some (reqId, delta.toInt)⟩ else .none
    | .error _ => .none
  | .resetDue subId now plan ok =>
    match st.subs.find id with
    | some sub =>
      ⟨subId = id ∧ Passed now sub.nextResetTime ∧
        (maybeResetUserSubscriptionWithPlanTx plan ok now sub).resets = true, .none⟩
    | .none => .none
  | .adminReset subId times ok =>
    match st.subs.find id with
    | some sub =>
      ⟨subId = id ∧ (resetUserSubscriptionTx times ok sub).resets = true, .none⟩
    | .none => .none

def UserSubscription.Stored (sub : UserSubscription) : Prop :=
  sub.amountTotal < 2 ^ 63 ∧ sub.amountUsed < 2 ^ 63

/-- No sum of the call leaves the 64-bit range: the usage with the delta of a settlement, and the
usage of each row without a total of the user with the amount of a pre-consume. -/
def NoOverflow (st : SubscriptionStore) : UsageCall → Prop
  | .preConsume _ userId amount _ => ∀ sub ∈ st.subs.rows, sub.userId = userId →
      sub.amountTotal ≤ 0 → sub.amountUsed + amount.toInt < 2 ^ 63
  | .settle _ subId delta _ => ∀ sub ∈ st.subs.find subId,
      sub.amountUsed + delta.toInt < 2 ^ 63
  | .refund _ _ | .resetDue _ _ _ _ | .adminReset _ _ _ => True

instance (st : SubscriptionStore) : DecidablePred (NoOverflow st)
  | .preConsume _ _ _ _ => inferInstanceAs (Decidable (∀ sub ∈ st.subs.rows, _ → _ → _))
  | .settle _ _ _ _ => inferInstanceAs (Decidable (∀ sub ∈ st.subs.find _, _))
  | .refund _ _ | .resetDue _ _ _ _ | .adminReset _ _ _ => inferInstanceAs (Decidable True)

/-- The amounts that the callers pass: the quota of a request is saturated at `MaxQuota`, and a
settlement moves the usage by the difference of two quotas. -/
def UsageCall.InQuotaRange : UsageCall → Prop
  | .preConsume _ _ amount _ => amount.toInt ≤ maxQuota
  | .settle _ _ delta _ => delta.toInt ≤ maxQuota - minQuota
  | .refund _ _ | .resetDue _ _ _ _ | .adminReset _ _ _ => True

/-- **What a call can do to a row**, with its effect; `fits` is the condition that no sum
overflows. -/
inductive RowMove (fits : Prop) (sub : UserSubscription) :
    UsageEffect → UserSubscription → Prop
  /-- The row gets at most a reset. -/
  | turned {d : ResetDecision} {sub' : UserSubscription} (hreset : d.apply sub = .ok sub') :
      RowMove fits sub ⟨d.resets, .none⟩ sub'
  | charged {d : ResetDecision} {sub' : UserSubscription} {reqId : String} {amount : Int}
      (hreset : d.apply sub = .ok sub') (hroom : ¬ Machine.Lacks sub' amount) (hpos : 0 < amount)
      (hamount : amount < 2 ^ 63)
      (hfits : fits → sub.amountTotal ≤ 0 → sub.amountUsed + amount < 2 ^ 63) :
      RowMove fits sub ⟨d.resets, some (reqId, amount)⟩
        { sub' with amountUsed := Int64.wrap (sub'.amountUsed + amount) }
  | moved {reqId : String} {delta : Int}
      (hle : 0 < sub.amountTotal → max (Int64.wrap (sub.amountUsed + delta)) 0 ≤ sub.amountTotal)
      (hfits : fits → sub.Stored → sub.amountUsed + delta < 2 ^ 63) :
      RowMove fits sub ⟨false, some (reqId, delta)⟩
        { sub with amountUsed := max (Int64.wrap (sub.amountUsed + delta)) 0 }

section

variable {fits : Prop} {st : SubscriptionStore} {id : Int}

theorem RowMove.still (sub : UserSubscription) : RowMove fits sub .none sub :=
  .turned (d := .keep) rfl

theorem rowMove_self (fits : Prop) (o : Option UserSubscription) :
    Option.Rel (fun sub sub' => RowMove fits sub .none sub') o o := by
  cases o with
  | none => exact .none
  | some sub => exact .some (.still sub)

theorem Machine.postConsume_ok {delta : Int} {ok : Bool}
    (h : Machine.postConsumeUserSubscriptionDelta subs id delta ok = .ok subs') :
    delta = 0 ∧ subs' = subs ∨ delta ≠ 0 ∧ ∃ sub, subs.find id = some sub ∧ (0 < sub.amountTotal →
        max (Int64.wrap (sub.amountUsed + delta)) 0 ≤ sub.amountTotal) ∧
      subs' = subs.save { sub with amountUsed := max (Int64.wrap (sub.amountUsed + delta)) 0 } := by
  cases hfind : subs.find id with
  | none =>
    simp only [Machine.postConsumeUserSubscriptionDelta, hfind] at h
    split_ifs at h with hid hdelta
    cases h
    exact .inl ⟨hdelta, rfl⟩
  | some sub =>
    simp only [Machine.postConsumeUserSubscriptionDelta, hfind] at h
    split_ifs at h with hid hdelta htotal
    · cases h
      exact .inl ⟨hdelta, rfl⟩
    · cases h
      exact .inr ⟨hdelta, sub, rfl, fun ht => by omega, rfl⟩

theorem postConsume_rowMove {id₀ delta : Int} {ok : Bool}
    (h : Machine.postConsumeUserSubscriptionDelta subs id₀ delta ok = .ok subs')
    (reqId : String)
    (hfits : fits → ∀ sub ∈ subs.find id₀, sub.Stored → sub.amountUsed + delta < 2 ^ 63) :
    Option.Rel (fun sub sub' => RowMove fits sub
      (if id₀ = id ∧ delta ≠ 0 then ⟨false, some (reqId, delta)⟩ else .none) sub')
      (subs.find id) (subs'.find id) := by
  obtain ⟨hzero, rfl⟩ | ⟨hne, sub, hfind, hle, rfl⟩ := Machine.postConsume_ok h
  · simp only [hzero, ne_eq, not_true_eq_false, and_false]
    exact rowMove_self _ _
  refine rel_save_at hfind (mem_of_find hfind).2 (fun hid => ?_) fun r hid _ => ?_
  · rw [if_pos ⟨hid.symm, hne⟩]
    exact .moved hle fun hf => hfits hf sub hfind
  · rw [if_neg fun h => hid h.1.symm]
    exact .still r

variable {due : UserSubscription → Bool}

theorem Machine.resetLocked_error {e : SubscriptionError}
    (h : Machine.resetLocked subs id due reset = .error e) (hfind : subs.find id = some sub) :
    (reset sub).resets = false := by
  simp only [Machine.resetLocked, hfind] at h
  split_ifs at h
  cases hreset : reset sub with
  | keep | schedule base next | fail => rfl
  | advance base next =>
    rw [hreset] at h
    cases h

/-- A reset under the lock of the row either changes nothing, since there is no such row or no reset
is due, or applies the reset. -/
theorem Machine.resetLocked_ok (h : Machine.resetLocked subs id due reset = .ok subs') :
    subs' = subs ∧ (∀ sub ∈ subs.find id, due sub = false) ∨
      ∃ sub sub', subs.find id = some sub ∧ due sub = true ∧ (reset sub).apply sub = .ok sub' ∧
        subs' = subs.save sub' := by
  rcases hfind : subs.find id with - | sub
  · simp only [Machine.resetLocked, hfind] at h
    cases h
    exact .inl ⟨rfl, fun _ hsub => by cases hsub⟩
  simp only [Machine.resetLocked, hfind] at h
  split_ifs at h with hdue
  · cases happly : (reset sub).apply sub with
    | error e => simp [happly] at h
    | ok sub' =>
      simp only [happly] at h
      cases h
      exact .inr ⟨sub, sub', rfl, hdue, happly, rfl⟩
  · cases h
    refine .inl ⟨rfl, fun s hs => ?_⟩
    obtain rfl := Option.some.inj hs
    simpa using hdue

theorem resetLocked_ok_rowMove {id₀ : Int}
    (h : Machine.resetLocked subs id₀ due reset = .ok subs') :
    Option.Rel (fun sub sub' => RowMove fits sub
      ⟨id₀ = id ∧ due sub = true ∧ (reset sub).resets = true, .none⟩ sub')
      (subs.find id) (subs'.find id) := by
  obtain ⟨rfl, hdue⟩ | ⟨sub, sub', hfind, hdue, happly, rfl⟩ := Machine.resetLocked_ok h
  · rcases hid : subs'.find id with - | r
    · exact .none
    have hno : ¬ (id₀ = id ∧ due r = true ∧ (reset r).resets = true) := by
      rintro ⟨rfl, hr, -⟩
      simp [hdue r hid] at hr
    refine .some ?_
    simp only [hno]
    exact .still r
  · have hkey : sub'.id = id₀ := by
      rw [(ResetDecision.apply_spec happly).1, (mem_of_find hfind).2]
    refine rel_save_at hfind hkey (fun hid => ?_) fun r hid _ => ?_
    · simp only [hid, hdue, true_and, Bool.decide_eq_true]
      exact .turned happly
    · simp only [Ne.symm hid]
      exact .still r

theorem resetLocked_rowMove (fits : Prop) (subs : SubTable) (id₀ : Int)
    (due : UserSubscription → Bool) (reset : UserSubscription → ResetDecision) :
    Option.Rel (fun sub sub' => RowMove fits sub
      ⟨id₀ = id ∧ due sub = true ∧ (reset sub).resets = true, .none⟩ sub')
      (subs.find id) (((Machine.resetLocked subs id₀ due reset).toOption.getD subs).find id) := by
  cases hcall : Machine.resetLocked subs id₀ due reset with
  | error e =>
    refine rel_imp (rowMove_self fits _) fun sub sub' hold hmove => ?_
    have hno : ¬ (id₀ = id ∧ due sub = true ∧ (reset sub).resets = true) := by
      rintro ⟨rfl, -, hr⟩
      rw [Machine.resetLocked_error hcall hold] at hr
      cases hr
    simp only [hno]
    exact hmove
  | ok subs' =>
    exact resetLocked_ok_rowMove hcall

theorem userId_of_mem_activeSubscriptions {userId now : Int}
    (h : sub ∈ activeSubscriptions subs userId now) : sub.userId = userId := by
  rw [activeSubscriptions, mem_insertionSort] at h
  have hfilter := of_mem_filter h
  simp only [decide_eq_true_eq] at hfilter
  exact hfilter.1

/-- A pre-consume that succeeds repeats the answer for a known request, or selects a row for a new
one; the row is charged unless another call has created the record meanwhile. -/
theorem Machine.preConsume_ok {st' : SubscriptionStore} {userId : Int} {r : PreConsumeReplies}
    {res : SubscriptionPreConsumeResult}
    (h : Machine.preConsumeUserSubscription st reqId userId amount r = .ok (res, st')) :
    0 < amount ∧ ((∃ record, st.records.find reqId = some record) ∧ st' = st ∨
      st.records.find reqId = none ∧ ∃ subs sub,
        Machine.selectSubscription r.reset amount st.subs
          (activeSubscriptions st.subs userId r.now) = .ok (subs, some sub) ∧
        (r.create ≠ .ok ∧ st' = { st with subs := subs } ∨
          r.create = .ok ∧ res.userSubscriptionId = sub.id ∧
          st' = ⟨subs.save { sub with amountUsed := Int64.wrap (sub.amountUsed + amount) },
            st.records.insert ⟨reqId, userId, sub.id, amount, .consumed⟩⟩)) := by
  revert h
  fun_cases Machine.preConsumeUserSubscription st reqId userId amount r with
  | case8 _ _ hamount _ existing hrecord =>
    rintro ⟨⟩
    exact ⟨not_le.mp hamount, .inl ⟨⟨existing, hrecord⟩, rfl⟩⟩
  | case14 _ _ hamount _ hrecord _ subs sub hselect dup hcreate =>
    rintro ⟨⟩
    exact ⟨not_le.mp hamount, .inr ⟨hrecord, subs, sub, hselect, .inl ⟨by simp [hcreate], rfl⟩⟩⟩
  | case16 _ _ hamount _ hrecord _ subs sub hselect hcreate =>
    rintro ⟨⟩
    exact ⟨not_le.mp hamount, .inr ⟨hrecord, subs, sub, hselect, .inr ⟨hcreate, rfl, rfl⟩⟩⟩
  | _ => rintro ⟨⟩

variable (id) in
/-- The pre-consume of a new request, seen from the row `id`: the loop over the candidates may reset
it, and it is charged if it is the selected one. -/
theorem select_rowMove {userId now : Int} (reqId : String) (hpos : 0 < amount)
    (hamount : amount < 2 ^ 63)
    (hselect : Machine.selectSubscription reset amount st.subs
      (activeSubscriptions st.subs userId now) = .ok (subs, some sub))
    (hfits : fits → ∀ sub ∈ st.subs.rows, sub.userId = userId → sub.amountTotal ≤ 0 →
      sub.amountUsed + amount < 2 ^ 63) :
    Option.Rel (fun s s' => RowMove fits s
      ⟨id ∈ visitedIds reset amount (activeSubscriptions st.subs userId now) ∧
        (reset s).resets = true, .none⟩ s') (st.subs.find id) (subs.find id) ∧
    Option.Rel (fun s s' => RowMove fits s
      ⟨id ∈ visitedIds reset amount (activeSubscriptions st.subs userId now) ∧
        (reset s).resets = true, if sub.id = id then some (reqId, amount) else .none⟩ s')
      (st.subs.find id)
      ((subs.save { sub with amountUsed := Int64.wrap (sub.amountUsed + amount) }).find id) := by
  obtain ⟨hrel, hsel⟩ := selectSubscription_spec
    (fun c hc => find_of_mem (mem_of_mem_activeSubscriptions hc))
    (nodup_activeSubscriptions st.subs userId now) hselect
  obtain ⟨hfind, hroom, c, hc, hvisited, happly⟩ := hsel sub rfl
  have hturned : Option.Rel (fun s s' => RowMove fits s
      ⟨id ∈ visitedIds reset amount (activeSubscriptions st.subs userId now) ∧
        (reset s).resets = true, .none⟩ s') (st.subs.find id) (subs.find id) := by
    refine rel_imp (hrel id) fun s s' hold hv => ?_
    obtain ⟨-, rfl⟩ := mem_of_find hold
    by_cases hmem : s.id ∈ visitedIds reset amount (activeSubscriptions st.subs userId now)
    · rw [Visited, if_pos hmem] at hv
      simp only [hmem, true_and, Bool.decide_eq_true]
      exact .turned hv
    · rw [Visited, if_neg hmem] at hv
      simp only [hmem, hv]
      exact .still s
  refine ⟨hturned, ?_⟩
  obtain ⟨hid, huser, htotal, hused⟩ := ResetDecision.apply_spec happly
  by_cases heq : sub.id = id
  · subst heq
    have hold : st.subs.find sub.id = some c :=
      hid ▸ find_of_mem (mem_of_mem_activeSubscriptions hc)
    have hmem : sub.id ∈ visitedIds reset amount (activeSubscriptions st.subs userId now) :=
      hid ▸ hvisited
    rw [hold, find_save_of_find hfind]
    · refine .some ?_
      simp only [hmem, true_and, Bool.decide_eq_true]
      exact .charged happly hroom hpos hamount fun hf =>
        hfits hf c (mem_of_mem_activeSubscriptions hc) (userId_of_mem_activeSubscriptions hc)
    · rfl
  · simp only [heq]
    rw [find_save_of_ne]
    · exact hturned
    · exact Ne.symm heq

theorem refund_subs (st : SubscriptionStore) (reqId : String) (r : RefundReplies) :
    (Machine.refundSubscriptionPreConsume st reqId r).1.subs =
      ((refunding st reqId r).map Prod.snd).getD st.subs := by
  unfold refunding
  fun_cases Machine.refundSubscriptionPreConsume st reqId r with
  | case1 hblank => cases st.records.find reqId <;> simp [hblank]
  | case2 hblank hread => cases st.records.find reqId <;> simp_all
  | case3 hblank hread hnone => simp [hnone]
  | case4 hblank hread record hrecord hstatus => simp [hrecord, hstatus]
  | case5 hblank hread record hrecord hstatus hpos
  | case6 hblank hread record hrecord hstatus hpos => simp [hrecord, not_lt.mpr hpos]
  | case7 hblank hread record hrecord hstatus hpos e hpost =>
    simp [hrecord, hpost, Except.toOption]
  | case8 hblank hread record hrecord hstatus hpos subs hpost
  | case9 hblank hread record hrecord hstatus hpos subs hpost =>
    simp_all [Except.toOption]

theorem refunding_some {r : RefundReplies} {record : SubscriptionPreConsumeRecord}
    (h : refunding st reqId r = some (record, subs)) :
    st.records.find reqId = some record ∧ 0 < record.preConsumed ∧
      Machine.postConsumeUserSubscriptionDelta st.subs record.userSubscriptionId
        (-record.preConsumed) r.adjust = .ok subs := by
  unfold refunding at h
  rcases hrecord : st.records.find reqId with - | record'
  · simp [hrecord] at h
  simp only [hrecord] at h
  split_ifs at h with hgiven
  cases hpost : Machine.postConsumeUserSubscriptionDelta st.subs record'.userSubscriptionId
      (-record'.preConsumed) r.adjust with
  | error e => simp [hpost, Except.toOption] at h
  | ok subs' =>
    simp only [hpost] at h
    obtain ⟨rfl, rfl⟩ := h
    exact ⟨rfl, hgiven.2.2.2, hpost⟩

/-- **Every call moves every row as its effect says.** -/
theorem usageCall_rowMove (st : SubscriptionStore) (id : Int) (call : UsageCall) :
    Option.Rel (fun sub sub' => RowMove (NoOverflow st call) sub (usageEffect st id call) sub')
      (st.subs.find id) ((usageStep st call).subs.find id) := by
  cases call with
  | preConsume reqId userId amount r =>
    have hamount : amount.toInt < 2 ^ 63 := amount.toInt_lt
    cases hcall : Machine.preConsumeUserSubscription st reqId userId amount.toInt r with
    | error e =>
      simp only [usageStep, usageCall, usageEffect, hcall]
      exact rowMove_self _ _
    | ok result =>
      obtain ⟨res, st'⟩ := result
      obtain ⟨hpos, ⟨⟨record, hrecord⟩, rfl⟩ | ⟨hrecord, subs, sub, hselect, hcreate⟩⟩ :=
        Machine.preConsume_ok hcall
      · simp only [usageStep, usageCall, usageEffect, hcall, hrecord]
        exact rowMove_self _ _
      have hfits : NoOverflow st (.preConsume reqId userId amount r) →
          ∀ sub ∈ st.subs.rows, sub.userId = userId → sub.amountTotal ≤ 0 →
            sub.amountUsed + amount.toInt < 2 ^ 63 := fun h => h
      obtain ⟨hturned, hcharged⟩ := select_rowMove id reqId hpos hamount hselect hfits
      obtain ⟨hother, rfl⟩ | ⟨hok, hid, rfl⟩ := hcreate
      · simp only [usageStep, usageCall, usageEffect, hcall, hrecord, hother, false_and, if_false]
        refine rel_imp hturned fun s s' hold hmove => ?_
        simpa only [hold] using hmove
      · simp only [usageStep, usageCall, usageEffect, hcall, hrecord, hok, true_and]
        refine rel_imp hcharged fun s s' hold hmove => ?_
        simpa only [hold, hid] using hmove
  | refund reqId r =>
    rw [usageStep, usageCall, refund_subs]
    rcases hgive : refunding st reqId r with - | given
    · simp only [usageEffect, hgive]
      exact rowMove_self _ _
    obtain ⟨record, subs⟩ := given
    obtain ⟨-, hpos, hpost⟩ := refunding_some hgive
    simp only [usageEffect, hgive]
    have hfits : NoOverflow st (.refund reqId r) →
        ∀ s ∈ st.subs.find record.userSubscriptionId, s.Stored →
          s.amountUsed + -record.preConsumed < 2 ^ 63 := by
      intro _ s _ hs
      have hused := hs.2
      omega
    refine rel_imp (postConsume_rowMove hpost reqId hfits) fun s s' _ hmove => ?_
    have hne : -record.preConsumed ≠ 0 := by omega
    simpa [hne] using hmove
  | settle reqId subId delta ok =>
    cases hcall : Machine.postConsumeUserSubscriptionDelta st.subs subId delta.toInt ok
      with
    | error e =>
      simp only [usageStep, usageCall, usageEffect, hcall]
      exact rowMove_self _ _
    | ok subs =>
      simp only [usageStep, usageCall, usageEffect, hcall]
      have hfits : NoOverflow st (.settle reqId subId delta ok) →
          ∀ s ∈ st.subs.find subId, s.Stored → s.amountUsed + delta.toInt < 2 ^ 63 :=
        fun h s hs _ => h s hs
      refine rel_imp (postConsume_rowMove hcall reqId hfits) fun s s' _ hmove => ?_
      have hzero : delta.toInt ≠ 0 ↔ delta ≠ 0 := by
        rw [ne_eq, ne_eq, ← Int64.toInt_inj, Int64.toInt_zero]
      simpa only [hzero] using hmove
  | resetDue subId now plan ok =>
    have hstep : (usageStep st (.resetDue subId now plan ok)).subs =
        (Machine.resetLocked st.subs subId
          (fun sub => Passed now sub.nextResetTime)
          (maybeResetUserSubscriptionWithPlanTx plan ok now)).toOption.getD st.subs := by
      simp only [usageStep, usageCall]
      split <;> simp_all [Except.toOption]
    rw [hstep]
    refine rel_imp (resetLocked_rowMove True ..) fun s s' hold hmove => ?_
    simpa only [NoOverflow, usageEffect, hold, decide_eq_true_eq, and_assoc] using hmove
  | adminReset subId times ok =>
    have hstep : (usageStep st (.adminReset subId times ok)).subs =
        (Machine.resetLocked st.subs subId (fun _ => true)
          (resetUserSubscriptionTx times ok)).toOption.getD st.subs := by
      simp only [usageStep, usageCall]
      split <;> simp_all [Except.toOption]
    rw [hstep]
    refine rel_imp (resetLocked_rowMove True ..) fun s s' hold hmove => ?_
    simpa [NoOverflow, usageEffect, hold] using hmove

end

/-! ### The bounds -/

structure UserSubscription.WithinTotal (sub : UserSubscription) : Prop where
  stored : sub.Stored
  bounds : 0 < sub.amountTotal → 0 ≤ sub.amountUsed ∧ sub.amountUsed ≤ sub.amountTotal

theorem ResetDecision.withinTotal {d : ResetDecision} {sub' : UserSubscription}
    (h : d.apply sub = .ok sub') (hsub : sub.WithinTotal) : sub'.WithinTotal := by
  obtain ⟨-, -, htotal, hused⟩ := ResetDecision.apply_spec h
  obtain ⟨⟨hlt, hlt'⟩, hbounds⟩ := hsub
  refine ⟨⟨by omega, ?_⟩, fun hpos => ?_⟩
  · split_ifs at hused <;> omega
  · have := hbounds (by omega)
    split_ifs at hused <;> omega

theorem Machine.lacks_iff (hsub : sub.WithinTotal) :
    Machine.Lacks sub amount ↔ sub.Lacks amount := by
  refine and_congr_right fun htotal => ?_
  obtain ⟨hlow, hhigh⟩ := hsub.bounds htotal
  have hlt := hsub.stored.1
  rw [Int64.wrap_of_mem (by omega) (by omega)]

def UserSubscription.InBounds (sub : UserSubscription) : Prop :=
  0 ≤ sub.amountUsed ∧ (0 < sub.amountTotal → sub.amountUsed ≤ sub.amountTotal)

/-- The call would take the usage of a row beyond its total: the settlement of a row, or the
pre-consume of a new request for which every candidate is too small, its reset included. -/
def WouldExceed (st : SubscriptionStore) : UsageCall → Prop
  | .preConsume reqId userId amount r => st.records.find reqId = none ∧
      ∀ c ∈ activeSubscriptions st.subs userId r.now, ∀ sub, (r.reset c).apply c = .ok sub →
        0 < sub.amountTotal ∧ sub.amountTotal < sub.amountUsed + amount.toInt
  | .settle _ subId delta _ => ∃ sub ∈ st.subs.find subId,
      0 < sub.amountTotal ∧ sub.amountTotal < sub.amountUsed + delta.toInt
  | .refund _ _ | .resetDue _ _ _ _ | .adminReset _ _ _ => False

section

variable {fits : Prop} {sub sub' : UserSubscription} {effect : UsageEffect}

theorem wrap_charge (hsub : sub.WithinTotal) (hroom : ¬ Machine.Lacks sub amount)
    (hpos : 0 < amount) (htotal : 0 < sub.amountTotal) :
    Int64.wrap (sub.amountUsed + amount) = sub.amountUsed + amount ∧
      sub.amountUsed + amount ≤ sub.amountTotal := by
  rw [Machine.lacks_iff hsub, UserSubscription.Lacks] at hroom
  obtain ⟨hlow, hhigh⟩ := hsub.bounds htotal
  have hlt := hsub.stored.1
  exact ⟨Int64.wrap_of_mem (by omega) (by omega), by omega⟩

theorem RowMove.withinTotal (h : RowMove fits sub effect sub') (hsub : sub.WithinTotal) :
    sub'.WithinTotal := by
  cases h with
  | turned hreset => exact ResetDecision.withinTotal hreset hsub
  | @charged d sub' reqId amount hreset hroom hpos hamount hfits =>
    have hreset' := ResetDecision.withinTotal hreset hsub
    refine ⟨⟨hreset'.stored.1, (Int64.wrap_mem _).2⟩, fun htotal => ?_⟩
    obtain ⟨hwrap, hle⟩ := wrap_charge hreset' hroom hpos htotal
    have hlow := (hreset'.bounds htotal).1
    simp only [hwrap]
    exact ⟨by omega, hle⟩
  | @moved reqId delta hle hfits =>
    have hhigh := (Int64.wrap_mem (sub.amountUsed + delta)).2
    exact ⟨⟨hsub.stored.1, max_lt hhigh (by decide)⟩, fun htotal => ⟨le_max_right _ _, hle htotal⟩⟩

theorem RowMove.inBounds (h : RowMove fits sub effect sub') (hfits : fits) (hsub : sub.WithinTotal)
    (hused : 0 ≤ sub.amountUsed) : sub'.InBounds := by
  refine ⟨?_, fun htotal => ((h.withinTotal hsub).bounds htotal).2⟩
  cases h with
  | turned hreset =>
    obtain ⟨-, -, -, hused'⟩ := ResetDecision.apply_spec hreset
    split_ifs at hused' <;> omega
  | @charged d sub' reqId amount hreset hroom hpos hamount hroom' =>
    obtain ⟨-, -, htotal', hused'⟩ := ResetDecision.apply_spec hreset
    by_cases htotal : 0 < sub'.amountTotal
    · obtain ⟨hwrap, -⟩ := wrap_charge (ResetDecision.withinTotal hreset hsub) hroom hpos htotal
      simp only [hwrap]
      omega
    -- a row without a total is not tested, so only the condition keeps the sum in range
    have hsum := hroom' hfits (by omega)
    have hlt : sub'.amountUsed + amount < 2 ^ 63 := by split_ifs at hused' <;> omega
    simp only [Int64.wrap_of_mem (by omega) hlt]
    omega
  | moved hle hroom' => exact le_max_right _ _

end

variable {st : SubscriptionStore}

theorem usageStep_rows {P Q : UserSubscription → Prop} {call : UsageCall}
    (hrows : ∀ sub ∈ st.subs.rows, P sub)
    (hmove : ∀ sub id sub', P sub →
      RowMove (NoOverflow st call) sub (usageEffect st id call) sub' → Q sub') :
    ∀ sub ∈ (usageStep st call).subs.rows, Q sub := by
  intro sub' hsub'
  have hrel := usageCall_rowMove st sub'.id call
  rw [find_of_mem hsub'] at hrel
  cases hfind : st.subs.find sub'.id with
  | none =>
    rw [hfind] at hrel
    cases hrel
  | some sub =>
    rw [hfind] at hrel
    cases hrel with
    | some hrow => exact hmove sub _ sub' (hrows sub (mem_of_find hfind).1) hrow

def Kept (st : SubscriptionStore) : Prop :=
  ∀ sub ∈ st.subs.rows, sub.WithinTotal

theorem kept_step (st : SubscriptionStore) (call : UsageCall) (h : Kept st) :
    Kept (usageStep st call) :=
  usageStep_rows h fun _ _ _ hsub hmove => hmove.withinTotal hsub

def InBoundsAll (st : SubscriptionStore) : Prop :=
  ∀ sub ∈ st.subs.rows, sub.WithinTotal ∧ sub.InBounds

theorem inBoundsAll_step (st : SubscriptionStore) (call : UsageCall) (h : InBoundsAll st)
    (hfits : NoOverflow st call) : InBoundsAll (usageStep st call) :=
  usageStep_rows h fun _ _ _ hsub hmove =>
    ⟨hmove.withinTotal hsub.1, hmove.inBounds hfits hsub.1 hsub.2.1⟩

theorem usageCall_of_wouldExceed {call : UsageCall} (hkept : Kept st) (hfits : NoOverflow st call)
    (h : WouldExceed st call) : ∃ e, usageCall st call = (st, some e) := by
  cases call with
  | preConsume reqId userId amount r =>
    obtain ⟨hrecord, hsmall⟩ := h
    cases hcall : Machine.preConsumeUserSubscription st reqId userId amount.toInt r with
    | error e => exact ⟨e, by simp only [usageCall, hcall]⟩
    | ok result =>
      obtain ⟨-, ⟨⟨record, hrecord'⟩, -⟩ | ⟨-, subs, sub, hselect, -⟩⟩ :=
        Machine.preConsume_ok hcall
      · rw [hrecord] at hrecord'
        cases hrecord'
      obtain ⟨-, hsel⟩ := selectSubscription_spec
        (fun c hc => find_of_mem (mem_of_mem_activeSubscriptions hc))
        (nodup_activeSubscriptions st.subs userId r.now) hselect
      obtain ⟨-, hroom, c, hc, -, happly⟩ := hsel sub rfl
      obtain ⟨htotal, hlt⟩ := hsmall c hc sub happly
      have hkept' := ResetDecision.withinTotal happly (hkept c (mem_of_mem_activeSubscriptions hc))
      rw [Machine.lacks_iff hkept', UserSubscription.Lacks] at hroom
      omega
  | settle reqId subId delta ok =>
    obtain ⟨sub, hfind, htotal, hlt⟩ := h
    have hsum : sub.amountUsed + delta.toInt < 2 ^ 63 := hfits sub hfind
    have hbounds := (hkept sub (mem_of_find hfind).1).bounds htotal
    have hwrap : Int64.wrap (sub.amountUsed + delta.toInt) = sub.amountUsed + delta.toInt :=
      Int64.wrap_of_mem (by omega) hsum
    cases hcall : Machine.postConsumeUserSubscriptionDelta st.subs subId delta.toInt ok
      with
    | error e => exact ⟨e, by simp only [usageCall, hcall]⟩
    | ok subs =>
      obtain ⟨hzero, -⟩ | ⟨-, sub', hfind', hle, -⟩ := Machine.postConsume_ok hcall
      · omega
      · obtain rfl := Option.some.inj (hfind.symm.trans hfind')
        omega
  | _ => exact h.elim

/-! ### The range of the callers -/

def RecordsStored (st : SubscriptionStore) : Prop :=
  ∀ record ∈ st.records.rows, record.preConsumed < 2 ^ 63

theorem recordsStored_save {records : Table SubscriptionPreConsumeRecord.requestId}
    {record : SubscriptionPreConsumeRecord} (h : ∀ r ∈ records.rows, r.preConsumed < 2 ^ 63)
    (hfind : records.find reqId = some record) :
    ∀ r ∈ (records.save { record with status := .refunded }).rows, r.preConsumed < 2 ^ 63 := by
  intro r hr
  obtain rfl | ⟨hold, -⟩ := mem_save hr
  · exact h record (mem_of_find hfind).1
  · exact h r hold

theorem recordsStored_step (st : SubscriptionStore) (call : UsageCall) (h : RecordsStored st) :
    RecordsStored (usageStep st call) := by
  cases call with
  | preConsume reqId userId amount r =>
    unfold usageStep usageCall
    dsimp only
    split
    next st' hcall =>
      obtain ⟨-, ⟨-, rfl⟩ | ⟨hnone, subs, sub, -, ⟨-, rfl⟩ | ⟨-, -, rfl⟩⟩⟩ :=
        Machine.preConsume_ok hcall
      · exact h
      · exact h
      · intro record hrecord
        rw [mem_insert (notMem_keys_of_find hnone)] at hrecord
        rcases hrecord with rfl | hold
        · exact amount.toInt_lt
        · exact h record hold
    · exact h
  | refund reqId r =>
    change RecordsStored (Machine.refundSubscriptionPreConsume st reqId r).1
    fun_cases Machine.refundSubscriptionPreConsume st reqId r with
    | case5 _ _ record hrecord => exact recordsStored_save h hrecord
    | case8 _ _ record hrecord => exact recordsStored_save h hrecord
    | _ => exact h
  | settle | resetDue | adminReset =>
    unfold usageStep usageCall
    dsimp only
    split <;> exact h

/-- What a call within the range can add to a usage, or take from it. -/
theorem usageEffect_change {call : UsageCall} (id : Int) (hrecords : RecordsStored st)
    (hcall : call.InQuotaRange) :
    ∀ c ∈ (usageEffect st id call).change, -2 ^ 63 ≤ c.2 ∧ c.2 ≤ 2 ^ 32 := by
  intro c hc
  cases call with
  | preConsume reqId userId amount r =>
    have hamount : amount.toInt ≤ 2 ^ 32 := hcall.trans (by decide)
    simp only [usageEffect] at hc
    split at hc
    · split_ifs at hc
      · cases hc
        exact ⟨amount.le_toInt, hamount⟩
      · cases hc
    · cases hc
  | refund reqId r =>
    simp only [usageEffect] at hc
    split at hc
    next record subs hrefund =>
      obtain ⟨hrecord, hpos, -⟩ := refunding_some hrefund
      have hlt := hrecords record (mem_of_find hrecord).1
      split_ifs at hc
      · cases hc
        dsimp only
        omega
      · cases hc
    · cases hc
  | settle reqId id delta ok =>
    have hdelta : delta.toInt ≤ 2 ^ 32 := hcall.trans (by decide)
    simp only [usageEffect] at hc
    split at hc
    · split_ifs at hc
      · cases hc
        exact ⟨delta.le_toInt, hdelta⟩
      · cases hc
    · cases hc
  | resetDue | adminReset =>
    simp only [usageEffect] at hc
    split at hc <;> cases hc

theorem RowMove.used_le {fits : Prop} {sub' : UserSubscription} {effect : UsageEffect}
    (h : RowMove fits sub effect sub')
    (hchange : ∀ c ∈ effect.change, -2 ^ 63 ≤ c.2 ∧ c.2 ≤ 2 ^ 32) (hused : 0 ≤ sub.amountUsed)
    (hroom : sub.amountUsed + 2 ^ 32 < 2 ^ 63) : sub'.amountUsed ≤ sub.amountUsed + 2 ^ 32 := by
  cases h with
  | turned hreset =>
    obtain ⟨-, -, -, hused'⟩ := ResetDecision.apply_spec hreset
    split_ifs at hused' <;> omega
  | @charged d sub' reqId amount hreset hroom' hpos =>
    obtain ⟨-, -, -, hused'⟩ := ResetDecision.apply_spec hreset
    have hle := (hchange _ rfl).2
    have hsum : 0 ≤ sub'.amountUsed ∧ sub'.amountUsed ≤ sub.amountUsed := by
      split_ifs at hused' <;> omega
    simp only [Int64.wrap_of_mem (n := sub'.amountUsed + amount) (by omega) (by omega)]
    omega
  | @moved reqId delta =>
    obtain ⟨hlow, hhigh⟩ := hchange _ rfl
    simp only [Int64.wrap_of_mem (n := sub.amountUsed + delta) (by omega) (by omega)]
    omega

/-- **Nothing overflows within the range of the callers**, as long as the run is shorter than the
64-bit range is wide. -/
theorem noOverflow_of_inQuotaRange {calls : List UsageCall} (hst : InBoundsAll st)
    (hrecords : RecordsStored st) (hcalls : ∀ call ∈ calls, call.InQuotaRange)
    (hroom : ∀ sub ∈ st.subs.rows, sub.amountUsed + calls.length * 2 ^ 32 < 2 ^ 63) :
    Along usageStep NoOverflow st calls := by
  induction calls generalizing st with
  | nil => trivial
  | cons call calls ih =>
    obtain ⟨hcall, hrest⟩ := forall_mem_cons.mp hcalls
    simp only [length_cons, Nat.cast_add, Nat.cast_one] at hroom
    have hfits : NoOverflow st call := by
      cases call with
      | preConsume reqId userId amount r =>
        intro sub hsub _ _
        have := hroom sub hsub
        simp only [UsageCall.InQuotaRange, maxQuota] at hcall
        omega
      | settle reqId id delta ok =>
        intro sub hsub
        have := hroom sub (mem_of_find hsub).1
        simp only [UsageCall.InQuotaRange, maxQuota, minQuota] at hcall
        omega
      | refund | resetDue | adminReset => trivial
    refine ⟨hfits, ih (inBoundsAll_step st call hst hfits) (recordsStored_step st call hrecords)
      hrest (usageStep_rows (fun sub hsub => And.intro (hst sub hsub).2.1 (hroom sub hsub)) ?_)⟩
    rintro sub id sub' ⟨hused, hlt⟩ hmove
    have hle := hmove.used_le (usageEffect_change id hrecords hcall) hused (by omega)
    omega

/-- **The usage stays within the total.** In every run, from rows within their bounds, the usage of
a row with a total stays between `0` and the total. If in addition no sum of the run overflows, no
usage is ever negative, and every call that would take a usage beyond the total returns an error and
changes nothing. With the amounts that the callers pass no sum overflows. -/
theorem subscription_usage_bounded
    (hstart : ∀ sub ∈ st.subs.rows, sub.Stored ∧ sub.InBounds) (calls : List UsageCall) :
    (∀ sub ∈ (run usageStep st calls).subs.rows, 0 < sub.amountTotal →
      0 ≤ sub.amountUsed ∧ sub.amountUsed ≤ sub.amountTotal) ∧
    (Along usageStep NoOverflow st calls →
      (∀ sub ∈ (run usageStep st calls).subs.rows, sub.InBounds) ∧
      Along usageStep (fun st call => WouldExceed st call →
        ∃ e, usageCall st call = (st, some e)) st calls) ∧
    (RecordsStored st → (∀ call ∈ calls, call.InQuotaRange) →
      (∀ sub ∈ st.subs.rows, sub.amountUsed + calls.length * 2 ^ 32 < 2 ^ 63) →
      Along usageStep NoOverflow st calls) := by
  have hkept : Kept st := fun sub hsub =>
    ⟨(hstart sub hsub).1, fun htotal => ⟨(hstart sub hsub).2.1, (hstart sub hsub).2.2 htotal⟩⟩
  have hrun : Kept (run usageStep st calls) :=
    run_induction (fun st call h _ => kept_step st call h) hkept
      (along_of_forall (fun _ _ => trivial) st calls)
  have hbounds : InBoundsAll st := fun sub hsub => ⟨hkept sub hsub, (hstart sub hsub).2⟩
  refine ⟨fun sub hsub => (hrun sub hsub).bounds, fun hfits => ⟨?_, ?_⟩,
    noOverflow_of_inQuotaRange hbounds⟩
  · have hbounds : InBoundsAll (run usageStep st calls) :=
      run_induction inBoundsAll_step hbounds hfits
    exact fun sub hsub => (hbounds sub hsub).2
  · exact along_of_invariant (fun st call h _ => kept_step st call h)
      (fun st call h hnow => usageCall_of_wouldExceed h hnow) hkept hfits

def sampleUsage : SubscriptionStore where
  subs := ⟨[⟨1, 1, 100, 1, 10, .active, 0, 0, false⟩, ⟨2, 2, 0, 1, 10, .active, 0, 0, false⟩],
    by decide⟩
  records := ⟨[], by decide⟩

def sampleReplies : PreConsumeReplies :=
  ⟨5, true, true, true, fun _ => .keep, .ok, true⟩

def sampleCalls : List UsageCall :=
  [.preConsume "a" 1 60 sampleReplies, .preConsume "b" 1 60 sampleReplies, .settle "a" 1 50 true]

theorem subscription_usage_bounded_sampleCalls :
    (∀ sub ∈ (run usageStep sampleUsage sampleCalls).subs.rows, sub.InBounds) ∧
    Along usageStep (fun st call => WouldExceed st call →
      ∃ e, usageCall st call = (st, some e)) sampleUsage sampleCalls := by
  have hstart : ∀ sub ∈ sampleUsage.subs.rows, sub.Stored ∧ sub.InBounds := by
    simp [sampleUsage, UserSubscription.Stored, UserSubscription.InBounds]
  obtain ⟨-, hbounds, hfits⟩ := subscription_usage_bounded hstart sampleCalls
  refine hbounds (hfits (by simp [RecordsStored, sampleUsage]) ?_ (by decide +kernel))
  simp only [sampleCalls, forall_mem_cons, UsageCall.InQuotaRange]
  exact ⟨by decide, by decide, by decide, forall_mem_nil _⟩

end NewApi.Model
