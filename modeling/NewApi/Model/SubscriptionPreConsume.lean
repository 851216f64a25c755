import NewApi.Foundation.Locks
import NewApi.Foundation.Pool
import NewApi.Model.SubscriptionUsage

/-!
# Concurrent pre-consumes of one request

Several calls of `PreConsumeUserSubscription` with one request id run at the same time. Each is a
transaction: it looks for the record of the request, locks the active subscriptions of the user,
selects one that has room, and inserts the record. The request id is unique, so only one insert
succeeds. A call whose insert meets a record answers with the amount of the record, but with the
subscription that it has selected itself.

A step takes one call to its next point. What a call reads after its lock it has locked.

Source: `model/subscription.go`.
-/

namespace NewApi.Model

open StepSystem List Table

/-! ### The calls -/

/-- What a call reads from its surroundings: the clock, whether its statements succeed, and the
reset decision for each candidate. `create` is about an insert that meets no record, and `findDup`
about the read of the record after an insert has met one. -/
structure PreConsumeCall where
  now : Int
  findRecord : Bool
  findSub : Bool
  list : Bool
  reset : UserSubscription → ResetDecision
  create : Bool
  findDup : Bool
  save : Bool
  commit : Bool

/-- How far a call is: not begun; it has found no record; it holds the locks of its candidates; it
has returned. -/
inductive PreConsumeThread
  | ready (call : PreConsumeCall)
  | checked (call : PreConsumeCall)
  | locked (call : PreConsumeCall) (candidates : List UserSubscription)
  | done (result : Except SubscriptionError SubscriptionPreConsumeResult)

def PreConsumeThread.holds : PreConsumeThread → List Int
  | .ready _ | .checked _ | .done _ => []
  | .locked _ candidates => candidates.map UserSubscription.id

/-- The committed tables, the calls, and the subscription of each charge. The program does not keep
the last. -/
structure PreConsumeState where
  store : SubscriptionStore
  pool : List PreConsumeThread
  charged : List Int

section

variable (reqId : String) (userId amount : Int)

/-- The checks of the arguments and the look for the record. -/
def beginPreConsume (st : SubscriptionStore) (call : PreConsumeCall) : PreConsumeThread :=
  if userId ≤ 0 then .done (.error .invalidUserId)
  else if GoText.isBlank reqId then .done (.error .requestIdEmpty)
  else if amount ≤ 0 then .done (.error .amountNotPositive)
  else if !call.findRecord then .done (.error .database)
  else match st.records.find reqId with
    | none => .checked call
    | some existing =>
      if existing.status = .refunded then .done (.error .alreadyRefunded)
      else if !call.findSub then .done (.error .database)
      else match st.subs.find existing.userSubscriptionId with
        | none => .done (.error .recordNotFound)
        | some sub =>
          if !call.commit then .done (.error .database)
          else .done (.ok ⟨sub.id, existing.preConsumed, sub.amountTotal, sub.amountUsed,
            sub.amountUsed⟩)

namespace PreConsumeState

def move (s : PreConsumeState) (k : ℕ) (t : PreConsumeThread) : PreConsumeState :=
  { s with pool := s.pool.set k t }

def Free (s : PreConsumeState) (id : Int) : Prop := Locks.Free PreConsumeThread.holds s.pool id
  deriving Decidable

/-- The locked read of the candidates. A call waits until all of them are free. -/
def lockCandidates (s : PreConsumeState) (k : ℕ) (call : PreConsumeCall) : PreConsumeState :=
  let candidates := activeSubscriptions s.store.subs userId call.now
  if !call.list || candidates.isEmpty then s.move k (.done (.error .noActiveSubscription))
  else if ∀ c ∈ candidates, s.Free c.id then s.move k (.locked call candidates)
  else s

/-- The selection, the insert of the record, the charge and the commit. -/
def finishPreConsume (s : PreConsumeState) (k : ℕ) (call : PreConsumeCall)
    (candidates : List UserSubscription) : PreConsumeState :=
  match Machine.selectSubscription call.reset amount s.store.subs candidates with
  | .error e => s.move k (.done (.error e))
  | .ok (_, none) => s.move k (.done (.error (.quotaInsufficient amount)))
  | .ok (subs, some sub) =>
    match s.store.records.find reqId with
    | some dup =>
      if !call.findDup then s.move k (.done (.error .database))
      else if dup.status = .refunded then s.move k (.done (.error .alreadyRefunded))
      else if !call.commit then s.move k (.done (.error .database))
      else
        { s.move k (.done (.ok ⟨sub.id, dup.preConsumed, sub.amountTotal, sub.amountUsed,
            sub.amountUsed⟩)) with store := { s.store with subs := subs } }
    | none =>
      let usedAfter := Int64.wrap (sub.amountUsed + amount)
      if !call.create || !call.save || !call.commit then s.move k (.done (.error .database))
      else
        { s.move k (.done (.ok ⟨sub.id, amount, sub.amountTotal, sub.amountUsed, usedAfter⟩)) with
          store := ⟨subs.save { sub with amountUsed := usedAfter },
            s.store.records.insert ⟨reqId, userId, sub.id, amount, .consumed⟩⟩
          charged := s.charged ++ [sub.id] }

end PreConsumeState

def preConsumeStep (s : PreConsumeState) (k : ℕ) : PreConsumeState :=
  match s.pool[k]? with
  | some (.ready call) => s.move k (beginPreConsume reqId userId amount s.store call)
  | some (.checked call) => s.lockCandidates userId k call
  | some (.locked call candidates) => s.finishPreConsume reqId userId amount k call candidates
  | _ => s

end

/-! ### What a step can do -/

section

variable {reqId : String} {userId amount : Int} {s : PreConsumeState} {k : ℕ}

structure Selects (amount : Int) (s : PreConsumeState) (k : ℕ) (call : PreConsumeCall)
    (candidates : List UserSubscription) (subs : SubTable)
    (sub : UserSubscription) : Prop where
  thread : s.pool[k]? = some (.locked call candidates)
  selected : Machine.selectSubscription call.reset amount s.store.subs candidates =
    .ok (subs, some sub)

/-- What a step of call `k` can do: nothing; find no record; lock the candidates; fail; answer from
the record; meet the record at the insert; insert it and charge. -/
inductive PreConsumeMove (reqId : String) (userId amount : Int) (s : PreConsumeState) (k : ℕ) :
    PreConsumeState → Prop
  | stay : PreConsumeMove reqId userId amount s k s
  | check {call : PreConsumeCall} : s.pool[k]? = some (.ready call) →
      PreConsumeMove reqId userId amount s k (s.move k (.checked call))
  | lock {call : PreConsumeCall} : s.pool[k]? = some (.checked call) →
      (∀ c ∈ activeSubscriptions s.store.subs userId call.now, s.Free c.id) →
      PreConsumeMove reqId userId amount s k
        (s.move k (.locked call (activeSubscriptions s.store.subs userId call.now)))
  | fail {t : PreConsumeThread} {e : SubscriptionError} : s.pool[k]? = some t →
      (∀ result, t ≠ .done result) →
      PreConsumeMove reqId userId amount s k (s.move k (.done (.error e)))
  | answer {call : PreConsumeCall} {record : SubscriptionPreConsumeRecord}
      {sub : UserSubscription} : s.pool[k]? = some (.ready call) →
      s.store.records.find reqId = some record → record.status ≠ .refunded →
      s.store.subs.find record.userSubscriptionId = some sub →
      PreConsumeMove reqId userId amount s k
        (s.move k (.done (.ok ⟨sub.id, record.preConsumed, sub.amountTotal, sub.amountUsed,
          sub.amountUsed⟩)))
  | duplicate {call : PreConsumeCall} {candidates : List UserSubscription}
      {subs : SubTable} {sub : UserSubscription}
      {record : SubscriptionPreConsumeRecord} : Selects amount s k call candidates subs sub →
      s.store.records.find reqId = some record → record.status ≠ .refunded →
      call.findDup = true → call.commit = true →
      PreConsumeMove reqId userId amount s k
        { s.move k (.done (.ok ⟨sub.id, record.preConsumed, sub.amountTotal, sub.amountUsed,
            sub.amountUsed⟩)) with store := { s.store with subs := subs } }
  | charge {call : PreConsumeCall} {candidates : List UserSubscription}
      {subs : SubTable} {sub : UserSubscription} :
      Selects amount s k call candidates subs sub → s.store.records.find reqId = none →
      PreConsumeMove reqId userId amount s k
        { s.move k (.done (.ok ⟨sub.id, amount, sub.amountTotal, sub.amountUsed,
            Int64.wrap (sub.amountUsed + amount)⟩)) with
          store :=
            ⟨subs.save { sub with amountUsed := Int64.wrap (sub.amountUsed + amount) },
              s.store.records.insert ⟨reqId, userId, sub.id, amount, .consumed⟩⟩
          charged := s.charged ++ [sub.id] }

variable {call : PreConsumeCall} {candidates : List UserSubscription}
  {result : Except SubscriptionError SubscriptionPreConsumeResult} {sub : UserSubscription}
  {subs : SubTable}

theorem beginPreConsume_move (hk : s.pool[k]? = some (.ready call)) :
    PreConsumeMove reqId userId amount s k
      (s.move k (beginPreConsume reqId userId amount s.store call)) := by
  fun_cases beginPreConsume reqId userId amount s.store call with
  | case5 => exact .check hk
  | case10 _ _ _ _ record hrecord hstatus _ sub hsub => exact .answer hk hrecord hstatus hsub
  | _ => exact .fail hk fun result h => by cases h

theorem lockCandidates_move (hk : s.pool[k]? = some (.checked call)) :
    PreConsumeMove reqId userId amount s k (s.lockCandidates userId k call) := by
  rw [PreConsumeState.lockCandidates]
  split
  · exact .fail hk fun result h => by cases h
  split
  next hfree => exact .lock hk hfree
  · exact .stay

theorem finishPreConsume_move (hk : s.pool[k]? = some (.locked call candidates)) :
    PreConsumeMove reqId userId amount s k
      (s.finishPreConsume reqId userId amount k call candidates) := by
  fun_cases PreConsumeState.finishPreConsume reqId userId amount s k call candidates with
  | case6 subs sub hselect record hrecord hdup hstatus hcommit =>
    exact .duplicate ⟨hk, hselect⟩ hrecord hstatus (by simpa using hdup) (by simpa using hcommit)
  | case8 subs sub hselect hrecord => exact .charge ⟨hk, hselect⟩ hrecord
  | _ => exact .fail hk fun result h => by cases h

theorem preConsumeStep_move (reqId : String) (userId amount : Int) (s : PreConsumeState)
    (k : ℕ) : PreConsumeMove reqId userId amount s k
      (preConsumeStep reqId userId amount s k) := by
  rw [preConsumeStep]
  split
  next call hk => exact beginPreConsume_move hk
  next call hk => exact lockCandidates_move hk
  next call candidates hk => exact finishPreConsume_move hk
  · exact .stay

end

/-! ### Rows and records -/

section

variable {reqId : String} {userId amount : Int} {s s' : PreConsumeState} {k : ℕ}
  {record : SubscriptionPreConsumeRecord}

section

variable (hmove : PreConsumeMove reqId userId amount s k s')
include hmove

theorem PreConsumeMove.keepsRecord (hrecord : s.store.records.find reqId = some record) :
    s'.store.records.find reqId = some record := by
  cases hmove with
  | charge _ hnone =>
    rw [hnone] at hrecord
    cases hrecord
  | _ => exact hrecord

theorem PreConsumeMove.keepsDone {j : ℕ}
    (hdone : s.pool[j]? = some (.done result)) : s'.pool[j]? = some (.done result) := by
  have hmoved : ∀ {t t' : PreConsumeThread}, s.pool[k]? = some t → (∀ r, t ≠ .done r) →
      (s.pool.set k t')[j]? = some (.done result) := by
    intro t t' hk hnot
    have hne : k ≠ j := by
      rintro rfl
      rw [hk] at hdone
      exact hnot result (Option.some.inj hdone)
    rw [getElem?_set_ne hne]
    exact hdone
  cases hmove with
  | stay => exact hdone
  | check hk | lock hk _ | answer hk _ _ _ => exact hmoved hk fun r h => by cases h
  | fail hk hnot => exact hmoved hk hnot
  | duplicate hselects _ _ _ _ | charge hselects _ =>
    exact hmoved hselects.thread fun r h => by cases h

theorem PreConsumeMove.charges : s'.charged.length + (s.store.records.find reqId).isSome.toNat =
      s.charged.length + (s'.store.records.find reqId).isSome.toNat := by
  cases hmove with
  | @charge _ _ _ sub _ hnone =>
    have hinsert : (s.store.records.insert ⟨reqId, userId, sub.id, amount, .consumed⟩).find
        reqId = some ⟨reqId, userId, sub.id, amount, .consumed⟩ := find_insert hnone
    simp [hnone, hinsert]
  | _ => rfl

end

structure LocksHold (s : PreConsumeState) : Prop where
  exclusive : Locks.Exclusive PreConsumeThread.holds s.pool
  stored : ∀ (j : ℕ) call candidates, s.pool[j]? = some (.locked call candidates) →
    (∀ c ∈ candidates, s.store.subs.find c.id = some c) ∧
      (candidates.map UserSubscription.id).Nodup

theorem LocksHold.selects (hlocks : LocksHold s)
    (hselects : Selects amount s k call candidates subs sub) :
    (∀ id, Option.Rel (Visited call.reset (visitedIds call.reset amount candidates))
        (s.store.subs.find id) (subs.find id)) ∧
      subs.find sub.id = some sub ∧ sub.id ∈ candidates.map UserSubscription.id := by
  obtain ⟨hstored, hnodup⟩ := hlocks.stored k call candidates hselects.thread
  obtain ⟨hrel, hsel⟩ := selectSubscription_spec hstored hnodup hselects.selected
  obtain ⟨hfind, -, c, hc, -, happly⟩ := hsel sub rfl
  refine ⟨hrel, hfind, ?_⟩
  rw [(ResetDecision.apply_spec happly).1]
  exact mem_map_of_mem hc

theorem LocksHold.find_of_notMem (hlocks : LocksHold s)
    (hselects : Selects amount s k call candidates subs sub) {id : Int}
    (hid : id ∉ candidates.map UserSubscription.id) : subs.find id = s.store.subs.find id := by
  have hrel := (hlocks.selects hselects).1 id
  cases hfind : s.store.subs.find id with
  | none =>
    rw [hfind] at hrel
    generalize subs.find id = o at hrel
    cases hrel with
    | none => rfl
  | some row =>
    obtain ⟨-, rfl⟩ := mem_of_find hfind
    rw [hfind] at hrel
    generalize subs.find row.id = o at hrel
    cases hrel with
    | some hvisited =>
      rw [Visited, if_neg fun hmem => hid (mem_of_mem_visitedIds hmem)] at hvisited
      rw [hvisited]

theorem LocksHold.returned (hlocks : LocksHold s) {store : SubscriptionStore} {charged : List Int}
    (hk : s.pool[k]? = some (.locked call candidates))
    (hothers : ∀ id, id ∉ candidates.map UserSubscription.id →
      store.subs.find id = s.store.subs.find id)
    (result : Except SubscriptionError SubscriptionPreConsumeResult) :
    LocksHold ⟨store, s.pool.set k (.done result), charged⟩ where
  exclusive := hlocks.exclusive.set hk fun _ hr => absurd hr not_mem_nil
  stored := by
    intro j call' candidates' hj
    have hne : k ≠ j := by
      rintro rfl
      rw [List.getElem?_set_self (List.getElem?_eq_some_iff.mp hk).1] at hj
      cases hj
    rw [getElem?_set_ne hne] at hj
    obtain ⟨hstored, hnodup⟩ := hlocks.stored j call' candidates' hj
    refine ⟨fun c hc => ?_, hnodup⟩
    have hnot : c.id ∉ candidates.map UserSubscription.id :=
      hlocks.exclusive.notMem hj hk hne (mem_map_of_mem hc)
    rw [hothers c.id hnot]
    exact hstored c hc

theorem PreConsumeMove.locksHold (hmove : PreConsumeMove reqId userId amount s k s')
    (hlocks : LocksHold s) : LocksHold s' := by
  have hmoved : ∀ {t t' : PreConsumeThread}, s.pool[k]? = some t → t'.holds = [] →
      LocksHold (s.move k t') := by
    intro t t' hk hnone
    refine ⟨hlocks.exclusive.set hk fun r hr => ?_, fun j call candidates hj => ?_⟩
    · rw [hnone] at hr
      exact absurd hr not_mem_nil
    rcases Pool.getElem?_set_cases hj with hj | rfl
    · exact hlocks.stored j call candidates hj
    · have hempty : candidates = [] := map_eq_nil_iff.mp hnone
      subst hempty
      exact ⟨fun c hc => absurd hc not_mem_nil, nodup_nil⟩
  cases hmove with
  | stay => exact hlocks
  | check hk | fail hk _ | answer hk _ _ _ => exact hmoved hk rfl
  | @lock call hk hfree =>
    refine ⟨hlocks.exclusive.set hk fun r hr => .inr ?_, fun j call' candidates hj => ?_⟩
    · obtain ⟨c, hc, rfl⟩ := mem_map.mp hr
      exact hfree c hc
    rcases Pool.getElem?_set_cases hj with hj | heq
    · exact hlocks.stored j call' candidates hj
    · cases heq
      exact ⟨fun c hc => find_of_mem (mem_of_mem_activeSubscriptions hc),
        nodup_activeSubscriptions s.store.subs userId call.now⟩
  | duplicate hselects _ _ _ _ =>
    exact hlocks.returned hselects.thread (fun id hid => hlocks.find_of_notMem hselects hid) _
  | @charge _ _ _ sub hselects _ =>
    refine hlocks.returned hselects.thread (fun id hid => ?_) _
    have hne : id ≠ ({ sub with amountUsed := Int64.wrap (sub.amountUsed + amount) } :
        UserSubscription).id := by
      rintro rfl
      exact hid (hlocks.selects hselects).2.2
    exact (find_save_of_ne hne).trans (hlocks.find_of_notMem hselects hid)

/-- A row after a step: it has had a reset, and the charge if the step charges it. -/
def RowAfter (amount : Int) (charges : Prop) [Decidable charges] (sub sub' : UserSubscription) :
    Prop :=
  ∃ (d : ResetDecision) (mid : UserSubscription), d.apply sub = .ok mid ∧
    sub' = if charges then { mid with amountUsed := Int64.wrap (mid.amountUsed + amount) } else mid

theorem exists_apply_of_visited {reset : UserSubscription → ResetDecision} {ids : List Int}
    {sub' : UserSubscription} (h : Visited reset ids sub sub') :
    ∃ d : ResetDecision, d.apply sub = .ok sub' := by
  rw [Visited] at h
  split at h
  · exact ⟨reset sub, h⟩
  · exact ⟨.keep, congrArg Except.ok h.symm⟩

theorem PreConsumeMove.rows (hmove : PreConsumeMove reqId userId amount s k s')
    (hlocks : LocksHold s) (id : Int) :
    Option.Rel (RowAfter amount (s'.charged = s.charged ++ [id])) (s.store.subs.find id)
      (s'.store.subs.find id) := by
  have hnot : ¬ s.charged = s.charged ++ [id] := by
    intro heq
    have hlength := congrArg length heq
    rw [length_append, length_singleton] at hlength
    omega
  have hsame : Option.Rel (RowAfter amount (s.charged = s.charged ++ [id]))
      (s.store.subs.find id) (s.store.subs.find id) := by
    cases s.store.subs.find id with
    | none => exact .none
    | some row => exact .some ⟨.keep, row, rfl, (if_neg hnot).symm⟩
  cases hmove with
  | duplicate hselects _ _ _ _ =>
    refine rel_imp ((hlocks.selects hselects).1 id) fun sub sub' _ hvisited => ?_
    obtain ⟨d, happly⟩ := exists_apply_of_visited hvisited
    exact ⟨d, sub', happly, (if_neg hnot).symm⟩
  | @charge _ _ subs sub hselects _ =>
    obtain ⟨hrel, hfind, -⟩ := hlocks.selects hselects
    have hcharges : s.charged ++ [sub.id] = s.charged ++ [id] ↔ sub.id = id := by
      rw [append_cancel_left_eq, cons.injEq, and_iff_left rfl]
    by_cases hid : sub.id = id
    · subst hid
      have hrow := hrel sub.id
      rw [hfind] at hrow
      have hcharged : (subs.save { sub with
          amountUsed := Int64.wrap (sub.amountUsed + amount) }).find sub.id =
          some { sub with amountUsed := Int64.wrap (sub.amountUsed + amount) } :=
        find_save_of_find hfind rfl
      simp only [hcharged]
      generalize s.store.subs.find sub.id = old at hrow
      cases hrow with
      | some hvisited =>
        obtain ⟨d, happly⟩ := exists_apply_of_visited hvisited
        exact .some ⟨d, sub, happly, (if_pos rfl).symm⟩
    · have hsame' : (subs.save { sub with
          amountUsed := Int64.wrap (sub.amountUsed + amount) }).find id = subs.find id :=
        find_save_of_ne (Ne.symm hid)
      simp only [hsame']
      refine rel_imp (hrel id) fun sub₀ sub' _ hvisited => ?_
      obtain ⟨d, happly⟩ := exists_apply_of_visited hvisited
      exact ⟨d, sub', happly, (if_neg (hcharges.not.mpr hid)).symm⟩
  | _ => exact hsame

end

/-! ### Runs -/

section

variable (reqId : String) (userId amount : Int)

/-- The first candidate that has room after its due reset. -/
def firstWithRoom (reset : UserSubscription → ResetDecision) :
    List UserSubscription → Option UserSubscription
  | [] => none
  | candidate :: rest =>
    match (reset candidate).apply candidate with
    | .error _ => none
    | .ok sub => if Machine.Lacks sub amount then firstWithRoom reset rest else some sub

/-- The next step of call `k` meets the record, and the first of its candidates with room is another
subscription than that of the record. -/
def Misdirected (s : PreConsumeState) (k : ℕ) : Prop :=
  ∃ call candidates record, s.pool[k]? = some (.locked call candidates) ∧
    s.store.records.find reqId = some record ∧ record.status ≠ .refunded ∧
    call.findDup = true ∧ call.commit = true ∧
    ∃ sub ∈ firstWithRoom amount call.reset candidates, sub.id ≠ record.userSubscriptionId

def ReportsRecord (s : PreConsumeState) (result : SubscriptionPreConsumeResult) : Prop :=
  ∃ record, s.store.records.find reqId = some record ∧
    result.userSubscriptionId = record.userSubscriptionId

def ReportsAmount (s : PreConsumeState) (result : SubscriptionPreConsumeResult) : Prop :=
  ∃ record, s.store.records.find reqId = some record ∧ record.status ≠ .refunded ∧
    result.preConsumed = record.preConsumed

def AllReportAmount (s : PreConsumeState) : Prop :=
  ∀ result, .done (.ok result) ∈ s.pool → ReportsAmount reqId s result

def AllReportRecord (s : PreConsumeState) : Prop :=
  ∀ result, .done (.ok result) ∈ s.pool → ReportsRecord reqId s result

variable {reqId userId amount} {s s' : PreConsumeState} {k : ℕ}

theorem selectSubscription_firstWithRoom {reset : UserSubscription → ResetDecision} :
    (∃ subs', Machine.selectSubscription reset amount subs candidates = .ok (subs', some sub)) ↔
      firstWithRoom amount reset candidates = some sub := by
  induction candidates generalizing subs with
  | nil => simp [Machine.selectSubscription, firstWithRoom]
  | cons c rest ih =>
    rw [firstWithRoom]
    simp only [Machine.selectSubscription]
    cases (reset c).apply c with
    | error e => simp
    | ok sub' =>
      by_cases hlacks : Machine.Lacks sub' amount
      · simp [if_pos hlacks, ih]
      · simp [if_neg hlacks]

theorem PreConsumeMove.returns (hmove : PreConsumeMove reqId userId amount s k s')
    {result : SubscriptionPreConsumeResult} (hresult : .done (.ok result) ∈ s'.pool)
    (hnew : .done (.ok result) ∉ s.pool) :
    ReportsAmount reqId s' result ∧
      (¬ Misdirected reqId amount s k → ReportsRecord reqId s' result) := by
  have hset (t) (h : .done (.ok result) ∈ s.pool.set k t) : .done (.ok result) = t :=
    (mem_or_eq_of_mem_set h).resolve_left hnew
  cases hmove with
  | stay => exact absurd hresult hnew
  | answer _ hrecord hstatus hsub =>
    cases hset _ hresult
    exact ⟨⟨_, hrecord, hstatus, rfl⟩, fun _ => ⟨_, hrecord, (mem_of_find hsub).2⟩⟩
  | @duplicate call candidates subs sub record hselects hrecord hstatus hdup hcommit =>
    cases hset _ hresult
    refine ⟨⟨_, hrecord, hstatus, rfl⟩, fun hdirected => ⟨_, hrecord, ?_⟩⟩
    have hfirst := selectSubscription_firstWithRoom.mp ⟨subs, hselects.selected⟩
    by_contra hne
    exact hdirected ⟨call, candidates, record, hselects.thread, hrecord, hstatus, hdup, hcommit,
      sub, hfirst, hne⟩
  | @charge _ _ _ sub _ hnone =>
    cases hset _ hresult
    have hinsert : (s.store.records.insert ⟨reqId, userId, sub.id, amount, .consumed⟩).find
        reqId = some ⟨reqId, userId, sub.id, amount, .consumed⟩ :=
      find_insert hnone
    exact ⟨⟨_, hinsert, by simp, rfl⟩, fun _ => ⟨_, hinsert, rfl⟩⟩
  | _ => cases hset _ hresult

variable (userId) in
theorem Misdirected.reports (hmis : Misdirected reqId amount s k) : ∃ result record,
      (preConsumeStep reqId userId amount s k).pool[k]? = some (.done (.ok result)) ∧
      s.store.records.find reqId = some record ∧
      result.userSubscriptionId ≠ record.userSubscriptionId := by
  obtain ⟨call, candidates, record, hk, hrecord, hstatus, hdup, hcommit, sub, hsub, hne⟩ := hmis
  obtain ⟨subs, hselect⟩ :
      ∃ subs, Machine.selectSubscription call.reset amount s.store.subs candidates =
        .ok (subs, some sub) := selectSubscription_firstWithRoom.mpr hsub
  have hlt : k < s.pool.length := (List.getElem?_eq_some_iff.mp hk).1
  refine ⟨⟨sub.id, record.preConsumed, sub.amountTotal, sub.amountUsed, sub.amountUsed⟩, record, ?_,
    hrecord, hne⟩
  rw [preConsumeStep, hk]
  simp only [PreConsumeState.finishPreConsume, hselect, hrecord, hdup, hcommit, hstatus]
  exact List.getElem?_set_self hlt

theorem run_keeps {record : SubscriptionPreConsumeRecord} (schedule : List ℕ)
    (hrecord : s.store.records.find reqId = some record) {j : ℕ}
    (hdone : s.pool[j]? = some (.done result)) :
    (run (preConsumeStep reqId userId amount) s schedule).store.records.find reqId =
        some record ∧
      (run (preConsumeStep reqId userId amount) s schedule).pool[j]? = some (.done result) := by
  induction schedule generalizing s with
  | nil => exact ⟨hrecord, hdone⟩
  | cons k schedule ih =>
    have hmove := preConsumeStep_move reqId userId amount s k
    exact ih (hmove.keepsRecord hrecord) (hmove.keepsDone hdone)

def newCalls (store : SubscriptionStore) (calls : List PreConsumeCall) : PreConsumeState where
  store := store
  pool := calls.map .ready
  charged := []

theorem not_done_newCalls {store : SubscriptionStore} {calls : List PreConsumeCall} :
    .done result ∉ (newCalls store calls).pool := by
  intro hmem
  obtain ⟨call, -, heq⟩ := mem_map.mp hmem
  cases heq

theorem locksHold_newCalls (store : SubscriptionStore) (calls : List PreConsumeCall) :
    LocksHold (newCalls store calls) where
  exclusive := by
    intro i j t t' r hi _ hr _
    obtain ⟨call, -, rfl⟩ := mem_map.mp (mem_of_getElem? hi)
    cases hr
  stored := by
    intro j call candidates hj
    obtain ⟨call', -, heq⟩ := mem_map.mp (mem_of_getElem? hj)
    cases heq

variable (reqId userId amount) in
theorem run_charges (s : PreConsumeState) (schedule : List ℕ) :
    (run (preConsumeStep reqId userId amount) s schedule).charged.length +
        (s.store.records.find reqId).isSome.toNat =
      s.charged.length + ((run (preConsumeStep reqId userId amount) s
        schedule).store.records.find reqId).isSome.toNat := by
  induction schedule generalizing s with
  | nil => rfl
  | cons k schedule ih =>
    have hstep := (preConsumeStep_move reqId userId amount s k).charges
    have hrest := ih (preConsumeStep reqId userId amount s k)
    rw [run_cons]
    omega

theorem allReportAmount_step (hreports : AllReportAmount reqId s) :
    AllReportAmount reqId (preConsumeStep reqId userId amount s k) := by
  intro result hresult
  have hmove := preConsumeStep_move reqId userId amount s k
  by_cases hold : .done (.ok result) ∈ s.pool
  · obtain ⟨record, hrecord, hsame⟩ := hreports result hold
    exact ⟨record, hmove.keepsRecord hrecord, hsame⟩
  · exact (hmove.returns hresult hold).1

theorem allReportRecord_step (hreports : AllReportRecord reqId s)
    (hdirected : ¬ Misdirected reqId amount s k) :
    AllReportRecord reqId (preConsumeStep reqId userId amount s k) := by
  intro result hresult
  have hmove := preConsumeStep_move reqId userId amount s k
  by_cases hold : .done (.ok result) ∈ s.pool
  · obtain ⟨record, hrecord, hsame⟩ := hreports result hold
    exact ⟨record, hmove.keepsRecord hrecord, hsame⟩
  · exact (hmove.returns hresult hold).2 hdirected

theorem along_of_allReportRecord {schedule : List ℕ} (hreports : AllReportRecord reqId
      (run (preConsumeStep reqId userId amount) s schedule)) :
    Along (preConsumeStep reqId userId amount)
      (fun s k => ¬ Misdirected reqId amount s k) s schedule := by
  induction schedule generalizing s with
  | nil => trivial
  | cons k schedule ih =>
    refine ⟨fun hmis => ?_, ih hreports⟩
    obtain ⟨result, record, hdone, hrecord, hne⟩ := hmis.reports userId
    have hmove := preConsumeStep_move reqId userId amount s k
    obtain ⟨hkept, hdone'⟩ := run_keeps schedule (hmove.keepsRecord hrecord) hdone
    obtain ⟨record', hrecord', hsame⟩ := hreports result (mem_of_getElem? hdone')
    obtain rfl := Option.some.inj (hkept.symm.trans hrecord')
    exact hne hsame

variable (reqId userId amount) in
/-- **A request is charged once.** Let any number of calls with one request id run in any
interleaving. Each step changes the stored rows by resets and by the charge that it is counted for.
There is one charge if the record of the request was created in the run, and none otherwise. Every
successful call reports the amount of the stored record. All of them report its subscription exactly
if no call is misdirected. -/
theorem preConsume_charges_once (store : SubscriptionStore) (calls : List PreConsumeCall)
    (schedule : List ℕ) :
    let step := preConsumeStep reqId userId amount
    let final := run step (newCalls store calls) schedule
    Along step (fun s k => ∀ id, Option.Rel
        (RowAfter amount ((step s k).charged = s.charged ++ [id])) (s.store.subs.find id)
        ((step s k).store.subs.find id)) (newCalls store calls) schedule ∧
      final.charged.length + (store.records.find reqId).isSome.toNat =
        (final.store.records.find reqId).isSome.toNat ∧
      AllReportAmount reqId final ∧
      (AllReportRecord reqId final ↔
        Along step (fun s k => ¬ Misdirected reqId amount s k) (newCalls store calls)
          schedule) := by
  have hkept : ∀ s k, LocksHold s → True → LocksHold (preConsumeStep reqId userId amount s k) :=
    fun s k hs _ => (preConsumeStep_move reqId userId amount s k).locksHold hs
  have hfree : Along (preConsumeStep reqId userId amount) (fun _ _ => True)
      (newCalls store calls) schedule := along_of_forall (fun _ _ => trivial) _ _
  refine ⟨?_, ?_, ?_, along_of_allReportRecord, fun hdirected => ?_⟩
  · exact along_of_invariant hkept
      (fun s k hs _ id => (preConsumeStep_move reqId userId amount s k).rows hs id)
      (locksHold_newCalls store calls) hfree
  · have hcharges := run_charges reqId userId amount (newCalls store calls) schedule
    simpa [newCalls] using hcharges
  · have hstart : AllReportAmount reqId (newCalls store calls) :=
      fun _ hresult => absurd hresult not_done_newCalls
    exact run_induction (fun _ _ hs _ => allReportAmount_step hs) hstart hfree
  · have hstart : AllReportRecord reqId (newCalls store calls) :=
      fun _ hresult => absurd hresult not_done_newCalls
    exact run_induction (fun _ _ hs hp => allReportRecord_step hs hp) hstart hdirected

end

def sampleSub (id amountTotal endTime : Int) : UserSubscription where
  id := id
  userId := 1
  amountTotal := amountTotal
  amountUsed := 0
  endTime := endTime
  status := .active
  lastResetTime := 0
  nextResetTime := 0
  allowWalletOverflow := false

def samplePreConsume : PreConsumeCall where
  now := 50
  findRecord := true
  findSub := true
  list := true
  reset := fun _ => .keep
  create := true
  findDup := true
  save := true
  commit := true

def PreConsumeThread.reported : PreConsumeThread → Option Int
  | .done (.ok result) => some result.userSubscriptionId
  | _ => none

/-- Both calls find no record. The first one uses up the subscription 1 and stores the record; the
second one meets the record and reports the subscription 2. -/
theorem second_call_misdirected :
    let store : SubscriptionStore := ⟨⟨[sampleSub 1 10 100, sampleSub 2 100 200], by decide⟩,
      ⟨[], by decide⟩⟩
    let final :=
      run (preConsumeStep "request" 1 10) (newCalls store [samplePreConsume, samplePreConsume])
      [0, 1, 0, 0, 1, 1]
    final.charged = [1] ∧
      ((final.store.records.find "request").map fun record => record.userSubscriptionId) = some 1 ∧
      final.pool.map PreConsumeThread.reported = [some 1, some 2] := by
  decide +kernel

end NewApi.Model
