import Mathlib.Data.List.Chain
import NewApi.Foundation.Drain
import NewApi.Model.SubscriptionUsage

/-!
# The pass over the due resets

`runSubscriptionQuotaResetOnce` calls `ResetDueSubscriptions` until a call counts fewer rows than
the batch size. A call selects the rows whose next reset time has passed, and resets them one by
one. It counts a row even if the reset changes nothing, and then the row stays due.

The calendar of the server is a parameter, and so are the plans. The loops have fuel.

Sources: `model/subscription.go` and `service/subscription_reset_task.go`.
-/

namespace NewApi.Model

open List Option Table Bool

/-! ### Reset times -/

inductive ResetPeriod
  | never
  | daily
  | weekly
  | monthly
  | custom
  deriving DecidableEq, Repr

def normalizeResetPeriod (period : String) : ResetPeriod :=
  let trimmed := GoText.trimSpace period
  if trimmed = "daily" then .daily
  else if trimmed = "weekly" then .weekly
  else if trimmed = "monthly" then .monthly
  else if trimmed = "custom" then .custom
  else .never

structure PlanPeriod where
  quotaResetPeriod : String
  quotaResetCustomSeconds : Int

/-- The calendar of the server: the start of the next day, of the next Monday and of the next month
after a time. -/
structure Calendar where
  nextDay : Int → Int
  nextMonday : Int → Int
  nextMonth : Int → Int

/-- The time after a number of seconds. The duration is in nanoseconds and wraps around. -/
def addSeconds (base seconds : Int) : Int := base + Int64.wrap (seconds * 10 ^ 9) / 10 ^ 9

/-- There is no reset after the end of the subscription. -/
def calcNextResetTime (calendar : Calendar) (plan : PlanPeriod) (endUnix base : Int) : Int :=
  let limited (next : Int) : Int := if endUnix > 0 ∧ next > endUnix then 0 else next
  match normalizeResetPeriod plan.quotaResetPeriod with
  | .never => 0
  | .daily => limited (calendar.nextDay base)
  | .weekly => limited (calendar.nextMonday base)
  | .monthly => limited (calendar.nextMonth base)
  | .custom =>
    if plan.quotaResetCustomSeconds ≤ 0 then 0
    else limited (addSeconds base plan.quotaResetCustomSeconds)

structure ResetRow extends UserSubscription where
  planId : Int
  startTime : Int

def ResetRow.key (row : ResetRow) : Int := row.id

structure ResetEnv where
  calendar : Calendar
  plans : Int → Option PlanPeriod
  now : Int

def ResetEnv.getSubscriptionPlanById (env : ResetEnv) (id : Int) : Option PlanPeriod :=
  if id ≤ 0 then none else env.plans id

def ResetEnv.resetPlan (env : ResetEnv) (row : ResetRow) : Option ResetPlan :=
  (env.getSubscriptionPlanById row.planId).map fun plan =>
    { startTime := row.startTime
      never := normalizeResetPeriod plan.quotaResetPeriod = .never
      calcNextResetTime := calcNextResetTime env.calendar plan row.endTime }

/-! ### A batch and the pass -/

def ResetRow.Before (row row' : ResetRow) : Prop :=
  row.nextResetTime < row'.nextResetTime ∨
    row.nextResetTime = row'.nextResetTime ∧ row.id ≤ row'.id
  deriving Decidable

instance : Std.Total ResetRow.Before :=
  ⟨fun row row' => by simp only [ResetRow.Before]; omega⟩

instance : IsTrans ResetRow ResetRow.Before :=
  ⟨fun row row' row'' => by simp only [ResetRow.Before]; omega⟩

def ResetRow.Due (now : Int) (row : ResetRow) : Prop :=
  Passed now row.nextResetTime ∧ row.status = .active
  deriving Decidable

/-- The rows that are due, with the earliest reset time first. -/
def dueSubscriptions (now : Int) (subs : Table ResetRow.key) : List ResetRow :=
  (subs.rows.filter fun row => row.Due now).insertionSort ResetRow.Before

/-- The replies to the statements of a batch: whether the query succeeds, and whether the row with
an id can be saved. -/
structure ResetReplies where
  find : Bool
  save : Int → Bool

structure ResetResult where
  resetCount : ℕ
  failed : Bool
  subs : Table ResetRow.key

section

variable (env : ResetEnv) (fuel : ℕ) (replies : ResetReplies)

/-- The loop over the selected rows. -/
def resetRows : List ResetRow → ℕ → Table ResetRow.key → Option ResetResult
  | [], resetCount, subs => some ⟨resetCount, false, subs⟩
  | sub :: rest, resetCount, subs =>
    match env.resetPlan sub with
    | none => resetRows rest resetCount subs
    | some plan =>
      -- The row is read again under a lock.
      match (subs.find sub.id).filter fun row => Passed env.now row.nextResetTime with
      | none => resetRows rest resetCount subs
      | some locked =>
        match resetDecision fuel plan (replies.save locked.id) env.now
          locked.toUserSubscription with
        | none => none
        | some decision =>
          match decision.apply locked.toUserSubscription with
          | .error _ => some ⟨resetCount, true, subs⟩
          | .ok row =>
            resetRows rest (resetCount + 1) (subs.save { locked with toUserSubscription := row })

/-- `ResetDueSubscriptions` in `model/subscription.go`. -/
def resetDueSubscriptions (limit : ℕ) (subs : Table ResetRow.key) : Option ResetResult :=
  let limit := if limit = 0 then 200 else limit
  if !replies.find then some ⟨0, true, subs⟩
  else resetRows env fuel replies ((dueSubscriptions env.now subs).take limit) 0 subs

end

def subscriptionResetBatchSize : ℕ := 300

/-- The loop over the batches: the rows after each of them, or none if there are more batches or a
loop needs more rounds than allowed. `replies` are those of the batches in turn. -/
def resetPass (env : ResetEnv) (limit fuel : ℕ) :
    ℕ → (ℕ → ResetReplies) → Table ResetRow.key → Option (List (Table ResetRow.key))
  | 0, _, _ => none
  | batches + 1, replies, subs =>
    match resetDueSubscriptions env fuel (replies 0) limit subs with
    | none => none
    | some result =>
      if result.failed then some [result.subs]
      else if result.resetCount = 0 then some [result.subs]
      else if result.resetCount < limit then some [result.subs]
      else (resetPass env limit fuel batches (fun n => replies (n + 1)) result.subs).map
        fun tables => result.subs :: tables

/-! ### The reset of a row -/

section

variable {nextTime : Int → Int} {now base next base' next' : Int} {advanced advanced' : Bool}
  {fuel fuel' k : ℕ}

theorem advanceLoop_some
    (h : advanceLoop nextTime now fuel base next advanced = some (base', next', advanced')) :
    ¬ Passed now next' ∧ (∃ k, ¬ Passed now (nextTime^[k] next)) ∧
      advanced' = (advanced || decide (Passed now next)) := by
  induction fuel generalizing base next advanced with
  | zero => cases h
  | succ fuel ih =>
    rw [advanceLoop] at h
    by_cases hpassed : Passed now next
    · rw [if_pos hpassed] at h
      obtain ⟨hend, ⟨k, hk⟩, hadvanced⟩ := ih h
      refine ⟨hend, ⟨k + 1, hk⟩, ?_⟩
      rw [hadvanced, decide_eq_true hpassed, Bool.true_or, Bool.or_true]
    · rw [if_neg hpassed] at h
      obtain ⟨rfl, rfl, rfl⟩ := h
      refine ⟨hpassed, ⟨0, hpassed⟩, ?_⟩
      rw [decide_eq_false hpassed, Bool.or_false]

theorem exists_advanceLoop (hk : ¬ Passed now (nextTime^[k] next)) (base : Int) (advanced : Bool) :
    ∃ fuel, (advanceLoop nextTime now fuel base next advanced).isSome = true := by
  induction k generalizing base next advanced with
  | zero => exact ⟨1, congrArg isSome (if_neg hk)⟩
  | succ k ih =>
    by_cases hpassed : Passed now next
    · obtain ⟨fuel, hfuel⟩ := ih hk next true
      refine ⟨fuel + 1, ?_⟩
      rw [advanceLoop, if_pos hpassed]
      exact hfuel
    · exact ⟨1, congrArg isSome (if_neg hpassed)⟩

theorem advanceLoop_mono {r : Int × Int × Bool} (hle : fuel ≤ fuel')
    (h : advanceLoop nextTime now fuel base next advanced = some r) :
    advanceLoop nextTime now fuel' base next advanced = some r := by
  induction fuel generalizing fuel' base next advanced with
  | zero => cases h
  | succ fuel ih =>
    obtain ⟨fuel', rfl⟩ := Nat.exists_eq_succ_of_ne_zero (Nat.ne_zero_of_lt hle)
    rw [advanceLoop] at h ⊢
    split_ifs at h ⊢
    · exact ih (Nat.le_of_succ_le_succ hle) h
    · exact h

variable {plan : ResetPlan} {ok : Bool} {sub : UserSubscription} {d : ResetDecision}

theorem resetDecision_mono (hle : fuel ≤ fuel') (h : resetDecision fuel plan ok now sub = some d) :
    resetDecision fuel' plan ok now sub = some d := by
  rw [resetDecision] at h ⊢
  split_ifs at h ⊢
  · exact h
  · exact h
  · obtain ⟨r, hloop, hdecision⟩ := map_eq_some_iff.mp h
    rw [advanceLoop_mono hle hloop, map_some, hdecision]

def Advances (now : Int) (plan : ResetPlan) (sub : UserSubscription) : Prop :=
  plan.never = false ∧ Passed now (plan.calcNextResetTime (resetBase plan sub))
  deriving Decidable

def NeverPasses (now : Int) (plan : ResetPlan) (sub : UserSubscription) : Prop :=
  plan.never = false ∧
    ∀ k, Passed now (plan.calcNextResetTime^[k] (plan.calcNextResetTime (resetBase plan sub)))

theorem resetDecision_some (hdue : Passed now sub.nextResetTime)
    (h : resetDecision fuel plan true now sub = some d) :
    ¬ NeverPasses now plan sub ∧ (d = .keep ∧ ¬ Advances now plan sub ∨
        ∃ base next, d = .advance base next ∧ Advances now plan sub ∧ ¬ Passed now next) := by
  have hnot : ¬ (0 < sub.nextResetTime ∧ now < sub.nextResetTime) :=
    fun hlater => absurd hlater.2 (not_lt.mpr hdue.2)
  rw [resetDecision] at h
  split_ifs at h with hnever
  · refine ⟨fun hpasses => ?_, .inl ⟨(some.inj h).symm, fun hadvances => ?_⟩⟩
    · rw [hpasses.1] at hnever
      cases hnever
    · rw [hadvances.1] at hnever
      cases hnever
  · have hfalse : plan.never = false := eq_false_iff.mpr hnever
    obtain ⟨⟨base, next, advanced⟩, hloop, rfl⟩ := map_eq_some_iff.mp h
    obtain ⟨hend, ⟨k, hk⟩, hadvanced⟩ := advanceLoop_some hloop
    refine ⟨fun hpasses => hk (hpasses.2 k), ?_⟩
    cases advanced with
    | false =>
      refine .inl ⟨if_neg fun hzero => ?_, fun hadvances => ?_⟩
      · rw [hzero.1] at hdue
        exact lt_irrefl _ hdue.1
      · exact of_decide_eq_false hadvanced.symm hadvances.2
    | true => exact .inr ⟨base, next, rfl, ⟨hfalse, of_decide_eq_true hadvanced.symm⟩, hend⟩

theorem exists_resetDecision (ok : Bool) (hends : ¬ NeverPasses now plan sub) :
    ∃ fuel d, resetDecision fuel plan ok now sub = some d := by
  simp only [resetDecision]
  split_ifs with hlater hnever
  · exact ⟨0, .keep, rfl⟩
  · exact ⟨0, .keep, rfl⟩
  have hfalse : plan.never = false := eq_false_iff.mpr hnever
  obtain ⟨k, hk⟩ := not_forall.mp fun hall => hends ⟨hfalse, hall⟩
  obtain ⟨fuel, hfuel⟩ := exists_advanceLoop hk (resetBase plan sub) false
  obtain ⟨r, hr⟩ := isSome_iff_exists.mp hfuel
  exact ⟨fuel, decisionAfter ok sub r, by rw [hr, map_some]⟩

end

/-! ### A batch -/

open ResetRow

section

variable (env : ResetEnv)

def HasPlan (row : ResetRow) : Prop := (env.resetPlan row).isSome = true
  deriving Decidable

def Moves (row : ResetRow) : Prop :=
  ∃ plan ∈ env.resetPlan row, Advances env.now plan row.toUserSubscription
  deriving Decidable

def Hangs (row : ResetRow) : Prop :=
  ∃ plan ∈ env.resetPlan row, NeverPasses env.now plan row.toUserSubscription

variable {env} {fuel fuel' resetCount : ℕ} {rows : List ResetRow} {subs subs' : Table ResetRow.key}
  {result : ResetResult} {row : ResetRow}

structure Selected (now : Int) (subs : Table ResetRow.key) (rows : List ResetRow) : Prop where
  find : ∀ row ∈ rows, subs.find row.id = some row
  passed : ∀ row ∈ rows, Passed now row.nextResetTime
  nodup : (rows.map ResetRow.key).Nodup

def ResetReplies.allOk : ResetReplies := ⟨true, fun _ => true⟩

def DueAfter (env : ResetEnv) (rows : List ResetRow) (subs subs' : Table ResetRow.key) : Prop :=
  ∀ row, row ∈ subs'.rows ∧ row.Due env.now ↔
    (row ∈ subs.rows ∧ row.Due env.now) ∧ ¬ (row ∈ rows ∧ Moves env row)

theorem resetRows_of_noPlan {replies : ResetReplies} (hplan : env.resetPlan row = none) :
    resetRows env fuel replies (row :: rows) resetCount subs =
      resetRows env fuel replies rows resetCount subs := by
  rw [resetRows, hplan]

theorem resetRows_of_plan {plan : ResetPlan} (hsel : Selected env.now subs (row :: rows))
    (hplan : env.resetPlan row = some plan) :
    resetRows env fuel .allOk (row :: rows) resetCount subs =
      match resetDecision fuel plan true env.now row.toUserSubscription with
      | none => none
      | some decision =>
        match decision.apply row.toUserSubscription with
        | .error _ => some ⟨resetCount, true, subs⟩
        | .ok sub => resetRows env fuel .allOk rows (resetCount + 1)
            (subs.save { row with toUserSubscription := sub }) := by
  have hlocked : (subs.find row.id).filter (fun row => Passed env.now row.nextResetTime) =
      some row := by
    rw [hsel.find row mem_cons_self, filter_some,
      if_pos (decide_eq_true (hsel.passed row mem_cons_self))]
  rw [resetRows]
  simp [hplan, hlocked, ResetReplies.allOk]

variable {now : Int}

theorem Selected.tail (hsel : Selected now subs (row :: rows)) : Selected now subs rows where
  find := fun r hr => hsel.find r (mem_cons_of_mem row hr)
  passed := fun r hr => hsel.passed r (mem_cons_of_mem row hr)
  nodup := (nodup_cons.mp hsel.nodup).2

theorem Selected.save {row' : ResetRow} (hsel : Selected now subs (row :: rows))
    (hkey : row'.key = row.key) : Selected now (subs.save row') rows where
  find := by
    intro r hr
    have hne : r.id ≠ row'.key := by
      intro heq
      have hmem : row.key ∈ rows.map key :=
        mem_map.mpr ⟨r, hr, heq.trans hkey⟩
      exact (nodup_cons.mp hsel.nodup).1 hmem
    rw [find_save_of_ne hne]
    exact hsel.find r (mem_cons_of_mem row hr)
  passed := fun r hr => hsel.passed r (mem_cons_of_mem row hr)
  nodup := (nodup_cons.mp hsel.nodup).2

theorem DueAfter.cons_of_not_moves (hafter : DueAfter env rows subs subs')
    (hmoves : ¬ Moves env row) : DueAfter env (row :: rows) subs subs' := by
  intro r
  rw [hafter r, mem_cons]
  refine and_congr_right fun _ => not_congr ⟨fun h => ⟨.inr h.1, h.2⟩, ?_⟩
  rintro ⟨rfl | hr, hmove⟩
  · exact absurd hmove hmoves
  · exact ⟨hr, hmove⟩

theorem DueAfter.cons_of_moves {row' : ResetRow} (hafter : DueAfter env rows (subs.save row') subs')
    (hrow : row ∈ subs.rows) (hkey : row'.key = row.key) (hdue : ¬ row'.Due env.now)
    (hmoves : Moves env row) : DueAfter env (row :: rows) subs subs' := by
  intro r
  rw [hafter r, mem_cons]
  constructor
  · rintro ⟨⟨hmem, hr⟩, hnot⟩
    rcases mem_save hmem with rfl | ⟨hmem, hne⟩
    · exact absurd hr hdue
    refine ⟨⟨hmem, hr⟩, ?_⟩
    rintro ⟨rfl | hlater, hmove⟩
    · exact hne hkey.symm
    · exact hnot ⟨hlater, hmove⟩
  · rintro ⟨⟨hmem, hr⟩, hnot⟩
    have hne : r ≠ row := fun heq => hnot ⟨.inl heq, heq ▸ hmoves⟩
    refine ⟨⟨mem_save_of_ne hmem fun hsame => hne ?_, hr⟩,
      fun hlater => hnot ⟨.inr hlater.1, hlater.2⟩⟩
    exact eq_of_mem hmem hrow (hsame.trans hkey)

structure Processed (env : ResetEnv) (rows : List ResetRow) (resetCount : ℕ)
    (subs : Table ResetRow.key) (result : ResetResult) : Prop where
  ok : result.failed = false
  count : result.resetCount = resetCount + rows.countP fun row => HasPlan env row
  due : DueAfter env rows subs result.subs
  ends : ∀ row ∈ rows, ¬ Hangs env row

theorem resetRows_some (hsel : Selected env.now subs rows)
    (h : resetRows env fuel .allOk rows resetCount subs = some result) :
    Processed env rows resetCount subs result := by
  induction rows generalizing resetCount subs with
  | nil =>
    obtain rfl := some.inj h
    exact ⟨rfl, rfl, fun r => by simp, fun r hr => absurd hr not_mem_nil⟩
  | cons row rows ih =>
    cases hplan : env.resetPlan row with
    | none =>
      rw [resetRows_of_noPlan hplan] at h
      obtain ⟨hok, hcount, hdue, hends⟩ := ih hsel.tail h
      have hnot : ¬ HasPlan env row := by simp [HasPlan, hplan]
      have hmoves : ¬ Moves env row := by simp [Moves, hplan]
      have hhangs : ¬ Hangs env row := by simp [Hangs, hplan]
      refine ⟨hok, ?_, hdue.cons_of_not_moves hmoves, forall_mem_cons.mpr ⟨hhangs, hends⟩⟩
      rw [hcount, countP_cons_of_neg (by simpa using hnot)]
    | some plan =>
      have hcountP : (row :: rows).countP (fun row => HasPlan env row) =
          rows.countP (fun row => HasPlan env row) + 1 :=
        countP_cons_of_pos (by simp [HasPlan, hplan])
      have hmoves : Moves env row ↔ Advances env.now plan row.toUserSubscription := by
        simp [Moves, hplan]
      have hhangs : Hangs env row ↔ NeverPasses env.now plan row.toUserSubscription := by
        simp [Hangs, hplan]
      rw [resetRows_of_plan hsel hplan] at h
      rcases hdecision : resetDecision fuel plan true env.now row.toUserSubscription with - | d
      · rw [hdecision] at h
        cases h
      rw [hdecision] at h
      have hpassed := hsel.passed row mem_cons_self
      have hfind := hsel.find row mem_cons_self
      obtain ⟨hpasses, ⟨rfl, hstays⟩ | ⟨base, next, rfl, hadvances, hnext⟩⟩ :=
        resetDecision_some hpassed hdecision
      · have hsame : subs.save row = subs := save_of_find hfind
        simp only [ResetDecision.apply] at h
        rw [hsame] at h
        obtain ⟨hok, hcount, hdue, hends⟩ := ih hsel.tail h
        refine ⟨hok, ?_, hdue.cons_of_not_moves (hmoves.not.mpr hstays),
          forall_mem_cons.mpr ⟨hhangs.not.mpr hpasses, hends⟩⟩
        omega
      · have hkey : key { row with
            amountUsed := 0, lastResetTime := base, nextResetTime := next } = row.key := rfl
        obtain ⟨hok, hcount, hdue, hends⟩ := ih (hsel.save hkey) h
        refine ⟨hok, ?_, hdue.cons_of_moves (mem_of_find hfind).1 hkey
          (fun hdue' => hnext hdue'.1) (hmoves.mpr hadvances),
          forall_mem_cons.mpr ⟨hhangs.not.mpr hpasses, hends⟩⟩
        omega

theorem resetRows_mono {replies : ResetReplies} (hle : fuel ≤ fuel')
    (h : resetRows env fuel replies rows resetCount subs = some result) :
    resetRows env fuel' replies rows resetCount subs = some result := by
  induction rows generalizing resetCount subs with
  | nil => exact h
  | cons row rows ih =>
    rw [resetRows] at h ⊢
    rcases hplan : env.resetPlan row with - | plan
    · simp only [hplan] at h ⊢
      exact ih h
    simp only [hplan] at h ⊢
    cases hlocked : (subs.find row.id).filter fun row => Passed env.now row.nextResetTime with
    | none =>
      simp only [hlocked] at h ⊢
      exact ih h
    | some locked =>
      simp only [hlocked] at h ⊢
      cases hdecision : resetDecision fuel plan (replies.save locked.id) env.now
          locked.toUserSubscription with
      | none =>
        rw [hdecision] at h
        cases h
      | some d =>
        simp only [hdecision] at h
        simp only [resetDecision_mono hle hdecision]
        cases happly : d.apply locked.toUserSubscription with
        | error e =>
          simp only [happly] at h ⊢
          exact h
        | ok sub =>
          simp only [happly] at h ⊢
          exact ih h

theorem exists_resetRows (hsel : Selected env.now subs rows)
    (hends : ∀ row ∈ rows, ¬ Hangs env row) (resetCount : ℕ) :
    ∃ fuel result, resetRows env fuel .allOk rows resetCount subs = some result := by
  induction rows generalizing resetCount subs with
  | nil => exact ⟨0, _, rfl⟩
  | cons row rows ih =>
    obtain ⟨hrow, hends⟩ := forall_mem_cons.mp hends
    rcases hplan : env.resetPlan row with - | plan
    · obtain ⟨fuel, result, hresult⟩ := ih hsel.tail hends resetCount
      exact ⟨fuel, result, (resetRows_of_noPlan hplan).trans hresult⟩
    have hpasses : ¬ NeverPasses env.now plan row.toUserSubscription := by
      simpa [Hangs, hplan] using hrow
    have hpassed := hsel.passed row mem_cons_self
    obtain ⟨fuel₁, d, hdecision⟩ := exists_resetDecision true hpasses
    obtain ⟨sub, happly, hkey⟩ : ∃ sub, d.apply row.toUserSubscription = .ok sub ∧
        sub.id = row.id := by
      obtain ⟨-, ⟨rfl, -⟩ | ⟨base, next, rfl, -, -⟩⟩ := resetDecision_some hpassed hdecision
      all_goals exact ⟨_, rfl, rfl⟩
    have hkey' : key { row with toUserSubscription := sub } = row.key := hkey
    obtain ⟨fuel₂, result, hresult⟩ := ih (hsel.save hkey') hends (resetCount + 1)
    refine ⟨max fuel₁ fuel₂, result, ?_⟩
    rw [resetRows_of_plan hsel hplan, resetDecision_mono (le_max_left fuel₁ fuel₂) hdecision]
    simp only [happly]
    exact resetRows_mono (le_max_right fuel₁ fuel₂) hresult

theorem mem_dueSubscriptions : row ∈ dueSubscriptions now subs ↔ row ∈ subs.rows ∧ row.Due now := by
  rw [dueSubscriptions, (perm_insertionSort _ _).mem_iff, mem_filter, decide_eq_true_iff]

theorem nodup_dueSubscriptions (now : Int) (subs : Table ResetRow.key) :
    ((dueSubscriptions now subs).map ResetRow.key).Nodup :=
  ((perm_insertionSort _ _).map key).nodup_iff.mpr
    (subs.nodup.sublist (filter_sublist.map key))

theorem selected_take (now : Int) (subs : Table ResetRow.key) (limit : ℕ) :
    Selected now subs ((dueSubscriptions now subs).take limit) where
  find := fun _ hr => find_of_mem (mem_dueSubscriptions.mp (mem_of_mem_take hr)).1
  passed := fun _ hr => (mem_dueSubscriptions.mp (mem_of_mem_take hr)).2.1
  nodup := (nodup_dueSubscriptions now subs).sublist ((take_sublist limit _).map key)

theorem dueSubscriptions_after {limit : ℕ}
    (hafter : DueAfter env ((dueSubscriptions env.now subs).take limit) subs subs') :
    dueSubscriptions env.now subs' =
      Drain.remaining limit (Moves env) (dueSubscriptions env.now subs) := by
  have hnodup := (nodup_dueSubscriptions env.now subs).of_map
  have hsublist : List.Sublist (Drain.remaining limit (Moves env) (dueSubscriptions env.now subs))
      (dueSubscriptions env.now subs) := Drain.remaining_sublist _
  refine List.Perm.eq_of_pairwise ?_ (pairwise_insertionSort _ _)
    ((pairwise_insertionSort ResetRow.Before _).sublist hsublist) ?_
  · intro a b ha hb hab hba
    have hid : a.key = b.key := by
      simp only [ResetRow.Before] at hab hba
      simp only [key]
      omega
    obtain ⟨ha', hdue⟩ := mem_dueSubscriptions.mp ha
    have ha'' := ((hafter a).mp ⟨ha', hdue⟩).1.1
    have hb' := (mem_dueSubscriptions.mp (hsublist.subset hb)).1
    exact eq_of_mem ha'' hb' hid
  · refine (perm_ext_iff_of_nodup (nodup_dueSubscriptions env.now subs').of_map
      (hnodup.sublist hsublist)).mpr fun r => ?_
    rw [mem_dueSubscriptions, hafter r, ← mem_dueSubscriptions, Drain.mem_remaining hnodup]

end

/-! ### The pass -/

section

variable {env : ResetEnv} {limit fuel batches : ℕ} {subs : Table ResetRow.key}
  {result : ResetResult} {tables : List (Table ResetRow.key)}

theorem resetDue_eq (hlimit : 0 < limit) : resetDueSubscriptions env fuel .allOk limit subs =
      resetRows env fuel .allOk ((dueSubscriptions env.now subs).take limit) 0 subs := by
  simp only [resetDueSubscriptions, if_neg (ne_of_gt hlimit)]
  rfl

variable {rows : List ResetRow}

theorem count_lt_of_not_full (hfull : ¬ Drain.Full limit (HasPlan env) rows) :
    (rows.take limit).countP (fun row => HasPlan env row) < limit := by
  have hcount : (rows.take limit).countP (fun row => HasPlan env row) ≤ (rows.take limit).length :=
    countP_le_length
  have hle := length_take_le limit rows
  rcases lt_or_ge rows.length limit with hshort | hlong
  · have hlength := length_take_le' limit rows
    omega
  obtain ⟨row, hrow⟩ := not_forall.mp fun hall => hfull ⟨hlong, hall⟩
  obtain ⟨hmem, hnot⟩ := Classical.not_imp.mp hrow
  refine (lt_of_le_of_ne hcount fun heq => hnot ?_).trans_le hle
  exact of_decide_eq_true (countP_eq_length.mp heq row hmem)

theorem count_of_full (hfull : Drain.Full limit (HasPlan env) rows) :
    (rows.take limit).countP (fun row => HasPlan env row) = limit := by
  rw [countP_eq_length.mpr fun row hrow => decide_eq_true (hfull.2 row hrow),
    length_take_of_le hfull.1]

theorem resetPass_last (hdue : resetDueSubscriptions env fuel .allOk limit subs = some result)
    (hcount : result.resetCount < limit) :
    resetPass env limit fuel (batches + 1) (fun _ => .allOk) subs = some [result.subs] := by
  simp [resetPass, hdue, hcount]

theorem resetPass_batch (hlimit : 0 < limit)
    (hdue : resetDueSubscriptions env fuel .allOk limit subs = some result)
    (hok : result.failed = false) (hcount : result.resetCount = limit) :
    resetPass env limit fuel (batches + 1) (fun _ => .allOk) subs =
      (resetPass env limit fuel batches (fun _ => .allOk) result.subs).map
        fun tables => result.subs :: tables := by
  simp [resetPass, hdue, hok, hcount, ne_of_gt hlimit, false_eq_true]

/-- The pass ends: with enough fuel it makes a number of batches, and each of them but the last one
reduces the number of due rows. -/
def PassEnds (env : ResetEnv) (limit : ℕ) (subs : Table ResetRow.key) : Prop :=
  ∃ tables,
    (∃ fuel₀, ∀ fuel ≥ fuel₀, ∀ batches ≥ tables.length,
      resetPass env limit fuel batches (fun _ => .allOk) subs = some tables) ∧
    ((subs :: tables.dropLast).map fun t => (dueSubscriptions env.now t).length).IsChain (· > ·)

def DueEnds (env : ResetEnv) (limit : ℕ) (rows : List ResetRow) : Prop :=
  Drain.Ends limit (Moves env) (HasPlan env) (Hangs env) rows

theorem exists_batch (hlimit : 0 < limit)
    (hends : ∀ row ∈ (dueSubscriptions env.now subs).take limit, ¬ Hangs env row) :
    ∃ fuel₀ result, (∀ fuel ≥ fuel₀,
        resetDueSubscriptions env fuel .allOk limit subs = some result) ∧
      Processed env ((dueSubscriptions env.now subs).take limit) 0 subs result := by
  have hsel := selected_take env.now subs limit
  obtain ⟨fuel₀, result, hresult⟩ := exists_resetRows hsel hends 0
  refine ⟨fuel₀, result, fun fuel hfuel => ?_, resetRows_some hsel hresult⟩
  rw [resetDue_eq hlimit]
  exact resetRows_mono hfuel hresult

theorem tables_ne_nil {replies : ℕ → ResetReplies}
    (h : resetPass env limit fuel batches replies subs = some tables) : tables ≠ [] := by
  cases batches with
  | zero => cases h
  | succ batches =>
    rw [resetPass] at h
    split at h
    · cases h
    split_ifs at h
    · exact some.inj h ▸ cons_ne_nil _ _
    · exact some.inj h ▸ cons_ne_nil _ _
    · exact some.inj h ▸ cons_ne_nil _ _
    · obtain ⟨rest, -, rfl⟩ := map_eq_some_iff.mp h
      exact cons_ne_nil _ _

section

variable (hlimit : 0 < limit)
include hlimit

theorem passEnds_of_dueEnds
    (hends : DueEnds env limit rows) (hrows : dueSubscriptions env.now subs = rows) :
    PassEnds env limit subs := by
  induction hends generalizing subs with
  | @last rows hruns hlast =>
    subst hrows
    obtain ⟨fuel₀, result, hdue, hprocessed⟩ := exists_batch hlimit hruns
    have hcount : result.resetCount < limit := by
      rw [hprocessed.count, zero_add]
      exact count_lt_of_not_full hlast
    refine ⟨[result.subs], ⟨fuel₀, fun fuel hfuel batches hbatches => ?_⟩, .singleton _⟩
    obtain ⟨batches, rfl⟩ := Nat.exists_eq_succ_of_ne_zero (Nat.ne_zero_of_lt hbatches)
    exact resetPass_last (hdue fuel hfuel) hcount
  | @batch rows hruns hfull hrest ih =>
    subst hrows
    obtain ⟨fuel₁, result, hdue, hprocessed⟩ := exists_batch hlimit hruns
    have hcount : result.resetCount = limit := by
      rw [hprocessed.count, zero_add]
      exact count_of_full hfull
    have hafter := dueSubscriptions_after hprocessed.due
    obtain ⟨tables, ⟨fuel₂, hpass⟩, hchain⟩ := ih hafter
    have hne : tables ≠ [] := tables_ne_nil (hpass fuel₂ le_rfl _ le_rfl)
    -- A full batch in which nothing moves would be repeated for ever.
    have hmoves : ∃ row ∈ (dueSubscriptions env.now subs).take limit, Moves env row := by
      by_contra hnone
      refine Drain.not_ends_of_stalled (.inr ⟨hfull, fun row hrow hmove => ?_⟩)
        (Drain.Ends.batch hruns hfull hrest)
      exact hnone ⟨row, hrow, hmove⟩
    have hlt := Drain.length_remaining_lt hmoves
    rw [← hafter] at hlt
    refine ⟨result.subs :: tables, ⟨max fuel₁ fuel₂, fun fuel hfuel batches hbatches => ?_⟩, ?_⟩
    · obtain ⟨batches, rfl⟩ := Nat.exists_eq_succ_of_ne_zero (Nat.ne_zero_of_lt hbatches)
      rw [resetPass_batch hlimit (hdue fuel ((le_max_left _ _).trans hfuel)) hprocessed.ok hcount,
        hpass fuel ((le_max_right _ _).trans hfuel) batches (Nat.le_of_succ_le_succ hbatches)]
      rfl
    · rw [dropLast_cons_of_ne_nil hne, map_cons, map_cons, isChain_cons_cons]
      exact ⟨hlt, hchain⟩

theorem dueEnds_of_resetPass
    (h : resetPass env limit fuel batches (fun _ => .allOk) subs = some tables) :
    DueEnds env limit (dueSubscriptions env.now subs) := by
  induction batches generalizing subs tables with
  | zero => cases h
  | succ batches ih =>
    rcases hdue : resetDueSubscriptions env fuel .allOk limit subs with - | result
    · rw [resetPass, hdue] at h
      cases h
    have hprocessed := resetRows_some (selected_take env.now subs limit)
      ((resetDue_eq hlimit).symm.trans hdue)
    by_cases hfull : Drain.Full limit (HasPlan env) (dueSubscriptions env.now subs)
    · have hcount : result.resetCount = limit := by
        rw [hprocessed.count, zero_add]
        exact count_of_full hfull
      rw [resetPass_batch hlimit hdue hprocessed.ok hcount] at h
      obtain ⟨rest, hrest, -⟩ := map_eq_some_iff.mp h
      have hends := ih hrest
      rw [dueSubscriptions_after hprocessed.due] at hends
      exact .batch hprocessed.ends hfull hends
    · exact .last hprocessed.ends hfull

theorem passEnds_iff :
    PassEnds env limit subs ↔ DueEnds env limit (dueSubscriptions env.now subs) := by
  constructor
  · rintro ⟨tables, ⟨fuel, hpass⟩, -⟩
    exact dueEnds_of_resetPass hlimit (hpass fuel le_rfl _ le_rfl)
  · exact fun hends => passEnds_of_dueEnds hlimit hends rfl

theorem resetPass_of_not_ends (hends : ¬ DueEnds env limit (dueSubscriptions env.now subs)) :
    resetPass env limit fuel batches (fun _ => .allOk) subs = none :=
  eq_none_iff_forall_ne_some.mpr fun _ h => hends (dueEnds_of_resetPass hlimit h)

theorem resetPass_of_stuck
    (hrows : ∀ row ∈ subs.rows, row.Due env.now ∧ HasPlan env row ∧ ¬ Moves env row)
    (hlength : limit ≤ subs.rows.length) :
    resetPass env limit fuel batches (fun _ => .allOk) subs = none := by
  have hdue : (dueSubscriptions env.now subs).length = subs.rows.length := by
    rw [dueSubscriptions, length_insertionSort, filter_eq_self.mpr]
    exact fun row hrow => decide_eq_true (hrows row hrow).1
  have hstored : ∀ row ∈ (dueSubscriptions env.now subs).take limit, row ∈ subs.rows :=
    fun row hrow => (mem_dueSubscriptions.mp (mem_of_mem_take hrow)).1
  refine resetPass_of_not_ends hlimit (Drain.not_ends_of_stalled (.inr ⟨?_, ?_⟩))
  · exact ⟨hlength.trans_eq hdue.symm, fun row hrow => (hrows row (hstored row hrow)).2.1⟩
  · exact fun row hrow => (hrows row (hstored row hrow)).2.2

end

/-- **The pass over the due resets.** It ends, with each batch but the last one reducing the number
of due rows, exactly if no due rows that its batches lead to are stalled. If no due row hangs, then
this means that the due rows that do not move are not enough for a full batch: there are fewer of
them than the batch size, or one of the first ones has no plan. -/
theorem resetPass_ends_iff (env : ResetEnv) (subs : Table ResetRow.key) :
    (PassEnds env subscriptionResetBatchSize subs ↔
      ∀ rows, Drain.Reached subscriptionResetBatchSize (Moves env) (HasPlan env) (Hangs env)
          (dueSubscriptions env.now subs) rows →
        ¬ Drain.Stalled subscriptionResetBatchSize (Moves env) (HasPlan env) (Hangs env) rows) ∧
    ((∀ row ∈ dueSubscriptions env.now subs, ¬ Hangs env row) →
      (PassEnds env subscriptionResetBatchSize subs ↔
        ¬ Drain.Full subscriptionResetBatchSize (HasPlan env)
          ((dueSubscriptions env.now subs).filter fun row => ¬ Moves env row))) := by
  have hlimit : 0 < subscriptionResetBatchSize := by decide
  refine ⟨(passEnds_iff hlimit).trans Drain.ends_iff, fun hruns => ?_⟩
  refine (passEnds_iff hlimit).trans (Drain.ends_iff_unmoved ?_ hruns)
  rintro row ⟨plan, hplan, -⟩
  rw [HasPlan, mem_def.mp hplan]
  rfl

end

def sampleResetEnv : ResetEnv where
  calendar := ⟨fun base => base + 86400, fun base => base + 604800, fun base => base + 2592000⟩
  plans := fun id =>
    if id = 1 then some ⟨"never", 0⟩
    else if id = 2 then some ⟨"custom", 3600⟩
    else if id = 3 then some ⟨"custom", 2 ^ 55⟩
    else none
  now := 10000

def sampleResetRow (id planId : Int) : ResetRow where
  id := id
  userId := 1
  amountTotal := 100
  amountUsed := 50
  endTime := 20000
  status := .active
  lastResetTime := 100
  nextResetTime := 3700
  allowWalletOverflow := false
  planId := planId
  startTime := 100

def sampleDue (planId : Int) : Table ResetRow.key := ⟨[sampleResetRow 1 planId], by simp⟩

theorem resetPass_ends_sampleDue :
    PassEnds sampleResetEnv subscriptionResetBatchSize (sampleDue 2) := by
  have hlast : ∀ plan ∈ sampleResetEnv.resetPlan (sampleResetRow 1 2),
      ¬ Passed sampleResetEnv.now (plan.calcNextResetTime^[3] (plan.calcNextResetTime
        (resetBase plan (sampleResetRow 1 2).toUserSubscription))) := by decide +kernel
  have hruns : ∀ row ∈ dueSubscriptions sampleResetEnv.now (sampleDue 2),
      ¬ Hangs sampleResetEnv row := by
    intro row hrow
    obtain rfl := mem_singleton.mp hrow
    rintro ⟨plan, hplan, -, hpasses⟩
    exact hlast plan hplan (hpasses 3)
  refine ((resetPass_ends_iff sampleResetEnv (sampleDue 2)).2 hruns).mpr fun hfull => ?_
  exact absurd (hfull.1.trans (length_filter_le _ _)) (by decide +kernel)

def sampleStuck : Table ResetRow.key where
  rows := (List.range subscriptionResetBatchSize).map fun n : ℕ => sampleResetRow n 1
  nodup := by
    rw [List.map_map]
    exact List.nodup_range.map fun n m h => Int.ofNat_inj.mp h

/-- The pass over as many due rows as the batch size does not end if their plan was edited to have
no resets, and the pass over one due row does not end if its period wraps around to 0. -/
theorem resetPass_does_not_end :
    (∀ fuel batches, resetPass sampleResetEnv subscriptionResetBatchSize fuel batches
      (fun _ => .allOk) sampleStuck = none) ∧
    (∀ fuel batches, resetPass sampleResetEnv subscriptionResetBatchSize fuel batches
      (fun _ => .allOk) (sampleDue 3) = none) := by
  have hlimit : 0 < subscriptionResetBatchSize := by decide
  constructor
  · intro fuel batches
    have hnever : normalizeResetPeriod "never" = .never := by decide +kernel
    refine resetPass_of_stuck hlimit (fun row hrow => ?_) ?_
    · obtain ⟨n, -, rfl⟩ := mem_map.mp hrow
      have hpassed : Passed 10000 3700 := by decide
      refine ⟨⟨hpassed, rfl⟩, rfl, ?_⟩
      rintro ⟨plan, hplan, hadvances⟩
      obtain ⟨period, hperiod, rfl⟩ := map_eq_some_iff.mp hplan
      obtain rfl : ⟨"never", 0⟩ = period := some.inj hperiod
      exact of_decide_eq_false hadvances.1 hnever
    · rw [sampleStuck, length_map, length_range]
  · intro fuel batches
    have hfixed : calcNextResetTime sampleResetEnv.calendar ⟨"custom", 2 ^ 55⟩ 20000 100 = 100 := by
      decide +kernel
    have hcustom : normalizeResetPeriod "custom" ≠ .never := by decide +kernel
    refine resetPass_of_not_ends hlimit (Drain.not_ends_of_stalled (.inl
      ⟨_, mem_cons_self, _, rfl, decide_eq_false hcustom, fun k => ?_⟩))
    have hsame : (calcNextResetTime sampleResetEnv.calendar ⟨"custom", 2 ^ 55⟩ 20000)^[k]
        (calcNextResetTime sampleResetEnv.calendar ⟨"custom", 2 ^ 55⟩ 20000 100) = 100 := by
      rw [hfixed, Function.iterate_fixed hfixed]
    have hpassed : Passed 10000 100 := by decide
    exact hsame.symm ▸ hpassed

end NewApi.Model
