import NewApi.Model.SubscriptionReset

/-!
# The reset of one subscription

`maybeResetUserSubscriptionWithPlanTx` goes from the last reset to the next one until the clock is
reached. For the periods of the calendar each reset time is later than the one before it. A custom
period is converted to nanoseconds, where it wraps around: the reset times can then stand still, and
the loop does not end, or go back to a time before 1970.
-/

namespace NewApi.Model

open Option Function

/-- The call ends; the next reset time is 0 or in the future; the usage is reset exactly if a reset
time has passed; and the same call on the row that is left changes nothing. -/
def CatchesUp (plan : ResetPlan) (now : Int) (sub : UserSubscription) : Prop :=
  ∃ fuel d sub', resetDecision fuel plan true now sub = some d ∧ d.apply sub = .ok sub' ∧
    (sub'.nextResetTime = 0 ∨ now < sub'.nextResetTime) ∧
    ((∃ base next, d = .advance base next) ↔ Advances now plan sub) ∧
    ∃ d', resetDecision fuel plan true now sub' = some d' ∧ d'.apply sub' = .ok sub'

section

variable {plan : ResetPlan} {now : Int} {sub : UserSubscription} {nextTime : Int → Int}

/-! ### The loop -/

variable {base next base' next' : Int} {fuel : ℕ} {advanced advanced' : Bool}

theorem advanceLoop_invariant {p : Int → Int → Prop}
    (hstep : ∀ base time, Passed now time → p base time → p time (nextTime time))
    (hnext : p base next)
    (h : advanceLoop nextTime now fuel base next advanced = some (base', next', advanced')) :
    p base' next' := by
  induction fuel generalizing base next advanced with
  | zero => cases h
  | succ fuel ih =>
    rw [advanceLoop] at h
    split_ifs at h with hpassed
    · exact ih (hstep base next hpassed hnext) h
    · obtain ⟨rfl, rfl, rfl⟩ := h
      exact hnext

theorem advanceLoop_last (hpassed : Passed now next)
    (h : advanceLoop nextTime now fuel base next advanced = some (base', next', advanced')) :
    Passed now base' ∧ next' = nextTime base' := by
  have hlast := advanceLoop_invariant (p := fun base' next' => next' = next ∨
    Passed now base' ∧ next' = nextTime base') (fun _ _ htime _ => .inr ⟨htime, rfl⟩) (.inl rfl) h
  exact hlast.resolve_left fun hsame => (advanceLoop_some h).1 (hsame ▸ hpassed)

theorem exists_not_passed
    (hmoves : (∀ time, Passed now time → nextTime time = 0 ∨ time < nextTime time) ∨
      ∀ time, Passed now time → nextTime time < time) :
    ∃ k, ¬ Passed now (nextTime^[k] next) := by
  by_contra hall
  have hpassed : ∀ k, Passed now (nextTime^[k] next) := by simpa using hall
  have hstep (k : ℕ) : nextTime^[k + 1] next = nextTime (nextTime^[k] next) :=
    iterate_succ_apply' nextTime k next
  rcases hmoves with hforward | hback
  · have hge (k : ℕ) : (k : Int) ≤ nextTime^[k] next := by
      induction k with
      | zero => exact (hpassed 0).1.le
      | succ k ih =>
        have hlater := hforward _ (hpassed k)
        have hpos := (hpassed (k + 1)).1
        rw [hstep k] at hpos ⊢
        omega
    have hlast := hge (now.toNat + 1)
    have hle := (hpassed (now.toNat + 1)).2
    omega
  · have hle (k : ℕ) : nextTime^[k] next ≤ next - k := by
      induction k with
      | zero => simp
      | succ k ih =>
        have hbefore := hback _ (hpassed k)
        rw [hstep k]
        omega
    have hlast := hle next.toNat
    have hpos := (hpassed next.toNat).1
    omega

theorem exists_advanceLoop_true {k : ℕ} (base : Int)
    (hpassed : Passed now next) (hk : ¬ Passed now (nextTime^[k] next)) :
    ∃ fuel base' next', advanceLoop nextTime now fuel base next false =
      some (base', next', true) := by
  obtain ⟨fuel, hfuel⟩ := exists_advanceLoop hk base false
  obtain ⟨⟨base', next', advanced⟩, hloop⟩ := isSome_iff_exists.mp hfuel
  obtain ⟨-, -, rfl⟩ := advanceLoop_some hloop
  rw [decide_eq_true hpassed] at hloop
  exact ⟨fuel, base', next', hloop⟩

theorem exists_advanceLoop_forward (hpassed : Passed now (nextTime base))
    (hforward : ∀ time, nextTime time = 0 ∨ time < nextTime time) :
    ∃ fuel base' next', advanceLoop nextTime now fuel base (nextTime base) false =
      some (base', next', true) ∧ 0 ≤ next' := by
  obtain ⟨k, hk⟩ := exists_not_passed (.inl fun time _ => hforward time)
  obtain ⟨fuel, base', next', hloop⟩ := exists_advanceLoop_true base hpassed hk
  refine ⟨fuel, base', next', hloop, ?_⟩
  refine advanceLoop_invariant (p := fun _ time => 0 ≤ time) (fun _ time htime _ => ?_) hpassed.1.le
    hloop
  have hlater := hforward time
  omega

/-! ### One call -/

theorem resetDecision_of_not_advances (hadvances : ¬ Advances now plan sub) (fuel : ℕ) :
    resetDecision (fuel + 1) plan true now sub = some .keep ∨
      sub.nextResetTime = 0 ∧ ∃ base next, now < next ∧ 0 < next ∧
        resetDecision (fuel + 1) plan true now sub = some (.schedule base next) := by
  rw [resetDecision]
  split_ifs with hlater hnever
  · exact .inl rfl
  · exact .inl rfl
  have hnot : ¬ Passed now (plan.calcNextResetTime (resetBase plan sub)) :=
    fun hpassed => hadvances ⟨Bool.eq_false_iff.mpr hnever, hpassed⟩
  rw [advanceLoop, if_neg hnot, map_some, decisionAfter]
  by_cases hfirst : sub.nextResetTime = 0 ∧ 0 < plan.calcNextResetTime (resetBase plan sub)
  · rw [if_pos hfirst]
    have hfuture : now < plan.calcNextResetTime (resetBase plan sub) :=
      not_le.mp fun hle => hnot ⟨hfirst.2, hle⟩
    exact .inr ⟨hfirst.1, _, _, hfuture, hfirst.2, rfl⟩
  · rw [if_neg hfirst]
    exact .inl rfl

theorem resetDecision_of_later (h : 0 < sub.nextResetTime ∧ now < sub.nextResetTime) (fuel : ℕ) :
    resetDecision fuel plan true now sub = some .keep := if_pos h

theorem catchesUp_of_not_advances (hadvances : ¬ Advances now plan sub) :
    CatchesUp plan now sub ↔ sub.nextResetTime = 0 ∨ now < sub.nextResetTime := by
  constructor
  · rintro ⟨fuel, d, sub', hd, happly, hnext, -, -⟩
    have hmore := resetDecision_mono (Nat.le_succ fuel) hd
    rcases resetDecision_of_not_advances hadvances fuel with hkeep | ⟨hzero, -⟩
    · obtain rfl : d = .keep := some.inj (hmore.symm.trans hkeep)
      obtain rfl := Except.ok.inj happly
      exact hnext
    · exact .inl hzero
  · intro hnext
    rcases resetDecision_of_not_advances hadvances 0 with
      hkeep | ⟨-, base, next, hfuture, hpos, hschedule⟩
    · exact ⟨1, .keep, sub, hkeep, rfl, hnext, by simp [hadvances], .keep, hkeep, rfl⟩
    · exact ⟨1, .schedule base next, _, hschedule, rfl, .inr hfuture, by simp [hadvances], .keep,
        resetDecision_of_later ⟨hpos, hfuture⟩ 1, rfl⟩

theorem catchesUp_of_advances (hadvances : Advances now plan sub) :
    CatchesUp plan now sub ↔ ¬ (0 < sub.nextResetTime ∧ now < sub.nextResetTime) ∧
      ∃ fuel base next, advanceLoop plan.calcNextResetTime now fuel (resetBase plan sub)
        (plan.calcNextResetTime (resetBase plan sub)) false = some (base, next, true) ∧
          0 ≤ next := by
  obtain ⟨hnever, hpassed⟩ := hadvances
  have hdecision (hlater : ¬ (0 < sub.nextResetTime ∧ now < sub.nextResetTime)) (fuel : ℕ) :
      resetDecision fuel plan true now sub =
        (advanceLoop plan.calcNextResetTime now fuel (resetBase plan sub)
          (plan.calcNextResetTime (resetBase plan sub)) false).map (decisionAfter true sub) := by
    rw [resetDecision, if_neg hlater, hnever, if_neg Bool.false_ne_true]
  constructor
  · rintro ⟨fuel, d, sub', hd, happly, hnext, hadvance, -⟩
    obtain ⟨base', next', rfl⟩ := hadvance.mpr ⟨hnever, hpassed⟩
    have hlater : ¬ (0 < sub.nextResetTime ∧ now < sub.nextResetTime) := fun hlater => by
      cases (resetDecision_of_later hlater fuel).symm.trans hd
    rw [hdecision hlater, map_eq_some_iff] at hd
    obtain ⟨⟨base, next, advanced⟩, hloop, hafter⟩ := hd
    have hadvanced : advanced = true := by
      rw [(advanceLoop_some hloop).2.2, Bool.false_or, decide_eq_true hpassed]
    subst hadvanced
    obtain ⟨rfl, rfl⟩ : base = base' ∧ next = next' := by simpa [decisionAfter] using hafter
    obtain rfl := Except.ok.inj happly
    have hclock := hpassed.1.trans_le hpassed.2
    exact ⟨hlater, fuel, base, next, hloop, hnext.elim Eq.ge fun hlt => (hclock.trans hlt).le⟩
  · rintro ⟨hlater, fuel, base, next, hloop, hge⟩
    have hend := (advanceLoop_some hloop).1
    have hnext : next = 0 ∨ now < next := by
      rcases hge.eq_or_lt with hzero | hpos
      · exact .inl hzero.symm
      · exact .inr (not_le.mp fun hle => hend ⟨hpos, hle⟩)
    refine ⟨fuel, .advance base next, _, by rw [hdecision hlater, hloop]; rfl, rfl, hnext,
      ⟨fun _ => ⟨hnever, hpassed⟩, fun _ => ⟨base, next, rfl⟩⟩, .keep, ?_, rfl⟩
    rcases hnext with rfl | hfuture
    · -- The plan has no reset time after the last one.
      obtain ⟨hbase, hlast⟩ := advanceLoop_last hpassed hloop
      obtain ⟨fuel, rfl⟩ := Nat.exists_eq_succ_of_ne_zero (n := fuel) (by rintro rfl; cases hloop)
      have hlast' : plan.calcNextResetTime (resetBase plan
          { sub with amountUsed := 0, lastResetTime := base, nextResetTime := 0 }) = 0 := by
        rw [resetBase, if_neg (not_le.mpr hbase.1), ← hlast]
      rw [resetDecision, if_neg (by simp), hnever, if_neg Bool.false_ne_true, hlast',
        advanceLoop, if_neg (by simp [Passed])]
      simp [decisionAfter]
    · exact resetDecision_of_later ⟨(hpassed.1.trans_le hpassed.2).trans hfuture, hfuture⟩ fuel

end

/-! ### The periods -/

def Calendar.Forward (calendar : Calendar) : Prop :=
  ∀ base, base < calendar.nextDay base ∧ base < calendar.nextMonday base ∧
    base < calendar.nextMonth base

def PlanPeriod.step (period : PlanPeriod) : Int :=
  Int64.wrap (period.quotaResetCustomSeconds * 10 ^ 9) / 10 ^ 9

section

variable {calendar : Calendar} {period : PlanPeriod} {endUnix now base : Int}

theorem calcNextResetTime_custom
    (hcustom : normalizeResetPeriod period.quotaResetPeriod = .custom) :
    calcNextResetTime calendar period endUnix base =
      if period.quotaResetCustomSeconds ≤ 0 then 0
      else if endUnix > 0 ∧ base + period.step > endUnix then 0 else base + period.step := by
  rw [calcNextResetTime, hcustom]
  rfl

theorem calcNextResetTime_forward (hforward : calendar.Forward)
    (hstep : normalizeResetPeriod period.quotaResetPeriod = .custom → 0 < period.step)
    (base : Int) :
    calcNextResetTime calendar period endUnix base = 0 ∨
      base < calcNextResetTime calendar period endUnix base := by
  obtain ⟨hday, hmonday, hmonth⟩ := hforward base
  cases hperiod : normalizeResetPeriod period.quotaResetPeriod with
  | custom =>
    have hpos := hstep hperiod
    rw [calcNextResetTime_custom hperiod]
    split_ifs <;> omega
  | never => exact .inl (by rw [calcNextResetTime, hperiod])
  | _ =>
    simp only [calcNextResetTime, hperiod]
    split_ifs <;> omega

section

variable (hcustom : normalizeResetPeriod period.quotaResetPeriod = .custom)
include hcustom

theorem calcNextResetTime_back (hstep : period.step < 0) (hbase : 0 < base) :
    calcNextResetTime calendar period endUnix base < base := by
  rw [calcNextResetTime_custom hcustom]
  split_ifs <;> omega

/-- **Wrapping around to a negative period.** The loop ends at the first reset time before 1970, or
in 1970 if the reset times meet its beginning. -/
theorem advanceLoop_back (hstep : period.step < 0)
    (hpassed : Passed now (calcNextResetTime calendar period endUnix base)) :
    (∃ fuel base' next', advanceLoop (calcNextResetTime calendar period endUnix) now fuel base
      (calcNextResetTime calendar period endUnix base) false = some (base', next', true) ∧
        0 ≤ next') ↔ period.step ∣ base := by
  have hne := hpassed.1.ne'
  have hcalc {time : Int} (hle : time ≤ base) :
      calcNextResetTime calendar period endUnix time = time + period.step := by
    rw [calcNextResetTime_custom hcustom] at hne ⊢
    split_ifs at hne ⊢ <;> omega
  have hfirst := hcalc le_rfl
  -- The reset times are those of the period, counted back from the last reset.
  have hinv {fuel : ℕ} {base' next' : Int} (hloop : advanceLoop
      (calcNextResetTime calendar period endUnix) now fuel base
      (calcNextResetTime calendar period endUnix base) false = some (base', next', true)) :
      next' ≤ base + period.step ∧ period.step ∣ next' - base := by
    refine advanceLoop_invariant (p := fun _ time => time ≤ base + period.step ∧
      period.step ∣ time - base) (fun _ time _ h => ?_) ?_ hloop
    · rw [hcalc (by omega)]
      refine ⟨by omega, ?_⟩
      rw [add_sub_right_comm]
      exact Int.dvd_add h.2 (Int.dvd_refl _)
    · rw [hfirst]
      exact ⟨le_rfl, by simp⟩
  have hclock := hpassed.2
  constructor
  · rintro ⟨fuel, base', next', hloop, hge⟩
    obtain ⟨hle, hdvd⟩ := hinv hloop
    have hzero : next' = 0 := by
      by_contra hpos
      exact (advanceLoop_some hloop).1 ⟨by omega, by omega⟩
    rwa [hzero, zero_sub, Int.dvd_neg] at hdvd
  · intro hdvd
    obtain ⟨k, hk⟩ := exists_not_passed
      (.inr fun time htime => calcNextResetTime_back hcustom hstep htime.1)
    obtain ⟨fuel, base', next', hloop⟩ := exists_advanceLoop_true base hpassed hk
    refine ⟨fuel, base', next', hloop, not_lt.mp fun hneg => ?_⟩
    have hafter : period.step < next' := by
      obtain ⟨hbase, hlast⟩ := advanceLoop_last hpassed hloop
      have hpos := hbase.1
      rw [hlast, calcNextResetTime_custom hcustom] at hneg ⊢
      split_ifs at hneg ⊢ <;> omega
    have hmultiple := Int.dvd_add (hinv hloop).2 hdvd
    rw [← Int.neg_dvd, ← Int.dvd_neg] at hmultiple
    have hle := Int.le_of_dvd (by omega) hmultiple
    omega

end

theorem exists_advanceLoop_iff (hforward : calendar.Forward)
    (hpassed : Passed now (calcNextResetTime calendar period endUnix base)) :
    (∃ fuel base' next', advanceLoop (calcNextResetTime calendar period endUnix) now fuel base
      (calcNextResetTime calendar period endUnix base) false = some (base', next', true) ∧
        0 ≤ next') ↔
      (normalizeResetPeriod period.quotaResetPeriod = .custom →
        0 < period.step ∨ period.step < 0 ∧ period.step ∣ base) := by
  by_cases hstep : normalizeResetPeriod period.quotaResetPeriod = .custom → 0 < period.step
  · exact iff_of_true (exists_advanceLoop_forward hpassed
      (calcNextResetTime_forward hforward hstep)) fun hcustom => .inl (hstep hcustom)
  obtain ⟨hcustom, hle⟩ := Classical.not_imp.mp hstep
  rcases (not_lt.mp hle).lt_or_eq with hneg | hzero
  · rw [advanceLoop_back hcustom hneg hpassed]
    exact ⟨fun hdvd _ => .inr ⟨hneg, hdvd⟩, fun h => ((h hcustom).resolve_left hle).2⟩
  -- The reset times stand still.
  refine iff_of_false ?_ fun h => ?_
  · rintro ⟨fuel, base', next', hloop, -⟩
    obtain ⟨-, ⟨k, hk⟩, -⟩ := advanceLoop_some hloop
    have hfixed : calcNextResetTime calendar period endUnix
        (calcNextResetTime calendar period endUnix base) =
          calcNextResetTime calendar period endUnix base := by
      have hne := hpassed.1.ne'
      rw [calcNextResetTime_custom hcustom] at hne
      have hbase : calcNextResetTime calendar period endUnix base = base := by
        rw [calcNextResetTime_custom hcustom]
        split_ifs at hne ⊢ <;> simp_all
      rw [hbase, hbase]
    rw [iterate_fixed hfixed] at hk
    exact hk hpassed
  · have := h hcustom
    omega

theorem catchesUp_of_period {plan : ResetPlan} (sub : UserSubscription)
    (hforward : calendar.Forward)
    (hnever : plan.never = decide (normalizeResetPeriod period.quotaResetPeriod = .never))
    (hcalc : plan.calcNextResetTime = calcNextResetTime calendar period endUnix) :
    CatchesUp plan now sub ↔
      if Passed now (calcNextResetTime calendar period endUnix (resetBase plan sub)) then
        ¬ (0 < sub.nextResetTime ∧ now < sub.nextResetTime) ∧
          (normalizeResetPeriod period.quotaResetPeriod = .custom →
            0 < period.step ∨ period.step < 0 ∧ period.step ∣ resetBase plan sub)
      else sub.nextResetTime = 0 ∨ now < sub.nextResetTime := by
  have hadvances : Advances now plan sub ↔ plan.never = false ∧
        Passed now (calcNextResetTime calendar period endUnix (resetBase plan sub)) := by
    rw [Advances, hcalc]
  split_ifs with hpassed
  · have hreset : plan.never = false := by
      refine hnever.trans (decide_eq_false fun hperiod => ?_)
      rw [calcNextResetTime, hperiod] at hpassed
      exact lt_irrefl _ hpassed.1
    rw [catchesUp_of_advances (hadvances.mpr ⟨hreset, hpassed⟩), hcalc,
      exists_advanceLoop_iff hforward hpassed]
  · exact catchesUp_of_not_advances fun h => hpassed (hadvances.mp h).2

/-- **The reset of one subscription.** If a reset time of the plan has passed, then the call catches
up exactly if the stored reset time is not in the future and the period, if it is a custom one, has
not wrapped around, or to a negative one that meets 1970. Otherwise the stored reset time has to be
0 or in the future. -/
theorem catchesUp_iff (hforward : calendar.Forward) (period : PlanPeriod) (row : ResetRow)
    (now : Int) :
    let plan : ResetPlan :=
      { startTime := row.startTime
        never := normalizeResetPeriod period.quotaResetPeriod = .never
        calcNextResetTime := calcNextResetTime calendar period row.endTime }
    let sub := row.toUserSubscription
    let base := resetBase plan sub
    CatchesUp plan now sub ↔
      if Passed now (calcNextResetTime calendar period row.endTime base) then
        ¬ (0 < sub.nextResetTime ∧ now < sub.nextResetTime) ∧
          (normalizeResetPeriod period.quotaResetPeriod = .custom →
            0 < period.step ∨ period.step < 0 ∧ period.step ∣ base)
      else sub.nextResetTime = 0 ∨ now < sub.nextResetTime := by
  intro plan sub base
  refine catchesUp_of_period sub hforward ?_ ?_ <;> dsimp [plan]

end

theorem catchesUp_sampleResetRow :
    let row := sampleResetRow 1 2
    let period : PlanPeriod := ⟨"custom", 3600⟩
    CatchesUp
      { startTime := row.startTime
        never := normalizeResetPeriod period.quotaResetPeriod = .never
        calcNextResetTime := calcNextResetTime sampleResetEnv.calendar period row.endTime }
      10000 row.toUserSubscription := by
  intro row period
  have hforward : sampleResetEnv.calendar.Forward :=
    fun base => ⟨lt_add_of_pos_right _ (by decide), lt_add_of_pos_right _ (by decide),
      lt_add_of_pos_right _ (by decide)⟩
  exact (catchesUp_iff hforward period row 10000).mpr (by decide +kernel)

/-- A period of `2 ^ 55` seconds wraps around to 0: the call does not end for a subscription whose
last reset has passed. -/
theorem wrapped_period_hangs :
    let plan : ResetPlan :=
      { startTime := 100
        never := normalizeResetPeriod "custom" = .never
        calcNextResetTime := calcNextResetTime sampleResetEnv.calendar ⟨"custom", 2 ^ 55⟩ 20000 }
    (∀ fuel, resetDecision fuel plan true 10000 (sampleResetRow 1 3).toUserSubscription = none) ∧
      ¬ CatchesUp plan 10000 (sampleResetRow 1 3).toUserSubscription := by
  intro plan
  have hnone (fuel : ℕ) :
      resetDecision fuel plan true 10000 (sampleResetRow 1 3).toUserSubscription = none := by
    have hfixed : plan.calcNextResetTime 100 = 100 := by decide +kernel
    have hnever : plan.never = false := by decide +kernel
    refine eq_none_iff_forall_ne_some.mpr fun d hd => ?_
    refine (resetDecision_some (by decide) hd).1 ⟨hnever, fun k => ?_⟩
    have hbase : resetBase plan (sampleResetRow 1 3).toUserSubscription = 100 := by decide
    rw [hbase, hfixed, iterate_fixed hfixed]
    decide
  exact ⟨hnone, fun ⟨fuel, d, _, hd, _⟩ => by cases (hnone fuel).symm.trans hd⟩

end NewApi.Model
