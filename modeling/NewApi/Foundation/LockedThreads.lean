import NewApi.Foundation.Locks
import NewApi.Foundation.Threads

/-!
# Threads that wait for locks

Threads over a shared state whose steps take locks. A thread that wants a lock of another thread
waits: its step does nothing until the lock is free. What happens outside the threads waits in the
same way. So no two threads ever hold the same lock, and while a thread holds a lock no other thread
and nothing outside takes a step that wants it.
-/

namespace Threads

open List

variable {σ τ κ ρ ε lock : Type*}

/-- A system whose threads hold locks. A new thread holds none, and a step takes only the locks that
the thread wants. -/
structure LockSystem (σ τ κ ρ ε lock : Type*) extends System σ τ κ ρ ε where
  holds : τ → List lock
  /-- The locks that the next step of a thread takes. -/
  wants : σ → τ → List lock
  /-- The locks that an outside event needs for a moment. -/
  wantsOutside : σ → ε → List lock
  start_holds : ∀ s c, holds (start s c) = []
  exec_holds : ∀ s t r, ∀ l ∈ holds (exec s t r).2, l ∈ holds t ∨ l ∈ wants s t

namespace LockSystem

variable (M : LockSystem σ τ κ ρ ε lock)

def Blocked (s : State σ τ) (k : ℕ) (t : τ) : Prop :=
  ∃ u ∈ s.pool.eraseIdx k, ∃ l ∈ M.wants s.shared t, l ∈ M.holds u

def BlockedOutside (s : State σ τ) (e : ε) : Prop :=
  ∃ u ∈ s.pool, ∃ l ∈ M.wantsOutside s.shared e, l ∈ M.holds u

variable [DecidableEq lock]

instance (s : State σ τ) (k : ℕ) (t : τ) : Decidable (M.Blocked s k t) :=
  inferInstanceAs (Decidable (∃ u ∈ s.pool.eraseIdx k, ∃ l ∈ M.wants s.shared t, l ∈ M.holds u))

instance (s : State σ τ) (e : ε) : Decidable (M.BlockedOutside s e) :=
  inferInstanceAs (Decidable (∃ u ∈ s.pool, ∃ l ∈ M.wantsOutside s.shared e, l ∈ M.holds u))

def step (s : State σ τ) : Event κ ρ ε → State σ τ
  | .call c => M.toSystem.step s (.call c)
  | .step k r =>
    match s.pool[k]? with
    | none => s
    | some t =>
      if M.Blocked s k t then s
      else ⟨(M.exec s.shared t r).1, s.pool.set k (M.exec s.shared t r).2⟩
  | .outside e => if M.BlockedOutside s e then s else M.toSystem.step s (.outside e)

end LockSystem

section

variable {M : LockSystem σ τ κ ρ ε lock} {s : State σ τ} {k : ℕ} {t : τ} [DecidableEq lock]

theorem lockStep_of_none (r : ρ) (h : s.pool[k]? = none) : M.step s (.step k r) = s := by
  simp [LockSystem.step, h]

theorem lockStep_of_blocked (r : ρ) (h : s.pool[k]? = some t) (hblocked : M.Blocked s k t) :
    M.step s (.step k r) = s := by
  simp [LockSystem.step, h, if_pos hblocked]

theorem lockStep_of_some (r : ρ) (h : s.pool[k]? = some t) (hfree : ¬ M.Blocked s k t) :
    M.step s (.step k r) = ⟨(M.exec s.shared t r).1, s.pool.set k (M.exec s.shared t r).2⟩ := by
  simp [LockSystem.step, h, if_neg hfree]

theorem lockStep_last {shared : σ} {pool : List τ} (r : ρ)
    (hfree : ∀ l ∈ M.wants shared t, Locks.Free M.holds pool l) :
    M.step ⟨shared, pool ++ [t]⟩ (.step pool.length r) =
      ⟨(M.exec shared t r).1, pool ++ [(M.exec shared t r).2]⟩ := by
  have hk : (pool ++ [t])[pool.length]? = some t := getElem?_concat_length
  have hblocked : ¬ M.Blocked ⟨shared, pool ++ [t]⟩ pool.length t := by
    rintro ⟨u, hu, l, hl, hheld⟩
    obtain ⟨j, hj, hju⟩ := mem_eraseIdx_iff_getElem?.mp hu
    have hlt : j < pool.length := by
      have := (List.getElem?_eq_some_iff.mp hju).1
      rw [length_append, length_singleton] at this
      omega
    rw [getElem?_append_left hlt] at hju
    exact hfree l hl u (mem_of_getElem? hju) hheld
  rw [lockStep_of_some r hk hblocked, set_append_right _ _ le_rfl, Nat.sub_self, set_cons_zero]

end

/-- The shared state satisfies `I`, every thread satisfies `K` in it, and no two threads hold one
lock. -/
structure LockInv (M : LockSystem σ τ κ ρ ε lock) (I : σ → Prop) (K : σ → τ → Prop)
    (s : State σ τ) : Prop extends Inv I K s where
  exclusive : Locks.Exclusive M.holds s.pool

/-- Where `P` holds, every event keeps the invariant. Another thread holds none of the locks that
the moving one holds or takes. -/
structure LockKeeps (M : LockSystem σ τ κ ρ ε lock) (P : State σ τ → Event κ ρ ε → Prop)
    (I : σ → Prop) (K : σ → τ → Prop) : Prop where
  call : ∀ s c, LockInv M I K s → P s (.call c) → K s.shared (M.start s.shared c)
  exec : ∀ s k r t, LockInv M I K s → P s (.step k r) → s.pool[k]? = some t →
    ¬ M.Blocked s k t →
    I (M.exec s.shared t r).1 ∧ K (M.exec s.shared t r).1 (M.exec s.shared t r).2
  others : ∀ s k r t, LockInv M I K s → P s (.step k r) → s.pool[k]? = some t →
    ∀ u ∈ s.pool, (∀ l, l ∈ M.holds t ∨ l ∈ M.wants s.shared t → l ∉ M.holds u) →
    K (M.exec s.shared t r).1 u
  outside : ∀ s e, LockInv M I K s → P s (.outside e) →
    I (M.outside s.shared e) ∧ ∀ u ∈ s.pool,
      (∀ l ∈ M.wantsOutside s.shared e, l ∉ M.holds u) → K (M.outside s.shared e) u

variable {M : LockSystem σ τ κ ρ ε lock} {P : State σ τ → Event κ ρ ε → Prop} {I : σ → Prop}
  {K : σ → τ → Prop} {s : State σ τ} {k : ℕ} {t : τ}

theorem apart_of_not_blocked (hs : Locks.Exclusive M.holds s.pool) (hk : s.pool[k]? = some t)
    (hfree : ¬ M.Blocked s k t) {j : ℕ} {u : τ} (hjk : j ≠ k) (hj : s.pool[j]? = some u) :
    ∀ l, l ∈ M.holds t ∨ l ∈ M.wants s.shared t → l ∉ M.holds u := by
  rintro l (hheld | hwanted) hu
  · exact hs.notMem hk hj hjk hheld hu
  · exact hfree ⟨u, mem_eraseIdx_iff_getElem?.mpr ⟨j, hjk, hj⟩, l, hwanted, hu⟩

theorem exclusive_exec (hs : Locks.Exclusive M.holds s.pool) (hk : s.pool[k]? = some t)
    (hfree : ¬ M.Blocked s k t) (r : ρ) :
    Locks.Exclusive M.holds (s.pool.set k (M.exec s.shared t r).2) := by
  refine hs.set hk fun l hl => ?_
  by_cases hheld : l ∈ M.holds t
  · exact .inl hheld
  have hwanted := (M.exec_holds s.shared t r l hl).resolve_left hheld
  refine .inr fun u hu hlu => ?_
  obtain ⟨j, hj⟩ := mem_iff_getElem?.mp hu
  by_cases hjk : j = k
  · subst hjk
    rw [hk] at hj
    cases hj
    exact hheld hlu
  · exact apart_of_not_blocked hs hk hfree hjk hj l (.inr hwanted) hlu

theorem lockInv_start {shared : σ} (h : I shared) : LockInv M I K (⟨shared, []⟩ : State σ τ) :=
  ⟨inv_start h, fun _ _ _ _ _ hi => by cases hi⟩

variable [DecidableEq lock]

/-- **One step** keeps the invariant. -/
theorem LockKeeps.step (h : LockKeeps M P I K) (hs : LockInv M I K s) (e : Event κ ρ ε)
    (he : P s e) : LockInv M I K (M.step s e) := by
  cases e with
  | call c =>
    refine ⟨⟨hs.shared, fun t ht => ?_⟩, hs.exclusive.append (M.start_holds s.shared c)⟩
    rcases mem_append.mp ht with ht | ht
    · exact hs.threads t ht
    · rw [mem_singleton.mp ht]
      exact h.call s c hs he
  | outside e =>
    by_cases hblocked : M.BlockedOutside s e
    · simp only [LockSystem.step, if_pos hblocked]
      exact hs
    obtain ⟨hshared, hthreads⟩ := h.outside s e hs he
    simp only [LockSystem.step, if_neg hblocked]
    refine ⟨⟨hshared, fun u hu => hthreads u hu fun l hl hheld => ?_⟩, hs.exclusive⟩
    exact hblocked ⟨u, hu, l, hl, hheld⟩
  | step k r =>
    rcases hk : s.pool[k]? with - | t
    · rw [lockStep_of_none r hk]
      exact hs
    by_cases hblocked : M.Blocked s k t
    · rw [lockStep_of_blocked r hk hblocked]
      exact hs
    rw [lockStep_of_some r hk hblocked]
    obtain ⟨hshared, hthread⟩ := h.exec s k r t hs he hk hblocked
    refine ⟨⟨hshared, Pool.forall_mem_set (fun j u hjk hj => ?_) hthread⟩,
      exclusive_exec hs.exclusive hk hblocked r⟩
    exact h.others s k r t hs he hk u (mem_of_getElem? hj)
      (apart_of_not_blocked hs.exclusive hk hblocked hjk hj)

/-- **A whole run** along which `P` holds keeps the invariant. -/
theorem LockKeeps.run (h : LockKeeps M P I K) (hs : LockInv M I K s) {events : List (Event κ ρ ε)}
    (hP : StepSystem.Along M.step P s events) :
    LockInv M I K (StepSystem.run M.step s events) := by
  have hstep (s : State σ τ) (e : Event κ ρ ε) (hs : LockInv M I K s) (he : P s e) :
      LockInv M I K (M.step s e) := h.step hs e he
  exact StepSystem.run_induction hstep hs hP

end Threads
