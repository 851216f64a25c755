import NewApi.Foundation.Pool
import NewApi.Foundation.Run

/-!
# Threads over a shared state

Calls that run at the same time share a state. Each call is a thread that takes its steps one by
one, the steps of all threads interleave in any order, and things happen outside the threads too. A
step gets a reply, which stands for what the thread cannot know before: whether a statement fails,
what another service answers.

An invariant of such a system has two parts: one about the shared state, and one about each thread
that the other threads do not disturb. The rule `Keeps.step` is the rule of rely and guarantee: it
asks what one step of one thread does to the shared state, to the thread itself and to any other
thread.
-/

namespace Threads

open List

variable {σ τ κ ρ ε : Type*}

/-- Calls `κ` as threads `τ` over a shared state `σ`, with replies `ρ` and outside events `ε`. -/
structure System (σ τ κ ρ ε : Type*) where
  /-- The thread of a call that begins. -/
  start : σ → κ → τ
  /-- The next step of a thread. -/
  exec : σ → τ → ρ → σ × τ
  /-- What happens outside the threads. -/
  outside : σ → ε → σ

structure State (σ τ : Type*) where
  shared : σ
  pool : List τ

inductive Event (κ ρ ε : Type*)
  | call (c : κ)
  | step (k : ℕ) (r : ρ)
  | outside (e : ε)

def System.step (M : System σ τ κ ρ ε) (s : State σ τ) : Event κ ρ ε → State σ τ
  | .call c => { s with pool := s.pool ++ [M.start s.shared c] }
  | .step k r =>
    match s.pool[k]? with
    | none => s
    | some t => ⟨(M.exec s.shared t r).1, s.pool.set k (M.exec s.shared t r).2⟩
  | .outside e => { s with shared := M.outside s.shared e }

section

variable {M : System σ τ κ ρ ε} {s : State σ τ} {k : ℕ} {t : τ}

theorem step_of_none (r : ρ) (h : s.pool[k]? = none) : M.step s (.step k r) = s := by
  simp [System.step, h]

theorem step_of_some (r : ρ) (h : s.pool[k]? = some t) :
    M.step s (.step k r) = ⟨(M.exec s.shared t r).1, s.pool.set k (M.exec s.shared t r).2⟩ := by
  simp [System.step, h]

theorem thread_step (h : s.pool[k]? = some t) (e : Event κ ρ ε) : (M.step s e).pool[k]? = some t ∨
      ∃ r, e = .step k r ∧ (M.step s e).pool[k]? = some (M.exec s.shared t r).2 := by
  have hlt : k < s.pool.length := (List.getElem?_eq_some_iff.mp h).1
  cases e with
  | call c =>
    refine .inl ?_
    change (s.pool ++ [M.start s.shared c])[k]? = some t
    rw [getElem?_append_left hlt, h]
  | outside e => exact .inl h
  | step j r =>
    rcases hj : s.pool[j]? with - | u
    · rw [step_of_none r hj]
      exact .inl h
    rw [step_of_some r hj]
    by_cases hjk : j = k
    · subst hjk
      rw [h] at hj
      cases hj
      exact .inr ⟨r, rfl, getElem?_set_self hlt⟩
    · refine .inl ?_
      rw [← h]
      exact getElem?_set_ne hjk

theorem new_thread {e : Event κ ρ ε} {u : τ} (h : s.pool[k]? = none)
    (h' : (M.step s e).pool[k]? = some u) : ∃ c, e = .call c ∧ u = M.start s.shared c := by
  have hle : s.pool.length ≤ k := getElem?_eq_none_iff.mp h
  cases e with
  | call c =>
    refine ⟨c, rfl, ?_⟩
    change (s.pool ++ [M.start s.shared c])[k]? = some u at h'
    rw [getElem?_append_right hle] at h'
    exact mem_singleton.mp (mem_of_getElem? h')
  | outside e => exact absurd (h.symm.trans h') (by simp)
  | step j r =>
    exfalso
    cases hj : s.pool[j]? with
    | none =>
      rw [step_of_none r hj, h] at h'
      cases h'
    | some t =>
      rw [step_of_some r hj] at h'
      have hlt := (List.getElem?_eq_some_iff.mp h').1
      rw [length_set] at hlt
      omega

end

structure Inv (I : σ → Prop) (K : σ → τ → Prop) (s : State σ τ) : Prop where
  shared : I s.shared
  threads : ∀ t ∈ s.pool, K s.shared t

theorem Inv.thread {I : σ → Prop} {K : σ → τ → Prop} {s : State σ τ} (h : Inv I K s) {k : ℕ}
    {t : τ} (hk : s.pool[k]? = some t) : K s.shared t :=
  h.threads t (mem_of_getElem? hk)

/-- Where `P` holds, every event keeps the invariant: a call begins with what a thread knows, a step
keeps the shared part and what its own thread knows, and neither a step nor an outside event takes
away what the other threads know. -/
structure Keeps (M : System σ τ κ ρ ε) (P : State σ τ → Event κ ρ ε → Prop) (I : σ → Prop)
    (K : σ → τ → Prop) : Prop where
  call : ∀ s c, Inv I K s → P s (.call c) → K s.shared (M.start s.shared c)
  exec : ∀ s k r t, Inv I K s → P s (.step k r) → s.pool[k]? = some t →
    I (M.exec s.shared t r).1 ∧ K (M.exec s.shared t r).1 (M.exec s.shared t r).2
  others : ∀ s k r t, Inv I K s → P s (.step k r) → s.pool[k]? = some t →
    ∀ u ∈ s.pool, K (M.exec s.shared t r).1 u
  outside : ∀ s e, Inv I K s → P s (.outside e) →
    I (M.outside s.shared e) ∧ ∀ u ∈ s.pool, K (M.outside s.shared e) u

variable {M : System σ τ κ ρ ε} {P : State σ τ → Event κ ρ ε → Prop} {I : σ → Prop}
  {K : σ → τ → Prop} {s : State σ τ}

/-- **One step** keeps the invariant. -/
theorem Keeps.step (h : Keeps M P I K) (hs : Inv I K s) (e : Event κ ρ ε) (he : P s e) :
    Inv I K (M.step s e) := by
  cases e with
  | call c =>
    refine ⟨hs.shared, fun t ht => ?_⟩
    rcases mem_append.mp ht with ht | ht
    · exact hs.threads t ht
    · rw [mem_singleton.mp ht]
      exact h.call s c hs he
  | outside e => exact ⟨(h.outside s e hs he).1, (h.outside s e hs he).2⟩
  | step k r =>
    cases hk : s.pool[k]? with
    | none =>
      rw [step_of_none r hk]
      exact hs
    | some t =>
      rw [step_of_some r hk]
      obtain ⟨hshared, hthread⟩ := h.exec s k r t hs he hk
      exact ⟨hshared, Pool.forall_mem_set
        (fun _ u _ hj => h.others s k r t hs he hk u (mem_of_getElem? hj)) hthread⟩

theorem inv_start {shared : σ} (h : I shared) : Inv I K (⟨shared, []⟩ : State σ τ) :=
  ⟨h, fun _ ht => by cases ht⟩

end Threads
