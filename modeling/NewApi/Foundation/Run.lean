import Mathlib.Algebra.Group.Hom.Defs
import Mathlib.Algebra.Order.Monoid.OrderDual

/-!
# Runs of a step function

A system is given by a step function `step : σ → α → σ` on states `σ` and actions `α`; the
failures and replies of the environment are part of the action. A *run* takes the actions of a
list in order. This file collects the induction rules that every later safety result uses, over
arbitrary states and actions.

* `run step s as` is the state after the actions `as`.
* `Along step P s as` says that each step of the run, taken at the state where it is taken,
  satisfies `P`.
* `sumAlong step δ s as` adds up a quantity of each step.
-/

namespace StepSystem

open List

variable {σ α : Type*} (step : σ → α → σ)

def run (s : σ) (as : List α) : σ := as.foldl step s

@[simp] theorem run_nil (s : σ) : run step s [] = s := rfl

@[simp] theorem run_cons (s : σ) (a : α) (as : List α) :
    run step s (a :: as) = run step (step s a) as := rfl

/-- Every step of the run of `as` from `s` satisfies `P`, at the state where it is taken. -/
def Along (P : σ → α → Prop) : σ → List α → Prop
  | _, [] => True
  | s, a :: as => P s a ∧ Along P (step s a) as

instance decidableAlong {P : σ → α → Prop} [∀ s a, Decidable (P s a)] :
    ∀ (s : σ) (as : List α), Decidable (Along step P s as)
  | _, [] => .isTrue trivial
  | s, a :: as =>
    have : Decidable (Along step P (step s a) as) := decidableAlong (step s a) as
    inferInstanceAs (Decidable (P s a ∧ Along step P (step s a) as))

variable {step} {P Q : σ → α → Prop} {inv : σ → Prop}

@[simp] theorem along_nil (s : σ) : Along step P s [] := trivial

@[simp] theorem along_cons (s : σ) (a : α) (as : List α) :
    Along step P s (a :: as) ↔ P s a ∧ Along step P (step s a) as := Iff.rfl

@[simp] theorem along_append (s : σ) (as bs : List α) :
    Along step P s (as ++ bs) ↔ Along step P s as ∧ Along step P (run step s as) bs := by
  induction as generalizing s with
  | nil => simp
  | cons a as ih => simp [ih, and_assoc]

variable {as : List α} {s : σ}

theorem along_and :
    Along step (fun s a => P s a ∧ Q s a) s as ↔ Along step P s as ∧ Along step Q s as := by
  induction as generalizing s with
  | nil => simp
  | cons a as ih =>
    rw [along_cons, along_cons, along_cons, ih]
    exact and_and_and_comm

theorem Along.imp (h : ∀ s a, P s a → Q s a) (hP : Along step P s as) : Along step Q s as := by
  induction as generalizing s with
  | nil => trivial
  | cons a as ih => exact ⟨h s a hP.1, ih hP.2⟩

theorem along_of_forall (h : ∀ s a, P s a) (s : σ) (as : List α) : Along step P s as := by
  induction as generalizing s with
  | nil => trivial
  | cons a as ih => exact ⟨h s a, ih (step s a)⟩

theorem run_map {τ : Type*} {step' : τ → α → τ} {f : σ → τ}
    (h : ∀ s a, f (step s a) = step' (f s) a) (s : σ) (as : List α) :
    f (run step s as) = run step' (f s) as := by
  induction as generalizing s with
  | nil => rfl
  | cons a as ih => rw [run_cons, run_cons, ih, h]

theorem along_of_forall_mem {p : α → Prop} (h : ∀ a ∈ as, p a) :
    Along step (fun _ a => p a) s as := by
  induction as generalizing s with
  | nil => trivial
  | cons a as ih =>
    exact ⟨h a mem_cons_self, ih fun b hb => h b (mem_cons_of_mem _ hb)⟩

/-- **Invariant rule.** An invariant kept by every step that satisfies `P` holds at the end of
every run along which `P` holds. -/
theorem run_induction (hstep : ∀ s a, inv s → P s a → inv (step s a))
    (hs : inv s) (hP : Along step P s as) : inv (run step s as) := by
  induction as generalizing s with
  | nil => exact hs
  | cons a as ih => exact ih (hstep s a hs hP.1) hP.2

theorem along_of_invariant (hstep : ∀ s a, inv s → P s a → inv (step s a))
    (hQ : ∀ s a, inv s → P s a → Q s a) (hs : inv s)
    (hP : Along step P s as) : Along step Q s as := by
  induction as generalizing s with
  | nil => trivial
  | cons a as ih => exact ⟨hQ s a hs hP.1, ih (hstep s a hs hP.1) hP.2⟩

theorem along_congr_of_invariant (hstep : ∀ s a, inv s → inv (step s a))
    (hPQ : ∀ s a, inv s → (P s a ↔ Q s a)) (hs : inv s) :
    Along step P s as ↔ Along step Q s as := by
  induction as generalizing s with
  | nil => exact Iff.rfl
  | cons a as ih => exact and_congr (hPQ s a hs) (ih (hstep s a hs))

/-- What does not hold at the start of a run and holds at its end came about at one of its steps. -/
theorem exists_first_of_run {p : σ → Prop} (hs : ¬ p s) (hrun : p (run step s as)) :
    ∃ pre a post, as = pre ++ a :: post ∧ ¬ p (run step s pre) ∧ p (step (run step s pre) a) := by
  induction as generalizing s with
  | nil => exact absurd hrun hs
  | cons a as ih =>
    by_cases ha : p (step s a)
    · exact ⟨[], a, as, rfl, hs, ha⟩
    · obtain ⟨pre, b, post, has, hpre, hb⟩ := ih ha hrun
      exact ⟨a :: pre, b, post, by rw [has, cons_append], hpre, hb⟩

variable {G : Type*} [AddCommMonoid G]

variable (step) in
def sumAlong (δ : σ → α → G) : σ → List α → G
  | _, [] => 0
  | s, a :: as => δ s a + sumAlong δ (step s a) as

@[simp] theorem sumAlong_nil (δ : σ → α → G) (s : σ) : sumAlong step δ s [] = 0 := rfl

@[simp] theorem sumAlong_cons (δ : σ → α → G) (s : σ) (a : α) (as : List α) :
    sumAlong step δ s (a :: as) = δ s a + sumAlong step δ (step s a) as := rfl

variable {as : List α} {s : σ}

/-- **Measure rule.** A measure that each step satisfying `P` changes by `δ` has changed by the sum
of the `δ` at the end of the run. -/
theorem measure_run {m : σ → G} {δ : σ → α → G} (hstep : ∀ s a, inv s → P s a → inv (step s a))
    (hδ : ∀ s a, inv s → P s a → m (step s a) = m s + δ s a) (hs : inv s)
    (hP : Along step P s as) : m (run step s as) = m s + sumAlong step δ s as := by
  induction as generalizing s with
  | nil => simp
  | cons a as ih =>
    rw [run_cons, ih (hstep s a hs hP.1) hP.2, hδ s a hs hP.1, sumAlong_cons, add_assoc]

theorem measure_run_of_step {m : σ → G} {δ : σ → α → G}
    (hδ : ∀ s a, m (step s a) = m s + δ s a) (s : σ) (as : List α) :
    m (run step s as) = m s + sumAlong step δ s as := by
  induction as generalizing s with
  | nil => simp
  | cons a as ih => rw [run_cons, ih, hδ, sumAlong_cons, add_assoc]

/-- **Potential rule.** If each step that satisfies `P` pays for its `δ` with a potential `m`, the
sum of the `δ` along a run is at most what the potential has lost. -/
theorem sumAlong_add_le [Preorder G] [IsOrderedAddMonoid G] {m : σ → G} {δ : σ → α → G}
    (hδ : ∀ s a, P s a → δ s a + m (step s a) ≤ m s)
    (hP : Along step P s as) : sumAlong step δ s as + m (run step s as) ≤ m s := by
  induction as generalizing s with
  | nil => simp
  | cons a as ih =>
    calc sumAlong step δ s (a :: as) + m (run step s (a :: as))
        = δ s a + (sumAlong step δ (step s a) as + m (run step (step s a) as)) := by
          rw [sumAlong_cons, run_cons, add_assoc]
      _ ≤ δ s a + m (step s a) := by gcongr; exact ih hP.2
      _ ≤ m s := hδ s a hP.1

/-- The potential rule from below: if no step loses more of the potential than its `δ`, neither does
a run. -/
theorem le_sumAlong_add [Preorder G] [IsOrderedAddMonoid G] {m : σ → G} {δ : σ → α → G}
    (hδ : ∀ s a, P s a → m s ≤ δ s a + m (step s a))
    (hP : Along step P s as) : m s ≤ sumAlong step δ s as + m (run step s as) :=
  sumAlong_add_le (G := Gᵒᵈ) hδ hP

theorem map_sumAlong {H : Type*} [AddCommMonoid H] (f : G →+ H) (δ : σ → α → G) (s : σ)
    (as : List α) : f (sumAlong step δ s as) = sumAlong step (fun s a => f (δ s a)) s as := by
  induction as generalizing s with
  | nil => simp
  | cons a as ih => rw [sumAlong_cons, sumAlong_cons, map_add, ih]

theorem sumAlong_sub {G : Type*} [AddCommGroup G] (δ ε : σ → α → G) (s : σ) (as : List α) :
    sumAlong step (fun s a => δ s a - ε s a) s as =
      sumAlong step δ s as - sumAlong step ε s as := by
  induction as generalizing s with
  | nil => simp
  | cons a as ih => rw [sumAlong_cons, sumAlong_cons, sumAlong_cons, ih, add_sub_add_comm]

/-- **Exact measure rule.** If each step changes a measure by its `δ` less its `lost`, then the
measure has changed by the sum of the `δ` after every part of a run if and only if no step of the
run loses anything. -/
theorem measure_run_iff {G : Type*} [AddCommGroup G] {m : σ → G} {δ lost : σ → α → G}
    (hstep : ∀ s a, inv s → inv (step s a))
    (hδ : ∀ s a, inv s → m (step s a) = m s + (δ s a - lost s a))
    (hs : inv s) :
    (∀ pre, pre <+: as → m (run step s pre) = m s + sumAlong step δ s pre) ↔
      Along step (fun s a => lost s a = 0) s as := by
  induction as generalizing s with
  | nil =>
    refine ⟨fun _ => trivial, fun _ pre hpre => ?_⟩
    rw [prefix_nil.mp hpre, run_nil, sumAlong_nil, add_zero]
  | cons a as ih =>
    rw [along_cons, ← ih (hstep s a hs)]
    constructor
    · intro h
      have hfirst := h [a] (prefix_append [a] as)
      rw [run_cons, run_nil, sumAlong_cons, sumAlong_nil, add_zero, hδ s a hs] at hfirst
      have hlost : lost s a = 0 := sub_eq_self.mp (add_left_cancel hfirst)
      refine ⟨hlost, fun pre hpre => ?_⟩
      have hrest := h (a :: pre) (cons_prefix_cons.mpr ⟨rfl, hpre⟩)
      rw [run_cons, sumAlong_cons] at hrest
      rw [hrest, hδ s a hs, hlost, sub_zero, add_assoc]
    · rintro ⟨hlost, h⟩ pre hpre
      cases pre with
      | nil => rw [run_nil, sumAlong_nil, add_zero]
      | cons b pre =>
        obtain ⟨rfl, hrest⟩ := cons_prefix_cons.mp hpre
        rw [run_cons, sumAlong_cons, h pre hrest, hδ s b hs, hlost, sub_zero, add_assoc]

end StepSystem
