import Mathlib.Algebra.BigOperators.Group.List.Basic
import Mathlib.Algebra.Ring.Int.Defs

/-!
# Sums over a pool of threads

A pool is a list of thread states. A quantity of the pool is the sum of what each thread holds; when
one thread moves, the sum moves by the difference of what that thread holds.

## Main results

* `Pool.total_set`, `Pool.total_append`: the total after one thread moved, and after one was added.
* `Pool.forall_mem_set`
* `Pool.countP_set_add`
-/

namespace Pool

open List

universe u

variable {τ : Type u} (held : τ → Int)

def total (pool : List τ) : Int := (pool.map held).sum

@[simp] theorem total_nil : total held [] = 0 := rfl

@[simp] theorem total_cons (t : τ) (pool : List τ) :
    total held (t :: pool) = held t + total held pool := by
  simp [total]

theorem total_append (pool pool' : List τ) :
    total held (pool ++ pool') = total held pool + total held pool' := by
  simp [total]

variable {pool : List τ} {k : ℕ}

theorem total_set {t : τ} (hk : pool[k]? = some t) (t' : τ) :
    total held (pool.set k t') = total held pool - held t + held t' := by
  induction pool generalizing k with
  | nil => simp at hk
  | cons t₀ pool ih =>
    cases k with
    | zero =>
      obtain rfl : t₀ = t := by simpa using hk
      simp only [set_cons_zero, total_cons]
      omega
    | succ k =>
      simp only [set_cons_succ, total_cons, ih hk]
      omega

/-- When thread `k` moves from `t` to `t'`, the number of threads with the property `p` changes by
what these two count. -/
theorem countP_set_add {p : τ → Bool} {t : τ} (hk : pool[k]? = some t)
    (t' : τ) : (pool.set k t').countP p + (p t).toNat = pool.countP p + (p t').toNat := by
  obtain ⟨hlt, rfl⟩ := List.getElem?_eq_some_iff.mp hk
  have hle : (p pool[k]).toNat ≤ pool.countP p := by
    cases hp : p pool[k] with
    | false => exact Nat.zero_le _
    | true => exact countP_pos_iff.mpr ⟨pool[k], getElem_mem hlt, hp⟩
  have hif : ∀ b : Bool, (if b = true then 1 else 0) = b.toNat := by decide
  rw [countP_set hlt, hif, hif]
  omega

/-- After thread `k` has moved to `t'`, each thread is an old one at its place, or `t'`. -/
theorem getElem?_set_cases {pool : List τ} {k j : ℕ} {t' u : τ} (h : (pool.set k t')[j]? = some u) :
    pool[j]? = some u ∨ u = t' := by
  by_cases hjk : k = j
  · subst hjk
    rw [getElem?_set_self'] at h
    obtain ⟨_, -, rfl⟩ := Option.map_eq_some_iff.mp h
    exact .inr rfl
  · rw [getElem?_set_ne hjk] at h
    exact .inl h

theorem forall_mem_set {Q : τ → Prop} {t' : τ}
    (hothers : ∀ (j : ℕ) u, j ≠ k → pool[j]? = some u → Q u) (hmoved : Q t') :
    ∀ u ∈ pool.set k t', Q u := by
  intro u hu
  obtain ⟨j, hj⟩ := mem_iff_getElem?.mp hu
  by_cases hjk : k = j
  · subst hjk
    rw [getElem?_set] at hj
    simp only [if_true] at hj
    split_ifs at hj
    obtain rfl := Option.some.inj hj
    exact hmoved
  · rw [getElem?_set_ne hjk] at hj
    exact hothers j u (Ne.symm hjk) hj

end Pool
