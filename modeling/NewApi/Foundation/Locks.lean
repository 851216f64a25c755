import Mathlib.Data.List.Basic

/-!
# Locks held by a pool of threads

A pool is a list of thread states, and `holds` gives the locks that a thread holds in its state. A
thread takes a lock only when no thread of the pool holds it, so no two threads ever hold the same
one.
-/

namespace Locks

open List

universe u v

variable {τ : Type u} {ρ : Type v} (holds : τ → List ρ)

def Free (pool : List τ) (r : ρ) : Prop := ∀ t ∈ pool, r ∉ holds t

instance [DecidableEq ρ] (pool : List τ) (r : ρ) : Decidable (Free holds pool r) :=
  inferInstanceAs (Decidable (∀ t ∈ pool, r ∉ holds t))

def Exclusive (pool : List τ) : Prop :=
  ∀ (i j : ℕ) t t' r, pool[i]? = some t → pool[j]? = some t' → r ∈ holds t → r ∈ holds t' → i = j

variable {holds} {pool : List τ} {t : τ}

variable (h : Exclusive holds pool)
include h

theorem Exclusive.set {k : ℕ} {t' : τ}
    (hk : pool[k]? = some t) (hnew : ∀ r ∈ holds t', r ∈ holds t ∨ Free holds pool r) :
    Exclusive holds (pool.set k t') := by
  have hlt : k < pool.length := (List.getElem?_eq_some_iff.mp hk).1
  -- a lock of the moved thread is held by no other thread
  have hmoved : ∀ (j : ℕ) u r, j ≠ k → pool[j]? = some u → r ∈ holds t' → r ∉ holds u := by
    intro j u r hne hj hr hu
    obtain hold | hfree := hnew r hr
    · exact hne (h j k u t r hj hk hu hold)
    · exact hfree u (mem_of_getElem? hj) hu
  intro i j a b r hi hj ha hb
  by_cases hik : i = k
  · by_cases hjk : j = k
    · exact hik.trans hjk.symm
    rw [getElem?_set_ne (Ne.symm hjk)] at hj
    subst hik
    rw [getElem?_set_self hlt] at hi
    obtain rfl := Option.some.inj hi
    exact absurd hb (hmoved j b r hjk hj ha)
  · rw [getElem?_set_ne (Ne.symm hik)] at hi
    by_cases hjk : j = k
    · subst hjk
      rw [getElem?_set_self hlt] at hj
      obtain rfl := Option.some.inj hj
      exact absurd ha (hmoved i a r hik hi hb)
    · rw [getElem?_set_ne (Ne.symm hjk)] at hj
      exact h i j a b r hi hj ha hb

theorem Exclusive.append (ht : holds t = []) : Exclusive holds (pool ++ [t]) := by
  -- a thread with a lock is an old one
  have hold : ∀ (i : ℕ) u r, (pool ++ [t])[i]? = some u → r ∈ holds u → pool[i]? = some u := by
    intro i u r hi hr
    rw [getElem?_append] at hi
    split_ifs at hi
    · exact hi
    · obtain rfl := mem_singleton.mp (mem_of_getElem? hi)
      rw [ht] at hr
      cases hr
  intro i j a b r hi hj ha hb
  exact h i j a b r (hold i a r hi ha) (hold j b r hj hb) ha hb

theorem Exclusive.notMem {k j : ℕ} {u : τ} {r : ρ}
    (hk : pool[k]? = some t) (hj : pool[j]? = some u) (hne : j ≠ k) (hr : r ∈ holds t) :
    r ∉ holds u :=
  fun hu => hne (h j k u t r hj hk hu hr)

end Locks
