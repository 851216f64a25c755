import Mathlib.Algebra.BigOperators.Group.Finset.Piecewise
import Mathlib.Algebra.Order.BigOperators.Group.List
import Mathlib.Algebra.Order.Group.Nat
import Mathlib.Algebra.Ring.Nat
import Mathlib.Data.Int.Order.Basic

/-!
# Drawing by weights

A draw walks along a list and subtracts the weights from a number, and stops at the element at which
the rest falls below a bound. The number is drawn below the sum of the weights. In an arithmetic
that wraps around the walk is the same as long as the sum of the weights is in range.
-/

namespace WeightedDraw

open List

variable {α : Type*}

def total (weight : α → ℕ) (l : List α) : ℕ := (l.map weight).sum

/-- The walk in an arithmetic that wraps around. -/
def walkIn (wrap : ℤ → ℤ) (weight : α → ℕ) (bound : ℤ) : List α → ℤ → Option α
  | [], _ => none
  | a :: l, rest =>
    if wrap (rest - weight a) < bound then some a
    else walkIn wrap weight bound l (wrap (rest - weight a))

def walk (weight : α → ℕ) (bound : ℤ) : List α → ℤ → Option α := walkIn id weight bound

variable {weight : α → ℕ} {bound : ℤ} {l : List α} {a : α}

theorem walk_cons (a : α) (l : List α) (rest : ℤ) : walk weight bound (a :: l) rest =
    if rest - weight a < bound then some a else walk weight bound l (rest - weight a) := rfl

theorem total_cons (a : α) (l : List α) : total weight (a :: l) = weight a + total weight l := by
  rw [total, map_cons, sum_cons, total]

theorem total_affine (factor shift : ℕ) (l : List α) :
    total (fun a => weight a * factor + shift) l = total weight l * factor + l.length * shift := by
  induction l with
  | nil => simp [total]
  | cons a l ih =>
    rw [total_cons, total_cons, length_cons]
    simp only [add_mul]
    omega

theorem total_le_of_subperm {l' : List α} (h : l.Subperm l') :
    total weight l ≤ total weight l' := by
  obtain ⟨m, hperm, hsub⟩ := h
  rw [total, ← (hperm.map weight).sum_eq]
  exact (hsub.map weight).sum_le_sum fun _ _ => Nat.zero_le _

theorem eq_zero_of_total_eq_zero (h : total weight l = 0) (ha : a ∈ l) : weight a = 0 :=
  List.forall_mem_map.mp (List.sum_eq_zero_iff_forall_eq_nat.mp h) a ha

theorem total_eq_zero (h : ∀ a ∈ l, weight a = 0) : total weight l = 0 :=
  List.sum_eq_zero_iff_forall_eq_nat.mpr (List.forall_mem_map.mpr h)

variable {rest : ℤ}

theorem mem_of_walkIn {wrap : ℤ → ℤ} (h : walkIn wrap weight bound l rest = some a) : a ∈ l := by
  induction l generalizing rest with
  | nil => cases h
  | cons b l ih =>
    rw [walkIn] at h
    split at h
    · rw [← Option.some.inj h]
      exact mem_cons_self
    · exact mem_cons_of_mem b (ih h)

theorem walkIn_eq {wrap : ℤ → ℤ} {n : ℤ} (hwrap : ∀ k, -n ≤ k → k < n → wrap k = k)
    (hbound : 0 ≤ bound) (hl : (total weight l : ℤ) ≤ n) (hrest : 0 ≤ rest) (hlt : rest < n) :
    walkIn wrap weight bound l rest = walk weight bound l rest := by
  induction l generalizing rest with
  | nil => rfl
  | cons a l ih =>
    rw [total_cons] at hl
    rw [walkIn, walk_cons, hwrap _ (by omega) (by omega)]
    split
    · rfl
    · exact ih (by omega) (by omega) (by omega)

theorem weight_pos_of_walk (hrest : bound ≤ rest)
    (h : walk weight bound l rest = some a) : 0 < weight a := by
  induction l generalizing rest with
  | nil => cases h
  | cons b l ih =>
    rw [walk_cons] at h
    split at h
    · rw [← Option.some.inj h]
      omega
    · exact ih (by omega) h

theorem exists_walk_of_lt (hbound : 0 ≤ bound) (hrest : 0 ≤ rest)
    (h : rest < total weight l) : ∃ a, walk weight bound l rest = some a := by
  induction l generalizing rest with
  | nil =>
    simp only [total, map_nil, sum_nil] at h
    omega
  | cons b l ih =>
    rw [total_cons] at h
    rw [walk_cons]
    split
    · exact ⟨b, rfl⟩
    · exact ih (by omega) (by omega)

theorem exists_walk (hbound : 0 ≤ bound) (ha : a ∈ l) (hweight : bound < weight a) :
    ∃ draw : ℕ, draw < total weight l ∧ walk weight bound l draw = some a := by
  -- Along the elements before the one drawn the rest stays at the bound or above.
  have hdraw : ∃ draw : ℕ, bound ≤ draw ∧ draw < total weight l ∧
      walk weight bound l draw = some a := by
    induction l with
    | nil => cases ha
    | cons b l ih =>
      rw [total_cons]
      rcases mem_cons.mp ha with rfl | hmem
      · refine ⟨bound.toNat, by omega, by omega, ?_⟩
        rw [walk_cons, if_pos (by omega)]
      obtain ⟨draw, hle, hlt, hwalk⟩ := ih hmem
      have hrest : ((weight b + draw : ℕ) : ℤ) - weight b = draw := by omega
      refine ⟨weight b + draw, by omega, by omega, ?_⟩
      rw [walk_cons, hrest, if_neg (by omega), hwalk]
  obtain ⟨draw, -, hlt, hwalk⟩ := hdraw
  exact ⟨draw, hlt, hwalk⟩

/-- **Exact shares.** Of the numbers below the sum of the weights as many lead to an element as its
weight says, for each time that it is in the list. -/
theorem countP_walk [DecidableEq α] (weight : α → ℕ) (l : List α) (a : α) :
    ((List.range (total weight l)).countP fun draw => walk weight 0 l (draw : ℕ) = some a) =
      l.count a * weight a := by
  induction l with
  | nil => simp [total]
  | cons b l ih =>
    have hfirst : ((range (weight b)).countP fun draw =>
        walk weight 0 (b :: l) (draw : ℕ) = some a) = if b = a then weight a else 0 := by
      have hwalk : ∀ draw ∈ range (weight b), walk weight 0 (b :: l) (draw : ℕ) = some b := by
        intro draw hdraw
        have hlt := mem_range.mp hdraw
        rw [walk_cons, if_pos (by omega)]
      rw [countP_congr fun draw hdraw => by rw [hwalk draw hdraw]]
      by_cases hab : b = a
      all_goals simp [hab]
    have hrest : ((fun draw : ℕ => decide (walk weight 0 (b :: l) (draw : ℕ) = some a)) ∘
        (weight b + ·)) = fun draw => decide (walk weight 0 l (draw : ℕ) = some a) := by
      funext draw
      have hsub : ((weight b + draw : ℕ) : ℤ) - weight b = draw := by omega
      simp only [Function.comp_apply, walk_cons, hsub]
      rw [if_neg (by omega)]
    rw [total_cons, range_add, countP_append, hfirst, countP_map, hrest, ih]
    by_cases hab : b = a
    · simp [hab, add_mul, add_comm]
    · simp [hab]

theorem walk_add_one (weight : α → ℕ) (bound : ℤ) (l : List α) (rest : ℤ) :
    walk weight (bound + 1) l (rest + 1) = walk weight bound l rest := by
  induction l generalizing rest with
  | nil => rfl
  | cons a l ih =>
    have hshift : rest + 1 - weight a = rest - weight a + 1 := by omega
    rw [walk_cons, walk_cons, hshift, ih]
    simp

theorem walk_total_sub_one (hpos : ∀ a ∈ l, 0 < weight a) (hne : l ≠ []) :
    walk weight 0 l (total weight l - 1) = l.getLast? := by
  induction l with
  | nil => exact absurd rfl hne
  | cons a l ih =>
    have hsub : ((total weight (a :: l) : ℕ) : ℤ) - 1 - weight a = total weight l - 1 := by
      rw [total_cons]
      omega
    rw [walk_cons, hsub]
    cases l with
    | nil => rfl
    | cons b l =>
      have hb : 0 < weight b := hpos b (by simp)
      rw [if_neg (by rw [total_cons]; omega), getLast?_cons_cons]
      exact ih (fun c hc => hpos c (mem_cons_of_mem a hc)) (by simp)

/-- **Shares with the bound one.** A walk that also stops when nothing is left takes one number from
the last element and gives one more to the first. -/
theorem countP_walk_one [DecidableEq α] (hpos : ∀ a ∈ l, 0 < weight a) (a : α) :
    ((List.range (total weight l)).countP fun draw => walk weight 1 l (draw : ℕ) = some a) +
        (if l.getLast? = some a then 1 else 0) =
      l.count a * weight a + if l.head? = some a then 1 else 0 := by
  rcases l with - | ⟨b, l⟩
  · simp [total]
  obtain ⟨n, hn⟩ : ∃ n, total weight (b :: l) = n + 1 := by
    have hb := hpos b mem_cons_self
    exact Nat.exists_eq_add_one.mpr (by rw [total_cons]; omega)
  have hlast : walk weight 0 (b :: l) (n : ℕ) = (b :: l).getLast? := by
    rw [← walk_total_sub_one hpos (by simp), hn, Int.natCast_succ, Int.add_sub_cancel]
  have hzero : walk weight 1 (b :: l) (0 : ℕ) = some b := by
    rw [walk_cons, if_pos (by omega)]
  have hsucc : ((fun draw : ℕ => decide (walk weight 1 (b :: l) (draw : ℕ) = some a)) ∘
      Nat.succ) = fun draw => decide (walk weight 0 (b :: l) (draw : ℕ) = some a) := by
    funext draw
    have hwalk : walk weight 1 (b :: l) (draw.succ : ℕ) = walk weight 0 (b :: l) (draw : ℕ) :=
      walk_add_one weight 0 (b :: l) draw
    rw [Function.comp_apply, hwalk]
  have hexact := countP_walk weight (b :: l) a
  rw [hn, range_succ, countP_append, countP_singleton, hlast] at hexact
  rw [hn, range_succ_eq_map, countP_cons, countP_map, hsucc, hzero, ← hexact, head?_cons]
  simp only [decide_eq_true_eq]
  omega

/-- However the numbers are attributed, the shares add up to at most as many as there are. -/
theorem sum_countP_le {κ : Type*} [DecidableEq κ] (pick : ℕ → Option κ) (s : Finset κ) (n : ℕ) :
    ∑ k ∈ s, (List.range n).countP (fun draw => pick draw = some k) ≤ n := by
  induction n with
  | zero => simp
  | succ n ih =>
    have hlast : ∑ k ∈ s, (if pick n = some k then 1 else 0) ≤ 1 := by
      cases pick n with
      | none => simp
      | some k =>
        simp only [Option.some.injEq, Finset.sum_ite_eq]
        split <;> omega
    simp only [List.range_succ, countP_append, countP_singleton, decide_eq_true_eq,
      Finset.sum_add_distrib]
    omega

theorem total_le_of_shares [DecidableEq α] {pick : ℕ → Option α} {n : ℕ}
    (h : ∀ a ∈ l, ((List.range n).countP fun draw => pick draw = some a) =
      l.count a * weight a) : total weight l ≤ n := by
  rw [total, Finset.sum_list_map_count]
  refine le_of_eq_of_le (Finset.sum_congr rfl fun a ha => ?_) (sum_countP_le pick l.toFinset n)
  rw [h a (mem_toFinset.mp ha), Nat.nsmul_eq_mul]

theorem total_le_of_shares_of_nodup {κ : Type*} [DecidableEq κ] {key : α → κ}
    (hkeys : (l.map key).Nodup) {pick : ℕ → Option κ} {n : ℕ}
    (h : ∀ a ∈ l, ((List.range n).countP fun draw => pick draw = some (key a)) = weight a) :
    total weight l ≤ n := by
  have hle := sum_countP_le pick (l.map key).toFinset n
  rw [List.sum_toFinset _ hkeys, List.map_map] at hle
  rwa [total, ← map_congr_left h]

end WeightedDraw
