import Mathlib.Data.List.Dedup
import Mathlib.Data.List.Sort

/-!
# Tiers of equal priority

The distinct priorities of a list in descending order are its levels. The tier of a number is the
part of the list with the priority of that level, or with the lowest one if there are fewer levels.
-/

namespace PriorityTier

open List

variable {α β P : Type*} [LinearOrder P]

def levels (priority : α → P) (l : List α) : List P :=
  (l.map priority).dedup.insertionSort (· ≥ ·)

def levelAt (ls : List P) (n : ℕ) : Option P :=
  ls[if n ≥ ls.length then ls.length - 1 else n]?

def tier (priority : α → P) (l : List α) (n : ℕ) : List α :=
  l.filter fun a => levelAt (levels priority l) n = some (priority a)

variable {priority : α → P} {l : List α} {n : ℕ} {a : α}

theorem mem_levels {p : P} : p ∈ levels priority l ↔ ∃ a ∈ l, priority a = p := by
  rw [levels, mem_insertionSort, mem_dedup, mem_map]

theorem levels_eq_nil_iff : levels priority l = [] ↔ l = [] := by
  constructor
  · intro h
    refine eq_nil_iff_forall_not_mem.mpr fun a ha => ?_
    have hmem : priority a ∈ levels priority l := mem_levels.mpr ⟨a, ha, rfl⟩
    rw [h] at hmem
    cases hmem
  · rintro rfl
    rfl

omit [LinearOrder P] in
theorem levelAt_eq (ls : List P) (n : ℕ) : levelAt ls n = ls[min n (ls.length - 1)]? := by
  rw [levelAt]
  congr 1
  split <;> omega

theorem levels_congr {priority' : β → P} {l' : List β}
    (h : ∀ p, (∃ a ∈ l, priority a = p) ↔ ∃ b ∈ l', priority' b = p) :
    levels priority l = levels priority' l' := by
  refine List.Perm.eq_of_pairwise (fun _ _ _ _ hab hba => le_antisymm hba hab)
    (pairwise_insertionSort (· ≥ ·) _) (pairwise_insertionSort (· ≥ ·) _) ?_
  have hperm : (l.map priority).dedup.Perm (l'.map priority').dedup := by
    refine (perm_ext_iff_of_nodup (nodup_dedup _) (nodup_dedup _)).mpr fun p => ?_
    rw [mem_dedup, mem_dedup, mem_map, mem_map]
    exact h p
  exact (perm_insertionSort _ _).trans (hperm.trans (perm_insertionSort _ _).symm)

variable (priority) in
theorem exists_levelAt (hl : l ≠ []) (n : ℕ) :
    ∃ a ∈ l, levelAt (levels priority l) n = some (priority a) := by
  obtain ⟨a, ha⟩ := exists_mem_of_ne_nil l hl
  have hpos : 0 < (levels priority l).length :=
    length_pos_of_mem (mem_levels.mpr ⟨a, ha, rfl⟩)
  have hlt : (if n ≥ (levels priority l).length then (levels priority l).length - 1 else n) <
      (levels priority l).length := by
    split <;> omega
  obtain ⟨b, hb, hpriority⟩ := mem_levels.mp (getElem_mem hlt)
  refine ⟨b, hb, ?_⟩
  rw [levelAt, getElem?_eq_getElem hlt, hpriority]

theorem mem_tier :
    a ∈ tier priority l n ↔ a ∈ l ∧ levelAt (levels priority l) n = some (priority a) := by
  rw [tier, mem_filter, decide_eq_true_iff]

theorem tier_ne_nil (hl : l ≠ []) (n : ℕ) : tier priority l n ≠ [] := by
  obtain ⟨a, ha, hlevel⟩ := exists_levelAt priority hl n
  exact ne_nil_of_mem (mem_tier.mpr ⟨ha, hlevel⟩)

theorem tier_eq_tier_zero (h : (levels priority l).length = 1) (n : ℕ) :
    tier priority l n = tier priority l 0 := by
  simp [tier, levelAt_eq, h]

theorem exists_mem_tier (ha : a ∈ l) : ∃ n, a ∈ tier priority l n := by
  obtain ⟨n, hn, hpriority⟩ :=
    getElem_of_mem (mem_levels.mpr ⟨a, ha, rfl⟩ : priority a ∈ levels priority l)
  have hlt : ¬ n ≥ (levels priority l).length := by omega
  refine ⟨n, mem_tier.mpr ⟨ha, ?_⟩⟩
  rw [levelAt, if_neg hlt, getElem?_eq_getElem hn, hpriority]

end PriorityTier
