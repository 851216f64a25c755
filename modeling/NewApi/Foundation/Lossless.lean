import Mathlib.Data.List.Flatten

/-!
# Translations that may drop parts of an item

A translation works item by item: `whole x` is what an item carries and `kept x` what is left of it.
When the parts of each item that are left keep their order, nothing is lost of a list of items
exactly when nothing is lost of any of them.
-/

namespace NewApi.Lossless

open List

variable {α β : Type*} {kept whole : α → List β}

theorem flatMap_sublist (hsub : ∀ x, (kept x).Sublist (whole x)) (l : List α) :
    (l.flatMap kept).Sublist (l.flatMap whole) := by
  induction l with
  | nil => exact List.Sublist.refl _
  | cons x l ih =>
    exact (hsub x).append ih

/-- **Losing nothing is a matter of single items.** -/
theorem flatMap_eq_flatMap_iff (hsub : ∀ x, (kept x).Sublist (whole x)) {l : List α} :
    l.flatMap kept = l.flatMap whole ↔ ∀ x ∈ l, kept x = whole x := by
  induction l with
  | nil => simp
  | cons x l ih =>
    rw [flatMap_cons, flatMap_cons, forall_mem_cons, ← ih]
    constructor
    · intro h
      -- Neither half can be longer than before, so both keep their length.
      have htotal := congrArg length h
      have hhead := (hsub x).length_le
      have htail := (flatMap_sublist hsub l).length_le
      rw [length_append, length_append] at htotal
      exact append_inj h (by omega)
    · rintro ⟨hhead, htail⟩
      rw [hhead, htail]

theorem flatMap_ite_eq_flatMap_iff {p : α → Prop} [DecidablePred p] {l : List α} :
    (l.flatMap fun x => if p x then whole x else []) = l.flatMap whole ↔
      ∀ x ∈ l, ¬ p x → whole x = [] := by
  have hsub (x : α) : (if p x then whole x else []).Sublist (whole x) := by
    split
    · exact List.Sublist.refl _
    · exact nil_sublist _
  rw [flatMap_eq_flatMap_iff hsub]
  refine forall₂_congr fun x _ => ?_
  by_cases hp : p x
  all_goals simp [hp]

end NewApi.Lossless
