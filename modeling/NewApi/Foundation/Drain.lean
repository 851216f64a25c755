import Mathlib.Data.List.Infix

/-!
# Draining a list in batches

A batch takes the first `limit` elements of a list. Some of them move out of the list, some are
counted, and another batch follows if all of a full batch were counted. An element may hang, and
then its batch never returns.
-/

namespace Drain

open List

variable {α : Type*} (limit : ℕ) (moves counted hangs : α → Prop) [DecidablePred moves]

def remaining (l : List α) : List α := (l.take limit).filter (fun x => ¬ moves x) ++ l.drop limit

def Full (l : List α) : Prop := limit ≤ l.length ∧ ∀ x ∈ l.take limit, counted x

inductive Ends : List α → Prop
  | last {l : List α} : (∀ x ∈ l.take limit, ¬ hangs x) → ¬ Full limit counted l → Ends l
  | batch {l : List α} : (∀ x ∈ l.take limit, ¬ hangs x) → Full limit counted l →
      Ends (remaining limit moves l) → Ends l

inductive Reached : List α → List α → Prop
  | refl (l : List α) : Reached l l
  | batch {l l' : List α} : (∀ x ∈ l.take limit, ¬ hangs x) → Full limit counted l →
      Reached (remaining limit moves l) l' → Reached l l'

def Stalled (l : List α) : Prop :=
  (∃ x ∈ l.take limit, hangs x) ∨ Full limit counted l ∧ ∀ x ∈ l.take limit, ¬ moves x

variable {limit moves counted hangs} {l : List α}

theorem remaining_sublist (l : List α) : List.Sublist (remaining limit moves l) l := by
  have happend : List.Sublist (remaining limit moves l) (l.take limit ++ l.drop limit) :=
    filter_sublist.append (List.Sublist.refl _)
  rwa [take_append_drop] at happend

theorem mem_remaining (hnodup : l.Nodup) {x : α} :
    x ∈ remaining limit moves l ↔ x ∈ l ∧ ¬ (x ∈ l.take limit ∧ moves x) := by
  have hsplit : x ∈ l ↔ x ∈ l.take limit ∨ x ∈ l.drop limit := by
    rw [← mem_append, take_append_drop]
  have hdisjoint : x ∈ l.take limit → x ∉ l.drop limit := by
    rw [← take_append_drop limit l] at hnodup
    exact fun htake hdrop => (nodup_append.mp hnodup).2.2 x htake x hdrop rfl
  rw [remaining, mem_append, mem_filter, decide_eq_true_iff]
  tauto

theorem remaining_eq_self (hnone : ∀ x ∈ l.take limit, ¬ moves x) :
    remaining limit moves l = l := by
  have hfilter : (l.take limit).filter (fun x => ¬ moves x) = l.take limit :=
    filter_eq_self.mpr fun x hx => decide_eq_true (hnone x hx)
  rw [remaining, hfilter, take_append_drop]

theorem length_remaining_lt (hmoves : ∃ x ∈ l.take limit, moves x) :
    (remaining limit moves l).length < l.length := by
  obtain ⟨x, hx, hmove⟩ := hmoves
  have hlt : ((l.take limit).filter fun x => ¬ moves x).length < (l.take limit).length :=
    length_filter_lt_length_iff_exists.mpr ⟨x, hx, by simpa using hmove⟩
  have hsplit : (l.take limit).length + (l.drop limit).length = l.length := by
    rw [← length_append, take_append_drop]
  rw [remaining, length_append]
  omega

theorem unmoved_remaining (l : List α) :
    (remaining limit moves l).filter (fun x => ¬ moves x) = l.filter fun x => ¬ moves x := by
  rw [remaining, filter_append, filter_filter]
  simp [← filter_append]

theorem not_ends_of_stalled (hstalled : Stalled limit moves counted hangs l) :
    ¬ Ends limit moves counted hangs l := by
  intro hends
  induction hends with
  | last hruns hlast =>
    rcases hstalled with ⟨x, hx, hhangs⟩ | ⟨hfull, -⟩
    · exact hruns x hx hhangs
    · exact hlast hfull
  | batch hruns hfull _ ih =>
    rcases hstalled with ⟨x, hx, hhangs⟩ | ⟨-, hnone⟩
    · exact hruns x hx hhangs
    · refine ih ?_
      rw [remaining_eq_self hnone]
      exact .inr ⟨hfull, hnone⟩

theorem ends_iff : Ends limit moves counted hangs l ↔
    ∀ l', Reached limit moves counted hangs l l' → ¬ Stalled limit moves counted hangs l' := by
  constructor
  · intro hends l' hreached
    induction hreached with
    | refl l => exact fun hstalled => not_ends_of_stalled hstalled hends
    | batch hruns hfull _ ih =>
      cases hends with
      | last _ hlast => exact absurd hfull hlast
      | batch _ _ hrest => exact ih hrest
  · -- Every batch that is not the last one moves something.
    intro hstalled
    induction hlength : l.length using Nat.strong_induction_on generalizing l with
    | _ n ih =>
      have hnot := hstalled l (.refl l)
      have hruns : ∀ x ∈ l.take limit, ¬ hangs x :=
        fun x hx hhangs => hnot (.inl ⟨x, hx, hhangs⟩)
      by_cases hfull : Full limit counted l
      · have hmoves : ∃ x ∈ l.take limit, moves x := by
          by_contra hnone
          exact hnot (.inr ⟨hfull, fun x hx hmove => hnone ⟨x, hx, hmove⟩⟩)
        have hshorter := length_remaining_lt hmoves
        exact .batch hruns hfull (ih _ (hlength ▸ hshorter)
          (fun l' hreached => hstalled l' (.batch hruns hfull hreached)) rfl)
      · exact .last hruns hfull

theorem Reached.mem {l' : List α} (hreached : Reached limit moves counted hangs l l') {x : α}
    (hx : x ∈ l') : x ∈ l := by
  induction hreached with
  | refl l => exact hx
  | batch _ _ _ ih => exact (remaining_sublist _).subset (ih hx)

theorem Reached.unmoved {l' : List α} (hreached : Reached limit moves counted hangs l l') :
    (l'.filter fun x => ¬ moves x) = l.filter fun x => ¬ moves x := by
  induction hreached with
  | refl l => rfl
  | batch _ _ _ ih => exact ih.trans (unmoved_remaining _)

variable (limit) in
theorem unmoved_eq_append (l : List α) :
    (l.filter fun x => ¬ moves x) = (l.take limit).filter (fun x => ¬ moves x) ++
      (l.drop limit).filter fun x => ¬ moves x := by
  rw [← filter_append, take_append_drop]

/-- A full batch of the elements that do not move makes the first batch of the list full. -/
theorem full_of_unmoved (hcounted : ∀ x, moves x → counted x)
    (hfull : Full limit counted (l.filter fun x => ¬ moves x)) : Full limit counted l := by
  refine ⟨hfull.1.trans (length_filter_le _ _), fun x hx => ?_⟩
  by_cases hmove : moves x
  · exact hcounted x hmove
  have hlength : ((l.take limit).filter fun x => ¬ moves x).length ≤ limit :=
    (length_filter_le _ _).trans (length_take_le _ _)
  refine hfull.2 x ?_
  rw [unmoved_eq_append limit, take_append]
  refine mem_append_left _ ?_
  rw [take_of_length_le hlength]
  exact mem_filter.mpr ⟨hx, decide_eq_true hmove⟩

/-- If nothing moves in a full batch, then the elements that do not move are enough for one. -/
theorem unmoved_full (hfull : Full limit counted l) (hnone : ∀ x ∈ l.take limit, ¬ moves x) :
    Full limit counted (l.filter fun x => ¬ moves x) := by
  have hfilter : (l.take limit).filter (fun x => ¬ moves x) = l.take limit :=
    filter_eq_self.mpr fun x hx => decide_eq_true (hnone x hx)
  have hlength : (l.take limit).length = limit := length_take_of_le hfull.1
  rw [Full, unmoved_eq_append limit, hfilter, length_append, hlength]
  refine ⟨Nat.le_add_right _ _, fun x hx => hfull.2 x ?_⟩
  rwa [take_append_of_le_length hlength.ge, take_of_length_le hlength.le] at hx

/-- Without hanging elements the batches end exactly if the elements that do not move are not enough
for a full batch. -/
theorem ends_iff_unmoved (hcounted : ∀ x, moves x → counted x) (hruns : ∀ x ∈ l, ¬ hangs x) :
    Ends limit moves counted hangs l ↔ ¬ Full limit counted (l.filter fun x => ¬ moves x) := by
  constructor
  · intro hends
    induction hends with
    | last _ hlast => exact fun hfull => hlast (full_of_unmoved hcounted hfull)
    | batch _ _ _ ih =>
      rw [← unmoved_remaining]
      exact ih fun x hx => hruns x ((remaining_sublist _).subset hx)
  · intro hunmoved
    refine ends_iff.mpr fun l' hreached hstalled => ?_
    rcases hstalled with ⟨x, hx, hhangs⟩ | ⟨hfull, hnone⟩
    · exact hruns x (hreached.mem (mem_of_mem_take hx)) hhangs
    · exact hunmoved (hreached.unmoved ▸ unmoved_full hfull hnone)

end Drain
