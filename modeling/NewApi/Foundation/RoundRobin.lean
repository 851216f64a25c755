import Mathlib.Data.List.Rotate

/-!
# Taking turns on a ring

The positions of a ring are visited in cyclic order, and those that are eligible take their turn.
Each turn starts after the position of the last one. The eligible positions then come up in the
order in which they lie on the ring, and again from the first one once all have had a turn.
-/

namespace RoundRobin

open List

variable {p : ℕ → Bool} {n start idx : ℕ}

theorem map_eq_rotate (n start : ℕ) :
    ((List.range n).map fun i => (start + i) % n) = (List.range n).rotate start := by
  refine ext_getElem (by simp) fun i _ _ => ?_
  simp [Nat.add_comm]

theorem filter_rotate (l : List ℕ) (k : ℕ) :
    ∃ j, (l.rotate k).filter p = (l.filter p).rotate j := by
  refine ⟨((l.take (k % l.length)).filter p).length, ?_⟩
  rw [rotate_eq_drop_append_take_mod, filter_append, ← rotate_append_length_eq,
    ← filter_append, take_append_drop]

/-- **One turn.** The first eligible position from `start` on is the next one in turn, and from the
position after it on it is the last one. -/
theorem find?_ring {rest : List ℕ} (h : ((List.range n).rotate start).filter p = idx :: rest) :
    ((List.range n).rotate start).find? p = some idx ∧
      ((List.range n).rotate ((idx + 1) % n)).filter p = rest ++ [idx] := by
  obtain ⟨before, after, hring, hbefore, hidx, hafter⟩ := filter_eq_cons_iff.mp h
  have hat : idx = (start + before.length) % n := by
    have hget : ((range n).rotate start)[before.length]? = some idx := by simp [hring]
    obtain ⟨hlt, hget⟩ := List.getElem?_eq_some_iff.mp hget
    simpa [Nat.add_comm, eq_comm] using hget
  have hnext : (range n).rotate ((idx + 1) % n) = after ++ (before ++ [idx]) := by
    calc (range n).rotate ((idx + 1) % n)
        = (range n).rotate ((start + (before ++ [idx]).length) % (range n).length) := by
          rw [hat, length_range, length_append, length_singleton, Nat.mod_add_mod, Nat.add_assoc]
      _ = (before ++ [idx] ++ after).rotate (before ++ [idx]).length := by
          rw [rotate_mod, ← rotate_rotate, hring, append_assoc, singleton_append]
      _ = after ++ (before ++ [idx]) := rotate_append_length_eq _ _
  constructor
  · rw [hring, find?_append, find?_eq_none.mpr hbefore, Option.none_or, find?_cons_of_pos hidx]
  · rw [hnext, filter_append, filter_append, hafter, filter_eq_nil_iff.mpr hbefore,
      filter_singleton, hidx]
    rfl

end RoundRobin
