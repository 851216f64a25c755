import Mathlib.Data.List.AList
import Mathlib.Data.List.Induction

/-!
# Finite maps

The maps of the Go language: finitely many keys with one value each, read with a default for a
missing key. A nil map and an empty one have the same reads and are one value here. Reading, setting
and deleting a key are the operations of `AList`; their lemmas are stated here with the comparison
of the keys in the conclusion.

* `GoMap.len` is the number of keys.
* `GoMap.retain p` deletes the keys that fail `p` in a loop over the map.
* `GoMap.insertSome` sets a key if there is a value for it.
* `GoMap.mapValues f` replaces each value in a loop over the map.
* `GoMap.ofList key l` sets each element of a list at its key.
-/

abbrev GoMap (κ : Type*) (ν : Type*) := AList fun _ : κ => ν

namespace GoMap

open List Option AList

variable {κ ν : Type*}

def len (m : GoMap κ ν) : ℕ := m.entries.length

def retain (p : κ → Bool) (m : GoMap κ ν) : GoMap κ ν where
  entries := m.entries.filter fun e => p e.1
  nodupKeys := m.nodupKeys.sublist List.filter_sublist

def mapValues {ν' : Type*} (f : κ → ν → ν') (m : GoMap κ ν) : GoMap κ ν' where
  entries := m.entries.map fun e => ⟨e.1, f e.1 e.2⟩
  nodupKeys := by
    have hkeys : (m.entries.map fun e => (⟨e.1, f e.1 e.2⟩ : (_ : κ) × ν')).keys =
        m.entries.keys := List.map_map
    rw [List.NodupKeys, hkeys]
    exact m.nodupKeys

variable [DecidableEq κ]

def ofList {α : Type*} (key : α → κ) (l : List α) : GoMap κ α :=
  l.foldl (fun m a => m.insert (key a) a) ∅

def insertSome (m : GoMap κ ν) (k : κ) : Option ν → GoMap κ ν
  | some v => m.insert k v
  | none => m

theorem lookup_insert (m : GoMap κ ν) (k k' : κ) (v : ν) :
    (m.insert k v).lookup k' = if k' = k then some v else m.lookup k' := by
  by_cases h : k' = k
  · rw [h, if_pos rfl, AList.lookup_insert]
  · rw [if_neg h, lookup_insert_ne h]

theorem lookup_erase (m : GoMap κ ν) (k k' : κ) :
    (m.erase k).lookup k' = if k' = k then none else m.lookup k' := by
  by_cases h : k' = k
  · rw [h, if_pos rfl, AList.lookup_erase]
  · rw [if_neg h, lookup_erase_ne h]

theorem lookup_retain (p : κ → Bool) (m : GoMap κ ν) (k : κ) :
    (retain p m).lookup k = if p k then m.lookup k else none := by
  have hmem : ∀ v, (⟨k, v⟩ : (_ : κ) × ν) ∈ (retain p m).entries ↔
      p k = true ∧ (⟨k, v⟩ : (_ : κ) × ν) ∈ m.entries := by
    intro v
    rw [retain, mem_filter, and_comm]
  ext v
  rw [← mem_def, mem_lookup_iff, hmem]
  by_cases hp : p k
  · simp only [hp, true_and]
    exact mem_lookup_iff.symm
  · simp [hp]

theorem lookup_insertSome (m : GoMap κ ν) (k k' : κ) (v : Option ν) :
    (m.insertSome k v).lookup k' = if k' = k then v.or (m.lookup k') else m.lookup k' := by
  cases v with
  | none => simp [insertSome]
  | some v => rw [insertSome, lookup_insert, some_or]

/-- A map that has, at each position of a list, the value of the element there is extended to one
more element by setting the next position. -/
theorem lookup_insertSome_concat {α : Type*} {m : GoMap ℕ ν} {l : List α} {f : α → Option ν}
    (hm : ∀ j, m.lookup j = l[j]?.bind f) (a : α) (j : ℕ) :
    (m.insertSome l.length (f a)).lookup j = (l ++ [a])[j]?.bind f := by
  rw [lookup_insertSome, hm]
  by_cases hj : j = l.length
  · simp [hj]
  rw [if_neg hj]
  congr 1
  by_cases hlt : j < l.length
  · rw [getElem?_append_left hlt]
  · have hge : l.length + 1 ≤ j := by omega
    rw [getElem?_eq_none (by omega), getElem?_eq_none (by simpa using hge)]

theorem lookup_mapValues {ν' : Type*} (f : κ → ν → ν') (m : GoMap κ ν) (k : κ) :
    (m.mapValues f).lookup k = (m.lookup k).map (f k) := by
  ext v
  rw [← mem_def, mem_lookup_iff, map_eq_some_iff]
  constructor
  · intro h
    obtain ⟨e, he, heq⟩ := mem_map.mp h
    cases heq
    exact ⟨e.2, mem_lookup_iff.mpr he, rfl⟩
  · rintro ⟨w, hw, rfl⟩
    exact mem_map.mpr ⟨⟨k, w⟩, mem_lookup_iff.mp hw, rfl⟩

theorem lookup_ofList {α : Type*} {key : α → κ} {l : List α} (hkeys : (l.map key).Nodup) {k : κ}
    {a : α} : (ofList key l).lookup k = some a ↔ a ∈ l ∧ key a = k := by
  induction l using reverseRecOn with
  | nil => simp [ofList]
  | append_singleton l b ih =>
    rw [map_append, nodup_append] at hkeys
    rw [ofList, foldl_append, foldl_cons, foldl_nil, ← ofList, lookup_insert]
    by_cases hk : k = key b
    · have hother : ¬ (a ∈ l ∧ key a = k) := fun ⟨hmem, hkey⟩ => hkeys.2.2 _ (mem_map_of_mem hmem) _
        (mem_map_of_mem (mem_singleton_self b)) (hkey.trans hk)
      rw [if_pos hk, some.injEq, mem_append, mem_singleton, or_and_right, or_iff_right hother]
      exact ⟨fun heq => heq ▸ ⟨rfl, hk.symm⟩, fun h => h.1.symm⟩
    · rw [if_neg hk, ih hkeys.1, mem_append, mem_singleton, or_and_right, or_iff_left]
      rintro ⟨rfl, hkey⟩
      exact hk hkey.symm

theorem lookup_eq_none_of_len_eq_zero {m : GoMap κ ν} (h : m.len = 0) (k : κ) :
    m.lookup k = none := by
  rw [AList.lookup_eq_none, AList.mem_keys, AList.keys, List.eq_nil_of_length_eq_zero h]
  exact not_mem_nil

end GoMap
