import Mathlib.Algebra.BigOperators.Group.List.Basic
import Mathlib.Data.List.Nodup
import Mathlib.Data.Option.Basic

/-!
# Tables of rows with a primary key

A table is a list of rows no two of which share a key. `find` reads the row of a key and `save`
replaces it, as `First` and `Save` do inside a transaction that holds the row.

## Main results

* `Table.find_save`, `Table.save_save`, `Table.save_of_find`: a save is read back, the last of two
  saves of one key wins, and saving the stored row changes nothing.
* `Table.rel_save`
* `Table.find_foldl_put_of_mem`
* `Table.total_put`
-/

universe u v

@[ext]
structure Table {κ : Type u} {ρ : Type v} (key : ρ → κ) where
  rows : List ρ
  nodup : (rows.map key).Nodup

namespace Table

open List

variable {κ : Type u} {ρ : Type v} {key : ρ → κ}

instance [DecidableEq ρ] : DecidableEq (Table key) := fun _ _ =>
  decidable_of_iff _ Table.ext_iff.symm

def keys (t : Table key) : List κ := t.rows.map key

variable [DecidableEq κ]

def find (t : Table key) (k : κ) : Option ρ :=
  t.rows.find? fun r => decide (key r = k)

private theorem map_key_replace (rows : List ρ) (row : ρ) :
    (rows.map fun r => if key r = key row then row else r).map key = rows.map key := by
  rw [map_map]
  refine map_congr_left fun r _ => ?_
  simp only [Function.comp_apply]
  split_ifs with h
  · exact h.symm
  · rfl

def save (t : Table key) (row : ρ) : Table key where
  rows := t.rows.map fun r => if key r = key row then row else r
  nodup := by
    rw [map_key_replace]
    exact t.nodup

def insert (t : Table key) (row : ρ) : Table key :=
  if h : key row ∈ t.rows.map key then t
  else ⟨row :: t.rows, by rw [List.map_cons]; exact List.nodup_cons.mpr ⟨h, t.nodup⟩⟩

variable {t : Table key} {k : κ} {r row : ρ} {R : ρ → ρ → Prop}

theorem mem_of_find (h : t.find k = some r) : r ∈ t.rows ∧ key r = k :=
  ⟨mem_of_find?_eq_some h, by simpa using find?_some h⟩

theorem find_of_mem (hr : r ∈ t.rows) : t.find (key r) = some r := by
  cases h : t.find (key r) with
  | none =>
    have hne := find?_eq_none.mp h r hr
    simp at hne
  | some r' =>
    obtain ⟨hmem, hkey⟩ := mem_of_find h
    rw [inj_on_of_nodup_map t.nodup hmem hr hkey]

theorem mem_keys_of_find (h : t.find k = some r) : k ∈ t.keys := by
  obtain ⟨hmem, rfl⟩ := mem_of_find h
  exact mem_map_of_mem hmem

@[simp]
theorem keys_save (t : Table key) (row : ρ) : (t.save row).keys = t.keys :=
  map_key_replace t.rows row

theorem find_save (h : key row ∈ t.keys) : (t.save row).find (key row) = some row := by
  obtain ⟨r, hr, hkey⟩ := mem_map.mp h
  exact find_of_mem (mem_map.mpr ⟨r, hr, if_pos hkey⟩)

variable {old : ρ}

theorem find_save_of_find (hfind : t.find k = some old) (hkey : key row = k) :
    (t.save row).find k = some row := by
  subst hkey
  exact find_save (mem_keys_of_find hfind)

theorem find_save_of_ne (h : k ≠ key row) : (t.save row).find k = t.find k := by
  cases hfind : t.find k with
  | none =>
    refine find?_eq_none.mpr fun r hr => ?_
    obtain ⟨r₀, hr₀, rfl⟩ := mem_map.mp hr
    have hne : key r₀ ≠ k := by simpa using find?_eq_none.mp hfind r₀ hr₀
    split_ifs
    · simpa using h.symm
    · simpa using hne
  | some r =>
    obtain ⟨hmem, rfl⟩ := mem_of_find hfind
    refine find_of_mem (mem_map.mpr ⟨r, hmem, if_neg ?_⟩)
    exact h

/-- A save seen from the key `k`: it relates the old row to the new one, and any other row to
itself. -/
theorem rel_save_at {k₀ : κ} (hfind : t.find k₀ = some old) (hkey : key row = k₀)
    (hrow : k = k₀ → R old row) (hother : ∀ r, k ≠ k₀ → key r = k → R r r) :
    Option.Rel R (t.find k) ((t.save row).find k) := by
  subst hkey
  by_cases hk : k = key row
  · rw [hk, hfind, find_save_of_find hfind rfl]
    exact .some (hrow hk)
  rw [find_save_of_ne hk]
  cases hr : t.find k with
  | none => exact .none
  | some r => exact .some (hother r hk (mem_of_find hr).2)

/-- Row by row, a save relates the old row to the new one and every other row to itself. -/
theorem rel_save (hfind : t.find (key row) = some old) (hrow : R old row)
    (hother : ∀ r, key r ≠ key row → R r r) (k : κ) :
    Option.Rel R (t.find k) ((t.save row).find k) :=
  rel_save_at hfind rfl (fun _ => hrow) fun r hne hr => hother r (hr ▸ hne)

/-- The relation between the rows of a key may be weakened with the knowledge of the old row. -/
theorem rel_imp {R' : ρ → ρ → Prop} {t' : Table key} (h : Option.Rel R (t.find k) (t'.find k))
    (himp : ∀ r r', t.find k = some r → R r r' → R' r r') :
    Option.Rel R' (t.find k) (t'.find k) := by
  cases hr : t.find k with
  | none =>
    rw [hr] at h
    generalize t'.find k = o at h
    cases h with
    | none => exact .none
  | some r =>
    rw [hr] at h
    generalize t'.find k = o at h
    cases h with
    | some hR => exact .some (himp _ _ hr hR)

theorem save_save (t : Table key) {row' : ρ} (h : key row = key row') :
    (t.save row).save row' = t.save row' := by
  refine Table.ext ?_
  simp only [save, map_map]
  refine map_congr_left fun r _ => ?_
  by_cases hr : key r = key row'
  all_goals simp [hr, h]

theorem save_of_find (h : t.find (key row) = some row) : t.save row = t := by
  obtain ⟨hmem, -⟩ := mem_of_find h
  refine Table.ext ?_
  refine (map_congr_left fun r hr => ?_).trans (map_id _)
  split_ifs with hkey
  · exact inj_on_of_nodup_map t.nodup hmem hr hkey.symm
  · rfl

theorem notMem_keys_of_find (h : t.find k = none) : k ∉ t.keys := by
  intro hmem
  obtain ⟨r, hr, rfl⟩ := mem_map.mp hmem
  rw [find_of_mem hr] at h
  cases h

theorem rows_insert (h : key row ∉ t.keys) : (t.insert row).rows = row :: t.rows := by
  have hkey : key row ∉ t.rows.map key := h
  simp [insert, hkey]

theorem find_insert (h : t.find (key row) = none) : (t.insert row).find (key row) = some row := by
  refine find_of_mem ?_
  rw [rows_insert (notMem_keys_of_find h)]
  exact mem_cons_self

theorem find_insert_of_find (h : t.find k = some r) : (t.insert row).find k = some r := by
  obtain ⟨hmem, rfl⟩ := mem_of_find h
  refine find_of_mem ?_
  by_cases hkey : key row ∈ t.keys
  · have hsame : t.insert row = t := dif_pos hkey
    rw [hsame]
    exact hmem
  · rw [rows_insert hkey]
    exact mem_cons_of_mem row hmem

def mapRows (t : Table key) (f : ρ → ρ) (hkey : ∀ r, key (f r) = key r) : Table key where
  rows := t.rows.map f
  nodup := by
    rw [List.map_map]
    exact (List.map_congr_left fun r _ => hkey r) ▸ t.nodup

theorem find_mapRows {f : ρ → ρ} (hkey : ∀ r, key (f r) = key r) (k : κ) :
    (t.mapRows f hkey).find k = (t.find k).map f := by
  have hsame : (fun r => decide (key r = k)) ∘ f = fun r => decide (key r = k) :=
    funext fun r => congrArg (fun k' => decide (k' = k)) (hkey r)
  rw [find, mapRows, find?_map, hsame, find]

def erase (t : Table key) (k : κ) : Table key where
  rows := t.rows.filter fun r => decide (key r ≠ k)
  nodup := t.nodup.sublist (List.filter_sublist.map _)

@[simp] theorem mem_erase : r ∈ (t.erase k).rows ↔ r ∈ t.rows ∧ key r ≠ k := by
  simp [erase]

theorem find_of_find_erase {k' : κ} (h : (t.erase k).find k' = some r) :
    k' ≠ k ∧ t.find k' = some r := by
  obtain ⟨hmem, rfl⟩ := mem_of_find h
  obtain ⟨hold, hne⟩ := mem_erase.mp hmem
  exact ⟨hne, find_of_mem hold⟩

theorem find_erase_of_ne {k' : κ} (h : k' ≠ k) : (t.erase k).find k' = t.find k' := by
  ext r
  refine ⟨fun herased => (find_of_find_erase herased).2, fun hfind => ?_⟩
  obtain ⟨hmem, rfl⟩ := mem_of_find hfind
  exact find_of_mem (mem_erase.mpr ⟨hmem, h⟩)

theorem mem_save (h : r ∈ (t.save row).rows) : r = row ∨ r ∈ t.rows ∧ key r ≠ key row := by
  obtain ⟨r₀, hr₀, rfl⟩ := mem_map.mp h
  split_ifs with hkey
  · exact .inl rfl
  · exact .inr ⟨hr₀, hkey⟩

theorem mem_save_of_ne (h : r ∈ t.rows) (hkey : key r ≠ key row) : r ∈ (t.save row).rows :=
  mem_map.mpr ⟨r, h, if_neg hkey⟩

@[simp] theorem mem_insert (h : key row ∉ t.keys) :
    r ∈ (t.insert row).rows ↔ r = row ∨ r ∈ t.rows := by
  rw [rows_insert h, mem_cons]

theorem eq_of_mem {r' : ρ} (hr : r ∈ t.rows) (hr' : r' ∈ t.rows) (h : key r = key r') : r = r' := by
  have hfind := find_of_mem hr
  rw [h, find_of_mem hr'] at hfind
  exact (Option.some.inj hfind).symm

/-! ### Statements with a condition -/

section

variable (t : Table key) (p : ρ → Prop) [DecidablePred p]

def Matches : Prop := ∃ r ∈ t.rows, p r

instance : Decidable (t.Matches p) := inferInstanceAs (Decidable (∃ r ∈ t.rows, p r))

def updateWhere (f : ρ → ρ) (hkey : ∀ r, key (f r) = key r) : Table key :=
  t.mapRows (fun r => if p r then f r else r) fun r => by
    split_ifs
    · exact hkey r
    · rfl

def deleteWhere : Table key where
  rows := t.rows.filter fun r => decide (¬ p r)
  nodup := t.nodup.sublist (List.filter_sublist.map _)

variable {t p}

omit [DecidableEq κ] in
theorem mem_updateWhere {f : ρ → ρ} (hkey : ∀ r, key (f r) = key r) :
    r ∈ (t.updateWhere p f hkey).rows ↔ ∃ r₀ ∈ t.rows, r = if p r₀ then f r₀ else r₀ := by
  simp [updateWhere, mapRows, eq_comm]

omit [DecidableEq κ] in
theorem mem_deleteWhere : r ∈ (t.deleteWhere p).rows ↔ r ∈ t.rows ∧ ¬ p r := by
  simp [deleteWhere]

end

/-! ### Totals -/

def put (t : Table key) (row : ρ) : Table key :=
  if key row ∈ t.keys then t.save row else t.insert row

theorem find_put (t : Table key) (row : ρ) : (t.put row).find (key row) = some row := by
  unfold put
  split_ifs with h
  · exact find_save h
  refine find_insert ?_
  cases hfind : t.find (key row) with
  | none => rfl
  | some r => exact absurd (mem_keys_of_find hfind) h

theorem find_put_of_ne (h : k ≠ key row) : (t.put row).find k = t.find k := by
  unfold put
  split_ifs with hkey
  · exact find_save_of_ne h
  · rw [find, rows_insert hkey, find?_cons_of_neg (by simpa using Ne.symm h)]
    rfl

theorem find_foldl_put_of_notMem {rows : List ρ} (h : k ∉ rows.map key) :
    (rows.foldl put t).find k = t.find k := by
  induction rows generalizing t with
  | nil => rfl
  | cons row rows ih =>
    rw [map_cons, mem_cons, not_or] at h
    rw [foldl_cons, ih h.2, find_put_of_ne h.1]

theorem find_foldl_put_of_mem {rows : List ρ} (hnodup : (rows.map key).Nodup) (h : row ∈ rows) :
    (rows.foldl put t).find (key row) = some row := by
  induction rows generalizing t with
  | nil => cases h
  | cons first rows ih =>
    obtain ⟨hfirst, hrest⟩ := nodup_cons.mp hnodup
    rw [foldl_cons]
    rcases mem_cons.mp h with rfl | h
    · rw [find_foldl_put_of_notMem hfirst, find_put]
    · exact ih hrest h

def total {G : Type*} [AddCommMonoid G] (f : ρ → G) (t : Table key) : G := (t.rows.map f).sum

variable {G : Type*} [AddCommMonoid G]

private theorem sum_map_replace (f : ρ → G) {rows : List ρ} {old : ρ}
    (hnodup : (rows.map key).Nodup) (hold : old ∈ rows) (hkey : key old = key row) :
    ((rows.map fun r => if key r = key row then row else r).map f).sum + f old =
      (rows.map f).sum + f row := by
  obtain ⟨pre, post, rfl⟩ := append_of_mem hold
  rw [map_append, map_cons, nodup_middle, nodup_cons, ← map_append] at hnodup
  -- the other rows have other keys
  have hother (r : ρ) (hr : r ∈ pre ++ post) : (if key r = key row then row else r) = r := by
    refine if_neg fun heq => hnodup.1 ?_
    rw [hkey, ← heq]
    exact mem_map_of_mem hr
  rw [map_append, map_cons, if_pos hkey, map_congr_left fun r hr => hother r (mem_append_left _ hr),
    map_congr_left fun r hr => hother r (mem_append_right _ hr), map_id', map_id']
  simp only [map_append, map_cons, sum_append, sum_cons]
  ac_rfl

theorem total_put (f : ρ → G) (t : Table key) (row : ρ) :
    (t.put row).total f + ((t.find (key row)).map f).getD 0 = t.total f + f row := by
  unfold put
  cases hfind : t.find (key row) with
  | none =>
    have hkey : key row ∉ t.rows.map key := notMem_keys_of_find hfind
    rw [if_neg (notMem_keys_of_find hfind)]
    simp [total, insert, hkey, add_comm]
  | some old =>
    obtain ⟨hmem, hkey⟩ := mem_of_find hfind
    rw [if_pos (mem_keys_of_find hfind)]
    exact sum_map_replace f t.nodup hmem hkey

end Table
