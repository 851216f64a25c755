import Mathlib.Data.List.Basic

/-!
# Streams of blocks

A stream of blocks opens with one event, closes with a summary and one more event, and has events
about blocks in between. Each block has an index and a kind. Its events are a start, any number of
deltas of its kind, and a stop; the events of different blocks may interleave.

The state of such a stream is the status of each block. A producer is verified with the rules of
`Emits`, which say how the status changes from event to event.

## Main results

* `Emits.start`, `Emits.delta`, `Emits.stop`, `Emits.append`: the rules.
* `Emits.valid`
* `BlockStream.Layout`, `Layout.Emits`
-/

namespace BlockStream

open List Function

variable {ι κ : Type*}

inductive BlockEvent (ι κ : Type*)
  | start (i : ι) (k : κ)
  | delta (i : ι) (k : κ)
  | stop (i : ι)

inductive Event (ι κ : Type*)
  | opening
  | block (e : BlockEvent ι κ)
  | summary
  | closing

inductive Status (κ : Type*)
  | absent
  | opened (k : κ)
  | closed

def BlockEvent.index : BlockEvent ι κ → ι
  | start i _ | delta i _ | stop i => i

/-- The events of block `i` up to a status: none, its start and deltas of its kind, or these and its
stop. -/
def Shape (i : ι) : Status κ → List (BlockEvent ι κ) → Prop
  | .absent, events => events = []
  | .opened k, events => ∃ n, events = .start i k :: List.replicate n (.delta i k)
  | .closed, events =>
    ∃ k n, events = .start i k :: (List.replicate n (.delta i k) ++ [.stop i])

variable [DecidableEq ι]

def eventsOf (i : ι) (body : List (BlockEvent ι κ)) : List (BlockEvent ι κ) :=
  body.filter fun e => e.index = i

/-- One opening event, then events about blocks, each of which is absent or whole, then one summary
and one closing event. -/
def Valid (events : List (Event ι κ)) : Prop :=
  ∃ body : List (BlockEvent ι κ),
    events = .opening :: (body.map .block ++ [.summary, .closing]) ∧
      ∀ i, Shape i .absent (eventsOf i body) ∨ Shape i .closed (eventsOf i body)

def Tracks (body : List (BlockEvent ι κ)) (blocks : ι → Status κ) : Prop :=
  ∀ i, Shape i (blocks i) (eventsOf i body)

/-- After the events `es` the blocks have the statuses `blocks'` if they had `blocks` before. -/
def Emits (blocks : ι → Status κ) (es : List (BlockEvent ι κ)) (blocks' : ι → Status κ) : Prop :=
  ∀ body, Tracks body blocks → Tracks (body ++ es) blocks'

section

variable {blocks blocks' blocks'' : ι → Status κ} {es es' : List (BlockEvent ι κ)} {i : ι} {k : κ}

theorem Emits.nil (blocks : ι → Status κ) : Emits blocks [] blocks := by
  intro body h
  rwa [append_nil]

theorem Emits.append (h : Emits blocks es blocks') (h' : Emits blocks' es' blocks'') :
    Emits blocks (es ++ es') blocks'' := by
  intro body hbody
  rw [← append_assoc]
  exact h' _ (h body hbody)

theorem tracks_append_single {body : List (BlockEvent ι κ)} (e : BlockEvent ι κ) {st : Status κ}
    (h : Tracks body blocks) (hi : Shape e.index st (eventsOf e.index body ++ [e])) :
    Tracks (body ++ [e]) (Function.update blocks e.index st) := by
  intro j
  rw [eventsOf, filter_append]
  by_cases hj : j = e.index
  · subst hj
    rw [update_self, filter_cons_of_pos (by simp)]
    exact hi
  · rw [update_of_ne hj, filter_cons_of_neg (by simpa using Ne.symm hj), filter_nil, append_nil]
    exact h j

theorem Emits.start (hi : blocks i = .absent) (k : κ) :
    Emits blocks [.start i k] (Function.update blocks i (.opened k)) := by
  intro body h
  have hshape : eventsOf i body = [] := by simpa only [hi, Shape] using h i
  have hnew : Shape i (.opened k) (eventsOf i body ++ [.start i k]) := ⟨0, by rw [hshape]; rfl⟩
  exact tracks_append_single (.start i k) h hnew

theorem Emits.delta (hi : blocks i = .opened k) : Emits blocks [.delta i k] blocks := by
  intro body h
  obtain ⟨n, hn⟩ : Shape i (.opened k) (eventsOf i body) := hi ▸ h i
  have hnew : Shape i (.opened k) (eventsOf i body ++ [.delta i k]) := by
    refine ⟨n + 1, ?_⟩
    rw [hn, cons_append, replicate_succ']
  have htracks : Tracks (body ++ [.delta i k]) (update blocks i (.opened k)) :=
    tracks_append_single (.delta i k) h hnew
  rwa [← hi, update_eq_self] at htracks

theorem Emits.stop (hi : blocks i = .opened k) :
    Emits blocks [.stop i] (Function.update blocks i .closed) := by
  intro body h
  obtain ⟨n, hn⟩ : Shape i (.opened k) (eventsOf i body) := hi ▸ h i
  have hnew : Shape i .closed (eventsOf i body ++ [.stop i]) := by
    refine ⟨k, n, ?_⟩
    rw [hn, cons_append]
  exact tracks_append_single (.stop i) h hnew

def Settled (blocks : ι → Status κ) (i : ι) : Prop := blocks i = .absent ∨ blocks i = .closed

/-- **Valid streams.** Events about blocks that leave no block open make a valid stream. -/
theorem Emits.valid (h : Emits (fun _ => .absent) es blocks) (hsettled : ∀ i, Settled blocks i) :
    Valid (.opening :: (es.map .block ++ [.summary, .closing])) := by
  refine ⟨es, rfl, fun i => ?_⟩
  have hshape := h [] (fun _ => rfl) i
  rcases hsettled i with hi | hi
  · exact .inl (hi ▸ hshape)
  · exact .inr (hi ▸ hshape)

end

/-! ### Blocks in order

A producer that starts its blocks in the order of their indices has settled all blocks below some
index, works on the next few, and has not touched the rest. -/

/-- The blocks below `base` are settled, those from `base` on have the given statuses, and the rest
are absent. -/
structure Layout (κ : Type*) where
  base : ℕ
  statuses : List (Status κ)

namespace Layout

structure Fits (L : Layout κ) (blocks : ℕ → Status κ) : Prop where
  below : ∀ i < L.base, Settled blocks i
  at_ : ∀ j st, L.statuses[j]? = some st → blocks (L.base + j) = st
  above : ∀ i, L.base + L.statuses.length ≤ i → blocks i = .absent

def Emits (L : Layout κ) (es : List (BlockEvent ℕ κ)) (L' : Layout κ) : Prop :=
  ∀ blocks, L.Fits blocks → ∃ blocks', BlockStream.Emits blocks es blocks' ∧ L'.Fits blocks'

variable {L L' L'' : Layout κ} {es es' : List (BlockEvent ℕ κ)} {b j : ℕ} {k : κ}
  {sts : List (Status κ)}

theorem Emits.nil (L : Layout κ) : Emits L [] L :=
  fun blocks h => ⟨blocks, .nil blocks, h⟩

theorem Emits.append (h : Emits L es L') (h' : Emits L' es' L'') : Emits L (es ++ es') L'' := by
  intro blocks hblocks
  obtain ⟨blocks', hes, hblocks'⟩ := h blocks hblocks
  obtain ⟨blocks'', hes', hblocks''⟩ := h' blocks' hblocks'
  exact ⟨blocks'', hes.append hes', hblocks''⟩

theorem Fits.update {blocks : ℕ → Status κ} (h : Fits ⟨b, sts⟩ blocks) (st : Status κ)
    (hj : j < sts.length) : Fits ⟨b, sts.set j st⟩ (Function.update blocks (b + j) st) where
  below i hi := by
    have hne : i ≠ b + j := by change i < b at hi; omega
    rw [Settled, update_of_ne hne]
    exact h.below i hi
  at_ j' st' hj' := by
    change (sts.set j st)[j']? = some st' at hj'
    by_cases hjj : j = j'
    · subst hjj
      rw [getElem?_set_self hj] at hj'
      rw [update_self]
      exact Option.some.inj hj'
    · rw [getElem?_set_ne hjj] at hj'
      have hne : b + j' ≠ b + j := by omega
      rw [update_of_ne hne]
      exact h.at_ j' st' hj'
  above i hi := by
    change b + (sts.set j st).length ≤ i at hi
    rw [length_set] at hi
    have hne : i ≠ b + j := by omega
    rw [update_of_ne hne]
    exact h.above i hi

theorem Emits.start (hj : sts[j]? = some .absent) (k : κ) :
    Emits ⟨b, sts⟩ [.start (b + j) k] ⟨b, sts.set j (.opened k)⟩ := by
  intro blocks h
  exact ⟨_, .start (h.at_ j _ hj) k, h.update _ (List.getElem?_eq_some_iff.mp hj).1⟩

theorem Emits.delta (hj : sts[j]? = some (.opened k)) :
    Emits ⟨b, sts⟩ [.delta (b + j) k] ⟨b, sts⟩ :=
  fun blocks h => ⟨blocks, .delta (h.at_ j _ hj), h⟩

theorem Emits.stop (hj : sts[j]? = some (.opened k)) :
    Emits ⟨b, sts⟩ [.stop (b + j)] ⟨b, sts.set j .closed⟩ := by
  intro blocks h
  exact ⟨_, .stop (h.at_ j _ hj), h.update _ (List.getElem?_eq_some_iff.mp hj).1⟩

theorem Emits.grow (L : Layout κ) : Emits L [] ⟨L.base, L.statuses ++ [.absent]⟩ := by
  intro blocks h
  refine ⟨blocks, .nil blocks, h.below, fun j st hj => ?_, fun i hi => ?_⟩
  · change (L.statuses ++ [.absent])[j]? = some st at hj
    by_cases hlt : j < L.statuses.length
    · rw [getElem?_append_left hlt] at hj
      exact h.at_ j st hj
    · rw [getElem?_append_right (Nat.not_lt.mp hlt)] at hj
      rw [mem_singleton.mp (mem_of_getElem? hj)]
      exact h.above (L.base + j) (by omega)
  · change L.base + (L.statuses ++ [Status.absent]).length ≤ i at hi
    rw [length_append] at hi
    exact h.above i (by omega)

theorem Emits.retire (h : ∀ st ∈ sts, st = .absent ∨ st = .closed) :
    Emits ⟨b, sts⟩ [] ⟨b + sts.length, []⟩ := by
  intro blocks hfits
  refine ⟨blocks, .nil blocks, fun i hi => ?_, fun j st hj => (by cases hj), hfits.above⟩
  change i < b + sts.length at hi
  by_cases hlt : i < b
  · exact hfits.below i hlt
  obtain ⟨j, rfl⟩ := Nat.exists_eq_add_of_le (Nat.not_lt.mp hlt)
  have hj : j < sts.length := by omega
  have hstatus := hfits.at_ j _ (getElem?_eq_getElem hj)
  rcases h _ (getElem_mem hj) with hst | hst
  · exact .inl (hstatus.trans hst)
  · exact .inr (hstatus.trans hst)

theorem Emits.valid {n : ℕ} (h : Emits ⟨0, []⟩ es ⟨n, []⟩) :
    Valid (.opening :: (es.map Event.block ++ [.summary, .closing])) := by
  have hstart : Fits (⟨0, []⟩ : Layout κ) fun _ => .absent :=
    ⟨fun i hi => absurd hi (Nat.not_lt_zero i), fun j st hj => (by cases hj), fun _ _ => rfl⟩
  obtain ⟨blocks, hemits, hfits⟩ := h _ hstart
  refine hemits.valid fun i => ?_
  by_cases hlt : i < n
  · exact hfits.below i hlt
  · exact .inl (hfits.above i (Nat.not_lt.mp hlt))

end Layout

end BlockStream
