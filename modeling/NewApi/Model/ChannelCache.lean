import Mathlib.Data.Fintype.EquivFin
import Mathlib.Data.List.Count
import NewApi.Foundation.PriorityTier
import NewApi.Foundation.Run
import NewApi.Foundation.Saturating
import NewApi.Foundation.WeightedDraw
import NewApi.Model.ChannelRouting

/-!
# The channel cache

`InitChannelCache` builds two maps from the stored channels: the ids of the enabled channels for
each group and model, and the channels by their ids. `GetRandomSatisfiedChannel` selects from them,
and `CacheUpdateChannelStatus` takes a disabled channel out of the lists until the cache is built
anew.

Source: `model/channel_cache.go`.
-/

namespace NewApi.Model

open PriorityTier StepSystem WeightedDraw List Option Prod GoMap

/-! ### The cache -/

structure StoredChannel where
  routing : RoutingRow
  key : String
  channelInfo : ChannelInfo

structure CachedChannel where
  routing : RoutingRow
  key : String
  channelInfo : ChannelInfo
  keys : List String

def CachedChannel.getPriority (ch : CachedChannel) : Int := ch.routing.getPriority

def CachedChannel.getWeight (ch : CachedChannel) : ℕ := ch.routing.getWeight

abbrev IdLists := GoMap String (GoMap String (List Int))

structure ChannelCache where
  group2model2channels : IdLists
  channelsIDM : GoMap Int CachedChannel

def idsAt (lists : IdLists) (group model : String) : List Int :=
  ((lists.lookup group).bind fun models => models.lookup model).getD []

/-- The entries of a channel in the lists. A disabled channel has none. -/
def StoredChannel.entries (ch : StoredChannel) : List (String × String × Int) :=
  if ch.routing.status ≠ channelStatusEnabled then []
  else
    ch.routing.groups.flatMap fun group =>
      ch.routing.getModels.map fun model => (group, model, ch.routing.id)

/-- Append an id to its list. A group without abilities has no map, and the assignment to it
panics. -/
def appendId (lists : IdLists) (entry : String × String × Int) : Option IdLists :=
  match lists.lookup entry.1 with
  | none => none
  | some models =>
    some (lists.insert entry.1
      (models.insert entry.2.1 ((models.lookup entry.2.1).getD [] ++ [entry.2.2])))

def sortByPriority (byId : GoMap Int StoredChannel) (ids : List Int) : List Int :=
  let priority (id : Int) : Int := ((byId.lookup id).map fun c => c.routing.getPriority).getD 0
  ids.insertionSort fun i j => priority i ≥ priority j

/-- A channel as it enters the cache: its keys are parsed, and a polling channel keeps its cursor.
-/
def cachedChannel (parse : KeyParser) (old : GoMap Int CachedChannel)
    (id : Int) (ch : StoredChannel) : CachedChannel :=
  let info := ch.channelInfo
  { routing := ch.routing
    key := ch.key
    keys := if info.isMultiKey then keyList parse ch.key else []
    channelInfo :=
      if info.isMultiKey && info.multiKeyMode == .polling then
        match old.lookup id with
        | none => info
        | some oldChannel =>
          if oldChannel.channelInfo.isMultiKey &&
              oldChannel.channelInfo.multiKeyMode == .polling then
            { info with multiKeyPollingIndex := oldChannel.channelInfo.multiKeyPollingIndex }
          else info
      else info }

/-- The cache of the stored channels, or none if the construction panics. -/
def initChannelCache (parse : KeyParser) (chs : List StoredChannel)
    (abilities : List Ability) (old : ChannelCache) : Option ChannelCache :=
  let newChannelId2channel := GoMap.ofList (fun c : StoredChannel => c.routing.id) chs
  let groups : IdLists := abilities.foldl (fun lists ability => lists.insert ability.group ∅) ∅
  match (chs.flatMap StoredChannel.entries).foldlM appendId groups with
  | none => none
  | some lists =>
    some
      { group2model2channels := lists.mapValues fun _ models =>
          models.mapValues fun _ ids => sortByPriority newChannelId2channel ids
        channelsIDM := newChannelId2channel.mapValues (cachedChannel parse old.channelsIDM) }

/-- A channel that is disabled leaves each list once. -/
def cacheUpdateChannelStatus (cache : ChannelCache) (id status : Int) : ChannelCache :=
  { channelsIDM :=
      match cache.channelsIDM.lookup id with
      | none => cache.channelsIDM
      | some ch =>
        cache.channelsIDM.insert id
          { ch with routing := { ch.routing with status := status } }
    group2model2channels :=
      if status ≠ channelStatusEnabled then
        -- The loop over a list ends at the first id that is removed.
        cache.group2model2channels.mapValues fun _ models =>
          models.mapValues fun _ chs => chs.erase id
      else cache.group2model2channels }

/-- The lists stay as they are. -/
def cacheUpdateChannel (cache : ChannelCache) (ch : CachedChannel) : ChannelCache :=
  { cache with channelsIDM := cache.channelsIDM.insert ch.routing.id ch }

/-! ### The selection -/

section

def candidatePassesKindFilters (ch : Option CachedChannel) (modelName : String)
    (kind : ChannelFilterKind) (filters : List ChannelFilter) : Bool :=
  match ch with
  | none => kind == .requestPath
  | some ch => filters.all (channelMatchesFilter ch.routing modelName)

/-- The loop over the kinds of filters; it ends at the kind that leaves no candidate.

Source: `model/channel_constraint.go`. -/
def filterByKinds (channelsIDM : GoMap Int CachedChannel) (modelName : String)
    (filters : List ChannelFilter) :
    List ChannelFilterKind → List Int → List Int × Option ChannelFilterKind
  | [], kept => (kept, none)
  | kind :: kinds, kept =>
    let kindFilters := filtersByKind filters kind
    if kindFilters.isEmpty then filterByKinds channelsIDM modelName filters kinds kept
    else
      let next := kept.filter fun id =>
        candidatePassesKindFilters (channelsIDM.lookup id) modelName kind kindFilters
      if !kept.isEmpty && next.isEmpty then (next, some kind)
      else filterByKinds channelsIDM modelName filters kinds next

def filterCandidateIDs (channelsIDM : GoMap Int CachedChannel) (ids : List Int)
    (modelName : String) (filters : List ChannelFilter) : List Int × Option ChannelFilterKind :=
  if ids.isEmpty then (ids, none)
  else filterByKinds channelsIDM modelName filters filterEvalOrder ids

def missingChannelError (id : Int) : String :=
  "数据库一致性错误，渠道# " ++ toString id ++ " 不存在，请联系管理员修复"

/-- The channels of the ids, or the error of the first one that is missing. -/
def findCandidates (channelsIDM : GoMap Int CachedChannel) :
    List Int → Except String (List CachedChannel)
  | [] => .ok []
  | id :: ids =>
    match channelsIDM.lookup id with
    | none => .error (missingChannelError id)
    | some ch =>
      match findCandidates channelsIDM ids with
      | .error message => .error message
      | .ok chs => .ok (ch :: chs)

abbrev SelectResult (α : Type) := Option α × Option String

def smoothingAdjustment (sumWeight : ℤ) : ℕ := if sumWeight = 0 then 100 else 0

def smoothingFactor (sumWeight : ℤ) (count : ℕ) : ℕ :=
  if sumWeight = 0 then 1 else if sumWeight.tdiv count < 10 then 100 else 1

/-- What the loop subtracts for a channel. -/
def smoothedWeight (sumWeight : ℤ) (count : ℕ) (c : CachedChannel) : ℕ :=
  c.getWeight * smoothingFactor sumWeight count + smoothingAdjustment sumWeight

/-- The number of draws. -/
def totalWeight (sumWeight : ℤ) (count : ℕ) : ℤ :=
  if sumWeight = 0 then (count * 100 : ℕ)
  else Int64.wrap (sumWeight * smoothingFactor sumWeight count)

/-- `rand.Intn` of a number `draw` before its reduction; `none` is the panic if `n` is not
positive. -/
def intn (n : ℤ) (draw : ℕ) : Option ℕ := if n ≤ 0 then none else some (draw % n.toNat)

/-- The text of the panic. A panic ends the request as an error does. -/
def intnPanic : String := "invalid argument to Intn"

/-- The draw among several candidates, in the 64-bit arithmetic of the source. A slice is short
enough for `len(targetChannels) * 100` to be exact. -/
def drawFromTier (group model : String) (chs : List CachedChannel) (retry draw : ℕ) :
    SelectResult CachedChannel :=
  let sortedUniquePriorities := levels CachedChannel.getPriority chs
  let targetPriority := (levelAt sortedUniquePriorities retry).getD 0
  let targetChannels := chs.filter fun c => c.getPriority = targetPriority
  let sumWeight := Int64.wrap (total CachedChannel.getWeight targetChannels)
  if targetChannels.isEmpty then
    (none, some ("no channel found, group: " ++ group ++ ", model: " ++ model ++ ", priority: " ++
      toString targetPriority))
  else
    match intn (totalWeight sumWeight targetChannels.length) draw with
    | none => (none, some intnPanic)
    | some randomWeight =>
      match walkIn Int64.wrap (smoothedWeight sumWeight targetChannels.length) 0 targetChannels
          randomWeight with
      | some ch => (some ch, none)
      | none => (none, some "channel not found")

/-- The ids that match the model by its name, or else by its normalised name. -/
def candidateIds (baseName : String → String) (cache : ChannelCache) (group model : String)
    (filters : List ChannelFilter) : List Int :=
  let chs := (filterCandidateIDs cache.channelsIDM
    (idsAt cache.group2model2channels group model) model filters).1
  if chs.isEmpty then
    (filterCandidateIDs cache.channelsIDM
      (idsAt cache.group2model2channels group (routingMatchModelName baseName model)) model
      filters).1
  else chs

/-- The selection from the cache. -/
def cachedSatisfiedChannel (baseName : String → String) (cache : ChannelCache)
    (group model : String) (retry : ℕ) (filters : List ChannelFilter) (draw : ℕ) :
    SelectResult CachedChannel :=
  match candidateIds baseName cache group model filters with
  | [] => (none, none)
  | [id] =>
    match cache.channelsIDM.lookup id with
    | some ch => (some ch, none)
    | none => (none, some (missingChannelError id))
  | ids =>
    match findCandidates cache.channelsIDM ids with
    | .error message => (none, some message)
    | .ok chs => drawFromTier group model chs retry draw

end

/-! ### What the selection returns -/

/-- Every listed id is stored, under its own id. -/
structure ChannelCache.WellFormed (cache : ChannelCache) : Prop where
  listed : ∀ group model, ∀ id ∈ idsAt cache.group2model2channels group model,
    ∃ ch, cache.channelsIDM.lookup id = some ch
  keyed : ∀ id ch, cache.channelsIDM.lookup id = some ch → ch.routing.id = id

/-- The channels among which a request selects. -/
def ChannelCache.candidates (baseName : String → String) (cache : ChannelCache)
    (group model : String) (filters : List ChannelFilter) : List CachedChannel :=
  (candidateIds baseName cache group model filters).filterMap cache.channelsIDM.lookup

/-- The weight of a channel in the draw, with the exact sum of the tier. -/
def effectiveWeight (targets : List CachedChannel) : CachedChannel → ℕ :=
  smoothedWeight (total CachedChannel.getWeight targets : ℕ) targets.length

/-- No sum of the tier leaves the 64-bit range. -/
def TierFits (targets : List CachedChannel) : Prop :=
  total (effectiveWeight targets) targets < 2 ^ 63

/-- The channels that the draw can return: those on the level of the retry, but without those of
weight 0 if another one has a weight. -/
def Served (chs : List CachedChannel) (retry : ℕ) (ch : CachedChannel) : Prop :=
  ch ∈ tier CachedChannel.getPriority chs retry ∧
    (0 < ch.getWeight ∨
      ∀ other ∈ tier CachedChannel.getPriority chs retry,
        other.getWeight = 0)

open CachedChannel

theorem intn_of_pos {n : ℕ} (h : 0 < n) (draw : ℕ) : intn n draw = some (draw % n) := by
  rw [intn, if_neg (by omega), Int.toNat_natCast]

section

variable {chs : List CachedChannel} {ch : CachedChannel} {retry : ℕ}
  {group model modelName : String} {filters : List ChannelFilter} {cache : ChannelCache}
  {channelsIDM : GoMap Int CachedChannel} {ids : List Int} {baseName : String → String}

theorem smoothingFactor_pos (sumWeight : ℤ) (count : ℕ) : 0 < smoothingFactor sumWeight count := by
  unfold smoothingFactor
  split_ifs <;> omega

theorem total_effectiveWeight (chs : List CachedChannel) : total (effectiveWeight chs) chs =
      if total getWeight chs = 0 then chs.length * 100
      else total getWeight chs * smoothingFactor (total getWeight chs : ℕ) chs.length := by
  have haffine : total (effectiveWeight chs) chs = total getWeight chs *
      smoothingFactor (total getWeight chs : ℕ) chs.length +
        chs.length * smoothingAdjustment (total getWeight chs : ℕ) :=
    total_affine _ _ chs
  rw [haffine, smoothingAdjustment]
  split_ifs with hcast hzero hzero <;> simp_all

theorem total_getWeight_le (chs : List CachedChannel) :
    total getWeight chs ≤ total (effectiveWeight chs) chs := by
  rw [total_effectiveWeight]
  split
  · omega
  · exact Nat.le_mul_of_pos_right _ (smoothingFactor_pos _ _)

theorem effectiveWeight_pos_iff : 0 < effectiveWeight chs ch ↔ 0 < ch.getWeight ∨
      ∀ other ∈ chs, other.getWeight = 0 := by
  rw [effectiveWeight, smoothedWeight, smoothingAdjustment]
  by_cases hzero : total getWeight chs = 0
  · rw [if_pos (by omega)]
    refine ⟨fun _ => .inr fun other hother => eq_zero_of_total_eq_zero hzero hother, fun _ => ?_⟩
    omega
  rw [if_neg (by omega), add_zero, Nat.mul_pos_iff_of_pos_right (smoothingFactor_pos _ _)]
  exact ⟨.inl, fun h => h.resolve_right fun hall => hzero (total_eq_zero hall)⟩

theorem wrap_total_eq (hfits : TierFits chs) :
    Int64.wrap (total getWeight chs : ℕ) = (total getWeight chs : ℕ) := by
  have hfits : total (effectiveWeight chs) chs < 2 ^ 63 := hfits
  have hle := total_getWeight_le chs
  exact Int64.wrap_of_mem (by omega) (by omega)

/-- The converse of `totalWeight_eq`: weights that the machine total can pay for do not overflow. -/
theorem tierFits_of_total_le {sum : ℤ} (hlength : chs.length * 100 < 2 ^ 63)
    (hsum : Int64.wrap (total getWeight chs : ℕ) = sum)
    (h : total (smoothedWeight sum chs.length) chs ≤ (totalWeight sum chs.length).toNat) :
    TierFits chs := by
  have haffine : total (smoothedWeight sum chs.length) chs = total getWeight chs *
      smoothingFactor sum chs.length + chs.length * smoothingAdjustment sum :=
    total_affine _ _ chs
  have hle := Nat.le_mul_of_pos_right (total getWeight chs) (smoothingFactor_pos sum chs.length)
  have hhigh := (Int64.wrap_mem (sum * smoothingFactor sum chs.length)).2
  rw [TierFits, total_effectiveWeight]
  rw [haffine, totalWeight, smoothingAdjustment] at h
  split_ifs at h with hwrap
  · rw [if_pos (by omega)]
    exact hlength
  · obtain rfl : (total getWeight chs : ℕ) = sum :=
      (Int64.wrap_of_mem (by omega) (by omega)).symm.trans hsum
    split <;> omega

theorem totalWeight_eq (hfits : TierFits chs) : totalWeight (total getWeight chs : ℕ) chs.length =
      (total (effectiveWeight chs) chs : ℕ) := by
  have htotal := total_effectiveWeight chs
  have hfits : total (effectiveWeight chs) chs < 2 ^ 63 := hfits
  rw [totalWeight]
  split_ifs at htotal ⊢
  · rw [htotal]
  · omega
  · omega
  · rw [← Int.natCast_mul, ← htotal]
    exact Int64.wrap_of_mem (by omega) (by omega)

section

variable (hne : chs ≠ [])
include hne

theorem total_effectiveWeight_pos : 0 < total (effectiveWeight chs) chs := by
  by_contra hnot
  have hzero : total (effectiveWeight chs) chs = 0 := by omega
  have hweights : ∀ other ∈ chs, other.getWeight = 0 := by
    intro other hother
    by_contra hweight
    have hpos : 0 < effectiveWeight chs other :=
      effectiveWeight_pos_iff.mpr (.inl (Nat.pos_of_ne_zero hweight))
    exact absurd (eq_zero_of_total_eq_zero hzero hother) (ne_of_gt hpos)
  obtain ⟨ch, hch⟩ := exists_mem_of_ne_nil chs hne
  have hpos : 0 < effectiveWeight chs ch :=
    effectiveWeight_pos_iff.mpr (.inr hweights)
  exact absurd (eq_zero_of_total_eq_zero hzero hch) (ne_of_gt hpos)

theorem filter_level_eq_tier : (chs.filter fun c => c.getPriority =
      (levelAt (levels CachedChannel.getPriority chs) retry).getD 0) =
    tier CachedChannel.getPriority chs retry := by
  obtain ⟨c, -, hlevel⟩ :=
    exists_levelAt getPriority hne retry
  rw [tier, hlevel]
  refine filter_congr fun other _ => ?_
  rw [decide_eq_decide, some.injEq]
  exact eq_comm

theorem drawFromTier_eq (hfits : TierFits (tier getPriority chs retry)) (draw : ℕ) :
    let targets := tier getPriority chs retry
    drawFromTier group model chs retry draw =
      match walk (effectiveWeight targets) 0 targets
          (draw % total (effectiveWeight targets) targets : ℕ) with
      | some ch => (some ch, none)
      | none => (none, some "channel not found") := by
  intro targets
  have htargets : targets ≠ [] := tier_ne_nil hne retry
  have hpos := total_effectiveWeight_pos htargets
  have hfits : total (effectiveWeight targets) targets < 2 ^ 63 := hfits
  have hsum := wrap_total_eq hfits
  have hlt := Nat.mod_lt draw hpos
  simp only [drawFromTier, filter_level_eq_tier hne]
  rw [if_neg (by simpa using htargets), hsum, totalWeight_eq hfits, intn_of_pos hpos]
  have hwalk : walkIn Int64.wrap (effectiveWeight targets) 0 targets
      (draw % total (effectiveWeight targets) targets : ℕ) = _ :=
    walkIn_eq (fun _ => Int64.wrap_of_mem) (le_refl 0) (by omega) (Int.natCast_nonneg _) (by omega)
  rw [← hwalk]
  rfl

theorem drawFromTier_served (hfits : TierFits (tier getPriority chs retry)) (draw : ℕ) :
    ∃ ch, Served chs retry ch ∧ drawFromTier group model chs retry draw = (some ch, none) := by
  rw [drawFromTier_eq hne hfits]
  have htier : tier getPriority chs retry ≠ [] := tier_ne_nil hne retry
  have hpos := total_effectiveWeight_pos htier
  obtain ⟨ch, hwalk⟩ := exists_walk_of_lt (le_refl 0) (Int.natCast_nonneg _)
    (Int.ofNat_lt.mpr (Nat.mod_lt draw hpos))
  have hmem := mem_of_walkIn hwalk
  have hweight := weight_pos_of_walk (Int.natCast_nonneg _) hwalk
  exact ⟨ch, ⟨hmem, effectiveWeight_pos_iff.mp hweight⟩, by rw [hwalk]⟩

end

theorem exists_drawFromTier (hfits : TierFits (tier getPriority chs retry))
    (hserved : Served chs retry ch) :
    ∃ draw, drawFromTier group model chs retry draw = (some ch, none) := by
  obtain ⟨hmem, hweight⟩ := hserved
  have hne : chs ≠ [] := ne_nil_of_mem (mem_tier.mp hmem).1
  have hpos := effectiveWeight_pos_iff.mpr hweight
  obtain ⟨draw, hlt, hwalk⟩ := exists_walk (le_refl 0) hmem (Int.ofNat_lt.mpr hpos)
  refine ⟨draw, ?_⟩
  rw [drawFromTier_eq hne hfits, Nat.mod_eq_of_lt hlt, hwalk]

/-- The draw returns a candidate, also if a sum overflows. -/
theorem mem_of_drawFromTier {draw : ℕ}
    (h : (drawFromTier group model chs retry draw).1 = some ch) : ch ∈ chs := by
  simp only [drawFromTier] at h
  split at h
  · cases h
  split at h
  · cases h
  split at h
  next hwalk =>
    cases h
    exact mem_of_mem_filter (mem_of_walkIn hwalk)
  · cases h

/-- A channel without a weight that has a tier for itself is drawn. -/
theorem drawFromTier_alone (hmem : ch ∈ tier getPriority chs retry)
    (halone : ∀ other ∈ tier getPriority chs retry, other = ch)
    (hweight : ch.getWeight = 0) :
    drawFromTier group model chs retry 0 = (some ch, none) := by
  have hzero : total getWeight (tier getPriority chs retry) = 0 :=
    total_eq_zero fun other hother => halone other hother ▸ hweight
  simp only [drawFromTier, filter_level_eq_tier (ne_nil_of_mem (mem_tier.mp hmem).1), hzero]
  rcases htier : tier getPriority chs retry with - | ⟨first, rest⟩
  · rw [htier] at hmem
    cases hmem
  obtain rfl : first = ch := halone first (htier ▸ mem_cons_self)
  have hsum : Int64.wrap ((0 : ℕ) : ℤ) = 0 := Int64.wrap_of_mem (by omega) (by omega)
  -- the number is kept as a variable: the kernel would evaluate the walk at a literal
  obtain ⟨n, hdraw, hwalk⟩ : ∃ n : ℕ, intn (totalWeight 0 (first :: rest).length) 0 = some n ∧
      walkIn Int64.wrap (smoothedWeight 0 (first :: rest).length) 0 (first :: rest) n =
        some first := by
    refine ⟨0, ?_, ?_⟩
    · rw [totalWeight, if_pos rfl, intn, if_neg (by rw [length_cons]; omega), Nat.zero_mod]
    · rw [walkIn, smoothedWeight, hweight, smoothingAdjustment, if_pos rfl,
        Int64.wrap_of_mem (by omega) (by omega), if_pos (by omega)]
  rw [hsum, if_neg (by simp)]
  simp only [hdraw, hwalk]

/-! ### The candidates -/

def passesFilters (channelsIDM : GoMap Int CachedChannel) (modelName : String)
    (filters : List ChannelFilter) (id : Int) : Bool :=
  match channelsIDM.lookup id with
  | none => false
  | some ch => filters.all (channelMatchesFilter ch.routing modelName)

theorem filterByKinds_fst (kinds : List ChannelFilterKind)
    (hids : ∀ id ∈ ids, ∃ ch, channelsIDM.lookup id = some ch) :
    (filterByKinds channelsIDM modelName filters kinds ids).1 =
      ids.filter fun id => kinds.all fun kind =>
        passesFilters channelsIDM modelName (filtersByKind filters kind) id := by
  induction kinds generalizing ids with
  | nil => simp [filterByKinds]
  | cons kind kinds ih =>
    have hpasses : ∀ id ∈ ids, candidatePassesKindFilters (channelsIDM.lookup id) modelName kind
        (filtersByKind filters kind) =
          passesFilters channelsIDM modelName (filtersByKind filters kind) id := by
      intro id hid
      obtain ⟨ch, hch⟩ := hids id hid
      rw [passesFilters, hch]
      rfl
    have hboth : (ids.filter fun id => (kind :: kinds).all fun kind =>
          passesFilters channelsIDM modelName (filtersByKind filters kind) id) =
        (ids.filter (passesFilters channelsIDM modelName (filtersByKind filters kind))).filter
          fun id => kinds.all fun kind =>
            passesFilters channelsIDM modelName (filtersByKind filters kind) id := by
      rw [List.filter_filter]
      refine filter_congr fun id _ => ?_
      rw [all_cons, Bool.and_comm]
    rw [filterByKinds, hboth]
    dsimp only
    split
    · -- Without a filter of this kind every channel stays.
      rename_i hnone
      have hall : ids.filter (passesFilters channelsIDM modelName (filtersByKind filters kind)) =
          ids := by
        refine filter_eq_self.mpr fun id hid => ?_
        obtain ⟨ch, hch⟩ := hids id hid
        rw [passesFilters, hch, isEmpty_iff.mp hnone]
        rfl
      rw [hall]
      exact ih hids
    · rw [filter_congr hpasses]
      split
      next hempty =>
        rw [Bool.and_eq_true, List.isEmpty_iff] at hempty
        rw [hempty.2]
        rfl
      · exact ih fun id hid => hids id (mem_of_mem_filter hid)

section

variable (hids : ∀ id ∈ ids, ∃ ch, channelsIDM.lookup id = some ch)
include hids

theorem filterCandidateIDs_fst : (filterCandidateIDs channelsIDM ids modelName filters).1 =
      ids.filter (passesFilters channelsIDM modelName filters) := by
  rw [filterCandidateIDs]
  split
  next hempty =>
    rw [isEmpty_iff.mp hempty]
    rfl
  rw [filterByKinds_fst filterEvalOrder hids]
  refine filter_congr fun id hid => ?_
  obtain ⟨ch, hch⟩ := hids id hid
  simp only [passesFilters, hch]
  rw [Bool.eq_iff_iff, List.all_eq_true, List.all_eq_true]
  constructor
  · intro h filter hfilter
    by_contra hfails
    have hkind := kind_mem_of_not_matches (Bool.eq_false_iff.mpr hfails)
    refine hfails (all_eq_true.mp (h filter.kind hkind) filter ?_)
    exact mem_filter.mpr ⟨hfilter, beq_self_eq_true _⟩
  · intro h kind _
    exact all_eq_true.mpr fun filter hfilter => h filter (mem_of_mem_filter hfilter)

theorem findCandidates_ok :
    findCandidates channelsIDM ids = .ok (ids.filterMap channelsIDM.lookup) := by
  induction ids with
  | nil => rfl
  | cons id ids ih =>
    obtain ⟨ch, hch⟩ := hids id mem_cons_self
    have hrest := ih fun other hother => hids other (mem_cons_of_mem id hother)
    rw [findCandidates, hrest, filterMap_cons, hch]

end

variable (hwf : cache.WellFormed)
include hwf

theorem mem_idsAt_of_mem_candidateIds {id : Int}
    (h : id ∈ candidateIds baseName cache group model filters) :
    ∃ name, id ∈ idsAt cache.group2model2channels group name := by
  rw [candidateIds] at h
  split at h
  all_goals
    rw [filterCandidateIDs_fst (hwf.listed group _)] at h
    exact ⟨_, mem_of_mem_filter h⟩

theorem matches_of_mem_candidates (h : ch ∈ cache.candidates baseName group model filters) :
    filters.all (channelMatchesFilter ch.routing model) = true := by
  obtain ⟨id, hid, hlookup⟩ := mem_filterMap.mp h
  have hpasses : passesFilters cache.channelsIDM model filters id = true := by
    rw [candidateIds] at hid
    split at hid
    all_goals
      rw [filterCandidateIDs_fst (hwf.listed group _)] at hid
      exact (mem_filter.mp hid).2
  rw [passesFilters, hlookup] at hpasses
  exact hpasses

theorem exists_channel_of_mem_candidateIds : ∀ id ∈ candidateIds baseName cache group model filters,
      ∃ ch, cache.channelsIDM.lookup id = some ch := by
  intro id hid
  obtain ⟨name, hname⟩ := mem_idsAt_of_mem_candidateIds hwf hid
  exact hwf.listed group name id hname

/-- A single candidate is returned at once, among several the draw decides. -/
theorem cachedSatisfiedChannel_cases
    (hne : cache.candidates baseName group model filters ≠ []) (draw : ℕ) :
    (∃ ch, cache.candidates baseName group model filters = [ch] ∧
      cachedSatisfiedChannel baseName cache group model retry filters draw = (some ch, none)) ∨
    cachedSatisfiedChannel baseName cache group model retry filters draw =
      drawFromTier group model (cache.candidates baseName group model filters) retry draw := by
  have hids : ∀ id ∈ candidateIds baseName cache group model filters,
      ∃ ch, cache.channelsIDM.lookup id = some ch :=
    exists_channel_of_mem_candidateIds hwf
  rw [ChannelCache.candidates] at hne ⊢
  rw [cachedSatisfiedChannel]
  rcases hcandidates : candidateIds baseName cache group model filters with - | ⟨id, rest⟩
  · rw [hcandidates] at hne
    exact absurd rfl hne
  rw [hcandidates] at hids
  obtain ⟨ch, hch⟩ := hids id mem_cons_self
  cases rest with
  | nil => exact .inl ⟨ch, by simp [hch], by simp only [hch]⟩
  | cons next rest => exact .inr (by simp [findCandidates_ok hids])

theorem cachedSatisfiedChannel_eq (hne : cache.candidates baseName group model filters ≠ [])
    (hfits : TierFits (tier getPriority (cache.candidates baseName group model filters) retry))
    (draw : ℕ) : cachedSatisfiedChannel baseName cache group model retry filters draw =
      drawFromTier group model (cache.candidates baseName group model filters) retry draw := by
  obtain ⟨ch, hone, hsel⟩ | hdrawn := cachedSatisfiedChannel_cases hwf hne draw
  · obtain ⟨drawn, hserved, hdraw⟩ := drawFromTier_served hne hfits draw
    have hmem := (mem_tier.mp hserved.1).1
    rw [hone, mem_singleton] at hmem
    rw [hsel, hdraw, hmem]
  · exact hdrawn

theorem cachedSatisfiedChannel_of_nil
    (hnone : cache.candidates baseName group model filters = []) (retry draw : ℕ) :
    cachedSatisfiedChannel baseName cache group model retry filters draw = (none, none) := by
  have hids : candidateIds baseName cache group model filters = [] := by
    by_contra hsome
    obtain ⟨id, hid⟩ := exists_mem_of_ne_nil _ hsome
    obtain ⟨ch, hch⟩ := exists_channel_of_mem_candidateIds hwf id hid
    have hmem : ch ∈ cache.candidates baseName group model filters :=
      mem_filterMap.mpr ⟨id, hid, hch⟩
    rw [hnone] at hmem
    cases hmem
  simp [cachedSatisfiedChannel, hids]

theorem mem_of_cachedSatisfiedChannel {draw : ℕ}
    (h : (cachedSatisfiedChannel baseName cache group model retry filters draw).1 =
      some ch) : ch ∈ cache.candidates baseName group model filters := by
  by_cases hne : cache.candidates baseName group model filters = []
  · rw [cachedSatisfiedChannel_of_nil hwf hne] at h
    cases h
  obtain ⟨found, hone, hsel⟩ | hdrawn := cachedSatisfiedChannel_cases hwf hne draw
  · rw [hsel] at h
    rw [hone, mem_singleton, some.inj h]
  · exact mem_of_drawFromTier (hdrawn ▸ h)

theorem cachedSatisfiedChannel_served (hne : cache.candidates baseName group model filters ≠ [])
    (hfits : TierFits (tier getPriority (cache.candidates baseName group model filters) retry))
    (draw : ℕ) :
    ∃ ch, Served (cache.candidates baseName group model filters) retry ch ∧
      cachedSatisfiedChannel baseName cache group model retry filters draw = (some ch, none) := by
  simp only [cachedSatisfiedChannel_eq hwf hne hfits]
  exact drawFromTier_served hne hfits draw

theorem exists_cachedSatisfiedChannel
    (hfits : TierFits (tier getPriority (cache.candidates baseName group model filters) retry))
    (hserved : Served (cache.candidates baseName group model filters) retry ch) :
    ∃ draw, cachedSatisfiedChannel baseName cache group model retry filters draw =
      (some ch, none) := by
  have hne := ne_nil_of_mem (mem_tier.mp hserved.1).1
  simp only [cachedSatisfiedChannel_eq hwf hne hfits]
  exact exists_drawFromTier hfits hserved

end

/-! ### The lists of a built cache -/

section

variable {lists lists' : IdLists} {group model : String} {chs : List StoredChannel}
  {abilities : List Ability} {old cache : ChannelCache}
  {parse : KeyParser}

theorem idsAt_mapValues {f : List Int → List Int} (hf : f [] = []) :
    idsAt (lists.mapValues fun _ models => models.mapValues fun _ ids => f ids) group model =
      f (idsAt lists group model) := by
  simp only [idsAt, lookup_mapValues]
  rcases lists.lookup group with - | models
  · exact hf.symm
  simp only [map_some, bind_some, lookup_mapValues]
  cases models.lookup model with
  | none => exact hf.symm
  | some ids => rfl

theorem idsAt_appendId {entry : String × String × Int} (h : appendId lists entry = some lists') :
    idsAt lists' group model = idsAt lists group model ++
      if (entry.1, entry.2.1) = (group, model) then [entry.2.2] else [] := by
  obtain ⟨entryGroup, entryModel, id⟩ := entry
  rw [appendId] at h
  split at h
  · cases h
  rename_i models hmodels
  obtain rfl := some.inj h
  simp only [idsAt]
  by_cases hgroup : group = entryGroup
  · subst hgroup
    simp only [hmodels]
    by_cases hmodel : model = entryModel
    · subst hmodel
      simp
    · simp [hmodel, Ne.symm hmodel]
  · simp [hgroup, Ne.symm hgroup]

variable {entries : List (String × String × Int)}

theorem idsAt_foldlM (h : entries.foldlM appendId lists = some lists') :
    idsAt lists' group model = idsAt lists group model ++
      (entries.filter fun entry => (entry.1, entry.2.1) = (group, model)).map fun entry =>
        entry.2.2 := by
  induction entries generalizing lists with
  | nil =>
    obtain rfl := some.inj h
    simp
  | cons entry entries ih =>
    obtain ⟨next, hnext, hrest⟩ := bind_eq_some_iff.mp h
    rw [ih hrest, idsAt_appendId hnext, append_assoc, filter_cons]
    split
    next heq => rw [if_pos (by simpa using heq), map_cons, singleton_append]
    next heq => rw [if_neg (by simpa using heq), nil_append]

theorem lookup_groups (abilities : List Ability) (group : String) :
    (abilities.foldl (fun lists ability => lists.insert ability.group ∅) (∅ : IdLists)).lookup
        group =
      if ∃ ability ∈ abilities, ability.group = group then some ∅ else none := by
  induction abilities using reverseRecOn with
  | nil => simp
  | append_singleton abilities ability ih =>
    rw [foldl_append, foldl_cons, foldl_nil, lookup_insert, ih]
    by_cases hgroup : group = ability.group
    · rw [if_pos hgroup, if_pos ⟨ability, by simp, hgroup.symm⟩]
    · simp [hgroup, Ne.symm hgroup]

variable {id : Int}

theorem mem_entries {ch : StoredChannel} :
    (group, model, id) ∈ ch.entries ↔ ch.routing.status = channelStatusEnabled ∧
      ch.routing.id = id ∧ group ∈ ch.routing.groups ∧
      model ∈ ch.routing.getModels := by
  rw [StoredChannel.entries]
  split
  next hstatus => simp [hstatus]
  rename_i hstatus
  simp only [not_not] at hstatus
  simp only [List.mem_flatMap, List.mem_map, Prod.mk.injEq, hstatus, true_and]
  constructor
  · rintro ⟨g, hg, m, hm, rfl, rfl, rfl⟩
    exact ⟨rfl, hg, hm⟩
  · rintro ⟨rfl, hg, hm⟩
    exact ⟨group, hg, model, hm, rfl, rfl, rfl⟩

theorem isSome_foldlM_appendId : (entries.foldlM appendId lists).isSome = true ↔
      ∀ entry ∈ entries, (lists.lookup entry.1).isSome = true := by
  induction entries generalizing lists with
  | nil => simp
  | cons entry entries ih =>
    rw [foldlM_cons, appendId, forall_mem_cons]
    rcases hmodels : lists.lookup entry.1 with - | models
    · simp
    refine Iff.trans ih ?_
    simp only [isSome_some, true_and]
    refine forall₂_congr fun other _ => ?_
    rw [lookup_insert]
    split
    next hgroup =>
      rw [hgroup, hmodels]
      rfl
    · rfl

theorem isSome_initChannelCache : (initChannelCache parse chs abilities old).isSome = true ↔
      ∀ stored ∈ chs, stored.routing.status = channelStatusEnabled →
        stored.routing.getModels ≠ [] → ∀ group ∈ stored.routing.groups,
          ∃ ability ∈ abilities, ability.group = group := by
  have hlists : (initChannelCache parse chs abilities old).isSome =
      ((chs.flatMap StoredChannel.entries).foldlM appendId (abilities.foldl
        (fun lists ability => lists.insert ability.group ∅) (∅ : IdLists))).isSome := by
    rw [initChannelCache]
    split <;> simp_all
  have hgroup : ∀ group : String, ((abilities.foldl (fun lists ability =>
      lists.insert ability.group ∅) (∅ : IdLists)).lookup group).isSome = true ↔
        ∃ ability ∈ abilities, ability.group = group := by
    intro group
    rw [lookup_groups]
    split <;> simp_all
  rw [hlists, isSome_foldlM_appendId]
  simp only [hgroup, List.mem_flatMap]
  constructor
  · intro h stored hstored hon hmodels group hmem
    obtain ⟨model, hmodel⟩ := exists_mem_of_ne_nil _ hmodels
    exact h (group, model, stored.routing.id)
      ⟨stored, hstored, mem_entries.mpr ⟨hon, rfl, hmem, hmodel⟩⟩
  · rintro h ⟨group, model, id⟩ ⟨stored, hstored, hentry⟩
    obtain ⟨hon, -, hmem, hmodel⟩ := mem_entries.mp hentry
    exact h stored hstored hon (ne_nil_of_mem hmodel) group hmem

theorem count_map_filter (entries : List (String × String × Int)) (id : Int) :
    ((entries.filter fun entry => (entry.1, entry.2.1) = (group, model)).map fun entry =>
      entry.2.2).count id = entries.count (group, model, id) := by
  rw [count, countP_map, countP_filter, count]
  refine countP_congr fun ⟨g, m, i⟩ _ => ?_
  simp [and_left_comm, and_comm]

theorem count_flatMap_entries (hids : (chs.map fun c => c.routing.id).Nodup)
    {stored : StoredChannel} (hstored : stored ∈ chs) :
    (chs.flatMap StoredChannel.entries).count (group, model, stored.routing.id) =
      stored.entries.count (group, model, stored.routing.id) := by
  have hother : ∀ other : StoredChannel, other.routing.id ≠ stored.routing.id →
      (group, model, stored.routing.id) ∉ other.entries :=
    fun other hne hmem => hne (mem_entries.mp hmem).2.1
  induction chs with
  | nil => cases hstored
  | cons first rest ih =>
    rw [map_cons, nodup_cons] at hids
    rw [flatMap_cons, count_append]
    rcases mem_cons.mp hstored with rfl | hmem
    · have hrest : (group, model, stored.routing.id) ∉ rest.flatMap StoredChannel.entries := by
        intro hmem
        obtain ⟨other, hother', hentry⟩ := mem_flatMap.mp hmem
        refine hother other (fun heq => hids.1 ?_) hentry
        exact heq ▸ mem_map_of_mem hother'
      rw [count_eq_zero.mpr hrest, add_zero]
    · have hfirst : first.routing.id ≠ stored.routing.id := by
        intro heq
        exact hids.1 (heq ▸ mem_map_of_mem hmem)
      rw [count_eq_zero.mpr (hother first hfirst), zero_add, ih hids.2 hmem]

theorem count_pairs (groups models : List String) (id : Int) :
    (groups.flatMap fun g => models.map fun m => (g, m, id)).count (group, model, id) =
      groups.count group * models.count model := by
  have hmodels : ∀ (g : String), (models.map fun m => (g, m, id)).count (group, model, id) =
      if g = group then models.count model else 0 := by
    intro g
    by_cases hg : g = group
    · rw [if_pos hg, hg]
      have hinjective : Function.Injective fun m : String => (group, m, id) := by
        simp [Function.Injective]
      exact count_map_of_injective models _ hinjective model
    · rw [if_neg hg]
      exact count_eq_zero.mpr (by simp [hg])
  induction groups with
  | nil => simp
  | cons g groups ih =>
    rw [flatMap_cons, count_append, hmodels, ih, count_cons, add_mul]
    by_cases hg : g = group
    · simp [add_comm]
    · simp [hg]

variable (hids : (chs.map fun c => c.routing.id).Nodup)
  (hinit : initChannelCache parse chs abilities old = some cache)
include hinit

theorem idsAt_init : (idsAt cache.group2model2channels group model).Perm
      (((chs.flatMap StoredChannel.entries).filter fun entry =>
        (entry.1, entry.2.1) = (group, model)).map fun entry => entry.2.2) := by
  rw [initChannelCache] at hinit
  split at hinit
  · cases hinit
  rename_i lists hlists
  obtain rfl := some.inj hinit
  have hstart : idsAt (abilities.foldl (fun lists ability => lists.insert ability.group ∅)
      (∅ : IdLists)) group model = [] := by
    rw [idsAt, lookup_groups]
    split <;> rfl
  rw [idsAt_mapValues (by rfl), idsAt_foldlM hlists, hstart]
  exact perm_insertionSort _ _

theorem mem_idsAt_init : id ∈ idsAt cache.group2model2channels group model ↔
      ∃ stored ∈ chs, (group, model, id) ∈ stored.entries := by
  rw [(idsAt_init hinit).mem_iff]
  simp only [List.mem_map, List.mem_filter, List.mem_flatMap, decide_eq_true_eq, Prod.mk.injEq]
  constructor
  · rintro ⟨⟨g, m, i⟩, ⟨⟨stored, hstored, hentry⟩, rfl, rfl⟩, rfl⟩
    exact ⟨stored, hstored, hentry⟩
  · rintro ⟨stored, hstored, hentry⟩
    exact ⟨(group, model, id), ⟨⟨stored, hstored, hentry⟩, rfl, rfl⟩, rfl⟩

include hids

theorem lookup_init {ch : CachedChannel} :
    cache.channelsIDM.lookup id = some ch ↔ ∃ stored ∈ chs, stored.routing.id = id ∧
      cachedChannel parse old.channelsIDM id stored = ch := by
  rw [initChannelCache] at hinit
  split at hinit
  · cases hinit
  · obtain rfl := some.inj hinit
    simp [lookup_mapValues, lookup_ofList hids, and_assoc]

theorem wellFormed_init : cache.WellFormed where
  listed := by
    intro group model id hid
    obtain ⟨stored, hstored, hentry⟩ := (mem_idsAt_init hinit).mp hid
    exact ⟨_, (lookup_init hids hinit).mpr ⟨stored, hstored, (mem_entries.mp hentry).2.1, rfl⟩⟩
  keyed := by
    intro id ch hch
    obtain ⟨stored, -, hid, rfl⟩ := (lookup_init hids hinit).mp hch
    exact hid

theorem count_idsAt_init {stored : StoredChannel} (hstored : stored ∈ chs) :
    (idsAt cache.group2model2channels group model).count stored.routing.id =
      if stored.routing.status = channelStatusEnabled then
        stored.routing.groups.count group * stored.routing.getModels.count model
      else 0 := by
  rw [(idsAt_init hinit).count_eq, count_map_filter, count_flatMap_entries hids hstored,
    StoredChannel.entries]
  by_cases hstatus : stored.routing.status = channelStatusEnabled
  · rw [if_neg (not_not_intro hstatus), if_pos hstatus, count_pairs]
  · rw [if_pos hstatus, if_neg hstatus, count_nil]

end

/-! ### Changes of the cache -/

structure ChannelTable where
  rows : List StoredChannel
  idsNodup : (rows.map fun c => c.routing.id).Nodup

inductive CacheChange
  | updateStatus (id status : Int)
  | updateChannel (ch : CachedChannel)

def cacheStep (cache : ChannelCache) : CacheChange → ChannelCache
  | .updateStatus id status => cacheUpdateChannelStatus cache id status
  | .updateChannel ch => cacheUpdateChannel cache ch

def NotRouted (baseName : String → String) (cache : ChannelCache) (id : Int) : Prop :=
  ∀ group model retry filters draw ch,
    (cachedSatisfiedChannel baseName cache group model retry filters draw).1 = some ch →
      ch.routing.id ≠ id

def RoutingRow.ListsOnce (row : RoutingRow) : Prop :=
  row.getModels = [] ∨ row.groups.Nodup ∧ row.getModels.Nodup

section

variable {cache : ChannelCache} {group model : String} {id status : Int}
  {baseName : String → String}

theorem idsAt_cacheUpdateChannelStatus :
    idsAt (cacheUpdateChannelStatus cache id status).group2model2channels group model =
      if status ≠ channelStatusEnabled then
        (idsAt cache.group2model2channels group model).erase id
      else idsAt cache.group2model2channels group model := by
  rw [cacheUpdateChannelStatus]
  split
  · rw [idsAt_mapValues (by rfl)]
  · rfl

theorem idsAt_cacheStep (cache : ChannelCache) (change : CacheChange) (group model : String) :
    idsAt (cacheStep cache change).group2model2channels group model ⊆
      idsAt cache.group2model2channels group model := by
  cases change with
  | updateStatus id status =>
    rw [cacheStep, idsAt_cacheUpdateChannelStatus]
    split
    · exact erase_subset
    · exact List.Subset.refl _
  | updateChannel ch => exact List.Subset.refl _

theorem wellFormed_cacheStep (hwf : cache.WellFormed) (change : CacheChange) :
    (cacheStep cache change).WellFormed where
  listed := by
    intro group model id hid
    obtain ⟨ch, hch⟩ := hwf.listed group model id (idsAt_cacheStep cache change _ _ hid)
    cases change with
    | updateStatus changed status =>
      simp only [cacheStep, cacheUpdateChannelStatus]
      split
      · exact ⟨ch, hch⟩
      rw [lookup_insert]
      split
      · exact ⟨_, rfl⟩
      · exact ⟨ch, hch⟩
    | updateChannel replaced =>
      simp only [cacheStep, cacheUpdateChannel, lookup_insert]
      split
      · exact ⟨_, rfl⟩
      · exact ⟨ch, hch⟩
  keyed := by
    intro id ch hch
    cases change with
    | updateStatus changed status =>
      simp only [cacheStep, cacheUpdateChannelStatus] at hch
      split at hch
      · exact hwf.keyed id ch hch
      rename_i found hfound
      rw [lookup_insert] at hch
      split at hch
      next heq =>
        rw [← some.inj hch, heq]
        exact hwf.keyed changed found hfound
      · exact hwf.keyed id ch hch
    | updateChannel replaced =>
      simp only [cacheStep, cacheUpdateChannel, lookup_insert] at hch
      split at hch
      next heq => rw [← some.inj hch, heq]
      · exact hwf.keyed id ch hch

theorem notRouted_of_notMem (hwf : cache.WellFormed)
    (hnot : ∀ group model, id ∉ idsAt cache.group2model2channels group model) :
    NotRouted baseName cache id := by
  intro group model retry filters draw ch hsel heq
  obtain ⟨found, hfound, hlookup⟩ :=
    mem_filterMap.mp (mem_of_cachedSatisfiedChannel hwf hsel)
  obtain ⟨name, hname⟩ := mem_idsAt_of_mem_candidateIds hwf hfound
  rw [← hwf.keyed found _ hlookup, heq] at hname
  exact hnot group name hname

theorem RoutingRow.listsOnce_iff {row : RoutingRow} :
    row.ListsOnce ↔ ∀ group model, row.groups.count group * row.getModels.count model ≤ 1 := by
  constructor
  · rintro (hnone | ⟨hgroups, hmodels⟩) group model
    · rw [hnone, count_nil]
      omega
    have hgroup := nodup_iff_count_le_one.mp hgroups group
    have hmodel := nodup_iff_count_le_one.mp hmodels model
    calc row.groups.count group * row.getModels.count model ≤ 1 * 1 :=
          Nat.mul_le_mul hgroup hmodel
      _ = 1 := rfl
  · intro h
    by_cases hnone : row.getModels = []
    · exact .inl hnone
    -- Both lists have an element, so an element that is repeated makes a repeated pair.
    obtain ⟨model, hmodel⟩ := exists_mem_of_ne_nil _ hnone
    obtain ⟨group, hgroup⟩ := exists_mem_of_ne_nil _ (GoText.split_ne_nil ',' row.group)
    refine .inr ⟨nodup_iff_count_le_one.mpr fun g => ?_, nodup_iff_count_le_one.mpr fun m => ?_⟩
    · have hpos : 0 < row.getModels.count model := count_pos_iff.mpr hmodel
      exact (Nat.le_mul_of_pos_right _ hpos).trans (h g model)
    · have hpos : 0 < row.groups.count group := count_pos_iff.mpr hgroup
      exact (Nat.le_mul_of_pos_left _ hpos).trans (h group m)

theorem notRouted_run (hwf : cache.WellFormed)
    (hnot : ∀ group model, id ∉ idsAt cache.group2model2channels group model)
    (changes : List CacheChange) :
    NotRouted baseName (run cacheStep cache changes) id := by
  induction changes generalizing cache with
  | nil => exact notRouted_of_notMem hwf hnot
  | cons change changes ih =>
    exact ih (wellFormed_cacheStep hwf change) fun group model hid =>
      hnot group model (idsAt_cacheStep cache change group model hid)

theorem mem_candidateIds_of_mem (hwf : cache.WellFormed)
    (hid : id ∈ idsAt cache.group2model2channels group model) :
    id ∈ candidateIds baseName cache group model [] := by
  have hall : (filterCandidateIDs cache.channelsIDM
      (idsAt cache.group2model2channels group model) model []).1 =
        idsAt cache.group2model2channels group model := by
    rw [filterCandidateIDs_fst (hwf.listed group model)]
    refine filter_eq_self.mpr fun other hother => ?_
    obtain ⟨ch, hch⟩ := hwf.listed group model other hother
    rw [passesFilters, hch]
    rfl
  have hne : ¬ (idsAt cache.group2model2channels group model).isEmpty = true := by
    rw [List.isEmpty_iff]
    exact ne_nil_of_mem hid
  rw [candidateIds, hall, if_neg hne]
  exact hid

theorem exists_routed (hwf : cache.WellFormed) {ch : CachedChannel}
    (hid : ch.routing.id ∈ idsAt cache.group2model2channels group model)
    (hweight : ch.getWeight = 0)
    (hpriority : ∀ id other, cache.channelsIDM.lookup id = some other →
      other.getPriority ≠ ch.getPriority) :
    ¬ NotRouted baseName (cacheStep cache (.updateChannel ch)) ch.routing.id := by
  intro hnot
  have hwf' := wellFormed_cacheStep hwf (.updateChannel ch)
  have hlookup (id : Int) : (cacheStep cache (.updateChannel ch)).channelsIDM.lookup id =
      if id = ch.routing.id then some ch else cache.channelsIDM.lookup id := by
    rw [cacheStep, cacheUpdateChannel, lookup_insert]
  have hmem : ch ∈ (cacheStep cache (.updateChannel ch)).candidates baseName group model [] :=
    mem_filterMap.mpr ⟨ch.routing.id, mem_candidateIds_of_mem hwf' hid, by simp [hlookup]⟩
  obtain ⟨retry, hretry⟩ : ∃ retry, ch ∈ tier getPriority
      ((cacheStep cache (.updateChannel ch)).candidates baseName group model []) retry :=
    exists_mem_tier hmem
  have halone : ∀ other ∈ tier getPriority ((cacheStep cache (.updateChannel ch)).candidates
      baseName group model []) retry, other = ch := by
    intro other hother
    obtain ⟨hcandidate, hlevel⟩ := mem_tier.mp hother
    obtain ⟨id, -, hfound⟩ := mem_filterMap.mp hcandidate
    rw [hlookup] at hfound
    split at hfound
    · exact (some.inj hfound).symm
    · exact absurd (some.inj (hlevel.symm.trans (mem_tier.mp hretry).2)) (hpriority id other hfound)
  have hsel : (cachedSatisfiedChannel baseName
      (cacheStep cache (.updateChannel ch)) group model retry [] 0).1 = some ch := by
    obtain ⟨found, hone, hsel⟩ | hdrawn :=
      cachedSatisfiedChannel_cases hwf' (ne_nil_of_mem hmem) 0
    · rw [hone, mem_singleton] at hmem
      rw [hsel, hmem]
    · rw [hdrawn, drawFromTier_alone hretry halone hweight]
  exact hnot group model retry [] 0 ch hsel rfl

/-- **Disabled channels.** After a channel is disabled in a built cache no request gets it, whatever
the later changes of the cache, exactly if it is not enabled in the database or lists each pair of a
group and a model once. -/
theorem not_routed_iff (table : ChannelTable) {abilities : List Ability} {old : ChannelCache}
    {parse : KeyParser}
    (hinit : initChannelCache parse table.rows abilities old = some cache)
    (hstatus : status ≠ channelStatusEnabled) :
    (∀ changes, NotRouted baseName
        (run cacheStep (cacheUpdateChannelStatus cache id status) changes) id) ↔
      ∀ stored ∈ table.rows, stored.routing.id = id →
        stored.routing.status = channelStatusEnabled → stored.routing.ListsOnce := by
  have hwf := wellFormed_init table.idsNodup hinit
  have hwf' := wellFormed_cacheStep hwf (.updateStatus id status)
  have herased : ∀ group model,
      idsAt (cacheUpdateChannelStatus cache id status).group2model2channels group model =
        (idsAt cache.group2model2channels group model).erase id := by
    intro group model
    rw [idsAt_cacheUpdateChannelStatus, if_pos hstatus]
  constructor
  · rintro hnot stored hstored rfl hon
    refine RoutingRow.listsOnce_iff.mpr fun group model => ?_
    by_contra htwice
    have hcount : (idsAt cache.group2model2channels group model).count stored.routing.id =
        stored.routing.groups.count group * stored.routing.getModels.count model := by
      rw [count_idsAt_init table.idsNodup hinit hstored, if_pos hon]
    have hleft : stored.routing.id ∈ idsAt
        (cacheUpdateChannelStatus cache stored.routing.id status).group2model2channels group
          model := by
      rw [herased]
      refine count_pos_iff.mp ?_
      rw [count_erase_self]
      omega
    -- The entry that is left is served at the latest when the channel has a tier for itself.
    obtain ⟨p, hp⟩ := Infinite.exists_notMem_finset ((cacheStep cache
      (.updateStatus stored.routing.id status)).channelsIDM.entries.map fun e =>
        e.2.getPriority).toFinset
    let alone : CachedChannel :=
      { routing := { stored.routing with weight := some 0, priority := some p }
        key := stored.key
        channelInfo := stored.channelInfo
        keys := [] }
    have hid : alone.routing.id ∈ idsAt
        (cacheStep cache (.updateStatus stored.routing.id status)).group2model2channels group
          model := hleft
    refine exists_routed hwf' hid rfl (fun other c hc hsame => hp ?_) (hnot [.updateChannel alone])
    rw [List.mem_toFinset, List.mem_map]
    exact ⟨_, AList.mem_lookup_iff.mp hc, hsame⟩
  · intro honce
    refine notRouted_run hwf' fun group model hid => ?_
    have hleft : id ∈ (idsAt cache.group2model2channels group model).erase id :=
      herased group model ▸ hid
    obtain ⟨stored, hstored, hentry⟩ := (mem_idsAt_init hinit).mp (mem_of_mem_erase hleft)
    obtain ⟨hon, rfl, -⟩ := mem_entries.mp hentry
    have hle := RoutingRow.listsOnce_iff.mp (honce stored hstored rfl hon) group model
    have hpos := count_pos_iff.mpr hleft
    rw [count_erase_self, count_idsAt_init table.idsNodup hinit hstored, if_pos hon] at hpos
    omega

end

def sampleStored (id : Int) (models : String) (weight : ℕ) : StoredChannel where
  routing :=
    { id := id
      channelType := 1
      status := channelStatusEnabled
      weight := some weight
      models := models
      group := "default"
      priority := none
      tag := none
      taskPluginKey := ""
      advancedCustom := none }
  key := "sk"
  channelInfo :=
    { isMultiKey := false
      multiKeySize := 0
      multiKeyStatusList := ∅
      multiKeyDisabledReason := ∅
      multiKeyDisabledTime := ∅
      multiKeyPriority := ∅
      multiKeyPollingIndex := 0
      multiKeyMode := .other "" }

def emptyCache : ChannelCache := ⟨∅, ∅⟩

/-- **The index can be built.** The construction writes into no absent map and lists every enabled
channel under its groups and models exactly if each group of an enabled channel with a model has a
row in `abilities`. -/
theorem init_lists_iff (parse : KeyParser) (chs : List StoredChannel)
    (abilities : List Ability) (old : ChannelCache) :
    (∃ cache, initChannelCache parse chs abilities old = some cache ∧
        ∀ stored ∈ chs, stored.routing.status = channelStatusEnabled →
          ∀ group ∈ stored.routing.groups, ∀ model ∈ stored.routing.getModels,
            stored.routing.id ∈ idsAt cache.group2model2channels group model) ↔
      ∀ stored ∈ chs, stored.routing.status = channelStatusEnabled →
        stored.routing.getModels ≠ [] → ∀ group ∈ stored.routing.groups,
          ∃ ability ∈ abilities, ability.group = group := by
  rw [← @isSome_initChannelCache chs abilities old parse, isSome_iff_exists]
  refine exists_congr fun cache => and_iff_left_of_imp fun hinit => ?_
  intro stored hstored hon group hgroup model hmodel
  exact (mem_idsAt_init hinit).mpr ⟨stored, hstored, mem_entries.mpr ⟨hon, rfl, hgroup, hmodel⟩⟩

/-- While the abilities are rebuilt a group can be without rows. -/
theorem init_fails_without_abilities :
    (initChannelCache (fun _ => none) [sampleStored 7 "gpt" 0] [] emptyCache).isNone = true := by
  decide +kernel

def sampleTable : ChannelTable := ⟨[sampleStored 7 "gpt,claude" 0], by decide⟩

theorem not_routed_sampleTable : ∃ cache, initChannelCache (fun _ => none) sampleTable.rows
        (sampleTable.rows.flatMap fun c => c.routing.addAbilities) emptyCache = some cache ∧
      ∀ changes, NotRouted id
        (run cacheStep (cacheUpdateChannelStatus cache 7 channelStatusAutoDisabled) changes) 7 := by
  have hbuilt : (initChannelCache (fun _ => none) sampleTable.rows
      (sampleTable.rows.flatMap fun c => c.routing.addAbilities) emptyCache).isSome = true := by
    decide +kernel
  obtain ⟨cache, hinit⟩ := isSome_iff_exists.mp hbuilt
  refine ⟨cache, hinit, (not_routed_iff sampleTable hinit (by decide)).mpr ?_⟩
  intro stored hstored _ _
  obtain rfl := mem_singleton.mp hstored
  exact .inr (by decide +kernel)

/-- A channel that lists a model twice is still selected after it is disabled. -/
theorem disabled_channel_routed :
    let table := [sampleStored 7 "gpt,gpt" 0]
    let cache := initChannelCache (fun _ => none) table
      (table.flatMap fun c => c.routing.addAbilities) emptyCache
    cache.map (fun cache => (cachedSatisfiedChannel id
      (cacheUpdateChannelStatus cache 7 channelStatusAutoDisabled) "default" "gpt" 0 [] 0).1.map
        fun c => (c.routing.id, c.routing.status)) = some (some (7, 3)) := by
  decide +kernel

/-! ### The weighted pick -/

theorem wellFormed_run {cache : ChannelCache} (hwf : cache.WellFormed)
    (changes : List CacheChange) : (run cacheStep cache changes).WellFormed := by
  induction changes generalizing cache with
  | nil => exact hwf
  | cons change changes ih => exact ih (wellFormed_cacheStep hwf change)

open scoped Classical in
/-- A channel of the tier is picked whatever is drawn, and over all draws each channel gets as many
as its weight, scaled and shifted by the smoothing, for each time that it is listed. -/
def PicksByWeight (targets : List CachedChannel) (pick : ℕ → SelectResult CachedChannel) : Prop :=
  let sumWeight := Int64.wrap (total getWeight targets)
  (∀ draw, ∃ ch ∈ targets, pick draw = (some ch, none)) ∧ ∀ ch ∈ targets,
    ((range (totalWeight sumWeight targets.length).toNat).countP fun draw =>
      (pick draw).1 = some ch) = targets.count ch * smoothedWeight sumWeight targets.length ch

open scoped Classical in
/-- **The weighted pick.** Take a cache that has been built and then changed in any way, and a
request with a candidate. The tier of its retry is picked from by weight exactly if no sum of the
tier leaves the 64-bit range. -/
theorem weighted_pick_iff (table : ChannelTable) {abilities : List Ability}
    {old built : ChannelCache} {parse : KeyParser}
    (hinit : initChannelCache parse table.rows abilities old = some built)
    (changes : List CacheChange) (baseName : String → String) (group model : String)
    (filters : List ChannelFilter) (retry : ℕ)
    (hne : (run cacheStep built changes).candidates baseName group model filters ≠ []) :
    let cache := run cacheStep built changes
    let targets := tier getPriority (cache.candidates baseName group model filters) retry
    let pick := cachedSatisfiedChannel baseName cache group model retry filters
    targets.length * 100 < 2 ^ 63 → (PicksByWeight targets pick ↔ TierFits targets) := by
  intro cache targets pick hlength
  have hwf : cache.WellFormed := wellFormed_run (wellFormed_init table.idsNodup hinit) changes
  constructor
  · -- The shares of all channels are at most as many as there are draws.
    rintro ⟨-, hshares⟩
    exact tierFits_of_total_le hlength rfl (total_le_of_shares hshares)
  intro hfits
  refine ⟨fun draw => ?_, fun ch _ => ?_⟩
  · obtain ⟨ch, hserved, hpick⟩ := cachedSatisfiedChannel_served hwf hne hfits draw
    exact ⟨ch, hserved.1, hpick⟩
  have hpick : ∀ draw ∈ range (total (effectiveWeight targets) targets), (pick draw).1 = some ch ↔
        walk (effectiveWeight targets) 0 targets (draw : ℕ) = some ch := by
    intro draw hdraw
    have hdrawn : pick draw = _ :=
      (cachedSatisfiedChannel_eq hwf hne hfits draw).trans (drawFromTier_eq hne hfits draw)
    rw [hdrawn, Nat.mod_eq_of_lt (mem_range.mp hdraw)]
    cases walk (effectiveWeight targets) 0 targets (draw : ℕ) with
    | none | some drawn => rfl
  rw [wrap_total_eq hfits, totalWeight_eq hfits, Int.toNat_natCast]
  rw [countP_congr (q := fun draw : ℕ => walk (effectiveWeight targets) 0 targets draw =
    some ch) fun draw hdraw => by simpa only [decide_eq_true_eq] using hpick draw hdraw]
  exact countP_walk (effectiveWeight targets) targets ch

def sampleWeights : ChannelTable := ⟨[sampleStored 7 "gpt" 0, sampleStored 8 "gpt" 5], by decide⟩

theorem weighted_pick_sampleWeights : ∃ cache, initChannelCache (fun _ => none) sampleWeights.rows
        (sampleWeights.rows.flatMap fun c => c.routing.addAbilities) emptyCache = some cache ∧
      let targets := tier getPriority (cache.candidates id "default" "gpt" []) 3
      targets.length = 2 ∧
        PicksByWeight targets (cachedSatisfiedChannel id cache "default" "gpt" 3 []) := by
  have hbuilt : (initChannelCache (fun _ => none) sampleWeights.rows
      (sampleWeights.rows.flatMap fun c => c.routing.addAbilities) emptyCache).map (fun cache =>
        let targets := tier getPriority (cache.candidates id "default" "gpt" []) 3
        (targets.length, total (effectiveWeight targets) targets)) = some (2, 500) := by
    decide +kernel
  obtain ⟨cache, hinit, hvalues⟩ := map_eq_some_iff.mp hbuilt
  obtain ⟨hlength, htotal⟩ := mk.inj hvalues
  have hne : (run cacheStep cache []).candidates id "default" "gpt" [] ≠ [] := by
    intro hnil
    rw [run_nil] at hnil
    simp [hnil, tier] at hlength
  have hfits : TierFits (tier getPriority (cache.candidates id "default" "gpt" []) 3) := by
    rw [TierFits, htotal]
    decide
  exact ⟨cache, hinit, hlength, (weighted_pick_iff sampleWeights hinit [] id "default" "gpt" [] 3
    hne (by rw [run_nil, hlength]; decide)).mpr hfits⟩

/-- Two weights of `2 ^ 62` have a sum that wraps around to `-2 ^ 63`; times the factor `100` that
is `0`, and `rand.Intn` panics. -/
theorem weights_overflow :
    let table := [sampleStored 7 "gpt" (2 ^ 62), sampleStored 8 "gpt" (2 ^ 62)]
    (initChannelCache (fun _ => none) table (table.flatMap fun c => c.routing.addAbilities)
      emptyCache).map (fun cache =>
        let picked := cachedSatisfiedChannel id cache "default" "gpt" 0 [] 0
        (picked.1.isNone, picked.2)) = some (true, some intnPanic) := by
  decide +kernel

end NewApi.Model
