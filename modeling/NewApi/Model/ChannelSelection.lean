import NewApi.Model.ChannelCache

/-!
# The two paths of the selection

Without the memory cache `GetRandomSatisfiedChannel` selects from the rows of `abilities` in the
database. The two paths are compared for the abilities that `AddAbilities` writes and a cache that
is built from the same channels.

Source: `model/ability.go`.
-/

namespace NewApi.Model

open PriorityTier WeightedDraw List Option GoMap

/-! ### The selection from the database -/

structure SelectErrors where
  abilities : Option String
  channels : Option String
  channel : Option String

def Ability.getPriority (ability : Ability) : Int := ability.priority.getD 0

/-- The weight of a row in the draw. -/
def Ability.drawWeight (ability : Ability) : ℕ := ability.weight + 10

/-- The enabled rows of a group and a model, by their priority and weight. -/
def abilityQuery (abilities : List Ability) (group model : String) : List Ability :=
  (abilities.filter fun a => a.group = group && a.model = model && a.enabled).insertionSort
    fun a b => a.getPriority > b.getPriority ∨ a.getPriority = b.getPriority ∧ a.weight ≥ b.weight

def identityFilterRequiresKey (filters : List ChannelFilter) : Bool :=
  filters.any fun filter => filter.kind == .taskPluginIdentity && filter.taskPluginKey != ""

def filterAbilitiesByConstraints (chs : List StoredChannel) (err : Option String)
    (abilities : List Ability) (modelName : String) (filters : List ChannelFilter) : List Ability :=
  if abilities.isEmpty then []
  else
    let channelIds := (abilities.map fun a => a.channelId).dedup
    match err with
    | some _ => if identityFilterRequiresKey filters then [] else abilities
    | none =>
      let channelsByID := ofList (fun c : StoredChannel => c.routing.id)
        (chs.filter fun c => channelIds.contains c.routing.id)
      abilities.filter fun a => (channelSatisfiesFilters
        ((channelsByID.lookup a.channelId).map fun c => c.routing) modelName filters).1

def emptyChannel (id : Int) : StoredChannel where
  routing :=
    { id := id
      channelType := 0
      status := channelStatusUnknown
      weight := none
      models := ""
      group := ""
      priority := none
      tag := none
      taskPluginKey := ""
      advancedCustom := none }
  key := ""
  channelInfo :=
    { isMultiKey := false
      multiKeySize := 0
      multiKeyStatusList := ∅
      multiKeyDisabledReason := ∅
      multiKeyDisabledTime := ∅
      multiKeyPriority := ∅
      multiKeyPollingIndex := 0
      multiKeyMode := .other "" }

/-- The read of the row of a selected channel. With an error the channel has only its id. -/
def firstChannel (chs : List StoredChannel) (err : Option String) (id : Int) :
    SelectResult StoredChannel :=
  match err with
  | some err => (some (emptyChannel id), some err)
  | none =>
    match chs.find? fun c => c.routing.id = id with
    | some ch => (some ch, none)
    | none => (some (emptyChannel id), some "record not found")

/-- The draw among the abilities that pass the filters, in the 64-bit arithmetic of the source. -/
def drawAbility (chs : List StoredChannel) (err : Option String) (abilities : List Ability)
    (retry draw : ℕ) : SelectResult StoredChannel :=
  let priorities := levels Ability.getPriority abilities
  let targetPriority := (levelAt priorities retry).getD 0
  let abilities := abilities.filter fun a =>
    a.priority = none ∧ targetPriority = 0 ∨ a.priority = some targetPriority
  if abilities.isEmpty then (none, none)
  else
    let weightSum := Int64.wrap (total Ability.drawWeight abilities)
    match intn weightSum draw with
    | none => (none, some intnPanic)
    | some weight =>
      let chosen := walkIn Int64.wrap Ability.drawWeight 1 abilities weight
      firstChannel chs err ((chosen.map fun a => a.channelId).getD 0)

/-- The selection in the database, `model/ability.go`. -/
def getChannel (chs : List StoredChannel) (abilities : List Ability) (errors : SelectErrors)
    (group model : String) (retry : ℕ) (filters : List ChannelFilter) (draw : ℕ) :
    SelectResult StoredChannel :=
  match errors.abilities with
  | some err => (none, some err)
  | none =>
    drawAbility chs errors.channel
      (filterAbilitiesByConstraints chs errors.channels (abilityQuery abilities group model)
        model filters) retry draw

structure ChannelStore where
  memoryCacheEnabled : Bool
  channels : List StoredChannel
  abilities : List Ability
  cache : ChannelCache

/-- From the cache if it is enabled, else from the database. -/
def getRandomSatisfiedChannel (baseName : String → String) (store : ChannelStore)
    (errors : SelectErrors) (group model : String) (retry : ℕ) (filters : List ChannelFilter)
    (draw : ℕ) : SelectResult RoutingRow :=
  if !store.memoryCacheEnabled then
    (getChannel store.channels store.abilities errors group model retry filters draw).map
      (Option.map StoredChannel.routing) id
  else
    (cachedSatisfiedChannel baseName store.cache group model retry filters draw).map
      (Option.map CachedChannel.routing) id

/-- The read of a channel by its id. `err` is an error of the query.

Source: `model/channel_cache.go` and `model/channel.go`. -/
def cacheGetChannel (store : ChannelStore) (err : Option String) (id : Int) :
    Except String RoutingRow :=
  if !store.memoryCacheEnabled then
    match err, store.channels.find? fun c => c.routing.id = id with
    | some err, _ => .error err
    | none, none => .error "record not found"
    | none, some ch => .ok ch.routing
  else
    match store.cache.channelsIDM.lookup id with
    | none => .error ("渠道# " ++ toString id ++ "，已不存在")
    | some ch => .ok ch.routing

/-- Whether an enabled row of `abilities` has the group, the model and the channel. A failed count
reads as zero. -/
def countsAbility (store : ChannelStore) (err : Option String) (group model : String)
    (channelID : Int) : Bool :=
  err.isNone && store.abilities.any fun a =>
    a.group = group && a.model = model && a.channelId = channelID && a.enabled

def isChannelEnabledForGroupModel (baseName : String → String) (store : ChannelStore)
    (err : Option String) (group modelName : String) (channelID : Int) : Bool :=
  let listed := fun name =>
    if !store.memoryCacheEnabled then countsAbility store err group name channelID
    else (idsAt store.cache.group2model2channels group name).contains channelID
  let normalized := routingMatchModelName baseName modelName
  if group = "" ∨ modelName = "" ∨ channelID ≤ 0 then false
  else if listed modelName then true
  else if normalized ≠ "" ∧ normalized ≠ modelName then listed normalized
  else false

/-! ### What the database path returns -/

def noErrors : SelectErrors := ⟨none, none, none⟩

def abilityCandidates (chs : List StoredChannel) (abilities : List Ability)
    (group model : String) (filters : List ChannelFilter) : List Ability :=
  filterAbilitiesByConstraints chs none (abilityQuery abilities group model) model filters

open Ability

section

variable {chs : List StoredChannel} {abilities : List Ability} {group model : String}
  {filters : List ChannelFilter} {ability : Ability} {retry : ℕ}

theorem mem_abilityQuery : ability ∈ abilityQuery abilities group model ↔ ability ∈ abilities ∧
    ability.group = group ∧ ability.model = model ∧ ability.enabled = true := by
  rw [abilityQuery, mem_insertionSort, mem_filter]
  simp [and_assoc]

theorem mem_abilityCandidates (hids : (chs.map fun c => c.routing.id).Nodup) :
    ability ∈ abilityCandidates chs abilities group model filters ↔
      ability ∈ abilityQuery abilities group model ∧ ∃ stored ∈ chs,
        stored.routing.id = ability.channelId ∧
          filters.all (channelMatchesFilter stored.routing model) = true := by
  rw [abilityCandidates, filterAbilitiesByConstraints]
  split
  next hempty =>
    rw [isEmpty_iff.mp hempty]
    simp
  have hfiltered : ((chs.filter fun c => ((abilityQuery abilities group model).map fun a =>
      a.channelId).dedup.contains c.routing.id).map fun c => c.routing.id).Nodup :=
    hids.sublist (filter_sublist.map _)
  simp only [mem_filter]
  refine and_congr_right fun hab => ?_
  constructor
  · intro hpasses
    cases hlookup : AList.lookup ability.channelId (ofList
        (fun c : StoredChannel => c.routing.id) (chs.filter fun c =>
          ((abilityQuery abilities group model).map fun a => a.channelId).dedup.contains
            c.routing.id)) with
    | none =>
      rw [hlookup] at hpasses
      cases hpasses
    | some stored =>
      rw [hlookup, map_some, channelSatisfiesFilters_fst] at hpasses
      obtain ⟨hstored, hid⟩ := (lookup_ofList hfiltered).mp hlookup
      exact ⟨stored, mem_of_mem_filter hstored, hid, hpasses⟩
  · rintro ⟨stored, hstored, hid, hpasses⟩
    have hlisted : stored ∈ chs.filter fun c =>
        ((abilityQuery abilities group model).map fun a => a.channelId).dedup.contains
          c.routing.id := by
      refine mem_filter.mpr ⟨hstored, ?_⟩
      rw [contains_iff_mem, mem_dedup, hid]
      exact mem_map_of_mem hab
    rw [(lookup_ofList hfiltered).mpr ⟨hlisted, hid⟩, map_some, channelSatisfiesFilters_fst]
    exact hpasses

theorem filter_priority_eq_tier (hne : abilities ≠ []) :
    (abilities.filter fun a => a.priority = none ∧
      (levelAt (levels Ability.getPriority abilities) retry).getD 0 = 0 ∨
        a.priority = some ((levelAt (levels Ability.getPriority abilities) retry).getD 0)) =
    tier Ability.getPriority abilities retry := by
  obtain ⟨a, -, hlevel⟩ := exists_levelAt getPriority hne retry
  rw [tier, hlevel]
  refine filter_congr fun other _ => ?_
  rw [getPriority, getPriority]
  cases other.priority with
  | none | some priority => simp [eq_comm]

theorem firstChannel_eq (hids : (chs.map fun c => c.routing.id).Nodup)
    {stored : StoredChannel} (hstored : stored ∈ chs) :
    firstChannel chs none stored.routing.id = (some stored, none) := by
  rw [firstChannel]
  cases hfind : chs.find? fun c => c.routing.id = stored.routing.id with
  | none => simpa using find?_eq_none.mp hfind stored hstored
  | some found =>
    have hid : found.routing.id = stored.routing.id := by simpa using find?_some hfind
    rw [inj_on_of_nodup_map hids (mem_of_find?_eq_some hfind) hstored hid]

theorem filterAbilitiesByConstraints_sublist (err : Option String) :
    (filterAbilitiesByConstraints chs err abilities model filters).Sublist abilities := by
  rw [filterAbilitiesByConstraints]
  split
  · exact nil_sublist abilities
  split
  · split
    · exact nil_sublist abilities
    · exact List.Sublist.refl abilities
  · exact filter_sublist

theorem total_tier_le (chs : List StoredChannel) (abilities : List Ability)
    (group model : String) (filters : List ChannelFilter) (retry : ℕ) :
    total drawWeight (tier getPriority
      (abilityCandidates chs abilities group model filters) retry) ≤
        total drawWeight abilities := by
  have hquery : (abilityQuery abilities group model).Subperm abilities := by
    rw [abilityQuery]
    exact (perm_insertionSort _ _).subperm.trans filter_sublist.subperm
  refine total_le_of_subperm (List.Subperm.trans (Sublist.subperm ?_) hquery)
  exact filter_sublist.trans (filterAbilitiesByConstraints_sublist none)

theorem drawWeight_pos (ability : Ability) : 0 < ability.drawWeight := by
  rw [drawWeight]
  omega

theorem total_drawWeight_pos {targets : List Ability} (hne : targets ≠ []) :
    0 < total drawWeight targets := by
  obtain ⟨first, rest, rfl⟩ := exists_cons_of_ne_nil hne
  have hfirst := drawWeight_pos first
  rw [total_cons]
  omega

theorem drawAbility_eq {err : Option String} (hne : abilities ≠ [])
    (hfits : total drawWeight (tier getPriority abilities retry) < 2 ^ 63) (draw : ℕ) :
    let targets := tier getPriority abilities retry
    drawAbility chs err abilities retry draw =
      firstChannel chs err (((walk drawWeight 1 targets
          (draw % total drawWeight targets : ℕ)).map fun a => a.channelId).getD 0) := by
  intro targets
  have htargets : targets ≠ [] := tier_ne_nil hne retry
  have hfits : total drawWeight targets < 2 ^ 63 := hfits
  have hpos := total_drawWeight_pos htargets
  have hlt := Nat.mod_lt draw hpos
  have hwalk : walkIn Int64.wrap drawWeight 1 targets (draw % total drawWeight targets : ℕ) = _ :=
    walkIn_eq (fun _ => Int64.wrap_of_mem) zero_le_one (by omega) (Int.natCast_nonneg _) (by omega)
  simp only [drawAbility, filter_priority_eq_tier hne]
  rw [if_neg (by simpa using htargets), Int64.wrap_of_mem (by omega) (by omega), intn_of_pos hpos,
    ← hwalk]

theorem getChannel_noErrors (retry draw : ℕ) :
    getChannel chs abilities noErrors group model retry filters draw = drawAbility chs
      none (abilityCandidates chs abilities group model filters) retry draw := rfl

theorem getChannel_of_nil (hnone : abilityCandidates chs abilities group model filters = [])
    (retry draw : ℕ) :
    getChannel chs abilities noErrors group model retry filters draw = (none, none) := by
  rw [getChannel_noErrors, hnone]
  rfl

theorem getChannel_served (hids : (chs.map fun c => c.routing.id).Nodup)
    (hne : abilityCandidates chs abilities group model filters ≠ [])
    (hfits : total drawWeight (tier getPriority
      (abilityCandidates chs abilities group model filters) retry) < 2 ^ 63) (draw : ℕ) :
    ∃ ability ∈ tier Ability.getPriority
        (abilityCandidates chs abilities group model filters) retry,
      ∃ stored ∈ chs, stored.routing.id = ability.channelId ∧
        getChannel chs abilities noErrors group model retry filters draw = (some stored, none) := by
  have hpos : 0 < total drawWeight (tier getPriority
      (abilityCandidates chs abilities group model filters) retry) :=
    total_drawWeight_pos (tier_ne_nil hne retry)
  obtain ⟨ability, hwalk⟩ := exists_walk_of_lt (by decide : (0 : ℤ) ≤ 1) (Int.natCast_nonneg _)
    (Int.ofNat_lt.mpr (Nat.mod_lt draw hpos))
  have hab := mem_of_walkIn hwalk
  obtain ⟨-, stored, hstored, hid, -⟩ := (mem_abilityCandidates hids).mp (mem_tier.mp hab).1
  refine ⟨ability, hab, stored, hstored, hid, ?_⟩
  rw [getChannel_noErrors, drawAbility_eq hne hfits, hwalk, map_some, getD_some, ← hid,
    firstChannel_eq hids hstored]

theorem exists_getChannel (hids : (chs.map fun c => c.routing.id).Nodup)
    (hab : ability ∈ tier Ability.getPriority
      (abilityCandidates chs abilities group model filters) retry)
    (hfits : total drawWeight (tier getPriority
      (abilityCandidates chs abilities group model filters) retry) < 2 ^ 63)
    {stored : StoredChannel} (hstored : stored ∈ chs)
    (hid : stored.routing.id = ability.channelId) :
    ∃ draw, getChannel chs abilities noErrors group model retry filters draw =
      (some stored, none) := by
  have hne := ne_nil_of_mem (mem_tier.mp hab).1
  have hweight : (1 : ℤ) < ability.drawWeight := by
    rw [drawWeight]
    omega
  obtain ⟨draw, hlt, hwalk⟩ := exists_walk (by decide : (0 : ℤ) ≤ 1) hab hweight
  refine ⟨draw, ?_⟩
  rw [getChannel_noErrors, drawAbility_eq hne hfits, Nat.mod_eq_of_lt hlt, hwalk, map_some,
    getD_some, ← hid, firstChannel_eq hids hstored]

/-! ### The shares of the abilities -/

theorem firstChannel_id (chs : List StoredChannel) (err : Option String) (id : Int) :
    ((firstChannel chs err id).1.map fun c => c.routing.id) = some id := by
  cases err with
  | some err => rfl
  | none =>
    rw [firstChannel]
    cases hfind : chs.find? fun c => c.routing.id = id with
    | none => rfl
    | some found => simpa using find?_some hfind

theorem nodup_abilityQuery (hkey : (abilities.map fun a => (a.group, a.model, a.channelId)).Nodup) :
    ((abilityQuery abilities group model).map fun a => a.channelId).Nodup := by
  rw [abilityQuery, ((perm_insertionSort _ _).map _).nodup_iff]
  have hpairs := hkey.sublist ((filter_sublist (l := abilities) (p := fun a =>
    a.group = group && a.model = model && a.enabled)).map _)
  refine List.Nodup.of_map (fun id => (group, model, id)) ?_
  rw [List.map_map]
  convert hpairs using 1
  refine map_congr_left fun ability hab => ?_
  obtain ⟨⟨hgroup, hmodel⟩, -⟩ : (ability.group = group ∧ ability.model = model) ∧ _ := by
    simpa using (mem_filter.mp hab).2
  rw [Function.comp_apply, hgroup, hmodel]

/-- **The shares of the abilities.** Let the sum of a tier be in the 64-bit range. Over the numbers
that can be drawn, the channel of an ability of the tier is selected as often as its weight plus ten
exactly if the ability is the only one of the tier or stands neither first nor last: the walk gives
one number of the last ability to the first. Beyond the range some ability does not get its share.
The key of the table is the group, the model and the channel. -/
theorem getChannel_share_iff (chs : List StoredChannel) (abilities : List Ability)
    (errors : SelectErrors) (hread : errors.abilities = none)
    (hkey : (abilities.map fun a => (a.group, a.model, a.channelId)).Nodup)
    (group model : String) (filters : List ChannelFilter) (retry : ℕ) :
    let targets := tier getPriority (filterAbilitiesByConstraints chs errors.channels
      (abilityQuery abilities group model) model filters) retry
    let share (ability : Ability) :=
      (range (Int64.wrap (total drawWeight targets)).toNat).countP fun draw =>
        ((getChannel chs abilities errors group model retry filters draw).1.map fun c =>
          c.routing.id) = some ability.channelId
    (total drawWeight targets < 2 ^ 63 → ∀ ability ∈ targets, share ability = ability.weight + 10 ↔
        (targets.head? = some ability ↔ targets.getLast? = some ability)) ∧
      (2 ^ 63 ≤ total drawWeight targets →
        ∃ ability ∈ targets, share ability ≠ ability.weight + 10) := by
  classical
  intro targets share
  have hids : (targets.map fun a => a.channelId).Nodup := (nodup_abilityQuery hkey).sublist
    ((filter_sublist.trans (filterAbilitiesByConstraints_sublist errors.channels)).map _)
  constructor
  · intro hfits ability hab
    have hdraw : ∀ draw ∈ range (total drawWeight targets),
        ((getChannel chs abilities errors group model retry filters draw).1.map fun c =>
            c.routing.id) = some ability.channelId ↔
          walk drawWeight 1 targets (draw : ℕ) = some ability := by
      intro draw hdraw
      have hlt := mem_range.mp hdraw
      obtain ⟨drawn, hwalk⟩ := exists_walk_of_lt (by decide : (0 : ℤ) ≤ 1)
        (Int.natCast_nonneg draw) (Int.ofNat_lt.mpr hlt)
      rw [getChannel, hread]
      rw [drawAbility_eq (ne_nil_of_mem (mem_tier.mp hab).1) hfits, firstChannel_id,
        Nat.mod_eq_of_lt hlt, hwalk, map_some, getD_some, some.injEq, some.injEq]
      exact ⟨inj_on_of_nodup_map hids (mem_of_walkIn hwalk) hab, congrArg _⟩
    have hcount : targets.count ability = 1 := count_eq_one_of_mem (hids.of_map _) hab
    have hshare := countP_walk_one (fun a _ => drawWeight_pos a) ability (l := targets)
    dsimp only [share]
    rw [Int64.wrap_of_mem (by omega) (by omega), Int.toNat_natCast,
      countP_congr (q := fun draw : ℕ => walk drawWeight 1 targets draw = some ability)
        fun draw hmem => by simpa only [decide_eq_true_eq] using hdraw draw hmem]
    rw [hcount, drawWeight] at hshare
    split_ifs at hshare with hlast hhead hhead <;> simp [hlast, hhead] <;> omega
  · -- There are fewer numbers than the sum of the shares.
    intro hlarge
    by_contra! hall
    have hle : total drawWeight targets ≤ _ := total_le_of_shares_of_nodup hids hall
    have hhigh := (Int64.wrap_mem (total drawWeight targets)).2
    omega

end

def ChannelTable.abilities (table : ChannelTable) : List Ability :=
  table.rows.flatMap fun stored => stored.routing.addAbilities

theorem getChannel_share_pair :
    let targets := tier getPriority (filterAbilitiesByConstraints sampleWeights.rows none
      (abilityQuery sampleWeights.abilities "default" "gpt") "gpt" []) 0
    targets.length = 2 ∧ ∀ ability ∈ targets,
      ((range (Int64.wrap (total drawWeight targets)).toNat).countP fun draw =>
          ((getChannel sampleWeights.rows sampleWeights.abilities noErrors "default" "gpt" 0 []
            draw).1.map fun c => c.routing.id) = some ability.channelId) = ability.weight + 10 ↔
        (targets.head? = some ability ↔ targets.getLast? = some ability) :=
  ⟨by decide +kernel, (getChannel_share_iff _ _ noErrors rfl (by decide +kernel) "default" "gpt" []
    0).1 (by decide +kernel)⟩

/-- Of the 25 numbers for the weights 5 and 0 the channel with the weight 5 gets 16 and the other 9,
not 15 and 10. -/
theorem getChannel_share_shifted :
    let draws (id : Int) := (range 25).countP fun draw =>
      ((getChannel sampleWeights.rows sampleWeights.abilities noErrors "default" "gpt" 0 []
        draw).1.map fun c => c.routing.id) = some id
    draws 8 = 16 ∧ draws 7 = 9 := by
  decide +kernel

/-! ### The candidates of the two paths -/

def RoutingRow.Admits (row : RoutingRow) (model : String) (filters : List ChannelFilter) : Prop :=
  row.status = channelStatusEnabled ∧ filters.all (channelMatchesFilter row model) = true

def RoutingRow.Lists (row : RoutingRow) (group model : String) : Prop :=
  group ∈ row.groups ∧ model ∈ row.getModels

def RoutingRow.HasAbility (row : RoutingRow) (group model : String) : Prop :=
  ∃ ability ∈ row.addAbilities, ability.group = group ∧ ability.model = model

theorem getPriority_of_mem_addAbilities {row : RoutingRow} {ability : Ability}
    (h : ability ∈ row.addAbilities) : ability.getPriority = row.getPriority := by
  rw [getPriority, (addAbilities_spec h).2.2.1, RoutingRow.getPriority]

def ChannelTable.store (table : ChannelTable) (cache : ChannelCache) (memoryCacheEnabled : Bool) :
    ChannelStore :=
  ⟨memoryCacheEnabled, table.rows, table.abilities, cache⟩

section

variable (baseName : String → String) (table : ChannelTable) (group model : String)
  (filters : List ChannelFilter)

/-- The cache finds the channel: by the name of the model, or by its normalised name if no channel
is found by the name. -/
def Routed (row : RoutingRow) : Prop :=
  row.Admits model filters ∧ (row.Lists group model ∨
    (¬ ∃ stored ∈ table.rows, stored.routing.Admits model filters ∧
      stored.routing.Lists group model) ∧
    row.Lists group (routingMatchModelName baseName model))

/-- The channel has no weight, and another one that the cache finds has the same priority and a
weight. -/
def Shadowed (row : RoutingRow) : Prop :=
  row.getWeight = 0 ∧ ∃ other ∈ table.rows,
    Routed baseName table group model filters other.routing ∧
      other.routing.getPriority = row.getPriority ∧ 0 < other.routing.getWeight

/-- The abilities are those of the channels that the cache finds, without those that have no weight
beside one of the same priority. -/
def SameCandidates : Prop :=
  ∀ stored ∈ table.rows, stored.routing.Admits model filters →
    (stored.routing.HasAbility group model ↔
      Routed baseName table group model filters stored.routing ∧
        ¬ Shadowed baseName table group model filters stored.routing)

def selectable (store : ChannelStore) (retry : ℕ) : Set RoutingRow :=
  {row | ∃ draw, (getRandomSatisfiedChannel baseName store noErrors group model retry filters
    draw).1 = some row}

/-- Some draw returns no channel. -/
def FindsNone (store : ChannelStore) (retry : ℕ) : Prop :=
  ∃ draw, (getRandomSatisfiedChannel baseName store noErrors group model retry filters
    draw).1 = none

/-- At every retry the cache returns the same channels as the database, and finds none exactly if
the database does. -/
def PathsAgree (cache : ChannelCache) : Prop :=
  ∀ retry, selectable baseName group model filters (table.store cache true) retry =
      selectable baseName group model filters (table.store cache false) retry ∧
    (FindsNone baseName group model filters (table.store cache true) retry ↔
      FindsNone baseName group model filters (table.store cache false) retry)

variable {baseName table group model filters} {retry : ℕ} {row : RoutingRow}
  {cache old : ChannelCache} {parse : KeyParser}

theorem not_shadowed_iff : ¬ Shadowed baseName table group model filters row ↔ 0 < row.getWeight ∨
      ∀ other ∈ table.rows, Routed baseName table group model filters other.routing →
        other.routing.getPriority = row.getPriority → other.routing.getWeight = 0 := by
  rw [Shadowed, not_and_or]
  simp [Nat.pos_iff_ne_zero]

section

variable (hinit : initChannelCache parse table.rows table.abilities old = some cache)
include hinit

theorem mem_filter_idsAt {name : String} {id : Int} :
    id ∈ (filterCandidateIDs cache.channelsIDM (idsAt cache.group2model2channels group name) model
        filters).1 ↔
      ∃ stored ∈ table.rows, stored.routing.id = id ∧ stored.routing.Admits model filters ∧
        stored.routing.Lists group name := by
  have hwf := wellFormed_init table.idsNodup hinit
  have hlookup : ∀ stored ∈ table.rows, cache.channelsIDM.lookup stored.routing.id =
      some (cachedChannel parse old.channelsIDM stored.routing.id stored) :=
    fun stored hstored => (lookup_init table.idsNodup hinit).mpr ⟨stored, hstored, rfl, rfl⟩
  rw [filterCandidateIDs_fst (hwf.listed group name), mem_filter, mem_idsAt_init hinit]
  constructor
  · rintro ⟨⟨stored, hstored, hentry⟩, hpasses⟩
    obtain ⟨hstatus, rfl, hlists⟩ := mem_entries.mp hentry
    rw [passesFilters, hlookup stored hstored] at hpasses
    exact ⟨stored, hstored, rfl, ⟨hstatus, hpasses⟩, hlists⟩
  · rintro ⟨stored, hstored, rfl, ⟨hstatus, hpasses⟩, hlists⟩
    refine ⟨⟨stored, hstored, mem_entries.mpr ⟨hstatus, rfl, hlists⟩⟩, ?_⟩
    rw [passesFilters, hlookup stored hstored]
    exact hpasses

theorem mem_candidates {ch : CachedChannel} :
    ch ∈ cache.candidates baseName group model filters ↔ ∃ stored ∈ table.rows,
      cachedChannel parse old.channelsIDM stored.routing.id stored = ch ∧
        Routed baseName table group model filters stored.routing := by
  have hids : ∀ id, id ∈ candidateIds baseName cache group model filters ↔
      ∃ stored ∈ table.rows, stored.routing.id = id ∧
        Routed baseName table group model filters stored.routing := by
    intro id
    rw [candidateIds]
    split
    · -- No channel is found by the name.
      rename_i hempty
      have hnone : ¬ ∃ stored ∈ table.rows, stored.routing.Admits model filters ∧
          stored.routing.Lists group model := by
        rintro ⟨stored, hstored, hadmits, hlists⟩
        have hmem := (mem_filter_idsAt hinit).mpr ⟨stored, hstored, rfl, hadmits, hlists⟩
        rw [isEmpty_iff.mp hempty] at hmem
        cases hmem
      rw [mem_filter_idsAt hinit]
      refine exists_congr fun stored => and_congr_right fun hstored => and_congr_right fun _ =>
        and_congr_right fun hadmits => ⟨fun hlists => .inr ⟨hnone, hlists⟩, ?_⟩
      rintro (hlists | ⟨-, hlists⟩)
      · exact absurd ⟨stored, hstored, hadmits, hlists⟩ hnone
      · exact hlists
    next hsome =>
      have hexact : ∃ stored ∈ table.rows, stored.routing.Admits model filters ∧
          stored.routing.Lists group model := by
        rw [List.isEmpty_iff] at hsome
        obtain ⟨other, hother⟩ := exists_mem_of_ne_nil _ hsome
        obtain ⟨stored, hstored, -, hfound⟩ := (mem_filter_idsAt hinit).mp hother
        exact ⟨stored, hstored, hfound⟩
      rw [mem_filter_idsAt hinit]
      refine exists_congr fun stored => and_congr_right fun hstored => and_congr_right fun _ =>
        and_congr_right fun hadmits => ⟨.inl, ?_⟩
      rintro (hlists | ⟨hnone, -⟩)
      · exact hlists
      · exact absurd hexact hnone
  rw [ChannelCache.candidates, mem_filterMap]
  constructor
  · rintro ⟨id, hid, hlookup⟩
    obtain ⟨stored, hstored, rfl, hrouted⟩ := (hids id).mp hid
    obtain ⟨found, hfound, hsame, rfl⟩ := (lookup_init table.idsNodup hinit).mp hlookup
    obtain rfl := inj_on_of_nodup_map table.idsNodup hfound hstored hsame
    exact ⟨found, hfound, rfl, hrouted⟩
  · rintro ⟨stored, hstored, rfl, hrouted⟩
    exact ⟨stored.routing.id, (hids _).mpr ⟨stored, hstored, rfl, hrouted⟩,
      (lookup_init table.idsNodup hinit).mpr ⟨stored, hstored, rfl, rfl⟩⟩

end

theorem mem_abilityCandidates_table {ability : Ability} :
    ability ∈ abilityCandidates table.rows table.abilities group model filters ↔
      ∃ stored ∈ table.rows, stored.routing.Admits model filters ∧
        ability ∈ stored.routing.addAbilities ∧ ability.group = group ∧ ability.model = model := by
  rw [mem_abilityCandidates table.idsNodup, mem_abilityQuery, ChannelTable.abilities, mem_flatMap]
  constructor
  · rintro ⟨⟨⟨owner, howner, hab⟩, hgroup, hmodel, hon⟩, stored, hstored, hid, hpasses⟩
    obtain ⟨hch, hstatus, -⟩ := addAbilities_spec hab
    obtain rfl := inj_on_of_nodup_map table.idsNodup hstored howner (hid.trans hch)
    rw [hstatus, decide_eq_true_iff] at hon
    exact ⟨stored, hstored, ⟨hon, hpasses⟩, hab, hgroup, hmodel⟩
  · rintro ⟨stored, hstored, ⟨hstatus, hpasses⟩, hab, hgroup, hmodel⟩
    obtain ⟨hch, hon, -⟩ := addAbilities_spec hab
    refine ⟨⟨⟨stored, hstored, hab⟩, hgroup, hmodel, ?_⟩, stored, hstored, hch.symm, hpasses⟩
    rw [hon, decide_eq_true_iff]
    exact hstatus

/-! ### The channels of the two paths -/

theorem select_cache (draw : ℕ) :
    (getRandomSatisfiedChannel baseName (table.store cache true) noErrors group model retry
      filters draw).1 = (cachedSatisfiedChannel baseName cache group model retry filters
        draw).1.map CachedChannel.routing := by
  simp [getRandomSatisfiedChannel, ChannelTable.store]

theorem select_database (draw : ℕ) :
    (getRandomSatisfiedChannel baseName (table.store cache false) noErrors group model retry
      filters draw).1 = (getChannel table.rows table.abilities noErrors group model retry filters
        draw).1.map StoredChannel.routing := by
  simp [getRandomSatisfiedChannel, ChannelTable.store]

/-- No sum of the tier of a retry leaves the 64-bit range. -/
def ChannelStore.Fits (baseName : String → String) (group model : String)
    (filters : List ChannelFilter) (retry : ℕ) (store : ChannelStore) : Prop :=
  if !store.memoryCacheEnabled then
    total drawWeight (tier getPriority
      (abilityCandidates store.channels store.abilities group model filters) retry) < 2 ^ 63
  else TierFits (tier CachedChannel.getPriority
    (store.cache.candidates baseName group model filters) retry)

theorem fits_database : (table.store cache false).Fits baseName group model filters retry ↔
    total drawWeight (tier getPriority
      (abilityCandidates table.rows table.abilities group model filters) retry) < 2 ^ 63 := Iff.rfl

theorem mem_selectable_cache
    (hfits : (table.store cache true).Fits baseName group model filters retry)
    (hinit : initChannelCache parse table.rows table.abilities old = some cache) :
    row ∈ selectable baseName group model filters (table.store cache true) retry ↔
      ∃ stored ∈ table.rows, stored.routing = row ∧ Routed baseName table group model filters row ∧
        ¬ Shadowed baseName table group model filters row ∧
        levelAt (levels CachedChannel.getPriority
          (cache.candidates baseName group model filters)) retry = some row.getPriority := by
  have hwf := wellFormed_init table.idsNodup hinit
  constructor
  · rintro ⟨draw, hsel⟩
    rw [select_cache] at hsel
    by_cases hne : cache.candidates baseName group model filters = []
    · rw [cachedSatisfiedChannel_of_nil hwf hne] at hsel
      cases hsel
    obtain ⟨ch, hserved, hdrawn⟩ := cachedSatisfiedChannel_served hwf hne hfits draw
    rw [hdrawn] at hsel
    obtain rfl := some.inj hsel
    obtain ⟨hmem, hlevel⟩ := mem_tier.mp hserved.1
    obtain ⟨stored, hstored, rfl, hrouted⟩ := (mem_candidates hinit).mp hmem
    refine ⟨stored, hstored, rfl, hrouted, not_shadowed_iff.mpr (hserved.2.imp_right ?_), hlevel⟩
    intro hzero other hother hrouted' hpriority
    refine hzero _ (mem_tier.mpr ⟨(mem_candidates hinit).mpr ⟨other, hother, rfl, hrouted'⟩, ?_⟩)
    rw [hlevel]
    exact congrArg some hpriority.symm
  · rintro ⟨stored, hstored, rfl, hrouted, hshadowed, hlevel⟩
    have hmem := (mem_candidates hinit).mpr ⟨stored, hstored, rfl, hrouted⟩
    have hserved : Served (cache.candidates baseName group model filters) retry
        (cachedChannel parse old.channelsIDM stored.routing.id stored) := by
      refine ⟨mem_tier.mpr ⟨hmem, hlevel⟩, (not_shadowed_iff.mp hshadowed).imp_right ?_⟩
      intro hzero other hother
      obtain ⟨hother, hlevel'⟩ := mem_tier.mp hother
      obtain ⟨found, hfound, rfl, hrouted'⟩ := (mem_candidates hinit).mp hother
      exact hzero found hfound hrouted' (some.inj (hlevel'.symm.trans hlevel))
    obtain ⟨draw, hdrawn⟩ := exists_cachedSatisfiedChannel hwf hfits hserved
    refine ⟨draw, ?_⟩
    rw [select_cache, hdrawn]
    rfl

theorem mem_selectable_database
    (hfits : (table.store cache false).Fits baseName group model filters retry) :
    row ∈ selectable baseName group model filters (table.store cache false) retry ↔
      ∃ stored ∈ table.rows, stored.routing = row ∧ row.Admits model filters ∧
        row.HasAbility group model ∧
        levelAt (levels Ability.getPriority
          (abilityCandidates table.rows table.abilities group model filters)) retry =
            some row.getPriority := by
  constructor
  · rintro ⟨draw, hsel⟩
    rw [select_database] at hsel
    by_cases hne : abilityCandidates table.rows table.abilities group model filters = []
    · rw [getChannel_of_nil hne] at hsel
      cases hsel
    obtain ⟨ability, hab, stored, hstored, hid, hdrawn⟩ :=
      getChannel_served table.idsNodup hne hfits draw
    rw [hdrawn] at hsel
    obtain rfl := some.inj hsel
    obtain ⟨hmem, hlevel⟩ := mem_tier.mp hab
    obtain ⟨owner, howner, hadmits, hadded, hgroup, hmodel⟩ := mem_abilityCandidates_table.mp hmem
    obtain rfl := inj_on_of_nodup_map table.idsNodup hstored howner
      (hid.trans (addAbilities_spec hadded).1)
    rw [getPriority_of_mem_addAbilities hadded] at hlevel
    exact ⟨stored, hstored, rfl, hadmits, ⟨ability, hadded, hgroup, hmodel⟩, hlevel⟩
  · rintro ⟨stored, hstored, rfl, hadmits, ⟨ability, hadded, hgroup, hmodel⟩, hlevel⟩
    rw [← getPriority_of_mem_addAbilities hadded] at hlevel
    have hmem := mem_abilityCandidates_table.mpr ⟨stored, hstored, hadmits, hadded, hgroup, hmodel⟩
    obtain ⟨draw, hdrawn⟩ := exists_getChannel table.idsNodup (mem_tier.mpr ⟨hmem, hlevel⟩) hfits
      hstored (addAbilities_spec hadded).1.symm
    refine ⟨draw, ?_⟩
    rw [select_database, hdrawn]
    rfl

theorem findsNone_cache (hfits : (table.store cache true).Fits baseName group model filters retry)
    (hinit : initChannelCache parse table.rows table.abilities old = some cache) :
    FindsNone baseName group model filters (table.store cache true) retry ↔
      cache.candidates baseName group model filters = [] := by
  have hwf := wellFormed_init table.idsNodup hinit
  constructor
  · rintro ⟨draw, hsel⟩
    by_contra hne
    obtain ⟨ch, -, hdrawn⟩ := cachedSatisfiedChannel_served hwf hne hfits draw
    rw [select_cache, hdrawn] at hsel
    cases hsel
  · intro hnone
    refine ⟨0, ?_⟩
    rw [select_cache, cachedSatisfiedChannel_of_nil hwf hnone]
    rfl

theorem findsNone_database
    (hfits : (table.store cache false).Fits baseName group model filters retry) :
    FindsNone baseName group model filters (table.store cache false) retry ↔
      abilityCandidates table.rows table.abilities group model filters = [] := by
  constructor
  · rintro ⟨draw, hsel⟩
    by_contra hne
    obtain ⟨-, -, stored, -, -, hdrawn⟩ := getChannel_served table.idsNodup hne hfits draw
    rw [select_database, hdrawn] at hsel
    cases hsel
  · intro hnone
    refine ⟨0, ?_⟩
    rw [select_database, getChannel_of_nil hnone]
    rfl

section

variable (hinit : initChannelCache parse table.rows table.abilities old = some cache)
include hinit

theorem SameCandidates.priorities
    (hsame : SameCandidates baseName table group model filters) (p : Int) :
    (∃ ch ∈ cache.candidates baseName group model filters, ch.getPriority = p) ↔
      ∃ ability ∈ abilityCandidates table.rows table.abilities group model filters,
        ability.getPriority = p := by
  have hab : ∀ stored ∈ table.rows, Routed baseName table group model filters stored.routing →
      ¬ Shadowed baseName table group model filters stored.routing →
      ∃ ability ∈ abilityCandidates table.rows table.abilities group model filters,
        ability.getPriority = stored.routing.getPriority := by
    intro stored hstored hrouted hshadowed
    obtain ⟨ability, hadded, hgroup, hmodel⟩ :=
      (hsame stored hstored hrouted.1).mpr ⟨hrouted, hshadowed⟩
    exact ⟨ability, mem_abilityCandidates_table.mpr
      ⟨stored, hstored, hrouted.1, hadded, hgroup, hmodel⟩, getPriority_of_mem_addAbilities hadded⟩
  constructor
  · rintro ⟨ch, hch, rfl⟩
    obtain ⟨stored, hstored, rfl, hrouted⟩ := (mem_candidates hinit).mp hch
    by_cases hshadowed : Shadowed baseName table group model filters stored.routing
    · -- The channel with a weight beside it has a row of the same priority.
      obtain ⟨-, other, hother, hrouted', hpriority, hweight⟩ := hshadowed
      obtain ⟨ability, hmem, hab'⟩ := hab other hother hrouted'
        (not_shadowed_iff.mpr (.inl hweight))
      exact ⟨ability, hmem, hab'.trans hpriority⟩
    · exact hab stored hstored hrouted hshadowed
  · rintro ⟨ability, hmem, rfl⟩
    obtain ⟨stored, hstored, hadmits, hadded, hgroup, hmodel⟩ := mem_abilityCandidates_table.mp hmem
    have hrouted := (hsame stored hstored hadmits).mp ⟨ability, hadded, hgroup, hmodel⟩
    exact ⟨_, (mem_candidates hinit).mpr ⟨stored, hstored, rfl, hrouted.1⟩,
      (getPriority_of_mem_addAbilities hadded).symm⟩

theorem agree_iff_sameCandidates (hfits : ∀ enabled retry,
      (table.store cache enabled).Fits baseName group model filters retry) :
    PathsAgree baseName table group model filters cache ↔
      SameCandidates baseName table group model filters := by
  constructor
  · intro hagree stored hstored hadmits
    constructor
    · rintro ⟨ability, hadded, hgroup, hmodel⟩
      have hmem := mem_abilityCandidates_table.mpr
        ⟨stored, hstored, hadmits, hadded, hgroup, hmodel⟩
      obtain ⟨retry, hretry⟩ : ∃ retry, ability ∈ tier getPriority _ retry :=
        exists_mem_tier hmem
      have hlevel := (mem_tier.mp hretry).2
      rw [getPriority_of_mem_addAbilities hadded] at hlevel
      have hselectable : stored.routing ∈
          selectable baseName group model filters (table.store cache false) retry :=
        (mem_selectable_database (hfits false retry)).mpr
          ⟨stored, hstored, rfl, hadmits, ⟨ability, hadded, hgroup, hmodel⟩, hlevel⟩
      rw [← (hagree retry).1] at hselectable
      obtain ⟨-, -, -, hrouted, hshadowed, -⟩ :=
        (mem_selectable_cache (hfits true retry) hinit).mp hselectable
      exact ⟨hrouted, hshadowed⟩
    · rintro ⟨hrouted, hshadowed⟩
      have hmem := (mem_candidates hinit).mpr ⟨stored, hstored, rfl, hrouted⟩
      obtain ⟨retry, hretry⟩ : ∃ retry, _ ∈ tier CachedChannel.getPriority _ retry :=
        exists_mem_tier hmem
      have hselectable : stored.routing ∈
          selectable baseName group model filters (table.store cache true) retry :=
        (mem_selectable_cache (hfits true retry) hinit).mpr
          ⟨stored, hstored, rfl, hrouted, hshadowed, (mem_tier.mp hretry).2⟩
      rw [(hagree retry).1] at hselectable
      obtain ⟨-, -, -, -, hab, -⟩ :=
        (mem_selectable_database (hfits false retry)).mp hselectable
      exact hab
  · intro hsame retry
    have hlevels : levels CachedChannel.getPriority
          (cache.candidates baseName group model filters) =
        levels getPriority (abilityCandidates table.rows table.abilities group model filters) :=
      levels_congr (hsame.priorities hinit)
    refine ⟨Set.ext fun row => ?_, ?_⟩
    · rw [mem_selectable_cache (hfits true retry) hinit,
        mem_selectable_database (hfits false retry), hlevels]
      refine exists_congr fun stored => and_congr_right fun hstored => ?_
      refine and_congr_right ?_
      rintro rfl
      rw [← and_assoc, ← and_assoc]
      refine and_congr_left fun _ => ?_
      constructor
      · rintro ⟨hrouted, hshadowed⟩
        exact ⟨hrouted.1, (hsame stored hstored hrouted.1).mpr ⟨hrouted, hshadowed⟩⟩
      · rintro ⟨hadmits, hab⟩
        exact (hsame stored hstored hadmits).mp hab
    · have hpriorities := hsame.priorities hinit
      rw [findsNone_cache (hfits true retry) hinit, findsNone_database (hfits false retry)]
      constructor
      · intro hnone
        refine eq_nil_iff_forall_not_mem.mpr fun ability hab => ?_
        obtain ⟨ch, hch, -⟩ := (hpriorities _).mpr ⟨ability, hab, rfl⟩
        rw [hnone] at hch
        cases hch
      · intro hnone
        refine eq_nil_iff_forall_not_mem.mpr fun ch hch => ?_
        obtain ⟨ability, hab, -⟩ := (hpriorities _).mp ⟨ch, hch, rfl⟩
        rw [hnone] at hab
        cases hab

end

/-- **The two paths.** The cache of the stored channels and of the abilities that `AddAbilities`
writes can be built. If the sums of all tiers are in the 64-bit range, the two paths agree exactly
if they have the same candidates. -/
theorem paths_agree_iff (baseName : String → String)
    (parse : KeyParser) (table : ChannelTable) (old : ChannelCache)
    (group model : String) (filters : List ChannelFilter) :
    ∃ cache, initChannelCache parse table.rows table.abilities old = some cache ∧
      ((∀ enabled retry, (table.store cache enabled).Fits baseName group model filters retry) →
        (PathsAgree baseName table group model filters cache ↔
          SameCandidates baseName table group model filters)) := by
  have hbuilt : (initChannelCache parse table.rows table.abilities old).isSome = true := by
    refine isSome_initChannelCache.mpr fun stored hstored _ _ group hgroup => ?_
    obtain ⟨ability, hab, hsame⟩ := exists_addAbilities_of_mem hgroup
    exact ⟨ability, mem_flatMap.mpr ⟨stored, hstored, hab⟩, hsame⟩
  obtain ⟨cache, hinit⟩ := isSome_iff_exists.mp hbuilt
  exact ⟨cache, hinit, agree_iff_sameCandidates hinit⟩

end

def samplePair : ChannelTable := ⟨[sampleStored 7 "gpt" 5, sampleStored 8 "gpt" 5], by decide⟩

theorem paths_agree_samplePair : ∃ cache,
    initChannelCache (fun _ => none) samplePair.rows samplePair.abilities emptyCache = some cache ∧
      PathsAgree id samplePair "default" "gpt" [] cache := by
  obtain ⟨cache, hinit, hagree⟩ :=
    paths_agree_iff id (fun _ => none) samplePair emptyCache "default" "gpt" []
  refine ⟨cache, hinit, (hagree fun enabled retry => ?_).mpr fun stored hstored _ => ?_⟩
  · cases enabled with
    | false => exact fits_database.mpr ((total_tier_le ..).trans_lt (by decide +kernel))
    | true =>
      have hbuilt : (initChannelCache (fun _ => none) samplePair.rows samplePair.abilities
          emptyCache).map (fun cache =>
            let chs := cache.candidates id "default" "gpt" []
            let targets := tier CachedChannel.getPriority chs 0
            ((levels CachedChannel.getPriority chs).length,
              total (effectiveWeight targets) targets)) = some (1, 1000) := by decide +kernel
      rw [hinit] at hbuilt
      obtain ⟨hone, htotal⟩ := Prod.mk.inj (some.inj hbuilt)
      have hfits : TierFits (tier CachedChannel.getPriority
          (cache.candidates id "default" "gpt" []) retry) := by
        rw [tier_eq_tier_zero hone, TierFits, htotal]
        decide
      exact hfits
  · simp only [samplePair, mem_cons, not_mem_nil, or_false] at hstored
    rcases hstored with rfl | rfl
    all_goals
      refine iff_of_true ?_ ⟨⟨⟨rfl, rfl⟩, .inl ⟨by decide +kernel, by decide +kernel⟩⟩, fun h => ?_⟩
      · rw [RoutingRow.HasAbility]
        decide +kernel
      · cases h.1

theorem sampleWeights_notMem {cache : ChannelCache}
    (hinit : initChannelCache (fun _ => none) sampleWeights.rows sampleWeights.abilities
      emptyCache = some cache)
    (hfits : TierFits (tier CachedChannel.getPriority (cache.candidates id "default" "gpt" []) 0)) :
    (sampleStored 7 "gpt" 0).routing ∉
      selectable id "default" "gpt" [] (sampleWeights.store cache true) 0 := by
  intro hmem
  obtain ⟨-, -, -, -, hshadowed, -⟩ := (mem_selectable_cache hfits hinit).mp hmem
  refine hshadowed ⟨rfl, sampleStored 8 "gpt" 5, ?_, ⟨⟨rfl, rfl⟩, .inl ?_⟩, rfl, ?_⟩
  · exact mem_cons_of_mem _ mem_cons_self
  · exact ⟨by decide +kernel, by decide +kernel⟩
  · decide

/-- The two paths differ if a name is only found in its normalised form, if the text of the models
ends with a comma, if the texts of two pairs are equal, and if a channel has no weight beside one
with a weight. -/
theorem paths_disagree :
    let select (stored : StoredChannel) (group model : String) (enabled : Bool) :=
      (initChannelCache (fun _ => none) [stored] stored.routing.addAbilities emptyCache).map
        fun cache => (getRandomSatisfiedChannel id
          ⟨enabled, [stored], stored.routing.addAbilities, cache⟩ noErrors group model 0 [] 0).1.map
            fun row => row.id
    let gizmo := sampleStored 7 "gpt-4-gizmo-*" 0
    let comma := sampleStored 7 "gpt," 0
    let bars := { sampleStored 7 "c,b|c" 0 with
      routing := { (sampleStored 7 "c,b|c" 0).routing with group := "a|b,a" } }
    select gizmo "default" "gpt-4-gizmo-x" true = some (some 7) ∧
      select gizmo "default" "gpt-4-gizmo-x" false = some none ∧
      select comma "default" "" true = some none ∧
      select comma "default" "" false = some (some 7) ∧
      select bars "a" "b|c" true = some (some 7) ∧
      select bars "a" "b|c" false = some none ∧
      ∃ cache, initChannelCache (fun _ => none) sampleWeights.rows sampleWeights.abilities
          emptyCache = some cache ∧
        (sampleStored 7 "gpt" 0).routing ∉
          selectable id "default" "gpt" [] (sampleWeights.store cache true) 0 ∧
        (sampleStored 7 "gpt" 0).routing ∈
          selectable id "default" "gpt" [] (sampleWeights.store cache false) 0 := by
  refine ⟨by decide +kernel, by decide +kernel, by decide +kernel, by decide +kernel,
    by decide +kernel, by decide +kernel, ?_⟩
  have hbuilt : (initChannelCache (fun _ => none) sampleWeights.rows sampleWeights.abilities
      emptyCache).map (fun cache =>
        let targets := tier CachedChannel.getPriority (cache.candidates id "default" "gpt" []) 0
        total (effectiveWeight targets) targets) = some 500 := by decide +kernel
  obtain ⟨cache, hinit, htotal⟩ := map_eq_some_iff.mp hbuilt
  have hsum : total drawWeight (tier getPriority (abilityCandidates sampleWeights.rows
      sampleWeights.abilities "default" "gpt" []) 0) < 2 ^ 63 := by decide +kernel
  refine ⟨cache, hinit, sampleWeights_notMem hinit (htotal.trans_lt (by decide)),
    (mem_selectable_database (fits_database.mpr hsum)).mpr
      ⟨sampleStored 7 "gpt" 0, mem_cons_self, rfl, ⟨rfl, rfl⟩, ?_, ?_⟩⟩
  · rw [RoutingRow.HasAbility]
    decide +kernel
  · decide +kernel

end NewApi.Model
