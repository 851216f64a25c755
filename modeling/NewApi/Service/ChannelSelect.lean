import NewApi.Model.ChannelSelection

/-!
# The channel of an attempt

`CacheGetRandomSatisfiedChannel` selects the channel of an attempt. For the group `auto` it walks
along the groups of the request, from the index that the context of the request keeps. With retries
across groups it moves the index to the next group after the last attempt in a group, and sets the
retry counter back in a way that the next increment of the caller leaves it.

Source: `service/channel_select.go`.
-/

namespace NewApi.Service

open Model PriorityTier List

/-! ### The retry counter -/

structure RetryParam where
  tokenGroup : String
  modelName : String
  requestPath : String
  retry : Option ℕ
  resetNextTry : Bool

namespace RetryParam

def getRetry (p : RetryParam) : ℕ := p.retry.getD 0

def setRetry (p : RetryParam) (retry : ℕ) : RetryParam := { p with retry := some retry }

def increaseRetry (p : RetryParam) : RetryParam :=
  if p.resetNextTry then { p with resetNextTry := false }
  else { p with retry := some (p.getRetry + 1) }

def resetRetryNextTry (p : RetryParam) : RetryParam := { p with resetNextTry := true }

end RetryParam

/-! ### The selection -/

/-- The entries of the request context that a selection reads and writes. `autoGroups` are the
groups that `GetRequestAutoGroups` gives for the token and the user. -/
structure SelectContext where
  tokenCrossGroupRetry : Bool
  autoGroups : List String
  filters : List ChannelFilter
  autoGroup : Option String
  autoGroupIndex : Option ℕ
  autoGroupRetryIndex : Option ℕ

/-- What does not change in a request: the stored channels and the cache, the errors of the queries
and the setting `RetryTimes`. -/
structure SelectEnv where
  baseModelName : String → String
  store : ChannelStore
  errors : SelectErrors
  retryTimes : ℕ

structure Selection where
  channel : Option RoutingRow
  group : String
  err : Option String
  context : SelectContext
  param : RetryParam

section

variable (env : SelectEnv) (draws : ℕ → ℕ)

/-- The loop over the groups from an index `i` on; the walk began at the index `start`. The random
number for the group at an index is `draws` of it. -/
def selectFrom (start : ℕ) : List String → ℕ → SelectContext → RetryParam → Selection
  | [], _, context, param => ⟨none, param.tokenGroup, none, context, param⟩
  | autoGroup :: rest, i, context, param =>
    let priorityRetry := if i > start then 0 else param.getRetry
    match (getRandomSatisfiedChannel env.baseModelName env.store env.errors autoGroup
        param.modelName priorityRetry context.filters (draws i)).1 with
    | none =>
      selectFrom start rest (i + 1)
        { context with autoGroupIndex := some (i + 1), autoGroupRetryIndex := some 0 }
        (param.setRetry 0)
    | some channel =>
      let context := { context with autoGroup := some autoGroup }
      if context.tokenCrossGroupRetry && priorityRetry ≥ env.retryTimes then
        ⟨some channel, autoGroup, none, { context with autoGroupIndex := some (i + 1) },
          (param.setRetry 0).resetRetryNextTry⟩
      else
        ⟨some channel, autoGroup, none, { context with autoGroupIndex := some i }, param⟩

def cacheGetRandomSatisfiedChannel (context : SelectContext) (param : RetryParam) : Selection :=
  if param.tokenGroup = "auto" then
    if context.autoGroups.isEmpty then
      ⟨none, param.tokenGroup, some "auto groups is not enabled", context, param⟩
    else
      let startGroupIndex := context.autoGroupIndex.getD 0
      selectFrom env draws startGroupIndex (context.autoGroups.drop startGroupIndex) startGroupIndex
        context param
  else
    let selected := getRandomSatisfiedChannel env.baseModelName env.store env.errors
      param.tokenGroup param.modelName param.getRetry context.filters (draws 0)
    match selected.2 with
    | some err => ⟨none, param.tokenGroup, some err, context, param⟩
    | none => ⟨selected.1, param.tokenGroup, none, context, param⟩

end

section

variable (env : SelectEnv) (draws : ℕ → ℕ)

theorem filters_selectFrom (start : ℕ) (groups : List String) (i : ℕ) (context : SelectContext)
    (param : RetryParam) :
    (selectFrom env draws start groups i context param).context.filters = context.filters := by
  induction groups generalizing i context param with
  | nil => rfl
  | cons first rest ih =>
    rw [selectFrom]
    generalize (if i > start then 0 else param.getRetry) = priorityRetry
    dsimp only
    split
    · rw [ih]
    · split <;> rfl

theorem filters_cacheGetRandomSatisfiedChannel (context : SelectContext) (param : RetryParam) :
    (cacheGetRandomSatisfiedChannel env draws context param).context.filters = context.filters := by
  rw [cacheGetRandomSatisfiedChannel]
  split
  · split
    · rfl
    · exact filters_selectFrom env draws _ _ _ context param
  · dsimp only
    split <;> rfl

end

/-! ### The levels of a group -/

def priorityLevels (env : SelectEnv) (group model : String) (filters : List ChannelFilter) :
    List Int :=
  if !env.store.memoryCacheEnabled then
    levels Ability.getPriority
      (abilityCandidates env.store.channels env.store.abilities group model filters)
  else
    levels CachedChannel.getPriority
      (env.store.cache.candidates env.baseModelName group model filters)

/-- The channels have different ids, the cache is well formed, no query fails, and the weights of no
tier overflow. -/
structure FixedChannels (env : SelectEnv) : Prop where
  idsNodup : (env.store.channels.map fun c => c.routing.id).Nodup
  wellFormed : env.store.cache.WellFormed
  noErrors : env.errors = noErrors
  fits : ∀ group model filters retry, env.store.Fits env.baseModelName group model filters retry

/-- The channel satisfies the request in the group and is on the level with a number. -/
def OnLevel (env : SelectEnv) (group model : String) (filters : List ChannelFilter) (level : ℕ)
    (row : RoutingRow) : Prop :=
  if !env.store.memoryCacheEnabled then
    ∃ ability ∈ abilityCandidates env.store.channels env.store.abilities group model filters,
      ability.channelId = row.id ∧
        (priorityLevels env group model filters)[level]? = some ability.getPriority
  else
    ∃ channel ∈ env.store.cache.candidates env.baseModelName group model filters,
      channel.routing = row ∧
        (priorityLevels env group model filters)[level]? = some channel.getPriority

variable {env : SelectEnv} {group model : String} {filters : List ChannelFilter}

theorem getRandomSatisfiedChannel_of_nil (hfixed : FixedChannels env)
    (hnone : priorityLevels env group model filters = []) (retry draw : ℕ) :
    (getRandomSatisfiedChannel env.baseModelName env.store env.errors group model retry filters
      draw).1 = none := by
  rw [priorityLevels] at hnone
  rw [getRandomSatisfiedChannel, hfixed.noErrors]
  split at hnone
  next hmode =>
    rw [if_pos hmode, getChannel_of_nil (levels_eq_nil_iff.mp hnone)]
    rfl
  next hmode =>
    rw [if_neg hmode, cachedSatisfiedChannel_of_nil hfixed.wellFormed (levels_eq_nil_iff.mp hnone)]
    rfl

theorem getRandomSatisfiedChannel_level (hfixed : FixedChannels env)
    (hsome : priorityLevels env group model filters ≠ []) (retry draw : ℕ) :
    ∃ row, (getRandomSatisfiedChannel env.baseModelName env.store env.errors group model retry
        filters draw).1 = some row ∧
      filters.all (channelMatchesFilter row model) = true ∧
      OnLevel env group model filters
        (min retry ((priorityLevels env group model filters).length - 1)) row := by
  rw [getRandomSatisfiedChannel, hfixed.noErrors]
  have hfits := hfixed.fits group model filters retry
  rw [ChannelStore.Fits] at hfits
  by_cases hmode : (!env.store.memoryCacheEnabled) = true
  · have hlevels : priorityLevels env group model filters = levels Ability.getPriority
        (abilityCandidates env.store.channels env.store.abilities group model filters) :=
      if_pos hmode
    rw [hlevels, Ne, levels_eq_nil_iff] at hsome
    obtain ⟨ability, hab, stored, hstored, hid, hsel⟩ :=
      getChannel_served hfixed.idsNodup hsome ((if_pos hmode).mp hfits) draw
    obtain ⟨hmem, hlevel⟩ := mem_tier.mp hab
    obtain ⟨-, found, hfound, hid', hpasses⟩ := (mem_abilityCandidates hfixed.idsNodup).mp hmem
    obtain rfl := inj_on_of_nodup_map hfixed.idsNodup hfound hstored (hid'.trans hid.symm)
    rw [if_pos hmode, hsel]
    refine ⟨found.routing, rfl, hpasses, ?_⟩
    rw [OnLevel, if_pos hmode]
    refine ⟨ability, hmem, hid'.symm, ?_⟩
    rw [hlevels, ← levelAt_eq]
    exact hlevel
  · have hlevels : priorityLevels env group model filters = levels CachedChannel.getPriority
        (env.store.cache.candidates env.baseModelName group model filters) :=
      if_neg hmode
    rw [hlevels, Ne, levels_eq_nil_iff] at hsome
    obtain ⟨channel, hserved, hsel⟩ :=
      cachedSatisfiedChannel_served hfixed.wellFormed hsome ((if_neg hmode).mp hfits) draw
    obtain ⟨hmem, hlevel⟩ := mem_tier.mp hserved.1
    rw [if_neg hmode, hsel]
    refine ⟨channel.routing, rfl, matches_of_mem_candidates hfixed.wellFormed hmem, ?_⟩
    rw [OnLevel, if_neg hmode]
    refine ⟨channel, hmem, rfl, ?_⟩
    rw [hlevels, ← levelAt_eq]
    exact hlevel

/-! ### The walk along the groups -/

variable {draws : ℕ → ℕ} {start i : ℕ} {groups : List String} {context : SelectContext}
  {param : RetryParam}

theorem selectFrom_of_none (hfixed : FixedChannels env)
    (hnone : ∀ group ∈ groups, priorityLevels env group param.modelName context.filters = []) :
    (selectFrom env draws start groups i context param).channel = none ∧
      (selectFrom env draws start groups i context param).err = none := by
  induction groups generalizing i context param with
  | nil => exact ⟨rfl, rfl⟩
  | cons first rest ih =>
    rw [selectFrom]
    simp only [getRandomSatisfiedChannel_of_nil hfixed (hnone first mem_cons_self)]
    exact ih fun group hgroup => hnone group (mem_cons_of_mem first hgroup)

structure AutoRequest where
  autoGroups : List String
  modelName : String
  filters : List ChannelFilter

/-- The next selection of the request starts at the group with the index, with a retry. -/
structure NextAt (req : AutoRequest) (context : SelectContext) (param : RetryParam)
    (index retry : ℕ) : Prop where
  tokenGroup : param.tokenGroup = "auto"
  modelName : param.modelName = req.modelName
  autoGroups : context.autoGroups = req.autoGroups
  filters : context.filters = req.filters
  crossGroupRetry : context.tokenCrossGroupRetry = true
  groupIndex : context.autoGroupIndex.getD 0 = index
  getRetry : param.getRetry = retry
  resetNextTry : param.resetNextTry = false

def storedIndex (env : SelectEnv) (index retry : ℕ) : ℕ :=
  if retry ≥ env.retryTimes then index + 1 else index

def nextRetry (env : SelectEnv) (retry : ℕ) : ℕ := if retry ≥ env.retryTimes then 0 else retry + 1

/-- A selection in the group at an index, with a retry in it: the channel is on the level of the
retry, and the next selection stays in the group or, after the last retry, starts at the next. -/
structure SelectedAt (env : SelectEnv) (req : AutoRequest) (group : String) (index retry : ℕ)
    (row : RoutingRow) (selection : Selection) : Prop where
  channel : selection.channel = some row
  err : selection.err = none
  satisfies : req.filters.all (channelMatchesFilter row req.modelName) = true
  onLevel : OnLevel env group req.modelName req.filters
    (min retry ((priorityLevels env group req.modelName req.filters).length - 1)) row
  autoGroup : selection.context.autoGroup = some group
  groupIndex : selection.context.autoGroupIndex = some (storedIndex env index retry)
  retriesLeft : 0 < env.retryTimes → selection.param.getRetry < env.retryTimes
  next : NextAt req selection.context selection.param.increaseRetry
    (storedIndex env index retry) (nextRetry env retry)

theorem selectFrom_of_satisfying {req : AutoRequest} {group : String}
    {skipped rest : List String} {index retry : ℕ} (hfixed : FixedChannels env)
    (hnext : NextAt req context param index retry) (hstart : start ≤ i)
    (hretry : start < i → param.getRetry = 0)
    (hskipped : ∀ g ∈ skipped, priorityLevels env g req.modelName req.filters = [])
    (hsome : priorityLevels env group req.modelName req.filters ≠ []) :
    ∃ row, SelectedAt env req group (i + skipped.length) (if skipped.isEmpty then retry else 0)
      row (selectFrom env draws start (skipped ++ group :: rest) i context param) := by
  induction skipped generalizing i context param index retry with
  | nil =>
    have hpriority : (if i > start then 0 else param.getRetry) = retry := by
      rw [← hnext.getRetry]
      split
      next hlt => exact (hretry hlt).symm
      · rfl
    obtain ⟨row, hsel, hpasses, hlevel⟩ :=
      getRandomSatisfiedChannel_level hfixed hsome retry (draws i)
    refine ⟨row, ?_⟩
    rw [nil_append, selectFrom]
    simp only [hpriority, hnext.modelName, hnext.filters, hsel, hnext.crossGroupRetry,
      Bool.true_and, decide_eq_true_eq]
    have hindex : storedIndex env (i + ([] : List String).length)
        (if isEmpty ([] : List String) then retry else 0) =
          if retry ≥ env.retryTimes then i + 1 else i := rfl
    by_cases hlast : retry ≥ env.retryTimes
    · -- The flag keeps the counter at 0 when the caller increments it.
      rw [if_pos hlast] at hindex ⊢
      exact {
        channel := rfl
        err := rfl
        satisfies := hpasses
        onLevel := hlevel
        autoGroup := rfl
        groupIndex := congrArg some hindex.symm
        retriesLeft := id
        next :=
          { hnext with
            filters := rfl
            crossGroupRetry := rfl
            groupIndex := hindex.symm
            getRetry := (if_pos hlast : nextRetry env retry = 0).symm
            resetNextTry := rfl } }
    · rw [if_neg hlast] at hindex ⊢
      have hincreased :
          param.increaseRetry = { param with retry := some (param.getRetry + 1) } := by
        rw [RetryParam.increaseRetry, hnext.resetNextTry]
        rfl
      have hnextRetry : param.getRetry + 1 = nextRetry env retry := by
        rw [nextRetry, if_neg hlast, hnext.getRetry]
      exact {
        channel := rfl
        err := rfl
        satisfies := hpasses
        onLevel := hlevel
        autoGroup := rfl
        groupIndex := congrArg some hindex.symm
        retriesLeft := fun _ => hnext.getRetry ▸ Nat.lt_of_not_le hlast
        next := by
          rw [hincreased]
          exact { hnext with
              filters := rfl
              crossGroupRetry := rfl
              groupIndex := hindex.symm
              getRetry := hnextRetry } }
  | cons first skipped ih =>
    have hfirst : ∀ retry draw, (getRandomSatisfiedChannel env.baseModelName env.store env.errors
        first param.modelName retry context.filters draw).1 = none := by
      rw [hnext.modelName, hnext.filters]
      exact getRandomSatisfiedChannel_of_nil hfixed (hskipped first mem_cons_self)
    have hmoved : NextAt req
        { context with autoGroupIndex := some (i + 1), autoGroupRetryIndex := some 0 }
        (param.setRetry 0) (i + 1) 0 :=
      { hnext with groupIndex := rfl, getRetry := rfl }
    have hlater : start ≤ i + 1 := by omega
    obtain ⟨row, hrow⟩ := ih hmoved hlater (fun _ => rfl)
      fun g hg => hskipped g (mem_cons_of_mem first hg)
    refine ⟨row, ?_⟩
    rw [cons_append, selectFrom]
    simp only [hfirst]
    have hlength : i + 1 + skipped.length = i + (first :: skipped).length := by
      rw [length_cons]
      omega
    rw [hlength, ite_self] at hrow
    exact hrow

end NewApi.Service
