import NewApi.Model.Channel

/-!
# Which channels may serve a request

A channel lists its groups and its models in two comma-separated texts. The table `abilities` has a
row for each pair of a group and a model of a channel, and a request may add filters on its path and
on the task plugin. The name of the model is also matched in a normalised form; the name without its
modifiers is the parameter `baseName`.

Source: `constant/channel.go`.
-/

namespace NewApi.Model

open List GoText

/-! ### The columns -/

def channelTypeAdvancedCustom : Int := 58

def channelTypeTaskPlugin : Int := 61

/-- The columns of a row of `channels` that decide about its requests. `taskPluginKey` is the key in
the parsed column `setting`; `advancedCustom` are the routes in the parsed column `settings`, which
match a request path and a model or not.

Source: `model/channel.go`. -/
structure RoutingRow where
  id : Int
  channelType : Int
  status : Int
  weight : Option ℕ
  models : String
  group : String
  priority : Option Int
  tag : Option String
  taskPluginKey : String
  advancedCustom : Option (String → String → Bool)

namespace RoutingRow

def getPriority (row : RoutingRow) : Int := row.priority.getD 0

def getWeight (row : RoutingRow) : ℕ := row.weight.getD 0

def getModels (row : RoutingRow) : List String :=
  if row.models = "" then [] else split ',' (trim ',' row.models)

def groups (row : RoutingRow) : List String := split ',' row.group

end RoutingRow

/-! ### The normalised name of a model -/

def handleThinkingBudgetModel (name start wildcard : String) : String :=
  if hasPrefix name start && contains name "-thinking-" then wildcard else name

def formatMatchingModelName (name : String) : String :=
  let name :=
    if hasPrefix name "gemini-2.5-flash-lite" then
      handleThinkingBudgetModel name "gemini-2.5-flash-lite" "gemini-2.5-flash-lite-thinking-*"
    else if hasPrefix name "gemini-2.5-flash" then
      handleThinkingBudgetModel name "gemini-2.5-flash" "gemini-2.5-flash-thinking-*"
    else if hasPrefix name "gemini-2.5-pro" then
      handleThinkingBudgetModel name "gemini-2.5-pro" "gemini-2.5-pro-thinking-*"
    else name
  let name := if hasPrefix name "gpt-4-gizmo" then "gpt-4-gizmo-*" else name
  if hasPrefix name "gpt-4o-gizmo" then "gpt-4o-gizmo-*" else name

def routingMatchModelName (baseName : String → String) (name : String) : String :=
  formatMatchingModelName (baseName name)

/-! ### The abilities of a channel -/

/-- A row of `abilities`. -/
structure Ability where
  group : String
  model : String
  channelId : Int
  enabled : Bool
  priority : Option Int
  weight : ℕ
  tag : Option String

/-- The pairs whose text is not that of an earlier one. The text joins the group and the model with
a bar, which either of them may contain.

Source: `model/ability.go`. -/
def distinctPairs : List (String × String) → List String → List (String × String)
  | [], _ => []
  | pair :: pairs, abilitySet =>
    let key := pair.1 ++ "|" ++ pair.2
    if key ∈ abilitySet then distinctPairs pairs abilitySet
    else pair :: distinctPairs pairs (key :: abilitySet)

def RoutingRow.addAbilities (row : RoutingRow) : List Ability :=
  let pairs := (split ',' row.models).flatMap fun model =>
    (split ',' row.group).map fun group => (group, model)
  (distinctPairs pairs []).map fun pair =>
    { group := pair.1
      model := pair.2
      channelId := row.id
      enabled := row.status = channelStatusEnabled
      priority := row.priority
      weight := row.getWeight
      tag := row.tag }

section

variable {pairs : List (String × String)} {pair : String × String} {seen : List String}
  {row : RoutingRow} {ability : Ability}

theorem mem_of_mem_distinctPairs (h : pair ∈ distinctPairs pairs seen) : pair ∈ pairs := by
  induction pairs generalizing seen with
  | nil => cases h
  | cons first pairs ih =>
    rw [distinctPairs] at h
    split at h
    · exact mem_cons_of_mem first (ih h)
    · rcases mem_cons.mp h with rfl | hmem
      · exact mem_cons_self
      · exact mem_cons_of_mem first (ih hmem)

theorem distinctPairs_append (pairs pairs' : List (String × String)) (seen : List String) :
    ∃ seen', distinctPairs (pairs ++ pairs') seen =
      distinctPairs pairs seen ++ distinctPairs pairs' seen' := by
  induction pairs generalizing seen with
  | nil => exact ⟨seen, rfl⟩
  | cons first pairs ih =>
    rw [cons_append, distinctPairs, distinctPairs]
    split
    · exact ih seen
    · obtain ⟨seen', h⟩ := ih ((first.1 ++ "|" ++ first.2) :: seen)
      exact ⟨seen', by rw [h, cons_append]⟩

theorem exists_mem_distinctPairs (hpair : pair ∈ pairs) (hnew : pair.1 ++ "|" ++ pair.2 ∉ seen) :
    ∃ kept ∈ distinctPairs pairs seen, kept.1 ++ "|" ++ kept.2 = pair.1 ++ "|" ++ pair.2 := by
  induction pairs generalizing seen with
  | nil => cases hpair
  | cons first pairs ih =>
    rw [distinctPairs]
    by_cases hfirst : first.1 ++ "|" ++ first.2 = pair.1 ++ "|" ++ pair.2
    · rw [hfirst, if_neg hnew]
      exact ⟨first, mem_cons_self, hfirst⟩
    have hrest : pair ∈ pairs := by
      rcases mem_cons.mp hpair with rfl | hmem
      · exact absurd rfl hfirst
      · exact hmem
    split
    · exact ih hrest hnew
    have hnew' : pair.1 ++ "|" ++ pair.2 ∉ (first.1 ++ "|" ++ first.2) :: seen := by
      rw [List.mem_cons, not_or]
      exact ⟨fun h => hfirst h.symm, hnew⟩
    obtain ⟨kept, hkept, hkey⟩ := ih hrest hnew'
    exact ⟨kept, mem_cons_of_mem first hkept, hkey⟩

theorem addAbilities_spec (h : ability ∈ row.addAbilities) :
    ability.channelId = row.id ∧ ability.enabled = decide (row.status = channelStatusEnabled) ∧
      ability.priority = row.priority ∧ ability.weight = row.getWeight := by
  obtain ⟨pair, -, rfl⟩ := mem_map.mp h
  exact ⟨rfl, rfl, rfl, rfl⟩

theorem exists_addAbilities_of_mem {group : String} (hgroup : group ∈ row.groups) :
    ∃ ability ∈ row.addAbilities, ability.group = group := by
  -- The pairs with the first model come first, and their texts differ as the groups do.
  obtain ⟨first, rest, hmodels⟩ := exists_cons_of_ne_nil (split_ne_nil ',' row.models)
  rw [RoutingRow.addAbilities, hmodels]
  obtain ⟨seen', hsplit⟩ := distinctPairs_append
    ((split ',' row.group).map fun group => (group, first))
    (rest.flatMap fun model => (split ',' row.group).map fun group => (group, model)) []
  have hpair : (group, first) ∈ (split ',' row.group).map fun group => (group, first) :=
    mem_map.mpr ⟨group, hgroup, rfl⟩
  obtain ⟨kept, hkept, hkey⟩ := exists_mem_distinctPairs hpair not_mem_nil
  obtain ⟨group', -, rfl⟩ := mem_map.mp (mem_of_mem_distinctPairs hkept)
  have hgroups : group' = group := by
    have hchars := congrArg String.toList hkey
    simpa [String.toList_inj] using hchars
  refine ⟨_, mem_map_of_mem (hsplit ▸ mem_append_left _ hkept), hgroups⟩

end

/-! ### The filters of a request -/

inductive ChannelFilterKind
  | requestPath
  | taskPluginIdentity
  | other (name : String)
  deriving DecidableEq, Repr

structure ChannelFilter where
  kind : ChannelFilterKind
  requestPath : String
  taskPluginKey : String
  taskPluginKeys : List String
  taskPluginChannelTypes : List Int

def filterEvalOrder : List ChannelFilterKind := [.requestPath, .taskPluginIdentity]

def channelMatchesFilter (ch : RoutingRow) (modelName : String) (filter : ChannelFilter) : Bool :=
  match filter.kind with
  | .requestPath =>
    if filter.requestPath = "" then true
    else if ch.channelType ≠ channelTypeAdvancedCustom then true
    else
      match ch.advancedCustom with
      | some supportsPathForModel => supportsPathForModel filter.requestPath modelName
      | none => false
  | .taskPluginIdentity =>
    if ch.channelType = channelTypeTaskPlugin then
      filter.taskPluginKey != "" && (ch.taskPluginKey == filter.taskPluginKey ||
        filter.taskPluginKeys.contains ch.taskPluginKey)
    else filter.taskPluginKey == "" || filter.taskPluginChannelTypes.contains ch.channelType
  | .other _ => true

/-- Whether the channel passes, and the kind of the first filter that it does not match. -/
def channelSatisfiesFilters (ch : Option RoutingRow) (modelName : String)
    (filters : List ChannelFilter) : Bool × Option ChannelFilterKind :=
  match ch with
  | none => (false, none)
  | some ch =>
    match filterEvalOrder.find? fun kind => filters.any fun filter =>
        filter.kind == kind && !channelMatchesFilter ch modelName filter with
    | some kind => (false, some kind)
    | none => (true, none)

def filtersByKind (filters : List ChannelFilter) (kind : ChannelFilterKind) : List ChannelFilter :=
  filters.filter fun filter => filter.kind == kind

variable {ch : RoutingRow} {modelName : String} {filters : List ChannelFilter}

theorem kind_mem_of_not_matches {filter : ChannelFilter}
    (h : channelMatchesFilter ch modelName filter = false) : filter.kind ∈ filterEvalOrder := by
  cases hkind : filter.kind with
  | requestPath => exact mem_cons_self
  | taskPluginIdentity => exact mem_cons_of_mem _ mem_cons_self
  | other name =>
    rw [channelMatchesFilter, hkind] at h
    cases h

theorem channelSatisfiesFilters_fst : (channelSatisfiesFilters (some ch) modelName filters).1 =
      filters.all (channelMatchesFilter ch modelName) := by
  rw [Bool.eq_iff_iff, List.all_eq_true, channelSatisfiesFilters]
  split
  next kind hfind =>
    have hany := find?_some hfind
    obtain ⟨filter, hfilter, hfails⟩ := any_eq_true.mp hany
    rw [Bool.and_eq_true, Bool.not_eq_true'] at hfails
    refine ⟨fun h => absurd h Bool.false_ne_true, fun h => ?_⟩
    exact absurd (h filter hfilter) (by rw [hfails.2]; exact Bool.false_ne_true)
  next hfind =>
    refine ⟨fun _ filter hfilter => ?_, fun _ => rfl⟩
    by_contra hfails
    have hfalse := Bool.eq_false_iff.mpr hfails
    refine find?_eq_none.mp hfind filter.kind (kind_mem_of_not_matches hfalse) ?_
    exact any_eq_true.mpr ⟨filter, hfilter, by simp [hfalse]⟩

end NewApi.Model
