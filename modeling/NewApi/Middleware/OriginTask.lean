import NewApi.Middleware.ChannelPin

/-!
# Submissions that refer to earlier tasks

A submission to a task plugin may refer to earlier tasks. They have to be tasks of the same user and
the same plugin on one enabled channel, to which the submission is then pinned. The decoders of the
plugins are inputs.

Sources: `middleware/task_plugin.go` and `service/channel_select.go`.
-/

namespace NewApi.Middleware

open Model List Except GoText

/-! ### Submissions to task plugins -/

inductive IntentValue
  | text (value : String)
  | other
  deriving DecidableEq, Repr

inductive IntentIds
  | list (values : List IntentValue)
  | other
  deriving DecidableEq, Repr

inductive IntentAction
  | absent
  | text (action : String)
  | other
  deriving DecidableEq, Repr

/-- The submission that a decoder of a plugin gives. `model` is none if the entry is not a text. -/
structure DecodedIntent where
  model : Option String
  action : IntentAction
  originTaskIds : Option IntentIds

/-- A submission that is to be distributed: the plugin, the candidates of its endpoint, the model,
and the earlier tasks that it refers to. -/
structure Submission where
  plugin : PluginMeta
  candidates : List PluginMeta
  model : String
  originTaskIds : Option IntentIds
  deriving DecidableEq, Repr

/-- How a request gets to the distribution: on a path without a plugin, on a route of a plugin, on a
shared endpoint with the plugins that claim its model, or on the path of an earlier version. A
decoder gives a submission or the text of its error. -/
inductive TaskEntry
  | relay
  | route (plugin : PluginMeta) (models : List String) (decoded : Except String DecodedIntent)
  | endpoint (model mappedModel : String)
    (candidates : List (PluginMeta × Except String DecodedIntent))
  | submit (plugin : Option PluginMeta) (model : Except String String)

def acceptRoute (plugin : PluginMeta) (models : List String) :
    Except String DecodedIntent → Except PluginDetail Submission
  | .error detail => .error (.hook detail)
  | .ok resolved =>
    match resolved.model with
    | none => .error .missingModel
    | some model =>
      if isBlank model then .error .missingModel
      else if model ∉ plugin.models then .error (.modelNotServed model)
      else if models ≠ [] ∧ model ∉ models then .error (.modelNotAllowed model)
      else if resolved.action = .other then .error .invalidResult
      else .ok ⟨plugin, [], model, resolved.originTaskIds⟩

/-- Whether a candidate of an endpoint accepts its submission. -/
def candidateAccepts (model mappedModel : String) (plugin : PluginMeta) :
    Except String DecodedIntent → Except PluginDetail DecodedIntent
  | .error detail =>
    .error (.hook (if detail = "" then "Invalid task protocol request" else detail))
  | .ok resolved =>
    let name := resolved.model.getD ""
    if isBlank name then .error .missingModel
    else if name ≠ model ∨ mappedModel = "" ∧ name ∉ plugin.models then
      .error (.modelNotServed name)
    else .ok resolved

/-- The first accepted submission, with all plugins that accept theirs. -/
def acceptEndpoint (model mappedModel : String)
    (candidates : List (PluginMeta × Except String DecodedIntent)) : Except Message Submission :=
  let answers := candidates.map fun candidate =>
    (candidate.1, candidateAccepts model mappedModel candidate.1 candidate.2)
  let accepted := answers.filterMap fun answer =>
    answer.2.toOption.map fun resolved => (answer.1, resolved)
  match accepted with
  | [] => .error (.rejected (answers.filterMap fun answer =>
      match answer.2 with
      | .error detail => some (answer.1.key, detail)
      | .ok _ => none))
  | (plugin, resolved) :: _ =>
    if resolved.action = .other then .error (.detail .invalidResult)
    else .ok ⟨plugin, accepted.map Prod.fst, model, resolved.originTaskIds⟩

def acceptSubmit (plugin : Option PluginMeta) (model : Except String String) :
    Except Message Submission :=
  match plugin, model with
  | none, _ => .error (.text "task plugin not found")
  | some _, .error err => .error (.text err)
  | some plugin, .ok model =>
    if isBlank model then .error (.text "model is required")
    else .ok ⟨plugin, [], model, none⟩

/-- The submission of a request, none on a path without a plugin, or the message of a refusal with
the status 400. -/
def TaskEntry.accept : TaskEntry → Except Message (Option Submission)
  | .relay => .ok none
  | .route plugin models decoded =>
    match acceptRoute plugin models decoded with
    | .error detail => .error (.detail detail)
    | .ok submission => .ok (some submission)
  | .endpoint model mappedModel candidates => (acceptEndpoint model mappedModel candidates).map some
  | .submit plugin model => (acceptSubmit plugin model).map some

/-! ### The filter for the plugin -/

/-- The types of the channels of a plugin, without the type of the plugin channels. -/
def PluginMeta.ownChannelTypes (plugin : PluginMeta) : List Int :=
  plugin.channelTypes.filter fun channelType =>
    channelType ≠ 0 ∧ channelType ≠ channelTypeTaskPlugin

/-- The types of the channels that the candidates serve, each once. `getByChannelType` is the key of
the plugin that serves a type. -/
def candidateChannelTypes (getByChannelType : Int → Option String) (candidates : List PluginMeta) :
    List Int :=
  (candidates.flatMap fun candidate => candidate.ownChannelTypes.filter fun channelType =>
    getByChannelType channelType = some candidate.key).eraseDups

/-- The types and keys for a plugin, from the candidates of its endpoint or from the pinned plugin.
-/
def pinnedTaskPluginIdentities (getByChannelType : Int → Option String)
    (candidates : List PluginMeta) (plugin : Option PluginMeta) (expected : String) :
    List Int × List String :=
  if expected = "" then ([], [])
  else if 1 < candidates.length ∧ expected ∈ candidates.map PluginMeta.key then
    (candidateChannelTypes getByChannelType candidates, candidates.map PluginMeta.key)
  else
    match plugin with
    | none => ([], [])
    | some plugin =>
      if plugin.key = expected then (plugin.ownChannelTypes, [expected]) else ([], [])

def taskPluginIdentityFilter (getByChannelType : Int → Option String)
    (candidates : List PluginMeta) (plugin : Option PluginMeta) (expected : String) :
    ChannelFilter :=
  let identities := pinnedTaskPluginIdentities getByChannelType candidates plugin expected
  { kind := .taskPluginIdentity
    requestPath := ""
    taskPluginKey := expected
    taskPluginKeys := identities.2
    taskPluginChannelTypes := identities.1 }

def appendTaskPluginIdentityFilter (getByChannelType : Int → Option String) (pluginKey : String)
    (c : RequestContext) : RequestContext :=
  c.addFilter
    (taskPluginIdentityFilter getByChannelType c.pinnedCandidates c.pinnedPlugin pluginKey)

/-! ### Earlier tasks -/

structure OriginTask where
  userId : Int
  taskId : String
  platform : String
  channelId : Int
  originModelName : String

/-- The stored tasks and channels, with the errors of their queries, and the plugin for a type of
channels. -/
structure TaskEnv where
  tasks : List OriginTask
  taskError : String → Option String
  store : ChannelStore
  channelError : Int → Option String
  getByChannelType : Int → Option String

def getByTaskId (env : TaskEnv) (userId : Int) (taskId : String) :
    Except String (Option OriginTask) :=
  if taskId = "" then .ok none
  else
    match env.taskError taskId with
    | some err => .error err
    | none => .ok (env.tasks.find? fun task => task.userId = userId ∧ task.taskId = taskId)

def maxOriginTaskIDs : ℕ := 16

def maxOriginTaskIDLen : ℕ := 128

/-- The platforms of the tasks of a plugin: its key, and the types of its channels as texts. -/
def taskPluginLegacyPlatforms (plugin : PluginMeta) : List String :=
  let named := if plugin.key = "sunoapi" then [plugin.key, "suno"] else [plugin.key]
  named ++ ((plugin.channelTypes.filter fun channelType =>
    0 < channelType ∧ channelType ≠ channelTypeTaskPlugin).map fun channelType =>
      toString channelType)

structure OriginTaskError where
  code : String
  message : String
  statusCode : ℕ

def invalidOriginTaskIds : OriginTaskError :=
  ⟨"invalid_origin_task_ids", "origin task ids are invalid", 400⟩

def originTaskNotFound (statusCode : ℕ) : OriginTaskError :=
  ⟨"origin_task_not_found", "origin task not found or not owned by you", statusCode⟩

def originTaskPlatformMismatch : OriginTaskError :=
  ⟨"origin_task_platform_mismatch", "origin task does not belong to this plugin", 400⟩

def originTaskChannelConflict : OriginTaskError :=
  ⟨"origin_task_channel_conflict", "origin tasks must belong to the same channel", 400⟩

def originTaskChannelDisabled : OriginTaskError :=
  ⟨"origin_task_channel_disabled", "origin task channel is disabled", 400⟩

/-- The trimmed ids, each once; none if one of them is invalid. -/
def originTaskIds : List IntentValue → List String → Option (List String)
  | [], ids => some ids
  | .other :: _, _ => none
  | .text value :: values, ids =>
    let id := trimSpace value
    if id = "" ∨ id.length > maxOriginTaskIDLen then none
    else if id ∈ ids then originTaskIds values ids
    else originTaskIds values (ids ++ [id])

/-- The tasks with the ids and their channel. A task without a channel agrees with those after it.
-/
def originTasks (env : TaskEnv) (userID : Int) (platforms : List String) :
    List String → Int → Except OriginTaskError (List OriginTask × Int)
  | [], channelID => .ok ([], channelID)
  | id :: ids, channelID =>
    match getByTaskId env userID id with
    | .error _ => .error (originTaskNotFound 500)
    | .ok none => .error (originTaskNotFound 400)
    | .ok (some task) =>
      if task.platform ∉ platforms then .error originTaskPlatformMismatch
      else if channelID ≠ 0 ∧ task.channelId ≠ channelID then .error originTaskChannelConflict
      else
        let channelID := if channelID = 0 then task.channelId else channelID
        match originTasks env userID platforms ids channelID with
        | .error err => .error err
        | .ok (tasks, channelID) => .ok (task :: tasks, channelID)

def originPin (channel : RoutingRow) : ChannelPin :=
  ⟨channel.id, .originTask, pinRankOriginTask, .sameChannel⟩

def applyOriginTaskIntent (env : TaskEnv) (intent : Option IntentIds) (plugin : PluginMeta)
    (c : RequestContext) : Except OriginTaskError RequestContext :=
  match intent with
  | none => .ok c
  | some .other => .error invalidOriginTaskIds
  | some (.list values) =>
    if values.length > maxOriginTaskIDs then .error invalidOriginTaskIds
    else
      match originTaskIds values [] with
      | none => .error invalidOriginTaskIds
      | some [] => .ok c
      | some (first :: rest) =>
        match originTasks env c.userId (taskPluginLegacyPlatforms plugin) (first :: rest) 0 with
        | .error err => .error err
        | .ok (_, channelID) =>
          match cacheGetChannel env.store (env.channelError channelID) channelID with
          | .error _ => .error originTaskChannelDisabled
          | .ok channel =>
            if channel.status ≠ channelStatusEnabled then .error originTaskChannelDisabled
            else .ok (c.addPin (originPin channel))

/-- The context of a submission. -/
def submissionContext (env : TaskEnv) (submission : Submission) (c : RequestContext) :
    Except OriginTaskError RequestContext :=
  let c := { c with
    pinnedPlugin := some submission.plugin
    pinnedCandidates := submission.candidates
    resolvedTaskModel := submission.model
    expectedTaskPluginKey := submission.plugin.key }
  applyOriginTaskIntent env submission.originTaskIds submission.plugin
    (appendTaskPluginIdentityFilter env.getByChannelType submission.plugin.key c)

/-- The code of a refusal. A route of a plugin has codes of its own. -/
def TaskEntry.refusalCode (entry : TaskEntry) (statusCode : ℕ) (code : String) : String :=
  match entry with
  | .route _ _ _ => if statusCode < 500 then "invalid_request" else "server_error"
  | _ => code

/-- The middleware of a task plugin. -/
def prepareTaskPlugin (env : TaskEnv) (entry : TaskEntry) (c : RequestContext) :
    Except Abort RequestContext :=
  match entry.accept with
  | .error message => .error ⟨400, message, entry.refusalCode 400 ""⟩
  | .ok none => .ok c
  | .ok (some submission) =>
    match submissionContext env submission c with
    | .error err =>
      .error ⟨err.statusCode, .text err.message, entry.refusalCode err.statusCode err.code⟩
    | .ok c => .ok c

/-! ### Which earlier tasks pin a channel -/

def Owned (env : TaskEnv) (userId : Int) (plugin : PluginMeta) (id : String) (task : OriginTask) :
    Prop :=
  getByTaskId env userId id = .ok (some task) ∧ task.platform ∈ taskPluginLegacyPlatforms plugin

def SharedChannel (channelIds : List Int) (channelId : Int) : Prop :=
  (∀ id ∈ channelIds.dropWhile (· == 0), id = channelId) ∧
    (channelIds.dropWhile (· == 0) = [] → channelId = 0)

/-- The intent refers to tasks of the user and the plugin that share an enabled channel. -/
def PinsChannel (env : TaskEnv) (userId : Int) (plugin : PluginMeta) (intent : Option IntentIds)
    (channel : RoutingRow) : Prop :=
  ∃ values ids tasks channelId, intent = some (.list values) ∧ values.length ≤ maxOriginTaskIDs ∧
    originTaskIds values [] = some ids ∧ ids ≠ [] ∧
    List.Forall₂ (Owned env userId plugin) ids tasks ∧
    SharedChannel (tasks.map OriginTask.channelId) channelId ∧
    cacheGetChannel env.store (env.channelError channelId) channelId = .ok channel ∧
    channel.status = channelStatusEnabled

section

variable {env : TaskEnv} {userId start channelId next : Int} {plugin : PluginMeta}
  {ids : List String} {tasks : List OriginTask} {channelIds : List Int} {values : List IntentValue}
  {intent : Option IntentIds} {c c' : RequestContext}

theorem sharedChannel_zero_cons :
    SharedChannel (0 :: channelIds) channelId ↔ SharedChannel channelIds channelId := Iff.rfl

theorem sharedChannel_cons_of_ne (hstart : start ≠ 0) :
    SharedChannel (start :: channelIds) channelId ↔
      start = channelId ∧ ∀ id ∈ channelIds, id = channelId := by
  have hdrop : (start :: channelIds).dropWhile (· == 0) = start :: channelIds :=
    dropWhile_cons_of_neg (by simpa using hstart)
  rw [SharedChannel, hdrop, forall_mem_cons]
  exact and_iff_left (fun h => absurd h (cons_ne_nil start channelIds))

theorem sharedChannel_cons_cons :
    SharedChannel (start :: next :: channelIds) channelId ↔ ¬ (start ≠ 0 ∧ next ≠ start) ∧
      SharedChannel ((if start = 0 then next else start) :: channelIds) channelId := by
  by_cases hstart : start = 0
  · subst hstart
    rw [sharedChannel_zero_cons]
    simp
  rw [if_neg hstart, sharedChannel_cons_of_ne hstart, sharedChannel_cons_of_ne hstart,
    forall_mem_cons]
  constructor
  · rintro ⟨rfl, rfl, hrest⟩
    exact ⟨fun h => h.2 rfl, rfl, hrest⟩
  rintro ⟨hnext, rfl, hrest⟩
  refine ⟨rfl, ?_, hrest⟩
  by_contra hne
  exact hnext ⟨hstart, hne⟩

theorem originTasks_ok :
    originTasks env userId (taskPluginLegacyPlatforms plugin) ids start = .ok (tasks, channelId) ↔
      List.Forall₂ (Owned env userId plugin) ids tasks ∧
        SharedChannel (start :: tasks.map OriginTask.channelId) channelId := by
  induction ids generalizing start tasks with
  | nil =>
    rw [originTasks, ok.injEq, Prod.mk.injEq, forall₂_nil_left_iff, eq_comm]
    refine and_congr_right fun htasks => ?_
    subst htasks
    by_cases hstart : start = 0
    · subst hstart
      exact ⟨fun h => ⟨by simp, fun _ => h.symm⟩, fun h => (h.2 rfl).symm⟩
    · rw [sharedChannel_cons_of_ne hstart]
      exact ⟨fun h => ⟨h, by simp⟩, fun h => h.1⟩
  | cons id ids ih =>
    rw [originTasks, forall₂_cons_left_iff]
    constructor
    · intro h
      split at h
      · cases h
      · cases h
      rename_i task hfound
      split at h
      · cases h
      rename_i hplatform
      split at h
      · cases h
      rename_i hagree
      dsimp only at h
      split at h
      · cases h
      rename_i rest channelId' hrest
      obtain ⟨rfl, rfl⟩ := Prod.mk.inj (ok.inj h)
      obtain ⟨howned, hshared⟩ := ih.mp hrest
      exact ⟨⟨task, rest, ⟨hfound, not_not.mp hplatform⟩, howned, rfl⟩,
        sharedChannel_cons_cons.mpr ⟨hagree, hshared⟩⟩
    · rintro ⟨⟨task, rest, ⟨hfound, hplatform⟩, howned, rfl⟩, hshared⟩
      obtain ⟨hagree, hshared⟩ := sharedChannel_cons_cons.mp hshared
      rw [hfound]
      dsimp only
      rw [if_neg (not_not.mpr hplatform), if_neg hagree, ih.mpr ⟨howned, hshared⟩]

theorem mem_originTaskIds {seen : List String} (h : originTaskIds values seen = some ids) :
    ∀ id ∈ seen, id ∈ ids := by
  induction values generalizing seen with
  | nil =>
    obtain rfl := Option.some.inj h
    exact fun id hid => hid
  | cons value values ih =>
    cases value with
    | other => cases h
    | text value =>
      rw [originTaskIds] at h
      split at h
      · cases h
      · split at h
        · exact ih h
        · exact fun id hid => ih h id (mem_append_left _ hid)

theorem eq_nil_of_originTaskIds (h : originTaskIds values [] = some []) : values = [] := by
  rcases values with - | ⟨value, values⟩
  · rfl
  cases value with
  | other => cases h
  | text value =>
    rw [originTaskIds] at h
    split at h
    · cases h
    · rw [if_neg not_mem_nil] at h
      have hmem := mem_originTaskIds h (trimSpace value) (by simp)
      exact absurd hmem not_mem_nil

theorem applyOriginTaskIntent_ok : applyOriginTaskIntent env intent plugin c = .ok c' ↔
      (intent = none ∨ intent = some (.list [])) ∧ c' = c ∨
        ∃ channel, PinsChannel env c.userId plugin intent channel ∧
          c' = c.addPin (originPin channel) := by
  constructor
  · fun_cases applyOriginTaskIntent env intent plugin c with
    | case1 =>
      rintro ⟨⟩
      exact .inl ⟨.inl rfl, rfl⟩
    | case5 values hlength hids =>
      rintro ⟨⟩
      obtain rfl := eq_nil_of_originTaskIds hids
      exact .inl ⟨.inr rfl, rfl⟩
    | case9 values hlength first rest hids tasks channelId htasks channel hch hstatus =>
      rintro ⟨⟩
      obtain ⟨howned, hshared⟩ := originTasks_ok.mp htasks
      exact .inr ⟨channel, ⟨values, first :: rest, tasks, channelId, rfl, not_lt.mp hlength, hids,
        cons_ne_nil first rest, howned, sharedChannel_zero_cons.mp hshared, hch,
        not_not.mp hstatus⟩, rfl⟩
    | _ => rintro ⟨⟩
  · rintro (⟨hnone | hempty, rfl⟩ | ⟨channel, ⟨values, ids, tasks, channelId, rfl, hlength, hids,
      hne, howned, hshared, hch, hstatus⟩, rfl⟩)
    · rw [hnone]
      rfl
    · rw [hempty]
      rfl
    obtain ⟨first, rest, rfl⟩ := exists_cons_of_ne_nil hne
    have htasks := originTasks_ok.mpr ⟨howned, sharedChannel_zero_cons.mpr hshared⟩
    simp [applyOriginTaskIntent, not_lt.mpr hlength, hids, htasks, hch, hstatus]

end

/-! ### The context of a submission -/

def pinnedContext (env : TaskEnv) (submission : Submission) (origin : RoutingRow)
    (c : RequestContext) : RequestContext :=
  (appendTaskPluginIdentityFilter env.getByChannelType submission.plugin.key
    { c with
      pinnedPlugin := some submission.plugin
      pinnedCandidates := submission.candidates
      resolvedTaskModel := submission.model
      expectedTaskPluginKey := submission.plugin.key }).addPin (originPin origin)

variable {env : TaskEnv} {token : Token} {entry : TaskEntry} {submission : Submission}
  {origin : RoutingRow} {c c' : RequestContext}

theorem pins_pinnedContext : (pinnedContext env submission origin c).constraints.pins =
    c.constraints.pins ++ [originPin origin] := rfl

theorem LimitedContext.pinnedContext (h : LimitedContext token c) (env : TaskEnv)
    (submission : Submission) (origin : RoutingRow) :
    LimitedContext token (pinnedContext env submission origin c) :=
  ⟨h.userId, h.enabled, h.limits⟩

theorem prepareTaskPlugin_of_pins (haccept : entry.accept = .ok (some submission))
    (hpins : PinsChannel env c.userId submission.plugin submission.originTaskIds origin) :
    prepareTaskPlugin env entry c = .ok (pinnedContext env submission origin c) := by
  have hcontext :
      submissionContext env submission c = .ok (pinnedContext env submission origin c) :=
    applyOriginTaskIntent_ok.mpr (.inr ⟨origin, hpins, rfl⟩)
  simp [prepareTaskPlugin, haccept, hcontext]

theorem prepareTaskPlugin_ok (hlimited : LimitedContext token c)
    (h : prepareTaskPlugin env entry c = .ok c') :
    LimitedContext token c' ∧ (c'.constraints.pins = c.constraints.pins ∨
      ∃ submission origin, entry.accept = .ok (some submission) ∧
        PinsChannel env token.userId submission.plugin submission.originTaskIds origin ∧
        c' = pinnedContext env submission origin c) := by
  unfold prepareTaskPlugin at h
  split at h
  · cases h
  · obtain rfl := ok.inj h
    exact ⟨hlimited, .inl rfl⟩
  rename_i submission haccept
  split at h
  · cases h
  rename_i c'' hcontext
  obtain rfl := ok.inj h
  rcases applyOriginTaskIntent_ok.mp hcontext with ⟨-, rfl⟩ | ⟨origin, hpins, rfl⟩
  · exact ⟨⟨hlimited.userId, hlimited.enabled, hlimited.limits⟩, .inl rfl⟩
  · exact ⟨⟨hlimited.userId, hlimited.enabled, hlimited.limits⟩,
      .inr ⟨submission, origin, haccept, hlimited.userId ▸ hpins, rfl⟩⟩

end NewApi.Middleware
