import NewApi.Controller.RelayRetry
import NewApi.Middleware.OriginTask

/-!
# The distributor

`Distribute` finds the model of a request and a channel for it. A pinned channel is taken as it is.
Otherwise the limits of the token are checked, and a channel is selected: the one that the affinity
of the request prefers, or one of those that satisfy the request. A request gets there with the
context of its token, and on the paths of the task plugins after `prepareTaskPlugin`.

The decoded bodies, the affinity and the groups that a user may use are inputs.

Sources: `middleware/distributor.go` and `relay/constant/relay_mode.go`.
-/

namespace NewApi.Middleware

open Model Service List Except GoText

/-! ### The model of a request -/

structure ModelRequest where
  model : String
  group : String
  deriving DecidableEq, Repr

inductive Method
  | get
  | post
  | other

/-- The modes of the Midjourney paths. -/
inductive MjRelayMode
  | unknown
  | action
  | modal
  | shorten
  | swapFace
  | upload
  | imagine
  | video
  | edits
  | blend
  | describe
  | notify
  | change
  | taskFetch
  | taskImageSeed
  | taskFetchByCondition
  deriving DecidableEq, Repr

/-- The ends of the Midjourney paths, in the order of the tests. -/
def mjPathModes : List (String × MjRelayMode) :=
  [("/mj/submit/action", .action),
    ("/mj/submit/modal", .modal),
    ("/mj/submit/shorten", .shorten),
    ("/mj/insight-face/swap", .swapFace),
    ("/submit/upload-discord-images", .upload),
    ("/mj/submit/imagine", .imagine),
    ("/mj/submit/video", .video),
    ("/mj/submit/edits", .edits),
    ("/mj/submit/blend", .blend),
    ("/mj/submit/describe", .describe),
    ("/mj/notify", .notify),
    ("/mj/submit/change", .change),
    ("/mj/submit/simple-change", .change),
    ("/fetch", .taskFetch),
    ("/image-seed", .taskImageSeed),
    ("/list-by-condition", .taskFetchByCondition)]

def path2RelayModeMidjourney (path : String) : MjRelayMode :=
  ((mjPathModes.find? fun entry => hasSuffix path entry.1).map Prod.snd).getD .unknown

/-- What the distribution reads of a request. `body` is the model and the group in its body,
`playgroundGroup` the group of a playground request, and `mjRequestModel` the model of a Midjourney
request with whether its mode has one; or the text of an error. -/
structure HttpRequest where
  path : String
  method : Method
  contentType : String
  body : Except String ModelRequest
  playgroundGroup : Except String String
  mjRequestModel : MjRelayMode → Except String (String × Bool)
  queryModel : String
  paramModel : String
  paramTaskId : String

def onlyModel (model : String) (shouldSelectChannel : Bool) : ModelRequest × Bool :=
  (⟨model, ""⟩, shouldSelectChannel)

def midjourneyModel (req : HttpRequest) : Except String (ModelRequest × Bool) :=
  let relayMode := path2RelayModeMidjourney req.path
  if relayMode ∈ [.taskFetch, .taskFetchByCondition, .notify, .taskImageSeed] then
    .ok (onlyModel "" false)
  else
    match req.mjRequestModel relayMode with
    | .error err => .error err
    | .ok (model, success) =>
      if model ≠ "" then .ok (onlyModel model true)
      else if success then .ok (onlyModel "" false)
      else .error "distributor.invalid_request_parse_model"

/-- The model of the task in the path, for a token with limits. -/
def getTaskOriginModelName (env : TaskEnv) (modelLimitEnabled : Bool) (userId : Int)
    (taskId : String) : String :=
  if !modelLimitEnabled then ""
  else if taskId = "" then ""
  else
    match getByTaskId env userId taskId with
    | .ok (some task) => task.originModelName
    | _ => ""

def extractModelNameFromGeminiPath (path : String) : String :=
  match after path "/models/" with
  | none => ""
  | some rest => .ofList (rest.toList.takeWhile (· ≠ ':'))

/-- The model that the path decides about. -/
def pathModel (env : TaskEnv) (resolvedTaskModel : String) (modelLimitEnabled : Bool)
    (userId : Int) (req : HttpRequest) : Except String (ModelRequest × Bool) :=
  let path := req.path
  let bodyModel := req.body.map fun req => onlyModel req.model true
  if resolvedTaskModel ≠ "" then .ok (onlyModel resolvedTaskModel true)
  else if contains path "/mj/" then midjourneyModel req
  else if contains path "/v1/videos/" && hasSuffix path "/remix" then
    .ok (onlyModel "" false)
  else if contains path "/pg/videos" then
    match req.method with
    | .post => req.body.map fun req => (req, true)
    | .get => .ok (onlyModel "" false)
    | .other => .ok (onlyModel "" true)
  else if contains path "/v1/videos" || contains path "/v1/video/generations" then
    match req.method with
    | .post => bodyModel
    | .get => .ok (onlyModel
        (getTaskOriginModelName env modelLimitEnabled userId req.paramTaskId) false)
    | .other => .ok (onlyModel "" true)
  else if hasPrefix path "/v1beta/models/" || hasPrefix path "/v1/models/" then
    .ok (onlyModel (extractModelNameFromGeminiPath path) true)
  else if !hasPrefix path "/v1/audio/transcriptions" &&
      !contains req.contentType "multipart/form-data" then bodyModel
  else .ok (onlyModel "" true)

def getStringIfEmpty (str defaultValue : String) : String :=
  if str = "" then defaultValue else str

def HttpRequest.bodyModelOr (req : HttpRequest) (model : String) : String :=
  match req.body with
  | .ok req => getStringIfEmpty req.model model
  | .error _ => model

def HttpRequest.mediaType (req : HttpRequest) : String :=
  .ofList (req.contentType.toList.takeWhile fun c => c ≠ ' ' ∧ c ≠ ';')

/-- The models that some paths have by default, or read elsewhere. -/
def defaultModel (req : HttpRequest) (model : String) : String :=
  let path := req.path
  let model := if hasPrefix path "/v1/realtime" then req.queryModel else model
  let model := if hasPrefix path "/v1/moderations" then
    getStringIfEmpty model "text-moderation-stable" else model
  let model := if hasSuffix path "embeddings" then
    getStringIfEmpty model req.paramModel else model
  let model :=
    if hasPrefix path "/v1/images/generations" then getStringIfEmpty model "dall-e"
    else if hasPrefix path "/v1/images/edits" &&
        ["application/x-www-form-urlencoded", "multipart/form-data"].contains req.mediaType then
      req.bodyModelOr model
    else model
  if hasPrefix path "/v1/audio/speech" then getStringIfEmpty model "tts-1"
  else if hasPrefix path "/v1/audio/translations" ||
      hasPrefix path "/v1/audio/transcriptions" then
    getStringIfEmpty (req.bodyModelOr model) "whisper-1"
  else model

/-- The model of a request, and whether it is to have a channel. -/
def getModelRequest (env : TaskEnv) (resolvedTaskModel : String) (modelLimitEnabled : Bool)
    (userId : Int) (req : HttpRequest) : Except String (ModelRequest × Bool) :=
  match pathModel env resolvedTaskModel modelLimitEnabled userId req with
  | .error err => .error err
  | .ok (modelRequest, shouldSelectChannel) =>
    if hasPrefix req.path "/pg/" && shouldSelectChannel then
      req.body.map fun req => (req, true)
    else
      .ok ({ modelRequest with model := defaultModel req modelRequest.model },
        shouldSelectChannel)

/-! ### The limits of a token -/

def tokenModelLimitAllows (baseName : String → String) (limit : GoMap String Bool)
    (model : String) : Bool :=
  if (limit.lookup model).getD false then true
  else if (limit.lookup (formatMatchingModelName model)).getD false then true
  else (limit.lookup (routingMatchModelName baseName model)).getD false

def checkTokenModelLimit (baseName : String → String) (c : RequestContext) (model : String) :
    Except Abort Unit :=
  if !c.tokenModelLimitEnabled then .ok ()
  else
    match c.tokenModelLimit with
    | none => .error ⟨403, .tokenNoModelAccess, ""⟩
    | some limit =>
      if tokenModelLimitAllows baseName limit model then .ok ()
      else .error ⟨403, .tokenModelForbidden model, ""⟩

/-! ### The distribution -/

/-- What the distribution reads besides the request: the channels, the random numbers, the errors of
the queries, the groups that `GetRequestAutoGroups` gives, the groups that a user may use, and the
channel that the affinity prefers for a model and a group. -/
structure DistributeEnv where
  select : SelectEnv
  draws : ℕ → ℕ
  channelError : Int → Option String
  abilityError : Option String
  autoGroups : Option (List String) → String → List String
  groupInUserUsableGroups : String → String → Bool
  preferredChannel : String → String → Option Int

/-- What is passed on: the channel, if one is selected, the model, and the groups. -/
structure Distributed where
  channel : Option RoutingRow
  model : String
  usingGroup : String
  autoGroup : Option String

/-- Source: `dto/channel_constraints.go`. -/
def filterKindText : Option ChannelFilterKind → String
  | some .requestPath => "request_path"
  | some .taskPluginIdentity => "task_plugin_identity"
  | some (.other name) => name
  | none => ""

def noAvailableChannelMessage (c : RequestContext) (group model : String) : Message :=
  match c.pinnedPlugin with
  | none => .noAvailableChannel group model
  | some plugin =>
    .noAvailableChannelTaskPlugin group model
      (if c.pinnedCandidates.isEmpty then [plugin.key] else c.pinnedCandidates.map PluginMeta.key)

def originChannelDisabled : Abort :=
  ⟨400, .text "origin_task_channel_disabled", "origin_task_channel_disabled"⟩

/-- The channel of a pin. -/
def pinnedChannel (env : DistributeEnv) (c : RequestContext) (model : String) (pin : ChannelPin) :
    Except Abort RoutingRow :=
  match cacheGetChannel env.select.store (env.channelError pin.channelId) pin.channelId with
  | .error _ =>
    if pin.source = .originTask then .error originChannelDisabled
    else .error ⟨400, .invalidChannelId, ""⟩
  | .ok ch =>
    if ch.status ≠ channelStatusEnabled then
      if pin.source = .originTask then .error originChannelDisabled
      else .error ⟨403, .channelDisabled, ""⟩
    else
      let satisfies := channelSatisfiesFilters (some ch) model c.constraints.filters
      if satisfies.1 then .ok ch
      else .error ⟨400, .noAvailableChannel c.usingGroup model, filterKindText satisfies.2⟩

/-- The group of a playground request. -/
def playgroundGroup (env : DistributeEnv) (req : HttpRequest) (usingGroup : String) :
    Except Abort String :=
  if hasPrefix req.path "/pg/" then
    match req.playgroundGroup with
    | .error err => .error ⟨400, .invalidPlayground err, ""⟩
    | .ok group =>
      if group = "" then .ok usingGroup
      else if !env.groupInUserUsableGroups usingGroup group && group ≠ usingGroup then
        .error ⟨403, .groupAccessDenied, ""⟩
      else .ok group
  else .ok usingGroup

/-- The preferred channel, with the group that it serves for the group `auto`. -/
def affinityChannel (env : DistributeEnv) (c : RequestContext) (model usingGroup : String) :
    Option (RoutingRow × Option String) :=
  match env.preferredChannel model usingGroup with
  | none => none
  | some preferredChannelID =>
    match cacheGetChannel env.select.store (env.channelError preferredChannelID)
        preferredChannelID with
    | .error _ => none
    | .ok preferred =>
      let enabledFor := fun group => isChannelEnabledForGroupModel env.select.baseModelName
        env.select.store env.abilityError group model preferred.id
      if preferred.status ≠ channelStatusEnabled then none
      else if !(channelSatisfiesFilters (some preferred) model c.constraints.filters).1 then none
      else if usingGroup = "auto" then
        ((env.autoGroups c.tokenAutoGroups c.userGroup).find? enabledFor).map
          fun group => (preferred, some group)
      else if enabledFor usingGroup then some (preferred, none)
      else none

def selectContext (env : DistributeEnv) (c : RequestContext) : SelectContext where
  tokenCrossGroupRetry := c.tokenCrossGroupRetry
  autoGroups := env.autoGroups c.tokenAutoGroups c.userGroup
  filters := c.constraints.filters
  autoGroup := none
  autoGroupIndex := none
  autoGroupRetryIndex := none

def selectChannel (env : DistributeEnv) (c : RequestContext) (req : HttpRequest)
    (model : String) : Except Abort Distributed :=
  if model = "" then .error ⟨400, .modelNameRequired, ""⟩
  else
    match playgroundGroup env req c.usingGroup with
    | .error abort => .error abort
    | .ok usingGroup =>
      match affinityChannel env c model usingGroup with
      | some (ch, autoGroup) => .ok ⟨some ch, model, usingGroup, autoGroup⟩
      | none =>
        let selected := cacheGetRandomSatisfiedChannel env.select env.draws (selectContext env c)
          (Controller.newRetryParam usingGroup model req.path)
        match selected.err, selected.channel with
        | some err, _ =>
          let showGroup := if usingGroup = "auto" then "auto(" ++ selected.group ++ ")"
            else usingGroup
          .error ⟨503, .getChannelFailed showGroup model err, "model_not_found"⟩
        | none, none =>
          .error ⟨503, noAvailableChannelMessage c usingGroup model, "model_not_found"⟩
        | none, some ch => .ok ⟨some ch, model, usingGroup, selected.context.autoGroup⟩

/-- The pinned channel, or a selected one if the limits of the token allow the model. -/
def chooseChannel (env : DistributeEnv) (c : RequestContext) (req : HttpRequest)
    (model : String) (shouldSelectChannel : Bool) : Except Abort Distributed :=
  match c.constraints.resolvedPin with
  | some (pin, _) =>
    match pinnedChannel env c model pin with
    | .error abort => .error abort
    | .ok ch => .ok ⟨some ch, model, c.usingGroup, none⟩
  | none =>
    match checkTokenModelLimit env.select.baseModelName c model with
    | .error abort => .error abort
    | .ok () =>
      if shouldSelectChannel then selectChannel env c req model
      else .ok ⟨none, model, c.usingGroup, none⟩

def checkChannel (c : RequestContext) (chosen : Distributed) : Except Abort Distributed :=
  match chosen.channel with
  | none => .ok chosen
  | some ch =>
    if (channelSatisfiesFilters (some ch) chosen.model c.constraints.filters).1 then .ok chosen
    else .error ⟨503, noAvailableChannelMessage c chosen.usingGroup chosen.model, "model_not_found"⟩

def requestPathFilter (path : String) : ChannelFilter where
  kind := .requestPath
  requestPath := path
  taskPluginKey := ""
  taskPluginKeys := []
  taskPluginChannelTypes := []

/-- The context with the filters that the distribution adds. -/
def distributeContext (env : TaskEnv) (c : RequestContext) (req : HttpRequest) :
    RequestContext :=
  appendTaskPluginIdentityFilter env.getByChannelType c.expectedTaskPluginKey
    (c.addFilter (requestPathFilter req.path))

/-- `Distribute` in `middleware/distributor.go`. -/
def distribute (taskEnv : TaskEnv) (env : DistributeEnv) (c : RequestContext)
    (req : HttpRequest) : Except Abort Distributed :=
  let c := distributeContext taskEnv c req
  match getModelRequest taskEnv c.resolvedTaskModel c.tokenModelLimitEnabled c.userId req with
  | .error err => .error ⟨400, .invalidRequest err, ""⟩
  | .ok (modelRequest, shouldSelectChannel) =>
    match chooseChannel env c req modelRequest.model shouldSelectChannel with
    | .error abort => .error abort
    | .ok chosen => checkChannel c chosen

/-! ### The middlewares of a request -/

/-- What the middlewares of a request read. The stores of the last two may differ, as the cache of
the channels may change between them. -/
structure RouteEnv where
  token : TokenEnv
  task : TaskEnv
  distribute : DistributeEnv

/-- A request: the parts of its key after the prefix, the group of the user and that of the request,
the way to the distribution, and the rest. -/
structure ClientRequest where
  parts : List String
  userGroup : String
  usingGroup : String
  entry : TaskEntry
  http : HttpRequest

/-- A request through the middlewares: token, task plugin, distributor. -/
def routeRequest (env : RouteEnv) (token : Token) (req : ClientRequest) :
    Except Abort Distributed :=
  match setupContextForToken env.token token req.parts
      (newContext req.userGroup req.usingGroup) with
  | .error abort => .error abort
  | .ok c =>
    match prepareTaskPlugin env.task req.entry c with
    | .error abort => .error abort
    | .ok c => distribute env.task env.distribute c req.http

/-! ### Requests without a pin -/

section

variable {env : DistributeEnv} {token : Token} {c : RequestContext} {req : HttpRequest}
  {model : String} {shouldSelectChannel : Bool} {chosen passed : Distributed}

def LimitAllows (env : DistributeEnv) (token : Token) (model : String) : Prop :=
  tokenModelLimitAllows env.select.baseModelName token.getModelLimitsMap model = true

theorem selectChannel_model (h : selectChannel env c req model = .ok chosen) :
    chosen.model = model := by
  unfold selectChannel at h
  split at h
  · cases h
  split at h
  · cases h
  split at h
  · obtain rfl := ok.inj h
    rfl
  dsimp only at h
  split at h
  · cases h
  · cases h
  · obtain rfl := ok.inj h
    rfl

theorem chooseChannel_of_limited (hlimited : LimitedContext token c)
    (hpins : c.constraints.pins = [])
    (h : chooseChannel env c req model shouldSelectChannel = .ok chosen) :
    chosen.model = model ∧ LimitAllows env token model := by
  rw [chooseChannel, resolvedPin_of_nil hpins] at h
  dsimp only at h
  split at h
  · cases h
  rename_i hcheck
  have hallowed : LimitAllows env token model := by
    rw [checkTokenModelLimit, hlimited.enabled, hlimited.limits] at hcheck
    by_contra hforbidden
    rw [LimitAllows] at hforbidden
    simp [hforbidden] at hcheck
  refine ⟨?_, hallowed⟩
  split at h
  · exact selectChannel_model h
  · obtain rfl := ok.inj h
    rfl

theorem checkChannel_ok : checkChannel c chosen = .ok passed ↔
      passed = chosen ∧ ∀ ch, chosen.channel = some ch →
      c.constraints.filters.all (channelMatchesFilter ch chosen.model) = true := by
  rw [checkChannel]
  split
  next hnone =>
    refine ⟨fun h => ⟨(ok.inj h).symm, fun ch hsome => ?_⟩, fun h => h.1 ▸ rfl⟩
    rw [hnone] at hsome
    cases hsome
  rename_i ch hsome
  rw [channelSatisfiesFilters_fst]
  constructor
  · intro h
    split at h
    next hfilters =>
      refine ⟨(ok.inj h).symm, fun ch' hsome' => ?_⟩
      obtain rfl := Option.some.inj (hsome.symm.trans hsome')
      exact hfilters
    · cases h
  · rintro ⟨rfl, hfilters⟩
    rw [if_pos (hfilters ch hsome)]

theorem pinnedChannel_ok {pin : ChannelPin} {ch : RoutingRow} :
    pinnedChannel env c model pin = .ok ch ↔
      cacheGetChannel env.select.store (env.channelError pin.channelId) pin.channelId =
          .ok ch ∧ ch.status = channelStatusEnabled ∧
        c.constraints.filters.all (channelMatchesFilter ch model) = true := by
  constructor
  · intro h
    unfold pinnedChannel at h
    split at h
    · split at h <;> cases h
    rename_i stored hstored
    split at h
    · split at h <;> cases h
    rename_i hstatus
    dsimp only at h
    split at h
    next hfilters =>
      obtain rfl := ok.inj h
      exact ⟨hstored, not_not.mp hstatus, channelSatisfiesFilters_fst ▸ hfilters⟩
    · cases h
  · rintro ⟨hstored, hstatus, hfilters⟩
    rw [← channelSatisfiesFilters_fst] at hfilters
    simp [pinnedChannel, hstored, if_neg (not_not.mpr hstatus), if_pos hfilters]

theorem distribute_of_limited {taskEnv : TaskEnv} (hlimited : LimitedContext token c)
    (hpins : c.constraints.pins = []) (h : distribute taskEnv env c req = .ok passed) :
    LimitAllows env token passed.model := by
  unfold distribute at h
  dsimp only at h
  split at h
  · cases h
  split at h
  · cases h
  rename_i chosen hchosen
  obtain ⟨rfl, -⟩ := checkChannel_ok.mp h
  have hcontext : LimitedContext token (distributeContext taskEnv c req) :=
    ⟨hlimited.userId, hlimited.enabled, hlimited.limits⟩
  obtain ⟨hmodel, hallowed⟩ := chooseChannel_of_limited hcontext hpins hchosen
  exact hmodel ▸ hallowed

theorem distribute_of_pin {taskEnv : TaskEnv} {origin : RoutingRow}
    (hpins : c.constraints.pins = [originPin origin]) :
    distribute taskEnv env c req = .ok passed ↔ ∃ modelRequest shouldSelectChannel ch,
      getModelRequest taskEnv c.resolvedTaskModel c.tokenModelLimitEnabled c.userId req =
        .ok (modelRequest, shouldSelectChannel) ∧
      cacheGetChannel env.select.store (env.channelError origin.id) origin.id = .ok ch ∧
      ch.status = channelStatusEnabled ∧
      (distributeContext taskEnv c req).constraints.filters.all
        (channelMatchesFilter ch modelRequest.model) = true ∧
      passed = ⟨some ch, modelRequest.model, c.usingGroup, none⟩ := by
  have hpin : (distributeContext taskEnv c req).constraints.resolvedPin =
      some (originPin origin, []) := resolvedPin_of_singleton hpins
  constructor
  · intro h
    unfold distribute at h
    dsimp only at h
    split at h
    · cases h
    rename_i modelRequest shouldSelectChannel hmodel
    split at h
    · cases h
    rename_i chosen hchosen
    obtain ⟨rfl, -⟩ := checkChannel_ok.mp h
    rw [chooseChannel, hpin] at hchosen
    dsimp only at hchosen
    split at hchosen
    · cases hchosen
    rename_i ch hch
    obtain ⟨hstored, hstatus, hfilters⟩ := pinnedChannel_ok.mp hch
    exact ⟨modelRequest, shouldSelectChannel, ch, hmodel, hstored, hstatus, hfilters,
      (ok.inj hchosen).symm⟩
  · rintro ⟨modelRequest, shouldSelectChannel, ch, hmodel, hstored, hstatus, hfilters, rfl⟩
    have hch : pinnedChannel env (distributeContext taskEnv c req) modelRequest.model
        (originPin origin) = .ok ch := pinnedChannel_ok.mpr ⟨hstored, hstatus, hfilters⟩
    have hchosen : chooseChannel env (distributeContext taskEnv c req) req
        modelRequest.model shouldSelectChannel =
          .ok ⟨some ch, modelRequest.model, c.usingGroup, none⟩ := by
      rw [chooseChannel, hpin]
      dsimp only
      rw [hch]
      rfl
    have hcheck : checkChannel (distributeContext taskEnv c req)
        ⟨some ch, modelRequest.model, c.usingGroup, none⟩ =
          .ok ⟨some ch, modelRequest.model, c.usingGroup, none⟩ := by
      refine checkChannel_ok.mpr ⟨rfl, fun ch' hch' => ?_⟩
      obtain rfl := Option.some.inj hch'
      exact hfilters
    have hmodel' : getModelRequest taskEnv (distributeContext taskEnv c req).resolvedTaskModel
        (distributeContext taskEnv c req).tokenModelLimitEnabled
        (distributeContext taskEnv c req).userId req =
          .ok (modelRequest, shouldSelectChannel) := hmodel
    simp [distribute, hmodel', hchosen, hcheck]

end

/-! ### The first selection -/

theorem selectChannel_eq_distribute {env : DistributeEnv} {c : RequestContext}
    {req : HttpRequest} {model : String} (hmodel : model ≠ "")
    (hplayground : hasPrefix req.path "/pg/" = false)
    (hpreferred : env.preferredChannel model c.usingGroup = none) :
    ((selectChannel env c req model).toOption.bind fun chosen =>
        (checkChannel c chosen).toOption.bind Distributed.channel) =
      (Controller.distribute env.select env.draws (selectContext env c)
        (Controller.newRetryParam c.usingGroup model req.path)).map Prod.fst := by
  have hgroup : playgroundGroup env req c.usingGroup = .ok c.usingGroup := by
    rw [playgroundGroup, hplayground]
    rfl
  have haffinity : affinityChannel env c model c.usingGroup = none := by
    rw [affinityChannel, hpreferred]
  have hfilters := filters_cacheGetRandomSatisfiedChannel env.select env.draws
    (selectContext env c) (Controller.newRetryParam c.usingGroup model req.path)
  simp only [selectChannel, if_neg hmodel, hgroup, haffinity, Controller.distribute]
  generalize cacheGetRandomSatisfiedChannel env.select env.draws (selectContext env c)
    (Controller.newRetryParam c.usingGroup model req.path) = selected at hfilters ⊢
  obtain ⟨ch, group, err, context, param⟩ := selected
  cases err with
  | some err => rfl
  | none =>
    rcases ch with - | ch
    · rfl
    have hcontext : context.filters = c.constraints.filters := hfilters
    simp only [checkChannel, hcontext, Controller.newRetryParam]
    by_cases hpasses : (channelSatisfiesFilters (some ch) model c.constraints.filters).1 = true
    · simp [Except.toOption, if_pos hpasses]
    · simp [Except.toOption, if_neg hpasses]

/-! ### Pinned submissions -/

/-- A request for a model that refers to earlier tasks on a channel, which the distribution finds
enabled and which passes the filters for the path and the plugin. -/
def PinnedSubmission (env : RouteEnv) (token : Token) (req : ClientRequest) (model : String) :
    Prop :=
  ∃ submission origin group shouldSelectChannel ch,
    req.parts.length ≤ 1 ∧ req.entry.accept = .ok (some submission) ∧
    PinsChannel env.task token.userId submission.plugin submission.originTaskIds origin ∧
    getModelRequest env.task submission.model true token.userId req.http =
      .ok (⟨model, group⟩, shouldSelectChannel) ∧
    cacheGetChannel env.distribute.select.store (env.distribute.channelError origin.id) origin.id =
      .ok ch ∧
    ch.status = channelStatusEnabled ∧
    channelMatchesFilter ch model (requestPathFilter req.http.path) = true ∧
    channelMatchesFilter ch model (taskPluginIdentityFilter env.task.getByChannelType
      submission.candidates (some submission.plugin) submission.plugin.key) = true

section

variable {env : RouteEnv} {token : Token} {req : ClientRequest} {model : String}

theorem filters_pinnedContext {taskEnv : TaskEnv} {submission : Submission}
    {origin ch : RoutingRow} {c : RequestContext} {http : HttpRequest}
    (hconstraints : c.constraints = ⟨[], []⟩) :
    (distributeContext taskEnv (pinnedContext taskEnv submission origin c)
      http).constraints.filters.all (channelMatchesFilter ch model) = true ↔
      channelMatchesFilter ch model (requestPathFilter http.path) = true ∧
      channelMatchesFilter ch model (taskPluginIdentityFilter taskEnv.getByChannelType
        submission.candidates (some submission.plugin) submission.plugin.key) = true := by
  have hfilters : (distributeContext taskEnv (pinnedContext taskEnv submission origin c)
      http).constraints.filters = c.constraints.filters ++
        [taskPluginIdentityFilter taskEnv.getByChannelType submission.candidates
          (some submission.plugin) submission.plugin.key] ++ [requestPathFilter http.path] ++
        [taskPluginIdentityFilter taskEnv.getByChannelType submission.candidates
          (some submission.plugin) submission.plugin.key] := rfl
  rw [hfilters, hconstraints, all_eq_true]
  simp only [nil_append, cons_append, forall_mem_cons, not_mem_nil,
    false_implies, implies_true, and_true]
  exact ⟨fun h => ⟨h.2.1, h.1⟩, fun h => ⟨h.2, h.1, h.2⟩⟩

theorem PinnedSubmission.routeRequest (hlimits : token.modelLimitsEnabled = true)
    (h : PinnedSubmission env token req model) :
    ∃ passed ch, routeRequest env token req = .ok passed ∧
      passed.channel = some ch ∧ passed.model = model := by
  obtain ⟨submission, origin, group, shouldSelectChannel, ch, hparts, haccept, hpins, hmodel,
    hstored, hstatus, hpath, hplugin⟩ := h
  obtain ⟨c, hcontext, hlimited, hconstraints⟩ :=
    exists_setupContextForToken env.token hlimits hparts
      (newContext req.userGroup req.usingGroup)
  have hprepared : prepareTaskPlugin env.task req.entry c =
      .ok (pinnedContext env.task submission origin c) :=
    prepareTaskPlugin_of_pins haccept (hlimited.userId ▸ hpins)
  refine ⟨⟨some ch, model, c.usingGroup, none⟩, ch, ?_, rfl, rfl⟩
  have hpin : (pinnedContext env.task submission origin c).constraints.pins =
      [originPin origin] := by
    rw [pins_pinnedContext, hconstraints]
    rfl
  rw [Middleware.routeRequest, hcontext]
  dsimp only
  rw [hprepared]
  refine (distribute_of_pin hpin).mpr ⟨⟨model, group⟩, shouldSelectChannel, ch, ?_, hstored,
    hstatus, (filters_pinnedContext hconstraints).mpr ⟨hpath, hplugin⟩, rfl⟩
  have hlimited' := hlimited.pinnedContext env.task submission origin
  rw [hlimited'.enabled, hlimited'.userId]
  exact hmodel

theorem allowed_or_pinnedSubmission (hadmin : isAdmin env.token token.userId = false)
    (hlimits : token.modelLimitsEnabled = true) {passed : Distributed}
    (h : routeRequest env token req = .ok passed) :
    LimitAllows env.distribute token passed.model ∨
      PinnedSubmission env token req passed.model := by
  unfold routeRequest at h
  split at h
  · cases h
  rename_i c hcontext
  obtain ⟨hlimited, hconstraints, hparts⟩ := setupContextForToken_ok hadmin hlimits hcontext
  split at h
  · cases h
  rename_i c' hprepared
  obtain ⟨hlimited', hunpinned | ⟨submission, origin, haccept, hpins, rfl⟩⟩ :=
    prepareTaskPlugin_ok hlimited hprepared
  · rw [hconstraints] at hunpinned
    exact .inl (distribute_of_limited hlimited' hunpinned h)
  have hpin : (pinnedContext env.task submission origin c).constraints.pins =
      [originPin origin] := by
    rw [pins_pinnedContext, hconstraints]
    rfl
  obtain ⟨modelRequest, shouldSelectChannel, ch, hmodel, hstored, hstatus, hfilters, rfl⟩ :=
    (distribute_of_pin hpin).mp h
  obtain ⟨hpath, hplugin⟩ := (filters_pinnedContext hconstraints).mp hfilters
  rw [hlimited'.enabled, hlimited'.userId] at hmodel
  exact .inr ⟨submission, origin, modelRequest.group, shouldSelectChannel, ch, hparts,
    haccept, hpins, hmodel, hstored, hstatus, hpath, hplugin⟩

end

/-- **Limits of a token.** For a token with limits of a user who is not an administrator, the models
of the requests that are passed on with a channel are allowed, exactly if the models of the pinned
submissions are. -/
theorem model_limits_enforced_iff (env : RouteEnv) (token : Token)
    (hadmin : isAdmin env.token token.userId = false) (hlimits : token.modelLimitsEnabled = true)
    (req : ClientRequest) :
    (∀ passed ch, routeRequest env token req = .ok passed → passed.channel = some ch →
        tokenModelLimitAllows env.distribute.select.baseModelName token.getModelLimitsMap
          passed.model = true) ↔
      ∀ model, PinnedSubmission env token req model →
        tokenModelLimitAllows env.distribute.select.baseModelName token.getModelLimitsMap model =
          true := by
  constructor
  · intro henforced model hpinned
    obtain ⟨passed, ch, hrouted, hch, rfl⟩ := hpinned.routeRequest hlimits
    exact henforced passed ch hrouted hch
  · intro hpinned passed ch hrouted _
    rcases allowed_or_pinnedSubmission hadmin hlimits hrouted with hallowed | hsubmission
    · exact hallowed
    · exact hpinned passed.model hsubmission

def videoPlugin : PluginMeta := ⟨"video-plugin", ["video-a", "video-b"], []⟩

def pluginChannel : StoredChannel :=
  { sampleStored 5 "video-a,video-b" 0 with
    routing := { (sampleStored 5 "video-a,video-b" 0).routing with
      channelType := channelTypeTaskPlugin
      taskPluginKey := "video-plugin" } }

def pluginStore : ChannelStore :=
  ⟨false, [pluginChannel], pluginChannel.routing.addAbilities, emptyCache⟩

def pluginEnv : RouteEnv where
  token := ⟨fun _ => .ok 1, fun _ => none, fun _ => .ok []⟩
  task := ⟨[⟨7, "task_1", "video-plugin", 5, "video-a"⟩], fun _ => none, pluginStore, fun _ => none,
    fun _ => none⟩
  distribute :=
    { select := ⟨id, pluginStore, noErrors, 0⟩
      draws := fun _ => 0
      channelError := fun _ => none
      abilityError := none
      autoGroups := fun _ _ => []
      groupInUserUsableGroups := fun _ _ => true
      preferredChannel := fun _ _ => none }

def limitedToken : Token where
  id := 1
  userId := 7
  key := "key"
  status := 1
  name := ""
  accessedTime := 0
  expiredTime := -1
  remainQuota := 0
  unlimitedQuota := true
  modelLimitsEnabled := true
  modelLimits := "video-a"
  allowIps := none
  usedQuota := 0
  group := ""
  crossGroupRetry := false
  autoGroups := ""
  deleted := false

def followUp (model : String) : ClientRequest where
  parts := ["key"]
  userGroup := "default"
  usingGroup := "default"
  entry := .route videoPlugin [] (.ok ⟨some model, .absent, some (.list [.text "task_1"])⟩)
  http :=
    { path := "/vendor/jobs"
      method := .post
      contentType := "application/json"
      body := .ok ⟨model, ""⟩
      playgroundGroup := .ok ""
      mjRequestModel := fun _ => .error ""
      queryModel := ""
      paramModel := ""
      paramTaskId := "" }

theorem model_limits_enforced_followUp :
    isAdmin pluginEnv.token limitedToken.userId = false ∧ limitedToken.modelLimitsEnabled = true ∧
      ∀ passed ch, routeRequest pluginEnv limitedToken (followUp "video-a") = .ok passed →
        passed.channel = some ch →
        tokenModelLimitAllows id limitedToken.getModelLimitsMap passed.model = true := by
  refine ⟨by decide, rfl, (model_limits_enforced_iff pluginEnv limitedToken (by decide) rfl
    (followUp "video-a")).mpr ?_⟩
  rintro model ⟨submission, origin, group, shouldSelectChannel, ch, -, haccept, -, hmodel, -⟩
  have hsubmission : (followUp "video-a").entry.accept =
      .ok (some ⟨videoPlugin, [], "video-a", some (.list [.text "task_1"])⟩) := by decide +kernel
  obtain rfl := Option.some.inj (ok.inj (hsubmission.symm.trans haccept))
  have hrequest : getModelRequest pluginEnv.task "video-a" true 7 (followUp "video-a").http =
      .ok (⟨"video-a", ""⟩, true) := by decide +kernel
  obtain ⟨hmodel, -⟩ := Prod.mk.inj (ok.inj (hrequest.symm.trans hmodel))
  obtain ⟨rfl, -⟩ := ModelRequest.mk.inj hmodel
  decide +kernel

/-- A submission that refers to an earlier task is passed on for a model that the token may not
use. -/
theorem model_limits_bypassed :
    isAdmin pluginEnv.token limitedToken.userId = false ∧ limitedToken.modelLimitsEnabled = true ∧
      (routeRequest pluginEnv limitedToken (followUp "video-b")).toOption.map
        (fun passed => (passed.channel.map RoutingRow.id, passed.model)) =
          some (some 5, "video-b") ∧
      tokenModelLimitAllows id limitedToken.getModelLimitsMap "video-b" = false := by
  decide +kernel

end NewApi.Middleware
