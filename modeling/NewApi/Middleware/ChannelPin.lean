import NewApi.Model.ChannelSelection
import NewApi.Model.Token

/-!
# Pinned channels

Before a request is distributed to a channel, other middlewares may pin one, and each pin has a
rank. They also write what the distribution reads in the context of the request. The first of them
reads the token of the request; the key of an administrator's token may name a channel.

The parser of a channel id and the role of a user are inputs.

Source: `dto/channel_constraints.go`.
-/

namespace NewApi.Middleware

open Model

/-! ### Constraints -/

inductive ChannelPinSource
  | token
  | originTask
  deriving DecidableEq, Repr

def pinRankToken : ℕ := 0

def pinRankOriginTask : ℕ := 10

inductive PinRetryMode
  | sameChannel
  | singleAttempt
  deriving DecidableEq, Repr

def PinRetryMode.stricter (m other : PinRetryMode) : PinRetryMode :=
  if m = .singleAttempt ∨ other = .singleAttempt then .singleAttempt else .sameChannel

structure ChannelPin where
  channelId : Int
  source : ChannelPinSource
  rank : ℕ
  retryMode : PinRetryMode

structure ChannelConstraints where
  pins : List ChannelPin
  filters : List ChannelFilter

/-- Another pin for the same channel. -/
def ChannelPin.merge (existing pin : ChannelPin) : ChannelPin :=
  let existing := { existing with retryMode := existing.retryMode.stricter pin.retryMode }
  if pin.rank < existing.rank then { existing with rank := pin.rank, source := pin.source }
  else existing

/-- The pins by their channels, in the order of the first pin for each. -/
def mergePin (merged : List ChannelPin) (pin : ChannelPin) : List ChannelPin :=
  if merged.any fun existing => existing.channelId = pin.channelId then
    merged.map fun existing =>
      if existing.channelId = pin.channelId then existing.merge pin else existing
  else merged ++ [pin]

/-- The pin with the lower rank; the earlier one of two with the same rank. -/
def lowerRank (winner candidate : ChannelPin) : ChannelPin :=
  if candidate.rank < winner.rank then candidate else winner

namespace ChannelConstraints

def addPin (cc : ChannelConstraints) (p : ChannelPin) : ChannelConstraints :=
  { cc with pins := cc.pins ++ [p] }

def addFilter (cc : ChannelConstraints) (f : ChannelFilter) : ChannelConstraints :=
  { cc with filters := cc.filters ++ [f] }

/-- The winning pin, and the pins of other channels that lost to it. -/
def resolvedPin (cc : ChannelConstraints) : Option (ChannelPin × List ChannelPin) :=
  match cc.pins.foldl mergePin [] with
  | [] => none
  | first :: rest =>
    let winner := rest.foldl lowerRank first
    some (winner, (first :: rest).filter fun candidate => candidate.channelId ≠ winner.channelId)

end ChannelConstraints

section

variable {pins : List ChannelPin} {pin : ChannelPin} {cc : ChannelConstraints}

theorem resolvedPin_of_nil (h : cc.pins = []) : cc.resolvedPin = none := by
  rw [ChannelConstraints.resolvedPin, h]
  rfl

theorem resolvedPin_of_singleton (h : cc.pins = [pin]) : cc.resolvedPin = some (pin, []) := by
  simp [ChannelConstraints.resolvedPin, h, mergePin]

end

/-! ### The context of a request -/

structure PluginMeta where
  key : String
  models : List String
  channelTypes : List Int
  deriving DecidableEq, Repr

/-- The entries of the context that the distribution reads. `pinnedCandidates` are the plugins of a
pinned endpoint. -/
structure RequestContext where
  userId : Int
  userGroup : String
  usingGroup : String
  tokenModelLimitEnabled : Bool
  tokenModelLimit : Option (GoMap String Bool)
  tokenCrossGroupRetry : Bool
  tokenAutoGroups : Option (List String)
  resolvedTaskModel : String
  expectedTaskPluginKey : String
  pinnedPlugin : Option PluginMeta
  pinnedCandidates : List PluginMeta
  constraints : ChannelConstraints

def newContext (userGroup usingGroup : String) : RequestContext where
  userId := 0
  userGroup := userGroup
  usingGroup := usingGroup
  tokenModelLimitEnabled := false
  tokenModelLimit := none
  tokenCrossGroupRetry := false
  tokenAutoGroups := none
  resolvedTaskModel := ""
  expectedTaskPluginKey := ""
  pinnedPlugin := none
  pinnedCandidates := []
  constraints := ⟨[], []⟩

namespace RequestContext

def addPin (c : RequestContext) (pin : ChannelPin) : RequestContext :=
  { c with constraints := c.constraints.addPin pin }

def addFilter (c : RequestContext) (filter : ChannelFilter) : RequestContext :=
  { c with constraints := c.constraints.addFilter filter }

end RequestContext

inductive PluginDetail
  | hook (detail : String)
  | missingModel
  | modelNotServed (model : String)
  | modelNotAllowed (model : String)
  | invalidResult
  deriving DecidableEq, Repr

/-- The messages of the refusals. `rejected` has the detail of each candidate of an endpoint. -/
inductive Message
  | text (message : String)
  | invalidRequest (error : String)
  | invalidChannelId
  | channelDisabled
  | tokenNoModelAccess
  | tokenModelForbidden (model : String)
  | modelNameRequired
  | invalidPlayground (error : String)
  | groupAccessDenied
  | getChannelFailed (group model error : String)
  | noAvailableChannel (group model : String)
  | noAvailableChannelTaskPlugin (group model : String) (plugins : List String)
  | detail (detail : PluginDetail)
  | rejected (details : List (String × PluginDetail))
  deriving DecidableEq, Repr

/-- A refusal.

Source: `middleware/utils.go`. -/
structure Abort where
  statusCode : ℕ
  message : Message
  code : String

/-! ### The token -/

/-- Source: `common/constants.go`. -/
def roleAdminUser : Int := 10

/-- What the context of a token is read from. `role` is the result of the query of a role, zero for
a missing user. -/
structure TokenEnv where
  role : Int → Except String Int
  atoi : String → Option Int
  parseAutoGroups : String → Except String (List String)

def isAdmin (env : TokenEnv) (userId : Int) : Bool :=
  if userId = 0 then false
  else
    match env.role userId with
    | .error _ => false
    | .ok role => role ≥ roleAdminUser

/-- Source: `middleware/auth.go`. -/
def requestAutoGroups (env : TokenEnv) (token : Token) : Option (List String) :=
  if token.autoGroups = "" then none
  else
    match env.parseAutoGroups token.autoGroups with
    | .error _ => some []
    | .ok autoGroups => if autoGroups.isEmpty then none else some autoGroups

/-- `parts` are the parts of the key after the token is found; the second one names a channel. -/
def setupContextForToken (env : TokenEnv) (token : Token) (parts : List String)
    (c : RequestContext) : Except Abort RequestContext :=
  let c := { c with
    userId := token.userId
    tokenModelLimitEnabled := token.modelLimitsEnabled
    tokenModelLimit :=
      if token.modelLimitsEnabled then some token.getModelLimitsMap else c.tokenModelLimit
    tokenCrossGroupRetry := token.crossGroupRetry
    tokenAutoGroups := (requestAutoGroups env token).or c.tokenAutoGroups }
  match parts with
  | _ :: part :: _ =>
    if isAdmin env token.userId then
      match env.atoi part with
      | none => .error ⟨400, .invalidChannelId, ""⟩
      | some id => .ok (c.addPin ⟨id, .token, pinRankToken, .singleAttempt⟩)
    else .error ⟨403, .text "普通用户不支持指定渠道", ""⟩
  | _ => .ok c

structure LimitedContext (token : Token) (c : RequestContext) : Prop where
  userId : c.userId = token.userId
  enabled : c.tokenModelLimitEnabled = true
  limits : c.tokenModelLimit = some token.getModelLimitsMap

variable {env : TokenEnv} {token : Token} {parts : List String} {c c' : RequestContext}

theorem setupContextForToken_ok (hadmin : isAdmin env token.userId = false)
    (hlimits : token.modelLimitsEnabled = true)
    (h : setupContextForToken env token parts c = .ok c') :
    LimitedContext token c' ∧ c'.constraints = c.constraints ∧ parts.length ≤ 1 := by
  unfold setupContextForToken at h
  dsimp only at h
  split at h
  · rw [if_neg (Bool.eq_false_iff.mp hadmin)] at h
    cases h
  rename_i hparts
  obtain rfl := Except.ok.inj h
  refine ⟨⟨rfl, hlimits, if_pos hlimits⟩, rfl, ?_⟩
  rcases parts with - | ⟨key, - | ⟨part, rest⟩⟩
  · exact Nat.zero_le 1
  · exact le_refl 1
  · exact absurd rfl (hparts key part rest)

theorem exists_setupContextForToken (env : TokenEnv) (hlimits : token.modelLimitsEnabled = true)
    (hparts : parts.length ≤ 1) (c : RequestContext) :
    ∃ c', setupContextForToken env token parts c = .ok c' ∧ LimitedContext token c' ∧
      c'.constraints = c.constraints := by
  rcases parts with - | ⟨key, - | ⟨part, rest⟩⟩
  · exact ⟨_, rfl, ⟨rfl, hlimits, if_pos hlimits⟩, rfl⟩
  · exact ⟨_, rfl, ⟨rfl, hlimits, if_pos hlimits⟩, rfl⟩
  · simp at hparts

end NewApi.Middleware
