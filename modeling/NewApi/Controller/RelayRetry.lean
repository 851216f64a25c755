import NewApi.Service.ChannelSelect

/-!
# The attempts of a relayed request

The distributor selects the first channel of a request. `Relay` makes the first attempt with it, and
selects a channel for each further attempt. Its loop increments and tests the retry counter, which
the selection sets back when it moves to the next group.

The relayed call, the preparation of an attempt and the random numbers are parameters of the loop.

Source: `controller/relay.go`.
-/

namespace NewApi.Controller

open Model Service List

/-! ### The loop -/

structure RelayError where
  isChannelError : Bool
  skipRetry : Bool
  statusCode : Int
  errorCode : String

structure RetrySettings where
  skipRetryAfterAffinityFailure : Bool
  suppressesRetry : Bool
  isAlwaysSkipRetryCode : String → Bool
  shouldRetryByStatusCode : Int → Bool

/-- `shouldRetry` in `controller/relay.go`. -/
def shouldRetry (cfg : RetrySettings) (openaiErr : Option RelayError) (retryTimes : Int) :
    Bool :=
  match openaiErr with
  | none => false
  | some err =>
    if cfg.skipRetryAfterAffinityFailure then false
    else if err.isChannelError then true
    else if err.skipRetry then false
    else if retryTimes ≤ 0 then false
    else if cfg.suppressesRetry then false
    else if err.statusCode ≥ 200 ∧ err.statusCode < 300 then false
    else if err.statusCode < 100 ∨ err.statusCode > 599 then true
    else if cfg.isAlwaysSkipRetryCode err.errorCode then false
    else cfg.shouldRetryByStatusCode err.statusCode

/-- What happens in the attempts, by their number: an error of the preparation of the selected
channel, an error of the billing or the request body, the result of the relayed call, and the random
number for the group at an index. -/
structure RelayAnswers where
  setup : ℕ → RoutingRow → Option RelayError
  prepare : ℕ → Option RelayError
  handle : ℕ → RoutingRow → Option RelayError
  draws : ℕ → ℕ → ℕ

/-- An attempt: the selected group, the channel, and the stored index of the group. -/
structure Attempt where
  group : Option String
  channel : RoutingRow
  groupIndex : Option ℕ

structure RelayState where
  param : RetryParam
  context : SelectContext
  channel : RoutingRow
  channelMeta : Bool
  attempts : List Attempt
  newAPIError : Option RelayError

/-- The attempt with a channel. -/
def RelayState.addUsedChannel (st : RelayState) (ch : RoutingRow) : RelayState :=
  let attempt : Attempt := ⟨st.context.autoGroup, ch, st.context.autoGroupIndex⟩
  { st with attempts := st.attempts ++ [attempt] }

def getChannelFailed : RelayError where
  isChannelError := false
  skipRetry := true
  statusCode := 500
  errorCode := "get_channel_failed"

section

variable (env : SelectEnv) (cfg : RetrySettings) (answers : RelayAnswers)

/-- The channel of an attempt: that of the distributor before the first relayed call, and a newly
selected one after it. -/
def relayGetChannel (n : ℕ) (st : RelayState) : Except RelayError RoutingRow × RelayState :=
  if !st.channelMeta then (.ok st.channel, st)
  else
    let selected := cacheGetRandomSatisfiedChannel env (answers.draws n) st.context st.param
    let st := { st with context := selected.context, param := selected.param }
    match selected.err, selected.channel with
    | none, some ch =>
      match answers.setup n ch with
      | some err => (.error err, st)
      | none => (.ok ch, { st with channel := ch })
    | _, _ => (.error getChannelFailed, st)

/-- The loop from the attempt with the number `n`, or none if it needs more steps than `fuel`. -/
def relayLoop : ℕ → ℕ → RelayState → Option RelayState
  | 0, _, _ => none
  | fuel + 1, n, st =>
    if st.param.getRetry > env.retryTimes then some st
    else
      match relayGetChannel env answers n st with
      | (.error err, st) => some { st with newAPIError := some err }
      | (.ok ch, st) =>
        let st := st.addUsedChannel ch
        match answers.prepare n with
        | some err => some { st with newAPIError := some err }
        | none =>
          match answers.handle n ch with
          | none => some { st with channelMeta := true, newAPIError := none }
          | some err =>
            let st := { st with channelMeta := true, newAPIError := some err }
            if shouldRetry cfg (some err) (env.retryTimes - st.param.getRetry) then
              relayLoop fuel (n + 1) { st with param := st.param.increaseRetry }
            else some st

def newRetryParam (tokenGroup modelName requestPath : String) : RetryParam where
  tokenGroup := tokenGroup
  modelName := modelName
  requestPath := requestPath
  retry := some 0
  resetNextTry := false

/-- The first selection of a request without a pinned or preferred channel; none if the request is
refused. -/
def distribute (draws : ℕ → ℕ) (context : SelectContext) (param : RetryParam) :
    Option (RoutingRow × SelectContext) :=
  let selected := cacheGetRandomSatisfiedChannel env draws context param
  match selected.err, selected.channel with
  | none, some ch =>
    if (channelSatisfiesFilters (some ch) param.modelName selected.context.filters).1 then
      some (ch, selected.context)
    else none
  | _, _ => none

/-- The selection of the distributor, then the loop of `Relay`. -/
def relayRequest (firstDraws : ℕ → ℕ) (fuel : ℕ) (context : SelectContext) (param : RetryParam) :
    Option (List Attempt) :=
  match distribute env firstDraws context param with
  | none => some []
  | some (ch, context) =>
    (relayLoop env cfg answers fuel 0
      { param := param
        context := context
        channel := ch
        channelMeta := false
        attempts := []
        newAPIError := none }).map fun st => st.attempts

end

/-! ### The plan -/

section

variable (env : SelectEnv) (req : AutoRequest)

def Satisfied (group : String) : Prop :=
  priorityLevels env group req.modelName req.filters ≠ []
  deriving Decidable

/-- The groups and retries from an index on: each satisfied group with the retries 0 to
`RetryTimes`. -/
def plan : List String → ℕ → List (ℕ × ℕ)
  | [], _ => []
  | group :: rest, i =>
    (if Satisfied env req group then (range (env.retryTimes + 1)).map fun k => (i, k)
      else []) ++ plan rest (i + 1)

def planFrom (groups : List String) (i retry : ℕ) : List (ℕ × ℕ) :=
  match groups with
  | [] => []
  | group :: rest =>
    (if Satisfied env req group then
      ((range (env.retryTimes + 1)).drop retry).map fun k => (i, k) else []) ++
      plan env req rest (i + 1)

variable {env req} {groups skipped rest : List String} {group : String} {i retry : ℕ}

theorem planFrom_zero (groups : List String) (i : ℕ) :
    planFrom env req groups i 0 = plan env req groups i := by
  cases groups with
  | nil => rfl
  | cons group rest => rw [planFrom, plan, drop_zero]

theorem length_plan (groups : List String) (i : ℕ) : (plan env req groups i).length =
      (groups.countP fun g => Satisfied env req g) * (env.retryTimes + 1) := by
  induction groups generalizing i with
  | nil => simp [plan]
  | cons group rest ih =>
    rw [plan, length_append, ih]
    by_cases hgroup : Satisfied env req group
    · simp [hgroup, add_mul, add_comm]
    · simp [hgroup]

theorem exists_first_satisfied (groups : List String) :
    (∀ g ∈ groups, ¬ Satisfied env req g) ∨ ∃ skipped group rest,
      groups = skipped ++ group :: rest ∧ (∀ g ∈ skipped, ¬ Satisfied env req g) ∧
        Satisfied env req group := by
  cases hfind : groups.find? fun g => Satisfied env req g with
  | none => exact .inl (by simpa using hfind)
  | some group =>
    obtain ⟨hgroup, skipped, rest, rfl, hskipped⟩ := find?_eq_some_iff_append.mp hfind
    exact .inr ⟨skipped, group, rest, rfl, by simpa using hskipped, of_decide_eq_true hgroup⟩

theorem plan_skip (hskipped : ∀ g ∈ skipped, ¬ Satisfied env req g) :
    plan env req (skipped ++ groups) i = plan env req groups (i + skipped.length) := by
  induction skipped generalizing i with
  | nil => rfl
  | cons group rest ih =>
    rw [forall_mem_cons] at hskipped
    rw [cons_append, plan, if_neg hskipped.1, nil_append, ih hskipped.2, length_cons]
    congr 1
    omega

theorem plan_of_none (hnone : ∀ g ∈ groups, ¬ Satisfied env req g) :
    plan env req groups i = [] := by
  rw [← append_nil groups, plan_skip hnone, plan]

theorem planFrom_satisfied (hgroup : Satisfied env req group) (hretry : retry ≤ env.retryTimes) :
    planFrom env req (group :: rest) i retry =
      (i, retry) :: (((range (env.retryTimes + 1)).drop (retry + 1)).map fun k => (i, k)) ++
        plan env req rest (i + 1) := by
  have hlt : retry < (range (env.retryTimes + 1)).length := by
    rw [length_range]
    omega
  rw [planFrom, if_pos hgroup, drop_eq_getElem_cons hlt, getElem_range, map_cons]

/-! ### Selections along the plan -/

structure Pending (env : SelectEnv) (req : AutoRequest) (context : SelectContext)
    (param : RetryParam) (index retry : ℕ) (todo : List (ℕ × ℕ)) : Prop where
  next : NextAt req context param index retry
  todo_eq : todo = planFrom env req (req.autoGroups.drop index) index retry
  retry_le : retry ≤ env.retryTimes
  satisfied : retry ≠ 0 → ∃ group rest, req.autoGroups.drop index = group :: rest ∧
    Satisfied env req group

variable {context : SelectContext} {param : RetryParam} {index : ℕ} {todo : List (ℕ × ℕ)}

theorem not_satisfied_iff : ¬ Satisfied env req group ↔
      priorityLevels env group req.modelName req.filters = [] := by
  rw [Satisfied, not_not]

theorem select_eq (hnext : NextAt req context param index retry)
    (hne : req.autoGroups ≠ []) (draws : ℕ → ℕ) :
    cacheGetRandomSatisfiedChannel env draws context param =
      selectFrom env draws index (req.autoGroups.drop index) index context param := by
  have hempty : ¬ context.autoGroups.isEmpty = true := by
    rw [hnext.autoGroups, List.isEmpty_iff]
    exact hne
  rw [cacheGetRandomSatisfiedChannel, if_pos hnext.tokenGroup, if_neg hempty]
  simp [hnext.groupIndex, hnext.autoGroups]

/-- The rest of the plan begins at the first satisfied group. Only the retries of the group at the
index itself are counted on. -/
theorem pending_cases (hpend : Pending env req context param index retry todo) :
    (todo = [] ∧ ∀ g ∈ req.autoGroups.drop index, ¬ Satisfied env req g) ∨
      ∃ skipped group rest k, req.autoGroups.drop index = skipped ++ group :: rest ∧
        (∀ g ∈ skipped, ¬ Satisfied env req g) ∧ Satisfied env req group ∧
        k = (if skipped.isEmpty then retry else 0) ∧ k ≤ env.retryTimes ∧
        todo = planFrom env req (group :: rest) (index + skipped.length) k := by
  have htodo := hpend.todo_eq
  by_cases hretry : retry = 0
  · rw [hretry, planFrom_zero] at htodo
    rcases exists_first_satisfied (req.autoGroups.drop index) with
      hnone | ⟨skipped, group, rest, hgroups, hskipped, hgroup⟩
    · exact .inl ⟨htodo.trans (plan_of_none hnone), hnone⟩
    · refine .inr ⟨skipped, group, rest, 0, hgroups, hskipped, hgroup, ?_, Nat.zero_le _, ?_⟩
      · rw [hretry, ite_self]
      · rw [htodo, hgroups, plan_skip hskipped, planFrom_zero]
  · obtain ⟨group, rest, hgroups, hgroup⟩ := hpend.satisfied hretry
    rw [hgroups] at htodo
    exact .inr ⟨[], group, rest, retry, hgroups, fun g hg => absurd hg not_mem_nil, hgroup,
      rfl, hpend.retry_le, htodo⟩

theorem select_of_nil (hfixed : FixedChannels env)
    (hpend : Pending env req context param index retry []) (draws : ℕ → ℕ) :
    (cacheGetRandomSatisfiedChannel env draws context param).channel = none := by
  by_cases hne : req.autoGroups = []
  · rw [cacheGetRandomSatisfiedChannel, if_pos hpend.next.tokenGroup, hpend.next.autoGroups,
      hne]
    rfl
  rw [select_eq hpend.next hne]
  refine (selectFrom_of_none hfixed fun group hgroup => ?_).1
  rw [hpend.next.modelName, hpend.next.filters, ← not_satisfied_iff]
  rcases pending_cases hpend with
    ⟨-, hnone⟩ | ⟨skipped, first, rest, k, -, -, hfirst, -, hk, htodo⟩
  · exact hnone group hgroup
  · rw [planFrom_satisfied hfirst hk] at htodo
    cases htodo

theorem pending_of_next {j k : ℕ} (hgroups : req.autoGroups.drop j = group :: rest)
    (hgroup : Satisfied env req group)
    (hnext : NextAt req context param (storedIndex env j k) (nextRetry env k))
    (hk : k ≤ env.retryTimes) :
    Pending env req context param (storedIndex env j k) (nextRetry env k)
      ((((range (env.retryTimes + 1)).drop (k + 1)).map fun k => (j, k)) ++
        plan env req rest (j + 1)) := by
  refine ⟨hnext, ?_, ?_, ?_⟩
  · rw [storedIndex, nextRetry]
    split
    next hlast =>
      have hdrop : req.autoGroups.drop (j + 1) = rest := by
        rw [← drop_drop, hgroups, drop_succ_cons, drop_zero]
      have hempty : (range (env.retryTimes + 1)).drop (k + 1) = [] := by
        rw [drop_eq_nil_iff, length_range]
        omega
      rw [hdrop, hempty, planFrom_zero, map_nil, nil_append]
    · rw [hgroups, planFrom, if_pos hgroup]
  · rw [nextRetry]
    split <;> omega
  · intro hne
    rw [nextRetry] at hne
    rw [storedIndex]
    split at hne
    · exact absurd rfl hne
    next hlast =>
      rw [if_neg hlast]
      exact ⟨group, rest, hgroups, hgroup⟩

theorem select_of_cons {j k : ℕ} (hfixed : FixedChannels env)
    (hpend : Pending env req context param index retry ((j, k) :: todo))
    (draws : ℕ → ℕ) :
    ∃ group row, req.autoGroups[j]? = some group ∧ SelectedAt env req group j k row
        (cacheGetRandomSatisfiedChannel env draws context param) ∧
      Pending env req (cacheGetRandomSatisfiedChannel env draws context param).context
        (cacheGetRandomSatisfiedChannel env draws context param).param.increaseRetry
        (storedIndex env j k) (nextRetry env k) todo := by
  rcases pending_cases hpend with
    ⟨hnil, -⟩ | ⟨skipped, group, rest, k', hgroups, hskipped, hgroup, hk, hle, htodo⟩
  · cases hnil
  have hne : req.autoGroups ≠ [] := by
    rintro hempty
    rw [hempty, drop_nil] at hgroups
    cases skipped <;> cases hgroups
  have hdrop : req.autoGroups.drop (index + skipped.length) = group :: rest := by
    rw [← drop_drop, hgroups, drop_left]
  obtain ⟨row, hrow⟩ : ∃ row, SelectedAt env req group (index + skipped.length)
      (if skipped.isEmpty then retry else 0) row
      (selectFrom env draws index (skipped ++ group :: rest) index context param) :=
    selectFrom_of_satisfying hfixed hpend.next le_rfl (fun h => absurd h (lt_irrefl index))
      (fun g hg => not_satisfied_iff.mp (hskipped g hg)) hgroup
  rw [← hk, ← hgroups, ← select_eq hpend.next hne] at hrow
  rw [planFrom_satisfied hgroup hle] at htodo
  obtain ⟨hentry, rfl⟩ := cons.inj htodo
  obtain ⟨rfl, rfl⟩ := Prod.mk.inj hentry
  refine ⟨group, row, ?_, hrow, pending_of_next hdrop hgroup hrow.next hle⟩
  rw [← head?_drop, hdrop]
  rfl

end

/-! ### The attempts of a failing request -/

structure Retryable (cfg : RetrySettings) (err : RelayError) : Prop where
  notChannelError : err.isChannelError = false
  notSkipped : err.skipRetry = false
  notSuccess : ¬ (err.statusCode ≥ 200 ∧ err.statusCode < 300)
  byStatus : err.statusCode < 100 ∨ err.statusCode > 599 ∨
    (cfg.isAlwaysSkipRetryCode err.errorCode = false ∧
      cfg.shouldRetryByStatusCode err.statusCode = true)

/-- Every attempt is made and fails with a retryable error, and nothing suppresses the retries. -/
structure AlwaysFails (cfg : RetrySettings) (answers : RelayAnswers) : Prop where
  noAffinity : cfg.skipRetryAfterAffinityFailure = false
  notSuppressed : cfg.suppressesRetry = false
  setup : ∀ n ch, answers.setup n ch = none
  prepare : ∀ n, answers.prepare n = none
  handle : ∀ n ch, ∃ err, answers.handle n ch = some err ∧ Retryable cfg err

structure Fits (env : SelectEnv) (req : AutoRequest) (entry : ℕ × ℕ) (attempt : Attempt) :
    Prop where
  group : ∃ group, req.autoGroups[entry.1]? = some group ∧ attempt.group = some group ∧
    OnLevel env group req.modelName req.filters
      (min entry.2 ((priorityLevels env group req.modelName req.filters).length - 1))
      attempt.channel
  groupIndex : attempt.groupIndex = some (storedIndex env entry.1 entry.2)

section

variable {env : SelectEnv} {cfg : RetrySettings} {answers : RelayAnswers}
  {req : AutoRequest} {st : RelayState} {todo : List (ℕ × ℕ)} {index retry n : ℕ}

theorem shouldRetry_of_retryable {err : RelayError} {retryTimes : Int}
    (hfails : AlwaysFails cfg answers) (herr : Retryable cfg err)
    (hleft : 0 < retryTimes) : shouldRetry cfg (some err) retryTimes = true := by
  have hpos : ¬ retryTimes ≤ 0 := not_le.mpr hleft
  simp only [shouldRetry, hfails.noAffinity, herr.notChannelError, herr.notSkipped, hpos,
    hfails.notSuppressed, herr.notSuccess, if_false, Bool.false_eq_true]
  split
  · rfl
  rename_i hrange
  rw [not_or] at hrange
  obtain hlow | hhigh | ⟨hcode, hstatus⟩ := herr.byStatus
  · exact absurd hlow hrange.1
  · exact absurd hhigh hrange.2
  · rw [hcode, hstatus]
    rfl

def RelayState.failed (st : RelayState) (ch : RoutingRow) (err : RelayError) : RelayState :=
  { st.addUsedChannel ch with
    channelMeta := true
    newAPIError := some err
    param := st.param.increaseRetry }

def RelayState.selected (st : RelayState) (selection : Selection) (ch : RoutingRow) :
    RelayState :=
  { st with context := selection.context, param := selection.param, channel := ch }

theorem relayLoop_of_fails {ch : RoutingRow} {st' : RelayState}
    (hfails : AlwaysFails cfg answers) (hretry : st.param.getRetry ≤ env.retryTimes)
    (hget : relayGetChannel env answers n st = (.ok ch, st'))
    (hleft : st'.param.getRetry < env.retryTimes) :
    ∃ err, ∀ fuel, relayLoop env cfg answers (fuel + 1) n st =
      relayLoop env cfg answers fuel (n + 1) (st'.failed ch err) := by
  obtain ⟨err, hhandle, herr⟩ := hfails.handle n ch
  have hpos : (0 : Int) < env.retryTimes - st'.param.getRetry := by omega
  refine ⟨err, fun fuel => ?_⟩
  rw [relayLoop, if_neg (not_lt.mpr hretry), hget]
  simp only [hfails.prepare, hhandle]
  exact if_pos (shouldRetry_of_retryable hfails herr hpos)

theorem relayLoop_of_none (hmeta : st.channelMeta = true)
    (hnone : (cacheGetRandomSatisfiedChannel env (answers.draws n) st.context st.param).channel =
      none) (fuel : ℕ) :
    ∃ st', relayLoop env cfg answers (fuel + 1) n st = some st' ∧ st'.attempts = st.attempts := by
  rw [relayLoop]
  split
  · exact ⟨st, rfl, rfl⟩
  · simp only [relayGetChannel, hmeta, hnone]
    cases (cacheGetRandomSatisfiedChannel env (answers.draws n) st.context st.param).err <;>
      exact ⟨_, rfl, rfl⟩

variable {group : String} {row : RoutingRow} {j k : ℕ}

theorem relayGetChannel_of_selected
    (hfails : AlwaysFails cfg answers) (hmeta : st.channelMeta = true)
    (hsel : SelectedAt env req group j k row
      (cacheGetRandomSatisfiedChannel env (answers.draws n) st.context st.param)) :
    relayGetChannel env answers n st = (.ok row, st.selected
      (cacheGetRandomSatisfiedChannel env (answers.draws n) st.context st.param) row) := by
  simp [relayGetChannel, RelayState.selected, hmeta, hsel.err, hsel.channel, hfails.setup]

theorem fits_of_selectedAt {selection : Selection}
    (hsel : SelectedAt env req group j k row selection)
    (hgroup : req.autoGroups[j]? = some group) :
    Fits env req (j, k) ⟨selection.context.autoGroup, row, selection.context.autoGroupIndex⟩ :=
  ⟨⟨group, hgroup, hsel.autoGroup, hsel.onLevel⟩, hsel.groupIndex⟩

/-- **The loop follows the plan.** Once a relayed call has begun, a loop whose attempts all fail
makes the attempts of the rest of the plan, and ends. -/
theorem relayLoop_follows (hfixed : FixedChannels env) (hretries : 0 < env.retryTimes)
    (hfails : AlwaysFails cfg answers) (hmeta : st.channelMeta = true)
    (hpend : Pending env req st.context st.param index retry todo) :
    ∃ attempts, List.Forall₂ (Fits env req) todo attempts ∧
      ∀ fuel, todo.length < fuel → ∃ st', relayLoop env cfg answers fuel n st = some st' ∧
        st'.attempts = st.attempts ++ attempts := by
  -- Each round takes the first entry of the rest of the plan.
  induction todo generalizing n st index retry with
  | nil =>
    have hnone := select_of_nil hfixed hpend (answers.draws n)
    refine ⟨[], .nil, fun fuel hfuel => ?_⟩
    obtain ⟨fuel, rfl⟩ := Nat.exists_eq_succ_of_ne_zero (Nat.ne_of_gt hfuel)
    rw [append_nil]
    exact relayLoop_of_none hmeta hnone fuel
  | cons entry todo ih =>
    have hretry : st.param.getRetry ≤ env.retryTimes :=
      hpend.next.getRetry.trans_le hpend.retry_le
    obtain ⟨group, row, hgroup, hsel, hrest⟩ :=
      select_of_cons hfixed hpend (answers.draws n)
    obtain ⟨err, hstep⟩ := relayLoop_of_fails hfails hretry
      (relayGetChannel_of_selected hfails hmeta hsel) (hsel.retriesLeft hretries)
    have hpend' : Pending env req ((st.selected _ row).failed row err).context
        ((st.selected _ row).failed row err).param _ _ todo := hrest
    obtain ⟨attempts, hfits, hloop⟩ := ih rfl hpend'
    refine ⟨_, .cons (fits_of_selectedAt hsel hgroup) hfits, fun fuel hfuel => ?_⟩
    obtain ⟨fuel, rfl⟩ := Nat.exists_eq_succ_of_ne_zero (Nat.ne_zero_of_lt hfuel)
    obtain ⟨st', hst', hattempts⟩ := hloop fuel (Nat.lt_of_succ_lt_succ hfuel)
    refine ⟨st', (hstep fuel).trans hst', ?_⟩
    rw [hattempts]
    exact append_assoc st.attempts _ attempts

/-! ### The attempts of the plan -/

/-- The attempts visit the satisfied groups in the order of the list, each of them `RetryTimes + 1`
times in a row. An attempt uses the priority level of its number inside the group, or the last
level. The stored index of the group never decreases. -/
structure VisitsGroups (env : SelectEnv) (req : AutoRequest) (attempts : List Attempt) :
    Prop where
  groups : (attempts.map fun a => a.group) =
    (req.autoGroups.filter fun g => Satisfied env req g).flatMap fun g =>
      replicate (env.retryTimes + 1) (some g)
  level : ∀ n attempt, attempts[n]? = some attempt → ∃ group, attempt.group = some group ∧
    OnLevel env group req.modelName req.filters
      (min (n % (env.retryTimes + 1))
        ((priorityLevels env group req.modelName req.filters).length - 1))
      attempt.channel
  groupIndex : attempts.Pairwise fun a b =>
    ∃ i j, a.groupIndex = some i ∧ b.groupIndex = some j ∧ i ≤ j
  count : attempts.length =
    (req.autoGroups.countP fun g => Satisfied env req g) * (env.retryTimes + 1)

variable {groups : List String} {i : ℕ}

theorem plan_groups (hgroups : req.autoGroups.drop i = groups) :
    ((plan env req groups i).map fun entry => req.autoGroups[entry.1]?) =
      (groups.filter fun g => Satisfied env req g).flatMap fun g =>
        replicate (env.retryTimes + 1) (some g) := by
  induction groups generalizing i with
  | nil => rfl
  | cons group rest ih =>
    have hrest : req.autoGroups.drop (i + 1) = rest := by
      rw [← drop_drop, hgroups, drop_succ_cons, drop_zero]
    have hfirst : req.autoGroups[i]? = some group := by
      rw [← head?_drop, hgroups]
      rfl
    rw [plan, map_append, ih hrest, filter_cons]
    by_cases hgroup : Satisfied env req group
    · rw [if_pos hgroup, if_pos (decide_eq_true hgroup), map_map]
      congr 1
      rw [eq_replicate_iff]
      refine ⟨by rw [length_map, length_range], fun found hfound => ?_⟩
      obtain ⟨k, -, rfl⟩ := mem_map.mp hfound
      exact hfirst
    · rw [if_neg hgroup, if_neg (by simpa using hgroup), map_nil, nil_append]

theorem plan_retry {n : ℕ}
    (hentry : (plan env req groups i)[n]? = some (j, k)) : k = n % (env.retryTimes + 1) := by
  induction groups generalizing i n with
  | nil => cases hentry
  | cons group rest ih =>
    rw [plan] at hentry
    by_cases hgroup : Satisfied env req group
    · rw [if_pos hgroup, getElem?_append, length_map, length_range] at hentry
      split at hentry
      next hlt =>
        rw [getElem?_map, getElem?_range hlt] at hentry
        obtain ⟨-, rfl⟩ := Prod.mk.inj (Option.some.inj hentry)
        exact (Nat.mod_eq_of_lt hlt).symm
      next hge => rw [ih hentry, ← Nat.mod_eq_sub_mod (not_lt.mp hge)]
    · rw [if_neg hgroup] at hentry
      exact ih hentry

theorem le_of_mem_plan {entry : ℕ × ℕ} (hentry : entry ∈ plan env req groups i) : i ≤ entry.1 := by
  induction groups generalizing i with
  | nil => cases hentry
  | cons group rest ih =>
    rw [plan, mem_append] at hentry
    rcases hentry with hblock | hrest
    · split at hblock
      · obtain ⟨k, -, rfl⟩ := mem_map.mp hblock
        exact le_rfl
      · cases hblock
    · exact Nat.le_of_succ_le (ih hrest)

theorem storedIndex_mono {k' : ℕ} (hle : k ≤ k') : storedIndex env i k ≤ storedIndex env i k' := by
  rw [storedIndex, storedIndex]
  split <;> split <;> omega

theorem plan_storedIndex (groups : List String) (i : ℕ) :
    (plan env req groups i).Pairwise fun a b =>
      storedIndex env a.1 a.2 ≤ storedIndex env b.1 b.2 := by
  induction groups generalizing i with
  | nil => exact .nil
  | cons group rest ih =>
    rw [plan, pairwise_append]
    refine ⟨?_, ih (i + 1), ?_⟩
    · split
      · rw [pairwise_map]
        exact pairwise_lt_range.imp fun h => storedIndex_mono h.le
      · exact .nil
    intro first hfirst later hlater
    have hle := le_of_mem_plan hlater
    split at hfirst
    · obtain ⟨k, -, rfl⟩ := mem_map.mp hfirst
      rw [storedIndex, storedIndex]
      split <;> split <;> omega
    · cases hfirst

theorem visitsGroups_of_fits {attempts : List Attempt}
    (hfits : List.Forall₂ (Fits env req) (plan env req req.autoGroups 0) attempts) :
    VisitsGroups env req attempts where
  groups := by
    rw [← plan_groups drop_zero]
    have heq : List.Forall₂ (fun (a : Attempt) entry => a.group = req.autoGroups[entry.1]?)
        attempts (plan env req req.autoGroups 0) := by
      refine hfits.flip.imp fun attempt entry hfit => ?_
      obtain ⟨group, hgroup, hattempt, -⟩ := hfit.group
      rw [hattempt, hgroup]
    rw [← forall₂_eq_eq_eq, forall₂_map_left_iff, forall₂_map_right_iff]
    exact heq
  level := by
    intro n attempt hattempt
    obtain ⟨hlt, rfl⟩ := List.getElem?_eq_some_iff.mp hattempt
    have hlt' : n < (plan env req req.autoGroups 0).length := hfits.length_eq ▸ hlt
    obtain ⟨group, -, hgroup, hlevel⟩ := (hfits.get hlt' hlt).group
    have hretry : ((plan env req req.autoGroups 0).get ⟨n, hlt'⟩).2 =
        n % (env.retryTimes + 1) := plan_retry (getElem?_eq_getElem hlt')
    rw [hretry] at hlevel
    exact ⟨group, hgroup, hlevel⟩
  groupIndex := by
    have heq : (attempts.map fun a => a.groupIndex) =
        (plan env req req.autoGroups 0).map fun e => some (storedIndex env e.1 e.2) := by
      rw [← forall₂_eq_eq_eq, forall₂_map_left_iff, forall₂_map_right_iff]
      exact hfits.flip.imp fun attempt entry hfit => hfit.groupIndex
    have hsorted : ((plan env req req.autoGroups 0).map fun e =>
        some (storedIndex env e.1 e.2)).Pairwise fun a b =>
          ∃ i j, a = some i ∧ b = some j ∧ i ≤ j := by
      rw [pairwise_map]
      exact (plan_storedIndex _ _).imp fun h => ⟨_, _, rfl, rfl, h⟩
    rw [← heq, pairwise_map] at hsorted
    exact hsorted
  count := by rw [← hfits.length_eq, length_plan]

def newContext (req : AutoRequest) : SelectContext where
  tokenCrossGroupRetry := true
  autoGroups := req.autoGroups
  filters := req.filters
  autoGroup := none
  autoGroupIndex := none
  autoGroupRetryIndex := none

theorem pending_new (requestPath : String) : Pending env req (newContext req)
      (newRetryParam "auto" req.modelName requestPath) 0 0
      (plan env req req.autoGroups 0) where
  next := ⟨rfl, rfl, rfl, rfl, rfl, rfl, rfl, rfl⟩
  todo_eq := (planFrom_zero _ _).symm
  retry_le := Nat.zero_le _
  satisfied := fun h => absurd rfl h

theorem distribute_of_none {draws : ℕ → ℕ} {context : SelectContext} {param : RetryParam}
    (hnone : (cacheGetRandomSatisfiedChannel env draws context param).channel = none) :
    distribute env draws context param = none := by
  simp only [distribute, hnone]
  cases (cacheGetRandomSatisfiedChannel env draws context param).err <;> rfl

theorem distribute_of_selected {draws : ℕ → ℕ} {context : SelectContext} {param : RetryParam}
    (hnext : NextAt req context param index retry)
    (hsel : SelectedAt env req group j k row
      (cacheGetRandomSatisfiedChannel env draws context param)) :
    distribute env draws context param =
      some (row, (cacheGetRandomSatisfiedChannel env draws context param).context) := by
  simp only [distribute, hsel.err, hsel.channel]
  rw [if_pos]
  rw [channelSatisfiesFilters_fst, hsel.next.filters, hnext.modelName]
  exact hsel.satisfies

/-- **Retries across groups.** Suppose there are retries, and every attempt of a request for the
group `auto` fails with a retryable error. Then the attempts visit the groups with a satisfying
channel in order, and the loop ends after them. -/
theorem relay_visits_groups (hfixed : FixedChannels env) (hretries : 1 ≤ env.retryTimes)
    (hfails : AlwaysFails cfg answers) (firstDraws : ℕ → ℕ) (requestPath : String) :
    ∃ attempts, VisitsGroups env req attempts ∧ ∀ fuel, attempts.length < fuel →
        relayRequest env cfg answers firstDraws fuel (newContext req)
          (newRetryParam "auto" req.modelName requestPath) = some attempts := by
  have hnew : Pending env req (newContext req)
      (newRetryParam "auto" req.modelName requestPath) 0 0 _ := pending_new requestPath
  rcases hplan : plan env req req.autoGroups 0 with - | ⟨entry, todo⟩
  · rw [hplan] at hnew
    refine ⟨[], visitsGroups_of_fits (hplan ▸ .nil), fun fuel _ => ?_⟩
    rw [relayRequest, distribute_of_none (select_of_nil hfixed hnew firstDraws)]
  obtain ⟨j, k⟩ := entry
  obtain rfl : k = 0 := by
    rw [plan_retry (congrArg (fun entries => entries[0]?) hplan), Nat.zero_mod]
  rw [hplan] at hnew
  obtain ⟨group, row, hgroup, hsel, hrest⟩ := select_of_cons hfixed hnew firstDraws
  -- The first attempt is that of the distributor, with a counter of its own that is also 0.
  let first : RelayState :=
    { param := newRetryParam "auto" req.modelName requestPath
      context := (cacheGetRandomSatisfiedChannel env firstDraws (newContext req)
        (newRetryParam "auto" req.modelName requestPath)).context
      channel := row
      channelMeta := false
      attempts := []
      newAPIError := none }
  obtain ⟨err, hstep⟩ : ∃ err, ∀ fuel, relayLoop env cfg answers (fuel + 1) 0 first =
      relayLoop env cfg answers fuel 1 (first.failed row err) :=
    relayLoop_of_fails hfails (Nat.zero_le _) rfl hretries
  have hpend : Pending env req (first.failed row err).context
      (first.failed row err).param (storedIndex env j 0) (nextRetry env 0) todo :=
    { hrest with
      next :=
        { hrest.next with
          tokenGroup := rfl
          modelName := rfl
          getRetry := (if_neg (not_le.mpr hretries) : nextRetry env 0 = 0 + 1).symm
          resetNextTry := rfl } }
  obtain ⟨attempts, hfits, hloop⟩ :=
    relayLoop_follows (n := 1) hfixed hretries hfails rfl hpend
  have hall := List.Forall₂.cons (fits_of_selectedAt hsel hgroup) hfits
  rw [← hplan] at hall
  refine ⟨_, visitsGroups_of_fits hall, fun fuel hfuel => ?_⟩
  obtain ⟨fuel, rfl⟩ := Nat.exists_eq_succ_of_ne_zero (Nat.ne_zero_of_lt hfuel)
  rw [length_cons, ← hfits.length_eq] at hfuel
  obtain ⟨st', hst', hattempts⟩ := hloop fuel (Nat.lt_of_succ_lt_succ hfuel)
  rw [relayRequest, distribute_of_selected hnew.next hsel]
  simp only
  rw [hstep fuel, hst', Option.map_some, hattempts]
  rfl

end

def sampleLevel (id priority : Int) : StoredChannel :=
  { sampleStored id "gpt" 0 with
    routing := { (sampleStored id "gpt" 0).routing with
      group := "vip,default", priority := some priority } }

def sampleLevels : ChannelTable := ⟨[sampleLevel 7 0, sampleLevel 8 5], by decide⟩

def sampleEnv : SelectEnv where
  baseModelName := id
  store := sampleLevels.store emptyCache false
  errors := noErrors
  retryTimes := 1

def sampleFailing : RelayAnswers where
  setup := fun _ _ => none
  prepare := fun _ => none
  handle := fun _ _ => some ⟨false, false, 500, "bad_response"⟩
  draws := fun _ _ => 0

theorem relay_visits_groups_sampleEnv :
    let req : AutoRequest := ⟨["vip", "default"], "gpt", []⟩
    let cfg : RetrySettings := ⟨false, false, fun _ => false, fun code => code ≥ 500⟩
    (∀ group ∈ req.autoGroups, priorityLevels sampleEnv group "gpt" [] = [5, 0]) ∧
      ∃ attempts, VisitsGroups sampleEnv req attempts ∧ ∀ fuel, attempts.length < fuel →
        relayRequest sampleEnv cfg sampleFailing (fun _ => 0) fuel
          (newContext req) (newRetryParam "auto" "gpt" "/v1/chat/completions") =
            some attempts := by
  intro req cfg
  have hfixed : FixedChannels sampleEnv :=
    { idsNodup := by decide
      wellFormed :=
        ⟨fun group model id hid => absurd hid not_mem_nil, fun id ch h => nomatch h⟩
      noErrors := rfl
      fits := fun group model filters retry =>
        fits_database.mpr ((total_tier_le ..).trans_lt (by decide +kernel)) }
  have hfails : AlwaysFails cfg sampleFailing :=
    { noAffinity := rfl
      notSuppressed := rfl
      setup := fun _ _ => rfl
      prepare := fun _ => rfl
      handle := fun _ _ => ⟨_, rfl, rfl, rfl, by decide, .inr (.inr ⟨rfl, by decide⟩)⟩ }
  exact ⟨by decide +kernel, relay_visits_groups hfixed le_rfl hfails (fun _ => 0)
    "/v1/chat/completions"⟩

end NewApi.Controller
