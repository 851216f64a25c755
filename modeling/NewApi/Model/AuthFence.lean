import NewApi.Foundation.Locks
import NewApi.Foundation.Pool
import NewApi.Foundation.Run
import NewApi.Foundation.Saturating
import NewApi.Model.UserCache

/-!
# The auth-version fence of the user cache

A change that restricts a user raises the auth version of the user row. Before the change it
publishes the next version as a pending fence; after the commit it raises the committed version, a
floor that has no expiry. Cache fills and field updates come from rows that were read at any time
before, and a read of the cache reads the hash and the floor one after the other.

Each Lua script and each read of Redis is one step, each statement of a transaction is one, and the
steps of all calls for one user interleave in any way. The user hash and the pending fence can
expire at any time; the committed version stays. A script can run although its reply is lost. The
numbers of Lua are exact up to `2 ^ 53`, which increments by one do not reach, and are integers
here.
-/

namespace NewApi.Model

open StepSystem List Option Pool

/-! ### The scripts -/

/-- A fence is only ever raised. -/
def setUserAuthVersionFence (cache : UserCache) (userId authVersion : Int) :
    Except UserCacheError UserCache :=
  if userId ≤ 0 ∨ authVersion ≤ 0 then .error .invalidAuthVersion
  else .ok { cache with fence := if cache.fence < authVersion then authVersion else cache.fence }

/-- What the scripts do with a version that passes their test: they raise the floor to it, and
delete a fence that is not above it. -/
def UserCache.raiseFloor (cache : UserCache) (authVersion : Int) : UserCache :=
  { cache with
    fence := if 0 < cache.fence ∧ cache.fence ≤ authVersion then 0 else cache.fence
    version := if cache.version < authVersion then authVersion else cache.version }

def publishCommittedUserAuthVersion (cache : UserCache) (userId authVersion : Int) :
    Except UserCacheError UserCache :=
  if userId ≤ 0 ∨ authVersion ≤ 0 then .error .invalidAuthVersion
  else .ok (cache.raiseFloor authVersion)

/-- `updateUserCacheFieldAtVersion`, for a profile field. A hash of another version is left alone.
-/
def updateUserCacheFieldAtVersion (cache : UserCache) (userId authVersion : Int) :
    Except UserCacheError UserCache :=
  if userId ≤ 0 ∨ authVersion ≤ 0 then .error .invalidAuthVersion
  else if authVersion < cache.fence ∨ authVersion < cache.version ∨
      authVersion < cache.currentVersion then .error .authCachePending
  else .ok { cache.raiseFloor authVersion with
    hash := cache.hash.map fun h =>
      if h.authVersion = authVersion then { h with cacheSchema := userCacheSchemaVersion } else h }

/-- The first part of `cacheGetUserBase`: the hash, if it is one that can be returned. -/
def readUserHash (cache : UserCache) (userId : Int) : Option UserHash :=
  match cache.hash with
  | none => none
  | some h =>
    if h.id ≠ userId ∨ h.cacheSchema ≠ userCacheSchemaVersion ∨ h.authVersion ≤ 0 then none
    else some h

def checkUserHash (cache : UserCache) (hash : UserHash) : Option UserHash :=
  if hash.authVersion < getUserAuthVersionFloor cache then none else some hash

/-! ### Calls and their steps -/

inductive AuthError
  | cache (e : UserCacheError)
  | redis
  | database
  | versionConflict
  | staleSchema
  | rolledBack
  deriving DecidableEq, Repr

inductive AuthResult
  | ok
  | returned (hash : UserHash)
  | failed (e : AuthError)
  deriving DecidableEq, Repr

/-- How far a call is.

* `locking`, `fencing`, `updating`, `updated`: in the transaction of
  `IncrementUserAuthVersionWithTx`, with the attempts that are left, the version that was read, and
  the next version.
* `committed`: the transaction is committed, its version not yet published.
* `readingRow`, `filling`: a cache fill before and after its read of the row, with the version that
  it has to publish if it belongs to an increment.
* `readingVersion`, `updatingField`: an update of a field.
* `readingHash`, `readingFloor`: a read of the cache. -/
inductive AuthThread
  | locking (tries : ℕ)
  | fencing (tries : ℕ) (current : Int)
  | updating (tries : ℕ) (current next : Int)
  | updated (next : Int)
  | committed (next : Int)
  | readingRow (includeQuota : Bool)
  | filling (user : UserBase) (includeQuota : Bool) (bumped : Option Int)
  | readingVersion
  | updatingField (authVersion : Int)
  | readingHash
  | readingFloor (hash : UserHash)
  | done (result : AuthResult)
  deriving DecidableEq, Repr

/-- The calls: a change that increments the version, `populateUserCache` and `updateUserCache`,
`updateUserCacheField`, and `cacheGetUserBase`. -/
inductive AuthCall
  | incrementUserAuthVersion
  | writeUserCache (includeQuota : Bool)
  | updateUserCacheField
  | cacheGetUserBase

def AuthCall.thread : AuthCall → AuthThread
  | .incrementUserAuthVersion => .locking 3
  | .writeUserCache includeQuota => .readingRow includeQuota
  | .updateUserCacheField => .readingVersion
  | .cacheGetUserBase => .readingHash

/-- Whether the call holds the lock of the user row. A database without `FOR UPDATE` locks with the
first write. -/
def AuthThread.holds (rowLocks : Bool) : AuthThread → List Unit
  | .fencing _ _ | .updating _ _ _ => if rowLocks then [()] else []
  | .updated _ => [()]
  | .locking _ | .committed _ | .readingRow _ | .filling _ _ _ | .readingVersion | .updatingField _
  | .readingHash | .readingFloor _ | .done _ => []

/-- The auth version of the committed user row, the keys of the user in Redis, the calls, and the
versions whose publication has completed. The program does not keep the last. -/
structure AuthState where
  authVersion : Int
  cache : UserCache
  pool : List AuthThread
  published : List Int

/-- What becomes of a script: it runs, it runs but the caller gets an error, or it does not run. -/
inductive ScriptReply
  | ok
  | lost
  | unreachable

/-- What happens: a call arrives; call `k` reads the row, uses the row that its own transaction has
read, runs its next script, updates the row, commits, or is rolled back or abandoned; the fence or
the hash expires, the hash is deleted, or its quota moves. The quota of a row that is read is part
of the event, and so is whether a statement succeeds. -/
inductive AuthEvent
  | call (c : AuthCall)
  | readRow (k : ℕ) (quota : Int) (ok : Bool)
  | ownRow (k : ℕ) (quota : Int)
  | script (k : ℕ) (ans : ScriptReply)
  | update (k : ℕ) (ok : Bool)
  | commit (k : ℕ) (ok : Bool)
  | rollback (k : ℕ)
  | expireFence
  | expireHash
  | quotaDelta (delta : Int)

namespace AuthState

variable (userId : Int) (rowLocks : Bool)

def move (s : AuthState) (k : ℕ) (t : AuthThread) : AuthState := { s with pool := s.pool.set k t }

def fail (s : AuthState) (k : ℕ) (e : AuthError) : AuthState := s.move k (.done (.failed e))

/-- The state after a script: the keys change if it runs, and the call goes on if it gets the
reply. -/
def answer (s : AuthState) (k : ℕ) (ans : ScriptReply) (cache : UserCache) (t : AuthThread)
    (published : List Int) : AuthState :=
  match ans with
  | .ok =>
    { s with cache := cache, pool := s.pool.set k t, published := s.published ++ published }
  | .lost => { s with cache := cache, pool := s.pool.set k (.done (.failed .redis)) }
  | .unreachable => s.fail k .redis

def answerExcept (s : AuthState) (k : ℕ) (ans : ScriptReply)
    (result : Except UserCacheError UserCache) (t : AuthThread) (published : List Int) :
    AuthState :=
  match result with
  | .error e => s.fail k (.cache e)
  | .ok cache => s.answer k ans cache t published

/-- The read of the row: the locked one of an increment, that of `PublishUserAuthCache` after a
commit, and those of a fill and of a field update. An increment without an attempt left fails.

Source: `model/user_auth_cache.go` and `model/user_cache.go`. -/
def readRow (s : AuthState) (k : ℕ) (quota : Int) (ok : Bool) : AuthState :=
  match s.pool[k]? with
  | some (.locking 0) => s.fail k .versionConflict
  | some (.locking (tries + 1)) =>
    if rowLocks ∧ ¬ Locks.Free (AuthThread.holds rowLocks) s.pool () then s
    else if ok then s.move k (.fencing tries s.authVersion) else s.fail k .database
  | some (.committed next) =>
    if ok then s.move k (.filling ⟨userId, quota, s.authVersion⟩ false (some next))
    else s.fail k .database
  | some (.readingRow includeQuota) =>
    if ok then s.move k (.filling ⟨userId, quota, s.authVersion⟩ includeQuota none)
    else s.fail k .database
  | some .readingVersion =>
    if ok then s.move k (.updatingField s.authVersion) else s.fail k .database
  | _ => s

/-- After the commit, `Update` and `Edit` fill the cache with the row that their transaction has
read.

Source: `model/user.go`. -/
def ownRow (s : AuthState) (k : ℕ) (quota : Int) : AuthState :=
  match s.pool[k]? with
  | some (.committed next) => s.move k (.filling ⟨userId, quota, next⟩ false (some next))
  | _ => s

def script (s : AuthState) (k : ℕ) (ans : ScriptReply) : AuthState :=
  match s.pool[k]? with
  | some (.fencing tries current) =>
    let next := Int64.wrap (max current 1 + 1)
    s.answerExcept k ans (setUserAuthVersionFence s.cache userId next)
      (.updating tries current next) []
  | some (.committed next) =>
    s.answerExcept k ans (publishCommittedUserAuthVersion s.cache userId next) (.done .ok) [next]
  | some (.filling user includeQuota bumped) =>
    s.answerExcept k ans (writeUserCache s.cache user includeQuota) (.done .ok)
      (user.authVersion :: bumped.toList)
  | some (.updatingField authVersion) =>
    s.answerExcept k ans (updateUserCacheFieldAtVersion s.cache userId authVersion) (.done .ok) []
  | some .readingHash =>
    match readUserHash s.cache userId with
    | none => s.fail k .staleSchema
    | some hash => s.answer k ans s.cache (.readingFloor hash) []
  | some (.readingFloor hash) =>
    match checkUserHash s.cache hash with
    | none => s.fail k (.cache .authCachePending)
    | some hash => s.answer k ans s.cache (.done (.returned hash)) []
  | _ => s

/-- The conditional update of the version, which waits for the row lock. -/
def update (s : AuthState) (k : ℕ) (ok : Bool) : AuthState :=
  match s.pool[k]? with
  | some (.updating tries current next) =>
    if () ∈ (AuthThread.updating tries current next).holds rowLocks ∨
        Locks.Free (AuthThread.holds rowLocks) s.pool () then
      if ok = false then s.fail k .database
      else if s.authVersion = current then s.move k (.updated next)
      else s.move k (.locking tries)
    else s
  | _ => s

def commit (s : AuthState) (k : ℕ) (ok : Bool) : AuthState :=
  match s.pool[k]? with
  | some (.updated next) =>
    if ok then { s with authVersion := next, pool := s.pool.set k (.committed next) }
    else s.fail k .database
  | _ => s

def start (authVersion : Int) : AuthState := ⟨authVersion, ⟨none, 0, 0⟩, [], []⟩

end AuthState

open AuthThread

open AuthState

section

variable (userId : Int) (rowLocks : Bool)

def authStep (s : AuthState) : AuthEvent → AuthState
  | .call c => { s with pool := s.pool ++ [c.thread] }
  | .readRow k quota ok => s.readRow userId rowLocks k quota ok
  | .ownRow k quota => s.ownRow userId k quota
  | .script k ans => s.script userId k ans
  | .update k ok => s.update rowLocks k ok
  | .commit k ok => s.commit k ok
  | .rollback k => s.fail k .rolledBack
  | .expireFence => { s with cache := { s.cache with fence := 0 } }
  | .expireHash => { s with cache := { s.cache with hash := none } }
  | .quotaDelta delta => { s with cache := (cacheApplyUserQuotaDelta s.cache userId delta).2 }

/-! ### What a step can do -/

/-- What a step can do to the keys: the floor does not fall, and a hash has the version of the hash
before it, or one that is at least the old floor and at most the new one. -/
structure CacheMove (cache cache' : UserCache) : Prop where
  version : cache.version ≤ cache'.version
  hash : ∀ h' ∈ cache'.hash, (∃ h ∈ cache.hash, h'.authVersion = h.authVersion) ∨
    cache.version ≤ h'.authVersion ∧ h'.authVersion ≤ cache'.version

section

variable {cache cache' : UserCache}

theorem CacheMove.of_hash (hversion : cache.version ≤ cache'.version)
    (hhash : ∀ h' ∈ cache'.hash, ∃ h ∈ cache.hash, h'.authVersion = h.authVersion) :
    CacheMove cache cache' :=
  ⟨hversion, fun h' h => .inl (hhash h' h)⟩

theorem CacheMove.refl (cache : UserCache) : CacheMove cache cache :=
  .of_hash le_rfl fun h hmem => ⟨h, hmem, rfl⟩

theorem version_raiseFloor (cache : UserCache) (authVersion : Int) :
    cache.version ≤ (cache.raiseFloor authVersion).version ∧
      authVersion ≤ (cache.raiseFloor authVersion).version := by
  unfold UserCache.raiseFloor
  dsimp only
  split_ifs with hlt <;> omega

variable {userId authVersion : Int}

theorem setFence_move (h : setUserAuthVersionFence cache userId authVersion = .ok cache') :
    CacheMove cache cache' ∧ 0 < authVersion := by
  unfold setUserAuthVersionFence at h
  split_ifs at h
  all_goals
    cases h
    exact ⟨.of_hash le_rfl fun h hmem => ⟨h, hmem, rfl⟩, by omega⟩

theorem publishCommitted_move
    (h : publishCommittedUserAuthVersion cache userId authVersion = .ok cache') :
    CacheMove cache cache' ∧ authVersion ≤ cache'.version := by
  unfold publishCommittedUserAuthVersion at h
  split_ifs at h
  cases h
  obtain ⟨hversion, hpublished⟩ := version_raiseFloor cache authVersion
  exact ⟨.of_hash hversion fun h hmem => ⟨h, hmem, rfl⟩, hpublished⟩

theorem writeUserCache_move {user : UserBase} {includeQuota : Bool}
    (h : writeUserCache cache user includeQuota = .ok cache') :
    CacheMove cache cache' ∧ (0 < user.id → user.authVersion ≤ cache'.version) := by
  unfold writeUserCache at h
  split_ifs at h
  · cases h
    exact ⟨.refl cache, fun huser => by omega⟩
  cases h
  obtain ⟨hversion, hpublished⟩ := version_raiseFloor cache user.authVersion
  refine ⟨⟨hversion, ?_⟩, fun _ => hpublished⟩
  intro h' hmem
  unfold UserCache.publish at hmem
  dsimp only at hmem
  split_ifs at hmem
  · cases hmem
  · cases hmem
    exact .inr ⟨by dsimp only; omega, hpublished⟩

theorem updateField_move (h : updateUserCacheFieldAtVersion cache userId authVersion = .ok cache') :
    CacheMove cache cache' := by
  unfold updateUserCacheFieldAtVersion at h
  split_ifs at h
  cases h
  refine .of_hash (version_raiseFloor cache authVersion).1 ?_
  intro h' hmem
  obtain ⟨h, hold, rfl⟩ := map_eq_some_iff.mp hmem
  refine ⟨h, hold, ?_⟩
  split_ifs with hsame <;> rfl

theorem check_some {hash hash' : UserHash} (h : checkUserHash cache hash = some hash') :
    cache.version ≤ hash'.authVersion := by
  unfold checkUserHash getUserAuthVersionFloor at h
  split_ifs at h
  cases h
  omega

theorem quotaDelta_move (userId delta : Int) :
    CacheMove cache (cacheApplyUserQuotaDelta cache userId delta).2 := by
  unfold cacheApplyUserQuotaDelta
  rcases cachedQuota cache userId with - | quota
  · exact .refl cache
  refine .of_hash le_rfl ?_
  intro h' hmem
  obtain ⟨h, hold, rfl⟩ := map_eq_some_iff.mp hmem
  exact ⟨h, hold, rfl⟩

end

/-- What a call has read or written agrees with the version of the row: an increment goes up, a
committed version is in the row, and a fill that publishes a version has read a row that is not
older. -/
def AuthThread.Sound (authVersion : Int) : AuthThread → Prop
  | .fencing _ current => current < 2 ^ 63
  | .updating _ current next => current < next ∧ next < 2 ^ 63
  | .updated next => authVersion < next ∧ next < 2 ^ 63
  | .committed next => next ≤ authVersion
  | .filling user _ bumped => 0 < user.id ∧ ∀ v ∈ bumped, v ≤ user.authVersion
  | .locking _ | .readingRow _ | .readingVersion | .updatingField _ | .readingHash
  | .readingFloor _ | .done _ => True

inductive AuthMove (s : AuthState) : AuthState → Prop
  | idle : AuthMove s s
  | opened (c : AuthCall) : AuthMove s { s with pool := s.pool ++ [c.thread] }
  | evicted (cache : UserCache) (hcache : CacheMove s.cache cache) :
      AuthMove s { s with cache := cache }
  | advanced (k : ℕ) (t t' : AuthThread) (cache : UserCache) (hk : s.pool[k]? = some t)
      (hcache : CacheMove s.cache cache)
      (hlocks : ∀ r ∈ t'.holds rowLocks, r ∈ t.holds rowLocks ∨
        Locks.Free (AuthThread.holds rowLocks) s.pool r)
      (hsound : s.authVersion < 2 ^ 63 → t.Sound s.authVersion → t'.Sound s.authVersion)
      (hreturn : ∀ h, t' = .done (.returned h) → s.cache.version ≤ h.authVersion) :
      AuthMove s { s with cache := cache, pool := s.pool.set k t' }
  | committed (k : ℕ) (next : Int) (hk : s.pool[k]? = some (.updated next)) :
      AuthMove s { s with authVersion := next, pool := s.pool.set k (.committed next) }
  | published (k : ℕ) (t : AuthThread) (cache : UserCache) (versions : List Int)
      (hk : s.pool[k]? = some t) (hcache : CacheMove s.cache cache)
      (hversions : t.Sound s.authVersion → ∀ v ∈ versions, v ≤ cache.version) :
      AuthMove s { s with
        cache := cache
        pool := s.pool.set k (.done .ok)
        published := s.published ++ versions }

variable {rowLocks} {s : AuthState} {k : ℕ} {t t' : AuthThread} {cache : UserCache}

section

variable (hk : s.pool[k]? = some t)
include hk

theorem stopped_authMove (hcache : CacheMove s.cache cache) (e : AuthError) :
    AuthMove rowLocks s { s with cache := cache, pool := s.pool.set k (.done (.failed e)) } := by
  refine .advanced k t _ cache hk hcache ?_ (fun _ _ => trivial) ?_
  · intro r hr
    cases hr
  · intro h heq
    cases heq

theorem fail_move (e : AuthError) : AuthMove rowLocks s (s.fail k e) :=
  stopped_authMove hk (.refl s.cache) e

theorem move_move (hlocks : ∀ r ∈ t'.holds rowLocks, r ∈ t.holds rowLocks ∨
      Locks.Free (AuthThread.holds rowLocks) s.pool r)
    (hsound : s.authVersion < 2 ^ 63 → t.Sound s.authVersion → t'.Sound s.authVersion)
    (hreturn : ∀ h, t' ≠ .done (.returned h)) : AuthMove rowLocks s (s.move k t') :=
  .advanced k t t' s.cache hk (.refl s.cache) hlocks hsound fun h heq => absurd heq (hreturn h)

theorem answer_move {ans : ScriptReply} {published : List Int} (hcache : CacheMove s.cache cache)
    (hok : AuthMove rowLocks s
      { s with cache := cache, pool := s.pool.set k t', published := s.published ++ published }) :
    AuthMove rowLocks s (s.answer k ans cache t' published) := by
  cases ans with
  | ok => exact hok
  | lost => exact stopped_authMove hk hcache .redis
  | unreachable => exact fail_move hk .redis

end

theorem readRow_move (huser : 0 < userId) (quota : Int) (ok : Bool) :
    AuthMove rowLocks s (s.readRow userId rowLocks k quota ok) := by
  unfold readRow
  split
  next hk => exact fail_move hk .versionConflict
  next tries hk =>
    split_ifs with hwait hok
    · exact .idle
    · refine move_move hk ?_ (fun hrow _ => hrow) (by simp)
      intro r hr
      by_cases hlocks : rowLocks = true
      · exact .inr (not_not.mp fun hheld => hwait ⟨hlocks, hheld⟩)
      · rw [holds, if_neg hlocks] at hr
        cases hr
    · exact fail_move hk .database
  next next hk =>
    split_ifs
    · refine move_move hk (by simp [holds]) ?_ (by simp)
      intro _ hnext
      refine ⟨huser, fun v hv => ?_⟩
      obtain rfl := some.inj hv
      exact hnext
    · exact fail_move hk .database
  next includeQuota hk =>
    split_ifs
    · refine move_move hk (by simp [holds]) ?_ (by simp)
      exact fun _ _ => ⟨huser, fun v hv => by cases hv⟩
    · exact fail_move hk .database
  next hk =>
    split_ifs
    · exact move_move hk (by simp [holds]) (fun _ _ => trivial) (by simp)
    · exact fail_move hk .database
  · exact .idle

theorem ownRow_move (huser : 0 < userId) (quota : Int) :
    AuthMove rowLocks s (s.ownRow userId k quota) := by
  unfold ownRow
  split
  next next hk =>
    refine move_move hk (by simp [holds]) ?_ (by simp)
    intro _ _
    refine ⟨huser, fun v hv => ?_⟩
    obtain rfl := some.inj hv
    exact le_rfl
  · exact .idle

theorem answerExcept_move {ans : ScriptReply} {result : Except UserCacheError UserCache}
    {published : List Int} (hk : s.pool[k]? = some t)
    (hcache : ∀ cache, result = .ok cache → CacheMove s.cache cache)
    (hok : ∀ cache, result = .ok cache → AuthMove rowLocks s
      { s with cache := cache, pool := s.pool.set k t', published := s.published ++ published }) :
    AuthMove rowLocks s (s.answerExcept k ans result t' published) := by
  cases result with
  | error e => exact fail_move hk (.cache e)
  | ok cache => exact answer_move hk (hcache cache rfl) (hok cache rfl)

variable {cache' : UserCache}

theorem next_of_fence {userId current : Int} (hcurrent : current < 2 ^ 63)
    (h : setUserAuthVersionFence cache userId (Int64.wrap (max current 1 + 1)) = .ok cache') :
    current < Int64.wrap (max current 1 + 1) ∧ Int64.wrap (max current 1 + 1) < 2 ^ 63 := by
  have hpos := (setFence_move h).2
  have hnext := Int64.wrap_succ_of_pos (by omega) (by omega) hpos
  exact ⟨by omega, (Int64.wrap_mem _).2⟩

theorem script_move (ans : ScriptReply) : AuthMove rowLocks s (s.script userId k ans) := by
  unfold script
  split
  next tries current hk =>
    refine answerExcept_move hk (fun cache h => (setFence_move h).1) fun cache h => ?_
    rw [append_nil]
    refine .advanced k _ _ cache hk (setFence_move h).1 (fun r hr => .inl hr) ?_ (by simp)
    exact fun _ hcurrent => next_of_fence hcurrent h
  next next hk =>
    refine answerExcept_move hk (fun cache h => (publishCommitted_move h).1) fun cache h => ?_
    obtain ⟨hcache, hpublished⟩ := publishCommitted_move h
    refine .published k _ cache [next] hk hcache fun _ v hv => ?_
    obtain rfl := mem_singleton.mp hv
    exact hpublished
  next user includeQuota bumped hk =>
    refine answerExcept_move hk (fun cache h => (writeUserCache_move h).1) fun cache h => ?_
    obtain ⟨hcache, hpublished⟩ := writeUserCache_move h
    refine .published k _ cache _ hk hcache ?_
    rintro ⟨hid, hbumped⟩ v hv
    obtain rfl | hv := mem_cons.mp hv
    · exact hpublished hid
    · exact (hbumped v (mem_toList.mp hv)).trans (hpublished hid)
  next authVersion hk =>
    refine answerExcept_move hk (fun cache h => updateField_move h) fun cache h => ?_
    rw [append_nil]
    exact .advanced k _ _ cache hk (updateField_move h) (by simp [holds])
      (fun _ _ => trivial) (by simp)
  next hk =>
    cases readUserHash s.cache userId with
    | none => exact fail_move hk .staleSchema
    | some hash =>
      refine answer_move hk (.refl _) ?_
      rw [append_nil]
      exact move_move hk (by simp [holds]) (fun _ _ => trivial) (by simp)
  next hash hk =>
    rcases hcheck : checkUserHash s.cache hash with - | hash'
    · exact fail_move hk (.cache .authCachePending)
    refine answer_move hk (.refl _) ?_
    rw [append_nil]
    refine .advanced k _ _ _ hk (.refl _) (by simp [holds]) (fun _ _ => trivial) ?_
    intro h heq
    cases heq
    exact check_some hcheck
  · exact .idle

theorem update_move (ok : Bool) : AuthMove rowLocks s (s.update rowLocks k ok) := by
  unfold update
  split
  next tries current next hk =>
    split_ifs with hlock hok hsame
    · exact fail_move hk .database
    · refine move_move hk ?_ ?_ (by simp)
      · rintro ⟨⟩ _
        exact hlock
      · rintro _ ⟨hlt, hmax⟩
        exact ⟨hsame ▸ hlt, hmax⟩
    · exact move_move hk (by simp [holds]) (fun _ _ => trivial) (by simp)
    · exact .idle
  · exact .idle

theorem commit_authMove (ok : Bool) : AuthMove rowLocks s (s.commit k ok) := by
  unfold commit
  split
  next next hk =>
    split_ifs
    · exact .committed k next hk
    · exact fail_move hk .database
  · exact .idle

/-- **What a step can do.** -/
theorem authStep_move (huser : 0 < userId) (s : AuthState) (e : AuthEvent) :
    AuthMove rowLocks s (authStep userId rowLocks s e) := by
  cases e with
  | call c => exact .opened c
  | readRow k quota ok => exact readRow_move userId huser quota ok
  | ownRow k quota => exact ownRow_move userId huser quota
  | script k ans => exact script_move userId ans
  | update k ok => exact update_move ok
  | commit k ok => exact commit_authMove ok
  | rollback k =>
    cases hk : s.pool[k]? with
    | none =>
      have hlen : s.pool.length ≤ k := getElem?_eq_none_iff.mp hk
      rw [authStep, fail, move, set_eq_of_length_le hlen]
      exact .idle
    | some t => exact fail_move hk .rolledBack
  | expireFence => exact .evicted _ (.of_hash le_rfl fun h hmem => ⟨h, hmem, rfl⟩)
  | expireHash => exact .evicted _ (.of_hash le_rfl fun h hmem => by cases hmem)
  | quotaDelta delta => exact .evicted _ (quotaDelta_move userId delta)

/-! ### The invariant -/

variable (rowLocks) in
/-- **The invariant.** The row lock is exclusive, the calls agree with the row, and neither the
cached version nor a published one is above the floor. -/
structure AuthInv (s : AuthState) : Prop where
  locks : Locks.Exclusive (AuthThread.holds rowLocks) s.pool
  row : s.authVersion < 2 ^ 63
  threads : ∀ t ∈ s.pool, t.Sound s.authVersion
  hash : ∀ h ∈ s.cache.hash, h.authVersion ≤ s.cache.version
  published : ∀ v ∈ s.published, v ≤ s.cache.version

theorem CacheMove.hash_le (hmove : CacheMove cache cache')
    (h : ∀ h ∈ cache.hash, h.authVersion ≤ cache.version) :
    ∀ h ∈ cache'.hash, h.authVersion ≤ cache'.version := by
  intro h' hmem
  obtain ⟨h₀, hold, heq⟩ | ⟨-, hle⟩ := hmove.hash h' hmem
  · rw [heq]
    exact (h h₀ hold).trans hmove.version
  · exact hle

theorem AuthThread.Sound.mono {authVersion next : Int} (h : t.Sound authVersion)
    (hle : authVersion ≤ next) (hlock : () ∉ t.holds rowLocks) : t.Sound next := by
  cases t with
  | updated v => simp [holds] at hlock
  | committed v => exact le_trans h hle
  | fencing _ _ | updating _ _ _ | filling _ _ _ => exact h
  | _ => trivial

theorem holds_thread (c : AuthCall) : c.thread.holds rowLocks = [] := by
  cases c <;> rfl

variable {s s' : AuthState}

theorem authInv_move (h : AuthInv rowLocks s)
    (hmove : AuthMove rowLocks s s') : AuthInv rowLocks s' := by
  have hmem {j : ℕ} {u : AuthThread} (hj : s.pool[j]? = some u) : u.Sound s.authVersion :=
    h.threads u (mem_of_getElem? hj)
  cases hmove with
  | idle => exact h
  | opened c =>
    refine ⟨h.locks.append (holds_thread c), h.row, ?_, h.hash, h.published⟩
    intro t ht
    obtain hold | hnew := mem_append.mp ht
    · exact h.threads t hold
    · obtain rfl := mem_singleton.mp hnew
      cases c <;> trivial
  | evicted cache hcache =>
    refine ⟨h.locks, h.row, h.threads, hcache.hash_le h.hash, ?_⟩
    exact fun v hv => (h.published v hv).trans hcache.version
  | advanced k t t' cache hk hcache hlocks hsound hreturn =>
    refine ⟨h.locks.set hk hlocks, h.row, ?_, hcache.hash_le h.hash, ?_⟩
    · exact forall_mem_set (fun j u _ hj => hmem hj) (hsound h.row (hmem hk))
    · exact fun v hv => (h.published v hv).trans hcache.version
  | committed k next hk =>
    obtain ⟨hlt, hmax⟩ : s.authVersion < next ∧ next < 2 ^ 63 := hmem hk
    refine ⟨h.locks.set hk ?_, hmax, ?_, h.hash, h.published⟩
    · intro r hr
      cases hr
    · refine forall_mem_set (fun j u hne hj => ?_) le_rfl
      exact (hmem hj).mono hlt.le (h.locks.notMem hk hj hne (mem_singleton.mpr rfl))
  | published k t cache versions hk hcache hversions =>
    refine ⟨h.locks.set hk ?_, h.row, ?_, hcache.hash_le h.hash, ?_⟩
    · intro r hr
      cases hr
    · exact forall_mem_set (fun j u _ hj => hmem hj) trivial
    intro v hv
    obtain hold | hnew := mem_append.mp hv
    · exact (h.published v hold).trans hcache.version
    · exact hversions (hmem hk) v hnew

theorem authInv_start {authVersion : Int} (hrow : authVersion < 2 ^ 63) :
    AuthInv rowLocks (AuthState.start authVersion) where
  locks := by
    intro i j t t' r hi
    simp [start] at hi
  row := hrow
  threads := by
    intro t ht
    cases ht
  hash := by
    intro h hmem
    cases hmem
  published := by
    intro v hv
    cases hv

theorem cacheMove_of_move (hmove : AuthMove rowLocks s s') : CacheMove s.cache s'.cache := by
  cases hmove with
  | evicted _ hcache | advanced _ _ _ _ _ hcache _ _ _
  | published _ _ _ _ _ hcache _ => exact hcache
  | _ => exact .refl _

def AuthState.Returns (s s' : AuthState) (k : ℕ) (hash : UserHash) : Prop :=
  s.pool[k]? ≠ some (.done (.returned hash)) ∧ s'.pool[k]? = some (.done (.returned hash))

theorem returns_move (hmove : AuthMove rowLocks s s') {k : ℕ} {h : UserHash}
    (hreturns : s.Returns s' k h) : s.cache.version ≤ h.authVersion := by
  obtain ⟨hbefore, hafter⟩ := hreturns
  cases hmove with
  | opened c =>
    rw [getElem?_append] at hafter
    split_ifs at hafter
    · exact absurd hafter hbefore
    · have hnew := mem_singleton.mp (mem_of_getElem? hafter)
      cases c <;> cases hnew
  | advanced j t t' cache hj hcache hlocks hsound hreturn =>
    obtain hold | heq := getElem?_set_cases hafter
    · exact absurd hold hbefore
    · exact hreturn h heq.symm
  | committed j next hj | published j t cache versions hj hcache hversions =>
    obtain hold | heq := getElem?_set_cases hafter
    · exact absurd hold hbefore
    · cases heq
  | _ => exact absurd hafter hbefore

def UserCache.Above (cache : UserCache) (bound : Int) : Prop :=
  bound ≤ cache.version ∧ ∀ h ∈ cache.hash, bound ≤ h.authVersion

theorem CacheMove.above {bound : Int} (hmove : CacheMove cache cache')
    (h : cache.Above bound) : cache'.Above bound := by
  refine ⟨h.1.trans hmove.version, fun h' hmem => ?_⟩
  obtain ⟨h₀, hold, heq⟩ | ⟨hle, -⟩ := hmove.hash h' hmem
  · rw [heq]
    exact h.2 h₀ hold
  · exact h.1.trans hle

theorem authRun_induction (inv : AuthState → Prop) (huser : 0 < userId)
    (hstep : ∀ s s', inv s → AuthMove rowLocks s s' → inv s') (hs : inv s)
    (events : List AuthEvent) : inv (run (authStep userId rowLocks) s events) :=
  run_induction (P := fun _ _ => True)
    (fun s e hinv _ => hstep s _ hinv (authStep_move userId huser s e)) hs
    (along_of_forall (fun _ _ => trivial) _ _)

variable (rowLocks) in
/-- **The auth-version fence.** From any state of a run to any later one, neither the floor nor the
cached version falls, also if the hash was deleted in between; and after the publication of a
version no call returns an entry below it. -/
theorem auth_version_fence (huser : 0 < userId) {authVersion : Int} (hrow : authVersion < 2 ^ 63)
    (before after : List AuthEvent) :
    let s := run (authStep userId rowLocks) (start authVersion) before
    let s' := run (authStep userId rowLocks) s after
    s.cache.version ≤ s'.cache.version ∧
      (∀ h ∈ s.cache.hash, ∀ h' ∈ s'.cache.hash, h.authVersion ≤ h'.authVersion) ∧
      ∀ v ∈ s.published, ∀ e k h, s'.Returns (authStep userId rowLocks s' e) k h →
        v ≤ h.authVersion := by
  intro s s'
  have hinv : AuthInv rowLocks s := by
    refine authRun_induction userId (AuthInv rowLocks) huser ?_ (authInv_start hrow) before
    exact fun s s' h hmove => authInv_move h hmove
  have hfloor : s.cache.version ≤ s'.cache.version := by
    refine authRun_induction userId (fun u => s.cache.version ≤ u.cache.version) huser ?_ le_rfl
      after
    exact fun u u' h hmove => h.trans (cacheMove_of_move hmove).version
  refine ⟨hfloor, ?_, ?_⟩
  · intro h hmem h' hmem'
    have hstart : s.cache.Above h.authVersion := by
      refine ⟨hinv.hash h hmem, fun h₀ hmem₀ => ?_⟩
      obtain rfl := some.inj (hmem.symm.trans hmem₀)
      exact le_rfl
    have habove : s'.cache.Above h.authVersion := by
      refine authRun_induction userId (fun u => u.cache.Above h.authVersion) huser ?_ hstart after
      exact fun u u' hu hmove => (cacheMove_of_move hmove).above hu
    exact habove.2 h' hmem'
  · intro v hv e k h hreturns
    calc v ≤ s.cache.version := hinv.published v hv
      _ ≤ s'.cache.version := hfloor
      _ ≤ h.authVersion := returns_move (authStep_move userId huser s' e) hreturns

end

/-! ### A stale fill and a stale read around an increment -/

def sampleIncrement : List AuthEvent :=
  [.call (.writeUserCache true), .readRow 0 50 true, .call (.writeUserCache true),
   .readRow 1 50 true, .script 1 .ok, .call .cacheGetUserBase, .script 2 .ok,
   .call .incrementUserAuthVersion, .readRow 3 50 true, .script 3 .ok, .update 3 true,
   .commit 3 true, .script 3 .ok]

def sampleDelayed : List AuthEvent := [.script 0 .ok, .script 2 .ok]

theorem auth_version_fence_sampleIncrement :
    let s := run (authStep 7 true) (start 1) sampleIncrement
    let s' := run (authStep 7 true) s sampleDelayed
    s.published = [1, 2] ∧ s'.pool[2]? = some (.done (.failed (.cache .authCachePending))) ∧
      s.cache.version ≤ s'.cache.version ∧
      (∀ h ∈ s.cache.hash, ∀ h' ∈ s'.cache.hash, h.authVersion ≤ h'.authVersion) ∧
      ∀ v ∈ s.published, ∀ e k h, s'.Returns (authStep 7 true s' e) k h → v ≤ h.authVersion :=
  ⟨by decide +kernel, by decide +kernel,
    auth_version_fence 7 true (by decide) (by decide) sampleIncrement sampleDelayed⟩

end NewApi.Model
