import Mathlib.Tactic.SplitIfs

/-!
# The Redis copy of a user

The user hash of `model/user_cache.go` with the version keys that fence it
(`model/user_auth_cache.go`) and the quota scripts of `model/quota_reserve.go` on it. Each function
is one Lua script or one read of Redis, so each is atomic; whether Redis answers is for the callers
to say.

The hash keeps the fields that the scripts and the reads test. The profile fields (group, email,
status, role, username, setting) are written along with them and decide nothing here.
-/

namespace NewApi.Model

def userCacheSchemaVersion : Int := 2

structure UserHash where
  id : Int
  cacheSchema : Int
  authVersion : Int
  quota : Option Int
  deriving DecidableEq, Repr

/-- The three keys of a user: the hash, the pending fence and the committed version. A missing
version key reads as `0`. -/
structure UserCache where
  hash : Option UserHash
  fence : Int
  version : Int

structure UserBase where
  id : Int
  quota : Int
  authVersion : Int
  deriving DecidableEq, Repr

inductive CacheQuotaResult
  | insufficient
  | ok
  | miss

/-- The guard of the quota scripts: the balance of a hash that has the right id and schema and a
`Quota` field. -/
def cachedQuota (cache : UserCache) (userId : Int) : Option Int :=
  match cache.hash with
  | none => none
  | some h => if h.id = userId ∧ h.cacheSchema = userCacheSchemaVersion then h.quota else none

def UserCache.incrQuota (cache : UserCache) (delta : Int) : UserCache :=
  { cache with hash := cache.hash.map fun h => { h with quota := h.quota.map (· + delta) } }

/-- `cacheTryReserveUserQuota`: take `amount` from the cached balance if it suffices. -/
def cacheTryReserveUserQuota (cache : UserCache) (userId amount : Int) :
    CacheQuotaResult × UserCache :=
  match cachedQuota cache userId with
  | none => (.miss, cache)
  | some quota =>
    if quota < amount then (.insufficient, cache) else (.ok, cache.incrQuota (-amount))

/-- `cacheApplyUserQuotaDelta`: move the cached balance, if there is one. -/
def cacheApplyUserQuotaDelta (cache : UserCache) (userId delta : Int) :
    CacheQuotaResult × UserCache :=
  match cachedQuota cache userId with
  | none => (.miss, cache)
  | some _ => (.ok, cache.incrQuota delta)

def getUserAuthVersionFloor (cache : UserCache) : Int := max (max 0 cache.fence) cache.version

/-- `cacheGetUserBase`; `none` for its errors, which the callers do not tell apart. -/
def cacheGetUserBase (cache : UserCache) (userId : Int) : Option UserHash :=
  match cache.hash with
  | none => none
  | some h =>
    if h.id ≠ userId ∨ h.cacheSchema ≠ userCacheSchemaVersion ∨ h.authVersion ≤ 0 then none
    else if h.authVersion < getUserAuthVersionFloor cache then none
    else some h

inductive UserCacheError
  | invalidAuthVersion
  | authCachePending
  deriving DecidableEq, Repr

def UserCache.currentVersion (cache : UserCache) : Int :=
  match cache.hash with
  | none => 0
  | some h => h.authVersion

def UserCache.quotaField (cache : UserCache) : Option Int :=
  match cache.hash with
  | none => none
  | some h => h.quota

def UserCache.writtenQuota (cache : UserCache) (user : UserBase) (includeQuota : Bool) :
    Option Int :=
  match cache.quotaField with
  | some q => some q
  | none => if includeQuota then some user.quota else none

/-- The script of `writeUserCache` behind its version test. -/
def UserCache.publish (cache : UserCache) (user : UserBase) (includeQuota : Bool) : UserCache where
  hash :=
    if includeQuota = false ∧ cache.hash = none then none
    else some ⟨user.id, userCacheSchemaVersion, user.authVersion,
      cache.writtenQuota user includeQuota⟩
  fence := if 0 < cache.fence ∧ cache.fence ≤ user.authVersion then 0 else cache.fence
  version := if cache.version < user.authVersion then user.authVersion else cache.version

/-- A snapshot older than a fence is not written. -/
def writeUserCache (cache : UserCache) (user : UserBase) (includeQuota : Bool) :
    Except UserCacheError UserCache :=
  if user.id ≤ 0 then .ok cache
  else if user.authVersion ≤ 0 then .error .invalidAuthVersion
  else if user.authVersion < cache.fence ∨ user.authVersion < cache.version ∨
      user.authVersion < cache.currentVersion then .error .authCachePending
  else .ok (cache.publish user includeQuota)

variable (cache : UserCache) (userId : Int)

@[simp] theorem cachedQuota_incrQuota (delta : Int) :
    cachedQuota (cache.incrQuota delta) userId = (cachedQuota cache userId).map (· + delta) := by
  unfold cachedQuota UserCache.incrQuota
  cases cache.hash with
  | none => rfl
  | some h =>
    simp only [Option.map_some]
    split_ifs <;> rfl

theorem cachedQuota_apply (delta : Int) :
    cachedQuota (cacheApplyUserQuotaDelta cache userId delta).2 userId =
      (cachedQuota cache userId).map (· + delta) := by
  unfold cacheApplyUserQuotaDelta
  cases h : cachedQuota cache userId with
  | none => simp [h]
  | some quota => simp [h]

theorem quotaField_of_cachedQuota {cache : UserCache} {userId quota : Int}
    (h : cachedQuota cache userId = some quota) : cache.quotaField = some quota := by
  unfold cachedQuota at h
  unfold UserCache.quotaField
  cases hhash : cache.hash with
  | none => simp [hhash] at h
  | some hash =>
    simp only [hhash] at h
    split_ifs at h
    exact h

/-- A write that succeeds leaves the cached balance as it is, or, if there is none, makes the
`Quota` field of the hash visible: the old one, or the one it brings. -/
theorem cachedQuota_write {cache cache' : UserCache} {user : UserBase}
    (h : writeUserCache cache user true = .ok cache') :
    cachedQuota cache' user.id = cachedQuota cache user.id ∨ cachedQuota cache user.id = none ∧
        cachedQuota cache' user.id = some (cache.quotaField.getD user.quota) := by
  unfold writeUserCache at h
  split_ifs at h
  · cases h
    exact .inl rfl
  cases h
  have hwritten : cachedQuota (cache.publish user true) user.id =
      some (cache.quotaField.getD user.quota) := by
    simp only [cachedQuota, UserCache.publish, UserCache.writtenQuota]
    cases cache.quotaField <;> simp
  rw [hwritten]
  cases hcached : cachedQuota cache user.id with
  | none => exact .inr ⟨rfl, rfl⟩
  | some quota => rw [quotaField_of_cachedQuota hcached]; exact .inl rfl

end NewApi.Model
