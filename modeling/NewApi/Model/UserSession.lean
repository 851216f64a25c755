import Mathlib.Data.List.Sort
import Mathlib.Order.Interval.Set.Basic
import NewApi.Foundation.Expiring
import NewApi.Foundation.Table

/-!
# Login sessions

A row of the table `user_sessions` (`model/user_session.go`), its hash in Redis, and the calls that
read and change them. A session is active until it expires or is revoked; its refresh token is
replaced by a new one each time it is used, and only the digests of the current and of the previous
one are stored.

Every call is a thread that goes through its statements, its scripts and its readings of the clock
one by one, so that the steps of several calls can interleave. An update of a row and the commit of
its transaction are one step; the row locks of a transaction are not used. Redis is enabled, and the
key of a session in Redis stands for its digest. A statement or a script may fail, or may run
although its caller gets an error. Left out are the login method, the address and the user agent,
which nothing here reads, and the trailing blanks of a `char` column.
-/

namespace NewApi.Model

open GoTime List Option Expiring

/-! ### Rows and cache entries -/

inductive SessionStatus
  | active
  | revoking
  | revoked
  deriving DecidableEq, Repr

/-- A login session. -/
structure UserSession where
  sid : String
  userId : Int
  version : Int
  userAuthVersion : Int
  status : SessionStatus
  refreshHash : String
  previousRefreshHash : String
  previousValidUntil : Int
  lastActiveAt : Int
  expiresAt : Int
  revokedAt : Int
  revokedReason : String
  deriving DecidableEq, Repr

structure UserSessionCacheEntry where
  sid : String
  userId : Int
  version : Int
  userAuthVersion : Int
  status : SessionStatus
  lastActiveAt : Int
  expiresAt : Int
  revokedAt : Int
  revokedReason : String
  cacheSchema : ℕ
  deriving DecidableEq, Repr

def userSessionCacheSchema : ℕ := 1

def userSessionRevokeBatchSize : ℕ := 500

inductive SessionError
  | invalid
  | inactive
  | refreshInvalid
  | refreshReuse
  | cacheObservationStale
  | notFound
  | redis
  | database
  deriving DecidableEq, Repr

namespace UserSession

def cacheEntry (s : UserSession) : UserSessionCacheEntry :=
  ⟨s.sid, s.userId, s.version, s.userAuthVersion, s.status, s.lastActiveAt, s.expiresAt,
    s.revokedAt, s.revokedReason, userSessionCacheSchema⟩

/-- The test of every call: active, not revoked, and not expired at the second `now`. -/
def Live (s : UserSession) (now : Int) : Prop :=
  s.status = .active ∧ s.revokedAt = 0 ∧ now < s.expiresAt
  deriving Decidable

def deny (s : UserSession) (status : SessionStatus) (now : Int) (reason : String) : UserSession :=
  { s with status := status, revokedAt := now, revokedReason := reason }

end UserSession

/-- `sess` of an entry: the digests are not in the cache. -/
def UserSessionCacheEntry.session (e : UserSessionCacheEntry) : UserSession where
  sid := e.sid
  userId := e.userId
  version := e.version
  userAuthVersion := e.userAuthVersion
  status := e.status
  refreshHash := ""
  previousRefreshHash := ""
  previousValidUntil := 0
  lastActiveAt := e.lastActiveAt
  expiresAt := e.expiresAt
  revokedAt := e.revokedAt
  revokedReason := e.revokedReason

/-! ### Writes of the cache -/

structure CacheWrite where
  entry : UserSessionCacheEntry
  expiry : Expiry
  deriving DecidableEq, Repr

/-- `writeUserSessionCache` up to its script. Active snapshots carry a deadline, the others none.
`ttl` is `userCacheTTLSeconds`. -/
def writeUserSessionCache (ttl : Int) (entry : UserSessionCacheEntry)
    (cacheDeadline : Option Int) (now : Int) : Except SessionError CacheWrite :=
  let sessionExpiresAt := entry.expiresAt * second
  let sessionTTL := sessionExpiresAt - now
  if entry.status = .active then
    match cacheDeadline with
    | none => .error .invalid
    | some due =>
      if due - now ≤ 0 then .error .cacheObservationStale
      else if sessionTTL ≤ 0 then .error .inactive
      else
        let cacheExpiresAt := min due sessionExpiresAt
        if cacheExpiresAt - now < millisecond then .error .cacheObservationStale
        else .ok ⟨entry, .at (unixMilli cacheExpiresAt)⟩
  else
    let life := min sessionTTL (ttl * second)
    let redisExpiration := unixMilli (if life ≤ 0 then second else life)
    .ok ⟨entry, .after (if redisExpiration ≤ 0 then 1 else redisExpiration)⟩

/-- The script: an active entry never replaces a deny state, and no entry one of a higher version.
The result is `0` if nothing is written. -/
def cacheScript (w : CacheWrite) (key : Option (Expiring UserSessionCacheEntry)) (now : Int) :
    Bool × Option (Expiring UserSessionCacheEntry) :=
  match read key now with
  | none =>
    if w.entry.version < 0 then (false, key) else (true, store w.entry w.expiry now)
  | some current =>
    if w.entry.status = .active ∧ current.status ≠ .active then (false, key)
    else if w.entry.version < current.version then (false, key)
    else (true, store w.entry w.expiry now)

/-- The test of `writeUserSessionCache` after the script of an active entry. -/
def completedWrite (sess : UserSession) (cacheDeadline now : Int) : Option SessionError :=
  if ¬ now < cacheDeadline then some .cacheObservationStale
  else if ¬ now < sess.expiresAt * second then some .inactive
  else none

/-- `getUserSessionCache` after its read: the entry, or whether it is inactive or of another form.
-/
def checkCacheEntry (sid : String) (entry : UserSessionCacheEntry) (now : Int) :
    Except SessionError UserSession :=
  if entry.cacheSchema ≠ userSessionCacheSchema ∨ entry.sid ≠ sid ∨ entry.userId ≤ 0 ∨
      entry.version ≤ 0 ∨ entry.userAuthVersion ≤ 0 then .error .invalid
  else if ¬ entry.session.Live (unix now) then .error .inactive
  else .ok entry.session

/-! ### Calls -/

structure RotateArgs where
  userId : Int
  sid : String
  presentedHash : String
  nextHash : String
  now : Int
  graceSeconds : Int
  deriving DecidableEq, Repr

structure AdvanceArgs where
  userId : Int
  sid : String
  expectedSessionVersion : Int
  expectedUserAuthVersion : Int
  nextUserAuthVersion : Int
  deriving DecidableEq, Repr

structure Revocation where
  now : Int
  reason : String
  deriving DecidableEq, Repr

structure BulkRevocation where
  userId : Int
  excludedSid : String
  revocation : Revocation
  total : Int
  deriving DecidableEq, Repr

inductive SessionCall
  | createUserSession (sess : UserSession)
  | getUserSessionCached (sid : String)
  | rotateUserSessionRefresh (a : RotateArgs)
  | revokeUserSession (userId : Int) (sid reason : String)
  | revokeUserSessionByRefreshHash (sid presentedHash reason : String)
  | advanceUserSessionAuthVersion (a : AdvanceArgs)
  | revokeUserSessions (userId : Int) (excludedSid reason : String)
  deriving DecidableEq, Repr

inductive SessionResult
  | created (sess : UserSession)
  | got (sess : UserSession)
  | rotated (sess : UserSession)
  /-- The digest is the previous one within its grace window. -/
  | refreshRace (sess : UserSession)
  | advanced (sess : UserSession)
  | revoked (done : Bool)
  | revokedSessions (total : Int)
  | failed (e : SessionError)
  deriving DecidableEq, Repr

inductive PublishCall
  | create
  | get
  | rotate
  | advance
  deriving DecidableEq, Repr

def PublishCall.result : PublishCall → UserSession → SessionResult
  | .create => .created
  | .get => .got
  | .rotate => .rotated
  | .advance => .advanced

inductive AfterDeny
  /-- `GetUserSessionCached` has read an inactive row. -/
  | inactive
  /-- The fence of `RevokeUserSession`. -/
  | revokeFence (r : Revocation) (userId : Int) (candidate : UserSession)
  /-- The fence of `RevokeUserSessionByRefreshHash`. -/
  | hashFence (r : Revocation) (sess : UserSession)
  /-- The fence of a digest that has been used again. -/
  | reuseFence (a : RotateArgs) (sess : UserSession)
  /-- A fence of a bulk revocation, with the candidates before and after it. -/
  | bulkFence (b : BulkRevocation) (sids : List String) (rest : List UserSession)
  /-- The tombstone of a revocation, with the result of the call. -/
  | tombstone (result : SessionResult)
  /-- A tombstone of a bulk revocation, with the sessions that are left. -/
  | bulkTombstone (b : BulkRevocation) (rest : List UserSession)
  deriving DecidableEq, Repr

inductive SessionThread
  | creating (sess : UserSession)
  | inserting (sess : UserSession) (due : Int)
  | publishing (call : PublishCall) (sess : UserSession) (due : Int)
  | writing (call : PublishCall) (sess : UserSession) (due : Int) (w : CacheWrite)
  | completing (call : PublishCall) (sess : UserSession) (due : Int)
  | confirming (call : PublishCall) (sess : UserSession)
  | readingCache (sid : String)
  | checkingEntry (sid : String) (entry : UserSessionCacheEntry)
  | capturing (sid : String)
  | readingRow (sid : String) (due : Int)
  | checkingRow (sess : UserSession) (due : Int)
  | denying (next : AfterDeny) (sess : UserSession)
  | denyWriting (next : AfterDeny) (w : CacheWrite)
  | revoking (userId : Int) (sid reason : String)
  | findingCandidate (r : Revocation) (userId : Int) (sid : String)
  | lockingCurrent (r : Revocation) (userId : Int) (candidate : UserSession)
  | updatingRevoked (r : Revocation) (sess : UserSession)
  | revokingByHash (sid presentedHash reason : String)
  | lockingByHash (r : Revocation) (sid presentedHash : String)
  | bulkRevoking (userId : Int) (excludedSid reason : String)
  | listing (b : BulkRevocation)
  | lockingBulk (b : BulkRevocation) (sids : List String)
  | updatingBulk (b : BulkRevocation) (db : List UserSession)
  | rotating (a : RotateArgs)
  | rotateCapturing (a : RotateArgs) (tries : ℕ)
  | rotateReading (a : RotateArgs) (tries : ℕ) (due : Int)
  | rotateUpdating (a : RotateArgs) (tries : ℕ) (sess : UserSession) (due : Int)
  | reuseUpdating (a : RotateArgs) (sess : UserSession)
  | advancing (a : AdvanceArgs)
  | advanceStarting (a : AdvanceArgs) (due : Int)
  | advanceReading (a : AdvanceArgs) (due now : Int)
  | advanceUpdating (a : AdvanceArgs) (sess : UserSession) (due : Int)
  | done (result : SessionResult)
  deriving DecidableEq, Repr

def SessionThread.fail (e : SessionError) : SessionThread := .done (.failed e)

/-- A call that begins. -/
def SessionCall.thread : SessionCall → SessionThread
  | .createUserSession sess => .creating sess
  | .getUserSessionCached sid => if sid = "" then .fail .invalid else .readingCache sid
  | .rotateUserSessionRefresh a =>
    if a.userId ≤ 0 ∨ a.sid = "" ∨ a.presentedHash = "" ∨ a.nextHash = "" ∨
        a.presentedHash = a.nextHash then .fail .invalid
    else if a.graceSeconds < 0 then .fail .invalid
    else .rotating a
  | .revokeUserSession userId sid reason =>
    if userId ≤ 0 ∨ sid = "" then .fail .invalid else .revoking userId sid reason
  | .revokeUserSessionByRefreshHash sid presentedHash reason =>
    if sid = "" ∨ presentedHash = "" then .fail .invalid
    else .revokingByHash sid presentedHash reason
  | .advanceUserSessionAuthVersion a =>
    if a.userId ≤ 0 ∨ a.sid = "" ∨ a.expectedSessionVersion ≤ 0 ∨ a.expectedUserAuthVersion ≤ 0 ∨
        a.nextUserAuthVersion ≤ a.expectedUserAuthVersion then .fail .invalid
    else .advancing a
  | .revokeUserSessions userId excludedSid reason =>
    if userId ≤ 0 then .fail .invalid else .bulkRevoking userId excludedSid reason

/-! ### Steps of a call -/

/-- What happens to a statement or a script: it runs, it runs but its caller gets an error, or it
does not run. -/
inductive SessionReply
  | ok
  | lost
  | unreachable
  deriving DecidableEq, Repr

/-- What a step does to the rows beyond the current call: a digest is rotated, or a session is
revoked. -/
inductive SessionEffect
  | rotated (sid presentedHash : String)
  | revoked (sid : String)
  deriving DecidableEq, Repr

abbrev SessionTable := Table UserSession.sid

abbrev SessionCache := String → Option (Expiring UserSessionCacheEntry)

/-- The outcome of a step: the rows and the keys, where the call stands, the sessions whose final
tombstone has been written, and the effects. -/
structure SessionOutcome where
  sessions : SessionTable
  cache : SessionCache
  thread : SessionThread
  dead : List String
  effects : List SessionEffect

section

variable (ttl clock : Int) (db : SessionTable) (cache : SessionCache)
  (ans : SessionReply)

def goto (t : SessionThread) : SessionOutcome := ⟨db, cache, t, [], []⟩

def query (t : SessionThread) : SessionOutcome :=
  match ans with
  | .ok => goto db cache t
  | .lost | .unreachable => goto db cache (.fail .database)

def mutate (db' : SessionTable) (effects : List SessionEffect) (t : SessionThread) :
    SessionOutcome :=
  match ans with
  | .ok => ⟨db', cache, t, [], effects⟩
  | .lost => ⟨db', cache, .fail .database, [], effects⟩
  | .unreachable => goto db cache (.fail .database)

/-- `createUserSessionWithTx`. -/
def insertSession (sess : UserSession) (due : Int) : SessionOutcome :=
  let now := unix clock
  if sess.sid = "" ∨ sess.userId ≤ 0 ∨ sess.userAuthVersion ≤ 0 ∨
      sess.refreshHash = "" ∨ sess.expiresAt ≤ now then goto db cache (.fail .invalid)
  else
    let sess := { sess with version := if sess.version ≤ 0 then 1 else sess.version }
    if sess.status ≠ .active ∨ sess.revokedAt ≠ 0 then goto db cache (.fail .invalid)
    else
      let sess := { sess with
        lastActiveAt := if sess.lastActiveAt = 0 then now else sess.lastActiveAt }
      -- the primary key
      if sess.sid ∈ db.keys then goto db cache (.fail .database)
      else mutate db cache ans (db.insert sess) []
        (.publishing .create sess due)

/-- Where a call that publishes goes on after an error of the write: a stale observation is
confirmed by the row, and an error of Redis is only logged unless the version has been advanced. -/
def afterWriteError (call : PublishCall) (sess : UserSession) : SessionError → SessionThread
  | .cacheObservationStale => .confirming call sess
  | .inactive => .fail .inactive
  | e => if call = .advance then .fail e else .done (call.result sess)

def publishScript (call : PublishCall) (sess : UserSession) (due : Int) (w : CacheWrite) :
    SessionOutcome :=
  let r := cacheScript w (cache w.entry.sid) (unixMilli clock)
  let cache' := Function.update cache w.entry.sid r.2
  match ans with
  | .ok => ⟨db, cache',
      if r.1 then .completing call sess due else .fail .inactive, [], []⟩
  | .lost => ⟨db, cache', afterWriteError call sess .redis, [], []⟩
  | .unreachable => goto db cache (afterWriteError call sess .redis)

/-- `confirmUserSessionActiveSnapshot`. -/
def confirmSnapshot (call : PublishCall) (sess : UserSession) : SessionOutcome :=
  if sess.sid = "" ∨ sess.userId ≤ 0 ∨ sess.version ≤ 0 ∨ sess.userAuthVersion ≤ 0 then
    goto db cache (.fail .invalid)
  else query db cache ans
    (if (db.find sess.sid).any fun row => row.userId = sess.userId ∧
        row.Live (unix clock) ∧ row.version = sess.version ∧
        row.userAuthVersion = sess.userAuthVersion then .done (call.result sess)
      else .fail .inactive)

/-- Where a call goes on after the write of a deny state, by the error of the write. A fence must be
written; a tombstone may fail. -/
def AfterDeny.thread (next : AfterDeny) (err : Option SessionError) : SessionThread :=
  match next, err with
  | .inactive, _ => .fail .inactive
  | .revokeFence _ _ _, some e | .hashFence _ _, some e | .reuseFence _ _, some e => .fail e
  | .bulkFence _ _ _, some e => .fail e
  | .revokeFence r userId candidate, none => .lockingCurrent r userId candidate
  | .hashFence r sess, none => .updatingRevoked r sess
  | .reuseFence a sess, none => .reuseUpdating a sess
  | .bulkFence b sids [], none => .lockingBulk b sids
  | .bulkFence b sids (candidate :: rest), none =>
    .denying (.bulkFence b (sids ++ [candidate.sid]) rest)
      (candidate.deny .revoking b.revocation.now b.revocation.reason)
  | .tombstone result, _ => .done result
  | .bulkTombstone b [], _ => .listing b
  | .bulkTombstone b (sess :: rest), _ =>
    .denying (.bulkTombstone b rest)
      (sess.deny .revoked b.revocation.now b.revocation.reason)

def AfterDeny.isFinal : AfterDeny → Bool
  | .tombstone _ | .bulkTombstone _ _ => true
  | .inactive | .revokeFence _ _ _ | .hashFence _ _ | .reuseFence _ _ | .bulkFence _ _ _ => false

def denyScript (next : AfterDeny) (w : CacheWrite) : SessionOutcome :=
  let r := cacheScript w (cache w.entry.sid) (unixMilli clock)
  let cache' := Function.update cache w.entry.sid r.2
  let dead := if next.isFinal ∧ r.1 then [w.entry.sid] else []
  match ans with
  | .ok => ⟨db, cache', next.thread (if r.1 then none else some .inactive), dead, []⟩
  | .lost => ⟨db, cache', next.thread (some .redis), dead, []⟩
  | .unreachable => goto db cache (next.thread (some .redis))

def findOwned (userId : Int) (sid : String) : Option UserSession :=
  (db.find sid).filter fun row => row.userId = userId

def revokeWhere (sids : List String) (r : Revocation) : SessionTable :=
  db.updateWhere (fun row => row.sid ∈ sids ∧ row.status = .active)
    (fun row => row.deny .revoked r.now r.reason) fun _ => rfl

def revokedWhere (sids : List String) : List String :=
  (db.rows.filter fun row => row.sid ∈ sids ∧ row.status = .active).map UserSession.sid

/-- The revoking update of `RevokeUserSession` and `RevokeUserSessionByRefreshHash`. -/
def updateRevoked (r : Revocation) (sess : UserSession) : SessionOutcome :=
  let affected := revokedWhere db [sess.sid]
  mutate db cache ans (revokeWhere db [sess.sid] r) (affected.map .revoked)
    (if affected = [] then .done (.revoked false)
      else .denying (.tombstone (.revoked true)) (sess.deny .revoked r.now r.reason))

/-- The locked read of `RevokeUserSessionByRefreshHash`, with its test of the digest. -/
def lockByHash (r : Revocation) (sid presentedHash : String) : SessionThread :=
  match db.find sid with
  | none => .done (.revoked false)
  | some sess =>
    if ¬ sess.Live r.now then .done (.revoked false)
    else
      let validCurrent := sess.refreshHash = presentedHash
      let validPrevious := sess.previousRefreshHash ≠ "" ∧ r.now ≤ sess.previousValidUntil ∧
        sess.previousRefreshHash = presentedHash
      if ¬ validCurrent ∧ ¬ validPrevious then .done (.revoked false)
      else .denying (.hashFence r sess) (sess.deny .revoking r.now r.reason)

/-- The candidates of a bulk revocation. -/
def bulkCandidates (b : BulkRevocation) : List UserSession :=
  ((db.rows.filter fun row => row.userId = b.userId ∧ row.status = .active ∧
    b.revocation.now < row.expiresAt ∧ (b.excludedSid ≠ "" → row.sid ≠ b.excludedSid)).insertionSort
      fun s s' => s.sid ≤ s'.sid).take userSessionRevokeBatchSize

/-- The update of a bulk revocation, which is followed by the tombstones of the locked rows. -/
def updateBulk (b : BulkRevocation) (revoked : List UserSession) : SessionOutcome :=
  let affected := revokedWhere db (revoked.map UserSession.sid)
  mutate db cache ans (revokeWhere db (revoked.map UserSession.sid) b.revocation)
    (affected.map .revoked)
    ((AfterDeny.bulkTombstone { b with total := b.total + affected.length } revoked).thread none)

/-- The read of `RotateUserSessionRefresh`, with what it decides. -/
def rotateRead (a : RotateArgs) (tries : ℕ) (due : Int) : SessionThread :=
  match findOwned db a.userId a.sid with
  | none => .fail .notFound
  | some sess =>
    if ¬ sess.Live a.now then .fail .inactive
    else if sess.refreshHash = a.presentedHash then .rotateUpdating a tries sess due
    else if sess.previousRefreshHash = "" ∨ sess.previousRefreshHash ≠ a.presentedHash then
      .fail .refreshInvalid
    else if a.now ≤ sess.previousValidUntil then .done (.refreshRace sess)
    else .denying (.reuseFence a sess) (sess.deny .revoking a.now "refresh_reuse")

def UserSession.rotate (s : UserSession) (a : RotateArgs) (previous : String) : UserSession :=
  { s with
    previousRefreshHash := previous
    previousValidUntil := a.now + a.graceSeconds
    refreshHash := a.nextHash
    lastActiveAt := a.now }

/-- The compare-and-swap of `RotateUserSessionRefresh`. -/
def rotateUpdate (a : RotateArgs) (tries : ℕ) (sess : UserSession) (due : Int) :
    SessionOutcome :=
  match (findOwned db a.userId a.sid).filter fun row =>
      row.Live a.now ∧ row.refreshHash = a.presentedHash with
  | none => query db cache ans (.rotateCapturing a tries)
  | some row =>
    mutate db cache ans (db.save (row.rotate a sess.refreshHash))
      [.rotated a.sid a.presentedHash]
      (.publishing .rotate (sess.rotate a sess.refreshHash) due)

/-- The update of `RotateUserSessionRefresh` for a digest that has been used again. -/
def reuseUpdate (a : RotateArgs) (sess : UserSession) : SessionOutcome :=
  match (findOwned db a.userId a.sid).filter fun row => row.Live a.now with
  | none => query db cache ans (.fail .inactive)
  | some row =>
    mutate db cache ans (db.save (row.deny .revoked a.now "refresh_reuse"))
      [.revoked a.sid]
      (.denying (.tombstone (.failed .refreshReuse))
        (sess.deny .revoked a.now "refresh_reuse"))

/-- The locked read of `AdvanceUserSessionAuthVersion`. -/
def advanceRead (a : AdvanceArgs) (due now : Int) : SessionThread :=
  match findOwned db a.userId a.sid with
  | none => .fail .notFound
  | some sess =>
    if sess.status ≠ .active ∨ sess.expiresAt ≤ now ∨
        sess.version ≠ a.expectedSessionVersion ∨
        sess.userAuthVersion ≠ a.expectedUserAuthVersion then .fail .inactive
    else .advanceUpdating a { sess with
      version := sess.version + 1
      userAuthVersion := a.nextUserAuthVersion
      lastActiveAt := now } due

/-- The update of `AdvanceUserSessionAuthVersion`. -/
def advanceUpdate (a : AdvanceArgs) (sess : UserSession) (due : Int) : SessionOutcome :=
  match (db.find a.sid).filter fun row => row.status = .active ∧
      row.version = a.expectedSessionVersion ∧ row.userAuthVersion = a.expectedUserAuthVersion with
  | none => query db cache ans (.fail .inactive)
  | some row =>
    mutate db cache ans
      (db.save { row with
        version := sess.version
        userAuthVersion := sess.userAuthVersion
        lastActiveAt := sess.lastActiveAt }) []
      (.publishing .advance sess due)

/-- **The next step of a call.** The reply matters where a statement or a script runs. -/
def SessionThread.exec : SessionThread → SessionOutcome
  | .creating sess =>
    goto db cache (.inserting sess (clock + ttl * second))
  | .inserting sess due => insertSession clock db cache ans sess due
  | .publishing call sess due =>
    goto db cache
      (match writeUserSessionCache ttl sess.cacheEntry (some due) clock with
      | .ok w => .writing call sess due w
      | .error e => afterWriteError call sess e)
  | .writing call sess due w =>
    publishScript clock db cache ans call sess due w
  | .completing call sess due =>
    goto db cache (match completedWrite sess due clock with
      | some e => afterWriteError call sess e
      | none => .done (call.result sess))
  | .confirming call sess => confirmSnapshot clock db cache ans call sess
  | .readingCache sid =>
    goto db cache (match ans, read (cache sid) (unixMilli clock) with
      | .ok, some entry => .checkingEntry sid entry
      | _, _ => .capturing sid)
  | .checkingEntry sid entry =>
    goto db cache (match checkCacheEntry sid entry clock with
      | .ok sess => .done (.got sess)
      | .error .inactive => .fail .inactive
      | .error _ => .capturing sid)
  | .capturing sid => goto db cache (.readingRow sid (clock + ttl * second))
  | .readingRow sid due =>
    query db cache ans (match db.find sid with
      | none => .fail .notFound
      | some sess => .checkingRow sess due)
  | .checkingRow sess due =>
    goto db cache (if sess.Live (unix clock) then .publishing .get sess due
      else .denying .inactive { sess with status := .revoked })
  | .denying next sess =>
    goto db cache
      (match writeUserSessionCache ttl sess.cacheEntry none clock with
      | .ok w => .denyWriting next w
      | .error e => next.thread (some e))
  | .denyWriting next w => denyScript clock db cache ans next w
  | .revoking userId sid reason =>
    goto db cache (.findingCandidate ⟨unix clock, reason⟩ userId sid)
  | .findingCandidate r userId sid =>
    query db cache ans (match findOwned db userId sid with
      | none => .done (.revoked false)
      | some candidate =>
        if ¬ candidate.Live r.now then .done (.revoked false)
        else .denying (.revokeFence r userId candidate)
          (candidate.deny .revoking r.now r.reason))
  | .lockingCurrent r userId candidate =>
    query db cache ans (match findOwned db userId candidate.sid with
      | none => .fail .notFound
      | some current =>
        if ¬ current.Live r.now then .done (.revoked false) else .updatingRevoked r candidate)
  | .updatingRevoked r sess => updateRevoked db cache ans r sess
  | .revokingByHash sid presentedHash reason =>
    goto db cache (.lockingByHash ⟨unix clock, reason⟩ sid presentedHash)
  | .lockingByHash r sid presentedHash =>
    query db cache ans (lockByHash db r sid presentedHash)
  | .bulkRevoking userId excludedSid reason =>
    goto db cache (.listing ⟨userId, excludedSid, ⟨unix clock, reason⟩, 0⟩)
  | .listing b =>
    query db cache ans (match bulkCandidates db b with
      | [] => .done (.revokedSessions b.total)
      | candidates => (AfterDeny.bulkFence b [] candidates).thread none)
  | .lockingBulk b sids =>
    query db cache ans
      (match db.rows.filter fun row => row.sid ∈ sids ∧ row.status = .active with
      | [] => .listing b
      | revoked => .updatingBulk b revoked)
  | .updatingBulk b revoked => updateBulk db cache ans b revoked
  | .rotating a =>
    goto db cache
      (.rotateCapturing { a with now := if a.now ≤ 0 then unix clock else a.now } 3)
  | .rotateCapturing _ 0 => goto db cache (.fail .refreshInvalid)
  | .rotateCapturing a (tries + 1) =>
    goto db cache (.rotateReading a tries (clock + ttl * second))
  | .rotateReading a tries due =>
    query db cache ans (rotateRead db a tries due)
  | .rotateUpdating a tries sess due =>
    rotateUpdate db cache ans a tries sess due
  | .reuseUpdating a sess => reuseUpdate db cache ans a sess
  | .advancing a => goto db cache (.advanceStarting a (clock + ttl * second))
  | .advanceStarting a due => goto db cache (.advanceReading a due (unix clock))
  | .advanceReading a due now =>
    query db cache ans (advanceRead db a due now)
  | .advanceUpdating a sess due =>
    advanceUpdate db cache ans a sess due
  | .done result => goto db cache (.done result)

end

/-! ### What a step does to the rows -/

inductive TableMove (db : SessionTable) (t : SessionThread) :
    SessionTable → List SessionEffect → Prop
  | same : TableMove db t db []
  | insert (sess : UserSession) (hnew : sess.sid ∉ db.keys)
      (ht : ∃ given due, t = .inserting given due ∧ sess.sid = given.sid ∧
        sess.refreshHash = given.refreshHash ∧
        sess.previousRefreshHash = given.previousRefreshHash ∧ 0 < sess.version) :
      TableMove db t (db.insert sess) []
  | rotate (a : RotateArgs) (tries : ℕ) (sess row : UserSession) (due : Int)
      (ht : t = .rotateUpdating a tries sess due)
      (hfind : db.find a.sid = some row) (hlive : row.Live a.now)
      (hhash : row.refreshHash = a.presentedHash) :
      TableMove db t (db.save (row.rotate a sess.refreshHash))
        [.rotated a.sid a.presentedHash]
  | advance (row row' : UserSession) (hfind : db.find row.sid = some row)
      (hrow : row' = { row with
        version := row'.version
        userAuthVersion := row'.userAuthVersion
        lastActiveAt := row'.lastActiveAt })
      (ht : ∃ a sess due, t = .advanceUpdating a sess due ∧ a.sid = row.sid) :
      TableMove db t (db.save row') []
  | revoke (sids : List String) (r : Revocation)
      (ht : (∃ sess, t = .updatingRevoked r sess ∧ sids = [sess.sid]) ∨
        ∃ b revoked, t = .updatingBulk b revoked ∧ b.revocation = r ∧
          sids = revoked.map UserSession.sid) :
      TableMove db t (revokeWhere db sids r)
        ((revokedWhere db sids).map .revoked)
  | reuse (a : RotateArgs) (sess row : UserSession) (ht : t = .reuseUpdating a sess)
      (hfind : db.find a.sid = some row) (hlive : row.Live a.now) :
      TableMove db t (db.save (row.deny .revoked a.now "refresh_reuse"))
        [.revoked a.sid]

section

variable {ttl clock : Int} {db : SessionTable} {cache : SessionCache}
  {ans : SessionReply}

theorem thread_query {P : SessionThread → Prop} (hfail : ∀ e, P (.fail e)) {t : SessionThread}
    (h : P t) : P (query db cache ans t).thread := by
  cases ans with
  | ok => exact h
  | _ => exact hfail .database

theorem findOwned_eq_some {userId : Int} {sid : String} {row : UserSession}
    (h : findOwned db userId sid = some row) :
    db.find sid = some row ∧ row.userId = userId := by
  obtain ⟨hfind, hown⟩ := filter_eq_some_iff.mp h
  exact ⟨hfind, of_decide_eq_true hown⟩

theorem tableMove_query (t t' : SessionThread) :
    TableMove db t (query db cache ans t').sessions
      (query db cache ans t').effects := by
  cases ans <;> exact .same

theorem tableMove_mutate {t t' : SessionThread} {db' : SessionTable}
    {effects : List SessionEffect} (h : TableMove db t db' effects) :
    TableMove db t (mutate db cache ans db' effects t').sessions
      (mutate db cache ans db' effects t').effects := by
  cases ans with
  | ok | lost => exact h
  | unreachable => exact .same

theorem tableMove_insertSession (sess : UserSession) (due : Int) :
    TableMove db (.inserting sess due)
      (insertSession clock db cache ans sess due).sessions
      (insertSession clock db cache ans sess due).effects := by
  fun_cases insertSession clock db cache ans sess due with
  | case4 now _ sess' _ _ hnew =>
    refine tableMove_mutate (.insert _ hnew ⟨sess, due, rfl, rfl, rfl, rfl, ?_⟩)
    change 0 < if sess.version ≤ 0 then 1 else sess.version
    split_ifs <;> omega
  | _ => exact .same

theorem tableMove_rotateUpdate (a : RotateArgs) (tries : ℕ) (sess : UserSession)
    (due : Int) :
    TableMove db (.rotateUpdating a tries sess due)
      (rotateUpdate db cache ans a tries sess due).sessions
      (rotateUpdate db cache ans a tries sess due).effects := by
  unfold rotateUpdate
  split
  · exact tableMove_query _ _
  rename_i row hrow
  obtain ⟨hown, hcond⟩ := filter_eq_some_iff.mp hrow
  obtain ⟨hlive, hhash⟩ := of_decide_eq_true hcond
  exact tableMove_mutate
    (.rotate a tries sess row due rfl (findOwned_eq_some hown).1 hlive hhash)

theorem tableMove_reuseUpdate (a : RotateArgs) (sess : UserSession) :
    TableMove db (.reuseUpdating a sess)
      (reuseUpdate db cache ans a sess).sessions
      (reuseUpdate db cache ans a sess).effects := by
  unfold reuseUpdate
  split
  · exact tableMove_query _ _
  rename_i row hrow
  obtain ⟨hown, hlive⟩ := filter_eq_some_iff.mp hrow
  exact tableMove_mutate
    (.reuse a sess row rfl (findOwned_eq_some hown).1 (of_decide_eq_true hlive))

theorem tableMove_advanceUpdate (a : AdvanceArgs) (sess : UserSession) (due : Int) :
    TableMove db (.advanceUpdating a sess due)
      (advanceUpdate db cache ans a sess due).sessions
      (advanceUpdate db cache ans a sess due).effects := by
  unfold advanceUpdate
  split
  · exact tableMove_query _ _
  rename_i row hrow
  obtain ⟨hfind, -⟩ := filter_eq_some_iff.mp hrow
  obtain ⟨-, hsid⟩ := Table.mem_of_find hfind
  rw [← hsid] at hfind
  exact tableMove_mutate (.advance row _ hfind rfl ⟨a, sess, due, rfl, hsid.symm⟩)

theorem tableMove_confirmSnapshot (t : SessionThread) (call : PublishCall) (sess : UserSession) :
    TableMove db t (confirmSnapshot clock db cache ans call sess).sessions
      (confirmSnapshot clock db cache ans call sess).effects := by
  unfold confirmSnapshot
  split
  · exact .same
  · exact tableMove_query _ _

/-- **What a step does to the rows.** -/
theorem tableMove_exec (t : SessionThread) :
    TableMove db t (t.exec ttl clock db cache ans).sessions
      (t.exec ttl clock db cache ans).effects := by
  cases t with
  | inserting sess due => exact tableMove_insertSession sess due
  | rotateUpdating a tries sess due => exact tableMove_rotateUpdate a tries sess due
  | reuseUpdating a sess => exact tableMove_reuseUpdate a sess
  | advanceUpdating a sess due => exact tableMove_advanceUpdate a sess due
  | updatingRevoked r sess =>
    exact tableMove_mutate (.revoke [sess.sid] r (.inl ⟨sess, rfl, rfl⟩))
  | updatingBulk b revoked =>
    exact tableMove_mutate
      (.revoke (revoked.map UserSession.sid) b.revocation (.inr ⟨b, revoked, rfl, rfl, rfl⟩))
  | writing call sess due w | denyWriting next w => cases ans <;> exact .same
  | confirming call sess => exact tableMove_confirmSnapshot _ call sess
  | rotateCapturing a tries => cases tries <;> exact .same
  | readingRow _ _ | findingCandidate _ _ _ | lockingCurrent _ _ _ | lockingByHash _ _ _ | listing _
  | lockingBulk _ _ | rotateReading _ _ _ | advanceReading _ _ _ => exact tableMove_query _ _
  | _ => exact .same

end

/-! ### Where a call goes on -/

def SessionThread.Plain : SessionThread → Prop
  | .completing _ _ _ | .confirming _ _ | .checkingEntry _ _ | .capturing _
  | .findingCandidate _ _ _
  | .listing _ | .lockingBulk _ _ | .done _ => True
  | _ => False

inductive ThreadMove (ttl clock : Int) (db : SessionTable) :
    SessionThread → SessionTable → List SessionEffect → SessionThread → Prop
  | plain {t t' : SessionThread} {db' : SessionTable} {effects : List SessionEffect}
      (h : t'.Plain) : ThreadMove ttl clock db t db' effects t'
  | create (sess : UserSession) : ThreadMove ttl clock db (.creating sess)
      db [] (.inserting sess (clock + ttl * second))
  | insert (given sess : UserSession) (due : Int) (hnew : sess.sid ∉ db.keys)
      (hstatus : sess.status = .active) :
      ThreadMove ttl clock db (.inserting given due) (db.insert sess) []
        (.publishing .create sess due)
  | publish {call : PublishCall} {sess : UserSession} {due : Int} {w : CacheWrite}
      (hw : writeUserSessionCache ttl sess.cacheEntry (some due) clock = .ok w) :
      ThreadMove ttl clock db (.publishing call sess due) db []
        (.writing call sess due w)
  | capture (sid : String) : ThreadMove ttl clock db (.capturing sid) db []
      (.readingRow sid (clock + ttl * second))
  | read {sid : String} {sess : UserSession} {due : Int}
      (hfind : db.find sid = some sess) :
      ThreadMove ttl clock db (.readingRow sid due) db []
        (.checkingRow sess due)
  | live {sess : UserSession} {due : Int} (hlive : sess.Live (unix clock)) :
      ThreadMove ttl clock db (.checkingRow sess due) db []
        (.publishing .get sess due)
  | inactive (sess : UserSession) (due : Int) :
      ThreadMove ttl clock db (.checkingRow sess due) db []
        (.denying .inactive { sess with status := .revoked })
  | deny {next : AfterDeny} {sess : UserSession} {w : CacheWrite}
      (hw : writeUserSessionCache ttl sess.cacheEntry none clock = .ok w) :
      ThreadMove ttl clock db (.denying next sess) db [] (.denyWriting next w)
  | undenied (next : AfterDeny) (sess : UserSession) (err : Option SessionError) :
      ThreadMove ttl clock db (.denying next sess) db [] (next.thread err)
  | denied (next : AfterDeny) (w : CacheWrite) (err : Option SessionError) :
      ThreadMove ttl clock db (.denyWriting next w) db [] (next.thread err)
  | candidate {r : Revocation} {userId : Int} {sid : String} {sess : UserSession}
      (hown : findOwned db userId sid = some sess) :
      ThreadMove ttl clock db (.findingCandidate r userId sid) db []
        (.denying (.revokeFence r userId sess) (sess.deny .revoking r.now r.reason))
  | lock (r : Revocation) (userId : Int) (sess : UserSession) :
      ThreadMove ttl clock db (.lockingCurrent r userId sess) db []
        (.updatingRevoked r sess)
  | revoke (r : Revocation) (sess : UserSession) {effects : List SessionEffect} :
      ThreadMove ttl clock db (.updatingRevoked r sess)
        (revokeWhere db [sess.sid] r) effects
        (.denying (.tombstone (.revoked true)) (sess.deny .revoked r.now r.reason))
  | beginByHash (r : Revocation) (sid presentedHash reason : String) :
      ThreadMove ttl clock db (.revokingByHash sid presentedHash reason) db []
        (.lockingByHash r sid presentedHash)
  | byHash {r : Revocation} {sid presentedHash : String} {sess : UserSession}
      (hfind : db.find sid = some sess) :
      ThreadMove ttl clock db (.lockingByHash r sid presentedHash) db []
        (.denying (.hashFence r sess) (sess.deny .revoking r.now r.reason))
  | list {b : BulkRevocation} {candidates : List UserSession}
      (h : candidates = bulkCandidates db b) :
      ThreadMove ttl clock db (.listing b) db []
        ((AfterDeny.bulkFence b [] candidates).thread none)
  | lockBulk {b : BulkRevocation} {sids : List String} {revoked : List UserSession}
      (h : ∀ row ∈ revoked, row ∈ db.rows) :
      ThreadMove ttl clock db (.lockingBulk b sids) db [] (.updatingBulk b revoked)
  | revokeBulk (b b' : BulkRevocation) (revoked : List UserSession) {effects : List SessionEffect} :
      ThreadMove ttl clock db (.updatingBulk b revoked)
        (revokeWhere db (revoked.map UserSession.sid) b.revocation) effects
        ((AfterDeny.bulkTombstone b' revoked).thread none)
  | rotate (a : RotateArgs) (now : Int) (tries : ℕ) :
      ThreadMove ttl clock db (.rotating a) db []
        (.rotateCapturing { a with now := now } tries)
  | rotateCapture (a : RotateArgs) (tries : ℕ) :
      ThreadMove ttl clock db (.rotateCapturing a (tries + 1)) db []
        (.rotateReading a tries (clock + ttl * second))
  | rotateRead {a : RotateArgs} {tries : ℕ} {due : Int} {sess : UserSession}
      (hown : findOwned db a.userId a.sid = some sess) (hlive : sess.Live a.now)
      (hhash : sess.refreshHash = a.presentedHash) :
      ThreadMove ttl clock db (.rotateReading a tries due) db []
        (.rotateUpdating a tries sess due)
  | reused {a : RotateArgs} {tries : ℕ} {due : Int} {sess : UserSession}
      (hown : findOwned db a.userId a.sid = some sess) :
      ThreadMove ttl clock db (.rotateReading a tries due) db []
        (.denying (.reuseFence a sess) (sess.deny .revoking a.now "refresh_reuse"))
  | rotateAgain (a : RotateArgs) (tries : ℕ) (sess : UserSession) (due : Int) :
      ThreadMove ttl clock db (.rotateUpdating a tries sess due) db []
        (.rotateCapturing a tries)
  | rotated {a : RotateArgs} {tries : ℕ} {sess row : UserSession} {due : Int}
      {effects : List SessionEffect} (hfind : db.find a.sid = some row)
      (hlive : row.Live a.now) :
      ThreadMove ttl clock db (.rotateUpdating a tries sess due)
        (db.save (row.rotate a sess.refreshHash)) effects
        (.publishing .rotate (sess.rotate a sess.refreshHash) due)
  | reuse {a : RotateArgs} {sess row : UserSession} {effects : List SessionEffect}
      (hfind : db.find a.sid = some row) :
      ThreadMove ttl clock db (.reuseUpdating a sess)
        (db.save (row.deny .revoked a.now "refresh_reuse")) effects
        (.denying (.tombstone (.failed .refreshReuse))
          (sess.deny .revoked a.now "refresh_reuse"))
  | advance (a : AdvanceArgs) : ThreadMove ttl clock db (.advancing a) db []
      (.advanceStarting a (clock + ttl * second))
  | advanceStart (a : AdvanceArgs) (due : Int) :
      ThreadMove ttl clock db (.advanceStarting a due) db []
        (.advanceReading a due (unix clock))
  | advanceRead {a : AdvanceArgs} {due now version userAuthVersion lastActiveAt : Int}
      {sess : UserSession} (hown : findOwned db a.userId a.sid = some sess)
      (hactive : sess.status = .active) :
      ThreadMove ttl clock db (.advanceReading a due now) db []
        (.advanceUpdating a { sess with
          version := version
          userAuthVersion := userAuthVersion
          lastActiveAt := lastActiveAt } due)
  | advanced {a : AdvanceArgs} {sess row : UserSession} {due : Int}
      (hfind : db.find a.sid = some row) (hactive : row.status = .active) :
      ThreadMove ttl clock db (.advanceUpdating a sess due)
        (db.save { row with
          version := sess.version
          userAuthVersion := sess.userAuthVersion
          lastActiveAt := sess.lastActiveAt }) []
        (.publishing .advance sess due)

open SessionThread

section

variable {ttl clock : Int} {db db' : SessionTable} {cache : SessionCache}
  {ans : SessionReply} {t t' : SessionThread} {effects : List SessionEffect}

theorem plain_afterWriteError (call : PublishCall) (sess : UserSession) (e : SessionError) :
    (afterWriteError call sess e).Plain := by
  fun_cases afterWriteError call sess e <;> trivial

theorem threadMove_query (h : ThreadMove ttl clock db t db [] t') :
    ThreadMove ttl clock db t (query db cache ans t').sessions
      (query db cache ans t').effects (query db cache ans t').thread := by
  cases ans with
  | ok => exact h
  | _ => exact .plain trivial

theorem threadMove_mutate (h : ThreadMove ttl clock db t db' effects t') :
    ThreadMove ttl clock db t (mutate db cache ans db' effects t').sessions
      (mutate db cache ans db' effects t').effects
      (mutate db cache ans db' effects t').thread := by
  cases ans with
  | ok => exact h
  | _ => exact .plain trivial

/-- **Where a call goes on.** -/
theorem threadMove_exec (t : SessionThread) :
    ThreadMove ttl clock db t (t.exec ttl clock db cache ans).sessions
      (t.exec ttl clock db cache ans).effects
      (t.exec ttl clock db cache ans).thread := by
  cases t with
  | creating sess => exact .create sess
  | inserting sess due =>
    rw [exec]
    fun_cases insertSession clock db cache ans sess due with
    | case4 now _ sess hstatus _ hnew =>
      exact threadMove_mutate (.insert _ _ due hnew (not_not.mp (not_or.mp hstatus).1))
    | _ => exact .plain trivial
  | publishing call sess due =>
    simp only [exec]
    split
    next w hw => exact .publish hw
    · exact .plain (plain_afterWriteError call sess _)
  | writing call sess due w =>
    cases ans with
    | ok =>
      simp only [exec, publishScript]
      split_ifs <;> exact .plain trivial
    | _ => exact .plain (plain_afterWriteError call sess .redis)
  | completing call sess due =>
    simp only [exec]
    split
    · exact .plain (plain_afterWriteError call sess _)
    · exact .plain trivial
  | confirming call sess =>
    simp only [exec, confirmSnapshot]
    split
    · exact .plain trivial
    · refine threadMove_query ?_
      split <;> exact .plain trivial
  | readingCache sid | checkingEntry sid entry =>
    simp only [exec]
    split <;> exact .plain trivial
  | capturing sid => exact .capture sid
  | readingRow sid due =>
    refine threadMove_query ?_
    split
    · exact .plain trivial
    next sess hfind => exact .read hfind
  | checkingRow sess due =>
    simp only [exec]
    split_ifs with hlive
    · exact .live hlive
    · exact .inactive sess due
  | denying next sess =>
    simp only [exec]
    split
    next w hw => exact .deny hw
    · exact .undenied next sess _
  | denyWriting next w => cases ans <;> exact .denied next w _
  | findingCandidate r userId sid =>
    refine threadMove_query ?_
    split
    · exact .plain trivial
    rename_i candidate hown
    split
    · exact .plain trivial
    · exact .candidate hown
  | lockingCurrent r userId candidate =>
    refine threadMove_query ?_
    split
    · exact .plain trivial
    · split
      · exact .plain trivial
      · exact .lock r userId candidate
  | updatingRevoked r sess =>
    refine threadMove_mutate ?_
    split_ifs
    · exact .plain trivial
    · exact .revoke r sess
  | revokingByHash sid presentedHash reason => exact .beginByHash _ sid presentedHash reason
  | lockingByHash r sid presentedHash =>
    refine threadMove_query ?_
    fun_cases lockByHash db r sid presentedHash with
    | case4 sess hfind => exact .byHash hfind
    | _ => exact .plain trivial
  | listing b =>
    refine threadMove_query ?_
    split
    · exact .plain trivial
    · exact .list rfl
  | lockingBulk b sids =>
    refine threadMove_query ?_
    split
    · exact .plain trivial
    · exact .lockBulk fun row hrow => mem_of_mem_filter hrow
  | updatingBulk b revoked => exact threadMove_mutate (.revokeBulk b _ revoked)
  | rotating a => exact .rotate a _ 3
  | rotateCapturing a tries =>
    cases tries with
    | zero => exact .plain trivial
    | succ tries => exact .rotateCapture a tries
  | rotateReading a tries due =>
    refine threadMove_query ?_
    fun_cases rotateRead db a tries due with
    | case3 sess hown hlive hhash => exact .rotateRead hown (not_not.mp hlive) hhash
    | case6 sess hown => exact .reused hown
    | _ => exact .plain trivial
  | rotateUpdating a tries sess due =>
    simp only [exec, rotateUpdate]
    split
    · exact threadMove_query (.rotateAgain a tries sess due)
    next row hrow =>
      obtain ⟨hown, hcond⟩ := filter_eq_some_iff.mp hrow
      exact threadMove_mutate (.rotated (findOwned_eq_some hown).1 (of_decide_eq_true hcond).1)
  | reuseUpdating a sess =>
    simp only [exec, reuseUpdate]
    split
    · exact threadMove_query (.plain trivial)
    next row hrow =>
      exact threadMove_mutate (.reuse (findOwned_eq_some (filter_eq_some_iff.mp hrow).1).1)
  | advancing a => exact .advance a
  | advanceStarting a due => exact .advanceStart a due
  | advanceReading a due now =>
    refine threadMove_query ?_
    fun_cases advanceRead db a due now with
    | case3 sess hown hcond => exact .advanceRead hown (not_not.mp (not_or.mp hcond).1)
    | _ => exact .plain trivial
  | advanceUpdating a sess due =>
    simp only [exec, advanceUpdate]
    split
    · exact threadMove_query (.plain trivial)
    next row hrow =>
      obtain ⟨hfind, hcond⟩ := filter_eq_some_iff.mp hrow
      exact threadMove_mutate (.advanced hfind (of_decide_eq_true hcond).1)
  | _ => exact .plain trivial

end

/-! ### The system -/

/-- The rows, the keys in Redis, the clock and the calls. The program does not keep the last two:
the sessions whose final tombstone has been written, and the effects with the calls they are of. -/
structure SessionState where
  clock : Int
  sessions : SessionTable
  cache : SessionCache
  pool : List SessionThread
  dead : List String
  log : List (ℕ × SessionEffect)

inductive SessionEvent
  | tick (span : ℕ)
  | call (c : SessionCall)
  | step (k : ℕ) (ans : SessionReply)
  deriving DecidableEq, Repr

def SessionState.after (s : SessionState) (k : ℕ) (o : SessionOutcome) : SessionState where
  clock := s.clock
  sessions := o.sessions
  cache := o.cache
  pool := s.pool.set k o.thread
  dead := s.dead ++ o.dead
  log := s.log ++ o.effects.map fun e => (k, e)

def sessionStep (ttl : Int) (s : SessionState) : SessionEvent → SessionState
  | .tick span => { s with clock := s.clock + span }
  | .call c => { s with pool := s.pool ++ [c.thread] }
  | .step k ans =>
    match s.pool[k]? with
    | none => s
    | some t => s.after k (t.exec ttl s.clock s.sessions s.cache ans)

section

variable {ttl : Int} {s : SessionState} {k : ℕ} {t : SessionThread}

theorem sessionStep_of_none {ans : SessionReply} (h : s.pool[k]? = none) :
    sessionStep ttl s (.step k ans) = s := by
  simp [sessionStep, h]

theorem sessionStep_of_some {ans : SessionReply} (h : s.pool[k]? = some t) :
    sessionStep ttl s (.step k ans) =
      s.after k (t.exec ttl s.clock s.sessions s.cache ans) := by
  simp [sessionStep, h]

theorem thread_sessionStep (h : s.pool[k]? = some t) (e : SessionEvent) :
    (sessionStep ttl s e).pool[k]? = some t ∨
      ∃ ans, e = .step k ans ∧ (sessionStep ttl s e).pool[k]? =
        some (t.exec ttl s.clock s.sessions s.cache ans).thread := by
  have hlt : k < s.pool.length := (List.getElem?_eq_some_iff.mp h).1
  cases e with
  | tick span => exact .inl h
  | call c =>
    refine .inl ?_
    change (s.pool ++ [c.thread])[k]? = some t
    rw [getElem?_append_left hlt, h]
  | step j ans =>
    rcases hj : s.pool[j]? with - | u
    · rw [sessionStep_of_none hj]
      exact .inl h
    rw [sessionStep_of_some hj]
    by_cases hjk : j = k
    · subst hjk
      rw [h] at hj
      cases hj
      exact .inr ⟨ans, rfl, getElem?_set_self hlt⟩
    · refine .inl ?_
      rw [← h]
      exact getElem?_set_ne hjk

end

def SessionState.start (clock : Int) (db : SessionTable) : SessionState where
  clock := clock
  sessions := db
  cache := fun _ => none
  pool := []
  dead := []
  log := []

end NewApi.Model
