import NewApi.Foundation.Pool
import NewApi.Foundation.Run
import NewApi.Model.UserSession

/-!
# Revoked sessions stay dead

A revocation writes a deny state into the cache before its commit and a tombstone after it. Both
expire. A fill of the cache may have read the row long before the revocation and may run long after
the tombstone is gone, but it carries a deadline from before its read and expires with it: the
tombstone outlives every such fill.

The comparison is made in the milliseconds of Redis. From the tombstone on, no active snapshot of
the session is newly read, so the deadlines of those under way are at most one cache lifetime after
the tombstone. Up to that moment, or up to the expiry of the session if that is earlier, a deny
state is in the cache. A fill that runs later finds its own expiry in the past and leaves no key.
-/

namespace NewApi.Model

open GoTime StepSystem List Table Function Expiring

/-! ### Rows that stay -/

def Stored (db : SessionTable) (sid : String) (expiresAt : Int) : Prop :=
  ∃ row, db.find sid = some row ∧ row.expiresAt = expiresAt

def Inactive (db : SessionTable) (sid : String) : Prop :=
  ∃ row, db.find sid = some row ∧ row.status ≠ .active

def Keeps (db db' : SessionTable) : Prop :=
  ∀ sid row, db.find sid = some row → ∃ row', db'.find sid = some row' ∧
    row'.expiresAt = row.expiresAt ∧ (row.status ≠ .active → row'.status ≠ .active)

variable {effects : List SessionEffect} {ttl : Int} {w : CacheWrite} {sess : UserSession}

section

variable {db db' : SessionTable} {sid : String} {expiresAt : Int}

theorem Keeps.refl (db : SessionTable) : Keeps db db :=
  fun _ row hrow => ⟨row, hrow, rfl, id⟩

theorem Stored.keeps (h : Stored db sid expiresAt) (hkeeps : Keeps db db') :
    Stored db' sid expiresAt := by
  obtain ⟨row, hrow, rfl⟩ := h
  obtain ⟨row', hrow', hexpires, -⟩ := hkeeps sid row hrow
  exact ⟨row', hrow', hexpires⟩

theorem Inactive.keeps (h : Inactive db sid) (hkeeps : Keeps db db') : Inactive db' sid := by
  obtain ⟨row, hrow, hstatus⟩ := h
  obtain ⟨row', hrow', -, hinactive⟩ := hkeeps sid row hrow
  exact ⟨row', hrow', hinactive hstatus⟩

theorem keeps_save (row row' : UserSession) (hfind : db.find row'.sid = some row)
    (hexpires : row'.expiresAt = row.expiresAt)
    (hstatus : row.status ≠ .active → row'.status ≠ .active) :
    Keeps db (db.save row') := by
  intro sid r hr
  by_cases hsid : sid = row'.sid
  · subst hsid
    rw [hfind] at hr
    obtain rfl := Option.some.inj hr
    exact ⟨row', find_save_of_find hfind rfl, hexpires, hstatus⟩
  · exact ⟨r, by rw [find_save_of_ne hsid]; exact hr, rfl, id⟩

theorem find_revokeWhere (sids : List String) (r : Revocation) (sid : String) :
    (revokeWhere db sids r).find sid = (db.find sid).map fun row =>
      if row.sid ∈ sids ∧ row.status = .active then row.deny .revoked r.now r.reason else row :=
  find_mapRows (fun _ => by split_ifs <;> rfl) sid

theorem keeps_revokeWhere (sids : List String) (r : Revocation) :
    Keeps db (revokeWhere db sids r) := by
  intro sid row hrow
  rw [find_revokeWhere, hrow]
  refine ⟨_, rfl, ?_, ?_⟩
  · dsimp only
    split_ifs <;> rfl
  intro hstatus
  dsimp only
  split_ifs with hcond
  · exact absurd hcond.2 hstatus
  · exact hstatus

theorem inactive_revokeWhere {sids : List String} (r : Revocation) (hsid : sid ∈ sids)
    (hstored : Stored db sid expiresAt) : Inactive (revokeWhere db sids r) sid := by
  obtain ⟨row, hrow, -⟩ := hstored
  obtain ⟨-, hkey⟩ := mem_of_find hrow
  refine ⟨_, by rw [find_revokeWhere, hrow]; rfl, ?_⟩
  dsimp only
  split_ifs with hcond
  · exact nofun
  · intro hactive
    exact hcond ⟨hkey ▸ hsid, hactive⟩

/-- **Every step keeps the rows.** -/
theorem TableMove.keeps {t : SessionThread} (h : TableMove db t db' effects) : Keeps db db' := by
  cases h with
  | same => exact .refl db
  | insert sess hnew _ =>
    exact fun sid row hrow => ⟨row, find_insert_of_find hrow, rfl, id⟩
  | rotate a tries sess row due _ hfind _ _ =>
    obtain ⟨-, hsid⟩ := mem_of_find hfind
    rw [← hsid] at hfind
    exact keeps_save row _ hfind rfl id
  | advance row row' hfind hrow _ =>
    have hsid : row'.sid = row.sid := by rw [hrow]
    have hexpires : row'.expiresAt = row.expiresAt := by rw [hrow]
    have hstatus : row'.status = row.status := by rw [hrow]
    refine keeps_save row row' ?_ hexpires ?_
    · rw [hsid]
      exact hfind
    · rw [hstatus]
      exact id
  | revoke sids r _ => exact keeps_revokeWhere sids r
  | reuse a sess row _ hfind _ =>
    obtain ⟨-, hsid⟩ := mem_of_find hfind
    rw [← hsid] at hfind
    exact keeps_save row _ hfind rfl fun _ => nofun

theorem keeps_exec {clock : Int} {cache : SessionCache} {ans : SessionReply} (t : SessionThread) :
    Keeps db (t.exec ttl clock db cache ans).sessions :=
  (tableMove_exec t).keeps

end

/-! ### Writes that have been prepared -/

def ActiveWrite (sess : UserSession) (due : Int) (w : CacheWrite) : Prop :=
  w.entry = sess.cacheEntry ∧ ∃ m, w.expiry = .at m ∧ m ≤ unixMilli due ∧
    m ≤ sess.expiresAt * 1000

/-- A deny write lasts for a cache lifetime, or up to the last millisecond of its session as counted
when it was prepared. -/
def DenyWrite (ttl clock : Int) (w : CacheWrite) : Prop :=
  w.entry.status ≠ .active ∧ ∃ m prepared, w.expiry = .after m ∧ 0 < m ∧ prepared ≤ clock ∧
    (ttl * 1000 ≤ m ∨ w.entry.expiresAt * 1000 - 1 - unixMilli prepared ≤ m)

theorem activeWrite_of_ok {due now : Int} (hactive : sess.status = .active)
    (h : writeUserSessionCache ttl sess.cacheEntry (some due) now = .ok w) :
    ActiveWrite sess due w := by
  have hstatus : sess.cacheEntry.status = .active := hactive
  simp only [writeUserSessionCache] at h
  split_ifs at h
  cases h
  refine ⟨rfl, _, rfl, unixMilli_mono (min_le_left _ _), ?_⟩
  rw [← unixMilli_seconds]
  exact unixMilli_mono (min_le_right _ _)

theorem denyWrite_of_ok {now : Int} {due : Option Int} (hdeny : sess.status ≠ .active)
    (h : writeUserSessionCache ttl sess.cacheEntry due now = .ok w) :
    DenyWrite ttl now w ∧ w.entry = sess.cacheEntry := by
  have hstatus : sess.cacheEntry.status ≠ .active := hdeny
  simp only [writeUserSessionCache, if_neg hstatus] at h
  cases h
  refine ⟨⟨hstatus, _, now, rfl, ?_, le_rfl, ?_⟩, rfl⟩
  · split_ifs <;> omega
  · have hspan := unixMilli_sub_seconds_ge sess.expiresAt now
    simp only [unixMilli, millisecond, second] at hspan ⊢
    split_ifs <;> omega

theorem DenyWrite.mono {clock clock' : Int} (h : DenyWrite ttl clock w)
    (hclock : clock ≤ clock') : DenyWrite ttl clock' w := by
  obtain ⟨hstatus, m, prepared, hexpiry, hpos, hprepared, hlasts⟩ := h
  exact ⟨hstatus, m, prepared, hexpiry, hpos, hprepared.trans hclock, hlasts⟩

/-! ### What a call knows -/

def AfterDeny.Sound (db : SessionTable) : AfterDeny → Prop
  | .inactive | .tombstone _ => True
  | .revokeFence _ _ s | .hashFence _ s => Stored db s.sid s.expiresAt
  | .reuseFence a s => Stored db s.sid s.expiresAt ∧ s.sid = a.sid
  | .bulkFence _ _ rest => ∀ s ∈ rest, Stored db s.sid s.expiresAt
  | .bulkTombstone _ rest =>
    ∀ s ∈ rest, Stored db s.sid s.expiresAt ∧ Inactive db s.sid

/-- What a call knows at each point: its deadline is at most a cache lifetime ahead, its snapshots
are of stored rows, and the row of a final tombstone is not active. -/
def SessionThread.Sound (ttl clock : Int) (db : SessionTable) : SessionThread → Prop
  | .inserting _ d | .readingRow _ d | .rotateReading _ _ d | .advanceStarting _ d
  | .advanceReading _ d _ => d ≤ clock + ttl * second
  | .publishing _ s d => d ≤ clock + ttl * second ∧ s.status = .active ∧
      Stored db s.sid s.expiresAt
  | .writing _ s d w => d ≤ clock + ttl * second ∧ s.status = .active ∧
      Stored db s.sid s.expiresAt ∧ ActiveWrite s d w
  | .checkingRow s d => d ≤ clock + ttl * second ∧ Stored db s.sid s.expiresAt
  | .rotateUpdating a _ s d => d ≤ clock + ttl * second ∧ s.sid = a.sid ∧
      s.status = .active ∧ Stored db s.sid s.expiresAt
  | .advanceUpdating a s d => d ≤ clock + ttl * second ∧ s.sid = a.sid ∧
      s.status = .active ∧ Stored db s.sid s.expiresAt
  | .denying next s => s.status ≠ .active ∧ Stored db s.sid s.expiresAt ∧
      (next.isFinal = true → Inactive db s.sid) ∧ next.Sound db
  | .denyWriting next w => DenyWrite ttl clock w ∧
      Stored db w.entry.sid w.entry.expiresAt ∧
      (next.isFinal = true → Inactive db w.entry.sid) ∧ next.Sound db
  | .lockingCurrent _ _ s | .updatingRevoked _ s => Stored db s.sid s.expiresAt
  | .reuseUpdating a s => Stored db s.sid s.expiresAt ∧ s.sid = a.sid
  | .updatingBulk _ l => ∀ s ∈ l, Stored db s.sid s.expiresAt
  | .creating _ | .completing _ _ _ | .confirming _ _ | .readingCache _ | .checkingEntry _ _
  | .capturing _ | .revoking _ _ _ | .findingCandidate _ _ _ | .revokingByHash _ _ _
  | .lockingByHash _ _ _ | .bulkRevoking _ _ _ | .listing _ | .lockingBulk _ _ | .rotating _
  | .rotateCapturing _ _ | .advancing _ | .done _ => True

section

variable {ttl clock : Int} {db db' : SessionTable} {cache : SessionCache}
  {ans : SessionReply} {t : SessionThread} {next : AfterDeny}

theorem AfterDeny.Sound.keeps (h : next.Sound db) (hkeeps : Keeps db db') :
    next.Sound db' := by
  cases next with
  | inactive | tombstone result => trivial
  | revokeFence r userId s | hashFence r s => exact Stored.keeps h hkeeps
  | reuseFence a s => exact ⟨h.1.keeps hkeeps, h.2⟩
  | bulkFence b sids rest => exact fun s hs => (h s hs).keeps hkeeps
  | bulkTombstone b rest => exact fun s hs => ⟨(h s hs).1.keeps hkeeps, (h s hs).2.keeps hkeeps⟩

theorem SessionThread.Sound.mono {clock' : Int} (h : t.Sound ttl clock db)
    (hclock : clock ≤ clock') (hkeeps : Keeps db db') :
    t.Sound ttl clock' db' := by
  have hdeadline (d : Int) (hd : d ≤ clock + ttl * second) : d ≤ clock' + ttl * second := by omega
  cases t with
  | inserting s d | readingRow sid d | rotateReading a tries d | advanceStarting a d
  | advanceReading a d now => exact hdeadline d h
  | publishing call s d => exact ⟨hdeadline d h.1, h.2.1, h.2.2.keeps hkeeps⟩
  | writing call s d w => exact ⟨hdeadline d h.1, h.2.1, h.2.2.1.keeps hkeeps, h.2.2.2⟩
  | checkingRow s d => exact ⟨hdeadline d h.1, h.2.keeps hkeeps⟩
  | rotateUpdating a tries s d =>
    exact ⟨hdeadline d h.1, h.2.1, h.2.2.1, h.2.2.2.keeps hkeeps⟩
  | advanceUpdating a s d => exact ⟨hdeadline d h.1, h.2.1, h.2.2.1, h.2.2.2.keeps hkeeps⟩
  | denying next s =>
    exact ⟨h.1, h.2.1.keeps hkeeps, fun hf => (h.2.2.1 hf).keeps hkeeps, h.2.2.2.keeps hkeeps⟩
  | denyWriting next w =>
    exact ⟨h.1.mono hclock, h.2.1.keeps hkeeps, fun hf => (h.2.2.1 hf).keeps hkeeps,
      h.2.2.2.keeps hkeeps⟩
  | lockingCurrent r userId s | updatingRevoked r s => exact Stored.keeps h hkeeps
  | reuseUpdating a s => exact ⟨h.1.keeps hkeeps, h.2⟩
  | updatingBulk b l => exact fun s hs => (h s hs).keeps hkeeps
  | _ => trivial

theorem sound_sessionCall (call : SessionCall) : call.thread.Sound ttl clock db := by
  cases call with
  | createUserSession sess => trivial
  | _ =>
    simp only [SessionCall.thread]
    split_ifs <;> trivial

theorem SessionThread.Plain.sound (h : t.Plain) : t.Sound ttl clock db := by
  cases t <;> trivial

theorem sound_afterDeny (h : next.Sound db) (err : Option SessionError) :
    (next.thread err).Sound ttl clock db := by
  cases next with
  | inactive | tombstone _ => trivial
  | bulkFence b sids rest =>
    cases err with
    | none =>
      cases rest with
      | nil => trivial
      | cons s rest =>
        exact ⟨nofun, h s mem_cons_self, nofun, fun s' hs' => h s' (mem_cons_of_mem s hs')⟩
    | some e => cases rest <;> trivial
  | bulkTombstone b rest =>
    cases rest with
    | nil => trivial
    | cons s rest =>
      have hs := h s mem_cons_self
      exact ⟨nofun, hs.1, fun _ => hs.2, fun s' hs' => h s' (mem_cons_of_mem s hs')⟩
  | _ =>
    cases err with
    | none => exact h
    | some e => trivial

variable {s : UserSession}

theorem stored_of_find {sid : String} (h : db.find sid = some s) : Stored db s.sid s.expiresAt := by
  obtain ⟨-, rfl⟩ := mem_of_find h
  exact ⟨s, h, rfl⟩

theorem stored_of_mem (h : s ∈ db.rows) : Stored db s.sid s.expiresAt :=
  ⟨s, find_of_mem h, rfl⟩

theorem stored_insert (h : s.sid ∉ db.keys) : Stored (db.insert s) s.sid s.expiresAt := by
  exact stored_of_mem ((mem_insert h).mpr (.inl rfl))

theorem sound_deny {status : SessionStatus} {now : Int} {reason : String}
    (hstatus : status ≠ .active) (hfinal : next.isFinal = false)
    (hstored : Stored db s.sid s.expiresAt) (hnext : next.Sound db) :
    (SessionThread.denying next (s.deny status now reason)).Sound ttl clock db :=
  ⟨hstatus, hstored, fun h => absurd (hfinal.symm.trans h) Bool.false_ne_true, hnext⟩

/-- **A step keeps what its call knows.** -/
theorem ThreadMove.sound {t' : SessionThread} (hmove : ThreadMove ttl clock db t db' effects t')
    (h : t.Sound ttl clock db) : t'.Sound ttl clock db' := by
  cases hmove with
  | plain hplain => exact hplain.sound
  | create _ | capture _ | rotateCapture _ _ | advance _ => exact le_rfl
  | insert given sess due hnew hstatus => exact ⟨h, hstatus, stored_insert hnew⟩
  | publish hw => exact ⟨h.1, h.2.1, h.2.2, activeWrite_of_ok h.2.1 hw⟩
  | read hfind => exact ⟨h, stored_of_find hfind⟩
  | live hlive => exact ⟨h.1, hlive.1, h.2⟩
  | inactive sess due => exact ⟨nofun, h.2, nofun, trivial⟩
  | deny hw =>
    obtain ⟨hdeny, hstored, hfinal, hnext⟩ := h
    obtain ⟨hwrite, hentry⟩ := denyWrite_of_ok hdeny hw
    refine ⟨hwrite, ?_, ?_, hnext⟩ <;> rw [hentry]
    · exact hstored
    · exact hfinal
  | undenied next _ err | denied next _ err => exact sound_afterDeny h.2.2.2 err
  | candidate hown =>
    have hstored := stored_of_find (findOwned_eq_some hown).1
    exact sound_deny nofun rfl hstored hstored
  | lock r userId sess | advanceStart a due => exact h
  | revoke r sess =>
    have hstored : Stored db sess.sid sess.expiresAt := h
    exact ⟨nofun, hstored.keeps (keeps_revokeWhere _ r),
      fun _ => inactive_revokeWhere r mem_cons_self hstored, trivial⟩
  | byHash hfind => exact sound_deny nofun rfl (stored_of_find hfind) (stored_of_find hfind)
  | list hcandidates =>
    refine sound_afterDeny ?_ none
    intro s hs
    rw [hcandidates] at hs
    have hsorted := mem_of_mem_take hs
    rw [mem_insertionSort] at hsorted
    exact stored_of_mem (mem_of_mem_filter hsorted)
  | lockBulk hrevoked => exact fun s hs => stored_of_mem (hrevoked s hs)
  | revokeBulk b b' revoked =>
    refine sound_afterDeny ?_ none
    intro s hs
    exact ⟨(h s hs).keeps (keeps_revokeWhere _ _),
      inactive_revokeWhere _ (mem_map_of_mem hs) (h s hs)⟩
  | rotateRead hown hlive hhash =>
    have hfind := (findOwned_eq_some hown).1
    exact ⟨h, (mem_of_find hfind).2, hlive.1, stored_of_find hfind⟩
  | reused hown =>
    have hfind := (findOwned_eq_some hown).1
    exact sound_deny nofun rfl (stored_of_find hfind) ⟨stored_of_find hfind, (mem_of_find hfind).2⟩
  | rotated hfind hlive | advanced hfind hactive =>
    rw [← (mem_of_find hfind).2] at hfind
    exact ⟨h.1, h.2.2.1, h.2.2.2.keeps (keeps_save _ _ hfind rfl id)⟩
  | @reuse a sess row _ hfind =>
    obtain ⟨hstored, hsid⟩ := h
    have hkey : row.sid = a.sid := (mem_of_find hfind).2
    have hfind' : db.find row.sid = some row := hkey ▸ hfind
    refine ⟨nofun, hstored.keeps (keeps_save row _ hfind' rfl fun _ => nofun),
      fun _ => ⟨row.deny .revoked a.now "refresh_reuse", ?_, nofun⟩, trivial⟩
    change find _ sess.sid = _
    rw [hsid]
    exact find_save_of_find hfind hkey
  | @advanceRead _ _ _ _ _ _ sess hown hactive =>
    have hfind := (findOwned_eq_some hown).1
    have hstored : Stored db sess.sid sess.expiresAt := stored_of_find hfind
    exact ⟨h, (mem_of_find hfind).2, hactive, hstored⟩
  | _ => trivial

theorem sound_exec (h : t.Sound ttl clock db) :
    (t.exec ttl clock db cache ans).thread.Sound ttl clock
      (t.exec ttl clock db cache ans).sessions :=
  (threadMove_exec t).sound h

end

/-! ### A session that is dead in the cache -/

/-- The last millisecond at which a deny state is needed: no active snapshot from before the
tombstone at `since` expires later, nor does the session. -/
def graveEnd (ttl since expiresAt : Int) : Int :=
  min (unixMilli since + ttl * 1000) (expiresAt * 1000 - 1)

/-- The key of the session holds no active state, and up to `graveEnd` it holds a deny state. -/
structure Tombstoned (ttl since expiresAt clock : Int)
    (key : Option (Expiring UserSessionCacheEntry)) : Prop where
  deny : ∀ e, key = some e → e.value.status ≠ .active
  lasts : unixMilli clock ≤ graveEnd ttl since expiresAt →
    ∃ e, key = some e ∧ graveEnd ttl since expiresAt ≤ e.expireAt

section

variable {ttl since expiresAt clock : Int} {key : Option (Expiring UserSessionCacheEntry)}
  {w : CacheWrite}

section

variable (h : Tombstoned ttl since expiresAt clock key)
include h

theorem Tombstoned.mono {clock' : Int}
    (hclock : clock ≤ clock') : Tombstoned ttl since expiresAt clock' key :=
  ⟨h.deny, fun hle => h.lasts ((unixMilli_mono hclock).trans hle)⟩

theorem Tombstoned.read
    {entry : UserSessionCacheEntry} {now : Int} (hread : Expiring.read key now = some entry) :
    entry.status ≠ .active := by
  obtain ⟨e, hkey, rfl, -⟩ := read_eq_some.mp hread
  exact h.deny e hkey

end

theorem cacheScript_cases (w : CacheWrite) (key : Option (Expiring UserSessionCacheEntry))
    (now : Int) :
    (cacheScript w key now = (false, key)) ∨
      cacheScript w key now = (true, store w.entry w.expiry now) ∧ (w.entry.status = .active →
          ∀ entry, Expiring.read key now = some entry → entry.status = .active) := by
  unfold cacheScript
  rcases hread : Expiring.read key now with - | current
  · split_ifs
    · exact .inl rfl
    · exact .inr ⟨rfl, fun _ _ h => by cases h⟩
  dsimp only
  split_ifs with hdenied
  · exact .inl rfl
  · exact .inl rfl
  refine .inr ⟨rfl, fun hactive entry h => ?_⟩
  cases h
  by_contra hne
  exact hdenied ⟨hactive, hne⟩

/-- **A late fill leaves no key.** Its deadline is from before the tombstone. -/
theorem Tombstoned.publish {due : Int} (h : Tombstoned ttl since expiresAt clock key)
    (hactive : sess.status = .active) (hexpires : sess.expiresAt = expiresAt)
    (hdeadline : due ≤ since + ttl * second) (hw : ActiveWrite sess due w) :
    Tombstoned ttl since expiresAt clock (cacheScript w key (unixMilli clock)).2 := by
  obtain ⟨hentry, m, hexpiry, hm, hmsession⟩ := hw
  rcases cacheScript_cases w key (unixMilli clock) with hscript | ⟨hscript, hread⟩ <;> rw [hscript]
  · exact h
  have hstatus : w.entry.status = .active := by
    rw [hentry]
    exact hactive
  have hlate : graveEnd ttl since expiresAt < unixMilli clock := by
    by_contra hle
    obtain ⟨e, hkey, hlast⟩ := h.lasts (not_lt.mp hle)
    have hcurrent : Expiring.read key (unixMilli clock) = some e.value :=
      read_eq_some.mpr ⟨e, hkey, rfl, (not_lt.mp hle).trans hlast⟩
    exact h.deny e hkey (hread hstatus e.value hcurrent)
  have hbound : m ≤ unixMilli since + ttl * 1000 := by
    rw [← unixMilli_add_seconds]
    exact hm.trans (unixMilli_mono hdeadline)
  have hgone : w.expiry.time (unixMilli clock) ≤ unixMilli clock := by
    rw [hexpiry]
    change m ≤ _
    unfold graveEnd at hlate
    omega
  rw [store_eq_none hgone]
  refine ⟨fun e he => ?_, fun hle => ?_⟩
  · cases he
  · omega

theorem DenyWrite.tombstoned (hw : DenyWrite ttl clock w) (hsince : since ≤ clock)
    (hexpires : w.entry.expiresAt = expiresAt) :
    Tombstoned ttl since expiresAt clock (store w.entry w.expiry (unixMilli clock)) := by
  obtain ⟨hstatus, m, prepared, hexpiry, hpos, hprepared, hlasts⟩ := hw
  have htime : w.expiry.time (unixMilli clock) = unixMilli clock + m := by
    rw [hexpiry]
    rfl
  rw [store_of_lt (by omega)]
  refine ⟨fun e he => ?_, fun _ => ⟨_, rfl, ?_⟩⟩
  · cases he
    exact hstatus
  have hmono := unixMilli_mono hsince
  have hmono' := unixMilli_mono hprepared
  unfold graveEnd
  dsimp only
  omega

/-- **A deny write** keeps the session dead. -/
theorem Tombstoned.denyWrite (h : Tombstoned ttl since expiresAt clock key)
    (hw : DenyWrite ttl clock w) (hsince : since ≤ clock)
    (hexpires : w.entry.expiresAt = expiresAt) :
    Tombstoned ttl since expiresAt clock (cacheScript w key (unixMilli clock)).2 := by
  rcases cacheScript_cases w key (unixMilli clock) with hscript | ⟨hscript, -⟩ <;> rw [hscript]
  · exact h
  · exact hw.tombstoned hsince hexpires

end

/-! ### The whole system -/

/-- The deadline of an active snapshot of the session is from before the tombstone. -/
def SessionThread.Bounded (ttl since : Int) (sid : String) : SessionThread → Prop
  | .publishing _ s d | .writing _ s d _ => s.sid = sid → d ≤ since + ttl * second
  | .checkingRow s d => s.sid = sid → s.status = .active → d ≤ since + ttl * second
  | _ => True

structure DeadInv (ttl since expiresAt : Int) (sid : String) (s : SessionState) : Prop where
  since_le : since ≤ s.clock
  row : Inactive s.sessions sid
  stored : Stored s.sessions sid expiresAt
  bounded : ∀ t ∈ s.pool, t.Bounded ttl since sid
  key : Tombstoned ttl since expiresAt s.clock (s.cache sid)

/-- Every call knows what it should, and every session with a final tombstone is dead. -/
structure RevocationInv (ttl : Int) (s : SessionState) : Prop where
  sound : ∀ t ∈ s.pool, t.Sound ttl s.clock s.sessions
  dead : ∀ sid ∈ s.dead, ∃ since expiresAt, DeadInv ttl since expiresAt sid s

open SessionThread

section

variable {ttl since expiresAt clock : Int} {sid : String} {db : SessionTable}
  {cache : SessionCache} {ans : SessionReply} {t : SessionThread} {s : SessionState}

theorem Stored.expires_eq {e e' : Int} (h : Stored db sid e) (h' : Stored db sid e') : e = e' := by
  obtain ⟨row, hrow, rfl⟩ := h
  obtain ⟨row', hrow', rfl⟩ := h'
  rw [hrow] at hrow'
  cases hrow'
  rfl

theorem SessionThread.Plain.bounded (h : t.Plain) : t.Bounded ttl since sid := by
  cases t <;> trivial

theorem bounded_afterDeny (next : AfterDeny) (err : Option SessionError) :
    (next.thread err).Bounded ttl since sid := by
  fun_cases AfterDeny.thread next err <;> trivial

theorem SessionThread.Sound.bounded (h : t.Sound ttl clock db) : t.Bounded ttl clock sid := by
  cases t with
  | publishing call s d | writing call s d w => exact fun _ => h.1
  | checkingRow s d => exact fun _ _ => h.1
  | _ => trivial

/-- **No active snapshot of a dead session is newly read.** -/
theorem ThreadMove.bounded {db' : SessionTable} {t' : SessionThread}
    (hmove : ThreadMove ttl clock db t db' effects t')
    (hsound : t.Sound ttl clock db) (h : t.Bounded ttl since sid)
    (hdead : Inactive db sid) : t'.Bounded ttl since sid := by
  obtain ⟨row, hrow, hstatus⟩ := hdead
  -- a row that is active is not that of the dead session
  have hlive {sid' : String} {r : UserSession} (hfind : db.find sid' = some r)
      (hactive : r.status = .active) : sid' ≠ sid := by
    rintro rfl
    rw [hrow] at hfind
    cases hfind
    exact hstatus hactive
  cases hmove with
  | plain hplain => exact hplain.bounded
  | insert given sess due hnew _ =>
    rintro rfl
    exact absurd (mem_keys_of_find hrow) hnew
  | publish hw => exact h
  | read hfind =>
    intro hsid hactive
    exact absurd ((mem_of_find hfind).2.symm.trans hsid) (hlive hfind hactive)
  | live hlive => exact fun hsid => h hsid hlive.1
  | undenied next _ err | denied next _ err => exact bounded_afterDeny next err
  | list _ | revokeBulk _ _ _ => exact bounded_afterDeny _ none
  | rotated hfind hlive' =>
    exact fun hsid => absurd (hsound.2.1.symm.trans hsid) (hlive hfind hlive'.1)
  | advanced hfind hactive =>
    exact fun hsid => absurd (hsound.2.1.symm.trans hsid) (hlive hfind hactive)
  | _ => trivial

def runScript (clock : Int) (cache : SessionCache) (w : CacheWrite) : SessionCache :=
  Function.update cache w.entry.sid (cacheScript w (cache w.entry.sid) (unixMilli clock)).2

/-- **What a step does to the keys**, with the final tombstones it writes. -/
inductive KeyMove (clock : Int) (cache : SessionCache) (t : SessionThread) :
    SessionCache → List String → Prop
  | same : KeyMove clock cache t cache []
  | publish (call : PublishCall) (sess : UserSession) (due : Int) (w : CacheWrite)
      (ht : t = .writing call sess due w) :
      KeyMove clock cache t (runScript clock cache w) []
  | deny (next : AfterDeny) (w : CacheWrite) (ht : t = .denyWriting next w) :
      KeyMove clock cache t (runScript clock cache w)
        (if next.isFinal ∧ (cacheScript w (cache w.entry.sid) (unixMilli clock)).1 then
          [w.entry.sid] else [])

theorem keyMove_query (t t' : SessionThread) : KeyMove clock cache t (query db cache ans t').cache
      (query db cache ans t').dead := by
  cases ans <;> exact .same

theorem keyMove_mutate (t t' : SessionThread) (db' : SessionTable) (effects : List SessionEffect) :
    KeyMove clock cache t (mutate db cache ans db' effects t').cache
      (mutate db cache ans db' effects t').dead := by
  cases ans <;> exact .same

theorem keyMove_exec (t : SessionThread) :
    KeyMove clock cache t (t.exec ttl clock db cache ans).cache
      (t.exec ttl clock db cache ans).dead := by
  cases t with
  | inserting sess due =>
    simp only [exec, insertSession]
    split
    · exact .same
    split
    · exact .same
    split
    · exact .same
    · exact keyMove_mutate _ _ _ _
  | writing call sess due w =>
    cases ans with
    | ok | lost => exact .publish call sess due w rfl
    | unreachable => exact .same
  | denyWriting next w =>
    cases ans with
    | ok | lost => exact .deny next w rfl
    | unreachable => exact .same
  | confirming call sess =>
    simp only [exec, confirmSnapshot]
    split
    · exact .same
    · exact keyMove_query _ _
  | readingRow _ _ | findingCandidate _ _ _ | lockingCurrent _ _ _ | lockingByHash _ _ _
  | listing _ | lockingBulk _ _ | rotateReading _ _ _ | advanceReading _ _ _ =>
    exact keyMove_query _ _
  | updatingRevoked _ _ | updatingBulk _ _ => exact keyMove_mutate _ _ _ _
  | rotateCapturing a tries => cases tries <;> exact .same
  | rotateUpdating _ _ _ _ | reuseUpdating _ _ | advanceUpdating _ _ _ =>
    simp only [exec, rotateUpdate, reuseUpdate, advanceUpdate]
    split
    · exact keyMove_query _ _
    · exact keyMove_mutate _ _ _ _
  | _ => exact .same

theorem runScript_apply {P : Option (Expiring UserSessionCacheEntry) → Prop} (h : P (cache sid))
    (hscript : w.entry.sid = sid → P (cacheScript w (cache sid) (unixMilli clock)).2) :
    P (runScript clock cache w sid) := by
  unfold runScript
  by_cases hsid : w.entry.sid = sid
  · subst hsid
    rw [update_self]
    exact hscript rfl
  · rw [update_of_ne (Ne.symm hsid)]
    exact h

theorem tombstoned_exec (hsound : t.Sound ttl clock db)
    (hbounded : t.Bounded ttl since sid) (hsince : since ≤ clock)
    (hstored : Stored db sid expiresAt)
    (hkey : Tombstoned ttl since expiresAt clock (cache sid)) :
    Tombstoned ttl since expiresAt clock ((t.exec ttl clock db cache ans).cache sid) := by
  have hmove : KeyMove clock cache t (t.exec ttl clock db cache ans).cache
      (t.exec ttl clock db cache ans).dead := keyMove_exec t
  generalize t.exec ttl clock db cache ans = o at hmove
  generalize o.cache = cache' at hmove
  generalize o.dead = dead at hmove
  cases hmove with
  | same => exact hkey
  | publish call sess due w ht =>
    subst ht
    obtain ⟨-, hactive, hsession, hwrite⟩ := hsound
    refine runScript_apply hkey fun hsid => ?_
    rw [hwrite.1] at hsid
    have hsid' : sess.sid = sid := hsid
    rw [hsid'] at hsession
    exact hkey.publish hactive (hsession.expires_eq hstored) (hbounded hsid') hwrite
  | deny next w ht =>
    subst ht
    obtain ⟨hwrite, hentry, -, -⟩ := hsound
    refine runScript_apply hkey fun hsid => ?_
    rw [hsid] at hentry
    exact hkey.denyWrite hwrite hsince (hentry.expires_eq hstored)

/-- **The final tombstone.** Where it is written, the session is dead. -/
theorem deadInv_of_tombstone {k : ℕ} (hinv : ∀ u ∈ s.pool, u.Sound ttl s.clock s.sessions)
    (hk : s.pool[k]? = some t)
    (hdead : sid ∈ (t.exec ttl s.clock s.sessions s.cache ans).dead) :
    ∃ since expiresAt, DeadInv ttl since expiresAt sid
      (s.after k (t.exec ttl s.clock s.sessions s.cache ans)) := by
  have hsound : t.Sound ttl s.clock s.sessions := hinv t (mem_of_getElem? hk)
  have hkeeps : Keeps s.sessions (t.exec ttl s.clock s.sessions s.cache ans).sessions :=
    keeps_exec t
  have hthread : (t.exec ttl s.clock s.sessions s.cache ans).thread.Sound ttl s.clock
      (t.exec ttl s.clock s.sessions s.cache ans).sessions := sound_exec hsound
  have hmove : KeyMove s.clock s.cache t (t.exec ttl s.clock s.sessions s.cache ans).cache
      (t.exec ttl s.clock s.sessions s.cache ans).dead := keyMove_exec t
  generalize t.exec ttl s.clock s.sessions s.cache ans = o at hdead hkeeps hthread hmove ⊢
  obtain ⟨db', cache', t', dead, effects⟩ := o
  dsimp only at hdead hkeeps hthread hmove
  cases hmove with
  | same | publish call sess due w ht => cases hdead
  | deny next w ht =>
    subst ht
    split_ifs at hdead with hfinal
    · obtain rfl := mem_singleton.mp hdead
      obtain ⟨hwrite, hentry, hinactive, -⟩ := hsound
      refine ⟨s.clock, w.entry.expiresAt, le_rfl, (hinactive hfinal.1).keeps hkeeps,
        hentry.keeps hkeeps, ?_, ?_⟩
      · exact Pool.forall_mem_set
          (fun j u _ hj => (hinv u (mem_of_getElem? hj)).bounded) hthread.bounded
      change Tombstoned _ _ _ _ (runScript s.clock s.cache w w.entry.sid)
      rw [runScript, update_self]
      rcases cacheScript_cases w (s.cache w.entry.sid) (unixMilli s.clock) with hscript | hscript
      · rw [hscript] at hfinal
        cases hfinal.2
      · rw [hscript.1]
        exact hwrite.tombstoned le_rfl rfl
    · cases hdead

theorem DeadInv.after {k : ℕ} (h : DeadInv ttl since expiresAt sid s)
    (hsound : t.Sound ttl s.clock s.sessions) (hk : s.pool[k]? = some t) :
    DeadInv ttl since expiresAt sid (s.after k (t.exec ttl s.clock s.sessions s.cache ans)) where
  since_le := h.since_le
  row := h.row.keeps (keeps_exec t)
  stored := h.stored.keeps (keeps_exec t)
  bounded := Pool.forall_mem_set (fun _ u _ hj => h.bounded u (mem_of_getElem? hj))
    ((threadMove_exec t).bounded hsound (h.bounded t (mem_of_getElem? hk)) h.row)
  key := tombstoned_exec hsound (h.bounded t (mem_of_getElem? hk)) h.since_le h.stored h.key

theorem DeadInv.tick (h : DeadInv ttl since expiresAt sid s) (span : ℕ) :
    DeadInv ttl since expiresAt sid { s with clock := s.clock + span } where
  since_le := h.since_le.trans (by dsimp only; omega)
  row := h.row
  stored := h.stored
  bounded := h.bounded
  key := h.key.mono (by dsimp only; omega)

theorem bounded_sessionCall (c : SessionCall) : c.thread.Bounded ttl since sid := by
  cases c with
  | createUserSession sess => trivial
  | _ =>
    simp only [SessionCall.thread]
    split_ifs <;> trivial

/-- **One step of the system** keeps the invariant. -/
theorem RevocationInv.step (h : RevocationInv ttl s) (e : SessionEvent) :
    RevocationInv ttl (sessionStep ttl s e) := by
  cases e with
  | tick span =>
    refine ⟨fun t ht => (h.sound t ht).mono ?_ (.refl _), fun sid hsid => ?_⟩
    · dsimp [sessionStep]
      omega
    · obtain ⟨since, expiresAt, hdead⟩ := h.dead sid hsid
      exact ⟨since, expiresAt, hdead.tick span⟩
  | call c =>
    have hpool {P : SessionThread → Prop} (hold : ∀ t ∈ s.pool, P t) (hnew : P c.thread) :
        ∀ t ∈ s.pool ++ [c.thread], P t := by
      intro t ht
      rcases mem_append.mp ht with ht | ht
      · exact hold t ht
      · rw [mem_singleton.mp ht]
        exact hnew
    refine ⟨hpool h.sound (sound_sessionCall c), fun sid hsid => ?_⟩
    obtain ⟨since, expiresAt, hdead⟩ := h.dead sid hsid
    exact ⟨since, expiresAt, hdead.since_le, hdead.row, hdead.stored,
      hpool hdead.bounded (bounded_sessionCall c), hdead.key⟩
  | step k ans =>
    rcases hk : s.pool[k]? with - | t
    · rw [sessionStep_of_none hk]
      exact h
    rw [sessionStep_of_some hk]
    have hsound : t.Sound ttl s.clock s.sessions := h.sound t (mem_of_getElem? hk)
    refine ⟨?_, fun sid hsid => ?_⟩
    · exact Pool.forall_mem_set
        (fun _ u _ hj => (h.sound u (mem_of_getElem? hj)).mono le_rfl (keeps_exec t))
        (sound_exec hsound)
    · rcases mem_append.mp hsid with hsid | hsid
      · obtain ⟨since, expiresAt, hdead⟩ := h.dead sid hsid
        exact ⟨since, expiresAt, hdead.after hsound hk⟩
      · exact deadInv_of_tombstone h.sound hk hsid

theorem revocationInv_start (clock : Int) (db : SessionTable) :
    RevocationInv ttl (.start clock db) where
  sound := by
    intro t ht
    cases ht
  dead := by
    intro sid hsid
    cases hsid

/-- **A whole run** keeps the invariant. -/
theorem revocationInv_run (clock : Int) (db : SessionTable) (events : List SessionEvent) :
    RevocationInv ttl (run (sessionStep ttl) (.start clock db) events) :=
  run_induction (fun _ e h _ => h.step e) (revocationInv_start clock db)
    (along_of_forall (fun _ _ => trivial) _ _)

end

/-! ### Reading a dead session -/

def SessionThread.Refused (sid : String) : SessionThread → Prop
  | .readingCache sid' | .capturing sid' | .readingRow sid' _ => sid' = sid
  | .checkingEntry sid' entry => sid' = sid ∧ entry.status ≠ .active
  | .checkingRow s _ => s.status ≠ .active
  | .denying next _ | .denyWriting next _ => next = .inactive
  | .done result => ∃ e, result = .failed e
  | _ => False

section

variable {ttl since expiresAt : Int} {sid : String} {ans : SessionReply} {t : SessionThread}
  {s : SessionState}

theorem refused_sessionCall (sid : String) :
    (SessionCall.getUserSessionCached sid).thread.Refused sid := by
  simp only [SessionCall.thread]
  split_ifs
  · exact ⟨_, rfl⟩
  · rfl

/-- **One step** of a read of a dead session leads to an error, or on to its row. -/
theorem refused_exec (h : t.Refused sid) (hdead : DeadInv ttl since expiresAt sid s) :
    (t.exec ttl s.clock s.sessions s.cache ans).thread.Refused sid := by
  cases t with
  | readingCache sid' =>
    obtain rfl : sid' = sid := h
    simp only [exec]
    split
    next entry hread => exact ⟨rfl, hdead.key.read hread⟩
    · rfl
  | checkingEntry sid' entry =>
    obtain ⟨rfl, hstatus⟩ := h
    simp only [exec, checkCacheEntry]
    have hinactive : ¬ entry.session.Live (unix s.clock) := fun hlive => hstatus hlive.1
    split_ifs
    · rfl
    · exact ⟨_, rfl⟩
  | capturing sid' | done result => exact h
  | readingRow sid' due =>
    obtain rfl : sid' = sid := h
    obtain ⟨row, hrow, hstatus⟩ := hdead.row
    simp only [exec, hrow]
    cases ans with
    | ok => exact hstatus
    | _ => exact ⟨_, rfl⟩
  | checkingRow sess due =>
    have hinactive : ¬ sess.Live (unix s.clock) := fun hlive => h hlive.1
    simp only [exec, if_neg hinactive]
    rfl
  | denying next sess =>
    obtain rfl : next = .inactive := h
    simp only [exec]
    split
    · rfl
    · exact ⟨_, rfl⟩
  | denyWriting next w =>
    obtain rfl : next = .inactive := h
    cases ans <;> exact ⟨_, rfl⟩
  | _ => exact absurd h id

end

structure RefusedInv (ttl : Int) (sid : String) (k : ℕ) (s : SessionState) : Prop where
  inv : RevocationInv ttl s
  dead : sid ∈ s.dead
  refused : ∃ t, s.pool[k]? = some t ∧ t.Refused sid

theorem RefusedInv.step {sid : String} {k : ℕ} {s : SessionState} (h : RefusedInv ttl sid k s)
    (e : SessionEvent) : RefusedInv ttl sid k (sessionStep ttl s e) := by
  obtain ⟨hinv, hdead, t, hk, hrefused⟩ := h
  refine ⟨hinv.step e, ?_, ?_⟩
  · cases e with
    | tick span | call c => exact hdead
    | step j ans =>
      cases hj : s.pool[j]? with
      | none =>
        rw [sessionStep_of_none hj]
        exact hdead
      | some u =>
        rw [sessionStep_of_some hj]
        exact mem_append_left _ hdead
  · obtain ⟨since, expiresAt, hgrave⟩ := hinv.dead sid hdead
    rcases @thread_sessionStep ttl s k t hk e with hsame | ⟨ans, -, hmoved⟩
    · exact ⟨t, hsame, hrefused⟩
    · exact ⟨_, hmoved, refused_exec hrefused hgrave⟩

/-- **A revoked session stays dead.** In every run of calls that create, read, rotate, advance and
revoke sessions, with their steps interleaved in any way and each step delayed for any time: once
the final tombstone of a revocation has been written, a `GetUserSessionCached` that begins later
returns no session, whether the tombstone is still there or not. -/
theorem revoked_session_stays_dead (ttl clock : Int) (db : SessionTable)
    (before after : List SessionEvent) (sid : String)
    (hdead : sid ∈ (run (sessionStep ttl) (.start clock db) before).dead) :
    ∀ sess, (run (sessionStep ttl) (.start clock db)
          (before ++ .call (.getUserSessionCached sid) :: after)).pool[
        (run (sessionStep ttl) (.start clock db) before).pool.length]? ≠
        some (.done (.got sess)) := by
  intro sess hgot
  have hinv : RevocationInv ttl (run (sessionStep ttl) (.start clock db) before) :=
    revocationInv_run clock db before
  rw [run, foldl_append] at hgot
  change (run (sessionStep ttl) (sessionStep ttl (run (sessionStep ttl)
    (.start clock db) before) (.call (.getUserSessionCached sid))) after).pool[_]? = _ at hgot
  generalize run (sessionStep ttl) (.start clock db) before = s at hdead hinv hgot
  have hstart : RefusedInv ttl sid s.pool.length
      (sessionStep ttl s (.call (.getUserSessionCached sid))) :=
    ⟨hinv.step _, hdead, _, getElem?_concat_length, refused_sessionCall sid⟩
  have hend := run_induction (P := fun _ _ => True) (fun _ e h _ => h.step e) hstart
    (along_of_forall (fun _ _ => trivial) _ after)
  obtain ⟨t, ht, hrefused⟩ := hend.refused
  rw [ht] at hgot
  cases hgot
  obtain ⟨e, he⟩ := hrefused
  cases he

/-! Fixed inputs: a session, a read of it that stops before its script, and a revocation. -/

def sampleSession : UserSession :=
  ⟨"s1", 1, 1, 1, .active, "h0", "", 0, 0, 100000, 0, ""⟩

def sampleSessions : SessionTable := ⟨[sampleSession], List.nodup_singleton _⟩

/-- A read misses the cache, finds the active row and prepares its write. Then the session is
revoked. -/
def revokedMeanwhile : List SessionEvent :=
  .call (.getUserSessionCached "s1") :: List.replicate 5 (.step 0 .ok) ++
    .call (.revokeUserSession 1 "s1" "logout") :: List.replicate 8 (.step 1 .ok)

/-- The write of the first read runs after the tombstone has expired; a second read is refused. -/
theorem revoked_session_stays_dead_late_fill :
    "s1" ∈ (run (sessionStep 60) (.start 0 sampleSessions) revokedMeanwhile).dead ∧ ∀ sess,
        (run (sessionStep 60) (.start 0 sampleSessions) (revokedMeanwhile ++
            .call (.getUserSessionCached "s1") ::
              [.tick 70000000000, .step 0 .ok, .step 2 .ok, .step 2 .ok, .step 2 .ok])).pool[
          (run (sessionStep 60) (.start 0 sampleSessions) revokedMeanwhile).pool.length]? ≠
          some (.done (.got sess)) :=
  ⟨by decide +kernel, revoked_session_stays_dead 60 0 sampleSessions revokedMeanwhile _ "s1"
    (by decide +kernel)⟩

end NewApi.Model
