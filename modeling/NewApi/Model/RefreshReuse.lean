import NewApi.Model.RefreshLineage

/-!
# A refresh token that is used again

A call that finds its digest as the previous one, after the grace window, ends the session. It first
writes a deny state into the cache, and goes on only if the script accepts it, which it does unless
the key has a higher version. The version of a session changes only by an advance, so without one
every snapshot that a call holds, and the key itself, has the version of the row.

With the chain of the generations this gives the law of the refresh tokens.
-/

namespace NewApi.Model

open GoTime StepSystem List Option Table Expiring

/-! ### Versions -/

def UserSession.mark (s : UserSession) : String × Int := (s.sid, s.version)

def UserSessionCacheEntry.mark (e : UserSessionCacheEntry) : String × Int := (e.sid, e.version)

def AfterDeny.held : AfterDeny → List (String × Int)
  | .inactive | .tombstone _ => []
  | .revokeFence _ _ s | .hashFence _ s | .reuseFence _ s => [s.mark]
  | .bulkFence _ _ rest | .bulkTombstone _ rest => rest.map UserSession.mark

def SessionThread.held : SessionThread → List (String × Int)
  | .publishing _ s _ | .checkingRow s _ | .rotateUpdating _ _ s _ | .lockingCurrent _ _ s
  | .updatingRevoked _ s | .reuseUpdating _ s => [s.mark]
  | .writing _ _ _ w => [w.entry.mark]
  | .denying next s => s.mark :: next.held
  | .denyWriting next w => w.entry.mark :: next.held
  | .updatingBulk _ l => l.map UserSession.mark
  | _ => []

def Held (db : SessionTable) (before : List (String × Int)) (x : String × Int) : Prop :=
  x ∈ before ∨ ∃ row, db.find x.1 = some row ∧ row.version = x.2

section

variable {ttl clock : Int} {db db' : SessionTable} {t t' : SessionThread}
  {l : List (String × Int)}

theorem held_of_find {sid : String} {row : UserSession} (h : db.find sid = some row) :
    Held db l row.mark := by
  obtain ⟨-, hkey⟩ := mem_of_find h
  refine .inr ⟨row, ?_, rfl⟩
  change db.find row.sid = some row
  rw [hkey]
  exact h

theorem held_of_mem {row : UserSession} (h : row ∈ db.rows) : Held db l row.mark :=
  held_of_find (find_of_mem h)

theorem held_insert {sess : UserSession} (h : sess.sid ∉ db.keys) :
    Held (db.insert sess) l sess.mark := by
  exact held_of_mem ((mem_insert h).mpr (.inl rfl))

theorem SessionThread.Plain.held_eq (h : t.Plain) : t.held = [] := by
  cases t <;> first | rfl | cases h

theorem held_afterDeny (next : AfterDeny) (err : Option SessionError) :
    ∀ x ∈ (next.thread err).held, x ∈ next.held := by
  cases next with
  | inactive | tombstone result => exact fun _ hx => hx
  | revokeFence r userId s | hashFence r s
  | reuseFence a s => cases err <;> exact fun _ hx => by first | exact hx | cases hx
  | bulkFence b sids rest =>
    cases err with
    | none => cases rest <;> exact fun _ hx => hx
    | some e => cases rest <;> exact fun _ hx => by cases hx
  | bulkTombstone b rest => cases rest <;> exact fun _ hx => hx

theorem mark_of_ok {sess : UserSession} {due : Option Int} {now : Int} {w : CacheWrite}
    (h : writeUserSessionCache ttl sess.cacheEntry due now = .ok w) :
    w.entry.mark = sess.mark := by
  have hentry : w.entry = sess.cacheEntry := by
    simp only [writeUserSessionCache] at h
    split at h
    · rcases due with - | d
      · cases h
      dsimp only at h
      split_ifs at h
      cases h
      rfl
    · cases h
      rfl
  rw [hentry]
  rfl

/-- **The snapshots of a call are of stored rows.** -/
theorem ThreadMove.held {effects : List SessionEffect}
    (hmove : ThreadMove ttl clock db t db' effects t')
    (hsound : t.Sound ttl clock db) : ∀ x ∈ t'.held, Held db' t.held x := by
  -- a deny state of a row that has been read
  have hdeny {sid : String} {row : UserSession} (status : SessionStatus) (now : Int)
      (reason : String) (hfind : db.find sid = some row) :
      ∀ x ∈ [(row.deny status now reason).mark, row.mark], Held db t.held x := by
    have hrow : Held db t.held row.mark := held_of_find hfind
    exact forall_mem_cons.mpr ⟨hrow, forall_mem_singleton.mpr hrow⟩
  cases hmove with
  | plain hplain =>
    rw [hplain.held_eq]
    exact fun _ hx => by cases hx
  | insert given sess due hnew _ => exact forall_mem_singleton.mpr (held_insert hnew)
  | publish hw =>
    refine forall_mem_singleton.mpr (.inl ?_)
    rw [mark_of_ok hw]
    exact mem_singleton_self _
  | read hfind => exact forall_mem_singleton.mpr (held_of_find hfind)
  | deny hw =>
    refine forall_mem_cons.mpr ⟨.inl ?_, fun x hx => .inl (mem_cons_of_mem _ hx)⟩
    rw [mark_of_ok hw]
    exact mem_cons_self
  | undenied next _ err | denied next _ err =>
    exact fun x hx => .inl (mem_cons_of_mem _ (held_afterDeny next err x hx))
  | candidate hown | reused hown => exact hdeny _ _ _ (findOwned_eq_some hown).1
  | byHash hfind => exact hdeny _ _ _ hfind
  | list hcandidates =>
    intro x hx
    obtain ⟨s, hs, rfl⟩ := mem_map.mp (held_afterDeny _ none x hx)
    rw [hcandidates] at hs
    have hsorted := mem_of_mem_take hs
    rw [mem_insertionSort] at hsorted
    exact held_of_mem (mem_of_mem_filter hsorted)
  | lockBulk hrevoked =>
    intro x hx
    obtain ⟨s, hs, rfl⟩ := mem_map.mp hx
    exact held_of_mem (hrevoked s hs)
  | revokeBulk _ _ _ => exact fun x hx => .inl (held_afterDeny _ none x hx)
  | rotateRead hown _ _ =>
    exact forall_mem_singleton.mpr (held_of_find (findOwned_eq_some hown).1)
  | live _ | inactive _ _ | lock _ _ _ | revoke _ _ | rotated _ _ | reuse _ =>
    exact fun _ hx => .inl hx
  | @advanced a sess row _ hfind _ =>
    have hsaved : ({ row with
        version := sess.version
        userAuthVersion := sess.userAuthVersion
        lastActiveAt := sess.lastActiveAt } : UserSession).sid = a.sid :=
      (mem_of_find hfind).2
    have hfind' := find_save_of_find hfind hsaved
    rw [← hsound.2.1] at hfind'
    exact forall_mem_singleton.mpr (.inr ⟨_, hfind', rfl⟩)
  | _ => exact fun _ hx => by cases hx

end

def SessionThread.Advances (sid : String) : SessionThread → Prop
  | .advancing a | .advanceStarting a _ | .advanceReading a _ _ | .advanceUpdating a _ _ =>
    a.sid = sid
  | _ => False

def SessionEvent.Advances (sid : String) : SessionEvent → Prop
  | .call (.advanceUserSessionAuthVersion a) => a.sid = sid
  | _ => False

section

variable {sid : String} {ttl clock : Int} {db : SessionTable} {t : SessionThread}

theorem SessionThread.not_advances_of_not_early (h : ¬ t.Early) : ¬ t.Advances sid := by
  cases t <;> first | exact id | exact absurd trivial h

theorem ThreadMove.not_advances {db' : SessionTable} {effects : List SessionEffect}
    {t' : SessionThread} (hmove : ThreadMove ttl clock db t db' effects t')
    (h : ¬ t.Advances sid) : ¬ t'.Advances sid := by
  cases hmove with
  | plain hplain => exact SessionThread.not_advances_of_not_early hplain.not_early
  | undenied next _ err | denied next _ err =>
    exact SessionThread.not_advances_of_not_early (not_early_afterDeny next err)
  | list _ | revokeBulk _ _ _ =>
    exact SessionThread.not_advances_of_not_early (not_early_afterDeny _ none)
  | advance _ | advanceStart _ _ | advanceRead _ _ => exact h
  | _ => exact id

theorem not_advances_sessionCall {c : SessionCall}
    (h : ¬ (SessionEvent.call c).Advances sid) : ¬ c.thread.Advances sid := by
  cases c with
  | createUserSession sess => exact id
  | advanceUserSessionAuthVersion a =>
    simp only [SessionCall.thread]
    split
    · exact id
    · exact h
  | _ =>
    simp only [SessionCall.thread]
    split_ifs <;> exact id

end

/-- Without an advance, every snapshot and the key of the session have the version of the row. -/
structure SteadyInv (sid : String) (s : SessionState) : Prop where
  held : ∀ t ∈ s.pool, ∀ x ∈ t.held, x.1 = sid →
    ∃ row, s.sessions.find sid = some row ∧ row.version = x.2
  rests : ∀ t ∈ s.pool, ¬ t.Advances sid
  key : ∀ e, s.cache sid = some e →
    ∃ row, s.sessions.find sid = some row ∧ row.version = e.value.version
  positive : ∀ row, s.sessions.find sid = some row → 0 < row.version

section

variable {sid : String} {ttl clock : Int} {s : SessionState} {t : SessionThread}
  {effects : List SessionEffect} {row row' : UserSession} {k : ℕ} {ans : SessionReply}

theorem SessionMove.frame (h : SessionMove t sid row row' effects) (hrests : ¬ t.Advances sid) :
    row'.userId = row.userId ∧ row'.expiresAt = row.expiresAt ∧ row'.version = row.version ∧
      (row'.status ≠ .active ∨ row'.revokedAt = row.revokedAt) := by
  cases h with
  | same _ | rotate a tries sess due _ _ _ _ => exact ⟨rfl, rfl, rfl, .inr rfl⟩
  | advance row' hrow ht =>
    obtain ⟨a, sess, due, rfl, hsid⟩ := ht
    exact absurd hsid hrests
  | revoke now reason _ _ => exact ⟨rfl, rfl, rfl, .inl nofun⟩

theorem TableMove.version {db db' : SessionTable} {v : Int}
    (h : TableMove db t db' effects) (hrests : ¬ t.Advances sid)
    (hv : ∃ row, db.find sid = some row ∧ row.version = v) :
    ∃ row, db'.find sid = some row ∧ row.version = v := by
  obtain ⟨row, hrow, rfl⟩ := hv
  obtain ⟨row', hrow', hm⟩ := h.sessionMove hrow
  exact ⟨row', hrow', (hm.frame hrests).2.2.1⟩

theorem key_runScript {cache : SessionCache} {w : CacheWrite}
    {e : Expiring UserSessionCacheEntry} (h : runScript clock cache w sid = some e) :
    cache sid = some e ∨ w.entry.sid = sid ∧ e.value = w.entry := by
  unfold runScript at h
  by_cases hsid : w.entry.sid = sid
  · subst hsid
    rw [Function.update_self] at h
    rcases cacheScript_cases w (cache w.entry.sid) (unixMilli clock) with hsame | ⟨hstored, -⟩
    · rw [hsame] at h
      exact .inl h
    · rw [hstored] at h
      exact .inr ⟨rfl, by rw [store_eq_some h]⟩
  · rw [Function.update_of_ne (Ne.symm hsid)] at h
    exact .inl h

theorem SteadyInv.key_exec (h : SteadyInv sid s) (ht : t ∈ s.pool) {cache : SessionCache}
    {dead : List String} (hmove : KeyMove s.clock s.cache t cache dead)
    {e : Expiring UserSessionCacheEntry} (he : cache sid = some e) :
    ∃ row, s.sessions.find sid = some row ∧ row.version = e.value.version := by
  have hscript {w : CacheWrite} (hw : w.entry.mark ∈ t.held)
      (he : runScript s.clock s.cache w sid = some e) :
      ∃ row, s.sessions.find sid = some row ∧ row.version = e.value.version := by
    rcases key_runScript he with hold | ⟨hsid, hvalue⟩
    · exact h.key e hold
    · rw [hvalue]
      exact h.held t ht _ hw hsid
  cases hmove with
  | same => exact h.key e he
  | publish call sess due w hw =>
    subst hw
    exact hscript (mem_singleton_self _) he
  | deny next w hw =>
    subst hw
    exact hscript mem_cons_self he

/-- **One step of the system** keeps the version everywhere. -/
theorem SteadyInv.step (hsound : ∀ t ∈ s.pool, t.Sound ttl s.clock s.sessions)
    (h : SteadyInv sid s) (e : SessionEvent) (he : ¬ e.Advances sid) :
    SteadyInv sid (sessionStep ttl s e) := by
  cases e with
  | tick span => exact ⟨h.held, h.rests, h.key, h.positive⟩
  | call c =>
    have hnew : c.thread.held = [] := by
      cases c <;> simp only [SessionCall.thread] <;> first | rfl | split_ifs <;> rfl
    refine ⟨?_, ?_, h.key, h.positive⟩
    · intro t ht
      rcases mem_append.mp ht with ht | ht
      · exact h.held t ht
      · rw [mem_singleton.mp ht, hnew]
        exact fun _ hx => by cases hx
    · intro t ht
      rcases mem_append.mp ht with ht | ht
      · exact h.rests t ht
      · rw [mem_singleton.mp ht]
        exact not_advances_sessionCall he
  | step k ans =>
    rcases hk : s.pool[k]? with - | t
    · rw [sessionStep_of_none hk]
      exact h
    rw [sessionStep_of_some hk]
    have ht := mem_of_getElem? hk
    have hrests : ¬ t.Advances sid := h.rests t ht
    have hmove : TableMove s.sessions t (t.exec ttl s.clock s.sessions s.cache ans).sessions
        (t.exec ttl s.clock s.sessions s.cache ans).effects := tableMove_exec t
    refine ⟨?_, ?_, ?_, ?_⟩
    · refine Pool.forall_mem_set (fun _ u _ hj x hx hsid => ?_) fun x hx hsid => ?_
      · exact hmove.version hrests (h.held u (mem_of_getElem? hj) x hx hsid)
      rcases (threadMove_exec t).held (hsound t ht) x hx with hold | hstored
      · exact hmove.version hrests (h.held t ht x hold hsid)
      · rw [hsid] at hstored
        exact hstored
    · exact Pool.forall_mem_set (fun _ u _ hj => h.rests u (mem_of_getElem? hj))
        ((threadMove_exec t).not_advances hrests)
    · intro e he
      refine hmove.version hrests ?_
      exact h.key_exec ht (keyMove_exec t) he
    · intro row hrow
      cases hfind : s.sessions.find sid with
      | none =>
        obtain ⟨-, hnew⟩ := hmove.absent hfind
        obtain ⟨given, due, -, -, -, -, hversion⟩ := hnew row hrow
        exact hversion
      | some old =>
        obtain ⟨row', hrow', hm⟩ := hmove.sessionMove hfind
        have heq := hrow.symm.trans hrow'
        cases heq
        rw [(hm.frame hrests).2.2.1]
        exact h.positive old hfind

theorem steadyInv_start (clock : Int) {db : SessionTable}
    (h : ∀ row, db.find sid = some row → 0 < row.version) :
    SteadyInv sid (.start clock db) where
  held _ ht := by cases ht
  rests _ ht := by cases ht
  key _ he := by cases he
  positive := h

/-- **A whole run** keeps the version everywhere. -/
theorem SteadyInv.run (hinv : RevocationInv ttl s) (h : SteadyInv sid s)
    {events : List SessionEvent} (hevents : ∀ e ∈ events, ¬ e.Advances sid) :
    SteadyInv sid (StepSystem.run (sessionStep ttl) s events) := by
  have hstep (s : SessionState) (e : SessionEvent)
      (h : RevocationInv ttl s ∧ SteadyInv sid s) (he : ¬ e.Advances sid) :
      RevocationInv ttl (sessionStep ttl s e) ∧ SteadyInv sid (sessionStep ttl s e) :=
    ⟨h.1.step e, h.2.step h.1.sound e he⟩
  exact (run_induction hstep ⟨hinv, h⟩ (along_of_forall_mem hevents)).2

end

/-! ### A digest that is used again -/

/-- How far a call is that has found the previous digest after its grace window, with the number of
its own steps up to its update. -/
inductive ReusePhase (a : RotateArgs) (row : UserSession) : ℕ → SessionThread → Prop
  | fence :
      ReusePhase a row 3 (.denying (.reuseFence a row) (row.deny .revoking a.now "refresh_reuse"))
  | script (w : CacheWrite)
      (hentry : w.entry = (row.deny .revoking a.now "refresh_reuse").cacheEntry) :
      ReusePhase a row 2 (.denyWriting (.reuseFence a row) w)
  | update : ReusePhase a row 1 (.reuseUpdating a row)

/-- The session that the call has read is not active any more, or the call is on its way to revoke
it. -/
def ReuseInv (a : RotateArgs) (row : UserSession) (k n : ℕ) (s : SessionState) : Prop :=
  ∃ current, s.sessions.find a.sid = some current ∧ current.userId = a.userId ∧
    current.expiresAt = row.expiresAt ∧ current.version = row.version ∧
    (current.status ≠ .active ∨
      current.revokedAt = 0 ∧ ∃ t, s.pool[k]? = some t ∧ ReusePhase a row n t)

section

variable {ttl clock : Int} {db : SessionTable} {cache : SessionCache} {a : RotateArgs}
  {row current : UserSession} {k n : ℕ} {s : SessionState} {t : SessionThread}

theorem deny_ne_active {status : SessionStatus} (hstatus : status ≠ .active) (now : Int)
    (reason : String) : (row.deny status now reason).status ≠ .active := hstatus

theorem cacheScript_fence {w : CacheWrite} {key : Option (Expiring UserSessionCacheEntry)}
    {now : Int} (hdeny : w.entry.status ≠ .active) (hpos : 0 < w.entry.version)
    (hkey : ∀ e, key = some e → e.value.version ≤ w.entry.version) :
    (cacheScript w key now).1 = true := by
  unfold cacheScript
  cases hread : read key now with
  | none =>
    rw [if_neg (by omega)]
  | some current =>
    obtain ⟨e, he, rfl, -⟩ := read_eq_some.mp hread
    have hle := hkey e he
    dsimp only
    rw [if_neg (fun h => hdeny h.1), if_neg (by omega)]

/-- **The own step of the call** brings it nearer to its update, or ends the session. -/
theorem reusePhase_exec (hlive : row.Live a.now) (hsid : row.sid = a.sid)
    (hsteady : SteadyInv a.sid s) (hfind : s.sessions.find a.sid = some current)
    (huser : current.userId = a.userId) (hexpires : current.expiresAt = row.expiresAt)
    (hversion : current.version = row.version) (hopen : current.revokedAt = 0)
    (ht : ReusePhase a row n t) :
    Inactive (t.exec ttl s.clock s.sessions s.cache .ok).sessions a.sid ∨
      (t.exec ttl s.clock s.sessions s.cache .ok).sessions = s.sessions ∧
        ReusePhase a row (n - 1) (t.exec ttl s.clock s.sessions s.cache .ok).thread := by
  have hdeny : (row.deny .revoking a.now "refresh_reuse").cacheEntry.status ≠ .active :=
    @deny_ne_active row .revoking (by decide) a.now "refresh_reuse"
  cases ht with
  | fence =>
    refine .inr ⟨rfl, ?_⟩
    exact .script _ rfl
  | script w hentry =>
    refine .inr ⟨rfl, ?_⟩
    have hwsid : w.entry.sid = a.sid := by
      rw [hentry]
      exact hsid
    have hwversion : w.entry.version = current.version := by
      rw [hentry]
      exact hversion.symm
    have hwritten : (cacheScript w (s.cache w.entry.sid) (unixMilli s.clock)).1 = true := by
      refine cacheScript_fence (by rw [hentry]; exact hdeny) ?_ fun e he => ?_
      · rw [hwversion]
        exact hsteady.positive current hfind
      rw [hwsid] at he
      obtain ⟨r, hr, hrv⟩ := hsteady.key e he
      rw [hfind] at hr
      cases hr
      rw [hwversion, hrv]
    simp only [SessionThread.exec, denyScript, hwritten]
    exact .update
  | update =>
    refine .inl ?_
    have hown : findOwned s.sessions a.userId a.sid = some current := by
      rw [findOwned, hfind]
      exact filter_eq_some_iff.mpr ⟨rfl, decide_eq_true huser⟩
    change Inactive (reuseUpdate s.sessions s.cache .ok a row).sessions a.sid
    unfold reuseUpdate
    rw [hown]
    by_cases hcurrent : current.Live a.now
    · obtain ⟨-, hkey⟩ := mem_of_find hfind
      have hkey' : (current.deny .revoked a.now "refresh_reuse").sid = a.sid := hkey
      rw [filter_some_pos (by simpa using hcurrent)]
      exact ⟨_, find_save_of_find hfind hkey', deny_ne_active (by decide) a.now _⟩
    · rw [filter_some_neg (by simpa using hcurrent)]
      refine ⟨current, hfind, fun hactive => hcurrent ⟨hactive, hopen, ?_⟩⟩
      rw [hexpires]
      exact hlive.2.2

/-- **One step of the system** keeps the call on its way. -/
theorem ReuseInv.step (hlive : row.Live a.now) (hsid : row.sid = a.sid)
    (hsteady : SteadyInv a.sid s) (h : ReuseInv a row k n s) (e : SessionEvent)
    (hown : ∀ ans, e = .step k ans → ans = .ok) :
    ReuseInv a row k (n - if e = .step k .ok then 1 else 0) (sessionStep ttl s e) := by
  obtain ⟨current, hfind, huser, hexpires, hversion, hstate⟩ := h
  by_cases hmoves : ∃ j ans u, e = .step j ans ∧ s.pool[j]? = some u
  · obtain ⟨j, ans, u, rfl, hj⟩ := hmoves
    have hrests : ¬ u.Advances a.sid := hsteady.rests u (mem_of_getElem? hj)
    obtain ⟨current', hfind', hm⟩ :=
      (@tableMove_exec ttl s.clock s.sessions s.cache ans u).sessionMove hfind
    obtain ⟨huser', hexpires', hversion', hopen'⟩ := hm.frame hrests
    rw [sessionStep_of_some hj]
    refine ⟨current', hfind', huser'.trans huser, hexpires'.trans hexpires,
      hversion'.trans hversion, ?_⟩
    rcases hstate with hended | ⟨hopen, t, hk, hphase⟩
    · exact .inl (hm.inactive hended).1
    by_cases hjk : j = k
    · subst hjk
      rw [hj] at hk
      cases hk
      obtain rfl := hown ans rfl
      rw [if_pos rfl]
      rcases reusePhase_exec hlive hsid hsteady hfind huser hexpires hversion hopen hphase with
        ⟨r, hr, hended⟩ | ⟨hsame, hnext⟩
      · rw [hfind'] at hr
        cases hr
        exact .inl hended
      · rw [hsame, hfind] at hfind'
        cases hfind'
        exact .inr ⟨hopen, _, List.getElem?_set_self (List.getElem?_eq_some_iff.mp hj).1, hnext⟩
    · have hother : ¬ SessionEvent.step j ans = .step k .ok := by
        intro heq
        cases heq
        exact hjk rfl
      rw [if_neg hother]
      rcases hopen' with hended | hsame
      · exact .inl hended
      · exact .inr ⟨hsame.trans hopen, t, (getElem?_set_ne hjk).trans hk, hphase⟩
  · -- time passes, a call begins, or there is no such call
    have hsame : (sessionStep ttl s e).sessions = s.sessions ∧
        ∀ t, s.pool[k]? = some t → (sessionStep ttl s e).pool[k]? = some t ∧ ¬ e = .step k .ok := by
      cases e with
      | tick span => exact ⟨rfl, fun t hk => ⟨hk, nofun⟩⟩
      | call c =>
        refine ⟨rfl, fun t hk => ⟨?_, nofun⟩⟩
        exact (List.getElem?_append_left (List.getElem?_eq_some_iff.mp hk).1).trans hk
      | step j ans =>
        have hj : s.pool[j]? = none := by
          by_contra hne
          obtain ⟨u, hu⟩ := ne_none_iff_exists'.mp hne
          exact hmoves ⟨j, ans, u, rfl, hu⟩
        rw [sessionStep_of_none hj]
        refine ⟨rfl, fun t hk => ⟨hk, fun heq => ?_⟩⟩
        cases heq
        rw [hj] at hk
        cases hk
    obtain ⟨hsessions, hpool⟩ := hsame
    refine ⟨current, by rw [hsessions]; exact hfind, huser, hexpires, hversion, ?_⟩
    rcases hstate with hended | ⟨hopen, t, hk, hphase⟩
    · exact .inl hended
    · obtain ⟨hk', hother⟩ := hpool t hk
      rw [if_neg hother]
      exact .inr ⟨hopen, t, hk', hphase⟩

/-- **A whole run** with enough steps of the call ends the session. -/
theorem ReuseInv.run (hlive : row.Live a.now) (hsid : row.sid = a.sid)
    (hinv : RevocationInv ttl s) (hsteady : SteadyInv a.sid s) (h : ReuseInv a row k n s)
    {events : List SessionEvent} (hrests : ∀ e ∈ events, ¬ e.Advances a.sid)
    (hown : ∀ ans, .step k ans ∈ events → ans = .ok) :
    ReuseInv a row k (n - events.count (.step k .ok))
      (StepSystem.run (sessionStep ttl) s events) := by
  induction events generalizing s n with
  | nil => exact h
  | cons e events ih =>
    have hnext : ReuseInv a row k (n - if e = .step k .ok then 1 else 0) (sessionStep ttl s e) := by
      refine h.step hlive hsid hsteady e fun ans he => ?_
      exact hown ans (he ▸ mem_cons_self)
    have hend := ih (hinv.step e) (hsteady.step hinv.sound e (hrests e mem_cons_self)) hnext
      (fun e he => hrests e (mem_cons_of_mem _ he))
      fun ans he => hown ans (mem_cons_of_mem _ he)
    have hcount : n - (e :: events).count (.step k .ok) =
        (n - if e = .step k .ok then 1 else 0) - events.count (.step k .ok) := by
      rw [count_cons]
      by_cases he : e = .step k .ok
      · simp only [he, beq_self_eq_true, if_true]
        omega
      · simp only [he, beq_eq_false_iff_ne.mpr he, if_false, Bool.false_eq_true]
        omega
    rw [hcount]
    exact hend

theorem ReuseInv.inactive (h : ReuseInv a row k 0 s) : Inactive s.sessions a.sid := by
  obtain ⟨current, hfind, -, -, -, hended | ⟨-, t, -, hphase⟩⟩ := h
  · exact ⟨current, hfind, hended⟩
  · cases hphase

/-- **The previous digest after its grace window** is recognised by the read of the call. -/
theorem reuseInv_of_read {digest : ℕ → String} (hinj : Function.Injective digest)
    (hne : ∀ n, digest n ≠ "") {g p tries : ℕ} {due : Int}
    (hk : s.pool[k]? = some (.rotateReading a tries due))
    (hown : findOwned s.sessions a.userId a.sid = some row) (hlive : row.Live a.now)
    (hlineage : Lineage digest row g) (hprevious : row.previousRefreshHash = digest p)
    (hpresented : a.presentedHash = digest p) (hgrace : row.previousValidUntil < a.now) :
    ReuseInv a row k 3 (sessionStep ttl s (.step k .ok)) := by
  obtain ⟨hfind, huser⟩ := findOwned_eq_some hown
  have hcurrent : row.refreshHash ≠ a.presentedHash := by
    rw [hpresented, hlineage.current]
    intro heq
    obtain hnone | ⟨q, hq, hprevious'⟩ := hlineage.previous
    · exact hne p (hprevious.symm.trans hnone)
    · have := hinj heq
      have := hinj (hprevious.symm.trans hprevious')
      omega
  have hread : rotateRead s.sessions a tries due =
      .denying (.reuseFence a row) (row.deny .revoking a.now "refresh_reuse") := by
    have hknown : ¬ (row.previousRefreshHash = "" ∨ row.previousRefreshHash ≠ a.presentedHash) := by
      rw [hprevious, hpresented]
      exact fun h => h.elim (hne p) fun h => h rfl
    simp only [rotateRead, hown]
    rw [if_neg (not_not.mpr hlive), if_neg hcurrent, if_neg hknown, if_neg (not_le.mpr hgrace)]
  rw [sessionStep_of_some hk]
  refine ⟨row, hfind, huser, rfl, rfl, .inr ⟨hlive.2.1, _,
    List.getElem?_set_self (List.getElem?_eq_some_iff.mp hk).1, ?_⟩⟩
  simp only [SessionThread.exec, hread]
  exact .fence

end

/-- **The lineage of a refresh token.** Whatever digests any number of clients present, in every run
of the calls on sessions every generation is rotated at most once; the stored digest is the
successor of the stored previous one; a call that presents a digest older than the previous one has
no effect; a call that finds the previous digest after its grace window ends the session, if its own
statements and scripts run and no call advances the version of the session; and a session that is
revoked is not rotated again. -/
theorem refresh_token_lineage (ttl clock : Int) (db : SessionTable)
    (digest : ℕ → String) (sid : String) (hinj : Function.Injective digest)
    (hne : ∀ n, digest n ≠ "")
    (hrow : ∀ row, db.find sid = some row → (∃ g, Lineage digest row g) ∧ 0 < row.version)
    (before after : List SessionEvent) (hfollows : ∀ e ∈ before ++ after, e.Follows digest sid)
    (s s' : SessionState) (hs : s = run (sessionStep ttl) (.start clock db) before)
    (hs' : s' = run (sessionStep ttl) s after) :
    (∀ n, rotations sid (digest n) s'.log ≤ 1) ∧
      (∀ row, s'.sessions.find sid = some row → row.previousRefreshHash = "" ∨
        ∃ p, row.previousRefreshHash = digest p ∧ row.refreshHash = digest (p + 1)) ∧
      (∀ (row : UserSession) (p m k : ℕ) (t : SessionThread), s.sessions.find sid = some row →
        row.previousRefreshHash = digest p → m < p → s.pool[k]? = some t →
        t.Presents sid (digest m) → ∀ e, (k, e) ∉ s'.log) ∧
      (∀ (row : UserSession) (a : RotateArgs) (p k tries : ℕ) (due : Int)
        (rest : List SessionEvent), s.pool[k]? = some (.rotateReading a tries due) →
        a.sid = sid → findOwned s.sessions a.userId a.sid = some row → row.Live a.now →
        row.previousRefreshHash = digest p → a.presentedHash = digest p →
        row.previousValidUntil < a.now → after = .step k .ok :: rest →
        (∀ ans, .step k ans ∈ rest → ans = .ok) → 3 ≤ rest.count (.step k .ok) →
        (∀ e ∈ before ++ after, ¬ e.Advances sid) → Inactive s'.sessions sid) ∧
      (((∃ k, (k, .revoked sid) ∈ s.log) ∨ Inactive s.sessions sid) →
        ∀ hash, rotations sid hash s'.log = rotations sid hash s.log) := by
  have hbefore : ∀ e ∈ before, e.Follows digest sid := fun e he =>
    hfollows e (mem_append_left _ he)
  have hafter : ∀ e ∈ after, e.Follows digest sid := fun e he =>
    hfollows e (mem_append_right _ he)
  have hinv : LineageInv digest sid s := by
    rw [hs]
    exact (lineageInv_start clock fun row hfind => (hrow row hfind).1).run hinj hbefore
  have hinv' : LineageInv digest sid s' := by
    rw [hs']
    exact hinv.run hinj hafter
  refine ⟨hinv'.once, ?_, ?_, ?_, ?_⟩
  · intro row hfind
    obtain ⟨g, hlineage, -⟩ := hinv'.row row hfind
    obtain hnone | ⟨p, rfl, hprevious⟩ := hlineage.previous
    · exact .inl hnone
    · exact .inr ⟨p, hprevious, hlineage.current⟩
  · intro row p m k t hfind hprevious hm hk hpresents
    obtain ⟨g, hlineage, -⟩ := hinv.row row hfind
    have hold : m + 1 < g := by
      obtain hnone | ⟨q, rfl, hprevious'⟩ := hlineage.previous
      · exact absurd (hprevious.symm.trans hnone) (hne p)
      · have := hinj (hprevious.symm.trans hprevious')
        omega
    have hearly : t.Early := by
      cases t <;> trivial
    have hstale : StaleInv digest sid m k s :=
      ⟨⟨row, g, hfind, hlineage, hold⟩, ⟨t, hk, .inl hpresents⟩, hinv.quiet k t hk hearly⟩
    rw [hs']
    exact (hstale.run hinj hne hinv hafter).quiet
  · intro row a p k tries due rest hk hsid hown hlive hprevious hpresented hgrace hrest hok
      hcount hrests
    subst hsid
    obtain ⟨hfind, -⟩ := findOwned_eq_some hown
    obtain ⟨g, hlineage, -⟩ := hinv.row row hfind
    obtain ⟨-, hkey⟩ := mem_of_find hfind
    have hrevocation : RevocationInv ttl s := by
      rw [hs]
      exact revocationInv_run clock db before
    have hsteady : SteadyInv a.sid s := by
      rw [hs]
      exact (steadyInv_start clock fun row hfind => (hrow row hfind).2).run
        (revocationInv_start clock db) fun e he => hrests e (mem_append_left _ he)
    subst hrest
    have hnone : ¬ (SessionEvent.step k .ok).Advances a.sid := id
    have hread : ReuseInv a row k 3 (sessionStep ttl s (.step k .ok)) :=
      reuseInv_of_read hinj hne hk hown hlive hlineage hprevious hpresented hgrace
    have hend := hread.run hlive hkey (hrevocation.step _) (hsteady.step hrevocation.sound _ hnone)
      (fun e he => hrests e (mem_append_right _ (mem_cons_of_mem _ he))) hok
    rw [Nat.sub_eq_zero_of_le hcount] at hend
    rw [hs']
    exact hend.inactive
  · intro hrevoked
    have hinactive : Inactive s.sessions sid := by
      rcases hrevoked with ⟨k, hmem⟩ | hinactive
      · exact hinv.revoked k hmem
      · exact hinactive
    rw [hs']
    exact (rotations_run_of_inactive hinactive after).2

/-! Fixed inputs: a session whose first digest is rotated, and used again after the grace window. -/

def sampleDigest (n : ℕ) : String := String.ofList (replicate (n + 1) 'd')

theorem sampleDigest_injective : Function.Injective sampleDigest := by
  intro n m h
  have hlength := congrArg length (String.ofList_injective h)
  simpa using hlength

theorem sampleDigest_ne (n : ℕ) : sampleDigest n ≠ "" := by
  intro h
  have hlength := congrArg (fun x => x.toList.length) h
  simp [sampleDigest] at hlength

def sampleChain : SessionTable :=
  ⟨[{ sampleSession with refreshHash := sampleDigest 0 }], nodup_singleton _⟩

/-- The first digest is rotated at second `10` with a grace window of `5` seconds, and presented
again at second `20`. -/
def replayed : List SessionEvent :=
  .call (.rotateUserSessionRefresh ⟨1, "s1", sampleDigest 0, sampleDigest 1, 10, 5⟩) ::
    replicate 7 (.step 0 .ok) ++
    [.call (.rotateUserSessionRefresh ⟨1, "s1", sampleDigest 0, sampleDigest 1, 20, 5⟩),
      .step 1 .ok, .step 1 .ok]

theorem sampleArgs_follows (now : Int) :
    RotateArgs.Follows sampleDigest "s1" ⟨1, "s1", sampleDigest 0, sampleDigest 1, now, 5⟩ := by
  intro _ n hn
  rw [← sampleDigest_injective hn]

theorem replayed_follows (n : ℕ) :
    ∀ e ∈ replayed ++ replicate n (.step 1 .ok), e.Follows sampleDigest "s1" := by
  intro e he
  simp only [replayed, mem_append, mem_cons, mem_replicate, not_mem_nil] at he
  rcases he with (((rfl | ⟨-, rfl⟩) | (rfl | rfl | rfl | h)) | ⟨-, rfl⟩)
  · exact sampleArgs_follows 10
  · trivial
  · exact sampleArgs_follows 20
  · trivial
  · trivial
  · exact h.elim
  · trivial

/-- The digest is rotated once, and its second use ends the session. -/
theorem refresh_token_lineage_replayed : rotations "s1" (sampleDigest 0)
        (run (sessionStep 60) (.start 0 sampleChain) replayed).log = 1 ∧
      Inactive (run (sessionStep 60) (run (sessionStep 60) (.start 0 sampleChain) replayed)
        (replicate 4 (.step 1 .ok))).sessions "s1" := by
  refine ⟨by decide +kernel, ?_⟩
  refine (refresh_token_lineage 60 0 sampleChain sampleDigest "s1" sampleDigest_injective
    sampleDigest_ne ?_ replayed (replicate 4 (.step 1 .ok)) (replayed_follows 4) _ _ rfl
    rfl).2.2.2.1 { sampleSession with
        refreshHash := sampleDigest 1
        previousRefreshHash := sampleDigest 0
        previousValidUntil := 15
        lastActiveAt := 10 }
      ⟨1, "s1", sampleDigest 0, sampleDigest 1, 20, 5⟩ 0 1 2 60000000000
      (replicate 3 (.step 1 .ok)) (by decide +kernel) rfl (by decide +kernel)
      (by decide +kernel) rfl rfl (by decide) rfl ?_ (by decide +kernel) ?_
  · intro row hrow
    cases hrow
    exact ⟨⟨0, rfl, .inl rfl⟩, by decide⟩
  · intro ans hreply
    obtain ⟨-, heq⟩ := mem_replicate.mp hreply
    cases heq
    rfl
  · intro e he hadvances
    simp only [replayed, mem_append, mem_cons, mem_replicate, not_mem_nil] at he
    rcases he with (((rfl | ⟨-, rfl⟩) | (rfl | rfl | rfl | h)) | ⟨-, rfl⟩) <;>
      first | exact hadvances | exact h

end NewApi.Model
