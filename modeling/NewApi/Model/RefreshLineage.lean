import NewApi.Model.SessionRevocation

/-!
# The lineage of a refresh token

Every use of a refresh token replaces it by the one that is derived from it, so the tokens of a
session form a chain of generations. The row keeps the digests of the current generation and of the
one before. Any number of clients may present any digests at the same time, and a call decides on a
row that may have changed when its update runs.

The generation of a row only grows, and it grows by the compare-and-swap of a rotation, which
requires the current digest. Everything else follows: a digest is rotated once, an older digest
matches nothing, and a row that is not active is not changed by a rotation.

The generations are given by a function `digest` whose values are distinct. A rotation that presents
the digest of a generation asks for the digest of the next one, since the next token is a function
of the presented one (`service/auth_session.go`, line 247).
-/

namespace NewApi.Model

open StepSystem List Table

/-! ### Generations -/

/-- The row is at generation `g`: its digest is that of `g`, and the previous one, if any, is that
of the generation before. -/
structure Lineage (digest : ℕ → String) (row : UserSession) (g : ℕ) : Prop where
  current : row.refreshHash = digest g
  previous : row.previousRefreshHash = "" ∨ ∃ p, g = p + 1 ∧ row.previousRefreshHash = digest p

/-- A rotation of the session asks for the digest that follows the presented one. -/
def RotateArgs.Follows (digest : ℕ → String) (sid : String) (a : RotateArgs) : Prop :=
  a.sid = sid → ∀ n, a.presentedHash = digest n → a.nextHash = digest (n + 1)

def UserSession.Begins (digest : ℕ → String) (sid : String) (s : UserSession) : Prop :=
  s.sid = sid → s.refreshHash = digest 0 ∧ s.previousRefreshHash = ""

def SessionCall.Follows (digest : ℕ → String) (sid : String) : SessionCall → Prop
  | .createUserSession sess => sess.Begins digest sid
  | .rotateUserSessionRefresh a => a.Follows digest sid
  | _ => True

def SessionEvent.Follows (digest : ℕ → String) (sid : String) : SessionEvent → Prop
  | .call c => c.Follows digest sid
  | .tick _ | .step _ _ => True

def rotations (sid hash : String) (log : List (ℕ × SessionEffect)) : ℕ :=
  log.countP fun x => x.2 = .rotated sid hash

def SessionEffect.sid : SessionEffect → String
  | .rotated sid _ => sid
  | .revoked sid => sid

section

variable {digest : ℕ → String} {row : UserSession} {g m : ℕ}

theorem Lineage.ne_of_lt (hinj : Function.Injective digest) (hne : ∀ n, digest n ≠ "")
    (h : Lineage digest row g) (hm : m + 1 < g) :
    row.refreshHash ≠ digest m ∧ row.previousRefreshHash ≠ digest m := by
  refine ⟨?_, ?_⟩
  · rw [h.current]
    intro heq
    have := hinj heq
    omega
  obtain hnone | ⟨p, hp, hprevious⟩ := h.previous
  · rw [hnone]
    exact (hne m).symm
  rw [hprevious]
  intro heq
  have := hinj heq
  omega

theorem Lineage.rotate (h : Lineage digest row g)
    {a : RotateArgs} {sid previous : String} (hfollows : a.Follows digest sid) (hsid : a.sid = sid)
    (hhash : row.refreshHash = a.presentedHash) (hprevious : previous = a.presentedHash) :
    Lineage digest (row.rotate a previous) (g + 1) := by
  have hpresented : a.presentedHash = digest g := hhash.symm.trans h.current
  exact ⟨hfollows hsid g hpresented, .inr ⟨g, rfl, hprevious.trans hpresented⟩⟩

theorem rotations_eq_zero {sid hash : String} {k : ℕ} {effects : List SessionEffect}
    (h : ∀ e ∈ effects, e ≠ .rotated sid hash) :
    rotations sid hash (effects.map fun e => (k, e)) = 0 := by
  refine countP_eq_zero.mpr fun x hx => ?_
  obtain ⟨e, he, rfl⟩ := mem_map.mp hx
  simpa using h e he

end

/-! ### One row -/

inductive SessionMove (t : SessionThread) (sid : String) (row : UserSession) :
    UserSession → List SessionEffect → Prop
  | same {effects : List SessionEffect} (hother : ∀ e ∈ effects, e.sid ≠ sid) :
      SessionMove t sid row row effects
  | rotate (a : RotateArgs) (tries : ℕ) (sess : UserSession) (due : Int)
      (ht : t = .rotateUpdating a tries sess due) (hsid : a.sid = sid)
      (hlive : row.Live a.now) (hhash : row.refreshHash = a.presentedHash) :
      SessionMove t sid row (row.rotate a sess.refreshHash) [.rotated sid a.presentedHash]
  | advance (row' : UserSession)
      (hrow : row' = { row with
        version := row'.version
        userAuthVersion := row'.userAuthVersion
        lastActiveAt := row'.lastActiveAt })
      (ht : ∃ a sess due, t = .advanceUpdating a sess due ∧ a.sid = sid) :
      SessionMove t sid row row' []
  | revoke (now : Int) (reason : String) {effects : List SessionEffect}
      (hactive : row.status = .active) (heffects : ∀ e ∈ effects, ∃ other, e = .revoked other) :
      SessionMove t sid row (row.deny .revoked now reason) effects

section

variable {db db' : SessionTable} {t : SessionThread} {sid : String}
  {effects : List SessionEffect} {row row' : UserSession}

theorem find_save_other {other : String} (row' : UserSession)
    (hfind : db.find other = some row) (hsid : row'.sid = row.sid) (hne : other ≠ sid) :
    (db.save row').find sid = db.find sid := by
  obtain ⟨-, hkey⟩ := mem_of_find hfind
  refine find_save_of_ne fun heq => hne ?_
  rw [← hkey, ← hsid, heq]

theorem singleton_ne {e : SessionEffect} (h : e.sid ≠ sid) : ∀ e' ∈ [e], e'.sid ≠ sid := by
  intro e' he'
  rw [mem_singleton] at he'
  rw [he']
  exact h

theorem revokedWhere_ne {sids : List String}
    (h : ∀ row, db.find sid = some row → ¬ (row.sid ∈ sids ∧ row.status = .active)) :
    ∀ e ∈ (revokedWhere db sids).map SessionEffect.revoked, e.sid ≠ sid := by
  rintro e he rfl
  obtain ⟨other, hother, rfl⟩ := mem_map.mp he
  obtain ⟨r, hr, rfl⟩ := mem_map.mp hother
  obtain ⟨hmem, hcond⟩ := mem_filter.mp hr
  exact h r (find_of_mem hmem) (of_decide_eq_true hcond)

theorem revokedWhere_revoked (db : SessionTable) (sids : List String) :
    ∀ e ∈ (revokedWhere db sids).map SessionEffect.revoked, ∃ other, e = .revoked other := by
  intro e he
  obtain ⟨other, -, rfl⟩ := mem_map.mp he
  exact ⟨other, rfl⟩

variable (h : TableMove db t db' effects)
include h

/-- **What a step does to the row of a session.** -/
theorem TableMove.sessionMove (hrow : db.find sid = some row) :
    ∃ row', db'.find sid = some row' ∧ SessionMove t sid row row' effects := by
  cases h with
  | same => exact ⟨row, hrow, .same nofun⟩
  | insert sess hnew _ => exact ⟨row, find_insert_of_find hrow, .same nofun⟩
  | rotate a tries sess r due ht hfind hlive hhash =>
    obtain ⟨-, hsid⟩ := mem_of_find hfind
    by_cases hsame : a.sid = sid
    · subst hsame
      rw [hfind] at hrow
      cases hrow
      exact ⟨_, find_save_of_find hfind hsid, .rotate a tries sess due ht rfl hlive hhash⟩
    · exact ⟨row, (find_save_other (r.rotate a sess.refreshHash) hfind rfl hsame).trans hrow,
        .same (singleton_ne hsame)⟩
  | advance r r' hfind hr ht =>
    have hsid : r'.sid = r.sid := by rw [hr]
    obtain ⟨a, sess, due, ht, ha⟩ := ht
    by_cases hsame : r.sid = sid
    · subst hsame
      rw [hfind] at hrow
      cases hrow
      exact ⟨r', find_save_of_find hfind hsid, .advance r' hr ⟨a, sess, due, ht, ha⟩⟩
    · exact ⟨row, (find_save_other r' hfind hsid hsame).trans hrow, .same nofun⟩
  | revoke sids r ht =>
    refine ⟨_, by rw [find_revokeWhere, hrow]; rfl, ?_⟩
    dsimp only
    split
    next hcond => exact .revoke r.now r.reason hcond.2 (revokedWhere_revoked db sids)
    rename_i hcond
    refine .same (revokedWhere_ne fun row' hrow' => ?_)
    rw [hrow] at hrow'
    cases hrow'
    exact hcond
  | reuse a sess r ht hfind hlive =>
    obtain ⟨-, hsid⟩ := mem_of_find hfind
    by_cases hsame : a.sid = sid
    · subst hsame
      rw [hfind] at hrow
      cases hrow
      refine ⟨_, find_save_of_find hfind hsid, .revoke a.now _ hlive.1 ?_⟩
      intro e he
      exact ⟨a.sid, mem_singleton.mp he⟩
    · exact ⟨row, (find_save_other (r.deny .revoked a.now "refresh_reuse") hfind rfl hsame).trans
        hrow, .same (singleton_ne hsame)⟩

/-- **What a step does while the session is not stored**: nothing, unless it creates the session. -/
theorem TableMove.absent (hnone : db.find sid = none) :
    (∀ e ∈ effects, e.sid ≠ sid) ∧ ∀ row, db'.find sid = some row →
      ∃ given due, t = .inserting given due ∧ given.sid = sid ∧
        row.refreshHash = given.refreshHash ∧
        row.previousRefreshHash = given.previousRefreshHash ∧ 0 < row.version := by
  have hne {other : String} {r : UserSession} (hr : db.find other = some r) :
      other ≠ sid := by
    rintro rfl
    exact absurd (hnone.symm.trans hr) nofun
  have hsaved {other : String} {r : UserSession} (r' : UserSession)
      (hr : db.find other = some r) (hsid : r'.sid = r.sid) (row : UserSession) :
      (db.save r').find sid ≠ some row := by
    rw [find_save_other r' hr hsid (hne hr), hnone]
    exact nofun
  cases h with
  | same => exact ⟨nofun, fun row hrow => absurd (hnone.symm.trans hrow) nofun⟩
  | insert sess hnew ht =>
    refine ⟨nofun, fun row hrow => ?_⟩
    obtain ⟨given, due, ht, hsid, hcurrent, hprevious, hversion⟩ := ht
    obtain ⟨hmem, hkey⟩ := mem_of_find hrow
    obtain rfl | hold := (mem_insert hnew).mp hmem
    · exact ⟨given, due, ht, hsid.symm.trans hkey, hcurrent, hprevious, hversion⟩
    · exact absurd hkey (hne (find_of_mem hold))
  | rotate a tries sess r due _ hfind _ _ =>
    exact ⟨singleton_ne (hne hfind),
      fun row hrow => absurd hrow (hsaved (r.rotate a sess.refreshHash) hfind rfl row)⟩
  | advance r r' hfind hr _ =>
    have hsid : r'.sid = r.sid := by rw [hr]
    exact ⟨nofun, fun row hrow => absurd hrow (hsaved r' hfind hsid row)⟩
  | revoke sids r _ =>
    refine ⟨revokedWhere_ne fun row hrow => absurd (hnone.symm.trans hrow) nofun, ?_⟩
    intro row hrow
    rw [find_revokeWhere, hnone] at hrow
    cases hrow
  | reuse a sess r _ hfind _ =>
    exact ⟨singleton_ne (hne hfind),
      fun row hrow => absurd hrow (hsaved (r.deny .revoked a.now "refresh_reuse") hfind rfl row)⟩

end

/-! ### Calls before their effect -/

/-- The calls before their effect that may still create, rotate or advance a session, or present a
digest. -/
def SessionThread.Early : SessionThread → Prop
  | .creating _ | .inserting _ _ | .rotating _ | .rotateCapturing _ _ | .rotateReading _ _ _
  | .rotateUpdating _ _ _ _ | .revokingByHash _ _ _ | .lockingByHash _ _ _ | .advancing _
  | .advanceStarting _ _ | .advanceReading _ _ _ | .advanceUpdating _ _ _ => True
  | _ => False

def SessionThread.Follows (digest : ℕ → String) (sid : String) : SessionThread → Prop
  | .creating sess | .inserting sess _ => sess.Begins digest sid
  | .rotating a | .rotateCapturing a _ | .rotateReading a _ _ => a.Follows digest sid
  | .rotateUpdating a _ sess _ => a.Follows digest sid ∧ sess.refreshHash = a.presentedHash
  | _ => True

def SessionThread.Presents (sid hash : String) : SessionThread → Prop
  | .rotating a | .rotateCapturing a _ | .rotateReading a _ _ =>
    a.sid = sid ∧ a.presentedHash = hash
  | .revokingByHash sid' hash' _ | .lockingByHash _ sid' hash' => sid' = sid ∧ hash' = hash
  | _ => False

section

variable {digest : ℕ → String} {sid : String} {ttl clock : Int}
  {db db' : SessionTable} {cache : SessionCache} {ans : SessionReply}
  {t t' : SessionThread} {effects : List SessionEffect}

theorem SessionThread.follows_of_not_early (h : ¬ t.Early) : t.Follows digest sid := by
  cases t <;> first | trivial | exact absurd trivial h

theorem SessionThread.Plain.not_early (h : t.Plain) : ¬ t.Early := by
  cases t <;> first | exact id | cases h

theorem not_early_afterDeny (next : AfterDeny) (err : Option SessionError) :
    ¬ (next.thread err).Early := by
  fun_cases AfterDeny.thread next err <;> exact id

/-- **A call that is past its effect stays past it**, and before it there is none. -/
theorem ThreadMove.early (hmove : ThreadMove ttl clock db t db' effects t')
    (h : t'.Early) : t.Early ∧ effects = [] := by
  cases hmove with
  | plain hplain => exact absurd h hplain.not_early
  | undenied next _ err | denied next _ err => exact absurd h (not_early_afterDeny next err)
  | list _ | revokeBulk _ _ _ => exact absurd h (not_early_afterDeny _ none)
  | create _ | beginByHash _ _ _ _ | rotate _ _ _ | rotateCapture _ _ | rotateRead _ _ _
  | rotateAgain _ _ _ _ | advance _ | advanceStart _ _ | advanceRead _ _ => exact ⟨trivial, rfl⟩
  | _ => cases h

theorem effects_query (t' : SessionThread) : (query db cache ans t').effects = [] := by
  cases ans <;> rfl

/-- **A step keeps to the generations.** -/
theorem ThreadMove.follows (hmove : ThreadMove ttl clock db t db' effects t')
    (h : t.Follows digest sid) : t'.Follows digest sid := by
  cases hmove with
  | plain hplain => exact SessionThread.follows_of_not_early hplain.not_early
  | undenied next _ err | denied next _ err =>
    exact SessionThread.follows_of_not_early (not_early_afterDeny next err)
  | list _ | revokeBulk _ _ _ =>
    exact SessionThread.follows_of_not_early (not_early_afterDeny _ none)
  | create _ | rotate _ _ _ | rotateCapture _ _ => exact h
  | rotateRead _ _ hhash => exact ⟨h, hhash⟩
  | rotateAgain _ _ _ _ => exact h.1
  | _ => trivial

theorem follows_sessionCall {c : SessionCall} (h : c.Follows digest sid) :
    c.thread.Follows digest sid := by
  cases c with
  | createUserSession sess => exact h
  | rotateUserSessionRefresh a =>
    simp only [SessionCall.thread]
    split
    · trivial
    split
    · trivial
    · exact h
  | _ =>
    simp only [SessionCall.thread]
    split_ifs <;> trivial

/-- **A digest that is too old matches nothing**: the call ends without an effect. -/
theorem stale_exec (hinj : Function.Injective digest) (hne : ∀ n, digest n ≠ "")
    {row : UserSession} {g m : ℕ} (hrow : db.find sid = some row)
    (hlineage : Lineage digest row g) (hm : m + 1 < g) (h : t.Presents sid (digest m)) :
    ((t.exec ttl clock db cache ans).thread.Presents sid (digest m) ∨
        ∃ result, (t.exec ttl clock db cache ans).thread = .done result) ∧
      (t.exec ttl clock db cache ans).effects = [] := by
  obtain ⟨hcurrent, hprevious⟩ := hlineage.ne_of_lt hinj hne hm
  cases t with
  | rotating a | revokingByHash sid' hash reason => exact ⟨.inl h, rfl⟩
  | rotateCapturing a tries =>
    cases tries with
    | zero => exact ⟨.inr ⟨_, rfl⟩, rfl⟩
    | succ tries => exact ⟨.inl h, rfl⟩
  | rotateReading a tries due =>
    refine ⟨.inr ?_, effects_query _⟩
    refine thread_query (P := fun t => ∃ result, t = .done result) (fun e => ⟨_, rfl⟩) ?_
    unfold rotateRead
    split
    · exact ⟨_, rfl⟩
    rename_i sess hown
    obtain ⟨hsid, hhash⟩ := h
    have hfind := (findOwned_eq_some hown).1
    rw [hsid, hrow] at hfind
    cases hfind
    split
    · exact ⟨_, rfl⟩
    · rw [hhash, if_neg hcurrent, if_pos (Or.inr hprevious)]
      exact ⟨_, rfl⟩
  | lockingByHash r sid' hash =>
    refine ⟨.inr ?_, effects_query _⟩
    refine thread_query (P := fun t => ∃ result, t = .done result) (fun e => ⟨_, rfl⟩) ?_
    obtain ⟨rfl, rfl⟩ := h
    unfold lockByHash
    rw [hrow]
    dsimp only
    rw [if_pos (⟨hcurrent, fun hvalid => hprevious hvalid.2.2⟩ : _ ∧ _)]
    split <;> exact ⟨_, rfl⟩
  | _ => exact absurd h id

end

/-! ### The chain over a run -/

section

variable {digest : ℕ → String} {sid : String} {t : SessionThread} {row row' : UserSession}
  {effects : List SessionEffect} {g : ℕ} (h : SessionMove t sid row row' effects)
include h

/-- **The generation of a row grows by a rotation of its digest, and by nothing else.** -/
theorem SessionMove.lineage (hfollows : t.Follows digest sid) (hlineage : Lineage digest row g) :
    Lineage digest row' g ∧ (∀ hash, .rotated sid hash ∉ effects) ∨
      Lineage digest row' (g + 1) ∧ effects = [.rotated sid (digest g)] := by
  cases h with
  | same hother => exact .inl ⟨hlineage, fun hash hmem => hother _ hmem rfl⟩
  | rotate a tries sess due ht hsid hlive hhash =>
    subst ht
    refine .inr ⟨hlineage.rotate hfollows.1 hsid hhash hfollows.2, ?_⟩
    rw [← hhash, hlineage.current]
  | advance row' hrow _ =>
    refine .inl ⟨⟨?_, ?_⟩, nofun⟩
    · rw [hrow]
      exact hlineage.current
    · rw [hrow]
      exact hlineage.previous
  | revoke now reason hactive heffects =>
    refine .inl ⟨⟨hlineage.current, hlineage.previous⟩, fun hash hmem => ?_⟩
    obtain ⟨other, hother⟩ := heffects _ hmem
    cases hother

/-- **A row that is not active is not rotated, and stays so.** -/
theorem SessionMove.inactive (hstatus : row.status ≠ .active) :
    row'.status ≠ .active ∧ ∀ hash, .rotated sid hash ∉ effects := by
  cases h with
  | same hother => exact ⟨hstatus, fun hash hmem => hother _ hmem rfl⟩
  | rotate a tries sess due ht hsid hlive hhash => exact absurd hlive.1 hstatus
  | advance row' hrow _ =>
    refine ⟨?_, nofun⟩
    rw [hrow]
    exact hstatus
  | revoke now reason hactive heffects => exact absurd hactive hstatus

theorem SessionMove.revoked (hmem : .revoked sid ∈ effects) : row'.status ≠ .active := by
  cases h with
  | same hother => exact absurd rfl (hother _ hmem)
  | rotate a tries sess due ht hsid hlive hhash =>
    rw [mem_singleton] at hmem
    cases hmem
  | advance row' hrow _ => cases hmem
  | revoke now reason hactive heffects => exact nofun

end

/-- The chain in the whole system: the calls keep to it, every rotated generation is behind the
stored one, and no call that may still act has acted. -/
structure LineageInv (digest : ℕ → String) (sid : String) (s : SessionState) : Prop where
  follows : ∀ t ∈ s.pool, t.Follows digest sid
  row : ∀ row, s.sessions.find sid = some row →
    ∃ g, Lineage digest row g ∧ ∀ n, 0 < rotations sid (digest n) s.log → n < g
  absent : s.sessions.find sid = none → ∀ x ∈ s.log, x.2.sid ≠ sid
  once : ∀ n, rotations sid (digest n) s.log ≤ 1
  revoked : ∀ k, (k, .revoked sid) ∈ s.log → Inactive s.sessions sid
  owner : ∀ x ∈ s.log, x.1 < s.pool.length
  quiet : ∀ (k : ℕ) (t : SessionThread), s.pool[k]? = some t → t.Early → ∀ e, (k, e) ∉ s.log

section

variable {digest : ℕ → String} {sid : String} {ttl : Int} {s : SessionState} {k : ℕ}
  {t : SessionThread} {ans : SessionReply} {o : SessionOutcome}

theorem mem_log_after {j : ℕ} {e : SessionEffect} :
    (j, e) ∈ (s.after k o).log ↔ (j, e) ∈ s.log ∨ j = k ∧ e ∈ o.effects := by
  simp only [SessionState.after, mem_append, mem_map, Prod.mk.injEq]
  constructor
  · rintro (hold | ⟨e', he', rfl, rfl⟩)
    · exact .inl hold
    · exact .inr ⟨rfl, he'⟩
  · rintro (hold | ⟨rfl, he⟩)
    · exact .inl hold
    · exact .inr ⟨e, he, rfl, rfl⟩

theorem rotations_after (hash : String) (o : SessionOutcome) :
    rotations sid hash (s.after k o).log =
      rotations sid hash s.log + rotations sid hash (o.effects.map fun e => (k, e)) :=
  countP_append

theorem rotations_after_of_notMem {hash : String} (h : .rotated sid hash ∉ o.effects) :
    rotations sid hash (s.after k o).log = rotations sid hash s.log := by
  rw [rotations_after, rotations_eq_zero, add_zero]
  rintro e he rfl
  exact h he

theorem rotations_single {n g : ℕ} (hinj : Function.Injective digest) :
    rotations sid (digest n) [(k, .rotated sid (digest g))] = if n = g then 1 else 0 := by
  unfold rotations
  by_cases hn : n = g
  · subst hn
    simp
  · have hne : digest g ≠ digest n := fun heq => hn (hinj heq).symm
    simp [hn, hne]

theorem LineageInv.rotations_absent (h : LineageInv digest sid s)
    (hnone : s.sessions.find sid = none) (hash : String) : rotations sid hash s.log = 0 := by
  refine countP_eq_zero.mpr fun x hx heq => h.absent hnone x hx ?_
  rw [of_decide_eq_true heq]
  rfl

theorem LineageInv.rows_after (hinj : Function.Injective digest) (h : LineageInv digest sid s)
    (hmove : TableMove s.sessions t o.sessions o.effects) (hfollows : t.Follows digest sid) :
    (∀ row, o.sessions.find sid = some row → ∃ g, Lineage digest row g ∧
        ∀ n, 0 < rotations sid (digest n) (s.after k o).log → n < g) ∧
      ∀ n, rotations sid (digest n) (s.after k o).log ≤ 1 := by
  cases hrow : s.sessions.find sid with
  | none =>
    obtain ⟨hother, hnew⟩ := hmove.absent hrow
    have hzero (n : ℕ) : rotations sid (digest n) (s.after k o).log = 0 := by
      rw [rotations_after_of_notMem fun hmem => hother _ hmem rfl]
      exact h.rotations_absent hrow _
    refine ⟨fun row hfind => ?_, fun n => by rw [hzero n]; exact Nat.zero_le 1⟩
    obtain ⟨given, due, rfl, hsid, hcurrent, hprevious, -⟩ := hnew row hfind
    obtain ⟨hbegin, hbegin'⟩ := hfollows hsid
    refine ⟨0, ⟨hcurrent.trans hbegin, .inl (hprevious.trans hbegin')⟩, fun n hn => ?_⟩
    rw [hzero n] at hn
    exact absurd hn (Nat.lt_irrefl 0)
  | some row =>
    obtain ⟨g, hlineage, hbehind⟩ := h.row row hrow
    obtain ⟨row', hrow', hm⟩ := hmove.sessionMove hrow
    rcases hm.lineage hfollows hlineage with ⟨hsame, hnone⟩ | ⟨hnext, heffects⟩
    · have hlog (n : ℕ) : rotations sid (digest n) (s.after k o).log =
          rotations sid (digest n) s.log := rotations_after_of_notMem (hnone (digest n))
      refine ⟨fun r hr => ?_, fun n => by rw [hlog n]; exact h.once n⟩
      rw [hrow'] at hr
      cases hr
      exact ⟨g, hsame, fun n hn => hbehind n (by rwa [hlog n] at hn)⟩
    · -- generation `g` is rotated for the first time, since all earlier ones are behind it
      have hlog (n : ℕ) : rotations sid (digest n) (s.after k o).log =
          rotations sid (digest n) s.log + if n = g then 1 else 0 := by
        rw [rotations_after, heffects]
        exact congrArg _ (rotations_single hinj)
      have hfirst : rotations sid (digest g) s.log = 0 := by
        by_contra hpos
        exact absurd (hbehind g (Nat.pos_of_ne_zero hpos)) (Nat.lt_irrefl g)
      refine ⟨fun r hr => ?_, fun n => ?_⟩
      · rw [hrow'] at hr
        cases hr
        refine ⟨g + 1, hnext, fun n hn => ?_⟩
        rw [hlog n] at hn
        by_cases hng : n = g
        · omega
        · rw [if_neg hng] at hn
          exact (hbehind n hn).trans (Nat.lt_succ_self g)
      · rw [hlog n]
        by_cases hng : n = g
        · rw [hng, hfirst, if_pos rfl]
        · rw [if_neg hng]
          exact h.once n

theorem LineageInv.revoked_after (h : LineageInv digest sid s)
    (hmove : TableMove s.sessions t o.sessions o.effects) {j : ℕ}
    (hmem : (j, .revoked sid) ∈ (s.after k o).log) : Inactive o.sessions sid := by
  rcases mem_log_after.mp hmem with hold | ⟨-, hnew⟩
  · exact (h.revoked j hold).keeps hmove.keeps
  cases hrow : s.sessions.find sid with
  | none => exact absurd rfl ((hmove.absent hrow).1 _ hnew)
  | some row =>
    obtain ⟨row', hrow', hm⟩ := hmove.sessionMove hrow
    exact ⟨row', hrow', hm.revoked hnew⟩

theorem LineageInv.after (hinj : Function.Injective digest) (h : LineageInv digest sid s)
    (hk : s.pool[k]? = some t) :
    LineageInv digest sid (s.after k (t.exec ttl s.clock s.sessions s.cache ans)) := by
  have hfollows : t.Follows digest sid := h.follows t (mem_of_getElem? hk)
  have hmove : TableMove s.sessions t (t.exec ttl s.clock s.sessions s.cache ans).sessions
      (t.exec ttl s.clock s.sessions s.cache ans).effects := tableMove_exec t
  have hearly : (t.exec ttl s.clock s.sessions s.cache ans).thread.Early →
      t.Early ∧ (t.exec ttl s.clock s.sessions s.cache ans).effects = [] :=
    (threadMove_exec t).early
  have hlt : k < s.pool.length := (List.getElem?_eq_some_iff.mp hk).1
  have hnext : (t.exec ttl s.clock s.sessions s.cache ans).thread.Follows digest sid :=
    (threadMove_exec t).follows hfollows
  generalize t.exec ttl s.clock s.sessions s.cache ans = o at hmove hearly hnext ⊢
  obtain ⟨hrow, honce⟩ := h.rows_after hinj (k := k) hmove hfollows
  refine ⟨?_, hrow, ?_, honce, fun j hmem => h.revoked_after hmove hmem, ?_, ?_⟩
  · exact Pool.forall_mem_set (fun _ u _ hj => h.follows u (mem_of_getElem? hj)) hnext
  · intro hnone x hx
    -- a stored session stays stored, so the session was absent before
    have hbefore : s.sessions.find sid = none := by
      cases hfind : s.sessions.find sid with
      | none => rfl
      | some row =>
        obtain ⟨row', hrow', -⟩ := hmove.sessionMove hfind
        exact absurd (hnone.symm.trans hrow') nofun
    rcases mem_log_after.mp hx with hold | ⟨-, hnew⟩
    · exact h.absent hbefore x hold
    · exact (hmove.absent hbefore).1 x.2 hnew
  · intro x hx
    change x.1 < (s.pool.set k o.thread).length
    rw [length_set]
    rcases mem_log_after.mp hx with hold | ⟨hxk, -⟩
    · exact h.owner x hold
    · rw [hxk]
      exact hlt
  · intro j u hj hu e he
    change (s.pool.set k o.thread)[j]? = some u at hj
    by_cases hjk : k = j
    · subst hjk
      rw [getElem?_set_self hlt] at hj
      cases hj
      obtain ⟨ht, heffects⟩ := hearly hu
      rcases mem_log_after.mp he with hold | ⟨-, hnew⟩
      · exact h.quiet k t hk ht e hold
      · rw [heffects] at hnew
        cases hnew
    · rw [getElem?_set_ne hjk] at hj
      rcases mem_log_after.mp he with hold | ⟨hkj, -⟩
      · exact h.quiet j u hj hu e hold
      · exact hjk hkj.symm

/-- **One step of the system** keeps the chain. -/
theorem LineageInv.step (hinj : Function.Injective digest) (h : LineageInv digest sid s)
    (e : SessionEvent) (he : e.Follows digest sid) :
    LineageInv digest sid (sessionStep ttl s e) := by
  cases e with
  | tick span => exact ⟨h.follows, h.row, h.absent, h.once, h.revoked, h.owner, h.quiet⟩
  | call c =>
    refine ⟨?_, h.row, h.absent, h.once, h.revoked, ?_, ?_⟩
    · intro t ht
      rcases mem_append.mp ht with ht | ht
      · exact h.follows t ht
      · rw [mem_singleton.mp ht]
        exact follows_sessionCall he
    · intro x hx
      change x.1 < (s.pool ++ [c.thread]).length
      rw [length_append]
      exact Nat.lt_add_right 1 (h.owner x hx)
    · intro k t hk ht e hmem
      have hlt := h.owner _ hmem
      change (s.pool ++ [c.thread])[k]? = some t at hk
      rw [getElem?_append_left hlt] at hk
      exact h.quiet k t hk ht e hmem
  | step k ans =>
    cases hk : s.pool[k]? with
    | none =>
      rw [sessionStep_of_none hk]
      exact h
    | some t =>
      rw [sessionStep_of_some hk]
      exact h.after hinj hk

theorem lineageInv_start (clock : Int) {db : SessionTable}
    (h : ∀ row, db.find sid = some row → ∃ g, Lineage digest row g) :
    LineageInv digest sid (.start clock db) where
  follows _ ht := by cases ht
  row row hrow := by
    obtain ⟨g, hg⟩ := h row hrow
    exact ⟨g, hg, fun n hn => absurd hn (Nat.lt_irrefl 0)⟩
  absent _ _ hx := by cases hx
  once _ := Nat.zero_le 1
  revoked _ hmem := by cases hmem
  owner _ hx := by cases hx
  quiet _ _ hk := by cases hk

/-- **A whole run** keeps the chain. -/
theorem LineageInv.run (hinj : Function.Injective digest) (h : LineageInv digest sid s)
    {events : List SessionEvent} (hevents : ∀ e ∈ events, e.Follows digest sid) :
    LineageInv digest sid (StepSystem.run (sessionStep ttl) s events) :=
  run_induction (P := fun _ e => e.Follows digest sid) (fun _ e h he => h.step hinj e he) h
    (along_of_forall_mem hevents)

end

/-! ### Digests that are too old, and sessions that are not active -/

/-- Call `k` presents the digest of a generation before the previous one, or has ended without an
effect. -/
structure StaleInv (digest : ℕ → String) (sid : String) (m k : ℕ) (s : SessionState) : Prop where
  row : ∃ row g, s.sessions.find sid = some row ∧ Lineage digest row g ∧ m + 1 < g
  thread : ∃ t, s.pool[k]? = some t ∧ (t.Presents sid (digest m) ∨ ∃ result, t = .done result)
  quiet : ∀ e, (k, e) ∉ s.log

variable {digest : ℕ → String} {sid : String} {ttl : Int} {s : SessionState} {k m : ℕ}
  {t : SessionThread} {ans : SessionReply}

theorem LineageInv.generation_step (h : LineageInv digest sid s) (e : SessionEvent) {b : ℕ}
    (hrow : ∃ row g, s.sessions.find sid = some row ∧ Lineage digest row g ∧ b < g) :
    ∃ row g, (sessionStep ttl s e).sessions.find sid = some row ∧ Lineage digest row g ∧
      b < g := by
  obtain ⟨row, g, hfind, hlineage, hb⟩ := hrow
  cases e with
  | tick span | call c => exact ⟨row, g, hfind, hlineage, hb⟩
  | step j ans =>
    rcases hj : s.pool[j]? with - | u
    · rw [sessionStep_of_none hj]
      exact ⟨row, g, hfind, hlineage, hb⟩
    rw [sessionStep_of_some hj]
    obtain ⟨row', hrow', hm⟩ := (tableMove_exec u).sessionMove hfind
    rcases hm.lineage (h.follows u (mem_of_getElem? hj)) hlineage with
      ⟨hsame, -⟩ | ⟨hnext, -⟩
    · exact ⟨row', g, hrow', hsame, hb⟩
    · exact ⟨row', g + 1, hrow', hnext, hb.trans (Nat.lt_succ_self g)⟩

section

variable (hinj : Function.Injective digest) (hne : ∀ n, digest n ≠ "")
include hinj hne

theorem StaleInv.effects (h : StaleInv digest sid m k s) (hk : s.pool[k]? = some t) :
    (t.exec ttl s.clock s.sessions s.cache ans).effects = [] ∧
      ((t.exec ttl s.clock s.sessions s.cache ans).thread.Presents sid (digest m) ∨
        ∃ result, (t.exec ttl s.clock s.sessions s.cache ans).thread = .done result) := by
  obtain ⟨row, g, hfind, hlineage, hm⟩ := h.row
  obtain ⟨u, hu, hpresents⟩ := h.thread
  rw [hk] at hu
  cases hu
  rcases hpresents with hpresents | ⟨result, rfl⟩
  · exact (stale_exec hinj hne hfind hlineage hm hpresents).symm
  · exact ⟨rfl, .inr ⟨result, rfl⟩⟩

variable (hinv : LineageInv digest sid s)
include hinv

/-- **One step of the system** leaves the call without an effect. -/
theorem StaleInv.step (h : StaleInv digest sid m k s) (e : SessionEvent) :
    StaleInv digest sid m k (sessionStep ttl s e) := by
  refine ⟨hinv.generation_step e h.row, ?_, ?_⟩
  · obtain ⟨t, hk, hpresents⟩ := h.thread
    rcases @thread_sessionStep ttl s k t hk e with hsame | ⟨ans, -, hmoved⟩
    · exact ⟨t, hsame, hpresents⟩
    · exact ⟨_, hmoved, (h.effects hinj hne hk).2⟩
  cases e with
  | tick span | call c => exact h.quiet
  | step j ans =>
    rcases hj : s.pool[j]? with - | u
    · rw [sessionStep_of_none hj]
      exact h.quiet
    rw [sessionStep_of_some hj]
    intro e he
    rcases mem_log_after.mp he with hold | ⟨rfl, hnew⟩
    · exact h.quiet e hold
    · rw [(h.effects hinj hne hj).1] at hnew
      cases hnew

/-- **A whole run** leaves the call without an effect. -/
theorem StaleInv.run (h : StaleInv digest sid m k s) {events : List SessionEvent}
    (hevents : ∀ e ∈ events, e.Follows digest sid) :
    StaleInv digest sid m k (StepSystem.run (sessionStep ttl) s events) := by
  have hstep (s : SessionState) (e : SessionEvent)
      (h : LineageInv digest sid s ∧ StaleInv digest sid m k s) (he : e.Follows digest sid) :
      LineageInv digest sid (sessionStep ttl s e) ∧
        StaleInv digest sid m k (sessionStep ttl s e) :=
    ⟨h.1.step hinj e he, h.2.step hinj hne h.1 e⟩
  exact (run_induction hstep ⟨hinv, h⟩ (along_of_forall_mem hevents)).2

end

/-- **One step of the system** rotates no session that is not active. -/
theorem rotations_step_of_inactive (h : Inactive s.sessions sid) (e : SessionEvent) :
    Inactive (sessionStep ttl s e).sessions sid ∧
      ∀ hash, rotations sid hash (sessionStep ttl s e).log = rotations sid hash s.log := by
  cases e with
  | tick span | call c => exact ⟨h, fun _ => rfl⟩
  | step k ans =>
    cases hk : s.pool[k]? with
    | none =>
      rw [sessionStep_of_none hk]
      exact ⟨h, fun _ => rfl⟩
    | some t =>
      rw [sessionStep_of_some hk]
      obtain ⟨row, hrow, hstatus⟩ := h
      obtain ⟨row', hrow', hm⟩ := (tableMove_exec t).sessionMove hrow
      obtain ⟨hstatus', hnone⟩ := hm.inactive hstatus
      exact ⟨⟨row', hrow', hstatus'⟩, fun hash => rotations_after_of_notMem (hnone hash)⟩

/-- **After a revocation nothing is rotated.** -/
theorem rotations_run_of_inactive (h : Inactive s.sessions sid) (events : List SessionEvent) :
    Inactive (run (sessionStep ttl) s events).sessions sid ∧
      ∀ hash, rotations sid hash (run (sessionStep ttl) s events).log =
        rotations sid hash s.log := by
  induction events generalizing s with
  | nil => exact ⟨h, fun _ => rfl⟩
  | cons e events ih =>
    obtain ⟨hinactive, hlog⟩ := @rotations_step_of_inactive sid ttl s h e
    obtain ⟨hend, hrest⟩ := ih hinactive
    exact ⟨hend, fun hash => (hrest hash).trans (hlog hash)⟩

end NewApi.Model
