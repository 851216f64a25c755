import NewApi.Foundation.Expiring
import NewApi.Foundation.Table
import NewApi.Foundation.Threads

/-!
# The second factor and its lock

A user's second factor (`model/twofa.go`) accepts a one-time password or one of a few backup codes.
Five failures lock it for five minutes. Every request loads the row, checks the lock on what it has
loaded, and writes the row when the code has been checked. A failure is counted by a
compare-and-swap that leaves a lock alone; a success overwrites the counter and the lock with what
it has in hand.

So a request that has loaded the row before the lock was set accepts a code although the factor is
locked, and removes the lock. That is the only way: the lock holds in a run exactly if, whenever a
success is written, the stored lock is the one that the request has loaded or has run out.
A backup code is accepted at most once in every run.

The calls are threads over the row, the backup codes and the clock. A statement may fail, or run
although its caller gets an error. What a password or a code looks like is left to `FactorEnv`.
-/

namespace NewApi.Model

open GoTime StepSystem List Threads

/-! ### Rows -/

/-- A user's second factor. -/
structure TwoFA where
  id : ℕ
  userId : Int
  secret : String
  failedAttempts : Int
  lockedUntil : Option Int
  lastUsedAt : Option Int
  deriving DecidableEq, Repr

/-- A backup code. -/
structure TwoFABackupCode where
  id : ℕ
  userId : Int
  codeHash : String
  isUsed : Bool
  usedAt : Option Int

def maxFailAttempts : Int := 5

def lockoutDuration : Int := 300

def backupCodeLength : ℕ := 8

def maxUpdateRetries : ℕ := 5

def TwoFA.isLocked (t : TwoFA) (now : Int) : Bool := t.lockedUntil.any fun until' => now < until'

/-- What the libraries decide: a one-time password at a time, a code against its hash, and the
capital letters of a text. -/
structure FactorEnv where
  totpValidate : (code secret : String) → (now : Int) → Bool
  validatePasswordAndHash : (password hash : String) → Bool
  toUpper : String → String

def validateTOTPCode (env : FactorEnv) (secret code : String) (now : Int) : Bool :=
  let cleanCode := String.ofList (code.toList.filter (· ≠ ' '))
  if cleanCode.utf8ByteSize ≠ 6 then false else env.totpValidate cleanCode secret now

def cleanBackupCode (env : FactorEnv) (code : String) : String :=
  env.toUpper (String.ofList (code.toList.filter (· ≠ '-')))

/-- `common.ValidateBackupCode`: the form of a code.

Source: `common/totp.go`. -/
def validBackupCode (env : FactorEnv) (code : String) : Bool :=
  (cleanBackupCode env code).utf8ByteSize = backupCodeLength &&
    (cleanBackupCode env code).toList.all fun char =>
      ('A' ≤ char && char ≤ 'Z') || ('0' ≤ char && char ≤ '9')

def normalizeBackupCode (env : FactorEnv) (code : String) : String :=
  let cleanCode := cleanBackupCode env code
  if cleanCode.utf8ByteSize = backupCodeLength then
    String.ofList (cleanCode.toList.take 4 ++ '-' :: cleanCode.toList.drop 4)
  else code

/-! ### Calls -/

inductive FactorMethod
  | validateTOTPAndUpdateUsage
  | validateBackupCodeAndUpdateUsage
  deriving DecidableEq, Repr

inductive FactorError
  | locked
  | codeForm
  | missingId
  | conflict
  | notFound
  | database
  deriving DecidableEq, Repr

inductive FactorResult
  | accepted
  | refused
  | failed (e : FactorError)
  deriving DecidableEq, Repr

inductive FactorThread
  | checking (loaded : TwoFA) (method : FactorMethod) (code : String)
  | verifying (loaded : TwoFA) (code : String)
  | listing (loaded : TwoFA) (normalizedCode : String)
  | matched (loaded : TwoFA) (codeId : ℕ)
  | consuming (loaded : TwoFA) (codeId : ℕ) (now : Int)
  | stamping (loaded : TwoFA)
  | resetting (loaded : TwoFA) (now : Int)
  | incReading (loaded : TwoFA) (tries : ℕ)
  | incDeciding (loaded : TwoFA) (tries : ℕ) (current : TwoFA)
  | incUpdating (loaded : TwoFA) (tries : ℕ) (current : TwoFA) (now : Int)
  | done (result : FactorResult)
  deriving DecidableEq, Repr

def FactorThread.fail (e : FactorError) : FactorThread := .done (.failed e)

/-- What becomes of a statement: it runs, it runs but its caller gets an error, or it does not
run. -/
inductive FactorReply
  | ok
  | lost
  | unreachable
  deriving DecidableEq, Repr

/-- The clock, the row, the backup codes, and the codes that have been used up, one entry each time.
The program does not keep the last. -/
structure FactorStore where
  clock : Int
  factor : TwoFA
  codes : Table TwoFABackupCode.id
  used : List ℕ

section

variable (env : FactorEnv) (s : FactorStore) (ans : FactorReply)

def factorQuery (t : FactorThread) : FactorStore × FactorThread :=
  match ans with
  | .ok => (s, t)
  | .lost | .unreachable => (s, .fail .database)

def factorWrite (s' : FactorStore) (t : FactorThread) : FactorStore × FactorThread :=
  match ans with
  | .ok => (s', t)
  | .lost => (s', .fail .database)
  | .unreachable => (s, .fail .database)

/-- `IncrementFailedAttempts` up to its loop. -/
def incrementFailedAttempts (loaded : TwoFA) : FactorThread :=
  if loaded.id = 0 then .fail .missingId else .incReading loaded maxUpdateRetries

/-- `UPDATE … SET is_used WHERE id = codeId AND is_used = false`. -/
def consumeCode (loaded : TwoFA) (codeId : ℕ) (now : Int) : FactorStore × FactorThread :=
  match (s.codes.find codeId).filter fun row => row.isUsed = false with
  | none => factorQuery s ans (incrementFailedAttempts loaded)
  | some row =>
    factorWrite s ans
      { s with
        codes := s.codes.save { row with isUsed := true, usedAt := some now }
        used := s.used ++ [codeId] }
      (.stamping loaded)

/-- The update of `updateUsageState` after a success. -/
def resetUsage (loaded : TwoFA) (now : Int) : FactorStore × FactorThread :=
  let factor := if s.factor.id = loaded.id then
    { s.factor with failedAttempts := 0, lockedUntil := none, lastUsedAt := some now } else s.factor
  factorWrite s ans { s with factor := factor } (.done .accepted)

/-- The compare-and-swap of `IncrementFailedAttempts`. -/
def countFailure (loaded : TwoFA) (tries : ℕ) (current : TwoFA) (now : Int) :
    FactorStore × FactorThread :=
  let nextFailedAttempts := current.failedAttempts + 1
  let nextLockedUntil := if maxFailAttempts ≤ nextFailedAttempts then
    some (now + lockoutDuration * second) else current.lockedUntil
  if s.factor.id = current.id ∧ s.factor.failedAttempts = current.failedAttempts ∧
      s.factor.isLocked now = false then
    factorWrite s ans
      { s with factor := { s.factor with
          failedAttempts := nextFailedAttempts
          lockedUntil := nextLockedUntil } }
      (.done .refused)
  else factorQuery s ans (.incReading loaded tries)

/-- **The next step of a call.** The reply matters where a statement runs. -/
def FactorThread.exec : FactorThread → FactorStore × FactorThread
  | .checking loaded method code =>
    (s, if loaded.isLocked s.clock then .fail .locked
      else match method with
        | .validateTOTPAndUpdateUsage => .verifying loaded code
        | .validateBackupCodeAndUpdateUsage =>
          if validBackupCode env code then .listing loaded (normalizeBackupCode env code)
          else .fail .codeForm)
  | .verifying loaded code =>
    (s, if validateTOTPCode env loaded.secret code s.clock then .stamping loaded
      else incrementFailedAttempts loaded)
  | .listing loaded normalizedCode =>
    factorQuery s ans
      (match (s.codes.rows.filter fun row => row.userId = loaded.userId ∧ row.isUsed = false).find?
          fun row => env.validatePasswordAndHash normalizedCode row.codeHash with
      | none => incrementFailedAttempts loaded
      | some row => .matched loaded row.id)
  | .matched loaded codeId => (s, .consuming loaded codeId s.clock)
  | .consuming loaded codeId now => consumeCode s ans loaded codeId now
  | .stamping loaded =>
    (s, if loaded.id = 0 then .fail .missingId else .resetting loaded s.clock)
  | .resetting loaded now => resetUsage s ans loaded now
  | .incReading _ 0 => (s, .fail .conflict)
  | .incReading loaded (tries + 1) =>
    factorQuery s ans
      (if s.factor.id = loaded.id then .incDeciding loaded tries s.factor else .fail .notFound)
  | .incDeciding loaded tries current =>
    (s, if current.isLocked s.clock then .done .refused
      else .incUpdating loaded tries current s.clock)
  | .incUpdating loaded tries current now => countFailure s ans loaded tries current now
  | .done result => (s, .done result)

end

/-- The calls of one user as a system of threads. A call begins by loading the row; outside the
calls, time passes. -/
def factorSystem (env : FactorEnv) :
    Threads.System FactorStore FactorThread (FactorMethod × String) FactorReply ℕ where
  start s c := .checking s.factor c.1 c.2
  exec s t ans := t.exec env s ans
  outside s span := { s with clock := s.clock + span }

def factorStart (clock : Int) (factor : TwoFA) (codes : Table TwoFABackupCode.id) :
    Threads.State FactorStore FactorThread :=
  ⟨⟨clock, factor, codes, []⟩, []⟩

abbrev FactorState := Threads.State FactorStore FactorThread

abbrev FactorEvent := Threads.Event (FactorMethod × String) FactorReply ℕ

/-! ### What a step does -/

inductive FactorMove (s : FactorStore) (t : FactorThread) (ans : FactorReply) :
    FactorStore → Prop
  | same : FactorMove s t ans s
  | use (codeId : ℕ) (now : Int) (row : TwoFABackupCode) (hfind : s.codes.find codeId = some row)
      (hunused : row.isUsed = false) :
      FactorMove s t ans
        { s with
          codes := s.codes.save { row with isUsed := true, usedAt := some now }
          used := s.used ++ [codeId] }
  | reset (loaded : TwoFA) (now : Int) (ht : t = .resetting loaded now)
      (hran : ans ≠ .unreachable) :
      FactorMove s t ans { s with factor :=
        { s.factor with failedAttempts := 0, lockedUntil := none, lastUsedAt := some now } }
  | count (loaded : TwoFA) (tries : ℕ) (current : TwoFA) (now attempts : Int) (lock : Option Int)
      (ht : t = .incUpdating loaded tries current now) (hopen : s.factor.isLocked now = false) :
      FactorMove s t ans { s with factor :=
        { s.factor with failedAttempts := attempts, lockedUntil := lock } }

open FactorThread

section

variable {env : FactorEnv} {s s' : FactorStore} {ans : FactorReply} {t : FactorThread}

theorem TwoFA.isLocked_iff {t : TwoFA} {now : Int} :
    t.isLocked now = true ↔ ∃ u, t.lockedUntil = some u ∧ now < u := by
  cases h : t.lockedUntil with
  | none | some u => simp [TwoFA.isLocked, h]

theorem TwoFA.isLocked_mono {t : TwoFA} {now now' : Int} (h : t.isLocked now = false)
    (hle : now ≤ now') : t.isLocked now' = false := by
  rw [Bool.eq_false_iff, ne_eq, TwoFA.isLocked_iff] at h ⊢
  rintro ⟨u, hu, hlt⟩
  exact h ⟨u, hu, hle.trans_lt hlt⟩

theorem factorQuery_store (t' : FactorThread) : (factorQuery s ans t').1 = s := by
  cases ans <;> rfl

theorem factorMove_write {t' : FactorThread} (h : ans ≠ .unreachable → FactorMove s t ans s') :
    FactorMove s t ans (factorWrite s ans s' t').1 := by
  cases ans with
  | ok | lost => exact h (by decide)
  | unreachable => exact .same

/-- **What a step does to the store.** -/
theorem factorMove_exec (env : FactorEnv) (s : FactorStore) (t : FactorThread)
    (ans : FactorReply) : FactorMove s t ans (t.exec env s ans).1 := by
  cases t with
  | consuming loaded codeId now =>
    simp only [exec, consumeCode]
    split
    · rw [factorQuery_store]
      exact .same
    next row hrow =>
      obtain ⟨hfind, hunused⟩ := Option.filter_eq_some_iff.mp hrow
      exact factorMove_write fun _ => .use codeId now row hfind (of_decide_eq_true hunused)
  | resetting loaded now =>
    simp only [exec, resetUsage]
    split
    · exact factorMove_write fun hran => .reset loaded now rfl hran
    · exact factorMove_write fun _ => .same
  | incUpdating loaded tries current now =>
    simp only [exec, countFailure]
    split
    next hcond => exact factorMove_write fun _ => .count loaded tries current now _ _ rfl hcond.2.2
    · rw [factorQuery_store]
      exact .same
  | incReading loaded tries =>
    cases tries with
    | zero => exact .same
    | succ tries =>
      simp only [exec, factorQuery_store]
      exact .same
  | listing loaded normalizedCode =>
    simp only [exec, factorQuery_store]
    exact .same
  | _ => exact .same

theorem FactorMove.frame (h : FactorMove s t ans s') :
    s'.clock = s.clock ∧ s'.factor.id = s.factor.id := by
  cases h <;> exact ⟨rfl, rfl⟩

end

/-! ### What a call knows -/

/-- The call works on the row, and once it has checked the lock that it has loaded, that one has run
out. -/
def FactorThread.Knows (s : FactorStore) : FactorThread → Prop
  | .checking loaded _ _ => loaded.id = s.factor.id
  | .verifying loaded _ | .listing loaded _ | .matched loaded _ | .consuming loaded _ _
  | .stamping loaded | .resetting loaded _ =>
    loaded.id = s.factor.id ∧ loaded.isLocked s.clock = false
  | .incUpdating _ _ _ now => now ≤ s.clock
  | .incReading _ _ | .incDeciding _ _ _ | .done _ => True

def CodesOnce (s : FactorStore) : Prop :=
  ∀ codeId, s.used.count codeId ≤ 1 ∧
    (codeId ∈ s.used → ∃ row, s.codes.find codeId = some row ∧ row.isUsed = true)

section

variable {env : FactorEnv} {s s' : FactorStore} {ans : FactorReply} {t : FactorThread}

theorem FactorThread.Knows.mono (h : t.Knows s) (hid : s'.factor.id = s.factor.id)
    (hclock : s.clock ≤ s'.clock) : t.Knows s' := by
  have hboth {loaded : TwoFA} (h : loaded.id = s.factor.id ∧ loaded.isLocked s.clock = false) :
      loaded.id = s'.factor.id ∧ loaded.isLocked s'.clock = false :=
    ⟨h.1.trans hid.symm, TwoFA.isLocked_mono h.2 hclock⟩
  cases t with
  | checking loaded method code => exact h.trans hid.symm
  | verifying loaded code | listing loaded code | matched loaded codeId
  | consuming loaded codeId now | stamping loaded | resetting loaded now => exact hboth h
  | incUpdating loaded tries current now => exact h.trans hclock
  | _ => trivial

theorem knows_increment (loaded : TwoFA) : (incrementFailedAttempts loaded).Knows s := by
  unfold incrementFailedAttempts
  split <;> trivial

theorem knows_factorQuery {t' : FactorThread} (h : t'.Knows s) :
    (factorQuery s ans t').2.Knows s := by
  cases ans with
  | ok => exact h
  | _ => trivial

/-- **A step keeps what its call knows.** -/
theorem knows_exec (h : t.Knows s) : (t.exec env s ans).2.Knows s := by
  cases t with
  | checking loaded method code =>
    simp only [exec]
    split
    · trivial
    rename_i hopen
    have hloaded : loaded.id = s.factor.id ∧ loaded.isLocked s.clock = false :=
      ⟨h, Bool.eq_false_iff.mpr hopen⟩
    cases method with
    | validateTOTPAndUpdateUsage => exact hloaded
    | validateBackupCodeAndUpdateUsage =>
      dsimp only
      split
      · exact hloaded
      · trivial
  | verifying loaded code =>
    simp only [exec]
    split
    · exact h
    · exact knows_increment loaded
  | listing loaded code =>
    refine knows_factorQuery ?_
    split
    · exact knows_increment loaded
    · exact h
  | matched loaded codeId => exact h
  | consuming loaded codeId now =>
    simp only [exec, consumeCode]
    split
    · exact knows_factorQuery (knows_increment loaded)
    · cases ans with
      | ok => exact h
      | _ => trivial
  | stamping loaded =>
    simp only [exec]
    split
    · trivial
    · exact h
  | resetting loaded now => cases ans <;> trivial
  | incReading loaded tries =>
    cases tries with
    | zero => trivial
    | succ tries =>
      refine knows_factorQuery ?_
      split <;> trivial
  | incDeciding loaded tries current =>
    simp only [exec]
    split
    · trivial
    · exact le_rfl
  | incUpdating loaded tries current now =>
    simp only [exec, countFailure]
    split
    · cases ans <;> trivial
    · exact knows_factorQuery trivial
  | done result => trivial

theorem CodesOnce.move (h : CodesOnce s) (hmove : FactorMove s t ans s') : CodesOnce s' := by
  cases hmove with
  | same | reset loaded now _ _ | count loaded tries current now attempts lock _ _ => exact h
  | use codeId now row hfind hunused =>
    have hkey : ({ row with isUsed := true, usedAt := some now } : TwoFABackupCode).id = codeId :=
      (Table.mem_of_find hfind).2
    have hfresh : codeId ∉ s.used := by
      intro hmem
      obtain ⟨row', hrow', hused⟩ := (h codeId).2 hmem
      rw [hfind] at hrow'
      cases hrow'
      rw [hunused] at hused
      cases hused
    intro other
    obtain ⟨honce, hstored⟩ := h other
    by_cases hother : other = codeId
    · subst hother
      refine ⟨?_, fun _ => ⟨_, Table.find_save_of_find hfind hkey, rfl⟩⟩
      rw [count_append, count_eq_zero_of_not_mem hfresh, count_singleton_self]
    refine ⟨?_, fun hmem => ?_⟩
    · change (s.used ++ [codeId]).count other ≤ 1
      rw [count_append, count_singleton, if_neg (by simpa using Ne.symm hother)]
      exact honce
    have hmem' : other ∈ s.used := by
      rcases mem_append.mp hmem with hold | hnew
      · exact hold
      · exact absurd (mem_singleton.mp hnew) hother
    obtain ⟨row', hrow', hused⟩ := hstored hmem'
    refine ⟨row', ?_, hused⟩
    rw [Table.find_save_of_ne]
    · exact hrow'
    · rw [hkey]
      exact hother

end

/-- **The invariant of the calls.** -/
theorem factorKeeps (env : FactorEnv) :
    Threads.Keeps (factorSystem env) (fun _ _ => True) CodesOnce fun s t => t.Knows s where
  call _ _ _ _ := rfl
  exec s k ans t hs _ hk := by
    have hmove := factorMove_exec env s.shared t ans
    have hknows : (t.exec env s.shared ans).2.Knows s.shared := knows_exec (hs.thread hk)
    exact ⟨hs.shared.move hmove, hknows.mono hmove.frame.2 hmove.frame.1.ge⟩
  others s k ans t hs _ hk u hu := by
    have hmove := factorMove_exec env s.shared t ans
    exact (hs.threads u hu).mono hmove.frame.2 hmove.frame.1.ge
  outside s span hs _ := by
    refine ⟨hs.shared, fun u hu => (hs.threads u hu).mono rfl ?_⟩
    change s.shared.clock ≤ s.shared.clock + span
    omega

/-! ### The law of the lock -/

/-- What a lock promises when an event happens: no call returns `true` while the stored lock is in
force, a lock that is in force is neither removed nor shortened, and no backup code is accepted
twice. -/
def FactorLaw (env : FactorEnv) (s : FactorState) (e : FactorEvent) : Prop :=
  (∀ k : ℕ, s.pool[k]? ≠ some (.done .accepted) →
      ((factorSystem env).step s e).pool[k]? = some (.done .accepted) →
      s.shared.factor.isLocked s.shared.clock = false) ∧
    (∀ u, s.shared.factor.lockedUntil = some u → s.shared.clock < u →
      ∃ u', ((factorSystem env).step s e).shared.factor.lockedUntil = some u' ∧ u ≤ u') ∧
    ∀ codeId, ((factorSystem env).step s e).shared.used.count codeId ≤ 1

/-- No lock comes between: if the stored lock has changed from the load of a call to the write of
its success, it has run out by then. -/
def LoadedLock (s : FactorState) (e : FactorEvent) : Prop :=
  ∀ (k : ℕ) (ans : FactorReply) (loaded : TwoFA) (now : Int), e = .step k ans →
    ans ≠ .unreachable → s.pool[k]? = some (.resetting loaded now) →
    s.shared.factor.lockedUntil ≠ loaded.lockedUntil →
      s.shared.factor.isLocked s.shared.clock = false

section

variable {env : FactorEnv} {s : FactorState} {t : FactorThread} {ans : FactorReply} {k : ℕ}

theorem ne_accepted_factorQuery {s : FactorStore} {t' : FactorThread}
    (h : t' ≠ .done .accepted) : (factorQuery s ans t').2 ≠ .done .accepted := by
  cases ans with
  | ok => exact h
  | _ => exact fun h => by cases h

theorem ne_accepted_increment (loaded : TwoFA) :
    incrementFailedAttempts loaded ≠ .done .accepted := by
  unfold incrementFailedAttempts
  split <;> exact fun h => by cases h

theorem accepted_exec {s : FactorStore} (h : (t.exec env s ans).2 = .done .accepted) :
    t = .done .accepted ∨ (∃ loaded now, t = .resetting loaded now) ∧ ans ≠ .unreachable := by
  revert h
  fun_cases exec env s ans t with
  | case1 loaded method code =>
    split
    · rintro ⟨⟩
    · split
      · rintro ⟨⟩
      · split <;> rintro ⟨⟩
  | case2 loaded code =>
    split
    · rintro ⟨⟩
    · exact fun h => absurd h (ne_accepted_increment loaded)
  | case3 loaded code =>
    refine fun h => absurd h (ne_accepted_factorQuery ?_)
    split
    · exact ne_accepted_increment loaded
    · rintro ⟨⟩
  | case5 loaded codeId now =>
    unfold consumeCode
    split
    · exact fun h => absurd h (ne_accepted_factorQuery (ne_accepted_increment loaded))
    · cases ans <;> rintro ⟨⟩
  | case7 loaded now =>
    refine fun h => .inr ⟨⟨loaded, now, rfl⟩, ?_⟩
    rintro rfl
    cases h
  | case9 loaded tries =>
    refine fun h => absurd h (ne_accepted_factorQuery ?_)
    split <;> rintro ⟨⟩
  | case11 loaded tries current now =>
    unfold countFailure
    split
    · cases ans <;> rintro ⟨⟩
    · exact fun h => absurd h (ne_accepted_factorQuery (by rintro ⟨⟩))
  | case12 result => exact .inl
  | case4 | case8 => rintro ⟨⟩
  | _ =>
    split <;> rintro ⟨⟩

variable (hs : Threads.Inv CodesOnce (fun s t => t.Knows s) s)
include hs

theorem open_of_loadedLock
    (h : LoadedLock s (.step k ans)) {loaded : TwoFA} {now : Int} (hran : ans ≠ .unreachable)
    (hk : s.pool[k]? = some (.resetting loaded now)) :
    s.shared.factor.isLocked s.shared.clock = false := by
  by_cases hsame : s.shared.factor.lockedUntil = loaded.lockedUntil
  · have hloaded : loaded.isLocked s.shared.clock = false := (hs.thread hk).2
    rw [TwoFA.isLocked, hsame]
    exact hloaded
  · exact h k ans loaded now rfl hran hk hsame

theorem lock_kept (h : LoadedLock s (.step k ans)) (hk : s.pool[k]? = some t) {u : Int}
    (hu : s.shared.factor.lockedUntil = some u) (hlt : s.shared.clock < u) :
    (t.exec env s.shared ans).1.factor.lockedUntil = some u := by
  have hlocked : s.shared.factor.isLocked s.shared.clock = true :=
    TwoFA.isLocked_iff.mpr ⟨u, hu, hlt⟩
  have hmove := factorMove_exec env s.shared t ans
  have hknows := hs.thread hk
  generalize (t.exec env s.shared ans).1 = s' at hmove
  cases hmove with
  | same | use codeId now row _ _ => exact hu
  | reset loaded now ht hran =>
    subst ht
    rw [open_of_loadedLock hs h hran hk] at hlocked
    cases hlocked
  | count loaded tries current now attempts lock ht hopen =>
    subst ht
    rw [TwoFA.isLocked_mono hopen hknows] at hlocked
    cases hlocked

/-- **The law at one step.** -/
theorem factorLaw_iff (e : FactorEvent) : FactorLaw env s e ↔ LoadedLock s e := by
  constructor
  · rintro ⟨-, hkept, -⟩ k ans loaded now rfl hran hk -
    refine Bool.eq_false_iff.mpr fun hlocked => ?_
    -- the write of the success would remove the lock
    obtain ⟨u, hu, hlt⟩ := TwoFA.isLocked_iff.mp hlocked
    obtain ⟨u', hu', -⟩ := hkept u hu hlt
    have hid : s.shared.factor.id = loaded.id := (hs.thread hk).1.symm
    rw [step_of_some ans hk] at hu'
    simp only [factorSystem, exec, resetUsage, if_pos hid] at hu'
    cases ans with
    | ok | lost => cases hu'
    | unreachable => exact hran rfl
  · intro h
    have hcodes : ∀ codeId, ((factorSystem env).step s e).shared.used.count codeId ≤ 1 :=
      fun codeId => (((factorKeeps env).step hs e trivial).shared codeId).1
    refine ⟨fun k hbefore hafter => ?_, fun u hu hlt => ?_, hcodes⟩
    · rcases hk : s.pool[k]? with - | t
      · obtain ⟨c, -, hnew⟩ := new_thread hk hafter
        cases hnew
      rcases thread_step hk e with hsame | ⟨ans, rfl, hmoved⟩
      · exact absurd (hk.trans (hsame.symm.trans hafter)) hbefore
      rw [hmoved] at hafter
      rcases accepted_exec (Option.some.inj hafter) with rfl | ⟨⟨loaded, now, rfl⟩, hran⟩
      · exact absurd hk hbefore
      · exact open_of_loadedLock hs h hran hk
    · cases e with
      | call c | outside span => exact ⟨u, hu, le_rfl⟩
      | step k ans =>
        cases hk : s.pool[k]? with
        | none =>
          rw [step_of_none ans hk]
          exact ⟨u, hu, le_rfl⟩
        | some t =>
          rw [step_of_some ans hk]
          exact ⟨u, lock_kept hs h hk hu hlt, le_rfl⟩

end

/-- **A locked second factor.** In a run of validations by any number of requests, each with a row
that was loaded at any earlier time, every event keeps to the law of the lock exactly if no lock
that is still in force comes between the load of a request and the write of its success. -/
theorem locked_factor_iff (env : FactorEnv) (clock : Int) (factor : TwoFA)
    (codes : Table TwoFABackupCode.id) (events : List FactorEvent) :
    Along (factorSystem env).step (FactorLaw env) (factorStart clock factor codes) events ↔
      Along (factorSystem env).step LoadedLock (factorStart clock factor codes) events := by
  have hstart : Threads.Inv CodesOnce (fun s t => t.Knows s) (factorStart clock factor codes) := by
    refine inv_start fun codeId => ⟨Nat.zero_le 1, fun hmem => ?_⟩
    cases hmem
  exact along_congr_of_invariant (fun _ e hs => (factorKeeps env).step hs e trivial)
    (fun _ e hs => factorLaw_iff hs e) hstart

/-! Fixed inputs: a factor with four failures, a wrong code and a right one. -/

def sampleEnv : FactorEnv where
  totpValidate code _ _ := code = "123456"
  validatePasswordAndHash code hash := code = hash
  toUpper := id

def sampleFactor : TwoFA := ⟨1, 1, "secret", 4, none, none⟩

def noCodes : Table TwoFABackupCode.id := ⟨[], List.nodup_nil⟩

/-- Two requests load the row. The first one fails and sets the lock; the second one is about to
write its success. -/
def lockedMeanwhile : List FactorEvent :=
  [.call (.validateTOTPAndUpdateUsage, "000000"), .call (.validateTOTPAndUpdateUsage, "123456"),
    .step 1 .ok, .step 0 .ok, .step 0 .ok, .step 0 .ok, .step 0 .ok, .step 0 .ok, .step 1 .ok,
    .step 1 .ok]

/-- The lock is in force for five minutes; the second request is accepted and removes it. -/
theorem stale_success_unlocks :
    (run (factorSystem sampleEnv).step (factorStart 0 sampleFactor noCodes)
        lockedMeanwhile).shared.factor.lockedUntil = some 300000000000 ∧
      (run (factorSystem sampleEnv).step (factorStart 0 sampleFactor noCodes)
        lockedMeanwhile).shared.clock = 0 ∧
      (run (factorSystem sampleEnv).step (factorStart 0 sampleFactor noCodes)
        (lockedMeanwhile ++ [.step 1 .ok])).pool[1]? = some (.done .accepted) ∧
      (run (factorSystem sampleEnv).step (factorStart 0 sampleFactor noCodes)
        (lockedMeanwhile ++ [.step 1 .ok])).shared.factor.lockedUntil = none ∧
      ¬ Along (factorSystem sampleEnv).step (FactorLaw sampleEnv)
        (factorStart 0 sampleFactor noCodes) (lockedMeanwhile ++ [.step 1 .ok]) := by
  refine ⟨by decide +kernel, by decide +kernel, by decide +kernel, by decide +kernel, ?_⟩
  rw [along_append]
  rintro ⟨-, ⟨-, hkept, -⟩, -⟩
  obtain ⟨u, hu, -⟩ := hkept 300000000000 (by decide +kernel) (by decide +kernel)
  cases hu

end NewApi.Model
