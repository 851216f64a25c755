import NewApi.Foundation.Threads
import NewApi.Model.QuotaReserve
import NewApi.Model.Token

/-!
# The balance of a token under edits

`TryReserveTokenQuota` (`model/quota_reserve.go`), `IncreaseTokenQuota`, `DecreaseTokenQuota`,
`DisableModelLimits` (`model/token.go`) and the status-only `UpdateToken` (`controller/token.go`) as
threads over the token rows and the batch updater. Charges are relative updates. An edit reads the
row first, and `Token.Update` writes a whole set of columns back later, the remaining quota among
them.

What the Redis hash answers to the reserve script is part of the reply; the asynchronous updates of
the hash change neither row nor batch and are left out. The column `used_quota` mirrors the
remaining quota and is not kept. A reply with `db = false` stands for a statement that fails or
finds no row.
-/

namespace NewApi.Model

open StepSystem List Threads

/-! ### Rows -/

structure TokenSettings extends QuotaSettings where
  maxTokenQuota : Int

/-- The batch updater with the batched columns, `remain_quota` among them, and the other columns of
the rows of `tokens`. -/
structure TokenStore where
  batch : BatchState
  rows : Int → Token

namespace TokenStore

variable (s : TokenStore)

def remainQuota (id : Int) : Int := persisted .tokenQuota id s.batch

def row (id : Int) : Token := { s.rows id with id := id, remainQuota := s.remainQuota id }

def addQuota (id v : Int) : TokenStore :=
  { s with batch := { s.batch with db := s.batch.db.credit .tokenQuota id v } }

def addNewRecord (id : Int) (v : Int64) : TokenStore :=
  { s with batch := batchStep s.batch (.add .tokenQuota id v) }

/-- The write of `Token.Update`: the selected columns, from the token in memory. -/
def update (token : Token) : TokenStore where
  batch :=
    { s.batch with
      db := fun type id =>
        if type = .tokenQuota ∧ id = token.id then token.remainQuota else s.batch.db type id }
  rows := Function.update s.rows token.id
    { s.rows token.id with
      name := token.name
      status := token.status
      expiredTime := token.expiredTime
      unlimitedQuota := token.unlimitedQuota
      modelLimitsEnabled := token.modelLimitsEnabled
      modelLimits := token.modelLimits
      allowIps := token.allowIps
      group := token.group
      crossGroupRetry := token.crossGroupRetry
      autoGroups := token.autoGroups }

end TokenStore

/-! ### Calls -/

inductive TokenReserveState
  | script
  | hydrate
  | retry
  | reserveDB
  | persist
  | compensate
  deriving DecidableEq, Repr

/-- The body of a status-only `UpdateToken`, the user of the request and the time. -/
structure StatusRequest where
  userId : Int
  token : Token
  now : Int
  deriving DecidableEq, Repr

/-- A call in flight. `update` is an edit that has read its row and has not written it back. -/
inductive TokenThread
  | tryReserve (id : Int) (quota : Int64) (s : TokenReserveState)
  | increase (id : Int) (quota : Int64)
  | decrease (id : Int) (quota : Int64)
  | updateToken (request : StatusRequest)
  | disableModelLimits (id : Int)
  | update (token : Token)
  /-- `ok` tells whether the call did what it was called for. -/
  | returned (ok : Bool)
  deriving DecidableEq, Repr

inductive TokenCall
  | tryReserve (id : Int) (quota : Int64) (unlimited : Bool)
  | increase (id : Int) (quota : Int64)
  | decrease (id : Int) (quota : Int64)
  | updateToken (request : StatusRequest)
  | disableModelLimits (id : Int)

inductive TokenFlush
  | start
  | flush (k : ℕ) (key : Int)

/-- What the stores answer to one step: whether the SQL statement takes effect, and what the reserve
script answers, if Redis can be reached. -/
structure TokenReply where
  db : Bool
  cache : Option CacheQuotaResult

section

variable (cfg : TokenSettings) (s : TokenStore) (ans : TokenReply)

/-- `persistTokenQuotaDelta`, and likewise the last lines of `IncreaseTokenQuota` and
`DecreaseTokenQuota`; the Boolean tells whether the error is `nil`. -/
def persistTokenQuotaDelta (id : Int) (delta : Int64) : Bool × TokenStore :=
  if cfg.batchUpdateEnabled then (true, s.addNewRecord id delta)
  else if ans.db then (true, s.addQuota id delta.toInt)
  else (false, s)

/-- A conditional update, as for a user. -/
def reserveTokenQuotaDB (id : Int) (quota : Int) : Bool × TokenStore :=
  if ans.db ∧ quota ≤ s.remainQuota id then (true, s.addQuota id (-quota)) else (false, s)

/-- Where `TryReserveTokenQuota` goes on after its script, with `onMiss` after a miss. -/
def afterScript (id : Int) (quota : Int64) (onMiss : TokenReserveState) : TokenThread :=
  match ans.cache with
  | none => .tryReserve id quota .reserveDB
  | some .miss => .tryReserve id quota onMiss
  | some .insufficient => .returned false
  | some .ok => .tryReserve id quota .persist

/-- The token that a status-only `UpdateToken` writes back, if it may. -/
def statusUpdate (request : StatusRequest) (row : Token) : Option Token :=
  if row.userId ≠ request.userId then none
  else if request.token.status = 1 ∧
      ((row.status = 3 ∧ row.expiredTime ≤ request.now ∧ row.expiredTime ≠ -1) ∨
        (row.status = 4 ∧ row.remainQuota ≤ 0 ∧ row.unlimitedQuota = false)) then none
  else some { row with status := request.token.status }

/-- The next step of a call. -/
def TokenThread.exec : TokenThread → TokenStore × TokenThread
  | tryReserve id quota .script => (s, afterScript ans id quota .hydrate)
  | tryReserve id quota .hydrate =>
    (s, .tryReserve id quota (if ans.db then .retry else .reserveDB))
  | tryReserve id quota .retry => (s, afterScript ans id quota .reserveDB)
  | tryReserve id quota .reserveDB =>
    ((reserveTokenQuotaDB s ans id quota.toInt).2,
      .returned (reserveTokenQuotaDB s ans id quota.toInt).1)
  | tryReserve id quota .persist =>
    ((persistTokenQuotaDelta cfg s ans id (-quota)).2,
      if (persistTokenQuotaDelta cfg s ans id (-quota)).1 then .returned true
      else .tryReserve id quota .compensate)
  | tryReserve _ _ .compensate => (s, .returned false)
  | increase id quota =>
    ((persistTokenQuotaDelta cfg s ans id quota).2,
      .returned (persistTokenQuotaDelta cfg s ans id quota).1)
  | decrease id quota =>
    ((persistTokenQuotaDelta cfg s ans id (-quota)).2,
      .returned (persistTokenQuotaDelta cfg s ans id (-quota)).1)
  | updateToken request =>
    if !ans.db then (s, .returned false)
    else
      match statusUpdate request (s.row request.token.id) with
      | none => (s, .returned false)
      | some token => (s, .update token)
  | disableModelLimits id =>
    if !ans.db then (s, .returned false)
    else (s, .update { s.row id with modelLimitsEnabled := false, modelLimits := "" })
  | update token => if ans.db then (s.update token, .returned true) else (s, .returned false)
  | returned ok => (s, .returned ok)

/-- The thread of a call that begins. Bad arguments are rejected before anything is touched. -/
def TokenCall.start : TokenCall → TokenThread
  | tryReserve id quota unlimited =>
    if quota < 0 then .returned false
    else if quota = 0 then .returned true
    else if unlimited then .decrease id quota
    else if cfg.redisEnabled then .tryReserve id quota .script
    else .tryReserve id quota .reserveDB
  | increase id quota => if quota < 0 then .returned false else .increase id quota
  | decrease id quota => if quota < 0 then .returned false else .decrease id quota
  | updateToken request =>
    if 50 < request.token.name.utf8ByteSize then .returned false
    else if request.token.unlimitedQuota = false ∧ (request.token.remainQuota < 0 ∨
        cfg.maxTokenQuota < request.token.remainQuota) then .returned false
    else if request.token.id = 0 ∨ request.userId = 0 then .returned false
    else .updateToken request
  | disableModelLimits id => if id = 0 then .returned false else .disableModelLimits id

end

def tokenSystem (cfg : TokenSettings) :
    Threads.System TokenStore TokenThread TokenCall TokenReply TokenFlush where
  start _ call := call.start cfg
  exec s t ans := t.exec cfg s ans
  outside s
    | .start => { s with batch := batchStep s.batch .start }
    | .flush k key => { s with batch := batchStep s.batch (.flush k key true) }

abbrev TokenState := Threads.State TokenStore TokenThread

abbrev TokenEvent := Threads.Event TokenCall TokenReply TokenFlush

/-! ### What is balanced -/

def tokenBalance (id : Int) (x : TokenState) : Int := balance .tokenQuota id x.shared.batch

def TokenThread.amount (id : Int) : TokenThread → Int
  | tryReserve id' quota _ => if id = id' then -quota.toInt else 0
  | increase id' quota => if id = id' then quota.toInt else 0
  | decrease id' quota => if id = id' then -quota.toInt else 0
  | updateToken _ | disableModelLimits _ | update _ | returned _ => 0

/-- The amount that a step increases, or reserves or decreases, for token `id`: that of a call that
returns with success. -/
def movedBy (cfg : TokenSettings) (id : Int) (x : TokenState) : TokenEvent → Int
  | .step k ans =>
    match x.pool[k]? with
    | none => 0
    | some t => if (t.exec cfg x.shared ans).2 = .returned true then t.amount id else 0
  | .call _ | .outside _ => 0

def TokenThread.delta : TokenThread → Option (Int × Int64)
  | tryReserve id quota .persist => some (id, -quota)
  | increase id quota => some (id, quota)
  | decrease id quota => some (id, -quota)
  | tryReserve _ _ _ | updateToken _ | disableModelLimits _ | update _ | returned _ => none

/-- A write of an edit finds the remaining quota that the edit has read, and in batch mode the sum
of deltas stays in the 64-bit range. -/
def TokenThread.Undisturbed (cfg : TokenSettings) (s : TokenStore) (ans : TokenReply)
    (id : Int) : TokenThread → Prop
  | update token => ans.db = true → id = token.id → token.remainQuota = s.remainQuota id
  | t =>
    match t.delta with
    | none => True
    | some (id', delta) =>
      cfg.batchUpdateEnabled = true → id = id' →
        -2 ^ 63 ≤ ((s.batch.stores .tokenQuota).value id).toInt + delta.toInt ∧
          ((s.batch.stores .tokenQuota).value id).toInt + delta.toInt ≤ 2 ^ 63 - 1

def Undisturbed (cfg : TokenSettings) (id : Int) (x : TokenState) : TokenEvent → Prop
  | .step k ans =>
    match x.pool[k]? with
    | none => True
    | some t => t.Undisturbed cfg x.shared ans id
  | .call _ | .outside _ => True

def TokenThread.lost (cfg : TokenSettings) (s : TokenStore) (ans : TokenReply) (id : Int) :
    TokenThread → Int
  | update token =>
    if ans.db = true ∧ id = token.id then s.remainQuota id - token.remainQuota else 0
  | t =>
    match t.delta with
    | none => 0
    | some (id', delta) =>
      if cfg.batchUpdateEnabled then
        lostBy .tokenQuota id s.batch (.add .tokenQuota id' delta)
      else 0

def tokenLostBy (cfg : TokenSettings) (id : Int) (x : TokenState) : TokenEvent → Int
  | .step k ans =>
    match x.pool[k]? with
    | none => 0
    | some t => t.lost cfg x.shared ans id
  | .call _ | .outside _ => 0

/-! ### One step -/

def TokenThread.Valid : TokenThread → Prop
  | tryReserve _ quota _ | increase _ quota | decrease _ quota => 0 ≤ quota.toInt
  | updateToken _ | disableModelLimits _ | update _ | returned _ => True

section

variable (s : TokenStore) (id : Int)

theorem balance_addQuota (id' v : Int) : balance .tokenQuota id (s.addQuota id' v).batch =
      balance .tokenQuota id s.batch + if id = id' then v else 0 := by
  simp only [balance, persisted, pending, TokenStore.addQuota, credit_apply, true_and]
  split_ifs <;> omega

theorem balance_addNewRecord (hvalid : s.batch.Valid) (id' : Int) (v : Int64) :
    balance .tokenQuota id (s.addNewRecord id' v).batch =
      balance .tokenQuota id s.batch + ((if id = id' then v.toInt else 0) -
        lostBy .tokenQuota id s.batch (.add .tokenQuota id' v)) := by
  rw [TokenStore.addNewRecord, batchStep_balance .tokenQuota id hvalid]
  simp [addedBy]

theorem balance_update (token : Token) : balance .tokenQuota id (s.update token).batch =
      balance .tokenQuota id s.batch +
        if id = token.id then token.remainQuota - s.remainQuota id else 0 := by
  simp only [balance, persisted, pending, TokenStore.update, TokenStore.remainQuota, true_and]
  split_ifs <;> omega

end

section

variable (cfg : TokenSettings) {s : TokenStore} (ans : TokenReply) (id : Int)

theorem balance_persistTokenQuotaDelta (hvalid : s.batch.Valid) (id' : Int) (delta : Int64) :
    balance .tokenQuota id (persistTokenQuotaDelta cfg s ans id' delta).2.batch =
      balance .tokenQuota id s.batch +
        ((if (persistTokenQuotaDelta cfg s ans id' delta).1 = true then
            if id = id' then delta.toInt else 0
          else 0) -
        if cfg.batchUpdateEnabled then
          lostBy .tokenQuota id s.batch (.add .tokenQuota id' delta)
        else 0) := by
  by_cases hbatch : cfg.batchUpdateEnabled = true
  · simp only [persistTokenQuotaDelta, if_pos hbatch]
    exact balance_addNewRecord s id hvalid id' delta
  by_cases hdb : ans.db = true
  · simp only [persistTokenQuotaDelta, if_neg hbatch, if_pos hdb, sub_zero]
    exact balance_addQuota s id id' delta.toInt
  · simp [persistTokenQuotaDelta, if_neg hbatch, if_neg hdb, Bool.false_eq_true]

theorem afterScript_ne (id' : Int) (quota : Int64) (onMiss : TokenReserveState) :
    afterScript ans id' quota onMiss ≠ .returned true := by
  rw [afterScript]
  split <;> simp

theorem TokenThread.balance_exec (hvalid : s.batch.Valid) {t : TokenThread} (ht : t.Valid) :
    balance .tokenQuota id (t.exec cfg s ans).1.batch = balance .tokenQuota id s.batch +
        ((if (t.exec cfg s ans).2 = .returned true then t.amount id else 0) -
          t.lost cfg s ans id) := by
  cases t with
  | tryReserve id' quota state =>
    cases state with
    | script | retry => simp [exec, lost, delta, afterScript_ne]
    | reserveDB =>
      simp only [exec, lost, delta, amount]
      by_cases hreserve : ans.db = true ∧ quota.toInt ≤ s.remainQuota id'
      · simp [reserveTokenQuotaDB, if_pos hreserve, balance_addQuota]
      · simp [reserveTokenQuotaDB, if_neg hreserve]
    | persist =>
      have hok (b : Bool) :
          ((if b then returned true else tryReserve id' quota .compensate) = returned true) =
            (b = true) := by
        cases b <;> simp
      simp only [exec, lost, delta, amount, hok]
      rw [balance_persistTokenQuotaDelta cfg ans id hvalid id' (-quota), toInt_neg_of_nonneg ht]
    | _ => simp [exec, lost, delta]
  | increase id' quota =>
    simp only [exec, returned.injEq]
    exact balance_persistTokenQuotaDelta cfg ans id hvalid id' quota
  | decrease id' quota =>
    simp only [exec, lost, delta, amount, returned.injEq]
    rw [balance_persistTokenQuotaDelta cfg ans id hvalid id' (-quota), toInt_neg_of_nonneg ht]
  | updateToken request =>
    have hstore : ((updateToken request).exec cfg s ans).1 = s := by
      simp only [exec]
      split_ifs
      · rfl
      · split <;> rfl
    simp [hstore, amount, lost, delta]
  | disableModelLimits id' =>
    have hstore : ((disableModelLimits id').exec cfg s ans).1 = s := by
      simp only [exec]
      split_ifs <;> rfl
    simp [hstore, amount, lost, delta]
  | update token =>
    simp only [lost, amount]
    by_cases hdb : ans.db = true
    · have hstore : ((update token).exec cfg s ans).1 = s.update token := by
        rw [exec, if_pos hdb]
      rw [hstore, balance_update]
      simp only [hdb, true_and]
      split_ifs <;> omega
    · simp [exec, hdb]
  | returned ok => simp [exec, amount, lost, delta]

theorem TokenThread.valid_exec {t : TokenThread} (ht : t.Valid) : (t.exec cfg s ans).2.Valid := by
  have hscript {id' : Int} {quota : Int64} (hquota : 0 ≤ quota.toInt) (onMiss : TokenReserveState) :
      (afterScript ans id' quota onMiss).Valid := by
    rw [afterScript]
    split <;> first | exact hquota | trivial
  fun_cases TokenThread.exec cfg s ans t with
  | case1 | case3 => exact hscript ht _
  | case2 => exact ht
  | case5 =>
    split_ifs
    · trivial
    · exact ht
  | _ => trivial

theorem TokenThread.valid_start (call : TokenCall) : (call.start cfg).Valid := by
  have hnonneg {quota : Int64} (h : ¬ quota < 0) : 0 ≤ quota.toInt := by
    rw [Int64.lt_iff_toInt_lt] at h
    exact not_lt.mp h
  fun_cases TokenCall.start cfg call
  all_goals first | exact True.intro | exact hnonneg (by assumption)

theorem TokenThread.batchValid_exec (hvalid : s.batch.Valid) (t : TokenThread) :
    (t.exec cfg s ans).1.batch.Valid := by
  have hpersist (id' : Int) (delta : Int64) :
      (persistTokenQuotaDelta cfg s ans id' delta).2.batch.Valid := by
    rw [persistTokenQuotaDelta]
    split_ifs <;> exact hvalid
  fun_cases TokenThread.exec cfg s ans t with
  | case4 =>
    simp only [reserveTokenQuotaDB]
    split_ifs <;> exact hvalid
  | case5 | case7 | case8 => exact hpersist _ _
  | _ => exact hvalid

theorem TokenThread.lost_eq_zero_iff (t : TokenThread) :
    t.lost cfg s ans id = 0 ↔ t.Undisturbed cfg s ans id := by
  have hrecord (id' : Int) (d : Int64) : (if cfg.batchUpdateEnabled = true then
          lostBy .tokenQuota id s.batch (.add .tokenQuota id' d) else 0) = 0 ↔
        (cfg.batchUpdateEnabled = true → id = id' →
          -2 ^ 63 ≤ ((s.batch.stores .tokenQuota).value id).toInt + d.toInt ∧
            ((s.batch.stores .tokenQuota).value id).toInt + d.toInt ≤ 2 ^ 63 - 1) := by
    by_cases hbatch : cfg.batchUpdateEnabled = true
    · simp only [hbatch, if_true, lostBy, true_and, forall_const]
      by_cases hid : id = id'
      · simp only [Int64.clamp]
        omega
      · simp [hid]
    · simp [hbatch]
  cases t with
  | update token =>
    simp only [lost, Undisturbed]
    by_cases hwrite : ans.db = true ∧ id = token.id
    · simp only [if_pos hwrite, forall_prop_of_true hwrite.1]
      omega
    · simp only [if_neg hwrite, true_iff]
      exact fun hdb hid => absurd ⟨hdb, hid⟩ hwrite
  | tryReserve id' quota state =>
    cases state with
    | persist => exact hrecord id' (-quota)
    | _ => exact iff_of_true rfl trivial
  | increase id' quota => exact hrecord id' quota
  | decrease id' quota => exact hrecord id' (-quota)
  | updateToken request | disableModelLimits id' | returned ok => exact iff_of_true rfl trivial

end

/-! ### Whole runs -/

def TokenState.Valid (x : TokenState) : Prop :=
  x.shared.batch.Valid ∧ ∀ t ∈ x.pool, t.Valid

section

variable (cfg : TokenSettings)

theorem TokenState.Valid.step {x : TokenState} (h : TokenState.Valid x) (e : TokenEvent) :
    TokenState.Valid ((tokenSystem cfg).step x e) := by
  cases e with
  | call c =>
    refine ⟨h.1, fun t ht => ?_⟩
    rcases mem_append.mp ht with ht | ht
    · exact h.2 t ht
    · rw [mem_singleton.mp ht]
      exact TokenThread.valid_start cfg c
  | step k ans =>
    cases hk : x.pool[k]? with
    | none =>
      rw [step_of_none ans hk]
      exact h
    | some t =>
      rw [step_of_some ans hk]
      refine ⟨t.batchValid_exec cfg ans h.1, Pool.forall_mem_set
        (fun _ u _ hj => h.2 u (mem_of_getElem? hj)) ?_⟩
      exact TokenThread.valid_exec cfg ans (h.2 t (mem_of_getElem? hk))
  | outside e =>
    cases e with
    | start => exact ⟨h.1.step .start, h.2⟩
    | flush k key => exact ⟨h.1.step (.flush k key true), h.2⟩

/-- **One step** changes the balance of a token by what it moves less what it loses. -/
theorem balance_step (id : Int) {x : TokenState} (h : TokenState.Valid x) (e : TokenEvent) :
    tokenBalance id ((tokenSystem cfg).step x e) =
      tokenBalance id x + (movedBy cfg id x e - tokenLostBy cfg id x e) := by
  cases e with
  | call c => simp [tokenBalance, Threads.System.step, movedBy, tokenLostBy]
  | step k ans =>
    cases hk : x.pool[k]? with
    | none => simp [step_of_none ans hk, movedBy, tokenLostBy, hk]
    | some t =>
      rw [step_of_some ans hk]
      simp only [movedBy, tokenLostBy, hk]
      exact t.balance_exec cfg ans id h.1 (h.2 t (mem_of_getElem? hk))
  | outside e =>
    cases e with
    | start =>
      change balance _ _ (batchStep x.shared.batch .start) = _
      rw [batchStep_balance .tokenQuota id h.1]
      rfl
    | flush k key =>
      change balance _ _ (batchStep x.shared.batch (.flush k key true)) = _
      rw [batchStep_balance .tokenQuota id h.1]
      -- The write of a flush takes effect, so nothing is lost.
      have hlost : lostBy .tokenQuota id x.shared.batch (.flush k key true) = 0 := by
        simp only [lostBy]
        split <;> simp
      rw [hlost]
      rfl

theorem tokenLostBy_eq_zero_iff (id : Int) (x : TokenState) (e : TokenEvent) :
    tokenLostBy cfg id x e = 0 ↔ Undisturbed cfg id x e := by
  cases e with
  | call c | outside e => exact iff_of_true rfl trivial
  | step k ans =>
    simp only [tokenLostBy, Undisturbed]
    split
    · exact iff_of_true rfl trivial
    · exact TokenThread.lost_eq_zero_iff cfg ans id _

/-- **The balance of a token.** For all settings, tokens, flushes in flight and interleavings of
reservations, increases, decreases, edits and flushes: at every point of the run the remaining quota
in the database with the pending delta is the initial one plus all that was increased, less all that
was decreased or reserved, if and only if each write of an edit finds the remaining quota that the
edit has read, and no pending sum leaves the 64-bit range. -/
theorem token_balance_iff (store : TokenStore) (hflushes : store.batch.Valid)
    (events : List TokenEvent) (id : Int) :
    (∀ done, done <+: events → tokenBalance id (run (tokenSystem cfg).step ⟨store, []⟩ done) =
          tokenBalance id ⟨store, []⟩ +
            sumAlong (tokenSystem cfg).step (movedBy cfg id) ⟨store, []⟩ done) ↔
      Along (tokenSystem cfg).step (Undisturbed cfg id) ⟨store, []⟩ events := by
  have hvalid : TokenState.Valid ⟨store, []⟩ := ⟨hflushes, fun t ht => by cases ht⟩
  have hstep (x : TokenState) (e : TokenEvent) (hx : TokenState.Valid x) :
      TokenState.Valid ((tokenSystem cfg).step x e) := hx.step cfg e
  rw [measure_run_iff hstep (fun x e hx => balance_step cfg id hx e) hvalid]
  exact along_congr_of_invariant hstep (fun x e _ => tokenLostBy_eq_zero_iff cfg id x e) hvalid

end

def limitedToken : TokenStore where
  batch := ⟨fun _ => ∅, [], fun _ _ => 100⟩
  rows id :=
    { id := id, userId := 7, key := "k", status := 1, name := "n", accessedTime := 0,
      expiredTime := -1, remainQuota := 100, unlimitedQuota := false, modelLimitsEnabled := true,
      modelLimits := "m", allowIps := none, usedQuota := 0, group := "default",
      crossGroupRetry := false, autoGroups := "", deleted := false }

def directSettings : TokenSettings := ⟨⟨false, false⟩, 1000⟩

def staleEdit : List TokenEvent :=
  [.call (.disableModelLimits 1), .step 0 ⟨true, none⟩, .call (.decrease 1 30),
    .step 1 ⟨true, none⟩, .step 0 ⟨true, none⟩]

def freshEdit : List TokenEvent :=
  [.call (.disableModelLimits 1), .step 0 ⟨true, none⟩, .step 0 ⟨true, none⟩,
    .call (.decrease 1 30), .step 1 ⟨true, none⟩]

theorem token_balance_freshEdit : limitedToken.batch.Valid ∧ ((∀ done, done <+: freshEdit →
          tokenBalance 1 (run (tokenSystem directSettings).step ⟨limitedToken, []⟩ done) =
            tokenBalance 1 ⟨limitedToken, []⟩ + sumAlong (tokenSystem directSettings).step
              (movedBy directSettings 1) ⟨limitedToken, []⟩ done) ↔
        Along (tokenSystem directSettings).step (Undisturbed directSettings 1) ⟨limitedToken, []⟩
          freshEdit) := by
  have hvalid : limitedToken.batch.Valid := fun f hf => by cases hf
  exact ⟨hvalid, token_balance_iff directSettings limitedToken hvalid freshEdit 1⟩

/-- The edit undoes the charge: `30` is spent, and the remaining quota is still `100`. -/
theorem token_charge_undone :
    sumAlong (tokenSystem directSettings).step (movedBy directSettings 1) ⟨limitedToken, []⟩
        staleEdit = -30 ∧
      tokenBalance 1 ⟨limitedToken, []⟩ = 100 ∧
      tokenBalance 1 (run (tokenSystem directSettings).step ⟨limitedToken, []⟩ staleEdit) =
        100 := by
  decide +kernel

end NewApi.Model
