import NewApi.Model.QuotaReserve

/-!
# When a wallet reservation is covered

A reservation is decided by the cached balance, or, where Redis cannot decide, by the quota of the
user row. Neither is the true balance: the hash may miss an update that is still under way or was
dropped, and the row misses what the batch updater has not flushed. The invariant is that the cached
balance, with all updates under way on either side, is at most the true balance; `ThreadSafe` lists
what each step has to meet for that.
-/

namespace NewApi.Model

open StepSystem List Pool

/-! ### Balances after a statement -/

section

variable (w : Wallet) (id : Int)

theorem trueBalance_eq : w.trueBalance id = w.dbQuota id + w.pendingQuota id := rfl

@[simp] theorem trueBalance_setCache (cache : UserCache) :
    (w.setCache cache).trueBalance id = w.trueBalance id := rfl

@[simp] theorem setCache_cache (cache : UserCache) : (w.setCache cache).cache = cache := rfl

@[simp] theorem addQuota_cache (v : Int) : (w.addQuota id v).cache = w.cache := rfl

@[simp] theorem trueBalance_addQuota (v : Int) :
    (w.addQuota id v).trueBalance id = w.trueBalance id + v := by
  simp only [Wallet.trueBalance, Wallet.addQuota, balance, persisted, pending, credit_apply,
    and_self, if_true]
  omega

variable {w} (h : w.batch.Valid)
include h

theorem trueBalance_addNewRecord (v : Int64) : (w.addNewRecord id v).trueBalance id =
      w.trueBalance id + Int64.clamp (((w.batch.stores .userQuota).value id).toInt + v.toInt) -
        ((w.batch.stores .userQuota).value id).toInt := by
  have hstep := batchStep_balance .userQuota id h (.add .userQuota id v)
  simp only [addedBy, lostBy, and_self, if_true] at hstep
  change balance .userQuota id (batchStep w.batch (.add .userQuota id v)) = _
  change _ = balance .userQuota id w.batch + _ - _
  omega

theorem le_trueBalance_addNewRecord {v : Int64} (hv : v.toInt ≤ 0) :
    w.trueBalance id + v.toInt ≤ (w.addNewRecord id v).trueBalance id := by
  have hhigh := ((w.batch.stores .userQuota).value id).toInt_lt
  rw [trueBalance_addNewRecord id h]
  unfold Int64.clamp
  omega

theorem trueBalance_addNewRecord_of_fits {v : Int64}
    (hlow : -2 ^ 63 ≤ ((w.batch.stores .userQuota).value id).toInt + v.toInt)
    (hhigh : ((w.batch.stores .userQuota).value id).toInt + v.toInt ≤ 2 ^ 63 - 1) :
    (w.addNewRecord id v).trueBalance id = w.trueBalance id + v.toInt := by
  rw [trueBalance_addNewRecord id h, Int64.clamp_of_mem hlow hhigh]
  omega

end

/-! ### The invariant -/

/-- By how much a call of `TryReserveUserQuota` will still move the cached balance against the true
one. -/
def ReserveState.ahead (quota : Int64) : ReserveState → Int
  | persist | compensate => quota.toInt
  | script | hydrate _ | retry | reserveDB | returned _ => 0

/-- By how much a thread will still move the cached balance against the true one: the deltas that it
will apply to the hash, and the debits that the row or the batch updater does not have yet. -/
def QuotaThread.ahead : QuotaThread → Int
  | tryReserve quota s => s.ahead quota
  | decrease quota _ => quota.toInt
  | cacheIncr delta => delta.toInt
  | getUserCache _ | increase _ _ | done => 0

def Covered (id : Int) (w : Wallet) (n : Int) : Prop :=
  ∀ q, cachedQuota w.cache id = some q → q + n ≤ w.trueBalance id

def HydrateState.Valid (id : Int) : HydrateState → Prop
  | readFloor user | populate user => user.id = id
  | readCache | readRow | returned _ => True

def ReserveState.Valid (id : Int) (quota : Int64) : ReserveState → Prop
  | returned _ => True
  | hydrate h => 0 < quota.toInt ∧ h.Valid id
  | script | retry | reserveDB | persist | compensate => 0 < quota.toInt

def QuotaThread.Valid (id : Int) : QuotaThread → Prop
  | tryReserve quota s => s.Valid id quota
  | getUserCache h => h.Valid id
  | increase quota _ | decrease quota _ => 0 ≤ quota.toInt
  | cacheIncr _ | done => True

def HydrateSafe (id : Int) (w : Wallet) (n : Int) (ans : StoreReply) : HydrateState → Prop
  | .populate user => ans.redis = true → cachedQuota w.cache id = none →
      w.cache.quotaField.getD user.quota + n ≤ w.trueBalance id
  | .readCache | .readRow | .readFloor _ | .returned _ => True

/-- What a step of a thread has to meet, with `n` what all threads are ahead:
* the reserve script runs while no debit is missing in the hash;
* hydration brings a covered balance;
* the database fallback finds no pending debit and no hash;
* a credit does not saturate the batch updater;
* no debit of the hash is dropped while there is a hash. -/
def ThreadSafe (cfg : QuotaSettings) (id : Int) (w : Wallet) (n : Int) (ans : StoreReply) :
    QuotaThread → Prop
  | .tryReserve _ .script | .tryReserve _ .retry => ans.redis = true → 0 ≤ n
  | .tryReserve _ (.hydrate h) | .getUserCache h => HydrateSafe id w n ans h
  | .tryReserve _ .reserveDB =>
    ans.db = true → 0 ≤ w.pendingQuota id ∧ cachedQuota w.cache id = none
  | .increase quota db =>
    db = false ∧ cfg.batchUpdateEnabled = true →
      ((w.batch.stores .userQuota).value id).toInt + quota.toInt ≤ 2 ^ 63 - 1
  | .cacheIncr delta =>
    ¬ (cfg.redisEnabled = true ∧ ans.redis = true) → delta.toInt < 0 →
      cachedQuota w.cache id = none
  | .tryReserve _ .persist | .tryReserve _ .compensate | .tryReserve _ (.returned _)
  | .decrease _ _ | .done => True

def QuotaSafe (cfg : QuotaSettings) (id : Int) (x : QuotaState) : QuotaEvent → Prop
  | .step k ans => ∀ t ∈ x.threads[k]?,
      ThreadSafe cfg id x.wallet (Pool.total QuotaThread.ahead x.threads) ans t
  | .tryReserve _ | .getUserCache | .increase _ _ | .decrease _ _ | .expire | .startFlush
  | .flush _ _ => True

instance (id : Int) (w : Wallet) (n : Int) (ans : StoreReply) :
    DecidablePred (HydrateSafe id w n ans)
  | .populate _ => inferInstanceAs (Decidable (_ → _ → _))
  | .readCache | .readRow | .readFloor _ | .returned _ => .isTrue trivial

instance (cfg : QuotaSettings) (id : Int) (w : Wallet) (n : Int) (ans : StoreReply) :
    DecidablePred (ThreadSafe cfg id w n ans)
  | .tryReserve _ .script | .tryReserve _ .retry => inferInstanceAs (Decidable (_ → _))
  | .tryReserve _ (.hydrate h) | .getUserCache h =>
    inferInstanceAs (Decidable (HydrateSafe id w n ans h))
  | .tryReserve _ .reserveDB => inferInstanceAs (Decidable (_ → _ ∧ _))
  | .increase _ _ => inferInstanceAs (Decidable (_ → _))
  | .cacheIncr _ => inferInstanceAs (Decidable (_ → _ → _))
  | .tryReserve _ .persist | .tryReserve _ .compensate | .tryReserve _ (.returned _)
  | .decrease _ _ | .done => .isTrue trivial

instance (cfg : QuotaSettings) (id : Int) (x : QuotaState) :
    DecidablePred (QuotaSafe cfg id x)
  | .step _ _ => inferInstanceAs (Decidable (∀ t ∈ _, _))
  | .tryReserve _ | .getUserCache | .increase _ _ | .decrease _ _ | .expire | .startFlush
  | .flush _ _ => .isTrue trivial

def ReserveState.granted : ReserveState → Bool
  | persist | returned true => true
  | script | hydrate _ | retry | reserveDB | compensate | returned false => false

def GrantedAt (k : ℕ) (quota : Int64) (x : QuotaState) : Prop :=
  ∃ s : ReserveState, x.threads[k]? = some (.tryReserve quota s) ∧ s.granted = true

structure QuotaInvariant (id : Int) (x : QuotaState) : Prop where
  batch : x.wallet.batch.Valid
  threads : ∀ t ∈ x.threads, t.Valid id
  covered : Covered id x.wallet (Pool.total QuotaThread.ahead x.threads)

/-! ### What one step does -/

open QuotaThread

open HydrateState

section

variable {cfg : QuotaSettings} {id n n' : Int} {ans : StoreReply} {w w' : Wallet}
  {quota : Int64}

theorem Covered.move (h : Covered id w n) (dc : Int)
    (hcache : cachedQuota w'.cache id = (cachedQuota w.cache id).map (· + dc))
    (hle : dc + (n' - n) ≤ w'.trueBalance id - w.trueBalance id) : Covered id w' n' := by
  intro q hq
  rw [hcache] at hq
  obtain ⟨q₀, hq₀, rfl⟩ := Option.map_eq_some_iff.mp hq
  have hq₀' := h q₀ hq₀
  omega

theorem Covered.still (h : Covered id w n) (hcache : w'.cache = w.cache)
    (hle : n' - n ≤ w'.trueBalance id - w.trueBalance id) : Covered id w' n' := by
  refine h.move 0 ?_ (by omega)
  rw [hcache]
  simp

theorem covered_of_none (h : cachedQuota w.cache id = none) : Covered id w n := by
  intro q hq
  rw [h] at hq
  cases hq

variable (cfg ans w) in
theorem HydrateState.step_cases {h : HydrateState} (hvalid : h.Valid id) :
    (h.step cfg id ans w).1.Valid id ∧ (h.step cfg id ans w).2.batch = w.batch ∧
      (cachedQuota (h.step cfg id ans w).2.cache id = cachedQuota w.cache id ∨
        ∃ user, h = .populate user ∧ ans.redis = true ∧ cachedQuota w.cache id = none ∧
          cachedQuota (h.step cfg id ans w).2.cache id =
            some (w.cache.quotaField.getD user.quota)) := by
  cases h with
  | readCache =>
    simp only [step]
    split_ifs <;> exact ⟨trivial, rfl, .inl rfl⟩
  | readRow =>
    simp only [step]
    split_ifs
    · exact ⟨trivial, rfl, .inl rfl⟩
    · exact ⟨rfl, rfl, .inl rfl⟩
    · exact ⟨trivial, rfl, .inl rfl⟩
  | readFloor user =>
    simp only [step]
    split_ifs
    · exact ⟨trivial, rfl, .inl rfl⟩
    · exact ⟨hvalid, rfl, .inl rfl⟩
  | populate user =>
    obtain rfl : user.id = id := hvalid
    simp only [step]
    cases hredis : ans.redis with
    | false => exact ⟨trivial, rfl, .inl rfl⟩
    | true =>
      rcases hwrite : writeUserCache w.cache user true with e | cache
      · cases e <;> exact ⟨trivial, rfl, .inl rfl⟩
      refine ⟨trivial, rfl, ?_⟩
      rcases cachedQuota_write hwrite with hsame | ⟨hnone, hsome⟩
      · exact .inl hsame
      · exact .inr ⟨user, rfl, rfl, hnone, hsome⟩
  | returned ok => exact ⟨trivial, rfl, .inl rfl⟩

theorem Covered.hydrate {h : HydrateState} (hcov : Covered id w n) (hvalid : h.Valid id)
    (hsafe : HydrateSafe id w n ans h) : Covered id (h.step cfg id ans w).2 n := by
  obtain ⟨-, hbatch, hcache⟩ := step_cases cfg ans w hvalid
  have htrue : (h.step cfg id ans w).2.trueBalance id = w.trueBalance id := by
    simp [Wallet.trueBalance, hbatch]
  rcases hcache with hsame | ⟨user, rfl, hredis, hnone, hsome⟩
  · intro q hq
    rw [htrue]
    exact hcov q (hsame ▸ hq)
  · intro q hq
    obtain rfl := Option.some.inj (hsome.symm.trans hq)
    rw [htrue]
    exact hsafe hredis hnone

inductive ReserveMove (cfg : QuotaSettings) (id : Int) (ans : StoreReply) (w : Wallet)
    (quota : Int64) : ReserveState → ReserveState → Wallet → Prop
  /-- Nothing is moved, and nothing is granted. -/
  | wait {s s' : ReserveState} (hvalid : s'.Valid id quota)
      (hahead : s'.ahead quota = s.ahead quota)
      (hgranted : s'.granted = true → s.granted = true) :
      ReserveMove cfg id ans w quota s s' w
  /-- The quota is not put back into the hash. -/
  | lost (hredis : ans.redis = false) :
      ReserveMove cfg id ans w quota .compensate (.returned false) w
  /-- The reserve script takes the quota from the hash. -/
  | hit {s : ReserveState} {q : Int} (hs : s = .script ∨ s = .retry) (hredis : ans.redis = true)
      (hcached : cachedQuota w.cache id = some q) (hle : quota.toInt ≤ q) :
      ReserveMove cfg id ans w quota s .persist
        (w.setCache (w.cache.incrQuota (-quota.toInt)))
  | hydrate {h : HydrateState} {s' : ReserveState} (hs' : s'.Valid id quota)
      (hahead : s'.ahead quota = 0) (hgranted : s'.granted = false) :
      ReserveMove cfg id ans w quota (.hydrate h) s' (h.step cfg id ans w).2
  | grantDB (hdb : ans.db = true) (hle : quota.toInt ≤ w.dbQuota id) :
      ReserveMove cfg id ans w quota .reserveDB (.returned true)
        (w.addQuota id (-quota.toInt))
  | persistBatch :
      ReserveMove cfg id ans w quota .persist (.returned true) (w.addNewRecord id (-quota))
  | persistRow :
      ReserveMove cfg id ans w quota .persist (.returned true)
        (w.addQuota id (-quota).toInt)
  | compensate :
      ReserveMove cfg id ans w quota .compensate (.returned false)
        (w.setCache (cacheApplyUserQuotaDelta w.cache id quota.toInt).2)

theorem ReserveMove.of_script {s onMiss : ReserveState} (hs : s = .script ∨ s = .retry)
    (hquota : 0 < quota.toInt) (hvalid : onMiss.Valid id quota) (hahead : onMiss.ahead quota = 0)
    (hgranted : onMiss.granted = false) :
    ReserveMove cfg id ans w quota s (reserveScript id ans w quota onMiss).1
      (reserveScript id ans w quota onMiss).2 := by
  have hs₀ : s.ahead quota = 0 := by rcases hs with rfl | rfl <;> rfl
  simp only [reserveScript, cacheTryReserveUserQuota]
  cases hredis : ans.redis with
  | false => exact .wait hquota hs₀.symm nofun
  | true =>
    cases hcached : cachedQuota w.cache id with
    | none =>
      exact .wait hvalid (hahead.trans hs₀.symm)
        fun h => absurd (hgranted.symm.trans h) Bool.false_ne_true
    | some q =>
      by_cases hlt : q < quota.toInt
      · simp only [if_pos hlt]
        exact .wait trivial hs₀.symm nofun
      · simp only [if_neg hlt]
        exact .hit hs hredis hcached (by omega)

variable (cfg ans w) in
theorem ReserveState.step_move {s : ReserveState} (hvalid : s.Valid id quota) :
    ReserveMove cfg id ans w quota s (s.step cfg id ans w quota).1
      (s.step cfg id ans w quota).2 := by
  cases s with
  | script => exact .of_script (.inl rfl) hvalid ⟨hvalid, trivial⟩ rfl rfl
  | retry => exact .of_script (.inr rfl) hvalid hvalid rfl rfl
  | hydrate h =>
    have hnext := (step_cases cfg ans w hvalid.2).1
    have hmove := @ReserveMove.hydrate cfg id ans w quota h
    simp only [ReserveState.step]
    generalize h.step cfg id ans w = r at hnext hmove
    obtain ⟨h', w'⟩ := r
    cases h' with
    | returned ok => cases ok <;> exact hmove hvalid.1 rfl rfl
    | readCache | readRow | readFloor user | populate user =>
      exact hmove ⟨hvalid.1, hnext⟩ rfl rfl
  | reserveDB =>
    simp only [ReserveState.step, reserveUserQuotaDB]
    split_ifs with h
    · exact .grantDB h.1 h.2
    · exact .wait trivial rfl nofun
  | persist =>
    simp only [ReserveState.step, persistUserQuotaDelta]
    cases cfg.batchUpdateEnabled with
    | true => exact .persistBatch
    | false =>
      cases ans.db with
      | true => exact .persistRow
      | false => exact .wait hvalid rfl nofun
  | compensate =>
    simp only [ReserveState.step]
    split_ifs with hredis
    · exact .compensate
    · exact .lost (Bool.not_eq_true _ ▸ hredis)
  | returned granted => exact .wait trivial rfl fun h => h

section

variable {s s' : ReserveState} (hmove : ReserveMove cfg id ans w quota s s' w')
  (hvalid : s.Valid id quota)
include hmove hvalid

theorem ReserveMove.valid : s'.Valid id quota := by
  cases hmove with
  | wait hs' | hydrate hs' => exact hs'
  | hit hs => rcases hs with rfl | rfl <;> exact hvalid
  | _ => trivial

theorem ReserveMove.batch_valid (hbatch : w.batch.Valid) : w'.batch.Valid := by
  cases hmove with
  | @hydrate h =>
    rw [(step_cases cfg ans w hvalid.2).2.1]
    exact hbatch
  | persistBatch => exact hbatch.step _
  | _ => exact hbatch

/-- The reservation keeps the invariant: what it takes from the hash it is ahead until it has taken
it from the true balance. -/
theorem ReserveMove.covered (hbatch : w.batch.Valid) (hcov : Covered id w n)
    (hsafe : ThreadSafe cfg id w n ans (.tryReserve quota s)) :
    Covered id w' (n - s.ahead quota + s'.ahead quota) := by
  cases hmove with
  | wait _ hahead => exact hcov.still rfl (by omega)
  | lost =>
    have hquota : 0 < quota.toInt := hvalid
    exact hcov.still rfl (by simp only [ReserveState.ahead]; omega)
  | hit hs =>
    have hs₀ : s.ahead quota = 0 := by rcases hs with rfl | rfl <;> rfl
    refine hcov.move (-quota.toInt) (cachedQuota_incrQuota _ _ _) ?_
    rw [trueBalance_setCache, hs₀]
    simp only [ReserveState.ahead]
    omega
  | hydrate _ hahead =>
    rw [hahead]
    simp only [ReserveState.ahead, sub_zero, add_zero]
    exact hcov.hydrate hvalid.2 hsafe
  | grantDB hdb => exact covered_of_none (hsafe hdb).2
  | persistBatch =>
    have hquota : 0 < quota.toInt := hvalid
    have hneg := toInt_neg_of_nonneg (le_of_lt hquota)
    have hle := le_trueBalance_addNewRecord id hbatch (v := -quota) (by omega)
    refine hcov.still rfl ?_
    simp only [ReserveState.ahead]
    omega
  | persistRow =>
    have hneg := toInt_neg_of_nonneg (le_of_lt hvalid)
    refine hcov.still rfl ?_
    simp only [trueBalance_addQuota, ReserveState.ahead]
    omega
  | compensate =>
    refine hcov.move quota.toInt (cachedQuota_apply _ _ _) ?_
    simp only [trueBalance_setCache, ReserveState.ahead]
    omega

theorem ReserveMove.granted_le (hcov : Covered id w n)
    (hsafe : ThreadSafe cfg id w n ans (.tryReserve quota s)) (hs : s.granted = false)
    (hs' : s'.granted = true) : quota.toInt ≤ w.trueBalance id := by
  cases hmove with
  | wait _ _ hgranted => rw [hgranted hs'] at hs; cases hs
  | @hit _ q hs hredis hcached hle =>
    have hq := hcov q hcached
    have hn : 0 ≤ n := by rcases hs with rfl | rfl <;> exact hsafe hredis
    omega
  | hydrate _ _ hgranted => rw [hgranted] at hs'; cases hs'
  | grantDB hdb hle =>
    have hpend := (hsafe hdb).1
    rw [trueBalance_eq]
    omega
  | lost | compensate => cases hs'
  | _ => cases hs

end

variable {t : QuotaThread} (hvalid : t.Valid id)
include hvalid

variable (cfg ans w) in
theorem QuotaThread.Valid.step : (t.step cfg id ans w).1.Valid id := by
  cases t with
  | tryReserve quota s => exact (s.step_move cfg ans w hvalid).valid hvalid
  | getUserCache h => exact (step_cases cfg ans w hvalid).1
  | increase quota db =>
    simp only [QuotaThread.step, increaseUserQuota]
    split_ifs <;> trivial
  | decrease quota db =>
    simp only [QuotaThread.step]
    split_ifs <;> trivial
  | cacheIncr delta | done => trivial

variable (cfg ans) in
theorem QuotaThread.Valid.step_batch (hbatch : w.batch.Valid) :
    (t.step cfg id ans w).2.batch.Valid := by
  cases t with
  | tryReserve quota s => exact (s.step_move cfg ans w hvalid).batch_valid hvalid hbatch
  | getUserCache h =>
    change BatchState.Valid (h.step cfg id ans w).2.batch
    rw [(step_cases cfg ans w hvalid).2.1]
    exact hbatch
  | increase quota db =>
    simp only [QuotaThread.step, increaseUserQuota]
    split_ifs
    · exact hbatch.step _
    all_goals exact hbatch
  | decrease quota db =>
    simp only [QuotaThread.step]
    split_ifs
    · exact hbatch.step _
    all_goals exact hbatch
  | cacheIncr delta =>
    simp only [QuotaThread.step, cacheIncrUserQuota]
    split_ifs <;> exact hbatch
  | done => exact hbatch

/-- **One step of a thread** keeps the invariant, if it is safe. -/
theorem Covered.thread (hbatch : w.batch.Valid) (hcov : Covered id w n)
    (hsafe : ThreadSafe cfg id w n ans t) :
    Covered id (t.step cfg id ans w).2
      (n - t.ahead + (t.step cfg id ans w).1.ahead) := by
  cases t with
  | tryReserve quota s =>
    exact (s.step_move cfg ans w hvalid).covered hvalid hbatch hcov hsafe
  | getUserCache h =>
    simp only [QuotaThread.step, ahead, sub_zero, add_zero]
    exact hcov.hydrate hvalid hsafe
  | increase quota db =>
    simp only [QuotaThread.step, increaseUserQuota]
    split_ifs with hmode hroom <;> simp [ahead]
    · have hquota : 0 ≤ quota.toInt := hvalid
      have hlow := ((w.batch.stores .userQuota).value id).le_toInt
      have hfits := trueBalance_addNewRecord_of_fits id hbatch (by omega) (hsafe hmode)
      exact hcov.still rfl (by omega)
    · have hrow := trueBalance_addQuota w id quota.toInt
      exact hcov.still rfl (by omega)
    · exact hcov.still rfl (by omega)
  | decrease quota db =>
    have hquota : 0 ≤ quota.toInt := hvalid
    have hneg := toInt_neg_of_nonneg hquota
    simp only [QuotaThread.step]
    split_ifs with hmode hdb <;> simp [ahead]
    · have hle := le_trueBalance_addNewRecord id hbatch (v := -quota) (by omega)
      exact hcov.still rfl (by omega)
    · have hrow := trueBalance_addQuota w id (-quota.toInt)
      exact hcov.still rfl (by omega)
    · exact hcov.still rfl (by omega)
  | cacheIncr delta =>
    simp only [QuotaThread.step, cacheIncrUserQuota, ahead]
    split_ifs with hup
    · have hsame := trueBalance_setCache w id (cacheApplyUserQuotaDelta w.cache id delta.toInt).2
      exact hcov.move delta.toInt (cachedQuota_apply _ _ _) (by omega)
    · by_cases hdelta : delta.toInt < 0
      · exact covered_of_none (hsafe hup hdelta)
      · exact hcov.still rfl (by omega)
  | done =>
    simp only [QuotaThread.step]
    exact hcov.still rfl (by omega)

end

/-! ### Runs -/

section

variable {cfg : QuotaSettings} {id : Int} {quota : Int64}

theorem toInt_pos_of_ne (hneg : ¬ quota < 0) (hzero : ¬ quota = 0) : 0 < quota.toInt := by
  rw [Int64.lt_iff_toInt_lt, Int64.toInt_zero] at hneg
  have hne : quota.toInt ≠ 0 := fun h => hzero (Int64.toInt_inj.mp (h.trans Int64.toInt_zero.symm))
  omega

theorem spawned_valid (e : QuotaEvent) : ∀ t ∈ spawned cfg e, t.Valid id := by
  intro t ht
  cases e with
  | tryReserve quota =>
    simp only [spawned] at ht
    split_ifs at ht with hneg hzero hredis <;> obtain rfl := mem_singleton.mp ht
    · trivial
    · trivial
    all_goals exact toInt_pos_of_ne hneg hzero
  | getUserCache =>
    obtain rfl := mem_singleton.mp ht
    trivial
  | increase quota db =>
    simp only [spawned] at ht
    split_ifs at ht with hbad <;> obtain rfl := mem_singleton.mp ht
    · trivial
    · rw [not_or, Int64.lt_iff_toInt_lt] at hbad
      exact not_lt.mp hbad.1
  | decrease quota db =>
    simp only [spawned] at ht
    split_ifs at ht with hbad
    · obtain rfl := mem_singleton.mp ht
      trivial
    rw [Int64.lt_iff_toInt_lt] at hbad
    rcases mem_pair.mp ht with rfl | rfl
    · trivial
    · exact not_lt.mp hbad
  | _ => cases ht

theorem spawned_ahead (e : QuotaEvent) : Pool.total QuotaThread.ahead (spawned cfg e) = 0 := by
  cases e with
  | tryReserve quota | increase quota db =>
    simp only [spawned]
    split_ifs <;> rfl
  | decrease quota db =>
    simp only [spawned]
    split_ifs with hbad
    · rfl
    rw [Int64.lt_iff_toInt_lt] at hbad
    have hneg := toInt_neg_of_nonneg (not_lt.mp hbad)
    simp only [total_cons, total_nil, ahead]
    omega
  | _ => rfl

variable {e : QuotaEvent} {x : QuotaState}

theorem spawned_not_granted (hquota : 0 < quota) {s : ReserveState}
    (hmem : .tryReserve quota s ∈ spawned cfg e) : s.granted = false := by
  cases e with
  | tryReserve quota' =>
    simp only [spawned] at hmem
    split_ifs at hmem with hneg hzero <;>
      obtain ⟨rfl, rfl⟩ := tryReserve.inj (mem_singleton.mp hmem)
    · rfl
    · exact absurd hquota (hzero ▸ Int64.lt_irrefl)
    · rfl
    · rfl
  | getUserCache => cases mem_singleton.mp hmem
  | increase quota' db =>
    simp only [spawned] at hmem
    split_ifs at hmem <;> cases mem_singleton.mp hmem
  | decrease quota' db =>
    simp only [spawned] at hmem
    split_ifs at hmem
    · cases mem_singleton.mp hmem
    · rcases mem_pair.mp hmem with h | h <;> cases h
  | _ => cases hmem

variable (id) in
theorem trueBalance_flush {w : Wallet} (h : w.batch.Valid) {e : BatchEvent}
    (hadd : addedBy .userQuota id w.batch e = 0) (hlost : lostBy .userQuota id w.batch e = 0) :
    Wallet.trueBalance { w with batch := batchStep w.batch e } id = w.trueBalance id := by
  have hstep := batchStep_balance .userQuota id h e
  rw [hadd, hlost] at hstep
  exact hstep.trans (by simp [Wallet.trueBalance])

theorem QuotaInvariant.spawn (h : QuotaInvariant id x) (e : QuotaEvent) :
    QuotaInvariant id { x with threads := x.threads ++ spawned cfg e } where
  batch := h.batch
  threads t ht := (mem_append.mp ht).elim (h.threads t) (spawned_valid e t)
  covered := by
    rw [total_append, spawned_ahead, add_zero]
    exact h.covered

/-- **One event** keeps the invariant, if it is safe. -/
theorem QuotaInvariant.step (h : QuotaInvariant id x) (hsafe : QuotaSafe cfg id x e) :
    QuotaInvariant id (quotaStep cfg id x e) := by
  cases e with
  | tryReserve quota => exact h.spawn (.tryReserve quota)
  | getUserCache => exact h.spawn .getUserCache
  | increase quota db => exact h.spawn (.increase quota db)
  | decrease quota db => exact h.spawn (.decrease quota db)
  | expire => exact ⟨h.batch, h.threads, covered_of_none rfl⟩
  | startFlush =>
    have hsame := trueBalance_flush id h.batch (e := .start) rfl rfl
    exact ⟨h.batch.step _, h.threads, h.covered.still rfl (by simp only [quotaStep]; omega)⟩
  | flush k key =>
    have hlost : lostBy .userQuota id x.wallet.batch (.flush k key true) = 0 := by
      simp only [lostBy]
      split <;> simp
    have hsame := trueBalance_flush id h.batch (e := .flush k key true) rfl hlost
    exact ⟨h.batch.step _, h.threads, h.covered.still rfl (by simp only [quotaStep]; omega)⟩
  | step k ans =>
    simp only [quotaStep]
    rcases hk : x.threads[k]? with - | t
    · exact h
    have ht := h.threads t (mem_of_getElem? hk)
    refine ⟨ht.step_batch cfg ans h.batch, fun t' ht' => ?_, ?_⟩
    · rcases mem_or_eq_of_mem_set ht' with ht' | rfl
      · exact h.threads t' ht'
      · exact ht.step cfg ans x.wallet
    · rw [total_set ahead hk]
      exact Covered.thread ht h.batch h.covered (hsafe t hk)

theorem QuotaThread.step_eq_tryReserve {t : QuotaThread} {ans : StoreReply} {w : Wallet}
    {s' : ReserveState} (h : (t.step cfg id ans w).1 = .tryReserve quota s') :
    ∃ s : ReserveState, t = .tryReserve quota s ∧ (s.step cfg id ans w quota).1 = s' := by
  cases t with
  | tryReserve quota' s =>
    obtain ⟨rfl, hs⟩ := tryReserve.inj h
    exact ⟨s, rfl, hs⟩
  | getUserCache h' | cacheIncr delta | done => cases h
  | increase quota' db =>
    simp only [QuotaThread.step, increaseUserQuota] at h
    split_ifs at h
  | decrease quota' db =>
    simp only [QuotaThread.step] at h
    split_ifs at h

theorem not_grantedAt_spawn {k : ℕ} (hquota : 0 < quota) (hbefore : ¬ GrantedAt k quota x) :
    ¬ GrantedAt k quota { x with threads := x.threads ++ spawned cfg e } := by
  rintro ⟨s, hs, hgranted⟩
  rw [getElem?_append] at hs
  split_ifs at hs
  · exact hbefore ⟨s, hs, hgranted⟩
  · rw [spawned_not_granted hquota (mem_of_getElem? hs)] at hgranted
    cases hgranted

theorem QuotaInvariant.granted_le (h : QuotaInvariant id x) (hsafe : QuotaSafe cfg id x e)
    {k : ℕ} (hquota : 0 < quota) (hbefore : ¬ GrantedAt k quota x)
    (hafter : GrantedAt k quota (quotaStep cfg id x e)) :
    quota.toInt ≤ x.wallet.trueBalance id := by
  cases e with
  | expire | startFlush | flush _ _ => exact absurd hafter hbefore
  | step j ans =>
    rcases hj : x.threads[j]? with - | t
    · simp only [quotaStep, hj] at hafter
      exact absurd hafter hbefore
    simp only [quotaStep, hj] at hafter
    obtain ⟨s', hs', hgranted⟩ := hafter
    simp only [getElem?_set] at hs'
    split_ifs at hs' with hjk hlen
    · subst hjk
      obtain ⟨s, rfl, rfl⟩ := step_eq_tryReserve (Option.some.inj hs')
      have hvalid := h.threads _ (mem_of_getElem? hj)
      have hs : s.granted = false := by
        cases hg : s.granted with
        | false => rfl
        | true => exact absurd ⟨s, hj, hg⟩ hbefore
      exact (s.step_move cfg ans x.wallet hvalid).granted_le hvalid h.covered
        (hsafe _ hj) hs hgranted
    · exact absurd ⟨s', hs', hgranted⟩ hbefore
  | _ =>
    exact absurd hafter (not_grantedAt_spawn hquota hbefore)

variable (cfg id) in
/-- **No over-grant.** From a state with no call and no flush under way, whose cached balance is at
most the true balance, take any run of safe steps. If in the end a call of `TryReserveUserQuota`
with a positive quota has returned `true`, then the run has a step at which that call was granted,
and at that step the true balance was at least the quota. -/
theorem no_over_grant {x : QuotaState} (hthreads : x.threads = [])
    (hflushes : x.wallet.batch.flushes = [])
    (hcached : ∀ q, cachedQuota x.wallet.cache id = some q → q ≤ x.wallet.trueBalance id)
    {events : List QuotaEvent}
    (hsafe : Along (quotaStep cfg id) (QuotaSafe cfg id) x events) {k : ℕ} {quota : Int64}
    (hquota : 0 < quota)
    (hreturned : (run (quotaStep cfg id) x events).threads[k]? =
      some (.tryReserve quota (.returned true))) :
    ∃ pre e post, events = pre ++ e :: post ∧
      ¬ GrantedAt k quota (run (quotaStep cfg id) x pre) ∧
      GrantedAt k quota (quotaStep cfg id (run (quotaStep cfg id) x pre) e) ∧
      quota.toInt ≤ (run (quotaStep cfg id) x pre).wallet.trueBalance id := by
  have hinit : QuotaInvariant id x := by
    refine ⟨fun f hf => ?_, fun t ht => ?_, fun q hq => ?_⟩
    · rw [hflushes] at hf
      cases hf
    · rw [hthreads] at ht
      cases ht
    · rw [hthreads, total_nil, add_zero]
      exact hcached q hq
  have hstart : ¬ GrantedAt k quota x := by
    rintro ⟨s, hs, -⟩
    rw [hthreads] at hs
    cases hs
  obtain ⟨pre, e, post, rfl, hbefore, hafter⟩ :=
    exists_first_of_run hstart ⟨_, hreturned, rfl⟩
  obtain ⟨hpre, he, -⟩ := (along_append x pre (e :: post)).mp hsafe
  have hinv := run_induction (fun _ _ hx hs => QuotaInvariant.step hx hs) hinit hpre
  exact ⟨pre, e, post, rfl, hbefore, hafter, hinv.granted_le he hquota hbefore hafter⟩

end

def uncachedUser : QuotaState := ⟨⟨restingBatch, 1, ⟨none, 0, 0⟩⟩, []⟩

def batchedSettings : QuotaSettings := ⟨true, true⟩

/-- A reservation of `8` that hydrates the hash, and of another `2` from the hash. -/
def reserveTwice : List QuotaEvent :=
  .tryReserve 8 :: List.replicate 7 (.step 0 ⟨true, true⟩) ++
    .tryReserve 2 :: List.replicate 2 (.step 1 ⟨true, true⟩)

theorem no_over_grant_reserveTwice : ∃ pre e post, reserveTwice = pre ++ e :: post ∧
      ¬ GrantedAt 1 2 (run (quotaStep batchedSettings 1) uncachedUser pre) ∧
      GrantedAt 1 2
        (quotaStep batchedSettings 1 (run (quotaStep batchedSettings 1) uncachedUser pre) e) ∧
      (2 : Int64).toInt ≤
        (run (quotaStep batchedSettings 1) uncachedUser pre).wallet.trueBalance 1 :=
  no_over_grant batchedSettings 1 rfl rfl (by decide) (by decide) (by decide) (by decide)

/-- A reservation of `8` that stays in the batch updater, and one of `3` that does not reach
Redis. -/
def reserveThenOutage : List QuotaEvent :=
  .tryReserve 8 :: List.replicate 7 (.step 0 ⟨true, true⟩) ++
    [.tryReserve 3, .step 1 ⟨false, true⟩]

/-- The fallback to the user row grants a reservation of `3` at a true balance of `2`: the row does
not have the pending debit of the first reservation yet. -/
theorem stale_fallback_grants :
    (run (quotaStep batchedSettings 1) uncachedUser reserveThenOutage).wallet.trueBalance 1 = 2 ∧
      (run (quotaStep batchedSettings 1) uncachedUser reserveThenOutage).threads[1]? =
        some (.tryReserve 3 .reserveDB) ∧
      (run (quotaStep batchedSettings 1) uncachedUser
          (reserveThenOutage ++ [.step 1 ⟨false, true⟩])).threads[1]? =
        some (.tryReserve 3 (.returned true)) := by
  decide

end NewApi.Model
