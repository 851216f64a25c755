import NewApi.Model.AccountMoves

/-!
# Coherence of the cached balance

While the user hash exists, the reservations are decided by its `Quota` field, so every operation
that moves the quota of the row or the deltas of the batch updater has to move the hash by the same
amount. `InSync` states that the two agree up to the updates that are still to be made; one
operation after the other, each with its goroutines run to the end, keeps it with nothing left to be
made.

The one operation that has no update of the hash is the transfer of affiliate quota.
-/

namespace NewApi.Model

open StepSystem List

def InSync (id : Int) (w : Wallet) (n : Int) : Prop :=
  ∃ q, cachedQuota w.cache id = some q ∧ q + n = w.trueBalance id

def Fits (id : Int) (w : Wallet) (v : Int) : Prop :=
  -2 ^ 63 ≤ ((w.batch.stores .userQuota).value id).toInt + v ∧
    ((w.batch.stores .userQuota).value id).toInt + v ≤ 2 ^ 63 - 1
  deriving Decidable

def QuotaThread.Warm : QuotaThread → Prop
  | tryReserve _ .script | tryReserve _ .persist | tryReserve _ .compensate
  | tryReserve _ (.returned _) | increase _ _ | decrease _ _ | cacheIncr _ | done => True
  | tryReserve _ (.hydrate _) | tryReserve _ .retry | tryReserve _ .reserveDB
  | getUserCache _ => False

/-- What a thread has to meet from its start: a delta for the batch updater does not saturate it,
and the `UPDATE` of `DecreaseUserQuota`, whose goroutine runs in any case, takes effect. -/
def ThreadExact (cfg : QuotaSettings) (id : Int) (replies : ℕ → StoreReply) (w : Wallet) :
    QuotaThread → Prop
  | .tryReserve quota .script | .tryReserve quota .persist =>
    cfg.batchUpdateEnabled = true → Fits id w (-quota.toInt)
  | .increase quota db =>
    db = false ∧ cfg.batchUpdateEnabled = true → Fits id w quota.toInt
  | .decrease quota db =>
    if db = false ∧ cfg.batchUpdateEnabled = true then Fits id w (-quota.toInt)
    else ∀ i, (replies i).db = true
  | .tryReserve _ (.hydrate _) | .tryReserve _ .retry | .tryReserve _ .reserveDB
  | .tryReserve _ .compensate | .tryReserve _ (.returned _) | .getUserCache _ | .cacheIncr _
  | .done => True

/-! ### Threads -/

open QuotaThread

section

variable {cfg : QuotaSettings} {id n n' : Int} {replies : ℕ → StoreReply} {w w' : Wallet}
  {t : QuotaThread}

section

variable (h : InSync id w n)
include h

theorem InSync.move (dc : Int)
    (hcache : cachedQuota w'.cache id = (cachedQuota w.cache id).map (· + dc))
    (heq : dc + (n' - n) = w'.trueBalance id - w.trueBalance id) : InSync id w' n' := by
  obtain ⟨q, hq, hbalance⟩ := h
  refine ⟨q + dc, ?_, by omega⟩
  rw [hcache, hq, Option.map_some]

theorem InSync.still (hcache : w'.cache = w.cache)
    (heq : n' - n = w'.trueBalance id - w.trueBalance id) : InSync id w' n' := by
  refine h.move 0 ?_ (by omega)
  rw [hcache]
  simp

theorem InSync.addNewRecord (hbatch : w.batch.Valid) {v : Int64}
    (hfits : Fits id w v.toInt) (heq : n' = n + v.toInt) : InSync id (w.addNewRecord id v) n' := by
  have hbalance := trueBalance_addNewRecord_of_fits id hbatch hfits.1 hfits.2
  exact h.still rfl (by omega)

theorem InSync.addQuota {v : Int} (heq : n' = n + v) : InSync id (w.addQuota id v) n' := by
  have hbalance := trueBalance_addQuota w id v
  exact h.still rfl (by omega)

end

theorem InSync.cacheIncr (hon : cfg.redisEnabled = true) {ans : StoreReply}
    (hredis : ans.redis = true) (h : InSync id w n) {delta : Int} (heq : n' = n - delta) :
    InSync id (cacheIncrUserQuota cfg id ans w delta) n' := by
  refine h.move delta (cachedQuota_cacheIncr id w delta hon hredis) ?_
  simp only [Wallet.trueBalance, cacheIncrUserQuota_batch]
  omega

structure ThreadSync (cfg : QuotaSettings) (id n : Int) (replies : ℕ → StoreReply) (w : Wallet)
    (t : QuotaThread) : Prop where
  sync : InSync id w (n + t.ahead)
  warm : t.Warm
  exact : ThreadExact cfg id replies w t

theorem ThreadSync.reserve {quota : Int64} {s : ReserveState} {ans : StoreReply}
    (hredis : ans.redis = true) (hvalid : s.Valid id quota) (hbatch : w.batch.Valid)
    (h : ThreadSync cfg id n replies w (.tryReserve quota s)) :
    ThreadSync cfg id n replies (s.step cfg id ans w quota).2
      (.tryReserve quota (s.step cfg id ans w quota).1) := by
  obtain ⟨hsync, hwarm, hexact⟩ := h
  cases s with
  | script =>
    obtain ⟨q, hq, hbalance⟩ := hsync
    simp only [ReserveState.step, reserveScript, cacheTryReserveUserQuota, hredis, hq,
      Bool.not_true, Bool.false_eq_true, if_false]
    by_cases hlt : q < quota.toInt
    · simp only [if_pos hlt]
      exact ⟨⟨q, hq, hbalance⟩, trivial, trivial⟩
    simp only [if_neg hlt]
    refine ⟨⟨q + -quota.toInt, ?_, ?_⟩, trivial, hexact⟩
    · rw [setCache_cache, cachedQuota_incrQuota, hq, Option.map_some]
    · simp only [trueBalance_setCache, ahead, ReserveState.ahead] at hbalance ⊢
      omega
  | persist =>
    have hneg := toInt_neg_of_nonneg (le_of_lt hvalid)
    simp only [ahead, ReserveState.ahead] at hsync
    simp only [ReserveState.step, persistUserQuotaDelta]
    cases hmode : cfg.batchUpdateEnabled with
    | true =>
      refine ⟨hsync.addNewRecord hbatch ?_ ?_, trivial, trivial⟩
      · rw [hneg]
        exact hexact hmode
      · change n + 0 = _
        omega
    | false =>
      cases ans.db with
      | true =>
        refine ⟨hsync.addQuota ?_, trivial, trivial⟩
        change n + 0 = _
        omega
      | false => exact ⟨hsync, trivial, trivial⟩
  | compensate =>
    simp only [ReserveState.step, hredis, if_true]
    refine ⟨hsync.move quota.toInt (cachedQuota_apply _ _ _) ?_, trivial, trivial⟩
    simp only [trueBalance_setCache, ahead, ReserveState.ahead]
    omega
  | returned granted => exact ⟨hsync, trivial, trivial⟩
  | _ => exact hwarm.elim

/-- **One step of a thread** moves the cached balance and the true balance as it was ahead. -/
theorem ThreadSync.step (hon : cfg.redisEnabled = true) {i : ℕ}
    (hredis : (replies i).redis = true) (hvalid : t.Valid id) (hbatch : w.batch.Valid)
    (h : ThreadSync cfg id n replies w t) :
    ThreadSync cfg id n replies (t.step cfg id (replies i) w).2
      (t.step cfg id (replies i) w).1 := by
  cases t with
  | tryReserve quota s => exact h.reserve hredis hvalid hbatch
  | getUserCache _ => exact h.warm.elim
  | increase quota db =>
    obtain ⟨hsync, -, hexact⟩ := h
    simp only [step, increaseUserQuota]
    split_ifs with hmode hroom
    · exact ⟨hsync.addNewRecord hbatch (hexact hmode)
        (by simp only [ahead]; omega), trivial, trivial⟩
    · exact ⟨hsync.addQuota (by simp only [ahead]; omega), trivial, trivial⟩
    · exact ⟨hsync, trivial, trivial⟩
  | decrease quota db =>
    obtain ⟨hsync, -, hexact⟩ := h
    have hneg := toInt_neg_of_nonneg hvalid
    simp only [ThreadExact] at hexact
    simp only [step]
    by_cases hmode : db = false ∧ cfg.batchUpdateEnabled = true
    · rw [if_pos hmode] at hexact ⊢
      rw [← hneg] at hexact
      exact ⟨hsync.addNewRecord hbatch hexact (by simp only [ahead]; omega), trivial,
        trivial⟩
    · rw [if_neg hmode] at hexact ⊢
      simp only [hexact i, if_true]
      exact ⟨hsync.addQuota (by simp only [ahead]; omega), trivial, trivial⟩
  | cacheIncr delta =>
    refine ⟨h.sync.cacheIncr hon hredis ?_, trivial, trivial⟩
    simp only [step, ahead]
    omega
  | done => exact h

theorem QuotaThread.ahead_of_rank (h : t.rank = 0) : t.ahead = 0 := by
  cases t with
  | tryReserve quota s =>
    cases s <;>
      simp_all [rank, ReserveState.rank, ahead, ReserveState.ahead]
  | getUserCache _ | done => rfl
  | _ => cases h

theorem ThreadSync.drain (hon : cfg.redisEnabled = true)
    (hredis : ∀ i, (replies i).redis = true) {k : ℕ} (hvalid : t.Valid id) (hbatch : w.batch.Valid)
    (h : ThreadSync cfg id n replies w t) :
    (t.drain cfg id replies k w).2.batch.Valid ∧
      ThreadSync cfg id n replies (t.drain cfg id replies k w).2
        (t.drain cfg id replies k w).1 := by
  induction k generalizing t w with
  | zero => exact ⟨hbatch, h⟩
  | succ k ih =>
    exact ih (hvalid.step cfg (replies k) w) (hvalid.step_batch cfg (replies k) hbatch)
      (h.step hon (hredis k) hvalid hbatch)

theorem InSync.finish (hon : cfg.redisEnabled = true)
    (hredis : ∀ i, (replies i).redis = true) (hvalid : t.Valid id) (hwarm : t.Warm)
    (hexact : ThreadExact cfg id replies w t) (hbatch : w.batch.Valid)
    (h : InSync id w (n + t.ahead)) :
    (t.drain cfg id replies 9 w).2.batch.Valid ∧ InSync id (t.drain cfg id replies 9 w).2 n := by
  obtain ⟨hbatch', hsync, -, -⟩ :=
    ThreadSync.drain (k := 9) hon hredis hvalid hbatch ⟨h, hwarm, hexact⟩
  have hend := ahead_of_rank (finished_drain cfg id w replies t.rank_le)
  rw [hend, add_zero] at hsync
  exact ⟨hbatch', hsync⟩

theorem drain_cacheIncr_batch (delta : Int64) (k : ℕ) :
    (QuotaThread.drain cfg id replies k (.cacheIncr delta) w).2.batch = w.batch := by
  cases k with
  | zero => rfl
  | succ k =>
    change (drain cfg id replies k .done
      (cacheIncrUserQuota cfg id (replies k) w delta.toInt)).2.batch = w.batch
    rw [drain_done, cacheIncrUserQuota_batch]

theorem spawned_cases (hon : cfg.redisEnabled = true) (c : WalletCall) :
    (∃ t, spawned cfg c.event = [t] ∧ t.Warm ∧ t.ahead = 0) ∨ ∃ quota db, 0 ≤ quota.toInt ∧
        spawned cfg c.event = [.cacheIncr (-quota), .decrease quota db] := by
  cases c with
  | tryReserve quota | increase quota db =>
    simp only [WalletCall.event, spawned]
    split_ifs <;> exact .inl ⟨_, rfl, trivial, rfl⟩
  | decrease quota db =>
    simp only [WalletCall.event, spawned]
    split_ifs with hneg
    · exact .inl ⟨_, rfl, trivial, rfl⟩
    · rw [Int64.lt_iff_toInt_lt, Int64.toInt_zero] at hneg
      exact .inr ⟨quota, db, by omega, rfl⟩

/-- **One call**, with its goroutines, leaves the two in step. -/
theorem InSync.call (hon : cfg.redisEnabled = true)
    (hredis : ∀ i, (replies i).redis = true) {c : WalletCall}
    (hexact : ∀ t ∈ spawned cfg c.event, ThreadExact cfg id replies w t)
    (hbatch : w.batch.Valid) (h : InSync id w 0) :
    (w.call cfg id replies c).batch.Valid ∧ InSync id (w.call cfg id replies c) 0 := by
  have hvalid : ∀ t ∈ spawned cfg c.event, t.Valid id := spawned_valid c.event
  unfold Wallet.call
  rcases spawned_cases hon c with ⟨t, ht, hwarm, hahead⟩ | ⟨quota, db, hquota, hpair⟩
  · rw [ht] at hexact hvalid ⊢
    refine InSync.finish hon hredis (hvalid t (mem_singleton_self t)) hwarm
      (hexact t (mem_singleton_self t)) hbatch ?_
    rw [hahead]
    exact h
  · rw [hpair] at hexact hvalid ⊢
    have hneg := toInt_neg_of_nonneg hquota
    -- the goroutine first: it leaves the debit of the row to be made
    have hstart : InSync id w (quota.toInt + ahead (.cacheIncr (-quota))) := by
      rw [ahead, hneg, Int.add_right_neg]
      exact h
    obtain ⟨hbatch', hsync⟩ := InSync.finish (t := .cacheIncr (-quota)) hon hredis trivial
      trivial trivial hbatch hstart
    have hsame := @drain_cacheIncr_batch cfg id replies w (-quota) 9
    have hexact' := hexact (.decrease quota db) (by simp)
    have hrest : ThreadExact cfg id replies (drain cfg id replies 9 (.cacheIncr (-quota)) w).2
        (.decrease quota db) := by
      simp only [ThreadExact, Fits, hsame] at hexact' ⊢
      exact hexact'
    refine InSync.finish hon hredis hquota trivial hrest hbatch' ?_
    rw [zero_add]
    exact hsync

end

/-! ### Operations -/

def AccountOp.RedisUp : AccountOp → Prop
  | call _ replies => ∀ i, (replies i).redis = true
  | topUp _ redis | redeem _ _ redis _ => redis = true
  | checkin _ _ ans _ _ => ans.redis = true
  | transferAff ans _ | adjust ans _ _ _ | purchase ans _ _ => ans.redis = true
  | startFlush | flush _ _ _ => True

/-- What an operation has to meet:
* a call does not saturate the batch updater, and the `UPDATE` of `DecreaseUserQuota` takes effect;
* a transfer is refused, or moves nothing;
* the write of a flush to the row of the user takes effect. -/
def SyncedOp (cfg : QuotaSettings) (perUnit : ℚ) (id : Int) (a : Account) :
    AccountOp → Prop
  | .call c replies =>
    ∀ t ∈ spawned cfg c.event, ThreadExact cfg id replies a.wallet t
  | .transferAff ans quota => TransferAccepted perUnit a ans quota → quota = 0
  | .flush _ key ok => id = key → ok = true
  | .topUp _ _ | .redeem _ _ _ _ | .checkin _ _ _ _ _ | .adjust _ _ _ _ | .purchase _ _ _
  | .startFlush => True

structure Coherent (id : Int) (a : Account) : Prop where
  batch : a.wallet.batch.Valid
  sync : InSync id a.wallet 0

section

variable {cfg : QuotaSettings} {perUnit : ℚ} {id : Int} {a a' : Account}

theorem Coherent.of_move {redis : Bool} {guard : Int → Int → Prop}
    (hon : cfg.redisEnabled = true) (hredis : redis = true) (h : Coherent id a)
    (hmove : AccountMove cfg id redis a guard a') (hguard : ∀ v c, guard v c → c = v) :
    Coherent id a' := by
  cases hmove with
  | refused => exact h
  | @moved _ v c hg hbatch hcache =>
    obtain rfl := hguard v c hg
    have hbalance : a'.wallet.trueBalance id = a.wallet.trueBalance id + c := by
      rw [← trueBalance_addQuota]
      simp [Wallet.trueBalance, hbatch]
    refine ⟨?_, h.sync.move c (hcache hon hredis) (by omega)⟩
    rw [hbatch]
    exact h.batch

theorem Coherent.batchStep (h : Coherent id a) {e : BatchEvent}
    (hadd : addedBy .userQuota id a.wallet.batch e = 0)
    (hlost : lostBy .userQuota id a.wallet.batch e = 0) :
    Coherent id
      { a with wallet := { a.wallet with batch := Model.batchStep a.wallet.batch e } } := by
  have hsame := trueBalance_flush id h.batch hadd hlost
  exact ⟨h.batch.step e, h.sync.still rfl (by simp only; omega)⟩

/-- **One operation** keeps the hash at the true balance. -/
theorem Coherent.step (hon : cfg.redisEnabled = true) {op : AccountOp}
    (hredis : op.RedisUp) (hop : SyncedOp cfg perUnit id a op) (h : Coherent id a) :
    Coherent id (accountStep cfg perUnit id a op) := by
  cases op with
  | call c replies =>
    obtain ⟨hbatch, hsync⟩ := h.sync.call hon hredis hop h.batch
    exact ⟨hbatch, hsync⟩
  | topUp e redis =>
    exact h.of_move hon hredis (topUpAccount_move cfg perUnit id a e redis)
      fun _ _ hguard => hguard.1
  | redeem ans now redis key =>
    exact h.of_move hon hredis (redeem_move cfg id a ans now redis key) fun _ _ hguard => hguard.1
  | checkin setting sqlite ans today random =>
    exact h.of_move hon hredis
      (userCheckin_move cfg id a setting sqlite ans today random) fun _ _ hguard => hguard.1
  | transferAff ans quota =>
    refine h.of_move hon hredis (transferAffQuotaToQuota_move cfg perUnit id a ans quota) ?_
    rintro v c ⟨rfl, rfl, hacc⟩
    exact (hop hacc).symm
  | adjust ans operatorRole mode value =>
    exact h.of_move hon hredis
      (adjustUserQuota_move cfg id a ans operatorRole mode value) fun _ _ hguard => hguard.1
  | purchase ans planId plan =>
    exact h.of_move hon hredis
      (purchaseSubscriptionWithBalance_move cfg perUnit id a ans planId plan)
      fun _ _ hguard => hguard.1
  | startFlush => exact h.batchStep rfl rfl
  | flush k key ok =>
    refine h.batchStep rfl ?_
    simp only [lostBy]
    split
    · rfl
    · refine if_neg fun hlost => ?_
      rw [hop hlost.2.2] at hlost
      cases hlost.1

end

/-- **Cache coherence.** Start with a hash that shows the true balance, the quota of the row with
the deltas of the batch updater, and run any operations one after the other, each to its end and
with Redis up. If each of them meets `SyncedOp`, the hash shows the true balance afterwards. -/
theorem cache_coherent (cfg : QuotaSettings) (perUnit : ℚ) (id : Int)
    (hon : cfg.redisEnabled = true) {a : Account} (hbatch : a.wallet.batch.Valid)
    (hcached : cachedQuota a.wallet.cache id = some (a.wallet.trueBalance id))
    {ops : List AccountOp} (hredis : ∀ op ∈ ops, op.RedisUp)
    (hops : Along (accountStep cfg perUnit id) (SyncedOp cfg perUnit id) a ops) :
    cachedQuota (run (accountStep cfg perUnit id) a ops).wallet.cache id =
      some ((run (accountStep cfg perUnit id) a ops).wallet.trueBalance id) := by
  have hstart : Coherent id a := ⟨hbatch, _, hcached, add_zero _⟩
  have halong := along_and.mpr ⟨along_of_forall_mem hredis, hops⟩
  obtain ⟨-, q, hq, hbalance⟩ := run_induction
    (fun _ _ h hop => Coherent.step hon hop.1 hop.2 h) hstart halong
  rw [hq, ← hbalance, add_zero]

/-- A user with quota `10`, in the row and in the hash, affiliate quota and a redemption code. -/
def cachedAccount : Account where
  wallet := ⟨restingBatch, 1, ⟨some ⟨1, userCacheSchemaVersion, 1, some 10⟩, 0, 1⟩⟩
  email := ""
  stripeCustomer := ""
  affQuota := 500000
  role := 1
  orders := ⟨[], nodup_nil⟩
  codes := ⟨[⟨"gift", .enabled, 30, 0, 0, 0⟩], nodup_singleton _⟩
  checkins := []

def storesUp : ℕ → StoreReply := fun _ => ⟨true, true⟩

/-- A reservation and a credit that stay in the batch updater, a code, and a flush that has taken
the deltas. -/
def batchedHistory : List AccountOp :=
  [.call (.tryReserve 8) storesUp, .call (.increase 5 false) storesUp,
    .redeem .allOk 100 true "gift", .startFlush, .flush 0 1 true, .flush 0 1 true]

theorem cache_coherent_batchedHistory :
    cachedQuota (run (accountStep batchedSettings 500000 1) cachedAccount
        batchedHistory).wallet.cache 1 =
      some ((run (accountStep batchedSettings 500000 1) cachedAccount batchedHistory
        ).wallet.trueBalance 1) := by
  refine cache_coherent batchedSettings 500000 1 rfl (fun f hf => ?_) (by decide)
    (by simp [batchedHistory, AccountOp.RedisUp, storesUp])
    ⟨?_, ?_, trivial, trivial, fun _ => rfl, fun _ => rfl, trivial⟩
  · cases hf
  all_goals
    intro t ht
    obtain rfl := mem_singleton.mp ht
    intro _
    decide

/-- A transfer of `500000` in which every statement succeeds: the true balance is `500010` after it,
and the hash still shows `10`. -/
theorem transfer_unsynced :
    cachedQuota cachedAccount.wallet.cache 1 = some (cachedAccount.wallet.trueBalance 1) ∧
      (AccountOp.transferAff ⟨true, true, true, true, true⟩ 500000).RedisUp ∧
      cachedQuota (accountStep batchedSettings 500000 1 cachedAccount
        (.transferAff ⟨true, true, true, true, true⟩ 500000)).wallet.cache 1 = some 10 ∧
      (accountStep batchedSettings 500000 1 cachedAccount
        (.transferAff ⟨true, true, true, true, true⟩ 500000)).wallet.trueBalance 1 = 500010 := by
  refine ⟨by decide, rfl, by decide +kernel, by decide +kernel⟩

end NewApi.Model
