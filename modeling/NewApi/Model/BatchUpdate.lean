import Mathlib.Data.List.AList
import NewApi.Foundation.Pool
import NewApi.Foundation.Run
import NewApi.Foundation.Saturating

/-!
# The batch updater

`addNewRecord` and `batchUpdate` of `model/utils.go`. Quota deltas are summed up in one map per
type, each behind its own lock, and a flush takes the maps one after the other and writes their
entries to the database. A step of the model is one critical section or one `UPDATE`, so additions
and any number of flushes interleave freely. A Go map is iterated in no fixed order: which entry a
flush writes next is part of the event, and so is whether its `UPDATE` took effect.
-/

namespace NewApi.Model

open StepSystem List Function AList

/-! ### Stores -/

inductive BatchUpdateType
  | userQuota
  | tokenQuota
  | usedQuota
  | channelUsedQuota
  | requestCount
  deriving DecidableEq, Repr

def BatchUpdateType.all : List BatchUpdateType :=
  [userQuota, tokenQuota, usedQuota, channelUsedQuota, requestCount]

def BatchUpdateType.isUser : BatchUpdateType → Bool
  | userQuota | usedQuota | requestCount => true
  | tokenQuota | channelUsedQuota => false

abbrev BatchStore := AList fun _ : Int => Int64

abbrev BatchStores := BatchUpdateType → BatchStore

def BatchStore.value (store : BatchStore) (id : Int) : Int64 := (store.lookup id).getD 0

/-- `addNewRecord` on the map of its type. A sum that overflows is clamped. -/
def addRecord (store : BatchStore) (id : Int) (value : Int64) : BatchStore :=
  match store.lookup id with
  | none => store.insert id value
  | some old => store.insert id (old.addSaturating value)

section

variable (store : BatchStore) (id : Int)

@[simp] theorem value_empty : BatchStore.value ∅ id = 0 := rfl

theorem value_insert (id' : Int) (v : Int64) :
    BatchStore.value (store.insert id' v) id = if id = id' then v else store.value id := by
  unfold BatchStore.value
  split_ifs with h
  · rw [h, lookup_insert]
    rfl
  · rw [lookup_insert_ne h]

theorem value_erase (id' : Int) :
    BatchStore.value (store.erase id') id = if id = id' then 0 else store.value id := by
  unfold BatchStore.value
  split_ifs with h
  · rw [h, lookup_erase]
    rfl
  · rw [lookup_erase_ne h]

theorem value_of_isEmpty {store : BatchStore} (h : store.entries.isEmpty = true) :
    store.value id = 0 := by
  have hempty : store = ∅ := ext (isEmpty_iff.mp h)
  rw [hempty, value_empty]

theorem value_addRecord (id' : Int) (v : Int64) :
    (BatchStore.value (addRecord store id' v) id).toInt =
      if id = id' then Int64.clamp ((store.value id').toInt + v.toInt)
      else (store.value id).toInt := by
  unfold addRecord
  cases h : store.lookup id' with
  | none =>
    have hzero : store.value id' = 0 := by simp [BatchStore.value, h]
    have hlow := v.le_toInt
    have hhigh := v.toInt_lt
    rw [value_insert]
    split_ifs
    · rw [hzero, Int64.toInt_zero, zero_add, Int64.clamp_of_mem hlow (by omega)]
    · rfl
  | some old =>
    have hold : store.value id' = old := by simp [BatchStore.value, h]
    rw [value_insert]
    split_ifs
    · rw [Int64.toInt_addSaturating, hold]
    · rfl

end

/-! ### Flushes -/

/-- Where a run of `batchUpdate` stands. The maps it has taken keep the entries it has not written
yet. -/
inductive FlushState
  /-- Looking for a map with data. -/
  | scan (rest : List BatchUpdateType)
  /-- Taking the maps. -/
  | swap (rest : List BatchUpdateType) (stores : BatchStores)
  | writeTokens (stores : BatchStores)
  | writeChannels (stores : BatchStores)
  | writeUsers (stores : BatchStores)
  | done

abbrev BatchColumns := BatchUpdateType → Int → Int

def BatchColumns.credit (db : BatchColumns) (type : BatchUpdateType) (id v : Int) :
    BatchColumns :=
  fun type' id' => if type' = type ∧ id' = id then db type' id' + v else db type' id'

/-- `updateUserQuotaUsedQuotaAndRequestCount`: one `UPDATE` of three columns, none if all deltas are
zero. -/
def updateUserQuotaUsedQuotaAndRequestCount (db : BatchColumns) (id : Int)
    (quota usedQuota requestCount : Int64) (ok : Bool) : BatchColumns :=
  if quota = 0 ∧ usedQuota = 0 ∧ requestCount = 0 then db
  else if !ok then db
  else ((db.credit .userQuota id quota.toInt).credit .usedQuota id usedQuota.toInt).credit
    .requestCount id requestCount.toInt

/-- The accumulator, the runs of `batchUpdate` that have started, and the database. -/
structure BatchState where
  stores : BatchStores
  flushes : List FlushState
  db : BatchColumns

def eraseUser (stores : BatchStores) (id : Int) : BatchStores :=
  fun type => if type.isUser then (stores type).erase id else stores type

/-- The next step of a run of `batchUpdate`. In a write loop, `key` is the entry that the iteration
yields next, and `ok` tells whether its `UPDATE` took effect; a failure is only logged. -/
def FlushState.step (stores : BatchStores) (db : BatchColumns) (key : Int) (ok : Bool) :
    FlushState → FlushState × BatchStores × BatchColumns
  | scan [] => (done, stores, db)
  | scan (type :: rest) =>
    if (stores type).entries.isEmpty then (scan rest, stores, db)
    else (swap BatchUpdateType.all fun _ => ∅, stores, db)
  | swap [] taken => (writeTokens taken, stores, db)
  | swap (type :: rest) taken =>
    (swap rest (update taken type (stores type)), update stores type ∅, db)
  | writeTokens taken =>
    if (taken .tokenQuota).entries.isEmpty then (writeChannels taken, stores, db)
    else (writeTokens (update taken .tokenQuota ((taken .tokenQuota).erase key)), stores,
      if ok then db.credit .tokenQuota key ((taken .tokenQuota).value key).toInt else db)
  | writeChannels taken =>
    if (taken .channelUsedQuota).entries.isEmpty then (writeUsers taken, stores, db)
    else (writeChannels
        (update taken .channelUsedQuota ((taken .channelUsedQuota).erase key)), stores,
      if ok then db.credit .channelUsedQuota key ((taken .channelUsedQuota).value key).toInt
      else db)
  | writeUsers taken =>
    if (taken .userQuota).entries.isEmpty ∧ (taken .usedQuota).entries.isEmpty ∧
        (taken .requestCount).entries.isEmpty then (done, stores, db)
    else (writeUsers (eraseUser taken key), stores,
      updateUserQuotaUsedQuotaAndRequestCount db key ((taken .userQuota).value key)
        ((taken .usedQuota).value key) ((taken .requestCount).value key) ok)
  | done => (done, stores, db)

/-- `addNewRecord`, the start of a run of `batchUpdate`, and the next step of run `k`. -/
inductive BatchEvent
  | add (type : BatchUpdateType) (id : Int) (value : Int64)
  | start
  | flush (k : ℕ) (key : Int) (ok : Bool)

def batchStep (x : BatchState) : BatchEvent → BatchState
  | .add type id value =>
    { x with stores := update x.stores type (addRecord (x.stores type) id value) }
  | .start => { x with flushes := x.flushes ++ [.scan BatchUpdateType.all] }
  | .flush k key ok =>
    match x.flushes[k]? with
    | none => x
    | some f =>
      let r := f.step x.stores x.db key ok
      ⟨r.2.1, x.flushes.set k r.1, r.2.2⟩

/-! ### What is balanced -/

def FlushState.held (type : BatchUpdateType) (id : Int) : FlushState → Int
  | scan _ => 0
  | swap rest taken => if type ∈ rest then 0 else ((taken type).value id).toInt
  | writeTokens taken => ((taken type).value id).toInt
  | writeChannels taken => if type = .tokenQuota then 0 else ((taken type).value id).toInt
  | writeUsers taken => if type.isUser then ((taken type).value id).toInt else 0
  | done => 0

def FlushState.writes (type : BatchUpdateType) : FlushState → Bool
  | writeTokens _ => type = .tokenQuota
  | writeChannels _ => type = .channelUsedQuota
  | writeUsers _ => type.isUser
  | scan _ | swap _ _ | done => false

def persisted (type : BatchUpdateType) (id : Int) (x : BatchState) : Int := x.db type id

/-- The delta of a column in memory, in the accumulator or in the hands of a flush. -/
def pending (type : BatchUpdateType) (id : Int) (x : BatchState) : Int :=
  ((x.stores type).value id).toInt + Pool.total (FlushState.held type id) x.flushes

def balance (type : BatchUpdateType) (id : Int) (x : BatchState) : Int :=
  persisted type id x + pending type id x

def addedBy (type : BatchUpdateType) (id : Int) (_ : BatchState) : BatchEvent → Int
  | .add type' id' value => if type = type' ∧ id = id' then value.toInt else 0
  | .start | .flush _ _ _ => 0

/-- What an event loses of a column: the part of a sum beyond the 64-bit range, or the delta of a
write that did not take effect. -/
def lostBy (type : BatchUpdateType) (id : Int) (x : BatchState) : BatchEvent → Int
  | .add type' id' value =>
    if type = type' ∧ id = id' then
      ((x.stores type).value id).toInt + value.toInt -
        Int64.clamp (((x.stores type).value id).toInt + value.toInt)
    else 0
  | .start => 0
  | .flush k key ok =>
    match x.flushes[k]? with
    | none => 0
    | some f => if ok = false ∧ f.writes type = true ∧ id = key then f.held type id else 0

def FlushState.Valid : FlushState → Prop
  | swap rest _ => rest.Nodup
  | scan _ | writeTokens _ | writeChannels _ | writeUsers _ | done => True

open FlushState

open BatchUpdateType

section

variable {type : BatchUpdateType} {id key : Int} {ok : Bool} {stores : BatchStores}
  {db : BatchColumns} {f : FlushState}

theorem FlushState.Valid.step (h : f.Valid) : (f.step stores db key ok).1.Valid := by
  cases f with
  | scan rest =>
    rcases rest with - | ⟨type, rest⟩
    · trivial
    simp only [step]
    split_ifs
    · trivial
    · change all.Nodup
      decide
  | swap rest taken =>
    cases rest with
    | nil => trivial
    | cons type rest => exact (nodup_cons.mp h).2
  | writeTokens taken | writeChannels taken | writeUsers taken =>
    simp only [step]
    split_ifs <;> trivial
  | done => trivial

theorem credit_apply (type' : BatchUpdateType) (id' v : Int) : db.credit type' id' v type id =
      db type id + if type = type' ∧ id = id' then v else 0 := by
  unfold BatchColumns.credit
  split_ifs <;> omega

variable (type id key ok db) in
theorem write_balance (type' : BatchUpdateType) (taken : BatchStores) :
    (if ok then db.credit type' key ((taken type').value key).toInt else db) type id +
        ((update taken type' ((taken type').erase key) type).value id).toInt =
      db type id + ((taken type).value id).toInt -
        if ok = false ∧ type = type' ∧ id = key then ((taken type).value id).toInt else 0 := by
  by_cases htype : type = type'
  · subst htype
    rw [update_self, value_erase]
    by_cases hid : id = key
    · subst hid
      cases ok <;> simp [credit_apply]
    · cases ok <;> simp [credit_apply, hid]
  · rw [update_of_ne htype]
    cases ok <;> simp [credit_apply, htype]

theorem updateUser_apply (v : BatchUpdateType → Int64) :
    updateUserQuotaUsedQuotaAndRequestCount db key (v .userQuota) (v .usedQuota)
        (v .requestCount) ok type id =
      db type id + if ok = true ∧ type.isUser = true ∧ id = key then (v type).toInt else 0 := by
  unfold updateUserQuotaUsedQuotaAndRequestCount
  by_cases hzero : v .userQuota = 0 ∧ v .usedQuota = 0 ∧ v .requestCount = 0
  · -- nothing is written because every delta is zero
    obtain ⟨h₁, h₂, h₃⟩ := hzero
    cases type <;> simp [h₁, h₂, h₃, isUser]
  · rw [if_neg hzero]
    cases ok <;> cases type <;> simp [credit_apply, isUser]

variable (type id key ok db) in
theorem writeUser_balance (taken : BatchStores) :
    updateUserQuotaUsedQuotaAndRequestCount db key ((taken .userQuota).value key)
          ((taken .usedQuota).value key) ((taken .requestCount).value key) ok type id +
        (if type.isUser then ((eraseUser taken key type).value id).toInt else 0) =
      db type id + (if type.isUser then ((taken type).value id).toInt else 0) -
        if ok = false ∧ type.isUser = true ∧ id = key then
          (if type.isUser then ((taken type).value id).toInt else 0)
        else 0 := by
  rw [updateUser_apply fun type => (taken type).value key]
  cases huser : type.isUser with
  | false => simp
  | true =>
    have herase : eraseUser taken key type = (taken type).erase key := by
      simp [eraseUser, huser]
    rw [herase, value_erase]
    by_cases hid : id = key
    · subst hid
      cases ok <;> simp
    · simp [hid]

variable (type id key ok stores db) in
/-- **One step of a flush.** The database, the accumulator and the flush together keep the delta of
every column, except for a write that did not take effect. -/
theorem FlushState.step_balance (h : f.Valid) : (f.step stores db key ok).2.2 type id +
        (((f.step stores db key ok).2.1 type).value id).toInt +
        (f.step stores db key ok).1.held type id =
      db type id + ((stores type).value id).toInt + f.held type id -
        if ok = false ∧ f.writes type = true ∧ id = key then f.held type id else 0 := by
  cases f with
  | scan rest =>
    cases rest with
    | nil => simp [step, held]
    | cons type' rest =>
      simp only [step]
      split_ifs <;> simp_all [held]
  | swap rest taken =>
    rcases rest with - | ⟨type', rest⟩
    · simp [step, held, writes]
    have hnot : type' ∉ rest := (nodup_cons.mp h).1
    by_cases htype : type = type'
    · subst htype
      simp [step, held, hnot]
    · simp [step, held, writes, htype]
  | writeTokens taken =>
    by_cases hempty : (taken .tokenQuota).entries.isEmpty = true
    · simp only [step, if_pos hempty, held, writes]
      by_cases htype : type = .tokenQuota
      · simp [htype, value_of_isEmpty id hempty]
      · simp [htype]
    · have hwrite := write_balance type id key ok db .tokenQuota taken
      simp only [step, if_neg hempty, held, writes, decide_eq_true_eq]
      omega
  | writeChannels taken =>
    by_cases hempty : (taken .channelUsedQuota).entries.isEmpty = true
    · simp only [step, if_pos hempty, held, writes]
      cases type <;> simp [isUser, value_of_isEmpty id hempty]
    have hwrite := write_balance type id key ok db .channelUsedQuota taken
    simp only [step, if_neg hempty, held, writes, decide_eq_true_eq]
    by_cases htype : type = .tokenQuota
    · subst htype
      simp only [reduceCtorEq, false_and, and_false, if_false, ne_eq, not_false_eq_true,
        update_of_ne] at hwrite ⊢
      omega
    · simp only [if_neg htype]
      omega
  | writeUsers taken =>
    by_cases hempty : (taken .userQuota).entries.isEmpty = true ∧
        (taken .usedQuota).entries.isEmpty = true ∧ (taken .requestCount).entries.isEmpty = true
    · obtain ⟨h₁, h₂, h₃⟩ := hempty
      simp only [step, h₁, h₂, h₃, held]
      cases type <;> simp [isUser, value_of_isEmpty id h₁, value_of_isEmpty id h₂,
        value_of_isEmpty id h₃]
    · have hwrite := writeUser_balance type id key ok db taken
      simp only [step, if_neg hempty, held]
      rw [add_right_comm, hwrite]
      simp only [sub_eq_add_neg]
      ac_rfl
  | done => simp [step, held]

end

/-! ### Conservation -/

def BatchState.Valid (x : BatchState) : Prop := ∀ f ∈ x.flushes, f.Valid

theorem BatchState.Valid.step {x : BatchState} (h : x.Valid) (e : BatchEvent) :
    (batchStep x e).Valid := by
  cases e with
  | add type id value => exact h
  | start =>
    intro f hf
    rcases mem_append.mp hf with hf | hf
    · exact h f hf
    · obtain rfl := mem_singleton.mp hf
      trivial
  | flush k key ok =>
    simp only [batchStep]
    split
    · exact h
    rename_i f hk
    intro f' hf'
    rcases mem_or_eq_of_mem_set hf' with hf' | rfl
    · exact h f' hf'
    · exact (h f (mem_of_getElem? hk)).step

theorem batchStep_balance (type : BatchUpdateType) (id : Int) {x : BatchState} (h : x.Valid)
    (e : BatchEvent) :
    balance type id (batchStep x e) =
      balance type id x + (addedBy type id x e - lostBy type id x e) := by
  unfold balance
  cases e with
  | add type' id' value =>
    simp only [persisted, pending, batchStep, addedBy, lostBy]
    by_cases htype : type = type'
    · subst htype
      rw [update_self, value_addRecord]
      by_cases hid : id = id'
      · subst hid
        simp only [if_true, and_self]
        omega
      · simp [hid]
    · rw [update_of_ne htype]
      simp [htype]
  | start => simp [persisted, pending, batchStep, addedBy, lostBy, Pool.total_append,
      held]
  | flush k key ok =>
    rcases hk : x.flushes[k]? with - | f
    · simp [batchStep, addedBy, lostBy, hk]
    have hstep := step_balance type id key ok x.stores x.db (h f (mem_of_getElem? hk))
    simp only [persisted, pending, batchStep, addedBy, lostBy, hk,
      Pool.total_set (held type id) hk]
    omega

/-- **Conservation of batched deltas.** For every interleaving of additions and flushes from a state
without a flush in flight, and for every type and id: the value in the database, the delta still in
memory and what was lost add up to the initial value and delta and everything added. Lost is the
delta of each write that did not take effect and the part of a sum beyond the 64-bit range. -/
theorem batch_conservation (stores : BatchStores) (db : BatchColumns) (events : List BatchEvent)
    (type : BatchUpdateType) (id : Int) :
    persisted type id (run batchStep ⟨stores, [], db⟩ events) +
        pending type id (run batchStep ⟨stores, [], db⟩ events) +
        sumAlong batchStep (lostBy type id) ⟨stores, [], db⟩ events =
      db type id + ((stores type).value id).toInt +
        sumAlong batchStep (addedBy type id) ⟨stores, [], db⟩ events := by
  have hvalid : BatchState.Valid ⟨stores, [], db⟩ := fun f hf => by cases hf
  have hrun : balance type id (run batchStep ⟨stores, [], db⟩ events) =
      balance type id ⟨stores, [], db⟩ +
        sumAlong batchStep (fun x e => addedBy type id x e - lostBy type id x e)
          ⟨stores, [], db⟩ events :=
    measure_run (fun _ e hx _ => hx.step e) (fun _ e hx _ => batchStep_balance type id hx e)
      hvalid (along_of_forall_mem fun _ _ => trivial)
  have hstart : balance type id ⟨stores, [], db⟩ = db type id + ((stores type).value id).toInt := by
    simp [balance, persisted, pending]
  rw [sumAlong_sub] at hrun
  unfold balance at hrun hstart
  omega

def restingBatch : BatchState := ⟨fun _ => ∅, [], fun _ _ => 10⟩

def failedFlush : List BatchEvent :=
  [.add .userQuota 1 5, .start] ++ List.replicate 10 (.flush 0 1 false)

/-- The delta of a failed write is neither persisted nor pending, and a sum beyond the 64-bit range
stays at its end. -/
theorem batch_delta_lost : persisted .userQuota 1 (run batchStep restingBatch failedFlush) +
          pending .userQuota 1 (run batchStep restingBatch failedFlush) = 10 ∧
      persisted .userQuota 1 restingBatch +
          sumAlong batchStep (addedBy .userQuota 1) restingBatch failedFlush = 15 ∧
      pending .userQuota 1 (run batchStep restingBatch
        [.add .userQuota 1 Int64.maxValue, .add .userQuota 1 1]) = 2 ^ 63 - 1 := by
  decide

end NewApi.Model
