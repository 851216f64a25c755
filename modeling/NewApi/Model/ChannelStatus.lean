import Mathlib.Data.List.NodupEquivFin
import NewApi.Foundation.Run
import NewApi.Model.Channel

/-!
# The status of a channel and of its keys

A key is disabled when a request with it fails, and enabled again when a probe succeeds. The status
is requested for the text of a key and recorded for its index. The status of the channel is derived:
it is auto-disabled while no key is usable.

Source: `model/channel.go`.
-/

namespace NewApi.Model

open StepSystem List Option Bool

/-! ### Changes of status -/

/-- The channel with the status, and whether it had another one before. -/
def setChannelStatus (now : Int) (ch : Channel) (status : Int) (reason : String) :
    Channel × Bool :=
  if ch.status = status then (ch, false)
  else
    ({ ch with
        status := status
        statusReason := some reason
        statusTime := some now }, true)

def hasEnabledMultiKey (keys : List String) (statusList : GoMap ℕ Int) : Bool :=
  (List.range keys.length).any fun idx => keyStatus statusList idx = channelStatusEnabled

/-- The entries of one key after a change of its status, and whether its status is a new one. -/
def setKeyStatus (now : Int) (info : ChannelInfo) (keyIndex : ℕ) (status : Int) (reason : String) :
    ChannelInfo × Bool :=
  if status = channelStatusEnabled then
    ({ info with
        multiKeyStatusList := info.multiKeyStatusList.erase keyIndex
        multiKeyDisabledReason := info.multiKeyDisabledReason.erase keyIndex
        multiKeyDisabledTime := info.multiKeyDisabledTime.erase keyIndex },
      (info.multiKeyStatusList.lookup keyIndex).isSome)
  else if (info.multiKeyStatusList.lookup keyIndex).getD 0 ≠ status then
    ({ info with
        multiKeyStatusList := info.multiKeyStatusList.insert keyIndex status
        multiKeyDisabledReason := info.multiKeyDisabledReason.insert keyIndex reason
        multiKeyDisabledTime := info.multiKeyDisabledTime.insert keyIndex now }, true)
  else (info, false)

/-- The change of one key, and whether anything has changed. -/
def handlerMultiKeyUpdate (parse : KeyParser) (now : Int)
    (ch : Channel) (usingKey : String) (status : Int) (reason : String) : Channel × Bool :=
  let keys := ch.getKeys parse
  if keys = [] then setChannelStatus now ch status reason
  else
    match keys.idxOf? usingKey with
    | none =>
      -- A key that is not listed has no index; no key at all means the channel itself.
      if usingKey ≠ "" then (ch, false) else setChannelStatus now ch status reason
    | some keyIndex =>
      let (info, changed) := setKeyStatus now ch.channelInfo keyIndex status reason
      let updated := { ch with channelInfo := info }
      if !hasEnabledMultiKey keys info.multiKeyStatusList then
        let (disabled, moved) :=
          setChannelStatus now updated channelStatusAutoDisabled "All keys are disabled"
        (disabled, moved || changed)
      else if status = channelStatusEnabled then
        let (enabled, moved) := setChannelStatus now updated channelStatusEnabled reason
        (enabled, moved || changed)
      else (updated, changed)

/-- The entry of a key once `status` is recorded for it. A missing entry reads as 0 when it is
compared with the new status, so the status 0 is not recorded for a key without an entry. -/
def recordedEntry (old : Option Int) (status : Int) : Option Int :=
  if status = channelStatusEnabled then none
  else if old.getD 0 ≠ status then some status
  else old

theorem recordedEntry_getD_ne {old : Option Int} {status : Int} :
    (recordedEntry old status).getD channelStatusEnabled ≠ channelStatusEnabled ↔
      status ≠ channelStatusEnabled ∧ (status = channelStatusUnknown → old ≠ none) := by
  unfold recordedEntry
  split
  next henabled => simp [henabled]
  rename_i henabled
  cases old with
  | none =>
    by_cases hstatus : status = 0
    · simp [hstatus, channelStatusUnknown]
    · simp [channelStatusUnknown, hstatus, Ne.symm hstatus]
  | some old =>
    by_cases hold : old = status
    all_goals simp [hold]

/-- **A change of status concerns one key.** -/
theorem lookup_setKeyStatus (now : Int) (info : ChannelInfo) (keyIndex : ℕ) (status : Int)
    (reason : String) (idx : ℕ) :
    (setKeyStatus now info keyIndex status reason).1.multiKeyStatusList.lookup idx =
      if idx = keyIndex then recordedEntry (info.multiKeyStatusList.lookup keyIndex) status
      else info.multiKeyStatusList.lookup idx := by
  unfold setKeyStatus recordedEntry
  split
  · rw [GoMap.lookup_erase]
  split
  · rw [GoMap.lookup_insert]
  split
  next hidx => rw [hidx]
  · rfl

section

variable (parse : KeyParser) (now : Int) (ch : Channel)
  (usingKey : String) (status : Int) (reason : String)

@[simp] theorem setChannelStatus_unchanged :
    let updated := (setChannelStatus now ch status reason).1
    updated.channelInfo = ch.channelInfo ∧ updated.key = ch.key ∧
      updated.keys = ch.keys ∧ updated.id = ch.id := by
  unfold setChannelStatus
  split <;> simp

@[simp] theorem setChannelStatus_status :
    (setChannelStatus now ch status reason).1.status = status := by
  unfold setChannelStatus
  split
  · assumption
  · rfl

theorem setChannelStatus_snd :
    (setChannelStatus now ch status reason).2 = decide (ch.status ≠ status) := by
  unfold setChannelStatus
  split <;> simp_all

theorem handlerMultiKeyUpdate_channelInfo :
    (handlerMultiKeyUpdate parse now ch usingKey status reason).1.channelInfo =
      match (ch.getKeys parse).idxOf? usingKey with
      | some keyIndex => (setKeyStatus now ch.channelInfo keyIndex status reason).1
      | none => ch.channelInfo := by
  unfold handlerMultiKeyUpdate
  dsimp only
  split
  next hkeys => simp [hkeys]
  split
  next hidx =>
    rw [hidx]
    split <;> simp
  rename_i keyIndex hidx
  rw [hidx]
  split
  · simp
  · split <;> simp

theorem handlerMultiKeyUpdate_frame :
    let updated := (handlerMultiKeyUpdate parse now ch usingKey status reason).1
    updated.id = ch.id ∧ updated.key = ch.key ∧ updated.keys = ch.keys := by
  unfold handlerMultiKeyUpdate
  dsimp only
  split
  · simp
  split
  · split <;> simp
  · split
    · simp
    · split <;> simp

@[simp] theorem handlerMultiKeyUpdate_getKeys :
    (handlerMultiKeyUpdate parse now ch usingKey status reason).1.getKeys parse =
      ch.getKeys parse := by
  obtain ⟨-, hkey, hkeys⟩ :=
    handlerMultiKeyUpdate_frame parse now ch usingKey status reason
  rw [Channel.getKeys, Channel.getKeys, hkey, hkeys]

theorem setKeyStatus_frame (info : ChannelInfo) (keyIndex : ℕ) :
    let updated := (setKeyStatus now info keyIndex status reason).1
    updated.isMultiKey = info.isMultiKey ∧ updated.multiKeyMode = info.multiKeyMode ∧
      updated.multiKeyPriority = info.multiKeyPriority := by
  unfold setKeyStatus
  split
  · simp
  · split <;> simp

theorem hasEnabledMultiKey_eq_false_iff {keys : List String} {statusList : GoMap ℕ Int} :
    hasEnabledMultiKey keys statusList = false ↔ enabledIndexes keys statusList = [] := by
  simp [hasEnabledMultiKey, enabledIndexes]

/-- **The derived status.** After a change for one of the keys the channel is auto-disabled if no
key is enabled, enabled if the change enables a key, and keeps its status otherwise. -/
theorem handlerMultiKeyUpdate_status {keyIndex : ℕ}
    (hidx : (ch.getKeys parse).idxOf? usingKey = some keyIndex) :
    let updated := (handlerMultiKeyUpdate parse now ch usingKey status reason).1
    updated.status =
      if enabledIndexes (ch.getKeys parse)
          updated.channelInfo.multiKeyStatusList = [] then channelStatusAutoDisabled
      else if status = channelStatusEnabled then channelStatusEnabled
      else ch.status := by
  intro updated
  have hinfo : updated.channelInfo =
      (setKeyStatus now ch.channelInfo keyIndex status reason).1 := by
    rw [handlerMultiKeyUpdate_channelInfo, hidx]
  have hkeys : ch.getKeys parse ≠ [] := by
    intro hnil
    simp [hnil] at hidx
  rw [hinfo]
  simp only [updated, handlerMultiKeyUpdate, if_neg hkeys, hidx, not_eq_true',
    hasEnabledMultiKey_eq_false_iff]
  split
  · simp
  · split <;> simp

theorem handlerMultiKeyUpdate_snd :
    (handlerMultiKeyUpdate parse now ch usingKey status reason).1.status ≠ ch.status →
      (handlerMultiKeyUpdate parse now ch usingKey status reason).2 = true := by
  have hset : ∀ (c : Channel) (st : Int) (r : String), c.status = ch.status →
      (setChannelStatus now c st r).1.status ≠ ch.status →
      (setChannelStatus now c st r).2 = true := by
    intro c st r hc hne
    rw [setChannelStatus_snd, hc]
    simpa using Ne.symm hne
  unfold handlerMultiKeyUpdate
  dsimp only
  split
  · exact hset _ _ _ rfl
  split
  · split
    · exact fun h => absurd rfl h
    · exact hset _ _ _ rfl
  split
  · exact fun h => or_eq_true_iff.mpr (.inl (hset _ _ _ rfl h))
  · split
    · exact fun h => or_eq_true_iff.mpr (.inl (hset _ _ _ rfl h))
    · exact fun h => absurd rfl h

end

/-- The channel that a change of status saves, and whether its abilities are to follow; `none` if
nothing changes. -/
def statusChange (parse : KeyParser) (now : Int) (ch : Channel)
    (usingKey : String) (status : Int) (reason : String) : Option (Channel × Bool) :=
  if ch.channelInfo.isMultiKey then
    let (updated, changed) := handlerMultiKeyUpdate parse now ch usingKey status reason
    if changed then some (updated, ch.status ≠ updated.status) else none
  else if ch.status = status then none
  else
    some ({ ch with
      status := status
      statusReason := some reason
      statusTime := some now }, true)

/-- What `UpdateChannelStatus` reads and writes for one channel: its row, the `enabled` columns of
its ability rows, and its entry in the memory cache. -/
structure ChannelStatusStore where
  memoryCacheEnabled : Bool
  cached : Option Channel
  row : Option ChannelRow
  abilities : List Bool

structure KeyUpdate where
  usingKey : String
  status : Int
  reason : String
  now : Int

/-- A call of `UpdateChannelStatus` with the answers of the database: whether the row is read, the
row is saved and the abilities are updated. -/
structure StatusCall extends KeyUpdate where
  readOk : Bool
  saveOk : Bool
  abilitiesOk : Bool

/-- The entry of the memory cache after the call; `none` if the call stops there. -/
def updateCachedStatus (parse : KeyParser) (cached : Channel)
    (call : StatusCall) : Option Channel :=
  if cached.channelInfo.isMultiKey then
    some (handlerMultiKeyUpdate parse call.now cached call.usingKey call.status
      call.reason).1
  else if cached.status = call.status then none
  else some { cached with status := call.status }

/-- The row and the abilities after the database part of the call, and its result. The abilities
follow in a deferred call, also if the row cannot be saved. -/
def updateStoredStatus (parse : KeyParser) (st : ChannelStatusStore)
    (call : StatusCall) : ChannelStatusStore × Bool :=
  match st.row with
  | none => (st, false)
  | some row =>
    if !call.readOk then (st, false)
    else
      match statusChange parse call.now row.load call.usingKey call.status call.reason with
      | none => (st, false)
      | some (ch, shouldUpdateAbilities) =>
        let abilities :=
          if shouldUpdateAbilities && call.abilitiesOk then
            st.abilities.map fun _ => decide (call.status = channelStatusEnabled)
          else st.abilities
        match ch.saveStatusState row with
        | none => ({ st with abilities }, false)
        | some saved =>
          if call.saveOk then ({ st with row := some saved, abilities }, true)
          else ({ st with abilities }, false)

/-- `UpdateChannelStatus` in `model/channel.go`, and what it returns. -/
def updateChannelStatus (parse : KeyParser) (st : ChannelStatusStore)
    (call : StatusCall) : ChannelStatusStore × Bool :=
  if !st.memoryCacheEnabled then updateStoredStatus parse st call
  else
    match st.cached with
    | none => (st, false)
    | some cached =>
      match updateCachedStatus parse cached call with
      | none => (st, false)
      | some updated => updateStoredStatus parse { st with cached := some updated } call

/-! ### The positions of a key -/

theorem getElem?_of_idxOf? {keys : List String} {key : String} {idx : ℕ}
    (h : keys.idxOf? key = some idx) : keys[idx]? = some key := by
  obtain ⟨hlt, hkey, -⟩ := idxOf?_eq_some_iff.mp h
  rw [getElem?_eq_getElem hlt, hkey]

theorem idxOf?_of_count_le_one {keys : List String} {key : String} {idx : ℕ}
    (hcount : keys.count key ≤ 1) (hidx : keys[idx]? = some key) : keys.idxOf? key = some idx := by
  obtain ⟨hlt, hkey⟩ := List.getElem?_eq_some_iff.mp hidx
  refine idxOf?_eq_some_iff.mpr ⟨hlt, hkey, fun j hj hjkey => ?_⟩
  have hdup : List.Duplicate key keys :=
    duplicate_iff_exists_distinct_get.mpr ⟨⟨j, hj.trans hlt⟩, ⟨idx, hlt⟩, hj, hjkey.symm, hkey.symm⟩
  have htwo := duplicate_iff_two_le_count.mp hdup
  omega

theorem exists_idxOf?_ne {keys : List String} {key : String} (hcount : 2 ≤ keys.count key) :
    ∃ idx, keys[idx]? = some key ∧ keys.idxOf? key ≠ some idx := by
  obtain ⟨i, j, hij, hi, hj⟩ := duplicate_iff_exists_distinct_get.mp
    (duplicate_iff_two_le_count.mpr hcount)
  refine ⟨j, by rw [getElem?_eq_getElem j.isLt, hj, get_eq_getElem], fun hidx => ?_⟩
  obtain ⟨_, _, hfirst⟩ := idxOf?_eq_some_iff.mp hidx
  exact hfirst i hij hi.symm

/-! ### Changes of status one after another -/

section

variable (parse : KeyParser)

def applyUpdate (ch : Channel) (u : KeyUpdate) : Channel :=
  (handlerMultiKeyUpdate parse u.now ch u.usingKey u.status u.reason).1

structure HasKeys (keys : List String) (ch : Channel) : Prop where
  multi : ch.channelInfo.isMultiKey = true
  getKeys : ch.getKeys parse = keys

variable (ch : Channel)

theorem applyUpdate_frame (u : KeyUpdate) :
    let info := (applyUpdate parse ch u).channelInfo
    info.isMultiKey = ch.channelInfo.isMultiKey ∧ info.multiKeyMode = ch.channelInfo.multiKeyMode ∧
      info.multiKeyPriority = ch.channelInfo.multiKeyPriority := by
  rw [applyUpdate, handlerMultiKeyUpdate_channelInfo]
  cases (ch.getKeys parse).idxOf? u.usingKey with
  | none => exact ⟨rfl, rfl, rfl⟩
  | some keyIndex => exact setKeyStatus_frame u.now u.status u.reason ch.channelInfo keyIndex

theorem run_applyUpdate_frame (us : List KeyUpdate) :
    let info := (run (applyUpdate parse) ch us).channelInfo
    info.multiKeyMode = ch.channelInfo.multiKeyMode ∧
      info.multiKeyPriority = ch.channelInfo.multiKeyPriority := by
  induction us generalizing ch with
  | nil => exact ⟨rfl, rfl⟩
  | cons u us ih =>
    obtain ⟨-, hmode, hpriority⟩ := applyUpdate_frame parse ch u
    obtain ⟨hmode', hpriority'⟩ := ih (applyUpdate parse ch u)
    exact ⟨hmode'.trans hmode, hpriority'.trans hpriority⟩

variable {parse} {keys : List String} {ch : Channel}

theorem lookup_applyUpdate (hkeys : ch.getKeys parse = keys) (u : KeyUpdate) (idx : ℕ) :
    (applyUpdate parse ch u).channelInfo.multiKeyStatusList.lookup idx =
      if keys.idxOf? u.usingKey = some idx then
        recordedEntry (ch.channelInfo.multiKeyStatusList.lookup idx) u.status
      else ch.channelInfo.multiKeyStatusList.lookup idx := by
  rw [applyUpdate, handlerMultiKeyUpdate_channelInfo, hkeys]
  rcases keys.idxOf? u.usingKey with - | keyIndex
  · simp
  rw [lookup_setKeyStatus]
  by_cases hidx : idx = keyIndex
  · subst hidx
    simp
  · simp [hidx, Ne.symm hidx]

theorem HasKeys.applyUpdate (hkeys : HasKeys parse keys ch) (u : KeyUpdate) :
    HasKeys parse keys (applyUpdate parse ch u) where
  multi := (applyUpdate_frame parse ch u).1.trans hkeys.multi
  getKeys := (handlerMultiKeyUpdate_getKeys ..).trans hkeys.getKeys

variable {idx : ℕ} (hkeys : HasKeys parse keys ch)
include hkeys

/-- **Step.** A disabled key stays disabled under a change that does not enable its text. -/
theorem keyStatus_applyUpdate_ne {key : String} (hidx : keys[idx]? = some key) {u : KeyUpdate}
    (hu : u.usingKey = key → u.status ≠ channelStatusEnabled)
    (hoff : keyStatus ch.channelInfo.multiKeyStatusList idx ≠ channelStatusEnabled) :
    keyStatus (Model.applyUpdate parse ch u).channelInfo.multiKeyStatusList idx ≠
      channelStatusEnabled := by
  rw [keyStatus, lookup_applyUpdate hkeys.getKeys]
  split
  next hfound =>
    have hkey : u.usingKey = key :=
      some.inj ((getElem?_of_idxOf? hfound).symm.trans hidx)
    refine recordedEntry_getD_ne.mpr ⟨hu hkey, fun _ hnone => ?_⟩
    simp [keyStatus, hnone] at hoff
  · exact hoff

theorem keyStatus_applyUpdate_found {u : KeyUpdate} (hfound : keys.idxOf? u.usingKey = some idx)
    (hstatus : u.status ≠ channelStatusEnabled) (hknown : u.status ≠ channelStatusUnknown) :
    keyStatus (Model.applyUpdate parse ch u).channelInfo.multiKeyStatusList idx ≠
      channelStatusEnabled := by
  rw [keyStatus, lookup_applyUpdate hkeys.getKeys, if_pos hfound]
  exact recordedEntry_getD_ne.mpr ⟨hstatus, fun h => absurd h hknown⟩

theorem HasKeys.run (us : List KeyUpdate) :
    HasKeys parse keys (run (Model.applyUpdate parse) ch us) :=
  run_induction (P := fun _ _ => True) (fun _ u hk _ => hk.applyUpdate u) hkeys
    (along_of_forall (fun _ _ => trivial) _ _)

/-- **Run.** A disabled key stays disabled under changes that do not enable its text. -/
theorem keyStatus_run_ne {key : String} (hidx : keys[idx]? = some key) {us : List KeyUpdate}
    (hus : ∀ u ∈ us, u.usingKey = key → u.status ≠ channelStatusEnabled)
    (hoff : keyStatus ch.channelInfo.multiKeyStatusList idx ≠ channelStatusEnabled) :
    keyStatus (run (Model.applyUpdate parse) ch us).channelInfo.multiKeyStatusList idx ≠
      channelStatusEnabled := by
  induction us generalizing ch with
  | nil => exact hoff
  | cons u us ih =>
    have hfirst := keyStatus_applyUpdate_ne hkeys hidx (hus u mem_cons_self) hoff
    exact ih (hkeys.applyUpdate u) (fun v hv => hus v (mem_cons_of_mem _ hv)) hfirst

theorem lookup_run_eq_none {us : List KeyUpdate}
    (hus : ∀ u ∈ us, keys.idxOf? u.usingKey = some idx → u.status = channelStatusUnknown)
    (hnone : ch.channelInfo.multiKeyStatusList.lookup idx = none) :
    (run (Model.applyUpdate parse) ch us).channelInfo.multiKeyStatusList.lookup idx = none := by
  induction us generalizing ch with
  | nil => exact hnone
  | cons u us ih =>
    refine ih (hkeys.applyUpdate u) (fun v hv => hus v (mem_cons_of_mem _ hv)) ?_
    rw [lookup_applyUpdate hkeys.getKeys, hnone]
    split
    next hfound =>
      rw [hus u mem_cons_self hfound]
      rfl
    · rfl

end

/-! ### A disabled key is not served -/

section

variable (parse : KeyParser)

/-- After the status `s` is set for the key `k`, and any later changes that do not enable `k`, no
call serves `k`: for every channel with these keys, whatever its entries, priorities and mode. -/
def NeverServedAfter (keys : List String) (k : String) (s : Int) : Prop :=
  ∀ ch, HasKeys parse keys ch → ∀ (reason : String) (now : Int)
    (later : List KeyUpdate),
    (∀ u ∈ later, u.usingKey = k → u.status ≠ channelStatusEnabled) →
    ∀ (memoryCacheEnabled : Bool) (stored : Option ChannelInfo) (draw idx : ℕ),
      ((run (applyUpdate parse) ch (⟨k, s, reason, now⟩ :: later)).getNextEnabledKey
        parse memoryCacheEnabled stored draw).result ≠ .ok (k, idx)

/-- After the changes `us` no key is enabled, and neither is the channel: for every channel with
these keys. -/
def AllDisabledAfter (keys : List String) (us : List KeyUpdate) : Prop :=
  ∀ ch, HasKeys parse keys ch →
    ∀ (memoryCacheEnabled : Bool) (stored : Option ChannelInfo) (draw : ℕ),
      let after := run (applyUpdate parse) ch us
      (after.getNextEnabledKey parse memoryCacheEnabled stored draw).result =
          .error .noEnabledKeys ∧
        after.status ≠ channelStatusEnabled

/-- A channel of the memory cache with the given keys, all enabled, of which the one at `idx` has
the highest priority. -/
def preferring (keys : List String) (idx : ℕ) : Channel where
  id := 1
  key := if keys = [] then "" else "keys"
  status := channelStatusEnabled
  statusReason := none
  statusTime := none
  keys := keys
  channelInfo :=
    { isMultiKey := true
      multiKeySize := keys.length
      multiKeyStatusList := ∅
      multiKeyDisabledReason := ∅
      multiKeyDisabledTime := ∅
      multiKeyPriority := (∅ : GoMap ℕ Int).insert idx 1
      multiKeyPollingIndex := 0
      multiKeyMode := .other "" }

variable {parse} {keys : List String}

variable (parse keys) in
theorem preferring_hasKeys (idx : ℕ) : HasKeys parse keys (preferring keys idx) where
  multi := rfl
  getKeys := by
    cases keys with
    | nil => rfl
    | cons key keys => simp [preferring, Channel.getKeys]

theorem preferring_keyTier (idx i : ℕ) :
    keyTier (preferring keys idx).channelInfo.multiKeyPriority i = if i = idx then 1 else 0 := by
  rw [preferring, keyTier]
  rw [GoMap.lookup_insert]
  split <;> rfl

variable {us : List KeyUpdate}

theorem preferring_serves {idx : ℕ} {k : String} (hidx : keys[idx]? = some k)
    (hnone : (run (applyUpdate parse) (preferring keys idx)
      us).channelInfo.multiKeyStatusList.lookup idx = none)
    (memoryCacheEnabled : Bool) (stored : Option ChannelInfo) (draw : ℕ) :
    ((run (applyUpdate parse) (preferring keys idx) us).getNextEnabledKey parse
      memoryCacheEnabled stored draw).result = .ok (k, idx) := by
  set after := run (applyUpdate parse) (preferring keys idx) us
  obtain ⟨hmulti, hkeys⟩ : HasKeys parse keys after :=
    (preferring_hasKeys parse keys idx).run us
  obtain ⟨hmode, hpriority⟩ := run_applyUpdate_frame parse (preferring keys idx) us
  have henabled : idx ∈ enabledIndexes keys after.channelInfo.multiKeyStatusList := by
    refine mem_enabledIndexes.mpr ⟨(List.getElem?_eq_some_iff.mp hidx).1, ?_⟩
    rw [keyStatus, hnone, getD_none]
  obtain ⟨key, i, hserved⟩ : ∃ key i, (after.getNextEnabledKey parse memoryCacheEnabled
      stored draw).result = .ok (key, i) :=
    exists_getNextEnabledKey_ok hmulti hmode (hkeys ▸ ne_nil_of_mem henabled)
  obtain ⟨hkey, htier⟩ := getNextEnabledKey_ok hmulti hserved
  rw [hkeys] at hkey htier
  rw [hpriority] at htier
  have htop := (mem_topTier.mp htier).2 idx henabled
  rw [preferring_keyTier, preferring_keyTier] at htop
  have hi : i = idx := by
    by_contra hne
    omega
  subst hi
  rw [hserved, ← some.inj (hkey.symm.trans hidx)]

theorem neverServedAfter_iff {k : String} {s : Int} (hs : s ≠ channelStatusEnabled) :
    NeverServedAfter parse keys k s ↔ keys.count k ≤ 1 ∧ (k ∈ keys → s ≠ channelStatusUnknown) := by
  constructor
  · intro hnever
    have hserves : ∀ idx, keys[idx]? = some k →
        (keys.idxOf? k = some idx → s = channelStatusUnknown) → False := by
      intro idx hidx hfound
      refine hnever (preferring keys idx) (preferring_hasKeys parse keys idx) "" 0 [] (by simp)
        false none 0 idx (preferring_serves hidx ?_ false none 0)
      refine lookup_run_eq_none (preferring_hasKeys parse keys idx) ?_ rfl
      simpa using hfound
    refine ⟨?_, fun hmem hunknown => ?_⟩
    · by_contra hcount
      obtain ⟨idx, hidx, hne⟩ := exists_idxOf?_ne (by omega : 2 ≤ keys.count k)
      exact hserves idx hidx fun hfound => absurd hfound hne
    · obtain ⟨idx, hlt, hidx⟩ := getElem_of_mem hmem
      exact hserves idx (List.getElem?_eq_some_iff.mpr ⟨hlt, hidx⟩) fun _ => hunknown
  · rintro ⟨hcount, hknown⟩ ch hkeys reason now later hlater memoryCacheEnabled stored draw idx
      hserved
    have hrun := hkeys.run (⟨k, s, reason, now⟩ :: later)
    obtain ⟨hidx, htier⟩ := getNextEnabledKey_ok hrun.multi hserved
    rw [hrun.getKeys] at hidx htier
    obtain ⟨-, hon⟩ := mem_enabledIndexes.mp (topTier_subset _ _ htier)
    -- The first change has disabled the only position of the key.
    have hoff : keyStatus (applyUpdate parse ch
        ⟨k, s, reason, now⟩).channelInfo.multiKeyStatusList idx ≠ channelStatusEnabled :=
      keyStatus_applyUpdate_found hkeys (idxOf?_of_count_le_one hcount hidx) hs
        (hknown (mem_of_getElem? hidx))
    exact keyStatus_run_ne (hkeys.applyUpdate _) hidx hlater hoff hon

theorem keyStatus_run_of_mem {ch : Channel} {idx : ℕ} {key : String}
    (hkeys : HasKeys parse keys ch) (hidx : keys[idx]? = some key)
    (hcount : keys.count key ≤ 1) (hus : ∀ u ∈ us, u.status ≠ channelStatusEnabled)
    (hknown : ∀ u ∈ us, u.status ≠ channelStatusUnknown) (hmem : key ∈ us.map KeyUpdate.usingKey) :
    keyStatus (run (applyUpdate parse) ch us).channelInfo.multiKeyStatusList idx ≠
      channelStatusEnabled := by
  induction us generalizing ch with
  | nil => simp at hmem
  | cons u us ih =>
    have hus' : ∀ v ∈ us, v.status ≠ channelStatusEnabled :=
      fun v hv => hus v (mem_cons_of_mem _ hv)
    by_cases hu : u.usingKey = key
    · have hfound : keys.idxOf? u.usingKey = some idx := hu ▸ idxOf?_of_count_le_one hcount hidx
      exact keyStatus_run_ne (hkeys.applyUpdate u) hidx (fun v hv _ => hus' v hv)
        (keyStatus_applyUpdate_found hkeys hfound (hus u mem_cons_self) (hknown u mem_cons_self))
    · refine ih (hkeys.applyUpdate u) hus' (fun v hv => hknown v (mem_cons_of_mem _ hv)) ?_
      exact (mem_cons.mp hmem).resolve_left (Ne.symm hu)

theorem status_run_eq_autoDisabled {ch : Channel} (hkeys : HasKeys parse keys ch) (hne : us ≠ [])
    (hlisted : ∀ u ∈ us, u.usingKey ∈ keys)
    (hoff : enabledIndexes keys
      (run (applyUpdate parse) ch us).channelInfo.multiKeyStatusList = []) :
    (run (applyUpdate parse) ch us).status = channelStatusAutoDisabled := by
  obtain ⟨before, last, rfl⟩ := (eq_nil_or_concat us).resolve_left hne
  have hlast : run (applyUpdate parse) ch (before.concat last) =
      applyUpdate parse (run (applyUpdate parse) ch before) last := by
    simp [run]
  rw [hlast] at hoff ⊢
  have hbefore := hkeys.run before
  have hmem : last.usingKey ∈ keys := hlisted last (by simp)
  obtain ⟨idx, hidx⟩ : ∃ idx, keys.idxOf? last.usingKey = some idx :=
    ne_none_iff_exists'.mp fun hnone => idxOf?_eq_none_iff.mp hnone hmem
  rw [← hbefore.getKeys] at hidx hoff
  exact (handlerMultiKeyUpdate_status parse last.now _ last.usingKey last.status last.reason
    hidx).trans (if_pos hoff)

theorem allDisabledAfter_iff (hperm : (us.map KeyUpdate.usingKey).Perm keys)
    (hus : ∀ u ∈ us, u.status ≠ channelStatusEnabled) :
    AllDisabledAfter parse keys us ↔
      keys ≠ [] ∧ keys.Nodup ∧ ∀ u ∈ us, u.status ≠ channelStatusUnknown := by
  constructor
  · intro hall
    -- A position that keeps no entry is enabled at the end.
    have hentry : ∀ idx < keys.length, ∃ u ∈ us, keys.idxOf? u.usingKey = some idx ∧
        u.status ≠ channelStatusUnknown := by
      intro idx hlt
      by_contra hnot
      push Not at hnot
      have hnone := lookup_run_eq_none (preferring_hasKeys parse keys idx) hnot rfl
      obtain ⟨herror, -⟩ :=
        hall (preferring keys idx) (preferring_hasKeys parse keys idx) false none 0
      rw [preferring_serves (getElem?_eq_getElem hlt) hnone] at herror
      cases herror
    have hnodup : keys.Nodup := by
      refine nodup_iff_count_le_one.mpr fun key => ?_
      by_contra hcount
      obtain ⟨idx, hidx, hne⟩ := exists_idxOf?_ne (by omega : 2 ≤ keys.count key)
      obtain ⟨u, -, hfound, -⟩ := hentry idx (List.getElem?_eq_some_iff.mp hidx).1
      have hkey : u.usingKey = key :=
        some.inj ((getElem?_of_idxOf? hfound).symm.trans hidx)
      exact hne (hkey ▸ hfound)
    refine ⟨?_, hnodup, fun u hu => ?_⟩
    · rintro rfl
      obtain ⟨herror, -⟩ := hall (preferring [] 0) (preferring_hasKeys parse [] 0) false none 0
      have hrun := (preferring_hasKeys parse [] 0).run us
      exact ((getNextEnabledKey_noEnabledKeys_iff hrun.multi).mp herror).1 hrun.getKeys
    -- The recorded change at the position of the key is this one: each key has one change.
    obtain ⟨idx, hlt, hidx⟩ := getElem_of_mem (hperm.mem_iff.mp (mem_map_of_mem hu))
    obtain ⟨v, hv, hfound, hknown⟩ := hentry idx hlt
    have hkey : v.usingKey = u.usingKey := by
      have hat := getElem?_of_idxOf? hfound
      rw [getElem?_eq_getElem hlt, hidx] at hat
      exact (some.inj hat).symm
    have hsame : v = u := inj_on_of_nodup_map (hperm.nodup_iff.mpr hnodup) hv hu hkey
    exact hsame ▸ hknown
  · rintro ⟨hne, hnodup, hknown⟩ ch hkeys memoryCacheEnabled stored draw
    have hrun := hkeys.run us
    have hoff : enabledIndexes keys
        (run (applyUpdate parse) ch us).channelInfo.multiKeyStatusList = [] := by
      refine eq_nil_iff_forall_not_mem.mpr fun idx hidx => ?_
      obtain ⟨hlt, hon⟩ := mem_enabledIndexes.mp hidx
      have hmem : keys[idx] ∈ us.map KeyUpdate.usingKey := hperm.mem_iff.mpr (getElem_mem hlt)
      exact keyStatus_run_of_mem hkeys (getElem?_eq_getElem hlt)
        (nodup_iff_count_le_one.mp hnodup _) hus hknown hmem hon
    have hlisted : ∀ u ∈ us, u.usingKey ∈ keys :=
      fun u hu => hperm.mem_iff.mp (mem_map_of_mem hu)
    have husne : us ≠ [] := by
      rintro rfl
      exact hne hperm.symm.eq_nil
    refine ⟨(getNextEnabledKey_noEnabledKeys_iff hrun.multi).mpr ?_, ?_⟩
    · rw [hrun.getKeys]
      exact ⟨hne, hoff⟩
    · rw [status_run_eq_autoDisabled hkeys husne hlisted hoff]
      decide

variable (parse keys) in
/-- **A disabled key is not served.** Once a status that is not enabled is set for a key, the key is
not served any more, exactly if it is not listed twice and the status is a recorded one. Changes
that disable all keys one after another disable the channel, exactly if no key is listed twice and
the statuses are recorded ones. -/
theorem disabled_key_not_served : (∀ k s, s ≠ channelStatusEnabled →
      (NeverServedAfter parse keys k s ↔
        keys.count k ≤ 1 ∧ (k ∈ keys → s ≠ channelStatusUnknown))) ∧
    ∀ us : List KeyUpdate, (us.map KeyUpdate.usingKey).Perm keys →
      (∀ u ∈ us, u.status ≠ channelStatusEnabled) →
      (AllDisabledAfter parse keys us ↔
        keys ≠ [] ∧ keys.Nodup ∧ ∀ u ∈ us, u.status ≠ channelStatusUnknown) :=
  ⟨fun _ _ hs => neverServedAfter_iff hs, fun _ hperm hus => allDisabledAfter_iff hperm hus⟩

def sampleDisables : List KeyUpdate :=
  [⟨"b", channelStatusAutoDisabled, "quota", 10⟩, ⟨"a", channelStatusAutoDisabled, "quota", 11⟩]

theorem disabled_key_not_served_sampleDisables :
    NeverServedAfter (fun _ => none) ["a", "b"] "a" channelStatusAutoDisabled ∧
      AllDisabledAfter (fun _ => none) ["a", "b"] sampleDisables :=
  ⟨((disabled_key_not_served (fun _ => none) ["a", "b"]).1 "a" channelStatusAutoDisabled
      (by decide)).mpr ⟨by decide, by decide⟩,
    ((disabled_key_not_served (fun _ => none) ["a", "b"]).2 sampleDisables
      (List.Perm.swap "a" "b" []) (by decide)).mpr ⟨by decide, by decide, by decide⟩⟩

def sampleRepeated : ChannelRow where
  id := 7
  key := "a\na"
  status := channelStatusEnabled
  statusReason := none
  statusTime := none
  channelInfo :=
    { isMultiKey := true
      multiKeySize := 2
      multiKeyStatusList := ∅
      multiKeyDisabledReason := ∅
      multiKeyDisabledTime := ∅
      multiKeyPriority := ∅
      multiKeyPollingIndex := 0
      multiKeyMode := .random }

/-- A key that is listed twice is served after it has been disabled, also if it is disabled once for
each line, and the channel stays enabled. The status 0 disables no key. -/
theorem disabled_key_served :
    let disable : KeyUpdate := ⟨"a", channelStatusAutoDisabled, "invalid key", 10⟩
    let once := run (applyUpdate fun _ => none) sampleRepeated.load [disable]
    let twice := run (applyUpdate fun _ => none) sampleRepeated.load [disable, disable]
    let unknown := run (applyUpdate fun _ => none) sampleRepeated.load
      [⟨"a", channelStatusUnknown, "", 10⟩]
    (once.getNextEnabledKey (fun _ => none) false none 0).result = .ok ("a", 1) ∧
      (twice.getNextEnabledKey (fun _ => none) false none 0).result = .ok ("a", 1) ∧
      twice.status = channelStatusEnabled ∧
      (unknown.getNextEnabledKey (fun _ => none) false none 0).result = .ok ("a", 0) := by
  decide +kernel

end

/-! ### What a call changes -/

section

variable (parse : KeyParser)

def statusStep (st : ChannelStatusStore) (call : StatusCall) : ChannelStatusStore :=
  (updateChannelStatus parse st call).1

/-- Whether a call gets to the change of the stored row: it does not stop at the memory cache, and
the row is read. -/
def ReachesRow (st : ChannelStatusStore) (call : StatusCall) : Prop :=
  call.readOk = true ∧
    (st.memoryCacheEnabled = true →
      ∃ cached, st.cached = some cached ∧ updateCachedStatus parse cached call ≠ none)

/-- The change that a call makes to the stored row, if it makes one. -/
def storedChange (st : ChannelStatusStore) (call : StatusCall) : Option (Channel × Bool) :=
  st.row.bind fun row =>
    statusChange parse call.now row.load call.usingKey call.status call.reason

def followedAbilities (st : ChannelStatusStore) (call : StatusCall) (follow : Bool) : List Bool :=
  if follow && call.abilitiesOk then
    st.abilities.map fun _ => decide (call.status = channelStatusEnabled)
  else st.abilities

/-- What a call can do and return: nothing, a change that is not saved, or one that is. The
abilities follow the change in both cases. -/
inductive StatusMove (st : ChannelStatusStore) (call : StatusCall) :
    ChannelStatusStore × Bool → Prop
  | unchanged (cached : Option Channel)
      (hidle : ReachesRow parse st call → storedChange parse st call = none) :
      StatusMove st call ({ st with cached }, false)
  | failed (cached : Option Channel) {ch : Channel} {follow : Bool}
      (hreaches : ReachesRow parse st call)
      (hchange : storedChange parse st call = some (ch, follow))
      (hfails : ch.id = 0 ∨ call.saveOk = false) :
      StatusMove st call
        ({ st with cached, abilities := followedAbilities st call follow }, false)
  | saved (cached : Option Channel) {ch : Channel} {follow : Bool} {row saved : ChannelRow}
      (hreaches : ReachesRow parse st call) (hrow : st.row = some row)
      (hchange : storedChange parse st call = some (ch, follow))
      (hok : call.saveOk = true) (hsaved : ch.saveStatusState row = some saved) :
      StatusMove st call
        ({ st with cached, row := some saved, abilities := followedAbilities st call follow }, true)

variable {parse} {st : ChannelStatusStore} {call : StatusCall} {ch : Channel}

theorem saveStatusState_spec {row saved : ChannelRow} (h : ch.saveStatusState row = some saved) :
    ch.id ≠ 0 ∧ saved.id = row.id ∧ saved.key = row.key ∧ saved.status = ch.status ∧
      (ch.channelInfo.isMultiKey = true → saved.channelInfo = ch.channelInfo) := by
  rw [Channel.saveStatusState] at h
  split at h
  · cases h
  next hid =>
    obtain rfl := some.inj h
    exact ⟨hid, rfl, rfl, rfl, fun hmulti => if_pos hmulti⟩

theorem handlerMultiKeyUpdate_enables {now : Int} {usingKey : String}
    {status : Int} {reason : String} {keyIndex : Nat}
    (hidx : (ch.getKeys parse).idxOf? usingKey = some keyIndex)
    (henabled : status = channelStatusEnabled) :
    let updated := (handlerMultiKeyUpdate parse now ch usingKey status reason).1
    updated.status = channelStatusEnabled := by
  intro updated
  have hon : enabledIndexes (ch.getKeys parse) updated.channelInfo.multiKeyStatusList ≠ [] := by
    refine ne_nil_of_mem (mem_enabledIndexes.mpr
      ⟨(List.getElem?_eq_some_iff.mp (getElem?_of_idxOf? hidx)).1, ?_⟩)
    rw [keyStatus, handlerMultiKeyUpdate_channelInfo, hidx]
    rw [lookup_setKeyStatus, if_pos rfl, recordedEntry, if_pos henabled]
    rfl
  rw [handlerMultiKeyUpdate_status parse now ch usingKey status reason hidx, if_neg hon,
    if_pos henabled]

/-- If a change for a key changes the status of the channel, the channel is enabled exactly if the
change enables the key. -/
theorem handlerMultiKeyUpdate_enabled {now : Int} {usingKey : String}
    {status : Int} {reason : String} :
    let updated := (handlerMultiKeyUpdate parse now ch usingKey status reason).1
    updated.status ≠ ch.status →
      (status = channelStatusEnabled ↔ updated.status = channelStatusEnabled) := by
  intro updated hne
  cases hidx : (ch.getKeys parse).idxOf? usingKey with
  | none =>
    have hstatus : updated.status = status ∨ updated.status = ch.status := by
      simp only [updated, handlerMultiKeyUpdate, hidx]
      split
      · simp
      · split <;> simp
    rw [hstatus.resolve_right hne]
  | some keyIndex =>
    have hderived := handlerMultiKeyUpdate_status parse now ch usingKey status reason hidx
    by_cases henabled : status = channelStatusEnabled
    · exact iff_of_true henabled (handlerMultiKeyUpdate_enables hidx henabled)
    rw [hderived]
    split
    · exact iff_of_false henabled (by decide)
    next hsome =>
      rw [hderived, if_neg hsome, if_neg henabled] at hne
      exact absurd rfl hne

theorem storedChange_spec {follow : Bool} (h : storedChange parse st call = some (ch, follow)) :
    ∃ row, st.row = some row ∧ ch.id = row.id ∧ follow = decide (row.status ≠ ch.status) ∧
      (follow = true → (call.status = channelStatusEnabled ↔
        ch.status = channelStatusEnabled)) := by
  obtain ⟨row, hrow, hchange⟩ := bind_eq_some_iff.mp h
  refine ⟨row, hrow, ?_⟩
  rw [statusChange] at hchange
  split at hchange
  · dsimp only at hchange
    split at hchange
    · obtain ⟨rfl, rfl⟩ := Prod.mk.inj (some.inj hchange)
      refine ⟨(handlerMultiKeyUpdate_frame ..).1, rfl, fun hfollow => ?_⟩
      exact handlerMultiKeyUpdate_enabled (of_decide_eq_true hfollow).symm
    · cases hchange
  · split at hchange
    · cases hchange
    next hne =>
      obtain ⟨rfl, rfl⟩ := Prod.mk.inj (some.inj hchange)
      exact ⟨rfl, (decide_eq_true hne).symm, fun _ => Iff.rfl⟩

theorem updateStoredStatus_move (cached : Option Channel) (hreaches : call.readOk = true →
      ReachesRow parse st call) :
    StatusMove parse st call (updateStoredStatus parse { st with cached } call) := by
  unfold updateStoredStatus
  dsimp only
  split
  next hnone => exact .unchanged cached fun _ => by rw [storedChange, hnone, bind_none]
  rename_i row hrow
  have hread : storedChange parse st call =
      statusChange parse call.now row.load call.usingKey call.status call.reason := by
    rw [storedChange, hrow, bind_some]
  split
  next hfalse => exact .unchanged cached fun h => by simp [h.1] at hfalse
  rename_i htrue
  have hreaches := hreaches (by simpa using htrue)
  split
  next hnone => exact .unchanged cached fun _ => hread.trans hnone
  rename_i ch follow hchange
  split
  next hnone =>
    rw [Channel.saveStatusState] at hnone
    exact .failed cached hreaches (hread.trans hchange) (.inl (by simpa using hnone))
  rename_i saved hsaved
  split
  next hok => exact .saved cached hreaches hrow (hread.trans hchange) hok hsaved
  next hfails => exact .failed cached hreaches (hread.trans hchange) (.inr (by simpa using hfails))

variable (parse) in
theorem updateChannelStatus_move (st : ChannelStatusStore) (call : StatusCall) :
    StatusMove parse st call (updateChannelStatus parse st call) := by
  unfold updateChannelStatus
  split
  next hmemory =>
    exact updateStoredStatus_move st.cached fun hread => ⟨hread, fun h => by simp [h] at hmemory⟩
  rename_i hmemory
  have hon : st.memoryCacheEnabled = true := by simpa using hmemory
  split
  next hnone =>
    refine .unchanged st.cached fun h => ?_
    obtain ⟨cached, hcached, -⟩ := h.2 hon
    cases hnone.symm.trans hcached
  rename_i cached hcached
  split
  next hstops =>
    refine .unchanged st.cached fun h => ?_
    obtain ⟨other, hother, hpasses⟩ := h.2 hon
    obtain rfl : cached = other := some.inj (hcached.symm.trans hother)
    exact absurd hstops hpasses
  next updated hpasses =>
    refine updateStoredStatus_move (some updated) fun hread =>
      ⟨hread, fun _ => ⟨cached, hcached, ?_⟩⟩
    rw [hpasses]
    exact some_ne_none updated

theorem storedChange_multi {row : ChannelRow} {keys : List String} (hrow : st.row = some row)
    (hkeys : HasKeys parse keys row.load) :
    let updated := applyUpdate parse row.load call.toKeyUpdate
    (storedChange parse st call = none → updated.status = row.status) ∧
      ∀ ch follow, storedChange parse st call = some (ch, follow) →
        ch = updated ∧ follow = decide (row.status ≠ updated.status) := by
  have hmulti : row.load.channelInfo.isMultiKey = true := hkeys.multi
  have hsnd := handlerMultiKeyUpdate_snd parse call.now row.load call.usingKey call.status
    call.reason
  rw [storedChange, hrow, bind_some, statusChange, if_pos hmulti]
  dsimp only
  split
  · refine ⟨fun h => (some_ne_none _ h).elim, fun ch follow h => ?_⟩
    obtain ⟨rfl, rfl⟩ := Prod.mk.inj (some.inj h)
    exact ⟨rfl, rfl⟩
  next hsame =>
    refine ⟨fun _ => ?_, fun ch follow h => (some_ne_none _ h.symm).elim⟩
    by_contra hne
    exact hsame (hsnd hne)

end

/-! ### A channel that the administrator has disabled -/

section

variable (parse : KeyParser)

/-- The stored channel has these keys and is manually disabled, and so are its abilities. -/
def ManuallyDisabled (keys : List String) (st : ChannelStatusStore) : Prop :=
  (∃ row, st.row = some row ∧ row.id ≠ 0 ∧ HasKeys parse keys row.load ∧
    row.status = channelStatusManuallyDisabled) ∧
  ∀ enabled ∈ st.abilities, enabled = false

/-- The automatic changes: a key is disabled after an error, or enabled after a recovery. -/
def StatusCall.Automatic (keys : List String) (call : StatusCall) : Prop :=
  call.usingKey ∈ keys ∧
    (call.status = channelStatusAutoDisabled ∨ call.status = channelStatusEnabled)

/-- The call disables a key while another position of the key list is enabled in the stored row. -/
def LeavesOtherKey (st : ChannelStatusStore) (call : StatusCall) : Prop :=
  call.status = channelStatusAutoDisabled ∧
    ∀ row, st.row = some row →
      ∃ idx ∈ enabledIndexes (keyList parse row.key) row.channelInfo.multiKeyStatusList,
        (keyList parse row.key).idxOf? call.usingKey ≠ some idx

/-- The call stops before the stored row, or it disables a key while another one is enabled. -/
def SparesChannel (st : ChannelStatusStore) (call : StatusCall) : Prop :=
  ReachesRow parse st call → LeavesOtherKey parse st call

variable {parse} {st : ChannelStatusStore} {call : StatusCall} {keys : List String}

theorem HasKeys.keyList {row : ChannelRow} (hkeys : HasKeys parse keys row.load) :
    keyList parse row.key = keys :=
  (getKeys_load parse row).symm.trans hkeys.getKeys

/-- An automatic change leaves the status of a manually disabled channel exactly when it disables a
key and another position is enabled. -/
theorem applyUpdate_status_eq_iff {row : ChannelRow} {u : KeyUpdate}
    (hkeys : HasKeys parse keys row.load)
    (hmanual : row.status = channelStatusManuallyDisabled) (hlisted : u.usingKey ∈ keys)
    (hstatus : u.status = channelStatusAutoDisabled ∨ u.status = channelStatusEnabled) :
    (applyUpdate parse row.load u).status = row.status ↔ u.status = channelStatusAutoDisabled ∧
        ∃ idx ∈ enabledIndexes keys row.channelInfo.multiKeyStatusList,
          keys.idxOf? u.usingKey ≠ some idx := by
  obtain ⟨i, hi⟩ : ∃ i, keys.idxOf? u.usingKey = some i :=
    ne_none_iff_exists'.mp fun hnone => idxOf?_eq_none_iff.mp hnone hlisted
  set updated := applyUpdate parse row.load u
  have hderived : updated.status =
      if enabledIndexes keys updated.channelInfo.multiKeyStatusList = [] then
        channelStatusAutoDisabled
      else if u.status = channelStatusEnabled then channelStatusEnabled
      else row.status := by
    have h := handlerMultiKeyUpdate_status parse u.now row.load u.usingKey u.status u.reason
      (hkeys.getKeys ▸ hi)
    rw [hkeys.getKeys] at h
    exact h
  -- Other positions than that of the key keep their status.
  have hother : ∀ idx ≠ i, keyStatus updated.channelInfo.multiKeyStatusList idx =
      keyStatus row.channelInfo.multiKeyStatusList idx := by
    intro idx hne
    have hnot : ¬ keys.idxOf? u.usingKey = some idx := by
      rw [hi]
      exact fun h => hne (some.inj h).symm
    rw [keyStatus, lookup_applyUpdate hkeys.getKeys, if_neg hnot]
    rfl
  rw [hmanual]
  rcases hstatus with hauto | henabled
  · have hoff : keyStatus updated.channelInfo.multiKeyStatusList i ≠ channelStatusEnabled :=
      keyStatus_applyUpdate_found hkeys hi (by rw [hauto]; decide) (by rw [hauto]; decide)
    have hiff : enabledIndexes keys updated.channelInfo.multiKeyStatusList ≠ [] ↔
        ∃ idx ∈ enabledIndexes keys row.channelInfo.multiKeyStatusList,
          keys.idxOf? u.usingKey ≠ some idx := by
      constructor
      · intro hne
        obtain ⟨idx, hidx⟩ := exists_mem_of_ne_nil _ hne
        obtain ⟨hidxlt, hon⟩ := mem_enabledIndexes.mp hidx
        have hidxne : idx ≠ i := fun h => hoff (h ▸ hon)
        refine ⟨idx, mem_enabledIndexes.mpr ⟨hidxlt, hother idx hidxne ▸ hon⟩, ?_⟩
        rw [hi]
        exact fun h => hidxne (some.inj h).symm
      · rintro ⟨idx, hidx, hne⟩
        obtain ⟨hidxlt, hon⟩ := mem_enabledIndexes.mp hidx
        have hidxne : idx ≠ i := fun h => hne (h ▸ hi)
        exact ne_nil_of_mem (mem_enabledIndexes.mpr ⟨hidxlt, (hother idx hidxne).trans hon⟩)
    rw [← hiff, hderived, hmanual, hauto]
    by_cases hnil : enabledIndexes keys updated.channelInfo.multiKeyStatusList = []
    · simp [hnil, channelStatusAutoDisabled, channelStatusManuallyDisabled]
    · simp [hnil, channelStatusAutoDisabled, channelStatusEnabled]
  · -- The key itself is enabled, so the channel is.
    have hon : updated.status = channelStatusEnabled :=
      handlerMultiKeyUpdate_enables (hkeys.getKeys ▸ hi) henabled
    rw [hon, henabled]
    exact iff_of_false (by decide) (by simp [channelStatusEnabled, channelStatusAutoDisabled])

/-- **Step.** An automatic change keeps the channel manually disabled if it disables a key and
another one is enabled. -/
theorem manuallyDisabled_statusStep (hst : ManuallyDisabled parse keys st)
    (hcall : call.Automatic keys)
    (hkeeps : SparesChannel parse st call) :
    ManuallyDisabled parse keys (statusStep parse st call) := by
  obtain ⟨⟨row, hrow, hid, hkeys, hmanual⟩, habilities⟩ := hst
  have hlist := hkeys.keyList
  -- A call that reaches the row leaves the status of the channel.
  have hsame : ReachesRow parse st call →
      (applyUpdate parse row.load call.toKeyUpdate).status = row.status := by
    intro hreaches
    obtain ⟨hauto, hleaves⟩ := hkeeps hreaches
    exact (applyUpdate_status_eq_iff hkeys hmanual hcall.1 (.inl hauto)).mpr
      ⟨hauto, hlist ▸ hleaves row hrow⟩
  have hkept : ∀ {ch follow}, ReachesRow parse st call →
      storedChange parse st call = some (ch, follow) →
      followedAbilities st call follow = st.abilities := by
    intro ch follow hreaches hchange
    obtain ⟨-, rfl⟩ := (storedChange_multi hrow hkeys).2 ch follow hchange
    simp [followedAbilities, hsame hreaches]
  have hmove := updateChannelStatus_move parse st call
  rw [statusStep]
  generalize updateChannelStatus parse st call = result at hmove ⊢
  cases hmove with
  | unchanged cached hidle => exact ⟨⟨row, hrow, hid, hkeys, hmanual⟩, habilities⟩
  | failed cached hreaches hchange hfails =>
    rw [hkept hreaches hchange]
    exact ⟨⟨row, hrow, hid, hkeys, hmanual⟩, habilities⟩
  | saved cached hreaches hrow' hchange hok hsaved =>
    obtain rfl := some.inj (hrow.symm.trans hrow')
    obtain ⟨-, hsid, hskey, hsstatus, hsinfo⟩ := saveStatusState_spec hsaved
    obtain ⟨rfl, -⟩ := (storedChange_multi hrow hkeys).2 _ _ hchange
    have hmulti := (hkeys.applyUpdate call.toKeyUpdate).multi
    rw [hkept hreaches hchange]
    refine ⟨⟨_, rfl, hsid ▸ hid, ⟨?_, ?_⟩, ?_⟩, habilities⟩
    · exact hsinfo hmulti ▸ hmulti
    · rw [getKeys_load, hskey, hlist]
    · rw [hsstatus, hsame hreaches, hmanual]

/-- An automatic change that reaches the row and is saved keeps the channel manually disabled only
if it disables a key and another one is enabled. -/
theorem sparesChannel_of_manuallyDisabled_statusStep (hst : ManuallyDisabled parse keys st)
    (hcall : call.Automatic keys) (hsave : call.saveOk = true)
    (hafter : ManuallyDisabled parse keys (statusStep parse st call)) :
    SparesChannel parse st call := by
  intro hreaches
  obtain ⟨⟨row, hrow, hid, hkeys, hmanual⟩, -⟩ := hst
  obtain ⟨⟨row', hrow', -, -, hmanual'⟩, -⟩ := hafter
  have hlist := hkeys.keyList
  have hsame : (applyUpdate parse row.load call.toKeyUpdate).status = row.status := by
    have hmove := updateChannelStatus_move parse st call
    rw [statusStep] at hrow'
    generalize updateChannelStatus parse st call = result at hmove hrow'
    cases hmove with
    | unchanged cached hidle => exact (storedChange_multi hrow hkeys).1 (hidle hreaches)
    | failed cached _ hchange hfails =>
      obtain ⟨other, hother, hsameid, -⟩ := storedChange_spec hchange
      obtain rfl := some.inj (hrow.symm.trans hother)
      rcases hfails with hzero | hfalse
      · exact absurd (hsameid.symm.trans hzero) hid
      · cases hfalse.symm.trans hsave
    | saved cached _ hother hchange hok hsaved =>
      obtain rfl := some.inj hrow'
      obtain ⟨rfl, -⟩ := (storedChange_multi hrow hkeys).2 _ _ hchange
      rw [← (saveStatusState_spec hsaved).2.2.2.1, hmanual', hmanual]
  obtain ⟨hauto, hother⟩ :=
    (applyUpdate_status_eq_iff hkeys hmanual hcall.1 hcall.2).mp hsame
  refine ⟨hauto, fun r hr => ?_⟩
  obtain rfl : row = r := some.inj (hrow.symm.trans hr)
  exact hlist ▸ hother

/-- **A manual disabling lasts.** Automatic changes leave a manually disabled channel and its
abilities disabled, as long as each call that reaches the stored row disables a key while another
one is enabled. If the calls are saved, no other run does. -/
theorem manual_disable_lasts (hst : ManuallyDisabled parse keys st) {calls : List StatusCall}
    (hcalls : ∀ call ∈ calls, call.Automatic keys) :
    (Along (statusStep parse) (SparesChannel parse) st calls → Along (statusStep parse)
        (fun st call => ManuallyDisabled parse keys (statusStep parse st call))
        st calls) ∧
    ((∀ call ∈ calls, call.saveOk = true) → Along (statusStep parse)
        (fun st call => ManuallyDisabled parse keys (statusStep parse st call)) st calls →
      Along (statusStep parse) (SparesChannel parse) st calls) := by
  refine ⟨fun hkeeps => ?_, fun hsaved hlasts => ?_⟩
  · have hstep : ∀ st call, ManuallyDisabled parse keys st →
        (SparesChannel parse st call ∧ call.Automatic keys) →
        ManuallyDisabled parse keys (statusStep parse st call) :=
      fun _ _ hm hc => manuallyDisabled_statusStep hm hc.2 hc.1
    exact along_of_invariant hstep hstep hst (along_and.mpr ⟨hkeeps, along_of_forall_mem hcalls⟩)
  · have hboth : ∀ call ∈ calls, call.Automatic keys ∧ call.saveOk = true :=
      fun call hmem => ⟨hcalls call hmem, hsaved call hmem⟩
    have hstep : ∀ st call, ManuallyDisabled parse keys st →
        (ManuallyDisabled parse keys (statusStep parse st call) ∧
          call.Automatic keys ∧ call.saveOk = true) →
        ManuallyDisabled parse keys (statusStep parse st call) :=
      fun _ _ _ hc => hc.1
    exact along_of_invariant hstep
      (fun _ _ hm hc => sparesChannel_of_manuallyDisabled_statusStep hm hc.2.1 hc.2.2 hc.1) hst
      (along_and.mpr ⟨hlasts, along_of_forall_mem hboth⟩)

def sampleManual : ChannelStatusStore where
  memoryCacheEnabled := false
  cached := none
  row := some
    { id := 7
      key := "a\nb\nc"
      status := channelStatusManuallyDisabled
      statusReason := some "manual operation"
      statusTime := some 5
      channelInfo :=
        { isMultiKey := true
          multiKeySize := 3
          multiKeyStatusList := (∅ : GoMap ℕ Int).insert 0 channelStatusAutoDisabled
          multiKeyDisabledReason := (∅ : GoMap ℕ String).insert 0 "invalid key"
          multiKeyDisabledTime := (∅ : GoMap ℕ Int).insert 0 4
          multiKeyPriority := ∅
          multiKeyPollingIndex := 0
          multiKeyMode := .random } }
  abilities := [false, false]

def sampleCall (usingKey : String) (status : Int) : StatusCall where
  usingKey := usingKey
  status := status
  reason := "status"
  now := 10
  readOk := true
  saveOk := true
  abilitiesOk := true

theorem sampleManual_manuallyDisabled :
    ManuallyDisabled (fun _ => none) ["a", "b", "c"] sampleManual :=
  ⟨⟨_, rfl, by decide, ⟨rfl, by decide +kernel⟩, rfl⟩, by decide⟩

theorem manual_disable_lasts_sampleManual : ManuallyDisabled (fun _ => none) ["a", "b", "c"]
      (statusStep (fun _ => none) sampleManual (sampleCall "b" channelStatusAutoDisabled)) := by
  have hleaves : LeavesOtherKey (fun _ => none) sampleManual
      (sampleCall "b" channelStatusAutoDisabled) := by
    refine ⟨rfl, fun row hrow => ?_⟩
    obtain rfl := some.inj hrow
    exact ⟨2, by decide +kernel, by decide +kernel⟩
  have hcalls : ∀ call ∈ [sampleCall "b" channelStatusAutoDisabled],
      call.Automatic ["a", "b", "c"] := forall_mem_singleton.mpr ⟨by decide, .inl rfl⟩
  exact ((manual_disable_lasts sampleManual_manuallyDisabled hcalls).1
    ⟨fun _ => hleaves, trivial⟩).1

/-- The recovery of a key enables a channel that the administrator has disabled, with its abilities.
The failure of its last keys turns it into an auto-disabled one, which a later recovery enables. -/
theorem manual_disable_lost :
    let recovered := statusStep (fun _ => none) sampleManual (sampleCall "a" channelStatusEnabled)
    let failed := run (statusStep fun _ => none) sampleManual
      [sampleCall "b" channelStatusAutoDisabled, sampleCall "c" channelStatusAutoDisabled]
    recovered.row.map ChannelRow.status = some channelStatusEnabled ∧
      recovered.abilities = [true, true] ∧
      failed.row.map ChannelRow.status = some channelStatusAutoDisabled := by
  decide +kernel

end

/-! ### The abilities of a channel -/

variable (parse : KeyParser)

/-- The abilities of the stored channel are enabled exactly if the channel is. -/
def AbilitiesAgree (st : ChannelStatusStore) : Prop :=
  ∀ row, st.row = some row →
    ∀ enabled ∈ st.abilities, enabled = decide (row.status = channelStatusEnabled)

/-- The call changes the status of the stored channel and the abilities are updated, or they have
the state of the new status before the call. -/
def CoversAbilities (st : ChannelStatusStore) (call : StatusCall) : Prop :=
  match storedChange parse st call with
  | none => True
  | some (ch, follow) =>
    follow = true ∧ call.abilitiesOk = true ∨
      ∀ enabled ∈ st.abilities, enabled = decide (ch.status = channelStatusEnabled)

/-- Calls of which each one returns true only with abilities that agree with the channel. -/
def ReportsAgreement (st : ChannelStatusStore) (calls : List StatusCall) : Prop :=
  Along (statusStep parse) (fun st call => (updateChannelStatus parse st call).2 = true →
    AbilitiesAgree (statusStep parse st call)) st calls

variable {parse} {st : ChannelStatusStore} {call : StatusCall}

theorem followedAbilities_iff {ch : Channel} {follow : Bool}
    (h : storedChange parse st call = some (ch, follow)) :
    (∀ enabled ∈ followedAbilities st call follow,
        enabled = decide (ch.status = channelStatusEnabled)) ↔
      follow = true ∧ call.abilitiesOk = true ∨
        ∀ enabled ∈ st.abilities, enabled = decide (ch.status = channelStatusEnabled) := by
  obtain ⟨-, -, -, -, hsame⟩ := storedChange_spec h
  rw [followedAbilities]
  split
  next hwritten =>
    rw [and_eq_true] at hwritten
    refine iff_of_true ?_ (.inl hwritten)
    simp [hsame hwritten.1]
  next hkept =>
    rw [and_eq_true] at hkept
    exact (or_iff_right hkept).symm

theorem abilitiesAgree_statusStep_iff (h : (updateChannelStatus parse st call).2 = true) :
    AbilitiesAgree (statusStep parse st call) ↔ CoversAbilities parse st call := by
  have hmove := updateChannelStatus_move parse st call
  rw [statusStep]
  generalize updateChannelStatus parse st call = result at hmove h ⊢
  cases hmove with
  | unchanged cached hidle => cases h
  | failed cached hreaches hchange hfails => cases h
  | saved cached hreaches hrow hchange hok hsaved =>
    simp only [AbilitiesAgree, CoversAbilities, hchange, some.injEq, forall_eq',
      (saveStatusState_spec hsaved).2.2.2.1]
    exact followedAbilities_iff hchange

/-- **Step.** If the row and the abilities are both written or both not, they agree after the call
if they did before. -/
theorem abilitiesAgree_statusStep (hagree : AbilitiesAgree st)
    (hid : ∀ row, st.row = some row → row.id ≠ 0) (hboth : call.saveOk = call.abilitiesOk) :
    AbilitiesAgree (statusStep parse st call) ∧
      ∀ row, (statusStep parse st call).row = some row → row.id ≠ 0 := by
  have hmove := updateChannelStatus_move parse st call
  rw [statusStep]
  generalize updateChannelStatus parse st call = result at hmove ⊢
  cases hmove with
  | unchanged cached hidle => exact ⟨hagree, hid⟩
  | failed cached hreaches hchange hfails =>
    obtain ⟨row, hrow, hsame, -⟩ := storedChange_spec hchange
    have hnot : call.abilitiesOk = false :=
      hboth ▸ hfails.resolve_left (hsame ▸ hid row hrow)
    refine ⟨?_, hid⟩
    rw [followedAbilities, hnot, Bool.and_false]
    exact hagree
  | saved cached hreaches hrow' hchange hok hsaved =>
    obtain ⟨row, hrow, hsame, hfollow, -⟩ := storedChange_spec hchange
    obtain ⟨-, hsid, -, hstatus, -⟩ := saveStatusState_spec hsaved
    obtain rfl := some.inj (hrow.symm.trans hrow')
    refine ⟨?_, ?_⟩
    · simp only [AbilitiesAgree, some.injEq, forall_eq', hstatus]
      refine (followedAbilities_iff hchange).mpr ?_
      rcases eq_false_or_eq_true _ with htrue | hfalse
      · exact .inl ⟨htrue, hboth ▸ hok⟩
      · -- The status stays, so the abilities have its state already.
        have hstays := of_decide_eq_false (hfollow.symm.trans hfalse)
        exact .inr (not_not.mp hstays ▸ hagree row hrow)
    · simp only [some.injEq, forall_eq', hsid]
      exact hid row hrow

/-- **The abilities follow the status.** From an agreeing channel, calls of which each one writes
both the row and the abilities or neither report true only with abilities that agree with the stored
status. In general they do so exactly if each call that reports true changes the status and its
update of the abilities succeeds, or finds them in the state of the new status. -/
theorem reportsAgreement_iff (parse : KeyParser) (st : ChannelStatusStore)
    (calls : List StatusCall) :
    (AbilitiesAgree st → (∀ row, st.row = some row → row.id ≠ 0) →
      (∀ call ∈ calls, call.saveOk = call.abilitiesOk) → ReportsAgreement parse st calls) ∧
    (ReportsAgreement parse st calls ↔ Along (statusStep parse) (fun st call =>
      (updateChannelStatus parse st call).2 = true → CoversAbilities parse st call) st calls) := by
  have hcall : ∀ st call, ((updateChannelStatus parse st call).2 = true →
      AbilitiesAgree (statusStep parse st call)) ↔
        ((updateChannelStatus parse st call).2 = true → CoversAbilities parse st call) :=
    fun st call => forall_congr' abilitiesAgree_statusStep_iff
  have hstep : ∀ st call, (AbilitiesAgree st ∧ ∀ row, st.row = some row → row.id ≠ 0) →
      call.saveOk = call.abilitiesOk → AbilitiesAgree (statusStep parse st call) ∧
        ∀ row, (statusStep parse st call).row = some row → row.id ≠ 0 :=
    fun st call h => abilitiesAgree_statusStep h.1 h.2
  refine ⟨fun hagree hid hboth => ?_, ⟨Along.imp fun st call => (hcall st call).mp,
    Along.imp fun st call => (hcall st call).mpr⟩⟩
  refine along_of_invariant hstep (fun st call h hboth => ?_) ⟨hagree, hid⟩
    (along_of_forall_mem hboth)
  exact fun _ => (hstep st call h hboth).1

/-- A channel that is enabled and then disabled while its abilities cannot be written. Both calls
return true, and the abilities stay enabled. -/
theorem reports_torn_status :
    let enabled := updateChannelStatus (fun _ => none) sampleManual
      (sampleCall "a" channelStatusEnabled)
    let disabled := updateChannelStatus (fun _ => none) enabled.1
      { sampleCall "" channelStatusManuallyDisabled with abilitiesOk := false }
    enabled.2 = true ∧ disabled.2 = true ∧
      disabled.1.row.map ChannelRow.status = some channelStatusManuallyDisabled ∧
      disabled.1.abilities = [true, true] := by
  decide +kernel

end NewApi.Model
