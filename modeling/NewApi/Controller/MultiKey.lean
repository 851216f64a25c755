import NewApi.Model.Channel

/-!
# Management of the keys of a channel

`ManageMultiKeys` loads a channel, edits its keys, statuses and priorities, and stores it with
`Update`. The two actions that delete keys build new maps in a loop over the old keys, with a new
index for each key that stays, and join the keys that stay into a new key text. The text is parsed
again whenever the keys are read.

Source: `controller/channel.go`.
-/

namespace NewApi.Controller

open Model List Option GoText GoMap

/-! ### Requests and answers -/

/-- The cases of the switch. -/
inductive MultiKeyAction
  | getKeyStatus
  | disableKey
  | enableKey
  | enableAllKeys
  | disableAllKeys
  | deleteKey
  | deleteDisabledKeys
  | setKeyPriority
  | other (name : String)
  deriving DecidableEq, Repr

structure MultiKeyManageRequest where
  action : MultiKeyAction
  keyIndex : Option Int
  page : Int
  pageSize : Int
  status : Option Int
  priority : Option Int

/-- A key as `get_key_status` lists it, without the preview of its text. -/
structure KeyStatus where
  index : ℕ
  status : Int
  disabledTime : Int
  reason : String
  priority : Int
  deriving DecidableEq, Repr

structure MultiKeyStatusResponse where
  keys : List KeyStatus
  total : ℕ
  page : Int
  pageSize : Int
  totalPages : Int
  enabledCount : ℕ
  manualDisabledCount : ℕ
  autoDisabledCount : ℕ
  deriving DecidableEq, Repr

inductive ManageReply
  | failure (message : String)
  | insufficientPrivilege
  | databaseError
  | keyStatus (response : MultiKeyStatusResponse)
  | success (message : String) (data : Option ℕ)
  deriving DecidableEq, Repr

/-- What an action makes of the loaded channel: it refuses with a message, it lists the keys, or it
has a channel to store. -/
inductive Edit
  | refuse (message : String)
  | list (response : MultiKeyStatusResponse)
  | store (ch : Channel) (message : String) (data : Option ℕ)

/-! ### The listing -/

def keyStatusAt (info : ChannelInfo) (idx : ℕ) : KeyStatus :=
  let status := Model.keyStatus info.multiKeyStatusList idx
  { index := idx
    status := status
    disabledTime := if status ≠ 1 then (info.multiKeyDisabledTime.lookup idx).getD 0 else 0
    reason := if status ≠ 1 then (info.multiKeyDisabledReason.lookup idx).getD "" else ""
    priority := (info.multiKeyPriority.lookup idx).getD 0 }

def getKeyStatus (keys : List String) (info : ChannelInfo) (req : MultiKeyManageRequest) :
    MultiKeyStatusResponse :=
  let all : List KeyStatus := (range keys.length).map (keyStatusAt info)
  let filtered : List KeyStatus :=
    match req.status with
    | some status => all.filter fun k => k.status = status
    | none => all
  let pageSize := if req.pageSize ≤ 0 then 50 else req.pageSize
  let pages : Int := (filtered.length + pageSize - 1) / pageSize
  let totalPages := if pages = 0 then 1 else pages
  let asked := if req.page ≤ 0 then 1 else req.page
  let page := if asked > totalPages then totalPages else asked
  let start := ((page - 1) * pageSize).toNat
  { keys := (filtered.drop start).take pageSize.toNat
    total := filtered.length
    page := page
    pageSize := pageSize
    totalPages := totalPages
    enabledCount := all.countP fun k => k.status = 1
    manualDisabledCount := all.countP fun k => k.status = 2
    autoDisabledCount := all.countP fun k => k.status = 3 }

/-! ### Deleting keys -/

/-- The accumulators of the loops that delete keys. The next index is the number of the keys that
stay so far. -/
structure KeptKeys where
  remainingKeys : List String
  statusList : GoMap ℕ Int
  disabledTime : GoMap ℕ Int
  disabledReason : GoMap ℕ String
  priority : GoMap ℕ Int
  deletedCount : ℕ

def KeptKeys.empty : KeptKeys := ⟨[], ∅, ∅, ∅, ∅, 0⟩

/-- One round of a loop that deletes keys: `drops` says which indexes are deleted, and `copies` for
which of the others the time and the reason of the disabling are copied. -/
def keepRound (info : ChannelInfo) (drops copies : ℕ → Bool) (kept : KeptKeys)
    (entry : String × ℕ) : KeptKeys :=
  let (key, i) := entry
  let newIndex := kept.remainingKeys.length
  if drops i then { kept with deletedCount := kept.deletedCount + 1 }
  else
    { kept with
      remainingKeys := kept.remainingKeys ++ [key]
      statusList := kept.statusList.insertSome newIndex
        ((info.multiKeyStatusList.lookup i).filter (· ≠ 1))
      disabledTime := kept.disabledTime.insertSome newIndex
        (if copies i then info.multiKeyDisabledTime.lookup i else none)
      disabledReason := kept.disabledReason.insertSome newIndex
        (if copies i then info.multiKeyDisabledReason.lookup i else none)
      priority := kept.priority.insertSome newIndex
        ((info.multiKeyPriority.lookup i).filter (· ≠ 0)) }

def keepLoop (info : ChannelInfo) (drops copies : ℕ → Bool) (keys : List String) : KeptKeys :=
  keys.zipIdx.foldl (keepRound info drops copies) .empty

structure KeptBy (info : ChannelInfo) (copies : ℕ → Bool) (keys : List String) (kept : List ℕ)
    (state : KeptKeys) : Prop where
  remainingKeys : state.remainingKeys = kept.map fun i => keys.getD i ""
  statusList : ∀ j, state.statusList.lookup j =
    kept[j]?.bind fun i => (info.multiKeyStatusList.lookup i).filter (· ≠ 1)
  disabledTime : ∀ j, state.disabledTime.lookup j =
    kept[j]?.bind fun i => if copies i then info.multiKeyDisabledTime.lookup i else none
  disabledReason : ∀ j, state.disabledReason.lookup j =
    kept[j]?.bind fun i => if copies i then info.multiKeyDisabledReason.lookup i else none
  priority : ∀ j, state.priority.lookup j =
    kept[j]?.bind fun i => (info.multiKeyPriority.lookup i).filter (· ≠ 0)

/-- **Round.** A round adds its index to those that stay, or counts it as deleted. -/
theorem KeptBy.keepRound {info : ChannelInfo} {copies : ℕ → Bool} {keys : List String}
    {kept : List ℕ} {state : KeptKeys} {entry : String × ℕ}
    (h : KeptBy info copies keys kept state) (drops : ℕ → Bool)
    (hentry : keys.getD entry.2 "" = entry.1) :
    KeptBy info copies keys (kept ++ [entry.2].filter fun i => !drops i)
      (keepRound info drops copies state entry) := by
  have hlength : state.remainingKeys.length = kept.length := by
    rw [h.remainingKeys, length_map]
  by_cases hdrop : drops entry.2 = true
  · rw [Controller.keepRound, if_pos hdrop]
    have hnil : ([entry.2].filter fun i => !drops i) = [] := by simp [hdrop]
    rw [hnil, append_nil]
    exact ⟨h.remainingKeys, h.statusList, h.disabledTime, h.disabledReason, h.priority⟩
  rw [Controller.keepRound, if_neg hdrop]
  have hone : ([entry.2].filter fun i => !drops i) = [entry.2] := by simp [hdrop]
  rw [hone, hlength]
  exact {
    remainingKeys := by rw [map_append, map_singleton, hentry, h.remainingKeys]
    statusList := lookup_insertSome_concat h.statusList entry.2
    disabledTime := lookup_insertSome_concat h.disabledTime entry.2
    disabledReason := lookup_insertSome_concat h.disabledReason entry.2
    priority := lookup_insertSome_concat h.priority entry.2 }

private theorem KeptBy.foldl {info : ChannelInfo} {copies : ℕ → Bool} {keys : List String}
    {kept : List ℕ} {state : KeptKeys} {entries : List (String × ℕ)}
    (h : KeptBy info copies keys kept state) (drops : ℕ → Bool)
    (hentries : ∀ entry ∈ entries, keys.getD entry.2 "" = entry.1) :
    KeptBy info copies keys (kept ++ (entries.map Prod.snd).filter fun i => !drops i)
      (entries.foldl (Controller.keepRound info drops copies) state) := by
  induction entries generalizing kept state with
  | nil => simpa using h
  | cons entry entries ih =>
    obtain ⟨hentry, hrest⟩ := forall_mem_cons.mp hentries
    have hnext := ih (h.keepRound drops hentry) hrest
    rwa [append_assoc, ← filter_append] at hnext

/-- **The loop.** The loop keeps the indexes that it does not drop, in their order. -/
theorem keepLoop_spec (info : ChannelInfo) (drops copies : ℕ → Bool) (keys : List String) :
    KeptBy info copies keys ((range keys.length).filter fun i => !drops i)
      (keepLoop info drops copies keys) := by
  have hstart : KeptBy info copies keys [] .empty := ⟨rfl, by simp [KeptKeys.empty],
    by simp [KeptKeys.empty], by simp [KeptKeys.empty], by simp [KeptKeys.empty]⟩
  have hentries : ∀ entry ∈ keys.zipIdx, keys.getD entry.2 "" = entry.1 := by
    rintro ⟨key, i⟩ hmem
    have hat : keys[i]? = some key := mem_zipIdx_iff_getElem?.mp hmem
    simp [hat]
  have hloop := hstart.foldl drops hentries
  rwa [nil_append, zipIdx_map_snd, ← range_eq_range'] at hloop

theorem keepLoop_deletedCount (info : ChannelInfo) (drops copies : ℕ → Bool) (keys : List String) :
    (keepLoop info drops copies keys).remainingKeys.length +
      (keepLoop info drops copies keys).deletedCount = keys.length := by
  have hfold : ∀ (entries : List (String × ℕ)) (state : KeptKeys),
      (entries.foldl (keepRound info drops copies) state).remainingKeys.length +
        (entries.foldl (keepRound info drops copies) state).deletedCount =
      state.remainingKeys.length + state.deletedCount + entries.length := by
    intro entries
    induction entries with
    | nil => simp
    | cons entry entries ih =>
      intro state
      rw [foldl_cons, ih, keepRound]
      split <;> simp <;> omega
  simpa [keepLoop, KeptKeys.empty] using hfold keys.zipIdx .empty

/-- The loop of `delete_key`. -/
def deleteKeyLoop (info : ChannelInfo) (keyIndex : ℕ) (keys : List String) : KeptKeys :=
  keepLoop info (· == keyIndex) (fun _ => true) keys

/-- The loop of `delete_disabled_keys`, which copies the time and the reason only for a key that is
not enabled. -/
def deleteDisabledLoop (info : ChannelInfo) (keys : List String) : KeptKeys :=
  keepLoop info (fun i => Model.keyStatus info.multiKeyStatusList i == 3)
    (fun i => Model.keyStatus info.multiKeyStatusList i != 1) keys

/-- The channel with the keys that stay. -/
def withKeptKeys (ch : Channel) (kept : KeptKeys) : Channel :=
  { ch with
    key := join '\n' kept.remainingKeys
    channelInfo := { ch.channelInfo with
      multiKeySize := kept.remainingKeys.length
      multiKeyStatusList := kept.statusList
      multiKeyDisabledTime := kept.disabledTime
      multiKeyDisabledReason := kept.disabledReason
      multiKeyPriority := kept.priority } }

/-! ### The actions -/

def withStatusList (ch : Channel) (statusList : GoMap ℕ Int) : Channel :=
  { ch with channelInfo := { ch.channelInfo with multiKeyStatusList := statusList } }

/-- An index of the request that is below the stored number of keys. -/
def checkedIndex (req : MultiKeyManageRequest) (size : ℕ) (missing : String) :
    Except String ℕ :=
  match req.keyIndex with
  | none => .error missing
  | some keyIndex =>
    if keyIndex < 0 ∨ keyIndex ≥ size then .error "密钥索引超出范围" else .ok keyIndex.toNat

def disableKey (ch : Channel) (req : MultiKeyManageRequest) : Edit :=
  match checkedIndex req ch.channelInfo.multiKeySize "未指定要禁用的密钥索引" with
  | .error message => .refuse message
  | .ok keyIndex =>
    .store (withStatusList ch (ch.channelInfo.multiKeyStatusList.insert keyIndex 2))
      "密钥已禁用" none

def enableKey (ch : Channel) (req : MultiKeyManageRequest) : Edit :=
  match checkedIndex req ch.channelInfo.multiKeySize "未指定要启用的密钥索引" with
  | .error message => .refuse message
  | .ok keyIndex =>
    let info := ch.channelInfo
    .store
      { ch with
        channelInfo := { info with
          multiKeyStatusList := info.multiKeyStatusList.erase keyIndex
          multiKeyDisabledTime := info.multiKeyDisabledTime.erase keyIndex
          multiKeyDisabledReason := info.multiKeyDisabledReason.erase keyIndex } }
      "密钥已启用" none

def enableAllKeys (ch : Channel) : Edit :=
  let enabledCount := ch.channelInfo.multiKeyStatusList.len
  .store
    { ch with
      channelInfo := { ch.channelInfo with
        multiKeyStatusList := ∅
        multiKeyDisabledTime := ∅
        multiKeyDisabledReason := ∅ } }
    ("已启用 " ++ toString enabledCount ++ " 个密钥") none

/-- The statuses with the enabled keys disabled, and the number of these. -/
def disableLoop (statusList : GoMap ℕ Int) (size : ℕ) : GoMap ℕ Int × ℕ :=
  (range size).foldl (fun (statuses, count) i =>
    if Model.keyStatus statuses i = 1 then (statuses.insert i 2, count + 1)
    else (statuses, count)) (statusList, 0)

theorem keyStatus_disableLoop {statusList : GoMap ℕ Int} {size idx : ℕ}
    (h : Model.keyStatus (disableLoop statusList size).1 idx = channelStatusEnabled) :
    Model.keyStatus statusList idx = channelStatusEnabled := by
  have hfold : ∀ (idxs : List ℕ) (acc : GoMap ℕ Int × ℕ),
      Model.keyStatus (idxs.foldl (fun (statuses, count) i =>
        if Model.keyStatus statuses i = 1 then (statuses.insert i 2, count + 1)
        else (statuses, count)) acc).1 idx = channelStatusEnabled →
      Model.keyStatus acc.1 idx = channelStatusEnabled := by
    intro idxs
    induction idxs with
    | nil => exact fun acc h => h
    | cons i idxs ih =>
      intro acc hrest
      have hnext := ih _ hrest
      dsimp only at hnext
      split at hnext
      next hone =>
        rw [Model.keyStatus, lookup_insert] at hnext
        split at hnext
        · cases hnext
        · exact hnext
      · exact hnext
  exact hfold _ _ h

def disableAllKeys (ch : Channel) : Edit :=
  let info := ch.channelInfo
  let (statusList, disabledCount) := disableLoop info.multiKeyStatusList info.multiKeySize
  if disabledCount = 0 then .refuse "没有可禁用的密钥"
  else
    .store (withStatusList ch statusList)
      ("已禁用 " ++ toString disabledCount ++ " 个密钥") none

section

variable (parse : KeyParser)

def deleteKey (ch : Channel) (req : MultiKeyManageRequest) : Edit :=
  match checkedIndex req ch.channelInfo.multiKeySize "未指定要删除的密钥索引" with
  | .error message => .refuse message
  | .ok keyIndex =>
    let kept := deleteKeyLoop ch.channelInfo keyIndex (ch.getKeys parse)
    if kept.remainingKeys = [] then .refuse "不能删除最后一个密钥"
    else .store (withKeptKeys ch kept) "密钥已删除" none

def deleteDisabledKeys (ch : Channel) : Edit :=
  let kept := deleteDisabledLoop ch.channelInfo (ch.getKeys parse)
  if kept.deletedCount = 0 then .refuse "没有需要删除的自动禁用密钥"
  else
    .store (withKeptKeys ch kept)
      ("已删除 " ++ toString kept.deletedCount ++ " 个自动禁用的密钥") (some kept.deletedCount)

/-- Unlike the other actions on one key it compares the index with the number of the parsed keys. -/
def setKeyPriority (ch : Channel) (req : MultiKeyManageRequest) : Edit :=
  match req.keyIndex, req.priority with
  | none, _ => .refuse "缺少密钥索引"
  | some _, none => .refuse "缺少优先级参数"
  | some keyIndex, some priority =>
    if keyIndex < 0 ∨ keyIndex ≥ (ch.getKeys parse).length then
      .refuse "密钥索引超出范围"
    else if priority < 0 ∨ priority > 100 then .refuse "优先级必须在 0-100 之间"
    else
      let priorities := ch.channelInfo.multiKeyPriority
      let updated :=
        if priority = 0 then priorities.erase keyIndex.toNat
        else priorities.insert keyIndex.toNat priority
      .store { ch with
        channelInfo := { ch.channelInfo with multiKeyPriority := updated } }
        "密钥优先级已更新" none

/-- The part of a request under the lock of the channel, up to the write. -/
def editKeys (ch : Channel) (req : MultiKeyManageRequest) : Edit :=
  match req.action with
  | .getKeyStatus =>
    .list (getKeyStatus (ch.getKeys parse) ch.channelInfo req)
  | .disableKey => disableKey ch req
  | .enableKey => enableKey ch req
  | .enableAllKeys => enableAllKeys ch
  | .disableAllKeys => disableAllKeys ch
  | .deleteKey => deleteKey parse ch req
  | .deleteDisabledKeys => deleteDisabledKeys parse ch
  | .setKeyPriority => setKeyPriority parse ch req
  | .other _ => .refuse "不支持的操作"

def multiKeyActionRequiresSensitiveWrite (action : MultiKeyAction) : Bool :=
  action = .deleteKey ∨ action = .deleteDisabledKeys

/-- The answers of the environment to a request: whether the user may write sensitive data, and
whether the database reads the key text, stores the row and updates the abilities. -/
structure ManageAnswers where
  canSensitiveWrite : Bool
  readOk : Bool
  saveOk : Bool
  abilitiesOk : Bool

/-- The locked part of a request for a channel that was loaded before: the row and the answer. An
error of the abilities comes after the write. -/
def manageLoaded (ch : Channel) (req : MultiKeyManageRequest) (answers : ManageAnswers)
    (stored : ChannelRow) : ChannelRow × ManageReply :=
  if !ch.channelInfo.isMultiKey then (stored, .failure "该渠道不是多密钥模式")
  else if multiKeyActionRequiresSensitiveWrite req.action && !answers.canSensitiveWrite then
    (stored, .insufficientPrivilege)
  else
    match editKeys parse ch req with
    | .refuse message => (stored, .failure message)
    | .list response => (stored, .keyStatus response)
    | .store edited message data =>
      if !answers.saveOk then (stored, .databaseError)
      else
        (edited.update parse answers.readOk stored,
          if answers.abilitiesOk then .success message data else .databaseError)

/-- A request for a stored channel. -/
def manageMultiKeys (stored : Option ChannelRow) (req : MultiKeyManageRequest)
    (answers : ManageAnswers) : Option ChannelRow × ManageReply :=
  match stored with
  | none => (none, .failure "渠道不存在")
  | some row =>
    let (row', ans) := manageLoaded parse row.load req answers row
    (some row', ans)

end

/-! ### Keys that are read back from their joined text -/

section

variable (parse : KeyParser)

/-- The joined text of the keys is not empty, and parses into the same keys: if it is taken for a
JSON array, the array has these elements; else no key contains a line break and neither the first
nor the last one is empty. -/
def ReadsBack (remaining : List String) : Prop :=
  join '\n' remaining ≠ "" ∧
    match jsonKeys parse (join '\n' remaining) with
    | some elements => elements = remaining
    | none => (∀ key ∈ remaining, '\n' ∉ key.toList) ∧ remaining.head? ≠ some "" ∧
        remaining.getLast? ≠ some ""

variable {parse} {remaining : List String}

theorem keyList_join_eq_iff (hjoin : join '\n' remaining ≠ "") :
    keyList parse (join '\n' remaining) = remaining ↔ ReadsBack parse remaining := by
  rw [keyList, if_neg hjoin, ReadsBack]
  cases jsonKeys parse (join '\n' remaining) with
  | some elements => simp [hjoin]
  | none =>
    simp [getD_none, lineKeys, split_trim_join hjoin, hjoin, ne_eq, not_false_eq_true, true_and]

end

/-! ### What a deletion leaves -/

def targets (req : MultiKeyManageRequest) (info : ChannelInfo) (i : ℕ) : Bool :=
  match req.action with
  | .deleteKey => req.keyIndex == some (i : Int)
  | .deleteDisabledKeys => Model.keyStatus info.multiKeyStatusList i == 3
  | _ => false

/-- Whether the request copies the time and the reason of the disabling of a key that stays. -/
def copiesTime (req : MultiKeyManageRequest) (info : ChannelInfo) (i : ℕ) : Bool :=
  match req.action with
  | .deleteDisabledKeys => Model.keyStatus info.multiKeyStatusList i != 1
  | _ => true

variable (parse : KeyParser)

def survivors (row : ChannelRow) (req : MultiKeyManageRequest) : List ℕ :=
  (range (keyList parse row.key).length).filter fun i =>
    !targets req row.channelInfo i

def survivingKeys (row : ChannelRow) (req : MultiKeyManageRequest) : List String :=
  (survivors parse row req).map fun i => (keyList parse row.key).getD i ""

/-- The stored channel `row'` has the keys of `row` at the indexes `kept`, each with its status, the
time and the reason of its disabling and its priority; no key has become enabled, and the number of
the keys is stored. -/
structure MetadataFollows (row row' : ChannelRow) (kept : List ℕ) : Prop where
  keys : keyList parse row'.key = kept.map fun i => (keyList parse row.key).getD i ""
  size : row'.channelInfo.multiKeySize = kept.length
  status : ∀ j i, kept[j]? = some i →
    Model.keyStatus row'.channelInfo.multiKeyStatusList j =
      Model.keyStatus row.channelInfo.multiKeyStatusList i
  disabledTime : ∀ j i, kept[j]? = some i →
    row'.channelInfo.multiKeyDisabledTime.lookup j = row.channelInfo.multiKeyDisabledTime.lookup i
  disabledReason : ∀ j i, kept[j]? = some i →
    row'.channelInfo.multiKeyDisabledReason.lookup j =
      row.channelInfo.multiKeyDisabledReason.lookup i
  priority : ∀ j i, kept[j]? = some i →
    (row'.channelInfo.multiKeyPriority.lookup j).getD 0 =
      (row.channelInfo.multiKeyPriority.lookup i).getD 0
  stillDisabled : ∀ key ∈ keyList parse row.key,
    (∀ i, (keyList parse row.key)[i]? = some key →
      Model.keyStatus row.channelInfo.multiKeyStatusList i ≠ channelStatusEnabled) →
    ∀ j, (keyList parse row'.key)[j]? = some key →
      Model.keyStatus row'.channelInfo.multiKeyStatusList j ≠ channelStatusEnabled

variable {parse} {row row' : ChannelRow} {req : MultiKeyManageRequest}
  {answers : ManageAnswers} {message : String} {data : Option ℕ}

theorem editKeys_delete {ch edited : Channel}
    (haction : req.action = .deleteKey ∨ req.action = .deleteDisabledKeys)
    (hedit : editKeys parse ch req = .store edited message data) :
    let kept := keepLoop ch.channelInfo (targets req ch.channelInfo)
      (copiesTime req ch.channelInfo) (ch.getKeys parse)
    edited = withKeptKeys ch kept ∧ (kept.remainingKeys ≠ [] ∨ kept.deletedCount ≠ 0) := by
  intro kept
  rcases haction with hdelete | hdisabled
  · have hloop : ∀ k : Int, ¬ (k < 0 ∨ k ≥ ch.channelInfo.multiKeySize) → req.keyIndex = some k →
        deleteKeyLoop ch.channelInfo k.toNat (ch.getKeys parse) = kept := by
      intro k hk hindex
      have htargets : targets req ch.channelInfo = (· == k.toNat) := by
        funext i
        simp only [targets, hdelete, hindex]
        rw [Bool.eq_iff_iff, beq_iff_eq, beq_iff_eq, some.injEq]
        omega
      have hcopies : copiesTime req ch.channelInfo = fun _ => true := by
        funext i
        simp [copiesTime, hdelete]
      rw [deleteKeyLoop, ← htargets, ← hcopies]
    simp only [editKeys, hdelete, deleteKey, checkedIndex] at hedit
    rcases hindex : req.keyIndex with - | k
    · rw [hindex] at hedit
      cases hedit
    rw [hindex] at hedit
    by_cases hrange : k < 0 ∨ k ≥ ch.channelInfo.multiKeySize
    · simp only [if_pos hrange] at hedit
      cases hedit
    simp only [if_neg hrange, hloop k hrange hindex] at hedit
    split at hedit
    · cases hedit
    next hne =>
      obtain ⟨rfl, -, -⟩ := Edit.store.inj hedit
      exact ⟨rfl, .inl hne⟩
  · have hloop : deleteDisabledLoop ch.channelInfo (ch.getKeys parse) = kept := by
      have htargets : targets req ch.channelInfo =
          fun i => Model.keyStatus ch.channelInfo.multiKeyStatusList i == 3 := by
        funext i
        simp [targets, hdisabled]
      have hcopies : copiesTime req ch.channelInfo =
          fun i => Model.keyStatus ch.channelInfo.multiKeyStatusList i != 1 := by
        funext i
        simp [copiesTime, hdisabled]
      rw [deleteDisabledLoop, ← htargets, ← hcopies]
    simp only [editKeys, hdisabled, deleteDisabledKeys, hloop] at hedit
    split at hedit
    · cases hedit
    next hne =>
      obtain ⟨rfl, -, -⟩ := Edit.store.inj hedit
      exact ⟨rfl, .inr hne⟩

theorem manageMultiKeys_success (h : manageMultiKeys parse (some row) req answers =
      (some row', .success message data)) :
    row.channelInfo.isMultiKey = true ∧
      ∃ edited, editKeys parse row.load req = .store edited message data ∧
        row' = edited.update parse answers.readOk row := by
  have hloaded : manageLoaded parse row.load req answers row = (row', .success message data) := by
    simpa [manageMultiKeys, Prod.ext_iff] using h
  revert hloaded
  fun_cases manageLoaded parse row.load req answers row with
  | case6 hmulti _ edited message' data' hedit _ =>
    intro hloaded
    obtain ⟨rfl, hreply⟩ := Prod.mk.inj hloaded
    split at hreply
    · obtain ⟨rfl, rfl⟩ := ManageReply.success.inj hreply
      exact ⟨by simpa using hmulti, edited, hedit, rfl⟩
    · cases hreply
  | _ => rintro ⟨⟩

theorem getD_lookup_retain {m m' : GoMap ℕ Int} {default : Int} {i j size : ℕ} (hj : j < size)
    (hlookup : m'.lookup j = (m.lookup i).filter (· ≠ default)) :
    ((m'.retain (· < size)).lookup j).getD default = (m.lookup i).getD default := by
  simp only [lookup_retain, hj, hlookup]
  rcases m.lookup i with - | v
  · rfl
  · rw [filter_some]
    by_cases hv : v = default <;> simp [hv]

variable (parse row req answers) in
/-- The condition of a deletion: the keys that stay are read back from their joined text (or nothing
is deleted from a list of one empty key, whose text stays), and `delete_disabled_keys` finds no time
or reason of a disabling at an enabled key. -/
def DeletionSafe : Prop :=
  (ReadsBack parse (survivingKeys parse row req) ∨
    keyList parse row.key = [""] ∧ survivingKeys parse row req = [""] ∧
      answers.readOk = true) ∧
  (req.action = .deleteDisabledKeys → ∀ i ∈ survivors parse row req,
    Model.keyStatus row.channelInfo.multiKeyStatusList i = channelStatusEnabled →
      row.channelInfo.multiKeyDisabledTime.lookup i = none ∧
        row.channelInfo.multiKeyDisabledReason.lookup i = none)

theorem copiesTime_eq_false_iff {info : ChannelInfo} {i : ℕ} :
    copiesTime req info i = false ↔ req.action = .deleteDisabledKeys ∧
      Model.keyStatus info.multiKeyStatusList i = channelStatusEnabled := by
  unfold copiesTime
  split
  next haction => simp [haction, channelStatusEnabled]
  next haction => exact ⟨fun h => absurd h (by simp), fun h => absurd h.1 haction⟩

variable (parse row req) in
structure Deleted (readOk : Bool) (stored row' : ChannelRow) : Prop where
  key : row'.key =
    if join '\n' (survivingKeys parse row req) = "" then stored.key
    else join '\n' (survivingKeys parse row req)
  size : join '\n' (survivingKeys parse row req) ≠ "" ∨ readOk = true →
    row'.channelInfo.multiKeySize = (countedKeys parse row'.key).length
  sizeUnread : join '\n' (survivingKeys parse row req) = "" →
    readOk = false → row'.channelInfo.multiKeySize = 0
  status : ∀ j i, (survivors parse row req)[j]? = some i →
    j < row'.channelInfo.multiKeySize →
    Model.keyStatus row'.channelInfo.multiKeyStatusList j =
      Model.keyStatus row.channelInfo.multiKeyStatusList i
  disabledTime : ∀ j i, (survivors parse row req)[j]? = some i →
    row'.channelInfo.multiKeyDisabledTime.lookup j =
      if copiesTime req row.channelInfo i then row.channelInfo.multiKeyDisabledTime.lookup i
      else none
  disabledReason : ∀ j i, (survivors parse row req)[j]? = some i →
    row'.channelInfo.multiKeyDisabledReason.lookup j =
      if copiesTime req row.channelInfo i then row.channelInfo.multiKeyDisabledReason.lookup i
      else none
  priority : ∀ j i, (survivors parse row req)[j]? = some i →
    j < row'.channelInfo.multiKeySize →
    (row'.channelInfo.multiKeyPriority.lookup j).getD 0 =
      (row.channelInfo.multiKeyPriority.lookup i).getD 0

theorem deleted_update {kept : KeptKeys} (readOk : Bool) (stored : ChannelRow)
    (hmulti : row.channelInfo.isMultiKey = true)
    (hby : KeptBy row.channelInfo (copiesTime req row.channelInfo)
      (keyList parse row.key) (survivors parse row req) kept) :
    Deleted parse row req readOk stored
      ((withKeptKeys row.load kept).update parse readOk stored) := by
  have hmulti' : (withKeptKeys row.load kept).channelInfo.isMultiKey = true := hmulti
  have hinfo := update_channelInfo parse readOk stored hmulti'
  have htext : (withKeptKeys row.load kept).key = join '\n' (survivingKeys parse row req) :=
    congrArg (join '\n') hby.remainingKeys
  have hlookup : ∀ {ν : Type} (f : ℕ → Option ν) (j i : ℕ), (survivors parse row req)[j]? = some i →
        (survivors parse row req)[j]?.bind f = f i := by
    intro ν f j i hj
    rw [hj, bind_some]
  exact {
    key := by rw [update_key, htext]
    size := by
      intro h
      rw [hinfo]
      exact updateSize_eq parse stored (htext ▸ h)
    sizeUnread := by
      intro hempty hread
      rw [hinfo, updateSize, htext, hempty, hread]
      rfl
    status := by
      intro j i hj hlt
      rw [hinfo] at hlt ⊢
      exact getD_lookup_retain hlt ((hby.statusList j).trans (hlookup _ j i hj))
    disabledTime := by
      intro j i hj
      rw [hinfo]
      exact (hby.disabledTime j).trans (hlookup _ j i hj)
    disabledReason := by
      intro j i hj
      rw [hinfo]
      exact (hby.disabledReason j).trans (hlookup _ j i hj)
    priority := by
      intro j i hj hlt
      rw [hinfo] at hlt ⊢
      exact getD_lookup_retain hlt ((hby.priority j).trans (hlookup _ j i hj)) }

variable {readOk : Bool}

theorem Deleted.keys_of_readsBack {stored : ChannelRow}
    (h : Deleted parse row req readOk stored row')
    (hback : ReadsBack parse (survivingKeys parse row req)) :
    keyList parse row'.key = survivingKeys parse row req := by
  rw [h.key, if_neg hback.1]
  exact (keyList_join_eq_iff hback.1).mpr hback

theorem Deleted.size_of_readsBack {stored : ChannelRow}
    (h : Deleted parse row req readOk stored row')
    (hback : ReadsBack parse (survivingKeys parse row req)) :
    row'.channelInfo.multiKeySize = (survivors parse row req).length := by
  have hkeys := h.keys_of_readsBack hback
  have hne : keyList parse row'.key ≠ [] := by
    rw [hkeys]
    exact fun hnil => hback.1 (join_eq_empty_iff.mpr (.inl hnil))
  rw [h.size (.inl hback.1), countedKeys_eq_keyList parse hne, hkeys, survivingKeys, length_map]

theorem Deleted.keys_iff (h : Deleted parse row req readOk row row')
    (hsome : survivingKeys parse row req ≠ [] ∨
      (survivingKeys parse row req).length ≠ (keyList parse row.key).length) :
    keyList parse row'.key = survivingKeys parse row req ↔
      ReadsBack parse (survivingKeys parse row req) ∨
        keyList parse row.key = [""] ∧ survivingKeys parse row req = [""] := by
  by_cases hjoin : join '\n' (survivingKeys parse row req) = ""
  · have hnot : ¬ ReadsBack parse (survivingKeys parse row req) := fun h => h.1 hjoin
    rw [h.key, if_pos hjoin]
    simp only [hnot, false_or]
    rcases join_eq_empty_iff.mp hjoin with hnil | hone
    · -- No key stays, so some were deleted, and their text is still stored.
      have hdeleted := hsome.resolve_left (not_not_intro hnil)
      refine ⟨fun heq => absurd (congrArg length heq).symm hdeleted, ?_⟩
      rintro ⟨-, hone⟩
      rw [hnil] at hone
      cases hone
    · rw [hone]
      simp
  · have hne : survivingKeys parse row req ≠ [""] :=
      fun hone => hjoin (join_eq_empty_iff.mpr (.inr hone))
    rw [h.key, if_neg hjoin]
    simp only [hne, and_false, or_false]
    exact keyList_join_eq_iff hjoin

theorem deleted_of_success (haction : req.action = .deleteKey ∨ req.action = .deleteDisabledKeys)
    (hsuccess : manageMultiKeys parse (some row) req answers = (some row', .success message data)) :
    Deleted parse row req answers.readOk row row' ∧ (survivingKeys parse row req ≠ [] ∨
        (survivingKeys parse row req).length ≠ (keyList parse row.key).length) := by
  obtain ⟨hmulti, edited, hedit, rfl⟩ := manageMultiKeys_success hsuccess
  obtain ⟨rfl, hkeys⟩ := editKeys_delete haction hedit
  rw [getKeys_load, load_channelInfo] at hkeys ⊢
  have hby := keepLoop_spec row.channelInfo (targets req row.channelInfo)
    (copiesTime req row.channelInfo) (keyList parse row.key)
  have hcount := keepLoop_deletedCount row.channelInfo (targets req row.channelInfo)
    (copiesTime req row.channelInfo) (keyList parse row.key)
  refine ⟨deleted_update answers.readOk row hmulti hby, ?_⟩
  rw [survivingKeys, survivors, ← hby.remainingKeys]
  exact hkeys.imp_right fun hdeleted => by omega

theorem survivors_getElem?_of_keys {j : ℕ} {key : String}
    (h : (survivingKeys parse row req)[j]? = some key) :
    ∃ i, (survivors parse row req)[j]? = some i ∧ (keyList parse row.key)[i]? = some key := by
  rw [survivingKeys, getElem?_map, map_eq_some_iff] at h
  obtain ⟨i, hi, hkey⟩ := h
  have hlt : i < (keyList parse row.key).length :=
    mem_range.mp (mem_filter.mp (mem_of_getElem? hi)).1
  refine ⟨i, hi, ?_⟩
  rw [← hkey, getElem?_eq_getElem hlt, getD_eq_getElem _ _ hlt]

section

variable (h : Deleted parse row req answers.readOk row row')
include h

variable (hsome : survivingKeys parse row req ≠ [] ∨
  (survivingKeys parse row req).length ≠ (keyList parse row.key).length)
include hsome

theorem Deleted.metadataFollows (hsafe : DeletionSafe parse row req answers) :
    MetadataFollows parse row row' (survivors parse row req) := by
  obtain ⟨hreads, htimes⟩ := hsafe
  have hkeys : keyList parse row'.key = survivingKeys parse row req :=
    (h.keys_iff hsome).mpr (hreads.imp_right fun hone => ⟨hone.1, hone.2.1⟩)
  have hne : keyList parse row'.key ≠ [] := by
    rw [hkeys]
    rcases hreads with hback | ⟨-, hone, -⟩
    · exact fun hnil => hback.1 (join_eq_empty_iff.mpr (.inl hnil))
    · rw [hone]
      exact cons_ne_nil _ _
  have hsize : row'.channelInfo.multiKeySize = (survivors parse row req).length := by
    rw [h.size (hreads.imp (fun hback => hback.1) fun hone => hone.2.2),
      countedKeys_eq_keyList parse hne, hkeys, survivingKeys, length_map]
  have hlt : ∀ j i : ℕ, (survivors parse row req)[j]? = some i →
      j < row'.channelInfo.multiKeySize := by
    intro j i hj
    rw [hsize]
    exact (List.getElem?_eq_some_iff.mp hj).1
  -- Where the time and the reason are not copied there is none.
  have hcopied : ∀ {ν : Type} (m : GoMap ℕ ν) (i : ℕ),
      (copiesTime req row.channelInfo i = false → m.lookup i = none) →
      (if copiesTime req row.channelInfo i then m.lookup i else none) = m.lookup i := by
    intro ν m i hnone
    cases hcopies : copiesTime req row.channelInfo i with
    | true => rfl
    | false => exact (hnone hcopies).symm
  have hnone : ∀ j i : ℕ, (survivors parse row req)[j]? = some i →
      copiesTime req row.channelInfo i = false →
      row.channelInfo.multiKeyDisabledTime.lookup i = none ∧
        row.channelInfo.multiKeyDisabledReason.lookup i = none := by
    intro j i hj hcopies
    obtain ⟨haction, hon⟩ := copiesTime_eq_false_iff.mp hcopies
    exact htimes haction i (mem_of_getElem? hj) hon
  exact {
    keys := hkeys
    size := hsize
    status := fun j i hj => h.status j i hj (hlt j i hj)
    disabledTime := fun j i hj =>
      (h.disabledTime j i hj).trans (hcopied _ i fun hcopies => (hnone j i hj hcopies).1)
    disabledReason := fun j i hj =>
      (h.disabledReason j i hj).trans (hcopied _ i fun hcopies => (hnone j i hj hcopies).2)
    priority := fun j i hj => h.priority j i hj (hlt j i hj)
    stillDisabled := by
      intro key _ hdisabled j hj
      obtain ⟨i, hi, hkey⟩ := survivors_getElem?_of_keys (hkeys ▸ hj)
      rw [h.status j i hi (hlt j i hi)]
      exact hdisabled i hkey }

theorem Deleted.deletionSafe (hlaw : MetadataFollows parse row row' (survivors parse row req)) :
    DeletionSafe parse row req answers := by
  refine ⟨((h.keys_iff hsome).mp hlaw.keys).imp_right fun hone => ⟨hone.1, hone.2, ?_⟩, ?_⟩
  · -- If the stored text is not read, no key is counted.
    by_contra hread
    have hempty : join '\n' (survivingKeys parse row req) = "" :=
      join_eq_empty_iff.mpr (.inr hone.2)
    have hzero := h.sizeUnread hempty (Bool.eq_false_iff.mpr hread)
    have hlength : (survivors parse row req).length = 1 := by
      rw [← length_map fun i => (keyList parse row.key).getD i ""]
      exact congrArg length hone.2
    have hsize := hlaw.size
    omega
  · intro haction i hi hon
    obtain ⟨j, hlt, hj⟩ := getElem_of_mem hi
    have hj' : (survivors parse row req)[j]? = some i :=
      List.getElem?_eq_some_iff.mpr ⟨hlt, hj⟩
    have hcopies : copiesTime req row.channelInfo i = false :=
      copiesTime_eq_false_iff.mpr ⟨haction, hon⟩
    have htime := (h.disabledTime j i hj').symm.trans (hlaw.disabledTime j i hj')
    have hreason := (h.disabledReason j i hj').symm.trans (hlaw.disabledReason j i hj')
    rw [hcopies] at htime hreason
    exact ⟨htime.symm, hreason.symm⟩

end

/-- **Deletions.** A successful deletion leaves the keys that it does not target, in their order,
each with its status, time and reason of disabling and priority, exactly under `DeletionSafe`. -/
theorem metadata_follows_iff (haction : req.action = .deleteKey ∨ req.action = .deleteDisabledKeys)
    (hsuccess : manageMultiKeys parse (some row) req answers = (some row', .success message data)) :
    MetadataFollows parse row row' (survivors parse row req) ↔
      DeletionSafe parse row req answers := by
  obtain ⟨hdeleted, hsome⟩ := deleted_of_success haction hsuccess
  exact ⟨hdeleted.deletionSafe hsome, hdeleted.metadataFollows hsome⟩

def sampleAnswers : ManageAnswers := ⟨true, true, true, true⟩

def sampleRequest (action : MultiKeyAction) : MultiKeyManageRequest :=
  ⟨action, none, 0, 0, none, none⟩

def sampleKeyRow (key : String) (size : ℕ) (statusList : GoMap ℕ Int) : ChannelRow where
  id := 7
  key := key
  status := channelStatusEnabled
  statusReason := none
  statusTime := none
  channelInfo :=
    { isMultiKey := true
      multiKeySize := size
      multiKeyStatusList := statusList
      multiKeyDisabledReason := ∅
      multiKeyDisabledTime := ∅
      multiKeyPriority := (∅ : GoMap ℕ Int).insert 2 9
      multiKeyPollingIndex := 0
      multiKeyMode := .polling }

def sampleMixed : ChannelRow := sampleKeyRow "a\nb\nc" 3 ((∅ : GoMap ℕ Int).insert 1 3)

theorem sampleMixed_deletionSafe :
    DeletionSafe (fun _ => none) sampleMixed (sampleRequest .deleteDisabledKeys) sampleAnswers := by
  have hjson : ∀ key, jsonKeys (fun _ => none) key = none := by
    intro key
    unfold jsonKeys
    dsimp only
    split <;> rfl
  refine ⟨.inl ?_, fun _ i _ _ => ⟨rfl, rfl⟩⟩
  rw [ReadsBack, hjson]
  decide +kernel

theorem metadata_follows_sampleMixed : ∃ row' message data,
      manageMultiKeys (fun _ => none) (some sampleMixed) (sampleRequest .deleteDisabledKeys)
          sampleAnswers = (some row', .success message data) ∧
      MetadataFollows (fun _ => none) sampleMixed row'
        (survivors (fun _ => none) sampleMixed (sampleRequest .deleteDisabledKeys)) :=
  ⟨_, _, _, rfl, (metadata_follows_iff (.inr rfl) rfl).mpr sampleMixed_deletionSafe⟩

def sampleArrayText : String := "[\x7b\"k\":\n1\x7d,\x7b\"k\":2\x7d,\x7b\"k\":3\x7d]"

def sampleDecoder (text : String) : Option (List String) :=
  if text = sampleArrayText then
    some ["\x7b\"k\":\n1\x7d", "\x7b\"k\":2\x7d", "\x7b\"k\":3\x7d"]
  else none

def keysWithStatus (parse : KeyParser) (row : ChannelRow) :
    List (String × Int) :=
  (keyList parse row.key).zipIdx.map fun entry =>
    (entry.1, Model.keyStatus row.channelInfo.multiKeyStatusList entry.2)

/-- If all keys are auto-disabled, `delete_disabled_keys` succeeds, and the keys are still stored
and enabled. If an empty line or an element of an array with a line break stays, a deletion moves
the statuses to other keys: the disabled key `b` is enabled, and the disabled account is. -/
theorem deletion_enables_keys :
    let disabled := sampleKeyRow "a\nb" 2 (((∅ : GoMap ℕ Int).insert 0 3).insert 1 3)
    let blank := sampleKeyRow "a\n\nb" 3 ((∅ : GoMap ℕ Int).insert 2 2)
    let array := sampleKeyRow sampleArrayText 3 ((∅ : GoMap ℕ Int).insert 1 2)
    let first := { sampleRequest .deleteKey with keyIndex := some 0 }
    let last := { sampleRequest .deleteKey with keyIndex := some 2 }
    let clean := manageMultiKeys (fun _ => none) (some disabled)
      (sampleRequest .deleteDisabledKeys) sampleAnswers
    let cut := manageMultiKeys (fun _ => none) (some blank) first sampleAnswers
    let joined := manageMultiKeys sampleDecoder (some array) last sampleAnswers
    clean.2 = .success "已删除 2 个自动禁用的密钥" (some 2) ∧
      clean.1.map (keysWithStatus fun _ => none) = some [("a", 1), ("b", 1)] ∧
      keysWithStatus (fun _ => none) blank = [("a", 1), ("", 1), ("b", 2)] ∧
      cut.2 = .success "密钥已删除" none ∧
      cut.1.map (keysWithStatus fun _ => none) = some [("b", 1)] ∧
      joined.2 = .success "密钥已删除" none ∧
      joined.1.map (keysWithStatus sampleDecoder) =
        some [("\x7b\"k\":", 1), ("1\x7d", 2), ("\x7b\"k\":2\x7d", 1)] := by
  decide +kernel

end NewApi.Controller
