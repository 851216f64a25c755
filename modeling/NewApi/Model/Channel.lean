import Mathlib.Data.List.GetD
import Mathlib.Data.List.MinMax
import NewApi.Foundation.GoMap
import NewApi.Foundation.GoText
import NewApi.Foundation.RoundRobin

/-!
# Channels with several keys

A channel holds one key, or a list of keys in one text column. The status of each key, the reason
and time of its disabling and its priority are sparse maps from the index of the key, kept together
with the cursor of the polling mode in one JSON column `channel_info`. A key without an entry is
enabled.

The elements of a JSON array of keys are what `json.Unmarshal` into raw messages gives; the decoder
is the parameter `parse`.

Sources: `model/channel.go` and `common/constants.go`.
-/

namespace NewApi.Model

open List Except Prod

/-! ### The stored columns -/

def channelStatusUnknown : Int := 0

def channelStatusEnabled : Int := 1

def channelStatusManuallyDisabled : Int := 2

def channelStatusAutoDisabled : Int := 3

inductive MultiKeyMode
  | random
  | polling
  | other (name : String)
  deriving DecidableEq, Repr

/-- The column `channel_info`. The maps are indexed by the position of a key. -/
structure ChannelInfo where
  isMultiKey : Bool
  multiKeySize : ℕ
  multiKeyStatusList : GoMap ℕ Int
  multiKeyDisabledReason : GoMap ℕ String
  multiKeyDisabledTime : GoMap ℕ Int
  multiKeyPriority : GoMap ℕ Int
  multiKeyPollingIndex : Int
  multiKeyMode : MultiKeyMode

def ChannelInfo.isZero (info : ChannelInfo) : Bool :=
  !info.isMultiKey && info.multiKeySize == 0 && info.multiKeyStatusList.len == 0 &&
    info.multiKeyDisabledReason.len == 0 && info.multiKeyDisabledTime.len == 0 &&
    info.multiKeyPriority.len == 0 && info.multiKeyPollingIndex == 0 &&
    info.multiKeyMode == .other ""

/-- The columns of a row of `channels` that the keys and the status live in. `statusReason` and
`statusTime` are the two entries of the JSON column `other_info` that a change of status writes. -/
structure ChannelRow where
  id : Int
  key : String
  status : Int
  statusReason : Option String
  statusTime : Option Int
  channelInfo : ChannelInfo

/-- A channel in memory. `keys` is filled only for the channels of the memory cache. -/
structure Channel extends ChannelRow where
  keys : List String

/-- The channel that a read of the row gives.

Lines 715–727 (`GetChannelById`). -/
def ChannelRow.load (row : ChannelRow) : Channel := { row with keys := [] }

@[simp] theorem load_channelInfo (row : ChannelRow) : row.load.channelInfo = row.channelInfo := rfl

/-! ### The keys -/

open Channel

/-- The JSON decoder, which reads a key column as an array. -/
abbrev KeyParser := String → Option (List String)

section

variable (parse : KeyParser)

def jsonKeys (key : String) : Option (List String) :=
  let trimmed := GoText.trimSpace key
  if trimmed.toList.head? = some '[' then parse trimmed else none

def lineKeys (key : String) : List String := GoText.split '\n' (GoText.trim '\n' key)

def keyList (key : String) : List String :=
  if key = "" then []
  else (jsonKeys parse key).getD (lineKeys key)

def Channel.getKeys (ch : Channel) : List String :=
  if ch.key = "" then []
  else if ch.keys ≠ [] then ch.keys
  else keyList parse ch.key

@[simp] theorem getKeys_load (row : ChannelRow) :
    row.load.getKeys parse = keyList parse row.key := by
  by_cases hkey : row.key = "" <;> simp [getKeys, keyList, ChannelRow.load, hkey]

end

/-! ### The key of a request -/

def keyStatus (statusList : GoMap ℕ Int) (idx : ℕ) : Int :=
  (statusList.lookup idx).getD channelStatusEnabled

def enabledIndexes (keys : List String) (statusList : GoMap ℕ Int) : List ℕ :=
  (List.range keys.length).filter fun idx => keyStatus statusList idx = channelStatusEnabled

def keyTier (priority : GoMap ℕ Int) (idx : ℕ) : Int :=
  let p := (priority.lookup idx).getD 0
  if p > 0 then p else 0

/-- The highest tier among the indexes, and whether one is above the default tier. -/
def maxPriority (priority : GoMap ℕ Int) (idxs : List ℕ) : Int × Bool :=
  idxs.foldl (fun (best, tiered) idx =>
    if keyTier priority idx > best then (keyTier priority idx, true) else (best, tiered)) (0, false)

/-- The enabled indexes that serve: those of the highest tier. -/
def topTier (priority : GoMap ℕ Int) (enabledIdx : List ℕ) : List ℕ :=
  if priority.len = 0 then enabledIdx
  else
    let (best, tiered) := maxPriority priority enabledIdx
    if tiered then enabledIdx.filter fun idx => keyTier priority idx = best else enabledIdx

inductive KeyError
  | noKeysAvailable
  | noEnabledKeys
  | getChannelFailed
  deriving DecidableEq, Repr

/-- What a call of `GetNextEnabledKey` returns, the channel that the caller then holds, and whether
its `channel_info` is saved. -/
structure KeyChoice where
  result : Except KeyError (String × ℕ)
  channel : Channel
  saves : Bool

/-- The next index of the polling mode: the first one of the tier from the cursor on. -/
def pollIndex (start : ℕ) (keys : List String) (statusList : GoMap ℕ Int) (tier : List ℕ) :
    Option ℕ :=
  ((List.range keys.length).map fun i => (start + i) % keys.length).find? fun idx =>
    keyStatus statusList idx = channelStatusEnabled ∧ idx ∈ tier

def pollStart (cursor : Int) (keys : List String) : ℕ :=
  if cursor < 0 ∨ cursor ≥ keys.length then 0 else cursor.toNat

/-- `stored` is the answer of `CacheGetChannelInfo`, and `draw` the random number of the random
mode. The tier of a list that is not empty is not empty (`topTier_ne_nil`). -/
def Channel.getNextEnabledKey (parse : KeyParser)
    (memoryCacheEnabled : Bool) (stored : Option ChannelInfo) (draw : ℕ) (ch : Channel) :
    KeyChoice :=
  let info := ch.channelInfo
  if !info.isMultiKey then ⟨.ok (ch.key, 0), ch, false⟩
  else
    let keys := ch.getKeys parse
    if keys = [] then ⟨.error .noKeysAvailable, ch, false⟩
    else
      let enabledIdx := enabledIndexes keys info.multiKeyStatusList
      match enabledIdx, topTier info.multiKeyPriority enabledIdx with
      | [], _ => ⟨.error .noEnabledKeys, ch, false⟩
      | _, [] => ⟨.error .noEnabledKeys, ch, false⟩
      | _, first :: rest =>
        let tier := first :: rest
        match info.multiKeyMode with
        | .random =>
          let idx := tier.getD (draw % tier.length) first
          ⟨.ok (keys.getD idx "", idx), ch, false⟩
        | .polling =>
          match stored with
          | none => ⟨.error .getChannelFailed, ch, false⟩
          | some storedInfo =>
            let start := pollStart storedInfo.multiKeyPollingIndex keys
            match pollIndex start keys info.multiKeyStatusList tier with
            | some idx =>
              let cursor : Int := ((idx + 1) % keys.length : ℕ)
              ⟨.ok (keys.getD idx "", idx),
                { ch with channelInfo := { info with multiKeyPollingIndex := cursor } },
                !memoryCacheEnabled⟩
            | none => ⟨.ok (keys.getD first "", first), ch, !memoryCacheEnabled⟩
        | .other _ => ⟨.ok (keys.getD first "", first), ch, false⟩

variable {idx : ℕ} {statusList priority : GoMap ℕ Int} {keys : List String}

theorem mem_enabledIndexes : idx ∈ enabledIndexes keys statusList ↔
      idx < keys.length ∧ keyStatus statusList idx = channelStatusEnabled := by
  simp [enabledIndexes]

theorem keyTier_nonneg (priority : GoMap ℕ Int) (idx : ℕ) : 0 ≤ keyTier priority idx := by
  unfold keyTier
  dsimp only
  split <;> omega

private theorem maxPriority_foldl (priority : GoMap ℕ Int) (idxs : List ℕ) (acc : Int × Bool) :
    let found := idxs.foldl (fun (best, tiered) idx =>
      if keyTier priority idx > best then (keyTier priority idx, true) else (best, tiered)) acc
    acc.1 ≤ found.1 ∧ (∀ idx ∈ idxs, keyTier priority idx ≤ found.1) ∧
      (found = acc ∨ found.2 = true ∧ ∃ idx ∈ idxs, keyTier priority idx = found.1) := by
  induction idxs generalizing acc with
  | nil => simp
  | cons idx idxs ih =>
    rw [foldl_cons]
    dsimp only
    split
    next hgt =>
      obtain ⟨hle, hall, hfound⟩ := ih (keyTier priority idx, true)
      dsimp only at hle
      refine ⟨by omega, forall_mem_cons.mpr ⟨hle, hall⟩, .inr ?_⟩
      rcases hfound with hacc | ⟨htiered, i, hi, htier⟩
      · rw [hacc]
        exact ⟨rfl, idx, mem_cons_self, rfl⟩
      · exact ⟨htiered, i, mem_cons_of_mem _ hi, htier⟩
    next hgt =>
      obtain ⟨hle, hall, hfound⟩ := ih (acc.1, acc.2)
      dsimp only at hle
      refine ⟨hle, forall_mem_cons.mpr ⟨by omega, hall⟩, hfound.imp_right ?_⟩
      rintro ⟨htiered, i, hi, htier⟩
      exact ⟨htiered, i, mem_cons_of_mem _ hi, htier⟩

/-- **The serving tier.** The indexes that serve are the enabled ones of the highest tier. -/
theorem mem_topTier {enabledIdx : List ℕ} : idx ∈ topTier priority enabledIdx ↔
      idx ∈ enabledIdx ∧ ∀ i ∈ enabledIdx, keyTier priority i ≤ keyTier priority idx := by
  unfold topTier
  split
  next hlen =>
    have hzero : ∀ i, keyTier priority i = 0 := by
      simp [keyTier, GoMap.lookup_eq_none_of_len_eq_zero hlen]
    simp [hzero]
  have hfold := maxPriority_foldl priority enabledIdx (0, false)
  rw [← maxPriority] at hfold
  rcases hmax : maxPriority priority enabledIdx with ⟨best, tiered⟩
  rw [hmax] at hfold
  obtain ⟨-, hall, hfound⟩ := hfold
  dsimp only at hall hfound
  rcases hfound with hacc | ⟨rfl, i, hi, htier⟩
  · -- No index is above the default tier, so all are in it.
    obtain ⟨rfl, rfl⟩ := mk.inj hacc
    refine ⟨fun hidx => ⟨hidx, fun i hi => ?_⟩, And.left⟩
    exact (hall i hi).trans (keyTier_nonneg priority idx)
  · simp only [if_true, mem_filter, decide_eq_true_eq]
    refine and_congr_right fun hidx => ⟨?_, fun hle => ?_⟩
    · rintro rfl
      exact hall
    · exact le_antisymm (hall idx hidx) (htier ▸ hle i hi)

theorem topTier_subset (priority : GoMap ℕ Int) (enabledIdx : List ℕ) :
    topTier priority enabledIdx ⊆ enabledIdx := fun _ hidx => (mem_topTier.mp hidx).1

theorem topTier_ne_nil {enabledIdx : List ℕ} (h : enabledIdx ≠ []) :
    topTier priority enabledIdx ≠ [] := by
  rcases hmax : enabledIdx.argmax (keyTier priority) with - | idx
  · exact absurd (argmax_eq_none.mp hmax) h
  · exact ne_nil_of_mem (mem_topTier.mpr ⟨argmax_mem hmax, fun i hi => le_of_mem_argmax hi hmax⟩)

theorem pollIndex_mem {start : ℕ} {tier : List ℕ}
    (h : pollIndex start keys statusList tier = some idx) : idx ∈ tier := by
  have hfound := find?_some h
  simp only [decide_eq_true_eq] at hfound
  exact hfound.2

section

variable {parse : KeyParser} {memoryCacheEnabled : Bool}
  {stored : Option ChannelInfo} {draw : ℕ} {ch : Channel}

private theorem getD_eq_of_mem_tier (h : idx ∈ topTier priority (enabledIndexes keys statusList)) :
    keys[idx]? = some (keys.getD idx "") ∧
      idx ∈ topTier priority (enabledIndexes keys statusList) := by
  obtain ⟨hlt, -⟩ := mem_enabledIndexes.mp (topTier_subset _ _ h)
  refine ⟨?_, h⟩
  rw [getD_eq_getElem?_getD, getElem?_eq_getElem hlt, Option.getD_some]

section

variable (hmulti : ch.channelInfo.isMultiKey)
include hmulti

/-- **What is served.** The index that a channel with several keys serves is in the highest tier of
its enabled keys. -/
theorem getNextEnabledKey_ok {key : String}
    (h : (ch.getNextEnabledKey parse memoryCacheEnabled stored draw).result = .ok (key, idx)) :
    (ch.getKeys parse)[idx]? = some key ∧ idx ∈ topTier ch.channelInfo.multiKeyPriority
        (enabledIndexes (ch.getKeys parse) ch.channelInfo.multiKeyStatusList) := by
  unfold getNextEnabledKey at h
  simp only [hmulti, Bool.not_true, Bool.false_eq_true, if_false] at h
  split at h
  · cases h
  split at h
  · cases h
  · cases h
  rename_i first rest htier _
  have htop : ∀ i ∈ first :: rest, _ := fun i hi => getD_eq_of_mem_tier (htier ▸ hi)
  split at h
  · -- The draw picks an index of the tier.
    obtain ⟨rfl, rfl⟩ := mk.inj (ok.inj h)
    apply htop
    have hlt : draw % (first :: rest).length < (first :: rest).length :=
      Nat.mod_lt _ (Nat.succ_pos _)
    rw [getD_eq_getElem _ _ hlt]
    exact getElem_mem hlt
  · split at h
    · cases h
    split at h
    next idx' hpoll =>
      obtain ⟨rfl, rfl⟩ := mk.inj (ok.inj h)
      exact htop _ (pollIndex_mem hpoll)
    · obtain ⟨rfl, rfl⟩ := mk.inj (ok.inj h)
      exact htop _ mem_cons_self
  · obtain ⟨rfl, rfl⟩ := mk.inj (ok.inj h)
    exact htop _ mem_cons_self

theorem getNextEnabledKey_noEnabledKeys_iff :
    (ch.getNextEnabledKey parse memoryCacheEnabled stored draw).result = .error .noEnabledKeys ↔
      ch.getKeys parse ≠ [] ∧ enabledIndexes (ch.getKeys parse)
        ch.channelInfo.multiKeyStatusList = [] := by
  fun_cases getNextEnabledKey parse memoryCacheEnabled stored draw ch with
  | case1 _ info hsingle => simp [info, hmulti] at hsingle
  | case2 _ info _ keys hkeys => simp [show ch.getKeys parse = [] from hkeys]
  | case3 _ info _ keys hkeys enabledIdx hnil => simpa using ⟨hkeys, hnil⟩
  | case4 _ info _ keys _ enabledIdx htier hnil => exact absurd htier (topTier_ne_nil hnil)
  | _ =>
    rename_i hnil
    exact iff_of_false (by simp) fun h => hnil h.2

theorem exists_getNextEnabledKey_ok {name : String}
    (hmode : ch.channelInfo.multiKeyMode = .other name)
    (hon : enabledIndexes (ch.getKeys parse) ch.channelInfo.multiKeyStatusList ≠ []) :
    ∃ key idx, (ch.getNextEnabledKey parse memoryCacheEnabled stored draw).result =
      .ok (key, idx) := by
  have hkeys : ch.getKeys parse ≠ [] := by
    intro hnil
    simp [hnil, enabledIndexes] at hon
  unfold getNextEnabledKey
  simp only [hmulti, Bool.not_true, Bool.false_eq_true, if_false, if_neg hkeys, hmode]
  split
  next hnil => exact absurd hnil hon
  next htier _ => exact absurd htier (topTier_ne_nil hon)
  · exact ⟨_, _, rfl⟩

end

theorem getNextEnabledKey_channel :
    ∃ cursor, (ch.getNextEnabledKey parse memoryCacheEnabled stored draw).channel = { ch with
        channelInfo := { ch.channelInfo with multiKeyPollingIndex := cursor } } := by
  fun_cases getNextEnabledKey parse memoryCacheEnabled stored draw ch with
  | case7 => exact ⟨_, rfl⟩
  | _ => exact ⟨ch.channelInfo.multiKeyPollingIndex, rfl⟩

theorem multiKeyMode_of_saves
    (h : (ch.getNextEnabledKey parse memoryCacheEnabled stored draw).saves = true) :
    ch.channelInfo.multiKeyMode = .polling := by
  revert h
  fun_cases getNextEnabledKey parse memoryCacheEnabled stored draw ch <;> intro h
  all_goals first | cases h | assumption

/-! ### Polling -/

/-- Calls of `GetNextEnabledKey` one after another on a channel of the memory cache, whose stored
cursor is that of the channel itself. Each call has its random number. -/
def Channel.serveKeys (parse : KeyParser) :
    List ℕ → Channel → List (Except KeyError (String × ℕ))
  | [], _ => []
  | draw :: draws, ch =>
    let choice := ch.getNextEnabledKey parse true (some ch.channelInfo) draw
    choice.result :: serveKeys parse draws choice.channel

def Channel.turns (parse : KeyParser) (ch : Channel) : List ℕ :=
  let keys := ch.getKeys parse
  let info := ch.channelInfo
  ((List.range keys.length).rotate (pollStart info.multiKeyPollingIndex keys)).filter fun idx =>
    keyStatus info.multiKeyStatusList idx = channelStatusEnabled ∧
      idx ∈ topTier info.multiKeyPriority (enabledIndexes keys info.multiKeyStatusList)

theorem range_filter_topTier (priority : GoMap ℕ Int) (keys : List String)
    (statusList : GoMap ℕ Int) :
    ((List.range keys.length).filter fun idx => keyStatus statusList idx = channelStatusEnabled ∧
      idx ∈ topTier priority (enabledIndexes keys statusList)) =
        topTier priority (enabledIndexes keys statusList) := by
  have hfilter : ∃ q : ℕ → Bool, topTier priority (enabledIndexes keys statusList) =
      (range keys.length).filter q := by
    rw [topTier]
    split
    · exact ⟨_, rfl⟩
    dsimp only
    split
    · exact ⟨_, filter_filter⟩
    · exact ⟨_, rfl⟩
  obtain ⟨q, hq⟩ := hfilter
  have hmem (idx : ℕ) : idx ∈ topTier priority (enabledIndexes keys statusList) ↔
      idx < keys.length ∧ q idx = true := by
    rw [hq, mem_filter, mem_range]
  conv_rhs => rw [hq]
  refine filter_congr fun idx hidx => ?_
  rw [Bool.eq_iff_iff, decide_eq_true_iff]
  constructor
  · rintro ⟨-, htier⟩
    exact ((hmem idx).mp htier).2
  · intro hserves
    have htier := (hmem idx).mpr ⟨mem_range.mp hidx, hserves⟩
    exact ⟨(mem_enabledIndexes.mp (topTier_subset _ _ htier)).2, htier⟩

/-- **Step.** A call in the polling mode serves the first index in turn, which becomes the last. -/
theorem getNextEnabledKey_polling (hmulti : ch.channelInfo.isMultiKey)
    (hmode : ch.channelInfo.multiKeyMode = .polling) (draw : ℕ) {rest : List ℕ}
    (hturns : ch.turns parse = idx :: rest) :
    let choice := ch.getNextEnabledKey parse true (some ch.channelInfo) draw
    choice.result = .ok ((ch.getKeys parse).getD idx "", idx) ∧
      choice.channel.channelInfo.isMultiKey ∧
      choice.channel.channelInfo.multiKeyMode = .polling ∧
      choice.channel.getKeys parse = ch.getKeys parse ∧
      choice.channel.turns parse = rest ++ [idx] := by
  obtain ⟨hfind, hnext⟩ := RoundRobin.find?_ring hturns
  have hidx : idx ∈ topTier ch.channelInfo.multiKeyPriority
      (enabledIndexes (ch.getKeys parse) ch.channelInfo.multiKeyStatusList) := by
    have hmem : idx ∈ ch.turns parse := hturns ▸ mem_cons_self
    exact (of_decide_eq_true (mem_filter.mp hmem).2).2
  have hlt := (mem_enabledIndexes.mp (topTier_subset _ _ hidx)).1
  have hkeys : ch.getKeys parse ≠ [] := ne_nil_of_length_pos (by omega)
  have hpoll : pollIndex (pollStart ch.channelInfo.multiKeyPollingIndex
      (ch.getKeys parse)) (ch.getKeys parse)
      ch.channelInfo.multiKeyStatusList (topTier ch.channelInfo.multiKeyPriority
        (enabledIndexes (ch.getKeys parse) ch.channelInfo.multiKeyStatusList)) =
      some idx := by
    rw [pollIndex, RoundRobin.map_eq_rotate]
    exact hfind
  have hcursor : pollStart (((idx + 1) % (ch.getKeys parse).length : ℕ) : Int)
      (ch.getKeys parse) = (idx + 1) % (ch.getKeys parse).length := by
    have := Nat.mod_lt (idx + 1) (by omega : 0 < (ch.getKeys parse).length)
    rw [pollStart, if_neg (by omega), Int.toNat_natCast]
  rw [getNextEnabledKey]
  simp only [hmulti, Bool.not_true, Bool.false_eq_true, if_false, if_neg hkeys, hmode]
  split
  next hnil => simp [hnil, topTier] at hidx
  next htier _ =>
    rw [htier] at hidx
    cases hidx
  rename_i htier _
  rw [htier] at hpoll
  simp only [hpoll]
  refine ⟨True.intro, True.intro, True.intro, rfl, ?_⟩
  change filter _ ((range (ch.getKeys parse).length).rotate (pollStart
    (((idx + 1) % (ch.getKeys parse).length : ℕ) : Int)
    (ch.getKeys parse))) = _
  rw [hcursor]
  exact hnext

/-- **Run.** As long as no index has its second turn, the calls serve the indexes in turn. -/
theorem serveKeys_eq_take (hmulti : ch.channelInfo.isMultiKey)
    (hmode : ch.channelInfo.multiKeyMode = .polling) (draws : List ℕ)
    (hlen : draws.length ≤ (ch.turns parse).length) :
    ch.serveKeys parse draws = ((ch.turns parse).take draws.length).map
      fun idx => .ok ((ch.getKeys parse).getD idx "", idx) := by
  induction draws generalizing ch with
  | nil => rfl
  | cons draw draws ih =>
    rcases hturns : ch.turns parse with - | ⟨idx, rest⟩
    · rw [hturns] at hlen
      cases hlen
    rw [hturns, length_cons, length_cons] at hlen
    obtain ⟨hserved, hmulti', hmode', hkeys', hturns'⟩ :=
      getNextEnabledKey_polling hmulti hmode draw hturns
    have hrest := ih hmulti' hmode' (by rw [hturns', length_append]; omega)
    rw [hturns', hkeys', take_append_of_le_length (by omega)] at hrest
    exact congrArg₂ cons hserved hrest

/-- **Fair polling.** A polling channel of the memory cache serves an enabled key of the highest
tier, and as many calls as that tier has keys serve each of them once, in cyclic order, whatever the
cursor was. -/
theorem fair_polling (hmulti : ch.channelInfo.isMultiKey)
    (hmode : ch.channelInfo.multiKeyMode = .polling)
    (hkeys : ch.getKeys parse ≠ []) :
    let info := ch.channelInfo
    let keys := ch.getKeys parse
    let enabledIdx := enabledIndexes keys info.multiKeyStatusList
    let tier := (range keys.length).filter fun idx => idx ∈ enabledIdx ∧
      ∀ i ∈ enabledIdx, keyTier info.multiKeyPriority i ≤ keyTier info.multiKeyPriority idx
    let choice := ch.getNextEnabledKey parse true (some info) draw
    (enabledIdx = [] → choice.result = .error .noEnabledKeys) ∧
      (enabledIdx ≠ [] → ∃ key, ∃ idx ∈ tier, keys[idx]? = some key ∧
        choice.result = .ok (key, idx)) ∧
      ∃ k, ∀ draws : List ℕ, draws.length = tier.length → ch.serveKeys parse draws =
          (tier.rotate k).map fun idx => .ok (keys.getD idx "", idx) := by
  intro info keys enabledIdx tier choice
  have htier : tier = topTier info.multiKeyPriority enabledIdx := by
    rw [← range_filter_topTier]
    refine filter_congr fun idx _ => decide_eq_decide.mpr ?_
    rw [mem_topTier, mem_enabledIndexes]
    tauto
  obtain ⟨k, hturns⟩ : ∃ k, ch.turns parse = tier.rotate k := by
    rw [htier, ← range_filter_topTier]
    exact RoundRobin.filter_rotate _ _
  refine ⟨fun hnone => ?_, fun hsome => ?_, k, fun draws hlen => ?_⟩
  · change enabledIndexes (ch.getKeys parse) ch.channelInfo.multiKeyStatusList = [] at hnone
    simp [choice, getNextEnabledKey, hmulti, hkeys, hnone]
  · rcases hfirst : ch.turns parse with - | ⟨idx, rest⟩
    · rw [hturns, rotate_eq_nil_iff, htier] at hfirst
      exact absurd hfirst (topTier_ne_nil hsome)
    · have hserved := (getNextEnabledKey_polling hmulti hmode draw hfirst).1
      have hidx : idx ∈ tier := mem_rotate.mp (hturns ▸ hfirst ▸ mem_cons_self)
      exact ⟨_, idx, hidx, (getNextEnabledKey_ok hmulti hserved).1, hserved⟩
  · have hall : draws.length = (ch.turns parse).length := by
      rw [hturns, length_rotate, hlen]
    rw [serveKeys_eq_take hmulti hmode draws hall.le, hall, take_length, hturns]

def samplePolling : Channel where
  id := 1
  key := "a\nb\nc\nd"
  status := channelStatusEnabled
  statusReason := none
  statusTime := none
  channelInfo :=
    { isMultiKey := true
      multiKeySize := 4
      multiKeyStatusList := AList.insert 1 channelStatusAutoDisabled ∅
      multiKeyDisabledReason := ∅
      multiKeyDisabledTime := ∅
      multiKeyPriority := ∅
      multiKeyPollingIndex := 9
      multiKeyMode := .polling }
  keys := ["a", "b", "c", "d"]

/-- The disabled key `b` is skipped, and the cursor 9 is reset. -/
theorem fair_polling_samplePolling : ∃ k, ∀ draws : List ℕ, draws.length = 3 →
    samplePolling.serveKeys (fun _ => none) draws =
      ([0, 2, 3].rotate k).map fun idx => .ok (["a", "b", "c", "d"].getD idx "", idx) :=
  (@fair_polling (fun _ => none) 0 samplePolling rfl rfl (by decide)).2.2

end

/-! ### Updates of the whole channel -/

variable (parse : KeyParser)

/-- The keys that `Update` counts: unlike `GetKeys` it splits an empty JSON array into lines. -/
def countedKeys (keyStr : String) : List String :=
  if keyStr = "" then []
  else
    match jsonKeys parse keyStr with
    | some (key :: keys) => key :: keys
    | some [] | none => lineKeys keyStr

/-- The channel with the number of its keys counted anew, and without the statuses and priorities
beyond it. `existing` is the stored key text that is read if the channel has none. -/
def Channel.recount (existing : Option String) (ch : Channel) : Channel :=
  if !ch.channelInfo.isMultiKey then ch
  else
    let keyStr := if ch.key ≠ "" then ch.key else existing.getD ""
    let size := (countedKeys parse keyStr).length
    let info := ch.channelInfo
    { ch with
      channelInfo := { info with
        multiKeySize := size
        multiKeyStatusList := info.multiKeyStatusList.retain (· < size)
        multiKeyPriority := info.multiKeyPriority.retain (· < size) } }

/-- The row after `Updates` with a struct: a field with the zero value is skipped. -/
def ChannelRow.updates (stored : ChannelRow) (ch : Channel) : ChannelRow where
  id := stored.id
  key := if ch.key = "" then stored.key else ch.key
  status := if ch.status = 0 then stored.status else ch.status
  statusReason :=
    if ch.statusReason = none ∧ ch.statusTime = none then stored.statusReason
    else ch.statusReason
  statusTime :=
    if ch.statusReason = none ∧ ch.statusTime = none then stored.statusTime
    else ch.statusTime
  channelInfo := if ch.channelInfo.isZero then stored.channelInfo else ch.channelInfo

/-- The row after `Update`. `readOk` is whether the stored key text can be read. -/
def Channel.update (readOk : Bool) (ch : Channel) (stored : ChannelRow) : ChannelRow :=
  stored.updates (ch.recount parse (if readOk then some stored.key else none))

def updateSize (readOk : Bool) (ch : Channel) (stored : ChannelRow) : ℕ :=
  (countedKeys parse (if ch.key ≠ "" then ch.key
    else if readOk then stored.key else "")).length

@[simp] theorem update_key (readOk : Bool) (ch : Channel) (stored : ChannelRow) :
    (ch.update parse readOk stored).key =
      if ch.key = "" then stored.key else ch.key := by
  unfold update recount
  split <;> rfl

theorem updateSize_eq {readOk : Bool} {ch : Channel} (stored : ChannelRow)
    (h : ch.key ≠ "" ∨ readOk = true) :
    updateSize parse readOk ch stored =
      (countedKeys parse (ch.update parse readOk stored).key).length := by
  rw [updateSize]
  by_cases hkey : ch.key = ""
  · simp [h.resolve_left (not_not_intro hkey)]
  · simp [hkey]

theorem countedKeys_eq_keyList {key : String} (h : keyList parse key ≠ []) :
    countedKeys parse key = keyList parse key := by
  by_cases hkey : key = ""
  · simp [countedKeys, keyList, if_pos hkey]
  simp only [keyList, if_neg hkey] at h
  simp only [countedKeys, keyList]
  rcases hjson : jsonKeys parse key with - | elements
  · rw [Option.getD_none]
  rw [hjson] at h
  rw [Option.getD_some]
  cases elements with
  | nil => exact absurd rfl h
  | cons first rest => dsimp only

theorem update_channelInfo (readOk : Bool) {ch : Channel} (stored : ChannelRow)
    (hmulti : ch.channelInfo.isMultiKey = true) :
    (ch.update parse readOk stored).channelInfo = { ch.channelInfo with
        multiKeySize := updateSize parse readOk ch stored
        multiKeyStatusList := ch.channelInfo.multiKeyStatusList.retain
          (· < updateSize parse readOk ch stored)
        multiKeyPriority := ch.channelInfo.multiKeyPriority.retain
          (· < updateSize parse readOk ch stored) } := by
  have hkeyStr : (if readOk then some stored.key else none).getD "" =
      if readOk then stored.key else "" := by
    cases readOk <;> rfl
  have hrecount : ch.recount parse (if readOk then some stored.key else none) = { ch with
        channelInfo := { ch.channelInfo with
          multiKeySize := updateSize parse readOk ch stored
          multiKeyStatusList := ch.channelInfo.multiKeyStatusList.retain
            (· < updateSize parse readOk ch stored)
          multiKeyPriority := ch.channelInfo.multiKeyPriority.retain
            (· < updateSize parse readOk ch stored) } } := by
    rw [recount, if_neg (by simp [hmulti]), hkeyStr]
    rfl
  rw [update, hrecount, ChannelRow.updates]
  simp [ChannelInfo.isZero, hmulti]

def Channel.saveChannelInfo (ch : Channel) (stored : ChannelRow) : ChannelRow :=
  { stored with channelInfo := ch.channelInfo }

def Channel.saveStatusState (ch : Channel) (stored : ChannelRow) : Option ChannelRow :=
  if ch.id = 0 then none
  else some { stored with
    status := ch.status
    statusReason := ch.statusReason
    statusTime := ch.statusTime
    channelInfo :=
      if ch.channelInfo.isMultiKey then ch.channelInfo else stored.channelInfo }

end NewApi.Model
