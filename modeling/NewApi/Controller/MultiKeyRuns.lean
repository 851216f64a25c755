import NewApi.Controller.MultiKey
import NewApi.Model.ChannelStatus

/-!
# Writers of the keys of one channel

Three writers store the column `channel_info` of a channel as a whole: `UpdateChannelStatus`, the
actions of `ManageMultiKeys` and, in the polling mode, `GetNextEnabledKey`, which saves its cursor.
The part of each of them under the lock of the channel runs without an interleaving and is one step
here. `UpdateChannelStatus` reads the row in this part; the other two work on a copy that the caller
has loaded before, at any time.
-/

namespace NewApi.Controller

open Model StepSystem Option

/-! ### The steps -/

structure KeyState where
  row : ChannelRow
  copies : List ChannelRow

/-- A step: a caller loads the row; a call of `UpdateChannelStatus`; an action of `ManageMultiKeys`
on a copy; a call of `GetNextEnabledKey` on a copy, with the answers of the database and the random
number. -/
inductive KeyEvent
  | load
  | updateStatus (call : StatusCall)
  | manage (copy : ℕ) (req : MultiKeyManageRequest) (answers : ManageAnswers)
  | serve (copy : ℕ) (readOk saveOk : Bool) (draw : ℕ)

variable (parse : KeyParser)

def statusRow (row : ChannelRow) (call : StatusCall) : ChannelRow :=
  ((updateChannelStatus parse
    { memoryCacheEnabled := false, cached := none, row := some row, abilities := [] }
    call).1.row).getD row

def serveCopy (row copy : ChannelRow) (readOk : Bool) (draw : ℕ) : KeyChoice :=
  copy.load.getNextEnabledKey parse false (if readOk then some row.channelInfo else none) draw

def keyStep (s : KeyState) : KeyEvent → KeyState
  | .load => { s with copies := s.copies ++ [s.row] }
  | .updateStatus call => { s with row := statusRow parse s.row call }
  | .manage copy req answers =>
    match s.copies[copy]? with
    | none => s
    | some ch =>
      { s with row := (manageLoaded parse ch.load req answers s.row).1 }
  | .serve copy readOk saveOk draw =>
    match s.copies[copy]? with
    | none => s
    | some ch =>
      let choice := serveCopy parse s.row ch readOk draw
      { row := if choice.saves && saveOk then choice.channel.saveChannelInfo s.row else s.row
        copies := s.copies.set copy choice.channel.toChannelRow }

/-! ### The status of a key -/

def KeyDisabled (row : ChannelRow) (key : String) : Prop :=
  key ∈ keyList parse row.key ∧
    ∀ idx, (keyList parse row.key)[idx]? = some key →
      Model.keyStatus row.channelInfo.multiKeyStatusList idx ≠ channelStatusEnabled

def KeyEnabled (row : ChannelRow) (key : String) : Prop :=
  ∃ idx, (keyList parse row.key)[idx]? = some key ∧
    Model.keyStatus row.channelInfo.multiKeyStatusList idx = channelStatusEnabled

def AsksToEnable (s : KeyState) (key : String) : KeyEvent → Prop
  | .load | .serve _ _ _ _ => False
  | .updateStatus call => call.usingKey = key ∧ call.status = channelStatusEnabled
  | .manage copy req _ =>
    req.action = .enableAllKeys ∨
      req.action = .enableKey ∧ ∃ ch ∈ s.copies[copy]?, ∃ idx : ℕ,
        req.keyIndex = some idx ∧ (keyList parse ch.key)[idx]? = some key

/-- The copy has the stored key text, and no key enabled that is disabled in the stored row. -/
def UpToDate (row copy : ChannelRow) : Prop :=
  copy.key = row.key ∧ ∀ key, KeyDisabled parse row key → ¬ KeyEnabled parse copy key

/-- The condition on the state before a step: a request that stores an edit, or a call in the
polling mode, has an up-to-date copy, and the keys that a deletion leaves are read back from their
joined text. -/
def FreshCopy (s : KeyState) : KeyEvent → Prop
  | .load | .updateStatus _ => True
  | .manage copy req _ =>
    ∀ ch ∈ s.copies[copy]?, ∀ edited message data,
      editKeys parse ch.load req = .store edited message data →
      match req.action with
      | .getKeyStatus | .enableAllKeys | .other _ => True
      | .disableKey | .enableKey | .disableAllKeys | .setKeyPriority =>
        UpToDate parse s.row ch
      | .deleteKey | .deleteDisabledKeys =>
        UpToDate parse s.row ch ∧
          ReadsBack parse (survivingKeys parse ch req)
  | .serve copy _ _ _ =>
    ∀ ch ∈ s.copies[copy]?, ch.channelInfo.multiKeyMode = .polling →
      UpToDate parse s.row ch

/-! ### What the writers store -/

variable {parse} {row row' copy : ChannelRow} {req : MultiKeyManageRequest}
  {answers : ManageAnswers} {key : String}

theorem statusChange_channelInfo {u : KeyUpdate} {ch : Channel} {abilities : Bool}
    (h : statusChange parse u.now row.load u.usingKey u.status u.reason = some (ch, abilities)) :
    ch.channelInfo = row.channelInfo ∨
      ch.channelInfo = (applyUpdate parse row.load u).channelInfo := by
  revert h
  fun_cases statusChange parse u.now row.load u.usingKey u.status u.reason with
  | case1 _ disabled hupdate =>
    rintro ⟨⟩
    exact .inr (congrArg (fun pair => pair.1.channelInfo) hupdate).symm
  | case4 =>
    rintro ⟨⟩
    exact .inl rfl
  | _ => rintro ⟨⟩

variable (parse) in
theorem statusRow_cases (row : ChannelRow) (call : StatusCall) :
    (statusRow parse row call).key = row.key ∧
      ((statusRow parse row call).channelInfo = row.channelInfo ∨
        (statusRow parse row call).channelInfo =
          (applyUpdate parse row.load call.toKeyUpdate).channelInfo) := by
  have hsaved : ∀ {ch : Channel} {saved : ChannelRow},
      ch.saveStatusState row = some saved → saved.key = row.key ∧ saved.channelInfo =
          if ch.channelInfo.isMultiKey then ch.channelInfo else row.channelInfo := by
    intro ch saved h
    revert h
    fun_cases Channel.saveStatusState ch row with
    | case1 => rintro ⟨⟩
    | case2 =>
      rintro ⟨⟩
      exact ⟨rfl, rfl⟩
  simp only [statusRow, updateChannelStatus, Bool.not_false, if_true]
  fun_cases updateStoredStatus parse ⟨false, none, some row, []⟩ call with
  | case5 _ hrow _ ch _ hchange _ saved hsave =>
    cases hrow
    obtain ⟨hkey, hinfo⟩ := hsaved hsave
    refine ⟨hkey, ?_⟩
    rw [getD_some, hinfo]
    by_cases hmulti : ch.channelInfo.isMultiKey = true
    · rw [if_pos hmulti]
      exact statusChange_channelInfo hchange
    · rw [if_neg hmulti]
      exact .inl rfl
  | _ => exact ⟨rfl, .inl rfl⟩

variable (parse) in
theorem serve_cases (row copy : ChannelRow) (readOk saveOk : Bool) (draw : ℕ) :
    let choice := serveCopy parse row copy readOk draw
    let row' := if choice.saves && saveOk then choice.channel.saveChannelInfo row else row
    row' = row ∨ copy.channelInfo.multiKeyMode = .polling ∧ row'.key = row.key ∧
      row'.channelInfo.multiKeyStatusList = copy.channelInfo.multiKeyStatusList := by
  intro choice row'
  by_cases hsaves : (choice.saves && saveOk) = true
  · have hmode := multiKeyMode_of_saves (Bool.and_eq_true_iff.mp hsaves).1
    obtain ⟨cursor, hch⟩ : ∃ cursor, choice.channel = { copy.load with
        channelInfo := { copy.load.channelInfo with multiKeyPollingIndex := cursor } } :=
      getNextEnabledKey_channel
    refine .inr ⟨hmode, ?_⟩
    simp only [row', if_pos hsaves, Channel.saveChannelInfo, hch]
    exact ⟨trivial, rfl⟩
  · exact .inl (if_neg hsaves)

theorem manageLoaded_cases (ch : Channel) (req : MultiKeyManageRequest)
    (answers : ManageAnswers) (row : ChannelRow) :
    (manageLoaded parse ch req answers row).1 = row ∨
      ∃ edited message data, ch.channelInfo.isMultiKey = true ∧
        editKeys parse ch req = .store edited message data ∧
        (manageLoaded parse ch req answers row).1 = edited.update parse answers.readOk row := by
  fun_cases manageLoaded parse ch req answers row with
  | case6 hmulti _ edited message data hedit _ =>
    exact .inr ⟨edited, message, data, by simpa using hmulti, hedit, rfl⟩
  | _ => exact .inl rfl

variable {edited : Channel} {message : String} {data : Option ℕ}

theorem editKeys_keyStatus {ch : Channel}
    (hedit : editKeys parse ch req = .store edited message data)
    (hkeeps : req.action ≠ .deleteKey ∧ req.action ≠ .deleteDisabledKeys) :
    edited.key = ch.key ∧ edited.channelInfo.isMultiKey = ch.channelInfo.isMultiKey ∧
      ∀ idx, Model.keyStatus edited.channelInfo.multiKeyStatusList idx = channelStatusEnabled →
        Model.keyStatus ch.channelInfo.multiKeyStatusList idx = channelStatusEnabled ∨
          req.action = .enableAllKeys ∨
          req.action = .enableKey ∧ req.keyIndex = some (idx : Int) := by
  have hchecked : ∀ {missing : String} {keyIndex : ℕ},
      checkedIndex req ch.channelInfo.multiKeySize missing = .ok keyIndex →
        req.keyIndex = some (keyIndex : Int) := by
    intro missing keyIndex h
    revert h
    fun_cases checkedIndex req ch.channelInfo.multiKeySize missing with
    | case3 k hk hrange =>
      intro h
      rw [hk, ← Except.ok.inj h, Int.toNat_of_nonneg (by omega)]
    | _ => rintro ⟨⟩
  revert hedit
  fun_cases editKeys parse ch req with
  | case2 =>
    fun_cases disableKey ch req with
    | case1 => rintro ⟨⟩
    | case2 keyIndex _ =>
      rintro ⟨⟩
      refine ⟨rfl, rfl, fun idx hidx => .inl ?_⟩
      simp only [withStatusList, Model.keyStatus, GoMap.lookup_insert] at hidx
      split at hidx
      · cases hidx
      · exact hidx
  | case3 haction =>
    fun_cases enableKey ch req with
    | case1 => rintro ⟨⟩
    | case2 keyIndex hindex =>
      rintro ⟨⟩
      refine ⟨rfl, rfl, fun idx hidx => ?_⟩
      by_cases hsame : idx = keyIndex
      · exact .inr (.inr ⟨haction, hsame ▸ hchecked hindex⟩)
      · left
        simpa only [Model.keyStatus, GoMap.lookup_erase, if_neg hsame] using hidx
  | case4 haction =>
    rintro ⟨⟩
    exact ⟨rfl, rfl, fun _ _ => .inr (.inl haction)⟩
  | case5 =>
    fun_cases disableAllKeys ch with
    | case1 => rintro ⟨⟩
    | case2 info statuses count hloop =>
      rintro ⟨⟩
      obtain rfl : (disableLoop info.multiKeyStatusList info.multiKeySize).1 = statuses :=
        congrArg Prod.fst hloop
      exact ⟨rfl, rfl, fun idx hidx => .inl (keyStatus_disableLoop hidx)⟩
  | case6 haction => exact absurd haction hkeeps.1
  | case7 haction => exact absurd haction hkeeps.2
  | case8 =>
    fun_cases setKeyPriority parse ch req with
    | case5 =>
      rintro ⟨⟩
      exact ⟨rfl, rfl, fun idx hidx => .inl hidx⟩
    | _ => rintro ⟨⟩
  | _ => rintro ⟨⟩

theorem keyStatus_update {idx : ℕ} (readOk : Bool)
    (hmulti : edited.channelInfo.isMultiKey = true) (hkey : edited.key = row.key)
    (hidx : (keyList parse row.key)[idx]? = some key) :
    Model.keyStatus (edited.update parse readOk row).channelInfo.multiKeyStatusList idx =
      Model.keyStatus edited.channelInfo.multiKeyStatusList idx := by
  have hne : row.key ≠ "" := by
    intro hempty
    simp [keyList, hempty] at hidx
  have hkey' : (edited.update parse readOk row).key = row.key := by
    rw [update_key, hkey, if_neg hne]
  have hlt : idx < updateSize parse readOk edited row := by
    have hkeys : keyList parse row.key ≠ [] := List.ne_nil_of_mem (List.mem_of_getElem? hidx)
    rw [updateSize_eq parse row (.inl (hkey ▸ hne)), hkey', countedKeys_eq_keyList parse hkeys]
    exact (List.getElem?_eq_some_iff.mp hidx).1
  rw [update_channelInfo parse readOk row hmulti]
  simp [Model.keyStatus, GoMap.lookup_retain, hlt]

/-! ### What is enabled -/

theorem statusRow_enables {call : StatusCall} (hoff : KeyDisabled parse row key)
    (hon : KeyEnabled parse (statusRow parse row call) key) :
    call.usingKey = key ∧ call.status = channelStatusEnabled := by
  obtain ⟨hkey, hinfo⟩ := statusRow_cases parse row call
  obtain ⟨idx, hidx, henabled⟩ := hon
  rw [hkey] at hidx
  have hdisabled := hoff.2 idx hidx
  rcases hinfo with hsame | hupdated
  · rw [hsame] at henabled
    exact absurd henabled hdisabled
  rw [hupdated, Model.keyStatus, lookup_applyUpdate (getKeys_load parse row)] at henabled
  split at henabled
  next hfound =>
    have hused : call.usingKey = key :=
      some.inj ((getElem?_of_idxOf? hfound).symm.trans hidx)
    refine ⟨hused, ?_⟩
    by_contra hstatus
    refine recordedEntry_getD_ne.mpr ⟨hstatus, fun _ hnone => ?_⟩ henabled
    rw [load_channelInfo] at hnone
    rw [Model.keyStatus, hnone] at hdisabled
    exact hdisabled rfl
  · exact absurd henabled hdisabled

theorem serve_enables {readOk saveOk : Bool} {draw : ℕ}
    (hfresh : copy.channelInfo.multiKeyMode = .polling → UpToDate parse row copy)
    (hoff : KeyDisabled parse row key) :
    let choice := serveCopy parse row copy readOk draw
    ¬ KeyEnabled parse
      (if choice.saves && saveOk then choice.channel.saveChannelInfo row else row) key := by
  intro choice hon
  obtain ⟨idx, hidx, henabled⟩ := hon
  rcases serve_cases parse row copy readOk saveOk draw with
    hsame | ⟨hmode, hkey, hstatus⟩
  · rw [hsame] at hidx henabled
    exact hoff.2 idx hidx henabled
  obtain ⟨htext, hcopy⟩ := hfresh hmode
  rw [hkey, ← htext] at hidx
  rw [hstatus] at henabled
  exact hcopy key hoff ⟨idx, hidx, henabled⟩

theorem update_enables (readOk : Bool)
    (hedit : editKeys parse copy.load req = .store edited message data)
    (hkeeps : req.action ≠ .deleteKey ∧ req.action ≠ .deleteDisabledKeys)
    (hmulti : copy.channelInfo.isMultiKey = true)
    (hfresh : req.action ≠ .enableAllKeys → UpToDate parse row copy)
    (hoff : KeyDisabled parse row key)
    (hon : KeyEnabled parse (edited.update parse readOk row) key) :
    req.action = .enableAllKeys ∨ req.action = .enableKey ∧ ∃ idx : ℕ,
      req.keyIndex = some (idx : Int) ∧ (keyList parse copy.key)[idx]? = some key := by
  by_cases hall : req.action = .enableAllKeys
  · exact .inl hall
  right
  obtain ⟨htext, hcopy⟩ := hfresh hall
  obtain ⟨hkey, hedited, hstatus⟩ := editKeys_keyStatus hedit hkeeps
  obtain ⟨idx, hidx, henabled⟩ := hon
  have hedited' : edited.channelInfo.isMultiKey = true := hedited.trans hmulti
  have hkey' : edited.key = row.key := hkey.trans htext
  have hstored : (edited.update parse readOk row).key = row.key := by
    rw [update_key, hkey', ite_self]
  rw [hstored] at hidx
  rw [keyStatus_update readOk hedited' hkey' hidx] at henabled
  rw [← htext] at hidx
  rcases hstatus idx henabled with hsame | hasked | hasked
  · exact absurd ⟨idx, hidx, hsame⟩ (hcopy key hoff)
  · exact absurd hasked hall
  · exact ⟨hasked.1, idx, hasked.2, hidx⟩

theorem delete_enables (readOk : Bool)
    (hedit : editKeys parse copy.load req = .store edited message data)
    (haction : req.action = .deleteKey ∨ req.action = .deleteDisabledKeys)
    (hmulti : copy.channelInfo.isMultiKey = true) (hfresh : UpToDate parse row copy)
    (hback : ReadsBack parse (survivingKeys parse copy req))
    (hoff : KeyDisabled parse row key) :
    ¬ KeyEnabled parse (edited.update parse readOk row) key := by
  obtain ⟨rfl, -⟩ := editKeys_delete haction hedit
  rw [getKeys_load, load_channelInfo]
  have hdeleted := deleted_update readOk row hmulti
    (keepLoop_spec copy.channelInfo (targets req copy.channelInfo)
      (copiesTime req copy.channelInfo) (keyList parse copy.key))
  rintro ⟨j, hj, henabled⟩
  rw [hdeleted.keys_of_readsBack hback] at hj
  obtain ⟨i, hi, hkey⟩ := survivors_getElem?_of_keys hj
  have hlt := (List.getElem?_eq_some_iff.mp hi).1
  rw [← hdeleted.size_of_readsBack hback] at hlt
  rw [hdeleted.status j i hi hlt] at henabled
  exact hfresh.2 key hoff ⟨i, hkey, henabled⟩

theorem keyStep_enables {s : KeyState} {e : KeyEvent} (hfresh : FreshCopy parse s e)
    (hoff : KeyDisabled parse s.row key)
    (hon : KeyEnabled parse (keyStep parse s e).row key) :
    AsksToEnable parse s key e := by
  have hunchanged : ¬ KeyEnabled parse s.row key := by
    rintro ⟨idx, hidx, henabled⟩
    exact hoff.2 idx hidx henabled
  cases e with
  | load => exact hunchanged hon
  | updateStatus call => exact statusRow_enables hoff hon
  | manage copy req answers =>
    simp only [keyStep] at hon
    split at hon
    · exact absurd hon hunchanged
    rename_i ch hcopy
    rcases manageLoaded_cases ch.load req answers s.row with
      hsame | ⟨edited, message, data, hmulti, hedit, hstored⟩
    · rw [hsame] at hon
      exact absurd hon hunchanged
    have hfresh := hfresh ch hcopy edited message data hedit
    rw [hstored] at hon
    by_cases haction : req.action = .deleteKey ∨ req.action = .deleteDisabledKeys
    · have hdeletes : UpToDate parse s.row ch ∧ ReadsBack parse (survivingKeys parse ch req) := by
        rcases haction with haction | haction <;> rwa [haction] at hfresh
      exact absurd hon
        (delete_enables answers.readOk hedit haction hmulti hdeletes.1 hdeletes.2 hoff)
    · have hkeeps := not_or.mp haction
      have hupToDate : req.action ≠ .enableAllKeys → UpToDate parse s.row ch := by
        intro hall
        cases hact : req.action with
        | getKeyStatus | other _ =>
          -- These actions store nothing.
          rw [editKeys, hact] at hedit
          cases hedit
        | enableAllKeys => exact absurd hact hall
        | deleteKey => exact absurd hact hkeeps.1
        | deleteDisabledKeys => exact absurd hact hkeeps.2
        | _ => rwa [hact] at hfresh
      exact (update_enables answers.readOk hedit hkeeps hmulti hupToDate hoff hon).imp_right
        (And.imp_right fun hidx => ⟨ch, hcopy, hidx⟩)
  | serve copy readOk saveOk draw =>
    simp only [keyStep] at hon
    split at hon
    · exact absurd hon hunchanged
    next ch hcopy => exact absurd hon (serve_enables (hfresh ch hcopy) hoff)

theorem upToDate_of_eq (hkey : copy.key = row.key)
    (hstatus : copy.channelInfo.multiKeyStatusList = row.channelInfo.multiKeyStatusList) :
    UpToDate parse row copy := by
  refine ⟨hkey, fun key hoff => ?_⟩
  rintro ⟨idx, hidx, henabled⟩
  rw [hkey] at hidx
  rw [hstatus] at henabled
  exact hoff.2 idx hidx henabled

/-- **Disabled keys.** In every run whose steps have a fresh copy, a key that is disabled in the
stored row before a step and enabled after it is one that the step asks to enable. -/
theorem disabled_keys_stay {s : KeyState} {es : List KeyEvent}
    (hfresh : Along (keyStep parse) (FreshCopy parse) s es) :
    Along (keyStep parse) (fun s e => ∀ key, KeyDisabled parse s.row key →
      KeyEnabled parse (keyStep parse s e).row key → AsksToEnable parse s key e)
      s es :=
  Along.imp (fun _ _ hcopy _ hoff hon => keyStep_enables hcopy hoff hon) hfresh

def sampleKeyState : KeyState := ⟨sampleKeyRow "a\nb" 2 ∅, []⟩

def sampleDisable : KeyEvent :=
  .updateStatus
    { usingKey := "a", status := channelStatusAutoDisabled, reason := "", now := 5, readOk := true
      saveOk := true, abilitiesOk := true }

def samplePriority : MultiKeyManageRequest :=
  { sampleRequest .setKeyPriority with keyIndex := some 1, priority := some 4 }

def sampleFresh : List KeyEvent :=
  [sampleDisable, .load, .serve 0 true true 0, .manage 0 samplePriority sampleAnswers]

theorem disabled_keys_stay_sampleFresh :
    Along (keyStep fun _ => none) (FreshCopy fun _ => none) sampleKeyState sampleFresh ∧
      Along (keyStep fun _ => none) (fun s e => ∀ key, KeyDisabled (fun _ => none) s.row key →
        KeyEnabled (fun _ => none) (keyStep (fun _ => none) s e).row key →
          AsksToEnable (fun _ => none) s key e) sampleKeyState sampleFresh := by
  have hfresh :
      Along (keyStep fun _ => none) (FreshCopy fun _ => none) sampleKeyState sampleFresh := by
    refine ⟨trivial, trivial, ?_, ?_, trivial⟩
    · intro ch hch _
      obtain rfl := some.inj hch
      exact upToDate_of_eq rfl rfl
    · intro ch hch _ _ _ _
      obtain rfl := some.inj hch
      exact upToDate_of_eq rfl rfl
  exact ⟨hfresh, disabled_keys_stay hfresh⟩

/-- A caller loads the channel, the key `a` is disabled, and the caller stores its copy: the cursor
of `GetNextEnabledKey` or a priority of the key `b` enables the key `a`. A deletion enables a
disabled key from a fresh copy too, if no key or an empty first line stays. -/
theorem disabled_key_enabled_by_copy :
    let stored (s : KeyState) (es : List KeyEvent) :=
      keysWithStatus (fun _ => none) (run (keyStep fun _ => none) s es).row
    let allDisabled : KeyState :=
      ⟨sampleKeyRow "a\nb" 2 (((∅ : GoMap ℕ Int).insert 0 3).insert 1 3), []⟩
    let blank : KeyState := ⟨sampleKeyRow "a\n\nb" 3 ((∅ : GoMap ℕ Int).insert 2 2), []⟩
    stored sampleKeyState [.load, sampleDisable] = [("a", 3), ("b", 1)] ∧
      stored sampleKeyState [.load, sampleDisable, .serve 0 true true 0] = [("a", 1), ("b", 1)] ∧
      stored sampleKeyState [.load, sampleDisable, .manage 0 samplePriority sampleAnswers] =
        [("a", 1), ("b", 1)] ∧
      stored allDisabled [.load, .manage 0 (sampleRequest .deleteDisabledKeys) sampleAnswers] =
          [("a", 1), ("b", 1)] ∧
      stored blank
        [.load, .manage 0 { sampleRequest .deleteKey with keyIndex := some 0 } sampleAnswers] =
          [("b", 1)] := by
  decide +kernel

end NewApi.Controller
