import NewApi.Model.AuthFlow

/-!
# Flows are consumed once

What the rows say at any time: a row that is not consumed is a row of the start, unchanged. A
transaction that has claimed a flow holds its key, so the row stays as it was claimed until the
transaction ends; its commit makes the row a consumed one, and no row ever becomes unconsumed. The
cleanup deletes the record of a consumption, but it leaves no row that could be consumed again.

For an assertion of an external provider the deletion matters, since the insertion succeeds where no
row is left. If the assertion expires within the retention of the cleanup, the row outlives it.
-/

namespace NewApi.Model

open StepSystem List Option Table

/-! ### The invariant -/

/-- The consumption is of a flow of the start that asked for what the flow has, and that had not
expired. -/
structure Allowed (hmac : String → String) (flows : FlowTable) (c : Consumption) : Prop where
  flow : flows.find (hmac c.call.token) = some c.flow
  fields : c.call.fields.Matches c.flow
  unconsumed : c.flow.consumedAt = none
  claimed_before : c.now < c.flow.expiresAt
  checked_before : c.checkedAt < c.flow.expiresAt

def ClaimRecord.Retained (r : ClaimRecord) : Prop :=
  r.expiresAt ≤ r.now + authFlowDefaultCleanupRetention

def ClaimRecord.Apart (r r' : ClaimRecord) : Prop :=
  r.tokenHash = r'.tokenHash → r.Retained → r.expiresAt < r'.insertedAt

structure FlowInv (hmac : String → String) (start : FlowTable) (s : FlowStore) : Prop where
  unconsumed : ∀ h row, s.flows.find h = some row → row.consumedAt = none →
    start.find h = some row
  once : ∀ h, s.consumed.countP (fun c => hmac c.call.token = h) ≤ 1
  spent : ∀ c ∈ s.consumed, ∀ row, s.flows.find (hmac c.call.token) = some row →
    row.consumedAt ≠ none
  allowed : ∀ c ∈ s.consumed, Allowed hmac start c
  available : ∀ h row, start.find h = some row → row.consumedAt = none →
    (∀ c ∈ s.consumed, hmac c.call.token ≠ h) → s.clock < row.expiresAt →
    s.flows.find h = some row
  claimed : ∀ r ∈ s.claims, r.Retained → s.clock ≤ r.expiresAt →
    ∃ row, s.flows.find r.tokenHash = some row ∧ row.expiresAt = r.expiresAt ∧
      row.consumedAt = some r.now
  apart : s.claims.Pairwise ClaimRecord.Apart

/-- What an open transaction knows of the rows that it has written: the flow is as it was claimed,
and no row of an assertion is there. -/
structure FlowTx.Knows (hmac : String → String) (start : FlowTable) (s : FlowStore) (tx : FlowTx) :
    Prop where
  consumption : ∀ c ∈ tx.consumption, Allowed hmac start c ∧
    s.flows.find (hmac c.call.token) = some c.flow
  claims : ∀ r ∈ tx.claims, s.flows.find r.tokenHash = none ∧ ∀ q ∈ s.claims, q.Apart r
  nodup : tx.keys.Nodup

structure ClaimedRow (hmac : String → String) (start : FlowTable) (s : FlowStore) (c : ConsumeCall)
    (now : Int) (row : AuthFlow) : Prop where
  stored : s.flows.find (hmac c.token) = some row
  initial : start.find (hmac c.token) = some row
  fields : c.fields.Matches row
  unconsumed : row.consumedAt = none
  before : now < row.expiresAt

def FlowThread.Knows (hmac : String → String) (start : FlowTable) (s : FlowStore) :
    FlowThread → Prop
  | .selecting c now claimed => ∀ row ∈ claimed, ClaimedRow hmac start s c now row
  | .checking c now claimed flow => ∀ row ∈ claimed, ClaimedRow hmac start s c now row ∧
      flow.expiresAt = row.expiresAt
  | .acting tx _ | .inserting tx _ _ _ | .committing tx => tx.Knows hmac start s
  | .reading _ _ | .checkingRead _ | .beginning _ | .updating _ _ | .done _ => True

section

variable {hmac : String → String} {start : FlowTable} {s s' : FlowStore} {t : FlowThread}
  {row : AuthFlow} {now : Int} {c : ConsumeCall} {tx : FlowTx}

theorem ClaimedRow.key (h : ClaimedRow hmac start s c now row) : row.tokenHash = hmac c.token :=
  (mem_of_find h.stored).2

theorem FlowTx.mem_keys_of_consumption {c : Consumption} (hc : c ∈ tx.consumption) :
    c.flow.tokenHash ∈ tx.keys := by
  refine mem_map.mpr ⟨c.row, ?_, rfl⟩
  exact mem_append_left _ (mem_map_of_mem (mem_toList.mpr hc))

theorem FlowTx.mem_keys_of_claim {r : ClaimRecord} (hr : r ∈ tx.claims) :
    r.tokenHash ∈ tx.keys := by
  refine mem_map.mpr ⟨r.row, ?_, rfl⟩
  exact mem_append_right _ (mem_map_of_mem hr)

theorem FlowTx.Knows.frame (h : tx.Knows hmac start s)
    (hrows : ∀ k ∈ tx.keys, s'.flows.find k = s.flows.find k)
    (hclaims : ∀ q ∈ s'.claims, q ∈ s.claims ∨ q.tokenHash ∉ tx.keys) : tx.Knows hmac start s' where
  consumption c hc := by
    obtain ⟨hallowed, hstored⟩ := h.consumption c hc
    refine ⟨hallowed, ?_⟩
    have hkey := FlowTx.mem_keys_of_consumption hc
    rw [(mem_of_find hstored).2] at hkey
    rw [hrows _ hkey]
    exact hstored
  claims r hr := by
    obtain ⟨hnone, hapart⟩ := h.claims r hr
    have hkey := FlowTx.mem_keys_of_claim hr
    refine ⟨(hrows _ hkey).trans hnone, fun q hq => ?_⟩
    rcases hclaims q hq with hold | hother
    · exact hapart q hold
    · intro hsame
      rw [hsame] at hother
      exact absurd hkey hother
  nodup := h.nodup

theorem FlowThread.Knows.frame (h : t.Knows hmac start s)
    (hrows : ∀ k ∈ t.holds, s'.flows.find k = s.flows.find k)
    (hclaims : ∀ q ∈ s'.claims, q ∈ s.claims ∨ q.tokenHash ∉ t.holds) :
    t.Knows hmac start s' := by
  have hclaimed {c : ConsumeCall} {now : Int} {row : AuthFlow}
      (h : ClaimedRow hmac start s c now row)
      (hrow : s'.flows.find row.tokenHash = s.flows.find row.tokenHash) :
      ClaimedRow hmac start s' c now row := by
    refine ⟨?_, h.initial, h.fields, h.unconsumed, h.before⟩
    rw [h.key] at hrow
    exact hrow.trans h.stored
  cases t with
  | selecting c now claimed =>
    intro row hrow
    cases hrow
    exact hclaimed (h row rfl) (hrows _ (mem_singleton_self _))
  | checking c now claimed flow =>
    intro row hrow
    cases hrow
    exact ⟨hclaimed (h row rfl).1 (hrows _ (mem_singleton_self _)), (h row rfl).2⟩
  | acting tx todo | inserting tx claim now todo
  | committing tx => exact FlowTx.Knows.frame h hrows hclaims
  | _ => trivial

end

/-! ### Commit and cleanup -/

section

variable {hmac : String → String} {start : FlowTable} {s : FlowStore} {tx : FlowTx}

theorem FlowTx.consumedAt_of_mem (h : row ∈ tx.rows) : row.consumedAt ≠ none := by
  rcases mem_append.mp h with h | h
  · obtain ⟨c, -, rfl⟩ := mem_map.mp h
    simp [Consumption.row]
  · obtain ⟨r, -, rfl⟩ := mem_map.mp h
    simp [ClaimRecord.row]

variable {k : String}

theorem FlowTx.Knows.find_commit (h : tx.Knows hmac start s)
    (hrow : (tx.commit s).flows.find k = some row) :
    (row ∈ tx.rows ∧ row.tokenHash = k) ∨ k ∉ tx.keys ∧ s.flows.find k = some row := by
  by_cases hk : k ∈ tx.keys
  · obtain ⟨row', hrow', rfl⟩ := mem_map.mp hk
    have hfind : (tx.commit s).flows.find row'.tokenHash = some row' :=
      find_foldl_put_of_mem h.nodup hrow'
    rw [hfind] at hrow
    cases hrow
    exact .inl ⟨hrow', rfl⟩
  · refine .inr ⟨hk, ?_⟩
    have hfind : (tx.commit s).flows.find k = s.flows.find k := find_foldl_put_of_notMem hk
    rw [hfind] at hrow
    exact hrow

theorem FlowTx.find_commit_of_notMem (hk : k ∉ tx.keys) :
    (tx.commit s).flows.find k = s.flows.find k :=
  find_foldl_put_of_notMem hk

theorem FlowTx.Knows.notMem_keys (h : tx.Knows hmac start s) (hrow : s.flows.find k = some row)
    (hfree : row.consumedAt ≠ none ∨ ∀ c ∈ tx.consumption, hmac c.call.token ≠ k) :
    k ∉ tx.keys := by
  intro hk
  obtain ⟨written, hwritten, rfl⟩ := mem_map.mp hk
  rcases mem_append.mp hwritten with hwritten | hwritten
  · obtain ⟨c, hc, rfl⟩ := mem_map.mp hwritten
    obtain ⟨hallowed, hstored⟩ := h.consumption c (mem_toList.mp hc)
    have hkey : c.row.tokenHash = hmac c.call.token := (mem_of_find hstored).2
    rcases hfree with hconsumed | hother
    · rw [hkey, hstored] at hrow
      cases hrow
      exact hconsumed hallowed.unconsumed
    · exact hother c (mem_toList.mp hc) hkey.symm
  · obtain ⟨r, hr, rfl⟩ := mem_map.mp hwritten
    have hnone : s.flows.find r.row.tokenHash = none := (h.claims r hr).1
    exact absurd (hnone.symm.trans hrow) (by simp)

section

variable (hinv : FlowInv hmac start s)
include hinv

section

variable (h : tx.Knows hmac start s)
include h

theorem FlowInv.fresh {c : Consumption}
    (hc : c ∈ tx.consumption) : ∀ d ∈ s.consumed, hmac d.call.token ≠ hmac c.call.token := by
  intro d hd heq
  obtain ⟨hallowed, hstored⟩ := h.consumption c hc
  rw [← heq] at hstored
  exact hinv.spent d hd c.flow hstored hallowed.unconsumed

theorem FlowInv.once_commit (k : String) :
    (tx.commit s).consumed.countP (fun c => hmac c.call.token = k) ≤ 1 := by
  change (s.consumed ++ tx.consumption.toList).countP _ ≤ 1
  rw [countP_append]
  rcases hc : tx.consumption with - | c
  · simpa using hinv.once k
  by_cases hk : hmac c.call.token = k
  · have hzero : s.consumed.countP (fun c => decide (hmac c.call.token = k)) = 0 := by
      refine countP_eq_zero.mpr fun d hd => ?_
      rw [← hk]
      simpa using hinv.fresh h hc d hd
    rw [toList_some, countP_singleton]
    split <;> omega
  · rw [toList_some, countP_singleton, if_neg (by simpa using hk)]
    exact hinv.once k

theorem FlowInv.apart_commit : (s.claims ++ tx.claims).Pairwise ClaimRecord.Apart := by
  refine pairwise_append.mpr ⟨hinv.apart, ?_, fun q hq r hr => (h.claims r hr).2 q hq⟩
  -- two claims of one transaction have different keys
  have hkeys : (tx.claims.map ClaimRecord.tokenHash).Nodup := by
    have hsub : (tx.claims.map ClaimRecord.tokenHash).Sublist tx.keys := by
      have hmap : tx.claims.map ClaimRecord.tokenHash =
          (tx.claims.map ClaimRecord.row).map AuthFlow.tokenHash := by
        rw [List.map_map]
        rfl
      rw [hmap]
      exact (sublist_append_right _ _).map _
    exact h.nodup.sublist hsub
  exact (pairwise_map.mp hkeys).imp fun hne hsame => absurd hsame hne

/-- **A commit** keeps the invariant. -/
theorem FlowInv.commit : FlowInv hmac start (tx.commit s) where
  unconsumed k row hrow hnone := by
    rcases h.find_commit hrow with ⟨hmem, -⟩ | ⟨-, hold⟩
    · exact absurd hnone (FlowTx.consumedAt_of_mem hmem)
    · exact hinv.unconsumed k row hold hnone
  once := hinv.once_commit h
  spent c hc row hrow := by
    rcases h.find_commit hrow with ⟨hmem, -⟩ | ⟨hk, hold⟩
    · exact FlowTx.consumedAt_of_mem hmem
    rcases mem_append.mp hc with hc | hc
    · exact hinv.spent c hc row hold
    have hc := mem_toList.mp hc
    have hkey := FlowTx.mem_keys_of_consumption hc
    rw [(mem_of_find (h.consumption c hc).2).2] at hkey
    exact absurd hkey hk
  allowed c hc := by
    rcases mem_append.mp hc with hc | hc
    · exact hinv.allowed c hc
    · exact (h.consumption c (mem_toList.mp hc)).1
  available k row hstart hnone hfree hclock := by
    have hold : s.flows.find k = some row := hinv.available k row hstart hnone
      (fun c hc => hfree c (mem_append_left _ hc)) hclock
    have hk : k ∉ tx.keys := h.notMem_keys hold
      (.inr fun c hc => hfree c (mem_append_right _ (mem_toList.mpr hc)))
    rw [FlowTx.find_commit_of_notMem hk]
    exact hold
  claimed r hr hretained hclock := by
    rcases mem_append.mp hr with hr | hr
    · obtain ⟨row, hrow, hexpires, hconsumed⟩ := hinv.claimed r hr hretained hclock
      have hk : r.tokenHash ∉ tx.keys := h.notMem_keys hrow (.inl (by rw [hconsumed]; simp))
      refine ⟨row, ?_, hexpires, hconsumed⟩
      rw [FlowTx.find_commit_of_notMem hk]
      exact hrow
    · have hmem : r.row ∈ tx.rows := mem_append_right _ (mem_map_of_mem hr)
      exact ⟨r.row, find_foldl_put_of_mem h.nodup hmem, rfl, rfl⟩
  apart := hinv.apart_commit h

end

theorem FlowInv.tick (span : ℕ) : FlowInv hmac start { s with clock := s.clock + span } where
  unconsumed := hinv.unconsumed
  once := hinv.once
  spent := hinv.spent
  allowed := hinv.allowed
  available k row hstart hnone hfree hclock := by
    have hclock' : s.clock + span < row.expiresAt := hclock
    exact hinv.available k row hstart hnone hfree (by omega)
  claimed r hr hretained hclock := by
    have hclock' : s.clock + span ≤ r.expiresAt := hclock
    exact hinv.claimed r hr hretained (by omega)
  apart := hinv.apart

end

variable {f : AuthFlow}

theorem outdated_cases (h : f.Outdated now) : f.expiresAt < now ∨
      ∃ t, f.consumedAt = some t ∧ t + authFlowDefaultCleanupRetention < now := by
  have hpos : 0 < authFlowDefaultCleanupRetention := by decide
  rcases h with hexpired | hconsumed
  · left
    omega
  right
  cases hc : f.consumedAt with
  | none =>
    rw [hc] at hconsumed
    cases hconsumed
  | some t =>
    rw [hc] at hconsumed
    have hlt := of_decide_eq_true hconsumed
    exact ⟨t, rfl, by omega⟩

theorem find_erase_of_not_outdated {k' : String} (hf : s.flows.find k = some f)
    (hout : f.Outdated now) (hrow : s.flows.find k' = some row) (hkeep : ¬ row.Outdated now) :
    (s.flows.erase k).find k' = some row := by
  rw [find_erase_of_ne]
  · exact hrow
  rintro rfl
  rw [hf] at hrow
  cases hrow
  exact hkeep hout

/-- **The cleanup** keeps the invariant: it deletes no flow that could be consumed, and no claim of
an assertion that has not expired. -/
theorem FlowInv.erase (hinv : FlowInv hmac start s) {age : ℕ}
    (hf : s.flows.find k = some f) (hout : f.Outdated (s.clock - age)) :
    FlowInv hmac start { s with flows := s.flows.erase k } where
  unconsumed h row hrow hnone :=
    hinv.unconsumed h row (find_of_find_erase hrow).2 hnone
  once := hinv.once
  spent c hc row hrow := hinv.spent c hc row (find_of_find_erase hrow).2
  allowed := hinv.allowed
  available h row hstart hnone hfree hclock := by
    have hclock' : s.clock < row.expiresAt := hclock
    have hrow := hinv.available h row hstart hnone hfree hclock'
    refine find_erase_of_not_outdated hf hout hrow fun hbad => ?_
    rcases outdated_cases hbad with hexpired | ⟨t, ht, -⟩
    · omega
    · rw [hnone] at ht
      cases ht
  claimed r hr hretained hclock := by
    have hclock' : s.clock ≤ r.expiresAt := hclock
    have hretained' : r.expiresAt ≤ r.now + authFlowDefaultCleanupRetention := hretained
    obtain ⟨row, hrow, hexpires, hconsumed⟩ := hinv.claimed r hr hretained hclock
    refine ⟨row, ?_, hexpires, hconsumed⟩
    refine find_erase_of_not_outdated hf hout hrow fun hbad => ?_
    rcases outdated_cases hbad with hexpired | ⟨t, ht, hlt⟩
    · omega
    · rw [hconsumed] at ht
      cases ht
      omega
  apart := hinv.apart

end

/-! ### Steps -/

open FlowThread

section

variable {hmac : String → String} {start : FlowTable} {s : FlowStore} {t : FlowThread}
  {ans : FlowReply}

theorem claimedRow_of_claimable (hinv : FlowInv hmac start s)
    (h : claimable hmac s c now = some row) : ClaimedRow hmac start s c now row := by
  obtain ⟨hfind, hcond⟩ := filter_eq_some_iff.mp h
  obtain ⟨hfields, hnone, hbefore⟩ := of_decide_eq_true hcond
  exact ⟨hfind, hinv.unconsumed _ row hfind hnone, hfields, hnone, hbefore⟩

theorem knows_flowQuery {t' : FlowThread} (h : t'.Knows hmac start s) :
    (flowQuery s ans t').2.Knows hmac start s := by
  cases ans with
  | ok => exact h
  | _ => trivial

theorem knows_selectFlow {claimed : Option AuthFlow}
    (h : ∀ row ∈ claimed, ClaimedRow hmac start s c now row) :
    (selectFlow hmac s c now claimed).Knows hmac start s := by
  unfold selectFlow
  dsimp only
  split
  · trivial
  rename_i flow hflow
  intro row hrow
  cases hrow
  refine ⟨h row rfl, ?_⟩
  obtain ⟨hvisible, -⟩ := filter_eq_some_iff.mp hflow
  cases hvisible
  rfl

theorem knows_checkFlow {claimed : Option AuthFlow} {flow : AuthFlow}
    (h : ∀ row ∈ claimed, ClaimedRow hmac start s c now row ∧ flow.expiresAt = row.expiresAt) :
    (checkFlow s c now claimed flow).Knows hmac start s := by
  unfold checkFlow
  split
  · trivial
  split
  · trivial
  rename_i hbefore
  rcases claimed with - | row
  · trivial
  obtain ⟨hrow, hexpires⟩ := h row rfl
  have htx : FlowTx.Knows hmac start s ⟨some ⟨c, row, now, s.clock⟩, []⟩ := by
    refine ⟨fun d hd => ?_, fun r hr => (by cases hr), nodup_singleton _⟩
    cases hd
    refine ⟨⟨hrow.initial, hrow.fields, hrow.unconsumed, hrow.before, ?_⟩, hrow.stored⟩
    rw [← hexpires]
    exact not_not.mp hbefore
  dsimp only
  split <;> exact htx

theorem knows_beginClaim {claim : AssertionClaim} {todo : List AssertionClaim}
    (h : tx.Knows hmac start s) : (beginClaim s ans tx claim todo).Knows hmac start s := by
  unfold beginClaim
  dsimp only
  split
  · split
    · trivial
    · exact h
  · exact h

variable (hinv : FlowInv hmac start s)
include hinv

theorem knows_insertClaim {claim : AssertionClaim}
    {todo : List AssertionClaim} (h : tx.Knows hmac start s) :
    (insertClaim hmac s ans tx claim now todo).Knows hmac start s := by
  unfold insertClaim
  dsimp only
  split
  · split
    · trivial
    · exact h
  rename_i hfree
  obtain ⟨hkeys, hstored⟩ := not_or.mp hfree
  have hnone : s.flows.find (claim.tokenHash hmac) = none := by simpa using hstored
  refine ⟨h.consumption, fun r hr => ?_, ?_⟩
  · rcases mem_append.mp hr with hr | hr
    · exact h.claims r hr
    rw [mem_singleton.mp hr]
    refine ⟨hnone, fun q hq hsame hretained => ?_⟩
    by_contra hlate
    obtain ⟨row, hrow, -⟩ := hinv.claimed q hq hretained (not_lt.mp hlate)
    rw [hsame, hnone] at hrow
    cases hrow
  · rw [keys_claim]
    refine nodup_append.mpr ⟨h.nodup, nodup_singleton _, ?_⟩
    rintro a ha b hb rfl
    rw [mem_singleton.mp hb] at ha
    exact hkeys ha

/-- **A step keeps what its call knows.** -/
theorem knows_flowExec (h : t.Knows hmac start s) :
    (t.exec hmac s ans).2.Knows hmac start (t.exec hmac s ans).1 := by
  have hquery {t' : FlowThread} (h' : t'.Knows hmac start s) :
      (flowQuery s ans t').2.Knows hmac start (flowQuery s ans t').1 := by
    have hstore : (flowQuery s ans t').1 = s := by cases ans <;> rfl
    rw [hstore]
    exact knows_flowQuery h'
  cases t with
  | reading token fields =>
    refine hquery ?_
    unfold readFlow
    split
    · trivial
    · split <;> trivial
  | checkingRead flow =>
    simp only [exec]
    split <;> trivial
  | beginning c | done result => trivial
  | updating c now => exact hquery fun row hrow => claimedRow_of_claimable hinv hrow
  | selecting c now claimed => exact hquery (knows_selectFlow h)
  | checking c now claimed flow => exact knows_checkFlow h
  | acting tx todo =>
    cases todo with
    | nil =>
      simp only [exec]
      split
      · trivial
      · exact h
    | cons claim todo =>
      simp only [exec]
      split
      · trivial
      · exact knows_beginClaim h
  | inserting tx claim now todo =>
    simp only [exec]
    split
    · trivial
    · exact knows_insertClaim hinv h
  | committing tx => cases ans <;> trivial

theorem flowInv_exec (h : t.Knows hmac start s) : FlowInv hmac start (t.exec hmac s ans).1 := by
  rcases flowMove_exec hmac s t ans with hsame | ⟨tx, rfl, hcommit⟩
  · rw [hsame]
    exact hinv
  · rw [hcommit]
    exact hinv.commit h

end

/-- **All steps keep the invariant.** -/
theorem flowKeeps (hmac : String → String) (start : FlowTable) :
    Threads.LockKeeps (flowSystem hmac) (fun _ _ => True) (FlowInv hmac start)
      fun s t => t.Knows hmac start s where
  call s c _ _ := by
    cases c with
    | getAuthFlow token fields | consumeAuthFlow c =>
      simp only [flowSystem, FlowCall.thread]
      split <;> trivial
    | claimExternalAuthAssertion claim =>
      exact ⟨fun c hc => (by cases hc), fun r hr => (by cases hr), nodup_nil⟩
  exec s k ans t hs _ hk _ :=
    ⟨flowInv_exec hs.shared (hs.thread hk), knows_flowExec hs.shared (hs.thread hk)⟩
  others s k ans t hs _ hk u hu hapart := by
    have hknows := hs.threads u hu
    change u.Knows hmac start (t.exec hmac s.shared ans).1
    rcases flowMove_exec hmac s.shared t ans with hsame | ⟨tx, rfl, hcommit⟩
    · rw [hsame]
      exact hknows
    rw [hcommit]
    have hother {l : String} (hl : l ∈ tx.keys) : l ∉ u.holds := hapart l (.inl hl)
    refine hknows.frame (fun l hl => ?_) fun q hq => ?_
    · exact FlowTx.find_commit_of_notMem fun hmem => hother hmem hl
    · rcases mem_append.mp hq with hold | hnew
      · exact .inl hold
      · exact .inr (hother (FlowTx.mem_keys_of_claim hnew))
  outside s e hs _ := by
    cases e with
    | tick span =>
      exact ⟨hs.shared.tick span, fun u hu _ =>
        (hs.threads u hu).frame (fun _ _ => rfl) fun _ hq => .inl hq⟩
    | deleteExpiredAuthFlow age k =>
      simp only [flowSystem, FlowStore.outside]
      split
      next hany =>
        obtain ⟨f, hf, hout⟩ := (any_eq_true _ _).mp hany
        refine ⟨hs.shared.erase hf (of_decide_eq_true hout), fun u hu hapart => ?_⟩
        refine (hs.threads u hu).frame (fun l hl => ?_) fun _ hq => .inl hq
        refine find_erase_of_ne fun heq => hapart k (mem_singleton_self k) ?_
        rw [← heq]
        exact hl
      · exact ⟨hs.shared, fun u hu _ => hs.threads u hu⟩

/-! ### The law -/

def FlowThread.runs : FlowThread → Option Consumption
  | .acting tx _ | .inserting tx _ _ _ => tx.consumption
  | _ => none

section

variable {hmac : String → String} {start : FlowTable} {s : FlowState} {t : FlowThread}

theorem flowStep_last {store store' : FlowStore} {pool : List FlowThread} {t' : FlowThread}
    (hwants : ∀ l ∈ t.wants hmac store, ∀ u ∈ pool, l ∉ u.holds)
    (hexec : t.exec hmac store .ok = (store', t')) :
    (flowSystem hmac).step ⟨store, pool ++ [t]⟩ (.step pool.length .ok) =
      ⟨store', pool ++ [t']⟩ := by
  have hstep : (flowSystem hmac).step ⟨store, pool ++ [t]⟩ (.step pool.length .ok) =
      ⟨(t.exec hmac store .ok).1, pool ++ [(t.exec hmac store .ok).2]⟩ :=
    Threads.lockStep_last FlowReply.ok hwants
  rw [hstep, hexec]

theorem flowStep_quiet {store store' : FlowStore} {pool : List FlowThread} {t' : FlowThread}
    (hwants : t.wants hmac store = []) (hexec : t.exec hmac store .ok = (store', t')) :
    (flowSystem hmac).step ⟨store, pool ++ [t]⟩ (.step pool.length .ok) =
      ⟨store', pool ++ [t']⟩ := by
  refine flowStep_last (fun l hl => ?_) hexec
  rw [hwants] at hl
  cases hl

/-- **A flow that is free can be consumed**: a call that asks for what the flow has, and whose
action does not fail, consumes it if it runs before the flow expires. -/
theorem consumable_run {d : ConsumeCall} (hrow : s.shared.flows.find (hmac d.token) = some row)
    (hnone : row.consumedAt = none) (hfields : d.fields.Matches row) (htoken : d.token ≠ "")
    (hpurpose : d.fields.purpose ≠ "") (haction : d.action = none ∨ d.action = some [])
    (hfree : ∀ t ∈ s.pool, hmac d.token ∉ t.holds) (hclock : s.shared.clock < row.expiresAt) :
    ∃ c ∈ (run (flowSystem hmac).step s (.call (.consumeAuthFlow d) ::
      replicate 6 (.step s.pool.length .ok))).shared.consumed, c.call = d := by
  obtain ⟨store, pool⟩ := s
  have hkey : row.tokenHash = hmac d.token := (mem_of_find hrow).2
  have hclaim : claimable hmac store d store.clock = some row := by
    rw [claimable, hrow]
    exact filter_eq_some_iff.mpr ⟨rfl, decide_eq_true ⟨hfields, hnone, hclock⟩⟩
  have hthread : (FlowCall.consumeAuthFlow d).thread = .beginning d :=
    if_neg (not_or.mpr ⟨htoken, hpurpose⟩)
  have hcall : (flowSystem hmac).step ⟨store, pool⟩ (.call (.consumeAuthFlow d)) =
      ⟨store, pool ++ [.beginning d]⟩ := by
    change (⟨store, pool ++ [(FlowCall.consumeAuthFlow d).thread]⟩ : FlowState) = _
    rw [hthread]
  have hupdating : exec hmac store .ok (.updating d store.clock) =
      (store, .selecting d store.clock (some row)) := by
    simp [exec, flowQuery, hclaim]
  have hwants : ∀ l ∈ wants hmac store (.updating d store.clock),
      ∀ u ∈ pool, l ∉ u.holds := by
    intro l hl u hu
    simp only [wants, hclaim, map_some, toList_some, mem_singleton] at hl
    rw [hl, hkey]
    exact hfree u hu
  let visible : AuthFlow := { row with consumedAt := some store.clock }
  have hselecting : exec hmac store .ok (.selecting d store.clock (some row)) =
      (store, .checking d store.clock (some row) visible) := by
    have hvisible : (some visible).filter (fun f => decide (d.fields.Matches f)) =
        some visible := filter_eq_some_iff.mpr ⟨rfl, decide_eq_true hfields⟩
    simp only [exec, flowQuery, selectFlow]
    rw [hvisible]
  let tx : FlowTx := ⟨some ⟨d, row, store.clock, store.clock⟩, []⟩
  have hdone : ∃ c ∈ (tx.commit store).consumed, c.call = d :=
    ⟨⟨d, row, store.clock, store.clock⟩, mem_append_right _ (mem_singleton_self _), rfl⟩
  have hcheck {next : FlowThread}
      (hnext : checkFlow store d store.clock (some row) visible = next) :
      exec hmac store .ok (.checking d store.clock (some row) visible) =
        (store, next) := by
    rw [← hnext]
    rfl
  have hopen : ¬ ((some row).isNone ∧ visible.consumedAt.isSome) := by simp
  rw [show replicate 6 (Threads.Event.step pool.length FlowReply.ok) =
    [.step pool.length .ok, .step pool.length .ok, .step pool.length .ok, .step pool.length .ok,
      .step pool.length .ok, .step pool.length .ok] from rfl]
  simp only [run_cons, hcall]
  rw [flowStep_quiet rfl (rfl : exec hmac store .ok (.beginning d) = _),
    flowStep_last hwants hupdating, flowStep_quiet rfl hselecting]
  rcases haction with haction | haction
  · have hpassed : checkFlow store d store.clock (some row) visible = .committing tx := by
      unfold checkFlow
      rw [if_neg hopen, if_neg (not_not.mpr hclock)]
      rw [haction]
    rw [flowStep_quiet rfl (hcheck hpassed),
      flowStep_quiet rfl (rfl : exec hmac store .ok (.committing tx) = _),
      flowStep_quiet rfl (rfl : exec hmac (tx.commit store) .ok (.done _) = _)]
    exact hdone
  · have hpassed : checkFlow store d store.clock (some row) visible = .acting tx [] := by
      unfold checkFlow
      rw [if_neg hopen, if_neg (not_not.mpr hclock)]
      rw [haction]
    have hacting : exec hmac store .ok (.acting tx []) = (store, .committing tx) := rfl
    rw [flowStep_quiet rfl (hcheck hpassed), flowStep_quiet rfl hacting,
      flowStep_quiet rfl (rfl : exec hmac store .ok (.committing tx) = _)]
    exact hdone

/-- **A failed action** leaves the store as it is and gives the flow back. -/
theorem failed_action (hs : Threads.LockInv (flowSystem hmac) (FlowInv hmac start)
    (fun s t => t.Knows hmac start s) s) {k : ℕ} {c : Consumption}
    (hk : s.pool[k]? = some t) (hruns : t.runs = some c)
    (hfree : ¬ (flowSystem hmac).Blocked s k t) :
    ((flowSystem hmac).step s (.step k .failed)).shared = s.shared ∧
      ∀ u ∈ ((flowSystem hmac).step s (.step k .failed)).pool, hmac c.call.token ∉ u.holds := by
  have hexec : t.exec hmac s.shared .failed = (s.shared, .fail .action) ∨
      t.exec hmac s.shared .failed = (s.shared, .fail .database) := by
    cases t with
    | acting tx todo => cases todo <;> exact .inl rfl
    | inserting tx claim now todo => exact .inr rfl
    | _ => cases hruns
  have hkey : hmac c.call.token ∈ t.holds := by
    have hknows := hs.thread hk
    have hmem {tx : FlowTx} (htx : tx.Knows hmac start s.shared) (hc : tx.consumption = some c) :
        hmac c.call.token ∈ tx.keys := by
      rw [← (mem_of_find (htx.consumption c hc).2).2]
      exact FlowTx.mem_keys_of_consumption hc
    cases t with
    | acting tx todo | inserting tx claim now todo => exact hmem hknows hruns
    | _ => cases hruns
  have hstep : (flowSystem hmac).step s (.step k .failed) =
      ⟨(t.exec hmac s.shared .failed).1, s.pool.set k (t.exec hmac s.shared .failed).2⟩ :=
    Threads.lockStep_of_some FlowReply.failed hk hfree
  rw [hstep]
  refine ⟨?_, Pool.forall_mem_set (fun j u hjk hj => ?_) ?_⟩
  · rcases hexec with hexec | hexec <;> rw [hexec]
  · exact hs.exclusive.notMem hk hj hjk hkey
  · rcases hexec with hexec | hexec <;> rw [hexec] <;> exact not_mem_nil

end

theorem flowInv_start (hmac : String → String) (clock : Int) (flows : FlowTable) :
    FlowInv hmac flows ⟨clock, flows, [], []⟩ where
  unconsumed _ _ hrow _ := hrow
  once _ := Nat.zero_le 1
  spent _ hc := by cases hc
  allowed _ hc := by cases hc
  available _ _ hrow _ _ _ := hrow
  claimed _ hr := by cases hr
  apart := .nil

/-- **One-time flows.** In every run of consumptions, reads, claims of assertions and cleanups, from
any rows: one flow is consumed at most once, and with it at most one action commits; a consumption
that commits, and an action that runs, asked for what the flow has and came before its expiry; a
failed action leaves the rows as they are and the flow free; a flow that is free, was not consumed
and has not expired can be consumed; and an assertion that expires within the retention of the
cleanup is not claimed a second time before it expires. -/
theorem auth_flow_once (hmac : String → String) (clock : Int) (flows : FlowTable)
    (events : List FlowEvent) (s : FlowState)
    (hs : s = run (flowSystem hmac).step (flowStart clock flows) events) :
    (∀ h, s.shared.consumed.countP (fun c => hmac c.call.token = h) ≤ 1) ∧
      (∀ c ∈ s.shared.consumed, Allowed hmac flows c) ∧
      (∀ t ∈ s.pool, ∀ c, t.runs = some c → Allowed hmac flows c) ∧
      (∀ (k : ℕ) (t : FlowThread) (c : Consumption), s.pool[k]? = some t → t.runs = some c →
        ¬ (flowSystem hmac).Blocked s k t →
        ((flowSystem hmac).step s (.step k .failed)).shared = s.shared ∧
          ∀ u ∈ ((flowSystem hmac).step s (.step k .failed)).pool, hmac c.call.token ∉ u.holds) ∧
      (∀ (d : ConsumeCall) (row : AuthFlow), flows.find (hmac d.token) = some row →
        row.consumedAt = none → d.fields.Matches row → d.token ≠ "" → d.fields.purpose ≠ "" →
        (d.action = none ∨ d.action = some []) →
        (∀ c ∈ s.shared.consumed, hmac c.call.token ≠ hmac d.token) →
        (∀ t ∈ s.pool, hmac d.token ∉ t.holds) → s.shared.clock < row.expiresAt →
        ∃ c ∈ (run (flowSystem hmac).step s (.call (.consumeAuthFlow d) ::
          replicate 6 (.step s.pool.length .ok))).shared.consumed, c.call = d) ∧
      s.shared.claims.Pairwise ClaimRecord.Apart := by
  have hinv : Threads.LockInv (flowSystem hmac) (FlowInv hmac flows)
      (fun s t => t.Knows hmac flows s) s := by
    rw [hs]
    exact (flowKeeps hmac flows).run (Threads.lockInv_start (flowInv_start hmac clock flows))
      (along_of_forall (fun _ _ => trivial) _ _)
  refine ⟨hinv.shared.once, hinv.shared.allowed, fun t ht c hc => ?_,
    fun k t c hk hruns hfree => failed_action hinv hk hruns hfree,
    fun d row hrow hnone hfields htoken hpurpose haction hfresh hfree hclock => ?_,
    hinv.shared.apart⟩
  · have hknows := hinv.threads t ht
    cases t with
    | acting tx todo | inserting tx claim now todo => exact (FlowTx.Knows.consumption hknows c hc).1
    | _ => cases hc
  · have hstored := hinv.shared.available _ row hrow hnone hfresh hclock
    exact consumable_run hstored hnone hfields htoken hpurpose haction hfree hclock

/-! Fixed inputs: a flow whose first consumption has an action that fails. -/

def sampleFlow : AuthFlow := ⟨"token", "oauth", "github", "bind", 7, "s1", "", 100, none⟩

def sampleFlows : FlowTable := ⟨[sampleFlow], nodup_singleton _⟩

def sampleConsume : ConsumeCall := ⟨"token", ⟨"oauth", "github", "bind", 7, ""⟩, some []⟩

/-- The first action fails, and the flow is consumed the second time; a third call comes too
late. -/
def retriedFlow : List FlowEvent :=
  .call (.consumeAuthFlow sampleConsume) :: replicate 4 (.step 0 .ok) ++
    .step 0 .failed :: .call (.consumeAuthFlow sampleConsume) ::
      replicate 6 (.step 1 .ok) ++
    .call (.consumeAuthFlow sampleConsume) :: replicate 4 (.step 2 .ok)

/-- One consumption commits, and the other calls return errors. -/
theorem auth_flow_once_retried :
    (run (flowSystem id).step (flowStart 0 sampleFlows) retriedFlow).pool =
        [.done (.failed .action), .done (.consumed { sampleFlow with consumedAt := some 0 }),
          .done (.failed .consumed)] ∧
      ∀ c ∈ (run (flowSystem id).step (flowStart 0 sampleFlows) retriedFlow).shared.consumed,
        Allowed id sampleFlows c :=
  ⟨by decide +kernel, (auth_flow_once id 0 sampleFlows retriedFlow _ rfl).2.1⟩

end NewApi.Model
