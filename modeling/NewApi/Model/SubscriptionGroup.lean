import NewApi.Foundation.Run
import NewApi.Model.SubscriptionPurchase

/-!
# The group of a user with subscriptions

A purchase moves the user to the group of the plan and keeps the group before it on the row of the
subscription. Three paths take a subscription away: the expiry pass, and the invalidation and the
deletion by an administrator. Each of them keeps the group while another subscription with a group
runs, and otherwise goes back to the group that the row of the subscription has kept. All statements
are restricted to one user, so the state holds the rows and the group of that user.

What a row has kept is the group before its own purchase. The group before the first purchase is
therefore restored only if the subscription that kept it is the last one to go. `Orderly` is the
condition on each step under which this is the case.
-/

namespace NewApi.Model

open StepSystem List Option Table GoText

/-! ### The removal of a subscription -/

structure GroupState where
  group : String
  subs : Table SubscriptionRow.id

/-- The row is of a subscription with a group that has not ended.

Source: the query in `model/subscription.go`. -/
def Running (now : Int) (row : SubscriptionRow) : Prop :=
  row.status = .active ∧ now < row.endTime ∧ row.upgradeGroup ≠ ""
  deriving Decidable

/-- The replies to the statements of a removal: the change of the rows, the query for another
subscription that runs, the query for the last expired one, the read of the group and its update. -/
structure RemovalReplies where
  save : Bool
  active : Bool
  expired : Bool
  readGroup : Bool
  updateGroup : Bool

def RemovalReplies.allOk : RemovalReplies := ⟨true, true, true, true, true⟩

/-- `downgradeUserGroupForSubscriptionTx`: the new group of the user, if it changes. -/
def downgradeUserGroupForSubscriptionTx (st : GroupState) (sub : SubscriptionRow) (now : Int)
    (r : RemovalReplies) : Except PurchaseError (Option String) :=
  let downgradeGroup := trimSpace sub.downgradeGroup
  let upgradeGroup := trimSpace sub.upgradeGroup
  if downgradeGroup = "" ∧ upgradeGroup = "" then .ok none
  else if r.readGroup = false then .error .database
  else if r.active = true ∧ ∃ row ∈ st.subs.rows, Running now row ∧ row.id ≠ sub.id then .ok none
  else if downgradeGroup = "" ∧ st.group ≠ upgradeGroup then .ok none
  else
    let target := if downgradeGroup = "" then trimSpace sub.prevUserGroup else downgradeGroup
    if target = "" ∨ target = st.group then .ok none
    else if r.updateGroup = false then .error .database
    else .ok (some target)

def adminInvalidateUserSubscription (st : GroupState) (userSubscriptionId now : Int)
    (r : RemovalReplies) : GroupState × Option PurchaseError :=
  if userSubscriptionId ≤ 0 then (st, some .invalidUserSubscriptionId)
  else match st.subs.find userSubscriptionId with
    | none => (st, some .recordNotFound)
    | some sub =>
      if r.save = false then (st, some .database)
      else
        let sub' := { sub with status := .cancelled, endTime := now }
        let subs := st.subs.save sub'
        match downgradeUserGroupForSubscriptionTx { st with subs := subs } sub' now r with
        | .error e => (st, some e)
        | .ok target => (⟨target.getD st.group, subs⟩, none)

def adminDeleteUserSubscription (st : GroupState) (userSubscriptionId now : Int)
    (r : RemovalReplies) : GroupState × Option PurchaseError :=
  if userSubscriptionId ≤ 0 then (st, some .invalidUserSubscriptionId)
  else match st.subs.find userSubscriptionId with
    | none => (st, some .recordNotFound)
    | some sub =>
      match downgradeUserGroupForSubscriptionTx st sub now r with
      | .error e => (st, some e)
      | .ok target =>
        if r.save = false then (st, some .database)
        else (⟨target.getD st.group, st.subs.erase userSubscriptionId⟩, none)

/-- The row `row` ends after the row `row'`, in the order `end_time desc, id desc`. -/
def EndsAfter (row row' : SubscriptionRow) : Prop :=
  row'.endTime < row.endTime ∨ row'.endTime = row.endTime ∧ row'.id < row.id
  deriving Decidable

def lastEnding : List SubscriptionRow → Option SubscriptionRow
  | [] => none
  | row :: rest =>
    match lastEnding rest with
    | none => some row
    | some row' => if EndsAfter row' row then some row' else some row

def Due (now : Int) (row : SubscriptionRow) : Prop :=
  row.status = .active ∧ 0 < row.endTime ∧ row.endTime ≤ now
  deriving Decidable

def SubscriptionRow.expire (now : Int) (row : SubscriptionRow) : SubscriptionRow :=
  if Due now row then { row with status := .expired } else row

@[simp] theorem SubscriptionRow.expire_id (now : Int) (row : SubscriptionRow) :
    (row.expire now).id = row.id := by
  unfold expire
  split_ifs <;> rfl

def expireRows (now : Int) (subs : Table SubscriptionRow.id) : Table SubscriptionRow.id :=
  subs.mapRows (SubscriptionRow.expire now) (SubscriptionRow.expire_id now)

/-- The group that the user has after the expiry pass, if it changes; `subs` are the rows after the
update.

Source: `model/subscription.go`. -/
def expiredTarget (group : String) (subs : Table SubscriptionRow.id) (r : RemovalReplies) :
    Except PurchaseError (Option String) :=
  if r.expired = false then .ok none
  else match lastEnding (subs.rows.filter fun row => row.status = .expired ∧
      (row.downgradeGroup ≠ "" ∨ row.upgradeGroup ≠ "")) with
    | none => .ok none
    | some lastExpired =>
      if r.readGroup = false then .error .database
      else
        let downgradeGroup := trimSpace lastExpired.downgradeGroup
        let upgradeGroup := trimSpace lastExpired.upgradeGroup
        let prevGroup := trimSpace lastExpired.prevUserGroup
        if downgradeGroup = "" ∧ (upgradeGroup = "" ∨ prevGroup = "") then .ok none
        else if downgradeGroup = "" ∧ group ≠ upgradeGroup then .ok none
        else
          let target := if downgradeGroup = "" then prevGroup else downgradeGroup
          if target = "" ∨ target = group then .ok none
          else if r.updateGroup = false then .error .database
          else .ok (some target)

/-- The transaction of `ExpireDueSubscriptions` for the user. -/
def expireDueSubscriptions (st : GroupState) (now : Int) (r : RemovalReplies) :
    GroupState × Option PurchaseError :=
  if r.save = false then (st, some .database)
  else
    let subs := expireRows now st.subs
    if r.active = true ∧ ∃ row ∈ subs.rows, Running now row then ({ st with subs := subs }, none)
    else match expiredTarget st.group subs r with
      | .error e => (st, some e)
      | .ok target => (⟨target.getD st.group, subs⟩, none)

inductive GroupEvent
  | purchase (userId : Int) (plan : SubscriptionPlan) (source : String) (r : CreateReplies)
  | expire (now : Int) (r : RemovalReplies)
  | invalidate (userSubscriptionId now : Int) (r : RemovalReplies)
  | delete (userSubscriptionId now : Int) (r : RemovalReplies)

def groupStep (st : GroupState) : GroupEvent → GroupState
  | .purchase userId plan source r =>
    match createUserSubscriptionFromPlanTx st.subs st.group userId plan source r with
    | .error _ => st
    | .ok (row, group) => ⟨group, st.subs.insert row⟩
  | .expire now r => (expireDueSubscriptions st now r).1
  | .invalidate userSubscriptionId now r =>
    (adminInvalidateUserSubscription st userSubscriptionId now r).1
  | .delete userSubscriptionId now r => (adminDeleteUserSubscription st userSubscriptionId now r).1

/-! ### What a step can do -/

/-- The group of a user of the group `group` after the end of the subscription: the explicit group
of the plan, or the group before the purchase if the purchase has changed it and the user still has
the group of the plan. -/
def SubscriptionRow.groupAfter (row : SubscriptionRow) (group : String) : String :=
  if trimSpace row.downgradeGroup ≠ "" then trimSpace row.downgradeGroup
  else if trimSpace row.upgradeGroup ≠ "" ∧ trimSpace row.prevUserGroup ≠ "" ∧
    group = trimSpace row.upgradeGroup then trimSpace row.prevUserGroup
  else group

/-- The group after a removal that leaves the rows `subs`: it is kept while a subscription runs, and
is otherwise the one after the end of the picked row. -/
def settleGroup (group : String) (subs : Table SubscriptionRow.id) (now : Int)
    (r : RemovalReplies) (picked : Option SubscriptionRow) : String :=
  if r.active = true ∧ ∃ row ∈ subs.rows, Running now row then group
  else (picked.map fun row => row.groupAfter group).getD group

def pickExpired (subs : Table SubscriptionRow.id) (r : RemovalReplies) : Option SubscriptionRow :=
  if r.expired = true then lastEnding (subs.rows.filter fun row => row.status = .expired ∧
    (row.downgradeGroup ≠ "" ∨ row.upgradeGroup ≠ ""))
  else none

variable {r : RemovalReplies} {sub row : SubscriptionRow} {target : Option String}
  {subs : Table SubscriptionRow.id}

theorem downgrade_ok {st : GroupState} {now : Int}
    (h : downgradeUserGroupForSubscriptionTx st sub now r = .ok target) :
    target.getD st.group =
      if r.active = true ∧ ∃ row ∈ st.subs.rows, Running now row ∧ row.id ≠ sub.id then st.group
      else sub.groupAfter st.group := by
  unfold downgradeUserGroupForSubscriptionTx at h
  by_cases hothers : r.active = true ∧ ∃ row ∈ st.subs.rows, Running now row ∧ row.id ≠ sub.id
  · simp only [if_pos hothers] at h ⊢
    split_ifs at h <;> cases h <;> rfl
  · simp only [if_neg hothers] at h ⊢
    unfold SubscriptionRow.groupAfter
    split_ifs at h <;> cases h <;> grind

theorem expiredTarget_ok {group : String} (h : expiredTarget group subs r = .ok target) :
    target.getD group = ((pickExpired subs r).map fun row => row.groupAfter group).getD group := by
  unfold expiredTarget at h
  unfold pickExpired
  cases hexpired : r.expired with
  | false =>
    simp only [hexpired] at h
    cases h
    rfl
  | true =>
    simp only [hexpired] at h ⊢
    cases hlast : lastEnding (subs.rows.filter fun row => row.status = .expired ∧
        (row.downgradeGroup ≠ "" ∨ row.upgradeGroup ≠ "")) with
    | none =>
      simp only [hlast] at h
      cases h
      rfl
    | some row =>
      simp only [hlast] at h
      simp only [SubscriptionRow.groupAfter]
      split_ifs at h <;> cases h <;> grind

def boughtGroup (st : GroupState) : GroupEvent → Option String
  | .purchase userId plan source r =>
    match createUserSubscriptionFromPlanTx st.subs st.group userId plan source r with
    | .error _ => none
    | .ok (row, _) => if row.upgradeGroup = "" then none else some row.upgradeGroup
  | .expire _ _ | .invalidate _ _ _ | .delete _ _ _ => none

/-- **What a step can do.** -/
inductive GroupMove (st : GroupState) : GroupEvent → GroupState → Prop
  /-- A step that fails is rolled back. -/
  | failed {e : GroupEvent} (hbought : boughtGroup st e = none) : GroupMove st e st
  | bought {userId : Int} {plan : SubscriptionPlan} {source : String} {r : CreateReplies}
      {row : SubscriptionRow} {group : String}
      (hcreate : createUserSubscriptionFromPlanTx st.subs st.group userId plan source r =
        .ok (row, group)) :
      GroupMove st (.purchase userId plan source r) ⟨group, st.subs.insert row⟩
  | expired (now : Int) (r : RemovalReplies) :
      GroupMove st (.expire now r) ⟨settleGroup st.group (expireRows now st.subs) now r
        (pickExpired (expireRows now st.subs) r), expireRows now st.subs⟩
  | removed {e : GroupEvent} {id now : Int} {r : RemovalReplies} {sub : SubscriptionRow}
      {subs : Table SubscriptionRow.id} (he : e = .invalidate id now r ∨ e = .delete id now r)
      (hsub : st.subs.find id = some sub)
      (hsubs : subs = st.subs.save { sub with status := .cancelled, endTime := now } ∨
        subs = st.subs.erase id) :
      GroupMove st e ⟨settleGroup st.group subs now r (some sub), subs⟩

/-- The subscription that is taken away does not run any more, so the query for another one that
runs looks at all rows that are left. -/
theorem settleGroup_of_others {st : GroupState} {now : Int} {p : SubscriptionRow → Prop}
    (hothers : ∀ row, row ∈ subs.rows ∧ Running now row ↔ p row ∧ Running now row ∧ row.id ≠ sub.id)
    [Decidable (∃ row, p row ∧ Running now row ∧ row.id ≠ sub.id)] :
    settleGroup st.group subs now r (some sub) =
      if r.active = true ∧ ∃ row, p row ∧ Running now row ∧ row.id ≠ sub.id then st.group
      else sub.groupAfter st.group := by
  have hiff : (∃ row ∈ subs.rows, Running now row) ↔
      ∃ row, p row ∧ Running now row ∧ row.id ≠ sub.id := exists_congr hothers
  simp [settleGroup, hiff]

theorem invalidate_move (st : GroupState) (id now : Int) (r : RemovalReplies) :
    GroupMove st (.invalidate id now r) (adminInvalidateUserSubscription st id now r).1 := by
  fun_cases adminInvalidateUserSubscription st id now r with
  | case5 _ sub hsub _ sub' subs target htarget =>
    rw [downgrade_ok htarget]
    have hmove := GroupMove.removed (.inl (Eq.refl (GroupEvent.invalidate id now r))) hsub
      (.inl rfl)
    rwa [settleGroup_of_others fun row => ⟨fun h => ⟨h.1, h.2, ?_⟩, fun h => ⟨h.1, h.2.1⟩⟩] at hmove
    rcases mem_save h.1 with rfl | ⟨-, hne⟩
    · exact absurd h.2.1 (by simp)
    · exact hne
  | _ => exact .failed rfl

theorem delete_move (st : GroupState) (id now : Int) (r : RemovalReplies) :
    GroupMove st (.delete id now r) (adminDeleteUserSubscription st id now r).1 := by
  fun_cases adminDeleteUserSubscription st id now r with
  | case5 _ sub hsub target htarget =>
    rw [downgrade_ok htarget]
    have hmove := GroupMove.removed (.inr (Eq.refl (GroupEvent.delete id now r))) hsub (.inr rfl)
    obtain ⟨-, rfl⟩ := mem_of_find hsub
    have hothers : ∀ row, row ∈ (st.subs.erase sub.id).rows ∧ Running now row ↔
        row ∈ st.subs.rows ∧ Running now row ∧ row.id ≠ sub.id := by
      intro row
      rw [mem_erase, and_assoc, and_comm (b := Running now row)]
    rwa [settleGroup_of_others hothers] at hmove
  | _ => exact .failed rfl

theorem groupStep_move (st : GroupState) (e : GroupEvent) : GroupMove st e (groupStep st e) := by
  cases e with
  | purchase userId plan source r =>
    cases hcreate : createUserSubscriptionFromPlanTx st.subs st.group userId plan source r with
    | error e =>
      simp only [groupStep, hcreate]
      exact .failed (by simp only [boughtGroup, hcreate])
    | ok result =>
      simp only [groupStep, hcreate]
      exact .bought hcreate
  | expire now r =>
    simp only [groupStep, expireDueSubscriptions]
    split_ifs with hsave hrunning
    · exact .failed rfl
    · have hmove := @GroupMove.expired st now r
      rwa [settleGroup, if_pos hrunning] at hmove
    cases htarget : expiredTarget st.group (expireRows now st.subs) r with
    | error e => exact .failed rfl
    | ok target =>
      have hmove := @GroupMove.expired st now r
      rwa [settleGroup, if_neg hrunning, ← expiredTarget_ok htarget] at hmove
  | invalidate id now r => exact invalidate_move st id now r
  | delete id now r => exact delete_move st id now r

/-! ### Conditions on the steps -/

def GroupEvent.now : GroupEvent → Int
  | .purchase _ _ _ r => r.now
  | .expire now _ | .invalidate _ now _ | .delete _ now _ => now

def Answered : GroupEvent → Prop
  | .purchase _ _ _ _ => True
  | .expire _ r => r.active = true ∧ r.expired = true
  | .invalidate _ _ r | .delete _ _ r => r.active = true

def NoDowngrade : GroupEvent → Prop
  | .purchase _ plan _ _ => trimSpace plan.downgradeGroup = ""
  | .expire _ _ | .invalidate _ _ _ | .delete _ _ _ => True

/-- The step keeps the row with the group before for last:

* while a subscription with a group is active, only plans with the group of the user are bought;
* the expiry pass takes a subscription that keeps a group before only if it ends after every other
  subscription with a group that is active or expired;
* an administrator takes an active one away only if no other subscription runs. -/
def Orderly (st : GroupState) : GroupEvent → Prop
  | .purchase _ plan _ _ => trimSpace plan.upgradeGroup ≠ "" →
      (∃ row ∈ st.subs.rows, row.status = .active ∧ row.upgradeGroup ≠ "") →
      trimSpace plan.upgradeGroup = st.group
  | .expire now _ => ∀ row ∈ st.subs.rows, Due now row → row.prevUserGroup ≠ "" →
      ∀ row' ∈ st.subs.rows, row'.id ≠ row.id → row'.upgradeGroup ≠ "" →
        row'.status ≠ .cancelled → EndsAfter row row'
  | .invalidate id now _ | .delete id now _ => ∀ row ∈ st.subs.rows, row.id = id →
      row.status = .active → row.prevUserGroup ≠ "" →
      ∀ row' ∈ st.subs.rows, row'.id ≠ id → ¬ Running now row'

instance : DecidablePred Answered
  | .purchase _ _ _ _ => inferInstanceAs (Decidable True)
  | .expire _ r => inferInstanceAs (Decidable (r.active = true ∧ r.expired = true))
  | .invalidate _ _ r | .delete _ _ r => inferInstanceAs (Decidable (r.active = true))

instance : DecidablePred NoDowngrade
  | .purchase _ plan _ _ => inferInstanceAs (Decidable (trimSpace plan.downgradeGroup = ""))
  | .expire _ _ | .invalidate _ _ _ | .delete _ _ _ => inferInstanceAs (Decidable True)

instance (st : GroupState) : DecidablePred (Orderly st)
  | .purchase _ _ _ _ => inferInstanceAs (Decidable (_ → (∃ row ∈ st.subs.rows, _) → _))
  | .expire _ _ => inferInstanceAs (Decidable (∀ row ∈ st.subs.rows, _ → _ →
      ∀ row' ∈ st.subs.rows, _ → _ → _ → _))
  | .invalidate _ _ _ | .delete _ _ _ => inferInstanceAs (Decidable (∀ row ∈ st.subs.rows,
      _ → _ → _ → ∀ row' ∈ st.subs.rows, _ → ¬ _))

/-! ### Subscriptions that run -/

open SubscriptionRow

section

variable {st : GroupState} {group : String} {now now' : Int} {r : RemovalReplies}
  {row : SubscriptionRow} {subs : Table SubscriptionRow.id}

theorem Running.mono (h : Running now' row) (hle : now ≤ now') : Running now row :=
  ⟨h.1, lt_of_le_of_lt hle h.2.1, h.2.2⟩

theorem expireRows_origin (h : row ∈ (expireRows now subs).rows) :
    ∃ row₀ ∈ subs.rows, row = row₀.expire now :=
  let ⟨row₀, hrow₀, heq⟩ := mem_map.mp h
  ⟨row₀, hrow₀, heq.symm⟩

theorem mem_of_mem_expireRows (h : row ∈ (expireRows now subs).rows)
    (hactive : row.status = .active) : row ∈ subs.rows := by
  obtain ⟨row₀, hrow₀, rfl⟩ := expireRows_origin h
  unfold expire at hactive ⊢
  split_ifs with hdue
  · simp [hdue] at hactive
  · exact hrow₀

theorem mem_of_mem_removed {id : Int} (hid : sub.id = id)
    (hsubs : subs = st.subs.save { sub with status := .cancelled, endTime := now } ∨
      subs = st.subs.erase id)
    (h : row ∈ subs.rows) (hactive : row.status = .active) : row ∈ st.subs.rows ∧ row.id ≠ id := by
  subst hid
  obtain rfl | rfl := hsubs
  · obtain rfl | hmem := mem_save h
    · cases hactive
    · exact hmem
  · exact mem_erase.mp h

theorem settled_running {subs₀ : Table SubscriptionRow.id} (hactive : r.active = true)
    (hle : now ≤ now') (hmem : ∀ row ∈ subs.rows, row.status = .active → row ∈ subs₀.rows)
    (hrow : row ∈ subs.rows) (hrunning : Running now' row) :
    row ∈ subs₀.rows ∧ ∀ group picked, settleGroup group subs now r picked = group :=
  ⟨hmem row hrow hrunning.1, fun _ _ => if_pos ⟨hactive, row, hrow, hrunning.mono hle⟩⟩

end

/-! ### The group while a subscription runs -/

def tracedStep (s : GroupState × Option String) (e : GroupEvent) : GroupState × Option String :=
  (groupStep s.1 e, (boughtGroup s.1 e).or s.2)

/-- If a subscription runs at `now`, the user has the group of the plan that was bought last. -/
def LastBought (now : Int) (s : GroupState × Option String) : Prop :=
  ∀ row ∈ s.1.subs.rows, Running now row → s.2 = some s.1.group

theorem lastBought_step {now : Int} (s : GroupState × Option String) (e : GroupEvent)
    (h : LastBought now s) (hstep : Answered e ∧ e.now ≤ now) :
    LastBought now (tracedStep s e) := by
  obtain ⟨hanswered, hle⟩ := hstep
  intro row hrow hrunning
  have hmove := groupStep_move s.1 e
  simp only [tracedStep] at hrow ⊢
  generalize groupStep s.1 e = st' at hmove hrow
  cases hmove with
  | failed hbought =>
    rw [hbought]
    exact h row hrow hrunning
  | @bought userId plan source r row' group hcreate =>
    have hgroup := group_of_create hcreate
    simp only [boughtGroup, hcreate]
    by_cases hblank : row'.upgradeGroup = ""
    · -- the new row has no group, so it is another one that runs
      rw [mem_insert (create_ok hcreate).1] at hrow
      obtain rfl | hmem := hrow
      · exact absurd hblank hrunning.2.2
      · simpa [hblank, hgroup] using h row hmem hrunning
    · simp [hblank, hgroup]
  | expired now' r =>
    have hle' : now' ≤ now := hle
    obtain ⟨hmem, hgroup⟩ := settled_running hanswered.1 hle'
      (fun _ => mem_of_mem_expireRows) hrow hrunning
    simp only [hgroup]
    exact h row hmem hrunning
  | @removed _ id now' r sub subs he hsub hsubs =>
    have hactive : r.active = true := by obtain rfl | rfl := he <;> exact hanswered
    have hle' : now' ≤ now := by obtain rfl | rfl := he <;> exact hle
    have hbought : boughtGroup s.1 e = none := by obtain rfl | rfl := he <;> rfl
    obtain ⟨hmem, hgroup⟩ := settled_running hactive hle'
      (fun _ h h' => (mem_of_mem_removed (mem_of_find hsub).2 hsubs h h').1) hrow hrunning
    rw [hbought]
    simp only [hgroup]
    exact h row hmem hrunning

/-! ### The group before the first purchase -/

/-- The row of a plan without an explicit group for its end, that keeps no group before or `base`.
-/
structure SubscriptionRow.Plain (base : String) (row : SubscriptionRow) : Prop where
  trimmed : trimSpace row.upgradeGroup = row.upgradeGroup
  noDowngrade : row.downgradeGroup = ""
  prev : row.prevUserGroup = "" ∨ row.prevUserGroup = base ∧ row.upgradeGroup ≠ ""

section

variable {base group : String} {row : SubscriptionRow}

theorem SubscriptionRow.Plain.groupAfter (h : row.Plain base) (hbase : trimSpace base = base) :
    row.groupAfter group = group ∨ row.groupAfter group = base := by
  unfold SubscriptionRow.groupAfter
  rw [h.noDowngrade, trimSpace_empty, if_neg (by simp)]
  split_ifs with hkept
  · obtain hprev | ⟨hprev, -⟩ := h.prev
    · simp [hprev] at hkept
    · exact .inr (by rw [hprev, hbase])
  · exact .inl rfl

theorem SubscriptionRow.Plain.groupAfter_of_prev (h : row.Plain base)
    (hbase : trimSpace base = base) (hne : base ≠ "") (hprev : row.prevUserGroup = base)
    (hgroup : row.upgradeGroup = group) : row.groupAfter group = base := by
  obtain hblank | ⟨-, hupgrade⟩ := h.prev
  · exact absurd (hprev.symm.trans hblank) hne
  · unfold SubscriptionRow.groupAfter
    rw [h.noDowngrade, if_neg (by simp), h.trimmed, hprev, hbase]
    exact if_pos ⟨hupgrade, hne, hgroup.symm⟩

end

theorem lastEnding_isSome {rows : List SubscriptionRow} (h : row ∈ rows) :
    ∃ row', lastEnding rows = some row' := by
  rcases rows with - | ⟨head, rest⟩
  · cases h
  simp only [lastEnding]
  rcases lastEnding rest with - | row'
  · exact ⟨head, rfl⟩
  simp only
  split_ifs
  · exact ⟨row', rfl⟩
  · exact ⟨head, rfl⟩

theorem lastEnding_spec {rows : List SubscriptionRow} (h : lastEnding rows = some row) :
    row ∈ rows ∧ ∀ row' ∈ rows, ¬ EndsAfter row' row := by
  induction rows generalizing row with
  | nil => cases h
  | cons head rest ih =>
    simp only [lastEnding] at h
    simp only [forall_mem_cons]
    cases hrest : lastEnding rest with
    | none =>
      rw [hrest] at h
      obtain rfl := some.inj h
      refine ⟨mem_cons_self, by simp [EndsAfter], fun row' hrow' => ?_⟩
      obtain ⟨last, hlast⟩ := lastEnding_isSome hrow'
      cases hrest.symm.trans hlast
    | some last =>
      obtain ⟨hmem, hlast⟩ := ih hrest
      simp only [hrest] at h
      split_ifs at h with hafter
      · obtain rfl := some.inj h
        refine ⟨mem_cons_of_mem _ hmem, ?_, hlast⟩
        simp only [EndsAfter] at hafter ⊢
        omega
      · obtain rfl := some.inj h
        refine ⟨mem_cons_self, by simp [EndsAfter], fun row' hrow' => ?_⟩
        have hnot := hlast row' hrow'
        simp only [EndsAfter] at hafter hnot ⊢
        omega

/-- Every row is plain; the user has the group `base` or there is an active row that has kept it;
and the subscriptions that run at `now` have the group of the user. -/
structure Restorable (base : String) (now : Int) (st : GroupState) : Prop where
  plain : ∀ row ∈ st.subs.rows, row.Plain base
  kept : st.group = base ∨ ∃ row ∈ st.subs.rows, row.status = .active ∧
    row.upgradeGroup = st.group ∧ row.prevUserGroup = base
  running : ∀ row ∈ st.subs.rows, Running now row → row.upgradeGroup = st.group

section

variable {base : String} {now : Int} {st : GroupState}

theorem SubscriptionRow.expire_plain (h : row.Plain base) (now' : Int) :
    (row.expire now').Plain base := by
  unfold expire
  split_ifs
  · exact ⟨h.trimmed, h.noDowngrade, h.prev⟩
  · exact h

variable {now' : Int}

theorem plain_of_mem_expireRows (h : ∀ row ∈ subs.rows, row.Plain base) :
    ∀ row ∈ (expireRows now' subs).rows, row.Plain base := by
  intro row hrow
  obtain ⟨row₀, hrow₀, rfl⟩ := expireRows_origin hrow
  exact expire_plain (h row₀ hrow₀) now'

theorem settleGroup_eq (hbase : trimSpace base = base) (group : String)
    (subs : Table SubscriptionRow.id) (now' : Int) (r : RemovalReplies)
    (picked : Option SubscriptionRow) (hpicked : ∀ row ∈ picked, row.Plain base) :
    settleGroup group subs now' r picked = group ∨ settleGroup group subs now' r picked = base := by
  unfold settleGroup
  split_ifs
  · exact .inl rfl
  cases picked with
  | none => exact .inl rfl
  | some row =>
    exact (hpicked row rfl).groupAfter hbase

theorem pickExpired_mem (h : row ∈ pickExpired subs r) : row ∈ subs.rows := by
  unfold pickExpired at h
  split_ifs at h
  · exact mem_of_mem_filter (lastEnding_spec h).1
  · cases h

theorem pickExpired_of_orderly (hplain : ∀ row ∈ st.subs.rows, row.Plain base)
    (hexpired : r.expired = true) (hrow : row ∈ st.subs.rows) (hdue : Due now' row)
    (hupgrade : row.upgradeGroup ≠ "") (hprev : row.prevUserGroup ≠ "")
    (horderly : Orderly st (.expire now' r)) :
    pickExpired (expireRows now' st.subs) r = some { row with status := .expired } := by
  have hexpire : row.expire now' = { row with status := .expired } := if_pos hdue
  have hmem : row.expire now' ∈ (expireRows now' st.subs).rows.filter fun row =>
      row.status = .expired ∧ (row.downgradeGroup ≠ "" ∨ row.upgradeGroup ≠ "") := by
    refine mem_filter.mpr ⟨mem_map_of_mem hrow, ?_⟩
    simp [hexpire, hupgrade]
  obtain ⟨last, hlast⟩ := lastEnding_isSome hmem
  obtain ⟨hfilter, hafter⟩ := lastEnding_spec hlast
  obtain ⟨hlastmem, hcond⟩ := mem_filter.mp hfilter
  obtain ⟨row₀, hrow₀, rfl⟩ := expireRows_origin hlastmem
  rw [pickExpired, if_pos hexpired, hlast]
  by_cases hid : row₀.id = row.id
  · rw [inj_on_of_nodup_map st.subs.nodup hrow₀ hrow hid, hexpire]
  -- another row would end before the row that keeps the group before
  have hends := hafter _ hmem
  simp only [decide_eq_true_eq] at hcond
  have hplain₀ := (expire_plain (hplain row₀ hrow₀) now').noDowngrade
  have hrow₀' : row₀.upgradeGroup ≠ "" ∧ row₀.status ≠ .cancelled ∧ ¬ EndsAfter row row₀ := by
    unfold expire at hcond hends hplain₀
    split_ifs at hcond hends hplain₀ with hdue₀
    · exact ⟨hcond.2.resolve_left fun h => h hplain₀, by simp [hdue₀.1], hends⟩
    · exact ⟨hcond.2.resolve_left fun h => h hplain₀, by simp [hcond.1], hends⟩
  exact absurd (horderly row hrow hdue hprev row₀ hrow₀ hid hrow₀'.1 hrow₀'.2.1) hrow₀'.2.2

section

variable (h : Restorable base now st)
include h

theorem Restorable.bought {userId : Int} {plan : SubscriptionPlan} {source : String}
    {r : CreateReplies} {row : SubscriptionRow} {group : String}
    (hne : base ≠ "")
    (hcreate : createUserSubscriptionFromPlanTx st.subs st.group userId plan source r =
      .ok (row, group)) (hplan : NoDowngrade (.purchase userId plan source r))
    (horderly : Orderly st (.purchase userId plan source r)) :
    Restorable base now ⟨group, st.subs.insert row⟩ := by
  obtain ⟨hid, -, -, hactive, -, hupgrade, hdowngrade, hprev, hgroup⟩ := create_ok hcreate
  have hmem : ∀ row', row' ∈ (st.subs.insert row).rows ↔ row' = row ∨ row' ∈ st.subs.rows :=
    fun _ => mem_insert hid
  -- a purchase that changes the group is made while no other subscription is active
  have hnone : Elevates st.group row.upgradeGroup →
      ∀ row' ∈ st.subs.rows, row'.status = .active → row'.upgradeGroup = "" := by
    intro helevates row' hrow' hactive'
    by_contra hne'
    refine helevates.2 ((horderly ?_ ⟨row', hrow', hactive', hne'⟩).symm.trans hupgrade.symm)
    rw [← hupgrade]
    exact helevates.1
  have hbefore : Elevates st.group row.upgradeGroup → st.group = base := by
    intro helevates
    obtain hbase | ⟨row', hrow', hactive', -, hprev'⟩ := h.kept
    · exact hbase
    · obtain hblank | ⟨-, hgroup''⟩ := (h.plain row' hrow').prev
      · exact absurd (hprev'.symm.trans hblank) hne
      · exact absurd (hnone helevates row' hrow' hactive') hgroup''
  have hplain : row.Plain base := by
    refine ⟨by rw [hupgrade, trimSpace_trimSpace], hdowngrade.trans hplan, ?_⟩
    rw [hprev]
    split_ifs with helevates
    · exact .inr ⟨hbefore helevates, helevates.1⟩
    · exact .inl rfl
  refine ⟨fun row' hrow' => ?_, ?_, fun row' hrow' hrunning => ?_⟩
  · obtain rfl | hrow' := (hmem row').mp hrow'
    · exact hplain
    · exact h.plain row' hrow'
  · by_cases helevates : Elevates st.group row.upgradeGroup
    · rw [if_pos helevates] at hprev hgroup
      exact .inr ⟨row, (hmem row).mpr (.inl rfl), hactive, hgroup.symm,
        hprev.trans (hbefore helevates)⟩
    rw [if_neg helevates] at hgroup
    rw [hgroup]
    obtain hbase | ⟨row', hrow', hkept⟩ := h.kept
    · exact .inl hbase
    · exact .inr ⟨row', (hmem row').mpr (.inr hrow'), hkept⟩
  · by_cases helevates : Elevates st.group row.upgradeGroup
    · rw [if_pos helevates] at hgroup
      obtain rfl | hrow' := (hmem row').mp hrow'
      · exact hgroup.symm
      · exact absurd (hnone helevates row' hrow' hrunning.1) hrunning.2.2
    · rw [if_neg helevates] at hgroup
      rw [hgroup]
      obtain rfl | hrow' := (hmem row').mp hrow'
      · by_contra hother
        exact helevates ⟨hrunning.2.2, fun heq => hother heq.symm⟩
      · exact h.running row' hrow' hrunning

variable (hbase : trimSpace base = base)
include hbase

theorem Restorable.expired {r : RemovalReplies} (hne : base ≠ "") (hle : now' ≤ now)
    (hanswered : Answered (.expire now' r)) (horderly : Orderly st (.expire now' r)) :
    Restorable base now ⟨settleGroup st.group (expireRows now' st.subs) now' r
      (pickExpired (expireRows now' st.subs) r), expireRows now' st.subs⟩ := by
  have hplain : ∀ row ∈ (expireRows now' st.subs).rows, row.Plain base :=
    plain_of_mem_expireRows h.plain
  refine ⟨hplain, ?_, fun row hrow hrunning => ?_⟩
  · dsimp only
    have hgroup := settleGroup_eq hbase st.group (expireRows now' st.subs) now' r
      (pickExpired (expireRows now' st.subs) r) fun row hrow => hplain row (pickExpired_mem hrow)
    obtain hstart | ⟨row, hrow, hactive, hupgrade, hprev⟩ := h.kept
    · rw [hstart] at hgroup ⊢
      exact .inl (or_self_iff.mp hgroup)
    by_cases hdue : Due now' row
    · -- the row that keeps the group before is taken, and it is the last one
      have hplain₀ := h.plain row hrow
      have hne' : row.prevUserGroup ≠ "" := hprev ▸ hne
      have hupgrade' : row.upgradeGroup ≠ "" := (hplain₀.prev.resolve_left hne').2
      have hnone : ¬ ∃ row' ∈ (expireRows now' st.subs).rows, Running now' row' := by
        rintro ⟨row', hrow', hrunning⟩
        have hmem := mem_of_mem_expireRows hrow' hrunning.1
        have hid : row'.id ≠ row.id := fun heq => by
          rw [inj_on_of_nodup_map st.subs.nodup hmem hrow heq] at hrunning
          exact absurd hrunning.2.1 (not_lt.mpr hdue.2.2)
        have hends := horderly row hrow hdue hne' row' hmem hid hrunning.2.2 (by simp [hrunning.1])
        have hlater := hrunning.2.1
        have hover := hdue.2.2
        simp only [EndsAfter] at hends
        omega
      left
      rw [settleGroup, if_neg fun hrun => hnone hrun.2,
        pickExpired_of_orderly h.plain hanswered.2 hrow hdue hupgrade' hne' horderly]
      exact SubscriptionRow.Plain.groupAfter_of_prev ⟨hplain₀.trimmed, hplain₀.noDowngrade,
        hplain₀.prev⟩ hbase hne hprev hupgrade
    · have hstays : row ∈ (expireRows now' st.subs).rows :=
        mem_map.mpr ⟨row, hrow, if_neg hdue⟩
      obtain hsame | hback := hgroup
      · exact .inr ⟨row, hstays, hactive, hupgrade.trans hsame.symm, hprev⟩
      · exact .inl hback
  · obtain ⟨hmem, hgroup⟩ := settled_running hanswered.1 hle
      (fun _ => mem_of_mem_expireRows) hrow hrunning
    simp only [hgroup]
    exact h.running row hmem hrunning

theorem Restorable.removed {id : Int} {r : RemovalReplies} {sub : SubscriptionRow}
    {subs : Table SubscriptionRow.id} (hne : base ≠ "") (hle : now' ≤ now)
    (hactive : r.active = true) (hsub : st.subs.find id = some sub)
    (hsubs : subs = st.subs.save { sub with status := .cancelled, endTime := now' } ∨
      subs = st.subs.erase id)
    (hlast : ∀ row ∈ st.subs.rows, row.id = id → row.status = .active → row.prevUserGroup ≠ "" →
      ∀ row' ∈ st.subs.rows, row'.id ≠ id → ¬ Running now' row') :
    Restorable base now ⟨settleGroup st.group subs now' r (some sub), subs⟩ := by
  obtain ⟨hsubmem, hsubid⟩ := mem_of_find hsub
  have hplain := h.plain sub hsubmem
  refine ⟨fun row hrow => ?_, ?_, fun row hrow hrunning => ?_⟩
  · obtain rfl | rfl := hsubs
    · obtain rfl | ⟨hmem, -⟩ := mem_save hrow
      · exact ⟨hplain.trimmed, hplain.noDowngrade, hplain.prev⟩
      · exact h.plain row hmem
    · exact h.plain row (mem_erase.mp hrow).1
  · dsimp only
    have hgroup := settleGroup_eq hbase st.group subs now' r (some sub) fun row hrow =>
      some.inj hrow ▸ hplain
    obtain hstart | ⟨row, hrow, hrowactive, hupgrade, hprev⟩ := h.kept
    · rw [hstart] at hgroup ⊢
      exact .inl (or_self_iff.mp hgroup)
    by_cases hid : row.id = id
    · -- the row that keeps the group before is taken, so no other subscription runs
      have hnone : ¬ ∃ row' ∈ subs.rows, Running now' row' := by
        rintro ⟨row', hrow', hrunning⟩
        obtain ⟨hmem, hid'⟩ := mem_of_mem_removed hsubid hsubs hrow' hrunning.1
        exact hlast row hrow hid hrowactive (hprev ▸ hne) row' hmem hid' hrunning
      obtain rfl := inj_on_of_nodup_map st.subs.nodup hrow hsubmem (hid.trans hsubid.symm)
      left
      rw [settleGroup, if_neg fun hrun => hnone hrun.2]
      exact hplain.groupAfter_of_prev hbase hne hprev hupgrade
    · have hstays : row ∈ subs.rows := by
        obtain rfl | rfl := hsubs
        · exact mem_save_of_ne hrow (hsubid ▸ hid)
        · exact mem_erase.mpr ⟨hrow, hid⟩
      obtain hsame | hback := hgroup
      · exact .inr ⟨row, hstays, hrowactive, hupgrade.trans hsame.symm, hprev⟩
      · exact .inl hback
  · obtain ⟨hmem, hgroup⟩ := settled_running hactive hle
      (fun _ h h' => (mem_of_mem_removed hsubid hsubs h h').1) hrow hrunning
    simp only [hgroup]
    exact h.running row hmem hrunning

end

/-- **One step of an orderly run.** -/
theorem restorable_step (hbase : trimSpace base = base) (hne : base ≠ "") (st : GroupState)
    (e : GroupEvent) (h : Restorable base now st)
    (hstep : (Answered e ∧ e.now ≤ now) ∧ NoDowngrade e ∧ Orderly st e) :
    Restorable base now (groupStep st e) := by
  obtain ⟨⟨hanswered, hle⟩, hplan, horderly⟩ := hstep
  have hmove := groupStep_move st e
  generalize groupStep st e = st' at hmove
  cases hmove with
  | failed => exact h
  | bought hcreate => exact h.bought hne hcreate hplan horderly
  | expired => exact h.expired hbase hne hle hanswered horderly
  | removed he hsub hsubs =>
    obtain rfl | rfl := he <;> exact h.removed hbase hne hle hanswered hsub hsubs horderly

end

/-- **The group is restored.** In every run from a user without subscriptions whose queries answer,
while a subscription with a group runs the user has the group of the plan that was bought last. In
an orderly run every subscription that runs has the group of the user, and once no subscription with
a group is active the user has the group again that it had before the first one. -/
theorem group_restored {st : GroupState} (hempty : st.subs.rows = [])
    (htrim : trimSpace st.group = st.group) (hne : st.group ≠ "") {events : List GroupEvent}
    {now : Int} (hanswered : ∀ e ∈ events, Answered e ∧ e.now ≤ now) :
    (∀ row ∈ (run groupStep st events).subs.rows, Running now row →
      (run tracedStep (st, none) events).2 = some (run groupStep st events).group) ∧
    ((∀ e ∈ events, NoDowngrade e) → Along groupStep Orderly st events →
      (∀ row ∈ (run groupStep st events).subs.rows, Running now row →
        row.upgradeGroup = (run groupStep st events).group) ∧
      ((∀ row ∈ (run groupStep st events).subs.rows, row.status = .active →
        row.upgradeGroup = "") → (run groupStep st events).group = st.group)) := by
  have hstep : Along groupStep (fun _ e => Answered e ∧ e.now ≤ now) st events :=
    along_of_forall_mem hanswered
  refine ⟨fun row hrow hrunning => ?_, fun hplans horderly => ?_⟩
  · have hfst : (run tracedStep (st, none) events).1 = run groupStep st events :=
      run_map (fun _ _ => rfl) (st, none) events
    have hlast : LastBought now (run tracedStep (st, none) events) :=
      run_induction lastBought_step (fun row hrow => by simp [hempty] at hrow)
        (along_of_forall_mem hanswered)
    rw [← hfst] at hrow ⊢
    exact hlast row hrow hrunning
  · have hstart : Restorable st.group now st :=
      ⟨fun row hrow => by simp [hempty] at hrow, .inl rfl, fun row hrow => by simp [hempty] at hrow⟩
    have hend : Restorable st.group now (run groupStep st events) :=
      run_induction (restorable_step htrim hne) hstart
        (along_and.mpr ⟨hstep, along_and.mpr ⟨along_of_forall_mem hplans, horderly⟩⟩)
    refine ⟨hend.running, fun hnone => ?_⟩
    obtain hbase | ⟨row, hrow, hactive, -, hprev⟩ := hend.kept
    · exact hbase
    -- a row that has kept the group is active, so the plan has a group
    obtain hblank | ⟨-, hupgrade⟩ := (hend.plain row hrow).prev
    · exact absurd (hprev.symm.trans hblank) hne
    · exact absurd (hnone row hrow hactive) hupgrade

def samplePlan (id : Int) (group : String) (duration : Int) : SubscriptionPlan :=
  ⟨id, 0, group, "", fun now => some (now + duration)⟩

def samplePurchase (plan : SubscriptionPlan) (now : Int) (id : Int) : GroupEvent :=
  .purchase 1 plan "order" ⟨now, true, true, true, true, id⟩

def sampleUser : GroupState := ⟨"default", ⟨[], by decide⟩⟩

def sampleRenewal : List GroupEvent :=
  [samplePurchase (samplePlan 1 "vip" 100) 10 1, samplePurchase (samplePlan 2 "vip" 10) 20 2,
    .expire 50 .allOk, .expire 120 .allOk]

theorem group_restored_sampleRenewal :
    (run groupStep sampleUser sampleRenewal).group = "default" := by
  have hanswered : ∀ e ∈ sampleRenewal, Answered e ∧ e.now ≤ 120 := by decide
  have hplans : ∀ e ∈ sampleRenewal, NoDowngrade e := by decide +kernel
  have horderly : Along groupStep Orderly sampleUser sampleRenewal := by decide +kernel
  have hnone : ∀ row ∈ (run groupStep sampleUser sampleRenewal).subs.rows, row.status = .active →
      row.upgradeGroup = "" := by decide +kernel
  exact ((group_restored rfl (by decide) (by decide) hanswered).2 hplans horderly).2 hnone

/-- A subscription to `vip` and a later one to `svip`. When both have expired, one after the other,
the user has the group `vip`; when the second one is invalidated while the first one runs, the user
keeps the group `svip`. -/
theorem group_not_restored : (run groupStep sampleUser [samplePurchase (samplePlan 1 "vip" 10) 10 1,
      samplePurchase (samplePlan 2 "svip" 20) 15 2, .expire 25 .allOk, .expire 45 .allOk]).group =
        "vip" ∧
    (∀ row ∈ (run groupStep sampleUser [samplePurchase (samplePlan 1 "vip" 10) 10 1,
        samplePurchase (samplePlan 2 "svip" 20) 15 2, .expire 25 .allOk,
        .expire 45 .allOk]).subs.rows, row.status = .expired) ∧
    (run groupStep sampleUser [samplePurchase (samplePlan 1 "vip" 10) 10 1,
      samplePurchase (samplePlan 2 "svip" 20) 15 2, .invalidate 2 16 .allOk]).group = "svip" ∧
    (∀ row ∈ (run groupStep sampleUser [samplePurchase (samplePlan 1 "vip" 10) 10 1,
      samplePurchase (samplePlan 2 "svip" 20) 15 2, .invalidate 2 16 .allOk]).subs.rows,
        Running 16 row → row.upgradeGroup = "vip") := by
  decide +kernel

/-! ### What an expiry pass may change -/

section

variable (st : GroupState) (now : Int) (r : RemovalReplies)

end

end NewApi.Model
