import NewApi.Model.Subscription

/-!
# Subscriptions created from a plan

`CreateUserSubscriptionFromPlanTx` checks how often the user has bought the plan, moves the user to
the group of the plan, and creates a row that remembers the group before.
-/

namespace NewApi.Model

open GoText

/-- A row of `subscription_plans`; `calcPlanEndTime` gives the end of a subscription that starts at
a time, if the duration of the plan is valid. A plan with `maxPurchasePerUser ≤ 0` has no limit. -/
structure SubscriptionPlan where
  id : Int
  maxPurchasePerUser : Int
  upgradeGroup : String
  downgradeGroup : String
  calcPlanEndTime : Int → Option Int

/-- A row of `user_subscriptions`, without the columns that only concern the usage.

Source: `model/subscription.go`. -/
structure SubscriptionRow where
  id : Int
  userId : Int
  planId : Int
  endTime : Int
  status : SubscriptionStatus
  source : String
  upgradeGroup : String
  prevUserGroup : String
  downgradeGroup : String

inductive PurchaseError
  | invalidPlan
  | invalidUserId
  | purchaseLimit
  | invalidDuration
  | invalidUserSubscriptionId
  | recordNotFound
  | database

/-- The replies to the statements of `CreateUserSubscriptionFromPlanTx`: the clock, whether the
purchases can be counted, the group read, the group updated and the row created, and the id that the
database gives the row. -/
structure CreateReplies where
  now : Int
  count : Bool
  readGroup : Bool
  updateGroup : Bool
  create : Bool
  id : Int

def purchases (subs : Table SubscriptionRow.id) (userId planId : Int) : ℕ :=
  subs.rows.countP fun s => s.userId = userId ∧ s.planId = planId

def Elevates (group upgradeGroup : String) : Prop := upgradeGroup ≠ "" ∧ group ≠ upgradeGroup
  deriving Decidable

/-- `CreateUserSubscriptionFromPlanTx`, for a user whose group is `group`: the rows and the group
afterwards. -/
def createUserSubscriptionFromPlanTx (subs : Table SubscriptionRow.id) (group : String)
    (userId : Int) (plan : SubscriptionPlan) (source : String) (r : CreateReplies) :
    Except PurchaseError (SubscriptionRow × String) :=
  if plan.id = 0 then .error .invalidPlan
  else if userId ≤ 0 then .error .invalidUserId
  else if 0 < plan.maxPurchasePerUser ∧ r.count = false then .error .database
  else if 0 < plan.maxPurchasePerUser ∧
      plan.maxPurchasePerUser ≤ purchases subs userId plan.id then .error .purchaseLimit
  else match plan.calcPlanEndTime r.now with
    | none => .error .invalidDuration
    | some endUnix =>
      let upgradeGroup := trimSpace plan.upgradeGroup
      if upgradeGroup ≠ "" ∧ r.readGroup = false then .error .database
      else if Elevates group upgradeGroup ∧ r.updateGroup = false then .error .database
      else if r.create = false ∨ r.id ∈ subs.keys then .error .database
      else .ok (⟨r.id, userId, plan.id, endUnix, .active, source, upgradeGroup,
        if Elevates group upgradeGroup then group else "", trimSpace plan.downgradeGroup⟩,
        if Elevates group upgradeGroup then upgradeGroup else group)

variable {subs : Table SubscriptionRow.id} {group : String} {userId : Int}
  {plan : SubscriptionPlan} {source : String} {r : CreateReplies} {row : SubscriptionRow}
  {group' : String}
  (h : createUserSubscriptionFromPlanTx subs group userId plan source r = .ok (row, group'))
include h

/-- **The created row** has a new id and the group of the plan, it remembers the group before it if
that was another one, and the user then has the group of the plan. The limit was not reached. -/
theorem create_ok :
    row.id ∉ subs.keys ∧ row.userId = userId ∧ row.planId = plan.id ∧ row.status = .active ∧
      (0 < plan.maxPurchasePerUser → purchases subs userId plan.id < plan.maxPurchasePerUser) ∧
      row.upgradeGroup = trimSpace plan.upgradeGroup ∧
      row.downgradeGroup = trimSpace plan.downgradeGroup ∧
      row.prevUserGroup = (if Elevates group row.upgradeGroup then group else "") ∧
      group' = (if Elevates group row.upgradeGroup then row.upgradeGroup else group) := by
  revert h
  fun_cases createUserSubscriptionFromPlanTx subs group userId plan source r with
  | case9 _ _ _ hlimit endUnix _ upgradeGroup _ _ hcreate =>
    rintro ⟨⟩
    exact ⟨fun hmem => hcreate (.inr hmem), rfl, rfl, rfl, fun hpos => by omega, rfl, rfl, rfl, rfl⟩
  | _ => rintro ⟨⟩

theorem group_of_create : group' = if row.upgradeGroup = "" then group else row.upgradeGroup := by
  obtain ⟨-, -, -, -, -, -, -, -, hgroup⟩ := create_ok h
  rw [hgroup]
  by_cases hblank : row.upgradeGroup = ""
  · simp [Elevates, hblank]
  · by_cases heq : group = row.upgradeGroup <;> simp [Elevates, heq]

end NewApi.Model
