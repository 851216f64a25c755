import NewApi.Foundation.GoMap
import Mathlib.Tactic.NormNum

/-!
# The group ratio of a task

A request is priced with a ratio of its group, and an administrator can override that ratio for the
users of one group. The submission of a task looks the override up with the group of the user and
the group that is used; the settlement by tokens has only the group that is stored with the task and
uses it for both.

Sources: `relay/helper/price.go`, `service/task_billing.go`, `model/task.go` and
`setting/ratio_setting/group_ratio.go`.
-/

namespace NewApi.Service

open Option AList

/-- The two tables of group ratios. A ratio of `groupGroupRatio` is found by the group of the user
and then by the group that is used. -/
structure RatioSetting where
  groupRatio : GoMap String ℚ
  groupGroupRatio : GoMap String (GoMap String ℚ)

def RatioSetting.getGroupRatio (setting : RatioSetting) (name : String) : ℚ :=
  (setting.groupRatio.lookup name).getD 1

def RatioSetting.getGroupGroupRatio (setting : RatioSetting) (userGroup usingGroup : String) :
    Option ℚ :=
  (setting.groupGroupRatio.lookup userGroup).bind (·.lookup usingGroup)

structure RequestGroups where
  userGroup : String
  usingGroup : String

structure GroupRatioInfo where
  groupRatio : ℚ
  groupSpecialRatio : ℚ
  hasSpecialRatio : Bool

/-- The ratio of a submission, and the groups of the request after it: `autoGroup` is the group that
the automatic selection has stored in the context. -/
def handleGroupRatio (setting : RatioSetting) (autoGroup : Option String) (info : RequestGroups) :
    GroupRatioInfo × RequestGroups :=
  let info := { info with usingGroup := autoGroup.getD info.usingGroup }
  match setting.getGroupGroupRatio info.userGroup info.usingGroup with
  | some userGroupRatio => (⟨userGroupRatio, userGroupRatio, true⟩, info)
  | none => (⟨setting.getGroupRatio info.usingGroup, -1, false⟩, info)

def initTaskGroup (info : RequestGroups) : String := info.usingGroup

/-- The group of a settlement. `storedGroup` is the group of the user's row, if the row can be
read. -/
def settledGroup (taskGroup : String) (storedGroup : Option String) : String :=
  if taskGroup = "" then storedGroup.getD taskGroup else taskGroup

/-- The ratio of a settlement by tokens. Without a group nothing is settled. -/
def finalGroupRatio (setting : RatioSetting) (taskGroup : String) (storedGroup : Option String) :
    Option ℚ :=
  let group := settledGroup taskGroup storedGroup
  if group = "" then none
  else
    match setting.getGroupGroupRatio group group with
    | some userGroupRatio => some userGroupRatio
    | none => some (setting.getGroupRatio group)

/-- A settlement of the request that applies a ratio applies the one of the submission. -/
def SameRatio (setting : RatioSetting) (autoGroup storedGroup : Option String)
    (info : RequestGroups) : Prop :=
  let submitted := handleGroupRatio setting autoGroup info
  ∀ ratio ∈ finalGroupRatio setting (initTaskGroup submitted.2) storedGroup,
    ratio = submitted.1.groupRatio

variable {setting : RatioSetting} {autoGroup storedGroup : Option String} {info : RequestGroups}

theorem handleGroupRatio_groupRatio : (handleGroupRatio setting autoGroup info).1.groupRatio =
      (setting.getGroupGroupRatio info.userGroup (autoGroup.getD info.usingGroup)).getD
        (setting.getGroupRatio (autoGroup.getD info.usingGroup)) := by
  unfold handleGroupRatio
  dsimp only
  split
  next hratio => rw [hratio, getD_some]
  next hnone => rw [hnone, getD_none]

theorem handleGroupRatio_usingGroup :
    (handleGroupRatio setting autoGroup info).2.usingGroup = autoGroup.getD info.usingGroup := by
  unfold handleGroupRatio
  dsimp only
  split <;> rfl

theorem finalGroupRatio_eq {taskGroup : String} (h : settledGroup taskGroup storedGroup ≠ "") :
    finalGroupRatio setting taskGroup storedGroup =
      some ((setting.getGroupGroupRatio (settledGroup taskGroup storedGroup)
        (settledGroup taskGroup storedGroup)).getD
          (setting.getGroupRatio (settledGroup taskGroup storedGroup))) := by
  unfold finalGroupRatio
  rw [if_neg h]
  split
  next hratio => rw [hratio, getD_some]
  next hnone => rw [hnone, getD_none]

def overrideSetting (userGroup usingGroup : String) : RatioSetting where
  groupRatio := ∅
  groupGroupRatio := insert userGroup (insert usingGroup 0 ∅) ∅

theorem getGroupGroupRatio_overrideSetting (userGroup usingGroup group : String) :
    (overrideSetting userGroup usingGroup).getGroupGroupRatio group usingGroup =
      if group = userGroup then some 0 else none := by
  rw [RatioSetting.getGroupGroupRatio, overrideSetting, GoMap.lookup_insert]
  split
  · rw [bind_some, lookup_insert]
  · rfl

/-- **The ratios agree.** A settlement applies the ratio of the submission if and only if it has no
group, or the override of its group for its own users equals the override for the group of the user;
the plain ratio stands for a missing override. They agree under every setting exactly for a user of
the group that is used. -/
theorem sameRatio_iff (autoGroup storedGroup : Option String) (info : RequestGroups) :
    let usingGroup := autoGroup.getD info.usingGroup
    let group := settledGroup usingGroup storedGroup
    (∀ setting, SameRatio setting autoGroup storedGroup info ↔ group = "" ∨
          (setting.getGroupGroupRatio group group).getD (setting.getGroupRatio group) =
            (setting.getGroupGroupRatio info.userGroup usingGroup).getD
              (setting.getGroupRatio usingGroup)) ∧
      (usingGroup ≠ "" → ((∀ setting, SameRatio setting autoGroup storedGroup info) ↔
          info.userGroup = usingGroup)) := by
  intro usingGroup group
  have hiff (setting : RatioSetting) : SameRatio setting autoGroup storedGroup info ↔
      group = "" ∨ (setting.getGroupGroupRatio group group).getD (setting.getGroupRatio group) =
        (setting.getGroupGroupRatio info.userGroup usingGroup).getD
          (setting.getGroupRatio usingGroup) := by
    rw [SameRatio, initTaskGroup, handleGroupRatio_groupRatio, handleGroupRatio_usingGroup]
    by_cases hgroup : group = ""
    · have hnone : finalGroupRatio setting usingGroup storedGroup = none := if_pos hgroup
      simp [hgroup, hnone, usingGroup]
    · rw [finalGroupRatio_eq hgroup]
      simp [hgroup, group, usingGroup]
  refine ⟨hiff, fun husing => ⟨fun hall => ?_, fun huser setting => ?_⟩⟩
  · have hgroup : group = usingGroup := if_neg husing
    have hagree := ((hiff (overrideSetting info.userGroup usingGroup)).mp (hall _)).resolve_left
      (hgroup ▸ husing)
    rw [hgroup, getGroupGroupRatio_overrideSetting, getGroupGroupRatio_overrideSetting,
      if_pos rfl] at hagree
    by_contra hne
    rw [if_neg (Ne.symm hne)] at hagree
    exact absurd (hagree : (1 : ℚ) = 0) one_ne_zero
  · rw [hiff setting, huser, show group = usingGroup from if_neg husing]
    exact .inr rfl

/-- A user of `vip` pays half in the group `default`, and the settlement charges the full ratio. -/
theorem settlement_ratio_differs :
    let setting : RatioSetting :=
      ⟨∅, insert "vip" (insert "default" (1 / 2) ∅) ∅⟩
    (handleGroupRatio setting none ⟨"vip", "default"⟩).1.groupRatio = 1 / 2 ∧
      finalGroupRatio setting "default" (some "vip") = some 1 ∧
      ¬ SameRatio setting none (some "vip") ⟨"vip", "default"⟩ := by
  intro setting
  have hsubmitted : (handleGroupRatio setting none ⟨"vip", "default"⟩).1.groupRatio = 1 / 2 := by
    decide +kernel
  have hsettled : finalGroupRatio setting "default" (some "vip") = some 1 := by decide +kernel
  refine ⟨hsubmitted, hsettled, fun hsame => ?_⟩
  have hratio := hsame 1 hsettled
  rw [hsubmitted] at hratio
  norm_num at hratio

end NewApi.Service
