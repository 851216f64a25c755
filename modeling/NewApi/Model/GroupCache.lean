import NewApi.Foundation.Threads
import NewApi.Model.AuthFence

/-!
# The cached group of a user

A change of the group commits the row and calls `RefreshUserGroupCache`, which writes the group into
the hash and reads the row again. `GetUserCache` fills the hash from a row that it has read before.
The scripts of both compare authentication versions, and a change of the group keeps the version of
the row. So a row that was read before a change passes after the refresh of the change has ended.

The id, the quota and the version of the user are fixed.
-/

namespace NewApi.Model

open StepSystem List

/-- The group of the row, the keys of the user, and the `Group` field of the hash, if there is
one. -/
structure GroupStore where
  group : String
  cache : UserCache
  cachedGroup : String

def GroupStore.populateUserCache (s : GroupStore) (user : UserBase) (group : String) :
    Option GroupStore :=
  match writeUserCache s.cache user true with
  | .ok cache => some { s with cache := cache, cachedGroup := group }
  | .error _ => none

def GroupStore.updateGroupField (s : GroupStore) (user : UserBase) (group : String) :
    Option GroupStore :=
  match updateUserCacheFieldAtVersion s.cache user.id user.authVersion with
  | .ok cache => some { s with
      cache := cache
      cachedGroup := if s.cache.currentVersion = user.authVersion then group else s.cachedGroup }
  | .error _ => none

inductive GroupCall
  | getUserCache
  | changeGroup (group : String)

inductive GroupThread
  | looking
  | hydrating
  | flooring (group : String)
  | writing (group : String)
  | changing (group : String)
  | refreshing
  | updating (group : String) (tries : ℕ)
  | verifying (group : String) (tries : ℕ)
  /-- A call of `GetUserCache` has ended, or a change that was not committed. -/
  | returned
  /-- `RefreshUserGroupCache` has returned `nil`. -/
  | refreshed
  | failed
  deriving DecidableEq

/-- The next step of a call. -/
def GroupThread.exec (user : UserBase) (s : GroupStore) (t : GroupThread) (ans : ScriptReply) :
    GroupStore × GroupThread :=
  match t, ans with
  | .looking, .ok =>
    (s, if (cacheGetUserBase s.cache user.id).isSome then .returned else .hydrating)
  | .looking, _ => (s, .hydrating)
  | .hydrating, .ok => (s, .flooring s.group)
  | .hydrating, _ => (s, .returned)
  | .flooring group, .ok =>
    (s, if user.authVersion < getUserAuthVersionFloor s.cache then .returned else .writing group)
  | .flooring group, _ => (s, .writing group)
  | .writing _, .unreachable => (s, .returned)
  | .writing group, _ => ((s.populateUserCache user group).getD s, .returned)
  | .changing group, .ok => ({ s with group := group }, .refreshing)
  | .changing _, _ => (s, .returned)
  | .refreshing, .ok => (s, .updating s.group 3)
  | .refreshing, _ => (s, .failed)
  | .updating _ _, .unreachable => (s, .failed)
  | .updating group _, .lost => ((s.updateGroupField user group).getD s, .failed)
  | .updating group tries, .ok =>
    match s.updateGroupField user group with
    | none => (s, .failed)
    | some s => (s, if tries = 0 then .failed else .verifying group tries)
  | .verifying group tries, .ok =>
    (s, if s.group = group then .refreshed else .updating s.group (tries - 1))
  | .verifying _ _, _ => (s, .failed)
  | .returned, _ | .refreshed, _ | .failed, _ => (s, t)

/-- The calls for one user as a system of threads. Outside the calls the hash expires. -/
def groupSystem (user : UserBase) :
    Threads.System GroupStore GroupThread GroupCall ScriptReply Unit where
  start _ c := match c with
    | .getUserCache => .looking
    | .changeGroup group => .changing group
  exec s t ans := t.exec user s ans
  outside s _ := { s with cache := { s.cache with hash := none } }

abbrev GroupCacheState := Threads.State GroupStore GroupThread

abbrev GroupCacheEvent := Threads.Event GroupCall ScriptReply Unit

/-! ### Refreshes under way -/

def GroupStore.Stale (s : GroupStore) : Prop := s.cache.hash ≠ none ∧ s.cachedGroup ≠ s.group

/-- The thread is a refresh that has yet to write the group of the row, or has failed. -/
def GroupThread.repairs (group : String) : GroupThread → Bool
  | .refreshing | .updating _ _ | .failed => true
  | .verifying old _ => old ≠ group
  | _ => false

/-- A hydration writes a group that is not the one of the row any more, and no refresh is under
way. -/
def writesOutdated (user : UserBase) (s : GroupCacheState) : GroupCacheEvent → Bool
  | .step k ans =>
    match s.pool[k]?, ans with
    | some (.writing _), .unreachable => false
    | some (.writing group), _ => (s.shared.populateUserCache user group).isSome &&
        group ≠ s.shared.group && !s.pool.any (·.repairs s.shared.group)
    | _, _ => false
  | _ => false

structure GroupInv (user : UserBase) (s : GroupCacheState) : Prop where
  version : s.shared.cache.hash ≠ none → s.shared.cache.currentVersion = user.authVersion
  repaired : s.shared.Stale → ∃ t ∈ s.pool, t.repairs s.shared.group

section

variable {user : UserBase} {s s' : GroupStore} {t : GroupThread} {ans : ScriptReply}
  {group : String} (hversion : s.cache.hash ≠ none → s.cache.currentVersion = user.authVersion)
include hversion

theorem populateUserCache_some (h : s.populateUserCache user group = some s') :
    (s'.cache.hash ≠ none → s'.cache.currentVersion = user.authVersion) ∧ s'.group = s.group ∧
      s'.cachedGroup = group := by
  unfold GroupStore.populateUserCache writeUserCache at h
  split_ifs at h
  · cases h
    exact ⟨hversion, rfl, rfl⟩
  · cases h
    exact ⟨fun _ => rfl, rfl, rfl⟩

theorem updateGroupField_some (h : s.updateGroupField user group = some s') :
    (s'.cache.hash ≠ none → s'.cache.currentVersion = user.authVersion) ∧ s'.group = s.group ∧
      (s'.cache.hash ≠ none → s'.cachedGroup = group) := by
  unfold GroupStore.updateGroupField updateUserCacheFieldAtVersion at h
  rcases hhash : s.cache.hash with - | hash
  · simp only [hhash] at h
    split_ifs at h <;> cases h <;> simp
  have hcurrent : hash.authVersion = user.authVersion := by
    simpa [UserCache.currentVersion, hhash] using hversion (by simp [hhash])
  simp only [hhash, UserCache.currentVersion] at h
  split_ifs at h
  cases h
  simp [UserCache.currentVersion, hcurrent]

/-- **One step of a call.** The hash keeps the version of the row. If it has another group than the
row after the step, then the call is a refresh under way, or the hash had another group before, or
the step was the write of a hydration. -/
theorem groupExec_spec :
    let r := t.exec user s ans
    (r.1.cache.hash ≠ none → r.1.cache.currentVersion = user.authVersion) ∧
      (r.1.Stale → r.2.repairs r.1.group = true ∨ r.1.group = s.group ∧ t.repairs s.group = false ∧
          (s.Stale ∨ ∃ group, t = .writing group ∧ ans ≠ .unreachable ∧
            (s.populateUserCache user group).isSome = true ∧ group ≠ s.group)) := by
  fun_cases GroupThread.exec user s t ans with
  | case8 ans group hreply =>
    cases hwrite : s.populateUserCache user group with
    | none => exact ⟨hversion, fun hstale => .inr ⟨rfl, rfl, .inl hstale⟩⟩
    | some s' =>
      obtain ⟨hversion', hgroup, hcached⟩ := populateUserCache_some hversion hwrite
      refine ⟨hversion', fun hstale => .inr ⟨hgroup, rfl, .inr ?_⟩⟩
      exact ⟨group, rfl, hreply, by simp [hwrite], hcached ▸ hgroup ▸ hstale.2⟩
  | case14 group tries =>
    cases hupdate : s.updateGroupField user group with
    | none => exact ⟨hversion, fun _ => .inl rfl⟩
    | some s' => exact ⟨(updateGroupField_some hversion hupdate).1, fun _ => .inl rfl⟩
  | case16 group tries s' hupdate =>
    obtain ⟨hversion', -, hcached⟩ := updateGroupField_some hversion hupdate
    refine ⟨hversion', fun hstale => .inl ?_⟩
    split_ifs
    · rfl
    · exact decide_eq_true (hcached hstale.1 ▸ hstale.2)
  | case17 group tries =>
    refine ⟨hversion, fun hstale => ?_⟩
    split_ifs with hsame
    · exact .inr ⟨rfl, by simp [GroupThread.repairs, hsame], .inl hstale⟩
    · exact .inl rfl
  | case9 | case11 | case12 | case13 | case15 | case18 | case21 =>
    exact ⟨hversion, fun _ => .inl rfl⟩
  | _ => exact ⟨hversion, fun hstale => .inr ⟨rfl, rfl, .inl hstale⟩⟩

end

/-- **One step of the system** leaves a refresh under way if the hash has another group. -/
theorem GroupInv.step {user : UserBase} {s : GroupCacheState} (h : GroupInv user s)
    (e : GroupCacheEvent) (he : writesOutdated user s e = false) :
    GroupInv user ((groupSystem user).step s e) := by
  cases e with
  | call c =>
    refine ⟨h.version, fun hstale => ?_⟩
    obtain ⟨t, ht, hrepairs⟩ := h.repaired hstale
    exact ⟨t, mem_append_left _ ht, hrepairs⟩
  | outside e => exact ⟨fun hhash => absurd rfl hhash, fun hstale => absurd rfl hstale.1⟩
  | step k ans =>
    rcases hk : s.pool[k]? with - | t
    · rw [Threads.step_of_none ans hk]
      exact h
    rw [Threads.step_of_some ans hk]
    obtain ⟨hversion, hspec⟩ := @groupExec_spec user s.shared t ans h.version
    refine ⟨hversion, fun hstale => ?_⟩
    rcases hspec hstale with hrepairs | ⟨hgroup, hnot, hcause⟩
    · refine ⟨_, ?_, hrepairs⟩
      exact List.mem_of_getElem? (List.getElem?_set_self (List.getElem?_eq_some_iff.mp hk).1)
    -- Another call is a refresh under way, and stays one.
    obtain ⟨u, hu, hrepairs⟩ : ∃ u ∈ s.pool, u.repairs s.shared.group := by
      rcases hcause with hbefore | ⟨group, rfl, hreply, hwrites, hne⟩
      · exact h.repaired hbefore
      · cases ans <;> simp_all [writesOutdated]
    obtain ⟨j, hj⟩ := mem_iff_getElem?.mp hu
    have hjk : k ≠ j := by
      rintro rfl
      obtain rfl := Option.some.inj (hk.symm.trans hj)
      exact absurd hrepairs (by simp [hnot])
    refine ⟨u, List.mem_of_getElem? ((getElem?_set_ne hjk).trans hj), ?_⟩
    exact hgroup.symm ▸ hrepairs

/-- **The cached group converges** in every run in which no hydration writes an outdated group while
no refresh is under way: if all calls have ended and every refresh has returned `nil`, then there is
no hash, or it has the group of the row. -/
theorem group_converges (user : UserBase) (start : GroupStore) (hstart : start.cache.hash ≠ none →
      start.cachedGroup = start.group ∧ start.cache.currentVersion = user.authVersion)
    (events : List GroupCacheEvent)
    (hevents : Along (groupSystem user).step (fun s e => writesOutdated user s e = false)
      ⟨start, []⟩ events)
    (s : GroupCacheState) (hs : s = run (groupSystem user).step ⟨start, []⟩ events)
    (hended : ∀ t ∈ s.pool, t = .returned ∨ t = .refreshed) :
    s.shared.cache.hash = none ∨ s.shared.cachedGroup = s.shared.group := by
  have hinv : GroupInv user s := by
    rw [hs]
    refine run_induction (fun s e hs he => hs.step e he)
      ⟨fun hhash => (hstart hhash).2, fun hstale => ?_⟩ hevents
    exact absurd (hstart hstale.1).1 hstale.2
  by_contra hstale
  obtain ⟨t, ht, hrepairs⟩ := hinv.repaired (not_or.mp hstale)
  rcases hended t ht with rfl | rfl <;> cases hrepairs

def sampleGroup : GroupStore := ⟨"default", ⟨none, 0, 0⟩, ""⟩

def sampleHydration : List GroupCacheEvent :=
  [.call .getUserCache, .step 0 .ok, .step 0 .ok, .step 0 .ok]

def sampleChange : List GroupCacheEvent :=
  [.call (.changeGroup "vip"), .step 1 .ok, .step 1 .ok, .step 1 .ok, .step 1 .ok]

theorem group_converges_sampleChange :
    let s := run (groupSystem ⟨1, 0, 1⟩).step ⟨sampleGroup, []⟩
      (sampleHydration ++ .step 0 .ok :: sampleChange)
    s.shared.cache.hash = none ∨ s.shared.cachedGroup = s.shared.group :=
  group_converges ⟨1, 0, 1⟩ sampleGroup (by simp [sampleGroup]) _ (by decide) _ rfl (by decide)

/-- The hydration writes `default` after the refresh has ended. -/
theorem delayed_hydration_overwrites :
    let s := run (groupSystem ⟨1, 0, 1⟩).step ⟨sampleGroup, []⟩
      (sampleHydration ++ sampleChange ++ [.step 0 .ok])
    s.pool = [.returned, .refreshed] ∧ s.shared.cache.hash ≠ none ∧
      s.shared.cachedGroup = "default" ∧ s.shared.group = "vip" := by
  decide

end NewApi.Model
