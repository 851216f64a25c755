import NewApi.Foundation.Table

/-!
# System tasks and their locks

The rows of `system_tasks` and `system_task_locks`, and each statement that the functions of
`model/system_task.go` run on them. A task is claimed with a lock row of its type, which a worker
renews while it runs the task. The payload and the timestamps of a task decide nothing and are left
out; the numeric id of a task, which is as unique as its task id, is the task id here.
-/

namespace NewApi.Model

open Table

inductive SystemTaskStatus
  | pending
  | running
  | succeeded
  | failed
  deriving DecidableEq, Repr

/-- A row of `system_tasks`. A legacy row has no active key. -/
structure SystemTask where
  taskId : String
  type : String
  status : SystemTaskStatus
  activeKey : Option String
  state : String
  result : String
  error : String
  lockedBy : String
  deriving DecidableEq, Repr

/-- A row of `system_task_locks`, one for each type. -/
structure SystemTaskLock where
  type : String
  taskId : String
  lockedBy : String
  lockedUntil : Int
  deriving DecidableEq, Repr

structure TaskStore where
  tasks : Table SystemTask.taskId
  locks : Table SystemTaskLock.type

def SystemTask.Ended (task : SystemTask) : Prop :=
  task.status = .succeeded ∨ task.status = .failed
  deriving Decidable

namespace TaskStore

variable (st : TaskStore)

/-! ### The statements -/

/-- `CreateSystemTask`: the insertion fails if the task id or the active key is in use. -/
def createSystemTask (taskId type state : String) : TaskStore :=
  if taskId ∈ st.tasks.keys ∨ st.tasks.Matches fun t => t.activeKey = some type then st
  else { st with
    tasks := st.tasks.insert ⟨taskId, type, .pending, some type, state, "", "", ""⟩ }

def Pending (taskId type : String) : Prop :=
  st.tasks.Matches fun t => t.taskId = taskId ∧ t.type = type ∧ t.status = .pending
  deriving Decidable

def Running (taskId : String) : Prop :=
  st.tasks.Matches fun t => t.taskId = taskId ∧ t.status = .running
  deriving Decidable

/-- The insertion of the lock row of a type; it fails if there is one. -/
def insertLock (lock : SystemTaskLock) : Option TaskStore :=
  if lock.type ∈ st.locks.keys then none else some { st with locks := st.locks.insert lock }

/-- The update that takes over the lock row of a type, if the row has expired at `now`. -/
def stealLock (lock : SystemTaskLock) (now : Int) : Option TaskStore :=
  match st.locks.find lock.type with
  | none => none
  | some old =>
    if old.lockedUntil < now then some { st with locks := st.locks.save lock } else none

/-- Only a running task is marked. -/
def markSystemTaskLeaseExpired (taskId : String) : TaskStore :=
  { st with
    tasks := st.tasks.updateWhere (fun t => t.taskId = taskId ∧ t.status = .running)
      (fun t => { t with status := .failed, activeKey := none, error := "task lease expired" })
      fun _ => rfl }

/-- The last update of `ClaimSystemTask`. -/
def startTask (taskId type runnerId : String) : Option TaskStore :=
  if st.Pending taskId type then
    some { st with
      tasks := st.tasks.updateWhere
        (fun t => t.taskId = taskId ∧ t.type = type ∧ t.status = .pending)
        (fun t => { t with status := .running, lockedBy := runnerId }) fun _ => rfl }
  else none

/-- The condition of `UpdateSystemTaskState` and `FinishSystemTask`: the task is running for
`lockedBy`, which has a lock row of the task that has not expired at `now`. -/
def Owns (taskId lockedBy : String) (now : Int) : Prop :=
  (st.tasks.Matches fun t =>
      t.taskId = taskId ∧ t.status = .running ∧ t.lockedBy = lockedBy) ∧
    st.locks.Matches fun l => l.taskId = taskId ∧ l.lockedBy = lockedBy ∧ now ≤ l.lockedUntil
  deriving Decidable

/-- The update of `UpdateSystemTaskState`. -/
def writeTaskState (taskId lockedBy : String) (now : Int) (state : String) : Option TaskStore :=
  if st.Owns taskId lockedBy now then
    some { st with
      tasks := st.tasks.updateWhere
        (fun t => t.taskId = taskId ∧ t.status = .running ∧ t.lockedBy = lockedBy)
        (fun t => { t with state := state }) fun _ => rfl }
  else none

/-- Only the holder of an unexpired lock row can renew it. -/
def renewSystemTaskLock (taskId lockedBy : String) (now lockUntil : Int) : Option TaskStore :=
  if st.locks.Matches fun l => l.taskId = taskId ∧ l.lockedBy = lockedBy ∧ now ≤ l.lockedUntil then
    some { st with
      locks := st.locks.updateWhere
        (fun l => l.taskId = taskId ∧ l.lockedBy = lockedBy ∧ now ≤ l.lockedUntil)
        (fun l => { l with lockedUntil := lockUntil }) fun _ => rfl }
  else none

/-- The deletion of `ExpireStaleSystemTaskLocks`. -/
def deleteStaleLock (lock : SystemTaskLock) (now : Int) : TaskStore :=
  { st with
    locks := st.locks.deleteWhere fun l =>
      l.type = lock.type ∧ l.taskId = lock.taskId ∧ l.lockedBy = lock.lockedBy ∧
        l.lockedUntil < now }

def releaseSystemTaskLock (taskId lockedBy : String) : TaskStore :=
  { st with locks := st.locks.deleteWhere fun l => l.taskId = taskId ∧ l.lockedBy = lockedBy }

end TaskStore

inductive FinishStatus
  | succeeded
  | failed
  deriving DecidableEq, Repr

def FinishStatus.toStatus : FinishStatus → SystemTaskStatus
  | .succeeded => .succeeded
  | .failed => .failed

/-- The update of `FinishSystemTask`. -/
def TaskStore.finishTask (st : TaskStore) (taskId lockedBy : String) (now : Int)
    (status : FinishStatus) (result error : String) : Option TaskStore :=
  if st.Owns taskId lockedBy now then
    some { st with
      tasks := st.tasks.updateWhere
        (fun t => t.taskId = taskId ∧ t.status = .running ∧ t.lockedBy = lockedBy)
        (fun t => { t with
          status := status.toStatus, activeKey := none, result := result, error := error })
        fun _ => rfl }
  else none

/-! ### What the statements do to the tasks -/

/-- What a statement can do to a task row: the id and the type stay, a task that has begun keeps its
worker and is not pending again, and a task that is over stays over. -/
structure SystemTask.Kept (task task' : SystemTask) : Prop where
  taskId : task'.taskId = task.taskId
  type : task'.type = task.type
  begun : task.status ≠ .pending → task'.status ≠ .pending ∧ task'.lockedBy = task.lockedBy
  ended : task.Ended → task'.Ended

theorem SystemTask.Kept.refl (task : SystemTask) : task.Kept task :=
  ⟨rfl, rfl, fun h => ⟨h, rfl⟩, id⟩

theorem SystemTask.Kept.trans {t t' t'' : SystemTask} (h : t.Kept t') (h' : t'.Kept t'') :
    t.Kept t'' where
  taskId := h'.taskId.trans h.taskId
  type := h'.type.trans h.type
  begun hbegun := by
    obtain ⟨hbegun', hby⟩ := h.begun hbegun
    exact ⟨(h'.begun hbegun').1, (h'.begun hbegun').2.trans hby⟩
  ended hended := h'.ended (h.ended hended)

/-- The tasks after a statement that starts none: each row is kept, and no task becomes running. -/
structure TasksMove (tasks tasks' : Table SystemTask.taskId) : Prop where
  kept : ∀ t ∈ tasks.rows, ∃ t' ∈ tasks'.rows, t.Kept t'
  running : ∀ t' ∈ tasks'.rows, t'.status = .running → ∃ t ∈ tasks.rows,
    t'.taskId = t.taskId ∧ t'.type = t.type ∧ t.status = .running

theorem TasksMove.refl (tasks : Table SystemTask.taskId) : TasksMove tasks tasks :=
  ⟨fun t ht => ⟨t, ht, .refl t⟩, fun t ht h => ⟨t, ht, rfl, rfl, h⟩⟩

theorem TasksMove.of_update {tasks : Table SystemTask.taskId} {p : SystemTask → Prop}
    [DecidablePred p] {f : SystemTask → SystemTask} (hkey : ∀ t, (f t).taskId = t.taskId)
    (hkept : ∀ t ∈ tasks.rows, p t → t.Kept (f t))
    (hrunning : ∀ t ∈ tasks.rows, p t → (f t).status = .running → t.status = .running) :
    TasksMove tasks (tasks.updateWhere p f hkey) := by
  refine ⟨fun t ht => ?_, fun t' ht' hrun => ?_⟩
  · refine ⟨_, (mem_updateWhere hkey).mpr ⟨t, ht, rfl⟩, ?_⟩
    split_ifs with hp
    · exact hkept t ht hp
    · exact .refl t
  · obtain ⟨t, ht, rfl⟩ := (mem_updateWhere hkey).mp ht'
    split_ifs at hrun ⊢ with hp
    · exact ⟨t, ht, (hkept t ht hp).taskId, (hkept t ht hp).type, hrunning t ht hp hrun⟩
    · exact ⟨t, ht, rfl, rfl, hrun⟩

variable {st st' : TaskStore} {taskId lockedBy : String} {now : Int}

theorem tasksMove_create (taskId type state : String) :
    TasksMove st.tasks (st.createSystemTask taskId type state).tasks := by
  unfold TaskStore.createSystemTask
  split_ifs with hused
  · exact .refl _
  have hnew : taskId ∉ st.tasks.keys := fun hmem => hused (.inl hmem)
  refine ⟨fun t ht => ⟨t, (mem_insert hnew).mpr (.inr ht), .refl t⟩, ?_⟩
  intro t' ht' hrun
  obtain rfl | ht := (mem_insert hnew).mp ht'
  · cases hrun
  · exact ⟨t', ht, rfl, rfl, hrun⟩

theorem tasksMove_mark (taskId : String) :
    TasksMove st.tasks (st.markSystemTaskLeaseExpired taskId).tasks := by
  refine .of_update (fun _ => by rfl) ?_ ?_
  · rintro t - ⟨-, hrun⟩
    refine ⟨rfl, rfl, fun _ => ⟨by simp, rfl⟩, fun _ => .inr rfl⟩
  · rintro t - - hrun
    cases hrun

theorem not_running_mark (taskId : String) :
    ¬ (st.markSystemTaskLeaseExpired taskId).Running taskId := by
  rintro ⟨t', ht', hid, hrun⟩
  obtain ⟨t, -, rfl⟩ := (mem_updateWhere fun _ => by rfl).mp ht'
  split_ifs at hid hrun with hp
  exact hp ⟨hid, hrun⟩

theorem tasksMove_write {state : String}
    (h : st.writeTaskState taskId lockedBy now state = some st') :
    TasksMove st.tasks st'.tasks ∧ st'.locks = st.locks ∧ st.Owns taskId lockedBy now := by
  unfold TaskStore.writeTaskState at h
  split_ifs at h with howns
  cases h
  refine ⟨.of_update (fun _ => by rfl) ?_ ?_, rfl, howns⟩
  · exact fun t _ _ => ⟨rfl, rfl, fun hbegun => ⟨hbegun, rfl⟩, id⟩
  · exact fun t _ _ hrun => hrun

theorem tasksMove_finish {status : FinishStatus} {result error : String}
    (h : st.finishTask taskId lockedBy now status result error = some st') :
    TasksMove st.tasks st'.tasks ∧ st'.locks = st.locks ∧ st.Owns taskId lockedBy now ∧
      ∃ t ∈ st'.tasks.rows, t.taskId = taskId ∧ t.Ended := by
  unfold TaskStore.finishTask at h
  split_ifs at h with howns
  cases h
  have hended (t : SystemTask) : SystemTask.Ended { t with
      status := status.toStatus, activeKey := none, result := result, error := error } := by
    cases status
    · exact .inl rfl
    · exact .inr rfl
  refine ⟨.of_update (fun _ => by rfl) ?_ ?_, rfl, howns, ?_⟩
  · intro t _ _
    refine ⟨rfl, rfl, fun _ => ⟨?_, rfl⟩, fun _ => hended t⟩
    cases status <;> simp [FinishStatus.toStatus]
  · intro t _ _ hrun
    cases status <;> cases hrun
  · obtain ⟨⟨t, ht, hp⟩, -⟩ := howns
    refine ⟨_, (mem_updateWhere fun _ => by rfl).mpr ⟨t, ht, rfl⟩, ?_⟩
    rw [if_pos hp]
    exact ⟨hp.1, hended t⟩

theorem start_some {type runnerId : String} (h : st.startTask taskId type runnerId = some st') :
    st'.locks = st.locks ∧ st.Pending taskId type ∧
      (∀ t ∈ st.tasks.rows, ∃ t' ∈ st'.tasks.rows, t.Kept t') ∧
      ∀ t' ∈ st'.tasks.rows, t'.status = .running →
        (∃ t ∈ st.tasks.rows, t'.taskId = t.taskId ∧ t'.type = t.type ∧ t.status = .running) ∨
          t'.taskId = taskId ∧ t'.type = type := by
  unfold TaskStore.startTask at h
  split_ifs at h with hpend
  cases h
  refine ⟨rfl, hpend, fun t ht => ?_, fun t' ht' hrun => ?_⟩
  · refine ⟨_, (mem_updateWhere fun _ => by rfl).mpr ⟨t, ht, rfl⟩, ?_⟩
    split_ifs with hp
    · refine ⟨rfl, rfl, fun hbegun => absurd hp.2.2 hbegun, fun hended => ?_⟩
      rcases hended with hstatus | hstatus <;> rw [hp.2.2] at hstatus <;> cases hstatus
    · exact .refl t
  · obtain ⟨t, ht, rfl⟩ := (mem_updateWhere fun _ => by rfl).mp ht'
    split_ifs at hrun ⊢ with hp
    · exact .inr ⟨hp.1, hp.2.1⟩
    · exact .inl ⟨t, ht, rfl, rfl, hrun⟩

end NewApi.Model
