import NewApi.Foundation.Pool
import NewApi.Foundation.Run
import NewApi.Model.SystemTask

/-!
# The leases of system tasks

The functions of `model/system_task.go` that claim, renew, update, release, expire and finish system
tasks, statement by statement. Every call runs its statements one after the other, at any distance
in time, and the statements of all calls interleave in any way; a worker that stops is a call that
takes no further step. A statement can fail, and it can take effect although its answer is lost. The
clock is that of the database hosts, taken as one. A call keeps the time at which it began.

A task that is running without a lock row that carries its id is never ended: the stale-lock pass
only looks at lock rows, and every update of the task asks for one. Two claims can lead there. The
last update of a claim does not test the lock, so a claim that has slept through its own lease
starts the task although the lock row is gone. And a claim that takes over the expired lock row of
another task writes its own task id into the row before it marks the other task, so that task is
lost if the worker stops in between.
-/

namespace NewApi.Model

open StepSystem List Table

/-! ### Calls -/

structure ClaimArgs where
  taskId : String
  type : String
  runnerId : String
  now : Int
  lockUntil : Int
  deriving DecidableEq, Repr

def ClaimArgs.lock (c : ClaimArgs) : SystemTaskLock := ⟨c.type, c.taskId, c.runnerId, c.lockUntil⟩

inductive TaskResult
  | ok
  | claimed (task : SystemTask)
  | notClaimed
  | lockLost
  | database
  deriving DecidableEq, Repr

/-- The next statement of a call.

* `claimRead`, `claimInsert`, `claimLook`, `claimSteal`, `claimMark`, `claimStart`, `claimRelease`,
  `claimReload`: `ClaimSystemTask` with `acquireSystemTaskLock`. `claimSteal` has the task id of the
  lock row that was read, `claimMark` that of the row that was taken over.
* `passList`, `passMark`, `passDelete`: `ExpireStaleSystemTaskLocks`, with the lock rows to go.
* `renew`, `update`, `confirm`, `finish`, `finishRelease`, `release`: the other functions. -/
inductive TaskThread
  | claimRead (c : ClaimArgs)
  | claimInsert (c : ClaimArgs)
  | claimLook (c : ClaimArgs)
  | claimSteal (c : ClaimArgs) (existing : String)
  | claimMark (c : ClaimArgs) (expired : String)
  | claimStart (c : ClaimArgs)
  | claimRelease (c : ClaimArgs) (result : TaskResult)
  | claimReload (c : ClaimArgs)
  | passList (now : Int)
  | passMark (now : Int) (locks : List SystemTaskLock)
  | passDelete (now : Int) (lock : SystemTaskLock) (rest : List SystemTaskLock)
  | renew (taskId lockedBy : String) (now lockUntil : Int)
  | update (taskId lockedBy : String) (now : Int) (state : String)
  | confirm (taskId lockedBy : String) (now : Int)
  | finish (taskId lockedBy : String) (now : Int) (status : FinishStatus) (result error : String)
  | finishRelease (taskId lockedBy : String)
  | release (taskId lockedBy : String)
  | done (result : TaskResult)
  deriving DecidableEq, Repr

inductive TaskCall
  | claimSystemTask (taskId type runnerId : String) (lockUntil : Int)
  | expireStaleSystemTaskLocks
  | renewSystemTaskLock (taskId lockedBy : String) (lockUntil : Int)
  | updateSystemTaskState (taskId lockedBy state : String)
  | finishSystemTask (taskId lockedBy : String) (status : FinishStatus) (result error : String)
  | releaseSystemTaskLock (taskId lockedBy : String)

def TaskCall.thread (now : Int) : TaskCall → TaskThread
  | .claimSystemTask taskId type runnerId lockUntil =>
    .claimRead ⟨taskId, type, runnerId, now, lockUntil⟩
  | .expireStaleSystemTaskLocks => .passList now
  | .renewSystemTaskLock taskId lockedBy lockUntil => .renew taskId lockedBy now lockUntil
  | .updateSystemTaskState taskId lockedBy state => .update taskId lockedBy now state
  | .finishSystemTask taskId lockedBy status result error =>
    .finish taskId lockedBy now status result error
  | .releaseSystemTaskLock taskId lockedBy => .release taskId lockedBy

/-- What a statement leaves: the tables, the next statement of the call, and the task and the worker
of a state update that was accepted. -/
structure Outcome where
  store : TaskStore
  next : TaskThread
  accepted : List (String × String)

namespace TaskThread

/-- The next statement of a call, if it is answered. With `changed = false` the database reports no
changed row although the new values were written, as MySQL does if they equal the old ones. -/
def statement (st : TaskStore) (changed : Bool) : TaskThread → Outcome
  | .claimRead c =>
    if st.Pending c.taskId c.type then ⟨st, .claimInsert c, []⟩ else ⟨st, .done .notClaimed, []⟩
  | .claimInsert c =>
    match st.insertLock c.lock with
    | none => ⟨st, .claimLook c, []⟩
    | some st' => ⟨st', .claimStart c, []⟩
  | .claimLook c =>
    match st.locks.find c.type with
    | none => ⟨st, .done .notClaimed, []⟩
    | some existing =>
      if c.now ≤ existing.lockedUntil then ⟨st, .done .notClaimed, []⟩
      else ⟨st, .claimSteal c existing.taskId, []⟩
  | .claimSteal c existing =>
    match st.stealLock c.lock c.now with
    | none => ⟨st, .done .notClaimed, []⟩
    | some st' =>
      if existing ≠ "" ∧ existing ≠ c.taskId then ⟨st', .claimMark c existing, []⟩
      else ⟨st', .claimStart c, []⟩
  | .claimMark c expired => ⟨st.markSystemTaskLeaseExpired expired, .claimStart c, []⟩
  | .claimStart c =>
    match st.startTask c.taskId c.type c.runnerId with
    | none => ⟨st, .claimRelease c .notClaimed, []⟩
    | some st' => ⟨st', .claimReload c, []⟩
  | .claimRelease c result => ⟨st.releaseSystemTaskLock c.taskId c.runnerId, .done result, []⟩
  | .claimReload c =>
    match st.tasks.find c.taskId with
    | none => ⟨st, .done .database, []⟩
    | some task => ⟨st, .done (.claimed task), []⟩
  | .passList now =>
    ⟨st, .passMark now (st.locks.rows.filter fun l => l.lockedUntil < now), []⟩
  | .passMark _ [] => ⟨st, .done .ok, []⟩
  | .passMark now (lock :: rest) =>
    ⟨st.markSystemTaskLeaseExpired lock.taskId, .passDelete now lock rest, []⟩
  | .passDelete now lock rest => ⟨st.deleteStaleLock lock now, .passMark now rest, []⟩
  | .renew taskId lockedBy now lockUntil =>
    match st.renewSystemTaskLock taskId lockedBy now lockUntil with
    | none => ⟨st, .done .lockLost, []⟩
    | some st' => ⟨st', .done (if changed then .ok else .lockLost), []⟩
  | .update taskId lockedBy now state =>
    match st.writeTaskState taskId lockedBy now state with
    | none => ⟨st, .confirm taskId lockedBy now, []⟩
    | some st' =>
      ⟨st', if changed then .done .ok else .confirm taskId lockedBy now, [(taskId, lockedBy)]⟩
  | .confirm taskId lockedBy now =>
    ⟨st, .done (if st.Owns taskId lockedBy now then .ok else .lockLost), []⟩
  | .finish taskId lockedBy now status result error =>
    match st.finishTask taskId lockedBy now status result error with
    | none => ⟨st, .done .lockLost, []⟩
    | some st' => ⟨st', .finishRelease taskId lockedBy, [(taskId, lockedBy)]⟩
  | .finishRelease taskId lockedBy | .release taskId lockedBy =>
    ⟨st.releaseSystemTaskLock taskId lockedBy, .done .ok, []⟩
  | .done result => ⟨st, .done result, []⟩

/-- What a call does after an error of its statement: a failed insertion leads to a read of the lock
row, a failed mark or start gives the lock row back, and an error of that is ignored. -/
def onError : TaskThread → TaskThread
  | .claimInsert c => .claimLook c
  | .claimMark c _ | .claimStart c => .claimRelease c .database
  | .claimRelease _ result | .done result => .done result
  | .claimRead _ | .claimLook _ | .claimSteal _ _ | .claimReload _ | .passList _ | .passMark _ _
  | .passDelete _ _ _ | .renew _ _ _ _ | .update _ _ _ _ | .confirm _ _ _ | .finish _ _ _ _ _ _
  | .finishRelease _ _ | .release _ _ => .done .database

end TaskThread

/-- What becomes of a statement: it is answered, with or without a changed row; it takes effect but
the call gets an error; or it fails. -/
inductive StatementReply
  | ok
  | unchanged
  | lost
  | failed
  deriving DecidableEq, Repr

def TaskThread.exec (st : TaskStore) (t : TaskThread) : StatementReply → Outcome
  | .ok => t.statement st true
  | .unchanged => t.statement st false
  | .lost => { t.statement st true with next := t.onError }
  | .failed => ⟨st, t.onError, []⟩

/-- The tables, the clock, the calls, and the task and the worker of each update that was accepted.
The program does not keep the last. -/
structure LeaseState where
  store : TaskStore
  clock : Int
  pool : List TaskThread
  accepted : List (String × String)

/-- What happens: a task is created, a call begins, call `k` runs its next statement, or time
passes. -/
inductive TaskEvent
  | create (taskId type state : String)
  | call (c : TaskCall)
  | step (k : ℕ) (r : StatementReply)
  | tick (seconds : ℕ)

def leaseStep (s : LeaseState) : TaskEvent → LeaseState
  | .create taskId type state => { s with store := s.store.createSystemTask taskId type state }
  | .call c => { s with pool := s.pool ++ [c.thread s.clock] }
  | .step k r =>
    match s.pool[k]? with
    | none => s
    | some t =>
      let out := t.exec s.store r
      { s with
        store := out.store
        pool := s.pool.set k out.next
        accepted := s.accepted ++ out.accepted }
  | .tick seconds => { s with clock := s.clock + seconds }

/-! ### What a statement can do -/

inductive StatementMove (st : TaskStore) (t : TaskThread) : TaskStore → Prop
  | tasks (tasks' : Table SystemTask.taskId) (hmove : TasksMove st.tasks tasks') :
      StatementMove st t { st with tasks := tasks' }
  | started (c : ClaimArgs) (st' : TaskStore) (ht : t = .claimStart c)
      (h : st.startTask c.taskId c.type c.runnerId = some st') : StatementMove st t st'
  | inserted (c : ClaimArgs) (ht : t = .claimInsert c) (hnew : c.lock.type ∉ st.locks.keys) :
      StatementMove st t { st with locks := st.locks.insert c.lock }
  | stolen (c : ClaimArgs) (existing : String) (old : SystemTaskLock)
      (ht : t = .claimSteal c existing) (hfind : st.locks.find c.type = some old)
      (hexpired : old.lockedUntil < c.now) :
      StatementMove st t { st with locks := st.locks.save c.lock }
  | renewed (taskId lockedBy : String) (now lockUntil : Int)
      (ht : t = .renew taskId lockedBy now lockUntil) :
      StatementMove st t { st with
        locks := st.locks.updateWhere
          (fun l => l.taskId = taskId ∧ l.lockedBy = lockedBy ∧ now ≤ l.lockedUntil)
          (fun l => { l with lockedUntil := lockUntil }) fun _ => rfl }
  | released (taskId lockedBy : String)
      (ht : t = .release taskId lockedBy ∨ t = .finishRelease taskId lockedBy ∨
        ∃ c result, t = .claimRelease c result ∧ c.taskId = taskId ∧ c.runnerId = lockedBy) :
      StatementMove st t (st.releaseSystemTaskLock taskId lockedBy)
  | expired (now : Int) (lock : SystemTaskLock) (rest : List SystemTaskLock)
      (ht : t = .passDelete now lock rest) : StatementMove st t (st.deleteStaleLock lock now)

open TaskThread

section

variable {st st' : TaskStore} {t : TaskThread}

theorem StatementMove.refl (st : TaskStore) (t : TaskThread) : StatementMove st t st :=
  .tasks st.tasks (.refl st.tasks)

theorem StatementMove.of_tasks (hmove : TasksMove st.tasks st'.tasks)
    (hlocks : st'.locks = st.locks) : StatementMove st t st' := by
  obtain ⟨tasks', locks'⟩ := st'
  dsimp only at hlocks hmove
  rw [hlocks]
  exact .tasks tasks' hmove

theorem insertLock_some {lock : SystemTaskLock} (h : st.insertLock lock = some st') :
    lock.type ∉ st.locks.keys ∧ st' = { st with locks := st.locks.insert lock } := by
  unfold TaskStore.insertLock at h
  split_ifs at h with hnew
  exact ⟨hnew, (Option.some.inj h).symm⟩

theorem stealLock_some {lock : SystemTaskLock} {now : Int} (h : st.stealLock lock now = some st') :
    ∃ old, st.locks.find lock.type = some old ∧ old.lockedUntil < now ∧
      st' = { st with locks := st.locks.save lock } := by
  unfold TaskStore.stealLock at h
  cases hfind : st.locks.find lock.type with
  | none => simp [hfind] at h
  | some old =>
    simp only [hfind] at h
    split_ifs at h with hexpired
    exact ⟨old, rfl, hexpired, (Option.some.inj h).symm⟩

/-- **What a statement can do to the tables.** -/
theorem statement_move (st : TaskStore) (changed : Bool) (t : TaskThread) :
    StatementMove st t (t.statement st changed).store := by
  have hsteal {c : ClaimArgs} {existing : String} {st' : TaskStore}
      (h : st.stealLock c.lock c.now = some st') :
      StatementMove st (.claimSteal c existing) st' := by
    obtain ⟨old, hfind, hexpired, rfl⟩ := stealLock_some h
    exact .stolen c existing old rfl hfind hexpired
  fun_cases statement st changed t with
  | case4 c st' h =>
    obtain ⟨hnew, rfl⟩ := insertLock_some h
    exact .inserted c rfl hnew
  | case9 c existing st' h _ | case10 c existing st' h _ => exact hsteal h
  | case11 c expired => exact .of_tasks (tasksMove_mark expired) rfl
  | case13 c st' h => exact .started c st' rfl h
  | case14 c result => exact .released _ _ (.inr (.inr ⟨c, result, rfl, rfl, rfl⟩))
  | case19 now lock rest => exact .of_tasks (tasksMove_mark lock.taskId) rfl
  | case20 now lock rest => exact .expired now lock rest rfl
  | case22 taskId lockedBy now lockUntil st' h =>
    unfold TaskStore.renewSystemTaskLock at h
    split_ifs at h
    cases h
    exact .renewed taskId lockedBy now lockUntil rfl
  | case24 taskId lockedBy now state st' h =>
    exact .of_tasks (tasksMove_write h).1 (tasksMove_write h).2.1
  | case27 taskId lockedBy now status result error st' h =>
    exact .of_tasks (tasksMove_finish h).1 (tasksMove_finish h).2.1
  | case28 taskId lockedBy => exact .released _ _ (.inr (.inl rfl))
  | case29 taskId lockedBy => exact .released _ _ (.inl rfl)
  | _ => exact .refl st _

theorem StatementMove.kept (hmove : StatementMove st t st') :
    ∀ task ∈ st.tasks.rows, ∃ task' ∈ st'.tasks.rows, task.Kept task' := by
  cases hmove with
  | tasks tasks' hmove => exact hmove.kept
  | started c _ ht h => exact (start_some h).2.2.1
  | _ =>
    exact fun task hmem => ⟨task, hmem, .refl task⟩

end

/-! ### The condition -/

/-- The condition on a statement that takes effect at `clock`:

* a claim starts its task only while the lock row carries the task for this worker and has not
  expired;
* a claim takes over no lock row of another running task;
* no lock row of a running task is released, other than by the worker that has finished it;
* a renewal does not shorten the lease. -/
def TaskThread.Keeps (clock : Int) (st : TaskStore) : TaskThread → Prop
  | .claimStart c => st.Pending c.taskId c.type →
      ∃ l ∈ st.locks.rows, l.type = c.type ∧ l.taskId = c.taskId ∧ l.lockedBy = c.runnerId ∧
        clock ≤ l.lockedUntil
  | .claimSteal c _ => ∀ l ∈ st.locks.rows,
      l.type = c.type → l.taskId ≠ c.taskId → l.lockedUntil < c.now → ¬ st.Running l.taskId
  | .claimRelease c _ =>
    ∀ l ∈ st.locks.rows, l.taskId = c.taskId → l.lockedBy = c.runnerId → ¬ st.Running l.taskId
  | .release taskId lockedBy =>
    ∀ l ∈ st.locks.rows, l.taskId = taskId → l.lockedBy = lockedBy → ¬ st.Running l.taskId
  | .renew taskId lockedBy now lockUntil => ∀ l ∈ st.locks.rows,
      l.taskId = taskId → l.lockedBy = lockedBy → now ≤ l.lockedUntil → l.lockedUntil ≤ lockUntil
  | .claimRead _ | .claimInsert _ | .claimLook _ | .claimMark _ _ | .claimReload _ | .passList _
  | .passMark _ _ | .passDelete _ _ _ | .update _ _ _ _ | .confirm _ _ _ | .finish _ _ _ _ _ _
  | .finishRelease _ _ | .done _ => True

instance (clock : Int) (st : TaskStore) (t : TaskThread) : Decidable (t.Keeps clock st) :=
  match t with
  | .claimStart _ => inferInstanceAs (Decidable (_ → ∃ l ∈ st.locks.rows, _))
  | .claimSteal _ _ => inferInstanceAs (Decidable (∀ l ∈ st.locks.rows, _))
  | .claimRelease _ _ => inferInstanceAs (Decidable (∀ l ∈ st.locks.rows, _))
  | .release _ _ => inferInstanceAs (Decidable (∀ l ∈ st.locks.rows, _))
  | .renew _ _ _ _ => inferInstanceAs (Decidable (∀ l ∈ st.locks.rows, _))
  | .claimRead _ | .claimInsert _ | .claimLook _ | .claimMark _ _ | .claimReload _ | .passList _
  | .passMark _ _ | .passDelete _ _ _ | .update _ _ _ _ | .confirm _ _ _ | .finish _ _ _ _ _ _
  | .finishRelease _ _ | .done _ => .isTrue trivial

def LeaseKept (s : LeaseState) : TaskEvent → Prop
  | .step k r =>
    match s.pool[k]? with
    | none => True
    | some t => r = .failed ∨ t.Keeps s.clock s.store
  | .create _ _ _ | .call _ | .tick _ => True

instance (s : LeaseState) (e : TaskEvent) : Decidable (LeaseKept s e) :=
  match e with
  | .step k r =>
    match h : s.pool[k]? with
    | none => .isTrue (by simp [LeaseKept, h])
    | some t => decidable_of_iff (r = .failed ∨ t.Keeps s.clock s.store) (by simp [LeaseKept, h])
  | .create _ _ _ | .call _ | .tick _ => .isTrue trivial

/-! ### The invariant -/

def TaskStore.HasType (st : TaskStore) (taskId type : String) : Prop :=
  ∃ task ∈ st.tasks.rows, task.taskId = taskId ∧ task.type = type

/-- Since `now` the task has not been running, or it has a lock row that had not expired then. -/
structure TaskStore.Fresh (st : TaskStore) (clock now : Int) (taskId : String) : Prop where
  past : now ≤ clock
  lease : st.Running taskId → ∀ l ∈ st.locks.rows, l.taskId = taskId → now ≤ l.lockedUntil

/-- What a call knows of the tables. A claim knows the type of its task and that it was pending when
the claim began, and a call that has finished its task knows that it is over. After the mark of a
pass the task is not running, or has a lock row that the pass will not delete. -/
def TaskThread.Sound (clock : Int) (st : TaskStore) : TaskThread → Prop
  | .claimRead c => c.now ≤ clock
  | .claimInsert c | .claimLook c | .claimSteal c _ | .claimMark c _ | .claimStart c =>
    st.HasType c.taskId c.type ∧ st.Fresh clock c.now c.taskId
  | .passList now | .passMark now _ => now ≤ clock
  | .passDelete now lock _ => st.Fresh clock now lock.taskId
  | .finishRelease taskId _ => ∃ task ∈ st.tasks.rows, task.taskId = taskId ∧ task.Ended
  | .claimRelease _ _ | .claimReload _ | .renew _ _ _ _ | .update _ _ _ _ | .confirm _ _ _
  | .finish _ _ _ _ _ _ | .release _ _ | .done _ => True

/-- A running task has a lock row of its type that carries its id, and the task of a lock row has
the type of the row. -/
structure TaskStore.Leased (st : TaskStore) : Prop where
  owned : ∀ task ∈ st.tasks.rows, task.status = .running →
    ∃ l ∈ st.locks.rows, l.type = task.type ∧ l.taskId = task.taskId
  typed : ∀ l ∈ st.locks.rows, st.HasType l.taskId l.type

section

variable {clock : Int} {st st' : TaskStore} {t u : TaskThread} {taskId : String}

variable {type : String}

theorem TaskStore.HasType.of_kept (h : st.HasType taskId type)
    (hkept : ∀ task ∈ st.tasks.rows, ∃ task' ∈ st'.tasks.rows, task.Kept task') :
    st'.HasType taskId type := by
  obtain ⟨task, hmem, hid, htype⟩ := h
  obtain ⟨task', hmem', hkept⟩ := hkept task hmem
  exact ⟨task', hmem', hkept.taskId.trans hid, hkept.type.trans htype⟩

theorem TaskStore.HasType.unique {type' : String} (h : st.HasType taskId type)
    (h' : st.HasType taskId type') : type = type' := by
  obtain ⟨task, hmem, hid, rfl⟩ := h
  obtain ⟨task', hmem', hid', rfl⟩ := h'
  rw [eq_of_mem hmem hmem' (hid.trans hid'.symm)]

theorem TaskStore.Leased.lock_of_running (h : st.Leased)
    (htype : st.HasType taskId type) (hrun : st.Running taskId) :
    ∃ l ∈ st.locks.rows, l.type = type ∧ l.taskId = taskId := by
  obtain ⟨task, hmem, hid, hstatus⟩ := hrun
  obtain ⟨l, hl, hltype, hlid⟩ := h.owned task hmem hstatus
  have hsame : task.type = type := TaskStore.HasType.unique ⟨task, hmem, hid, rfl⟩ htype
  exact ⟨l, hl, hltype.trans hsame, hlid.trans hid⟩

theorem TaskStore.Leased.not_running_insert {c : ClaimArgs} (h : st.Leased)
    (htype : st.HasType c.taskId c.type) (hnew : c.lock.type ∉ st.locks.keys) :
    ¬ st.Running c.taskId := by
  intro hrun
  obtain ⟨l, hl, hltype, -⟩ := h.lock_of_running htype hrun
  exact hnew (mem_map.mpr ⟨l, hl, hltype⟩)

/-- A claim that meets the condition takes over a lock row only if no task of its type is running:
its own task was pending when it began, so a lock row that it was started with since then had not
expired. -/
theorem TaskStore.Leased.not_running_steal {c : ClaimArgs} {existing : String}
    {old : SystemTaskLock} (h : st.Leased)
    (hsound : (TaskThread.claimSteal c existing).Sound clock st)
    (hkeeps : (TaskThread.claimSteal c existing).Keeps clock st)
    (hfind : st.locks.find c.type = some old) (hexpired : old.lockedUntil < c.now)
    (htype : st.HasType taskId c.type) : ¬ st.Running taskId := by
  intro hrun
  obtain ⟨hold, holdType⟩ := mem_of_find hfind
  obtain ⟨l, hl, hltype, rfl⟩ := h.lock_of_running htype hrun
  obtain rfl := eq_of_mem hl hold (hltype.trans holdType.symm)
  by_cases hown : l.taskId = c.taskId
  · have hle := hsound.2.lease (hown ▸ hrun) l hl hown
    omega
  · exact hkeeps l hl hltype hown hexpired hrun

theorem not_running_release {lockedBy : String} {l : SystemTaskLock} (hsound : t.Sound clock st)
    (hkeeps : t.Keeps clock st)
    (ht : t = .release taskId lockedBy ∨ t = .finishRelease taskId lockedBy ∨
      ∃ c result, t = .claimRelease c result ∧ c.taskId = taskId ∧ c.runnerId = lockedBy)
    (hl : l ∈ st.locks.rows) (hid : l.taskId = taskId) (hby : l.lockedBy = lockedBy) :
    ¬ st.Running l.taskId := by
  rcases ht with rfl | rfl | ⟨c, result, rfl, rfl, rfl⟩
  · exact hkeeps l hl hid hby
  · rintro ⟨task, hmem, htask, hrun⟩
    obtain ⟨task₀, hmem₀, hid₀, hended⟩ := hsound
    obtain rfl := eq_of_mem hmem hmem₀ (htask.trans (hid.trans hid₀.symm))
    rcases hended with hstatus | hstatus <;> rw [hrun] at hstatus <;> cases hstatus
  · exact hkeeps l hl hid hby

theorem TaskStore.Leased.delete {p : SystemTaskLock → Prop} [DecidablePred p] (h : st.Leased)
    (hidle : ∀ l ∈ st.locks.rows, p l → ¬ st.Running l.taskId) :
    TaskStore.Leased { st with locks := st.locks.deleteWhere p } := by
  refine ⟨fun task hmem hrun => ?_, fun l hl => h.typed l (mem_deleteWhere.mp hl).1⟩
  obtain ⟨l, hl, hltype, hlid⟩ := h.owned task hmem hrun
  refine ⟨l, mem_deleteWhere.mpr ⟨hl, fun hdel => ?_⟩, hltype, hlid⟩
  exact hidle l hl hdel ⟨task, hmem, hlid.symm, hrun⟩

theorem leased_move (h : st.Leased) (hsound : t.Sound clock st) (hkeeps : t.Keeps clock st)
    (hmove : StatementMove st t st') : st'.Leased := by
  have hkept := hmove.kept
  cases hmove with
  | tasks tasks' hmove =>
    refine ⟨fun task' hmem' hrun => ?_, fun l hl => (h.typed l hl).of_kept hkept⟩
    obtain ⟨task, hmem, hid, htype, hrun⟩ := hmove.running task' hmem' hrun
    obtain ⟨l, hl, hltype, hlid⟩ := h.owned task hmem hrun
    exact ⟨l, hl, hltype.trans htype.symm, hlid.trans hid.symm⟩
  | started c _ ht hstart =>
    subst ht
    obtain ⟨hlocks, hpend, -, hrunning⟩ := start_some hstart
    refine ⟨fun task' hmem' hrun => ?_, fun l hl => ?_⟩
    · rw [hlocks]
      obtain ⟨task, hmem, hid, htype, hrun⟩ | ⟨hid, htype⟩ := hrunning task' hmem' hrun
      · obtain ⟨l, hl, hltype, hlid⟩ := h.owned task hmem hrun
        exact ⟨l, hl, hltype.trans htype.symm, hlid.trans hid.symm⟩
      · obtain ⟨l, hl, hltype, hlid, -, -⟩ := hkeeps hpend
        exact ⟨l, hl, hltype.trans htype.symm, hlid.trans hid.symm⟩
    · rw [hlocks] at hl
      exact (h.typed l hl).of_kept hkept
  | inserted c ht hnew =>
    subst ht
    refine ⟨fun task hmem hrun => ?_, fun l hl => ?_⟩
    · obtain ⟨l, hl, hlock⟩ := h.owned task hmem hrun
      exact ⟨l, (mem_insert hnew).mpr (.inr hl), hlock⟩
    · obtain rfl | hl := (mem_insert hnew).mp hl
      · exact hsound.1
      · exact h.typed l hl
  | stolen c existing old ht hfind hexpired =>
    subst ht
    refine ⟨fun task hmem hrun => ?_, fun l hl => ?_⟩
    · obtain ⟨l, hl, hltype, hlid⟩ := h.owned task hmem hrun
      refine ⟨l, mem_save_of_ne hl fun hsame => ?_, hltype, hlid⟩
      have htype : st.HasType task.taskId c.type := ⟨task, hmem, rfl, hltype.symm.trans hsame⟩
      exact h.not_running_steal hsound hkeeps hfind hexpired htype ⟨task, hmem, rfl, hrun⟩
    · obtain rfl | ⟨hl, -⟩ := mem_save hl
      · exact hsound.1
      · exact h.typed l hl
  | renewed taskId lockedBy now lockUntil ht =>
    refine ⟨fun task hmem hrun => ?_, fun l' hl' => ?_⟩
    · obtain ⟨l, hl, hltype, hlid⟩ := h.owned task hmem hrun
      refine ⟨_, (mem_updateWhere fun _ => by rfl).mpr ⟨l, hl, rfl⟩, ?_⟩
      split_ifs <;> exact ⟨hltype, hlid⟩
    · obtain ⟨l, hl, rfl⟩ := (mem_updateWhere fun _ => by rfl).mp hl'
      split_ifs <;> exact h.typed l hl
  | released taskId lockedBy ht =>
    exact h.delete fun l hl hdel => not_running_release hsound hkeeps ht hl hdel.1 hdel.2
  | expired now lock rest ht =>
    subst ht
    refine h.delete fun l hl hdel hrun => ?_
    have hle := hsound.lease (hdel.2.1 ▸ hrun) l hl hdel.2.1
    omega

theorem TasksMove.running_of {tasks' : Table SystemTask.taskId} (hmove : TasksMove st.tasks tasks')
    (hrun : TaskStore.Running { st with tasks := tasks' } taskId) : st.Running taskId := by
  obtain ⟨task', hmem', rfl, hstatus⟩ := hrun
  obtain ⟨task, hmem, hid, -, hrun⟩ := hmove.running task' hmem' hstatus
  exact ⟨task, hmem, hid.symm, hrun⟩

theorem fresh_move {now : Int} (h : st.Leased) (hsound : t.Sound clock st)
    (hkeeps : t.Keeps clock st) (hmove : StatementMove st t st')
    (hfresh : st.Fresh clock now taskId) : st'.Fresh clock now taskId := by
  have hu := hfresh.lease
  refine ⟨hfresh.past, fun hrun l hl hid => ?_⟩
  cases hmove with
  | tasks tasks' hmove => exact hu (hmove.running_of hrun) l hl hid
  | started c _ ht hstart =>
    subst ht
    obtain ⟨hlocks, hpend, -, hrunning⟩ := start_some hstart
    rw [hlocks] at hl
    obtain ⟨task', hmem', rfl, hstatus⟩ := hrun
    obtain ⟨task, hmem, htask, -, hrun⟩ | ⟨htask, -⟩ := hrunning task' hmem' hstatus
    · exact hu ⟨task, hmem, htask.symm, hrun⟩ l hl hid
    -- the started task has one lock row, since the rows have the types of their tasks
    obtain ⟨k, hk, hktype, -, -, huntil⟩ := hkeeps hpend
    obtain ⟨task, hmem, hpid, hptype, -⟩ := hpend
    have hltype : l.type = c.type :=
      (h.typed l hl).unique ⟨task, hmem, hpid.trans (htask.symm.trans hid.symm), hptype⟩
    rw [eq_of_mem hl hk (hltype.trans hktype.symm)]
    exact hfresh.past.trans huntil
  | inserted c ht hnew =>
    subst ht
    obtain rfl | hl := (mem_insert hnew).mp hl
    · subst hid
      exact absurd hrun (h.not_running_insert hsound.1 hnew)
    · exact hu hrun l hl hid
  | stolen c existing old ht hfind hexpired =>
    subst ht
    obtain rfl | ⟨hl, -⟩ := mem_save hl
    · subst hid
      exact absurd hrun (h.not_running_steal hsound hkeeps hfind hexpired hsound.1)
    · exact hu hrun l hl hid
  | renewed taskId' lockedBy now' lockUntil ht =>
    subst ht
    obtain ⟨l₀, hl₀, rfl⟩ := (mem_updateWhere fun _ => by rfl).mp hl
    split_ifs at hid ⊢ with hp
    · exact (hu hrun l₀ hl₀ hid).trans (hkeeps l₀ hl₀ hp.1 hp.2.1 hp.2.2)
    · exact hu hrun l₀ hl₀ hid
  | released taskId' lockedBy ht
  | expired now' lock rest ht => exact hu hrun l (mem_deleteWhere.mp hl).1 hid

theorem sound_move (h : st.Leased) (hsound : t.Sound clock st) (hkeeps : t.Keeps clock st)
    (hmove : StatementMove st t st') (hu : u.Sound clock st) : u.Sound clock st' := by
  have hkept := hmove.kept
  cases u with
  | claimInsert c | claimLook c | claimSteal c _ | claimMark c _ | claimStart c =>
    exact ⟨hu.1.of_kept hkept, fresh_move h hsound hkeeps hmove hu.2⟩
  | claimRead _ | passList _ | passMark _ _ => exact hu
  | passDelete now lock rest => exact fresh_move h hsound hkeeps hmove hu
  | finishRelease taskId lockedBy =>
    obtain ⟨task, hmem, hid, hended⟩ := hu
    obtain ⟨task', hmem', hkept⟩ := hkept task hmem
    exact ⟨task', hmem', hkept.taskId.trans hid, hkept.ended hended⟩
  | _ => trivial

theorem sound_onError (h : t.Sound clock st) : t.onError.Sound clock st := by
  cases t with
  | claimInsert c => exact h
  | _ => trivial

theorem sound_next (changed : Bool) (h : st.Leased) (hsound : t.Sound clock st)
    (hkeeps : t.Keeps clock st) :
    (t.statement st changed).next.Sound clock (t.statement st changed).store := by
  have hafter := sound_move h hsound hkeeps (statement_move st changed t) hsound
  fun_cases statement st changed t with
  | case1 c hpend =>
    obtain ⟨task, hmem, hid, htype, hstatus⟩ := hpend
    refine ⟨⟨task, hmem, hid, htype⟩, hsound, ?_⟩
    rintro ⟨task', hmem', hid', hrun⟩
    obtain rfl := eq_of_mem hmem hmem' (hid.trans hid'.symm)
    rw [hrun] at hstatus
    cases hstatus
  | case4 c st' hinsert =>
    simp only [statement, hinsert] at hafter
    exact hafter
  | case9 c existing st' hsteal hother =>
    simp only [statement, hsteal, if_pos hother] at hafter
    exact hafter
  | case10 c existing st' hsteal hother =>
    simp only [statement, hsteal, if_neg hother] at hafter
    exact hafter
  | case11 c expired => exact hafter
  | case3 | case7 | case17 => exact hsound
  | case19 now lock rest =>
    exact ⟨hsound, fun hrun => absurd hrun (not_running_mark lock.taskId)⟩
  | case20 now lock rest => exact hsound.past
  | case24 => cases changed <;> trivial
  | case27 taskId lockedBy now status result error st' hfinish =>
    exact (tasksMove_finish hfinish).2.2.2
  | _ => trivial

theorem exec_cases (st : TaskStore) (t : TaskThread) (r : StatementReply) :
    (r = .failed ∧ t.exec st r = ⟨st, t.onError, []⟩) ∨
      r ≠ .failed ∧ ∃ changed, (t.exec st r).store = (t.statement st changed).store ∧
        (t.exec st r).accepted = (t.statement st changed).accepted ∧
        ((t.exec st r).next = (t.statement st changed).next ∨ (t.exec st r).next = t.onError) := by
  cases r with
  | ok => exact .inr ⟨by simp, true, rfl, rfl, .inl rfl⟩
  | unchanged => exact .inr ⟨by simp, false, rfl, rfl, .inl rfl⟩
  | lost => exact .inr ⟨by simp, true, rfl, rfl, .inr rfl⟩
  | failed => exact .inl ⟨rfl, rfl⟩

/-- **The invariant.** The store is leased, and every call knows what its statement needs. -/
structure LeaseInv (s : LeaseState) : Prop where
  leased : s.store.Leased
  threads : ∀ t ∈ s.pool, t.Sound s.clock s.store

variable {s : LeaseState}

theorem leaseInv_exec (h : LeaseInv s) {k : ℕ} (hk : s.pool[k]? = some t) (r : StatementReply)
    (hkeeps : r ≠ .failed → t.Keeps s.clock s.store) :
    (t.exec s.store r).store.Leased ∧
      ∀ u ∈ s.pool.set k (t.exec s.store r).next, u.Sound s.clock (t.exec s.store r).store := by
  have hmem {j : ℕ} {u : TaskThread} (hj : s.pool[j]? = some u) : u.Sound s.clock s.store :=
    h.threads u (mem_of_getElem? hj)
  obtain ⟨-, hexec⟩ | ⟨hr, changed, hstore, -, hnext⟩ := exec_cases s.store t r
  · rw [hexec]
    exact ⟨h.leased, Pool.forall_mem_set (fun j u _ hj => hmem hj) (sound_onError (hmem hk))⟩
  have hmove := statement_move s.store changed t
  have hkeeps := hkeeps hr
  rw [hstore]
  refine ⟨leased_move h.leased (hmem hk) hkeeps hmove, Pool.forall_mem_set ?_ ?_⟩
  · exact fun j u _ hj => sound_move h.leased (hmem hk) hkeeps hmove (hmem hj)
  rcases hnext with hnext | hnext
  · rw [hnext]
    exact sound_next changed h.leased (hmem hk) hkeeps
  · rw [hnext]
    exact sound_onError (sound_move h.leased (hmem hk) hkeeps hmove (hmem hk))

theorem leased_create (clock : Int) (h : st.Leased) (taskId type state : String) :
    (st.createSystemTask taskId type state).Leased ∧ ∀ u : TaskThread, u.Sound clock st →
      u.Sound clock (st.createSystemTask taskId type state) := by
  have hlocks : (st.createSystemTask taskId type state).locks = st.locks := by
    unfold TaskStore.createSystemTask
    split_ifs <;> rfl
  -- the insertion moves the tables as a statement of a call that is over would
  have hmove : StatementMove st (.done .ok) (st.createSystemTask taskId type state) :=
    .of_tasks (tasksMove_create taskId type state) hlocks
  have hsound : (done .ok).Sound clock st := trivial
  have hkeeps : (done .ok).Keeps clock st := trivial
  exact ⟨leased_move h hsound hkeeps hmove, fun u hu => sound_move h hsound hkeeps hmove hu⟩

theorem TaskThread.Sound.later {clock' : Int} (h : t.Sound clock st) (hle : clock ≤ clock') :
    t.Sound clock' st := by
  cases t with
  | claimRead _ | passList _ | passMark _ _ => exact le_trans h hle
  | claimInsert _ | claimLook _ | claimSteal _ _ | claimMark _ _ | claimStart _ =>
    exact ⟨h.1, h.2.past.trans hle, h.2.lease⟩
  | passDelete now lock rest => exact ⟨h.past.trans hle, h.lease⟩
  | _ => exact h

theorem sound_call (c : TaskCall) : (c.thread clock).Sound clock st := by
  cases c with
  | claimSystemTask _ _ _ _ | expireStaleSystemTaskLocks => exact le_refl clock
  | _ => trivial

theorem leaseInv_step {e : TaskEvent} (h : LeaseInv s) (hkept : LeaseKept s e) :
    LeaseInv (leaseStep s e) := by
  cases e with
  | create taskId type state =>
    obtain ⟨hleased, hsound⟩ := leased_create s.clock h.leased taskId type state
    exact ⟨hleased, fun t ht => hsound t (h.threads t ht)⟩
  | call c =>
    refine ⟨h.leased, fun t ht => ?_⟩
    obtain hold | hnew := mem_append.mp ht
    · exact h.threads t hold
    · obtain rfl := mem_singleton.mp hnew
      exact sound_call c
  | step k r =>
    rw [leaseStep]
    rcases hk : s.pool[k]? with - | t
    · exact h
    have hkeeps : r ≠ .failed → t.Keeps s.clock s.store := by
      intro hr
      simp only [LeaseKept, hk] at hkept
      exact hkept.resolve_left hr
    obtain ⟨hleased, hthreads⟩ := leaseInv_exec h hk r hkeeps
    exact ⟨hleased, hthreads⟩
  | tick seconds =>
    have hle : s.clock ≤ s.clock + seconds := by omega
    exact ⟨h.leased, fun t ht => (h.threads t ht).later hle⟩

/-! ### Accepted updates -/

def AcceptedInv (s : LeaseState) : Prop :=
  ∀ update ∈ s.accepted, ∃ task ∈ s.store.tasks.rows,
    task.taskId = update.1 ∧ task.status ≠ .pending ∧ task.lockedBy = update.2

theorem accepted_statement (st : TaskStore) (changed : Bool) (t : TaskThread) :
    (t.statement st changed).accepted = [] ∨ ∃ taskId lockedBy now,
      (t.statement st changed).accepted = [(taskId, lockedBy)] ∧ st.Owns taskId lockedBy now := by
  fun_cases statement st changed t with
  | case24 taskId lockedBy now state st' h =>
    exact .inr ⟨taskId, lockedBy, now, rfl, (tasksMove_write h).2.2⟩
  | case27 taskId lockedBy now status result error st' h =>
    exact .inr ⟨taskId, lockedBy, now, rfl, (tasksMove_finish h).2.2.1⟩
  | _ => exact .inl rfl

theorem AcceptedInv.of_kept {s' : LeaseState} (h : AcceptedInv s)
    (hkept : ∀ task ∈ s.store.tasks.rows, ∃ task' ∈ s'.store.tasks.rows, task.Kept task')
    (hnew : ∀ update ∈ s'.accepted,
      update ∈ s.accepted ∨ ∃ now, s.store.Owns update.1 update.2 now) :
    AcceptedInv s' := by
  intro update hmem
  have hold : ∃ task ∈ s.store.tasks.rows,
      task.taskId = update.1 ∧ task.status ≠ .pending ∧ task.lockedBy = update.2 := by
    obtain hold | ⟨now, ⟨task, htask, hid, hrun, hby⟩, -⟩ := hnew update hmem
    · exact h update hold
    · exact ⟨task, htask, hid, by simp [hrun], hby⟩
  obtain ⟨task, htask, hid, hbegun, hby⟩ := hold
  obtain ⟨task', htask', hkept⟩ := hkept task htask
  obtain ⟨hbegun', hby'⟩ := hkept.begun hbegun
  exact ⟨task', htask', hkept.taskId.trans hid, hbegun', hby'.trans hby⟩

theorem acceptedInv_step (h : AcceptedInv s) (e : TaskEvent) : AcceptedInv (leaseStep s e) := by
  have hrefl : ∀ task ∈ s.store.tasks.rows, ∃ task' ∈ s.store.tasks.rows, task.Kept task' :=
    fun task hmem => ⟨task, hmem, .refl task⟩
  cases e with
  | create taskId type state =>
    exact h.of_kept (tasksMove_create taskId type state).kept fun update hmem => .inl hmem
  | call c | tick seconds => exact h.of_kept hrefl fun update hmem => .inl hmem
  | step k r =>
    rw [leaseStep]
    rcases hk : s.pool[k]? with - | t
    · exact h
    obtain ⟨-, hexec⟩ | ⟨-, changed, hstore, hacc, -⟩ := exec_cases s.store t r
    · dsimp only
      rw [hexec, append_nil]
      exact h.of_kept hrefl fun update hmem => .inl hmem
    refine h.of_kept ?_ fun update hmem => ?_
    · dsimp only
      rw [hstore]
      exact (statement_move s.store changed t).kept
    obtain hold | hnew := mem_append.mp hmem
    · exact .inl hold
    rw [hacc] at hnew
    obtain hnone | ⟨taskId, lockedBy, now, hone, howns⟩ :=
      accepted_statement s.store changed t
    · rw [hnone] at hnew
      cases hnew
    · rw [hone] at hnew
      obtain rfl := mem_singleton.mp hnew
      exact .inr ⟨now, howns⟩

theorem kept_leaseStep (s : LeaseState) (e : TaskEvent) :
    ∀ task ∈ s.store.tasks.rows, ∃ task' ∈ (leaseStep s e).store.tasks.rows, task.Kept task' := by
  have hrefl : ∀ task ∈ s.store.tasks.rows, ∃ task' ∈ s.store.tasks.rows, task.Kept task' :=
    fun task hmem => ⟨task, hmem, .refl task⟩
  cases e with
  | create taskId type state => exact (tasksMove_create taskId type state).kept
  | call c | tick seconds => exact hrefl
  | step k r =>
    rw [leaseStep]
    rcases s.pool[k]? with - | t
    · exact hrefl
    dsimp only
    obtain ⟨-, hexec⟩ | ⟨-, changed, hstore, -⟩ := exec_cases s.store t r
    · rw [hexec]
      exact hrefl
    · rw [hstore]
      exact (statement_move s.store changed t).kept

/-- **Tasks go one way.** In every run, whatever fails, each task keeps its row, id and type. Once
begun it is never pending again and has the same worker, and once ended it stays so. -/
theorem tasks_kept (s : LeaseState) (events : List TaskEvent)
    (task : { t // t ∈ s.store.tasks.rows }) :
    ∃ task' ∈ (run leaseStep s events).store.tasks.rows, task.1.Kept task' := by
  suffices hstep : ∀ s e, (∃ task' ∈ s.store.tasks.rows, task.1.Kept task') → True →
      ∃ task' ∈ (leaseStep s e).store.tasks.rows, task.1.Kept task' from
    run_induction hstep ⟨task.1, task.2, .refl _⟩ (along_of_forall (fun _ _ => trivial) s events)
  rintro s e ⟨task', hmem, hkept⟩ -
  obtain ⟨task'', hmem', hkept'⟩ := kept_leaseStep s e task' hmem
  exact ⟨task'', hmem', hkept.trans hkept'⟩

end

/-! ### A running task without a lock row -/

/-- The call has the task on its way to a lock row or to a mark: it may still ask for a lock row of
the task, or it has read one and marks the task later. -/
def TaskThread.Touches (taskId : String) : TaskThread → Prop
  | .claimInsert c | .claimLook c => c.taskId = taskId
  | .claimSteal c existing => c.taskId = taskId ∨ existing = taskId
  | .claimMark _ expired => expired = taskId
  | .passMark _ locks | .passDelete _ _ locks => ∃ l ∈ locks, l.taskId = taskId
  | .claimRead _ | .claimStart _ | .claimRelease _ _ | .claimReload _ | .passList _
  | .renew _ _ _ _ | .update _ _ _ _ | .confirm _ _ _ | .finish _ _ _ _ _ _ | .finishRelease _ _
  | .release _ _ | .done _ => False

structure TaskStore.Unowned (st : TaskStore) (taskId : String) : Prop where
  running : st.Running taskId
  locks : ∀ l ∈ st.locks.rows, l.taskId ≠ taskId

section

variable {st st' : TaskStore} {t : TaskThread} {taskId : String}

theorem running_update {p : SystemTask → Prop} [DecidablePred p] {f : SystemTask → SystemTask}
    (hkey : ∀ t, (f t).taskId = t.taskId) (h : st.Running taskId)
    (hstatus : ∀ t ∈ st.tasks.rows, t.taskId = taskId → t.status = .running → p t →
      (f t).status = .running) :
    TaskStore.Running { st with tasks := st.tasks.updateWhere p f hkey } taskId := by
  obtain ⟨task, hmem, hid, hrun⟩ := h
  refine ⟨_, (mem_updateWhere hkey).mpr ⟨task, hmem, rfl⟩, ?_⟩
  split_ifs with hp
  · exact ⟨(hkey task).trans hid, hstatus task hmem hid hrun hp⟩
  · exact ⟨hid, hrun⟩

section

variable (h : st.Unowned taskId)
include h

theorem TaskStore.Unowned.mark {other : String} (hne : other ≠ taskId) :
    (st.markSystemTaskLeaseExpired other).Unowned taskId := by
  refine ⟨running_update _ h.running ?_, h.locks⟩
  exact fun t _ hid _ hp => absurd (hp.1.symm.trans hid) hne

theorem TaskStore.Unowned.not_owns (lockedBy : String) (now : Int) :
    ¬ st.Owns taskId lockedBy now :=
  fun ⟨_, l, hl, hid, _⟩ => h.locks l hl hid

theorem TaskStore.Unowned.not_pending (type : String) : ¬ st.Pending taskId type := by
  rintro ⟨task, hmem, hid, -, hpend⟩
  obtain ⟨task', hmem', hid', hrun⟩ := h.running
  obtain rfl := eq_of_mem hmem hmem' (hid.trans hid'.symm)
  rw [hrun] at hpend
  cases hpend

theorem TaskStore.Unowned.delete (p : SystemTaskLock → Prop)
    [DecidablePred p] : TaskStore.Unowned { st with locks := st.locks.deleteWhere p } taskId :=
  ⟨h.running, fun l hl => h.locks l (mem_deleteWhere.mp hl).1⟩

theorem unowned_statement (ht : ¬ t.Touches taskId) (changed : Bool) :
    (t.statement st changed).store.Unowned taskId ∧
      ¬ (t.statement st changed).next.Touches taskId := by
  have hsteal {c : ClaimArgs} {st' : TaskStore} (hne : c.taskId ≠ taskId)
      (hsteal : st.stealLock c.lock c.now = some st') : st'.Unowned taskId := by
    obtain ⟨old, -, -, rfl⟩ := stealLock_some hsteal
    refine ⟨h.running, fun l hl => ?_⟩
    obtain rfl | ⟨hl, -⟩ := mem_save hl
    · exact hne
    · exact h.locks l hl
  fun_cases statement st changed t with
  | case1 c hpend =>
    refine ⟨h, ?_⟩
    rintro rfl
    exact h.not_pending c.type hpend
  | case3 => exact ⟨h, ht⟩
  | case4 c st' hinsert =>
    obtain ⟨hnew, rfl⟩ := insertLock_some hinsert
    refine ⟨⟨h.running, fun l hl => ?_⟩, id⟩
    obtain rfl | hl := (mem_insert hnew).mp hl
    · exact ht
    · exact h.locks l hl
  | case7 c existing hfind hheld =>
    refine ⟨h, ?_⟩
    rintro (hid | hid)
    · exact ht hid
    · exact h.locks existing (mem_of_find hfind).1 hid
  | case9 c existing st' h' hother =>
    exact ⟨hsteal (fun hid => ht (.inl hid)) h', fun hid => ht (.inr hid)⟩
  | case10 c existing st' h' hother => exact ⟨hsteal (fun hid => ht (.inl hid)) h', id⟩
  | case11 c expired => exact ⟨h.mark ht, id⟩
  | case13 c st' hstart =>
    unfold TaskStore.startTask at hstart
    split_ifs at hstart
    cases hstart
    exact ⟨⟨running_update _ h.running fun t _ _ _ _ => rfl, h.locks⟩, id⟩
  | case17 now =>
    refine ⟨h, ?_⟩
    rintro ⟨l, hl, hid⟩
    exact h.locks l (mem_of_mem_filter hl) hid
  | case19 now lock rest =>
    refine ⟨h.mark fun hid => ht ⟨lock, mem_cons_self, hid⟩, ?_⟩
    rintro ⟨l, hl, hid⟩
    exact ht ⟨l, mem_cons_of_mem lock hl, hid⟩
  | case20 now lock rest => exact ⟨h.delete _, ht⟩
  | case22 taskId' lockedBy now lockUntil st' hrenew =>
    unfold TaskStore.renewSystemTaskLock at hrenew
    split_ifs at hrenew
    cases hrenew
    refine ⟨⟨h.running, fun l hl => ?_⟩, id⟩
    obtain ⟨l₀, hl₀, rfl⟩ := (mem_updateWhere fun _ => by rfl).mp hl
    split_ifs <;> exact h.locks l₀ hl₀
  | case24 taskId' lockedBy now state st' hwrite =>
    unfold TaskStore.writeTaskState at hwrite
    split_ifs at hwrite
    cases hwrite
    refine ⟨⟨running_update _ h.running fun t _ _ hrun _ => hrun, h.locks⟩, ?_⟩
    cases changed <;> exact id
  | case27 taskId' lockedBy now status result error st' hfinish =>
    unfold TaskStore.finishTask at hfinish
    split_ifs at hfinish with howns
    cases hfinish
    refine ⟨⟨running_update _ h.running ?_, h.locks⟩, id⟩
    intro t _ hid _ hp
    rw [← hp.1, hid] at howns
    exact absurd howns (h.not_owns lockedBy now)
  | case14 | case28 | case29 => exact ⟨h.delete _, id⟩
  | _ => exact ⟨h, id⟩

end

theorem touches_onError (ht : ¬ t.Touches taskId) : ¬ t.onError.Touches taskId := by
  cases t with
  | claimInsert c => exact ht
  | _ => exact id

theorem TaskStore.Unowned.create (h : st.Unowned taskId) (newId type state : String) :
    (st.createSystemTask newId type state).Unowned taskId := by
  unfold TaskStore.createSystemTask
  split_ifs with hused
  · exact h
  · have hnew : newId ∉ st.tasks.keys := fun hmem => hused (.inl hmem)
    obtain ⟨task, hmem, hrun⟩ := h.running
    exact ⟨⟨task, (mem_insert hnew).mpr (.inr hmem), hrun⟩, h.locks⟩

structure LeaseState.Stuck (s : LeaseState) (taskId : String) : Prop where
  store : s.store.Unowned taskId
  pool : ∀ t ∈ s.pool, ¬ t.Touches taskId

theorem stuck_step (h : s.Stuck taskId) (e : TaskEvent) : (leaseStep s e).Stuck taskId := by
  cases e with
  | create newId type state => exact ⟨h.store.create newId type state, h.pool⟩
  | call c =>
    refine ⟨h.store, fun t ht => ?_⟩
    obtain hold | hnew := mem_append.mp ht
    · exact h.pool t hold
    · obtain rfl := mem_singleton.mp hnew
      cases c <;> exact id
  | step k r =>
    rw [leaseStep]
    rcases hk : s.pool[k]? with - | t
    · exact h
    have ht := h.pool t (mem_of_getElem? hk)
    have hothers (j : ℕ) (u : TaskThread) (_ : j ≠ k) (hj : s.pool[j]? = some u) :
        ¬ u.Touches taskId := h.pool u (mem_of_getElem? hj)
    obtain ⟨-, hexec⟩ | ⟨-, changed, hstore, -, hnext⟩ := exec_cases s.store t r
    · dsimp only
      rw [hexec]
      exact ⟨h.store, Pool.forall_mem_set hothers (touches_onError ht)⟩
    obtain ⟨hunowned, htouch⟩ := unowned_statement h.store ht changed
    refine ⟨?_, Pool.forall_mem_set hothers ?_⟩
    · dsimp only
      rw [hstore]
      exact hunowned
    rcases hnext with hnext | hnext
    · rw [hnext]
      exact htouch
    · rw [hnext]
      exact touches_onError ht
  | tick seconds => exact ⟨h.store, h.pool⟩

/-- **A stuck task stays stuck**, whatever the workers do. -/
theorem stuck_run (h : s.Stuck taskId) (events : List TaskEvent) :
    (run leaseStep s events).Stuck taskId := by
  have hstep : ∀ s e, s.Stuck taskId → True → (leaseStep s e).Stuck taskId :=
    fun s e h _ => stuck_step h e
  exact run_induction hstep h (along_of_forall (fun _ _ => trivial) _ _)

end

/-! ### The stale-lock pass -/

/-- The pass has still to mark the task, or has stopped with an error. -/
def TaskThread.Owes (taskId : String) : TaskThread → Prop
  | .passMark _ locks | .passDelete _ _ locks => ∃ l ∈ locks, l.taskId = taskId
  | .done result => result ≠ .ok
  | _ => False

/-- **Recovery.** Let a stale-lock pass be about to read the lock rows, and let a running task have
one that has expired. When the pass has ended without an error, whatever the other calls have done
meanwhile, the task has ended. A pass whose statements succeed does end. -/
def LeaseState.Recovers (s : LeaseState) : Prop :=
  ∀ k now, s.pool[k]? = some (.passList now) →
    (∀ task ∈ s.store.tasks.rows, task.status = .running →
      (∃ l ∈ s.store.locks.rows, l.taskId = task.taskId ∧ l.lockedUntil < now) →
      ∀ events, (run leaseStep s (.step k .ok :: events)).pool[k]? = some (.done .ok) →
        ∃ task' ∈ (run leaseStep s (.step k .ok :: events)).store.tasks.rows,
          task'.taskId = task.taskId ∧ task'.Ended) ∧
    ∃ n, (run leaseStep s (replicate n (.step k .ok))).pool[k]? = some (.done .ok)

section

variable {t : TaskThread} {taskId : String} {k : ℕ}

theorem pool_step (hk : s.pool[k]? = some t) (r : StatementReply) :
    (leaseStep s (.step k r)).pool[k]? = some (t.exec s.store r).next ∧
      (leaseStep s (.step k r)).store = (t.exec s.store r).store := by
  rw [leaseStep, hk]
  exact ⟨getElem?_set_self (List.getElem?_eq_some_iff.mp hk).1, rfl⟩

theorem pool_step_of_ne {e : TaskEvent} (hk : s.pool[k]? = some t) (he : ∀ r, e ≠ .step k r) :
    (leaseStep s e).pool[k]? = some t := by
  cases e with
  | create | tick => exact hk
  | call c => exact (getElem?_append_left (List.getElem?_eq_some_iff.mp hk).1).trans hk
  | step j r =>
    rw [leaseStep]
    rcases s.pool[j]? with - | u
    · exact hk
    · have hne : j ≠ k := fun hjk => he r (hjk ▸ rfl)
      exact (getElem?_set_ne hne).trans hk

/-- A statement of the pass marks the task, or the pass still has to. -/
theorem Owes.exec (h : t.Owes taskId) (st : TaskStore) (r : StatementReply) :
    (t.exec st r).next.Owes taskId ∨
      (t.exec st r).store = st.markSystemTaskLeaseExpired taskId := by
  cases t with
  | passMark now locks =>
    obtain ⟨l, hl, rfl⟩ := h
    cases hl with
    | head rest =>
      cases r with
      | ok | unchanged => exact .inr rfl
      | lost | failed => exact .inl nofun
    | tail lock hl =>
      cases r with
      | ok | unchanged => exact .inl ⟨l, hl, rfl⟩
      | lost | failed => exact .inl nofun
  | passDelete now lock rest =>
    cases r with
    | ok | unchanged => exact .inl h
    | lost | failed => exact .inl nofun
  | done result => cases r <;> exact .inl h
  | _ => exact h.elim

/-- The task has begun, and it has ended or call `k` still has to mark it. -/
def LeaseState.Owed (s : LeaseState) (k : ℕ) (taskId : String) : Prop :=
  ∃ task ∈ s.store.tasks.rows, task.taskId = taskId ∧ task.status ≠ .pending ∧
    (task.Ended ∨ ∃ t, s.pool[k]? = some t ∧ t.Owes taskId)

theorem owed_step (e : TaskEvent) (h : s.Owed k taskId) : (leaseStep s e).Owed k taskId := by
  obtain ⟨task, hmem, rfl, hbegun, howed⟩ := h
  obtain ⟨task', hmem', hkept⟩ := kept_leaseStep s e task hmem
  refine ⟨task', hmem', hkept.taskId, (hkept.begun hbegun).1, ?_⟩
  rcases howed with hended | ⟨t, hk, ht⟩
  · exact .inl (hkept.ended hended)
  by_cases he : ∃ r, e = .step k r
  · obtain ⟨r, rfl⟩ := he
    obtain ⟨hpool, hstore⟩ := pool_step hk r
    obtain hnext | hmark := Owes.exec ht s.store r
    · exact .inr ⟨_, hpool, hnext⟩
    -- after the mark the task is not running, and it had begun
    rw [hstore, hmark] at hmem'
    have hnot : task'.status ≠ .running :=
      fun hrun => not_running_mark _ ⟨task', hmem', hkept.taskId, hrun⟩
    have hnot' := (hkept.begun hbegun).1
    refine .inl ?_
    unfold SystemTask.Ended
    cases hstatus : task'.status <;> simp_all
  · exact .inr ⟨t, pool_step_of_ne hk fun r hr => he ⟨r, hr⟩, ht⟩

theorem passMark_ends {now : Int} {locks : List SystemTaskLock}
    (hk : s.pool[k]? = some (.passMark now locks)) :
    ∃ n, (run leaseStep s (replicate n (.step k .ok))).pool[k]? = some (.done .ok) := by
  induction locks generalizing s with
  | nil => exact ⟨1, (pool_step hk .ok).1⟩
  | cons lock rest ih =>
    obtain ⟨n, hn⟩ := ih (pool_step (pool_step hk .ok).1 .ok).1
    exact ⟨n + 2, hn⟩

theorem recovers (s : LeaseState) : s.Recovers := by
  intro k now hk
  obtain ⟨hpool, hstore⟩ := pool_step hk .ok
  refine ⟨fun task hmem hrun ⟨l, hl, hid, hexpired⟩ events hdone => ?_, ?_⟩
  · have hstart : (leaseStep s (.step k .ok)).Owed k task.taskId := by
      refine ⟨task, hstore ▸ hmem, rfl, by simp [hrun], .inr ⟨_, hpool, l, ?_, hid⟩⟩
      exact mem_filter.mpr ⟨hl, decide_eq_true hexpired⟩
    have hend : (run leaseStep s (.step k .ok :: events)).Owed k task.taskId := by
      rw [run_cons]
      suffices hstep : ∀ s e, s.Owed k task.taskId → True → (leaseStep s e).Owed k task.taskId from
        run_induction hstep hstart (along_of_forall (fun _ _ => trivial) _ _)
      exact fun s e h _ => owed_step e h
    obtain ⟨task', hmem', hid', -, hended | ⟨t, hk', ht⟩⟩ := hend
    · exact ⟨task', hmem', hid', hended⟩
    · rw [hdone] at hk'
      cases hk'
      exact absurd rfl ht
  · obtain ⟨n, hn⟩ := passMark_ends hpool
    exact ⟨n + 1, hn⟩

end

def LeaseState.start (st : TaskStore) (clock : Int) : LeaseState := ⟨st, clock, [], []⟩

/-- **Leases are kept.** If the statements of a run meet the condition, then in the state that it
reaches every running task has a lock row that carries its id. In every run, the updates of a task
that are accepted are all of one worker, and a stale-lock pass ends the running tasks whose lock row
has expired. -/
theorem leases_kept (st : TaskStore) (clock : Int) (events : List TaskEvent) (hstart : st.Leased)
    (hkept : Along leaseStep LeaseKept (LeaseState.start st clock) events) :
    let s := run leaseStep (LeaseState.start st clock) events
    (∀ task ∈ s.store.tasks.rows, task.status = .running →
        ∃ l ∈ s.store.locks.rows, l.taskId = task.taskId) ∧
      (∀ taskId w w', (taskId, w) ∈ s.accepted → (taskId, w') ∈ s.accepted → w = w') ∧
      s.Recovers := by
  intro s
  have hinv : LeaseInv s := by
    refine run_induction (fun s e h hkept => leaseInv_step h hkept) ⟨hstart, ?_⟩ hkept
    intro t ht
    cases ht
  have hacc : AcceptedInv s := by
    have hstep : ∀ s e, AcceptedInv s → True → AcceptedInv (leaseStep s e) :=
      fun s e h _ => acceptedInv_step h e
    refine run_induction hstep ?_ (along_of_forall (fun _ _ => trivial) _ _)
    intro update hmem
    cases hmem
  refine ⟨fun task hmem hrun => ?_, fun taskId w w' hw hw' => ?_, recovers s⟩
  · obtain ⟨l, hl, -, hid⟩ := hinv.leased.owned task hmem hrun
    exact ⟨l, hl, hid⟩
  · obtain ⟨task, hmem, hid, -, rfl⟩ := hacc _ hw
    obtain ⟨task', hmem', hid', -, rfl⟩ := hacc _ hw'
    rw [eq_of_mem hmem hmem' (hid.trans hid'.symm)]

def sampleTasks : TaskStore where
  tasks := ⟨[⟨"a", "log_cleanup", .pending, some "log_cleanup", "", "", "", ""⟩],
    List.nodup_singleton _⟩
  locks := ⟨[], List.nodup_nil⟩

def sampleLease : List TaskEvent :=
  [.call (.claimSystemTask "a" "log_cleanup" "w1" 60), .step 0 .ok,
   .call (.claimSystemTask "a" "log_cleanup" "w2" 60), .step 1 .ok, .step 0 .ok, .step 0 .ok,
   .step 0 .ok, .step 1 .ok, .step 1 .ok, .call (.updateSystemTaskState "a" "w1" "50"),
   .step 2 .unchanged, .step 2 .ok, .tick 30, .call (.renewSystemTaskLock "a" "w1" 90), .step 3 .ok,
   .tick 40, .call .expireStaleSystemTaskLocks, .step 4 .ok, .step 4 .ok, .tick 30,
   .call .expireStaleSystemTaskLocks]

theorem leases_kept_sampleLease :
    let s := run leaseStep (LeaseState.start sampleTasks 0) sampleLease
    s.store.Running "a" ∧ s.accepted = [("a", "w1")] ∧ s.pool[5]? = some (.passList 100) ∧
      s.store.locks.rows = [⟨"log_cleanup", "a", "w1", 90⟩] ∧
      (∀ task ∈ s.store.tasks.rows, task.status = .running →
        ∃ l ∈ s.store.locks.rows, l.taskId = task.taskId) ∧
      (∀ taskId w w', (taskId, w) ∈ s.accepted → (taskId, w') ∈ s.accepted → w = w') ∧
      s.Recovers := by
  have hstart : sampleTasks.Leased := by
    refine ⟨fun task hmem hrun => ?_, fun l hl => ?_⟩
    · obtain rfl := mem_singleton.mp hmem
      cases hrun
    · cases hl
  exact ⟨by decide +kernel, by decide +kernel, by decide +kernel, by decide +kernel,
    leases_kept sampleTasks 0 sampleLease hstart (by decide +kernel)⟩

/-- A worker takes the lock row of the task and sleeps through its lease. A stale-lock pass finds
the task pending and deletes the lock row. Then the worker goes on, and starts the task. -/
def sleptThrough : List TaskEvent :=
  [.call (.claimSystemTask "a" "log_cleanup" "w1" 60), .step 0 .ok, .step 0 .ok, .tick 61,
   .call .expireStaleSystemTaskLocks, .step 1 .ok, .step 1 .ok, .step 1 .ok, .step 1 .ok,
   .step 0 .ok]

def sampleLegacyTasks : TaskStore where
  tasks := ⟨[⟨"a", "log_cleanup", .running, some "log_cleanup", "", "", "", "w1"⟩,
    ⟨"b", "log_cleanup", .pending, none, "", "", "", ""⟩], by decide⟩
  locks := ⟨[⟨"log_cleanup", "a", "w1", 60⟩], List.nodup_singleton _⟩

/-- A worker claims the legacy task, takes over the lock row and stops before it marks the task that
the row was for. Later a stale-lock pass deletes the lock row. -/
def stoppedAfterSteal : List TaskEvent :=
  [.call (.claimSystemTask "b" "log_cleanup" "w2" 121), .step 0 .ok, .step 0 .ok, .step 0 .ok,
   .step 0 .ok, .tick 61, .call .expireStaleSystemTaskLocks, .step 1 .ok, .step 1 .ok, .step 1 .ok,
   .step 1 .ok]

/-- **A task that runs forever.** After the worker has slept through its lease the task is running
without a lock row in every continuation. After a worker has stopped between the take-over of a lock
row and the mark, the old task is running, and a whole stale-lock pass leaves it so. -/
theorem task_runs_forever : (let s := run leaseStep (LeaseState.start sampleTasks 0) sleptThrough
      ∀ events, (run leaseStep s events).store.Running "a" ∧
        ∀ l ∈ (run leaseStep s events).store.locks.rows, l.taskId ≠ "a") ∧
      let s := run leaseStep (LeaseState.start sampleLegacyTasks 61) stoppedAfterSteal
      s.store.Running "a" ∧ s.store.locks.rows = [] ∧ s.pool[1]? = some (.done .ok) := by
  refine ⟨?_, by decide +kernel, by decide +kernel, by decide +kernel⟩
  intro s events
  have hpool : s.pool = [.claimReload ⟨"a", "log_cleanup", "w1", 0, 60⟩, .done .ok] := by
    decide +kernel
  have hlocks : s.store.locks.rows = [] := by decide +kernel
  have hstuck : s.Stuck "a" := by
    refine ⟨⟨by decide +kernel, ?_⟩, ?_⟩
    · rw [hlocks]
      simp
    · rw [hpool]
      simp [TaskThread.Touches]
  have hrun := (stuck_run hstuck events).store
  exact ⟨hrun.running, hrun.locks⟩

end NewApi.Model
