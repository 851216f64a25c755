import NewApi.Foundation.Expiring
import NewApi.Foundation.GoText
import NewApi.Foundation.LockedThreads
import NewApi.Foundation.Table

/-!
# One-time authentication flows

A flow (`model/auth_flow.go`) is the state of an authentication that has begun: a row under the HMAC
of its token, with a purpose and, where they are known, a provider, an intent, a user and a session.
It is consumed once. The claim is the first statement of a transaction, a conditional update; an
action may follow in the same transaction, and if it fails everything is rolled back. An assertion
of an external provider is recorded as a row that is consumed from the start, under a key that only
this assertion has; the unique index refuses it the second time. A cleanup deletes rows a day after
they have expired or were consumed, so the rows that record a consumption go away.

Every call is a thread whose statements and readings of the clock are single steps. A transaction
holds the keys that it has written until it ends, and other statements that would write them wait;
its writes become visible when it commits. A statement, an action or a commit may fail.

The cleanup is modelled row by row, with any earlier time as its argument: its single statement is a
sequence of such deletions. The identifier and the time of creation of a row are left out, and text
columns are compared as they are.
-/

namespace NewApi.Model

open GoTime

/-! ### Rows -/

/-- A flow. -/
structure AuthFlow where
  tokenHash : String
  purpose : String
  provider : String
  intent : String
  userId : Int
  sessionId : String
  payload : String
  expiresAt : Int
  consumedAt : Option Int
  deriving DecidableEq, Repr

/-- The fields that a caller asks for. -/
structure AuthFlowMatch where
  purpose : String
  provider : String
  intent : String
  userId : Int
  sessionId : String
  deriving DecidableEq, Repr

/-- `applyAuthFlowMatch` without the token: the purpose always counts, the other fields where they
are given. -/
def AuthFlowMatch.Matches (m : AuthFlowMatch) (f : AuthFlow) : Prop :=
  f.purpose = m.purpose ∧ (m.provider ≠ "" → f.provider = m.provider) ∧
    (m.intent ≠ "" → f.intent = m.intent) ∧ (m.userId ≠ 0 → f.userId = m.userId) ∧
    (m.sessionId ≠ "" → f.sessionId = m.sessionId)
  deriving Decidable

def authFlowDefaultCleanupRetention : Int := 24 * 3600 * second

abbrev FlowTable := Table AuthFlow.tokenHash

structure AssertionClaim where
  purpose : String
  assertion : String
  expiresAt : Int
  deriving DecidableEq, Repr

/-- The arguments of `ConsumeAuthFlowWithAction`. Of an action only its claims of assertions touch
the table; `none` is the call `ConsumeAuthFlow`. -/
structure ConsumeCall where
  token : String
  fields : AuthFlowMatch
  action : Option (List AssertionClaim)
  deriving DecidableEq, Repr

/-! ### Transactions -/

/-- The consumption of a flow: the row before it, the time of the claim, and the time at which the
expiry was checked again. -/
structure Consumption where
  call : ConsumeCall
  flow : AuthFlow
  now : Int
  checkedAt : Int
  deriving DecidableEq, Repr

def Consumption.row (c : Consumption) : AuthFlow := { c.flow with consumedAt := some c.now }

/-- The claim of an assertion: its key, the time that it records, and the time at which its row was
inserted. -/
structure ClaimRecord where
  tokenHash : String
  purpose : String
  expiresAt : Int
  now : Int
  insertedAt : Int
  deriving DecidableEq, Repr

/-- The row that a claim inserts. -/
def ClaimRecord.row (r : ClaimRecord) : AuthFlow :=
  ⟨r.tokenHash, r.purpose, "", "", 0, "", "", r.expiresAt, some r.now⟩

structure FlowTx where
  consumption : Option Consumption
  claims : List ClaimRecord
  deriving DecidableEq, Repr

def FlowTx.rows (tx : FlowTx) : List AuthFlow :=
  tx.consumption.toList.map Consumption.row ++ tx.claims.map ClaimRecord.row

def FlowTx.keys (tx : FlowTx) : List String := tx.rows.map AuthFlow.tokenHash

/-- The clock and the rows, and what has been committed. The program does not keep the last two. -/
structure FlowStore where
  clock : Int
  flows : FlowTable
  consumed : List Consumption
  claims : List ClaimRecord

def FlowTx.commit (tx : FlowTx) (s : FlowStore) : FlowStore where
  clock := s.clock
  flows := tx.rows.foldl Table.put s.flows
  consumed := s.consumed ++ tx.consumption.toList
  claims := s.claims ++ tx.claims

/-! ### Calls -/

inductive FlowCall
  | getAuthFlow (token : String) (fields : AuthFlowMatch)
  | consumeAuthFlow (c : ConsumeCall)
  | claimExternalAuthAssertion (claim : AssertionClaim)

inductive FlowError
  | invalid
  | expired
  | consumed
  | action
  | database
  deriving DecidableEq, Repr

inductive FlowResult
  | got (flow : AuthFlow)
  | consumed (flow : AuthFlow)
  | claimed
  | failed (e : FlowError)
  deriving DecidableEq, Repr

/-- How far a call is. After its update a consumption keeps the row that it has claimed, if any. -/
inductive FlowThread
  | reading (token : String) (fields : AuthFlowMatch)
  | checkingRead (flow : AuthFlow)
  | beginning (c : ConsumeCall)
  | updating (c : ConsumeCall) (now : Int)
  | selecting (c : ConsumeCall) (now : Int) (claimed : Option AuthFlow)
  | checking (c : ConsumeCall) (now : Int) (claimed : Option AuthFlow) (flow : AuthFlow)
  | acting (tx : FlowTx) (todo : List AssertionClaim)
  | inserting (tx : FlowTx) (claim : AssertionClaim) (now : Int) (todo : List AssertionClaim)
  | committing (tx : FlowTx)
  | done (result : FlowResult)
  deriving DecidableEq, Repr

def FlowThread.fail (e : FlowError) : FlowThread := .done (.failed e)

/-- A call that begins. -/
def FlowCall.thread : FlowCall → FlowThread
  | .getAuthFlow token fields =>
    if token = "" ∨ fields.purpose = "" then .fail .invalid else .reading token fields
  | .consumeAuthFlow c =>
    if c.token = "" ∨ c.fields.purpose = "" then .fail .invalid else .beginning c
  | .claimExternalAuthAssertion claim => .acting ⟨none, []⟩ [claim]

/-- What becomes of a step: it succeeds, it fails, or it succeeds although its caller gets an error.
With the last one, an action goes on after an assertion that has been refused. -/
inductive FlowReply
  | ok
  | lost
  | failed
  deriving DecidableEq, Repr

section

variable (hmac : String → String) (s : FlowStore) (ans : FlowReply)

def AssertionClaim.tokenHash (claim : AssertionClaim) : String :=
  hmac ("external:" ++ claim.purpose ++ ":" ++ claim.assertion)

/-- The row that the conditional update changes. -/
def claimable (c : ConsumeCall) (now : Int) : Option AuthFlow :=
  (s.flows.find (hmac c.token)).filter fun f =>
    c.fields.Matches f ∧ f.consumedAt = none ∧ now < f.expiresAt

def flowQuery (t : FlowThread) : FlowStore × FlowThread :=
  match ans with
  | .ok => (s, t)
  | .lost | .failed => (s, .fail .database)

/-- `GetAuthFlow` after its read. -/
def readFlow (token : String) (fields : AuthFlowMatch) : FlowThread :=
  match (s.flows.find (hmac token)).filter fun f => fields.Matches f with
  | none => .fail .invalid
  | some flow => if flow.consumedAt.isSome then .fail .consumed else .checkingRead flow

/-- The read of a consumption, which sees the own update. -/
def selectFlow (c : ConsumeCall) (now : Int) (claimed : Option AuthFlow) : FlowThread :=
  let visible := match claimed with
    | some row => some { row with consumedAt := some now }
    | none => s.flows.find (hmac c.token)
  match visible.filter fun f => c.fields.Matches f with
  | none => .fail .invalid
  | some flow => .checking c now claimed flow

/-- The checks of a consumption, and where it goes on. -/
def checkFlow (c : ConsumeCall) (now : Int) (claimed : Option AuthFlow) (flow : AuthFlow) :
    FlowThread :=
  if claimed.isNone ∧ flow.consumedAt.isSome then .fail .consumed
  else if ¬ s.clock < flow.expiresAt then .fail .expired
  else match claimed with
    | none => .fail .invalid
    | some row =>
      let tx : FlowTx := ⟨some ⟨c, row, now, s.clock⟩, []⟩
      match c.action with
      | none => .committing tx
      | some todo => .acting tx todo

/-- `ClaimExternalAuthAssertionWithTx` up to its insertion. An action that gets an error fails, or
goes on. -/
def beginClaim (tx : FlowTx) (claim : AssertionClaim) (todo : List AssertionClaim) : FlowThread :=
  let claim := { claim with
    purpose := GoText.trimSpace claim.purpose
    assertion := GoText.trimSpace claim.assertion }
  if claim.purpose = "" ∨ claim.assertion = "" ∨ ¬ s.clock < claim.expiresAt then
    if ans = .ok then .fail .invalid else .acting tx todo
  else .inserting tx claim s.clock todo

/-- The insertion of a claim, which does nothing if the key is taken. -/
def insertClaim (tx : FlowTx) (claim : AssertionClaim) (now : Int) (todo : List AssertionClaim) :
    FlowThread :=
  let key := claim.tokenHash hmac
  if key ∈ tx.keys ∨ (s.flows.find key).isSome then
    if ans = .ok then .fail .consumed else .acting tx todo
  else .acting { tx with claims := tx.claims ++ [⟨key, claim.purpose, claim.expiresAt, now,
    s.clock⟩] } todo

/-- **The next step of a call.** -/
def FlowThread.exec : FlowThread → FlowStore × FlowThread
  | .reading token fields => flowQuery s ans (readFlow hmac s token fields)
  | .checkingRead flow =>
    (s, if s.clock < flow.expiresAt then .done (.got flow) else .fail .expired)
  | .beginning c => (s, .updating c s.clock)
  | .updating c now => flowQuery s ans (.selecting c now (claimable hmac s c now))
  | .selecting c now claimed => flowQuery s ans (selectFlow hmac s c now claimed)
  | .checking c now claimed flow => (s, checkFlow s c now claimed flow)
  | .acting tx [] => (s, if ans = .failed then .fail .action else .committing tx)
  | .acting tx (claim :: todo) =>
    (s, if ans = .failed then .fail .action else beginClaim s ans tx claim todo)
  | .inserting tx claim now todo =>
    (s, if ans = .failed then .fail .database else insertClaim hmac s ans tx claim now todo)
  | .committing tx =>
    match ans with
    | .ok => (tx.commit s, .done (match tx.consumption with
        | some c => .consumed c.row
        | none => .claimed))
    | .lost => (tx.commit s, .fail .database)
    | .failed => (s, .fail .database)
  | .done result => (s, .done result)

end

/-! ### The system -/

def FlowThread.holds : FlowThread → List String
  | .selecting _ _ (some row) | .checking _ _ (some row) _ => [row.tokenHash]
  | .acting tx _ | .inserting tx _ _ _ | .committing tx => tx.keys
  | _ => []

def FlowThread.wants (hmac : String → String) (s : FlowStore) : FlowThread → List String
  | .updating c now => ((claimable hmac s c now).map AuthFlow.tokenHash).toList
  | .inserting _ claim _ _ => [claim.tokenHash hmac]
  | _ => []

/-- What happens outside the calls: time passes, or the cleanup of a time before now reaches a
row. -/
inductive FlowOutside
  | tick (span : ℕ)
  | deleteExpiredAuthFlow (age : ℕ) (tokenHash : String)

/-- The condition of the cleanup. -/
def AuthFlow.Outdated (f : AuthFlow) (now : Int) : Prop :=
  let cutoff := now - authFlowDefaultCleanupRetention
  f.expiresAt < cutoff ∨ f.consumedAt.any fun t => t < cutoff
  deriving Decidable

def FlowStore.outside (s : FlowStore) : FlowOutside → FlowStore
  | .tick span => { s with clock := s.clock + span }
  | .deleteExpiredAuthFlow age tokenHash =>
    if (s.flows.find tokenHash).any fun f => f.Outdated (s.clock - age) then
      { s with flows := s.flows.erase tokenHash }
    else s

def FlowStore.wantsOutside (_ : FlowStore) : FlowOutside → List String
  | .tick _ => []
  | .deleteExpiredAuthFlow _ tokenHash => [tokenHash]

open FlowThread

section

variable {hmac : String → String} {s : FlowStore} {ans : FlowReply} {t : FlowThread} {l : String}

theorem holds_flowQuery {t' : FlowThread}
    (hl : l ∈ (flowQuery s ans t').2.holds) : l ∈ t'.holds := by
  cases ans with
  | ok => exact hl
  | _ => cases hl

variable {now : Int}

theorem holds_selectFlow {c : ConsumeCall} {claimed : Option AuthFlow}
    (hl : l ∈ (selectFlow hmac s c now claimed).holds) :
    l ∈ (FlowThread.selecting c now claimed).holds := by
  unfold selectFlow at hl
  dsimp only at hl
  split at hl
  · cases hl
  · cases claimed with
    | none => cases hl
    | some row => exact hl

theorem holds_checkFlow {c : ConsumeCall} {claimed : Option AuthFlow} {flow : AuthFlow}
    (hl : l ∈ (checkFlow s c now claimed flow).holds) :
    l ∈ (FlowThread.checking c now claimed flow).holds := by
  unfold checkFlow at hl
  split at hl
  · cases hl
  split at hl
  · cases hl
  cases claimed with
  | none => cases hl
  | some row =>
    dsimp only at hl
    split at hl <;> exact hl

theorem holds_beginClaim {tx : FlowTx} {claim : AssertionClaim} {todo : List AssertionClaim}
    (hl : l ∈ (beginClaim s ans tx claim todo).holds) : l ∈ tx.keys := by
  unfold beginClaim at hl
  dsimp only at hl
  split at hl
  · split at hl
    · cases hl
    · exact hl
  · exact hl

theorem keys_claim (tx : FlowTx) (r : ClaimRecord) :
    ({ tx with claims := tx.claims ++ [r] } : FlowTx).keys = tx.keys ++ [r.tokenHash] := by
  simp [FlowTx.keys, FlowTx.rows, ClaimRecord.row]

theorem holds_insertClaim {tx : FlowTx} {claim : AssertionClaim} {todo : List AssertionClaim}
    (hl : l ∈ (insertClaim hmac s ans tx claim now todo).holds) :
    l ∈ tx.keys ∨ l = claim.tokenHash hmac := by
  unfold insertClaim at hl
  dsimp only at hl
  split at hl
  · split at hl
    · cases hl
    · exact .inl hl
  · simp only [holds, keys_claim, List.mem_append, List.mem_singleton] at hl
    exact hl

theorem holds_flowExec (s : FlowStore) (t : FlowThread) (ans : FlowReply) :
    ∀ l ∈ (t.exec hmac s ans).2.holds, l ∈ t.holds ∨ l ∈ t.wants hmac s := by
  intro l hl
  cases t with
  | reading token fields =>
    have hread := holds_flowQuery hl
    unfold readFlow at hread
    split at hread
    · cases hread
    · split at hread <;> cases hread
  | checkingRead flow =>
    simp only [exec] at hl
    split at hl <;> cases hl
  | beginning c | done result => cases hl
  | updating c now =>
    have hclaimed := holds_flowQuery hl
    refine .inr ?_
    simp only [wants]
    cases hrow : claimable hmac s c now with
    | none =>
      rw [hrow] at hclaimed
      cases hclaimed
    | some row =>
      rw [hrow] at hclaimed
      exact hclaimed
  | selecting c now claimed => exact .inl (holds_selectFlow (holds_flowQuery hl))
  | checking c now claimed flow => exact .inl (holds_checkFlow hl)
  | acting tx todo =>
    refine .inl ?_
    cases todo with
    | nil =>
      simp only [exec] at hl
      split at hl
      · cases hl
      · exact hl
    | cons claim todo =>
      simp only [exec] at hl
      split at hl
      · cases hl
      · exact holds_beginClaim hl
  | inserting tx claim now todo =>
    simp only [exec] at hl
    split at hl
    · cases hl
    · rcases holds_insertClaim hl with hold | rfl
      · exact .inl hold
      · exact .inr (List.mem_singleton_self _)
  | committing tx => cases ans <;> cases hl

end

def flowSystem (hmac : String → String) :
    Threads.LockSystem FlowStore FlowThread FlowCall FlowReply FlowOutside String where
  start _ c := c.thread
  exec s t ans := t.exec hmac s ans
  outside s e := s.outside e
  holds := FlowThread.holds
  wants s t := t.wants hmac s
  wantsOutside s e := s.wantsOutside e
  start_holds _ c := by
    cases c with
    | getAuthFlow token fields =>
      simp only [FlowCall.thread]
      split <;> rfl
    | consumeAuthFlow c =>
      simp only [FlowCall.thread]
      split <;> rfl
    | claimExternalAuthAssertion claim => rfl
  exec_holds := holds_flowExec

abbrev FlowState := Threads.State FlowStore FlowThread

abbrev FlowEvent := Threads.Event FlowCall FlowReply FlowOutside

def flowStart (clock : Int) (flows : FlowTable) : FlowState := ⟨⟨clock, flows, [], []⟩, []⟩

/-- **What a step does to the store**: nothing, or the commit of its transaction. -/
theorem flowMove_exec (hmac : String → String) (s : FlowStore) (t : FlowThread)
    (ans : FlowReply) :
    (t.exec hmac s ans).1 = s ∨
      ∃ tx, t = .committing tx ∧ (t.exec hmac s ans).1 = tx.commit s := by
  have hquery (t' : FlowThread) : (flowQuery s ans t').1 = s := by cases ans <;> rfl
  cases t with
  | reading token fields | updating c now | selecting c now claimed => exact .inl (hquery _)
  | acting tx todo => cases todo <;> exact .inl rfl
  | committing tx =>
    cases ans with
    | ok | lost => exact .inr ⟨tx, rfl, rfl⟩
    | failed => exact .inl rfl
  | _ => exact .inl rfl

end NewApi.Model
