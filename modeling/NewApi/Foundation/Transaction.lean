import Mathlib.Tactic.SplitIfs

/-!
# Transactions

A transaction body reads and writes a state and may fail in the middle. Run as a transaction it
either commits, with all of its writes, or leaves the state as it was.

## Main definitions

* `Tx σ ε α`: a body over states `σ` with errors `ε` and result `α`.
* `Tx.exec`
* `Tx.transaction`
* `Tx.ensure`, `Tx.attempt`

## Main results

* `Tx.transaction_cases`
* `Tx.eq_of_transaction_error`
* `Tx.transaction_ok_iff`, `Tx.exec_bind_ok_iff`, `Tx.exec_ensure_bind_ok_iff`: what a committed
  transaction has gone through, statement by statement.
-/

universe u

abbrev Tx (σ ε α : Type u) : Type u := ExceptT ε (StateM σ) α

namespace Tx

variable {σ ε α β : Type u}

def exec (body : Tx σ ε α) (s : σ) : Except ε α × σ := body s

/-- Run a body as a transaction; `commit` is the error of the `COMMIT`, if it fails. -/
def transaction (commit : Option ε) (body : Tx σ ε α) (s : σ) : Except ε α × σ :=
  match body.exec s, commit with
  | (.ok a, s'), none => (.ok a, s')
  | (.ok _, _), some e => (.error e, s)
  | (.error e, _), _ => (.error e, s)

def ensure {σ ε : Type} (c : Prop) [Decidable c] (e : ε) : Tx σ ε Unit :=
  if c then pure () else throw e

def attempt {σ ε α : Type} (r : Except ε α) : Tx σ ε α :=
  match r with
  | .ok a => pure a
  | .error e => throw e

theorem transaction_cases (commit : Option ε) (body : Tx σ ε α) (s : σ) :
    (∃ e, transaction commit body s = (.error e, s)) ∨
      ∃ a s', transaction commit body s = (.ok a, s') ∧ body.exec s = (.ok a, s') := by
  unfold transaction
  generalize body.exec s = r
  obtain ⟨r, s'⟩ := r
  cases r with
  | error e => exact .inl ⟨e, rfl⟩
  | ok a =>
    cases commit with
    | none => exact .inr ⟨a, s', rfl, rfl⟩
    | some e => exact .inl ⟨e, rfl⟩

theorem transaction_ok_iff {commit : Option ε} {body : Tx σ ε α} {s s' : σ} {a : α} :
    transaction commit body s = (.ok a, s') ↔ commit = none ∧ body.exec s = (.ok a, s') := by
  unfold transaction
  generalize body.exec s = r
  obtain ⟨r, t⟩ := r
  cases r with
  | error e => simp
  | ok b => cases commit <;> simp

theorem eq_of_transaction_error {commit : Option ε} {body : Tx σ ε α} {s s' : σ} {e : ε}
    (h : transaction commit body s = (.error e, s')) : s = s' := by
  rcases transaction_cases commit body s with ⟨e', herror⟩ | ⟨a, t, hok, -⟩
  · exact (Prod.mk.inj (herror.symm.trans h)).2
  · cases hok.symm.trans h

/-! ### Statements -/

section

variable {x : Tx σ ε α} {f : α → Tx σ ε β} {s s' : σ} {b : β}

theorem exec_throw (e : ε) (s : σ) : exec (throw e : Tx σ ε α) s = (.error e, s) := rfl

theorem exec_bind : exec (x >>= f) s = match exec x s with
    | (.ok a, s') => exec (f a) s'
    | (.error e, s') => (.error e, s') := by
  change (ExceptT.bindCont f (x s).1) (x s).2 = _
  unfold exec
  generalize x s = r
  obtain ⟨r, s'⟩ := r
  cases r <;> rfl

theorem exec_bind_ok_iff : exec (x >>= f) s = (.ok b, s') ↔
      ∃ a t, exec x s = (.ok a, t) ∧ exec (f a) t = (.ok b, s') := by
  rw [exec_bind]
  generalize exec x s = r
  obtain ⟨r, t⟩ := r
  rcases r with e | a
  · simp
  constructor
  · intro h
    exact ⟨a, t, rfl, h⟩
  · rintro ⟨a', t', hx, h⟩
    cases hx
    exact h

end

/-! ### Sequences

What is left of a sequence after its first statement has succeeded. -/

variable {σ ε α β : Type} {s s' : σ} {b : β}

theorem exec_get_bind {f : σ → Tx σ ε β} : exec (get >>= f) s = exec (f s) s := exec_bind

theorem exec_modify_bind {g : σ → σ} {f : PUnit → Tx σ ε β} :
    exec (modify g >>= f) s = exec (f ⟨⟩) (g s) := exec_bind

theorem exec_ensure_bind_ok_iff {c : Prop} [Decidable c] {e : ε} {f : Unit → Tx σ ε β} :
    exec (ensure c e >>= f) s = (.ok b, s') ↔ c ∧ exec (f ()) s = (.ok b, s') := by
  unfold ensure
  split_ifs with h
  · simp [h]
  · simp [exec_throw, h]

theorem exec_attempt_bind_ok_iff {r : Except ε α} {f : α → Tx σ ε β} :
    exec (attempt r >>= f) s = (.ok b, s') ↔ ∃ a, r = .ok a ∧ exec (f a) s = (.ok b, s') := by
  cases r with
  | error e => simp [attempt, exec_throw]
  | ok a => simp [attempt]

end Tx
