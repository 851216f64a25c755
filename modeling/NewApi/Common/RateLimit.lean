import Mathlib.Algebra.Order.Field.Basic
import Mathlib.Data.Rat.Floor
import Mathlib.Tactic.Linarith
import NewApi.Foundation.Expiring
import NewApi.Foundation.Run

/-!
# Request rate limits

The token bucket that limits the calls of a user in a window (`common/limiter/lua/rate_limit.lua`).
A call takes as many tokens as the window has seconds, and each second adds as many as calls are
allowed in a window (`middleware/model-rate-limit.go`). The clock of the server counts whole
seconds.

Without Redis a limiter keeps the times of the accepted requests of each key, at most as many as a
window allows, and a loop deletes what has expired (`common/rate-limit.go`).
-/

namespace NewApi.RateLimit

open StepSystem GoTime List Option Function

structure TokenBucket where
  tokens : Int
  lastTime : Int

/-- The tokens at a call; a key without a bucket has a full one. -/
def refill (rate capacity now : Int) : Option TokenBucket → Int
  | none => capacity
  | some bucket => min capacity (bucket.tokens + (now - bucket.lastTime) * rate)

/-- A run of the script. -/
def takeTokens (requested rate capacity now : Int) (bucket : Option TokenBucket) :
    Bool × TokenBucket :=
  let tokens := refill rate capacity now bucket
  if requested ≤ tokens then (true, ⟨tokens - requested, now⟩) else (false, ⟨tokens, now⟩)

def rateLimitCapacity (count durationSeconds : ℕ) : ℕ :=
  if 2 ^ 63 - 1 < count * durationSeconds then 2 ^ 63 - 1 else count * durationSeconds

variable (n d : ℕ)

/-- The call for `n` requests in `d` seconds. -/
def allow (now : Int) (bucket : Option TokenBucket) : Bool × TokenBucket :=
  takeTokens d n (rateLimitCapacity n d) now bucket

def bucketStep (bucket : Option TokenBucket) (now : Int) : Option TokenBucket :=
  some (allow n d now bucket).2

def allowed (bucket : Option TokenBucket) (now : Int) : ℕ :=
  (allow n d now bucket).1.toNat

/-- A bucket that is not overdrawn, at a time after its last call. -/
def Ready (bucket : Option TokenBucket) (now : Int) : Prop :=
  ∀ b ∈ bucket, 0 ≤ b.tokens ∧ b.lastTime ≤ now

variable {n d} {bucket : Option TokenBucket} {now : Int} {times : List Int}

theorem refill_le (bucket : Option TokenBucket) (now rate capacity : Int) :
    refill rate capacity now bucket ≤ capacity := by
  cases bucket with
  | none => exact le_rfl
  | some b => exact min_le_left _ _

section

variable (hrange : n * d < 2 ^ 63)
include hrange

theorem allow_eq (bucket : Option TokenBucket) (now : Int) : allow n d now bucket =
    if d ≤ refill n (n * d) now bucket then (true, ⟨refill n (n * d) now bucket - d, now⟩)
    else (false, ⟨refill n (n * d) now bucket, now⟩) := by
  have hcapacity : rateLimitCapacity n d = n * d := if_neg (by omega)
  rw [allow, hcapacity, takeTokens, Nat.cast_mul]

/-- What the call takes and what it leaves is what it found. -/
theorem allow_spec (bucket : Option TokenBucket) (now : Int) :
    (allow n d now bucket).2.lastTime = now ∧
      d * allowed n d bucket now + (allow n d now bucket).2.tokens =
        refill n (n * d) now bucket := by
  rw [allowed, allow_eq hrange]
  split_ifs <;> simp

theorem tokens_le : (allow n d now bucket).2.tokens ≤ n * d := by
  have htaken := (allow_spec hrange bucket now).2
  have hfull := refill_le bucket now n (n * d)
  have : 0 ≤ (d * allowed n d bucket now : Int) := by positivity
  omega

theorem tokens_nonneg (hready : Ready bucket now) : 0 ≤ (allow n d now bucket).2.tokens := by
  rw [allow_eq hrange]
  split_ifs with henough
  · exact sub_nonneg.mpr henough
  cases bucket with
  | none => exact mul_nonneg n.cast_nonneg d.cast_nonneg
  | some b =>
    obtain ⟨htokens, hlast⟩ := hready b rfl
    have := sub_nonneg.mpr hlast
    exact le_min (by positivity) (by positivity)

theorem along_ready (hsorted : times.Pairwise (· ≤ ·)) (h : ∀ now ∈ times, Ready bucket now) :
    Along (bucketStep n d) Ready bucket times := by
  induction times generalizing bucket with
  | nil => trivial
  | cons now times ih =>
    obtain ⟨hlater, hsorted⟩ := pairwise_cons.mp hsorted
    have hnow := h now mem_cons_self
    refine ⟨hnow, ih hsorted fun later hmem b hb => ?_⟩
    obtain rfl := some.inj hb
    exact ⟨tokens_nonneg hrange hnow, (allow_spec hrange bucket now).1.trans_le (hlater later hmem)⟩

/-- What the calls until `stop` take is in the bucket at the first of them or added until then. -/
theorem spent_le {first stop : Int} (hready : Along (bucketStep n d) Ready bucket (first :: times))
    (hstop : ∀ now ∈ first :: times, now ≤ stop) :
    (d * sumAlong (bucketStep n d) (allowed n d) bucket (first :: times) : Int) ≤
      refill n (n * d) first bucket + (stop - first) * n := by
  induction times generalizing bucket first with
  | nil =>
    have htaken := (allow_spec hrange bucket first).2
    have hleft := tokens_nonneg hrange hready.1
    have hrest := sub_nonneg.mpr (hstop first mem_cons_self)
    have : 0 ≤ (stop - first) * n := by positivity
    rw [sumAlong_cons, sumAlong_nil, add_zero]
    omega
  | cons next times ih =>
    obtain ⟨hlast, htaken⟩ := allow_spec hrange bucket first
    have hrest := ih hready.2 fun now hmem => hstop now (mem_cons_of_mem first hmem)
    have hnext : refill n (n * d) next (bucketStep n d bucket first) ≤
        (allow n d first bucket).2.tokens + (next - (allow n d first bucket).2.lastTime) * n :=
      min_le_right _ _
    rw [hlast] at hnext
    rw [sumAlong_cons, Nat.cast_add, mul_add]
    linarith

/-- A client that leaves the time for the tokens of each call: the bucket lacks at most what the
part of the second adds which the server has not counted. -/
theorem allowed_of_pace (hn : 1 ≤ n) (hd : 1 ≤ d) {calls : List ℚ}
    (hpace : calls.Pairwise fun call next : ℚ => call + d / n ≤ next)
    (hlead : ∀ call ∈ calls, (n * d : ℚ) ≤ refill n (n * d) ⌊call⌋ bucket + n * Int.fract call) :
    Along (bucketStep n d) (fun bucket now => (allow n d now bucket).1 = true) bucket
      (calls.map Int.floor) := by
  induction calls generalizing bucket with
  | nil => trivial
  | cons call calls ih =>
    obtain ⟨hgap, hpace⟩ := pairwise_cons.mp hpace
    have hcall := hlead call mem_cons_self
    have hn' : (1 : ℚ) ≤ n := by exact_mod_cast hn
    have henough : (d : Int) ≤ refill n (n * d) ⌊call⌋ bucket := by
      -- less than `n` tokens are missing, and `n * d - n + 1` are at least `d`
      have hlt : (n * d - n : ℚ) < refill n (n * d) ⌊call⌋ bucket := by
        nlinarith [Int.fract_lt_one call]
      have hlt : (n * d - n : Int) < refill n (n * d) ⌊call⌋ bucket := by exact_mod_cast hlt
      nlinarith
    have hallow := allow_eq hrange bucket ⌊call⌋
    rw [if_pos henough] at hallow
    refine ⟨congrArg Prod.fst hallow, ih hpace fun next hnext => ?_⟩
    have hgap : n * call + d ≤ n * next := by
      have hscaled := mul_le_mul_of_nonneg_left (hgap next hnext) (zero_le_one.trans hn')
      rwa [mul_add, mul_div_cancel₀ _ (by linarith)] at hscaled
    have hfract : 0 ≤ (n : ℚ) * Int.fract next := by positivity
    rw [bucketStep, hallow, refill, Int.cast_min, ← min_add_add_right]
    refine le_min ?_ ?_
    · push_cast
      linarith
    · -- the server has counted the whole seconds of the gap
      rw [Int.fract] at hcall ⊢
      push_cast
      linarith

end

/-- **The token bucket.** After each call the bucket holds at most the calls of a window. A call is
refused only if the tokens of a call are missing. Of calls within `T` seconds at most those of a
window are allowed and those that `T` seconds add, and a client that keeps the pace is never
refused. The script counts in the numbers of Lua, which are exact up to `2 ^ 53`. -/
theorem tokenBucket_bound (n d : ℕ) (hn : 1 ≤ n) (hd : 1 ≤ d) (hexact : n * d < 2 ^ 53) :
    (∀ before calls : List Int, (before ++ calls).Pairwise (· ≤ ·) →
      Along (bucketStep n d) (fun bucket now =>
        0 ≤ (allow n d now bucket).2.tokens ∧ (allow n d now bucket).2.tokens ≤ n * d ∧
        ((allow n d now bucket).1 = false → refill n (n * d) now bucket < d)) none
        (before ++ calls) ∧
      ∀ T : ℕ, (∀ first ∈ calls, ∀ last ∈ calls, last ≤ first + T) →
        d * sumAlong (bucketStep n d) (allowed n d) (run (bucketStep n d) none before) calls ≤
          n * d + n * T) ∧
    ∀ calls : List ℚ, (calls.Pairwise fun call next : ℚ => call + d / n ≤ next) →
      Along (bucketStep n d) (fun bucket now => (allow n d now bucket).1 = true) none
        (calls.map Int.floor) := by
  have hrange : n * d < 2 ^ 63 := hexact.trans (by decide)
  refine ⟨fun before calls hsorted => ?_, fun calls hpace => ?_⟩
  · have hready : Along (bucketStep n d) Ready none (before ++ calls) :=
      along_ready hrange hsorted fun _ _ _ hb => by cases hb
    refine ⟨Along.imp (fun bucket now h => ?_) hready, fun T hwithin => ?_⟩
    · refine ⟨tokens_nonneg hrange h, tokens_le hrange, fun hrefused => ?_⟩
      rw [allow_eq hrange] at hrefused
      split_ifs at hrefused with henough
      exact not_le.mp henough
    rcases calls with - | ⟨first, calls⟩
    · simp
    have hspent := spent_le hrange ((along_append _ _ _).mp hready).2 (hwithin first mem_cons_self)
    rw [add_sub_cancel_left, mul_comm (T : Int)] at hspent
    have hfull := refill_le (run (bucketStep n d) none before) first n (n * d)
    exact_mod_cast hspent.trans (Int.add_le_add_right hfull _)
  · refine allowed_of_pace hrange hn hd hpace fun call _ => ?_
    have hfract : 0 ≤ (n : ℚ) * Int.fract call := by positivity
    rw [refill]
    push_cast
    linarith

theorem tokenBucket_two_a_minute :
    60 * sumAlong (bucketStep 2 60) (allowed 2 60) (run (bucketStep 2 60) none [0]) [0, 30, 30] ≤
        2 * 60 + 2 * 30 ∧
      Along (bucketStep 2 60) (fun bucket now => (allow 2 60 now bucket).1 = true) none
        (([0, 61 / 2, 61] : List ℚ).map Int.floor) := by
  have h := tokenBucket_bound 2 60 (by decide) (by decide) (by decide)
  exact ⟨(h.1 [0] [0, 30, 30] (by decide)).2 30 (by decide), h.2 _ (by norm_num)⟩

/-- `Request` of a key. Its queue holds the times of accepted requests, the oldest first. -/
def request (m : ℕ) (d now : Int) : Option (List Int) → Bool × List Int
  | none => (true, [now])
  | some queue =>
    if queue.length < m then (true, queue ++ [now])
    else if queue.head?.any (d ≤ now - ·) then (true, queue.tail ++ [now])
    else (false, queue)

/-- What a round of the loop leaves of a queue. -/
def clearExpiredItems (expirationDuration now : Int) (queue : Option (List Int)) :
    Option (List Int) :=
  queue.filter fun queue => queue.getLast?.any (now - · ≤ unix expirationDuration)

inductive LimiterEvent
  | wait (seconds : ℕ)
  | request (key : String) (maxRequestNum : ℕ) (duration : Int)
  | clearExpiredItems

/-- The key is used with this maximum and this window. -/
def LimiterEvent.Uses (key : String) (m : ℕ) (d : Int) : LimiterEvent → Prop
  | request k maxRequestNum duration => k = key → maxRequestNum = m ∧ duration = d
  | wait _ | clearExpiredItems => True

/-- The store, the time and the times of all requests with a key that were accepted. -/
structure LimiterState where
  store : String → Option (List Int)
  clock : Int
  accepted : String → List Int

/-- The loop only runs for a positive duration. -/
def limiterStep (expirationDuration : Int) (s : LimiterState) : LimiterEvent → LimiterState
  | .wait seconds => { s with clock := s.clock + seconds }
  | .request key maxRequestNum duration =>
    let (ok, queue) := request maxRequestNum duration s.clock (s.store key)
    { s with
      store := update s.store key (some queue)
      accepted := if ok then update s.accepted key (s.accepted key ++ [s.clock])
        else s.accepted }
  | .clearExpiredItems =>
    if 0 < expirationDuration then
      { s with store := fun key => clearExpiredItems expirationDuration s.clock (s.store key) }
    else s

def inWindow (d start t : Int) : Bool := start ≤ t ∧ t < start + d

/-- The loop does not run, or deletes a queue only after the window. -/
def KeepsWindow (d expirationDuration : Int) : Prop :=
  expirationDuration ≤ 0 ∨ d ≤ unix expirationDuration + 1

/-- The queue is the end of the accepted times. If it is not full, those before it are out of the
window, as long as the loop keeps the window. -/
structure Queued (keeps : Prop) (m : ℕ) (d clock : Int) (queue accepted : List Int) : Prop where
  sorted : accepted.Pairwise (· ≤ ·)
  past : ∀ t ∈ accepted, t ≤ clock
  length : queue.length ≤ m
  split : ∃ old, accepted = old ++ queue ∧ (keeps → queue.length < m → ∀ t ∈ old, t + d ≤ clock)
  bound : keeps → ∀ start, accepted.countP (inWindow d start) ≤ m

variable {keeps : Prop} {m : ℕ} {d clock expirationDuration : Int} {queue accepted : List Int}

theorem Queued.wait (h : Queued keeps m d clock queue accepted) (seconds : ℕ) :
    Queued keeps m d (clock + seconds) queue accepted := by
  obtain ⟨old, hacc, hold⟩ := h.split
  have hle : clock ≤ clock + seconds := by omega
  exact ⟨h.sorted, fun t ht => (h.past t ht).trans hle, h.length,
    ⟨old, hacc, fun hkeeps hlt t ht => (hold hkeeps hlt t ht).trans hle⟩, h.bound⟩

theorem Queued.sorted_at (h : Queued keeps m d clock queue accepted) {before after : List Int}
    {t : Int} (hacc : accepted = before ++ t :: after) :
    (∀ u ∈ before ++ [t], u ≤ t) ∧ ∀ u ∈ t :: after, t ≤ u := by
  have hsorted := h.sorted
  rw [hacc, pairwise_append, pairwise_cons] at hsorted
  refine ⟨forall_mem_append.mpr ⟨fun u hu => hsorted.2.2 u hu t mem_cons_self, ?_⟩, ?_⟩
  · simp
  · exact forall_mem_cons.mpr ⟨le_rfl, hsorted.2.1.1⟩

/-- A time is accepted when fewer than `m` times are kept and the others are out of the window. -/
theorem Queued.push (h : Queued keeps m d clock queue accepted) {old kept : List Int}
    (hacc : accepted = old ++ kept) (hlength : kept.length < m)
    (hold : keeps → ∀ t ∈ old, t + d ≤ clock) :
    Queued keeps m d clock (kept ++ [clock]) (accepted ++ [clock]) where
  sorted := pairwise_append.mpr ⟨h.sorted, pairwise_singleton _ _, by simpa using h.past⟩
  past := forall_mem_append.mpr ⟨h.past, by simp⟩
  length := by rwa [length_append]
  split := ⟨old, by rw [hacc, append_assoc], fun hkeeps _ => hold hkeeps⟩
  bound hkeeps start := by
    rw [countP_append, countP_singleton]
    split_ifs with hnow
    · -- the window of the new time has none of the others
      have hzero : old.countP (inWindow d start) = 0 := by
        refine countP_eq_zero.mpr fun t ht hin => ?_
        have hout := hold hkeeps t ht
        simp only [inWindow, decide_eq_true_eq] at hnow hin
        omega
      rw [hacc, countP_append, hzero, zero_add]
      exact (Nat.add_le_add_right countP_le_length 1).trans hlength
    · exact h.bound hkeeps start

theorem Queued.request {queue : Option (List Int)} (hm : 1 ≤ m)
    (h : Queued keeps m d clock (queue.getD []) accepted) :
    let r := request m d clock queue
    Queued keeps m d clock r.2 (if r.1 then accepted ++ [clock] else accepted) ∧
      (r.1 = false → m ≤ accepted.countP (clock - d < ·)) := by
  obtain ⟨old, hacc, hold⟩ := h.split
  fun_cases RateLimit.request m d clock queue with
  | case1 => simpa using h.push hacc hm fun hkeeps => hold hkeeps hm
  | case2 queue hlt => simpa using h.push hacc hlt fun hkeeps => hold hkeeps hlt
  | case3 queue hfull hout =>
    rcases queue with - | ⟨oldest, rest⟩
    · cases hout
    -- the oldest time makes room; it is out of the window, and so are those before it
    have hout : d ≤ clock - oldest := of_decide_eq_true hout
    have hle := (h.sorted_at hacc).1
    have hkept : accepted = (old ++ [oldest]) ++ rest := by simpa using hacc
    have hold : ∀ t ∈ old ++ [oldest], t + d ≤ clock := fun t ht => by
      have := hle t ht
      omega
    simpa using h.push hkept h.length fun _ => hold
  | case4 queue hfull hout =>
    refine ⟨h, fun _ => ?_⟩
    -- the queue is full, and all of its times are as late as the oldest one
    have hin : queue.countP (clock - d < ·) = queue.length := by
      refine countP_eq_length.mpr fun t ht => decide_eq_true ?_
      cases queue with
      | nil => cases ht
      | cons oldest rest =>
        have hout : ¬ d ≤ clock - oldest := of_decide_eq_false (Bool.eq_false_iff.mpr hout)
        have hle := (h.sorted_at hacc).2 t ht
        omega
    rw [hacc, countP_append, getD_some, hin]
    omega

theorem Queued.clear {queue : Option (List Int)} (hm : 1 ≤ m) (hpos : 0 < expirationDuration)
    (h : Queued (KeepsWindow d expirationDuration) m d clock (queue.getD []) accepted) :
    Queued (KeepsWindow d expirationDuration) m d clock
      ((clearExpiredItems expirationDuration clock queue).getD []) accepted := by
  rcases queue with - | queue
  · exact h
  obtain ⟨old, hacc, hold⟩ := h.split
  rw [clearExpiredItems, filter_some]
  split_ifs with hkept
  · exact h
  refine ⟨h.sorted, h.past, m.zero_le, ⟨accepted, (append_nil _).symm, ?_⟩, h.bound⟩
  -- the last accepted time has expired, so all of them are out of the window
  intro hkeeps _ t ht
  rcases eq_nil_or_concat queue with rfl | ⟨front, last, rfl⟩
  · exact hold hkeeps hm t (by simpa [hacc] using ht)
  · rw [getD_some, concat_eq_append, ← append_assoc] at hacc
    have hle := (h.sorted_at hacc).1 t (hacc ▸ ht)
    have hexpired : unix expirationDuration + last < clock := by simpa using hkept
    rcases hkeeps with hnever | hkeeps <;> omega

/-- **The window of the limiter.** If the loop does not run or keeps the window, at most `m` of the
accepted requests with a key are in any window. A request is refused only if `m` accepted ones are
in the window before it. -/
theorem accepted_in_window (key : String) (m : ℕ) (hm : 1 ≤ m) (d expirationDuration clock : Int)
    (events : List LimiterEvent) (huses : ∀ e ∈ events, e.Uses key m d) :
    (KeepsWindow d expirationDuration → ∀ start,
      ((run (limiterStep expirationDuration) ⟨fun _ => none, clock, fun _ => []⟩ events).accepted
        key).countP (inWindow d start) ≤ m) ∧
    Along (limiterStep expirationDuration) (fun s e => e = .request key m d →
      (request m d s.clock (s.store key)).1 = false →
        m ≤ (s.accepted key).countP (s.clock - d < ·)) ⟨fun _ => none, clock, fun _ => []⟩
      events := by
  have hstart : Queued (KeepsWindow d expirationDuration) m d clock [] [] :=
    ⟨.nil, nofun, m.zero_le, ⟨[], rfl, nofun⟩, fun _ _ => m.zero_le⟩
  have hstep : ∀ (s : LimiterState) (e : LimiterEvent), Queued (KeepsWindow d expirationDuration)
      m d s.clock ((s.store key).getD []) (s.accepted key) → e.Uses key m d →
      let s := limiterStep expirationDuration s e
      Queued (KeepsWindow d expirationDuration) m d s.clock ((s.store key).getD [])
        (s.accepted key) := by
    intro s e h huse
    cases e with
    | wait seconds => exact h.wait seconds
    | request k maxRequestNum duration =>
      by_cases hkey : k = key
      · obtain ⟨rfl, rfl⟩ := huse hkey
        subst hkey
        have hnext := (h.request hm).1
        simp only [limiterStep, update_self, getD_some]
        split_ifs with hok <;> simpa [hok] using hnext
      · have hne : key ≠ k := Ne.symm hkey
        simp only [limiterStep, update_of_ne hne]
        split_ifs <;> simpa [hne] using h
    | clearExpiredItems =>
      rw [limiterStep]
      split_ifs with hpos
      · exact h.clear hm hpos
      · exact h
  have hused : Along (limiterStep expirationDuration) (fun _ e => e.Uses key m d)
      ⟨fun _ => none, clock, fun _ => []⟩ events := along_of_forall_mem huses
  exact ⟨(run_induction hstep hstart hused).bound,
    along_of_invariant hstep (fun s e h _ _ => (h.request hm).2) hstart hused⟩

theorem accepted_after_loop :
    ¬ ((run (limiterStep (1200 * second)) ⟨fun _ => none, 0, fun _ => []⟩ [.request "key" 1 3600,
      .wait 1201, .clearExpiredItems, .request "key" 1 3600]).accepted "key").countP
        (inWindow 3600 0) ≤ 1 := by
  decide

theorem accepted_in_window_minute :
    ((run (limiterStep (1200 * second)) ⟨fun _ => none, 0, fun _ => []⟩
      [.request "key" 1 60, .wait 60, .clearExpiredItems, .request "key" 1 60]).accepted
        "key").countP (inWindow 60 0) ≤ 1 :=
  (accepted_in_window "key" 1 le_rfl 60 _ 0 _ (by simp [LimiterEvent.Uses])).1 (.inr (by decide)) 0

end NewApi.RateLimit
