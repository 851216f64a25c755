import NewApi.Model.SubscriptionUsage

/-!
# The refund of a subscription pre-consume under retries

`RefundSubscriptionPreConsume` reads the record and marks it as refunded in one transaction, but the
change of the subscription row between the two runs in a transaction of its own. If the record
cannot be saved, the row has been lowered already and the record is still consumed;
`refundWithRetry` calls the function up to three times, and each further attempt lowers the row
again.

The outcome of the loop is described by the replies to its statements alone: how often the row is
lowered (`lowerings`) and whether an attempt reports success (`reports`).
-/

namespace NewApi.Model

open Function

/-! ### The loop over the attempts -/

/-- The loop of `refundWithRetry`, with the last error.

Source: `service/funding_source.go`. -/
def refundAttempts (reqId : String) : SubscriptionStore → Option SubscriptionError →
    List RefundReplies → SubscriptionStore × Option SubscriptionError
  | st, lastErr, [] => (st, lastErr)
  | st, _, r :: rest =>
    match refundSubscriptionPreConsume st reqId r with
    | (st', none) => (st', none)
    | (st', some err) => refundAttempts reqId st' (some err) rest

theorem refundWithRetry_eq (st : SubscriptionStore) (reqId : String)
    (attempts : ℕ → RefundReplies) :
    refundWithRetry st reqId attempts =
      refundAttempts reqId st none [attempts 0, attempts 1, attempts 2] := by
  simp only [refundWithRetry, refundAttempts]
  rcases refundSubscriptionPreConsume st reqId (attempts 0) with ⟨st₁, _ | e₁⟩
  · rfl
  simp only
  rcases refundSubscriptionPreConsume st₁ reqId (attempts 1) with ⟨st₂, _ | e₂⟩
  · rfl
  simp only
  rcases refundSubscriptionPreConsume st₂ reqId (attempts 2) with ⟨st₃, _ | e₃⟩ <;> rfl

def RefundReplies.adjusts (r : RefundReplies) : Bool := r.find && r.adjust

def lowerings : List RefundReplies → ℕ
  | [] => 0
  | r :: rest =>
    if r.adjusts then if r.save then 1 else lowerings rest + 1
    else lowerings rest

def reports : List RefundReplies → Bool
  | [] => false
  | r :: rest => r.adjusts && r.save || reports rest

/-- The first attempt that lowers the row does not save the record, and a later attempt lowers the
row again. -/
def Relowers : List RefundReplies → Prop
  | [] => False
  | r :: rest =>
    if r.adjusts then r.save = false ∧ ∃ q ∈ rest, q.adjusts = true else Relowers rest

variable {attempts : List RefundReplies}

theorem lowerings_pos_iff : 0 < lowerings attempts ↔ ∃ r ∈ attempts, r.adjusts = true := by
  induction attempts with
  | nil => simp [lowerings]
  | cons r rest ih =>
    simp only [lowerings]
    split_ifs with hadjusts hsave
    · simp [hadjusts]
    · simp [hadjusts]
    · simp [hadjusts, ih]

theorem relowers_iff : Relowers attempts ↔ 2 ≤ lowerings attempts := by
  induction attempts with
  | nil => simp [lowerings, Relowers]
  | cons r rest ih =>
    simp only [lowerings, Relowers]
    split_ifs with hadjusts hsave
    · simp [hsave]
    · rw [← lowerings_pos_iff]
      simp only [hsave, true_and]
      omega
    · exact ih

theorem lowerings_pos_of_reports (h : reports attempts = true) : 0 < lowerings attempts := by
  rw [lowerings_pos_iff]
  induction attempts with
  | nil => cases h
  | cons r rest ih =>
    simp only [reports, Bool.or_eq_true, Bool.and_eq_true] at h
    obtain ⟨hadjusts, -⟩ | hrest := h
    · exact ⟨r, List.mem_cons_self, hadjusts⟩
    · obtain ⟨q, hq, hadjusts⟩ := ih hrest
      exact ⟨q, List.mem_cons_of_mem _ hq, hadjusts⟩

/-! ### One attempt -/

def UserSubscription.giveBack (amount : Int) (sub : UserSubscription) : UserSubscription :=
  { sub with amountUsed := max (sub.amountUsed - amount) 0 }

@[simp] theorem UserSubscription.giveBack_total (amount : Int) (sub : UserSubscription) :
    (sub.giveBack amount).amountTotal = sub.amountTotal := rfl

@[simp] theorem UserSubscription.giveBack_used (amount : Int) (sub : UserSubscription) :
    (sub.giveBack amount).amountUsed = max (sub.amountUsed - amount) 0 := rfl

open UserSubscription

theorem giveBack_iterate_used {amount : Int} (hpos : 0 < amount) (sub : UserSubscription) (n : ℕ) :
    ((UserSubscription.giveBack amount)^[n + 1] sub).amountUsed =
      max (sub.amountUsed - (n + 1) * amount) 0 := by
  induction n with
  | zero => simp
  | succ n ih =>
    rw [iterate_succ_apply', giveBack_used]
    have hmul : ((n + 1 : ℕ) + 1 : Int) * amount = (n + 1) * amount + amount := by
      rw [Int.add_mul, Int.one_mul, Int.natCast_succ]
    omega

/-- Several refunds of one amount lower the usage by at most the amount if and only if there is not
a second one while the usage exceeds the amount; what they leave is then what one refund leaves. -/
theorem giveBack_iterate_once {amount : Int} (hpos : 0 < amount) (sub : UserSubscription) (n : ℕ) :
    (sub.amountUsed - ((UserSubscription.giveBack amount)^[n] sub).amountUsed ≤ amount ↔
      ¬ (amount < sub.amountUsed ∧ 2 ≤ n)) ∧
    (¬ (amount < sub.amountUsed ∧ 2 ≤ n) → 0 < n →
      ((UserSubscription.giveBack amount)^[n] sub).amountUsed =
        max (sub.amountUsed - amount) 0) := by
  rcases n with _ | _ | n
  · simp [Int.le_of_lt hpos]
  · simp only [iterate_succ, iterate_zero, comp_apply, id_eq, giveBack_used]
    refine ⟨⟨fun _ h => ?_, fun _ => ?_⟩, fun _ _ => trivial⟩ <;> omega
  rw [giveBack_iterate_used hpos]
  have hmul : amount + amount ≤ ((n + 1 : ℕ) + 1 : Int) * amount := by
    have hle : (2 : Int) * amount ≤ ((n + 1 : ℕ) + 1 : Int) * amount :=
      Int.mul_le_mul_of_nonneg_right (by omega) (Int.le_of_lt hpos)
    omega
  refine ⟨⟨fun hle h => ?_, fun h => ?_⟩, fun h _ => ?_⟩ <;> omega

/-- The row takes the refund of the record: neither id is empty, and the usage is then within the
total. -/
def RefundAccepted (record : SubscriptionPreConsumeRecord) (sub : UserSubscription) : Prop :=
  GoText.isBlank record.requestId = false ∧ 0 < record.userSubscriptionId ∧
    (0 < sub.amountTotal → sub.amountUsed - record.preConsumed ≤ sub.amountTotal)
  deriving Decidable

section

variable {st : SubscriptionStore} {record : SubscriptionPreConsumeRecord} {sub : UserSubscription}
  (hrecord : st.records.find record.requestId = some record) (hstatus : record.status = .consumed)
  (hpos : 0 < record.preConsumed) (hsub : st.subs.find record.userSubscriptionId = some sub)
include hrecord hstatus hpos hsub

omit hrecord hstatus in
theorem postConsume_giveBack (hid : 0 < record.userSubscriptionId)
    (htotal : 0 < sub.amountTotal → sub.amountUsed - record.preConsumed ≤ sub.amountTotal)
    (ok : Bool) :
    postConsumeUserSubscriptionDelta st.subs record.userSubscriptionId (-record.preConsumed) ok =
      if ok then .ok (st.subs.save (sub.giveBack record.preConsumed)) else .error .database := by
  have hexceeds : ¬ (0 < sub.amountTotal ∧
      sub.amountTotal < max (sub.amountUsed + -record.preConsumed) 0) := by
    rintro ⟨ht, hlt⟩
    omega
  unfold postConsumeUserSubscriptionDelta
  rw [if_neg (by omega), if_neg (by omega), hsub]
  simp only [if_neg hexceeds]
  cases ok <;> simp [giveBack, sub_eq_add_neg]

theorem refund_accepted (hacc : RefundAccepted record sub) (r : RefundReplies) :
    refundSubscriptionPreConsume st record.requestId r =
      if r.adjusts then
        if r.save then (⟨st.subs.save (sub.giveBack record.preConsumed),
          st.records.save { record with status := .refunded }⟩, none)
        else ({ st with subs := st.subs.save (sub.giveBack record.preConsumed) }, some .database)
      else (st, some .database) := by
  obtain ⟨hblank, hid, htotal⟩ := hacc
  have hpost := postConsume_giveBack hpos hsub hid htotal
  cases hfind : r.find <;> cases hadjust : r.adjust <;> cases hsave : r.save <;>
    simp [refundSubscriptionPreConsume, RefundReplies.adjusts, hblank, hrecord, hstatus, hpost,
      hfind, hadjust, hsave, show ¬ record.preConsumed ≤ 0 by omega]

theorem refund_refused (hrefused : ¬ RefundAccepted record sub) (r : RefundReplies) :
    ∃ e, refundSubscriptionPreConsume st record.requestId r = (st, some e) := by
  cases hpost : postConsumeUserSubscriptionDelta st.subs record.userSubscriptionId
      (-record.preConsumed) r.adjust with
  | error e =>
    by_cases hblank : GoText.isBlank record.requestId = true
    · exact ⟨.requestIdEmpty, by simp [refundSubscriptionPreConsume, hblank]⟩
    cases hfind : r.find with
    | false => exact ⟨.database, by simp [refundSubscriptionPreConsume, hblank, hfind]⟩
    | true =>
      simp [refundSubscriptionPreConsume, hblank, hfind, hrecord, hstatus, hpost,
        show ¬ record.preConsumed ≤ 0 by omega]
  | ok subs =>
    -- the row would take the refund, so the request id is blank
    obtain ⟨hid, ⟨hzero, -⟩ | ⟨sub', hsub', hle, -⟩⟩ := postConsume_ok hpost
    · omega
    obtain rfl := Option.some.inj (hsub.symm.trans hsub')
    have hblank : GoText.isBlank record.requestId = true := by
      by_contra hne
      refine hrefused ⟨by simpa using hne, hid, fun ht => ?_⟩
      omega
    exact ⟨.requestIdEmpty, by simp [refundSubscriptionPreConsume, hblank]⟩

theorem refundAttempts_accepted (hacc : RefundAccepted record sub)
    (lastErr : Option SubscriptionError) (attempts : List RefundReplies) :
    (refundAttempts record.requestId st lastErr attempts).1.subs.find record.userSubscriptionId =
        some ((UserSubscription.giveBack record.preConsumed)^[lowerings attempts] sub) ∧
      ((refundAttempts record.requestId st lastErr attempts).2 = none ↔
        reports attempts = true ∨ attempts = [] ∧ lastErr = none) ∧
      (reports attempts = true →
        (refundAttempts record.requestId st lastErr attempts).1.records.find record.requestId =
          some { record with status := .refunded }) := by
  induction attempts generalizing st sub lastErr with
  | nil => simp [refundAttempts, lowerings, reports, hsub]
  | cons r rest ih =>
    have hattempt := refund_accepted hrecord hstatus hpos hsub hacc r
    obtain ⟨hblank, hid, htotal⟩ := hacc
    cases hadjusts : r.adjusts with
    | false =>
      simpa [refundAttempts, hattempt, lowerings, reports, hadjusts] using
        ih hrecord hsub ⟨hblank, hid, htotal⟩ (some .database)
    | true =>
      have hlowered : (st.subs.save (sub.giveBack record.preConsumed)).find
          record.userSubscriptionId = some (sub.giveBack record.preConsumed) :=
        Table.find_save_of_find hsub (Table.mem_of_find hsub).2
      cases hsave : r.save with
      | true =>
        simp only [hadjusts, hsave] at hattempt
        refine ⟨?_, ?_, fun _ => ?_⟩
        · simpa [refundAttempts, hattempt, lowerings, hadjusts, hsave] using hlowered
        · simp [refundAttempts, hattempt, reports, hadjusts, hsave]
        · simp only [refundAttempts, hattempt]
          exact Table.find_save_of_find hrecord rfl
      | false =>
        have hacc' : RefundAccepted record (sub.giveBack record.preConsumed) := by
          refine ⟨hblank, hid, fun ht => ?_⟩
          simp only [giveBack_used, giveBack_total] at ht ⊢
          omega
        have hrest := @ih { st with subs := st.subs.save (sub.giveBack record.preConsumed) }
          (sub.giveBack record.preConsumed) hrecord hlowered hacc' (some .database)
        simpa [refundAttempts, hattempt, lowerings, reports, hadjusts, hsave] using hrest

theorem refundAttempts_refused (hrefused : ¬ RefundAccepted record sub)
    (lastErr : Option SubscriptionError) (attempts : List RefundReplies) :
    (refundAttempts record.requestId st lastErr attempts).1 = st ∧
      ((refundAttempts record.requestId st lastErr attempts).2 = none →
        attempts = [] ∧ lastErr = none) := by
  induction attempts generalizing lastErr with
  | nil => exact ⟨rfl, fun h => ⟨rfl, h⟩⟩
  | cons r rest ih =>
    obtain ⟨e, hattempt⟩ := refund_refused hrecord hstatus hpos hsub hrefused r
    obtain ⟨hstore, hnone⟩ := ih (some e)
    simp only [refundAttempts, hattempt]
    exact ⟨hstore, fun h => by simpa using (hnone h).2⟩

end

/-! ### At most once -/

/-- The outcome `out` of a refund lowers the usage of `sub` by at most the recorded amount, and if
it reports success by exactly that, down to `0`, with the record marked as refunded. -/
def RefundedOnce (record : SubscriptionPreConsumeRecord) (sub : UserSubscription)
    (out : SubscriptionStore × Option SubscriptionError) : Prop :=
  ∃ sub', out.1.subs.find record.userSubscriptionId = some sub' ∧
    sub.amountUsed - sub'.amountUsed ≤ record.preConsumed ∧
    (out.2 = none → sub'.amountUsed = max (sub.amountUsed - record.preConsumed) 0 ∧
      out.1.records.find record.requestId = some { record with status := .refunded })

/-- **The refund lowers the usage once**, for every pattern of failures, if and only if it is not
the case that the row takes the refund, holds more than the recorded amount, and is lowered by two
of the attempts. -/
theorem refund_lowers_once {st : SubscriptionStore} {record : SubscriptionPreConsumeRecord}
    {sub : UserSubscription} (hrecord : st.records.find record.requestId = some record)
    (hstatus : record.status = .consumed) (hpos : 0 < record.preConsumed)
    (hsub : st.subs.find record.userSubscriptionId = some sub) (attempts : ℕ → RefundReplies) :
    RefundedOnce record sub (refundWithRetry st record.requestId attempts) ↔
      ¬ (RefundAccepted record sub ∧ record.preConsumed < sub.amountUsed ∧
        Relowers [attempts 0, attempts 1, attempts 2]) := by
  rw [refundWithRetry_eq]
  generalize hlist : [attempts 0, attempts 1, attempts 2] = replies
  have hne : replies ≠ [] := by simp [← hlist]
  by_cases hacc : RefundAccepted record sub
  · obtain ⟨hfind, hnone, hmarked⟩ :=
      refundAttempts_accepted hrecord hstatus hpos hsub hacc none replies
    simp only [hne, false_and, or_false] at hnone
    obtain ⟨hiff, hexact⟩ := giveBack_iterate_once hpos sub (lowerings replies)
    rw [relowers_iff]
    constructor
    · rintro ⟨sub', hfind', hle, -⟩ ⟨-, htwice⟩
      obtain rfl := Option.some.inj (hfind.symm.trans hfind')
      exact hiff.mp hle htwice
    intro honce
    have honce' : ¬ (record.preConsumed < sub.amountUsed ∧ 2 ≤ lowerings replies) :=
      fun h => honce ⟨hacc, h⟩
    refine ⟨_, hfind, hiff.mpr honce', fun hsuccess => ?_⟩
    have hreports := hnone.mp hsuccess
    exact ⟨hexact honce' (lowerings_pos_of_reports hreports), hmarked hreports⟩
  · obtain ⟨hstore, hnone⟩ :=
      refundAttempts_refused hrecord hstatus hpos hsub hacc none replies
    refine iff_of_true ⟨sub, ?_, by omega, fun h => absurd (hnone h).1 hne⟩ fun h => hacc h.1
    rw [hstore, hsub]

def sampleRefund : SubscriptionStore where
  subs := ⟨[⟨1, 1, 100, 30, 10, .active, 0, 0, false⟩], by decide⟩
  records := ⟨[⟨"a", 1, 1, 10, .consumed⟩], by decide⟩

/-- The first attempt cannot read the record, the second one cannot lower the row, and the third one
succeeds. -/
theorem refund_lowers_once_thirdAttempt :
    RefundedOnce ⟨"a", 1, 1, 10, .consumed⟩ ⟨1, 1, 100, 30, 10, .active, 0, 0, false⟩
      (refundWithRetry sampleRefund "a" fun i =>
        if i = 0 then ⟨false, true, true⟩ else if i = 1 then ⟨true, false, true⟩ else .allOk) := by
  refine (refund_lowers_once (by decide +kernel) rfl (by decide) (by decide +kernel) _).mpr ?_
  simp [Relowers]

/-- If the first attempt cannot save the record, the second one lowers the usage again: `20` for a
pre-consume of `10`, with success. -/
theorem refund_lowers_twice :
    let out := refundWithRetry sampleRefund "a" fun i =>
      if i = 0 then ⟨true, true, false⟩ else .allOk
    out.2 = none ∧ (out.1.subs.find 1).map amountUsed = some 10 ∧
      ¬ RefundedOnce ⟨"a", 1, 1, 10, .consumed⟩ ⟨1, 1, 100, 30, 10, .active, 0, 0, false⟩ out := by
  refine ⟨by decide +kernel, by decide +kernel, ?_⟩
  rintro ⟨sub', hfind, hle, -⟩
  have hused : sub'.amountUsed = 10 := by
    have h : (some sub').map amountUsed = some 10 := by
      rw [← hfind]
      decide +kernel
    exact Option.some.inj h
  simp only [hused] at hle
  omega

end NewApi.Model
