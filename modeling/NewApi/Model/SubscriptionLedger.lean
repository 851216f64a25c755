import NewApi.Model.SubscriptionUsage

/-!
# Consumption since the last reset

What the usage of a subscription says about the consumption since the last reset. A ledger that the
program does not have follows one subscription: for each request what it has consumed since the last
reset and not given back, and how much requests have given back beyond that. A request that was
pre-consumed before a reset and is refunded or settled downwards after it gives back what the reset
has forgotten already. Neither the record of a pre-consume nor a settlement carries the period that
it belongs to, so the usage is lowered all the same.
-/

namespace NewApi.Model

open StepSystem Option

/-! ### The ledger -/

structure UsageShare where
  requestId : String
  amount : ℕ

/-- The consumption of one subscription since its last reset: the shares of the requests, and what
requests have given back beyond their shares. -/
structure UsageLedger where
  shares : Table UsageShare.requestId
  returned : ℕ

namespace UsageLedger

def empty : UsageLedger := ⟨⟨[], List.nodup_nil⟩, 0⟩

def outstanding (l : UsageLedger) : ℕ := l.shares.total UsageShare.amount

def share (l : UsageLedger) (reqId : String) : ℕ :=
  ((l.shares.find reqId).map UsageShare.amount).getD 0

/-- The request consumes `delta`, or gives `-delta` back: first from its share, the rest beyond
it. -/
def post (l : UsageLedger) (reqId : String) (delta : Int) : UsageLedger where
  shares := l.shares.put ⟨reqId, (l.share reqId + delta).toNat⟩
  returned := l.returned + (-(l.share reqId + delta)).toNat

def opened (l : UsageLedger) (effect : UsageEffect) : UsageLedger :=
  if effect.resets then empty else l

def record (l : UsageLedger) (effect : UsageEffect) : UsageLedger :=
  match effect.change with
  | some (reqId, delta) => (l.opened effect).post reqId delta
  | none => l.opened effect

@[simp] theorem returned_post (l : UsageLedger) (reqId : String) (delta : Int) :
    (l.post reqId delta).returned = l.returned + (-(l.share reqId + delta)).toNat := rfl

end UsageLedger

def ledgerStep (id : Int) (s : SubscriptionStore × UsageLedger) (call : UsageCall) :
    SubscriptionStore × UsageLedger :=
  (usageStep s.1 call, s.2.record (usageEffect s.1 id call))

/-- The call gives back no more than its request has consumed since the last reset. -/
def WithinShare (id : Int) (s : SubscriptionStore × UsageLedger) (call : UsageCall) : Prop :=
  ∀ change ∈ (usageEffect s.1 id call).change,
    0 ≤ (s.2.opened (usageEffect s.1 id call)).share change.1 + change.2
  deriving Decidable

/-! ### The usage covers the ledger -/

/-- The usage is at least what the ledger has, less what has been given back beyond it. -/
def Covers (l : UsageLedger) (sub : UserSubscription) : Prop :=
  l.outstanding ≤ sub.amountUsed + l.returned

def UsageEffect.delta (effect : UsageEffect) : Int := (effect.change.map Prod.snd).getD 0

variable {sub sub' : UserSubscription}

/-- **The usage falls by no more than the change**, unless the row is reset. -/
theorem RowMove.le_amountUsed {fits : Prop} {effect : UsageEffect}
    (h : RowMove fits sub effect sub') (hfits : fits) (hsub : sub.WithinTotal) :
    (if effect.resets then 0 else sub.amountUsed) + effect.delta ≤ sub'.amountUsed := by
  cases h with
  | turned hreset =>
    obtain ⟨-, -, -, hused⟩ := ResetDecision.apply_spec hreset
    simp [UsageEffect.delta, hused]
  | @charged d sub' reqId amount hreset hroom hpos hamount hroom' =>
    obtain ⟨-, -, htotal', hused⟩ := ResetDecision.apply_spec hreset
    simp only [UsageEffect.delta, map_some, getD_some, ← hused]
    by_cases htotal : 0 < sub'.amountTotal
    · rw [(wrap_charge (ResetDecision.withinTotal hreset hsub) hroom hpos htotal).1]
    · have hsum := hroom' hfits (by omega)
      refine Int64.le_wrap ?_
      split_ifs at hused <;> omega
  | @moved reqId delta hle hroom' =>
    exact le_max_of_le_left (Int64.le_wrap (hroom' hfits hsub.stored))

open UsageLedger

theorem Covers.post {l : UsageLedger} {delta : Int}
    (h : Covers l sub) (hused : sub.amountUsed + delta ≤ sub'.amountUsed) (reqId : String) :
    Covers (l.post reqId delta) sub' := by
  have hposted : (l.post reqId delta).outstanding + l.share reqId =
      l.outstanding + (l.share reqId + delta).toNat := Table.total_put UsageShare.amount ..
  unfold Covers at h ⊢
  rw [returned_post]
  omega

theorem Covers.record {l : UsageLedger} {effect : UsageEffect} (h : Covers l sub)
    (hused : (if effect.resets then 0 else sub.amountUsed) + effect.delta ≤ sub'.amountUsed) :
    Covers (l.record effect) sub' := by
  -- the row and the ledger after the reset
  have hreset : Covers (l.opened effect)
      { sub with amountUsed := if effect.resets then 0 else sub.amountUsed } := by
    unfold opened
    split_ifs
    · exact le_refl 0
    · exact h
  cases hchange : effect.change with
  | none =>
    simp only [UsageEffect.delta, hchange, map_none, getD_none, add_zero] at hused
    simp only [UsageLedger.record, hchange]
    exact Int.le_trans hreset (Int.add_le_add_right hused _)
  | some change =>
    simp only [UsageEffect.delta, hchange, map_some, getD_some] at hused
    simp only [UsageLedger.record, hchange]
    exact hreset.post hused change.1

/-- The ledger covers the usage of the row `id`, and every row is within its total. -/
def LedgerInv (id : Int) (s : SubscriptionStore × UsageLedger) : Prop :=
  Kept s.1 ∧ ∀ sub ∈ s.1.subs.find id, Covers s.2 sub

theorem ledgerInv_step (id : Int) (s : SubscriptionStore × UsageLedger) (call : UsageCall)
    (h : LedgerInv id s) (hfits : NoOverflow s.1 call) : LedgerInv id (ledgerStep id s call) := by
  refine ⟨kept_step s.1 call h.1, fun sub' hsub' => ?_⟩
  have hrel := usageCall_rowMove s.1 id call
  rw [show (usageStep s.1 call).subs.find id = some sub' from hsub'] at hrel
  cases hfind : s.1.subs.find id with
  | none =>
    rw [hfind] at hrel
    cases hrel
  | some sub =>
    rw [hfind] at hrel
    cases hrel with
    | some hmove =>
      have hwithin := h.1 sub (Table.mem_of_find hfind).1
      exact (h.2 sub hfind).record (hmove.le_amountUsed hfits hwithin)

theorem returned_step (id : Int) (s : SubscriptionStore × UsageLedger) (call : UsageCall)
    (h : s.2.returned = 0) (hshare : WithinShare id s call) :
    (ledgerStep id s call).2.returned = 0 := by
  have hopened : (s.2.opened (usageEffect s.1 id call)).returned = 0 := by
    unfold opened
    split_ifs
    · rfl
    · exact h
  simp only [ledgerStep, UsageLedger.record]
  cases hchange : (usageEffect s.1 id call).change with
  | none => exact hopened
  | some change =>
    have hnonneg := hshare change hchange
    simp only [returned_post]
    omega

/-- **The usage covers the consumption since the last reset**, less what requests have given back
since that reset beyond their own consumption since it. If no request gives back more than it has
consumed since the last reset, the usage covers the whole consumption. -/
theorem usage_covers_consumption {st : SubscriptionStore} {id : Int} (hkept : Kept st)
    (hused : ∀ sub ∈ st.subs.find id, 0 ≤ sub.amountUsed) {calls : List UsageCall}
    (hfits : Along (ledgerStep id) (fun s call => NoOverflow s.1 call) (st, .empty) calls) :
    (∀ sub ∈ (run (ledgerStep id) (st, .empty) calls).1.subs.find id,
      ((run (ledgerStep id) (st, .empty) calls).2.outstanding : Int) ≤
        sub.amountUsed + (run (ledgerStep id) (st, .empty) calls).2.returned) ∧
    (Along (ledgerStep id) (WithinShare id) (st, .empty) calls →
      ∀ sub ∈ (run (ledgerStep id) (st, .empty) calls).1.subs.find id,
        ((run (ledgerStep id) (st, .empty) calls).2.outstanding : Int) ≤ sub.amountUsed) := by
  have hstart : LedgerInv id (st, .empty) := by
    refine ⟨hkept, fun sub hsub => ?_⟩
    have hlow := hused sub hsub
    simpa [Covers, outstanding, empty, Table.total] using hlow
  have hinv : LedgerInv id (run (ledgerStep id) (st, .empty) calls) :=
    run_induction (ledgerInv_step id) hstart hfits
  refine ⟨hinv.2, fun hshare sub hsub => ?_⟩
  have hreturned : (run (ledgerStep id) (st, .empty) calls).2.returned = 0 :=
    run_induction (returned_step id) rfl hshare
  have hcovers := hinv.2 sub hsub
  rw [Covers, hreturned] at hcovers
  simpa using hcovers

def sampleEmpty : SubscriptionStore where
  subs := ⟨[⟨1, 1, 100, 0, 10, .active, 0, 0, false⟩], List.nodup_singleton 1⟩
  records := ⟨[], List.nodup_nil⟩

def sampleOnePeriod : List UsageCall :=
  [.adminReset 1 none true, .preConsume "a" 1 10 sampleReplies, .preConsume "b" 1 5 sampleReplies,
    .refund "a" .allOk, .settle "b" 1 (-2) true]

theorem usage_covers_consumption_onePeriod :
    Along (ledgerStep 1) (WithinShare 1) (sampleEmpty, .empty) sampleOnePeriod ∧
    ∀ sub ∈ (run (ledgerStep 1) (sampleEmpty, .empty) sampleOnePeriod).1.subs.find 1,
      ((run (ledgerStep 1) (sampleEmpty, .empty) sampleOnePeriod).2.outstanding : Int) ≤
        sub.amountUsed := by
  have hkept : Kept sampleEmpty := by
    intro sub hsub
    obtain rfl := List.mem_singleton.mp hsub
    exact ⟨⟨by decide, by decide⟩, fun _ => by decide⟩
  have hfits : Along (ledgerStep 1) (fun s call => NoOverflow s.1 call) (sampleEmpty, .empty)
      sampleOnePeriod := by decide +kernel
  have hshare : Along (ledgerStep 1) (WithinShare 1) (sampleEmpty, .empty) sampleOnePeriod := by
    decide +kernel
  exact ⟨hshare, (usage_covers_consumption hkept (by decide +kernel) hfits).2 hshare⟩

def sampleStraddling : List UsageCall :=
  [.preConsume "a" 1 10 sampleReplies, .adminReset 1 none true, .preConsume "b" 1 5 sampleReplies,
    .refund "a" .allOk]

/-- The refund across the reset takes the usage of the second request away: the usage is `0` while
`5` have been consumed since the reset and not refunded. -/
theorem refund_after_reset :
    (((run (ledgerStep 1) (sampleEmpty, .empty) sampleStraddling).1.subs.find 1).map
      UserSubscription.amountUsed = some 0) ∧
    (run (ledgerStep 1) (sampleEmpty, .empty) sampleStraddling).2.outstanding = 5 ∧
    (run (ledgerStep 1) (sampleEmpty, .empty) sampleStraddling).2.share "b" = 5 := by
  decide +kernel

end NewApi.Model
