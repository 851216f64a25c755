import NewApi.Service.SessionLifecycle

/-!
# Settling a session

`Settle` after any history of reservations, and sessions on which reservations, settlements and
refunds are called in any order.
-/

namespace NewApi.Service

open BillingSession StepSystem

/-! ### The two parts of `Settle` -/

section

variable {base l l' : Ledger} {s : BillingSession} {actual : Int} {r : SettleReplies} {quota : Int}
  {dbOk : Bool}

theorem decreaseTokenQuota_ok (h : decreaseTokenQuota l quota dbOk = (l', none)) :
    l' = { l with token := l.token - quota } := by
  simp only [decreaseTokenQuota] at h
  split_ifs at h <;> cases h
  rfl

theorem increaseTokenQuota_ok (h : increaseTokenQuota l quota dbOk = (l', none)) :
    l' = { l with token := l.token + quota } := by
  simp only [increaseTokenQuota] at h
  split_ifs at h <;> cases h
  rfl

variable {delta : Int}

theorem settleToken_ok {isPlayground : Bool}
    (h : settleToken isPlayground l delta dbOk = (l', none)) :
    l' = { l with token := l.token - tokenShare isPlayground delta } := by
  cases isPlayground with
  | true =>
    cases h
    simp [tokenShare]
  | false =>
    simp only [settleToken, Bool.false_eq_true, if_false] at h
    split_ifs at h
    · exact decreaseTokenQuota_ok h
    · rw [increaseTokenQuota_ok h]
      simp [tokenShare, sub_eq_add_neg]

theorem settleToken_true {isPlayground : Bool} {e : Option TokenError}
    (h : settleToken isPlayground l delta true = (l', e)) : e = none := by
  cases isPlayground with
  | true =>
    cases h
    rfl
  | false =>
    simp only [settleToken, Bool.false_eq_true, if_false] at h
    split_ifs at h
    · have hnonneg : ¬ delta < 0 := by omega
      simp only [decreaseTokenQuota, if_neg hnonneg] at h
      cases h
      rfl
    · have hnonneg : ¬ -delta < 0 := by omega
      simp only [increaseTokenQuota, if_neg hnonneg] at h
      cases h
      rfl

theorem FundingSource.settle_error {f : FundingSource}
    {e : FundingError} (h : f.settle l delta dbOk = (l', some e)) : l' = l := by
  cases f with
  | wallet w =>
    simp only [FundingSource.settle, WalletFunding.settle] at h
    split_ifs at h <;> cases h
    rfl
  | subscription f =>
    simp only [FundingSource.settle, SubscriptionFunding.settle] at h
    split_ifs at h
    · cases h
    · exact adjust_error h

theorem Open.settle_funding (h : Open base s l)
    (hactual : s.funding.source = .subscription → 0 ≤ actual)
    (hf : s.funding.settle l (actual - s.preConsumedQuota) dbOk = (l', none)) :
    Taken base s.funding actual (tokenShare s.relayInfo.isPlayground s.preConsumedQuota) l' := by
  have htaken := h.taken
  by_cases hdelta : actual - s.preConsumedQuota = 0
  · obtain rfl : actual = s.preConsumedQuota := by omega
    have hl : l' = l := by
      cases hfund : s.funding <;>
        simp [hfund, FundingSource.settle, WalletFunding.settle, SubscriptionFunding.settle] at hf
        <;> exact hf.symm
    rw [hl]
    exact htaken
  obtain ⟨-, -, htoken, hfund⟩ := h
  cases hs : s.funding with
  | wallet w =>
    rw [hs] at hf
    simp only [hs] at hfund
    simp only [FundingSource.settle, WalletFunding.settle] at hf
    split_ifs at hf
    · cases hf
    cases hf
    refine ⟨htoken, ?_, hfund.2⟩
    change l.wallet - _ = _
    omega
  | subscription f =>
    rw [hs] at hf
    simp only [hs] at hfund
    obtain ⟨sub, hheld⟩ := hfund
    simp only [FundingSource.settle, SubscriptionFunding.settle, if_neg hdelta, hheld.id_eq] at hf
    have hnonneg : 0 ≤ actual := hactual (by rw [hs]; rfl)
    obtain ⟨rfl, -⟩ := adjust_charged_ok hheld.stored hheld.valid hheld.subs_eq hheld.fits
      (by omega) hf
    have hsum : s.preConsumedQuota + (actual - s.preConsumedQuota) = actual := by omega
    rw [hsum]
    exact ⟨htoken, hheld.wallet_eq, sub, by rw [hheld.id_eq]; exact hheld.stored, rfl⟩

theorem Taken.token {f : FundingSource} {t t' : Int} (h : Taken base f quota t l) :
    Taken base f quota (t + t') { l with token := l.token - t' } := by
  obtain ⟨htoken, hfund⟩ := h
  refine ⟨?_, ?_⟩
  · change l.token - t' = _
    omega
  · cases f <;> exact hfund

/-- The three ways in which `Settle` ends on a session that nothing has resolved yet. -/
inductive SettleOutcome (s : BillingSession) (l : Ledger) (actual : Int) (r : SettleReplies) :
    (BillingSession × Ledger) × Option SessionError → Prop
  /-- The actual quota is what was pre-consumed. -/
  | exact (heq : actual = s.preConsumedQuota) :
      SettleOutcome s l actual r (({ s with settled := true }, l), none)
  /-- The funding step fails. -/
  | refused (e : FundingError)
      (hfunding : (s.funding.settle l (actual - s.preConsumedQuota) r.funding).2 = some e) :
      SettleOutcome s l actual r ((s, l), some (.funding e))
  | charged (l₁ l₂ : Ledger) (e : Option TokenError)
      (hfunding : s.funding.settle l (actual - s.preConsumedQuota) r.funding = (l₁, none))
      (htoken : settleToken s.relayInfo.isPlayground l₁ (actual - s.preConsumedQuota) r.token =
        (l₂, e)) :
      SettleOutcome s l actual r
        ((s.markSettled (actual - s.preConsumedQuota), l₂), e.map .token)

theorem settle_outcome (hun : Unresolved s) : SettleOutcome s l actual r (s.settle l actual r) := by
  obtain ⟨hsettled, -, hfs⟩ := hun
  by_cases hdelta : actual - s.preConsumedQuota = 0
  · have heq : s.settle l actual r = (({ s with settled := true }, l), none) := by
      simp [settle, hsettled, hdelta]
    rw [heq]
    exact .exact (by omega)
  rcases hf : s.funding.settle l (actual - s.preConsumedQuota) r.funding with ⟨l₁, _ | e⟩
  · rcases ht : settleToken s.relayInfo.isPlayground l₁ (actual - s.preConsumedQuota) r.token with
      ⟨l₂, e⟩
    have heq : s.settle l actual r =
        ((s.markSettled (actual - s.preConsumedQuota), l₂), e.map .token) := by
      simp [settle, hsettled, hfs, hdelta, hf, ht]
    rw [heq]
    exact .charged l₁ l₂ e hf ht
  · obtain rfl := FundingSource.settle_error hf
    have heq : s.settle l₁ actual r = ((s, l₁), some (.funding e)) := by
      simp [settle, hsettled, hfs, hdelta, hf]
    rw [heq]
    exact .refused e (by rw [hf])

theorem Open.settle_ok (h : Open base s l) (hun : Unresolved s)
    (hactual : s.funding.source = .subscription → 0 ≤ actual)
    (hnil : (s.settle l actual r).2 = none) :
    Taken base s.funding actual (tokenShare s.relayInfo.isPlayground actual)
      (s.settle l actual r).1.2 := by
  have hout : SettleOutcome s l actual r (s.settle l actual r) := settle_outcome hun
  generalize s.settle l actual r = res at hout hnil
  cases hout with
  | exact heq =>
    rw [heq]
    exact h.taken
  | refused e hfunding => cases hnil
  | charged l₁ l₂ e hfunding htoken =>
    obtain rfl : e = none := Option.map_eq_none_iff.mp hnil
    have hshare : tokenShare s.relayInfo.isPlayground actual =
        tokenShare s.relayInfo.isPlayground s.preConsumedQuota +
          tokenShare s.relayInfo.isPlayground (actual - s.preConsumedQuota) := by
      rw [← tokenShare_add]
      congr 1
      omega
    rw [hshare, settleToken_ok htoken]
    exact (h.settle_funding hactual hfunding).token

theorem Unresolved.settle_funding_error (hun : Unresolved s) {e : FundingError}
    (herr : (s.settle l actual r).2 = some (.funding e)) : (s.settle l actual r).1 = (s, l) := by
  have hout : SettleOutcome s l actual r (s.settle l actual r) := settle_outcome hun
  generalize s.settle l actual r = res at hout herr ⊢
  cases hout with
  | exact heq => cases herr
  | refused e' hfunding => rfl
  | charged l₁ l₂ e' hfunding htoken => cases e' <;> cases herr

/-- A charged subscription has room for `actual` in total; a wallet may go into debt. -/
def Affordable (base : Ledger) (actual : Int) : FundingSource → Prop
  | .wallet _ => True
  | .subscription f => ∀ sub, base.subscription.subs.find f.subscriptionId = some sub →
      0 < sub.amountTotal → sub.amountUsed + actual ≤ sub.amountTotal

theorem Open.settle_funding_nil (h : Open base s l) (hactual : 0 ≤ actual)
    (hroom : Affordable base actual s.funding) :
    (s.funding.settle l (actual - s.preConsumedQuota) true).2 = none := by
  by_cases hdelta : actual - s.preConsumedQuota = 0
  · cases s.funding <;>
      simp [FundingSource.settle, WalletFunding.settle, SubscriptionFunding.settle, hdelta]
  have hfund := h.funding
  cases hs : s.funding with
  | wallet w => simp [FundingSource.settle, WalletFunding.settle, hdelta]
  | subscription f =>
    simp only [hs] at hfund
    obtain ⟨sub, hheld⟩ := hfund
    have hsum : s.preConsumedQuota + (actual - s.preConsumedQuota) = actual := by omega
    rw [hs] at hroom
    have hfits := hroom sub (by rw [hheld.id_eq]; exact hheld.stored)
    simp only [FundingSource.settle, SubscriptionFunding.settle, if_neg hdelta, hheld.id_eq]
    rw [adjust_charged hheld.stored hheld.valid hheld.subs_eq (by rw [hsum]; exact hactual)
      (by rw [hsum]; exact hfits)]

theorem Open.settle_nil (h : Open base s l) (hun : Unresolved s) (hactual : 0 ≤ actual)
    (hroom : Affordable base actual s.funding) : (s.settle l actual ⟨true, true⟩).2 = none := by
  have hout : SettleOutcome s l actual ⟨true, true⟩ (s.settle l actual ⟨true, true⟩) :=
    settle_outcome hun
  generalize s.settle l actual ⟨true, true⟩ = res at hout ⊢
  cases hout with
  | exact heq => rfl
  | refused e hfunding =>
    rw [h.settle_funding_nil hactual hroom] at hfunding
    cases hfunding
  | charged l₁ l₂ e hfunding htoken =>
    obtain rfl := settleToken_true htoken
    rfl

end

/-! ### Settling after a history of reservations -/

/-- **Totals of a settlement.** After any history of reservations on an opened session, a
settlement of `actual` that returns `nil` has taken `actual` in total from the funding source, and
from the token unless the request is a playground request. If its funding step fails, no balance and
no flag has changed: a later attempt that returns `nil` reaches the same totals, it does return
`nil` once its updates succeed and a subscription has room, and a refund is still admitted. -/
theorem settle_totals {base l : Ledger} {s : BillingSession} {calls : List ReserveCall}
    (h : Opens base s l) (hroll : ∀ c ∈ calls, c.replies.rollback = true) {actual : Int}
    (hactual : 0 ≤ actual) (r : SettleReplies) {x : BillingSession × Ledger}
    (hx : x = run reserveStep (s, l) calls) :
    ((x.1.settle x.2 actual r).2 = none →
        Taken base x.1.funding actual (tokenShare x.1.relayInfo.isPlayground actual)
          (x.1.settle x.2 actual r).1.2) ∧
      ∀ e y, x.1.settle x.2 actual r = (y, some (.funding e)) →
        y = x ∧ y.1.settled = false ∧ y.1.refunded = false ∧ y.1.fundingSettled = false ∧
          (∀ r', (y.1.settle y.2 actual r').2 = none →
            Taken base y.1.funding actual (tokenShare y.1.relayInfo.isPlayground actual)
              (y.1.settle y.2 actual r').1.2) ∧
          (Affordable base actual y.1.funding → (y.1.settle y.2 actual ⟨true, true⟩).2 = none) := by
  have hrunning : Running base x := by
    rw [hx]
    exact h.running.1.history hroll
  refine ⟨hrunning.isOpen.settle_ok hrunning.unresolved fun _ => hactual, fun e y hy => ?_⟩
  obtain rfl : y = x := by
    have hsame := hrunning.unresolved.settle_funding_error (congrArg Prod.snd hy)
    rw [hy] at hsame
    exact hsame
  obtain ⟨hsettled, hrefunded, hfs⟩ := hrunning.unresolved
  exact ⟨rfl, hsettled, hrefunded, hfs,
    fun r' => hrunning.isOpen.settle_ok hrunning.unresolved fun _ => hactual,
    hrunning.isOpen.settle_nil hrunning.unresolved hactual⟩

/-- A reservation up to `30` and a settlement at `25`: the wallet and the token end at `75`. -/
theorem settle_totals_text_request : Taken ⟨100, 100, emptyStore⟩ (.wallet ⟨30⟩) 25 25
      (((run reserveStep (openedWallet false) [⟨30, 0, ⟨.ok, .ok, true⟩⟩]).1.settle
        (run reserveStep (openedWallet false) [⟨30, 0, ⟨.ok, .ok, true⟩⟩]).2 25
        ⟨true, true⟩).1.2) :=
  (settle_totals (openedWallet_opens false) (by decide) (by decide) ⟨true, true⟩ rfl).1 (by decide)

/-! ### Calls in any order -/

/-- The calls on a session, and the goroutines of earlier refunds getting to run. -/
inductive SessionEvent
  | reserve (c : ReserveCall)
  | settle (actual : Int)
  | refund
  | work
  deriving DecidableEq, Repr

inductive Resolution
  | settled (actual : Int)
  | refunded
  deriving DecidableEq, Repr

/-- A session with its ledger, the goroutines still to run, and the first resolution, which the
program does not store. -/
structure SessionRun where
  session : BillingSession
  ledger : Ledger
  jobs : List RefundJob
  resolution : Option Resolution

def sessionStep (x : SessionRun) : SessionEvent → SessionRun
  | .reserve c =>
    let y := reserveStep (x.session, x.ledger) c
    { x with session := y.1, ledger := y.2 }
  | .settle actual =>
    let y := x.session.settle x.ledger actual ⟨true, true⟩
    { x with
      session := y.1.1
      ledger := y.1.2
      resolution := if x.resolution = none ∧ y.2 = none then some (.settled actual)
        else x.resolution }
  | .refund =>
    match x.session.refund with
    | (s, some j) => { x with
        session := s, jobs := x.jobs ++ [j], resolution := x.resolution <|> some .refunded }
    | (s, none) => { x with session := s }
  | .work =>
    match x.jobs with
    | [] => x
    | j :: js => { x with ledger := j.run x.ledger .allOk, jobs := js }

def SessionRun.start (s : BillingSession) (l : Ledger) : SessionRun := ⟨s, l, [], none⟩

/-- The calls for which the flags and counters of the session are enough: a refunded session is not
settled at another quota than it had pre-consumed, a refund that takes effect finds the whole charge
remembered, the actual quota on a subscription is not negative, and rollbacks succeed. -/
def Admissible (x : SessionRun) : SessionEvent → Prop
  | .reserve c => c.replies.rollback = true
  | .settle actual => (x.session.funding.source = .subscription → 0 ≤ actual) ∧
      (x.session.refunded = true → actual = x.session.preConsumedQuota)
  | .refund => x.session.needsRefund = true → Remembers x.session
  | .work => True

/-- The invariant: an unresolved session holds its charge, a settled one has taken the actual quota,
and a refunded one has been restored or will be by its one goroutine. -/
def Accounted (base : Ledger) (x : SessionRun) : Prop :=
  match x.resolution with
  | none => Running base (x.session, x.ledger) ∧ x.jobs = []
  | some (.settled actual) => x.session.settled = true ∧ x.jobs = [] ∧
      Taken base x.session.funding actual (tokenShare x.session.relayInfo.isPlayground actual)
        x.ledger
  | some .refunded => x.session.refunded = true ∧
      (x.jobs = [] ∧ Restored base x.ledger ∨
        ∃ j, x.jobs = [j] ∧ Restored base (j.run x.ledger .allOk))

section

variable {base : Ledger} {x : SessionRun} {e : SessionEvent}

theorem Accounted.resolved_step (h : Accounted base x) (hadm : Admissible x e)
    (hres : x.resolution ≠ none) (he : e ≠ .work) :
    (sessionStep x e).ledger = x.ledger ∧ (sessionStep x e).jobs = x.jobs ∧
      (sessionStep x e).resolution = x.resolution ∧
      (sessionStep x e).session.funding = x.session.funding ∧
      (sessionStep x e).session.relayInfo.isPlayground = x.session.relayInfo.isPlayground ∧
      (x.session.settled = true → (sessionStep x e).session.settled = true) ∧
      (x.session.refunded = true → (sessionStep x e).session.refunded = true) := by
  have hflag : x.session.settled = true ∨ x.session.refunded = true := by
    unfold Accounted at h
    split at h
    next hnone => exact absurd hnone hres
    · exact .inl h.1
    · exact .inr h.1
  cases e with
  | work => exact absurd rfl he
  | reserve c =>
    have hskip : (x.session.setImageCount c.imageRequestCount).SkipsReserve c.targetQuota := by
      rcases hflag with h | h
      · exact .inl h
      · exact .inr (.inl h)
    have hstep : reserveStep (x.session, x.ledger) c =
        (x.session.setImageCount c.imageRequestCount, x.ledger) := by
      simp [reserveStep, ReserveCall.result, reserve, if_pos hskip]
    simp only [sessionStep, hstep]
    exact ⟨trivial, trivial, trivial, rfl, rfl, id, id⟩
  | settle actual =>
    by_cases hsettled : x.session.settled = true
    · simp [sessionStep, settle, hsettled, hres]
    · have hrefunded := hflag.resolve_left hsettled
      obtain rfl := hadm.2 hrefunded
      simp [sessionStep, settle, hsettled, hres]
  | refund =>
    have hnone : x.session.refund = (x.session, none) := by
      rcases hflag with h | h <;> simp [refund, h]
    simp only [sessionStep, hnone]
    exact ⟨trivial, trivial, trivial, trivial, trivial, id, id⟩

theorem Running.accounted_settle {actual : Int} (h : Running base (x.session, x.ledger))
    (hjobs : x.jobs = []) (hres : x.resolution = none)
    (hactual : x.session.funding.source = .subscription → 0 ≤ actual) :
    Accounted base (sessionStep x (.settle actual)) := by
  have hout : SettleOutcome x.session x.ledger actual ⟨true, true⟩
      (x.session.settle x.ledger actual ⟨true, true⟩) := settle_outcome h.unresolved
  have htaken : (x.session.settle x.ledger actual ⟨true, true⟩).2 = none → _ :=
    h.isOpen.settle_ok h.unresolved hactual
  simp only [sessionStep, hres]
  generalize x.session.settle x.ledger actual ⟨true, true⟩ = res at hout htaken
  cases hout with
  | exact heq =>
    exact ⟨by simp, hjobs, htaken rfl⟩
  | refused e hfunding =>
    exact ⟨h, hjobs⟩
  | charged l₁ l₂ e hfunding htoken =>
    obtain rfl := settleToken_true htoken
    refine ⟨rfl, hjobs, ?_⟩
    have hplay :
        (x.session.markSettled (actual - x.session.preConsumedQuota)).relayInfo.isPlayground =
          x.session.relayInfo.isPlayground := by
      simp only [markSettled]
      split <;> rfl
    rw [hplay]
    exact htaken rfl

/-- A refund of a running session that remembers its charge starts the one goroutine that restores
the balances, or changes nothing. -/
theorem Running.accounted_refund (h : Running base (x.session, x.ledger)) (hjobs : x.jobs = [])
    (hres : x.resolution = none) (hrem : x.session.needsRefund = true → Remembers x.session) :
    Accounted base (sessionStep x .refund) := by
  cases hneeds : x.session.needsRefund with
  | true =>
    have hrestored := (refund_restores_iff_remembers h).mpr (hrem hneeds)
    have hrefund := h.unresolved.refund_of_needsRefund hneeds
    simp only [refundNow, hrefund] at hrestored
    simp only [sessionStep, hrefund, Accounted, hres, hjobs]
    exact ⟨trivial, .inr ⟨_, rfl, hrestored⟩⟩
  | false =>
    simp only [sessionStep, refund_of_not_needsRefund hneeds, hres]
    exact ⟨h, hjobs⟩

theorem Accounted.step (h : Accounted base x) (hadm : Admissible x e) :
    Accounted base (sessionStep x e) := by
  cases hres : x.resolution with
  | none =>
    have hx := h
    simp only [Accounted, hres] at hx
    obtain ⟨hrunning, hjobs⟩ := hx
    cases e with
    | reserve c =>
      simp only [sessionStep, hres]
      exact ⟨hrunning.reserve hadm, hjobs⟩
    | settle actual => exact hrunning.accounted_settle hjobs hres hadm.1
    | refund => exact hrunning.accounted_refund hjobs hres hadm
    | work => simpa only [sessionStep, hjobs] using h
  | some resolution =>
    by_cases he : e = .work
    · subst he
      cases resolution with
      | settled actual =>
        have hx := h
        simp only [Accounted, hres] at hx
        simpa only [sessionStep, hx.2.1] using h
      | refunded =>
        have hx := h
        simp only [Accounted, hres] at hx
        obtain ⟨hrefunded, ⟨hjobs, hrestored⟩ | ⟨j, hjobs, hrestored⟩⟩ := hx
        · simpa only [sessionStep, hjobs] using h
        · simp only [sessionStep, hjobs, Accounted, hres]
          exact ⟨hrefunded, .inl ⟨trivial, hrestored⟩⟩
    · obtain ⟨hledger, hjobs, hres', hfunding, hplay, hset, href⟩ :=
        h.resolved_step hadm (by rw [hres]; simp) he
      cases resolution with
      | settled actual =>
        simp only [Accounted, hres] at h
        simp only [Accounted, hres', hres, hledger, hjobs, hfunding, hplay]
        exact ⟨hset h.1, h.2⟩
      | refunded =>
        simp only [Accounted, hres] at h
        simp only [Accounted, hres', hres, hledger, hjobs]
        exact ⟨href h.1, h.2⟩

end

/-- **At most one resolution.** Along every run of admissible calls on an opened session, in any
order and with any repetition: once a settlement has taken effect, exactly its actual quota is
missing; once a refund has taken effect and its goroutine has run, nothing is missing; and every
later call moves nothing. -/
theorem at_most_one_resolution {base l : Ledger} {s : BillingSession} {events : List SessionEvent}
    (h : Opens base s l) (hadm : Along sessionStep Admissible (.start s l) events)
    {x : SessionRun} (hx : x = run sessionStep (.start s l) events) :
    (∀ actual, x.resolution = some (.settled actual) → Taken base x.session.funding actual
          (tokenShare x.session.relayInfo.isPlayground actual) x.ledger) ∧
      (x.resolution = some .refunded → x.jobs.length ≤ 1 ∧ (x.jobs = [] → Restored base x.ledger) ∧
        ∀ j ∈ x.jobs, Restored base (j.run x.ledger .allOk)) ∧
      Along sessionStep (fun y e => y.resolution ≠ none → e ≠ .work →
        (sessionStep y e).ledger = y.ledger ∧ (sessionStep y e).jobs = y.jobs ∧
          (sessionStep y e).resolution = y.resolution) (.start s l) events := by
  have hstart : Accounted base (.start s l) := ⟨h.running.1, rfl⟩
  have hend : Accounted base x := by
    rw [hx]
    exact run_induction (fun _ _ hy he => hy.step he) hstart hadm
  refine ⟨fun actual hres => ?_, fun hres => ?_, ?_⟩
  · simp only [Accounted, hres] at hend
    exact hend.2.2
  · simp only [Accounted, hres] at hend
    obtain ⟨-, ⟨hjobs, hrestored⟩ | ⟨j, hjobs, hrestored⟩⟩ := hend
    all_goals simp [hjobs, hrestored]
  · refine along_of_invariant (fun _ _ hy he => hy.step he) (fun y e hy he hres hwork => ?_)
      hstart hadm
    obtain ⟨hledger, hjobs, hres', -⟩ := hy.resolved_step he hres hwork
    exact ⟨hledger, hjobs, hres'⟩

/-- A text request that is reserved further, settled at `25`, and then settled again at `40`: `25`
is missing at the end. -/
theorem at_most_one_resolution_text_request : Taken ⟨100, 100, emptyStore⟩ (.wallet ⟨30⟩) 25 25
      (run sessionStep (.start (openedWallet false).1 (openedWallet false).2)
        [.reserve ⟨30, 0, ⟨.ok, .ok, true⟩⟩, .settle 25, .settle 40, .work]).ledger := by
  refine (at_most_one_resolution (openedWallet_opens false) ?_ rfl).1 25 (by decide)
  exact ⟨rfl, ⟨by decide, by decide⟩, ⟨by decide, by decide⟩, trivial, trivial⟩

/-- A refunded session can still be settled: after the refund the balances are back at `100`, and
`Settle(25)` then takes `15`. -/
theorem settle_after_refund :
    Opens ⟨100, 100, emptyStore⟩ (openedWallet false).1 (openedWallet false).2 ∧
      (run sessionStep (.start (openedWallet false).1 (openedWallet false).2)
        [.refund, .work]).ledger.wallet = 100 ∧
      (run sessionStep (.start (openedWallet false).1 (openedWallet false).2)
        [.refund, .work, .settle 25]).resolution = some .refunded ∧
      (run sessionStep (.start (openedWallet false).1 (openedWallet false).2)
        [.refund, .work, .settle 25]).ledger.wallet = 85 ∧
      (run sessionStep (.start (openedWallet false).1 (openedWallet false).2)
        [.refund, .work, .settle 25]).ledger.token = 85 :=
  ⟨openedWallet_opens false, by decide, by decide, by decide, by decide⟩

end NewApi.Service
