import NewApi.Service.SessionAccounting

/-!
# Reserving, refunding and settling over a whole session

Runs of calls on a session that the program has opened, measured against the ledger before it.
-/

namespace NewApi.Service

open Model BillingSession StepSystem Table

/-! ### Runs of `Reserve` -/

/-- A `Reserve` call: the target, the value of `ImageRequestCount` on this attempt, and the replies
to its updates. -/
structure ReserveCall where
  targetQuota : Int
  imageRequestCount : Int
  replies : ReserveReplies
  deriving DecidableEq, Repr

def BillingSession.setImageCount (s : BillingSession) (count : Int) : BillingSession :=
  { s with relayInfo := { s.relayInfo with imageRequestCount := count } }

def ReserveCall.result (x : BillingSession × Ledger) (c : ReserveCall) :
    (BillingSession × Ledger) × Option NewAPIError :=
  (x.1.setImageCount c.imageRequestCount).reserve x.2 c.targetQuota c.replies

def reserveStep (x : BillingSession × Ledger) (c : ReserveCall) : BillingSession × Ledger :=
  (c.result x).1

theorem Open.setImageCount {base l : Ledger} {s : BillingSession} (h : Open base s l)
    (count : Int) : Open base (s.setImageCount count) l := by
  obtain ⟨hnonneg, htc, htoken, hfund⟩ := h
  refine ⟨hnonneg, htc, htoken, ?_⟩
  cases hf : s.funding with
  | wallet w => simpa only [BillingSession.setImageCount, hf] using hfund
  | subscription f =>
    simp only [hf] at hfund
    obtain ⟨sub, hheld⟩ := hfund
    simp only [BillingSession.setImageCount, hf]
    exact ⟨sub, { hheld with }⟩

def Bounded (s : BillingSession) : Prop :=
  ∀ w, s.funding = .wallet w → 0 ≤ w.consumed ∧ w.consumed ≤ s.preConsumedQuota

def Remembers (s : BillingSession) : Prop :=
  ∀ w, s.funding = .wallet w → w.consumed = s.preConsumedQuota

structure Running (base : Ledger) (x : BillingSession × Ledger) : Prop where
  isOpen : Open base x.1 x.2
  unresolved : Unresolved x.1
  bounded : Bounded x.1

theorem Opens.running {base l : Ledger} {s : BillingSession} (h : Opens base s l) :
    Running base (s, l) ∧ Remembers s := by
  obtain ⟨hopen, hun, hfund⟩ := h.isOpen
  have hrem : Remembers s := by
    intro w hw
    rcases hfund with ⟨f, hf⟩ | hf
    · rw [hf] at hw
      cases hw
    · rw [hf] at hw
      cases hw
      rfl
  refine ⟨⟨hopen, hun, fun w hw => ?_⟩, hrem⟩
  rw [hrem w hw]
  exact ⟨hopen.nonneg, le_rfl⟩

/-- A reservation on the session would replace a remembered charge: it is a wallet session with a
charge, and the request is an image request. -/
def Forgetful (s : BillingSession) : Prop :=
  s.funding.source = .wallet ∧ s.relayInfo.imageRequest ∧ 0 < s.preConsumedQuota
  deriving Decidable

/-- The reservation passes the wallet step of an image request while the session already holds a
charge: `WalletFunding.PreConsume` then replaces the remembered amount. -/
def Overwrites (x : BillingSession × Ledger) (c : ReserveCall) : Prop :=
  Forgetful (x.1.setImageCount c.imageRequestCount) ∧
    ¬ (x.1.setImageCount c.imageRequestCount).SkipsReserve c.targetQuota ∧ c.replies.funding = .ok
  deriving Decidable

/-- A `Reserve` that returns an error leaves the session and both balances as they were. -/
def ErrorLeavesState (x : BillingSession × Ledger) (c : ReserveCall) : Prop :=
  (c.result x).2 ≠ none → reserveStep x c = (x.1.setImageCount c.imageRequestCount, x.2)
  deriving Decidable

theorem source_eq_wallet {f : FundingSource} (h : f.source = .wallet) : ∃ w, f = .wallet w := by
  cases f with
  | wallet w => exact ⟨w, rfl⟩
  | subscription s => cases h

section

variable {s : BillingSession}

theorem remembers_afterRollback_iff (hbound : Bounded s) :
    Remembers (afterRollback s) ↔ Remembers s ∧ ¬ Forgetful s := by
  cases hf : s.funding with
  | subscription f => simp [Remembers, Forgetful, afterRollback, hf, releasedFunding,
      FundingSource.source]
  | wallet w =>
    have hb := hbound w hf
    cases himage : s.relayInfo.imageRequest <;>
      simp [Remembers, Forgetful, afterRollback, hf, releasedFunding, FundingSource.source, himage]
    omega

theorem remembers_afterReserve_iff (hbound : Bounded s) (delta : Int) :
    Remembers (afterReserve s delta) ↔ Remembers s ∧ ¬ Forgetful s := by
  cases hf : s.funding with
  | subscription f => simp [Remembers, Forgetful, hf, reservedFunding, FundingSource.source]
  | wallet w =>
    have hb := hbound w hf
    cases himage : s.relayInfo.imageRequest <;>
      simp [Remembers, Forgetful, hf, reservedFunding, FundingSource.source, himage]
    omega

theorem afterRollback_eq_self (hbound : Bounded s) (hkeep : ¬ Forgetful s) :
    afterRollback s = s := by
  have hfund : releasedFunding s.relayInfo.imageRequest s.funding = s.funding := by
    cases hf : s.funding with
    | subscription f => rfl
    | wallet w =>
      have hb := hbound w hf
      cases himage : s.relayInfo.imageRequest with
      | false => rfl
      | true =>
        have hzero : ¬ 0 < s.preConsumedQuota := fun hpos =>
          hkeep ⟨by rw [hf]; rfl, himage, hpos⟩
        have hw : w.consumed = 0 := by omega
        simp [releasedFunding, ← hw]
  rw [afterRollback, hfund]

end

section

variable {base : Ledger} {x : BillingSession × Ledger} {c : ReserveCall} (h : Running base x)
include h

variable (hroll : c.replies.rollback = true)
include hroll

theorem Running.outcome :
    ReserveOutcome base (x.1.setImageCount c.imageRequestCount) x.2 c.targetQuota c.replies
      (c.result x) :=
  reserve_outcome (h.isOpen.setImageCount _) hroll

theorem Running.reserve : Running base (reserveStep x c) := by
  have hout := h.outcome hroll
  obtain ⟨hopen, hun, hbound⟩ := h
  have hopen' := hopen.setImageCount c.imageRequestCount
  unfold reserveStep
  generalize c.result x = res at hout
  cases hout with
  | skipped hskip | refused e hgo hreply => exact ⟨hopen', hun, hbound⟩
  | undone e hgo hreply =>
    refine ⟨hopen'.afterRollback, hun, fun w hw => ?_⟩
    cases hf : x.1.funding with
    | subscription f => simp [afterRollback, setImageCount, hf, releasedFunding] at hw
    | wallet w₀ =>
      have hb := hbound w₀ hf
      simp only [afterRollback, setImageCount, hf] at hw ⊢
      cases hw
      dsimp only
      split_ifs <;> omega
  | done l' hgo hreply hopen'' =>
    have hun' : Unresolved (x.1.setImageCount c.imageRequestCount) := hun
    refine ⟨hopen'', hun'.afterReserve _, fun w hw => ?_⟩
    cases hf : x.1.funding with
    | subscription f => simp [setImageCount, hf, reservedFunding] at hw
    | wallet w₀ =>
      have hb := hbound w₀ hf
      have hdelta : ¬ c.targetQuota ≤ x.1.preConsumedQuota := fun hle =>
        hgo (.inr (.inr (.inr hle)))
      simp only [afterReserve_preConsumedQuota, setImageCount, hf] at hw ⊢
      cases hw
      dsimp only
      split_ifs <;> omega

theorem Remembers.reserve (hrem : Remembers x.1) (hkeep : ¬ Overwrites x c) :
    Remembers (reserveStep x c).1 ∧ ErrorLeavesState x c := by
  have hout := h.outcome hroll
  have hbound : Bounded (x.1.setImageCount c.imageRequestCount) := h.bounded
  have hrem' : Remembers (x.1.setImageCount c.imageRequestCount) := hrem
  have hnot (hgo : ¬ (x.1.setImageCount c.imageRequestCount).SkipsReserve c.targetQuota)
      (hreply : (∃ w, (x.1.setImageCount c.imageRequestCount).funding = .wallet w) →
        c.replies.funding = .ok) : ¬ Forgetful (x.1.setImageCount c.imageRequestCount) := by
    intro hforget
    refine hkeep ⟨hforget, hgo, hreply ?_⟩
    exact source_eq_wallet hforget.1
  unfold ErrorLeavesState reserveStep
  generalize c.result x = res at hout
  cases hout with
  | skipped hskip => exact ⟨hrem, fun h => absurd rfl h⟩
  | refused e hgo hreply => exact ⟨hrem, fun _ => rfl⟩
  | undone e hgo hreply =>
    rw [afterRollback_eq_self hbound (hnot hgo hreply)]
    exact ⟨hrem, fun _ => rfl⟩
  | done l' hgo hreply hopen' =>
    exact ⟨(remembers_afterReserve_iff hbound _).mpr ⟨hrem', hnot hgo hreply⟩,
      fun h => absurd rfl h⟩

theorem Remembers.of_reserve
    (hrem : Remembers (reserveStep x c).1) : Remembers x.1 ∧ ¬ Overwrites x c := by
  have hout := h.outcome hroll
  have hbound : Bounded (x.1.setImageCount c.imageRequestCount) := h.bounded
  unfold reserveStep at hrem
  generalize c.result x = res at hout hrem
  cases hout with
  | skipped hskip => exact ⟨hrem, fun ho => ho.2.1 hskip⟩
  | refused e hgo hreply =>
    exact ⟨hrem, fun ho => hreply (source_eq_wallet ho.1.1) ho.2.2⟩
  | undone e hgo hreply =>
    obtain ⟨hrem', hkeep⟩ := (remembers_afterRollback_iff hbound).mp hrem
    exact ⟨hrem', fun ho => hkeep ho.1⟩
  | done l' hgo hreply hopen' =>
    obtain ⟨hrem', hkeep⟩ := (remembers_afterReserve_iff hbound _).mp hrem
    exact ⟨hrem', fun ho => hkeep ho.1⟩

end

/-! ### Refunding -/

def BillingSession.refundJob (s : BillingSession) : RefundJob :=
  ⟨s.relayInfo.isPlayground, s.tokenConsumed, s.extraReserved, s.relayInfo.subscriptionId,
    s.funding⟩

/-- The ledger after `Refund`, with its goroutine run to the end and all updates succeeding. -/
def refundNow (x : BillingSession × Ledger) : Ledger :=
  match x.1.refund.2 with
  | some j => j.run x.2 .allOk
  | none => x.2

section

variable {base l : Ledger} {s : BillingSession}

theorem Unresolved.refund_of_needsRefund (h : Unresolved s) (hneeds : s.needsRefund = true) :
    s.refund = ({ s with refunded := true }, some s.refundJob) := by
  obtain ⟨hsettled, hrefunded, -⟩ := h
  simp [BillingSession.refund, hsettled, hrefunded, hneeds, refundJob]

theorem refund_of_not_needsRefund (hneeds : s.needsRefund = false) : s.refund = (s, none) := by
  simp [BillingSession.refund, hneeds]

theorem increaseTokenQuota_share {l : Ledger} {isPlayground : Bool} {quota : Int}
    (hquota : 0 < quota) :
    (if 0 < quota ∧ isPlayground = false then (increaseTokenQuota l quota true).1 else l) =
      { l with token := l.token + tokenShare isPlayground quota } := by
  have hneg : ¬ quota < 0 := by omega
  cases isPlayground <;> simp [increaseTokenQuota, tokenShare, hquota, hneg]

theorem refund_restores_wallet_iff {w : WalletFunding} (h : Running base (s, l))
    (hf : s.funding = .wallet w) :
    Restored base (refundNow (s, l)) ↔ w.consumed = s.preConsumedQuota := by
  obtain ⟨⟨hnonneg, htc, htoken, hfund⟩, hun, hbound⟩ := h
  simp only [hf] at hfund
  obtain ⟨hwallet, hsubs⟩ := hfund
  have hb : 0 ≤ w.consumed ∧ w.consumed ≤ s.preConsumedQuota := hbound w hf
  simp only at hnonneg htc htoken hwallet hsubs
  by_cases hpos : 0 < s.preConsumedQuota
  · have hneeds : s.needsRefund = true := by
      obtain ⟨h₁, h₂, h₃⟩ := hun
      simp only at h₁ h₂ h₃
      simp [needsRefund, h₁, h₂, h₃, htc, hpos]
    have hrun : s.refundJob.run l .allOk = { l with
          wallet := l.wallet + w.consumed
          token := l.token + tokenShare s.relayInfo.isPlayground s.preConsumedQuota } := by
      have hback : (w.refund l true).1 = { l with wallet := l.wallet + w.consumed } := by
        by_cases hle : w.consumed ≤ 0
        · obtain hw : w.consumed = 0 := by omega
          simp [WalletFunding.refund, hw]
        · simp [WalletFunding.refund, hle]
      simp only [RefundJob.run, refundJob, hf, FundingSource.refund, FundingSource.source,
        RefundJobReplies.allOk, hback, htc, reduceCtorEq, false_and, and_false]
      exact increaseTokenQuota_share hpos
    simp only [refundNow, hun.refund_of_needsRefund hneeds, hrun, Restored, hsubs, and_true]
    omega
  · have hneeds : s.needsRefund = false := by
      simp [needsRefund, htc, hpos, hf]
    simp only [refundNow, refund_of_not_needsRefund hneeds, Restored, hsubs, htoken]
    simp [tokenShare]
    omega

theorem SubscriptionHeld.refund {f : SubscriptionFunding} {sub : UserSubscription}
    (h : SubscriptionHeld base s f l sub) :
    ∃ l', f.refund l (fun _ => .allOk) = (l', none) ∧ l'.wallet = l.wallet ∧ l'.token = l.token ∧
      l'.subscription.subs =
        base.subscription.subs.save (sub.use (s.preConsumedQuota + -f.preConsumed)) := by
  have hfind : l.subscription.subs.find (sub.use s.preConsumedQuota).id =
      some (sub.use s.preConsumedQuota) := by
    rw [h.subs_eq]
    exact find_save (mem_keys_of_find h.stored)
  have hused : (sub.use s.preConsumedQuota).amountUsed = sub.amountUsed + s.preConsumedQuota := rfl
  have hvalid : 0 ≤ sub.amountUsed := h.valid.2
  have hsplit := h.split
  have hextra := h.extra_nonneg
  have hretry : refundWithRetry l.subscription f.requestId (fun _ => .allOk) =
      (⟨l.subscription.subs.save ((sub.use s.preConsumedQuota).use (-f.preConsumed)),
        l.subscription.records.save
          ⟨f.requestId, f.userId, sub.id, f.preConsumed, .refunded⟩⟩, none) :=
    @refundWithRetry_consumed l.subscription (sub.use s.preConsumedQuota)
      ⟨f.requestId, f.userId, sub.id, f.preConsumed, .consumed⟩ (fun _ => .allOk) h.request
      h.record rfl hfind rfl h.valid.1 h.pre_pos (by rw [hused]; change f.preConsumed ≤ _; omega)
      h.fits rfl
  have hpos : ¬ f.preConsumed ≤ 0 := by
    have := h.pre_pos
    omega
  have hsubs : l.subscription.subs.save ((sub.use s.preConsumedQuota).use (-f.preConsumed)) =
      base.subscription.subs.save (sub.use (s.preConsumedQuota + -f.preConsumed)) := by
    rw [UserSubscription.use_use, h.subs_eq]
    exact save_save _ rfl
  have hrefund : f.refund l (fun _ => .allOk) = ({ l with subscription :=
      ⟨base.subscription.subs.save (sub.use (s.preConsumedQuota + -f.preConsumed)),
        l.subscription.records.save
          ⟨f.requestId, f.userId, sub.id, f.preConsumed, .refunded⟩⟩ }, none) := by
    simp only [SubscriptionFunding.refund, if_neg hpos, hretry, hsubs, Option.map_none]
  exact ⟨_, hrefund, rfl, rfl, rfl⟩

theorem refund_restores_subscription {f : SubscriptionFunding} (h : Running base (s, l))
    (hf : s.funding = .subscription f) : Restored base (refundNow (s, l)) := by
  obtain ⟨⟨hnonneg, htc, htoken, hfund⟩, hun, hbound⟩ := h
  simp only [hf] at hfund
  obtain ⟨sub, hheld⟩ := hfund
  simp only at hnonneg htc htoken
  have hpre := hheld.pre_pos
  have hsplit := hheld.split
  have hextra := hheld.extra_nonneg
  have hpos : 0 < s.preConsumedQuota := by omega
  have hneeds : s.needsRefund = true := by
    obtain ⟨h₁, h₂, h₃⟩ := hun
    simp only at h₁ h₂ h₃
    simp [needsRefund, h₁, h₂, h₃, htc, hpos]
  obtain ⟨l₁, hrefund, hwallet₁, htoken₁, hsubs₁⟩ := hheld.refund
  -- the extra reservation comes off the same row
  have hadjust : (if 0 < s.extraReserved ∧ (FundingSource.subscription f).source = .subscription ∧
        0 < s.relayInfo.subscriptionId then
        (SubscriptionFunding.adjust l₁ s.relayInfo.subscriptionId (-s.extraReserved) true).1
      else l₁) = l₁.setSubs base.subscription.subs := by
    have hbase : base.subscription.subs.save (sub.use 0) = base.subscription.subs := by
      rw [UserSubscription.use_zero]
      exact save_of_find hheld.stored
    by_cases hex : 0 < s.extraReserved
    · have hzero : s.preConsumedQuota + -f.preConsumed + -s.extraReserved = 0 := by omega
      have hcond : 0 < s.extraReserved ∧ (FundingSource.subscription f).source = .subscription ∧
          0 < s.relayInfo.subscriptionId :=
        ⟨hex, rfl, by rw [hheld.info_id]; exact hheld.valid.1⟩
      rw [if_pos hcond, hheld.info_id, adjust_charged hheld.stored hheld.valid hsubs₁
        (by rw [hzero]) fun ht => ?_, hzero, hbase]
      have := hheld.fits ht
      omega
    · have hzero : s.preConsumedQuota + -f.preConsumed = 0 := by omega
      rw [if_neg fun hc => hex hc.1, ← hbase, ← hzero, ← hsubs₁, Ledger.setSubs_self]
  have hrun : s.refundJob.run l .allOk = { l₁.setSubs base.subscription.subs with
      token := l₁.token + tokenShare s.relayInfo.isPlayground s.preConsumedQuota } := by
    simp only [RefundJob.run, refundJob, hf, FundingSource.refund, RefundJobReplies.allOk, hrefund,
      htc, hadjust]
    exact increaseTokenQuota_share hpos
  simp only [refundNow, hun.refund_of_needsRefund hneeds, hrun, Restored, Ledger.setSubs_wallet,
    Ledger.setSubs_subs, hwallet₁, and_true]
  exact ⟨hheld.wallet_eq, by omega⟩

/-- **What `Refund` restores.** From every state of a running session, the refund brings all
balances back exactly if the wallet remembers the whole charge. -/
theorem refund_restores_iff_remembers {x : BillingSession × Ledger} (h : Running base x) :
    Restored base (refundNow x) ↔ Remembers x.1 := by
  obtain ⟨s, l⟩ := x
  cases hf : s.funding with
  | wallet w =>
    rw [refund_restores_wallet_iff h hf]
    simp [Remembers, hf]
  | subscription f =>
    have hrem : Remembers s := fun w hw => by rw [show s.funding = _ from hf] at hw; cases hw
    exact iff_of_true (refund_restores_subscription h hf) hrem

end

/-! ### Histories of `Reserve` before a refund -/

section

variable {base l : Ledger} {s : BillingSession} {calls : List ReserveCall}

theorem Running.history {x : BillingSession × Ledger} (h : Running base x)
    (hroll : ∀ c ∈ calls, c.replies.rollback = true) : Running base (run reserveStep x calls) :=
  run_induction (fun _ _ hx hc => hx.reserve hc) h (along_of_forall_mem hroll)

theorem along_not_overwrites {x : BillingSession × Ledger} (h : Running base x)
    (hroll : ∀ c ∈ calls, c.replies.rollback = true)
    (hrem : Remembers (run reserveStep x calls).1) :
    Remembers x.1 ∧ Along reserveStep (fun x c => ¬ Overwrites x c) x calls := by
  induction calls generalizing x with
  | nil => exact ⟨hrem, trivial⟩
  | cons c calls ih =>
    have hc := hroll c List.mem_cons_self
    obtain ⟨hrem', halong⟩ := ih (h.reserve hc)
      (fun c' hc' => hroll c' (List.mem_cons_of_mem _ hc')) hrem
    obtain ⟨hrem₀, hkeep⟩ := Remembers.of_reserve h hc hrem'
    exact ⟨hrem₀, hkeep, halong⟩

/-- **Refund after any history of reservations.** Let `calls` be any `Reserve` calls on an opened
session, each succeeding or failing at either step. The following `Refund` brings both balances
back to their values before the session and every failed call left everything as it was, exactly
if no reservation of an image request passed the wallet step while a charge was held. -/
theorem refund_restores_iff (h : Opens base s l) (hroll : ∀ c ∈ calls, c.replies.rollback = true) :
    (Restored base (refundNow (run reserveStep (s, l) calls)) ∧
        Along reserveStep ErrorLeavesState (s, l) calls) ↔
      Along reserveStep (fun x c => ¬ Overwrites x c) (s, l) calls := by
  obtain ⟨hrunning, hrem⟩ := h.running
  have hend := hrunning.history hroll
  rw [refund_restores_iff_remembers hend]
  constructor
  · rintro ⟨hremEnd, -⟩
    exact (along_not_overwrites hrunning hroll hremEnd).2
  intro hkeep
  have hP : Along reserveStep (fun x c => c.replies.rollback = true ∧ ¬ Overwrites x c)
      (s, l) calls := along_and.mpr ⟨along_of_forall_mem hroll, hkeep⟩
  have hstep : ∀ x c, Running base x ∧ Remembers x.1 →
      c.replies.rollback = true ∧ ¬ Overwrites x c →
      Running base (reserveStep x c) ∧ Remembers (reserveStep x c).1 := fun x c hx hc =>
    ⟨hx.1.reserve hc.1, (Remembers.reserve hx.1 hc.1 hx.2 hc.2).1⟩
  exact ⟨(run_induction hstep ⟨hrunning, hrem⟩ hP).2,
    along_of_invariant hstep (fun x c hx hc => (Remembers.reserve hx.1 hc.1 hx.2 hc.2).2)
      ⟨hrunning, hrem⟩ hP⟩

end

/-! Fixed inputs: a wallet and a token of `100` each and a request that pre-consumes `10`. -/

def freshRelayInfo (image : Bool) : RelayInfo :=
  ⟨"req-1", 1, false, image, 0, false, false, 100, 0, none, 0, 0, 0, 0, 0, 0, ""⟩

def emptyStore : SubscriptionStore := ⟨⟨[], List.nodup_nil⟩, ⟨[], List.nodup_nil⟩⟩

def PreConsumeEnv.allOk : PreConsumeEnv :=
  ⟨0, 100, .ok, ⟨.ok, ⟨0, true, true, true, fun _ => .keep, .ok, true⟩, none⟩, true, none⟩

def openedWallet (image : Bool) : BillingSession × Ledger :=
  ((walletSession (freshRelayInfo image)).preConsume ⟨100, 100, emptyStore⟩ 10
    PreConsumeEnv.allOk).1

theorem openedWallet_opens (image : Bool) :
    Opens ⟨100, 100, emptyStore⟩ (openedWallet image).1 (openedWallet image).2 := by
  refine .wallet (freshRelayInfo image) 10 PreConsumeEnv.allOk (by decide) ?_
  cases image <;> rfl

/-- A text request: one reservation succeeds, one fails at the token, and the refund restores both
balances. -/
theorem refund_restores_text_request :
    Restored ⟨100, 100, emptyStore⟩ (refundNow (run reserveStep (openedWallet false)
      [⟨30, 0, ⟨.ok, .ok, true⟩⟩, ⟨50, 0, ⟨.ok, .refused, true⟩⟩])) :=
  ((refund_restores_iff (openedWallet_opens false) (by decide)).mpr (by decide)).1

/-- An image request that reserves `20` more after a charge of `10` gets back only the `20`: the
wallet ends at `90`. A second one whose token step fails forgets the charge of `10` as well. -/
theorem refund_short_image_request :
    Opens ⟨100, 100, emptyStore⟩ (openedWallet true).1 (openedWallet true).2 ∧
      (refundNow (run reserveStep (openedWallet true) [⟨30, 0, ⟨.ok, .ok, true⟩⟩])).wallet = 90 ∧
      ¬ ErrorLeavesState (openedWallet true) ⟨30, 0, ⟨.ok, .refused, true⟩⟩ ∧
      (refundNow (run reserveStep (openedWallet true)
        [⟨30, 0, ⟨.ok, .refused, true⟩⟩])).wallet = 90 :=
  ⟨openedWallet_opens true, by decide, by decide, by decide⟩

end NewApi.Service
