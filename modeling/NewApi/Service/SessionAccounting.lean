import NewApi.Foundation.Run
import NewApi.Service.BillingSession

/-!
# What a billing session holds

The balances of a session measured against the ledger it started from. `Open base s l` relates the
counters of an unresolved session to what is missing from the funding source and from the token;
`preConsume` establishes it and every `Reserve` keeps it.
-/

namespace NewApi.Service

open Model BillingSession Table

/-! ### Balances against a base -/

def tokenShare (isPlayground : Bool) (quota : Int) : Int := if isPlayground then 0 else quota

/-- Against `base`, `quota` is missing from the funding source `f` and `tokenQuota` from the
token; every other balance is the one of `base`. -/
def Taken (base : Ledger) (f : FundingSource) (quota tokenQuota : Int) (l : Ledger) : Prop :=
  l.token = base.token - tokenQuota ∧
    match f with
    | .wallet _ => l.wallet = base.wallet - quota ∧ l.subscription.subs = base.subscription.subs
    | .subscription s => l.wallet = base.wallet ∧
      ∃ sub, base.subscription.subs.find s.subscriptionId = some sub ∧
        l.subscription.subs = base.subscription.subs.save (sub.use quota)

def Restored (base l : Ledger) : Prop :=
  l.wallet = base.wallet ∧ l.token = base.token ∧ l.subscription.subs = base.subscription.subs
  deriving Decidable

/-! ### Sessions that have been opened -/

/-- `Opens base s l`: the program has opened the session `s`, which left the ledger `l`. `base` is
the ledger before, with the subscription resets that were due. The amount is not negative, the
request id of a subscription charge is new, and the stored subscriptions are valid. -/
inductive Opens : Ledger → BillingSession → Ledger → Prop
  | wallet {base l : Ledger} {s : BillingSession} (info : RelayInfo) (quota : Int)
      (env : PreConsumeEnv) (hquota : 0 ≤ quota)
      (h : (walletSession info).preConsume base quota env = ((s, l), none)) : Opens base s l
  | subscription {l₀ l : Ledger} {s : BillingSession} (info : RelayInfo) (quota : Int)
      (env : PreConsumeEnv) (hquota : 0 < quota)
      (hvalid : ∀ sub ∈ l₀.subscription.subs.rows, sub.Valid)
      (hfresh : l₀.subscription.records.find info.requestId = none)
      (hcreate : ∀ dup, env.funding.subscription.create ≠ .duplicate dup)
      {subs : SubTable} {sub : UserSubscription}
      (hsel : selectSubscription env.funding.subscription.reset quota l₀.subscription.subs
        (activeSubscriptions l₀.subscription.subs info.userId env.funding.subscription.now) =
          .ok (subs, some sub))
      (h : (subscriptionSession info quota).preConsume l₀ quota env = ((s, l), none)) :
      Opens (l₀.setSubs subs) s l

/-- The charge on a subscription: the row, its usage, and the record to refund it by. -/
structure SubscriptionHeld (base : Ledger) (s : BillingSession) (f : SubscriptionFunding)
    (l : Ledger) (sub : UserSubscription) : Prop where
  stored : base.subscription.subs.find sub.id = some sub
  valid : sub.Valid
  id_eq : f.subscriptionId = sub.id
  info_id : s.relayInfo.subscriptionId = sub.id
  wallet_eq : l.wallet = base.wallet
  subs_eq : l.subscription.subs = base.subscription.subs.save (sub.use s.preConsumedQuota)
  fits : 0 < sub.amountTotal → sub.amountUsed + s.preConsumedQuota ≤ sub.amountTotal
  pre_pos : 0 < f.preConsumed
  extra_nonneg : 0 ≤ s.extraReserved
  split : f.preConsumed + s.extraReserved = s.preConsumedQuota
  request : GoText.isBlank f.requestId = false
  record : l.subscription.records.find f.requestId =
    some ⟨f.requestId, f.userId, sub.id, f.preConsumed, .consumed⟩

/-- **The invariant of an unresolved session.** The token and the funding source each miss exactly
`preConsumedQuota`. -/
structure Open (base : Ledger) (s : BillingSession) (l : Ledger) : Prop where
  nonneg : 0 ≤ s.preConsumedQuota
  tokenConsumed_eq : s.tokenConsumed = s.preConsumedQuota
  token_eq : l.token = base.token - tokenShare s.relayInfo.isPlayground s.preConsumedQuota
  funding : match s.funding with
    | .wallet _ => l.wallet = base.wallet - s.preConsumedQuota ∧
        l.subscription.subs = base.subscription.subs
    | .subscription f => ∃ sub, SubscriptionHeld base s f l sub

def Unresolved (s : BillingSession) : Prop :=
  s.settled = false ∧ s.refunded = false ∧ s.fundingSettled = false
  deriving Decidable

variable {s s₀ : BillingSession} {l base l' : Ledger} {delta quota : Int} {sub : UserSubscription}
  {ans : ReserveReply} {isPlayground : Bool} {w : WalletFunding} {env : PreConsumeEnv}
  {f f' : FundingSource} {e : NewAPIError}

theorem Open.taken (h : Open base s l) : Taken base s.funding s.preConsumedQuota
      (tokenShare s.relayInfo.isPlayground s.preConsumedQuota) l := by
  obtain ⟨-, -, htoken, hfund⟩ := h
  refine ⟨htoken, ?_⟩
  cases hf : s.funding with
  | wallet w => simpa only [hf] using hfund
  | subscription f =>
    simp only [hf] at hfund
    obtain ⟨sub, hsub⟩ := hfund
    exact ⟨hsub.wallet_eq, sub, by rw [hsub.id_eq]; exact hsub.stored, hsub.subs_eq⟩

/-! ### Adjusting a charged subscription -/

variable {q : Int}

section

variable (hstored : base.subscription.subs.find sub.id = some sub) (hvalid : sub.Valid)
  (hsubs : l.subscription.subs = base.subscription.subs.save (sub.use q))
include hstored hvalid hsubs

theorem adjust_charged (hlow : 0 ≤ q + delta)
    (hfits : 0 < sub.amountTotal → sub.amountUsed + (q + delta) ≤ sub.amountTotal) :
    SubscriptionFunding.adjust l sub.id delta true =
      (l.setSubs (base.subscription.subs.save (sub.use (q + delta))), none) := by
  have hfind : l.subscription.subs.find (sub.use q).id = some (sub.use q) := by
    rw [hsubs]
    exact find_save (mem_keys_of_find hstored)
  have hused : (sub.use q).amountUsed = sub.amountUsed + q := rfl
  have htotal : (sub.use q).amountTotal = sub.amountTotal := rfl
  have hpos : 0 ≤ sub.amountUsed := hvalid.2
  have hpost : postConsumeUserSubscriptionDelta l.subscription.subs sub.id delta true =
      .ok (l.subscription.subs.save ((sub.use q).use delta)) := by
    refine postConsume_of_inRange hfind hvalid.1 (by rw [hused]; omega) fun ht => ?_
    omega
  have hsave : l.subscription.subs.save ((sub.use q).use delta) =
      base.subscription.subs.save (sub.use (q + delta)) := by
    rw [UserSubscription.use_use, hsubs]
    exact save_save _ rfl
  simp only [SubscriptionFunding.adjust, hpost, hsave]

theorem adjust_charged_ok {dbOk : Bool}
    (hfits : 0 < sub.amountTotal → sub.amountUsed + q ≤ sub.amountTotal) (hlow : 0 ≤ q + delta)
    (h : SubscriptionFunding.adjust l sub.id delta dbOk = (l', none)) :
    l' = l.setSubs (base.subscription.subs.save (sub.use (q + delta))) ∧
      (0 < sub.amountTotal → sub.amountUsed + (q + delta) ≤ sub.amountTotal) := by
  have hfind : l.subscription.subs.find sub.id = some (sub.use q) := by
    rw [hsubs]
    exact find_save (mem_keys_of_find hstored)
  have hpos : 0 ≤ sub.amountUsed := hvalid.2
  simp only [SubscriptionFunding.adjust] at h
  split at h
  · cases h
  rename_i subs hpost
  cases h
  obtain ⟨-, ⟨rfl, rfl⟩ | ⟨row, hrow, hroom, rfl⟩⟩ := postConsume_ok hpost
  · rw [add_zero, ← hsubs]
    exact ⟨rfl, hfits⟩
  rw [hfind] at hrow
  cases hrow
  have hmax : max (sub.amountUsed + q + delta) 0 = sub.amountUsed + (q + delta) := by omega
  simp only [UserSubscription.use, hmax] at hroom ⊢
  refine ⟨?_, hroom⟩
  rw [hsubs, save_save]
  rfl

theorem adjust_undo
    (hlow : 0 ≤ q) (hfits : 0 < sub.amountTotal → sub.amountUsed + q ≤ sub.amountTotal) :
    (SubscriptionFunding.adjust (l.setSubs (base.subscription.subs.save (sub.use (q + delta))))
      sub.id (-delta) true).1 = l := by
  have hq : q + delta + -delta = q := by omega
  rw [adjust_charged hstored hvalid (Ledger.setSubs_subs _ _) (by rw [hq]; exact hlow)
    (by rw [hq]; exact hfits), hq, Ledger.setSubs_setSubs, ← hsubs, Ledger.setSubs_self]

end

theorem adjust_error {id : Int} {dbOk : Bool} {e : FundingError}
    (h : SubscriptionFunding.adjust l id delta dbOk = (l', some e)) : l' = l := by
  simp only [SubscriptionFunding.adjust] at h
  split at h <;> cases h
  rfl

/-! ### Opening -/

theorem preConsumeTokenQuota_ok (h : preConsumeTokenQuota isPlayground l quota ans = (l', none)) :
    l' = { l with token := l.token - tokenShare isPlayground quota } := by
  simp only [preConsumeTokenQuota] at h
  split_ifs at h with h₁ h₂ h₃
  · cases h
  · cases h
    simp [tokenShare, h₂]
  · cases h
    simp [tokenShare, h₃]
  · cases ans <;> cases h
    simp [tokenShare, h₂]

theorem WalletFunding.preConsume_ok {w' : WalletFunding} {amount : Int}
    (h : w.preConsume l amount ans = ((w', l'), none)) :
    amount ≤ 0 ∧ w' = w ∧ l' = l ∨
      0 < amount ∧ w' = ⟨amount⟩ ∧ l' = { l with wallet := l.wallet - amount } := by
  simp only [WalletFunding.preConsume] at h
  split_ifs at h with hamount
  · cases h
    exact .inl ⟨hamount, rfl, rfl⟩
  · cases ans <;> cases h
    exact .inr ⟨by omega, rfl, rfl⟩

def opened (s : BillingSession) (f : FundingSource) (quota : Int) : BillingSession :=
  syncRelayInfo { s with
    tokenConsumed := if 0 < quota then quota else s.tokenConsumed
    funding := f
    preConsumedQuota := quota }

variable {l₀ : Ledger}

theorem preConsumeSteps_ok (hquota : 0 ≤ quota)
    (h : s₀.preConsumeSteps l₀ quota env = ((s, l), none)) :
    ∃ f, s₀.funding.preConsume
        { l₀ with token := l₀.token - tokenShare s₀.relayInfo.isPlayground quota } quota
        env.funding = ((f, l), none) ∧ s = opened s₀ f quota := by
  by_cases hpos : 0 < quota
  · simp only [preConsumeSteps, if_pos hpos] at h
    split at h
    · cases h
    rename_i l₁ htoken
    obtain rfl := preConsumeTokenQuota_ok htoken
    split at h
    · split_ifs at h <;> cases h
    next f l' hf =>
      cases h
      exact ⟨f, hf, by simp [opened, hpos]⟩
  · obtain rfl : quota = 0 := by omega
    simp only [preConsumeSteps, lt_irrefl, if_false] at h
    split at h
    · split_ifs at h <;> cases h
    rename_i f l' hf
    cases h
    refine ⟨f, ?_, by simp [opened]⟩
    simpa [tokenShare] using hf

theorem preConsume_eq_steps (h : s₀.preConsume l₀ quota env = ((s, l), none)) :
    (∃ w, s₀.funding = .wallet w) ∧
        preConsumeSteps { s₀ with trusted := true } l₀ 0 env = ((s, l), none) ∨
      s₀.preConsumeSteps l₀ quota env = ((s, l), none) := by
  simp only [preConsume] at h
  split_ifs at h with htrust
  · refine .inl ⟨?_, h⟩
    -- a subscription is never trusted
    cases hf : s₀.funding with
    | wallet w => exact ⟨w, rfl⟩
    | subscription f => simp [shouldTrust, FundingSource.source, hf] at htrust
  · exact .inr h

structure Untouched (s : BillingSession) : Prop where
  tokenConsumed : s.tokenConsumed = 0
  extraReserved : s.extraReserved = 0
  unresolved : Unresolved s

theorem Unresolved.opened (h : Unresolved s) (f : FundingSource) (quota : Int) :
    Unresolved (opened s f quota) := by
  simpa [Unresolved, Service.opened] using h

theorem preConsume_wallet_fresh {amount : Int} {r : PreConsumeFundingReplies} (hamount : 0 ≤ amount)
    (h : (FundingSource.wallet ⟨0⟩).preConsume l amount r = ((f, l'), none)) :
    f = .wallet ⟨amount⟩ ∧ l' = { l with wallet := l.wallet - amount } := by
  simp only [FundingSource.preConsume, Prod.mk.injEq] at h
  obtain ⟨⟨rfl, rfl⟩, hnone⟩ := h
  rcases WalletFunding.preConsume_ok (Prod.ext rfl hnone) with ⟨hle, hw, hl⟩ | ⟨-, hw, hl⟩
  · obtain rfl : amount = 0 := by omega
    rw [hl]
    exact ⟨rfl, by simp⟩
  · rw [hw, hl]
    exact ⟨rfl, rfl⟩

theorem open_of_wallet (hs₀ : Untouched s₀) (hf₀ : s₀.funding = .wallet ⟨0⟩) (hquota : 0 ≤ quota)
    (h : s₀.preConsumeSteps base quota env = ((s, l), none)) :
    Open base s l ∧ Unresolved s ∧ s.funding = .wallet ⟨s.preConsumedQuota⟩ := by
  obtain ⟨f, hf, rfl⟩ := preConsumeSteps_ok hquota h
  rw [hf₀] at hf
  obtain ⟨rfl, rfl⟩ := preConsume_wallet_fresh hquota hf
  have htoken : (if 0 < quota then quota else s₀.tokenConsumed) = quota := by
    split_ifs
    · rfl
    · rw [hs₀.tokenConsumed]
      omega
  refine ⟨⟨?_, ?_, ?_, ?_⟩, hs₀.unresolved.opened _ _, ?_⟩
  · simpa [opened] using hquota
  · simpa [opened] using htoken
  all_goals simp [opened]

theorem open_of_subscription {info : RelayInfo} (hquota : 0 < quota)
    (hvalid : ∀ sub ∈ l₀.subscription.subs.rows, sub.Valid)
    (hfresh : l₀.subscription.records.find info.requestId = none)
    (hcreate : ∀ dup, env.funding.subscription.create ≠ .duplicate dup)
    {subs : SubTable}
    (hsel : selectSubscription env.funding.subscription.reset quota l₀.subscription.subs
      (activeSubscriptions l₀.subscription.subs info.userId env.funding.subscription.now) =
        .ok (subs, some sub))
    (h : (subscriptionSession info quota).preConsumeSteps l₀ quota env = ((s, l), none)) :
    Open (l₀.setSubs subs) s l ∧ Unresolved s ∧ ∃ f, s.funding = .subscription f := by
  obtain ⟨f, hf, rfl⟩ := preConsumeSteps_ok hquota.le h
  simp only [subscriptionSession, FundingSource.preConsume, SubscriptionFunding.preConsume] at hf
  split at hf
  · cases hf
  rename_i res st hpre
  obtain ⟨subs', sub', hsel', hfind, hroom, hv, hreq, -, rfl, rfl⟩ :=
    preConsume_fresh hvalid hfresh hcreate hpre
  rw [hsel] at hsel'
  cases hsel'
  cases hf
  refine ⟨⟨?_, ?_, ?_, ?_⟩, ?_, ?_⟩
  · simpa [opened] using hquota.le
  · simp [opened, hquota]
  · simp [opened, subscriptionSession]
  · simp only [opened]
    exact ⟨sub,
      { stored := hfind
        valid := hv
        id_eq := by simp
        info_id := by rw [syncRelayInfo_subscriptionId _ rfl]; simp
        wallet_eq := rfl
        subs_eq := by simp
        fits := fun ht => by
          simp only [syncRelayInfo_unchanged]
          by_contra hlt
          exact hroom ⟨ht, by omega⟩
        pre_pos := by simpa using hquota
        extra_nonneg := by simp [subscriptionSession]
        split := by simp [subscriptionSession]
        request := by simpa using hreq
        record := by
          simp only [SubscriptionFunding.withPlan_unchanged]
          exact find_insert hfresh }⟩
  · exact Unresolved.opened ⟨rfl, rfl, rfl⟩ _ _
  · exact ⟨_, (syncRelayInfo_unchanged _).1⟩

/-- **An opened session is open.** Its funding source and its token miss exactly what it says it
has pre-consumed, and the wallet remembers the whole charge. -/
theorem Opens.isOpen (h : Opens base s l) : Open base s l ∧ Unresolved s ∧
      ((∃ f, s.funding = .subscription f) ∨ s.funding = .wallet ⟨s.preConsumedQuota⟩) := by
  cases h with
  | wallet info quota env hquota h =>
    rcases preConsume_eq_steps h with ⟨-, hsteps⟩ | hsteps
    · obtain ⟨hopen, hun, hf⟩ := open_of_wallet ⟨rfl, rfl, rfl, rfl, rfl⟩ rfl le_rfl hsteps
      exact ⟨hopen, hun, .inr hf⟩
    · obtain ⟨hopen, hun, hf⟩ := open_of_wallet ⟨rfl, rfl, rfl, rfl, rfl⟩ rfl hquota hsteps
      exact ⟨hopen, hun, .inr hf⟩
  | subscription info quota env hquota hvalid hfresh hcreate hsel h =>
    rcases preConsume_eq_steps h with ⟨⟨w, hw⟩, -⟩ | hsteps
    · cases hw
    · obtain ⟨hopen, hun, hf⟩ := open_of_subscription hquota hvalid hfresh hcreate hsel hsteps
      exact ⟨hopen, hun, .inl hf⟩

/-! ### Every session of the program is opened this way -/

section

variable {info info' : RelayInfo} {l l' : Ledger} {quota : Int} {env : PreConsumeEnv}

theorem preConsumeTokenQuota_error {e : TokenError}
    (h : preConsumeTokenQuota isPlayground l quota ans = (l', some e)) : l' = l := by
  simp only [preConsumeTokenQuota] at h
  split_ifs at h <;> first | (cases h; rfl) | (cases ans <;> cases h <;> rfl)

theorem FundingSource.preConsume_error {r : PreConsumeFundingReplies} {e : FundingError}
    (h : f.preConsume l quota r = ((f', l'), some e)) : f' = f ∧ l' = l := by
  cases f with
  | wallet w =>
    simp only [FundingSource.preConsume, WalletFunding.preConsume] at h
    split_ifs at h
    · cases h
    · cases hr : r.wallet <;> rw [hr] at h <;> cases h <;> exact ⟨rfl, rfl⟩
  | subscription s =>
    simp only [FundingSource.preConsume, SubscriptionFunding.preConsume] at h
    split at h <;> cases h
    exact ⟨rfl, rfl⟩

theorem preConsumeSteps_error {s₀ s : BillingSession} {e : NewAPIError} (hquota : 0 ≤ quota)
    (hs₀ : s₀.tokenConsumed = 0) (hroll : env.rollback = true)
    (h : s₀.preConsumeSteps l quota env = ((s, l'), some e)) :
    l' = l ∧ s.relayInfo = s₀.relayInfo := by
  by_cases hpos : 0 < quota
  · have hneg : ¬ quota < 0 := by omega
    simp only [preConsumeSteps, if_pos hpos] at h
    split at h
    next l₁ e₁ htoken =>
      cases h
      exact ⟨preConsumeTokenQuota_error htoken, rfl⟩
    rename_i l₁ htoken
    obtain rfl := preConsumeTokenQuota_ok htoken
    split at h
    next f₁ l₂ e₁ hf =>
      obtain ⟨-, rfl⟩ := FundingSource.preConsume_error hf
      split_ifs at h with hback
      · cases h
        simp [increaseTokenQuota, hroll, hneg, tokenShare, hback.2]
      · cases h
        have hplay : s₀.relayInfo.isPlayground = true := by simpa [hpos] using hback
        simp [tokenShare, hplay]
    · cases h
  · obtain rfl : quota = 0 := by omega
    simp only [preConsumeSteps, lt_irrefl, if_false, hs₀] at h
    split at h
    next f₁ l₂ e₁ hf =>
      obtain ⟨-, rfl⟩ := FundingSource.preConsume_error hf
      cases h
      exact ⟨rfl, rfl⟩
    · cases h

theorem preConsume_error (hquota : 0 ≤ quota) (hs₀ : s₀.tokenConsumed = 0)
    (hroll : env.rollback = true) (h : s₀.preConsume l quota env = ((s, l'), some e)) :
    l' = l ∧ s.relayInfo = s₀.relayInfo := by
  simp only [preConsume] at h
  split_ifs at h
  · exact @preConsumeSteps_error l l' 0 env { s₀ with trusted := true } s e le_rfl hs₀ hroll h
  · exact preConsumeSteps_error hquota hs₀ hroll h

theorem openSession_ok (h : openSession s₀ l quota env = .ok (s, l')) :
    s₀.preConsume l quota env = ((s, l'), none) := by
  simp only [openSession] at h
  split at h
  next heq =>
    cases h
    exact heq
  · cases h

theorem openSession_error (hquota : 0 ≤ quota) (hs₀ : s₀.tokenConsumed = 0)
    (hroll : env.rollback = true) (h : openSession s₀ l quota env = .error (e, info', l')) :
    l' = l ∧ info' = s₀.relayInfo := by
  simp only [openSession] at h
  split at h
  · cases h
  next heq =>
    cases h
    exact preConsume_error hquota hs₀ hroll heq

theorem tryWallet_opens {userQuota : Option Int} (hquota : 0 ≤ quota)
    (h : tryWallet info l quota userQuota env = .ok (s, l')) : Opens l s l' := by
  simp only [tryWallet] at h
  split at h
  · cases h
  · split_ifs at h
    exact .wallet _ quota env hquota (openSession_ok h)

theorem tryWallet_error {userQuota : Option Int} (hquota : 0 ≤ quota) (hroll : env.rollback = true)
    (h : tryWallet info l quota userQuota env = .error (e, info', l')) :
    l' = l ∧ ∃ q, info' = { info with userQuota := q } := by
  simp only [tryWallet] at h
  split at h
  · cases h
    exact ⟨rfl, info.userQuota, rfl⟩
  split_ifs at h
  · cases h
    exact ⟨rfl, info.userQuota, rfl⟩
  · cases h
    exact ⟨rfl, info.userQuota, rfl⟩
  · obtain ⟨hl, hinfo⟩ := openSession_error hquota rfl hroll h
    exact ⟨hl, _, hinfo⟩

/-- What a request may rely on when it is charged to a subscription: its id is new, and the stored
subscriptions are valid. -/
structure NewRequest (info : RelayInfo) (l : Ledger) (env : PreConsumeEnv) : Prop where
  valid : ∀ sub ∈ l.subscription.subs.rows, sub.Valid
  fresh : l.subscription.records.find info.requestId = none
  create : ∀ dup, env.funding.subscription.create ≠ .duplicate dup

theorem trySubscription_opens (hnew : NewRequest info l env)
    (h : trySubscription info l quota env = .ok (s, l')) :
    ∃ subs, ResetsTo l.subscription.subs subs ∧ Opens (l.setSubs subs) s l' := by
  simp only [trySubscription] at h
  have hpos : 0 < if quota ≤ 0 then 1 else quota := by split_ifs <;> omega
  generalize (if quota ≤ 0 then 1 else quota) = q at h hpos
  have hpre := openSession_ok h
  rcases preConsume_eq_steps hpre with ⟨⟨w, hw⟩, -⟩ | hsteps
  · cases hw
  obtain ⟨f, hf, -⟩ := preConsumeSteps_ok hpos.le hsteps
  simp only [subscriptionSession, FundingSource.preConsume, SubscriptionFunding.preConsume] at hf
  split at hf
  · cases hf
  rename_i res st hsub
  obtain ⟨subs, sub, hsel, -⟩ := preConsume_fresh hnew.valid hnew.fresh hnew.create hsub
  refine ⟨subs, ?_, .subscription info q env hpos hnew.valid hnew.fresh hnew.create hsel hpre⟩
  exact selectSubscription_resetsTo (fun c hc => find_of_mem (mem_of_mem_activeSubscriptions hc))
    (nodup_activeSubscriptions _ _ _) hsel

theorem trySubscription_error (hroll : env.rollback = true)
    (h : trySubscription info l quota env = .error (e, info', l')) : l' = l ∧ info' = info := by
  have hpos : 0 ≤ if quota ≤ 0 then 1 else quota := by split_ifs <;> omega
  exact openSession_error hpos rfl hroll h

/-- **Every session is opened.** A session that `NewBillingSession` returns, whatever the billing
preference and the attempts that failed before, has been opened on the ledger it was called with, up
to the subscription resets that were due. -/
theorem newBillingSession_opens {pref : String} {nenv : NewSessionEnv} (hquota : 0 ≤ quota)
    (hwallet : nenv.wallet.rollback = true) (hsub : nenv.subscription.rollback = true)
    (hnew : ∀ info', info'.requestId = info.requestId → NewRequest info' l nenv.subscription)
    (h : newBillingSession info l pref quota nenv = .ok (s, l')) :
    ∃ subs, ResetsTo l.subscription.subs subs ∧ Opens (l.setSubs subs) s l' := by
  have hself (hopen : Opens l s l') :
      ∃ subs, ResetsTo l.subscription.subs subs ∧ Opens (l.setSubs subs) s l' :=
    ⟨l.subscription.subs, .refl _, by rw [Ledger.setSubs_self]; exact hopen⟩
  revert h
  fun_cases newBillingSession info l pref quota nenv with
  | case1 => exact trySubscription_opens (hnew info rfl)
  | case2 | case7 => exact fun h => hself (tryWallet_opens hquota h)
  | case3 _ x hx =>
    rintro ⟨⟩
    exact hself (tryWallet_opens hquota hx)
  | case4 _ e info₁ l₁ hx =>
    obtain ⟨rfl, q, rfl⟩ := tryWallet_error hquota hwallet hx
    exact trySubscription_opens (hnew { info with userQuota := q } rfl)
  | case8 _ _ x hx =>
    rintro ⟨⟩
    exact trySubscription_opens (hnew info rfl) hx
  | case10 _ _ e info₁ l₁ hx =>
    -- the wallet is tried only when the subscriptions allow it
    obtain ⟨rfl, rfl⟩ := trySubscription_error hsub hx
    exact fun h => hself (tryWallet_opens hquota h)
  | _ => rintro ⟨⟩

/-- **No session, no charge.** A call of `NewBillingSession` that fails leaves the ledger and, but
for the quota of the user, the relay info. -/
theorem newBillingSession_error {pref : String} {nenv : NewSessionEnv} (hquota : 0 ≤ quota)
    (hwallet : nenv.wallet.rollback = true) (hsub : nenv.subscription.rollback = true)
    (h : newBillingSession info l pref quota nenv = .error (e, info', l')) :
    l' = l ∧ ∃ q, info' = { info with userQuota := q } := by
  revert h
  fun_cases newBillingSession info l pref quota nenv with
  | case1 =>
    intro h
    obtain ⟨rfl, rfl⟩ := trySubscription_error hsub h
    exact ⟨rfl, info'.userQuota, rfl⟩
  | case4 _ e info₁ l₁ hx =>
    intro h
    obtain ⟨rfl, q, rfl⟩ := tryWallet_error hquota hwallet hx
    obtain ⟨rfl, rfl⟩ := trySubscription_error hsub h
    exact ⟨rfl, q, rfl⟩
  | case5 _ e info₁ l₁ hx =>
    rintro ⟨⟩
    exact tryWallet_error hquota hwallet hx
  | case6 =>
    rintro ⟨⟩
    exact ⟨rfl, info.userQuota, rfl⟩
  | case9 _ _ e info₁ l₁ hx | case11 _ _ e info₁ l₁ hx | case12 _ _ e info₁ l₁ hx =>
    rintro ⟨⟩
    obtain ⟨rfl, rfl⟩ := trySubscription_error hsub hx
    exact ⟨rfl, _, rfl⟩
  | case10 _ _ e info₁ l₁ hx =>
    obtain ⟨rfl, rfl⟩ := trySubscription_error hsub hx
    exact tryWallet_error hquota hwallet
  | case3 | case8 => rintro ⟨⟩
  | _ => exact tryWallet_error hquota hwallet

end

/-! ### Reserving -/

/-- The funding source after a reservation of `delta`. For an image request on the wallet the new
amount replaces the one remembered so far. -/
def reservedFunding (image : Bool) (delta : Int) : FundingSource → FundingSource
  | .wallet w => .wallet ⟨if image then delta else w.consumed + delta⟩
  | .subscription s => .subscription s

def releasedFunding (image : Bool) : FundingSource → FundingSource
  | .wallet w => .wallet ⟨if image then 0 else w.consumed⟩
  | .subscription s => .subscription s

variable {image : Bool}

theorem reserveFunding_error (hdelta : 0 < delta)
    (h : reserveFunding f l delta image ans = ((f', l'), some e)) :
    f' = f ∧ l' = l ∧ ((∃ w, f = .wallet w) → ans ≠ .ok) := by
  have hpos : ¬ delta ≤ 0 := by omega
  cases f with
  | wallet w =>
    cases image <;> cases ans <;>
      simp [reserveFunding, WalletFunding.preConsume, hpos] at h <;>
      obtain ⟨⟨rfl, rfl⟩, -⟩ := h <;> simp
  | subscription s =>
    simp only [reserveFunding] at h
    split at h
    next l₁ e₁ hadjust =>
      cases h
      exact ⟨rfl, adjust_error hadjust, by rintro ⟨w, hw⟩; cases hw⟩
    · cases h

theorem reserveFunding_wallet (hdelta : 0 < delta)
    (h : reserveFunding (.wallet w) l delta image ans = ((f', l'), none)) :
    f' = reservedFunding image delta (.wallet w) ∧
      l' = { l with wallet := l.wallet - delta } ∧ ans = .ok := by
  have hpos : ¬ delta ≤ 0 := by omega
  cases image <;> cases ans <;>
    simp [reserveFunding, WalletFunding.preConsume, hpos] at h <;>
    obtain ⟨rfl, rfl⟩ := h <;> exact ⟨rfl, rfl, rfl⟩

theorem reserveFunding_subscription {s : SubscriptionFunding}
    (h : reserveFunding (.subscription s) l delta image ans = ((f', l'), none)) :
    f' = .subscription s ∧
      SubscriptionFunding.adjust l s.subscriptionId delta (ans = .ok) = (l', none) := by
  simp only [reserveFunding] at h
  split at h
  · cases h
  next l₁ hadjust =>
    cases h
    exact ⟨rfl, hadjust⟩

theorem reserveToken_ok (hdelta : 0 < delta)
    (h : reserveToken isPlayground l delta ans = (l', none)) :
    l' = { l with token := l.token - tokenShare isPlayground delta } := by
  simp only [reserveToken] at h
  split_ifs at h with hskip
  · cases h
    rcases hskip with hle | hplay
    · omega
    · simp [tokenShare, hplay]
  · split at h
    · cases h
    next l₁ htoken =>
      cases h
      exact preConsumeTokenQuota_ok htoken

theorem reserveToken_error (h : reserveToken isPlayground l delta ans = (l', some e)) : l' = l := by
  simp only [reserveToken] at h
  split_ifs at h
  · cases h
  split at h
  next l₁ e' htoken =>
    cases h
    exact preConsumeTokenQuota_error htoken
  · cases h

theorem SubscriptionHeld.addReserved {f : SubscriptionFunding}
    (hheld : SubscriptionHeld base s f l sub) (hf : s.funding = .subscription f)
    (hdelta : 0 < delta) (hwallet : l'.wallet = l.wallet)
    (hsubs : l'.subscription.subs =
      base.subscription.subs.save (sub.use (s.preConsumedQuota + delta)))
    (hrecords : l'.subscription.records = l.subscription.records)
    (hfits : 0 < sub.amountTotal → sub.amountUsed + (s.preConsumedQuota + delta) ≤
      sub.amountTotal) :
    SubscriptionHeld base (s.addReserved delta) f l' sub where
  stored := hheld.stored
  valid := hheld.valid
  id_eq := hheld.id_eq
  info_id := (s.addReserved_subscriptionId delta hf).trans hheld.id_eq
  wallet_eq := hwallet.trans hheld.wallet_eq
  subs_eq := by simpa using hsubs
  fits := by simpa using hfits
  pre_pos := hheld.pre_pos
  extra_nonneg := by
    have := hheld.extra_nonneg
    simp
    omega
  split := by
    have := hheld.split
    simp
    omega
  request := hheld.request
  record := by rw [hrecords]; exact hheld.record

def afterReserve (s : BillingSession) (delta : Int) : BillingSession :=
  addReserved { s with funding := reservedFunding s.relayInfo.imageRequest delta s.funding } delta

def afterRollback (s : BillingSession) : BillingSession :=
  { s with funding := releasedFunding s.relayInfo.imageRequest s.funding }

@[simp] theorem afterReserve_funding (s : BillingSession) (delta : Int) :
    (afterReserve s delta).funding = reservedFunding s.relayInfo.imageRequest delta s.funding := by
  simp [afterReserve]

@[simp] theorem afterReserve_preConsumedQuota (s : BillingSession) (delta : Int) :
    (afterReserve s delta).preConsumedQuota = s.preConsumedQuota + delta := by
  simp [afterReserve]

theorem Unresolved.afterReserve (h : Unresolved s) (delta : Int) :
    Unresolved (afterReserve s delta) := by
  simpa [Unresolved, Service.afterReserve] using h

theorem Open.afterRollback (h : Open base s l) : Open base (afterRollback s) l := by
  obtain ⟨hnonneg, htc, htoken, hfund⟩ := h
  refine ⟨hnonneg, htc, htoken, ?_⟩
  cases hf : s.funding with
  | wallet w => simpa only [Service.afterRollback, hf, releasedFunding] using hfund
  | subscription f =>
    simp only [hf] at hfund
    obtain ⟨sub, hheld⟩ := hfund
    simp only [Service.afterRollback, hf, releasedFunding]
    exact ⟨sub, { hheld with }⟩

inductive ReserveOutcome (base : Ledger) (s : BillingSession) (l : Ledger) (targetQuota : Int)
    (r : ReserveReplies) : (BillingSession × Ledger) × Option NewAPIError → Prop
  | skipped (hskip : s.SkipsReserve targetQuota) :
      ReserveOutcome base s l targetQuota r ((s, l), none)
  /-- The funding step fails. -/
  | refused (e : NewAPIError) (hgo : ¬ s.SkipsReserve targetQuota)
      (hreply : (∃ w, s.funding = .wallet w) → r.funding ≠ .ok) :
      ReserveOutcome base s l targetQuota r ((s, l), some e)
  /-- The token step fails and the funding step is undone. -/
  | undone (e : NewAPIError) (hgo : ¬ s.SkipsReserve targetQuota)
      (hreply : (∃ w, s.funding = .wallet w) → r.funding = .ok) :
      ReserveOutcome base s l targetQuota r ((afterRollback s, l), some e)
  | done (l' : Ledger) (hgo : ¬ s.SkipsReserve targetQuota)
      (hreply : (∃ w, s.funding = .wallet w) → r.funding = .ok)
      (hopen : Open base (afterReserve s (targetQuota - s.preConsumedQuota)) l') :
      ReserveOutcome base s l targetQuota r
        ((afterReserve s (targetQuota - s.preConsumedQuota), l'), none)

theorem tokenShare_add (isPlayground : Bool) (a b : Int) :
    tokenShare isPlayground (a + b) = tokenShare isPlayground a + tokenShare isPlayground b := by
  cases isPlayground <;> simp [tokenShare]

variable {base l : Ledger} {s : BillingSession} {targetQuota : Int} {r : ReserveReplies}

theorem Open.afterReserve (h : Open base s l) (hdelta : 0 < delta)
    (htoken : l'.token = l.token - tokenShare s.relayInfo.isPlayground delta)
    (hfund : match (afterReserve s delta).funding with
      | .wallet _ => l'.wallet = base.wallet - (afterReserve s delta).preConsumedQuota ∧
          l'.subscription.subs = base.subscription.subs
      | .subscription f => ∃ sub, SubscriptionHeld base (afterReserve s delta) f l' sub) :
    Open base (afterReserve s delta) l' := by
  obtain ⟨hnonneg, htc, htoken₀, -⟩ := h
  refine ⟨?_, ?_, ?_, hfund⟩
  · rw [afterReserve_preConsumedQuota]
    omega
  · simp [Service.afterReserve, htc]
  · simp [Service.afterReserve, tokenShare_add]
    omega

variable (hopen : Open base s l)
include hopen

theorem reserve_outcome_wallet (hf : s.funding = .wallet w)
    (hroll : r.rollback = true) (hgo : ¬ s.SkipsReserve targetQuota)
    (hdelta : 0 < targetQuota - s.preConsumedQuota) :
    ReserveOutcome base s l targetQuota r (s.reserve l targetQuota r) := by
  have hfund := hopen.funding
  simp only [hf] at hfund
  simp only [reserve, if_neg hgo]
  split
  next f₁ l₁ e hres =>
    obtain ⟨rfl, rfl, hreply⟩ := reserveFunding_error hdelta hres
    exact .refused e hgo hreply
  rename_i f₁ l₁ hres
  rw [hf] at hres
  obtain ⟨rfl, rfl, hreply⟩ := reserveFunding_wallet hdelta hres
  split
  next l₂ e htok =>
    obtain rfl := reserveToken_error htok
    have hback : rollbackFundingReserve (reservedFunding s.relayInfo.imageRequest
        (targetQuota - s.preConsumedQuota) (.wallet w))
        { l with wallet := l.wallet - (targetQuota - s.preConsumedQuota) }
        (targetQuota - s.preConsumedQuota) r.rollback =
        (releasedFunding s.relayInfo.imageRequest s.funding, l) := by
      cases himage : s.relayInfo.imageRequest <;>
        simp [rollbackFundingReserve, reservedFunding, releasedFunding, hroll, hf]
    simp only [hback]
    exact .undone e hgo fun _ => hreply
  next l₂ htok =>
    obtain rfl := reserveToken_ok hdelta htok
    rw [← hf]
    refine .done _ hgo (fun _ => hreply) (hopen.afterReserve hdelta rfl ?_)
    simp only [afterReserve_funding, hf, reservedFunding, afterReserve_preConsumedQuota, hfund,
      and_true]
    omega

theorem reserve_outcome_subscription {f : SubscriptionFunding}
    (hf : s.funding = .subscription f) (hroll : r.rollback = true)
    (hgo : ¬ s.SkipsReserve targetQuota) (hdelta : 0 < targetQuota - s.preConsumedQuota) :
    ReserveOutcome base s l targetQuota r (s.reserve l targetQuota r) := by
  have hnonneg := hopen.nonneg
  have hfund := hopen.funding
  simp only [hf] at hfund
  obtain ⟨sub, hheld⟩ := hfund
  have hnw : ¬ ∃ w, s.funding = .wallet w := by
    rintro ⟨w, hw⟩
    rw [hf] at hw
    cases hw
  simp only [reserve, if_neg hgo]
  split
  next f₁ l₁ e hres =>
    obtain ⟨rfl, rfl, hreply⟩ := reserveFunding_error hdelta hres
    exact .refused e hgo hreply
  rename_i f₁ l₁ hres
  rw [hf] at hres
  obtain ⟨rfl, hadjust⟩ := reserveFunding_subscription hres
  rw [hheld.id_eq] at hadjust
  obtain ⟨rfl, hfits⟩ := adjust_charged_ok hheld.stored hheld.valid hheld.subs_eq hheld.fits
    (by omega) hadjust
  split
  next l₂ e htok =>
    obtain rfl := reserveToken_error htok
    have hback : rollbackFundingReserve (.subscription f) (l.setSubs (base.subscription.subs.save
          (sub.use (s.preConsumedQuota + (targetQuota - s.preConsumedQuota)))))
        (targetQuota - s.preConsumedQuota) r.rollback = (.subscription f, l) := by
      simp only [rollbackFundingReserve, hroll, hheld.id_eq]
      rw [adjust_undo hheld.stored hheld.valid hheld.subs_eq hnonneg hheld.fits]
    have hself : releasedFunding s.relayInfo.imageRequest s.funding = .subscription f := by
      rw [hf, releasedFunding]
    simp only [hback]
    rw [← hself]
    exact .undone e hgo fun hw => absurd hw hnw
  next l₂ htok =>
    obtain rfl := reserveToken_ok hdelta htok
    have hres : reservedFunding s.relayInfo.imageRequest (targetQuota - s.preConsumedQuota)
        s.funding = .subscription f := by
      rw [hf, reservedFunding]
    have hafter : afterReserve s (targetQuota - s.preConsumedQuota) =
        s.addReserved (targetQuota - s.preConsumedQuota) := by
      rw [afterReserve, hres, ← hf]
    rw [← hres]
    refine .done _ hgo (fun hw => absurd hw hnw) (hopen.afterReserve hdelta rfl ?_)
    have hfunding (delta : Int) : (s.addReserved delta).funding = .subscription f := by simp [hf]
    rw [hafter, hfunding]
    exact ⟨sub, hheld.addReserved hf hdelta rfl rfl rfl hfits⟩

theorem reserve_outcome (hroll : r.rollback = true) :
    ReserveOutcome base s l targetQuota r (s.reserve l targetQuota r) := by
  by_cases hskip : s.SkipsReserve targetQuota
  · simp only [reserve, if_pos hskip]
    exact .skipped hskip
  have hdelta : 0 < targetQuota - s.preConsumedQuota := by
    by_contra hle
    exact hskip (.inr (.inr (.inr (by omega))))
  cases hf : s.funding with
  | wallet w => exact reserve_outcome_wallet hopen hf hroll hskip hdelta
  | subscription f => exact reserve_outcome_subscription hopen hf hroll hskip hdelta

end NewApi.Service
