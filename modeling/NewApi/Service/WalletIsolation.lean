import NewApi.Foundation.Run
import NewApi.Service.RequestBilling

/-!
# Wallet isolation

A user who pays by subscription only, or by subscription first with an active subscription that does
not allow the wallet to step in, has a wallet that the requests must not touch. `NewBillingSession`
keeps to this: for such a user it opens a session on a subscription or none at all
(`newBillingSession_offWallet`). A session on a subscription never reaches the wallet again.

The charges that do not go through a session take the funding source from the relay info, where only
a session writes it. A request whose estimate was free has no session; what it is charged later
comes out of the wallet.
-/

namespace NewApi.Service

open Common Model BillingSession StepSystem List SubscriptionFunding

/-! ### Calls that leave the wallet alone -/

section

variable (l : Ledger)

@[simp] theorem adjust_wallet (id delta : Int) (dbOk : Bool) :
    (SubscriptionFunding.adjust l id delta dbOk).1.wallet = l.wallet := by
  unfold adjust
  split <;> rfl

@[simp] theorem increaseTokenQuota_wallet (quota : Int) (dbOk : Bool) :
    (increaseTokenQuota l quota dbOk).1.wallet = l.wallet := by
  unfold increaseTokenQuota
  split_ifs <;> rfl

@[simp] theorem decreaseTokenQuota_wallet (quota : Int) (dbOk : Bool) :
    (decreaseTokenQuota l quota dbOk).1.wallet = l.wallet := by
  unfold decreaseTokenQuota
  split_ifs <;> rfl

@[simp] theorem preConsumeTokenQuota_wallet (isPlayground : Bool) (quota : Int)
    (ans : ReserveReply) :
    (preConsumeTokenQuota isPlayground l quota ans).1.wallet = l.wallet := by
  unfold preConsumeTokenQuota
  split_ifs <;> try rfl
  cases ans <;> rfl

@[simp] theorem settleToken_wallet (isPlayground : Bool) (delta : Int) (dbOk : Bool) :
    (settleToken isPlayground l delta dbOk).1.wallet = l.wallet := by
  unfold settleToken
  split_ifs <;> simp

@[simp] theorem reserveToken_wallet (isPlayground : Bool) (delta : Int) (ans : ReserveReply) :
    (reserveToken isPlayground l delta ans).1.wallet = l.wallet := by
  have htoken := preConsumeTokenQuota_wallet l isPlayground delta ans
  unfold reserveToken
  split_ifs
  · rfl
  · generalize preConsumeTokenQuota isPlayground l delta ans = res at htoken
    obtain ⟨l', _ | e⟩ := res <;> exact htoken

end

theorem source_eq_subscription {f : FundingSource} (h : f.source = .subscription) :
    ∃ s, f = .subscription s := by
  cases f with
  | wallet w => cases h
  | subscription s => exact ⟨s, rfl⟩

structure OnSubscription (s : BillingSession) : Prop where
  source : s.funding.source = .subscription
  billingSource : s.relayInfo.billingSource = some .subscription

/-! ### Sessions on a subscription -/

section

variable {s : BillingSession} {l : Ledger}

theorem syncRelayInfo_onSubscription (h : s.funding.source = .subscription) :
    OnSubscription s.syncRelayInfo := by
  obtain ⟨f, hf⟩ := source_eq_subscription h
  refine ⟨by simp [h], ?_⟩
  simp [syncRelayInfo, hf, FundingSource.source]

theorem OnSubscription.reserve (h : OnSubscription s) (targetQuota : Int) (r : ReserveReplies) :
    OnSubscription (s.reserve l targetQuota r).1.1 ∧
      (s.reserve l targetQuota r).1.2.wallet = l.wallet := by
  obtain ⟨f, hf⟩ := source_eq_subscription h.source
  unfold BillingSession.reserve
  split_ifs with hskip
  · exact ⟨h, rfl⟩
  simp only [hf, reserveFunding]
  have hadjust := adjust_wallet l f.subscriptionId (targetQuota - s.preConsumedQuota)
    (r.funding = .ok)
  generalize adjust l f.subscriptionId _ _ = res at hadjust
  obtain ⟨l₁, _ | e⟩ := res
  · -- the subscription has been charged, and the token follows
    have htoken := reserveToken_wallet l₁ s.relayInfo.isPlayground
      (targetQuota - s.preConsumedQuota) r.token
    dsimp only at hadjust ⊢
    generalize reserveToken s.relayInfo.isPlayground l₁ _ r.token = tok at htoken
    obtain ⟨l₂, _ | e⟩ := tok
    · refine ⟨?_, htoken.trans hadjust⟩
      dsimp [addReserved]
      exact syncRelayInfo_onSubscription rfl
    · refine ⟨⟨rfl, h.billingSource⟩, ?_⟩
      simp only [rollbackFundingReserve, adjust_wallet]
      exact htoken.trans hadjust
  · exact ⟨⟨rfl, h.billingSource⟩, hadjust⟩

theorem OnSubscription.settle (h : OnSubscription s) (actualQuota : Int) (r : SettleReplies) :
    OnSubscription (s.settle l actualQuota r).1.1 ∧
      (s.settle l actualQuota r).1.2.wallet = l.wallet := by
  obtain ⟨f, hf⟩ := source_eq_subscription h.source
  by_cases hsettled : s.settled = true
  · simp only [BillingSession.settle, if_pos hsettled]
    exact ⟨h, trivial⟩
  by_cases hdelta : actualQuota - s.preConsumedQuota = 0
  · simp only [BillingSession.settle, if_neg hsettled, if_pos hdelta]
    exact ⟨⟨h.source, h.billingSource⟩, trivial⟩
  simp only [BillingSession.settle, if_neg hsettled, if_neg hdelta]
  have hfund : (if s.fundingSettled then (l, none) else
      s.funding.settle l (actualQuota - s.preConsumedQuota) r.funding).1.wallet = l.wallet := by
    split_ifs
    · rfl
    · simp [hf, FundingSource.settle, SubscriptionFunding.settle, if_neg hdelta, adjust_wallet]
  generalize (if s.fundingSettled then (l, none) else
    s.funding.settle l (actualQuota - s.preConsumedQuota) r.funding) = res at hfund
  obtain ⟨l₁, _ | e⟩ := res
  · refine ⟨⟨h.source, ?_⟩, (settleToken_wallet _ _ _ _).trans hfund⟩
    simp only [markSettled, h.source, if_true]
    exact h.billingSource
  · exact ⟨h, hfund⟩

theorem OnSubscription.refund (h : OnSubscription s) :
    OnSubscription s.refund.1 ∧ ∀ j ∈ s.refund.2.toList, j.funding.source = .subscription := by
  unfold BillingSession.refund
  split_ifs
  · exact ⟨h, by simp⟩
  refine ⟨⟨h.source, h.billingSource⟩, ?_⟩
  intro j hj
  obtain rfl := mem_singleton.mp hj
  exact h.source

theorem RefundJob.run_wallet {j : RefundJob} (h : j.funding.source = .subscription)
    (r : RefundJobReplies) : (j.run l r).wallet = l.wallet := by
  obtain ⟨f, hf⟩ := source_eq_subscription h
  have hrefund : (j.funding.refund l r.funding).1.wallet = l.wallet := by
    simp only [hf, FundingSource.refund, SubscriptionFunding.refund]
    split_ifs <;> rfl
  unfold RefundJob.run
  split_ifs <;> simp [hrefund]

end

/-! ### Opening a session -/

inductive OpensOffWallet (info : RelayInfo) (l : Ledger) : OpenResult → Prop
  | ok {s : BillingSession} {l' : Ledger} (hs : OnSubscription s) (hl : l'.wallet = l.wallet) :
      OpensOffWallet info l (.ok (s, l'))
  | error {e : NewAPIError} {l' : Ledger} (hl : l'.wallet = l.wallet) :
      OpensOffWallet info l (.error (e, info, l'))

section

variable {info : RelayInfo} {l : Ledger}

theorem SubscriptionFunding.preConsume_wallet (f : SubscriptionFunding)
    (r : PreConsumeFundingReplies) : (f.preConsume l r).1.2.wallet = l.wallet := by
  unfold preConsume
  split <;> rfl

variable {s : BillingSession}

theorem openSession_offWallet (hs : s.funding.source = .subscription) (quota : Int)
    (env : PreConsumeEnv) : OpensOffWallet s.relayInfo l (openSession s l quota env) := by
  obtain ⟨f, hf⟩ := source_eq_subscription hs
  have htrust : s.shouldTrust env.trustQuota env.tokenQuota = false := by
    unfold shouldTrust
    rw [hs]
    split_ifs <;> rfl
  have htoken : (if 0 < quota then preConsumeTokenQuota s.relayInfo.isPlayground l quota env.token
      else (l, none)).1.wallet = l.wallet := by
    split_ifs <;> simp
  unfold openSession BillingSession.preConsume preConsumeSteps
  rw [htrust]
  simp only [Bool.false_eq_true, if_false]
  generalize (if 0 < quota then preConsumeTokenQuota s.relayInfo.isPlayground l quota env.token
    else (l, none)) = tok at htoken
  obtain ⟨l₁, _ | e⟩ := tok
  · -- the token has been charged, and the subscription follows
    have hsub := f.preConsume_wallet (l := l₁) env.funding
    have hfund : (if 0 < quota then { s with tokenConsumed := quota } else s).funding =
        .subscription f := by
      split_ifs <;> exact hf
    have hinfo : (if 0 < quota then { s with tokenConsumed := quota } else s).relayInfo =
        s.relayInfo := by
      split_ifs <;> rfl
    generalize (if 0 < quota then { s with tokenConsumed := quota } else s) = s₁ at hfund hinfo
    simp only [hfund, FundingSource.preConsume]
    generalize f.preConsume l₁ env.funding = res at hsub
    obtain ⟨⟨f', l₂⟩, _ | e⟩ := res
    · exact .ok (syncRelayInfo_onSubscription rfl) (hsub.trans htoken)
    dsimp only
    rw [← hinfo]
    split_ifs
    · exact .error ((increaseTokenQuota_wallet _ _ _).trans (hsub.trans htoken))
    · exact .error (hsub.trans htoken)
  · exact .error htoken

theorem trySubscription_offWallet (quota : Int) (env : PreConsumeEnv) :
    OpensOffWallet info l (trySubscription info l quota env) :=
  openSession_offWallet (s := subscriptionSession info (if quota ≤ 0 then 1 else quota)) rfl _ env

/-- **The choice of the funding source.** For a user who pays by subscription only, or by
subscription first while the reads show an active subscription and no overflow, no session on the
wallet is opened. -/
theorem newBillingSession_offWallet {pref : String} {env : NewSessionEnv}
    (hpref : normalizeBillingPreference pref = .subscriptionOnly ∨
      normalizeBillingPreference pref = .subscriptionFirst ∧
        env.hasActiveSubscription ≠ some false ∧ env.allowWalletOverflow ≠ some true)
    (quota : Int) : OpensOffWallet info l (newBillingSession info l pref quota env) := by
  have htry : OpensOffWallet info l (trySubscription info l quota env.subscription) :=
    trySubscription_offWallet quota env.subscription
  unfold newBillingSession
  rcases hpref with hpref | ⟨hpref, hactive, hoverflow⟩
  · rw [hpref]
    exact htry
  rw [hpref]
  rcases hhas : env.hasActiveSubscription with - | active
  · exact .error rfl
  cases active with
  | false => exact absurd hhas hactive
  | true =>
    generalize trySubscription info l quota env.subscription = res at htry
    cases htry with
    | ok hs hl => exact .ok hs hl
    | error hl =>
      dsimp only
      split_ifs
      · cases hallow : env.allowWalletOverflow with
        | none => exact .error hl
        | some allow =>
          cases allow with
          | false => exact .error hl
          | true => exact absurd hallow hoverflow
      · exact .error hl

end

/-! ### Requests of such a user -/

/-- A request that stays away from the wallet: its session and its refunds are on subscriptions, and
without a session the relay info knows of no funding source and no pre-charge. -/
structure OffWallet (x : BilledRequest) : Prop where
  session : ∀ s, x.billing = some s → OnSubscription s
  unfunded : x.billing = none →
    x.relayInfo.billingSource = none ∧ x.relayInfo.finalPreConsumedQuota = 0
  jobs : ∀ j ∈ x.jobs, j.funding.source = .subscription

/-- From `x` to `y` the request stays away from the wallet, and the preference of the user is the
same. -/
structure Isolates (x y : BilledRequest) : Prop where
  offWallet : OffWallet y
  wallet : y.ledger.wallet = x.ledger.wallet
  preference : y.billingPreference = x.billingPreference

theorem OffWallet.refl (h : OffWallet x) : Isolates x x := ⟨h, rfl, rfl⟩

theorem OffWallet.congr (h : OffWallet x) (hbilling : y.billing = x.billing)
    (hinfo : y.relayInfo = x.relayInfo) (hjobs : y.jobs = x.jobs) : OffWallet y where
  session := by
    rw [hbilling]
    exact h.session
  unfunded := by
    rw [hbilling, hinfo]
    exact h.unfunded
  jobs := by
    rw [hjobs]
    exact h.jobs

section

variable {x : BilledRequest}

theorem OffWallet.info_of_session (h : OffWallet x) (hs : x.billing = some s) :
    x.info.billingSource = some .subscription := by
  rw [BilledRequest.info, hs]
  exact (h.session s hs).billingSource

theorem OffWallet.setSession (h : OffWallet x) {l : Ledger} (hs : OnSubscription s)
    (hl : l.wallet = x.ledger.wallet) : Isolates x (x.setSession (s, l)) := by
  refine ⟨⟨?_, ?_, h.jobs⟩, hl, rfl⟩
  · rintro s' hs'
    cases hs'
    exact hs
  · intro hnone
    cases hnone

theorem OffWallet.setInfo (h : OffWallet x) {info : RelayInfo} {l : Ledger}
    (hsource : info.billingSource = x.info.billingSource)
    (hfinal : info.finalPreConsumedQuota = x.info.finalPreConsumedQuota) :
    OffWallet { x.setInfo info with ledger := l } := by
  cases hb : x.billing with
  | none =>
    obtain ⟨hunfunded, hzero⟩ := h.unfunded hb
    simp only [BilledRequest.info, hb] at hsource hfinal
    refine ⟨?_, fun _ => ?_, ?_⟩
    · intro s hs
      simp only [BilledRequest.setInfo, hb] at hs
      cases hs
    · simp only [BilledRequest.setInfo, hb]
      exact ⟨hsource.trans hunfunded, hfinal.trans hzero⟩
    · simp only [BilledRequest.setInfo, hb]
      exact h.jobs
  | some s =>
    have hs := h.session s hb
    simp only [BilledRequest.info, hb] at hsource
    refine ⟨?_, fun hnone => ?_, ?_⟩
    · intro s' hs'
      simp only [BilledRequest.setInfo, hb] at hs'
      cases hs'
      exact ⟨hs.source, hsource.trans hs.billingSource⟩
    · simp only [BilledRequest.setInfo, hb] at hnone
      cases hnone
    · simp only [BilledRequest.setInfo, hb]
      exact h.jobs

@[simp] theorem setInfo_billingPreference (info : RelayInfo) :
    (x.setInfo info).billingPreference = x.billingPreference := by
  unfold BilledRequest.setInfo
  split <;> rfl

@[simp] theorem setInfo_ledger (info : RelayInfo) : (x.setInfo info).ledger = x.ledger := by
  unfold BilledRequest.setInfo
  split <;> rfl

theorem OffWallet.noteQuotaClamp (h : OffWallet x) (clamp : Option QuotaClamp) :
    Isolates x (x.noteQuotaClamp clamp) := by
  unfold BilledRequest.noteQuotaClamp
  split
  · exact ⟨h.congr rfl rfl rfl, rfl, rfl⟩
  · exact h.refl

end

/-- An active subscription of the user at `now` that does not allow wallet overflow. -/
def StrictAt (x : BilledRequest) (now : Int) : Prop :=
  ∃ sub ∈ x.ledger.subscription.subs.rows,
    sub.ActiveFor x.info.userId now ∧ sub.allowWalletOverflow = false
  deriving Decidable

def PaysBySubscription (x : BilledRequest) (o : OpenReplies) : Prop :=
  normalizeBillingPreference x.billingPreference = .subscriptionOnly ∨
    normalizeBillingPreference x.billingPreference = .subscriptionFirst ∧
      StrictAt x o.activeAt ∧ StrictAt x o.overflowAt

section

variable {x : BilledRequest} {o : OpenReplies} {r : ReserveReplies}

theorem hasActive_of_strictAt {now : Int} (h : StrictAt x now) (dbOk : Bool) :
    hasActiveUserSubscription x.ledger.subscription.subs x.info.userId now dbOk ≠ some false := by
  obtain ⟨sub, hmem, hactive, -⟩ := h
  unfold hasActiveUserSubscription
  split_ifs
  · simp
  · simp
  · simp only [ne_eq, Option.some.injEq, decide_eq_false_iff_not, not_not]
    exact ⟨sub, hmem, hactive⟩

theorem noOverflow_of_strictAt {now : Int} (h : StrictAt x now) (dbOk : Bool) :
    userActiveSubscriptionsAllowWalletOverflow x.ledger.subscription.subs x.info.userId now dbOk ≠
      some true := by
  obtain ⟨sub, hmem, hactive, hstrict⟩ := h
  unfold userActiveSubscriptionsAllowWalletOverflow
  split_ifs
  · simp
  · simp
  simp only [ne_eq, Option.some.injEq, decide_eq_true_eq]
  intro hall
  have hallow := hall sub hmem hactive
  rw [hstrict] at hallow
  cases hallow

section

variable (h : OffWallet x) (huser : PaysBySubscription x o)
include h huser

theorem OffWallet.preConsumeBilling (quota : Int) : Isolates x (preConsumeBilling x quota o).1 := by
  have hopen : OpensOffWallet x.info x.ledger (newBillingSession x.info x.ledger
      x.billingPreference quota (o.env x.info x.ledger)) := by
    apply newBillingSession_offWallet
    rcases huser with hpref | ⟨hpref, hactive, hoverflow⟩
    · exact .inl hpref
    · exact .inr ⟨hpref, hasActive_of_strictAt hactive _, noOverflow_of_strictAt hoverflow _⟩
  unfold Service.preConsumeBilling
  split
  · exact h.refl
  split_ifs
  · exact h.refl
  generalize newBillingSession x.info x.ledger x.billingPreference quota
    (o.env x.info x.ledger) = res at hopen
  cases hopen with
  | ok hs hl => exact h.setSession hs hl
  | error hl => exact ⟨h.setInfo rfl rfl, hl, setInfo_billingPreference _⟩

theorem OffWallet.chargeEstimate (quota : Int) : Isolates x (chargeEstimate x quota o r).1 := by
  unfold Service.chargeEstimate
  split
  · exact h.preConsumeBilling huser quota
  rename_i s hs
  obtain ⟨hres, hwallet⟩ := (h.session s hs).reserve (l := x.ledger) quota r
  generalize s.reserve x.ledger quota r = res at hres hwallet
  obtain ⟨⟨s', l⟩, _ | e⟩ := res
  · exact h.setSession ⟨hres.source, hres.billingSource⟩ hwallet
  · exact h.setSession hres hwallet

theorem OffWallet.chargeEstimate_of_eq
    (hbilling : y.billing = x.billing) (hinfo : y.relayInfo = x.relayInfo) (hjobs : y.jobs = x.jobs)
    (hledger : y.ledger = x.ledger) (hpref : y.billingPreference = x.billingPreference)
    (quota : Int) : Isolates x (Service.chargeEstimate y quota o r).1 := by
  have hinfo' : y.info = x.info := by
    unfold BilledRequest.info
    rw [hbilling, hinfo]
  have huser' : PaysBySubscription y o := by
    unfold PaysBySubscription StrictAt
    rw [hpref, hledger, hinfo']
    exact huser
  obtain ⟨hoff, hwallet, hpref'⟩ :=
    (h.congr hbilling hinfo hjobs).chargeEstimate (r := r) huser' quota
  exact ⟨hoff, by rw [hwallet, hledger], hpref'.trans hpref⟩

theorem OffWallet.startBilling
    (priceData : PriceData) (snapshot : Option BillingSnapshot) (clamp : Option QuotaClamp) :
    Isolates x (startBilling x priceData snapshot clamp o).1 := by
  have hpriced : OffWallet { x with priceData := priceData, tieredBillingSnapshot := snapshot } :=
    h.congr rfl rfl rfl
  obtain ⟨hoff, hwallet, hpref⟩ := hpriced.noteQuotaClamp clamp
  have huser' : PaysBySubscription
      ({ x with priceData := priceData, tieredBillingSnapshot := snapshot }.noteQuotaClamp clamp)
      o := by
    unfold BilledRequest.noteQuotaClamp
    split <;> exact huser
  unfold Service.startBilling
  dsimp only
  split_ifs
  · exact ⟨hoff, hwallet, hpref⟩
  · obtain ⟨hoff', hwallet', hpref'⟩ := hoff.preConsumeBilling huser' priceData.quotaToPreConsume
    exact ⟨hoff', hwallet'.trans hwallet, hpref'.trans hpref⟩

theorem OffWallet.prepareTiered : Isolates x (prepareTieredBillingForSelectedGroup x o r).1 := by
  unfold prepareTieredBillingForSelectedGroup
  split
  · exact h.refl
  · exact h.refl
  dsimp only
  split_ifs
  · exact ⟨h.congr rfl rfl rfl, rfl, rfl⟩
  · refine h.chargeEstimate_of_eq huser ?_ ?_ ?_ ?_ ?_ _ <;> rfl

end

theorem setInfo_imageCount_info (x : BilledRequest) (count : Int) :
    (x.setInfo { x.info with imageRequestCount := count }).info.userId = x.info.userId := by
  unfold BilledRequest.setInfo
  split <;> rename_i hs <;> simp [BilledRequest.info, hs]

theorem OffWallet.prepareImage (h : OffWallet x) (huser : PaysBySubscription x o) (count : Int)
    (price : ImagePrice) : Isolates x (prepareImageBillingForRequest x count price o r).1 := by
  have hcount : OffWallet (x.setInfo { x.info with imageRequestCount := count }) := by
    have hset : OffWallet { x.setInfo { x.info with imageRequestCount := count } with
        ledger := x.ledger } := h.setInfo rfl rfl
    exact hset.congr rfl rfl rfl
  have huser' : PaysBySubscription (x.setInfo { x.info with imageRequestCount := count }) o := by
    unfold PaysBySubscription StrictAt
    rw [setInfo_billingPreference, setInfo_ledger, setInfo_imageCount_info]
    exact huser
  have hsame : Isolates x (x.setInfo { x.info with imageRequestCount := count }) :=
    ⟨hcount, by rw [setInfo_ledger], setInfo_billingPreference _⟩
  unfold prepareImageBillingForRequest
  split_ifs
  · exact h.refl
  dsimp only
  generalize x.setInfo { x.info with imageRequestCount := count } = y at hcount huser' hsame
  split
  · exact hsame
  · exact hsame
  split_ifs
  · exact ⟨hcount.congr rfl rfl rfl, hsame.wallet, hsame.preference⟩
  rename_i quota snapshot _ _
  obtain ⟨hoff, hwallet, hpref⟩ := hcount.chargeEstimate_of_eq (r := r) huser' (y := { y with
      tieredBillingSnapshot := snapshot
      priceData := { y.priceData with quotaToPreConsume := quota, freeModel := false } })
    rfl rfl rfl rfl rfl quota
  exact ⟨hoff, hwallet.trans hsame.wallet, hpref.trans hsame.preference⟩

end

/-! ### Charges past the session -/

section

variable {x : BilledRequest} {r : SettleReplies}

theorem OffWallet.postConsume_of_session (h : OffWallet x) (hs : x.billing = some s) (quota : Int) :
    Isolates x (postConsumeQuota x quota r).1 := by
  have hsource := h.info_of_session hs
  unfold postConsumeQuota consumeFunding
  split_ifs
  · exact h.refl
  · exact ⟨h.setInfo rfl rfl, settleToken_wallet _ _ _ _, setInfo_billingPreference _⟩
  have hadjust := adjust_wallet x.ledger x.info.subscriptionId quota r.funding
  generalize adjust x.ledger x.info.subscriptionId quota r.funding = res
    at hadjust
  obtain ⟨l, _ | e⟩ := res
  · exact ⟨h.setInfo rfl rfl, (settleToken_wallet _ _ _ _).trans hadjust,
      setInfo_billingPreference _⟩
  · exact h.refl

/-- Without a session, `PostConsumeQuota` moves the wallet: it goes down exactly if the amount is
positive and the write succeeds. -/
theorem OffWallet.postConsume_of_none (h : OffWallet x) (hnone : x.billing = none) (quota : Int) :
    OffWallet (postConsumeQuota x quota r).1 ∧
      (postConsumeQuota x quota r).1.billingPreference = x.billingPreference ∧
      ((postConsumeQuota x quota r).1.ledger.wallet < x.ledger.wallet ↔
        0 < quota ∧ r.funding = true) := by
  have hsource : ¬ x.info.billingSource = some .subscription := by
    simp [BilledRequest.info, hnone, (h.unfunded hnone).1]
  unfold postConsumeQuota consumeFunding
  rw [if_neg hsource]
  by_cases hpos : 0 < quota
  · rw [if_pos hpos]
    cases hok : r.funding with
    | false => exact ⟨h, rfl, by simp⟩
    | true =>
      refine ⟨h.setInfo rfl rfl, setInfo_billingPreference _, ?_⟩
      simp only [if_true, settleToken_wallet, and_true]
      omega
  · rw [if_neg hpos]
    split_ifs
    · refine ⟨h.setInfo rfl rfl, setInfo_billingPreference _, ?_⟩
      simp only [settleToken_wallet]
      omega
    · exact ⟨h, rfl, by simp [hpos]⟩

theorem calcViolationFeeQuota_pos_iff {cfg : ViolationSettings} {groupRatio : ℚ} :
    0 < calcViolationFeeQuota cfg groupRatio ↔ 0 < cfg.amount ∧ 0 < groupRatio ∧
      1 / 2 ≤ cfg.amount * cfg.quotaPerUnit * groupRatio := by
  have hpos : 0 < quotaFromDecimal
      (roundHalfAway (cfg.amount * cfg.quotaPerUnit * groupRatio)) ↔
      1 / 2 ≤ cfg.amount * cfg.quotaPerUnit * groupRatio := by
    rw [quotaFromDecimal_pos_iff, ← roundHalfAway_pos_iff, roundHalfAway_intCast,
      roundHalfAway_pos_iff]
  unfold calcViolationFeeQuota
  split_ifs with hamount hratio
  · simp [not_lt.mpr hamount]
  · simp [not_lt.mpr hratio]
  rw [not_le] at hamount hratio
  dsimp only
  split_ifs with hquota
  · have hnot := mt hpos.mpr (not_lt.mpr hquota)
    exact iff_of_false (lt_irrefl 0) fun h => hnot h.2.2
  · rw [hpos]
    simp [hamount, hratio]

end

/-! ### Steps -/

def WssReads.Covers (reads : WssReads) (quota : Int) : Prop :=
  ∃ userQuota ∈ reads.userQuota, ∃ token ∈ reads.token,
    quota ≤ userQuota ∧ (token.1 = true ∨ quota ≤ token.2)
  deriving Decidable

theorem check_eq_none_iff {reads : WssReads} {quota : Int} :
    reads.check quota = none ↔ reads.Covers quota := by
  obtain ⟨userQuota, token⟩ := reads
  rcases userQuota with - | userQuota
  · simp [WssReads.check, WssReads.Covers]
  cases token with
  | none => simp [WssReads.check, WssReads.Covers]
  | some token =>
    obtain ⟨unlimited, remainQuota⟩ := token
    cases unlimited <;> simp [WssReads.check, WssReads.Covers]
    · split_ifs <;> simp <;> omega

def ViolationSettings.Charges (cfg : ViolationSettings) (groupRatio : ℚ) : Prop :=
  cfg.enabled = true ∧ 0 < cfg.amount ∧ 0 < groupRatio ∧
    1 / 2 ≤ cfg.amount * cfg.quotaPerUnit * groupRatio
  deriving Decidable

/-- A positive charge while the request has no session: of a realtime stream, of the settlement, or
a violation fee. -/
def ChargesWallet (x : BilledRequest) : BillingEvent → Prop
  | .stream quota _ reads r => x.billing = none ∧ x.usePrice = false ∧ reads.Covers quota ∧
      0 < quota ∧ r.funding = true
  | .settle actualQuota r => x.billing = none ∧ 0 < actualQuota ∧ r.funding = true
  | .fail cfg err r => x.billing = none ∧
      shouldChargeViolationFee (normalizeViolationFeeError err) = true ∧
      cfg.Charges x.priceData.groupRatio ∧ r.funding = true
  | .start _ _ _ _ | .selectGroup _ | .prepareTiered _ _ | .prepareImage _ _ _ _ | .refundJob _ _
  | .elsewhere _ _ => False

instance (x : BilledRequest) : ∀ e, Decidable (ChargesWallet x e)
  | .stream _ _ _ _ | .settle _ _ | .fail _ _ _ => inferInstanceAs (Decidable (_ ∧ _))
  | .start _ _ _ _ | .selectGroup _ | .prepareTiered _ _ | .prepareImage _ _ _ _ | .refundJob _ _
  | .elsewhere _ _ => inferInstanceAs (Decidable False)

def KeepsWallet (x : BilledRequest) (e : BillingEvent) : Prop :=
  x.ledger.wallet ≤ (billingStep x e).ledger.wallet
  deriving Decidable

def BillingEvent.reads : BillingEvent → List Int
  | .start _ _ _ o | .prepareTiered o _ | .prepareImage _ _ o _ => [o.activeAt, o.overflowAt]
  | .selectGroup _ | .stream _ _ _ _ | .settle _ _ | .fail _ _ _ | .refundJob _ _
  | .elsewhere _ _ => []

/-- The user holds an active subscription that does not allow wallet overflow whenever the step
reads the subscriptions. -/
def HoldsStrict (x : BilledRequest) (e : BillingEvent) : Prop := ∀ now ∈ e.reads, StrictAt x now
  deriving Decidable

/-- A request that has not been charged: no session, no refund, and a relay info without funding
source and pre-charge. -/
structure Uncharged (x : BilledRequest) : Prop where
  billing : x.billing = none
  billingSource : x.relayInfo.billingSource = none
  finalPreConsumedQuota : x.relayInfo.finalPreConsumedQuota = 0
  jobs : x.jobs = []

theorem Uncharged.offWallet (h : Uncharged x) : OffWallet x where
  session s hs := by
    rw [h.billing] at hs
    cases hs
  unfunded _ := ⟨h.billingSource, h.finalPreConsumedQuota⟩
  jobs := by simp [h.jobs]

section

variable {x : BilledRequest} {e : BillingEvent}

structure StepEffect (x : BilledRequest) (e : BillingEvent) (y : BilledRequest) : Prop where
  offWallet : OffWallet y
  preference : y.billingPreference = x.billingPreference
  decreases_iff : y.ledger.wallet < x.ledger.wallet ↔ ChargesWallet x e

theorem Isolates.effect (h : Isolates x y) (hcharges : ¬ ChargesWallet x e) : StepEffect x e y :=
  ⟨h.offWallet, h.preference, by rw [h.wallet]; exact iff_of_false (lt_irrefl _) hcharges⟩

variable (h : OffWallet x)
include h

theorem OffWallet.settleBilling (actualQuota : Int) (r : SettleReplies) :
    StepEffect x (.settle actualQuota r) (settleBilling x actualQuota r).1 := by
  unfold Service.settleBilling
  cases hb : x.billing with
  | some s =>
    obtain ⟨hs, hwallet⟩ := (h.session s hb).settle (l := x.ledger) actualQuota r
    exact (h.setSession hs hwallet).effect (by simp [ChargesWallet, hb])
  | none =>
    obtain ⟨-, hzero⟩ := h.unfunded hb
    simp only [hzero, sub_zero]
    split_ifs with hactual
    · exact h.refl.effect (by simp [ChargesWallet, hactual])
    · obtain ⟨hoff, hpref, hiff⟩ := h.postConsume_of_none (r := r) hb actualQuota
      exact ⟨hoff, hpref, hiff.trans (by simp [ChargesWallet, hb])⟩

theorem OffWallet.preWssConsumeQuota (quota : Int) (clamp : Option QuotaClamp)
    (reads : WssReads) (r : SettleReplies) :
    StepEffect x (.stream quota clamp reads r) (preWssConsumeQuota x quota clamp reads r).1 := by
  unfold Service.preWssConsumeQuota
  split_ifs with hprice
  · exact h.refl.effect (by simp [ChargesWallet, hprice])
  have hnote := h.noteQuotaClamp clamp
  have hbilling : (x.noteQuotaClamp clamp).billing = x.billing := by
    unfold BilledRequest.noteQuotaClamp
    split <;> rfl
  generalize x.noteQuotaClamp clamp = y at hnote hbilling
  cases hcheck : reads.check quota with
  | some err =>
    have hunpaid : reads.check quota ≠ none := by simp [hcheck]
    split
    · exact h.refl.effect (by simp [ChargesWallet, ← check_eq_none_iff, hunpaid])
    · exact hnote.effect (by simp [ChargesWallet, ← check_eq_none_iff, hunpaid])
    next hnone => cases hnone
  | none =>
    have hcovers := check_eq_none_iff.mp hcheck
    cases hb : x.billing with
    | some s =>
      have hiso := hnote.offWallet.postConsume_of_session (r := r) (hbilling.trans hb) quota
      have hboth : Isolates x (postConsumeQuota y quota r).1 :=
        ⟨hiso.offWallet, hiso.wallet.trans hnote.wallet, hiso.preference.trans hnote.preference⟩
      exact hboth.effect (by simp [ChargesWallet, hb])
    | none =>
      obtain ⟨hoff, hpref, hiff⟩ := hnote.offWallet.postConsume_of_none (r := r)
        (hbilling.trans hb) quota
      rw [hnote.wallet] at hiff
      exact ⟨hoff, hpref.trans hnote.preference,
        hiff.trans (by simp [ChargesWallet, hb, hprice, hcovers])⟩

theorem OffWallet.refundBilling : Isolates x (refundBilling x) := by
  unfold Service.refundBilling
  split
  · exact h.refl
  rename_i s hs
  obtain ⟨hsession, hjobs⟩ := (h.session s hs).refund
  refine ⟨⟨?_, ?_, ?_⟩, rfl, rfl⟩
  · intro s' hs'
    cases hs'
    exact hsession
  · intro hnone
    cases hnone
  · intro j hj
    rcases mem_append.mp hj with hj | hj
    · exact h.jobs j hj
    · exact hjobs j hj

theorem OffWallet.failRequest (cfg : ViolationSettings)
    (err : UpstreamError) (r : SettleReplies) :
    StepEffect x (.fail cfg err r) (failRequest cfg x err r).1 := by
  have hrefund := h.refundBilling
  have hbilling : (Service.refundBilling x).billing = none ↔ x.billing = none := by
    unfold Service.refundBilling
    split <;> rename_i hs <;> simp [hs]
  have hprice : (Service.refundBilling x).priceData = x.priceData := by
    unfold Service.refundBilling
    split <;> rfl
  unfold Service.failRequest chargeViolationFeeIfNeeded
  rw [hprice]
  generalize Service.refundBilling x = y at hrefund hbilling
  dsimp only
  split_ifs with hcharge hon hfee
  · rw [Bool.not_eq_true'] at hcharge
    exact hrefund.effect (by simp [ChargesWallet, hcharge])
  · rw [Bool.not_eq_true'] at hon
    exact hrefund.effect (by simp [ChargesWallet, ViolationSettings.Charges, hon])
  · refine hrefund.effect fun hcharges => ?_
    have hpos := calcViolationFeeQuota_pos_iff.mpr hcharges.2.2.1.2
    omega
  have hpos : 0 < calcViolationFeeQuota cfg x.priceData.groupRatio := by omega
  have hamount := calcViolationFeeQuota_pos_iff.mp hpos
  cases hb : y.billing with
  | some s =>
    have hiso := hrefund.offWallet.postConsume_of_session (r := r) hb
      (calcViolationFeeQuota cfg x.priceData.groupRatio)
    have hboth : Isolates x (postConsumeQuota y _ r).1 :=
      ⟨hiso.offWallet, hiso.wallet.trans hrefund.wallet, hiso.preference.trans hrefund.preference⟩
    refine hboth.effect fun hcharges => ?_
    rw [hbilling.mpr hcharges.1] at hb
    cases hb
  | none =>
    obtain ⟨hoff, hpref, hiff⟩ := hrefund.offWallet.postConsume_of_none (r := r) hb
      (calcViolationFeeQuota cfg x.priceData.groupRatio)
    rw [hrefund.wallet] at hiff
    refine ⟨hoff, hpref.trans hrefund.preference, hiff.trans ?_⟩
    simp only [Bool.not_eq_true', Bool.not_eq_false] at hcharge hon
    simp only [ChargesWallet, ViolationSettings.Charges, hbilling.mp hb, hcharge, hon, hpos,
      hamount, true_and]

theorem OffWallet.runRefundJob (k : ℕ) (r : RefundJobReplies) :
    Isolates x (runRefundJob x k r) := by
  unfold Service.runRefundJob
  split
  · exact h.refl
  rename_i job hjob
  have hsource := h.jobs job (mem_of_getElem? hjob)
  refine ⟨⟨h.session, h.unfunded, fun j hj => ?_⟩, RefundJob.run_wallet hsource r, rfl⟩
  exact h.jobs j (mem_of_mem_eraseIdx hj)

/-- **One step.** A request of a user whose wallet is not to be touched stays away from the wallet,
except for a positive charge while it has no session, which decreases the wallet. -/
theorem OffWallet.step (huser : normalizeBillingPreference x.billingPreference = .subscriptionOnly ∨
      normalizeBillingPreference x.billingPreference = .subscriptionFirst ∧ HoldsStrict x e) :
    StepEffect x e (billingStep x e) := by
  have hpays : ∀ o : OpenReplies, e.reads = [o.activeAt, o.overflowAt] →
      PaysBySubscription x o := by
    intro o hreads
    rcases huser with hpref | ⟨hpref, hstrict⟩
    · exact .inl hpref
    · unfold HoldsStrict at hstrict
      rw [hreads] at hstrict
      exact .inr ⟨hpref, hstrict _ (by simp), hstrict _ (by simp)⟩
  cases e with
  | start priceData snapshot clamp o =>
    exact (h.startBilling (hpays o rfl) priceData snapshot clamp).effect id
  | selectGroup groupRatio =>
    exact Isolates.effect ⟨h.congr rfl rfl rfl, rfl, rfl⟩ id
  | prepareTiered o r => exact (h.prepareTiered (hpays o rfl)).effect id
  | prepareImage count price o r => exact (h.prepareImage (hpays o rfl) count price).effect id
  | stream quota clamp reads r => exact h.preWssConsumeQuota quota clamp reads r
  | settle actualQuota r => exact h.settleBilling actualQuota r
  | fail cfg err r => exact h.failRequest cfg err r
  | refundJob k r => exact (h.runRefundJob k r).effect id
  | elsewhere token subscription => exact Isolates.effect ⟨h.congr rfl rfl rfl, rfl, rfl⟩ id

end

/-! ### Whole requests -/

/-- **Wallet isolation.** Let the user pay by subscription only, or by subscription first while an
active subscription without wallet overflow is held at every read. In every run of a request, from
the free or paid estimate to the settlement, the refund and the violation fee, the wallet is never
decreased exactly if no positive charge is made while the request has no session. -/
theorem wallet_isolated_iff {x : BilledRequest} {es : List BillingEvent} (hnew : Uncharged x)
    (huser : normalizeBillingPreference x.billingPreference = .subscriptionOnly ∨
      normalizeBillingPreference x.billingPreference = .subscriptionFirst ∧
        Along billingStep HoldsStrict x es) :
    Along billingStep KeepsWallet x es ↔
      Along billingStep (fun x e => ¬ ChargesWallet x e) x es := by
  have hoff := hnew.offWallet
  clear hnew
  -- both sides agree at every step, by induction along the run
  induction es generalizing x with
  | nil => simp
  | cons e es ih =>
    have heffect := hoff.step (e := e) (huser.imp_right fun h => ⟨h.1, h.2.1⟩)
    have htail := ih (x := billingStep x e)
      (by rw [heffect.preference]; exact huser.imp_right fun h => ⟨h.1, h.2.2⟩) heffect.offWallet
    have hhead : KeepsWallet x e ↔ ¬ ChargesWallet x e := by
      rw [← heffect.decreases_iff, KeepsWallet, not_lt]
    exact and_congr hhead htail

/-! Fixed inputs: a wallet of `100000` and a subscription of `500` that does not allow overflow. -/

def strictSubscription : UserSubscription where
  id := 7
  userId := 1
  amountTotal := 500
  amountUsed := 0
  endTime := 1000
  status := .active
  lastResetTime := 0
  nextResetTime := 0
  allowWalletOverflow := false

def strictRequest (billingPreference : String) : BilledRequest where
  relayInfo := ⟨"req-7", 1, false, false, 0, false, false, 0, 0, none, 0, 0, 0, 0, 0, 0, ""⟩
  billing := none
  billingPreference := billingPreference
  usePrice := false
  priceData := ⟨false, 0, 1⟩
  tieredBillingSnapshot := none
  quotaClamp := none
  ledger := ⟨100000, 100000, ⟨⟨[strictSubscription], by simp⟩, ⟨[], List.nodup_nil⟩⟩⟩
  jobs := []

def openAtTen : OpenReplies :=
  let env : PreConsumeEnv :=
    ⟨0, 100, .ok, ⟨.ok, ⟨10, true, true, true, fun _ => .keep, .ok, true⟩, none⟩, true, none⟩
  ⟨some 100000, 10, true, 10, true, env, env⟩

def csamError : UpstreamError :=
  ⟨csamViolationMarker, csamViolationMarker, "bad_response_status_code"⟩

def sampleFee : ViolationSettings := ⟨true, 1 / 20, 500000⟩

/-- A request with a paid estimate that is settled, and one that fails and pays the fee: the charges
go to the subscription. -/
theorem wallet_isolated_paid_estimate :
    Along billingStep KeepsWallet (strictRequest "subscription_first")
      [.start ⟨false, 10, 1⟩ none none openAtTen, .selectGroup 2, .settle 20 ⟨true, true⟩,
        .fail sampleFee csamError ⟨true, true⟩] :=
  (wallet_isolated_iff ⟨rfl, rfl, rfl, rfl⟩ (.inr ⟨by decide +kernel, by decide +kernel⟩)).mpr
    (by decide +kernel)

/-- A request with a free estimate has no session: its settlement, and the fee of a violation, are
taken from the wallet of a user who pays by subscription only, and of one whose active subscription
does not allow overflow. -/
theorem free_estimate_charges_wallet :
    normalizeBillingPreference "subscription_only" = .subscriptionOnly ∧
    normalizeBillingPreference "subscription_first" = .subscriptionFirst ∧
    (∀ pref ∈ ["subscription_only", "subscription_first"], Uncharged (strictRequest pref) ∧
      Along billingStep HoldsStrict (strictRequest pref)
        [.start ⟨true, 0, 0⟩ none none openAtTen, .selectGroup 1, .settle 50 ⟨true, true⟩] ∧
      (run billingStep (strictRequest pref) [.start ⟨true, 0, 0⟩ none none openAtTen,
        .selectGroup 1, .settle 50 ⟨true, true⟩]).ledger.wallet = 99950 ∧
      Along billingStep HoldsStrict (strictRequest pref)
        [.start ⟨true, 0, 1⟩ none none openAtTen, .fail sampleFee csamError ⟨true, true⟩] ∧
      (run billingStep (strictRequest pref) [.start ⟨true, 0, 1⟩ none none openAtTen,
        .fail sampleFee csamError ⟨true, true⟩]).ledger.wallet = 75000) := by
  refine ⟨by decide +kernel, by decide +kernel, fun pref hpref => ⟨⟨rfl, rfl, rfl, rfl⟩, ?_⟩⟩
  rcases mem_cons.mp hpref with rfl | hpref
  · decide +kernel
  · obtain rfl := mem_singleton.mp hpref
    decide +kernel

end NewApi.Service
