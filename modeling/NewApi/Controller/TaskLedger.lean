import Mathlib.Algebra.Order.BigOperators.GroupWithZero.List
import NewApi.Controller.TaskSubmission
import NewApi.Service.SessionSettlement
import NewApi.Service.TaskBilling

/-!
# The charge of a task

The charge of a task passes from the billing session of the request to the row of the task, and from
there to the settlement and the refund of the poller. This file follows it through: at every point
the amount missing from the funding source is the quota of the row.

A submission either has no session yet and has moved nothing, or its session holds a charge that a
refund would give back (`Funds`). When the task is stored, the settlement brings the charge to the
quota of the row, and the two operations on a stored task move both by the same amount (`Balanced`).

All of it needs quotas that are not negative. A quota below zero is refused by `PreConsumeBilling`,
but a later attempt of a submission that has a session does not go there, and a subscription whose
usage has reached zero gives nothing more back.
-/

namespace NewApi.Controller

open Common Model Service BillingSession StepSystem List Table BilledRequest

/-! ### What is missing from the funding source -/

def usage (l : Ledger) (id : Int) : Int :=
  ((l.subscription.subs.find id).map UserSubscription.amountUsed).getD 0

def netTaken (base l : Ledger) (task : Task) : Int :=
  if taskIsSubscription task then usage l task.subscriptionId - usage base task.subscriptionId
  else base.wallet - l.wallet

section

variable {l : Ledger}

theorem usage_of_find {id : Int} {sub : UserSubscription}
    (h : l.subscription.subs.find id = some sub) : usage l id = sub.amountUsed := by
  rw [usage, h]
  rfl

variable (hvalid : ∀ sub ∈ l.subscription.subs.rows, sub.Valid)
include hvalid

end

/-! ### Prices that are not negative -/

structure TaskAttempt.PricesNonneg (a : TaskAttempt) : Prop where
  groupRatio : 0 ≤ a.groupRatio
  quotaPerUnit : 0 ≤ a.quotaPerUnit
  perCall : ∀ config, a.pricing = .perCall config →
    (∀ p ∈ config.modelPrice, 0 ≤ p) ∧ 0 ≤ config.modelRatio

def TaskPriceData.RatiosPos (p : TaskPriceData) : Prop := ∀ e ∈ p.otherRatios.entries, 0 < e.2

/-- The price of a request is not negative, nor is the ratio that its completion is priced with. -/
structure Priced (x : TaskRequest) : Prop where
  quota : 0 ≤ x.priceData.quota
  ratios : x.priceData.RatiosPos
  snapshot : ∀ snap ∈ x.snapshot, 0 ≤ snap.groupRatio

namespace TaskPriceData

variable {p : TaskPriceData}

theorem ratiosPos_of_empty (h : p.otherRatios = ∅) : p.RatiosPos := by
  intro e he
  rw [h] at he
  cases he

theorem RatiosPos.addOtherRatio (h : p.RatiosPos) (r : String × ℚ) :
    (p.addOtherRatio r).RatiosPos := by
  unfold TaskPriceData.addOtherRatio
  split_ifs with hpos
  · intro e he
    rw [AList.entries_insert, mem_cons] at he
    obtain rfl | he := he
    · exact hpos
    · exact h e ((kerase_sublist _ _).subset he)
  · exact h

theorem addOtherRatio_quota (p : TaskPriceData) (r : String × ℚ) :
    (p.addOtherRatio r).quota = p.quota := by
  unfold TaskPriceData.addOtherRatio
  split_ifs <;> rfl

theorem RatiosPos.foldl (h : p.RatiosPos) (ratios : List (String × ℚ)) :
    (ratios.foldl TaskPriceData.addOtherRatio p).RatiosPos := by
  induction ratios generalizing p with
  | nil => exact h
  | cons r ratios ih => exact ih (h.addOtherRatio r)

theorem foldl_quota (p : TaskPriceData) (ratios : List (String × ℚ)) :
    (ratios.foldl TaskPriceData.addOtherRatio p).quota = p.quota := by
  induction ratios generalizing p with
  | nil => rfl
  | cons r ratios ih => rw [foldl_cons, ih, addOtherRatio_quota]

theorem RatiosPos.multiplier_pos (h : p.RatiosPos) : 0 < p.otherRatioMultiplier := by
  refine prod_pos fun r hr => ?_
  obtain ⟨e, he, rfl⟩ := mem_map.mp hr
  exact h e he

end TaskPriceData

open TaskPriceData

section

variable {x y : TaskRequest} {a : TaskAttempt}

theorem perCallPrice_nonneg {config : TaskPriceConfig} {quotaPerUnit groupRatio base value : ℚ}
    {p p' : TaskPriceData} (hunit : 0 ≤ quotaPerUnit) (hgroup : 0 ≤ groupRatio) (hbase : 0 ≤ base)
    (hp : p.otherRatios = ∅)
    (h : perCallPrice config quotaPerUnit groupRatio base value p = .ok p') :
    0 ≤ p'.quota ∧ p'.RatiosPos := by
  have hempty := ratiosPos_of_empty hp
  unfold perCallPrice at h
  split at h
  · cases h
  rename_i quota hquota
  have hnonneg := quotaFromFloatStrict_nonneg (by positivity) hquota
  split_ifs at h <;> cases h
  · exact ⟨le_rfl, hempty⟩
  · exact ⟨hnonneg, hempty⟩

theorem modelPriceHelperPerCall_nonneg {config : TaskPriceConfig} {quotaPerUnit groupRatio : ℚ}
    {p : TaskPriceData} (hunit : 0 ≤ quotaPerUnit) (hgroup : 0 ≤ groupRatio)
    (hconfig : (∀ p ∈ config.modelPrice, 0 ≤ p) ∧ 0 ≤ config.modelRatio)
    (h : modelPriceHelperPerCall config quotaPerUnit groupRatio = .ok p) :
    0 ≤ p.quota ∧ p.RatiosPos := by
  obtain ⟨hprice, hratio⟩ := hconfig
  unfold modelPriceHelperPerCall at h
  split at h
  next modelPrice hmodel => exact perCallPrice_nonneg hunit hgroup (hprice modelPrice hmodel) rfl h
  · split_ifs at h
    exact perCallPrice_nonneg hunit hgroup (by positivity) rfl h

theorem Priced.price (h : Priced x) (ha : a.PricesNonneg) (hok : x.price a = .ok y) : Priced y := by
  have hgroup := ha.groupRatio
  have hunit := ha.quotaPerUnit
  revert hok
  fun_cases TaskRequest.price x a with
  | case3 cost _ hneg =>
    rintro ⟨⟩
    have hcost : 0 ≤ cost := not_lt.mp hneg
    refine ⟨quotaRoundChecked_nonneg (by positivity), ratiosPos_of_empty rfl, ?_⟩
    rintro snap ⟨⟩
    exact hgroup
  | case5 config hpricing p hp =>
    rintro ⟨⟩
    obtain ⟨hquota, hratios⟩ :=
      modelPriceHelperPerCall_nonneg hunit hgroup (ha.perCall config hpricing) hp
    exact ⟨hquota, hratios, h.snapshot⟩
  | _ => rintro ⟨⟩

theorem Priced.estimate (h : Priced x) : Priced (x.estimate a).1 := by
  fun_cases TaskRequest.estimate x a with
  | case3 _ ratios =>
    exact ⟨(foldl_quota x.priceData ratios).symm ▸ h.quota, h.ratios.foldl ratios,
      h.snapshot⟩
  | case4 _ ratios =>
    have hratios := h.ratios.foldl ratios
    have hnonneg : (0 : ℚ) ≤ (ratios.foldl TaskPriceData.addOtherRatio x.priceData).quota := by
      rw [foldl_quota x.priceData ratios]
      exact_mod_cast h.quota
    have hmult := hratios.multiplier_pos.le
    exact ⟨quotaFromFloatChecked_nonneg (mul_nonneg hnonneg hmult), hratios, h.snapshot⟩
  | _ => exact h

theorem Priced.adjust (h : Priced x) (parsed : ParsedTask) :
    0 ≤ (x.adjust parsed).2 ∧ (x.adjust parsed).1.priceData.RatiosPos ∧
      (x.adjust parsed).1.snapshot = x.snapshot := by
  have hkept : 0 ≤ x.priceData.quota ∧ x.priceData.RatiosPos ∧ x.snapshot = x.snapshot :=
    ⟨h.quota, h.ratios, rfl⟩
  unfold TaskRequest.adjust
  split
  · exact ⟨le_rfl, h.ratios, rfl⟩
  split
  next snap hsnap =>
    split
    · split
      · exact hkept
      rename_i cost _
      split_ifs with hneg
      · exact hkept
      · have hgroup := h.snapshot snap hsnap
        have hcost : 0 ≤ cost * snap.quotaPerUnit := not_lt.mp hneg
        exact ⟨quotaRoundChecked_nonneg (mul_nonneg hcost hgroup), h.ratios, rfl⟩
    · exact hkept
  · split
    · exact hkept
    have hreplaced : (x.priceData.replaceOtherRatios parsed.adjustedRatios).RatiosPos :=
      TaskPriceData.RatiosPos.foldl (ratiosPos_of_empty rfl) parsed.adjustedRatios
    have hbase : (0 : ℚ) ≤ (x.priceData.quota : ℚ) / x.priceData.otherRatioMultiplier :=
      div_nonneg (by exact_mod_cast h.quota) h.ratios.multiplier_pos.le
    unfold TaskRequest.recalcQuotaFromRatios
    dsimp only
    split_ifs
    · exact hkept
    · exact ⟨quotaFromFloatChecked_nonneg (mul_nonneg hbase hreplaced.multiplier_pos.le),
        hreplaced, rfl⟩

end

/-! ### The session of a submission -/

/-- A session as a submission opens it: nobody is trusted, no image is asked for, and the relay info
names the funding source. -/
structure TaskSession (s : BillingSession) : Prop where
  billingSource : s.relayInfo.billingSource = some s.funding.source
  trusted : s.trusted = false
  imageRequest : s.relayInfo.imageRequest = false

/-- The charge that the session of a submission holds against `base`, all of it remembered. -/
structure HoldsCharge (base : Ledger) (x : BillingSession × Ledger) : Prop where
  running : Running base x
  remembers : Remembers x.1
  session : TaskSession x.1

section

variable {s : BillingSession} {base l l' : Ledger} {info : RelayInfo} {quota : Int}

theorem syncRelayInfo_taskSession (htrusted : s.trusted = false)
    (himage : s.relayInfo.imageRequest = false) : TaskSession s.syncRelayInfo := by
  cases hf : s.funding <;> simp only [syncRelayInfo, hf] <;> exact ⟨rfl, htrusted, himage⟩

variable {env : PreConsumeEnv}

theorem openSession_taskSession {s₀ : BillingSession}
    (hforce : s₀.relayInfo.forcePreConsume = true) (htrusted : s₀.trusted = false)
    (himage : s₀.relayInfo.imageRequest = false)
    (h : openSession s₀ l quota env = .ok (s, l')) : TaskSession s := by
  have htrust : s₀.shouldTrust env.trustQuota env.tokenQuota = false := by
    rw [shouldTrust, if_pos hforce]
  have hpre := openSession_ok h
  rw [preConsume, htrust, if_neg (by simp), preConsumeSteps] at hpre
  split at hpre
  · cases hpre
  dsimp only at hpre
  split at hpre
  · split_ifs at hpre <;> cases hpre
  cases hpre
  refine syncRelayInfo_taskSession ?_ ?_
  · split_ifs <;> exact htrusted
  · split_ifs <;> exact himage

theorem tryWallet_taskSession {userQuota : Option Int}
    (hforce : info.forcePreConsume = true) (himage : info.imageRequest = false)
    (h : tryWallet info l quota userQuota env = .ok (s, l')) : TaskSession s := by
  unfold tryWallet at h
  split at h
  · cases h
  · split_ifs at h
    exact openSession_taskSession hforce rfl himage h

theorem trySubscription_taskSession (hforce : info.forcePreConsume = true)
    (himage : info.imageRequest = false)
    (h : trySubscription info l quota env = .ok (s, l')) : TaskSession s :=
  openSession_taskSession hforce rfl himage h

theorem newBillingSession_taskSession {pref : String} {env : NewSessionEnv} (hquota : 0 ≤ quota)
    (hwallet : env.wallet.rollback = true) (hsub : env.subscription.rollback = true)
    (hforce : info.forcePreConsume = true) (himage : info.imageRequest = false)
    (h : newBillingSession info l pref quota env = .ok (s, l')) : TaskSession s := by
  revert h
  fun_cases newBillingSession info l pref quota env with
  | case1 => exact trySubscription_taskSession hforce himage
  | case2 | case7 => exact tryWallet_taskSession hforce himage
  | case3 _ r hr =>
    rintro ⟨⟩
    exact tryWallet_taskSession hforce himage hr
  | case4 _ e info₁ l₁ hr =>
    obtain ⟨-, q, rfl⟩ := tryWallet_error hquota hwallet hr
    exact trySubscription_taskSession hforce himage
  | case8 _ _ r hr =>
    rintro ⟨⟩
    exact trySubscription_taskSession hforce himage hr
  | case10 _ _ e info₁ l₁ hr =>
    obtain ⟨-, rfl⟩ := trySubscription_error hsub hr
    exact tryWallet_taskSession hforce himage
  | _ => rintro ⟨⟩

theorem HoldsCharge.refund (h : HoldsCharge base (s, l)) : Restored base (refundNow (s, l)) :=
  (refund_restores_iff_remembers h.running).mpr h.remembers

theorem HoldsCharge.reserve (h : HoldsCharge base (s, l)) (target : Int) {r : ReserveReplies}
    (hroll : r.rollback = true) :
    HoldsCharge base (s.reserve l target r).1 ∧
      ((s.reserve l target r).2 = none → target ≤ (s.reserve l target r).1.1.preConsumedQuota) := by
  let c : ReserveCall := ⟨target, s.relayInfo.imageRequestCount, r⟩
  obtain ⟨hsource, htrusted, himage⟩ := h.session
  have hkeep : ¬ Overwrites (s, l) c := by
    rintro ⟨⟨-, himg, -⟩, -⟩
    exact absurd himg (by rw [show (s.setImageCount c.imageRequestCount).relayInfo.imageRequest =
      s.relayInfo.imageRequest from rfl, himage]; decide)
  have hrunning : Running base (s.reserve l target r).1 := h.running.reserve (c := c) hroll
  have hrem : Remembers (s.reserve l target r).1.1 :=
    (Remembers.reserve (c := c) h.running hroll h.remembers hkeep).1
  have hout : ReserveOutcome base s l target r (s.reserve l target r) :=
    reserve_outcome h.running.isOpen hroll
  have hun : Unresolved s := h.running.unresolved
  generalize s.reserve l target r = res at hout hrunning hrem ⊢
  cases hout with
  | skipped hskip =>
    refine ⟨h, fun _ => ?_⟩
    rcases hskip with hset | href | ⟨htr, -⟩ | hle
    · rw [hun.1] at hset
      cases hset
    · rw [hun.2.1] at href
      cases href
    · rw [htrusted] at htr
      cases htr
    · exact hle
  | refused e hgo hreply => exact ⟨h, nofun⟩
  | undone e hgo hreply =>
    refine ⟨⟨hrunning, hrem, ?_, htrusted, himage⟩, nofun⟩
    rw [show (afterRollback s).relayInfo = s.relayInfo from rfl, hsource, afterRollback]
    cases s.funding <;> rfl
  | done l' hgo hreply hopen =>
    refine ⟨⟨hrunning, hrem, ?_⟩, fun _ => ?_⟩
    · refine syncRelayInfo_taskSession ?_ himage
      dsimp only
      rw [htrusted]
      rfl
    · rw [afterReserve_preConsumedQuota]
      omega

end

/-! ### The account of a submission -/

structure Unfunded (reqId : String) (info : RelayInfo) : Prop where
  requestId : info.requestId = reqId
  billingSource : info.billingSource = none
  final : info.finalPreConsumedQuota = 0
  imageRequest : info.imageRequest = false

/-- **The account of a submission** before its task is stored: either nothing has been moved, or a
session holds the charge. Resets of subscriptions that were due may have come first. -/
inductive Funds (reqId : String) (start : Ledger) (x : BilledRequest) : Prop
  | idle (hbilling : x.billing = none) (hinfo : Unfunded reqId x.relayInfo)
      (hledger : x.ledger = start) (hjobs : x.jobs = [])
  | charged {s : BillingSession} {subs : SubTable}
      (hbilling : x.billing = some s) (hsubs : ResetsTo start.subscription.subs subs)
      (hholds : HoldsCharge (start.setSubs subs) (s, x.ledger)) (hjobs : x.jobs = [])

/-- The replies under which the charge of an attempt is sound: rollbacks succeed, and nobody else
creates the record of this request. -/
structure OpenReplies.Sound (o : OpenReplies) : Prop where
  wallet : o.wallet.rollback = true
  subscription : o.subscription.rollback = true
  create : ∀ dup, o.subscription.funding.subscription.create ≠ .duplicate dup

/-- The balances that a submission starts from: the stored subscriptions are valid, and the id of
the request is new. -/
structure FreshLedger (reqId : String) (start : Ledger) : Prop where
  valid : ∀ sub ∈ start.subscription.subs.rows, sub.Valid
  fresh : start.subscription.records.find reqId = none

section

variable {reqId : String} {start : Ledger} {x y : BilledRequest}

theorem Funds.congr (h : Funds reqId start x) (hbilling : y.billing = x.billing)
    (hinfo : y.relayInfo = x.relayInfo) (hledger : y.ledger = x.ledger)
    (hjobs : y.jobs = x.jobs) : Funds reqId start y := by
  cases h with
  | idle hb hi hl hj =>
    exact .idle (hbilling.trans hb) (by rw [hinfo]; exact hi) (hledger.trans hl) (hjobs.trans hj)
  | charged hb hs hc hj =>
    exact .charged (hbilling.trans hb) hs (by rw [hledger]; exact hc) (hjobs.trans hj)

theorem Funds.noteQuotaClamp (h : Funds reqId start x) (clamp : Option QuotaClamp) :
    Funds reqId start (x.noteQuotaClamp clamp) := by
  unfold BilledRequest.noteQuotaClamp
  split
  · exact h.congr rfl rfl rfl rfl
  · exact h

theorem Funds.preConsumeBilling {o : OpenReplies} {quota : Int}
    (hfresh : FreshLedger reqId start) (ho : OpenReplies.Sound o) (hbilling : x.billing = none)
    (hinfo : Unfunded reqId x.relayInfo) (hforce : x.relayInfo.forcePreConsume = true)
    (hledger : x.ledger = start) (hjobs : x.jobs = []) :
    Funds reqId start (Service.preConsumeBilling x quota o).1 := by
  have hidle : Funds reqId start x := .idle hbilling hinfo hledger hjobs
  have hx : x.info = x.relayInfo := by rw [info, hbilling]
  unfold Service.preConsumeBilling
  split
  · exact hidle
  split_ifs with hneg
  · exact hidle
  have hquota : 0 ≤ quota := not_lt.mp hneg
  rw [hx]
  have hnew : ∀ info, info.requestId = x.relayInfo.requestId →
      NewRequest info x.ledger (o.env x.relayInfo x.ledger).subscription := by
    intro info hid
    refine ⟨?_, ?_, ho.create⟩
    · rw [hledger]
      exact hfresh.valid
    · rw [hledger, hid, hinfo.requestId]
      exact hfresh.fresh
  generalize hopen : newBillingSession x.relayInfo x.ledger x.billingPreference quota
    (o.env x.relayInfo x.ledger) = res
  cases res with
  | error r =>
    obtain ⟨e, info, l⟩ := r
    obtain ⟨rfl, q, rfl⟩ := newBillingSession_error hquota ho.wallet ho.subscription hopen
    refine .idle ?_ ?_ hledger ?_ <;> simp [setInfo, hbilling]
    · exact ⟨hinfo.requestId, hinfo.billingSource, hinfo.final, hinfo.imageRequest⟩
    · exact hjobs
  | ok r =>
    obtain ⟨s, l⟩ := r
    obtain ⟨subs, hsubs, hopens⟩ :=
      newBillingSession_opens hquota ho.wallet ho.subscription hnew hopen
    obtain ⟨hrunning, hrem⟩ := hopens.running
    have hsession := newBillingSession_taskSession hquota ho.wallet ho.subscription hforce
      hinfo.imageRequest hopen
    rw [hledger] at hsubs hrunning
    exact .charged rfl hsubs ⟨hrunning, hrem, hsession⟩ hjobs

end

/-! ### Attempts -/

section

variable {reqId : String} {start : Ledger} {x y : TaskRequest} {a : TaskAttempt}

section

variable (h : Funds reqId start x.request)
include h

theorem Funds.price (hok : x.price a = .ok y) : Funds reqId start y.request := by
  revert hok
  fun_cases TaskRequest.price x a with
  | case3 =>
    rintro ⟨⟩
    exact h.noteQuotaClamp _
  | case5 =>
    rintro ⟨⟩
    exact h
  | _ => rintro ⟨⟩

theorem Funds.estimate : Funds reqId start (x.estimate a).1.request := by
  fun_cases TaskRequest.estimate x a with
  | case4 => exact h.noteQuotaClamp _
  | _ => exact h

theorem Funds.preConsume
    (hfresh : FreshLedger reqId start) (ha : OpenReplies.Sound a.openReplies) :
    Funds reqId start (x.preConsume a).1.request := by
  unfold TaskRequest.preConsume
  split_ifs with hopen
  · obtain ⟨hnone, -⟩ := hopen
    cases h with
    | idle hb hi hl hj =>
      have hinfo : x.request.info = x.request.relayInfo := by rw [info, hnone]
      refine Funds.preConsumeBilling hfresh ha ?_ ?_ ?_ ?_ ?_ <;>
        simp [setInfo, hnone, hinfo]
      · exact ⟨hi.requestId, hi.billingSource, hi.final, hi.imageRequest⟩
      · exact hl
      · exact hj
    | charged hb _ _ _ =>
      rw [hnone] at hb
      cases hb
  · exact h

end

theorem Priced.preConsume (h : Priced x) : Priced (x.preConsume a).1 := by
  unfold TaskRequest.preConsume
  split_ifs
  · exact ⟨h.quota, h.ratios, h.snapshot⟩
  · exact h

theorem Funds.adjust (h : Funds reqId start x.request) (parsed : ParsedTask) :
    Funds reqId start (x.adjust parsed).1.request := by
  unfold TaskRequest.adjust
  split
  · exact h
  split
  · split
    · split
      · exact h
      · split_ifs
        · exact h
        · exact h.noteQuotaClamp _
    · exact h
  · split
    · exact h
    unfold TaskRequest.recalcQuotaFromRatios
    dsimp only
    split_ifs
    · exact h
    · exact h.noteQuotaClamp _

/-- What an attempt leaves: the account and the price, with a quota that is not negative. -/
structure Attempted (reqId : String) (start : Ledger)
    (res : TaskRequest × Except TaskError TaskSubmitResult) : Prop where
  funds : Funds reqId start res.1.request
  priced : Priced res.1
  quota : ∀ result, res.2 = .ok result → 0 ≤ result.quota

theorem Attempted.failed (h : Funds reqId start x.request) (hx : Priced x) (e : TaskError) :
    Attempted reqId start (x, .error e) where
  funds := h
  priced := hx
  quota := by
    intro result hok
    cases hok

/-- **One attempt** keeps the account of a submission. -/
theorem Funds.relayTaskSubmit (h : Funds reqId start x.request) (hx : Priced x)
    (hfresh : FreshLedger reqId start) (ha : a.PricesNonneg)
    (hreplies : OpenReplies.Sound a.openReplies) :
    Attempted reqId start (Controller.relayTaskSubmit x a) := by
  unfold Controller.relayTaskSubmit
  split
  · exact .failed h hx _
  split
  · exact .failed h hx _
  rename_i x₁ hprice
  have h₁ := h.price hprice
  have hx₁ := hx.price ha hprice
  have h₂ : Funds reqId start (x₁.estimate a).1.request := h₁.estimate
  have hx₂ : Priced (x₁.estimate a).1 := hx₁.estimate
  generalize x₁.estimate a = est at h₂ hx₂
  obtain ⟨x₂, _ | e⟩ := est
  · have h₃ : Funds reqId start (x₂.preConsume a).1.request := h₂.preConsume hfresh hreplies
    have hx₃ : Priced (x₂.preConsume a).1 := hx₂.preConsume
    dsimp only
    generalize x₂.preConsume a = pre at h₃ hx₃
    obtain ⟨x₃, _ | e⟩ := pre
    · dsimp only
      split
      · exact .failed h₃ hx₃ _
      rename_i parsed _
      obtain ⟨hquota, hratios, hsnap⟩ := hx₃.adjust parsed
      refine ⟨h₃.adjust parsed, ⟨hquota, hratios, ?_⟩, ?_⟩
      · dsimp only
        rw [hsnap]
        exact hx₃.snapshot
      · rintro result ⟨⟩
        exact hquota
    · exact .failed h₃ hx₃ _
  · exact .failed h₂ hx₂ _

/-- The inputs of a submission under which its account is sound: the prices are not negative, and
every rollback, and every write of the settlement, succeeds. -/
structure SubmissionEnv.Sound (env : SubmissionEnv) : Prop where
  prices : ∀ i, (env.rounds i).attempt.PricesNonneg
  replies : ∀ i, OpenReplies.Sound (env.rounds i).attempt.openReplies
  reserve : env.reserveReplies.rollback = true
  settle : env.settleReplies = ⟨true, true⟩

variable {env : SubmissionEnv}

structure Looped (reqId : String) (start : Ledger)
    (res : TaskRequest × Except TaskError (Option TaskSubmitResult)) : Prop where
  funds : Funds reqId start res.1.request
  quota : ∀ result, res.2 = .ok (some result) → 0 ≤ result.quota

theorem Looped.failed (h : Funds reqId start x.request) (e : TaskError) :
    Looped reqId start (x, .error e) where
  funds := h
  quota := by
    intro result hok
    cases hok

/-- **The retry loop** keeps the account of a submission. -/
theorem Funds.submitLoop (hfresh : FreshLedger reqId start) (henv : env.Sound) (n retry : ℕ)
    (h : Funds reqId start x.request) (hx : Priced x) (err : Option TaskError) :
    Looped reqId start
      (Controller.submitLoop Controller.relayTaskSubmit env n retry x err) := by
  induction n generalizing retry x err with
  | zero =>
    cases err with
    | some e => exact .failed h e
    | none =>
      refine ⟨h, ?_⟩
      intro result hok
      cases hok
  | succ n ih =>
    unfold Controller.submitLoop
    dsimp only
    split
    · exact .failed h _
    split
    · exact .failed h _
    have hattempt : Attempted reqId start
        (Controller.relayTaskSubmit x (env.rounds retry).attempt) :=
      h.relayTaskSubmit hx hfresh (henv.prices retry) (henv.replies retry)
    generalize Controller.relayTaskSubmit x (env.rounds retry).attempt = res at hattempt
    obtain ⟨y, res⟩ := res
    obtain ⟨hy, hpy, hquota⟩ := hattempt
    dsimp only
    split
    · exact .failed hy _
    cases res with
    | ok result =>
      refine ⟨hy, ?_⟩
      rintro result' ⟨⟩
      exact hquota result rfl
    | error e =>
      dsimp only
      split
      · exact ih (retry + 1) hy hpy (some e)
      · exact .failed hy _

end

/-! ### The end of a submission -/

/-- The balances once the refunds that a request has started have run, all writes succeeding. -/
def refundedLedger (x : BilledRequest) : Ledger :=
  x.jobs.foldl (fun l j => j.run l .allOk) x.ledger

/-- How a submission ends: before its task is stored and with all balances restored, or with a task
whose quota is what has been taken. -/
inductive Concluded (start : Ledger) : SubmissionOutcome → Prop
  | aborted {y : TaskRequest} {e : TaskError} {subs : SubTable}
      (hsubs : ResetsTo start.subscription.subs subs)
      (hrestored : Restored (start.setSubs subs) (refundedLedger y.request)) :
      Concluded start ⟨y, none, some e⟩
  | stored {y : TaskRequest} {task : Task} {subs : SubTable}
      (hsubs : ResetsTo start.subscription.subs subs)
      (hnet : netTaken (start.setSubs subs) y.request.ledger task = task.quota)
      (hquota : 0 ≤ task.quota) : Concluded start ⟨y, some task, none⟩

section

variable {reqId : String} {start : Ledger} {x : TaskRequest} {env : SubmissionEnv}
  {result : TaskSubmitResult}

theorem Funds.abort (h : Funds reqId start x.request) (e : TaskError) :
    Concluded start (abortSubmission x e) := by
  cases h with
  | idle hb hi hl hj =>
    refine .aborted (ResetsTo.refl _) ?_
    simp only [refundBilling, hb, refundedLedger, hj, hl]
    exact ⟨rfl, rfl, rfl⟩
  | @charged s subs hb hs hc hj =>
    refine .aborted hs ?_
    have hrefund := hc.refund
    simp only [refundBilling, hb, hj]
    unfold refundNow at hrefund
    cases hjob : s.refund.2 with
    | none | some j =>
      rw [hjob] at hrefund
      exact hrefund

variable {quota : Int}

theorem HoldsCharge.settle {base l : Ledger} {s : BillingSession}
    (h : HoldsCharge base (s, l)) (hquota : 0 ≤ quota) (hcover : quota ≤ s.preConsumedQuota) :
    (s.settle l quota ⟨true, true⟩).2 = none ∧
      Taken base s.funding quota (tokenShare s.relayInfo.isPlayground quota)
        (s.settle l quota ⟨true, true⟩).1.2 := by
  have hopen : Open base s l := h.running.isOpen
  have hun : Unresolved s := h.running.unresolved
  have hroom : Affordable base quota s.funding := by
    have hfund := hopen.funding
    cases hf : s.funding with
    | wallet w => trivial
    | subscription f =>
      simp only [hf] at hfund
      obtain ⟨sub, hheld⟩ := hfund
      intro sub' hfind hlimit
      rw [hheld.id_eq, hheld.stored] at hfind
      cases hfind
      have hfits := hheld.fits hlimit
      omega
  have hnil := hopen.settle_nil hun hquota hroom
  exact ⟨hnil, hopen.settle_ok hun (fun _ => hquota) hnil⟩

theorem HoldsCharge.netTaken_eq {base l l' : Ledger} {s : BillingSession} {t : Int}
    {task : Task} (h : HoldsCharge base (s, l)) (htaken : Taken base s.funding quota t l')
    (hsource : task.billingSource = taskBillingSource s.relayInfo.billingSource)
    (hid : task.subscriptionId = s.relayInfo.subscriptionId) :
    netTaken base l' task = quota := by
  rw [h.session.billingSource] at hsource
  have hfund := h.running.isOpen.funding
  cases hf : s.funding with
  | wallet w =>
    rw [hf] at htaken hsource
    have hnot : ¬ taskIsSubscription task := fun ht => by
      rw [ht.1] at hsource
      cases hsource
    rw [netTaken, if_neg hnot, htaken.2.1]
    omega
  | subscription f =>
    simp only [hf] at hfund
    rw [hf] at htaken hsource
    obtain ⟨sub, hheld⟩ := hfund
    obtain ⟨-, -, sub', hfind, hsubs⟩ := htaken
    rw [hheld.id_eq, hheld.stored] at hfind
    cases hfind
    have hinfo : task.subscriptionId = sub.id := hid.trans hheld.info_id
    have hsub : taskIsSubscription task := ⟨hsource, by rw [hinfo]; exact hheld.valid.1⟩
    have hused : l'.subscription.subs.find sub.id = some (sub.use quota) := by
      rw [hsubs]
      exact find_save_of_find hheld.stored rfl
    rw [netTaken, if_pos hsub, hinfo, usage_of_find hused, usage_of_find hheld.stored]
    change sub.amountUsed + quota - sub.amountUsed = quota
    omega

theorem settleBilling_unfunded {x : BilledRequest} (hbilling : x.billing = none)
    (hinfo : Unfunded reqId x.relayInfo) (hquota : 0 ≤ quota) :
    (settleBilling x quota ⟨true, true⟩).2 = none ∧
      (settleBilling x quota ⟨true, true⟩).1.ledger.wallet = x.ledger.wallet - quota := by
  have hx : x.info = x.relayInfo := by rw [info, hbilling]
  simp only [settleBilling, hbilling, hinfo.final, sub_zero]
  split_ifs
  · refine ⟨rfl, ?_⟩
    dsimp only
    omega
  have hpos : 0 < quota := by omega
  simp only [postConsumeQuota, consumeFunding, hx, hinfo.billingSource, reduceCtorEq, if_false,
    if_pos hpos, if_true]
  generalize htoken : settleToken x.relayInfo.isPlayground
    { x.ledger with wallet := x.ledger.wallet - quota } quota true = tok
  obtain ⟨l', e⟩ := tok
  obtain rfl := settleToken_true htoken
  obtain rfl := settleToken_ok htoken
  exact ⟨rfl, rfl⟩

/-- **The end of a submission** after a successful attempt. -/
theorem Funds.finish (h : Funds reqId start x.request) (henv : env.Sound)
    (hquota : 0 ≤ result.quota) : Concluded start (finishSubmission env x result) := by
  unfold finishSubmission
  split
  · exact h.abort _
  cases h with
  | idle hb hi hl hj =>
    have hidle : Funds reqId start x.request := .idle hb hi hl hj
    have hreserve : reserveFinal env x result.quota = (x, none) := by
      rw [reserveFinal, hb]
    rw [hreserve]
    dsimp only
    split
    · exact hidle.abort _
    split
    · exact hidle.abort _
    obtain ⟨hnil, hwallet⟩ := settleBilling_unfunded hb hi hquota
    rw [henv.settle, hnil]
    refine .stored (ResetsTo.refl _) ?_ hquota
    have hnot : ¬ taskIsSubscription (submittedTask env x result) := by
      rintro ⟨hsource, -⟩
      simp only [submittedTask, info, hb, hi.billingSource] at hsource
      cases hsource
    rw [netTaken, if_neg hnot]
    change start.wallet - (settleBilling x.request result.quota ⟨true, true⟩).1.ledger.wallet =
      result.quota
    rw [hwallet, hl]
    omega
  | @charged s subs hb hs hc hj =>
    obtain ⟨hres, hcover⟩ := hc.reserve result.quota henv.reserve
    unfold reserveFinal
    rw [hb]
    dsimp only
    generalize s.reserve x.request.ledger result.quota env.reserveReplies = res at hres hcover
    obtain ⟨⟨s', l'⟩, _ | e⟩ := res
    · dsimp only
      have hfunds : Funds reqId start (x.request.setSession (s', l')) :=
        .charged rfl hs hres hj
      split
      · exact Funds.abort hfunds _
      split
      · exact Funds.abort hfunds _
      obtain ⟨hnil, htaken⟩ := hres.settle hquota (hcover rfl)
      simp only [henv.settle, settleBilling, setSession, hnil]
      exact .stored hs (hres.netTaken_eq htaken rfl rfl) hquota
    · have hfunds : Funds reqId start (x.request.setSession (s', l')) :=
        .charged rfl hs hres hj
      exact Funds.abort hfunds _

/-- A submission as `RelayTask` starts it: no session, no quota and no refund yet. The ratios are
those that `ResolveOriginTask` presets for a remix; `AddOtherRatio` lets only positive ones in. -/
structure TaskRequest.Fresh (x : TaskRequest) : Prop where
  billing : x.request.billing = none
  info : Unfunded x.request.relayInfo.requestId x.request.relayInfo
  jobs : x.request.jobs = []
  quota : x.priceData.quota = 0
  otherRatios : x.priceData.RatiosPos
  snapshot : x.snapshot = none

end

/-! ### The operations on a stored task -/

inductive TaskOperation
  | recalculate (actualQuota : Int) (ans : BillingReply)
  | refund (ans : BillingReply)

def TaskOperation.reply : TaskOperation → BillingReply
  | .recalculate _ ans | .refund ans => ans

def taskOperationStep (b : TaskBilling) : TaskOperation → TaskBilling
  | .recalculate actualQuota ans => recalculateTaskQuota ans b actualQuota
  | .refund ans => (refundTaskQuota ans b).2

/-- **The invariant of a stored task.** The copy is the row, and the quota of the row is what has
been taken since `base`. -/
structure Balanced (base : Ledger) (b : TaskBilling) : Prop where
  copy : b.task = b.row
  net : netTaken base b.accounts.ledger b.row = b.row.quota
  quota : 0 ≤ b.row.quota
  usage : 0 ≤ usage base b.row.subscriptionId

section

variable {base l l' : Ledger} {task : Task} {delta : Int} {b : TaskBilling}

/-- An adjustment moves the net amount by its difference, as long as that is not negative: below, a
subscription stops at zero. -/
theorem taskAdjustFunding_netTaken {ok : Bool} (husage : 0 ≤ usage base task.subscriptionId)
    (hnonneg : 0 ≤ netTaken base l task + delta)
    (h : taskAdjustFunding ok task l delta = (true, l')) :
    netTaken base l' task = netTaken base l task + delta := by
  unfold taskAdjustFunding at h
  by_cases hsub : taskIsSubscription task
  · rw [if_pos hsub, SubscriptionFunding.adjust] at h
    simp only [netTaken, if_pos hsub] at hnonneg ⊢
    cases hpost : postConsumeUserSubscriptionDelta l.subscription.subs task.subscriptionId delta
        ok with
    | error e => simp [hpost] at h
    | ok subs =>
      simp only [hpost, Prod.mk.injEq, true_and] at h
      subst h
      obtain ⟨-, ⟨rfl, rfl⟩ | ⟨sub, hfind, -, rfl⟩⟩ := postConsume_ok hpost
      · rw [Ledger.setSubs_self]
        omega
      obtain ⟨-, hid⟩ := mem_of_find hfind
      have hsaved : (l.setSubs (l.subscription.subs.save
          { sub with amountUsed := max (sub.amountUsed + delta) 0 })).subscription.subs.find
            task.subscriptionId =
          some { sub with amountUsed := max (sub.amountUsed + delta) 0 } :=
        find_save_of_find hfind hid
      rw [usage_of_find hfind] at hnonneg ⊢
      rw [usage_of_find hsaved]
      dsimp only
      omega
  · rw [if_neg hsub] at h
    simp only [netTaken, if_neg hsub]
    split_ifs at h with hpos hok hvalid <;> cases h <;> dsimp only <;> omega

theorem taskAdjustTokenQuota_netTaken (ans : BillingReply) (task' : Task) (delta : Int) :
    netTaken base (taskAdjustTokenQuota ans task' l delta) task = netTaken base l task := by
  unfold taskAdjustTokenQuota increaseTokenQuota decreaseTokenQuota
  split_ifs <;> rfl

theorem Balanced.adjust {ans : BillingReply} {quota userUsed channelUsed : Int}
    (h : Balanced base b) (hquota : 0 ≤ quota) (hupdate : ans.updateQuota = true)
    (hadjust : taskAdjustFunding ans.funding b.task b.accounts.ledger (quota - b.task.quota) =
      (true, l)) :
    Balanced base (TaskBilling.updateQuota ans.updateQuota { b with
        task := { b.task with quota := quota }
        accounts := ⟨taskAdjustTokenQuota ans b.task l (quota - b.task.quota), userUsed,
          channelUsed⟩ }) := by
  obtain ⟨hcopy, hnet, -, husage⟩ := h
  rw [hcopy] at hadjust ⊢
  have hmoved := taskAdjustFunding_netTaken husage (by rw [hnet]; omega) hadjust
  simp only [TaskBilling.updateQuota, hupdate, if_true]
  refine ⟨rfl, ?_, hquota, husage⟩
  rw [taskAdjustTokenQuota_netTaken]
  change netTaken base l b.row = quota
  omega

/-- **One call** on a stored task keeps the balance, whether its adjustment succeeds or not. -/
theorem Balanced.step (h : Balanced base b) (op : TaskOperation)
    (hop : op.reply.updateQuota = true) : Balanced base (taskOperationStep b op) := by
  cases op with
  | recalculate actualQuota ans =>
    unfold taskOperationStep recalculateTaskQuota
    dsimp only
    split
    · exact h
    split
    · exact h
    split
    · exact h
    next hneg _ _ l hadjust => exact h.adjust (not_lt.mp hneg) hop hadjust
  | refund ans =>
    unfold taskOperationStep refundTaskQuota
    dsimp only
    split
    · exact h
    split
    · exact h
    next _ _ l hadjust =>
      rw [← zero_sub] at hadjust ⊢
      exact h.adjust le_rfl hop hadjust

end

end NewApi.Controller
