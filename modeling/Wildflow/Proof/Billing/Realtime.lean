import Wildflow.Billing.Realtime
import Wildflow.Proof.Billing.SessionConservation
import Mathlib.Algebra.Order.BigOperators.Group.List

/-!
# What a realtime session costs

The wallet pays the session and, on top of it, all increments.
-/

namespace Wildflow.Billing
open Wildflow.Store List Int
variable {settings : RatioSettings} {pricing : RealtimePricing} {state : RealtimeState} {info info' : RelayInfo}
  {usage : RealtimeUsage}

def PendingUsage.closing (pending : PendingUsage) : List RealtimeUsage :=
  (if pending.usage.totalTokens = 0 then [] else [pending.usage]) ++
    if pending.localUsage.totalTokens = 0 then [] else [pending.localUsage]

/-- The usages that the events bill one by one, as long as no increment is refused. -/
def billedUsages (pending : PendingUsage) : List RealtimeEvent → List RealtimeUsage
  | [] => pending.closing
  | event :: rest =>
    match (pending.receive event).due event with
    | none => billedUsages (pending.receive event) rest
    | some (usage, cleared) => usage :: billedUsages cleared rest

section
variable (settings : RatioSettings) (pricing : RealtimePricing)

def increment (usage : RealtimeUsage) : Int :=
  if pricing.usePrice then 0 else max 0 (preWssQuota settings pricing usage)

section
variable (usages : List RealtimeUsage)

def increments : Int := (usages.map (increment settings pricing)).sum

theorem increment_nonnegative (usage : RealtimeUsage) : 0 ≤ increment settings pricing usage := by
  unfold increment
  split <;> omega

/-- How often the wallet is debited before the settlement. -/
def debits : Nat := usages.countP (0 < increment settings pricing ·)

theorem debits_le_increments : (debits settings pricing usages : Int) ≤ increments settings pricing usages := by
  induction usages with
  | nil => exact le_refl 0
  | cons usage rest ih =>
    have nonneg := increment_nonnegative settings pricing usage
    simp only [debits, increments, countP_cons, map_cons, sum_cons, decide_eq_true_eq] at ih ⊢
    split <;> omega

theorem increments_eq_zero_iff :
    increments settings pricing usages = 0 ↔ ∀ usage ∈ usages, increment settings pricing usage = 0 := by
  induction usages with
  | nil => simp [increments]
  | cons usage rest ih =>
    have nonneg := increment_nonnegative settings pricing usage
    have others := (natCast_nonneg _).trans (debits_le_increments settings pricing rest)
    rw [forall_mem_cons, ← ih]
    simp only [increments, map_cons, sum_cons] at others ⊢
    omega

end

/-- The ratio that the increments are priced with, and the price of a usage before it is rounded. -/
def wssRatio : ℚ :=
  let usingGroup := pricing.autoGroup.getD pricing.usingGroup
  (settings.groupGroupRatio pricing.userGroup usingGroup).getD (settings.groupRatio usingGroup) *
    settings.modelRatio pricing.originModelName

def wssPrice (usage : RealtimeUsage) : ℚ :=
  (usage.inputTextTokens + usage.outputTextTokens * settings.completionRatio pricing.originModelName +
    usage.inputAudioTokens * settings.audioRatio pricing.originModelName +
    usage.outputAudioTokens * settings.audioRatio pricing.originModelName *
      settings.audioCompletionRatio pricing.originModelName) * wssRatio settings pricing

theorem quotaFromDecimal_pos_iff {value : ℚ} (nonneg : 0 ≤ value) : 0 < quotaFromDecimal value ↔ 1 / 2 ≤ value := by
  have rounded : 0 < ⌊value + 1 / 2⌋ ↔ 1 / 2 ≤ value := by
    rw [floor_pos]
    constructor <;> intro bound <;> linarith
  unfold quotaFromDecimal roundAwayFromZero minQuota maxQuota
  rw [if_pos nonneg, ← rounded]
  omega

theorem increment_eq_zero_iff (usage : RealtimeUsage) :
    increment settings pricing usage = 0 ↔ pricing.usePrice = true ∨ wssRatio settings pricing = 0 ∨
      0 < wssPrice settings pricing usage ∧ wssPrice settings pricing usage < 1 / 2 := by
  unfold increment
  cases priced : pricing.usePrice with
  | true => simp
  | false =>
    have quota : preWssQuota settings pricing usage = quotaFromDecimal
        (if wssRatio settings pricing ≠ 0 ∧ wssPrice settings pricing usage ≤ 0 then 1 else wssPrice settings pricing usage) := by
      simp only [preWssQuota, calculateAudioQuota, priced, Bool.false_eq_true, if_false]
      rfl
    have price : wssRatio settings pricing = 0 → wssPrice settings pricing usage = 0 := by
      intro free
      rw [wssPrice, free, mul_zero]
    have made := @quotaFromDecimal_pos_iff (if wssRatio settings pricing ≠ 0 ∧ wssPrice settings pricing usage ≤ 0 then 1
      else wssPrice settings pricing usage) (by split <;> grind)
    simp only [Bool.false_eq_true, if_false, false_or, max_eq_left_iff, quota, ← not_lt]
    split <;> grind

end

structure Payable (info : RelayInfo) (db : DB) : Prop where
  user : 0 < info.userId
  liveUser : db.LiveUser info.userId
  token : TokenReady db info

structure Debited (info : RelayInfo) (db after : DB) (amount : Int) : Prop where
  payable : Payable info after
  reservations : after.reservations = db.reservations
  charged : ∀ {before : DB} {total : Int}, ChargedBy before db info none total →
    ChargedBy before after info none (total + amount)

section
variable {settings : RatioSettings} {pricing : RealtimePricing} {info : RelayInfo} {db after : DB}

theorem Debited.trans {middle : DB} {first second : Int} (one : Debited info db middle first)
    (other : Debited info middle after second) : Debited info db after (first + second) :=
  ⟨other.payable, other.reservations.trans one.reservations, fun paid => by
    rw [← add_assoc]
    exact other.charged (one.charged paid)⟩

section
variable (payable : Payable info db)
include payable

theorem Debited.refl : Debited info db db 0 :=
  ⟨payable, rfl, fun paid => by rwa [add_zero]⟩

theorem Payable.debit (amt : Int) :
    Debited info db ((db.debitUser info.userId amt).debitToken info.tokenId amt) amt where
  payable := {
    user := payable.user
    liveUser := by
      rw [debitToken_liveUser, debitUser_liveUser]
      exact payable.liveUser
    token := by
      refine ⟨payable.token.1, fun billed => ⟨(payable.token.2 billed).1, ?_⟩⟩
      rw [debitToken_liveToken, debitUser_liveToken]
      exact (payable.token.2 billed).2 }
  reservations := rfl
  charged := by
    intro before total charged
    have live : 0 < info.tokenId → (db.debitUser info.userId amt).LiveToken info.tokenId := by
      intro pos
      rw [debitUser_liveToken]
      exact payable.token.live pos
    have paid : TokenCharged before (db.debitUser info.userId amt) info.tokenId total := charged.token
    exact ⟨charged.wallet.debit payable.liveUser amt, paid.debit live amt,
      fun id => (charged.used id).trans (by simp)⟩

theorem Payable.countUse (id use : Int) : Debited info db (updateUserUsedQuotaAndRequestCount db id use) 0 where
  payable := {
    user := payable.user
    liveUser := countUse_liveUser db id use payable.liveUser
    token := by
      have tokens : (updateUserUsedQuotaAndRequestCount db id use).tokens = db.tokens := by
        unfold updateUserUsedQuotaAndRequestCount
        split <;> rfl
      unfold TokenReady DB.LiveToken
      rw [tokens]
      exact payable.token }
  reservations := countUse_reservations db id use
  charged := fun paid => by
    rw [add_zero]
    exact paid.countUse id use

theorem preWssConsumeQuota_debited {u : Unit}
    (granted : preWssConsumeQuota settings pricing db info usage = (.ok u, after)) :
    Debited info db after (increment settings pricing usage) := by
  unfold preWssConsumeQuota at granted
  unfold increment
  split at granted
  · rename_i priced
    cases granted
    rw [if_pos priced]
    exact .refl payable
  · rename_i ratio
    rw [if_neg ratio]
    dsimp only at granted
    split at granted
    · rename_i free
      cases granted
      rw [max_eq_left free]
      exact .refl payable
    · rename_i pos
      have ne : preWssQuota settings pricing usage ≠ 0 := by omega
      have user := payable.user
      rw [max_eq_right (by omega)]
      unfold reserveUserQuota at granted
      rw [if_neg (by omega)] at granted
      split at granted
      · cases granted
      rename_i paid
      obtain ⟨_, rfl⟩ := reserveUserQuotaTx_ok.mp (Tx.commit_eq_ok.mp paid)
      split at granted
      · rename_i playground
        cases granted
        have debited := payable.debit (preWssQuota settings pricing usage)
        rwa [debitToken_skip (.inl (payable.token.1 playground))] at debited
      · rename_i billed
        have named := (payable.token.2 (by simpa using billed)).1
        unfold reserveTokenQuota at granted
        rw [if_neg (by omega)] at granted
        split at granted
        · cases granted
        · rename_i reserved
          cases granted
          obtain ⟨_, rfl⟩ := (reserveTokenQuotaTx_ok ne).mp (Tx.commit_eq_ok.mp reserved)
          exact payable.debit (preWssQuota settings pricing usage)

end

theorem preConsumeUsage_debited (payable : Payable info state.db)
    (granted : (preConsumeUsage settings pricing info state usage).failed = false) :
    state.failed = false ∧ (preConsumeUsage settings pricing info state usage).pending = state.pending ∧
      Debited info state.db (preConsumeUsage settings pricing info state usage).db
        (increment settings pricing usage) := by
  unfold preConsumeUsage at granted ⊢
  rcases out : preWssConsumeQuota settings pricing state.db info usage with ⟨res, paid⟩
  rw [out] at granted
  cases res with
  | error err => cases granted
  | ok u => exact ⟨granted, rfl, preWssConsumeQuota_debited payable out⟩

theorem preConsumeUsage_failed (usage : RealtimeUsage) (failed : state.failed = true) :
    (preConsumeUsage settings pricing info state usage).failed = true := by
  unfold preConsumeUsage
  split
  · rfl
  · exact failed

theorem realtimeRun_failed (events : List RealtimeEvent) (failed : state.failed = true) :
    (realtimeClose settings pricing info
      (runSteps (realtimeStep settings pricing info) state events)).failed = true := by
  have stopped : runSteps (realtimeStep settings pricing info) state events = state := by
    induction events using List.reverseRecOn with
    | nil => rfl
    | append_singleton events ev ih =>
      rw [runSteps_snoc, ih, realtimeStep, if_pos failed]
  grind [realtimeClose, preConsumeUsage_failed]

theorem realtimeClose_debited (payable : Payable info state.db)
    (granted : (realtimeClose settings pricing info state).failed = false) :
    state.failed = false ∧ Debited info state.db (realtimeClose settings pricing info state).db
      (increments settings pricing state.pending.closing) := by
  unfold realtimeClose at granted ⊢
  unfold PendingUsage.closing increments
  by_cases told : state.pending.usage.totalTokens = 0
  · simp only [told, if_true, List.nil_append] at granted ⊢
    by_cases counted : state.pending.localUsage.totalTokens = 0
    · simp only [counted, if_true] at granted ⊢
      exact ⟨granted, .refl payable⟩
    · simp only [counted, if_false] at granted ⊢
      obtain ⟨busy, _, debited⟩ := preConsumeUsage_debited payable granted
      exact ⟨busy, by simpa using debited⟩
  · simp only [told, if_false] at granted ⊢
    by_cases counted : (preConsumeUsage settings pricing info state
        state.pending.usage).pending.localUsage.totalTokens = 0
    · simp only [counted, if_true] at granted ⊢
      obtain ⟨busy, due, debited⟩ := preConsumeUsage_debited payable granted
      rw [due] at counted
      exact ⟨busy, by simpa [counted] using debited⟩
    · simp only [counted, if_false] at granted ⊢
      have paid : (preConsumeUsage settings pricing info state state.pending.usage).failed = false := by
        grind [preConsumeUsage, preConsumeUsage_failed]
      obtain ⟨busy, due, debited⟩ := preConsumeUsage_debited payable paid
      obtain ⟨_, _, rest⟩ := preConsumeUsage_debited debited.payable granted
      rw [due] at counted
      refine ⟨busy, ?_⟩
      have both := debited.trans rest
      simpa [counted, due] using both

theorem realtimeStep_cases (busy : state.failed = false) (ev : RealtimeEvent) :
    ((state.pending.receive ev).due ev = none ∧
      realtimeStep settings pricing info state ev = { state with pending := state.pending.receive ev }) ∨
    ∃ usage cleared, (state.pending.receive ev).due ev = some (usage, cleared) ∧
      ((realtimeStep settings pricing info state ev).failed = true ∨
        ((preConsumeUsage settings pricing info { state with pending := state.pending.receive ev }
            usage).failed = false ∧
          realtimeStep settings pricing info state ev =
            { preConsumeUsage settings pricing info { state with pending := state.pending.receive ev }
                usage with pending := cleared })) := by
  unfold realtimeStep
  simp only [busy, Bool.false_eq_true, if_false]
  cases due : (state.pending.receive ev).due ev with
  | none => exact .inl ⟨rfl, rfl⟩
  | some billing =>
    obtain ⟨usage, cleared⟩ := billing
    refine .inr ⟨usage, cleared, rfl, ?_⟩
    dsimp only
    split
    · rename_i refused
      exact .inl refused
    · rename_i paid
      exact .inr ⟨by simpa using paid, rfl⟩

theorem realtimeRun_debited (events : List RealtimeEvent) (payable : Payable info state.db)
    (granted : (realtimeClose settings pricing info
      (runSteps (realtimeStep settings pricing info) state events)).failed = false) :
    Debited info state.db (realtimeClose settings pricing info
      (runSteps (realtimeStep settings pricing info) state events)).db
      (increments settings pricing (billedUsages state.pending events)) := by
  induction events generalizing state with
  | nil => exact (realtimeClose_debited payable granted).2
  | cons ev rest ih =>
    have unfolded : runSteps (realtimeStep settings pricing info) state (ev :: rest) =
        runSteps (realtimeStep settings pricing info) (realtimeStep settings pricing info state ev) rest :=
      rfl
    have busy : state.failed = false := by grind [realtimeRun_failed]
    rw [unfolded] at granted ⊢
    have received : Payable info ({ state with pending := state.pending.receive ev } : RealtimeState).db := payable
    rcases realtimeStep_cases busy ev with ⟨due, stepped⟩ | ⟨usage, cleared, due, refused | ⟨paid, stepped⟩⟩
    · rw [stepped] at granted ⊢
      simp only [billedUsages, due]
      exact ih received granted
    · rw [realtimeRun_failed rest refused] at granted
      cases granted
    · rw [stepped] at granted ⊢
      obtain ⟨_, _, debited⟩ := preConsumeUsage_debited received paid
      have later := @ih { preConsumeUsage settings pricing info
        { state with pending := state.pending.receive ev } usage with pending := cleared }
        debited.payable granted
      have both := debited.trans later
      simpa [billedUsages, due, increments] using both

end

section
variable {info : RelayInfo} {s : BillingSession} {db : DB}

structure WalletSession (info : RelayInfo) (s : BillingSession) (db : DB) : Prop where
  liveUser : db.LiveUser info.userId
  token : TokenReady db info
  account : (∃ record, Backed info s db record ∧ record.source = .wallet ∧ record.userId = info.userId) ∨
    (SameRequest info s.relayInfo ∧ s.settled = false ∧ s.fundingSettled = false ∧ s.preConsumedQuota = 0 ∧
      s.funding = .wallet info.userId 0)

theorem WalletSession.settle (session : WalletSession info s db) {before : DB} {total actual : Int}
    (paid : ChargedBy before db info none total) (settled : (s.settle db actual).1 = .ok ()) :
    ChargedBy before (s.settle db actual).2.2 info none (total + (actual - s.preConsumedQuota)) := by
  rcases session.account with ⟨row, backed, wallet, user⟩ | ⟨req, busy, unsettled, idle, funding⟩
  · obtain ⟨_, _, res⟩ :=
      (settleBillingReservationTx_wallet_ok backed.found wallet backed.opened).mp (backed.settle settled)
    rw [← res]
    have moved : (row.moved .settled db.now).userId = info.userId := user
    exact paid.moveReservation moved backed.token session.liveUser session.token.live _
  · have unrecorded : s.hasReservation = false := by
      simp [BillingSession.hasReservation, idle]
    unfold BillingSession.settle at settled ⊢
    simp only [busy, Bool.false_eq_true, if_false, unrecorded, idle, sub_zero] at settled ⊢
    by_cases free : actual = 0
    · simp only [free, if_true, add_zero]
      exact paid
    · simp only [free, if_false] at settled ⊢
      rw [settleWithoutRecord_wallet req unsettled funding session.token free settled]
      exact paid.spendDirect session.liveUser session.token actual

theorem WalletSession.debited (session : WalletSession info s db) {after : DB} {amt : Int}
    (debited : Debited info db after amt) : WalletSession info s after where
  liveUser := debited.payable.liveUser
  token := debited.payable.token
  account := by
    rcases session.account with ⟨row, backed, wallet, user⟩ | direct
    · refine .inl ⟨row, { backed with found := ?_ }, wallet, user⟩
      rw [debited.reservations]
      exact backed.found
    · exact .inr direct

theorem WalletBacked.walletSession {before : DB} {row : BillingReservationRecord}
    (backed : WalletBacked before info s db row) (token : TokenReady db info) : WalletSession info s db :=
  ⟨backed.liveUser, token, .inl ⟨row, backed.toBacked, backed.wallet, backed.user⟩⟩

theorem TokenReady.of_live {db' : DB} (token : TokenReady db info)
    (live : 0 < info.tokenId → db'.LiveToken info.tokenId) : TokenReady db' info :=
  ⟨token.1, fun billed => ⟨(token.2 billed).1, live (token.2 billed).1⟩⟩

theorem newBillingSession_walletSession {db₁ : DB} {quota : Int} (fresh : FreshRequest db info)
    (token : TokenReady db info) (nonneg : 0 ≤ quota)
    (made : newBillingSession db info quota = (.ok s, db₁)) (wallet : s.funding.source = .wallet) :
    SameRequest info s.relayInfo ∧ s.preConsumedQuota = quota ∧ WalletSession info s (s.markProviderStarted db₁).2 ∧
      ChargedBy db (s.markProviderStarted db₁).2 info none quota := by
  rcases newBillingSession_ok made with a | a
  · obtain ⟨live, ⟨idle, rfl, rfl⟩ | ⟨pos, reserved, out, rfl⟩⟩ := tryWallet_ok a
    · obtain rfl : quota = 0 := by omega
      have unbacked := unbacked_of_start fresh token live
      have unmarked : (BillingSession.markProviderStarted ({ BillingSession.start info (.wallet info.userId 0)
          with preConsumedQuota := 0 }).syncRelayInfo db₁).2 = db₁ := unbacked.markProviderStarted
      rw [unmarked]
      exact ⟨unbacked.request, rfl, ⟨live, token, .inr ⟨unbacked.request, rfl, rfl, rfl, rfl⟩⟩,
        ChargedBy.refl db₁ info none⟩
    · obtain ⟨row, backed⟩ := walletBacked_of_reserve fresh pos out
      obtain ⟨record', marked⟩ := backed.call .markProviderStarted
      exact ⟨backed.request, rfl, marked.walletSession (token.of_live marked.liveToken), marked.charged⟩
  · obtain ⟨amt, res, reserved, _, _, rfl⟩ := trySubscription_ok a
    cases wallet

end

def walletDebit (db after : DB) (info : RelayInfo) : Int :=
  db.userBalance info.userId - after.userBalance info.userId

theorem preWssConsumeQuota_congr (same : SameRequest info info') (db : DB) (usage : RealtimeUsage) :
    preWssConsumeQuota settings pricing db info' usage = preWssConsumeQuota settings pricing db info usage := by
  unfold preWssConsumeQuota
  rw [same.userId, same.isPlayground, same.tokenId, same.tokenUnlimited]

theorem realtimeHandler_congr (same : SameRequest info info') (db : DB) (events : List RealtimeEvent) :
    realtimeHandler settings pricing info' db events = realtimeHandler settings pricing info db events := by
  have billed : preConsumeUsage settings pricing info' = preConsumeUsage settings pricing info := by
    funext state usage
    simp only [preConsumeUsage, preWssConsumeQuota_congr same]
  have stepped : realtimeStep settings pricing info' = realtimeStep settings pricing info := by
    funext state ev
    simp only [realtimeStep, billed]
  simp only [realtimeHandler, realtimeClose, billed, stepped]

section
variable {db after : DB} {preConsumedQuota : Int} {events : List RealtimeEvent} {outcome : RealtimeOutcome}
  (fresh : FreshRequest db info) (user : 0 < info.userId) (token : TokenReady db info)
  (ran : realtimeSession settings pricing db info preConsumedQuota events = (.ok outcome, after))
  (wallet : outcome.session.funding.source = .wallet) (granted : outcome.failed = false)
  (settled : outcome.settled = .ok ())
include fresh user token ran wallet granted settled

theorem realtimeSession_debit : walletDebit db after info = outcome.quota + increments settings pricing (billedUsages ⟨.zero, .zero⟩ events) := by
  unfold realtimeSession preConsumeBilling at ran
  simp only [Bool.false_eq_true, if_false] at ran
  split at ran
  · cases ran
  rename_i session db₁ opened
  split at opened
  · cases opened
  rename_i nonneg
  split at ran
  · cases ran
  rename_i db₂ marked
  cases ran
  rw [(settle_account ..).funding] at wallet
  obtain ⟨same, quota, held, charged⟩ := newBillingSession_walletSession fresh token (by omega) opened wallet
  rw [marked] at held charged
  simp only [realtimeHandler_congr same] at granted settled ⊢
  have debited := realtimeRun_debited events ⟨user, held.liveUser, held.token⟩ granted
  have counted : Debited info db₂ (if (realtimeHandler settings pricing info db₂ events).sumUsage.totalTokens = 0
      then (realtimeHandler settings pricing info db₂ events).db
      else updateUserUsedQuotaAndRequestCount (realtimeHandler settings pricing info db₂ events).db
        info.userId (postWssQuota settings pricing (realtimeHandler settings pricing info db₂ events).sumUsage))
      (increments settings pricing (billedUsages ⟨.zero, .zero⟩ events)) := by
    split
    · exact debited
    · have both := debited.trans (debited.payable.countUse info.userId
        (postWssQuota settings pricing (realtimeHandler settings pricing info db₂ events).sumUsage))
      rwa [add_zero] at both
  have taken := (held.debited counted).settle (counted.charged charged) settled
  have paid := taken.wallet info.userId
  simp only [if_true] at paid
  unfold walletDebit
  rw [paid, quota]
  omega

theorem realtime_charged_once_iff :
    2 * |walletDebit db after info - outcome.quota| ≤ debits settings pricing (billedUsages ⟨.zero, .zero⟩ events) ↔
      pricing.usePrice = true ∨ wssRatio settings pricing = 0 ∨ ∀ usage ∈ billedUsages ⟨.zero, .zero⟩ events,
        0 < wssPrice settings pricing usage ∧ wssPrice settings pricing usage < 1 / 2 := by
  have debit := realtimeSession_debit fresh user token ran wallet granted settled
  have made := debits_le_increments settings pricing (billedUsages ⟨.zero, .zero⟩ events)
  have spared := increments_eq_zero_iff settings pricing (billedUsages ⟨.zero, .zero⟩ events)
  simp only [increment_eq_zero_iff] at spared
  rw [debit, add_sub_cancel_left, abs_of_nonneg (by omega)]
  by_cases free : pricing.usePrice = true ∨ wssRatio settings pricing = 0
  · simp only [← or_assoc, free, true_or, implies_true, iff_true] at spared ⊢
    omega
  · simp only [← or_assoc, free, false_or] at spared ⊢
    rw [← spared]
    -- every debit takes at least one unit, twice what its rounding accounts for
    omega

end

def unitRatios : RatioSettings where
  quotaPerUnit := 500000
  modelRatio := fun _ => 1
  completionRatio := fun _ => 1
  audioRatio := fun _ => 1
  audioCompletionRatio := fun _ => 1
  groupRatio := fun _ => 1
  groupGroupRatio := fun _ _ => none

def unitPricing : RealtimePricing where
  originModelName := "gpt-realtime"
  upstreamModelName := "gpt-realtime"
  userGroup := "default"
  usingGroup := "default"
  autoGroup := none
  usePrice := false
  priceUsePrice := false
  priceModelPrice := 0
  priceModelRatio := 1
  priceGroupRatio := 1
  tieredSettle := fun _ => none

def responseOf (tokens : Int) : RealtimeEvent :=
  .responseDone { RealtimeUsage.zero with
    totalTokens := tokens, inputTokens := tokens, inputTextTokens := tokens }

/-- Three usages of a quarter of a unit: none is debited when it is reported, and the settlement takes 1 for them. -/
theorem realtime_charged_once_iff_small_usages :
    ∃ outcome after, realtimeSession { unitRatios with modelRatio := fun _ => 1 / 4 }
        { unitPricing with priceModelRatio := 1 / 4 } (DB.single 100) walletRequest 5
        [responseOf 1, responseOf 1, responseOf 1] = (.ok outcome, after) ∧
      outcome.quota = 1 ∧ 2 * |walletDebit (DB.single 100) after walletRequest - outcome.quota| ≤
        debits { unitRatios with modelRatio := fun _ => 1 / 4 } { unitPricing with priceModelRatio := 1 / 4 }
          (billedUsages ⟨.zero, .zero⟩ [responseOf 1, responseOf 1, responseOf 1]) := by
  obtain ⟨outcome, after, ran, wallet, granted, settled, quota⟩ :
      ∃ outcome after, realtimeSession { unitRatios with modelRatio := fun _ => 1 / 4 }
          { unitPricing with priceModelRatio := 1 / 4 } (DB.single 100) walletRequest 5
          [responseOf 1, responseOf 1, responseOf 1] = (.ok outcome, after) ∧
        outcome.session.funding.source = .wallet ∧ outcome.failed = false ∧ outcome.settled = .ok () ∧
        outcome.quota = 1 :=
    ⟨_, _, rfl, by decide +kernel, by decide +kernel, by decide +kernel, by decide +kernel⟩
  refine ⟨outcome, after, ran, quota, ?_⟩
  apply (realtime_charged_once_iff walletRequest_fresh (by decide) walletRequest_token ran wallet granted
    settled).mpr
  decide +kernel

theorem realtime_session_charged_twice :
    ∃ outcome after, realtimeSession unitRatios unitPricing (DB.single 100) walletRequest 5 [responseOf 10] =
        (.ok outcome, after) ∧ outcome.failed = false ∧ outcome.settled = .ok () ∧ outcome.quota = 10 ∧
      walletDebit (DB.single 100) after walletRequest = 20 ∧
      debits unitRatios unitPricing (billedUsages ⟨.zero, .zero⟩ [responseOf 10]) = 1 := by
  exact ⟨_, _, rfl, by decide +kernel, by decide +kernel, by decide +kernel, by decide +kernel, by decide +kernel⟩

end Wildflow.Billing
