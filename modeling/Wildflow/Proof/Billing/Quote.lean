import Wildflow.Billing.Quote
import Wildflow.Proof.Billing.OperationLedger

/-!
# What a metered job is charged

The charge for the measured audio is the proportional part of the quote, rounded up.
-/

namespace Wildflow.Billing
open Wildflow.Store Tx Int
variable {total maximum actual : Int} {conversion : QuotaConversion} {request : WildFlowJobRequest}
  {quote : WildFlowBillingQuote} {operation : WildFlowOperation}

structure Prorated (total actual maximum : Int) : Prop where
  fits : 0 ≤ total * actual ∧ total * actual + maximum < 2 ^ 63
  ceiling : ceilProportionalInt64 total actual maximum = ⌈(total * actual / maximum : ℚ)⌉
  positive : 0 < total → 1 ≤ ceilProportionalInt64 total actual maximum
  between : 0 ≤ ceilProportionalInt64 total actual maximum ∧ ceilProportionalInt64 total actual maximum ≤ total

structure Prorates (total maximum : Int) : Prop where
  each : ∀ actual, 1 ≤ actual → actual ≤ maximum → Prorated total actual maximum
  monotone : ∀ less more, 1 ≤ less → less ≤ more → more ≤ maximum →
    ceilProportionalInt64 total less maximum ≤ ceilProportionalInt64 total more maximum
  full : ceilProportionalInt64 total maximum maximum = total

theorem ceilProportionalInt64_eq_ceil (nonneg : 0 ≤ total * actual) (pos : 0 < maximum)
    (fits : total * actual + maximum < 2 ^ 63) :
    ceilProportionalInt64 total actual maximum = ⌈(total * actual / maximum : ℚ)⌉ := by
  unfold ceilProportionalInt64
  split
  · rename_i free
    simp [free]
  have unwrapped : Int.bmod (total * actual + maximum - 1) (2 ^ 64) = total * actual + maximum - 1 := by
    rw [bmod_eq_of_le] <;> omega
  have divisor : (0 : ℚ) < maximum := by exact_mod_cast pos
  have parts := mul_ediv_add_emod (total * actual + maximum - 1) maximum
  have small := emod_lt_of_pos (total * actual + maximum - 1) pos
  have large := emod_nonneg (total * actual + maximum - 1) pos.ne'
  rw [unwrapped, tdiv_eq_ediv_of_nonneg (by omega), eq_comm, ceil_eq_iff, lt_div_iff₀ divisor,
    div_le_iff₀ divisor]
  generalize (total * actual + maximum - 1) / maximum = charge at parts
  have below : (charge - 1) * maximum < total * actual := by linarith
  have above : total * actual ≤ charge * maximum := by linarith
  exact ⟨by exact_mod_cast below, by exact_mod_cast above⟩

section
variable (nonneg : 0 ≤ total) (quota : total ≤ maxQuota) (hours : maximum = wildFlowASRMaximumDurationMilliseconds)
include nonneg quota hours

theorem prorated (used : 1 ≤ actual) (within : actual ≤ maximum) : Prorated total actual maximum := by
  have product := mul_le_mul quota within (by omega) (by decide)
  have fits : total * actual + maximum < 2 ^ 63 := by
    simp only [hours, maxQuota, wildFlowASRMaximumDurationMilliseconds] at product ⊢
    omega
  have least := mul_nonneg nonneg (by omega : 0 ≤ actual)
  have ceiling := ceilProportionalInt64_eq_ceil least (by omega) fits
  have divisor : (0 : ℚ) < maximum := by exact_mod_cast used.trans within
  refine ⟨⟨least, fits⟩, ceiling, fun paid => ?_, ?_⟩
  · rw [ceiling, one_le_ceil_iff]
    have more : 0 < total * actual := mul_pos paid used
    exact div_pos (by exact_mod_cast more) divisor
  · rw [ceiling, ceil_le, div_le_iff₀ divisor]
    have most : total * actual ≤ total * maximum := mul_le_mul_of_nonneg_left within nonneg
    exact ⟨ceil_nonneg (div_nonneg (by exact_mod_cast least) divisor.le), by exact_mod_cast most⟩

theorem prorates : Prorates total maximum := by
  have each := @prorated total maximum
  have pos : 0 < maximum := hours ▸ by decide
  have divisor : (0 : ℚ) < maximum := by exact_mod_cast pos
  refine ⟨fun actual => each nonneg quota hours, fun less more used order within => ?_, ?_⟩
  · rw [(each nonneg quota hours used (order.trans within)).ceiling,
      (each nonneg quota hours (used.trans order) within).ceiling]
    have product : total * less ≤ total * more := mul_le_mul_of_nonneg_left order nonneg
    exact ceil_le_ceil (div_le_div_of_nonneg_right (by exact_mod_cast product) divisor.le)
  · rw [(each nonneg quota hours pos le_rfl).ceiling, mul_div_cancel_right₀ _ divisor.ne', ceil_intCast]

end

theorem quoteWildFlowBilling_ok (quoted : quoteWildFlowBilling conversion request = .ok quote) :
    ∃ price quota, request.price = .ok price ∧ quota ≤ maxQuota ∧ quote = pricedQuote conversion price quota ∧
      0 < quote.amountMicros ∧ 0 < quote.quota := by
  unfold quoteWildFlowBilling at quoted
  split at quoted
  · cases quoted
  split at quoted
  · cases quoted
  cases priced : request.price with
  | error err =>
    rw [priced] at quoted
    cases quoted
  | ok price =>
    rw [priced] at quoted
    dsimp only [bind, Except.bind] at quoted
    split at quoted
    · cases quoted
    rename_i quota rounded
    have within : quota ≤ maxQuota := by grind [quotaRoundStrict]
    cases valid : (pricedQuote conversion price quota).validate with
    | error err =>
      rw [valid] at quoted
      cases quoted
    | ok u =>
      rw [valid] at quoted
      cases quoted
      have pos : 0 < (pricedQuote conversion price quota).amountMicros := by
        grind [WildFlowBillingQuote.validate]
      exact ⟨price, quota, rfl, within, rfl, pos, WildFlowBillingQuote.positive_of_valid valid⟩

theorem audioPrice_micros {perMinute : ℚ} (listed : perMinute = 1 / 20 ∨ perMinute = 1 / 50 ∨ perMinute = 1 / 25) :
    roundAwayFromZero ((audioPrice perMinute).1 * 1000000) ≤ maxQuota := by
  rcases listed with rfl | rfl | rfl <;>
    norm_num [audioPrice, decimalDiv, roundAwayFromZero, wildFlowASRMaximumDurationMilliseconds, maxQuota]

theorem WildFlowJobRequest.price_audio {price : ℚ × String × Int} (priced : request.price = .ok price)
    (metered : price.2.1 = "audio_millisecond") :
    price.2.2 = wildFlowASRMaximumDurationMilliseconds ∧ roundAwayFromZero (price.1 * 1000000) ≤ maxQuota := by
  cases request with
  | voxCPM2 content =>
    cases content with
    | none => cases priced
    | some content =>
      cases priced
      exact absurd metered (by decide : "10k_characters" ≠ "audio_millisecond")
  | flux2 =>
    cases priced
    exact absurd metered (by decide : "image" ≠ "audio_millisecond")
  | examDualASR =>
    cases priced
    exact ⟨rfl, audioPrice_micros (.inl rfl)⟩
  | whisperASR =>
    cases priced
    exact ⟨rfl, audioPrice_micros (.inr (.inl rfl))⟩
  | vibeVoiceASR =>
    cases priced
    exact ⟨rfl, audioPrice_micros (.inr (.inr rfl))⟩
  | unsupported => cases priced

theorem settleByUsageTx_returns {db after : DB} {event : WildFlowUsageEvent} {charge : WildFlowActualBilling}
    {out : WildFlowOperation × Bool} (priced : wildFlowActualUsageBilling operation event = .ok charge)
    (wallet : operation.billingSource = .wallet) (ran : (settleByUsageTx operation event).run db = .ok (out, after)) :
    (∀ id, after.userQuota id =
      (db.debitUser operation.userId (charge.quota - operation.billingQuota)).userQuota id) ∧
    ∀ id, after.tokenRemain id =
      (db.debitToken operation.tokenId (charge.tokenQuota - operation.billingTokenQuota)).tokenRemain id := by
  simp only [settleByUsageTx, priced, run_bind_ok, run_ensure_ok, run_read_ok] at ran
  obtain ⟨_, _, ⟨_, rfl⟩, _, _, ⟨⟨less, tokenLess⟩, rfl⟩, _, _, source, _, _, token, _, _, ⟨rfl, rfl⟩, _, _, updated, ran⟩ :=
    ran
  obtain rfl := (returnWildFlowQuotaTx_wallet wallet less).mp source
  obtain ⟨_, rfl⟩ := (returnWildFlowTokenQuotaTx_ok tokenLess).mp token
  simp only [updateOperation, run_bind_ok, run_read_ok, run_write_ok, run_pure_ok] at updated
  obtain ⟨_, _, ⟨rfl, rfl⟩, _, _, rfl, _, rfl⟩ := updated
  split at ran
  · simp only [run_bind_ok, loadWildFlowOperationForBilling_ok, run_pure_ok] at ran
    obtain ⟨_, _, ⟨_, rfl⟩, _, rfl⟩ := ran
    exact ⟨fun _ => rfl, fun _ => rfl⟩
  · simp only [run_bind_ok, run_pure_ok] at ran
    obtain ⟨_, _, counted, _, _, logged, _, rfl⟩ := ran
    obtain ⟨_, used⟩ := updateUser_addUse _ operation.userId charge.quota 1
    rw [used] at counted
    cases counted
    obtain ⟨_, rfl, _⟩ := ensureWildFlowCanonicalBillingLogTx_frame logged
    exact ⟨userQuota_addUserUse _ _ _ _, fun _ => rfl⟩

section
variable (quoted : quoteWildFlowBilling conversion request = .ok quote)
  (metered : quote.unit = "audio_millisecond") (reserved : billingQuoteMatchesOperation operation quote = true)
  (token : 0 ≤ operation.billingTokenQuota ∧ operation.billingTokenQuota ≤ operation.billingQuota)
include quoted metered reserved token

theorem quoted_prorates :
    Prorates operation.billingAmountMicros operation.billingBillableUnits ∧
    Prorates operation.billingQuota operation.billingBillableUnits ∧
    Prorates operation.billingTokenQuota operation.billingBillableUnits ∧
    ∀ event : WildFlowUsageEvent, 1 ≤ event.quantity → event.quantity ≤ operation.billingBillableUnits →
      wildFlowActualUsageBilling operation event = .ok
        ⟨ceilProportionalInt64 operation.billingAmountMicros event.quantity operation.billingBillableUnits,
          ceilProportionalInt64 operation.billingQuota event.quantity operation.billingBillableUnits,
          ceilProportionalInt64 operation.billingTokenQuota event.quantity operation.billingBillableUnits,
          event.quantity⟩ := by
  obtain ⟨price, quota, priced, within, rfl, positiveAmount, positiveQuota⟩ := quoteWildFlowBilling_ok quoted
  obtain ⟨hours, micros⟩ := request.price_audio priced metered
  simp only [billingQuoteMatchesOperation, Bool.and_eq_true, decide_eq_true_eq] at reserved
  obtain ⟨⟨⟨⟨⟨⟨⟨-, amount⟩, unit⟩, units⟩, same⟩, -⟩, -⟩, -⟩ := reserved
  rw [← amount] at positiveAmount
  rw [← same] at positiveQuota
  have amounts := prorates positiveAmount.le (amount ▸ micros) (units.trans hours)
  have quotas := prorates positiveQuota.le (same ▸ within) (units.trans hours)
  have tokens := prorates token.1 (token.2.trans (same ▸ within)) (units.trans hours)
  refine ⟨amounts, quotas, tokens, fun event used bounded => ?_⟩
  rw [wildFlowActualUsageBilling, if_neg (not_not.mpr (unit.trans metered))]
  dsimp only
  have amountCharged := (amounts.each _ used bounded).positive positiveAmount
  have quotaCharged := (quotas.each _ used bounded).positive positiveQuota
  have tokenCharged := (tokens.each _ used bounded).between.1
  rw [if_neg (by omega), if_neg (by omega)]

end

def dualASRQuote : WildFlowBillingQuote :=
  { audioQuote with
    amountMicros := 6000000, billableUnits := 7200000, quota := 410959, priceVersion := "wildflow-retail-cny-v2" }

theorem dualASRQuote_quoted :
    quoteWildFlowBilling ⟨500000, 73 / 10, fun value => if value = 500000 then "500000" else "7.3"⟩ .examDualASR =
      .ok dualASRQuote := by
  decide +kernel

/-- A reserved operation, paid from a wallet, with a result and a usage event but without a log entry. -/
structure Billable (db : DB) (operation : WildFlowOperation) (event : WildFlowUsageEvent) : Prop where
  found : db.operations.find operation.operationId = some operation
  named : trimSpace operation.operationId ≠ ""
  reserved : operation.billingState = .reserved
  succeeded : operation.state = "succeeded"
  validated : operation.resultJSON ≠ "" ∧ 0 < operation.resultValidatedTime
  first : firstUsageEvent db operation = some event
  fits : wildFlowUsageEventMatchesOperation operation event = true
  quoted : ∃ conversion request quote, quoteWildFlowBilling conversion request = .ok quote ∧
    billingQuoteMatchesOperation operation quote = true
  token : 0 ≤ operation.billingTokenQuota ∧ operation.billingTokenQuota ≤ operation.billingQuota
  wallet : operation.billingSource = .wallet
  live : db.LiveUser operation.userId
  unlogged : db.billingLog.find (operation.operationId, .consume) = none

def SettlesInFull (db : DB) (operation : WildFlowOperation) (event : WildFlowUsageEvent) : Prop :=
  ∃ charge after, wildFlowActualUsageBilling operation event = .ok charge ∧
    settleWildFlowOperationBilling db operation.operationId =
      (.ok (operation.settledWith charge event.eventId db.now, true), after) ∧
    after.operations.find operation.operationId = some (operation.settledWith charge event.eventId db.now) ∧
    after.userQuota operation.userId = db.userQuota operation.userId + (operation.billingQuota - charge.quota)

/-- The usage rounds up to the whole token quota, so nothing of it is left to return. -/
def TokenUsedUp (operation : WildFlowOperation) (event : WildFlowUsageEvent) : Prop :=
  operation.billingUnit = "audio_millisecond" →
    operation.billingTokenQuota * (operation.billingBillableUnits - event.quantity) < operation.billingBillableUnits

theorem Prorated.full_iff (prorated : Prorated total actual maximum) (positive : 0 < maximum) :
    total ≤ ceilProportionalInt64 total actual maximum ↔ total * (maximum - actual) < maximum := by
  have divisor : (0 : ℚ) < maximum := by exact_mod_cast positive
  have cast : ((total : ℚ) - 1) * maximum < total * actual ↔ (total - 1) * maximum < total * actual := by
    exact_mod_cast Iff.rfl
  rw [prorated.ceiling, le_ceil_iff, lt_div_iff₀ divisor, cast]
  constructor <;> intro <;> linarith

section
variable {db : DB} {event : WildFlowUsageEvent} (billable : Billable db operation event)
include billable

theorem Billable.charged :
    ∃ charge, wildFlowActualUsageBilling operation event = .ok charge ∧ charge.quota ≤ operation.billingQuota ∧
      charge.tokenQuota ≤ operation.billingTokenQuota ∧
      (operation.billingTokenQuota ≤ charge.tokenQuota ↔ TokenUsedUp operation event) := by
  unfold TokenUsedUp
  by_cases metered : operation.billingUnit = "audio_millisecond"
  · obtain ⟨conversion, request, quote, quoted, matched⟩ := billable.quoted
    have unit : quote.unit = operation.billingUnit := by grind [billingQuoteMatchesOperation]
    obtain ⟨_, quotas, tokens, charged⟩ := quoted_prorates quoted (unit.trans metered) matched billable.token
    have used : 1 ≤ event.quantity ∧ event.quantity ≤ operation.billingBillableUnits := by
      have fits := billable.fits
      simp only [wildFlowUsageEventMatchesOperation, billable.reserved, metered] at fits
      grind
    have tokenCharge := tokens.each _ used.1 used.2
    refine ⟨_, charged event used.1 used.2, (quotas.each _ used.1 used.2).between.2, tokenCharge.between.2, ?_⟩
    simp only [metered, true_imp_iff]
    exact tokenCharge.full_iff (by omega)
  · exact ⟨_, if_pos metered, le_rfl, le_rfl, by simp [metered]⟩

theorem Billable.settle :
    settleWildFlowOperationBilling db operation.operationId = (settleByUsageTx operation event).commit db := by
  have loaded := loadWildFlowOperationForBilling_ok.mpr ⟨billable.found, rfl⟩
  have unsettled : operation.billingState ≠ .settled := by simp [billable.reserved]
  have positive := billable.validated.2
  have ready : ¬(operation.billingState ≠ .reserved ∨ operation.state ≠ "succeeded" ∨ operation.resultJSON = "" ∨
      operation.resultValidatedTime = 0) := by
    simp [billable.reserved, billable.succeeded, billable.validated.1, positive.ne']
  rw [settleWildFlowOperationBilling, commit, commit, run_bind_of_ok loaded, if_neg unsettled, if_neg ready,
    run_bind_of_ok (run_read db), billable.first]

end

def transcribed : WildFlowOperation :=
  { wildFlowBillingSnapshotUpdates dualASRQuote .wallet 0 410959 1000 audioOperation with
    jobId := "job-1", state := "succeeded", resultJSON := "transcript", resultValidatedTime := 1000 }

def measured (quantity : Int) : WildFlowUsageEvent := { audioUsage with quantity }

def DB.tokenDeleted (quantity : Int) : DB :=
  { DB.single 100 with
    tokens := (DB.single 100).tokens.map (fun token => { token with deleted := true }) fun _ => rfl
    operations := Table.empty.put transcribed, usageEvents := Table.empty.put (measured quantity) }

theorem transcribed_billable {quantity : Int}
    (fits : wildFlowUsageEventMatchesOperation transcribed (measured quantity) = true) :
    Billable (.tokenDeleted quantity) transcribed (measured quantity) where
  found := rfl
  named := by decide
  reserved := rfl
  succeeded := rfl
  validated := by decide
  first := rfl
  fits
  quoted := ⟨_, _, _, dualASRQuote_quoted, rfl⟩
  token := by decide
  wallet := rfl
  live := ⟨_, rfl, rfl⟩
  unlogged := rfl

end Wildflow.Billing
