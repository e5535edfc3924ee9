import Wildflow.Billing.Task
import Wildflow.Proof.Billing.SessionConservation

/-!
# Tasks paid by a subscription

The session drops the id of the subscription that it charged. So the task row never names one, and whatever happens to
the task later goes to the wallet of its user.
-/

namespace Wildflow.Billing
open Wildflow.Store

def FundingSource.subscriptionId : FundingSource → Int
  | .wallet .. => 0
  | .subscription _ _ _ subscriptionId _ => subscriptionId

structure Unnamed (info : RelayInfo) (source : BillingSource) (s : BillingSession) : Prop where
  request : SameRequest info s.relayInfo
  source : s.funding.source = source
  funding : s.funding.subscriptionId = 0
  info : s.relayInfo.subscriptionId = 0

section
variable {info : RelayInfo} {source : BillingSource} {s : BillingSession} {db : DB}

theorem syncRelayInfo_unnamed (request : SameRequest info s.relayInfo) (funded : s.funding.source = source)
    (funding : s.funding.subscriptionId = 0) : Unnamed info source s.syncRelayInfo := by
  refine ⟨request.trans (syncRelayInfo_request s), funded, funding, ?_⟩
  unfold BillingSession.syncRelayInfo
  cases source : s.funding with
  | wallet uid used => rfl
  | subscription requestId uid amt subId preConsumed =>
    rw [source] at funding
    exact funding

theorem newBillingSession_unnamed {db' : DB} {quota : Int} (made : newBillingSession db info quota = (.ok s, db')) :
    Unnamed info .wallet s ∨
    (Unnamed info .subscription s ∧ ∃ amt res reserved,
      reserveSubscriptionBillingQuota db info.requestId info.userId info.tokenId amt
        info.tokenUnlimited = (.ok (res, reserved), db')) := by
  have same : SameRequest info info := ⟨rfl, rfl, rfl, rfl, rfl⟩
  rcases newBillingSession_ok made with wallet | sub
  · obtain ⟨_, ⟨_, _, rfl⟩ | ⟨_, _, _, rfl⟩⟩ := tryWallet_ok wallet <;>
    exact .inl (syncRelayInfo_unnamed same rfl rfl)
  · obtain ⟨amt, res, reserved, _, out, rfl⟩ := trySubscription_ok sub
    exact .inr ⟨syncRelayInfo_unnamed same rfl rfl, amt, res, reserved, out⟩

variable (unnamed : Unnamed info source s)
include unnamed

theorem Unnamed.topUp (d : Int) : Unnamed info source (s.topUp d) :=
  syncRelayInfo_unnamed unnamed.request unnamed.source unnamed.funding

theorem Unnamed.reserveFunding (db : DB) (d : Int) : Unnamed info source (s.reserveFunding db d).2.1 := by
  unfold BillingSession.reserveFunding
  cases funding : s.funding with
  | wallet uid used =>
    have paid := unnamed.source
    rw [funding] at paid
    dsimp only
    rcases decreaseUserQuota db uid d false with ⟨result, db'⟩
    cases result with
    | error failure => exact unnamed
    | ok u => exact ⟨unnamed.request, paid, rfl, unnamed.info⟩
  | subscription requestId uid amt subId preConsumed => grind [postConsumeUserSubscriptionDelta]

theorem Unnamed.rollbackFundingReserve (db : DB) (d : Int) :
    Unnamed info source (s.rollbackFundingReserve db d).1 := by
  unfold BillingSession.rollbackFundingReserve
  cases funding : s.funding with
  | wallet uid used =>
    have paid := unnamed.source
    rw [funding] at paid
    dsimp only
    rcases increaseUserQuota db uid d false with ⟨result, db'⟩
    cases result with
    | error failure => exact unnamed
    | ok u => exact ⟨unnamed.request, paid, rfl, unnamed.info⟩
  | subscription requestId uid amt subId preConsumed => exact unnamed

theorem Unnamed.reserveWithoutRecord (db : DB) (d : Int) : Unnamed info source (s.reserveWithoutRecord db d).2.1 := by
  have funded := unnamed.reserveFunding db d
  unfold BillingSession.reserveWithoutRecord
  rcases out : s.reserveFunding db d with ⟨res, session, db₁⟩
  rw [out] at funded
  cases res with
  | error err => exact funded
  | ok u =>
    dsimp only
    rcases session.reserveToken db₁ d with ⟨paid, db₂⟩
    cases paid with
    | ok u => exact funded
    | error err => exact funded.rollbackFundingReserve db₂ d

theorem Unnamed.reserve (db : DB) (goal : Int) : Unnamed info source (s.reserve db goal).2.1 := by
  unfold BillingSession.reserve
  split
  · exact unnamed
  dsimp only
  rcases appendBillingReservation db s.relayInfo.requestId (goal - s.preConsumedQuota) with ⟨res, db₁⟩
  cases res with
  | ok u => exact unnamed.topUp _
  | error err =>
    dsimp only
    split
    · exact unnamed
    have taken := unnamed.reserveWithoutRecord db₁ (goal - s.preConsumedQuota)
    rcases out : s.reserveWithoutRecord db₁ (goal - s.preConsumedQuota) with ⟨res, session, db₂⟩
    rw [out] at taken
    cases res with
    | ok u => exact taken.topUp _
    | error err => exact taken

end

def ChargesSubscription (db : DB) (info : RelayInfo) (subscriptionId : Int) : Prop :=
  ∃ amount result reserved db₁,
    reserveSubscriptionBillingQuota db info.requestId info.userId info.tokenId amount info.tokenUnlimited =
      (.ok (result, reserved), db₁) ∧ result.userSubscriptionId = subscriptionId

/-- No session and nothing changed, or a session that knows no subscription. -/
structure Submitting (db : DB) (info : RelayInfo) (relay : BilledRelay) (current : DB) : Prop where
  own : relay.info = info
  start : relay.billing = none → current = db
  session : ∀ s, relay.billing = some s → Unnamed info .wallet s ∨
    (Unnamed info .subscription s ∧ ∃ subscriptionId, ChargesSubscription db info subscriptionId)

section
variable {db current : DB} {info : RelayInfo} {relay : TaskRelay}

variable (submitting : Submitting db info relay.toBilledRelay current)
include submitting

theorem Submitting.preConsumeOnce {a : SubmitAttempt} {res : Except SessionError TaskRelay} {after : DB}
    (out : relay.preConsumeOnce current a = (res, after)) :
    match res with
    | .error _ => Submitting db info relay.toBilledRelay after
    | .ok billed => Submitting db info billed.toBilledRelay after := by
  unfold TaskRelay.preConsumeOnce at out
  by_cases first : (relay.billing.isNone && !a.freeModel) = true
  · rw [if_pos first, submitting.own, preConsumeBilling] at out
    simp only [Bool.and_eq_true, Option.isNone_iff_eq_none] at first
    obtain rfl := submitting.start first.1
    split at out
    · grind [newBillingSession_error]
    rename_i s _ made
    cases out
    split at made
    · cases made
    split at made
    · cases made
    refine ⟨rfl, by simp, ?_⟩
    rintro t same
    obtain rfl : s = t := Option.some.inj same
    rcases newBillingSession_unnamed made with wallet | ⟨unnamed, amt, res, reserved, paid⟩
    · exact .inl wallet
    · exact .inr ⟨unnamed, _, amt, res, reserved, after, paid, rfl⟩
  · grind

theorem Submitting.markProviderStarted :
    Submitting db info relay.toBilledRelay (relay.markProviderStarted current).2 := by
  refine ⟨submitting.own, ?_, submitting.session⟩
  intro idle
  have skipped : (relay.markProviderStarted current).2 = current := by
    simp [TaskRelay.markProviderStarted, idle]
  rw [skipped]
  exact submitting.start idle

theorem Submitting.attempt (a : SubmitAttempt) :
    Submitting db info (relayTaskSubmit relay current a).2.1.toBilledRelay (relayTaskSubmit relay current a).2.2 := by
  unfold relayTaskSubmit
  split
  · exact submitting
  rcases first : relay.preConsumeOnce current a with ⟨res, after⟩
  have billed := submitting.preConsumeOnce first
  cases res with
  | error err => exact billed
  | ok next =>
    dsimp only at billed ⊢
    split
    · exact billed
    have marked := billed.markProviderStarted
    rcases out : next.markProviderStarted after with ⟨res, db₁⟩
    rw [out] at marked
    cases res with
    | error err => exact marked
    | ok u => cases a.outcome <;> exact marked

theorem Submitting.attempts (imageOperation : Bool) (attempts : List SubmitAttempt) :
    Submitting db info (submitAttempts imageOperation relay current attempts).2.1.toBilledRelay
      (submitAttempts imageOperation relay current attempts).2.2 := by
  induction attempts generalizing relay current with
  | nil => exact submitting
  | cons a rest ih =>
    have tried := submitting.attempt a
    unfold submitAttempts
    rcases out : relayTaskSubmit relay current a with ⟨res, next, after⟩
    grind

theorem Submitting.reserve (quota : Int) :
    Submitting db info (relay.reserve current quota).2.1.toBilledRelay (relay.reserve current quota).2.2 := by
  cases billing : relay.billing with
  | none =>
    simp only [TaskRelay.reserve, billing]
    exact submitting
  | some s =>
    simp only [TaskRelay.reserve, billing]
    refine ⟨submitting.own, by simp, ?_⟩
    rintro t same
    obtain rfl : _ = t := Option.some.inj same
    rcases submitting.session s billing with wallet | ⟨unnamed, paid⟩
    · exact .inl (wallet.reserve current quota)
    · exact .inr ⟨unnamed.reserve current quota, paid⟩

end

structure PaidByWallet (later after : DB) (userId : Int) (task changed : Task) : Prop where
  wallet : WalletCharged later after userId (changed.quota - task.quota)
  subscriptions : after.userSubscriptions = later.userSubscriptions

section
variable {later : DB} {task : Task}

theorem paidByWallet_of_adjust (live : later.LiveUser task.userId) (d : Int) {changed : Task}
    (quota : changed.quota - task.quota = d) :
    PaidByWallet later (updateUserUsedQuota
      (taskAdjustTokenQuota (later.spendUser task.userId d) task d) task.userId d) task.userId task changed := by
  obtain ⟨tokens, batch, paid⟩ : ∃ tokens batch, taskAdjustTokenQuota (later.spendUser task.userId d) task d =
        { later.spendUser task.userId d with tokens := tokens, batchTokenQuota := batch } := by
    unfold taskAdjustTokenQuota
    split
    · exact ⟨_, _, rfl⟩
    split
    · exact ⟨_, _, rfl⟩
    · split
      · exact decreaseTokenQuota_frame ..
      · exact increaseTokenQuota_frame ..
  have nothing : WalletCharged later later task.userId 0 := by
    intro user
    simp
  have spent := nothing.spend live d
  rw [Int.zero_add, ← quota] at spent
  rw [paid]
  refine ⟨?_, ?_⟩
  · intro user
    rw [userBalance_updateUserUsedQuota]
    have moved := spent user
    rw [quota] at moved ⊢
    exact moved
  · have used := updateUserUsedQuota_userSubscriptions
      { later.spendUser task.userId d with tokens := tokens, batchTokenQuota := batch } task.userId d
    rw [used]
    exact spendUser_userSubscriptions later task.userId d

section
variable (wallet : taskIsSubscription task = false)
include wallet

theorem taskAdjustFunding_cases (later : DB) (d : Int) :
    (∃ err, taskAdjustFunding later task d = (.error err, later)) ∨
    taskAdjustFunding later task d = (.ok (), later.spendUser task.userId d) := by
  unfold taskAdjustFunding
  rw [wallet]
  simp only [Bool.false_eq_true, if_false]
  split
  · rename_i upwards
    exact .inr (decreaseUserQuota_eq later task.userId (le_of_lt upwards))
  · have out := increaseUserQuota_cases later task.userId (-d)
    rwa [neg_neg] at out

theorem refundTaskQuota_wallet (live : later.LiveUser task.userId) :
    PaidByWallet later (refundTaskQuota later task).2.2 task.userId task (refundTaskQuota later task).2.1 := by
  have same : PaidByWallet later later task.userId task task := ⟨fun _ => by simp, rfl⟩
  grind [refundTaskQuota, taskAdjustFunding_cases, paidByWallet_of_adjust]

theorem recalculateTaskQuota_wallet (live : later.LiveUser task.userId) (actual : Int) :
    PaidByWallet later (recalculateTaskQuota later task actual).2 task.userId task
      (recalculateTaskQuota later task actual).1 := by
  have same : PaidByWallet later later task.userId task task := ⟨fun _ => by simp, rfl⟩
  grind [recalculateTaskQuota, taskAdjustFunding_cases, paidByWallet_of_adjust]

end

end

theorem executeTaskSubmissionWith_stored {db : DB} {info : RelayInfo} {submission : TaskSubmission}
    {task : Task} (stored : (executeTaskSubmissionWith db info submission).task = some task) :
    ∃ (relay : TaskRelay) (current : DB) (quota : Int), Submitting db info relay.toBilledRelay current ∧
      task = newTask relay.relayInfo quota ∧
      (executeTaskSubmissionWith db info submission).relay.toBilledRelay =
        (settleBilling current relay.toBilledRelay quota).2.1 := by
  have start : Submitting db info
      (TaskRelay.toBilledRelay ⟨⟨info, none⟩, false, false⟩) db := ⟨rfl, fun _ => rfl, by simp⟩
  have attempted := start.attempts submission.imageOperation submission.attempts
  unfold executeTaskSubmissionWith at stored ⊢
  dsimp only at stored ⊢
  rcases tried : submitAttempts submission.imageOperation ⟨⟨info, none⟩, false, false⟩ db
    submission.attempts with ⟨res, relay, current⟩
  rw [tried] at attempted
  simp only [tried] at stored ⊢
  cases res with
  | error err => cases stored
  | ok quota =>
    dsimp only at stored attempted ⊢
    split at stored
    · cases stored
    rename_i busy
    rw [if_neg busy]
    have reserved := attempted.reserve quota
    rcases out : relay.reserve current quota with ⟨res, held, db₁⟩
    rw [out] at reserved
    simp only [out] at stored ⊢
    cases res with
    | error err => cases stored
    | ok u =>
      dsimp only at stored reserved ⊢
      split at stored
      · cases stored
      rename_i continued
      rw [if_neg continued]
      split at stored
      · cases stored
      rename_i inserted
      rw [if_neg inserted]
      refine ⟨held, db₁, quota, reserved, ?_⟩
      rcases settled : settleBilling db₁ held.toBilledRelay quota with ⟨res, billed, db₂⟩
      simp only [settled] at stored ⊢
      cases res with
      | error err => exact ⟨(Option.some.inj stored).symm, rfl⟩
      | ok u => exact ⟨(Option.some.inj stored).symm, rfl⟩

theorem subscription_task_billed_to_wallet {db : DB} {info : RelayInfo} {submission : TaskSubmission}
    {task : Task} {session : BillingSession}
    (stored : (executeTaskSubmissionWith db info submission).task = some task)
    (billed : (executeTaskSubmissionWith db info submission).relay.billing = some session)
    (source : session.funding.source = .subscription) :
    (∃ subscriptionId, ChargesSubscription db info subscriptionId) ∧
    (∀ subscriptionId, ChargesSubscription db info subscriptionId → task.subscriptionId ≠ subscriptionId) ∧
    ∀ later : DB, later.LiveUser info.userId →
      PaidByWallet later (refundTaskQuota later task).2.2 info.userId task (refundTaskQuota later task).2.1 ∧
      ∀ actualQuota, PaidByWallet later (recalculateTaskQuota later task actualQuota).2 info.userId task
        (recalculateTaskQuota later task actualQuota).1 := by
  obtain ⟨relay, current, quota, submitting, rfl, result⟩ := executeTaskSubmissionWith_stored stored
  rw [result] at billed
  cases billing : relay.billing with
  | none =>
    grind [settleBilling]
  | some s =>
    simp only [settleBilling, billing] at billed
    obtain rfl := Option.some.inj billed
    rw [(settle_account ..).funding] at source
    rcases submitting.session s billing with wallet | ⟨unnamed, charged⟩
    · rw [wallet.source] at source
      cases source
    have own : relay.relayInfo = s.relayInfo := by
      simp [BilledRelay.relayInfo, billing]
    have user : (newTask relay.relayInfo quota).userId = info.userId := by
      rw [own]
      exact unnamed.request.userId
    have unrecorded : (newTask relay.relayInfo quota).subscriptionId = 0 := by
      rw [own]
      exact unnamed.info
    have wallet : taskIsSubscription (newTask relay.relayInfo quota) = false := by
      simp [taskIsSubscription, unrecorded]
    refine ⟨charged, ?_, ?_⟩
    · rintro subscriptionId ⟨amount, returned, reserved, after, outcome, rfl⟩
      have positive := reserveSubscriptionBillingQuota_positive outcome
      rw [unrecorded]
      omega
    · grind [refundTaskQuota_wallet, recalculateTaskQuota_wallet]

def subscriptionRequest : RelayInfo := { walletRequest with billingPreference := "subscription_only" }

def acceptedSubmission : TaskSubmission where
  imageOperation := false
  attempts := [{ quota := 10, freeModel := false, quotaClamped := false, outcome := .accepted 10,
                 cancelled := false, retriable := false }]
  cancelledBeforeReserve := false
  cancelledBeforeInsert := false
  inserted := true

theorem subscription_task_billed_to_wallet_accepted :
    ∃ task, (executeTaskSubmissionWith DB.subscribed subscriptionRequest acceptedSubmission).task = some task ∧
      task.subscriptionId ≠ 7 := by
  refine ⟨_, rfl, ?_⟩
  apply (@subscription_task_billed_to_wallet DB.subscribed subscriptionRequest acceptedSubmission _ _
    rfl rfl rfl).2.1
  exact ⟨10, _, _, _, rfl, rfl⟩

theorem subscription_task_refunded_to_wallet :
    ∃ task, (executeTaskSubmissionWith DB.subscribed subscriptionRequest acceptedSubmission).task = some task ∧
      ChargesSubscription DB.subscribed subscriptionRequest 7 ∧ task.subscriptionId = 0 ∧
      (refundTaskQuota (executeTaskSubmissionWith DB.subscribed subscriptionRequest acceptedSubmission).db
        task).2.2.userQuota 1 = 110 ∧
      ((refundTaskQuota (executeTaskSubmissionWith DB.subscribed subscriptionRequest acceptedSubmission).db
        task).2.2.userSubscriptions.find 7).map (·.amountUsed) = some 10 := by
  refine ⟨_, rfl, ⟨10, _, _, _, rfl, rfl⟩, by decide, by decide, by decide⟩

end Wildflow.Billing
