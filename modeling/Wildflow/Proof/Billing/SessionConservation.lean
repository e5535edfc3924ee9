import Wildflow.Proof.Billing.Session

/-!
# When a billing session conserves

A session has a wallet record, a subscription record, or none when the wallet pre-consume is zero. The first two
conserve under every sequence of calls, the third exactly as long as it is not topped up.
-/

namespace Wildflow.Billing
open Wildflow.Store Table List Int
variable {s : BillingSession} {db db' : DB} {amount delta quota targetQuota : Int} {info : RelayInfo}
  {err : SessionError} {reserved unlimitedToken : Bool} {requestId : String}

theorem reserveWalletBillingQuota_error {uid tid : Int} {err : BillingError}
    (failed : reserveWalletBillingQuota db requestId uid tid amount unlimitedToken =
      (.error err, db')) : db' = db := by
  unfold reserveWalletBillingQuota at failed
  grind [Tx.commit_error_state]

theorem reserveSubscriptionBillingQuota_error {uid tid : Int} {err : BillingError}
    (failed : reserveSubscriptionBillingQuota db requestId uid tid amount unlimitedToken =
      (.error err, db')) : db' = db := by
  rcases reserveSubscriptionBillingQuota_cases db requestId uid tid amount unlimitedToken with
    ⟨_, out⟩ | ⟨_, _, _, _, _, _, out⟩
  · rw [out] at failed
    cases failed
    rfl
  · rw [out] at failed
    cases failed

theorem preConsume_error (failed : s.preConsume db quota = (.error err, db')) : db' = db := by
  unfold BillingSession.preConsume BillingSession.reserveFirst at failed
  grind [reserveWalletBillingQuota_error, reserveSubscriptionBillingQuota_error]

theorem tryWallet_error (failed : tryWallet db info quota = (.error err, db')) : db' = db := by
  unfold tryWallet at failed
  grind [preConsume_error]

theorem trySubscription_error (failed : trySubscription db info quota = (.error err, db')) : db' = db :=
  preConsume_error failed

theorem newBillingSession_error (failed : newBillingSession db info quota = (.error err, db')) : db' = db := by
  unfold newBillingSession at failed
  grind [tryWallet_error, trySubscription_error]

theorem newBillingSession_ok (made : newBillingSession db info quota = (.ok s, db')) :
    tryWallet db info quota = (.ok s, db') ∨ trySubscription db info quota = (.ok s, db') := by
  unfold newBillingSession at made
  grind [tryWallet_error, trySubscription_error]

def openedSession (info : RelayInfo) (funding : FundingSource) (quota : Int) (reserved : Bool) : BillingSession :=
  { BillingSession.start info funding with
    preConsumedQuota := quota, tokenConsumed := quota, alreadyReserved := !reserved }

theorem getUserQuota_live {db : DB} {id : Int} (pos : ¬getUserQuota db id ≤ 0) : db.LiveUser id := by
  unfold getUserQuota at pos
  grind [DB.LiveUser]

theorem tryWallet_ok (made : tryWallet db info quota = (.ok s, db')) :
    db.LiveUser info.userId ∧
    ((quota ≤ 0 ∧ db' = db ∧
        s = { BillingSession.start info (.wallet info.userId 0) with
              preConsumedQuota := quota }.syncRelayInfo) ∨
     (0 < quota ∧ ∃ reserved,
        reserveWalletBillingQuota db info.requestId info.userId info.tokenId quota info.tokenUnlimited =
          (.ok reserved, db') ∧
        s = (openedSession info (.wallet info.userId quota) quota reserved).syncRelayInfo)) := by
  unfold tryWallet BillingSession.preConsume BillingSession.reserveFirst at made
  have live := @getUserQuota_live db info.userId
  grind [openedSession, BillingSession.start]

theorem trySubscription_ok (made : trySubscription db info quota = (.ok s, db')) :
    ∃ amount res reserved, 0 < amount ∧
      reserveSubscriptionBillingQuota db info.requestId info.userId info.tokenId amount
        info.tokenUnlimited = (.ok (res, reserved), db') ∧
      s = (openedSession info (.subscription info.requestId info.userId amount 0 amount) amount
        reserved).syncRelayInfo := by
  have pos : 0 < if quota ≤ 0 then 1 else quota := by
    split <;> omega
  unfold trySubscription BillingSession.preConsume BillingSession.reserveFirst at made
  grind [openedSession, BillingSession.start]

structure FreshRequest (db : DB) (info : RelayInfo) : Prop where
  named : info.requestId ≠ ""
  reservation : db.reservations.find info.requestId = none
  preConsume : db.preConsumeRecords.find info.requestId = none

section
variable {db db' : DB} {info : RelayInfo}

theorem openedSession_backed {funding : FundingSource} {record : BillingReservationRecord}
    (named : info.requestId ≠ "") (pos : 0 < quota)
    (found : db'.reservations.find info.requestId = some record) (opened : record.state = .reserved)
    (amount : record.amount = quota) (token : record.tokenId = info.tokenId) :
    Backed info (openedSession info funding quota true).syncRelayInfo db' record := by
  exact {
    request := syncRelayInfo_request (openedSession info funding quota true)
    settled := rfl
    refunded := rfl
    fundingSettled := rfl
    alreadyReserved := rfl
    named := named
    found := found
    opened := .inl opened
    amount := amount
    positive := pos
    consumed := pos
    token := token }

theorem walletBacked_of_reserve (fresh : FreshRequest db info) (pos : 0 < quota)
    (out : reserveWalletBillingQuota db info.requestId info.userId info.tokenId quota
      info.tokenUnlimited = (.ok reserved, db')) :
    ∃ record, WalletBacked db info
      (openedSession info (.wallet info.userId quota) quota reserved).syncRelayInfo db' record := by
  unfold reserveWalletBillingQuota at out
  split at out
  · cases out
  rw [if_neg (by omega)] at out
  obtain ⟨rfl, enough, room, rfl⟩ :=
    (reserveWalletBillingQuotaTx_fresh fresh.reservation (by omega)).mp (Tx.commit_eq_ok.mp out)
  have nothing := ChargedBy.refl db info none
  let record := newReservation info.requestId info.userId info.tokenId info.tokenUnlimited .wallet quota db.now
  have taken := nothing.moveReservation (by rfl : record.userId = info.userId) rfl enough.live room.live quota
  rw [zero_add] at taken
  exact ⟨record, {
    toBacked := openedSession_backed fresh.named pos (find_put_self _ record) rfl rfl rfl
    funding := rfl
    wallet := rfl
    user := rfl
    liveUser := by
      simp only [DB.moveReservation, debitToken_liveUser, debitUser_liveUser]
      exact enough.live
    liveToken := by
      simp only [DB.moveReservation, debitToken_liveToken, debitUser_liveToken]
      exact room.live
    charged := taken }⟩

theorem subscriptionBacked_of_reserve {res : SubscriptionPreConsumeResult} (fresh : FreshRequest db info)
    (sound : ∀ id sub, db.userSubscriptions.find id = some sub → 0 ≤ sub.amountUsed)
    (out : reserveSubscriptionBillingQuota db info.requestId info.userId info.tokenId amount
      info.tokenUnlimited = (.ok (res, reserved), db')) :
    ∃ record t origin sub, SubscriptionBacked db info (openedSession info
      (.subscription info.requestId info.userId amount 0 amount) amount reserved).syncRelayInfo db'
      record t origin sub amount := by
  obtain ⟨_, ran⟩ := reserveSubscriptionBillingQuota_ran out
  obtain ⟨rfl, pos, t, origin, sub, _, charge, _, room, rfl⟩ :=
    reserveSubscriptionBillingQuotaTx_fresh fresh.reservation fresh.preConsume ran
  have nothing := ChargedBy.refl db info (some sub.id)
  have nonneg : 0 ≤ sub.amountUsed := by
    obtain ⟨plan, _, reset⟩ := charge.reset
    obtain ⟨_, _, _, _, kept | emptied⟩ := resetDue_keeps reset
    · rw [kept]
      exact sound _ origin charge.found
    · omega
  have covered := charge.room
  let record := { newReservation info.requestId info.userId info.tokenId info.tokenUnlimited
    .subscription amount db.now with userSubscriptionId := sub.id }
  have token : TokenCharged db ((db.putReservation (newReservation info.requestId info.userId
      info.tokenId info.tokenUnlimited .subscription amount db.now)).chargeSubscription
      info.requestId info.userId amount t sub) info.tokenId 0 := nothing.token
  have tokenAfter := token.debit room.live amount
  rw [zero_add] at tokenAfter
  refine ⟨record, t, origin, sub, {
    toBacked := openedSession_backed fresh.named pos (find_put_self _ record) rfl rfl rfl
    funding := rfl
    source := rfl
    charge := charge
    holds := ?_
    firstPositive := pos
    topUp := le_refl 0
    total := (add_zero amount).symm
    subscription := rfl
    preConsume := ⟨newPreConsume info.requestId info.userId amount sub db.now,
      find_put_self _ (newPreConsume info.requestId info.userId amount sub db.now), rfl, rfl, rfl⟩
    wallet := nothing.wallet
    tokens := tokenAfter
    liveToken := fun pos => (debitToken_liveToken db _ _ _).mpr (room.live pos) }⟩
  refine ⟨fun id => ?_, rfl, rfl, rfl, nonneg, fun limited => ?_⟩
  · have stored : (t.put (sub.withUsed (sub.amountUsed + amount))).find id =
        if id = sub.id then some (sub.withUsed (sub.amountUsed + amount)) else t.find id := by
      grind [UserSubscription.withUsed]
    exact stored
  · change sub.amountUsed + amount ≤ sub.amountTotal
    omega

end

structure Unbacked (before : DB) (info : RelayInfo) (s : BillingSession) (db : DB) : Prop where
  request : SameRequest info s.relayInfo
  settled : s.settled = false
  refunded : s.refunded = false
  fundingSettled : s.fundingSettled = false
  missing : db.reservations.find info.requestId = none
  nonnegative : 0 ≤ s.preConsumedQuota
  funding : s.funding = .wallet info.userId s.preConsumedQuota
  consumed : s.tokenConsumed = s.preConsumedQuota
  liveUser : db.LiveUser info.userId
  token : TokenReady db info
  charged : ChargedBy before db info none s.preConsumedQuota
  room : ∀ amount, before.TokenHolds info.tokenId (s.preConsumedQuota + amount) info.tokenUnlimited →
    db.TokenHolds info.tokenId amount info.tokenUnlimited

def DB.takeWithoutRecord (db : DB) (info : RelayInfo) (delta : Int) : DB :=
  (db.spendUser info.userId delta).debitToken info.tokenId delta

section
variable {before db : DB} {info : RelayInfo} {s : BillingSession}

theorem spendUser_tokenHolds (db : DB) (user spent id amount : Int) (unlimited : Bool) :
    (db.spendUser user spent).TokenHolds id amount unlimited ↔ db.TokenHolds id amount unlimited := by
  simp [DB.TokenHolds]

theorem DB.TokenHolds.debit {id : Int} {unlimited : Bool} (ne : delta ≠ 0)
    (holds : db.TokenHolds id (delta + amount) unlimited) :
    (db.debitToken id delta).TokenHolds id amount unlimited := by
  intro pos
  obtain ⟨token, found, live, enough⟩ := holds pos
  refine ⟨token.debit delta, ?_, live, ?_⟩
  · rw [find_debitToken, found]
    simp [pos, live, ne]
  · grind [Token.debit]

section
variable (unbacked : Unbacked before info s db)
include unbacked

theorem Unbacked.reserveToken {after : DB}
    (pos : 0 < delta) (enough : after.TokenHolds info.tokenId delta info.tokenUnlimited) :
    s.reserveToken after delta = (.ok (), after.debitToken info.tokenId delta) := by
  have req := unbacked.request
  unfold BillingSession.reserveToken
  cases playground : info.isPlayground with
  | true =>
    have none := unbacked.token.1 playground
    rw [if_pos (.inr (req.isPlayground.trans playground)), debitToken_skip (.inl none)]
  | false =>
    obtain ⟨named, _⟩ := unbacked.token.2 playground
    have billed : ¬(delta ≤ 0 ∨ s.relayInfo.isPlayground = true) := by
      rw [req.isPlayground, playground]
      simpa using pos
    have paid : preConsumeTokenQuota after s.relayInfo delta = (.ok (), after.debitToken info.tokenId delta) := by
      unfold preConsumeTokenQuota reserveTokenQuota
      rw [req.tokenId, req.tokenUnlimited, if_neg (by omega), if_neg (by omega), if_neg (by omega)]
      exact Tx.commit_eq_ok.mpr ((reserveTokenQuotaTx_ok (by omega)).mpr ⟨enough, rfl⟩)
    rw [if_neg billed, paid]

theorem Unbacked.reserve_eq (upwards : s.preConsumedQuota < targetQuota)
    (enough : before.TokenHolds info.tokenId targetQuota info.tokenUnlimited) :
    (s.reserve db targetQuota).2 =
      ({ s with funding := .wallet info.userId targetQuota }.topUp (targetQuota - s.preConsumedQuota),
        db.takeWithoutRecord info (targetQuota - s.preConsumedQuota)) := by
  have busy : ¬(s.settled ∨ s.refunded ∨ targetQuota ≤ s.preConsumedQuota) := by
    simp [unbacked.settled, unbacked.refunded, upwards]
  have pos : 0 < targetQuota - s.preConsumedQuota := by omega
  have total : s.preConsumedQuota + (targetQuota - s.preConsumedQuota) = targetQuota := by omega
  have room : (db.spendUser info.userId (targetQuota - s.preConsumedQuota)).TokenHolds info.tokenId
      (targetQuota - s.preConsumedQuota) info.tokenUnlimited := by
    rw [spendUser_tokenHolds]
    apply unbacked.room
    rwa [total]
  have funded : s.reserveFunding db (targetQuota - s.preConsumedQuota) =
      (.ok (), { s with funding := .wallet info.userId targetQuota },
        db.spendUser info.userId (targetQuota - s.preConsumedQuota)) := by
    unfold BillingSession.reserveFunding
    have spent := decreaseUserQuota_eq db info.userId (le_of_lt pos)
    simp only [unbacked.funding, spent, total]
  have paid : BillingSession.reserveToken { s with funding := .wallet info.userId targetQuota }
      (db.spendUser info.userId (targetQuota - s.preConsumedQuota)) (targetQuota - s.preConsumedQuota) =
      (.ok (), db.takeWithoutRecord info (targetQuota - s.preConsumedQuota)) :=
    unbacked.reserveToken pos room
  unfold BillingSession.reserve
  rw [if_neg busy, unbacked.request.requestId]
  simp only [appendBillingReservation_missing unbacked.missing pos, ne_eq, not_true_eq_false, if_false,
    BillingSession.reserveWithoutRecord, funded, paid]

theorem Unbacked.reserve (enough : before.TokenHolds info.tokenId targetQuota info.tokenUnlimited) :
    Unbacked before info (s.reserve db targetQuota).2.1 (s.reserve db targetQuota).2.2 ∧
      (s.reserve db targetQuota).2.1.preConsumedQuota = max s.preConsumedQuota targetQuota := by
  by_cases upwards : s.preConsumedQuota < targetQuota
  · rw [unbacked.reserve_eq upwards enough]
    have start := unbacked.nonnegative
    have ne : targetQuota - s.preConsumedQuota ≠ 0 := by omega
    have total : s.preConsumedQuota + (targetQuota - s.preConsumedQuota) = targetQuota := by omega
    have pre : (({ s with funding := .wallet info.userId targetQuota } : BillingSession).topUp
        (targetQuota - s.preConsumedQuota)).preConsumedQuota = targetQuota := total
    have token := unbacked.charged.token.spendUser info.userId (targetQuota - s.preConsumedQuota)
    have spent := unbacked.charged.wallet.spend unbacked.liveUser (targetQuota - s.preConsumedQuota)
    have live : 0 < info.tokenId →
        (db.spendUser info.userId (targetQuota - s.preConsumedQuota)).LiveToken info.tokenId := by
      intro pos
      exact ((spendUser_tokenHolds _ _ _ _ _ _).mpr (unbacked.room _ (by rwa [total]))).live pos
    refine ⟨{ unbacked with
      request := unbacked.request.trans (topUp_request { s with funding := .wallet info.userId targetQuota } _)
      missing := by
        have untouched := spendUser_reservations db info.userId (targetQuota - s.preConsumedQuota)
        exact (congrArg (·.find info.requestId) untouched).trans unbacked.missing
      nonnegative := by
        rw [pre]
        omega
      funding := by rw [pre]; rfl
      consumed := congrArg (· + (targetQuota - s.preConsumedQuota)) unbacked.consumed
      liveUser := by
        rw [DB.takeWithoutRecord, debitToken_liveUser, spendUser_liveUser]
        exact unbacked.liveUser
      token := by
        refine ⟨unbacked.token.1, fun billed => ⟨(unbacked.token.2 billed).1, ?_⟩⟩
        rw [DB.takeWithoutRecord, debitToken_liveToken]
        exact live (unbacked.token.2 billed).1
      charged := ?_
      room := ?_ }, ?_⟩
    · rw [pre]
      have paid := token.debit live (targetQuota - s.preConsumedQuota)
      simp only [if_true, total] at spent paid
      refine ⟨spent, paid, fun id => ?_⟩
      exact (spendUser_subscriptionUsed db _ _ id).trans (unbacked.charged.used id)
    · intro amount enough
      rw [pre] at enough
      apply DB.TokenHolds.debit ne
      rw [spendUser_tokenHolds]
      apply unbacked.room
      rwa [← add_assoc, total]
    · rw [pre]
      omega
  · have idle : s.settled ∨ s.refunded ∨ targetQuota ≤ s.preConsumedQuota := .inr (.inr (by omega))
    have same : (s.reserve db targetQuota).2 = (s, db) := by
      rw [BillingSession.reserve, if_pos idle]
    rw [same]
    exact ⟨unbacked, by simp only; omega⟩

theorem Unbacked.markProviderStarted : (s.markProviderStarted db).2 = db := by
  have unmarked : (markBillingReservationProviderStarted db s.relayInfo.requestId).2 = db := by
    grind [markBillingReservationProviderStarted_unchanged, unbacked.request.requestId, unbacked.missing]
  unfold BillingSession.markProviderStarted
  grind

theorem Unbacked.run (calls : List SessionCall) (enough : ∀ targetQuota, .reserve targetQuota ∈ calls →
      before.TokenHolds info.tokenId targetQuota info.tokenUnlimited) :
    Unbacked before info (runSteps applySessionCall (s, db) calls).1 (runSteps applySessionCall (s, db) calls).2 ∧
      (0 < (runSteps applySessionCall (s, db) calls).1.preConsumedQuota ↔
        0 < s.preConsumedQuota ∨ ∃ targetQuota, .reserve targetQuota ∈ calls ∧ 0 < targetQuota) := by
  induction calls using List.reverseRecOn with
  | nil => exact ⟨unbacked, by simp⟩
  | append_singleton calls call ih =>
    obtain ⟨held, pos⟩ := ih fun targetQuota listed => enough targetQuota (by simp [listed])
    rw [runSteps_snoc]
    cases call with
    | reserve targetQuota =>
      obtain ⟨next, pre⟩ := held.reserve (enough targetQuota (by simp))
      refine ⟨next, ?_⟩
      simp only [applySessionCall, pre, lt_max_iff, pos, mem_append, mem_singleton,
        SessionCall.reserve.injEq]
      grind
    | markProviderStarted =>
      simp only [applySessionCall, held.markProviderStarted]
      exact ⟨held, by simp [pos]⟩

end

theorem settleWithoutRecord_wallet (req : SameRequest info s.relayInfo) (busy : s.fundingSettled = false)
    {used : Int} (funding : s.funding = .wallet info.userId used) (token : TokenReady db info) (ne : delta ≠ 0)
    (settled : (s.settleWithoutRecord db delta).1 = .ok ()) :
    (s.settleWithoutRecord db delta).2.2 = db.spendDirect info delta := by
  have funded : (∃ err, s.settleFunding db delta = (.error err, db)) ∨
      s.settleFunding db delta = (.ok (), db.spendUser info.userId delta) := by
    simp only [BillingSession.settleFunding, busy, Bool.false_eq_true, if_false, FundingSource.settle, ne, funding]
    split
    · rename_i upwards
      exact .inr (decreaseUserQuota_eq db info.userId (le_of_lt upwards))
    · have out := increaseUserQuota_cases db info.userId (-delta)
      rwa [neg_neg] at out
  have paid : s.settleToken (db.spendUser info.userId delta) delta = (.ok (), db.spendDirect info delta) := by
    unfold BillingSession.settleToken DB.spendDirect
    rw [req.isPlayground, req.tokenId]
    cases playground : info.isPlayground with
    | true => rfl
    | false =>
      have named := (token.2 playground).1
      by_cases upwards : 0 < delta
      · rw [if_pos upwards]
        exact decreaseTokenQuota_eq _ named upwards
      · rw [if_neg upwards]
        have back := increaseTokenQuota_eq (db.spendUser info.userId delta) named (by omega : 0 < -delta)
        rwa [neg_neg] at back
  rcases funded with ⟨err, failed⟩ | funded
  · simp [BillingSession.settleWithoutRecord, failed] at settled
  · simp only [BillingSession.settleWithoutRecord, funded, paid]

theorem Unbacked.conserves (unbacked : Unbacked before info s db) (idle : s.preConsumedQuota = 0) :
    Conserves before info (s, db) := by
  have funding := unbacked.funding
  have paid := unbacked.charged
  have unrecorded : s.hasReservation = false := by
    simp [BillingSession.hasReservation, idle]
  rw [idle] at paid
  refine ⟨none, by rw [FundedBy, funding]; rfl, ?_, ?_⟩
  · have nothing : s.needsRefund = false := by
      simp [BillingSession.needsRefund, funding, unbacked.consumed, idle]
    have skipped : (s.refund db).2 = db := by
      simp [BillingSession.refund, nothing]
    rw [skipped]
    exact paid
  · intro actual _ settled
    unfold BillingSession.settle at settled ⊢
    simp only [unbacked.settled, Bool.false_eq_true, if_false, unrecorded, idle, sub_zero] at settled ⊢
    by_cases free : actual = 0
    · simp only [free, if_true]
      exact paid
    · simp only [free, if_false] at settled ⊢
      rw [settleWithoutRecord_wallet unbacked.request unbacked.fundingSettled funding unbacked.token free settled]
      have taken := paid.spendDirect unbacked.liveUser unbacked.token actual
      rwa [zero_add] at taken

theorem Unbacked.not_conserves (unbacked : Unbacked before info s db) (topped : 0 < s.preConsumedQuota) :
    ¬Conserves before info (s, db) := by
  rintro ⟨_ | id, source, refunded, _⟩
  case some => simp [FundedBy, unbacked.funding, FundingSource.source] at source
  have needed : s.needsRefund = true := by
    simp [BillingSession.needsRefund, unbacked.settled, unbacked.refunded, unbacked.fundingSettled,
      unbacked.consumed, topped]
  have recorded : s.hasReservation = true := by
    simp [BillingSession.hasReservation, topped]
  have busy : ¬(s.settled ∨ s.refunded ∨ ¬s.needsRefund) := by
    simp [unbacked.settled, unbacked.refunded, needed]
  have kept : (s.refund db).2 = db := by
    unfold BillingSession.refund
    rw [if_neg busy]
    simp only [recorded, Bool.true_or, if_true, unbacked.request.requestId]
    exact congrArg Prod.snd (releaseReservation_missing unbacked.missing false)
  have owed := unbacked.charged.wallet info.userId
  have back := refunded.wallet info.userId
  rw [kept] at back
  simp only [if_true] at owed back
  omega

end

section
variable {before db : DB} {info : RelayInfo} {s : BillingSession} {record : BillingReservationRecord}

/-- A backing that every call keeps, with the record that the call leaves, is kept by every sequence of calls. -/
theorem session_run_backed (backing : BillingSession × DB → BillingReservationRecord → Prop)
    (each : ∀ state record, backing state record → ∀ call, ∃ next, backing (applySessionCall state call) next)
    (backed : backing (s, db) record) (calls : List SessionCall) :
    ∃ last, backing (runSteps applySessionCall (s, db) calls) last :=
  @runSteps_invariant _ _ _ (fun _ _ => True) (fun state => ∃ record, backing state record)
    (fun state call ⟨record, held⟩ _ => each state record held call) calls _ ⟨record, backed⟩
    (guarded_of_all _ calls fun _ _ _ => trivial)

theorem unbacked_of_start (fresh : FreshRequest db info) (token : TokenReady db info)
    (live : db.LiveUser info.userId) :
    Unbacked db info (BillingSession.start info (.wallet info.userId 0)).syncRelayInfo db where
  request := syncRelayInfo_request (BillingSession.start info (.wallet info.userId 0))
  settled := rfl
  refunded := rfl
  fundingSettled := rfl
  missing := fresh.reservation
  nonnegative := le_refl 0
  funding := rfl
  consumed := rfl
  liveUser := live
  token := token
  charged := ChargedBy.refl db info none
  room := by
    intro amount enough
    have zero : (BillingSession.start info (.wallet info.userId 0)).syncRelayInfo.preConsumedQuota = 0 := rfl
    rwa [zero, zero_add] at enough

end

theorem session_conserves_iff {db db₁ : DB} {info : RelayInfo} {quota : Int} {session : BillingSession}
    (calls : List SessionCall) (fresh : FreshRequest db info) (token : TokenReady db info)
    (sound : ∀ id sub, db.userSubscriptions.find id = some sub → 0 ≤ sub.amountUsed)
    (nonnegative : 0 ≤ quota) (created : newBillingSession db info quota = (.ok session, db₁))
    (enough : ∀ targetQuota, .reserve targetQuota ∈ calls →
      db.TokenHolds info.tokenId targetQuota info.tokenUnlimited) :
    Conserves db info (runSteps applySessionCall (session, db₁) calls) ↔
      ¬(session.funding.source = .wallet ∧ quota = 0 ∧
        ∃ targetQuota, .reserve targetQuota ∈ calls ∧ 0 < targetQuota) := by
  rcases newBillingSession_ok created with wallet | subscription
  · obtain ⟨live, ⟨idle, rfl, rfl⟩ | ⟨positive, reserved, outcome, rfl⟩⟩ := tryWallet_ok wallet
    · obtain rfl : quota = 0 := by omega
      obtain ⟨held, topped⟩ := (unbacked_of_start fresh token live).run calls enough
      have source : ((BillingSession.start info (.wallet info.userId 0)).syncRelayInfo).funding.source =
          .wallet := rfl
      have zero : ¬0 < (BillingSession.start info (.wallet info.userId 0)).syncRelayInfo.preConsumedQuota :=
        lt_irrefl 0
      simp only [zero, false_or] at topped
      constructor
      · rintro conserves ⟨_, _, raised⟩
        exact held.not_conserves (topped.mpr raised) conserves
      · intro spared
        have idle : ¬0 < (runSteps applySessionCall
            ((BillingSession.start info (.wallet info.userId 0)).syncRelayInfo, db₁) calls).1.preConsumedQuota :=
          fun raised => spared ⟨source, rfl, topped.mp raised⟩
        have start := held.nonnegative
        exact held.conserves (by omega)
    · obtain ⟨record, backed⟩ := walletBacked_of_reserve fresh positive outcome
      obtain ⟨_, held⟩ := session_run_backed (fun state => WalletBacked db info state.1 state.2)
        (fun _ _ held => held.call) backed calls
      have spared : ¬quota = 0 := by omega
      simp only [spared, false_and, and_false, not_false_eq_true, iff_true]
      exact held.conserves
  · obtain ⟨amount, result, reserved, _, outcome, rfl⟩ := trySubscription_ok subscription
    obtain ⟨record, table, origin, sub, backed⟩ := subscriptionBacked_of_reserve fresh sound outcome
    obtain ⟨_, held⟩ := session_run_backed
      (fun state record => SubscriptionBacked db info state.1 state.2 record table origin sub amount)
      (fun _ _ held => held.call) backed calls
    have source := backed.funding
    simp only [source, reduceCtorEq, false_and, not_false_eq_true, iff_true]
    exact held.conserves

def walletRequest : RelayInfo where
  requestId := "req"
  userId := 1
  tokenId := 1
  tokenKey := "sk-1"
  tokenUnlimited := false
  isPlayground := false
  billingPreference := "wallet_only"
  finalPreConsumedQuota := 0
  billingSource := .unset
  subscriptionId := 0
  subscriptionPreConsumed := 0
  subscriptionPostDelta := 0

theorem walletRequest_fresh : FreshRequest (DB.single 100) walletRequest :=
  ⟨by decide, by decide, by decide⟩

theorem walletRequest_token : TokenReady (DB.single 100) walletRequest :=
  ⟨by decide, fun _ => ⟨by decide, _, rfl, rfl⟩⟩

theorem walletRequest_holds (amount : Int) (enough : amount ≤ 100) :
    (DB.single 100).TokenHolds walletRequest.tokenId amount walletRequest.tokenUnlimited :=
  fun _ => ⟨_, rfl, rfl, .inr enough⟩

def subscriberRequest : RelayInfo := { walletRequest with billingPreference := "subscription_only" }

theorem session_conserves_iff_subscriberRequest :
    ∃ session db₁, newBillingSession DB.subscribed subscriberRequest 10 = (.ok session, db₁) ∧
      session.funding.source = .subscription ∧ Conserves DB.subscribed subscriberRequest
        (runSteps applySessionCall (session, db₁) [.reserve 30, .markProviderStarted]) := by
  refine ⟨_, _, rfl, rfl, ?_⟩
  refine (@session_conserves_iff DB.subscribed _ subscriberRequest 10 _ [.reserve 30, .markProviderStarted]
    ⟨by decide, by decide, by decide⟩ ⟨by decide, fun _ => ⟨by decide, _, rfl, rfl⟩⟩ ?_ (by decide) rfl ?_).mpr ?_
  · intro id sub found
    obtain rfl := mem_singleton.mp (mem_of_find found)
    decide
  · intro targetQuota listed
    apply walletRequest_holds
    simp only [mem_cons, SessionCall.reserve.injEq, reduceCtorEq, not_mem_nil, or_false] at listed
    omega
  · rintro ⟨wallet, _⟩
    exact absurd wallet (by decide)

theorem refund_after_topUp_from_zero :
    ∃ session db₁, newBillingSession (DB.single 100) walletRequest 0 = (.ok session, db₁) ∧
      ((applySessionCall (session, db₁) (.reserve 10)).1.refund
        (applySessionCall (session, db₁) (.reserve 10)).2).2.userBalance 1 = 90 ∧
      ((applySessionCall (session, db₁) (.reserve 10)).1.refund
        (applySessionCall (session, db₁) (.reserve 10)).2).2.tokenBalance 1 = 90 ∧
      ¬Conserves (DB.single 100) walletRequest (runSteps applySessionCall (session, db₁) [.reserve 10]) := by
  refine ⟨_, _, rfl, by decide, by decide, ?_⟩
  rintro ⟨_ | id, source, refunded, _⟩
  case some => exact absurd source.1 (by decide)
  have returned := refunded.wallet 1
  revert returned
  decide

end Wildflow.Billing
