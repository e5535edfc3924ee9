import Wildflow.Proof.Billing.TaskOperation

/-!
# The money behind an image task

What a request has taken from its funding source, through its session and the transaction that attaches the task.
-/

namespace Wildflow.Billing
open Wildflow.Store Tx Table BillingSession Option
variable {record : BillingReservationRecord} {session s : BillingSession} {u : Unit}

/-- The request took `amount` from its token and its source, a subscription row compared after its due reset. -/
structure NetCharge (before after : DB) (info : RelayInfo) (subscription : Option Int) (amount : Int) : Prop where
  wallet : WalletCharged before after info.userId (if subscription = none then amount else 0)
  token : TokenCharged before after info.tokenId amount
  used : ∀ id, subscription = some id → ∃ sub used, after.userSubscriptions.find id = some sub ∧
    before.subscriptionUsed id = some used ∧ sub.amountUsed = used + amount

structure SameBalances (db db' : DB) : Prop where
  wallet : ∀ user, db'.userBalance user = db.userBalance user
  token : ∀ token, db'.tokenBalance token = db.tokenBalance token ∧ db'.tokenSpent token = db.tokenSpent token
  subscriptions : db'.userSubscriptions = db.userSubscriptions
  liveUser : ∀ user, db.LiveUser user → db'.LiveUser user
  liveToken : ∀ token, db.LiveToken token → db'.LiveToken token

section
variable {before db db' : DB} {info : RelayInfo} {subscription : Option Int} {amount : Int}

theorem SameBalances.frame (now : Int) (operations : Table WildFlowOperation.operationId)
    (reservations : Table BillingReservationRecord.requestId) (tasks : Table TaskRow.id)
    (log : Table WildFlowBillingLogEntry.primaryKey) :
    SameBalances db { db with now, operations, reservations, tasks, billingLog := log } :=
  ⟨fun _ => rfl, fun _ => ⟨rfl, rfl⟩, rfl, fun _ live => live, fun _ live => live⟩

theorem SameBalances.trans {db'' : DB} (first : SameBalances db db') (second : SameBalances db' db'') :
    SameBalances db db'' where
  wallet user := (second.wallet user).trans (first.wallet user)
  token token := ⟨(second.token token).1.trans (first.token token).1,
    (second.token token).2.trans (first.token token).2⟩
  subscriptions := second.subscriptions.trans first.subscriptions
  liveUser user live := second.liveUser user (first.liveUser user live)
  liveToken token live := second.liveToken token (first.liveToken token live)

theorem SameBalances.addUserUse (db : DB) (id quota requests : Int) :
    SameBalances db (addUserUse db id quota requests) where
  wallet user := by
    unfold DB.userBalance
    rw [userQuota_addUserUse]
    rfl
  token token := ⟨rfl, rfl⟩
  subscriptions := rfl
  liveUser user := addUserUse_liveUser user quota requests
  liveToken token live := live

theorem NetCharge.refl (db : DB) (info : RelayInfo) : NetCharge db db info none 0 where
  wallet user := by simp
  token token := by simp
  used id same := by cases same

theorem NetCharge.congr (charge : NetCharge before db info subscription amount) (same : SameBalances db db') :
    NetCharge before db' info subscription amount where
  wallet user := (same.wallet user).trans (charge.wallet user)
  token token := ⟨(same.token token).1.trans (charge.token token).1, (same.token token).2.trans (charge.token token).2⟩
  used id chosen := by
    rw [same.subscriptions]
    exact charge.used id chosen

def SourceReady (db : DB) (info : RelayInfo) (record : BillingReservationRecord) : Option Int → Prop
  | none => record.source = .wallet ∧ record.userId = info.userId ∧ db.LiveUser info.userId
  | some id => record.source = .subscription ∧ record.userSubscriptionId = id ∧
      ∃ sub, db.userSubscriptions.find id = some sub ∧ record.amount ≤ sub.amountUsed

structure FundsHeld (before db : DB) (info : RelayInfo) (subscription : Option Int)
    (record : BillingReservationRecord) : Prop where
  charge : NetCharge before db info subscription record.amount
  token : record.tokenId = info.tokenId
  source : SourceReady db info record subscription
  liveToken : 0 < info.tokenId → db.LiveToken info.tokenId

theorem FundsHeld.of_wallet
    (backed : WalletBacked before info s db record) : FundsHeld before db info none record where
  charge := by
    rw [backed.amount]
    exact ⟨backed.charged.wallet, backed.charged.token, fun id same => by cases same⟩
  token := backed.token
  source := ⟨backed.wallet, backed.user, backed.liveUser⟩
  liveToken := backed.liveToken

theorem FundsHeld.of_subscription {t : Table UserSubscription.id} {origin sub : UserSubscription} {first : Int}
    (backed : SubscriptionBacked before info s db record t origin sub first) :
    FundsHeld before db info (some sub.id) record where
  charge := by
    rw [backed.amount]
    refine ⟨by simpa using backed.wallet, backed.tokens, ?_⟩
    rintro id ⟨⟩
    exact ⟨_, _, backed.holds.row, subscriptionUsed_origin backed.charge, rfl⟩
  token := backed.token
  source := by
    refine ⟨backed.source, backed.subscription, _, backed.holds.row, ?_⟩
    have used := backed.holds.nonnegative
    rw [backed.amount, withUsed_amountUsed]
    omega
  liveToken := backed.liveToken

theorem FundsHeld.settle {requestId : String} {actual : Int}
    (funds : FundsHeld before db info subscription record) (found : db.reservations.find requestId = some record)
    (opened : record.Open) (nonnegative : 0 ≤ actual)
    (ran : (settleBillingReservationTx requestId (actual - record.amount)).run db = .ok (u, db')) :
    NetCharge before db' info subscription actual := by
  have total : record.amount + (actual - record.amount) = actual := by omega
  cases subscription with
  | none =>
    obtain ⟨wallet, user, live⟩ := funds.source
    obtain ⟨_, _, rfl⟩ := (settleBillingReservationTx_wallet_ok found wallet opened).mp ran
    have walletCharge : WalletCharged before (db.putReservation (record.moved .settled db.now)) info.userId
        record.amount := by
      have held := funds.charge.wallet
      rw [if_pos rfl] at held
      exact held
    have paid := walletCharge.debit live (actual - record.amount)
    have tokenCharge : TokenCharged before ((db.putReservation (record.moved .settled db.now)).debitUser
        info.userId (actual - record.amount)) info.tokenId record.amount := funds.charge.token
    have spent := tokenCharge.debit funds.liveToken (actual - record.amount)
    rw [total] at paid spent
    have sameUser : (record.moved .settled db.now).userId = info.userId := user
    have sameToken : (record.moved .settled db.now).tokenId = info.tokenId := funds.token
    unfold DB.moveReservation
    rw [sameUser, sameToken]
    exact ⟨by rw [if_pos rfl]; exact paid, spent, fun id same => by cases same⟩
  | some id =>
    obtain ⟨src, own, sub, subFound, enough⟩ := funds.source
    have eff := (settleBillingReservationTx_open found opened).mp ran
    split at eff
    · rename_i even
      subst eff
      have same : record.amount = actual := by omega
      rw [← same]
      exact funds.charge.congr (.frame _ _ _ _ _)
    · obtain ⟨_, paid, spent⟩ := eff
      simp only [settleSource, src, own] at paid
      obtain ⟨row, rowFound, _, rfl⟩ := postConsumeUserSubscriptionDeltaTx_ok.mp paid
      obtain rfl := mem_unique subFound rowFound
      obtain ⟨_, rfl⟩ := adjustTokenQuotaDeltaTx_ok.mp spent
      have tokenCharge : TokenCharged before ((db.putReservation (record.moved .settled db.now)).putSubscription
          (sub.shifted (actual - record.amount))) info.tokenId record.amount := funds.charge.token
      have charged := tokenCharge.debit funds.liveToken (actual - record.amount)
      rw [total] at charged
      rw [funds.token]
      refine ⟨funds.charge.wallet, charged, ?_⟩
      rintro other ⟨⟩
      have stored : (db.userSubscriptions.put (sub.shifted (actual - record.amount))).find id =
          some (sub.shifted (actual - record.amount)) :=
        find_put_changed subFound rfl
      obtain ⟨row, used, rowFound, first, same⟩ := funds.charge.used id rfl
      obtain rfl := mem_unique subFound rowFound
      refine ⟨_, used, stored, first, ?_⟩
      simp only [UserSubscription.shifted, withUsed_amountUsed]
      omega

def BillingReservationRecord.chargedSubscription (record : BillingReservationRecord) : Option Int :=
  match record.source with
  | .wallet => none
  | .subscription => some record.userSubscriptionId

section
variable (funds : FundsHeld before db info subscription record)
include funds

theorem FundsHeld.congr (same : SameBalances db db') : FundsHeld before db' info subscription record := by
  refine ⟨funds.charge.congr same, funds.token, ?_, fun pos => same.liveToken _ (funds.liveToken pos)⟩
  have src := funds.source
  cases subscription with
  | none => exact ⟨src.1, src.2.1, same.liveUser _ src.2.2⟩
  | some id =>
    obtain ⟨kind, target, sub, found, enough⟩ := src
    exact ⟨kind, target, sub, by rw [same.subscriptions]; exact found, enough⟩

theorem FundsHeld.moved
    (st : ReservationState) (now : Int) : FundsHeld before db info subscription (record.moved st now) := by
  refine ⟨funds.charge, funds.token, ?_, funds.liveToken⟩
  have src := funds.source
  cases subscription <;> exact src

theorem FundsHeld.chargedSubscription : record.chargedSubscription = subscription := by
  have src := funds.source
  unfold BillingReservationRecord.chargedSubscription
  cases subscription with
  | none => rw [src.1]
  | some id => rw [src.1, src.2.1]

end

end

def BilledRelay.Idle (relay : BilledRelay) : Prop :=
  match relay.billing with
  | none => relay.info.finalPreConsumedQuota = 0
  | some session =>
    session.preConsumedQuota = 0 ∧ session.tokenConsumed = 0 ∧ session.funding.source = .wallet

structure BillingSession.Holds (session : BillingSession) (info : RelayInfo) : Prop where
  request : SameRequest info session.relayInfo
  positive : 0 < session.preConsumedQuota
  named : info.requestId ≠ ""

section
variable {session session' : BillingSession} {info : RelayInfo} {db : DB} {relay : BilledRelay}

theorem BillingSession.Holds.congr (holds : session.Holds info) (same : SameAccount session session') :
    session'.Holds info :=
  ⟨holds.request.trans same.request, by rw [same.preConsumedQuota]; exact holds.positive, holds.named⟩

theorem refund_account (session : BillingSession) (db : DB) : SameAccount session (session.refund db).1 := by
  unfold refund
  split
  · exact .marked session _ _ _
  · dsimp only
    split <;> exact .marked session _ _ true

theorem idle_settle (idle : relay.Idle) :
    (settleBilling db relay 0).2.1.Idle ∧ (settleBilling db relay 0).2.2 = db := by
  unfold BilledRelay.Idle at idle
  unfold settleBilling
  cases bound : relay.billing with
  | none =>
    rw [bound] at idle
    simp [idle, BilledRelay.Idle, bound]
  | some session =>
    rw [bound] at idle
    obtain ⟨nothing, used, wallet⟩ := idle
    have same := settle_account session db 0
    have kept : (session.settle db 0).2.2 = db := by
      simp [settle, nothing, hasReservation]
      split <;> rfl
    refine ⟨?_, kept⟩
    unfold BilledRelay.Idle
    exact ⟨same.preConsumedQuota.trans nothing, same.tokenConsumed.trans used, by rw [same.funding]; exact wallet⟩

theorem idle_refund (nothing : session.tokenConsumed = 0) (wallet : session.funding.source = .wallet) :
    session.refund db = (session, db) := by
  have unneeded : session.needsRefund = false := by
    unfold needsRefund
    cases funding : session.funding with
    | wallet user used => simp [nothing]
    | subscription => rw [funding] at wallet; cases wallet
  simp [refund, unneeded]

theorem idle_markProviderStarted (nothing : session.preConsumedQuota = 0) :
    (session.markProviderStarted db).2 = db := by
  simp [markProviderStarted, hasReservation, nothing]

variable {record : BillingReservationRecord} (holds : session.Holds info)
include holds

theorem holds_refund :
    (session.refund db).2 = db ∨ (session.refund db).2 = (releaseReservation db info.requestId false).2 := by
  have recorded : session.hasReservation = true := by
    simp [hasReservation, holds.positive]
  unfold refund
  split
  · exact .inl rfl
  · right
    simp only [recorded, Bool.true_or, if_true, holds.request.requestId]
    rfl

theorem holds_markProviderStarted :
    (session.markProviderStarted db).2 = db ∨
    (session.markProviderStarted db).2 = (markBillingReservationProviderStarted db info.requestId).2 := by
  unfold markProviderStarted
  split
  · exact .inl rfl
  split
  · exact .inl rfl
  right
  rw [holds.request.requestId]
  rcases markBillingReservationProviderStarted db info.requestId with ⟨res, db'⟩
  cases res <;> rfl

section
variable (found : db.reservations.find info.requestId = some record) (closed : ¬record.Open)
include found closed

theorem holds_settle (actual : Int) : (session.settle db actual).2.2 = db := by
  have recorded : session.hasReservation = true := by
    simp [hasReservation, holds.positive]
  have settled : ∀ d, settleBillingReservation db info.requestId d = (.ok (), db) := by
    intro d
    rw [settleBillingReservation_eq holds.named]
    exact commit_eq_ok.mpr (settleBillingReservationTx_closed found closed)
  unfold settle
  simp only [recorded, if_true, holds.request.requestId, settled]
  split
  · rfl
  · split <;> rfl

theorem holds_markProviderStarted_closed : (session.markProviderStarted db).2 = db := by
  rcases @holds_markProviderStarted _ _ db holds with same | marked
  · exact same
  rw [marked]
  rcases markBillingReservationProviderStarted_cases db info.requestId with same | ⟨row, rowFound, reserved, _⟩
  · exact same
  · obtain rfl := mem_unique found rowFound
    exact absurd (.inl reserved) closed

theorem holds_refund_closed : (session.refund db).2 = db := by
  rcases @holds_refund _ _ db holds with same | released
  · exact same
  rw [released]
  rcases releaseReservation_moves db info.requestId false with same | ⟨row, rowFound, opened, _⟩
  · exact same
  · obtain rfl := mem_unique found rowFound
    exact absurd opened closed

end

end

inductive Funding (before : DB) (info : RelayInfo) (s : AttachSystem) : Option TaskRow → Prop where
  | idle (task : Option TaskRow) (missing : s.db.reservations.find info.requestId = none) (idle : s.relay.Idle)
      (charge : NetCharge before s.db info none 0) (free : ∀ row ∈ task, row.quota = 0) : Funding before info s task
  | held (session : BillingSession) (record : BillingReservationRecord) (subscription : Option Int)
      (billing : s.relay.billing = some session) (holds : session.Holds info)
      (found : s.db.reservations.find info.requestId = some record) (opened : record.Open)
      (funds : FundsHeld before s.db info subscription record) : Funding before info s none
  | released (session : BillingSession) (record : BillingReservationRecord)
      (billing : s.relay.billing = some session) (holds : session.Holds info)
      (found : s.db.reservations.find info.requestId = some record) (state : record.state = .released) :
      Funding before info s none
  | settled (session : BillingSession) (record : BillingReservationRecord) (row : TaskRow)
      (billing : s.relay.billing = some session) (holds : session.Holds info)
      (found : s.db.reservations.find info.requestId = some record) (state : record.state = .settled)
      (charge : NetCharge before s.db info record.chargedSubscription row.quota) : Funding before info s (some row)

def reservationSettled (requestId : String) (s : AttachSystem) : Bool :=
  (s.db.reservations.find requestId).any fun record => record.state = .settled

section
variable {before db' : DB} {info : RelayInfo} {s : AttachSystem} {task : Option TaskRow}

section
variable (funding : Funding before info s task)
include funding

theorem Funding.congr (same : SameBalances s.db db')
    (kept : db'.reservations = s.db.reservations) : Funding before info { s with db := db' } task := by
  cases funding with
  | idle task missing idle charge free =>
    exact .idle task (by rw [kept]; exact missing) idle (charge.congr same) free
  | held session record subscription billing holds found opened funds =>
    exact .held session record subscription billing holds (by rw [kept]; exact found) opened (funds.congr same)
  | released session record billing holds found st =>
    exact .released session record billing holds (by rw [kept]; exact found) st
  | settled session record row billing holds found st charge =>
    exact .settled session record row billing holds (by rw [kept]; exact found) st (charge.congr same)

theorem Funding.attached_of_settled (settled : reservationSettled info.requestId s = true) : task.isSome = true := by
  unfold reservationSettled at settled
  cases funding with
  | idle task missing => simp [missing] at settled
  | held session record subscription billing holds found opened funds =>
    rw [found] at settled
    rcases opened with st | st <;> simp [st] at settled
  | released session record billing holds found st => simp [found, st] at settled
  | settled => rfl

structure SessionMoved (before : DB) (info : RelayInfo) (task : Option TaskRow) (s s' : AttachSystem) : Prop where
  moved : MoneyMoved s.db s'.db
  funding : Funding before info s' task
  kept : task.isSome = true → s'.db.reservations = s.db.reservations

theorem SessionMoved.refl : SessionMoved before info task s s :=
  ⟨.refl s.db, funding, fun _ => rfl⟩

theorem Funding.markProviderStarted (bound : s.relay.billing = some session) :
    SessionMoved before info task s { s with db := (session.markProviderStarted s.db).2 } := by
  cases funding with
  | idle task missing idle charge free =>
    have nothing := idle
    simp only [BilledRelay.Idle, bound] at nothing
    rw [idle_markProviderStarted nothing.1]
    exact .refl (.idle task missing idle charge free)
  | held own record subscription billing holds found opened funds =>
    obtain rfl := mem_unique bound billing
    have unmoved : SessionMoved before info none s s :=
      .refl (.held session record subscription billing holds found opened funds)
    rcases @holds_markProviderStarted _ _ s.db holds with same | marked
    · rw [same]
      exact unmoved
    rw [marked]
    rcases markBillingReservationProviderStarted_cases s.db info.requestId with
      same | ⟨row, rowFound, reserved, outcome⟩
    · rw [same]
      exact unmoved
    · obtain rfl := mem_unique found rowFound
      rw [outcome]
      refine ⟨.putReservation s.db _, ?_, fun attached => by cases attached⟩
      exact .held session (record.moved .providerStarted s.db.now) subscription billing holds
        (find_put_changed found rfl) (.inr rfl)
        ((funds.moved .providerStarted s.db.now).congr (.frame _ _ _ _ _))
  | released own record billing holds found st =>
    obtain rfl := mem_unique bound billing
    rw [holds_markProviderStarted_closed holds found (not_open_iff.mpr (.inr st))]
    exact .refl (.released session record billing holds found st)
  | settled own record row billing holds found st charge =>
    obtain rfl := mem_unique bound billing
    rw [holds_markProviderStarted_closed holds found (not_open_iff.mpr (.inl st))]
    exact .refl (.settled session record row billing holds found st charge)

theorem Funding.refund (bound : s.relay.billing = some session) :
    SessionMoved before info task s
      { relay := { s.relay with billing := some (session.refund s.db).1 }, db := (session.refund s.db).2 } := by
  have same := refund_account session s.db
  cases funding with
  | idle task missing idle charge free =>
    have nothing := idle
    simp only [BilledRelay.Idle, bound] at nothing
    rw [idle_refund nothing.2.1 nothing.2.2, ← bound]
    exact .refl (.idle task missing idle charge free)
  | held own record subscription billing holds found opened funds =>
    obtain rfl := mem_unique bound billing
    have unmoved : SessionMoved before info none s
        { relay := { s.relay with billing := some (session.refund s.db).1 }, db := s.db } :=
      ⟨.refl s.db, .held _ record subscription rfl (holds.congr same) found opened funds, fun _ => rfl⟩
    rcases @holds_refund _ _ s.db holds with unchanged | released
    · rw [unchanged]
      exact unmoved
    rw [released]
    rcases releaseReservation_moves s.db info.requestId false with unchanged | ⟨row, rowFound, _, moved, put⟩
    · rw [unchanged]
      exact unmoved
    refine ⟨moved, .released _ (row.moved .released s.db.now) rfl (holds.congr same) ?_ rfl,
      fun attached => by cases attached⟩
    dsimp only
    rw [put]
    exact find_put_changed rowFound rfl
  | released own record billing holds found st =>
    obtain rfl := mem_unique bound billing
    rw [holds_refund_closed holds found (not_open_iff.mpr (.inr st))]
    exact ⟨.refl s.db, .released _ record rfl (holds.congr same) found st, fun _ => rfl⟩
  | settled own record row billing holds found st charge =>
    obtain rfl := mem_unique bound billing
    rw [holds_refund_closed holds found (not_open_iff.mpr (.inl st))]
    exact ⟨.refl s.db, .settled _ record row rfl (holds.congr same) found st charge, fun _ => rfl⟩

end

theorem Funding.settle {row : TaskRow} (funding : Funding before info s (some row)) :
    SessionMoved before info (some row) s
      { relay := (settleBilling s.db s.relay row.quota).2.1, db := (settleBilling s.db s.relay row.quota).2.2 } := by
  cases funding with
  | idle task missing idle charge free =>
    rw [free row rfl]
    obtain ⟨still, kept⟩ := @idle_settle s.db s.relay idle
    rw [kept]
    exact ⟨.refl s.db, .idle _ missing still charge free, fun _ => rfl⟩
  | settled session record row billing holds found st charge =>
    have kept := holds_settle holds found (not_open_iff.mpr (.inl st)) row.quota
    unfold settleBilling
    rw [billing]
    dsimp only
    rw [kept]
    exact ⟨.refl s.db, .settled _ record row rfl (holds.congr (settle_account session s.db row.quota)) found st
      charge, fun _ => rfl⟩

end

inductive ReservationPassed (operation : WildFlowOperation) (task : TaskRow) (db db' : DB) : Prop where
  | free (small : task.quota ≤ 0) (unnamed : operation.requestId = "" ∨
      db.reservations.find operation.requestId = none) (same : db' = db)
  | settled (record : BillingReservationRecord) (found : db.reservations.find operation.requestId = some record)
      (state : record.state = .providerStarted)
      (ran : (settleBillingReservationTx operation.requestId (task.quota - record.amount)).run db = .ok ((), db'))

theorem settleAttachedReservationTx_passed {op : WildFlowOperation} {task : TaskRow} {db db' : DB}
    (ran : (settleAttachedReservationTx op task).run db = .ok (u, db')) : ReservationPassed op task db db' := by
  unfold settleAttachedReservationTx at ran
  split at ran
  · rename_i free
    obtain ⟨_, rfl⟩ := run_pure_ok.mp ran
    exact .free free.2 (.inl free.1) rfl
  · simp only [run_bind_ok, run_read_ok] at ran
    obtain ⟨_, _, ⟨rfl, rfl⟩, rest⟩ := ran
    cases found : db.reservations.find op.requestId with
    | none =>
      rw [found] at rest
      obtain ⟨nothing, rfl⟩ := run_ensure_ok.mp rest
      exact .free (by omega) (.inr found) rfl
    | some record =>
      rw [found] at rest
      simp only [run_bind_ok, run_ensure_ok] at rest
      obtain ⟨_, _, ⟨⟨_, _, _, st, _⟩, rfl⟩, settled⟩ := rest
      exact .settled record found st settled

section
variable {before db' funded : DB} {info : RelayInfo} {s : AttachSystem} {current : WildFlowOperation} {row : TaskRow}
  {log : Table WildFlowBillingLogEntry.primaryKey}

theorem Funding.insert (funding : Funding before info s none) (own : current.requestId = info.requestId)
    (inserted : Inserted s.db current row funded log db') :
    MoneyMoved (s.db.putOperation (current.accepted row.quota s.db.now)) funded ∧
    Funding before info { s with db := db' } (some { row with id := nextTaskId funded }) := by
  obtain rfl := inserted.result
  have later : SameBalances funded (addUserUse { insertTask funded { row with id := nextTaskId funded } with
      billingLog := log } row.userId row.quota 1) :=
    (SameBalances.frame _ _ _ _ _).trans (.addUserUse _ row.userId row.quota 1)
  have nonnegative := inserted.nonnegative
  have passed := settleAttachedReservationTx_passed inserted.settled
  cases funding with
  | idle task missing idle charge free =>
    cases passed with
    | free small unnamed same =>
      subst same
      refine ⟨.refl _, .idle _ missing idle (charge.congr (SameBalances.trans (.frame _ _ _ _ _) later)) ?_⟩
      rintro _ ⟨⟩
      change row.quota = 0
      omega
    | settled record found st ran =>
      rw [own] at found
      exact absurd (missing.symm.trans found) (by simp)
  | held session record subscription billing holds found opened funds =>
    cases passed with
    | free small unnamed same =>
      rw [own] at unnamed
      rcases unnamed with unnamed | missing
      · exact absurd unnamed holds.named
      · exact absurd (found.symm.trans missing) (by simp)
    | settled other otherFound st ran =>
      rw [own] at otherFound ran
      obtain rfl := mem_unique found otherFound
      obtain ⟨moved, put⟩ := settleBillingReservationTx_moves otherFound opened ran
      have charge := (funds.congr (.frame _ _ _ _ _)).settle otherFound opened nonnegative ran
      rw [← funds.chargedSubscription] at charge
      refine ⟨moved, .settled session (record.moved .settled s.db.now) _ billing holds ?_ rfl (charge.congr later)⟩
      change funded.reservations.find info.requestId = _
      rw [put]
      exact find_put_changed otherFound rfl
  | released session record billing holds found st =>
    cases passed with
    | free small unnamed same =>
      rw [own] at unnamed
      rcases unnamed with unnamed | missing
      · exact absurd unnamed holds.named
      · exact absurd (found.symm.trans missing) (by simp)
    | settled other otherFound begun ran =>
      rw [own] at otherFound
      obtain rfl := mem_unique found otherFound
      exact absurd (st.symm.trans begun) (by decide)

end

inductive Opened (db : DB) (info : RelayInfo) : AttachSystem → Prop where
  | free (nothing : info.finalPreConsumedQuota = 0) : Opened db info ⟨db, ⟨info, none⟩⟩
  | billed {clamped : Bool} {quota : Int} {session : BillingSession} {db' : DB}
      (created : preConsumeBilling db info clamped quota = (.ok session, db')) : Opened db info ⟨db', ⟨info, some session⟩⟩

section
variable {db db' : DB} {requestId : String} {userId tokenId amount : Int} {unlimited : Bool}

theorem validateBillingReservationArgs_named
    (valid : validateBillingReservationArgs requestId userId amount = .ok u) : requestId ≠ "" := by
  intro unnamed
  simp [validateBillingReservationArgs, unnamed] at valid

theorem reserveWalletBillingQuota_moves {reserved : Bool} (fresh : db.reservations.find requestId = none)
    (pos : 0 < amount)
    (out : reserveWalletBillingQuota db requestId userId tokenId amount unlimited = (.ok reserved, db')) :
    requestId ≠ "" ∧ MoneyMoved db db' := by
  unfold reserveWalletBillingQuota at out
  split at out
  · cases out
  rename_i valid
  rw [if_neg (by omega)] at out
  obtain ⟨_, _, _, rfl⟩ := (reserveWalletBillingQuotaTx_fresh fresh (by omega)).mp (commit_eq_ok.mp out)
  exact ⟨validateBillingReservationArgs_named valid,
    ((MoneyMoved.putReservation db _).trans (.debitUser _ _ _)).trans (.debitToken _ _ _)⟩

theorem reserveSubscriptionBillingQuota_moves {res : SubscriptionPreConsumeResult × Bool}
    (fresh : db.reservations.find requestId = none) (unused : db.preConsumeRecords.find requestId = none)
    (out : reserveSubscriptionBillingQuota db requestId userId tokenId amount unlimited = (.ok res, db')) :
    requestId ≠ "" ∧ MoneyMoved db db' := by
  obtain ⟨named, ran⟩ := reserveSubscriptionBillingQuota_ran out
  obtain ⟨_, _, t, _, sub, _, _, _, _, rfl⟩ := reserveSubscriptionBillingQuotaTx_fresh fresh unused ran
  exact ⟨named, .frame _ _ _ _⟩

end

variable {db : DB} {info : RelayInfo} {s : AttachSystem}

theorem Backed.holds (backed : Backed info session db record) : session.Holds info :=
  ⟨backed.request, backed.positive, backed.named⟩

theorem Opened.funding (opened : Opened db info s) (fresh : db.reservations.find info.requestId = none)
    (unused : db.preConsumeRecords.find info.requestId = none)
    (sound : ∀ id sub, db.userSubscriptions.find id = some sub → 0 ≤ sub.amountUsed) :
    MoneyMoved db s.db ∧ Funding db info s none := by
  cases opened with
  | free nothing =>
    exact ⟨.refl db, .idle none fresh nothing (.refl db info) fun row mem => by cases mem⟩
  | billed made =>
    rename_i clamped quota session db'
    unfold preConsumeBilling at made
    split at made
    · cases made
    split at made
    · cases made
    rename_i nonneg
    rcases newBillingSession_ok made with a | a
    · obtain ⟨_, ⟨nothing, rfl, rfl⟩ | ⟨pos, reserved, out, rfl⟩⟩ := tryWallet_ok a
      · refine ⟨.refl _, .idle none fresh ⟨?_, rfl, rfl⟩ (.refl _ info) fun row mem => by cases mem⟩
        change quota = 0
        omega
      · obtain ⟨named, moved⟩ := reserveWalletBillingQuota_moves fresh pos out
        obtain ⟨record, backed⟩ := walletBacked_of_reserve ⟨named, fresh, unused⟩ pos out
        exact ⟨moved, .held _ record none rfl backed.toBacked.holds backed.found backed.opened (.of_wallet backed)⟩
    · obtain ⟨amount, res, reserved, _, out, rfl⟩ := trySubscription_ok a
      obtain ⟨named, moved⟩ := reserveSubscriptionBillingQuota_moves fresh unused out
      obtain ⟨record, t, origin, sub, backed⟩ := subscriptionBacked_of_reserve ⟨named, fresh, unused⟩ sound out
      exact ⟨moved, .held _ record (some sub.id) rfl backed.toBacked.holds backed.found backed.opened
        (.of_subscription backed)⟩

end Wildflow.Billing
