import Wildflow.Billing.Session
import Wildflow.Proof.Billing.Reservation
import Wildflow.Store.Run

/-!
# What a billing session takes and gives back

A session with a reservation record keeps its account there: its refund returns everything and its settlement leaves
exactly the actual quota taken. Without one, the refund after a top-up looks for a record in vain.
-/

namespace Wildflow.Billing
open Wildflow.Store Tx Table

def SubscriptionCharged (before after : DB) (subscription : Option Int) (amount : Int) : Prop :=
  ∀ id, after.subscriptionUsed id = if subscription = some id then (before.subscriptionUsed id).map (· + amount)
    else before.subscriptionUsed id

structure ChargedBy (before after : DB) (info : RelayInfo) (subscription : Option Int) (amount : Int) : Prop where
  wallet : WalletCharged before after info.userId (if subscription = none then amount else 0)
  token : TokenCharged before after info.tokenId amount
  used : SubscriptionCharged before after subscription amount

theorem ChargedBy.refl (db : DB) (info : RelayInfo) (sub : Option Int) : ChargedBy db db info sub 0 where
  wallet user := by simp
  token token := by simp
  used id := by simp

def TokenReady (db : DB) (info : RelayInfo) : Prop :=
  (info.isPlayground = true → info.tokenId ≤ 0) ∧
    (info.isPlayground = false → 0 < info.tokenId ∧ db.LiveToken info.tokenId)

def DB.spendDirect (db : DB) (info : RelayInfo) (amount : Int) : DB :=
  if info.isPlayground then db.spendUser info.userId amount
  else (db.spendUser info.userId amount).spendToken info.tokenId amount

section
variable {before db : DB} {info : RelayInfo} {amount : Int}

theorem TokenReady.live (token : TokenReady db info) (pos : 0 < info.tokenId) : db.LiveToken info.tokenId := by
  cases playground : info.isPlayground with
  | true =>
    have none := token.1 playground
    omega
  | false => exact (token.2 playground).2

theorem ChargedBy.moveReservation (charged : ChargedBy before db info none amount)
    {moved : BillingReservationRecord} (user : moved.userId = info.userId)
    (token : moved.tokenId = info.tokenId) (liveUser : db.LiveUser info.userId)
    (liveToken : 0 < info.tokenId → db.LiveToken info.tokenId) (delta : Int) :
    ChargedBy before (db.moveReservation moved delta) info none (amount + delta) := by
  rw [DB.moveReservation, user, token]
  have stored : ChargedBy before (db.putReservation moved) info none amount :=
    ⟨charged.wallet, charged.token, charged.used⟩
  have paid : TokenCharged before ((db.putReservation moved).debitUser info.userId delta) info.tokenId
      amount := stored.token
  exact ⟨stored.wallet.debit liveUser delta, paid.debit liveToken delta,
    fun id => (stored.used id).trans (by simp)⟩

theorem spendUser_subscriptionUsed (db : DB) (user spent id : Int) :
    (db.spendUser user spent).subscriptionUsed id = db.subscriptionUsed id := by
  unfold DB.spendUser
  split <;> rfl

theorem spendToken_subscriptionUsed (db : DB) (token spent id : Int) :
    (db.spendToken token spent).subscriptionUsed id = db.subscriptionUsed id := by
  unfold DB.spendToken
  split <;> rfl

theorem TokenCharged.spendUser {tid : Int} (paid : TokenCharged before db tid amount)
    (user spent : Int) : TokenCharged before (db.spendUser user spent) tid amount := by
  unfold DB.spendUser
  split <;> exact paid

theorem WalletCharged.spendToken {uid : Int} (paid : WalletCharged before db uid amount)
    (token spent : Int) : WalletCharged before (db.spendToken token spent) uid amount := by
  unfold DB.spendToken
  split <;> exact paid

theorem TokenCharged.of_nonpositive {tid : Int} (paid : TokenCharged before db tid amount)
    (none : tid ≤ 0) (other : Int) : TokenCharged before db tid other := by
  intro token
  have held := paid token
  have never : ¬(token = tid ∧ 0 < tid) := by omega
  rw [if_neg never] at held
  rwa [if_neg never]

theorem ChargedBy.spendDirect (paid : ChargedBy before db info none amount)
    (liveUser : db.LiveUser info.userId) (token : TokenReady db info) (delta : Int) :
    ChargedBy before (db.spendDirect info delta) info none (amount + delta) := by
  have wallet := paid.wallet.spend liveUser delta
  have tokens := paid.token.spendUser info.userId delta
  have used : SubscriptionCharged before (db.spendUser info.userId delta) none (amount + delta) :=
    fun id => (spendUser_subscriptionUsed db _ _ id).trans (paid.used id)
  unfold DB.spendDirect
  cases playground : info.isPlayground with
  | true => exact ⟨wallet, tokens.of_nonpositive (token.1 playground) _, used⟩
  | false =>
    obtain ⟨named, live⟩ := token.2 playground
    have liveToken : (db.spendUser info.userId delta).LiveToken info.tokenId := by
      simpa [DB.LiveToken] using live
    exact ⟨wallet.spendToken _ _, tokens.spend named liveToken delta,
      fun id => (spendToken_subscriptionUsed _ _ _ id).trans (used id)⟩

theorem ChargedBy.countUse (paid : ChargedBy before db info none amount) (id use : Int) :
    ChargedBy before (updateUserUsedQuotaAndRequestCount db id use) info none amount := by
  unfold updateUserUsedQuotaAndRequestCount
  split
  · exact ⟨paid.wallet, paid.token, paid.used⟩
  refine ⟨fun user => ?_, paid.token, paid.used⟩
  have counted : (addUserUse db id use 1).userBalance user = db.userBalance user :=
    congrArg (· + db.batchUserQuota user) (userQuota_addUserUse db id use 1 user)
  rw [counted]
  exact paid.wallet user

theorem countUse_reservations (db : DB) (id use : Int) :
    (updateUserUsedQuotaAndRequestCount db id use).reservations = db.reservations := by
  unfold updateUserUsedQuotaAndRequestCount
  split <;> rfl

theorem countUse_liveUser (db : DB) (id use : Int) {user : Int} (live : db.LiveUser user) :
    (updateUserUsedQuotaAndRequestCount db id use).LiveUser user := by
  unfold updateUserUsedQuotaAndRequestCount
  split
  · exact live
  · exact addUserUse_liveUser user use 1 live

end

inductive SessionCall where
  | reserve (targetQuota : Int)
  | markProviderStarted

def applySessionCall (state : BillingSession × DB) : SessionCall → BillingSession × DB
  | .reserve targetQuota => (state.1.reserve state.2 targetQuota).2
  | .markProviderStarted => (state.1, (state.1.markProviderStarted state.2).2)

section
variable (before : DB) (info : RelayInfo) (state : BillingSession × DB)

/-- The subscription is the one that the session's reservation names, and it had a use before. -/
def FundedBy : Option Int → Prop
  | none => state.1.funding.source = .wallet
  | some id => state.1.funding.source = .subscription ∧ (before.subscriptionUsed id).isSome ∧
    ∃ record, state.2.reservations.find info.requestId = some record ∧ record.userSubscriptionId = id

/-- A refund returns everything, and a successful settlement leaves exactly the actual quota taken. -/
def Conserves : Prop :=
  ∃ subscription, FundedBy before info state subscription ∧
    ChargedBy before (state.1.refund state.2).2 info subscription 0 ∧
    ∀ actualQuota, 0 ≤ actualQuota → (state.1.settle state.2 actualQuota).1 = .ok () →
      ChargedBy before (state.1.settle state.2 actualQuota).2.2 info subscription actualQuota

end

structure SameRequest (info info' : RelayInfo) : Prop where
  requestId : info'.requestId = info.requestId
  userId : info'.userId = info.userId
  tokenId : info'.tokenId = info.tokenId
  tokenUnlimited : info'.tokenUnlimited = info.tokenUnlimited
  isPlayground : info'.isPlayground = info.isPlayground

structure Backed (info : RelayInfo) (s : BillingSession) (db : DB) (record : BillingReservationRecord) : Prop where
  request : SameRequest info s.relayInfo
  settled : s.settled = false
  refunded : s.refunded = false
  fundingSettled : s.fundingSettled = false
  alreadyReserved : s.alreadyReserved = false
  named : info.requestId ≠ ""
  found : db.reservations.find info.requestId = some record
  opened : record.Open
  amount : record.amount = s.preConsumedQuota
  positive : 0 < s.preConsumedQuota
  consumed : 0 < s.tokenConsumed
  token : record.tokenId = info.tokenId

section
variable {info : RelayInfo} {s : BillingSession} {db : DB} {record : BillingReservationRecord}

theorem syncRelayInfo_request (s : BillingSession) : SameRequest s.relayInfo s.syncRelayInfo.relayInfo := by
  unfold BillingSession.syncRelayInfo
  constructor <;> cases s.funding <;> rfl

theorem topUp_request (s : BillingSession) (delta : Int) : SameRequest s.relayInfo (s.topUp delta).relayInfo := by
  unfold BillingSession.topUp BillingSession.syncRelayInfo
  constructor <;> cases s.funding <;> rfl

theorem SameRequest.trans {a b c : RelayInfo} (first : SameRequest a b) (second : SameRequest b c) :
    SameRequest a c :=
  ⟨second.requestId.trans first.requestId, second.userId.trans first.userId,
    second.tokenId.trans first.tokenId, second.tokenUnlimited.trans first.tokenUnlimited,
    second.isPlayground.trans first.isPlayground⟩

theorem reserve_of_found {goal : Int} (busy : ¬(s.settled ∨ s.refunded))
    (named : s.relayInfo.requestId ≠ "") (found : db.reservations.find s.relayInfo.requestId = some record)
    (above : s.preConsumedQuota < goal) :
    (∃ db', (appendBillingReservationTx s.relayInfo.requestId (goal - s.preConsumedQuota)).run db = .ok ((), db') ∧
      s.reserve db goal = (.ok (), s.topUp (goal - s.preConsumedQuota), db')) ∨
    ∃ err, (appendBillingReservationTx s.relayInfo.requestId (goal - s.preConsumedQuota)).run db =
        .error err ∧ s.reserve db goal = (.error (.store err), s, db) := by
  have raised : ¬(s.settled ∨ s.refunded ∨ goal ≤ s.preConsumedQuota) := by
    rw [← or_assoc]
    exact not_or.mpr ⟨busy, not_le.mpr above⟩
  have pos : 0 < goal - s.preConsumedQuota := by omega
  have appended : appendBillingReservation db s.relayInfo.requestId (goal - s.preConsumedQuota) = _ :=
    appendBillingReservation_eq named pos
  unfold BillingSession.reserve
  rw [if_neg raised]
  rcases commit_cases (appendBillingReservationTx s.relayInfo.requestId (goal - s.preConsumedQuota)) db with
    ⟨_, db', ran, out⟩ | ⟨err, ran, out⟩
  · exact .inl ⟨db', ran, by simp only [appended, out]⟩
  · rw [out] at appended
    have present : err ≠ .billingReservationNotFound :=
      appendBillingReservation_fails named found (congrArg Prod.fst appended)
    exact .inr ⟨err, ran, by simp [appended, present]⟩

section
variable (backed : Backed info s db record)
include backed

theorem Backed.reserve (goal : Int) :
    (s.reserve db goal).2 = (s, db) ∨
    ∃ delta db', 0 < delta ∧ (appendBillingReservationTx info.requestId delta).run db = .ok ((), db') ∧
      (s.reserve db goal).2 = (s.topUp delta, db') := by
  by_cases above : s.preConsumedQuota < goal
  · have same := backed.request.requestId
    rcases reserve_of_found (by simp [backed.settled, backed.refunded]) (same ▸ backed.named)
        (same ▸ backed.found) above with ⟨db', ran, reserved⟩ | ⟨_, _, reserved⟩
    · exact .inr ⟨_, db', by omega, same ▸ ran, by rw [reserved]⟩
    · exact .inl (by rw [reserved])
  · exact .inl (by simp [BillingSession.reserve, not_lt.mp above])

theorem Backed.found_put {moved : BillingReservationRecord} (db' : DB) (key : moved.requestId = record.requestId) :
    (db'.putReservation moved).reservations.find info.requestId = some moved := by
  rw [← key.trans (key_of_find backed.found)]
  exact find_put_self _ moved

theorem Backed.markProviderStarted :
    record.state ≠ .reserved ∧ (s.markProviderStarted db).2 = db ∨
    (record.state = .reserved ∧
      (s.markProviderStarted db).2 = db.putReservation (record.moved .providerStarted db.now)) := by
  have marks : (s.markProviderStarted db).2 = (markBillingReservationProviderStarted db info.requestId).2 := by
    have busy : ¬(s.settled ∨ s.refunded ∨ ¬s.hasReservation) := by
      simp [backed.settled, backed.refunded, BillingSession.hasReservation, backed.positive]
    unfold BillingSession.markProviderStarted
    rw [if_neg busy, backed.alreadyReserved, backed.request.requestId]
    simp only [Bool.false_eq_true, if_false]
    rcases markBillingReservationProviderStarted db info.requestId with ⟨res, db'⟩
    cases res <;> rfl
  rw [marks]
  by_cases reserved : record.state = .reserved
  · rw [markBillingReservationProviderStarted_reserved backed.named backed.found reserved]
    exact .inr ⟨reserved, rfl⟩
  · refine .inl ⟨reserved, markBillingReservationProviderStarted_unchanged fun other found => ?_⟩
    rwa [← Option.mem_unique backed.found found]

theorem Backed.refund : (s.refund db).2 = ((releaseBillingReservationTx info.requestId false).commit db).2 := by
  have needed : s.needsRefund = true := by
    simp [BillingSession.needsRefund, backed.settled, backed.refunded, backed.fundingSettled, backed.consumed]
  have busy : ¬(s.settled ∨ s.refunded ∨ ¬s.needsRefund) := by
    simp [backed.settled, backed.refunded, needed]
  have recorded : (s.hasReservation || s.alreadyReserved) = true := by
    simp [BillingSession.hasReservation, backed.positive]
  unfold BillingSession.refund
  rw [if_neg busy]
  simp only [recorded, if_true, backed.request.requestId]
  exact congrArg Prod.snd (releaseReservation_eq backed.named)

theorem Backed.settle {actual : Int} (settled : (s.settle db actual).1 = .ok ()) :
    (settleBillingReservationTx info.requestId (actual - s.preConsumedQuota)).run db =
      .ok ((), (s.settle db actual).2.2) := by
  have recorded : s.hasReservation = true := by
    simp [BillingSession.hasReservation, backed.positive]
  have failing : ∀ delta err db', settleBillingReservation db info.requestId delta = (.error err, db') →
      err ≠ .billingReservationNotFound := fun delta err db' out =>
    settleBillingReservation_fails backed.named backed.found (congrArg Prod.fst out)
  have committed : ∀ delta db', settleBillingReservation db info.requestId delta = (.ok (), db') →
      (settleBillingReservationTx info.requestId delta).run db = .ok ((), db') := fun delta db' out =>
    commit_eq_ok.mp (settleBillingReservation_eq backed.named ▸ out)
  unfold BillingSession.settle at settled ⊢
  simp only [backed.settled, Bool.false_eq_true, if_false, recorded, if_true,
    backed.request.requestId] at settled ⊢
  grind

end

structure SameAccount (s s' : BillingSession) : Prop where
  request : SameRequest s.relayInfo s'.relayInfo
  funding : s'.funding = s.funding
  preConsumedQuota : s'.preConsumedQuota = s.preConsumedQuota
  tokenConsumed : s'.tokenConsumed = s.tokenConsumed

theorem SameAccount.marked (s : BillingSession) (fundingSettled settled refunded : Bool) :
    SameAccount s { s with fundingSettled, settled, refunded } :=
  ⟨⟨rfl, rfl, rfl, rfl, rfl⟩, rfl, rfl, rfl⟩

variable (s)

theorem SameAccount.posted (delta : Int) (fundingSettled settled : Bool) :
    SameAccount s { { s with fundingSettled }.addPostDelta delta with settled } := by
  unfold BillingSession.addPostDelta
  split <;> exact ⟨⟨rfl, rfl, rfl, rfl, rfl⟩, rfl, rfl, rfl⟩

theorem settleWithoutRecord_account (db : DB) (delta : Int) : SameAccount s (s.settleWithoutRecord db delta).2.1 := by
  unfold BillingSession.settleWithoutRecord
  rcases s.settleFunding db delta with ⟨funded, db₁⟩
  cases funded with
  | error err => exact .marked s _ _ _
  | ok u =>
    dsimp only
    rcases s.settleToken db₁ delta with ⟨paid, db₂⟩
    cases paid <;> exact .posted s delta true true

theorem settle_account (db : DB) (actual : Int) : SameAccount s (s.settle db actual).2.1 := by
  unfold BillingSession.settle
  dsimp only
  split
  · exact .marked s _ _ _
  split
  · split
    · rcases settleBillingReservation db s.relayInfo.requestId 0 with ⟨res, db₁⟩
      cases res with
      | ok u => exact .marked s _ true _
      | error err => dsimp only; split <;> exact .marked s _ true _
    · exact .marked s _ true _
  split
  · rcases settleBillingReservation db s.relayInfo.requestId (actual - s.preConsumedQuota) with ⟨res, db₁⟩
    cases res with
    | ok u => exact .posted s _ s.fundingSettled true
    | error err =>
      dsimp only
      split
      · exact settleWithoutRecord_account s _ _
      · exact .marked s _ _ _
  · exact settleWithoutRecord_account s _ _

variable {s}

theorem Backed.topUp (backed : Backed info s db record) {delta : Int} {db' : DB} (pos : 0 < delta)
    {now : Int} (found : db'.reservations.find info.requestId = some (record.appended delta now)) :
    Backed info (s.topUp delta) db' (record.appended delta now) := by
  have held := backed.positive
  have heldToken := backed.consumed
  exact { backed with
    request := backed.request.trans (topUp_request s delta)
    found := found
    amount := congrArg (· + delta) backed.amount
    positive := show 0 < s.preConsumedQuota + delta by omega
    consumed := show 0 < s.tokenConsumed + delta by omega }

theorem Backed.marked (backed : Backed info s db record) {db' : DB} {now : Int}
    (found : db'.reservations.find info.requestId = some (record.moved .providerStarted now)) :
    Backed info s db' (record.moved .providerStarted now) :=
  { backed with found := found, opened := .inr rfl, amount := backed.amount, token := backed.token }

end

structure WalletBacked (before : DB) (info : RelayInfo) (s : BillingSession) (db : DB)
    (record : BillingReservationRecord) : Prop extends Backed info s db record where
  funding : s.funding.source = .wallet
  wallet : record.source = .wallet
  user : record.userId = info.userId
  liveUser : db.LiveUser info.userId
  liveToken : 0 < info.tokenId → db.LiveToken info.tokenId
  charged : ChargedBy before db info none s.preConsumedQuota

section
variable {before db : DB} {info : RelayInfo} {s : BillingSession} {record : BillingReservationRecord}

variable (backed : WalletBacked before info s db record)
include backed

theorem WalletBacked.move (moved : BillingReservationRecord) (user : moved.userId = record.userId)
    (token : moved.tokenId = record.tokenId) (delta : Int) :
    ChargedBy before (db.moveReservation moved delta) info none (s.preConsumedQuota + delta) :=
  backed.charged.moveReservation (user.trans backed.user) (token.trans backed.token) backed.liveUser
    backed.liveToken delta

theorem WalletBacked.call (call : SessionCall) :
    ∃ record', WalletBacked before info (applySessionCall (s, db) call).1
      (applySessionCall (s, db) call).2 record' := by
  cases call with
  | reserve goal =>
    simp only [applySessionCall]
    rcases backed.toBacked.reserve goal with same | ⟨delta, db', pos, ran, reserved⟩
    · rw [same]
      exact ⟨record, backed⟩
    obtain ⟨_, _, _, rfl⟩ := (appendBillingReservationTx_wallet_ok backed.found backed.wallet (by omega)).mp ran
    rw [reserved]
    exact ⟨record.appended delta db.now, { backed with
      toBacked := backed.toBacked.topUp pos (backed.found_put db rfl)
      liveUser := by
        simp only [DB.moveReservation, debitToken_liveUser, debitUser_liveUser]
        exact backed.liveUser
      liveToken := by
        simp only [DB.moveReservation, debitToken_liveToken, debitUser_liveToken]
        exact backed.liveToken
      charged := backed.move (record.appended delta db.now) rfl rfl delta }⟩
  | markProviderStarted =>
    simp only [applySessionCall]
    rcases backed.toBacked.markProviderStarted with ⟨_, same⟩ | ⟨_, marked⟩
    · rw [same]
      exact ⟨record, backed⟩
    rw [marked]
    exact ⟨record.moved .providerStarted db.now, { backed with
      toBacked := backed.toBacked.marked (backed.found_put db rfl)
      charged := ⟨backed.charged.wallet, backed.charged.token, backed.charged.used⟩ }⟩

theorem WalletBacked.conserves : Conserves before info (s, db) := by
  refine ⟨none, backed.funding, ?_, ?_⟩
  · have freed := not_kept_of_open backed.opened
    have ran : (releaseBillingReservationTx info.requestId false).run db =
        .ok (true, db.moveReservation (record.moved .released db.now) (-record.amount)) :=
      (releaseBillingReservationTx_wallet_ok backed.found backed.wallet freed).mpr ⟨rfl, rfl⟩
    rw [backed.toBacked.refund, commit_eq_ok.mpr ran]
    have back := backed.move (record.moved .released db.now) rfl rfl (-record.amount)
    rw [backed.amount, Int.add_right_neg, ← backed.amount] at back
    exact back
  · intro actual _ settled
    have ran := backed.toBacked.settle settled
    obtain ⟨_, _, res⟩ := (settleBillingReservationTx_wallet_ok backed.found backed.wallet backed.opened).mp ran
    rw [← res]
    have paid := backed.move (record.moved .settled db.now) rfl rfl (actual - s.preConsumedQuota)
    rw [add_sub_cancel] at paid
    exact paid

end

/-- The charged row carries `held` on top of its use before; the other rows are as the pre-consume left them. -/
structure SubscriptionHeld (before db : DB) (table : Table UserSubscription.id) (sub : UserSubscription)
    (held : Int) : Prop where
  rows : ∀ id, db.userSubscriptions.find id =
    if id = sub.id then some (sub.withUsed (sub.amountUsed + held)) else table.find id
  plans : db.plans = before.plans
  zone : db.zone = before.zone
  now : db.now = before.now
  nonnegative : 0 ≤ sub.amountUsed
  covered : 0 < sub.amountTotal → sub.amountUsed + held ≤ sub.amountTotal

section
variable {before db : DB} {table : Table UserSubscription.id} {sub : UserSubscription} {held delta : Int}

variable (holds : SubscriptionHeld before db table sub held)
include holds

theorem SubscriptionHeld.row : db.userSubscriptions.find sub.id = some (sub.withUsed (sub.amountUsed + held)) := by
  rw [holds.rows, if_pos rfl]

theorem SubscriptionHeld.frame {db' : DB}
    (rows : db'.userSubscriptions = db.userSubscriptions) (plans : db'.plans = db.plans) (zone : db'.zone = db.zone)
    (now : db'.now = db.now) : SubscriptionHeld before db' table sub held :=
  ⟨rows ▸ holds.rows, plans.trans holds.plans, zone.trans holds.zone, now.trans holds.now, holds.nonnegative, holds.covered⟩

theorem SubscriptionHeld.shift
    (enough : 0 ≤ sub.amountUsed + held + delta) (fits : (sub.withUsed (sub.amountUsed + held)).Fits delta) :
    SubscriptionHeld before (db.putSubscription ((sub.withUsed (sub.amountUsed + held)).shifted delta))
      table sub (held + delta) := by
  have used : max (sub.amountUsed + held + delta) 0 = sub.amountUsed + (held + delta) := by omega
  refine ⟨?_, holds.plans, holds.zone, holds.now, holds.nonnegative, ?_⟩
  · intro id
    have stored : (sub.withUsed (sub.amountUsed + held)).shifted delta =
        sub.withUsed (sub.amountUsed + (held + delta)) := by
      simp [UserSubscription.shifted, used]
    simp only [DB.putSubscription, stored, find_put, withUsed_id, holds.rows]
    grind
  · grind [UserSubscription.Fits, withUsed_amountTotal, withUsed_amountUsed]

theorem SubscriptionHeld.fits (down : delta ≤ 0) : (sub.withUsed (sub.amountUsed + held)).Fits delta := by
  rintro ⟨limited, exceeded⟩
  have covered := holds.covered limited
  have nonneg := holds.nonnegative
  simp only [withUsed_amountTotal, withUsed_amountUsed] at limited exceeded
  omega

theorem SubscriptionHeld.charged {first : Int} {origin : UserSubscription}
    (charge : Charged before first table origin sub) : SubscriptionCharged before db (some sub.id) held := by
  intro id
  have view : db.subscriptionUsed id =
      ({ before with userSubscriptions := table.put (sub.withUsed (sub.amountUsed + held)) } :
        DB).subscriptionUsed id := by
    have rows : db.userSubscriptions.find id = (table.put (sub.withUsed (sub.amountUsed + held))).find id := by
      grind [holds.rows, withUsed_id]
    simp only [DB.subscriptionUsed, rows, holds.plans, holds.zone, holds.now]
  rw [view, subscriptionUsed_charged charge]
  by_cases own : id = sub.id
  · subst own
    simp [subscriptionUsed_origin charge]
  · have other : ¬some sub.id = some id := fun same => own (Option.some.inj same).symm
    rw [if_neg own, if_neg other]

end

/-- `sub` carries the first reservation of the session, with its pre-consume record, and the appended rest. -/
structure SubscriptionBacked (before : DB) (info : RelayInfo) (s : BillingSession) (db : DB)
    (record : BillingReservationRecord) (table : Table UserSubscription.id)
    (origin sub : UserSubscription) (first : Int) : Prop extends Backed info s db record where
  funding : s.funding.source = .subscription
  source : record.source = .subscription
  charge : Charged before first table origin sub
  holds : SubscriptionHeld before db table sub s.preConsumedQuota
  firstPositive : 0 < first
  topUp : 0 ≤ record.topUpAmount
  total : s.preConsumedQuota = first + record.topUpAmount
  subscription : record.userSubscriptionId = sub.id
  preConsume : ∃ preRecord, db.preConsumeRecords.find info.requestId = some preRecord ∧
    preRecord.status = .consumed ∧ preRecord.preConsumed = first ∧ preRecord.userSubscriptionId = sub.id
  wallet : WalletCharged before db info.userId 0
  tokens : TokenCharged before db info.tokenId s.preConsumedQuota
  liveToken : 0 < info.tokenId → db.LiveToken info.tokenId

variable {before db : DB} {info : RelayInfo} {s : BillingSession} {record : BillingReservationRecord}
  {table : Table UserSubscription.id} {origin sub : UserSubscription} {first : Int}

variable (backed : SubscriptionBacked before info s db record table origin sub first)
include backed

theorem SubscriptionBacked.call (call : SessionCall) :
    ∃ record', SubscriptionBacked before info (applySessionCall (s, db) call).1
      (applySessionCall (s, db) call).2 record' table origin sub first := by
  cases call with
  | reserve goal =>
    simp only [applySessionCall]
    rcases backed.toBacked.reserve goal with same | ⟨delta, db', pos, ran, reserved⟩
    · rw [same]
      exact ⟨record, backed⟩
    obtain ⟨_, db₁, funded, db₂, paid, rfl⟩ := (appendBillingReservationTx_ok backed.found).mp ran
    simp only [appendSource, backed.source, backed.subscription] at funded
    obtain ⟨row, found, fits, rfl⟩ := postConsumeUserSubscriptionDeltaTx_ok.mp funded
    obtain rfl := Option.mem_unique backed.holds.row found
    obtain ⟨room, rfl⟩ := (reserveTokenQuotaTx_ok (by omega)).mp paid
    rw [reserved, backed.token]
    have held := backed.positive
    have nonneg := backed.holds.nonnegative
    have topUp := backed.topUp
    have total := backed.total
    have tokens : TokenCharged before (db.putSubscription
        ((sub.withUsed (sub.amountUsed + s.preConsumedQuota)).shifted delta)) info.tokenId
        s.preConsumedQuota := backed.tokens
    exact ⟨_, { backed with
      toBacked := backed.toBacked.topUp pos (backed.found_put _ rfl)
      holds := (backed.holds.shift (by omega) fits).frame rfl rfl rfl rfl
      topUp := show 0 ≤ record.topUpAmount + delta by omega
      total := show s.preConsumedQuota + delta = first + (record.topUpAmount + delta) by omega
      tokens := tokens.debit backed.liveToken delta
      liveToken := fun pos => (debitToken_liveToken db _ _ _).mpr (backed.liveToken pos) }⟩
  | markProviderStarted =>
    simp only [applySessionCall]
    rcases backed.toBacked.markProviderStarted with ⟨_, same⟩ | ⟨_, marked⟩
    · rw [same]
      exact ⟨record, backed⟩
    rw [marked]
    exact ⟨record.moved .providerStarted db.now, { backed with
      toBacked := backed.toBacked.marked (backed.found_put db rfl)
      holds := backed.holds.frame rfl rfl rfl rfl }⟩

theorem SubscriptionBacked.close {after : DB} {amount : Int} (holds : SubscriptionHeld before after table sub amount)
    (users : ∀ user, after.userBalance user = db.userBalance user)
    (tokens : TokenCharged before after info.tokenId amount) : ChargedBy before after info (some sub.id) amount where
  wallet user := by
    rw [users]
    simpa using backed.wallet user
  token := tokens
  used := holds.charged backed.charge

theorem SubscriptionBacked.refund : ChargedBy before (s.refund db).2 info (some sub.id) 0 := by
  obtain ⟨preRecord, recorded, used, amount, target⟩ := backed.preConsume
  have own : info.requestId = record.requestId := (key_of_find backed.found).symm
  have freed := not_kept_of_open backed.opened
  have firstPositive := backed.firstPositive
  have topUp := backed.topUp
  have total := backed.total
  have nonneg := backed.holds.nonnegative
  -- The record is closed, the pre-consume record gives back the first reservation.
  let closed := db.putReservation (record.moved .released db.now)
  have holds : SubscriptionHeld before closed table sub s.preConsumedQuota := backed.holds.frame rfl rfl rfl rfl
  let firstBack := (closed.putSubscription
    ((sub.withUsed (sub.amountUsed + s.preConsumedQuota)).shifted (-first))).putPreConsume
      (preRecord.refundedAt closed.now)
  have ranFirst : (refundSubscriptionPreConsumeTx record.requestId).run closed = .ok ((), firstBack) := by
    have kept : closed.preConsumeRecords.find info.requestId = some preRecord := recorded
    rw [← own]
    apply (refundSubscriptionPreConsumeTx_consumed kept used (by omega)).mpr
    rw [amount, target]
    exact ⟨_, holds.row, holds.fits (by omega), rfl⟩
  have heldRest : SubscriptionHeld before firstBack table sub (s.preConsumedQuota + -first) := by
    have shifted := holds.shift (by omega) (holds.fits (by omega : -first ≤ 0))
    exact shifted.frame rfl rfl rfl rfl
  -- The appended part follows.
  have ranRest : ∃ rows records,
      let allBack := { closed with userSubscriptions := rows, preConsumeRecords := records }
      (releaseSource record).run closed = .ok ((), allBack) ∧ SubscriptionHeld before allBack table sub 0 := by
    simp only [releaseSource, backed.source]
    rw [run_bind_of_ok ranFirst]
    by_cases appended : 0 < record.topUpAmount
    · rw [if_pos appended]
      have fits : (sub.withUsed (sub.amountUsed + (s.preConsumedQuota + -first))).Fits
          (-record.topUpAmount) := heldRest.fits (by omega)
      have shifted := heldRest.shift (by omega) fits
      have nothing : s.preConsumedQuota + -first + -record.topUpAmount = 0 := by omega
      rw [nothing] at shifted
      refine ⟨_, _, postConsumeUserSubscriptionDeltaTx_ok.mpr ⟨_, ?_, fits, rfl⟩, shifted⟩
      rw [backed.subscription]
      exact heldRest.row
    · rw [if_neg appended]
      have nothing : s.preConsumedQuota + -first = 0 := by omega
      rw [nothing] at heldRest
      exact ⟨_, _, rfl, heldRest⟩
  obtain ⟨rows, records, ran, back⟩ := ranRest
  have paid : TokenCharged before { closed with userSubscriptions := rows, preConsumeRecords := records } info.tokenId
      s.preConsumedQuota := backed.tokens
  have spent := paid.debit backed.liveToken (-s.preConsumedQuota)
  rw [Int.add_right_neg] at spent
  rw [backed.toBacked.refund,
    commit_eq_ok.mpr ((releaseBillingReservationTx_open backed.found freed).mpr ⟨rfl, _, ran, rfl⟩), backed.token,
    backed.amount]
  exact backed.close (back.frame rfl rfl rfl rfl) (fun _ => rfl) spent

theorem SubscriptionBacked.settle {actualQuota : Int}
    (nonneg : 0 ≤ actualQuota) (settled : (s.settle db actualQuota).1 = .ok ()) :
    ChargedBy before (s.settle db actualQuota).2.2 info (some sub.id) actualQuota := by
  have ran := (settleBillingReservationTx_open backed.found backed.opened).mp (backed.toBacked.settle settled)
  have base := backed.holds.nonnegative
  have holds : SubscriptionHeld before (db.putReservation (record.moved .settled db.now)) table sub
      s.preConsumedQuota := backed.holds.frame rfl rfl rfl rfl
  by_cases even : actualQuota - s.preConsumedQuota = 0
  · rw [if_pos even] at ran
    rw [← ran]
    obtain rfl : actualQuota = s.preConsumedQuota := by omega
    exact backed.close holds (fun _ => rfl) backed.tokens
  · rw [if_neg even] at ran
    obtain ⟨db₁, funded, paid⟩ := ran
    simp only [settleSource, backed.source, backed.subscription] at funded
    obtain ⟨row, found, fits, rfl⟩ := postConsumeUserSubscriptionDeltaTx_ok.mp funded
    obtain rfl := Option.mem_unique holds.row found
    obtain ⟨_, res⟩ := adjustTokenQuotaDeltaTx_ok.mp paid
    have shifted := holds.shift (by omega) fits
    have shiftedTokens : TokenCharged before ((db.putReservation (record.moved .settled db.now)).putSubscription
          ((sub.withUsed (sub.amountUsed + s.preConsumedQuota)).shifted
            (actualQuota - s.preConsumedQuota))) info.tokenId s.preConsumedQuota := backed.tokens
    have tokens := shiftedTokens.debit backed.liveToken (actualQuota - s.preConsumedQuota)
    rw [add_sub_cancel] at shifted tokens
    rw [← res, backed.token]
    exact backed.close (shifted.frame rfl rfl rfl rfl) (fun _ => rfl) tokens

theorem SubscriptionBacked.conserves : Conserves before info (s, db) := by
  refine ⟨some sub.id, ⟨backed.funding, ?_, record, backed.found, backed.subscription⟩, backed.refund, fun _ => backed.settle⟩
  rw [subscriptionUsed_origin backed.charge]
  rfl

end Wildflow.Billing
