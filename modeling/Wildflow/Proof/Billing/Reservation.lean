import Wildflow.Billing.Reservation
import Wildflow.Proof.Billing.Subscription

/-!
# What each reservation transaction does

One lemma per transaction: when it runs through, and to which database it leads.
-/

namespace Wildflow.Billing
open Wildflow.Store Tx Table
variable {record : BillingReservationRecord} {reserved reservedOnly unlimitedToken released : Bool} {db db' : DB}
  {amount delta tokenId userId : Int} {requestId : String} {res : SubscriptionPreConsumeResult}
  {failure : BillingError}

def DB.putReservation (db : DB) (record : BillingReservationRecord) : DB :=
  { db with reservations := db.reservations.put record }

@[simp] theorem putReservation_reservations (db : DB) (record : BillingReservationRecord) :
    (db.putReservation record).reservations = db.reservations.put record := rfl

def DB.moveReservation (db : DB) (record : BillingReservationRecord) (amount : Int) : DB :=
  ((db.putReservation record).debitUser record.userId amount).debitToken record.tokenId amount

def BillingReservationRecord.Open (record : BillingReservationRecord) : Prop :=
  record.state = .reserved ∨ record.state = .providerStarted

instance (record : BillingReservationRecord) : Decidable record.Open := by
  unfold BillingReservationRecord.Open
  infer_instance

theorem not_open_iff : ¬record.Open ↔ record.state = .settled ∨ record.state = .released := by
  unfold BillingReservationRecord.Open
  cases record.state <;> simp

theorem findReservationTx_ok :
    (findReservationTx requestId).run db = .ok (record, db') ↔
      db.reservations.find requestId = some record ∧ db = db' := by
  simp only [findReservationTx, run_bind_ok, run_read_ok, run_orFail_ok]
  grind

theorem found_of_bind {α : Type} {next : BillingReservationRecord → BillingTx α} {out : α × DB}
    (ran : (findReservationTx requestId >>= next).run db = .ok out) :
    ∃ record, db.reservations.find requestId = some record := by
  obtain ⟨record, _, looked, _⟩ := run_bind_ok.mp ran
  exact ⟨record, (findReservationTx_ok.mp looked).1⟩

theorem saveReservation_run (db : DB) (record : BillingReservationRecord) :
    (saveReservation record).run db = .ok ((), db.putReservation { record with updatedAt := db.now }) := by
  simp [saveReservation, DB.putReservation]

theorem transitionReservation_run (target : ReservationState) (found : db.reservations.find requestId = some record) :
    (transitionReservation requestId record.state target).run db =
      .ok (1, db.putReservation { record with state := target, updatedAt := db.now }) := by
  have new : db.reservations.updateWhere requestId (fun other => other.state = record.state)
      (fun other => { other with state := target, updatedAt := db.now }) =
      (db.reservations.put { record with state := target, updatedAt := db.now }, 1) :=
    updateWhere_hit found (by simp)
  simp [transitionReservation, new, DB.putReservation]

theorem transitionReservation_miss {src target : ReservationState}
    (missed : ∀ record, db.reservations.find requestId = some record → record.state ≠ src) :
    (transitionReservation requestId src target).run db = .ok (0, db) := by
  have new : db.reservations.updateWhere requestId (fun other => other.state = src)
      (fun other => { other with state := target, updatedAt := db.now }) = (db.reservations, 0) :=
    updateWhere_miss fun record found => by simpa using missed record found
  simp [transitionReservation, new]

def newReservation (requestId : String) (userId tokenId : Int) (unlimitedToken : Bool)
    (source : ReservationSource) (amount now : Int) : BillingReservationRecord :=
  { requestId, userId, tokenId, unlimitedToken, source, userSubscriptionId := 0, amount,
    topUpAmount := 0, state := .reserved, updatedAt := now }

theorem Charged.putReservation {t : Table UserSubscription.id} {origin sub : UserSubscription}
    (charge : Charged (db.putReservation record) amount t origin sub) : Charged db amount t origin sub :=
  ⟨charge.refreshed, charge.found, charge.reset, charge.room⟩

def DB.chargeSubscription (db : DB) (requestId : String) (userId amount : Int)
    (table : Table UserSubscription.id) (sub : UserSubscription) : DB :=
  { db with
    userSubscriptions := table.put (sub.withUsed (sub.amountUsed + amount))
    preConsumeRecords := db.preConsumeRecords.put (newPreConsume requestId userId amount sub db.now) }

section
variable (found : db.reservations.find requestId = some record)
include found

theorem claimBillingReservationTx_known
    (userId tokenId : Int) (unlimitedToken : Bool) (src : ReservationSource) (amount : Int) :
    (claimBillingReservationTx requestId userId tokenId unlimitedToken src amount).run db = .ok (false, db) := by
  simp [claimBillingReservationTx, found]

theorem reserveWalletBillingQuotaTx_known (userId tokenId amount : Int) (unlimitedToken : Bool) :
    (reserveWalletBillingQuotaTx requestId userId tokenId amount unlimitedToken).run db = .ok (false, db) := by
  rw [reserveWalletBillingQuotaTx, run_bind_of_ok (claimBillingReservationTx_known found ..)]
  rfl

theorem reserveSubscriptionBillingQuotaTx_known (tokenId : Int) (unlimitedToken : Bool)
    {outcome : SubscriptionPreConsumeResult × Bool} :
    (reserveSubscriptionBillingQuotaTx requestId userId tokenId amount unlimitedToken).run db = .ok (outcome, db') ↔
      ∃ result, (preConsumeUserSubscriptionTx requestId userId amount).run db = .ok (result, db') ∧
        (result, false) = outcome := by
  rw [reserveSubscriptionBillingQuotaTx, run_bind_of_ok (claimBillingReservationTx_known found ..)]
  simp only [Bool.not_false, if_true, run_bind_ok, run_pure_ok]
  grind

end

section
variable (fresh : db.reservations.find requestId = none)
include fresh

theorem claimBillingReservationTx_fresh
    (userId tokenId : Int) (unlimitedToken : Bool) (src : ReservationSource) (amount : Int) :
    (claimBillingReservationTx requestId userId tokenId unlimitedToken src amount).run db =
      .ok (true, db.putReservation
        (newReservation requestId userId tokenId unlimitedToken src amount db.now)) := by
  simp [claimBillingReservationTx, fresh, saveReservation_run, newReservation]

theorem reserveWalletBillingQuotaTx_fresh (ne : amount ≠ 0) :
    (reserveWalletBillingQuotaTx requestId userId tokenId amount unlimitedToken).run db = .ok (reserved, db') ↔
      reserved = true ∧ db.UserHolds userId amount ∧ db.TokenHolds tokenId amount unlimitedToken ∧
      db.moveReservation (newReservation requestId userId tokenId unlimitedToken .wallet amount db.now)
        amount = db' := by
  rw [reserveWalletBillingQuotaTx, run_bind_of_ok (claimBillingReservationTx_fresh fresh ..)]
  simp only [Bool.not_true, Bool.false_eq_true, if_false, run_bind_ok, reserveUserQuotaTx_ok,
    reserveTokenQuotaTx_ok ne, run_pure_ok]
  constructor
  · rintro ⟨_, _, ⟨enough, rfl⟩, _, _, ⟨room, rfl⟩, rfl, rfl⟩
    exact ⟨rfl, enough, room, rfl⟩
  · rintro ⟨rfl, enough, room, rfl⟩
    exact ⟨(), _, ⟨enough, rfl⟩, (), _, ⟨room, rfl⟩, rfl, rfl⟩

theorem reserveSubscriptionBillingQuotaTx_claimed
    (ran : (reserveSubscriptionBillingQuotaTx requestId userId tokenId amount unlimitedToken).run db =
      .ok ((res, reserved), db')) :
    reserved = true ∧ ∃ db₁, (preConsumeUserSubscriptionTx requestId userId amount).run (db.putReservation
        (newReservation requestId userId tokenId unlimitedToken .subscription amount db.now)) = .ok (res, db₁) ∧
      db₁.TokenHolds tokenId amount unlimitedToken ∧
      db' = (db₁.debitToken tokenId amount).putReservation
        { newReservation requestId userId tokenId unlimitedToken .subscription amount db.now with
          userSubscriptionId := res.userSubscriptionId } := by
  rw [reserveSubscriptionBillingQuotaTx, run_bind_of_ok (claimBillingReservationTx_fresh fresh ..),
    run_bind_ok] at ran
  obtain ⟨preConsumed, _, used, ran⟩ := ran
  obtain ⟨_, pos⟩ := preConsumeUserSubscriptionTx_valid used
  obtain ⟨subs, records, rfl⟩ := preConsumeUserSubscriptionTx_frame used
  simp only [Bool.not_true, Bool.false_eq_true, if_false, run_bind_ok,
    reserveTokenQuotaTx_ok (by omega : amount ≠ 0), findReservationTx_ok, saveReservation_run,
    run_pure_ok, Prod.mk.injEq] at ran
  obtain ⟨_, _, ⟨room, rfl⟩, record, _, ⟨found, rfl⟩, _, _, saved, ⟨rfl, rfl⟩, rfl⟩ := ran
  have stored : record = newReservation requestId userId tokenId unlimitedToken .subscription amount db.now :=
    Option.mem_unique found (find_put_self _ (newReservation ..))
  subst stored
  cases saved
  exact ⟨rfl, _, used, room, rfl⟩

theorem reserveSubscriptionBillingQuotaTx_fresh (unused : db.preConsumeRecords.find requestId = none)
    (ran : (reserveSubscriptionBillingQuotaTx requestId userId tokenId amount unlimitedToken).run db =
      .ok ((res, reserved), db')) :
    reserved = true ∧ 0 < amount ∧ ∃ t origin sub,
      origin ∈ activeUserSubscriptions db userId ∧ Charged db amount t origin sub ∧
      res.userSubscriptionId = sub.id ∧ db.TokenHolds tokenId amount unlimitedToken ∧
      db' = ((((db.putReservation (newReservation requestId userId tokenId unlimitedToken .subscription
        amount db.now)).chargeSubscription requestId userId amount t sub).debitToken tokenId amount).putReservation
            { newReservation requestId userId tokenId unlimitedToken .subscription amount db.now with
              userSubscriptionId := sub.id }) := by
  obtain ⟨claimed, db₁, used, room, rfl⟩ := reserveSubscriptionBillingQuotaTx_claimed fresh ran
  have unusedStill : (db.putReservation (newReservation requestId userId tokenId unlimitedToken
      .subscription amount db.now)).preConsumeRecords.find requestId = none := unused
  obtain ⟨pos, t, origin, sub, active, charge, target, rfl⟩ := preConsumeUserSubscriptionTx_fresh unusedStill used
  rw [target]
  exact ⟨claimed, pos, t, origin, sub, active, charge.putReservation, rfl, room, rfl⟩

end

section
variable {db db' : DB} {requestId : String} {record : BillingReservationRecord} {delta : Int} {u : Unit}

def BillingReservationRecord.appended (record : BillingReservationRecord) (delta now : Int) :
    BillingReservationRecord :=
  { record with amount := record.amount + delta, topUpAmount := record.topUpAmount + delta, updatedAt := now }

def BillingReservationRecord.moved (record : BillingReservationRecord) (target : ReservationState)
    (now : Int) : BillingReservationRecord :=
  { record with state := target, updatedAt := now }

section
variable (found : db.reservations.find requestId = some record)
include found

theorem appendBillingReservationTx_ok :
    (appendBillingReservationTx requestId delta).run db = .ok (u, db') ↔
      record.state = .reserved ∧ ∃ db₁, (appendSource record delta).run db = .ok ((), db₁) ∧
        ∃ db₂, (reserveTokenQuotaTx record.tokenId delta record.unlimitedToken).run db₁ =
          .ok ((), db₂) ∧ db₂.putReservation (record.appended delta db₂.now) = db' := by
  simp only [appendBillingReservationTx, run_bind_ok, findReservationTx_ok, run_ensure_ok, saveReservation_run]
  constructor
  · rintro ⟨_, _, ⟨same, rfl⟩, _, _, ⟨reserved, rfl⟩, _, db₁, funded, _, db₂, paid, saved⟩
    obtain rfl := Option.mem_unique found same
    cases saved
    exact ⟨reserved, db₁, funded, db₂, paid, rfl⟩
  · rintro ⟨reserved, db₁, funded, db₂, paid, rfl⟩
    exact ⟨record, db, ⟨found, rfl⟩, (), db, ⟨reserved, rfl⟩, (), db₁, funded, (), db₂, paid, rfl⟩

omit found in
theorem settleSource_of_append (pos : 0 < delta) (ran : (appendSource record delta).run db = .ok (u, db')) :
    (settleSource record delta).run db = .ok (u, db') := by
  unfold appendSource at ran
  unfold settleSource
  split at ran
  · obtain ⟨enough, rfl⟩ := reserveUserQuotaTx_ok.mp ran
    exact (adjustUserQuotaDeltaTx_ok pos.ne').mpr ⟨fun _ => enough, rfl⟩
  · exact ran

theorem appendBillingReservationTx_wallet_ok (wallet : record.source = .wallet) (ne : delta ≠ 0) :
    (appendBillingReservationTx requestId delta).run db = .ok (u, db') ↔
      record.state = .reserved ∧ db.UserHolds record.userId delta ∧
      db.TokenHolds record.tokenId delta record.unlimitedToken ∧
      db.moveReservation (record.appended delta db.now) delta = db' := by
  rw [appendBillingReservationTx_ok found]
  simp only [appendSource, wallet, reserveUserQuotaTx_ok, reserveTokenQuotaTx_ok ne]
  constructor
  · rintro ⟨reserved, _, ⟨enough, rfl⟩, _, ⟨room, rfl⟩, rfl⟩
    exact ⟨reserved, enough, room, rfl⟩
  · rintro ⟨reserved, enough, room, rfl⟩
    exact ⟨reserved, _, ⟨enough, rfl⟩, _, ⟨room, rfl⟩, rfl⟩

theorem settleBillingReservationTx_closed
    (closed : ¬record.Open) : (settleBillingReservationTx requestId delta).run db = .ok ((), db) := by
  rw [settleBillingReservationTx, run_bind_of_ok (findReservationTx_ok.mpr ⟨found, rfl⟩),
    if_pos (not_open_iff.mp closed)]
  rfl

theorem settleBillingReservationTx_open (opened : record.Open) :
    (settleBillingReservationTx requestId delta).run db = .ok (u, db') ↔
      if delta = 0 then db.putReservation (record.moved .settled db.now) = db'
      else ∃ db₁, (settleSource record delta).run (db.putReservation (record.moved .settled db.now)) = .ok ((), db₁) ∧
          (adjustTokenQuotaDeltaTx record.tokenId delta record.unlimitedToken).run db₁ = .ok ((), db') := by
  have notClosed : ¬(record.state = .settled ∨ record.state = .released) :=
    fun closed => not_open_iff.mpr closed opened
  rw [settleBillingReservationTx, run_bind_of_ok (findReservationTx_ok.mpr ⟨found, rfl⟩),
    if_neg notClosed, run_bind_of_ok (transitionReservation_run .settled found)]
  by_cases zero : delta = 0
  · simp [zero, BillingReservationRecord.moved]
  · simp only [zero, Nat.one_ne_zero, if_false, ne_eq, not_false_eq_true, if_true, run_bind_ok,
      BillingReservationRecord.moved]
    grind

theorem settleBillingReservationTx_wallet_ok (wallet : record.source = .wallet) (opened : record.Open) :
    (settleBillingReservationTx requestId delta).run db = .ok (u, db') ↔
      (0 < delta → db.UserHolds record.userId delta) ∧
      (0 < delta → db.TokenHolds record.tokenId delta record.unlimitedToken) ∧
      db.moveReservation (record.moved .settled db.now) delta = db' := by
  rw [settleBillingReservationTx_open found opened]
  by_cases zero : delta = 0
  · subst zero
    simp [DB.moveReservation, debitUser_zero, debitToken_skip]
  simp only [zero, if_false, settleSource, wallet, adjustUserQuotaDeltaTx_ok zero, adjustTokenQuotaDeltaTx_ok]
  constructor
  · rintro ⟨_, ⟨enough, rfl⟩, room, rfl⟩
    exact ⟨enough, room, rfl⟩
  · rintro ⟨enough, room, rfl⟩
    exact ⟨_, ⟨enough, rfl⟩, room, rfl⟩

def BillingReservationRecord.Kept (record : BillingReservationRecord) (reservedOnly : Bool) : Prop :=
  record.state ≠ .reserved ∧ (reservedOnly = true ∨ record.state ≠ .providerStarted)

theorem releaseBillingReservationTx_kept (kept : record.Kept reservedOnly) :
    (releaseBillingReservationTx requestId reservedOnly).run db = .ok (false, db) := by
  unfold BillingReservationRecord.Kept at kept
  rw [releaseBillingReservationTx, run_bind_of_ok (findReservationTx_ok.mpr ⟨found, rfl⟩), if_pos kept]
  rfl

theorem releaseBillingReservationTx_open (freed : ¬record.Kept reservedOnly) :
    (releaseBillingReservationTx requestId reservedOnly).run db = .ok (released, db') ↔
      released = true ∧ ∃ db₁, (releaseSource record).run
          (db.putReservation (record.moved .released db.now)) = .ok ((), db₁) ∧
        db₁.debitToken record.tokenId (-record.amount) = db' := by
  unfold BillingReservationRecord.Kept at freed
  rw [releaseBillingReservationTx, run_bind_of_ok (findReservationTx_ok.mpr ⟨found, rfl⟩),
    if_neg freed, run_bind_of_ok (transitionReservation_run .released found)]
  simp only [Nat.one_ne_zero, if_false, run_bind_ok, refundTokenQuotaTx_ok, run_pure_ok,
    BillingReservationRecord.moved]
  grind

end

theorem not_kept_of_open (opened : record.Open) : ¬record.Kept false := by
  rintro ⟨notReserved, never | notStarted⟩
  · cases never
  · rcases opened with reserved | begun
    · exact notReserved reserved
    · exact notStarted begun

theorem open_of_not_kept (freed : ¬record.Kept reservedOnly) : record.Open := by
  grind [BillingReservationRecord.Kept, BillingReservationRecord.Open]

theorem releaseBillingReservationTx_wallet_ok
    (found : db.reservations.find requestId = some record) (wallet : record.source = .wallet)
    (freed : ¬record.Kept reservedOnly) :
    (releaseBillingReservationTx requestId reservedOnly).run db = .ok (released, db') ↔
      released = true ∧ db.moveReservation (record.moved .released db.now) (-record.amount) = db' := by
  rw [releaseBillingReservationTx_open found freed]
  simp only [releaseSource, wallet, refundUser_ok]
  constructor
  · rintro ⟨rfl, _, rfl, rfl⟩
    exact ⟨rfl, rfl⟩
  · rintro ⟨rfl, rfl⟩
    exact ⟨rfl, _, rfl, rfl⟩

theorem markBillingReservationProviderStarted_reserved (named : requestId ≠ "")
    (found : db.reservations.find requestId = some record) (reserved : record.state = .reserved) :
    markBillingReservationProviderStarted db requestId =
      (.ok (), db.putReservation (record.moved .providerStarted db.now)) := by
  rw [markBillingReservationProviderStarted, if_neg named, commit_eq_ok]
  have moved := transitionReservation_run .providerStarted found
  rw [reserved] at moved
  rw [run_bind_of_ok moved]
  rfl

theorem markBillingReservationProviderStarted_unchanged
    (other : ∀ record, db.reservations.find requestId = some record → record.state ≠ .reserved) :
    (markBillingReservationProviderStarted db requestId).2 = db := by
  unfold markBillingReservationProviderStarted
  split
  · rfl
  refine commit_elim (commit _ db) rfl (fun _ => rfl) fun _ _ ran => ?_
  rw [run_bind_of_ok (transitionReservation_miss other)] at ran
  simp only [Nat.lt_irrefl, if_false, run_bind_ok, findReservationTx_ok, run_ensure_ok] at ran
  obtain ⟨_, _, ⟨_, rfl⟩, _, rfl⟩ := ran
  rfl

theorem validateBillingReservationArgs_ok :
    validateBillingReservationArgs requestId userId amount = .ok u ↔ requestId ≠ "" ∧ 0 < userId ∧ 0 ≤ amount := by
  grind [validateBillingReservationArgs]

section
variable (db : DB) (requestId : String)

theorem reserveWalletBillingQuota_cases (userId tokenId amount : Int) (unlimitedToken : Bool) :
    (reserveWalletBillingQuota db requestId userId tokenId amount unlimitedToken).2 = db ∨
    (db.reservations.find requestId = none ∧ requestId ≠ "" ∧ 0 < userId ∧ 0 < amount ∧
      db.UserHolds userId amount ∧ db.TokenHolds tokenId amount unlimitedToken ∧
      reserveWalletBillingQuota db requestId userId tokenId amount unlimitedToken = (.ok true, db.moveReservation
          (newReservation requestId userId tokenId unlimitedToken .wallet amount db.now) amount)) := by
  unfold reserveWalletBillingQuota
  cases valid : validateBillingReservationArgs requestId userId amount with
  | error failure => exact .inl rfl
  | ok u =>
    obtain ⟨named, validUser, nonneg⟩ := validateBillingReservationArgs_ok.mp valid
    by_cases zero : amount = 0
    · exact .inl (by simp [zero])
    simp only [zero, if_false]
    refine commit_elim (commit _ db) rfl (fun _ => .inl rfl) fun _ _ ran => ?_
    cases found : db.reservations.find requestId with
    | some record => grind [reserveWalletBillingQuotaTx_known]
    | none =>
      obtain ⟨rfl, enough, room, rfl⟩ := (reserveWalletBillingQuotaTx_fresh found zero).mp ran
      exact .inr ⟨rfl, named, validUser, by omega, enough, room, rfl⟩

theorem reserveSubscriptionBillingQuota_cases (userId tokenId amount : Int) (unlimitedToken : Bool) :
    (∃ failure, reserveSubscriptionBillingQuota db requestId userId tokenId amount unlimitedToken =
      (.error failure, db)) ∨
    ∃ res reserved db', requestId ≠ "" ∧ 0 < amount ∧
      (reserveSubscriptionBillingQuotaTx requestId userId tokenId amount unlimitedToken).run db =
        .ok ((res, reserved), db') ∧
      reserveSubscriptionBillingQuota db requestId userId tokenId amount unlimitedToken =
        (.ok (res, reserved), db') := by
  unfold reserveSubscriptionBillingQuota
  cases valid : validateBillingReservationArgs requestId userId amount with
  | error failure => exact .inl ⟨failure, rfl⟩
  | ok u =>
    by_cases idle : amount ≤ 0
    · exact .inl ⟨_, if_pos idle⟩
    · simp only [idle, if_false]
      refine commit_elim (commit _ db) rfl (fun failure => .inl ⟨failure, rfl⟩) fun ⟨res, reserved⟩ db' ran => ?_
      exact .inr ⟨res, reserved, db', (validateBillingReservationArgs_ok.mp valid).1, by omega, ran, rfl⟩

theorem appendBillingReservation_cases (delta : Int) :
    (appendBillingReservation db requestId delta).2 = db ∨
    ∃ record db', db.reservations.find requestId = some record ∧ 0 < delta ∧
      (appendBillingReservationTx requestId delta).run db = .ok ((), db') ∧
      appendBillingReservation db requestId delta = (.ok (), db') := by
  unfold appendBillingReservation
  by_cases idle : delta ≤ 0
  · exact .inl (by simp [idle])
  by_cases named : requestId = ""
  · exact .inl (by simp [idle, named])
  simp only [idle, named, if_false]
  refine commit_elim (commit _ db) rfl (fun _ => .inl rfl) fun _ db' ran => ?_
  obtain ⟨record, found⟩ := found_of_bind ran
  exact .inr ⟨record, db', found, by omega, ran, rfl⟩

theorem settleBillingReservation_cases (delta : Int) :
    (settleBillingReservation db requestId delta).2 = db ∨
    ∃ record db', db.reservations.find requestId = some record ∧ record.Open ∧
      (settleBillingReservationTx requestId delta).run db = .ok ((), db') ∧
      settleBillingReservation db requestId delta = (.ok (), db') := by
  unfold settleBillingReservation
  by_cases named : requestId = ""
  · exact .inl (by simp [named])
  simp only [named, if_false]
  refine commit_elim (commit _ db) rfl (fun _ => .inl rfl) fun _ db' ran => ?_
  obtain ⟨record, found⟩ := found_of_bind ran
  by_cases opened : record.Open
  · exact .inr ⟨record, db', found, opened, ran, rfl⟩
  · rw [settleBillingReservationTx_closed found opened] at ran
    cases ran
    exact .inl rfl

theorem releaseReservation_cases (reservedOnly : Bool) :
    (releaseReservation db requestId reservedOnly).2 = db ∨
    ∃ record db', db.reservations.find requestId = some record ∧ ¬record.Kept reservedOnly ∧
      (releaseBillingReservationTx requestId reservedOnly).run db = .ok (true, db') ∧
      releaseReservation db requestId reservedOnly = (.ok true, db') := by
  unfold releaseReservation
  by_cases named : requestId = ""
  · exact .inl (by simp [named])
  simp only [named, if_false]
  refine commit_elim (commit _ db) rfl (fun _ => .inl rfl) fun _ db' ran => ?_
  obtain ⟨record, found⟩ := found_of_bind ran
  by_cases kept : record.Kept reservedOnly
  · grind [releaseBillingReservationTx_kept]
  · obtain ⟨rfl, _⟩ := (releaseBillingReservationTx_open found kept).mp ran
    exact .inr ⟨record, db', found, kept, ran, rfl⟩

theorem markBillingReservationProviderStarted_cases :
    (markBillingReservationProviderStarted db requestId).2 = db ∨
    ∃ record, db.reservations.find requestId = some record ∧ record.state = .reserved ∧
      markBillingReservationProviderStarted db requestId =
        (.ok (), db.putReservation (record.moved .providerStarted db.now)) := by
  grind [markBillingReservationProviderStarted, markBillingReservationProviderStarted_reserved,
    markBillingReservationProviderStarted_unchanged]

end

theorem reserveSubscriptionBillingQuota_ran
    (out : reserveSubscriptionBillingQuota db requestId userId tokenId amount unlimitedToken =
      (.ok (res, reserved), db')) :
    requestId ≠ "" ∧ (reserveSubscriptionBillingQuotaTx requestId userId tokenId amount unlimitedToken).run db =
      .ok ((res, reserved), db') := by
  rcases reserveSubscriptionBillingQuota_cases db requestId userId tokenId amount unlimitedToken with
    ⟨_, failed⟩ | ⟨_, _, _, named, _, ran, told⟩
  · rw [failed] at out
    cases out
  · rw [told] at out
    cases out
    exact ⟨named, ran⟩

end

section
variable {db : DB} {record : BillingReservationRecord} {amount : Int}

theorem userQuota_moveReservation (live : db.LiveUser record.userId) (user : Int) :
    (db.moveReservation record amount).userQuota user =
      db.userQuota user - if user = record.userId then amount else 0 := by
  unfold DB.moveReservation
  exact userQuota_debitUser amount live user

theorem tokenRemain_moveReservation (live : 0 < record.tokenId → db.LiveToken record.tokenId) (token : Int) :
    (db.moveReservation record amount).tokenRemain token =
      db.tokenRemain token - if token = record.tokenId ∧ 0 < record.tokenId then amount else 0 := by
  unfold DB.moveReservation
  exact tokenRemain_debitToken amount live token

theorem tokenUsed_moveReservation (live : 0 < record.tokenId → db.LiveToken record.tokenId) (token : Int) :
    (db.moveReservation record amount).tokenUsed token =
      db.tokenUsed token + if token = record.tokenId ∧ 0 < record.tokenId then amount else 0 := by
  unfold DB.moveReservation
  exact tokenUsed_debitToken amount live token

end

theorem appendBillingReservation_eq (named : requestId ≠ "") (pos : 0 < delta) :
    appendBillingReservation db requestId delta = (appendBillingReservationTx requestId delta).commit db := by
  rw [appendBillingReservation, if_neg (by omega), if_neg named]

theorem settleBillingReservation_eq (named : requestId ≠ "") :
    settleBillingReservation db requestId delta = (settleBillingReservationTx requestId delta).commit db := by
  rw [settleBillingReservation, if_neg named]

theorem releaseReservation_eq (named : requestId ≠ "") :
    releaseReservation db requestId reservedOnly =
      (releaseBillingReservationTx requestId reservedOnly).commit db := by
  rw [releaseReservation, if_neg named]

def NotMissing (failure : BillingError) : Prop := failure ≠ .billingReservationNotFound

section
variable (id : Int)

theorem updateUser_fails (cond : User → Bool) (change : User → User) :
    (updateUser id cond change).FailsWith NotMissing :=
  .bind .read fun _ => .bind (.write _) fun _ => .pure _

theorem updateToken_fails (cond : Token → Bool) (change : Token → Token) :
    (updateToken id cond change).FailsWith NotMissing :=
  .bind .read fun _ => .bind (.write _) fun _ => .pure _

theorem reserveUserQuotaTx_fails (amount : Int) : (reserveUserQuotaTx id amount).FailsWith NotMissing :=
  .bind (updateUser_fails _ _ _) fun _ => .ensure (by simp [NotMissing])

theorem reserveTokenQuotaTx_fails (amount : Int) (unlimited : Bool) :
    (reserveTokenQuotaTx id amount unlimited).FailsWith NotMissing := by
  unfold reserveTokenQuotaTx
  split
  · exact .pure ()
  · exact .bind (updateToken_fails _ _ _) fun _ => .ensure (by simp [NotMissing])

theorem adjustUserQuotaDeltaTx_fails (delta : Int) : (adjustUserQuotaDeltaTx id delta).FailsWith NotMissing := by
  unfold adjustUserQuotaDeltaTx
  split
  · exact .pure ()
  · split
    · exact .bind (updateUser_fails _ _ _) fun _ => .ensure (by simp [NotMissing])
    · exact .bind (updateUser_fails _ _ _) fun _ => .pure _

theorem adjustTokenQuotaDeltaTx_fails (delta : Int) (unlimited : Bool) :
    (adjustTokenQuotaDeltaTx id delta unlimited).FailsWith NotMissing := by
  unfold adjustTokenQuotaDeltaTx
  split
  · exact .pure ()
  · split
    · exact .bind (updateToken_fails _ _ _) fun _ => .ensure (by simp [NotMissing])
    · exact .bind (updateToken_fails _ _ _) fun _ => .pure _

theorem postConsumeUserSubscriptionDeltaTx_fails (delta : Int) :
    (postConsumeUserSubscriptionDeltaTx id delta).FailsWith NotMissing :=
  .bind .read fun _ => .bind (.orFail _ (by simp [NotMissing])) fun _ =>
    .bind (.ensure (by simp [NotMissing])) fun _ => .bind .read fun _ => .write _

end

theorem appendBillingReservation_fails (named : requestId ≠ "") (found : db.reservations.find requestId = some record)
    (failed : (appendBillingReservation db requestId delta).1 = .error failure) : NotMissing failure := by
  unfold appendBillingReservation at failed
  split at failed
  · cases failed
  rcases commit_cases (appendBillingReservationTx requestId delta) db with ⟨_, _, _, out⟩ | ⟨_, stopped, out⟩
  · rw [out] at failed
    cases failed
  · rw [out] at failed
    cases failed
    rw [appendBillingReservationTx, run_bind_of_ok (findReservationTx_ok.mpr ⟨found, rfl⟩)] at stopped
    refine Tx.FailsWith.bind (.ensure (by simp [NotMissing])) (fun _ => ?_) db _ stopped
    refine .bind ?_ fun _ => .bind (reserveTokenQuotaTx_fails _ _ _) fun _ => .bind .read fun _ => .write _
    unfold appendSource
    split
    · exact reserveUserQuotaTx_fails _ _
    · exact postConsumeUserSubscriptionDeltaTx_fails _ _

theorem settleBillingReservation_fails (named : requestId ≠ "") (found : db.reservations.find requestId = some record)
    (failed : (settleBillingReservation db requestId delta).1 = .error failure) : NotMissing failure := by
  unfold settleBillingReservation at failed
  rw [if_neg named] at failed
  rcases commit_cases (settleBillingReservationTx requestId delta) db with ⟨_, _, _, out⟩ | ⟨_, stopped, out⟩
  · rw [out] at failed
    cases failed
  · rw [out] at failed
    cases failed
    rw [settleBillingReservationTx, run_bind_of_ok (findReservationTx_ok.mpr ⟨found, rfl⟩)] at stopped
    split at stopped
    · cases stopped
    refine Tx.FailsWith.bind (.bind .read fun _ => .bind (.write _) fun _ => .pure _) (fun _ => ?_) db _ stopped
    split
    · exact .pure ()
    split
    · refine .bind ?_ fun _ => adjustTokenQuotaDeltaTx_fails _ _ _
      unfold settleSource
      split
      · exact adjustUserQuotaDeltaTx_fails _ _
      · exact postConsumeUserSubscriptionDeltaTx_fails _ _
    · exact .pure ()

theorem reserveSubscriptionBillingQuota_positive
    (outcome : reserveSubscriptionBillingQuota db requestId userId tokenId amount unlimitedToken =
      (.ok (result, reserved), db')) : 0 < result.userSubscriptionId := by
  obtain ⟨_, ran⟩ := reserveSubscriptionBillingQuota_ran outcome
  cases found : db.reservations.find requestId with
  | some record =>
    obtain ⟨_, used, same⟩ := (reserveSubscriptionBillingQuotaTx_known found tokenId unlimitedToken).mp ran
    cases same
    exact preConsumeUserSubscriptionTx_positive used
  | none =>
    obtain ⟨_, _, used, _⟩ := reserveSubscriptionBillingQuotaTx_claimed found ran
    exact preConsumeUserSubscriptionTx_positive used

variable {db : DB} {requestId : String} (missing : db.reservations.find requestId = none)
include missing

theorem findReservationTx_missing : (findReservationTx requestId).run db = .error .billingReservationNotFound := by
  unfold findReservationTx
  rw [run_bind_of_ok (run_read db), missing]
  rfl

theorem appendBillingReservation_missing (pos : 0 < delta) :
    appendBillingReservation db requestId delta = (.error .billingReservationNotFound, db) := by
  unfold appendBillingReservation
  rw [if_neg (by omega)]
  split
  · rfl
  · exact commit_of_error (run_bind_of_error (findReservationTx_missing missing))

theorem releaseReservation_missing (reservedOnly : Bool) :
    releaseReservation db requestId reservedOnly = (.error .billingReservationNotFound, db) := by
  unfold releaseReservation
  split
  · rfl
  · exact commit_of_error (run_bind_of_error (findReservationTx_missing missing))

end Wildflow.Billing
