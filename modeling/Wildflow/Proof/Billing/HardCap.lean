import Wildflow.Store.Run
import Wildflow.Proof.Billing.Reservation

/-!
# Hard caps

Every debit upwards is conditional on the row that pays it, and what is given back was taken before.
-/

namespace Wildflow.Billing
open Wildflow.Store Table
variable {unlimitedToken : Bool} {tokenId : Int}

inductive QuotaCall where
  | reserveWallet (requestId : String) (userId tokenId amount : Int) (unlimitedToken : Bool)
  | reserveSubscription (requestId : String) (userId tokenId amount : Int) (unlimitedToken : Bool)
  | append (requestId : String) (delta : Int)
  | markProviderStarted (requestId : String)
  | settle (requestId : String) (delta : Int)
  | release (requestId : String)
  | releaseUnsent (requestId : String)
  | reserveUser (userId amount : Int)
  | reserveToken (tokenId amount : Int) (unlimitedToken : Bool)

def reported {α : Type} (outcome : Except BillingError α × DB) : Option BillingError × DB :=
  match outcome with
  | (.error failure, db) => (some failure, db)
  | (.ok _, db) => (none, db)

def QuotaCall.run (db : DB) : QuotaCall → Option BillingError × DB
  | .reserveWallet requestId userId tokenId amount unlimitedToken =>
    reported (reserveWalletBillingQuota db requestId userId tokenId amount unlimitedToken)
  | .reserveSubscription requestId userId tokenId amount unlimitedToken =>
    reported (reserveSubscriptionBillingQuota db requestId userId tokenId amount unlimitedToken)
  | .append requestId delta => reported (appendBillingReservation db requestId delta)
  | .markProviderStarted requestId => reported (markBillingReservationProviderStarted db requestId)
  | .settle requestId delta => reported (settleBillingReservation db requestId delta)
  | .release requestId => reported (releaseBillingReservation db requestId)
  | .releaseUnsent requestId => reported (releaseUnsentBillingReservation db requestId)
  | .reserveUser userId amount => reported (reserveUserQuota db userId amount)
  | .reserveToken tokenId amount unlimitedToken => reported (reserveTokenQuota db tokenId amount unlimitedToken)

def applyQuotaCall (db : DB) (call : QuotaCall) : DB := (call.run db).2

structure NoOverdraft (db : DB) : Prop where
  users : ∀ id user, db.users.find id = some user → 0 ≤ user.quota
  tokens : ∀ id token, db.tokens.find id = some token → token.unlimitedQuota = false → 0 ≤ token.remainQuota

def DB.OwnFlag (db : DB) (tokenId : Int) (unlimitedToken : Bool) : Prop :=
  unlimitedToken = true → ∀ token, db.tokens.find tokenId = some token → token.unlimitedQuota = true

def SoundRecords (db : DB) : Prop :=
  ∀ requestId record, db.reservations.find requestId = some record →
    0 ≤ record.amount ∧ db.OwnFlag record.tokenId record.unlimitedToken

def QuotaCall.OwnFlag (db : DB) : QuotaCall → Prop
  | .reserveWallet _ _ tokenId _ unlimitedToken => db.OwnFlag tokenId unlimitedToken
  | .reserveSubscription _ _ tokenId _ unlimitedToken => db.OwnFlag tokenId unlimitedToken
  | .reserveToken tokenId _ unlimitedToken => db.OwnFlag tokenId unlimitedToken
  | _ => True

structure Capped (db : DB) : Prop where
  balances : NoOverdraft db
  records : SoundRecords db

section
variable {α : Type} {db : DB} {outcome : Except BillingError α × DB}

theorem reported_state : (reported outcome).2 = outcome.2 := by
  unfold reported
  split <;> rfl

theorem reported_failed {err : BillingError} (whole : Tx.AllOrNothing db outcome)
    (failed : (reported outcome).1 = some err) : (reported outcome).2 = db := by
  unfold reported at failed ⊢
  split at failed
  · exact whole _ rfl
  · cases failed

end

theorem applyQuotaCall_failed {db : DB} {call : QuotaCall} {err : BillingError}
    (failed : (call.run db).1 = some err) : applyQuotaCall db call = db := by
  unfold applyQuotaCall
  cases call with
  | reserveWallet requestId uid tokenId amount unlimitedToken =>
    refine reported_failed ?_ failed
    unfold reserveWalletBillingQuota
    split
    · exact .same db _
    · exact .ite (.same db _) (.commit _ db)
  | reserveSubscription requestId uid tokenId amount unlimitedToken =>
    refine reported_failed ?_ failed
    unfold reserveSubscriptionBillingQuota
    split
    · exact .same db _
    · exact .ite (.same db _) (.commit _ db)
  | append requestId delta => exact reported_failed (.ite (.same db _) (.ite (.same db _) (.commit _ db))) failed
  | markProviderStarted requestId => exact reported_failed (.ite (.same db _) (.commit _ db)) failed
  | settle requestId delta => exact reported_failed (.ite (.same db _) (.commit _ db)) failed
  | release requestId => exact reported_failed (.ite (.same db _) (.commit _ db)) failed
  | releaseUnsent requestId => exact reported_failed (.ite (.same db _) (.commit _ db)) failed
  | reserveUser uid amount => exact reported_failed (.ite (.same db _) (.commit _ db)) failed
  | reserveToken tokenId amount unlimitedToken => exact reported_failed (.ite (.same db _) (.commit _ db)) failed

section
variable {db : DB} {id amount tokenId : Int} {unlimited flag : Bool}

theorem ownFlag_debitToken : (db.debitToken id amount).OwnFlag tokenId flag ↔ db.OwnFlag tokenId flag := by
  unfold DB.OwnFlag
  rw [find_debitToken]
  cases db.tokens.find tokenId with
  | none => simp
  | some token =>
    have same : (if tokenId = id ∧ 0 < id ∧ amount ≠ 0 ∧ token.deleted = false then token.debit amount
        else token).unlimitedQuota = token.unlimitedQuota := by split <;> rfl
    simp [same]

theorem Capped.debitUser (capped : Capped db) (holds : 0 < amount → db.UserHolds id amount) :
    Capped (db.debitUser id amount) := by
  refine ⟨⟨?_, capped.balances.tokens⟩, capped.records⟩
  intro v changed found
  rw [find_debitUser, Option.map_eq_some_iff] at found
  obtain ⟨user, before, rfl⟩ := found
  have nonneg := capped.balances.users v user before
  split
  · rename_i hit
    obtain ⟨rfl, _⟩ := hit
    by_cases upwards : 0 < amount
    · obtain ⟨same, place, _, enough⟩ := holds upwards
      obtain rfl := Option.mem_unique before place
      show 0 ≤ user.quota - amount
      omega
    · show 0 ≤ user.quota - amount
      omega
  · exact nonneg

theorem Capped.debitToken (capped : Capped db) (own : db.OwnFlag id unlimited)
    (holds : 0 < amount → db.TokenHolds id amount unlimited) : Capped (db.debitToken id amount) := by
  refine ⟨⟨capped.balances.users, ?_⟩, ?_⟩
  · intro v changed found limited
    rw [find_debitToken, Option.map_eq_some_iff] at found
    obtain ⟨token, before, rfl⟩ := found
    split at limited
    · rename_i hit
      rw [if_pos hit]
      obtain ⟨rfl, pos, _⟩ := hit
      have limitedBefore : token.unlimitedQuota = false := limited
      have nonneg := capped.balances.tokens v token before limitedBefore
      show 0 ≤ token.remainQuota - amount
      by_cases upwards : 0 < amount
      · obtain ⟨same, place, _, enough⟩ := holds upwards pos
        obtain rfl := Option.mem_unique before place
        rcases enough with lifted | enough
        · rw [own lifted token before] at limitedBefore
          cases limitedBefore
        · omega
      · omega
    · rename_i missed
      rw [if_neg missed]
      exact capped.balances.tokens v token before limited
  · intro requestId record found
    obtain ⟨nonneg, kept⟩ := capped.records requestId record found
    exact ⟨nonneg, ownFlag_debitToken.mpr kept⟩

theorem Capped.putReservation (capped : Capped db) (record : BillingReservationRecord)
    (nonneg : 0 ≤ record.amount) (own : db.OwnFlag record.tokenId record.unlimitedToken) :
    Capped (db.putReservation record) := by
  refine ⟨⟨capped.balances.users, capped.balances.tokens⟩, ?_⟩
  intro requestId stored found
  rw [putReservation_reservations, find_put] at found
  split at found
  · cases found
    exact ⟨nonneg, own⟩
  · exact capped.records requestId stored found

theorem Capped.frame (capped : Capped db) (subs : Table UserSubscription.id)
    (preConsumes : Table SubscriptionPreConsumeRecord.requestId) :
    Capped { db with userSubscriptions := subs, preConsumeRecords := preConsumes } :=
  ⟨⟨capped.balances.users, capped.balances.tokens⟩, capped.records⟩

end

section
variable {db db' : DB} {record : BillingReservationRecord} {delta : Int} {u : Unit}

theorem Capped.settleSource (capped : Capped db) (ne : delta ≠ 0)
    (ran : (settleSource record delta).run db = .ok (u, db')) : Capped db' ∧ db'.tokens = db.tokens := by
  unfold Billing.settleSource at ran
  split at ran
  · obtain ⟨enough, rfl⟩ := (adjustUserQuotaDeltaTx_ok ne).mp ran
    exact ⟨capped.debitUser enough, rfl⟩
  · obtain ⟨sub, _, _, rfl⟩ := postConsumeUserSubscriptionDeltaTx_ok.mp ran
    exact ⟨capped.frame _ _, rfl⟩

theorem Capped.releaseSource (capped : Capped db) (nonneg : 0 ≤ record.amount)
    (ran : (releaseSource record).run db = .ok (u, db')) : Capped db' ∧ db'.tokens = db.tokens := by
  unfold Billing.releaseSource at ran
  split at ran
  · obtain rfl := refundUser_ok.mp ran
    exact ⟨capped.debitUser fun upwards => by omega, rfl⟩
  rw [Tx.run_bind_ok] at ran
  obtain ⟨_, db₁, back, rest⟩ := ran
  obtain ⟨_, _, rfl⟩ := refundSubscriptionPreConsumeTx_frame back
  split at rest
  · obtain ⟨sub, _, _, rfl⟩ := postConsumeUserSubscriptionDeltaTx_ok.mp rest
    exact ⟨capped.frame _ _, rfl⟩
  · obtain ⟨_, rfl⟩ := Tx.run_pure_ok.mp rest
    exact ⟨capped.frame _ _, rfl⟩

end

section
variable {db : DB}

theorem OwnFlag.of_tokens {db' : DB} {flag : Bool} (own : db.OwnFlag tokenId flag)
    (tokens : db'.tokens = db.tokens) : db'.OwnFlag tokenId flag := by
  unfold DB.OwnFlag
  rw [tokens]
  exact own

variable (capped : Capped db)
include capped

section
variable (requestId : String)
include requestId

theorem Capped.reserveWallet (uid : Int) (amount : Int) (own : db.OwnFlag tokenId unlimitedToken) :
    Capped (reserveWalletBillingQuota db requestId uid tokenId amount unlimitedToken).2 := by
  rcases reserveWalletBillingQuota_cases db requestId uid tokenId amount unlimitedToken with
    same | ⟨_, _, _, pos, enough, room, outcome⟩
  · rw [same]
    exact capped
  · rw [outcome]
    have claimed := capped.putReservation
      (newReservation requestId uid tokenId unlimitedToken .wallet amount db.now) (by
        show 0 ≤ amount
        omega) own
    have paid : Capped (DB.debitUser _ uid amount) := claimed.debitUser fun _ => enough
    exact paid.debitToken own fun _ => room

theorem Capped.reserveSubscription (uid : Int) (amount : Int) (own : db.OwnFlag tokenId unlimitedToken) :
    Capped (reserveSubscriptionBillingQuota db requestId uid tokenId amount unlimitedToken).2 := by
  rcases reserveSubscriptionBillingQuota_cases db requestId uid tokenId amount unlimitedToken with
    ⟨_, failed⟩ | ⟨res, reserved, db', _, pos, ran, outcome⟩
  · rw [failed]
    exact capped
  rw [outcome]
  cases found : db.reservations.find requestId with
  | some record =>
    obtain ⟨_, used, _⟩ := (reserveSubscriptionBillingQuotaTx_known found tokenId unlimitedToken).mp ran
    obtain ⟨_, _, rfl⟩ := preConsumeUserSubscriptionTx_frame used
    exact capped.frame _ _
  | none =>
    obtain ⟨_, db₁, used, room, rfl⟩ := reserveSubscriptionBillingQuotaTx_claimed found ran
    obtain ⟨_, _, rfl⟩ := preConsumeUserSubscriptionTx_frame used
    have nonneg : 0 ≤ amount := by omega
    have claimed := capped.putReservation
      (newReservation requestId uid tokenId unlimitedToken .subscription amount db.now) nonneg own
    have paid := (claimed.frame _ _).debitToken own fun _ => room
    exact paid.putReservation _ nonneg (ownFlag_debitToken.mpr own)

theorem Capped.append (delta : Int) : Capped (appendBillingReservation db requestId delta).2 := by
  rcases appendBillingReservation_cases db requestId delta with same | ⟨record, db', found, pos, ran, outcome⟩
  · rw [same]
    exact capped
  · rw [outcome]
    obtain ⟨nonneg, own⟩ := capped.records requestId record found
    obtain ⟨_, db₁, funded, db₂, charged, rfl⟩ := (appendBillingReservationTx_ok found).mp ran
    obtain ⟨paid, tokens⟩ := capped.settleSource (by omega) (settleSource_of_append pos funded)
    obtain ⟨room, rfl⟩ := (reserveTokenQuotaTx_ok (by omega : delta ≠ 0)).mp charged
    have ownStill := OwnFlag.of_tokens own tokens
    have more : 0 ≤ (record.appended delta db₁.now).amount := by
      show 0 ≤ record.amount + delta
      omega
    exact (paid.debitToken ownStill fun _ => room).putReservation _ more (ownFlag_debitToken.mpr ownStill)

theorem Capped.markProviderStarted : Capped (markBillingReservationProviderStarted db requestId).2 := by
  rcases markBillingReservationProviderStarted_cases db requestId with same | ⟨record, found, _, outcome⟩
  · rw [same]
    exact capped
  · rw [outcome]
    obtain ⟨nonneg, own⟩ := capped.records requestId record found
    exact capped.putReservation _ nonneg own

theorem Capped.settle (delta : Int) : Capped (settleBillingReservation db requestId delta).2 := by
  rcases settleBillingReservation_cases db requestId delta with same | ⟨record, db', found, opened, ran, outcome⟩
  · rw [same]
    exact capped
  · rw [outcome]
    obtain ⟨nonneg, own⟩ := capped.records requestId record found
    have closed := capped.putReservation (record.moved .settled db.now) nonneg own
    rw [settleBillingReservationTx_open found opened] at ran
    split at ran
    · subst ran
      exact closed
    rename_i ne
    obtain ⟨db₁, funded, charged⟩ := ran
    obtain ⟨paid, tokens⟩ := closed.settleSource ne funded
    obtain ⟨room, rfl⟩ := adjustTokenQuotaDeltaTx_ok.mp charged
    exact paid.debitToken (OwnFlag.of_tokens own tokens) room

theorem Capped.release (reservedOnly : Bool) : Capped (releaseReservation db requestId reservedOnly).2 := by
  rcases releaseReservation_cases db requestId reservedOnly with same | ⟨record, db', found, freed, ran, outcome⟩
  · rw [same]
    exact capped
  · rw [outcome]
    obtain ⟨nonneg, own⟩ := capped.records requestId record found
    have closed := capped.putReservation (record.moved .released db.now) nonneg own
    obtain ⟨_, db₁, funded, rfl⟩ := (releaseBillingReservationTx_open found freed).mp ran
    obtain ⟨paid, tokens⟩ := closed.releaseSource nonneg funded
    exact paid.debitToken (OwnFlag.of_tokens own tokens) fun upwards => by omega

end

theorem Capped.reserveUser (uid amount : Int) : Capped (reserveUserQuota db uid amount).2 := by
  unfold reserveUserQuota
  split
  · exact capped
  · refine Tx.commit_elim (Tx.commit _ db) rfl (fun _ => capped) fun _ db' ran => ?_
    obtain ⟨enough, rfl⟩ := reserveUserQuotaTx_ok.mp ran
    exact capped.debitUser fun _ => enough

theorem Capped.reserveToken (amount : Int)
    (own : db.OwnFlag tokenId unlimitedToken) : Capped (reserveTokenQuota db tokenId amount unlimitedToken).2 := by
  unfold reserveTokenQuota
  split
  · exact capped
  · rename_i pos
    refine Tx.commit_elim (Tx.commit _ db) rfl (fun _ => capped) fun _ db' ran => ?_
    obtain ⟨room, rfl⟩ := (reserveTokenQuotaTx_ok (by omega : amount ≠ 0)).mp ran
    exact capped.debitToken own fun _ => room

theorem Capped.step (call : QuotaCall) (own : call.OwnFlag db) : Capped (applyQuotaCall db call) := by
  unfold applyQuotaCall
  cases call with
  | reserveWallet requestId uid tokenId amount unlimitedToken =>
    exact reported_state ▸ capped.reserveWallet requestId uid amount own
  | reserveSubscription requestId uid tokenId amount unlimitedToken =>
    exact reported_state ▸ capped.reserveSubscription requestId uid amount own
  | append requestId delta => exact reported_state ▸ capped.append requestId delta
  | markProviderStarted requestId => exact reported_state ▸ capped.markProviderStarted requestId
  | settle requestId delta => exact reported_state ▸ capped.settle requestId delta
  | release requestId => exact reported_state ▸ capped.release requestId false
  | releaseUnsent requestId => exact reported_state ▸ capped.release requestId true
  | reserveUser uid amount => exact reported_state ▸ capped.reserveUser uid amount
  | reserveToken tokenId amount unlimitedToken => exact reported_state ▸ capped.reserveToken amount own

end

theorem hard_caps_hold (db : DB) (start : NoOverdraft db) (records : SoundRecords db) (calls : List QuotaCall)
    (own : Guarded applyQuotaCall (fun db call => call.OwnFlag db) db calls) :
    NoOverdraft (runSteps applyQuotaCall db calls) ∧ ∀ t ∈ transitions applyQuotaCall db calls, NoOverdraft t.after ∧
        ∀ failure, (t.input.run t.before).1 = some failure → t.after = t.before := by
  have preserved : ∀ db call, Capped db → QuotaCall.OwnFlag db call → Capped (applyQuotaCall db call) :=
    fun _ call capped own => capped.step call own
  have final := runSteps_invariant preserved calls db ⟨start, records⟩ own
  have between : ∀ t ∈ transitions applyQuotaCall db calls, Capped t.after :=
    @transitions_invariant _ _ _ _ _ (fun _ after => Capped after) preserved preserved calls db ⟨start, records⟩ own
  refine ⟨final.balances, fun t member => ⟨(between t member).balances, ?_⟩⟩
  intro failure failed
  rw [transitions_after member]
  exact applyQuotaCall_failed failed

def sharedWallet : List QuotaCall :=
  [.reserveWallet "a" 1 1 6 false, .reserveWallet "b" 1 1 5 false, .markProviderStarted "a", .settle "a" 5,
    .reserveUser 1 3, .reserveToken 1 2 false, .settle "a" (-2), .release "a"]

theorem noOverdraft_single {quota : Int} (nonneg : 0 ≤ quota) : NoOverdraft (DB.single quota) := by
  constructor
  · intro id user found
    rw [DB.single, find_put] at found
    split at found
    · cases found
      exact nonneg
    · cases found
  · intro id token found _
    rw [DB.single, find_put] at found
    split at found
    · cases found
      exact nonneg
    · cases found

theorem hard_caps_hold_sharedWallet :
    (∀ t ∈ transitions applyQuotaCall (DB.single 10) sharedWallet, NoOverdraft t.after) ∧
      (transitions applyQuotaCall (DB.single 10) sharedWallet).map (fun t => (t.input.run t.before).1) =
        [none, some .insufficientUserQuota, none, some .insufficientUserQuota, none, none, none, none] ∧
      (runSteps applyQuotaCall (DB.single 10) sharedWallet).userQuota 1 = 3 := by
  have own : Guarded applyQuotaCall (fun db call => QuotaCall.OwnFlag db call) (DB.single 10) sharedWallet := by
    refine ⟨nofun, nofun, trivial, trivial, trivial, nofun, trivial, trivial, trivial⟩
  have capped := hard_caps_hold (DB.single 10) (noOverdraft_single (by decide)) nofun sharedWallet own
  exact ⟨fun t member => (capped.2 t member).1, by decide, by decide⟩

end Wildflow.Billing
