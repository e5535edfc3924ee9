import Wildflow.Proof.Billing.Reservation

/-!
# Replayed reservations

A second reservation skips every debit, except that the subscription reservation pre-consumes before it looks at the
claim: without a pre-consume record of the request the replay charges a subscription.
-/

namespace Wildflow.Billing
open Wildflow.Store Tx
variable {record : BillingReservationRecord}

/-- The first candidate with room after its reset, or `some none` where a reset does not end before that. -/
def firstFitting (db : DB) (amount : Int) : List UserSubscription → Option (Option UserSubscription)
  | [] => none
  | candidate :: rest =>
    if candidate.planId ≤ 0 then none
    else match db.plans.find candidate.planId with
      | none => none
      | some plan =>
        match resetDue db.zone plan db.now candidate with
        | none => some none
        | some sub =>
          if 0 < sub.amountTotal ∧ sub.amountTotal - sub.amountUsed < amount then
            firstFitting db amount rest
          else some (some sub)

inductive ReserveCall where
  | wallet (userId tokenId amount : Int) (unlimitedToken : Bool)
  | subscription (userId tokenId amount : Int) (unlimitedToken : Bool)

def ReserveCall.run (db : DB) (requestId : String) : ReserveCall → Except BillingError Bool × DB
  | .wallet userId tokenId amount unlimitedToken =>
    reserveWalletBillingQuota db requestId userId tokenId amount unlimitedToken
  | .subscription userId tokenId amount unlimitedToken =>
    match reserveSubscriptionBillingQuota db requestId userId tokenId amount unlimitedToken with
    | (.error failure, db) => (.error failure, db)
    | (.ok (_, reserved), db) => (.ok reserved, db)

/-- A valid subscription call without a pre-consume record, for a user with room or with a reset that does not end. -/
def ReserveCall.ChargesAgain (db : DB) (requestId : String) : ReserveCall → Prop
  | .wallet .. => False
  | .subscription userId _ amount _ =>
    trimSpace requestId ≠ "" ∧ 0 < userId ∧ 0 < amount ∧ db.preConsumeRecords.find requestId = none ∧
      firstFitting db amount (activeUserSubscriptions db userId) ≠ none

/-- The call returns an error; where a reset does not end it returns nothing. -/
def Refused {α : Type} (outcome : Except BillingError α) : Prop :=
  ∃ failure, failure ≠ .resetLoopDiverges ∧ outcome = .error failure

/-- No quota moved, after due resets of subscriptions, and no reservation is reported. -/
structure MovesNothing (before : DB) (outcome : Except BillingError Bool × DB) : Prop where
  users : ∀ user, outcome.2.userQuota user = before.userQuota user
  remain : ∀ token, outcome.2.tokenRemain token = before.tokenRemain token
  used : ∀ token, outcome.2.tokenUsed token = before.tokenUsed token
  amountUsed : ∀ id, (outcome.2.userSubscriptions.find id).map (·.amountUsed) =
    (before.userSubscriptions.find id).map (·.amountUsed)
  afterReset : ∀ id, outcome.2.subscriptionUsed id = before.subscriptionUsed id
  reported : outcome.1 = .ok false ∨ Refused outcome.1

section
variable {db : DB} {requestId : String} {userId amount : Int}

theorem getSubscriptionPlanByIdTx_run {id : Int} {plan : SubscriptionPlan} (valid : ¬id ≤ 0)
    (found : db.plans.find id = some plan) : (getSubscriptionPlanByIdTx id).run db = .ok (plan, db) := by
  rw [getSubscriptionPlanByIdTx, if_neg valid, run_bind_of_ok (run_read db), found]
  rfl

theorem firstFitting_putSubscription (db : DB) (sub : UserSubscription) (amount : Int)
    (candidates : List UserSubscription) :
    firstFitting (db.putSubscription sub) amount candidates = firstFitting db amount candidates := by
  induction candidates with
  | nil => rfl
  | cons candidate rest ih =>
    simp only [firstFitting, ih]
    rfl

theorem consumeFirstFitting_refused (requestId : String) (userId amount : Int)
    (cands : List UserSubscription) (db : DB) :
    Refused ((consumeFirstFitting requestId userId amount db.now cands).run db) ↔ firstFitting db amount cands = none := by
  induction cands generalizing db with
  | nil => exact iff_of_true ⟨_, by simp, rfl⟩ rfl
  | cons cand rest ih =>
    by_cases valid : cand.planId ≤ 0
    · have failed : (getSubscriptionPlanByIdTx cand.planId).run db = .error .invalidPlanId := by
        rw [getSubscriptionPlanByIdTx, if_pos valid]
        rfl
      exact iff_of_true ⟨_, by simp, run_bind_of_error failed⟩ (by simp [firstFitting, valid])
    cases planned : db.plans.find cand.planId with
    | none =>
      have failed : (getSubscriptionPlanByIdTx cand.planId).run db = .error .recordNotFound := by
        rw [getSubscriptionPlanByIdTx, if_neg valid, run_bind_of_ok (run_read db), planned]
        rfl
      exact iff_of_true ⟨_, by simp, run_bind_of_error failed⟩ (by simp [firstFitting, valid, planned])
    | some plan =>
      simp only [consumeFirstFitting, firstFitting, valid, if_false, planned,
        run_bind_of_ok (getSubscriptionPlanByIdTx_run valid planned)]
      cases reset : resetDue db.zone plan db.now cand with
      | none =>
        have failed : (maybeResetUserSubscriptionWithPlanTx cand plan db.now).run db = .error .resetLoopDiverges := by
          rw [maybeResetUserSubscriptionWithPlanTx, run_bind_of_ok (run_read db), reset]
          rfl
        rw [run_bind_of_error failed]
        refine iff_of_false ?_ (by simp)
        rintro ⟨_, ne, same⟩
        exact ne (Except.error.inj same).symm
      | some sub =>
        rw [run_bind_of_ok (maybeReset_ok.mpr ⟨reset, rfl⟩)]
        by_cases full : 0 < sub.amountTotal ∧ sub.amountTotal - sub.amountUsed < amount
        · simp only [full, and_self, if_true]
          rw [← firstFitting_putSubscription db sub]
          exact ih (db.putSubscription sub)
        · simp only [full, if_false, reduceCtorEq, iff_false]
          rintro ⟨failure, _, failed⟩
          cases failed

theorem preConsumeUserSubscriptionTx_refused (fresh : db.preConsumeRecords.find requestId = none) :
    Refused ((preConsumeUserSubscriptionTx requestId userId amount).run db) ↔
      ¬(trimSpace requestId ≠ "" ∧ 0 < userId ∧ 0 < amount ∧
        firstFitting db amount (activeUserSubscriptions db userId) ≠ none) := by
  rw [preConsumeUserSubscriptionTx]
  by_cases invalid : userId ≤ 0 ∨ trimSpace requestId = "" ∨ amount ≤ 0
  · rw [if_pos invalid]
    exact iff_of_true ⟨_, by simp, rfl⟩ (by grind)
  · rw [if_neg invalid, run_bind_of_ok (run_read db), fresh]
    obtain ⟨user, named, pos⟩ := not_or.mp invalid |>.imp id not_or.mp
    dsimp only
    by_cases none' : activeUserSubscriptions db userId = []
    · rw [none']
      exact iff_of_true ⟨_, by simp, rfl⟩ fun all => all.2.2.2 rfl
    · rw [run_bind_of_ok (run_ensure_of db none'), consumeFirstFitting_refused]
      grind

theorem preConsumeUserSubscriptionTx_known_returns {record : SubscriptionPreConsumeRecord}
    (found : db.preConsumeRecords.find requestId = some record) :
    (preConsumeUserSubscriptionTx requestId userId amount).run db ≠ .error .resetLoopDiverges := by
  unfold preConsumeUserSubscriptionTx
  split
  · intro same
    cases same
  rw [run_bind_of_ok (run_read db), found]
  by_cases kept : record.status ≠ .refunded
  · rw [run_bind_of_ok (run_ensure_of db kept)]
    cases db.userSubscriptions.find record.userSubscriptionId with
    | none =>
      intro same
      cases same
    | some sub =>
      intro same
      cases same
  · rw [run_bind_of_error (run_ensure_of_not db kept)]
    intro same
    cases same

theorem validateBillingReservationArgs_fails {err : BillingError}
    (failed : validateBillingReservationArgs requestId userId amount = .error err) : err ≠ .resetLoopDiverges := by
  unfold validateBillingReservationArgs at failed
  split_ifs at failed <;> cases failed <;> simp

inductive ReplayEffect (db : DB) (requestId : String) (call : ReserveCall)
    (outcome : Except BillingError Bool × DB) : Prop where
  | nothing (idle : ¬call.ChargesAgain db requestId) (unchanged : outcome.2 = db)
      (reported : outcome.1 = .ok false ∨ Refused outcome.1)
  | endless (again : call.ChargesAgain db requestId) (stuck : outcome.1 = .error .resetLoopDiverges)
  | charged (again : call.ChargesAgain db requestId) (id used amount : Int) (positive : 0 < amount)
      (before : db.subscriptionUsed id = some used)
      (after : outcome.2.subscriptionUsed id = some (used + amount))

section
variable (found : db.reservations.find requestId = some record)
include found

theorem replay_subscription_run (tid : Int) (unlimited : Bool) :
    (reserveSubscriptionBillingQuotaTx requestId userId tid amount unlimited).run db =
      ((preConsumeUserSubscriptionTx requestId userId amount).run db).map fun out => ((out.1, false), out.2) := by
  rw [reserveSubscriptionBillingQuotaTx, run_bind_of_ok (claimBillingReservationTx_known found ..)]
  cases pre : (preConsumeUserSubscriptionTx requestId userId amount).run db with
  | error err => exact run_bind_of_error pre
  | ok out => exact run_bind_of_ok pre

theorem replayEffect_subscription (tid : Int) (unlimited : Bool) :
    ReplayEffect db requestId (.subscription userId tid amount unlimited)
      ((ReserveCall.subscription userId tid amount unlimited).run db requestId) := by
  have ran := @replay_subscription_run _ _ _ userId amount found tid unlimited
  by_cases valid : requestId ≠ "" ∧ 0 < userId ∧ 0 < amount
  · have checked : validateBillingReservationArgs requestId userId amount = .ok () :=
      validateBillingReservationArgs_ok.mpr ⟨valid.1, valid.2.1, by omega⟩
    have unfolded : reserveSubscriptionBillingQuota db requestId userId tid amount unlimited =
        (reserveSubscriptionBillingQuotaTx requestId userId tid amount unlimited).commit db := by
      rw [reserveSubscriptionBillingQuota, checked]
      exact if_neg (by omega)
    cases pre : (preConsumeUserSubscriptionTx requestId userId amount).run db with
    | error err =>
      rw [pre] at ran
      rw [ReserveCall.run, unfolded, commit_of_error ran]
      by_cases stuck : err = .resetLoopDiverges
      · subst stuck
        cases known : db.preConsumeRecords.find requestId with
        | some used => exact absurd pre (preConsumeUserSubscriptionTx_known_returns known)
        | none =>
          refine .endless (by_contra fun idle => ?_) rfl
          obtain ⟨other, ne, same⟩ := (preConsumeUserSubscriptionTx_refused known).mpr
            fun ⟨named, user, pos, fits⟩ => idle ⟨named, user, pos, known, fits⟩
          exact ne (Except.error.inj (same.symm.trans pre))
      · refine .nothing ?_ rfl (.inr ⟨err, stuck, rfl⟩)
        rintro ⟨named, user, pos, missing, fits⟩
        exact (preConsumeUserSubscriptionTx_refused missing).mp ⟨err, stuck, pre⟩ ⟨named, user, pos, fits⟩
    | ok out =>
      rw [pre] at ran
      rw [ReserveCall.run, unfolded, commit_eq_ok.mpr ran]
      cases known : db.preConsumeRecords.find requestId with
      | some used =>
        refine .nothing ?_ (preConsumeUserSubscriptionTx_known known pre).1.symm (.inl rfl)
        rintro ⟨_, _, _, missing, _⟩
        rw [known] at missing
        cases missing
      | none =>
        have fits := mt (preConsumeUserSubscriptionTx_refused known).mpr fun ⟨_, _, same⟩ => nomatch pre.symm.trans same
        obtain ⟨named, user, pos, fits⟩ := not_not.mp fits
        obtain ⟨_, t, origin, sub, _, charge, _, same⟩ := preConsumeUserSubscriptionTx_fresh known pre
        refine .charged ⟨named, user, pos, known, fits⟩ sub.id sub.amountUsed amount pos
          (subscriptionUsed_origin charge) ?_
        rw [same]
        exact (subscriptionUsed_charged charge (sub.amountUsed + amount) sub.id).trans (if_pos rfl)
  · have idle : ¬(ReserveCall.subscription userId tid amount unlimited).ChargesAgain db requestId := by
      rintro ⟨named, user, pos, _⟩
      exact valid ⟨fun empty => named (by rw [empty]; rfl), user, pos⟩
    rw [ReserveCall.run, reserveSubscriptionBillingQuota]
    cases checked : validateBillingReservationArgs requestId userId amount with
    | error err => exact .nothing idle rfl (.inr ⟨err, validateBillingReservationArgs_fails checked, rfl⟩)
    | ok u =>
      obtain ⟨named, user, _⟩ := validateBillingReservationArgs_ok.mp checked
      have zero : amount ≤ 0 := not_lt.mp fun pos => valid ⟨named, user, pos⟩
      dsimp only
      rw [if_pos zero]
      exact .nothing idle rfl (.inr ⟨_, by simp, rfl⟩)

theorem replayEffect (call : ReserveCall) : ReplayEffect db requestId call (call.run db requestId) := by
  cases call with
  | subscription userId tid amount unlimitedToken =>
    exact replayEffect_subscription found tid unlimitedToken
  | wallet userId tid amount unlimitedToken =>
    rw [ReserveCall.run, reserveWalletBillingQuota]
    cases checked : validateBillingReservationArgs requestId userId amount with
    | error err => exact .nothing id rfl (.inr ⟨err, validateBillingReservationArgs_fails checked, rfl⟩)
    | ok u =>
      dsimp only
      split
      · exact .nothing id rfl (.inl rfl)
      · rw [commit_eq_ok.mpr (reserveWalletBillingQuotaTx_known found ..)]
        exact .nothing id rfl (.inl rfl)

end

theorem replayed_reservation_moves_nothing_iff {record : BillingReservationRecord}
    (found : db.reservations.find requestId = some record) (call : ReserveCall) :
    (MovesNothing db (call.run db requestId) ↔ ¬call.ChargesAgain db requestId) ∧
      (¬call.ChargesAgain db requestId → (call.run db requestId).2 = db) := by
  cases replayEffect found call with
  | nothing idle unchanged reported =>
    refine ⟨⟨fun _ => idle, fun _ => ?_⟩, fun _ => unchanged⟩
    exact ⟨fun _ => by rw [unchanged], fun _ => by rw [unchanged], fun _ => by rw [unchanged],
      fun _ => by rw [unchanged], fun _ => by rw [unchanged], reported⟩
  | endless again stuck =>
    refine ⟨⟨fun still => ?_, fun idle => absurd again idle⟩, fun idle => absurd again idle⟩
    rcases still.reported with reported | ⟨failure, other, reported⟩
    · exact nomatch reported.symm.trans stuck
    · exact absurd (Except.error.inj (reported.symm.trans stuck)) other
  | charged again id used amount positive before after =>
    refine ⟨⟨fun still => ?_, fun idle => absurd again idle⟩, fun idle => absurd again idle⟩
    have same := still.afterReset id
    rw [before, after, Option.some.injEq] at same
    omega

end

def DB.reservedFromWallet : DB := (reserveWalletBillingQuota DB.subscribed "req" 1 1 10 false).2

theorem replayed_reservation_moves_nothing_iff_subscription :
    let reserved := (reserveSubscriptionBillingQuota DB.subscribed "req" 1 1 10 false).2
    MovesNothing reserved ((ReserveCall.subscription 1 1 25 false).run reserved "req") := by
  intro reserved
  have held : ∃ record, reserved.reservations.find "req" = some record := ⟨_, rfl⟩
  obtain ⟨record, found⟩ := held
  refine (replayed_reservation_moves_nothing_iff found (.subscription 1 1 25 false)).1.mpr ?_
  rintro ⟨_, _, _, missing, _⟩
  exact absurd missing (by decide)

theorem replay_from_subscription_charges :
    let replay := (ReserveCall.subscription 1 1 10 false).run DB.reservedFromWallet "req"
    (DB.reservedFromWallet.reservations.find "req").isSome ∧ replay.1 = .ok false ∧
      (DB.reservedFromWallet.userSubscriptions.find 7).map (·.amountUsed) = some 0 ∧
      (replay.2.userSubscriptions.find 7).map (·.amountUsed) = some 10 := by
  decide

end Wildflow.Billing
