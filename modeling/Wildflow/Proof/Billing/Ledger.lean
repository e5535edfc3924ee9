import Wildflow.Proof.Billing.Reservation
import Wildflow.Store.Run

/-!
# The reservation ledger

Every step that changes anything moves one record and debits its user and its token by the same amount
(`applyReservationOp_cases`), and a record moves to each state at most once.
-/

namespace Wildflow.Billing
open Wildflow.Store Table BillingReservationRecord List
variable {record : BillingReservationRecord} {db : DB} {amount : Int}

inductive ReservationOp where
  | reserveWallet (requestId : String) (userId tokenId amount : Int) (unlimitedToken : Bool)
  | append (requestId : String) (delta : Int)
  | markProviderStarted (requestId : String)
  | settle (requestId : String) (delta : Int)
  | release (requestId : String)
  | releaseUnsent (requestId : String)

def ReservationOp.requestId : ReservationOp → String
  | .reserveWallet requestId .. | .append requestId _ | .markProviderStarted requestId
  | .settle requestId _ | .release requestId | .releaseUnsent requestId => requestId

def applyReservationOp (db : DB) : ReservationOp → DB
  | .reserveWallet requestId userId tokenId amount unlimitedToken =>
    (reserveWalletBillingQuota db requestId userId tokenId amount unlimitedToken).2
  | .append requestId delta => (appendBillingReservation db requestId delta).2
  | .markProviderStarted requestId => (markBillingReservationProviderStarted db requestId).2
  | .settle requestId delta => (settleBillingReservation db requestId delta).2
  | .release requestId => (releaseBillingReservation db requestId).2
  | .releaseUnsent requestId => (releaseUnsentBillingReservation db requestId).2

inductive ReservationMove (now : Int) :
    ReservationOp → Option BillingReservationRecord → BillingReservationRecord → Int → Prop
  | claim {requestId : String} {userId tokenId amount : Int} {unlimitedToken : Bool} :
      ReservationMove now (.reserveWallet requestId userId tokenId amount unlimitedToken) none
        (newReservation requestId userId tokenId unlimitedToken .wallet amount now) amount
  | append {requestId : String} {delta : Int} {record : BillingReservationRecord}
      (reserved : record.state = .reserved) :
      ReservationMove now (.append requestId delta) (some record) (record.appended delta now) delta
  | mark {requestId : String} {record : BillingReservationRecord}
      (reserved : record.state = .reserved) :
      ReservationMove now (.markProviderStarted requestId) (some record) (record.moved .providerStarted now) 0
  | settle {requestId : String} {delta : Int} {record : BillingReservationRecord}
      (opened : record.Open) :
      ReservationMove now (.settle requestId delta) (some record) (record.moved .settled now) delta
  | release {op : ReservationOp} {record : BillingReservationRecord} (opened : record.Open)
      (releases : op = .release op.requestId ∨ op = .releaseUnsent op.requestId) :
      ReservationMove now op (some record) (record.moved .released now) (-record.amount)

def WalletLedger (db : DB) : Prop :=
  ∀ requestId record, db.reservations.find requestId = some record →
    record.source = .wallet ∧ db.LiveUser record.userId ∧ (0 < record.tokenId → db.LiveToken record.tokenId)

structure StepMoves (db : DB) (op : ReservationOp) (record : BillingReservationRecord) (amount : Int) : Prop where
  move : ReservationMove db.now op (db.reservations.find op.requestId) record amount
  key : record.requestId = op.requestId
  wallet : record.source = .wallet
  user : db.LiveUser record.userId
  token : 0 < record.tokenId → db.LiveToken record.tokenId
  result : applyReservationOp db op = db.moveReservation record amount

section
variable (ledger : WalletLedger db)
include ledger

private theorem release_moves (requestId : String) (reservedOnly : Bool) {op : ReservationOp}
    (releases : op = .release requestId ∨ op = .releaseUnsent requestId)
    (applied : applyReservationOp db op = (releaseReservation db requestId reservedOnly).2) :
    applyReservationOp db op = db ∨ ∃ record amount, StepMoves db op record amount := by
  have named : op.requestId = requestId := by
    rcases releases with rfl | rfl <;> rfl
  rcases releaseReservation_cases db requestId reservedOnly with
    same | ⟨record, db', found, freed, ran, out⟩
  · exact .inl (applied.trans same)
  · obtain ⟨wallet, user, token⟩ := ledger requestId record found
    obtain ⟨_, rfl⟩ := (releaseBillingReservationTx_wallet_ok found wallet freed).mp ran
    refine .inr ⟨record.moved .released db.now, -record.amount,
      ⟨?_, ?_, wallet, user, token, applied.trans (congrArg Prod.snd out)⟩⟩
    · rw [named, found]
      exact .release (open_of_not_kept freed) (by rw [named]; exact releases)
    · exact (key_of_find found).trans named.symm

theorem applyReservationOp_cases (op : ReservationOp) :
    applyReservationOp db op = db ∨ ∃ record amount, StepMoves db op record amount := by
  cases op with
  | reserveWallet requestId uid tid amount unlimited =>
    rcases reserveWalletBillingQuota_cases db requestId uid tid amount unlimited with
      same | ⟨fresh, _, _, _, enough, room, out⟩
    · exact .inl same
    · refine .inr ⟨_, amount, ⟨?_, rfl, rfl, enough.live, room.live, congrArg Prod.snd out⟩⟩
      simp only [ReservationOp.requestId, fresh]
      exact .claim
  | append requestId d =>
    rcases appendBillingReservation_cases db requestId d with
      same | ⟨record, db', found, pos, ran, out⟩
    · exact .inl same
    · obtain ⟨wallet, user, token⟩ := ledger requestId record found
      have key : record.requestId = requestId := key_of_find found
      obtain ⟨reserved, _, _, rfl⟩ :=
        (appendBillingReservationTx_wallet_ok found wallet (by omega)).mp ran
      refine .inr ⟨record.appended d db.now, d, ⟨?_, key, wallet, user, token, congrArg Prod.snd out⟩⟩
      simp only [ReservationOp.requestId, found]
      exact .append reserved
  | markProviderStarted requestId =>
    rcases markBillingReservationProviderStarted_cases db requestId with
      same | ⟨record, found, reserved, out⟩
    · exact .inl same
    · obtain ⟨wallet, user, token⟩ := ledger requestId record found
      have key : record.requestId = requestId := key_of_find found
      refine .inr ⟨record.moved .providerStarted db.now, 0, ⟨?_, key, wallet, user, token, ?_⟩⟩
      · simp only [ReservationOp.requestId, found]
        exact .mark reserved
      · rw [DB.moveReservation, debitUser_zero, debitToken_skip (.inr rfl)]
        exact congrArg Prod.snd out
  | settle requestId d =>
    rcases settleBillingReservation_cases db requestId d with
      same | ⟨record, db', found, opened, ran, out⟩
    · exact .inl same
    · obtain ⟨wallet, user, token⟩ := ledger requestId record found
      have key : record.requestId = requestId := key_of_find found
      obtain ⟨_, _, rfl⟩ := (settleBillingReservationTx_wallet_ok found wallet opened).mp ran
      refine .inr ⟨record.moved .settled db.now, d, ⟨?_, key, wallet, user, token, congrArg Prod.snd out⟩⟩
      simp only [ReservationOp.requestId, found]
      exact .settle opened
  | release requestId =>
    exact release_moves ledger requestId false (.inl rfl) rfl
  | releaseUnsent requestId =>
    exact release_moves ledger requestId true (.inr rfl) rfl

theorem WalletLedger.step (op : ReservationOp) : WalletLedger (applyReservationOp db op) := by
  rcases applyReservationOp_cases ledger op with unchanged | ⟨record, amount, step⟩
  · rw [unchanged]
    exact ledger
  intro requestId stored found
  rw [step.result] at found ⊢
  simp only [DB.moveReservation, debitToken_reservations, debitUser_reservations,
    putReservation_reservations, find_put] at found
  simp only [DB.moveReservation, debitToken_liveUser, debitToken_liveToken, debitUser_liveUser,
    debitUser_liveToken]
  by_cases same : record.requestId = requestId
  · simp only [same, if_true] at found
    cases found
    exact ⟨step.wallet, step.user, step.token⟩
  · simp only [same, if_false] at found
    exact ledger requestId stored found

theorem WalletLedger.run (ops : List ReservationOp) : WalletLedger (runSteps applyReservationOp db ops) := by
  induction ops using List.reverseRecOn with
  | nil => exact ledger
  | append_singleton ops op ih =>
    rw [runSteps_snoc]
    exact ih.step op

end

def takenFor (requestId : String) (measure : DB → Int) (db : DB) (ops : List ReservationOp) : Int :=
  taken applyReservationOp measure (fun op => op.requestId = requestId) db ops

def DB.reservationState (db : DB) (requestId : String) : Option ReservationState :=
  (db.reservations.find requestId).map (·.state)

def entered (requestId : String) (target : ReservationState) (db : DB) (ops : List ReservationOp) :
    List ReservationOp :=
  ((transitions applyReservationOp db ops).filter fun t =>
    t.before.reservationState requestId ≠ some target ∧
      t.after.reservationState requestId = some target).map (·.input)

theorem entered_snoc (requestId : String) (target : ReservationState) (db : DB)
    (ops : List ReservationOp) (op : ReservationOp) :
    let before := runSteps applyReservationOp db ops
    entered requestId target db (ops ++ [op]) = entered requestId target db ops ++
        if before.reservationState requestId ≠ some target ∧
            (applyReservationOp before op).reservationState requestId = some target
        then [op] else [] := by
  intro before
  unfold entered
  rw [transitions_snoc, filter_append, map_append]
  congr 1
  split
  · rename_i enters
    simp [before, enters] at enters ⊢
  · rename_i stays
    simp only [filter_cons, filter_nil]
    rw [if_neg (by simpa using stays)]
    rfl

section
variable {db : DB} {ops : List ReservationOp} {op : ReservationOp} {requestId : String}
  {record : BillingReservationRecord} {amount : Int}

theorem reservationState_move (step : StepMoves db op record amount) :
    (applyReservationOp db op).reservationState requestId =
      if op.requestId = requestId then some record.state else db.reservationState requestId := by
  rw [step.result]
  simp only [DB.reservationState, DB.moveReservation, debitToken_reservations,
    debitUser_reservations, putReservation_reservations, find_put, step.key]
  split <;> rfl

variable (step : StepMoves (runSteps applyReservationOp db ops) op record amount)
include step

theorem entered_move (target : ReservationState) :
    entered op.requestId target db (ops ++ [op]) = entered op.requestId target db ops ++
      if (runSteps applyReservationOp db ops).reservationState op.requestId ≠ some target ∧
        record.state = target then [op] else [] := by
  rw [entered_snoc, reservationState_move step]
  simp

theorem takenFor_move {measure : DB → Int} {fall : Int}
    (fell : measure ((runSteps applyReservationOp db ops).moveReservation record amount) =
      measure (runSteps applyReservationOp db ops) - fall) :
    takenFor op.requestId measure db (ops ++ [op]) = takenFor op.requestId measure db ops + fall := by
  rw [takenFor, taken_snoc, step.result, fell]
  simp only [decide_true, if_true, takenFor]
  omega

end

def Held (requestId : String) (db : DB) (ops : List ReservationOp) (record : BillingReservationRecord)
    (held : Int) : Prop :=
  (entered requestId .reserved db ops).length = 1 ∧
  match record.state with
  | .reserved | .providerStarted =>
    held = record.amount ∧ entered requestId .settled db ops = [] ∧ entered requestId .released db ops = []
  | .settled =>
    ∃ delta, held = record.amount + delta ∧ entered requestId .settled db ops = [.settle requestId delta] ∧
      entered requestId .released db ops = []
  | .released =>
    held = 0 ∧ entered requestId .settled db ops = [] ∧ (entered requestId .released db ops).length = 1

structure RequestAccount (requestId : String) (db : DB) (ops : List ReservationOp)
    (record : BillingReservationRecord) (held : Int) : Prop where
  moves : Held requestId db ops record held
  user : ∀ user, takenFor requestId (·.userQuota user) db ops = if user = record.userId then held else 0
  remain : ∀ token, takenFor requestId (·.tokenRemain token) db ops =
    if token = record.tokenId ∧ 0 < record.tokenId then held else 0
  used : ∀ token, takenFor requestId (fun db => -db.tokenUsed token) db ops =
    if token = record.tokenId ∧ 0 < record.tokenId then held else 0

structure NoAccount (requestId : String) (db : DB) (ops : List ReservationOp) : Prop where
  entered : ∀ target, entered requestId target db ops = []
  user : ∀ user, takenFor requestId (·.userQuota user) db ops = 0
  remain : ∀ token, takenFor requestId (·.tokenRemain token) db ops = 0
  used : ∀ token, takenFor requestId (fun db => -db.tokenUsed token) db ops = 0

def Conserved (requestId : String) (db : DB) (ops : List ReservationOp) : Prop :=
  match (runSteps applyReservationOp db ops).reservations.find requestId with
  | none => NoAccount requestId db ops
  | some record => ∃ held, RequestAccount requestId db ops record held

section
variable {db : DB} {ops : List ReservationOp} {op : ReservationOp} {requestId : String}

theorem Conserved.frame (conserved : Conserved requestId db ops)
    (same : (applyReservationOp (runSteps applyReservationOp db ops) op).reservations.find requestId =
      (runSteps applyReservationOp db ops).reservations.find requestId) (idle : op.requestId ≠ requestId ∨
      applyReservationOp (runSteps applyReservationOp db ops) op = runSteps applyReservationOp db ops) :
    Conserved requestId db (ops ++ [op]) := by
  have sameTaken : ∀ measure, takenFor requestId measure db (ops ++ [op]) = takenFor requestId measure db ops := by
    intro measure
    rw [takenFor, taken_snoc]
    rcases idle with other | unchanged
    · simp [other, takenFor]
    · simp [unchanged, takenFor]
  have sameEntered : ∀ target, entered requestId target db (ops ++ [op]) = entered requestId target db ops := by
    intro target
    rw [entered_snoc]
    simp [DB.reservationState, same]
  unfold Conserved at conserved ⊢
  rw [runSteps_snoc, same]
  cases found : (runSteps applyReservationOp db ops).reservations.find requestId with
  | none =>
    rw [found] at conserved
    obtain ⟨enteredNone, user, remain, used⟩ := conserved
    constructor <;> simp_all
  | some record =>
    rw [found] at conserved
    obtain ⟨held, ⟨holds, user, remain, used⟩⟩ := conserved
    refine ⟨held, ⟨?_, ?_, ?_, ?_⟩⟩
    · unfold Held at holds ⊢
      simpa only [sameEntered] using holds
    all_goals
      intro id
      rw [sameTaken]
    · exact user id
    · exact remain id
    · exact used id

theorem held_move (conserved : Conserved op.requestId db ops)
    (step : StepMoves (runSteps applyReservationOp db ops) op record amount) :
    ∃ before, Held op.requestId db (ops ++ [op]) record (before + amount) ∧
      (∀ user, takenFor op.requestId (·.userQuota user) db ops = if user = record.userId then before else 0) ∧
      (∀ token, takenFor op.requestId (·.tokenRemain token) db ops =
        if token = record.tokenId ∧ 0 < record.tokenId then before else 0) ∧
      (∀ token, takenFor op.requestId (fun db => -db.tokenUsed token) db ops =
        if token = record.tokenId ∧ 0 < record.tokenId then before else 0) := by
  have enters := entered_move step
  have move := step.move
  unfold Conserved at conserved
  obtain ⟨old, found⟩ :
      ∃ old, (runSteps applyReservationOp db ops).reservations.find op.requestId = old := ⟨_, rfl⟩
  simp only [DB.reservationState, found] at enters
  rw [found] at conserved move
  cases move with
  | claim =>
    obtain ⟨enteredNone, user, remain, used⟩ := conserved
    refine ⟨0, ⟨?_, ?_⟩, by simpa using user, by simpa using remain, by simpa using used⟩
    · simp [enters, enteredNone, newReservation]
    · simp [enters, enteredNone, newReservation]
  | append reserved =>
    obtain ⟨held, ⟨⟨once, moves⟩, user, remain, used⟩⟩ := conserved
    simp only [reserved] at moves
    refine ⟨held, ⟨?_, ?_⟩, user, remain, used⟩
    · simp [enters, once, reserved]
    · simp [enters, moves, reserved, appended]
  | mark reserved =>
    obtain ⟨held, ⟨⟨once, moves⟩, user, remain, used⟩⟩ := conserved
    simp only [reserved] at moves
    refine ⟨held, ⟨?_, ?_⟩, user, remain, used⟩
    · simp [enters, once, moved]
    · simp [enters, moves, moved]
  | settle opened =>
    obtain ⟨held, ⟨⟨once, moves⟩, user, remain, used⟩⟩ := conserved
    refine ⟨held, ⟨?_, ?_⟩, user, remain, used⟩
    · simp [enters, once, moved]
    · rcases opened with st | st <;>
      · simp only [st, ReservationOp.requestId] at enters moves
        simp [enters, moves, st, moved, ReservationOp.requestId]
  | release opened _ =>
    obtain ⟨held, ⟨⟨once, moves⟩, user, remain, used⟩⟩ := conserved
    refine ⟨held, ⟨?_, ?_⟩, user, remain, used⟩
    · simp [enters, once, moved]
    · rcases opened with st | st <;>
      · simp only [st] at moves
        simp [enters, moves, st, moved]

theorem Conserved.move (conserved : Conserved op.requestId db ops)
    (step : StepMoves (runSteps applyReservationOp db ops) op record amount) :
    Conserved op.requestId db (ops ++ [op]) := by
  obtain ⟨before, moves, user, remain, used⟩ := held_move conserved step
  have stored : (runSteps applyReservationOp db (ops ++ [op])).reservations.find op.requestId = some record := by
    rw [runSteps_snoc, step.result, ← step.key]
    exact find_put_self _ record
  unfold Conserved
  rw [stored]
  refine ⟨before + amount, ⟨moves, ?_, ?_, ?_⟩⟩
  · intro id
    rw [takenFor_move step (userQuota_moveReservation step.user id), user]
    split <;> omega
  · intro id
    rw [takenFor_move step (tokenRemain_moveReservation step.token id), remain]
    split <;> omega
  · intro id
    have fell : -((runSteps applyReservationOp db ops).moveReservation record amount).tokenUsed id =
        -(runSteps applyReservationOp db ops).tokenUsed id -
          if id = record.tokenId ∧ 0 < record.tokenId then amount else 0 := by
      rw [tokenUsed_moveReservation step.token id]
      omega
    rw [takenFor_move step fell, used]
    split <;> omega

theorem Conserved.step (ledger : WalletLedger (runSteps applyReservationOp db ops))
    (conserved : ∀ requestId, Conserved requestId db ops) (op : ReservationOp) (requestId : String) :
    Conserved requestId db (ops ++ [op]) := by
  rcases applyReservationOp_cases ledger op with same | ⟨record, amount, step⟩
  · exact (conserved requestId).frame (by rw [same]) (.inr same)
  by_cases own : op.requestId = requestId
  · subst own
    exact (conserved _).move step
  · refine (conserved requestId).frame ?_ (.inl own)
    rw [step.result]
    exact find_put_of_ne _ record (by rw [step.key]; exact own)

end

/-- A request holds its amount while its record is open, then what its one settlement leaves, or nothing. -/
theorem reservation_ledger_conserved (db : DB) (start : db.reservations.rows = [])
    (ops : List ReservationOp) (requestId : String) : Conserved requestId db ops := by
  have empty : ∀ id, db.reservations.find id = none := by
    intro id
    simp [Table.find, start]
  have ledger : WalletLedger db := by
    intro id record found
    rw [empty id] at found
    cases found
  induction ops using List.reverseRecOn generalizing requestId with
  | nil =>
    unfold Conserved
    rw [runSteps_nil, empty]
    exact ⟨fun _ => rfl, fun _ => rfl, fun _ => rfl, fun _ => rfl⟩
  | append_singleton ops op ih =>
    exact Conserved.step (ledger.run ops) ih op requestId

def settledRequest : List ReservationOp :=
  [.reserveWallet "req" 1 1 10 false, .append "req" 5, .reserveWallet "req" 1 1 10 false,
    .markProviderStarted "req", .settle "req" (-3), .release "req"]

theorem reservation_ledger_conserved_settledRequest :
    (DB.single 100).reservations.rows = [] ∧ Conserved "req" (DB.single 100) settledRequest ∧
      (runSteps applyReservationOp (DB.single 100) settledRequest).userQuota 1 = 88 :=
  ⟨rfl, reservation_ledger_conserved (DB.single 100) rfl settledRequest "req", by decide⟩

section
variable {requestId : String} (ledger : WalletLedger db) (found : db.reservations.find requestId = some record)
  (closed : ¬ record.Open)
include ledger found closed

theorem applyReservationOp_of_closed {op : ReservationOp} (own : op.requestId = requestId) : applyReservationOp db op = db := by
  rcases applyReservationOp_cases ledger op with same | ⟨moved, amount, step⟩
  · exact same
  have move := step.move
  rw [own, found] at move
  cases move with
  | append reserved | mark reserved => exact absurd (.inl reserved) closed
  | settle opened | release opened _ => exact absurd opened closed

theorem closed_reservation_final (ops : List ReservationOp) :
    (runSteps applyReservationOp db ops).reservations.find requestId = some record ∧ ∀ op, op.requestId = requestId →
        applyReservationOp (runSteps applyReservationOp db ops) op = runSteps applyReservationOp db ops := by
  have stays : (runSteps applyReservationOp db ops).reservations.find requestId = some record := by
    induction ops using List.reverseRecOn with
    | nil => exact found
    | append_singleton ops op ih =>
      rw [runSteps_snoc]
      by_cases own : op.requestId = requestId
      · rw [applyReservationOp_of_closed (ledger.run ops) ih closed own]
        exact ih
      rcases applyReservationOp_cases (ledger.run ops) op with same | ⟨moved, amount, step⟩
      · rw [same]
        exact ih
      · rw [step.result]
        simpa [DB.moveReservation, find_put, step.key, own] using ih
  exact ⟨stays, fun op => applyReservationOp_of_closed (ledger.run ops) stays closed⟩

end

theorem closed_reservation_final_settledRequest :
    applyReservationOp (runSteps applyReservationOp (DB.single 100) settledRequest) (.release "req") =
      runSteps applyReservationOp (DB.single 100) settledRequest := by
  have ledger : WalletLedger (DB.single 100) := fun _ _ found => by cases found
  exact (closed_reservation_final (ledger.run settledRequest) rfl (by decide) []).2 (.release "req") rfl

end Wildflow.Billing
