import Wildflow.Account.UserSave

/-!
# Stale saves

A save writes back the row as it was loaded, so it undoes what was changed in between.
-/

namespace Wildflow.Account
open Wildflow.Store
variable {field : SecurityField} {user : User} {call : UserCall}

inductive SecurityField where
  | status
  | role
  | password

def SecurityField.Same (a b : User) : SecurityField → Prop
  | .status => a.status = b.status
  | .role => a.role = b.role
  | .password => a.password = b.password

def UserCall.asks : UserCall → SecurityField → Bool
  | .manageUser .disable _, .status | .manageUser .enable _, .status => true
  | .manageUser .promote _, .role | .manageUser .demote _, .role => true
  | .changeUserPassword _, .password => true
  | _, _ => false

abbrev UserConfig := Config User UserCall UserPoint UserResult

def saveGuard (c : UserConfig) : Move UserCall → Prop
  | .start _ | .wait _ => True
  | .step pid => (c.procs[pid]?.all fun proc =>
      match proc.state with
      | .inl (.save _ loaded) =>
        loaded.status = c.shared.status ∧ loaded.role = c.shared.role ∧ loaded.password = c.shared.password
      | _ => true) = true

instance (c : UserConfig) (m : Move UserCall) : Decidable (saveGuard c m) :=
  match m with
  | .start _ | .wait _ => .isTrue trivial
  | .step _ => instDecidableEqBool _ _

theorem edit_same {loaded : User} (edited : editUser call loaded = .ok user)
    (unasked : call.asks field = false) : field.Same loaded user := by
  cases call with
  | changeUserPassword change => cases edited
  | getAffCode random =>
    simp only [editUser] at edited
    split at edited
    · cases edited
      cases field <;> rfl
    · cases edited
  | manageUser action myRole =>
    simp only [editUser, manageUser] at edited
    split at edited
    · cases edited
    cases action with
    | enable =>
      cases edited
      cases field <;> first | rfl | cases unasked
    | disable =>
      dsimp only at edited
      split at edited
      · cases edited
      · cases edited
        cases field <;> first | rfl | cases unasked
    | promote | demote =>
      dsimp only at edited
      split at edited
      · cases edited
      · split at edited
        · cases edited
        · cases edited
          cases field <;> first | rfl | cases unasked

theorem nonZero_same {α : Type} [DecidableEq α] {zero new current : α} (same : current = new) :
    current = nonZero zero new current := by
  unfold nonZero
  split
  · rfl
  · exact same

theorem updateWithTx_same {row : User} (same : field.Same row user) : field.Same row (updateWithTx row user) := by
  cases field <;> exact nonZero_same same

theorem changeUserPassword_same {validates : String → String → Bool} {row : User} {change : PasswordChange}
    (changed : changeUserPassword validates row change = .ok user) (other : field ≠ .password) :
    field.Same row user := by
  unfold changeUserPassword at changed
  repeat (split at changed; · cases changed)
  cases changed
  cases field with
  | status | role => rfl
  | password => exact absurd rfl other

def CallHolds (_ : User) (_ : Nat) (proc : Process UserCall UserPoint UserResult) : Prop :=
  match proc.state with
  | .inl (.load call) | .inl (.save call _) => proc.call = call
  | .inl (.changePassword change) => proc.call = .changeUserPassword change
  | .inr _ => True

variable (validates : String → String → Bool)

theorem userSaves_interleaved : Interleaved (userSaves validates) saveGuard (fun _ => True) CallHolds where
  start c call _ _ := by cases call <;> rfl
  waits c _ holds _ := ⟨trivial, holds.2⟩
  steps c pid call point holds _ found := by
    refine ⟨trivial, ?_⟩
    have own := holds.2 pid _ found
    cases point with
    | load asked =>
      simp only [userSaves, advanceUser]
      split
      · exact own
      · trivial
    | save asked loaded =>
      simp only [userSaves, advanceUser]
      split <;> trivial
    | changePassword change =>
      simp only [userSaves, advanceUser]
      split <;> trivial
  others c pid call point holds _ _ other proc _ foundOther := holds.2 other proc foundOther

theorem advanceUser_same {c : UserConfig} {pid : Nat} {point : UserPoint}
    (found : c.procs[pid]? = some ⟨call, .inl point⟩) (own : CallHolds c.shared pid ⟨call, .inl point⟩)
    (allowed : saveGuard c (.step pid)) (unasked : call.asks field = false) :
    field.Same c.shared (advanceUser validates c.shared point).1 := by
  have same : field.Same c.shared c.shared := by cases field <;> rfl
  cases point with
  | load asked =>
    simp only [advanceUser]
    split <;> exact same
  | save asked loaded =>
    obtain rfl : call = asked := own
    simp only [saveGuard, found, Option.all_some, decide_eq_true_eq] at allowed
    simp only [advanceUser]
    split
    · next user edited =>
      refine updateWithTx_same ?_
      have kept := edit_same edited unasked
      cases field with
      | status => exact allowed.1.symm.trans kept
      | role => exact allowed.2.1.symm.trans kept
      | password => exact allowed.2.2.symm.trans kept
    · exact same
  | changePassword change =>
    obtain rfl : call = .changeUserPassword change := own
    simp only [advanceUser]
    split
    · next user changed =>
      refine changeUserPassword_same changed ?_
      rintro rfl
      cases unasked
    · exact same

theorem security_field_changes_when_asked (row : User) (moves : List (Move UserCall))
    (allowed : Guarded (userSaves validates).move saveGuard (storedUser row) moves) (field : SecurityField) (m : Move UserCall)
    (next : saveGuard (runSteps (userSaves validates).move (storedUser row) moves) m)
    (changed : ¬ field.Same (runSteps (userSaves validates).move (storedUser row) moves).shared
      ((userSaves validates).move (runSteps (userSaves validates).move (storedUser row) moves) m).shared) :
    ∃ pid call point, m = .step pid ∧
      (runSteps (userSaves validates).move (storedUser row) moves).procs[pid]? = some ⟨call, .inl point⟩ ∧
      call.asks field = true := by
  have holds := (userSaves_interleaved validates).run (Holds.idle trivial) allowed
  change Holds _ _ (runSteps (userSaves validates).move (storedUser row) moves) at holds
  generalize runSteps (userSaves validates).move (storedUser row) moves = c at *
  have unchanged : field.Same c.shared c.shared := by cases field <;> rfl
  cases m with
  | start call => exact absurd unchanged changed
  | wait duration => exact absurd unchanged changed
  | step pid =>
    unfold Program.move at changed
    dsimp only at changed
    split at changed
    · next call point found =>
      refine ⟨pid, call, point, rfl, found, ?_⟩
      by_contra unasked
      exact changed (advanceUser_same validates found (holds.2 pid _ found) next (Bool.not_eq_true _ ▸ unasked))
    · exact absurd unchanged changed

def alice : User := ⟨"alice", "Alice", "hash", 1, 1, "default", "", 1⟩

def disableAlice : List (Move UserCall) :=
  [.start (.getAffCode "code"), .start (.manageUser .disable 100), .step 1]

theorem security_field_changes_when_asked_disable :
    ∃ pid call point, (.step 1 : Move UserCall) = .step pid ∧
      (runSteps (userSaves fun _ _ => true).move (storedUser alice) disableAlice).procs[pid]? = some ⟨call, .inl point⟩ ∧
      call.asks .status = true :=
  security_field_changes_when_asked (fun _ _ => true) alice disableAlice (by decide +kernel) .status (.step 1) (by decide +kernel)
    (show ¬ (_ : Int) = _ by decide +kernel)

theorem aff_code_enables_user :
    (runSteps (userSaves fun _ _ => true).move (storedUser alice) (.start (.getAffCode "code") :: .step 0 ::
        (disableAlice.drop 1 ++ [.step 1]))).shared.status = userStatusDisabled ∧
      (runSteps (userSaves fun _ _ => true).move (storedUser alice) (.start (.getAffCode "code") :: .step 0 ::
        (disableAlice.drop 1 ++ [.step 1, .step 0]))).shared.status = userStatusEnabled := by
  decide +kernel

end Wildflow.Account
