import Wildflow.Store.Interleaving

/-!
# Saving a user

`ManageUser` and `GetAffCode` of `controller/user.go` and `ChangeUserPassword` of `model/account_security.go` on the row
of one user. The fields that none of them looks at are left out; `Updates(struct)` writes those that are not zero.
-/

namespace Wildflow.Account
open Wildflow.Store

structure User where
  username : String
  displayName : String
  password : String
  role : Int
  status : Int
  group : String
  affCode : String
  authVersion : Int

def roleCommonUser : Int := 1

def roleAdminUser : Int := 10

def roleRootUser : Int := 100

def userStatusEnabled : Int := 1

def userStatusDisabled : Int := 2

inductive Action where
  | disable
  | enable
  | promote
  | demote

/-- `hash` is what `HashAccountPassword` makes of the new password, `sessionActive` the verdict on the session of the identity. -/
structure PasswordChange where
  userAuthVersion : Int
  sessionActive : Bool
  hash : String
  originalPassword : String
  password : String
  firstPassword : Bool
  username : String
  displayName : String

inductive UserCall where
  | manageUser (action : Action) (myRole : Int)
  | getAffCode (random : String)
  | changeUserPassword (change : PasswordChange)

inductive UserResult where
  | done
  | refused (message : String)

/-- The edits of a snapshot are local to their operation, so they are made with the save. -/
inductive UserPoint where
  | load (call : UserCall)
  | save (call : UserCall) (loaded : User)
  | changePassword (change : PasswordChange)

def nonZero {α : Type} [DecidableEq α] (zero new current : α) : α := if new = zero then current else new

def incrementUserAuthVersion (version : Int) : Int := max version 1 + 1

def updateWithTx (current user : User) : User :=
  let authChanged := (user.role ≠ 0 ∧ current.role ≠ user.role) ∨ (user.status ≠ 0 ∧ current.status ≠ user.status) ∨
    (user.group ≠ "" ∧ current.group ≠ user.group)
  { username := nonZero "" user.username current.username
    displayName := nonZero "" user.displayName current.displayName
    password := nonZero "" user.password current.password
    role := nonZero 0 user.role current.role
    status := nonZero 0 user.status current.status
    group := nonZero "" user.group current.group
    affCode := nonZero "" user.affCode current.affCode
    authVersion := if authChanged then incrementUserAuthVersion current.authVersion else current.authVersion }

def canManageTargetRole (myRole targetRole : Int) : Bool := myRole = roleRootUser ∨ targetRole < myRole

def manageUser (action : Action) (myRole : Int) (user : User) : Except UserResult User :=
  if canManageTargetRole myRole user.role = false then .error (.refused "MsgUserNoPermissionHigherLevel")
  else
    match action with
    | .disable =>
      if user.role = roleRootUser then .error (.refused "MsgUserCannotDisableRootUser")
      else .ok { user with status := userStatusDisabled }
    | .enable => .ok { user with status := userStatusEnabled }
    | .promote =>
      if myRole ≠ roleRootUser then .error (.refused "MsgUserAdminCannotPromote")
      else if roleAdminUser ≤ user.role then .error (.refused "MsgUserAlreadyAdmin")
      else .ok { user with role := roleAdminUser }
    | .demote =>
      if user.role = roleRootUser then .error (.refused "MsgUserCannotDemoteRootUser")
      else if user.role = roleCommonUser then .error (.refused "MsgUserAlreadyCommon")
      else .ok { user with role := roleCommonUser }

def editUser (call : UserCall) (user : User) : Except UserResult User :=
  match call with
  | .manageUser action myRole => manageUser action myRole user
  | .getAffCode random => if user.affCode = "" then .ok { user with affCode := random } else .error .done
  | .changeUserPassword _ => .error .done

section
variable (validatePasswordAndHash : String → String → Bool)

def changeUserPassword (current : User) (change : PasswordChange) : Except UserResult User :=
  if change.userAuthVersion ≤ 0 ∨ current.status ≠ userStatusEnabled ∨ current.authVersion ≠ change.userAuthVersion ∨
      change.sessionActive = false then
    .error (.refused "user session is inactive")
  else if change.firstPassword ≠ (current.password == "") then
    .error (.refused "Password settings have changed. Reload the page and try again.")
  else if change.firstPassword = false ∧ validatePasswordAndHash change.originalPassword current.password = false then
    .error (.refused "Current password is incorrect.")
  else if current.password ≠ "" ∧ validatePasswordAndHash change.password current.password = true then
    .error (.refused "ErrAccountPasswordSame")
  else
    .ok { current with
      password := change.hash
      username := nonZero "" change.username current.username
      displayName := nonZero "" change.displayName current.displayName
      authVersion := incrementUserAuthVersion current.authVersion }

def advanceUser (row : User) : UserPoint → User × (UserPoint ⊕ UserResult)
  | .load call =>
    match editUser call row with
    | .ok _ => (row, .inl (.save call row))
    | .error result => (row, .inr result)
  | .save call loaded =>
    match editUser call loaded with
    | .ok user => (updateWithTx row user, .inr .done)
    | .error result => (row, .inr result)
  | .changePassword change =>
    match changeUserPassword validatePasswordAndHash row change with
    | .ok user => (user, .inr .done)
    | .error result => (row, .inr result)

def enterUser : UserCall → UserPoint
  | .changeUserPassword change => .changePassword change
  | call => .load call

def userSaves : Program User UserCall UserPoint UserResult where
  enter := enterUser
  advance := fun row _ => advanceUser validatePasswordAndHash row
  wait := fun row _ => row

end

def storedUser (row : User) : Config User UserCall UserPoint UserResult := ⟨row, []⟩

end Wildflow.Account
