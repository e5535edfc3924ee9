import Wildflow.Billing.Subscription

/-!
# The user group of a subscription

A plan may put its buyers into another group while the subscription lasts. The subscription remembers the group to
return to, unless it was bought in the plan's group.
-/

namespace Wildflow.Billing
open Wildflow.Store

/-- gorm's `Find` leaves the empty string when there is no row. -/
def getUserGroupByIdTx (userId : Int) : BillingTx String :=
  if userId ≤ 0 then Tx.fail .invalidUserId
  else do
    let db ← Tx.read
    return (((db.users.find userId).filter fun user => !user.deleted).map User.group).getD ""

def setUserGroupTx (userId : Int) (group : String) : BillingTx Unit := do
  let _ ← updateUser userId (fun _ => true) fun user => { user with group }

def nextSubscriptionId (table : Table UserSubscription.id) : Int :=
  (table.rows.map UserSubscription.id).foldr max 0 + 1

theorem nextSubscriptionId_pos (table : Table UserSubscription.id) : 0 < nextSubscriptionId table := by
  have nonneg : ∀ ids : List Int, 0 ≤ ids.foldr max 0 := by
    intro ids
    induction ids with
    | nil => exact le_rfl
    | cons id rest ih => exact le_max_of_le_right ih
  have bound := nonneg (table.rows.map UserSubscription.id)
  unfold nextSubscriptionId
  omega

def upgradeUserGroupTx (userId : Int) (upgradeGroup : String) : BillingTx String :=
  if upgradeGroup = "" then return ""
  else do
    let currentGroup ← getUserGroupByIdTx userId
    if currentGroup = upgradeGroup then return ""
    else do
      setUserGroupTx userId upgradeGroup
      return currentGroup

def newSubscription (zone : Calendar) (now : Int) (table : Table UserSubscription.id) (userId : Int)
    (plan : SubscriptionPlan) (endTime : Int) (prevUserGroup : String) : UserSubscription :=
  let nextReset := calcNextResetTime zone now plan endTime
  { id := nextSubscriptionId table, id_pos := nextSubscriptionId_pos table, userId, planId := plan.id
    amountTotal := plan.totalAmount, amountUsed := 0, startTime := now, endTime, status := .active
    lastResetTime := if 0 < nextReset then now else 0, nextResetTime := nextReset
    upgradeGroup := trimSpace plan.upgradeGroup, prevUserGroup
    downgradeGroup := trimSpace plan.downgradeGroup
    allowWalletOverflow := plan.allowWalletOverflow.getD true }

def createUserSubscriptionFromPlanTx (userId : Int) (plan : SubscriptionPlan) : BillingTx UserSubscription := do
  Tx.ensure (plan.id ≠ 0) .invalidPlan
  Tx.ensure (0 < userId) .invalidUserIdOfPurchase
  let db ← Tx.read
  let bought := (db.userSubscriptions.rows.filter fun sub =>
    sub.userId = userId ∧ sub.planId = plan.id).length
  Tx.ensure (¬(0 < plan.maxPurchasePerUser ∧ plan.maxPurchasePerUser ≤ bought)) .purchaseLimitReached
  match calcPlanEndTime db.zone db.now plan with
  | .error failure => Tx.fail failure
  | .ok endTime => do
      let prevUserGroup ← upgradeUserGroupTx userId (trimSpace plan.upgradeGroup)
      let sub := newSubscription db.zone db.now db.userSubscriptions userId plan endTime prevUserGroup
      saveUserSubscription sub
      return sub

def createUserSubscriptionFromPlan (db : DB) (userId : Int) (plan : SubscriptionPlan) :
    Except BillingError UserSubscription × DB :=
  (createUserSubscriptionFromPlanTx userId plan).commit db

section
variable (now : Int)

def holdsGroup (userId : Int) (sub : UserSubscription) : Bool :=
  sub.userId = userId && sub.status = .active && now < sub.endTime && sub.upgradeGroup ≠ ""

section
variable (sub : UserSubscription)

def downgradeUserGroupForSubscriptionTx (now : Int) : BillingTx String :=
  let downgradeGroup := trimSpace sub.downgradeGroup
  let upgradeGroup := trimSpace sub.upgradeGroup
  if downgradeGroup = "" ∧ upgradeGroup = "" then return ""
  else do
    let currentGroup ← getUserGroupByIdTx sub.userId
    let db ← Tx.read
    if db.userSubscriptions.rows.any fun other => holdsGroup now sub.userId other && other.id ≠ sub.id then
      return ""
    else if downgradeGroup = "" ∧ currentGroup ≠ upgradeGroup then return ""
    else do
      let target := if downgradeGroup = "" then trimSpace sub.prevUserGroup else downgradeGroup
      if target = "" ∨ target = currentGroup then return ""
      else do
        setUserGroupTx sub.userId target
        return target

def UserSubscription.cancel : UserSubscription :=
  { sub with status := .cancelled, endTime := now }

def invalidateUserSubscriptionTx (userSubscriptionId : Int) : BillingTx String := do
  let db ← Tx.read
  let sub ← Tx.orFail .recordNotFound (db.userSubscriptions.find userSubscriptionId)
  saveUserSubscription (sub.cancel db.now)
  let target ← downgradeUserGroupForSubscriptionTx (sub.cancel db.now) db.now
  return if target = "" then "" else s!"用户分组将回退到 {target}"

def adminInvalidateUserSubscription (db : DB) (userSubscriptionId : Int) : Except BillingError String × DB :=
  if userSubscriptionId ≤ 0 then (.error .invalidUserSubscriptionId, db)
  else (invalidateUserSubscriptionTx userSubscriptionId).commit db

def Due : Bool :=
  sub.status = .active && 0 < sub.endTime && sub.endTime ≤ now

def expireIfDue (userId : Int) (sub : UserSubscription) : UserSubscription :=
  if sub.userId = userId ∧ Due now sub then { sub with status := .expired } else sub

theorem expireIfDue_id (uid : Int) (sub : UserSubscription) : (expireIfDue now uid sub).id = sub.id := by
  unfold expireIfDue
  split <;> rfl

def lastToEnd (subs : List UserSubscription) : Option UserSubscription :=
  (subs.insertionSort fun a b => EndsBefore b a).head?

def definesGroup : Bool := sub.downgradeGroup ≠ "" || sub.upgradeGroup ≠ ""

def groupAfterExpiry (currentGroup : String) : String :=
  if trimSpace sub.downgradeGroup ≠ "" then trimSpace sub.downgradeGroup
  else if trimSpace sub.upgradeGroup = "" ∨ trimSpace sub.prevUserGroup = "" then ""
  else if currentGroup ≠ trimSpace sub.upgradeGroup then ""
  else trimSpace sub.prevUserGroup

end

def leaveExpiredGroupTx (userId : Int) : BillingTx Unit := do
  let db ← Tx.read
  if db.userSubscriptions.rows.any (holdsGroup now userId) then return ()
  else match lastToEnd (db.userSubscriptions.rows.filter fun sub =>
      sub.userId = userId ∧ sub.status = .expired ∧ definesGroup sub) with
    | none => return ()
    | some last => do
        let currentGroup ← getUserGroupByIdTx userId
        let target := groupAfterExpiry last currentGroup
        if target = "" ∨ target = currentGroup then return ()
        else setUserGroupTx userId target

def DB.expireFor (db : DB) (now userId : Int) : DB :=
  { db with userSubscriptions := db.userSubscriptions.map (expireIfDue now userId) (expireIfDue_id now userId) }

def expireUserTx (userId : Int) : BillingTx Int := do
  let db ← Tx.read
  let due := db.userSubscriptions.rows.filter fun sub => sub.userId = userId ∧ Due now sub
  Tx.write (db.expireFor now userId)
  leaveExpiredGroupTx now userId
  return due.length

end

def expireUsers (now : Int) (db : DB) : List Int → Int → Except BillingError Int × DB
  | [], expired => (.ok expired, db)
  | userId :: rest, expired =>
    match (expireUserTx now userId).commit db with
    | (.error failure, db) => (.error failure, db)
    | (.ok count, db) => expireUsers now db rest (expired + count)

def dueUserIds (db : DB) (limit : Int) : List Int :=
  let limit := if limit ≤ 0 then 200 else limit
  let subs := ((db.userSubscriptions.rows.filter (Due db.now)).insertionSort EndsBefore).take limit.toNat
  ((subs.map UserSubscription.userId).filter (0 < ·)).dedup

/-- The order of the users does not matter: each transaction is about the rows of its own user. -/
def expireDueSubscriptions (db : DB) (limit : Int) : Except BillingError Int × DB :=
  expireUsers db.now db (dueUserIds db limit) 0

end Wildflow.Billing
