import Wildflow.Billing.Realtime

/-!
# Top-up orders

A callback of the payment provider, or an administrator, completes a pending order: it becomes a success and the wallet
of its user is credited in one transaction.
-/

namespace Wildflow.Billing
open Wildflow.Store

inductive TopUpError where
  | tradeNoMissing
  | orderNoMissing
  | topUpNotFound
  | orderMissing
  | paymentMethodMismatch
  | topUpStatusInvalid
  | orderStatusWrong
  | orderNotPending
  | invalidTopUpQuota
  | topUpQuotaLimitExceeded
  | recordNotFound
  | rechargeFailed

abbrev TopUpTx := Tx DB TopUpError

/-- The rounded decimal goes through a float, which is exact on the accepted range and stays outside of it beyond. -/
def walletQuotaFromDecimalStrict (value : ℚ) : Option Int :=
  let quota := roundAwayFromZero value
  if maxWalletQuota < quota ∨ quota < -maxWalletQuota then none else some quota

def topUpQuotaMaxCurrent (creditedQuota : Int) : Option Int :=
  if creditedQuota ≤ 0 ∨ maxWalletQuota < creditedQuota then none else some (maxWalletQuota - creditedQuota)

def User.credit (creditedQuota : Int) (updates : User → User) (user : User) : User :=
  { updates user with id := user.id, quota := user.quota + creditedQuota }

def creditTopUpQuota (userId creditedQuota : Int) (updates : User → User) : TopUpTx Unit := do
  let maxCurrentQuota ← Tx.orFail .invalidTopUpQuota (topUpQuotaMaxCurrent creditedQuota)
  let db ← Tx.read
  let updated := db.users.updateWhere userId (fun user => !user.deleted && user.quota ≤ maxCurrentQuota)
    (User.credit creditedQuota updates)
  Tx.write { db with users := updated.1 }
  if updated.2 = 1 then pure ()
  else match (db.users.find userId).filter fun user => !user.deleted with
    | none => Tx.fail .recordNotFound
    | some _ => Tx.fail .topUpQuotaLimitExceeded

def lockTopUp (tradeNo : String) (missing : TopUpError) : TopUpTx TopUp := do
  let db ← Tx.read
  Tx.orFail missing (db.topUps.find tradeNo)

def saveTopUp (topUp : TopUp) : TopUpTx Unit := do
  let db ← Tx.read
  Tx.write { db with topUps := db.topUps.put topUp }

def TopUp.completed (topUp : TopUp) (now : Int) : TopUp :=
  { topUp with completeTime := now, status := .success }

def completeTopUp (topUp : TopUp) : TopUpTx Unit := do
  let db ← Tx.read
  saveTopUp (topUp.completed db.now)

def creditedQuota (value : ℚ) : TopUpTx Int := do
  let quota ← Tx.orFail .invalidTopUpQuota (walletQuotaFromDecimalStrict value)
  Tx.ensure (0 < quota) .invalidTopUpQuota
  return quota

def updatePendingTopUpStatus (db : DB) (tradeNo : String) (expectedPaymentProvider : PaymentProvider)
    (targetStatus : TopUpStatus) : Except TopUpError Unit × DB :=
  if tradeNo = "" then (.error .tradeNoMissing, db)
  else Tx.commit (do
    let topUp ← lockTopUp tradeNo .topUpNotFound
    Tx.ensure (expectedPaymentProvider = .unset ∨ topUp.paymentProvider = expectedPaymentProvider)
      .paymentMethodMismatch
    Tx.ensure (topUp.status = .pending) .topUpStatusInvalid
    saveTopUp { topUp with status := targetStatus }) db

variable (quotaPerUnit : ℚ)

def rechargeEpayTx (tradeNo actualPaymentMethod : String) : TopUpTx Bool := do
  let topUp ← lockTopUp tradeNo .topUpNotFound
  Tx.ensure (topUp.paymentProvider = .epay) .paymentMethodMismatch
  if topUp.status = .success then return true
  else do
    Tx.ensure (topUp.status = .pending) .topUpStatusInvalid
    let topUp :=
      if actualPaymentMethod ≠ "" ∧ topUp.paymentMethod ≠ actualPaymentMethod then
        { topUp with paymentMethod := actualPaymentMethod }
      else topUp
    let quotaToAdd ← creditedQuota (topUp.amount * quotaPerUnit)
    completeTopUp topUp
    creditTopUpQuota topUp.userId quotaToAdd id
    return false

section
variable (db : DB) (tradeNo : String)

def rechargeEpay (actualPaymentMethod : String) : Except TopUpError Bool × DB :=
  if tradeNo = "" then (.error .tradeNoMissing, db)
  else (rechargeEpayTx quotaPerUnit tradeNo actualPaymentMethod).commit db

section
variable (referenceId : String)

def rechargeTx (customerId : String) : TopUpTx Unit := do
  let topUp ← lockTopUp referenceId .orderMissing
  Tx.ensure (topUp.paymentProvider = .stripe) .paymentMethodMismatch
  Tx.ensure (topUp.status = .pending) .orderStatusWrong
  completeTopUp topUp
  let quota ← creditedQuota (topUp.money * quotaPerUnit)
  creditTopUpQuota topUp.userId quota fun user => { user with stripeCustomer := customerId }

/-- The user takes the customer's email only when there is none yet. -/
def creemUpdates (customerEmail : String) (userId : Int) : TopUpTx (User → User) :=
  if customerEmail = "" then return id
  else do
    let db ← Tx.read
    let user ← Tx.orFail .recordNotFound ((db.users.find userId).filter fun user => !user.deleted)
    return if user.email = "" then fun user => { user with email := customerEmail } else id

def rechargeCreemTx (customerEmail : String) : TopUpTx Unit := do
  let topUp ← lockTopUp referenceId .orderMissing
  Tx.ensure (topUp.paymentProvider = .creem) .paymentMethodMismatch
  Tx.ensure (topUp.status = .pending) .orderStatusWrong
  completeTopUp topUp
  let quota ← creditedQuota topUp.amount
  let updateFields ← creemUpdates customerEmail topUp.userId
  creditTopUpQuota topUp.userId quota updateFields

def rechargeWaffoGatewayTx (provider : PaymentProvider) (quotaPerUnit : ℚ) (tradeNo : String) : TopUpTx Unit := do
  let topUp ← lockTopUp tradeNo .orderMissing
  Tx.ensure (topUp.paymentProvider = provider) .paymentMethodMismatch
  if topUp.status = .success then return ()
  else do
    Tx.ensure (topUp.status = .pending) .orderStatusWrong
    let quotaToAdd ← creditedQuota (topUp.amount * quotaPerUnit)
    completeTopUp topUp
    creditTopUpQuota topUp.userId quotaToAdd id

def gatewayResult (tx : TopUpTx Unit) : Except TopUpError Unit × DB :=
  if tradeNo = "" then (.error .tradeNoMissing, db)
  else match tx.commit db with
    | (.error _, db) => (.error .rechargeFailed, db)
    | (.ok _, db) => (.ok (), db)

def recharge (customerId : String) : Except TopUpError Unit × DB :=
  gatewayResult db referenceId (rechargeTx quotaPerUnit referenceId customerId)

def rechargeCreem (customerEmail : String) : Except TopUpError Unit × DB :=
  gatewayResult db referenceId (rechargeCreemTx referenceId customerEmail)

end

def rechargeWaffo : Except TopUpError Unit × DB :=
  gatewayResult db tradeNo (rechargeWaffoGatewayTx .waffo quotaPerUnit tradeNo)

def rechargeWaffoPancake : Except TopUpError Unit × DB :=
  gatewayResult db tradeNo (rechargeWaffoGatewayTx .waffoPancake quotaPerUnit tradeNo)

def manualCompleteTopUpTx : TopUpTx Unit := do
  let topUp ← lockTopUp tradeNo .orderMissing
  if topUp.status = .success then return ()
  else do
    Tx.ensure (topUp.status = .pending) .orderNotPending
    let quotaToAdd ← creditedQuota
      (if topUp.paymentProvider = .stripe then topUp.money * quotaPerUnit else topUp.amount * quotaPerUnit)
    completeTopUp topUp
    creditTopUpQuota topUp.userId quotaToAdd id

def manualCompleteTopUp : Except TopUpError Unit × DB :=
  if tradeNo = "" then (.error .orderNoMissing, db)
  else (manualCompleteTopUpTx quotaPerUnit tradeNo).commit db

inductive GatewayCallback where
  | epay (actualPaymentMethod : String)
  | stripe (customerId : String)
  | creem (customerEmail : String)
  | waffo
  | waffoPancake

def GatewayCallback.provider : GatewayCallback → PaymentProvider
  | .epay _ => .epay
  | .stripe _ => .stripe
  | .creem _ => .creem
  | .waffo => .waffo
  | .waffoPancake => .waffoPancake

def GatewayCallback.tx : GatewayCallback → TopUpTx Unit
  | .epay actualPaymentMethod => do
      let _ ← rechargeEpayTx quotaPerUnit tradeNo actualPaymentMethod
  | .stripe customerId => rechargeTx quotaPerUnit tradeNo customerId
  | .creem customerEmail => rechargeCreemTx tradeNo customerEmail
  | .waffo => rechargeWaffoGatewayTx .waffo quotaPerUnit tradeNo
  | .waffoPancake => rechargeWaffoGatewayTx .waffoPancake quotaPerUnit tradeNo

def GatewayCallback.apply : GatewayCallback → DB
  | .epay actualPaymentMethod => (rechargeEpay quotaPerUnit db tradeNo actualPaymentMethod).2
  | .stripe customerId => (recharge quotaPerUnit db tradeNo customerId).2
  | .creem customerEmail => (rechargeCreem db tradeNo customerEmail).2
  | .waffo => (rechargeWaffo quotaPerUnit db tradeNo).2
  | .waffoPancake => (rechargeWaffoPancake quotaPerUnit db tradeNo).2

end

inductive TopUpStep where
  | callback (callback : GatewayCallback)
  | updatePending (expectedPaymentProvider : PaymentProvider) (targetStatus : TopUpStatus)
  | manualComplete

def applyTopUpStep (tradeNo : String) (db : DB) : TopUpStep → DB
  | .callback callback => callback.apply quotaPerUnit db tradeNo
  | .updatePending expectedPaymentProvider targetStatus =>
    (updatePendingTopUpStatus db tradeNo expectedPaymentProvider targetStatus).2
  | .manualComplete => (manualCompleteTopUp quotaPerUnit db tradeNo).2

end Wildflow.Billing
