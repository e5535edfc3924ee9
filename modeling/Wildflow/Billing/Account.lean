import Wildflow.Billing.Database
import Mathlib.Algebra.Order.Group.Int

/-!
# User wallets and token quotas

The conditional updates of `users.quota` and `tokens.(remain_quota, used_quota)`.
-/

namespace Wildflow.Billing
open Wildflow.Store

variable (db : DB) (id : Int)

def DB.LiveUser : Prop :=
  ∃ user, db.users.find id = some user ∧ user.deleted = false

def DB.LiveToken : Prop :=
  ∃ token, db.tokens.find id = some token ∧ token.deleted = false

def DB.userQuota : Int :=
  ((db.users.find id).map User.quota).getD 0

def DB.tokenRemain : Int :=
  ((db.tokens.find id).map Token.remainQuota).getD 0

def DB.tokenUsed : Int :=
  ((db.tokens.find id).map Token.usedQuota).getD 0

def User.debit (amount : Int) (user : User) : User :=
  { user with quota := user.quota - amount }

def Token.debit (amount : Int) (token : Token) : Token :=
  { token with remainQuota := token.remainQuota - amount, usedQuota := token.usedQuota + amount }

/-- gorm's default scope leaves soft-deleted rows alone. -/
def updateUser (condition : User → Bool) (change : User → User) : BillingTx Nat := do
  let db ← Tx.read
  let updated := db.users.updateWhere id (fun user => !user.deleted && condition user) change
  Tx.write { db with users := updated.1 }
  return updated.2

def updateToken (condition : Token → Bool) (change : Token → Token) : BillingTx Nat := do
  let db ← Tx.read
  let updated := db.tokens.updateWhere id (fun token => !token.deleted && condition token) change
  Tx.write { db with tokens := updated.1 }
  return updated.2

def reserveUserQuotaTx (userId amount : Int) : BillingTx Unit := do
  let rows ← updateUser userId (fun user => amount ≤ user.quota) (User.debit amount)
  Tx.ensure (rows ≠ 0) .insufficientUserQuota

section
variable (tokenId : Int)

def reserveTokenQuotaTx (amount : Int) (unlimitedToken : Bool) : BillingTx Unit :=
  if tokenId ≤ 0 ∨ amount = 0 then pure ()
  else do
    let rows ← updateToken tokenId (fun token => unlimitedToken || amount ≤ token.remainQuota) (Token.debit amount)
    Tx.ensure (rows ≠ 0) .insufficientTokenQuota

def adjustTokenQuotaDeltaTx (delta : Int) (unlimitedToken : Bool) : BillingTx Unit :=
  if tokenId ≤ 0 ∨ delta = 0 then pure ()
  else if 0 < delta then do
    let rows ← updateToken tokenId (fun token => unlimitedToken || delta ≤ token.remainQuota) (Token.debit delta)
    Tx.ensure (rows ≠ 0) .insufficientTokenQuota
  else do
    let _ ← updateToken tokenId (fun _ => true) (Token.debit delta)

def adjustUserQuotaDeltaTx (userId delta : Int) : BillingTx Unit :=
  if delta = 0 then pure ()
  else if 0 < delta then do
    let rows ← updateUser userId (fun user => delta ≤ user.quota) (User.debit delta)
    Tx.ensure (rows ≠ 0) .insufficientUserQuota
  else do
    let _ ← updateUser userId (fun _ => true) (User.debit delta)

def refundTokenQuotaTx (amount : Int) : BillingTx Unit :=
  if tokenId ≤ 0 ∨ amount = 0 then pure ()
  else do
    let _ ← updateToken tokenId (fun _ => true) (Token.debit (-amount))

def reserveUserQuota (userId amount : Int) : Except BillingError Unit × DB :=
  if userId ≤ 0 ∨ amount ≤ 0 then (.ok (), db) else (reserveUserQuotaTx userId amount).commit db

def reserveTokenQuota (amount : Int) (unlimitedToken : Bool) : Except BillingError Unit × DB :=
  if tokenId ≤ 0 ∨ amount ≤ 0 then (.ok (), db)
  else (reserveTokenQuotaTx tokenId amount unlimitedToken).commit db

def maxWalletQuota : Int := 2 ^ 53 - 1

def maxQuota : Int := 2 ^ 31 - 1

/-- Without the saturation of `Batch.addNewRecord`, which no sum within the range of an `int` meets. -/
def addNewRecord (records : Int → Int) (id value : Int) : Int → Int :=
  fun key => if key = id then records key + value else records key

def addUserQuotaRecord (value : Int) : DB :=
  { db with batchUserQuota := addNewRecord db.batchUserQuota id value }

def addTokenQuotaRecord (value : Int) : DB :=
  { db with batchTokenQuota := addNewRecord db.batchTokenQuota id value }

def increaseUserQuotaTx (quota : Int) : BillingTx Unit := do
  let rows ← updateUser id (fun user => user.quota ≤ maxWalletQuota - quota) (User.debit (-quota))
  if rows = 1 then pure ()
  else do
    let db ← Tx.read
    match db.users.find id with
    | some user => if user.deleted then Tx.fail .recordNotFound else Tx.fail .walletQuotaLimitExceeded
    | none => Tx.fail .recordNotFound

def increaseUserQuota (quota : Int) (direct : Bool) : Except BillingError Unit × DB :=
  if quota < 0 then (.error .quotaNegative, db)
  else if maxWalletQuota < quota then (.error (.walletQuotaExceeds maxWalletQuota), db)
  else if !direct && db.batchUpdateEnabled then (.ok (), addUserQuotaRecord db id quota)
  else (increaseUserQuotaTx id quota).commit db

def decreaseUserQuota (quota : Int) (direct : Bool) : Except BillingError Unit × DB :=
  if quota < 0 then (.error .quotaNegative, db)
  else if !direct && db.batchUpdateEnabled then (.ok (), addUserQuotaRecord db id (-quota))
  else Tx.commit (do let _ ← updateUser id (fun _ => true) (User.debit quota)) db

def increaseTokenQuota (quota : Int) : Except BillingError Unit × DB :=
  if quota < 0 then (.error .quotaNegative, db)
  else if db.batchUpdateEnabled then (.ok (), addTokenQuotaRecord db tokenId quota)
  else Tx.commit (do let _ ← updateToken tokenId (fun _ => true) (Token.debit (-quota))) db

def decreaseTokenQuota (quota : Int) : Except BillingError Unit × DB :=
  if quota < 0 then (.error .quotaNegative, db)
  else if db.batchUpdateEnabled then (.ok (), addTokenQuotaRecord db tokenId (-quota))
  else Tx.commit (do let _ ← updateToken tokenId (fun _ => true) (Token.debit quota)) db

end

def User.addUse (quota requests : Int) (user : User) : User :=
  { user with usedQuota := user.usedQuota + quota, requestCount := user.requestCount + requests }

def addUserUse (quota requests : Int) : DB :=
  { db with users := (db.users.updateWhere id (fun user => !user.deleted) (User.addUse quota requests)).1 }

def updateUserUsedQuotaAndRequestCount (quota : Int) : DB :=
  if db.batchUpdateEnabled then
    { db with batchUsedQuota := addNewRecord db.batchUsedQuota id quota
              batchRequestCount := addNewRecord db.batchRequestCount id 1 }
  else addUserUse db id quota 1

def updateUserUsedQuota (quota : Int) : DB :=
  if db.batchUpdateEnabled then { db with batchUsedQuota := addNewRecord db.batchUsedQuota id quota }
  else addUserUse db id quota 0

end Wildflow.Billing
