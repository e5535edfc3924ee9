import Wildflow.Billing.Account

/-!
# Debits

A conditional update that succeeds is a `DB.debitUser` or `DB.debitToken` of a signed amount; each lemma says when it
succeeds.
-/

namespace Wildflow.Billing
open Wildflow.Store Tx Table
variable {unlimited : Bool} {db db' : DB} {amount id delta quota : Int} {u : Unit} {condition : Token → Bool}

section
variable (db : DB) (id amount : Int)

def DB.debitUser : DB :=
  { db with users := (db.users.updateWhere id (fun user => !user.deleted) (User.debit amount)).1 }

def DB.debitToken : DB :=
  { db with tokens :=
      if id ≤ 0 ∨ amount = 0 then db.tokens
      else (db.tokens.updateWhere id (fun token => !token.deleted) (Token.debit amount)).1 }

def DB.UserHolds : Prop :=
  ∃ user, db.users.find id = some user ∧ user.deleted = false ∧ amount ≤ user.quota

def DB.TokenHolds (unlimited : Bool) : Prop :=
  0 < id → ∃ token, db.tokens.find id = some token ∧ token.deleted = false ∧
    (unlimited = true ∨ amount ≤ token.remainQuota)

end

theorem DB.UserHolds.live (holds : db.UserHolds id amount) : db.LiveUser id := by
  obtain ⟨user, found, live, _⟩ := holds
  exact ⟨user, found, live⟩

theorem DB.TokenHolds.live (holds : db.TokenHolds id amount unlimited) (pos : 0 < id) : db.LiveToken id := by
  obtain ⟨token, found, live, _⟩ := holds pos
  exact ⟨token, found, live⟩

@[grind =] theorem find_debitUser (db : DB) (id amount v : Int) :
    (db.debitUser id amount).users.find v = (db.users.find v).map fun user =>
        if v = id ∧ user.deleted = false then user.debit amount else user := by
  have keyed : ∀ user : User, (user.debit amount).id = user.id := fun _ => rfl
  simp [DB.debitUser, find_updateWhere db.users id _ keyed]

@[grind =] theorem find_debitToken (db : DB) (id amount v : Int) :
    (db.debitToken id amount).tokens.find v = (db.tokens.find v).map fun token =>
        if v = id ∧ 0 < id ∧ amount ≠ 0 ∧ token.deleted = false then token.debit amount else token := by
  have keyed : ∀ token : Token, (token.debit amount).id = token.id := fun _ => rfl
  by_cases skipped : id ≤ 0 ∨ amount = 0
  · have never : ∀ token : Token, ¬(v = id ∧ 0 < id ∧ amount ≠ 0 ∧ token.deleted = false) := by grind
    simp [DB.debitToken, skipped, never]
  · have pos : 0 < id := by omega
    have ne : amount ≠ 0 := fun zero => skipped (.inr zero)
    simp only [DB.debitToken, skipped, if_false, find_updateWhere db.tokens id _ keyed]
    simp [pos, ne]

theorem debitToken_skip (skipped : id ≤ 0 ∨ amount = 0) : db.debitToken id amount = db := by
  simp [DB.debitToken, skipped]

theorem debitUser_zero (db : DB) (id : Int) : db.debitUser id 0 = db := by
  have nothing : ∀ user : User, user.debit 0 = user := by
    intro user
    simp [User.debit]
  unfold DB.debitUser
  rcases updateWhere_cases db.users id (fun user => !user.deleted) (User.debit 0) with
    ⟨user, found, _, new⟩ | ⟨_, new⟩
  · have keyed := key_of_find found
    subst keyed
    rw [new, nothing, put_of_find found]
  · rw [new]

section
variable (db : DB) (id amount : Int)

@[simp] theorem debitUser_reservations : (db.debitUser id amount).reservations = db.reservations := rfl
@[simp] theorem debitUser_operations : (db.debitUser id amount).operations = db.operations := rfl
@[simp] theorem debitToken_reservations : (db.debitToken id amount).reservations = db.reservations := rfl
@[simp] theorem debitToken_operations : (db.debitToken id amount).operations = db.operations := rfl

@[simp] theorem debitUser_liveToken (v : Int) : (db.debitUser id amount).LiveToken v ↔ db.LiveToken v :=
  Iff.rfl

@[simp] theorem debitToken_liveUser (v : Int) : (db.debitToken id amount).LiveUser v ↔ db.LiveUser v :=
  Iff.rfl

@[simp] theorem debitUser_liveUser (v : Int) : (db.debitUser id amount).LiveUser v ↔ db.LiveUser v := by
  cases found : db.users.find v <;> grind [DB.LiveUser, User.debit]

@[simp] theorem debitToken_liveToken (v : Int) : (db.debitToken id amount).LiveToken v ↔ db.LiveToken v := by
  cases found : db.tokens.find v <;> grind [DB.LiveToken, Token.debit]

variable {db id}

theorem userQuota_debitUser (live : db.LiveUser id) (v : Int) :
    (db.debitUser id amount).userQuota v = db.userQuota v - if v = id then amount else 0 := by
  cases found : db.users.find v <;> grind [DB.userQuota, DB.LiveUser, User.debit]

theorem tokenRemain_debitToken (live : 0 < id → db.LiveToken id) (v : Int) :
    (db.debitToken id amount).tokenRemain v = db.tokenRemain v - if v = id ∧ 0 < id then amount else 0 := by
  cases found : db.tokens.find v <;> grind [DB.tokenRemain, DB.LiveToken, Token.debit]

theorem tokenUsed_debitToken (live : 0 < id → db.LiveToken id) (v : Int) :
    (db.debitToken id amount).tokenUsed v = db.tokenUsed v + if v = id ∧ 0 < id then amount else 0 := by
  cases found : db.tokens.find v <;> grind [DB.tokenUsed, DB.LiveToken, Token.debit]

end

theorem updateUser_hit {condition : User → Bool} {user : User}
    (found : db.users.find id = some user) (live : user.deleted = false) (holds : condition user = true) :
    (updateUser id condition (User.debit amount)).run db = .ok (1, db.debitUser id amount) := by
  simp [updateUser, DB.debitUser, updateWhere_hit found, live, holds]

theorem updateUser_miss {condition : User → Bool} {change : User → User}
    (missed : ∀ user, db.users.find id = some user → user.deleted = false → condition user = false) :
    (updateUser id condition change).run db = .ok (0, db) := by
  have never : ∀ user, db.users.find id = some user → (!user.deleted && condition user) = false := by grind
  simp [updateUser, updateWhere_miss never]

theorem updateToken_hit {token : Token} (pos : 0 < id) (ne : amount ≠ 0)
    (found : db.tokens.find id = some token) (live : token.deleted = false) (holds : condition token = true) :
    (updateToken id condition (Token.debit amount)).run db = .ok (1, db.debitToken id amount) := by
  have taken : ¬(id ≤ 0 ∨ amount = 0) := by omega
  simp [updateToken, DB.debitToken, taken, updateWhere_hit found, live, holds]

theorem updateToken_miss {change : Token → Token}
    (missed : ∀ token, db.tokens.find id = some token → token.deleted = false → condition token = false) :
    (updateToken id condition change).run db = .ok (0, db) := by
  have never : ∀ token, db.tokens.find id = some token → (!token.deleted && condition token) = false := by grind
  simp [updateToken, updateWhere_miss never]

theorem reserveUserQuotaTx_ok :
    (reserveUserQuotaTx id amount).run db = .ok (u, db') ↔ db.UserHolds id amount ∧ db.debitUser id amount = db' := by
  simp only [reserveUserQuotaTx, run_bind_ok, run_ensure_ok]
  constructor
  · rintro ⟨rows, _, ran, changed, rfl⟩
    by_cases holds : db.UserHolds id amount
    · obtain ⟨user, found, live, enough⟩ := holds
      rw [updateUser_hit found live (by simpa using enough)] at ran
      cases ran
      exact ⟨⟨user, found, live, enough⟩, rfl⟩
    · rw [updateUser_miss (by grind [DB.UserHolds])] at ran
      cases ran
      exact absurd rfl changed
  · rintro ⟨⟨user, found, live, enough⟩, rfl⟩
    exact ⟨1, _, updateUser_hit found live (by simpa using enough), by decide, rfl⟩

theorem guardedTokenUpdate_ok (pos : 0 < id) (ne : amount ≠ 0) :
    (do let rows ← updateToken id (fun token => unlimited || amount ≤ token.remainQuota) (Token.debit amount)
        Tx.ensure (rows ≠ 0) .insufficientTokenQuota : BillingTx Unit).run db = .ok (u, db') ↔
      db.TokenHolds id amount unlimited ∧ db.debitToken id amount = db' := by
  simp only [run_bind_ok, run_ensure_ok]
  constructor
  · rintro ⟨rows, _, ran, changed, rfl⟩
    by_cases holds : db.TokenHolds id amount unlimited
    · obtain ⟨token, found, live, enough⟩ := holds pos
      rw [updateToken_hit pos ne found live (by simpa using enough)] at ran
      cases ran
      exact ⟨holds, rfl⟩
    · rw [updateToken_miss (by grind [DB.TokenHolds])] at ran
      cases ran
      exact absurd rfl changed
  · rintro ⟨holds, rfl⟩
    obtain ⟨token, found, live, enough⟩ := holds pos
    exact ⟨1, _, updateToken_hit pos ne found live (by simpa using enough), by decide, rfl⟩

theorem reserveTokenQuotaTx_ok (ne : amount ≠ 0) :
    (reserveTokenQuotaTx id amount unlimited).run db = .ok (u, db') ↔
      db.TokenHolds id amount unlimited ∧ db.debitToken id amount = db' := by
  unfold reserveTokenQuotaTx
  by_cases skipped : id ≤ 0 ∨ amount = 0
  · have free : db.TokenHolds id amount unlimited := fun pos => by omega
    simp only [skipped, if_true, run_pure_ok, debitToken_skip skipped, true_and, free]
  · rw [if_neg skipped]
    exact guardedTokenUpdate_ok (by omega) ne

theorem updateUser_always (db : DB) (id amount : Int) :
    ∃ rows, (updateUser id (fun _ => true) (User.debit amount)).run db = .ok (rows, db.debitUser id amount) := by
  simp [updateUser, DB.debitUser]

theorem updateToken_always (db : DB) (pos : 0 < id) (ne : amount ≠ 0) :
    ∃ rows, (updateToken id (fun _ => true) (Token.debit amount)).run db = .ok (rows, db.debitToken id amount) := by
  have taken : ¬(id ≤ 0 ∨ amount = 0) := by omega
  simp [updateToken, DB.debitToken, taken]

theorem refundUser_ok :
    (do let _ ← updateUser id (fun _ => true) (User.debit amount) : BillingTx Unit).run db =
      .ok (u, db') ↔ db.debitUser id amount = db' := by
  obtain ⟨rows, ran⟩ := updateUser_always db id amount
  simp [ran]

theorem increaseUserQuotaTx_ok :
    (increaseUserQuotaTx id quota).run db = .ok (u, db') ↔
      (∃ user, db.users.find id = some user ∧ user.deleted = false ∧ user.quota ≤ maxWalletQuota - quota) ∧
        db.debitUser id (-quota) = db' := by
  unfold increaseUserQuotaTx
  by_cases fits : ∃ user, db.users.find id = some user ∧ user.deleted = false ∧ user.quota ≤ maxWalletQuota - quota
  · obtain ⟨user, found, live, room⟩ := fits
    have ran : (updateUser id (fun user => user.quota ≤ maxWalletQuota - quota) (User.debit (-quota))).run db =
        .ok (1, db.debitUser id (-quota)) := updateUser_hit found live (by simpa using room)
    rw [run_bind_of_ok ran]
    simp only [if_true, run_pure_ok, true_and]
    exact ⟨fun same => ⟨⟨user, found, live, room⟩, same⟩, fun both => both.2⟩
  · have ran : (updateUser id (fun user => user.quota ≤ maxWalletQuota - quota) (User.debit (-quota))).run db =
        .ok (0, db) := by
      apply updateUser_miss
      intro user found live
      simp only [decide_eq_false_iff_not]
      exact fun room => fits ⟨user, found, live, room⟩
    rw [run_bind_of_ok ran]
    simp only [fits, false_and, iff_false]
    cases found : db.users.find id with
    | none => simp [found]
    | some user => cases live : user.deleted <;> simp [found, live]

theorem refundToken_ok (pos : 0 < id) (ne : amount ≠ 0) :
    (do let _ ← updateToken id (fun _ => true) (Token.debit amount) : BillingTx Unit).run db =
      .ok (u, db') ↔ db.debitToken id amount = db' := by
  obtain ⟨rows, ran⟩ := updateToken_always db pos ne
  simp [ran]

theorem refundTokenQuotaTx_ok :
    (refundTokenQuotaTx id amount).run db = .ok (u, db') ↔ db.debitToken id (-amount) = db' := by
  unfold refundTokenQuotaTx
  by_cases skipped : id ≤ 0 ∨ amount = 0
  · have same : db.debitToken id (-amount) = db := debitToken_skip (by omega)
    simp only [skipped, if_true, run_pure_ok, same, true_and]
  · rw [if_neg skipped]
    exact refundToken_ok (by omega) (by omega)

theorem adjustTokenQuotaDeltaTx_ok :
    (adjustTokenQuotaDeltaTx id delta unlimited).run db = .ok (u, db') ↔
      (0 < delta → db.TokenHolds id delta unlimited) ∧ db.debitToken id delta = db' := by
  unfold adjustTokenQuotaDeltaTx
  by_cases skipped : id ≤ 0 ∨ delta = 0
  · have free : 0 < delta → db.TokenHolds id delta unlimited := by
      intro upwards pos
      omega
    simp only [skipped, if_true, run_pure_ok, debitToken_skip skipped, true_and]
    exact ⟨fun same => ⟨free, same⟩, fun both => both.2⟩
  · grind [guardedTokenUpdate_ok, refundToken_ok]

theorem adjustUserQuotaDeltaTx_ok (ne : delta ≠ 0) :
    (adjustUserQuotaDeltaTx id delta).run db = .ok (u, db') ↔
      (0 < delta → db.UserHolds id delta) ∧ db.debitUser id delta = db' := by
  unfold adjustUserQuotaDeltaTx
  rw [if_neg ne]
  by_cases upwards : 0 < delta
  · rw [if_pos upwards]
    exact reserveUserQuotaTx_ok.trans (by simp [upwards])
  · rw [if_neg upwards, refundUser_ok]
    simp [upwards]

def DB.userBalance (db : DB) (id : Int) : Int := db.userQuota id + db.batchUserQuota id

def DB.tokenBalance (db : DB) (id : Int) : Int := db.tokenRemain id + db.batchTokenQuota id

def DB.tokenSpent (db : DB) (id : Int) : Int := db.tokenUsed id - db.batchTokenQuota id

def WalletCharged (before after : DB) (userId amount : Int) : Prop :=
  ∀ user, after.userBalance user = before.userBalance user - if user = userId then amount else 0

/-- Only this token spent `amount`; a request without a token has no positive id. -/
def TokenCharged (before after : DB) (tokenId amount : Int) : Prop :=
  ∀ token, after.tokenBalance token =
      before.tokenBalance token - (if token = tokenId ∧ 0 < tokenId then amount else 0) ∧
    after.tokenSpent token = before.tokenSpent token + if token = tokenId ∧ 0 < tokenId then amount else 0

section
variable {before db : DB} {userId tokenId amount : Int}

theorem WalletCharged.debit (paid : WalletCharged before db userId amount) (live : db.LiveUser userId) (delta : Int) :
    WalletCharged before (db.debitUser userId delta) userId (amount + delta) := by
  intro user
  have held := paid user
  have batch : (db.debitUser userId delta).batchUserQuota user = db.batchUserQuota user := rfl
  simp only [DB.userBalance, userQuota_debitUser delta live, batch] at held ⊢
  grind

theorem TokenCharged.debit (paid : TokenCharged before db tokenId amount)
    (live : 0 < tokenId → db.LiveToken tokenId) (delta : Int) :
    TokenCharged before (db.debitToken tokenId delta) tokenId (amount + delta) := by
  intro token
  have held := paid token
  have batch : (db.debitToken tokenId delta).batchTokenQuota token = db.batchTokenQuota token := rfl
  simp only [DB.tokenBalance, DB.tokenSpent, tokenRemain_debitToken delta live,
    tokenUsed_debitToken delta live, batch] at held ⊢
  grind

end

def DB.spendUser (db : DB) (id amount : Int) : DB :=
  if db.batchUpdateEnabled then addUserQuotaRecord db id (-amount) else db.debitUser id amount

def DB.spendToken (db : DB) (id amount : Int) : DB :=
  if db.batchUpdateEnabled then addTokenQuotaRecord db id (-amount) else db.debitToken id amount

theorem decreaseUserQuota_eq (db : DB) (id : Int) (nonneg : 0 ≤ amount) :
    decreaseUserQuota db id amount false = (.ok (), db.spendUser id amount) := by
  rw [decreaseUserQuota, if_neg (by omega), DB.spendUser]
  simp only [Bool.not_false, Bool.true_and]
  split
  · rfl
  · exact commit_eq_ok.mpr (refundUser_ok.mpr rfl)

theorem updateToken_spends (db : DB) (pos : 0 < id) (ne : amount ≠ 0) :
    (if db.batchUpdateEnabled then (.ok (), addTokenQuotaRecord db id (-amount))
      else Tx.commit (do let _ ← updateToken id (fun _ => true) (Token.debit amount) : BillingTx Unit) db) =
      (.ok (), db.spendToken id amount) := by
  unfold DB.spendToken
  split
  · rfl
  · exact commit_eq_ok.mpr ((refundToken_ok pos ne).mpr rfl)

theorem decreaseTokenQuota_eq (db : DB) (pos : 0 < id) (spent : 0 < amount) :
    decreaseTokenQuota db id amount = (.ok (), db.spendToken id amount) := by
  rw [decreaseTokenQuota, if_neg (by omega)]
  exact updateToken_spends db pos (by omega)

section
variable (db : DB) (id amount : Int)

@[simp] theorem spendUser_tokens : (db.spendUser id amount).tokens = db.tokens := by
  unfold DB.spendUser
  split <;> rfl

@[simp] theorem spendUser_reservations : (db.spendUser id amount).reservations = db.reservations := by
  unfold DB.spendUser
  split <;> rfl

@[simp] theorem spendUser_userSubscriptions : (db.spendUser id amount).userSubscriptions = db.userSubscriptions := by
  unfold DB.spendUser
  split <;> rfl

@[simp] theorem spendUser_liveUser (user : Int) : (db.spendUser id amount).LiveUser user ↔ db.LiveUser user := by
  unfold DB.spendUser
  split
  · exact Iff.rfl
  · exact debitUser_liveUser db id amount user

end

section
variable {before db : DB} {userId tokenId amount : Int}

theorem WalletCharged.spend (paid : WalletCharged before db userId amount) (live : db.LiveUser userId) (spent : Int) :
    WalletCharged before (db.spendUser userId spent) userId (amount + spent) := by
  unfold DB.spendUser
  split
  · intro user
    have held := paid user
    simp only [DB.userBalance, DB.userQuota, addUserQuotaRecord, addNewRecord] at held ⊢
    grind
  · exact paid.debit live spent

theorem TokenCharged.spend (paid : TokenCharged before db tokenId amount)
    (pos : 0 < tokenId) (live : db.LiveToken tokenId) (spent : Int) :
    TokenCharged before (db.spendToken tokenId spent) tokenId (amount + spent) := by
  unfold DB.spendToken
  split
  · intro token
    have held := paid token
    simp only [DB.tokenBalance, DB.tokenSpent, DB.tokenRemain, DB.tokenUsed, addTokenQuotaRecord, addNewRecord] at held ⊢
    grind
  · exact paid.debit (fun _ => live) spent

end

theorem increaseUserQuota_cases (db : DB) (id quota : Int) :
    (∃ err, increaseUserQuota db id quota false = (.error err, db)) ∨
    increaseUserQuota db id quota false = (.ok (), db.spendUser id (-quota)) := by
  unfold increaseUserQuota
  split
  · exact .inl ⟨_, rfl⟩
  split
  · exact .inl ⟨_, rfl⟩
  cases batched : db.batchUpdateEnabled with
  | true => exact .inr (by simp [DB.spendUser, batched])
  | false =>
    simp only [Bool.not_false, Bool.and_false, Bool.false_eq_true, if_false]
    refine commit_elim (commit _ db) rfl (fun err => .inl ⟨err, rfl⟩) fun _ db' ran => ?_
    obtain ⟨_, rfl⟩ := increaseUserQuotaTx_ok.mp ran
    exact .inr (by rw [DB.spendUser, batched]; rfl)

theorem increaseTokenQuota_eq (db : DB) (pos : 0 < id) (back : 0 < quota) :
    increaseTokenQuota db id quota = (.ok (), db.spendToken id (-quota)) := by
  rw [increaseTokenQuota, if_neg (by omega), ← updateToken_spends db pos (by omega), neg_neg]

theorem decreaseTokenQuota_frame (db : DB) (id quota : Int) :
    ∃ tokens batch, (decreaseTokenQuota db id quota).2 = { db with tokens := tokens, batchTokenQuota := batch } := by
  unfold decreaseTokenQuota
  split
  · exact ⟨_, _, rfl⟩
  · split <;> exact ⟨_, _, rfl⟩

theorem increaseTokenQuota_frame (db : DB) (id quota : Int) :
    ∃ tokens batch, (increaseTokenQuota db id quota).2 = { db with tokens := tokens, batchTokenQuota := batch } := by
  unfold increaseTokenQuota
  split
  · exact ⟨_, _, rfl⟩
  · split <;> exact ⟨_, _, rfl⟩

def DB.userUsedQuota (db : DB) (id : Int) : Int :=
  ((db.users.find id).map User.usedQuota).getD 0

def DB.userRequestCount (db : DB) (id : Int) : Int :=
  ((db.users.find id).map User.requestCount).getD 0

section
variable {α : Type} (db : DB) (id amount v : Int)

theorem userUsedQuota_debitUser : (db.debitUser id amount).userUsedQuota v = db.userUsedQuota v := by
  cases found : db.users.find v <;> grind [DB.userUsedQuota, User.debit]

theorem userRequestCount_debitUser : (db.debitUser id amount).userRequestCount v = db.userRequestCount v := by
  cases found : db.users.find v <;> grind [DB.userRequestCount, User.debit]

@[grind =] theorem find_addUserUse (quota requests : Int) :
    (addUserUse db id quota requests).users.find v = (db.users.find v).map fun user =>
      if v = id ∧ user.deleted = false then user.addUse quota requests else user := by
  have keyed : ∀ user : User, (user.addUse quota requests).id = user.id := fun _ => rfl
  simp [addUserUse, find_updateWhere db.users id _ keyed]

variable {db id}

theorem userUsedQuota_addUserUse (live : db.LiveUser id) (quota requests : Int) :
    (addUserUse db id quota requests).userUsedQuota v = db.userUsedQuota v + if v = id then quota else 0 := by
  cases found : db.users.find v <;> grind [DB.userUsedQuota, DB.LiveUser, User.addUse]

theorem userRequestCount_addUserUse (live : db.LiveUser id) (quota requests : Int) :
    (addUserUse db id quota requests).userRequestCount v =
      db.userRequestCount v + if v = id then requests else 0 := by
  cases found : db.users.find v <;> grind [DB.userRequestCount, DB.LiveUser, User.addUse]

theorem addUserUse_liveUser (quota requests : Int) (live : db.LiveUser v) :
    (addUserUse db id quota requests).LiveUser v := by
  grind [DB.LiveUser, User.addUse]

end

theorem userQuota_addUserUse (db : DB) (id quota requests user : Int) :
    (addUserUse db id quota requests).userQuota user = db.userQuota user := by
  cases found : db.users.find user <;> grind [DB.userQuota, User.addUse]

theorem updateUser_addUse (db : DB) (id quota requests : Int) :
    ∃ rows, (updateUser id (fun _ => true) (User.addUse quota requests)).run db =
      .ok (rows, addUserUse db id quota requests) := by
  simp [updateUser, addUserUse]

theorem userBalance_updateUserUsedQuota (db : DB) (id quota user : Int) :
    (updateUserUsedQuota db id quota).userBalance user = db.userBalance user := by
  unfold updateUserUsedQuota
  split
  · rfl
  · exact congrArg (· + db.batchUserQuota user) (userQuota_addUserUse db id quota 0 user)

theorem updateUserUsedQuota_userSubscriptions (db : DB) (id quota : Int) :
    (updateUserUsedQuota db id quota).userSubscriptions = db.userSubscriptions := by
  unfold updateUserUsedQuota
  split <;> rfl

def DB.single (quota : Int) : DB :=
  { DB.empty 1000 with
    users := Table.empty.put
      { id := 1, quota, usedQuota := 0, requestCount := 0, group := "default", deleted := false }
    tokens := Table.empty.put
      { id := 1, userId := 1, key := "sk-1", remainQuota := quota, usedQuota := 0, unlimitedQuota := false,
        deleted := false } }

end Wildflow.Billing
