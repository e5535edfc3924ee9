import Wildflow.Proof.Billing.Membership

/-!
# The group after the last subscription

The user is in the original group or in the upgraded one, and a subscription remembers the original one unless it was
bought in the upgraded one. So the user is back at the end exactly when the subscription asked then remembers it.
-/

namespace Wildflow.Billing
open Wildflow.Store List
variable {db : DB} {now : Int} {member : Member} {sub : UserSubscription}

section
variable {upgraded original : String}

structure Bought (upgraded original : String) (sub : UserSubscription) : Prop where
  upgrade : sub.upgradeGroup = upgraded
  trimmed : trimSpace upgraded = upgraded
  downgrade : trimSpace sub.downgradeGroup = ""
  previous : sub.prevUserGroup = "" ∨ (sub.prevUserGroup = original ∧ original ≠ upgraded)

structure Member.Tracked (upgraded original : String) (member : Member) : Prop where
  group : member.group = original ∨ member.group = upgraded
  bought : ∀ sub ∈ member.subs, Bought upgraded original sub

def Member.Restored (original : String) (member : Member) : Prop :=
  (∀ sub ∈ member.subs, sub.status ≠ .active) → member.group = original

theorem Bought.cancel (bought : Bought upgraded original sub) (now : Int) :
    Bought upgraded original (sub.cancel now) :=
  ⟨bought.upgrade, bought.trimmed, bought.downgrade, bought.previous⟩

theorem Bought.expireIfDue (bought : Bought upgraded original sub) (now userId : Int) :
    Bought upgraded original (expireIfDue now userId sub) := by
  unfold Billing.expireIfDue
  split
  · exact ⟨bought.upgrade, bought.trimmed, bought.downgrade, bought.previous⟩
  · exact bought

theorem not_holdsGroup (ended : ∀ sub ∈ member.subs, sub.status ≠ .active) :
    ¬(member.subs.any (holdsGroup now member.userId) = true) := by
  rw [any_eq_true]
  rintro ⟨sub, mem, holds⟩
  simp [holdsGroup, ended sub mem] at holds

theorem groupAfterExpiry_bought {cur : String} (named : upgraded ≠ "")
    (trimmed : trimSpace original = original) (bought : Bought upgraded original sub) :
    groupAfterExpiry sub cur = if sub.prevUserGroup = "" ∨ cur ≠ upgraded then "" else original := by
  have upgrade : trimSpace sub.upgradeGroup = upgraded := by rw [bought.upgrade, bought.trimmed]
  have blank : trimSpace "" = "" := by decide
  unfold groupAfterExpiry
  rw [bought.downgrade, upgrade]
  rcases bought.previous with none | ⟨some, _⟩
  · simp [none, blank]
  · rw [some, trimmed]
    by_cases empty : original = "" <;> by_cases cur : cur = upgraded <;> simp [named, empty, cur]

section
variable (tracked : member.Tracked upgraded original)
include tracked

theorem Member.Tracked.buy (bought : Bought upgraded original sub) : (member.buy sub).Tracked upgraded original := by
  refine ⟨?_, ?_⟩
  · grind [Member.buy, tracked.group, bought.upgrade]
  · intro other mem
    rcases mem_append.mp mem with old | new
    · exact tracked.bought other old
    · rwa [mem_singleton.mp new]

theorem Member.Tracked.cancel
    (mem : sub ∈ member.subs) (now : Int) : (member.cancel now sub).Tracked upgraded original := by
  refine ⟨tracked.group, ?_⟩
  intro other replaced
  obtain ⟨old, stored, rfl⟩ := mem_map.mp replaced
  split
  · exact (tracked.bought sub mem).cancel now
  · exact tracked.bought old stored

theorem Member.Tracked.mark (now : Int) : (member.mark now).Tracked upgraded original := by
  refine ⟨tracked.group, ?_⟩
  intro other marked
  obtain ⟨old, stored, rfl⟩ := mem_map.mp marked
  exact (tracked.bought old stored).expireIfDue now member.userId

end

theorem lastEnded_mem {subs : List UserSubscription} {last : UserSubscription}
    (found : lastEnded now subs = some last) : last ∈ subs :=
  (mem_filter.mp (lastToEnd_mem found)).1

theorem Member.restored_buy (active : sub.status = .active) : (member.buy sub).Restored original :=
  fun ended => absurd active (ended sub (by simp [Member.buy]))

theorem Member.cancel_ended_iff (member : Member) (now : Int) (sub : UserSubscription) :
    (∀ other ∈ (member.cancel now sub).subs, other.status ≠ .active) ↔
      ∀ other ∈ member.subs, other.id ≠ sub.id → other.status ≠ .active := by
  unfold Member.cancel
  rw [forall_mem_map]
  refine forall₂_congr fun other _ => ?_
  by_cases same : other.id = sub.id <;> simp [same, UserSubscription.cancel]

theorem Member.mark_ended_iff (owners : ∀ sub ∈ member.subs, sub.userId = member.userId) (now : Int) :
    (∀ sub ∈ (member.mark now).subs, sub.status ≠ .active) ↔
      ∀ sub ∈ member.subs, sub.status = .active → Due now sub = true := by
  unfold Member.mark
  rw [forall_mem_map]
  refine forall₂_congr fun sub mem => ?_
  by_cases due : Due now sub = true
  · simp [expireIfDue, owners sub mem, due]
  · simp [expireIfDue, due]

variable (tracked : member.Tracked upgraded original) (named : upgraded ≠ "") (trimmed : trimSpace original = original)
include tracked named trimmed

section
variable (bought : Bought upgraded original sub)
include bought

theorem Member.leave_group (free : ¬(member.subs.any (holdsGroup now member.userId) = true)) :
    (member.leave now sub).group = if sub.prevUserGroup = "" then member.group else original := by
  unfold Member.leave
  rw [if_neg free, groupAfterExpiry_bought named trimmed bought]
  by_cases none : sub.prevUserGroup = ""
  · simp [none]
  have remembered := bought.previous.resolve_left none
  have nonempty : original ≠ "" := remembered.1 ▸ none
  rcases tracked.group with back | elevated
  · simp [none, back, remembered.2]
  · simp [none, elevated, nonempty]

theorem Member.Tracked.leave (now : Int) : (member.leave now sub).Tracked upgraded original := by
  refine ⟨?_, by simpa using tracked.bought⟩
  by_cases held : member.subs.any (holdsGroup now member.userId) = true
  · simpa [Member.leave, held] using tracked.group
  · grind [Member.leave_group, tracked.group]

theorem Member.restored_leave_iff (now : Int) :
    (member.leave now sub).Restored original ↔
      ((∀ sub ∈ member.subs, sub.status ≠ .active) → member.group ≠ original → sub.prevUserGroup ≠ "") := by
  unfold Member.Restored
  rw [Member.leave_subs]
  refine imp_congr_right fun ended => ?_
  rw [Member.leave_group tracked named trimmed bought (not_holdsGroup ended)]
  by_cases none : sub.prevUserGroup = "" <;> simp [none]

end

theorem Member.Tracked.invalidate (mem : sub ∈ member.subs) (now : Int) :
    (member.invalidate now sub).Tracked upgraded original :=
  (tracked.cancel mem now).leave named trimmed ((tracked.bought sub mem).cancel now) now

theorem Member.Tracked.expire (now : Int) : (member.expire now).Tracked upgraded original := by
  unfold Member.expire
  cases found : lastEnded now member.subs with
  | none => exact tracked.mark now
  | some last => exact (tracked.mark now).leave named trimmed (tracked.bought last (lastEnded_mem found)) now

theorem Member.restored_invalidate_iff (mem : sub ∈ member.subs) (now : Int) :
    (member.invalidate now sub).Restored original ↔
      ((∀ other ∈ member.subs, other.id ≠ sub.id → other.status ≠ .active) → member.group ≠ original →
        sub.prevUserGroup ≠ "") := by
  unfold Member.invalidate
  rw [Member.restored_leave_iff (tracked.cancel mem now) named trimmed ((tracked.bought sub mem).cancel now) now,
    Member.cancel_ended_iff]
  rfl

theorem Member.restored_expire_iff (owners : ∀ sub ∈ member.subs, sub.userId = member.userId)
    (due : ∃ sub ∈ member.subs, Due now sub = true) :
    (member.expire now).Restored original ↔
      ((∀ sub ∈ member.subs, sub.status = .active → Due now sub = true) → member.group ≠ original →
        ∀ last, lastEnded now member.subs = some last → last.prevUserGroup ≠ "") := by
  obtain ⟨sub, mem, isDue⟩ := due
  have defines : definesGroup sub = true := by
    simp [definesGroup, (tracked.bought sub mem).upgrade, named]
  obtain ⟨last, found⟩ : ∃ last, lastEnded now member.subs = some last :=
    lastToEnd_isSome (mem_filter.mpr ⟨mem, by simp [isDue, defines]⟩)
  unfold Member.expire
  rw [found]
  dsimp only
  rw [Member.restored_leave_iff (tracked.mark now) named trimmed (tracked.bought last (lastEnded_mem found)) now,
    Member.mark_ended_iff owners]
  refine imp_congr_right fun _ => imp_congr_right fun _ => ?_
  simp

end

inductive GroupStep where
  | create (userId : Int) (plan : SubscriptionPlan)
  | expireDue (limit : Int)
  | invalidate (userSubscriptionId : Int)
  | clock (now : Int)

def applyGroupStep (db : DB) : GroupStep → DB
  | .create userId plan => (createUserSubscriptionFromPlan db userId plan).2
  | .expireDue limit => (expireDueSubscriptions db limit).2
  | .invalidate id => (adminInvalidateUserSubscription db id).2
  | .clock now => { db with now }

def BuysGroup (userId : Int) (upgraded : String) : GroupStep → Prop
  | .create buyer plan =>
    buyer = userId → trimSpace plan.upgradeGroup = upgraded ∧ trimSpace plan.downgradeGroup = ""
  | _ => True

def DB.userGroup (db : DB) (userId : Int) : Option String := (db.users.find userId).map User.group

def GroupRestored (userId : Int) (original : String) (db : DB) : Prop :=
  (∀ sub ∈ db.subscriptionsOf userId, sub.status ≠ .active) → db.userGroup userId = some original

/-- The end of the last active subscription asks its own group on invalidation, that of the last to end on expiry. -/
def SnapshotHeld (userId : Int) (original : String) (db : DB) : GroupStep → Prop
  | .create _ _ => True
  | .clock _ => True
  | .invalidate id => ∀ sub, db.userSubscriptions.find id = some sub → sub.userId = userId →
      (∀ other ∈ db.subscriptionsOf userId, other.id ≠ id → other.status ≠ .active) →
      db.userGroup userId ≠ some original → sub.prevUserGroup ≠ ""
  | .expireDue limit => userId ∈ dueUserIds db limit →
      (∀ sub ∈ db.subscriptionsOf userId, sub.status = .active → Due db.now sub = true) →
      db.userGroup userId ≠ some original →
      ∀ last, lastEnded db.now (db.subscriptionsOf userId) = some last → last.prevUserGroup ≠ ""

theorem DB.Shows.userGroup (shows : db.Shows member) : db.userGroup member.userId = some member.group := by
  obtain ⟨user, found, _, group⟩ := shows.user
  simp [DB.userGroup, found, group]

theorem DB.Shows.restored_iff (shows : db.Shows member) (original : String) :
    GroupRestored member.userId original db ↔ member.Restored original := by
  unfold GroupRestored Member.Restored
  rw [shows.subs, shows.userGroup, Option.some.injEq]

section
variable {userId : Int} {upgraded original : String}

theorem newSubscription_bought (tracked : member.Tracked upgraded original)
    {plan : SubscriptionPlan} (upgrade : trimSpace plan.upgradeGroup = upgraded)
    (downgrade : trimSpace plan.downgradeGroup = "") (db : DB) (endTime : Int) :
    Bought upgraded original (newSubscription db.zone db.now db.userSubscriptions member.userId plan endTime
      (if trimSpace plan.upgradeGroup = "" ∨ member.group = trimSpace plan.upgradeGroup then ""
        else member.group)) := by
  refine ⟨upgrade, ?_, ?_, ?_⟩
  · rw [← upgrade, trimSpace_trimSpace]
  · show trimSpace (trimSpace plan.downgradeGroup) = ""
    rw [trimSpace_trimSpace, downgrade]
  show (if trimSpace plan.upgradeGroup = "" ∨ member.group = trimSpace plan.upgradeGroup then ""
      else member.group) = "" ∨ _
  rw [upgrade]
  split
  · exact .inl rfl
  · rename_i elsewhere
    obtain ⟨_, ne⟩ := not_or.mp elsewhere
    have start := tracked.group.resolve_right ne
    exact .inr ⟨start, start ▸ ne⟩

structure Stepped (userId : Int) (upgraded original : String) (db : DB) (step : GroupStep) (member : Member) :
    Prop where
  user : member.userId = userId
  shows : (applyGroupStep db step).Shows member
  tracked : member.Tracked upgraded original
  restored_iff : member.Restored original ↔ SnapshotHeld userId original db step

section
variable (shows : db.Shows member) (tracked : member.Tracked upgraded original) (restored : member.Restored original)
include shows tracked restored

theorem stepped_create {buyer : Int} {plan : SubscriptionPlan} (buys : BuysGroup member.userId upgraded (.create buyer plan)) :
    ∃ after, Stepped member.userId upgraded original db (.create buyer plan) after := by
  by_cases own : buyer = member.userId
  · subst own
    obtain ⟨upgrade, downgrade⟩ := buys rfl
    rcases shows.create plan with same | ⟨endTime, shown⟩
    · refine ⟨member, rfl, ?_, tracked, iff_of_true restored trivial⟩
      show (createUserSubscriptionFromPlan db member.userId plan).2.Shows member
      rwa [same]
    · exact ⟨member.buy _, rfl, shown, tracked.buy (newSubscription_bought tracked upgrade downgrade db endTime),
        iff_of_true (Member.restored_buy rfl) trivial⟩
  · exact ⟨member, rfl, shows.createOther own plan, tracked, iff_of_true restored trivial⟩

variable (positive : 0 < member.userId) (named : upgraded ≠ "") (trimmed : trimSpace original = original)
include positive named trimmed

theorem stepped_invalidate (id : Int) :
    ∃ after, Stepped member.userId upgraded original db (.invalidate id) after := by
  by_cases own : ∃ sub, db.userSubscriptions.find id = some sub ∧ sub.userId = member.userId
  · obtain ⟨sub, found, owner⟩ := own
    have mem : sub ∈ member.subs := by
      rw [← shows.subs]
      exact DB.mem_subscriptionsOf.mpr ⟨Table.mem_of_find found, owner⟩
    have same : sub.id = id := Table.key_of_find found
    refine ⟨member.invalidate db.now sub, Member.leave_userId _ _ _, shows.invalidate positive found owner,
      tracked.invalidate named trimmed mem db.now, ?_⟩
    rw [Member.restored_invalidate_iff tracked named trimmed mem db.now]
    simp only [SnapshotHeld, found, Option.some.injEq, forall_eq', owner, forall_const, shows.subs,
      shows.userGroup, same, ne_eq]
  · have other : ∀ sub, db.userSubscriptions.find id = some sub → sub.userId ≠ member.userId :=
      fun sub found owner => own ⟨sub, found, owner⟩
    exact ⟨member, rfl, shows.invalidateOther other, tracked,
      iff_of_true restored fun sub found owner => absurd owner (other sub found)⟩

theorem stepped_expireDue (limit : Int) :
    ∃ after, Stepped member.userId upgraded original db (.expireDue limit) after := by
  have shown := shows.expireDue positive limit
  by_cases picked : member.userId ∈ dueUserIds db limit
  · rw [if_pos picked] at shown
    refine ⟨member.expire db.now, Member.expire_userId _ _, shown, tracked.expire named trimmed db.now, ?_⟩
    rw [Member.restored_expire_iff tracked named trimmed (fun _ mem => shows.owner mem)
      (due_of_mem_dueUserIds shows picked)]
    simp only [SnapshotHeld, picked, forall_const, shows.subs, shows.userGroup, Option.some.injEq, ne_eq]
  · rw [if_neg picked] at shown
    exact ⟨member, rfl, shown, tracked, iff_of_true restored fun mem => absurd mem picked⟩

theorem stepped (step : GroupStep) (buys : BuysGroup member.userId upgraded step) :
    ∃ after, Stepped member.userId upgraded original db step after := by
  cases step with
  | create buyer plan => exact stepped_create shows tracked restored buys
  | expireDue limit => exact stepped_expireDue shows tracked restored positive named trimmed limit
  | invalidate id => exact stepped_invalidate shows tracked restored positive named trimmed id
  | clock now => exact ⟨member, rfl, shows.frame rfl rfl, tracked, iff_of_true restored trivial⟩

end

def GroupInvariant (userId : Int) (upgraded original : String) (db : DB) : Prop :=
  ∃ member : Member, member.userId = userId ∧ db.Shows member ∧ member.Tracked upgraded original ∧
    member.Restored original

section
variable (inv : GroupInvariant userId upgraded original db)
include inv

theorem GroupInvariant.restored : GroupRestored userId original db := by
  obtain ⟨member, rfl, shows, _, restored⟩ := inv
  exact (shows.restored_iff original).mpr restored

variable (positive : 0 < userId) (named : upgraded ≠ "") (trimmed : trimSpace original = original)
  {action : GroupStep} (buys : BuysGroup userId upgraded action)
include positive named trimmed buys

theorem GroupInvariant.step_iff :
    GroupRestored userId original (applyGroupStep db action) ↔ SnapshotHeld userId original db action := by
  obtain ⟨member, rfl, shows, tracked, restored⟩ := inv
  obtain ⟨after, res⟩ := stepped shows tracked restored positive named trimmed action buys
  rw [← res.restored_iff, ← res.user, res.shows.restored_iff]

theorem GroupInvariant.step (held : SnapshotHeld userId original db action) :
    GroupInvariant userId upgraded original (applyGroupStep db action) := by
  obtain ⟨member, rfl, shows, tracked, restored⟩ := inv
  obtain ⟨after, res⟩ := stepped shows tracked restored positive named trimmed action buys
  exact ⟨after, res.user, res.shows, res.tracked, res.restored_iff.mpr held⟩

end

structure Unsubscribed (userId : Int) (original : String) (db : DB) : Prop where
  positive : 0 < userId
  user : ∃ user, db.users.find userId = some user ∧ user.deleted = false ∧ user.group = original
  subs : db.subscriptionsOf userId = []

theorem Unsubscribed.invariant (start : Unsubscribed userId original db) (upgraded : String) :
    GroupInvariant userId upgraded original db :=
  ⟨⟨userId, original, []⟩, rfl, ⟨start.user, start.subs⟩, ⟨.inl rfl, by simp⟩, fun _ => rfl⟩

theorem subscription_group_restored {start : DB} (unsubscribed : Unsubscribed userId original start)
    (named : upgraded ≠ "") (trimmed : trimSpace original = original) {steps : List GroupStep}
    (allowed : Guarded applyGroupStep
      (fun db step => BuysGroup userId upgraded step ∧ SnapshotHeld userId original db step) start steps) :
    GroupRestored userId original (runSteps applyGroupStep start steps) ∧ ∀ step, BuysGroup userId upgraded step →
        (GroupRestored userId original (applyGroupStep (runSteps applyGroupStep start steps) step) ↔
          SnapshotHeld userId original (runSteps applyGroupStep start steps) step) := by
  have reached : GroupInvariant userId upgraded original (runSteps applyGroupStep start steps) :=
    runSteps_invariant (fun _ _ inv guard => inv.step unsubscribed.positive named trimmed guard.1 guard.2) steps
      start (unsubscribed.invariant upgraded) allowed
  exact ⟨reached.restored, fun step buys => reached.step_iff unsubscribed.positive named trimmed buys⟩

end

def plusPlan (days : Int) : SubscriptionPlan :=
  { id := 1, durationUnit := .day, durationValue := days, customSeconds := 0, allowWalletOverflow := none,
    maxPurchasePerUser := 0, upgradeGroup := "plus", downgradeGroup := "", totalAmount := 50,
    quotaResetPeriod := "never", quotaResetCustomSeconds := 0 }

def afterDays (days : Int) : GroupStep := .clock (1000 + days * 86400)

def nestedPlans : List GroupStep :=
  [.create 1 (plusPlan 30), .create 1 (plusPlan 1), afterDays 2, .expireDue 0, afterDays 31]

theorem subscription_group_restored_nested :
    GroupRestored 1 "default" (runSteps applyGroupStep (DB.single 100) (nestedPlans ++ [.expireDue 0])) := by
  have unsubscribed : Unsubscribed 1 "default" (DB.single 100) := ⟨by decide, ⟨_, rfl, rfl, rfl⟩, by decide⟩
  have longActive : ¬∀ sub ∈ (runSteps applyGroupStep (DB.single 100) (nestedPlans.take 3)).subscriptionsOf 1,
      sub.status = .active → Due (1000 + 2 * 86400) sub = true := by decide
  have longAsked : (lastEnded (1000 + 31 * 86400)
      ((runSteps applyGroupStep (DB.single 100) nestedPlans).subscriptionsOf 1)).map UserSubscription.prevUserGroup =
      some "default" := by decide
  have remembered : ∀ last, lastEnded (1000 + 31 * 86400)
      ((runSteps applyGroupStep (DB.single 100) nestedPlans).subscriptionsOf 1) = some last →
      last.prevUserGroup ≠ "" := by
    intro last found
    rw [found] at longAsked
    rw [Option.some.inj longAsked]
    decide
  have buys : ∀ days, BuysGroup 1 "plus" (.create 1 (plusPlan days)) := fun _ _ =>
    ⟨(by decide : trimSpace "plus" = "plus"), (by decide : trimSpace "" = "")⟩
  have allowed : Guarded applyGroupStep
      (fun db step => BuysGroup 1 "plus" step ∧ SnapshotHeld 1 "default" db step) (DB.single 100)
      (nestedPlans ++ [.expireDue 0]) :=
    ⟨⟨buys 30, trivial⟩, ⟨buys 1, trivial⟩, ⟨trivial, trivial⟩,
      ⟨trivial, fun _ ended => absurd ended longActive⟩, ⟨trivial, trivial⟩,
      ⟨trivial, fun _ _ _ => remembered⟩, trivial⟩
  exact (subscription_group_restored unsubscribed (by decide) (by decide) allowed).1

theorem renewal_keeps_upgraded_group :
    let db := runSteps applyGroupStep (DB.single 100)
      [.create 1 (plusPlan 30), afterDays 20, .create 1 (plusPlan 30), afterDays 31, .expireDue 0, afterDays 51,
        .expireDue 0]
    (DB.single 100).userGroup 1 = some "default" ∧ (db.subscriptionsOf 1).map (·.status) = [.expired, .expired] ∧
      (db.subscriptionsOf 1).map (·.prevUserGroup) = ["default", ""] ∧
      db.userGroup 1 = some "plus" := by
  decide

end Wildflow.Billing
