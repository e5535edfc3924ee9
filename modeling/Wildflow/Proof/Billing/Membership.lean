import Mathlib.Data.List.Dedup
import Mathlib.Data.List.DropRight
import Wildflow.Billing.SubscriptionGroup
import Wildflow.Proof.Billing.Subscription
import Wildflow.Store.Run

/-!
# Membership of a user group

`Member` is the group and the subscriptions of one user. Each operation is one of three moves on it (buying, leaving by
an invalidation, leaving by expiry) and no move for anybody else.
-/

namespace Wildflow.Billing
open Wildflow.Store Tx Table List
variable {db db' : DB} {now userId : Int} {member : Member} {sub last : UserSubscription}
  {subs : List UserSubscription}

theorem dropWhile_rdropWhile_dropWhile {α : Type} (p : α → Bool) (xs : List α) :
    ((xs.dropWhile p).rdropWhile p).dropWhile p = (xs.dropWhile p).rdropWhile p := by
  rw [dropWhile_eq_self_iff]
  intro nonempty first
  have kept := rdropWhile_prefix p (xs.dropWhile p)
  have same := kept.getElem nonempty
  have idempotent := dropWhile_idempotent (p := p) (l := xs)
  rw [dropWhile_eq_self_iff] at idempotent
  apply idempotent (nonempty.trans_le kept.length_le)
  simpa [same] using first

theorem trimSpace_trimSpace (text : String) : trimSpace (trimSpace text) = trimSpace text := by
  have trimmed : ∀ chars : List Char, ((chars.dropWhile isSpace).reverse.dropWhile isSpace).reverse =
      (chars.dropWhile isSpace).rdropWhile isSpace := fun _ => rfl
  unfold trimSpace
  rw [String.toList_ofList, trimmed, trimmed, dropWhile_rdropWhile_dropWhile, rdropWhile_idempotent]

structure Member where
  userId : Int
  group : String
  subs : List UserSubscription

def DB.subscriptionsOf (db : DB) (userId : Int) : List UserSubscription :=
  db.userSubscriptions.rows.filter fun sub => sub.userId = userId

structure DB.Shows (db : DB) (member : Member) : Prop where
  user : ∃ user, db.users.find member.userId = some user ∧ user.deleted = false ∧ user.group = member.group
  subs : db.subscriptionsOf member.userId = member.subs

theorem DB.mem_subscriptionsOf :
    sub ∈ db.subscriptionsOf userId ↔ sub ∈ db.userSubscriptions.rows ∧ sub.userId = userId := by
  simp [DB.subscriptionsOf]

def DB.setUserGroup (db : DB) (userId : Int) (group : String) : DB :=
  { db with users :=
      (db.users.updateWhere userId (fun user => !user.deleted) fun user => { user with group }).1 }

theorem setUserGroupTx_run (db : DB) (userId : Int) (group : String) :
    (setUserGroupTx userId group).run db = .ok ((), db.setUserGroup userId group) := by
  simp [setUserGroupTx, updateUser, DB.setUserGroup]

theorem find_setUserGroup (db : DB) (userId : Int) (group : String) (v : Int) :
    (db.setUserGroup userId group).users.find v =
      (db.users.find v).map fun user => if v = userId ∧ user.deleted = false then { user with group } else user := by
  have keyed : ∀ user : User, ({ user with group } : User).id = user.id := fun _ => rfl
  simp [DB.setUserGroup, find_updateWhere db.users userId _ keyed]

def Member.buy (member : Member) (sub : UserSubscription) : Member :=
  { member with group := if sub.upgradeGroup = "" then member.group else sub.upgradeGroup
                subs := member.subs ++ [sub] }

section
variable (member : Member) (now : Int) (sub : UserSubscription)

/-- The group after `sub` ended, kept while another subscription holds it or when `sub` names none. -/
def Member.leave : Member :=
  if member.subs.any (holdsGroup now member.userId) then member
  else if groupAfterExpiry sub member.group = "" then member
  else { member with group := groupAfterExpiry sub member.group }

def Member.cancel : Member :=
  { member with subs := member.subs.map fun old => if old.id = sub.id then sub.cancel now else old }

def Member.invalidate : Member :=
  (member.cancel now sub).leave now (sub.cancel now)

def lastEnded (now : Int) (subs : List UserSubscription) : Option UserSubscription :=
  lastToEnd (subs.filter fun sub => (sub.status = .expired ∨ Due now sub) ∧ definesGroup sub)

def Member.mark : Member :=
  { member with subs := member.subs.map (expireIfDue now member.userId) }

def Member.expire : Member :=
  match lastEnded now member.subs with
  | none => member.mark now
  | some last => (member.mark now).leave now last

@[simp] theorem Member.leave_subs : (member.leave now sub).subs = member.subs := by
  unfold Member.leave
  split
  · rfl
  · split <;> rfl

@[simp] theorem Member.leave_userId : (member.leave now sub).userId = member.userId := by
  unfold Member.leave
  split
  · rfl
  · split <;> rfl

@[simp] theorem Member.expire_userId : (member.expire now).userId = member.userId := by
  unfold Member.expire
  split
  · rfl
  · exact Member.leave_userId _ now _

end

theorem find_nextSubscriptionId (t : Table UserSubscription.id) : t.find (nextSubscriptionId t) = none :=
  find_past_keys t

theorem getUserGroupByIdTx_frame {group : String}
    (ran : (getUserGroupByIdTx userId).run db = .ok (group, db')) : db' = db := by
  unfold getUserGroupByIdTx at ran
  split at ran
  · simp at ran
  · simp only [run_bind_ok, run_read_ok, run_pure_ok] at ran
    obtain ⟨_, _, ⟨_, rfl⟩, _, rfl⟩ := ran
    rfl

theorem upgradeUserGroupTx_ok {group prev : String}
    (ran : (upgradeUserGroupTx userId group).run db = .ok (prev, db')) :
    db' = db ∨ db' = db.setUserGroup userId group := by
  unfold upgradeUserGroupTx at ran
  split at ran
  · exact .inl (run_pure_ok.mp ran).2.symm
  obtain ⟨cur, between, asked, rest⟩ := run_bind_ok.mp ran
  cases getUserGroupByIdTx_frame asked
  split at rest
  · exact .inl (run_pure_ok.mp rest).2.symm
  · rw [run_bind_of_ok (setUserGroupTx_run db userId group)] at rest
    simp only [run_pure_ok] at rest
    exact .inr rest.2.symm

theorem createUserSubscriptionFromPlanTx_ok {plan : SubscriptionPlan}
    (ran : (createUserSubscriptionFromPlanTx userId plan).run db = .ok (sub, db')) :
    0 < userId ∧ ∃ endTime prev upgraded,
      (upgradeUserGroupTx userId (trimSpace plan.upgradeGroup)).run db = .ok (prev, upgraded) ∧
      sub = newSubscription db.zone db.now db.userSubscriptions userId plan endTime prev ∧
      db' = upgraded.putSubscription sub := by
  simp only [createUserSubscriptionFromPlanTx, run_bind_ok, run_ensure_ok, run_read_ok] at ran
  obtain ⟨_, _, ⟨_, rfl⟩, _, _, ⟨pos, rfl⟩, _, _, ⟨rfl, rfl⟩, _, _, ⟨_, rfl⟩, rest⟩ := ran
  refine ⟨pos, ?_⟩
  split at rest
  · simp at rest
  rename_i endTime _
  simp only [run_bind_ok, saveUserSubscription_run, run_pure_ok] at rest
  obtain ⟨prev, upgraded, ran, _, _, saved, rfl, rfl⟩ := rest
  cases saved
  exact ⟨endTime, prev, upgraded, ran, rfl, rfl⟩

theorem groupAfterExpiry_eq {cur : String}
    (moves : ¬(trimSpace sub.downgradeGroup = "" ∧ trimSpace sub.upgradeGroup = "")) :
    groupAfterExpiry sub cur = if trimSpace sub.downgradeGroup = "" ∧ cur ≠ trimSpace sub.upgradeGroup then ""
      else if trimSpace sub.downgradeGroup = "" then trimSpace sub.prevUserGroup
      else trimSpace sub.downgradeGroup := by
  unfold groupAfterExpiry
  by_cases downgrade : trimSpace sub.downgradeGroup = ""
  · have upgrade : trimSpace sub.upgradeGroup ≠ "" := fun empty => moves ⟨downgrade, empty⟩
    by_cases prev : trimSpace sub.prevUserGroup = "" <;> simp [downgrade, upgrade, prev]
  · simp [downgrade]

theorem downgradeUserGroupForSubscriptionTx_frame
    {target : String} (ran : (downgradeUserGroupForSubscriptionTx sub now).run db = .ok (target, db')) :
    db' = db ∨ ∃ group, db' = db.setUserGroup sub.userId group := by
  unfold downgradeUserGroupForSubscriptionTx at ran
  dsimp only at ran
  split at ran
  · exact .inl (run_pure_ok.mp ran).2.symm
  obtain ⟨cur, between, asked, rest⟩ := run_bind_ok.mp ran
  cases getUserGroupByIdTx_frame asked
  rw [run_bind_of_ok (run_read db)] at rest
  split at rest
  · exact .inl (run_pure_ok.mp rest).2.symm
  split at rest
  · exact .inl (run_pure_ok.mp rest).2.symm
  generalize (if trimSpace sub.downgradeGroup = "" then trimSpace sub.prevUserGroup
    else trimSpace sub.downgradeGroup) = group at rest
  split at rest
  · exact .inl (run_pure_ok.mp rest).2.symm
  · simp only [run_bind_ok, setUserGroupTx_run, run_pure_ok] at rest
    obtain ⟨_, _, moved, _, rfl⟩ := rest
    cases moved
    exact .inr ⟨_, rfl⟩

theorem leaveExpiredGroupTx_frame (db : DB) (now : Int) (pos : 0 < userId) :
    ∃ after, (leaveExpiredGroupTx now userId).run db = .ok ((), after) ∧
      (after = db ∨ ∃ group, after = db.setUserGroup userId group) := by
  unfold leaveExpiredGroupTx
  rw [run_bind_of_ok (run_read db)]
  split
  · exact ⟨db, rfl, .inl rfl⟩
  split
  · exact ⟨db, rfl, .inl rfl⟩
  rename_i last _
  have asked : ∃ group, (getUserGroupByIdTx userId).run db = .ok (group, db) := by
    simp [getUserGroupByIdTx, not_le.mpr pos]
  obtain ⟨group, asked⟩ := asked
  rw [run_bind_of_ok asked]
  dsimp only
  split
  · exact ⟨db, rfl, .inl rfl⟩
  · exact ⟨_, setUserGroupTx_run db userId _, .inr ⟨_, rfl⟩⟩

theorem expireUserTx_run {after : DB}
    (left : (leaveExpiredGroupTx now userId).run (db.expireFor now userId) = .ok ((), after)) :
    ∃ count, (expireUserTx now userId).run db = .ok (count, after) := by
  simp only [expireUserTx, run_bind_ok, run_read_ok, run_write_ok, run_pure_ok]
  exact ⟨_, db, db, ⟨rfl, rfl⟩, (), _, rfl, (), after, left, rfl, rfl⟩

@[simp] theorem expireIfDue_userId (now userId : Int) (sub : UserSubscription) :
    (expireIfDue now userId sub).userId = sub.userId := by
  unfold expireIfDue
  split <;> rfl

theorem subscriptionsOf_expireFor (db : DB) (now userId v : Int) :
    (db.expireFor now userId).subscriptionsOf v = (db.subscriptionsOf v).map (expireIfDue now userId) := by
  show (db.userSubscriptions.rows.map (expireIfDue now userId)).filter _ = _
  rw [filter_map]
  congr 1
  apply filter_congr
  intro sub _
  simp

theorem lastToEnd_mem (found : lastToEnd subs = some last) : last ∈ subs := by
  have first := mem_of_head? found
  rwa [mem_insertionSort] at first

theorem lastToEnd_isSome (mem : sub ∈ subs) : ∃ last, lastToEnd subs = some last := by
  cases found : lastToEnd subs with
  | some last => exact ⟨last, rfl⟩
  | none =>
    have empty := head?_eq_none_iff.mp found
    rw [← mem_insertionSort (fun a b => EndsBefore b a), empty] at mem
    cases mem

theorem lastToEnd_map_expireIfDue (now userId : Int) (subs : List UserSubscription) :
    lastToEnd (subs.map (expireIfDue now userId)) = (lastToEnd subs).map (expireIfDue now userId) := by
  have endTime : ∀ sub, (expireIfDue now userId sub).endTime = sub.endTime := by
    intro sub
    unfold expireIfDue
    split <;> rfl
  unfold lastToEnd
  rw [← map_insertionSort (fun a b => EndsBefore b a), head?_map]
  intro a _ b _
  simp only [EndsBefore, endTime, expireIfDue_id]

theorem groupAfterExpiry_expireIfDue (now userId : Int) (sub : UserSubscription) (current : String) :
    groupAfterExpiry (expireIfDue now userId sub) current = groupAfterExpiry sub current := by
  unfold expireIfDue
  split <;> rfl

namespace DB.Shows
variable (shows : db.Shows member)
include shows

theorem owner (mem : sub ∈ member.subs) : sub.userId = member.userId := by
  rw [← shows.subs] at mem
  exact (DB.mem_subscriptionsOf.mp mem).2

theorem frame (users : db'.users.find member.userId = db.users.find member.userId)
    (subs : db'.subscriptionsOf member.userId = db.subscriptionsOf member.userId) : db'.Shows member :=
  ⟨users ▸ shows.user, subs.trans shows.subs⟩

theorem setUserGroup (group : String) : (db.setUserGroup member.userId group).Shows { member with group } := by
  obtain ⟨user, found, live, _⟩ := shows.user
  refine ⟨⟨{ user with group }, ?_, live, rfl⟩, shows.subs⟩
  rw [find_setUserGroup, found]
  simp [live]

theorem setOtherGroup (other : userId ≠ member.userId) (group : String) :
    (db.setUserGroup userId group).Shows member := by
  refine shows.frame ?_ rfl
  rw [find_setUserGroup]
  simp [Ne.symm other]

theorem getUserGroup (pos : 0 < member.userId) :
    (getUserGroupByIdTx member.userId).run db = .ok (member.group, db) := by
  obtain ⟨user, found, live, group⟩ := shows.user
  simp [getUserGroupByIdTx, not_le.mpr pos, found, Option.filter, live, group]

theorem putOther (other : sub.userId ≠ member.userId)
    (before : ∀ old, db.userSubscriptions.find sub.id = some old → old.userId ≠ member.userId) :
    (db.putSubscription sub).Shows member := by
  refine shows.frame rfl ((filter_put (by simpa using other)).trans (filter_eq_self.mpr ?_))
  intro old member
  obtain ⟨stored, owned⟩ := mem_filter.mp member
  refine decide_eq_true fun same => before old ?_ (by simpa using owned)
  exact same ▸ find_of_mem stored

theorem upgrade (pos : 0 < member.userId) (group : String) :
    ∃ db', (upgradeUserGroupTx member.userId group).run db =
        .ok (if group = "" ∨ member.group = group then "" else member.group, db') ∧
      db'.userSubscriptions = db.userSubscriptions ∧
      db'.Shows { member with group := if group = "" then member.group else group } := by
  unfold upgradeUserGroupTx
  by_cases unnamed : group = ""
  · exact ⟨db, by simp [unnamed], rfl, by simpa [unnamed] using shows⟩
  rw [if_neg unnamed, run_bind_of_ok (shows.getUserGroup pos)]
  by_cases same : member.group = group
  · refine ⟨db, by simp [same], rfl, ?_⟩
    have unchanged : { member with group := if group = "" then member.group else group } = member := by
      simp [← same]
    rw [unchanged]
    exact shows
  · refine ⟨db.setUserGroup member.userId group, ?_, rfl, ?_⟩
    · simp [same, unnamed, setUserGroupTx_run]
    · simpa [unnamed] using shows.setUserGroup group

theorem create (plan : SubscriptionPlan) :
    (createUserSubscriptionFromPlan db member.userId plan).2 = db ∨ ∃ endTime,
        let sub := newSubscription db.zone db.now db.userSubscriptions member.userId plan endTime
          (if trimSpace plan.upgradeGroup = "" ∨ member.group = trimSpace plan.upgradeGroup then ""
            else member.group)
        (createUserSubscriptionFromPlan db member.userId plan).2.Shows (member.buy sub) := by
  unfold createUserSubscriptionFromPlan
  refine commit_elim (commit _ db) rfl (fun _ => .inl rfl) fun sub after ran => ?_
  obtain ⟨pos, endTime, prev, upgraded, moved, new, rfl⟩ := createUserSubscriptionFromPlanTx_ok ran
  obtain ⟨db', upgrade, kept, shown⟩ := shows.upgrade pos (trimSpace plan.upgradeGroup)
  rw [upgrade] at moved
  cases moved
  refine .inr ⟨endTime, ?_⟩
  dsimp only
  rw [← new]
  have fresh : upgraded.userSubscriptions.find sub.id = none := by
    rw [kept, new]
    exact find_nextSubscriptionId db.userSubscriptions
  have owner : sub.userId = member.userId := by rw [new]; rfl
  have group : sub.upgradeGroup = trimSpace plan.upgradeGroup := by rw [new]; rfl
  refine ⟨?_, ?_⟩
  · simp only [Member.buy, group]
    exact shown.user
  · have new : [sub].filter (fun old => old.userId = member.userId) = [sub] := by simp [owner]
    show ((upgraded.userSubscriptions.put sub).rows.filter fun old => old.userId = member.userId) = _
    rw [rows_put_of_fresh fresh, filter_append, new]
    exact congrArg (· ++ [sub]) shown.subs

theorem createOther (other : userId ≠ member.userId) (plan : SubscriptionPlan) :
    (createUserSubscriptionFromPlan db userId plan).2.Shows member := by
  unfold createUserSubscriptionFromPlan
  refine commit_elim (commit _ db) rfl (fun _ => shows) fun sub after ran => ?_
  obtain ⟨_, endTime, prev, upgraded, moved, new, rfl⟩ := createUserSubscriptionFromPlanTx_ok ran
  have shown : upgraded.Shows member ∧ upgraded.userSubscriptions = db.userSubscriptions := by
    rcases upgradeUserGroupTx_ok moved with rfl | rfl
    · exact ⟨shows, rfl⟩
    · exact ⟨shows.setOtherGroup other _, rfl⟩
  refine shown.1.putOther (by rw [new]; exact other) ?_
  intro old found
  rw [shown.2, new] at found
  exact absurd (found.symm.trans (find_nextSubscriptionId db.userSubscriptions)) (by simp)

theorem any_holdsGroup (now : Int) :
    db.userSubscriptions.rows.any (holdsGroup now member.userId) =
      member.subs.any (holdsGroup now member.userId) := by
  rw [← shows.subs, DB.subscriptionsOf, any_filter]
  congr 1
  funext sub
  by_cases own : sub.userId = member.userId <;> simp [holdsGroup, own]

theorem downgrade (now : Int) (sub : UserSubscription) (own : sub.userId = member.userId) (pos : 0 < member.userId)
    (stored : db.userSubscriptions.find sub.id = some sub) (ended : sub.status ≠ .active) :
    ∃ target db', (downgradeUserGroupForSubscriptionTx sub now).run db = .ok (target, db') ∧
      db'.Shows (member.leave now sub) := by
  have held : (db.userSubscriptions.rows.any fun other =>
      holdsGroup now member.userId other && decide (other.id ≠ sub.id)) =
      member.subs.any (holdsGroup now member.userId) := by
    rw [← shows.any_holdsGroup, Bool.eq_iff_iff, any_eq_true, any_eq_true]
    apply exists_congr
    intro other
    refine and_congr_right fun mem => ?_
    have apart : holdsGroup now member.userId other = true → other.id ≠ sub.id := by
      intro holds same
      have found := find_of_mem mem
      rw [same, stored] at found
      rw [← Option.some.inj found] at holds
      simp [holdsGroup, ended] at holds
    simpa using apart
  unfold downgradeUserGroupForSubscriptionTx Member.leave
  dsimp only
  by_cases still : trimSpace sub.downgradeGroup = "" ∧ trimSpace sub.upgradeGroup = ""
  · have nowhere : groupAfterExpiry sub member.group = "" := by simp [groupAfterExpiry, still]
    rw [if_pos still, nowhere]
    exact ⟨"", db, rfl, by simpa using shows⟩
  · rw [if_neg still, own, run_bind_of_ok (shows.getUserGroup pos), run_bind_of_ok (run_read db),
      held, groupAfterExpiry_eq still]
    split
    · exact ⟨"", db, rfl, shows⟩
    by_cases elsewhere : trimSpace sub.downgradeGroup = "" ∧ member.group ≠ trimSpace sub.upgradeGroup
    · rw [if_pos elsewhere, if_pos elsewhere]
      exact ⟨"", db, rfl, by simpa using shows⟩
    rw [if_neg elsewhere, if_neg elsewhere]
    generalize (if trimSpace sub.downgradeGroup = "" then trimSpace sub.prevUserGroup
      else trimSpace sub.downgradeGroup) = target
    by_cases unnamed : target = ""
    · exact ⟨"", db, by simp [unnamed], by simpa [unnamed] using shows⟩
    by_cases same : target = member.group
    · exact ⟨"", db, by simp [same], by simpa [unnamed, same] using shows⟩
    · refine ⟨target, db.setUserGroup member.userId target, ?_, ?_⟩
      · simp [unnamed, same, setUserGroupTx_run]
      · simpa [unnamed] using shows.setUserGroup target

theorem cancel (now : Int) (stored : db.userSubscriptions.find sub.id = some sub) :
    (db.putSubscription (sub.cancel now)).Shows (member.cancel now sub) := by
  refine ⟨shows.user, ?_⟩
  show ((db.userSubscriptions.put (sub.cancel now)).rows.filter fun old => old.userId = member.userId) =
    member.subs.map fun old => if old.id = sub.id then sub.cancel now else old
  have found : db.userSubscriptions.find (sub.cancel now).id = some sub := stored
  rw [rows_put_of_found found, filter_map, ← shows.subs, DB.subscriptionsOf]
  congr 1
  apply filter_congr
  intro old mem
  by_cases same : old.id = sub.id
  · have place := find_of_mem mem
    rw [same, stored] at place
    cases place
    simp [UserSubscription.cancel]
  · simp [UserSubscription.cancel, same]

theorem invalidate (pos : 0 < member.userId)
    {id : Int} (stored : db.userSubscriptions.find id = some sub) (own : sub.userId = member.userId) :
    (adminInvalidateUserSubscription db id).2.Shows (member.invalidate db.now sub) := by
  have same : sub.id = id := key_of_find stored
  subst same
  obtain ⟨target, after, ran, shown⟩ := (shows.cancel db.now stored).downgrade db.now (sub.cancel db.now) own
    pos (find_put_self _ _) (by simp [UserSubscription.cancel])
  have through : ∃ msg, (invalidateUserSubscriptionTx sub.id).run db = .ok (msg, after) := by
    unfold invalidateUserSubscriptionTx
    simp only [run_bind_ok, run_read_ok, run_orFail_ok, saveUserSubscription_run, run_pure_ok]
    exact ⟨_, db, db, ⟨rfl, rfl⟩, sub, db, ⟨stored, rfl⟩, (), _, rfl, target, after, ran, rfl, rfl⟩
  obtain ⟨msg, through⟩ := through
  unfold adminInvalidateUserSubscription
  rw [if_neg (not_le.mpr sub.id_pos), commit_eq_ok.mpr through]
  exact shown

theorem invalidateOther {id : Int}
    (other : ∀ sub, db.userSubscriptions.find id = some sub → sub.userId ≠ member.userId) :
    (adminInvalidateUserSubscription db id).2.Shows member := by
  unfold adminInvalidateUserSubscription
  split
  · exact shows
  refine commit_elim (commit _ db) rfl (fun _ => shows) fun msg after ran => ?_
  simp only [invalidateUserSubscriptionTx, run_bind_ok, run_read_ok, run_orFail_ok,
    saveUserSubscription_run, run_pure_ok] at ran
  obtain ⟨_, _, ⟨rfl, rfl⟩, sub, _, ⟨found, rfl⟩, _, _, saved, target, _, moved, _, rfl⟩ := ran
  cases saved
  have same : sub.id = id := key_of_find found
  have put : (db.putSubscription (sub.cancel db.now)).Shows member := by
    refine shows.putOther (other sub found) ?_
    intro old stored
    exact other old (same ▸ stored)
  rcases downgradeUserGroupForSubscriptionTx_frame moved with rfl | ⟨group, rfl⟩
  · exact put
  · exact put.setOtherGroup (other sub found) group

theorem expireOwn (now : Int) : (db.expireFor now member.userId).Shows (member.mark now) := by
  refine ⟨shows.user, ?_⟩
  show (db.expireFor now member.userId).subscriptionsOf member.userId =
    member.subs.map (expireIfDue now member.userId)
  rw [subscriptionsOf_expireFor, shows.subs]

theorem expireOther (other : userId ≠ member.userId) : (db.expireFor now userId).Shows member := by
  refine shows.frame rfl ?_
  rw [subscriptionsOf_expireFor]
  conv_rhs => rw [← map_id (db.subscriptionsOf member.userId)]
  apply map_congr_left
  intro sub mem
  have owner := (DB.mem_subscriptionsOf.mp mem).2
  simp [expireIfDue, owner, Ne.symm other]

theorem leaveExpired (pos : 0 < member.userId) (now : Int)
    (asked : lastToEnd (db.userSubscriptions.rows.filter fun sub =>
      sub.userId = member.userId ∧ sub.status = .expired ∧ definesGroup sub) = some last) :
    ∃ after, (leaveExpiredGroupTx now member.userId).run db = .ok ((), after) ∧
      after.Shows (member.leave now last) := by
  unfold leaveExpiredGroupTx Member.leave
  rw [run_bind_of_ok (run_read db), shows.any_holdsGroup, asked]
  split
  · exact ⟨db, rfl, shows⟩
  rw [run_bind_of_ok (shows.getUserGroup pos)]
  by_cases unnamed : groupAfterExpiry last member.group = ""
  · exact ⟨db, by simp [unnamed], by simpa [unnamed] using shows⟩
  by_cases same : groupAfterExpiry last member.group = member.group
  · exact ⟨db, by simp [same], by simpa [same] using shows⟩
  · refine ⟨db.setUserGroup member.userId (groupAfterExpiry last member.group), ?_, ?_⟩
    · simp [unnamed, same, setUserGroupTx_run]
    · simpa [unnamed] using shows.setUserGroup (groupAfterExpiry last member.group)

theorem lastToEnd_expireFor (now : Int) :
    lastToEnd ((db.expireFor now member.userId).userSubscriptions.rows.filter fun sub =>
      sub.userId = member.userId ∧ sub.status = .expired ∧ definesGroup sub) =
      (lastEnded now member.subs).map (expireIfDue now member.userId) := by
  have split : ((db.expireFor now member.userId).userSubscriptions.rows.filter fun sub =>
      sub.userId = member.userId ∧ sub.status = .expired ∧ definesGroup sub) =
      ((db.expireFor now member.userId).subscriptionsOf member.userId).filter fun sub =>
        sub.status = .expired ∧ definesGroup sub := by
    rw [DB.subscriptionsOf, filter_filter]
    apply filter_congr
    intro sub _
    simp [Bool.and_comm]
  rw [split, subscriptionsOf_expireFor, shows.subs, filter_map, lastToEnd_map_expireIfDue, lastEnded]
  congr 2
  apply filter_congr
  intro sub mem
  have owner := shows.owner mem
  by_cases due : Due now sub <;> simp [expireIfDue, owner, due, definesGroup]

theorem expireUser (positive : 0 < member.userId) (now : Int) :
    ∃ count after, (expireUserTx now member.userId).run db = .ok (count, after) ∧
      after.Shows (member.expire now) := by
  have marked := shows.expireOwn now
  have asked := shows.lastToEnd_expireFor now
  have left : ∃ after, (leaveExpiredGroupTx now member.userId).run (db.expireFor now member.userId) =
      .ok ((), after) ∧ after.Shows (member.expire now) := by
    unfold Member.expire
    cases last : lastEnded now member.subs with
    | none =>
      rw [last, Option.map_none] at asked
      refine ⟨db.expireFor now member.userId, ?_, marked⟩
      unfold leaveExpiredGroupTx
      rw [run_bind_of_ok (run_read _), asked]
      split <;> rfl
    | some sub =>
      rw [last, Option.map_some] at asked
      obtain ⟨after, ran, shown⟩ := marked.leaveExpired positive now asked
      refine ⟨after, ran, ?_⟩
      simpa [Member.leave, groupAfterExpiry_expireIfDue] using shown
  obtain ⟨after, ran, shown⟩ := left
  obtain ⟨count, ran⟩ := expireUserTx_run ran
  exact ⟨count, after, ran, shown⟩

end DB.Shows

theorem DB.Shows.expireUsers (pos : 0 < member.userId) :
    ∀ (userIds : List Int) (db : DB) (expired : Int), db.Shows member → userIds.Nodup →
      (∀ userId ∈ userIds, 0 < userId) → (Billing.expireUsers now db userIds expired).2.Shows
        (if member.userId ∈ userIds then member.expire now else member) := by
  intro userIds
  induction userIds generalizing member with
  | nil => intro db expired shows _ _; simpa [Billing.expireUsers] using shows
  | cons userId rest ih =>
    intro db expired shows nodup positives
    obtain ⟨once, restDistinct⟩ := nodup_cons.mp nodup
    have later : ∀ v ∈ rest, 0 < v := fun v mem => positives v (List.mem_cons_of_mem userId mem)
    unfold Billing.expireUsers
    by_cases own : userId = member.userId
    · subst own
      obtain ⟨count, after, ran, shown⟩ := shows.expireUser pos now
      rw [commit_eq_ok.mpr ran]
      have tail := @ih (member.expire now) (by simpa using pos) after (expired + count) shown restDistinct later
      simpa [once] using tail
    · obtain ⟨after, left, frame⟩ := leaveExpiredGroupTx_frame (db.expireFor now userId) now
        (positives userId List.mem_cons_self)
      obtain ⟨count, ran⟩ := expireUserTx_run left
      have shown : after.Shows member := by
        rcases frame with rfl | ⟨group, rfl⟩
        · exact shows.expireOther own
        · exact (shows.expireOther own).setOtherGroup own group
      rw [commit_eq_ok.mpr ran]
      simpa [Ne.symm own] using ih pos after (expired + count) shown restDistinct later

theorem DB.Shows.expireDue (shows : db.Shows member) (pos : 0 < member.userId) (limit : Int) :
    (expireDueSubscriptions db limit).2.Shows
      (if member.userId ∈ dueUserIds db limit then member.expire db.now else member) := by
  refine DB.Shows.expireUsers pos _ db 0 shows (nodup_dedup _) ?_
  intro userId mem
  have kept := (mem_filter.mp (mem_dedup.mp mem)).2
  simpa using kept

theorem due_of_mem_dueUserIds (shows : db.Shows member) {limit : Int}
    (mem : member.userId ∈ dueUserIds db limit) : ∃ sub ∈ member.subs, Due db.now sub = true := by
  obtain ⟨sub, taken, owner⟩ := mem_map.mp (mem_filter.mp (mem_dedup.mp mem)).1
  have sorted := mem_of_mem_take taken
  obtain ⟨stored, due⟩ := mem_filter.mp ((mem_insertionSort _).mp sorted)
  refine ⟨sub, ?_, due⟩
  rw [← shows.subs]
  exact DB.mem_subscriptionsOf.mpr ⟨stored, owner⟩

end Wildflow.Billing
