import Wildflow.Middleware.ModelRateLimit
import Mathlib.Data.List.Forall2

/-!
# Who is rejected

Redis keeps the times of the last successes, the memory limiter those of the requests it let through, which is the same
only as long as they all succeed.
-/

namespace Wildflow.Middleware
open Wildflow.Store List
variable {duration now user maxRequestNum : Nat} {store' : Dict LimitKey (List Nat)} {entries : List Nat}
  {later : Nat → List Nat} {s : Served (Dict LimitKey (List Nat))}

section
variable {σ : Type} {s : Served σ} {user : Nat}

def Served.times (s : Served σ) (user : Nat) : List Nat := (s.succeeded.filter (·.1 = user)).map Prod.snd

def Served.succeededWithin (s : Served σ) (user now duration : Nat) : Nat :=
  (s.times user).countP fun time => now - time < duration * 1000

def Served.Spent (s : Served σ) (config : LimitConfig) (user now : Nat) : Prop :=
  0 < config.successMaxCount ∧ config.successMaxCount ≤ s.succeededWithin user now config.duration

def Served.Ordered (s : Served σ) : Prop :=
  (s.succeeded.map Prod.snd).Pairwise (· ≥ ·) ∧ ∀ entry ∈ s.succeeded, entry.2 ≤ s.now

theorem Served.Ordered.times (ordered : s.Ordered) (user : Nat) : (s.times user).Pairwise (· ≥ ·) :=
  ordered.1.sublist (filter_sublist.map _)

theorem times_cons (s : Served σ) (store : σ) (now other time user : Nat) :
    Served.times ⟨store, now, (other, time) :: s.succeeded⟩ user =
      if other = user then time :: s.times user else s.times user := by
  unfold Served.times
  by_cases own : other = user <;> simp [own]

theorem length_le_succeededWithin (ordered : s.Ordered) (first : entries <+: s.times user)
    (recent : ∀ last, entries.getLast? = some last → now - last < duration * 1000) :
    entries.length ≤ s.succeededWithin user now duration := by
  have descending : entries.Pairwise (· ≥ ·) := (ordered.times user).sublist first.sublist
  have all : entries.countP (fun time => now - time < duration * 1000) = entries.length := by
    rw [countP_eq_length]
    intro time mem
    rcases eq_nil_or_concat entries with rfl | ⟨front, last, rfl⟩
    · cases mem
    have within := recent last (by simp)
    rw [concat_eq_append, pairwise_append] at descending
    rw [decide_eq_true_eq]
    rcases mem_append.mp (concat_eq_append ▸ mem) with inside | single
    · have after := descending.2.2 time inside last List.mem_cons_self
      omega
    · rw [mem_singleton.mp single]
      exact within
  rw [← all]
  exact first.sublist.countP_le

theorem Served.Ordered.serve {limiter : Limiter σ} (ordered : s.Ordered) (ev : LimitEvent) :
    (limiter.serve s ev).Ordered := by
  have later : ∀ more, ∀ e ∈ s.succeeded, e.2 ≤ s.now + more := fun more e member =>
    Nat.le_add_right_of_le (ordered.2 e member)
  cases ev with
  | tidy wait => exact ⟨ordered.1, later wait⟩
  | request other wait took ok =>
    have done := Nat.add_assoc s.now wait took ▸ later (wait + took)
    simp only [Limiter.serve]
    split
    · exact ⟨ordered.1, later wait⟩
    split
    · refine ⟨pairwise_cons.mpr ⟨fun time member => ?_, ordered.1⟩, ?_⟩
      · obtain ⟨e, inside, rfl⟩ := mem_map.mp member
        exact done e inside
      · intro e member
        rcases mem_cons.mp member with rfl | inside
        · exact Nat.le_refl _
        · exact done e inside
    · exact ⟨ordered.1, done⟩

end

variable {config : LimitConfig}

def RedisRecorded (times : Nat → List Nat) (store : Dict Nat RedisList) : Prop :=
  ∀ user list, store.get user = some list → list.entries <+: times user

section
variable {times : Nat → List Nat} {store : Dict Nat RedisList} (recorded : RedisRecorded times store)
include recorded

theorem RedisRecorded.live (user now : Nat) : liveEntries store user now <+: times user := by
  unfold liveEntries
  split
  · next list found =>
    split
    · exact recorded user list found
    · exact nil_prefix
  · exact nil_prefix

theorem RedisRecorded.set {expireAt : Nat}
    (first : entries <+: later user) (others : ∀ other, user ≠ other → later other = times other) :
    RedisRecorded later (store.set user ⟨entries, expireAt⟩) := by
  intro other list found
  rw [Dict.get_set] at found
  split at found
  · next own =>
    cases found
    exact own ▸ first
  · next ne =>
    rw [others other ne]
    exact recorded other list found

theorem RedisRecorded.check {out : Dict Nat RedisList × Bool}
    (checked : checkRedisRateLimit config store user now = out) : RedisRecorded times out.1 := by
  rw [← checked]
  unfold checkRedisRateLimit
  repeat' split
  all_goals first | exact recorded | exact recorded.set (recorded.live user now) fun _ _ => rfl

end

theorem RedisRecorded.rejected {s : Served (Dict Nat RedisList)} (ordered : s.Ordered)
    (recorded : RedisRecorded s.times s.store) (rejected : (checkRedisRateLimit config s.store user now).2 = false) :
    s.Spent config user now := by
  unfold checkRedisRateLimit at rejected
  split at rejected
  · cases rejected
  next limited =>
  split at rejected
  · cases rejected
  next full =>
  refine ⟨Nat.pos_of_ne_zero limited, Nat.le_trans (Nat.le_of_not_lt full)
    (length_le_succeededWithin ordered (recorded.live user now) fun last isLast => ?_)⟩
  rw [isLast] at rejected
  dsimp only at rejected
  split at rejected
  · omega
  · cases rejected

theorem RedisRecorded.serve (limited : config.successMaxCount ≠ 0) {s : Served (Dict Nat RedisList)}
    (recorded : RedisRecorded s.times s.store) (ev : LimitEvent) :
    RedisRecorded ((redisLimiter config).serve s ev).times ((redisLimiter config).serve s ev).store := by
  cases ev with
  | tidy wait => exact recorded
  | request user wait took ok =>
    simp only [Limiter.serve, redisLimiter]
    split
    · next store checked => exact recorded.check checked
    · next store checked =>
      have kept := recorded.check checked
      split
      · simp only [recordRedisRequest, if_neg limited]
        refine kept.set ?_ fun other different => ?_
        · rw [times_cons, if_pos rfl]
          exact take_prefix _ _ |>.trans ((prefix_cons_inj _).mpr (kept.live user _))
        · rw [times_cons, if_neg different]
      · exact kept

/-- The queue of a user holds when the last requests came that were let through. -/
def QueueRecorded (times : Nat → List Nat) (store : Dict LimitKey (List Nat)) : Prop :=
  ∀ user queue, store.get (.successCheck user) = some queue →
    ∃ olds, olds.reverse <+: times user ∧ List.Forall₂ (fun seconds time => seconds * 1000 ≤ time) queue olds

def LimitEvent.succeeds : LimitEvent → Bool
  | .request _ _ _ ok => ok
  | .tidy _ => true

section
variable {times : Nat → List Nat} {store : Dict LimitKey (List Nat)}

theorem memoryRequest_rejected {key : LimitKey}
    (rejected : memoryRequest store key maxRequestNum duration now = (store', false)) : store' = store := by
  unfold memoryRequest at rejected
  repeat' split at rejected
  all_goals cases rejected
  rfl

theorem QueueRecorded.record (recorded : QueueRecorded times store) (user maxRequestNum duration now : Nat) :
    QueueRecorded times (memoryRequest store (.success user) maxRequestNum duration now).1 := by
  have other : ∀ queue, QueueRecorded times (store.set (.success user) queue) := fun queue owner kept found =>
    recorded owner kept ((Dict.get_set_of_ne _ (by simp) _).symm.trans found)
  unfold memoryRequest
  repeat' split
  all_goals first | exact recorded | exact other _

theorem QueueRecorded.check (recorded : QueueRecorded times store) {done : Nat}
    (checked : memoryRequest store (.successCheck user) maxRequestNum duration (now / 1000) = (store', true))
    (own : later user = done :: times user) (others : ∀ other, user ≠ other → later other = times other) (after : now ≤ done) :
    QueueRecorded later store' := by
  have set : ∀ queue olds, olds.reverse <+: times user → List.Forall₂ (fun seconds time => seconds * 1000 ≤ time) queue olds →
      QueueRecorded later (store.set (.successCheck user) (queue ++ [now / 1000])) := by
    intro queue olds first matched owner kept found
    rw [Dict.get_set] at found
    split at found
    · next same =>
      cases same
      cases found
      refine ⟨olds ++ [done], ?_, rel_append matched (.cons (by omega) .nil)⟩
      rw [own, reverse_append]
      exact (prefix_cons_inj done).mpr first
    · next ne =>
      rw [others owner fun same => ne (same ▸ rfl)]
      exact recorded owner kept found
  unfold memoryRequest at checked
  split at checked
  · cases checked
    exact set [] [] nil_prefix .nil
  next queue found =>
  obtain ⟨olds, first, matched⟩ := recorded user queue found
  split at checked
  · cases checked
    exact set queue olds first matched
  split at checked
  · cases checked
    cases matched with
    | nil => exact set [] [] nil_prefix .nil
    | cons oldest rest =>
      refine set _ _ (List.IsPrefix.trans ?_ first) rest
      rw [reverse_cons]
      exact prefix_append _ _
  · cases checked

end

theorem QueueRecorded.rejected (limited : 0 < config.successMaxCount) (ordered : s.Ordered)
    (recorded : QueueRecorded s.times s.store)
    (rejected : ((memoryLimiter config).check s.store user now).2 = false) : s.Spent config user now := by
  simp only [memoryLimiter, memoryRequest] at rejected
  split at rejected
  · cases rejected
  next queue found =>
  split at rejected
  · cases rejected
  next full =>
  split at rejected
  · cases rejected
  · next recent =>
    obtain ⟨olds, first, matched⟩ := recorded user queue found
    refine ⟨limited, ?_⟩
    have long : config.successMaxCount ≤ olds.reverse.length := by
      rw [length_reverse, ← matched.length_eq]
      exact Nat.le_of_not_lt full
    refine Nat.le_trans long (length_le_succeededWithin ordered first fun last isLast => ?_)
    cases matched with
    | nil => cases isLast
    | cons oldest rest =>
      rw [getLast?_reverse, head?_cons] at isLast
      cases isLast
      simp only [headD_cons] at recent
      omega

theorem QueueRecorded.serve (recorded : QueueRecorded s.times s.store) {ev : LimitEvent}
    (succeeds : ev.succeeds = true) :
    QueueRecorded ((memoryLimiter config).serve s ev).times ((memoryLimiter config).serve s ev).store := by
  cases ev with
  | tidy wait =>
    intro user queue found
    refine recorded user queue ?_
    simp only [Limiter.serve, memoryLimiter, clearExpiredItems, Dict.get, Table.find_keep, Option.map_eq_some_iff,
      Option.filter_eq_some_iff] at found
    obtain ⟨e, ⟨inside, _⟩, rfl⟩ := found
    exact Option.map_eq_some_iff.mpr ⟨e, inside, rfl⟩
  | request user wait took ok =>
    obtain rfl : ok = true := succeeds
    simp only [Limiter.serve]
    split
    · next store checked =>
      rw [show store = s.store from memoryRequest_rejected checked]
      exact recorded
    · next store checked =>
      simp only [if_true]
      refine QueueRecorded.record (recorded.check checked ?_ ?_ (Nat.le_add_right (s.now + wait) took)) _ _ _ _
      · rw [times_cons, if_pos rfl]
      · intro other different
        rw [times_cons, if_neg different]

section
variable {σ : Type}

def Limiter.after (limiter : Limiter σ) (empty : σ) (events : List LimitEvent) : Served σ :=
  runSteps limiter.serve ⟨empty, 0, []⟩ events

def Limiter.Rejects (limiter : Limiter σ) (s : Served σ) (user wait : Nat) : Prop :=
  (limiter.check s.store user (s.now + wait)).2 = false

end

/-- On Redis in every run, in memory in runs of requests that succeed under a limit. -/
theorem rejected_only_when_spent (config : LimitConfig) (events : List LimitEvent) (user wait : Nat) :
    ((redisLimiter config).Rejects ((redisLimiter config).after Dict.empty events) user wait →
      ((redisLimiter config).after Dict.empty events).Spent config user
        (((redisLimiter config).after Dict.empty events).now + wait)) ∧
    (0 < config.successMaxCount → (∀ event ∈ events, event.succeeds = true) →
      (memoryLimiter config).Rejects ((memoryLimiter config).after Dict.empty events) user wait →
      ((memoryLimiter config).after Dict.empty events).Spent config user
        (((memoryLimiter config).after Dict.empty events).now + wait)) := by
  refine ⟨fun rejected => ?_, fun limited succeed rejected => ?_⟩
  · by_cases limited : config.successMaxCount = 0
    · simp [Limiter.Rejects, redisLimiter, checkRedisRateLimit, limited] at rejected
    have holds := @runSteps_invariant _ _ (redisLimiter config).serve (fun _ _ => True)
      (fun s => s.Ordered ∧ RedisRecorded s.times s.store)
      (fun _ event held _ => ⟨held.1.serve event, held.2.serve limited event⟩) events ⟨Dict.empty, 0, []⟩
      ⟨⟨.nil, nofun⟩, nofun⟩ (guarded_of_all _ events fun _ _ _ => trivial)
    exact holds.2.rejected holds.1 rejected
  · have holds := @runSteps_invariant _ _ (memoryLimiter config).serve (fun _ event => event.succeeds = true)
      (fun s => s.Ordered ∧ QueueRecorded s.times s.store)
      (fun _ event held may => ⟨held.1.serve event, held.2.serve may⟩) events ⟨Dict.empty, 0, []⟩
      ⟨⟨.nil, nofun⟩, nofun⟩ (guarded_of_all _ events fun event member _ => succeed event member)
    exact holds.2.rejected limited holds.1 rejected

def onePerMinute : LimitConfig := ⟨60, 1, 1⟩

theorem rejected_only_when_spent_once :
    ((memoryLimiter onePerMinute).after Dict.empty [.request 7 0 100 true]).Spent onePerMinute 7
      (((memoryLimiter onePerMinute).after Dict.empty [.request 7 0 100 true]).now + 5000) :=
  (rejected_only_when_spent onePerMinute [.request 7 0 100 true] 7 5000).2 (by decide) (by simp [LimitEvent.succeeds])
    (show _ = _ by decide +kernel)

theorem memory_counts_failures :
    ((memoryLimiter onePerMinute).Rejects ((memoryLimiter onePerMinute).after Dict.empty [.request 7 0 100 false]) 7 5000 ∧
      ((memoryLimiter onePerMinute).after Dict.empty [.request 7 0 100 false]).succeeded = []) ∧
    (memoryLimiter ⟨60, 1, 0⟩).Rejects ((memoryLimiter ⟨60, 1, 0⟩).after Dict.empty [.request 7 0 100 true]) 7 5000 :=
  ⟨⟨show _ = _ by decide +kernel, by decide +kernel⟩, show _ = _ by decide +kernel⟩

end Wildflow.Middleware
