import Mathlib.Data.List.Chain
import Wildflow.Channel.RetryLoop
import Wildflow.Proof.Channel.Selection

/-!
# The order of attempts

Each attempt is the next rank of its group or the first rank of a later one. The selector resets the counter with the
last rank of a group, so after the last group the loop ends with an error of the selector.
-/

namespace Wildflow.Channels
open Wildflow.Store List

section
variable {request : RelayRequest}

def selectedParam (request : RelayRequest) (attempt : Attempt) : RetryParam :=
  if request.crossGroupRetry ∧ request.retryTimes ≤ attempt.priorityRetry then ⟨0, true, some (attempt.groupIndex + 1)⟩
  else ⟨attempt.priorityRetry, false, some attempt.groupIndex⟩

def Ranked (request : RelayRequest) (attempt : Attempt) : Prop :=
  ∃ group, request.autoGroups[attempt.groupIndex]? = some group ∧
    attempt.channel ∈ targetChannels (request.candidates group) attempt.priorityRetry

def AllOffer (request : RelayRequest) : Prop := ∀ group ∈ request.autoGroups, request.candidates group ≠ []

variable {draw : Nat}

theorem selectCandidate_target {channels : List ChannelRow} {retry : Nat} {channel : ChannelRow}
    (picked : selectCandidate channels retry draw = some channel) : channel ∈ targetChannels channels retry :=
  (selectCandidate_offers.mp ⟨draw, picked⟩).1

variable {a : Attempt}

theorem searchGroups_some {start i : Nat} {groups : List String} {param param' : RetryParam}
    (rest : request.autoGroups.drop i = groups) (after : start ≤ i) (reset : start < i → param.retry = 0)
    (unset : param.resetNextTry = false) (found : searchGroups request start draw i groups param = (param', some a)) :
    i ≤ a.groupIndex ∧ a.priorityRetry = (if start < a.groupIndex then 0 else param.retry) ∧
      param' = selectedParam request a ∧ Ranked request a ∧ (AllOffer request → a.groupIndex = i) := by
  induction groups generalizing i param with
  | nil => cases found
  | cons group groups ih =>
    have here : request.autoGroups[i]? = some group := by
      rw [← head?_drop, rest]
      rfl
    have rank : (if start < i then 0 else param.retry) = param.retry := by grind
    simp only [searchGroups, rank] at found
    split at found
    · next nothing =>
      have further : request.autoGroups.drop (i + 1) = groups := by
        rw [← drop_drop, rest]
        rfl
      obtain ⟨least, sameRank, sameParam, ranked, _⟩ := 
        @ih (i + 1) ⟨0, param.resetNextTry, some (i + 1)⟩ further (Nat.le_succ_of_le after) (fun _ => rfl) unset found
      have later : start < a.groupIndex := by omega
      rw [if_pos later] at sameRank ⊢
      exact ⟨by omega, sameRank, sameParam, ranked, fun all =>
        absurd (selectCandidate_none.mp ⟨draw, nothing⟩) (all group (mem_of_getElem? here))⟩
    · next channel picked =>
      have ranked : Ranked request ⟨i, param.retry, channel⟩ := ⟨group, here, selectCandidate_target picked⟩
      split at found
      · next switch =>
        cases found
        exact ⟨Nat.le_refl i, rank.symm, (if_pos switch).symm, ranked, fun _ => rfl⟩
      · next stays =>
        cases found
        refine ⟨Nat.le_refl i, rank.symm, ?_, ranked, fun _ => rfl⟩
        rw [selectedParam, if_neg stays, ← unset]

theorem searchGroups_none {start i : Nat} {groups : List String} {param param' : RetryParam}
    (found : searchGroups request start draw i groups param = (param', none)) :
    ∀ group ∈ groups, request.candidates group = [] := by
  induction groups generalizing i param with
  | nil => nofun
  | cons first groups ih =>
    unfold searchGroups at found
    dsimp only at found
    split at found
    · next nothing => grind [selectCandidate_none.mp ⟨draw, nothing⟩, ih found]
    · repeat' split at found
      all_goals cases found

def Next (last attempt : Attempt) : Prop :=
  (attempt.groupIndex = last.groupIndex ∧ attempt.priorityRetry = last.priorityRetry + 1) ∨
    (last.groupIndex < attempt.groupIndex ∧ attempt.priorityRetry = 0)

def place (request : RelayRequest) (attempt : Attempt) : Nat :=
  attempt.groupIndex * (request.retryTimes + 1) + attempt.priorityRetry

structure Position (request : RelayRequest) (param : RetryParam) (last : Attempt) : Prop where
  unset : param.resetNextTry = false
  stays : param.groupIndex = some last.groupIndex ∧ param.retry = last.priorityRetry + 1 ∨
    param.groupIndex = some (last.groupIndex + 1) ∧ param.retry = 0 ∧ last.priorityRetry = request.retryTimes

structure Dispatched (request : RelayRequest) (attempts : List Attempt) : Prop where
  chain : attempts.IsChain Next
  starts : ∀ attempt ∈ attempts.head?, attempt.priorityRetry = 0
  ranked : ∀ attempt ∈ attempts, attempt.priorityRetry ≤ request.retryTimes ∧ Ranked request attempt
  counted : ∀ last ∈ attempts.getLast?, attempts.length ≤ place request last + 1 ∧
    (AllOffer request → attempts.length = place request last + 1)

theorem Ranked.inside (ranked : Ranked request a) : a.groupIndex < request.autoGroups.length := by
  obtain ⟨_, found, _⟩ := ranked
  exact (List.getElem?_eq_some_iff.mp found).1

theorem Next.place_lt {last attempt : Attempt} (next : Next last attempt) (low : last.priorityRetry ≤ request.retryTimes) :
    place request last < place request attempt := by
  unfold place
  rcases next with ⟨same, rank⟩ | ⟨later, rank⟩
  · rw [same, rank]
    omega
  · have grows := Nat.mul_le_mul_right (request.retryTimes + 1) (Nat.succ_le_of_lt later)
    rw [Nat.succ_mul] at grows
    omega

theorem place_lt (low : a.priorityRetry ≤ request.retryTimes) (ranked : Ranked request a) :
    place request a < request.autoGroups.length * (request.retryTimes + 1) := by
  have grows := Nat.mul_le_mul_right (request.retryTimes + 1) (Nat.succ_le_of_lt ranked.inside)
  rw [Nat.succ_mul] at grows
  unfold place
  omega

variable {attempts : List Attempt}

section
variable (dispatched : Dispatched request attempts)
include dispatched

theorem Dispatched.length_le : attempts.length ≤ request.autoGroups.length * (request.retryTimes + 1) := by
  rcases eq_nil_or_concat attempts with rfl | ⟨front, last, rfl⟩
  · exact Nat.zero_le _
  · have inside := dispatched.ranked last (by simp)
    have counted := (dispatched.counted last (by simp)).1
    have below := place_lt inside.1 inside.2
    omega

theorem Dispatched.groups_ordered : attempts.Pairwise fun old later => old.groupIndex ≤ later.groupIndex := by
  refine (dispatched.chain.imp fun last a next => ?_).pairwise
  rcases next with ⟨same, _⟩ | ⟨later, _⟩ <;> omega

theorem Dispatched.snoc {attempt : Attempt}
    (low : attempt.priorityRetry ≤ request.retryTimes) (ranked : Ranked request attempt)
    (first : attempts = [] → attempt.priorityRetry = 0 ∧ (AllOffer request → attempt.groupIndex = 0))
    (next : ∀ last ∈ attempts.getLast?, Next last attempt ∧
      (AllOffer request → place request attempt = place request last + 1)) :
    Dispatched request (attempts ++ [attempt]) where
  chain := isChain_append.mpr ⟨dispatched.chain, .singleton _, fun last isLast other isHead => by
    cases isHead
    exact (next last isLast).1⟩
  starts := by
    cases attempts with
    | nil => simpa using (first rfl).1
    | cons head rest => exact dispatched.starts
  ranked := by
    have before := dispatched.ranked
    grind
  counted := by
    intro last isLast
    obtain rfl : attempt = last := by simpa using isLast
    rw [length_append, length_singleton]
    cases before : attempts.getLast? with
    | none =>
      obtain rfl := getLast?_eq_none_iff.mp before
      exact ⟨by simp, fun offer => by simp [place, (first rfl).1, (first rfl).2 offer]⟩
    | some last =>
      obtain ⟨most, exact⟩ := dispatched.counted last before
      have grows := (next last before).1.place_lt (dispatched.ranked last (mem_of_getLast? before)).1
      exact ⟨by omega, fun offer => by rw [exact offer, (next last before).2 offer]⟩

end

def Retried (request : RelayRequest) (number : Nat) : Prop :=
  ∃ error, request.outcome number = some error ∧ error.providerUnknown = false ∧ shouldRetry request error 1 = true

theorem shouldRetry_left {error : RelayError} {tries : Nat} (left : 0 < tries) :
    shouldRetry request error tries = shouldRetry request error 1 := by
  simp [shouldRetry, Nat.ne_of_gt left]

theorem shouldRetry_one {error : RelayError} {tries : Nat} (retry : shouldRetry request error tries = true) :
    shouldRetry request error 1 = true := by
  grind [shouldRetry, shouldRetry_left]

structure FirstAttempt (request : RelayRequest) (first : Attempt) : Prop where
  rank : first.priorityRetry = 0
  ranked : Ranked request first
  offered : AllOffer request → first.groupIndex = 0

structure Looping (request : RelayRequest) (first : Attempt) (loop : RelayLoop) : Prop where
  dispatched : Dispatched request loop.attempts
  retried : ∀ number < loop.attempts.length, Retried request number
  initial : loop.attempts = [] → loop.param = ⟨0, false, (selectedParam request first).groupIndex⟩
  position : ∀ last ∈ loop.attempts.getLast?, loop.param.retry ≤ request.retryTimes → Position request loop.param last
  crossing : request.crossGroupRetry = true → 0 < request.retryTimes → loop.param.retry ≤ request.retryTimes

variable {first : Attempt} {loop : RelayLoop}

section
variable (isFirst : FirstAttempt request first) (looping : Looping request first loop)
include isFirst looping

theorem selectChannel_next (may : loop.param.retry ≤ request.retryTimes) {param : RetryParam} {a : Attempt}
    (picked : selectChannel request first loop = (param, some a)) :
    Dispatched request (loop.attempts ++ [a]) ∧
      (param.increaseRetry.retry ≤ request.retryTimes → Position request param.increaseRetry a) ∧
      (request.crossGroupRetry = true → 0 < request.retryTimes →
        param.increaseRetry.retry ≤ request.retryTimes ∧ 0 < request.retryTimes - param.retry) := by
  unfold selectChannel at picked
  split at picked
  · next none =>
    cases picked
    have same := looping.initial none
    refine ⟨looping.dispatched.snoc (by rw [isFirst.rank]; omega) isFirst.ranked
      (fun _ => ⟨isFirst.rank, isFirst.offered⟩) (by simp [none]), ?_, ?_⟩
    · rw [same]
      intro left
      have more : ¬ (request.crossGroupRetry ∧ request.retryTimes ≤ first.priorityRetry) := by
        rw [isFirst.rank]
        exact fun switch => Nat.not_succ_le_zero 0 (Nat.le_trans left switch.2)
      simp only [selectedParam, if_neg more]
      exact ⟨rfl, .inl ⟨rfl, by rw [isFirst.rank]; rfl⟩⟩
    · rw [same]
      exact fun _ left => ⟨left, left⟩
  · next more =>
    obtain ⟨front, last, split⟩ := (eq_nil_or_concat loop.attempts).resolve_left more
    have isLast : loop.attempts.getLast? = some last := by simp [split]
    have position := looping.position last isLast may
    obtain ⟨least, rank, rfl, ranked, offered⟩ :=
      searchGroups_some rfl (Nat.le_refl _) (fun later => absurd later (Nat.lt_irrefl _)) position.unset picked
    have low : a.priorityRetry ≤ request.retryTimes := by
      rw [rank]
      split <;> omega
    have next : Next last a ∧ (AllOffer request → place request a = place request last + 1) := by
      unfold place
      rcases position.stays with ⟨here, retry⟩ | ⟨here, retry, full⟩
      · rw [here, Option.getD_some] at least rank offered
        by_cases same : a.groupIndex = last.groupIndex
        · rw [if_neg (by omega), retry] at rank
          exact ⟨.inl ⟨same, rank⟩, fun _ => by rw [same, rank, Nat.add_assoc]⟩
        · rw [if_pos (by omega)] at rank
          exact ⟨.inr ⟨by omega, rank⟩, fun offer => absurd (offered offer) same⟩
      · rw [here, Option.getD_some] at least rank offered
        rw [retry, ite_self] at rank
        refine ⟨.inr ⟨least, rank⟩, fun offer => ?_⟩
        rw [offered offer, rank, full, Nat.succ_mul]
        omega
    refine ⟨looping.dispatched.snoc low ranked (fun empty => absurd empty more) fun other isOther => ?_, ?_, ?_⟩
    · grind
    · intro _
      unfold selectedParam
      split
      · next switch => exact ⟨rfl, .inr ⟨rfl, rfl, Nat.le_antisymm low switch.2⟩⟩
      · exact ⟨rfl, .inl ⟨rfl, rfl⟩⟩
    · intro cross left
      unfold selectedParam
      split
      · exact ⟨Nat.zero_le _, left⟩
      · next stays =>
        have below : a.priorityRetry < request.retryTimes := Nat.lt_of_not_le fun full => stays ⟨cross, full⟩
        exact ⟨below, Nat.sub_pos_of_lt below⟩

theorem Looping.round {next : RelayLoop} (went : relayRound request first loop = .inr next) :
    Looping request first next ∧ next.attempts.length = loop.attempts.length + 1 := by
  unfold relayRound at went
  split at went
  · cases went
  next may =>
  split at went
  · cases went
  next param a picked =>
  obtain ⟨dispatched, position, crossing⟩ := selectChannel_next isFirst looping (Nat.le_of_not_lt may) picked
  split at went
  · cases went
  dsimp only at went
  split at went
  · cases went
  next error failed =>
  split at went
  · cases went
  · next goes =>
    cases went
    rw [not_or, Bool.not_eq_true, Bool.not_eq_false] at goes
    refine ⟨⟨dispatched, fun number before => ?_, fun empty => by simp at empty, ?_, fun cross left => (crossing cross left).1⟩,
      length_append⟩
    · rw [length_append, length_singleton] at before
      rcases Nat.lt_succ_iff_lt_or_eq.mp before with old | rfl
      · exact looping.retried number old
      · exact ⟨error, failed, goes.1, shouldRetry_one goes.2⟩
    · grind

theorem Looping.ended {ended : RelayLoop}
    (ends : relayRound request first loop = .inl ended) : Dispatched request ended.attempts := by
  have dispatched := looping.dispatched
  have next := fun may param a picked => (@selectChannel_next request first loop isFirst looping may param a picked).1
  unfold relayRound at ends
  grind

end

theorem relay_returns (request : RelayRequest) :
    relay request (request.autoGroups.length * (request.retryTimes + 1) + 1) = none ∨
      ∃ first loop ended, FirstAttempt request first ∧ Looping request first loop ∧
        relayRound request first loop = .inl ended ∧
        relay request (request.autoGroups.length * (request.retryTimes + 1) + 1) = some (some ended) := by
  unfold relay cacheGetRandomSatisfiedChannel
  split
  · exact .inl rfl
  · next picked first found =>
    obtain ⟨_, rank, rfl, ranked, offered⟩ := searchGroups_some rfl (Nat.le_refl _) (fun _ => rfl) rfl found
    have isFirst : FirstAttempt request first := ⟨by rw [rank, ite_self], ranked, offered⟩
    have start : Looping request first ⟨⟨0, false, (selectedParam request first).groupIndex⟩, [], none⟩ :=
      ⟨⟨.nil, nofun, nofun, nofun⟩, nofun, fun _ => rfl, nofun, fun _ _ => Nat.zero_le _⟩
    have keeps : ∀ loop next, Looping request first loop → relayRound request first loop = .inr next →
        Looping request first next ∧ request.autoGroups.length * (request.retryTimes + 1) - next.attempts.length <
            request.autoGroups.length * (request.retryTimes + 1) - loop.attempts.length := by
      intro loop next looping went
      obtain ⟨kept, longer⟩ := looping.round isFirst went
      have most := kept.dispatched.length_le
      exact ⟨kept, by omega⟩
    obtain ⟨ended, ran⟩ := loopRounds_returns _ keeps start (Nat.lt_succ_of_le (Nat.sub_le _ _))
    obtain ⟨loop, looping, ends⟩ := loopRounds_last (fun loop next kept went => (keeps loop next kept went).1) start ran
    exact .inr ⟨first, loop, ended, isFirst, looping, ends, congrArg some ran⟩

end

/-- At most `R + 1` attempts for each group, group by group and rank by rank. -/
theorem cross_group_retry_bounded (request : RelayRequest) :
    ∃ result : Option RelayLoop,
      relay request (request.autoGroups.length * (request.retryTimes + 1) + 1) = result.map some ∧
      ∀ ended ∈ result, ended.attempts.length ≤ request.autoGroups.length * (request.retryTimes + 1) ∧
        (ended.attempts.Pairwise fun earlier later => earlier.groupIndex ≤ later.groupIndex) ∧
        ended.attempts.IsChain Next ∧ (∀ attempt ∈ ended.attempts.head?, attempt.priorityRetry = 0) ∧
        ∀ attempt ∈ ended.attempts, Ranked request attempt := by
  rcases relay_returns request with nothing | ⟨first, loop, ended, isFirst, looping, ends, ran⟩
  · exact ⟨none, nothing, nofun⟩
  refine ⟨some ended, ran, ?_⟩
  rintro _ ⟨⟩
  have dispatched := looping.ended isFirst ends
  exact ⟨dispatched.length_le, dispatched.groups_ordered, dispatched.chain, dispatched.starts,
    fun attempt member => (dispatched.ranked attempt member).2⟩

def EndsWithLast (ended : RelayLoop) : Prop :=
  ∀ error, ended.error = some error → ∃ upstream, error = .attempt (ended.attempts.length - 1) upstream

/-- All groups have channels, and nothing fails on the way to the provider. -/
structure CrossGroup (request : RelayRequest) : Prop where
  cross : request.crossGroupRetry = true
  tries : 0 < request.retryTimes
  groups : request.autoGroups ≠ []
  offer : AllOffer request
  prepared : ∀ number, request.prepare number = none

section
variable {request : RelayRequest} {first : Attempt} {loop ended : RelayLoop}

theorem Looping.exhausted (crossing : CrossGroup request) (looping : Looping request first loop)
    {param : RetryParam} (picked : selectChannel request first loop = (param, none)) :
    loop.attempts.length = request.autoGroups.length * (request.retryTimes + 1) := by
  unfold selectChannel at picked
  split at picked
  · cases picked
  · next more =>
    obtain ⟨front, last, split⟩ := (eq_nil_or_concat loop.attempts).resolve_left more
    have isLast : loop.attempts.getLast? = some last := by simp [split]
    have ranked := looping.dispatched.ranked last (mem_of_getLast? isLast)
    have counted := (looping.dispatched.counted last isLast).2 crossing.offer
    have nothing : request.autoGroups.drop (loop.param.groupIndex.getD 0) = [] := by
      by_contra some
      obtain ⟨group, mem⟩ := exists_mem_of_ne_nil _ some
      exact crossing.offer group (mem_of_mem_drop mem) (searchGroups_none picked group mem)
    rw [drop_eq_nil_iff] at nothing
    have inside := ranked.2.inside
    rcases (looping.position last isLast (looping.crossing crossing.cross crossing.tries)).stays with
      ⟨here, _⟩ | ⟨here, _, full⟩
    · rw [here, Option.getD_some] at nothing
      omega
    · rw [here, Option.getD_some] at nothing
      obtain same : request.autoGroups.length = last.groupIndex + 1 := by omega
      rw [counted, place, full, same, Nat.succ_mul, Nat.add_assoc]

theorem Looping.ends_with_last_iff (crossing : CrossGroup request) (isFirst : FirstAttempt request first)
    (looping : Looping request first loop) (ends : relayRound request first loop = .inl ended) :
    EndsWithLast ended ↔
      ∃ number < request.autoGroups.length * (request.retryTimes + 1), ¬ Retried request number := by
  have may := looping.crossing crossing.cross crossing.tries
  have attempted : ∀ a param, selectChannel request first loop = (param, some a) →
      loop.attempts.length < request.autoGroups.length * (request.retryTimes + 1) ∧ 0 < request.retryTimes - param.retry := by
    intro a param picked
    obtain ⟨dispatched, _, left⟩ := selectChannel_next isFirst looping may picked
    have most := dispatched.length_le
    rw [length_append, length_singleton] at most
    exact ⟨most, (left crossing.cross crossing.tries).2⟩
  unfold relayRound at ends
  rw [if_neg (Nat.not_lt.mpr may)] at ends
  split at ends
  · next param picked =>
    cases ends
    refine iff_of_false (fun last => ?_) ?_
    · obtain ⟨_, wrong⟩ := last _ rfl
      cases wrong
    · rintro ⟨number, before, stopped⟩
      rw [← looping.exhausted crossing picked] at before
      exact stopped (looping.retried number before)
  · next param a picked =>
    obtain ⟨before, left⟩ := attempted a param picked
    rw [crossing.prepared] at ends
    dsimp only at ends
    split at ends
    · next succeeded =>
      cases ends
      refine iff_of_true nofun ⟨_, before, ?_⟩
      rintro ⟨error, failed, _⟩
      rw [succeeded] at failed
      cases failed
    · next error failed =>
      split at ends
      · next stops =>
        cases ends
        refine iff_of_true ?_ ⟨_, before, ?_⟩
        · rintro _ ⟨⟩
          exact ⟨error, by simp⟩
        rintro ⟨other, same, known, retry⟩
        rw [failed] at same
        cases same
        rw [shouldRetry_left left, retry, known] at stops
        simp at stops
      · cases ends

end

theorem relay_ends_with_last_error_iff (request : RelayRequest) (crossing : CrossGroup request) :
    ∃ ended, relay request (request.autoGroups.length * (request.retryTimes + 1) + 1) = some (some ended) ∧
      (EndsWithLast ended ↔
        ∃ number < request.autoGroups.length * (request.retryTimes + 1), ¬ Retried request number) := by
  rcases relay_returns request with nothing | ⟨first, loop, ended, isFirst, looping, ends, ran⟩
  · unfold relay cacheGetRandomSatisfiedChannel at nothing
    split at nothing
    · next found =>
      obtain ⟨group, member⟩ := exists_mem_of_ne_nil _ crossing.groups
      exact absurd (searchGroups_none found group member) (crossing.offer group member)
    · cases nothing
  · exact ⟨ended, ran, looping.ends_with_last_iff crossing isFirst ends⟩

def badGateway : RelayError := ⟨"bad gateway", false, false, false, false, 502⟩

def oneGroup (failures : Nat) : RelayRequest where
  modelName := "gpt"
  retryTimes := 1
  autoGroups := ["default"]
  candidates := fun _ => [plainChannel 1 "gpt" 0]
  crossGroupRetry := true
  skipRetryAfterAffinityFailure := false
  suppressesRetry := false
  shouldRetryByStatusCode := fun _ => true
  draw := fun _ => 0
  prepare := fun _ => none
  outcome := fun number => if number < failures then some badGateway else none

theorem oneGroup_crossGroup (failures : Nat) : CrossGroup (oneGroup failures) :=
  ⟨rfl, Nat.one_pos, nofun, fun _ _ => nofun, fun _ => rfl⟩

theorem relay_ends_with_last_error_iff_success :
    ∃ ended, relay (oneGroup 1) 3 = some (some ended) ∧ EndsWithLast ended := by
  obtain ⟨ended, ran, last⟩ := relay_ends_with_last_error_iff (oneGroup 1) (oneGroup_crossGroup 1)
  refine ⟨ended, ran, last.mpr ⟨1, by decide, ?_⟩⟩
  rintro ⟨_, failed, _⟩
  cases failed

theorem relay_hides_last_error :
    (relay (oneGroup 2) 3).bind (Option.map fun ended => (ended.attempts.length, ended.error)) =
      some (2, some (.getChannel "分组 auto 下模型 gpt 的可用渠道不存在（retry）")) := by
  rfl

end Wildflow.Channels
