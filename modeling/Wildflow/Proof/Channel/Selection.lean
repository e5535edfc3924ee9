import Mathlib.Algebra.BigOperators.Ring.List
import Mathlib.Data.List.Induction
import Wildflow.Channel.Selection

/-!
# Cached and uncached selection

They offer the same channels unless only the cache finds channels, under the normalized model name, or only the database
gives channels without a weight a chance.
-/

namespace Wildflow.Channels
open Wildflow.Store List
variable {ability : Ability} {channel : ChannelRow} {weight : ChannelRow → Nat} {found : List Ability}
  {channels : List ChannelRow} {priorities : List Int} {draw retry : Nat}

theorem drawBelow_some
    (drawn : drawBelow weight channels draw = some channel) : channel ∈ channels ∧ 0 < weight channel := by
  induction channels generalizing draw with
  | nil => cases drawn
  | cons first rest ih =>
    unfold drawBelow at drawn
    split at drawn
    · cases drawn
      exact ⟨List.mem_cons_self, by omega⟩
    · exact ⟨List.mem_cons_of_mem _ (ih drawn).1, (ih drawn).2⟩

theorem drawBelow_reaches (mem : channel ∈ channels) (pos : 0 < weight channel) :
    ∃ draw < (channels.map weight).sum, drawBelow weight channels draw = some channel := by
  induction channels with
  | nil => cases mem
  | cons first rest ih =>
    simp only [map_cons, sum_cons]
    rcases mem_cons.mp mem with rfl | later
    · exact ⟨0, by omega, if_pos pos⟩
    · obtain ⟨draw, below, drawn⟩ := ih later
      refine ⟨weight first + draw, by omega, ?_⟩
      rw [drawBelow, if_neg (by omega), Nat.add_sub_cancel_left]
      exact drawn

theorem drawBelow_draws (below : draw < (channels.map weight).sum) : drawBelow weight channels draw ≠ none := by
  induction channels generalizing draw with
  | nil => cases below
  | cons first rest ih =>
    simp only [map_cons, sum_cons] at below
    unfold drawBelow
    split
    · nofun
    · exact ih (by omega)

theorem drawUpTo_some (drawn : drawUpTo found draw = some ability) : ability ∈ found := by
  induction found generalizing draw with
  | nil => cases drawn
  | cons first rest ih =>
    unfold drawUpTo at drawn
    split at drawn
    · cases drawn
      exact List.mem_cons_self
    · exact List.mem_cons_of_mem _ (ih drawn)

theorem drawUpTo_reaches (mem : ability ∈ found) :
    ∃ draw, 0 < draw ∧ draw < (found.map fun ability => ability.weight + 10).sum ∧ drawUpTo found draw = some ability := by
  induction found with
  | nil => cases mem
  | cons first rest ih =>
    simp only [map_cons, sum_cons]
    rcases mem_cons.mp mem with rfl | later
    · exact ⟨1, by omega, by omega, if_pos (by omega)⟩
    · obtain ⟨draw, pos, below, drawn⟩ := ih later
      refine ⟨first.weight + 10 + draw, by omega, by omega, ?_⟩
      rw [drawUpTo, if_neg (by omega), Nat.add_sub_cancel_left]
      exact drawn

theorem drawUpTo_draws (below : draw < (found.map fun ability => ability.weight + 10).sum) :
    drawUpTo found draw ≠ none := by
  induction found generalizing draw with
  | nil => cases below
  | cons first rest ih =>
    simp only [map_cons, sum_cons] at below
    unfold drawUpTo
    split
    · nofun
    · exact ih (by omega)

theorem mem_uniquePriorities {priority : Int} : priority ∈ uniquePriorities priorities ↔ priority ∈ priorities := by
  simp [uniquePriorities]

theorem targetPriority_congr {others : List Int} (same : ∀ priority, priority ∈ priorities ↔ priority ∈ others)
    (retry : Nat) : targetPriority priorities retry = targetPriority others retry := by
  have perm : priorities.dedup.Perm others.dedup :=
    (perm_ext_iff_of_nodup (nodup_dedup _) (nodup_dedup _)).mpr (by simp [same])
  have equal : uniquePriorities priorities = uniquePriorities others :=
    (((perm_insertionSort _ _).trans perm).trans (perm_insertionSort _ _).symm).eq_of_pairwise'
      (pairwise_insertionSort _ _) (pairwise_insertionSort _ _)
  simp only [targetPriority, equal]

theorem targetPriority_mem (some : priorities ≠ []) (retry : Nat) : targetPriority priorities retry ∈ priorities := by
  obtain ⟨priority, mem⟩ := exists_mem_of_ne_nil _ some
  have inside : 0 < (uniquePriorities priorities).length := length_pos_of_mem (mem_uniquePriorities.mpr mem)
  rw [← mem_uniquePriorities, targetPriority, getD_eq_getElem?_getD, getElem?_eq_getElem (by omega), Option.getD_some]
  exact getElem_mem _

theorem targetChannels_ne_nil (some : channels ≠ []) (retry : Nat) : targetChannels channels retry ≠ [] := by
  obtain ⟨channel, mem, same⟩ := mem_map.mp
    (targetPriority_mem (map_eq_nil_iff.not.mpr some : channels.map ChannelRow.getPriority ≠ []) retry)
  exact ne_nil_of_mem (mem_filter.mpr ⟨mem, decide_eq_true same⟩)

theorem targetChannels_single (channel : ChannelRow) (retry : Nat) : targetChannels [channel] retry = [channel] := by
  have chosen := targetPriority_mem (cons_ne_nil channel.getPriority []) retry
  simp [targetChannels, mem_singleton.mp chosen]

theorem smoothedWeight_pos :
    0 < smoothedWeight channels channel ↔ (∀ other ∈ channels, other.getWeight = 0) ∨ 0 < channel.getWeight := by
  have unweighted : (channels.map ChannelRow.getWeight).sum = 0 ↔ ∀ other ∈ channels, other.getWeight = 0 := by
    simp [List.sum_eq_zero_iff_forall_eq_nat]
  grind [smoothedWeight]

theorem selectCandidate_offers :
    (∃ draw, selectCandidate channels retry draw = some channel) ↔ channel ∈ targetChannels channels retry ∧
      ((∀ other ∈ targetChannels channels retry, other.getWeight = 0) ∨ 0 < channel.getWeight) := by
  unfold selectCandidate
  split
  · simp [targetChannels]
  · next single =>
    rw [targetChannels_single]
    simp only [exists_const, Option.some.injEq, mem_singleton, forall_eq]
    grind
  · constructor
    · rintro ⟨draw, drawn⟩
      obtain ⟨mem, pos⟩ := drawBelow_some drawn
      exact ⟨mem, smoothedWeight_pos.mp pos⟩
    · rintro ⟨mem, weighted⟩
      obtain ⟨draw, below, drawn⟩ := drawBelow_reaches mem (smoothedWeight_pos.mpr weighted)
      exact ⟨draw, by dsimp only; rw [Nat.mod_eq_of_lt below]; exact drawn⟩

theorem exists_smoothedWeight_pos (some : channels ≠ []) :
    ∃ channel ∈ channels, 0 < smoothedWeight channels channel := by
  obtain ⟨first, mem⟩ := exists_mem_of_ne_nil _ some
  by_cases unweighted : ∀ other ∈ channels, other.getWeight = 0
  · exact ⟨first, mem, smoothedWeight_pos.mpr (.inl unweighted)⟩
  · push Not at unweighted
    obtain ⟨channel, inside, weighted⟩ := unweighted
    exact ⟨channel, inside, smoothedWeight_pos.mpr (.inr (Nat.pos_of_ne_zero weighted))⟩

theorem selectCandidate_none : (∃ draw, selectCandidate channels retry draw = none) ↔ channels = [] := by
  constructor
  · rintro ⟨draw, drawn⟩
    by_contra some
    unfold selectCandidate at drawn
    split at drawn
    · exact some rfl
    · cases drawn
    · obtain ⟨channel, mem, pos⟩ := exists_smoothedWeight_pos (targetChannels_ne_nil some retry)
      obtain ⟨_, below, _⟩ := drawBelow_reaches mem pos
      exact drawBelow_draws (Nat.mod_lt draw (Nat.zero_lt_of_lt below)) drawn
  · rintro rfl
    exact ⟨0, rfl⟩

theorem mem_cachedChannels {group model : String} :
    channel ∈ cachedChannels channels group model ↔
      channel ∈ channels ∧ channel.enabled = true ∧ group ∈ channel.groups ∧ model ∈ channel.models := by
  simp only [cachedChannels, mem_flatMap, mem_filter, mem_map, decide_eq_true_eq]
  grind

section
variable {channels : Table ChannelRow.id} {group model : String} {filters : List ChannelFilter}

def Registered (channels : Table ChannelRow.id) (group model : String) : Prop :=
  ∀ channel ∈ channels.rows, group ∈ channel.groups → model ∈ channel.models →
    ∃ ability ∈ updateAbilities channel, ability.group = group ∧ ability.model = model

theorem mem_foldl_addPair {pairs seen : List (String × String)} {pair : String × String}
    (kept : pair ∈ pairs.foldl addPair seen) :
    pair ∈ seen ∨ pair ∈ pairs := by
  induction pairs generalizing seen with
  | nil => exact .inl kept
  | cons first rest ih =>
    grind [addPair]

theorem updateAbilities_mem (mem : ability ∈ updateAbilities channel) :
    (ability.channelId = channel.id ∧ ability.enabled = channel.enabled ∧ ability.priority = channel.priority) ∧
      ability.group ∈ channel.groups ∧ ability.model ∈ channel.models := by
  obtain ⟨pair, kept, rfl⟩ := mem_map.mp mem
  have listed := (mem_foldl_addPair kept).resolve_left nofun
  simp only [mem_flatMap, mem_map] at listed
  obtain ⟨model, inModels, group, inGroups, rfl⟩ := listed
  exact ⟨⟨rfl, rfl, rfl⟩, inGroups, inModels⟩

def listed (channels : Table ChannelRow.id) (group model : String) (filters : List ChannelFilter) : List ChannelRow :=
  (cachedChannels channels.rows group model).filter (channelSatisfiesFilters filters model)

theorem ability_listed (mem : ability ∈ enabledAbilities channels group model filters) :
    ∃ channel ∈ listed channels group model filters, channels.find ability.channelId = some channel ∧
      ability.priority.getD 0 = channel.getPriority := by
  simp only [enabledAbilities, abilities, mem_filter, sortAbilities, mem_insertionSort, mem_flatMap, decide_eq_true_eq] at mem
  obtain ⟨⟨⟨channel, inside, own⟩, rfl, rfl, enabled⟩, passes⟩ := mem
  obtain ⟨⟨sameId, sameEnabled, samePriority⟩, inGroups, inModels⟩ := updateAbilities_mem own
  have found : channels.find ability.channelId = some channel := sameId ▸ Table.find_of_mem inside
  rw [found] at passes
  refine ⟨channel, mem_filter.mpr ⟨mem_cachedChannels.mpr ⟨inside, sameEnabled ▸ enabled, inGroups, inModels⟩, passes⟩,
    found, ?_⟩
  rw [samePriority]
  rfl

variable (registered : Registered channels group model)
include registered

theorem listed_ability (mem : channel ∈ listed channels group model filters) :
    ∃ ability ∈ enabledAbilities channels group model filters, channels.find ability.channelId = some channel ∧
      ability.priority.getD 0 = channel.getPriority := by
  obtain ⟨cached, passes⟩ := mem_filter.mp mem
  obtain ⟨inside, enabled, inGroups, inModels⟩ := mem_cachedChannels.mp cached
  obtain ⟨ability, own, rfl, rfl⟩ := registered channel inside inGroups inModels
  obtain ⟨⟨sameId, sameEnabled, samePriority⟩, _, _⟩ := updateAbilities_mem own
  have found : channels.find ability.channelId = some channel := sameId ▸ Table.find_of_mem inside
  refine ⟨ability, ?_, found, ?_⟩
  · simp only [enabledAbilities, abilities, mem_filter, sortAbilities, mem_insertionSort, mem_flatMap, decide_eq_true_eq]
    exact ⟨⟨⟨channel, inside, own⟩, trivial, trivial, sameEnabled ▸ enabled⟩, by rw [found]; exact passes⟩
  · rw [samePriority]
    rfl

theorem targetPriority_listed (retry : Nat) :
    targetPriority ((enabledAbilities channels group model filters).map fun ability => ability.priority.getD 0) retry =
      targetPriority ((listed channels group model filters).map ChannelRow.getPriority) retry := by
  refine targetPriority_congr (fun priority => ?_) retry
  simp only [mem_map]
  constructor
  · grind [ability_listed]
  · grind [listed_ability]

theorem getChannel_offers :
    (∃ draw, getChannel channels group model retry filters draw = some channel) ↔
      channel ∈ targetChannels (listed channels group model filters) retry := by
  simp only [targetChannels, mem_filter, decide_eq_true_eq, ← targetPriority_listed registered]
  constructor
  · rintro ⟨draw, drawn⟩
    obtain ⟨ability, chosen, found⟩ := Option.bind_eq_some_iff.mp drawn
    obtain ⟨mem, target⟩ := mem_filter.mp (drawUpTo_some chosen)
    obtain ⟨other, inside, found', same⟩ := ability_listed mem
    rw [found] at found'
    cases found'
    exact ⟨inside, same.symm.trans (of_decide_eq_true target)⟩
  · rintro ⟨mem, target⟩
    obtain ⟨ability, inside, found, same⟩ := listed_ability registered mem
    have chosen : ability ∈ targetAbilities (enabledAbilities channels group model filters) retry :=
      mem_filter.mpr ⟨inside, decide_eq_true (same.trans target)⟩
    obtain ⟨draw, _, below, drawn⟩ := drawUpTo_reaches chosen
    refine ⟨draw, Option.bind_eq_some_iff.mpr ⟨ability, ?_, found⟩⟩
    rw [Nat.mod_eq_of_lt below]
    exact drawn

theorem getChannel_none :
    (∃ draw, getChannel channels group model retry filters draw = none) ↔ listed channels group model filters = [] := by
  constructor
  · rintro ⟨draw, drawn⟩
    by_contra some
    obtain ⟨channel, mem⟩ := exists_mem_of_ne_nil _ (targetChannels_ne_nil some retry)
    obtain ⟨_, reached⟩ := (getChannel_offers registered).mpr mem
    obtain ⟨ability, chosen, _⟩ := Option.bind_eq_some_iff.mp reached
    obtain ⟨_, _, below, _⟩ := drawUpTo_reaches (drawUpTo_some chosen)
    cases res : drawUpTo (targetAbilities (enabledAbilities channels group model filters) retry) (draw % _) with
    | none => exact drawUpTo_draws (Nat.mod_lt draw (Nat.zero_lt_of_lt below)) res
    | some other =>
      obtain ⟨_, _, found, _⟩ := ability_listed (mem_filter.mp (drawUpTo_some res)).1
      simp only [getChannel, res, Option.bind_some, found] at drawn
      cases drawn
  · intro empty
    refine ⟨0, ?_⟩
    cases res : getChannel channels group model retry filters 0 with
    | none => rfl
    | some channel =>
      have mem := (getChannel_offers registered).mp ⟨0, res⟩
      rw [empty] at mem
      cases mem

end

section
variable (routing : String → String) (channels : Table ChannelRow.id) (group model : String) (retry : Nat)
  (filters : List ChannelFilter)

def SameOffers : Prop :=
  (∀ channel, (∃ draw, getRandomSatisfiedChannel routing channels.rows group model retry filters draw = some channel) ↔
    ∃ draw, getChannel channels group model retry filters draw = some channel) ∧
  ((∃ draw, getRandomSatisfiedChannel routing channels.rows group model retry filters draw = none) ↔
    ∃ draw, getChannel channels group model retry filters draw = none)

/-- No channel that passes the filters has the model under its normalized name alone. -/
def NoFallback : Prop :=
  listed channels group model filters = [] → candidates routing channels.rows group model filters = []

def EvenWeights : Prop :=
  (∀ channel ∈ targetChannels (listed channels group model filters) retry, channel.getWeight = 0) ∨
    ∀ channel ∈ targetChannels (listed channels group model filters) retry, 0 < channel.getWeight

theorem selection_agrees_iff (registered : Registered channels group model) :
    SameOffers routing channels group model retry filters ↔
      NoFallback routing channels group model filters ∧ EvenWeights channels group model retry filters := by
  simp only [SameOffers, getRandomSatisfiedChannel, selectCandidate_offers, selectCandidate_none, getChannel_offers registered,
    getChannel_none registered]
  by_cases empty : listed channels group model filters = []
  · have even : EvenWeights channels group model retry filters := .inl (by simp [empty, targetChannels])
    simp only [NoFallback, empty, even, and_true, true_implies, iff_true]
    constructor
    · exact And.right
    · intro nothing
      simp [nothing, targetChannels]
  · have exact : candidates routing channels.rows group model filters = listed channels group model filters := if_neg empty
    simp only [NoFallback, empty, exact, false_implies, true_and, and_true, EvenWeights]
    simp only [and_iff_left_iff_imp]
    by_cases unweighted : ∀ channel ∈ targetChannels (listed channels group model filters) retry, channel.getWeight = 0
    · exact iff_of_true (fun _ _ => .inl unweighted) (.inl unweighted)
    · simp only [or_iff_right unweighted]

end

def plainChannel (id : Nat) (model : String) (weight : Nat) : ChannelRow :=
  ⟨id, 1, true, ["default"], [model], none, some weight, "", fun _ _ => false⟩

def twoChannels (firstWeight : Nat) : Table ChannelRow.id :=
  ⟨[plainChannel 1 "gpt" firstWeight, plainChannel 2 "gpt" 5], (by decide : [1, 2].Nodup)⟩

theorem twoChannels_registered (firstWeight : Nat) : Registered (twoChannels firstWeight) "default" "gpt" := by
  have own : ∀ id weight, ∃ ability ∈ updateAbilities (plainChannel id "gpt" weight),
      ability.group = "default" ∧ ability.model = "gpt" := fun _ _ => ⟨_, List.mem_cons_self, rfl, rfl⟩
  simp [Registered, twoChannels, own]

theorem selection_agrees_iff_weighted : SameOffers id (twoChannels 5) "default" "gpt" 0 [] := by
  refine (selection_agrees_iff id (twoChannels 5) "default" "gpt" 0 [] (twoChannels_registered 5)).mpr ⟨nofun, .inr ?_⟩
  rw [show targetChannels (listed (twoChannels 5) "default" "gpt" []) 0 = (twoChannels 5).rows from rfl]
  simp [twoChannels, plainChannel, ChannelRow.getWeight]

theorem selection_disagrees : ¬ SameOffers id (twoChannels 0) "default" "gpt" 0 [] := by
  intro same
  obtain ⟨weighted, positive⟩ := selectCandidate_offers.mp ((same.1 (plainChannel 1 "gpt" 0)).mpr ⟨16, rfl⟩)
  rw [show targetChannels (candidates id (twoChannels 0).rows "default" "gpt" []) 0 = (twoChannels 0).rows from rfl] at positive
  simp [twoChannels, plainChannel, ChannelRow.getWeight] at positive

/-- Of the draws below `total`, a set of candidates gets as many as its weights add up to. -/
def DrawsExact {α : Type} (select : Nat → Option α) (weight : α → Nat) (candidates : List α) (total : Nat) : Prop :=
  total = (candidates.map weight).sum ∧ ∀ chosen : α → Bool,
    (List.range total).countP (fun draw => (select draw).any chosen) = ((candidates.filter chosen).map weight).sum

theorem totalWeight_eq_sum (targets : List ChannelRow) :
    totalWeight targets = (targets.map (smoothedWeight targets)).sum := by
  unfold totalWeight smoothedWeight
  dsimp only
  split
  · simp
  · split
    · exact (sum_map_mul_right ..).symm
    · rfl

theorem drawBelow_count (weight : ChannelRow → Nat) (targets : List ChannelRow) (chosen : ChannelRow → Bool) :
    (List.range (targets.map weight).sum).countP (fun draw => (drawBelow weight targets draw).any chosen) =
      ((targets.filter chosen).map weight).sum := by
  induction targets with
  | nil => rfl
  | cons channel rest ih =>
    have own : (List.range (weight channel)).countP (fun draw => (drawBelow weight (channel :: rest) draw).any chosen) =
        if chosen channel then weight channel else 0 := by
      have same : ∀ draw ∈ List.range (weight channel),
          (drawBelow weight (channel :: rest) draw).any chosen = chosen channel := by
        intro draw below
        simp [drawBelow, mem_range.mp below]
      rw [countP_congr fun draw below => by rw [same draw below]]
      cases chosen channel <;> simp
    have later : ∀ draw, drawBelow weight (channel :: rest) (weight channel + draw) = drawBelow weight rest draw := by
      simp [drawBelow]
    rw [map_cons, sum_cons, range_add, countP_append, own, countP_map]
    simp only [Function.comp_def, later, ih, filter_cons]
    cases chosen channel <;> simp

theorem drawUpTo_head {rest : List Ability} (within : draw ≤ ability.weight + 10) :
    drawUpTo (ability :: rest) draw = some ability := by
  rw [drawUpTo, if_pos within]

theorem drawUpTo_exact_iff (some : found ≠ []) (nodup : (found.map Ability.channelId).Nodup) :
    DrawsExact (drawUpTo found) (fun ability => ability.weight + 10) found (found.map fun ability => ability.weight + 10).sum ↔
      found.length = 1 := by
  constructor
  · rintro ⟨_, exact⟩
    rcases found with _ | ⟨first, _ | ⟨second, rest⟩⟩
    · exact absurd rfl some
    · rfl
    · have others : (second :: rest).filter (fun ability => ability.channelId = first.channelId) = [] := by
        rw [filter_eq_nil_iff]
        intro ability among same
        exact (nodup_cons.mp nodup).1 (of_decide_eq_true same ▸ mem_map_of_mem among)
      have counted := exact fun ability => ability.channelId = first.channelId
      rw [filter_cons_of_pos (by simp), others] at counted
      have early : first.weight + 11 ≤ (List.range (first.weight + 11)).countP
          fun draw => (drawUpTo (first :: second :: rest) draw).any fun ability => ability.channelId = first.channelId := by
        refine (length_range.symm.trans (countP_eq_length.mpr fun draw below => ?_).symm).le
        simp [drawUpTo_head (Nat.lt_succ_iff.mp (mem_range.mp below))]
      have range : (List.range (first.weight + 11)).Sublist
          (List.range ((first :: second :: rest).map fun ability => ability.weight + 10).sum) :=
        range_sublist.mpr (by simp; omega)
      have most := early.trans range.countP_le
      rw [counted] at most
      simp at most
  · intro single
    obtain ⟨ability, rfl⟩ := length_eq_one_iff.mp single
    refine ⟨rfl, fun chosen => ?_⟩
    have same : ∀ draw ∈ List.range ([ability].map fun ability => ability.weight + 10).sum,
        (drawUpTo [ability] draw).any chosen = chosen ability := by
      intro draw below
      rw [drawUpTo_head (by simpa using (mem_range.mp below).le)]
      rfl
    rw [countP_congr fun draw below => by rw [same draw below]]
    cases taken : chosen ability <;> simp [taken]

theorem weighted_draws_exact_iff (targets : List ChannelRow) {found : List Ability} (some : found ≠ [])
    (distinct : (found.map Ability.channelId).Nodup) :
    DrawsExact (drawBelow (smoothedWeight targets) targets) (smoothedWeight targets) targets (totalWeight targets) ∧
      DrawsExact (drawUpTo found) (fun ability => ability.weight + 10) found
        (found.map fun ability => ability.weight + 10).sum ↔ found.length = 1 := by
  have cached : DrawsExact (drawBelow (smoothedWeight targets) targets) (smoothedWeight targets) targets
      (totalWeight targets) := by
    refine ⟨totalWeight_eq_sum targets, fun chosen => ?_⟩
    rw [totalWeight_eq_sum]
    exact drawBelow_count (smoothedWeight targets) targets chosen
  rw [and_iff_right cached, drawUpTo_exact_iff some distinct]

theorem weighted_draws_exact_single :
    let targets := (twoChannels 5).rows
    let found := updateAbilities (plainChannel 2 "gpt" 5)
    DrawsExact (drawBelow (smoothedWeight targets) targets) (smoothedWeight targets) targets 1000 ∧
      DrawsExact (drawUpTo found) (fun ability => ability.weight + 10) found 15 :=
  (weighted_draws_exact_iff (twoChannels 5).rows (by exact cons_ne_nil _ _)
    (by exact nodup_singleton 2)).mpr rfl

/-- The ability of weight 5 comes first and gets the draws up to 15, which leaves nine for the other one. -/
theorem first_ability_one_draw_more :
    let found := targetAbilities (enabledAbilities (twoChannels 0) "default" "gpt" []) 0
    found.map Ability.weight = [5, 0] ∧
      (List.range 25).countP (fun draw => (drawUpTo found draw).any (·.weight = 5)) = 16 ∧
      ¬DrawsExact (drawUpTo found) (fun ability => ability.weight + 10) found 25 := by
  refine ⟨by decide, by decide, fun ⟨_, exact⟩ => ?_⟩
  exact absurd (exact fun ability => ability.weight = 5) (by decide)

section
variable {channels : Table ChannelRow.id} {abilities : List Ability} {index after : GroupIndex} {group model : String}

theorem appendEntry_spec {e : String × String × Nat} (ran : appendEntry index e = some after) :
    (∀ group, after.get group = none ↔ index.get group = none) ∧ ∀ group model, after.channelIds group model =
      index.channelIds group model ++ ([e].filter fun e => e.1 = group ∧ e.2.1 = model).map (·.2.2) := by
  obtain ⟨models, made, rfl⟩ := Option.map_eq_some_iff.mp ran
  constructor
  · intro group
    rw [Dict.get_set]
    split
    · next same => simp [← same, made]
    · rfl
  · intro group model
    by_cases sameGroup : e.1 = group
    · subst sameGroup
      by_cases sameModel : e.2.1 = model
      · simp [GroupIndex.channelIds, made, sameModel]
      · simp [GroupIndex.channelIds, made, sameModel, Dict.get_set_of_ne]
    · simp [GroupIndex.channelIds, sameGroup, Dict.get_set_of_ne]

theorem appendEntries_completes {entries : List (String × String × Nat)} :
    (∃ after, entries.foldlM appendEntry index = some after) ↔ ∀ e ∈ entries, index.get e.1 ≠ none := by
  induction entries generalizing index with
  | nil => simp
  | cons e rest ih =>
    rw [foldlM_cons, forall_mem_cons]
    cases ran : appendEntry index e with
    | none => simp [Option.map_eq_none_iff.mp ran]
    | some next =>
      have made : index.get e.1 ≠ none := by
        intro missing
        simp [appendEntry, missing] at ran
      simp only [Option.bind_eq_bind, Option.bind_some, ih, (appendEntry_spec ran).1, made, ne_eq, not_false_eq_true, true_and]

theorem appendEntries_ids {entries : List (String × String × Nat)} (ran : entries.foldlM appendEntry index = some after) :
    after.channelIds group model =
      index.channelIds group model ++ (entries.filter fun e => e.1 = group ∧ e.2.1 = model).map (·.2.2) := by
  induction entries generalizing index with
  | nil =>
    cases ran
    simp
  | cons e rest ih =>
    rw [foldlM_cons] at ran
    obtain ⟨next, first, later⟩ := Option.bind_eq_some_iff.mp ran
    rw [ih later, (appendEntry_spec first).2, append_assoc, ← map_append, ← filter_append]
    rfl

theorem madeGroups_get : (madeGroups abilities).get group =
    if ∃ ability ∈ abilities, ability.group = group then some Dict.empty else none := by
  induction abilities using List.reverseRecOn with
  | nil => simp [madeGroups]
  | append_singleton rest ability ih =>
    rw [madeGroups, foldl_append, ← madeGroups]
    by_cases own : ability.group = group <;> simp [Dict.get_set, own, ih]

theorem channelIds_madeGroups : (madeGroups abilities).channelIds group model = [] := by
  rw [GroupIndex.channelIds, madeGroups_get]
  split <;> rfl

theorem cacheEntries_cached (channels : List ChannelRow) (group model : String) :
    ((cacheEntries channels).filter fun e => e.1 = group ∧ e.2.1 = model).map (·.2.2) =
      (cachedChannels channels group model).map ChannelRow.id := by
  simp only [cacheEntries, cachedChannels, filter_flatMap, map_flatMap]
  congr 1
  funext channel
  induction channel.groups with
  | nil => rfl
  | cons first rest ih =>
    rw [flatMap_cons, filter_cons, ih]
    by_cases same : first = group <;> simp [same, filter_map, Function.comp_def]

theorem cachedChannels_eq (channels : List ChannelRow) (group model : String) :
    cachedChannels channels group model = (channels.filter ChannelRow.enabled).flatMap fun channel =>
      replicate (channel.groups.count group * channel.models.count model) channel := by
  unfold cachedChannels
  congr 1
  funext channel
  simp [filter_eq, flatMap_replicate]

theorem cachedChannels_nodup (channels : Table ChannelRow.id) (group model : String) :
    ((cachedChannels channels.rows group model).map ChannelRow.id).Nodup ↔
      ∀ channel ∈ channels.rows, channel.enabled → channel.groups.count group * channel.models.count model ≤ 1 := by
  have apart : (channels.rows.filter ChannelRow.enabled).Pairwise fun first second => first.id ≠ second.id :=
    (pairwise_map.mp channels.unique).sublist filter_sublist
  simp only [cachedChannels_eq, map_flatMap, map_replicate, nodup_flatMap, nodup_replicate, mem_filter, and_imp]
  refine and_iff_left (apart.imp fun ne => ?_)
  intro id own other
  exact ne ((eq_of_mem_replicate own).symm.trans (eq_of_mem_replicate other))

theorem listed_once_iff (channel : ChannelRow) :
    (∀ group model, channel.groups.count group * channel.models.count model ≤ 1) ↔
      (channel.models ≠ [] → channel.groups ≠ [] → channel.groups.Nodup ∧ channel.models.Nodup) := by
  simp only [nodup_iff_count_le_one]
  constructor
  · intro once models groups
    obtain ⟨model, inModels⟩ := exists_mem_of_ne_nil _ models
    obtain ⟨group, inGroups⟩ := exists_mem_of_ne_nil _ groups
    exact ⟨fun other => (Nat.le_mul_of_pos_right _ (count_pos_iff.mpr inModels)).trans (once other model),
      fun other => (Nat.le_mul_of_pos_left _ (count_pos_iff.mpr inGroups)).trans (once group other)⟩
  · intro once group model
    by_cases models : channel.models = []
    · simp [models]
    by_cases groups : channel.groups = []
    · simp [groups]
    exact Nat.mul_le_mul ((once models groups).1 group) ((once models groups).2 model)

theorem sortByPriority_pairwise (ids : List Nat) :
    (sortByPriority channels ids).Pairwise fun first second => cachedPriority channels second ≤ cachedPriority channels first :=
  @pairwise_insertionSort _ (fun first second => cachedPriority channels second ≤ cachedPriority channels first) _
    ⟨fun _ _ => le_total _ _⟩ ⟨fun _ _ _ first second => second.trans first⟩ ids

theorem channelIds_sorted :
    (GroupIndex.channelIds (index.map (fun models =>
        (models.1, models.2.map (fun listed => (listed.1, sortByPriority channels listed.2))
      fun _ => rfl)) fun _ => rfl) group model) = sortByPriority channels (index.channelIds group model) := by
  simp only [GroupIndex.channelIds, Dict.get, Table.find_map]
  cases index.find group with
  | none => rfl
  | some models =>
    simp only [Option.map_some, Option.bind_some, Table.find_map]
    cases models.2.find model with
    | none => rfl
    | some listed => rfl

theorem initChannelCache_completes :
    (∃ index, initChannelCache channels abilities = some index) ↔
      ∀ channel ∈ channels.rows, channel.enabled → channel.models ≠ [] → ∀ group ∈ channel.groups,
        ∃ ability ∈ abilities, ability.group = group := by
  have completes := @appendEntries_completes (madeGroups abilities) (cacheEntries channels.rows)
  simp only [madeGroups_get, ne_eq, ite_eq_right_iff, reduceCtorEq, imp_false, not_not] at completes
  simp only [initChannelCache, Option.map_eq_some_iff, exists_comm, exists_and_left, exists_eq', and_true, completes]
  simp only [cacheEntries, mem_flatMap, mem_filter, mem_map]
  constructor
  · intro known channel mem enabled nonempty group listed
    obtain ⟨model, inModels⟩ := exists_mem_of_ne_nil _ nonempty
    exact known (group, model, channel.id) ⟨channel, ⟨mem, enabled⟩, group, listed, model, inModels, rfl⟩
  · rintro known _ ⟨channel, ⟨mem, enabled⟩, group, listed, model, inModels, rfl⟩
    exact known channel mem enabled (ne_nil_of_mem inModels) group listed

/-- The published index lists the channels that the selection reads, sorted by priority. -/
theorem initChannelCache_cached (built : initChannelCache channels abilities = some index) (group model : String) :
    index.channelIds group model = sortByPriority channels ((cachedChannels channels.rows group model).map ChannelRow.id) := by
  obtain ⟨after, ran, rfl⟩ := Option.map_eq_some_iff.mp built
  rw [channelIds_sorted, appendEntries_ids ran, channelIds_madeGroups, List.nil_append, cacheEntries_cached]

theorem initChannelCache_indexes_iff (channels : Table ChannelRow.id) (abilities : List Ability) :
    (∃ index, initChannelCache channels abilities = some index ∧ ∀ group model,
      (∀ id, id ∈ index.channelIds group model ↔ ∃ channel ∈ channels.rows,
        channel.id = id ∧ channel.enabled ∧ group ∈ channel.groups ∧ model ∈ channel.models) ∧
      (index.channelIds group model).Nodup ∧
      (index.channelIds group model).Pairwise fun first second =>
        cachedPriority channels second ≤ cachedPriority channels first) ↔
    ∀ channel ∈ channels.rows, channel.enabled → channel.models ≠ [] → channel.groups ≠ [] →
      channel.groups.Nodup ∧ channel.models.Nodup ∧ ∀ group ∈ channel.groups, ∃ ability ∈ abilities, ability.group = group := by
  have once : (∀ group model, ((cachedChannels channels.rows group model).map ChannelRow.id).Nodup) ↔
      ∀ channel ∈ channels.rows, channel.enabled → channel.models ≠ [] → channel.groups ≠ [] →
        channel.groups.Nodup ∧ channel.models.Nodup := by
    simp only [cachedChannels_nodup, ← listed_once_iff]
    exact ⟨fun all channel mem enabled group model => all group model channel mem enabled,
      fun all group model channel mem enabled => all channel mem enabled group model⟩
  constructor
  · rintro ⟨index, built, published⟩ channel mem enabled models groups
    have distinct := once.mp fun group model => by
      have listed := (published group model).2.1
      rwa [initChannelCache_cached built, sortByPriority, (perm_insertionSort _ _).nodup_iff] at listed
    obtain ⟨first, second⟩ := distinct channel mem enabled models groups
    exact ⟨first, second, initChannelCache_completes.mp ⟨index, built⟩ channel mem enabled models⟩
  · intro known
    obtain ⟨index, built⟩ := initChannelCache_completes.mpr fun channel mem enabled models group listed =>
      (known channel mem enabled models (ne_nil_of_mem listed)).2.2 group listed
    refine ⟨index, built, fun group model => ?_⟩
    have distinct := once.mpr (fun channel mem enabled models groups =>
      have all := known channel mem enabled models groups
      ⟨all.1, all.2.1⟩) group model
    rw [initChannelCache_cached built]
    refine ⟨fun id => ?_, ((perm_insertionSort _ _).nodup_iff).mpr distinct, sortByPriority_pairwise _⟩
    rw [sortByPriority, mem_insertionSort, mem_map]
    simp only [mem_cachedChannels]
    exact ⟨fun ⟨channel, ⟨mem, listed⟩, same⟩ => ⟨channel, mem, same, listed⟩,
      fun ⟨channel, mem, same, listed⟩ => ⟨channel, ⟨mem, listed⟩, same⟩⟩
end

theorem initChannelCache_panics_after_delete : initChannelCache (twoChannels 0) (abilities []) = none := rfl

end Wildflow.Channels
