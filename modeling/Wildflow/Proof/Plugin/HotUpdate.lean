import Wildflow.Proof.Plugin.Generation

/-!
# Hot updates

After an update: every unchanged plugin, and of every replaced one the new version, the old one, or something that the
old one clashes with.
-/

namespace Wildflow.Plugin
open Wildflow.Store Table List
variable {candidate incumbent plugin : LoadedPlugin} {generation : RoutingGeneration} {retainCurrent : List String}
  {number : Nat} {plugins : PluginMap} {why : String}

theorem indexRoutes_routes {routes : List Route} {i after : RouteIndex}
    (ran : routes.foldlM (indexRoute plugin) i = .ok after) :
    after.routes = i.routes ++ routes.map (RouteBinding.mk plugin) := by
  induction routes generalizing i with
  | nil =>
    cases ran
    simp
  | cons r rest ih =>
    rw [foldlM_cons] at ran
    obtain ⟨next, ranFirst, ranRest⟩ := except_bind_ok.mp ran
    obtain ⟨key, _, stored⟩ := except_bind_ok.mp ranFirst
    split at stored
    · cases stored
    · cases stored
      rw [ih ranRest]
      simp

theorem foldlM_addPlugin_frame {plugins : List LoadedPlugin} {after : RoutingGeneration}
    (ran : plugins.foldlM addPlugin generation = .ok after) :
    after.plugins = generation.plugins ++ plugins ∧ after.byKey = plugins.foldl Table.put generation.byKey ∧
      after.number = generation.number ∧ after.retainCurrent = generation.retainCurrent ∧ after.runtime = generation.runtime ∧
      after.routes = generation.routes ++ plugins.flatMap fun plugin => plugin.routes.map (RouteBinding.mk plugin) := by
  induction plugins generalizing generation with
  | nil =>
    cases ran
    simp
  | cons plugin rest ih =>
    rw [foldlM_cons] at ran
    obtain ⟨next, ranFirst, ranRest⟩ := except_bind_ok.mp ran
    obtain ⟨models, _, ranFirst⟩ := except_bind_ok.mp ranFirst
    obtain ⟨types, _, ranFirst⟩ := except_bind_ok.mp ranFirst
    obtain ⟨routes, ranRoutes, ranFirst⟩ := except_bind_ok.mp ranFirst
    obtain ⟨bindings, _, ranFirst⟩ := except_bind_ok.mp ranFirst
    have routesAfter := indexRoutes_routes ranRoutes
    cases ranFirst
    obtain ⟨samePlugins, sameKeys, sameNumber, sameRetained, sameRuntime, sameRoutes⟩ := ih ranRest
    refine ⟨by rw [samePlugins]; simp, sameKeys, sameNumber, sameRetained, sameRuntime, ?_⟩
    rw [sameRoutes, routesAfter]
    simp

structure BuiltFrom (plugins : PluginMap) (number : Nat) (generation : RoutingGeneration) : Prop where
  coherent : Coherent plugins
  plugins : generation.plugins = sortByKey plugins.rows
  byKey : generation.byKey = generation.plugins.foldl Table.put Table.empty
  number : generation.number = number
  routes : generation.routes = generation.plugins.flatMap fun plugin => plugin.routes.map (RouteBinding.mk plugin)

theorem builtFrom_of_build
    (built : buildRoutingGenerationFromPlugins plugins number = .ok generation) : BuiltFrom plugins number generation := by
  obtain ⟨samePlugins, sameKeys, sameNumber, _, _, sameRoutes⟩ := foldlM_addPlugin_frame built
  have samePlugins : generation.plugins = sortByKey plugins.rows := samePlugins
  refine ⟨(build_ok_iff plugins number).mp ⟨generation, built⟩, samePlugins, ?_, sameNumber, ?_⟩
  · rw [sameKeys, samePlugins]
  · rw [sameRoutes, samePlugins]
    rfl

section
variable {plugins : PluginMap} {number : Nat} {generation : RoutingGeneration}

theorem BuiltFrom.find (built : BuiltFrom plugins number generation) (key : String) :
    generation.byKey.find key = plugins.find key := by
  have sorted := sortByKey_perm plugins.rows
  have rows : generation.byKey.rows = sortByKey plugins.rows := by
    rw [built.byKey, built.plugins]
    have nodup : ((sortByKey plugins.rows).map LoadedPlugin.key).Nodup :=
      (sorted.map LoadedPlugin.key).nodup_iff.mpr plugins.unique
    exact rows_foldl_put nodup fun _ _ => rfl
  apply find_congr
  intro plugin
  rw [rows]
  exact sorted.mem_iff

theorem BuiltFrom.incumbents (built : BuiltFrom plugins number generation) (key : String) :
    (currentByKey (some generation)).find key = plugins.find key := by
  rw [← built.find key, built.byKey]
  rfl

end

theorem Coherent.subset {small big : PluginMap} (coherent : Coherent big) (sub : ∀ row ∈ small.rows, row ∈ big.rows) :
    Coherent small :=
  ⟨fun plugin mem => coherent.own plugin (sub plugin mem),
    fun plugin mem other memOther => coherent.fits plugin (sub plugin mem) other (sub other memOther)⟩

theorem clash_of_not_coherent {accepted : PluginMap} (coherent : Coherent accepted)
    (own : SelfConsistent plugin) (refused : ¬ Coherent (accepted.put plugin)) :
    ∃ other ∈ accepted.rows, ¬ Compatible other plugin := by
  by_contra none
  simp only [not_exists, not_and, not_not] at none
  exact refused ⟨by grind [coherent.own], by grind [coherent.fits, Compatible.symm]⟩

def TrialBuilt (number : Nat) (s : AdmissionState) : Prop :=
  buildRoutingGenerationFromPlugins s.accepted number = .ok s.generation

section
variable {number : Nat} {s s' : AdmissionState} {plugin : LoadedPlugin}

theorem tryPlugin_puts (s : AdmissionState) (plugin : LoadedPlugin) (s' : AdmissionState)
    (ran : tryPlugin number s plugin = .ok s') : s'.accepted = s.accepted.put plugin := by
  grind [tryPlugin]

theorem tryPlugin_built (ran : tryPlugin number s plugin = .ok s') : TrialBuilt number s' := by
  grind [tryPlugin, TrialBuilt]

theorem tryPlugin_of_coherent (coherent : Coherent (s.accepted.put plugin)) :
    ∃ s', tryPlugin number s plugin = .ok s' := by
  obtain ⟨generation, built⟩ := (build_ok_iff (s.accepted.put plugin) number).mpr coherent
  exact ⟨_, by simp only [tryPlugin, built]; rfl⟩

theorem not_coherent_of_refused (failed : tryPlugin number s plugin = .error why) :
    ¬ Coherent (s.accepted.put plugin) := by
  intro coherent
  obtain ⟨s', ran⟩ := @tryPlugin_of_coherent number s plugin coherent
  rw [ran] at failed
  cases failed

end

theorem admissionOrder_perm (incumbents : PluginMap) (candidates : List LoadedPlugin) :
    (admissionOrder incumbents candidates).Perm candidates := by
  have same := filter_append_perm (fun plugin => decide (incumbents.find plugin.key = some plugin)) candidates
  have replaced := filter_append_perm (fun plugin => (incumbents.find plugin.key).any fun incumbent => incumbent ≠ plugin)
    (candidates.filter fun plugin => !decide (incumbents.find plugin.key = some plugin))
  have second : (candidates.filter fun plugin => !decide (incumbents.find plugin.key = some plugin)).filter
      (fun plugin => (incumbents.find plugin.key).any fun incumbent => incumbent ≠ plugin) =
      candidates.filter fun plugin => (incumbents.find plugin.key).any fun incumbent => incumbent ≠ plugin := by
    rw [filter_filter]
    refine filter_congr fun plugin _ => ?_
    cases incumbents.find plugin.key <;> simp
  have third : (candidates.filter fun plugin => !decide (incumbents.find plugin.key = some plugin)).filter
      (fun plugin => !(incumbents.find plugin.key).any fun incumbent => incumbent ≠ plugin) =
      candidates.filter fun plugin => incumbents.find plugin.key = none := by
    rw [filter_filter]
    refine filter_congr fun plugin _ => ?_
    cases incumbents.find plugin.key <;> simp
  rw [second, third] at replaced
  unfold admissionOrder
  rw [append_assoc]
  refine ((sortByKey_perm _).append ((sortByKey_perm _).append (sortByKey_perm _))).trans ?_
  exact (replaced.append_left _).trans same

theorem admissionOrder_distinct (incumbents candidates : PluginMap) :
    ((admissionOrder incumbents candidates.rows).map LoadedPlugin.key).Nodup :=
  ((admissionOrder_perm incumbents candidates.rows).map LoadedPlugin.key).nodup_iff.mpr candidates.unique

theorem fallback_key {incumbents : PluginMap}
    (found : fallbackOf incumbents retainCurrent candidate = some incumbent) : incumbent.key = candidate.key :=
  key_of_find (Option.filter_eq_some_iff.mp found).1

theorem fallbackOf_eq_some {incumbents : PluginMap} :
    fallbackOf incumbents retainCurrent candidate = some incumbent ↔
      incumbents.find candidate.key = some incumbent ∧ candidate.key ∈ retainCurrent ∧ incumbent ≠ candidate := by
  simp [fallbackOf, Option.filter_eq_some_iff]

section
variable {incumbents candidates : PluginMap} {number : Nat} {retainCurrent : List String} {start : AdmissionState}

def afterUpdate (incumbents candidates : PluginMap) (number : Nat) (retainCurrent : List String) (start : AdmissionState) :
    AdmissionState :=
  admitOrSubstitute (tryPlugin number) (fallbackOf incumbents retainCurrent) start (admissionOrder incumbents candidates.rows)

theorem afterUpdate_built (built : TrialBuilt number start) :
    TrialBuilt number (afterUpdate incumbents candidates number retainCurrent start) :=
  admitAll_invariant (fun _ _ _ _ _ ran => tryPlugin_built ran)
    (admitAll_invariant (fun _ _ _ _ _ ran => tryPlugin_built ran) built)

section
variable (empty : start.accepted = Table.empty)
include empty

theorem update_substitutes :
    Substitutes (tryPlugin number) AdmissionState.accepted (fallbackOf incumbents retainCurrent) start
      (admissionOrder incumbents candidates.rows) where
  puts := tryPlugin_puts
  same := fun _ _ found => fallback_key found
  distinct := admissionOrder_distinct incumbents candidates
  empty := fun _ => by
    rw [empty]
    rfl

theorem unchanged_kept (coherent : Coherent incumbents)
    (mem : plugin ∈ candidates.rows) (same : incumbents.find plugin.key = some plugin) (why : String) :
    (plugin, why) ∉ (admitAll (tryPlugin number) start (admissionOrder incumbents candidates.rows)).2 := by
  intro refused
  let settled := sortByKey (candidates.rows.filter fun plugin => incumbents.find plugin.key = some plugin)
  let others := sortByKey (candidates.rows.filter fun plugin =>
      (incumbents.find plugin.key).any fun incumbent => incumbent ≠ plugin) ++
    sortByKey (candidates.rows.filter fun plugin => incumbents.find plugin.key = none)
  have order : admissionOrder incumbents candidates.rows = settled ++ others := by
    simp only [admissionOrder, settled, others, append_assoc]
  have allTaken : (admitAll (tryPlugin number) start settled).2 = [] := by
    refine @admitAll_all _ _ _ _ (fun s => ∀ row ∈ s.accepted.rows, row ∈ incumbents.rows) settled ?_ start ?_
    · intro candidate inside s known
      have inService : candidate ∈ incumbents.rows := by
        have kept := (mem_filter.mp (mem_sortByKey.mp inside)).2
        exact mem_of_find (of_decide_eq_true kept)
      have sub : ∀ row ∈ (s.accepted.put candidate).rows, row ∈ incumbents.rows := by
        intro row memberRow
        rcases mem_put.mp memberRow with rfl | ⟨old, _⟩
        · exact inService
        · exact known row old
      obtain ⟨s', ran⟩ := @tryPlugin_of_coherent number s candidate (coherent.subset sub)
      refine ⟨s', ran, ?_⟩
      rw [tryPlugin_puts s candidate s' ran]
      exact sub
    · rw [empty]
      nofun
  have memberSettled : plugin ∈ settled := mem_sortByKey.mpr (mem_filter.mpr ⟨mem, decide_eq_true same⟩)
  have refusedLater : plugin ∈ others := by
    rw [order, admitAll_append, allTaken, List.nil_append] at refused
    exact (refused_sublist _ others).subset (mem_map_of_mem refused)
  have nodup := (admissionOrder_distinct incumbents candidates).of_map
  rw [order] at nodup
  exact (nodup_append.mp nodup).2.2 plugin memberSettled plugin refusedLater rfl

theorem serves_incumbent (built : TrialBuilt number start) (coherent : Coherent incumbents)
    (refused : (candidate, why) ∈ (admitAll (tryPlugin number) start (admissionOrder incumbents candidates.rows)).2)
    (found : fallbackOf incumbents retainCurrent candidate = some incumbent) :
    incumbent ∈ (afterUpdate incumbents candidates number retainCurrent start).accepted.rows ∨
      ∃ other ∈ (afterUpdate incumbents candidates number retainCurrent start).accepted.rows,
        other.key ≠ candidate.key ∧ ¬ Compatible other incumbent := by
  rcases (update_substitutes empty).substitute_taken_or_refused (fun _ _ _ _ ran => tryPlugin_built ran) built refused found with
    served | ⟨s, whyNot, builtThen, failed, absent, stays⟩
  · exact .inl served
  · right
    have own := coherent.own incumbent (mem_of_find (fallbackOf_eq_some.mp found).1)
    obtain ⟨other, mem, clash⟩ := clash_of_not_coherent ((build_ok_iff s.accepted number).mp ⟨_, builtThen⟩) own
      (not_coherent_of_refused failed)
    refine ⟨other, stays other mem, fun same => ?_, clash⟩
    have found' := find_of_mem mem
    rw [same, ← fallback_key found, absent] at found'
    cases found'

end

end

def Admitted (generation : RoutingGeneration) : Prop :=
  ∃ factory override overrideEnabled number current retainCurrent errors,
    buildRoutingGenerationAdmitting factory override overrideEnabled number current retainCurrent = .ok (generation, errors)

section
variable (factory override : PluginMap) (overrideEnabled : Bool) (number : Nat) (current : Option RoutingGeneration)
  (retainCurrent : List String)

theorem admitting_update :
    ∃ start, start.accepted = Table.empty ∧ TrialBuilt number start ∧ ∃ errors,
      buildRoutingGenerationAdmitting factory override overrideEnabled number current retainCurrent =
        .ok ({ (afterUpdate (currentByKey current) (effectivePlugins factory override overrideEnabled) number retainCurrent
          start).generation with retainCurrent }, errors) := by
  obtain ⟨generation, built⟩ := (build_ok_iff Table.empty number).mpr ⟨nofun, nofun⟩
  refine ⟨{ accepted := Table.empty, generation }, rfl, built, ?_⟩
  unfold buildRoutingGenerationAdmitting
  rw [built]
  exact ⟨_, rfl⟩

end

theorem BuiltFrom.retaining (built : BuiltFrom plugins number generation) (retainCurrent : List String) :
    BuiltFrom plugins number { generation with retainCurrent } :=
  ⟨built.coherent, built.plugins, built.byKey, built.number, built.routes⟩

theorem Admitted.built (admitted : Admitted generation) : ∃ plugins number, BuiltFrom plugins number generation := by
  obtain ⟨factory, override, overrideEnabled, number, current, retainCurrent, _, ran⟩ := admitted
  obtain ⟨start, _, built, _, ranUpdate⟩ := admitting_update factory override overrideEnabled number current retainCurrent
  rw [ran] at ranUpdate
  cases ranUpdate
  exact ⟨_, number, (builtFrom_of_build (afterUpdate_built built)).retaining retainCurrent⟩

theorem hotUpdate_keeps_serving (factory override : PluginMap) (overrideEnabled : Bool) (number : Nat)
    (current : RoutingGeneration) (retainCurrent : List String) (admitted : Admitted current) :
    ∃ next errors, buildRoutingGenerationAdmitting factory override overrideEnabled number (some current) retainCurrent =
        .ok (next, errors) ∧
      (∀ plugin ∈ (effectivePlugins factory override overrideEnabled).rows, current.byKey.find plugin.key = some plugin →
        next.byKey.find plugin.key = some plugin) ∧
      ∀ candidate ∈ (effectivePlugins factory override overrideEnabled).rows, ∀ incumbent,
        current.byKey.find candidate.key = some incumbent → candidate.key ∈ retainCurrent →
        next.byKey.find candidate.key = some candidate ∨ next.byKey.find candidate.key = some incumbent ∨
        ∃ other, next.byKey.find other.key = some other ∧ other.key ≠ candidate.key ∧
          current.byKey.find other.key ≠ some other ∧ ¬ Compatible other incumbent := by
  obtain ⟨plugins, currentNumber, builtCurrent⟩ := admitted.built
  obtain ⟨start, empty, built, errors, ran⟩ :=
    admitting_update factory override overrideEnabled number (some current) retainCurrent
  have two := @update_substitutes (currentByKey (some current)) (effectivePlugins factory override overrideEnabled) number
    retainCurrent start empty
  have builtNext := (builtFrom_of_build (@afterUpdate_built (currentByKey (some current))
    (effectivePlugins factory override overrideEnabled) number retainCurrent start built)).retaining retainCurrent
  have sameIncumbents : ∀ key, (currentByKey (some current)).find key = current.byKey.find key := fun key =>
    (builtCurrent.incumbents key).trans (builtCurrent.find key).symm
  have coherent : Coherent (currentByKey (some current)) := by
    refine builtCurrent.coherent.subset fun row member => ?_
    rw [mem_rows, builtCurrent.incumbents] at member
    exact mem_of_find member
  have serves : ∀ plugin ∈ (effectivePlugins factory override overrideEnabled).rows,
      (∀ why, (plugin, why) ∉ (admitAll (tryPlugin number) start (admissionOrder (currentByKey (some current))
        (effectivePlugins factory override overrideEnabled).rows)).2) →
      (afterUpdate (currentByKey (some current)) (effectivePlugins factory override overrideEnabled) number retainCurrent
        start).generation.byKey.find plugin.key = some plugin := by
    intro plugin member kept
    have inside := (admissionOrder_perm (currentByKey (some current)) _).mem_iff.mpr member
    exact (builtNext.find plugin.key).trans (find_of_mem (two.stays (two.taken_entry inside kept)))
  refine ⟨_, errors, ran, fun plugin member same => ?_, fun candidate member incumbent found retained => ?_⟩
  · exact serves plugin member (unchanged_kept empty coherent member ((sameIncumbents _).trans same))
  by_cases refused : ∃ why, (candidate, why) ∈ (admitAll (tryPlugin number) start (admissionOrder
      (currentByKey (some current)) (effectivePlugins factory override overrideEnabled).rows)).2
  · obtain ⟨why, refused⟩ := refused
    have foundIncumbent := (sameIncumbents candidate.key).trans found
    have different : incumbent ≠ candidate := by
      rintro rfl
      exact unchanged_kept empty coherent member foundIncumbent why refused
    have fallback := fallbackOf_eq_some.mpr ⟨foundIncumbent, retained, different⟩
    rcases serves_incumbent empty built coherent refused fallback with served | ⟨other, served, apart, clash⟩
    · have foundNext := find_of_mem served
      rw [fallback_key fallback] at foundNext
      exact .inr (.inl ((builtNext.find _).trans foundNext))
    · refine .inr (.inr ⟨other, (builtNext.find _).trans (find_of_mem served), apart, fun inService => clash ?_, clash⟩)
      refine coherent.fits other ?_ incumbent (mem_of_find foundIncumbent) ?_
      · exact mem_of_find ((sameIncumbents _).trans inService)
      · rintro rfl
        exact apart (key_of_find foundIncumbent)
  · exact .inl (serves candidate member fun why inside => refused ⟨why, inside⟩)

def alphaV1 : LoadedPlugin := { id := 1, key := "fallback-alpha", models := ["alpha-v1"], channelTypes := [111] }
def betaV1 : LoadedPlugin := { id := 2, key := "fallback-beta", models := ["beta-v1"], channelTypes := [112] }
def owner : LoadedPlugin := { id := 3, key := "fallback-owner", models := ["owner"], channelTypes := [113] }
def alphaV2 : LoadedPlugin := { id := 4, key := "fallback-alpha", models := ["alpha-v2"], channelTypes := [113] }
def betaV2 : LoadedPlugin := { id := 5, key := "fallback-beta", models := ["beta-v2"], channelTypes := [111] }

section
variable (current : Option RoutingGeneration) (overrides : List LoadedPlugin)

def replaceOverrides : RoutingGeneration :=
  match buildRoutingGenerationAdmitting Table.empty (overrides.foldl Table.put Table.empty) true 1 current
      (overrides.map LoadedPlugin.key) with
  | .ok (generation, _) => generation
  | .error _ => { number := 0 }

theorem replaceOverrides_admitting :
    ∃ errors, buildRoutingGenerationAdmitting Table.empty (overrides.foldl Table.put Table.empty) true 1 current
      (overrides.map LoadedPlugin.key) = .ok (replaceOverrides current overrides, errors) := by
  obtain ⟨_, _, _, errors, ran⟩ := admitting_update Table.empty (overrides.foldl Table.put Table.empty) true 1 current
    (overrides.map LoadedPlugin.key)
  refine ⟨errors, ?_⟩
  unfold replaceOverrides
  rw [ran]

theorem replaceOverrides_admitted : Admitted (replaceOverrides current overrides) := by
  obtain ⟨errors, ran⟩ := replaceOverrides_admitting current overrides
  exact ⟨_, _, _, _, _, _, _, ran⟩

end

def fleet : RoutingGeneration := replaceOverrides none [alphaV1, betaV1, owner]

theorem hotUpdate_keeps_owner :
    ∃ next errors, buildRoutingGenerationAdmitting Table.empty ([alphaV2, betaV2, owner].foldl Table.put Table.empty) true 1
        (some fleet) ["fallback-alpha", "fallback-beta", "fallback-owner"] = .ok (next, errors) ∧
      next.byKey.find "fallback-owner" = some owner := by
  obtain ⟨next, errors, ran, unchanged, _⟩ := hotUpdate_keeps_serving Table.empty
    ([alphaV2, betaV2, owner].foldl Table.put Table.empty) true 1 fleet
    ["fallback-alpha", "fallback-beta", "fallback-owner"] (replaceOverrides_admitted none [alphaV1, betaV1, owner])
  exact ⟨next, errors, ran, unchanged owner (by decide +kernel) (by decide +kernel)⟩

theorem peer_displaces_incumbent :
    Admitted fleet ∧ fleet.byKey.find "fallback-alpha" = some alphaV1 ∧ Compatible owner alphaV1 ∧
      ∃ next errors, buildRoutingGenerationAdmitting Table.empty ([alphaV2, betaV2, owner].foldl Table.put Table.empty) true 1
          (some fleet) ["fallback-alpha", "fallback-beta", "fallback-owner"] = .ok (next, errors) ∧
        (∀ plugin ∈ [alphaV2, betaV2, owner], fleet.byKey.find plugin.key = some plugin → plugin = owner) ∧
        next.byKey.find "fallback-alpha" = none := by
  refine ⟨replaceOverrides_admitted none _, by decide +kernel, ⟨?_, by decide +kernel, nofun, nofun⟩, ?_⟩
  · unfold ModelsFit
    decide +kernel
  · obtain ⟨errors, ran⟩ := replaceOverrides_admitting (some fleet) [alphaV2, betaV2, owner]
    exact ⟨_, errors, ran, by decide +kernel, by decide +kernel⟩

end Wildflow.Plugin
