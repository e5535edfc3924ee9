import Wildflow.Plugin.Router
import Wildflow.Proof.Plugin.HotUpdate

/-!
# Publication

Admission looks at routes only. An incumbent that takes the place of an update may stand beside a plugin that it has
never been indexed with.
-/

namespace Wildflow.Plugin
open Wildflow.Store Table LoadedPlugin List
variable {staticRoutes : List RouteInfo} {other incumbent plugin : LoadedPlugin} {current : Option RoutingGeneration}
  {blockedNext : Blocked} {plugins : List LoadedPlugin} {bindings : List RouteBinding}
  {registerRoute : List RouteBinding → RouteBinding → Option String} {after : PluginMap}

variable {accepted : PluginMap} {g : RoutingGeneration}

theorem checkAll_ok {α : Type} {check : α → Except String Unit} {members : List α} :
    checkAll check members = .ok () ↔ ∀ a ∈ members, check a = .ok () := by
  induction members with
  | nil => simp [checkAll]
  | cons a rest ih => simp [checkAll, except_then_ok, ih]

theorem refuse_ok {condition : Prop} [Decidable condition] {why : String} : refuse condition why = .ok () ↔ ¬ condition := by
  simp [refuse]

structure Publishable (staticRoutes : List RouteInfo) (plugin : LoadedPlugin) : Prop where
  host : ∀ route ∈ plugin.routes, ∀ staticRoute ∈ staticRoutes, routeIntersectsStaticRoute route.path staticRoute.path = false
  own : plugin.routes.Pairwise fun left right => left.method = right.method →
    routePatternsIntersect left.path right.path = false ∧ routesGinCompatible left.path right.path = true

def RoutesApart (plugin other : LoadedPlugin) : Prop :=
  ∀ route ∈ plugin.routes, ∀ otherRoute ∈ other.routes, routePatternsIntersect route.path otherRoute.path = false ∧
    (route.method = otherRoute.method → routesGinCompatible route.path otherRoute.path = true)

theorem checkOwnRoutes_ok (routes : List Route) :
    checkOwnRoutes routes = .ok () ↔ routes.Pairwise fun left right => left.method = right.method →
      routePatternsIntersect left.path right.path = false ∧ routesGinCompatible left.path right.path = true := by
  induction routes with
  | nil => simp [checkOwnRoutes]
  | cons left rest ih =>
    have pair : ∀ right, checkOwn left right = .ok () ↔ (left.method = right.method →
        routePatternsIntersect left.path right.path = false ∧ routesGinCompatible left.path right.path = true) := by
      intro right
      unfold checkOwn
      by_cases same : left.method = right.method
      · simp [same, except_then_ok, refuse_ok]
      · simp [same]
    simp only [checkOwnRoutes, except_then_ok, checkAll_ok, pair, ih, pairwise_cons]

theorem checkOther_ok (other : LoadedPlugin) (r otherRoute : Route) :
    checkOther other r otherRoute = .ok () ↔ routePatternsIntersect r.path otherRoute.path = false ∧
      (r.method = otherRoute.method → routesGinCompatible r.path otherRoute.path = true) := by
  simp [checkOther, except_then_ok, refuse_ok]

theorem validatePlugin_ok :
    validatePlugin staticRoutes plugin accepted = .ok () ↔
      Publishable staticRoutes plugin ∧ ∀ other ∈ accepted.rows, other.key ≠ plugin.key → RoutesApart plugin other := by
  have host : checkAll (fun r => checkAll (checkStatic r) staticRoutes) plugin.routes = .ok () ↔
      ∀ r ∈ plugin.routes, ∀ staticRoute ∈ staticRoutes, routeIntersectsStaticRoute r.path staticRoute.path = false := by
    simp [checkAll_ok, checkStatic, refuse_ok]
  have others : checkAll (fun other =>
      if other.key = plugin.key then .ok ()
      else checkAll (fun r => checkAll (checkOther other r) other.routes) plugin.routes) accepted.rows = .ok () ↔
      ∀ other ∈ accepted.rows, other.key ≠ plugin.key → RoutesApart plugin other := by
    rw [checkAll_ok]
    refine forall₂_congr fun other _ => ?_
    by_cases same : other.key = plugin.key
    · simp [same]
    · simp [same, checkAll_ok, checkOther_ok, RoutesApart]
  unfold validatePlugin
  rw [except_then_ok, except_then_ok, host, checkOwnRoutes_ok, others]
  exact ⟨fun ⟨clear, own, apart⟩ => ⟨⟨clear, own⟩, apart⟩, fun ⟨publishable, apart⟩ => ⟨publishable.host, publishable.own, apart⟩⟩

section
variable {staticRoutes : List RouteInfo} {blocked : Blocked}

theorem admitPlugin_ok :
    admitPlugin staticRoutes blocked accepted plugin = .ok after ↔
      blockedError blocked plugin = "" ∧ validatePlugin staticRoutes plugin accepted = .ok () ∧ after = accepted.put plugin := by
  unfold admitPlugin
  cases validatePlugin staticRoutes plugin accepted <;> grind [blockedError]

theorem admitPlugin_puts (accepted : PluginMap) (plugin : LoadedPlugin) (after : PluginMap)
    (ran : admitPlugin staticRoutes blocked accepted plugin = .ok after) : after = accepted.put plugin :=
  (admitPlugin_ok.mp ran).2.2

theorem admitPlugin_refused {why : String} (failed : admitPlugin staticRoutes blocked accepted plugin = .error why) :
    blockedError blocked plugin ≠ "" ∨ ¬ Publishable staticRoutes plugin ∨
      ∃ other ∈ accepted.rows, other.key ≠ plugin.key ∧ ¬ RoutesApart plugin other := by
  by_contra none
  simp only [not_or, not_exists, not_and, not_not] at none
  obtain ⟨free, fit, apart⟩ := none
  have valid : validatePlugin staticRoutes plugin accepted = .ok () := validatePlugin_ok.mpr ⟨fit, apart⟩
  rw [admitPlugin_ok.mpr ⟨free, valid, rfl⟩] at failed
  cases failed

theorem publishable_of_no_routes (none : plugin.routes = []) : Publishable staticRoutes plugin :=
  ⟨by simp [none], by simp [none]⟩

theorem routesApart_of_no_routes (none : plugin.routes = []) : RoutesApart plugin other := by
  simp [RoutesApart, none]

theorem routes_of_not_apart (clash : ¬ RoutesApart plugin other) : other.routes ≠ [] := by
  intro none
  exact clash fun _ _ route' mem => by simp [none] at mem

end

def IsGeneration (g : RoutingGeneration) : Prop :=
  ∃ plugins, buildRoutingGenerationFromPlugins plugins g.number = .ok { g with retainCurrent := [], runtime := false }

theorem IsGeneration.built (made : IsGeneration g) : ∃ plugins, BuiltFrom plugins g.number g := by
  obtain ⟨plugins, ran⟩ := made
  have built := builtFrom_of_build ran
  exact ⟨plugins, built.coherent, built.plugins, built.byKey, built.number, built.routes⟩

theorem isGeneration_of_build {plugins : PluginMap} {number : Nat}
    (built : buildRoutingGenerationFromPlugins plugins number = .ok g) (retainCurrent : List String) (runtime : Bool) :
    IsGeneration { g with retainCurrent, runtime } := by
  obtain ⟨_, _, sameNumber, sameRetained, sameRuntime, _⟩ := foldlM_addPlugin_frame built
  refine ⟨plugins, ?_⟩
  have sameNumber : g.number = number := sameNumber
  have sameRetained : g.retainCurrent = [] := sameRetained
  have sameRuntime : g.runtime = false := sameRuntime
  dsimp only
  rw [sameNumber, built, ← sameRetained, ← sameRuntime, ← sameNumber]

theorem Admitted.isGeneration (admitted : Admitted g) : IsGeneration g := by
  obtain ⟨factory, override, overrideEnabled, number, current, retainCurrent, _, ran⟩ := admitted
  obtain ⟨start, _, built, _, ranUpdate⟩ := admitting_update factory override overrideEnabled number current retainCurrent
  rw [ran] at ranUpdate
  cases ranUpdate
  have made := isGeneration_of_build (@afterUpdate_built (currentByKey current)
    (effectivePlugins factory override overrideEnabled) number retainCurrent start built) retainCurrent
  exact made _

section
variable {g : RoutingGeneration} (made : IsGeneration g)
include made

theorem IsGeneration.mem_plugins (plugin : LoadedPlugin) : plugin ∈ g.plugins ↔ g.byKey.find plugin.key = some plugin := by
  obtain ⟨plugins, built⟩ := made.built
  rw [built.find, built.plugins, mem_sortByKey, mem_rows]

theorem IsGeneration.distinct : (g.plugins.map key).Nodup := by
  obtain ⟨plugins, built⟩ := made.built
  rw [built.plugins]
  exact ((sortByKey_perm plugins.rows).map key).nodup_iff.mpr plugins.unique

theorem IsGeneration.compatible (mem : plugin ∈ g.plugins) (memOther : other ∈ g.plugins)
    (ne : plugin ≠ other) : Compatible plugin other := by
  obtain ⟨plugins, built⟩ := made.built
  rw [built.plugins, mem_sortByKey] at mem memOther
  exact built.coherent.fits plugin mem other memOther ne

theorem IsGeneration.selfConsistent (mem : plugin ∈ g.plugins) : SelfConsistent plugin := by
  obtain ⟨plugins, built⟩ := made.built
  rw [built.plugins, mem_sortByKey] at mem
  exact built.coherent.own plugin mem

end

def servingPlugins (current : Option RoutingGeneration) : List LoadedPlugin :=
  match current with
  | none => []
  | some g => if g.runtime then g.plugins else []

theorem generation_of_serving
    (mem : plugin ∈ servingPlugins current) : ∃ g ∈ current, servingPlugins current = g.plugins := by
  cases current with
  | none => cases mem
  | some g => exact ⟨g, rfl, by grind [servingPlugins]⟩

section
variable (made : ∀ g ∈ current, IsGeneration g)
include made

theorem servingByKey_find {key : String} :
    (servingByKey current).find key = some plugin ↔ plugin ∈ servingPlugins current ∧ plugin.key = key := by
  cases current with
  | none => simp [servingByKey, servingPlugins, currentByKey]
  | some g =>
    by_cases busy : g.runtime = true
    · have madeG := made g rfl
      obtain ⟨plugins, built⟩ := madeG.built
      have same : (servingByKey (some g)).find key = plugins.find key := by
        rw [← built.incumbents key]
        simp [servingByKey, Option.filter, busy]
      rw [same, servingPlugins, if_pos busy, built.plugins, mem_sortByKey]
      grind
    · simp [servingByKey, servingPlugins, Option.filter, busy, currentByKey]

theorem serving_compatible (mem : plugin ∈ servingPlugins current) (memOther : other ∈ servingPlugins current)
    (ne : plugin ≠ other) : Compatible plugin other := by
  obtain ⟨g, serves, same⟩ := generation_of_serving mem
  rw [same] at mem memOther
  exact (made g serves).compatible mem memOther ne

theorem serving_selfConsistent (mem : plugin ∈ servingPlugins current) : SelfConsistent plugin := by
  obtain ⟨g, serves, same⟩ := generation_of_serving mem
  exact (made g serves).selfConsistent (same ▸ mem)

end

theorem rebuild_table {t : PluginMap} (ran : plugins.foldlM (rebuildKey g) t = .ok after) :
    after.rows = t.rows ++ plugins := by
  induction plugins generalizing t with
  | nil =>
    cases ran
    simp
  | cons plugin rest ih =>
    rw [foldlM_cons] at ran
    obtain ⟨next, ranFirst, ranRest⟩ := except_bind_ok.mp ran
    unfold rebuildKey at ranFirst
    split at ranFirst
    · cases ranFirst
    split at ranFirst
    · cases ranFirst
    next fresh =>
    cases ranFirst
    rw [Option.not_isSome_iff_eq_none] at fresh
    rw [ih ranRest, rows_put_of_fresh fresh]
    simp

theorem rebuild_table_of_known {g : RoutingGeneration} {plugins : List LoadedPlugin} {t : PluginMap}
    (known : ∀ plugin ∈ plugins, g.byKey.find plugin.key ≠ none) (nodup : (plugins.map key).Nodup)
    (fresh : ∀ plugin ∈ plugins, t.find plugin.key = none) :
    ∃ after, plugins.foldlM (rebuildKey g) t = .ok after := by
  induction plugins generalizing t with
  | nil => exact ⟨t, rfl⟩
  | cons plugin rest ih =>
    rw [map_cons, nodup_cons] at nodup
    have freshRest : ∀ other ∈ rest, (t.put plugin).find other.key = none := by grind
    obtain ⟨after, ran⟩ := ih (fun other mem => known other (List.mem_cons_of_mem _ mem)) nodup.2 freshRest
    refine ⟨after, ?_⟩
    rw [foldlM_cons, rebuildKey, if_neg (known plugin List.mem_cons_self), fresh plugin List.mem_cons_self]
    exact ran

theorem rebuild_rows (ran : (sortByKey accepted.rows).foldlM (rebuildKey g) Table.empty = .ok after) (row : LoadedPlugin) :
    row ∈ after.rows ↔ row ∈ accepted.rows := by
  rw [rebuild_table ran, show (Table.empty : PluginMap).rows = [] from rfl, List.nil_append, mem_sortByKey]

theorem coherent_congr {left right : PluginMap} (same : ∀ row, row ∈ left.rows ↔ row ∈ right.rows) :
    Coherent left ↔ Coherent right :=
  ⟨fun coherent => coherent.subset fun row mem => (same row).mpr mem,
    fun coherent => coherent.subset fun row mem => (same row).mp mem⟩

theorem rebuildWithPlugins_ok {rebuilt : RoutingGeneration}
    (ran : rebuildWithPlugins g (sortByKey accepted.rows) = .ok rebuilt) :
    Coherent accepted ∧ (∀ plugin, plugin ∈ rebuilt.plugins ↔ plugin ∈ accepted.rows) ∧
      rebuilt.routes = rebuilt.plugins.flatMap fun plugin => plugin.routes.map (RouteBinding.mk plugin) := by
  obtain ⟨byKey, ranTable, ran⟩ := except_bind_ok.mp ran
  obtain ⟨built, ranBuild, back⟩ := except_bind_ok.mp ran
  have same := rebuild_rows ranTable
  have frame := builtFrom_of_build ranBuild
  cases back
  refine ⟨(coherent_congr same).mp frame.coherent, fun plugin => ?_, frame.routes⟩
  rw [← same plugin, show built.plugins = sortByKey byKey.rows from frame.plugins, mem_sortByKey]

theorem rebuildWithPlugins_of_coherent
    (known : ∀ plugin ∈ accepted.rows, g.byKey.find plugin.key ≠ none) (coherent : Coherent accepted) :
    ∃ rebuilt, rebuildWithPlugins g (sortByKey accepted.rows) = .ok rebuilt := by
  have nodup : ((sortByKey accepted.rows).map key).Nodup :=
    ((sortByKey_perm accepted.rows).map key).nodup_iff.mpr accepted.unique
  obtain ⟨byKey, ranTable⟩ := @rebuild_table_of_known g (sortByKey accepted.rows) Table.empty
    (fun plugin mem => known plugin (mem_sortByKey.mp mem)) nodup (fun _ _ => rfl)
  obtain ⟨built, ranBuild⟩ := (build_ok_iff byKey g.number).mpr ((coherent_congr (rebuild_rows ranTable)).mpr coherent)
  refine ⟨{ built with retainCurrent := g.retainCurrent }, ?_⟩
  exact except_bind_ok.mpr ⟨byKey, ranTable, except_bind_ok.mpr ⟨built, ranBuild, rfl⟩⟩

theorem registerAll_some {done : List RouteBinding}
    {b : RouteBinding} {recovered : String} (ran : registerAll registerRoute done bindings = some (b, recovered)) :
    b ∈ bindings ∧ ∃ before, registerRoute before b = some recovered := by
  induction bindings generalizing done with
  | nil => cases ran
  | cons first rest ih =>
    unfold registerAll at ran
    split at ran
    · next v panicked =>
      cases ran
      exact ⟨List.mem_cons_self, done, panicked⟩
    · obtain ⟨mem, panicked⟩ := ih ran
      exact ⟨List.mem_cons_of_mem first mem, panicked⟩

theorem registerAll_none {done : List RouteBinding}
    (ran : registerAll registerRoute done bindings = none) : ∀ b ∈ bindings, ∃ before, registerRoute before b = none := by
  induction bindings generalizing done with
  | nil => nofun
  | cons first rest ih =>
    unfold registerAll at ran
    split at ran
    · cases ran
    · next fine =>
      intro b mem
      rcases mem_cons.mp mem with rfl | later
      · exact ⟨done, fine⟩
      · exact ih ran b later

def BlockedByPanic (b : PluginGenerationBuilder) (blocked : Blocked) : Prop :=
  ∀ plugin text, blocked.get plugin = some text → text ≠ "" ∧ plugin.routes ≠ [] ∧
    ∃ before binding, binding.plugin = plugin ∧ b.registerRoute before binding ≠ none

section
variable (b : PluginGenerationBuilder) (candidate : RoutingGeneration) (current : Option RoutingGeneration) (blocked : Blocked)

abbrev acceptedBy : PluginMap :=
  (admitPlugins b.staticRoutes candidate current blocked).1

inductive RoundOutcome : Except String PreparedRoutingGeneration ⊕ Blocked → Prop
  | prepared {filtered errors} (rebuilt : rebuildWithPlugins candidate (sortByKey (acceptedBy b candidate current blocked).rows) =
      .ok filtered) (registered : registerAll b.registerRoute [] filtered.routes = none) :
      RoundOutcome (.inl (.ok ⟨{ filtered with runtime := true }, errors⟩))
  | blocks {plugin text recovered before binding} (member : plugin ∈ (acceptedBy b candidate current blocked).rows)
      (routed : plugin.routes ≠ []) (owner : binding.plugin = plugin)
      (panicked : b.registerRoute before binding = some recovered) (explained : text ≠ "") :
      RoundOutcome (.inr (blocked.set plugin text))
  | conflict {why}
      (failed : rebuildWithPlugins candidate (sortByKey (acceptedBy b candidate current blocked).rows) = .error why) :
      RoundOutcome (.inl (.error why))
  | misconfigured {why} (failed : b.configure ≠ none) : RoundOutcome (.inl (.error why))

def firstPass : PluginMap × List (LoadedPlugin × String) :=
  admitAll (admitPlugin b.staticRoutes blocked) Table.empty (admissionOrder (servingByKey current) candidate.plugins)

structure Returns (updated incumbent : LoadedPlugin) : Prop where
  refused : ∃ why, (updated, why) ∈ (firstPass b candidate current blocked).2
  submitted : updated ∈ candidate.plugins
  serving : incumbent ∈ servingPlugins current
  same : updated.key = incumbent.key
  replaced : updated ≠ incumbent
  retained : incumbent.key ∈ candidate.retainCurrent

inductive Accepted (plugin : LoadedPlugin) : Prop
  | candidate (first : plugin ∈ (firstPass b candidate current blocked).1.rows) (submitted : plugin ∈ candidate.plugins)
      (free : blockedError blocked plugin = "") (publishable : Publishable b.staticRoutes plugin)
  | incumbent {updated} (returns : Returns b candidate current blocked updated plugin) (free : blockedError blocked plugin = "")
      (publishable : Publishable b.staticRoutes plugin)
      (apart : ∀ other ∈ (firstPass b candidate current blocked).1.rows, other.key ≠ plugin.key → RoutesApart plugin other)

def unblocked : Nat :=
  ((candidate.plugins ++ servingPlugins current).filter fun plugin => (blocked.get plugin).isNone).length

end

section
variable {b : PluginGenerationBuilder} {candidate : RoutingGeneration} {current : Option RoutingGeneration} {blocked : Blocked}

theorem blockedError_eq_empty (panicked : BlockedByPanic b blocked) :
    blockedError blocked plugin = "" ↔ blocked.get plugin = none := by
  unfold blockedError
  cases found : blocked.get plugin with
  | none => simp
  | some text => simpa using (panicked plugin text found).1

theorem mem_bindings {b : RouteBinding} :
    b ∈ (plugins.flatMap fun plugin => plugin.routes.map (RouteBinding.mk plugin)) ↔
      b.plugin ∈ plugins ∧ b.route ∈ b.plugin.routes := by
  simp only [mem_flatMap, mem_map]
  grind

theorem prepareRound_outcome {round : Except String PreparedRoutingGeneration ⊕ Blocked}
    (went : prepareRound b candidate current blocked = round) : RoundOutcome b candidate current blocked round := by
  subst went
  unfold prepareRound
  dsimp only
  cases rebuilt : rebuildWithPlugins candidate (sortByKey (admitPlugins b.staticRoutes candidate current blocked).1.rows) with
  | error why => exact .conflict rebuilt
  | ok filtered =>
    obtain ⟨_, members, routes⟩ := rebuildWithPlugins_ok rebuilt
    unfold buildInnerEngine
    cases configured : b.configure with
    | some why => exact .misconfigured (by simp [configured])
    | none =>
      dsimp only
      cases registered : registerAll b.registerRoute [] filtered.routes with
      | none => exact .prepared rebuilt registered
      | some panic =>
        obtain ⟨binding, recovered⟩ := panic
        obtain ⟨inside, before, panicked⟩ := registerAll_some registered
        rw [routes, mem_bindings, members] at inside
        simp only [if_neg binding.plugin.keyed, find_of_mem inside.1]
        exact .blocks inside.1 (ne_nil_of_mem inside.2) rfl panicked (by simp [String.append_eq_empty_iff])

theorem mem_admissionOrder {incumbents : PluginMap} {candidates : List LoadedPlugin} :
    plugin ∈ admissionOrder incumbents candidates ↔ plugin ∈ candidates :=
  (admissionOrder_perm incumbents candidates).mem_iff

theorem publication_substitutes (made : IsGeneration candidate) :
    Substitutes (admitPlugin b.staticRoutes blocked) id (fallbackOf (servingByKey current) candidate.retainCurrent) Table.empty
      (admissionOrder (servingByKey current) candidate.plugins) where
  puts := admitPlugin_puts
  same := fun _ _ found => fallback_key found
  distinct := ((admissionOrder_perm _ _).map key).nodup_iff.mpr made.distinct
  empty := fun _ => rfl

theorem returns_of_fallback (madeCurrent : ∀ g ∈ current, IsGeneration g) {new : LoadedPlugin} {why : String}
    (refused : (new, why) ∈ (firstPass b candidate current blocked).2)
    (found : fallbackOf (servingByKey current) candidate.retainCurrent new = some incumbent) :
    Returns b candidate current blocked new incumbent := by
  have same := fallback_key found
  obtain ⟨serving, retained, different⟩ := fallbackOf_eq_some.mp found
  have sent := (refused_sublist _ _).subset (mem_map_of_mem refused)
  exact ⟨⟨why, refused⟩, mem_admissionOrder.mp sent, ((servingByKey_find madeCurrent).mp serving).1, same.symm,
    different.symm, same ▸ retained⟩

theorem Returns.fallback (madeCurrent : ∀ g ∈ current, IsGeneration g) {new : LoadedPlugin}
    (returns : Returns b candidate current blocked new incumbent) :
    fallbackOf (servingByKey current) candidate.retainCurrent new = some incumbent :=
  fallbackOf_eq_some.mpr ⟨(servingByKey_find madeCurrent).mpr ⟨returns.serving, returns.same.symm⟩,
    returns.same ▸ returns.retained, returns.replaced.symm⟩

theorem Accepted.free (accepted : Accepted b candidate current blocked plugin) :
    blockedError blocked plugin = "" := by
  cases accepted <;> assumption

theorem Accepted.inPool (accepted : Accepted b candidate current blocked plugin) :
    plugin ∈ candidate.plugins ++ servingPlugins current := by
  cases accepted with
  | candidate _ sent _ _ => exact mem_append_left _ sent
  | incumbent returns _ _ _ => exact mem_append_right _ returns.serving

theorem Accepted.known (made : IsGeneration candidate)
    (accepted : Accepted b candidate current blocked plugin) : candidate.byKey.find plugin.key ≠ none := by
  cases accepted with
  | candidate _ sent _ _ => simp [(made.mem_plugins plugin).mp sent]
  | incumbent returns _ _ _ => simp [← returns.same, (made.mem_plugins _).mp returns.submitted]

theorem routes_of_refused (made : IsGeneration candidate) (panicked : BlockedByPanic b blocked)
    {why : String} (refused : (plugin, why) ∈ (firstPass b candidate current blocked).2) : plugin.routes ≠ [] := by
  have two := @publication_substitutes b candidate current blocked made
  obtain ⟨accepted, _, failed, _⟩ := two.refused_beside_entries (fun _ _ _ _ _ _ => trivial) trivial refused
  rcases admitPlugin_refused failed with blockedBefore | unpublishable | ⟨other, _, _, clash⟩
  · cases found : blocked.get plugin with
    | none => exact absurd ((blockedError_eq_empty panicked).mpr found) blockedBefore
    | some text => exact (panicked plugin text found).2.1
  · exact fun none => unpublishable (publishable_of_no_routes none)
  · exact fun none => clash (routesApart_of_no_routes none)

theorem blockedByPanic_empty (b : PluginGenerationBuilder) : BlockedByPanic b Dict.empty := by
  intro plugin text found
  cases found

theorem prepareRound_keeps (panicked : BlockedByPanic b blocked)
    (went : prepareRound b candidate current blocked = .inr blockedNext) : BlockedByPanic b blockedNext := by
  cases prepareRound_outcome went with
  | blocks mem routed owner failed explained =>
    intro plugin text found
    rw [Dict.get_set] at found
    split at found
    · grind [owner]
    · exact panicked plugin text found

section
variable (made : IsGeneration candidate) (madeCurrent : ∀ g ∈ current, IsGeneration g)
include made madeCurrent

theorem accepted_of_mem (member : plugin ∈ (acceptedBy b candidate current blocked).rows) :
    Accepted b candidate current blocked plugin := by
  have two := @publication_substitutes b candidate current blocked made
  by_cases first : plugin ∈ (firstPass b candidate current blocked).1.rows
  · obtain ⟨sent, accepted, after, ran⟩ := two.entry_origin first
    obtain ⟨free, valid, _⟩ := admitPlugin_ok.mp ran
    exact .candidate first (mem_admissionOrder.mp sent) free (validatePlugin_ok.mp valid).1
  · obtain ⟨new, why, accepted, after, refused, found, ran, sub⟩ := two.substitute_origin member first
    obtain ⟨free, valid, _⟩ := admitPlugin_ok.mp ran
    obtain ⟨fit, apart⟩ := validatePlugin_ok.mp valid
    exact .incumbent (returns_of_fallback madeCurrent refused found) free fit
      fun other member => apart other (sub other member)

theorem prepareRound_decreases (panicked : BlockedByPanic b blocked)
    (went : prepareRound b candidate current blocked = .inr blockedNext) :
    unblocked candidate current blockedNext < unblocked candidate current blocked := by
  cases prepareRound_outcome went with
  | @blocks plugin text recovered before binding mem routed owner failed explained =>
    have accepted := accepted_of_mem made madeCurrent mem
    have fresh : blocked.get plugin = none := (blockedError_eq_empty panicked).mp accepted.free
    have narrowed : (candidate.plugins ++ servingPlugins current).filter
          (fun other => ((blocked.set plugin text).get other).isNone) =
        ((candidate.plugins ++ servingPlugins current).filter fun other => (blocked.get other).isNone).filter
          fun other => other ≠ plugin := by
      rw [filter_filter]
      refine filter_congr fun other _ => ?_
      rw [Dict.get_set]
      by_cases same : plugin = other
      · simp [same]
      · simp [same, Ne.symm same]
    unfold unblocked
    rw [narrowed]
    refine length_filter_lt_length_iff_exists.mpr ⟨plugin, ?_, by simp⟩
    exact mem_filter.mpr ⟨accepted.inPool, by simp [fresh]⟩

theorem prepare_returns : ∃ fuel result, prepare b fuel candidate current = some result := by
  obtain ⟨result, back⟩ := loopRounds_returns (unblocked candidate current)
    (fun _ _ panicked went => ⟨prepareRound_keeps panicked went, prepareRound_decreases made madeCurrent panicked went⟩)
    (blockedByPanic_empty b) (Nat.lt_succ_self _)
  exact ⟨_, result, back⟩

end

theorem prepare_last {fuel : Nat} {result : Except String PreparedRoutingGeneration}
    (back : prepare b fuel candidate current = some result) :
    ∃ blocked, BlockedByPanic b blocked ∧ prepareRound b candidate current blocked = .inl result :=
  loopRounds_last (fun _ _ panicked went => prepareRound_keeps panicked went) (blockedByPanic_empty b) back

end

structure Returnable (staticRoutes : List RouteInfo) (candidate : RoutingGeneration) (current : Option RoutingGeneration)
    (incumbent : LoadedPlugin) : Prop where
  serving : incumbent ∈ servingPlugins current
  retained : incumbent.key ∈ candidate.retainCurrent
  publishable : Publishable staticRoutes incumbent
  updated : ∃ updated ∈ candidate.plugins, updated.key = incumbent.key ∧ updated ≠ incumbent ∧ updated.routes ≠ []

/-- Incumbents that may come back fit the candidates of other keys that could be published with them. -/
def IncumbentsFit (staticRoutes : List RouteInfo) (candidate : RoutingGeneration) (current : Option RoutingGeneration) : Prop :=
  ∀ incumbent, Returnable staticRoutes candidate current incumbent → ∀ peer ∈ candidate.plugins, peer.key ≠ incumbent.key →
    Publishable staticRoutes peer → RoutesApart incumbent peer → Compatible incumbent peer

section
variable {b : PluginGenerationBuilder} {candidate : RoutingGeneration} {current : Option RoutingGeneration} {blocked : Blocked}

section
variable (made : IsGeneration candidate) (madeCurrent : ∀ g ∈ current, IsGeneration g)
include made madeCurrent

theorem Accepted.compatible (fit : IncumbentsFit b.staticRoutes candidate current) (panicked : BlockedByPanic b blocked)
    (accepted : Accepted b candidate current blocked plugin) (acceptedOther : Accepted b candidate current blocked other)
    (ne : plugin.key ≠ other.key) : Compatible plugin other := by
  have beside : ∀ {new incumbent peer : LoadedPlugin}, Returns b candidate current blocked new incumbent →
      Publishable b.staticRoutes incumbent → peer ∈ candidate.plugins → Publishable b.staticRoutes peer →
      peer.key ≠ incumbent.key → RoutesApart incumbent peer → Compatible incumbent peer := by
    intro new incumbent peer returns publishable sent publishablePeer apartKeys apart
    obtain ⟨why, refused⟩ := returns.refused
    have returnable : Returnable b.staticRoutes candidate current incumbent :=
      ⟨returns.serving, returns.retained, publishable, new, returns.submitted, returns.same, returns.replaced,
        routes_of_refused made panicked refused⟩
    exact fit incumbent returnable peer sent apartKeys publishablePeer apart
  cases accepted with
  | candidate first sent _ publishable =>
    cases acceptedOther with
    | candidate _ submittedOther _ _ =>
      exact made.compatible sent submittedOther fun same => ne (congrArg key same)
    | incumbent returns _ publishableOther apart =>
      exact (beside returns publishableOther sent publishable ne (apart plugin first ne)).symm
  | incumbent returns _ publishable apart =>
    cases acceptedOther with
    | candidate first sent _ publishableOther =>
      exact beside returns publishable sent publishableOther ne.symm (apart other first ne.symm)
    | incumbent returnsOther _ _ _ =>
      exact serving_compatible madeCurrent returns.serving returnsOther.serving fun same => ne (congrArg key same)

theorem accepted_coherent (fit : IncumbentsFit b.staticRoutes candidate current) (panicked : BlockedByPanic b blocked) :
    Coherent (acceptedBy b candidate current blocked) where
  own := by
    intro plugin mem
    cases accepted_of_mem made madeCurrent mem with
    | candidate _ sent _ _ => exact made.selfConsistent sent
    | incumbent returns _ _ _ => exact serving_selfConsistent madeCurrent returns.serving
  fits := by
    intro plugin mem other memOther ne
    refine Accepted.compatible made madeCurrent fit panicked (accepted_of_mem made madeCurrent mem)
      (accepted_of_mem made madeCurrent memOther) fun same => ne ?_
    have found := find_of_mem mem
    rw [same, find_of_mem memOther] at found
    exact (Option.some.inj found).symm

theorem prepare_ok_of_fit (configured : b.configure = none) (fit : IncumbentsFit b.staticRoutes candidate current) :
    ∃ fuel prepared, prepare b fuel candidate current = some (.ok prepared) := by
  obtain ⟨fuel, res, back⟩ := @prepare_returns b candidate current made madeCurrent
  obtain ⟨blocked, panicked, last⟩ := prepare_last back
  cases prepareRound_outcome last with
  | prepared _ _ => exact ⟨fuel, _, back⟩
  | conflict failed =>
    obtain ⟨rebuilt, ran⟩ := rebuildWithPlugins_of_coherent
      (fun plugin mem => (accepted_of_mem made madeCurrent mem).known made)
      (accepted_coherent made madeCurrent fit panicked)
    rw [ran] at failed
    cases failed
  | misconfigured failed => exact absurd configured failed

end

def sparing (left right : LoadedPlugin) (_ : List RouteBinding) (binding : RouteBinding) : Option String :=
  if binding.plugin = left ∨ binding.plugin = right then none else some "handler"

theorem sparing_blocks {left right : LoadedPlugin}
    (panicked : BlockedByPanic ⟨staticRoutes, sparing left right, none⟩ blocked)
    (spared : plugin = left ∨ plugin = right) : blockedError blocked plugin = "" := by
  refine (blockedError_eq_empty panicked).mpr ?_
  cases found : blocked.get plugin with
  | none => rfl
  | some text =>
    obtain ⟨_, _, before, b, owner, failed⟩ := panicked plugin text found
    rw [← owner] at spared
    exact absurd (if_pos spared) failed

theorem fit_of_prepare_ok (made : IsGeneration candidate) (madeCurrent : ∀ g ∈ current, IsGeneration g)
    (publishes : ∀ registerRoute, ∃ fuel prepared,
      prepare ⟨staticRoutes, registerRoute, none⟩ fuel candidate current = some (.ok prepared)) :
    IncumbentsFit staticRoutes candidate current := by
  intro incumbent returnable peer sent different fit apart
  obtain ⟨new, submittedUpdated, same, replaced, routed⟩ := returnable.updated
  obtain ⟨fuel, prepared, back⟩ := publishes (sparing incumbent peer)
  obtain ⟨blocked, panicked, last⟩ := prepare_last back
  let b : PluginGenerationBuilder := ⟨staticRoutes, sparing incumbent peer, none⟩
  have two := @publication_substitutes b candidate current blocked made
  cases prepareRound_outcome last with
  | prepared rebuilt registered =>
    obtain ⟨coherent, members, routes⟩ := rebuildWithPlugins_ok rebuilt
    have spared : ∀ plugin ∈ (acceptedBy b candidate current blocked).rows, plugin.routes ≠ [] →
        plugin = incumbent ∨ plugin = peer := by
      intro plugin member hasRoutes
      obtain ⟨r, memR⟩ := exists_mem_of_ne_nil _ hasRoutes
      obtain ⟨before, fine⟩ := registerAll_none registered ⟨plugin, r⟩ (by
        rw [routes, mem_bindings, members]
        exact ⟨member, memR⟩)
      by_contra other
      exact absurd (fine.symm.trans (if_neg other)) nofun
    have incumbentLater : incumbent ∉ (firstPass b candidate current blocked).1.rows := by
      intro first
      have inside := mem_admissionOrder.mp (two.entry_origin first).1
      have found := (made.mem_plugins incumbent).mp inside
      rw [← same, (made.mem_plugins new).mp submittedUpdated] at found
      exact replaced (Option.some.inj found)
    have peerAccepted : peer ∈ (acceptedBy b candidate current blocked).rows := by
      refine two.stays (two.taken_entry (mem_admissionOrder.mpr sent) fun why refused => ?_)
      obtain ⟨accepted, _, failed, _, sub, _⟩ := two.refused_beside_entries (fun _ _ _ _ _ _ => trivial) trivial refused
      rcases admitPlugin_refused failed with blockedBefore | unpublishable | ⟨other, member, apartKeys, clash⟩
      · exact blockedBefore (sparing_blocks panicked (.inr rfl))
      · exact unpublishable fit
      · rcases spared other (two.stays (sub other member)) (routes_of_not_apart clash) with rfl | rfl
        · exact incumbentLater (sub other member)
        · exact apartKeys rfl
    have refused : ∃ why, (new, why) ∈ (firstPass b candidate current blocked).2 := by
      by_contra kept
      simp only [not_exists] at kept
      have member := two.stays (two.taken_entry (mem_admissionOrder.mpr submittedUpdated) kept)
      rcases spared new member routed with rfl | rfl
      · exact replaced rfl
      · exact different same
    obtain ⟨why, refusedUpdate⟩ := refused
    have returns : Returns b candidate current blocked new incumbent :=
      ⟨⟨why, refusedUpdate⟩, submittedUpdated, returnable.serving, same, replaced, returnable.retained⟩
    have incumbentAccepted : incumbent ∈ (acceptedBy b candidate current blocked).rows := by
      rcases two.substitute_taken_or_refused (fun _ _ _ _ _ => trivial) trivial refusedUpdate (returns.fallback madeCurrent) with
        taken | ⟨accepted, whyNot, _, failed, _, sub⟩
      · exact taken
      · rcases admitPlugin_refused failed with blockedBefore | unpublishable | ⟨other, member, apartKeys, clash⟩
        · exact absurd (sparing_blocks panicked (.inl rfl)) blockedBefore
        · exact absurd returnable.publishable unpublishable
        · rcases spared other (sub other member) (routes_of_not_apart clash) with rfl | rfl
          · exact absurd rfl apartKeys
          · exact absurd apart clash
    exact coherent.fits incumbent incumbentAccepted peer peerAccepted fun equal => different (congrArg key equal.symm)

end

/-- `prepare` publishes whatever panics exactly if every incumbent that may come back fits the candidates. -/
theorem prepare_publishes_iff (staticRoutes : List RouteInfo) (candidate : RoutingGeneration) (current : Option RoutingGeneration)
    (made : IsGeneration candidate) (madeCurrent : ∀ g ∈ current, IsGeneration g) :
    (∀ registerRoute configure, ∃ fuel result,
      prepare ⟨staticRoutes, registerRoute, configure⟩ fuel candidate current = some result) ∧
    ((∀ registerRoute, ∃ fuel prepared,
      prepare ⟨staticRoutes, registerRoute, none⟩ fuel candidate current = some (.ok prepared)) ↔
      IncumbentsFit staticRoutes candidate current) :=
  ⟨fun _ _ => prepare_returns made madeCurrent, fit_of_prepare_ok made madeCurrent,
    fun fit _ => prepare_ok_of_fit made madeCurrent rfl fit⟩

def published (result : Option (Except String PreparedRoutingGeneration)) : Option RoutingGeneration :=
  match result with
  | some (.ok prepared) => some prepared.generation
  | _ => none

theorem published_isGeneration {b : PluginGenerationBuilder} {fuel : Nat} {candidate : RoutingGeneration} :
    ∀ g ∈ published (prepare b fuel candidate current), IsGeneration g := by
  intro g member
  unfold published at member
  split at member
  · next prepared back =>
    cases member
    obtain ⟨blocked, _, last⟩ := prepare_last back
    cases prepareRound_outcome last with
    | prepared rebuilt registered =>
      obtain ⟨byKey, _, ran⟩ := except_bind_ok.mp rebuilt
      obtain ⟨built, ranBuild, rebuilt⟩ := except_bind_ok.mp ran
      cases rebuilt
      exact isGeneration_of_build ranBuild _ _
  · cases member

def incumbentV1 : LoadedPlugin := { id := 1, key := "static-update", models := ["one"], channelTypes := [120] }
def healthyPeer (channelType : Int) : LoadedPlugin :=
  { id := 3, key := "healthy-peer", models := ["two"], channelTypes := [channelType] }
def shadowingV2 : LoadedPlugin :=
  { id := 2, key := "static-update", models := ["one"]
    routes := [{ method := "POST", path := "/core/fixed", decode := "decode", render := "render" }] }

def host : PluginGenerationBuilder := ⟨[⟨"GET", "/core/:id"⟩], fun _ _ => none, none⟩

def inService : Option RoutingGeneration := published (prepare host 1 (replaceOverrides none [incumbentV1]) none)

def rejectedUpdate (peerType : Int) : RoutingGeneration := replaceOverrides inService [shadowingV2, healthyPeer peerType]

/-- The update is refused for its route, the incumbent comes back and is published with the new peer. -/
theorem prepare_publishes_beside_incumbent :
    servingPlugins inService = [incumbentV1] ∧ incumbentV1.key ∈ (rejectedUpdate 121).retainCurrent ∧
      (rejectedUpdate 121).plugins = [healthyPeer 121, shadowingV2] ∧
      (∃ fuel prepared, prepare host fuel (rejectedUpdate 121) inService = some (.ok prepared)) ∧
      (published (prepare host 1 (rejectedUpdate 121) inService)).map (·.plugins) = some [healthyPeer 121, incumbentV1] := by
  have serving : servingPlugins inService = [incumbentV1] := by decide +kernel
  have plugins : (rejectedUpdate 121).plugins = [healthyPeer 121, shadowingV2] := by decide +kernel
  refine ⟨serving, by decide +kernel, plugins, ?_, by decide +kernel⟩
  refine (prepare_publishes_iff [⟨"GET", "/core/:id"⟩] (rejectedUpdate 121) inService
    (replaceOverrides_admitted _ _).isGeneration published_isGeneration).2.mpr ?_ _
  intro incumbent returnable peer member apart _ _
  obtain rfl : incumbent = incumbentV1 := mem_singleton.mp (serving ▸ returnable.serving)
  rw [plugins, mem_pair] at member
  rcases member with rfl | rfl
  · refine ⟨?_, by decide +kernel, nofun, nofun⟩
    unfold ModelsFit
    decide +kernel
  · exact absurd rfl apart

theorem incumbent_blocks_publication :
    IsGeneration (rejectedUpdate 120) ∧ (∀ g ∈ inService, IsGeneration g) ∧ inService.isSome ∧
      ∀ fuel prepared, prepare host fuel (rejectedUpdate 120) inService ≠ some (.ok prepared) := by
  refine ⟨(replaceOverrides_admitted _ _).isGeneration, published_isGeneration, by decide +kernel, ?_⟩
  intro fuel prepared returned
  have failed : (prepareRound host (rejectedUpdate 120) inService Dict.empty).elim (! ·.isOk) (fun _ => false) = true := by
    decide +kernel
  cases fuel with
  | zero => cases returned
  | succ fuel =>
    rw [prepare, loopRounds] at returned
    cases ran : prepareRound host (rejectedUpdate 120) inService Dict.empty with
    | inl result =>
      rw [ran] at failed returned
      cases returned
      cases failed
    | inr next =>
      rw [ran] at failed
      cases failed

end Wildflow.Plugin
