import Mathlib.Data.List.Pairwise
import Wildflow.Plugin.Routing

/-!
# When plugins make a generation

Plugins make a generation exactly when each is fit in itself and no two of them clash, in whatever order they come.
-/

namespace Wildflow.Plugin
open Wildflow.Store List

def ModelsFit (left right : String) : Prop := asciiFold left = asciiFold right → left = right

def RoutesFit (left right : Route) : Prop := ∀ key, routeKey left = .ok key → routeKey right ≠ .ok key

def BindingsFit (left right : ProtocolBinding) : Prop := left.indexKey = right.indexKey → right.shares left = true

def ModelsSeen (index : ModelIndex) (models : List String) : Prop :=
  (∀ model ∈ models, index.canonicalModelByFold.get (asciiFold model) = some model) ∧
    ∀ folded model, index.canonicalModelByFold.get folded = some model → model ∈ models ∧ asciiFold model = folded

theorem indexModel_admits (p : LoadedPlugin) : Admits (indexModel p) ModelsSeen (fun _ => True) ModelsFit where
  accepts := by
    rintro i models ⟨known, only⟩ model
    simp only [true_and]
    unfold indexModel
    cases found : i.canonicalModelByFold.get (asciiFold model) with
    | none => exact iff_of_true ⟨_, rfl⟩ (by grind [ModelsFit])
    | some existing =>
      obtain ⟨mem, folded⟩ := only _ existing found
      dsimp only
      by_cases equal : existing = model
      · rw [if_neg (not_not.mpr equal)]
        exact iff_of_true ⟨_, rfl⟩ (by grind [ModelsFit])
      · rw [if_pos equal]
        exact iff_of_false nofun fun fits => equal (fits existing mem folded)
  seen := by
    rintro i models model after ⟨known, only⟩ ran
    unfold indexModel at ran
    cases found : i.canonicalModelByFold.get (asciiFold model) with
    | none =>
      simp only [found] at ran
      cases ran
      constructor
      · grind [asciiFold]
      · grind
    | some existing =>
      simp only [found] at ran
      split at ran
      · cases ran
      · cases ran
        constructor <;> grind

def TypesSeen (index : Dict Int LoadedPlugin) (types : List Int) : Prop :=
  ∀ channelType, index.get channelType = none ↔ channelType ∉ types

theorem indexChannelType_admits (p : LoadedPlugin) :
    Admits (indexChannelType p) TypesSeen (fun _ => True) (· ≠ ·) where
  accepts := by
    intro i types seen channelType
    simp only [true_and]
    unfold indexChannelType
    cases found : i.get channelType with
    | none => exact iff_of_true ⟨_, rfl⟩ (by grind [TypesSeen])
    | some other => exact iff_of_false nofun fun apart => apart channelType (by grind [TypesSeen]) rfl
  seen := by
    intro i types channelType after seen ran other
    unfold indexChannelType at ran
    grind [TypesSeen]

def RoutesSeen (index : RouteIndex) (routes : List Route) : Prop :=
  ∀ key, index.routeIndex.get key = none ↔ ∀ route ∈ routes, routeKey route ≠ .ok key

theorem indexRoute_admits (p : LoadedPlugin) :
    Admits (indexRoute p) RoutesSeen (fun r => ∃ key, routeKey r = .ok key) RoutesFit where
  accepts := by
    intro i routes seen r
    unfold indexRoute
    cases keyed : routeKey r with
    | error why => exact iff_of_false nofun fun both => nomatch both.1
    | ok key =>
      cases found : i.routeIndex.get key with
      | none =>
        refine iff_of_true ⟨_, by simp only [bind, Except.bind, found]; rfl⟩ ⟨⟨key, rfl⟩, ?_⟩
        grind [RoutesFit, (seen key).mp found]
      | some b =>
        refine iff_of_false ?_ fun both => ?_
        · rintro ⟨after, ran⟩
          simp only [bind, Except.bind, found] at ran
          cases ran
        · grind [RoutesFit, (seen key).mpr]
  seen := by
    intro i routes r after seen ran key
    unfold indexRoute at ran
    obtain ⟨own, keyed, stored⟩ := except_bind_ok.mp ran
    split at stored
    · cases stored
    · cases stored
      grind [seen key]

def BindingsSeen (index : Dict (String × String × String) (List ProtocolBinding)) (bindings : List ProtocolBinding) : Prop :=
  (∀ key, (index.get key).getD [] = bindings.filter (·.indexKey = key)) ∧ bindings.Pairwise BindingsFit

theorem shares_all {bindings : List ProtocolBinding} {key : String × String × String} {first b : ProtocolBinding}
    {rest : List ProtocolBinding} (pairwise : bindings.Pairwise BindingsFit)
    (split : bindings.filter (·.indexKey = key) = first :: rest) (shares : b.shares first = true) :
    ∀ other ∈ bindings.filter (·.indexKey = key), b.shares other = true := by
  have sub : (bindings.filter (·.indexKey = key)).Pairwise BindingsFit := pairwise.filter _
  have keyed : ∀ other ∈ first :: rest, other.indexKey = key := by grind
  rw [split] at sub ⊢
  obtain ⟨firstFits, _⟩ := pairwise_cons.mp sub
  intro other mem
  rcases mem_cons.mp mem with rfl | later
  · exact shares
  · have both := firstFits other later
      ((keyed first List.mem_cons_self).trans (keyed other (List.mem_cons_of_mem _ later)).symm)
    simp only [ProtocolBinding.shares, Bool.and_eq_true, decide_eq_true_eq] at both shares ⊢
    exact ⟨⟨shares.1.1, both.1.1⟩, shares.2.trans both.2.symm⟩

theorem indexProtocol_accepts {index : Dict (String × String × String) (List ProtocolBinding)} {bindings : List ProtocolBinding}
    (seen : BindingsSeen index bindings) (binding : ProtocolBinding) :
    (∃ after, indexProtocol index binding = .ok after) ↔ ∀ other ∈ bindings, BindingsFit other binding := by
  obtain ⟨lists, pairwise⟩ := seen
  unfold indexProtocol
  rw [lists binding.indexKey]
  dsimp only
  cases same : bindings.filter (·.indexKey = binding.indexKey) with
  | nil =>
    have none := filter_eq_nil_iff.mp same
    exact iff_of_true ⟨_, rfl⟩ (by grind [BindingsFit])
  | cons first rest =>
    obtain ⟨mem, keyed⟩ := mem_filter.mp (same ▸ List.mem_cons_self : first ∈ bindings.filter (·.indexKey = binding.indexKey))
    dsimp only
    by_cases shares : binding.shares first = true
    · rw [if_pos shares]
      refine iff_of_true ⟨_, rfl⟩ fun other memOther equal => ?_
      exact shares_all pairwise same shares other (mem_filter.mpr ⟨memOther, by simp [equal]⟩)
    · rw [if_neg shares]
      exact iff_of_false nofun fun fits => shares (fits first mem (by simpa using keyed))

theorem indexProtocol_admits : Admits indexProtocol BindingsSeen (fun _ => True) BindingsFit where
  accepts := fun seen binding => (indexProtocol_accepts seen binding).trans (by simp)
  seen := by
    intro index bindings binding after seen ran
    have fits := (indexProtocol_accepts seen binding).mp ⟨after, ran⟩
    obtain ⟨lists, pairwise⟩ := seen
    have stored : after = index.set binding.indexKey ((index.get binding.indexKey).getD [] ++ [binding]) := by
      unfold indexProtocol at ran
      grind
    constructor
    · intro key
      rw [stored, Dict.get_set, filter_append]
      grind
    · rw [pairwise_append]
      exact ⟨pairwise, pairwise_singleton _ _, by grind⟩

structure SelfConsistent (plugin : LoadedPlugin) : Prop where
  models : plugin.models.Pairwise ModelsFit
  types : (ownedTypes plugin).Pairwise (· ≠ ·)
  shapes : ∀ route ∈ plugin.routes, ∃ key, routeKey route = .ok key
  routes : plugin.routes.Pairwise RoutesFit
  bindings : (protocolBindings plugin).Pairwise BindingsFit

structure Compatible (left right : LoadedPlugin) : Prop where
  models : ∀ model ∈ left.models, ∀ other ∈ right.models, ModelsFit model other
  types : ∀ channelType ∈ ownedTypes left, channelType ∉ ownedTypes right
  routes : ∀ route ∈ left.routes, ∀ other ∈ right.routes, RoutesFit route other
  bindings : ∀ binding ∈ protocolBindings left, ∀ other ∈ protocolBindings right, BindingsFit binding other

theorem ProtocolBinding.shares_comm (left right : ProtocolBinding) : left.shares right = right.shares left := by
  grind [ProtocolBinding.shares]

theorem Compatible.symm {left right : LoadedPlugin} (compatible : Compatible left right) : Compatible right left where
  models := fun model mem other memOther same =>
    (compatible.models other memOther model mem same.symm).symm
  types := fun channelType mem memOther => compatible.types channelType memOther mem
  routes := fun r mem other memOther key keyed keyedOther =>
    compatible.routes other memOther r mem key keyedOther keyed
  bindings := fun b mem other memOther same => by
    rw [ProtocolBinding.shares_comm]
    exact compatible.bindings other memOther b mem same.symm

instance : Std.Symm Compatible := ⟨fun _ _ compatible => compatible.symm⟩

structure GenerationSeen (generation : RoutingGeneration) (plugins : List LoadedPlugin) : Prop where
  models : ModelsSeen ⟨generation.byModel, generation.canonicalModelByFold⟩ (plugins.flatMap (·.models))
  types : TypesSeen generation.byChannelType (plugins.flatMap ownedTypes)
  routes : RoutesSeen ⟨generation.routeIndex, generation.routes⟩ (plugins.flatMap (·.routes))
  bindings : BindingsSeen generation.protocolIndex (plugins.flatMap protocolBindings)

theorem addPlugin_admits : Admits addPlugin GenerationSeen SelfConsistent Compatible where
  accepts := by
    intro generation plugins seen p
    have modelsIff := (indexModel_admits p).foldlM_iff seen.models p.models
    have typesIff := (indexChannelType_admits p).foldlM_iff seen.types (ownedTypes p)
    have routesIff := (indexRoute_admits p).foldlM_iff seen.routes p.routes
    have bindingsIff := indexProtocol_admits.foldlM_iff seen.bindings (protocolBindings p)
    constructor
    · rintro ⟨after, ran⟩
      obtain ⟨models, ranModels, ran⟩ := except_bind_ok.mp ran
      obtain ⟨types, ranTypes, ran⟩ := except_bind_ok.mp ran
      obtain ⟨routes, ranRoutes, ran⟩ := except_bind_ok.mp ran
      obtain ⟨bindings, ranBindings, _⟩ := except_bind_ok.mp ran
      obtain ⟨_, modelsCross, modelsOwn⟩ := modelsIff.mp ⟨models, ranModels⟩
      obtain ⟨_, typesCross, typesOwn⟩ := typesIff.mp ⟨types, ranTypes⟩
      obtain ⟨shapes, routesCross, routesOwn⟩ := routesIff.mp ⟨routes, ranRoutes⟩
      obtain ⟨_, bindingsCross, bindingsOwn⟩ := bindingsIff.mp ⟨bindings, ranBindings⟩
      refine ⟨⟨modelsOwn, typesOwn, shapes, routesOwn, bindingsOwn⟩, fun other mem => ⟨?_, ?_, ?_, ?_⟩⟩
      · exact fun model here => modelsCross model (mem_flatMap.mpr ⟨other, mem, here⟩)
      · exact fun channelType here there =>
          typesCross channelType (mem_flatMap.mpr ⟨other, mem, here⟩) channelType there rfl
      · exact fun r here => routesCross r (mem_flatMap.mpr ⟨other, mem, here⟩)
      · exact fun b here => bindingsCross b (mem_flatMap.mpr ⟨other, mem, here⟩)
    · rintro ⟨own, compatible⟩
      obtain ⟨models, ranModels⟩ := modelsIff.mpr ⟨fun _ _ => trivial, fun model here => by
        obtain ⟨other, mem, inside⟩ := mem_flatMap.mp here
        exact (compatible other mem).models model inside, own.models⟩
      obtain ⟨types, ranTypes⟩ := typesIff.mpr ⟨fun _ _ => trivial, fun channelType here => by
        obtain ⟨other, mem, inside⟩ := mem_flatMap.mp here
        exact fun own there same => (compatible other mem).types channelType inside (same ▸ there), own.types⟩
      obtain ⟨routes, ranRoutes⟩ := routesIff.mpr ⟨own.shapes, fun r here => by
        obtain ⟨other, mem, inside⟩ := mem_flatMap.mp here
        exact (compatible other mem).routes r inside, own.routes⟩
      obtain ⟨bindings, ranBindings⟩ := bindingsIff.mpr ⟨fun _ _ => trivial, fun b here => by
        obtain ⟨other, mem, inside⟩ := mem_flatMap.mp here
        exact (compatible other mem).bindings b inside, own.bindings⟩
      simp only [addPlugin, ranModels, ranTypes, ranRoutes, ranBindings, bind, Except.bind, pure, Except.pure]
      exact ⟨_, rfl⟩
  seen := by
    intro generation plugins p after seen ran
    obtain ⟨models, ranModels, ran⟩ := except_bind_ok.mp ran
    obtain ⟨types, ranTypes, ran⟩ := except_bind_ok.mp ran
    obtain ⟨routes, ranRoutes, ran⟩ := except_bind_ok.mp ran
    obtain ⟨bindings, ranBindings, ran⟩ := except_bind_ok.mp ran
    cases ran
    constructor
    · simpa using (indexModel_admits p).foldlM_seen seen.models ranModels
    · simpa using (indexChannelType_admits p).foldlM_seen seen.types ranTypes
    · simpa using (indexRoute_admits p).foldlM_seen seen.routes ranRoutes
    · simpa using indexProtocol_admits.foldlM_seen seen.bindings ranBindings

theorem generationSeen_empty (number : Nat) : GenerationSeen { number } [] := by
  refine ⟨⟨nofun, nofun⟩, fun _ => ?_, fun _ => ?_, fun _ => rfl, List.Pairwise.nil⟩
  · simp
  · simp

structure Coherent (plugins : PluginMap) : Prop where
  own : ∀ plugin ∈ plugins.rows, SelfConsistent plugin
  fits : ∀ plugin ∈ plugins.rows, ∀ other ∈ plugins.rows, plugin ≠ other → Compatible plugin other

theorem sortByKey_perm (plugins : List LoadedPlugin) : (sortByKey plugins).Perm plugins := perm_insertionSort _ _

theorem mem_sortByKey {plugins : List LoadedPlugin} {p : LoadedPlugin} : p ∈ sortByKey plugins ↔ p ∈ plugins :=
  (sortByKey_perm plugins).mem_iff

theorem rows_nodup (plugins : PluginMap) : plugins.rows.Nodup := plugins.unique.of_map

theorem pairwise_sorted_iff (plugins : PluginMap) :
    (sortByKey plugins.rows).Pairwise Compatible ↔
      ∀ p ∈ plugins.rows, ∀ other ∈ plugins.rows, p ≠ other → Compatible p other := by
  have nodup : (sortByKey plugins.rows).Nodup := (sortByKey_perm _).nodup_iff.mpr (rows_nodup plugins)
  constructor
  · intro pairwise p mem other memOther ne
    exact pairwise.forall (mem_sortByKey.mpr mem) (mem_sortByKey.mpr memOther) ne
  · intro all
    exact nodup.pairwise_of_forall_ne fun p mem other memOther ne =>
      all p (mem_sortByKey.mp mem) other (mem_sortByKey.mp memOther) ne

theorem build_ok_iff (plugins : PluginMap) (number : Nat) :
    (∃ generation, buildRoutingGenerationFromPlugins plugins number = .ok generation) ↔ Coherent plugins := by
  have built := addPlugin_admits.foldlM_iff (generationSeen_empty number) (sortByKey plugins.rows)
  unfold buildRoutingGenerationFromPlugins
  rw [built, pairwise_sorted_iff]
  constructor
  · rintro ⟨own, _, fits⟩
    exact ⟨fun p mem => own p (mem_sortByKey.mpr mem), fits⟩
  · rintro ⟨own, fits⟩
    exact ⟨fun p mem => own p (mem_sortByKey.mp mem), nofun, fits⟩

end Wildflow.Plugin
