import Wildflow.Proof.Plugin.Publication

/-!
# Public routes

A segment matches itself, a parameter one segment that is not empty, and a closing catch-all all that is left from its
slash on. The intersection tests say yes whenever one path matches both patterns.
-/

namespace Wildflow.Plugin
open Wildflow.Store Table List
variable {current : Option RoutingGeneration} {b : PluginGenerationBuilder} {left path right routePath : String}

def segmentsMatch : List String → List String → Bool
  | [], segments => segments.isEmpty
  | _ :: _, [] => false
  | pattern :: patterns, segment :: segments =>
    if isCatchAll pattern then patterns.isEmpty
    else (if isParameter pattern then segment ≠ "" else segment = pattern) && segmentsMatch patterns segments

def pathMatches (pattern path : String) : Bool := segmentsMatch (pathSegments pattern) (pathSegments path)

example : pathMatches "/v1/videos/:task_id" "/v1/videos/42" = true ∧ pathMatches "/v1/videos/:task_id" "/v1/videos/" = false ∧
    pathMatches "/files/*path" "/files/a/b" = true ∧ pathMatches "/files/*path" "/files" = false := by decide

theorem not_parameter_empty : isParameter "" = false := by decide

theorem segmentsIntersect_of_common {left right segments : List String} (matchesLeft : segmentsMatch left segments = true)
    (matchesRight : segmentsMatch right segments = true) :
    segmentsIntersect (left.map parseSegment) (right.map parseSegment) = true := by
  induction left generalizing right segments with
  | nil =>
    cases segments with
    | nil =>
      cases right with
      | nil => rfl
      | cons pattern patterns => cases matchesRight
    | cons segment segments => cases matchesLeft
  | cons leftPattern lefts ih =>
    cases segments with
    | nil => cases matchesLeft
    | cons segment segments =>
      cases right with
      | nil => cases matchesRight
      | cons rightPattern rights =>
        simp only [segmentsMatch] at matchesLeft matchesRight
        simp only [map_cons, segmentsIntersect, parseSegment]
        by_cases catches : (isCatchAll leftPattern || isCatchAll rightPattern) = true
        · rw [if_pos catches]
        simp only [Bool.not_eq_true, Bool.or_eq_false_iff] at catches
        rw [if_neg (by simp [catches.2]), Bool.and_eq_true] at matchesRight
        rw [if_neg (by simp [catches.1]), Bool.and_eq_true] at matchesLeft
        have rest := ih matchesLeft.2 matchesRight.2
        simp only [catches.1, catches.2, Bool.or_false, Bool.false_eq_true, if_false]
        have hereLeft := matchesLeft.1
        have hereRight := matchesRight.1
        cases dynamicLeft : isParameter leftPattern <;> cases dynamicRight : isParameter rightPattern
        all_goals simp only [dynamicLeft, dynamicRight, Bool.false_eq_true, if_false, if_true, decide_eq_true_eq]
          at hereLeft hereRight
        · simp [rest, ← hereLeft, ← hereRight]
        · simp [rest, ← hereLeft, hereRight]
        · simp [rest, ← hereRight, hereLeft]
        · have filledLeft : leftPattern ≠ "" := by
            rintro rfl
            rw [not_parameter_empty] at dynamicLeft
            cases dynamicLeft
          have filledRight : rightPattern ≠ "" := by grind [not_parameter_empty]
          simp [rest, filledLeft, filledRight]

theorem routePatternsIntersect_of_common (matchesLeft : pathMatches left path = true)
    (matchesRight : pathMatches right path = true) : routePatternsIntersect left right = true :=
  segmentsIntersect_of_common matchesLeft matchesRight

theorem routeIntersectsStaticRoute_of_common {pluginPath staticPath : String}
    (matchesPlugin : pathMatches pluginPath path = true) (matchesStatic : pathMatches staticPath path = true) :
    routeIntersectsStaticRoute pluginPath staticPath = true := by
  unfold routeIntersectsStaticRoute
  rw [if_pos (routePatternsIntersect_of_common matchesPlugin matchesStatic)]

theorem splitOn_append_cons (text more : List Char) :
    (text ++ '/' :: more).splitOn '/' = text.splitOn '/' ++ more.splitOn '/' :=
  splitOnP_append_cons _ _ (by simp)

theorem splitOn_append_slashes (text : List Char) (count : Nat) :
    (text ++ List.replicate count '/').splitOn '/' = text.splitOn '/' ++ List.replicate count [] := by
  induction count generalizing text with
  | zero => simp
  | succ count ih =>
    have shifted : text ++ List.replicate (count + 1) '/' = (text ++ ['/']) ++ List.replicate count '/' := by
      simp [replicate_succ]
    rw [shifted, ih, splitOn_append_cons text [], append_assoc, replicate_succ]
    rfl

theorem trimmed_segments {text : List Char} (opening : text.head? ≠ some '/') :
    ∃ count, text = trim (· = '/') text ++ List.replicate count '/' := by
  have kept : text.dropWhile (· = '/') = text := by
    cases text with
    | nil => rfl
    | cons c rest =>
      refine dropWhile_cons_of_neg ?_
      simpa using opening
  refine ⟨(text.reverse.takeWhile (· = '/')).length, ?_⟩
  have slashes : text.reverse.takeWhile (· = '/') = List.replicate (text.reverse.takeWhile (· = '/')).length '/' := by
    rw [eq_replicate_iff]
    exact ⟨rfl, fun c mem => by simpa using mem_takeWhile_imp mem⟩
  have whole := congrArg List.reverse (@takeWhile_append_dropWhile _ (· = '/') text.reverse)
  rw [reverse_append, reverse_reverse] at whole
  unfold trim
  rw [kept]
  conv_lhs => rw [← whole, slashes, reverse_replicate]

theorem segmentsIntersectNamespace_of_match {names more patterns blanks : List String}
    (named : ∀ name ∈ names, name ≠ "") (empty : ∀ blank ∈ blanks, blank = "")
    (matched : segmentsMatch (patterns ++ blanks) (names ++ more) = true) :
    segmentsIntersectNamespace names patterns = true := by
  induction names generalizing patterns with
  | nil =>
    cases patterns <;> rfl
  | cons name names ih =>
    obtain ⟨filled, namedRest⟩ := forall_mem_cons.mp named
    cases patterns with
    | nil =>
      cases blanks with
      | nil => cases matched
      | cons blank blanks =>
        obtain rfl := empty blank List.mem_cons_self
        simp only [List.nil_append, List.cons_append, segmentsMatch] at matched
        rw [if_neg (by decide), if_neg (by decide), Bool.and_eq_true] at matched
        exact absurd (of_decide_eq_true matched.1) filled
    | cons pattern patterns =>
      simp only [List.cons_append, segmentsMatch] at matched
      simp only [segmentsIntersectNamespace]
      split
      · rfl
      · next follows =>
        rw [if_neg follows, Bool.and_eq_true] at matched
        have rest := ih namedRest matched.2
        have here := matched.1
        cases dynamic : isParameter pattern with
        | true => simpa using rest
        | false =>
          simp only [dynamic, Bool.false_eq_true, if_false, decide_eq_true_eq] at here
          simpa [← here] using rest

def insideNamespace (reserved path : String) : Prop := path = reserved ∨ (reserved ++ "/").toList <+: path.toList

theorem pathSegments_inside {reserved : String} (opening : reserved.toList.head? = some '/')
    (inside : insideNamespace reserved path) : ∃ more, pathSegments path = pathSegments reserved ++ more := by
  rcases inside with rfl | ⟨rest, below⟩
  · exact ⟨[], by simp⟩
  obtain ⟨body, shape⟩ : ∃ body, reserved.toList = '/' :: body := by
    cases chars : reserved.toList with
    | nil => simp [chars] at opening
    | cons c body => exact ⟨body, by simpa [chars] using opening⟩
  refine ⟨(rest.splitOn '/').map String.ofList, ?_⟩
  have whole : path.toList = '/' :: (body ++ '/' :: rest) := by
    rw [← below, String.toList_append, shape]
    simp
  unfold pathSegments
  rw [whole, shape]
  simp only [dropSlash]
  rw [splitOn_append_cons, map_append]

theorem reserved_well_formed : ∀ reserved ∈ reservedRouteNamespaces,
    reserved.toList.head? = some '/' ∧ ∀ name ∈ pathSegments reserved, name ≠ "" := by
  decide +kernel

theorem normalizeRoutePath_shape {normalized : String} (normal : normalizeRoutePath routePath = .ok normalized) :
    normalized = routePath ∧ ∃ text, routePath.toList = '/' :: text ∧ text.head? ≠ some '/' := by
  unfold normalizeRoutePath at normal
  split at normal
  · cases normal
  next opening =>
  split at normal
  · cases normal
  split at normal
  · cases normal
  split at normal
  · cases normal
  next single =>
  obtain ⟨_, _, back⟩ := except_bind_ok.mp normal
  cases back
  refine ⟨rfl, ?_⟩
  cases chars : routePath.toList with
  | nil => simp [chars] at opening
  | cons c text =>
    obtain rfl : c = '/' := by simpa [chars] using opening
    refine ⟨text, rfl, fun doubled => single ?_⟩
    cases text with
    | nil => cases doubled
    | cons d rest =>
      obtain rfl : d = '/' := by simpa using doubled
      exact ⟨[], rest, by simp [chars]⟩

theorem not_inside_reserved (normal : normalizeRoutePath routePath = .ok routePath)
    (apart : intersectingReservedNamespace routePath = none) {reserved : String}
    (mem : reserved ∈ reservedRouteNamespaces) (inside : insideNamespace reserved path) :
    pathMatches routePath path = false := by
  by_contra matched
  rw [Bool.not_eq_false] at matched
  obtain ⟨opening, named⟩ := reserved_well_formed reserved mem
  obtain ⟨more, segments⟩ := pathSegments_inside opening inside
  obtain ⟨_, text, chars, openingText⟩ := normalizeRoutePath_shape normal
  obtain ⟨count, trimmed⟩ := trimmed_segments openingText
  have patterns : pathSegments routePath =
      ((trim (· = '/') text).splitOn '/').map String.ofList ++ List.replicate count "" := by
    unfold pathSegments
    rw [chars]
    simp only [dropSlash]
    conv_lhs => rw [trimmed, splitOn_append_slashes]
    simp
  have clash : routePatternIntersectsNamespace routePath reserved = true := by
    unfold routePatternIntersectsNamespace
    rw [chars]
    unfold pathMatches at matched
    rw [patterns, segments] at matched
    exact segmentsIntersectNamespace_of_match named (fun blank mem => eq_of_mem_replicate mem) matched
  have none := find?_eq_none.mp apart reserved mem
  exact none clash

theorem checkRouteType_path {r checked : Route} (ran : checkRouteType r = .ok checked) : checked.path = r.path := by
  unfold checkRouteType at ran
  cases kind : r.type with
  | submit | dynamic =>
    rw [kind] at ran
    obtain ⟨_, _, back⟩ := except_bind_ok.mp ran
    cases back
    rfl
  | query =>
    rw [kind] at ran
    simp only [except_bind_ok] at ran
    obtain ⟨_, _, _, _, _, _, _, _, back⟩ := ran
    cases back
    rfl
  | other name =>
    rw [kind] at ran
    cases ran

theorem validateRoute_path {declared route : Route} (ran : validateRoute declared = .ok route) :
    normalizeRoutePath route.path = .ok route.path ∧ intersectingReservedNamespace route.path = none := by
  obtain ⟨_, _, ran⟩ := except_bind_ok.mp ran
  obtain ⟨method, _, ran⟩ := except_bind_ok.mp ran
  obtain ⟨path, normal, ran⟩ := except_bind_ok.mp ran
  obtain ⟨rfl, _⟩ := normalizeRoutePath_shape normal
  cases apart : intersectingReservedNamespace declared.path with
  | some reserved =>
    rw [apart] at ran
    cases ran
  | none =>
    rw [apart] at ran
    obtain ⟨checked, ranType, ran⟩ := except_bind_ok.mp ran
    have same := checkRouteType_path ranType
    obtain ⟨_, _, ran⟩ := except_bind_ok.mp ran
    obtain ⟨_, _, ran⟩ := except_bind_ok.mp ran
    obtain ⟨_, _, ran⟩ := except_bind_ok.mp ran
    have back : checked = route := by
      dsimp only at ran
      split at ran
      · obtain ⟨_, _, ran⟩ := except_bind_ok.mp ran
        obtain ⟨_, _, ran⟩ := except_bind_ok.mp ran
        exact Except.ok.inj ran
      · exact Except.ok.inj ran
    rw [← back, same]
    exact ⟨normal, apart⟩

def NoCommonPath (left right : String) : Prop := ∀ path, ¬ (pathMatches left path = true ∧ pathMatches right path = true)

theorem NoCommonPath.symm (apart : NoCommonPath left right) : NoCommonPath right left :=
  fun path both => apart path both.symm

theorem noCommonPath_of_not_intersect (apart : routePatternsIntersect left right = false) :
    NoCommonPath left right := by
  rintro path ⟨matchesLeft, matchesRight⟩
  rw [routePatternsIntersect_of_common matchesLeft matchesRight] at apart
  cases apart

theorem noCommonPath_of_not_intersect_static {pluginPath staticPath : String}
    (apart : routeIntersectsStaticRoute pluginPath staticPath = false) : NoCommonPath pluginPath staticPath := by
  rintro path ⟨matchesPlugin, matchesStatic⟩
  rw [routeIntersectsStaticRoute_of_common matchesPlugin matchesStatic] at apart
  cases apart

structure ClearOfEachOther (staticRoutes : List RouteInfo) (accepted : PluginMap) : Prop where
  publishable : ∀ plugin ∈ accepted.rows, Publishable staticRoutes plugin
  across : ∀ plugin ∈ accepted.rows, ∀ other ∈ accepted.rows, plugin.key ≠ other.key →
    ∀ route ∈ plugin.routes, ∀ otherRoute ∈ other.routes, NoCommonPath route.path otherRoute.path

theorem admitPlugin_keeps_clear {staticRoutes : List RouteInfo} {blocked : Blocked} {accepted after : PluginMap}
    {p : LoadedPlugin} (clear : ClearOfEachOther staticRoutes accepted)
    (ran : admitPlugin staticRoutes blocked accepted p = .ok after) : ClearOfEachOther staticRoutes after := by
  obtain ⟨_, valid, rfl⟩ := admitPlugin_ok.mp ran
  obtain ⟨fit, apart⟩ := validatePlugin_ok.mp valid
  have fresh : ∀ other ∈ accepted.rows, other.key ≠ p.key → ∀ r ∈ p.routes, ∀ route' ∈ other.routes,
      NoCommonPath r.path route'.path := fun other mem ne r memR route' memOther =>
    noCommonPath_of_not_intersect (apart other mem ne r memR route' memOther).1
  constructor
  · grind [clear.publishable]
  · intro row mem other memOther ne r memR route' memberOtherRoute
    rcases mem_put.mp mem with rfl | ⟨old, _⟩
    · grind
    · rcases mem_put.mp memOther with rfl | ⟨earlierOther, _⟩
      · exact (fresh row old ne route' memberOtherRoute r memR).symm
      · exact clear.across row old other earlierOther ne r memR route' memberOtherRoute

theorem accepted_clear (b : PluginGenerationBuilder) (cand : RoutingGeneration) (current : Option RoutingGeneration)
    (blocked : Blocked) : ClearOfEachOther b.staticRoutes (acceptedBy b cand current blocked) :=
  admitAll_invariant (fun _ _ _ _ clear ran => admitPlugin_keeps_clear clear ran)
    (admitAll_invariant (fun _ _ _ _ clear ran => admitPlugin_keeps_clear clear ran) ⟨nofun, nofun⟩)

structure Unambiguous (staticRoutes : List RouteInfo) (generation : RoutingGeneration) : Prop where
  across : ∀ binding ∈ generation.routes, ∀ other ∈ generation.routes, binding.plugin ≠ other.plugin →
    NoCommonPath binding.route.path other.route.path
  within : ∀ plugin ∈ generation.plugins, plugin.routes.Pairwise fun left right =>
    left.method = right.method → NoCommonPath left.path right.path
  bound : ∀ plugin ∈ generation.plugins, ∀ route ∈ plugin.routes, ⟨plugin, route⟩ ∈ generation.routes
  host : ∀ binding ∈ generation.routes, ∀ staticRoute ∈ staticRoutes, NoCommonPath binding.route.path staticRoute.path

theorem prepare_unambiguous {fuel : Nat} {cand : RoutingGeneration} {prepared : PreparedRoutingGeneration}
    (back : prepare b fuel cand current = some (.ok prepared)) : Unambiguous b.staticRoutes prepared.generation := by
  obtain ⟨blocked, _, last⟩ := prepare_last back
  cases prepareRound_outcome last with
  | @prepared filtered errors rebuilt registered =>
    obtain ⟨coherent, members, routes⟩ := rebuildWithPlugins_ok rebuilt
    have clear := accepted_clear b cand current blocked
    have bindings : ∀ binding, binding ∈ filtered.routes ↔
        binding.plugin ∈ (acceptedBy b cand current blocked).rows ∧ binding.route ∈ binding.plugin.routes := by
      intro binding
      rw [routes, mem_bindings, members]
    constructor
    · intro binding mem other memOther ne
      obtain ⟨inside, memR⟩ := (bindings binding).mp mem
      obtain ⟨insideOther, memberOtherRoute⟩ := (bindings other).mp memOther
      refine clear.across _ inside _ insideOther (fun same => ne ?_) _ memR _ memberOtherRoute
      have found := find_of_mem inside
      rw [same, find_of_mem insideOther] at found
      exact (Option.some.inj found).symm
    · intro p mem
      have own := (clear.publishable p ((members p).mp mem)).own
      exact own.imp fun checked same => noCommonPath_of_not_intersect (checked same).1
    · intro p mem r memR
      exact (bindings ⟨p, r⟩).mpr ⟨(members p).mp mem, memR⟩
    · intro binding mem staticRoute memberStatic
      obtain ⟨inside, memR⟩ := (bindings binding).mp mem
      exact noCommonPath_of_not_intersect_static ((clear.publishable _ inside).host _ memR staticRoute memberStatic)

theorem prepareAll_returned {fuel : Nat} {cands : List RoutingGeneration} {generation : RoutingGeneration}
    (mem : generation ∈ prepareAll b fuel current cands) :
    ∃ before cand prepared, prepare b fuel cand before = some (.ok prepared) ∧ prepared.generation = generation := by
  induction cands generalizing current with
  | nil => cases mem
  | cons cand rest ih =>
    grind [prepareAll]

theorem published_routes_unambiguous (b : PluginGenerationBuilder) (fuel : Nat) (current : Option RoutingGeneration)
    (candidates : List RoutingGeneration) :
    (∀ generation ∈ prepareAll b fuel current candidates, Unambiguous b.staticRoutes generation) ∧
    ∀ declared route, validateRoute declared = .ok route → ∀ reserved ∈ reservedRouteNamespaces, ∀ path,
      insideNamespace reserved path → pathMatches route.path path = false := by
  constructor
  · intro generation member
    obtain ⟨_, _, _, returned, rfl⟩ := prepareAll_returned member
    exact prepare_unambiguous returned
  · grind [validateRoute_path, not_inside_reserved]

def videoPlugin : LoadedPlugin :=
  { id := 1, key := "video", routes :=
    [{ method := "POST", path := "/video/jobs", decode := "decode", render := "render" },
      { method := "GET", path := "/video/jobs/:task_id", type := .query, render := "render", taskIDParam := "task_id" }] }

def filePlugin : LoadedPlugin :=
  { id := 2, key := "files", routes := [{ method := "GET", path := "/files/*path", type := .query, render := "render" }] }

theorem published_routes_unambiguous_pair :
    ∃ generation, prepareAll host 1 none [replaceOverrides none [videoPlugin, filePlugin]] = [generation] ∧
      generation.routes.length = 3 ∧ Unambiguous host.staticRoutes generation := by
  have one : (prepareAll host 1 none [replaceOverrides none [videoPlugin, filePlugin]]).length = 1 := by decide +kernel
  have three : (prepareAll host 1 none [replaceOverrides none [videoPlugin, filePlugin]]).map (·.routes.length) = [3] := by
    decide +kernel
  obtain ⟨generation, same⟩ := length_eq_one_iff.mp one
  rw [same] at three
  refine ⟨generation, same, singleton_inj.mp three, ?_⟩
  have all := (published_routes_unambiguous host 1 none [replaceOverrides none [videoPlugin, filePlugin]]).1
  exact all generation (same ▸ mem_singleton_self generation)

end Wildflow.Plugin
