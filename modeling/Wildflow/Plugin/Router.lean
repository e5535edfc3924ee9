import Wildflow.Plugin.Routing
import Wildflow.Store.Run

/-!
# The public router of plugins

`router/plugin-router.go`: which plugins of a candidate generation may publish their routes, and the rounds in which one is left
out after another until the inner router can be built.
-/

namespace Wildflow.Plugin
open Wildflow.Store
open Relay (quoted)

structure RoutePatternSegment where
  value : String
  dynamic : Bool
  catchAll : Bool

def parseSegment (part : String) : RoutePatternSegment :=
  { value := part, dynamic := isParameter part || isCatchAll part, catchAll := isCatchAll part }

def parseRoutePattern (routePath : String) : List RoutePatternSegment := (pathSegments routePath).map parseSegment

def segmentsIntersect : List RoutePatternSegment → List RoutePatternSegment → Bool
  | [], [] => true
  | [], _ :: _ => false
  | _ :: _, [] => false
  | left :: lefts, right :: rights =>
    if left.catchAll || right.catchAll then true
    else if !left.dynamic && !right.dynamic && left.value ≠ right.value then false
    else if (left.dynamic && right.value = "") || (right.dynamic && left.value = "") then false
    else segmentsIntersect lefts rights

def routePatternsIntersect (leftPath rightPath : String) : Bool :=
  segmentsIntersect (parseRoutePattern leftPath) (parseRoutePattern rightPath)

def segmentsGinCompatible : List RoutePatternSegment → List RoutePatternSegment → Bool
  | left :: lefts, right :: rights =>
    if !left.dynamic && !right.dynamic then
      if left.value ≠ right.value then true else segmentsGinCompatible lefts rights
    else if left.dynamic && right.dynamic then
      if left.value ≠ right.value then false else segmentsGinCompatible lefts rights
    else true
  | _, _ => true

def routesGinCompatible (leftPath rightPath : String) : Bool :=
  segmentsGinCompatible (parseRoutePattern leftPath) (parseRoutePattern rightPath)

/-- `strings.LastIndex(path, "/*")`. -/
def lastCatchAll : List Char → Option Nat
  | [] => none
  | c :: rest =>
    match lastCatchAll rest with
    | some index => some (index + 1)
    | none => if ['/', '*'] <+: c :: rest then some 0 else none

def alternatePath (path : String) : String :=
  if path.toList.getLast? = some '/' then String.ofList path.toList.dropLast else path ++ "/"

def routeIntersectsStaticRoute (pluginPath staticPath : String) : Bool :=
  if routePatternsIntersect pluginPath staticPath then true
  else match (lastCatchAll staticPath.toList).filter fun index => index + 2 < staticPath.toList.length with
    | some index =>
      let parent := String.ofList (staticPath.toList.take index)
      routePatternsIntersect pluginPath parent || routePatternsIntersect pluginPath (parent ++ "/")
    | none => if staticPath = "/" then false else routePatternsIntersect pluginPath (alternatePath staticPath)

structure RouteInfo where
  method : String
  path : String

/-- `registerRoute` says with what a registration panics, given the bindings that the engine has; `configure` says what fails. -/
structure PluginGenerationBuilder where
  staticRoutes : List RouteInfo
  registerRoute : List RouteBinding → RouteBinding → Option String
  configure : Option String

def checkAll {α : Type} (check : α → Except String Unit) : List α → Except String Unit
  | [] => .ok ()
  | a :: rest => do
      check a
      checkAll check rest

def checkStatic (route : Route) (staticRoute : RouteInfo) : Except String Unit :=
  refuse (routeIntersectsStaticRoute route.path staticRoute.path)
    ("route " ++ route.method ++ " " ++ route.path ++ " intersects static route " ++ staticRoute.method ++ " " ++
      staticRoute.path)

def checkOwn (left right : Route) : Except String Unit :=
  if left.method ≠ right.method then .ok ()
  else do
    refuse (routePatternsIntersect left.path right.path)
      ("routes " ++ left.method ++ " " ++ left.path ++ " and " ++ right.path ++ " overlap")
    refuse (routesGinCompatible left.path right.path = false)
      ("routes " ++ left.method ++ " " ++ left.path ++ " and " ++ right.path ++ " use incompatible wildcard names")

def checkOwnRoutes : List Route → Except String Unit
  | [] => .ok ()
  | left :: rest => do
      checkAll (checkOwn left) rest
      checkOwnRoutes rest

def checkOther (other : LoadedPlugin) (route otherRoute : Route) : Except String Unit := do
  refuse (routePatternsIntersect route.path otherRoute.path)
    ("route " ++ route.method ++ " " ++ route.path ++ " overlaps plugin " ++ other.key ++ " route " ++ otherRoute.method ++ " " ++
      otherRoute.path)
  refuse (route.method = otherRoute.method ∧ routesGinCompatible route.path otherRoute.path = false)
    ("route " ++ route.method ++ " " ++ route.path ++ " is structurally incompatible with plugin " ++ other.key ++ " route " ++
      otherRoute.path)

abbrev Blocked := Dict LoadedPlugin String

def blockedError (blocked : Blocked) (plugin : LoadedPlugin) : String := (blocked.get plugin).getD ""

def servingByKey (current : Option RoutingGeneration) : PluginMap := currentByKey (current.filter (·.runtime))

section
variable (staticRoutes : List RouteInfo)

def validatePlugin (plugin : LoadedPlugin) (accepted : PluginMap) : Except String Unit := do
  checkAll (fun route => checkAll (checkStatic route) staticRoutes) plugin.routes
  checkOwnRoutes plugin.routes
  checkAll (fun other =>
    if other.key = plugin.key then .ok ()
    else checkAll (fun route => checkAll (checkOther other route) other.routes) plugin.routes) accepted.rows

def admitPlugin (blocked : Blocked) (accepted : PluginMap) (plugin : LoadedPlugin) :
    Except String PluginMap :=
  if blockedError blocked plugin ≠ "" then .error (blockedError blocked plugin)
  else match validatePlugin staticRoutes plugin accepted with
    | .error why => .error ("plugin " ++ plugin.key ++ " rejected from public routes: " ++ why)
    | .ok () => .ok (accepted.put plugin)

def admitPlugins (candidate : RoutingGeneration) (current : Option RoutingGeneration)
    (blocked : Blocked) : PluginMap × Dict String String :=
  let incumbents := servingByKey current
  let first := admitAll (admitPlugin staticRoutes blocked) Table.empty (admissionOrder incumbents candidate.plugins)
  let second := admitAll (admitPlugin staticRoutes blocked) first.1
    (substitutes (fallbackOf incumbents candidate.retainCurrent) first.2)
  -- an incumbent that is only incompatible leaves the error of its update
  let blockedIncumbents := second.2.filter fun entry => blockedError blocked entry.1 ≠ ""
  (second.1, noteErrors (noteErrors Dict.empty first.2) blockedIncumbents)

end

def registerAll (registerRoute : List RouteBinding → RouteBinding → Option String) (done : List RouteBinding) :
    List RouteBinding → Option (RouteBinding × String)
  | [] => none
  | binding :: rest =>
    match registerRoute done binding with
    | some recovered => some (binding, recovered)
    | none => registerAll registerRoute (done ++ [binding]) rest

structure EngineFailure where
  offender : String
  error : String

def buildInnerEngine (b : PluginGenerationBuilder) (generation : RoutingGeneration) : Except EngineFailure Unit :=
  match b.configure with
  | some why => .error { offender := "", error := why }
  | none =>
    match registerAll b.registerRoute [] generation.routes with
    | some (binding, recovered) =>
      .error { offender := binding.plugin.key, error := "inner Gin registration panic: " ++ recovered }
    | none => .ok ()

structure PreparedRoutingGeneration where
  generation : RoutingGeneration
  errors : Dict String String

def prepareRound (b : PluginGenerationBuilder) (candidate : RoutingGeneration) (current : Option RoutingGeneration)
    (blocked : Blocked) : Except String PreparedRoutingGeneration ⊕ Blocked :=
  let (accepted, routingErrors) := admitPlugins b.staticRoutes candidate current blocked
  match rebuildWithPlugins candidate (sortByKey accepted.rows) with
  | .error why => .inl (.error why)
  | .ok filtered =>
    match buildInnerEngine b filtered with
    | .ok () => .inl (.ok { generation := { filtered with runtime := true }, errors := routingErrors })
    | .error failure =>
      if failure.offender = "" then .inl (.error failure.error)
      else match accepted.find failure.offender with
        | none => .inl (.error ("public route rebuild attributed failure to absent plugin " ++ quoted failure.offender ++
            ": " ++ failure.error))
        | some failedPlugin => .inr (blocked.set failedPlugin
            ("plugin " ++ failure.offender ++ " rejected while rebuilding public routes: " ++ failure.error))

def prepare (b : PluginGenerationBuilder) (fuel : Nat) (candidate : RoutingGeneration) (current : Option RoutingGeneration) :
    Option (Except String PreparedRoutingGeneration) :=
  loopRounds (prepareRound b candidate current) fuel Dict.empty

def prepareAll (b : PluginGenerationBuilder) (fuel : Nat) : Option RoutingGeneration → List RoutingGeneration →
    List RoutingGeneration
  | _, [] => []
  | current, candidate :: rest =>
    match prepare b fuel candidate current with
    | some (.ok prepared) => prepared.generation :: prepareAll b fuel (some prepared.generation) rest
    | _ => prepareAll b fuel current rest

end Wildflow.Plugin
