import Mathlib.Data.List.Sort
import Wildflow.Store.Admission
import Wildflow.Store.Dict
import Wildflow.Relay.Strings

/-!
# Plugin routing generations

`pkg/jsplugin/routing.go`: the declarations of plugins, and the generation that indexes them. Publication times are left out.
-/

namespace Wildflow.Plugin
open Wildflow.Store
open Relay (trimSpace quoted)

inductive RouteType where
  | submit
  | query
  | dynamic
  | other (name : String)
deriving DecidableEq

def RouteType.text : RouteType → String
  | .submit => "submit"
  | .query => "query"
  | .dynamic => "dynamic"
  | .other name => name

structure Route where
  method : String
  path : String
  type : RouteType := .submit
  action : String := ""
  decode : String := ""
  render : String := ""
  taskIDParam : String := ""
  models : List String := []
deriving DecidableEq

structure ProtocolClaim where
  name : String
  models : List String := []
deriving DecidableEq

/-- `id` stands for the address: two loads are never equal. Meta data without a key are refused. -/
structure LoadedPlugin where
  id : Nat
  key : String
  models : List String := []
  channelTypes : List Int := []
  routes : List Route := []
  protocols : List ProtocolClaim := []
  keyed : key ≠ "" := by decide
deriving DecidableEq

abbrev PluginMap := Table LoadedPlugin.key

structure HostProtocolOperation where
  methods : List String
  path : String
  modelField : String := ""

structure HostProtocolDefinition where
  name : String
  operations : List HostProtocolOperation

def hostProtocols : List HostProtocolDefinition :=
  [{ name := "openai_responses", operations :=
      [{ methods := ["POST"], path := "/v1/responses", modelField := "model" },
        { methods := ["GET"], path := "/v1/responses/:response_id" }] },
    { name := "openai_video", operations :=
      [{ methods := ["POST"], path := "/v1/videos", modelField := "model" },
        { methods := ["GET"], path := "/v1/videos/:task_id" },
        { methods := ["GET", "HEAD"], path := "/v1/videos/:task_id/content" }] }]

def hostOperations (name : String) : List HostProtocolOperation :=
  match hostProtocols.find? (·.name = name) with
  | none => []
  | some definition => definition.operations

/-- `strings.Split(strings.TrimPrefix(path, "/"), "/")`. -/
def dropSlash : List Char → List Char
  | '/' :: rest => rest
  | chars => chars

def pathSegments (path : String) : List String := ((dropSlash path.toList).splitOn '/').map String.ofList

def isNameStart (c : Char) : Bool := c.isAlpha || c = '_'

/-- `^[A-Za-z_][A-Za-z0-9_]*$`. -/
def isPathName (name : String) : Bool :=
  match name.toList with
  | [] => false
  | first :: rest => isNameStart first && rest.all fun c => isNameStart c || c.isDigit

/-- `^[A-Za-z_$][A-Za-z0-9_$]*$`. -/
def isMemberName (name : String) : Bool :=
  match name.toList with
  | [] => false
  | first :: rest => (isNameStart first || first = '$') && rest.all fun c => isNameStart c || c.isDigit || c = '$'

/-- `^[A-Za-z0-9._~-]+$`. -/
def isStaticSegment (segment : String) : Bool :=
  segment ≠ "" && segment.toList.all fun c => c.isAlpha || c.isDigit || c ∈ ['.', '_', '~', '-']

def toUpper (text : String) : String := String.ofList (text.toList.map Char.toUpper)

def normalizeRouteMethod (method : String) : Except String String :=
  let normalized := toUpper (trimSpace method)
  if normalized ∈ ["GET", "POST", "PUT", "PATCH", "DELETE"] then .ok normalized
  else .error ("plugin route method " ++ quoted normalized ++ " is not supported")

section
variable (routePath : String)

def checkName (name invalid : String) (inPlace : Bool) (seenNames : List String) : Except String (List String) :=
  if !inPlace || !isPathName name then .error invalid
  else if name ∈ seenNames then .error ("plugin route path " ++ quoted routePath ++ " repeats parameter " ++ quoted name)
  else .ok (seenNames ++ [name])

def checkSegment (last : Nat) (seenNames : List String) (entry : String × Nat) : Except String (List String) :=
  let (segment, index) := entry
  if segment = "" ∧ index = last then .ok seenNames
  else if segment = "." ∨ segment = ".." then
    .error ("plugin route path " ++ quoted routePath ++ " must not contain dot segments")
  else match segment.toList with
    | ':' :: name => checkName routePath (String.ofList name)
        ("plugin route path " ++ quoted routePath ++ " has invalid parameter " ++ quoted segment) true seenNames
    | '*' :: name => checkName routePath (String.ofList name)
        ("plugin route path " ++ quoted routePath ++ " has an invalid catch-all segment") (index = last) seenNames
    | _ =>
      if isStaticSegment segment then .ok seenNames
      else .error ("plugin route path " ++ quoted routePath ++ " has invalid segment " ++ quoted segment)

def normalizeRoutePath : Except String String :=
  if routePath.toList.head? ≠ some '/' then .error "plugin route path must start with /"
  else if routePath = "/" then .error "plugin route path / is reserved"
  else if routePath.toList.any (· ∈ ['?', '#', '%']) then
    .error ("plugin route path " ++ quoted routePath ++ " must not contain a query, fragment, or percent-encoding")
  else if ['/', '/'] <:+: routePath.toList then
    .error ("plugin route path " ++ quoted routePath ++ " must not contain empty segments")
  else do
    let segments := pathSegments routePath
    let _ ← segments.zipIdx.foldlM (checkSegment routePath (segments.length - 1)) []
    pure routePath

def segmentShape (segment : String) : String :=
  match segment.toList with
  | ':' :: _ => ":"
  | '*' :: _ => "*"
  | _ => segment

def routePathShape : Except String String := do
  let normalized ← normalizeRoutePath routePath
  pure ("/" ++ String.intercalate "/" ((pathSegments normalized).map segmentShape))

def reservedRouteNamespaces : List String :=
  ["/api", "/assets", "/setup", "/v1/tasks", "/console", "/login", "/forbidden", "/sign-in", "/sign-up", "/forgot-password",
    "/oauth", "/otp", "/register", "/reset", "/privacy-policy", "/user-agreement", "/about", "/pricing", "/rankings", "/user",
    "/401", "/403", "/404", "/500", "/503", "/chat2link", "/system-settings", "/channels", "/chat", "/dashboard", "/errors",
    "/keys", "/models", "/playground", "/profile", "/redemption-codes", "/subscriptions", "/system-info", "/task-plugins",
    "/usage-logs", "/users", "/wallet"]

def isCatchAll (segment : String) : Bool := segment.toList.head? = some '*'

def isParameter (segment : String) : Bool := segment.toList.head? = some ':'

def segmentsIntersectNamespace : List String → List String → Bool
  | [], _ => true
  | _ :: _, [] => false
  | namespaceSegment :: namespaces, routeSegment :: routes =>
    if isCatchAll routeSegment then true
    else if !isParameter routeSegment && routeSegment ≠ namespaceSegment then false
    else segmentsIntersectNamespace namespaces routes

def routePatternIntersectsNamespace (reserved : String) : Bool :=
  segmentsIntersectNamespace (pathSegments reserved)
    (((trim (· = '/') (dropSlash routePath.toList)).splitOn '/').map String.ofList)

def intersectingReservedNamespace : Option String :=
  reservedRouteNamespaces.find? (routePatternIntersectsNamespace routePath)

def asciiFold (text : String) : String := String.ofList (text.toList.map Char.toLower)

def checkScopedModel (subject : String) (seen : List String) (model : String) : Except String (List String) :=
  if trimSpace model = "" ∨ trimSpace model ≠ model then
    .error ("plugin " ++ subject ++ " models must contain non-empty canonical names")
  else if asciiFold model ∈ seen then .error ("plugin " ++ subject ++ " models must be unique case-insensitively")
  else .ok (seen ++ [asciiFold model])

def validateModelScope (models : List String) (subject : String) : Except String Unit := do
  let _ ← models.foldlM (checkScopedModel subject) []
  pure ()

def refuse (condition : Prop) [Decidable condition] (why : String) : Except String Unit :=
  if condition then .error why else .ok ()

def pathHasParameter (name : String) : Bool :=
  ":" ++ name ∈ (routePath.toList.splitOn '/').map String.ofList

end

/-- What a route of each type has to declare, with the default of a query route's parameter. -/
def checkRouteType (route : Route) : Except String Route := do
  let subject := route.method ++ " " ++ route.path
  match route.type with
  | .submit | .dynamic =>
    refuse (route.decode = "" ∨ route.render = "" ∨ route.taskIDParam ≠ "")
      (route.type.text ++ " route " ++ subject ++ " must declare decode and render and must not declare taskIdParam")
    pure route
  | .query =>
    refuse (route.decode ≠ "" ∨ trimSpace route.render = "")
      ("query route " ++ subject ++ " must declare render and must not declare decode")
    refuse (route.action ≠ "") ("query route " ++ subject ++ " must not declare action")
    let param := if route.taskIDParam = "" then "task_id" else route.taskIDParam
    refuse (isPathName param = false) ("query route " ++ subject ++ " has invalid taskIdParam " ++ quoted param)
    refuse (pathHasParameter route.path param = false) ("query route " ++ subject ++ " must contain :" ++ param)
    pure { route with taskIDParam := param }
  | .other name => .error ("plugin route " ++ subject ++ " has unsupported type " ++ quoted name)

def validateRoute (declared : Route) : Except String Route := do
  refuse (declared.method ≠ toUpper (trimSpace declared.method))
    ("plugin route method " ++ quoted declared.method ++ " must use canonical uppercase spelling")
  let method ← normalizeRouteMethod declared.method
  let path ← normalizeRoutePath declared.path
  match intersectingReservedNamespace path with
  | some reserved => .error ("plugin route path " ++ quoted path ++ " intersects reserved namespace " ++ reserved)
  | none => do
      let route ← checkRouteType { declared with method, path }
      let subject := "plugin route " ++ route.method ++ " " ++ route.path
      refuse (route.decode ≠ "" ∧ isMemberName route.decode = false) (subject ++ " has invalid decode " ++ quoted route.decode)
      refuse (route.render ≠ "" ∧ isMemberName route.render = false) (subject ++ " has invalid render " ++ quoted route.render)
      refuse (trimSpace route.action ≠ route.action) (subject ++ " action must not have surrounding whitespace")
      if route.models ≠ [] then
        refuse (route.type = .query) ("query route " ++ route.method ++ " " ++ route.path ++ " must not declare models")
        validateModelScope route.models ("route " ++ route.method ++ " " ++ route.path)
      pure route

structure RouteBinding where
  plugin : LoadedPlugin
  route : Route

structure ProtocolBinding where
  plugin : LoadedPlugin
  protocol : String
  operation : HostProtocolOperation
  method : String
  model : String

structure RoutingGeneration where
  number : Nat
  byKey : PluginMap := Table.empty
  byModel : Dict String LoadedPlugin := Dict.empty
  canonicalModelByFold : Dict String String := Dict.empty
  byChannelType : Dict Int LoadedPlugin := Dict.empty
  routeIndex : Dict String RouteBinding := Dict.empty
  protocolIndex : Dict (String × String × String) (List ProtocolBinding) := Dict.empty
  plugins : List LoadedPlugin := []
  routes : List RouteBinding := []
  retainCurrent : List String := []
  runtime : Bool := false

structure ModelIndex where
  byModel : Dict String LoadedPlugin
  canonicalModelByFold : Dict String String

section
variable (plugin : LoadedPlugin)

def indexModel (index : ModelIndex) (model : String) : Except String ModelIndex :=
  let byModel := if (index.byModel.get model).isSome then index.byModel else index.byModel.set model plugin
  match index.canonicalModelByFold.get (asciiFold model) with
  | some existing =>
    if existing ≠ model then
      let other := ((byModel.get existing).map (·.key)).getD plugin.key
      .error ("plugin " ++ plugin.key ++ " model " ++ quoted model ++ " conflicts with plugin " ++ other ++ " model " ++
        quoted existing)
    else .ok { index with byModel }
  | none => .ok { byModel, canonicalModelByFold := index.canonicalModelByFold.set (asciiFold model) model }

def channelTypeTaskPlugin : Int := 61

def ownedTypes : List Int :=
  plugin.channelTypes.filter fun channelType => channelType ≠ 0 && channelType ≠ channelTypeTaskPlugin

def indexChannelType (index : Dict Int LoadedPlugin) (channelType : Int) : Except String (Dict Int LoadedPlugin) :=
  match index.get channelType with
  | some other =>
    .error ("plugin " ++ plugin.key ++ " channelType " ++ toString channelType ++ " conflicts with plugin " ++ other.key)
  | none => .ok (index.set channelType plugin)

structure RouteIndex where
  routeIndex : Dict String RouteBinding
  routes : List RouteBinding

def routeKey (route : Route) : Except String String := do
  let shape ← routePathShape route.path
  pure (route.method ++ " " ++ shape)

def indexRoute (index : RouteIndex) (route : Route) : Except String RouteIndex := do
  let key ← routeKey route
  match index.routeIndex.get key with
  | some other =>
    .error ("plugin " ++ plugin.key ++ " route " ++ route.method ++ " " ++ route.path ++ " conflicts with plugin " ++
      other.plugin.key ++ " route " ++ other.route.path)
  | none => .ok { routeIndex := index.routeIndex.set key { plugin, route }, routes := index.routes ++ [{ plugin, route }] }

def protocolBindings : List ProtocolBinding :=
  plugin.protocols.flatMap fun claim =>
    let boundModels := if claim.models = [] then plugin.models else claim.models
    ((hostOperations claim.name).filter (·.modelField ≠ "")).flatMap fun operation =>
      operation.methods.flatMap fun method =>
        boundModels.map fun model => { plugin, protocol := claim.name, operation, method, model }

end

def ProtocolBinding.indexKey (binding : ProtocolBinding) : String × String × String :=
  (binding.method, binding.operation.path, binding.model)

/-- Legacy providers of one protocol may share an endpoint. -/
def ProtocolBinding.shares (binding other : ProtocolBinding) : Bool :=
  binding.plugin.channelTypes ≠ [] && other.plugin.channelTypes ≠ [] && binding.protocol = other.protocol

def indexProtocol (index : Dict (String × String × String) (List ProtocolBinding)) (binding : ProtocolBinding) :
    Except String (Dict (String × String × String) (List ProtocolBinding)) :=
  let bindings := (index.get binding.indexKey).getD []
  match bindings with
  | other :: _ =>
    if binding.shares other then .ok (index.set binding.indexKey (bindings ++ [binding]))
    else .error ("plugin " ++ binding.plugin.key ++ " protocol " ++ binding.method ++ " " ++ binding.operation.path ++
      " model " ++ quoted binding.model ++ " conflicts with plugin " ++ other.plugin.key)
  | [] => .ok (index.set binding.indexKey [binding])

def addPlugin (generation : RoutingGeneration) (plugin : LoadedPlugin) : Except String RoutingGeneration := do
  let models ← plugin.models.foldlM (indexModel plugin)
    { byModel := generation.byModel, canonicalModelByFold := generation.canonicalModelByFold }
  let byChannelType ← (ownedTypes plugin).foldlM (indexChannelType plugin) generation.byChannelType
  let routes ← plugin.routes.foldlM (indexRoute plugin) { routeIndex := generation.routeIndex, routes := generation.routes }
  let protocolIndex ← (protocolBindings plugin).foldlM indexProtocol generation.protocolIndex
  pure { generation with
    byKey := generation.byKey.put plugin, plugins := generation.plugins ++ [plugin]
    byModel := models.byModel, canonicalModelByFold := models.canonicalModelByFold, byChannelType
    routeIndex := routes.routeIndex, routes := routes.routes, protocolIndex }

def sortByKey (plugins : List LoadedPlugin) : List LoadedPlugin := plugins.insertionSort fun a b => a.key ≤ b.key

def buildRoutingGenerationFromPlugins (effective : PluginMap) (number : Nat) : Except String RoutingGeneration :=
  (sortByKey effective.rows).foldlM addPlugin { number }

/-- Candidates that are in service, those that replace one that is, and new ones, each in the order of their keys. -/
def admissionOrder (incumbents : PluginMap) (candidates : List LoadedPlugin) : List LoadedPlugin :=
  sortByKey (candidates.filter fun plugin => incumbents.find plugin.key = some plugin) ++
    sortByKey (candidates.filter fun plugin =>
      (incumbents.find plugin.key).any fun incumbent => incumbent ≠ plugin) ++
    sortByKey (candidates.filter fun plugin => incumbents.find plugin.key = none)

structure AdmissionState where
  accepted : PluginMap
  generation : RoutingGeneration

def tryPlugin (number : Nat) (s : AdmissionState) (plugin : LoadedPlugin) : Except String AdmissionState :=
  match buildRoutingGenerationFromPlugins (s.accepted.put plugin) number with
  | .ok generation => .ok { accepted := s.accepted.put plugin, generation }
  | .error why => .error why

def fallbackOf (incumbents : PluginMap) (retainCurrent : List String) (candidate : LoadedPlugin) : Option LoadedPlugin :=
  (incumbents.find candidate.key).filter fun incumbent => candidate.key ∈ retainCurrent && incumbent ≠ candidate

def currentByKey (current : Option RoutingGeneration) : PluginMap :=
  match current with
  | none => Table.empty
  | some generation => generation.plugins.foldl Table.put Table.empty

def noteErrors (errors : Dict String String) (rejected : List (LoadedPlugin × String)) : Dict String String :=
  rejected.foldl (fun errors entry => errors.set entry.1.key entry.2) errors

section
variable (factory override : PluginMap) (overrideEnabled : Bool)

def effectivePlugins : PluginMap :=
  if overrideEnabled then override.rows.foldl Table.put factory else factory

def buildRoutingGeneration (number : Nat) :
    Except String RoutingGeneration :=
  buildRoutingGenerationFromPlugins (effectivePlugins factory override overrideEnabled) number

def buildRoutingGenerationAdmitting (number : Nat)
    (current : Option RoutingGeneration) (retainCurrent : List String) :
    Except String (RoutingGeneration × Dict String String) :=
  let candidates := effectivePlugins factory override overrideEnabled
  let incumbents := currentByKey current
  match buildRoutingGenerationFromPlugins Table.empty number with
  | .error why => .error ("initialize routing generation: " ++ why)
  | .ok generation =>
    let first := admitAll (tryPlugin number) { accepted := Table.empty, generation } (admissionOrder incumbents candidates.rows)
    let second := admitAll (tryPlugin number) first.1
      (first.2.filterMap fun entry => fallbackOf incumbents retainCurrent entry.1)
    let explained := first.2.map fun entry =>
      (entry.1, "plugin " ++ entry.1.key ++ " rejected from routing generation: " ++ entry.2)
    .ok ({ second.1.generation with retainCurrent }, noteErrors Dict.empty explained)

end

def rebuildKey (g : RoutingGeneration) (byKey : PluginMap) (plugin : LoadedPlugin) : Except String PluginMap :=
  if g.byKey.find plugin.key = none then
    .error ("plugin " ++ quoted plugin.key ++ " is not present in routing generation " ++ toString g.number)
  else if (byKey.find plugin.key).isSome then
    .error ("plugin " ++ quoted plugin.key ++ " appears more than once in routing generation rebuild")
  else .ok (byKey.put plugin)

def rebuildWithPlugins (g : RoutingGeneration) (plugins : List LoadedPlugin) : Except String RoutingGeneration := do
  let byKey ← plugins.foldlM (rebuildKey g) Table.empty
  let rebuilt ← buildRoutingGeneration byKey Table.empty false g.number
  pure { rebuilt with retainCurrent := g.retainCurrent }

end Wildflow.Plugin
