import Wildflow.Store.Table
import Wildflow.Relay.Strings

/-!
# Header overrides of a relayed request

`relay/common/override.go` and `relay/channel/api_request.go`: the header part of a parameter override program, the
runtime override it leaves on the relay info, and the header map that goes upstream. The request body is read through
`OverrideRuntime`. A header value is the list of its comma separated pieces, each with where it came from; the code sees only
`text`. What is read from a body into which a piece of the client was written counts as the client's.
-/

namespace Wildflow.Relay
open Wildflow.Store

def normalizeHeaderContextKey (key : String) : String := trimSpace (toLower key)

/-- What `encoding/json` decodes into an `interface{}`. A number is kept as `%v` prints it, and the entries of an object
are in the order of their keys, in which `%v` prints them. -/
inductive Json where
  | null
  | bool (value : Bool)
  | number (printed : String)
  | string (text : String)
  | array (items : List Json)
  | object (entries : List (String × Json))

-- fmt.Sprintf("%v", value)
mutual
def Json.print : Json → String
  | .null => "<nil>"
  | .bool value => if value then "true" else "false"
  | .number printed => printed
  | .string text => text
  | .array items => "[" ++ " ".intercalate (Json.printItems items) ++ "]"
  | .object entries => "map[" ++ " ".intercalate (Json.printEntries entries) ++ "]"

def Json.printItems : List Json → List String
  | [] => []
  | item :: items => item.print :: Json.printItems items

def Json.printEntries : List (String × Json) → List String
  | [] => []
  | (key, value) :: entries => (key ++ ":" ++ value.print) :: Json.printEntries entries
end

def Json.entry (entries : List (String × Json)) (key : String) : Option Json :=
  (entries.find? fun entry => entry.1 = key).map Prod.snd

structure HeaderToken where
  text : String
  fromClient : Bool
deriving DecidableEq

abbrev HeaderValue := List HeaderToken

namespace HeaderValue

def text (value : HeaderValue) : String := ",".intercalate (value.map HeaderToken.text)

def literal (text : String) : HeaderValue := [⟨text, false⟩]

def client (text : String) : HeaderValue := [⟨text, true⟩]

def trimStart : HeaderValue → HeaderValue
  | [] => []
  | token :: rest => { token with text := String.ofList (token.text.toList.dropWhile isSpace) } :: rest

def trimEnd : HeaderValue → HeaderValue
  | [] => []
  | [token] => [{ token with text := String.ofList (token.text.toList.reverse.dropWhile isSpace).reverse }]
  | token :: next :: rest => token :: trimEnd (next :: rest)

def trimSpace (value : HeaderValue) : HeaderValue := trimEnd (trimStart value)

def fromClient (value : HeaderValue) : Bool := value.any HeaderToken.fromClient

def markedIf (marked : Bool) (value : HeaderValue) : HeaderValue :=
  if marked then value.map fun token => { token with fromClient := true } else value

end HeaderValue

abbrev HeaderMap := Table (Prod.fst : String × HeaderValue → String)

def deleteHeader (headers : HeaderMap) (name : String) : HeaderMap := headers.keep fun entry => entry.1 ≠ name

def isHeaderPassthroughRuleKey (key : String) : Bool :=
  let key := trimSpace (toLower key)
  key = "*" || hasFront "re:" key || hasFront "regex:" key

def sanitizeEntry (headers : HeaderMap) (entry : String × HeaderValue) : HeaderMap :=
  let normalizedKey := normalizeHeaderContextKey entry.1
  if normalizedKey = "" then headers
  else
    let normalizedValue := entry.2.trimSpace
    if normalizedValue.text = "" then
      if isHeaderPassthroughRuleKey normalizedKey then headers.put (normalizedKey, HeaderValue.literal "") else headers
    else headers.put (normalizedKey, normalizedValue)

/-- The entries come in the order in which the map is ranged over. -/
def sanitizeHeaderOverrideMap (source : List (String × HeaderValue)) : HeaderMap :=
  source.foldl sanitizeEntry Table.empty

structure ConditionOperation where
  path : String
  mode : String
  value : Json
  invert : Bool
  passMissingKey : Bool

inductive BodyMode where
  | delete | set | move | copy | prepend | append | trimPrefix | trimSuffix | ensurePrefix | ensureSuffix | trimSpace
  | toLower | toUpper | replace | regexReplace | pruneObjects

inductive OperationMode where
  | body (mode : BodyMode)
  | returnError
  | setHeader
  | deleteHeader
  | copyHeader
  | moveHeader
  | passHeaders
  | syncFields
  | unknown (name : String)

structure ParamOperation where
  mode : OperationMode
  path : String := ""
  value : Json := .null
  keepOrigin : Bool := false
  source : String := ""
  target : String := ""
  conditions : List ConditionOperation := []
  logic : String := "OR"

/-- A parameter override as `tryParseOperations` and `buildLegacyParamOverride` take it apart. -/
structure ParamOverride where
  legacy : List (String × Json) := []
  operations : Option (List ParamOperation) := none

def ParamOverride.isEmpty (override : ParamOverride) : Bool :=
  override.legacy.isEmpty && override.operations.isNone

structure ChannelMeta where
  paramOverride : ParamOverride := {}
  headersOverride : List (String × Json) := []
  apiKey : String := ""
  upstreamModelName : String := ""

structure LastError where
  statusCode : Int
  message : String
  code : String
  errorType : String
  skipRetry : Bool

structure RelayInfo where
  userId : Int := 0
  userGroup : String := ""
  tokenGroup : String := ""
  usingGroup : String := ""
  originModelName : String := ""
  requestURLPath : String := ""
  requestHeaders : List (String × String) := []
  retryIndex : Nat := 0
  lastError : Option LastError := none
  isChannelTest : Bool := false
  runtimeHeadersOverride : HeaderMap := Table.empty
  useRuntimeHeadersOverride : Bool := false
  channelMeta : ChannelMeta := {}

structure ClientRequest where
  headers : List (String × String) := []

/-- `http.Header.Get`: names are compared without case. -/
def ClientRequest.get (request : ClientRequest) (name : String) : String :=
  ((request.headers.find? fun header => toLower header.1 = toLower name).map Prod.snd).getD ""

def cloneRequestHeaders (request : ClientRequest) : List (String × String) :=
  request.headers.filterMap fun header =>
    let value := trimSpace (request.get header.1)
    if value = "" then none else some (header.1, value)

def configuredHeaders (headers : List (String × Json)) : List (String × HeaderValue) :=
  headers.map fun header => (header.1, HeaderValue.literal header.2.print)

def getEffectiveHeaderOverride (info : RelayInfo) : HeaderMap :=
  if info.useRuntimeHeadersOverride then sanitizeHeaderOverrideMap info.runtimeHeadersOverride.rows
  else sanitizeHeaderOverrideMap (configuredHeaders info.channelMeta.headersOverride)

structure ContextFacts where
  userId : Int
  userGroup : String
  tokenGroup : String
  usingGroup : String
  model : Option String
  upstreamModel : Option String
  originalModel : Option String
  requestPath : Option String
  retryIndex : Nat
  lastError : Option LastError
  isChannelTest : Bool

structure OverrideContext where
  facts : ContextFacts
  requestHeaders : HeaderMap
  headerOverride : HeaderMap
  bodyMarked : Bool := false

def buildRequestHeadersContext (headers : List (String × String)) : HeaderMap :=
  headers.foldl (fun context header =>
    let normalized := normalizeHeaderContextKey header.1
    let value := trimSpace header.2
    if normalized = "" ∨ value = "" then context else context.put (normalized, HeaderValue.client value)) Table.empty

def nonEmpty (text : String) : Option String := if text = "" then none else some text

def buildParamOverrideContext (info : RelayInfo) : OverrideContext where
  facts :=
    { userId := info.userId
      userGroup := info.userGroup
      tokenGroup := info.tokenGroup
      usingGroup := info.usingGroup
      model := (nonEmpty info.channelMeta.upstreamModelName).or (nonEmpty info.originModelName)
      upstreamModel := nonEmpty info.channelMeta.upstreamModelName
      originalModel := nonEmpty info.originModelName
      requestPath := nonEmpty info.requestURLPath
      retryIndex := info.retryIndex
      lastError := info.lastError
      isChannelTest := info.isChannelTest }
  requestHeaders := buildRequestHeadersContext info.requestHeaders
  headerOverride := sanitizeHeaderOverrideMap (getEffectiveHeaderOverride info).rows

def presentHeader (headers : HeaderMap) (name : String) : Option HeaderValue :=
  (headers.find name).bind fun entry =>
    let value := entry.2.trimSpace
    if value.text = "" then none else some value

def getHeaderValueFromContext (context : OverrideContext) (headerName : String) : Option HeaderValue :=
  let headerName := normalizeHeaderContextKey headerName
  if headerName = "" then none
  else (presentHeader context.headerOverride headerName).or (presentHeader context.requestHeaders headerName)

inductive HeaderError where
  | sourceHeaderNotFound (name : String)
  | invalid (message : String)

def HeaderError.message : HeaderError → String
  | .sourceHeaderNotFound name => "source header does not exist: " ++ name
  | .invalid message => message

def splitHeaderListValue (raw : String) : List String :=
  (raw.toList.splitOn ',').filterMap fun item =>
    let token := trim isSpace item
    if token = [] then none else some (String.ofList token)

def HeaderValue.split (value : HeaderValue) : List HeaderToken :=
  value.flatMap fun token => (splitHeaderListValue token.text).map fun item => { token with text := item }

/-- `lo.Uniq` on the texts: the first of equal tokens stays. -/
def uniqTokens : List String → List HeaderToken → List HeaderToken
  | _, [] => []
  | seen, token :: rest =>
    if token.text ∈ seen then uniqTokens seen rest else token :: uniqTokens (token.text :: seen) rest

mutual
def parseHeaderReplacementTokens : Json → Except HeaderError (List String)
  | .null => .ok []
  | .string raw => .ok (splitHeaderListValue raw)
  | .array items => do
      let tokens ← parseReplacementItems items
      .ok tokens.eraseDups
  | .object _ => .error (.invalid "header replacement value must be string, array or null")
  | .bool value => .ok [if value then "true" else "false"]
  | .number printed => .ok (if trimSpace printed = "" then [] else [trimSpace printed])

def parseReplacementItems : List Json → Except HeaderError (List String)
  | [] => .ok []
  | item :: items => do
      let first ← parseHeaderReplacementTokens item
      let rest ← parseReplacementItems items
      .ok (first ++ rest)
end

section
variable (mapping : List (String × Json))

def parseHeaderAppendTokens : Except HeaderError (List String) :=
  match Json.entry mapping "$append" with
  | none => .ok []
  | some appended => parseHeaderReplacementTokens appended

def parseHeaderKeepOnlyDeclared : Bool :=
  match Json.entry mapping "$keep_only_declared" with
  | some (.bool keepOnlyDeclared) => keepOnlyDeclared
  | _ => false

def configuredTokens (tokens : List String) : List HeaderToken := tokens.map (⟨·, false⟩)

def rewriteToken (keepOnlyDeclared : Bool) (token : HeaderToken) : Except HeaderError (List HeaderToken) :=
  match Json.entry mapping token.text, Json.entry mapping "*" with
  | some replacement, _ => (parseHeaderReplacementTokens replacement).map configuredTokens
  | none, some wildcard =>
    if keepOnlyDeclared then .ok [] else (parseHeaderReplacementTokens wildcard).map configuredTokens
  | none, none => .ok (if keepOnlyDeclared then [] else [token])

end

def rewriteTokens (mapping : List (String × Json)) (keepOnlyDeclared : Bool) :
    List HeaderToken → Except HeaderError (List HeaderToken)
  | [] => .ok []
  | token :: tokens => do
      let first ← rewriteToken mapping keepOnlyDeclared token
      let rest ← rewriteTokens mapping keepOnlyDeclared tokens
      .ok (first ++ rest)

section
variable (context : OverrideContext)

section
variable (headerName : String)

def resolveHeaderOverrideValueByMapping
    (mapping : List (String × Json)) : Except HeaderError (Option HeaderValue) := do
  if mapping.isEmpty then .error (.invalid "header value mapping cannot be empty")
  else
    let appendTokens ← parseHeaderAppendTokens mapping
    let sourceTokens := ((getHeaderValueFromContext context headerName).map HeaderValue.split).getD []
    let rewritten ← rewriteTokens mapping (parseHeaderKeepOnlyDeclared mapping) sourceTokens
    let resultTokens := uniqTokens [] (rewritten ++ configuredTokens appendTokens)
    .ok (if resultTokens.isEmpty then none else some resultTokens)

inductive Assigned where
  | json (value : Json) (marked : Bool)
  | header (value : HeaderValue)

def trimmedOrNone (value : HeaderValue) : Option HeaderValue :=
  if value.trimSpace.text = "" then none else some value.trimSpace

def resolveHeaderOverrideValue :
    Assigned → Except HeaderError (Option HeaderValue)
  | .json .null _ => .error (.invalid "header value is required")
  | .json (.object mapping) marked =>
    (resolveHeaderOverrideValueByMapping context headerName mapping).map (·.map (HeaderValue.markedIf marked))
  | .json value marked => .ok (trimmedOrNone (HeaderValue.markedIf marked (HeaderValue.literal value.print)))
  | .header value => .ok (trimmedOrNone value)

def setHeaderOverrideInContext (value : Assigned) (keepOrigin : Bool) : Except HeaderError OverrideContext := do
  let headerName := normalizeHeaderContextKey headerName
  if headerName = "" then .error (.invalid "header name is required")
  else if keepOrigin && (presentHeader context.headerOverride headerName).isSome then .ok context
  else
    match ← resolveHeaderOverrideValue context headerName value with
    | none => .ok { context with headerOverride := deleteHeader context.headerOverride headerName }
    | some headerValue => .ok { context with headerOverride := context.headerOverride.put (headerName, headerValue) }

def deleteHeaderOverrideInContext : Except HeaderError OverrideContext :=
  let headerName := normalizeHeaderContextKey headerName
  if headerName = "" then .error (.invalid "header name is required")
  else .ok { context with headerOverride := deleteHeader context.headerOverride headerName }

end

def copyHeaderInContext (fromHeader toHeader : String) (keepOrigin : Bool) :
    Except HeaderError OverrideContext :=
  let fromHeader := normalizeHeaderContextKey fromHeader
  let toHeader := normalizeHeaderContextKey toHeader
  if fromHeader = "" ∨ toHeader = "" then .error (.invalid "copy_header from/to is required")
  else
    match getHeaderValueFromContext context fromHeader with
    | none => .error (.sourceHeaderNotFound fromHeader)
    | some value => setHeaderOverrideInContext context toHeader (.header value) keepOrigin

def moveHeaderInContext (fromHeader toHeader : String) (keepOrigin : Bool) :
    Except HeaderError OverrideContext := do
  let fromHeader := normalizeHeaderContextKey fromHeader
  let toHeader := normalizeHeaderContextKey toHeader
  if fromHeader = "" ∨ toHeader = "" then .error (.invalid "move_header from/to is required")
  else
    let copied ← copyHeaderInContext context fromHeader toHeader keepOrigin
    if fromHeader = toHeader then .ok copied else deleteHeaderOverrideInContext copied fromHeader

def ignoreMissing :
    Except HeaderError OverrideContext → Except HeaderError OverrideContext
  | .error (.sourceHeaderNotFound _) => .ok context
  | result => result

end

def passHeadersInContext (keepOrigin : Bool) :
    OverrideContext → List String → Except HeaderError OverrideContext
  | context, [] => .ok context
  | context, headerName :: rest => do
      let passed ← ignoreMissing context (copyHeaderInContext context headerName headerName keepOrigin)
      passHeadersInContext keepOrigin passed rest

def normalizeNames (names : List String) : List String :=
  ((names.map normalizeHeaderContextKey).filter (· ≠ "")).eraseDups

/-- `fuel` bounds how often a string holds another JSON text; each one is shorter than the text it is in. -/
def parseHeaderPassThroughNames (unmarshal : String → Option Json) : Nat → Json → Except String (List String)
  | _, .null => .error "pass_headers value is required"
  | fuel, .string raw =>
    let trimmed := trimSpace raw
    let listed : Except String (List String) :=
      let names := normalizeNames ((trimmed.toList.splitOn ',').map String.ofList)
      if names.isEmpty then .error "pass_headers value is invalid" else .ok names
    if trimmed = "" then .error "pass_headers value is required"
    else if hasFront "[" trimmed || hasFront "\x7b" trimmed then
      match fuel, unmarshal trimmed with
      | fuel + 1, some parsed => parseHeaderPassThroughNames unmarshal fuel parsed
      | _, _ => listed
    else listed
  | _, .array items =>
    let names := normalizeNames (items.map Json.print)
    if names.isEmpty then .error "pass_headers value is invalid" else .ok names
  | 0, .object _ => .error "pass_headers value is invalid"
  | fuel + 1, .object entries =>
    let candidates := ["headers", "names", "header"].flatMap fun key =>
      match Json.entry entries key with
      | none => []
      | some value => ((parseHeaderPassThroughNames unmarshal fuel value).toOption).getD []
    let names := normalizeNames candidates
    if names.isEmpty then .error "pass_headers value is invalid" else .ok names
  | _, _ => .error "pass_headers value must be string, array or object"

inductive SyncTarget where
  | json (key : String)
  | header (key : String)

def parseSyncTarget (spec : String) : Except String SyncTarget :=
  let raw := trimSpace spec
  if raw = "" then .error "sync_fields target is required"
  else
    match raw.toList.dropWhile (· ≠ ':') with
    | [] => .ok (.json raw)
    | _ :: afterColon =>
      let kind := toLower (trimSpace (String.ofList (raw.toList.takeWhile (· ≠ ':'))))
      let key := trimSpace (String.ofList afterColon)
      if key = "" then .error ("sync_fields target key is required: " ++ raw)
      else if kind = "json" ∨ kind = "body" then .ok (.json key)
      else if kind = "header" then .ok (.header key)
      else .error ("sync_fields target prefix is invalid: " ++ raw)

/-- What the override code asks of the JSON and regexp libraries, over a type of request bodies. -/
structure OverrideRuntime (β : Type) where
  unmarshal : String → Option Json
  getBody : β → String → Option Json
  setBody : β → String → Json → Except String β
  bodyOperation : ParamOperation → OverrideContext → β → Except String β
  applyLegacy : List (String × Json) → β → Except String β
  returnError : Json → String
  checkSingleCondition : β → OverrideContext → ConditionOperation → Except String Bool
  compileRegexp : String → Except String (String → Bool)

section
variable {β : Type} (runtime : OverrideRuntime β)

def Assigned.toJson : Assigned → Json
  | .json value _ => value
  | .header value => .string value.text

def Assigned.fromClient : Assigned → Bool
  | .json _ marked => marked
  | .header value => value.fromClient

section
variable (body : β) (context : OverrideContext)

def checkConditions (conditions : List ConditionOperation) (logic : String) :
    Except String Bool := do
  if conditions.isEmpty then .ok true
  else
    let results ← conditions.mapM (runtime.checkSingleCondition body context)
    .ok (if toLower logic = "and" then results.all id else results.any id)

def readSyncTargetValue : SyncTarget → Option Assigned
  | .json key =>
    match runtime.getBody body key with
    | none | some .null => none
    | some (.string text) => if trimSpace text = "" then none else some (.json (.string text) context.bodyMarked)
    | some value => some (.json value context.bodyMarked)
  | .header key => (getHeaderValueFromContext context key).map .header

def writeSyncTargetValue (value : Assigned) :
    SyncTarget → Except String (OverrideContext × β)
  | .json key => do
      let body ← runtime.setBody body key value.toJson
      .ok ({ context with bodyMarked := context.bodyMarked || value.fromClient }, body)
  | .header key =>
    match setHeaderOverrideInContext context key value false with
    | .error failure => .error failure.message
    | .ok context => .ok (context, body)

def syncFieldsBetweenTargets (fromSpec toSpec : String) :
    Except String (OverrideContext × β) := do
  let fromTarget ← parseSyncTarget fromSpec
  let toTarget ← parseSyncTarget toSpec
  match readSyncTargetValue runtime body context fromTarget, readSyncTargetValue runtime body context toTarget with
  | some fromValue, none => writeSyncTargetValue runtime body context fromValue toTarget
  | none, some toValue => writeSyncTargetValue runtime body context toValue fromTarget
  | _, _ => .ok (context, body)

end

def headerResult (mode : String) (body : β) :
    Except HeaderError OverrideContext → Except String (OverrideContext × β)
  | .ok context => .ok (context, body)
  | .error failure => .error ("operation " ++ mode ++ " failed: " ++ failure.message)

def orElseText (first second : String) : String := if first = "" then second else first

def performOperation (op : ParamOperation) (context : OverrideContext) (body : β) :
    Except String (OverrideContext × β) :=
  let sourceHeader := orElseText (trimSpace op.source) (trimSpace op.path)
  let targetHeader := orElseText (trimSpace op.target) (trimSpace op.path)
  match op.mode with
  | .body _ => (runtime.bodyOperation op context body).map fun body => (context, body)
  | .returnError => .error (runtime.returnError op.value)
  | .setHeader =>
    headerResult "set_header" body (setHeaderOverrideInContext context op.path (.json op.value false) op.keepOrigin)
  | .deleteHeader => headerResult "delete_header" body (deleteHeaderOverrideInContext context op.path)
  | .copyHeader =>
    headerResult "copy_header" body
      (ignoreMissing context (copyHeaderInContext context sourceHeader targetHeader op.keepOrigin))
  | .moveHeader =>
    headerResult "move_header" body
      (ignoreMissing context (moveHeaderInContext context sourceHeader targetHeader op.keepOrigin))
  | .passHeaders =>
    match parseHeaderPassThroughNames runtime.unmarshal (op.value.print.length + 1) op.value with
    | .error failure => .error failure
    | .ok names => headerResult "pass_headers" body (passHeadersInContext op.keepOrigin context names)
  | .syncFields =>
    match syncFieldsBetweenTargets runtime body context op.source op.target with
    | .error failure => .error ("operation sync_fields failed: " ++ failure)
    | .ok result => .ok result
  | .unknown name => .error ("unknown operation: " ++ name)

def applyOperations : List ParamOperation → OverrideContext → β → Except String (OverrideContext × β)
  | [], context, body => .ok (context, body)
  | op :: ops, context, body => do
      if ← checkConditions runtime body context op.conditions op.logic then
        let (context, body) ← performOperation runtime op context body
        applyOperations ops context body
      else applyOperations ops context body

def applyLegacyFields (override : ParamOverride) (body : β) : Except String β :=
  if override.legacy.isEmpty then .ok body else runtime.applyLegacy override.legacy body

def applyParamOverride (body : β) (override : ParamOverride) (context : OverrideContext) :
    Except String (OverrideContext × β) := do
  match override.operations with
  | some operations =>
    let working ← applyLegacyFields runtime override body
    applyOperations runtime operations context working
  | none =>
    let result ← runtime.applyLegacy override.legacy body
    .ok (context, result)

def syncRuntimeHeaderOverrideFromContext (info : RelayInfo) (context : OverrideContext) : RelayInfo :=
  { info with
    runtimeHeadersOverride := sanitizeHeaderOverrideMap context.headerOverride.rows
    useRuntimeHeadersOverride := true }

def applyParamOverrideWithRelayInfo (info : RelayInfo) (body : β) : Except String (RelayInfo × β) := do
  if info.channelMeta.paramOverride.isEmpty then .ok (info, body)
  else
    let (context, result) ← applyParamOverride runtime body info.channelMeta.paramOverride (buildParamOverrideContext info)
    .ok (syncRuntimeHeaderOverrideFromContext info context, result)

end

def passthroughSkipHeaderNames : List String :=
  ["connection", "keep-alive", "proxy-authenticate", "proxy-authorization", "te", "trailer", "transfer-encoding",
    "upgrade", "cookie", "host", "content-length", "accept-encoding", "authorization", "x-api-key", "x-goog-api-key",
    "sec-websocket-key", "sec-websocket-version", "sec-websocket-extensions"]

def shouldSkipPassthroughHeader (name : String) : Bool :=
  let name := trimSpace name
  name = "" || toLower name ∈ passthroughSkipHeaderNames

def clientHeaderPlaceholder : String := "\x7bclient_header:"

def apiKeyPlaceholder : String := "\x7bapi_key\x7d"

def placeholderName (trimmed : String) : Option String :=
  let afterFront := trimmed.toList.drop clientHeaderPlaceholder.length
  if afterFront.dropWhile (· ≠ '\x7d') = ['\x7d'] then
    some (trimSpace (String.ofList (afterFront.takeWhile (· ≠ '\x7d'))))
  else none

def applyHeaderOverridePlaceholders (template : String) (request : ClientRequest) (apiKey : String) :
    Except String (Option String) :=
  if hasFront clientHeaderPlaceholder (trimSpace template) then
    match placeholderName (trimSpace template) with
    | none => .error ("client_header placeholder must be the full value: " ++ template)
    | some name =>
      if name = "" then .error ("client_header placeholder name is empty: " ++ template)
      else if trimSpace (request.get name) = "" then .ok none
      else .ok (some (request.get name))
  else
    let expanded := replaceText apiKeyPlaceholder apiKey template
    .ok (if trimSpace expanded = "" then none else some expanded)

structure Passthrough where
  all : Bool := false
  patterns : List (String → Bool) := []

def passthroughRule (compile : String → Except String (String → Bool)) (rules : Passthrough) (k : String) :
    Except String Passthrough :=
  let key := trimSpace (toLower k)
  let pattern? :=
    if hasFront "re:" key then some (trimSpace (String.ofList (key.toList.drop 3)))
    else if hasFront "regex:" key then some (trimSpace (String.ofList (key.toList.drop 6)))
    else none
  if key = "*" then .ok { rules with all := true }
  else
    match pattern? with
    | none => .ok rules
    | some pattern =>
      if pattern = "" then .error ("header passthrough regex pattern is empty: " ++ k)
      else (compile pattern).map fun matches? => { rules with patterns := rules.patterns ++ [matches?] }

abbrev UpstreamHeaders := Table (Prod.fst : String × String → String)

def passHeader (rules : Passthrough) (request : ClientRequest) (headers : UpstreamHeaders) (header : String × String) :
    UpstreamHeaders :=
  let value := trimSpace (request.get header.1)
  if shouldSkipPassthroughHeader header.1 || !(rules.all || rules.patterns.any (· header.1)) || value = "" then headers
  else headers.put (toLower (trimSpace header.1), value)

def overrideEntry (info : RelayInfo) (request : ClientRequest) (entry : String × HeaderValue) :
    Except String (Option (String × String)) :=
  let key := trimSpace (toLower entry.1)
  if isHeaderPassthroughRuleKey entry.1 || key = "" then .ok none
  else if info.isChannelTest && hasFront clientHeaderPlaceholder (trimSpace entry.2.text) then .ok none
  else
    (applyHeaderOverridePlaceholders entry.2.text request info.channelMeta.apiKey).map
      fun value => value.map fun value => (key, value)

def putOverrideEntry (info : RelayInfo) (request : ClientRequest) (headers : UpstreamHeaders)
    (entry : String × HeaderValue) : Except String UpstreamHeaders :=
  (overrideEntry info request entry).map fun
    | none => headers
    | some header => headers.put header

section
variable (compile : String → Except String (String → Bool))
include compile

def passthroughRules (info : RelayInfo) (source : List (String × HeaderValue)) : Except String Passthrough :=
  if info.isChannelTest then .ok {} else (source.map Prod.fst).foldlM (passthroughRule compile) {}

def headersFrom (info : RelayInfo) (request : ClientRequest)
    (source : List (String × HeaderValue)) : Except String UpstreamHeaders := do
  let rules ← passthroughRules compile info source
  source.foldlM (putOverrideEntry info request) (request.headers.foldl (passHeader rules request) Table.empty)

def processHeaderOverride (info : RelayInfo) (request : ClientRequest) : Except String UpstreamHeaders :=
  headersFrom compile info request (getEffectiveHeaderOverride info).rows

end

structure Attempt (β : Type) where
  channel : ChannelMeta := {}
  usingGroup : String := ""
  retryIndex : Nat := 0
  lastError : Option LastError := none
  body : β

variable {β : Type} (runtime : OverrideRuntime β) (request : ClientRequest)

/-- `InitChannelMeta` replaces the channel's part of the info; the runtime override is not part of it. -/
def initChannelMeta (info : RelayInfo) (attempt : Attempt β) : RelayInfo :=
  { info with
    usingGroup := attempt.usingGroup
    retryIndex := attempt.retryIndex
    lastError := attempt.lastError
    channelMeta := attempt.channel }

def attemptHeaders (info : RelayInfo) (attempt : Attempt β) : RelayInfo × Except String UpstreamHeaders :=
  match applyParamOverrideWithRelayInfo runtime (initChannelMeta info attempt) attempt.body with
  | .error failure => (initChannelMeta info attempt, .error failure)
  | .ok (info, _) => (info, processHeaderOverride runtime.compileRegexp info request)

def runAttempts (info : RelayInfo) (attempts : List (Attempt β)) : RelayInfo :=
  attempts.foldl (fun info attempt => (attemptHeaders runtime request info attempt).1) info

end Wildflow.Relay
