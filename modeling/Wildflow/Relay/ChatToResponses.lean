import Mathlib.Data.List.Sort
import Wildflow.Store.Dict
import Wildflow.Store.Stream
import Wildflow.Relay.Formats

/-!
# Chat Completions to Responses, as a stream

`relaykit/relayconvert/internal/oai_chat/to_oai_responses_stream_resp.go`. Models, timestamps, usage and sequence numbers
are left out. JSON that the code only validates comes with the verdict.
-/

namespace Wildflow.Relay
open Wildflow.Store

structure RawJson where
  text : String
  valid : Bool := true

structure HostedToolStreamStart where
  type : OutputType
  id : String
  name : String := ""
  action : RawJson := { text := "" }
  -- what `NormalizeResponsesWebSearchAction` makes of the action
  webSearchAction : Except String String := .ok ""
  caller : String := ""
  serverLabel : String := ""

structure HostedToolStreamResult where
  type : Option OutputType
  id : String
  result : RawJson := { text := "" }
  errorCode : String := ""
  isError : Bool := false

inductive StreamStatus where
  | completed
  | incomplete
  | failed
deriving DecidableEq

structure StreamedResponse where
  status : StreamStatus
  incompleteReason : Option String
  output : List ResponsesOutput
  error : Option (String × String) := none
deriving DecidableEq

inductive HostedPhase where
  | inProgress
  | searching
  | completed
  | failed
deriving DecidableEq

inductive ResponsesEvent where
  | created
  | itemAdded (outputIndex : Nat) (item : ResponsesOutput)
  | textDelta (outputIndex : Nat) (delta : String)
  | annotationAdded (outputIndex annotationIndex : Nat) (note : Annotation)
  | reasoningDelta (outputIndex : Nat) (delta : String)
  | argumentsDelta (outputIndex : Nat) (delta : String)
  | textDone (outputIndex : Nat) (text : Option String)
  | reasoningDone (outputIndex : Nat) (text : String)
  | argumentsDone (outputIndex : Nat) (arguments : Option String)
  | hosted (outputIndex : Nat) (type : OutputType) (phase : HostedPhase)
  | itemDone (outputIndex : Nat) (item : ResponsesOutput)
  | error (code message param : String)
  | completed (response : StreamedResponse)
  | incomplete (response : StreamedResponse)
  | failed (response : StreamedResponse)
deriving DecidableEq

structure ChatToResponsesStreamTool where
  outputIndex : Nat
  itemID : String
  callID : String
  name : String
  arguments : String := ""
  done : Bool := false

structure ChatToResponsesHostedTool where
  outputIndex : Nat
  output : ResponsesOutput
  done : Bool := false

inductive OutputRef where
  | message
  | reasoning
  | tool (index : Int)
  | hosted (id : String)
deriving DecidableEq

/-- `textOutputIndex` and `reasoningIndex` are read only once their item is started. -/
structure ChatToResponsesStreamState where
  id : String
  emitSequenceNumber : Bool := false
  status : StreamStatus := .completed
  incompleteReason : Option String := none
  sentCreated : Bool := false
  textOutputIndex : Nat := 0
  textStarted : Bool := false
  textDone : Bool := false
  reasoningIndex : Nat := 0
  reasoningStarted : Bool := false
  reasoningDone : Bool := false
  finalized : Bool := false
  nextOutputIndex : Nat := 0
  toolsByIndex : Dict Int ChatToResponsesStreamTool := Dict.empty
  hostedByID : Dict String ChatToResponsesHostedTool := Dict.empty
  outputOrder : List OutputRef := []
  text : String := ""
  annotations : List Annotation := []
  reasoning : String := ""

def ChatToResponsesStreamTool.callIDOrItem (tool : ChatToResponsesStreamTool) : String :=
  if tool.callID = "" then tool.itemID else tool.callID

def chatAnnotationToResponses : ChatAnnotation → Annotation
  | .urlCitation citation => .object "url_citation" citation
  | .plain type entries => .object type entries

def responsesStatusFromChatFinishReason (finishReason : String) : StreamStatus × Option String :=
  if trimSpace finishReason = "length" then (.incomplete, some "max_output_tokens")
  else if trimSpace finishReason = "content_filter" then (.incomplete, some "content_filter")
  else (.completed, none)

namespace ChatToResponsesStreamState

variable (s : ChatToResponsesStreamState)

def outputStatus : String :=
  if s.status = .incomplete ∨ s.status = .failed then "incomplete" else "completed"

def messageID : String := s.id ++ "_msg_0"

def reasoningID : String := s.id ++ "_reasoning_0"

section
variable (status : String)

def messageOutput : ResponsesOutput where
  type := .message
  id := s.messageID
  status
  role := "assistant"
  content := [{ type := .outputText, text := s.text, annotations := s.annotations }]

def reasoningOutput : ResponsesOutput where
  type := .reasoning
  id := s.reasoningID
  status
  summary := [s.reasoning]

def toolOutput (tool : ChatToResponsesStreamTool) (status : String) : ResponsesOutput where
  type := .functionCall
  id := tool.itemID
  status
  callId := tool.callIDOrItem
  name := tool.name
  arguments := tool.arguments

def ensureCreated : Emission ChatToResponsesStreamState ResponsesEvent := fun s =>
  if s.sentCreated then (s, []) else ({ s with sentCreated := true }, [.created])

/-- `nextIndex` and `nextHostedIndex`: the next output index, taken by `ref`. -/
def allocate (ref : OutputRef) : ChatToResponsesStreamState :=
  { s with nextOutputIndex := s.nextOutputIndex + 1, outputOrder := s.outputOrder ++ [ref] }

def startText : Emission ChatToResponsesStreamState ResponsesEvent := fun s =>
  if s.textStarted then (s, [])
  else
    ({ s.allocate .message with textStarted := true, textOutputIndex := s.nextOutputIndex },
      [.itemAdded s.nextOutputIndex
        { type := .message, id := s.messageID, status := "in_progress", role := "assistant" }])

def appendTextDelta (delta : String) : Emission ChatToResponsesStreamState ResponsesEvent :=
  startText.andThen fun s => ({ s with text := s.text ++ delta }, [.textDelta s.textOutputIndex delta])

def annotate (note : Annotation) : Emission ChatToResponsesStreamState ResponsesEvent := fun s =>
  ({ s with annotations := s.annotations ++ [note] },
    [.annotationAdded s.textOutputIndex s.annotations.length note])

def appendAnnotationDelta (raw : RawAnnotations) (s : ChatToResponsesStreamState) :
    Except String (ChatToResponsesStreamState × List ResponsesEvent) :=
  match raw with
  | .invalid => .error "invalid Chat annotations"
  | .list annotations =>
    .ok (startText.andThen (Emission.each annotate (annotations.map chatAnnotationToResponses)) s)

def startReasoning : Emission ChatToResponsesStreamState ResponsesEvent := fun s =>
  if s.reasoningStarted then (s, [])
  else
    ({ s.allocate .reasoning with reasoningStarted := true, reasoningIndex := s.nextOutputIndex },
      [.itemAdded s.nextOutputIndex { type := .reasoning, id := s.reasoningID, status := "in_progress" }])

def appendReasoningDelta (delta : String) : Emission ChatToResponsesStreamState ResponsesEvent :=
  startReasoning.andThen fun s => ({ s with reasoning := s.reasoning ++ delta }, [.reasoningDelta s.reasoningIndex delta])

def startTool (chatIndex : Int) (toolCall : ToolCallResponse) : Emission ChatToResponsesStreamState ResponsesEvent :=
  fun s =>
    match s.toolsByIndex.get chatIndex with
    | some _ => (s, [])
    | none =>
      let incomingID := trimSpace toolCall.id
      let tool : ChatToResponsesStreamTool := {
        outputIndex := s.nextOutputIndex
        itemID := if incomingID = "" then s.id ++ "_call_" ++ toString chatIndex else incomingID
        callID := incomingID
        name := trimSpace toolCall.name }
      ({ s.allocate (.tool chatIndex) with toolsByIndex := s.toolsByIndex.set chatIndex tool },
        [.itemAdded s.nextOutputIndex {
          type := .functionCall, id := tool.itemID, status := "in_progress", callId := tool.callIDOrItem
          name := tool.name }])

/-- The id and the name of a call that has them already do not change. -/
def identifyTool (chatIndex : Int) (toolCall : ToolCallResponse) (tool : ChatToResponsesStreamTool) :
    Except String ChatToResponsesStreamTool :=
  let incomingID := trimSpace toolCall.id
  let incomingName := trimSpace toolCall.name
  if tool.done then .error ("tool-call stream index " ++ toString chatIndex ++ " received data after completion")
  else if incomingID ≠ "" ∧ tool.callID ≠ "" ∧ tool.callID ≠ incomingID then
    .error ("tool-call stream index " ++ toString chatIndex ++ " changed id from " ++ quoted tool.callID ++ " to " ++
      quoted incomingID)
  else if incomingName ≠ "" ∧ tool.name ≠ "" ∧ tool.name ≠ incomingName then
    .error ("tool-call stream index " ++ toString chatIndex ++ " changed name from " ++ quoted tool.name ++ " to " ++
      quoted incomingName)
  else .ok { tool with
    callID := if incomingID ≠ "" then incomingID else tool.callID
    name := if incomingName ≠ "" then incomingName else tool.name }

def appendToolCallDelta (toolCall : ToolCallResponse) (s : ChatToResponsesStreamState) :
    Except String (ChatToResponsesStreamState × List ResponsesEvent) :=
  let chatIndex := toolCall.index.getD 0
  let opened := startTool chatIndex toolCall s
  match opened.1.toolsByIndex.get chatIndex with
  | none => .ok opened
  | some known => do
      let tool ← identifyTool chatIndex toolCall known
      let extended := { tool with arguments := tool.arguments ++ toolCall.arguments }
      pure ({ opened.1 with toolsByIndex := opened.1.toolsByIndex.set chatIndex extended },
        opened.2 ++ if toolCall.arguments = "" then [] else [.argumentsDelta tool.outputIndex toolCall.arguments])

def isHostedType (type : OutputType) : Bool := type = .webSearchCall || type = .mcpCall

def hostedJSONString (value : RawJson) : Except String String :=
  if value.text = "" then .ok ""
  else if value.valid then .ok value.text
  else .error "invalid JSON payload"

def hostedTerminalEvents (outputIndex : Nat) (type : OutputType) (failed : Bool) : List ResponsesEvent :=
  if !isHostedType type then []
  else if !failed then [.hosted outputIndex type .completed]
  else if type = .mcpCall then [.hosted outputIndex type .failed]
  else []

def hostedOutput (start : HostedToolStreamStart) : Except String ResponsesOutput :=
  let output : ResponsesOutput := { type := start.type, id := trimSpace start.id, status := "in_progress" }
  match start.type with
  | .webSearchCall => do
      let action ← start.webSearchAction
      pure { output with action }
  | .mcpCall =>
    if trimSpace start.name = "" ∨ trimSpace start.serverLabel = "" then
      .error "Responses MCP call requires name and server_label"
    else do
      let arguments ← (hostedJSONString start.action).mapError ("encode Responses MCP arguments: " ++ ·)
      pure { output with name := start.name, serverLabel := start.serverLabel, arguments }
  | _ => .ok output

def startHostedEvents (outputIndex : Nat) (output : ResponsesOutput) : List ResponsesEvent :=
  [.itemAdded outputIndex { output with arguments := "" }, .hosted outputIndex output.type .inProgress] ++
    (if output.type = .webSearchCall then [.hosted outputIndex output.type .searching] else []) ++
    (if output.type = .mcpCall then
      [.argumentsDelta outputIndex output.arguments, .argumentsDone outputIndex (some output.arguments)] else [])

def startHostedTool (start : HostedToolStreamStart) (s : ChatToResponsesStreamState) :
    Except String (ChatToResponsesStreamState × List ResponsesEvent) :=
  let id := trimSpace start.id
  if id = "" then .error "hosted-tool stream call is missing an id"
  else if (s.hostedByID.get id).isSome then .error ("duplicate hosted-tool stream call id " ++ quoted id)
  else if !isHostedType start.type then
    .error ("unsupported Responses hosted-tool output type " ++ quoted start.type.text)
  else if trimSpace start.caller ≠ "" ∧ trimSpace start.caller ≠ "null" then
    .error ("Responses " ++ start.type.text ++ " cannot preserve Claude hosted-tool caller provenance")
  else do
    let output ← hostedOutput start
    let tool : ChatToResponsesHostedTool := { outputIndex := s.nextOutputIndex, output }
    let created := ensureCreated { s.allocate (.hosted id) with hostedByID := s.hostedByID.set id tool }
    pure (created.1, created.2 ++ startHostedEvents s.nextOutputIndex output)

section
variable (result : HostedToolStreamResult)

def hostedFailed : Bool :=
  result.isError || trimSpace result.errorCode ≠ ""

def completedOutput (output : ResponsesOutput) : Except String ResponsesOutput := do
  let failed := hostedFailed result
  let code := if result.errorCode = "" then "hosted tool execution failed" else result.errorCode
  if output.type = .mcpCall then
    let value ← (hostedJSONString result.result).mapError ("encode Responses MCP output: " ++ ·)
    pure (if failed then { output with status := "failed", output := "", itemError := code }
      else { output with status := "completed", output := value })
  else pure { output with status := if failed then "failed" else "completed" }

def completeHostedTool (s : ChatToResponsesStreamState) :
    Except String (ChatToResponsesStreamState × List ResponsesEvent) :=
  let id := trimSpace result.id
  match s.hostedByID.get id with
  | none => .error ("hosted-tool result references unknown call " ++ quoted id)
  | some tool =>
    let type := result.type.getD tool.output.type
    if tool.done then .error ("duplicate hosted-tool result for call " ++ quoted id)
    else if type ≠ tool.output.type then
      .error ("hosted-tool result type " ++ quoted type.text ++ " does not match call type " ++
        quoted tool.output.type.text)
    else do
      let output ← completedOutput result tool.output
      pure ({ s with hostedByID := s.hostedByID.set id { tool with output, done := true } },
        hostedTerminalEvents tool.outputIndex output.type (hostedFailed result) ++ [.itemDone tool.outputIndex output])

end

def closeText : Emission ChatToResponsesStreamState ResponsesEvent := fun s =>
  if s.textStarted && !s.textDone then
    ({ s with textDone := true },
      [.textDone s.textOutputIndex (if s.emitSequenceNumber then some s.text else none),
        .itemDone s.textOutputIndex (s.messageOutput status)])
  else (s, [])

def closeReasoning : Emission ChatToResponsesStreamState ResponsesEvent := fun s =>
  if s.reasoningStarted && !s.reasoningDone then
    ({ s with reasoningDone := true },
      [.reasoningDone s.reasoningIndex s.reasoning, .itemDone s.reasoningIndex (s.reasoningOutput status)])
  else (s, [])

def closeTool (index : Int) : Emission ChatToResponsesStreamState ResponsesEvent := fun s =>
  match s.toolsByIndex.get index with
  | none => (s, [])
  | some tool =>
    if tool.done then (s, [])
    else
      ({ s with toolsByIndex := s.toolsByIndex.set index { tool with done := true } },
        [.argumentsDone tool.outputIndex (if s.emitSequenceNumber then some tool.arguments else none),
          .itemDone tool.outputIndex (toolOutput tool status)])

/-- A hosted call without a result makes the response incomplete. -/
def closeHosted (id : String) : Emission ChatToResponsesStreamState ResponsesEvent := fun s =>
  match s.hostedByID.get id with
  | none => (s, [])
  | some tool =>
    if tool.done then (s, [])
    else
      let failed := s.status = .failed
      let output : ResponsesOutput :=
        if failed then
          if tool.output.type = .mcpCall then
            { tool.output with
              status := "failed", itemError := "provider stream failed before hosted-tool result", output := "" }
          else { tool.output with status := "failed" }
        else { tool.output with status := "incomplete" }
      ({ s with
          status := if failed then .failed else .incomplete
          hostedByID := s.hostedByID.set id { tool with output, done := true } },
        (if failed then hostedTerminalEvents tool.outputIndex output.type true else []) ++
          [.itemDone tool.outputIndex output])

def hostedIDs : List String :=
  s.outputOrder.filterMap fun ref => match ref with
    | .hosted id => some id
    | _ => none

def sortedTools : List Int := s.toolsByIndex.keys.insertionSort (· ≤ ·)

def doneDeltaEvents : Emission ChatToResponsesStreamState ResponsesEvent := fun s =>
  (((closeText s.outputStatus).andThen (closeReasoning s.outputStatus)).andThen
    ((Emission.each (closeTool s.outputStatus) s.sortedTools).andThen (Emission.each closeHosted s.hostedIDs))) s

def applyFinishReason (finishReason : String) : ChatToResponsesStreamState :=
  let (status, reason) := responsesStatusFromChatFinishReason finishReason
  { s with status, incompleteReason := reason }

def refOutput : OutputRef → Option ResponsesOutput
  | .message => some (s.messageOutput status)
  | .reasoning => some (s.reasoningOutput status)
  | .tool index => (s.toolsByIndex.get index).map fun tool => toolOutput tool status
  | .hosted id => (s.hostedByID.get id).map (·.output)

end

def finalResponse : StreamedResponse where
  status := s.status
  incompleteReason := s.incompleteReason
  output := s.outputOrder.filterMap (s.refOutput s.outputStatus)

end ChatToResponsesStreamState

open ChatToResponsesStreamState

def newChatToResponsesStreamState (id : String) (emitSequenceNumber : Bool) : ChatToResponsesStreamState :=
  { id, emitSequenceNumber }

def finishChoice (finishReason : Option String) (s : ChatToResponsesStreamState) :
    ChatToResponsesStreamState × List ResponsesEvent :=
  match finishReason with
  | none => (s, [])
  | some reason => if trimSpace reason = "" then (s, []) else doneDeltaEvents (s.applyFinishReason reason)

def choiceEvents (choice : ChatChoice) (s : ChatToResponsesStreamState) :
    Except String (ChatToResponsesStreamState × List ResponsesEvent) := do
  let reasoning := if choice.delta.reasoning = "" then (s, []) else appendReasoningDelta choice.delta.reasoning s
  let text :=
    if choice.delta.content = "" then (reasoning.1, []) else appendTextDelta choice.delta.content reasoning.1
  let annotations ← match choice.delta.annotations with
    | none => .ok (text.1, [])
    | some raw => appendAnnotationDelta raw text.1
  let toolCalls ← runEmissions appendToolCallDelta choice.delta.toolCalls annotations.1
  let finish := finishChoice choice.finishReason toolCalls.1
  pure (finish.1, reasoning.2 ++ text.2 ++ annotations.2 ++ toolCalls.2 ++ finish.2)

def chatCompletionsStreamChunkToResponsesEvents (chunk : ChatCompletionsStreamResponse)
    (s : ChatToResponsesStreamState) : Except String (ChatToResponsesStreamState × List ResponsesEvent) := do
  let created := ensureCreated { s with id := if s.id = "" then chunk.id else s.id }
  let choices ← runEmissions choiceEvents chunk.choices created.1
  pure (choices.1, created.2 ++ choices.2)

def finalizeChatCompletionsStreamToResponses : Emission ChatToResponsesStreamState ResponsesEvent := fun s =>
  if s.finalized then (s, [])
  else doneDeltaEvents.andThen (fun s =>
    ({ s with finalized := true },
      [if s.status = .incomplete then .incomplete s.finalResponse else .completed s.finalResponse])) s

def failStream (code message param : String) : Emission ChatToResponsesStreamState ResponsesEvent := fun s =>
  let code := if trimSpace code = "" then "server_error" else trimSpace code
  let message := if trimSpace message = "" then "upstream response stream failed" else trimSpace message
  if s.finalized then (s, [])
  else (ensureCreated.andThen (doneDeltaEvents.andThen (fun s =>
    ({ s with finalized := true },
      [.error code message param, .failed { s.finalResponse with error := some (code, message) }]))))
    { s with status := .failed }

end Wildflow.Relay
