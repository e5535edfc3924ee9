import Mathlib.Data.List.Sort
import Wildflow.Store.Dict
import Wildflow.Store.Stream
import Wildflow.Relay.Formats

/-!
# Responses to Chat Completions

`relaykit/relayconvert/internal/oai_responses/to_oai_chat_resp.go` and `to_oai_chat_stream_resp.go`: a Responses object
converted at once, and its events converted one by one. Ids, models, timestamps and usage counts are left out.
-/

namespace Wildflow.Relay
open Wildflow.Store

inductive FinishReason where
  | stop
  | toolCalls
  | length
  | contentFilter

structure ChatToolCall where
  id : String
  name : String
  arguments : String

structure ChatCompletion where
  content : String
  reasoning : String
  annotations : List ChatAnnotation
  toolCalls : List ChatToolCall
  finishReason : FinishReason

def responsesFinishReasonFromStatus (response : Option OpenAIResponsesResponse) : Option FinishReason :=
  response.bind fun response =>
    if trimSpace response.status ≠ "incomplete" then none
    else if trimSpace response.incompleteReason = "content_filter" then some .contentFilter
    else some .length

def isAssistantMessage (output : ResponsesOutput) : Bool :=
  output.type = .message && (output.role = "" || output.role = "assistant")

section
variable (response : OpenAIResponsesResponse)

def extractOutputTextFromResponses : String :=
  let preferred := ((response.output.filter isAssistantMessage).map fun out => outputText out.content).foldl
    appendSeparatedText ""
  if preferred ≠ "" then preferred
  else (response.output.map fun out => String.join (out.content.map (·.text))).foldl appendSeparatedText ""

def extractReasoningTextFromResponses : String :=
  ((response.output.filter (·.type = .reasoning)).map reasoningOutputText).foldl appendSeparatedText ""

def responseAnnotationToChat : Annotation → Except String ChatAnnotation
  | .object type entries =>
    if trimSpace type = "url_citation" then .ok (.urlCitation entries) else .ok (.plain type entries)
  | .scalar _ => .error "invalid Responses annotation"

def outputAnnotations (output : ResponsesOutput) : List Annotation :=
  output.content.flatMap (·.annotations)

def responsesAnnotationsToChat : Except String (List ChatAnnotation) :=
  ((response.output.filter (·.type = .message)).flatMap outputAnnotations).mapM responseAnnotationToChat

def chatCallID (output : ResponsesOutput) : String :=
  if trimSpace output.callId = "" then trimSpace output.id else trimSpace output.callId

def chatToolCalls (output : List ResponsesOutput) : List ChatToolCall :=
  (output.filter fun out => isResponsesToolOutputType out.type && trimSpace out.name ≠ "").map fun out =>
    { id := chatCallID out, name := trimSpace out.name, arguments := out.arguments }

def responsesResponseToChatCompletionsResponse : Except String ChatCompletion := do
  let toolCalls := chatToolCalls response.output
  let annotations ← responsesAnnotationsToChat response
  pure {
    content := extractOutputTextFromResponses response
    reasoning := extractReasoningTextFromResponses response
    annotations
    toolCalls
    finishReason := (responsesFinishReasonFromStatus (some response)).getD
      (if toolCalls = [] then .stop else .toolCalls) }

end

/-- A `ChatCompletionsStreamResponse`: one choice with one kind of delta, or the usage after the last choice. -/
inductive ChatChunk where
  | role
  | content (text : String)
  | reasoning (text : String)
  | annotations (note : ChatAnnotation)
  | toolCall (index : Nat) (id name arguments : String)
  | finish (reason : FinishReason)
  | usage

/-- The keys `output:%d`, `item:%s` and `call:%s`. -/
inductive ToolKey where
  | output (index : Nat)
  | item (id : String)
  | call (id : String)
deriving DecidableEq

def ToolKey.text : ToolKey → String
  | .output index => "output:" ++ toString index
  | .item id => "item:" ++ id
  | .call id => "call:" ++ id

def itemKey (id : String) : Option ToolKey :=
  if trimSpace id = "" then none else some (.item (trimSpace id))

def callKey (id : String) : Option ToolKey :=
  if trimSpace id = "" then none else some (.call (trimSpace id))

def keyForEvent (event : ResponsesStreamResponse) : Option ToolKey :=
  match event.outputIndex with
  | some index => some (.output index)
  | none =>
    ((event.item.bind fun item => (itemKey item.id).or (callKey item.callId))).or (itemKey event.itemID)

def fallbackToolKey (itemID callID : String) : Option Nat → Option ToolKey
  | some index => some (.output index)
  | none => (itemKey itemID).or (callKey callID)

def fallbackCallID (event : ResponsesStreamResponse) : String :=
  if trimSpace event.itemID ≠ "" then trimSpace event.itemID
  else match event.outputIndex with
    | some index => "call_output_" ++ toString index
    | none => ""

structure ResponsesStreamTool where
  key : ToolKey
  callID : String := ""
  itemID : String := ""
  name : String := ""
  arguments : String := ""
  sent : Bool := false
  nameSent : Bool := false
  argsSentAt : Nat := 0

/-- The tools stand in the order of their index, and the maps name them by it. -/
structure ResponsesToChatStreamState where
  includeUsage : Bool
  sentStart : Bool := false
  finalized : Bool := false
  hasSentText : Bool := false
  sentAnnotationCount : Nat := 0
  sawToolCall : Bool := false
  hasSentReasoning : Bool := false
  needsReasoningSummaryBreak : Bool := false
  tools : List ResponsesStreamTool := []
  toolByKey : Dict ToolKey Nat := Dict.empty
  outputIndexToKey : Dict Nat ToolKey := Dict.empty
  itemIDToKey : Dict String ToolKey := Dict.empty
  callIDToKey : Dict String ToolKey := Dict.empty
  pendingArgsByOutputIndex : Dict Nat String := Dict.empty
  pendingArgsByItemID : Dict String String := Dict.empty

namespace ResponsesToChatStreamState

section
variable (s : ResponsesToChatStreamState)

section
variable (index : Nat)

def updateTool (change : ResponsesStreamTool → ResponsesStreamTool) : ResponsesToChatStreamState :=
  { s with tools := s.tools.modify index change }

def ensureStart : Emission ResponsesToChatStreamState ChatChunk := fun s =>
  if s.sentStart then (s, []) else ({ s with sentStart := true }, [.role])

def sendChunk (chunk : ChatChunk) : Emission ResponsesToChatStreamState ChatChunk :=
  ensureStart.andThen (Emission.emit chunk)

def textDelta (delta : String) : Emission ResponsesToChatStreamState ChatChunk := fun s =>
  if delta = "" then (s, [])
  else sendChunk (.content delta) { s with hasSentText := true }

def annotationDelta (note : Annotation) (s : ResponsesToChatStreamState) :
    Except String (ResponsesToChatStreamState × List ChatChunk) := do
  let converted ← responseAnnotationToChat note
  pure (sendChunk (.annotations converted) { s with sentAnnotationCount := s.sentAnnotationCount + 1 })

def annotationRawDelta (raw : Option Annotation) (s : ResponsesToChatStreamState) :
    Except String (ResponsesToChatStreamState × List ChatChunk) :=
  match raw with
  | none => .ok (s, [])
  | some (.scalar _) => .error "invalid Responses stream annotation"
  | some note => annotationDelta note s

def remainingAnnotationChunks (output : ResponsesOutput) (offset : Nat) (s : ResponsesToChatStreamState) :
    Except String (ResponsesToChatStreamState × List ChatChunk) :=
  runEmissions annotationDelta ((outputAnnotations output).drop (s.sentAnnotationCount - offset)) s

def separatedReasoning (delta : String) : String :=
  if hasFront "\n\n" delta then delta
  else if hasFront "\n" delta then "\n" ++ delta
  else "\n\n" ++ delta

def reasoningDelta (delta : String) : Emission ResponsesToChatStreamState ChatChunk := fun s =>
  if delta = "" then (s, [])
  else
    sendChunk (.reasoning (if s.needsReasoningSummaryBreak then separatedReasoning delta else delta))
      { s with needsReasoningSummaryBreak := false, hasSentReasoning := true }

def toolDelta (explicitDelta : String) : Emission ResponsesToChatStreamState ChatChunk := fun s =>
  match s.tools[index]? with
  | none => (s, [])
  | some tool =>
    let argsDelta :=
      if explicitDelta = "" then String.ofList (tool.arguments.toList.drop tool.argsSentAt) else explicitDelta
    if tool.sent && argsDelta = "" && (tool.name = "" || tool.nameSent) then (s, [])
    else
      let callID := if trimSpace tool.callID = "" then tool.key.text else trimSpace tool.callID
      let name := if tool.nameSent then "" else tool.name
      let counted := s.updateTool index fun tool => { tool with
        nameSent := tool.nameSent || tool.name ≠ ""
        sent := true
        argsSentAt := tool.argsSentAt + argsDelta.length }
      sendChunk (.toolCall index callID name argsDelta) { counted with sawToolCall := true }

def toolUnder (keys : Dict String ToolKey) (id : String) : Option Nat :=
  if id = "" then none else (keys.get id).bind fun key => s.toolByKey.get key

def knownTool (key : ToolKey) (event : ResponsesStreamResponse) (item : ResponsesOutput) : Option Nat :=
  (s.toolByKey.get key).or
    ((s.toolUnder s.itemIDToKey (responseStreamEventItemID event)).or
      (s.toolUnder s.callIDToKey (trimSpace item.callId)))

def addTool (tool : ResponsesStreamTool) : ResponsesToChatStreamState :=
  { s with tools := s.tools ++ [tool], toolByKey := s.toolByKey.set tool.key s.tools.length }

def takePendingOutput (outputIndex : Nat) : ResponsesToChatStreamState :=
  match s.pendingArgsByOutputIndex.get outputIndex with
  | none => s
  | some pending =>
    { s.updateTool index (fun tool => { tool with arguments := tool.arguments ++ pending }) with
      pendingArgsByOutputIndex := s.pendingArgsByOutputIndex.erase outputIndex }

def takePendingItem (itemID : String) : ResponsesToChatStreamState :=
  match s.pendingArgsByItemID.get itemID with
  | none => s
  | some pending =>
    { s.updateTool index (fun tool => { tool with arguments := tool.arguments ++ pending }) with
      pendingArgsByItemID := s.pendingArgsByItemID.erase itemID }

def bindOutputIndex (key : ToolKey) :
    Option Nat → ResponsesToChatStreamState
  | none => s
  | some outputIndex =>
    { s with outputIndexToKey := s.outputIndexToKey.set outputIndex key }.takePendingOutput index outputIndex

def bindItemID (key : ToolKey) (itemID : String) : ResponsesToChatStreamState :=
  if itemID = "" then s
  else
    { s.updateTool index (fun tool => { tool with itemID := itemID }) with
      itemIDToKey := s.itemIDToKey.set itemID key }.takePendingItem index itemID

def bindCall (key : ToolKey) (item : ResponsesOutput) : ResponsesToChatStreamState :=
  let callID := trimSpace item.callId
  let name := trimSpace item.name
  { s.updateTool index (fun tool => { tool with
      callID := if callID ≠ "" then callID else if tool.callID = "" then trimSpace item.id else tool.callID
      name := if name ≠ "" then name else tool.name }) with
    callIDToKey := if callID ≠ "" then s.callIDToKey.set callID key else s.callIDToKey }

end

section
variable (event : ResponsesStreamResponse)

def ensureToolForEvent (item : ResponsesOutput) : Option (ResponsesToChatStreamState × Nat) :=
  ((keyForEvent event).or (fallbackToolKey item.id item.callId event.outputIndex)).map fun key =>
    let found := s.knownTool key event item
    let index := found.getD s.tools.length
    let placed := match found with
      | some known => { s with toolByKey := s.toolByKey.set key known }
      | none => s.addTool { key }
    (((placed.bindOutputIndex index key event.outputIndex).bindItemID index key
      (responseStreamEventItemID event)).bindCall index key item, index)

def findToolForEvent : Option Nat :=
  match event.outputIndex.bind fun index => s.outputIndexToKey.get index with
  | some key => s.toolByKey.get key
  | none =>
    match if trimSpace event.itemID = "" then none else s.itemIDToKey.get (trimSpace event.itemID) with
    | some key => s.toolByKey.get key
    | none => if event.item.isSome then (keyForEvent event).bind fun key => s.toolByKey.get key else none

def ensureFallbackToolForEvent : Option (ResponsesToChatStreamState × Nat) :=
  (match event.outputIndex with
    | some index => some (ToolKey.output index)
    | none => itemKey event.itemID).map fun key =>
    let found := s.toolByKey.get key
    let index := found.getD s.tools.length
    let placed := if found.isSome then s else s.addTool { key, callID := fallbackCallID event }
    ((placed.bindOutputIndex index key event.outputIndex).bindItemID index key (responseStreamEventItemID event), index)

def toolItem (item : ResponsesOutput) :
    Emission ResponsesToChatStreamState ChatChunk := fun s =>
  match s.ensureToolForEvent event item with
  | none => (s, [])
  | some (bound, index) =>
    toolDelta index "" (if item.arguments = "" then bound
      else bound.updateTool index fun tool => { tool with arguments := item.arguments })

def toolArgumentsDelta : Emission ResponsesToChatStreamState ChatChunk := fun s =>
  if event.delta = "" then (s, [])
  else match s.findToolForEvent event with
    | some index =>
      toolDelta index event.delta
        (s.updateTool index fun tool => { tool with arguments := tool.arguments ++ event.delta })
    | none =>
      match event.outputIndex with
      | some index =>
        let pending := (s.pendingArgsByOutputIndex.get index).getD "" ++ event.delta
        ({ s with pendingArgsByOutputIndex := s.pendingArgsByOutputIndex.set index pending }, [])
      | none =>
        let itemID := trimSpace event.itemID
        let pending := (s.pendingArgsByItemID.get itemID).getD "" ++ event.delta
        if itemID = "" then (s, [])
        else ({ s with pendingArgsByItemID := s.pendingArgsByItemID.set itemID pending }, [])

def flushPendingTool : Emission ResponsesToChatStreamState ChatChunk := fun s =>
  match s.findToolForEvent event with
  | some index => toolDelta index "" s
  | none =>
    match s.ensureFallbackToolForEvent event with
    | some (bound, index) => toolDelta index "" bound
    | none => (s, [])

end

def flushTool (key : ToolKey) : Emission ResponsesToChatStreamState ChatChunk := fun s =>
  let found := s.toolByKey.get key
  let index := found.getD s.tools.length
  let callID := match key with
    | .output outputIndex => "call_output_" ++ toString outputIndex
    | .item id => id
    | .call id => "call:" ++ id
  let placed := if found.isSome then s else s.addTool { key, callID }
  toolDelta index "" (match key with
    | .output outputIndex => placed.takePendingOutput index outputIndex
    | .item id => placed.takePendingItem index id
    | .call _ => placed)

def pendingKeys : List ToolKey :=
  let outputs := s.pendingArgsByOutputIndex.keys.map ToolKey.output
  let items := s.pendingArgsByItemID.keys.map ToolKey.item
  s.toolByKey.keys ++ (outputs ++ items).filter fun key => key ∉ s.toolByKey.keys

end

def flushAllPendingTools : Emission ResponsesToChatStreamState ChatChunk := fun s =>
  Emission.each flushTool (s.pendingKeys.insertionSort fun left right => left.text ≤ right.text) s

variable (response : Option OpenAIResponsesResponse)

def finishChunks : Emission ResponsesToChatStreamState ChatChunk := fun s =>
  let reason := (responsesFinishReasonFromStatus response).getD (if s.sawToolCall then .toolCalls else .stop)
  (s, .finish reason :: if s.includeUsage then [.usage] else [])

def finalize : Emission ResponsesToChatStreamState ChatChunk := fun s =>
  if s.finalized then (s, [])
  else (flushAllPendingTools.andThen (ensureStart.andThen (finishChunks response))) { s with finalized := true }

def terminalOutputChunk (hadSentText hadSentReasoning : Bool) (offset : Nat) (out : ResponsesOutput)
    (s : ResponsesToChatStreamState) : Except String (ResponsesToChatStreamState × List ChatChunk) :=
  match out.type with
  | .message => do
      let text := if hadSentText then (s, []) else textDelta (outputText out.content) s
      let annotations ← remainingAnnotationChunks out offset text.1
      pure (annotations.1, text.2 ++ annotations.2)
  | .reasoning => .ok (if hadSentReasoning then (s, []) else reasoningDelta (reasoningOutputText out) s)
  | .functionCall | .customToolCall => .ok (toolItem { type := .other, item := some out } out s)
  | _ => .ok (s, [])

def terminalOutputFrom (hadSentText hadSentReasoning : Bool) (offset : Nat) :
    List ResponsesOutput → ResponsesToChatStreamState → Except String (ResponsesToChatStreamState × List ChatChunk)
  | [], s => .ok (s, [])
  | out :: rest, s => do
      let first ← terminalOutputChunk hadSentText hadSentReasoning offset out s
      let count := if out.type = .message then (outputAnnotations out).length else 0
      let later ← terminalOutputFrom hadSentText hadSentReasoning (offset + count) rest first.1
      pure (later.1, first.2 ++ later.2)

def terminalOutputChunks (s : ResponsesToChatStreamState) :
    Except String (ResponsesToChatStreamState × List ChatChunk) :=
  match response with
  | none => .ok (s, [])
  | some response => terminalOutputFrom s.hasSentText s.hasSentReasoning 0 response.output s

end ResponsesToChatStreamState

open ResponsesToChatStreamState

def ensureIncompleteResponse (response : Option OpenAIResponsesResponse) : OpenAIResponsesResponse :=
  let response := response.getD { output := [] }
  if response.status = "" then { response with status := "incomplete" } else response

def terminalChunks (response : Option OpenAIResponsesResponse) (s : ResponsesToChatStreamState) :
    Except String (ResponsesToChatStreamState × List ChatChunk) := do
  let output ← terminalOutputChunks response s
  let last := finalize response output.1
  pure (last.1, output.2 ++ last.2)

def responsesStreamEventToChatChunks (event : ResponsesStreamResponse) (s : ResponsesToChatStreamState) :
    Except String (ResponsesToChatStreamState × List ChatChunk) :=
  match event.type with
  | .created => .ok (ensureStart s)
  | .reasoningDelta => .ok (reasoningDelta event.delta s)
  | .reasoningDone => .ok ({ s with needsReasoningSummaryBreak := s.needsReasoningSummaryBreak || s.hasSentReasoning }, [])
  | .outputTextDelta => .ok (textDelta event.delta s)
  | .annotationAdded => annotationRawDelta event.annotation s
  | .outputItemAdded | .outputItemDone =>
    match event.item with
    | none => .ok (s, [])
    | some item => .ok (if isResponsesToolOutputType item.type then toolItem event item s else (s, []))
  | .argumentsDelta => .ok (toolArgumentsDelta event s)
  | .argumentsDone => .ok (flushPendingTool event s)
  | .completed => terminalChunks event.response s
  | .incomplete => terminalChunks (some (ensureIncompleteResponse event.response)) s
  | .failed => .error "responses stream error: response.failed"
  | .error => .error "responses stream error: response.error"
  | .outputTextDone | .other => .ok (s, [])

end Wildflow.Relay
