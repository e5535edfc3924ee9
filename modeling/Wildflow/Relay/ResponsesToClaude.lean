import Wildflow.Relay.ResponsesToChat
import Wildflow.Relay.ChatToClaude

/-!
# Responses to Claude Messages, as a stream

`relaykit/relayconvert/internal/oai_responses/to_claude_messages_stream_resp.go`. A pointer to a block is its place in `blocks`,
and `SentBytes` counts characters. Ids, models and usage are left out.
-/

namespace Wildflow.Relay
open Wildflow.Store

structure ResponsesClaudeStreamBlock where
  index : Nat
  kind : ClaudeBlockKind
  itemID : String := ""
  callID : String := ""
  name : String := ""
  started : Bool := false
  stopped : Bool := false
  value : String := ""
  sentBytes : Nat := 0
  annotationCount : Nat := 0
  needsReasoningBreak : Bool := false

structure ResponsesToClaudeStreamState where
  sentMessageStart : Bool := false
  done : Bool := false
  sawToolCall : Bool := false
  nextBlockIndex : Nat := 0
  blocks : List ResponsesClaudeStreamBlock := []
  byOutputIndex : Dict Nat Nat := Dict.empty
  byItemID : Dict String Nat := Dict.empty
  lastByKind : Dict ClaudeBlockKind Nat := Dict.empty

def ClaudeBlockKind.wireType : ClaudeBlockKind → String
  | .text => "text"
  | .thinking => "thinking"
  | .toolUse => "tool_use"

def FinishReason.text : FinishReason → String
  | .stop => "stop"
  | .toolCalls => "tool_calls"
  | .length => "length"
  | .contentFilter => "content_filter"

def responsesClaudeStopReason (response : Option OpenAIResponsesResponse) (sawToolCall : Bool) : String :=
  match responsesFinishReasonFromStatus response with
  | some reason => stopReasonOpenAI2Claude reason.text
  | none => if sawToolCall then "tool_use" else "end_turn"

def responsesAnnotationIndex (value : Option String) : Option Nat := value.bind String.toNat?

def responsesCitedText (text : String) (citation : List (String × String)) : String :=
  match responsesAnnotationIndex (citation.lookup "start_index"), responsesAnnotationIndex (citation.lookup "end_index") with
  | some first, some last =>
    if last ≤ first ∨ last > text.length then "" else String.ofList ((text.toList.take last).drop first)
  | _, _ => ""

def responsesAnnotationToClaude (text : String) : Annotation → Option ClaudeCitation
  | .scalar _ => none
  | .object type entries =>
    if trimSpace type ≠ "url_citation" then none
    else (chatCitation entries).map fun citation =>
      if citation.citedText ≠ "" then citation else { citation with citedText := responsesCitedText text entries }

def responsesAnnotationsToClaude (annotations : List Annotation) (text : String) : List ClaudeCitation :=
  annotations.filterMap (responsesAnnotationToClaude text)

structure BlockFocus where
  sentMessageStart : Bool
  sawToolCall : Bool
  block : ResponsesClaudeStreamBlock

namespace BlockFocus

def ensureMessageStart : Emission BlockFocus ClaudeStreamEvent := fun f =>
  if f.sentMessageStart then (f, []) else ({ f with sentMessageStart := true }, [.messageStart])

def blockContent (block : ResponsesClaudeStreamBlock) : ClaudeContentBlock :=
  match block.kind with
  | .toolUse => { kind := .toolUse, id := if block.callID = "" then block.itemID else block.callID, name := block.name }
  | kind => { kind }

def startBlock : Emission BlockFocus ClaudeStreamEvent := fun f =>
  if f.block.started || f.block.stopped || (f.block.kind = .toolUse && f.block.name = "") then (f, [])
  else
    (ensureMessageStart.andThen fun f => (f, [.blockStart f.block.index (blockContent f.block)])) { f with
      sawToolCall := f.sawToolCall || f.block.kind = .toolUse
      block := { f.block with started := true } }

def blockDelta (kind : ClaudeBlockKind) (delta : String) : ClaudeDelta :=
  match kind with
  | .text => .text delta
  | .thinking => .thinking delta
  | .toolUse => .inputJson delta

def sendRest : Emission BlockFocus ClaudeStreamEvent := fun f =>
  if !f.block.started || f.block.value.length ≤ f.block.sentBytes then (f, [])
  else
    ({ f with block := { f.block with sentBytes := f.block.value.length } },
      [.blockDelta f.block.index (blockDelta f.block.kind (String.ofList (f.block.value.toList.drop f.block.sentBytes)))])

def flushBlock : Emission BlockFocus ClaudeStreamEvent := fun f =>
  if f.block.stopped then (f, []) else startBlock.andThen sendRest f

def appendDelta (delta : String) : Emission BlockFocus ClaudeStreamEvent := fun f =>
  if f.block.stopped || delta = "" then (f, [])
  else flushBlock { f with block := { f.block with value := f.block.value ++ delta } }

def mergedValue (current finalValue : String) : String :=
  if current = "" then finalValue
  else if hasFront current finalValue then current ++ String.ofList (finalValue.toList.drop current.length)
  else current

def mergeFinalValue (finalValue : String) : Emission BlockFocus ClaudeStreamEvent := fun f =>
  if f.block.stopped then (f, [])
  else flushBlock { f with block := { f.block with value := mergedValue f.block.value finalValue } }

def closeBlock : Emission BlockFocus ClaudeStreamEvent := fun f =>
  if !f.block.started then (f, [])
  else ({ f with block := { f.block with stopped := true } }, [.blockStop f.block.index])

def stopBlock : Emission BlockFocus ClaudeStreamEvent := fun f =>
  if f.block.stopped then (f, []) else (flushBlock.andThen (startBlock.andThen closeBlock)) f

/-- A snapshot has all annotations of the block, the first ones of which are known. -/
def appendAnnotations (annotations : List Annotation) (snapshot : Bool) : Emission BlockFocus ClaudeStreamEvent := fun f =>
  if f.block.kind ≠ .text ∨ f.block.stopped = true ∨ annotations = [] then (f, [])
  else if snapshot ∧ annotations.length ≤ f.block.annotationCount then (f, [])
  else
    let remaining := if snapshot then annotations.drop f.block.annotationCount else annotations
    let count := if snapshot then annotations.length else f.block.annotationCount + annotations.length
    let counted := { f with block := { f.block with annotationCount := count } }
    let citations := responsesAnnotationsToClaude remaining f.block.value
    if citations = [] then (counted, [])
    else (startBlock.andThen fun f => (f, citations.map fun citation => .blockDelta f.block.index (.citations citation))) counted

def separatedResponsesDelta (delta : String) : String :=
  if hasFront "\n\n" delta then delta
  else if hasFront "\n" delta then "\n" ++ delta
  else "\n\n" ++ delta

def reasoningDelta (delta : String) : Emission BlockFocus ClaudeStreamEvent := fun f =>
  if f.block.needsReasoningBreak && delta ≠ "" then
    appendDelta (separatedResponsesDelta delta) { f with block := { f.block with needsReasoningBreak := false } }
  else appendDelta delta f

def mergeText (text : Option String) : Emission BlockFocus ClaudeStreamEvent :=
  match text with
  | none => Emission.nothing
  | some text => mergeFinalValue text

def reasoningDone (text : Option String) : Emission BlockFocus ClaudeStreamEvent :=
  (mergeText text).andThen fun f =>
    ({ f with block := { f.block with needsReasoningBreak := f.block.needsReasoningBreak || f.block.value ≠ "" } }, [])

def applyItem (item : ResponsesOutput) : ClaudeBlockKind → Emission BlockFocus ClaudeStreamEvent
  | .thinking => mergeFinalValue (reasoningOutputText item)
  | .text =>
    let texts := item.content.filter fun content => content.type = .outputText
    (mergeFinalValue (outputText item.content)).andThen (appendAnnotations (texts.flatMap (·.annotations)) true)
  | .toolUse => mergeFinalValue item.arguments

end BlockFocus

open BlockFocus

namespace ResponsesToClaudeStreamState

def onBlock (place : Nat) (emission : Emission BlockFocus ClaudeStreamEvent) :
    Emission ResponsesToClaudeStreamState ClaudeStreamEvent := fun s =>
  match s.blocks[place]? with
  | none => (s, [])
  | some block =>
    let next := emission { sentMessageStart := s.sentMessageStart, sawToolCall := s.sawToolCall, block }
    ({ s with
        sentMessageStart := next.1.sentMessageStart, sawToolCall := next.1.sawToolCall
        blocks := s.blocks.set place next.1.block }, next.2)

section
variable (s : ResponsesToClaudeStreamState)

section
variable (event : ResponsesStreamResponse)

def findBlock : Option Nat :=
  (event.outputIndex.bind s.byOutputIndex.get).or
    (if responseStreamEventItemID event = "" then none else s.byItemID.get (responseStreamEventItemID event))

section
variable (kind : ClaudeBlockKind)

/-- The last block of its kind takes what has no output index and no item id. -/
def lastBlock : Option Nat :=
  (s.lastByKind.get kind).filter fun place =>
    (s.blocks[place]?).any (!·.stopped) && event.outputIndex = none && responseStreamEventItemID event = ""

def knownBlock : Option Nat :=
  (s.findBlock event).or (s.lastBlock event kind)

def blockMetadata (block : ResponsesClaudeStreamBlock) : ResponsesClaudeStreamBlock :=
  let itemID := responseStreamEventItemID event
  let named := { block with itemID := if itemID = "" then block.itemID else itemID }
  match event.item with
  | none => named
  | some item =>
    { named with
      callID :=
        if trimSpace item.callId ≠ "" then trimSpace item.callId
        else if block.callID = "" then trimSpace item.id
        else block.callID
      name := if trimSpace item.name = "" then block.name else trimSpace item.name }

def applyBlockMetadata (place : Nat) (event : ResponsesStreamResponse) : ResponsesToClaudeStreamState :=
  { s with
    blocks := s.blocks.modify place (blockMetadata event)
    byOutputIndex := match event.outputIndex with
      | none => s.byOutputIndex
      | some index => s.byOutputIndex.set index place
    byItemID :=
      if responseStreamEventItemID event = "" then s.byItemID
      else s.byItemID.set (responseStreamEventItemID event) place }

def addBlock : ResponsesToClaudeStreamState :=
  { s with nextBlockIndex := s.nextBlockIndex + 1, blocks := s.blocks ++ [{ index := s.nextBlockIndex, kind }] }

def ensureBlock (s : ResponsesToClaudeStreamState) : Except String (ResponsesToClaudeStreamState × Nat) :=
  let place := (s.knownBlock event kind).getD s.blocks.length
  let opened := if (s.knownBlock event kind).isSome then s else s.addBlock kind
  match (opened.blocks[place]?).filter (·.kind ≠ kind) with
  | some block => .error ("Responses output item changed from " ++ block.kind.wireType ++ " to " ++ kind.wireType)
  | none =>
    let known := opened.applyBlockMetadata place event
    .ok ({ known with lastByKind := known.lastByKind.set kind place }, place)

def withBlock (emission : Emission BlockFocus ClaudeStreamEvent)
    (s : ResponsesToClaudeStreamState) : Except String (ResponsesToClaudeStreamState × List ClaudeStreamEvent) := do
  let (s, place) ← s.ensureBlock event kind
  pure (onBlock place emission s)

end

def itemKind (item : ResponsesOutput) : Option ClaudeBlockKind :=
  match item.type with
  | .reasoning => some .thinking
  | .message => if item.role ≠ "" ∧ item.role ≠ "assistant" then none else some .text
  | .functionCall | .customToolCall => some .toolUse
  | _ => none

def applyOutputItem (stop : Bool) (s : ResponsesToClaudeStreamState) :
    Except String (ResponsesToClaudeStreamState × List ClaudeStreamEvent) :=
  match event.item with
  | none => .ok (s, [])
  | some item =>
    match itemKind item with
    | none => .ok (s, [])
    | some kind => withBlock event kind ((applyItem item kind).andThen (if stop then stopBlock else Emission.nothing)) s

def itemEvent (entry : ResponsesOutput × Nat) : ResponsesStreamResponse :=
  { type := .other, outputIndex := some entry.2, itemID := entry.1.id, item := some entry.1 }

def ensureMessageStart : Emission ResponsesToClaudeStreamState ClaudeStreamEvent := fun s =>
  if s.sentMessageStart then (s, []) else ({ s with sentMessageStart := true }, [.messageStart])

def stopBlocks : Emission ResponsesToClaudeStreamState ClaudeStreamEvent := fun s =>
  Emission.each (fun place => onBlock place stopBlock) (List.range s.blocks.length) s

section
variable (response : Option OpenAIResponsesResponse)

def endMessage : Emission ResponsesToClaudeStreamState ClaudeStreamEvent :=
  stopBlocks.andThen (ensureMessageStart.andThen fun s =>
    ({ s with done := true }, [.messageDelta (responsesClaudeStopReason response s.sawToolCall), .messageStop]))

def outputOf : List ResponsesOutput :=
  match response with
  | none => []
  | some response => response.output

def finish (s : ResponsesToClaudeStreamState) :
    Except String (ResponsesToClaudeStreamState × List ClaudeStreamEvent) := do
  if s.done then pure (s, [])
  else
    let items ← runEmissions (fun entry => applyOutputItem (itemEvent entry) true) (outputOf response).zipIdx s
    pure ((endMessage response items.1).1, items.2 ++ (endMessage response items.1).2)

end

def convertEvent (s : ResponsesToClaudeStreamState) :
    Except String (ResponsesToClaudeStreamState × List ClaudeStreamEvent) :=
  match event.type with
  | .created => .ok (ensureMessageStart s)
  | .reasoningDelta => withBlock event .thinking (reasoningDelta event.delta) s
  | .reasoningDone => withBlock event .thinking (reasoningDone event.text) s
  | .outputTextDelta => withBlock event .text (appendDelta event.delta) s
  | .outputTextDone => withBlock event .text (mergeText event.text) s
  | .annotationAdded =>
    match event.annotation with
    | none => do
        let _ ← s.ensureBlock event .text
        .error "invalid Responses stream annotation"
    | some note => withBlock event .text (appendAnnotations [note] false) s
  | .outputItemAdded => applyOutputItem event false s
  | .outputItemDone => applyOutputItem event true s
  | .argumentsDelta => withBlock event .toolUse (appendDelta event.delta) s
  | .argumentsDone => withBlock event .toolUse (mergeText event.arguments) s
  | .completed | .incomplete => finish event.response s
  | .failed => .error ("responses stream error: " ++
      if trimSpace event.message = "" then "response.failed" else trimSpace event.message)
  | .error => .error ("responses stream error: " ++
      if trimSpace event.message = "" then "response.error" else trimSpace event.message)
  | .other => .ok (s, [])

def convertChunk (s : ResponsesToClaudeStreamState) :
    Except String (ResponsesToClaudeStreamState × List ClaudeStreamEvent) :=
  if s.done then .ok (s, []) else convertEvent event s

end

def finalize : Except String (ResponsesToClaudeStreamState × List ClaudeStreamEvent) :=
  finish none s

end

def convertStream (events : List ResponsesStreamResponse) (s : ResponsesToClaudeStreamState) :
    Except String (ResponsesToClaudeStreamState × List ClaudeStreamEvent) := do
  let converted ← runEmissions convertChunk events s
  let last ← finalize converted.1
  pure (last.1, converted.2 ++ last.2)

end ResponsesToClaudeStreamState

end Wildflow.Relay
