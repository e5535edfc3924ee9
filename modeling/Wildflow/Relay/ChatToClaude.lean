import Wildflow.Store.Dict
import Wildflow.Store.Stream
import Wildflow.Relay.Formats

/-!
# Chat Completions to Claude Messages, as a stream

`relaykit/relayconvert/internal/oai_chat/to_claude_messages_resp.go`. A pointer to a tool call is its place in `toolCalls`.
Of the usage only matters whether there is any. `uuid` is what `kitutil.GetUUID` draws for the block of a tool call.
-/

namespace Wildflow.Relay
open Wildflow.Store

inductive LastMessageType where
  | none
  | text
  | tools
  | thinking
deriving DecidableEq

structure ClaudeStreamToolCall where
  blockIndex : Nat
  id : String := ""
  name : String := ""
  pendingArguments : String := ""
  started : Bool := false

structure ClaudeConvertInfo where
  lastMessagesType : LastMessageType := .none
  index : Nat := 0
  usage : Bool := false
  finishReason : String := ""
  done : Bool := false
  toolCallBaseIndex : Nat := 0
  toolCallMaxIndexOffset : Nat := 0
  toolCalls : List ClaudeStreamToolCall := []
  toolCallByIndex : Dict Int Nat := Dict.empty
  toolCallByID : Dict String Nat := Dict.empty

/-- `reasonmap.OpenAIFinishReasonToClaudeStopReason`. -/
def stopReasonOpenAI2Claude (reason : String) : String :=
  let lower := toLower reason
  if lower = "stop" then "end_turn"
  else if lower = "stop_sequence" then "stop_sequence"
  else if lower = "length" ∨ lower = "max_tokens" then "max_tokens"
  else if lower = "content_filter" then "refusal"
  else if lower = "tool_calls" then "tool_use"
  else reason

def chatCitation (entries : List (String × String)) : Option ClaudeCitation :=
  let field (key : String) := (entries.lookup key).getD ""
  if trimSpace (field "url") = "" then none
  else some {
    url := trimSpace (field "url"), title := trimSpace (field "title"), citedText := field "cited_text"
    encryptedIndex := field "encrypted_index" }

/-- `chatAnnotationsToClaude` without a text to cite from. -/
def chatAnnotationsToClaude : Option RawAnnotations → List ClaudeCitation
  | some (.list annotations) => annotations.filterMap fun annotation => match annotation with
      | .urlCitation citation => chatCitation citation
      | .plain type entries => if trimSpace type = "url_citation" then chatCitation entries else none
  | _ => []

namespace ClaudeConvertInfo

def stopOpenBlocks (s : ClaudeConvertInfo) : List ClaudeStreamEvent :=
  match s.lastMessagesType with
  | .text | .thinking => [.blockStop s.index]
  | .tools =>
    if s.toolCalls = [] then
      (List.range (s.toolCallMaxIndexOffset + 1)).map fun offset => .blockStop (s.toolCallBaseIndex + offset)
    else (s.toolCalls.filter (·.started)).map fun tool => .blockStop tool.blockIndex
  | .none => []

def startTool (tool : ClaudeStreamToolCall) : ClaudeStreamToolCall × List ClaudeStreamEvent :=
  ({ tool with started := true, pendingArguments := "" },
    .blockStart tool.blockIndex { kind := .toolUse, id := tool.id, name := tool.name } ::
      if tool.pendingArguments = "" then [] else [.blockDelta tool.blockIndex (.inputJson tool.pendingArguments)])

section
variable (uuid : Nat → String)

def startPendingTool (tool : ClaudeStreamToolCall) : ClaudeStreamToolCall × List ClaudeStreamEvent :=
  if tool.started ∨ tool.name = "" then (tool, [])
  else startTool { tool with id := if tool.id = "" then "toolu_" ++ uuid tool.blockIndex else tool.id }

def startPendingToolAt (place : Nat) : Emission ClaudeConvertInfo ClaudeStreamEvent := fun s =>
  match s.toolCalls[place]? with
  | none => (s, [])
  | some tool =>
    ({ s with toolCalls := s.toolCalls.set place (startPendingTool uuid tool).1 }, (startPendingTool uuid tool).2)

def startPendingToolBlocks : Emission ClaudeConvertInfo ClaudeStreamEvent := fun s =>
  if s.lastMessagesType ≠ .tools then (s, [])
  else Emission.each (startPendingToolAt uuid) (List.range s.toolCalls.length) s

def appendStopOpenBlocks : Emission ClaudeConvertInfo ClaudeStreamEvent :=
  (startPendingToolBlocks uuid).andThen fun s => (s, s.stopOpenBlocks)

def advance (s : ClaudeConvertInfo) : ClaudeConvertInfo :=
  match s.lastMessagesType with
  | .none => s
  | .tools =>
    { s with
      index := s.toolCallBaseIndex + s.toolCalls.length, toolCallBaseIndex := 0, toolCallMaxIndexOffset := 0
      toolCalls := [], toolCallByIndex := Dict.empty, toolCallByID := Dict.empty, lastMessagesType := .none }
  | _ => { s with index := s.index + 1, lastMessagesType := .none }

def stopOpenBlocksAndAdvance : Emission ClaudeConvertInfo ClaudeStreamEvent := fun s =>
  if s.lastMessagesType = .none then (s, [])
  else (appendStopOpenBlocks uuid).andThen (fun s => (s.advance, [])) s

/-- A text or thinking block is open, `mode` being the last message type that says so. -/
def ensureBlock (mode : LastMessageType) (kind : ClaudeBlockKind) : Emission ClaudeConvertInfo ClaudeStreamEvent := fun s =>
  if s.lastMessagesType = mode then (s, [])
  else (stopOpenBlocksAndAdvance uuid).andThen
    (fun s => ({ s with lastMessagesType := mode }, [.blockStart s.index { kind }])) s

def appendCitationDeltas (annotations : Option RawAnnotations) : Emission ClaudeConvertInfo ClaudeStreamEvent :=
  let citations := chatAnnotationsToClaude annotations
  if citations = [] then Emission.nothing
  else (ensureBlock uuid .text .text).andThen fun s =>
    (s, citations.map fun citation => .blockDelta s.index (.citations citation))

end

def findToolCall (s : ClaudeConvertInfo) (toolIndex : Int) (incomingID : String) : Option Nat :=
  let known := if incomingID = "" then none else s.toolCallByID.get incomingID
  (known.orElse fun _ => s.toolCallByIndex.get toolIndex).filter fun place =>
    match s.toolCalls[place]? with
    | none => false
    | some tool => incomingID = "" || tool.id = "" || tool.id = incomingID

def extendTool (toolCall : ToolCallResponse) (tool : ClaudeStreamToolCall) : ClaudeStreamToolCall :=
  { tool with
    id := if tool.id = "" then trimSpace toolCall.id else tool.id
    name := if tool.name = "" then trimSpace toolCall.name else tool.name
    pendingArguments := if tool.started then tool.pendingArguments else tool.pendingArguments ++ toolCall.arguments }

def toolFragment (toolCall : ToolCallResponse) (tool : ClaudeStreamToolCall) : ClaudeStreamToolCall × List ClaudeStreamEvent :=
  let extended := extendTool toolCall tool
  if !extended.started && extended.id ≠ "" && extended.name ≠ "" then startTool extended
  else
    (extended, if extended.started && toolCall.arguments ≠ ""
      then [.blockDelta extended.blockIndex (.inputJson toolCall.arguments)] else [])

def streamToolCall (fragment : ToolCallResponse × Nat) : Emission ClaudeConvertInfo ClaudeStreamEvent := fun s =>
  let toolCall := fragment.1
  let toolIndex := toolCall.index.getD fragment.2
  let incomingID := trimSpace toolCall.id
  let found := s.findToolCall toolIndex incomingID
  let position := found.getD s.toolCalls.length
  let fresh : ClaudeStreamToolCall := { blockIndex := s.toolCallBaseIndex + s.toolCalls.length }
  let toolCalls := if found.isSome then s.toolCalls else s.toolCalls ++ [fresh]
  let tool := (toolCalls[position]?).getD fresh
  ({ s with
      toolCalls := toolCalls.set position (toolFragment toolCall tool).1
      toolCallByIndex := s.toolCallByIndex.set toolIndex position
      toolCallByID :=
        if tool.id = "" ∧ incomingID ≠ "" then s.toolCallByID.set incomingID position else s.toolCallByID },
    (toolFragment toolCall tool).2)

variable (uuid : Nat → String)

def enterTools : Emission ClaudeConvertInfo ClaudeStreamEvent := fun s =>
  if s.lastMessagesType = .tools then (s, [])
  else (stopOpenBlocksAndAdvance uuid).andThen (fun s =>
    ({ s with
      toolCallBaseIndex := s.index, toolCallMaxIndexOffset := 0, toolCalls := []
      toolCallByIndex := Dict.empty, toolCallByID := Dict.empty, lastMessagesType := .tools }, [])) s

def leaveToolCalls (s : ClaudeConvertInfo) : ClaudeConvertInfo :=
  { s with
    toolCallMaxIndexOffset := s.toolCalls.length - 1
    index := if s.toolCalls.length > 0 then s.toolCallBaseIndex + s.toolCalls.length - 1 else s.index }

def streamToolCalls (toolCalls : List ToolCallResponse) : Emission ClaudeConvertInfo ClaudeStreamEvent :=
  (enterTools uuid).andThen ((Emission.each streamToolCall toolCalls.zipIdx).andThen fun s => (s.leaveToolCalls, []))

def streamContent (delta : ChatDelta) : Emission ClaudeConvertInfo ClaudeStreamEvent :=
  if delta.toolCalls ≠ [] then streamToolCalls uuid delta.toolCalls
  else if delta.reasoning ≠ "" then
    (ensureBlock uuid .thinking .thinking).andThen fun s => (s, [.blockDelta s.index (.thinking delta.reasoning)])
  else if delta.content ≠ "" then
    (ensureBlock uuid .text .text).andThen fun s => (s, [.blockDelta s.index (.text delta.content)])
  else Emission.nothing

def finishMessage (usage : Option ChatStreamUsage) (stopReason : String → String) :
    Emission ClaudeConvertInfo ClaudeStreamEvent := fun s =>
  if s.usage || usage.isSome then
    (appendStopOpenBlocks uuid).andThen (fun s =>
      ({ s with done := true }, [.messageDelta (stopReason s.finishReason), .messageStop])) { s with usage := true }
  else (s, [])

def stopReasonOrEndTurn (finishReason : String) : String :=
  if stopReasonOpenAI2Claude finishReason = "" then "end_turn" else stopReasonOpenAI2Claude finishReason

def noteFinish (s : ClaudeConvertInfo) (choice : ChatChoice) : ClaudeConvertInfo :=
  if choice.finishReason.getD "" = "" then s else { s with finishReason := choice.finishReason.getD "" }

def streamChoice (choice : ChatChoice) (usage : Option ChatStreamUsage) : Emission ClaudeConvertInfo ClaudeStreamEvent :=
  fun s =>
    ((streamContent uuid choice.delta).andThen ((appendCitationDeltas uuid choice.delta.annotations).andThen
      (if choice.finishReason.getD "" = "" then Emission.nothing
        else finishMessage uuid usage stopReasonOpenAI2Claude))) (s.noteFinish choice)

def messageStart (sendResponseCount : Nat) (usage : Option ChatStreamUsage) : Emission ClaudeConvertInfo ClaudeStreamEvent :=
  fun s =>
    if sendResponseCount = 1 then ({ s with usage := s.usage || usage.any (·.hasTokens) }, [.messageStart]) else (s, [])

end ClaudeConvertInfo

open ClaudeConvertInfo

structure ConvMeta where
  sendResponseCount : Nat := 0
  claudeConvertInfo : ClaudeConvertInfo := {}

section
variable (uuid : Nat → String)

def streamResponseOpenAI2Claude (sendResponseCount : Nat) (chunk : ChatCompletionsStreamResponse) :
    Emission ClaudeConvertInfo ClaudeStreamEvent := fun s =>
  if s.done then (s, [])
  else (messageStart sendResponseCount chunk.usage).andThen (match chunk.choices with
    | [] => finishMessage uuid chunk.usage stopReasonOrEndTurn
    | choice :: _ => streamChoice uuid choice chunk.usage) s

def finalizeStreamResponseOpenAI2Claude : Emission ClaudeConvertInfo ClaudeStreamEvent := fun s =>
  if s.done then (s, [])
  else (appendStopOpenBlocks uuid).andThen (fun s =>
    ({ s with done := true }, [.messageDelta (stopReasonOrEndTurn s.finishReason), .messageStop])) s

def convertChatChunk (chunk : ChatCompletionsStreamResponse) : Emission ConvMeta ClaudeStreamEvent :=
  fun info =>
    let count := info.sendResponseCount + 1
    let converted := streamResponseOpenAI2Claude uuid count chunk info.claudeConvertInfo
    ({ sendResponseCount := count, claudeConvertInfo := converted.1 }, converted.2)

def finalizeChatStream : Emission ConvMeta ClaudeStreamEvent := fun info =>
  let converted := finalizeStreamResponseOpenAI2Claude uuid info.claudeConvertInfo
  ({ info with claudeConvertInfo := converted.1 }, converted.2)

def convertChatStream (chunks : List ChatCompletionsStreamResponse) :
    Emission ConvMeta ClaudeStreamEvent :=
  (Emission.each (convertChatChunk uuid) chunks).andThen (finalizeChatStream uuid)

end

end Wildflow.Relay
