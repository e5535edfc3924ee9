import Wildflow.Relay.Strings

/-!
# Wire formats

What the stream converters read and write: Responses objects and their events (`relaykit/dto/openai_response.go`; a raw JSON
field is the text it decodes to), `dto.ChatCompletionsStreamResponse` and `dto.ClaudeResponse` without usage and models.
-/

namespace Wildflow.Relay

/-- An annotation by its `type` and its other entries, those of a nested `url_citation` where it has one. A JSON null decodes to
the empty object, and a number is its decimal text. -/
inductive Annotation where
  | object (type : String) (entries : List (String × String))
  | scalar (raw : String)
deriving DecidableEq

inductive ContentType where
  | outputText
  | other
deriving DecidableEq

structure ResponsesOutputContent where
  type : ContentType
  text : String
  annotations : List Annotation := []
deriving DecidableEq

inductive OutputType where
  | message
  | reasoning
  | functionCall
  | customToolCall
  | webSearchCall
  | codeInterpreterCall
  | mcpCall
  | other (name : String)
deriving DecidableEq

def OutputType.text : OutputType → String
  | .message => "message"
  | .reasoning => "reasoning"
  | .functionCall => "function_call"
  | .customToolCall => "custom_tool_call"
  | .webSearchCall => "web_search_call"
  | .codeInterpreterCall => "code_interpreter_call"
  | .mcpCall => "mcp_call"
  | .other name => name

structure ResponsesOutput where
  type : OutputType
  id : String := ""
  status : String := ""
  role : String := ""
  content : List ResponsesOutputContent := []
  summary : List String := []
  callId : String := ""
  name : String := ""
  -- what `ArgumentsString` decodes
  arguments : String := ""
  serverLabel : String := ""
  action : String := ""
  output : String := ""
  itemError : String := ""
deriving DecidableEq

def isResponsesToolOutputType (type : OutputType) : Bool :=
  type = .functionCall || type = .customToolCall

structure OpenAIResponsesResponse where
  output : List ResponsesOutput
  status : String := ""
  -- the reason of the incomplete details
  incompleteReason : String := ""

/-- `response.output_text.delta` and the other types that the converters tell apart. -/
inductive ResponsesEventType where
  | created
  | reasoningDelta
  | reasoningDone
  | outputTextDelta
  | outputTextDone
  | annotationAdded
  | outputItemAdded
  | outputItemDone
  | argumentsDelta
  | argumentsDone
  | completed
  | incomplete
  | failed
  | error
  | other
deriving DecidableEq

structure ResponsesStreamResponse where
  type : ResponsesEventType
  delta : String := ""
  outputIndex : Option Nat := none
  itemID : String := ""
  item : Option ResponsesOutput := none
  annotation : Option Annotation := none
  response : Option OpenAIResponsesResponse := none
  text : Option String := none
  arguments : Option String := none
  message : String := ""

def responseStreamEventItemID (event : ResponsesStreamResponse) : String :=
  match event.item with
  | some item => if trimSpace item.id ≠ "" then trimSpace item.id else trimSpace event.itemID
  | none => trimSpace event.itemID

def trailingNewlines (text : String) : Nat := min 2 (text.toList.reverse.takeWhile (· = '\n')).length

def leadingNewlines (text : String) : Nat := min 2 (text.toList.takeWhile (· = '\n')).length

def missingNewlines (current text : String) : Nat := 2 - trailingNewlines current - leadingNewlines text

def appendSeparatedText (current text : String) : String :=
  if text = "" then current
  else if current = "" then text
  else current ++ String.ofList (List.replicate (missingNewlines current text) '\n') ++ text

def outputText (content : List ResponsesOutputContent) : String :=
  String.join ((content.filter fun part => part.type = .outputText).map (·.text))

def reasoningOutputText (output : ResponsesOutput) : String :=
  if output.content.any (·.text ≠ "") then (output.content.map (·.text)).foldl appendSeparatedText ""
  else output.summary.foldl appendSeparatedText ""

inductive ChatAnnotation where
  | urlCitation (citation : List (String × String))
  | plain (type : String) (entries : List (String × String))
deriving DecidableEq

inductive RawAnnotations where
  | invalid
  | list (annotations : List ChatAnnotation)
deriving DecidableEq

structure ToolCallResponse where
  index : Option Int := none
  id : String := ""
  name : String := ""
  arguments : String := ""
deriving DecidableEq

structure ChatDelta where
  reasoning : String := ""
  content : String := ""
  annotations : Option RawAnnotations := none
  toolCalls : List ToolCallResponse := []
deriving DecidableEq

structure ChatChoice where
  delta : ChatDelta := {}
  finishReason : Option String := none

/-- Of the usage, whether `dto.HasOpenAIUsageTokens`. -/
structure ChatStreamUsage where
  hasTokens : Bool

structure ChatCompletionsStreamResponse where
  id : String := ""
  choices : List ChatChoice
  usage : Option ChatStreamUsage := none

inductive ClaudeBlockKind where
  | text
  | thinking
  | toolUse
deriving DecidableEq

structure ClaudeCitation where
  url : String
  title : String := ""
  citedText : String := ""
  encryptedIndex : String := ""

structure ClaudeContentBlock where
  kind : ClaudeBlockKind
  id : String := ""
  name : String := ""

inductive ClaudeDelta where
  | text (text : String)
  | thinking (text : String)
  | inputJson (partialJson : String)
  | citations (citation : ClaudeCitation)

def ClaudeDelta.kind : ClaudeDelta → ClaudeBlockKind
  | .text _ | .citations _ => .text
  | .thinking _ => .thinking
  | .inputJson _ => .toolUse

def ClaudeDelta.payload : ClaudeDelta → String
  | .text value | .thinking value | .inputJson value => value
  | .citations _ => ""

inductive ClaudeStreamEvent where
  | messageStart
  | blockStart (index : Nat) (block : ClaudeContentBlock)
  | blockDelta (index : Nat) (delta : ClaudeDelta)
  | blockStop (index : Nat)
  | messageDelta (stopReason : String)
  | messageStop

end Wildflow.Relay
