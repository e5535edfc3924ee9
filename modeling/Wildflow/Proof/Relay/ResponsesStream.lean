import Wildflow.Relay.ResponsesToChat

/-!
# Well-formed Responses streams and the client that reads the chat chunks

A client refuses a chunk that comes before the role, a second role, and anything but usage after the finish.
-/

namespace Wildflow.Relay.ResponsesToChat
open Wildflow.Store

inductive WireItem where
  | message (id role : String) (content : List ResponsesOutputContent)
  | reasoning (id : String) (content : List ResponsesOutputContent) (summary : List String)
  | functionCall (id callId name arguments : String)
  | customToolCall (id callId name input : String)

namespace WireItem

-- dto.ResponsesOutput has no field for the input of a custom tool call
def decode : WireItem → ResponsesOutput
  | .message id role content => { type := .message, id, role, content }
  | .reasoning id content summary => { type := .reasoning, id, content, summary }
  | .functionCall id callId name arguments => { type := .functionCall, id, callId, name, arguments }
  | .customToolCall id callId name _ => { type := .customToolCall, id, callId, name }

def opened : WireItem → WireItem
  | .message id role _ => .message id role []
  | .reasoning id _ _ => .reasoning id [] []
  | .functionCall id callId name _ => .functionCall id callId name ""
  | .customToolCall id callId name _ => .customToolCall id callId name ""

def id : WireItem → String
  | .message id _ _ | .reasoning id _ _ | .functionCall id _ _ _ | .customToolCall id _ _ _ => id

def callId : WireItem → String
  | .message _ _ _ | .reasoning _ _ _ => ""
  | .functionCall _ callId _ _ | .customToolCall _ callId _ _ => callId

def messageText : WireItem → String
  | .message _ _ content => outputText content
  | _ => ""

def contentText : WireItem → String
  | .message _ _ content | .reasoning _ content _ => String.join (content.map (·.text))
  | _ => ""

def inputLost : WireItem → Bool
  | .customToolCall _ _ _ input => input ≠ ""
  | _ => false

def Proper (item : WireItem) : Prop :=
  trimSpace item.id ≠ "" ∧ match item with
    | .message _ role content =>
      (role = "" ∨ role = "assistant") ∧
        ∀ part ∈ content, ∀ annotation ∈ part.annotations, ∃ type entries, annotation = .object type entries
    | .reasoning _ _ _ => True
    | .functionCall _ _ name _ | .customToolCall _ _ name _ => trimSpace name ≠ ""

end WireItem

structure WireResponse where
  items : List WireItem
  status : String
  incompleteReason : String := ""

def WireResponse.decode (response : WireResponse) : OpenAIResponsesResponse where
  output := response.items.map WireItem.decode
  status := response.status
  incompleteReason := response.incompleteReason

def callIDs (items : List WireItem) : List String :=
  (items.map fun item => trimSpace item.callId).filter (· ≠ "")

structure WireResponse.WellFormed (response : WireResponse) : Prop where
  proper : ∀ item ∈ response.items, item.Proper
  ids : (response.items.map fun item => trimSpace item.id).Nodup
  callIDs : (callIDs response.items).Nodup

inductive MessagePart where
  | text (delta : String)
  | annotated (type : String) (entries : List (String × String))
  | done (whole : String)

section
variable (index : Nat)

def MessagePart.event (id : String) : MessagePart → ResponsesStreamResponse
  | .text delta => { type := .outputTextDelta, delta, outputIndex := some index, itemID := id }
  | .annotated type entries =>
    { type := .annotationAdded, annotation := some (.object type entries), outputIndex := some index, itemID := id }
  | .done whole => { type := .outputTextDone, text := some whole, outputIndex := some index, itemID := id }

def MessagePart.delta : MessagePart → String
  | .text delta => delta
  | _ => ""

inductive ReasoningPart where
  | delta (piece : String)
  | done (whole : String)

def ReasoningPart.event (id : String) : ReasoningPart → ResponsesStreamResponse
  | .delta piece => { type := .reasoningDelta, delta := piece, outputIndex := some index, itemID := id }
  | .done whole => { type := .reasoningDone, text := some whole, outputIndex := some index, itemID := id }

def added (item : WireItem) : ResponsesStreamResponse :=
  { type := .outputItemAdded, outputIndex := some index, itemID := item.id, item := some item.opened.decode }

def done (item : WireItem) : ResponsesStreamResponse :=
  { type := .outputItemDone, outputIndex := some index, itemID := item.id, item := some item.decode }

def callDelta (id delta : String) : ResponsesStreamResponse :=
  { type := .argumentsDelta, delta, outputIndex := some index, itemID := id }

def callDone (id arguments : String) : ResponsesStreamResponse :=
  { type := .argumentsDone, arguments := some arguments, outputIndex := some index, itemID := id }

end

inductive ItemDeltas (index : Nat) : WireItem → List ResponsesStreamResponse → Prop
  | message {id role : String} {content : List ResponsesOutputContent} (parts : List MessagePart)
      (complete : String.join (parts.map MessagePart.delta) = outputText content) :
      ItemDeltas index (.message id role content) (parts.map (MessagePart.event index id))
  | reasoning {id : String} {content : List ResponsesOutputContent} {summary : List String}
      (parts : List ReasoningPart) :
      ItemDeltas index (.reasoning id content summary) (parts.map (ReasoningPart.event index id))
  | functionCall {id callId name arguments : String} (deltas : List String)
      (complete : String.join deltas = arguments) :
      ItemDeltas index (.functionCall id callId name arguments)
        (deltas.map (callDelta index id) ++ [callDone index id arguments])
  | customToolCall {id callId name input : String} (deltas : List String) (complete : String.join deltas = input) :
      ItemDeltas index (.customToolCall id callId name input)
        (deltas.map (callDelta index id) ++ [callDone index id input])

inductive OutputEvents : Nat → List WireItem → List ResponsesStreamResponse → Prop
  | nil (index : Nat) : OutputEvents index [] []
  | cons {index : Nat} {item : WireItem} {items : List WireItem} {deltas rest : List ResponsesStreamResponse}
      (head : ItemDeltas index item deltas) (tail : OutputEvents (index + 1) items rest) :
      OutputEvents index (item :: items) (added index item :: deltas ++ done index item :: rest)

inductive EventStream (response : WireResponse) : List ResponsesStreamResponse → Prop
  | mk (created : Bool) {output : List ResponsesStreamResponse} (events : OutputEvents 0 response.items output) :
      EventStream response ((if created then [{ type := .created }] else []) ++ output ++
        [{ type := .completed, response := some response.decode }])

structure ChatMessage where
  started : Bool := false
  content : String := ""
  reasoning : String := ""
  annotations : List ChatAnnotation := []
  toolCalls : List ChatToolCall := []
  finishReason : Option FinishReason := none

def readToolCall (calls : List ChatToolCall) (index : Nat) (id name arguments : String) : Option (List ChatToolCall) :=
  if index = calls.length then some (calls ++ [⟨id, name, arguments⟩])
  else if index < calls.length then
    some (calls.modify index fun call =>
      { call with name := call.name ++ name, arguments := call.arguments ++ arguments })
  else none

def readChunk (m : ChatMessage) : ChatChunk → Option ChatMessage
  | .role => if m.started then none else some { m with started := true }
  | .usage => if m.finishReason.isSome then some m else none
  | .content text =>
    if m.started && m.finishReason.isNone then some { m with content := m.content ++ text } else none
  | .reasoning text =>
    if m.started && m.finishReason.isNone then some { m with reasoning := m.reasoning ++ text } else none
  | .annotations note =>
    if m.started && m.finishReason.isNone then some { m with annotations := m.annotations ++ [note] } else none
  | .toolCall index id name arguments =>
    if m.started && m.finishReason.isNone then
      (readToolCall m.toolCalls index id name arguments).map fun toolCalls => { m with toolCalls }
    else none
  | .finish reason =>
    if m.started && m.finishReason.isNone then some { m with finishReason := some reason } else none

end Wildflow.Relay.ResponsesToChat
