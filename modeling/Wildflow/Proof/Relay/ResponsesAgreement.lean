import Wildflow.Proof.Relay.ResponsesToChat

/-!
# The streamed and the whole conversion of a Responses object

The whole conversion separates the texts of the messages, falls back to other content and has no input of a custom tool
call. The stream does none of this.
-/

namespace Wildflow.Relay.ResponsesToChat
open Wildflow.Store ResponsesToChatStreamState WireItem List
variable {response : WireResponse}

def JointsClosed : String → List String → Prop
  | _, [] => True
  | current, text :: rest =>
    (text = "" ∨ current = "" ∨ missingNewlines current text = 0) ∧ JointsClosed (current ++ text) rest

instance decidableJointsClosed : (current : String) → (texts : List String) → Decidable (JointsClosed current texts)
  | _, [] => .isTrue trivial
  | current, text :: rest => @instDecidableAnd _ _ _ (decidableJointsClosed (current ++ text) rest)

theorem appendSeparatedText_length (cur text : String) :
    cur.length + text.length ≤ (appendSeparatedText cur text).length := by
  unfold appendSeparatedText
  split
  · simp [*]
  · split
    · simp [*]
    · simp only [String.length_append]
      omega

theorem foldl_separated_length (cur : String) (texts : List String) :
    cur.length + (String.join texts).length ≤ (texts.foldl appendSeparatedText cur).length := by
  induction texts generalizing cur with
  | nil => simp
  | cons text rest ih =>
    rw [foldl_cons, String.join_cons, String.length_append]
    have first := appendSeparatedText_length cur text
    have later := ih (appendSeparatedText cur text)
    omega

theorem appendSeparatedText_eq_iff (cur text : String) :
    appendSeparatedText cur text = cur ++ text ↔ (text = "" ∨ cur = "" ∨ missingNewlines cur text = 0) := by
  unfold appendSeparatedText
  by_cases noText : text = ""
  · simp [noText]
  by_cases noCurrent : cur = ""
  · simp [noText, noCurrent]
  simp only [noText, noCurrent, if_false, false_or]
  constructor
  · intro same
    have lengths := congrArg String.length same
    simp only [String.length_append, String.length_ofList, length_replicate] at lengths
    omega
  · intro closed
    simp [closed]

theorem foldl_separated_eq_iff (cur : String) (texts : List String) :
    texts.foldl appendSeparatedText cur = cur ++ String.join texts ↔ JointsClosed cur texts := by
  induction texts generalizing cur with
  | nil => simp [JointsClosed]
  | cons text rest ih =>
    rw [foldl_cons, String.join_cons, ← String.append_assoc, JointsClosed, ← appendSeparatedText_eq_iff]
    by_cases closed : appendSeparatedText cur text = cur ++ text
    · rw [closed, ih (cur ++ text)]
      simp
    simp only [closed, false_and, iff_false]
    intro same
    have lengths := congrArg String.length same
    have later := foldl_separated_length (appendSeparatedText cur text) rest
    have first := appendSeparatedText_length cur text
    have longer : cur.length + text.length < (appendSeparatedText cur text).length := by
      refine lt_of_le_of_ne first fun equal => closed ?_
      rw [appendSeparatedText_eq_iff]
      unfold appendSeparatedText at equal
      by_cases noText : text = ""
      · exact .inl noText
      by_cases noCurrent : cur = ""
      · exact .inr (.inl noCurrent)
      · simp only [noText, noCurrent, if_false, String.length_append, String.length_ofList,
          length_replicate] at equal
        exact .inr (.inr (by omega))
    simp only [String.length_append] at lengths
    omega

theorem foldl_separated_eq_empty_iff (texts : List String) :
    texts.foldl appendSeparatedText "" = "" ↔ ∀ text ∈ texts, text = "" := by
  constructor
  · intro empty
    have lengths := foldl_separated_length "" texts
    rw [empty] at lengths
    rw [← join_eq_empty_iff, ← String.length_eq_zero_iff]
    simpa using lengths
  · intro empty
    have closed : ∀ texts : List String, (∀ text ∈ texts, text = "") → JointsClosed "" texts := by
      intro texts
      induction texts with
      | nil => intro _; trivial
      | cons text rest ih =>
        intro all
        have first := all text mem_cons_self
        refine ⟨.inl first, ?_⟩
        rw [first]
        exact ih fun other mem => all other (mem_cons_of_mem text mem)
    rw [(foldl_separated_eq_iff "" texts).mpr (closed texts empty), (join_eq_empty_iff texts).mpr empty]
    rfl

def itemChats (arguments : WireItem → String) (item : WireItem) : List ChatToolCall :=
  match item with
  | .functionCall _ _ name _ | .customToolCall _ _ name _ =>
    [⟨chatCallID item.decode, trimSpace name, arguments item⟩]
  | _ => []

def streamedArguments : WireItem → String
  | .functionCall _ _ _ arguments => arguments
  | .customToolCall _ _ _ input => input
  | _ => ""

theorem trackedFrom_chats (i : Nat) (items : List WireItem) :
    (trackedFrom i items).map TrackedCall.chat = items.flatMap (itemChats streamedArguments) := by
  induction items generalizing i with
  | nil => rfl
  | cons item items ih =>
    rw [trackedFrom, map_append, flatMap_cons, ih (i + 1)]
    cases item <;> rfl

theorem chatToolCalls_decode {items : List WireItem} (proper : ∀ item ∈ items, item.Proper) :
    chatToolCalls (items.map decode) = items.flatMap (itemChats fun item => item.decode.arguments) := by
  unfold chatToolCalls
  induction items with
  | nil => rfl
  | cons item items ih =>
    have later := ih fun other mem => proper other (mem_cons_of_mem item mem)
    have own := (proper item mem_cons_self).2
    rw [map_cons, flatMap_cons, ← later]
    cases item with
    | message _ _ _ | reasoning _ _ _ => rfl
    | functionCall id callId name arguments =>
      have named : trimSpace name ≠ "" := own
      simp [decode, isResponsesToolOutputType, named, itemChats]
    | customToolCall id callId name input =>
      have named : trimSpace name ≠ "" := own
      simp [decode, isResponsesToolOutputType, named, itemChats]

theorem calls_agree_iff (items : List WireItem) :
    items.flatMap (itemChats streamedArguments) = items.flatMap (itemChats fun item => item.decode.arguments) ↔
      ∀ item ∈ items, item.inputLost = false := by
  induction items with
  | nil => simp
  | cons item items ih =>
    have lengths : (itemChats streamedArguments item).length =
        (itemChats (fun item => item.decode.arguments) item).length := by cases item <;> rfl
    have own : itemChats streamedArguments item = itemChats (fun item => item.decode.arguments) item ↔
        item.inputLost = false := by
      cases item <;> simp [itemChats, streamedArguments, decode, inputLost]
    rw [flatMap_cons, flatMap_cons, forall_mem_cons, ← ih, ← own]
    exact ⟨fun same => append_inj same lengths, fun ⟨first, rest⟩ => by rw [first, rest]⟩

section
variable (proper : ∀ item ∈ response.items, item.Proper)
include proper

theorem extractOutputText_decode :
    extractOutputTextFromResponses response.decode = if String.join (response.items.map messageText) ≠ "" then
        (response.items.map messageText).foldl appendSeparatedText ""
      else (response.items.map WireItem.contentText).foldl appendSeparatedText "" := by
  have preferred : ∀ (items : List WireItem) (current : String), (∀ item ∈ items, item.Proper) →
      (((items.map decode).filter isAssistantMessage).map fun out => outputText out.content).foldl
        appendSeparatedText current = (items.map messageText).foldl appendSeparatedText current := by
    intro items
    induction items with
    | nil => intro current _; rfl
    | cons item items ih =>
      intro current all
      have later := fun next => ih next fun other member => all other (mem_cons_of_mem item member)
      cases item with
      | message id role content =>
        have assistant : isAssistantMessage (message id role content).decode = true := by
          rcases (all _ mem_cons_self).2.1 with rfl | rfl <;> rfl
        rw [map_cons, map_cons, filter_cons_of_pos assistant, map_cons, foldl_cons,
          foldl_cons]
        exact later _
      | reasoning _ _ _ | functionCall _ _ _ _ | customToolCall _ _ _ _ => exact later current
  have fallback : (response.items.map decode).map (fun out => String.join (out.content.map (·.text))) =
      response.items.map WireItem.contentText := by
    rw [map_map]
    apply map_congr_left
    intro item _
    cases item <;> rfl
  simp only [extractOutputTextFromResponses, WireResponse.decode, preferred response.items "" proper, fallback]
  have same : (response.items.map messageText).foldl appendSeparatedText "" = "" ↔
      String.join (response.items.map messageText) = "" := by
    rw [foldl_separated_eq_empty_iff, join_eq_empty_iff]
  by_cases empty : String.join (response.items.map messageText) = ""
  · rw [if_neg (not_not.mpr empty), if_neg (not_not.mpr (same.mpr empty))]
  · rw [if_pos empty, if_pos fun other => empty (same.mp other)]

theorem text_agrees_iff :
    String.join (response.items.map messageText) = extractOutputTextFromResponses response.decode ↔
      JointsClosed "" (response.items.map messageText) ∧
        ((∀ item ∈ response.items, item.messageText = "") → ∀ item ∈ response.items, item.contentText = "") := by
  rw [extractOutputText_decode proper]
  have joined := foldl_separated_eq_iff "" (response.items.map messageText)
  rw [String.empty_append] at joined
  by_cases empty : String.join (response.items.map messageText) = ""
  · have silent : ∀ item ∈ response.items, item.messageText = "" := by
      intro item mem
      exact (join_eq_empty_iff _).mp empty _ (mem_map_of_mem mem)
    have closed : JointsClosed "" (response.items.map messageText) := by
      rw [← joined, empty, foldl_separated_eq_empty_iff, ← join_eq_empty_iff, empty]
    rw [if_neg (not_not.mpr empty), empty, eq_comm, foldl_separated_eq_empty_iff]
    constructor
    · intro noContent
      exact ⟨closed, fun _ item mem => noContent _ (mem_map_of_mem mem)⟩
    · intro cond text mem
      obtain ⟨item, inside, rfl⟩ := mem_map.mp mem
      exact cond.2 silent item inside
  · rw [if_pos empty, eq_comm, joined]
    constructor
    · intro closed
      refine ⟨closed, fun silent => absurd ?_ empty⟩
      rw [join_eq_empty_iff]
      intro text mem
      obtain ⟨item, inside, rfl⟩ := mem_map.mp mem
      exact silent item inside
    · exact And.left

theorem responsesAnnotationsToChat_decode :
    ∃ annotations, responsesAnnotationsToChat response.decode = .ok annotations := by
  have objects : ∀ annotation ∈ (response.decode.output.filter (·.type = .message)).flatMap outputAnnotations,
      ∃ type entries, annotation = .object type entries := by
    intro annotation mem
    obtain ⟨out, inside, here⟩ := mem_flatMap.mp mem
    obtain ⟨item, itemIn, rfl⟩ := mem_map.mp (mem_of_mem_filter inside)
    obtain ⟨part, partIn, annotated⟩ := mem_flatMap.mp here
    have kind := (mem_filter.mp inside).2
    cases item with
    | message id role content => exact (proper _ itemIn).2.2 part partIn annotation annotated
    | reasoning _ _ _ | functionCall _ _ _ _ | customToolCall _ _ _ _ => simp [decode] at kind
  unfold responsesAnnotationsToChat
  revert objects
  generalize (response.decode.output.filter (·.type = .message)).flatMap outputAnnotations = annotations
  intro objects
  induction annotations with
  | nil => exact ⟨[], rfl⟩
  | cons annotation rest ih =>
    obtain ⟨type, entries, rfl⟩ := objects annotation mem_cons_self
    obtain ⟨converted, same⟩ := responseAnnotationToChat_object type entries
    obtain ⟨later, ran⟩ := ih fun other mem => objects other (mem_cons_of_mem _ mem)
    exact ⟨converted :: later, by simp [mapM_cons, same, ran, bind, Except.bind, pure, Except.pure]⟩

end

def streamedMessage (includeUsage : Bool) (events : List ResponsesStreamResponse) : Option ChatMessage :=
  match runEmissions responsesStreamEventToChatChunks events { includeUsage } with
  | .ok (_, chunks) => reads readChunk {} chunks
  | .error _ => none

def StreamAgrees (includeUsage : Bool) (response : WireResponse) (events : List ResponsesStreamResponse) : Prop :=
  ∃ whole m, responsesResponseToChatCompletionsResponse response.decode = .ok whole ∧
    streamedMessage includeUsage events = some m ∧ m.content = whole.content ∧ m.toolCalls = whole.toolCalls ∧
      m.finishReason = some whole.finishReason

/-- No separator of message texts is missing, nothing stands in for them, and no custom tool call has an input. -/
structure Agreeable (response : WireResponse) : Prop where
  joints : JointsClosed "" (response.items.map messageText)
  ownText : (∀ item ∈ response.items, item.messageText = "") → ∀ item ∈ response.items, item.contentText = ""
  inputs : ∀ item ∈ response.items, item.inputLost = false

theorem stream_agrees_iff (response : WireResponse) (wellFormed : response.WellFormed)
    (events : List ResponsesStreamResponse) (stream : EventStream response events) (includeUsage : Bool) :
    (∃ m, streamedMessage includeUsage events = some m ∧ m.started = true ∧ m.finishReason ≠ none) ∧
      (StreamAgrees includeUsage response events ↔ Agreeable response) := by
  have initial : Following [] "" { includeUsage } {} :=
    ⟨tracked_initial includeUsage, rfl, rfl, rfl, rfl, rfl, rfl⟩
  obtain ⟨s, chunks, m, ran, readAll, finished⟩ := accepts_stream wellFormed stream _ _ initial
  have message : streamedMessage includeUsage events = some m := by
    simp only [streamedMessage, ran, readAll]
  obtain ⟨annotations, annotated⟩ := responsesAnnotationsToChat_decode wellFormed.proper
  have chats := finished.toolCalls
  rw [trackedFrom_chats] at chats
  have wholeCalls : chatToolCalls response.decode.output =
      response.items.flatMap (itemChats fun item => item.decode.arguments) := chatToolCalls_decode wellFormed.proper
  have sameEmptiness : trackedFrom 0 response.items = [] ↔ chatToolCalls response.decode.output = [] := by
    have streamed : (trackedFrom 0 response.items).map TrackedCall.chat = [] ↔
        response.items.flatMap (itemChats streamedArguments) = [] := by rw [trackedFrom_chats]
    rw [map_eq_nil_iff] at streamed
    rw [streamed, wholeCalls, flatMap_eq_nil_iff, flatMap_eq_nil_iff]
    refine forall_congr' fun item => imp_congr_right fun _ => ?_
    cases item <;> simp [itemChats]
  refine ⟨⟨m, message, finished.started, by simp [finished.finishReason]⟩, ?_⟩
  have agrees : StreamAgrees includeUsage response events ↔
      String.join (response.items.map messageText) = extractOutputTextFromResponses response.decode ∧
        response.items.flatMap (itemChats streamedArguments) =
          response.items.flatMap (itemChats fun item => item.decode.arguments) := by
    rw [← wholeCalls, ← finished.content, ← chats]
    constructor
    · rintro ⟨whole, other, converted, streamed, sameText, sameCalls, _⟩
      rw [message, Option.some_inj] at streamed
      rw [responsesResponseToChatCompletionsResponse, annotated] at converted
      cases streamed
      cases converted
      exact ⟨sameText, sameCalls⟩
    · rintro ⟨sameText, sameCalls⟩
      refine ⟨_, m, by rw [responsesResponseToChatCompletionsResponse, annotated]; rfl, message, sameText, sameCalls, ?_⟩
      rw [finished.finishReason]
      simp only [sameEmptiness]
  rw [agrees, text_agrees_iff wellFormed.proper, calls_agree_iff]
  exact ⟨fun ⟨⟨joints, ownText⟩, inputs⟩ => ⟨joints, ownText, inputs⟩,
    fun ⟨joints, ownText, inputs⟩ => ⟨⟨joints, ownText⟩, inputs⟩⟩

/-! A lookup: reasoning, a message and a function call, in one stream. -/

def lookupItem : WireItem := .functionCall "fc_1" "call_1" "lookup" "[1,2]"

def answerItem : WireItem := .message "msg_1" "assistant" [{ type := .outputText, text := "hello" }]

def lookupResponse : WireResponse where
  items := [.reasoning "rs_1" [] ["plan"], answerItem, lookupItem]
  status := "completed"

def lookupEvents : List ResponsesStreamResponse :=
  let thought : WireItem := .reasoning "rs_1" [] ["plan"]
  [{ type := .created }] ++ (added 0 thought :: [ReasoningPart.event 0 "rs_1" (.delta "plan")] ++ done 0 thought ::
      (added 1 answerItem :: [MessagePart.event 1 "msg_1" (.text "hel"), MessagePart.event 1 "msg_1" (.text "lo")] ++
        done 1 answerItem ::
          (added 2 lookupItem :: ([callDelta 2 "fc_1" "[1,", callDelta 2 "fc_1" "2]"] ++ [callDone 2 "fc_1" "[1,2]"]) ++
            [done 2 lookupItem]))) ++
    [{ type := .completed, response := some lookupResponse.decode }]

theorem stream_agrees_iff_lookup :
    lookupResponse.WellFormed ∧ EventStream lookupResponse lookupEvents ∧
      StreamAgrees true lookupResponse lookupEvents := by
  have wellFormed : lookupResponse.WellFormed := by
    refine ⟨?_, by decide, by decide⟩
    simp only [lookupResponse, answerItem, lookupItem, forall_mem_cons]
    refine ⟨⟨by decide, trivial⟩, ⟨by decide, .inr rfl, by simp⟩, ⟨by decide, ?_⟩, by simp⟩
    exact (by decide : trimSpace "lookup" ≠ "")
  have stream : EventStream lookupResponse lookupEvents :=
    .mk true (.cons (.reasoning [.delta "plan"]) (.cons (.message [.text "hel", .text "lo"] (by decide))
      (.cons (.functionCall ["[1,", "2]"] (by decide)) (.nil 3))))
  refine ⟨wellFormed, stream, (stream_agrees_iff lookupResponse wellFormed lookupEvents stream true).2.mpr ?_⟩
  refine ⟨by decide, ?_, by decide⟩
  intro silent
  exact absurd (silent answerItem (by simp [lookupResponse])) (by decide)

/-! Two messages: the whole conversion puts an empty line between them, the stream does not. -/

def firstItem : WireItem := .message "msg_1" "assistant" [{ type := .outputText, text := "first" }]

def secondItem : WireItem := .message "msg_2" "assistant" [{ type := .outputText, text := "second" }]

def twoMessages : WireResponse where
  items := [firstItem, secondItem]
  status := "completed"

def twoMessageEvents : List ResponsesStreamResponse :=
  [{ type := .created }] ++
    (added 0 firstItem :: [MessagePart.event 0 "msg_1" (.text "first")] ++ done 0 firstItem ::
      (added 1 secondItem :: [MessagePart.event 1 "msg_2" (.text "second")] ++ [done 1 secondItem])) ++
    [{ type := .completed, response := some twoMessages.decode }]

theorem two_messages_disagree :
    twoMessages.WellFormed ∧ EventStream twoMessages twoMessageEvents ∧
      (streamedMessage false twoMessageEvents).map ChatMessage.content = some "firstsecond" ∧
      (responsesResponseToChatCompletionsResponse twoMessages.decode).toOption.map ChatCompletion.content =
        some "first\n\nsecond" ∧ ¬ StreamAgrees false twoMessages twoMessageEvents := by
  have streamed : (streamedMessage false twoMessageEvents).map ChatMessage.content = some "firstsecond" := by
    decide +kernel
  have whole : (responsesResponseToChatCompletionsResponse twoMessages.decode).toOption.map ChatCompletion.content =
      some "first\n\nsecond" := by
    decide +kernel
  refine ⟨⟨?_, by decide, by decide⟩, ?_, streamed, whole, ?_⟩
  · simp only [twoMessages, firstItem, secondItem, forall_mem_cons]
    exact ⟨⟨by decide, .inr rfl, by simp⟩, ⟨by decide, .inr rfl, by simp⟩, by simp⟩
  · exact .mk true (.cons (.message [.text "first"] (by decide)) (.cons (.message [.text "second"] (by decide)) (.nil 2)))
  · rintro ⟨completion, message, converted, readAll, same, _⟩
    rw [converted] at whole
    rw [readAll] at streamed
    simp only [Option.map_some, Option.some_inj, Except.toOption] at streamed whole
    rw [streamed, whole] at same
    exact absurd same (by decide)

end Wildflow.Relay.ResponsesToChat
