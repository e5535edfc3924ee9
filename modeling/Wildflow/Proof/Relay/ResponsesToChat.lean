import Wildflow.Proof.Relay.ResponsesTools

/-!
# What a client reads of a converted Responses stream

It ends with the concatenated message texts and the calls of the object in order, each with the streamed arguments.
-/

namespace Wildflow.Relay.ResponsesToChat
open Wildflow.Store ResponsesToChatStreamState TrackedCall List
variable {index : Nat} {event : ResponsesStreamResponse} {payload : String} {call : TrackedCall} {item : WireItem}
  {chunk : ChatChunk} {events : List ResponsesStreamResponse} {items : List WireItem} {resp : WireResponse}

structure Following (calls : List TrackedCall) (text : String) (s : ResponsesToChatStreamState) (m : ChatMessage) :
    Prop where
  tracked : Tracked s calls
  started : m.started = s.sentStart
  reading : m.finishReason = none
  unfinished : s.finalized = false
  content : m.content = text
  sentText : s.hasSentText = decide (text ≠ "")
  toolCalls : m.toolCalls = calls.map chat

abbrev Turns {χ : Type} (calls : List TrackedCall) (text : String) (calls' : List TrackedCall) (text' : String) :=
  @Accepts _ _ _ χ readChunk (Following calls text) (Following calls' text')

section
variable {calls : List TrackedCall} {text : String} {s : ResponsesToChatStreamState} {m m' : ChatMessage}

theorem ensureStart_state (s : ResponsesToChatStreamState) : (ensureStart s).1 = { s with sentStart := true } := by
  unfold ensureStart
  split
  · cases s
    simp_all
  · rfl

theorem reads_ensureStart (begun : m.started = s.sentStart) :
    reads readChunk m (ensureStart s).2 = some { m with started := true } := by
  unfold ensureStart
  split
  · cases m
    simp_all
  · rename_i unsent
    simp [reads_cons, readChunk, begun, unsent]

theorem sendChunk_state (chunk : ChatChunk) (s : ResponsesToChatStreamState) :
    (sendChunk chunk s).1 = { s with sentStart := true } :=
  ensureStart_state s

theorem reads_sendChunk (begun : m.started = s.sentStart)
    (next : readChunk { m with started := true } chunk = some m') : reads readChunk m (sendChunk chunk s).2 = some m' := by
  refine reads_append_of readChunk (reads_ensureStart begun) ?_
  simp [Emission.emit, reads_cons, next]

theorem send_following (m' : ChatMessage) (begun : m.started = s.sentStart)
    (next : readChunk { m with started := true } chunk = some m')
    (after : Following calls text { s with sentStart := true } m') :
    ∃ m', reads readChunk m (sendChunk chunk s).2 = some m' ∧ Following calls text (sendChunk chunk s).1 m' := by
  refine ⟨m', reads_sendChunk begun next, ?_⟩
  rw [sendChunk_state]
  exact after

theorem follows_textDelta (d : String) :
    Follows readChunk (Following calls text) (Following calls (text ++ d)) (textDelta d) := by
  intro s m next
  unfold textDelta
  split
  · rename_i empty
    exact ⟨m, rfl, by simpa [empty] using next⟩
  rename_i given
  refine send_following { m with started := true, content := m.content ++ d } next.started
    (by simp [readChunk, next.reading]) ?_
  exact { next with
    tracked := { next.tracked with }
    started := rfl
    content := by rw [next.content]
    sentText := by simp [given] }

theorem follows_reasoningDelta (d : String) :
    Follows readChunk (Following calls text) (Following calls text) (reasoningDelta d) := by
  intro s m next
  unfold reasoningDelta
  split
  · exact ⟨m, rfl, next⟩
  refine send_following { m with
    started := true
    reasoning := m.reasoning ++ if s.needsReasoningSummaryBreak then separatedReasoning d else d }
    next.started (by simp [readChunk, next.reading]) ?_
  exact { next with tracked := { next.tracked with }, started := rfl }

theorem responseAnnotationToChat_object (type : String) (entries : List (String × String)) :
    ∃ converted, responseAnnotationToChat (.object type entries) = .ok converted := by
  by_cases cited : trimSpace type = "url_citation"
  · exact ⟨.urlCitation entries, by simp [responseAnnotationToChat, cited]⟩
  · exact ⟨.plain type entries, by simp [responseAnnotationToChat, cited]⟩

theorem accepts_annotationDelta (type : String) (entries : List (String × String)) :
    Turns calls text calls text (annotationDelta (.object type entries)) := by
  intro s m next
  obtain ⟨converted, same⟩ := responseAnnotationToChat_object type entries
  obtain ⟨m', readAll, after⟩ : ∃ m', reads readChunk m (sendChunk (.annotations converted)
      { s with sentAnnotationCount := s.sentAnnotationCount + 1 }).2 = some m' ∧
      Following calls text (sendChunk (.annotations converted)
        { s with sentAnnotationCount := s.sentAnnotationCount + 1 }).1 m' := by
    refine send_following { m with started := true, annotations := m.annotations ++ [converted] } next.started
      (by simp [readChunk, next.reading]) ?_
    exact { next with tracked := { next.tracked with }, started := rfl }
  exact ⟨_, _, m', by rw [annotationDelta, same]; rfl, readAll, after⟩

theorem follows_ensureStart : Follows readChunk (Following calls text) (Following calls text) ensureStart := by
  intro s m next
  refine ⟨_, reads_ensureStart next.started, ?_⟩
  rw [ensureStart_state]
  exact { next with tracked := { next.tracked with }, started := rfl }

end

section
variable {calls : List TrackedCall} {text : String} {index : Nat} {out : ResponsesOutput}

-- The stream step on the events of a well-formed stream.

theorem step_callDone (id args : String) :
    responsesStreamEventToChatChunks (callDone index id args) =
      fun s => .ok (flushPendingTool (callDone index id args) s) := rfl

theorem chatCallID_ne (shown : trimSpace out.id ≠ "") : chatCallID out ≠ "" := by
  unfold chatCallID
  split <;> assumption

theorem trimSpace_chatCallID : trimSpace (chatCallID out) = chatCallID out := by
  unfold chatCallID
  split <;> exact trimSpace_trimSpace _

theorem follows_toolItem_open (itemOf : event.item = some out)
    (indexOf : event.outputIndex = some index) (shown : trimSpace out.id ≠ "") (named : trimSpace out.name ≠ "")
    (bare : out.arguments = "") (nodup : Distinct (calls ++ [ofOutput index out ""])) :
    Follows readChunk (Following calls text) (Following (calls ++ [ofOutput index out ""]) text)
      (toolItem event out) := by
  intro s m ⟨tracked, begun, reading, unfinished, content, sentText, toolCalls⟩
  obtain ⟨s', sent, tracked', flags⟩ := tracked.toolItem_open itemOf indexOf shown named bare nodup
  rw [sent]
  refine send_following { m with
    started := true
    toolCalls := m.toolCalls ++ [⟨chatCallID out, trimSpace out.name, ""⟩] } (begun.trans flags.sentStart.symm) ?_ ?_
  · simp [readChunk, reading, readToolCall, toolCalls]
  · exact ⟨{ tracked' with }, rfl, reading, flags.finalized.trans unfinished, content, flags.hasSentText.trans sentText,
      by simp [toolCalls, chat, ofOutput]⟩

theorem follows_toolItem_again {n : Nat}
    (nodup : Distinct calls) (found : calls[n]? = some call) (itemOf : event.item = some out)
    (indexOf : event.outputIndex = some call.output ∨ event.outputIndex = none) (shown : trimSpace out.id ≠ "")
    (same : call = ofOutput call.output out call.arguments)
    (sent : out.arguments = "" ∨ out.arguments = call.arguments) :
    Follows readChunk (Following calls text) (Following calls text) (toolItem event out) := by
  intro s m ⟨tracked, begun, reading, unfinished, content, sentText, toolCalls⟩
  obtain ⟨s', quiet, tracked', flags⟩ := tracked.toolItem_again nodup found itemOf indexOf shown same sent
  rw [quiet]
  exact ⟨m, rfl, tracked', begun.trans flags.sentStart.symm, reading, flags.finalized.trans unfinished, content,
    flags.hasSentText.trans sentText, toolCalls⟩

theorem readToolCall_last (chats : List ChatToolCall) (last : ChatToolCall) (id name args : String) :
    readToolCall (chats ++ [last]) chats.length id name args =
      some (chats ++ [{ last with name := last.name ++ name, arguments := last.arguments ++ args }]) := by
  simp [readToolCall, modify_snoc]

theorem follows_callDelta (id d : String) (called : call.id ≠ "") (trimmed : trimSpace call.id = call.id) :
    Follows readChunk (Following (calls ++ [call]) text) (Following (calls ++ [call.extend d]) text)
      (toolArgumentsDelta (callDelta call.output id d)) := by
  intro s m next
  by_cases empty : d = ""
  · subst empty
    refine ⟨m, by simp [toolArgumentsDelta, callDelta], ?_⟩
    simpa [toolArgumentsDelta, callDelta, extend] using next
  · obtain ⟨tracked, begun, reading, unfinished, content, sentText, toolCalls⟩ := next
    have found : (calls ++ [call])[calls.length]? = some call := by simp
    have indexOf : (callDelta call.output id d).outputIndex = some call.output := rfl
    obtain ⟨s', sent, tracked', flags⟩ := tracked.toolArgumentsDelta found indexOf called trimmed empty
    rw [modify_snoc] at tracked'
    rw [sent]
    refine send_following { m with
      started := true
      toolCalls := calls.map chat ++ [(call.extend d).chat] } (begun.trans flags.sentStart.symm) ?_ ?_
    · have extended := readToolCall_last (calls.map chat) call.chat call.id "" d
      simp only [map_append, map_cons, map_nil] at toolCalls
      rw [length_map, ← toolCalls] at extended
      simp [readChunk, reading, callDelta, extended, chat, extend]
    · exact ⟨{ tracked' with }, rfl, reading, flags.finalized.trans unfinished, content, flags.hasSentText.trans sentText,
        by simp⟩

theorem accepts_callDeltas (id : String) (deltas : List String) (called : call.id ≠ "")
    (trimmed : trimSpace call.id = call.id) :
    Turns (calls ++ [call]) text (calls ++ [call.extend (String.join deltas)]) text
      (runEmissions responsesStreamEventToChatChunks (deltas.map (callDelta call.output id))) := by
  induction deltas generalizing call with
  | nil =>
    have same : call.extend (String.join []) = call := by simp [extend]
    rw [same]
    exact accepts_runEmissions_nil
  | cons d rest ih =>
    have same : call.extend (String.join (d :: rest)) = (call.extend d).extend (String.join rest) := by
      simp [extend, String.join_cons, String.append_assoc]
    rw [same]
    refine accepts_runEmissions_cons ?_ (@ih (call.extend d) called trimmed)
    exact (follows_callDelta id d called trimmed).accepts

structure CallItem (item : WireItem) (payload : String) : Prop where
  type : isResponsesToolOutputType item.decode.type = true
  opened : item.opened.decode = { item.decode with arguments := "" }
  arguments : item.decode.arguments = "" ∨ item.decode.arguments = payload
  id : item.decode.id = item.id

theorem callItem_functionCall (id callId name arguments : String) :
    CallItem (.functionCall id callId name arguments) arguments :=
  ⟨rfl, rfl, .inr rfl, rfl⟩

theorem callItem_customToolCall (id callId name input : String) :
    CallItem (.customToolCall id callId name input) input :=
  ⟨rfl, rfl, .inl rfl, rfl⟩

variable (isCall : CallItem item payload)
include isCall

theorem step_done :
    responsesStreamEventToChatChunks (done index item) = fun s => .ok (toolItem (done index item) item.decode s) := by
  funext s
  simp [responsesStreamEventToChatChunks, done, isCall.type]

theorem step_added :
    responsesStreamEventToChatChunks (added index item) =
      fun s => .ok (toolItem (added index item) item.opened.decode s) := by
  funext s
  have opened : isResponsesToolOutputType item.opened.decode.type = true := by rw [isCall.opened]; exact isCall.type
  simp [responsesStreamEventToChatChunks, added, opened]

theorem accepts_call (deltas : List String) (complete : String.join deltas = payload) (shown : trimSpace item.id ≠ "")
    (named : trimSpace item.decode.name ≠ "") (nodup : Distinct (calls ++ [ofOutput index item.decode payload])) :
    Turns calls text (calls ++ [ofOutput index item.decode payload]) text
      (runEmissions responsesStreamEventToChatChunks
        (added index item :: (deltas.map (callDelta index item.id) ++ [callDone index item.id payload]) ++
          [done index item])) := by
  rw [← isCall.id] at shown
  have called : (ofOutput index item.decode "").id ≠ "" := chatCallID_ne shown
  have found : ∀ call : TrackedCall, (calls ++ [call])[calls.length]? = some call := fun call => by simp
  have opening : ofOutput index item.opened.decode "" = ofOutput index item.decode "" := by
    rw [isCall.opened]
    rfl
  have streamed : (ofOutput index item.decode "").extend (String.join deltas) =
      ofOutput index item.decode payload := by
    simp [extend, ofOutput, complete]
  have first : Turns calls text (calls ++ [ofOutput index item.decode ""]) text
      (responsesStreamEventToChatChunks (added index item)) := by
    rw [step_added isCall, ← opening]
    refine Follows.accepts (follows_toolItem_open rfl rfl ?_ ?_ ?_ ?_)
    · rw [isCall.opened]; exact shown
    · rw [isCall.opened]; exact named
    · rw [isCall.opened]
    · rw [opening]
      exact ⟨by simpa [ofOutput] using nodup.outputs, by simpa [ofOutput] using nodup.items,
        by simpa [ofOutput] using nodup.callIDs⟩
  have middle : Turns (calls ++ [ofOutput index item.decode ""]) text (calls ++ [ofOutput index item.decode payload]) text
      (runEmissions responsesStreamEventToChatChunks (deltas.map (callDelta index item.id))) := by
    rw [← streamed]
    exact accepts_callDeltas item.id deltas called trimSpace_chatCallID
  have third : Turns (calls ++ [ofOutput index item.decode payload]) text (calls ++ [ofOutput index item.decode payload]) text
      (responsesStreamEventToChatChunks (callDone index item.id payload)) := by
    rw [step_callDone]
    refine Follows.accepts fun s m next => ⟨m, ?_, ?_⟩ <;> rw [next.tracked.flushPendingTool (found _) rfl]
    · rfl
    · exact next
  have last : Turns (calls ++ [ofOutput index item.decode payload]) text (calls ++ [ofOutput index item.decode payload]) text
      (responsesStreamEventToChatChunks (done index item)) := by
    rw [step_done isCall]
    exact Follows.accepts (follows_toolItem_again nodup (found _) rfl (.inl rfl) shown rfl isCall.arguments)
  exact accepts_runEmissions_cons first (accepts_runEmissions_append
    (accepts_runEmissions_append middle (accepts_runEmissions_single third)) (accepts_runEmissions_single last))

end

def itemCalls (index : Nat) (item : WireItem) : List TrackedCall :=
  match item with
  | .functionCall _ _ _ arguments => [ofOutput index item.decode arguments]
  | .customToolCall _ _ _ input => [ofOutput index item.decode input]
  | _ => []

def trackedFrom : Nat → List WireItem → List TrackedCall
  | _, [] => []
  | index, item :: items => itemCalls index item ++ trackedFrom (index + 1) items

section
variable {calls : List TrackedCall} {text : String} {index : Nat}

theorem accepts_quiet (quiet : ∀ s, responsesStreamEventToChatChunks event s = .ok (s, [])) :
    Turns calls text calls text (responsesStreamEventToChatChunks event) :=
  fun s m next => ⟨s, [], m, quiet s, rfl, next⟩

theorem accepts_messageParts (id : String) (parts : List MessagePart) :
    Turns calls text calls (text ++ String.join (parts.map MessagePart.delta))
      (runEmissions responsesStreamEventToChatChunks (parts.map (MessagePart.event index id))) := by
  induction parts generalizing text with
  | nil => simpa using accepts_runEmissions_nil
  | cons part rest ih =>
    rw [map_cons, map_cons, String.join_cons, ← String.append_assoc]
    refine accepts_runEmissions_cons ?_ ih
    cases part with
    | text d => exact (follows_textDelta d).accepts
    | annotated type entries =>
      rw [show MessagePart.delta (.annotated type entries) = "" from rfl, String.append_empty]
      exact accepts_annotationDelta type entries
    | done whole =>
      rw [show MessagePart.delta (.done whole) = "" from rfl, String.append_empty]
      exact accepts_quiet fun s => rfl

theorem accepts_reasoningParts (id : String) (parts : List ReasoningPart) :
    Turns calls text calls text
      (runEmissions responsesStreamEventToChatChunks (parts.map (ReasoningPart.event index id))) := by
  apply accepts_runEmissions
  intro event mem
  obtain ⟨part, _, rfl⟩ := mem_map.mp mem
  cases part with
  | delta piece => exact (follows_reasoningDelta piece).accepts
  | done whole =>
    intro s m next
    exact ⟨_, _, m, rfl, rfl, { next with tracked := { next.tracked with } }⟩

theorem accepts_item {deltas : List ResponsesStreamResponse} (events : ItemDeltas index item deltas)
    (proper : item.Proper) (nodup : Distinct (calls ++ itemCalls index item)) :
    Turns calls text (calls ++ itemCalls index item) (text ++ item.messageText)
      (runEmissions responsesStreamEventToChatChunks (added index item :: deltas ++ [done index item])) := by
  obtain ⟨shown, rest⟩ := proper
  cases events with
  | message parts complete =>
    rename_i id role content
    have texts : Turns calls text calls (text ++ outputText content)
        (runEmissions responsesStreamEventToChatChunks (parts.map (MessagePart.event index id))) := by
      rw [← complete]
      exact accepts_messageParts id parts
    simp only [itemCalls, append_nil]
    exact accepts_runEmissions_append (accepts_runEmissions_cons (accepts_quiet fun s => rfl) texts)
      (accepts_runEmissions_single (accepts_quiet fun s => rfl))
  | reasoning parts =>
    rename_i id content summary
    simp only [itemCalls, append_nil, WireItem.messageText, String.append_empty]
    exact accepts_runEmissions_append (accepts_runEmissions_cons (accepts_quiet fun s => rfl)
      (accepts_reasoningParts id parts)) (accepts_runEmissions_single (accepts_quiet fun s => rfl))
  | functionCall deltas complete =>
    simp only [WireItem.messageText, String.append_empty]
    exact accepts_call (callItem_functionCall _ _ _ _) deltas complete shown rest nodup
  | customToolCall deltas complete =>
    simp only [WireItem.messageText, String.append_empty]
    exact accepts_call (callItem_customToolCall _ _ _ _) deltas complete shown rest nodup

theorem accepts_output (stream : OutputEvents index items events) (proper : ∀ item ∈ items, item.Proper)
    (nodup : Distinct (calls ++ trackedFrom index items)) :
    Turns calls text (calls ++ trackedFrom index items) (text ++ String.join (items.map WireItem.messageText))
      (runEmissions responsesStreamEventToChatChunks events) := by
  induction stream generalizing calls text with
  | nil index => simpa [trackedFrom] using accepts_runEmissions_nil
  | @cons index item items deltas rest head tail ih =>
    rw [trackedFrom, ← append_assoc] at nodup ⊢
    rw [map_cons, String.join_cons, ← String.append_assoc,
      show added index item :: deltas ++ done index item :: rest =
        (added index item :: deltas ++ [done index item]) ++ rest by simp]
    exact accepts_runEmissions_append (accepts_item head (proper item mem_cons_self) nodup.left)
      (ih (fun other mem => proper other (mem_cons_of_mem item mem)) nodup)

end

section
variable {calls : List TrackedCall} {text : String}

theorem accepts_remainingAnnotations {out : ResponsesOutput} (offset : Nat)
    (objects : ∀ note ∈ outputAnnotations out, ∃ type entries, note = .object type entries) :
    Turns calls text calls text (remainingAnnotationChunks out offset) := by
  intro s m next
  have each : Turns calls text calls text
      (runEmissions annotationDelta ((outputAnnotations out).drop (s.sentAnnotationCount - offset))) := by
    apply accepts_runEmissions
    intro note mem
    obtain ⟨type, entries, rfl⟩ := objects note (mem_of_mem_drop mem)
    exact accepts_annotationDelta type entries
  exact each s m next

theorem follows_mention (isCall : CallItem item payload) (nodup : Distinct calls) (shown : trimSpace item.id ≠ "")
    (tracked : ofOutput index item.decode payload ∈ calls) :
    Follows readChunk (Following calls text) (Following calls text)
      (toolItem { type := .other, item := some item.decode } item.decode) := by
  obtain ⟨n, found⟩ := mem_iff_getElem?.mp tracked
  rw [← isCall.id] at shown
  exact follows_toolItem_again nodup found rfl (.inr rfl) shown rfl isCall.arguments

theorem accepts_terminalOutputChunk (hadSentText hadSentReasoning : Bool) (offset : Nat)
    (nodup : Distinct calls) (proper : item.Proper) (silent : hadSentText = false → item.messageText = "")
    (tracked : ∀ call ∈ itemCalls index item, call ∈ calls) :
    Turns calls text calls text (terminalOutputChunk hadSentText hadSentReasoning offset item.decode) := by
  obtain ⟨shown, rest⟩ := proper
  cases item with
  | message id role content =>
    have noText : Accepts (χ := String) readChunk (Following calls text) (Following calls text) fun s =>
        .ok (if hadSentText then (s, []) else textDelta (outputText content) s) := by
      cases hadSentText with
      | true => exact fun s m next => ⟨s, [], m, rfl, rfl, next⟩
      | false =>
        have empty : outputText content = "" := silent rfl
        simp only [empty]
        exact fun s m next => ⟨s, [], m, rfl, rfl, next⟩
    refine accepts_then noText (accepts_remainingAnnotations offset ?_)
    intro annotation mem
    obtain ⟨part, inside, here⟩ := mem_flatMap.mp mem
    exact rest.2 part inside annotation here
  | reasoning id content summary =>
    cases hadSentReasoning with
    | true => exact fun s m next => ⟨s, [], m, rfl, rfl, next⟩
    | false => exact (follows_reasoningDelta _).accepts
  | functionCall id callId name arguments =>
    exact (follows_mention (callItem_functionCall id callId name arguments) nodup shown
      (tracked _ mem_cons_self)).accepts
  | customToolCall id callId name input =>
    exact (follows_mention (callItem_customToolCall id callId name input) nodup shown
      (tracked _ mem_cons_self)).accepts

theorem accepts_terminalOutputFrom (hadSentText hadSentReasoning : Bool) (offset : Nat)
    (nodup : Distinct calls) (proper : ∀ item ∈ items, item.Proper)
    (silent : hadSentText = false → ∀ item ∈ items, item.messageText = "")
    (tracked : ∀ call ∈ trackedFrom index items, call ∈ calls) :
    Turns calls text calls text
      (terminalOutputFrom hadSentText hadSentReasoning offset (items.map WireItem.decode)) := by
  induction items generalizing offset index with
  | nil => exact fun s m next => ⟨s, [], m, rfl, rfl, next⟩
  | cons item items ih =>
    refine accepts_then (accepts_terminalOutputChunk hadSentText hadSentReasoning offset nodup
      (proper item mem_cons_self) (fun unsent => silent unsent item mem_cons_self)
      (fun call mem => tracked call (mem_append_left _ mem))) ?_
    exact ih _ (fun other mem => proper other (mem_cons_of_mem item mem))
      (fun unsent other mem => silent unsent other (mem_cons_of_mem item mem))
      (fun call mem => tracked call (mem_append_right _ mem))

structure Finished (calls : List TrackedCall) (text : String) (reason : FinishReason) (m : ChatMessage) : Prop where
  started : m.started = true
  content : m.content = text
  toolCalls : m.toolCalls = calls.map chat
  finishReason : m.finishReason = some reason

theorem follows_finalize (resp : Option OpenAIResponsesResponse) :
    Follows readChunk (Following calls text) (fun _ m => Finished calls text
        ((responsesFinishReasonFromStatus resp).getD (if calls = [] then .stop else .toolCalls)) m)
      (finalize resp) := by
  intro s m next
  obtain ⟨tracked, begun, reading, unfinished, content, sentText, toolCalls⟩ := next
  have flushed : flushAllPendingTools { s with finalized := true } = ({ s with finalized := true }, []) :=
    Tracked.flushAllPendingTools { tracked with }
  have saw : (if s.sawToolCall then FinishReason.toolCalls else .stop) = if calls = [] then .stop else .toolCalls := by
    rw [tracked.saw]
    cases calls <;> rfl
  refine ⟨{ m with
    started := true
    finishReason := some ((responsesFinishReasonFromStatus resp).getD (if calls = [] then .stop else .toolCalls)) },
    ?_, rfl, content, toolCalls, rfl⟩
  simp only [finalize, unfinished, Bool.false_eq_true, if_false, Emission.andThen, flushed, nil_append]
  refine reads_append_of readChunk (reads_ensureStart begun) ?_
  rw [ensureStart_state]
  cases s.includeUsage <;> simp [finishChunks, reads_cons, readChunk, reading, saw]

end

theorem trackedFrom_sublist (index : Nat) (items : List WireItem) :
    ((trackedFrom index items).map fun call => (call.output, call.itemID, call.callID)).Sublist
      ((items.zipIdx index).map fun e => (e.2, trimSpace e.1.id, trimSpace e.1.callId)) := by
  induction items generalizing index with
  | nil => exact List.Sublist.refl []
  | cons item items ih =>
    rw [trackedFrom, map_append, zipIdx_cons, map_cons]
    cases item with
    | message _ _ _ | reasoning _ _ _ => exact (ih (index + 1)).cons _
    | functionCall _ _ _ _ | customToolCall _ _ _ _ => exact (ih (index + 1)).cons_cons _

theorem WireResponse.WellFormed.distinct (wellFormed : resp.WellFormed) : Distinct (trackedFrom 0 resp.items) := by
  have inOrder := trackedFrom_sublist 0 resp.items
  have ofItem (read : WireItem → String) : (resp.items.zipIdx.map fun e => read e.1) = resp.items.map read :=
    (map_map ..).symm.trans (congrArg _ (zipIdx_map_fst ..))
  have outputs := inOrder.map (·.1)
  have items := inOrder.map (·.2.1)
  have callIDs := inOrder.map (·.2.2)
  simp only [map_map, Function.comp_def] at outputs items callIDs
  rw [ofItem fun item => trimSpace item.id] at items
  rw [ofItem fun item => trimSpace item.callId] at callIDs
  exact ⟨List.Nodup.sublist outputs (zipIdx_map_snd 0 resp.items ▸ nodup_range'), wellFormed.ids.sublist items,
    wellFormed.callIDs.sublist (callIDs.filter _)⟩

theorem join_eq_empty_iff (texts : List String) : String.join texts = "" ↔ ∀ text ∈ texts, text = "" := by
  induction texts with
  | nil => simp
  | cons first rest ih => simp [String.join_cons, String.append_eq_empty_iff, ih]

theorem accepts_stream (wellFormed : resp.WellFormed) (stream : EventStream resp events) :
    Accepts readChunk (Following [] "")
      (fun _ m => Finished (trackedFrom 0 resp.items) (String.join (resp.items.map WireItem.messageText))
        ((responsesFinishReasonFromStatus (some resp.decode)).getD
          (if trackedFrom 0 resp.items = [] then .stop else .toolCalls)) m)
      (runEmissions responsesStreamEventToChatChunks events) := by
  obtain @⟨made, outputEvents, output⟩ := stream
  have opening : Turns [] "" [] ""
      (runEmissions responsesStreamEventToChatChunks (if made then [{ type := .created }] else [])) := by
    cases made with
    | true => exact accepts_runEmissions_single follows_ensureStart.accepts
    | false => exact accepts_runEmissions_nil
  have body : Turns [] "" (trackedFrom 0 resp.items) (String.join (resp.items.map WireItem.messageText))
      (runEmissions responsesStreamEventToChatChunks outputEvents) := by
    have all : Turns [] "" ([] ++ trackedFrom 0 resp.items) ("" ++ String.join (resp.items.map WireItem.messageText))
        (runEmissions responsesStreamEventToChatChunks outputEvents) :=
      accepts_output output wellFormed.proper wellFormed.distinct
    rwa [nil_append, String.empty_append] at all
  have replay : Turns (trackedFrom 0 resp.items) (String.join (resp.items.map WireItem.messageText)) (trackedFrom 0 resp.items)
      (String.join (resp.items.map WireItem.messageText))
      (terminalOutputChunks (some resp.decode)) := by
    intro s m next
    have tracked : ∀ call ∈ trackedFrom 0 resp.items, call ∈ trackedFrom 0 resp.items := fun call mem => mem
    refine accepts_terminalOutputFrom s.hasSentText s.hasSentReasoning 0 wellFormed.distinct wellFormed.proper ?_ tracked
      s m next
    intro unsent item mem
    rw [next.sentText, decide_eq_false_iff_not, not_not, join_eq_empty_iff] at unsent
    exact unsent _ (mem_map_of_mem mem)
  exact accepts_runEmissions_append (accepts_runEmissions_append opening body)
    (accepts_runEmissions_single (accepts_then replay (follows_finalize (some resp.decode)).accepts))

end Wildflow.Relay.ResponsesToChat
