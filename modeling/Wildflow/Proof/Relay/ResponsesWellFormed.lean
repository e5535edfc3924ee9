import Wildflow.Proof.Relay.ResponsesEnds

/-!
# Well-formed Responses streams

The terminal response reports the done items again, with the id and status of that moment. A stream is well formed as
long as these have not moved since.
-/

namespace Wildflow.Relay.ChatToResponses
open Wildflow.Store ChatToResponsesStreamState
variable {choice : ChatChoice} {chunk : ChatCompletionsStreamResponse}
  {part : ChatToResponsesStreamState × List ResponsesEvent} {tool : ChatToResponsesStreamTool}
  {start : HostedToolStreamStart} {index : Int} {delta : String} {toolCall : ToolCallResponse}

inductive StreamInput where
  | chunk (chunk : ChatCompletionsStreamResponse)
  | startHosted (start : HostedToolStreamStart)
  | completeHosted (result : HostedToolStreamResult)

def streamStep : StreamInput → ChatToResponsesStreamState →
    Except String (ChatToResponsesStreamState × List ResponsesEvent)
  | .chunk chunk => chatCompletionsStreamChunkToResponsesEvents chunk
  | .startHosted start => startHostedTool start
  | .completeHosted result => completeHostedTool result

inductive StreamEnd where
  | finalize
  | fail (code message param : String)

def streamEnd : StreamEnd → Emission ChatToResponsesStreamState ResponsesEvent
  | .finalize => finalizeChatCompletionsStreamToResponses
  | .fail code message param => failStream code message param

section
variable (s : ChatToResponsesStreamState)

def Unsettled : Prop :=
  s.textDone = false ∧ s.reasoningDone = false ∧ ∀ entry ∈ s.toolsByIndex.rows, entry.2.done = false

def HostedIdle : Prop := ∀ entry ∈ s.hostedByID.rows, entry.2.done = true

def HostedOnly : Prop :=
  s.textStarted = false ∧ s.reasoningStarted = false ∧ s.toolsByIndex.rows = []

end

instance (s : ChatToResponsesStreamState) : Decidable (Unsettled s) := by unfold Unsettled; infer_instance
instance (s : ChatToResponsesStreamState) : Decidable (HostedIdle s) := by unfold HostedIdle; infer_instance
instance (s : ChatToResponsesStreamState) : Decidable (HostedOnly s) := by unfold HostedOnly; infer_instance

def writesText (delta : ChatDelta) : Bool :=
  delta.content ≠ "" || match delta.annotations with
    | some (.list (_ :: _)) => true
    | _ => false

section
variable (s : ChatToResponsesStreamState)

/-- A finish reason leaves the status of done items, and no hosted call is running that would change it. -/
def FinishGuard (delta : ChatDelta) (reason : String) : Prop :=
  ((s.applyFinishReason reason).outputStatus = s.outputStatus ∨ Unsettled s) ∧
    (HostedIdle s ∨ (s.applyFinishReason reason).outputStatus = "incomplete" ∨ (HostedOnly s ∧ delta = {}))

def ChoiceGuard (choice : ChatChoice) : Prop :=
  (writesText choice.delta → s.textDone = false) ∧ (choice.delta.reasoning ≠ "" → s.reasoningDone = false) ∧
    ∀ reason ∈ choice.finishReason, trimSpace reason ≠ "" → FinishGuard s choice.delta reason

def chunkState (chunk : ChatCompletionsStreamResponse) : ChatToResponsesStreamState :=
  (ensureCreated { s with id := if s.id = "" then chunk.id else s.id }).1

def InputGuard : StreamInput → Prop
  | .chunk chunk =>
    (s.id ≠ "" ∨ chunk.id = "" ∨ (s.textDone = false ∧ s.reasoningDone = false)) ∧
      GuardedRun choiceEvents ChoiceGuard (chunkState s chunk) chunk.choices
  | _ => True

def EndGuard : StreamEnd → Prop
  | .finalize => s.sentCreated = true ∧ (HostedIdle s ∨ s.outputStatus = "incomplete" ∨ HostedOnly s)
  | .fail _ _ _ => s.outputStatus = "incomplete" ∨ Unsettled s

end

instance (s : ChatToResponsesStreamState) (delta : ChatDelta) (reason : String) : Decidable (FinishGuard s delta reason) := by
  unfold FinishGuard; infer_instance
instance (s : ChatToResponsesStreamState) (choice : ChatChoice) : Decidable (ChoiceGuard s choice) := by
  unfold ChoiceGuard; infer_instance
instance (s : ChatToResponsesStreamState) (input : StreamInput) : Decidable (InputGuard s input) := by
  cases input <;> unfold InputGuard <;> infer_instance
instance (s : ChatToResponsesStreamState) (last : StreamEnd) : Decidable (EndGuard s last) := by
  cases last <;> unfold EndGuard <;> infer_instance

section
variable {s s' : ChatToResponsesStreamState} {events : List ResponsesEvent}

structure Within (s s' : ChatToResponsesStreamState) : Prop where
  status : s'.status = s.status
  hosted : s'.hostedByID = s.hostedByID
  text : s'.textDone = s.textDone
  reasoning : s'.reasoningDone = s.reasoningDone
  tools : ToolsOpen s → ToolsOpen s'

theorem Within.refl : Within s s := ⟨rfl, rfl, rfl, rfl, fun opened => opened⟩

theorem Within.trans {s'' : ChatToResponsesStreamState} (first : Within s s') (second : Within s' s'') : Within s s'' :=
  ⟨second.status.trans first.status, second.hosted.trans first.hosted, second.text.trans first.text,
    second.reasoning.trans first.reasoning, fun opened => second.tools (first.tools opened)⟩

theorem within_startText : Within s (startText s).1 ∧ (startText s).1.textStarted = true := by
  unfold startText
  split
  · next begun => exact ⟨.refl, begun⟩
  · exact ⟨⟨rfl, rfl, rfl, rfl, fun opened => opened⟩, rfl⟩

theorem within_startReasoning : Within s (startReasoning s).1 ∧ (startReasoning s).1.reasoningStarted = true := by
  unfold startReasoning
  split
  · next begun => exact ⟨.refl, begun⟩
  · exact ⟨⟨rfl, rfl, rfl, rfl, fun opened => opened⟩, rfl⟩

theorem within_setTool (undone : tool.done = false) :
    Within s { s with toolsByIndex := s.toolsByIndex.set index tool } := by
  refine ⟨rfl, rfl, rfl, rfl, ?_⟩
  intro opened other found here
  rw [Dict.get_set] at here
  split at here
  · cases here
    exact undone
  · exact opened other found here

theorem within_startTool (toolCall : ToolCallResponse) : Within s (startTool index toolCall s).1 := by
  unfold startTool
  split
  · exact .refl
  · have allocated : Within s (s.allocate (.tool index)) := ⟨rfl, rfl, rfl, rfl, fun opened => opened⟩
    exact allocated.trans (within_setTool rfl)

theorem identifyTool_ok {known : ChatToResponsesStreamTool}
    (identified : identifyTool index toolCall known = .ok tool) :
    known.done = false ∧ tool.done = false ∧ tool.outputIndex = known.outputIndex ∧ tool.arguments = known.arguments := by
  unfold identifyTool at identified
  dsimp only at identified
  split at identified
  · cases identified
  next undone =>
  split at identified
  · cases identified
  split at identified
  · cases identified
  · cases identified
    have fresh : known.done = false := by simpa using undone
    exact ⟨fresh, fresh, rfl, rfl⟩

theorem told_written {append : String → Emission ChatToResponsesStreamState ResponsesEvent} (sound : Sound s)
    (appended : delta ≠ "" → Told s (append delta s) ∧ Within s (append delta s).1)
    (ran : (if delta = "" then (s, []) else append delta s) = part) : Told s part ∧ Within s part.1 := by
  subst ran
  split
  · exact ⟨told_nothing sound, .refl⟩
  · next written => exact appended written

section
variable (sound : Sound s) (made : s.sentCreated = true)
include sound made

theorem told_appendTextDelta (undone : s.textDone = false)
    (delta : String) : Told s (appendTextDelta delta s) ∧ Within s (appendTextDelta delta s).1 := by
  have opening := told_startText sound made
  obtain ⟨within, begun⟩ := within_startText (s := s)
  refine ⟨opening.then (told_textDelta opening.2 begun (within.text.trans undone) delta), within.trans ?_⟩
  exact ⟨rfl, rfl, rfl, rfl, fun opened => opened⟩

theorem told_appendAnnotationDelta {raw : RawAnnotations}
    (undone : ∀ note more, raw = .list (note :: more) → s.textDone = false)
    (ran : appendAnnotationDelta raw s = .ok (s', events)) : Told s (s', events) ∧ Within s s' := by
  cases raw with
  | invalid => cases ran
  | list notes =>
    cases ran
    have opening := told_startText sound made
    obtain ⟨within, begun⟩ := within_startText (s := s)
    cases notes with
    | nil => exact ⟨opening.then (told_nothing opening.2), within⟩
    | cons note more =>
      -- the annotations are written one by one into the text that is open
      have open_ : (startText s).1.textDone = false := within.text.trans (undone note more rfl)
      have each : ∀ (notes : List Annotation) (s : ChatToResponsesStreamState), Sound s → s.textStarted = true →
          s.textDone = false → Told s (Emission.each annotate notes s) ∧
            Within s (Emission.each annotate notes s).1 := by
        intro notes
        induction notes with
        | nil => exact fun s sound _ _ => ⟨told_nothing sound, .refl⟩
        | cons first rest ih =>
          intro s sound begun undone
          have here := told_annotate sound begun undone first
          obtain ⟨later, keeps⟩ := ih (annotate first s).1 here.2 begun undone
          have within : Within s (annotate first s).1 := ⟨rfl, rfl, rfl, rfl, fun opened => opened⟩
          exact ⟨here.then later, within.trans keeps⟩
      obtain ⟨written, keeps⟩ := each ((note :: more).map chatAnnotationToResponses) _ opening.2 begun open_
      exact ⟨opening.then written, within.trans keeps⟩

theorem told_appendReasoningDelta (undone : s.reasoningDone = false)
    (delta : String) : Told s (appendReasoningDelta delta s) ∧ Within s (appendReasoningDelta delta s).1 := by
  have opening := told_startReasoning sound made
  obtain ⟨within, begun⟩ := within_startReasoning (s := s)
  refine ⟨opening.then (told_reasoningDelta opening.2 begun (within.reasoning.trans undone) delta), within.trans ?_⟩
  exact ⟨rfl, rfl, rfl, rfl, fun opened => opened⟩

theorem told_appendToolCallDelta
    (ran : appendToolCallDelta toolCall s = .ok (s', events)) : Told s (s', events) ∧ Within s s' := by
  unfold appendToolCallDelta at ran
  dsimp only at ran
  have opening : Told s (startTool (toolCall.index.getD 0) toolCall s) := told_startTool sound made toolCall
  have within : Within s (startTool (toolCall.index.getD 0) toolCall s).1 := within_startTool toolCall
  generalize startTool (toolCall.index.getD 0) toolCall s = opened at ran opening within
  split at ran
  · cases ran
    exact ⟨opening, within⟩
  · next known found =>
    obtain ⟨tool, identified, same⟩ := except_bind_ok.mp ran
    obtain ⟨undone, still, place, kept⟩ := identifyTool_ok identified
    cases same
    refine ⟨opening.then ?_, within.trans (within_setTool still)⟩
    rw [place]
    apply told_setTool opening.2 found undone
    · exact still
    · rfl
    · exact congrArg (· ++ toolCall.arguments) kept

theorem told_toolCalls {calls : List ToolCallResponse}
    (ran : runEmissions appendToolCallDelta calls s = .ok (s', events)) : Told s (s', events) ∧ Within s s' := by
  induction calls generalizing s events with
  | nil =>
    cases ran
    exact ⟨told_nothing sound, .refl⟩
  | cons toolCall rest ih =>
    obtain ⟨first, ranFirst, others⟩ := except_bind_ok.mp ran
    obtain ⟨later, ranLater, same⟩ := except_bind_ok.mp others
    cases same
    obtain ⟨here, within⟩ := told_appendToolCallDelta sound made ranFirst
    obtain ⟨onwards, keeps⟩ := ih here.2 (here.created made) ranLater
    exact ⟨here.then onwards, within.trans keeps⟩

theorem told_deltas
    (text : writesText choice.delta → s.textDone = false) (reasoning : choice.delta.reasoning ≠ "" → s.reasoningDone = false)
    (ran : choiceEvents choice s = .ok (s', events)) :
    ∃ middle before, Told s (middle, before) ∧ Within s middle ∧ (choice.delta = {} → middle = s) ∧
      s' = (finishChoice choice.finishReason middle).1 ∧
      events = before ++ (finishChoice choice.finishReason middle).2 := by
  obtain ⟨delta, reason⟩ := choice
  unfold choiceEvents at ran
  dsimp only at ran text reasoning
  by_cases silent : delta = {}
  · subst silent
    cases ran
    exact ⟨s, [], told_nothing sound, .refl, fun _ => rfl, rfl, rfl⟩
  generalize reasoned : (if delta.reasoning = "" then (s, []) else appendReasoningDelta delta.reasoning s) = first at ran
  obtain ⟨toldFirst, withinFirst⟩ := told_written sound
    (fun some => told_appendReasoningDelta sound made (reasoning some) _) reasoned
  generalize written : (if delta.content = "" then (first.1, []) else appendTextDelta delta.content first.1) = second at ran
  have textOpen : writesText delta → first.1.textDone = false := fun writes => withinFirst.text.trans (text writes)
  obtain ⟨toldSecond, withinSecond⟩ := told_written toldFirst.2
    (fun some => told_appendTextDelta toldFirst.2 (toldFirst.created made) (textOpen (by simp [writesText, some])) _) written
  have toldTwo := toldFirst.then toldSecond
  obtain ⟨third, thirdPart, rest⟩ : ∃ third, (Told second.1 third ∧ Within second.1 third.1) ∧ (do
        let calls ← runEmissions appendToolCallDelta delta.toolCalls third.1
        pure ((finishChoice reason calls.1).1,
          first.2 ++ second.2 ++ third.2 ++ calls.2 ++ (finishChoice reason calls.1).2)) =
        Except.ok (s', events) := by
    split at ran
    · exact ⟨(second.1, []), ⟨told_nothing toldSecond.2, .refl⟩, ran⟩
    · next raw present =>
      obtain ⟨third, annotated, rest⟩ := except_bind_ok.mp ran
      refine ⟨third, told_appendAnnotationDelta toldSecond.2 (toldTwo.created made) ?_ annotated, rest⟩
      intro note more same
      refine withinSecond.text.trans (textOpen ?_)
      simp [writesText, present, same]
  obtain ⟨fourth, called, same⟩ := except_bind_ok.mp rest
  have toldThree := toldTwo.then thirdPart.1
  obtain ⟨toldFourth, withinFourth⟩ := told_toolCalls thirdPart.1.2 (toldThree.created made) called
  cases same
  exact ⟨fourth.1, _, toldThree.then toldFourth,
    ((withinFirst.trans withinSecond).trans thirdPart.2).trans withinFourth, fun empty => absurd empty silent, rfl, rfl⟩

end

theorem steady_of_guard (guard : HostedIdle s ∨ s.outputStatus = "incomplete" ∨ HostedOnly s) : Steady s := by
  rcases guard with idle | incomplete | ⟨noText, noReasoning, noTools⟩
  · exact .inl fun callID tool found => idle _ (Dict.mem_rows_of_get found)
  · exact .inr (.inl incomplete)
  · refine .inr (.inr ⟨noText, noReasoning, ?_⟩)
    intro index
    by_contra present
    obtain ⟨tool, found⟩ := Option.ne_none_iff_exists'.mp present
    have mem := Dict.mem_rows_of_get found
    rw [noTools] at mem
    cases mem

theorem Unsettled.opened (unsettled : Unsettled s) : s.textDone = false ∧ s.reasoningDone = false ∧ ToolsOpen s :=
  ⟨unsettled.1, unsettled.2.1, fun _ _ found => unsettled.2.2 _ (Dict.mem_rows_of_get found)⟩

theorem applyFinishReason_eq (reason : String) : ∃ status why, ∀ s : ChatToResponsesStreamState,
    s.applyFinishReason reason = { s with status, incompleteReason := why } := ⟨_, _, fun _ => rfl⟩

theorem told_finish {delta : ChatDelta} {middle : ChatToResponsesStreamState} {reason : String} (sound : Sound middle)
    (within : Within s middle) (silent : delta = {} → middle = s) (guard : FinishGuard s delta reason) :
    Told middle (doneDeltaEvents (middle.applyFinishReason reason)) := by
  obtain ⟨quiet, ends⟩ := guard
  obtain ⟨status, why, applied⟩ := applyFinishReason_eq reason
  rw [applied] at quiet ends ⊢
  have sameStatus : middle.outputStatus = s.outputStatus := by simp [outputStatus, within.status]
  have turned : Told middle ({ middle with status, incompleteReason := why }, []) := by
    refine told_status sound ?_
    rcases quiet with same | unsettled
    · left
      rw [sameStatus]
      exact same
    · obtain ⟨text, reasoning, tools⟩ := unsettled.opened
      exact .inr ⟨within.text.trans text, within.reasoning.trans reasoning, within.tools tools⟩
  have steady : Steady { middle with status, incompleteReason := why } := by
    apply steady_of_guard
    rcases ends with idle | incomplete | ⟨alone, empty⟩
    · grind [HostedIdle, within.hosted]
    · exact .inr (.inl incomplete)
    · rw [silent empty]
      exact .inr (.inr alone)
  exact turned.then (told_doneDeltaEvents turned.2 steady)

theorem told_choice (guard : ChoiceGuard s choice) (sound : Sound s) (made : s.sentCreated = true)
    (ran : choiceEvents choice s = .ok (s', events)) : Told s (s', events) := by
  obtain ⟨text, reasoning, finish⟩ := guard
  obtain ⟨middle, before, told, within, silent, rfl, rfl⟩ := told_deltas sound made text reasoning ran
  have soundMiddle : Sound middle := told.2
  have finished : Told middle (finishChoice choice.finishReason middle) := by
    unfold finishChoice
    split
    · exact told_nothing soundMiddle
    · next reason given =>
      split
      · exact told_nothing soundMiddle
      · next named => exact told_finish soundMiddle within silent (finish reason given named)
  exact told.then finished

theorem told_identified (sound : Sound s)
    (guard : s.id ≠ "" ∨ chunk.id = "" ∨ (s.textDone = false ∧ s.reasoningDone = false)) :
    Told s ({ s with id := if s.id = "" then chunk.id else s.id }, []) := by
  refine told_silent { sound with placed := placed_keep sound rfl (fun ref => by cases ref <;> rfl) } rfl rfl ?_
  have settled : (if s.id = "" then chunk.id else s.id) = s.id ∨ (s.textDone = false ∧ s.reasoningDone = false) := by
    rcases guard with known | unnamed | unsettled
    · exact .inl (if_neg known)
    · left
      split
      · next empty => rw [unnamed, empty]
      · rfl
    · exact .inr unsettled
  intro ref
  rcases settled with same | ⟨text, reasoning⟩
  · rw [same]
  · cases ref with
    | message => simp [itemOf, text]
    | reasoning => simp [itemOf, reasoning]
    | _ => rfl

theorem told_choices {choices : List ChatChoice} (guarded : GuardedRun choiceEvents ChoiceGuard s choices) (sound : Sound s)
    (made : s.sentCreated = true) (ran : runEmissions choiceEvents choices s = .ok (s', events)) :
    Told s (s', events) := by
  have each : ∀ choice s m s' events, ChoiceGuard s choice → Reading (·.sentCreated = true) s m →
      choiceEvents choice s = .ok (s', events) →
      ∃ m', reads readEvent m events = some m' ∧ Reading (·.sentCreated = true) s' m' := by
    rintro choice s m s' events guard ⟨rfl, sound, made⟩ ran
    have told := told_choice guard sound made ran
    exact ⟨_, told.1, rfl, told.2, told.created made⟩
  obtain ⟨m, read, rfl, soundAfter, _⟩ := runEmissions_follows each guarded ⟨rfl, sound, made⟩ ran
  exact ⟨read, soundAfter⟩

theorem ensureCreated_created : (ensureCreated s).1.sentCreated = true := by
  unfold ensureCreated
  split
  · next sent => exact sent
  · rfl

theorem told_chunk (guard : InputGuard s (.chunk chunk)) (sound : Sound s)
    (ran : chatCompletionsStreamChunkToResponsesEvents chunk s = .ok (s', events)) : Told s (s', events) := by
  obtain ⟨known, choices⟩ := guard
  have named := told_identified sound known
  have opening := told_ensureCreated named.2
  obtain ⟨last, ranChoices, same⟩ := except_bind_ok.mp ran
  cases same
  exact named.then (opening.then (told_choices choices opening.2 ensureCreated_created ranChoices))

theorem ensureCreated_withHosted (callID : String) (output : ResponsesOutput) :
    ensureCreated (withHosted s callID output) =
      (withHosted (ensureCreated s).1 callID output, (ensureCreated s).2) := by
  unfold ensureCreated
  change (if s.sentCreated = true then _ else _) = _
  split <;> rfl

theorem ensureCreated_frame :
    (ensureCreated s).1.nextOutputIndex = s.nextOutputIndex ∧ (ensureCreated s).1.hostedByID = s.hostedByID := by
  unfold ensureCreated
  split <;> exact ⟨rfl, rfl⟩

theorem type_hostedOutput {output : ResponsesOutput}
    (made : hostedOutput start = .ok output) : output.type = start.type := by
  unfold hostedOutput at made
  split at made
  · next search =>
    obtain ⟨action, _, same⟩ := except_bind_ok.mp made
    cases same
    rfl
  · next mcp =>
    split at made
    · cases made
    · obtain ⟨args, _, same⟩ := except_bind_ok.mp made
      cases same
      rfl
  · cases made
    rfl

theorem told_startHosted (sound : Sound s)
    (ran : startHostedTool start s = .ok (s', events)) : Told s (s', events) := by
  unfold startHostedTool at ran
  dsimp only at ran
  generalize trimSpace start.id = callID at ran
  split at ran
  · cases ran
  split at ran
  · cases ran
  next unknown =>
  split at ran
  · cases ran
  next supported =>
  split at ran
  · cases ran
  obtain ⟨output, made, same⟩ := except_bind_ok.mp ran
  have absent : s.hostedByID.get callID = none := by simpa using unknown
  have hosted : isHostedType output.type = true := by
    rw [type_hostedOutput made]
    simpa using supported
  have opening := told_ensureCreated sound
  obtain ⟨index, calls⟩ := ensureCreated_frame (s := s)
  have begun := told_startHostedEvents opening.2 ensureCreated_created (calls ▸ absent) hosted
  rw [index] at begun
  have swapped := ensureCreated_withHosted (s := s) callID output
  unfold withHosted at swapped
  rw [swapped] at same
  cases same
  exact opening.then begun

theorem told_completeHosted {res : HostedToolStreamResult} (sound : Sound s)
    (ran : completeHostedTool res s = .ok (s', events)) : Told s (s', events) := by
  unfold completeHostedTool at ran
  dsimp only at ran
  split at ran
  · cases ran
  next tool found =>
  split at ran
  · cases ran
  next undone =>
  split at ran
  · cases ran
  obtain ⟨output, made, same⟩ := except_bind_ok.mp ran
  cases same
  have undone : tool.done = false := by simpa using undone
  have here : slot s (.hosted (trimSpace res.id)) = some tool.outputIndex := by simp [slot, found]
  have opened : (itemOf s (.hosted (trimSpace res.id))).done = none := by
    simp [itemOf, found, hostedItem, undone]
  exact (told_hostedTerminalEvents sound here opened _ _).then
    (told_hostedDone sound found undone (payload_completedOutput made))

theorem told_input {input : StreamInput} (guard : InputGuard s input) (sound : Sound s)
    (ran : streamStep input s = .ok (s', events)) : Told s (s', events) := by
  cases input with
  | chunk chunk => exact told_chunk guard sound ran
  | startHosted start => exact told_startHosted sound ran
  | completeHosted res => exact told_completeHosted sound ran

theorem told_end {last : StreamEnd} (guard : EndGuard s last) (sound : Sound s) :
    ∃ m, reads readEvent (readerOf s) (streamEnd last s).2 = some m ∧ m.ended = true := by
  cases last with
  | finalize => exact finalize_read sound guard.1 (steady_of_guard guard.2)
  | fail code msg param => exact fail_read sound (guard.imp_right Unsettled.opened) code msg param

theorem sound_new (id : String) (emitSequenceNumber : Bool) :
    Sound (newChatToResponsesStreamState id emitSequenceNumber) where
  next := rfl
  placed := by
    intro index ref
    cases ref <;> simp [newChatToResponsesStreamState, slot]
  textFresh _ := ⟨rfl, rfl⟩
  reasoningFresh _ := ⟨rfl, rfl⟩
  begun filled := absurd rfl filled
  unfinalized := rfl

end

theorem stream_wellFormed {id : String} {emitSequenceNumber : Bool} {inputs : List StreamInput} {last : StreamEnd}
    {s : ChatToResponsesStreamState} {events : List ResponsesEvent}
    (guarded : GuardedRun streamStep InputGuard (newChatToResponsesStreamState id emitSequenceNumber) inputs)
    (ran : runEmissions streamStep inputs (newChatToResponsesStreamState id emitSequenceNumber) = .ok (s, events))
    (ends : EndGuard s last) : wellFormedStream (events ++ (streamEnd last s).2) = true := by
  have each : ∀ input s m s' events, InputGuard s input → Reading (fun _ => True) s m →
      streamStep input s = .ok (s', events) → ∃ m', reads readEvent m events = some m' ∧ Reading (fun _ => True) s' m' := by
    rintro input s m s' events guard ⟨rfl, sound, _⟩ ran
    have told := told_input guard sound ran
    exact ⟨_, told.1, rfl, told.2, trivial⟩
  obtain ⟨m, read, rfl, sound, _⟩ := runEmissions_follows each guarded ⟨rfl, sound_new id emitSequenceNumber, trivial⟩ ran
  obtain ⟨m, readEnd, ended⟩ := told_end ends sound
  have whole : reads readEvent {} (events ++ (streamEnd last s).2) = some m := reads_append_of readEvent read readEnd
  simp [wellFormedStream, whole, ended]

def searchStream : List StreamInput :=
  [.chunk { choices := [{ delta := { reasoning := "hm" } }] }, .startHosted { type := .webSearchCall, id := "ws" },
    .chunk { choices := [{ delta := { content := "It is ", toolCalls := [{ id := "c", name := "f", arguments := "1" }] } }] },
    .completeHosted { type := none, id := "ws" },
    .chunk { choices := [{ delta := { content := "ok" }, finishReason := some "stop" }] }]

theorem stream_wellFormed_search : ∃ s events,
    runEmissions streamStep searchStream (newChatToResponsesStreamState "resp" true) = .ok (s, events) ∧
      wellFormedStream (events ++ (streamEnd .finalize s).2) = true := by
  have guarded : GuardedRun streamStep InputGuard (newChatToResponsesStreamState "resp" true) searchStream := by
    decide +kernel
  have ends : (match runEmissions streamStep searchStream (newChatToResponsesStreamState "resp" true) with
      | .ok (s, _) => decide (EndGuard s .finalize)
      | .error _ => false) = true := by decide +kernel
  split at ends
  · next s events ran => exact ⟨s, events, ran, stream_wellFormed guarded ran (of_decide_eq_true ends)⟩
  · cases ends

theorem text_after_finish_malformed :
    (match runEmissions streamStep
        [.chunk { choices := [{ delta := { content := "a" }, finishReason := some "stop" }] },
          .chunk { choices := [{ delta := { content := "b" } }] }] (newChatToResponsesStreamState "resp" true) with
      | .ok (s, events) => wellFormedStream (events ++ (streamEnd .finalize s).2)
      | .error _ => true) = false := by decide +kernel

end Wildflow.Relay.ChatToResponses
