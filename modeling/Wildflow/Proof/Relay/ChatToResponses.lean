import Wildflow.Proof.Relay.ResponsesReader

/-!
# What the converter tells its client

Each part of the converter moves the client along with it.
-/

namespace Wildflow.Relay.ChatToResponses
open Wildflow.Store ChatToResponsesStreamState

def Told (s : ChatToResponsesStreamState) (result : ChatToResponsesStreamState × List ResponsesEvent) : Prop :=
  reads readEvent (readerOf s) result.2 = some (readerOf result.1) ∧ Sound result.1

variable {s s' : ChatToResponsesStreamState} {ref : OutputRef}

theorem told_nothing (sound : Sound s) : Told s (s, []) := ⟨rfl, sound⟩

theorem told_silent (sound : Sound s') (order : s'.outputOrder = s.outputOrder) (sent : s'.sentCreated = s.sentCreated)
    (same : ∀ ref, itemOf s' ref = itemOf s ref) : Told s (s', []) :=
  ⟨congrArg some (readerOf_congr order sent same).symm, sound⟩

theorem told_single {ev : ResponsesEvent} (read : readEvent (readerOf s) ev = some (readerOf s'))
    (sound : Sound s') : Told s (s', [ev]) :=
  ⟨by rw [reads_cons, read]; rfl, sound⟩

theorem Told.then {events more : List ResponsesEvent} {s₁ s₂ : ChatToResponsesStreamState}
    (first : Told s (s₁, events)) (second : Told s₁ (s₂, more)) : Told s (s₂, events ++ more) :=
  ⟨reads_append_of readEvent first.1 second.1, second.2⟩

section
variable (sound : Sound s)
include sound

theorem told_ensureCreated : Told s (ensureCreated s) := by
  unfold ensureCreated
  split
  · exact told_nothing sound
  · next unsent =>
    have empty : s.outputOrder = [] := by
      by_contra filled
      exact unsent (sound.begun filled)
    apply told_single
    · simp [readEvent, readerOf, unsent, empty]
    · exact { sound with begun := fun _ => rfl, placed := placed_keep sound rfl (fun ref => by cases ref <;> rfl) }

theorem told_startText (made : s.sentCreated = true) : Told s (startText s) := by
  unfold startText
  split
  · exact told_nothing sound
  · next idle =>
    obtain ⟨noText, undone⟩ := sound.textFresh (Bool.not_eq_true _ ▸ idle)
    apply told_single
    · refine readEvent_added sound made rfl rfl ?_ ?_
      · simp [itemOf, allocate, noText, undone]
      · intro other _
        cases other <;> rfl
    · refine { sound with next := ?_, placed := ?_, textFresh := by simp, begun := fun _ => made }
      · simp [allocate, sound.next]
      apply placed_snoc sound rfl
      · simp [slot, idle]
      · rfl
      · intro other ne
        cases other <;> first | rfl | exact absurd rfl ne

theorem told_message {event : ResponsesEvent} {change : ReadItem → Option ReadItem} (begun : s.textStarted = true)
    (undone : s.textDone = false) {text : String} {textDone : Bool} {annotations : List Annotation}
    (reading : readOpened (readerOf s) event = onOpenItem (readerOf s) s.textOutputIndex change)
    (changed : change (itemOf s .message) = some (itemOf { s with text, textDone, annotations } .message)) :
    Told s ({ s with text, textDone, annotations }, [event]) := by
  apply told_single
  · refine readEvent_touch sound (by simp [slot, begun]) (by simp [itemOf, undone]) rfl rfl ?_ reading changed
    intro other ne
    cases other <;> first | rfl | exact absurd rfl ne
  · exact { sound with
      textFresh := by simp [begun], placed := placed_keep sound rfl (fun ref => by cases ref <;> rfl) }

theorem told_textDelta (begun : s.textStarted = true) (undone : s.textDone = false) (d : String) :
    Told s ({ s with text := s.text ++ d }, [.textDelta s.textOutputIndex d]) :=
  told_message sound begun undone rfl (by simp [itemOf, undone])

theorem told_annotate (begun : s.textStarted = true) (undone : s.textDone = false)
    (note : Annotation) : Told s (annotate note s) :=
  told_message sound begun undone rfl (by simp [itemOf, undone])

theorem told_closeText : Told s (closeText s.outputStatus s) := by
  unfold closeText
  split
  · next busy =>
    obtain ⟨begun, undone⟩ : s.textStarted = true ∧ s.textDone = false := by simpa using busy
    refine Told.then (told_message sound begun undone rfl ?_) (told_message sound begun undone rfl ?_)
    · cases emits : s.emitSequenceNumber <;> simp [agreeing, itemOf, undone]
    · simp [agreeing, itemOf, undone, payload, messageOutput, outputText, outputStatus, messageID]
  · exact told_nothing sound

theorem told_startReasoning (made : s.sentCreated = true) : Told s (startReasoning s) := by
  unfold startReasoning
  split
  · exact told_nothing sound
  · next idle =>
    obtain ⟨noText, undone⟩ := sound.reasoningFresh (Bool.not_eq_true _ ▸ idle)
    apply told_single
    · refine readEvent_added sound made rfl rfl ?_ ?_
      · simp [itemOf, allocate, noText, undone]
      · intro other _
        cases other <;> rfl
    · refine { sound with next := ?_, placed := ?_, reasoningFresh := by simp, begun := fun _ => made }
      · simp [allocate, sound.next]
      apply placed_snoc sound rfl
      · simp [slot, idle]
      · rfl
      · intro other ne
        cases other <;> first | rfl | exact absurd rfl ne

theorem told_reasoningItem {event : ResponsesEvent} {change : ReadItem → Option ReadItem}
    (begun : s.reasoningStarted = true) (undone : s.reasoningDone = false) {reasoning : String} {reasoningDone : Bool}
    (reading : readOpened (readerOf s) event = onOpenItem (readerOf s) s.reasoningIndex change)
    (changed : change (itemOf s .reasoning) = some (itemOf { s with reasoning, reasoningDone } .reasoning)) :
    Told s ({ s with reasoning, reasoningDone }, [event]) := by
  apply told_single
  · refine readEvent_touch sound (by simp [slot, begun]) (by simp [itemOf, undone]) rfl rfl ?_ reading changed
    intro other ne
    cases other <;> first | rfl | exact absurd rfl ne
  · exact { sound with
      reasoningFresh := by simp [begun], placed := placed_keep sound rfl (fun ref => by cases ref <;> rfl) }

theorem told_reasoningDelta (begun : s.reasoningStarted = true) (undone : s.reasoningDone = false) (d : String) :
    Told s ({ s with reasoning := s.reasoning ++ d }, [.reasoningDelta s.reasoningIndex d]) :=
  told_reasoningItem sound begun undone rfl (by simp [itemOf, undone])

theorem told_closeReasoning : Told s (closeReasoning s.outputStatus s) := by
  unfold closeReasoning
  split
  · next busy =>
    obtain ⟨begun, undone⟩ : s.reasoningStarted = true ∧ s.reasoningDone = false := by simpa using busy
    refine Told.then (told_reasoningItem sound begun undone rfl ?_) (told_reasoningItem sound begun undone rfl ?_)
    · simp [agreeing, itemOf, undone]
    · simp [agreeing, itemOf, undone, payload, reasoningOutput, outputStatus, reasoningID]
  · exact told_nothing sound

end

section
variable {index : Int} {tool changed : ChatToResponsesStreamTool}

theorem itemOf_set_tool (ne : ref ≠ .tool index) :
    itemOf { s with toolsByIndex := s.toolsByIndex.set index changed } ref = itemOf s ref := by
  cases ref with
  | tool other =>
    have apart : index ≠ other := fun same => ne (congrArg OutputRef.tool same.symm)
    simp [itemOf, Dict.get_set_of_ne _ apart, outputStatus]
  | _ => rfl

theorem sound_set_tool (sound : Sound s) (found : s.toolsByIndex.get index = some tool)
    (same : changed.outputIndex = tool.outputIndex) :
    Sound { s with toolsByIndex := s.toolsByIndex.set index changed } := by
  refine { sound with placed := placed_keep sound rfl ?_ }
  intro ref
  cases ref with
  | tool other => grind [slot]
  | _ => rfl

theorem told_startTool (sound : Sound s) (made : s.sentCreated = true) (call : ToolCallResponse) :
    Told s (startTool index call s) := by
  unfold startTool
  split
  · exact told_nothing sound
  · next absent =>
    apply told_single
    · refine readEvent_added sound made rfl rfl ?_ ?_
      · simp [itemOf, toolItem]
      intro other mem
      apply itemOf_set_tool (s := s.allocate (.tool index))
      rintro rfl
      obtain ⟨place, here⟩ := List.mem_iff_getElem?.mp mem
      have there := (sound.placed place _).mp here
      simp [slot, absent] at there
    · refine { sound with next := ?_, placed := ?_, begun := fun _ => made }
      · simp [allocate, sound.next]
      apply placed_snoc sound rfl
      · simp [slot, absent]
      · simp [slot]
      · intro other ne
        cases other with
        | tool chatIndex =>
          have apart : index ≠ chatIndex := fun same => ne (congrArg OutputRef.tool same.symm)
          simp [slot, Dict.get_set_of_ne _ apart]
        | _ => rfl

theorem tool_open (found : s.toolsByIndex.get index = some tool) (undone : ¬tool.done = true) :
    slot s (.tool index) = some tool.outputIndex ∧ (itemOf s (.tool index)).done = none := by
  simp [slot, itemOf, found, toolItem, undone]

theorem told_setTool (sound : Sound s) (found : s.toolsByIndex.get index = some tool) (undone : tool.done = false)
    (still : changed.done = false) (place : changed.outputIndex = tool.outputIndex) {d : String}
    (extended : changed.arguments = tool.arguments ++ d) :
    Told s ({ s with toolsByIndex := s.toolsByIndex.set index changed },
      if d = "" then [] else [.argumentsDelta tool.outputIndex d]) := by
  obtain ⟨here, opened⟩ := tool_open found (by simp [undone])
  have after := sound_set_tool sound found place
  have item : itemOf { s with toolsByIndex := s.toolsByIndex.set index changed } (.tool index) =
      { itemOf s (.tool index) with deltas := (itemOf s (.tool index)).deltas ++ d } := by
    simp [itemOf, found, toolItem, undone, still, extended]
  split
  · next empty =>
    refine told_silent after rfl rfl ?_
    intro other
    by_cases same : other = .tool index
    · rw [same, item, empty, String.append_empty]
    · exact itemOf_set_tool same
  · exact told_single (readEvent_touch sound here opened rfl rfl (fun other ne => itemOf_set_tool ne) rfl
      (by rw [item])) after

theorem told_closeTool (sound : Sound s) (index : Int) : Told s (closeTool s.outputStatus index s) := by
  unfold closeTool
  split
  · exact told_nothing sound
  next tool found =>
  split
  · exact told_nothing sound
  next undone =>
  obtain ⟨here, opened⟩ := tool_open found undone
  refine Told.then (told_single (readEvent_unchanged sound here opened rfl ?_) sound) (told_single
    (readEvent_touch sound here opened rfl rfl (fun other ne => itemOf_set_tool ne) rfl ?_)
    (sound_set_tool sound found rfl))
  · cases emits : s.emitSequenceNumber <;> simp [agreeing, itemOf, found, toolItem]
  · simp [agreeing, itemOf, found, toolItem, payload, toolOutput, outputStatus,
      ChatToResponsesStreamTool.callIDOrItem]

end

variable {id : String} {tool changed : ChatToResponsesHostedTool} {output : ResponsesOutput}

theorem itemOf_set_hosted (ne : ref ≠ .hosted id) :
    itemOf { s with hostedByID := s.hostedByID.set id changed } ref = itemOf s ref := by
  cases ref with
  | hosted other =>
    have apart : id ≠ other := fun same => ne (congrArg OutputRef.hosted same.symm)
    simp [itemOf, Dict.get_set_of_ne _ apart]
  | _ => rfl

theorem sound_set_hosted (sound : Sound s) (found : s.hostedByID.get id = some tool)
    (same : changed.outputIndex = tool.outputIndex) :
    Sound { s with hostedByID := s.hostedByID.set id changed } := by
  refine { sound with placed := placed_keep sound rfl ?_ }
  intro ref
  cases ref with
  | hosted other => grind [slot]
  | _ => rfl

def withHosted (s : ChatToResponsesStreamState) (id : String) (output : ResponsesOutput) : ChatToResponsesStreamState :=
  { s.allocate (.hosted id) with hostedByID := s.hostedByID.set id { outputIndex := s.nextOutputIndex, output } }

theorem itemOf_withHosted (ne : ref ≠ .hosted id) : itemOf (withHosted s id output) ref = itemOf s ref :=
  itemOf_set_hosted (s := s.allocate (.hosted id)) ne

theorem itemOf_withHosted_self : itemOf (withHosted s id output) (.hosted id) = { deltas := payload output } := by
  simp [itemOf, withHosted, hostedItem]

theorem slot_withHosted : slot (withHosted s id output) (.hosted id) = some s.nextOutputIndex := by
  simp [slot, withHosted]

theorem sound_withHosted (sound : Sound s) (made : s.sentCreated = true) (absent : s.hostedByID.get id = none) :
    Sound (withHosted s id output) := by
  refine { sound with next := ?_, placed := ?_, begun := fun _ => made }
  · simp [withHosted, allocate, sound.next]
  apply placed_snoc sound rfl
  · simp [slot, absent]
  · exact slot_withHosted
  · intro other ne
    cases other with
    | hosted otherID =>
      have apart : id ≠ otherID := fun same => ne (congrArg OutputRef.hosted same.symm)
      simp [slot, withHosted, Dict.get_set_of_ne _ apart]
    | _ => rfl

theorem told_hostedPhase {index : Nat} (sound : Sound s) (here : slot s ref = some index)
    (opened : (itemOf s ref).done = none) (type : OutputType) (phase : HostedPhase) :
    Told s (s, [.hosted index type phase]) :=
  told_single (readEvent_unchanged sound here opened rfl rfl) sound

theorem told_startHostedEvents (sound : Sound s) (made : s.sentCreated = true)
    (absent : s.hostedByID.get id = none) (supported : isHostedType output.type = true) :
    Told s (withHosted s id output, startHostedEvents s.nextOutputIndex output) := by
  -- the item is added without its arguments
  let announced := withHosted s id { output with arguments := "" }
  have soundAnnounced : Sound announced := sound_withHosted sound made absent
  have soundAfter : Sound (withHosted s id output) := sound_withHosted sound made absent
  have others : ∀ other, other ≠ .hosted id → itemOf (withHosted s id output) other = itemOf announced other :=
    fun other ne => (itemOf_withHosted ne).trans (itemOf_withHosted ne).symm
  have supportedType : output.type = .webSearchCall ∨ output.type = .mcpCall := by simpa [isHostedType] using supported
  have empty : payload { output with arguments := "" } = "" := by
    rcases supportedType with isType | isType <;> simp [payload, isType]
  have openedBefore : (itemOf announced (.hosted id)).done = none := by rw [itemOf_withHosted_self]
  have openedAfter : (itemOf (withHosted s id output) (.hosted id)).done = none := by rw [itemOf_withHosted_self]
  have added : Told s (announced, [.itemAdded s.nextOutputIndex { output with arguments := "" }]) := by
    refine told_single (readEvent_added sound made rfl rfl ?_ ?_) soundAnnounced
    · rw [itemOf_withHosted_self, empty]
    intro other mem
    apply itemOf_withHosted
    rintro rfl
    obtain ⟨place, here⟩ := List.mem_iff_getElem?.mp mem
    have there := (sound.placed place _).mp here
    simp [slot, absent] at there
  have begun := added.then (told_hostedPhase soundAnnounced slot_withHosted openedBefore output.type .inProgress)
  rcases supportedType with search | mcp
  · have silent : Told announced (withHosted s id output, []) := by
      refine told_silent soundAfter rfl rfl ?_
      intro other
      by_cases same : other = .hosted id
      · rw [same, itemOf_withHosted_self, itemOf_withHosted_self, empty]
        simp [payload, search]
      · exact others other same
    have searching := told_hostedPhase soundAfter slot_withHosted openedAfter output.type .searching
    simpa [startHostedEvents, search] using begun.then (silent.then searching)
  · have d : Told announced (withHosted s id output, [.argumentsDelta s.nextOutputIndex output.arguments]) := by
      refine told_single (readEvent_touch soundAnnounced slot_withHosted openedBefore rfl rfl others rfl ?_) soundAfter
      rw [itemOf_withHosted_self, itemOf_withHosted_self]
      simp [payload, mcp]
    have done : Told (withHosted s id output)
        (withHosted s id output, [.argumentsDone s.nextOutputIndex (some output.arguments)]) := by
      refine told_single (readEvent_unchanged soundAfter slot_withHosted openedAfter rfl ?_) soundAfter
      rw [itemOf_withHosted_self]
      simp [agreeing, payload, mcp]
    simpa [startHostedEvents, mcp] using begun.then (d.then done)

theorem told_hostedTerminalEvents {index : Nat} (sound : Sound s) (here : slot s ref = some index)
    (opened : (itemOf s ref).done = none) (type : OutputType) (failed : Bool) :
    Told s (s, hostedTerminalEvents index type failed) := by
  unfold hostedTerminalEvents
  split
  · exact told_nothing sound
  split
  · exact told_hostedPhase sound here opened type .completed
  split
  · exact told_hostedPhase sound here opened type .failed
  · exact told_nothing sound

theorem told_hostedDone (sound : Sound s) (found : s.hostedByID.get id = some tool) (undone : tool.done = false)
    (same : payload output = payload tool.output) :
    Told s ({ s with hostedByID := s.hostedByID.set id { tool with output, done := true } },
      [.itemDone tool.outputIndex output]) := by
  have here : slot s (.hosted id) = some tool.outputIndex := by simp [slot, found]
  have opened : (itemOf s (.hosted id)).done = none := by simp [itemOf, found, hostedItem, undone]
  refine told_single (readEvent_touch sound here opened rfl rfl (fun other ne => itemOf_set_hosted ne) rfl ?_)
    (sound_set_hosted sound found rfl)
  simp [agreeing, itemOf, found, hostedItem, same]

theorem payload_completedOutput {res : HostedToolStreamResult} {completed : ResponsesOutput}
    (done : completedOutput res output = .ok completed) : payload completed = payload output := by
  unfold completedOutput at done
  dsimp only at done
  split at done
  · obtain ⟨v, _, same⟩ := except_bind_ok.mp done
    cases same
    split <;> rfl
  · cases done
    rfl

end Wildflow.Relay.ChatToResponses
