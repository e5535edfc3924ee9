import Wildflow.Proof.Relay.ChatToResponses

/-!
# The ends of items and streams

Finish reasons, `Finalize` and `Fail` close what is open. The terminal response agrees with what was closed as long as
closing a hosted call does not turn the status that the other items were closed with.
-/

namespace Wildflow.Relay.ChatToResponses
open Wildflow.Store ChatToResponsesStreamState List
variable {tool : ChatToResponsesHostedTool} {status : StreamStatus} {callID : String} {reason : Option String}
  {event : ResponsesEvent} {resp : StreamedResponse}

variable {s : ChatToResponsesStreamState}

theorem created_of_readEvent {m m' : ResponseReader} (made : m.created = true)
    (read : readEvent m event = some m') : m'.created = true := by
  have onOpen : ∀ {i change}, onOpenItem m i change = some m' → m'.created = true := by
    intro i change touched
    unfold onOpenItem at touched
    split at touched
    · cases touched
    · split at touched
      · cases touched
      · obtain ⟨item, _, rfl⟩ := Option.map_eq_some_iff.mp touched
        exact made
  unfold readEvent at read
  rw [made] at read
  split at read
  · cases read
  split at read
  · cases read
  simp only [if_true] at read
  unfold readOpened at read
  grind [read]

theorem Told.created {res : ChatToResponsesStreamState × List ResponsesEvent} (told : Told s res)
    (made : s.sentCreated = true) : res.1.sentCreated = true := by
  have stays : ∀ (events : List ResponsesEvent) (m m' : ResponseReader), m.created = true →
      reads readEvent m events = some m' → m'.created = true := by
    intro events
    induction events with
    | nil =>
      intro m m' here read
      cases read
      exact here
    | cons event rest ih =>
      intro m m' here read
      rw [reads_cons] at read
      obtain ⟨next, readFirst, readRest⟩ := Option.bind_eq_some_iff.mp read
      exact ih next m' (created_of_readEvent here readFirst) readRest
  exact stays _ _ _ made told.1

def ToolsOpen (s : ChatToResponsesStreamState) : Prop :=
  ∀ index tool, s.toolsByIndex.get index = some tool → tool.done = false

theorem itemOf_status
    (quiet : ({ s with status, incompleteReason := reason } : ChatToResponsesStreamState).outputStatus = s.outputStatus ∨
      (s.textDone = false ∧ s.reasoningDone = false ∧ ToolsOpen s)) (ref : OutputRef) :
    itemOf { s with status, incompleteReason := reason } ref = itemOf s ref := by
  rcases quiet with same | ⟨text, reasoning, tools⟩
  · cases ref <;> simp only [itemOf, same] <;> rfl
  cases ref with
  | message => simp [itemOf, text]
  | reasoning => simp [itemOf, reasoning]
  | hosted callID => rfl
  | tool i =>
    cases found : s.toolsByIndex.get i with
    | none => simp [itemOf, found]
    | some tool => simp [itemOf, found, toolItem, tools i tool found]

def Steady (s : ChatToResponsesStreamState) : Prop :=
  (∀ callID tool, s.hostedByID.get callID = some tool → tool.done = true) ∨ s.outputStatus = "incomplete" ∨
    (s.textStarted = false ∧ s.reasoningStarted = false ∧ ∀ index, s.toolsByIndex.get index = none)

def Reading (holds : ChatToResponsesStreamState → Prop) (s : ChatToResponsesStreamState) (m : ResponseReader) : Prop :=
  m = readerOf s ∧ Sound s ∧ holds s

theorem follows_of_told {holds after : ChatToResponsesStreamState → Prop}
    {emission : Emission ChatToResponsesStreamState ResponsesEvent}
    (told : ∀ s, Sound s → holds s → Told s (emission s) ∧ after (emission s).1) :
    Follows readEvent (Reading holds) (Reading after) emission := by
  rintro s m ⟨rfl, sound, here⟩
  obtain ⟨⟨read, soundAfter⟩, there⟩ := told s sound here
  exact ⟨_, read, rfl, soundAfter, there⟩

def toolSettled (index : Int) (s : ChatToResponsesStreamState) : Prop :=
  ∀ tool, s.toolsByIndex.get index = some tool → tool.done = true

def hostedSettled (callID : String) (s : ChatToResponsesStreamState) : Prop :=
  ∀ tool, s.hostedByID.get callID = some tool → tool.done = true

theorem closeHosted_cases (callID : String) (s : ChatToResponsesStreamState) :
    ((closeHosted callID s).1 = s ∧ hostedSettled callID s) ∨ ∃ tool status, tool.done = true ∧
        (closeHosted callID s).1 = { s with status, hostedByID := s.hostedByID.set callID tool } := by
  unfold closeHosted hostedSettled
  cases found : s.hostedByID.get callID with
  | none => simp
  | some tool =>
    cases done : tool.done with
    | true => simp [done]
    | false => exact .inr ⟨_, _, rfl, by simp only [done]; rfl⟩

theorem closeHosted_sets (callID : String) (s : ChatToResponsesStreamState) :
    hostedSettled callID (closeHosted callID s).1 := by
  rcases closeHosted_cases callID s with ⟨same, settled⟩ | ⟨tool, _, done, same⟩
  · rw [same]
    exact settled
  rw [same]
  intro found here
  rw [Dict.get_set_self] at here
  cases here
  exact done

theorem closeHosted_keeps (callID other : String) (s : ChatToResponsesStreamState)
    (settled : hostedSettled other s) : hostedSettled other (closeHosted callID s).1 := by
  by_cases same : callID = other
  · subst same
    exact closeHosted_sets callID s
  rcases closeHosted_cases callID s with ⟨unchanged, _⟩ | ⟨tool, status, _, changed⟩
  · rwa [unchanged]
  · rw [changed]
    intro found here
    rw [Dict.get_set_of_ne _ same] at here
    exact settled found here

def Closing (status : String) (s : ChatToResponsesStreamState) : Prop := s.outputStatus = status ∧ Steady s

structure AllDone (s : ChatToResponsesStreamState) : Prop where
  text : s.textStarted = true → s.textDone = true
  reasoning : s.reasoningStarted = true → s.reasoningDone = true
  tools : ∀ index, toolSettled index s
  hosted : ∀ callID, hostedSettled callID s

section
variable (status : String)

theorem closeText_eq (s : ChatToResponsesStreamState) :
    ∃ done, (closeText status s).1 = { s with textDone := done } ∧ (s.textStarted = true → done = true) := by
  unfold closeText
  split
  · exact ⟨true, rfl, fun _ => rfl⟩
  · next settled => exact ⟨s.textDone, rfl, fun begun => by simpa [begun] using settled⟩

theorem closeReasoning_eq (s : ChatToResponsesStreamState) :
    ∃ done, (closeReasoning status s).1 = { s with reasoningDone := done } ∧ (s.reasoningStarted = true → done = true) := by
  unfold closeReasoning
  split
  · exact ⟨true, rfl, fun _ => rfl⟩
  · next settled => exact ⟨s.reasoningDone, rfl, fun begun => by simpa [begun] using settled⟩

theorem closeTool_cases (i : Int) (s : ChatToResponsesStreamState) :
    ((closeTool status i s).1 = s ∧ toolSettled i s) ∨ ∃ tool, s.toolsByIndex.get i ≠ none ∧ tool.done = true ∧
        (closeTool status i s).1 = { s with toolsByIndex := s.toolsByIndex.set i tool } := by
  unfold closeTool toolSettled
  cases found : s.toolsByIndex.get i with
  | none => simp
  | some tool =>
    cases done : tool.done with
    | true => simp [done]
    | false => exact .inr ⟨{ tool with done := true }, by simp, rfl, by simp [done]⟩

theorem closeTool_sets (i : Int) (s : ChatToResponsesStreamState) : toolSettled i (closeTool status i s).1 := by
  rcases closeTool_cases status i s with ⟨same, settled⟩ | ⟨tool, _, done, same⟩
  · rw [same]
    exact settled
  rw [same]
  intro found here
  rw [Dict.get_set_self] at here
  cases here
  exact done

theorem closeTool_keeps (i other : Int) (s : ChatToResponsesStreamState)
    (settled : toolSettled other s) : toolSettled other (closeTool status i s).1 := by
  by_cases same : i = other
  · subst same
    exact closeTool_sets status i s
  rcases closeTool_cases status i s with ⟨unchanged, _⟩ | ⟨tool, _, _, changed⟩
  · rwa [unchanged]
  · rw [changed]
    intro found here
    rw [Dict.get_set_of_ne _ same] at here
    exact settled found here

theorem each_closeTool_frame (indices : List Int) (s : ChatToResponsesStreamState) :
    ∃ tools, (Emission.each (closeTool status) indices s).1 = { s with toolsByIndex := tools } := by
  induction indices generalizing s with
  | nil => exact ⟨s.toolsByIndex, rfl⟩
  | cons i rest ih =>
    obtain ⟨tools, same⟩ := ih (closeTool status i s).1
    refine ⟨tools, same.trans ?_⟩
    rcases closeTool_cases status i s with ⟨here, _⟩ | ⟨tool, _, _, here⟩ <;> rw [here]

end

theorem told_closeOwnTool {status : String} (sound : Sound s) (closing : Closing status s) (i : Int) :
    Told s (closeTool status i s) ∧ Closing status (closeTool status i s).1 := by
  obtain ⟨rfl, steady⟩ := closing
  refine ⟨told_closeTool sound i, ?_⟩
  rcases closeTool_cases s.outputStatus i s with ⟨same, _⟩ | ⟨tool, present, _, changed⟩
  · rw [same]
    exact ⟨rfl, steady⟩
  rw [changed]
  refine ⟨rfl, ?_⟩
  rcases steady with idle | incomplete | ⟨_, _, noTools⟩
  · exact .inl idle
  · exact .inr (.inl incomplete)
  · exact absurd (noTools i) present

theorem each_closeHosted_frame (callIDs : List String) (s : ChatToResponsesStreamState) :
    ∃ status hosted, (Emission.each closeHosted callIDs s).1 = { s with status, hostedByID := hosted } := by
  induction callIDs generalizing s with
  | nil => exact ⟨s.status, s.hostedByID, rfl⟩
  | cons callID rest ih =>
    obtain ⟨status, hosted, same⟩ := ih (closeHosted callID s).1
    refine ⟨status, hosted, same.trans ?_⟩
    rcases closeHosted_cases callID s with ⟨here, _⟩ | ⟨tool, _, _, here⟩ <;> rw [here]

section
variable (sound : Sound s)
include sound

theorem told_status
    (quiet : ({ s with status, incompleteReason := reason } : ChatToResponsesStreamState).outputStatus = s.outputStatus ∨
      (s.textDone = false ∧ s.reasoningDone = false ∧ ToolsOpen s)) :
    Told s ({ s with status, incompleteReason := reason }, []) := by
  refine told_silent ?_ rfl rfl (itemOf_status quiet)
  exact { sound with placed := placed_keep sound rfl (fun ref => by cases ref <;> rfl) }

theorem Steady.quiet (steady : Steady s) (found : s.hostedByID.get callID = some tool) (undone : tool.done = false) :
    s.outputStatus = "incomplete" ∨ (s.textDone = false ∧ s.reasoningDone = false ∧ ToolsOpen s) := by
  rcases steady with idle | incomplete | ⟨noText, noReasoning, noTools⟩
  · rw [idle callID tool found] at undone
    cases undone
  · exact .inl incomplete
  · refine .inr ⟨(sound.textFresh noText).2, (sound.reasoningFresh noReasoning).2, ?_⟩
    intro i tool found
    rw [noTools i] at found
    cases found

theorem told_endHosted (steady : Steady s) (found : s.hostedByID.get callID = some tool) (undone : tool.done = false)
    (incomplete : ({ s with status } : ChatToResponsesStreamState).outputStatus = "incomplete") {output : ResponsesOutput}
    (same : payload output = payload tool.output) (failed : Bool) :
    let ended : ChatToResponsesStreamState :=
      { s with status, hostedByID := s.hostedByID.set callID { tool with output, done := true } }
    Told s (ended, (if failed then hostedTerminalEvents tool.outputIndex output.type true else []) ++
      [.itemDone tool.outputIndex output]) ∧ Steady ended := by
  have turned : Told s ({ s with status }, []) := by
    refine told_status sound ?_
    rcases steady.quiet sound found undone with already | unsettled
    · exact .inl (incomplete.trans already.symm)
    · exact .inr unsettled
  have here : slot { s with status } (.hosted callID) = some tool.outputIndex := by simp [slot, found]
  have opened : (itemOf { s with status } (.hosted callID)).done = none := by
    simp [itemOf, found, hostedItem, undone]
  refine ⟨turned.then (Told.then ?_ (told_hostedDone turned.2 found undone same)), .inr (.inl incomplete)⟩
  split
  · exact told_hostedTerminalEvents turned.2 here opened output.type true
  · exact told_nothing turned.2

theorem told_closeHosted (steady : Steady s) (callID : String) :
    Told s (closeHosted callID s) ∧ Steady (closeHosted callID s).1 := by
  unfold closeHosted
  split
  · exact ⟨told_nothing sound, steady⟩
  next tool found =>
  split
  · exact ⟨told_nothing sound, steady⟩
  next undone =>
  have undone : tool.done = false := by simpa using undone
  by_cases failed : s.status = .failed
  · have incomplete : ({ s with status := .failed } : ChatToResponsesStreamState).outputStatus = "incomplete" := rfl
    simp only [failed, if_true]
    exact told_endHosted sound steady found undone incomplete (by split <;> rfl) true
  · have incomplete : ({ s with status := .incomplete } : ChatToResponsesStreamState).outputStatus = "incomplete" := rfl
    have same : payload { tool.output with status := "incomplete" } = payload tool.output := rfl
    simp only [failed, if_false]
    exact told_endHosted sound steady found undone incomplete same false

theorem told_doneDeltaEvents (steady : Steady s) : Told s (doneDeltaEvents s) := by
  let status := s.outputStatus
  have text : Follows readEvent (Reading (Closing status)) (Reading (Closing status)) (closeText status) := by
    apply follows_of_told
    intro t soundHere closing
    refine ⟨closing.1 ▸ told_closeText soundHere, ?_⟩
    obtain ⟨done, same, _⟩ := closeText_eq status t
    rw [same]
    exact closing
  have reasoning : Follows readEvent (Reading (Closing status)) (Reading (Closing status)) (closeReasoning status) := by
    apply follows_of_told
    intro t soundHere closing
    refine ⟨closing.1 ▸ told_closeReasoning soundHere, ?_⟩
    obtain ⟨done, same, _⟩ := closeReasoning_eq status t
    rw [same]
    exact closing
  have tools : Follows readEvent (Reading (Closing status)) (Reading (Closing status))
      (Emission.each (closeTool status) s.sortedTools) :=
    follows_each fun i _ => follows_of_told fun t soundHere closing => told_closeOwnTool soundHere closing i
  have hosted : Follows readEvent (Reading Steady) (Reading Steady) (Emission.each closeHosted s.hostedIDs) :=
    follows_each fun callID _ => follows_of_told fun t soundHere steady => told_closeHosted soundHere steady callID
  obtain ⟨m, read, rfl, soundAfter, _⟩ := follows_andThen (follows_andThen text reasoning)
    (follows_andThen tools (hosted.of_imp fun t m here => ⟨here.1, here.2.1, here.2.2.2⟩)) s (readerOf s)
    ⟨rfl, sound, rfl, steady⟩
  exact ⟨read, soundAfter⟩

theorem mem_hostedIDs (found : s.hostedByID.get callID = some tool) : callID ∈ s.hostedIDs := by
  have here : slot s (.hosted callID) = some tool.outputIndex := by simp [slot, found]
  exact mem_filterMap.mpr ⟨.hosted callID, mem_of_getElem? (sound.found here), rfl⟩

theorem allDone_doneDeltaEvents : AllDone (doneDeltaEvents s).1 := by
  let status := s.outputStatus
  have unfolded : (doneDeltaEvents s).1 = (Emission.each closeHosted s.hostedIDs (Emission.each (closeTool status) s.sortedTools
    (closeReasoning status (closeText status s).1).1).1).1 := rfl
  obtain ⟨textDone, sameText, settledText⟩ := closeText_eq status s
  rw [sameText] at unfolded
  obtain ⟨reasoningDone, sameReasoning, settledReasoning⟩ := closeReasoning_eq status { s with textDone }
  rw [sameReasoning] at unfolded
  have toolsDone : ∀ i, toolSettled i
      (Emission.each (closeTool status) s.sortedTools { s with textDone, reasoningDone }).1 := by
    intro i
    apply Emission.each_establishes (closeTool_sets status) (closeTool_keeps status)
    by_cases present : s.toolsByIndex.get i = none
    · right
      intro tool found
      rw [present] at found
      cases found
    · left
      exact (mem_insertionSort _).mpr (Dict.mem_keys.mpr present)
  obtain ⟨tools, sameTools⟩ := each_closeTool_frame status s.sortedTools { s with textDone, reasoningDone }
  rw [sameTools] at unfolded toolsDone
  have hostedDone : ∀ callID, hostedSettled callID (doneDeltaEvents s).1 := by
    intro callID
    rw [unfolded]
    apply Emission.each_establishes closeHosted_sets closeHosted_keeps
    cases present : s.hostedByID.get callID with
    | none =>
      right
      intro tool found
      rw [present] at found
      cases found
    | some tool => exact .inl (mem_hostedIDs sound present)
  obtain ⟨lastStatus, hosted, sameHosted⟩ := each_closeHosted_frame s.hostedIDs
    { s with textDone, reasoningDone, toolsByIndex := tools }
  rw [sameHosted] at unfolded
  refine ⟨?_, ?_, ?_, hostedDone⟩ <;> rw [unfolded]
  · exact settledText
  · exact settledReasoning
  · exact toolsDone

end

theorem map_some_filterMap {α β : Type} {f : α → Option β} {entries : List α} (defined : ∀ e ∈ entries, f e ≠ none) :
    (entries.filterMap f).map some = entries.map f := by
  induction entries with
  | nil => rfl
  | cons e rest ih =>
    obtain ⟨v, here⟩ := Option.ne_none_iff_exists'.mp (defined e List.mem_cons_self)
    have later := ih fun other mem => defined other (List.mem_cons_of_mem e mem)
    simp only [filterMap_cons, here, map_cons, later]

theorem done_eq_refOutput (done : AllDone s) {ref : OutputRef} {i : Nat} (here : slot s ref = some i) :
    (itemOf s ref).done = s.refOutput s.outputStatus ref ∧ s.refOutput s.outputStatus ref ≠ none := by
  cases ref with
  | message =>
    have begun : s.textStarted = true := by
      by_contra unstarted
      simp [slot, unstarted] at here
    simp [itemOf, refOutput, done.text begun]
  | reasoning =>
    have begun : s.reasoningStarted = true := by
      by_contra unstarted
      simp [slot, unstarted] at here
    simp [itemOf, refOutput, done.reasoning begun]
  | tool chatIndex =>
    obtain ⟨tool, found, _⟩ := Option.map_eq_some_iff.mp here
    simp [itemOf, refOutput, found, toolItem, done.tools chatIndex tool found]
  | hosted callID =>
    obtain ⟨tool, found, _⟩ := Option.map_eq_some_iff.mp here
    simp [itemOf, refOutput, found, hostedItem, done.hosted callID tool found]

variable (sound : Sound s)
include sound

theorem finalResponse_output (done : AllDone s) :
    s.finalResponse.output.map some = (readerOf s).items.map (·.done) := by
  have each : ∀ ref ∈ s.outputOrder, (itemOf s ref).done = s.refOutput s.outputStatus ref ∧
      s.refOutput s.outputStatus ref ≠ none := by
    intro ref mem
    obtain ⟨i, here⟩ := mem_iff_getElem?.mp mem
    exact done_eq_refOutput done ((sound.placed i ref).mp here)
  unfold finalResponse readerOf
  rw [map_some_filterMap fun ref mem => (each ref mem).2, map_map]
  exact map_congr_left fun ref mem => (each ref mem).1.symm

theorem readEvent_terminal (made : s.sentCreated = true) (done : AllDone s) (same : resp.output = s.finalResponse.output)
    (final : event = .completed resp ∨ event = .incomplete resp ∨ event = .failed resp) :
    readEvent (readerOf s) event = some { readerOf s with ended := true } := by
  have output := finalResponse_output sound done
  rw [← same] at output
  apply readEvent_opened made rfl
  rcases final with rfl | rfl | rfl <;> simp [readOpened, output]

theorem reads_failed (made : s.sentCreated = true) (done : AllDone s)
    (same : resp.output = s.finalResponse.output) (code msg param : String) :
    reads readEvent (readerOf s) [.error code msg param, .failed resp] = some { readerOf s with ended := true } := by
  have noted : readEvent (readerOf s) (.error code msg param) = some (readerOf s) := readEvent_opened made rfl rfl
  rw [reads_cons, noted, Option.bind_some, reads_cons, readEvent_terminal sound made done same (.inr (.inr rfl))]
  rfl

theorem finalize_read (made : s.sentCreated = true) (steady : Steady s) :
    ∃ m, reads readEvent (readerOf s) (finalizeChatCompletionsStreamToResponses s).2 = some m ∧ m.ended = true := by
  have told := told_doneDeltaEvents sound steady
  have done := allDone_doneDeltaEvents sound
  unfold finalizeChatCompletionsStreamToResponses
  rw [if_neg (by simp [sound.unfinalized])]
  refine ⟨{ readerOf (doneDeltaEvents s).1 with ended := true }, reads_append_of readEvent told.1 ?_, rfl⟩
  dsimp only
  rw [reads_cons, readEvent_terminal told.2 (told.created made) done rfl]
  · rfl
  · grind

theorem fail_read
    (quiet : s.outputStatus = "incomplete" ∨ (s.textDone = false ∧ s.reasoningDone = false ∧ ToolsOpen s))
    (code msg param : String) :
    ∃ m, reads readEvent (readerOf s) (failStream code msg param s).2 = some m ∧ m.ended = true := by
  have turned : Told s ({ s with status := .failed }, []) :=
    told_status sound (quiet.imp (fun incomplete => incomplete.symm) id)
  have opening := told_ensureCreated turned.2
  have made : (ensureCreated { s with status := .failed }).1.sentCreated = true := by grind [ensureCreated]
  have steady : Steady (ensureCreated { s with status := .failed }).1 := by
    right; left
    unfold ensureCreated
    split <;> rfl
  have told := told_doneDeltaEvents opening.2 steady
  have done := allDone_doneDeltaEvents opening.2
  have same : readerOf s = readerOf { s with status := .failed } := Option.some.inj turned.1
  unfold failStream
  dsimp only
  rw [if_neg (by simp [sound.unfinalized]), same]
  exact ⟨_, reads_append_of readEvent opening.1 (reads_append_of readEvent told.1
    (reads_failed told.2 (told.created made) done rfl _ _ _)), rfl⟩

end Wildflow.Relay.ChatToResponses
