import Wildflow.Proof.Relay.ChatContent
import Wildflow.Proof.Relay.ChatToClaude

/-!
# Nothing is lost between Chat and Claude

What came for the calls of the current run of tool chunks has been written or waits for a name; what came for the earlier
ones with an id and a name has been written.
-/

namespace Wildflow.Relay.ChatToClaude
open Wildflow.Store ClaudeConvertInfo Collected Expected List
variable {delta : ChatDelta} {toolIndex : Int} {mode : LastMessageType} {id : String}

structure ToolKept (c : Collected) (tool : ClaudeStreamToolCall) (call : TrackedCall) : Prop where
  id : tool.id = call.id
  name : tool.name = call.name
  started : tool.started = true →
    tool.id ≠ "" ∧ c.names.get tool.blockIndex = some tool.id ∧ c.input tool.id = call.arguments
  waiting : tool.started = false → tool.pendingArguments = call.arguments ∧ (tool.id ≠ "" → c.input tool.id = "")

structure Past (uuid : Nat → String) (t : Expected) (c : Collected) (run : Nat) : Prop where
  text : c.text = t.text
  thinking : c.thinking = t.thinking
  identified : Identified uuid t
  unknown : ∀ id, id ≠ "" → t.byID.get id = none → (∀ index, id ≠ "toolu_" ++ uuid index) → c.input id = ""
  closed : ∀ (place : Nat) (call : TrackedCall), place < run → t.calls[place]? = some call → call.id ≠ "" → call.name ≠ "" →
    c.input call.id = call.arguments

structure Current (s : ClaudeConvertInfo) (t : Expected) (c : Collected) (run : Nat) : Prop where
  active : s.lastMessagesType = .tools ∧ s.done = false
  length : run + s.toolCalls.length = t.calls.length
  tools : ∀ (place : Nat) (tool : ClaudeStreamToolCall), s.toolCalls[place]? = some tool →
    tool.blockIndex = s.toolCallBaseIndex + place ∧ ∃ call, t.calls[run + place]? = some call ∧ ToolKept c tool call
  byIndex : ∀ toolIndex place, s.toolCallByIndex.get toolIndex = some place ↔ t.byIndex.get toolIndex = some (run + place)
  byID : ∀ id place, s.toolCallByID.get id = some place ↔ t.byID.get id = some (run + place)

section
variable {uuid : Nat → String} {s : ClaudeConvertInfo} {t : Expected} {c : Collected} {run place : Nat}
  {tool : ClaudeStreamToolCall} {call : TrackedCall} {fragment : ToolCallResponse × Nat}

section
variable (cur : Current s t c run)
include cur

theorem Current.toolAt (found : t.calls[run + place]? = some call) :
    ∃ tool, s.toolCalls[place]? = some tool ∧ tool.id = call.id := by
  obtain ⟨_, length, tools, _, _⟩ := cur
  have inside : place < s.toolCalls.length := by grind
  obtain ⟨_, owner, foundOwner, kept⟩ := tools place _ (getElem?_eq_getElem inside)
  rw [found] at foundOwner
  cases foundOwner
  exact ⟨_, getElem?_eq_getElem inside, kept.id⟩

theorem Current.byID_none {id : String} (unknown : t.byID.get id = none) : s.toolCallByID.get id = none := by
  cases own : s.toolCallByID.get id with
  | none => rfl
  | some other =>
    rw [(cur.byID id other).mp own] at unknown
    cases unknown

theorem findToolCall_of_find
    (here : t.find toolIndex id = some (run + place)) : s.findToolCall toolIndex id = some place := by
  obtain ⟨call, found, fits⟩ := find_some here
  obtain ⟨tool, foundTool, sameID⟩ := cur.toolAt found
  have byIndex := cur.byIndex toolIndex place
  have byID := cur.byID id place
  have unknown := @cur.byID_none _ _ _ _ id
  have src := (Option.filter_eq_some_iff.mp here).1
  have cand : ((if id = "" then none else s.toolCallByID.get id).orElse fun _ => s.toolCallByIndex.get toolIndex) =
      some place := by
    cases known : t.byID.get id with
    | none => grind
    | some other => grind
  grind [findToolCall]

theorem findToolCall_of_new (known : Identified uuid t)
    (absent : t.find toolIndex id = none) : s.findToolCall toolIndex id = none := by
  have unknown := byID_none_of_new known absent
  cases here : s.findToolCall toolIndex id with
  | none => rfl
  | some place =>
    obtain ⟨src, fits⟩ := Option.filter_eq_some_iff.mp here
    have indexed : s.toolCallByIndex.get toolIndex = some place := by
      simpa [cur.byID_none unknown] using src
    have indexedCall := (cur.byIndex toolIndex place).mp indexed
    have tools := cur.tools place
    grind [find, ToolKept]

end

def updateTool (s : ClaudeConvertInfo) (place : Nat) (tool : ClaudeStreamToolCall) (fragment : ToolCallResponse × Nat) :
    ClaudeConvertInfo :=
  { s with
    toolCalls := s.toolCalls.set place (toolFragment fragment.1 tool).1
    toolCallByIndex := s.toolCallByIndex.set (fragment.1.index.getD fragment.2) place
    toolCallByID := if tool.id = "" ∧ trimSpace fragment.1.id ≠ "" then s.toolCallByID.set (trimSpace fragment.1.id) place
      else s.toolCallByID }

def freshTool (s : ClaudeConvertInfo) : ClaudeStreamToolCall := { blockIndex := s.toolCallBaseIndex + s.toolCalls.length }

def withFreshTool (s : ClaudeConvertInfo) : ClaudeConvertInfo := { s with toolCalls := s.toolCalls ++ [freshTool s] }

theorem streamToolCall_found
    (here : s.findToolCall (fragment.1.index.getD fragment.2) (trimSpace fragment.1.id) = some place)
    (found : s.toolCalls[place]? = some tool) :
    streamToolCall fragment s = (updateTool s place tool fragment, (toolFragment fragment.1 tool).2) := by
  simp [streamToolCall, updateTool, here, found]

theorem streamToolCall_new
    (absent : s.findToolCall (fragment.1.index.getD fragment.2) (trimSpace fragment.1.id) = none) :
    streamToolCall fragment s =
      (updateTool (withFreshTool s) s.toolCalls.length (freshTool s) fragment, (toolFragment fragment.1 (freshTool s)).2) := by
  simp [streamToolCall, updateTool, withFreshTool, freshTool, absent]

theorem current_fresh (cur : Current s t c run) : Current (withFreshTool s) t.withFresh c run := by
  obtain ⟨active, length, tools, byIndex, byID⟩ := cur
  refine ⟨active, ?_, ?_, byIndex, byID⟩
  · simp only [withFreshTool, withFresh, length_append, length_singleton]
    omega
  · intro place tool found
    simp only [withFreshTool, withFresh] at found ⊢
    have new : ToolKept c (freshTool s) {} := ⟨rfl, rfl, by simp [freshTool], fun _ => ⟨rfl, fun named => absurd rfl named⟩⟩
    grind [freshTool]

structure Written (c c' : Collected) (tool : ClaudeStreamToolCall) (id : String) : Prop where
  text : c'.text = c.text
  thinking : c'.thinking = c.thinking
  input : ∀ other, other ≠ id → c'.input other = c.input other
  names : ∀ index, index ≠ tool.blockIndex → c'.names.get index = c.names.get index

theorem toolFragment_written (kept : ToolKept c tool call) (toolCall : ToolCallResponse)
    (unwritten : call.id = "" → trimSpace toolCall.id ≠ "" → c.input (trimSpace toolCall.id) = "") :
    ∃ c', reads gather c (toolFragment toolCall tool).2 = some c' ∧ Written c c' tool (call.extend toolCall).id ∧
      ToolKept c' (toolFragment toolCall tool).1 (call.extend toolCall) ∧
      (toolFragment toolCall tool).1.blockIndex = tool.blockIndex := by
  obtain ⟨id, name, kept, waiting⟩ := kept
  have sameID : (extendTool toolCall tool).id = (call.extend toolCall).id := by
    simp only [extendTool, TrackedCall.extend, id]
  have sameName : (extendTool toolCall tool).name = (call.extend toolCall).name := by
    simp only [extendTool, TrackedCall.extend, name]
  -- an id that the fragment brings has nothing written for it
  have empty : tool.started = false → (call.extend toolCall).id ≠ "" → c.input (call.extend toolCall).id = "" := by
    grind [TrackedCall.extend]
  cases flag : tool.started with
  | true =>
    obtain ⟨named, written, content⟩ := kept flag
    have own : (call.extend toolCall).id = tool.id := by simp [TrackedCall.extend, ← id, named]
    have fragmentEq : toolFragment toolCall tool = (extendTool toolCall tool,
        if toolCall.arguments ≠ "" then [.blockDelta tool.blockIndex (.inputJson toolCall.arguments)] else []) := by
      simp [toolFragment, extendTool, flag]
    have still : (extendTool toolCall tool).started = true := flag
    rw [fragmentEq]
    dsimp only
    split
    · obtain ⟨adds, names⟩ := adds_delta written toolCall.arguments
      refine ⟨_, rfl, ⟨adds.text, adds.thinking, fun other ne => adds.other (own ▸ ne), fun i _ => by rw [names]⟩,
        ⟨sameID, sameName, fun _ => ?_, fun idle => by grind⟩, rfl⟩
      rw [sameID, own, adds.self, content]
      exact ⟨named, by rw [names]; exact written, rfl⟩
    · next silent =>
      refine ⟨c, rfl, ⟨rfl, rfl, fun _ _ => rfl, fun _ _ => rfl⟩, ⟨sameID, sameName, fun _ => ?_, by grind⟩, rfl⟩
      rw [sameID, own, content]
      exact ⟨named, written, by simp [TrackedCall.extend, not_not.mp silent]⟩
  | false =>
    have args : (extendTool toolCall tool).pendingArguments = (call.extend toolCall).arguments := by
      simp [extendTool, TrackedCall.extend, flag, (waiting flag).1]
    have idle : (extendTool toolCall tool).started = false := flag
    unfold toolFragment
    dsimp only
    split
    · next ready =>
      have named : (call.extend toolCall).id ≠ "" := by grind
      obtain ⟨c', read, adds, names⟩ := collect_startTool c (extendTool toolCall tool)
      rw [sameID, args] at adds
      refine ⟨c', read, ⟨adds.text, adds.thinking, fun other ne => adds.other ne, ?_⟩,
        ⟨sameID, sameName, fun _ => ?_, nofun⟩, rfl⟩
      · grind [extendTool]
      · refine ⟨sameID ▸ named, by rw [names]; exact Dict.get_set_self _ _ _, ?_⟩
        change c'.input (extendTool toolCall tool).id = _
        rw [sameID, adds.self, empty flag named, String.empty_append]
    · rw [idle]
      refine ⟨c, rfl, ⟨rfl, rfl, fun _ _ => rfl, fun _ _ => rfl⟩, ⟨sameID, sameName, ?_, ?_⟩, rfl⟩
      · grind
      · grind

theorem ToolKept.of_apart {c' : Collected} (kept : ToolKept c tool call)
    (names : c'.names.get tool.blockIndex = c.names.get tool.blockIndex)
    (input : call.id ≠ "" → c'.input call.id = c.input call.id) : ToolKept c' tool call := by
  obtain ⟨id, name, begun, waiting⟩ := kept
  refine ⟨id, name, ?_, ?_⟩
  · grind
  · grind

theorem update_calls (inside : place < t.calls.length) (other : Nat) :
    (t.update place call fragment).calls[other]? = if place = other then some (call.extend fragment.1) else t.calls[other]? := by
  simp only [update, getElem?_set, inside, if_true]

theorem byID_of_update (absent : (t.update place call fragment).byID.get id = none) : t.byID.get id = none := by
  grind [update]

def onwards (run : Nat) : Expected → List (ToolCallResponse × Nat) → Bool
  | _, [] => true
  | t, fragment :: rest => (t.findFragment fragment).all (fun place => run ≤ place) && onwards run (t.track fragment) rest

structure ToolClosing (c : Collected) (tool : ClaudeStreamToolCall) (call : TrackedCall) : Prop where
  name : tool.name = call.name
  started : tool.started = true → call.id ≠ "" → c.input call.id = call.arguments
  waiting : tool.started = false →
    tool.id = call.id ∧ tool.pendingArguments = call.arguments ∧ (call.id ≠ "" → c.input call.id = "")

structure Closing (uuid : Nat → String) (t : Expected) (run : Nat) (s : ClaudeConvertInfo) (c : Collected) : Prop where
  past : Past uuid t c run
  length : run + s.toolCalls.length = t.calls.length
  tools : ∀ (place : Nat) (tool : ClaudeStreamToolCall), s.toolCalls[place]? = some tool →
    ∃ call, t.calls[run + place]? = some call ∧ ToolClosing c tool call

theorem reads_silent {events : List ClaudeStreamEvent} (silent : ∀ ev ∈ events, c.collect ev = c) :
    reads gather c events = some c := by
  induction events with
  | nil => rfl
  | cons ev rest ih =>
    rw [reads_cons]
    simp only [gather, silent ev List.mem_cons_self, Option.bind_some]
    exact ih fun other mem => silent other (List.mem_cons_of_mem _ mem)

theorem stopOpenBlocks_silent (s : ClaudeConvertInfo) (c : Collected) : ∀ ev ∈ s.stopOpenBlocks, c.collect ev = c := by
  grind [stopOpenBlocks, collect]

def Kept (uuid : Nat → String) (t : Expected) (s : ClaudeConvertInfo) (c : Collected) : Prop :=
  (s.lastMessagesType = .tools → s.done = true) ∧ Past uuid t c t.calls.length ∨ ∃ run, Past uuid t c run ∧ Current s t c run

theorem Past.of_mode (past : Past uuid t c t.calls.length) (single : s.lastMessagesType ≠ .tools) : Kept uuid t s c :=
  .inl ⟨fun mode => absurd mode single, past⟩

theorem Kept.past_of_mode (kept : Kept uuid t s c) (single : s.lastMessagesType ≠ .tools) : Past uuid t c t.calls.length := by
  rcases kept with ⟨_, past⟩ | ⟨run, past, cur⟩
  · exact past
  · exact absurd cur.active.1 single

theorem appendStop_frame (uuid : Nat → String) (s : ClaudeConvertInfo) :
    ∃ toolCalls, (appendStopOpenBlocks uuid s).1 = { s with toolCalls } := by
  obtain ⟨toolCalls, same, _⟩ := startPendingToolBlocks_frame uuid s
  exact ⟨toolCalls, same⟩

structure SettledIn (uuid : Nat → String) (t : Expected) (mode : LastMessageType) (s : ClaudeConvertInfo) (c : Collected) :
    Prop where
  mode : s.lastMessagesType = mode
  active : s.done = false
  past : Past uuid t c t.calls.length

theorem SettledIn.apart (settled : SettledIn uuid t mode s c) (single : mode ≠ .tools) :
    s.lastMessagesType ≠ .tools :=
  fun tools => single (settled.mode.symm.trans tools)

theorem SettledIn.kept (settled : SettledIn uuid t mode s c) (single : mode ≠ .tools) : Kept uuid t s c :=
  settled.past.of_mode (settled.apart single)

section
variable (past : Past uuid t c run)
include past

theorem past_fresh (bound : run ≤ t.calls.length) : Past uuid t.withFresh c run := by
  refine ⟨past.text, past.thinking, identified_withFresh past.identified, past.unknown, ?_⟩
  intro place call before found
  simp only [withFresh] at found
  rw [getElem?_append_left (by omega)] at found
  exact past.closed place call before found

theorem update_kept (cur : Current s t c run) (found : t.calls[run + place]? = some call)
    (foundTool : s.toolCalls[place]? = some tool) (fresh : ∀ i, trimSpace fragment.1.id ≠ "toolu_" ++ uuid i)
    (unknown : call.id = "" → trimSpace fragment.1.id ≠ "" → t.byID.get (trimSpace fragment.1.id) = none) :
    ∃ c', reads gather c (toolFragment fragment.1 tool).2 = some c' ∧ Past uuid (t.update (run + place) call fragment) c' run ∧
      Current (updateTool s place tool fragment) (t.update (run + place) call fragment) c' run := by
  have inside := (List.getElem?_eq_some_iff.mp found).1
  have insideTool := (List.getElem?_eq_some_iff.mp foundTool).1
  obtain ⟨i, owner, foundOwner, kept⟩ := cur.tools place tool foundTool
  rw [found] at foundOwner
  cases foundOwner
  obtain ⟨c', read, written, keptAfter, indexAfter⟩ := toolFragment_written kept fragment.1
    fun unnamed named => past.unknown _ named (unknown unnamed named) fresh
  have known := identified_update past.identified found fresh unknown
  have here : (t.update (run + place) call fragment).calls[run + place]? = some (call.extend fragment.1) := by
    rw [update_calls inside, if_pos rfl]
  have apart : ∀ (other : Nat) (owner : TrackedCall), run + place ≠ other → t.calls[other]? = some owner → owner.id ≠ "" →
      c'.input owner.id = c.input owner.id := by
    intro other owner ne there named
    apply written.input
    intro same
    have thereAfter : (t.update (run + place) call fragment).calls[other]? = some owner := by
      rw [update_calls inside, if_neg ne, there]
    exact ne (known.unique here thereAfter same.symm (same ▸ named))
  refine ⟨c', read, ⟨?_, ?_, known, ?_, ?_⟩, ⟨cur.active, ?_, ?_, ?_, ?_⟩⟩
  · rw [written.text, past.text]
    rfl
  · rw [written.thinking, past.thinking]
    rfl
  · intro id named absent undrawn
    rw [written.input, past.unknown id named (byID_of_update absent) undrawn]
    rintro rfl
    rw [(known.byID _ _).mpr ⟨named, _, here, rfl⟩] at absent
    cases absent
  · intro other owner before there named titled
    rw [update_calls inside, if_neg (by omega)] at there
    rw [apart other owner (by omega) there named, past.closed other owner before there named titled]
  · have length := cur.length
    simpa [updateTool, update] using length
  · intro other current' there
    simp only [updateTool, List.getElem?_set, insideTool, if_true] at there
    rw [update_calls inside]
    split at there
    · next same =>
      subst same
      cases there
      exact ⟨indexAfter.trans i, _, if_pos rfl, keptAfter⟩
    · next ne =>
      obtain ⟨otherIndex, owner, foundOwner, keptOwner⟩ := cur.tools other current' there
      refine ⟨otherIndex, owner, by rw [if_neg (by omega), foundOwner], keptOwner.of_apart ?_ ?_⟩
      · exact written.names _ (by omega)
      · exact apart _ owner (by omega) foundOwner
  · have byIndex := cur.byIndex
    grind [updateTool, update]
  · have byID := cur.byID
    have sameID := kept.id
    grind [updateTool, update]

theorem streamToolCall_kept (cur : Current s t c run) (fresh : ∀ i, trimSpace fragment.1.id ≠ "toolu_" ++ uuid i)
    (onwards : ∀ place, t.findFragment fragment = some place → run ≤ place) :
    ∃ c', reads gather c (streamToolCall fragment s).2 = some c' ∧ Past uuid (t.track fragment) c' run ∧
      Current (streamToolCall fragment s).1 (t.track fragment) c' run := by
  cases known : t.findFragment fragment with
  | some position =>
    obtain ⟨place, rfl⟩ := Nat.exists_eq_add_of_le (onwards position known)
    obtain ⟨call, found, _⟩ := find_some known
    obtain ⟨tool, foundTool, _⟩ := cur.toolAt found
    rw [track_found known found, streamToolCall_found (findToolCall_of_find cur known) foundTool]
    exact update_kept past cur found foundTool fresh fun unnamed named =>
      byID_none_of_found past.identified known found unnamed named
  | none =>
    rw [track_new known, streamToolCall_new (findToolCall_of_new cur past.identified known), ← cur.length]
    refine update_kept (past_fresh past (by have := cur.length; omega)) (current_fresh cur) ?_ ?_ fresh ?_
    · rw [cur.length]
      simp [withFresh]
    · simp [withFreshTool]
    · exact fun _ _ => byID_none_of_new past.identified known

theorem Current.closing (cur : Current s t c run) : Closing uuid t run s c := by
  refine ⟨past, cur.length, fun place tool found => ?_⟩
  obtain ⟨_, call, foundCall, kept⟩ := cur.tools place tool found
  obtain ⟨id, name, begun, waiting⟩ := kept
  refine ⟨call, foundCall, name, ?_, ?_⟩
  · grind
  · grind

theorem past_text (i : Nat) (text : String) :
    Past uuid { t with text := t.text ++ text } (c.collect (.blockDelta i (.text text))) run :=
  ⟨congrArg (· ++ text) past.text, past.thinking, ⟨past.identified.byID, past.identified.byIndex, past.identified.real⟩,
    past.unknown, past.closed⟩

theorem past_thinking (i : Nat) (thinking : String) :
    Past uuid { t with thinking := t.thinking ++ thinking } (c.collect (.blockDelta i (.thinking thinking))) run :=
  ⟨past.text, congrArg (· ++ thinking) past.thinking,
    ⟨past.identified.byID, past.identified.byIndex, past.identified.real⟩, past.unknown, past.closed⟩

end

theorem streamToolCalls_kept {fragments : List (ToolCallResponse × Nat)} (past : Past uuid t c run)
    (cur : Current s t c run) (fresh : ∀ fragment ∈ fragments, ∀ i, trimSpace fragment.1.id ≠ "toolu_" ++ uuid i)
    (ahead : onwards run t fragments = true) :
    ∃ c', reads gather c (Emission.each streamToolCall fragments s).2 = some c' ∧
      Past uuid (fragments.foldl track t) c' run ∧
      Current (Emission.each streamToolCall fragments s).1 (fragments.foldl track t) c' run := by
  induction fragments generalizing s t c with
  | nil => exact ⟨c, rfl, past, cur⟩
  | cons fragment rest ih =>
    obtain ⟨here, later⟩ := Bool.and_eq_true_iff.mp ahead
    obtain ⟨middle, readFirst, pastMiddle, currentMiddle⟩ := streamToolCall_kept past cur
      (fresh fragment List.mem_cons_self) fun place known => by simpa [known] using here
    obtain ⟨last, readRest, both⟩ := ih pastMiddle currentMiddle
      (fun other mem => fresh other (List.mem_cons_of_mem _ mem)) later
    rw [Emission.each, Emission.andThen, List.foldl_cons]
    exact ⟨last, reads_append_of gather readFirst readRest, both⟩

theorem follows_startPending_closing (place : Nat) :
    Follows gather (Closing uuid t run) (Closing uuid t run) (startPendingToolAt uuid place) := by
  intro s c closing
  unfold startPendingToolAt
  split
  · exact ⟨c, rfl, closing⟩
  · next tool found =>
    obtain ⟨call, foundCall, kept⟩ := closing.tools place tool found
    have inside := (List.getElem?_eq_some_iff.mp found).1
    unfold startPendingTool
    split
    · obtain ⟨_, rfl⟩ := List.getElem?_eq_some_iff.mp found
      have same := set_getElem_self inside
      exact ⟨c, rfl, closing.past, by simpa using closing.length, by simpa only [same] using closing.tools⟩
    · next waiting =>
      have idle : tool.started = false := by simpa using (not_or.mp waiting).1
      obtain ⟨ownID, due, empty⟩ := kept.waiting idle
      obtain ⟨c', read, adds, _⟩ := collect_startTool c
        { tool with id := if tool.id = "" then "toolu_" ++ uuid tool.blockIndex else tool.id }
      dsimp only at adds
      -- the id that is written for is the call's own or a drawn one
      have apart : ∀ id, id ≠ call.id ∨ call.id = "" → (∀ i, id ≠ "toolu_" ++ uuid i) → c'.input id = c.input id := by
        intro id other undrawn
        apply adds.other
        split
        · exact undrawn _
        · grind
      have others : ∀ (other : Nat) (owner : TrackedCall), run + place ≠ other → t.calls[other]? = some owner →
          owner.id ≠ "" → c'.input owner.id = c.input owner.id := by
        intro other owner ne there named
        refine apart owner.id (.inl fun same => ?_) (closing.past.identified.real owner (mem_of_getElem? there))
        exact ne (closing.past.identified.unique foundCall there same.symm (same ▸ named))
      have own : call.id ≠ "" → c'.input call.id = call.arguments := by
        intro named
        have target : (if tool.id = "" then "toolu_" ++ uuid tool.blockIndex else tool.id) = call.id := by
          rw [ownID, if_neg named]
        rw [target, due] at adds
        rw [adds.self, empty named, String.empty_append]
      obtain ⟨⟨text, thinking, known, unknown, closed⟩, length, tools⟩ := closing
      refine ⟨c', read, ⟨adds.text.trans text, adds.thinking.trans thinking, known, ?_, ?_⟩, by simpa using length, ?_⟩
      · intro id named absent undrawn
        rw [apart id ?_ undrawn, unknown id named absent undrawn]
        refine .inl fun same => ?_
        rw [same, (known.byID _ _).mpr ⟨same ▸ named, call, foundCall, rfl⟩] at absent
        cases absent
      · grind
      · intro other cur there
        dsimp only at there
        rw [List.getElem?_set] at there
        split at there
        · next same =>
          subst same
          cases there
          exact ⟨call, foundCall, kept.name, fun _ => own, nofun⟩
        · next ne =>
          obtain ⟨owner, foundOwner, name, begun, waits⟩ := tools other cur there
          have same := others (run + other) owner (by omega) foundOwner
          exact ⟨owner, foundOwner, name, by grind, by grind⟩

theorem Closing.past_all (closing : Closing uuid t run s c) (tried : ∀ place, Tried place s) : Past uuid t c t.calls.length := by
  obtain ⟨⟨text, thinking, known, unknown, closed⟩, length, tools⟩ := closing
  refine ⟨text, thinking, known, unknown, ?_⟩
  intro position call inside found named titled
  by_cases before : position < run
  · exact closed position call before found named titled
  obtain ⟨place, rfl⟩ := Nat.exists_eq_add_of_le (Nat.le_of_not_lt before)
  have insideTool : place < s.toolCalls.length := by omega
  have foundTool := getElem?_eq_getElem insideTool
  obtain ⟨owner, foundOwner, kept⟩ := tools place _ foundTool
  rw [found] at foundOwner
  cases foundOwner
  have settled := tried place _ foundTool
  grind [ToolClosing]

theorem reads_appendStop_all (kept : Kept uuid t s c) (active : s.done = false) :
    ∃ c', reads gather c (appendStopOpenBlocks uuid s).2 = some c' ∧ Past uuid t c' t.calls.length := by
  have begun : ∃ c', reads gather c (startPendingToolBlocks uuid s).2 = some c' ∧ Past uuid t c' t.calls.length := by
    unfold startPendingToolBlocks
    rcases kept with ⟨single, past⟩ | ⟨run, past, cur⟩
    · rw [if_pos fun mode => absurd (single mode) (by simp [active])]
      exact ⟨c, rfl, past⟩
    · rw [if_neg (not_not.mpr cur.active.1)]
      obtain ⟨c', read, closing⟩ := follows_each
        (fun place _ => follows_startPending_closing place) s c (cur.closing past)
      exact ⟨c', read, closing.past_all fun place => startPending_tried place⟩
  obtain ⟨c', read, past⟩ := begun
  exact ⟨c', reads_append_of gather read (reads_silent (stopOpenBlocks_silent _ c')), past⟩

theorem reads_leave (kept : Kept uuid t s c) (active : s.done = false) :
    ∃ c', reads gather c (stopOpenBlocksAndAdvance uuid s).2 = some c' ∧
      SettledIn uuid t .none (stopOpenBlocksAndAdvance uuid s).1 c' := by
  unfold stopOpenBlocksAndAdvance
  split
  · next mode => exact ⟨c, rfl, mode, active, kept.past_of_mode (by simp [mode])⟩
  obtain ⟨c', read, past⟩ := reads_appendStop_all kept active
  obtain ⟨calls, frame⟩ := appendStop_frame uuid s
  obtain ⟨mode, done, _⟩ := advance_frame (appendStopOpenBlocks uuid s).1
  refine ⟨c', reads_append_of gather read rfl, mode, ?_, past⟩
  refine done.trans ?_
  rw [frame]
  exact active

theorem reads_ensureBlock (mode : LastMessageType) (kind : ClaudeBlockKind) (single : mode ≠ .tools) (plain : kind ≠ .toolUse)
    (kept : Kept uuid t s c) (active : s.done = false) :
    ∃ c', reads gather c (ensureBlock uuid mode kind s).2 = some c' ∧
      SettledIn uuid t mode (ensureBlock uuid mode kind s).1 c' := by
  unfold ensureBlock
  split
  · next same => exact ⟨c, rfl, same, active, kept.past_of_mode (same ▸ single)⟩
  · obtain ⟨c', read, settled⟩ := reads_leave kept active
    refine ⟨c', reads_append_of gather read ?_, rfl, settled.active, settled.past⟩
    simp [reads, gather, collect, plain]

def earlierCalls (s : ClaudeConvertInfo) (t : Expected) : Nat :=
  if s.lastMessagesType = .tools then t.calls.length - s.toolCalls.length else t.calls.length

theorem enterTools_kept (kept : Kept uuid t s c) (active : s.done = false) :
    ∃ c', reads gather c (enterTools uuid s).2 = some c' ∧ Past uuid t c' (earlierCalls s t) ∧
      Current (enterTools uuid s).1 t c' (earlierCalls s t) := by
  unfold enterTools earlierCalls
  split
  · next mode =>
    rcases kept with ⟨single, _⟩ | ⟨run, past, cur⟩
    · exact absurd (single mode) (by simp [active])
    · have same : t.calls.length - s.toolCalls.length = run := by have := cur.length; omega
      rw [same]
      exact ⟨c, rfl, past, cur⟩
  · obtain ⟨c', read, settled⟩ := reads_leave kept active
    refine ⟨c', reads_append_of gather read rfl, settled.past, ⟨⟨rfl, settled.active⟩, rfl, ?_, ?_, ?_⟩⟩
    · intro place tool found
      cases found
    · intro toolIndex place
      simp only [Emission.andThen, Dict.get_empty]
      constructor
      · nofun
      · intro known
        have := settled.past.identified.byIndex toolIndex _ known
        omega
    · intro id place
      simp only [Emission.andThen, Dict.get_empty]
      constructor
      · nofun
      · intro known
        obtain ⟨_, call, found, _⟩ := (settled.past.identified.byID id _).mp known
        have := (List.getElem?_eq_some_iff.mp found).1
        omega

/-- A chunk has one kind of content, comes before the end and continues no call of an earlier run. -/
def Fits (s : ClaudeConvertInfo) (t : Expected) (delta : ChatDelta) : Prop :=
  (delta.content ≠ "" → s.done = false ∧ delta.toolCalls = [] ∧ delta.reasoning = "") ∧
    (delta.reasoning ≠ "" → s.done = false ∧ delta.toolCalls = []) ∧
    (delta.toolCalls ≠ [] → s.done = false ∧ onwards (earlierCalls s t) t delta.toolCalls.zipIdx = true)

def Undrawn (uuid : Nat → String) (delta : ChatDelta) : Prop :=
  ∀ toolCall ∈ delta.toolCalls, ∀ index, trimSpace toolCall.id ≠ "toolu_" ++ uuid index

theorem noteDelta_nothing (noText : delta.content = "") (noThinking : delta.reasoning = "") :
    t.noteDelta delta = delta.toolCalls.zipIdx.foldl track t := by
  simp [noteDelta, noText, noThinking]

theorem streamContent_kept (kept : Kept uuid t s c) (active : s.done = false) (fits : Fits s t delta)
    (undrawn : Undrawn uuid delta) :
    ∃ c', reads gather c (streamContent uuid delta s).2 = some c' ∧
      Kept uuid (t.noteDelta delta) (streamContent uuid delta s).1 c' ∧
      (streamContent uuid delta s).1.done = false := by
  obtain ⟨textFits, thinkingFits, toolsFit⟩ := fits
  unfold streamContent
  split
  · next some =>
    have noText : delta.content = "" := by
      by_contra text
      exact some (textFits text).2.1
    have noThinking : delta.reasoning = "" := by
      by_contra thinking
      exact some (thinkingFits thinking).2
    obtain ⟨middle, readFirst, past, cur⟩ := enterTools_kept kept active
    obtain ⟨last, readRest, pastAfter, currentAfter⟩ := streamToolCalls_kept past cur
      (fun fragment mem => undrawn fragment.1 (fst_mem_of_mem_zipIdx mem)) (toolsFit some).2
    rw [noteDelta_nothing noText noThinking]
    refine ⟨last, reads_append_of gather readFirst (reads_append_of gather readRest rfl), .inr ⟨_, pastAfter, ?_⟩,
      currentAfter.active.2⟩
    exact ⟨currentAfter.active, currentAfter.length, currentAfter.tools, currentAfter.byIndex, currentAfter.byID⟩
  · next none =>
    have none : delta.toolCalls = [] := not_not.mp none
    split
    · next thinking =>
      have noText : delta.content = "" := by
        by_contra text
        exact thinking (textFits text).2.2
      obtain ⟨middle, read, settled⟩ := reads_ensureBlock .thinking .thinking nofun nofun kept active
      have same : t.noteDelta delta = { t with thinking := t.thinking ++ delta.reasoning } := by
        simp [noteDelta, none, noText]
      rw [same]
      exact ⟨_, reads_append_of gather read rfl,
        (past_thinking settled.past _ _).of_mode (settled.apart nofun), settled.active⟩
    · next noThinking =>
      have noThinking : delta.reasoning = "" := not_not.mp noThinking
      have same : t.noteDelta delta = { t with text := t.text ++ delta.content } := by
        simp [noteDelta, none, noThinking]
      rw [same]
      split
      · obtain ⟨middle, read, settled⟩ := reads_ensureBlock .text .text nofun nofun kept active
        exact ⟨_, reads_append_of gather read rfl,
          (past_text settled.past _ _).of_mode (settled.apart nofun), settled.active⟩
      · next noText =>
        have noText : delta.content = "" := not_not.mp noText
        rw [noText, String.append_empty]
        exact ⟨c, rfl, kept, active⟩

theorem appendCitationDeltas_kept (notes : Option RawAnnotations) (kept : Kept uuid t s c) (active : s.done = false) :
    ∃ c', reads gather c (appendCitationDeltas uuid notes s).2 = some c' ∧
      Kept uuid t (appendCitationDeltas uuid notes s).1 c' ∧ (appendCitationDeltas uuid notes s).1.done = false := by
  unfold appendCitationDeltas
  split
  · exact ⟨c, rfl, kept, active⟩
  obtain ⟨c', read, settled⟩ := reads_ensureBlock .text .text nofun nofun kept active
  refine ⟨c', reads_append_of gather read (reads_silent ?_), settled.kept nofun, settled.active⟩
  intro ev mem
  obtain ⟨_, _, rfl⟩ := mem_map.mp mem
  rfl

theorem reads_ending (kept : Kept uuid t s c) (active : s.done = false) (reason : String) :
    ∃ c', reads gather c ((appendStopOpenBlocks uuid s).2 ++ [.messageDelta reason, .messageStop]) = some c' ∧
      Past uuid t c' t.calls.length := by
  obtain ⟨c', read, past⟩ := reads_appendStop_all kept active
  exact ⟨c', reads_append_of gather read rfl, past⟩

theorem Kept.notes (kept : Kept uuid t s c) (usage : Bool) (finishReason : String) :
    Kept uuid t { s with usage, finishReason } c := by
  rcases kept with settled | ⟨run, past, cur⟩
  · exact .inl settled
  · exact .inr ⟨run, past, cur.active, cur.length, cur.tools, cur.byIndex, cur.byID⟩

theorem finishMessage_kept (usage : Option ChatStreamUsage) (reason : String → String) (kept : Kept uuid t s c)
    (active : s.done = false) :
    ∃ c', reads gather c (finishMessage uuid usage reason s).2 = some c' ∧
      Kept uuid t (finishMessage uuid usage reason s).1 c' := by
  unfold finishMessage
  split
  · obtain ⟨c', read, past⟩ := reads_ending (kept.notes true s.finishReason) active _
    exact ⟨c', read, .inl ⟨fun _ => rfl, past⟩⟩
  · exact ⟨c, rfl, kept⟩

theorem streamChoice_kept {choice : ChatChoice} (usage : Option ChatStreamUsage) (kept : Kept uuid t s c)
    (active : s.done = false) (fits : Fits s t choice.delta) (undrawn : Undrawn uuid choice.delta) :
    ∃ c', reads gather c (streamChoice uuid choice usage s).2 = some c' ∧
      Kept uuid (t.noteDelta choice.delta) (streamChoice uuid choice usage s).1 c' := by
  have noted : ∃ finishReason, s.noteFinish choice = { s with finishReason } := by
    unfold noteFinish
    split
    · exact ⟨s.finishReason, rfl⟩
    · exact ⟨_, rfl⟩
  obtain ⟨finishReason, same⟩ := noted
  unfold streamChoice
  rw [same]
  obtain ⟨first, readContent, keptContent, stillActive⟩ :=
    streamContent_kept (kept.notes s.usage finishReason) active fits undrawn
  obtain ⟨second, readCitations, keptCitations, goesOn⟩ :=
    appendCitationDeltas_kept choice.delta.annotations keptContent stillActive
  split
  · exact ⟨second, reads_append_of gather readContent (reads_append_of gather readCitations rfl), keptCitations⟩
  · obtain ⟨last, readEnd, keptEnd⟩ := finishMessage_kept usage stopReasonOpenAI2Claude keptCitations goesOn
    exact ⟨last, reads_append_of gather readContent (reads_append_of gather readCitations readEnd), keptEnd⟩

def ChunkFits (state : ConvMeta × Expected) (chunk : ChatCompletionsStreamResponse) : Prop :=
  ∀ choice ∈ chunk.choices.head?, Fits state.1.claudeConvertInfo state.2 choice.delta

def ChunkUndrawn (uuid : Nat → String) (chunk : ChatCompletionsStreamResponse) : Prop :=
  ∀ choice ∈ chunk.choices.head?, Undrawn uuid choice.delta

theorem noteDelta_of_done (done : s.done = true) (fits : Fits s t delta) : t.noteDelta delta = t := by
  have ended : s.done ≠ false := by simp [done]
  have noText : delta.content = "" := not_not.mp fun text => ended (fits.1 text).1
  have noThinking : delta.reasoning = "" := not_not.mp fun thinking => ended (fits.2.1 thinking).1
  have none : delta.toolCalls = [] := not_not.mp fun some => ended (fits.2.2 some).1
  rw [noteDelta_nothing noText noThinking, none]
  rfl

theorem streamResponse_kept (count : Nat) {chunk : ChatCompletionsStreamResponse} (kept : Kept uuid t s c)
    (fits : ∀ choice ∈ chunk.choices.head?, Fits s t choice.delta) (undrawn : ChunkUndrawn uuid chunk) :
    ∃ c', reads gather c (streamResponseOpenAI2Claude uuid count chunk s).2 = some c' ∧
      Kept uuid (t.noteChunk chunk) (streamResponseOpenAI2Claude uuid count chunk s).1 c' := by
  unfold streamResponseOpenAI2Claude
  split
  · next done =>
    have same : t.noteChunk chunk = t := by
      unfold noteChunk
      cases choices : chunk.choices with
      | nil => rfl
      | cons choice _ => exact noteDelta_of_done done (fits choice (by simp [choices]))
    rw [same]
    exact ⟨c, rfl, kept⟩
  · next active =>
    have active : s.done = false := by simpa using active
    have begun : ∃ usage, (messageStart count chunk.usage s).1 = { s with usage } ∧
        reads gather c (messageStart count chunk.usage s).2 = some c := by
      unfold messageStart
      split
      · exact ⟨_, rfl, rfl⟩
      · exact ⟨s.usage, rfl, rfl⟩
    obtain ⟨usage, same, readStart⟩ := begun
    have keptStart : Kept uuid t (messageStart count chunk.usage s).1 c := same ▸ kept.notes usage s.finishReason
    have activeStart : (messageStart count chunk.usage s).1.done = false := same ▸ active
    unfold noteChunk
    cases choices : chunk.choices with
    | nil =>
      obtain ⟨c', read, keptEnd⟩ := finishMessage_kept chunk.usage stopReasonOrEndTurn keptStart activeStart
      exact ⟨c', reads_append_of gather readStart read, keptEnd⟩
    | cons choice _ =>
      have here : choice ∈ chunk.choices.head? := by simp [choices]
      have fitsStart : Fits (messageStart count chunk.usage s).1 t choice.delta := same ▸ fits choice here
      obtain ⟨c', read, keptEnd⟩ := streamChoice_kept chunk.usage keptStart activeStart fitsStart (undrawn choice here)
      exact ⟨c', reads_append_of gather readStart read, keptEnd⟩

theorem follows_chunk_kept (chunk : ChatCompletionsStreamResponse) :
    Follows gather (fun st c => (ChunkFits st chunk ∧ ChunkUndrawn uuid chunk) ∧ Kept uuid st.2 st.1.claudeConvertInfo c)
      (fun st c => Kept uuid st.2 st.1.claudeConvertInfo c)
      (Emission.beside (convertChatChunk uuid) noteChunk chunk) := by
  rintro ⟨info, t⟩ c ⟨⟨fits, undrawn⟩, kept⟩
  exact streamResponse_kept (info.sendResponseCount + 1) kept fits undrawn

theorem kept_start (uuid : Nat → String) : Kept uuid {} {} {} := by
  refine .inl ⟨nofun, rfl, rfl, ⟨?_, ?_, nofun⟩, fun _ _ _ _ => rfl, ?_⟩
  · simp
  · simp
  · simp

theorem finalize_kept {info : ConvMeta} (kept : Kept uuid t info.claudeConvertInfo c) :
    ∃ c', reads gather c (finalizeChatStream uuid info).2 = some c' ∧ Past uuid t c' t.calls.length := by
  unfold finalizeChatStream finalizeStreamResponseOpenAI2Claude
  dsimp only
  split
  · next done =>
    rcases kept with ⟨_, past⟩ | ⟨run, _, cur⟩
    · exact ⟨c, rfl, past⟩
    · rw [cur.active.2] at done
      cases done
  · next active => exact reads_ending kept (by simpa using active) _

end

def expected (chunks : List ChatCompletionsStreamResponse) : Expected := chunks.foldl noteChunk {}

def collected (events : List ClaudeStreamEvent) : Collected := events.foldl Collected.collect {}

def Lossless (t : Expected) (c : Collected) : Prop :=
  c.text = t.text ∧ c.thinking = t.thinking ∧
    ∀ call ∈ t.calls, call.id ≠ "" → call.name ≠ "" → c.input call.id = call.arguments

theorem stream_lossless (uuid : Nat → String) {chunks : List ChatCompletionsStreamResponse}
    (undrawn : ∀ chunk ∈ chunks, ChunkUndrawn uuid chunk)
    (guarded : Emission.Guarded (Emission.beside (convertChatChunk uuid) noteChunk) ChunkFits ({}, {}) chunks) :
    Lossless (expected chunks) (collected (convertChatStream uuid chunks {}).2) := by
  obtain ⟨middle, readChunks, kept⟩ := follows_guarded (@follows_chunk_kept uuid) chunks ({}, {}) {}
    ⟨guarded.and_mem undrawn, kept_start uuid⟩
  rw [Emission.each_beside] at readChunks kept
  obtain ⟨last, readEnd, past⟩ := finalize_kept kept
  have read := reads_append_of gather readChunks readEnd
  rw [reads_gather] at read
  have same : collected (convertChatStream uuid chunks {}).2 = last := Option.some.inj read
  rw [same]
  refine ⟨past.text, past.thinking, fun call member => ?_⟩
  obtain ⟨place, found⟩ := mem_iff_getElem?.mp member
  exact past.closed place call (List.getElem?_eq_some_iff.mp found).1 found

instance (s : ClaudeConvertInfo) (t : Expected) (delta : ChatDelta) : Decidable (Fits s t delta) := by
  unfold Fits; infer_instance
instance (state : ConvMeta × Expected) (chunk : ChatCompletionsStreamResponse) : Decidable (ChunkFits state chunk) := by
  unfold ChunkFits; infer_instance
instance (t : Expected) (c : Collected) : Decidable (Lossless t c) := by unfold Lossless; infer_instance

theorem stream_lossless_tools :
    Lossless (expected toolStream) (collected (convertChatStream (fun _ => "") toolStream {}).2) := by
  have undrawn : ∀ chunk ∈ toolStream, ∀ choice ∈ chunk.choices.head?, ∀ toolCall ∈ choice.delta.toolCalls,
      trimSpace toolCall.id ≠ "toolu_" ++ "" := by decide +kernel
  exact stream_lossless (fun _ => "") (fun chunk member choice first toolCall present _ =>
    undrawn chunk member choice first toolCall present) (by decide +kernel)

theorem reasoning_and_text_lossy :
    ¬ Lossless (expected [{ choices := [{ delta := { reasoning := "r", content := "t" } }] }])
      (collected (convertChatStream (fun _ => "")
        [{ choices := [{ delta := { reasoning := "r", content := "t" } }] }] {}).2) := by
  decide +kernel

end Wildflow.Relay.ChatToClaude
