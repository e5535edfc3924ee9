import Wildflow.Relay.ChatToClaude
import Wildflow.Proof.Relay.ClaudeReader

/-!
# The block protocol of the Chat to Claude stream

The blocks that the client has open are the ones that the converter takes for open. The protocol holds for every stream; the
order of the indices holds as long as no block is started before an earlier tool call has its own.
-/

namespace Wildflow.Relay.ChatToClaude
open Wildflow.Store ClaudeStream ClaudeConvertInfo List
variable {kind : ClaudeBlockKind} {delta : ClaudeDelta} {before toolCalls : List ClaudeStreamToolCall} {index : Nat}
  {chunks : List ChatCompletionsStreamResponse} {block : ReadBlock}

def floor (s : ClaudeConvertInfo) : Nat :=
  match s.lastMessagesType with
  | .tools => s.toolCallBaseIndex
  | _ => s.index

def liveKind (s : ClaudeConvertInfo) (index : Nat) : Option ClaudeBlockKind :=
  match s.lastMessagesType with
  | .none => none
  | .text => if index = s.index then some .text else none
  | .thinking => if index = s.index then some .thinking else none
  | .tools => (s.toolCalls[index - s.toolCallBaseIndex]?).bind fun tool => if tool.started then some .toolUse else none

def shape (block : ReadBlock) : ClaudeBlockKind × Bool := (block.kind, block.stopped)

structure Live (s : ClaudeConvertInfo) (m : ClaudeReader) : Prop where
  running : Running m
  active : s.done = false
  placed : ∀ place tool, s.toolCalls[place]? = some tool → tool.blockIndex = s.toolCallBaseIndex + place
  live : ∀ index, floor s ≤ index → (m.blocks.get index).map shape = (liveKind s index).map fun kind => (kind, false)
  settled : ∀ index block, index < floor s → m.blocks.get index = some block → block.stopped = true

def Leading (toolCalls before : List ClaudeStreamToolCall) : Prop :=
  (∀ tool ∈ before, tool.started = true) ∧
    (toolCalls = before ∨ ∃ last, last.started = false ∧ toolCalls = before ++ [last])

def InOrder (s : ClaudeConvertInfo) (m : ClaudeReader) : Prop :=
  match s.lastMessagesType with
  | .none => m.order = List.range s.index
  | .text | .thinking => m.order = List.range (s.index + 1)
  | .tools => ∃ before, Leading s.toolCalls before ∧ m.order = List.range (s.toolCallBaseIndex + before.length)

def Rel (ordered : Prop) (s : ClaudeConvertInfo) (m : ClaudeReader) : Prop := Live s m ∧ (ordered → InOrder s m)

section
variable {s : ClaudeConvertInfo} {m : ClaudeReader} {place : Nat} {tool changed : ClaudeStreamToolCall}

section
variable (leading : Leading toolCalls before) (found : toolCalls[place]? = some tool)
include leading found

theorem leading_getElem (idle : tool.started = false) : place = before.length ∧ toolCalls = before ++ [tool] := by
  obtain ⟨begun, rfl | ⟨last, _, rfl⟩⟩ := leading
  · grind
  · grind

theorem leading_start (idle : tool.started = false) (begun : changed.started = true) :
    place = before.length ∧ Leading (toolCalls.set place changed) (before ++ [changed]) := by
  obtain ⟨rfl, rfl⟩ := leading_getElem leading found idle
  exact ⟨rfl, by grind [Leading], .inl (by simp)⟩

theorem leading_keep (same : changed.started = tool.started) :
    ∃ after, Leading (toolCalls.set place changed) after ∧ after.length = before.length := by
  cases flag : tool.started with
  | false =>
    obtain ⟨rfl, rfl⟩ := leading_getElem leading found flag
    exact ⟨before, ⟨leading.1, .inr ⟨changed, same.trans flag, by simp⟩⟩, rfl⟩
  | true =>
    refine ⟨before.set place changed, ?_, length_set⟩
    grind [Leading]

end

theorem placed_set (placed : ∀ place tool, s.toolCalls[place]? = some tool → tool.blockIndex = s.toolCallBaseIndex + place)
    (found : s.toolCalls[place]? = some tool) (same : changed.blockIndex = tool.blockIndex) :
    ∀ other cur, (s.toolCalls.set place changed)[other]? = some cur →
      cur.blockIndex = s.toolCallBaseIndex + other := by
  grind

theorem live_delta (live : Live s m) (found : m.blocks.get index = some block)
    (text : String) : Live s { m with blocks := m.blocks.set index { block with text } } := by
  obtain ⟨⟨begun, closing, ended⟩, active, placed, live, settled⟩ := live
  refine ⟨⟨begun, closing, ended⟩, active, placed, ?_, ?_⟩
  · grind [shape]
  · grind

theorem live_block (live : Live s m) (above : floor s ≤ index) (here : liveKind s index = some kind) :
    ∃ block, m.blocks.get index = some block ∧ block.kind = kind ∧ block.stopped = false := by
  have got := live.live index above
  rw [here] at got
  obtain ⟨block, found, same⟩ := Option.map_eq_some_iff.mp got
  exact ⟨block, found, congrArg Prod.fst same, congrArg Prod.snd same⟩

theorem live_absent (live : Live s m) (above : floor s ≤ index) (here : liveKind s index = none) :
    m.blocks.get index = none := by
  have got := live.live index above
  rw [here] at got
  exact Option.map_eq_none_iff.mp got

section
variable (mode : s.lastMessagesType = .tools)
include mode

theorem liveKind_tools (index : Nat) :
    liveKind s index = (s.toolCalls[index - s.toolCallBaseIndex]?).bind fun tool =>
      if tool.started then some .toolUse else none := by
  simp only [liveKind, mode]

theorem liveKind_setTools (toolCalls : List ClaudeStreamToolCall) (index : Nat) :
    liveKind { s with toolCalls } index = (toolCalls[index - s.toolCallBaseIndex]?).bind fun tool =>
      if tool.started then some .toolUse else none :=
  liveKind_tools (s := { s with toolCalls }) mode index

theorem floor_tools : floor s = s.toolCallBaseIndex := by
  simp only [floor, mode]

theorem liveKind_tool (live : Live s m) (found : s.toolCalls[place]? = some tool) :
    floor s ≤ tool.blockIndex ∧ liveKind s tool.blockIndex = if tool.started then some .toolUse else none := by
  rw [floor_tools mode, liveKind_tools mode, live.placed place tool found]
  simp [found]

end

theorem live_keep (live : Live s m) (mode : s.lastMessagesType = .tools) (found : s.toolCalls[place]? = some tool)
    (same : changed.started = tool.started) (index : changed.blockIndex = tool.blockIndex) :
    Live { s with toolCalls := s.toolCalls.set place changed } m := by
  refine ⟨live.running, live.active, placed_set live.placed found index, ?_, live.settled⟩
  intro other above
  rw [live.live other above, liveKind_tools mode, liveKind_setTools mode]
  grind

theorem live_start (live : Live s m) (mode : s.lastMessagesType = .tools) (found : s.toolCalls[place]? = some tool)
    (started : changed.started = true) (index : changed.blockIndex = tool.blockIndex)
    (new : shape block = (.toolUse, false)) (order : List Nat) :
    Live { s with toolCalls := s.toolCalls.set place changed }
      { m with blocks := m.blocks.set tool.blockIndex block, order } := by
  have here := live.placed place tool found
  have bottom := floor_tools mode
  refine ⟨⟨live.running.begun, live.running.closing, live.running.ended⟩, live.active,
    placed_set live.placed found index, ?_, ?_⟩
  · intro other above
    have got := live.live other above
    rw [liveKind_tools mode] at got
    rw [liveKind_setTools mode, here]
    dsimp only
    grind [floor_tools]
  · intro other cur below got
    have base : other < s.toolCallBaseIndex := floor_tools mode ▸ below
    rw [here, Dict.get_set_of_ne _ (by omega)] at got
    exact live.settled other cur below got

variable {ordered : Prop}

theorem follows_keepTool (mode : s.lastMessagesType = .tools) (rel : Rel ordered s m)
    (found : s.toolCalls[place]? = some tool) (same : changed.started = tool.started)
    (index : changed.blockIndex = tool.blockIndex) :
    Rel ordered { s with toolCalls := s.toolCalls.set place changed } m := by
  refine ⟨live_keep rel.1 mode found same index, fun want => ?_⟩
  have order := rel.2 want
  simp only [InOrder, mode] at order ⊢
  obtain ⟨before, leading, reached⟩ := order
  obtain ⟨after, leadingAfter, length⟩ := leading_keep leading found same
  exact ⟨after, leadingAfter, length ▸ reached⟩

theorem reads_delta (rel : Rel ordered s m) (above : floor s ≤ index)
    (here : liveKind s index = some kind) (same : delta.kind = kind) :
    ∃ m', reads readClaude m [.blockDelta index delta] = some m' ∧ Rel ordered s m' := by
  obtain ⟨live, order⟩ := rel
  obtain ⟨block, found, sameKind, opened⟩ := live_block live above here
  have read := read_blockDelta live.running found opened (same.trans sameKind.symm)
  exact ⟨_, by rw [reads_cons, read]; rfl, live_delta live found _, order⟩

theorem inOrder_start (mode : s.lastMessagesType = .tools) (live : Live s m) (order : InOrder s m)
    (found : s.toolCalls[place]? = some tool) (idle : tool.started = false) (begun : changed.started = true)
    (blocks : Dict Nat ReadBlock) :
    InOrder { s with toolCalls := s.toolCalls.set place changed } { m with blocks, order := m.order ++ [tool.blockIndex] } := by
  simp only [InOrder, mode] at order ⊢
  obtain ⟨before, leading, reached⟩ := order
  obtain ⟨rfl, leadingAfter⟩ := leading_start leading found idle begun
  refine ⟨_, leadingAfter, ?_⟩
  rw [reached, live.placed _ tool found, length_append, length_singleton, ← Nat.add_assoc, range_succ]

theorem reads_startTool (mode : s.lastMessagesType = .tools) (rel : Rel ordered s m)
    (found : s.toolCalls[place]? = some tool) (unstarted : tool.started = false)
    {ready : ClaudeStreamToolCall} (index : ready.blockIndex = tool.blockIndex) :
    ∃ m', reads readClaude m (startTool ready).2 = some m' ∧
      Rel ordered { s with toolCalls := s.toolCalls.set place (startTool ready).1 } m' := by
  obtain ⟨live, order⟩ := rel
  obtain ⟨above, kind⟩ := liveKind_tool mode live found
  have absent := live_absent live above (by rw [kind, unstarted]; rfl)
  have begun : (startTool ready).1.started = true := rfl
  have read := read_blockStart live.running absent { kind := .toolUse, id := ready.id, name := ready.name }
  let opened : ClaudeReader :=
    { m with blocks := m.blocks.set tool.blockIndex { kind := .toolUse }, order := m.order ++ [tool.blockIndex] }
  have relOpened : Rel ordered { s with toolCalls := s.toolCalls.set place (startTool ready).1 } opened :=
    ⟨live_start live mode found begun index rfl _, fun want => inOrder_start mode live (order want) found unstarted begun _⟩
  have readOpened : reads readClaude m [.blockStart tool.blockIndex { kind := .toolUse, id := ready.id, name := ready.name }] =
      some opened := by
    rw [reads_cons, read]
    rfl
  have found' : (s.toolCalls.set place (startTool ready).1)[place]? = some (startTool ready).1 := by
    simp [(List.getElem?_eq_some_iff.mp found).1]
  obtain ⟨aboveAfter, kindAfter⟩ := liveKind_tool (s := { s with toolCalls := s.toolCalls.set place (startTool ready).1 })
    mode relOpened.1 found'
  have events : (startTool ready).2 =
      [.blockStart tool.blockIndex { kind := .toolUse, id := ready.id, name := ready.name }] ++
        if ready.pendingArguments = "" then []
        else [.blockDelta (startTool ready).1.blockIndex (.inputJson ready.pendingArguments)] := by
    rw [← index]
    rfl
  rw [events]
  split
  · exact ⟨opened, by rw [append_nil, readOpened], relOpened⟩
  · next waiting =>
    have kind : (ClaudeDelta.inputJson ready.pendingArguments).kind = .toolUse := rfl
    obtain ⟨last, readDelta, relLast⟩ := reads_delta relOpened aboveAfter kindAfter kind
    exact ⟨last, reads_append_of readClaude readOpened readDelta, relLast⟩

variable {uuid : Nat → String}

theorem startPendingTool_eq (tool : ClaudeStreamToolCall) :
    startPendingTool uuid tool = (tool, []) ∨ (tool.started = false ∧ tool.name ≠ "" ∧
      ∃ ready, ready.blockIndex = tool.blockIndex ∧ ready.name = tool.name ∧ startPendingTool uuid tool = startTool ready) := by
  unfold startPendingTool
  split
  · exact .inl rfl
  · next waiting =>
    have both : tool.started = false ∧ tool.name ≠ "" := by simpa using waiting
    refine .inr ⟨both.1, both.2, { tool with id := if tool.id = "" then "toolu_" ++ uuid tool.blockIndex else tool.id }, ?_⟩
    exact ⟨rfl, rfl, rfl⟩

theorem follows_startPendingToolAt (place : Nat) :
    Follows readClaude (fun s m => s.lastMessagesType = .tools ∧ Rel ordered s m)
      (fun s m => s.lastMessagesType = .tools ∧ Rel ordered s m) (startPendingToolAt uuid place) := by
  rintro s m ⟨mode, rel⟩
  unfold startPendingToolAt
  split
  · exact ⟨m, rfl, mode, rel⟩
  · next tool found =>
    rcases startPendingTool_eq tool with same | ⟨unstarted, _, ready, index, _, same⟩
    · rw [same]
      exact ⟨m, rfl, mode, follows_keepTool mode rel found rfl rfl⟩
    · rw [same]
      obtain ⟨m', read, relatedAfter⟩ := reads_startTool mode rel found unstarted index
      exact ⟨m', read, mode, relatedAfter⟩

def Nameable (toolCalls : List ClaudeStreamToolCall) : Prop := ∀ tool ∈ toolCalls, tool.started = true ∨ tool.name ≠ ""

theorem startPending_frame (uuid : Nat → String) (places : List Nat) (s : ClaudeConvertInfo) :
    ∃ toolCalls, (Emission.each (startPendingToolAt uuid) places s).1 = { s with toolCalls } ∧
      toolCalls.length = s.toolCalls.length ∧ (Nameable s.toolCalls → Nameable toolCalls) := by
  induction places generalizing s with
  | nil => exact ⟨s.toolCalls, rfl, rfl, id⟩
  | cons place rest ih =>
    have step : ∃ toolCalls, (startPendingToolAt uuid place s).1 = { s with toolCalls } ∧
        toolCalls.length = s.toolCalls.length ∧ (Nameable s.toolCalls → Nameable toolCalls) := by
      unfold startPendingToolAt
      split
      · exact ⟨s.toolCalls, rfl, rfl, id⟩
      · next tool found =>
        refine ⟨_, rfl, length_set, ?_⟩
        intro nameable other mem
        rcases mem_or_eq_of_mem_set mem with old | rfl
        · exact nameable other old
        rcases startPendingTool_eq tool with same | ⟨_, _, ready, _, _, same⟩
        · rw [same]
          exact nameable tool (mem_of_getElem? found)
        · rw [same]
          exact .inl rfl
    obtain ⟨middle, same, length, kept⟩ := step
    obtain ⟨last, sameLast, lengthLast, keptLast⟩ := ih { s with toolCalls := middle }
    refine ⟨last, ?_, lengthLast.trans length, fun nameable => keptLast (kept nameable)⟩
    change (Emission.each (startPendingToolAt uuid) rest (startPendingToolAt uuid place s).1).1 = _
    rw [same, sameLast]

def Tried (place : Nat) (s : ClaudeConvertInfo) : Prop :=
  ∀ tool, s.toolCalls[place]? = some tool → tool.started = true ∨ tool.name = ""

theorem startPendingToolAt_tries (place other : Nat) (s : ClaudeConvertInfo) (already : place = other ∨ Tried other s) :
    Tried other (startPendingToolAt uuid place s).1 := by
  intro cur there
  unfold startPendingToolAt at there
  grind [startPendingTool, startTool, Tried]

theorem startPending_tried (place : Nat) :
    Tried place (Emission.each (startPendingToolAt uuid) (List.range s.toolCalls.length) s).1 := by
  refine @Emission.each_establishes _ _ _ (startPendingToolAt uuid) Tried ?_ ?_ _ place s ?_
  · exact fun place s => startPendingToolAt_tries place place s (.inl rfl)
  · exact fun place other s tried => startPendingToolAt_tries place other s (.inr tried)
  · by_cases inside : place < s.toolCalls.length
    · exact .inl (mem_range.mpr inside)
    · right
      intro tool there
      exact absurd (List.getElem?_eq_some_iff.mp there).1 inside

theorem startPending_started (nameable : Nameable s.toolCalls) :
    ∀ tool ∈ (Emission.each (startPendingToolAt uuid) (List.range s.toolCalls.length) s).1.toolCalls, tool.started = true := by
  intro tool mem
  obtain ⟨place, found⟩ := mem_iff_getElem?.mp mem
  obtain ⟨toolCalls, same, _, kept⟩ := startPending_frame uuid (List.range s.toolCalls.length) s
  rw [same] at mem
  have named := kept nameable tool mem
  have settled := startPending_tried place tool found
  tauto

structure Settled (next : Nat) (m : ClaudeReader) : Prop where
  running : Running m
  stopped : ∀ index block, m.blocks.get index = some block → index < next ∧ block.stopped = true

def Occupied (s : ClaudeConvertInfo) : Prop := s.lastMessagesType = .tools → s.toolCalls ≠ []

def LeaveGuard (s : ClaudeConvertInfo) : Prop := s.lastMessagesType = .tools → Nameable s.toolCalls

theorem follows_startPendingToolBlocks :
    Follows readClaude (Rel ordered) (Rel ordered) (startPendingToolBlocks uuid) := by
  intro s m rel
  unfold startPendingToolBlocks
  split
  · exact ⟨m, rfl, rel⟩
  · next mode =>
    have mode : s.lastMessagesType = .tools := not_not.mp mode
    obtain ⟨m', read, _, relatedAfter⟩ := follows_each (fun place _ => follows_startPendingToolAt place) s m ⟨mode, rel⟩
    exact ⟨m', read, relatedAfter⟩

theorem startPendingToolBlocks_frame (uuid : Nat → String) (s : ClaudeConvertInfo) :
    ∃ toolCalls, (startPendingToolBlocks uuid s).1 = { s with toolCalls } ∧ toolCalls.length = s.toolCalls.length ∧
      (LeaveGuard s → s.lastMessagesType = .tools → ∀ tool ∈ toolCalls, tool.started = true) := by
  unfold startPendingToolBlocks
  split
  · next mode => exact ⟨s.toolCalls, rfl, rfl, fun _ tools => absurd tools mode⟩
  obtain ⟨toolCalls, same, length, _⟩ := startPending_frame uuid (List.range s.toolCalls.length) s
  refine ⟨toolCalls, same, length, fun guard tools => ?_⟩
  have begun := @startPending_started s uuid (guard tools)
  rw [same] at begun
  exact begun

theorem order_advance (order : InOrder s m)
    (begun : s.lastMessagesType = .tools → ∀ tool ∈ s.toolCalls, tool.started = true) :
    m.order = List.range s.advance.index := by
  cases mode : s.lastMessagesType with
  | none => simpa [InOrder, advance, mode] using order
  | text => simpa [InOrder, advance, mode] using order
  | thinking => simpa [InOrder, advance, mode] using order
  | tools =>
    simp only [InOrder, mode] at order
    obtain ⟨before, ⟨_, rfl | ⟨last, idle, same⟩⟩, reached⟩ := order
    · simpa [advance, mode] using reached
    · rw [begun mode last (by rw [same]; simp)] at idle
      cases idle

theorem range_of_inOrder (order : InOrder s m) : m.order = List.range m.order.length := by
  grind [InOrder]

structure Stopped (ordered : Prop) (s s' : ClaudeConvertInfo) (m : ClaudeReader) : Prop where
  frame : ∃ toolCalls, s' = { s with toolCalls }
  placed : ∀ place tool, s'.toolCalls[place]? = some tool → tool.blockIndex = s'.toolCallBaseIndex + place
  settled : Settled s'.advance.index m
  order : ordered → m.order = List.range m.order.length
  next : ordered → LeaveGuard s → m.order = List.range s'.advance.index

theorem rel_of_settled (settled : Settled s.index m) (active : s.done = false) (mode : s.lastMessagesType = .none)
    (placed : ∀ place tool, s.toolCalls[place]? = some tool → tool.blockIndex = s.toolCallBaseIndex + place)
    (order : ordered → m.order = List.range s.index) : Rel ordered s m := by
  refine ⟨⟨settled.running, active, placed, ?_, ?_⟩, fun want => ?_⟩
  · intro index above
    have bottom : floor s = s.index := by simp only [floor, mode]
    cases found : m.blocks.get index with
    | none => simp [liveKind, mode]
    | some block =>
      have inside := (settled.stopped index block found).1
      omega
  · exact fun index block _ found => (settled.stopped index block found).2
  · simp only [InOrder, mode]
    exact order want

theorem advance_frame (s : ClaudeConvertInfo) :
    s.advance.lastMessagesType = .none ∧ s.advance.done = s.done ∧
      ((s.advance.toolCalls = s.toolCalls ∧ s.advance.toolCallBaseIndex = s.toolCallBaseIndex) ∨ s.advance.toolCalls = []) := by
  unfold advance
  cases mode : s.lastMessagesType <;> simp [mode]

theorem rel_advance {s' : ClaudeConvertInfo} (active : s.done = false) (stopped : Stopped ordered s s' m)
    (guard : ordered → LeaveGuard s) : Rel ordered s'.advance m := by
  obtain ⟨cleared, done, kept⟩ := advance_frame s'
  refine rel_of_settled stopped.settled ?_ cleared ?_ fun want => stopped.next want (guard want)
  · obtain ⟨toolCalls, rfl⟩ := stopped.frame
    exact done.trans active
  intro place tool found
  rcases kept with ⟨sameTools, sameBase⟩ | empty
  · rw [sameTools] at found
    rw [sameBase]
    exact stopped.placed place tool found
  · rw [empty] at found
    cases found

def modeOf : ClaudeBlockKind → LastMessageType
  | .text => .text
  | .thinking => .thinking
  | .toolUse => .tools

section
variable (live : Live s m)
include live

theorem blockIndices_nodup : ((s.toolCalls.filter (·.started)).map (·.blockIndex)).Nodup := by
  have all : s.toolCalls.map (·.blockIndex) = (List.range s.toolCalls.length).map (s.toolCallBaseIndex + ·) := by
    apply ext_getElem?
    intro place
    rw [List.getElem?_map, List.getElem?_map]
    cases found : s.toolCalls[place]? with
    | none => simp [List.getElem?_eq_none_iff.mp found]
    | some tool => simp [(List.getElem?_eq_some_iff.mp found).1, live.placed place tool found]
  have nodup : (s.toolCalls.map (·.blockIndex)).Nodup := by
    rw [all]
    exact nodup_range.map (fun _ _ => Nat.add_left_cancel)
  exact nodup.sublist (filter_sublist.map _)

theorem settled_of_none (mode : s.lastMessagesType = .none) : Settled s.index m := by
  refine ⟨live.running, ?_⟩
  intro index block found
  have bottom : floor s = s.index := by simp only [floor, mode]
  by_cases above : floor s ≤ index
  · have absent := live_absent live above (by simp only [liveKind, mode])
    rw [absent] at found
    cases found
  · exact ⟨by omega, live.settled index block (by omega) found⟩

theorem reads_stop_one (bottom : floor s = s.index)
    (kinds : ∀ index, liveKind s index = if index = s.index then some kind else none) :
    ∃ m', reads readClaude m [.blockStop s.index] = some m' ∧ Settled (s.index + 1) m' ∧ m'.order = m.order := by
  have here : liveKind s s.index = some kind := by simp [kinds]
  obtain ⟨block, found, _, opened⟩ := live_block live (by omega) here
  obtain ⟨m', read, busy, order, blocks⟩ := reads_stops live.running (nodup_singleton s.index) (by grind)
  have absent := fun index (above : floor s ≤ index) => live_absent live above
  have settled := live.settled
  exact ⟨m', read, ⟨busy, by grind⟩, order⟩

theorem reads_stop_tools (mode : s.lastMessagesType = .tools) :
    ∃ m', reads readClaude m ((s.toolCalls.filter (·.started)).map fun tool => .blockStop tool.blockIndex) = some m' ∧
      Settled (s.toolCallBaseIndex + s.toolCalls.length) m' ∧ m'.order = m.order := by
  have bottom := floor_tools mode
  obtain ⟨m', read, busy, order, blocks⟩ := reads_stops live.running (blockIndices_nodup live) (by
    intro index mem
    obtain ⟨tool, among, rfl⟩ := mem_map.mp mem
    obtain ⟨present, begun⟩ := mem_filter.mp among
    obtain ⟨place, found⟩ := mem_iff_getElem?.mp present
    obtain ⟨above, kind⟩ := liveKind_tool mode live found
    rw [begun, if_pos rfl] at kind
    obtain ⟨block, foundBlock, _, opened⟩ := live_block live above kind
    exact ⟨block, foundBlock, opened⟩)
  refine ⟨m', by rw [map_map] at read; exact read, ⟨busy, ?_⟩, order⟩
  have kinds := live.live
  simp only [liveKind_tools mode] at kinds
  have settled := live.settled
  have placed := live.placed
  intro index cur got
  rw [blocks] at got
  split at got
  · next mem =>
    obtain ⟨tool, among, rfl⟩ := mem_map.mp mem
    obtain ⟨place, found⟩ := mem_iff_getElem?.mp (mem_filter.mp among).1
    obtain ⟨block, _, rfl⟩ := Option.map_eq_some_iff.mp got
    have inside := (List.getElem?_eq_some_iff.mp found).1
    have index := live.placed place tool found
    exact ⟨by omega, rfl⟩
  · next other => grind

theorem reads_stopOpenBlocks (occupied : Occupied s) :
    ∃ m', reads readClaude m s.stopOpenBlocks = some m' ∧ Settled s.advance.index m' ∧ m'.order = m.order := by
  unfold stopOpenBlocks advance
  cases mode : s.lastMessagesType with
  | none => exact ⟨m, rfl, settled_of_none live mode, rfl⟩
  | text => exact reads_stop_one live (by simp only [floor, mode]) (fun index => by simp only [liveKind, mode]; rfl)
  | thinking => exact reads_stop_one live (by simp only [floor, mode]) (fun index => by simp only [liveKind, mode]; rfl)
  | tools =>
    simp only [occupied mode, if_false]
    exact reads_stop_tools live mode

theorem absent_of_none (mode : s.lastMessagesType = .none) {index : Nat} (above : s.index ≤ index) :
    m.blocks.get index = none := by
  refine live_absent live ?_ (by simp only [liveKind, mode])
  simpa only [floor, mode] using above

end

theorem reads_appendStop (uuid : Nat → String) (rel : Rel ordered s m) (occupied : Occupied s) :
    ∃ m', reads readClaude m (appendStopOpenBlocks uuid s).2 = some m' ∧
      Stopped ordered s (appendStopOpenBlocks uuid s).1 m' := by
  obtain ⟨middle, readPending, live, order⟩ := @follows_startPendingToolBlocks ordered uuid s m rel
  obtain ⟨toolCalls, same, length, begun⟩ := startPendingToolBlocks_frame uuid s
  have occupiedAfter : Occupied (startPendingToolBlocks uuid s).1 := by
    rw [same]
    intro mode empty
    exact occupied mode (length_eq_zero_iff.mp (length ▸ congrArg List.length empty))
  obtain ⟨m', readStops, settled, sameOrder⟩ := reads_stopOpenBlocks live occupiedAfter
  refine ⟨m', reads_append_of readClaude readPending readStops, ⟨toolCalls, same⟩, live.placed, settled, ?_, ?_⟩
  · grind [range_of_inOrder]
  intro want guard
  have startedAfter : (startPendingToolBlocks uuid s).1.lastMessagesType = .tools →
      ∀ tool ∈ (startPendingToolBlocks uuid s).1.toolCalls, tool.started = true := by
    rw [same]
    exact begun guard
  rw [sameOrder]
  exact order_advance (order want) startedAfter

theorem follows_stopOpenBlocksAndAdvance :
    Follows readClaude (fun s m => Rel ordered s m ∧ Occupied s ∧ (ordered → LeaveGuard s))
      (fun s m => Rel ordered s m ∧ s.lastMessagesType = .none) (stopOpenBlocksAndAdvance uuid) := by
  rintro s m ⟨rel, occupied, guard⟩
  unfold stopOpenBlocksAndAdvance
  split
  · next mode => exact ⟨m, rfl, rel, mode⟩
  · obtain ⟨m', read, stopped⟩ := reads_appendStop uuid rel occupied
    exact ⟨m', reads_append_of readClaude read rfl, rel_advance rel.1.active stopped guard, (advance_frame _).1⟩

theorem occupied_of_mode {mode : LastMessageType} (other : mode ≠ .tools) (cur : s.lastMessagesType = mode) : Occupied s :=
  fun tools => absurd (cur.symm.trans tools) other

theorem follows_enterTools :
    Follows readClaude (fun s m => Rel ordered s m ∧ Occupied s) (fun s m => Rel ordered s m ∧ s.lastMessagesType = .tools)
      (enterTools uuid) := by
  rintro s m ⟨rel, occupied⟩
  unfold enterTools
  split
  · next mode => exact ⟨m, rfl, rel, mode⟩
  · next mode =>
    obtain ⟨middle, read, ⟨live, order⟩, cleared⟩ := @follows_stopOpenBlocksAndAdvance ordered uuid s m
      ⟨rel, occupied, fun _ tools => absurd tools mode⟩
    have settled := settled_of_none live cleared
    refine ⟨middle, reads_append_of readClaude read rfl, ⟨⟨live.running, live.active, ?_, ?_, ?_⟩, ?_⟩, rfl⟩
    · intro place tool found
      cases found
    · intro index above
      rw [absent_of_none live cleared above]
      rfl
    · exact fun index block _ found => (settled.stopped index block found).2
    · intro want
      have ordering := order want
      simp only [InOrder, cleared] at ordering
      exact ⟨[], ⟨by simp, .inl rfl⟩, ordering⟩

theorem findToolCall_some {toolIndex : Int} {incomingID : String} (here : s.findToolCall toolIndex incomingID = some place) :
    ∃ tool, s.toolCalls[place]? = some tool := by
  obtain ⟨_, fits⟩ := Option.filter_eq_some_iff.mp here
  cases found : s.toolCalls[place]? with
  | none => simp [found] at fits
  | some tool => exact ⟨tool, rfl⟩

theorem reads_toolFragment (mode : s.lastMessagesType = .tools) (rel : Rel ordered s m)
    (found : s.toolCalls[place]? = some tool) (toolCall : ToolCallResponse) :
    ∃ m', reads readClaude m (toolFragment toolCall tool).2 = some m' ∧
      Rel ordered { s with toolCalls := s.toolCalls.set place (toolFragment toolCall tool).1 } m' := by
  have sameIndex : (extendTool toolCall tool).blockIndex = tool.blockIndex := rfl
  have sameStarted : (extendTool toolCall tool).started = tool.started := rfl
  unfold toolFragment
  dsimp only
  split
  · next ready =>
    have unstarted : tool.started = false := by
      simp only [Bool.and_eq_true, Bool.not_eq_true'] at ready
      exact ready.1.1
    exact reads_startTool mode rel found unstarted sameIndex
  · have kept := follows_keepTool mode rel found sameStarted sameIndex
    split
    · next writes =>
      have begun : tool.started = true := by
        simp only [Bool.and_eq_true] at writes
        exact writes.1
      obtain ⟨above, kind⟩ := liveKind_tool mode rel.1 found
      rw [begun, if_pos rfl] at kind
      have written : (ClaudeDelta.inputJson toolCall.arguments).kind = .toolUse := rfl
      obtain ⟨m', read, relatedAfter⟩ := reads_delta rel above kind written
      exact ⟨m', read, follows_keepTool mode relatedAfter found sameStarted sameIndex⟩
    · exact ⟨m, rfl, kept⟩

theorem rel_newTool (mode : s.lastMessagesType = .tools) (rel : Rel ordered s m)
    (guard : ordered → ∀ tool ∈ s.toolCalls, tool.started = true) (idle : tool.started = false)
    (index : tool.blockIndex = s.toolCallBaseIndex + s.toolCalls.length) :
    Rel ordered { s with toolCalls := s.toolCalls ++ [tool] } m := by
  obtain ⟨live, order⟩ := rel
  refine ⟨⟨live.running, live.active, ?_, ?_, live.settled⟩, ?_⟩
  · have placed := live.placed
    grind
  · intro other above
    rw [live.live other above, liveKind_tools mode, liveKind_setTools mode]
    grind
  · intro want
    have ordering := order want
    simp only [InOrder, mode] at ordering ⊢
    obtain ⟨before, ⟨begun, rfl | ⟨last, waiting, same⟩⟩, reached⟩ := ordering
    · exact ⟨s.toolCalls, ⟨begun, .inr ⟨tool, idle, rfl⟩⟩, reached⟩
    · grind

def FragmentGuard (s : ClaudeConvertInfo) (fragment : ToolCallResponse × Nat) : Prop :=
  s.findToolCall (fragment.1.index.getD fragment.2) (trimSpace fragment.1.id) = none →
    ∀ tool ∈ s.toolCalls, tool.started = true

theorem rel_maps (rel : Rel ordered s m) (byIndex : Dict Int Nat) (byID : Dict String Nat) :
    Rel ordered { s with toolCallByIndex := byIndex, toolCallByID := byID } m :=
  ⟨⟨rel.1.running, rel.1.active, rel.1.placed, rel.1.live, rel.1.settled⟩, rel.2⟩

theorem follows_streamToolCall (fragment : ToolCallResponse × Nat) :
    Follows readClaude
      (fun s m => (ordered → FragmentGuard s fragment) ∧ Rel ordered s m ∧ s.lastMessagesType = .tools)
      (fun s m => Rel ordered s m ∧ s.lastMessagesType = .tools ∧ s.toolCalls ≠ []) (streamToolCall fragment) := by
  rintro s m ⟨guard, rel, mode⟩
  unfold streamToolCall
  dsimp only
  cases known : s.findToolCall (fragment.1.index.getD fragment.2) (trimSpace fragment.1.id) with
  | some place =>
    obtain ⟨tool, found⟩ := findToolCall_some known
    obtain ⟨m', read, relatedAfter⟩ := reads_toolFragment mode rel found fragment.1
    simp only [Option.isSome_some, if_true, Option.getD_some, found]
    exact ⟨m', read, rel_maps relatedAfter _ _, mode, by simpa using ne_nil_of_mem (mem_of_getElem? found)⟩
  | none =>
    let fresh : ClaudeStreamToolCall := { blockIndex := s.toolCallBaseIndex + s.toolCalls.length }
    have unstarted : fresh.started = false := rfl
    have opened := rel_newTool mode rel (fun want => guard want known) unstarted rfl
    have found : (s.toolCalls ++ [fresh])[s.toolCalls.length]? = some fresh := by simp
    obtain ⟨m', read, relatedAfter⟩ := reads_toolFragment (s := { s with toolCalls := s.toolCalls ++ [fresh] })
      mode opened found fragment.1
    simp only [Option.isSome_none, Bool.false_eq_true, if_false, Option.getD_none]
    have same : ((s.toolCalls ++ [fresh])[s.toolCalls.length]?).getD fresh = fresh := by rw [found]; rfl
    rw [same]
    exact ⟨m', read, rel_maps relatedAfter _ _, mode, by simp⟩

theorem rel_leaveToolCalls (rel : Rel ordered s m) (mode : s.lastMessagesType = .tools) :
    Rel ordered s.leaveToolCalls m := by
  obtain ⟨⟨busy, active, placed, live, settled⟩, order⟩ := rel
  refine ⟨⟨busy, active, placed, ?_, ?_⟩, ?_⟩
  all_goals grind [leaveToolCalls, floor, liveKind, InOrder]

theorem follows_streamToolCalls {toolCalls : List ToolCallResponse} (some : toolCalls ≠ []) :
    Follows readClaude (fun s m => Rel ordered s m ∧ Occupied s ∧
        (ordered → Emission.Guarded streamToolCall FragmentGuard (enterTools uuid s).1 toolCalls.zipIdx))
      (fun s m => Rel ordered s m ∧ Occupied s) (streamToolCalls uuid toolCalls) := by
  rintro s m ⟨rel, occupied, guard⟩
  obtain ⟨entered, readEnter, relatedEnter, mode⟩ := follows_enterTools s m ⟨rel, occupied⟩
  have guarded := Emission.guarded_of_imp guard
  obtain ⟨first, rest, fragments⟩ : ∃ first rest, toolCalls.zipIdx = first :: rest := by
    cases toolCalls with
    | nil => exact absurd rfl some
    | cons toolCall more => exact ⟨_, _, zipIdx_cons⟩
  rw [fragments] at guarded
  obtain ⟨opened, readFirst, nextOpened⟩ := follows_streamToolCall first _ entered ⟨guarded.1, relatedEnter, mode⟩
  obtain ⟨last, readRest, relatedLast, modeLast, filled⟩ := follows_guarded
    (fun fragment => (follows_streamToolCall fragment).of_imp fun s m here => ⟨here.1, here.2.1, here.2.2.1⟩) rest _ opened
    ⟨guarded.2, nextOpened⟩
  have readFragments := reads_append_of readClaude readFirst readRest
  unfold streamToolCalls
  rw [fragments]
  refine ⟨last, reads_append_of readClaude readEnter (reads_append_of readClaude readFragments rfl), ?_⟩
  exact ⟨rel_leaveToolCalls relatedLast modeLast, fun _ => filled⟩

def ContentGuard (uuid : Nat → String) (s : ClaudeConvertInfo) (delta : ChatDelta) : Prop :=
  if delta.toolCalls ≠ [] then Emission.Guarded streamToolCall FragmentGuard (enterTools uuid s).1 delta.toolCalls.zipIdx
  else delta.reasoning ≠ "" ∨ delta.content ≠ "" → LeaveGuard s

section
variable (single : kind ≠ .toolUse)
include single

theorem liveKind_mode (mode : s.lastMessagesType = modeOf kind) :
    floor s = s.index ∧ ∀ index, liveKind s index = if index = s.index then some kind else none := by
  cases kind with
  | toolUse => exact absurd rfl single
  | text => exact ⟨by simp only [floor, mode, modeOf], fun index => by simp only [liveKind, mode, modeOf]⟩
  | thinking => exact ⟨by simp only [floor, mode, modeOf], fun index => by simp only [liveKind, mode, modeOf]⟩

theorem rel_open (mode : s.lastMessagesType = .none) (rel : Rel ordered s m) :
    Rel ordered { s with lastMessagesType := modeOf kind }
      { m with blocks := m.blocks.set s.index { kind }, order := m.order ++ [s.index] } := by
  obtain ⟨live, order⟩ := rel
  obtain ⟨bottom, kinds⟩ := liveKind_mode (s := { s with lastMessagesType := modeOf kind }) single rfl
  have bottomBefore : floor s = s.index := by simp only [floor, mode]
  have absent := fun index => @absent_of_none _ _ live mode index
  have settled := live.settled
  refine ⟨⟨⟨live.running.begun, live.running.closing, live.running.ended⟩, live.active, live.placed, ?_, ?_⟩, ?_⟩
  · intro index above
    rw [kinds]
    rw [bottom] at above
    grind [shape]
  · grind
  · intro want
    have ordering := order want
    simp only [InOrder, mode] at ordering
    cases kind with
    | toolUse => exact absurd rfl single
    | text => simp only [InOrder, modeOf, ordering, range_succ]
    | thinking => simp only [InOrder, modeOf, ordering, range_succ]

theorem follows_ensureBlock :
    Follows readClaude (fun s m => Rel ordered s m ∧ Occupied s ∧ (ordered → LeaveGuard s))
      (fun s m => Rel ordered s m ∧ s.lastMessagesType = modeOf kind) (ensureBlock uuid (modeOf kind) kind) := by
  rintro s m ⟨rel, occupied, guard⟩
  unfold ensureBlock
  split
  · next mode => exact ⟨m, rfl, rel, mode⟩
  obtain ⟨middle, readStops, ⟨live, order⟩, mode⟩ :=
    @follows_stopOpenBlocksAndAdvance ordered uuid s m ⟨rel, occupied, guard⟩
  have absent := absent_of_none live mode le_rfl
  refine ⟨_, reads_append_of readClaude readStops ?_, rel_open single mode ⟨live, order⟩, rfl⟩
  dsimp only
  rw [reads_cons, read_blockStart live.running absent]
  rfl

theorem reads_singleDelta (rel : Rel ordered s m)
    (mode : s.lastMessagesType = modeOf kind) (same : delta.kind = kind) :
    ∃ m', reads readClaude m [.blockDelta s.index delta] = some m' ∧ Rel ordered s m' := by
  obtain ⟨bottom, kinds⟩ := liveKind_mode single mode
  exact reads_delta rel (by omega) (by simp [kinds]) same

theorem follows_single (same : delta.kind = kind) :
    Follows readClaude (fun s m => Rel ordered s m ∧ Occupied s ∧ (ordered → LeaveGuard s))
      (fun s m => Rel ordered s m ∧ Occupied s)
      ((ensureBlock uuid (modeOf kind) kind).andThen fun s => (s, [.blockDelta s.index delta])) := by
  refine follows_andThen (follows_ensureBlock single) ?_
  rintro s m ⟨rel, mode⟩
  obtain ⟨m', read, relatedAfter⟩ := reads_singleDelta single rel mode same
  have other : modeOf kind ≠ .tools := by cases kind <;> first | exact absurd rfl single | decide
  exact ⟨m', read, relatedAfter, occupied_of_mode other mode⟩

end

theorem reads_citations (rel : Rel ordered s m) (mode : s.lastMessagesType = .text) (citations : List ClaudeCitation) :
    ∃ m', reads readClaude m (citations.map fun citation => .blockDelta s.index (.citations citation)) = some m' ∧
      Rel ordered s m' := by
  induction citations generalizing m with
  | nil => exact ⟨m, rfl, rel⟩
  | cons citation rest ih =>
    have single : ClaudeBlockKind.text ≠ .toolUse := by decide
    have kind : (ClaudeDelta.citations citation).kind = .text := rfl
    obtain ⟨next, readFirst, relatedNext⟩ := reads_singleDelta single rel mode kind
    obtain ⟨last, readRest, relatedLast⟩ := ih relatedNext
    exact ⟨last, reads_append_of readClaude readFirst readRest, relatedLast⟩

theorem follows_appendCitationDeltas (annotations : Option RawAnnotations) :
    Follows readClaude
      (fun s m => Rel ordered s m ∧ Occupied s ∧ (ordered → chatAnnotationsToClaude annotations ≠ [] → LeaveGuard s))
      (fun s m => Rel ordered s m ∧ Occupied s) (appendCitationDeltas uuid annotations) := by
  rintro s m ⟨rel, occupied, guard⟩
  unfold appendCitationDeltas
  by_cases none : chatAnnotationsToClaude annotations = []
  · simp only [none, if_true]
    exact ⟨m, rfl, rel, occupied⟩
  simp only [none, if_false]
  have single : ClaudeBlockKind.text ≠ .toolUse := by decide
  obtain ⟨middle, readOpen, relatedOpen, mode⟩ := follows_ensureBlock single s m
    ⟨rel, occupied, fun want => guard want none⟩
  obtain ⟨last, readDeltas, relatedLast⟩ := reads_citations relatedOpen mode (chatAnnotationsToClaude annotations)
  exact ⟨last, reads_append_of readClaude readOpen readDeltas, relatedLast, occupied_of_mode (by decide) mode⟩

theorem follows_streamContent (delta : ChatDelta) :
    Follows readClaude (fun s m => Rel ordered s m ∧ Occupied s ∧ (ordered → ContentGuard uuid s delta))
      (fun s m => Rel ordered s m ∧ Occupied s) (streamContent uuid delta) := by
  unfold streamContent ContentGuard
  split
  · next some => exact follows_streamToolCalls some
  split
  · next written =>
    have single : ClaudeBlockKind.thinking ≠ .toolUse := by decide
    have kind : (ClaudeDelta.thinking delta.reasoning).kind = .thinking := rfl
    exact (follows_single single kind).of_imp fun s m here =>
      ⟨here.1, here.2.1, fun want => here.2.2 want (.inl written)⟩
  split
  · next written =>
    have single : ClaudeBlockKind.text ≠ .toolUse := by decide
    have kind : (ClaudeDelta.text delta.content).kind = .text := rfl
    exact (follows_single single kind).of_imp fun s m here =>
      ⟨here.1, here.2.1, fun want => here.2.2 want (.inr written)⟩
  · exact fun s m here => ⟨m, rfl, here.1, here.2.1⟩

def Told (ordered : Prop) (s : ClaudeConvertInfo) (m : ClaudeReader) : Prop :=
  (s.done = true ∧ m.ended = true ∧ (ordered → m.order = List.range m.order.length)) ∨ (Rel ordered s m ∧ Occupied s)

theorem reads_end (uuid : Nat → String) (rel : Rel ordered s m) (occupied : Occupied s) (stopReason : String) :
    ∃ m', reads readClaude m ((appendStopOpenBlocks uuid s).2 ++ [.messageDelta stopReason, .messageStop]) = some m' ∧
      m'.ended = true ∧ (ordered → m'.order = List.range m'.order.length) := by
  obtain ⟨middle, read, stopped⟩ := reads_appendStop uuid rel occupied
  have finish := reads_finish stopped.settled.running
    (fun index block found => (stopped.settled.stopped index block found).2) stopReason
  exact ⟨_, reads_append_of readClaude read finish, rfl, stopped.order⟩

theorem rel_usage (rel : Rel ordered s m) (usage : Bool) (finishReason : String) :
    Rel ordered { s with usage, finishReason } m :=
  ⟨⟨rel.1.running, rel.1.active, rel.1.placed, rel.1.live, rel.1.settled⟩, rel.2⟩

theorem follows_finishMessage (usage : Option ChatStreamUsage) (stopReason : String → String) :
    Follows readClaude (fun s m => Rel ordered s m ∧ Occupied s) (Told ordered) (finishMessage uuid usage stopReason) := by
  rintro s m ⟨rel, occupied⟩
  unfold finishMessage
  split
  · obtain ⟨m', read, ended, order⟩ := reads_end uuid (rel_usage rel true s.finishReason) occupied
      (stopReason (appendStopOpenBlocks uuid { s with usage := true }).1.finishReason)
    exact ⟨m', read, .inl ⟨rfl, ended, order⟩⟩
  · exact ⟨m, rfl, .inr ⟨rel, occupied⟩⟩

def ChoiceGuard (uuid : Nat → String) (s : ClaudeConvertInfo) (choice : ChatChoice) : Prop :=
  ContentGuard uuid (s.noteFinish choice) choice.delta ∧
    (chatAnnotationsToClaude choice.delta.annotations ≠ [] → LeaveGuard (streamContent uuid choice.delta (s.noteFinish choice)).1)

theorem follows_streamChoice (choice : ChatChoice) (usage : Option ChatStreamUsage) :
    Follows readClaude (fun s m => Rel ordered s m ∧ Occupied s ∧ (ordered → ChoiceGuard uuid s choice)) (Told ordered)
      (streamChoice uuid choice usage) := by
  rintro s m ⟨rel, occupied, guard⟩
  have relatedNoted : Rel ordered (s.noteFinish choice) m := by grind [noteFinish, rel_usage]
  have occupiedNoted : Occupied (s.noteFinish choice) := by
    unfold noteFinish
    split <;> exact occupied
  obtain ⟨middle, readContent, relatedMiddle, occupiedMiddle⟩ := follows_streamContent choice.delta _ m
    ⟨relatedNoted, occupiedNoted, fun want => (guard want).1⟩
  obtain ⟨cited, readCitations, relatedCited, occupiedCited⟩ := follows_appendCitationDeltas choice.delta.annotations _ middle
    ⟨relatedMiddle, occupiedMiddle, fun want => (guard want).2⟩
  unfold streamChoice
  split
  · exact ⟨cited, reads_append_of readClaude readContent (reads_append_of readClaude readCitations rfl),
      .inr ⟨relatedCited, occupiedCited⟩⟩
  · obtain ⟨last, readFinish, told⟩ := follows_finishMessage usage stopReasonOpenAI2Claude _ cited ⟨relatedCited, occupiedCited⟩
    exact ⟨last, reads_append_of readClaude readContent (reads_append_of readClaude readCitations readFinish), told⟩

def begunState (info : ConvMeta) (chunk : ChatCompletionsStreamResponse) : ClaudeConvertInfo :=
  (messageStart (info.sendResponseCount + 1) chunk.usage info.claudeConvertInfo).1

/-- No block is opened before every earlier tool call has one, or a name to get it. -/
def ChunkGuard (uuid : Nat → String) (info : ConvMeta) (chunk : ChatCompletionsStreamResponse) : Prop :=
  info.claudeConvertInfo.done = true ∨ ∀ choice ∈ chunk.choices.head?, ChoiceGuard uuid (begunState info chunk) choice

def Session (ordered : Prop) (info : ConvMeta) (m : ClaudeReader) : Prop :=
  (info = {} ∧ m = {}) ∨ (0 < info.sendResponseCount ∧ Told ordered info.claudeConvertInfo m)

theorem rel_begun (usage : Bool) : Rel ordered { usage } { begun := true } := by
  refine rel_of_settled ⟨⟨rfl, rfl, rfl⟩, ?_⟩ rfl rfl ?_ fun _ => rfl
  · intro index block found
    cases found
  · intro place tool found
    cases found

theorem follows_body (chunk : ChatCompletionsStreamResponse) :
    Follows readClaude
      (fun s m => Rel ordered s m ∧ Occupied s ∧ (ordered → ∀ choice ∈ chunk.choices.head?, ChoiceGuard uuid s choice))
      (Told ordered) (match chunk.choices with
        | [] => finishMessage uuid chunk.usage stopReasonOrEndTurn
        | choice :: _ => streamChoice uuid choice chunk.usage) := by
  cases chunk.choices with
  | nil => exact (follows_finishMessage chunk.usage stopReasonOrEndTurn).of_imp fun s m here => ⟨here.1, here.2.1⟩
  | cons choice others =>
    exact (follows_streamChoice choice chunk.usage).of_imp fun s m here =>
      ⟨here.1, here.2.1, fun want => here.2.2 want choice rfl⟩

theorem follows_chunk (chunk : ChatCompletionsStreamResponse) :
    Follows readClaude (fun info m => (ordered → ChunkGuard uuid info chunk) ∧ Session ordered info m)
      (fun info m => 0 < info.sendResponseCount ∧ Told ordered info.claudeConvertInfo m) (convertChatChunk uuid chunk) := by
  rintro info m ⟨guard, session⟩
  unfold convertChatChunk streamResponseOpenAI2Claude
  dsimp only
  by_cases done : info.claudeConvertInfo.done = true
  · rw [if_pos done]
    rcases session with ⟨rfl, rfl⟩ | ⟨_, ended | ⟨rel, _⟩⟩
    · cases done
    · exact ⟨m, rfl, Nat.succ_pos _, .inl ended⟩
    · rw [rel.1.active] at done
      cases done
  · rw [if_neg done]
    have choices : ordered → ∀ choice ∈ chunk.choices.head?, ChoiceGuard uuid (begunState info chunk) choice :=
      fun want => (guard want).resolve_left done
    have begun : ∃ middle, reads readClaude m
        (messageStart (info.sendResponseCount + 1) chunk.usage info.claudeConvertInfo).2 = some middle ∧
        Rel ordered (begunState info chunk) middle ∧ Occupied (begunState info chunk) := by
      unfold begunState messageStart
      rcases session with ⟨rfl, rfl⟩ | ⟨pos, ⟨ended, _⟩ | ⟨rel, occupied⟩⟩
      · exact ⟨{ begun := true }, rfl, rel_begun _, by intro mode; cases mode⟩
      · exact absurd ended done
      · rw [if_neg (by omega)]
        exact ⟨m, rfl, rel, occupied⟩
    obtain ⟨middle, readStart, rel, occupied⟩ := begun
    obtain ⟨last, readBody, told⟩ := follows_body chunk _ middle ⟨rel, occupied, choices⟩
    exact ⟨last, reads_append_of readClaude readStart readBody, Nat.succ_pos _, told⟩

theorem reads_finalize {info : ConvMeta} (told : Told ordered info.claudeConvertInfo m) :
    ∃ m', reads readClaude m (finalizeChatStream uuid info).2 = some m' ∧ m'.ended = true ∧
      (ordered → m'.order = List.range m'.order.length) := by
  unfold finalizeChatStream finalizeStreamResponseOpenAI2Claude
  dsimp only
  rcases told with ⟨done, ended, order⟩ | ⟨rel, occupied⟩
  · rw [if_pos done]
    exact ⟨m, rfl, ended, order⟩
  · rw [if_neg (by simp [rel.1.active])]
    exact reads_end uuid rel occupied _

theorem reads_stream (uuid : Nat → String) (nonempty : chunks ≠ [])
    (guard : ordered → Emission.Guarded (convertChatChunk uuid) (ChunkGuard uuid) {} chunks) :
    ∃ m, reads readClaude {} (convertChatStream uuid chunks {}).2 = some m ∧ m.ended = true ∧
      (ordered → m.order = List.range m.order.length) := by
  have guarded := Emission.guarded_of_imp guard
  cases chunks with
  | nil => exact absurd rfl nonempty
  | cons chunk rest =>
    obtain ⟨opened, readFirst, first⟩ := follows_chunk chunk {} {} ⟨guarded.1, .inl ⟨rfl, rfl⟩⟩
    obtain ⟨last, readRest, _, told⟩ := follows_guarded
      (fun chunk => (follows_chunk chunk).of_imp fun info m here => ⟨here.1, .inr here.2⟩) rest _ opened ⟨guarded.2, first⟩
    obtain ⟨m, readEnd, ended, order⟩ := reads_finalize told
    exact ⟨m, reads_append_of readClaude (reads_append_of readClaude readFirst readRest) readEnd, ended, order⟩

end

theorem stream_protocol (uuid : Nat → String) (nonempty : chunks ≠ []) :
    obeysBlockProtocol (convertChatStream uuid chunks {}).2 = true := by
  obtain ⟨m, read, ended, _⟩ := reads_stream uuid nonempty False.elim
  simp [obeysBlockProtocol, read, ended]

theorem stream_protocol_unnamed :
    obeysBlockProtocol (convertChatStream (fun _ => "") [{ choices := [{ delta := { toolCalls :=
      [{ index := some 0, id := "a" }, { index := some 1, id := "b", name := "g" }] } }] }] {}).2 = true :=
  stream_protocol _ (by simp)

theorem stream_blocks (uuid : Nat → String) {chunks : List ChatCompletionsStreamResponse} (nonempty : chunks ≠ [])
    (guarded : Emission.Guarded (convertChatChunk uuid) (ChunkGuard uuid) {} chunks) :
    obeysBlockProtocol (convertChatStream uuid chunks {}).2 = true ∧
      startsInOrder (convertChatStream uuid chunks {}).2 = true := by
  obtain ⟨m, read, ended, order⟩ := reads_stream uuid nonempty fun _ : True => guarded
  refine ⟨by simp [obeysBlockProtocol, read, ended], ?_⟩
  simpa [startsInOrder, read] using order trivial

instance (toolCalls : List ClaudeStreamToolCall) : Decidable (Nameable toolCalls) := by unfold Nameable; infer_instance
instance (s : ClaudeConvertInfo) : Decidable (LeaveGuard s) := by unfold LeaveGuard; infer_instance
instance (s : ClaudeConvertInfo) (fragment : ToolCallResponse × Nat) : Decidable (FragmentGuard s fragment) := by
  unfold FragmentGuard; infer_instance
instance (uuid : Nat → String) (s : ClaudeConvertInfo) (delta : ChatDelta) : Decidable (ContentGuard uuid s delta) := by
  unfold ContentGuard; infer_instance
instance (uuid : Nat → String) (s : ClaudeConvertInfo) (choice : ChatChoice) : Decidable (ChoiceGuard uuid s choice) := by
  unfold ChoiceGuard; infer_instance
instance (uuid : Nat → String) (info : ConvMeta) (chunk : ChatCompletionsStreamResponse) :
    Decidable (ChunkGuard uuid info chunk) := by unfold ChunkGuard; infer_instance

def toolStream : List ChatCompletionsStreamResponse :=
  [{ choices := [{ delta := { reasoning := "hm" } }] },
    { choices := [{ delta := { toolCalls := [{ index := some 0, id := "a", name := "f", arguments := "1" }] } }] },
    { choices := [{ delta := { toolCalls := [{ index := some 1, id := "b", arguments := "2" }] } }] },
    { choices := [{ delta := { toolCalls := [{ index := some 1, name := "g", arguments := "3" }] } }] },
    { choices := [{
        delta := { content := "ok", annotations := some (.list [.urlCitation [("url", "u")]]) }
        finishReason := some "stop" }] },
    { choices := [], usage := some { hasTokens := true } }]

theorem stream_blocks_tools :
    obeysBlockProtocol (convertChatStream (fun _ => "") toolStream {}).2 = true ∧
      startsInOrder (convertChatStream (fun _ => "") toolStream {}).2 = true :=
  stream_blocks (fun _ => "") (by decide) (by decide +kernel)

theorem unnamed_tool_out_of_order :
    startsInOrder (convertChatStream (fun _ => "") [{ choices := [{ delta := { toolCalls :=
        [{ index := some 0, id := "a", arguments := "1" }, { index := some 1, id := "b", name := "g" }] } }] },
        { choices := [{ delta := { toolCalls := [{ index := some 0, name := "f" }] } }] }] {}).2 = false := by decide +kernel

end Wildflow.Relay.ChatToClaude
