import Wildflow.Store.Slots
import Wildflow.Proof.Relay.ResponsesToClaude

/-!
# The Responses to Claude stream

Every block that has started is the client's, with what has been sent of it. When each event that makes a block also starts it,
the blocks start in the order of their indices.
-/

namespace Wildflow.Relay.ResponsesToClaude
open Wildflow.Store ClaudeStream BlockFocus ResponsesToClaudeStreamState List Option
variable {stop : Bool} {other : ResponsesStreamResponse}

structure Live (s : ResponsesToClaudeStreamState) (m : ClaudeReader) : Prop where
  index : ∀ (place : Nat) (block : ResponsesClaudeStreamBlock), s.blocks[place]? = some block → block.index = place
  next : s.nextBlockIndex = s.blocks.length
  begun : m.begun = s.sentMessageStart
  content : m.closing = false ∧ m.ended = false
  blocks : ∀ place, m.blocks.get place = (s.blocks[place]?).bind readOf
  sound : ∀ block ∈ s.blocks, SoundBlock s.sentMessageStart block
  active : s.done = false

def InOrder (s : ResponsesToClaudeStreamState) (m : ClaudeReader) : Prop :=
  m.order = List.range s.blocks.length ∧ ∀ block ∈ s.blocks, block.started = true

def Rel (ordered : Prop) (s : ResponsesToClaudeStreamState) (m : ClaudeReader) : Prop := Live s m ∧ (ordered → InOrder s m)

section
variable {ordered : Prop} {s s' : ResponsesToClaudeStreamState} {m : ClaudeReader} {place : Nat}
  {block : ResponsesClaudeStreamBlock} {emission : Emission BlockFocus ClaudeStreamEvent}
  {event : ResponsesStreamResponse} {kind : ClaudeBlockKind} {events : List ClaudeStreamEvent}

theorem live_addBlock (live : Live s m) (kind : ClaudeBlockKind) : Live (s.addBlock kind) m := by
  have blocks : ∀ other, (s.addBlock kind).blocks[other]? =
      if other = s.blocks.length then some { index := s.nextBlockIndex, kind } else s.blocks[other]? := by
    grind [addBlock]
  refine ⟨?_, ?_, live.begun, live.content, ?_, ?_, live.active⟩
  · grind [live.index, live.next]
  · simp [addBlock, live.next]
  · intro other
    rw [blocks]
    split
    · next last =>
      rw [live.blocks, last, getElem?_eq_none (le_refl _)]
      rfl
    · exact live.blocks other
  · intro block mem
    rcases mem_append.mp mem with old | new
    · exact live.sound block old
    · rw [mem_singleton.mp new]
      exact ⟨Nat.zero_le _, fun _ => rfl, nofun, nofun⟩

theorem started_set {next : ResponsesClaudeStreamBlock} (found : s.blocks[place]? = some block)
    (others : ∀ (other : Nat) (cur : ResponsesClaudeStreamBlock), s.blocks[other]? = some cur → other ≠ place →
      cur.started = true) (begun : next.started = true) : ∀ cur ∈ s.blocks.set place next, cur.started = true := by
  intro cur mem
  obtain ⟨other, there⟩ := mem_iff_getElem?.mp mem
  grind

theorem findBlock_of_ensureBlock (ran : s.ensureBlock event kind = .ok (s', place))
    (known : (s.findBlock other).isSome = true) : (s'.findBlock other).isSome = true := by
  have maps : s'.byOutputIndex = event.outputIndex.elim s.byOutputIndex (s.byOutputIndex.set · place) ∧
      s'.byItemID = (if responseStreamEventItemID event = "" then s.byItemID
        else s.byItemID.set (responseStreamEventItemID event) place) := by
    unfold ensureBlock at ran
    dsimp only at ran
    split at ran
    · cases ran
    · cases ran
      cases s.knownBlock event kind <;> cases given : event.outputIndex <;>
        exact ⟨by simp [applyBlockMetadata, addBlock, given], rfl⟩
  have outputs : ∀ i, (s.byOutputIndex.get i).isSome = true → (s'.byOutputIndex.get i).isSome = true := by
    intro i present
    cases given : event.outputIndex <;> grind [Option.elim]
  have items : ∀ id, (s.byItemID.get id).isSome = true → (s'.byItemID.get id).isSome = true := by
    intro id present
    grind
  simp only [findBlock, isSome_or, Bool.or_eq_true] at known ⊢
  rcases known with byOutput | byItem
  · left
    cases i : other.outputIndex with
    | none => simp [i] at byOutput
    | some index' => exact outputs index' (by simpa [i] using byOutput)
  · grind

theorem findBlock_of_applyOutputItem
    (ran : applyOutputItem event stop s = .ok (s', events)) (known : (s.findBlock other).isSome = true) :
    (s'.findBlock other).isSome = true := by
  unfold applyOutputItem at ran
  split at ran
  · cases ran
    exact known
  split at ran
  · cases ran
    exact known
  obtain ⟨⟨opened, place⟩, ensured, res⟩ := except_bind_ok.mp ran
  have knownOpened := findBlock_of_ensureBlock ensured known
  have res := Except.ok.inj res
  unfold onBlock at res
  dsimp only at res
  split at res <;>
    · cases res
      exact knownOpened

def StoppedAt (place : Nat) (s : ResponsesToClaudeStreamState) : Prop :=
  ∀ block, s.blocks[place]? = some block → block.started = true → block.stopped = true

theorem onBlock_stops (place other : Nat) (s : ResponsesToClaudeStreamState) (already : place = other ∨ StoppedAt other s) :
    StoppedAt other (onBlock place stopBlock s).1 := by
  intro block there begun
  unfold onBlock at there
  split at there
  · grind [StoppedAt]
  · next cur found =>
    by_cases here : place = other
    · grind [stopBlock_stops]
    · exact already.resolve_left here block (by grind) begun

theorem stopBlocks_stopped (s : ResponsesToClaudeStreamState) (place : Nat) : StoppedAt place (stopBlocks s).1 := by
  refine @Emission.each_establishes _ _ _ (fun place => onBlock place stopBlock) StoppedAt ?_ ?_ _ place s ?_
  · exact fun place s => onBlock_stops place place s (.inl rfl)
  · exact fun place other s stopped => onBlock_stops place other s (.inr stopped)
  · by_cases inside : place < s.blocks.length
    · exact .inl (mem_range.mpr inside)
    · right
      intro block there
      exact absurd (List.getElem?_eq_some_iff.mp there).1 inside

structure Over (ordered : Prop) (s : ResponsesToClaudeStreamState) (m : ClaudeReader) : Prop where
  done : s.done = true
  ended : m.ended = true
  complete : ∀ (place : Nat) (block : ResponsesClaudeStreamBlock), s.blocks[place]? = some block →
    m.blocks.get place = if block.started then some { kind := block.kind, text := block.value, stopped := true } else none
  order : ordered → InOrder s m

theorem reads_messageBegin (live : Live s m) :
    reads readClaude m (ResponsesToClaudeStreamState.ensureMessageStart s).2 = some { m with begun := true } ∧
      (ResponsesToClaudeStreamState.ensureMessageStart s).1 = { s with sentMessageStart := true } := by
  have begun := live.begun
  unfold ResponsesToClaudeStreamState.ensureMessageStart
  split
  · next sent =>
    rw [sent] at begun
    exact ⟨by rw [← begun]; rfl, by rw [← sent]⟩
  · next unsent =>
    have unsent : m.begun = false := by rw [begun]; simpa using unsent
    exact ⟨by simp [reads_cons, readClaude, live.content.2, unsent], rfl⟩

section
variable (event : ResponsesStreamResponse)

def eventName : String := (event.item.map fun item => trimSpace item.name).getD ""

def eventKind : Option ClaudeBlockKind :=
  match event.type with
  | .reasoningDelta | .reasoningDone => some .thinking
  | .outputTextDelta | .outputTextDone | .annotationAdded => some .text
  | .argumentsDelta | .argumentsDone => some .toolUse
  | .outputItemAdded | .outputItemDone => event.item.bind itemKind
  | _ => none

def Introduces : Prop :=
  match event.type with
  | .reasoningDelta | .outputTextDelta => event.delta ≠ ""
  | .reasoningDone | .outputTextDone => event.text ≠ none
  | .annotationAdded => ∀ note ∈ event.annotation, responsesAnnotationsToClaude [note] "" ≠ []
  | .argumentsDelta => event.delta ≠ "" ∧ eventName event ≠ ""
  | .argumentsDone => event.arguments ≠ none ∧ eventName event ≠ ""
  | .outputItemAdded | .outputItemDone => event.item.bind itemKind = some .toolUse → eventName event ≠ ""
  | _ => True

end

structure NewBlock (event : ResponsesStreamResponse) (kind : ClaudeBlockKind) (block : ResponsesClaudeStreamBlock) : Prop where
  kind : block.kind = kind
  name : block.name = eventName event
  closed : block.started = false ∧ block.stopped = false
  empty : block.value = "" ∧ block.annotationCount = 0

theorem blockMetadata_frame (event : ResponsesStreamResponse) (block : ResponsesClaudeStreamBlock) :
    ∃ itemID callID name, blockMetadata event block = { block with itemID, callID, name } ∧
      (block.name = "" → name = eventName event) := by
  unfold blockMetadata eventName
  cases event.item with
  | none => exact ⟨_, block.callID, block.name, rfl, id⟩
  | some item =>
    refine ⟨_, _, _, rfl, fun nameless => ?_⟩
    by_cases unnamed : trimSpace item.name = "" <;> simp [unnamed, nameless]

theorem live_metadata (live : Live s m) (event : ResponsesStreamResponse) (place : Nat) (lastByKind : Dict ClaudeBlockKind Nat) :
    Live { s.applyBlockMetadata place event with lastByKind } m ∧
      ∀ block ∈ (s.applyBlockMetadata place event).blocks, ∃ old ∈ s.blocks, block.started = old.started := by
  have origin : ∀ (other : Nat) (block : ResponsesClaudeStreamBlock),
      (s.applyBlockMetadata place event).blocks[other]? = some block →
      ∃ old, s.blocks[other]? = some old ∧ ∃ itemID callID name, block = { old with itemID, callID, name } := by
    intro other block found
    simp only [applyBlockMetadata, getElem?_modify] at found
    obtain ⟨old, foundEarlier, same⟩ := map_eq_some_iff.mp found
    refine ⟨old, foundEarlier, ?_⟩
    obtain ⟨itemID, callID, name, frame, _⟩ := blockMetadata_frame event old
    by_cases here : place = other
    · exact ⟨itemID, callID, name, by rw [← frame, ← same, if_pos here]⟩
    · exact ⟨_, _, _, by rw [← same, if_neg here]⟩
  have length : (s.applyBlockMetadata place event).blocks.length = s.blocks.length := by simp [applyBlockMetadata]
  refine ⟨⟨?_, length ▸ live.next, live.begun, live.content, ?_, ?_, live.active⟩, ?_⟩
  · grind [live.index]
  · intro other
    rw [live.blocks]
    cases found : (s.applyBlockMetadata place event).blocks[other]? with
    | none => rw [getElem?_eq_none (length ▸ getElem?_eq_none_iff.mp found)]
    | some block =>
      obtain ⟨old, foundEarlier, itemID, callID, name, rfl⟩ := origin other block found
      rw [foundEarlier]
      rfl
  · intro block mem
    obtain ⟨other, found⟩ := mem_iff_getElem?.mp mem
    obtain ⟨old, foundEarlier, itemID, callID, name, rfl⟩ := origin other block found
    have sound := live.sound old (mem_of_getElem? foundEarlier)
    exact ⟨sound.sent, sound.unsent, sound.stopped, sound.begun⟩
  · intro block mem
    obtain ⟨other, found⟩ := mem_iff_getElem?.mp mem
    obtain ⟨old, foundEarlier, itemID, callID, name, rfl⟩ := origin other block found
    exact ⟨old, mem_of_getElem? foundEarlier, rfl⟩

theorem ensureBlock_spec (live : Live s m) (ran : s.ensureBlock event kind = .ok (s', place)) :
    Live s' m ∧ ((s.knownBlock event kind).isSome = true ∧ s'.blocks.length = s.blocks.length ∧
        (∀ block ∈ s'.blocks, ∃ old ∈ s.blocks, block.started = old.started) ∨
      s.knownBlock event kind = none ∧ place = s.blocks.length ∧
        ∃ block, s'.blocks = s.blocks ++ [block] ∧ NewBlock event kind block) := by
  unfold ensureBlock at ran
  dsimp only at ran
  cases known : s.knownBlock event kind with
  | some position =>
    simp only [known, getD_some, isSome_some, if_true] at ran
    split at ran
    · cases ran
    · cases ran
      obtain ⟨liveAfter, origin⟩ := live_metadata live event place (s.lastByKind.set kind place)
      exact ⟨liveAfter, .inl ⟨rfl, by simp [applyBlockMetadata], origin⟩⟩
  | none =>
    simp only [known, getD_none, isSome_none, Bool.false_eq_true, if_false] at ran
    split at ran
    · cases ran
    cases ran
    obtain ⟨liveAfter, _⟩ := live_metadata (live_addBlock live kind) event s.blocks.length
      (s.lastByKind.set kind s.blocks.length)
    refine ⟨liveAfter, .inr ⟨rfl, rfl, blockMetadata event { index := s.nextBlockIndex, kind }, ?_, ?_⟩⟩
    · simp [applyBlockMetadata, addBlock, modify_snoc]
    · obtain ⟨itemID, callID, name, frame, named⟩ := blockMetadata_frame event { index := s.nextBlockIndex, kind }
      rw [frame]
      exact ⟨rfl, named rfl, ⟨rfl, rfl⟩, rfl, rfl⟩

theorem NewBlock.startable {f : BlockFocus} (new : NewBlock event kind f.block) (named : kind = .toolUse → eventName event ≠ "") :
    Startable f.block := by
  refine ⟨new.closed.2, fun tool => ?_⟩
  rw [new.name]
  exact named (new.kind.symm.trans tool)

section
variable (s : ResponsesToClaudeStreamState)

def focusOf (block : ResponsesClaudeStreamBlock) : BlockFocus :=
  { sentMessageStart := s.sentMessageStart, sawToolCall := s.sawToolCall, block }

def OutputNamed (entries : List (ResponsesOutput × Nat)) : Prop :=
  ∀ entry ∈ entries, itemKind entry.1 = some .toolUse →
    eventName (itemEvent entry) ≠ "" ∨ (s.findBlock (itemEvent entry)).isSome = true

def StartsAtOnce (event : ResponsesStreamResponse) : Prop :=
  s.done = false → (∀ kind ∈ eventKind event, s.knownBlock event kind = none → Introduces event) ∧
      (event.type = .completed ∨ event.type = .incomplete → OutputNamed s (outputOf event.response).zipIdx)

end

theorem Live.local (live : Live s m) (found : s.blocks[place]? = some block) : Local m block (focusOf s block) m where
  begun := live.begun
  stays := fun begun => live.begun.symm.trans begun
  content := live.content
  index := rfl
  keeps := id
  here := by rw [live.blocks, live.index place block found, found]; rfl
  others := fun _ _ => rfl
  order := by simp [focusOf]
  sound := live.sound block (mem_of_getElem? found)

def Told (ordered : Prop) (s : ResponsesToClaudeStreamState) (m : ClaudeReader) : Prop := Rel ordered s m ∨ Over ordered s m

section
variable (followed : Followed emission)
include followed

theorem reads_onBlock (live : Live s m) (found : s.blocks[place]? = some block) :
    ∃ m', reads readClaude m (onBlock place emission s).2 = some m' ∧ Live (onBlock place emission s).1 m' ∧
      m'.order = (if (emission (focusOf s block)).1.block.started && !block.started then m.order ++ [place] else m.order) ∧
      (block.started = true → (emission (focusOf s block)).1.block.started = true) := by
  have inside := (List.getElem?_eq_some_iff.mp found).1
  obtain ⟨m', read, after⟩ := followed m block (focusOf s block) m (live.local found)
  have i := live.index place block found
  have same : onBlock place emission s = ({ s with
      sentMessageStart := (emission (focusOf s block)).1.sentMessageStart
      sawToolCall := (emission (focusOf s block)).1.sawToolCall
      blocks := s.blocks.set place (emission (focusOf s block)).1.block }, (emission (focusOf s block)).2) := by
    simp only [onBlock, found]
    rfl
  rw [same]
  generalize emission (focusOf s block) = next at read after
  refine ⟨m', read, ⟨?_, ?_, after.begun, after.content, ?_, ?_, live.active⟩, by rw [after.order, i], after.keeps⟩
  · grind [live.index, after.index]
  · simpa using live.next
  · intro other
    dsimp only
    by_cases here : place = other
    · rw [← here, List.getElem?_set_self inside, ← i, after.here]
      simp
    · rw [List.getElem?_set_ne here, after.others other (by rw [i]; exact Ne.symm here), live.blocks]
  · intro cur mem
    rcases mem_or_eq_of_mem_set mem with earlier | rfl
    · have sound := live.sound cur earlier
      refine ⟨sound.sent, sound.unsent, sound.stopped, fun started => after.stays ?_⟩
      exact live.begun.trans (sound.begun started)
    · exact after.sound

theorem reads_withBlock (rel : Rel ordered s m)
    (starts : ordered → s.knownBlock event kind = none → ∀ f : BlockFocus, NewBlock event kind f.block →
      (emission f).1.block.started = true) (ran : withBlock event kind emission s = .ok (s', events)) :
    ∃ m', reads readClaude m events = some m' ∧ Rel ordered s' m' := by
  obtain ⟨live, order⟩ := rel
  obtain ⟨⟨opened, place⟩, ensured, res⟩ := except_bind_ok.mp ran
  obtain ⟨liveOpened, kinds⟩ := ensureBlock_spec live ensured
  have res : onBlock place emission opened = (s', events) := Except.ok.inj res
  cases found : opened.blocks[place]? with
  | none =>
    have nothing : onBlock place emission opened = (opened, []) := by simp only [onBlock, found]
    rw [nothing] at res
    cases res
    refine ⟨m, rfl, liveOpened, fun want => ?_⟩
    rcases kinds with ⟨_, length, origin⟩ | ⟨_, last, block, blocks, _⟩
    · refine ⟨by rw [length]; exact (order want).1, fun block mem => ?_⟩
      obtain ⟨earlier, memberEarlier, same⟩ := origin block mem
      exact same.trans ((order want).2 earlier memberEarlier)
    · rw [last, blocks] at found
      simp at found
  | some block =>
    obtain ⟨m', read, liveAfter, orderAfter, keeps⟩ := reads_onBlock followed liveOpened found
    rw [res] at read liveAfter
    refine ⟨m', read, liveAfter, fun want => ?_⟩
    have blocksAfter : s'.blocks = opened.blocks.set place (emission (focusOf opened block)).1.block := by
      have same : (onBlock place emission opened).1.blocks =
          opened.blocks.set place (emission (focusOf opened block)).1.block := by
        simp only [onBlock, found]
        rfl
      rw [res] at same
      exact same
    obtain ⟨orderBefore, allStarted⟩ := order want
    rcases kinds with ⟨_, length, origin⟩ | ⟨absent, last, new, blocks, fresh⟩
    · have startedOpened : ∀ cur ∈ opened.blocks, cur.started = true := by
        intro cur mem
        obtain ⟨earlier, memberEarlier, same⟩ := origin cur mem
        exact same.trans (allStarted earlier memberEarlier)
      have begun := startedOpened block (mem_of_getElem? found)
      rw [begun] at orderAfter
      refine ⟨?_, ?_⟩
      · rw [blocksAfter, length_set, length, orderAfter, ← orderBefore]
        simp
      · rw [blocksAfter]
        exact @started_set opened place block _ found
          (fun other cur there _ => startedOpened cur (mem_of_getElem? there)) (keeps begun)
    · have same : block = new := by
        rw [blocks, last] at found
        simpa using found.symm
      subst same
      have begun := starts want absent (focusOf opened block) fresh
      rw [begun, fresh.closed.1] at orderAfter
      refine ⟨?_, ?_⟩
      · rw [blocksAfter, length_set, blocks, orderAfter, orderBefore, last]
        simp [range_succ]
      rw [blocksAfter]
      refine @started_set opened place block _ found (fun other cur there apart => ?_) begun
      rw [blocks, List.getElem?_append] at there
      split at there
      · exact allStarted cur (mem_of_getElem? there)
      · have inside := (List.getElem?_eq_some_iff.mp there).1
        simp only [length_singleton] at inside
        omega

theorem follows_onBlock (place : Nat) : Follows readClaude (Rel ordered) (Rel ordered) (onBlock place emission) := by
  rintro s m ⟨live, order⟩
  cases found : s.blocks[place]? with
  | none =>
    rw [show onBlock place emission s = (s, []) by simp only [onBlock, found]]
    exact ⟨m, rfl, live, order⟩
  | some block =>
    obtain ⟨m', read, liveAfter, orderAfter, keeps⟩ := reads_onBlock followed live found
    refine ⟨m', read, liveAfter, fun want => ?_⟩
    obtain ⟨orderBefore, allStarted⟩ := order want
    have begun := allStarted block (mem_of_getElem? found)
    have blocksAfter : (onBlock place emission s).1.blocks = s.blocks.set place (emission (focusOf s block)).1.block := by
      simp only [onBlock, found]
      rfl
    rw [InOrder, blocksAfter, length_set, orderAfter, begun]
    refine ⟨by simpa using orderBefore, ?_⟩
    exact started_set found (fun other cur there _ => allStarted cur (mem_of_getElem? there)) (keeps begun)

theorem reads_block (rel : Rel ordered s m)
    (starts : ordered → s.knownBlock event kind = none → ∀ f : BlockFocus, NewBlock event kind f.block →
      (emission f).1.block.started = true)
    (ran : withBlock event kind emission s = .ok (s', events)) :
    ∃ m', reads readClaude m events = some m' ∧ Told ordered s' m' := by
  obtain ⟨m', read, relatedAfter⟩ := reads_withBlock followed rel starts ran
  exact ⟨m', read, .inl relatedAfter⟩

end

theorem reads_applyOutputItem (rel : Rel ordered s m)
    (named : ordered → event.item.bind itemKind = some .toolUse → eventName event ≠ "" ∨ (s.knownBlock event .toolUse).isSome)
    (ran : applyOutputItem event stop s = .ok (s', events)) : ∃ m', reads readClaude m events = some m' ∧ Rel ordered s' m' := by
  unfold applyOutputItem at ran
  split at ran
  · cases ran
    exact ⟨m, rfl, rel⟩
  next item present =>
  split at ran
  · cases ran
    exact ⟨m, rfl, rel⟩
  next kind itemIs =>
  have followedStop : Followed (if stop then stopBlock else Emission.nothing) := by
    split
    · exact followed_stopBlock
    · exact followed_nothing
  have keepsStop : Keeps (if stop then stopBlock else Emission.nothing) := by
    split
    · exact keeps_stopBlock
    · exact fun _ => id
  refine reads_withBlock (followed_andThen (followed_applyItem item kind) followedStop) rel ?_ ran
  intro want absent f new
  refine keepsStop _ (applyItem_starts item kind (new.startable fun tool => ?_))
  subst tool
  rcases named want (by simp [present, itemIs]) with named | known
  · exact named
  · rw [absent] at known
    cases known

theorem reads_outputItems {entries : List (ResponsesOutput × Nat)} (rel : Rel ordered s m)
    (named : ordered → OutputNamed s entries)
    (ran : runEmissions (fun e => applyOutputItem (itemEvent e) true) entries s = .ok (s', events)) :
    ∃ m', reads readClaude m events = some m' ∧ Rel ordered s' m' := by
  induction entries generalizing s m events with
  | nil =>
    cases ran
    exact ⟨m, rfl, rel⟩
  | cons e rest ih =>
    obtain ⟨first, ranFirst, others⟩ := except_bind_ok.mp ran
    obtain ⟨later, ranLater, same⟩ := except_bind_ok.mp others
    cases same
    have here : ordered → (itemEvent e).item.bind itemKind = some .toolUse →
        eventName (itemEvent e) ≠ "" ∨ (s.knownBlock (itemEvent e) .toolUse).isSome := by
      intro want tool
      rcases named want e List.mem_cons_self tool with given | known
      · exact .inl given
      · grind [knownBlock]
    obtain ⟨middle, readFirst, relatedFirst⟩ := reads_applyOutputItem rel here ranFirst
    have namedRest : ordered → OutputNamed first.1 rest := by
      intro want other mem tool
      rcases named want other (List.mem_cons_of_mem _ mem) tool with given | known
      · exact .inl given
      · exact .inr (findBlock_of_applyOutputItem ranFirst known)
    obtain ⟨last, readRest, relatedLast⟩ := ih relatedFirst namedRest ranLater
    exact ⟨last, reads_append_of readClaude readFirst readRest, relatedLast⟩

theorem reads_endMessage (rel : Rel ordered s m) (resp : Option OpenAIResponsesResponse) :
    ∃ m', reads readClaude m (endMessage resp s).2 = some m' ∧ Over ordered (endMessage resp s).1 m' := by
  obtain ⟨middle, readStops, live, order⟩ :=
    follows_each (fun place _ => @follows_onBlock ordered _ followed_stopBlock place) s m rel
  have stopped := stopBlocks_stopped s
  change Live (stopBlocks s).1 middle at live
  change ordered → InOrder (stopBlocks s).1 middle at order
  change reads readClaude m (stopBlocks s).2 = some middle at readStops
  have begin := reads_messageBegin live
  have busy : Running { middle with begun := true } := ⟨rfl, live.content.1, live.content.2⟩
  have allStopped : ∀ i block, middle.blocks.get i = some block → block.stopped = true := by
    intro i block found
    rw [live.blocks] at found
    obtain ⟨own, there, read⟩ := bind_eq_some_iff.mp found
    unfold readOf at read
    split at read
    · next started =>
      cases read
      exact stopped i own there started
    · cases read
  unfold endMessage
  dsimp only [Emission.andThen]
  rw [begin.2]
  refine ⟨_, reads_append_of readClaude readStops (reads_append_of readClaude begin.1 (reads_finish busy allStopped _)),
    rfl, rfl, ?_, order⟩
  intro place block found
  have same := live.blocks place
  dsimp only at found same ⊢
  rw [same, found]
  simp only [bind_some, readOf]
  split
  · next started =>
    have isStopped := stopped place block found started
    obtain ⟨_, all⟩ := (live.sound block (mem_of_getElem? found)).stopped isStopped
    rw [all, take_all, isStopped]
  · rfl

theorem reads_messageFinish {resp : Option OpenAIResponsesResponse} (rel : Rel ordered s m)
    (named : ordered → OutputNamed s (outputOf resp).zipIdx) (ran : finish resp s = .ok (s', events)) :
    ∃ m', reads readClaude m events = some m' ∧ Over ordered s' m' := by
  unfold finish at ran
  rw [if_neg (by simp [rel.1.active])] at ran
  obtain ⟨items, ranItems, same⟩ := except_bind_ok.mp ran
  cases same
  obtain ⟨middle, readItems, relatedItems⟩ := reads_outputItems rel named ranItems
  obtain ⟨last, readEnd, past⟩ := reads_endMessage relatedItems resp
  exact ⟨last, reads_append_of readClaude readItems readEnd, past⟩

theorem reads_item (rel : Rel ordered s m)
    (named : ordered → ∀ kind ∈ event.item.bind itemKind, s.knownBlock event kind = none →
      event.item.bind itemKind = some .toolUse → eventName event ≠ "")
    (ran : applyOutputItem event stop s = .ok (s', events)) : ∃ m', reads readClaude m events = some m' ∧ Told ordered s' m' := by
  have ready : ordered → event.item.bind itemKind = some .toolUse →
      eventName event ≠ "" ∨ (s.knownBlock event .toolUse).isSome = true := by
    intro want tool
    cases known : s.knownBlock event .toolUse with
    | some place => exact .inr rfl
    | none => exact .inl (named want .toolUse tool known tool)
  obtain ⟨m', read, relatedAfter⟩ := reads_applyOutputItem rel ready ran
  exact ⟨m', read, .inl relatedAfter⟩

theorem reads_convertEvent (related : Rel ordered s m) (guard : ordered → StartsAtOnce s event)
    (ran : convertEvent event s = .ok (s', events)) : ∃ m', reads readClaude m events = some m' ∧ Told ordered s' m' := by
  have introduces : ordered → ∀ kind ∈ eventKind event, s.knownBlock event kind = none → Introduces event :=
    fun wanted => (guard wanted related.1.active).1
  have outputs : ordered → event.type = .completed ∨ event.type = .incomplete → OutputNamed s (outputOf event.response).zipIdx :=
    fun wanted => (guard wanted related.1.active).2
  unfold convertEvent at ran
  unfold eventKind Introduces at introduces
  cases type : event.type <;> simp only [type] at ran introduces
  case created =>
    obtain ⟨live, order⟩ := related
    obtain ⟨read, state⟩ := reads_messageBegin live
    rw [Except.ok.inj ran] at read state
    refine ⟨_, read, .inl ?_⟩
    change s' = _ at state
    rw [state]
    refine ⟨⟨live.index, live.next, rfl, live.content, live.blocks, fun block mem => ?_, live.active⟩, order⟩
    have sound := live.sound block mem
    exact ⟨sound.sent, sound.unsent, sound.stopped, fun _ => rfl⟩
  case reasoningDelta =>
    exact reads_block (followed_reasoningDelta _) related (fun wanted absent f new =>
      reasoningDelta_starts (introduces wanted _ rfl absent) (new.startable nofun)) ran
  case reasoningDone =>
    exact reads_block (followed_reasoningDone _) related (fun wanted absent f new =>
      mergeText_starts (introduces wanted _ rfl absent) (new.startable nofun)) ran
  case outputTextDelta =>
    exact reads_block (followed_appendDelta _) related (fun wanted absent f new =>
      appendDelta_starts (introduces wanted _ rfl absent) (new.startable nofun)) ran
  case outputTextDone =>
    exact reads_block (followed_mergeText _) related (fun wanted absent f new =>
      mergeText_starts (introduces wanted _ rfl absent) (new.startable nofun)) ran
  case annotationAdded =>
    split at ran
    · obtain ⟨_, _, failed⟩ := except_bind_ok.mp ran
      cases failed
    · next annotation present =>
      exact reads_block (followed_appendAnnotations _ _) related (fun wanted absent f new =>
        appendAnnotation_starts (introduces wanted _ rfl absent annotation present) new.kind new.empty.1
          (new.startable nofun)) ran
  case outputItemAdded =>
    exact reads_item related introduces ran
  case outputItemDone =>
    exact reads_item related introduces ran
  case argumentsDelta =>
    exact reads_block (followed_appendDelta _) related (fun wanted absent f new =>
      appendDelta_starts (introduces wanted _ rfl absent).1 (new.startable fun _ => (introduces wanted _ rfl absent).2)) ran
  case argumentsDone =>
    exact reads_block (followed_mergeText _) related (fun wanted absent f new =>
      mergeText_starts (introduces wanted _ rfl absent).1 (new.startable fun _ => (introduces wanted _ rfl absent).2)) ran
  case completed =>
    obtain ⟨m', read, past⟩ := reads_messageFinish related (fun wanted => outputs wanted (.inl type)) ran
    exact ⟨m', read, .inr past⟩
  case incomplete =>
    obtain ⟨m', read, past⟩ := reads_messageFinish related (fun wanted => outputs wanted (.inr type)) ran
    exact ⟨m', read, .inr past⟩
  case failed =>
    cases ran
  case error =>
    cases ran
  case other =>
    cases ran
    exact ⟨m, rfl, .inl related⟩

theorem reads_convertChunk (told : Told ordered s m) (guard : ordered → StartsAtOnce s event)
    (ran : convertChunk event s = .ok (s', events)) : ∃ m', reads readClaude m events = some m' ∧ Told ordered s' m' := by
  unfold convertChunk at ran
  rcases told with rel | past
  · rw [if_neg (by simp [rel.1.active])] at ran
    exact reads_convertEvent rel guard ran
  · rw [if_pos past.done] at ran
    cases ran
    exact ⟨m, rfl, .inr past⟩

theorem reads_convertStream {inputs : List ResponsesStreamResponse}
    (guard : ordered → GuardedRun convertChunk StartsAtOnce {} inputs)
    (ran : convertStream inputs {} = .ok (s, events)) :
    ∃ m, reads readClaude {} events = some m ∧ Over ordered s m := by
  obtain ⟨converted, ranEvents, others⟩ := except_bind_ok.mp ran
  obtain ⟨last, ranLast, same⟩ := except_bind_ok.mp others
  cases same
  have start : Told ordered {} {} := by
    refine .inl ⟨⟨?_, rfl, rfl, ⟨rfl, rfl⟩, fun _ => rfl, ?_, rfl⟩, fun _ => ⟨rfl, ?_⟩⟩
    · intro place block found
      cases found
    · intro block mem
      cases mem
    · intro block mem
      cases mem
  obtain ⟨middle, readEvents, told⟩ := runEmissions_follows
    (fun event s m s' events here told ran => reads_convertChunk told here ran) (guardedRun_of_imp guard) start ranEvents
  unfold finalize at ranLast
  rcases told with rel | past
  · have none : ordered → OutputNamed converted.1 (outputOf none).zipIdx := fun _ e mem => by cases mem
    obtain ⟨m, readLast, past⟩ := reads_messageFinish rel none ranLast
    exact ⟨m, reads_append_of readClaude readEvents readLast, past⟩
  · unfold finish at ranLast
    rw [if_pos past.done] at ranLast
    cases ranLast
    exact ⟨middle, reads_append_of readClaude readEvents rfl, past⟩

end

theorem stream_complete {inputs : List ResponsesStreamResponse} {s : ResponsesToClaudeStreamState}
    {events : List ClaudeStreamEvent}
    (ran : convertStream inputs {} = .ok (s, events)) :
    ∃ m, reads readClaude {} events = some m ∧ m.ended = true ∧
      ∀ (place : Nat) (block : ResponsesClaudeStreamBlock), s.blocks[place]? = some block → m.blocks.get place =
        if block.started then some { kind := block.kind, text := block.value, stopped := true } else none := by
  obtain ⟨m, read, past⟩ := @reads_convertStream False s events inputs nofun ran
  exact ⟨m, read, past.ended, past.complete⟩

theorem stream_blocks_in_order {inputs : List ResponsesStreamResponse} {s : ResponsesToClaudeStreamState}
    {events : List ClaudeStreamEvent} (guarded : GuardedRun convertChunk StartsAtOnce {} inputs)
    (ran : convertStream inputs {} = .ok (s, events)) :
    ∃ m, reads readClaude {} events = some m ∧ m.ended = true ∧ m.order = List.range s.blocks.length ∧
      ∀ (place : Nat) (block : ResponsesClaudeStreamBlock), s.blocks[place]? = some block →
        m.blocks.get place = some { kind := block.kind, text := block.value, stopped := true } := by
  obtain ⟨m, read, past⟩ := @reads_convertStream True s events inputs (fun _ => guarded) ran
  obtain ⟨order, started⟩ := past.order trivial
  refine ⟨m, read, past.ended, order, fun place block found => ?_⟩
  rw [past.complete place block found, if_pos (started block (mem_of_getElem? found))]

instance (event : ResponsesStreamResponse) : Decidable (Introduces event) := by
  unfold Introduces; split <;> infer_instance
instance (s : ResponsesToClaudeStreamState) (entries : List (ResponsesOutput × Nat)) : Decidable (OutputNamed s entries) := by
  unfold OutputNamed; infer_instance
instance (s : ResponsesToClaudeStreamState) (event : ResponsesStreamResponse) : Decidable (StartsAtOnce s event) := by
  unfold StartsAtOnce; infer_instance

def callStream : List ResponsesStreamResponse :=
  [{ type := .created }, { type := .reasoningDelta, delta := "hm", outputIndex := some 0 },
    { type := .reasoningDone, outputIndex := some 0 },
    { type := .reasoningDelta, delta := "so", outputIndex := some 0 },
    { type := .outputItemAdded, outputIndex := some 1
      item := some { type := .functionCall, id := "i", callId := "c", name := "f" } },
    { type := .argumentsDelta, delta := "12", itemID := "i" },
    { type := .argumentsDone, arguments := some "123", itemID := "i" },
    { type := .completed, response := some { output :=
      [{ type := .reasoning }, { type := .functionCall, id := "i", name := "f", arguments := "123" },
        { type := .message, content := [{ type := .outputText, text := "ok" }] }] } }]

theorem callStream_in_order : ∃ s events m, convertStream callStream {} = .ok (s, events) ∧
    reads readClaude {} events = some m ∧ m.ended = true ∧ m.order = List.range s.blocks.length ∧
    ∀ (place : Nat) (block : ResponsesClaudeStreamBlock), s.blocks[place]? = some block →
      m.blocks.get place = some { kind := block.kind, text := block.value, stopped := true } := by
  have guarded : GuardedRun convertChunk StartsAtOnce {} callStream := by decide +kernel
  have accepted : (convertStream callStream {}).isOk = true := by decide +kernel
  cases ran : convertStream callStream {} with
  | error failure => rw [ran] at accepted; cases accepted
  | ok result =>
    obtain ⟨m, holds⟩ := stream_blocks_in_order guarded ran
    exact ⟨result.1, result.2, m, rfl, holds⟩

theorem callStream_complete : ∃ result m, convertStream callStream {} = .ok result ∧
    reads readClaude {} result.2 = some m ∧ m.ended = true := by
  have accepted : (convertStream callStream {}).isOk = true := by decide +kernel
  cases ran : convertStream callStream {} with
  | error failure => rw [ran] at accepted; cases accepted
  | ok result =>
    obtain ⟨m, read, ended, _⟩ := stream_complete ran
    exact ⟨result, m, rfl, read, ended⟩

theorem late_name_out_of_order :
    (match convertStream [{ type := .argumentsDelta, delta := "1", outputIndex := some 0 },
          { type := .outputTextDelta, delta := "a", outputIndex := some 1 },
          { type := .outputItemDone, outputIndex := some 0
            item := some { type := .functionCall, name := "f", arguments := "1" } }]
        {} with
      | .ok (_, events) => startsInOrder events
      | .error _ => true) = false := by decide +kernel

end Wildflow.Relay.ResponsesToClaude
