import Wildflow.Relay.ResponsesToClaude
import Wildflow.Proof.Relay.ClaudeReader

/-!
# The blocks of a Responses to Claude stream

A function of a block is followed by the client on that block alone. The stream then keeps its blocks and the client's the same.
-/

namespace Wildflow.Relay.ResponsesToClaude
open Wildflow.Store ClaudeStream BlockFocus ResponsesToClaudeStreamState List
variable {first second : Emission BlockFocus ClaudeStreamEvent} {delta : String}

def readOf (block : ResponsesClaudeStreamBlock) : Option ReadBlock :=
  if block.started then
    some { kind := block.kind, text := String.ofList (block.value.toList.take block.sentBytes), stopped := block.stopped }
  else none

structure SoundBlock (begun : Bool) (block : ResponsesClaudeStreamBlock) : Prop where
  sent : block.sentBytes ≤ block.value.length
  unsent : block.started = false → block.sentBytes = 0
  stopped : block.stopped = true → block.started = true ∧ block.sentBytes = block.value.length
  begun : block.started = true → begun = true

structure Local (m₀ : ClaudeReader) (b₀ : ResponsesClaudeStreamBlock) (f : BlockFocus) (m : ClaudeReader) : Prop where
  begun : m.begun = f.sentMessageStart
  stays : m₀.begun = true → f.sentMessageStart = true
  content : m.closing = false ∧ m.ended = false
  index : f.block.index = b₀.index
  keeps : b₀.started = true → f.block.started = true
  here : m.blocks.get b₀.index = readOf f.block
  others : ∀ index, index ≠ b₀.index → m.blocks.get index = m₀.blocks.get index
  order : m.order = if f.block.started && !b₀.started then m₀.order ++ [b₀.index] else m₀.order
  sound : SoundBlock f.sentMessageStart f.block

def Followed (emission : Emission BlockFocus ClaudeStreamEvent) : Prop :=
  ∀ m₀ b₀, Follows readClaude (Local m₀ b₀) (Local m₀ b₀) emission

variable {m₀ m : ClaudeReader} {b₀ : ResponsesClaudeStreamBlock} {f : BlockFocus}

theorem followed_nothing : Followed Emission.nothing := fun _ _ => follows_nothing

theorem followed_andThen (left : Followed first) (right : Followed second) : Followed (first.andThen second) :=
  fun m₀ b₀ => follows_andThen (left m₀ b₀) (right m₀ b₀)

theorem reads_ensureMessageStart (f : BlockFocus) (same : m.begun = f.sentMessageStart) (goesOn : m.ended = false) :
    reads readClaude m (BlockFocus.ensureMessageStart f).2 = some { m with begun := true } ∧
      (BlockFocus.ensureMessageStart f).1 = { f with sentMessageStart := true } := by
  unfold BlockFocus.ensureMessageStart
  split
  · next sent =>
    rw [sent] at same
    exact ⟨by rw [← same]; rfl, by rw [← sent]⟩
  · next unsent =>
    have unsent : m.begun = false := by rw [same]; simpa using unsent
    exact ⟨by simp [reads_cons, readClaude, goesOn, unsent], rfl⟩

theorem blockContent_kind (b : ResponsesClaudeStreamBlock) : (blockContent b).kind = b.kind := by
  unfold blockContent
  split
  · next tool => exact tool.symm
  · rfl

theorem followed_startBlock : Followed startBlock := by
  intro m₀ b₀ f m loc
  unfold startBlock
  split
  · exact ⟨m, rfl, loc⟩
  · next waiting =>
    simp only [Bool.or_eq_true, Bool.and_eq_true, decide_eq_true_eq, not_or, Bool.not_eq_true] at waiting
    obtain ⟨⟨unstarted, open_⟩, _⟩ := waiting
    have fresh : b₀.started = false := by
      cases known : b₀.started with
      | false => rfl
      | true => rw [loc.keeps known] at unstarted; cases unstarted
    have absent : m.blocks.get f.block.index = none := by rw [loc.index, loc.here, readOf, unstarted]; rfl
    let opened : BlockFocus := { f with
      sawToolCall := f.sawToolCall || f.block.kind = .toolUse
      block := { f.block with started := true } }
    obtain ⟨readStart, st⟩ := reads_ensureMessageStart opened loc.begun loc.content.2
    have busy : Running { m with begun := true } := ⟨rfl, loc.content.1, loc.content.2⟩
    have readBlock := read_blockStart busy absent (blockContent opened.block)
    have kind : (blockContent opened.block).kind = f.block.kind := blockContent_kind opened.block
    refine ⟨_, reads_append_of readClaude readStart ((reads_one _ _ _).trans (by rw [st]; exact readBlock)), ?_⟩
    · change Local m₀ b₀ (BlockFocus.ensureMessageStart opened).1 _
      rw [st]
      refine ⟨rfl, fun _ => rfl, loc.content, loc.index, fun _ => rfl, ?_, ?_, ?_, ?_⟩
      · simp only [loc.index]
        rw [Dict.get_set_self, kind]
        simp [readOf, opened, loc.sound.unsent unstarted, open_]
      · grind [loc.index, loc.others]
      · simp only [opened, fresh, loc.order, unstarted, loc.index]
        rfl
      · exact ⟨loc.sound.sent, nofun, fun stopped => absurd stopped (by simp [opened, open_]), fun _ => rfl⟩

theorem blockDelta_kind (kind : ClaudeBlockKind) (delta : String) : (blockDelta kind delta).kind = kind := by
  cases kind <;> rfl

theorem blockDelta_payload (kind : ClaudeBlockKind) (delta : String) : (blockDelta kind delta).payload = delta := by
  cases kind <;> rfl

theorem take_all (text : String) : String.ofList (text.toList.take text.length) = text := by
  rw [← String.length_toList, take_length, String.ofList_toList]

theorem mergedValue_grows (cur finalValue : String) : ∃ rest, mergedValue cur finalValue = cur ++ rest := by
  unfold mergedValue
  split
  · next empty => exact ⟨finalValue, by rw [empty, String.empty_append]⟩
  · split
    · exact ⟨_, rfl⟩
    · exact ⟨"", by rw [String.append_empty]⟩

def Flushed (f : BlockFocus) : Prop :=
  f.block.stopped = false ∧ (f.block.started = true ∧ f.block.sentBytes = f.block.value.length ∨
    f.block.started = false ∧ f.block.kind = .toolUse ∧ f.block.name = "")

theorem startBlock_block (f : BlockFocus) :
    (startBlock f).1.block = { f.block with started := (startBlock f).1.block.started } ∧
      (f.block.stopped = false → f.block.started = false → (startBlock f).1.block.started = true ∨
        f.block.kind = .toolUse ∧ f.block.name = "" ∧ (startBlock f).1.block.started = false) ∧
      (f.block.started = true → (startBlock f).1.block.started = true) := by
  unfold startBlock
  split
  · next settled =>
    refine ⟨rfl, fun open_ idle => .inr ?_, id⟩
    simp only [open_, idle, Bool.false_or, Bool.and_eq_true, decide_eq_true_eq] at settled
    exact ⟨settled.1, settled.2, idle⟩
  · dsimp only [Emission.andThen]
    unfold BlockFocus.ensureMessageStart
    split
    · exact ⟨rfl, fun _ _ => .inl rfl, fun _ => rfl⟩
    · exact ⟨rfl, fun _ _ => .inl rfl, fun _ => rfl⟩

theorem flushBlock_flushed (open_ : f.block.stopped = false) (sent : f.block.sentBytes ≤ f.block.value.length) :
    Flushed (flushBlock f).1 := by
  obtain ⟨same, starts, keeps⟩ := startBlock_block f
  unfold flushBlock
  rw [if_neg (by simp [open_])]
  change Flushed (sendRest (startBlock f).1).1
  generalize (startBlock f).1 = g at same starts keeps
  unfold sendRest
  split
  · next settled =>
    rw [Flushed, same]
    dsimp only
    refine ⟨open_, ?_⟩
    cases begun : g.block.started with
    | true =>
      left
      rw [same, begun] at settled
      have all : f.block.value.length ≤ f.block.sentBytes := by simpa using settled
      exact ⟨rfl, by omega⟩
    | false =>
      right
      have idle : f.block.started = false := by grind
      rcases starts open_ idle with started | ⟨kind, name, _⟩
      · rw [started] at begun; cases begun
      · exact ⟨rfl, kind, name⟩
  · next rest =>
    have begun : g.block.started = true := by grind
    rw [Flushed, same]
    exact ⟨open_, .inl ⟨begun, rfl⟩⟩

theorem startBlock_flushed (flushed : Flushed f) : startBlock f = (f, []) := by
  obtain ⟨open_, ⟨begun, _⟩ | ⟨idle, kind, name⟩⟩ := flushed
  · simp [startBlock, begun]
  · simp [startBlock, kind, name]

theorem stopBlock_eq (open_ : f.block.stopped = false) (sent : f.block.sentBytes ≤ f.block.value.length) :
    stopBlock f = flushBlock.andThen closeBlock f := by
  have idle := startBlock_flushed (flushBlock_flushed open_ sent)
  simp [stopBlock, open_, Emission.andThen, idle]

theorem stopBlock_stops (f : BlockFocus) : (stopBlock f).1.block.started = true → (stopBlock f).1.block.stopped = true := by
  unfold stopBlock
  split
  · next stopped => exact fun _ => stopped
  change (closeBlock (startBlock (flushBlock f).1).1).1.block.started = true → _
  unfold closeBlock
  split
  · grind
  · next begun => simp [Emission.andThen, begun]

section
variable (loc : Local m₀ b₀ f m)
include loc

theorem Local.running (begun : f.sentMessageStart = true) : Running m :=
  ⟨loc.begun.trans begun, loc.content.1, loc.content.2⟩

theorem Local.grow (open_ : f.block.stopped = false) (rest : String) :
    Local m₀ b₀ { f with block := { f.block with value := f.block.value ++ rest } } m := by
  have sent := loc.sound.sent
  refine ⟨loc.begun, loc.stays, loc.content, loc.index, loc.keeps, ?_, loc.others, loc.order, ?_⟩
  · rw [loc.here]
    have same : (f.block.value ++ rest).toList.take f.block.sentBytes = f.block.value.toList.take f.block.sentBytes := by
      rw [String.toList_append, take_append_of_le_length (by rwa [String.length_toList])]
    simp only [readOf, same]
  · refine ⟨?_, loc.sound.unsent, fun stopped => absurd stopped (by simp [open_]), loc.sound.begun⟩
    simp only [String.length_append]
    omega

theorem Local.note (annotationCount : Nat) (needsReasoningBreak : Bool) :
    Local m₀ b₀ { f with block := { f.block with annotationCount, needsReasoningBreak } } m :=
  ⟨loc.begun, loc.stays, loc.content, loc.index, loc.keeps, loc.here, loc.others, loc.order,
    ⟨loc.sound.sent, loc.sound.unsent, loc.sound.stopped, loc.sound.begun⟩⟩

theorem Local.citations (started : f.block.started = true) (open_ : f.block.stopped = false)
    (kind : f.block.kind = .text) (citations : List ClaudeCitation) :
    ∃ m', reads readClaude m (citations.map fun citation => .blockDelta f.block.index (.citations citation)) = some m' ∧
      Local m₀ b₀ f m' := by
  induction citations generalizing m with
  | nil => exact ⟨m, rfl, loc⟩
  | cons citation rest ih =>
    have found : m.blocks.get f.block.index = some
        { kind := .text, text := String.ofList (f.block.value.toList.take f.block.sentBytes), stopped := false } := by
      rw [loc.index, loc.here, readOf, started, open_, kind]
      rfl
    have read := @read_blockDelta _ _ (loc.running (loc.sound.begun started)) _ found rfl (.citations citation) rfl
    let cited : ReadBlock :=
      { kind := .text, text := String.ofList (f.block.value.toList.take f.block.sentBytes) ++ "", stopped := false }
    have locNext : Local m₀ b₀ f { m with blocks := m.blocks.set f.block.index cited } := by
      refine ⟨loc.begun, loc.stays, loc.content, loc.index, loc.keeps, ?_, ?_, loc.order, loc.sound⟩
      · simp only [loc.index]
        rw [Dict.get_set_self]
        simp [cited, readOf, started, open_, kind]
      · grind [loc.index, loc.others]
    obtain ⟨last, readRest, locLast⟩ := ih locNext
    refine ⟨last, ?_, locLast⟩
    rw [map_cons, reads_cons, read]
    exact readRest

end

theorem followed_sendRest : Followed sendRest := by
  intro m₀ b₀ f m loc
  unfold sendRest
  split
  · exact ⟨m, rfl, loc⟩
  · next unsent =>
    simp only [Bool.or_eq_true, Bool.not_eq_true', decide_eq_true_eq, not_or, Bool.not_eq_false, not_le] at unsent
    obtain ⟨started, rest⟩ := unsent
    have open_ : f.block.stopped = false := by
      cases stopped : f.block.stopped with
      | false => rfl
      | true =>
        have all := (loc.sound.stopped stopped).2
        omega
    have found : m.blocks.get f.block.index = some
        { kind := f.block.kind, text := String.ofList (f.block.value.toList.take f.block.sentBytes), stopped := false } := by
      rw [loc.index, loc.here, readOf, started, open_]
      rfl
    have read := read_blockDelta (loc.running (loc.sound.begun started)) found rfl
      (blockDelta_kind f.block.kind (String.ofList (f.block.value.toList.drop f.block.sentBytes)))
    have whole : String.ofList (f.block.value.toList.take f.block.sentBytes) ++
        String.ofList (f.block.value.toList.drop f.block.sentBytes) = f.block.value := by
      rw [← String.ofList_append, take_append_drop, String.ofList_toList]
    rw [blockDelta_payload, whole] at read
    refine ⟨_, (reads_one _ _ _).trans read, ⟨loc.begun, loc.stays, loc.content, loc.index, loc.keeps, ?_, ?_, loc.order, ?_⟩⟩
    · grind [readOf, take_all, loc.index]
    · grind [loc.index, loc.others]
    · exact ⟨le_refl _, fun idle => absurd idle (by simp [started]),
        fun stopped => absurd stopped (by simp [open_]), loc.sound.begun⟩

theorem followed_flushBlock : Followed flushBlock := by
  intro m₀ b₀ f m loc
  unfold flushBlock
  split
  · exact ⟨m, rfl, loc⟩
  · exact followed_andThen followed_startBlock followed_sendRest m₀ b₀ f m loc

theorem followed_appendDelta (delta : String) : Followed (appendDelta delta) := by
  intro m₀ b₀ f m loc
  unfold appendDelta
  split
  · exact ⟨m, rfl, loc⟩
  · next goesOn =>
    have open_ : f.block.stopped = false := by
      simp only [Bool.or_eq_true, not_or, Bool.not_eq_true] at goesOn
      exact goesOn.1
    exact followed_flushBlock m₀ b₀ _ m (loc.grow open_ delta)

theorem followed_mergeFinalValue (finalValue : String) : Followed (mergeFinalValue finalValue) := by
  intro m₀ b₀ f m loc
  unfold mergeFinalValue
  split
  · exact ⟨m, rfl, loc⟩
  · next open_ =>
    have open_ : f.block.stopped = false := by simpa using open_
    obtain ⟨rest, same⟩ := mergedValue_grows f.block.value finalValue
    rw [same]
    exact followed_flushBlock m₀ b₀ _ m (loc.grow open_ rest)

theorem followed_mergeText (text : Option String) : Followed (mergeText text) := by
  cases text with
  | none => exact followed_nothing
  | some text => exact followed_mergeFinalValue text

theorem followed_reasoningDelta (delta : String) : Followed (reasoningDelta delta) := by
  intro m₀ b₀ f m loc
  unfold reasoningDelta
  split
  · exact followed_appendDelta _ m₀ b₀ _ m (loc.note f.block.annotationCount false)
  · exact followed_appendDelta _ m₀ b₀ _ m loc

theorem followed_reasoningDone (text : Option String) : Followed (reasoningDone text) :=
  followed_andThen (followed_mergeText text) fun _ _ f m loc => ⟨m, rfl, loc.note f.block.annotationCount _⟩

theorem followed_closeBlock : Follows readClaude (fun f m => Flushed f ∧ Local m₀ b₀ f m) (Local m₀ b₀) closeBlock := by
  rintro f m ⟨⟨open_, sent⟩, loc⟩
  unfold closeBlock
  split
  · exact ⟨m, rfl, loc⟩
  · next started =>
    have started : f.block.started = true := by simpa using started
    have all : f.block.sentBytes = f.block.value.length := by grind
    have found : m.blocks.get f.block.index = some
        { kind := f.block.kind, text := String.ofList (f.block.value.toList.take f.block.sentBytes), stopped := false } := by
      rw [loc.index, loc.here, readOf, started, open_]
      rfl
    have read := read_blockStop (loc.running (loc.sound.begun started)) found rfl
    refine ⟨_, (reads_one _ _ _).trans read, ⟨loc.begun, loc.stays, loc.content, loc.index, loc.keeps, ?_, ?_, loc.order, ?_⟩⟩
    · grind [readOf, loc.index]
    · grind [loc.index, loc.others]
    · exact ⟨loc.sound.sent, loc.sound.unsent, fun _ => ⟨started, all⟩, loc.sound.begun⟩

theorem followed_stopBlock : Followed stopBlock := by
  intro m₀ b₀ f m loc
  by_cases stopped : f.block.stopped = true
  · simp only [stopBlock, stopped, if_true]
    exact ⟨m, rfl, loc⟩
  have open_ : f.block.stopped = false := by simpa using stopped
  rw [stopBlock_eq open_ loc.sound.sent]
  obtain ⟨middle, readFlush, locMiddle⟩ := followed_flushBlock m₀ b₀ f m loc
  obtain ⟨last, readClose, locLast⟩ := followed_closeBlock _ middle ⟨flushBlock_flushed open_ loc.sound.sent, locMiddle⟩
  exact ⟨last, reads_append_of readClaude readFlush readClose, locLast⟩

theorem followed_appendAnnotations (annotations : List Annotation) (snapshot : Bool) :
    Followed (appendAnnotations annotations snapshot) := by
  intro m₀ b₀ f m loc
  unfold appendAnnotations
  split
  · exact ⟨m, rfl, loc⟩
  · next fits =>
    obtain ⟨kind, open_, _⟩ := not_or.mp fits |>.imp not_not.mp not_or.mp
    have open_ : f.block.stopped = false := by simpa using open_
    split
    · exact ⟨m, rfl, loc⟩
    dsimp only
    generalize (if snapshot = true then annotations.length else f.block.annotationCount + annotations.length) = count
    generalize (if snapshot = true then annotations.drop f.block.annotationCount else annotations) = remaining
    split
    · exact ⟨m, rfl, loc.note count f.block.needsReasoningBreak⟩
    have noted := loc.note count f.block.needsReasoningBreak
    obtain ⟨middle, readStart, locMiddle⟩ := followed_startBlock m₀ b₀ _ m noted
    obtain ⟨same, starts, keeps⟩ := startBlock_block { f with block := { f.block with annotationCount := count } }
    have begun : (startBlock { f with block := { f.block with annotationCount := count } }).1.block.started = true := by
      cases known : f.block.started with
      | true => exact keeps known
      | false =>
        rcases starts open_ known with begun | ⟨tool, _⟩
        · exact begun
        · rw [kind] at tool; cases tool
    have stillOpen : (startBlock { f with block := { f.block with annotationCount := count } }).1.block.stopped = false := by
      rw [same]; exact open_
    have stillText : (startBlock { f with block := { f.block with annotationCount := count } }).1.block.kind = .text := by
      rw [same]; exact kind
    obtain ⟨last, readRest, locLast⟩ := locMiddle.citations begun stillOpen stillText _
    exact ⟨last, reads_append_of readClaude readStart readRest, locLast⟩

theorem followed_applyItem (item : ResponsesOutput) (kind : ClaudeBlockKind) : Followed (applyItem item kind) := by
  cases kind with
  | thinking => exact followed_mergeFinalValue _
  | text => exact followed_andThen (followed_mergeFinalValue _) (followed_appendAnnotations _ _)
  | toolUse => exact followed_mergeFinalValue _

def Keeps (emission : Emission BlockFocus ClaudeStreamEvent) : Prop :=
  ∀ f : BlockFocus, f.block.started = true → (emission f).1.block.started = true

theorem keeps_andThen (left : Keeps first) (right : Keeps second) : Keeps (first.andThen second) :=
  fun f begun => right _ (left f begun)

theorem keeps_startBlock : Keeps startBlock := fun f => (startBlock_block f).2.2

theorem keeps_sendRest : Keeps sendRest := by
  intro f begun
  unfold sendRest
  split <;> exact begun

theorem keeps_flushBlock : Keeps flushBlock := by
  intro f begun
  unfold flushBlock
  split
  · exact begun
  · exact keeps_andThen keeps_startBlock keeps_sendRest f begun

theorem keeps_closeBlock : Keeps closeBlock := by
  intro f begun
  unfold closeBlock
  split <;> exact begun

theorem keeps_stopBlock : Keeps stopBlock := by
  intro f begun
  unfold stopBlock
  split
  · exact begun
  · exact keeps_andThen keeps_flushBlock (keeps_andThen keeps_startBlock keeps_closeBlock) f begun

theorem keeps_appendAnnotations (notes : List Annotation) (snapshot : Bool) :
    Keeps (appendAnnotations notes snapshot) := by
  intro f begun
  unfold appendAnnotations
  split
  · exact begun
  split
  · exact begun
  dsimp only
  generalize (if snapshot = true then notes.drop f.block.annotationCount else notes) = remaining
  split
  · exact begun
  · exact keeps_startBlock _ begun

def Startable (block : ResponsesClaudeStreamBlock) : Prop :=
  block.stopped = false ∧ (block.kind = .toolUse → block.name ≠ "")

theorem startBlock_starts (startable : Startable f.block) : (startBlock f).1.block.started = true := by
  obtain ⟨_, starts, keeps⟩ := startBlock_block f
  cases known : f.block.started with
  | true => exact keeps known
  | false =>
    rcases starts startable.1 known with begun | ⟨tool, unnamed, _⟩
    · exact begun
    · exact absurd unnamed (startable.2 tool)

theorem flushBlock_starts (startable : Startable f.block) : (flushBlock f).1.block.started = true := by
  unfold flushBlock
  rw [if_neg (by simp [startable.1])]
  exact keeps_sendRest _ (startBlock_starts startable)

theorem appendDelta_starts (some : delta ≠ "") (startable : Startable f.block) :
    (appendDelta delta f).1.block.started = true := by
  unfold appendDelta
  rw [if_neg (by simp [startable.1, some])]
  exact flushBlock_starts startable

theorem mergeFinalValue_starts (finalValue : String) (startable : Startable f.block) :
    (mergeFinalValue finalValue f).1.block.started = true := by
  unfold mergeFinalValue
  rw [if_neg (by simp [startable.1])]
  exact flushBlock_starts startable

theorem mergeText_starts {text : Option String} (some : text ≠ none) (startable : Startable f.block) :
    (mergeText text f).1.block.started = true := by
  obtain ⟨text, rfl⟩ := Option.ne_none_iff_exists'.mp some
  exact mergeFinalValue_starts text startable

theorem separatedResponsesDelta_ne (some : delta ≠ "") : separatedResponsesDelta delta ≠ "" := by
  unfold separatedResponsesDelta
  split
  · exact some
  · split
    · exact fun empty => absurd (String.append_eq_empty_iff.mp empty).1 (by decide)
    · exact fun empty => absurd (String.append_eq_empty_iff.mp empty).1 (by decide)

theorem reasoningDelta_starts (some : delta ≠ "") (startable : Startable f.block) :
    (reasoningDelta delta f).1.block.started = true := by
  unfold reasoningDelta
  split
  · exact appendDelta_starts (separatedResponsesDelta_ne some) startable
  · exact appendDelta_starts some startable

theorem applyItem_starts (item : ResponsesOutput) (kind : ClaudeBlockKind) (startable : Startable f.block) :
    (applyItem item kind f).1.block.started = true := by
  cases kind with
  | thinking => exact mergeFinalValue_starts _ startable
  | text => exact keeps_appendAnnotations _ _ _ (mergeFinalValue_starts _ startable)
  | toolUse => exact mergeFinalValue_starts _ startable

theorem appendAnnotation_starts {note : Annotation} (some : responsesAnnotationsToClaude [note] "" ≠ [])
    (kind : f.block.kind = .text) (empty : f.block.value = "") (startable : Startable f.block) :
    (appendAnnotations [note] false f).1.block.started = true := by
  unfold appendAnnotations
  rw [if_neg (by simp [kind, startable.1]), if_neg (by simp)]
  dsimp only
  rw [if_neg (by simpa [empty] using some)]
  exact startBlock_starts startable

end Wildflow.Relay.ResponsesToClaude
