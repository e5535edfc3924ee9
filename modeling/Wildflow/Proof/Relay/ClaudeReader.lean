import Wildflow.Store.Dict
import Wildflow.Store.Stream
import Wildflow.Relay.Formats

/-!
# The client of a Claude stream

It refuses an event that the block protocol does not allow where it comes.
-/

namespace Wildflow.Relay.ClaudeStream
open Wildflow.Store List

structure ReadBlock where
  kind : ClaudeBlockKind
  text : String := ""
  stopped : Bool := false

structure ClaudeReader where
  begun : Bool := false
  blocks : Dict Nat ReadBlock := Dict.empty
  order : List Nat := []
  closing : Bool := false
  ended : Bool := false

def onOpenBlock (m : ClaudeReader) (index : Nat) (change : ReadBlock → Option ReadBlock) : Option ClaudeReader :=
  match m.blocks.get index with
  | none => none
  | some block =>
    if block.stopped then none
    else (change block).map fun changed => { m with blocks := m.blocks.set index changed }

def readClaude (m : ClaudeReader) (event : ClaudeStreamEvent) : Option ClaudeReader :=
  if m.ended then none
  else match event with
    | .messageStart => if m.begun then none else some { m with begun := true }
    | .blockStart index block =>
      if m.begun && !m.closing && (m.blocks.get index).isNone then
        some { m with blocks := m.blocks.set index { kind := block.kind }, order := m.order ++ [index] }
      else none
    | .blockDelta index delta =>
      if m.closing then none
      else onOpenBlock m index fun block =>
        if delta.kind = block.kind then some { block with text := block.text ++ delta.payload } else none
    | .blockStop index => if m.closing then none else onOpenBlock m index fun block => some { block with stopped := true }
    | .messageDelta _ =>
      if m.begun && !m.closing && m.blocks.rows.all (·.2.stopped) then some { m with closing := true } else none
    | .messageStop => if m.closing then some { m with ended := true } else none

def obeysBlockProtocol (events : List ClaudeStreamEvent) : Bool := (reads readClaude {} events).any (·.ended)

def startsInOrder (events : List ClaudeStreamEvent) : Bool :=
  (reads readClaude {} events).any fun m => m.order = List.range m.order.length

structure Running (m : ClaudeReader) : Prop where
  begun : m.begun = true
  closing : m.closing = false
  ended : m.ended = false

variable {m m' : ClaudeReader} {index : Nat}

section
variable (running : Running m)
include running

theorem read_blockStart (absent : m.blocks.get index = none) (b : ClaudeContentBlock) :
    readClaude m (.blockStart index b) =
      some { m with blocks := m.blocks.set index { kind := b.kind }, order := m.order ++ [index] } := by
  simp [readClaude, running.begun, running.closing, running.ended, absent]

theorem read_blockDelta {b : ReadBlock} (found : m.blocks.get index = some b)
    (open_ : b.stopped = false) {d : ClaudeDelta} (kind : d.kind = b.kind) :
    readClaude m (.blockDelta index d) =
      some { m with blocks := m.blocks.set index { b with text := b.text ++ d.payload } } := by
  simp [readClaude, running.closing, running.ended, onOpenBlock, found, open_, kind]

theorem read_blockStop {b : ReadBlock} (found : m.blocks.get index = some b) (open_ : b.stopped = false) :
    readClaude m (.blockStop index) = some { m with blocks := m.blocks.set index { b with stopped := true } } := by
  simp [readClaude, running.closing, running.ended, onOpenBlock, found, open_]

theorem reads_finish (stopped : ∀ index b, m.blocks.get index = some b → b.stopped = true) (stopReason : String) :
    reads readClaude m [.messageDelta stopReason, .messageStop] = some { m with closing := true, ended := true } := by
  have all : m.blocks.rows.all (·.2.stopped) = true := by
    rw [all_eq_true]
    rintro ⟨index, b⟩ mem
    exact stopped index b (Dict.get_of_mem_rows mem)
  simp [reads_cons, readClaude, running.begun, running.closing, running.ended, all]

end

theorem reads_stops {indices : List Nat} (running : Running m) (nodup : indices.Nodup)
    (opened : ∀ index ∈ indices, ∃ b, m.blocks.get index = some b ∧ b.stopped = false) :
    ∃ m', reads readClaude m (indices.map .blockStop) = some m' ∧ Running m' ∧ m'.order = m.order ∧
      ∀ index, m'.blocks.get index =
        if index ∈ indices then (m.blocks.get index).map fun b => { b with stopped := true }
        else m.blocks.get index := by
  induction indices generalizing m with
  | nil => exact ⟨m, rfl, running, rfl, fun index => by simp⟩
  | cons first rest ih =>
    obtain ⟨apart, distinctRest⟩ := nodup_cons.mp nodup
    obtain ⟨b, found, open_⟩ := opened first List.mem_cons_self
    have read := read_blockStop running found open_
    let next : ClaudeReader := { m with blocks := m.blocks.set first { b with stopped := true } }
    have runningNext : Running next := ⟨running.begun, running.closing, running.ended⟩
    have openedNext : ∀ index ∈ rest, ∃ b, next.blocks.get index = some b ∧ b.stopped = false := by
      intro index mem
      obtain ⟨other, foundOther, openOther⟩ := opened index (List.mem_cons_of_mem first mem)
      have ne : first ≠ index := fun same => apart (same ▸ mem)
      exact ⟨other, (Dict.get_set_of_ne _ ne _).trans foundOther, openOther⟩
    obtain ⟨last, readRest, runningLast, order, blocks⟩ := ih runningNext distinctRest openedNext
    refine ⟨last, ?_, runningLast, order, ?_⟩
    · rw [map_cons, reads_cons, read]
      exact readRest
    · grind

end Wildflow.Relay.ClaudeStream
