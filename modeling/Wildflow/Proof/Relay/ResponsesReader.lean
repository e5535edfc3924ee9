import Wildflow.Relay.ChatToResponses
import Wildflow.Store.Slots

/-!
# The client of a Responses stream

It refuses a first event other than `response.created`, an item out of order, an event of an item that is done, a done
item that differs from its deltas, a terminal response that differs from the done items, and anything after it.
-/

namespace Wildflow.Relay.ChatToResponses
open Wildflow.Store List
variable {change : ReadItem → Option ReadItem} {event : ResponsesEvent}

structure ReadItem where
  deltas : String := ""
  done : Option ResponsesOutput := none

structure ResponseReader where
  created : Bool := false
  items : List ReadItem := []
  ended : Bool := false

def payload (out : ResponsesOutput) : String :=
  match out.type with
  | .message => outputText out.content
  | .reasoning => String.join out.summary
  | .functionCall | .mcpCall => out.arguments
  | _ => ""

def onOpenItem (m : ResponseReader) (index : Nat) (change : ReadItem → Option ReadItem) : Option ResponseReader :=
  match m.items[index]? with
  | none => none
  | some item =>
    if item.done.isSome then none
    else (change item).map fun changed => { m with items := m.items.set index changed }

def agreeing (text : String) (item : ReadItem) : Option ReadItem := if text = item.deltas then some item else none

def readOpened (m : ResponseReader) : ResponsesEvent → Option ResponseReader
  | .created => none
  | .itemAdded index _ => if index = m.items.length then some { m with items := m.items ++ [{}] } else none
  | .textDelta index delta | .reasoningDelta index delta | .argumentsDelta index delta =>
    onOpenItem m index fun item => some { item with deltas := item.deltas ++ delta }
  | .annotationAdded index _ _ | .hosted index _ _ => onOpenItem m index some
  | .textDone index text | .argumentsDone index text => onOpenItem m index fun item => agreeing (text.getD item.deltas) item
  | .reasoningDone index text => onOpenItem m index (agreeing text)
  | .itemDone index out =>
    onOpenItem m index fun item => (agreeing (payload out) item).map fun item => { item with done := some out }
  | .error _ _ _ => some m
  | .completed response | .incomplete response | .failed response =>
    if response.output.map some = m.items.map (·.done) then some { m with ended := true } else none

def readEvent (m : ResponseReader) (event : ResponsesEvent) : Option ResponseReader :=
  if m.ended then none
  else if event = .created then (if m.created then none else some { m with created := true })
  else if m.created then readOpened m event
  else none

def wellFormedStream (events : List ResponsesEvent) : Bool := (reads readEvent {} events).any (·.ended)

open ChatToResponsesStreamState

section
variable (s : ChatToResponsesStreamState)

def slot : OutputRef → Option Nat
  | .message => if s.textStarted then some s.textOutputIndex else none
  | .reasoning => if s.reasoningStarted then some s.reasoningIndex else none
  | .tool index => (s.toolsByIndex.get index).map (·.outputIndex)
  | .hosted callID => (s.hostedByID.get callID).map (·.outputIndex)

def toolItem (status : String) (tool : ChatToResponsesStreamTool) : ReadItem where
  deltas := tool.arguments
  done := if tool.done then some (toolOutput tool status) else none

def hostedItem (tool : ChatToResponsesHostedTool) : ReadItem where
  deltas := payload tool.output
  done := if tool.done then some tool.output else none

def itemOf : OutputRef → ReadItem
  | .message => { deltas := s.text, done := if s.textDone then some (s.messageOutput s.outputStatus) else none }
  | .reasoning =>
    { deltas := s.reasoning, done := if s.reasoningDone then some (s.reasoningOutput s.outputStatus) else none }
  | .tool index => ((s.toolsByIndex.get index).map (toolItem s.outputStatus)).getD {}
  | .hosted callID => ((s.hostedByID.get callID).map hostedItem).getD {}

def readerOf : ResponseReader where
  created := s.sentCreated
  items := s.outputOrder.map (itemOf s)

end

structure Sound (s : ChatToResponsesStreamState) : Prop where
  next : s.nextOutputIndex = s.outputOrder.length
  placed : ∀ index ref, s.outputOrder[index]? = some ref ↔ slot s ref = some index
  textFresh : s.textStarted = false → s.text = "" ∧ s.textDone = false
  reasoningFresh : s.reasoningStarted = false → s.reasoning = "" ∧ s.reasoningDone = false
  begun : s.outputOrder ≠ [] → s.sentCreated = true
  unfinalized : s.finalized = false

variable {s s' : ChatToResponsesStreamState} {ref : OutputRef} {index : Nat}

theorem readerOf_congr (order : s'.outputOrder = s.outputOrder) (sent : s'.sentCreated = s.sentCreated)
    (same : ∀ ref, itemOf s' ref = itemOf s ref) : readerOf s' = readerOf s := by
  unfold readerOf
  rw [order, sent, map_congr_left fun ref _ => same ref]

theorem readEvent_opened {m m' : ResponseReader} (made : m.created = true)
    (busy : m.ended = false) (read : readOpened m event = some m') : readEvent m event = some m' := by
  have other : event ≠ .created := by
    rintro rfl
    cases read
  simp [readEvent, made, busy, other, read]

section
variable (sound : Sound s) (here : slot s ref = some index)
include sound here

theorem Sound.found : s.outputOrder[index]? = some ref :=
  (sound.placed index ref).mpr here

theorem Sound.created : s.sentCreated = true :=
  sound.begun (ne_nil_of_mem (mem_of_getElem? (sound.found here)))

theorem readerOf_change (order : s'.outputOrder = s.outputOrder)
    (sent : s'.sentCreated = s.sentCreated) (others : ∀ other, other ≠ ref → itemOf s' other = itemOf s other) :
    readerOf s' = { readerOf s with items := (readerOf s).items.set index (itemOf s' ref) } := by
  have only : ∀ other, s.outputOrder[other]? = some ref → other = index := by
    intro other there
    exact Option.mem_unique ((sound.placed other ref).mp there) here
  unfold readerOf
  rw [order, sent, map_eq_set (sound.found here) only others]

theorem readEvent_touch (undone : (itemOf s ref).done = none) (order : s'.outputOrder = s.outputOrder)
    (sent : s'.sentCreated = s.sentCreated) (others : ∀ other, other ≠ ref → itemOf s' other = itemOf s other)
    (reading : readOpened (readerOf s) event = onOpenItem (readerOf s) index change)
    (changed : change (itemOf s ref) = some (itemOf s' ref)) : readEvent (readerOf s) event = some (readerOf s') := by
  apply readEvent_opened (sound.created here) rfl
  have item : (readerOf s).items[index]? = some (itemOf s ref) := by simp [readerOf, sound.found here]
  rw [reading, readerOf_change sound here order sent others]
  simp [onOpenItem, item, undone, changed]

theorem readEvent_unchanged (undone : (itemOf s ref).done = none)
    (reading : readOpened (readerOf s) event = onOpenItem (readerOf s) index change)
    (same : change (itemOf s ref) = some (itemOf s ref)) : readEvent (readerOf s) event = some (readerOf s) :=
  readEvent_touch sound here undone rfl rfl (fun _ _ => rfl) reading same

end

theorem readEvent_added {item : ResponsesOutput} (sound : Sound s) (made : s.sentCreated = true)
    (order : s'.outputOrder = s.outputOrder ++ [ref]) (sent : s'.sentCreated = s.sentCreated)
    (fresh : itemOf s' ref = {}) (others : ∀ other ∈ s.outputOrder, itemOf s' other = itemOf s other) :
    readEvent (readerOf s) (.itemAdded s.nextOutputIndex item) = some (readerOf s') := by
  apply readEvent_opened made rfl
  have kept : s.outputOrder.map (itemOf s') = s.outputOrder.map (itemOf s) := map_congr_left others
  simp [readOpened, readerOf, sound.next, order, sent, fresh, kept]

theorem placed_keep (sound : Sound s) (order : s'.outputOrder = s.outputOrder) (slots : ∀ ref, slot s' ref = slot s ref) :
    ∀ index ref, s'.outputOrder[index]? = some ref ↔ slot s' ref = some index := by
  intro index ref
  rw [order, slots, sound.placed]

theorem placed_snoc (sound : Sound s) (order : s'.outputOrder = s.outputOrder ++ [ref]) (absent : slot s ref = none)
    (here : slot s' ref = some s.nextOutputIndex) (slots : ∀ other, other ≠ ref → slot s' other = slot s other) :
    ∀ index other, s'.outputOrder[index]? = some other ↔ slot s' other = some index := by
  intro index other
  have before := sound.placed index other
  rw [order, List.getElem?_append]
  by_cases same : other = ref
  · subst same
    rw [here, sound.next]
    split
    · grind
    · next outside =>
      have last : ([other][index - s.outputOrder.length]? = some other) ↔ index - s.outputOrder.length = 0 := by
        rcases index - s.outputOrder.length with _ | later <;> simp
      rw [last, Option.some.injEq]
      omega
  · rw [slots other same]
    split
    · exact before
    · next outside =>
      have beyond : s.outputOrder[index]? = none := List.getElem?_eq_none (by omega)
      rw [beyond] at before
      rw [← before]
      rcases index - s.outputOrder.length with _ | later
      · simp [Ne.symm same]
      · simp

end Wildflow.Relay.ChatToResponses
