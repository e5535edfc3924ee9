import Wildflow.Relay.ChatToClaude

/-!
# The content of a Chat stream, as sent and as received

What the chunks carry is put together on one side, what the client gets on the other.
-/

namespace Wildflow.Relay.ChatToClaude
open Wildflow.Store ClaudeConvertInfo List

structure TrackedCall where
  id : String := ""
  name : String := ""
  arguments : String := ""

def TrackedCall.extend (toolCall : ToolCallResponse) (call : TrackedCall) : TrackedCall where
  id := if call.id = "" then trimSpace toolCall.id else call.id
  name := if call.name = "" then trimSpace toolCall.name else call.name
  arguments := call.arguments ++ toolCall.arguments

structure Expected where
  text : String := ""
  thinking : String := ""
  calls : List TrackedCall := []
  byIndex : Dict Int Nat := Dict.empty
  byID : Dict String Nat := Dict.empty

namespace Expected

/-- The call of its id, or else the last one at its index that has no other id. -/
def find (t : Expected) (toolIndex : Int) (incomingID : String) : Option Nat :=
  let known := if incomingID = "" then none else t.byID.get incomingID
  (known.orElse fun _ => t.byIndex.get toolIndex).filter fun place =>
    match t.calls[place]? with
    | none => false
    | some call => incomingID = "" || call.id = "" || call.id = incomingID

def findFragment (t : Expected) (fragment : ToolCallResponse × Nat) : Option Nat :=
  t.find (fragment.1.index.getD fragment.2) (trimSpace fragment.1.id)

def track (t : Expected) (fragment : ToolCallResponse × Nat) : Expected :=
  let found := t.findFragment fragment
  let position := found.getD t.calls.length
  let calls := if found.isSome then t.calls else t.calls ++ [({} : TrackedCall)]
  let call := (calls[position]?).getD {}
  { t with
    calls := calls.set position (call.extend fragment.1)
    byIndex := t.byIndex.set (fragment.1.index.getD fragment.2) position
    byID := if call.id = "" ∧ trimSpace fragment.1.id ≠ "" then t.byID.set (trimSpace fragment.1.id) position else t.byID }

def noteDelta (t : Expected) (delta : ChatDelta) : Expected :=
  delta.toolCalls.zipIdx.foldl track { t with text := t.text ++ delta.content, thinking := t.thinking ++ delta.reasoning }

def noteChunk (t : Expected) (chunk : ChatCompletionsStreamResponse) : Expected :=
  match chunk.choices with
  | [] => t
  | choice :: _ => t.noteDelta choice.delta

end Expected

structure Collected where
  text : String := ""
  thinking : String := ""
  names : Dict Nat String := Dict.empty
  inputs : Dict String String := Dict.empty

namespace Collected

def input (c : Collected) (id : String) : String := (c.inputs.get id).getD ""

def collect (c : Collected) : ClaudeStreamEvent → Collected
  | .blockStart index block => if block.kind = .toolUse then { c with names := c.names.set index block.id } else c
  | .blockDelta _ (.text text) => { c with text := c.text ++ text }
  | .blockDelta _ (.thinking text) => { c with thinking := c.thinking ++ text }
  | .blockDelta index (.inputJson json) =>
    match c.names.get index with
    | none => c
    | some id => { c with inputs := c.inputs.set id (c.input id ++ json) }
  | _ => c

def gather (c : Collected) (event : ClaudeStreamEvent) : Option Collected := some (c.collect event)

theorem reads_gather (c : Collected) (events : List ClaudeStreamEvent) :
    reads gather c events = some (events.foldl collect c) := by
  induction events generalizing c with
  | nil => rfl
  | cons ev rest ih => exact ih (c.collect ev)

structure Adds (c c' : Collected) (id json : String) : Prop where
  text : c'.text = c.text
  thinking : c'.thinking = c.thinking
  input : ∀ other, c'.input other = if other = id then c.input other ++ json else c.input other

theorem adds_delta {c : Collected} {i : Nat} {id : String} (named : c.names.get i = some id) (json : String) :
    Adds c (c.collect (.blockDelta i (.inputJson json))) id json ∧
      (c.collect (.blockDelta i (.inputJson json))).names = c.names := by
  have same : c.collect (.blockDelta i (.inputJson json)) = { c with inputs := c.inputs.set id (c.input id ++ json) } := by
    simp only [collect, named]
  rw [same]
  refine ⟨⟨rfl, rfl, ?_⟩, rfl⟩
  intro other
  by_cases same : other = id
  · subst same
    simp [Collected.input]
  · simp [Collected.input, Dict.get_set_of_ne _ (Ne.symm same), same]

theorem collect_startTool (c : Collected) (tool : ClaudeStreamToolCall) :
    ∃ c', reads gather c (startTool tool).2 = some c' ∧ Adds c c' tool.id tool.pendingArguments ∧
      c'.names = c.names.set tool.blockIndex tool.id := by
  let opened : Collected := { c with names := c.names.set tool.blockIndex tool.id }
  have first : c.collect (.blockStart tool.blockIndex { kind := .toolUse, id := tool.id, name := tool.name }) = opened := rfl
  rw [reads_gather]
  refine ⟨_, rfl, ?_⟩
  unfold startTool
  dsimp only
  rw [List.foldl_cons, first]
  split
  · next empty =>
    refine ⟨⟨rfl, rfl, ?_⟩, rfl⟩
    intro other
    rw [empty, String.append_empty, ite_self]
    rfl
  · have named : opened.names.get tool.blockIndex = some tool.id := Dict.get_set_self _ _ _
    obtain ⟨adds, names⟩ := adds_delta named tool.pendingArguments
    exact ⟨⟨adds.text, adds.thinking, adds.input⟩, names⟩

theorem Adds.other {c c' : Collected} {id json other : String} (adds : Adds c c' id json) (ne : other ≠ id) :
    c'.input other = c.input other := by
  rw [adds.input, if_neg ne]

theorem Adds.self {c c' : Collected} {id json : String} (adds : Adds c c' id json) : c'.input id = c.input id ++ json := by
  rw [adds.input, if_pos rfl]

end Collected

structure Identified (uuid : Nat → String) (t : Expected) : Prop where
  byID : ∀ id place, t.byID.get id = some place ↔ id ≠ "" ∧ ∃ call, t.calls[place]? = some call ∧ call.id = id
  byIndex : ∀ toolIndex place, t.byIndex.get toolIndex = some place → place < t.calls.length
  real : ∀ call ∈ t.calls, ∀ index, call.id ≠ "toolu_" ++ uuid index

variable {uuid : Nat → String} {t : Expected}

theorem Identified.unique (known : Identified uuid t) {place other : Nat} {call same : TrackedCall}
    (here : t.calls[place]? = some call) (there : t.calls[other]? = some same) (equal : call.id = same.id)
    (named : call.id ≠ "") : place = other := by
  have first := (known.byID call.id place).mpr ⟨named, call, here, rfl⟩
  have second := (known.byID call.id other).mpr ⟨named, same, there, equal.symm⟩
  exact Option.mem_unique first second

theorem find_of_byID (identified : Identified uuid t) {id : String} {place : Nat} (known : t.byID.get id = some place)
    (toolIndex : Int) : t.find toolIndex id = some place := by
  obtain ⟨named, call, found, same⟩ := (identified.byID id place).mp known
  simp [Expected.find, named, known, found, same]

theorem find_some {toolIndex : Int} {id : String} {place : Nat} (here : t.find toolIndex id = some place) :
    ∃ call, t.calls[place]? = some call ∧ (id = "" ∨ call.id = "" ∨ call.id = id) := by
  obtain ⟨_, fits⟩ := Option.filter_eq_some_iff.mp here
  cases found : t.calls[place]? with
  | none => simp [found] at fits
  | some call => exact ⟨call, rfl, by simpa [found, or_assoc] using fits⟩

theorem byID_none_of_found (identified : Identified uuid t) {toolIndex : Int} {id : String} {place : Nat} {call : TrackedCall}
    (here : t.find toolIndex id = some place) (found : t.calls[place]? = some call) (unnamed : call.id = "") (named : id ≠ "") :
    t.byID.get id = none := by
  cases known : t.byID.get id with
  | none => rfl
  | some other =>
    have same : other = place := Option.mem_unique (find_of_byID identified known toolIndex) here
    obtain ⟨_, owner, foundOwner, ownID⟩ := (identified.byID id other).mp known
    rw [same, found] at foundOwner
    cases foundOwner
    exact absurd (ownID.symm.trans unnamed) named

theorem byID_none_of_new (identified : Identified uuid t) {toolIndex : Int} {id : String}
    (absent : t.find toolIndex id = none) : t.byID.get id = none := by
  cases known : t.byID.get id with
  | none => rfl
  | some place =>
    rw [find_of_byID identified known toolIndex] at absent
    cases absent

variable {fragment : ToolCallResponse × Nat} {place : Nat} {call : TrackedCall}

def Expected.update (t : Expected) (place : Nat) (call : TrackedCall) (fragment : ToolCallResponse × Nat) : Expected :=
  { t with
    calls := t.calls.set place (call.extend fragment.1)
    byIndex := t.byIndex.set (fragment.1.index.getD fragment.2) place
    byID := if call.id = "" ∧ trimSpace fragment.1.id ≠ "" then t.byID.set (trimSpace fragment.1.id) place else t.byID }

def Expected.withFresh (t : Expected) : Expected := { t with calls := t.calls ++ [{}] }

theorem track_found (here : t.findFragment fragment = some place) (found : t.calls[place]? = some call) :
    t.track fragment = t.update place call fragment := by
  simp [Expected.track, Expected.update, here, found]

theorem track_new (absent : t.findFragment fragment = none) :
    t.track fragment = t.withFresh.update t.calls.length {} fragment := by
  simp [Expected.track, Expected.update, Expected.withFresh, absent]

theorem identified_withFresh (identified : Identified uuid t) : Identified uuid t.withFresh := by
  have lookup : ∀ (place : Nat) (call : TrackedCall), call.id ≠ "" →
      ((t.calls ++ [({} : TrackedCall)])[place]? = some call ↔ t.calls[place]? = some call) := by
    intro place call named
    rw [getElem?_append]
    split
    · rfl
    · next outside =>
      rw [getElem?_eq_none (l := t.calls) (by omega)]
      constructor
      · intro found
        have mem := mem_of_getElem? found
        rw [mem_singleton.mp mem] at named
        exact absurd rfl named
      · intro found
        cases found
  refine ⟨?_, ?_, ?_⟩
  · intro id place
    rw [show t.withFresh.byID = t.byID from rfl, identified.byID id place]
    refine and_congr_right fun named => exists_congr fun call => ?_
    constructor
    · rintro ⟨found, rfl⟩
      exact ⟨(lookup place call named).mpr found, rfl⟩
    · rintro ⟨found, rfl⟩
      exact ⟨(lookup place call named).mp found, rfl⟩
  · intro toolIndex place known
    have inside := identified.byIndex toolIndex place known
    simp only [Expected.withFresh, length_append, length_singleton]
    omega
  · intro call mem i
    rcases mem_append.mp mem with old | new
    · exact identified.real call old i
    · rw [mem_singleton.mp new]
      intro same
      have empty := String.append_eq_empty_iff.mp same.symm
      exact absurd empty.1 (by decide)

theorem extend_id (call : TrackedCall) (toolCall : ToolCallResponse) :
    (call.extend toolCall).id = if call.id = "" then trimSpace toolCall.id else call.id := rfl

theorem identified_update (identified : Identified uuid t) (found : t.calls[place]? = some call)
    (fresh : ∀ i, trimSpace fragment.1.id ≠ "toolu_" ++ uuid i)
    (unknown : call.id = "" → trimSpace fragment.1.id ≠ "" → t.byID.get (trimSpace fragment.1.id) = none) :
    Identified uuid (t.update place call fragment) := by
  have inside := (List.getElem?_eq_some_iff.mp found).1
  generalize incoming : trimSpace fragment.1.id = id at fresh unknown
  have newID : (call.extend fragment.1).id = if call.id = "" then id else call.id := by rw [extend_id, incoming]
  refine ⟨?_, ?_, ?_⟩
  · intro other at_
    have calls : (t.update place call fragment).calls[at_]? =
        if place = at_ then some (call.extend fragment.1) else t.calls[at_]? := by
      simp only [Expected.update, List.getElem?_set, inside, if_true]
    rw [calls]
    by_cases given : call.id = "" ∧ id ≠ ""
    · obtain ⟨unnamed, named⟩ := given
      have byID : (t.update place call fragment).byID = t.byID.set id place := by
        simp [Expected.update, incoming, unnamed, named]
      rw [unnamed, if_pos rfl] at newID
      rw [byID, Dict.get_set]
      by_cases same : id = other
      · subst same
        rw [if_pos rfl]
        constructor
        · grind
        · rintro ⟨_, owner, got, owned⟩
          by_cases here : place = at_
          · rw [here]
          · rw [if_neg here] at got
            rw [(identified.byID id at_).mpr ⟨named, owner, got, owned⟩] at unknown
            cases unknown unnamed named
      · rw [if_neg same, identified.byID]
        by_cases here : place = at_
        · subst here
          simp [found, unnamed, newID, same, eq_comm]
        · rw [if_neg here]
    · have kept : (call.extend fragment.1).id = call.id := by
        rw [newID]
        split
        · next unnamed =>
          have empty : id = "" := by
            by_contra named
            exact given ⟨unnamed, named⟩
          rw [empty, unnamed]
        · rfl
      have byID : (t.update place call fragment).byID = t.byID := by
        simp only [Expected.update, incoming, if_neg given]
      rw [byID, identified.byID]
      by_cases here : place = at_
      · subst here
        simp [found, kept]
      · rw [if_neg here]
  · intro toolIndex at_ known
    simp only [Expected.update, length_set]
    simp only [Expected.update] at known
    rw [Dict.get_set] at known
    split at known
    · cases known
      exact inside
    · exact identified.byIndex toolIndex at_ known
  · intro other mem i
    rcases mem_or_eq_of_mem_set mem with old | rfl
    · exact identified.real other old i
    · grind [identified.real]

end Wildflow.Relay.ChatToClaude
