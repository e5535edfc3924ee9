import Wildflow.Store.Slots
import Wildflow.Proof.Relay.ResponsesStream

/-!
# The calls that the stream state tracks

While the stream is well formed, a new item opens a call, a delta extends it, and every later mention sends nothing.
-/

namespace Wildflow.Relay.ResponsesToChat
open Wildflow.Store ResponsesToChatStreamState List

structure TrackedCall where
  output : Nat
  itemID : String
  callID : String
  id : String
  name : String
  arguments : String

namespace TrackedCall

def tool (call : TrackedCall) : ResponsesStreamTool where
  key := .output call.output
  callID := call.id
  itemID := call.itemID
  name := call.name
  arguments := call.arguments
  sent := true
  nameSent := true
  argsSentAt := call.arguments.length

def chat (call : TrackedCall) : ChatToolCall := ⟨call.id, call.name, call.arguments⟩

def extend (delta : String) (call : TrackedCall) : TrackedCall := { call with arguments := call.arguments ++ delta }

def ofOutput (output : Nat) (out : ResponsesOutput) (arguments : String) : TrackedCall where
  output
  itemID := trimSpace out.id
  callID := trimSpace out.callId
  id := chatCallID out
  name := trimSpace out.name
  arguments

end TrackedCall

structure Mapped (byKey : Dict ToolKey Nat) (byOutput : Dict Nat ToolKey) (byItem byCall : Dict String ToolKey)
    (calls : List TrackedCall) : Prop where
  output : ∀ n call, calls[n]? = some call →
    byKey.get (.output call.output) = some n ∧ byOutput.get call.output = some (.output call.output)
  item : ∀ n call, calls[n]? = some call → ∃ key, byItem.get call.itemID = some key ∧ byKey.get key = some n
  ofKey : ∀ key n, byKey.get key = some n →
    ∃ call, calls[n]? = some call ∧ (key = .output call.output ∨ key = .item call.itemID)
  ofOutput : ∀ output key, byOutput.get output = some key → ∃ call ∈ calls, call.output = output
  ofItem : ∀ id key, byItem.get id = some key → ∃ call ∈ calls, call.itemID = id
  ofCall : ∀ id key, byCall.get id = some key → ∃ call ∈ calls, call.callID = id

structure Distinct (calls : List TrackedCall) : Prop where
  outputs : (calls.map TrackedCall.output).Nodup
  items : (calls.map TrackedCall.itemID).Nodup
  callIDs : ((calls.map TrackedCall.callID).filter (· ≠ "")).Nodup

theorem Distinct.left {calls more : List TrackedCall} (nodup : Distinct (calls ++ more)) : Distinct calls := by
  have inside : calls.Sublist (calls ++ more) := sublist_append_left calls more
  exact ⟨nodup.outputs.sublist (inside.map _), nodup.items.sublist (inside.map _),
    nodup.callIDs.sublist ((inside.map _).filter _)⟩

structure Fresh (calls : List TrackedCall) (call : TrackedCall) : Prop where
  output : ∀ old ∈ calls, old.output ≠ call.output
  item : ∀ old ∈ calls, old.itemID ≠ call.itemID
  callID : call.callID ≠ "" → ∀ old ∈ calls, old.callID ≠ call.callID

theorem Distinct.fresh {calls : List TrackedCall} {call : TrackedCall} (nodup : Distinct (calls ++ [call])) :
    Fresh calls call := by
  obtain ⟨outputs, items, callIDs⟩ := nodup
  simp only [map_append, map_cons, map_nil, filter_append, nodup_append] at outputs items callIDs
  refine ⟨?_, ?_, ?_⟩
  · intro old mem
    exact outputs.2.2 _ (mem_map_of_mem mem) _ (by simp)
  · intro old mem
    exact items.2.2 _ (mem_map_of_mem mem) _ (by simp)
  · intro given old mem same
    refine callIDs.2.2 old.callID ?_ call.callID (by simp [given]) same
    rw [mem_filter]
    exact ⟨mem_map_of_mem mem, by simpa [same] using given⟩

section
variable {byKey : Dict ToolKey Nat} {byOutput : Dict Nat ToolKey} {byItem byCall : Dict String ToolKey}
  {calls : List TrackedCall} {call : TrackedCall} {n : Nat}

theorem index_eq_of_nodup {β : Type} {view : TrackedCall → β} (nodup : (calls.map view).Nodup) {m : Nat}
    {other : TrackedCall} (found : calls[n]? = some call) (found' : calls[m]? = some other)
    (same : view call = view other) : n = m := by
  have inside := (List.getElem?_eq_some_iff.mp found).1
  refine (List.getElem?_inj (by simpa using inside) nodup).mp ?_
  simp [found, found', same]

variable (mapped : Mapped byKey byOutput byItem byCall calls)
include mapped

theorem Mapped.get_item (nodup : Distinct calls)
    (found : calls[n]? = some call) {m : Nat} (known : byKey.get (.item call.itemID) = some m) : m = n := by
  obtain ⟨other, found', same | same⟩ := mapped.ofKey _ _ known
  · cases same
  · exact (index_eq_of_nodup nodup.items found found' (ToolKey.item.inj same)).symm

theorem Mapped.open (nodup : Distinct (calls ++ [call])) :
    Mapped (byKey.set (.output call.output) calls.length) (byOutput.set call.output (.output call.output))
      (byItem.set call.itemID (.output call.output))
      (if call.callID ≠ "" then byCall.set call.callID (.output call.output) else byCall) (calls ++ [call]) := by
  obtain ⟨freshOutput, freshItem, _⟩ := nodup.fresh
  obtain ⟨output, item, ofKey, ofOutput, ofItem, ofCall⟩ := mapped
  refine ⟨?_, ?_, ?_, ?_, ?_, ?_⟩
  all_goals simp only [getElem?_snoc, mem_append, mem_singleton]
  all_goals grind

theorem Mapped.again (nodup : Distinct calls)
    (found : calls[n]? = some call) {key : ToolKey} (own : key = .output call.output ∨ key = .item call.itemID) :
    Mapped (byKey.set key n) byOutput (byItem.set call.itemID key)
      (if call.callID ≠ "" then byCall.set call.callID key else byCall) calls := by
  have underItem := fun m => @mapped.get_item _ _ _ _ _ _ _ nodup found m
  have atIndex := fun m other => @index_eq_of_nodup _ _ _ _ _ nodup.items m other found
  obtain ⟨output, item, ofKey, ofOutput, ofItem, ofCall⟩ := mapped
  refine ⟨?_, ?_, ?_, ofOutput, ?_, ?_⟩
  all_goals grind

end

structure Tracked (s : ResponsesToChatStreamState) (calls : List TrackedCall) : Prop where
  tools : s.tools = calls.map TrackedCall.tool
  mapped : Mapped s.toolByKey s.outputIndexToKey s.itemIDToKey s.callIDToKey calls
  pendingOutputs : s.pendingArgsByOutputIndex = Dict.empty
  pendingItems : s.pendingArgsByItemID = Dict.empty
  saw : s.sawToolCall = !calls.isEmpty

structure SameFlags (s s' : ResponsesToChatStreamState) : Prop where
  includeUsage : s'.includeUsage = s.includeUsage
  sentStart : s'.sentStart = s.sentStart
  finalized : s'.finalized = s.finalized
  hasSentText : s'.hasSentText = s.hasSentText

theorem tracked_initial (includeUsage : Bool) : Tracked { includeUsage } [] := by
  refine ⟨rfl, ⟨?_, ?_, ?_, ?_, ?_, ?_⟩, rfl, rfl, rfl⟩ <;> simp

variable {s : ResponsesToChatStreamState} {calls : List TrackedCall} {call : TrackedCall} {n : Nat}
  {event : ResponsesStreamResponse} {out : ResponsesOutput}

theorem drop_sent (args : String) : String.ofList (args.toList.drop args.length) = "" := by
  rw [← String.length_toList, drop_length]

theorem responseStreamEventItemID_of_item (itemOf : event.item = some out) (shown : trimSpace out.id ≠ "") :
    responseStreamEventItemID event = trimSpace out.id := by
  simp [responseStreamEventItemID, itemOf, shown]

theorem toolUnder_of_missing {keys : Dict String ToolKey} {id : String} (missing : id ≠ "" → keys.get id = none) :
    s.toolUnder keys id = none := by
  unfold toolUnder
  split
  · rfl
  · rename_i given
    simp [missing given]

section
variable (tracked : Tracked s calls)
include tracked

theorem Tracked.tool (found : calls[n]? = some call) : s.tools[n]? = some call.tool := by
  simp [tracked.tools, found]

theorem Tracked.toolDelta_quiet (found : calls[n]? = some call) : toolDelta n "" s = (s, []) := by
  simp [toolDelta, tracked.tool found, TrackedCall.tool, drop_sent]

theorem Tracked.takePendingOutput (i output : Nat) : s.takePendingOutput i output = s := by
  simp [ResponsesToChatStreamState.takePendingOutput, tracked.pendingOutputs]

theorem Tracked.takePendingItem (i : Nat) (id : String) : s.takePendingItem i id = s := by
  simp [ResponsesToChatStreamState.takePendingItem, tracked.pendingItems]

theorem Tracked.knownTool_fresh {output : Nat} (itemOf : event.item = some out)
    (shown : trimSpace out.id ≠ "") (fresh : Fresh calls (TrackedCall.ofOutput output out "")) :
    s.knownTool (.output output) event out = none := by
  obtain ⟨freshOutput, freshItem, freshCall⟩ := fresh
  have noKey : s.toolByKey.get (.output output) = none := by
    rw [Option.eq_none_iff_forall_ne_some]
    intro m known
    obtain ⟨owner, ownerAt, same | same⟩ := tracked.mapped.ofKey _ _ known
    · exact freshOutput owner (mem_of_getElem? ownerAt) (ToolKey.output.inj same).symm
    · cases same
  have noItem : s.toolUnder s.itemIDToKey (trimSpace out.id) = none := by
    apply toolUnder_of_missing
    intro _
    rw [Option.eq_none_iff_forall_ne_some]
    intro key known
    obtain ⟨owner, mem, same⟩ := tracked.mapped.ofItem _ _ known
    exact freshItem owner mem same
  have noCall : s.toolUnder s.callIDToKey (trimSpace out.callId) = none := by
    apply toolUnder_of_missing
    intro given
    rw [Option.eq_none_iff_forall_ne_some]
    intro key known
    obtain ⟨owner, mem, same⟩ := tracked.mapped.ofCall _ _ known
    exact freshCall given owner mem same
  rw [knownTool, noKey, responseStreamEventItemID_of_item itemOf shown, noItem, noCall]
  rfl

theorem Tracked.toolItem_open {output : Nat} (itemOf : event.item = some out)
    (indexOf : event.outputIndex = some output) (shown : trimSpace out.id ≠ "") (named : trimSpace out.name ≠ "")
    (bare : out.arguments = "") (nodup : Distinct (calls ++ [TrackedCall.ofOutput output out ""])) :
    ∃ s', toolItem event out s = sendChunk (.toolCall calls.length (chatCallID out) (trimSpace out.name) "") s' ∧
      Tracked s' (calls ++ [TrackedCall.ofOutput output out ""]) ∧ SameFlags s s' := by
  have unknown := tracked.knownTool_fresh itemOf shown nodup.fresh
  have calledID : chatCallID out ≠ "" := by
    unfold chatCallID
    split <;> assumption
  have trimmedID : trimSpace (chatCallID out) = chatCallID out := by
    unfold chatCallID
    split <;> exact trimSpace_trimSpace _
  have length : s.tools.length = calls.length := by simp [tracked.tools]
  have bound : s.ensureToolForEvent event out = some ({ s with
      tools := s.tools ++ [{
        key := .output output, callID := chatCallID out, itemID := trimSpace out.id, name := trimSpace out.name }]
      toolByKey := s.toolByKey.set (.output output) s.tools.length
      outputIndexToKey := s.outputIndexToKey.set output (.output output)
      itemIDToKey := s.itemIDToKey.set (trimSpace out.id) (.output output)
      callIDToKey := if trimSpace out.callId ≠ "" then s.callIDToKey.set (trimSpace out.callId) (.output output)
        else s.callIDToKey }, s.tools.length) := by
    simp [ensureToolForEvent, keyForEvent, indexOf, unknown, addTool, bindOutputIndex, bindItemID, bindCall, updateTool,
      ResponsesToChatStreamState.takePendingOutput, ResponsesToChatStreamState.takePendingItem, tracked.pendingOutputs,
      tracked.pendingItems, responseStreamEventItemID_of_item itemOf shown, shown, named, modify_snoc, chatCallID]
  refine ⟨{ s with
      tools := s.tools ++ [(TrackedCall.ofOutput output out "").tool]
      toolByKey := s.toolByKey.set (.output output) s.tools.length
      outputIndexToKey := s.outputIndexToKey.set output (.output output)
      itemIDToKey := s.itemIDToKey.set (trimSpace out.id) (.output output)
      callIDToKey := if trimSpace out.callId ≠ "" then s.callIDToKey.set (trimSpace out.callId) (.output output)
        else s.callIDToKey
      sawToolCall := true }, ?_, ?_, ⟨rfl, rfl, rfl, rfl⟩⟩
  · rw [toolItem, bound, ← length]
    simp [bare, toolDelta, updateTool, modify_snoc, trimmedID, calledID, named, TrackedCall.ofOutput, TrackedCall.tool]
  · refine ⟨by simp [tracked.tools], ?_, tracked.pendingOutputs, tracked.pendingItems, by simp⟩
    rw [length]
    exact tracked.mapped.open nodup

end

section
variable {key : ToolKey} (toolAt : s.tools[n]? = some call.tool)
include toolAt

theorem bindItemID_again (noPending : s.pendingArgsByItemID = Dict.empty) (shown : call.itemID ≠ "") :
    s.bindItemID n key call.itemID = { s with itemIDToKey := s.itemIDToKey.set call.itemID key } := by
  have fixed : s.tools.modify n (fun tool => { tool with itemID := call.itemID }) = s.tools :=
    modify_of_fixed toolAt rfl
  simp [bindItemID, shown, updateTool, fixed, ResponsesToChatStreamState.takePendingItem, noPending]

theorem bindCall_again (same : call = TrackedCall.ofOutput call.output out call.arguments) :
    s.bindCall n key out = { s with
      callIDToKey := if call.callID ≠ "" then s.callIDToKey.set call.callID key else s.callIDToKey } := by
  have callSame : call.callID = trimSpace out.callId := congrArg TrackedCall.callID same
  have idSame : call.id = chatCallID out := congrArg TrackedCall.id same
  have nameSame : call.name = trimSpace out.name := congrArg TrackedCall.name same
  have fixed : s.tools.modify n (fun tool => { tool with
      callID := if trimSpace out.callId ≠ "" then trimSpace out.callId
        else if tool.callID = "" then trimSpace out.id else tool.callID
      name := if trimSpace out.name ≠ "" then trimSpace out.name else tool.name }) = s.tools := by
    apply modify_of_fixed toolAt
    simp only [TrackedCall.tool, idSame, nameSame, chatCallID]
    by_cases given : trimSpace out.callId = "" <;> simp [given]
  simp only [bindCall, updateTool, fixed, callSame]

end

theorem Tracked.toolItem_again (tracked : Tracked s calls) (nodup : Distinct calls) (found : calls[n]? = some call)
    (itemOf : event.item = some out) (indexOf : event.outputIndex = some call.output ∨ event.outputIndex = none)
    (shown : trimSpace out.id ≠ "") (same : call = TrackedCall.ofOutput call.output out call.arguments)
    (sent : out.arguments = "" ∨ out.arguments = call.arguments) :
    ∃ s', toolItem event out s = (s', []) ∧ Tracked s' calls ∧ SameFlags s s' := by
  have itemSame : call.itemID = trimSpace out.id := congrArg TrackedCall.itemID same
  have callSame : call.callID = trimSpace out.callId := congrArg TrackedCall.callID same
  have idSame : call.id = chatCallID out := congrArg TrackedCall.id same
  have nameSame : call.name = trimSpace out.name := congrArg TrackedCall.name same
  obtain ⟨key, keyed, own⟩ : ∃ key, keyForEvent event = some key ∧
      (key = .output call.output ∨ key = .item call.itemID) := by
    rcases indexOf with given | absent
    · exact ⟨.output call.output, by simp [keyForEvent, given], .inl rfl⟩
    · exact ⟨.item call.itemID, by simp [keyForEvent, absent, itemOf, itemKey, shown, itemSame], .inr rfl⟩
  have known : s.knownTool key event out = some n := by
    unfold knownTool
    rw [responseStreamEventItemID_of_item itemOf shown]
    cases direct : s.toolByKey.get key with
    | some m =>
      rcases own with rfl | rfl
      · rw [(tracked.mapped.output n call found).1] at direct
        simp [← direct]
      · simp [tracked.mapped.get_item nodup found direct]
    | none => grind [toolUnder, tracked.mapped.item]
  have outputSame : ({ s with toolByKey := s.toolByKey.set key n } : ResponsesToChatStreamState).bindOutputIndex n key
      event.outputIndex = { s with toolByKey := s.toolByKey.set key n } := by
    rcases indexOf with given | absent
    · obtain rfl : .output call.output = key := by simpa [keyForEvent, given] using keyed
      simp [bindOutputIndex, given, Dict.set_of_get (tracked.mapped.output n call found).2,
        ResponsesToChatStreamState.takePendingOutput, tracked.pendingOutputs]
    · simp [bindOutputIndex, absent]
  have bound : s.ensureToolForEvent event out = some ({ s with
      toolByKey := s.toolByKey.set key n
      itemIDToKey := s.itemIDToKey.set call.itemID key
      callIDToKey := if call.callID ≠ "" then s.callIDToKey.set call.callID key else s.callIDToKey }, n) := by
    unfold ensureToolForEvent
    simp only [keyed, Option.some_or, Option.map_some, known, Option.getD_some, outputSame]
    rw [responseStreamEventItemID_of_item itemOf shown, ← itemSame,
      bindItemID_again (s := { s with toolByKey := s.toolByKey.set key n }) (tracked.tool found) tracked.pendingItems
        (itemSame ▸ shown),
      bindCall_again (s := { s with
        toolByKey := s.toolByKey.set key n
        itemIDToKey := s.itemIDToKey.set call.itemID key }) (tracked.tool found) same]
  have after : Tracked { s with
      toolByKey := s.toolByKey.set key n
      itemIDToKey := s.itemIDToKey.set call.itemID key
      callIDToKey := if call.callID ≠ "" then s.callIDToKey.set call.callID key else s.callIDToKey } calls :=
    ⟨tracked.tools, tracked.mapped.again nodup found own, tracked.pendingOutputs, tracked.pendingItems, tracked.saw⟩
  refine ⟨_, ?_, after, ⟨rfl, rfl, rfl, rfl⟩⟩
  rw [toolItem, bound]
  rcases sent with bare | whole
  · simp only [bare, if_true]
    exact after.toolDelta_quiet found
  · have fixed : s.tools.modify n (fun tool => { tool with arguments := out.arguments }) = s.tools :=
      modify_of_fixed (tracked.tool found) (by simp [TrackedCall.tool, whole])
    simp only [updateTool, fixed, ite_self]
    exact after.toolDelta_quiet found

theorem Tracked.findToolForEvent (tracked : Tracked s calls) (found : calls[n]? = some call)
    (indexOf : event.outputIndex = some call.output) : s.findToolForEvent event = some n := by
  obtain ⟨under, keyed⟩ := tracked.mapped.output n call found
  simp [ResponsesToChatStreamState.findToolForEvent, indexOf, keyed, under]

theorem Mapped.extend {byKey : Dict ToolKey Nat} {byOutput : Dict Nat ToolKey} {byItem byCall : Dict String ToolKey}
    (mapped : Mapped byKey byOutput byItem byCall calls) (d : String) :
    Mapped byKey byOutput byItem byCall (calls.modify n (TrackedCall.extend d)) := by
  -- no map reads the arguments
  have kept : ∀ (m : Nat) (old : TrackedCall), calls[m]? = some old → ∃ changed : TrackedCall,
      (calls.modify n (TrackedCall.extend d))[m]? = some changed ∧ changed.output = old.output ∧
        changed.itemID = old.itemID ∧ changed.callID = old.callID := by
    grind [TrackedCall.extend]
  have keptMember : ∀ old ∈ calls, ∃ changed ∈ calls.modify n (TrackedCall.extend d),
      changed.output = old.output ∧ changed.itemID = old.itemID ∧ changed.callID = old.callID := by
    intro old mem
    obtain ⟨m, here⟩ := mem_iff_getElem?.mp mem
    obtain ⟨changed, there, same⟩ := kept m old here
    exact ⟨changed, mem_of_getElem? there, same⟩
  obtain ⟨output, item, ofKey, ofOutput, ofItem, ofCall⟩ := mapped
  refine ⟨?_, ?_, ?_, ?_, ?_, ?_⟩
  all_goals grind [TrackedCall.extend]

variable (tracked : Tracked s calls)
include tracked

theorem Tracked.toolArgumentsDelta (found : calls[n]? = some call)
    (indexOf : event.outputIndex = some call.output) (called : call.id ≠ "") (trimmed : trimSpace call.id = call.id)
    (given : event.delta ≠ "") :
    ∃ s', toolArgumentsDelta event s = sendChunk (.toolCall n call.id "" event.delta) s' ∧
      Tracked s' (calls.modify n (TrackedCall.extend event.delta)) ∧ SameFlags s s' := by
  refine ⟨{ s with
      tools := (calls.modify n (TrackedCall.extend event.delta)).map TrackedCall.tool
      sawToolCall := true }, ?_, ⟨rfl, tracked.mapped.extend event.delta, tracked.pendingOutputs, tracked.pendingItems, ?_⟩,
    ⟨rfl, rfl, rfl, rfl⟩⟩
  · have toolAt := tracked.tool found
    have written : s.tools.modify n (fun tool : ResponsesStreamTool => { tool with
        arguments := tool.arguments ++ event.delta
        nameSent := tool.nameSent || tool.name ≠ ""
        sent := true
        argsSentAt := tool.argsSentAt + event.delta.length }) =
        (calls.modify n (TrackedCall.extend event.delta)).map TrackedCall.tool := by
      rw [tracked.tools]
      exact modify_map found (by simp [TrackedCall.tool, TrackedCall.extend, String.length_append])
    simp only [ResponsesToChatStreamState.toolArgumentsDelta, given, if_false, tracked.findToolForEvent found indexOf,
      toolDelta, updateTool, getElem?_modify, toolAt, if_true, Option.map_eq_map, Option.map_some,
      modify_modify_eq]
    simp only [TrackedCall.tool, trimmed, called, if_false, decide_false, Bool.and_false, Bool.false_and,
      Bool.false_eq_true, if_true]
    rw [← written]
    rfl
  · cases calls with
    | nil => simp at found
    | cons first rest => cases n <;> simp

theorem Tracked.flushPendingTool (found : calls[n]? = some call)
    (indexOf : event.outputIndex = some call.output) : flushPendingTool event s = (s, []) := by
  simp only [ResponsesToChatStreamState.flushPendingTool, tracked.findToolForEvent found indexOf]
  exact tracked.toolDelta_quiet found

theorem Tracked.flushTool {key : ToolKey} (known : s.toolByKey.get key = some n) : flushTool key s = (s, []) := by
  obtain ⟨call, found, _⟩ := tracked.mapped.ofKey key n known
  have quiet := tracked.toolDelta_quiet found
  cases key with
  | output i => simp [ResponsesToChatStreamState.flushTool, known, tracked.takePendingOutput, quiet]
  | item id => simp [ResponsesToChatStreamState.flushTool, known, tracked.takePendingItem, quiet]
  | call id => simp [ResponsesToChatStreamState.flushTool, known, quiet]

theorem Tracked.flushAllPendingTools : flushAllPendingTools s = (s, []) := by
  have each : ∀ keys : List ToolKey, (∀ key ∈ keys, s.toolByKey.get key ≠ none) →
      Emission.each ResponsesToChatStreamState.flushTool keys s = (s, []) := by
    intro keys
    induction keys with
    | nil => intro _; rfl
    | cons key rest ih =>
      intro known
      obtain ⟨n, here⟩ := Option.ne_none_iff_exists'.mp (known key List.mem_cons_self)
      simp [Emission.each, Emission.andThen, tracked.flushTool here,
        ih fun other mem => known other (List.mem_cons_of_mem key mem)]
  apply each
  intro key mem
  rw [mem_insertionSort] at mem
  have noOutputs : s.pendingArgsByOutputIndex.keys = [] := by rw [tracked.pendingOutputs]; rfl
  have noItems : s.pendingArgsByItemID.keys = [] := by rw [tracked.pendingItems]; rfl
  simp only [pendingKeys, noOutputs, noItems, map_nil, append_nil, filter_nil] at mem
  exact Dict.mem_keys.mp mem

end Wildflow.Relay.ResponsesToChat
