import Wildflow.Proof.Relay.HeaderTemplate
import Wildflow.Store.Transaction

/-!
# Client text through an override program

Every piece of a header override that is marked as the client's is part of a header the client sent.
-/

namespace Wildflow.Relay
open Wildflow.Store List
variable {keepOrigin : Bool} {headers : HeaderMap} {value : HeaderValue} {mapping : List (String × Json)}
  {tokens : List HeaderToken} {after context : OverrideContext} {name : String}

variable (sent : List (String × String))

def Grounded (tokens : List HeaderToken) : Prop :=
  ∀ token ∈ tokens, token.fromClient = true → ∃ header ∈ sent, token.text.toList <:+: header.2.toList

def GroundedMap (headers : HeaderMap) : Prop := ∀ entry ∈ headers.rows, Grounded sent entry.2

structure GroundedContext (context : OverrideContext) : Prop where
  request : GroundedMap sent context.requestHeaders
  override : GroundedMap sent context.headerOverride

variable {sent}

theorem Grounded.append {first second : List HeaderToken} (left : Grounded sent first) (right : Grounded sent second) :
    Grounded sent (first ++ second) := by
  intro token mem
  rcases mem_append.mp mem with inFirst | inSecond
  · exact left token inFirst
  · exact right token inSecond

theorem Grounded.subset {fewer : List HeaderToken} (grounded : Grounded sent tokens) (sub : fewer ⊆ tokens) :
    Grounded sent fewer :=
  fun token mem => grounded token (sub mem)

theorem grounded_configured (texts : List String) : Grounded sent (configuredTokens texts) := by
  intro token mem marked
  obtain ⟨text, _, rfl⟩ := mem_map.mp mem
  cases marked

theorem Grounded.shortened {after : List HeaderToken} (grounded : Grounded sent tokens)
    (shorter : ∀ token ∈ after, ∃ old ∈ tokens, token.fromClient = old.fromClient ∧
      token.text.toList <:+: old.text.toList) : Grounded sent after := by
  intro token mem marked
  obtain ⟨old, oldMember, sameMark, inside⟩ := shorter token mem
  obtain ⟨header, headerMember, found⟩ := grounded old oldMember (sameMark ▸ marked)
  exact ⟨header, headerMember, inside.trans found⟩

section
variable (grounded : Grounded sent value)
include grounded

theorem Grounded.trimStart : Grounded sent value.trimStart := by
  refine grounded.shortened ?_
  cases value with
  | nil => simp [HeaderValue.trimStart]
  | cons token rest =>
    intro after mem
    rcases mem_cons.mp mem with rfl | mem
    · refine ⟨token, by simp, rfl, ?_⟩
      rw [String.toList_ofList]
      exact (dropWhile_suffix isSpace).isInfix
    · exact ⟨after, by simp [mem], rfl, infix_refl _⟩

theorem Grounded.trimEnd : Grounded sent value.trimEnd := by
  refine grounded.shortened ?_
  clear grounded
  induction value with
  | nil => simp [HeaderValue.trimEnd]
  | cons token rest ih =>
    cases rest with
    | nil =>
      intro after mem
      obtain rfl := mem_singleton.mp mem
      refine ⟨token, by simp, rfl, ?_⟩
      rw [String.toList_ofList]
      have front := reverse_prefix.mpr (@dropWhile_suffix _ token.text.toList.reverse isSpace)
      simpa using front.isInfix
    | cons next rest =>
      intro after mem
      rcases mem_cons.mp mem with rfl | mem
      · exact ⟨after, by simp, rfl, infix_refl _⟩
      · obtain ⟨old, oldMember, kept⟩ := ih after mem
        exact ⟨old, List.mem_cons_of_mem _ oldMember, kept⟩

theorem Grounded.trimSpace : Grounded sent value.trimSpace :=
  grounded.trimStart.trimEnd

theorem Grounded.split : Grounded sent value.split := by
  refine grounded.shortened ?_
  intro token mem
  obtain ⟨old, oldMember, listed⟩ := mem_flatMap.mp mem
  obtain ⟨text, textMember, rfl⟩ := mem_map.mp listed
  obtain ⟨item, itemMember, made⟩ := mem_filterMap.mp textMember
  refine ⟨old, oldMember, rfl, ?_⟩
  dsimp only at made ⊢
  split at made
  · cases made
  · cases made
    rw [String.toList_ofList]
    exact (trim_isInfix isSpace item).trans (infix_of_mem_splitOn itemMember)

end

theorem uniqTokens_subset (seen : List String) (tokens : List HeaderToken) : uniqTokens seen tokens ⊆ tokens := by
  induction tokens generalizing seen with
  | nil => simp [uniqTokens]
  | cons token rest ih =>
    rw [uniqTokens]
    split
    · exact subset_cons_of_subset _ (ih seen)
    · exact cons_subset_cons _ (ih _)

theorem GroundedMap.put (grounded : GroundedMap sent headers)
    (groundedValue : Grounded sent value) : GroundedMap sent (headers.put (name, value)) := by
  intro e mem
  rcases Table.mem_put.mp mem with rfl | old
  · exact groundedValue
  · exact grounded e old.1

theorem GroundedMap.deleteHeader (grounded : GroundedMap sent headers) (name : String) :
    GroundedMap sent (deleteHeader headers name) :=
  fun e mem => grounded e (mem_of_mem_filter mem)

theorem GroundedMap.present (grounded : GroundedMap sent headers) (found : presentHeader headers name = some value) :
    Grounded sent value := by
  unfold presentHeader at found
  obtain ⟨e, stored, trimmed⟩ := Option.bind_eq_some_iff.mp found
  dsimp only at trimmed
  split at trimmed
  · cases trimmed
  · cases trimmed
    exact (grounded e (Table.mem_of_find stored)).trimSpace

theorem groundedMap_sanitize {src : List (String × HeaderValue)}
    (grounded : ∀ e ∈ src, Grounded sent e.2) : GroundedMap sent (sanitizeHeaderOverrideMap src) := by
  apply sanitizeHeaderOverrideMap_rows
  · intro e mem _ _
    exact (grounded e mem).trimSpace
  · intro key _ _
    exact grounded_configured [""]

theorem groundedMap_configured (headers : List (String × Json)) :
    GroundedMap sent (sanitizeHeaderOverrideMap (configuredHeaders headers)) := by
  apply groundedMap_sanitize
  intro e mem
  obtain ⟨header, _, rfl⟩ := mem_map.mp mem
  exact grounded_configured [_]

theorem groundedMap_effective {info : RelayInfo} (runtime : GroundedMap sent info.runtimeHeadersOverride) :
    GroundedMap sent (getEffectiveHeaderOverride info) := by
  unfold getEffectiveHeaderOverride
  split
  · exact groundedMap_sanitize runtime
  · exact groundedMap_configured _

theorem groundedMap_requestHeaders (sent : List (String × String)) :
    GroundedMap sent (buildRequestHeadersContext sent) := by
  have each : ∀ (rest : List (String × String)) (context : HeaderMap), rest ⊆ sent → GroundedMap sent context →
      GroundedMap sent (rest.foldl (fun context header =>
        let normalized := normalizeHeaderContextKey header.1
        let value := Relay.trimSpace header.2
        if normalized = "" ∨ value = "" then context
        else context.put (normalized, HeaderValue.client value)) context) := by
    intro rest
    induction rest with
    | nil => exact fun context _ grounded => grounded
    | cons header rest ih =>
      intro context inside grounded
      rw [foldl_cons]
      refine ih _ (subset_of_cons_subset inside) ?_
      dsimp only
      split
      · exact grounded
      refine grounded.put ?_
      intro token mem _
      obtain rfl := mem_singleton.mp mem
      refine ⟨header, inside List.mem_cons_self, ?_⟩
      rw [Relay.trimSpace, String.toList_ofList]
      exact trim_isInfix isSpace _
  exact each sent Table.empty (List.Subset.refl _) (fun _ mem => by cases mem)

theorem rewriteToken_grounded {keepOnlyDeclared : Bool} {token : HeaderToken} (grounded : Grounded sent [token]) :
    Yields (Grounded sent) (rewriteToken mapping keepOnlyDeclared token) := by
  have replaced : ∀ replacement : Json,
      Yields (Grounded sent) ((parseHeaderReplacementTokens replacement).map configuredTokens) :=
    fun _ => (yields_any _).map fun texts _ => grounded_configured texts
  unfold rewriteToken
  split
  · exact replaced _
  · split
    · exact .ok (grounded_configured [])
    · exact replaced _
  · split
    · exact .ok (grounded_configured [])
    · exact .ok grounded

theorem rewriteTokens_grounded {keepOnlyDeclared : Bool} (grounded : Grounded sent tokens) :
    Yields (Grounded sent) (rewriteTokens mapping keepOnlyDeclared tokens) := by
  induction tokens with
  | nil => exact .ok grounded
  | cons token rest ih =>
    refine (rewriteToken_grounded (grounded.subset (by simp))).bind fun first groundedFirst => ?_
    refine (ih (grounded.subset (subset_cons_self _ _))).bind fun others groundedOthers => ?_
    exact .ok (groundedFirst.append groundedOthers)

def Assigned.Grounded (sent : List (String × String)) : Assigned → Prop
  | .json _ marked => marked = false
  | .header value => Relay.Grounded sent value

theorem trimmedOrNone_grounded {src : HeaderValue} (grounded : Grounded sent src)
    (trimmed : trimmedOrNone src = some value) : Grounded sent value := by
  unfold trimmedOrNone at trimmed
  split at trimmed
  · cases trimmed
  · cases trimmed
    exact grounded.trimSpace

section
variable (grounded : GroundedContext sent context)
include grounded

theorem getHeaderValueFromContext_grounded (found : getHeaderValueFromContext context name = some value) :
    Grounded sent value := by
  unfold getHeaderValueFromContext at found
  dsimp only at found
  split at found
  · cases found
  · rcases Option.or_eq_some_iff.mp found with override | ⟨_, req⟩
    · exact grounded.override.present override
    · exact grounded.request.present req

theorem resolveByMapping_grounded :
    Yields (fun resolved => ∀ value ∈ resolved, Grounded sent value)
      (resolveHeaderOverrideValueByMapping context name mapping) := by
  unfold resolveHeaderOverrideValueByMapping
  split
  · exact .error
  refine (yields_any _).bind fun appended _ => ?_
  have source : Grounded sent (((getHeaderValueFromContext context name).map HeaderValue.split).getD []) := by
    cases found : getHeaderValueFromContext context name with
    | none => exact grounded_configured []
    | some value => exact (getHeaderValueFromContext_grounded grounded found).split
  refine (rewriteTokens_grounded source).bind fun rewritten groundedTokens => .ok fun value member => ?_
  split at member
  · cases member
  · cases member
    exact (groundedTokens.append (grounded_configured appended)).subset (uniqTokens_subset [] _)

theorem resolveHeaderOverrideValue_grounded {assigned : Assigned} (groundedValue : assigned.Grounded sent) :
    Yields (fun resolved => ∀ value ∈ resolved, Grounded sent value)
      (resolveHeaderOverrideValue context name assigned) := by
  unfold resolveHeaderOverrideValue
  split
  · exact .error
  · rename_i marked
    obtain rfl : marked = false := groundedValue
    refine (resolveByMapping_grounded grounded).map fun resolved known value member => ?_
    obtain ⟨unmarked, found, rfl⟩ := Option.map_eq_some_iff.mp member
    exact known unmarked found
  · rename_i marked _ _
    obtain rfl : marked = false := groundedValue
    exact .ok fun value member => trimmedOrNone_grounded (grounded_configured [_]) member
  · exact .ok fun value member => trimmedOrNone_grounded groundedValue member

theorem setHeader_grounded {assigned : Assigned} (groundedValue : assigned.Grounded sent) :
    Yields (GroundedContext sent) (setHeaderOverrideInContext context name assigned keepOrigin) := by
  unfold setHeaderOverrideInContext
  dsimp only
  split
  · exact .error
  split
  · exact .ok grounded
  refine (resolveHeaderOverrideValue_grounded grounded groundedValue).bind fun resolved known => ?_
  cases resolved with
  | none => exact .ok ⟨grounded.request, grounded.override.deleteHeader _⟩
  | some value => exact .ok ⟨grounded.request, grounded.override.put (known value rfl)⟩

theorem deleteHeaderOverrideInContext_grounded :
    Yields (GroundedContext sent) (deleteHeaderOverrideInContext context name) := by
  unfold deleteHeaderOverrideInContext
  dsimp only
  split
  · exact .error
  · exact .ok ⟨grounded.request, grounded.override.deleteHeader _⟩

theorem copyHeader_grounded {fromHeader toHeader : String} :
    Yields (GroundedContext sent) (copyHeaderInContext context fromHeader toHeader keepOrigin) := by
  unfold copyHeaderInContext
  dsimp only
  split
  · exact .error
  split
  · exact .error
  · rename_i value found
    have groundedValue : (Assigned.header value).Grounded sent := getHeaderValueFromContext_grounded grounded found
    exact setHeader_grounded grounded groundedValue

theorem moveHeader_grounded {fromHeader toHeader : String} :
    Yields (GroundedContext sent) (moveHeaderInContext context fromHeader toHeader keepOrigin) := by
  unfold moveHeaderInContext
  dsimp only
  split
  · exact .error
  refine (copyHeader_grounded grounded).bind fun copied groundedCopy => ?_
  split
  · exact .ok groundedCopy
  · exact deleteHeaderOverrideInContext_grounded groundedCopy

theorem ignoreMissing_grounded {res : Except HeaderError OverrideContext} (ended : Yields (GroundedContext sent) res) :
    Yields (GroundedContext sent) (ignoreMissing context res) := by
  unfold ignoreMissing
  split
  · exact .ok grounded
  · exact ended

end

theorem passHeaders_grounded {names : List String} (grounded : GroundedContext sent context) :
    Yields (GroundedContext sent) (passHeadersInContext keepOrigin context names) := by
  induction names generalizing context with
  | nil => exact .ok grounded
  | cons name rest ih =>
    exact (ignoreMissing_grounded grounded (copyHeader_grounded grounded)).bind fun _ passed => ih passed

section
variable {β : Type} (runtime : OverrideRuntime β) {body : β}

/-- A `sync_fields` operation with one end in the request body. -/
def ParamOperation.SyncsBody (op : ParamOperation) : Prop :=
  op.mode = .syncFields ∧
    ∃ key, parseSyncTarget op.source = .ok (.json key) ∨ parseSyncTarget op.target = .ok (.json key)

variable (sent) in
abbrev GroundedEnd (ended : OverrideContext × β) : Prop := GroundedContext sent ended.1

theorem syncHeader_grounded (grounded : GroundedContext sent context) {key target : String}
    {value : Assigned} (read : readSyncTargetValue runtime body context (.header key) = some value) :
    Yields (GroundedEnd sent) (writeSyncTargetValue runtime body context value (.header target)) := by
  rw [readSyncTargetValue] at read
  obtain ⟨header, found, rfl⟩ := Option.map_eq_some_iff.mp read
  have groundedValue : (Assigned.header header).Grounded sent := getHeaderValueFromContext_grounded grounded found
  have set : Yields (GroundedContext sent) (setHeaderOverrideInContext context target (.header header) false) :=
    setHeader_grounded grounded groundedValue
  rw [writeSyncTargetValue]
  split
  · exact .error
  · rename_i reached setting
    rw [setting] at set
    cases set with
    | ok reached => exact .ok reached

theorem syncFields_grounded {op : ParamOperation} (grounded : GroundedContext sent context)
    (mode : op.mode = .syncFields) (apart : ¬op.SyncsBody) :
    Yields (GroundedEnd sent) (syncFieldsBetweenTargets runtime body context op.source op.target) := by
  unfold syncFieldsBetweenTargets
  cases source : parseSyncTarget op.source with
  | error failure => exact .error
  | ok fromTarget =>
    cases target : parseSyncTarget op.target with
    | error failure => exact .error
    | ok toTarget =>
      cases fromTarget with
      | json key => exact absurd ⟨mode, key, .inl source⟩ apart
      | header fromKey =>
        cases toTarget with
        | json key => exact absurd ⟨mode, key, .inr target⟩ apart
        | header toKey =>
          simp only [bind, Except.bind]
          split
          · exact syncHeader_grounded runtime grounded ‹_›
          · exact syncHeader_grounded runtime grounded ‹_›
          · exact .ok grounded

theorem headerResult_grounded {mode : String} {out : Except HeaderError OverrideContext}
    (ended : Yields (GroundedContext sent) out) : Yields (GroundedEnd sent) (headerResult mode body out) := by
  cases ended with
  | error => exact .error
  | ok reached => exact .ok reached

theorem performOperation_grounded {op : ParamOperation} (grounded : GroundedContext sent context)
    (apart : ¬op.SyncsBody) : Yields (GroundedEnd sent) (performOperation runtime op context body) := by
  unfold performOperation
  dsimp only
  split
  · exact (yields_any _).map fun _ _ => grounded
  · exact .error
  · have groundedValue : (Assigned.json op.value false).Grounded sent := rfl
    exact headerResult_grounded (setHeader_grounded grounded groundedValue)
  · exact headerResult_grounded (deleteHeaderOverrideInContext_grounded grounded)
  · exact headerResult_grounded (ignoreMissing_grounded grounded (copyHeader_grounded grounded))
  · exact headerResult_grounded (ignoreMissing_grounded grounded (moveHeader_grounded grounded))
  · split
    · exact .error
    · exact headerResult_grounded (passHeaders_grounded grounded)
  · rename_i mode
    have synced := @syncFields_grounded context sent β runtime body op grounded mode apart
    split
    · exact .error
    · rename_i syncing
      rwa [syncing] at synced
  · exact .error

theorem applyOperations_grounded {ops : List ParamOperation} (grounded : GroundedContext sent context)
    (apart : ∀ op ∈ ops, ¬op.SyncsBody) : Yields (GroundedEnd sent) (applyOperations runtime ops context body) := by
  induction ops generalizing context body with
  | nil => exact .ok grounded
  | cons op ops ih =>
    rw [forall_mem_cons] at apart
    refine (yields_any _).bind fun met _ => ?_
    split
    · exact (performOperation_grounded runtime grounded apart.1).bind fun _ performed => ih performed apart.2
    · exact ih grounded apart.2

/-- A program that leaves header values and the request body apart. -/
def ParamOverride.KeepsApart (override : ParamOverride) : Prop :=
  ∀ operations ∈ override.operations, ∀ op ∈ operations, ¬op.SyncsBody

theorem applyParamOverride_grounded {override : ParamOverride} (grounded : GroundedContext sent context)
    (apart : override.KeepsApart) : Yields (GroundedEnd sent) (applyParamOverride runtime body override context) := by
  unfold applyParamOverride
  split
  · rename_i operations program
    exact (yields_any _).bind fun _ _ => applyOperations_grounded runtime grounded (apart operations program)
  · exact (yields_any _).bind fun _ _ => .ok grounded

theorem applyParamOverrideWithRelayInfo_grounded {info : RelayInfo}
    (grounded : GroundedMap info.requestHeaders info.runtimeHeadersOverride)
    (apart : info.channelMeta.paramOverride.KeepsApart) :
    Yields (fun ended => GroundedMap info.requestHeaders (getEffectiveHeaderOverride ended.1))
      (applyParamOverrideWithRelayInfo runtime info body) := by
  unfold applyParamOverrideWithRelayInfo
  split
  · exact .ok (groundedMap_effective grounded)
  have start : GroundedContext info.requestHeaders (buildParamOverrideContext info) :=
    ⟨groundedMap_requestHeaders info.requestHeaders, groundedMap_sanitize (groundedMap_effective grounded)⟩
  refine (applyParamOverride_grounded runtime start apart).bind fun ended groundedEnd => ?_
  exact .ok (groundedMap_effective (groundedMap_sanitize groundedEnd.override))

def ClientTextKept (info : RelayInfo) (request : ClientRequest) : Prop :=
  ∀ entry ∈ (getEffectiveHeaderOverride info).rows, TakenEntry entry →
    overrideEntry info request entry = .ok (some (entry.1, entry.2.expandOwn info.channelMeta.apiKey))

theorem clientTextKept_iff (info : RelayInfo) (req : ClientRequest) :
    ClientTextKept info req ↔ ∀ e ∈ (getEffectiveHeaderOverride info).rows, TakenEntry e → Inert info req e.2 := by
  constructor
  · intro kept e mem taken
    have sanitized := getEffectiveHeaderOverride_sanitized info e mem
    exact (overrideEntry_verbatim_iff info req sanitized taken.1 taken.2).mp (kept e mem taken)
  · intro inert e mem taken
    have sanitized := getEffectiveHeaderOverride_sanitized info e mem
    exact (overrideEntry_verbatim_iff info req sanitized taken.1 taken.2).mpr (inert e mem taken)

def Plain (text : String) : Prop :=
  ¬ apiKeyPlaceholder.toList <:+: text.toList ∧ ¬ clientHeaderPlaceholder.toList <:+: text.toList

theorem inert_of_plain {info : RelayInfo} {request : ClientRequest} (grounded : Grounded sent value)
    (plain : ∀ header ∈ sent, Plain header.2) (first : ∀ token ∈ value.head?, token.fromClient = true) :
    Inert info request value := by
  have pieces : ∀ token ∈ value, token.fromClient = true → Plain token.text := by
    intro token mem marked
    obtain ⟨header, headerMember, inside⟩ := grounded token mem marked
    exact ⟨fun key => (plain header headerMember).1 (key.trans inside),
      fun front => (plain header headerMember).2 (front.trans inside)⟩
  refine .inl ⟨?_, .inr fun token mem marked => (pieces token mem marked).1⟩
  rw [Bool.eq_false_iff, hasFront, ne_eq, isPrefixOf_iff_prefix]
  intro front
  match value with
  | [] => exact absurd front (by decide)
  | [token] =>
    rw [HeaderValue.toList_text_single] at front
    exact (pieces token (by simp) (first token rfl)).2 front.isInfix
  | token :: next :: rest =>
    rw [HeaderValue.toList_text_cons_cons] at front
    have inside := prefix_of_prefix_append_cons (by decide) front
    exact (pieces token (by simp) (first token rfl)).2 inside.isInfix

end

def tracedRequest (value : String) : ClientRequest := { headers := [("X-Trace", value)] }

def tracingInfo (value : String) : RelayInfo :=
  { requestHeaders := cloneRequestHeaders (tracedRequest value)
    channelMeta :=
      { paramOverride := { operations := some [{ mode := .passHeaders, value := .string "X-Trace" }] }
        apiKey := "sk-channel" } }

end Wildflow.Relay
