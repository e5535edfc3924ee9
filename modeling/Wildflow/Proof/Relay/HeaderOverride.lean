import Wildflow.Relay.HeaderOverride

/-!
# The headers of an attempt and the attempts before it

An attempt replaces everything of the relay info that it reads for its headers, except the runtime override.
-/

namespace Wildflow.Relay
open Wildflow.Store

section
variable {β : Type} (runtime : OverrideRuntime β) (request : ClientRequest)

section
variable (info : RelayInfo)

section
variable (headers : HeaderMap)

def withRuntimeOverride (use : Bool) : RelayInfo :=
  { info with runtimeHeadersOverride := headers, useRuntimeHeadersOverride := use }

theorem applyParamOverrideWithRelayInfo_info {info after : RelayInfo} {body res : β}
    (applied : applyParamOverrideWithRelayInfo runtime info body = .ok (after, res)) :
    ∃ headers use, after = withRuntimeOverride info headers use := by
  unfold applyParamOverrideWithRelayInfo at applied
  split at applied
  · cases applied
    exact ⟨info.runtimeHeadersOverride, info.useRuntimeHeadersOverride, rfl⟩
  cases out : applyParamOverride runtime body info.channelMeta.paramOverride (buildParamOverrideContext info) with
  | error err =>
    rw [out] at applied
    cases applied
  | ok ended =>
    rw [out] at applied
    cases applied
    exact ⟨_, true, rfl⟩

theorem attemptHeaders_info (a : Attempt β) :
    ∃ headers use, (attemptHeaders runtime request info a).1 =
      withRuntimeOverride (initChannelMeta info a) headers use := by
  unfold attemptHeaders
  cases applied : applyParamOverrideWithRelayInfo runtime (initChannelMeta info a) a.body with
  | error err => exact ⟨_, _, rfl⟩
  | ok ended => exact applyParamOverrideWithRelayInfo_info runtime applied

theorem initChannelMeta_runAttempts (earlier : List (Attempt β)) (next : Attempt β) :
    initChannelMeta (runAttempts runtime request info earlier) next = withRuntimeOverride (initChannelMeta info next)
        (runAttempts runtime request info earlier).runtimeHeadersOverride
        (runAttempts runtime request info earlier).useRuntimeHeadersOverride := by
  induction earlier generalizing info with
  | nil => rfl
  | cons a earlier ih =>
    obtain ⟨headers, use, reached⟩ := attemptHeaders_info runtime request info a
    have step : runAttempts runtime request info (a :: earlier) =
        runAttempts runtime request (attemptHeaders runtime request info a).1 earlier := rfl
    rw [step, ih, reached]
    rfl

theorem getEffectiveHeaderOverride_unused (unused : info.useRuntimeHeadersOverride = false) :
    getEffectiveHeaderOverride (withRuntimeOverride info headers false) = getEffectiveHeaderOverride info := by
  simp [getEffectiveHeaderOverride, withRuntimeOverride, unused]

theorem buildParamOverrideContext_unused (unused : info.useRuntimeHeadersOverride = false) :
    buildParamOverrideContext (withRuntimeOverride info headers false) = buildParamOverrideContext info := by
  simp only [buildParamOverrideContext, getEffectiveHeaderOverride_unused info headers unused]
  rfl

theorem headersFrom_withRuntimeOverride (compile : String → Except String (String → Bool)) (info : RelayInfo)
    (headers : HeaderMap) (use : Bool) (source : List (String × HeaderValue)) :
    headersFrom compile (withRuntimeOverride info headers use) request source = headersFrom compile info request source :=
  rfl

theorem processHeaderOverride_unused (compile : String → Except String (String → Bool)) (info : RelayInfo)
    (headers : HeaderMap) (unused : info.useRuntimeHeadersOverride = false) :
    processHeaderOverride compile (withRuntimeOverride info headers false) request =
      processHeaderOverride compile info request := by
  rw [processHeaderOverride, getEffectiveHeaderOverride_unused info headers unused, headersFrom_withRuntimeOverride]
  rfl

theorem applied_headers_unused (body : β) (unused : info.useRuntimeHeadersOverride = false) :
    (applyParamOverrideWithRelayInfo runtime (withRuntimeOverride info headers false) body).map
        (fun ended => processHeaderOverride runtime.compileRegexp ended.1 request) =
      (applyParamOverrideWithRelayInfo runtime info body).map
        (fun ended => processHeaderOverride runtime.compileRegexp ended.1 request) := by
  have sameProgram : (withRuntimeOverride info headers false).channelMeta = info.channelMeta := rfl
  unfold applyParamOverrideWithRelayInfo
  rw [sameProgram, buildParamOverrideContext_unused info headers unused]
  split
  · simp only [Except.map, processHeaderOverride_unused request _ info headers unused]
  · cases applyParamOverride runtime body info.channelMeta.paramOverride (buildParamOverrideContext info) with
    | error err => rfl
    | ok ended => rfl

end

theorem attemptHeaders_eq_map (a : Attempt β) :
    (attemptHeaders runtime request info a).2 =
      ((applyParamOverrideWithRelayInfo runtime (initChannelMeta info a) a.body).map
        (fun ended => processHeaderOverride runtime.compileRegexp ended.1 request)).bind id := by
  unfold attemptHeaders
  cases applyParamOverrideWithRelayInfo runtime (initChannelMeta info a) a.body with
  | error err => rfl
  | ok ended => rfl

def headerChannel (value : String) (body : β) : Attempt β :=
  { channel := { headersOverride := [("x-own", .string value)] }, body := body }

theorem attemptHeaders_headerChannel (v : String) (body : β) :
    (attemptHeaders runtime request info (headerChannel v body)).2 =
      processHeaderOverride runtime.compileRegexp (initChannelMeta info (headerChannel v body)) request :=
  rfl

theorem passHeader_without_rules (headers : UpstreamHeaders) (header : String × String) :
    passHeader {} request headers header = headers := by
  simp [passHeader]

theorem headerChannel_alone (unused : info.useRuntimeHeadersOverride = false) (body : β)
    {value : String} (short : value = "a" ∨ value = "b") :
    ∃ headers, (attemptHeaders runtime request info (headerChannel value body)).2 = .ok headers ∧
      headers.find "x-own" = some ("x-own", value) := by
  have source : (sanitizeHeaderOverrideMap [("x-own", HeaderValue.literal value)]).rows =
      [("x-own", HeaderValue.literal value)] := by
    rcases short with rfl | rfl <;> decide
  have effective : getEffectiveHeaderOverride (initChannelMeta info (headerChannel value body)) =
      sanitizeHeaderOverrideMap [("x-own", HeaderValue.literal value)] := by
    simp [getEffectiveHeaderOverride, initChannelMeta, unused, headerChannel, configuredHeaders, Json.print]
  have sameKey : trimSpace (toLower "x-own") = "x-own" := by decide
  have entry : overrideEntry (initChannelMeta info (headerChannel value body)) request
      ("x-own", HeaderValue.literal value) = .ok (some ("x-own", value)) := by
    have notRule : isHeaderPassthroughRuleKey "x-own" = false := by decide
    have notPlaceholder : hasFront clientHeaderPlaceholder (trimSpace (HeaderValue.literal value).text) = false := by
      rcases short with rfl | rfl <;> decide
    have kept : replaceText apiKeyPlaceholder "" (HeaderValue.literal value).text = value := by
      rcases short with rfl | rfl <;> decide
    have shown : trimSpace value ≠ "" := by
      rcases short with rfl | rfl <;> decide
    have key : (initChannelMeta info (headerChannel value body)).channelMeta.apiKey = "" := rfl
    simp [overrideEntry, notRule, sameKey, applyHeaderOverridePlaceholders, notPlaceholder, key, kept, shown, Except.map]
  have noRule : passthroughRule runtime.compileRegexp {} "x-own" = .ok {} := by
    have other : hasFront "re:" "x-own" = false ∧ hasFront "regex:" "x-own" = false := by decide
    unfold passthroughRule
    rw [sameKey]
    simp [other]
  have nothingPassed : request.headers.foldl (passHeader {} request) Table.empty = Table.empty := by
    induction request.headers with
    | nil => rfl
    | cons header rest ih => rw [List.foldl_cons, passHeader_without_rules, ih]
  refine ⟨Table.empty.put ("x-own", value), ?_, Table.find_put_self _ _⟩
  rw [attemptHeaders_headerChannel]
  simp only [processHeaderOverride, effective, source, headersFrom, passthroughRules]
  cases (initChannelMeta info (headerChannel value body)).isChannelTest <;>
    simp [bind, Except.bind, noRule, nothingPassed, putOverrideEntry, entry, Except.map, pure, Except.pure]

theorem headerChannel_overridden (used : info.useRuntimeHeadersOverride = true) (body : β) (v other : String) :
    (attemptHeaders runtime request info (headerChannel v body)).2 =
      (attemptHeaders runtime request info (headerChannel other body)).2 := by
  have effective : ∀ v, getEffectiveHeaderOverride (initChannelMeta info (headerChannel v body)) =
      sanitizeHeaderOverrideMap info.runtimeHeadersOverride.rows := by
    intro v
    simp [getEffectiveHeaderOverride, initChannelMeta, used]
  rw [attemptHeaders_headerChannel, attemptHeaders_headerChannel, processHeaderOverride, processHeaderOverride,
    effective, effective]
  rfl

/-- The channel of the attempt has no override program, or one that fails. -/
def Attempt.LeavesHeaders (a : Attempt β) : Prop :=
  a.channel.paramOverride.isEmpty = true ∨ ∃ failure, applyParamOverride runtime a.body a.channel.paramOverride
    (buildParamOverrideContext (initChannelMeta info a)) = .error failure

theorem attemptHeaders_unused_iff (a : Attempt β) :
    (attemptHeaders runtime request info a).1.useRuntimeHeadersOverride = false ↔
      info.useRuntimeHeadersOverride = false ∧ a.LeavesHeaders runtime info := by
  unfold attemptHeaders applyParamOverrideWithRelayInfo Attempt.LeavesHeaders
  have program : (initChannelMeta info a).channelMeta.paramOverride = a.channel.paramOverride := rfl
  rw [program]
  cases a.channel.paramOverride.isEmpty with
  | true => simp [initChannelMeta]
  | false =>
    cases applyParamOverride runtime a.body a.channel.paramOverride (buildParamOverrideContext (initChannelMeta info a)) with
    | error failure => simp [bind, Except.bind, initChannelMeta]
    | ok ended => simp [bind, Except.bind, syncRuntimeHeaderOverrideFromContext]

theorem runAttempts_unused_iff (unused : info.useRuntimeHeadersOverride = false) (earlier : List (Attempt β)) :
    (runAttempts runtime request info earlier).useRuntimeHeadersOverride = false ↔
      ∀ a ∈ earlier, a.LeavesHeaders runtime info := by
  induction earlier using List.reverseRecOn with
  | nil => simpa [runAttempts] using unused
  | append_singleton earlier a ih =>
    have step : runAttempts runtime request info (earlier ++ [a]) =
        (attemptHeaders runtime request (runAttempts runtime request info earlier) a).1 := by
      simp [runAttempts]
    rw [step, attemptHeaders_unused_iff, List.forall_mem_append, List.forall_mem_singleton, ← ih]
    refine and_congr_right fun left => ?_
    -- the attempts before `a` left it the context it would start with alone
    rw [Attempt.LeavesHeaders, initChannelMeta_runAttempts, left,
      buildParamOverrideContext_unused (initChannelMeta info a) _ unused]
    rfl

end

theorem attempt_headers_own_iff (info : RelayInfo) (unused : info.useRuntimeHeadersOverride = false)
    (earlier : List (Attempt β)) :
    (∀ attempt, (attemptHeaders runtime request (runAttempts runtime request info earlier) attempt).2 =
        (attemptHeaders runtime request info attempt).2) ↔ ∀ attempt ∈ earlier, attempt.LeavesHeaders runtime info := by
  rw [← runAttempts_unused_iff runtime request info unused]
  constructor
  · intro own
    by_contra used
    rw [Bool.not_eq_false] at used
    cases earlier with
    | nil => exact absurd (used.symm.trans unused) (by decide)
    | cons first rest =>
      obtain ⟨headers, alone, found⟩ := headerChannel_alone runtime request info unused first.body (.inl rfl)
      obtain ⟨headers', alone', found'⟩ := headerChannel_alone runtime request info unused first.body (.inr rfl)
      have same := headerChannel_overridden runtime request _ used first.body "a" "b"
      rw [own, own, alone, alone'] at same
      cases same
      rw [found] at found'
      exact absurd found' (by decide)
  · intro left attempt
    rw [attemptHeaders_eq_map, attemptHeaders_eq_map, initChannelMeta_runAttempts, left,
      applied_headers_unused runtime request (initChannelMeta info attempt) _ _ unused]

end

def headerRuntime : OverrideRuntime Unit where
  unmarshal _ := none
  getBody _ _ := none
  setBody body _ _ := .ok body
  bodyOperation _ _ body := .ok body
  applyLegacy _ body := .ok body
  returnError _ := "request blocked by param override"
  checkSingleCondition _ _ _ := .ok true
  compileRegexp pattern := .error pattern

def programmedChannel (headers : List (String × Json)) (operations : List ParamOperation) : Attempt Unit :=
  { channel := { paramOverride := { operations := some operations }, headersOverride := headers }, body := () }

theorem attempt_headers_own_iff_headerChannel :
    (attemptHeaders headerRuntime {} (runAttempts headerRuntime {} {} [headerChannel "b" ()]) (headerChannel "a" ())).2 =
      (attemptHeaders headerRuntime {} {} (headerChannel "a" ())).2 := by
  refine (attempt_headers_own_iff headerRuntime {} {} rfl [headerChannel "b" ()]).mpr (fun attempt earlier => .inl ?_) _
  rw [List.mem_singleton.mp earlier]
  rfl

theorem second_channel_sends_first_headers :
    let first := programmedChannel [("x-first", .string "secret")] [{ mode := .deleteHeader, path := "x-other" }]
    let sent := fun earlier => (attemptHeaders headerRuntime {} (runAttempts headerRuntime {} {} earlier)
      (headerChannel "a" ())).2.toOption.map Table.rows
    sent [headerChannel "b" ()] = some [("x-own", "a")] ∧ sent [first] = some [("x-first", "secret")] := by
  decide +kernel

end Wildflow.Relay
