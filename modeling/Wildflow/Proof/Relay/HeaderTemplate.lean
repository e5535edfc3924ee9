import Wildflow.Proof.Relay.HeaderOverride

/-!
# Client text in header templates

The entries are told apart for which expansion leaves the pieces of the client as they were sent.
-/

namespace Wildflow.Relay
open Wildflow.Store HeaderValue List
variable {entry : String × HeaderValue} {header : String × String} {final headers : UpstreamHeaders}
  {source : List (String × HeaderValue)} {name : String}

namespace HeaderValue

theorem toList_text (v : HeaderValue) : v.text.toList = [','].intercalate (v.map fun token => token.text.toList) := by
  rw [text, String.toList_intercalate, map_map]
  rfl

theorem toList_text_cons_cons (token next : HeaderToken) (rest : HeaderValue) :
    (text (token :: next :: rest)).toList = token.text.toList ++ ',' :: (text (next :: rest)).toList := by
  simp [toList_text]

theorem toList_text_single (token : HeaderToken) : (text [token]).toList = token.text.toList := by
  simp [toList_text]

theorem isSpace_comma : isSpace ',' = false := by decide

theorem toList_text_trimStart (v : HeaderValue) : v.trimStart.text.toList = v.text.toList.dropWhile isSpace := by
  cases v with
  | nil => rfl
  | cons token rest =>
    cases rest with
    | nil => simp [trimStart, toList_text_single]
    | cons next rest =>
      rw [trimStart, toList_text_cons_cons, toList_text_cons_cons, dropWhile_append_cons isSpace isSpace_comma,
        String.toList_ofList]

theorem toList_text_trimEnd (v : HeaderValue) :
    v.trimEnd.text.toList = (v.text.toList.reverse.dropWhile isSpace).reverse := by
  induction v with
  | nil => rfl
  | cons token rest ih =>
    cases rest with
    | nil => simp [trimEnd, toList_text_single]
    | cons next rest =>
      obtain ⟨head, tail, split⟩ : ∃ head tail, trimEnd (next :: rest) = head :: tail := by
        cases rest with
        | nil => exact ⟨_, _, rfl⟩
        | cons => exact ⟨_, _, rfl⟩
      rw [trimEnd, split, toList_text_cons_cons, ← split, ih, toList_text_cons_cons, reverse_append,
        reverse_cons, append_assoc, singleton_append,
        dropWhile_append_cons isSpace isSpace_comma]
      simp

theorem text_trimSpace (v : HeaderValue) : v.trimSpace.text = Relay.trimSpace v.text := by
  rw [← String.toList_inj, trimSpace, toList_text_trimEnd, toList_text_trimStart, Relay.trimSpace, String.toList_ofList]
  rfl

end HeaderValue

theorem charToLower_toLower (c : Char) : c.toLower.toLower = c.toLower := by
  unfold Char.toLower
  split
  · grind
  · rfl

theorem trimSpace_eq_empty_iff (text : String) : trimSpace text = "" ↔ ∀ c ∈ text.toList, isSpace c = true := by
  rw [← trim_eq_nil_iff, trimSpace, ← String.toList_inj, String.toList_ofList]
  rfl

theorem toLower_of_mem_infix {text : String} {piece : List Char} (inside : piece <:+: (toLower text).toList) :
    toLower (String.ofList piece) = String.ofList piece := by
  have lower : ∀ c ∈ piece, c.toLower = c := by
    intro c mem
    obtain ⟨upper, _, rfl⟩ := mem_map.mp (by simpa [toLower] using inside.subset mem)
    rw [charToLower_toLower]
  rw [toLower, String.toList_ofList, map_congr_left lower, map_id']

theorem normalizeHeaderContextKey_idempotent (key : String) :
    normalizeHeaderContextKey (normalizeHeaderContextKey key) = normalizeHeaderContextKey key := by
  have lower : toLower (trimSpace (toLower key)) = trimSpace (toLower key) :=
    toLower_of_mem_infix (trim_isInfix isSpace _)
  rw [normalizeHeaderContextKey, normalizeHeaderContextKey, lower, trimSpace_trimSpace]

structure SanitizedEntry (entry : String × HeaderValue) : Prop where
  normalized : normalizeHeaderContextKey entry.1 = entry.1
  named : entry.1 ≠ ""
  trimmed : trimSpace entry.2.text = entry.2.text
  shown : isHeaderPassthroughRuleKey entry.1 = false → entry.2.text ≠ ""

theorem sanitizeEntry_rows {headers : HeaderMap} {source : String × HeaderValue}
    (mem : entry ∈ (sanitizeEntry headers source).rows) :
    entry ∈ headers.rows ∨ normalizeHeaderContextKey source.1 ≠ "" ∧
        (entry = (normalizeHeaderContextKey source.1, source.2.trimSpace) ∧ source.2.trimSpace.text ≠ "" ∨
          entry = (normalizeHeaderContextKey source.1, literal "") ∧
            isHeaderPassthroughRuleKey (normalizeHeaderContextKey source.1) = true) := by
  grind [sanitizeEntry]

theorem sanitizeHeaderOverrideMap_rows {P : String × HeaderValue → Prop} (source : List (String × HeaderValue))
    (kept : ∀ entry ∈ source, normalizeHeaderContextKey entry.1 ≠ "" → entry.2.trimSpace.text ≠ "" →
      P (normalizeHeaderContextKey entry.1, entry.2.trimSpace)) (rule : ∀ key, normalizeHeaderContextKey key ≠ "" →
      isHeaderPassthroughRuleKey (normalizeHeaderContextKey key) = true →
      P (normalizeHeaderContextKey key, literal "")) :
    ∀ entry ∈ (sanitizeHeaderOverrideMap source).rows, P entry := by
  have each : ∀ (source : List (String × HeaderValue)) (headers : HeaderMap), (∀ entry ∈ headers.rows, P entry) →
      (∀ entry ∈ source, normalizeHeaderContextKey entry.1 ≠ "" → entry.2.trimSpace.text ≠ "" →
        P (normalizeHeaderContextKey entry.1, entry.2.trimSpace)) →
      ∀ entry ∈ (source.foldl sanitizeEntry headers).rows, P entry := by
    intro source
    induction source with
    | nil => exact fun headers old _ => old
    | cons first rest ih =>
      intro headers old kept
      rw [foldl_cons]
      refine ih (sanitizeEntry headers first) ?_ fun entry mem => kept entry (List.mem_cons_of_mem _ mem)
      intro entry mem
      rcases sanitizeEntry_rows mem with before | ⟨named, ⟨same, shown⟩ | ⟨same, isRule⟩⟩
      · exact old entry before
      · rw [same]
        exact kept first List.mem_cons_self named shown
      · rw [same]
        exact rule _ named isRule
  exact each source Table.empty (fun _ mem => by cases mem) kept

theorem sanitizeHeaderOverrideMap_sanitized (source : List (String × HeaderValue)) :
    ∀ entry ∈ (sanitizeHeaderOverrideMap source).rows, SanitizedEntry entry := by
  apply sanitizeHeaderOverrideMap_rows
  · intro entry _ named shown
    refine ⟨normalizeHeaderContextKey_idempotent _, named, ?_, fun _ => shown⟩
    rw [text_trimSpace, trimSpace_trimSpace]
  · intro key named isRule
    have empty : trimSpace (literal "").text = (literal "").text := by decide
    refine ⟨normalizeHeaderContextKey_idempotent _, named, empty, fun notRule => ?_⟩
    exact absurd (isRule.symm.trans notRule) (by decide)

theorem getEffectiveHeaderOverride_sanitized (info : RelayInfo) :
    ∀ entry ∈ (getEffectiveHeaderOverride info).rows, SanitizedEntry entry := by
  unfold getEffectiveHeaderOverride
  split
  · exact sanitizeHeaderOverrideMap_sanitized _
  · exact sanitizeHeaderOverrideMap_sanitized _

def HeaderValue.expandOwn (value : HeaderValue) (apiKey : String) : String :=
  String.ofList ([','].intercalate (value.map
    (replaceUnlessKept HeaderToken.fromClient (fun token => token.text.toList) apiKeyPlaceholder.toList apiKey.toList)))

theorem toList_replaceText_text (v : HeaderValue) (apiKey : String) :
    (replaceText apiKeyPlaceholder apiKey v.text).toList =
      [','].intercalate (v.map fun token => replaceAll apiKeyPlaceholder.toList apiKey.toList token.text.toList) := by
  have nonempty : apiKeyPlaceholder.toList ≠ [] := by decide
  have apart : ',' ∉ apiKeyPlaceholder.toList := by decide
  rw [replaceText, String.toList_ofList, toList_text, replaceAll_intercalate nonempty apart, map_map]
  rfl

theorem replaceText_eq_expandOwn_iff (v : HeaderValue) (apiKey : String) :
    replaceText apiKeyPlaceholder apiKey v.text = v.expandOwn apiKey ↔ apiKey = apiKeyPlaceholder ∨
        ∀ token ∈ v, token.fromClient = true → ¬ apiKeyPlaceholder.toList <:+: token.text.toList := by
  have nonempty : apiKeyPlaceholder.toList ≠ [] := by decide
  rw [← String.toList_inj, toList_replaceText_text, expandOwn, String.toList_ofList,
    intercalate_replaceAll_eq_iff HeaderToken.fromClient (fun token => token.text.toList) ',' nonempty v,
    String.toList_inj]

theorem HeaderValue.expandOwn_shown {v : HeaderValue} (taken : v.fromClient = true)
    (shown : Relay.trimSpace v.text ≠ "") (apiKey : String) : Relay.trimSpace (v.expandOwn apiKey) ≠ "" := by
  rw [ne_eq, trimSpace_eq_empty_iff, expandOwn, String.toList_ofList]
  intro blank
  match v, taken with
  | [token], taken =>
    have single : token.fromClient = true := by simpa [fromClient] using taken
    refine shown ((trimSpace_eq_empty_iff _).mpr ?_)
    rw [toList_text_single]
    simpa [replaceUnlessKept, single] using blank
  | token :: next :: rest, _ =>
    have comma := blank ',' (by simp)
    exact absurd comma (by decide)

/-- No `client_header` placeholder, and no piece of the client with the key placeholder in it. -/
def Inert (info : RelayInfo) (request : ClientRequest) (value : HeaderValue) : Prop :=
  hasFront clientHeaderPlaceholder value.text = false ∧ (info.channelMeta.apiKey = apiKeyPlaceholder ∨
        ∀ token ∈ value, token.fromClient = true → ¬ apiKeyPlaceholder.toList <:+: token.text.toList) ∨
    hasFront clientHeaderPlaceholder value.text = true ∧ info.isChannelTest = false ∧
      ∃ name, placeholderName value.text = some name ∧ name ≠ "" ∧ trimSpace (request.get name) ≠ "" ∧
        request.get name = value.expandOwn info.channelMeta.apiKey

theorem overrideEntry_verbatim_iff (info : RelayInfo) (request : ClientRequest)
    (sanitized : SanitizedEntry entry) (taken : entry.2.fromClient = true)
    (header : isHeaderPassthroughRuleKey entry.1 = false) :
    overrideEntry info request entry = .ok (some (entry.1, entry.2.expandOwn info.channelMeta.apiKey)) ↔
      Inert info request entry.2 := by
  have shown : trimSpace entry.2.text ≠ "" := by
    rw [sanitized.trimmed]
    exact sanitized.shown header
  have key : trimSpace (toLower entry.1) = entry.1 := sanitized.normalized
  unfold overrideEntry Inert applyHeaderOverridePlaceholders
  rw [key, if_neg (by simp [header, sanitized.named]), sanitized.trimmed]
  cases placeholder : hasFront clientHeaderPlaceholder entry.2.text with
  | true =>
    cases test : info.isChannelTest with
    | true => simp
    | false =>
      cases named : placeholderName entry.2.text with
      | none => simp [Except.map]
      | some name =>
        by_cases unnamed : name = ""
        · simp [unnamed, Except.map]
        · by_cases missing : trimSpace (request.get name) = ""
          · simp [unnamed, missing, Except.map]
          · simp [unnamed, missing, Except.map]
  | false =>
    rw [← replaceText_eq_expandOwn_iff]
    have ownShown := expandOwn_shown taken shown info.channelMeta.apiKey
    by_cases same : replaceText apiKeyPlaceholder info.channelMeta.apiKey entry.2.text =
        entry.2.expandOwn info.channelMeta.apiKey
    · simp [same, ownShown, Except.map]
    · by_cases gone : trimSpace (replaceText apiKeyPlaceholder info.channelMeta.apiKey entry.2.text) = ""
      · simp [same, gone, Except.map]
      · simp [same, gone, Except.map]

variable (compile : String → Except String (String → Bool)) (info : RelayInfo) (request : ClientRequest)

theorem overrideEntry_name
    (gives : overrideEntry info request entry = .ok (some header)) : header.1 = normalizeHeaderContextKey entry.1 := by
  unfold overrideEntry at gives
  dsimp only at gives
  split at gives
  · cases gives
  split at gives
  · cases gives
  cases expanded : applyHeaderOverridePlaceholders entry.2.text request info.channelMeta.apiKey with
  | error err => simp [expanded, Except.map] at gives
  | ok v =>
    cases v with
    | none => simp [expanded, Except.map] at gives
    | some v =>
      simp only [expanded, Except.map, Option.map_some, Except.ok.injEq, Option.some.injEq] at gives
      rw [← gives]
      rfl

theorem putOverrideEntry_other {after : UpstreamHeaders}
    (done : putOverrideEntry info request headers entry = .ok after)
    (other : normalizeHeaderContextKey entry.1 ≠ name) : after.find name = headers.find name := by
  unfold putOverrideEntry at done
  cases gives : overrideEntry info request entry with
  | error err => simp [gives, Except.map] at done
  | ok header =>
    cases header with
    | none =>
      simp only [gives, Except.map, Except.ok.injEq] at done
      rw [done]
    | some header =>
      simp only [gives, Except.map, Except.ok.injEq] at done
      rw [← done, Table.find_put_of_ne]
      rwa [overrideEntry_name info request gives]

theorem foldlM_cons_ok {rest : List (String × HeaderValue)}
    (done : (entry :: rest).foldlM (putOverrideEntry info request) headers = .ok final) :
    ∃ next, putOverrideEntry info request headers entry = .ok next ∧
      rest.foldlM (putOverrideEntry info request) next = .ok final := by
  rw [foldlM_cons] at done
  cases first : putOverrideEntry info request headers entry with
  | error err => simp [first, bind, Except.bind] at done
  | ok next => exact ⟨next, rfl, by simpa [first, bind, Except.bind] using done⟩

theorem putOverrideEntries_other (done : source.foldlM (putOverrideEntry info request) headers = .ok final)
    (others : ∀ entry ∈ source, normalizeHeaderContextKey entry.1 ≠ name) : final.find name = headers.find name := by
  induction source generalizing headers with
  | nil =>
    cases done
    rfl
  | cons entry rest ih =>
    obtain ⟨next, first, later⟩ := foldlM_cons_ok info request done
    rw [ih later fun other mem => others other (List.mem_cons_of_mem _ mem),
      putOverrideEntry_other info request first (others entry List.mem_cons_self)]

theorem putOverrideEntries_find (done : source.foldlM (putOverrideEntry info request) headers = .ok final)
    (nodup : (source.map fun entry => normalizeHeaderContextKey entry.1).Nodup) (mem : entry ∈ source)
    (gives : overrideEntry info request entry = .ok (some header)) : final.find header.1 = some header := by
  induction source generalizing headers with
  | nil => cases mem
  | cons first rest ih =>
    obtain ⟨next, here, later⟩ := foldlM_cons_ok info request done
    rw [map_cons, nodup_cons] at nodup
    rcases mem_cons.mp mem with rfl | mem
    · have placed : next = headers.put header := by
        simpa [putOverrideEntry, gives, Except.map, eq_comm] using here
      rw [putOverrideEntries_other info request later, placed, Table.find_put_self]
      intro other otherMember same
      rw [overrideEntry_name info request gives] at same
      exact nodup.1 (same ▸ mem_map_of_mem otherMember)
    · exact ih later nodup.2 mem

theorem passthroughRule_of_header {key : String} (header : isHeaderPassthroughRuleKey key = false)
    (rules : Passthrough) : passthroughRule compile rules key = .ok rules := by
  simp only [isHeaderPassthroughRuleKey, Bool.or_eq_false_iff, decide_eq_false_iff_not] at header
  simp [passthroughRule, header]

def TakenEntry (entry : String × HeaderValue) : Prop :=
  entry.2.fromClient = true ∧ isHeaderPassthroughRuleKey entry.1 = false

instance (entry : String × HeaderValue) : Decidable (TakenEntry entry) := inferInstanceAs (Decidable (_ ∧ _))

section
variable (source : List (String × HeaderValue))

theorem putOverrideEntries_error_iff (headers : UpstreamHeaders) :
    (∃ failure, source.foldlM (putOverrideEntry info request) headers = .error failure) ↔
      ∃ entry ∈ source, ∃ failure, overrideEntry info request entry = .error failure := by
  induction source generalizing headers with
  | nil => simp [pure, Except.pure]
  | cons entry rest ih =>
    rw [foldlM_cons]
    cases gives : overrideEntry info request entry with
    | error failure => simp [putOverrideEntry, gives, Except.map, bind, Except.bind]
    | ok header => simp [putOverrideEntry, gives, Except.map, bind, Except.bind, ih]

theorem passthroughRule_filter (rules : Passthrough) :
    ((source.filter fun entry => ¬ TakenEntry entry).map Prod.fst).foldlM (passthroughRule compile) rules =
      (source.map Prod.fst).foldlM (passthroughRule compile) rules := by
  induction source generalizing rules with
  | nil => rfl
  | cons entry rest ih =>
    by_cases taken : TakenEntry entry
    · rw [filter_cons_of_neg (by simpa using taken), ih, map_cons, foldlM_cons,
        passthroughRule_of_header compile taken.2]
      rfl
    · rw [filter_cons_of_pos (by simpa using taken), map_cons, map_cons, foldlM_cons,
        foldlM_cons]
      simp only [ih]

theorem passthroughRules_filter :
    passthroughRules compile info (source.filter fun entry => ¬ TakenEntry entry) =
      passthroughRules compile info source := by
  rw [passthroughRules, passthroughRules, passthroughRule_filter]

theorem headersFrom_own_error {failure : String}
    (accepted : ∀ entry ∈ source, TakenEntry entry → ∃ header, overrideEntry info request entry = .ok header)
    (rejected : headersFrom compile info request source = .error failure) :
    ∃ failure, headersFrom compile info request (source.filter fun entry => ¬ TakenEntry entry) = .error failure := by
  unfold headersFrom at rejected ⊢
  rw [passthroughRules_filter]
  cases ruled : passthroughRules compile info source with
  | error failure => exact ⟨failure, rfl⟩
  | ok rules =>
    rw [ruled] at rejected
    obtain ⟨entry, member, failed, error⟩ :=
      (putOverrideEntries_error_iff info request source _).mp ⟨failure, rejected⟩
    refine (putOverrideEntries_error_iff info request _ _).mpr ⟨entry, ?_, failed, error⟩
    rw [mem_filter]
    refine ⟨member, decide_eq_true fun taken => ?_⟩
    obtain ⟨header, ok⟩ := accepted entry member taken
    exact absurd (error.symm.trans ok) (by simp)

end

theorem headersFrom_find (source : HeaderMap) (sanitized : ∀ entry ∈ source.rows, SanitizedEntry entry)
    (done : headersFrom compile info request source.rows = .ok headers) (mem : entry ∈ source.rows)
    (gives : overrideEntry info request entry = .ok (some header)) : headers.find header.1 = some header := by
  unfold headersFrom at done
  have nodup : (source.rows.map fun entry => normalizeHeaderContextKey entry.1).Nodup := by
    rw [map_congr_left fun entry mem => (sanitized entry mem).normalized]
    exact source.unique
  cases ruled : passthroughRules compile info source.rows with
  | error err =>
    rw [ruled] at done
    cases done
  | ok rules =>
    rw [ruled] at done
    exact putOverrideEntries_find info request done nodup mem gives

end Wildflow.Relay
