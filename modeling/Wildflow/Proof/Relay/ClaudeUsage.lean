import Wildflow.Relay.ClaudeUsage

/-!
# One bill for a Claude response, streamed or not

The stream makes its snapshot from the counts it has gathered and fills the cache-creation split up to the total; a
response in one piece is settled from the report as it is.
-/

namespace Wildflow.Relay
variable {content : List ClaudeEvent} {counts : UsageCounts}

/-- As Claude sends it: the split is optional, and there are no flat fields and no snapshot. -/
structure ReportedUsage where
  inputTokens : Nat
  outputTokens : Nat
  cacheReadTokens : Nat
  cacheCreationTokens : Nat
  split : Option ClaudeCacheCreationUsage

namespace ReportedUsage

variable (reported : ReportedUsage)

def usage : ClaudeUsage :=
  { inputTokens := reported.inputTokens
    cacheCreationInputTokens := reported.cacheCreationTokens
    cacheReadInputTokens := reported.cacheReadTokens
    outputTokens := reported.outputTokens
    cacheCreation := reported.split }

def tokens5m : Nat :=
  (reported.split.map ClaudeCacheCreationUsage.ephemeral5mInputTokens).getD 0

def tokens1h : Nat :=
  (reported.split.map ClaudeCacheCreationUsage.ephemeral1hInputTokens).getD 0

def stream (startOutput : Nat) (content : List ClaudeEvent) : List ClaudeEvent :=
  .messageStart (some ⟨{ reported.usage with outputTokens := startOutput }, none⟩) ::
    (content ++ [.messageDelta (some ⟨reported.usage, none⟩), .other])

end ReportedUsage

def ClaudeEvent.isContent : ClaudeEvent → Bool
  | .contentBlockStart | .contentBlockDelta _ _ | .other => true
  | .messageStart _ | .messageDelta _ => false

def ClaudeEvent.text : ClaudeEvent → String
  | .contentBlockDelta text thinking => text ++ thinking
  | _ => ""

def contentText (content : List ClaudeEvent) : String := content.foldl (fun text event => text ++ event.text) ""

def claudeBill (prompt completion cached tokens5m tokens1h : Nat) : TokenParams :=
  { p := prompt, c := completion, len := prompt + cached + tokens5m + tokens1h, cr := cached, cc := tokens5m,
    cc1h := tokens1h, img := 0, imgO := 0, ai := 0, ao := 0 }

theorem claudeBill_inj {prompt prompt' done completion' cached cached' five five' hour hour' : Nat} :
    claudeBill prompt done cached five hour = claudeBill prompt' completion' cached' five' hour' ↔
      prompt = prompt' ∧ done = completion' ∧ cached = cached' ∧ five = five' ∧ hour = hour' := by
  constructor
  · grind [claudeBill]
  · rintro ⟨rfl, rfl, rfl, rfl, rfl⟩
    rfl

theorem claudeBill_covers_iff (prompt done cached five hour total : Nat) :
    ((max total (five + hour) : Nat) : Int) ≤ (claudeBill prompt done cached five hour).cc +
        (claudeBill prompt done cached five hour).cc1h ↔ total ≤ five + hour := by
  have sum : (claudeBill prompt done cached five hour).cc + (claudeBill prompt done cached five hour).cc1h =
      ((five + hour : Nat) : Int) := by
    simp [claudeBill]
  rw [sum, Int.ofNat_le, Nat.max_le]
  simp

structure ClaudeCounts (counts : UsageCounts) : Prop where
  semantic : counts.usageSemantic = .anthropic
  image : counts.imageTokens = 0
  audio : counts.audioTokens = 0
  completionImage : counts.completionImageTokens = 0
  completionAudio : counts.completionAudioTokens = 0

theorem buildTieredTokenParams_claude (claude : ClaudeCounts counts) (usedVars : UsedVars) :
    buildTieredTokenParams counts true usedVars =
      claudeBill counts.promptTokens counts.completionTokens counts.cachedTokens counts.claudeCacheCreation5mTokens
        counts.claudeCacheCreation1hTokens := by
  simp [buildTieredTokenParams, claudeBill, claude.semantic, claude.image, claude.audio, claude.completionImage,
    claude.completionAudio]

theorem canonicalClaudeUsage_counts (usage : ClaudeUsage) : ClaudeCounts (canonicalClaudeUsage usage) :=
  ⟨rfl, rfl, rfl, rfl, rfl⟩

theorem tieredBill_of_snapshot {counts : UsageCounts} (claude : ClaudeCounts counts) {usage : ClaudeUsage}
    (prompt : usage.inputTokens = counts.promptTokens) (done : usage.outputTokens = counts.completionTokens)
    (cached : usage.cacheReadInputTokens = counts.cachedTokens) (empty : usage.hasTokens = false →
      counts.claudeCacheCreation5mTokens = (canonicalClaudeUsage usage).claudeCacheCreation5mTokens ∧
        counts.claudeCacheCreation1hTokens = (canonicalClaudeUsage usage).claudeCacheCreation1hTokens)
    (usedVars : UsedVars) :
    tieredBill ⟨counts, newClaudeMessagesBillingUsage usage⟩ usedVars =
      claudeBill counts.promptTokens counts.completionTokens counts.cachedTokens
        (canonicalClaudeUsage usage).claudeCacheCreation5mTokens
        (canonicalClaudeUsage usage).claudeCacheCreation1hTokens := by
  cases tokens : usage.hasTokens with
  | true =>
    have effective : effectiveBillingUsage ⟨counts, newClaudeMessagesBillingUsage usage⟩ =
        canonicalClaudeUsage usage := by
      simp [effectiveBillingUsage, newClaudeMessagesBillingUsage, BillingUsage.canonicalUsage, tokens]
    have flagged : decide ((canonicalClaudeUsage usage).usageSemantic = .anthropic) = true := rfl
    rw [tieredBill, effective, flagged, buildTieredTokenParams_claude (canonicalClaudeUsage_counts usage)]
    simp [canonicalClaudeUsage, prompt, done, cached]
  | false =>
    have effective : effectiveBillingUsage ⟨counts, newClaudeMessagesBillingUsage usage⟩ = counts := by
      simp [effectiveBillingUsage, newClaudeMessagesBillingUsage, tokens]
    have flagged : decide (counts.usageSemantic = .anthropic) = true := by simp [claude.semantic]
    rw [tieredBill, effective, flagged, buildTieredTokenParams_claude claude, (empty tokens).1, (empty tokens).2]

theorem whole_bill (told : ReportedUsage) (usedVars : UsedVars) :
    tieredBill (handleClaudeResponseData ⟨told.usage, none⟩) usedVars =
      claudeBill told.inputTokens told.outputTokens told.cacheReadTokens told.tokens5m told.tokens1h := by
  have split5m : (canonicalClaudeUsage told.usage).claudeCacheCreation5mTokens = told.tokens5m := by
    cases found : told.split <;>
      simp [canonicalClaudeUsage, ReportedUsage.usage, ReportedUsage.tokens5m, ClaudeUsage.getCacheCreation5mTokens, found]
  have split1h : (canonicalClaudeUsage told.usage).claudeCacheCreation1hTokens = told.tokens1h := by
    cases found : told.split <;>
      simp [canonicalClaudeUsage, ReportedUsage.usage, ReportedUsage.tokens1h, ClaudeUsage.getCacheCreation1hTokens, found]
  have bill := @tieredBill_of_snapshot (handleClaudeResponseData ⟨told.usage, none⟩).counts
    ⟨rfl, rfl, rfl, rfl, rfl⟩ told.usage rfl rfl rfl
    (fun _ => ⟨split5m.symm, split1h.symm⟩) usedVars
  rw [split5m, split1h] at bill
  exact bill

theorem formatClaudeResponseInfo_content {ev : ClaudeEvent} (content : ev.isContent = true)
    (info : ClaudeResponseInfo) :
    formatClaudeResponseInfo info ev = { info with responseText := info.responseText ++ ev.text } := by
  cases ev with
  | messageStart => cases content
  | messageDelta => cases content
  | contentBlockStart => simp [formatClaudeResponseInfo, ClaudeEvent.text]
  | contentBlockDelta text thinking => simp [formatClaudeResponseInfo, ClaudeEvent.text, String.append_assoc]
  | other => simp [formatClaudeResponseInfo, ClaudeEvent.text]

theorem foldl_content (all : ∀ ev ∈ content, ev.isContent = true) (info : ClaudeResponseInfo) :
    content.foldl formatClaudeResponseInfo info =
      { info with responseText := content.foldl (fun text ev => text ++ ev.text) info.responseText } := by
  induction content generalizing info with
  | nil => rfl
  | cons ev rest ih =>
    rw [List.foldl_cons, formatClaudeResponseInfo_content (all ev (by simp)),
      ih fun later mem => all later (List.mem_cons_of_mem _ mem)]
    rfl

def gatheredCounts (reported : ReportedUsage) (startOutput : Nat) : UsageCounts :=
  { promptTokens := reported.inputTokens
    completionTokens := orIfZero reported.outputTokens startOutput
    totalTokens := reported.inputTokens + orIfZero reported.outputTokens startOutput
    cachedTokens := reported.cacheReadTokens
    cachedCreationTokens := reported.cacheCreationTokens
    claudeCacheCreation5mTokens := reported.tokens5m
    claudeCacheCreation1hTokens := reported.tokens1h
    usageSemantic := .anthropic }

theorem orIfZero_self (count : Nat) : orIfZero count count = count := by
  unfold orIfZero
  split <;> omega

theorem update_without_snapshot {usage : ClaudeUsage} {info : ClaudeResponseInfo}
    (own : info.billingUsageSynthesized = info.usage.billingUsage.isSome) (final : Bool) :
    updateClaudeStreamBillingUsage ⟨usage, none⟩ info final = synthesizeBillingUsage info := by
  cases snapshot : info.usage.billingUsage <;> simp [updateClaudeStreamBillingUsage, own, snapshot]

theorem finalize_without_snapshot {info : ClaudeResponseInfo} (done : info.done = true)
    (own : info.billingUsageSynthesized = info.usage.billingUsage.isSome) :
    finalizeClaudeStreamBillingUsage info = synthesizeBillingUsage info := by
  cases snapshot : info.usage.billingUsage <;> simp [finalizeClaudeStreamBillingUsage, own, snapshot, done]

theorem stream_gathers (told : ReportedUsage) (startOutput : Nat) (all : ∀ ev ∈ content, ev.isContent = true) :
    let ended := (told.stream startOutput content).foldl formatClaudeResponseInfo {}
    ended.usage.counts = gatheredCounts told startOutput ∧ ended.responseText = contentText content ∧
      ended.done = true ∧ ended.billingUsageSynthesized = ended.usage.billingUsage.isSome := by
  dsimp only
  rw [ReportedUsage.stream, List.foldl_cons, List.foldl_append, foldl_content all]
  simp only [formatClaudeResponseInfo, List.foldl_cons, List.foldl_nil]
  rw [update_without_snapshot rfl, update_without_snapshot rfl]
  refine ⟨?_, rfl, trivial, rfl⟩
  simp [synthesizeBillingUsage, gatheredCounts, ReportedUsage.usage, ReportedUsage.tokens5m, ReportedUsage.tokens1h,
    ClaudeUsage.getCacheCreation5mTokens, ClaudeUsage.getCacheCreation1hTokens, orIfZero_self]

theorem canonical_semanticClaudeUsage (counts : UsageCounts) :
    (canonicalClaudeUsage (semanticClaudeUsage counts)).claudeCacheCreation5mTokens =
        counts.claudeCacheCreation5mTokens +
          (counts.cachedCreationTokens - counts.claudeCacheCreation5mTokens - counts.claudeCacheCreation1hTokens) ∧
      (canonicalClaudeUsage (semanticClaudeUsage counts)).claudeCacheCreation1hTokens =
        counts.claudeCacheCreation1hTokens := by
  unfold canonicalClaudeUsage semanticClaudeUsage normalizeCacheCreationSplit
  dsimp only
  split
  · rename_i present
    split at present
    · obtain rfl := Option.some.inj present
      simp_all [ClaudeUsage.getCacheCreation5mTokens, ClaudeUsage.getCacheCreation1hTokens]
    · cases present
  · grind

theorem synthesized_bill (claude : ClaudeCounts counts) (usedVars : UsedVars) :
    tieredBill ⟨counts, claudeBillingUsageFromSemanticUsage counts⟩ usedVars =
      claudeBill counts.promptTokens counts.completionTokens counts.cachedTokens
        (counts.claudeCacheCreation5mTokens +
          (counts.cachedCreationTokens - counts.claudeCacheCreation5mTokens - counts.claudeCacheCreation1hTokens))
        counts.claudeCacheCreation1hTokens := by
  obtain ⟨five, hour⟩ := canonical_semanticClaudeUsage counts
  rw [claudeBillingUsageFromSemanticUsage, tieredBill_of_snapshot claude rfl rfl rfl ?_, five, hour]
  intro none
  refine ⟨?_, hour.symm⟩
  have total : counts.cachedCreationTokens = 0 := by
    simp only [ClaudeUsage.hasTokens, Bool.or_eq_false_iff, decide_eq_false_iff_not, Decidable.not_not] at none
    exact none.1.1.1.1.1.2
  rw [five, total]
  omega

section
variable (estimate : LocalEstimate)

def settledPrompt (reported : ReportedUsage) (startOutput : Nat) : Nat :=
  if orIfZero reported.outputTokens startOutput = 0 ∧ reported.inputTokens = 0 then estimate.prompt
  else reported.inputTokens

def settledCompletion (reported : ReportedUsage) (startOutput : Nat) (content : List ClaudeEvent) : Nat :=
  if orIfZero reported.outputTokens startOutput = 0 then estimate.ofText (contentText content)
  else orIfZero reported.outputTokens startOutput

theorem stream_bill (told : ReportedUsage) (startOutput : Nat) (all : ∀ ev ∈ content, ev.isContent = true) (usedVars : UsedVars) :
    tieredBill (claudeStreamHandler estimate (told.stream startOutput content)) usedVars =
      claudeBill (settledPrompt estimate told startOutput) (settledCompletion estimate told startOutput content)
        told.cacheReadTokens (told.tokens5m + (told.cacheCreationTokens - told.tokens5m - told.tokens1h))
        told.tokens1h := by
  obtain ⟨counts, text, done, own⟩ := stream_gathers told startOutput all
  unfold claudeStreamHandler handleStreamFinalResponse
  generalize (told.stream startOutput content).foldl formatClaudeResponseInfo {} = ended at *
  dsimp only at counts text done own ⊢
  have finished := @finalize_without_snapshot
    { ended with usage := { ended.usage with counts := { fillMissingUsage estimate ended with usageSemantic := .anthropic } } }
    done own
  rw [finished]
  have filled : { fillMissingUsage estimate ended with usageSemantic := .anthropic } =
      { gatheredCounts told startOutput with
        promptTokens := settledPrompt estimate told startOutput
        completionTokens := settledCompletion estimate told startOutput content
        totalTokens := settledPrompt estimate told startOutput +
          settledCompletion estimate told startOutput content } := by
    unfold fillMissingUsage settledPrompt settledCompletion
    rw [counts, text, done]
    by_cases missing : orIfZero told.outputTokens startOutput = 0
    · simp [gatheredCounts, missing]
    · simp [gatheredCounts, missing]
  rw [filled]
  exact synthesized_bill ⟨rfl, rfl, rfl, rfl, rfl⟩ usedVars

theorem settled_as_reported_iff (told : ReportedUsage) (startOutput : Nat) (content : List ClaudeEvent) :
    settledPrompt estimate told startOutput = told.inputTokens ∧
        settledCompletion estimate told startOutput content = told.outputTokens ↔
      0 < told.outputTokens ∨ startOutput = 0 ∧ estimate.ofText (contentText content) = 0 ∧
          (0 < told.inputTokens ∨ estimate.prompt = 0) := by
  unfold settledPrompt settledCompletion orIfZero
  by_cases output : 0 < told.outputTokens
  · rw [if_pos output, if_neg (by omega), if_neg (by omega)]
    exact ⟨fun _ => .inl output, fun _ => ⟨rfl, rfl⟩⟩
  rw [if_neg output]
  by_cases begun : startOutput = 0
  · rw [if_pos begun]
    by_cases input : told.inputTokens = 0
    · rw [if_pos ⟨begun, input⟩]
      omega
    · rw [if_neg fun both => input both.2]
      omega
  · rw [if_neg begun, if_neg fun both => begun both.1]
    omega

end

/-- The bills agree when the split covers its total and no reported zero is taken for a missing count. -/
theorem claude_stream_bill_iff (estimate : LocalEstimate) (reported : ReportedUsage) (startOutput : Nat)
    (content : List ClaudeEvent) (all : ∀ event ∈ content, event.isContent = true) (usedVars : UsedVars) :
    let whole := tieredBill (handleClaudeResponseData ⟨reported.usage, none⟩) usedVars
    let streamed := tieredBill (claudeStreamHandler estimate (reported.stream startOutput content)) usedVars
    (streamed = whole ∧ (max reported.cacheCreationTokens (reported.tokens5m + reported.tokens1h) : Nat) ≤
        whole.cc + whole.cc1h) ↔
      reported.cacheCreationTokens ≤ reported.tokens5m + reported.tokens1h ∧ (0 < reported.outputTokens ∨
          startOutput = 0 ∧ estimate.ofText (contentText content) = 0 ∧
            (0 < reported.inputTokens ∨ estimate.prompt = 0)) := by
  dsimp only
  rw [whole_bill, stream_bill estimate reported startOutput all, claudeBill_inj,
    ← settled_as_reported_iff estimate reported startOutput content]
  have covered := claudeBill_covers_iff reported.inputTokens reported.outputTokens reported.cacheReadTokens
    reported.tokens5m reported.tokens1h reported.cacheCreationTokens
  rw [covered]
  omega

theorem claude_stream_bill_iff_splitReport :
    let reported : ReportedUsage := ⟨10, 20, 30, 50, some ⟨40, 10⟩⟩
    let estimate : LocalEstimate := ⟨String.length, 7⟩
    let content : List ClaudeEvent := [.contentBlockStart, .contentBlockDelta "Hi" "", .other]
    tieredBill (claudeStreamHandler estimate (reported.stream 1 content)) {} =
      tieredBill (handleClaudeResponseData ⟨reported.usage, none⟩) {} :=
  ((claude_stream_bill_iff ⟨String.length, 7⟩ ⟨10, 20, 30, 50, some ⟨40, 10⟩⟩ 1
    [.contentBlockStart, .contentBlockDelta "Hi" "", .other] (by decide) {}).mpr (by decide)).1

theorem total_without_split_billed_twice_differently :
    let reported : ReportedUsage := ⟨10, 20, 0, 50, none⟩
    let estimate : LocalEstimate := ⟨String.length, 7⟩
    (tieredBill (handleClaudeResponseData ⟨reported.usage, none⟩) {}).cc = 0 ∧
      (tieredBill (claudeStreamHandler estimate (reported.stream 1 [])) {}).cc = 50 := by
  decide

end Wildflow.Relay
