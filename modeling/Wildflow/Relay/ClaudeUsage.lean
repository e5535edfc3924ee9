import Mathlib.Tactic.Basic

/-!
# The bill of a Claude response

`relay/channel/claude/relay-claude.go`, the Claude response conversion, `dto/billing_usage.go` and
`service/tiered_settle.go`: from the usage a Claude upstream reports, at once or in a stream, to the token counts that
tiered billing charges. Counts are naturals, and the float64 counts of a bill are the integers they hold.
-/

namespace Wildflow.Relay

structure ClaudeCacheCreationUsage where
  ephemeral5mInputTokens : Nat := 0
  ephemeral1hInputTokens : Nat := 0

structure ClaudeUsage where
  inputTokens : Nat := 0
  cacheCreationInputTokens : Nat := 0
  cacheReadInputTokens : Nat := 0
  outputTokens : Nat := 0
  cacheCreation : Option ClaudeCacheCreationUsage := none
  -- the flat fields of older relays
  claudeCacheCreation5mTokens : Nat := 0
  claudeCacheCreation1hTokens : Nat := 0

namespace ClaudeUsage

def getCacheCreation5mTokens (usage : ClaudeUsage) : Nat :=
  (usage.cacheCreation.map ClaudeCacheCreationUsage.ephemeral5mInputTokens).getD 0

def getCacheCreation1hTokens (usage : ClaudeUsage) : Nat :=
  (usage.cacheCreation.map ClaudeCacheCreationUsage.ephemeral1hInputTokens).getD 0

def hasTokens (usage : ClaudeUsage) : Bool :=
  usage.inputTokens ≠ 0 || usage.outputTokens ≠ 0 || usage.cacheCreationInputTokens ≠ 0 ||
    usage.cacheReadInputTokens ≠ 0 || usage.claudeCacheCreation5mTokens ≠ 0 ||
    usage.claudeCacheCreation1hTokens ≠ 0 || usage.getCacheCreation5mTokens ≠ 0 ||
    usage.getCacheCreation1hTokens ≠ 0

end ClaudeUsage

inductive UsageSemantic where
  | unset
  | anthropic
  | openAI
  | gemini
deriving DecidableEq

structure UsageCounts where
  promptTokens : Nat := 0
  completionTokens : Nat := 0
  totalTokens : Nat := 0
  cachedTokens : Nat := 0
  cachedCreationTokens : Nat := 0
  cacheWriteTokens : Nat := 0
  imageTokens : Nat := 0
  audioTokens : Nat := 0
  completionImageTokens : Nat := 0
  completionAudioTokens : Nat := 0
  claudeCacheCreation5mTokens : Nat := 0
  claudeCacheCreation1hTokens : Nat := 0
  usageSemantic : UsageSemantic := .unset

/-- The snapshot a bill is made from: Claude's own, or that of another provider with what `CanonicalUsage` makes of it. -/
inductive BillingUsage where
  | claude (usage : ClaudeUsage) (estimated : Bool)
  | foreign (canonical : Option UsageCounts)

structure Usage where
  counts : UsageCounts := {}
  billingUsage : Option BillingUsage := none

structure ClaudeReport where
  usage : ClaudeUsage
  billingUsage : Option BillingUsage := none

def newClaudeMessagesBillingUsage (usage : ClaudeUsage) : Option BillingUsage :=
  if usage.hasTokens then some (.claude usage false) else none

def normalizeCacheCreationSplit (totalTokens tokens5m tokens1h : Nat) : Nat × Nat :=
  (tokens5m + (totalTokens - tokens5m - tokens1h), tokens1h)

def canonicalClaudeUsage (usage : ClaudeUsage) : UsageCounts :=
  -- presence of the sub-object decides, not its value
  let split :=
    match usage.cacheCreation with
    | some _ => (usage.getCacheCreation5mTokens, usage.getCacheCreation1hTokens)
    | none => (usage.claudeCacheCreation5mTokens, usage.claudeCacheCreation1hTokens)
  { promptTokens := usage.inputTokens
    completionTokens := usage.outputTokens
    totalTokens := usage.inputTokens + usage.outputTokens
    cachedTokens := usage.cacheReadInputTokens
    cachedCreationTokens := usage.cacheCreationInputTokens
    claudeCacheCreation5mTokens := split.1
    claudeCacheCreation1hTokens := split.2
    usageSemantic := .anthropic }

def BillingUsage.canonicalUsage : BillingUsage → Option UsageCounts
  | .claude usage _ => if usage.hasTokens then some (canonicalClaudeUsage usage) else none
  | .foreign canonical => canonical

def effectiveBillingUsage (usage : Usage) : UsageCounts :=
  (usage.billingUsage.bind BillingUsage.canonicalUsage).getD usage.counts

structure UsedVars where
  cr : Bool := false
  cc : Bool := false
  cc1h : Bool := false
  img : Bool := false
  ai : Bool := false
  imgO : Bool := false
  ao : Bool := false

structure TokenParams where
  p : Int
  c : Int
  len : Int
  cr : Int
  cc : Int
  cc1h : Int
  img : Int
  imgO : Int
  ai : Int
  ao : Int

def buildTieredTokenParams (usage : UsageCounts) (isClaudeUsageSemantic : Bool) (usedVars : UsedVars) : TokenParams :=
  let split : Nat × Nat :=
    if usage.usageSemantic = .anthropic then (usage.claudeCacheCreation5mTokens, usage.claudeCacheCreation1hTokens)
    else (max usage.cachedCreationTokens usage.cacheWriteTokens, 0)
  let used (flag : Bool) (count : Nat) : Int := if !isClaudeUsageSemantic && flag then count else 0
  let p := (usage.promptTokens : Int) - used usedVars.cr usage.cachedTokens - used usedVars.cc split.1 -
    used usedVars.cc1h split.2 - used usedVars.img usage.imageTokens - used usedVars.ai usage.audioTokens
  let c := (usage.completionTokens : Int) - used usedVars.imgO usage.completionImageTokens -
    used usedVars.ao usage.completionAudioTokens
  { p := max p 0
    c := max c 0
    len := if isClaudeUsageSemantic then usage.promptTokens + usage.cachedTokens + split.1 + split.2
      else usage.promptTokens
    cr := usage.cachedTokens
    cc := split.1
    cc1h := split.2
    img := usage.imageTokens
    imgO := usage.completionImageTokens
    ai := usage.audioTokens
    ao := usage.completionAudioTokens }

/-- The counts with which `PostTextConsumeQuota` settles a tiered price. -/
def tieredBill (usage : Usage) (usedVars : UsedVars) : TokenParams :=
  let billingUsage := effectiveBillingUsage usage
  buildTieredTokenParams billingUsage (billingUsage.usageSemantic = .anthropic) usedVars

def handleClaudeResponseData (report : ClaudeReport) : Usage where
  counts :=
    { promptTokens := report.usage.inputTokens
      completionTokens := report.usage.outputTokens
      totalTokens := report.usage.inputTokens + report.usage.outputTokens
      cachedTokens := report.usage.cacheReadInputTokens
      cachedCreationTokens := report.usage.cacheCreationInputTokens
      claudeCacheCreation5mTokens := report.usage.getCacheCreation5mTokens
      claudeCacheCreation1hTokens := report.usage.getCacheCreation1hTokens
      usageSemantic := .anthropic }
  billingUsage := report.billingUsage.or (newClaudeMessagesBillingUsage report.usage)

structure ClaudeResponseInfo where
  usage : Usage := {}
  responseText : String := ""
  done : Bool := false
  billingUsageSynthesized : Bool := false

inductive ClaudeEvent where
  | messageStart (report : Option ClaudeReport)
  | contentBlockStart
  | contentBlockDelta (text thinking : String)
  | messageDelta (report : Option ClaudeReport)
  | other

def semanticClaudeUsage (counts : UsageCounts) : ClaudeUsage :=
  let split := normalizeCacheCreationSplit counts.cachedCreationTokens counts.claudeCacheCreation5mTokens
    counts.claudeCacheCreation1hTokens
  { inputTokens := counts.promptTokens
    cacheCreationInputTokens := counts.cachedCreationTokens
    cacheReadInputTokens := counts.cachedTokens
    outputTokens := counts.completionTokens
    cacheCreation := if 0 < split.1 ∨ 0 < split.2 then some ⟨split.1, split.2⟩ else none }

def claudeBillingUsageFromSemanticUsage (counts : UsageCounts) : Option BillingUsage :=
  newClaudeMessagesBillingUsage (semanticClaudeUsage counts)

def synthesizeBillingUsage (info : ClaudeResponseInfo) : ClaudeResponseInfo :=
  let billingUsage := claudeBillingUsageFromSemanticUsage info.usage.counts
  { info with
    usage := { info.usage with billingUsage := billingUsage }
    billingUsageSynthesized := billingUsage.isSome }

def updateClaudeStreamBillingUsage (report : ClaudeReport) (info : ClaudeResponseInfo) (terminal : Bool) :
    ClaudeResponseInfo :=
  match report.billingUsage with
  | some billingUsage =>
    { info with
      usage := { info.usage with billingUsage := some billingUsage }
      billingUsageSynthesized := !(terminal || 0 < report.usage.outputTokens) }
  | none =>
    if info.usage.billingUsage.isSome && !info.billingUsageSynthesized then info else synthesizeBillingUsage info

def orIfZero (reported earlier : Nat) : Nat := if 0 < reported then reported else earlier

def formatClaudeResponseInfo (info : ClaudeResponseInfo) : ClaudeEvent → ClaudeResponseInfo
  | .messageStart none => info
  | .messageStart (some report) =>
    let counts :=
      { info.usage.counts with
        promptTokens := report.usage.inputTokens
        cachedTokens := report.usage.cacheReadInputTokens
        cachedCreationTokens := report.usage.cacheCreationInputTokens
        claudeCacheCreation5mTokens := report.usage.getCacheCreation5mTokens
        claudeCacheCreation1hTokens := report.usage.getCacheCreation1hTokens
        completionTokens := report.usage.outputTokens
        usageSemantic := .anthropic }
    updateClaudeStreamBillingUsage report { info with usage := { info.usage with counts := counts } } false
  | .contentBlockStart => info
  | .contentBlockDelta text thinking => { info with responseText := info.responseText ++ text ++ thinking }
  | .messageDelta none => { info with done := true }
  | .messageDelta (some report) =>
    let old := info.usage.counts
    let promptTokens := orIfZero report.usage.inputTokens old.promptTokens
    let completionTokens := orIfZero report.usage.outputTokens old.completionTokens
    let counts :=
      { old with
        promptTokens := promptTokens
        cachedTokens := orIfZero report.usage.cacheReadInputTokens old.cachedTokens
        cachedCreationTokens := orIfZero report.usage.cacheCreationInputTokens old.cachedCreationTokens
        claudeCacheCreation5mTokens :=
          orIfZero report.usage.getCacheCreation5mTokens old.claudeCacheCreation5mTokens
        claudeCacheCreation1hTokens :=
          orIfZero report.usage.getCacheCreation1hTokens old.claudeCacheCreation1hTokens
        completionTokens := completionTokens
        totalTokens := promptTokens + completionTokens
        usageSemantic := .anthropic }
    let updated := updateClaudeStreamBillingUsage report
      { info with usage := { info.usage with counts := counts } } true
    { updated with done := true }
  | .other => info

structure LocalEstimate where
  ofText : String → Nat
  prompt : Nat

def fillMissingUsage (estimate : LocalEstimate) (info : ClaudeResponseInfo) : UsageCounts :=
  let counts := info.usage.counts
  if counts.completionTokens = 0 ∨ info.done = false then
    let fallback := estimate.ofText info.responseText
    let completionTokens :=
      if counts.completionTokens = 0 ∨ info.done = false ∧ counts.completionTokens < fallback then fallback
      else counts.completionTokens
    let promptTokens := if counts.promptTokens = 0 then estimate.prompt else counts.promptTokens
    { counts with
      completionTokens := completionTokens
      promptTokens := promptTokens
      totalTokens := promptTokens + completionTokens }
  else counts

def BillingUsage.markEstimated : BillingUsage → BillingUsage
  | .claude usage _ => .claude usage true
  | other => other

def finalizeClaudeStreamBillingUsage (info : ClaudeResponseInfo) : ClaudeResponseInfo :=
  if info.usage.billingUsage.isSome && !info.billingUsageSynthesized then info
  else
    let synthesized := synthesizeBillingUsage info
    if info.done then synthesized
    else { synthesized with
      usage := { synthesized.usage with billingUsage := synthesized.usage.billingUsage.map BillingUsage.markEstimated } }

def handleStreamFinalResponse (estimate : LocalEstimate) (info : ClaudeResponseInfo) : Usage :=
  let counts := { fillMissingUsage estimate info with usageSemantic := .anthropic }
  (finalizeClaudeStreamBillingUsage { info with usage := { info.usage with counts := counts } }).usage

def claudeStreamHandler (estimate : LocalEstimate) (events : List ClaudeEvent) : Usage :=
  handleStreamFinalResponse estimate (events.foldl formatClaudeResponseInfo {})

end Wildflow.Relay
