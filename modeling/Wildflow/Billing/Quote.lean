import Wildflow.Billing.Operation
import Wildflow.Billing.Relay

/-!
# Quotes of WildFlow jobs

Speech is priced by its characters, an image by the piece, and a transcription by the longest audio that
it may turn out to have.
-/

namespace Wildflow.Billing

/-- What the quote reads of a request that `validateWildFlowRequest` accepts: its model and the text to speak. -/
inductive WildFlowJobRequest where
  | voxCPM2 (content : Option String)
  | flux2
  | examDualASR
  | whisperASR
  | vibeVoiceASR
  | unsupported
deriving DecidableEq

structure QuotaConversion where
  quotaPerUnit : ℚ
  usdExchangeRate : ℚ
  text : ℚ → String

inductive QuoteError where
  | unsupportedModel
  | invalidParameters
  | invalidConversion
  | clamped
  | invalid (cause : BillingError)
deriving DecidableEq

def wildFlowASRMaximumDurationMilliseconds : Int := 7200000

/-- `decimal.Div` keeps 16 decimal places. -/
def decimalDiv (dividend divisor : ℚ) : ℚ := roundAwayFromZero (dividend / divisor * 10 ^ 16) / 10 ^ 16

def audioPrice (perMinute : ℚ) : ℚ × String × Int :=
  (decimalDiv (perMinute * wildFlowASRMaximumDurationMilliseconds) 60000, "audio_millisecond",
    wildFlowASRMaximumDurationMilliseconds)

def WildFlowJobRequest.price : WildFlowJobRequest → Except QuoteError (ℚ × String × Int)
  | .voxCPM2 none => .error .invalidParameters
  | .voxCPM2 (some content) =>
    .ok (decimalDiv (4 / 5 * content.length) 10000, "10k_characters", content.length)
  | .flux2 => .ok (1 / 20, "image", 1)
  | .examDualASR => .ok (audioPrice (1 / 20))
  | .whisperASR => .ok (audioPrice (1 / 50))
  | .vibeVoiceASR => .ok (audioPrice (1 / 25))
  | .unsupported => .error .unsupportedModel

def pricedQuote (conversion : QuotaConversion) (price : ℚ × String × Int) (quota : Int) : WildFlowBillingQuote :=
  { currency := "CNY", amountMicros := roundAwayFromZero (price.1 * 1000000), unit := price.2.1
    billableUnits := price.2.2, quota, quotaPerUnit := conversion.text conversion.quotaPerUnit
    usdExchangeRate := conversion.text conversion.usdExchangeRate, priceVersion := "wildflow-retail-cny-v2" }

def quoteWildFlowBilling (conversion : QuotaConversion) (request : WildFlowJobRequest) :
    Except QuoteError WildFlowBillingQuote :=
  if request = .unsupported then .error .unsupportedModel
  else if conversion.quotaPerUnit ≤ 0 ∨ conversion.usdExchangeRate ≤ 0 then .error .invalidConversion
  else do
    let price ← request.price
    match quotaRoundStrict (decimalDiv price.1 conversion.usdExchangeRate * conversion.quotaPerUnit) with
    | none => .error .clamped
    | some quota => do
      let quote := pricedQuote conversion price quota
      quote.validate.mapError .invalid
      return quote

end Wildflow.Billing
