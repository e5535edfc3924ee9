import Wildflow.Proof.Billing.GroupHistory
import Wildflow.Proof.Billing.Quote
import Wildflow.Proof.Billing.Submission
import Wildflow.Proof.Billing.Polling
import Wildflow.Proof.Billing.Replay
import Wildflow.Proof.Billing.Cleanup
import Wildflow.Proof.Billing.HardCap
import Wildflow.Proof.Billing.SubscriptionUsage
import Wildflow.Proof.Billing.TaskOverlap
import Wildflow.Proof.Billing.Settlement
import Wildflow.Proof.Billing.Recovery
import Wildflow.Proof.Billing.TaskAttachment
import Wildflow.Proof.Billing.Midjourney
import Wildflow.Proof.Billing.Realtime
import Wildflow.Proof.Billing.TopUp
import Wildflow.Proof.Billing.TopUpCredit
import Wildflow.Proof.Billing.BatchUpdate
import Wildflow.Proof.Relay.ClientText
import Wildflow.Proof.Relay.ClaudeUsage
import Wildflow.Proof.Relay.ResponsesAgreement
import Wildflow.Proof.Relay.ResponsesWellFormed
import Wildflow.Proof.Relay.ChatLossless
import Wildflow.Proof.Relay.ResponsesToClaudeStream
import Wildflow.Proof.Plugin.PublicRoutes
import Wildflow.Proof.System.SystemTask
import Wildflow.Proof.System.SsrfProtection
import Wildflow.Proof.Channel.MultiKey
import Wildflow.Proof.Channel.RetryLoop
import Wildflow.Proof.Account.UserSave
import Wildflow.Proof.Middleware.ModelRateLimit
