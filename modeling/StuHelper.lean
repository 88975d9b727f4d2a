import StuHelper.Subscription.RefundAdmission
import StuHelper.Subscription.ResetUsage
import StuHelper.Subscription.Idempotency
import StuHelper.Subscription.Slots
import StuHelper.Subscription.Renewal
import StuHelper.Subscription.Groups
import StuHelper.Subscription.Maintenance
import StuHelper.Billing.Conservation
import StuHelper.TopUps.RefundGuard
import StuHelper.Subscription.RefundCycles
import StuHelper.TopUps.SelfServeReject
import StuHelper.TopUps.DailyLimit
import StuHelper.Relay.Finish
import StuHelper.Relay.Content
import StuHelper.Relay.FromClaude
import StuHelper.Relay.ToClaude
import StuHelper.Relay.ResponsesAgree
import StuHelper.Relay.FromGemini
import StuHelper.Relay.Forward
import StuHelper.Relay.Realtime
import StuHelper.Relay.Scanner
import StuHelper.Tasks.Race
import StuHelper.Tasks.Refunded
import StuHelper.Tasks.OwnAnswers
import StuHelper.Routing.Agree
import StuHelper.Routing.Attempts
import StuHelper.Routing.Cooling
import StuHelper.Routing.OneGroup
import StuHelper.Routing.Disabled
import StuHelper.Routing.Affinity
import StuHelper.Relay.Usage
import StuHelper.Relay.ToolCalls
import StuHelper.Routing.MultiKey
import StuHelper.Billing.GroupRatio
import StuHelper.Billing.TaskPrice
import StuHelper.Billing.Batch
import StuHelper.Routing.RateLimit
import StuHelper.Routing.AccessControl
import StuHelper.Routing.BreakerWindow
import StuHelper.Users.TwoFA
import StuHelper.Billing.ExprCache
