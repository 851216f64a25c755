import NewApi.Controller.Checkout
import NewApi.Controller.Midjourney
import NewApi.Controller.MultiKeyRuns
import NewApi.Controller.TaskLedger
import NewApi.Model.AuthFlowOnce
import NewApi.Model.CacheCoherence
import NewApi.Model.GroupCache
import NewApi.Model.PurchaseLimit
import NewApi.Model.RefreshReuse
import NewApi.Model.SubscriptionCatchUp
import NewApi.Model.SubscriptionGroup
import NewApi.Model.SubscriptionLedger
import NewApi.Model.SubscriptionPreConsume
import NewApi.Model.SubscriptionRefund
import NewApi.Model.SystemTaskLease
import NewApi.Model.TokenBalance
import NewApi.Model.TwoFA
import NewApi.Model.WalletCeiling
import NewApi.RelayConvert.ChatToClaudeProtocol
import NewApi.RelayConvert.ChatToClaudeRequest
import NewApi.RelayConvert.ClaudeToChatRequest
import NewApi.Service.GroupRatio
import NewApi.Service.PollCutoff
import NewApi.Service.ProtectedFetch
import NewApi.Service.TaskSettlement
import NewApi.Service.WalletIsolation
import NewApi.Relay.ModelMapped
import NewApi.Common.RateLimit
import NewApi.Relay.StreamScanner
import NewApi.Middleware.ModelBody
