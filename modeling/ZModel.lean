import ZModel.Billing.Runs
import ZModel.Payment.Callbacks
import ZModel.Realtime.Session
import ZModel.Tasks.Refunds
import ZModel.Tasks.Absorbing
import ZModel.Tasks.Visible
import ZModel.Tasks.Routing
import ZModel.Tasks.Failures
import ZModel.Tasks.RealtimeBilling
import ZModel.Users.Ledger
import ZModel.AsyncImage.Generation
import ZModel.AsyncImage.Stored
import ZModel.Subscription.Refund
import ZModel.Billing.FundingChoice
import ZModel.Pricing.ImageTask
import ZModel.Pricing.Statistics
import ZModel.Subscription.Attribution
import ZModel.Subscription.Boundaries
import ZModel.Subscription.Expiry
import ZModel.Payment.Redemption
import ZModel.Subscription.OrderCallbacks
import ZModel.Subscription.PurchaseLimit
import ZModel.Payment.Tokens
import ZModel.Tasks.GroupRatio
import ZModel.Tasks.Remix
import ZModel.Video.Cleanup
import ZModel.Channels.Agreement
import ZModel.Relay.Levels
import ZModel.Channels.ManualStatus
import ZModel.Channels.Synchronisation
import ZModel.SystemTasks.Leases
import ZModel.Relay.StreamDelivery
import ZModel.Channels.Mirror
import ZModel.Relay.Requests
import ZModel.Fetch.Client
import ZModel.Relay.Usage
import ZModel.Channels.Paths
import ZModel.Relay.KeyPolling
import ZModel.Users.Checkins
