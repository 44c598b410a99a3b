import BackendCore.Lib.Table
import BackendCore.Lib.UniqueIndex
import BackendCore.Lib.Transaction
import BackendCore.Lib.RowLock
import BackendCore.Lib.ReadCommitted
import BackendCore.Lib.Alone
import BackendCore.Lib.Outline
import BackendCore.Lib.FreshKeys
import BackendCore.Lib.Redis
import BackendCore.Lib.Requests
import BackendCore.Python.Text
import BackendCore.Python.Decimal
import BackendCore.Python.Json
import BackendCore.Python.Base64
import BackendCore.Python.DateTime
import BackendCore.Python.Uuid
import BackendCore.Shared.Errors
import BackendCore.Shared.Events
import BackendCore.Shared.UnitOfWork
import BackendCore.Billing.Models
import BackendCore.Billing.StateMachine
import BackendCore.Billing.Periods
import BackendCore.Billing.PaymentService
import BackendCore.Billing.BillingService
import BackendCore.Billing.Ports
import BackendCore.Billing.Adapters.Payme
import BackendCore.Billing.Adapters.Click
import BackendCore.Billing.Adapters.Stripe
import BackendCore.Billing.Webhooks
import BackendCore.Billing.Jobs
import BackendCore.Billing.System
import BackendCore.Billing.Constraints
import BackendCore.Billing.Ledger
import BackendCore.Billing.Answers
import BackendCore.Billing.Redelivery
import BackendCore.Billing.Parsing
import BackendCore.Billing.Reconciliation
import BackendCore.Billing.Frame
import BackendCore.Billing.Isolation
import BackendCore.Billing.PaymentLife
import BackendCore.Billing.Lockstep
import BackendCore.Billing.Coverage
import BackendCore.Billing.Sweeps
import BackendCore.Billing.CheckTransaction
import BackendCore.Billing.Rendering
import BackendCore.App.Worker
import BackendCore.Commerce.Models
import BackendCore.Commerce.Orders
import BackendCore.Commerce.OrderRace
import BackendCore.Commerce.Cart
import BackendCore.Commerce.CartContract
import BackendCore.Commerce.CartRace
import BackendCore.Commerce.Checkout
import BackendCore.Auth.Models
import BackendCore.Auth.Refresh
import BackendCore.Auth.Service
import BackendCore.Auth.Resets
import BackendCore.Auth.CodeChecks
import BackendCore.Auth.Enrollment
import BackendCore.Tenants.Models
import BackendCore.Tenants.Owners
import BackendCore.Tenants.Access
import BackendCore.Tenants.Invitations
import BackendCore.Python.TimeDelta
import BackendCore.Tenants.Inviting
import BackendCore.Notifications.Models
import BackendCore.Notifications.Eskiz
import BackendCore.Notifications.Dispatcher
import BackendCore.Notifications.DispatchRules
import BackendCore.Notifications.Attempts
import BackendCore.Notifications.Finality
import BackendCore.Notifications.SmsCap
import BackendCore.Billing.SubscriptionEvents
import BackendCore.Saas.Entitlements
import BackendCore.Saas.Projection
import BackendCore.App.Logging
import BackendCore.Billing.RollForward
import BackendCore.Lib.Cycles
import BackendCore.Modules.Loader
import BackendCore.Tools.AddFeature
import BackendCore.Saas.Metering
import BackendCore.Shared.Repository
import BackendCore.Shared.Retention
import BackendCore.App.BodyLimit
import BackendCore.Lib.Advisory
import BackendCore.Saas.Limits
import BackendCore.Saas.Onboarding
import BackendCore.Files.Service
import BackendCore.Files.Integrity
import BackendCore.Billing.PeriodArithmetic
import BackendCore.Auth.RateLimit
import BackendCore.Shared.Resilience
import BackendCore.Billing.Adapters.Checkout
import BackendCore.Shared.AcceptLanguage
import BackendCore.Shared.Listings
