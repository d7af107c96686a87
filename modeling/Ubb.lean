import Ubb.Core.Date
import Ubb.Core.Uuid
import Ubb.Library.KeyedRows
import Ubb.Library.Timeline
import Ubb.Library.Runs
import Ubb.Library.TaggedText
import Ubb.Wallets.Model
import Ubb.Wallets.Grants
import Ubb.Wallets.Operations
import Ubb.Wallets.Machine
import Ubb.Wallets.Expiry
import Ubb.Wallets.Ledger
import Ubb.Wallets.Lots
import Ubb.Wallets.Consumption
import Ubb.Wallets.LotMoves
import Ubb.Wallets.Restoration
import Ubb.Wallets.LotInvariants
import Ubb.Wallets.Replay
import Ubb.Wallets.UsageCharge
import Ubb.Wallets.RefundOwnership
import Ubb.Wallets.StripeRefunds
import Ubb.Wallets.OpenLots
import Ubb.Wallets.Draws
import Ubb.Wallets.DueRefunds
import Ubb.Outbox.Model
import Ubb.Outbox.Dispatch
import Ubb.Outbox.Atomicity
import Ubb.Outbox.Retries
import Ubb.TenantBilling.Model
import Ubb.TenantBilling.Periods
import Ubb.TenantBilling.Steps
import Ubb.TenantBilling.MonthBoundary
import Ubb.TenantBilling.ArrivalTotals
import Ubb.Library.Ranking
import Ubb.Pricing.Books
import Ubb.Pricing.Planner
import Ubb.Pricing.Catalogue
import Ubb.Library.Outcomes
import Ubb.Pricing.Writes
import Ubb.Pricing.Timeline
import Ubb.Pricing.Drafts
import Ubb.Pricing.Publish
import Ubb.Pricing.Ladder
import Ubb.Work.Model
import Ubb.Work.Transitions
import Ubb.Work.Recording
import Ubb.Work.Moves
import Ubb.Work.Rows
import Ubb.Work.Lifecycle
import Ubb.Work.Endings
import Ubb.Work.Totals
import Ubb.Work.Charges
import Ubb.Work.DeliveredWork
import Ubb.Recovery.Drawdowns
import Ubb.Invoicing.Model
import Ubb.Invoicing.Carry
import Ubb.Invoicing.Machine
import Ubb.Invoicing.Conservation
import Ubb.Invoicing.Accounts
import Ubb.Invoicing.Recordings
import Ubb.Invoicing.Freeze
import Ubb.Invoicing.Stripe
import Ubb.Invoicing.Routes
import Ubb.Invoicing.Pinning
import Ubb.Invoicing.Targets
import Ubb.Invoicing.Billing
import Ubb.Invoicing.BilledOnce
import Ubb.Library.Latch
import Ubb.Gating.Model
import Ubb.Gating.Signals
import Ubb.Gating.Episodes
import Ubb.Gating.LiveCounter
import Ubb.Gating.Suspension
import Ubb.Gating.Interleaving
import Ubb.Pricing.CostLadder
import Ubb.Pricing.Precedence
import Ubb.Library.Dictionary
import Ubb.Library.Patterns
import Ubb.Pricing.ExactDecimals
import Ubb.Pricing.DecimalGrammar
import Ubb.Pricing.DecimalValues
import Ubb.Pricing.Receipts
import Ubb.Library.PlainValues
import Ubb.Pricing.StoredReceipts
import Ubb.Pricing.Completions
import Ubb.Pricing.ReceiptObjects
import Ubb.Pricing.Resolution
import Ubb.Library.Rounding
import Ubb.Pricing.RateAmounts
import Ubb.Pricing.Coherence
import Ubb.Pricing.Resolver
import Ubb.Pricing.Reordered
import Ubb.Resolving.Model
import Ubb.Resolving.Machine
import Ubb.Resolving.Postings
import Ubb.Resolving.Rows
import Ubb.Resolving.Executed
import Ubb.Resolving.TwoRuns
import Ubb.Resolving.Projection
import Ubb.Resolving.ProjectedRuns
import Ubb.Resolving.HeldNames
import Ubb.Resolving.Backlog
import Ubb.Resolving.Repeated
import Ubb.Resolving.Bags
import Ubb.Resolving.Faithful
import Ubb.Resolving.Recovered
import Ubb.TenantBilling.Fees
import Ubb.TenantBilling.FeeCarry
import Ubb.Invoicing.Owners
import Ubb.Invoicing.Partition
import Ubb.Work.Admission
import Ubb.Gating.SpendPool
import Ubb.Gating.Repair
import Ubb.Wallets.Reservations
import Ubb.Work.Sweeps
import Ubb.Work.Silence
import Ubb.Work.Windows
import Ubb.Work.GroupingFields
import Ubb.Work.Starts
import Ubb.Work.Replays
import Ubb.Core.Calendar
import Ubb.Core.Instants
import Ubb.Core.Months
import Ubb.Library.Base64
import Ubb.Library.Keyset
import Ubb.Core.Cursor
import Ubb.Core.CursorRefusals
import Ubb.Core.Pagination
import Ubb.Library.Agents
import Ubb.Library.Capped
import Ubb.Webhooks.Receiver
import Ubb.Webhooks.Deliveries
import Ubb.Webhooks.Effects
import Ubb.Work.Containment
import Ubb.Work.RecordedValues
import Ubb.Work.Keyspace
import Ubb.Membership.Model
import Ubb.Membership.Roster
import Ubb.Membership.Principals
import Ubb.Retention.Published
import Ubb.Referrals.Model
import Ubb.Referrals.Rewards
import Ubb.Referrals.Cap
import Ubb.Referrals.Agreement
import Ubb.Referrals.FlatFee
import Ubb.Library.Windows
import Ubb.Economics.Revenue
import Ubb.Economics.Accrual
import Ubb.Economics.Margins
import Ubb.Economics.Contributions
