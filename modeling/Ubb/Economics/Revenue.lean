import Ubb.Core.Months
import Ubb.Library.Queues
import Ubb.Library.Windows
import Ubb.Work.Model

set_option autoImplicit false

namespace Ubb.Months

def Day.number (date : Day) : Int := date.ordinal

end Ubb.Months

-- apps/subscriptions/economics: what a customer brought in and cost over a
-- window of days, from its subscriptions, the revenue its tenant supplied and
-- its postings.
namespace Ubb.Economics

open Ubb.Calendar
open Ubb.Library
open Ubb.Months
open Ubb.Work (CostingStatus PricingStatus)

inductive RecognitionMethod where
  | straightLine
  | onReceipt
deriving DecidableEq, Repr

inductive RevenueBasis where
  | recorded
  | recognised
deriving DecidableEq, Repr

-- The table's checks: a span closes after it opens, and what is spread has one.
structure TenantSuppliedRevenue where
  customer : Nat
  amountMicros : Int
  periodStart : Day
  periodEnd : Option Day
  recognitionMethod : RecognitionMethod
  sourceReference : String
  opensFirst : ∀ closes, periodEnd = some closes → periodStart < closes
  hasSpan : recognitionMethod = .straightLine → periodEnd.isSome = true

def spreadsAcrossASpan : RecognitionMethod → Bool
  | .straightLine => true
  | .onReceipt => false

namespace TenantSuppliedRevenue

def spanDays (record : TenantSuppliedRevenue) : Option Int :=
  record.periodEnd.map (fun closes => closes.number - record.periodStart.number)

def overlapDays (record : TenantSuppliedRevenue) (startDate endDate : Day) : Int :=
  match record.periodEnd with
  | none => 0
  | some closes => overlap record.periodStart.number closes.number startDate.number endDate.number

def isDistributed (record : TenantSuppliedRevenue) (basis : RevenueBasis) : Bool :=
  decide (basis = .recognised) && spreadsAcrossASpan record.recognitionMethod

def contributes (record : TenantSuppliedRevenue) (startDate endDate : Day) (basis : RevenueBasis) : Bool :=
  if record.isDistributed basis then decide (0 < record.overlapDays startDate endDate)
  else decide (startDate ≤ record.periodStart) && decide (record.periodStart < endDate)

def attributedMicros (record : TenantSuppliedRevenue) (startDate endDate : Day) (basis : RevenueBasis) : Int :=
  if !record.contributes startDate endDate basis then 0
  else if !record.isDistributed basis then record.amountMicros
  else record.amountMicros * record.overlapDays startDate endDate / record.spanDays.getD 0

-- The rows the database hands over: a span that could touch the window.
def touches (record : TenantSuppliedRevenue) (startDate endDate : Day) : Bool :=
  decide (record.periodStart < endDate) && record.periodEnd.all (fun closes => decide (startDate < closes))

end TenantSuppliedRevenue

def attributedTotal (records : List TenantSuppliedRevenue) (startDate endDate : Day) (basis : RevenueBasis) : Int :=
  ((records.filter (fun record => record.touches startDate endDate && record.contributes startDate endDate basis)).map
    (fun record => record.attributedMicros startDate endDate basis)).sum

inductive SubscriptionStatus where
  | active
  | pastDue
  | canceled
  | incomplete
  | incompleteExpired
  | trialing
  | unpaid
  | paused
deriving DecidableEq, Repr

def accruingSubscriptionStatuses : List SubscriptionStatus := [.active, .trialing, .pastDue, .unpaid]

-- The table's check: an amount is there exactly where the currency is UBB's.
structure StripeSubscription where
  customer : Nat
  status : SubscriptionStatus
  amountMicros : Option Int
  currency : String
  interval : String
  paired : amountMicros.isSome = decide (currency = "usd")

def inAccruingStatus (subscriptions : List StripeSubscription) : List StripeSubscription :=
  subscriptions.filter (fun subscription => decide (subscription.status ∈ accruingSubscriptionStatuses))

def accruing (subscriptions : List StripeSubscription) : List StripeSubscription :=
  (inAccruingStatus subscriptions).filter (fun subscription => decide (subscription.currency = "usd"))

def foreignCurrency (subscriptions : List StripeSubscription) : List StripeSubscription :=
  (inAccruingStatus subscriptions).filter (fun subscription => decide (subscription.currency ≠ "usd"))

def nextMonth (current : Day) : Except DateError Day :=
  if current.month = 12 then replaceDate (current.year + 1) 1 1 else replaceDate current.year (current.month + 1) 1

-- _month_iter, one turn a month.
def monthsFrom (finish : Day) : Nat → Day → Except DateError (List (Day × Day))
  | 0, _ => .ok []
  | turns + 1, current =>
      if current < finish then do
        let next ← nextMonth current
        let later ← monthsFrom finish turns next
        return (current, next) :: later
      else .ok []

def monthIter (start finish : Day) : Except DateError (List (Day × Day)) := do
  let current ← replaceDate start.year start.month 1
  monthsFrom finish (finish.monthIndex + 1 - start.monthIndex) current

def monthlyMicros (subscription : StripeSubscription) : Int :=
  let perInterval := subscription.amountMicros.getD 0
  if subscription.interval = "year" then perInterval / 12 else perInterval

def accruedIn (monthly : Int) (startDate endDate : Day) (month : Day × Day) : Int :=
  let overlapDays := min endDate.number month.2.number - max startDate.number month.1.number
  if overlapDays ≤ 0 then 0 else monthly * overlapDays / daysInMonth (isLeap month.1.year) month.1.month

def nominalForWindow (subscription : StripeSubscription) (startDate endDate : Day) : Except DateError Int := do
  let months ← monthIter startDate endDate
  return (months.map (accruedIn (monthlyMicros subscription) startDate endDate)).sum

def accruedSubscriptionRevenue (subscriptions : List StripeSubscription) (startDate endDate : Day) : Except DateError Int := do
  let nominals ← (accruing subscriptions).mapM (fun subscription => nominalForWindow subscription startDate endDate)
  return nominals.sum

structure Posting where
  customer : Nat
  effectiveAt : Int
  billedCostMicros : Option Int
  pricingStatus : PricingStatus
  providerCostMicros : Option Int
  costingStatus : CostingStatus
deriving DecidableEq, Repr

def utcDayStart (ordinal : Int) : Int := ordinal * dayMicros

structure CostTotals where
  providerCostMicros : Int
  unresolvedEventCount : Int
  billedCostMicros : Int
  unpricedEventCount : Int
  postingCount : Int
deriving DecidableEq, Repr

-- get_customer_cost_totals, over [opens, closes) in UTC days.
def customerCostTotals (postings : List Posting) (opens closes : Int) : CostTotals :=
  let selected := postings.filter (fun posting => within posting.effectiveAt (utcDayStart opens, utcDayStart closes))
  { providerCostMicros := (selected.map (fun posting => posting.providerCostMicros.getD 0)).sum
    unresolvedEventCount := selected.countP (fun posting => decide (posting.costingStatus = .unresolved))
    billedCostMicros := (selected.map (fun posting => posting.billedCostMicros.getD 0)).sum
    unpricedEventCount := selected.countP (fun posting => decide (posting.pricingStatus = .unknown))
    postingCount := selected.length }

-- supplied_revenue_covered_periods, clipped to the window.
def coveredSpans (records : List TenantSuppliedRevenue) (startDate endDate : Day) : List (Int × Int) :=
  records.filterMap (fun record =>
    record.periodEnd.bind (fun closes =>
      if record.periodStart < endDate ∧ startDate < closes then
        some (max record.periodStart.number startDate.number, min closes.number endDate.number)
      else none))

def usageRevenueOutsideCover (records : List TenantSuppliedRevenue) (postings : List Posting) (startDate endDate : Day)
    (billedOverWindow : Int) : Int :=
  let spans := oldestFirst (fun span => toLex span) (coveredSpans records startDate endDate)
  if spans = [] then billedOverWindow
  else ((gapsFrom endDate.number startDate.number spans).map
    (fun gap => (customerCostTotals postings gap.1 gap.2).billedCostMicros)).sum

structure Margin where
  foreignCurrencySubscriptionCount : Int
  subscriptionRevenueMicros : Int
  suppliedRevenueMicros : Int
  usageBilledMicros : Int
  usageRevenueMicros : Int
  providerCostMicros : Int
  unresolvedEventCount : Int
  unpricedEventCount : Int
  totalRevenueMicros : Int
  grossMarginMicros : Int
  postingCount : Int
deriving DecidableEq, Repr

structure Books where
  subscriptions : List StripeSubscription
  supplied : List TenantSuppliedRevenue
  postings : List Posting

def Books.of (books : Books) (customer : Nat) : Books where
  subscriptions := books.subscriptions.filter (fun subscription => decide (subscription.customer = customer))
  supplied := books.supplied.filter (fun record => decide (record.customer = customer))
  postings := books.postings.filter (fun posting => decide (posting.customer = customer))

def computeLive (books : Books) (startDate endDate : Day) : Except DateError Margin := do
  let costs := customerCostTotals books.postings startDate.number endDate.number
  let subscriptionRevenue ← accruedSubscriptionRevenue books.subscriptions startDate endDate
  let suppliedRevenue := attributedTotal books.supplied startDate endDate .recognised
  let usageRevenue := usageRevenueOutsideCover books.supplied books.postings startDate endDate costs.billedCostMicros
  let totalRevenue := subscriptionRevenue + suppliedRevenue + usageRevenue
  return {
    foreignCurrencySubscriptionCount := (foreignCurrency books.subscriptions).length
    subscriptionRevenueMicros := subscriptionRevenue
    suppliedRevenueMicros := suppliedRevenue
    usageBilledMicros := costs.billedCostMicros
    usageRevenueMicros := usageRevenue
    providerCostMicros := costs.providerCostMicros
    unresolvedEventCount := costs.unresolvedEventCount
    unpricedEventCount := costs.unpricedEventCount
    totalRevenueMicros := totalRevenue
    grossMarginMicros := totalRevenue - costs.providerCostMicros
    postingCount := costs.postingCount }

inductive RevenueSource where
  | subscription
  | tenantSupplied
deriving DecidableEq, Repr

structure Contribution where
  window : Day × Day
  customer : Nat
  source : RevenueSource
  amountMicros : Int
deriving DecidableEq

def suppliedContributions (records : List TenantSuppliedRevenue) (basis : RevenueBasis) (window : Day × Day) : List Contribution :=
  (records.filter (fun record => record.contributes window.1 window.2 basis)).map (fun record =>
    ⟨window, record.customer, .tenantSupplied, record.attributedMicros window.1 window.2 basis⟩)

def subscriptionContributions (subscriptions : List StripeSubscription) (window : Day × Day) :
    Except DateError (List Contribution) := do
  let accrued ← subscriptions.mapM (fun subscription => do
    let nominal ← nominalForWindow subscription window.1 window.2
    return (⟨window, subscription.customer, .subscription, nominal⟩ : Contribution))
  return accrued.filter (fun row => decide (row.amountMicros ≠ 0))

-- revenue_contributions: the rows of the database are read once for the span
-- of all the windows.
def revenueContributions (books : Books) (windows : List (Day × Day)) (basis : RevenueBasis) (customerIds : Option (List Nat)) :
    Except DateError (List Contribution) := do
  let wanted := fun customer => customerIds.all (fun customers => decide (customer ∈ customers))
  let supplied := books.supplied.filter (fun record => wanted record.customer &&
    windows.any (fun window => decide (record.periodStart < window.2)) &&
    record.periodEnd.all (fun closes => windows.any (fun window => decide (window.1 < closes))))
  let subscriptions := (accruing books.subscriptions).filter (fun subscription => wanted subscription.customer)
  let rows ← windows.mapM (fun window => do
    let accrued ← subscriptionContributions subscriptions window
    return suppliedContributions supplied basis window ++ accrued)
  return rows.flatten

end Ubb.Economics
