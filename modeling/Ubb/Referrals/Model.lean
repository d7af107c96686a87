import Ubb.Library.Agents
import Ubb.Library.Runs
import Ubb.Pricing.Resolution
import Ubb.TenantBilling.Fees
import Ubb.Work.Model

set_option autoImplicit false

-- apps/referrals: what a referral earns, event by event and month by month,
-- and what of it is paid out.
namespace Ubb.Referrals

open Ubb.Library
open Ubb.Pricing (nearestMicro)
open Ubb.TenantBilling (Decimal roundContext precision)
open Ubb.Work (CostingStatus PricingStatus)

inductive RewardType where
  | flatFee
  | revenueShare
  | profitShare
deriving DecidableEq, Repr

inductive ReferralStatus where
  | active
  | expired
  | revoked
deriving DecidableEq, Repr

-- The programme's terms as they stood when the customer was referred.
structure SnapshotTerms where
  rewardType : RewardType
  rewardValue : Decimal
  maxRewardMicros : Option Int
  estimatedCostPercentage : Option Decimal
deriving DecidableEq, Repr

structure Referral where
  snapshot : SnapshotTerms
  rewardWindowEndsAt : Option Int
  status : ReferralStatus
  flatFeePaid : Bool
deriving DecidableEq, Repr

structure RewardAccumulator where
  totalEarnedMicros : Int
  totalReferredSpendMicros : Int
  rewardedPostingCount : Nat
  lastPayoutAmountMicros : Int
deriving DecidableEq, Repr

def newAccumulator : RewardAccumulator := ⟨0, 0, 0, 0⟩

inductive CalculationMethod where
  | actualCost
  | estimatedCost
  | flatFee
deriving DecidableEq, Repr

structure RewardLedgerEntry where
  periodStart : Int
  periodEnd : Int
  referredSpendMicros : Int
  rawCostMicros : Int
  unresolvedEventCount : Nat
  unpricedEventCount : Nat
  rewardMicros : Int
  calculationMethod : CalculationMethod
deriving DecidableEq, Repr

def minus (left right : Decimal) : Decimal :=
  let exponent := min left.exponent right.exponent
  roundContext ⟨left.coefficient * 10 ^ (left.exponent - exponent).toNat -
    right.coefficient * 10 ^ (right.exponent - exponent).toNat, exponent⟩

-- quantize(Decimal("1"), ROUND_HALF_UP): it raises where the whole number has
-- more digits than the context keeps.
def quantizeHalfUp (value : Decimal) : Option Int :=
  let whole :=
    if 0 ≤ value.exponent then value.coefficient * 10 ^ value.exponent.toNat
    else nearestMicro value.coefficient (10 ^ (-value.exponent).toNat)
  if whole.natAbs < 10 ^ precision then some whole else none

def share (terms : SnapshotTerms) (amountMicros : Int) : Option Int :=
  (quantizeHalfUp ((Decimal.mk amountMicros 0).times terms.rewardValue)).map (max 0)

def profitReward (terms : SnapshotTerms) (profit : Int) : Option Int :=
  if profit ≤ 0 then some 0 else share terms profit

def estimatedProfit (costMicros : Int) (percentage : Decimal) : Option Int :=
  quantizeHalfUp (minus ⟨costMicros, 0⟩ ((Decimal.mk costMicros 0).times percentage))

def calculateReward (terms : SnapshotTerms) (costMicros : Int) (rawCostMicros : Option Int) : Option Int :=
  match terms.rewardType with
  | .flatFee => some terms.rewardValue.toInt
  | .revenueShare => share terms costMicros
  | .profitShare =>
      match rawCostMicros, terms.estimatedCostPercentage with
      | some raw, _ => profitReward terms (costMicros - raw)
      | none, some percentage => (estimatedProfit costMicros percentage).bind (profitReward terms)
      | none, none => some 0

structure PostingCost where
  billedCostMicros : Option Int
  pricingStatus : PricingStatus
  providerCostMicros : Option Int
  costingStatus : CostingStatus
deriving DecidableEq, Repr

structure PeriodTotals where
  totalSpend : Int
  totalRawCost : Int
  totalReward : Int
  hasActualCost : Bool
  unresolvedEvents : Nat
  unpricedEvents : Nat
deriving DecidableEq, Repr

def PeriodTotals.take (terms : SnapshotTerms) (totals : PeriodTotals) (event : PostingCost) : Option PeriodTotals := do
  let cost := event.billedCostMicros.getD 0
  let reward ← calculateReward terms cost event.providerCostMicros
  return {
    totalSpend := totals.totalSpend + cost
    totalRawCost := totals.totalRawCost + event.providerCostMicros.getD 0
    totalReward := totals.totalReward + reward
    hasActualCost := totals.hasActualCost || event.providerCostMicros.isSome
    unresolvedEvents := totals.unresolvedEvents +
      (decide (event.providerCostMicros = none) && decide (event.costingStatus = .unresolved)).toNat
    unpricedEvents := totals.unpricedEvents +
      (decide (event.billedCostMicros = none) && decide (event.pricingStatus = .unknown)).toNat }

def periodTotals (terms : SnapshotTerms) (events : List PostingCost) : Option PeriodTotals :=
  events.foldlM (PeriodTotals.take terms) ⟨0, 0, 0, false, 0, 0⟩

def otherEarned (ledger : List RewardLedgerEntry) (periodStart : Int) : Int :=
  ((ledger.filter (fun entry => decide (entry.periodStart ≠ periodStart))).map RewardLedgerEntry.rewardMicros).sum

def totalEarned (ledger : List RewardLedgerEntry) : Int := (ledger.map RewardLedgerEntry.rewardMicros).sum

def totalSpend (ledger : List RewardLedgerEntry) : Int := (ledger.map RewardLedgerEntry.referredSpendMicros).sum

def cappedReward (terms : SnapshotTerms) (ledger : List RewardLedgerEntry) (periodStart totalReward : Int) : Int :=
  match terms.maxRewardMicros with
  | some most => min totalReward (max 0 (most - otherEarned ledger periodStart))
  | none => totalReward

def calculationMethod (terms : SnapshotTerms) (totals : PeriodTotals) : CalculationMethod :=
  if totals.hasActualCost then .actualCost else if terms.rewardType = .flatFee then .flatFee else .estimatedCost

def periodEntry (terms : SnapshotTerms) (ledger : List RewardLedgerEntry) (periodStart periodEnd : Int)
    (events : List PostingCost) : Option RewardLedgerEntry := do
  let totals ← periodTotals terms events
  if totals.totalSpend = 0 then none
  else return {
    periodStart := periodStart
    periodEnd := periodEnd
    referredSpendMicros := totals.totalSpend
    rawCostMicros := totals.totalRawCost
    unresolvedEventCount := totals.unresolvedEvents
    unpricedEventCount := totals.unpricedEvents
    rewardMicros := cappedReward terms ledger periodStart totals.totalReward
    calculationMethod := calculationMethod terms totals }

def updateOrCreate (ledger : List RewardLedgerEntry) (entry : RewardLedgerEntry) : List RewardLedgerEntry :=
  if ledger.any (fun held => decide (held.periodStart = entry.periodStart)) then
    updateRow RewardLedgerEntry.periodStart entry.periodStart (fun _ => entry) ledger
  else ledger ++ [entry]

structure UsageRecorded where
  costMicros : Option Int
  providerCostMicros : Option Int
deriving DecidableEq, Repr

inductive Announcement where
  | rewardEarned (rewardMicros : Int)
  | referralExpired (totalEarnedMicros : Int)
  | payoutDue (payoutAmountMicros : Int)
deriving DecidableEq, Repr

def Announcement.payout : Announcement → Option Int
  | .payoutDue amount => some amount
  | _ => none

inductive HandlerStage where
  | read (referral : Referral)
  | finished
deriving DecidableEq, Repr

-- A reconciliation of one period between its statements, each of them a
-- transaction of its own.
inductive ReconcileStage where
  | computed (entry : RewardLedgerEntry)
  | written
  | earned (totalEarned : Int)
  | summed (totalEarned totalSpend : Int)
  | finished
deriving DecidableEq, Repr

structure World where
  referral : Referral
  accumulator : Option RewardAccumulator
  ledger : List RewardLedgerEntry
  handlers : List (Agent UsageRecorded HandlerStage)
  reconciliations : List (Agent Int ReconcileStage)
  announced : List Announcement
deriving DecidableEq, Repr

def World.payouts (world : World) : List Int := world.announced.filterMap Announcement.payout

def World.earned (world : World) : Int := (world.accumulator.map RewardAccumulator.totalEarnedMicros).getD 0

def World.lastPayout (world : World) : Int := (world.accumulator.map RewardAccumulator.lastPayoutAmountMicros).getD 0

-- attribute_referral opens the accumulator with the referral.
def attributed (terms : SnapshotTerms) (rewardWindowEndsAt : Option Int) : World where
  referral := ⟨terms, rewardWindowEndsAt, .active, false⟩
  accumulator := some newAccumulator
  ledger := []
  handlers := []
  reconciliations := []
  announced := []

def World.setStatus (world : World) (status : ReferralStatus) : World :=
  { world with referral := { world.referral with status := status } }

-- The handler goes on with a price that is known and not zero; it refuses a
-- negative one, with nothing written.
def World.takeUp (world : World) (event : UsageRecorded) : World :=
  if 0 < event.costMicros.getD 0 && decide (world.referral.status = .active) then
    { world with handlers := joined world.handlers event (.read world.referral) }
  else world

def RewardAccumulator.credit (accumulator : RewardAccumulator) (rewardMicros costMicros : Int) : RewardAccumulator :=
  { accumulator with
    totalEarnedMicros := accumulator.totalEarnedMicros + rewardMicros
    totalReferredSpendMicros := accumulator.totalReferredSpendMicros + costMicros
    rewardedPostingCount := accumulator.rewardedPostingCount + 1 }

-- The accumulator is locked, or created; a cap that is reached credits nothing.
def accumulate (terms : SnapshotTerms) (held : Option RewardAccumulator) (costMicros rewardMicros : Int) :
    RewardAccumulator × Option Int :=
  let accumulator := held.getD newAccumulator
  match terms.maxRewardMicros with
  | some most =>
      let remaining := most - accumulator.totalEarnedMicros
      if remaining ≤ 0 then (accumulator, none)
      else
        let granted := min rewardMicros remaining
        (accumulator.credit granted costMicros, some granted)
  | none => (accumulator.credit rewardMicros costMicros, some rewardMicros)

def World.credited (world : World) (terms : SnapshotTerms) (costMicros rewardMicros : Int) : World :=
  match accumulate terms world.accumulator costMicros rewardMicros with
  | (accumulator, none) => { world with accumulator := some accumulator }
  | (accumulator, some granted) =>
      { world with
        accumulator := some accumulator
        referral := if terms.rewardType = .flatFee then { world.referral with flatFeePaid := true } else world.referral
        announced := world.announced ++ [.rewardEarned granted] }

def Referral.windowPassed (referral : Referral) (now : Int) : Bool :=
  referral.rewardWindowEndsAt.any (fun endsAt => decide (endsAt < now))

def World.handle (world : World) (referral : Referral) (event : UsageRecorded) (now : Int) : World :=
  if referral.windowPassed now then world.setStatus .expired
  else if referral.snapshot.rewardType = .flatFee ∧ referral.flatFeePaid = true then world
  else
    let costMicros := event.costMicros.getD 0
    match calculateReward referral.snapshot costMicros event.providerCostMicros with
    | none => world
    | some rewardMicros => if rewardMicros ≤ 0 then world else world.credited referral.snapshot costMicros rewardMicros

def World.finishHandler (world : World) (id : Nat) (now : Int) : World :=
  match agentNamed world.handlers id with
  | some ⟨_, event, .read referral⟩ =>
      { world.handle referral event now with handlers := moved world.handlers id .finished }
  | _ => world

-- reconcile_all_referrals lists the active ones before: by now the referral
-- may have any status.
def World.reconcile (world : World) (periodStart periodEnd : Int) (events : List PostingCost) : World :=
  match periodEntry world.referral.snapshot world.ledger periodStart periodEnd events with
  | some entry => { world with reconciliations := joined world.reconciliations periodStart (.computed entry) }
  | none => world

def World.goOn (world : World) (id : Nat) (stage : ReconcileStage) : World :=
  { world with reconciliations := moved world.reconciliations id stage }

def RewardAccumulator.correct (earned spend : Int) (accumulator : RewardAccumulator) : RewardAccumulator :=
  { accumulator with totalEarnedMicros := earned, totalReferredSpendMicros := spend }

-- The next statement of a reconciliation: the ledger's row, the two sums over
-- it, and the accumulator's correction.
def World.advance (world : World) (id : Nat) : World :=
  match agentNamed world.reconciliations id with
  | some ⟨_, _, .computed entry⟩ => { world with ledger := updateOrCreate world.ledger entry }.goOn id .written
  | some ⟨_, _, .written⟩ => world.goOn id (.earned (totalEarned world.ledger))
  | some ⟨_, _, .earned total⟩ => world.goOn id (.summed total (totalSpend world.ledger))
  | some ⟨_, _, .summed total spend⟩ =>
      { world with accumulator := world.accumulator.map (RewardAccumulator.correct total spend) }.goOn id .finished
  | _ => world

-- expire_referrals reads its referrals before it saves them one by one, so the
-- status it overwrites may be any.
def World.expire (world : World) (now : Int) : World :=
  if world.referral.windowPassed now then
    { world.setStatus .expired with announced := world.announced ++ [.referralExpired world.earned] }
  else world

def World.revoke (world : World) : World :=
  if world.referral.status = .revoked then world else world.setStatus .revoked

def minPayoutMicros : Int := 1000000

-- What emit_referral_payouts does under the accumulator's lock: the query
-- before it only chooses what to lock.
def World.emitPayout (world : World) : World :=
  match world.accumulator with
  | some locked =>
      let actualPayout := locked.totalEarnedMicros - locked.lastPayoutAmountMicros
      if actualPayout < minPayoutMicros then world
      else
        { world with
          accumulator := some { locked with lastPayoutAmountMicros := locked.totalEarnedMicros }
          announced := world.announced ++ [.payoutDue actualPayout] }
  | none => world

inductive Event where
  | takeUp (event : UsageRecorded)
  | finishHandler (id : Nat) (now : Int)
  | reconcile (periodStart periodEnd : Int) (events : List PostingCost)
  | advance (id : Nat)
  | expire (now : Int)
  | revoke
  | emitPayout

def step (world : World) : Event → World
  | .takeUp event => world.takeUp event
  | .finishHandler id now => world.finishHandler id now
  | .reconcile periodStart periodEnd events => world.reconcile periodStart periodEnd events
  | .advance id => world.advance id
  | .expire now => world.expire now
  | .revoke => world.revoke
  | .emitPayout => world.emitPayout

end Ubb.Referrals
