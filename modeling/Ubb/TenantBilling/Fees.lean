import Ubb.Invoicing.Carry
import Ubb.Library.Ranking
import Ubb.TenantBilling.Steps

set_option autoImplicit false

namespace Ubb.TenantBilling

open Ubb.Library
open Ubb.Invoicing (minorUnits toMinor)

-- A finite decimal.Decimal: coefficient * 10 ^ exponent.
structure Decimal where
  coefficient : Int
  exponent : Int
deriving DecidableEq, Repr

-- The decimal context keeps 28 significant digits and rounds half to even.
def precision : Nat := 28

def roundSignificant (coefficient : Nat) : Nat :=
  let unit := 10 ^ (Nat.log 10 coefficient + 1 - precision)
  let kept := coefficient / unit
  let rest := coefficient % unit
  (if unit < 2 * rest ∨ unit = 2 * rest ∧ kept % 2 = 1 then kept + 1 else kept) * unit

def roundContext (value : Decimal) : Decimal :=
  { value with coefficient := value.coefficient.sign * roundSignificant value.coefficient.natAbs }

def Decimal.times (left right : Decimal) : Decimal :=
  roundContext ⟨left.coefficient * right.coefficient, left.exponent + right.exponent⟩

-- A quotient by a hundred has the digits of what it divides.
def Decimal.perCent (value : Decimal) : Decimal := { value with exponent := value.exponent - 2 }

-- int() of a Decimal cuts the fraction off.
def Decimal.toInt (value : Decimal) : Int :=
  if 0 ≤ value.exponent then value.coefficient * 10 ^ value.exponent.toNat
  else value.coefficient.tdiv (10 ^ (-value.exponent).toNat)

def percentageFee (totalBilledCostMicros : Int) (percentage : Decimal) : Int :=
  ((Decimal.mk totalBilledCostMicros 0).times percentage).perCent.toInt

-- What Decimal(str(...)) makes of the configured percentage: a number, or text
-- that it or the int() behind it refuses.
inductive Percentage where
  | absent
  | finite (value : Decimal)
  | refused (text : String)
deriving DecidableEq, Repr

inductive FeeType where
  | flat
  | percentage
  | other (text : String)
deriving DecidableEq, Repr

structure ProductFeeConfig where
  product : String
  feeType : FeeType
  amountMicros : Option Int := none
  percentage : Percentage := .absent
deriving DecidableEq, Repr

structure LineItem where
  product : String
  description : String
  amountMicros : Int
deriving DecidableEq, Repr

inductive FeeError where
  | notANumber (text : String)
  | outOfRange
  | carryExists
deriving DecidableEq, Repr

def feeLine (totalBilledCostMicros : Int) (config : ProductFeeConfig) : Except FeeError (Option LineItem) :=
  match config.feeType with
  | .flat => .ok (some ⟨config.product, config.product ++ " fee (flat)", config.amountMicros.getD 0⟩)
  | .percentage =>
      match config.percentage with
      | .absent => .ok (some ⟨config.product, config.product ++ " fee (percentage)", percentageFee totalBilledCostMicros ⟨0, 0⟩⟩)
      | .finite value =>
          .ok (some ⟨config.product, config.product ++ " fee (percentage)", percentageFee totalBilledCostMicros value⟩)
      | .refused text => .error (.notANumber text)
  | .other _ => .ok none

structure FeeTerms where
  isSandbox : Bool
  configs : List ProductFeeConfig
  platformFeePercentage : Decimal
deriving DecidableEq, Repr

def calculateFees (terms : FeeTerms) (totalBilledCostMicros : Int) : Except FeeError (Int × List LineItem) :=
  if terms.isSandbox then .ok (0, [])
  else if terms.configs = [] then
    let fee := percentageFee totalBilledCostMicros terms.platformFeePercentage
    .ok (fee, [⟨"platform", "Platform fee", fee⟩])
  else do
    let lines ← terms.configs.mapM (feeLine totalBilledCostMicros)
    let lineItems := lines.filterMap id
    return ((lineItems.map LineItem.amountMicros).sum, lineItems)

structure PlatformFeeCarry where
  billingPeriod : Nat
  carriedInMicros : Int
  carriedOutMicros : Int
deriving DecidableEq, Repr

def startOf (periods : List TenantBillingPeriod) (carry : PlatformFeeCarry) : Option Date :=
  (periods.find? (fun period => period.id = carry.billingPeriod)).map TenantBillingPeriod.periodStart

def earlierCarries (period : TenantBillingPeriod) (periods : List TenantBillingPeriod) (carries : List PlatformFeeCarry) :
    List PlatformFeeCarry :=
  carries.filter (fun carry => (startOf periods carry).any (fun start => start < period.periodStart))

-- order_by("-billing_period__period_start").first()
def latestCarry (periods : List TenantBillingPeriod) (carries : List PlatformFeeCarry) : Option PlatformFeeCarry :=
  firstBest (fun carry => ((startOf periods carry).map Date.ordinal).getD 0) carries

def createCarry (carry : PlatformFeeCarry) (carries : List PlatformFeeCarry) : Except FeeError PlatformFeeCarry :=
  if carries.any (fun stored => stored.billingPeriod = carry.billingPeriod) then .error .carryExists else .ok carry

-- A sandbox tenant has no carry row, and every other tenant one for each close.
def bankFeeCarry (isSandbox : Bool) (period : TenantBillingPeriod) (exactFeeMicros : Int)
    (periods : List TenantBillingPeriod) (carries : List PlatformFeeCarry) :
    Except FeeError (Option PlatformFeeCarry × Int) :=
  if isSandbox then .ok (none, 0)
  else
    let carriedIn := ((latestCarry periods (earlierCarries period periods carries)).map
      PlatformFeeCarry.carriedOutMicros).getD 0
    let (billableMinor, carriedOut) := toMinor (exactFeeMicros + carriedIn)
    (createCarry ⟨period.id, carriedIn, carriedOut⟩ carries).map (fun carry => (some carry, billableMinor * minorUnits))

-- The platform_fee_micros column is a signed 64-bit integer.
def inMoneyRange (amountMicros : Int) : Prop := -2 ^ 63 ≤ amountMicros ∧ amountMicros < 2 ^ 63

instance (amountMicros : Int) : Decidable (inMoneyRange amountMicros) := inferInstanceAs (Decidable (_ ∧ _))

structure Closing where
  period : TenantBillingPeriod
  exactFeeMicros : Int
  platformFeeMicros : Int
  carry : Option PlatformFeeCarry
deriving DecidableEq, Repr

def closePeriodFee (terms : FeeTerms) (period : TenantBillingPeriod) (periods : List TenantBillingPeriod)
    (carries : List PlatformFeeCarry) : Except FeeError Closing := do
  let (exact, _) ← calculateFees terms period.totalBilledCostMicros
  let (carry, fee) ← bankFeeCarry terms.isSandbox period exact periods carries
  if inMoneyRange fee then return ⟨period, exact, fee, carry⟩ else throw .outOfRange

structure FeeState where
  isSandbox : Bool
  state : State
  carries : List PlatformFeeCarry
  platformFees : List (Nat × Int)
deriving DecidableEq, Repr

def newTenant (isSandbox : Bool) (clock : Date) : FeeState := ⟨isSandbox, initialState clock, [], []⟩

structure FeeEvent where
  event : Event
  configs : List ProductFeeConfig
  platformFeePercentage : Decimal
deriving DecidableEq, Repr

def closesRow (event : Event) (state : State) : Option TenantBillingPeriod :=
  match event with
  | .finish jobId =>
      match state.job jobId with
      | some ⟨_, true, loaded, .reconciled⟩ =>
          (state.period loaded.id).filter (fun row => row.status = .opened)
      | _ => none
  | _ => none

def closingOf (fees : FeeState) (request : FeeEvent) : Option (Except FeeError Closing) :=
  (closesRow request.event fees.state).map (fun row =>
    closePeriodFee ⟨fees.isSandbox, request.configs, request.platformFeePercentage⟩ row fees.state.periods fees.carries)

def Event.jobOf : Event → Option Nat
  | .finish jobId => some jobId
  | _ => none

-- A close that raises is rolled back, and its task ends.
def feeStep (fees : FeeState) (request : FeeEvent) : FeeState :=
  match closingOf fees request with
  | none => { fees with state := step fees.state request.event }
  | some (.ok closing) =>
      { fees with
        state := step fees.state request.event
        carries := fees.carries ++ closing.carry.toList
        platformFees := fees.platformFees ++ [(closing.period.id, closing.platformFeeMicros)] }
  | some (.error _) =>
      match request.event.jobOf with
      | some jobId => { fees with state := fees.state.dropJob jobId }
      | none => fees

def closings : FeeState → List FeeEvent → List Closing
  | _, [] => []
  | fees, request :: rest =>
      match closingOf fees request with
      | some (.ok closing) => closing :: closings (feeStep fees request) rest
      | _ => closings (feeStep fees request) rest

end Ubb.TenantBilling
