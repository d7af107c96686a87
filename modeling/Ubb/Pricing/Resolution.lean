import Ubb.Pricing.Ladder
import Ubb.Pricing.Receipts

set_option autoImplicit false

-- PricingService._compute: cost, then status, then price, then the markup rung,
-- answered as one receipt.
namespace Ubb.Pricing

open Library
open Work (CostingStatus PricingStatus PricingMode)

inductive AmountOf where
  | component (name : SectionName) (measurementKey quantity : String) (rule : Nat)
  | costTotal
  | priceTotal
  | margin (markupMicroPercent : Option Int) (basisMicros : Int)
deriving DecidableEq, Repr

inductive PricingRefusal where
  | pastTheMoneyBound (what : AmountOf)
  | malformedQuantity (refused : NotAnExactDecimal)
  | denominatorNotPositive (denominator : Int)
  | methodlessRule
  | shape (refused : ReceiptShapeError)
deriving DecidableEq, Repr

def fitsAMoneyColumn (amountMicros : Int) : Bool := fitsBigint amountMicros

def withinTheMoneyBound (amount : Int) (what : AmountOf) : Except PricingRefusal Int :=
  if fitsAMoneyColumn amount then pure amount else throw (.pastTheMoneyBound what)

def nearestMicro (numerator denominator : Int) : Int :=
  let magnitude := (numerator.natAbs + denominator / 2) / denominator
  if numerator < 0 then -magnitude else magnitude

def roundCharge (numerator denominator : Int) : Except PricingRefusal Int :=
  if denominator ≤ 0 then throw (.denominatorNotPositive denominator)
  else pure (nearestMicro numerator denominator)

def Rate.compute (rate : Rate) (units : String) : Except PricingRefusal Int :=
  match rate.terms.rateStructure with
  | .fixedComponent => pure rate.terms.fixedMicros
  | .perUnit => do
    let parts ← (exactParts units).mapError .malformedQuantity
    let charge ← roundCharge (parts.sign * parts.digits * rate.terms.ratePerUnitMicros)
      (rate.terms.unitQuantity * 10 ^ parts.scale)
    pure (charge + rate.terms.fixedMicros)

def component (name : SectionName) (measurementKey quantity : String) (card : Rate) :
    Except PricingRefusal Component := do
  let computed ← card.compute quantity
  let micros ← withinTheMoneyBound computed (.component name measurementKey quantity card.id)
  pure {
    measurementKey := measurementKey
    units := quantity
    rateStructure := card.terms.rateStructure
    ratePerUnitMicros := card.terms.ratePerUnitMicros
    unitQuantity := card.terms.unitQuantity
    fixedMicros := card.terms.fixedMicros
    micros := micros }

structure ResolvedMarkup where
  markupMicroPercent : Int
  source : MarkupRung
  sourceId : Nat
deriving DecidableEq, Repr

def ResolvedMarkup.calculateMarkupMicros (markup : ResolvedMarkup) (providerCostMicros : Int) : Int :=
  nearestMicro (providerCostMicros * markup.markupMicroPercent) 100000000

def ResolvedMarkup.appliedTo (markup : ResolvedMarkup) (providerCostMicros : Int) : Int :=
  providerCostMicros + markup.calculateMarkupMicros providerCostMicros

-- event_types/costing.py: what the last publication says about costing.
structure CostDeclaration where
  costingMethod : CostingMethod
  declaresNoCost : Bool
  reportedCostSourceKind : Option SourceKind
  declaredQuantityCodes : List String
  providerKey : String
deriving DecidableEq, Repr

-- An empty key is not a name anybody can decide about.
def isUndeclared (declaredCodes : Option (List String)) (measurementKey : String) : Bool :=
  declaredCodes.any (fun codes => measurementKey ≠ "" && !codes.contains measurementKey)

structure CostLines where
  components : List Component
  rateIds : List (String × Nat)
  micros : Int
  uncosted : List (String × String)
  undeclared : List (String × String)

def noCostLines : CostLines := ⟨[], [], 0, [], []⟩

-- The bag's keys are distinct, so storing a line under its key appends it.
def costLines (declaredCodes : Option (List String)) (costRule : String → Option Rate) :
    List (String × String) → CostLines → Except PricingRefusal CostLines
  | [], lines => pure lines
  | (measurementKey, units) :: rest, lines =>
    if isUndeclared declaredCodes measurementKey = true then
      costLines declaredCodes costRule rest
        { lines with undeclared := lines.undeclared ++ [(measurementKey, units)] }
    else match costRule measurementKey with
      | none =>
        costLines declaredCodes costRule rest
          { lines with uncosted := lines.uncosted ++ [(measurementKey, units)] }
      | some card => do
        let line ← component .costing measurementKey units card
        costLines declaredCodes costRule rest
          { lines with
            components := lines.components ++ [line]
            rateIds := lines.rateIds ++ [(measurementKey, card.id)]
            micros := lines.micros + line.micros }

structure CostSide where
  computedMicros : Int
  method : Option CostingMethod
  status : CostingStatus
  unresolvedReason : Option UnresolvedReason
  reportedSource : Option (Option SourceKind)
  components : List Component
  rateIds : List (String × Nat)
  uncosted : List (String × String)
  undeclared : List (String × String)

def calculatedCost (declaredCodes : Option (List String)) (costRule : String → Option Rate)
    (measurements : List (String × String)) : Except PricingRefusal CostSide := do
  let lines ← costLines declaredCodes costRule measurements noCostLines
  let micros ← withinTheMoneyBound lines.micros .costTotal
  if lines.undeclared ≠ [] ∨ lines.uncosted ≠ [] then
    let reason : UnresolvedReason :=
      if lines.undeclared ≠ [] then .measurementNotDeclared else .costRateMissing
    pure ⟨micros, none, .unresolved, some reason, none, lines.components, lines.rateIds, lines.uncosted,
      lines.undeclared⟩
  else
    pure ⟨micros, some .calculated, .known, none, none, lines.components, lines.rateIds, [], []⟩

def costSide (measurements : List (String × String)) (callerProviderCost : Option Int)
    (reportedCostSourceKind : Option SourceKind) (namesAnEventType : Bool)
    (declaration : Option CostDeclaration) (costRule : String → Option Rate) :
    Except PricingRefusal CostSide :=
  match callerProviderCost with
  | some stated =>
    pure ⟨stated, some .reported, .known, none, some reportedCostSourceKind, [], [], [], []⟩
  | none =>
    match declaration with
    | none =>
      if namesAnEventType = true then
        pure ⟨0, none, .unresolved, some .eventTypeNotDeclared, none, [], [], measurements, []⟩
      else calculatedCost none costRule measurements
    | some declared =>
      if declared.declaresNoCost = true then pure ⟨0, none, .notApplicable, none, none, [], [], [], []⟩
      else if declared.costingMethod = .reported then
        pure ⟨0, none, .unresolved, some .reportedCostMissing, none, [], [], [], []⟩
      else calculatedCost (some declared.declaredQuantityCodes) costRule measurements

-- PRICE_REASON_OF_A_HELD_NAME, whose keys are REASONS_A_NAME_IS_HELD.
def priceReasonOfAHeldName : UnresolvedReason → Option PricingStatusReason
  | .eventTypeNotDeclared => some .eventTypeNotDeclared
  | .measurementNotDeclared => some .measurementNotDeclared
  | .reportedCostMissing | .costRateMissing => none

def notApplicableReasonFor (soldForOneAgreedPrice : Bool) : Option NotApplicableReason :=
  if soldForOneAgreedPrice then some .fixedTaskPricing else none

def aMarginHasNoBasis (costingStatus : CostingStatus) : Bool := decide (costingStatus = .unresolved)

structure Priced where
  billed : Option Int
  method : Option PricingMethod
  status : PricingStatus
deriving DecidableEq, Repr

def pricedByRules (rules : List Rate) (totalMicros : Int) (costingStatus : CostingStatus) :
    Except PricingRefusal Priced :=
  if rules.any (fun rule => rule.terms.pricingMethod == none) = true then throw .methodlessRule
  else if rules.any (fun rule => rule.terms.pricingMethod == some .marginOverCost) = true then
    if aMarginHasNoBasis costingStatus = true then pure ⟨none, none, .waived⟩
    else pure ⟨none, none, .unknown⟩
  else pure ⟨some totalMicros, some .directEventPrice, .known⟩

def pricedByMarkup (markup : Option ResolvedMarkup) (basisMicros : Int) (costingStatus : CostingStatus) :
    Priced :=
  match markup with
  | none => ⟨none, none, .unknown⟩
  | some resolved =>
    if aMarginHasNoBasis costingStatus = true then ⟨none, none, .waived⟩
    else ⟨some (resolved.appliedTo basisMicros), some .marginOverCost, .known⟩

structure PriceLines where
  matched : List Rate
  components : List Component
  rateIds : List (String × Nat)
  micros : Int

def noPriceLines : PriceLines := ⟨[], [], [], 0⟩

def priceLines (priceRule : String → Option Rate) :
    List (String × String) → PriceLines → Except PricingRefusal PriceLines
  | [], lines => pure lines
  | (measurementKey, units) :: rest, lines =>
    match priceRule measurementKey with
    | none => priceLines priceRule rest lines
    | some card => do
      let line ← component .pricing measurementKey units card
      priceLines priceRule rest {
        matched := lines.matched ++ [card]
        components := lines.components ++ [line]
        rateIds := lines.rateIds ++ [(measurementKey, card.id)]
        micros := lines.micros + line.micros }

def sortedItems (measurements : List (String × String)) : List (String × String) :=
  measurements.insertionSort (fun left right => left.1 ≤ right.1)

structure PriceSide where
  priced : Priced
  notApplicableReason : Option NotApplicableReason
  statusReason : Option PricingStatusReason
  components : List Component
  rateIds : List (String × Nat)
  markup : Option ResolvedMarkup

-- The rules that matched decide together; the markup rung answers only where
-- none did.
def ladderPrice (lines : PriceLines) (markup : Option ResolvedMarkup) (cost : CostSide) :
    Except PricingRefusal (Priced × Option ResolvedMarkup) :=
  if lines.matched ≠ [] then do
    let priced ← pricedByRules lines.matched lines.micros cost.status
    pure (priced, none)
  else do
    let priced := pricedByMarkup markup cost.computedMicros cost.status
    match priced.billed with
    | none => pure (priced, markup)
    | some billed =>
      let _ ← withinTheMoneyBound billed (.margin (markup.map ResolvedMarkup.markupMicroPercent) cost.computedMicros)
      pure (priced, markup)

-- A negative price is exact and no rail can carry it, so it is unknown with a
-- reason. Decided on the whole and never per line.
def carried (priced : Priced) : Priced × Option PricingStatusReason :=
  if priced.status = .known ∧ priced.billed.any (· < 0) = true then
    (⟨none, none, .unknown⟩, some .negativePriceUnsupported)
  else (priced, none)

def priceSide (measurements : List (String × String)) (pricingMode : PricingMode)
    (priceRule : String → Option Rate) (markup : Option ResolvedMarkup) (cost : CostSide) :
    Except PricingRefusal PriceSide :=
  if pricingMode = .fixed then
    pure ⟨⟨none, none, .notApplicable⟩, notApplicableReasonFor true, none, [], [], none⟩
  else match cost.unresolvedReason.bind priceReasonOfAHeldName with
    | some reason => pure ⟨⟨none, none, .unknown⟩, none, some reason, [], [], none⟩
    | none => do
      let lines ← priceLines priceRule (sortedItems measurements) noPriceLines
      let _ ← withinTheMoneyBound lines.micros .priceTotal
      let (priced, resolved) ← ladderPrice lines markup cost
      pure ⟨(carried priced).1, none, (carried priced).2, lines.components, lines.rateIds, resolved⟩

def pricingEngineVersion : String := "3.0.0"

def CostSide.resolution (cost : CostSide) : CostingResolution where
  method := cost.method
  status := cost.status
  amountMicros := if cost.status = .known then some cost.computedMicros else none
  detail := {
    components := cost.components
    uncostedMeasurementKeys := keysOf cost.uncosted ++ keysOf cost.undeclared
    uncostedQuantities := cost.uncosted
    undeclaredQuantities := cost.undeclared
    unresolvedReason := cost.unresolvedReason
    reportedCostSourceKind := cost.reportedSource }

-- The markup's terms are how an amount was arrived at: present with a method.
def PriceSide.terms (price : PriceSide) (basisMicros : Int) : Option MarkupTerms :=
  match price.markup, price.priced.method with
  | some markup, some _ => some ⟨markup.markupMicroPercent, basisMicros⟩
  | _, _ => none

def PriceSide.resolution (price : PriceSide) (pricingMode : PricingMode) (basisMicros : Int) :
    PricingResolution where
  method := price.priced.method
  status := price.priced.status
  amountMicros := price.priced.billed
  detail := {
    components := price.components
    pricingMode := some pricingMode
    notApplicableReason := price.notApplicableReason
    pricingStatusReason := price.statusReason
    markup := price.terms basisMicros }

def ResolvedMarkup.asProvenance (markup : ResolvedMarkup) : Reference :=
  .rung markup.source markup.sourceId

def provenanceOf (cost : CostSide) (price : PriceSide) : List (String × Reference) :=
  [("cost_rate_ids", .ids cost.rateIds), ("price_rate_ids", .ids price.rateIds)] ++
    price.markup.toList.map (fun markup => ("markup", markup.asProvenance))

-- What _compute is called with: a closure of the source that answers from
-- configuration is here the function, or the answer, that it stands for.
structure Question where
  subject : ReceiptSubject
  currency : String
  effectiveAt : Int
  measurements : List (String × String)
  callerProviderCost : Option Int
  reportedCostSourceKind : Option SourceKind
  pricingMode : PricingMode
  namesAnEventType : Bool
  declaration : Option CostDeclaration
  costRule : String → Option Rate
  priceRule : String → Option Rate
  markup : Option ResolvedMarkup

def Question.cost (asked : Question) : Except PricingRefusal CostSide :=
  costSide asked.measurements asked.callerProviderCost asked.reportedCostSourceKind asked.namesAnEventType
    asked.declaration asked.costRule

def Question.price (asked : Question) (cost : CostSide) : Except PricingRefusal PriceSide :=
  priceSide asked.measurements asked.pricingMode asked.priceRule asked.markup cost

def compute (asked : Question) : Except PricingRefusal Receipt := do
  let cost ← asked.cost
  let price ← asked.price cost
  (buildReceipt asked.subject asked.effectiveAt asked.currency pricingEngineVersion cost.resolution
    (price.resolution asked.pricingMode cost.computedMicros) (provenanceOf cost price)).mapError .shape

end Ubb.Pricing
