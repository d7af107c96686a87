import Ubb.Library.KeyedRows
import Ubb.Pricing.Resolver

set_option autoImplicit false

-- pricing/services/resolution_run.py for one posting: the question a run asks
-- of it, the answer it completes it from, and the two doors it is written by.
namespace Ubb.Resolving

open Library Pricing
open Work (CostingStatus PricingStatus PricingMode)

structure Posting where
  id : Nat
  tenant : Nat
  customer : Nat
  effectiveAt : Int
  currency : String
  selectors : Selectors
  costingStatus : CostingStatus
  providerCostMicros : Option Int
  unresolvedReason : Option UnresolvedReason
  pricingStatus : PricingStatus
  billedCostMicros : Option Int
  notApplicableReason : Option NotApplicableReason
  pricingStatusReason : Option PricingStatusReason
  pricingReceipt : Receipt
deriving DecidableEq

inductive Unrecognised where
  | eventType
  | measurementKey
deriving DecidableEq, Repr

inductive Remedy where
  | unresolved
  | mapped
  | registered
  | dismissed
deriving DecidableEq, Repr

-- A quarantined key, without the numbers it holds: a replay reads the event.
structure HeldName where
  id : Nat
  tenant : Nat
  eventId : Nat
  unrecognised : Unrecognised
  eventTypeKey : String
  measurementKey : String
  occurredAt : Int
  resolution : Remedy
  resolvedKey : String
deriving DecidableEq, Repr

def HeldName.heldName (held : HeldName) : String :=
  match held.unrecognised with
  | .eventType => held.eventTypeKey
  | .measurementKey => held.measurementKey

inductive RunRefusal where
  | pricing (refused : PricingRefusal)
  | receipt (refused : ReceiptShapeError)
  | answerNamesOneQuantityTwice (declared : String)
  | theEventNamedAnotherSupplier
  | theHeldRecordContradictsTheEvent
  | noSuchPosting
  | anAmountIsMissing
  | theDoorAndTheTableDisagree
  | alreadyResolved
  | notThisTenants
  | wrongDeclaration
  | notTheHeldName
  | notYetPublished
  | runRecorded
deriving DecidableEq, Repr

structure TenantsAnswers where
  eventTypeKey : Option String
  measurementKeys : List (String × String)
  dismissed : Bool
  undecided : Bool
deriving DecidableEq, Repr

def noAnswers : TenantsAnswers := ⟨none, [], false, false⟩

def answeredBy (answers : TenantsAnswers) (held : HeldName) : TenantsAnswers :=
  match held.resolution with
  | .unresolved => { answers with undecided := true }
  | .dismissed => { answers with dismissed := true }
  | .mapped | .registered =>
    match held.unrecognised with
    | .eventType => { answers with eventTypeKey := some held.resolvedKey }
    | .measurementKey =>
      { answers with measurementKeys := assign answers.measurementKeys held.measurementKey held.resolvedKey }

def heldOn (heldNames : List HeldName) (tenant eventId : Nat) : List HeldName :=
  heldNames.filter (fun held => held.tenant == tenant && held.eventId == eventId)

def theTenantsAnswers (heldNames : List HeldName) (tenant eventId : Nat) : TenantsAnswers :=
  (heldOn heldNames tenant eventId).foldl answeredBy noAnswers

def liftReceipt {Out : Type} (read : Except ReceiptShapeError Out) : Except RunRefusal Out :=
  read.mapError .receipt

-- The quantities under the names the tenant answered; no two may meet.
def renamedQuantities (answers : TenantsAnswers) :
    List (String × String) → List (String × String) → Except RunRefusal (List (String × String))
  | [], renamed => pure renamed
  | (name, quantity) :: rest, renamed => do
    let declared := (answers.measurementKeys.lookup name).getD name
    refuseIf (declared ∈ keysOf renamed) (.answerNamesOneQuantityTwice declared)
    renamedQuantities answers rest (renamed ++ [(declared, quantity)])

structure WhatItWas where
  eventType : String
  provider : String
  measurements : List (String × String)

def whatTheTenantSaysItWas (config : Configuration) (posting : Posting) (answers : Option TenantsAnswers) :
    Except RunRefusal WhatItWas := do
  let quantities ← liftReceipt (recordedQuantities posting.pricingReceipt)
  match answers with
  | none => pure ⟨posting.selectors .eventType, posting.selectors .provider, quantities⟩
  | some given => do
    let renamed ← renamedQuantities given quantities []
    match given.eventTypeKey with
    | none => pure ⟨posting.selectors .eventType, posting.selectors .provider, renamed⟩
    | some key =>
      pure ⟨key, ((costDeclaration config posting.tenant key).map CostDeclaration.providerKey).getD
        (posting.selectors .provider), renamed⟩

-- The cost UBB already holds is stated rather than recomputed.
def theCostTheRecordHolds (posting : Posting) : Option Int :=
  match posting.costingStatus with
  | .known => posting.providerCostMicros
  | .notApplicable => some 0
  | .unresolved => none

def subjectOf (config : Configuration) (posting : Posting) (answers : Option TenantsAnswers) :
    Except RunRefusal PricingSubject := do
  let was ← whatTheTenantSaysItWas config posting answers
  let mode ← liftReceipt (pricingModeOf posting.pricingReceipt)
  pure {
    receiptSubject := ⟨.usageEvent, posting.id⟩
    tenant := posting.tenant
    customer := some posting.customer
    selectors := fun name =>
      match name with
      | .eventType => was.eventType
      | .provider => was.provider
      | other => posting.selectors other
    measurements := was.measurements.map (fun entry => (entry.1, .text entry.2))
    currency := posting.currency
    callerProviderCost := theCostTheRecordHolds posting
    reportedCostSourceKind := none
    pricingMode := mode.getD .eventPriced
    declaration := none }

-- An unresolved cost whose record kept no quantities, unless the whole bag was
-- held with its Event Type.
def theRecordCannotAccountForACompletion (posting : Posting) : Except RunRefusal Bool :=
  if posting.costingStatus = .unresolved ∧ posting.unresolvedReason ≠ some .eventTypeNotDeclared then do
    let quantities ← liftReceipt (recordedQuantities posting.pricingReceipt)
    pure (decide (quantities = []))
  else pure false

structure Evaluation where
  costing : Bool
  pricing : Bool
  resolved : Receipt
deriving DecidableEq

def costingCompletable (posting : Posting) : Bool := decide (posting.costingStatus = .unresolved)

def pricingCompletable (posting : Posting) : Bool := decide (posting.pricingStatus = .unknown)

-- The answers are read only where the cost is held on a name.
def answersFor (heldNames : List HeldName) (posting : Posting) : Option TenantsAnswers :=
  if (posting.unresolvedReason.bind priceReasonOfAHeldName).isSome = true then
    some (theTenantsAnswers heldNames posting.tenant posting.id)
  else none

def whatARunWouldComplete (config : Configuration) (heldNames : List HeldName) (posting : Posting) :
    Except RunRefusal (Option Evaluation) :=
  if costingCompletable posting = false ∧ pricingCompletable posting = false then pure none
  else do
    let unaccountable ← theRecordCannotAccountForACompletion posting
    let answers := answersFor heldNames posting
    if unaccountable = true ∨ answers.any (fun given => given.dismissed || given.undecided) = true then pure none
    else do
      let subject ← subjectOf config posting answers
      let resolved ← (resolvePrice config subject posting.effectiveAt).mapError .pricing
      pure (some ⟨costingCompletable posting, pricingCompletable posting, resolved⟩)

abbrev Author := String × Reference

def costingOf (resolved : Receipt) : CostingResolution :=
  ⟨resolved.costing.method, resolved.costing.status, resolved.providerCostMicros, resolved.costing.detail⟩

def pricingOf (resolved : Receipt) : PricingResolution :=
  ⟨resolved.pricing.method, resolved.pricing.status, resolved.billedCostMicros, resolved.pricing.detail⟩

-- settle_provider_cost: one statement whose WHERE is the whole precondition.
def settleProviderCost (posting : Posting) (providerCostMicros : Option Int) (receipt : Receipt) :
    Except RunRefusal (Posting × Bool) :=
  match providerCostMicros with
  | none => throw .anAmountIsMissing
  | some amount =>
    if posting.providerCostMicros = none ∧ posting.costingStatus = .unresolved then
      pure ({ posting with
        providerCostMicros := some amount
        costingStatus := .known
        unresolvedReason := none
        pricingReceipt := receipt }, true)
    else if posting.costingStatus = .unresolved then throw .theDoorAndTheTableDisagree
    else pure (posting, false)

def resolveCustomerPrice (posting : Posting) (billedCostMicros : Option Int) (receipt : Receipt) :
    Except RunRefusal (Posting × Bool) :=
  match billedCostMicros with
  | none => throw .anAmountIsMissing
  | some amount =>
    if posting.billedCostMicros = none ∧ posting.pricingStatus = .unknown then
      pure ({ posting with
        billedCostMicros := some amount
        pricingStatus := .known
        pricingStatusReason := none
        pricingReceipt := receipt }, true)
    else if posting.pricingStatus = .unknown then throw .theDoorAndTheTableDisagree
    else pure (posting, false)

def settleTheCost (posting : Posting) (resolved : Receipt) (author : Author) :
    Except RunRefusal (Posting × Bool) :=
  if resolved.costing.status ≠ .known then pure (posting, false)
  else do
    let receipt ← liftReceipt (completedReceipt posting.pricingReceipt (some (costingOf resolved)) none [author])
    settleProviderCost posting resolved.providerCostMicros receipt

def resolveThePrice (posting : Posting) (resolved : Receipt) (author : Author) :
    Except RunRefusal (Posting × Bool) :=
  if resolved.pricing.status ≠ .known then pure (posting, false)
  else do
    let receipt ← liftReceipt (completedReceipt posting.pricingReceipt none (some (pricingOf resolved)) [author])
    resolveCustomerPrice posting resolved.billedCostMicros receipt

structure Completion where
  settledCost : Bool
  resolvedPrice : Bool
  evaluation : Option Evaluation
deriving DecidableEq

def costStep (posting : Posting) (evaluation : Evaluation) (author : Author) :
    Except RunRefusal (Posting × Bool) :=
  if evaluation.costing = true then settleTheCost posting evaluation.resolved author else pure (posting, false)

def priceStep (posting : Posting) (evaluation : Evaluation) (author : Author) :
    Except RunRefusal (Posting × Bool) :=
  if evaluation.pricing = true then resolveThePrice posting evaluation.resolved author else pure (posting, false)

-- The price is completed over the row as the cost's completion left it.
def completedPosting (posting : Posting) (evaluation : Evaluation) (author : Author) :
    Except RunRefusal (Posting × Completion) := do
  let (costed, settledCost) ← costStep posting evaluation author
  let (priced, resolvedPrice) ← priceStep costed evaluation author
  pure (priced, ⟨settledCost, resolvedPrice, some evaluation⟩)

def completePosting (config : Configuration) (heldNames : List HeldName) (posting : Posting) (author : Author) :
    Except RunRefusal (Posting × Completion) := do
  match ← whatARunWouldComplete config heldNames posting with
  | none => pure (posting, ⟨false, false, none⟩)
  | some evaluation => completedPosting posting evaluation author

end Ubb.Resolving
