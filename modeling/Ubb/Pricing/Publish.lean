import Ubb.Library.KeyedRows
import Ubb.Pricing.Planner

set_option autoImplicit false

-- declare, diff, publish_declared and discard of services/book_service.py over
-- the constraints the rate and agreed-price tables hold.
namespace Ubb.Pricing

open Library

inductive IntegrityError where
  | currencyUsd
  | activeInBook
  | sitsInAtMostOneBook
  | namesOneQuantity
  | neverComposes
  | statesItsSellingMethod
  | namesADeclaration
  | validToSetOnce
  | rowMissing
  | ratePerUnitOutOfRange
  | unitQuantityOutOfRange
  | fixedOutOfRange
  | selectorTooLong
  | versionOutOfRange
  | activeAgreedPrice
  | agreedPriceNegative
  | agreedPriceOutOfRange
  | taskTypeTooLong
deriving DecidableEq, Repr

-- BigIntegerField and PositiveIntegerField.
def fitsBigint (value : Int) : Bool := -9223372036854775808 ≤ value && value ≤ 9223372036854775807

def fitsPositiveInteger (value : Nat) : Bool := value ≤ 2147483647

-- uq_rate_active_in_pricing_book and uq_rate_active_in_cost_book: two open rows
-- of one book under one key. A null column makes a key distinct from every other.
def Rate.sharesActiveKey (row other : Rate) : Bool :=
  row.validTo.isNone && other.validTo.isNone &&
    ((row.pricingBook.isSome && row.pricingBook == other.pricingBook) ||
      (row.costBook.isSome && row.costBook == other.costBook)) &&
    row.measurement.isSome &&
    row.measurement.map Measurement.id == other.measurement.map Measurement.id &&
    row.currency == other.currency && decide (row.selectors = other.selectors)

def Rate.neverComposes (row : Rate) : Bool :=
  row.terms.pricingMethod != some .marginOverCost ||
    (row.terms.ratePerUnitMicros == 0 && row.terms.fixedMicros == 0)

def Rate.statesItsSellingMethod (row : Rate) : Bool :=
  row.pricingBook.isSome == row.terms.pricingMethod.isSome

-- The CHECKs and column widths of ubb_rate, one entry a constraint.
def Rate.checks (row : Rate) : List (IntegrityError × Bool) :=
  [(.currencyUsd, row.currency == "usd"),
   (.sitsInAtMostOneBook, !(row.pricingBook.isSome && row.costBook.isSome)),
   (.namesOneQuantity, row.measurement.isSome == (row.undeclaredMeasurementKey == "")),
   (.neverComposes, row.neverComposes),
   (.statesItsSellingMethod, row.statesItsSellingMethod),
   (.ratePerUnitOutOfRange, fitsBigint row.terms.ratePerUnitMicros),
   (.unitQuantityOutOfRange, fitsBigint row.terms.unitQuantity),
   (.fixedOutOfRange, fitsBigint row.terms.fixedMicros),
   (.selectorTooLong, selectorNames.all (fun name =>
      (row.selectors name).length ≤ name.maxLength)),
   (.versionOutOfRange, fitsPositiveInteger row.bookVersionFrom)]

def TaskPrice.checks (row : TaskPrice) : List (IntegrityError × Bool) :=
  [(.agreedPriceNegative, decide (0 ≤ row.agreedPriceMicros)),
   (.agreedPriceOutOfRange, fitsBigint row.agreedPriceMicros),
   (.taskTypeTooLong, decide (row.taskType.length ≤ 64)),
   (.versionOutOfRange, fitsPositiveInteger row.bookVersionFrom)]

def TaskPrice.sharesActiveKey (row other : TaskPrice) : Bool :=
  row.validTo.isNone && other.validTo.isNone && row.pricingBook == other.pricingBook &&
    row.kind == other.kind && row.taskType == other.taskType

def firstViolation (checks : List (IntegrityError × Bool)) : Option IntegrityError :=
  (checks.find? (fun check => !check.2)).map Prod.fst

-- An insert meets the row's own checks, the birth trigger
-- trg_rate_names_a_declaration and the two partial unique keys.
def insertRate (row : Rate) (rows : List Rate) : Except IntegrityError (List Rate) :=
  if row.measurement.isNone then throw .namesADeclaration
  else
    match firstViolation row.checks with
    | some violated => throw violated
    | none => if rows.any row.sharesActiveKey then throw .activeInBook else pure (rows ++ [row])

def insertTaskPrice (row : TaskPrice) (rows : List TaskPrice) :
    Except IntegrityError (List TaskPrice) :=
  match firstViolation row.checks with
  | some violated => throw violated
  | none => if rows.any row.sharesActiveKey then throw .activeAgreedPrice else pure (rows ++ [row])

def Rate.closeAt (row : Rate) (effectiveAt : Int) (version : Nat) : Rate :=
  { row with validTo := some effectiveAt, bookVersionTo := some version }

def TaskPrice.closeAt (row : TaskPrice) (effectiveAt : Int) (version : Nat) : TaskPrice :=
  { row with validTo := some effectiveAt, bookVersionTo := some version }

-- trg_rate_declared_transitions: valid_to moves from nothing to a moment, once.
def closeRate (effectiveAt : Int) (version id : Nat) (rows : List Rate) :
    Except IntegrityError (List Rate) :=
  match rows.find? (fun row => decide (row.id = id)) with
  | none => throw .rowMissing
  | some row =>
    if row.validTo.isSome && row.validTo != some effectiveAt then throw .validToSetOnce
    else
      pure (updateRow Rate.id id (fun row => row.closeAt effectiveAt version) rows)

def closeTaskPrice (effectiveAt : Int) (version id : Nat) (rows : List TaskPrice) :
    Except IntegrityError (List TaskPrice) :=
  match rows.find? (fun row => decide (row.id = id)) with
  | none => throw .rowMissing
  | some row =>
    if row.validTo.isSome && row.validTo != some effectiveAt then throw .validToSetOnce
    else
      pure (updateRow TaskPrice.id id (fun row => row.closeAt effectiveAt version) rows)

structure Written where
  tables : Tables
  openedRules : List Nat
  closedRules : List Nat
  openedAgreedPrices : List Nat
  closedAgreedPrices : List Nat

-- A reprice copies _RATE_COPY_FIELDS off the outgoing rule; that list does not
-- hold undeclared_measurement_key, so the column is born with its default.
def incomingRate (currency : String) (book : Book) (effectiveAt : Int) (id : Nat)
    (change : PlannedChange) (terms : Terms) : Rate :=
  match change.outgoing with
  | some outgoing =>
    { outgoing with
      id := id
      undeclaredMeasurementKey := ""
      terms := terms
      bookVersionFrom := book.version + 1
      bookVersionTo := none
      validFrom := effectiveAt
      validTo := none }
  | none =>
    { id := id
      tenant := book.tenant
      customer := none
      selectors := change.selectors
      measurement := change.declaration
      undeclaredMeasurementKey := ""
      terms := terms
      currency := currency
      pricingBook := match book.ref with | .pricing held => some held | .cost _ => none
      costBook := match book.ref with | .pricing _ => none | .cost held => some held
      lineage := id
      bookVersionFrom := book.version + 1
      bookVersionTo := none
      validFrom := effectiveAt
      validTo := none }

def closeOutgoingRate (book : Book) (effectiveAt : Int) (written : Written) :
    Option Rate → Except IntegrityError Written
  | none => pure written
  | some outgoing => do
    let rates ← closeRate effectiveAt book.version outgoing.id written.tables.rates
    pure { written with
      tables := { written.tables with rates := rates }
      closedRules := written.closedRules ++ [outgoing.id] }

def openIncomingRate (book : Book) (effectiveAt : Int) (change : PlannedChange)
    (written : Written) : Option Terms → Except IntegrityError Written
  | none => pure written
  | some terms => do
    let tables := written.tables
    let incoming := incomingRate (tables.ruleCurrency book) book effectiveAt tables.nextId
      change terms
    let rates ← insertRate incoming tables.rates
    pure { written with
      tables := { tables with nextId := tables.nextId + 1, rates := rates }
      openedRules := written.openedRules ++ [incoming.id] }

def publishARate (book : Book) (effectiveAt : Int) (written : Written) (change : PlannedChange) :
    Except IntegrityError Written := do
  let closed ← closeOutgoingRate book effectiveAt written change.outgoing
  openIncomingRate book effectiveAt change closed change.terms

def incomingTaskPrice (book : Book) (pricingBook : Nat) (effectiveAt : Int) (id : Nat)
    (change : PlannedAgreedPrice) (amount : Int) : TaskPrice where
  id := id
  tenant := book.tenant
  pricingBook := pricingBook
  kind := .task
  taskType := change.taskType
  agreedPriceMicros := amount
  lineage := (change.outgoing.map TaskPrice.lineage).getD id
  bookVersionFrom := book.version + 1
  bookVersionTo := none
  validFrom := effectiveAt
  validTo := none

def closeOutgoingTaskPrice (book : Book) (effectiveAt : Int) (written : Written) :
    Option TaskPrice → Except IntegrityError Written
  | none => pure written
  | some outgoing => do
    let lines ← closeTaskPrice effectiveAt book.version outgoing.id written.tables.taskPrices
    pure { written with
      tables := { written.tables with taskPrices := lines }
      closedAgreedPrices := written.closedAgreedPrices ++ [outgoing.id] }

-- An agreed price is planned in a Pricing Book only, so the cost side opens none.
def openIncomingTaskPrice (book : Book) (effectiveAt : Int) (change : PlannedAgreedPrice)
    (written : Written) : Option Int → Except IntegrityError Written
  | none => pure written
  | some amount =>
    match book.ref with
    | .cost _ => pure written
    | .pricing held => do
      let tables := written.tables
      let incoming := incomingTaskPrice book held effectiveAt tables.nextId change amount
      let lines ← insertTaskPrice incoming tables.taskPrices
      pure { written with
        tables := { tables with nextId := tables.nextId + 1, taskPrices := lines }
        openedAgreedPrices := written.openedAgreedPrices ++ [incoming.id] }

-- _publish_an_agreed_price
def publishAnAgreedPrice (book : Book) (effectiveAt : Int) (written : Written)
    (change : PlannedAgreedPrice) : Except IntegrityError Written := do
  let closed ← closeOutgoingTaskPrice book effectiveAt written change.outgoing
  openIncomingTaskPrice book effectiveAt change closed change.amount

def publishPlanned (book : Book) (effectiveAt : Int) (written : Written) :
    Planned → Except IntegrityError Written
  | .rate change => publishARate book effectiveAt written change
  | .agreedPrice change => publishAnAgreedPrice book effectiveAt written change

def saveVersion (ref : BookRef) (version : Nat) (tables : Tables) :
    Except IntegrityError Tables :=
  if fitsPositiveInteger version then
    match ref with
    | .pricing id =>
      pure { tables with
        pricingBooks := updateRow PricingBook.id id
          (fun book => { book with version := version }) tables.pricingBooks }
    | .cost id =>
      pure { tables with
        costBooks := updateRow CostBook.id id
          (fun book => { book with version := version }) tables.costBooks }
  else throw .versionOutOfRange

def PricingBook.shelf (book : PricingBook) : PricingBook := { book with version := 0 }

def markPublished (written : Written) (record : PricingBookPublish) : PricingBookPublish :=
  { record with
    published := true
    openedRules := written.openedRules
    closedRules := written.closedRules
    openedAgreedPrices := written.openedAgreedPrices
    closedAgreedPrices := written.closedAgreedPrices }

inductive Refusal where
  | notFound
  | alreadyPublished
  | plan (refusal : PlanRefusal)
  | integrity (violated : IntegrityError)
deriving DecidableEq

def liftPlan {Out : Type} (answer : Except PlanRefusal Out) : Except Refusal Out :=
  answer.mapError .plan

def liftIntegrity {Out : Type} (answer : Except IntegrityError Out) : Except Refusal Out :=
  answer.mapError .integrity

def writePublish (book : Book) (record : PricingBookPublish) (planned : List Planned)
    (tables : Tables) : Except IntegrityError Tables := do
  let written ← planned.foldlM (publishPlanned book record.effectiveAt) ⟨tables, [], [], [], []⟩
  let saved ← saveVersion book.ref (book.version + 1) written.tables
  pure { saved with
    publishes := updateRow PricingBookPublish.id record.id (markPublished written)
      saved.publishes }

-- The transaction re-plans against the locked book; any refusal rolls it back.
def publishDeclared (tables : Tables) (recordId : Nat) : Except Refusal Tables :=
  match tables.publishes.find? (fun record => decide (record.id = recordId)) with
  | none => throw .notFound
  | some record =>
    if record.published then throw .alreadyPublished
    else
      match tables.book? record.book with
      | none => throw .notFound
      | some book => do
        let planned ← liftPlan (planChanges tables book record.changes record.effectiveAt)
        liftIntegrity (writePublish book record planned tables)

def draftOf (tables : Tables) (book : Book) (changes : List Change) (effectiveAt : Int) :
    PricingBookPublish where
  id := tables.nextId
  tenant := book.tenant
  book := book.ref
  published := false
  effectiveAt := effectiveAt
  changes := changes
  openedRules := []
  closedRules := []
  openedAgreedPrices := []
  closedAgreedPrices := []

def declare (tables : Tables) (ref : BookRef) (changes : List Change) (effectiveAt : Int) :
    Except Refusal Tables :=
  match tables.book? ref with
  | none => throw .notFound
  | some book => do
    let _ ← liftPlan (planChanges tables book changes effectiveAt)
    pure { tables with
      nextId := tables.nextId + 1
      publishes := tables.publishes ++ [draftOf tables book changes effectiveAt] }

def discard (tables : Tables) (recordId : Nat) : Except Refusal Tables :=
  match tables.publishes.find? (fun record => decide (record.id = recordId)) with
  | none => throw .notFound
  | some record =>
    if record.published then throw .alreadyPublished
    else
      pure { tables with
        publishes := tables.publishes.filter (fun record => record.id != recordId) }

inductive LineTerms where
  | rate (terms : Terms)
  | agreedPrice (amount : Int)
deriving DecidableEq, Repr

structure DiffRow where
  kind : ChangeKind
  identity : LineIdentity
  before : Option LineTerms
  after : Option LineTerms
deriving DecidableEq

def Planned.asDiffRow : Planned → DiffRow
  | .rate change =>
    { kind := change.kind
      identity := .rate change.measurementKey change.selectors
      before := change.outgoing.map (fun outgoing => .rate outgoing.terms)
      after := change.terms.map .rate }
  | .agreedPrice change =>
    { kind := change.kind
      identity := .agreedPrice change.taskType
      before := change.outgoing.map (fun outgoing => .agreedPrice outgoing.agreedPriceMicros)
      after := change.amount.map .agreedPrice }

def diff (tables : Tables) (record : PricingBookPublish) : Except Refusal (List DiffRow) :=
  match tables.book? record.book with
  | none => throw .notFound
  | some book => do
    let planned ← liftPlan (planChanges tables book record.changes record.effectiveAt)
    pure (planned.map Planned.asDiffRow)

end Ubb.Pricing
