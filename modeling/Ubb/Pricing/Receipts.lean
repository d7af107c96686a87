import Ubb.Library.Dictionary
import Ubb.Library.Outcomes
import Ubb.Pricing.Books
import Ubb.Pricing.ExactDecimals
import Ubb.Work.Model

set_option autoImplicit false

-- pricing/receipts.py: the Pricing Receipt, built and completed behind one
-- validating boundary. A record's keys and the types of its values are the
-- fields below; what the boundary asks beyond them is in validateReceipt.
namespace Ubb.Pricing

open Library
open Work (CostingStatus PricingStatus PricingMode)

inductive CostingMethod where
  | calculated
  | reported
deriving DecidableEq, Repr

inductive UnresolvedReason where
  | reportedCostMissing
  | costRateMissing
  | measurementNotDeclared
  | eventTypeNotDeclared
deriving DecidableEq, Repr

inductive NotApplicableReason where
  | fixedTaskPricing
deriving DecidableEq, Repr

inductive PricingStatusReason where
  | negativePriceUnsupported
  | eventTypeNotDeclared
  | measurementNotDeclared
deriving DecidableEq, Repr

inductive SourceKind where
  | providerResponse
  | callerSupplied
  | derived
  | constant
deriving DecidableEq, Repr

inductive MarkupRung where
  | tenantDefault
deriving DecidableEq, Repr

inductive SubjectType where
  | usageEvent
  | charge
deriving DecidableEq, Repr

structure ReceiptSubject where
  subjectType : SubjectType
  subjectId : Nat
deriving DecidableEq, Repr

structure Component where
  measurementKey : String
  units : String
  rateStructure : RateStructure
  ratePerUnitMicros : Int
  unitQuantity : Int
  fixedMicros : Int
  micros : Int
deriving DecidableEq, Repr

structure MarkupTerms where
  microPercent : Int
  basisMicros : Int
deriving DecidableEq, Repr

-- The source kind is a key of the section only where a stated figure is the
-- cost, and null there when the caller named no source.
structure CostingDetail where
  components : List Component
  uncostedMeasurementKeys : List String
  uncostedQuantities : List (String × String)
  undeclaredQuantities : List (String × String)
  unresolvedReason : Option UnresolvedReason
  reportedCostSourceKind : Option (Option SourceKind)
deriving DecidableEq, Repr

structure PricingDetail where
  components : List Component
  pricingMode : Option PricingMode
  notApplicableReason : Option NotApplicableReason
  pricingStatusReason : Option PricingStatusReason
  markup : Option MarkupTerms
deriving DecidableEq, Repr

structure Section (Status Method Detail : Type) where
  method : Option Method
  status : Status
  detail : Detail
deriving DecidableEq, Repr

abbrev CostingSection := Section CostingStatus CostingMethod CostingDetail
abbrev PricingSection := Section PricingStatus PricingMethod PricingDetail

structure Resolution (Status Method Detail : Type) where
  method : Option Method
  status : Status
  amountMicros : Option Int
  detail : Detail
deriving DecidableEq, Repr

abbrev CostingResolution := Resolution CostingStatus CostingMethod CostingDetail
abbrev PricingResolution := Resolution PricingStatus PricingMethod PricingDetail

-- Provenance carries ids and nothing a figure could be read from.
inductive Reference where
  | id (row : Nat)
  | ids (rows : List (String × Nat))
  | rung (source : MarkupRung) (record : Nat)
deriving DecidableEq, Repr

structure Receipt where
  receiptSchemaVersion : Nat
  pricingEngineVersion : String
  subject : ReceiptSubject
  effectiveAt : Int
  currency : String
  costing : CostingSection
  pricing : PricingSection
  providerCostMicros : Option Int
  billedCostMicros : Option Int
  provenance : List (String × Reference)
deriving DecidableEq, Repr

inductive SectionName where
  | costing
  | pricing
deriving DecidableEq, Repr

inductive ReceiptShapeError where
  | schemaVersion (declared : Nat)
  | emptyText (key : String)
  | methodWithoutSettlement (name : SectionName)
  | settledWithoutMethod (name : SectionName)
  | amountDisagrees (name : SectionName)
  | quantityNotCanonical (name : SectionName) (units : String)
  | markupTermsMissing
  | regimeNotAgreed
  | notCompletable (name : SectionName)
  | completionNotSettled (name : SectionName)
  | provenanceChanged (key : String)
deriving DecidableEq, Repr

def receiptSchemaVersion : Nat := 2

def resolutionRunKey : String := "resolution_run_id"

def heldNameKey : String := "held_name_id"

structure SectionRules (Status : Type) where
  name : SectionName
  settled : Status
  completable : Status

def costingRules : SectionRules CostingStatus := ⟨.costing, .known, .unresolved⟩

def pricingRules : SectionRules PricingStatus := ⟨.pricing, .known, .unknown⟩

-- DERIVES_ITS_AMOUNTS.
def derivesItsAmounts : SubjectType → Bool
  | .usageEvent => true
  | .charge => false

def validateComponents (name : SectionName) : List Component → Except ReceiptShapeError Unit
  | [] => pure ()
  | component :: rest => do
    refuseIf (isCanonical component.units = false) (.quantityNotCanonical name component.units)
    validateComponents name rest

def validateSection {Status Method Detail : Type} [DecidableEq Status] (rules : SectionRules Status)
    (part : Section Status Method Detail) (components : List Component) (amount : Option Int)
    (derived : Bool) : Except ReceiptShapeError Unit := do
  refuseIf (part.method.isSome = true ∧ part.status ≠ rules.settled) (.methodWithoutSettlement rules.name)
  refuseIf (derived = true ∧ part.status = rules.settled ∧ part.method.isSome = false)
    (.settledWithoutMethod rules.name)
  refuseIf (¬(part.status = rules.settled ↔ amount.isSome = true)) (.amountDisagrees rules.name)
  validateComponents rules.name components

def validateReceipt (record : Receipt) : Except ReceiptShapeError Unit := do
  refuseIf (record.receiptSchemaVersion ≠ receiptSchemaVersion) (.schemaVersion record.receiptSchemaVersion)
  refuseIf (record.pricingEngineVersion = "") (.emptyText "pricing_engine_version")
  refuseIf (record.currency = "") (.emptyText "currency")
  let derived := derivesItsAmounts record.subject.subjectType
  validateSection costingRules record.costing record.costing.detail.components record.providerCostMicros derived
  validateSection pricingRules record.pricing record.pricing.detail.components record.billedCostMicros derived
  refuseIf (record.pricing.method = some .marginOverCost ∧ record.pricing.detail.markup = none)
    .markupTermsMissing
  refuseIf (record.subject.subjectType = .charge ∧ record.pricing.detail.pricingMode ≠ some .fixed)
    .regimeNotAgreed

def recordOf (subject : ReceiptSubject) (effectiveAt : Int) (currency pricingEngineVersion : String)
    (costing : CostingResolution) (pricing : PricingResolution) (provenance : List (String × Reference)) :
    Receipt where
  receiptSchemaVersion := receiptSchemaVersion
  pricingEngineVersion := pricingEngineVersion
  subject := subject
  effectiveAt := effectiveAt
  currency := currency
  costing := ⟨costing.method, costing.status, costing.detail⟩
  pricing := ⟨pricing.method, pricing.status, pricing.detail⟩
  providerCostMicros := costing.amountMicros
  billedCostMicros := pricing.amountMicros
  provenance := provenance

def buildReceipt (subject : ReceiptSubject) (effectiveAt : Int) (currency pricingEngineVersion : String)
    (costing : CostingResolution) (pricing : PricingResolution) (provenance : List (String × Reference)) :
    Except ReceiptShapeError Receipt := do
  let record := recordOf subject effectiveAt currency pricingEngineVersion costing pricing provenance
  validateReceipt record
  pure record

-- _a_receipt: the one shape this code reads.
def aReceipt (record : Receipt) : Except ReceiptShapeError Unit :=
  refuseIf (record.receiptSchemaVersion ≠ receiptSchemaVersion) (.schemaVersion record.receiptSchemaVersion)

def completeSection {Status Method Detail : Type} [DecidableEq Status] (rules : SectionRules Status)
    (was : Section Status Method Detail) (amount : Option Int) :
    Option (Resolution Status Method Detail) →
      Except ReceiptShapeError (Section Status Method Detail × Option Int)
  | none => pure (was, amount)
  | some resolution => do
    refuseIf (was.status ≠ rules.completable) (.notCompletable rules.name)
    refuseIf (resolution.status ≠ rules.settled ∨ resolution.method.isSome = false ∨
      resolution.amountMicros.isSome = false) (.completionNotSettled rules.name)
    pure (⟨resolution.method, resolution.status, resolution.detail⟩, resolution.amountMicros)

-- A completion may add a cross-reference and may not change one.
def addProvenance (recorded : List (String × Reference)) :
    List (String × Reference) → Except ReceiptShapeError Unit
  | [] => pure ()
  | (key, value) :: rest => do
    refuseIf ((recorded.lookup key).any (· ≠ value) = true) (.provenanceChanged key)
    addProvenance recorded rest

def completedReceipt (record : Receipt) (costing : Option CostingResolution)
    (pricing : Option PricingResolution) (provenance : List (String × Reference)) :
    Except ReceiptShapeError Receipt := do
  aReceipt record
  let (costingSection, providerCost) ← completeSection costingRules record.costing record.providerCostMicros costing
  let (pricingSection, billedCost) ← completeSection pricingRules record.pricing record.billedCostMicros pricing
  addProvenance record.provenance provenance
  let completing := { record with
    costing := costingSection
    pricing := pricingSection
    providerCostMicros := providerCost
    billedCostMicros := billedCost
    provenance := assignAll record.provenance provenance }
  validateReceipt completing
  pure completing

-- _text_as_text, over the entries read.
def textAsText (name : SectionName) : List (String × String) → Except ReceiptShapeError (List (String × String))
  | [] => pure []
  | (key, value) :: rest => do
    refuseIf (isCanonical value = false) (.quantityNotCanonical name value)
    let read ← textAsText name rest
    pure ((key, value) :: read)

def quantitiesOf (components : List Component) : List (String × String) :=
  components.map (fun component => (component.measurementKey, component.units))

-- recorded_quantities: the bag a recovery re-resolves from, the union of the
-- four places of the record that may hold a quantity.
def recordedQuantities (record : Receipt) : Except ReceiptShapeError (List (String × String)) := do
  aReceipt record
  let priced ← textAsText .costing (quantitiesOf record.costing.detail.components ++
    quantitiesOf record.pricing.detail.components)
  let uncosted ← textAsText .costing record.costing.detail.uncostedQuantities
  let undeclared ← textAsText .costing record.costing.detail.undeclaredQuantities
  let quantities := priced.foldl (fun held entry => setDefault held entry.1 entry.2) []
  pure (assignAll (assignAll quantities uncosted) undeclared)

def pricingModeOf (record : Receipt) : Except ReceiptShapeError (Option PricingMode) := do
  aReceipt record
  pure record.pricing.detail.pricingMode

structure SectionShaped {Status Method Detail : Type} (settled : Status) (part : Section Status Method Detail)
    (components : List Component) (amount : Option Int) (derived : Bool) : Prop where
  methodSettles : part.method.isSome = true → part.status = settled
  settledNames : derived = true → part.status = settled → part.method.isSome = true
  amountAgrees : part.status = settled ↔ amount.isSome = true
  canonicalUnits : ∀ component ∈ components, isCanonical component.units = true

structure Shaped (record : Receipt) : Prop where
  version : record.receiptSchemaVersion = receiptSchemaVersion
  engine : record.pricingEngineVersion ≠ ""
  currency : record.currency ≠ ""
  costing : SectionShaped CostingStatus.known record.costing record.costing.detail.components
    record.providerCostMicros (derivesItsAmounts record.subject.subjectType)
  pricing : SectionShaped PricingStatus.known record.pricing record.pricing.detail.components
    record.billedCostMicros (derivesItsAmounts record.subject.subjectType)
  markup : record.pricing.method = some .marginOverCost → record.pricing.detail.markup.isSome = true
  regime : record.subject.subjectType = .charge → record.pricing.detail.pricingMode = some .fixed

theorem validate_components_ok (name : SectionName) (components : List Component) :
    validateComponents name components = .ok () ↔
      ∀ component ∈ components, isCanonical component.units = true := by
  induction components with
  | nil => simp [validateComponents]
  | cons first rest ih =>
    unfold validateComponents
    simp [ih]

theorem validate_section_ok {Status Method Detail : Type} [DecidableEq Status] (rules : SectionRules Status)
    (part : Section Status Method Detail) (components : List Component) (amount : Option Int) (derived : Bool) :
    validateSection rules part components amount derived = .ok () ↔
      SectionShaped rules.settled part components amount derived := by
  unfold validateSection
  simp only [bind_eq_ok, refuse_if_eq_ok, validate_components_ok]
  constructor
  · rintro ⟨_, unsettled, _, unnamed, _, agrees, canonicalUnits⟩
    refine ⟨?_, ?_, not_not.mp agrees, canonicalUnits⟩
    · intro named
      by_contra other
      exact unsettled ⟨named, other⟩
    · intro derives known
      by_contra silent
      exact unnamed ⟨derives, known, by simpa using silent⟩
  · rintro ⟨methodSettles, settledNames, amountAgrees, canonicalUnits⟩
    refine ⟨(), ?_, (), ?_, (), not_not.mpr amountAgrees, canonicalUnits⟩
    · rintro ⟨named, other⟩
      exact other (methodSettles named)
    · rintro ⟨derives, known, silent⟩
      rw [settledNames derives known] at silent
      cases silent

theorem validate_receipt_ok (record : Receipt) : validateReceipt record = .ok () ↔ Shaped record := by
  unfold validateReceipt
  simp only [bind_eq_ok, refuse_if_eq_ok, not_not, not_and, ne_eq]
  constructor
  · rintro ⟨_, version, _, engine, _, currency, _, costing, _, pricing, _, markup, regime⟩
    refine ⟨version, engine, currency, (validate_section_ok _ _ _ _ _).mp costing,
      (validate_section_ok _ _ _ _ _).mp pricing, ?_, regime⟩
    intro marked
    exact Option.isSome_iff_ne_none.mpr (markup marked)
  · rintro ⟨version, engine, currency, costing, pricing, markup, regime⟩
    refine ⟨(), version, (), engine, (), currency, (), (validate_section_ok costingRules _ _ _ _).mpr costing,
      (), (validate_section_ok pricingRules _ _ _ _).mpr pricing, (), ?_, regime⟩
    intro marked
    exact Option.isSome_iff_ne_none.mp (markup marked)

theorem build_receipt_ok (subject : ReceiptSubject) (effectiveAt : Int) (currency pricingEngineVersion : String)
    (costing : CostingResolution) (pricing : PricingResolution) (provenance : List (String × Reference))
    (record : Receipt) :
    buildReceipt subject effectiveAt currency pricingEngineVersion costing pricing provenance = .ok record ↔
      record = recordOf subject effectiveAt currency pricingEngineVersion costing pricing provenance ∧
        Shaped record := by
  unfold buildReceipt
  simp only [bind_eq_ok, pure_eq_ok]
  constructor
  · rintro ⟨_, valid, rfl⟩
    exact ⟨rfl, (validate_receipt_ok _).mp valid⟩
  · rintro ⟨rfl, shaped⟩
    exact ⟨(), (validate_receipt_ok _).mpr shaped, rfl⟩

theorem complete_section_ok {Status Method Detail : Type} [DecidableEq Status] (rules : SectionRules Status)
    (was : Section Status Method Detail) (amount : Option Int) (resolution : Resolution Status Method Detail)
    (completable : was.status = rules.completable) (settled : resolution.status = rules.settled)
    (named : resolution.method.isSome = true) (present : resolution.amountMicros.isSome = true) :
    completeSection rules was amount (some resolution) =
      .ok (⟨resolution.method, resolution.status, resolution.detail⟩, resolution.amountMicros) := by
  have settles : ¬(resolution.status ≠ rules.settled ∨ resolution.method.isSome = false ∨
      resolution.amountMicros.isSome = false) := by
    rw [named, present]
    simp [settled]
  refine (bind_eq_ok _ _ _).mpr ⟨(), refuse_if_false _ _ (not_not.mpr completable), ?_⟩
  exact (bind_eq_ok _ _ _).mpr ⟨(), refuse_if_false _ _ settles, rfl⟩

theorem complete_section_none {Status Method Detail : Type} [DecidableEq Status] (rules : SectionRules Status)
    (was : Section Status Method Detail) (amount : Option Int) :
    completeSection rules was amount none = .ok (was, amount) := rfl

theorem add_provenance_one (recorded : List (String × Reference)) (key : String) (value : Reference) :
    addProvenance recorded [(key, value)] =
      if (recorded.lookup key).any (· ≠ value) = true then .error (.provenanceChanged key) else .ok () := by
  unfold addProvenance refuseIf
  split
  · rfl
  · rfl

end Ubb.Pricing
