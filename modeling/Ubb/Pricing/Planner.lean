import Ubb.Library.Outcomes
import Ubb.Pricing.Books

set_option autoImplicit false

-- plan_changes of services/book_service.py: what a change list means against a
-- book as it stands at one instant, and every reason to refuse it.
namespace Ubb.Pricing

open Library

inductive LineIdentity where
  | rate (measurementKey : String) (selectors : Selectors)
  | agreedPrice (taskType : String)
deriving DecidableEq

def Rate.identity (rate : Rate) : LineIdentity := .rate rate.measurementKey rate.selectors

def TaskPrice.identity (line : TaskPrice) : LineIdentity := .agreedPrice line.taskType

structure PlannedChange where
  kind : ChangeKind
  measurementKey : String
  selectors : Selectors
  outgoing : Option Rate
  terms : Option Terms
  declaration : Option Measurement
deriving DecidableEq

structure PlannedAgreedPrice where
  kind : ChangeKind
  taskType : String
  outgoing : Option TaskPrice
  amount : Option Int
deriving DecidableEq, Repr

inductive Planned where
  | rate (change : PlannedChange)
  | agreedPrice (change : PlannedAgreedPrice)
deriving DecidableEq

-- Every raise of the planner, with the position of the change it names.
inductive PlanRefusal where
  | unknownLine (position : Nat) (got : String)
  | unknownKind (position : Nat) (got : String)
  | measurementKeyRequired (position : Nat)
  | taskTypeRequired (position : Nat)
  | changedTwice (position : Nat) (identity : LineIdentity)
  | unratifiedMethod (position : Nat) (got : String)
  | unratifiedStructure (position : Nat) (got : String)
  | methodInACostBook (position : Nat)
  | agreedPriceInACostBook (position : Nat)
  | alreadyInForce (position : Nat) (identity : LineIdentity)
  | opensLater (position : Nat) (identity : LineIdentity)
  | providerNotTheBooks (position : Nat) (got expected : String)
  | noDeclaredQuantity (position : Nat) (measurementKey : String)
  | nothingInForce (position : Nat) (identity : LineIdentity)
  | scheduledToClose (position : Nat) (identity : LineIdentity) (closes : Int)
  | retirementStatesTerms (position : Nat)
  | amountRequired (position : Nat)
  | amountNotWhole (position : Nat)
  | amountNegative (position : Nat) (got : Int)
  | onlyContainedWork (position : Nat) (taskType : String)
  | noDeclaredWork (position : Nat) (taskType : String)
  | workRetired (position : Nat) (taskType : String)
  | behindTheDiary (boundary : Int)
deriving DecidableEq

-- Two refusals are Problems with a code of their own; every other raise is a
-- ValueError, which the routes answer as validation_error.
def PlanRefusal.code : PlanRefusal → String
  | .scheduledToClose .. | .behindTheDiary .. => "effective_at_before_scheduled_boundary"
  | _ => "validation_error"

def defaultTerms : Book → Terms
  | .pricing _ => ⟨0, 1000000, 0, some .directEventPrice, .perUnit⟩
  | .cost _ => ⟨0, 1000000, 0, none, .perUnit⟩

structure StatedTerms where
  ratePerUnitMicros : Option Int
  unitQuantity : Option Int
  fixedMicros : Option Int
  pricingMethod : Option PricingMethod
  rateStructure : Option RateStructure
deriving DecidableEq, Repr

def StatedTerms.isEmpty (stated : StatedTerms) : Bool :=
  stated == ⟨none, none, none, none, none⟩

-- {**terms, **stated}
def Terms.stating (terms : Terms) (stated : StatedTerms) : Terms where
  ratePerUnitMicros := stated.ratePerUnitMicros.getD terms.ratePerUnitMicros
  unitQuantity := stated.unitQuantity.getD terms.unitQuantity
  fixedMicros := stated.fixedMicros.getD terms.fixedMicros
  pricingMethod := stated.pricingMethod.or terms.pricingMethod
  rateStructure := stated.rateStructure.getD terms.rateStructure

def ratifiedMethod (position : Nat) : Option String → Except PlanRefusal (Option PricingMethod)
  | none => pure none
  | some text =>
    match PricingMethod.ofText text with
    | none => throw (.unratifiedMethod position text)
    | some method => pure (some method)

def ratifiedStructure (position : Nat) : Option String → Except PlanRefusal (Option RateStructure)
  | none => pure none
  | some text =>
    match RateStructure.ofText text with
    | none => throw (.unratifiedStructure position text)
    | some shape => pure (some shape)

-- _CLOSED_VALUE_SETS: the method first, the arithmetic shape second.
def statedTerms (position : Nat) (change : Change) : Except PlanRefusal StatedTerms := do
  let method ← ratifiedMethod position change.pricingMethod
  let shape ← ratifiedStructure position change.rateStructure
  pure ⟨change.ratePerUnitMicros, change.unitQuantity, change.fixedMicros, method, shape⟩

def Change.statedSelectors (change : Change) : Selectors :=
  fun name => (change.selectors name).getD ""

-- A default cost book takes rules for its own provider only.
def providerRefused (selectors : Selectors) : Book → Bool
  | .pricing _ => false
  | .cost book => book.isDefault && selectors .provider != book.providerKey

def expectedProvider : Book → String
  | .pricing _ => ""
  | .cost book => book.providerKey

def declarationFor (tables : Tables) (book : Book) (position : Nat) (measurementKey : String) :
    Except PlanRefusal Measurement :=
  match declarationNamed tables book.tenant measurementKey with
  | none => throw (.noDeclaredQuantity position measurementKey)
  | some declaration => pure declaration

def planRateAdd (tables : Tables) (book : Book) (position : Nat) (measurementKey : String)
    (selectors : Selectors) (matched : List Rate) (stated : StatedTerms) :
    Except PlanRefusal Planned := do
  let identity := LineIdentity.rate measurementKey selectors
  refuseIf (matched ≠ []) (.alreadyInForce position identity)
  refuseIf
    (tables.rates.any (fun rate =>
      rate.isIn book.ref && rate.validTo.isNone && rate.identity == identity))
    (.opensLater position identity)
  refuseIf (providerRefused selectors book)
    (.providerNotTheBooks position (selectors .provider) (expectedProvider book))
  let declaration ← declarationFor tables book position measurementKey
  pure (.rate ⟨.add, measurementKey, selectors, none, some ((defaultTerms book).stating stated),
    some declaration⟩)

-- A reprice or a retirement acts on the one rule in force at the instant,
-- which must not be scheduled to close yet.
def planRateChange (kind : ChangeKind) (position : Nat) (measurementKey : String)
    (selectors : Selectors) (matched : List Rate) (stated : StatedTerms) :
    Except PlanRefusal Planned :=
  let identity := LineIdentity.rate measurementKey selectors
  match matched with
  | [outgoing] =>
    match outgoing.validTo with
    | some closes => throw (.scheduledToClose position identity closes)
    | none =>
      if kind = .retire then
        if stated.isEmpty then
          pure (.rate ⟨kind, measurementKey, selectors, some outgoing, none, none⟩)
        else throw (.retirementStatesTerms position)
      else
        pure (.rate ⟨kind, measurementKey, selectors, some outgoing,
          some (outgoing.terms.stating stated), none⟩)
  | _ => throw (.nothingInForce position identity)

def planRateOfKind (tables : Tables) (book : Book) (position : Nat) (measurementKey : String)
    (selectors : Selectors) (matched : List Rate) (stated : StatedTerms) :
    ChangeKind → Except PlanRefusal Planned
  | .add => planRateAdd tables book position measurementKey selectors matched stated
  | .reprice => planRateChange .reprice position measurementKey selectors matched stated
  | .retire => planRateChange .retire position measurementKey selectors matched stated

def Book.isCost : Book → Bool
  | .pricing _ => false
  | .cost _ => true

def planRate (tables : Tables) (book : Book) (effectiveAt : Int) (position : Nat)
    (claimed : List LineIdentity) (kind : ChangeKind) (change : Change) :
    Except PlanRefusal (LineIdentity × Planned) := do
  let measurementKey := change.measurementKey.getD ""
  refuseIf (measurementKey = "") (.measurementKeyRequired position)
  let selectors := change.statedSelectors
  let identity := LineIdentity.rate measurementKey selectors
  refuseIf (identity ∈ claimed) (.changedTwice position identity)
  let matched := (rulesInForceAt tables book.ref effectiveAt).filter (fun rate =>
    rate.identity == identity)
  let stated ← statedTerms position change
  refuseIf (book.isCost ∧ stated.pricingMethod.isSome) (.methodInACostBook position)
  let planned ← planRateOfKind tables book position measurementKey selectors matched stated kind
  pure (identity, planned)

-- _refuse_an_amount_that_is_not_a_price
def agreedAmount (position : Nat) : Option StatedAmount → Except PlanRefusal Int
  | none => throw (.amountRequired position)
  | some .notWhole => throw (.amountNotWhole position)
  | some (.whole amount) =>
    if amount < 0 then throw (.amountNegative position amount) else pure amount

-- _refuse_a_kind_no_start_can_price
def refuseAKindNoStartCanPrice (tables : Tables) (tenant position : Nat) (taskType : String) :
    Except PlanRefusal Unit :=
  match taskTypePolicy tables tenant taskType .task with
  | none =>
    match taskTypePolicy tables tenant taskType .subtask with
    | some _ => throw (.onlyContainedWork position taskType)
    | none => throw (.noDeclaredWork position taskType)
  | some policy => if policy.retired then throw (.workRetired position taskType) else pure ()

def planAgreedPriceAdd (tables : Tables) (book : BookRef) (position : Nat) (taskType : String)
    (matched : List TaskPrice) (amount : Option Int) : Except PlanRefusal Planned := do
  let identity := LineIdentity.agreedPrice taskType
  refuseIf (matched ≠ []) (.alreadyInForce position identity)
  refuseIf
    (tables.taskPrices.any (fun line =>
      line.isIn book && line.kind == .task && line.validTo.isNone && line.taskType == taskType))
    (.opensLater position identity)
  pure (.agreedPrice ⟨.add, taskType, none, amount⟩)

def planAgreedPriceChange (kind : ChangeKind) (position : Nat) (taskType : String)
    (matched : List TaskPrice) (amount : Option Int) : Except PlanRefusal Planned :=
  let identity := LineIdentity.agreedPrice taskType
  match matched with
  | [outgoing] =>
    match outgoing.validTo with
    | some closes => throw (.scheduledToClose position identity closes)
    | none => pure (.agreedPrice ⟨kind, taskType, some outgoing, amount⟩)
  | _ => throw (.nothingInForce position identity)

-- A retirement states no amount; the other two state one, for work a start can price.
def statedAmount (tables : Tables) (tenant position : Nat) (taskType : String) (change : Change) :
    ChangeKind → Except PlanRefusal (Option Int)
  | .retire => do
    refuseIf change.agreedPriceMicros.isSome (.retirementStatesTerms position)
    pure none
  | .add | .reprice => do
    let amount ← agreedAmount position change.agreedPriceMicros
    refuseAKindNoStartCanPrice tables tenant position taskType
    pure (some amount)

def planAgreedPriceOfKind (tables : Tables) (book : BookRef) (position : Nat) (taskType : String)
    (matched : List TaskPrice) (amount : Option Int) : ChangeKind → Except PlanRefusal Planned
  | .add => planAgreedPriceAdd tables book position taskType matched amount
  | .reprice => planAgreedPriceChange .reprice position taskType matched amount
  | .retire => planAgreedPriceChange .retire position taskType matched amount

def planAgreedPrice (tables : Tables) (book : Book) (effectiveAt : Int) (position : Nat)
    (claimed : List LineIdentity) (kind : ChangeKind) (change : Change) :
    Except PlanRefusal (LineIdentity × Planned) := do
  refuseIf book.isCost (.agreedPriceInACostBook position)
  let taskType := (change.selectors .taskType).getD ""
  refuseIf (taskType = "") (.taskTypeRequired position)
  let identity := LineIdentity.agreedPrice taskType
  refuseIf (identity ∈ claimed) (.changedTwice position identity)
  let amount ← statedAmount tables book.tenant position taskType change kind
  let matched := (agreedPricesInForceAt tables book.ref effectiveAt).filter (fun line =>
    line.taskType == taskType)
  let planned ← planAgreedPriceOfKind tables book.ref position taskType matched amount kind
  pure (identity, planned)

def planChange (tables : Tables) (book : Book) (effectiveAt : Int) (position : Nat)
    (claimed : List LineIdentity) (change : Change) :
    Except PlanRefusal (LineIdentity × Planned) :=
  match LineKind.ofText change.line with
  | none => throw (.unknownLine position change.line)
  | some line =>
    match ChangeKind.ofText change.kind with
    | none => throw (.unknownKind position change.kind)
    | some kind =>
      match line with
      | .agreedPrice => planAgreedPrice tables book effectiveAt position claimed kind change
      | .rate => planRate tables book effectiveAt position claimed kind change

def planFrom (tables : Tables) (book : Book) (effectiveAt : Int) :
    Nat → List LineIdentity → List Change → Except PlanRefusal (List Planned)
  | _, _, [] => pure []
  | position, claimed, change :: rest => do
    let (identity, planned) ← planChange tables book effectiveAt position claimed change
    let others ← planFrom tables book effectiveAt (position + 1) (identity :: claimed) rest
    pure (planned :: others)

def boundaries (tables : Tables) (book : BookRef) : List Int :=
  (tables.rates.filter (fun rate => rate.isIn book)).flatMap
      (fun rate => rate.validFrom :: rate.validTo.toList) ++
    (tables.taskPrices.filter (fun line => line.isIn book)).flatMap
      (fun line => line.validFrom :: line.validTo.toList)

def latestScheduledBoundary (tables : Tables) (book : BookRef) : Option Int :=
  (boundaries tables book).max?

-- _refuse_an_instant_behind_the_books_own_diary
def refuseAnInstantBehindTheDiary (tables : Tables) (book : BookRef) (effectiveAt : Int) :
    Except PlanRefusal Unit :=
  match latestScheduledBoundary tables book with
  | none => pure ()
  | some boundary =>
    if boundary ≤ effectiveAt then pure () else throw (.behindTheDiary boundary)

def planChanges (tables : Tables) (book : Book) (changes : List Change) (effectiveAt : Int) :
    Except PlanRefusal (List Planned) := do
  let planned ← planFrom tables book effectiveAt 0 [] changes
  refuseAnInstantBehindTheDiary tables book.ref effectiveAt
  pure planned

def Planned.identity : Planned → LineIdentity
  | .rate change => .rate change.measurementKey change.selectors
  | .agreedPrice change => .agreedPrice change.taskType

structure OutgoingRate (tables : Tables) (book : BookRef) (effectiveAt : Int)
    (identity : LineIdentity) (outgoing : Rate) : Prop where
  inForce : outgoing ∈ rulesInForceAt tables book effectiveAt
  named : outgoing.identity = identity
  isOpen : outgoing.validTo = none
  only : ∀ rate ∈ rulesInForceAt tables book effectiveAt, rate.identity = identity → rate = outgoing

structure OutgoingTaskPrice (tables : Tables) (book : BookRef) (effectiveAt : Int)
    (taskType : String) (outgoing : TaskPrice) : Prop where
  inForce : outgoing ∈ agreedPricesInForceAt tables book effectiveAt
  named : outgoing.taskType = taskType
  isOpen : outgoing.validTo = none
  only : ∀ line ∈ agreedPricesInForceAt tables book effectiveAt,
    line.taskType = taskType → line = outgoing

inductive PlannedAs (tables : Tables) (book : Book) (effectiveAt : Int) (change : Change) :
    Planned → Prop where
  | addRate (position : Nat) (stated : StatedTerms) (declaration : Measurement)
      (kind : ChangeKind.ofText change.kind = some .add)
      (terms : statedTerms position change = .ok stated)
      (method : book.isCost = true → stated.pricingMethod = none)
      (vacant : ∀ rate ∈ rulesInForceAt tables book.ref effectiveAt,
        rate.identity ≠ .rate (change.measurementKey.getD "") change.statedSelectors)
      (noneOpen : ∀ rate ∈ tables.rates, rate.isIn book.ref = true → rate.validTo = none →
        rate.identity ≠ .rate (change.measurementKey.getD "") change.statedSelectors)
      (declared : declarationNamed tables book.tenant (change.measurementKey.getD "") =
        some declaration) :
      PlannedAs tables book effectiveAt change
        (.rate ⟨.add, change.measurementKey.getD "", change.statedSelectors, none,
          some ((defaultTerms book).stating stated), some declaration⟩)
  | repriceRate (position : Nat) (stated : StatedTerms) (outgoing : Rate)
      (kind : ChangeKind.ofText change.kind = some .reprice)
      (terms : statedTerms position change = .ok stated)
      (method : book.isCost = true → stated.pricingMethod = none)
      (held : OutgoingRate tables book.ref effectiveAt
        (.rate (change.measurementKey.getD "") change.statedSelectors) outgoing) :
      PlannedAs tables book effectiveAt change
        (.rate ⟨.reprice, change.measurementKey.getD "", change.statedSelectors, some outgoing,
          some (outgoing.terms.stating stated), none⟩)
  | retireRate (outgoing : Rate)
      (kind : ChangeKind.ofText change.kind = some .retire)
      (held : OutgoingRate tables book.ref effectiveAt
        (.rate (change.measurementKey.getD "") change.statedSelectors) outgoing) :
      PlannedAs tables book effectiveAt change
        (.rate ⟨.retire, change.measurementKey.getD "", change.statedSelectors, some outgoing,
          none, none⟩)
  | addAgreedPrice (amount : Int) (policy : TaskType)
      (kind : ChangeKind.ofText change.kind = some .add)
      (stated : change.agreedPriceMicros = some (.whole amount)) (notNegative : 0 ≤ amount)
      (sold : taskTypePolicy tables book.tenant ((change.selectors .taskType).getD "") .task =
        some policy)
      (pricing : book.isCost = false)
      (vacant : ∀ line ∈ agreedPricesInForceAt tables book.ref effectiveAt,
        line.taskType ≠ (change.selectors .taskType).getD "")
      (noneOpen : ∀ line ∈ tables.taskPrices, line.isIn book.ref = true → line.kind = .task →
        line.validTo = none → line.taskType ≠ (change.selectors .taskType).getD "") :
      PlannedAs tables book effectiveAt change
        (.agreedPrice ⟨.add, (change.selectors .taskType).getD "", none, some amount⟩)
  | repriceAgreedPrice (amount : Int) (policy : TaskType) (outgoing : TaskPrice)
      (kind : ChangeKind.ofText change.kind = some .reprice)
      (stated : change.agreedPriceMicros = some (.whole amount)) (notNegative : 0 ≤ amount)
      (sold : taskTypePolicy tables book.tenant ((change.selectors .taskType).getD "") .task =
        some policy)
      (pricing : book.isCost = false)
      (held : OutgoingTaskPrice tables book.ref effectiveAt
        ((change.selectors .taskType).getD "") outgoing) :
      PlannedAs tables book effectiveAt change
        (.agreedPrice ⟨.reprice, (change.selectors .taskType).getD "", some outgoing, some amount⟩)
  | retireAgreedPrice (outgoing : TaskPrice)
      (kind : ChangeKind.ofText change.kind = some .retire)
      (pricing : book.isCost = false)
      (held : OutgoingTaskPrice tables book.ref effectiveAt
        ((change.selectors .taskType).getD "") outgoing) :
      PlannedAs tables book effectiveAt change
        (.agreedPrice ⟨.retire, (change.selectors .taskType).getD "", some outgoing, none⟩)

def Planned.line : Planned → LineKind
  | .rate _ => .rate
  | .agreedPrice _ => .agreedPrice

structure PlannedFor (tables : Tables) (book : Book) (effectiveAt : Int) (change : Change)
    (planned : Planned) : Prop where
  line : LineKind.ofText change.line = some planned.line
  made : PlannedAs tables book effectiveAt change planned

theorem filter_singleton {Row : Type} (wanted : Row → Bool) (rows : List Row) (found : Row)
    (matched : rows.filter wanted = [found]) :
    found ∈ rows ∧ wanted found = true ∧ ∀ row ∈ rows, wanted row = true → row = found := by
  have listed : found ∈ rows.filter wanted := by simp [matched]
  refine ⟨(List.mem_filter.1 listed).1, (List.mem_filter.1 listed).2, ?_⟩
  intro row inside wants
  have also : row ∈ rows.filter wanted := List.mem_filter.2 ⟨inside, wants⟩
  simpa [matched] using also

theorem plan_rate_change_ok (tables : Tables) (book : BookRef) (effectiveAt : Int)
    (kind : ChangeKind) (position : Nat) (key : String) (selectors : Selectors)
    (stated : StatedTerms) (planned : Planned)
    (accepted : planRateChange kind position key selectors
      ((rulesInForceAt tables book effectiveAt).filter
        (fun rate => rate.identity == .rate key selectors)) stated = .ok planned) :
    ∃ outgoing, OutgoingRate tables book effectiveAt (.rate key selectors) outgoing ∧
      planned = .rate ⟨kind, key, selectors, some outgoing,
        if kind = .retire then none else some (outgoing.terms.stating stated), none⟩ := by
  unfold planRateChange at accepted
  split at accepted
  · rename_i outgoing matched
    obtain ⟨inForce, named, only⟩ := filter_singleton _ _ _ matched
    split at accepted
    · simp at accepted
    · rename_i isOpen
      have held : OutgoingRate tables book effectiveAt (.rate key selectors) outgoing :=
        ⟨inForce, by simpa using named, isOpen, fun rate inside same => only rate inside (by simp [same])⟩
      refine ⟨outgoing, held, ?_⟩
      split at accepted
      · rename_i retiring
        split at accepted
        · simp only [pure_eq_ok] at accepted
          simp [← accepted, retiring]
        · simp at accepted
      · rename_i repricing
        simp only [pure_eq_ok] at accepted
        simp [← accepted, repricing]
  · simp at accepted

theorem plan_agreed_price_change_ok (tables : Tables) (book : BookRef) (effectiveAt : Int)
    (kind : ChangeKind) (position : Nat) (taskType : String) (amount : Option Int)
    (planned : Planned)
    (accepted : planAgreedPriceChange kind position taskType
      ((agreedPricesInForceAt tables book effectiveAt).filter
        (fun line => line.taskType == taskType)) amount = .ok planned) :
    ∃ outgoing, OutgoingTaskPrice tables book effectiveAt taskType outgoing ∧
      planned = .agreedPrice ⟨kind, taskType, some outgoing, amount⟩ := by
  unfold planAgreedPriceChange at accepted
  split at accepted
  · rename_i outgoing matched
    obtain ⟨inForce, named, only⟩ := filter_singleton _ _ _ matched
    split at accepted
    · simp at accepted
    · rename_i isOpen
      simp only [pure_eq_ok] at accepted
      exact ⟨outgoing, ⟨inForce, by simpa using named, isOpen,
        fun line inside same => only line inside (by simp [same])⟩, accepted.symm⟩
  · simp at accepted

theorem declaration_for_ok (tables : Tables) (book : Book) (position : Nat) (key : String)
    (declaration : Measurement)
    (accepted : declarationFor tables book position key = .ok declaration) :
    declarationNamed tables book.tenant key = some declaration := by
  unfold declarationFor at accepted
  split at accepted
  · simp at accepted
  · rename_i found named
    simp only [pure_eq_ok] at accepted
    rw [named, accepted]

theorem plan_rate_ok (tables : Tables) (book : Book) (effectiveAt : Int) (position : Nat)
    (claimed : List LineIdentity) (kind : ChangeKind) (change : Change)
    (identity : LineIdentity) (planned : Planned)
    (named : ChangeKind.ofText change.kind = some kind)
    (accepted : planRate tables book effectiveAt position claimed kind change =
      .ok (identity, planned)) :
    identity = planned.identity ∧ identity ∉ claimed ∧ planned.line = .rate ∧
      PlannedAs tables book effectiveAt change planned := by
  simp only [planRate, bind_eq_ok, refuse_if_eq_ok, pure_eq_ok, Prod.mk.injEq] at accepted
  obtain ⟨_, _, _, unclaimed, stated, terms, _, method, made, byKind, rfl, rfl⟩ := accepted
  have methodless : book.isCost = true → stated.pricingMethod = none := by
    intro cost
    simpa [cost] using method
  cases kind with
  | add =>
    simp only [planRateOfKind, planRateAdd, bind_eq_ok, refuse_if_eq_ok, pure_eq_ok] at byKind
    obtain ⟨_, vacant, _, noneOpen, _, _, declaration, declared, rfl⟩ := byKind
    refine ⟨rfl, unclaimed, rfl, .addRate position stated declaration named terms methodless ?_ ?_
      (declaration_for_ok tables book position _ declaration declared)⟩
    · intro rate inside same
      apply vacant
      apply List.ne_nil_of_mem (a := rate)
      simp [inside, same]
    · intro rate inside within isOpen same
      apply noneOpen
      rw [List.any_eq_true]
      exact ⟨rate, inside, by simp [within, isOpen, same]⟩
  | reprice =>
    obtain ⟨outgoing, held, rfl⟩ := plan_rate_change_ok _ _ _ _ _ _ _ _ _ byKind
    exact ⟨rfl, unclaimed, rfl, .repriceRate position stated outgoing named terms methodless held⟩
  | retire =>
    obtain ⟨outgoing, held, rfl⟩ := plan_rate_change_ok _ _ _ _ _ _ _ _ _ byKind
    exact ⟨rfl, unclaimed, rfl, .retireRate outgoing named held⟩

theorem agreed_amount_ok (position : Nat) (stated : Option StatedAmount) (amount : Int)
    (accepted : agreedAmount position stated = .ok amount) :
    stated = some (.whole amount) ∧ 0 ≤ amount := by
  unfold agreedAmount at accepted
  split at accepted
  · simp at accepted
  · simp at accepted
  · split at accepted
    · simp at accepted
    · simp only [pure_eq_ok] at accepted
      subst accepted
      exact ⟨rfl, by omega⟩

theorem priced_kind_ok (tables : Tables) (tenant position : Nat) (taskType : String) (answer : Unit)
    (accepted : refuseAKindNoStartCanPrice tables tenant position taskType = .ok answer) :
    ∃ policy, taskTypePolicy tables tenant taskType .task = some policy := by
  unfold refuseAKindNoStartCanPrice at accepted
  split at accepted
  · split at accepted <;> simp at accepted
  · rename_i policy found
    exact ⟨policy, found⟩

theorem plan_agreed_price_ok (tables : Tables) (book : Book) (effectiveAt : Int) (position : Nat)
    (claimed : List LineIdentity) (kind : ChangeKind) (change : Change)
    (identity : LineIdentity) (planned : Planned)
    (named : ChangeKind.ofText change.kind = some kind)
    (accepted : planAgreedPrice tables book effectiveAt position claimed kind change =
      .ok (identity, planned)) :
    identity = planned.identity ∧ identity ∉ claimed ∧ planned.line = .agreedPrice ∧
      PlannedAs tables book effectiveAt change planned := by
  simp only [planAgreedPrice, bind_eq_ok, refuse_if_eq_ok, pure_eq_ok, Prod.mk.injEq] at accepted
  obtain ⟨_, pricing, _, _, _, unclaimed, amount, stated, made, byKind, rfl, rfl⟩ := accepted
  have pricing : book.isCost = false := by simpa using pricing
  cases kind with
  | add =>
    simp only [statedAmount, bind_eq_ok, pure_eq_ok] at stated
    obtain ⟨whole, isWhole, _, sold, rfl⟩ := stated
    obtain ⟨policy, found⟩ := priced_kind_ok _ _ _ _ _ sold
    obtain ⟨wrote, notNegative⟩ := agreed_amount_ok _ _ _ isWhole
    simp only [planAgreedPriceOfKind, planAgreedPriceAdd, bind_eq_ok, refuse_if_eq_ok,
      pure_eq_ok] at byKind
    obtain ⟨_, vacant, _, noneOpen, rfl⟩ := byKind
    refine ⟨rfl, unclaimed, rfl, .addAgreedPrice whole policy named wrote notNegative found pricing ?_ ?_⟩
    · intro line inside same
      apply vacant
      apply List.ne_nil_of_mem (a := line)
      simp [inside, same]
    · intro line inside within ofKind isOpen same
      apply noneOpen
      rw [List.any_eq_true]
      exact ⟨line, inside, by simp [within, ofKind, isOpen, same]⟩
  | reprice =>
    simp only [statedAmount, bind_eq_ok, pure_eq_ok] at stated
    obtain ⟨whole, isWhole, _, sold, rfl⟩ := stated
    obtain ⟨policy, found⟩ := priced_kind_ok _ _ _ _ _ sold
    obtain ⟨wrote, notNegative⟩ := agreed_amount_ok _ _ _ isWhole
    obtain ⟨outgoing, held, rfl⟩ := plan_agreed_price_change_ok _ _ _ _ _ _ _ _ byKind
    exact ⟨rfl, unclaimed, rfl,
      .repriceAgreedPrice whole policy outgoing named wrote notNegative found pricing held⟩
  | retire =>
    simp only [statedAmount, bind_eq_ok, refuse_if_eq_ok, pure_eq_ok] at stated
    obtain ⟨_, _, rfl⟩ := stated
    obtain ⟨outgoing, held, rfl⟩ := plan_agreed_price_change_ok _ _ _ _ _ _ _ _ byKind
    exact ⟨rfl, unclaimed, rfl, .retireAgreedPrice outgoing named pricing held⟩

theorem plan_change_ok (tables : Tables) (book : Book) (effectiveAt : Int) (position : Nat)
    (claimed : List LineIdentity) (change : Change) (identity : LineIdentity) (planned : Planned)
    (accepted : planChange tables book effectiveAt position claimed change = .ok (identity, planned)) :
    identity = planned.identity ∧ identity ∉ claimed ∧
      PlannedFor tables book effectiveAt change planned := by
  unfold planChange at accepted
  split at accepted
  · simp at accepted
  · rename_i line stated
    split at accepted
    · simp at accepted
    · rename_i kind named
      cases line with
      | agreedPrice =>
        obtain ⟨same, unclaimed, ofLine, made⟩ :=
          plan_agreed_price_ok _ _ _ _ _ _ _ _ _ named accepted
        exact ⟨same, unclaimed, ⟨by rw [ofLine]; exact stated, made⟩⟩
      | rate =>
        obtain ⟨same, unclaimed, ofLine, made⟩ := plan_rate_ok _ _ _ _ _ _ _ _ _ named accepted
        exact ⟨same, unclaimed, ⟨by rw [ofLine]; exact stated, made⟩⟩

-- The induction follows the loop: claimed grows by the identity each change takes.
theorem plan_from_ok (tables : Tables) (book : Book) (effectiveAt : Int) (changes : List Change)
    (position : Nat) (claimed : List LineIdentity) (planned : List Planned)
    (accepted : planFrom tables book effectiveAt position claimed changes = .ok planned) :
    List.Forall₂ (PlannedFor tables book effectiveAt) changes planned ∧
      (planned.map Planned.identity).Nodup ∧ ∀ one ∈ planned, one.identity ∉ claimed := by
  induction changes generalizing position claimed planned with
  | nil =>
    simp only [planFrom, pure_eq_ok] at accepted
    subst accepted
    simp
  | cons change rest hypothesis =>
    simp only [planFrom, bind_eq_ok, pure_eq_ok] at accepted
    obtain ⟨⟨identity, first⟩, head, others, tail, rfl⟩ := accepted
    obtain ⟨same, unclaimed, plannedFirst⟩ := plan_change_ok _ _ _ _ _ _ _ _ head
    obtain ⟨plannedRest, distinct, apart⟩ := hypothesis _ _ _ tail
    subst same
    refine ⟨.cons plannedFirst plannedRest, ?_, ?_⟩
    · rw [List.map_cons, List.nodup_cons]
      refine ⟨?_, distinct⟩
      intro listed
      obtain ⟨one, inside, twice⟩ := List.mem_map.1 listed
      exact apart one inside (by simp [twice])
    · intro one inside
      cases List.mem_cons.1 inside with
      | inl first => rw [first]; exact unclaimed
      | inr later =>
        have free := apart one later
        simp only [List.mem_cons, not_or] at free
        exact free.2

theorem behind_the_diary_ok (tables : Tables) (book : BookRef) (effectiveAt : Int) (answer : Unit)
    (accepted : refuseAnInstantBehindTheDiary tables book effectiveAt = .ok answer) :
    ∀ boundary ∈ boundaries tables book, boundary ≤ effectiveAt := by
  intro boundary inside
  unfold refuseAnInstantBehindTheDiary latestScheduledBoundary at accepted
  split at accepted
  · rename_i empty
    rw [List.max?_eq_none_iff] at empty
    simp [empty] at inside
  · rename_i latest found
    have bounded : boundary ≤ latest := (List.max?_eq_some_iff.1 found).2 boundary inside
    split at accepted
    · omega
    · simp at accepted

theorem plan_changes_ok (tables : Tables) (book : Book) (changes : List Change) (effectiveAt : Int)
    (planned : List Planned) (accepted : planChanges tables book changes effectiveAt = .ok planned) :
    List.Forall₂ (PlannedFor tables book effectiveAt) changes planned ∧
      (planned.map Planned.identity).Nodup ∧
      ∀ boundary ∈ boundaries tables book.ref, boundary ≤ effectiveAt := by
  simp only [planChanges, bind_eq_ok, pure_eq_ok] at accepted
  obtain ⟨made, loop, _, floor, rfl⟩ := accepted
  obtain ⟨each, distinct, _⟩ := plan_from_ok _ _ _ _ _ _ _ loop
  exact ⟨each, distinct, behind_the_diary_ok _ _ _ _ floor⟩

end Ubb.Pricing
