import Ubb.Pricing.Coherence
import Ubb.Pricing.CostLadder

set_option autoImplicit false

-- resolve_price: the spine over the tables, one subject at one instant.
namespace Ubb.Pricing

open Library
open Work (CostingStatus PricingStatus PricingMode)

structure PublishedDeclaration where
  costingMethod : CostingMethod
  measurementCodes : List String
  reportedCostMapping : Option SourceKind
  providerKey : String
deriving DecidableEq, Repr

structure EventType where
  tenant : Nat
  key : String
  published : Option PublishedDeclaration
  draftCodes : List String
deriving DecidableEq, Repr

structure TenantDefaultMarkup where
  id : Nat
  tenant : Nat
  markupMicroPercent : Int
deriving DecidableEq, Repr

structure Configuration where
  tables : Tables
  eventTypes : List EventType
  defaultMarkups : List TenantDefaultMarkup

def eventTypeNamed (config : Configuration) (tenant : Nat) (key : String) : Option EventType :=
  config.eventTypes.find? (fun row => row.tenant == tenant && row.key == key)

def lastPublishedDeclaration (config : Configuration) (tenant : Nat) (key : String) : Option PublishedDeclaration :=
  if key = "" then none else (eventTypeNamed config tenant key).bind EventType.published

def declarationOf (published : PublishedDeclaration) : CostDeclaration where
  costingMethod := published.costingMethod
  declaresNoCost := published.costingMethod ≠ .reported && published.measurementCodes.isEmpty &&
    published.reportedCostMapping.isNone
  reportedCostSourceKind := published.reportedCostMapping
  declaredQuantityCodes := published.measurementCodes
  providerKey := published.providerKey

def costDeclaration (config : Configuration) (tenant : Nat) (key : String) : Option CostDeclaration :=
  (lastPublishedDeclaration config tenant key).map declarationOf

-- MarkupService.resolve: the one rung there is.
def resolveMarkup (config : Configuration) (tenant : Nat) : Option ResolvedMarkup :=
  (config.defaultMarkups.find? (fun row => row.tenant == tenant)).map (fun declared =>
    ⟨declared.markupMicroPercent, .tenantDefault, declared.id⟩)

-- The declaration is none where the caller has not read it.
structure PricingSubject where
  receiptSubject : ReceiptSubject
  tenant : Nat
  customer : Option Nat
  selectors : Selectors
  measurements : List (String × RawQuantity)
  currency : String
  callerProviderCost : Option Int
  reportedCostSourceKind : Option SourceKind
  pricingMode : PricingMode
  declaration : Option (Option CostDeclaration)

def canonicalQuantities : List (String × RawQuantity) → Except PricingRefusal (List (String × String))
  | [] => pure []
  | (name, value) :: rest => do
    let spelled ← (canonicalQuantity value).mapError .malformedQuantity
    let others ← canonicalQuantities rest
    pure ((name, spelled) :: others)

def questionOf (config : Configuration) (subject : PricingSubject) (asOf : Int)
    (measurements : List (String × String)) : Question where
  subject := subject.receiptSubject
  currency := subject.currency
  effectiveAt := asOf
  measurements := measurements
  callerProviderCost := subject.callerProviderCost
  reportedCostSourceKind := subject.reportedCostSourceKind
  pricingMode := subject.pricingMode
  namesAnEventType := subject.selectors .eventType ≠ ""
  declaration := subject.declaration.getD (costDeclaration config subject.tenant (subject.selectors .eventType))
  costRule := fun measurementKey =>
    resolveTheCostRule config.tables subject.tenant subject.selectors measurementKey subject.currency asOf
  priceRule := fun measurementKey =>
    resolveThePriceRule config.tables subject.tenant subject.customer subject.selectors measurementKey
      subject.currency asOf
  markup := resolveMarkup config subject.tenant

def resolvePrice (config : Configuration) (subject : PricingSubject) (asOf : Int) :
    Except PricingRefusal Receipt := do
  let measurements ← canonicalQuantities subject.measurements
  compute (questionOf config subject asOf measurements)

theorem canonical_quantities_ok (raw : List (String × RawQuantity)) (bag : List (String × String))
    (answered : canonicalQuantities raw = .ok bag) :
    keysOf bag = keysOf raw ∧ ∀ entry ∈ bag, isCanonical entry.2 = true := by
  induction raw generalizing bag with
  | nil =>
    cases answered
    exact ⟨rfl, by simp⟩
  | cons entry rest ih =>
    obtain ⟨name, value⟩ := entry
    unfold canonicalQuantities at answered
    obtain ⟨spelled, read, more⟩ := (bind_eq_ok _ _ _).mp answered
    obtain ⟨others, restRead, same⟩ := (bind_eq_ok _ _ _).mp more
    cases same
    obtain ⟨keys, canonicalForm⟩ := ih others restRead
    rw [map_error_eq_ok] at read
    refine ⟨by simpa [keysOf] using keys, ?_⟩
    intro held mem
    rcases List.mem_cons.mp mem with rfl | inside
    · exact canonical_quantity_canonical value spelled read
    · exact canonicalForm held inside

theorem ranked_rule_held (rates : List Rate) (books : List (Nat × Nat)) (column : Rate → Option Nat)
    (event : Selectors) (measurementKey currency : String) (asOf : Int) (answer : Rate)
    (answered : rankAndTakeOne rates books column event measurementKey currency asOf = some answer) :
    answer ∈ rates ∧ (column answer).isSome = true := by
  unfold rankAndTakeOne at answered
  obtain ⟨pair, best, rfl⟩ := Option.map_eq_some_iff.mp answered
  obtain ⟨stored, _, book, points, _⟩ := (mem_matching rates books column event measurementKey currency asOf
    pair).mp (first_best_mem _ _ pair best)
  exact ⟨stored, by rw [points]; rfl⟩

theorem matching_of_pointing (rates : List Rate) (books : List (Nat × Nat)) (column : Rate → Option Nat)
    (event : Selectors) (measurementKey currency : String) (asOf : Int) :
    matchingRulesAcross (rates.filter (fun rule => (column rule).isSome)) books column event measurementKey
        currency asOf =
      matchingRulesAcross rates books column event measurementKey currency asOf := by
  unfold matchingRulesAcross
  rw [List.filterMap_filter]
  congr 1
  apply List.filterMap_congr
  intro rule _
  cases points : column rule with
  | none => simp
  | some book => simp

theorem cost_rule_of_books (first second : Tables) (books : first.costBooks = second.costBooks)
    (rules : first.rates.filter (fun rule => rule.costBook.isSome) =
      second.rates.filter (fun rule => rule.costBook.isSome))
    (tenant : Nat) (event : Selectors) (measurementKey currency : String) (asOf : Int) :
    resolveTheCostRule first tenant event measurementKey currency asOf =
      resolveTheCostRule second tenant event measurementKey currency asOf := by
  have selected : selectedCostBooks first tenant (event .provider) currency =
      selectedCostBooks second tenant (event .provider) currency := by
    unfold selectedCostBooks defaultCostBook
    rw [books]
  unfold resolveTheCostRule rankAndTakeOne
  rw [selected, ← matching_of_pointing first.rates, ← matching_of_pointing second.rates, rules]

structure SameCall (first second : Configuration) (one two : PricingSubject) : Prop where
  metered : one.receiptSubject.subjectType = .usageEvent ∧ two.receiptSubject.subjectType = .usageEvent
  tenant : one.tenant = two.tenant
  selectors : one.selectors = two.selectors
  measurements : one.measurements = two.measurements
  currency : one.currency = two.currency
  callerProviderCost : one.callerProviderCost = two.callerProviderCost
  reportedCostSourceKind : one.reportedCostSourceKind = two.reportedCostSourceKind
  declaration :
    one.declaration.getD (costDeclaration first one.tenant (one.selectors .eventType)) =
      two.declaration.getD (costDeclaration second two.tenant (two.selectors .eventType))
  costBooks : first.tables.costBooks = second.tables.costBooks
  costRules : first.tables.rates.filter (fun rule => rule.costBook.isSome) =
    second.tables.rates.filter (fun rule => rule.costBook.isSome)

-- A price rule as the table and the request schema let one be written.
def PriceRulesHeld (tables : Tables) : Prop :=
  ∀ rule ∈ tables.rates, rule.pricingBook.isSome = true →
    0 < rule.terms.unitQuantity ∧ rule.terms.pricingMethod ≠ none

theorem price_rule_held (tables : Tables) (held : PriceRulesHeld tables) (tenant : Nat) (customer : Option Nat)
    (event : Selectors) (measurementKey currency : String) (asOf : Int) (card : Rate)
    (found : resolveThePriceRule tables tenant customer event measurementKey currency asOf = some card) :
    0 < card.terms.unitQuantity ∧ card.terms.pricingMethod ≠ none := by
  obtain ⟨stored, points⟩ := ranked_rule_held _ _ _ _ _ _ _ card found
  exact held card stored points

def costingAnswer (answer : Except PricingRefusal Receipt) :
    Except PricingRefusal (CostingSection × Option Int) :=
  answer.map (fun record => (record.costing, record.providerCostMicros))

theorem same_cost (first second : Configuration) (one two : PricingSubject) (asOf : Int)
    (same : SameCall first second one two) (bag : List (String × String)) :
    (questionOf first one asOf bag).cost = (questionOf second two asOf bag).cost := by
  have rules : (questionOf first one asOf bag).costRule = (questionOf second two asOf bag).costRule := by
    funext measurementKey
    show resolveTheCostRule _ _ _ _ _ _ = resolveTheCostRule _ _ _ _ _ _
    rw [same.tenant, same.selectors, same.currency]
    exact cost_rule_of_books _ _ same.costBooks same.costRules _ _ _ _ _
  unfold Question.cost
  rw [rules]
  simp only [questionOf]
  rw [same.callerProviderCost, same.reportedCostSourceKind, same.declaration, same.selectors]

def recordedCost (cost : CostSide) (currency : String) :
    Except PricingRefusal (CostingSection × Option Int) :=
  if currency = "" then .error (.shape (.emptyText "currency"))
  else .ok (⟨cost.method, cost.status, cost.resolution.detail⟩, cost.resolution.amountMicros)

theorem unnamed_currency_refused (subject : ReceiptSubject) (effectiveAt : Int) (costing : CostingResolution)
    (pricing : PricingResolution) (provenance : List (String × Reference)) :
    buildReceipt subject effectiveAt "" pricingEngineVersion costing pricing provenance =
      .error (.emptyText "currency") := rfl

theorem answers_the_cost (config : Configuration) (subject : PricingSubject) (asOf : Int)
    (held : PriceRulesHeld config.tables) (metered : subject.receiptSubject.subjectType = .usageEvent)
    (bag : List (String × String)) (canonicalForm : ∀ entry ∈ bag, isCanonical entry.2 = true)
    (cost : CostSide) (costed : (questionOf config subject asOf bag).cost = .ok cost) :
    costingAnswer (compute (questionOf config subject asOf bag)) = recordedCost cost subject.currency ∨
      ∃ refusal, compute (questionOf config subject asOf bag) = .error refusal ∧
        LeavesTheRange (questionOf config subject asOf bag) .pricing refusal := by
  cases priced : (questionOf config subject asOf bag).price cost with
  | error refusal =>
    right
    refine ⟨refusal, by unfold compute; rw [costed, ok_bind, priced]; rfl, ?_⟩
    refine price_raises _ cost costed ?_ ?_ canonicalForm refusal priced
    · intro key card found
      exact (price_rule_held _ held _ _ _ _ _ _ card found).1
    · intro key card found
      exact (price_rule_held _ held _ _ _ _ _ _ card found).2
  | ok price =>
    left
    by_cases unnamed : subject.currency = ""
    · unfold compute recordedCost
      rw [costed, ok_bind, priced, ok_bind, if_pos unnamed,
        show (questionOf config subject asOf bag).currency = "" from unnamed, unnamed_currency_refused]
      rfl
    · have regime : (questionOf config subject asOf bag).subject.subjectType = .charge →
          (questionOf config subject asOf bag).pricingMode = .fixed := by
        intro charge
        cases metered.symm.trans charge
      obtain ⟨record, answered⟩ := built_answers _ unnamed regime cost price costed priced canonicalForm
      obtain ⟨other, _, costedToo, _, _, costing, provider, _⟩ := compute_ok _ record answered
      rw [costed] at costedToo
      cases costedToo
      rw [answered, recordedCost, if_neg unnamed]
      show Except.ok (record.costing, record.providerCostMicros) = _
      rw [costing, provider]

def PriceLeavesTheRange (config : Configuration) (subject : PricingSubject) (asOf : Int) : Prop :=
  ∃ bag refusal, canonicalQuantities subject.measurements = .ok bag ∧ resolvePrice config subject asOf = .error refusal ∧
    LeavesTheRange (questionOf config subject asOf bag) .pricing refusal

theorem cost_does_not_depend_on_the_customer (first second : Configuration) (one two : PricingSubject)
    (asOf : Int) (same : SameCall first second one two) (firstHeld : PriceRulesHeld first.tables)
    (secondHeld : PriceRulesHeld second.tables) :
    costingAnswer (resolvePrice first one asOf) = costingAnswer (resolvePrice second two asOf) ∨
      PriceLeavesTheRange first one asOf ∨ PriceLeavesTheRange second two asOf := by
  unfold PriceLeavesTheRange resolvePrice
  rw [same.measurements]
  cases read : canonicalQuantities two.measurements with
  | error refusal => exact Or.inl rfl
  | ok bag =>
    simp only [ok_bind]
    obtain ⟨_, canonicalForm⟩ := canonical_quantities_ok _ bag read
    have costs := same_cost first second one two asOf same bag
    cases costed : (questionOf second two asOf bag).cost with
    | error refusal =>
      left
      rw [costed] at costs
      unfold compute
      rw [costs, costed]
      rfl
    | ok cost =>
      rw [costed] at costs
      rcases answers_the_cost first one asOf firstHeld same.metered.1 bag canonicalForm cost costs with
        answer | ⟨refusal, refused, leaves⟩
      · rcases answers_the_cost second two asOf secondHeld same.metered.2 bag canonicalForm cost costed with
          other | ⟨refusal, refused, leaves⟩
        · left
          rw [answer, other, same.currency]
        · exact Or.inr (Or.inr ⟨bag, refusal, rfl, refused, leaves⟩)
      · exact Or.inr (Or.inl ⟨bag, refusal, rfl, refused, leaves⟩)

-- One call at one supplier's cost, sold at five micros the thousand tokens to one
-- customer and at nine to another.
def tokensCall (customer : Nat) : PricingSubject where
  receiptSubject := ⟨.usageEvent, customer⟩
  tenant := 1
  customer := some customer
  selectors := fun _ => ""
  measurements := [("tokens", .whole 2500)]
  currency := "usd"
  callerProviderCost := none
  reportedCostSourceKind := none
  pricingMode := .eventPriced
  declaration := none

def soldAt (ratePerUnitMicros : Int) : Configuration where
  tables := { emptyTables with
    pricingBooks := [⟨1, 1, none, "standard", 1, true⟩]
    costBooks := [⟨2, 1, "", "usd", "costs", 1, true⟩]
    rates := [tokensCard 3 3 none, tokensCard 4 ratePerUnitMicros (some .directEventPrice)] }
  eventTypes := []
  defaultMarkups := []

theorem sold_at_held (ratePerUnitMicros : Int) : PriceRulesHeld (soldAt ratePerUnitMicros).tables := by
  intro rule listed _
  simp only [soldAt, List.mem_cons, List.not_mem_nil, or_false] at listed
  rcases listed with rfl | rfl
  · contradiction
  · exact ⟨by simp [tokensCard], by simp [tokensCard]⟩

theorem two_sales_of_one_call :
    (costingAnswer (resolvePrice (soldAt 5) (tokensCall 1) 0) = costingAnswer (resolvePrice (soldAt 9) (tokensCall 2) 0) ∨
      PriceLeavesTheRange (soldAt 5) (tokensCall 1) 0 ∨ PriceLeavesTheRange (soldAt 9) (tokensCall 2) 0) ∧
      ((resolvePrice (soldAt 5) (tokensCall 1) 0).map Receipt.billedCostMicros).toOption = some (some 13) ∧
        ((resolvePrice (soldAt 9) (tokensCall 2) 0).map Receipt.billedCostMicros).toOption = some (some 23) :=
  ⟨cost_does_not_depend_on_the_customer (soldAt 5) (soldAt 9) (tokensCall 1) (tokensCall 2) 0
      ⟨⟨rfl, rfl⟩, rfl, rfl, rfl, rfl, rfl, rfl, rfl, rfl, rfl⟩ (sold_at_held 5) (sold_at_held 9),
    by decide +kernel, by decide +kernel⟩

end Ubb.Pricing
