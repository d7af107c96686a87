import Ubb.Pricing.Resolution

set_option autoImplicit false

-- What every answer of the spine satisfies, and on what it refuses.
namespace Ubb.Pricing

open Library
open Work (CostingStatus PricingStatus PricingMode)

theorem within_bound_ok (amount answer : Int) (what : AmountOf)
    (answered : withinTheMoneyBound amount what = .ok answer) : answer = amount ∧ fitsAMoneyColumn amount = true := by
  unfold withinTheMoneyBound at answered
  split at answered
  · next fits =>
    cases answered
    exact ⟨rfl, fits⟩
  · cases answered

theorem component_ok (name : SectionName) (measurementKey quantity : String) (card : Rate) (line : Component)
    (answered : component name measurementKey quantity card = .ok line) :
    line.measurementKey = measurementKey ∧ line.units = quantity ∧
      card.compute quantity = .ok line.micros ∧ fitsAMoneyColumn line.micros = true := by
  unfold component at answered
  obtain ⟨computed, charged, rest⟩ := (bind_eq_ok _ _ _).mp answered
  obtain ⟨micros, bounded, same⟩ := (bind_eq_ok _ _ _).mp rest
  obtain ⟨sameAmount, fits⟩ := within_bound_ok _ _ _ bounded
  cases same
  exact ⟨rfl, rfl, by rw [sameAmount]; exact charged, by rw [sameAmount]; exact fits⟩

section

variable (declaredCodes : Option (List String)) (costRule : String → Option Rate)

def undeclaredOf (measurements : List (String × String)) : List (String × String) :=
  measurements.filter (fun entry => isUndeclared declaredCodes entry.1)

def uncostedOf (measurements : List (String × String)) : List (String × String) :=
  measurements.filter (fun entry => !isUndeclared declaredCodes entry.1 && (costRule entry.1).isNone)

def costedOf (measurements : List (String × String)) : List (String × String) :=
  measurements.filter (fun entry => !isUndeclared declaredCodes entry.1 && (costRule entry.1).isSome)

structure Tallied (measurements : List (String × String)) (start lines : CostLines) : Prop where
  undeclared : lines.undeclared = start.undeclared ++ undeclaredOf declaredCodes measurements
  uncosted : lines.uncosted = start.uncosted ++ uncostedOf declaredCodes costRule measurements
  components : quantitiesOf lines.components =
    quantitiesOf start.components ++ costedOf declaredCodes costRule measurements

theorem cost_lines_tallied (measurements : List (String × String)) (start lines : CostLines)
    (answered : costLines declaredCodes costRule measurements start = .ok lines) :
    Tallied declaredCodes costRule measurements start lines := by
  induction measurements generalizing start with
  | nil =>
    cases answered
    exact ⟨by simp [undeclaredOf], by simp [uncostedOf], by simp [costedOf]⟩
  | cons entry rest ih =>
    obtain ⟨measurementKey, units⟩ := entry
    unfold costLines at answered
    split at answered
    · next undeclared =>
      have tallied := ih _ answered
      exact ⟨by simp [tallied.undeclared, undeclaredOf, undeclared],
        by simp [tallied.uncosted, uncostedOf, undeclared], by simp [tallied.components, costedOf, undeclared]⟩
    · next declared =>
      rw [Bool.not_eq_true] at declared
      split at answered
      · next absent =>
        have tallied := ih _ answered
        exact ⟨by simp [tallied.undeclared, undeclaredOf, declared],
          by simp [tallied.uncosted, uncostedOf, declared, absent],
          by simp [tallied.components, costedOf, declared, absent]⟩
      · next card found =>
        obtain ⟨line, charged, more⟩ := (bind_eq_ok _ _ _).mp answered
        obtain ⟨sameKey, sameUnits, _, _⟩ := component_ok _ _ _ _ _ charged
        have tallied := ih _ more
        exact ⟨by simp [tallied.undeclared, undeclaredOf, declared],
          by simp [tallied.uncosted, uncostedOf, declared, found],
          tallied.components.trans (by simp [costedOf, declared, found, quantitiesOf, sameKey, sameUnits])⟩

end

-- The law of the cost side: ck_posting_costing_status_agrees_with_the_cost.
structure CostLaw (side : CostSide) : Prop where
  method : side.method.isSome = true ↔ side.status = .known
  reason : side.unresolvedReason.isSome = true ↔ side.status = .unresolved

theorem calculated_cost_law (declaredCodes : Option (List String)) (costRule : String → Option Rate)
    (measurements : List (String × String)) (side : CostSide)
    (answered : calculatedCost declaredCodes costRule measurements = .ok side) :
    CostLaw side ∧ side.undeclared = undeclaredOf declaredCodes measurements ∧
      side.uncosted = uncostedOf declaredCodes costRule measurements ∧
        quantitiesOf side.components = costedOf declaredCodes costRule measurements ∧
          (side.undeclared ≠ [] → side.unresolvedReason = some .measurementNotDeclared) := by
  unfold calculatedCost at answered
  obtain ⟨lines, looped, rest⟩ := (bind_eq_ok _ _ _).mp answered
  obtain ⟨micros, _, decided⟩ := (bind_eq_ok _ _ _).mp rest
  have tallied := cost_lines_tallied declaredCodes costRule measurements noCostLines lines looped
  have undeclared : lines.undeclared = undeclaredOf declaredCodes measurements := by
    simpa [noCostLines] using tallied.undeclared
  have uncosted : lines.uncosted = uncostedOf declaredCodes costRule measurements := by
    simpa [noCostLines] using tallied.uncosted
  have components : quantitiesOf lines.components = costedOf declaredCodes costRule measurements := by
    simpa [noCostLines, quantitiesOf] using tallied.components
  split at decided
  · cases decided
    refine ⟨⟨by simp, by simp⟩, undeclared, uncosted, components, ?_⟩
    intro present
    exact congrArg some (if_pos present)
  · next settled =>
    push Not at settled
    cases decided
    exact ⟨⟨by simp, by simp⟩, settled.1.symm.trans undeclared, settled.2.symm.trans uncosted, components,
      fun present => absurd rfl present⟩

def Question.costsItsBag (asked : Question) : Prop :=
  asked.callerProviderCost = none ∧
    match asked.declaration with
    | none => asked.namesAnEventType = false
    | some declared => declared.declaresNoCost = false ∧ declared.costingMethod = .calculated

def Question.declaredCodes (asked : Question) : Option (List String) :=
  asked.declaration.map CostDeclaration.declaredQuantityCodes

theorem cost_of_bag (asked : Question) (bagged : asked.costsItsBag) :
    asked.cost = calculatedCost asked.declaredCodes asked.costRule asked.measurements := by
  obtain ⟨unstated, declares⟩ := bagged
  unfold Question.cost costSide Question.declaredCodes
  rw [unstated]
  cases declared : asked.declaration with
  | none =>
    rw [declared] at declares
    simp [declares]
  | some declaration =>
    rw [declared] at declares
    simp [declares.1, declares.2]

def Question.answeredAtOnce (asked : Question) : CostSide :=
  match asked.callerProviderCost, asked.declaration with
  | some stated, _ => ⟨stated, some .reported, .known, none, some asked.reportedCostSourceKind, [], [], [], []⟩
  | none, none => ⟨0, none, .unresolved, some .eventTypeNotDeclared, none, [], [], asked.measurements, []⟩
  | none, some declared =>
    if declared.declaresNoCost = true then ⟨0, none, .notApplicable, none, none, [], [], [], []⟩
    else ⟨0, none, .unresolved, some .reportedCostMissing, none, [], [], [], []⟩

theorem cost_at_once (asked : Question) (unbagged : ¬asked.costsItsBag) : asked.cost = .ok asked.answeredAtOnce := by
  unfold Question.costsItsBag at unbagged
  unfold Question.cost costSide Question.answeredAtOnce
  cases stated : asked.callerProviderCost with
  | some amount => rfl
  | none =>
    cases declared : asked.declaration with
    | none =>
      simp only [stated, declared, true_and, Bool.not_eq_false] at unbagged
      simp only [if_pos unbagged]
      rfl
    | some declaration =>
      simp only [stated, declared, true_and, not_and] at unbagged
      by_cases nothing : declaration.declaresNoCost = true
      · simp only [if_pos nothing]
        rfl
      · have reported : declaration.costingMethod = .reported := by
          cases method : declaration.costingMethod with
          | reported => rfl
          | calculated => exact absurd method (unbagged (by simpa using nothing))
        simp only [if_neg nothing, if_pos reported]
        rfl

theorem cost_outside_bag (asked : Question) (side : CostSide) (answered : asked.cost = .ok side)
    (unbagged : ¬asked.costsItsBag) :
    CostLaw side ∧ side.components = [] ∧ side.undeclared = [] ∧
      ∀ entry ∈ side.uncosted, entry ∈ asked.measurements := by
  rw [cost_at_once asked unbagged] at answered
  cases answered
  unfold Question.answeredAtOnce
  split
  · exact ⟨⟨by simp, by simp⟩, rfl, rfl, by simp⟩
  · exact ⟨⟨by simp, by simp⟩, rfl, rfl, by simp⟩
  · split <;> exact ⟨⟨by simp, by simp⟩, rfl, rfl, by simp⟩

theorem cost_law (asked : Question) (side : CostSide) (answered : asked.cost = .ok side) : CostLaw side := by
  by_cases bagged : asked.costsItsBag
  · rw [cost_of_bag asked bagged] at answered
    exact (calculated_cost_law _ _ _ _ answered).1
  · exact (cost_outside_bag asked side answered bagged).1

structure PriceLaw (side : PriceSide) : Prop where
  amount : side.priced.billed.isSome = true ↔ side.priced.status = .known
  method : side.priced.method.isSome = true ↔ side.priced.status = .known
  applicable : side.notApplicableReason.isSome = true ↔ side.priced.status = .notApplicable
  reason : side.statusReason.isSome = true → side.priced.status = .unknown
  sign : ∀ billed, side.priced.billed = some billed → 0 ≤ billed
  marked : side.priced.method = some .marginOverCost → side.markup.isSome = true

structure PricedLaw (priced : Priced) (markup : Option ResolvedMarkup) : Prop where
  amount : priced.billed.isSome = true ↔ priced.status = .known
  method : priced.method.isSome = true ↔ priced.status = .known
  applies : priced.status ≠ .notApplicable
  marked : priced.method = some .marginOverCost → markup.isSome = true

theorem priced_by_rules_law (rules : List Rate) (total : Int) (status : CostingStatus) (priced : Priced)
    (answered : pricedByRules rules total status = .ok priced) : PricedLaw priced none := by
  unfold pricedByRules at answered
  split at answered
  · cases answered
  · split at answered
    · split at answered
      · cases answered
        exact ⟨by simp, by simp, by simp, by simp⟩
      · cases answered
        exact ⟨by simp, by simp, by simp, by simp⟩
    · cases answered
      exact ⟨by simp, by simp, by simp, by simp⟩

theorem priced_by_markup_law (markup : Option ResolvedMarkup) (basis : Int) (status : CostingStatus) :
    PricedLaw (pricedByMarkup markup basis status) markup := by
  unfold pricedByMarkup
  cases markup with
  | none => exact ⟨by simp, by simp, by simp, by simp⟩
  | some resolved =>
    dsimp only
    split
    · exact ⟨by simp, by simp, by simp, by simp⟩
    · exact ⟨by simp, by simp, by simp, by simp⟩

theorem ladder_price_law (lines : PriceLines) (markup : Option ResolvedMarkup) (cost : CostSide)
    (answer : Priced × Option ResolvedMarkup) (answered : ladderPrice lines markup cost = .ok answer) :
    PricedLaw answer.1 answer.2 := by
  unfold ladderPrice at answered
  split at answered
  · obtain ⟨priced, ruled, same⟩ := (bind_eq_ok _ _ _).mp answered
    cases same
    exact priced_by_rules_law _ _ _ _ ruled
  · have law := priced_by_markup_law markup cost.computedMicros cost.status
    dsimp only at answered
    split at answered
    · cases answered
      exact law
    · obtain ⟨_, _, same⟩ := (bind_eq_ok _ _ _).mp answered
      cases same
      exact law

theorem price_law (asked : Question) (cost : CostSide) (side : PriceSide)
    (answered : asked.price cost = .ok side) : PriceLaw side := by
  unfold Question.price priceSide at answered
  split at answered
  · cases answered
    exact ⟨by simp, by simp, by simp [notApplicableReasonFor], by simp, by simp, by simp⟩
  · split at answered
    · cases answered
      exact ⟨by simp, by simp, by simp, by simp, by simp, by simp⟩
    · obtain ⟨lines, _, rest⟩ := (bind_eq_ok _ _ _).mp answered
      obtain ⟨_, _, more⟩ := (bind_eq_ok _ _ _).mp rest
      obtain ⟨⟨priced, resolved⟩, laddered, same⟩ := (bind_eq_ok _ _ _).mp more
      have law := ladder_price_law _ _ _ _ laddered
      cases same
      unfold carried
      split
      · exact ⟨by simp, by simp, by simp, by simp, by simp, by simp⟩
      · next whole =>
        refine ⟨law.amount, law.method, ?_, by simp, ?_, law.marked⟩
        · exact ⟨by simp, fun same => absurd same law.applies⟩
        · intro billed present
          have known : priced.status = .known := law.amount.mp (by rw [present]; rfl)
          by_contra negative
          refine whole ⟨known, ?_⟩
          rw [present]
          simpa using negative

def AmountOf.side : AmountOf → SectionName
  | .component name _ _ _ => name
  | .costTotal => .costing
  | .priceTotal | .margin _ _ => .pricing

inductive Question.ComesTo (asked : Question) : AmountOf → Int → Prop
  | costLine (measurementKey quantity : String) (card : Rate) (micros : Int) (listed : (measurementKey, quantity) ∈ asked.measurements)
      (rule : asked.costRule measurementKey = some card) (charged : card.compute quantity = .ok micros) :
      asked.ComesTo (.component .costing measurementKey quantity card.id) micros
  | priceLine (measurementKey quantity : String) (card : Rate) (micros : Int) (listed : (measurementKey, quantity) ∈ asked.measurements)
      (rule : asked.priceRule measurementKey = some card) (charged : card.compute quantity = .ok micros) :
      asked.ComesTo (.component .pricing measurementKey quantity card.id) micros
  | costTotal (lines : CostLines)
      (summed : costLines asked.declaredCodes asked.costRule asked.measurements noCostLines = .ok lines) :
      asked.ComesTo .costTotal lines.micros
  | priceTotal (lines : PriceLines)
      (summed : priceLines asked.priceRule (sortedItems asked.measurements) noPriceLines = .ok lines) :
      asked.ComesTo .priceTotal lines.micros
  | margin (markup : ResolvedMarkup) (cost : CostSide) (rung : asked.markup = some markup) (costed : asked.cost = .ok cost) :
      asked.ComesTo (.margin (some markup.markupMicroPercent) cost.computedMicros) (markup.appliedTo cost.computedMicros)

def LeavesTheRange (asked : Question) (name : SectionName) (refusal : PricingRefusal) : Prop :=
  ∃ what amount, asked.ComesTo what amount ∧ what.side = name ∧ fitsAMoneyColumn amount = false ∧
    refusal = .pastTheMoneyBound what

theorem within_bound_raises (asked : Question) (amount : Int) (what : AmountOf) (comes : asked.ComesTo what amount) :
    Raises (LeavesTheRange asked what.side) (withinTheMoneyBound amount what) := by
  unfold withinTheMoneyBound
  split
  · exact raises_ok _ _
  · rename_i past
    exact raises_error _ _ ⟨what, amount, comes, rfl, Bool.eq_false_iff.mpr past, rfl⟩

theorem rate_compute_answers (card : Rate) (quantity : String) (canonicalForm : isCanonical quantity = true)
    (positive : 0 < card.terms.unitQuantity) : ∃ micros, card.compute quantity = .ok micros := by
  unfold Rate.compute
  split
  · exact ⟨_, rfl⟩
  · obtain ⟨parts, read⟩ := exact_parts_ok quantity canonicalForm
    have scaled : ¬card.terms.unitQuantity * 10 ^ parts.scale ≤ 0 := by
      have power : (0 : Int) < 10 ^ parts.scale := by positivity
      have product := mul_pos positive power
      omega
    have charged : ∀ numerator, roundCharge numerator (card.terms.unitQuantity * 10 ^ parts.scale) =
        .ok (nearestMicro numerator (card.terms.unitQuantity * 10 ^ parts.scale)) :=
      fun numerator => if_neg scaled
    refine ⟨nearestMicro (parts.sign * parts.digits * card.terms.ratePerUnitMicros)
      (card.terms.unitQuantity * 10 ^ parts.scale) + card.terms.fixedMicros, ?_⟩
    rw [read, show (Except.ok parts).mapError PricingRefusal.malformedQuantity = .ok parts from rfl, ok_bind,
      charged, ok_bind]
    rfl

theorem component_raises (asked : Question) (name : SectionName) (measurementKey quantity : String) (card : Rate)
    (comes : ∀ micros, card.compute quantity = .ok micros → asked.ComesTo (.component name measurementKey quantity card.id) micros)
    (canonicalForm : isCanonical quantity = true) (positive : 0 < card.terms.unitQuantity) :
    Raises (LeavesTheRange asked name) (component name measurementKey quantity card) := by
  obtain ⟨micros, charged⟩ := rate_compute_answers card quantity canonicalForm positive
  unfold component
  rw [charged, ok_bind]
  apply raises_bind
  · exact within_bound_raises asked micros (.component name measurementKey quantity card.id) (comes micros charged)
  · intro bounded _
    exact raises_ok _ _

section

variable (asked : Question) (canonicalForm : ∀ entry ∈ asked.measurements, isCanonical entry.2 = true)

include canonicalForm

theorem cost_lines_raises (declaredCodes : Option (List String))
    (positive : ∀ key card, asked.costRule key = some card → 0 < card.terms.unitQuantity)
    (measurements : List (String × String)) (start : CostLines) (within : measurements ⊆ asked.measurements) :
    Raises (LeavesTheRange asked .costing) (costLines declaredCodes asked.costRule measurements start) := by
  induction measurements generalizing start with
  | nil => exact raises_ok _ _
  | cons entry rest ih =>
    obtain ⟨measurementKey, units⟩ := entry
    obtain ⟨listed, others⟩ := List.cons_subset.mp within
    have more : ∀ lines, Raises (LeavesTheRange asked .costing) (costLines declaredCodes asked.costRule rest lines) :=
      fun lines => ih lines others
    unfold costLines
    split
    · exact more _
    · split
      · exact more _
      · next card found =>
        apply raises_bind
        · exact component_raises asked .costing measurementKey units card
            (fun micros charged => .costLine measurementKey units card micros listed found charged) (canonicalForm _ listed)
            (positive _ _ found)
        · intro line _
          exact more _

theorem calculated_cost_raises (positive : ∀ key card, asked.costRule key = some card → 0 < card.terms.unitQuantity) :
    Raises (LeavesTheRange asked .costing) (calculatedCost asked.declaredCodes asked.costRule asked.measurements) := by
  unfold calculatedCost
  apply raises_bind
  · exact cost_lines_raises asked canonicalForm asked.declaredCodes positive asked.measurements noCostLines (fun _ listed => listed)
  · intro lines summed
    apply raises_bind
    · exact within_bound_raises asked lines.micros .costTotal (.costTotal lines summed)
    · intro micros _
      split
      · exact raises_ok _ _
      · exact raises_ok _ _

theorem cost_raises (positive : ∀ key card, asked.costRule key = some card → 0 < card.terms.unitQuantity) :
    Raises (LeavesTheRange asked .costing) asked.cost := by
  have bag := calculated_cost_raises asked canonicalForm positive
  unfold Question.cost costSide
  unfold Question.declaredCodes at bag
  split
  · exact raises_ok _ _
  · split
    · rename_i undeclared
      rw [undeclared] at bag
      split
      · exact raises_ok _ _
      · exact bag
    · rename_i declared named
      rw [named] at bag
      split
      · exact raises_ok _ _
      · split
        · exact raises_ok _ _
        · exact bag

theorem price_lines_raises (positive : ∀ key card, asked.priceRule key = some card → 0 < card.terms.unitQuantity)
    (measurements : List (String × String)) (start : PriceLines) (within : measurements ⊆ asked.measurements) :
    Raises (LeavesTheRange asked .pricing) (priceLines asked.priceRule measurements start) := by
  induction measurements generalizing start with
  | nil => exact raises_ok _ _
  | cons entry rest ih =>
    obtain ⟨measurementKey, units⟩ := entry
    obtain ⟨listed, others⟩ := List.cons_subset.mp within
    have more : ∀ lines, Raises (LeavesTheRange asked .pricing) (priceLines asked.priceRule rest lines) :=
      fun lines => ih lines others
    unfold priceLines
    split
    · exact more _
    · next card found =>
      apply raises_bind
      · exact component_raises asked .pricing measurementKey units card
          (fun micros charged => .priceLine measurementKey units card micros listed found charged) (canonicalForm _ listed)
          (positive _ _ found)
      · intro line _
        exact more _

end

theorem price_lines_matched (priceRule : String → Option Rate) (measurements : List (String × String))
    (start lines : PriceLines) (answered : priceLines priceRule measurements start = .ok lines)
    (held : ∀ card ∈ start.matched, ∃ key, priceRule key = some card) :
    ∀ card ∈ lines.matched, ∃ key, priceRule key = some card := by
  induction measurements generalizing start with
  | nil =>
    cases answered
    exact held
  | cons entry rest ih =>
    obtain ⟨measurementKey, units⟩ := entry
    unfold priceLines at answered
    split at answered
    · exact ih _ answered held
    · next card found =>
      obtain ⟨line, _, more⟩ := (bind_eq_ok _ _ _).mp answered
      apply ih _ more
      intro other mem
      rcases List.mem_append.mp mem with old | new
      · exact held other old
      · rw [List.mem_singleton.mp new]
        exact ⟨measurementKey, found⟩

theorem sorted_items_mem (measurements : List (String × String)) (entry : String × String) :
    entry ∈ sortedItems measurements ↔ entry ∈ measurements :=
  (List.perm_insertionSort _ measurements).mem_iff

theorem ladder_price_raises (asked : Question) (lines : PriceLines) (cost : CostSide) (costed : asked.cost = .ok cost)
    (methods : ∀ card ∈ lines.matched, card.terms.pricingMethod ≠ none) :
    Raises (LeavesTheRange asked .pricing) (ladderPrice lines asked.markup cost) := by
  unfold ladderPrice
  split
  · apply raises_bind
    · unfold pricedByRules
      split
      · next methodless =>
        obtain ⟨card, mem, same⟩ := List.any_eq_true.mp methodless
        exact absurd (by simpa using same) (methods card mem)
      · split
        · split
          · exact raises_ok _ _
          · exact raises_ok _ _
        · exact raises_ok _ _
    · intro priced _
      exact raises_ok _ _
  · dsimp only
    split
    · exact raises_ok _ _
    · next billed priced =>
      apply raises_bind
      · -- Only a markup has billed anything here.
        cases rung : asked.markup with
        | none =>
          rw [rung] at priced
          cases priced
        | some markup =>
          have charged : billed = markup.appliedTo cost.computedMicros := by
            rw [rung, pricedByMarkup] at priced
            split at priced
            · cases priced
            · exact (Option.some.inj priced).symm
          rw [charged]
          exact within_bound_raises asked _ _ (.margin markup cost rung costed)
      · intro bounded _
        exact raises_ok _ _

theorem price_raises (asked : Question) (cost : CostSide) (costed : asked.cost = .ok cost)
    (positive : ∀ key card, asked.priceRule key = some card → 0 < card.terms.unitQuantity)
    (methods : ∀ key card, asked.priceRule key = some card → card.terms.pricingMethod ≠ none)
    (canonicalForm : ∀ entry ∈ asked.measurements, isCanonical entry.2 = true) :
    Raises (LeavesTheRange asked .pricing) (asked.price cost) := by
  unfold Question.price priceSide
  split
  · exact raises_ok _ _
  · split
    · exact raises_ok _ _
    · apply raises_bind
      · exact price_lines_raises asked canonicalForm positive _ noPriceLines
          (fun entry listed => (sorted_items_mem _ entry).mp listed)
      · intro lines looped
        apply raises_bind
        · exact within_bound_raises asked lines.micros .priceTotal (.priceTotal lines looped)
        · intro total _
          apply raises_bind
          · apply ladder_price_raises asked lines cost costed
            intro card mem
            obtain ⟨key, found⟩ := price_lines_matched _ _ _ _ looped (by simp [noPriceLines]) card mem
            exact methods key card found
          · intro answer _
            exact raises_ok _ _

theorem price_when_fixed (asked : Question) (cost : CostSide) (side : PriceSide)
    (answered : asked.price cost = .ok side) (fixed : asked.pricingMode = .fixed) :
    side.priced.status = .notApplicable ∧ side.components = [] ∧ side.rateIds = [] := by
  unfold Question.price priceSide at answered
  rw [if_pos fixed] at answered
  cases answered
  exact ⟨rfl, rfl, rfl⟩

theorem price_when_held (asked : Question) (cost : CostSide) (side : PriceSide) (reason : PricingStatusReason)
    (answered : asked.price cost = .ok side) (eventPriced : asked.pricingMode ≠ .fixed)
    (held : cost.unresolvedReason.bind priceReasonOfAHeldName = some reason) :
    side.priced.status = .unknown ∧ side.components = [] ∧ side.rateIds = [] := by
  unfold Question.price priceSide at answered
  rw [if_neg eventPriced, held] at answered
  cases answered
  exact ⟨rfl, rfl, rfl⟩

structure Askable (asked : Question) : Prop where
  costQuantities : ∀ key card, asked.costRule key = some card → 0 < card.terms.unitQuantity
  priceQuantities : ∀ key card, asked.priceRule key = some card → 0 < card.terms.unitQuantity
  priceMethods : ∀ key card, asked.priceRule key = some card → card.terms.pricingMethod ≠ none
  currency : asked.currency ≠ ""
  regime : asked.subject.subjectType = .charge → asked.pricingMode = .fixed

theorem compute_ok (asked : Question) (record : Receipt) (answered : compute asked = .ok record) :
    ∃ cost price, asked.cost = .ok cost ∧ asked.price cost = .ok price ∧ Shaped record ∧
      record.costing = ⟨cost.method, cost.status, cost.resolution.detail⟩ ∧
      record.providerCostMicros = cost.resolution.amountMicros ∧
      record.pricing = ⟨price.priced.method, price.priced.status,
        (price.resolution asked.pricingMode cost.computedMicros).detail⟩ ∧
      record.billedCostMicros = price.priced.billed ∧ record.provenance = provenanceOf cost price ∧
      record.currency = asked.currency ∧ record.subject = asked.subject ∧
      record.effectiveAt = asked.effectiveAt := by
  unfold compute at answered
  obtain ⟨cost, costed, rest⟩ := (bind_eq_ok _ _ _).mp answered
  obtain ⟨price, priced, built⟩ := (bind_eq_ok _ _ _).mp rest
  rw [map_error_eq_ok] at built
  obtain ⟨same, shaped⟩ := (build_receipt_ok _ _ _ _ _ _ _ _).mp built
  refine ⟨cost, price, costed, priced, shaped, ?_⟩
  rw [same]
  exact ⟨rfl, rfl, rfl, rfl, rfl, rfl, rfl, rfl⟩

def exactlyOne (first second third : Prop) : Prop :=
  (first ∧ ¬second ∧ ¬third) ∨ (¬first ∧ second ∧ ¬third) ∨ (¬first ∧ ¬second ∧ third)

structure Coherent (asked : Question) (record : Receipt) : Prop where
  costAmount : record.providerCostMicros.isSome = true ↔ record.costing.status = .known
  costMethod : record.costing.method.isSome = true ↔ record.costing.status = .known
  costReason : record.costing.detail.unresolvedReason.isSome = true ↔ record.costing.status = .unresolved
  priceAmount : record.billedCostMicros.isSome = true ↔ record.pricing.status = .known
  priceMethod : record.pricing.method.isSome = true ↔ record.pricing.status = .known
  notApplicable : record.pricing.detail.notApplicableReason.isSome = true ↔
    record.pricing.status = .notApplicable
  priceReason : record.pricing.detail.pricingStatusReason.isSome = true → record.pricing.status = .unknown
  notNegative : ∀ billed, record.billedCostMicros = some billed → 0 ≤ billed
  fixedPrice : asked.pricingMode = .fixed → record.pricing.status = .notApplicable
  heldName : asked.costsItsBag →
    (∃ entry ∈ asked.measurements, isUndeclared asked.declaredCodes entry.1 = true) →
    record.costing.status = .unresolved ∧ record.provenance.lookup "price_rate_ids" = some (.ids []) ∧
      (asked.pricingMode ≠ .fixed → record.pricing.status = .unknown)
  kept : asked.costsItsBag → ∀ entry ∈ asked.measurements,
    exactlyOne (entry ∈ quantitiesOf record.costing.detail.components)
      (entry ∈ record.costing.detail.uncostedQuantities) (entry ∈ record.costing.detail.undeclaredQuantities)
  valid : validateReceipt record = .ok ()

theorem bag_kept (declaredCodes : Option (List String)) (costRule : String → Option Rate)
    (measurements : List (String × String)) (entry : String × String) (mem : entry ∈ measurements) :
    exactlyOne (entry ∈ costedOf declaredCodes costRule measurements)
      (entry ∈ uncostedOf declaredCodes costRule measurements)
      (entry ∈ undeclaredOf declaredCodes measurements) := by
  simp only [exactlyOne, costedOf, uncostedOf, undeclaredOf, List.mem_filter, mem, true_and]
  cases undeclared : isUndeclared declaredCodes entry.1 with
  | true => simp
  | false => cases rule : costRule entry.1 <;> simp

theorem answer_coherent (asked : Question) (record : Receipt) (answered : compute asked = .ok record) :
    Coherent asked record := by
  obtain ⟨cost, price, costed, priced, shaped, costing, provider, pricing, billed, provenance, _⟩ :=
    compute_ok asked record answered
  have law := cost_law asked cost costed
  have sold := price_law asked cost price priced
  rw [← validate_receipt_ok] at shaped
  refine ⟨?_, ?_, ?_, ?_, ?_, ?_, ?_, ?_, ?_, ?_, ?_, shaped⟩
  · rw [provider, costing, CostSide.resolution]
    dsimp only
    split
    · next known => simp [known]
    · next other => simp [other]
  · rw [costing]
    exact law.method
  · rw [costing]
    exact law.reason
  · rw [billed, pricing]
    exact sold.amount
  · rw [pricing]
    exact sold.method
  · rw [pricing]
    exact sold.applicable
  · rw [pricing]
    exact sold.reason
  · rw [billed]
    exact sold.sign
  · intro fixed
    rw [pricing]
    exact (price_when_fixed asked cost price priced fixed).1
  · intro bagged ⟨entry, mem, undeclared⟩
    rw [cost_of_bag asked bagged] at costed
    obtain ⟨_, undeclaredSame, _, _, named⟩ := calculated_cost_law _ _ _ _ costed
    have present : cost.undeclared ≠ [] := by
      rw [undeclaredSame]
      exact List.ne_nil_of_mem (List.mem_filter.mpr ⟨mem, undeclared⟩)
    have reason := named present
    have unresolved : cost.status = .unresolved := law.reason.mp (by rw [reason]; rfl)
    have ids : price.rateIds = [] := by
      by_cases fixed : asked.pricingMode = .fixed
      · exact (price_when_fixed asked cost price priced fixed).2.2
      · exact (price_when_held asked cost price .measurementNotDeclared priced fixed (by rw [reason]; rfl)).2.2
    refine ⟨by rw [costing]; exact unresolved, ?_, ?_⟩
    · rw [provenance, provenanceOf, ids]
      rfl
    · intro eventPriced
      rw [pricing]
      exact (price_when_held asked cost price .measurementNotDeclared priced eventPriced (by rw [reason]; rfl)).1
  · intro bagged entry mem
    rw [cost_of_bag asked bagged] at costed
    obtain ⟨_, undeclaredSame, uncostedSame, componentsSame, _⟩ := calculated_cost_law _ _ _ _ costed
    rw [costing]
    dsimp only [CostSide.resolution]
    rw [undeclaredSame, uncostedSame, componentsSame]
    exact bag_kept _ _ _ entry mem

def pricedOf (priceRule : String → Option Rate) (measurements : List (String × String)) :
    List (String × String) :=
  measurements.filter (fun entry => (priceRule entry.1).isSome)

theorem price_lines_components (priceRule : String → Option Rate) (measurements : List (String × String))
    (start lines : PriceLines) (answered : priceLines priceRule measurements start = .ok lines) :
    quantitiesOf lines.components = quantitiesOf start.components ++ pricedOf priceRule measurements := by
  induction measurements generalizing start with
  | nil =>
    cases answered
    simp [pricedOf]
  | cons entry rest ih =>
    obtain ⟨measurementKey, units⟩ := entry
    unfold priceLines at answered
    split at answered
    · next absent => simpa [pricedOf, absent] using ih _ answered
    · next card found =>
      obtain ⟨line, charged, more⟩ := (bind_eq_ok _ _ _).mp answered
      obtain ⟨sameKey, sameUnits, _, _⟩ := component_ok _ _ _ _ _ charged
      exact (ih _ more).trans (by simp [pricedOf, found, quantitiesOf, sameKey, sameUnits])

theorem cost_components_mem (asked : Question) (cost : CostSide) (answered : asked.cost = .ok cost)
    (entry : String × String) (mem : entry ∈ quantitiesOf cost.components) : entry ∈ asked.measurements := by
  by_cases bagged : asked.costsItsBag
  · rw [cost_of_bag asked bagged] at answered
    obtain ⟨_, _, _, same, _⟩ := calculated_cost_law _ _ _ _ answered
    rw [same] at mem
    exact List.mem_of_mem_filter mem
  · rw [(cost_outside_bag asked cost answered bagged).2.1] at mem
    cases mem

theorem price_components (asked : Question) (cost : CostSide) (side : PriceSide)
    (answered : asked.price cost = .ok side) :
    side.components = [] ∨
      quantitiesOf side.components = pricedOf asked.priceRule (sortedItems asked.measurements) := by
  unfold Question.price priceSide at answered
  split at answered
  · cases answered
    exact Or.inl rfl
  · split at answered
    · cases answered
      exact Or.inl rfl
    · obtain ⟨lines, looped, rest⟩ := (bind_eq_ok _ _ _).mp answered
      obtain ⟨_, _, more⟩ := (bind_eq_ok _ _ _).mp rest
      obtain ⟨answer, _, same⟩ := (bind_eq_ok _ _ _).mp more
      cases same
      exact Or.inr (price_lines_components _ _ _ _ looped)

theorem price_components_mem (asked : Question) (cost : CostSide) (side : PriceSide)
    (answered : asked.price cost = .ok side) (entry : String × String)
    (mem : entry ∈ quantitiesOf side.components) : entry ∈ asked.measurements := by
  rcases price_components asked cost side answered with none | some
  · rw [none] at mem
    cases mem
  · rw [some] at mem
    exact (sorted_items_mem _ entry).mp (List.mem_of_mem_filter mem)

theorem units_canonical (components : List Component) (measurements : List (String × String))
    (canonicalForm : ∀ entry ∈ measurements, isCanonical entry.2 = true)
    (named : ∀ entry ∈ quantitiesOf components, entry ∈ measurements) :
    ∀ line ∈ components, isCanonical line.units = true := by
  intro line mem
  exact canonicalForm _ (named _ (List.mem_map_of_mem mem))

theorem built_answers (asked : Question) (currency : asked.currency ≠ "")
    (regime : asked.subject.subjectType = .charge → asked.pricingMode = .fixed) (cost : CostSide) (price : PriceSide)
    (costed : asked.cost = .ok cost) (priced : asked.price cost = .ok price)
    (canonicalForm : ∀ entry ∈ asked.measurements, isCanonical entry.2 = true) :
    ∃ record, compute asked = .ok record := by
  have law := cost_law asked cost costed
  have sold := price_law asked cost price priced
  let record := recordOf asked.subject asked.effectiveAt asked.currency pricingEngineVersion cost.resolution
    (price.resolution asked.pricingMode cost.computedMicros) (provenanceOf cost price)
  have shaped : Shaped record := by
    have named : pricingEngineVersion ≠ "" := by decide
    refine ⟨rfl, named, currency, ?_, ?_, ?_, ?_⟩
    · refine ⟨law.method.mp, fun _ known => law.method.mpr known, ?_, ?_⟩
      · show cost.status = .known ↔ cost.resolution.amountMicros.isSome = true
        unfold CostSide.resolution
        split
        · next known => simp [known]
        · next other => simp [other]
      · exact units_canonical _ _ canonicalForm (cost_components_mem asked cost costed)
    · refine ⟨sold.method.mp, fun _ known => sold.method.mpr known, sold.amount.symm, ?_⟩
      exact units_canonical _ _ canonicalForm (price_components_mem asked cost price priced)
    · intro margin
      show (price.terms cost.computedMicros).isSome = true
      have method : price.priced.method = some .marginOverCost := margin
      obtain ⟨markup, resolved⟩ := Option.isSome_iff_exists.mp (sold.marked method)
      rw [PriceSide.terms, resolved, method]
      rfl
    · intro charge
      exact congrArg some (regime charge)
  have built := (build_receipt_ok _ _ _ _ _ _ _ record).mpr ⟨rfl, shaped⟩
  refine ⟨record, ?_⟩
  unfold compute
  rw [costed, ok_bind, priced, ok_bind, built]
  rfl

theorem every_resolution_is_coherent (asked : Question) (askable : Askable asked) :
    (∃ record, compute asked = .ok record ∧ Coherent asked record) ∨
      (∃ name refusal, compute asked = .error refusal ∧ LeavesTheRange asked name refusal) ∨
        ∃ refusal, compute asked = .error refusal ∧
          ∃ entry ∈ asked.measurements, isCanonical entry.2 = false := by
  cases answered : compute asked with
  | ok record => exact Or.inl ⟨record, rfl, answer_coherent asked record answered⟩
  | error refusal =>
    right
    by_cases canonicalForm : ∀ entry ∈ asked.measurements, isCanonical entry.2 = true
    · left
      cases costed : asked.cost with
      | error refused =>
        have same : refused = refusal := by
          unfold compute at answered
          rw [costed] at answered
          exact Except.error.inj answered
        exact ⟨.costing, refusal, rfl,
          same ▸ cost_raises asked canonicalForm askable.costQuantities refused costed⟩
      | ok cost =>
        cases priced : asked.price cost with
        | error refused =>
          have same : refused = refusal := by
            unfold compute at answered
            rw [costed, ok_bind, priced] at answered
            exact Except.error.inj answered
          exact ⟨.pricing, refusal, rfl, same ▸
            price_raises asked cost costed askable.priceQuantities askable.priceMethods canonicalForm refused priced⟩
        | ok price =>
          obtain ⟨record, built⟩ := built_answers asked askable.currency askable.regime cost price costed priced canonicalForm
          rw [built] at answered
          cases answered
    · right
      push Not at canonicalForm
      obtain ⟨entry, mem, spelled⟩ := canonicalForm
      exact ⟨refusal, rfl, entry, mem, by simpa using spelled⟩

def tokensCard (id : Nat) (ratePerUnitMicros : Int) (pricingMethod : Option PricingMethod) : Rate where
  id := id
  tenant := 1
  customer := none
  selectors := fun _ => ""
  measurement := some ⟨0, 1, "tokens", 0⟩
  undeclaredMeasurementKey := ""
  terms := ⟨ratePerUnitMicros, 1000, 0, pricingMethod, .perUnit⟩
  currency := "usd"
  pricingBook := pricingMethod.map (fun _ => 1)
  costBook := if pricingMethod.isSome then none else some 2
  lineage := id
  bookVersionFrom := 1
  bookVersionTo := none
  validFrom := 0
  validTo := none

-- Tokens at three micros the thousand, sold at five, and a name that the Event
-- Type does not declare.
def meteredCall : Question where
  subject := ⟨.usageEvent, 1⟩
  currency := "usd"
  effectiveAt := 0
  measurements := [("tokens", "2500"), ("colour", "1")]
  callerProviderCost := none
  reportedCostSourceKind := none
  pricingMode := .eventPriced
  namesAnEventType := true
  declaration := some ⟨.calculated, false, none, ["tokens"], ""⟩
  costRule := fun key => if key = "tokens" then some (tokensCard 3 3 none) else none
  priceRule := fun key => if key = "tokens" then some (tokensCard 4 5 (some .directEventPrice)) else none
  markup := none

theorem metered_call_askable : Askable meteredCall where
  costQuantities := by
    intro key card found
    cases (Option.ite_none_right_eq_some.mp found).2
    decide
  priceQuantities := by
    intro key card found
    cases (Option.ite_none_right_eq_some.mp found).2
    decide
  priceMethods := by
    intro key card found
    cases (Option.ite_none_right_eq_some.mp found).2
    decide
  currency := by decide
  regime := by
    intro charge
    cases charge

theorem metered_call_is_coherent :
    (∃ record, compute meteredCall = .ok record ∧ Coherent meteredCall record) ∨
      (∃ name refusal, compute meteredCall = .error refusal ∧ LeavesTheRange meteredCall name refusal) ∨
        ∃ refusal, compute meteredCall = .error refusal ∧
          ∃ entry ∈ meteredCall.measurements, isCanonical entry.2 = false :=
  every_resolution_is_coherent meteredCall metered_call_askable

-- A call whose supplier's figure arrived with it, under a name its Event Type
-- does not declare: no name is read where the figure is stated.
def reportedCall : Question where
  subject := ⟨.usageEvent, 1⟩
  currency := "usd"
  effectiveAt := 0
  measurements := [("colour", "1")]
  callerProviderCost := some 5
  reportedCostSourceKind := some .callerSupplied
  pricingMode := .eventPriced
  namesAnEventType := true
  declaration := some ⟨.reported, false, some .callerSupplied, ["tokens"], ""⟩
  costRule := fun _ => none
  priceRule := fun _ => none
  markup := none

theorem undeclared_name_does_not_hold_a_reported_cost :
    ¬∀ (asked : Question) (record : Receipt), compute asked = .ok record →
      (∃ entry ∈ asked.measurements, isUndeclared asked.declaredCodes entry.1 = true) →
        record.costing.status = .unresolved := by
  intro claimed
  have answered : ∃ record, compute reportedCall = .ok record ∧ record.costing.status = .known :=
    ⟨_, rfl, rfl⟩
  obtain ⟨record, computed, known⟩ := answered
  have unresolved := claimed reportedCall record computed ⟨("colour", "1"), by simp [reportedCall], by decide⟩
  rw [known] at unresolved
  cases unresolved

end Ubb.Pricing
