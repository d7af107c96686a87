import Ubb.Pricing.Timeline

set_option autoImplicit false

-- Which drafts the planner accepts and the tables then refuse.
namespace Ubb.Pricing

open Library

-- What the database itself holds of the stored rows: keys, references, column
-- widths and the CHECKs of the rate table.
structure Constrained (tables : Tables) : Prop where
  rateIds : (tables.rates.map Rate.id).Nodup
  rateIdsUsed : ∀ rate ∈ tables.rates, rate.id < tables.nextId
  priceIds : (tables.taskPrices.map TaskPrice.id).Nodup
  priceIdsUsed : ∀ line ∈ tables.taskPrices, line.id < tables.nextId
  publishIdsUsed : ∀ record ∈ tables.publishes, record.id < tables.nextId
  rateChecks : ∀ rate ∈ tables.rates, firstViolation rate.checks = none
  measurementIds : (tables.measurements.map Measurement.id).Nodup
  measurementsHeld : ∀ rate ∈ tables.rates, ∀ measurement, rate.measurement = some measurement →
    measurement ∈ tables.measurements
  tenantCurrency : ∀ tenant, tables.defaultCurrency tenant = "usd"
  costCurrency : ∀ book ∈ tables.costBooks, book.currency = "usd"
  taskTypeKeys : ∀ declared ∈ tables.taskTypes, declared.key.length ≤ 64

def Change.methodOver (change : Change) (base : Terms) : Option PricingMethod :=
  (change.pricingMethod.bind PricingMethod.ofText).or base.pricingMethod

def Change.NeverComposes (change : Change) (base : Terms) : Prop :=
  change.methodOver base = some .marginOverCost →
    change.ratePerUnitMicros.getD base.ratePerUnitMicros = 0 ∧
      change.fixedMicros.getD base.fixedMicros = 0

def Change.TermsFit (change : Change) : Prop :=
  (∀ value, change.ratePerUnitMicros = some value → fitsBigint value = true) ∧
    (∀ value, change.unitQuantity = some value → fitsBigint value = true) ∧
    ∀ value, change.fixedMicros = some value → fitsBigint value = true

def Change.SelectorsFit (change : Change) : Prop :=
  ∀ name, (change.statedSelectors name).length ≤ name.maxLength

def Change.rateIdentity (change : Change) : LineIdentity :=
  .rate (change.measurementKey.getD "") change.statedSelectors

def Change.Publishable (tables : Tables) (book : Book) (effectiveAt : Int) (change : Change) : Prop :=
  match LineKind.ofText change.line, ChangeKind.ofText change.kind with
  | some .rate, some .add =>
      change.NeverComposes (defaultTerms book) ∧ change.TermsFit ∧ change.SelectorsFit
  | some .rate, some .reprice =>
      ∀ rule ∈ rulesInForceAt tables book.ref effectiveAt, rule.identity = change.rateIdentity →
        rule.measurement.isSome = true ∧ change.NeverComposes rule.terms ∧ change.TermsFit
  | some .agreedPrice, some .add | some .agreedPrice, some .reprice =>
      ∀ amount, change.agreedPriceMicros = some (.whole amount) → amount ≤ 9223372036854775807
  | _, _ => True

def Acceptable (row : Rate) : Prop :=
  row.measurement.isSome = true ∧ firstViolation row.checks = none

theorem rate_checks_iff (row : Rate) :
    firstViolation row.checks = none ↔
      row.currency = "usd" ∧ (row.pricingBook.isSome = true → row.costBook = none) ∧
        row.measurement.isSome = (row.undeclaredMeasurementKey == "") ∧
        (row.terms.pricingMethod = some .marginOverCost →
          row.terms.ratePerUnitMicros = 0 ∧ row.terms.fixedMicros = 0) ∧
        row.pricingBook.isSome = row.terms.pricingMethod.isSome ∧
        fitsBigint row.terms.ratePerUnitMicros = true ∧ fitsBigint row.terms.unitQuantity = true ∧
        fitsBigint row.terms.fixedMicros = true ∧
        (∀ name, (row.selectors name).length ≤ name.maxLength) ∧
        fitsPositiveInteger row.bookVersionFrom = true := by
  rw [no_violation_iff]
  have margin : row.neverComposes = true ↔ (row.terms.pricingMethod = some .marginOverCost →
      row.terms.ratePerUnitMicros = 0 ∧ row.terms.fixedMicros = 0) := by
    simp only [Rate.neverComposes, Bool.or_eq_true, bne_iff_ne, Bool.and_eq_true, beq_iff_eq]
    tauto
  have oneBook : (!(row.pricingBook.isSome && row.costBook.isSome)) = true ↔
      (row.pricingBook.isSome = true → row.costBook = none) := by
    cases row.pricingBook <;> cases row.costBook <;> simp
  have widths : (selectorNames.all (fun name =>
      decide ((row.selectors name).length ≤ name.maxLength))) = true ↔
      ∀ name, (row.selectors name).length ≤ name.maxLength := by
    rw [List.all_eq_true]
    exact ⟨fun each name => by simpa using each name (mem_selector_names name),
      fun each name _ => by simpa using each name⟩
  simp only [Rate.checks, List.mem_cons, List.not_mem_nil, or_false, forall_eq_or_imp, forall_eq,
    margin, oneBook, widths, Rate.statesItsSellingMethod, beq_iff_eq]

theorem stated_terms_ok (position : Nat) (change : Change) (stated : StatedTerms)
    (accepted : statedTerms position change = .ok stated) :
    stated.ratePerUnitMicros = change.ratePerUnitMicros ∧
      stated.unitQuantity = change.unitQuantity ∧ stated.fixedMicros = change.fixedMicros ∧
      stated.pricingMethod = change.pricingMethod.bind PricingMethod.ofText := by
  simp only [statedTerms, bind_eq_ok, pure_eq_ok] at accepted
  obtain ⟨method, ratified, shape, _, rfl⟩ := accepted
  refine ⟨rfl, rfl, rfl, ?_⟩
  unfold ratifiedMethod at ratified
  split at ratified
  · rename_i unstated
    simp only [pure_eq_ok] at ratified
    simp [← ratified, unstated]
  · rename_i text wrote
    split at ratified
    · simp at ratified
    · rename_i found
      simp only [pure_eq_ok] at ratified
      simp [← ratified, wrote, found]

theorem fits_get_d (stated : Option Int) (base : Int) (fits : fitsBigint base = true) :
    fitsBigint (stated.getD base) = true ↔ ∀ value, stated = some value → fitsBigint value = true := by
  cases stated <;> simp [fits]

theorem stated_terms_checked (position : Nat) (change : Change) (stated : StatedTerms) (base : Terms)
    (accepted : statedTerms position change = .ok stated)
    (perUnit : fitsBigint base.ratePerUnitMicros = true)
    (quantity : fitsBigint base.unitQuantity = true) (fixed : fitsBigint base.fixedMicros = true) :
    (((base.stating stated).pricingMethod = some .marginOverCost →
        (base.stating stated).ratePerUnitMicros = 0 ∧ (base.stating stated).fixedMicros = 0) ∧
      fitsBigint (base.stating stated).ratePerUnitMicros = true ∧
      fitsBigint (base.stating stated).unitQuantity = true ∧
      fitsBigint (base.stating stated).fixedMicros = true) ↔
      change.NeverComposes base ∧ change.TermsFit := by
  obtain ⟨sameRate, sameQuantity, sameFixed, sameMethod⟩ := stated_terms_ok _ _ _ accepted
  simp only [Terms.stating, sameRate, sameQuantity, sameFixed, sameMethod, fits_get_d _ _ perUnit,
    fits_get_d _ _ quantity, fits_get_d _ _ fixed, Change.NeverComposes, Change.methodOver,
    Change.TermsFit]

theorem default_terms_fit (book : Book) :
    fitsBigint (defaultTerms book).ratePerUnitMicros = true ∧
      fitsBigint (defaultTerms book).unitQuantity = true ∧
      fitsBigint (defaultTerms book).fixedMicros = true := by
  cases book <;> simp [defaultTerms, fitsBigint]

theorem rule_currency_usd {tables : Tables} (constrained : Constrained tables) (ref : BookRef)
    (book : Book) (located : tables.book? ref = some book) : tables.ruleCurrency book = "usd" := by
  cases book with
  | pricing held => simp [Tables.ruleCurrency, constrained.tenantCurrency]
  | cost held =>
    cases ref with
    | pricing id => simp [Tables.book?] at located
    | cost id =>
      simp only [Tables.book?, Option.map_eq_some_iff, Book.cost.injEq] at located
      obtain ⟨row, found, rfl⟩ := located
      exact constrained.costCurrency row (List.mem_of_find?_eq_some found)

theorem born_rate_books (currency : String) (book : Book) (effectiveAt : Int) (id : Nat)
    (change : PlannedChange) (terms : Terms) (born : change.outgoing = none) :
    (incomingRate currency book effectiveAt id change terms).pricingBook.isSome = !book.isCost ∧
      ((incomingRate currency book effectiveAt id change terms).pricingBook.isSome = true →
        (incomingRate currency book effectiveAt id change terms).costBook = none) := by
  rw [incomingRate, born]
  cases book <;> simp [Book.ref, Book.isCost]

theorem add_acceptable_iff {tables : Tables} (constrained : Constrained tables) (ref : BookRef)
    (book : Book) (located : tables.book? ref = some book) (effectiveAt : Int) (id position : Nat)
    (change : Change) (stated : StatedTerms) (declaration : Measurement)
    (fits : fitsPositiveInteger (book.version + 1) = true)
    (accepted : statedTerms position change = .ok stated)
    (method : book.isCost = true → stated.pricingMethod = none) :
    Acceptable (incomingRate (tables.ruleCurrency book) book effectiveAt id
        ⟨.add, change.measurementKey.getD "", change.statedSelectors, none,
          some ((defaultTerms book).stating stated), some declaration⟩
        ((defaultTerms book).stating stated)) ↔
      change.NeverComposes (defaultTerms book) ∧ change.TermsFit ∧ change.SelectorsFit := by
  obtain ⟨perUnit, quantity, fixed⟩ := default_terms_fit book
  have merged := stated_terms_checked position change stated (defaultTerms book) accepted perUnit
    quantity fixed
  have currency := rule_currency_usd constrained ref book located
  obtain ⟨sold, oneBook⟩ := born_rate_books (tables.ruleCurrency book) book effectiveAt id
    ⟨.add, change.measurementKey.getD "", change.statedSelectors, none,
      some ((defaultTerms book).stating stated), some declaration⟩ ((defaultTerms book).stating stated) rfl
  have selling := sold.trans (show (!book.isCost) = ((defaultTerms book).stating stated).pricingMethod.isSome by
    cases book with
    | pricing held => cases stated.pricingMethod <;> simp [Terms.stating, defaultTerms, Book.isCost]
    | cost held => simp [Terms.stating, defaultTerms, Book.isCost, method rfl])
  rw [Acceptable, rate_checks_iff]
  simp only [incomingRate, currency, fits, Option.isSome_some, Change.SelectorsFit]
  constructor
  · rintro ⟨_, _, _, _, composed, _, perUnitFits, quantityFits, fixedFits, widths, _⟩
    obtain ⟨never, within⟩ := merged.1 ⟨composed, perUnitFits, quantityFits, fixedFits⟩
    exact ⟨never, within, widths⟩
  · rintro ⟨never, within, widths⟩
    obtain ⟨composed, perUnitFits, quantityFits, fixedFits⟩ := merged.2 ⟨never, within⟩
    exact ⟨trivial, trivial, oneBook, by simp, composed, selling, perUnitFits, quantityFits,
      fixedFits, widths, trivial⟩

theorem reprice_acceptable_iff {tables : Tables} (constrained : Constrained tables)
    (book : Book) (effectiveAt : Int) (currency : String) (id position : Nat) (change : Change)
    (stated : StatedTerms) (outgoing : Rate)
    (fits : fitsPositiveInteger (book.version + 1) = true)
    (accepted : statedTerms position change = .ok stated)
    (method : book.isCost = true → stated.pricingMethod = none)
    (stored : outgoing ∈ tables.rates) (within : outgoing.isIn book.ref = true) :
    Acceptable (incomingRate currency book effectiveAt id
        ⟨.reprice, change.measurementKey.getD "", change.statedSelectors, some outgoing,
          some (outgoing.terms.stating stated), none⟩ (outgoing.terms.stating stated)) ↔
      outgoing.measurement.isSome = true ∧ change.NeverComposes outgoing.terms ∧ change.TermsFit := by
  obtain ⟨usd, oneBook, _, _, selling, perUnit, quantity, fixed, widths, _⟩ :=
    (rate_checks_iff outgoing).1 (constrained.rateChecks outgoing stored)
  have merged := stated_terms_checked position change stated outgoing.terms accepted perUnit
    quantity fixed
  -- The method of the outgoing rule is there exactly in a Pricing Book, and
  -- stating one keeps that so.
  have sellingKept : outgoing.pricingBook.isSome =
      (outgoing.terms.stating stated).pricingMethod.isSome := by
    cases book with
    | pricing held =>
      simp only [Book.ref, Rate.isIn, beq_iff_eq] at within
      rw [within] at selling ⊢
      cases stated.pricingMethod <;> simp [Terms.stating, ← selling]
    | cost held => rw [selling]; simp [Terms.stating, method rfl]
  rw [Acceptable, rate_checks_iff]
  simp only [incomingRate, fits, beq_self_eq_true]
  constructor
  · rintro ⟨declared, _, _, _, composed, _, perUnitFits, quantityFits, fixedFits, _⟩
    obtain ⟨never, within⟩ := merged.1 ⟨composed, perUnitFits, quantityFits, fixedFits⟩
    exact ⟨declared, never, within⟩
  · rintro ⟨declared, never, within⟩
    obtain ⟨composed, perUnitFits, quantityFits, fixedFits⟩ := merged.2 ⟨never, within⟩
    exact ⟨declared, usd, oneBook, declared, composed, sellingKept, perUnitFits, quantityFits,
      fixedFits, widths, trivial⟩

theorem fits_bigint_iff (value : Int) :
    fitsBigint value = true ↔ -9223372036854775808 ≤ value ∧ value ≤ 9223372036854775807 := by
  simp [fitsBigint]

theorem task_price_checks_iff (row : TaskPrice) :
    firstViolation row.checks = none ↔
      0 ≤ row.agreedPriceMicros ∧ fitsBigint row.agreedPriceMicros = true ∧
        row.taskType.length ≤ 64 ∧ fitsPositiveInteger row.bookVersionFrom = true := by
  rw [no_violation_iff]
  simp only [TaskPrice.checks, List.mem_cons, List.not_mem_nil, or_false, forall_eq_or_imp,
    forall_eq, decide_eq_true_eq]

theorem price_acceptable_iff {tables : Tables} (constrained : Constrained tables) (book : Book)
    (held id : Nat) (effectiveAt : Int) (planned : PlannedAgreedPrice) (amount : Int)
    (policy : TaskType) (fits : fitsPositiveInteger (book.version + 1) = true)
    (notNegative : 0 ≤ amount)
    (sold : taskTypePolicy tables book.tenant planned.taskType .task = some policy) :
    firstViolation (incomingTaskPrice book held effectiveAt id planned amount).checks = none ↔
      amount ≤ 9223372036854775807 := by
  have short : planned.taskType.length ≤ 64 := by
    have named := List.find?_some sold
    simp only [Bool.and_eq_true, beq_iff_eq] at named
    have bounded := constrained.taskTypeKeys policy (List.mem_of_find?_eq_some sold)
    rw [named.1.2] at bounded
    exact bounded
  have low : -9223372036854775808 ≤ amount := by omega
  rw [task_price_checks_iff, fits_bigint_iff]
  constructor
  · rintro ⟨_, ⟨_, high⟩, _⟩
    exact high
  · intro high
    exact ⟨notNegative, ⟨low, high⟩, short, fits⟩

theorem close_rate_succeeds (effectiveAt : Int) (version id : Nat) (rows : List Rate)
    (held : ∃ row ∈ rows, row.id = id)
    (closable : ∀ row ∈ rows, row.id = id → row.validTo = none ∨ row.validTo = some effectiveAt) :
    ∃ after, closeRate effectiveAt version id rows = .ok after := by
  obtain ⟨row, inside, same⟩ := held
  unfold closeRate
  cases found : rows.find? (fun row => decide (row.id = id)) with
  | none => exact absurd same (find_key_none Rate.id id rows found row inside)
  | some hit =>
    obtain ⟨listed, named⟩ := find_key_some Rate.id id rows hit found
    have passes : (hit.validTo.isSome && hit.validTo != some effectiveAt) = false := by
      obtain closes | closes := closable hit listed named <;>
        simp [closes]
    simp [passes, pure, Except.pure]

theorem close_task_price_succeeds (effectiveAt : Int) (version id : Nat) (rows : List TaskPrice)
    (held : ∃ row ∈ rows, row.id = id)
    (closable : ∀ row ∈ rows, row.id = id → row.validTo = none ∨ row.validTo = some effectiveAt) :
    ∃ after, closeTaskPrice effectiveAt version id rows = .ok after := by
  obtain ⟨row, inside, same⟩ := held
  unfold closeTaskPrice
  cases found : rows.find? (fun row => decide (row.id = id)) with
  | none => exact absurd same (find_key_none TaskPrice.id id rows found row inside)
  | some hit =>
    obtain ⟨listed, named⟩ := find_key_some TaskPrice.id id rows hit found
    have passes : (hit.validTo.isSome && hit.validTo != some effectiveAt) = false := by
      obtain closes | closes := closable hit listed named <;>
        simp [closes]
    simp [passes, pure, Except.pure]

theorem insert_rate_succeeds (row : Rate) (rows : List Rate) (acceptable : Acceptable row)
    (apart : ∀ other ∈ rows, row.sharesActiveKey other = false) :
    insertRate row rows = .ok (rows ++ [row]) := by
  obtain ⟨declared, clean⟩ := acceptable
  obtain ⟨measurement, found⟩ := Option.isSome_iff_exists.1 declared
  have unshared : rows.any row.sharesActiveKey = false := by
    rw [List.any_eq_false]
    intro other inside
    simp [apart other inside]
  unfold insertRate
  rw [clean]
  simp [found, unshared, pure, Except.pure]

theorem insert_task_price_succeeds (row : TaskPrice) (rows : List TaskPrice)
    (clean : firstViolation row.checks = none)
    (apart : ∀ other ∈ rows, row.sharesActiveKey other = false) :
    insertTaskPrice row rows = .ok (rows ++ [row]) := by
  have unshared : rows.any row.sharesActiveKey = false := by
    rw [List.any_eq_false]
    intro other inside
    simp [apart other inside]
  unfold insertTaskPrice
  rw [clean]
  simp [unshared, pure, Except.pure]

-- Rows of one active key are one identity: the key names the declaration by
-- id, and an id names one declaration.
theorem active_key_identity {tables : Tables} (constrained : Constrained tables) (row other : Rate)
    (declared : ∀ measurement, row.measurement = some measurement →
      measurement ∈ tables.measurements)
    (alsoDeclared : ∀ measurement, other.measurement = some measurement →
      measurement ∈ tables.measurements)
    (shares : row.sharesActiveKey other = true) :
    row.identity = other.identity ∧ other.validTo = none ∧
      ∀ ref, row.isIn ref = true → firstViolation row.checks = none → other.isIn ref = true := by
  simp only [Rate.sharesActiveKey, Bool.and_eq_true, Bool.or_eq_true, Option.isNone_iff_eq_none,
    beq_iff_eq, decide_eq_true_eq] at shares
  obtain ⟨⟨⟨⟨⟨⟨_, isOpen⟩, books⟩, placed⟩, sameId⟩, _⟩, sameSelectors⟩ := shares
  obtain ⟨measurement, found⟩ := Option.isSome_iff_exists.1 placed
  rw [found, Option.map_some] at sameId
  obtain ⟨also, foundAlso, idAlso⟩ := Option.map_eq_some_iff.1 sameId.symm
  have same : also = measurement := List.inj_on_of_nodup_map constrained.measurementIds
    (alsoDeclared also foundAlso) (declared measurement found) idAlso
  refine ⟨?_, isOpen, ?_⟩
  · simp [Rate.identity, Rate.measurementKey, found, foundAlso, same, sameSelectors]
  · intro ref within clean
    obtain ⟨_, oneBook, _⟩ := (rate_checks_iff row).1 clean
    cases ref with
    | pricing id =>
      simp only [Rate.isIn, beq_iff_eq] at within ⊢
      obtain ⟨_, sameBook⟩ | ⟨inCost, _⟩ := books
      · rw [← sameBook, within]
      · simp [oneBook (by simp [within])] at inCost
    | cost id =>
      simp only [Rate.isIn, beq_iff_eq] at within ⊢
      obtain ⟨inPricing, _⟩ | ⟨_, sameBook⟩ := books
      · simp [oneBook inPricing] at within
      · rw [← sameBook, within]

theorem declaration_named_mem (tables : Tables) (tenant : Nat) (key : String)
    (declaration : Measurement) (named : declarationNamed tables tenant key = some declaration) :
    declaration ∈ tables.measurements := by
  unfold declarationNamed at named
  split at named
  · simp at named
  · have listed := List.mem_of_mem_head? named
    rw [List.mem_insertionSort, List.mem_filter] at listed
    exact listed.1

theorem opened_rate_declared {tables : Tables} (constrained : Constrained tables) {book : Book}
    {effectiveAt : Int} {change : Change} {planned : Planned}
    (made : PlannedAs tables book effectiveAt change planned) (currency : String)
    (opening : PlannedChange × Terms) (row : Rate)
    (opens : planned.rateOpening = some opening)
    (opened : OpensRate currency book effectiveAt opening row) (measurement : Measurement)
    (names : row.measurement = some measurement) : measurement ∈ tables.measurements := by
  rw [opened.1] at names
  cases made with
  | addRate position stated declaration kind terms method vacant noneOpen declared =>
    simp only [Planned.rateOpening, Option.map_some, Option.some.injEq] at opens
    subst opens
    simp only [incomingRate, Option.some.injEq] at names
    exact names ▸ declaration_named_mem _ _ _ _ declared
  | repriceRate position stated outgoing kind terms method held =>
    simp only [Planned.rateOpening, Option.map_some, Option.some.injEq] at opens
    subst opens
    simp only [incomingRate] at names
    exact constrained.measurementsHeld outgoing
      ((mem_rules_in_force _ _ _ _).1 held.inForce).1 measurement names
  | _ => simp [Planned.rateOpening] at opens

theorem open_rate_in_force {tables : Tables} {ref : BookRef} {effectiveAt : Int}
    (floor : ∀ boundary ∈ boundaries tables ref, boundary ≤ effectiveAt) (row : Rate)
    (stored : row ∈ tables.rates) (within : row.isIn ref = true) (isOpen : row.validTo = none) :
    row ∈ rulesInForceAt tables ref effectiveAt := by
  have opens := floor _ (rate_boundaries tables ref row (List.mem_filter.2 ⟨stored, within⟩)).1
  rw [mem_rules_in_force]
  refine ⟨stored, within, ?_⟩
  rw [Rate.inForceAt, in_window_iff, isOpen]
  exact ⟨opens, by simp⟩

theorem open_task_price_in_force {tables : Tables} {ref : BookRef} {effectiveAt : Int}
    (floor : ∀ boundary ∈ boundaries tables ref, boundary ≤ effectiveAt) (row : TaskPrice)
    (stored : row ∈ tables.taskPrices) (within : row.isIn ref = true) (kind : row.kind = .task)
    (isOpen : row.validTo = none) : row ∈ agreedPricesInForceAt tables ref effectiveAt := by
  have opens := floor _ (task_price_boundaries tables ref row
    (List.mem_filter.2 ⟨stored, by simp [within, kind]⟩)).1
  rw [mem_agreed_prices_in_force]
  refine ⟨stored, within, kind, ?_⟩
  rw [TaskPrice.inForceAt, in_window_iff, isOpen]
  exact ⟨opens, by simp⟩

structure Progress (before : Tables) (book : Book) (effectiveAt : Int) (written : Tables)
    (done : List Planned) (rates : List Rate) (prices : List TaskPrice) : Prop where
  constrained : Constrained before
  floor : ∀ boundary ∈ boundaries before book.ref, boundary ≤ effectiveAt
  made : ∀ one ∈ done, ∃ change, PlannedAs before book effectiveAt change one
  wrote : Wrote book effectiveAt done before written rates prices

section

variable {before written : Tables} {book : Book} {effectiveAt : Int} {done : List Planned}
  {rates : List Rate} {prices : List TaskPrice}

theorem progress_rate (progress : Progress before book effectiveAt written done rates prices)
    (row : Rate) (inside : row ∈ written.rates) :
    (row ∈ before.rates ∨ row.validTo = some effectiveAt ∧ ∃ old ∈ before.rates, old.id = row.id) ∨
      (row ∈ rates ∧ row.identity ∈ done.map Planned.identity ∧
        ∀ measurement, row.measurement = some measurement → measurement ∈ before.measurements) := by
  rw [progress.wrote.rateRows, mem_replace_rows] at inside
  obtain ⟨old, stored, rfl⟩ | fresh := inside
  · left
    split
    · exact .inr ⟨rfl, old, stored, rfl⟩
    · exact .inl stored
  · right
    refine ⟨fresh, ?_⟩
    obtain ⟨opening, listed, opened⟩ := forall_two_right progress.wrote.openedRates row fresh
    obtain ⟨one, inDone, opens⟩ := List.mem_filterMap.1 listed
    obtain ⟨change, made⟩ := progress.made one inDone
    obtain ⟨identity, _⟩ := opened_rate_line made _ _ _ opens opened
    exact ⟨List.mem_map.2 ⟨one, inDone, identity.symm⟩,
      opened_rate_declared progress.constrained made _ _ _ opens opened⟩

theorem progress_price (progress : Progress before book effectiveAt written done rates prices)
    (row : TaskPrice) (inside : row ∈ written.taskPrices) :
    (row ∈ before.taskPrices ∨
        row.validTo = some effectiveAt ∧ ∃ old ∈ before.taskPrices, old.id = row.id) ∨
      (row ∈ prices ∧ row.identity ∈ done.map Planned.identity) := by
  rw [progress.wrote.priceRows, mem_replace_rows] at inside
  obtain ⟨old, stored, rfl⟩ | fresh := inside
  · left
    split
    · exact .inr ⟨rfl, old, stored, rfl⟩
    · exact .inl stored
  · right
    refine ⟨fresh, ?_⟩
    obtain ⟨opening, listed, opened⟩ := forall_two_right progress.wrote.openedPrices row fresh
    obtain ⟨one, inDone, opens⟩ := List.mem_filterMap.1 listed
    obtain ⟨change, made⟩ := progress.made one inDone
    obtain ⟨identity, _⟩ := opened_task_price_line made _ _ opens opened
    exact List.mem_map.2 ⟨one, inDone, identity.symm⟩

theorem outgoing_rate_closes (progress : Progress before book effectiveAt written done rates prices)
    (outgoing : Rate) (stored : outgoing ∈ before.rates) (isOpen : outgoing.validTo = none) :
    ∃ after, closeRate effectiveAt book.version outgoing.id written.rates = .ok after := by
  apply close_rate_succeeds
  · rw [progress.wrote.rateRows]
    refine ⟨_, (mem_replace_rows _ _ _ _ _).2 (.inl ⟨outgoing, stored, rfl⟩), ?_⟩
    split <;> rfl
  · intro row inside same
    obtain (old | ⟨closed, _⟩) | ⟨fresh, _⟩ := progress_rate progress row inside
    · have found := List.inj_on_of_nodup_map progress.constrained.rateIds old stored same
      exact .inl (found ▸ isOpen)
    · exact .inr closed
    · have above := (progress.wrote.rateIds.2 row fresh).1
      have below := progress.constrained.rateIdsUsed outgoing stored
      omega

theorem outgoing_task_price_closes
    (progress : Progress before book effectiveAt written done rates prices)
    (outgoing : TaskPrice) (stored : outgoing ∈ before.taskPrices)
    (isOpen : outgoing.validTo = none) :
    ∃ after, closeTaskPrice effectiveAt book.version outgoing.id written.taskPrices =
      .ok after := by
  apply close_task_price_succeeds
  · rw [progress.wrote.priceRows]
    refine ⟨_, (mem_replace_rows _ _ _ _ _).2 (.inl ⟨outgoing, stored, rfl⟩), ?_⟩
    split <;> rfl
  · intro row inside same
    obtain (old | ⟨closed, _⟩) | ⟨fresh, _⟩ := progress_price progress row inside
    · have found := List.inj_on_of_nodup_map progress.constrained.priceIds old stored same
      exact .inl (found ▸ isOpen)
    · exact .inr closed
    · have above := (progress.wrote.priceIds.2 row fresh).1
      have below := progress.constrained.priceIdsUsed outgoing stored
      omega

theorem open_rate_is_outgoing (floor : ∀ boundary ∈ boundaries before book.ref, boundary ≤ effectiveAt)
    {change : Change} {planned : PlannedChange}
    (made : PlannedAs before book effectiveAt change (.rate planned)) (old : Rate)
    (stored : old ∈ before.rates) (within : old.isIn book.ref = true) (isOpen : old.validTo = none)
    (same : old.identity = Planned.identity (.rate planned)) :
    ∃ outgoing, planned.outgoing = some outgoing ∧ outgoing.id = old.id := by
  have inForce := open_rate_in_force floor old stored within isOpen
  have closes := planned_rate_closes made old inForce same
  simpa [Planned.closedRate, Option.map_eq_some_iff] using closes

theorem open_task_price_is_outgoing
    (floor : ∀ boundary ∈ boundaries before book.ref, boundary ≤ effectiveAt)
    {change : Change} {planned : PlannedAgreedPrice}
    (made : PlannedAs before book effectiveAt change (.agreedPrice planned)) (old : TaskPrice)
    (stored : old ∈ before.taskPrices) (within : old.isIn book.ref = true)
    (kind : old.kind = .task) (isOpen : old.validTo = none)
    (same : old.identity = Planned.identity (.agreedPrice planned)) :
    ∃ outgoing, planned.outgoing = some outgoing ∧ outgoing.id = old.id := by
  have inForce := open_task_price_in_force floor old stored within kind isOpen
  have closes := planned_task_price_closes made old inForce same
  simpa [Planned.closedTaskPrice, Option.map_eq_some_iff] using closes

theorem close_outgoing_rate_succeeds {written : Written}
    (progress : Progress before book effectiveAt written.tables done rates prices)
    {change : Change} {planned : PlannedChange}
    (made : PlannedAs before book effectiveAt change (.rate planned)) :
    ∃ closed, closeOutgoingRate book effectiveAt written planned.outgoing = .ok closed := by
  cases leaving : planned.outgoing with
  | none => exact ⟨written, rfl⟩
  | some outgoing =>
    obtain ⟨held, same, line⟩ := closed_rate_held made outgoing.id
      (by simp [Planned.closedRate, leaving])
    have stored := ((mem_rules_in_force _ _ _ _).1 line.inForce).1
    obtain ⟨after, closes⟩ := outgoing_rate_closes progress held stored line.isOpen
    rw [same] at closes
    simp only [closeOutgoingRate, bind_eq_ok, pure_eq_ok]
    exact ⟨_, after, closes, rfl⟩

theorem close_outgoing_task_price_succeeds {written : Written}
    (progress : Progress before book effectiveAt written.tables done rates prices)
    {change : Change} {planned : PlannedAgreedPrice}
    (made : PlannedAs before book effectiveAt change (.agreedPrice planned)) :
    ∃ closed, closeOutgoingTaskPrice book effectiveAt written planned.outgoing = .ok closed := by
  cases leaving : planned.outgoing with
  | none => exact ⟨written, rfl⟩
  | some outgoing =>
    obtain ⟨held, taskType, same, _, line⟩ := closed_task_price_held made outgoing.id
      (by simp [Planned.closedTaskPrice, leaving])
    have stored := ((mem_agreed_prices_in_force _ _ _ _).1 line.inForce).1
    obtain ⟨after, closes⟩ := outgoing_task_price_closes progress held stored line.isOpen
    rw [same] at closes
    simp only [closeOutgoingTaskPrice, bind_eq_ok, pure_eq_ok]
    exact ⟨_, after, closes, rfl⟩

theorem incoming_rate_apart {written closed : Written}
    (progress : Progress before book effectiveAt written.tables done rates prices)
    {change : Change} {planned : PlannedChange}
    (made : PlannedAs before book effectiveAt change (.rate planned))
    (fresh : Planned.identity (.rate planned) ∉ done.map Planned.identity)
    (closing : closeOutgoingRate book effectiveAt written planned.outgoing = .ok closed)
    (currency : String) (opening : PlannedChange × Terms) (row : Rate)
    (opens : (Planned.rate planned).rateOpening = some opening)
    (opened : OpensRate currency book effectiveAt opening row) :
    ∀ other ∈ closed.tables.rates, row.sharesActiveKey other = false := by
  intro other inside
  by_contra conflict
  have shares : row.sharesActiveKey other = true := by simpa using conflict
  obtain ⟨identity, _, within, _, _⟩ := opened_rate_line made currency opening row opens opened
  have declared := opened_rate_declared progress.constrained made currency opening row opens opened
  have stillOpen : other.validTo = none := by
    simp only [Rate.sharesActiveKey, Bool.and_eq_true, Option.isNone_iff_eq_none] at shares
    exact shares.1.1.1.1.1.2
  rw [close_outgoing_rate_ok _ _ _ _ _ closing] at inside
  simp only [mem_replace_rows, List.not_mem_nil, or_false] at inside
  obtain ⟨held, stored, kept⟩ := inside
  split at kept
  · rw [← kept] at stillOpen
    simp [Rate.closeAt] at stillOpen
  · rename_i notClosed
    subst kept
    obtain (old | ⟨shut, _⟩) | ⟨_, named, alsoDeclared⟩ := progress_rate progress held stored
    · -- An open line found there: the change itself closed it.
      obtain ⟨same, isOpen, booked⟩ := active_key_identity progress.constrained row held declared
        (progress.constrained.measurementsHeld held old) shares
      obtain ⟨outgoing, leaving, sameId⟩ := open_rate_is_outgoing progress.floor made held old
        (booked _ within opened.2.2) isOpen (same.symm.trans identity)
      apply notClosed
      simp [leaving, sameId]
    · rw [shut] at stillOpen
      cases stillOpen
    · obtain ⟨same, _, _⟩ := active_key_identity progress.constrained row held declared
        alsoDeclared shares
      rw [← same, identity] at named
      exact fresh named

theorem incoming_task_price_apart {written closed : Written}
    (progress : Progress before book effectiveAt written.tables done rates prices)
    {change : Change} {planned : PlannedAgreedPrice}
    (made : PlannedAs before book effectiveAt change (.agreedPrice planned))
    (fresh : Planned.identity (.agreedPrice planned) ∉ done.map Planned.identity)
    (closing : closeOutgoingTaskPrice book effectiveAt written planned.outgoing = .ok closed)
    (opening : PlannedAgreedPrice × Int) (row : TaskPrice)
    (opens : (Planned.agreedPrice planned).taskPriceOpening = some opening)
    (opened : OpensTaskPrice book effectiveAt opening row) :
    ∀ other ∈ closed.tables.taskPrices, row.sharesActiveKey other = false := by
  intro other inside
  by_contra conflict
  have shares : row.sharesActiveKey other = true := by simpa using conflict
  obtain ⟨identity, _, within, kind, _, _⟩ := opened_task_price_line made opening row opens opened
  simp only [TaskPrice.sharesActiveKey, Bool.and_eq_true, Option.isNone_iff_eq_none,
    beq_iff_eq] at shares
  obtain ⟨⟨⟨⟨_, stillOpen⟩, sameBook⟩, sameKind⟩, sameType⟩ := shares
  have same : other.identity = Planned.identity (.agreedPrice planned) := by
    rw [← identity, TaskPrice.identity, TaskPrice.identity, sameType]
  rw [close_outgoing_task_price_ok _ _ _ _ _ closing] at inside
  simp only [mem_replace_rows, List.not_mem_nil, or_false] at inside
  obtain ⟨held, stored, kept⟩ := inside
  split at kept
  · rw [← kept] at stillOpen
    simp [TaskPrice.closeAt] at stillOpen
  · rename_i notClosed
    subst kept
    obtain (old | ⟨shut, _⟩) | ⟨_, named⟩ := progress_price progress held stored
    · have heldWithin : held.isIn book.ref = true := by
        cases ref : book.ref with
        | pricing id => rw [ref] at within; simpa [TaskPrice.isIn, ← sameBook] using within
        | cost id => rw [ref] at within; simp [TaskPrice.isIn] at within
      obtain ⟨outgoing, leaving, sameId⟩ := open_task_price_is_outgoing progress.floor made held old
        heldWithin (sameKind ▸ kind) stillOpen same
      apply notClosed
      simp [leaving, sameId]
    · rw [shut] at stillOpen
      cases stillOpen
    · rw [same] at named
      exact fresh named

def Accepted (tables : Tables) (book : Book) (effectiveAt : Int) (planned : Planned) : Prop :=
  (∀ opening, planned.rateOpening = some opening → ∀ id,
      Acceptable (incomingRate (tables.ruleCurrency book) book effectiveAt id opening.1 opening.2)) ∧
    ∀ opening, planned.taskPriceOpening = some opening → ∀ held id,
      firstViolation (incomingTaskPrice book held effectiveAt id opening.1 opening.2).checks = none

theorem publish_a_rate_succeeds {written : Written}
    (progress : Progress before book effectiveAt written.tables done rates prices)
    {change : Change} {planned : PlannedChange}
    (made : PlannedAs before book effectiveAt change (.rate planned))
    (fresh : Planned.identity (.rate planned) ∉ done.map Planned.identity)
    (accepted : Accepted before book effectiveAt (.rate planned)) :
    ∃ after, publishARate book effectiveAt written planned = .ok after := by
  obtain ⟨closed, closing⟩ := close_outgoing_rate_succeeds progress made
  have currency : closed.tables.ruleCurrency book = before.ruleCurrency book := by
    rw [close_outgoing_rate_ok _ _ _ _ _ closing, progress.wrote.frame]
    rfl
  simp only [publishARate, bind_eq_ok]
  cases stated : planned.terms with
  | none => exact ⟨closed, closed, closing, rfl⟩
  | some terms =>
    have opens : (Planned.rate planned).rateOpening = some (planned, terms) := by
      simp [Planned.rateOpening, stated]
    have acceptable := accepted.1 _ opens closed.tables.nextId
    have apart := incoming_rate_apart progress made fresh closing (before.ruleCurrency book) _ _ opens
      ⟨by rw [incoming_rate_id], acceptable⟩
    have inserts := insert_rate_succeeds _ closed.tables.rates acceptable apart
    have opensOne : ∃ after, openIncomingRate book effectiveAt planned closed (some terms) =
        .ok after := by
      simp only [openIncomingRate, bind_eq_ok, pure_eq_ok, currency]
      exact ⟨_, _, inserts, rfl⟩
    obtain ⟨after, opening⟩ := opensOne
    exact ⟨after, closed, closing, opening⟩

theorem publish_an_agreed_price_succeeds {written : Written}
    (progress : Progress before book effectiveAt written.tables done rates prices)
    {change : Change} {planned : PlannedAgreedPrice}
    (made : PlannedAs before book effectiveAt change (.agreedPrice planned))
    (fresh : Planned.identity (.agreedPrice planned) ∉ done.map Planned.identity)
    (accepted : Accepted before book effectiveAt (.agreedPrice planned)) :
    ∃ after, publishAnAgreedPrice book effectiveAt written planned = .ok after := by
  obtain ⟨closed, closing⟩ := close_outgoing_task_price_succeeds progress made
  simp only [publishAnAgreedPrice, bind_eq_ok]
  cases stated : planned.amount with
  | none => exact ⟨closed, closed, closing, rfl⟩
  | some amount =>
    cases ref : book.ref with
    | cost held =>
      refine ⟨closed, closed, closing, ?_⟩
      simp only [openIncomingTaskPrice, ref, pure_eq_ok]
    | pricing held =>
      have opens : (Planned.agreedPrice planned).taskPriceOpening = some (planned, amount) := by
        simp [Planned.taskPriceOpening, stated]
      have clean := accepted.2 _ opens held closed.tables.nextId
      have apart := incoming_task_price_apart progress made fresh closing _ _ opens ⟨rfl, ref, clean⟩
      have inserts := insert_task_price_succeeds _ closed.tables.taskPrices clean apart
      have opensOne : ∃ after, openIncomingTaskPrice book effectiveAt planned closed (some amount) =
          .ok after := by
        simp only [openIncomingTaskPrice, ref, bind_eq_ok, pure_eq_ok]
        exact ⟨_, _, inserts, rfl⟩
      obtain ⟨after, opening⟩ := opensOne
      exact ⟨after, closed, closing, opening⟩

end

theorem closed_rates_stored {tables : Tables} (constrained : Constrained tables) {book : Book}
    {effectiveAt : Int} {planned : List Planned}
    (made : ∀ one ∈ planned, ∃ change, PlannedAs tables book effectiveAt change one) :
    (∀ id ∈ planned.filterMap Planned.closedRate, id < tables.nextId) ∧
      ∀ id ∈ planned.filterMap Planned.closedTaskPrice, id < tables.nextId := by
  constructor
  · intro id inside
    obtain ⟨one, listed, closes⟩ := List.mem_filterMap.1 inside
    obtain ⟨change, shape⟩ := made one listed
    obtain ⟨outgoing, rfl, held⟩ := closed_rate_held shape id closes
    exact constrained.rateIdsUsed outgoing ((mem_rules_in_force _ _ _ _).1 held.inForce).1
  · intro id inside
    obtain ⟨one, listed, closes⟩ := List.mem_filterMap.1 inside
    obtain ⟨change, shape⟩ := made one listed
    obtain ⟨outgoing, taskType, rfl, _, held⟩ := closed_task_price_held shape id closes
    exact constrained.priceIdsUsed outgoing ((mem_agreed_prices_in_force _ _ _ _).1 held.inForce).1

-- The induction is on the changes still to write; what is written so far is the
-- progress, and wrote_append carries it past the next change.
theorem publish_fold_succeeds {before : Tables} {book : Book} {effectiveAt : Int}
    (rest done : List Planned) (written : Written) (rates : List Rate) (prices : List TaskPrice)
    (progress : Progress before book effectiveAt written.tables done rates prices)
    (made : ∀ one ∈ rest, ∃ change, PlannedAs before book effectiveAt change one)
    (distinct : ((done ++ rest).map Planned.identity).Nodup)
    (accepted : ∀ one ∈ rest, Accepted before book effectiveAt one) :
    ∃ after, rest.foldlM (publishPlanned book effectiveAt) written = .ok after := by
  induction rest generalizing done written rates prices with
  | nil => exact ⟨written, rfl⟩
  | cons one rest hypothesis =>
    obtain ⟨change, shape⟩ := made one (by simp)
    have fresh : one.identity ∉ done.map Planned.identity := by
      intro listed
      rw [List.map_append, List.map_cons, List.nodup_append] at distinct
      exact distinct.2.2 one.identity listed one.identity (by simp) rfl
    have steps : ∃ middle, publishPlanned book effectiveAt written one = .ok middle := by
      cases one with
      | rate planned =>
        exact publish_a_rate_succeeds progress shape fresh (accepted _ (by simp))
      | agreedPrice planned =>
        exact publish_an_agreed_price_succeeds progress shape fresh (accepted _ (by simp))
    obtain ⟨middle, head⟩ := steps
    obtain ⟨newRates, newPrices, wroteOne⟩ := publish_planned_wrote book effectiveAt written middle one
      (fun priced same => planned_agreed_price_book (same ▸ shape)) head
    have single : ∀ other ∈ [one], ∃ change, PlannedAs before book effectiveAt change other := by
      intro other inside
      rw [List.mem_singleton.1 inside]
      exact ⟨change, shape⟩
    obtain ⟨oldRates, oldPrices⟩ := closed_rates_stored progress.constrained single
    have extended : Progress before book effectiveAt middle.tables (done ++ [one])
        (rates ++ newRates) (prices ++ newPrices) := by
      refine ⟨progress.constrained, progress.floor, ?_, ?_⟩
      · intro other inside
        cases List.mem_append.1 inside with
        | inl early => exact progress.made other early
        | inr late => exact single other late
      · exact wrote_append book effectiveAt done [one] _ _ _ _ _ _ _ oldRates oldPrices
          progress.wrote wroteOne
    obtain ⟨after, tail⟩ := hypothesis (done ++ [one]) middle _ _ extended
      (fun other inside => made other (List.mem_cons_of_mem one inside))
      (by simpa using distinct)
      (fun other inside => accepted other (List.mem_cons_of_mem one inside))
    exact ⟨after, (fold_m_cons_ok _ _ _ _ _).2 ⟨middle, head, tail⟩⟩

theorem accepted_iff_publishable {tables : Tables} (constrained : Constrained tables) (ref : BookRef)
    (book : Book) (located : tables.book? ref = some book) (effectiveAt : Int) (change : Change)
    (planned : Planned) (fits : fitsPositiveInteger (book.version + 1) = true)
    (plan : PlannedFor tables book effectiveAt change planned) :
    Accepted tables book effectiveAt planned ↔ change.Publishable tables book effectiveAt := by
  obtain ⟨line, made⟩ := plan
  cases made with
  | addRate position stated declaration kind terms method vacant noneOpen declared =>
    have row := fun id => add_acceptable_iff constrained ref book located effectiveAt id position change
      stated declaration fits terms method
    simp [Accepted, Change.Publishable, line, kind, Planned.line, Planned.rateOpening,
      Planned.taskPriceOpening, row]
  | repriceRate position stated outgoing kind terms method held =>
    obtain ⟨stored, within, _⟩ := (mem_rules_in_force _ _ _ _).1 held.inForce
    have row := fun id => reprice_acceptable_iff constrained book effectiveAt
      (tables.ruleCurrency book) id position change stated outgoing fits terms method stored within
    simp only [Accepted, Change.Publishable, line, kind, Planned.line, Planned.rateOpening,
      Planned.taskPriceOpening, Option.map_some, Option.some.injEq, forall_eq', row,
      reduceCtorEq, false_implies, implies_true, and_true, forall_const]
    constructor
    · intro accepted rule inForce named
      rw [held.only rule inForce named]
      exact accepted
    · intro publishable
      exact publishable outgoing held.inForce held.named
  | retireRate outgoing kind held =>
    simp [Accepted, Change.Publishable, line, kind, Planned.line, Planned.rateOpening,
      Planned.taskPriceOpening]
  | addAgreedPrice amount policy kind stated notNegative sold pricing vacant noneOpen =>
    have row := fun held id => price_acceptable_iff constrained book held id effectiveAt
      ⟨.add, (change.selectors .taskType).getD "", none, some amount⟩ amount policy fits notNegative sold
    simp [Accepted, Change.Publishable, line, kind, Planned.line, Planned.rateOpening,
      Planned.taskPriceOpening, stated, row]
  | repriceAgreedPrice amount policy outgoing kind stated notNegative sold pricing held =>
    have row := fun held id => price_acceptable_iff constrained book held id effectiveAt
      ⟨.reprice, (change.selectors .taskType).getD "", some outgoing, some amount⟩ amount policy fits
      notNegative sold
    simp [Accepted, Change.Publishable, line, kind, Planned.line, Planned.rateOpening,
      Planned.taskPriceOpening, stated, row]
  | retireAgreedPrice outgoing kind pricing held =>
    simp [Accepted, Change.Publishable, line, kind, Planned.line, Planned.rateOpening,
      Planned.taskPriceOpening]

theorem forall_two_left {Left Right : Type} {Related : Left → Right → Prop} {lefts : List Left}
    {rights : List Right} (related : List.Forall₂ Related lefts rights) (left : Left)
    (inside : left ∈ lefts) : ∃ right ∈ rights, Related left right := by
  induction related with
  | nil => simp at inside
  | cons here _ hypothesis =>
    cases List.mem_cons.1 inside with
    | inl first =>
      rw [first]
      exact ⟨_, by simp, here⟩
    | inr later =>
      obtain ⟨right, listed, holds⟩ := hypothesis later
      exact ⟨right, List.mem_cons_of_mem _ listed, holds⟩

theorem wrote_accepted {book : Book} {effectiveAt : Int} {planned : List Planned}
    {before after : Tables} {rates : List Rate} {prices : List TaskPrice}
    (wrote : Wrote book effectiveAt planned before after rates prices) :
    ∀ one ∈ planned, Accepted before book effectiveAt one := by
  intro one inside
  constructor
  · intro opening opens id
    obtain ⟨row, _, shape, declared, clean⟩ := forall_two_left wrote.openedRates opening
      (List.mem_filterMap.2 ⟨one, inside, opens⟩)
    rw [rate_checks_iff] at clean
    rw [shape] at declared clean
    rw [Acceptable, rate_checks_iff]
    cases leaving : opening.1.outgoing with
    | none =>
      simp only [incomingRate, leaving] at declared clean ⊢
      exact ⟨declared, clean⟩
    | some outgoing =>
      simp only [incomingRate, leaving] at declared clean ⊢
      exact ⟨declared, clean⟩
  · intro opening opens held id
    obtain ⟨row, _, shape, _, clean⟩ := forall_two_left wrote.openedPrices opening
      (List.mem_filterMap.2 ⟨one, inside, opens⟩)
    rw [task_price_checks_iff] at clean ⊢
    rw [shape] at clean
    exact clean

theorem plan_from_congr (tables : Tables) (nextId : Nat) (publishes : List PricingBookPublish)
    (book : Book) (effectiveAt : Int) (changes : List Change) (position : Nat)
    (claimed : List LineIdentity) :
    planFrom { tables with nextId := nextId, publishes := publishes } book effectiveAt position claimed
        changes = planFrom tables book effectiveAt position claimed changes := by
  induction changes generalizing position claimed with
  | nil => rfl
  | cons change rest hypothesis =>
    have here : planChange { tables with nextId := nextId, publishes := publishes } book effectiveAt
        position claimed change = planChange tables book effectiveAt position claimed change := rfl
    simp only [planFrom, here, hypothesis]

theorem plan_changes_congr (tables : Tables) (nextId : Nat) (publishes : List PricingBookPublish)
    (book : Book) (changes : List Change) (effectiveAt : Int) :
    planChanges { tables with nextId := nextId, publishes := publishes } book changes effectiveAt =
      planChanges tables book changes effectiveAt := by
  simp only [planChanges, plan_from_congr]
  rfl

theorem save_version_iff (ref : BookRef) (version : Nat) (tables : Tables) :
    (∃ saved, saveVersion ref version tables = .ok saved) ↔ fitsPositiveInteger version = true := by
  constructor
  · rintro ⟨saved, saves⟩
    exact (save_version_ok _ _ _ _ saves).1
  · intro fits
    cases ref with
    | pricing id => exact ⟨_, by rw [saveVersion, if_pos fits]; rfl⟩
    | cost id => exact ⟨_, by rw [saveVersion, if_pos fits]; rfl⟩

-- Publishing the draft just declared: the plan is the one declare made, and the
-- writes start from the book as declare found it, one draft and one id later.
theorem publish_draft_iff {tables declared : Tables} (constrained : Constrained tables)
    (book : Book) (planned : List Planned) (ref : BookRef) (changes : List Change)
    (effectiveAt : Int) (located : tables.book? ref = some book)
    (plans : planChanges tables book changes effectiveAt = .ok planned)
    (same : declared = { tables with
      nextId := tables.nextId + 1
      publishes := tables.publishes ++ [draftOf tables book changes effectiveAt] }) :
    (∃ after, publishDeclared declared tables.nextId = .ok after) ↔
      (∃ written, planned.foldlM (publishPlanned book effectiveAt) ⟨declared, [], [], [], []⟩ =
        .ok written) ∧ fitsPositiveInteger (book.version + 1) = true := by
  have found : declared.publishes.find? (fun record => decide (record.id = tables.nextId)) =
      some (draftOf tables book changes effectiveAt) := by
    have absent : tables.publishes.find? (fun record => decide (record.id = tables.nextId)) =
        none := by
      rw [List.find?_eq_none]
      intro record inside
      have below := constrained.publishIdsUsed record inside
      simp only [decide_eq_true_eq]
      omega
    rw [same, List.find?_append, absent]
    simp [draftOf]
  have sameRef := book_ref tables ref book located
  have locatedNow : declared.book? (draftOf tables book changes effectiveAt).book = some book := by
    have unchanged : declared.book? ref = tables.book? ref := by rw [same]; cases ref <;> rfl
    rw [draftOf, sameRef, unchanged, located]
  have plansNow : planChanges declared book changes effectiveAt = .ok planned := by
    rw [same, plan_changes_congr, plans]
  unfold publishDeclared
  rw [found]
  simp only [draftOf] at locatedNow
  simp only [draftOf, Bool.false_eq_true, if_false, locatedNow, plansNow, bind_eq_ok, liftPlan,
    liftIntegrity, map_error_eq_ok, writePublish, pure_eq_ok, Except.ok.injEq]
  constructor
  · rintro ⟨after, _, rfl, written, writes, saved, saves, _⟩
    exact ⟨⟨written, writes⟩, (save_version_iff _ _ _).1 ⟨saved, saves⟩⟩
  · rintro ⟨⟨written, writes⟩, fits⟩
    obtain ⟨saved, saves⟩ := (save_version_iff book.ref _ written.tables).2 fits
    exact ⟨_, planned, rfl, written, writes, saved, saves, rfl⟩

theorem planned_for_congr {tables : Tables} (nextId : Nat) (publishes : List PricingBookPublish)
    {book : Book} {effectiveAt : Int} {change : Change} {planned : Planned}
    (made : PlannedAs tables book effectiveAt change planned) :
    PlannedAs { tables with nextId := nextId, publishes := publishes } book effectiveAt change
      planned := by
  cases made with
  | addRate position stated declaration kind terms method vacant noneOpen declared =>
    exact .addRate position stated declaration kind terms method vacant noneOpen declared
  | repriceRate position stated outgoing kind terms method held =>
    exact .repriceRate position stated outgoing kind terms method
      ⟨held.inForce, held.named, held.isOpen, held.only⟩
  | retireRate outgoing kind held =>
    exact .retireRate outgoing kind ⟨held.inForce, held.named, held.isOpen, held.only⟩
  | addAgreedPrice amount policy kind stated notNegative sold pricing vacant noneOpen =>
    exact .addAgreedPrice amount policy kind stated notNegative sold pricing vacant noneOpen
  | repriceAgreedPrice amount policy outgoing kind stated notNegative sold pricing held =>
    exact .repriceAgreedPrice amount policy outgoing kind stated notNegative sold pricing
      ⟨held.inForce, held.named, held.isOpen, held.only⟩
  | retireAgreedPrice outgoing kind pricing held =>
    exact .retireAgreedPrice outgoing kind pricing
      ⟨held.inForce, held.named, held.isOpen, held.only⟩

theorem constrained_with_draft {tables : Tables} (constrained : Constrained tables)
    (draft : PricingBookPublish) (numbered : draft.id = tables.nextId) :
    Constrained { tables with
      nextId := tables.nextId + 1, publishes := tables.publishes ++ [draft] } where
  rateIds := constrained.rateIds
  rateIdsUsed := fun rate inside => (constrained.rateIdsUsed rate inside).trans (Nat.lt_succ_self _)
  priceIds := constrained.priceIds
  priceIdsUsed := fun line inside => (constrained.priceIdsUsed line inside).trans (Nat.lt_succ_self _)
  publishIdsUsed := by
    intro record inside
    show record.id < tables.nextId + 1
    cases List.mem_append.1 inside with
    | inl early =>
      have below := constrained.publishIdsUsed record early
      omega
    | inr late =>
      rw [List.mem_singleton.1 late, numbered]
      exact Nat.lt_succ_self _
  rateChecks := constrained.rateChecks
  measurementIds := constrained.measurementIds
  measurementsHeld := constrained.measurementsHeld
  tenantCurrency := constrained.tenantCurrency
  costCurrency := constrained.costCurrency
  taskTypeKeys := constrained.taskTypeKeys

def DraftPublishable (tables : Tables) (ref : BookRef) (changes : List Change) (effectiveAt : Int) :
    Prop :=
  ∀ book, tables.book? ref = some book →
    fitsPositiveInteger (book.version + 1) = true ∧
      ∀ change ∈ changes, change.Publishable tables book effectiveAt

theorem accepted_draft_publishes_iff (tables declared : Tables) (ref : BookRef)
    (changes : List Change) (effectiveAt : Int) (constrained : Constrained tables)
    (accepted : declare tables ref changes effectiveAt = .ok declared) :
    (∃ after, publishDeclared declared tables.nextId = .ok after) ↔
      DraftPublishable tables ref changes effectiveAt := by
  obtain ⟨book, planned, located, plans, same⟩ := declare_ok _ _ _ _ _ accepted
  obtain ⟨each, distinct, floor⟩ := plan_changes_ok _ _ _ _ _ plans
  have made := planned_of_forall each
  have madeNow : ∀ one ∈ planned, ∃ change, PlannedAs declared book effectiveAt change one := by
    intro one inside
    obtain ⟨change, shape⟩ := made one inside
    rw [same]
    exact ⟨change, planned_for_congr _ _ shape⟩
  have pricing : ∀ change, Planned.agreedPrice change ∈ planned → book.isCost = false := by
    intro change inside
    obtain ⟨stated, shape⟩ := made _ inside
    exact planned_agreed_price_book shape
  have constrainedNow : Constrained declared := by
    rw [same]
    exact constrained_with_draft constrained _ rfl
  have acceptedNow : ∀ one, Accepted declared book effectiveAt one ↔
      Accepted tables book effectiveAt one := by
    intro one
    rw [same]
    cases book <;> exact Iff.rfl
  have publishable : DraftPublishable tables ref changes effectiveAt ↔
      fitsPositiveInteger (book.version + 1) = true ∧
        ∀ change ∈ changes, change.Publishable tables book effectiveAt := by
    simp [DraftPublishable, located]
  rw [publish_draft_iff constrained book planned ref changes effectiveAt located plans same,
    publishable, and_comm]
  apply and_congr_right
  intro fits
  constructor
  · rintro ⟨written, writes⟩ change inside
    obtain ⟨oldRates, oldPrices⟩ := closed_rates_stored constrainedNow madeNow
    obtain ⟨rates, prices, wrote⟩ := publish_fold_wrote book effectiveAt planned
      ⟨declared, [], [], [], []⟩ written pricing oldRates oldPrices writes
    obtain ⟨one, listed, plan⟩ := forall_two_left each change inside
    have ok := (acceptedNow one).1 (wrote_accepted wrote one listed)
    exact (accepted_iff_publishable constrained ref book located effectiveAt change one fits plan).1 ok
  · intro each'
    have floorNow : ∀ boundary ∈ boundaries declared book.ref, boundary ≤ effectiveAt := by
      rw [same]
      exact floor
    apply publish_fold_succeeds planned [] ⟨declared, [], [], [], []⟩ [] []
      ⟨constrainedNow, floorNow, by simp, wrote_nothing book effectiveAt declared⟩ madeNow
      (by simpa using distinct)
    intro one inside
    obtain ⟨change, listed, plan⟩ := forall_two_right each one inside
    rw [acceptedNow]
    exact (accepted_iff_publishable constrained ref book located effectiveAt change one fits plan).2
      (each' change listed)

def tokens : Measurement := ⟨0, 1, "tokens", 0⟩

def tokenRule : Rate where
  id := 3
  tenant := 1
  customer := none
  selectors := fun _ => ""
  measurement := some tokens
  undeclaredMeasurementKey := ""
  terms := ⟨5, 1000000, 0, some .directEventPrice, .perUnit⟩
  currency := "usd"
  pricingBook := some 1
  costBook := none
  lineage := 3
  bookVersionFrom := 2
  bookVersionTo := none
  validFrom := 10
  validTo := none

def tokenTables : Tables :=
  { emptyTables with
    nextId := 4
    measurements := [tokens]
    pricingBooks := [⟨1, 1, none, "standard", 2, true⟩]
    rates := [tokenRule] }

def repriceTokens (perUnit : Option Int) (method : Option String) : Change where
  line := "rate"
  kind := "reprice"
  measurementKey := some "tokens"
  selectors := fun _ => none
  ratePerUnitMicros := perUnit
  unitQuantity := none
  fixedMicros := none
  pricingMethod := method
  rateStructure := none
  agreedPriceMicros := none

theorem token_tables_constrained : Constrained tokenTables where
  rateIds := by decide
  rateIdsUsed := by decide
  priceIds := by decide
  priceIdsUsed := by decide
  publishIdsUsed := by decide
  rateChecks := by decide
  measurementIds := by decide
  measurementsHeld := by simp [tokenTables, tokenRule]
  tenantCurrency := fun _ => rfl
  costCurrency := by decide
  taskTypeKeys := by decide

-- Repricing a direct rule to a margin keeps its five micros: planned, then refused.
theorem margin_reprice_accepted_then_refused :
    ∃ declared, declare tokenTables (.pricing 1)
        [repriceTokens none (some "margin_over_cost")] 20 = .ok declared ∧
      publishDeclared declared tokenTables.nextId = .error (.integrity .neverComposes) :=
  ⟨_, rfl, rfl⟩

theorem zeroed_margin_reprice_publishes :
    ∃ declared after, declare tokenTables (.pricing 1)
        [repriceTokens (some 0) (some "margin_over_cost")] 20 = .ok declared ∧
      publishDeclared declared tokenTables.nextId = .ok after := by
  have accepted : ∃ declared, declare tokenTables (.pricing 1)
      [repriceTokens (some 0) (some "margin_over_cost")] 20 = .ok declared := ⟨_, rfl⟩
  obtain ⟨declared, declares⟩ := accepted
  have publishable : DraftPublishable tokenTables (.pricing 1)
      [repriceTokens (some 0) (some "margin_over_cost")] 20 := by
    intro book located
    have found : book = .pricing ⟨1, 1, none, "standard", 2, true⟩ := by
      simpa [Tables.book?, tokenTables] using located.symm
    subst found
    refine ⟨by decide, ?_⟩
    intro change inside
    rw [List.mem_singleton.1 inside]
    intro rule inForce _
    have only : rule = tokenRule := by
      simpa [rulesInForceAt, tokenTables, tokenRule, Rate.isIn, Book.ref] using
        List.mem_of_mem_filter inForce
    subst only
    refine ⟨rfl, ?_, ?_⟩
    · intro _
      exact ⟨rfl, rfl⟩
    · refine ⟨?_, ?_, ?_⟩
      · intro value stated
        cases stated
        decide
      · intro value stated
        cases stated
      · intro value stated
        cases stated
  obtain ⟨after, publishes⟩ := (accepted_draft_publishes_iff tokenTables declared (.pricing 1) _ 20
    token_tables_constrained declares).2 publishable
  exact ⟨declared, after, declares, publishes⟩

end Ubb.Pricing
