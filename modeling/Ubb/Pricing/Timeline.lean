import Ubb.Pricing.Catalogue
import Ubb.Pricing.Writes

set_option autoImplicit false

-- A book's timeline over every run of its writers: no gap, no overlap, no
-- rewritten past.
namespace Ubb.Pricing

open Library

def Rate.asOpened (rate : Rate) : Rate := { rate with validTo := none, bookVersionTo := none }

def TaskPrice.asOpened (line : TaskPrice) : TaskPrice :=
  { line with validTo := none, bookVersionTo := none }

def ratesOf (tables : Tables) (book : BookRef) : List Rate :=
  tables.rates.filter (fun rate => rate.isIn book)

def agreedPricesOf (tables : Tables) (book : BookRef) : List TaskPrice :=
  tables.taskPrices.filter (fun line => line.isIn book && line.kind == .task)

theorem rules_in_force_eq (tables : Tables) (book : BookRef) (instant : Int) :
    rulesInForceAt tables book instant =
      rowsInForce Rate.validFrom Rate.validTo instant (ratesOf tables book) := by
  simp only [rulesInForceAt, rowsInForce, ratesOf, List.filter_filter, Rate.inForceAt, Bool.and_comm]

theorem agreed_prices_in_force_eq (tables : Tables) (book : BookRef) (instant : Int) :
    agreedPricesInForceAt tables book instant =
      rowsInForce TaskPrice.validFrom TaskPrice.validTo instant (agreedPricesOf tables book) := by
  simp only [agreedPricesInForceAt, rowsInForce, agreedPricesOf, List.filter_filter,
    TaskPrice.inForceAt, Bool.and_comm]

def lineTermsAt (tables : Tables) (book : BookRef) (instant : Int) : LineIdentity → Option LineTerms
  | .rate measurementKey selectors =>
      ((rulesInForceAt tables book instant).find? (fun rate =>
        rate.identity == .rate measurementKey selectors)).map (fun rate => .rate rate.terms)
  | .agreedPrice taskType =>
      ((agreedPricesInForceAt tables book instant).find? (fun line =>
        line.taskType == taskType)).map (fun line => .agreedPrice line.agreedPriceMicros)

structure Tidy (tables : Tables) : Prop where
  rateIds : (tables.rates.map Rate.id).Nodup
  rateIdsUsed : ∀ rate ∈ tables.rates, rate.id < tables.nextId
  priceIds : (tables.taskPrices.map TaskPrice.id).Nodup
  priceIdsUsed : ∀ line ∈ tables.taskPrices, line.id < tables.nextId
  oneBook : ∀ rate ∈ tables.rates, ∀ left right, rate.isIn left = true → rate.isIn right = true →
    left = right
  ratesApart : ∀ book, OneInForce Rate.validFrom Rate.validTo Rate.identity (ratesOf tables book)
  pricesApart : ∀ book,
    OneInForce TaskPrice.validFrom TaskPrice.validTo TaskPrice.identity (agreedPricesOf tables book)

theorem rate_of_id {tables : Tables} (tidy : Tidy tables) (left right : Rate)
    (inLeft : left ∈ tables.rates) (inRight : right ∈ tables.rates) (same : left.id = right.id) :
    left = right :=
  List.inj_on_of_nodup_map tidy.rateIds inLeft inRight same

theorem task_price_of_id {tables : Tables} (tidy : Tidy tables) (left right : TaskPrice)
    (inLeft : left ∈ tables.taskPrices) (inRight : right ∈ tables.taskPrices)
    (same : left.id = right.id) : left = right :=
  List.inj_on_of_nodup_map tidy.priceIds inLeft inRight same

theorem mem_rules_in_force (tables : Tables) (book : BookRef) (instant : Int) (rate : Rate) :
    rate ∈ rulesInForceAt tables book instant ↔
      rate ∈ tables.rates ∧ rate.isIn book = true ∧ rate.inForceAt instant = true := by
  simp [rulesInForceAt]

theorem mem_agreed_prices_in_force (tables : Tables) (book : BookRef) (instant : Int)
    (line : TaskPrice) :
    line ∈ agreedPricesInForceAt tables book instant ↔
      line ∈ tables.taskPrices ∧ line.isIn book = true ∧ line.kind = .task ∧
        line.inForceAt instant = true := by
  simp [agreedPricesInForceAt, and_assoc]

theorem declaration_named_code (tables : Tables) (tenant : Nat) (key : String)
    (declaration : Measurement) (named : declarationNamed tables tenant key = some declaration) :
    declaration.code = key := by
  unfold declarationNamed at named
  split at named
  · simp at named
  · have listed := List.mem_of_mem_head? named
    rw [List.mem_insertionSort, List.mem_filter] at listed
    simpa using And.right (by simpa using listed.2)

theorem closed_rate_held {tables : Tables} {book : Book} {effectiveAt : Int} {change : Change}
    {planned : Planned} (made : PlannedAs tables book effectiveAt change planned) (id : Nat)
    (closes : planned.closedRate = some id) :
    ∃ outgoing, outgoing.id = id ∧
      OutgoingRate tables book.ref effectiveAt planned.identity outgoing := by
  cases made with
  | repriceRate position stated outgoing kind terms method held =>
    simp only [Planned.closedRate, Option.map_some, Option.some.injEq] at closes
    exact ⟨outgoing, closes, held⟩
  | retireRate outgoing kind held =>
    simp only [Planned.closedRate, Option.map_some, Option.some.injEq] at closes
    exact ⟨outgoing, closes, held⟩
  | _ => simp [Planned.closedRate] at closes

theorem closed_task_price_held {tables : Tables} {book : Book} {effectiveAt : Int} {change : Change}
    {planned : Planned} (made : PlannedAs tables book effectiveAt change planned) (id : Nat)
    (closes : planned.closedTaskPrice = some id) :
    ∃ outgoing taskType, outgoing.id = id ∧ planned.identity = .agreedPrice taskType ∧
      OutgoingTaskPrice tables book.ref effectiveAt taskType outgoing := by
  cases made with
  | repriceAgreedPrice amount policy outgoing kind stated notNegative sold pricing held =>
    simp only [Planned.closedTaskPrice, Option.map_some, Option.some.injEq] at closes
    exact ⟨outgoing, _, closes, rfl, held⟩
  | retireAgreedPrice outgoing kind pricing held =>
    simp only [Planned.closedTaskPrice, Option.map_some, Option.some.injEq] at closes
    exact ⟨outgoing, _, closes, rfl, held⟩
  | _ => simp [Planned.closedTaskPrice] at closes

theorem planned_rate_closes {tables : Tables} {book : Book} {effectiveAt : Int} {change : Change}
    {planned : Planned} (made : PlannedAs tables book effectiveAt change planned) (rate : Rate)
    (inForce : rate ∈ rulesInForceAt tables book.ref effectiveAt)
    (named : rate.identity = planned.identity) : planned.closedRate = some rate.id := by
  cases made with
  | addRate position stated declaration kind terms method vacant noneOpen declared =>
    exact absurd named (vacant rate inForce)
  | repriceRate position stated outgoing kind terms method held =>
    simp [Planned.closedRate, held.only rate inForce named]
  | retireRate outgoing kind held =>
    simp [Planned.closedRate, held.only rate inForce named]
  | _ => cases named

theorem planned_task_price_closes {tables : Tables} {book : Book} {effectiveAt : Int}
    {change : Change} {planned : Planned}
    (made : PlannedAs tables book effectiveAt change planned) (line : TaskPrice)
    (inForce : line ∈ agreedPricesInForceAt tables book.ref effectiveAt)
    (named : line.identity = planned.identity) : planned.closedTaskPrice = some line.id := by
  cases made with
  | addAgreedPrice amount policy kind stated notNegative sold pricing vacant noneOpen =>
    exact absurd (LineIdentity.agreedPrice.inj named) (vacant line inForce)
  | repriceAgreedPrice amount policy outgoing kind stated notNegative sold pricing held =>
    simp [Planned.closedTaskPrice, held.only line inForce (LineIdentity.agreedPrice.inj named)]
  | retireAgreedPrice outgoing kind pricing held =>
    simp [Planned.closedTaskPrice, held.only line inForce (LineIdentity.agreedPrice.inj named)]
  | _ => cases named

theorem opened_rate_line {tables : Tables} {book : Book} {effectiveAt : Int} {change : Change}
    {planned : Planned} (made : PlannedAs tables book effectiveAt change planned)
    (currency : String) (opening : PlannedChange × Terms) (row : Rate)
    (opens : planned.rateOpening = some opening)
    (opened : OpensRate currency book effectiveAt opening row) :
    row.identity = planned.identity ∧ row.terms = opening.2 ∧ row.isIn book.ref = true ∧
      row.validFrom = effectiveAt ∧ row.validTo = none := by
  obtain ⟨shape, declaredRow, _⟩ := opened
  cases made with
  | addRate position stated declaration kind terms method vacant noneOpen declared =>
    simp only [Planned.rateOpening, Option.map_some, Option.some.injEq] at opens
    subst opens
    have code := declaration_named_code _ _ _ _ declared
    rw [shape]
    refine ⟨?_, rfl, ?_, rfl, rfl⟩
    · simp [Rate.identity, Rate.measurementKey, incomingRate, Planned.identity, code]
    · cases book <;> simp [incomingRate, Book.ref, Rate.isIn]
  | repriceRate position stated outgoing kind terms method held =>
    simp only [Planned.rateOpening, Option.map_some, Option.some.injEq] at opens
    subst opens
    have within := ((mem_rules_in_force _ _ _ _).1 held.inForce).2.1
    have placed : outgoing.measurement.isSome = true := by
      rw [shape] at declaredRow
      simpa [incomingRate] using declaredRow
    obtain ⟨measurement, found⟩ := Option.isSome_iff_exists.1 placed
    have named := held.named
    rw [shape]
    refine ⟨?_, rfl, ?_, rfl, rfl⟩
    · rw [Planned.identity, ← named]
      simp [Rate.identity, Rate.measurementKey, incomingRate, found]
    · cases book <;> simpa [incomingRate, Book.ref, Rate.isIn] using within
  | _ => simp [Planned.rateOpening] at opens

theorem opened_task_price_line {tables : Tables} {book : Book} {effectiveAt : Int}
    {change : Change} {planned : Planned}
    (made : PlannedAs tables book effectiveAt change planned)
    (opening : PlannedAgreedPrice × Int) (row : TaskPrice)
    (opens : planned.taskPriceOpening = some opening)
    (opened : OpensTaskPrice book effectiveAt opening row) :
    row.identity = planned.identity ∧ row.agreedPriceMicros = opening.2 ∧
      row.isIn book.ref = true ∧ row.kind = .task ∧ row.validFrom = effectiveAt ∧
      row.validTo = none := by
  obtain ⟨shape, within, _⟩ := opened
  have named : opening.1.taskType = row.taskType := by
    rw [shape]; rfl
  have identity : LineIdentity.agreedPrice opening.1.taskType = planned.identity := by
    cases made with
    | addAgreedPrice amount policy kind stated notNegative sold pricing vacant noneOpen =>
      simp only [Planned.taskPriceOpening, Option.map_some, Option.some.injEq] at opens
      rw [← opens]; rfl
    | repriceAgreedPrice amount policy outgoing kind stated notNegative sold pricing held =>
      simp only [Planned.taskPriceOpening, Option.map_some, Option.some.injEq] at opens
      rw [← opens]; rfl
    | _ => simp [Planned.taskPriceOpening] at opens
  refine ⟨?_, ?_, ?_, ?_, ?_, ?_⟩
  · rw [← identity, named]; rfl
  · rw [shape]; rfl
  · rw [within]; simp [TaskPrice.isIn]
  · rw [shape]; rfl
  · rw [shape]; rfl
  · rw [shape]; rfl

structure Publication (before after : Tables) (book : Book) (effectiveAt : Int)
    (planned : List Planned) (rates : List Rate) (prices : List TaskPrice) : Prop where
  tidy : Tidy before
  made : ∀ one ∈ planned, ∃ change, PlannedAs before book effectiveAt change one
  distinct : (planned.map Planned.identity).Nodup
  floor : ∀ boundary ∈ boundaries before book.ref, boundary ≤ effectiveAt
  wrote : Wrote book effectiveAt planned before after rates prices

section

variable {before after : Tables} {book : Book} {effectiveAt : Int} {planned : List Planned}
  {rates : List Rate} {prices : List TaskPrice}

theorem publication_rates
    (publication : Publication before after book effectiveAt planned rates prices) :
    rates.map (fun row => (row.identity, row.terms)) = planned.filterMap (fun one =>
        one.rateOpening.map (fun opening => (one.identity, opening.2))) ∧
      ∀ row ∈ rates, row.isIn book.ref = true ∧ row.validFrom = effectiveAt ∧ row.validTo = none := by
  apply opened_rows_shown Planned.rateOpening _ _ _ _ planned rates _ publication.wrote.openedRates
  intro one inside opening row opens opened
  obtain ⟨change, made⟩ := publication.made one inside
  obtain ⟨identity, terms, within, start, endless⟩ := opened_rate_line made _ _ _ opens opened
  exact ⟨by rw [identity, terms], within, start, endless⟩

theorem publication_prices
    (publication : Publication before after book effectiveAt planned rates prices) :
    prices.map (fun row => (row.identity, row.agreedPriceMicros)) = planned.filterMap (fun one =>
        one.taskPriceOpening.map (fun opening => (one.identity, opening.2))) ∧
      ∀ row ∈ prices, (row.isIn book.ref = true ∧ row.kind = .task) ∧
        row.validFrom = effectiveAt ∧ row.validTo = none := by
  apply opened_rows_shown Planned.taskPriceOpening _ _ _ _ planned prices _
    publication.wrote.openedPrices
  intro one inside opening row opens opened
  obtain ⟨change, made⟩ := publication.made one inside
  obtain ⟨identity, amount, within, kind, start, endless⟩ :=
    opened_task_price_line made _ _ opens opened
  exact ⟨by rw [identity, amount], ⟨within, kind⟩, start, endless⟩

theorem publication_rates_distinct
    (publication : Publication before after book effectiveAt planned rates prices) :
    (rates.map Rate.identity).Nodup := by
  have shown := congrArg (List.map Prod.fst) (publication_rates publication).1
  simp only [List.map_map, Function.comp_def, List.map_filterMap, Option.map_map] at shown
  rw [shown]
  exact (opened_names_sublist _ _ _).nodup publication.distinct

theorem publication_prices_distinct
    (publication : Publication before after book effectiveAt planned rates prices) :
    (prices.map TaskPrice.identity).Nodup := by
  have shown := congrArg (List.map Prod.fst) (publication_prices publication).1
  simp only [List.map_map, Function.comp_def, List.map_filterMap, Option.map_map] at shown
  rw [shown]
  exact (opened_names_sublist _ _ _).nodup publication.distinct

theorem closed_rate_outgoing
    (publication : Publication before after book effectiveAt planned rates prices) (row : Rate)
    (inside : row ∈ before.rates)
    (closes : row.id ∈ planned.filterMap Planned.closedRate) :
    ∃ one ∈ planned, OutgoingRate before book.ref effectiveAt one.identity row := by
  obtain ⟨one, listed, closing⟩ := List.mem_filterMap.1 closes
  obtain ⟨change, made⟩ := publication.made one listed
  obtain ⟨outgoing, same, held⟩ := closed_rate_held made _ closing
  have stored := ((mem_rules_in_force _ _ _ _).1 held.inForce).1
  have found := rate_of_id publication.tidy outgoing row stored inside same
  exact ⟨one, listed, found ▸ held⟩

theorem closed_task_price_outgoing
    (publication : Publication before after book effectiveAt planned rates prices)
    (row : TaskPrice) (inside : row ∈ before.taskPrices)
    (closes : row.id ∈ planned.filterMap Planned.closedTaskPrice) :
    ∃ one ∈ planned, ∃ taskType, one.identity = .agreedPrice taskType ∧
      OutgoingTaskPrice before book.ref effectiveAt taskType row := by
  obtain ⟨one, listed, closing⟩ := List.mem_filterMap.1 closes
  obtain ⟨change, made⟩ := publication.made one listed
  obtain ⟨outgoing, taskType, same, named, held⟩ := closed_task_price_held made _ closing
  have stored := ((mem_agreed_prices_in_force _ _ _ _).1 held.inForce).1
  have found := task_price_of_id publication.tidy outgoing row stored inside same
  exact ⟨one, listed, taskType, named, found ▸ held⟩

theorem publication_rates_of
    (publication : Publication before after book effectiveAt planned rates prices) :
    ratesOf after book.ref = replaceRows (fun row => row.closeAt effectiveAt book.version)
      (fun row => decide (row.id ∈ planned.filterMap Planned.closedRate)) rates
      (ratesOf before book.ref) := by
  rw [ratesOf, publication.wrote.rateRows, filter_replace_rows]
  · congr 1
    rw [List.filter_eq_self]
    exact fun row inside => ((publication_rates publication).2 row inside).1
  · intro row
    cases book.ref <;> rfl

theorem publication_prices_of
    (publication : Publication before after book effectiveAt planned rates prices) :
    agreedPricesOf after book.ref = replaceRows (fun row => row.closeAt effectiveAt book.version)
      (fun row => decide (row.id ∈ planned.filterMap Planned.closedTaskPrice)) prices
      (agreedPricesOf before book.ref) := by
  rw [agreedPricesOf, publication.wrote.priceRows, filter_replace_rows]
  · congr 1
    rw [List.filter_eq_self]
    intro row inside
    obtain ⟨⟨within, kind⟩, _⟩ := (publication_prices publication).2 row inside
    simp [within, kind]
  · intro row
    cases book.ref <;> rfl

theorem rate_boundaries (tables : Tables) (ref : BookRef) (row : Rate)
    (inside : row ∈ ratesOf tables ref) :
    row.validFrom ∈ boundaries tables ref ∧
      ∀ instant, row.validTo = some instant → instant ∈ boundaries tables ref := by
  constructor
  · apply List.mem_append_left
    exact List.mem_flatMap.2 ⟨row, inside, by simp⟩
  · intro instant ends
    apply List.mem_append_left
    exact List.mem_flatMap.2 ⟨row, inside, by simp [ends]⟩

theorem task_price_boundaries (tables : Tables) (ref : BookRef) (row : TaskPrice)
    (inside : row ∈ agreedPricesOf tables ref) :
    row.validFrom ∈ boundaries tables ref ∧
      ∀ instant, row.validTo = some instant → instant ∈ boundaries tables ref := by
  have held : row ∈ tables.taskPrices.filter (fun line => line.isIn ref) := by
    simp only [agreedPricesOf, List.mem_filter, Bool.and_eq_true] at inside
    exact List.mem_filter.2 ⟨inside.1, inside.2.1⟩
  constructor
  · apply List.mem_append_right
    exact List.mem_flatMap.2 ⟨row, held, by simp⟩
  · intro instant ends
    apply List.mem_append_right
    exact List.mem_flatMap.2 ⟨row, held, by simp [ends]⟩

theorem publication_changes_rates
    (publication : Publication before after book effectiveAt planned rates prices) :
    ChangesAt Rate.validFrom Rate.validTo (fun row => row.closeAt effectiveAt book.version)
      (fun row => decide (row.id ∈ planned.filterMap Planned.closedRate)) effectiveAt rates
      (ratesOf before book.ref) where
  opensKept := fun _ => rfl
  closesThere := fun _ => rfl
  wasOpen := by
    intro row inside closes
    obtain ⟨one, _, held⟩ := closed_rate_outgoing publication row (List.mem_filter.1 inside).1
      (by simpa using closes)
    exact held.isOpen
  floor := fun row inside => publication.floor _ (rate_boundaries before _ row inside).1
  ceiling := fun row inside instant ends =>
    publication.floor _ ((rate_boundaries before _ row inside).2 instant ends)
  opensThere := fun row inside => ((publication_rates publication).2 row inside).2

theorem publication_changes_prices
    (publication : Publication before after book effectiveAt planned rates prices) :
    ChangesAt TaskPrice.validFrom TaskPrice.validTo
      (fun row => row.closeAt effectiveAt book.version)
      (fun row => decide (row.id ∈ planned.filterMap Planned.closedTaskPrice)) effectiveAt prices
      (agreedPricesOf before book.ref) where
  opensKept := fun _ => rfl
  closesThere := fun _ => rfl
  wasOpen := by
    intro row inside closes
    obtain ⟨one, _, taskType, _, held⟩ := closed_task_price_outgoing publication row
      (List.mem_filter.1 inside).1 (by simpa using closes)
    exact held.isOpen
  floor := fun row inside => publication.floor _ (task_price_boundaries before _ row inside).1
  ceiling := fun row inside instant ends =>
    publication.floor _ ((task_price_boundaries before _ row inside).2 instant ends)
  opensThere := fun row inside => ((publication_prices publication).2 row inside).2

theorem closed_rate_iff_named
    (publication : Publication before after book effectiveAt planned rates prices) (row : Rate)
    (inForce : row ∈ rulesInForceAt before book.ref effectiveAt) :
    row.id ∈ planned.filterMap Planned.closedRate ↔ row.identity ∈ planned.map Planned.identity := by
  have stored := ((mem_rules_in_force _ _ _ _).1 inForce).1
  constructor
  · intro closes
    obtain ⟨one, listed, held⟩ := closed_rate_outgoing publication row stored closes
    exact List.mem_map.2 ⟨one, listed, held.named.symm⟩
  · intro named
    obtain ⟨one, listed, same⟩ := List.mem_map.1 named
    obtain ⟨change, made⟩ := publication.made one listed
    exact List.mem_filterMap.2 ⟨one, listed, planned_rate_closes made row inForce same.symm⟩

theorem closed_task_price_iff_named
    (publication : Publication before after book effectiveAt planned rates prices)
    (row : TaskPrice) (inForce : row ∈ agreedPricesInForceAt before book.ref effectiveAt) :
    row.id ∈ planned.filterMap Planned.closedTaskPrice ↔
      row.identity ∈ planned.map Planned.identity := by
  have stored := ((mem_agreed_prices_in_force _ _ _ _).1 inForce).1
  constructor
  · intro closes
    obtain ⟨one, listed, taskType, identity, held⟩ :=
      closed_task_price_outgoing publication row stored closes
    refine List.mem_map.2 ⟨one, listed, ?_⟩
    rw [identity, TaskPrice.identity, held.named]
  · intro named
    obtain ⟨one, listed, same⟩ := List.mem_map.1 named
    obtain ⟨change, made⟩ := publication.made one listed
    exact List.mem_filterMap.2 ⟨one, listed, planned_task_price_closes made row inForce same.symm⟩

theorem publication_keeps_past
    (publication : Publication before after book effectiveAt planned rates prices) (instant : Int)
    (earlier : instant < effectiveAt) :
    (rulesInForceAt after book.ref instant).map Rate.asOpened =
        (rulesInForceAt before book.ref instant).map Rate.asOpened ∧
      (agreedPricesInForceAt after book.ref instant).map TaskPrice.asOpened =
        (agreedPricesInForceAt before book.ref instant).map TaskPrice.asOpened := by
  constructor
  · rw [rules_in_force_eq, rules_in_force_eq, publication_rates_of publication,
      in_force_before_the_change (publication_changes_rates publication) instant earlier,
      List.map_map]
    apply List.map_congr_left
    intro row _
    simp only [Function.comp_apply]
    split <;> rfl
  · rw [agreed_prices_in_force_eq, agreed_prices_in_force_eq, publication_prices_of publication,
      in_force_before_the_change (publication_changes_prices publication) instant earlier,
      List.map_map]
    apply List.map_congr_left
    intro row _
    simp only [Function.comp_apply]
    split <;> rfl

theorem publication_from_the_instant
    (publication : Publication before after book effectiveAt planned rates prices) (instant : Int)
    (later : effectiveAt ≤ instant) :
    rulesInForceAt after book.ref instant =
        (rulesInForceAt before book.ref effectiveAt).filter (fun row =>
          decide (row.identity ∉ planned.map Planned.identity)) ++ rates ∧
      agreedPricesInForceAt after book.ref instant =
        (agreedPricesInForceAt before book.ref effectiveAt).filter (fun row =>
          decide (row.identity ∉ planned.map Planned.identity)) ++ prices := by
  constructor
  · rw [rules_in_force_eq after, publication_rates_of publication,
      in_force_from_the_change (publication_changes_rates publication) instant later,
      ← rules_in_force_eq]
    congr 1
    apply List.filter_congr
    intro row inForce
    have named := closed_rate_iff_named publication row inForce
    simp only [named, decide_not]
  · rw [agreed_prices_in_force_eq after, publication_prices_of publication,
      in_force_from_the_change (publication_changes_prices publication) instant later,
      ← agreed_prices_in_force_eq]
    congr 1
    apply List.filter_congr
    intro row inForce
    have named := closed_task_price_iff_named publication row inForce
    simp only [named, decide_not]

theorem publication_other_rates
    (publication : Publication before after book effectiveAt planned rates prices) (other : BookRef)
    (different : other ≠ book.ref) : ratesOf after other = ratesOf before other := by
  rw [ratesOf, publication.wrote.rateRows, filter_replace_rows]
  · have noneHere : rates.filter (fun row => row.isIn other) = [] := by
      rw [List.filter_eq_nil_iff]
      intro row inside within
      have here := ((publication_rates publication).2 row inside).1
      obtain ⟨opening, _, opened⟩ := forall_two_right publication.wrote.openedRates row inside
      exact different (checked_one_book row opened.2.2 other book.ref within here)
    rw [noneHere, replace_none]
    · rfl
    · intro row inside
      rw [decide_eq_false_iff_not]
      intro closes
      obtain ⟨stored, within⟩ := List.mem_filter.1 inside
      obtain ⟨one, _, held⟩ := closed_rate_outgoing publication row stored closes
      have here := ((mem_rules_in_force _ _ _ _).1 held.inForce).2.1
      exact different (publication.tidy.oneBook row stored other book.ref within here)
  · intro row
    cases other <;> rfl

theorem task_price_one_book (row : TaskPrice) (left right : BookRef) (inLeft : row.isIn left = true)
    (inRight : row.isIn right = true) : left = right := by
  cases left <;> cases right <;> simp_all [TaskPrice.isIn]

theorem publication_other_prices
    (publication : Publication before after book effectiveAt planned rates prices) (other : BookRef)
    (different : other ≠ book.ref) : agreedPricesOf after other = agreedPricesOf before other := by
  rw [agreedPricesOf, publication.wrote.priceRows, filter_replace_rows]
  · have noneHere : prices.filter (fun row => row.isIn other && row.kind == .task) = [] := by
      rw [List.filter_eq_nil_iff]
      intro row inside within
      have here := ((publication_prices publication).2 row inside).1.1
      rw [Bool.and_eq_true] at within
      exact different (task_price_one_book row other book.ref within.1 here)
    rw [noneHere, replace_none]
    · rfl
    · intro row inside
      rw [decide_eq_false_iff_not]
      intro closes
      obtain ⟨stored, within⟩ := List.mem_filter.1 inside
      rw [Bool.and_eq_true] at within
      obtain ⟨one, _, taskType, _, held⟩ := closed_task_price_outgoing publication row stored closes
      have here := ((mem_agreed_prices_in_force _ _ _ _).1 held.inForce).2.1
      exact different (task_price_one_book row other book.ref within.1 here)
  · intro row
    cases other <;> rfl

theorem publication_rates_apart
    (publication : Publication before after book effectiveAt planned rates prices) (ref : BookRef) :
    OneInForce Rate.validFrom Rate.validTo Rate.identity (ratesOf after ref) := by
  by_cases here : ref = book.ref
  · subst here
    rw [publication_rates_of publication]
    apply one_in_force_kept (publication_changes_rates publication) Rate.identity
    · exact fun _ => rfl
    · exact fun left inLeft right inRight same =>
        List.inj_on_of_nodup_map (publication_rates_distinct publication) inLeft inRight same
    · -- A kept line in force at the instant is named by no change of the publish.
      intro row inForce kept fresh inside same
      rw [← rules_in_force_eq] at inForce
      rw [decide_eq_false_iff_not, closed_rate_iff_named publication row inForce] at kept
      apply kept
      rw [same]
      have listed := List.mem_map_of_mem (f := fun row => (row.identity, row.terms)) inside
      rw [(publication_rates publication).1, List.mem_filterMap] at listed
      obtain ⟨one, inPlan, shown⟩ := listed
      obtain ⟨opening, _, pair⟩ := Option.map_eq_some_iff.1 shown
      exact List.mem_map.2 ⟨one, inPlan, congrArg Prod.fst pair⟩
    · exact publication.tidy.ratesApart book.ref
  · rw [publication_other_rates publication ref here]
    exact publication.tidy.ratesApart ref

theorem publication_prices_apart
    (publication : Publication before after book effectiveAt planned rates prices) (ref : BookRef) :
    OneInForce TaskPrice.validFrom TaskPrice.validTo TaskPrice.identity
      (agreedPricesOf after ref) := by
  by_cases here : ref = book.ref
  · subst here
    rw [publication_prices_of publication]
    apply one_in_force_kept (publication_changes_prices publication) TaskPrice.identity
    · exact fun _ => rfl
    · exact fun left inLeft right inRight same =>
        List.inj_on_of_nodup_map (publication_prices_distinct publication) inLeft inRight same
    · intro row inForce kept fresh inside same
      rw [← agreed_prices_in_force_eq] at inForce
      rw [decide_eq_false_iff_not, closed_task_price_iff_named publication row inForce] at kept
      apply kept
      rw [same]
      have listed := List.mem_map_of_mem
        (f := fun row => (row.identity, row.agreedPriceMicros)) inside
      rw [(publication_prices publication).1, List.mem_filterMap] at listed
      obtain ⟨one, inPlan, shown⟩ := listed
      obtain ⟨opening, _, pair⟩ := Option.map_eq_some_iff.1 shown
      exact List.mem_map.2 ⟨one, inPlan, congrArg Prod.fst pair⟩
    · exact publication.tidy.pricesApart book.ref
  · rw [publication_other_prices publication ref here]
    exact publication.tidy.pricesApart ref

theorem publication_tidy
    (publication : Publication before after book effectiveAt planned rates prices) : Tidy after where
  rateIds := by
    rw [publication.wrote.rateRows]
    exact replaced_ids_nodup Rate.id _ _ _ _ before.nextId (fun _ => rfl) publication.tidy.rateIds
      publication.tidy.rateIdsUsed publication.wrote.rateIds.1
      (fun row inside => (publication.wrote.rateIds.2 row inside).1)
  rateIdsUsed := by
    rw [publication.wrote.rateRows]
    exact replaced_ids_used Rate.id _ _ _ _ before.nextId after.nextId (fun _ => rfl)
      publication.tidy.rateIdsUsed (fun row inside => (publication.wrote.rateIds.2 row inside).2)
      publication.wrote.grows
  priceIds := by
    rw [publication.wrote.priceRows]
    exact replaced_ids_nodup TaskPrice.id _ _ _ _ before.nextId (fun _ => rfl)
      publication.tidy.priceIds publication.tidy.priceIdsUsed publication.wrote.priceIds.1
      (fun row inside => (publication.wrote.priceIds.2 row inside).1)
  priceIdsUsed := by
    rw [publication.wrote.priceRows]
    exact replaced_ids_used TaskPrice.id _ _ _ _ before.nextId after.nextId (fun _ => rfl)
      publication.tidy.priceIdsUsed (fun row inside => (publication.wrote.priceIds.2 row inside).2)
      publication.wrote.grows
  oneBook := by
    intro row inside left right inLeft inRight
    rw [publication.wrote.rateRows, mem_replace_rows] at inside
    obtain ⟨old, stored, rfl⟩ | fresh := inside
    · have same : ∀ ref, (if decide (old.id ∈ planned.filterMap Planned.closedRate) then
          old.closeAt effectiveAt book.version else old).isIn ref = old.isIn ref := by
        intro ref
        cases ref <;> split <;> rfl
      rw [same] at inLeft inRight
      exact publication.tidy.oneBook old stored left right inLeft inRight
    · obtain ⟨opening, _, opened⟩ := forall_two_right publication.wrote.openedRates row fresh
      exact checked_one_book row opened.2.2 left right inLeft inRight
  ratesApart := publication_rates_apart publication
  pricesApart := publication_prices_apart publication

end

theorem tidy_of_lines {before after : Tables} (tidy : Tidy before)
    (kept : KeepsLines before after) : Tidy after where
  rateIds := by rw [kept.rates]; exact tidy.rateIds
  rateIdsUsed := by
    rw [kept.rates]
    exact fun rate inside => (tidy.rateIdsUsed rate inside).trans_le kept.grows
  priceIds := by rw [kept.taskPrices]; exact tidy.priceIds
  priceIdsUsed := by
    rw [kept.taskPrices]
    exact fun line inside => (tidy.priceIdsUsed line inside).trans_le kept.grows
  oneBook := by rw [kept.rates]; exact tidy.oneBook
  ratesApart := by
    intro book
    rw [ratesOf, kept.rates]
    exact tidy.ratesApart book
  pricesApart := by
    intro book
    rw [agreedPricesOf, kept.taskPrices]
    exact tidy.pricesApart book

theorem planned_of_forall {tables : Tables} {book : Book} {effectiveAt : Int}
    {changes : List Change} {planned : List Planned}
    (each : List.Forall₂ (PlannedFor tables book effectiveAt) changes planned) :
    ∀ one ∈ planned, ∃ change, PlannedAs tables book effectiveAt change one := by
  intro one inside
  obtain ⟨change, _, made⟩ := forall_two_right each one inside
  exact ⟨change, made.made⟩

theorem planned_agreed_price_book {tables : Tables} {book : Book} {effectiveAt : Int}
    {change : Change} {priced : PlannedAgreedPrice}
    (made : PlannedAs tables book effectiveAt change (.agreedPrice priced)) :
    book.isCost = false := by
  cases made <;> assumption

theorem published {tables after : Tables} {recordId : Nat} (tidy : Tidy tables)
    (accepted : publishDeclared tables recordId = .ok after) :
    ∃ record book planned written rates prices,
      tables.publishes.find? (fun record => decide (record.id = recordId)) = some record ∧
      tables.book? record.book = some book ∧
      planChanges tables book record.changes record.effectiveAt = .ok planned ∧
      Publication tables written book record.effectiveAt planned rates prices ∧
      SameShelves written after ∧ KeepsLines written after := by
  obtain ⟨record, book, planned, written, found, located, plans, writes, shelved, frame⟩ :=
    publish_declared_ok _ _ _ accepted
  obtain ⟨each, distinct, floor⟩ := plan_changes_ok _ _ _ _ _ plans
  have made := planned_of_forall each
  have pricing : ∀ change, Planned.agreedPrice change ∈ planned → book.isCost = false := by
    intro change inside
    obtain ⟨stated, shape⟩ := made _ inside
    exact planned_agreed_price_book shape
  have oldRates : ∀ id ∈ planned.filterMap Planned.closedRate, id < tables.nextId := by
    intro id inside
    obtain ⟨one, listed, closes⟩ := List.mem_filterMap.1 inside
    obtain ⟨change, shape⟩ := made one listed
    obtain ⟨outgoing, rfl, held⟩ := closed_rate_held shape id closes
    exact tidy.rateIdsUsed outgoing ((mem_rules_in_force _ _ _ _).1 held.inForce).1
  have oldPrices : ∀ id ∈ planned.filterMap Planned.closedTaskPrice, id < tables.nextId := by
    intro id inside
    obtain ⟨one, listed, closes⟩ := List.mem_filterMap.1 inside
    obtain ⟨change, shape⟩ := made one listed
    obtain ⟨outgoing, taskType, rfl, _, held⟩ := closed_task_price_held shape id closes
    exact tidy.priceIdsUsed outgoing ((mem_agreed_prices_in_force _ _ _ _).1 held.inForce).1
  obtain ⟨rates, prices, wrote⟩ := publish_fold_wrote book record.effectiveAt planned
    ⟨tables, [], [], [], []⟩ written pricing oldRates oldPrices writes
  refine ⟨record, book, planned, written.tables, rates, prices, found, located, plans,
    ⟨tidy, made, distinct, floor, wrote⟩, shelved, ?_⟩
  rw [frame]
  exact ⟨rfl, rfl, le_refl _⟩

theorem step_tidy (tables : Tables) (op : Op) (tidy : Tidy tables) : Tidy (step tables op) := by
  by_cases publishing : ∃ record, op = .publishDeclared record
  · obtain ⟨record, rfl⟩ := publishing
    simp only [step]
    cases outcome : publishDeclared tables record with
    | error refusal => exact tidy
    | ok after =>
      obtain ⟨_, _, _, _, _, _, _, _, _, publication, _, kept⟩ := published tidy outcome
      exact tidy_of_lines (publication_tidy publication) kept
  · exact tidy_of_lines tidy (step_keeps_lines tables op (fun record same => publishing ⟨record, same⟩))

theorem empty_tidy : Tidy emptyTables where
  rateIds := by simp [emptyTables]
  rateIdsUsed := by simp [emptyTables]
  priceIds := by simp [emptyTables]
  priceIdsUsed := by simp [emptyTables]
  oneBook := by simp [emptyTables]
  ratesApart := by
    intro book instant left inside
    simp [emptyTables, ratesOf, rowsInForce] at inside
  pricesApart := by
    intro book instant left inside
    simp [emptyTables, agreedPricesOf, rowsInForce] at inside

theorem tables_tidy (ops : List Op) : Tidy (run step emptyTables ops) :=
  run_invariant step Tidy (fun _ => True) (fun tables op tidy _ => step_tidy tables op tidy)
    emptyTables ops empty_tidy (by simp)

def DiffRow.openedRate (row : DiffRow) : Option (LineIdentity × Terms) :=
  match row.after with
  | some (.rate terms) => some (row.identity, terms)
  | _ => none

def DiffRow.openedAgreedPrice (row : DiffRow) : Option (LineIdentity × Int) :=
  match row.after with
  | some (.agreedPrice amount) => some (row.identity, amount)
  | _ => none

structure PublishesDiff (before after : Tables) (book : BookRef) (effectiveAt : Int)
    (rows : List DiffRow) : Prop where
  past : ∀ instant < effectiveAt,
    (rulesInForceAt after book instant).map Rate.asOpened =
        (rulesInForceAt before book instant).map Rate.asOpened ∧
      (agreedPricesInForceAt after book instant).map TaskPrice.asOpened =
        (agreedPricesInForceAt before book instant).map TaskPrice.asOpened
  sides : ∀ row ∈ rows, row.before = lineTermsAt before book effectiveAt row.identity
  opened : ∃ rates prices,
    rates.map (fun rate : Rate => (rate.identity, rate.terms)) = rows.filterMap DiffRow.openedRate ∧
    prices.map (fun line : TaskPrice => (line.identity, line.agreedPriceMicros)) =
      rows.filterMap DiffRow.openedAgreedPrice ∧
    ∀ instant, effectiveAt ≤ instant →
      rulesInForceAt after book instant =
          (rulesInForceAt before book effectiveAt).filter (fun rate =>
            decide (rate.identity ∉ rows.map DiffRow.identity)) ++ rates ∧
        agreedPricesInForceAt after book instant =
          (agreedPricesInForceAt before book effectiveAt).filter (fun line =>
            decide (line.identity ∉ rows.map DiffRow.identity)) ++ prices
  others : ∀ other ≠ book, ∀ instant,
    rulesInForceAt after other instant = rulesInForceAt before other instant ∧
      agreedPricesInForceAt after other instant = agreedPricesInForceAt before other instant

theorem diff_row_identity (planned : Planned) : planned.asDiffRow.identity = planned.identity := by
  cases planned <;> rfl

theorem diff_row_opened_rate (planned : Planned) :
    planned.asDiffRow.openedRate =
      planned.rateOpening.map (fun opening => (planned.identity, opening.2)) := by
  cases planned with
  | rate change =>
    cases stated : change.terms <;>
      simp [Planned.asDiffRow, DiffRow.openedRate, Planned.rateOpening, Planned.identity, stated]
  | agreedPrice change =>
    cases stated : change.amount <;>
      simp [Planned.asDiffRow, DiffRow.openedRate, Planned.rateOpening, stated]

theorem diff_row_opened_agreed_price (planned : Planned) :
    planned.asDiffRow.openedAgreedPrice =
      planned.taskPriceOpening.map (fun opening => (planned.identity, opening.2)) := by
  cases planned with
  | rate change =>
    cases stated : change.terms <;>
      simp [Planned.asDiffRow, DiffRow.openedAgreedPrice, Planned.taskPriceOpening, stated]
  | agreedPrice change =>
    cases stated : change.amount <;>
      simp [Planned.asDiffRow, DiffRow.openedAgreedPrice, Planned.taskPriceOpening,
        Planned.identity, stated]

theorem find_only {Row : Type} (rows : List Row) (wanted : Row → Bool) (found : Row)
    (inside : found ∈ rows) (wants : wanted found = true)
    (only : ∀ row ∈ rows, wanted row = true → row = found) : rows.find? wanted = some found := by
  cases hit : rows.find? wanted with
  | none =>
    have missed := List.find?_eq_none.1 hit found inside
    exact absurd wants missed
  | some row =>
    rw [only row (List.mem_of_find?_eq_some hit) (List.find?_some hit)]

theorem diff_row_before {tables : Tables} {book : Book} {effectiveAt : Int} {change : Change}
    {planned : Planned} (made : PlannedAs tables book effectiveAt change planned) :
    planned.asDiffRow.before = lineTermsAt tables book.ref effectiveAt planned.identity := by
  cases made with
  | addRate position stated declaration kind terms method vacant noneOpen declared =>
    have none : (rulesInForceAt tables book.ref effectiveAt).find? (fun rate =>
        rate.identity == .rate (change.measurementKey.getD "") change.statedSelectors) = none := by
      rw [List.find?_eq_none]
      intro rate inside
      simpa using vacant rate inside
    simp [Planned.asDiffRow, Planned.identity, lineTermsAt, none]
  | repriceRate position stated outgoing kind terms method held =>
    have found := find_only _ (fun rate =>
        rate.identity == .rate (change.measurementKey.getD "") change.statedSelectors) outgoing
      held.inForce (by simp [held.named])
      (fun rate inside same => held.only rate inside (by simpa using same))
    simp [Planned.asDiffRow, Planned.identity, lineTermsAt, found]
  | retireRate outgoing kind held =>
    have found := find_only _ (fun rate =>
        rate.identity == .rate (change.measurementKey.getD "") change.statedSelectors) outgoing
      held.inForce (by simp [held.named])
      (fun rate inside same => held.only rate inside (by simpa using same))
    simp [Planned.asDiffRow, Planned.identity, lineTermsAt, found]
  | addAgreedPrice amount policy kind stated notNegative sold pricing vacant noneOpen =>
    have none : (agreedPricesInForceAt tables book.ref effectiveAt).find? (fun line =>
        line.taskType == (change.selectors .taskType).getD "") = none := by
      rw [List.find?_eq_none]
      intro line inside
      simpa using vacant line inside
    simp [Planned.asDiffRow, Planned.identity, lineTermsAt, none]
  | repriceAgreedPrice amount policy outgoing kind stated notNegative sold pricing held =>
    have found := find_only _ (fun line =>
        line.taskType == (change.selectors .taskType).getD "") outgoing
      held.inForce (by simp [held.named])
      (fun line inside same => held.only line inside (by simpa using same))
    simp [Planned.asDiffRow, Planned.identity, lineTermsAt, found]
  | retireAgreedPrice outgoing kind pricing held =>
    have found := find_only _ (fun line =>
        line.taskType == (change.selectors .taskType).getD "") outgoing
      held.inForce (by simp [held.named])
      (fun line inside same => held.only line inside (by simpa using same))
    simp [Planned.asDiffRow, Planned.identity, lineTermsAt, found]

theorem publication_publishes_diff {before after : Tables} {book : Book} {effectiveAt : Int}
    {planned : List Planned} {rates : List Rate} {prices : List TaskPrice}
    (publication : Publication before after book effectiveAt planned rates prices) :
    PublishesDiff before after book.ref effectiveAt (planned.map Planned.asDiffRow) where
  past := publication_keeps_past publication
  sides := by
    intro row inside
    obtain ⟨one, listed, rfl⟩ := List.mem_map.1 inside
    obtain ⟨change, made⟩ := publication.made one listed
    rw [diff_row_before made, diff_row_identity]
  opened := by
    have names : (planned.map Planned.asDiffRow).map DiffRow.identity =
        planned.map Planned.identity := by
      rw [List.map_map]
      exact List.map_congr_left (fun one _ => diff_row_identity one)
    refine ⟨rates, prices, ?_, ?_, ?_⟩
    · rw [(publication_rates publication).1, List.filterMap_map]
      exact List.filterMap_congr (fun one _ => (diff_row_opened_rate one).symm)
    · rw [(publication_prices publication).1, List.filterMap_map]
      exact List.filterMap_congr (fun one _ => (diff_row_opened_agreed_price one).symm)
    · intro instant later
      rw [names]
      exact publication_from_the_instant publication instant later
  others := by
    intro other different instant
    rw [rules_in_force_eq, rules_in_force_eq, agreed_prices_in_force_eq, agreed_prices_in_force_eq,
      publication_other_rates publication other different,
      publication_other_prices publication other different]
    exact ⟨rfl, rfl⟩

theorem in_force_of_lines {before after : Tables} (kept : KeepsLines before after)
    (book : BookRef) (instant : Int) :
    rulesInForceAt after book instant = rulesInForceAt before book instant ∧
      agreedPricesInForceAt after book instant = agreedPricesInForceAt before book instant := by
  simp only [rulesInForceAt, agreedPricesInForceAt, kept.rates, kept.taskPrices, and_self]

theorem publishes_diff_of_lines {before written after : Tables} {book : BookRef}
    {effectiveAt : Int} {rows : List DiffRow}
    (told : PublishesDiff before written book effectiveAt rows) (kept : KeepsLines written after) :
    PublishesDiff before after book effectiveAt rows := by
  have same := in_force_of_lines kept
  constructor
  · intro instant earlier
    rw [(same book instant).1, (same book instant).2]
    exact told.past instant earlier
  · exact told.sides
  · obtain ⟨rates, prices, openedRates, openedPrices, present⟩ := told.opened
    refine ⟨rates, prices, openedRates, openedPrices, ?_⟩
    intro instant later
    rw [(same book instant).1, (same book instant).2]
    exact present instant later
  · intro other different instant
    rw [(same other instant).1, (same other instant).2]
    exact told.others other different instant

theorem books_timeline_never_rewritten (ops : List Op) :
    let tables := run step emptyTables ops
    (∀ book instant,
      (∀ left ∈ rulesInForceAt tables book instant, ∀ right ∈ rulesInForceAt tables book instant,
        left.identity = right.identity → left = right) ∧
      (∀ left ∈ agreedPricesInForceAt tables book instant,
        ∀ right ∈ agreedPricesInForceAt tables book instant,
          left.taskType = right.taskType → left = right)) ∧
    (∀ recordId after, publishDeclared tables recordId = .ok after →
      ∃ record rows,
        tables.publishes.find? (fun record => decide (record.id = recordId)) = some record ∧
        diff tables record = .ok rows ∧
        PublishesDiff tables after record.book record.effectiveAt rows) ∧
    (∀ recordId refusal, publishDeclared tables recordId = .error refusal →
      step tables (.publishDeclared recordId) = tables) ∧
    (∀ book changes effectiveAt, KeepsLines tables (step tables (.declare book changes effectiveAt))) ∧
    (∀ book changes effectiveAt refusal, declare tables book changes effectiveAt = .error refusal →
      step tables (.declare book changes effectiveAt) = tables) ∧
    (∀ recordId, KeepsLines tables (step tables (.discard recordId))) := by
  intro tables
  have tidy : Tidy tables := tables_tidy ops
  refine ⟨?_, ?_, ?_, ?_, ?_, ?_⟩
  · intro book instant
    rw [rules_in_force_eq, agreed_prices_in_force_eq]
    refine ⟨tidy.ratesApart book instant, ?_⟩
    intro left inLeft right inRight same
    apply tidy.pricesApart book instant left inLeft right inRight
    rw [TaskPrice.identity, TaskPrice.identity, same]
  · intro recordId after accepted
    obtain ⟨record, book, planned, written, rates, prices, found, located, plans, publication, _,
      kept⟩ := published tidy accepted
    refine ⟨record, planned.map Planned.asDiffRow, found, ?_, ?_⟩
    · simp only [diff, located, bind_eq_ok, liftPlan, map_error_eq_ok, pure_eq_ok]
      exact ⟨planned, plans, rfl⟩
    · rw [← book_ref tables record.book book located]
      exact publishes_diff_of_lines (publication_publishes_diff publication) kept
  · intro recordId refusal refused
    simp only [step, refused, keepOnRefusal]
  · intro book changes effectiveAt
    exact step_keeps_lines tables _ (by simp)
  · intro book changes effectiveAt refusal refused
    simp only [step, refused, keepOnRefusal]
  · intro recordId
    exact step_keeps_lines tables _ (by simp)

end Ubb.Pricing
