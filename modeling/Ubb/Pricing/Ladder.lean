import Ubb.Library.Ranking
import Ubb.Pricing.Timeline

set_option autoImplicit false

-- The pricing ladder of services/pricing_service.py: which books are selected
-- for a customer, and which rule of theirs prices a quantity.
namespace Ubb.Pricing

open Library

def fromTheCustomersOwnRules : Nat := 1

def fromTheSelectedBook : Nat := 0

-- How specifically a rule names the event, then where it came from, then the
-- instant it opened at.
def ladderRank (rule : Rate) (source : Nat) : Nat ×ₗ Nat ×ₗ Int :=
  toLex (rule.specificity, toLex (source, rule.validFrom))

-- A pinned selector must equal the event's value; "" is a wildcard. A rule that
-- references no declaration names no quantity.
def Rate.matchesEvent (rule : Rate) (event : Selectors) (measurementKey currency : String)
    (asOf : Int) : Bool :=
  rule.measurement.any (fun measurement => measurement.code == measurementKey) &&
    rule.currency == currency && rule.inForceAt asOf &&
    selectorNames.all (fun name => rule.selectors name == event name || rule.selectors name == "")

-- A dictionary comprehension over the books in play: a later entry of a key
-- replaces an earlier one.
def sourceOf (books : List (Nat × Nat)) (book : Nat) : Option Nat :=
  (books.map (fun entry => (entry.2, entry.1))).reverse.lookup book

def positionOf (books : List (Nat × Nat)) (book : Nat) : Option Nat :=
  (books.zipIdx.map (fun entry => (entry.1.2, entry.2))).reverse.lookup book

-- Books in play are pairs of a source and a book id; the column is the pointer
-- of the rule that is followed.
def matchingRulesAcross (rates : List Rate) (books : List (Nat × Nat)) (column : Rate → Option Nat)
    (event : Selectors) (measurementKey currency : String) (asOf : Int) : List (Rate × Nat) :=
  (rates.filterMap (fun rule =>
    if rule.matchesEvent event measurementKey currency asOf then
      ((column rule).bind (sourceOf books)).map (fun source => (rule, source))
    else none)).insertionSort (fun left right =>
      ((column left.1).bind (positionOf books)).getD 0 ≤
        ((column right.1).bind (positionOf books)).getD 0)

def rankAndTakeOne (rates : List Rate) (books : List (Nat × Nat)) (column : Rate → Option Nat)
    (event : Selectors) (measurementKey currency : String) (asOf : Int) : Option Rate :=
  (firstBest (fun pair => ladderRank pair.1 pair.2)
    (matchingRulesAcross rates books column event measurementKey currency asOf)).map Prod.fst

-- get_pricing_book_for_customer: the book of the live plan the customer is on.
def pricingBookForCustomer (tables : Tables) (tenant customer : Nat) : Option Nat :=
  ((tables.assignments.filterMap (fun held =>
    if held.tenant = tenant ∧ held.customer = customer then
      tables.plans.find? (fun plan => decide (plan.id = held.plan))
    else none)).filter (fun plan => !plan.archived)).head?.map Plan.pricingBook

def thePlansBook (tables : Tables) (tenant : Nat) : Option Nat → Option PricingBook
  | none => none
  | some customer =>
    (pricingBookForCustomer tables tenant customer).bind (fun id =>
      tables.pricingBooks.find? (fun book => book.id == id && book.tenant == tenant))

def defaultPricingBook (tables : Tables) (tenant : Nat) : Option PricingBook :=
  tables.pricingBooks.find? (fun book => book.tenant == tenant && book.isDefault)

-- A book joins the selection once, the first way it is reached.
def select (source : Nat) (reached : Option PricingBook) (books : List (Nat × Nat)) :
    List (Nat × Nat) :=
  match reached with
  | none => books
  | some book => if book.id ∈ books.map Prod.snd then books else books ++ [(source, book.id)]

def selectedPricingBooks (tables : Tables) (tenant : Nat) (customer : Option Nat)
    (theCustomersOwn : Bool) : List (Nat × Nat) :=
  select fromTheSelectedBook (defaultPricingBook tables tenant)
    (select fromTheSelectedBook (thePlansBook tables tenant customer)
      (select fromTheCustomersOwnRules
        (if theCustomersOwn then overrideBook tables tenant customer else none) []))

def resolveThePriceRule (tables : Tables) (tenant : Nat) (customer : Option Nat) (event : Selectors)
    (measurementKey currency : String) (asOf : Int) : Option Rate :=
  rankAndTakeOne tables.rates (selectedPricingBooks tables tenant customer true) Rate.pricingBook
    event measurementKey currency asOf

theorem lookup_reverse {Value : Type} (entries : List (Nat × Value)) (key : Nat) (value : Value)
    (distinct : (entries.map Prod.fst).Nodup) (inside : (key, value) ∈ entries) :
    entries.reverse.lookup key = some value := by
  induction entries with
  | nil => simp at inside
  | cons entry rest hypothesis =>
    rw [List.map_cons, List.nodup_cons] at distinct
    rw [List.reverse_cons, List.lookup_append]
    cases List.mem_cons.1 inside with
    | inl first =>
      subst first
      have absent : rest.reverse.lookup key = none := by
        rw [List.lookup_eq_none_iff]
        intro other listed
        simp only [bne_iff_ne, ne_eq]
        intro same
        exact distinct.1 (List.mem_map.2 ⟨other, List.mem_reverse.1 listed, same.symm⟩)
      simp [absent]
    | inr later => simp [hypothesis distinct.2 later]

theorem lookup_reverse_none {Value : Type} (entries : List (Nat × Value)) (key : Nat)
    (absent : key ∉ entries.map Prod.fst) : entries.reverse.lookup key = none := by
  rw [List.lookup_eq_none_iff]
  intro entry listed
  simp only [bne_iff_ne, ne_eq]
  intro same
  exact absent (List.mem_map.2 ⟨entry, List.mem_reverse.1 listed, same.symm⟩)

theorem source_of_mem (books : List (Nat × Nat)) (source book : Nat)
    (distinct : (books.map Prod.snd).Nodup) (inside : (source, book) ∈ books) :
    sourceOf books book = some source := by
  apply lookup_reverse
  · rw [List.map_map]
    exact distinct
  · exact List.mem_map.2 ⟨(source, book), inside, rfl⟩

theorem source_of_none (books : List (Nat × Nat)) (book : Nat) (absent : book ∉ books.map Prod.snd) :
    sourceOf books book = none := by
  apply lookup_reverse_none
  rw [List.map_map]
  exact absent

theorem position_of_mem (books : List (Nat × Nat)) (book : Nat)
    (distinct : (books.map Prod.snd).Nodup) (inside : book ∈ books.map Prod.snd) :
    positionOf books book = some ((books.map Prod.snd).idxOf book) := by
  have names : (books.zipIdx.map (fun entry => (entry.1.2, entry.2))).map Prod.fst =
      books.map Prod.snd := by
    rw [List.map_map]
    conv_rhs => rw [← List.zipIdx_map_fst 0 books, List.map_map]
    rfl
  apply lookup_reverse
  · rw [names]
    exact distinct
  · have bounded := List.idxOf_lt_length_of_mem inside
    have found := List.getElem_idxOf bounded
    rw [List.length_map] at bounded
    rw [List.getElem_map] at found
    refine List.mem_map.2 ⟨(books[(books.map Prod.snd).idxOf book], (books.map Prod.snd).idxOf book),
      ?_, by rw [found]⟩
    rw [List.mem_zipIdx_iff_getElem?]
    exact List.getElem?_eq_getElem bounded

theorem select_distinct (source : Nat) (reached : Option PricingBook) (books : List (Nat × Nat))
    (distinct : (books.map Prod.snd).Nodup) : ((select source reached books).map Prod.snd).Nodup := by
  unfold select
  split
  · exact distinct
  · split
    · exact distinct
    · rename_i book absent
      apply nodup_add_row Prod.snd books _ distinct
      intro entry listed same
      exact absent (List.mem_map.mpr ⟨entry, listed, same⟩)

theorem selected_distinct (tables : Tables) (tenant : Nat) (customer : Option Nat) (own : Bool) :
    ((selectedPricingBooks tables tenant customer own).map Prod.snd).Nodup := by
  unfold selectedPricingBooks
  apply select_distinct
  apply select_distinct
  apply select_distinct
  simp

theorem matches_event_iff (rule : Rate) (event : Selectors) (measurementKey currency : String)
    (asOf : Int) :
    rule.matchesEvent event measurementKey currency asOf = true ↔
      (∃ measurement, rule.measurement = some measurement ∧ measurement.code = measurementKey) ∧
        rule.currency = currency ∧
        (rule.validFrom ≤ asOf ∧ ∀ close, rule.validTo = some close → asOf < close) ∧
        ∀ name, rule.selectors name ≠ "" → rule.selectors name = event name := by
  have pins : (selectorNames.all (fun name =>
      rule.selectors name == event name || rule.selectors name == "")) = true ↔
      ∀ name, rule.selectors name ≠ "" → rule.selectors name = event name := by
    rw [List.all_eq_true]
    constructor
    · intro each name stated
      simpa [stated] using each name (mem_selector_names name)
    · intro each name _
      by_cases wild : rule.selectors name = ""
      · simp [wild]
      · simp [each name wild]
  simp only [Rate.matchesEvent, Bool.and_eq_true, pins, Rate.inForceAt, in_window_iff, beq_iff_eq,
    Option.any_eq_true, and_assoc]

theorem mem_matching (rates : List Rate) (books : List (Nat × Nat)) (column : Rate → Option Nat)
    (event : Selectors) (measurementKey currency : String) (asOf : Int) (pair : Rate × Nat) :
    pair ∈ matchingRulesAcross rates books column event measurementKey currency asOf ↔
      pair.1 ∈ rates ∧ pair.1.matchesEvent event measurementKey currency asOf = true ∧
        ∃ book, column pair.1 = some book ∧ sourceOf books book = some pair.2 := by
  rw [matchingRulesAcross, List.mem_insertionSort, List.mem_filterMap]
  constructor
  · rintro ⟨rule, stored, found⟩
    split at found
    · rename_i matching
      obtain ⟨source, located, rfl⟩ := Option.map_eq_some_iff.1 found
      obtain ⟨book, points, sourced⟩ := Option.bind_eq_some_iff.1 located
      exact ⟨stored, matching, book, points, sourced⟩
    · cases found
  · rintro ⟨stored, matching, book, points, sourced⟩
    refine ⟨pair.1, stored, ?_⟩
    rw [if_pos matching, points, Option.bind_some, sourced]
    rfl

section

variable (tables : Tables) (tenant : Nat) (customer : Option Nat) (event : Selectors)
  (measurementKey currency : String) (asOf : Int)

end

-- What the writers of books keep: a customer's own book is nobody's default and
-- no plan prices from it.
structure Shelved (tables : Tables) : Prop where
  bookIds : (tables.pricingBooks.map PricingBook.id).Nodup
  bookIdsUsed : ∀ book ∈ tables.pricingBooks, book.id < tables.nextId
  planBooksUsed : ∀ plan ∈ tables.plans, plan.pricingBook < tables.nextId
  ownApart : ∀ book ∈ tables.pricingBooks, book.customer.isSome = true →
    book.isDefault = false ∧ ∀ plan ∈ tables.plans, plan.pricingBook ≠ book.id

theorem shelf_map {Out : Type} (view : PricingBook → Out)
    (keeps : ∀ book, view book.shelf = view book) (books : List PricingBook) :
    (books.map PricingBook.shelf).map view = books.map view := by
  rw [List.map_map]
  apply List.map_congr_left
  intro book _
  exact keeps book

theorem shelved_of_versions {before after : Tables} (shelved : Shelved before)
    (books : after.pricingBooks.map PricingBook.shelf = before.pricingBooks.map PricingBook.shelf)
    (plans : ∀ plan ∈ after.plans, ∃ old ∈ before.plans, old.pricingBook = plan.pricingBook)
    (grows : before.nextId ≤ after.nextId) : Shelved after := by
  have found : ∀ book ∈ after.pricingBooks, ∃ old ∈ before.pricingBooks,
      old.id = book.id ∧ old.customer = book.customer ∧ old.isDefault = book.isDefault := by
    intro book inside
    have listed := List.mem_map_of_mem (f := PricingBook.shelf) inside
    rw [books, List.mem_map] at listed
    obtain ⟨old, stored, same⟩ := listed
    simp only [PricingBook.shelf, PricingBook.mk.injEq] at same
    exact ⟨old, stored, same.1, same.2.2.1, same.2.2.2.2.2⟩
  constructor
  · rw [← shelf_map PricingBook.id (fun _ => rfl), books, shelf_map PricingBook.id (fun _ => rfl)]
    exact shelved.bookIds
  · intro book inside
    obtain ⟨old, stored, sameId, _, _⟩ := found book inside
    have used := shelved.bookIdsUsed old stored
    omega
  · intro plan inside
    obtain ⟨old, stored, same⟩ := plans plan inside
    have used := shelved.planBooksUsed old stored
    omega
  · intro book inside owned
    obtain ⟨old, stored, sameId, sameCustomer, sameDefault⟩ := found book inside
    obtain ⟨notDefault, noPlan⟩ := shelved.ownApart old stored (sameCustomer ▸ owned)
    refine ⟨sameDefault ▸ notDefault, ?_⟩
    intro plan listed priced
    obtain ⟨oldPlan, storedPlan, samePlan⟩ := plans plan listed
    exact noPlan oldPlan storedPlan (by rw [samePlan, priced, sameId])

theorem insert_book_shelved {tables after : Tables} (shelved : Shelved tables) (tenant : Nat)
    (customer : Option Nat) (key : String) (isDefault : Bool)
    (plain : customer.isSome = true → isDefault = false)
    (accepted : insertPricingBook tables tenant customer key isDefault = .ok after) :
    Shelved after := by
  rw [insert_pricing_book_ok _ _ _ _ _ _ accepted]
  constructor
  · apply nodup_add_row PricingBook.id tables.pricingBooks _ shelved.bookIds
    intro book stored
    exact Nat.ne_of_lt (shelved.bookIdsUsed book stored)
  · intro book inside
    show book.id < tables.nextId + 1
    cases List.mem_append.1 inside with
    | inl early =>
      have used := shelved.bookIdsUsed book early
      omega
    | inr late =>
      rw [List.mem_singleton.1 late]
      exact Nat.lt_succ_self _
  · intro plan inside
    exact (shelved.planBooksUsed plan inside).trans (Nat.lt_succ_self _)
  · intro book inside owned
    cases List.mem_append.1 inside with
    | inl early => exact shelved.ownApart book early owned
    | inr late =>
      rw [List.mem_singleton.1 late] at owned ⊢
      refine ⟨plain owned, ?_⟩
      intro plan listed
      exact Nat.ne_of_lt (shelved.planBooksUsed plan listed)

theorem create_plan_shelved {tables after : Tables} (shelved : Shelved tables) (tenant : Nat)
    (key : String) (accepted : createPlan tables tenant key = .ok after) : Shelved after := by
  simp only [createPlan, bind_eq_ok] at accepted
  obtain ⟨⟨made, priced⟩, found, accepted⟩ := accepted
  -- The book adopted or made carries no customer, so it is nobody's own.
  have kept : Shelved made ∧ priced < made.nextId ∧
      ∀ book ∈ made.pricingBooks, book.customer.isSome = true → book.id ≠ priced := by
    unfold theBookAPlanPricesFrom at found
    split at found
    · rename_i adopted hit
      simp only [pure_eq_ok, Prod.mk.injEq] at found
      obtain ⟨rfl, rfl⟩ := found
      have stored := List.mem_of_find?_eq_some hit
      have plain := List.find?_some hit
      simp only [Bool.and_eq_true, Option.isNone_iff_eq_none] at plain
      refine ⟨shelved, shelved.bookIdsUsed adopted stored, ?_⟩
      intro book inside owned same
      have one := List.inj_on_of_nodup_map shelved.bookIds inside stored same
      rw [one, plain.1.2] at owned
      cases owned
    · simp only [bind_eq_ok, pure_eq_ok, Prod.mk.injEq] at found
      obtain ⟨inserted, inserting, rfl, rfl⟩ := found
      have shape := insert_pricing_book_ok _ _ _ _ _ _ inserting
      refine ⟨insert_book_shelved shelved tenant none key false (by simp) inserting, ?_, ?_⟩
      · rw [shape]
        exact Nat.lt_succ_self _
      · intro book inside owned
        rw [shape] at inside
        cases List.mem_append.1 inside with
        | inl early => exact Nat.ne_of_lt (shelved.bookIdsUsed book early)
        | inr late =>
          rw [List.mem_singleton.1 late] at owned
          cases owned
  obtain ⟨shelvedMade, used, foreign⟩ := kept
  split at accepted
  · simp at accepted
  · simp only [pure_eq_ok] at accepted
    rw [← accepted]
    constructor
    · exact shelvedMade.bookIds
    · exact fun book inside => (shelvedMade.bookIdsUsed book inside).trans (Nat.lt_succ_self _)
    · intro plan inside
      show plan.pricingBook < made.nextId + 1
      cases List.mem_append.1 inside with
      | inl early =>
        have before := shelvedMade.planBooksUsed plan early
        omega
      | inr late =>
        rw [List.mem_singleton.1 late]
        show priced < made.nextId + 1
        omega
    · intro book inside owned
      obtain ⟨notDefault, noPlan⟩ := shelvedMade.ownApart book inside owned
      refine ⟨notDefault, ?_⟩
      intro plan listed
      cases List.mem_append.1 listed with
      | inl early => exact noPlan plan early
      | inr late =>
        rw [List.mem_singleton.1 late]
        exact fun same => foreign book inside owned same.symm

theorem delete_customer_shelved {tables : Tables} (shelved : Shelved tables) (customer : Nat) :
    Shelved (deleteCustomer tables customer) := by
  have found : ∀ book ∈ (deleteCustomer tables customer).pricingBooks,
      ∃ old ∈ tables.pricingBooks, old.id = book.id ∧ old.isDefault = book.isDefault ∧
        (book.customer.isSome = true → old.customer.isSome = true) := by
    intro book inside
    obtain ⟨old, stored, rfl⟩ := List.mem_map.1 inside
    refine ⟨old, stored, ?_⟩
    split <;> simp
  constructor
  · have ids : (deleteCustomer tables customer).pricingBooks.map PricingBook.id =
        tables.pricingBooks.map PricingBook.id := by
      simp only [deleteCustomer, List.map_map]
      apply List.map_congr_left
      intro book _
      simp only [Function.comp_apply]
      split <;> rfl
    rw [ids]
    exact shelved.bookIds
  · intro book inside
    obtain ⟨old, stored, sameId, _⟩ := found book inside
    exact sameId ▸ shelved.bookIdsUsed old stored
  · exact shelved.planBooksUsed
  · intro book inside owned
    obtain ⟨old, stored, sameId, sameDefault, wasOwned⟩ := found book inside
    obtain ⟨notDefault, noPlan⟩ := shelved.ownApart old stored (wasOwned owned)
    exact ⟨sameDefault ▸ notDefault, sameId ▸ noPlan⟩

theorem publish_shelved {tables after : Tables} (tidy : Tidy tables) (shelved : Shelved tables)
    (record : Nat) (accepted : publishDeclared tables record = .ok after) : Shelved after := by
  obtain ⟨_, _, _, written, _, _, _, _, _, publication, shelves, kept⟩ := published tidy accepted
  apply shelved_of_versions shelved
  · rw [shelves.pricing, publication.wrote.frame]
  · intro plan inside
    rw [shelves.plans, publication.wrote.frame] at inside
    exact ⟨plan, inside, rfl⟩
  · exact publication.wrote.grows.trans kept.grows

theorem declare_shelved {tables after : Tables} (shelved : Shelved tables) (ref : BookRef)
    (changes : List Change) (effectiveAt : Int)
    (accepted : declare tables ref changes effectiveAt = .ok after) : Shelved after := by
  obtain ⟨_, _, _, _, rfl⟩ := declare_ok _ _ _ _ _ accepted
  exact shelved_of_versions shelved rfl (fun plan inside => ⟨plan, inside, rfl⟩) (Nat.le_succ _)

theorem step_shelved (tables : Tables) (op : Op) (tidy : Tidy tables) (shelved : Shelved tables) :
    Shelved (step tables op) := by
  have kept : ∀ {Refused : Type} (outcome : Except Refused Tables),
      (∀ written, outcome = .ok written → Shelved written) →
        Shelved (keepOnRefusal tables outcome) := by
    intro Refused outcome accepted
    cases outcome with
    | error refusal => exact shelved
    | ok written => exact accepted written rfl
  have same : ∀ after : Tables, after.pricingBooks = tables.pricingBooks →
      after.plans = tables.plans → tables.nextId ≤ after.nextId → Shelved after := by
    intro after books plans grows
    exact shelved_of_versions shelved (by rw [books])
      (fun plan inside => ⟨plan, plans ▸ inside, rfl⟩) grows
  cases op with
  | declareMeasurement tenant code createdAt => exact same _ rfl rfl (Nat.le_succ _)
  | declareTaskType tenant key kind =>
    simp only [step, declareTaskType]
    split
    · exact shelved
    · exact same _ rfl rfl (le_refl _)
  | retireTaskType tenant key kind => exact same _ rfl rfl (le_refl _)
  | declarePricingBook tenant key isDefault =>
    exact kept _ (fun _ => insert_book_shelved shelved tenant none key isDefault (by simp))
  | declareCostBook tenant providerKey currency key isDefault =>
    apply kept
    intro written accepted
    unfold declareCostBook at accepted
    split at accepted
    · simp at accepted
    · split at accepted
      · simp at accepted
      · split at accepted
        · simp at accepted
        · simp only [pure_eq_ok] at accepted
          rw [← accepted]
          exact same _ rfl rfl (Nat.le_succ _)
  | theCustomersOwnBook tenant customer =>
    apply kept
    intro written accepted
    unfold theCustomersOwnBook at accepted
    split at accepted
    · simp only [pure_eq_ok] at accepted
      exact accepted ▸ shelved
    · exact insert_book_shelved shelved tenant (some customer) _ false (by simp) accepted
  | createPlan tenant key => exact kept _ (fun _ => create_plan_shelved shelved tenant key)
  | assignPlan tenant customer key =>
    apply kept
    intro written accepted
    unfold assignPlan at accepted
    split at accepted
    · simp at accepted
    · split at accepted
      · simp at accepted
      · simp only [pure_eq_ok] at accepted
        rw [← accepted]
        exact same _ rfl rfl (le_refl _)
  | archivePlan tenant key =>
    apply kept
    intro written accepted
    unfold archivePlan at accepted
    split at accepted
    · simp at accepted
    · split at accepted
      · simp at accepted
      · simp only [pure_eq_ok] at accepted
        rw [← accepted]
        refine @shelved_of_versions tables _ shelved rfl ?_ (le_refl _)
        intro plan inside
        obtain ⟨held, _⟩ | ⟨old, stored, _, rfl⟩ := mem_update_row _ _ _ _ _ inside
        · exact ⟨plan, held, rfl⟩
        · exact ⟨old, stored, rfl⟩
  | deleteCustomer customer => exact delete_customer_shelved shelved customer
  | declare book changes effectiveAt => exact kept _ (fun _ => declare_shelved shelved _ _ _)
  | publishDeclared record => exact kept _ (fun _ => publish_shelved tidy shelved record)
  | discard record =>
    apply kept
    intro written accepted
    unfold discard at accepted
    split at accepted
    · simp at accepted
    · split at accepted
      · simp at accepted
      · simp only [pure_eq_ok] at accepted
        rw [← accepted]
        exact same _ rfl rfl (le_refl _)

theorem empty_shelved : Shelved emptyTables where
  bookIds := by simp [emptyTables]
  bookIdsUsed := by simp [emptyTables]
  planBooksUsed := by simp [emptyTables]
  ownApart := by simp [emptyTables]

theorem tables_shelved (ops : List Op) : Shelved (run step emptyTables ops) := by
  have both : Tidy (run step emptyTables ops) ∧ Shelved (run step emptyTables ops) := by
    apply run_invariant step (fun tables => Tidy tables ∧ Shelved tables) (fun _ => True)
    · intro tables op invariant _
      exact ⟨step_tidy tables op invariant.1, step_shelved tables op invariant.1 invariant.2⟩
    · exact ⟨empty_tidy, empty_shelved⟩
    · simp
  exact both.2

theorem override_book_held (tables : Tables) (tenant : Nat) (customer : Option Nat)
    (own : PricingBook) (held : overrideBook tables tenant customer = some own) :
    own ∈ tables.pricingBooks ∧ own.customer.isSome = true := by
  cases customer with
  | none => cases held
  | some wanted =>
    have named := List.find?_some held
    simp only [Bool.and_eq_true, beq_iff_eq] at named
    exact ⟨List.mem_of_find?_eq_some held, by simp [named.1]⟩

theorem plans_book_priced (tables : Tables) (tenant : Nat) (customer : Option Nat)
    (book : PricingBook) (reached : thePlansBook tables tenant customer = some book) :
    ∃ plan ∈ tables.plans, plan.pricingBook = book.id := by
  cases customer with
  | none => cases reached
  | some wanted =>
    obtain ⟨id, priced, found⟩ := Option.bind_eq_some_iff.1 reached
    have named := List.find?_some found
    simp only [Bool.and_eq_true, beq_iff_eq] at named
    unfold pricingBookForCustomer at priced
    obtain ⟨plan, first, same⟩ := Option.map_eq_some_iff.1 priced
    have listed := List.mem_of_mem_filter (List.mem_of_mem_head? first)
    obtain ⟨held, _, located⟩ := List.mem_filterMap.1 listed
    split at located
    · exact ⟨plan, List.mem_of_find?_eq_some located, by rw [same, named.1]⟩
    · cases located

end Ubb.Pricing
