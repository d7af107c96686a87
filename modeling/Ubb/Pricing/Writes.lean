import Ubb.Pricing.Publish

set_option autoImplicit false

-- What a publish that the tables accept has written: which lines it closed,
-- which it opened, and that it touched nothing else.
namespace Ubb.Pricing

open Library

def Planned.closedRate : Planned → Option Nat
  | .rate change => change.outgoing.map Rate.id
  | .agreedPrice _ => none

def Planned.closedTaskPrice : Planned → Option Nat
  | .rate _ => none
  | .agreedPrice change => change.outgoing.map TaskPrice.id

def Planned.rateOpening : Planned → Option (PlannedChange × Terms)
  | .rate change => change.terms.map (fun terms => (change, terms))
  | .agreedPrice _ => none

def Planned.taskPriceOpening : Planned → Option (PlannedAgreedPrice × Int)
  | .rate _ => none
  | .agreedPrice change => change.amount.map (fun amount => (change, amount))

def OpensRate (currency : String) (book : Book) (effectiveAt : Int)
    (opening : PlannedChange × Terms) (row : Rate) : Prop :=
  row = incomingRate currency book effectiveAt row.id opening.1 opening.2 ∧
    row.measurement.isSome = true ∧ firstViolation row.checks = none

def OpensTaskPrice (book : Book) (effectiveAt : Int) (opening : PlannedAgreedPrice × Int)
    (row : TaskPrice) : Prop :=
  row = incomingTaskPrice book row.pricingBook effectiveAt row.id opening.1 opening.2 ∧
    book.ref = .pricing row.pricingBook ∧ firstViolation row.checks = none

structure Wrote (book : Book) (effectiveAt : Int) (planned : List Planned) (before after : Tables)
    (rates : List Rate) (prices : List TaskPrice) : Prop where
  rateRows : after.rates = replaceRows (fun row => row.closeAt effectiveAt book.version)
    (fun row => decide (row.id ∈ planned.filterMap Planned.closedRate)) rates before.rates
  priceRows : after.taskPrices = replaceRows (fun row => row.closeAt effectiveAt book.version)
    (fun row => decide (row.id ∈ planned.filterMap Planned.closedTaskPrice)) prices
    before.taskPrices
  openedRates : List.Forall₂ (OpensRate (before.ruleCurrency book) book effectiveAt)
    (planned.filterMap Planned.rateOpening) rates
  openedPrices : List.Forall₂ (OpensTaskPrice book effectiveAt)
    (planned.filterMap Planned.taskPriceOpening) prices
  rateIds : rates.Pairwise (fun left right => left.id < right.id) ∧
    ∀ row ∈ rates, before.nextId ≤ row.id ∧ row.id < after.nextId
  priceIds : prices.Pairwise (fun left right => left.id < right.id) ∧
    ∀ row ∈ prices, before.nextId ≤ row.id ∧ row.id < after.nextId
  grows : before.nextId ≤ after.nextId
  frame : after = { before with
    nextId := after.nextId, rates := after.rates, taskPrices := after.taskPrices }

theorem replace_none {Row : Type} (close : Row → Row) (gone : Row → Bool) (rows : List Row)
    (never : ∀ row ∈ rows, gone row = false) : replaceRows close gone [] rows = rows := by
  rw [replaceRows, List.append_nil]
  conv_rhs => rw [← List.map_id rows]
  apply List.map_congr_left
  intro row inside
  simp [never row inside]

theorem close_outgoing_rate_ok (book : Book) (effectiveAt : Int) (written closed : Written)
    (outgoing : Option Rate)
    (accepted : closeOutgoingRate book effectiveAt written outgoing = .ok closed) :
    closed.tables = { written.tables with
      rates := replaceRows (fun row => row.closeAt effectiveAt book.version)
        (fun row => decide (row.id ∈ (outgoing.map Rate.id).toList)) [] written.tables.rates } := by
  cases outgoing with
  | none =>
    simp only [closeOutgoingRate, pure_eq_ok] at accepted
    subst accepted
    rw [replace_none _ _ _ (by simp)]
  | some row =>
    simp only [closeOutgoingRate, bind_eq_ok, pure_eq_ok] at accepted
    obtain ⟨rates, closing, rfl⟩ := accepted
    unfold closeRate at closing
    split at closing
    · simp at closing
    · split at closing
      · simp at closing
      · simp only [pure_eq_ok] at closing
        subst closing
        simp [updateRow, replaceRows]

theorem close_outgoing_task_price_ok (book : Book) (effectiveAt : Int) (written closed : Written)
    (outgoing : Option TaskPrice)
    (accepted : closeOutgoingTaskPrice book effectiveAt written outgoing = .ok closed) :
    closed.tables = { written.tables with
      taskPrices := replaceRows (fun row => row.closeAt effectiveAt book.version)
        (fun row => decide (row.id ∈ (outgoing.map TaskPrice.id).toList)) []
        written.tables.taskPrices } := by
  cases outgoing with
  | none =>
    simp only [closeOutgoingTaskPrice, pure_eq_ok] at accepted
    subst accepted
    rw [replace_none _ _ _ (by simp)]
  | some row =>
    simp only [closeOutgoingTaskPrice, bind_eq_ok, pure_eq_ok] at accepted
    obtain ⟨lines, closing, rfl⟩ := accepted
    unfold closeTaskPrice at closing
    split at closing
    · simp at closing
    · split at closing
      · simp at closing
      · simp only [pure_eq_ok] at closing
        subst closing
        simp [updateRow, replaceRows]

theorem insert_rate_ok (row : Rate) (rows after : List Rate)
    (accepted : insertRate row rows = .ok after) :
    after = rows ++ [row] ∧ row.measurement.isSome = true ∧ firstViolation row.checks = none := by
  unfold insertRate at accepted
  split at accepted
  · simp at accepted
  · rename_i declared
    split at accepted
    · simp at accepted
    · rename_i clean
      split at accepted
      · simp at accepted
      · simp only [pure_eq_ok] at accepted
        refine ⟨accepted.symm, ?_, clean⟩
        cases found : row.measurement <;> simp [found] at declared ⊢

theorem insert_task_price_ok (row : TaskPrice) (rows after : List TaskPrice)
    (accepted : insertTaskPrice row rows = .ok after) :
    after = rows ++ [row] ∧ firstViolation row.checks = none := by
  unfold insertTaskPrice at accepted
  split at accepted
  · simp at accepted
  · rename_i clean
    split at accepted
    · simp at accepted
    · simp only [pure_eq_ok] at accepted
      exact ⟨accepted.symm, clean⟩

@[simp] theorem incoming_rate_id (currency : String) (book : Book) (effectiveAt : Int) (id : Nat)
    (change : PlannedChange) (terms : Terms) :
    (incomingRate currency book effectiveAt id change terms).id = id := by
  unfold incomingRate
  split <;> rfl

theorem publish_a_rate_wrote (book : Book) (effectiveAt : Int) (written after : Written)
    (change : PlannedChange)
    (accepted : publishARate book effectiveAt written change = .ok after) :
    ∃ rates, Wrote book effectiveAt [.rate change] written.tables after.tables rates [] := by
  simp only [publishARate, bind_eq_ok] at accepted
  obtain ⟨closed, closing, opening⟩ := accepted
  have shut := close_outgoing_rate_ok _ _ _ _ _ closing
  have ids : [Planned.rate change].filterMap Planned.closedRate =
      (change.outgoing.map Rate.id).toList := by
    cases outgoing : change.outgoing <;> simp [Planned.closedRate, outgoing]
  cases stated : change.terms with
  | none =>
    simp only [stated, openIncomingRate, pure_eq_ok] at opening
    subst opening
    refine ⟨[], ?_⟩
    constructor
    · rw [shut, ids]
    · simp only [shut]
      rw [replace_none]
      simp [Planned.closedTaskPrice]
    · simp [Planned.rateOpening, stated]
    · simp [Planned.taskPriceOpening]
    · simp
    · simp
    · simp [shut]
    · rw [shut]
  | some terms =>
    simp only [stated, openIncomingRate, bind_eq_ok, pure_eq_ok] at opening
    obtain ⟨rates, inserting, rfl⟩ := opening
    obtain ⟨rfl, declared, clean⟩ := insert_rate_ok _ _ _ inserting
    refine ⟨[incomingRate (closed.tables.ruleCurrency book) book effectiveAt closed.tables.nextId
      change terms], ?_⟩
    have currency : closed.tables.ruleCurrency book = written.tables.ruleCurrency book := by
      rw [shut]; rfl
    constructor
    · simp only [shut, ids, replaceRows, List.append_nil]
    · simp only [shut]
      rw [replace_none]
      simp [Planned.closedTaskPrice]
    · simp only [List.filterMap_cons, List.filterMap_nil, Planned.rateOpening, stated,
        Option.map_some]
      refine .cons ⟨?_, declared, clean⟩ .nil
      rw [incoming_rate_id, currency]
    · simp [Planned.taskPriceOpening]
    · simp [shut]
    · simp
    · simp [shut]
    · simp [shut]

theorem publish_an_agreed_price_wrote (book : Book) (effectiveAt : Int) (written after : Written)
    (change : PlannedAgreedPrice)
    (accepted : publishAnAgreedPrice book effectiveAt written change = .ok after)
    (pricing : book.isCost = false) :
    ∃ prices, Wrote book effectiveAt [.agreedPrice change] written.tables after.tables [] prices := by
  simp only [publishAnAgreedPrice, bind_eq_ok] at accepted
  obtain ⟨closed, closing, opening⟩ := accepted
  have shut := close_outgoing_task_price_ok _ _ _ _ _ closing
  have ids : [Planned.agreedPrice change].filterMap Planned.closedTaskPrice =
      (change.outgoing.map TaskPrice.id).toList := by
    cases outgoing : change.outgoing <;> simp [Planned.closedTaskPrice, outgoing]
  cases stated : change.amount with
  | none =>
    simp only [stated, openIncomingTaskPrice, pure_eq_ok] at opening
    subst opening
    refine ⟨[], ?_⟩
    constructor
    · simp only [shut]
      rw [replace_none]
      simp [Planned.closedRate]
    · rw [shut, ids]
    · simp [Planned.rateOpening]
    · simp [Planned.taskPriceOpening, stated]
    · simp
    · simp
    · simp [shut]
    · rw [shut]
  | some amount =>
    cases kind : book with
    | cost held => simp [kind, Book.isCost] at pricing
    | pricing held =>
      simp only [stated, kind, openIncomingTaskPrice, Book.ref, bind_eq_ok, pure_eq_ok] at opening
      obtain ⟨lines, inserting, rfl⟩ := opening
      obtain ⟨rfl, clean⟩ := insert_task_price_ok _ _ _ inserting
      refine ⟨[incomingTaskPrice (.pricing held) held.id effectiveAt closed.tables.nextId change
        amount], ?_⟩
      rw [kind] at shut
      constructor
      · simp only [shut]
        rw [replace_none]
        simp [Planned.closedRate]
      · simp only [shut, ids, replaceRows, List.append_nil]
      · simp [Planned.rateOpening]
      · simp only [List.filterMap_cons, List.filterMap_nil, Planned.taskPriceOpening, stated,
          Option.map_some]
        exact .cons ⟨rfl, rfl, clean⟩ .nil
      · simp
      · simp [incomingTaskPrice, shut]
      · simp [shut]
      · simp [shut]

theorem ids_append {Row : Type} (id : Row → Nat) (low middle high : Nat) (first second : List Row)
    (firstIds : first.Pairwise (fun left right => id left < id right) ∧
      ∀ row ∈ first, low ≤ id row ∧ id row < middle)
    (secondIds : second.Pairwise (fun left right => id left < id right) ∧
      ∀ row ∈ second, middle ≤ id row ∧ id row < high)
    (lower : low ≤ middle) (upper : middle ≤ high) :
    (first ++ second).Pairwise (fun left right => id left < id right) ∧
      ∀ row ∈ first ++ second, low ≤ id row ∧ id row < high := by
  constructor
  · rw [List.pairwise_append]
    refine ⟨firstIds.1, secondIds.1, ?_⟩
    intro left inLeft right inRight
    have below := (firstIds.2 left inLeft).2
    have above := (secondIds.2 right inRight).1
    omega
  · intro row inside
    cases List.mem_append.1 inside with
    | inl early =>
      have bounds := firstIds.2 row early
      omega
    | inr late =>
      have bounds := secondIds.2 row late
      omega

theorem wrote_append (book : Book) (effectiveAt : Int) (first second : List Planned)
    (before middle after : Tables) (firstRates secondRates : List Rate)
    (firstPrices secondPrices : List TaskPrice)
    (oldRates : ∀ id ∈ second.filterMap Planned.closedRate, id < before.nextId)
    (oldPrices : ∀ id ∈ second.filterMap Planned.closedTaskPrice, id < before.nextId)
    (head : Wrote book effectiveAt first before middle firstRates firstPrices)
    (tail : Wrote book effectiveAt second middle after secondRates secondPrices) :
    Wrote book effectiveAt (first ++ second) before after (firstRates ++ secondRates)
      (firstPrices ++ secondPrices) := by
  have currency : middle.ruleCurrency book = before.ruleCurrency book := by
    rw [head.frame]; rfl
  constructor
  · rw [tail.rateRows, head.rateRows, replace_rows_twice]
    · simp only [List.filterMap_append, List.mem_append, Bool.decide_or]
    · intro row
      rfl
    · intro row
      rfl
    · intro row inside
      rw [decide_eq_false_iff_not]
      intro listed
      have old := oldRates row.id listed
      have fresh := (head.rateIds.2 row inside).1
      omega
  · rw [tail.priceRows, head.priceRows, replace_rows_twice]
    · simp only [List.filterMap_append, List.mem_append, Bool.decide_or]
    · intro row
      rfl
    · intro row
      rfl
    · intro row inside
      rw [decide_eq_false_iff_not]
      intro listed
      have old := oldPrices row.id listed
      have fresh := (head.priceIds.2 row inside).1
      omega
  · rw [List.filterMap_append]
    exact List.rel_append head.openedRates (currency ▸ tail.openedRates)
  · rw [List.filterMap_append]
    exact List.rel_append head.openedPrices tail.openedPrices
  · exact ids_append Rate.id _ _ _ _ _ head.rateIds tail.rateIds head.grows tail.grows
  · exact ids_append TaskPrice.id _ _ _ _ _ head.priceIds tail.priceIds head.grows tail.grows
  · exact head.grows.trans tail.grows
  · rw [tail.frame, head.frame]

theorem wrote_nothing (book : Book) (effectiveAt : Int) (tables : Tables) :
    Wrote book effectiveAt [] tables tables [] [] := by
  constructor
  · rw [replace_none _ _ _ (by simp)]
  · rw [replace_none _ _ _ (by simp)]
  · simp
  · simp
  · simp
  · simp
  · exact le_refl _
  · rfl

theorem publish_planned_wrote (book : Book) (effectiveAt : Int) (written after : Written)
    (planned : Planned) (pricing : ∀ change, planned = .agreedPrice change → book.isCost = false)
    (accepted : publishPlanned book effectiveAt written planned = .ok after) :
    ∃ rates prices, Wrote book effectiveAt [planned] written.tables after.tables rates prices := by
  cases planned with
  | rate change =>
    obtain ⟨rates, wrote⟩ := publish_a_rate_wrote _ _ _ _ _ accepted
    exact ⟨rates, [], wrote⟩
  | agreedPrice change =>
    obtain ⟨prices, wrote⟩ := publish_an_agreed_price_wrote _ _ _ _ _ accepted (pricing change rfl)
    exact ⟨[], prices, wrote⟩

theorem publish_fold_wrote (book : Book) (effectiveAt : Int) (planned : List Planned)
    (written after : Written)
    (pricing : ∀ change, Planned.agreedPrice change ∈ planned → book.isCost = false)
    (oldRates : ∀ id ∈ planned.filterMap Planned.closedRate, id < written.tables.nextId)
    (oldPrices : ∀ id ∈ planned.filterMap Planned.closedTaskPrice, id < written.tables.nextId)
    (accepted : planned.foldlM (publishPlanned book effectiveAt) written = .ok after) :
    ∃ rates prices, Wrote book effectiveAt planned written.tables after.tables rates prices := by
  induction planned generalizing written with
  | nil =>
    simp only [List.foldlM_nil, pure_eq_ok] at accepted
    subst accepted
    exact ⟨[], [], wrote_nothing book effectiveAt _⟩
  | cons one rest hypothesis =>
    obtain ⟨middle, head, tail⟩ := (fold_m_cons_ok _ _ _ _ _).1 accepted
    obtain ⟨rates, prices, wroteOne⟩ := publish_planned_wrote book effectiveAt written middle one
      (fun change same => pricing change (by simp [same])) head
    have restRates : ∀ id ∈ rest.filterMap Planned.closedRate, id < written.tables.nextId := by
      intro id inside
      apply oldRates
      rw [← List.singleton_append, List.filterMap_append]
      exact List.mem_append_right _ inside
    have restPrices : ∀ id ∈ rest.filterMap Planned.closedTaskPrice, id < written.tables.nextId := by
      intro id inside
      apply oldPrices
      rw [← List.singleton_append, List.filterMap_append]
      exact List.mem_append_right _ inside
    obtain ⟨laterRates, laterPrices, wroteRest⟩ := hypothesis middle
      (fun change inside => pricing change (List.mem_cons_of_mem _ inside))
      (fun id inside => (restRates id inside).trans_le wroteOne.grows)
      (fun id inside => (restPrices id inside).trans_le wroteOne.grows) tail
    exact ⟨_, _, wrote_append book effectiveAt [one] rest _ _ _ _ _ _ _ restRates restPrices
      wroteOne wroteRest⟩

theorem no_violation_iff (checks : List (IntegrityError × Bool)) :
    firstViolation checks = none ↔ ∀ check ∈ checks, check.2 = true := by
  simp [firstViolation]

theorem checked_one_book (row : Rate) (clean : firstViolation row.checks = none) (left right : BookRef)
    (inLeft : row.isIn left = true) (inRight : row.isIn right = true) : left = right := by
  have single := (no_violation_iff _).1 clean
    (.sitsInAtMostOneBook, !(row.pricingBook.isSome && row.costBook.isSome)) (by simp [Rate.checks])
  cases left <;> cases right <;> simp only [Rate.isIn, beq_iff_eq] at inLeft inRight <;>
    simp_all

theorem book_ref (tables : Tables) (ref : BookRef) (book : Book)
    (found : tables.book? ref = some book) : book.ref = ref := by
  cases ref with
  | pricing id =>
    simp only [Tables.book?, Option.map_eq_some_iff] at found
    obtain ⟨held, hit, rfl⟩ := found
    have same := List.find?_some hit
    simp only [beq_iff_eq] at same
    simp [Book.ref, same]
  | cost id =>
    simp only [Tables.book?, Option.map_eq_some_iff] at found
    obtain ⟨held, hit, rfl⟩ := found
    have same := List.find?_some hit
    simp only [beq_iff_eq] at same
    simp [Book.ref, same]

-- The version save and the record's own save touch no line.
def CostBook.shelf (book : CostBook) : CostBook := { book with version := 0 }

structure SameShelves (before after : Tables) : Prop where
  pricing : after.pricingBooks.map PricingBook.shelf = before.pricingBooks.map PricingBook.shelf
  cost : after.costBooks.map CostBook.shelf = before.costBooks.map CostBook.shelf
  plans : after.plans = before.plans
  assignments : after.assignments = before.assignments

theorem same_shelves_refl (tables : Tables) : SameShelves tables tables := ⟨rfl, rfl, rfl, rfl⟩

theorem same_shelves_trans (first second third : Tables) (early : SameShelves first second)
    (late : SameShelves second third) : SameShelves first third :=
  ⟨late.pricing.trans early.pricing, late.cost.trans early.cost, late.plans.trans early.plans,
    late.assignments.trans early.assignments⟩

theorem save_version_ok (ref : BookRef) (version : Nat) (tables saved : Tables)
    (accepted : saveVersion ref version tables = .ok saved) :
    fitsPositiveInteger version = true ∧ SameShelves tables saved ∧
      saved = { tables with pricingBooks := saved.pricingBooks, costBooks := saved.costBooks } := by
  unfold saveVersion at accepted
  split at accepted
  · rename_i fits
    refine ⟨fits, ?_⟩
    cases ref with
    | pricing id =>
      simp only [pure_eq_ok] at accepted
      rw [← accepted]
      exact ⟨⟨update_row_map PricingBook.id id _ _ PricingBook.shelf (fun _ => rfl), rfl, rfl, rfl⟩, rfl⟩
    | cost id =>
      simp only [pure_eq_ok] at accepted
      rw [← accepted]
      exact ⟨⟨rfl, update_row_map CostBook.id id _ _ CostBook.shelf (fun _ => rfl), rfl, rfl⟩, rfl⟩
  · simp at accepted

theorem publish_declared_ok (tables after : Tables) (recordId : Nat)
    (accepted : publishDeclared tables recordId = .ok after) :
    ∃ record book planned written,
      tables.publishes.find? (fun record => decide (record.id = recordId)) = some record ∧
      tables.book? record.book = some book ∧
      planChanges tables book record.changes record.effectiveAt = .ok planned ∧
      planned.foldlM (publishPlanned book record.effectiveAt) ⟨tables, [], [], [], []⟩ =
        .ok written ∧
      SameShelves written.tables after ∧
      after = { written.tables with
        pricingBooks := after.pricingBooks
        costBooks := after.costBooks
        publishes := after.publishes } := by
  unfold publishDeclared at accepted
  split at accepted
  · simp at accepted
  · rename_i record found
    split at accepted
    · simp at accepted
    · split at accepted
      · simp at accepted
      · rename_i book located
        simp only [bind_eq_ok, liftPlan, liftIntegrity, map_error_eq_ok, writePublish,
          pure_eq_ok] at accepted
        obtain ⟨planned, plans, written, writes, saved, saves, rfl⟩ := accepted
        obtain ⟨_, shelved, versioned⟩ := save_version_ok _ _ _ _ saves
        have shelves : SameShelves written.tables { saved with
            publishes := updateRow PricingBookPublish.id record.id (markPublished written) saved.publishes } :=
          ⟨shelved.pricing, shelved.cost, shelved.plans, shelved.assignments⟩
        refine ⟨record, book, planned, written, found, located, plans, writes, shelves, ?_⟩
        rw [versioned]

end Ubb.Pricing
