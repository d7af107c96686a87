import Ubb.Library.Runs
import Ubb.Pricing.Publish

set_option autoImplicit false

-- The writers of books and plans, and the machine whose steps are every writer
-- of the pricing tables: a refused step changes nothing.
namespace Ubb.Pricing

open Library

-- What a writer of books answers: the conflicts of the unique constraints.
inductive CatalogueRefusal where
  | bookKeyTaken
  | secondDefault
  | unsupportedCurrency
  | planKeyTaken
  | planNotFound
  | planInUse
deriving DecidableEq, Repr

-- uq_pricing_book_tenant_key and uq_pricing_book_one_default.
def insertPricingBook (tables : Tables) (tenant : Nat) (customer : Option Nat) (key : String)
    (isDefault : Bool) : Except CatalogueRefusal Tables :=
  if tables.pricingBooks.any (fun book => book.tenant == tenant && book.key == key) then
    throw .bookKeyTaken
  else if isDefault && tables.pricingBooks.any (fun book =>
      book.tenant == tenant && book.isDefault) then
    throw .secondDefault
  else
    pure { tables with
      nextId := tables.nextId + 1
      pricingBooks := tables.pricingBooks ++ [⟨tables.nextId, tenant, customer, key, 1, isDefault⟩] }

def declarePricingBook (tables : Tables) (tenant : Nat) (key : String) (isDefault : Bool) :
    Except CatalogueRefusal Tables :=
  insertPricingBook tables tenant none key isDefault

def declareCostBook (tables : Tables) (tenant : Nat) (providerKey currency key : String)
    (isDefault : Bool) : Except CatalogueRefusal Tables :=
  if currency ≠ "usd" then throw .unsupportedCurrency
  else if tables.costBooks.any (fun book => book.tenant == tenant && book.key == key) then
    throw .bookKeyTaken
  else if isDefault && tables.costBooks.any (fun book =>
      book.tenant == tenant && book.isDefault && book.providerKey == providerKey) then
    throw .secondDefault
  else
    pure { tables with
      nextId := tables.nextId + 1
      costBooks := tables.costBooks ++
        [⟨tables.nextId, tenant, providerKey, currency, key, 1, isDefault⟩] }

def overrideBook (tables : Tables) (tenant : Nat) : Option Nat → Option PricingBook
  | none => none
  | some customer =>
    tables.pricingBooks.find? (fun book => book.customer == some customer && book.tenant == tenant)

-- BookService.the_customers_own_book: get_or_create.
def theCustomersOwnBook (tables : Tables) (tenant customer : Nat) :
    Except CatalogueRefusal Tables :=
  match overrideBook tables tenant (some customer) with
  | some _ => pure tables
  | none =>
    insertPricingBook tables tenant (some customer) ("customer-override-" ++ toString customer) false

-- BookService.the_book_a_plan_prices_from: the lookup pins customer=None and
-- is_default=False, and the book found or made is answered with the tables.
def theBookAPlanPricesFrom (tables : Tables) (tenant : Nat) (planKey : String) :
    Except CatalogueRefusal (Tables × Nat) :=
  match tables.pricingBooks.find? (fun book =>
      book.tenant == tenant && book.key == planKey && book.customer.isNone && !book.isDefault) with
  | some book => pure (tables, book.id)
  | none => do
    let made ← insertPricingBook tables tenant none planKey false
    pure (made, tables.nextId)

def createPlan (tables : Tables) (tenant : Nat) (key : String) : Except CatalogueRefusal Tables := do
  let (made, book) ← theBookAPlanPricesFrom tables tenant key
  if made.plans.any (fun plan => plan.tenant == tenant && plan.key == key) then throw .planKeyTaken
  else
    pure { made with
      nextId := made.nextId + 1
      plans := made.plans ++ [⟨made.nextId, tenant, key, book, false⟩] }

def planWithKey (tables : Tables) (tenant : Nat) (key : String) : Option Plan :=
  tables.plans.find? (fun plan => plan.tenant == tenant && plan.key == key)

-- PlanService.assign: one assignment a customer, so an upsert.
def assignPlan (tables : Tables) (tenant customer : Nat) (key : String) :
    Except CatalogueRefusal Tables :=
  match planWithKey tables tenant key with
  | none => throw .planNotFound
  | some plan =>
    if plan.archived then throw .planNotFound
    else
      pure { tables with
        assignments := tables.assignments.filter (fun held =>
          !(held.tenant == tenant && held.customer == customer)) ++ [⟨tenant, customer, plan.id⟩] }

def archivePlan (tables : Tables) (tenant : Nat) (key : String) : Except CatalogueRefusal Tables :=
  match planWithKey tables tenant key with
  | none => throw .planNotFound
  | some plan =>
    if tables.assignments.any (fun held => held.plan == plan.id) then throw .planInUse
    else
      pure { tables with
        plans := updateRow Plan.id plan.id (fun plan => { plan with archived := true })
          tables.plans }

-- PricingBook.customer is SET_NULL, an assignment goes with its customer.
def deleteCustomer (tables : Tables) (customer : Nat) : Tables :=
  { tables with
    pricingBooks := tables.pricingBooks.map (fun book =>
      if book.customer = some customer then { book with customer := none } else book)
    assignments := tables.assignments.filter (fun held => held.customer != customer) }

def declareMeasurement (tables : Tables) (tenant : Nat) (code : String) (createdAt : Int) : Tables :=
  { tables with
    nextId := tables.nextId + 1
    measurements := tables.measurements ++ [⟨tables.nextId, tenant, code, createdAt⟩] }

def declareTaskType (tables : Tables) (tenant : Nat) (key : String) (kind : TaskTypeKind) : Tables :=
  if 64 < key.length ∨ (taskTypePolicy tables tenant key kind).isSome then tables
  else { tables with taskTypes := tables.taskTypes ++ [⟨tenant, key, kind, false⟩] }

def retireTaskType (tables : Tables) (tenant : Nat) (key : String) (kind : TaskTypeKind) : Tables :=
  { tables with
    taskTypes := tables.taskTypes.map (fun declared =>
      if declared.tenant = tenant ∧ declared.key = key ∧ declared.kind = kind then
        { declared with retired := true }
      else declared) }

inductive Op where
  | declareMeasurement (tenant : Nat) (code : String) (createdAt : Int)
  | declareTaskType (tenant : Nat) (key : String) (kind : TaskTypeKind)
  | retireTaskType (tenant : Nat) (key : String) (kind : TaskTypeKind)
  | declarePricingBook (tenant : Nat) (key : String) (isDefault : Bool)
  | declareCostBook (tenant : Nat) (providerKey currency key : String) (isDefault : Bool)
  | theCustomersOwnBook (tenant customer : Nat)
  | createPlan (tenant : Nat) (key : String)
  | assignPlan (tenant customer : Nat) (key : String)
  | archivePlan (tenant : Nat) (key : String)
  | deleteCustomer (customer : Nat)
  | declare (book : BookRef) (changes : List Change) (effectiveAt : Int)
  | publishDeclared (record : Nat)
  | discard (record : Nat)

def keepOnRefusal {Refused : Type} (tables : Tables) : Except Refused Tables → Tables
  | .ok written => written
  | .error _ => tables

def step (tables : Tables) : Op → Tables
  | .declareMeasurement tenant code createdAt => declareMeasurement tables tenant code createdAt
  | .declareTaskType tenant key kind => declareTaskType tables tenant key kind
  | .retireTaskType tenant key kind => retireTaskType tables tenant key kind
  | .declarePricingBook tenant key isDefault =>
      keepOnRefusal tables (declarePricingBook tables tenant key isDefault)
  | .declareCostBook tenant providerKey currency key isDefault =>
      keepOnRefusal tables (declareCostBook tables tenant providerKey currency key isDefault)
  | .theCustomersOwnBook tenant customer =>
      keepOnRefusal tables (theCustomersOwnBook tables tenant customer)
  | .createPlan tenant key => keepOnRefusal tables (createPlan tables tenant key)
  | .assignPlan tenant customer key => keepOnRefusal tables (assignPlan tables tenant customer key)
  | .archivePlan tenant key => keepOnRefusal tables (archivePlan tables tenant key)
  | .deleteCustomer customer => deleteCustomer tables customer
  | .declare book changes effectiveAt =>
      keepOnRefusal tables (declare tables book changes effectiveAt)
  | .publishDeclared record => keepOnRefusal tables (publishDeclared tables record)
  | .discard record => keepOnRefusal tables (discard tables record)

-- UBB ships no catalogue. A tenant's currency is "usd" under
-- ck_tenant_default_currency_usd.
def emptyTables : Tables where
  nextId := 0
  defaultCurrency := fun _ => "usd"
  measurements := []
  taskTypes := []
  pricingBooks := []
  costBooks := []
  plans := []
  assignments := []
  rates := []
  taskPrices := []
  publishes := []

structure KeepsLines (before after : Tables) : Prop where
  rates : after.rates = before.rates
  taskPrices : after.taskPrices = before.taskPrices
  grows : before.nextId ≤ after.nextId

theorem keeps_lines_refl (tables : Tables) : KeepsLines tables tables := ⟨rfl, rfl, le_refl _⟩

theorem keep_on_refusal {Refused : Type} (Kept : Tables → Tables → Prop)
    (same : ∀ tables, Kept tables tables) (tables : Tables) (outcome : Except Refused Tables)
    (accepted : ∀ written, outcome = .ok written → Kept tables written) :
    Kept tables (keepOnRefusal tables outcome) := by
  cases outcome with
  | error refusal => exact same tables
  | ok written => exact accepted written rfl

theorem insert_pricing_book_ok (tables after : Tables) (tenant : Nat) (customer : Option Nat)
    (key : String) (isDefault : Bool)
    (accepted : insertPricingBook tables tenant customer key isDefault = .ok after) :
    after = { tables with
      nextId := tables.nextId + 1
      pricingBooks := tables.pricingBooks ++
        [⟨tables.nextId, tenant, customer, key, 1, isDefault⟩] } := by
  unfold insertPricingBook at accepted
  split at accepted
  · simp at accepted
  · split at accepted
    · simp at accepted
    · simp only [pure_eq_ok] at accepted
      exact accepted.symm

theorem insert_pricing_book_keeps (tables after : Tables) (tenant : Nat) (customer : Option Nat)
    (key : String) (isDefault : Bool)
    (accepted : insertPricingBook tables tenant customer key isDefault = .ok after) :
    KeepsLines tables after := by
  rw [insert_pricing_book_ok _ _ _ _ _ _ accepted]
  exact ⟨rfl, rfl, Nat.le_succ _⟩

theorem declare_cost_book_keeps (tables after : Tables) (tenant : Nat)
    (providerKey currency key : String) (isDefault : Bool)
    (accepted : declareCostBook tables tenant providerKey currency key isDefault = .ok after) :
    KeepsLines tables after := by
  unfold declareCostBook at accepted
  split at accepted
  · simp at accepted
  · split at accepted
    · simp at accepted
    · split at accepted
      · simp at accepted
      · simp only [pure_eq_ok] at accepted
        rw [← accepted]
        exact ⟨rfl, rfl, Nat.le_succ _⟩

theorem the_customers_own_book_keeps (tables after : Tables) (tenant customer : Nat)
    (accepted : theCustomersOwnBook tables tenant customer = .ok after) :
    KeepsLines tables after := by
  unfold theCustomersOwnBook at accepted
  split at accepted
  · simp only [pure_eq_ok] at accepted
    rw [← accepted]
    exact keeps_lines_refl tables
  · exact insert_pricing_book_keeps _ _ _ _ _ _ accepted

theorem create_plan_keeps (tables after : Tables) (tenant : Nat) (key : String)
    (accepted : createPlan tables tenant key = .ok after) : KeepsLines tables after := by
  simp only [createPlan, bind_eq_ok] at accepted
  obtain ⟨⟨made, book⟩, found, accepted⟩ := accepted
  have keptBook : KeepsLines tables made := by
    unfold theBookAPlanPricesFrom at found
    split at found
    · simp only [pure_eq_ok, Prod.mk.injEq] at found
      rw [← found.1]
      exact keeps_lines_refl tables
    · simp only [bind_eq_ok, pure_eq_ok, Prod.mk.injEq] at found
      obtain ⟨inserted, inserting, rfl, _⟩ := found
      exact insert_pricing_book_keeps _ _ _ _ _ _ inserting
  split at accepted
  · simp at accepted
  · simp only [pure_eq_ok] at accepted
    rw [← accepted]
    exact ⟨keptBook.rates, keptBook.taskPrices, keptBook.grows.trans (Nat.le_succ _)⟩

theorem assign_plan_keeps (tables after : Tables) (tenant customer : Nat) (key : String)
    (accepted : assignPlan tables tenant customer key = .ok after) : KeepsLines tables after := by
  unfold assignPlan at accepted
  split at accepted
  · simp at accepted
  · split at accepted
    · simp at accepted
    · simp only [pure_eq_ok] at accepted
      rw [← accepted]
      exact ⟨rfl, rfl, le_refl _⟩

theorem archive_plan_keeps (tables after : Tables) (tenant : Nat) (key : String)
    (accepted : archivePlan tables tenant key = .ok after) : KeepsLines tables after := by
  unfold archivePlan at accepted
  split at accepted
  · simp at accepted
  · split at accepted
    · simp at accepted
    · simp only [pure_eq_ok] at accepted
      rw [← accepted]
      exact ⟨rfl, rfl, le_refl _⟩

theorem declare_ok (tables after : Tables) (ref : BookRef) (changes : List Change)
    (effectiveAt : Int) (accepted : declare tables ref changes effectiveAt = .ok after) :
    ∃ book planned, tables.book? ref = some book ∧
      planChanges tables book changes effectiveAt = .ok planned ∧
      after = { tables with
        nextId := tables.nextId + 1
        publishes := tables.publishes ++ [draftOf tables book changes effectiveAt] } := by
  unfold declare at accepted
  split at accepted
  · simp at accepted
  · rename_i book found
    simp only [bind_eq_ok, liftPlan, map_error_eq_ok, pure_eq_ok] at accepted
    obtain ⟨planned, plans, same⟩ := accepted
    exact ⟨book, planned, found, plans, same.symm⟩

theorem declare_keeps (tables after : Tables) (ref : BookRef) (changes : List Change)
    (effectiveAt : Int) (accepted : declare tables ref changes effectiveAt = .ok after) :
    KeepsLines tables after := by
  obtain ⟨_, _, _, _, rfl⟩ := declare_ok _ _ _ _ _ accepted
  exact ⟨rfl, rfl, Nat.le_succ _⟩

theorem discard_keeps (tables after : Tables) (record : Nat)
    (accepted : discard tables record = .ok after) : KeepsLines tables after := by
  unfold discard at accepted
  split at accepted
  · simp at accepted
  · split at accepted
    · simp at accepted
    · simp only [pure_eq_ok] at accepted
      rw [← accepted]
      exact ⟨rfl, rfl, le_refl _⟩

theorem step_keeps_lines (tables : Tables) (op : Op)
    (noPublish : ∀ record, op ≠ .publishDeclared record) : KeepsLines tables (step tables op) := by
  have kept := fun {Refused : Type} =>
    @keep_on_refusal Refused KeepsLines keeps_lines_refl tables
  cases op with
  | declareMeasurement tenant code createdAt => exact ⟨rfl, rfl, Nat.le_succ _⟩
  | declareTaskType tenant key kind =>
    simp only [step, declareTaskType]
    split
    · exact keeps_lines_refl tables
    · exact ⟨rfl, rfl, le_refl _⟩
  | retireTaskType tenant key kind => exact ⟨rfl, rfl, le_refl _⟩
  | declarePricingBook tenant key isDefault =>
    exact kept _ (fun _ => insert_pricing_book_keeps _ _ _ _ _ _)
  | declareCostBook tenant providerKey currency key isDefault =>
    exact kept _ (fun _ => declare_cost_book_keeps _ _ _ _ _ _ _)
  | theCustomersOwnBook tenant customer =>
    exact kept _ (fun _ => the_customers_own_book_keeps _ _ _ _)
  | createPlan tenant key => exact kept _ (fun _ => create_plan_keeps _ _ _ _)
  | assignPlan tenant customer key => exact kept _ (fun _ => assign_plan_keeps _ _ _ _ _)
  | archivePlan tenant key => exact kept _ (fun _ => archive_plan_keeps _ _ _ _)
  | deleteCustomer customer => exact ⟨rfl, rfl, le_refl _⟩
  | declare book changes effectiveAt => exact kept _ (fun _ => declare_keeps _ _ _ _ _)
  | publishDeclared record => exact absurd rfl (noPublish record)
  | discard record => exact kept _ (fun _ => discard_keeps _ _ _)

end Ubb.Pricing
