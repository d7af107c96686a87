import Mathlib.Data.List.Sort
import Mathlib.Data.Prod.Lex
import Mathlib.Tactic.DeriveFintype
import Mathlib.Tactic
import Ubb.Library.Timeline

set_option autoImplicit false

-- The pricing tables of apps/metering/pricing: the two kinds of book, the two
-- kinds of line a book holds, and the drafts and publishes that change them.
-- Row ids stand for UUIDs, instants and windows are integers, amounts micros.
namespace Ubb.Pricing

open Library

inductive Selector where
  | provider
  | eventType
  | taskType
  | subtaskType
  | groupingField (slot : Fin 10)
deriving DecidableEq, Fintype, Repr

abbrev Selectors := Selector → String

-- Rate.SELECTORS: the four named selectors and the ten slots.
def selectorNames : List Selector :=
  [.provider, .eventType, .taskType, .subtaskType] ++ (List.finRange 10).map .groupingField

theorem mem_selector_names (name : Selector) : name ∈ selectorNames := by
  cases name <;> simp [selectorNames]

def Selector.maxLength : Selector → Nat
  | .provider | .eventType | .groupingField _ => 100
  | .taskType | .subtaskType => 64

inductive PricingMethod where
  | marginOverCost
  | directEventPrice
deriving DecidableEq, Repr

def PricingMethod.ofText : String → Option PricingMethod
  | "margin_over_cost" => some .marginOverCost
  | "direct_event_price" => some .directEventPrice
  | _ => none

inductive RateStructure where
  | perUnit
  | fixedComponent
deriving DecidableEq, Repr

def RateStructure.ofText : String → Option RateStructure
  | "per_unit" => some .perUnit
  | "fixed_component" => some .fixedComponent
  | _ => none

inductive TaskTypeKind where
  | task
  | subtask
deriving DecidableEq, Repr

inductive BookRef where
  | pricing (id : Nat)
  | cost (id : Nat)
deriving DecidableEq, Repr

structure Measurement where
  id : Nat
  tenant : Nat
  code : String
  createdAt : Int
deriving DecidableEq, Repr

structure TaskType where
  tenant : Nat
  key : String
  kind : TaskTypeKind
  retired : Bool
deriving DecidableEq, Repr

-- _RULE_FIELDS: everything about a rule that a change can state.
structure Terms where
  ratePerUnitMicros : Int
  unitQuantity : Int
  fixedMicros : Int
  pricingMethod : Option PricingMethod
  rateStructure : RateStructure
deriving DecidableEq, Repr

structure Rate where
  id : Nat
  tenant : Nat
  customer : Option Nat
  selectors : Selectors
  measurement : Option Measurement
  undeclaredMeasurementKey : String
  terms : Terms
  currency : String
  pricingBook : Option Nat
  costBook : Option Nat
  lineage : Nat
  bookVersionFrom : Nat
  bookVersionTo : Option Nat
  validFrom : Int
  validTo : Option Int
deriving DecidableEq

def Rate.measurementKey (rate : Rate) : String :=
  match rate.measurement with
  | none => rate.undeclaredMeasurementKey
  | some measurement => measurement.code

def Rate.specificity (rate : Rate) : Nat :=
  selectorNames.countP (fun name => rate.selectors name ≠ "")

def Rate.isIn (rate : Rate) : BookRef → Bool
  | .pricing id => rate.pricingBook == some id
  | .cost id => rate.costBook == some id

structure TaskPrice where
  id : Nat
  tenant : Nat
  pricingBook : Nat
  kind : TaskTypeKind
  taskType : String
  agreedPriceMicros : Int
  lineage : Nat
  bookVersionFrom : Nat
  bookVersionTo : Option Nat
  validFrom : Int
  validTo : Option Int
deriving DecidableEq, Repr

structure PricingBook where
  id : Nat
  tenant : Nat
  customer : Option Nat
  key : String
  version : Nat
  isDefault : Bool
deriving DecidableEq, Repr

structure CostBook where
  id : Nat
  tenant : Nat
  providerKey : String
  currency : String
  key : String
  version : Nat
  isDefault : Bool
deriving DecidableEq, Repr

inductive Book where
  | pricing (book : PricingBook)
  | cost (book : CostBook)
deriving DecidableEq, Repr

def Book.ref : Book → BookRef
  | .pricing book => .pricing book.id
  | .cost book => .cost book.id

def Book.tenant : Book → Nat
  | .pricing book => book.tenant
  | .cost book => book.tenant

def Book.version : Book → Nat
  | .pricing book => book.version
  | .cost book => book.version

structure Plan where
  id : Nat
  tenant : Nat
  key : String
  pricingBook : Nat
  archived : Bool
deriving DecidableEq, Repr

structure PlanAssignment where
  tenant : Nat
  customer : Nat
  plan : Nat
deriving DecidableEq, Repr

inductive ChangeKind where
  | add
  | reprice
  | retire
deriving DecidableEq, Repr

def ChangeKind.ofText : String → Option ChangeKind
  | "add" => some .add
  | "reprice" => some .reprice
  | "retire" => some .retire
  | _ => none

inductive LineKind where
  | rate
  | agreedPrice
deriving DecidableEq, Repr

def LineKind.ofText : String → Option LineKind
  | "rate" => some .rate
  | "agreed_price" => some .agreedPrice
  | _ => none

-- What a body may hold under agreed_price_micros: a whole number, or a value
-- of another type (a boolean included), which the planner refuses.
inductive StatedAmount where
  | whole (amount : Int)
  | notWhole
deriving DecidableEq, Repr

-- One change body. An absent key is none; a selector's task_type is also the
-- key under which an agreed price names its kind of work.
structure Change where
  line : String
  kind : String
  measurementKey : Option String
  selectors : Selector → Option String
  ratePerUnitMicros : Option Int
  unitQuantity : Option Int
  fixedMicros : Option Int
  pricingMethod : Option String
  rateStructure : Option String
  agreedPriceMicros : Option StatedAmount
deriving DecidableEq

structure PricingBookPublish where
  id : Nat
  tenant : Nat
  book : BookRef
  published : Bool
  effectiveAt : Int
  changes : List Change
  openedRules : List Nat
  closedRules : List Nat
  openedAgreedPrices : List Nat
  closedAgreedPrices : List Nat
deriving DecidableEq

structure Tables where
  nextId : Nat
  defaultCurrency : Nat → String
  measurements : List Measurement
  taskTypes : List TaskType
  pricingBooks : List PricingBook
  costBooks : List CostBook
  plans : List Plan
  assignments : List PlanAssignment
  rates : List Rate
  taskPrices : List TaskPrice
  publishes : List PricingBookPublish

def Tables.book? (tables : Tables) : BookRef → Option Book
  | .pricing id => (tables.pricingBooks.find? (fun book => book.id == id)).map .pricing
  | .cost id => (tables.costBooks.find? (fun book => book.id == id)).map .cost

-- PricingBook.rule_currency is the tenant's, CostBook.rule_currency its own.
def Tables.ruleCurrency (tables : Tables) : Book → String
  | .pricing book =>
      let currency := tables.defaultCurrency book.tenant
      if currency = "" then "usd" else currency
  | .cost book => book.currency

def Rate.inForceAt (rate : Rate) (instant : Int) : Bool :=
  inWindow rate.validFrom rate.validTo instant

def TaskPrice.inForceAt (line : TaskPrice) (instant : Int) : Bool :=
  inWindow line.validFrom line.validTo instant

def rulesInForceAt (tables : Tables) (book : BookRef) (instant : Int) : List Rate :=
  tables.rates.filter (fun rate => rate.isIn book && rate.inForceAt instant)

-- The lines of a Pricing Book that are agreed prices; a cost book has none.
def TaskPrice.isIn (line : TaskPrice) : BookRef → Bool
  | .pricing id => line.pricingBook == id
  | .cost _ => false

def agreedPricesInForceAt (tables : Tables) (book : BookRef) (instant : Int) : List TaskPrice :=
  tables.taskPrices.filter (fun line =>
    line.isIn book && line.kind == .task && line.inForceAt instant)

-- declaration_named: the earliest declaration that carries the name.
def declarationNamed (tables : Tables) (tenant : Nat) (measurementKey : String) :
    Option Measurement :=
  if measurementKey = "" then none
  else
    ((tables.measurements.filter (fun declared =>
        declared.tenant == tenant && declared.code == measurementKey)).insertionSort
      (fun left right =>
        toLex (left.createdAt, left.id) ≤ toLex (right.createdAt, right.id))).head?

def taskTypePolicy (tables : Tables) (tenant : Nat) (key : String) (kind : TaskTypeKind) :
    Option TaskType :=
  tables.taskTypes.find? (fun declared =>
    declared.tenant == tenant && declared.key == key && declared.kind == kind)

end Ubb.Pricing
