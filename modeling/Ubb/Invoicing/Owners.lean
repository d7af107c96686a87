import Ubb.Core.Uuid
import Ubb.Invoicing.Recordings
import Ubb.Library.Outcomes
import Ubb.Library.Runs

set_option autoImplicit false

-- A tenant's customers and the postings they record, each pinned to the
-- customer that pays for it, and the invoice lines read back from them.
namespace Ubb.Invoicing.Owners

open Ubb.Library

inductive AccountType where
  | individual
  | business
  | seat
deriving DecidableEq, Repr

inductive BillingTopology where
  | unset
  | pooled
  | allocated
deriving DecidableEq, Repr

structure Customer where
  id : Uuid
  externalId : String
  accountType : AccountType
  parent : Option Uuid
  billingTopology : BillingTopology
  deleted : Bool := false
deriving DecidableEq, Repr

def findCustomer (id : Uuid) (customers : List Customer) : Option Customer :=
  customers.find? (fun customer => customer.id = id)

def resolveBillingOwner (customers : List Customer) (customer : Customer) : Uuid :=
  match customer.accountType, customer.parent.bind (fun id => findCustomer id customers) with
  | .seat, some parent => if parent.billingTopology = .pooled then parent.id else customer.id
  | _, _ => customer.id

-- A column of the posting that holds NULL has no entry.
structure Posting where
  id : Uuid
  customerId : Uuid
  billingOwnerId : Uuid
  effectiveAt : Int
  price : CustomerPrice
  columns : List (String × String)
deriving DecidableEq, Repr

def Posting.column (posting : Posting) (name : String) : Option String := posting.columns.lookup name

def Posting.inMonth (month : Nat) (posting : Posting) : Bool := monthOf posting.effectiveAt = month

structure Books where
  customers : List Customer
  postings : List Posting
deriving DecidableEq, Repr

structure CostTotal where
  billedCostMicros : Int
  unpricedEventCount : Nat
deriving DecidableEq, Repr

def costTotal (postings : List Posting) : CostTotal where
  billedCostMicros := (postings.map (fun posting => posting.price.billed)).sum
  unpricedEventCount := postings.countP (fun posting => posting.price = .unknown)

-- values(key).annotate(...): one row for each value of the key.
def groupTotals {Key : Type} [DecidableEq Key] (key : Posting → Key) (postings : List Posting) : List (Key × CostTotal) :=
  (postings.map key).dedup.map (fun value => (value, costTotal (postings.filter (fun posting => key posting = value))))

def carryingCustomerLiability (postings : List Posting) : List Posting :=
  postings.filter (fun posting => posting.price ≠ .noLiability)

def pinnedTo (owner : Uuid) (month : Nat) (postings : List Posting) : List Posting :=
  postings.filter (fun posting => posting.billingOwnerId = owner ∧ posting.inMonth month)

def recordedBy (customer : Uuid) (month : Nat) (postings : List Posting) : List Posting :=
  postings.filter (fun posting => posting.customerId = customer ∧ posting.inMonth month)

def getBilledTotalsByCustomer (owner : Uuid) (month : Nat) (postings : List Posting) : List (Uuid × CostTotal) :=
  groupTotals Posting.customerId (carryingCustomerLiability (pinnedTo owner month postings))

def getCustomerCostTotals (customer : Uuid) (month : Nat) (postings : List Posting) : CostTotal :=
  costTotal (recordedBy customer month postings)

structure AxisPlan where
  column : String
  membership : Option (List (String × String))
deriving DecidableEq, Repr

def invoiceLineLabel (plan : AxisPlan) (raw : Option String) : String :=
  let value := match plan.membership with
    | none => raw
    | some headings => raw.bind (fun identity => headings.lookup identity)
  match value with
  | none => "(other)"
  | some text => if text = "" then "(other)" else text

def mergeTotals {Key : Type} (label : Key → String) (groups : List (Key × CostTotal)) : List (String × CostTotal) :=
  (groups.map (fun group => label group.1)).dedup.map (fun text =>
    let under := groups.filter (fun group => label group.1 = text)
    (text, ⟨(under.map (fun group => group.2.billedCostMicros)).sum,
      (under.map (fun group => group.2.unpricedEventCount)).sum⟩))

inductive AggregateError where
  | notAnAxis (word : String)
deriving DecidableEq, Repr

structure LineConfig where
  invoiceLineGrouping : Option String
  axes : List (String × AxisPlan)
deriving DecidableEq, Repr

def LineConfig.Published (config : LineConfig) : Prop :=
  ∀ word, config.invoiceLineGrouping = some word → (config.axes.lookup word).isSome

def getCustomerBilledBreakdown (config : LineConfig) (word : String) (customer : Uuid) (month : Nat)
    (postings : List Posting) : Except AggregateError (List (String × CostTotal)) :=
  match config.axes.lookup word with
  | none => .error (.notAnAxis word)
  | some plan =>
      .ok (mergeTotals (invoiceLineLabel plan) (groupTotals (fun posting => posting.column plan.column)
        (carryingCustomerLiability (recordedBy customer month postings))))

-- A soft-deleted seat keeps its line.
def seatLabel (customers : List Customer) (customer : Uuid) : String :=
  ((findCustomer customer customers).map Customer.externalId).getD "(seat)"

-- agg[label] += ..., largest first.
def sortedLines {Key : Type} (label : Key → String) (groups : List (Key × CostTotal)) : List Line :=
  ((mergeTotals label groups).map (fun group => (⟨group.1, group.2.billedCostMicros⟩ : Line))).insertionSort linePrecedes

structure Aggregated where
  totalMicros : Int
  lines : List Line
  unpricedEventCount : Nat
deriving DecidableEq, Repr

def unpricedOver {Key : Type} (groups : List (Key × CostTotal)) : Nat :=
  (groups.map (fun group => group.2.unpricedEventCount)).sum

def aggregateLines (config : LineConfig) (month : Nat) (books : Books) (customer : Customer) :
    Except AggregateError Aggregated :=
  if customer.accountType = .business then
    let totals := getBilledTotalsByCustomer customer.id month books.postings
    if totals = [] then .ok ⟨0, [], 0⟩
    else
      let lines := sortedLines (seatLabel books.customers) totals
      .ok ⟨lineTotal lines, lines, unpricedOver totals⟩
  else
    match config.invoiceLineGrouping with
    | none =>
        let totals := getCustomerCostTotals customer.id month books.postings
        .ok ⟨totals.billedCostMicros, if totals.billedCostMicros ≠ 0 then [⟨"", totals.billedCostMicros⟩] else [],
          totals.unpricedEventCount⟩
    | some word =>
        (getCustomerBilledBreakdown config word customer.id month books.postings).map (fun breakdown =>
          let lines := sortedLines id breakdown
          ⟨lineTotal lines, lines, unpricedOver breakdown⟩)

def billingOwners (books : Books) : List Customer :=
  books.customers.filter (fun customer => resolveBillingOwner books.customers customer = customer.id)

-- The month's close addresses the owners of the customers that recorded in it.
def closeTargets (month : Nat) (books : Books) : List Customer :=
  let recorded := books.customers.filter (fun customer =>
    books.postings.any (fun posting => posting.customerId = customer.id && posting.inMonth month))
  let targets := recorded.map (resolveBillingOwner books.customers)
  books.customers.filter (fun customer => targets.contains customer.id)

-- none is a word that names no account type.
structure CreateCustomer where
  id : Uuid
  externalId : String
  accountType : Option AccountType
  parentExternalId : String
  billingTopology : BillingTopology
deriving DecidableEq, Repr

def createCustomer (request : CreateCustomer) (customers : List Customer) : Option Customer :=
  let created := match request.accountType with
    | none => none
    | some .seat =>
        if request.parentExternalId = "" then none
        else (customers.find? (fun customer => customer.externalId = request.parentExternalId ∧
          customer.accountType = .business ∧ customer.deleted = false)).map (fun parent =>
            (⟨request.id, request.externalId, .seat, some parent.id, .unset, false⟩ : Customer))
    | some .business =>
        if request.billingTopology = .unset then none
        else some ⟨request.id, request.externalId, .business, none, request.billingTopology, false⟩
    | some .individual => some ⟨request.id, request.externalId, .individual, none, .unset, false⟩
  if customers.any (fun customer => customer.id = request.id ||
      (customer.externalId = request.externalId && !customer.deleted)) then none
  else created

structure Draft where
  id : Uuid
  customerId : Uuid
  effectiveAt : Int
  price : CustomerPrice
  columns : List (String × String)
deriving DecidableEq, Repr

def Draft.pinned (draft : Draft) (owner : Uuid) : Posting :=
  ⟨draft.id, draft.customerId, owner, draft.effectiveAt, draft.price, draft.columns⟩

inductive Event where
  | create (request : CreateCustomer)
  | softDelete (customerId : Uuid)
  | record (draft : Draft)
deriving DecidableEq, Repr

def deleteRow (customer : Customer) : Customer := { customer with deleted := true }

def step (books : Books) : Event → Books
  | .create request =>
      match createCustomer request books.customers with
      | some customer => { books with customers := books.customers ++ [customer] }
      | none => books
  | .softDelete customerId => { books with customers := updateRow Customer.id customerId deleteRow books.customers }
  | .record draft =>
      match findCustomer draft.customerId books.customers with
      | some customer =>
          if books.postings.any (fun posting => posting.id = draft.id) then books
          else { books with postings := books.postings ++ [draft.pinned (resolveBillingOwner books.customers customer)] }
      | none => books

def emptyBooks : Books := ⟨[], []⟩

def booksAfter (events : List Event) : Books := run step emptyBooks events

end Ubb.Invoicing.Owners
