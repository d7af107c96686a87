import Ubb.Invoicing.Machine
import Mathlib.Data.List.Sort

set_option autoImplicit false

namespace Ubb.Invoicing

open Ubb.Library

-- The calendar month of a UTC instant in seconds, counted from year zero.
def monthOf (instant : Int) : Nat :=
  let day := instant / 86400 + 719468
  let era := day / 146097
  let dayOfEra := day - era * 146097
  let yearOfEra := (dayOfEra - dayOfEra / 1460 + dayOfEra / 36524 - dayOfEra / 146096) / 365
  let dayOfYear := dayOfEra - (365 * yearOfEra + yearOfEra / 4 - yearOfEra / 100)
  let fromMarch := (5 * dayOfYear + 2) / 153
  ((yearOfEra + era * 400) * 12 + fromMarch + 2).toNat

-- A price UBB could not resolve is a liability without a figure; a waived or
-- inapplicable one is no liability at all.
inductive CustomerPrice where
  | known (micros : Int)
  | unknown
  | noLiability
deriving DecidableEq, Repr

def CustomerPrice.billed : CustomerPrice → Int
  | .known micros => micros
  | _ => 0

structure Posting where
  id : Nat
  effectiveAt : Int
  seat : String
  groupingValue : String
  price : CustomerPrice
deriving DecidableEq, Repr

def Posting.inMonth (posting : Posting) (month : Nat) : Bool := decide (monthOf posting.effectiveAt = month)

inductive LineGrouping where
  | perSeat
  | ungrouped
  | byField
deriving DecidableEq, Repr

def lineLabel (grouping : LineGrouping) (posting : Posting) : String :=
  match grouping with
  | .perSeat => posting.seat
  | .ungrouped => ""
  | .byField => if posting.groupingValue = "" then "(other)" else posting.groupingValue

def billedTotal (postings : List Posting) : Int := (postings.map (fun posting => posting.price.billed)).sum

def labelledLine (grouping : LineGrouping) (postings : List Posting) (label : String) : Line :=
  { label := label, amountMicros := billedTotal (postings.filter (fun posting => decide (lineLabel grouping posting = label))) }

def linePrecedes (first second : Line) : Prop :=
  second.amountMicros < first.amountMicros ∨ (first.amountMicros = second.amountMicros ∧ first.label ≤ second.label)

instance : DecidableRel linePrecedes := fun _ _ => inferInstanceAs (Decidable (_ ∨ _))

def liableIn (month : Nat) (postings : List Posting) : List Posting :=
  postings.filter (fun posting => posting.inMonth month && decide (posting.price ≠ .noLiability))

def labelledLines (grouping : LineGrouping) (postings : List Posting) : List Line :=
  ((postings.map (lineLabel grouping)).dedup).map (labelledLine grouping postings)

-- The live aggregation of a month: one line a label, largest first. Without a
-- grouping there is one line, and none at all when it comes to zero.
def aggregateLines (grouping : LineGrouping) (month : Nat) (postings : List Posting) : List Line :=
  let lines := labelledLines grouping (liableIn month postings)
  let kept := if grouping = .ungrouped then lines.filter (fun line => decide (line.amountMicros ≠ 0)) else lines
  kept.insertionSort linePrecedes

def monthTotal (month : Nat) (postings : List Posting) : Int :=
  billedTotal (postings.filter (fun posting => posting.inMonth month))

inductive EffectiveAtError where
  | naive
  | inFuture
  | tooOld
  | billingPeriodClosed
deriving DecidableEq, Repr

-- Frozen for a backfill: any status past the first claim, a Stripe trace, or
-- the snapshot itself, which a failed or reclaimed row still carries.
def UsageInvoice.periodClosed (row : UsageInvoice) : Bool :=
  decide (row.status = .pushing ∨ row.status = .pushed ∨ row.status = .skipped ∨ row.status = .failedPermanent) ||
    decide (row.pushPhase ≠ .notStarted) || decide (row.stripeInvoiceId ≠ none) || decide (row.lineSnapshot ≠ [])

def isUsagePeriodClosed (state : State) (month : Nat) : Bool := (state.row month).any UsageInvoice.periodClosed

structure BackfillCheck where
  timezoneAware : Bool
  now : Int
  backfillWindowDays : Nat
deriving DecidableEq, Repr

def futureSkewSeconds : Int := 300

def validateEffectiveAt (state : State) (check : BackfillCheck) (effectiveAt : Int) : Except EffectiveAtError Unit :=
  if check.timezoneAware = false then .error .naive
  else if check.now + futureSkewSeconds < effectiveAt then .error .inFuture
  else if effectiveAt < check.now - check.backfillWindowDays * 86400 then .error .tooOld
  else if isUsagePeriodClosed state (monthOf effectiveAt) then .error .billingPeriodClosed
  else .ok ()

structure Aggregation where
  grouping : LineGrouping
  month : Nat
  lines : List Line
deriving DecidableEq, Repr

structure Books where
  invoices : State
  postings : List Posting
  inFlight : List Posting
  aggregations : List Aggregation
  divergences : List Nat
deriving DecidableEq, Repr

def Books.empty : Books :=
  { invoices := State.empty, postings := [], inFlight := [], aggregations := [], divergences := [] }

inductive BooksEvent where
  | validate (posting : Posting) (check : BackfillCheck)
  | insert (posting : Posting)
  | drop (posting : Posting)
  | aggregate (grouping : LineGrouping) (month : Nat)
  | claim (aggregation : Aggregation) (read : ClaimRead)
  | invoice (event : Event)
deriving DecidableEq, Repr

-- The alert-only tripwire: a claim that finds the snapshot frozen earlier
-- compares it with the live total and says so.
def snapshotDiverges (live : List Line) (row : UsageInvoice) : Prop :=
  row.status ≠ .pushed ∧ row.status ≠ .pushing ∧ row.status ≠ .failedPermanent ∧ ¬ row.carriedBelowMinorUnit ∧
    row.lineSnapshot ≠ [] ∧ lineTotal live ≠ lineTotal row.lineSnapshot

instance (live : List Line) (row : UsageInvoice) : Decidable (snapshotDiverges live row) :=
  inferInstanceAs (Decidable (_ ∧ _))

def divergesAt (state : State) (aggregation : Aggregation) (read : ClaimRead) : Bool :=
  (state.row aggregation.month).any
    (fun row => decide (snapshotDiverges aggregation.lines row) && decide (¬ pushExhausted read row))

def isClaim : Event → Bool
  | .claim _ _ => true
  | _ => false

def booksStep (books : Books) : BooksEvent → Books
  | .validate posting check =>
      match validateEffectiveAt books.invoices check posting.effectiveAt with
      | .ok _ => { books with inFlight := posting :: books.inFlight }
      | .error _ => books
  | .insert posting =>
      if posting ∈ books.inFlight then
        { books with postings := books.postings ++ [posting], inFlight := books.inFlight.erase posting }
      else books
  | .drop posting => { books with inFlight := books.inFlight.erase posting }
  | .aggregate grouping month =>
      { books with
        aggregations :=
          { grouping := grouping, month := month, lines := aggregateLines grouping month books.postings } :: books.aggregations }
  | .claim aggregation read =>
      if aggregation ∈ books.aggregations then
        { books with
          invoices := step books.invoices (.claim aggregation.month { read with lines := aggregation.lines })
          aggregations := books.aggregations.erase aggregation
          divergences :=
            if divergesAt books.invoices aggregation read then aggregation.month :: books.divergences else books.divergences }
      else books
  | .invoice event => if isClaim event then books else { books with invoices := step books.invoices event }

end Ubb.Invoicing
