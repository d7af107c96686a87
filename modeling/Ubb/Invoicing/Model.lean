import Mathlib.Tactic
import Ubb.Library.KeyedRows

set_option autoImplicit false

namespace Ubb.Invoicing

open Ubb.Library

-- Micros in one minor unit. Usage invoices are issued in a two-decimal currency.
def minorUnits : Int := 10000

def toMinor (amountMicros : Int) : Int × Int := (amountMicros / minorUnits, amountMicros % minorUnits)

structure Line where
  label : String
  amountMicros : Int
deriving DecidableEq, Repr

structure CentLine where
  index : Nat
  label : String
  cents : Int
  amountMicros : Int
deriving DecidableEq, Repr

-- The floor-with-carry loop: each line takes the remainder the line before it
-- left, and a line under one minor unit bills nothing and only carries.
def floorLines (index : Nat) : List Line → Int → List CentLine × Int
  | [], residual => ([], residual)
  | line :: rest, residual =>
      let minor := toMinor (line.amountMicros + residual)
      let later := floorLines (index + 1) rest minor.2
      if minor.1 = 0 then later
      else ({ index := index, label := line.label, cents := minor.1, amountMicros := line.amountMicros } :: later.1, later.2)

def lineTotal (lines : List Line) : Int := (lines.map (fun line => line.amountMicros)).sum

def centTotal (lines : List CentLine) : Int := (lines.map (fun line => line.cents)).sum

inductive InvoiceStatus where
  | pending
  | pushing
  | pushed
  | skipped
  | failed
  | failedPermanent
deriving DecidableEq, Repr

inductive SkipReason where
  | noUsage
  | nothingToBill
  | belowMinorUnit
  | seatSuperseded
  | noStripeCustomer
  | notChargeReady
  | paymentRailClosed
deriving DecidableEq, Repr

inductive PushPhase where
  | notStarted
  | invoiceCreated
  | itemsPinned
  | finalized
deriving DecidableEq, Repr

inductive InvoiceKind where
  | standalone
  | consolidated
deriving DecidableEq, Repr

-- Stripe's invoices as one row can know them. The two the service mints are
-- created under one idempotency key each, so the key names the invoice; the
-- subscription renewals are Stripe's own.
inductive InvoiceId where
  | standalone
  | remainder (renewal : Nat)
  | renewal (number : Nat)
deriving DecidableEq, Repr

-- A customer's usage for one calendar month. `billedMinorUnits` is what the
-- recorded push asked Stripe for, the sum its line items were created with.
structure UsageInvoice where
  month : Nat
  status : InvoiceStatus
  skipReason : Option SkipReason
  totalBilledMicros : Int
  lineSnapshot : List Line
  carryInMicros : Option Int
  residualMicros : Int
  billedMinorUnits : Int
  pushAttempts : Nat
  firstAttemptedAt : Option Int
  pushPhase : PushPhase
  invoiceKind : InvoiceKind
  stripeInvoiceId : Option InvoiceId
deriving DecidableEq, Repr

def UsageInvoice.new (month : Nat) : UsageInvoice :=
  { month := month, status := .pending, skipReason := none, totalBilledMicros := 0, lineSnapshot := []
    carryInMicros := none, residualMicros := 0, billedMinorUnits := 0, pushAttempts := 0, firstAttemptedAt := none
    pushPhase := .notStarted, invoiceKind := .standalone, stripeInvoiceId := none }

def UsageInvoice.carriedBelowMinorUnit (row : UsageInvoice) : Prop :=
  row.status = .skipped ∧ row.skipReason = some .belowMinorUnit

instance (row : UsageInvoice) : Decidable row.carriedBelowMinorUnit :=
  inferInstanceAs (Decidable (_ ∧ _))

-- What the second stage of a push reads outside the row: the live aggregation,
-- whether anything was recorded at all, the owner's and the tenant's Stripe
-- facts, the clock and the retry caps.
structure ClaimRead where
  lines : List Line
  recordedAnything : Bool
  hasStripeCustomer : Bool
  chargeReady : Bool
  railOpen : Bool
  now : Int
  maxAttempts : Nat
  maxAgeSeconds : Int
deriving DecidableEq, Repr

def pushExhausted (read : ClaimRead) (row : UsageInvoice) : Prop :=
  (row.status = .pending ∨ row.status = .failed) ∧
    (read.maxAttempts ≤ row.pushAttempts ∨
      ∃ first ∈ row.firstAttemptedAt, read.maxAgeSeconds < read.now - first)

instance (read : ClaimRead) (row : UsageInvoice) : Decidable (pushExhausted read row) :=
  inferInstanceAs (Decidable (_ ∧ _))

-- The first claim pins the lines; every later one consumes the snapshot.
def claimLines (read : ClaimRead) (row : UsageInvoice) : List Line :=
  if row.lineSnapshot = [] then read.lines else row.lineSnapshot

-- The skips in the order the source asks them. A zero total is told apart from
-- an empty month; the other three are recoverable.
def skipOf (read : ClaimRead) (lines : List Line) : Option SkipReason :=
  if lineTotal lines = 0 then some (if read.recordedAnything then .nothingToBill else .noUsage)
  else if read.hasStripeCustomer = false then some .noStripeCustomer
  else if read.chargeReady = false then some .notChargeReady
  else if read.railOpen = false then some .paymentRailClosed
  else none

inductive Claim where
  | returned (row : UsageInvoice)
  | taken (row : UsageInvoice) (ledgerMicros : Int)
deriving DecidableEq, Repr

-- Stage 2 under the row lock. A skip saves neither the snapshot nor a carry;
-- only the claim that flips the row to pushing does, and it takes the ledger's
-- whole balance unless the row already pinned one.
def claimPeriod (read : ClaimRead) (ledgerMicros : Int) (row : UsageInvoice) : Claim :=
  if row.status = .pushed ∨ row.status = .pushing then .returned row
  else if row.status = .failedPermanent then .returned row
  else if row.carriedBelowMinorUnit then .returned row
  else if pushExhausted read row then .returned { row with status := .failedPermanent }
  else
    let lines := claimLines read row
    match skipOf read lines with
    | some reason =>
        .returned { row with totalBilledMicros := lineTotal lines, status := .skipped, skipReason := some reason }
    | none =>
        .taken
          { row with
            totalBilledMicros := lineTotal lines, lineSnapshot := lines, status := .pushing
            carryInMicros := some (row.carryInMicros.getD ledgerMicros), pushAttempts := row.pushAttempts + 1
            firstAttemptedAt := some (row.firstAttemptedAt.getD read.now) }
          (if row.carryInMicros = none then 0 else ledgerMicros)

-- A raise in stage 2 rolls it back, then counts one attempt on the row.
def countRaisedClaim (now : Int) (row : UsageInvoice) : UsageInvoice :=
  if row.status = .pending ∨ row.status = .failed then
    { row with
      status := .failed, pushAttempts := row.pushAttempts + 1
      firstAttemptedAt := some (row.firstAttemptedAt.getD now) }
  else row

def whilePushing (write : UsageInvoice → UsageInvoice) (row : UsageInvoice) : UsageInvoice :=
  if row.status = .pushing then write row else row

def failPush : UsageInvoice → UsageInvoice := whilePushing (fun row => { row with status := .failed })

def parkPush : UsageInvoice → UsageInvoice := whilePushing (fun row => { row with status := .failedPermanent })

def persistTarget (target : InvoiceId) (kind : InvoiceKind) : UsageInvoice → UsageInvoice :=
  whilePushing (fun row =>
    { row with stripeInvoiceId := some target, pushPhase := .invoiceCreated, invoiceKind := kind })

def notePhase (phase : PushPhase) : UsageInvoice → UsageInvoice := whilePushing (fun row => { row with pushPhase := phase })

-- Phase 3. With nothing of one minor unit no invoice exists and the month is
-- skipped; either way the residual is recorded.
def recordPush (invoice : Option InvoiceId) (billedMinorUnits residualMicros : Int) (row : UsageInvoice) : UsageInvoice :=
  match invoice with
  | none =>
      { row with
        status := .skipped, skipReason := some .belowMinorUnit, residualMicros := residualMicros
        billedMinorUnits := billedMinorUnits }
  | some id =>
      { row with
        status := .pushed, stripeInvoiceId := some id, residualMicros := residualMicros
        billedMinorUnits := billedMinorUnits }

-- The hourly pass and the operator's command.
def reclaimStale : UsageInvoice → UsageInvoice := whilePushing (fun row => { row with status := .pending })

def supersedeSeat (row : UsageInvoice) : UsageInvoice :=
  if (row.status = .pending ∨ row.status = .failed ∨ row.status = .skipped) ∧ row.skipReason ≠ some .belowMinorUnit then
    { row with status := .skipped, skipReason := some .seatSuperseded }
  else row

def recoverable (row : UsageInvoice) : Prop :=
  row.status = .skipped ∧
    (row.skipReason = some .notChargeReady ∨ row.skipReason = some .noStripeCustomer ∨
      row.skipReason = some .paymentRailClosed)

instance (row : UsageInvoice) : Decidable (recoverable row) := inferInstanceAs (Decidable (_ ∧ _))

-- The recovery selects on the skip reason and writes on the status alone.
def recoverSkipped (row : UsageInvoice) : UsageInvoice :=
  if row.status = .skipped then { row with status := .pending, skipReason := none } else row

def relabelSkipped (row : UsageInvoice) : UsageInvoice :=
  if row.status = .skipped then { row with skipReason := some .seatSuperseded } else row

def repushable (row : UsageInvoice) : Prop :=
  (row.status = .failed ∨ row.status = .failedPermanent ∨ row.status = .skipped) ∧ ¬ row.carriedBelowMinorUnit

instance (row : UsageInvoice) : Decidable (repushable row) := inferInstanceAs (Decidable (_ ∧ _))

-- The command's save names its columns and asks nothing of the row it lands on.
def resetForRepush (row : UsageInvoice) : UsageInvoice :=
  { row with pushAttempts := 0, firstAttemptedAt := none, status := .pending, skipReason := none }

end Ubb.Invoicing
