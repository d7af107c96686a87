import Ubb.Invoicing.Carry
import Ubb.Library.Runs

set_option autoImplicit false

namespace Ubb.Invoicing

open Ubb.Library

-- A push between its claim and its record holds the lines and the carry it was
-- given; nothing ties it to the row but the month.
structure PushWorker where
  month : Nat
  lines : List Line
  carryIn : Int
deriving DecidableEq, Repr

-- One customer's months and residual ledger, the pushes in flight, and the
-- months that an operator's command or a recovery pass has read and not yet
-- written back.
structure State where
  ledgerMicros : Int
  rows : List UsageInvoice
  workers : List PushWorker
  repushes : List Nat
  recoveries : List Nat
deriving DecidableEq, Repr

def State.empty : State := { ledgerMicros := 0, rows := [], workers := [], repushes := [], recoveries := [] }

def State.row (state : State) (month : Nat) : Option UsageInvoice :=
  state.rows.find? (fun row => decide (row.month = month))

def State.write (state : State) (month : Nat) (write : UsageInvoice → UsageInvoice) : State :=
  { state with rows := updateRow (fun row => row.month) month write state.rows }

def State.leave (state : State) (worker : PushWorker) : State := { state with workers := state.workers.erase worker }

-- A worker may stop between any two of these steps and may never take the
-- next one; a row's age is whatever the run makes it.
inductive Event where
  | getOrCreate (month : Nat)
  | claim (month : Nat) (read : ClaimRead)
  | raiseClaim (month : Nat) (now : Int)
  | persist (worker : PushWorker) (target : InvoiceId) (kind : InvoiceKind)
  | notePhase (worker : PushWorker) (phase : PushPhase)
  | fail (worker : PushWorker)
  | park (worker : PushWorker)
  | record (worker : PushWorker) (invoice : InvoiceId)
  | reclaim (month : Nat)
  | supersede (month : Nat)
  | readRecovery (month : Nat)
  | recover (month : Nat)
  | relabel (month : Nat)
  | readRepush (month : Nat)
  | saveRepush (month : Nat)
deriving DecidableEq, Repr

def getOrCreate (state : State) (month : Nat) : State :=
  match state.row month with
  | some _ => state
  | none => { state with rows := state.rows ++ [UsageInvoice.new month] }

def claim (state : State) (month : Nat) (read : ClaimRead) : State :=
  match state.row month with
  | none => state
  | some row =>
      match claimPeriod read state.ledgerMicros row with
      | .returned next => state.write month (fun _ => next)
      | .taken next ledgerMicros =>
          { state.write month (fun _ => next) with
            ledgerMicros := ledgerMicros
            workers := { month := month, lines := next.lineSnapshot, carryIn := next.carryInMicros.getD 0 } :: state.workers }

def record (state : State) (worker : PushWorker) (invoice : InvoiceId) : State :=
  match state.row worker.month with
  | none => state.leave worker
  | some row =>
      if row.status = .pushing then
        let floored := floorLines 0 worker.lines worker.carryIn
        let landed := if floored.1 = [] then none else some invoice
        { (state.leave worker).write worker.month (recordPush landed (centTotal floored.1) floored.2) with
          ledgerMicros := state.ledgerMicros + floored.2 }
      else state.leave worker

def readRow (state : State) (month : Nat) (admits : UsageInvoice → Bool) : Bool := (state.row month).any admits

def step (state : State) : Event → State
  | .getOrCreate month => getOrCreate state month
  | .claim month read => claim state month read
  | .raiseClaim month now => state.write month (countRaisedClaim now)
  | .persist worker target kind =>
      if worker ∈ state.workers then state.write worker.month (persistTarget target kind) else state
  | .notePhase worker phase =>
      if worker ∈ state.workers then state.write worker.month (notePhase phase) else state
  | .fail worker => if worker ∈ state.workers then (state.leave worker).write worker.month failPush else state
  | .park worker => if worker ∈ state.workers then (state.leave worker).write worker.month parkPush else state
  | .record worker invoice => if worker ∈ state.workers then record state worker invoice else state
  | .reclaim month => state.write month reclaimStale
  | .supersede month => state.write month supersedeSeat
  | .readRecovery month =>
      if readRow state month (fun row => decide (recoverable row)) then
        { state with recoveries := month :: state.recoveries }
      else state
  | .recover month =>
      if month ∈ state.recoveries then
        { state.write month recoverSkipped with recoveries := state.recoveries.erase month }
      else state
  | .relabel month =>
      if month ∈ state.recoveries then
        { state.write month relabelSkipped with recoveries := state.recoveries.erase month }
      else state
  | .readRepush month =>
      if readRow state month (fun row => decide (repushable row)) then
        { state with repushes := month :: state.repushes }
      else state
  | .saveRepush month =>
      if month ∈ state.repushes then
        { state.write month resetForRepush with repushes := state.repushes.erase month }
      else state

end Ubb.Invoicing
