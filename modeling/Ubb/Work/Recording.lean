import Mathlib.Tactic
import Ubb.Work.Transitions

set_option autoImplicit false

namespace Ubb.Work

open Ubb.Library

-- What one recording adds to a unit: the amount where there is one, else a
-- count where the status says an amount is still owed.
def addCosts (costing : Costing) (totals : Totals) : Totals :=
  let billed : Totals :=
    match costing.billedCostMicros with
    | some amount => { totals with totalBilledCostMicros := totals.totalBilledCostMicros + amount }
    | none =>
        if costing.pricingStatus = .unknown then { totals with unpricedEventCount := totals.unpricedEventCount + 1 }
        else totals
  let costed : Totals :=
    match costing.providerCostMicros with
    | some amount => { billed with totalProviderCostMicros := billed.totalProviderCostMicros + amount }
    | none =>
        if costing.costingStatus = .unresolved then { billed with unresolvedEventCount := billed.unresolvedEventCount + 1 }
        else billed
  { costed with recordedEvents := costed.recordedEvents + 1 }

def ceilingReached (provider : Int) (ceiling : Option Int) : Bool :=
  match ceiling with
  | none => false
  | some bound => decide (bound ≤ provider)

structure Verdicts where
  crossedTaskLimit : Bool
  crossedSubtaskLimit : Bool
  taskNotActive : Bool
deriving DecidableEq, Repr

def crosses (before after : Task) : Bool :=
  decide (before.ending.status = .active) && ceilingReached after.totals.totalProviderCostMicros after.taskCogsCeilingMicros

def withTotals (write : Totals → Totals) (task : Task) : Task := { task with totals := write task.totals }

-- Reads a unit under its lock, within the tenant and customer when they are
-- given; DoesNotExist otherwise.
def lockedTask (state : State) (scope : Option (Uuid × Uuid)) (id : TaskId) : Except Refusal Task :=
  match state.taskWith id with
  | none => throw .taskMissing
  | some task => do
      refuseIf (∃ owner ∈ scope, owner ≠ (task.tenant, task.customer)) .taskMissing
      pure task

-- A unit's containing unit takes up every movement of the unit beside it.
def writeBoth (state : State) (task : Task) (write : Totals → Totals) : State :=
  match task.parent with
  | none => state.writeTask task.id (withTotals write)
  | some parent => (state.writeTask task.id (withTotals write)).writeTask parent (withTotals write)

def accumulateCost (state : State) (id : TaskId) (costing : Costing) (scope : Option (Uuid × Uuid)) :
    Except Refusal (State × Verdicts) := do
  refuseIf (costing.providerCostMicros = none ∧ costing.costingStatus = .known) .amountMissing
  refuseIf (costing.billedCostMicros = none ∧ costing.pricingStatus = .known) .amountMissing
  let task ← lockedTask state scope id
  let add := withTotals (addCosts costing)
  match task.parent with
  | none =>
      pure (writeBoth state task (addCosts costing),
        { crossedTaskLimit := crosses task (add task), crossedSubtaskLimit := false
          taskNotActive := decide (task.ending.status ≠ .active) })
  | some parentId => do
      let parent ← lockedTask state scope parentId
      pure (writeBoth state task (addCosts costing),
        { crossedTaskLimit := crosses parent (add parent), crossedSubtaskLimit := crosses task (add task)
          taskNotActive := decide (task.ending.status ≠ .active) })

inductive Side where
  | supplierCost
  | customerPrice
deriving DecidableEq, Repr

def takeUp (side : Side) (amount : Int) (totals : Totals) : Totals :=
  match side with
  | .supplierCost => { totals with
      totalProviderCostMicros := totals.totalProviderCostMicros + amount
      unresolvedEventCount := totals.unresolvedEventCount - 1 }
  | .customerPrice => { totals with
      totalBilledCostMicros := totals.totalBilledCostMicros + amount
      unpricedEventCount := totals.unpricedEventCount - 1 }

def takeUpALateResolution (state : State) (id : TaskId) (side : Side) (amount : Int) : Except Refusal State := do
  let task ← lockedTask state none id
  match task.parent with
  | none => pure (writeBoth state task (takeUp side amount))
  | some parentId => do
      let _ ← lockedTask state none parentId
      pure (writeBoth state task (takeUp side amount))

def takeUpACharge (state : State) (id : TaskId) (amount : Int) : Except Refusal State := do
  let task ← lockedTask state none id
  refuseIf (task.parent ≠ none) .containedCharge
  pure (state.writeTask id (withTotals (fun totals =>
    { totals with totalBilledCostMicros := totals.totalBilledCostMicros + amount })))

def Costing.owes (costing : Costing) : Side → Bool
  | .supplierCost => decide (costing.providerCostMicros = none ∧ costing.costingStatus = .unresolved)
  | .customerPrice => decide (costing.billedCostMicros = none ∧ costing.pricingStatus = .unknown)

def Costing.complete (costing : Costing) (side : Side) (amount : Int) : Costing :=
  match side with
  | .supplierCost => { costing with
      providerCostMicros := some amount, costingStatus := .known, costAgrees := rfl }
  | .customerPrice => { costing with
      billedCostMicros := some amount, pricingStatus := .known, priceAgrees := rfl }

def completePosting (side : Side) (amount : Int) (posting : Posting) : Posting :=
  { posting with costing := posting.costing.complete side amount }

-- Both doors are one conditional UPDATE. It matches the row only while the
-- amount is owed, so a replay and a racer that lost match nothing and the unit
-- is told by the winner alone.
def completeSide (state : State) (side : Side) (postingId : Uuid) (amount : Int) : Except Refusal State :=
  match state.postingWith postingId with
  | none => throw .postingMissing
  | some posting =>
      if posting.costing.owes side then
        let completed := { state with postings := updateRow Posting.id postingId (completePosting side amount) state.postings }
        match posting.task with
        | none => pure completed
        | some task => takeUpALateResolution completed task side amount
      else
        pure state

def settleProviderCost (state : State) (postingId : Uuid) (providerCostMicros : Int) : Except Refusal State :=
  completeSide state .supplierCost postingId providerCostMicros

def resolveCustomerPrice (state : State) (postingId : Uuid) (billedCostMicros : Int) : Except Refusal State :=
  completeSide state .customerPrice postingId billedCostMicros

-- uq_posting_idempotency and the primary key.
def insertPosting (state : State) (posting : Posting) : Except Refusal State := do
  refuseIf (state.postingWith posting.id ≠ none) .postingExists
  refuseIf (state.postingUnder posting.tenant posting.customer posting.idempotencyKey ≠ none) .postingExists
  pure { state with postings := state.postings ++ [posting] }

structure Report where
  tenant : Uuid
  customer : Uuid
  idempotencyKey : String
  postingId : Uuid
  task : Option TaskId
  costing : Costing
deriving DecidableEq

def Report.posting (report : Report) : Posting :=
  { id := report.postingId, tenant := report.tenant, customer := report.customer
    idempotencyKey := report.idempotencyKey, kind := .meteredUsage, task := report.task, costing := report.costing }

-- A report under a key already held is answered from the posting that holds
-- it, unless a charge does. The insert and the unit's totals share a savepoint.
def recordUsage (state : State) (report : Report) : Except Refusal State :=
  match state.postingUnder report.tenant report.customer report.idempotencyKey with
  | some existing => do
      refuseIf (existing.kind ≠ .meteredUsage) .keyHeldByACharge
      pure state
  | none => do
      let inserted ← insertPosting state report.posting
      match report.task with
      | none => pure inserted
      | some task => do
          let (accumulated, _) ← accumulateCost inserted task report.costing (some (report.tenant, report.customer))
          pure accumulated

def derivedKey (task : TaskId) (correction : Option Nat) : String :=
  let key := "task:" ++ task.text
  match correction with
  | none => key
  | some ordinal => key ++ ":correction:" ++ toString ordinal

-- uq_charge_one_original_per_unit_of_work, uq_charge_idempotency_key and
-- ck_charge_an_original_is_not_negative.
def insertCharge (state : State) (charge : Charge) : Except Refusal State := do
  refuseIf (charge.compensates = none ∧
    ∃ other ∈ state.charges, other.task = charge.task ∧ other.compensates = none) .chargeExists
  refuseIf (∃ other ∈ state.charges, other.tenant = charge.tenant ∧
    other.idempotencyKey = charge.idempotencyKey) .chargeExists
  refuseIf (charge.compensates = none ∧ charge.amountMicros < 0) .chargeExists
  pure { state with charges := state.charges ++ [charge] }

def projectedCosting (amount : Int) : Costing :=
  { providerCostMicros := some 0, costingStatus := .known, billedCostMicros := some amount, pricingStatus := .known
    costAgrees := rfl, priceAgrees := rfl }

def projectTheCharge (state : State) (charge : Charge) (postingId : Uuid) : Except Refusal State := do
  refuseIf (charge.compensates ≠ none) .notAnOriginal
  let task ← lockedTask state none charge.task
  let taken ← takeUpACharge state charge.task charge.amountMicros
  insertPosting taken
    { id := postingId, tenant := charge.tenant, customer := task.customer, idempotencyKey := charge.idempotencyKey
      kind := .taskCharge, task := some charge.task, costing := projectedCosting charge.amountMicros }

def originalCharge (state : State) (task : Task) (price : Int) : Charge :=
  { id := state.charges.length, tenant := task.tenant, task := task.id, amountMicros := price
    idempotencyKey := derivedKey task.id none, compensates := none }

def chargeForDeliveredWork (state : State) (task : Task) (postingId : Uuid) : Except Refusal State :=
  if task.ending.status ≠ .completed then pure state
  else
    match task.agreedPriceMicros with
    | none => pure state
    | some price => do
        let charged ← insertCharge state (originalCharge state task price)
        projectTheCharge charged (originalCharge state task price) postingId

def compensate (state : State) (chargeId : Nat) : Except Refusal State :=
  match state.charges.find? (fun charge => decide (charge.id = chargeId)) with
  | none => throw .chargeMissing
  | some charge => do
      refuseIf (charge.compensates ≠ none) .notAnOriginal
      let ordinal := (state.charges.filter (fun other => decide (other.compensates = some charge.id))).length + 1
      insertCharge state
        { id := state.charges.length, tenant := charge.tenant, task := charge.task
          amountMicros := -charge.amountMicros, idempotencyKey := derivedKey charge.task (some ordinal)
          compensates := some charge.id }

structure CloseRequest where
  tenant : Uuid
  task : TaskId
  outcome : String
  outcomeReason : Option String
  reasonDetail : Option String
  now : Int
  postingId : Uuid
deriving DecidableEq

-- The transition and the charge it earns commit together or not at all.
def close (state : State) (request : CloseRequest) : Except Refusal State := do
  let declaration ← CloseDeclaration.declared request.outcome request.outcomeReason request.reasonDetail
  match state.taskWith request.task with
  | none => throw .taskMissing
  | some task => do
      refuseIf (task.tenant ≠ request.tenant) .taskMissing
      let (closed, row, transitioned) ← closeTask state request.task declaration request.now
      if transitioned then
        chargeForDeliveredWork closed row request.postingId
      else do
        refuseIf (declaration.alreadyRecordedOn row = false) .taskAlreadyTerminal
        pure closed

inductive Event where
  | start (request : StartRequest)
  | record (report : Report)
  | settle (posting : Uuid) (providerCostMicros : Int)
  | resolve (posting : Uuid) (billedCostMicros : Int)
  | close (request : CloseRequest)
  | stop (request : StopRequest) (now : Int)
  | abandon (task : TaskId) (now : Int)
  | remint (task : TaskId)
  | relay (outboxId : Nat) (status : OutboxStatus)
  | compensate (charge : Nat)
deriving DecidableEq

def attempt (state : State) : Event → Except Refusal State
  | .start request => startTask state request
  | .record report => recordUsage state report
  | .settle posting amount => settleProviderCost state posting amount
  | .resolve posting amount => resolveCustomerPrice state posting amount
  | .close request => close state request
  | .stop request now => stopAndAnnounce state request now
  | .abandon task now => do
      let (expired, _, _) ← expireTask state task none none none now
      pure expired
  | .remint task => remintKill state task
  | .relay outboxId status => pure (relayMoves state outboxId status)
  | .compensate charge => compensate state charge

-- A refused call rolls its transaction back.
def step (state : State) (event : Event) : State :=
  match attempt state event with
  | .ok next => next
  | .error _ => state

end Ubb.Work
