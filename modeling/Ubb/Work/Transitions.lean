import Mathlib.Tactic
import Ubb.Work.Model

set_option autoImplicit false

namespace Ubb.Work

open Ubb.Library

structure StartRequest where
  tenant : Uuid
  customer : Uuid
  id : TaskId
  idempotencyKey : Option String
  parentTaskId : Option TaskId
  pricingMode : PricingMode
  agreedPriceMicros : Option Int
  taskCogsCeilingMicros : Option Int
deriving DecidableEq

def claimedBy (state : State) (tenant customer : Uuid) (key : Option String) : Option Task :=
  match key with
  | none => none
  | some text => state.tasks.find? (fun task =>
      decide (task.tenant = tenant ∧ task.customer = customer ∧ task.idempotencyKey = some text))

-- The parent is read under its row lock and the start's insert commits in the
-- same transaction, so no cascade stands between the check and the insert.
def parentFor (state : State) (tenant customer : Uuid) (parentTaskId : Option TaskId) :
    Except Refusal (Option Task) :=
  match parentTaskId with
  | none => pure none
  | some id =>
      match state.taskWith id with
      | none => throw .parentNotActive
      | some parent => do
          refuseIf (parent.tenant ≠ tenant ∨ parent.customer ≠ customer) .parentNotActive
          refuseIf (parent.parent ≠ none) .subtaskDepthExceeded
          refuseIf (parent.ending.status ≠ .active) .parentNotActive
          pure (some parent)

def newTask (request : StartRequest) (parent : Option Task) : Task :=
  { id := request.id, tenant := request.tenant, customer := request.customer, parent := parent.map Task.id
    idempotencyKey := request.idempotencyKey, pricingMode := request.pricingMode
    agreedPriceMicros := request.agreedPriceMicros, taskCogsCeilingMicros := request.taskCogsCeilingMicros
    totals := newTotals, ending := notEnded, announceOutboxId := none }

-- ck_task_agreed_price_only_on_a_whole_fixed_unit and
-- ck_task_agreed_price_not_negative.
def agreedPriceAdmitted (task : Task) : Bool :=
  match task.agreedPriceMicros with
  | none => true
  | some price => decide (task.pricingMode = .fixed) && decide (task.parent = none) && decide (0 ≤ price)

def createTask (state : State) (request : StartRequest) (parent : Option Task) : Except Refusal State := do
  refuseIf (∃ containing ∈ parent, containing.parent ≠ none) .subtaskDepthExceeded
  refuseIf (∃ containing ∈ parent, containing.pricingMode ≠ request.pricingMode) .containmentRegime
  refuseIf (agreedPriceAdmitted (newTask request parent) = false) .agreedPriceCheck
  refuseIf (state.taskWith request.id ≠ none) .taskExists
  pure { state with tasks := state.tasks ++ [newTask request parent] }

-- A start whose key an earlier unit claimed answers with that unit and writes
-- nothing; otherwise the unique constraint on the key cannot be met.
def startTask (state : State) (request : StartRequest) : Except Refusal State :=
  match claimedBy state request.tenant request.customer request.idempotencyKey with
  | some _ => pure state
  | none => do
      let parent ← parentFor state request.tenant request.customer request.parentTaskId
      createTask state request parent

structure CloseDeclaration where
  outcome : TaskOutcome
  outcomeReason : Option OutcomeReason
  reasonDetail : String
deriving DecidableEq, Repr

def outcomeNamed : String → Option TaskOutcome
  | "delivered" => some .delivered
  | "failed" => some .failed
  | "cancelled" => some .cancelled
  | _ => none

def outcomeReasonNamed : String → Option OutcomeReason
  | "upstream_provider_error" => some .upstreamProviderError
  | "timeout" => some .timeout
  | "invalid_input" => some .invalidInput
  | "internal_error" => some .internalError
  | "execution_failed" => some .executionFailed
  | "customer_cancelled" => some .customerCancelled
  | "superseded" => some .superseded
  | "parent_closed" => some .parentClosed
  | "unspecified" => some .unspecified
  | _ => none

def TaskOutcome.acceptsAReason : TaskOutcome → Bool
  | .delivered => false
  | .failed => true
  | .cancelled => true

def TaskOutcome.requiresAReason : TaskOutcome → Bool
  | .failed => true
  | _ => false

def CloseDeclaration.declared (outcome : String) (outcomeReason reasonDetail : Option String) :
    Except Refusal CloseDeclaration :=
  match outcomeNamed outcome with
  | none => throw .unknownOutcome
  | some named => do
      refuseIf (named.acceptsAReason = false ∧ (outcomeReason ≠ none ∨ reasonDetail ≠ none)) .outcomeReasonNotAccepted
      match outcomeReason with
      | none => do
          refuseIf (named.requiresAReason = true) .outcomeReasonRequired
          pure { outcome := named, outcomeReason := none, reasonDetail := reasonDetail.getD "" }
      | some text =>
          match outcomeReasonNamed text with
          | none => throw .unknownOutcomeReason
          | some reason => pure { outcome := named, outcomeReason := some reason, reasonDetail := reasonDetail.getD "" }

def CloseDeclaration.enteredStatus (declaration : CloseDeclaration) : TaskStatus :=
  match declaration.outcome with
  | .delivered => .completed
  | .failed => .failed
  | .cancelled => .cancelled

def CloseDeclaration.alreadyRecordedOn (declaration : CloseDeclaration) (task : Task) : Bool :=
  decide (task.ending.status = declaration.enteredStatus ∧ task.ending.outcomeReason = declaration.outcomeReason)

structure CascadeRecord where
  status : TaskStatus
  outcomeReason : Option OutcomeReason
  stopReason : Option ReasonCode
deriving DecidableEq, Repr

def withdrawnByAClose : CascadeRecord :=
  { status := .cancelled, outcomeReason := some .parentClosed, stopReason := none }

def killedWithItsParent : CascadeRecord :=
  { status := .killed, outcomeReason := none, stopReason := some .parentKilled }

def expiredWithItsParent : CascadeRecord :=
  { status := .expired, outcomeReason := none, stopReason := some .parentExpired }

def controlFamily : ReasonCode → Except Refusal ControlFamily
  | .taskCogsCeiling => pure .ceiling
  | .silenceWindow => pure .ceiling
  | .absoluteDeadline => pure .ceiling
  | .customerSpendPool => pure .customerSpendPool
  | .hardFloor => pure .walletPolicy
  | _ => throw .noFamilyOfItsOwn

def endedByReason (ending : Ending) (reason : Option ReasonCode) (controlId : Option String) :
    Except Refusal Ending :=
  match reason with
  | none => pure ending
  | some code => do
      let family ← controlFamily code
      pure { ending with reasonCode := some code, controlFamily := some family, controlId := controlId }

def endedByDeclaration (ending : Ending) (declaration : Option CloseDeclaration) : Ending :=
  match declaration with
  | none => ending
  | some declared => { ending with outcomeReason := declared.outcomeReason, reasonDetail := declared.reasonDetail }

def cascadedEnding (parent : Task) (record : CascadeRecord) (now : Int) (ending : Ending) : Ending :=
  let stopped : Ending :=
    { ending with status := record.status, completedAt := some now, triggerSource := some .parentCascade }
  let reasoned : Ending :=
    match record.stopReason with
    | none => stopped
    | some code => { stopped with
        reasonCode := some code, controlFamily := parent.ending.controlFamily, controlId := parent.ending.controlId }
  match record.outcomeReason with
  | none => reasoned
  | some outcome => { reasoned with outcomeReason := some outcome }

def activeChild (parent : Task) (child : Task) : Bool :=
  decide (child.parent = some parent.id ∧ child.ending.status = .active)

def cascadeTask (parent : Task) (record : CascadeRecord) (now : Int) (task : Task) : Task :=
  if activeChild parent task then { task with ending := cascadedEnding parent record now task.ending } else task

def cascade (state : State) (parent : Task) (record : CascadeRecord) (now : Int) : State :=
  { state with
    tasks := state.tasks.map (cascadeTask parent record now)
    told := state.told ++ (state.tasks.filter (activeChild parent)).map (fun child =>
      { task := child.id, status := record.status, outcomeReason := record.outcomeReason
        stopReason := record.stopReason, cascaded := true }) }

structure Flip where
  status : TaskStatus
  record : CascadeRecord
  reason : Option ReasonCode
  controlId : Option String
  declaration : Option CloseDeclaration
deriving DecidableEq

-- The winning write: the row, the listeners' call, and the cascade below a
-- top-level unit.
def enterTerminal (state : State) (ended : Task) (stopReason : Option ReasonCode) (record : CascadeRecord)
    (now : Int) : State :=
  let written := state.writeTask ended.id (fun row => { row with ending := ended.ending })
  let told := { written with
    told := written.told ++ [
      { task := ended.id, status := ended.ending.status, outcomeReason := ended.ending.outcomeReason
        stopReason := stopReason, cascaded := false }] }
  if ended.parent = none then cascade told ended record now else told

-- The answer names the row as it stands after the flip and whether this call
-- made the transition.
def flip (state : State) (id : TaskId) (scope : Option (Uuid × Uuid)) (entering : Flip) (now : Int) :
    Except Refusal (State × Task × Bool) :=
  match state.taskWith id with
  | none => throw .taskMissing
  | some task => do
      refuseIf (∃ owner ∈ scope, owner ≠ (task.tenant, task.customer)) .taskMissing
      if task.ending.status.terminal then
        pure (state, task, false)
      else do
        let reasoned ← endedByReason { task.ending with status := entering.status, completedAt := some now }
          entering.reason entering.controlId
        let ended := { task with ending := endedByDeclaration reasoned entering.declaration }
        pure (enterTerminal state ended entering.reason entering.record now, ended, true)

def closeTask (state : State) (id : TaskId) (declaration : CloseDeclaration) (now : Int) :
    Except Refusal (State × Task × Bool) :=
  flip state id none
    { status := declaration.enteredStatus, record := withdrawnByAClose, reason := none, controlId := none
      declaration := some declaration } now

def killTask (state : State) (id : TaskId) (reason : Option ReasonCode) (controlId : Option String)
    (scope : Option (Uuid × Uuid)) (now : Int) : Except Refusal (State × Task × Bool) :=
  flip state id scope
    { status := .killed, record := killedWithItsParent, reason := reason, controlId := controlId
      declaration := none } now

def expireTask (state : State) (id : TaskId) (reason : Option ReasonCode) (controlId : Option String)
    (scope : Option (Uuid × Uuid)) (now : Int) : Except Refusal (State × Task × Bool) :=
  flip state id scope
    { status := .expired, record := expiredWithItsParent, reason := reason, controlId := controlId
      declaration := none } now

def terminalStopEvent (status : TaskStatus) (isContained : Bool) : Except Refusal StopEvent :=
  match isContained, status with
  | false, .killed => pure .taskKilled
  | false, .expired => pure .taskExpired
  | true, .killed => pure .subtaskKilled
  | true, .expired => pure .subtaskExpired
  | _, _ => throw .notAnnounced

def announce (state : State) (task : Task) (event : StopEvent) (reason : Option ReasonCode)
    (triggerSource : Option TriggerSource) (reAnnouncement : Bool) : State :=
  { state with
    announcements := state.announcements ++ [
      { id := state.announcements.length, task := task.id, event := event, reasonCode := reason
        triggerSource := triggerSource, controlFamily := task.ending.controlFamily
        controlId := task.ending.controlId, totals := task.totals
        taskCogsCeilingMicros := task.taskCogsCeilingMicros, reAnnouncement := reAnnouncement
        status := .pending }] }

inductive Stop where
  | kill
  | expire
deriving DecidableEq, Repr

structure StopRequest where
  stop : Stop
  task : TaskId
  tenant : Uuid
  customer : Uuid
  reason : ReasonCode
  controlId : Option String
  triggerSource : Option TriggerSource
deriving DecidableEq

def stampStop (outboxId : Nat) (triggerSource : Option TriggerSource) (task : Task) : Task :=
  { task with
    announceOutboxId := some outboxId
    ending := { task.ending with triggerSource := triggerSource.or task.ending.triggerSource } }

-- The flip, its announcement and the stamp share one transaction: whatever
-- raises inside is swallowed and leaves none of the three behind.
def stopAndAnnounce (state : State) (request : StopRequest) (now : Int) : Except Refusal State := do
  let scope := some (request.tenant, request.customer)
  let (flipped, stopped, transitioned) ← match request.stop with
    | .kill => killTask state request.task (some request.reason) request.controlId scope now
    | .expire => expireTask state request.task (some request.reason) request.controlId scope now
  if transitioned then do
    let event ← terminalStopEvent stopped.ending.status stopped.parent.isSome
    let outboxId := flipped.announcements.length
    let announced := announce flipped stopped event (some request.reason) request.triggerSource false
    pure (announced.writeTask request.task (stampStop outboxId request.triggerSource))
  else
    pure flipped

def unannounced (state : State) (outboxId : Nat) : Bool :=
  match state.announcementWith outboxId with
  | none => false
  | some announcement => decide (announcement.status = .failed)

-- The patrol's candidates are stopped units that carry a stamp, which no later
-- write takes away; the dead letter is read again under the lock.
def remintKill (state : State) (id : TaskId) : Except Refusal State :=
  match state.taskWith id with
  | none => throw .taskMissing
  | some task =>
      match task.announceOutboxId with
      | none => pure state
      | some stamp =>
          if (task.ending.status = .killed ∨ task.ending.status = .expired) ∧ unannounced state stamp = true then do
            let event ← terminalStopEvent task.ending.status task.parent.isSome
            let outboxId := state.announcements.length
            let announced := announce state task event task.ending.reasonCode task.ending.triggerSource true
            pure (announced.writeTask id (fun row => { row with announceOutboxId := some outboxId }))
          else
            pure state

def relayMoves (state : State) (outboxId : Nat) (status : OutboxStatus) : State :=
  let move : Announcement → Announcement := fun row => { row with status := status }
  { state with announcements := updateRow Announcement.id outboxId move state.announcements }

end Ubb.Work
