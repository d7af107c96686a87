import Mathlib.Tactic
import Ubb.Core.Uuid
import Ubb.Library.KeyedRows
import Ubb.Library.Outcomes

set_option autoImplicit false

namespace Ubb.Work

open Ubb.Library

-- The canonical text of a uuid4: hexadecimal digits and hyphens. That it holds
-- no colon is what keeps two derived charge keys apart.
def isUuidCharacter (character : Char) : Bool :=
  character.isDigit || (decide ('a' ≤ character) && decide (character ≤ 'f')) || character == '-'

structure TaskId where
  text : String
  canonical : text.toList.all isUuidCharacter = true
deriving DecidableEq

inductive TaskStatus where
  | active
  | completed
  | failed
  | cancelled
  | killed
  | expired
deriving DecidableEq, Repr

def TaskStatus.terminal : TaskStatus → Bool
  | .active => false
  | _ => true

inductive TaskOutcome where
  | delivered
  | failed
  | cancelled
deriving DecidableEq, Repr

inductive OutcomeReason where
  | upstreamProviderError
  | timeout
  | invalidInput
  | internalError
  | executionFailed
  | customerCancelled
  | superseded
  | parentClosed
  | unspecified
deriving DecidableEq, Repr

inductive ReasonCode where
  | taskCogsCeiling
  | silenceWindow
  | absoluteDeadline
  | customerSpendPool
  | hardFloor
  | parentKilled
  | parentExpired
  | paymentFailed
  | disputeLost
deriving DecidableEq, Repr

inductive ControlFamily where
  | ceiling
  | customerSpendPool
  | walletPolicy
deriving DecidableEq, Repr

inductive TriggerSource where
  | usageIngest
  | enforcementPatrol
  | parentCascade
  | poolCrossing
  | staleReaper
  | chargeProjection
deriving DecidableEq, Repr

inductive PricingMode where
  | eventPriced
  | fixed
deriving DecidableEq, Repr

inductive CostingStatus where
  | known
  | unresolved
  | notApplicable
deriving DecidableEq, Repr

inductive PricingStatus where
  | known
  | waived
  | unknown
  | notApplicable
deriving DecidableEq, Repr

inductive PostingKind where
  | meteredUsage
  | taskCharge
deriving DecidableEq, Repr

structure Totals where
  totalBilledCostMicros : Int
  unpricedEventCount : Int
  totalProviderCostMicros : Int
  unresolvedEventCount : Int
  recordedEvents : Int
deriving DecidableEq, Repr

-- The columns that say whether and how the work ended. A reason the source
-- keeps as an empty string or NULL is none here.
structure Ending where
  status : TaskStatus
  completedAt : Option Int
  reasonCode : Option ReasonCode
  controlFamily : Option ControlFamily
  controlId : Option String
  outcomeReason : Option OutcomeReason
  reasonDetail : String
  triggerSource : Option TriggerSource
deriving DecidableEq, Repr

structure Task where
  id : TaskId
  tenant : Uuid
  customer : Uuid
  parent : Option TaskId
  idempotencyKey : Option String
  pricingMode : PricingMode
  agreedPriceMicros : Option Int
  taskCogsCeilingMicros : Option Int
  totals : Totals
  ending : Ending
  announceOutboxId : Option Nat
deriving DecidableEq

-- What the pricing engine answered for one posting. The two agreements are the
-- table's own checks: an amount stands exactly where its status says known.
structure Costing where
  providerCostMicros : Option Int
  costingStatus : CostingStatus
  billedCostMicros : Option Int
  pricingStatus : PricingStatus
  costAgrees : providerCostMicros.isSome = decide (costingStatus = .known)
  priceAgrees : billedCostMicros.isSome = decide (pricingStatus = .known)
deriving DecidableEq

theorem free_cost_agrees : (some (0 : Int)).isSome = decide (CostingStatus.known = .known) := rfl

theorem unresolved_cost_agrees : (none : Option Int).isSome = decide (CostingStatus.unresolved = .known) := rfl

theorem absent_cost_agrees : (none : Option Int).isSome = decide (CostingStatus.notApplicable = .known) := rfl

theorem known_price_agrees (amount : Int) : (some amount).isSome = decide (PricingStatus.known = .known) := rfl

theorem unknown_price_agrees : (none : Option Int).isSome = decide (PricingStatus.unknown = .known) := rfl

theorem absent_price_agrees : (none : Option Int).isSome = decide (PricingStatus.notApplicable = .known) := rfl

structure Posting where
  id : Uuid
  tenant : Uuid
  customer : Uuid
  idempotencyKey : String
  kind : PostingKind
  task : Option TaskId
  costing : Costing
deriving DecidableEq

structure Charge where
  id : Nat
  tenant : Uuid
  task : TaskId
  amountMicros : Int
  idempotencyKey : String
  compensates : Option Nat
deriving DecidableEq

inductive StopEvent where
  | taskKilled
  | taskExpired
  | subtaskKilled
  | subtaskExpired
deriving DecidableEq, Repr

inductive OutboxStatus where
  | pending
  | processing
  | processed
  | failed
deriving DecidableEq, Repr

structure Announcement where
  id : Nat
  task : TaskId
  event : StopEvent
  reasonCode : Option ReasonCode
  triggerSource : Option TriggerSource
  controlFamily : Option ControlFamily
  controlId : Option String
  totals : Totals
  taskCogsCeilingMicros : Option Int
  reAnnouncement : Bool
  status : OutboxStatus
deriving DecidableEq

structure TerminalTransition where
  task : TaskId
  status : TaskStatus
  outcomeReason : Option OutcomeReason
  stopReason : Option ReasonCode
  cascaded : Bool
deriving DecidableEq

-- The tables the work kernel reads and writes, with the calls its terminal
-- listeners received. Announcements and charges are numbered as they are written.
structure State where
  tasks : List Task
  postings : List Posting
  charges : List Charge
  announcements : List Announcement
  told : List TerminalTransition
deriving DecidableEq

def noWork : State :=
  { tasks := [], postings := [], charges := [], announcements := [], told := [] }

inductive Refusal where
  | parentNotActive
  | subtaskDepthExceeded
  | containmentRegime
  | agreedPriceCheck
  | taskExists
  | taskMissing
  | noFamilyOfItsOwn
  | notAnnounced
  | amountMissing
  | postingExists
  | postingMissing
  | keyHeldByACharge
  | chargeExists
  | chargeMissing
  | containedCharge
  | notAnOriginal
  | taskAlreadyTerminal
  | unknownOutcome
  | outcomeReasonNotAccepted
  | outcomeReasonRequired
  | unknownOutcomeReason
deriving DecidableEq, Repr

namespace State

def taskWith (state : State) (id : TaskId) : Option Task :=
  state.tasks.find? (fun task => decide (task.id = id))

def writeTask (state : State) (id : TaskId) (write : Task → Task) : State :=
  { state with tasks := updateRow Task.id id write state.tasks }

def postingWith (state : State) (id : Uuid) : Option Posting :=
  state.postings.find? (fun posting => decide (posting.id = id))

def postingUnder (state : State) (tenant customer : Uuid) (key : String) : Option Posting :=
  state.postings.find? (fun posting =>
    decide (posting.tenant = tenant ∧ posting.customer = customer ∧ posting.idempotencyKey = key))

def announcementWith (state : State) (id : Nat) : Option Announcement :=
  state.announcements.find? (fun announcement => decide (announcement.id = id))

end State

def newTotals : Totals :=
  { totalBilledCostMicros := 0, unpricedEventCount := 0, totalProviderCostMicros := 0
    unresolvedEventCount := 0, recordedEvents := 0 }

def notEnded : Ending :=
  { status := .active, completedAt := none, reasonCode := none, controlFamily := none, controlId := none
    outcomeReason := none, reasonDetail := "", triggerSource := none }

theorem task_with_id (state : State) (id : TaskId) (task : Task) (found : state.taskWith id = some task) :
    task.id = id :=
  (find_key_some Task.id id state.tasks task found).2

theorem task_with_map (state : State) (rewrite : Task → Task) (keeps : ∀ task, (rewrite task).id = task.id)
    (id : TaskId) :
    { state with tasks := state.tasks.map rewrite }.taskWith id = (state.taskWith id).map rewrite := by
  simp only [State.taskWith, List.find?_map]
  congr 2
  funext task
  simp only [Function.comp_apply, keeps task]

theorem task_with_write (state : State) (target id : TaskId) (write : Task → Task)
    (keeps : ∀ task, (write task).id = task.id) :
    (state.writeTask target write).taskWith id =
      (state.taskWith id).map (fun task => if id = target then write task else task) := by
  have rewritten := task_with_map state (fun task => if task.id = target then write task else task)
    (by
      intro task
      split
      · exact keeps task
      · rfl) id
  rw [State.writeTask, updateRow, rewritten]
  cases found : state.taskWith id with
  | none => rfl
  | some task => simp only [Option.map_some, task_with_id state id task found]

theorem task_with_append (state : State) (fresh : Task) (id : TaskId) (absent : state.taskWith fresh.id = none) :
    { state with tasks := state.tasks ++ [fresh] }.taskWith id =
      if id = fresh.id then some fresh else state.taskWith id := by
  by_cases same : id = fresh.id
  · rw [if_pos same, same]
    simp only [State.taskWith, List.find?_append] at absent ⊢
    rw [absent]
    simp
  · rw [if_neg same]
    simp [State.taskWith, List.find?_append, Ne.symm same]

end Ubb.Work
