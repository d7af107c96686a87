import Ubb.Library.Agents
import Ubb.Library.Runs

set_option autoImplicit false

-- billing/stripe/receiver.py: one Stripe event, delivered any number of times
-- to a receiver and re-run by operators, all on the receiver's own row of it.
-- Each database statement commits by itself, and workers stop anywhere.
namespace Ubb.Webhooks

open Ubb.Library

inductive Receiver where
  | billing
  | subscriptions
deriving DecidableEq, Repr

structure EventKey where
  receiver : Receiver
  stripeEventId : String
deriving DecidableEq, Repr

inductive EventStatus where
  | processing
  | succeeded
  | failed
  | skipped
deriving DecidableEq, Repr

structure FailureReason where
  error : String
  type : String
  retryable : Bool
deriving DecidableEq, Repr

-- The id and the audit columns are left out: the key is unique, and no row is
-- deleted.
structure StripeWebhookEvent where
  key : EventKey
  eventType : String
  status : EventStatus
  failureReason : Option FailureReason
  processedAt : Option Int
  duplicateCount : Nat
  lastSeenAt : Int
  updatedAt : Int
deriving DecidableEq, Repr

inductive Outcome where
  | alreadyReceived
  | alreadyProcessing
  | alreadyProcessed
  | skipped
  | succeeded
  | failedRetryable
  | failed
deriving DecidableEq, Repr

-- What Stripe reads: a 500 is retried, a 200 is final for that delivery.
def Outcome.answer : Outcome → Nat
  | .failedRetryable => 500
  | _ => 200

structure Raised where
  error : String
  type : String
deriving DecidableEq, Repr

-- How a handler ended, by the arm of the classification that meets it.
inductive HandlerResult where
  | returned
  | objectDoesNotExist (raised : Raised)
  | stripeFatal (raised : Raised)
  | noWalletSubject (raised : Raised)
  | transient (raised : Raised)
deriving DecidableEq, Repr

structure Dispatch where
  handlers : List String
  refusesWithoutAWalletSubject : Bool

structure Delivery where
  key : EventKey
  eventType : String
deriving DecidableEq, Repr

-- Where one call of process_stripe_event stands. A worker that stopped is kept
-- with what its handler had come to; an unsaved one answered a retryable failure
-- though its handler had returned.
inductive Stage where
  | read (row : StripeWebhookEvent)
  | claimed
  | ran (result : HandlerResult)
  | answered (outcome : Outcome)
  | unsaved
  | escaped
  | died (ran : Option HandlerResult)
deriving DecidableEq, Repr

structure State where
  rows : List StripeWebhookEvent
  workers : List (Agent Delivery Stage)
  applied : List EventKey

def State.row (state : State) (key : EventKey) : Option StripeWebhookEvent :=
  state.rows.find? (fun row => decide (row.key = key))

def State.write (state : State) (key : EventKey) (save : StripeWebhookEvent → StripeWebhookEvent) : State :=
  { state with rows := updateRow StripeWebhookEvent.key key save state.rows }

def State.put (state : State) (id : Nat) (stage : Stage) : State := { state with workers := moved state.workers id stage }

def State.join (state : State) (delivery : Delivery) (stage : Stage) : State :=
  { state with workers := joined state.workers delivery stage }

-- Thirty minutes, in microseconds.
def processingTtl : Int := 1800000000

def newRow (delivery : Delivery) (now : Int) : StripeWebhookEvent where
  key := delivery.key
  eventType := delivery.eventType
  status := .processing
  failureReason := none
  processedAt := none
  duplicateCount := 0
  lastSeenAt := now
  updatedAt := now

def StripeWebhookEvent.retryable (row : StripeWebhookEvent) : Bool :=
  decide (row.status = .failed) && row.failureReason.any FailureReason.retryable

def StripeWebhookEvent.stale (now : Int) (row : StripeWebhookEvent) : Bool :=
  decide (row.status = .processing) && decide (row.updatedAt < now - processingTtl)

def StripeWebhookEvent.seenAgain (now : Int) (row : StripeWebhookEvent) : StripeWebhookEvent :=
  { row with duplicateCount := row.duplicateCount + 1, lastSeenAt := now, updatedAt := now }

def StripeWebhookEvent.reclaimed (now : Int) (row : StripeWebhookEvent) : StripeWebhookEvent :=
  { row with
    status := .processing
    failureReason := none
    duplicateCount := row.duplicateCount + 1
    lastSeenAt := now
    updatedAt := now }

def StripeWebhookEvent.skip (now : Int) (row : StripeWebhookEvent) : StripeWebhookEvent :=
  { row with status := .skipped, updatedAt := now }

def StripeWebhookEvent.succeed (now : Int) (row : StripeWebhookEvent) : StripeWebhookEvent :=
  { row with status := .succeeded, processedAt := some now, updatedAt := now }

def recordFailure (raised : Raised) (retryable : Bool) (now : Int) (row : StripeWebhookEvent) : StripeWebhookEvent :=
  { row with
    status := .failed
    failureReason := some ⟨raised.error, raised.type, retryable⟩
    processedAt := some now
    updatedAt := now }

-- The outcome and what is saved. A refusal the receiver does not name is raised
-- again from its own arm, past the generic one, and nothing is saved.
def conclusion (dispatch : Dispatch) (now : Int) :
    HandlerResult → Option (Outcome × (StripeWebhookEvent → StripeWebhookEvent))
  | .returned => some (.succeeded, StripeWebhookEvent.succeed now)
  | .objectDoesNotExist raised => some (.failedRetryable, recordFailure raised true now)
  | .stripeFatal raised => some (.failed, recordFailure raised false now)
  | .noWalletSubject raised =>
      if dispatch.refusesWithoutAWalletSubject then some (.failed, recordFailure raised false now) else none
  | .transient raised => some (.failedRetryable, recordFailure raised true now)

inductive Event where
  | deliver (delivery : Delivery) (now : Int)
  | reprocess (key : EventKey) (now : Int)
  | collide (delivery : Delivery) (now : Int)
  | decide (id : Nat) (now : Int)
  | dispatch (id : Nat) (result : HandlerResult) (now : Int)
  | record (id : Nat) (now : Int)
  | saveRaises (id : Nat) (raised : Raised) (now : Int)
  | die (id : Nat)
deriving DecidableEq, Repr

def State.create (state : State) (delivery : Delivery) (now : Int) : State :=
  { state.join delivery .claimed with rows := state.rows ++ [newRow delivery now] }

-- get_or_create, in a transaction of its own.
def arrive (state : State) (delivery : Delivery) (now : Int) : State :=
  match state.row delivery.key with
  | none => state.create delivery now
  | some row => state.join delivery (.read row)

-- The compare-and-set names the row by its id, its status and its last write.
def unwritten (state : State) (row : StripeWebhookEvent) : Bool :=
  (state.row row.key).any (fun held => decide (held.status = row.status ∧ held.updatedAt = row.updatedAt))

def decideRead (state : State) (id : Nat) (row : StripeWebhookEvent) (now : Int) : State :=
  if row.retryable || row.stale now then
    if unwritten state row then (state.write row.key (StripeWebhookEvent.reclaimed now)).put id .claimed
    else state.put id (.answered .alreadyProcessing)
  else (state.write row.key (StripeWebhookEvent.seenAgain now)).put id (.answered .alreadyProcessed)

def effect (key : EventKey) : HandlerResult → List EventKey
  | .returned => [key]
  | _ => []

section

variable (dispatch : Receiver → Dispatch)

-- The operator's own look at the row, before Stripe is asked for the event.
def mayReprocess (row : StripeWebhookEvent) : Bool :=
  row.retryable && (dispatch row.key.receiver).handlers.contains row.eventType

def step (state : State) : Event → State
  | .deliver delivery now => arrive state delivery now
  | .reprocess key now =>
      match state.row key with
      | some row => if mayReprocess dispatch row then arrive state ⟨key, row.eventType⟩ now else state
      | none => state
  | .collide delivery now =>
      match state.row delivery.key with
      | some _ => (state.write delivery.key (StripeWebhookEvent.seenAgain now)).join delivery (.answered .alreadyReceived)
      | none => state
  | .decide id now =>
      match agentNamed state.workers id with
      | some ⟨_, _, .read row⟩ => decideRead state id row now
      | _ => state
  | .dispatch id result now =>
      match agentNamed state.workers id with
      | some ⟨_, delivery, .claimed⟩ =>
          if (dispatch delivery.key.receiver).handlers.contains delivery.eventType then
            { state.put id (.ran result) with applied := state.applied ++ effect delivery.key result }
          else (state.write delivery.key (StripeWebhookEvent.skip now)).put id (.answered .skipped)
      | _ => state
  | .record id now =>
      match agentNamed state.workers id with
      | some ⟨_, delivery, .ran result⟩ =>
          match conclusion (dispatch delivery.key.receiver) now result with
          | some (outcome, save) => (state.write delivery.key save).put id (.answered outcome)
          | none => state.put id .escaped
      | _ => state
  -- The save of a success stands inside the try, before the generic arm.
  | .saveRaises id raised now =>
      match agentNamed state.workers id with
      | some ⟨_, delivery, .ran .returned⟩ => (state.write delivery.key (recordFailure raised true now)).put id .unsaved
      | _ => state
  | .die id =>
      match agentNamed state.workers id with
      | some ⟨_, _, .ran result⟩ => state.put id (.died (some result))
      | some ⟨_, _, .read _⟩ | some ⟨_, _, .claimed⟩ => state.put id (.died none)
      | _ => state

end

def noEvents : State := ⟨[], [], []⟩

def Stage.holding : Stage → Bool
  | .claimed | .ran _ => true
  | _ => false

def Stage.effected : Stage → Bool
  | .ran .returned | .answered .succeeded | .unsaved | .died (some .returned) => true
  | _ => false

def Stage.reportedSuccess (stage : Stage) : Bool := decide (stage = .answered .succeeded)

def tally (state : State) (key : EventKey) (holds : Stage → Bool) : Nat :=
  counting (fun delivery stage => decide (delivery.key = key) && holds stage) state.workers

end Ubb.Webhooks
