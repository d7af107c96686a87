import Ubb.Core.Uuid
import Ubb.Library.KeyedRows
import Ubb.Library.Runs

set_option autoImplicit false

namespace Ubb.Outbox

open Ubb.Library

inductive Status where
  | pending
  | processing
  | processed
  | failed
deriving DecidableEq, Repr

-- Instants count seconds.
structure OutboxEvent where
  id : Uuid
  eventType : String
  tenantId : Uuid
  status : Status := .pending
  retryCount : Nat := 0
  maxRetries : Nat := 5
  nextRetryAt : Option Nat := none
  lastError : String := ""
  processedAt : Option Nat := none
  updatedAt : Nat
deriving DecidableEq, Repr

structure HandlerCheckpoint where
  outboxEvent : Uuid
  handlerName : String
deriving DecidableEq, Repr

-- A registered handler is known by the write statements one complete call
-- executes for an event. What a statement is, is the handler's own affair.
structure HandlerEntry (Write : Type) where
  name : String
  requiresProduct : Option String
  writes : Uuid → List Write

def Registry (Write : Type) : Type := String → List (HandlerEntry Write)

structure Database (Write : Type) where
  events : List OutboxEvent
  checkpoints : List HandlerCheckpoint
  written : List (Uuid × Write)
deriving DecidableEq, Repr

-- What the statements leave: a keyed one that is executed again finds its row
-- and replays, any other lands each time.
def landed {Write Key : Type} [DecidableEq Key] (key : Write → Option Key) (statements : List Write) : List Write :=
  statements.foldl (fun rows statement =>
    if key statement ≠ none ∧ key statement ∈ rows.map key then rows else rows ++ [statement]) []

def emptyDatabase (Write : Type) : Database Write := ⟨[], [], []⟩

-- How one handler call ends: normally, in an exception of the program after so
-- many of its writes, or in a database error outside any savepoint, after
-- which every further statement of the transaction fails too.
inductive Ending where
  | returns
  | raises (after : Nat) (error : String)
  | breaks (after : Nat)
deriving DecidableEq, Repr

structure Attempt where
  now : Nat
  locked : Bool := false
  tenantHasProduct : Uuid → String → Bool := fun _ _ => true
  ending : String → Ending

section

variable {Write : Type}

def Database.find (db : Database Write) (eventId : Uuid) : Option OutboxEvent :=
  db.events.find? (fun event => event.id = eventId)

def Database.saveEvent (db : Database Write) (event : OutboxEvent) : Database Write :=
  { db with events := updateRow OutboxEvent.id event.id (fun _ => event) db.events }

def Database.hasCheckpoint (db : Database Write) (eventId : Uuid) (handlerName : String) : Bool :=
  db.checkpoints.any (fun checkpoint => checkpoint.outboxEvent = eventId ∧ checkpoint.handlerName = handlerName)

-- The none result is the IntegrityError of uq_checkpoint_event_handler.
def Database.createCheckpoint (db : Database Write) (eventId : Uuid) (handlerName : String) : Option (Database Write) :=
  if db.hasCheckpoint eventId handlerName then none
  else some { db with checkpoints := db.checkpoints ++ [⟨eventId, handlerName⟩] }

def Database.write (db : Database Write) (eventId : Uuid) (writes : List Write) : Database Write :=
  { db with written := db.written ++ writes.map (fun write => (eventId, write)) }

def HandlerEntry.gated (entry : HandlerEntry Write) (attempt : Attempt) (tenantId : Uuid) : Bool :=
  match entry.requiresProduct with
  | none => false
  | some product => product ≠ "" ∧ ¬ attempt.tenantHasProduct tenantId product

-- How dispatch_to_handlers leaves the transaction it runs in. The swallowed
-- IntegrityError of a checkpoint race leaves it broken as well.
inductive Dispatched where
  | done
  | raised (error : String)
  | broken
deriving DecidableEq, Repr

def dispatchLoop (attempt : Attempt) (event : OutboxEvent) :
    List (HandlerEntry Write) → Database Write → Database Write × Dispatched
  | [], db => (db, .done)
  | entry :: rest, db =>
      if entry.gated attempt event.tenantId then dispatchLoop attempt event rest db
      else if db.hasCheckpoint event.id entry.name then dispatchLoop attempt event rest db
      else
        match attempt.ending entry.name with
        | .raises after error => (db.write event.id ((entry.writes event.id).take after), .raised error)
        | .breaks after => (db.write event.id ((entry.writes event.id).take after), .broken)
        | .returns =>
            match (db.write event.id (entry.writes event.id)).createCheckpoint event.id entry.name with
            | some recorded => dispatchLoop attempt event rest recorded
            | none => (db.write event.id (entry.writes event.id), .broken)

def dispatchToHandlers (registry : Registry Write) (attempt : Attempt) (event : OutboxEvent) (db : Database Write) :
    Database Write × Dispatched :=
  dispatchLoop attempt event (registry event.eventType) db

def backoffSchedule : List Nat := [30, 120, 600, 1800, 7200]

def calculateBackoff (now retryCount : Nat) : Nat :=
  now + backoffSchedule.getD (min (retryCount - 1) (backoffSchedule.length - 1)) 0

def recordFailure (now : Nat) (error : String) (event : OutboxEvent) : OutboxEvent :=
  let counted := { event with
    retryCount := event.retryCount + 1
    lastError := String.ofList (error.toList.take 2000)
    updatedAt := now }
  if counted.maxRetries ≤ counted.retryCount then { counted with status := .failed }
  else { counted with status := .pending, nextRetryAt := some (calculateBackoff now counted.retryCount) }

-- One transaction. The handlers' exception is caught inside it, so whatever
-- they wrote commits with the bookkeeping; in a broken transaction the final
-- save raises and everything is rolled back.
def processSingleEvent (registry : Registry Write) (eventId : Uuid) (attempt : Attempt) (db : Database Write) : Database Write :=
  match db.find eventId with
  | none => db
  | some event =>
      if attempt.locked then db
      else if event.status ≠ .pending then db
      else
        let processing := { event with status := .processing, updatedAt := attempt.now }
        match dispatchToHandlers registry attempt processing (db.saveEvent processing) with
        | (after, .done) =>
            after.saveEvent { processing with status := .processed, processedAt := some attempt.now, updatedAt := attempt.now }
        | (after, .raised error) => after.saveEvent (recordFailure attempt.now error processing)
        | (_, .broken) => db

def stuckSeconds : Nat := 300

def dueEvents (now : Nat) (db : Database Write) : List Uuid :=
  ((db.events.filter (fun event => event.status = .pending ∧ (event.nextRetryAt = none ∨
    event.nextRetryAt.any (fun due => due ≤ now)))).map OutboxEvent.id).take 100

def stuckEvents (now : Nat) (db : Database Write) : List Uuid :=
  ((db.events.filter (fun event => event.status = .processing ∧ event.updatedAt + stuckSeconds < now)).map
    OutboxEvent.id).take 50

def reclaim (now : Nat) (db : Database Write) (eventId : Uuid) : Database Write :=
  { db with events := updateRow OutboxEvent.id eventId (fun event =>
      if event.status = .processing then { event with status := .pending, nextRetryAt := some now } else event) db.events }

-- The ids are handed to process_single_event; the rows change only where a
-- stuck claim is taken back.
def sweepOutbox (now : Nat) (db : Database Write) : Database Write × List Uuid :=
  ((stuckEvents now db).foldl (reclaim now) db, dueEvents now db ++ stuckEvents now db)

def writeEvent (eventId : Uuid) (eventType : String) (tenantId : Uuid) (now : Nat) (db : Database Write) : Database Write :=
  match db.find eventId with
  | some _ => db
  | none => { db with events := db.events ++ [{ id := eventId, eventType := eventType, tenantId := tenantId, updatedAt := now }] }

end

-- A task may be queued for an event at any time and any number of times: by
-- the doorbell, by a sweep, by a redelivery.
inductive Task where
  | writeEvent (eventId : Uuid) (eventType : String) (tenantId : Uuid) (now : Nat)
  | processSingleEvent (eventId : Uuid) (attempt : Attempt)
  | sweepOutbox (now : Nat)

def step {Write : Type} (registry : Registry Write) (db : Database Write) : Task → Database Write
  | .writeEvent eventId eventType tenantId now => writeEvent eventId eventType tenantId now db
  | .processSingleEvent eventId attempt => processSingleEvent registry eventId attempt db
  | .sweepOutbox now => (sweepOutbox now db).1

def databaseAfter {Write : Type} (registry : Registry Write) (tasks : List Task) : Database Write :=
  run (step registry) (emptyDatabase Write) tasks

end Ubb.Outbox
