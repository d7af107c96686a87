import Ubb.Library.Runs
import Ubb.Resolving.Model

set_option autoImplicit false

-- Runs, projections, recordings and the remediation of held names over the
-- whole table, and the machine whose steps they are.
namespace Ubb.Resolving

open Library Pricing
open Work (CostingStatus PricingStatus PricingMode)

structure RunSelector where
  selectedFrom : Option Int
  selectedTo : Option Int
  selectedCustomer : Option Nat
  selectedEventType : String
deriving DecidableEq, Repr

-- A ResolutionRun row; the actor columns, which nothing here reads, are left out.
structure RunRecord where
  id : Nat
  tenant : Nat
  selector : RunSelector
  postingsExamined : Nat
  costsSettled : Nat
  pricesResolved : Nat
  postingsLeftUnresolved : Nat
  moreToDo : Bool
deriving DecidableEq, Repr

structure State where
  config : Configuration
  postings : List Posting
  heldNames : List HeldName
  runs : List RunRecord
  nextId : Nat

def maximumPostingsPerRun : Nat := 200

-- never_resolved_condition: a price calculated as negative is not retried.
def neverResolved (posting : Posting) : Bool :=
  decide (posting.costingStatus = .unresolved) ||
    (decide (posting.pricingStatus = .unknown) &&
      decide (posting.pricingStatusReason ≠ some .negativePriceUnsupported))

def narrowed (selector : RunSelector) (posting : Posting) : Bool :=
  selector.selectedFrom.all (fun start => start ≤ posting.effectiveAt) &&
    selector.selectedTo.all (fun finish => posting.effectiveAt < finish) &&
    selector.selectedCustomer.all (fun customer => posting.customer == customer) &&
    (selector.selectedEventType == "" || posting.selectors .eventType == selector.selectedEventType)

def isCandidate (tenant : Nat) (selector : RunSelector) (posting : Posting) : Bool :=
  posting.tenant == tenant && neverResolved posting && narrowed selector posting

def oldestFirst (left right : Posting) : Prop :=
  left.effectiveAt < right.effectiveAt ∨ (left.effectiveAt = right.effectiveAt ∧ left.id ≤ right.id)

instance : DecidableRel oldestFirst := fun _ _ => inferInstanceAs (Decidable (_ ∨ _))

def candidates (postings : List Posting) (tenant : Nat) (selector : RunSelector) : List Posting :=
  (postings.filter (isCandidate tenant selector)).insertionSort oldestFirst

def postingWith (state : State) (postingId : Nat) : Option Posting :=
  state.postings.find? (fun posting => posting.id == postingId)

def putPosting (state : State) (posting : Posting) : State :=
  { state with postings := updateRow Posting.id posting.id (fun _ => posting) state.postings }

def complete (state : State) (postingId : Nat) (author : Author) : Except RunRefusal (State × Completion) :=
  match postingWith state postingId with
  | none => throw .noSuchPosting
  | some posting => do
    let (after, completion) ← completePosting state.config state.heldNames posting author
    pure (putPosting state after, completion)

structure Replay where
  tenant : Nat
  eventId : Nat
  heldNameId : Nat
  measurementKey : String
  effectiveAt : Int

def replayOf (held : HeldName) : Replay where
  tenant := held.tenant
  eventId := held.eventId
  heldNameId := held.id
  measurementKey :=
    match held.unrecognised with
    | .eventType => ""
    | .measurementKey => held.resolvedKey
  effectiveAt := held.occurredAt

def hold (state : State) (tenant eventId : Nat) (unrecognised : Unrecognised)
    (eventTypeKey measurementKey : String) (occurredAt : Int) : State :=
  { state with
    nextId := state.nextId + 1
    heldNames := state.heldNames ++ [⟨state.nextId, tenant, eventId, unrecognised, eventTypeKey, measurementKey,
      occurredAt, .unresolved, ""⟩] }

def holdQuantities (state : State) (tenant eventId : Nat) (eventTypeKey : String) (occurredAt : Int)
    (undeclared : List (String × String)) : State :=
  undeclared.foldl (fun held entry => hold held tenant eventId .measurementKey eventTypeKey entry.1 occurredAt) state

def replayTheHeldEvent (state : State) (replay : Replay) : Except RunRefusal State :=
  match state.postings.find? (fun posting => posting.id == replay.eventId && posting.tenant == replay.tenant) with
  | none => throw .noSuchPosting
  | some posting => do
    refuseIf (posting.effectiveAt ≠ replay.effectiveAt) .theHeldRecordContradictsTheEvent
    let answers := theTenantsAnswers state.heldNames replay.tenant replay.eventId
    let answered := answers.eventTypeKey.bind (costDeclaration state.config replay.tenant)
    refuseIf (posting.selectors .provider ≠ "" ∧
      answered.any (fun declared => declared.providerKey ≠ posting.selectors .provider) = true)
      .theEventNamedAnotherSupplier
    let (after, completion) ← complete state replay.eventId (heldNameKey, .id replay.heldNameId)
    match completion.evaluation with
    | none => pure after
    | some evaluation =>
      if replay.measurementKey = "" then
        pure (holdQuantities after posting.tenant replay.eventId (answers.eventTypeKey.getD "") replay.effectiveAt
          evaluation.resolved.costing.detail.undeclaredQuantities)
      else pure after

inductive Declaration where
  | eventType (tenant : Nat) (key : String)
  | measurement (tenant : Nat) (eventTypeKey code : String)
deriving DecidableEq, Repr

def Declaration.declaredKey : Declaration → String
  | .eventType _ key => key
  | .measurement _ _ code => code

def targetKey (config : Configuration) (held : HeldName) (declaration : Declaration) :
    Except RunRefusal String :=
  match held.unrecognised, declaration with
  | .eventType, .eventType tenant key => do
    refuseIf (tenant ≠ held.tenant) .notThisTenants
    refuseIf (lastPublishedDeclaration config held.tenant key = none) .notYetPublished
    pure key
  | .measurementKey, .measurement tenant eventTypeKey code => do
    refuseIf (tenant ≠ held.tenant) .notThisTenants
    refuseIf (eventTypeKey ≠ held.eventTypeKey) .wrongDeclaration
    refuseIf ((lastPublishedDeclaration config held.tenant eventTypeKey).all (fun published =>
      !published.measurementCodes.contains code) = true) .notYetPublished
    pure code
  | _, _ => throw .wrongDeclaration

def heldNameWith (state : State) (heldId : Nat) : Option HeldName :=
  state.heldNames.find? (fun held => held.id == heldId && held.resolution == .unresolved)

def resolved (resolution : Remedy) (declaredKey : String) (held : HeldName) : HeldName :=
  { held with resolution := resolution, resolvedKey := declaredKey }

def remediate (state : State) (held : HeldName) (resolution : Remedy) (declaredKey : String) :
    Except RunRefusal State :=
  let moved := { state with
    heldNames := updateRow HeldName.id held.id (resolved resolution declaredKey) state.heldNames }
  if resolution = .dismissed then pure moved
  else replayTheHeldEvent moved (replayOf (resolved resolution declaredKey held))

def mapToADeclaration (state : State) (heldId : Nat) (declaration : Declaration) : Except RunRefusal State :=
  match heldNameWith state heldId with
  | none => throw .alreadyResolved
  | some held => do
    let declaredKey ← targetKey state.config held declaration
    refuseIf (declaredKey = held.heldName) .notTheHeldName
    remediate state held .mapped declaredKey

def registerTheHeldName (state : State) (heldId : Nat) (declaration : Declaration) : Except RunRefusal State :=
  match heldNameWith state heldId with
  | none => throw .alreadyResolved
  | some held => do
    let declaredKey ← targetKey state.config held declaration
    refuseIf (declaredKey ≠ held.heldName) .notTheHeldName
    remediate state held .registered declaredKey

def dismissAsNonEconomic (state : State) (heldId : Nat) : Except RunRefusal State :=
  match heldNameWith state heldId with
  | none => throw .alreadyResolved
  | some held => remediate state held .dismissed ""

-- The declaration a publication answers a held name with, if it carries it.
def theDeclarationFor (config : Configuration) (held : HeldName) : Option Declaration :=
  (lastPublishedDeclaration config held.tenant held.eventTypeKey).bind (fun published =>
    match held.unrecognised with
    | .eventType => some (.eventType held.tenant held.eventTypeKey)
    | .measurementKey =>
      if published.measurementCodes.contains held.measurementKey = true ∧
          (eventTypeNamed config held.tenant held.eventTypeKey).any (fun row =>
            row.draftCodes.contains held.measurementKey) = true then
        some (.measurement held.tenant held.eventTypeKey held.measurementKey)
      else none)

def keepOnRefusal (state : State) : Except RunRefusal State → State
  | .ok after => after
  | .error _ => state

def firstHeld (left right : HeldName) : Prop :=
  left.occurredAt < right.occurredAt ∨ (left.occurredAt = right.occurredAt ∧ left.id ≤ right.id)

instance : DecidableRel firstHeld := fun _ _ => inferInstanceAs (Decidable (_ ∨ _))

def undecidedNames (state : State) (tenant : Nat) (key : Option String) : List HeldName :=
  (state.heldNames.filter (fun held => held.resolution == .unresolved && held.tenant == tenant &&
    key.all (fun named => held.eventTypeKey == named))).insertionSort firstHeld

-- One name, in a transaction of its own.
def answerOne (state : State) (held : HeldName) : State :=
  match theDeclarationFor state.config held with
  | none => state
  | some declaration => keepOnRefusal state (registerTheHeldName state held.id declaration)

def answerWhatPublicationsDeclare (state : State) (tenant : Nat) (key : Option String) : State :=
  (undecidedNames state tenant key).foldl answerOne state

structure RunTally where
  costsSettled : Nat
  pricesResolved : Nat
  leftUnresolved : Nat
deriving DecidableEq, Repr

def RunTally.counting (tally : RunTally) (completion : Completion) : RunTally where
  costsSettled := tally.costsSettled + completion.settledCost.toNat
  pricesResolved := tally.pricesResolved + completion.resolvedPrice.toNat
  leftUnresolved := tally.leftUnresolved + (!(completion.settledCost || completion.resolvedPrice)).toNat

def completeEach (author : Author) : List Nat → State → RunTally → Except RunRefusal (State × RunTally)
  | [], state, tally => pure (state, tally)
  | postingId :: rest, state, tally => do
    let (after, completion) ← complete state postingId author
    completeEach author rest after (tally.counting completion)

def eventTypeKeyOf (selector : RunSelector) : Option String :=
  if selector.selectedEventType = "" then none else some selector.selectedEventType

-- A run is one transaction: a refusal part way leaves nothing of it.
def execute (state : State) (tenant : Nat) (selector : RunSelector) (runId : Nat) :
    Except RunRefusal (State × RunRecord) := do
  let answered := answerWhatPublicationsDeclare state tenant (eventTypeKeyOf selector)
  let reachable := ((candidates answered.postings tenant selector).map Posting.id).take (maximumPostingsPerRun + 1)
  let moreToDo := decide (reachable.length > maximumPostingsPerRun)
  let taking := reachable.take maximumPostingsPerRun
  let (after, tally) ← completeEach (resolutionRunKey, .id runId) taking answered ⟨0, 0, 0⟩
  refuseIf (after.runs.any (fun recorded => recorded.id == runId) = true) .runRecorded
  let recorded : RunRecord := {
    id := runId
    tenant := tenant
    selector := selector
    postingsExamined := taking.length
    costsSettled := tally.costsSettled
    pricesResolved := tally.pricesResolved
    postingsLeftUnresolved := tally.leftUnresolved
    moreToDo := moreToDo }
  pure ({ after with runs := after.runs ++ [recorded] }, recorded)

structure PerCustomer where
  recoverableMicros : Option Int
  recoverableEventCount : Nat
  unpricedEventCount : Nat
  usageEventIds : List Nat
deriving DecidableEq, Repr

def noProjection : PerCustomer := ⟨none, 0, 0, []⟩

def whatThePriceWouldBecome (config : Configuration) (heldNames : List HeldName) (posting : Posting) :
    Except RunRefusal (Option Int × PricingStatus) := do
  match ← whatARunWouldComplete config heldNames posting with
  | none => pure (none, posting.pricingStatus)
  | some evaluation =>
    if evaluation.pricing = false then pure (none, posting.pricingStatus)
    else if evaluation.resolved.pricing.status ≠ .known then pure (none, evaluation.resolved.pricing.status)
    else pure (evaluation.resolved.billedCostMicros, evaluation.resolved.pricing.status)

def PerCustomer.adding (row : PerCustomer) (posting : Posting) : Option Int × PricingStatus → PerCustomer
  | (some amount, _) => { row with
      recoverableMicros := some (row.recoverableMicros.getD 0 + amount)
      recoverableEventCount := row.recoverableEventCount + 1
      usageEventIds := row.usageEventIds ++ [posting.id] }
  | (none, status) =>
    if status = .unknown then { row with unpricedEventCount := row.unpricedEventCount + 1 } else row

abbrev ProjectionRows := List ((Nat × String) × PerCustomer)

def projectEach (config : Configuration) (heldNames : List HeldName) :
    List Posting → ProjectionRows → Except RunRefusal ProjectionRows
  | [], rows => pure rows
  | posting :: rest, rows => do
    let became ← whatThePriceWouldBecome config heldNames posting
    let key := (posting.customer, posting.currency)
    let row := (rows.lookup key).getD noProjection
    projectEach config heldNames rest (assign rows key (row.adding posting became))

structure ProjectedRow where
  customer : Nat
  currency : String
  recoverableEventCount : Nat
  usageEventIds : List Nat
  projectedBilledCostMicros : Int
  unpricedEventCount : Nat
deriving DecidableEq, Repr

structure Projection where
  postingsExamined : Nat
  postingsNotExamined : Nat
  rows : List ProjectedRow
deriving DecidableEq, Repr

def projectedRow (entry : (Nat × String) × PerCustomer) : ProjectedRow where
  customer := entry.1.1
  currency := entry.1.2
  recoverableEventCount := entry.2.recoverableEventCount
  usageEventIds := entry.2.usageEventIds
  projectedBilledCostMicros := entry.2.recoverableMicros.getD 0
  unpricedEventCount := entry.2.unpricedEventCount

-- The rows stand in the order they were first met; the source sorts them by
-- the text of a UUID, which ids here do not have.
def project (state : State) (tenant : Nat) (selector : RunSelector) : Except RunRefusal Projection := do
  let selected := candidates state.postings tenant selector
  let taking := selected.take maximumPostingsPerRun
  let rows ← projectEach state.config state.heldNames taking []
  pure ⟨taking.length, selected.length - taking.length, rows.map projectedRow⟩

-- The recording of one event: UsageService._record_core, its prices, its row and
-- the names it holds. The bag is a dictionary.
structure RecordedEvent where
  tenant : Nat
  customer : Nat
  effectiveAt : Int
  currency : String
  selectors : Selectors
  measurements : List (String × RawQuantity)
  callerProviderCost : Option Int
  reportedCostSourceKind : Option SourceKind
  pricingMode : PricingMode
  distinct : (keysOf measurements).Nodup

def RecordedEvent.subject (event : RecordedEvent) (postingId : Nat) : PricingSubject where
  receiptSubject := ⟨.usageEvent, postingId⟩
  tenant := event.tenant
  customer := some event.customer
  selectors := event.selectors
  measurements := event.measurements
  currency := event.currency
  callerProviderCost := event.callerProviderCost
  reportedCostSourceKind := event.reportedCostSourceKind
  pricingMode := event.pricingMode
  declaration := none

def postingOf (event : RecordedEvent) (postingId : Nat) (receipt : Receipt) : Posting where
  id := postingId
  tenant := event.tenant
  customer := event.customer
  effectiveAt := event.effectiveAt
  currency := event.currency
  selectors := event.selectors
  costingStatus := receipt.costing.status
  providerCostMicros := receipt.providerCostMicros
  unresolvedReason := receipt.costing.detail.unresolvedReason
  pricingStatus := receipt.pricing.status
  billedCostMicros := receipt.billedCostMicros
  notApplicableReason := receipt.pricing.detail.notApplicableReason
  pricingStatusReason := receipt.pricing.detail.pricingStatusReason
  pricingReceipt := receipt

def record (state : State) (event : RecordedEvent) : Except RunRefusal State := do
  let postingId := state.nextId
  let receipt ← (resolvePrice state.config (event.subject postingId) event.effectiveAt).mapError .pricing
  let written := { state with
    nextId := state.nextId + 1
    postings := state.postings ++ [postingOf event postingId receipt] }
  let named := holdQuantities written event.tenant postingId (event.selectors .eventType) event.effectiveAt
    receipt.costing.detail.undeclaredQuantities
  if receipt.costing.detail.unresolvedReason = some .eventTypeNotDeclared then
    pure (hold named event.tenant postingId .eventType (event.selectors .eventType) "" event.effectiveAt)
  else pure named

inductive Op where
  | configure (config : Configuration)
  | record (event : RecordedEvent)
  | map (heldId : Nat) (declaration : Declaration)
  | register (heldId : Nat) (declaration : Declaration)
  | dismiss (heldId : Nat)
  | answer (tenant : Nat) (key : Option String)
  | execute (tenant : Nat) (selector : RunSelector)

-- The run's id is drawn before anything else it does.
def executeNext (state : State) (tenant : Nat) (selector : RunSelector) : Except RunRefusal (State × RunRecord) :=
  execute { state with nextId := state.nextId + 1 } tenant selector state.nextId

-- Each act is a transaction: a refused one changes nothing.
def step (state : State) : Op → State
  | .configure config => { state with config := config }
  | .record event => keepOnRefusal state (record state event)
  | .map heldId declaration => keepOnRefusal state (mapToADeclaration state heldId declaration)
  | .register heldId declaration => keepOnRefusal state (registerTheHeldName state heldId declaration)
  | .dismiss heldId => keepOnRefusal state (dismissAsNonEconomic state heldId)
  | .answer tenant key => answerWhatPublicationsDeclare state tenant key
  | .execute tenant selector => keepOnRefusal state ((executeNext state tenant selector).map Prod.fst)

def noPostings : State where
  config := ⟨emptyTables, [], []⟩
  postings := []
  heldNames := []
  runs := []
  nextId := 0

end Ubb.Resolving
