import Ubb.Library.Runs
import Ubb.Work.GroupingFields
import Ubb.Work.Windows

set_option autoImplicit false

-- The start of a unit of work: what the body declares, what the unit snapshots,
-- and how the key it was started under answers the next one.
namespace Ubb.Work.Starts

open Ubb.Library
open Ubb.Work.Grouping
open Ubb.Work.Sweeps

structure TaskType where
  declaration : Declaration
  pricingMode : PricingMode
  taskCogsCeilingMicros : Option Int
  uncapped : Bool
  silenceWindowSeconds : Option Nat
  absoluteDeadlineSeconds : Option ℕ+
  requiredGroupingFields : List String
  retired : Bool
deriving DecidableEq

-- Under uq_task_type_key.
structure Vocabulary where
  taskTypes : List TaskType
  distinct : (taskTypes.map TaskType.declaration).Nodup

structure Tenant where
  defaultTaskCogsCeilingMicros : Option Int
  defaultSubtaskCogsCeilingMicros : Option Int
  taskStaleSeconds : Option Nat
  taskAbsoluteDeadlineSeconds : Option ℕ+

-- The columns a start writes and no one writes again, but for the status.
structure StartedTask where
  id : Nat
  customer : Uuid
  idempotencyKey : String
  parent : Option Nat
  taskType : String
  slots : Slot → String
  taskCogsCeilingMicros : Option Int
  pricingMode : PricingMode
  agreedPriceMicros : Option Int
  externalTaskId : String
  createdAt : Int
  startWindows : ExpiryWindows
  status : TaskStatus

structure World where
  tenant : Tenant
  customers : List Uuid
  registry : Registry
  ledger : ValueLedger
  vocabulary : Vocabulary
  tasks : List StartedTask

structure StartTaskRequest (Raw : Type) where
  customerId : Uuid
  idempotencyKey : String
  externalTaskId : String
  parentTaskId : Option Nat
  taskCogsCeilingMicros : Option Int
  taskType : Option String
  groupingFields : List (String × Raw)
  keyed : 1 ≤ idempotencyKey.length ∧ idempotencyKey.length ≤ 500
  ceilingPositive : ∀ ceiling ∈ taskCogsCeilingMicros, 0 < ceiling
  taskTypeFits : ∀ kind ∈ taskType, kind.length ≤ 64
  distinct : (keysOf groupingFields).Nodup

inductive Pinned where
  | parent
  | taskType
  | costCeiling
  | groupingValues
deriving DecidableEq, Repr

def pinnedFieldOnTheWire : Pinned → String
  | .parent => "parent_task_id"
  | .taskType => "task_type"
  | .costCeiling => "task_cogs_ceiling_micros"
  | .groupingValues => "grouping_fields"

inductive StartRefusedReason where
  | parentTaskNotActive
  | subtaskDepthExceeded
deriving DecidableEq, Repr

-- The ValueErrors of resolve_start_policy.
inductive PolicyError where
  | notDeclared (declaration : Declaration)
  | retired (declaration : Declaration)
  | grouping (error : GroupingFieldError)
  | missingRequired (declaration : Declaration) (missing : List String)
  | exceeds (requested authority : Int)
deriving DecidableEq, Repr

inductive Problem where
  | notFound
  | idempotencyKeyConflict (field : String) (taskId : Nat)
  | validationError (error : PolicyError)
  | notAdmitted (word : String)
  | refused (word : String)
  | taskStartRefused (reason : StartRefusedReason)
  | agreedPriceRefused (word : String)
  | taskPricingModeConflictsWithParent (parentPricingMode pricingMode : PricingMode)
deriving DecidableEq, Repr

-- What the gates outside the kernel answer this start: the admission control,
-- the wallet's checks where the tenant has one, and the customer's price book.
structure Verdicts where
  admission : Option String
  money : Option String
  agreedPrice : Except String (Option Int)
  reservation : Option String

structure StartTaskResponse where
  taskId : Nat
  parentTaskId : Option Nat
  taskType : String
  status : TaskStatus
  taskCogsCeilingMicros : Option Int
  agreedPriceMicros : Option Int
  externalTaskId : String
  createdAt : Int
  absoluteDeadlineAt : Int
  silenceWindowSeconds : Option Nat
  replayed : Bool
deriving DecidableEq

def startTaskOut (task : StartedTask) (replayed : Bool) : StartTaskResponse where
  taskId := task.id
  parentTaskId := task.parent
  taskType := task.taskType
  status := task.status
  taskCogsCeilingMicros := task.taskCogsCeilingMicros
  agreedPriceMicros := task.agreedPriceMicros
  externalTaskId := task.externalTaskId
  createdAt := task.createdAt
  absoluteDeadlineAt := task.createdAt + seconds task.startWindows.absolute
  silenceWindowSeconds := task.startWindows.silence
  replayed := replayed

structure StartDeclaration (Raw : Type) where
  idempotencyKey : String
  parentTaskId : Option Nat
  taskType : String
  groupingValues : List (String × Raw)
  taskCogsCeilingMicros : Option Int

-- What the unit holds in its slots, the empty columns left out.
def storedSlots (task : StartedTask) : List (Slot × String) :=
  ((List.finRange 10).filter (fun slot => decide (task.slots slot ≠ ""))).map (fun slot => (slot, task.slots slot))

-- Equality of dictionaries: the order of their entries is nothing.
def sameEntries (first second : List (Slot × String)) : Bool :=
  decide (∀ slot, first.lookup slot = second.lookup slot)

section

variable {Raw : Type} (str : Raw → String)

def StartTaskRequest.declaration (payload : StartTaskRequest Raw) : StartDeclaration Raw where
  idempotencyKey := payload.idempotencyKey
  parentTaskId := payload.parentTaskId
  taskType := payload.taskType.getD ""
  groupingValues := payload.groupingFields
  taskCogsCeilingMicros := payload.taskCogsCeilingMicros

def StartDeclaration.scope (declaration : StartDeclaration Raw) : Scope :=
  if declaration.parentTaskId.isSome then .subtask else .task

def StartDeclaration.slots (declaration : StartDeclaration Raw) (registry : Registry) :
    Except GroupingFieldError (List (Slot × String)) :=
  resolve str registry declaration.groupingValues declaration.scope

-- The first pinned field the declaration states differently. A ceiling is
-- compared only where one is named, and the slots last of all.
def StartDeclaration.conflictingFieldOn (declaration : StartDeclaration Raw) (task : StartedTask) (registry : Registry) :
    Except GroupingFieldError (Option Pinned) :=
  if declaration.parentTaskId ≠ task.parent then .ok (some .parent)
  else if declaration.taskType ≠ task.taskType then .ok (some .taskType)
  else if declaration.taskCogsCeilingMicros ≠ none ∧ declaration.taskCogsCeilingMicros ≠ task.taskCogsCeilingMicros then
    .ok (some .costCeiling)
  else do
    let slots ← declaration.slots str registry
    if sameEntries slots (storedSlots task) then pure none else pure (some .groupingValues)

def claimedBy (world : World) (customer : Uuid) (idempotencyKey : String) : Option StartedTask :=
  world.tasks.find? (fun task => decide (task.customer = customer ∧ task.idempotencyKey = idempotencyKey))

-- Under the parent's lock. A unit that is not this customer's is no active one.
def parentFor (world : World) (customer : Uuid) : Option Nat → Except StartRefusedReason (Option StartedTask)
  | none => .ok none
  | some parentTaskId =>
      match world.tasks.find? (fun task => decide (task.id = parentTaskId ∧ task.customer = customer)) with
      | none => .error .parentTaskNotActive
      | some parent =>
          if parent.parent.isSome then .error .subtaskDepthExceeded
          else if parent.status ≠ .active then .error .parentTaskNotActive
          else .ok (some parent)

structure StartPolicy where
  taskType : String
  groupingSlots : List (Slot × String)
  taskCogsCeilingMicros : Option Int
  pricingMode : PricingMode

def taskTypePolicy (vocabulary : Vocabulary) (declaration : Declaration) : Option TaskType :=
  vocabulary.taskTypes.find? (fun row => decide (row.declaration = declaration))

def declaredPolicy (vocabulary : Vocabulary) (declaration : Declaration) : Except PolicyError (Option TaskType) :=
  if declaration.key = "" then .ok none
  else
    match taskTypePolicy vocabulary declaration with
    | none => .error (.notDeclared declaration)
    | some row => if row.retired then .error (.retired declaration) else .ok (some row)

def missingFields (policy : Option TaskType) (values : List (String × Raw)) : List String :=
  match policy with
  | none => []
  | some row => row.requiredGroupingFields.filter (fun key => decide (key ∉ keysOf values))

def authorityOf (tenant : Tenant) (policy : Option TaskType) (isSubtask : Bool) : Option Int :=
  match policy with
  | some row => if row.uncapped then none else row.taskCogsCeilingMicros
  | none => if isSubtask then tenant.defaultSubtaskCogsCeilingMicros else tenant.defaultTaskCogsCeilingMicros

def ceilingUnder (authority requested : Option Int) : Except PolicyError (Option Int) :=
  match requested with
  | none => .ok authority
  | some asked =>
      match authority with
      | some bound => if bound < asked then .error (.exceeds asked bound) else .ok (some asked)
      | none => .ok (some asked)

def resolveStartPolicy (world : World) (taskType : Option String) (values : List (String × Raw)) (requested : Option Int)
    (isSubtask : Bool) : Except PolicyError (StartPolicy × ValueLedger) := do
  let declaration : Declaration := ⟨if isSubtask then .subtask else .task, taskType.getD ""⟩
  let policy ← declaredPolicy world.vocabulary declaration
  let (slots, ledger) ←
    (admitValues str world.registry world.ledger values (if isSubtask then .subtask else .task)).mapError .grouping
  refuseIf (missingFields policy values ≠ []) (.missingRequired declaration (missingFields policy values))
  let ceiling ← ceilingUnder (authorityOf world.tenant policy isSubtask) requested
  pure (⟨declaration.key, slots, ceiling, (policy.map TaskType.pricingMode).getD .eventPriced⟩, ledger)

def TaskType.windowsRow (row : TaskType) : TaskTypeRow := ⟨row.declaration, row.silenceWindowSeconds, row.absoluteDeadlineSeconds⟩

def World.settings (world : World) : Settings where
  tenant := some ⟨world.tenant.taskStaleSeconds, world.tenant.taskAbsoluteDeadlineSeconds⟩
  taskTypes := world.vocabulary.taskTypes.map TaskType.windowsRow
  distinct := by
    rw [List.map_map]
    exact world.vocabulary.distinct

def windowsUnder (windows : Ladder) (declaration : Declaration) : ExpiryWindows :=
  ((windows.declared.find? (fun entry => entry.1 = declaration)).map Prod.snd).getD windows.fallback

def regimeRefusal (parent : Option StartedTask) (pricingMode : PricingMode) : Except Problem Unit :=
  match parent with
  | none => .ok ()
  | some containing =>
      if containing.pricingMode ≠ pricingMode then
        .error (.taskPricingModeConflictsWithParent containing.pricingMode pricingMode)
      else .ok ()

def createTask (world : World) (payload : StartTaskRequest Raw) (parent : Option StartedTask) (policy : StartPolicy)
    (agreedPrice : Option Int) (now : Int) : StartedTask where
  id := world.tasks.length
  customer := payload.customerId
  idempotencyKey := payload.idempotencyKey
  parent := parent.map StartedTask.id
  taskType := policy.taskType
  slots := fun slot => (policy.groupingSlots.lookup slot).getD ""
  taskCogsCeilingMicros := policy.taskCogsCeilingMicros
  pricingMode := policy.pricingMode
  agreedPriceMicros := agreedPrice
  externalTaskId := payload.externalTaskId
  createdAt := now
  startWindows := windowsUnder (expiryWindows world.settings) ⟨if parent.isSome then .subtask else .task, policy.taskType⟩
  status := .active

def orRefuse (word : Option String) (problem : String → Problem) : Except Problem Unit :=
  match word with
  | none => .ok ()
  | some reason => .error (problem reason)

-- The key is claimed already: the declaration decides, and nothing is written.
def answerClaim (world : World) (payload : StartTaskRequest Raw) (claimed : StartedTask) : Except Problem StartTaskResponse :=
  match payload.declaration.conflictingFieldOn str claimed world.registry with
  | .error error => .error (.validationError (.grouping error))
  | .ok (some differing) => .error (.idempotencyKeyConflict (pinnedFieldOnTheWire differing) claimed.id)
  | .ok none => .ok (startTaskOut claimed true)

def agreedPriceOf (verdicts : Verdicts) (policy : StartPolicy) : Except Problem (Option Int) :=
  if policy.pricingMode = .fixed then verdicts.agreedPrice.mapError .agreedPriceRefused else .ok none

def startNew (world : World) (payload : StartTaskRequest Raw) (verdicts : Verdicts) (now : Int) :
    Except Problem (World × StartTaskResponse) := do
  orRefuse verdicts.admission .notAdmitted
  orRefuse verdicts.money .refused
  let parent ← (parentFor world payload.customerId payload.parentTaskId).mapError .taskStartRefused
  let (policy, ledger) ←
    (resolveStartPolicy str world payload.taskType payload.groupingFields payload.taskCogsCeilingMicros parent.isSome).mapError
      .validationError
  let agreedPrice ← agreedPriceOf verdicts policy
  regimeRefusal parent policy.pricingMode
  let task := createTask world payload parent policy agreedPrice now
  orRefuse (if agreedPrice.isSome then verdicts.reservation else none) .refused
  pure ({ world with ledger := ledger, tasks := world.tasks ++ [task] }, startTaskOut task false)

def start (world : World) (payload : StartTaskRequest Raw) (verdicts : Verdicts) (now : Int) :
    Except Problem (World × StartTaskResponse) :=
  if payload.customerId ∉ world.customers then .error .notFound
  else
    match claimedBy world payload.customerId payload.idempotencyKey with
    | some claimed => (answerClaim str world payload claimed).map (fun answer => (world, answer))
    | none => startNew str world payload verdicts now

end

def Vocabulary.create (vocabulary : Vocabulary) (row : TaskType) (fresh : taskTypePolicy vocabulary row.declaration = none) :
    Vocabulary where
  taskTypes := vocabulary.taskTypes ++ [row]
  distinct := nodup_add_row TaskType.declaration vocabulary.taskTypes row vocabulary.distinct
    (find_key_none TaskType.declaration row.declaration vocabulary.taskTypes fresh)

def TaskType.over (row held : TaskType) : TaskType := { row with declaration := held.declaration }

def Vocabulary.update (vocabulary : Vocabulary) (row : TaskType) : Vocabulary where
  taskTypes := updateRow TaskType.declaration row.declaration row.over vocabulary.taskTypes
  distinct := by
    rw [update_row_map TaskType.declaration row.declaration row.over vocabulary.taskTypes TaskType.declaration
      (fun _ => rfl)]
    exact vocabulary.distinct

-- declare_kinds, a declaration at a time: the regime of a standing kind is
-- frozen, and the ceiling question is answered exactly once.
def declareKind (world : World) (row : TaskType) : World :=
  if row.requiredGroupingFields.any (fun key => (world.registry.find key).isNone) then world
  else if row.taskCogsCeilingMicros.isNone = !row.uncapped then world
  else
    match standing : taskTypePolicy world.vocabulary row.declaration with
    | none => { world with vocabulary := world.vocabulary.create row standing }
    | some held => if held.pricingMode ≠ row.pricingMode then world else { world with vocabulary := world.vocabulary.update row }

-- What happens to a tenant's rows: starts, declarations of either registry,
-- its own settings, and the units' ends. Prices are the verdicts of a start.
inductive Event (Raw : Type) where
  | start (payload : StartTaskRequest Raw) (verdicts : Verdicts) (now : Int)
  | declareGroupingField (key slot scope : String) (maxCardinality : Int)
  | retireGroupingField (key : String) (retired : Bool)
  | declareKind (row : TaskType)
  | configure (tenant : Tenant)
  | addCustomer (customer : Uuid)
  | move (id : Nat) (status : TaskStatus)

def StartedTask.to (status : TaskStatus) (task : StartedTask) : StartedTask := { task with status := status }

-- A refused call leaves the rows as they are.
def step {Raw : Type} (str : Raw → String) (world : World) : Event Raw → World
  | .start payload verdicts now =>
      match start str world payload verdicts now with
      | .ok (next, _) => next
      | .error _ => world
  | .declareGroupingField key slot scope maxCardinality =>
      match world.registry.declare key slot scope maxCardinality with
      | .ok registry => { world with registry := registry }
      | .error _ => world
  | .retireGroupingField key retired => { world with registry := world.registry.retire key retired }
  | .declareKind row => declareKind world row
  | .configure tenant => { world with tenant := tenant }
  | .addCustomer customer => { world with customers := world.customers ++ [customer] }
  | .move id status => { world with tasks := updateRow StartedTask.id id (StartedTask.to status) world.tasks }

end Ubb.Work.Starts
