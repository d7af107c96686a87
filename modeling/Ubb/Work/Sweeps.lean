import Ubb.Core.Uuid
import Ubb.Library.KeyedRows
import Ubb.Library.Runs
import Ubb.Work.Model

set_option autoImplicit false

-- The two sweepers that expire units of work, the reports that keep units
-- alive, and the row locks between them.
namespace Ubb.Work.Sweeps

open Ubb.Library

-- The columns a sweep reads. The events are the heartbeat's history: what
-- accumulate_cost stamped on this unit, its contained work's reports included.
structure TaskRow where
  id : Uuid
  parent : Option Uuid
  taskType : String
  createdAt : Int
  status : TaskStatus
  reasonCode : Option ReasonCode
  lastEventAt : Option Int
  events : List Int
deriving DecidableEq

inductive Kind where
  | task
  | subtask
deriving DecidableEq, Repr

structure Declaration where
  kind : Kind
  key : String
deriving DecidableEq, Repr

structure ExpiryWindows where
  silence : Option Nat
  absolute : Nat
deriving DecidableEq, Repr

-- The dictionary expiry_windows returns, every rung resolved.
structure Ladder where
  declared : List (Declaration × ExpiryWindows)
  fallback : ExpiryWindows
  distinct : (declared.map Prod.fst).Nodup
deriving DecidableEq

def seconds (count : Nat) : Int := count * 1000000

def deadlineInstant (absoluteSeconds : Nat) (now : Int) : Int := now - seconds absoluteSeconds

def declaring (declaration : Declaration) (task : TaskRow) : Bool :=
  task.taskType = declaration.key && task.parent.isNone == (declaration.kind == .task)

def elapsed (pair : ExpiryWindows) (now : Int) (task : TaskRow) : Bool :=
  task.createdAt < deadlineInstant pair.absolute now ||
    match pair.silence, task.lastEventAt with
    | some silence, some last => last < now - seconds silence
    | _, _ => false

def pastAWindow (windows : Ladder) (now : Int) (task : TaskRow) : Bool :=
  windows.declared.any (fun entry => declaring entry.1 task && elapsed entry.2 now task) ||
    (!windows.declared.any (fun entry => declaring entry.1 task) && elapsed windows.fallback now task)

def declarationOf (task : TaskRow) : Declaration := ⟨if task.parent.isSome then .subtask else .task, task.taskType⟩

def windowsOfAUnit (windows : Ladder) (task : TaskRow) : ExpiryWindows :=
  ((windows.declared.find? (fun entry => entry.1 = declarationOf task)).map Prod.snd).getD windows.fallback

def reasonFor (task : TaskRow) (windows : Ladder) (now : Int) : ReasonCode :=
  if task.createdAt < deadlineInstant (windowsOfAUnit windows task).absolute now then .absoluteDeadline else .silenceWindow

-- A recording that holds its rows: the parent's before the unit's, and the
-- instant read once both are held.
structure Report where
  task : Uuid
  parent : Option Uuid
  stamp : Int
deriving DecidableEq, Repr

def Report.rows (report : Report) : List Uuid := report.task :: report.parent.toList

-- What one pass of a sweeper read before its first flip.
structure Sweep where
  announces : Bool
  now : Int
  windows : Ladder
  candidates : List TaskRow
deriving DecidableEq

structure Tenant where
  clock : Int
  enforcing : Bool
  windows : Ladder
  tasks : List TaskRow
  reports : List Report
  sweeps : List Sweep
deriving DecidableEq

def Tenant.task (tenant : Tenant) (id : Uuid) : Option TaskRow := tenant.tasks.find? (fun row => row.id = id)

def Tenant.report (tenant : Tenant) (id : Uuid) : Option Report := tenant.reports.find? (fun report => report.task = id)

def Tenant.held (tenant : Tenant) (id : Uuid) : Bool := tenant.reports.any (fun report => decide (id ∈ report.rows))

def Tenant.active (tenant : Tenant) : List TaskRow := tenant.tasks.filter (fun row => row.status = .active)

def abandonedFloor : Nat := 3600

-- An enforcing tenant's emitted work is ceded to the announcing sweeper.
def closeAbandonedTasks (tenant : Tenant) : Sweep where
  announces := false
  now := tenant.clock
  windows := tenant.windows
  candidates := tenant.active.filter (fun row =>
    row.createdAt < tenant.clock - seconds abandonedFloor &&
      (row.lastEventAt.isNone || (!tenant.enforcing && pastAWindow tenant.windows tenant.clock row)))

def reapStaleTasks (tenant : Tenant) : Sweep where
  announces := true
  now := tenant.clock
  windows := tenant.windows
  candidates := tenant.active.filter (fun row => tenant.enforcing && pastAWindow tenant.windows tenant.clock row)

def stampHeartbeat (stamp : Int) (row : TaskRow) : TaskRow :=
  { row with lastEventAt := some stamp, events := row.events ++ [stamp] }

def accumulateCost (report : Report) (rows : List TaskRow) : List TaskRow :=
  rows.map (fun row => if row.id ∈ report.rows then stampHeartbeat report.stamp row else row)

def endRow (status : TaskStatus) (reason : Option ReasonCode) (row : TaskRow) : TaskRow :=
  { row with status := status, reasonCode := reason }

-- _flip and _cascade: only work still running is touched, and only a
-- top-level unit's end reaches what it contains.
def flipRows (id : Uuid) (topLevel : Bool) (status cascaded : TaskStatus) (reason cascade : Option ReasonCode)
    (rows : List TaskRow) : List TaskRow :=
  rows.map (fun row =>
    if row.id = id then endRow status reason row
    else if topLevel ∧ row.parent = some id ∧ row.status = .active then endRow cascaded cascade row
    else row)

-- The flip takes the unit's row lock and its running children's.
def Tenant.free (tenant : Tenant) (id : Uuid) : Bool :=
  !tenant.held id && tenant.active.all (fun row => row.parent != some id || !tenant.held row.id)

inductive Event where
  | tick (passed : Nat)
  | configure (enforcing : Bool) (windows : Ladder)
  | register (id : Uuid) (parent : Option Uuid) (taskType : String)
  | lockReport (task : Uuid)
  | commitReport (task : Uuid)
  | rollBackReport (task : Uuid)
  | closeAbandonedTasks
  | reapStaleTasks
  | flip (sweep : Nat) (task : Uuid)
  | finish (task : Uuid) (status cascaded : TaskStatus) (reason cascade : Option ReasonCode)
deriving DecidableEq

-- A candidate whose turn has come: the row the sweep read, and the unit as its
-- lock finds it. The lock re-checks the state and nothing else.
def Tenant.reaped (tenant : Tenant) (sweep : Nat) (id : Uuid) : Option (Sweep × TaskRow × TaskRow) :=
  match tenant.sweeps[sweep]?, tenant.task id with
  | some sweep, some task =>
      match sweep.candidates.find? (fun row => row.id = id) with
      | some row => if task.status = .active ∧ tenant.free id then some (sweep, row, task) else none
      | none => none
  | _, _ => none

def mayContain (tenant : Tenant) : Option Uuid → Bool
  | none => true
  | some parent => (tenant.task parent).any (fun row => row.parent.isNone && row.status == .active)

def step (tenant : Tenant) : Event → Tenant
  | .tick passed => { tenant with clock := tenant.clock + passed }
  | .configure enforcing windows => { tenant with enforcing := enforcing, windows := windows }
  | .register id parent taskType =>
      if (tenant.task id).isNone ∧ mayContain tenant parent then
        { tenant with tasks := tenant.tasks ++ [⟨id, parent, taskType, tenant.clock, .active, none, none, []⟩] }
      else tenant
  | .lockReport id =>
      match tenant.task id with
      | some row =>
          if (id :: row.parent.toList).any tenant.held then tenant
          else { tenant with reports := tenant.reports ++ [⟨id, row.parent, tenant.clock⟩] }
      | none => tenant
  | .commitReport id =>
      match tenant.report id with
      | some report =>
          { tenant with
            tasks := accumulateCost report tenant.tasks
            reports := tenant.reports.filter (fun other => other.task ≠ id) }
      | none => tenant
  | .rollBackReport id => { tenant with reports := tenant.reports.filter (fun other => other.task ≠ id) }
  | .closeAbandonedTasks => { tenant with sweeps := tenant.sweeps ++ [closeAbandonedTasks tenant] }
  | .reapStaleTasks => { tenant with sweeps := tenant.sweeps ++ [reapStaleTasks tenant] }
  | .flip sweep id =>
      match tenant.reaped sweep id with
      | some (sweep, row, task) =>
          { tenant with
            tasks := flipRows id task.parent.isNone .expired .expired
              (if sweep.announces then some (reasonFor row sweep.windows sweep.now) else none) (some .parentExpired)
              tenant.tasks }
      | none => tenant
  | .finish id status cascaded reason cascade =>
      match tenant.task id with
      | some task =>
          if task.status = .active ∧ status.terminal ∧ cascaded.terminal ∧ tenant.free id then
            { tenant with tasks := flipRows id task.parent.isNone status cascaded reason cascade tenant.tasks }
          else tenant
      | none => tenant

def newTenant (clock : Int) (enforcing : Bool) (windows : Ladder) : Tenant := ⟨clock, enforcing, windows, [], [], []⟩

end Ubb.Work.Sweeps
