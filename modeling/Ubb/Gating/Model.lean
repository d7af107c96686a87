import Ubb.Core.Uuid
import Ubb.Library.KeyedRows
import Ubb.Library.Runs

set_option autoImplicit false

namespace Ubb.Gating

open Ubb.Library

inductive BillingMode where
  | prepaid
  | postpaid
  | external
deriving DecidableEq, Repr

inductive EnforcementMode where
  | off
  | enforcing
deriving DecidableEq, Repr

structure Tenant where
  id : Uuid
  billingMode : BillingMode
  enforcementMode : EnforcementMode
deriving DecidableEq, Repr

def enforcing (tenant : Tenant) : Bool := decide (tenant.enforcementMode = .enforcing)

def holdsAWallet (tenant : Tenant) : Bool := decide (tenant.billingMode = .prepaid)

-- The ledger's three lines. The two stop lines are named by the word their
-- stop carries, the wind-down line by the ledger alone.
inductive Line where
  | hardFloor
  | customerSpendPool
  | softFloor
deriving DecidableEq, Repr

inductive ControlFamily where
  | ceiling
  | customerSpendPool
  | walletPolicy
  | admissionControl
deriving DecidableEq, Repr

def stopLines : List Line := [.hardFloor, .customerSpendPool]

def familyOfLine : Line → ControlFamily
  | .hardFloor => .walletPolicy
  | .customerSpendPool => .customerSpendPool
  | .softFloor => .walletPolicy

inductive TriggerSource where
  | usageIngest
  | enforcementPatrol
  | chargeProjection
deriving DecidableEq, Repr

structure OpeningFacts where
  triggerSource : Option TriggerSource
  stopBoundMicros : Option Int
  stopMeasuredMicros : Option Int
deriving DecidableEq, Repr

def noOpeningFacts : OpeningFacts := ⟨none, none, none⟩

inductive SignalState where
  | stopped
  | cleared
deriving DecidableEq, Repr

inductive ClearReason where
  | balanceRecovered
  | reconciled
  | balanceRepaired
  | enforcementModeTransition
deriving DecidableEq, Repr

-- `suspension_reason` is free text: the empty word is the manual hold.
inductive SuspensionReason where
  | manualHold
  | hardFloor
  | customerSpendPool
  | paymentFailed
  | disputeLost
  | other (word : String)
deriving DecidableEq, Repr

inductive CustomerStatus where
  | active
  | suspended
  | closed
deriving DecidableEq, Repr

inductive AccountType where
  | individual
  | business
  | seat
deriving DecidableEq, Repr

inductive BillingTopology where
  | blank
  | pooled
  | allocated
deriving DecidableEq, Repr

structure Customer where
  id : Uuid
  tenant : Uuid
  accountType : AccountType
  parent : Option Uuid
  billingTopology : BillingTopology
  status : CustomerStatus
  suspensionReason : SuspensionReason
  deletedAt : Option Nat
deriving DecidableEq, Repr

structure Wallet where
  customer : Uuid
  balanceMicros : Int
deriving DecidableEq, Repr

structure CustomerBillingProfile where
  customer : Uuid
  minBalanceMicros : Option Int
deriving DecidableEq, Repr

structure BillingTenantConfig where
  tenant : Uuid
  minBalanceMicros : Int
deriving DecidableEq, Repr

inductive InvoiceStatus where
  | blank
  | draft
  | opened
  | paid
  | void
  | uncollectible
deriving DecidableEq, Repr

-- A usage invoice's own customer, a subscription invoice's billing owner: the
-- owner the invoice was issued to, and what the payment failure test reads.
structure LocalInvoice where
  historicalBillingOwner : Uuid
  paymentFailedAt : Option Nat
  paymentStatus : InvoiceStatus
deriving DecidableEq, Repr

structure Accounts where
  tenants : List Tenant
  customers : List Customer
  wallets : List Wallet
  profiles : List CustomerBillingProfile
  configs : List BillingTenantConfig
  usageInvoices : List LocalInvoice
  subscriptionInvoices : List LocalInvoice
deriving DecidableEq, Repr

structure StopSignalState where
  tenant : Uuid
  owner : Uuid
  controlFamily : ControlFamily
  reason : Line
  state : SignalState
  episodeSeq : Nat
  clearReason : Option ClearReason
  controlId : Option Uuid
  transitionedAt : Nat
  opening : OpeningFacts
  announceOutboxId : Option Nat
deriving DecidableEq, Repr

def StopSignalState.key (row : StopSignalState) : Uuid × ControlFamily × Line :=
  (row.owner, row.controlFamily, row.reason)

def lineKey (owner : Uuid) (line : Line) : Uuid × ControlFamily × Line := (owner, familyOfLine line, line)

inductive Event where
  | customerStopped (tenant owner : Uuid) (episodeSeq : Nat) (reasonCode : Line) (controlFamily : ControlFamily)
      (controlId : Option Uuid)
  | customerStopCleared (tenant owner : Uuid) (episodeSeq : Nat) (balanceMicros : Option Int) (reasonCode : Line)
      (controlFamily : ControlFamily) (controlId : Option Uuid)
  | walletPolicySoftFloorCrossed (tenant owner : Uuid) (balanceMicros softMinBalanceMicros : Int) (episodeSeq : Nat)
  | walletPolicySoftFloorCleared (tenant owner : Uuid) (reason : ClearReason) (balanceMicros : Int)
      (softMinBalanceMicros : Option Int) (episodeSeq : Nat)
  | customerSuspended (tenant customer : Uuid) (reason : SuspensionReason) (balanceMicros : Option Int)
  | customerReactivated (tenant customer : Uuid) (reasonCode : SuspensionReason) (balanceMicros : Option Int)
deriving DecidableEq, Repr

-- One write of a ledger row's state, with what the row said of the episode
-- when it was written. The list of them is kept for the proofs; no function
-- of the program reads it.
structure StateWrite where
  owner : Uuid
  line : Line
  state : SignalState
  episodeSeq : Nat
  controlId : Option Uuid
  opening : OpeningFacts
  silent : Bool
deriving DecidableEq, Repr

structure StopFlag where
  owner : Uuid
  word : Line
  opening : OpeningFacts
deriving DecidableEq, Repr

structure Kill where
  owner : Uuid
  controlId : Option Uuid
deriving DecidableEq, Repr

structure State where
  accounts : Accounts
  signals : List StopSignalState
  outbox : List Event
  flags : List StopFlag
  stopActiveWork : List Kill
  writes : List StateWrite
deriving DecidableEq, Repr

def noSignals (accounts : Accounts) : State := ⟨accounts, [], [], [], [], []⟩

inductive Error where
  | notAStopLine
  | doesNotExist
deriving DecidableEq, Repr

-- The default manager leaves a soft-deleted customer out; a foreign key does not.
def State.customerGet (state : State) (id : Uuid) : Option Customer :=
  state.accounts.customers.find? (fun customer => customer.id = id ∧ customer.deletedAt = none)

def State.customerRow (state : State) (id : Uuid) : Option Customer :=
  state.accounts.customers.find? (fun customer => customer.id = id)

def State.tenantRow (state : State) (id : Uuid) : Option Tenant :=
  state.accounts.tenants.find? (fun tenant => tenant.id = id)

def State.resolveBillingOwner (state : State) (customer : Customer) : Uuid :=
  if customer.accountType = .seat then
    match customer.parent.bind state.customerRow with
    | some parent => if parent.billingTopology = .pooled then parent.id else customer.id
    | none => customer.id
  else customer.id

def State.getCustomerBalance (state : State) (customer : Uuid) : Int :=
  match state.accounts.wallets.find? (fun wallet => wallet.customer = customer) with
  | some wallet => wallet.balanceMicros
  | none => 0

-- A tenant without a configuration row is given one, whose bound is zero.
def State.getCustomerMinBalance (state : State) (customer tenant : Uuid) : Int :=
  match (state.accounts.profiles.find? (fun profile => profile.customer = customer)).bind
      CustomerBillingProfile.minBalanceMicros with
  | some bound => bound
  | none =>
      match state.accounts.configs.find? (fun config => config.tenant = tenant) with
      | some config => config.minBalanceMicros
      | none => 0

def recoveredFloor (balanceMicros minBalanceMicros : Int) : Bool := decide (balanceMicros ≥ -minBalanceMicros)

def State.announcedBalance (state : State) (owner : Uuid) (tenant : Tenant) (measured : Option Int) :
    Except Error (Option Int) :=
  if tenant.billingMode = .prepaid then
    match state.customerGet owner with
    | none => .error .doesNotExist
    | some customer =>
        if state.resolveBillingOwner customer = customer.id then
          .ok (some (measured.getD (state.getCustomerBalance owner)))
        else .ok none
  else .ok none

def State.lineRow (state : State) (owner : Uuid) (line : Line) : Option StopSignalState :=
  state.signals.find? (fun row => row.key = lineKey owner line)

def StopSignalState.write (row : StopSignalState) (silent : Bool) : StateWrite :=
  ⟨row.owner, row.reason, row.state, row.episodeSeq, row.controlId, row.opening, silent⟩

def State.saveRow (state : State) (row : StopSignalState) : State :=
  { state with signals := updateRow StopSignalState.key row.key (fun _ => row) state.signals }

def State.logged (state : State) (row : StopSignalState) : State :=
  { state with writes := state.writes ++ [row.write false] }

def openLine (state : State) (owner : Uuid) (tenant : Tenant) (line : Line) (controlId : Option Uuid) (now : Nat)
    (opening : OpeningFacts) : Option (State × StopSignalState) :=
  match state.lineRow owner line with
  | none =>
      let row : StopSignalState := ⟨tenant.id, owner, familyOfLine line, line, .stopped, 1, none, controlId, now,
        opening, none⟩
      some (({ state with signals := state.signals ++ [row] }).logged row, row)
  | some row =>
      if row.state = .stopped then none
      else
        let opened := { row with
          state := .stopped, episodeSeq := row.episodeSeq + 1, clearReason := none, controlId := controlId,
          transitionedAt := now, opening := opening }
        some ((state.saveRow opened).logged opened, opened)

def closeLine (state : State) (owner : Uuid) (line : Line) (clearReason : ClearReason) (now : Nat) :
    Option (State × StopSignalState) :=
  match state.lineRow owner line with
  | none => none
  | some row =>
      if row.state = .stopped then
        let closed := { row with state := .cleared, clearReason := some clearReason, transitionedAt := now }
        some ((state.saveRow closed).logged closed, closed)
      else none

def writeEvent (state : State) (event : Event) : State := { state with outbox := state.outbox ++ [event] }

-- The outbox row's id is its place in the outbox.
def emitStamped (state : State) (row : StopSignalState) (event : Event) : State :=
  (writeEvent state event).saveRow { row with announceOutboxId := some state.outbox.length }

def State.saveCustomer (state : State) (customer : Customer) : State :=
  { state with accounts := { state.accounts with
      customers := updateRow Customer.id customer.id (fun _ => customer) state.accounts.customers } }

def wordOfLine : Line → SuspensionReason
  | .hardFloor => .hardFloor
  | .customerSpendPool => .customerSpendPool
  | .softFloor => .other "soft_floor"

structure StopCall where
  owner : Uuid
  tenant : Tenant
  line : Line
  controlId : Option Uuid
  opening : OpeningFacts
  balanceMicros : Option Int
  now : Nat
deriving DecidableEq, Repr

-- The suspension folded into the winning stop.
def suspendOwner (state : State) (owner : Customer) (call : StopCall) : Except Error State :=
  if (call.tenant.billingMode ≠ .postpaid ∨ enforcing call.tenant) ∧ owner.status = .active then do
    let suspended := { owner with status := .suspended, suspensionReason := wordOfLine call.line }
    let saved := state.saveCustomer suspended
    let balance ← saved.announcedBalance owner.id call.tenant call.balanceMicros
    return writeEvent saved (.customerSuspended call.tenant.id owner.id suspended.suspensionReason balance)
  else .ok state

def driveStop (state : State) (call : StopCall) : Except Error (State × Option Nat) :=
  if call.line ∉ stopLines then .error .notAStopLine
  else
    match state.customerGet call.owner with
    | none => .error .doesNotExist
    | some owner =>
        match openLine state call.owner call.tenant call.line call.controlId call.now call.opening with
        | none => .ok (state, none)
        | some (opened, row) => do
            let announced := emitStamped opened row (.customerStopped call.tenant.id owner.id row.episodeSeq row.reason
              row.controlFamily row.controlId)
            let suspended ← suspendOwner announced owner call
            let killed := if call.line = .customerSpendPool then
                { suspended with stopActiveWork := suspended.stopActiveWork ++ [⟨call.owner, call.controlId⟩] }
              else suspended
            return (killed, some row.episodeSeq)

structure ClearCall where
  owner : Uuid
  tenant : Tenant
  line : Line
  clearReason : ClearReason
  balanceMicros : Option Int
  now : Nat
deriving DecidableEq, Repr

def driveClear (state : State) (call : ClearCall) : Except Error (State × Option Nat) :=
  if call.line ∉ stopLines then .error .notAStopLine
  else
    match closeLine state call.owner call.line call.clearReason call.now with
    | none => .ok (state, none)
    | some (closed, row) => do
        let balance ← closed.announcedBalance call.owner call.tenant call.balanceMicros
        return (emitStamped closed row (.customerStopCleared call.tenant.id call.owner row.episodeSeq balance row.reason
          row.controlFamily row.controlId), some row.episodeSeq)

structure SoftCall where
  owner : Uuid
  tenant : Tenant
  balanceMicros : Int
  now : Nat
deriving DecidableEq, Repr

def driveSoftCrossed (state : State) (call : SoftCall) (softMinBalanceMicros : Int) : State × Option Nat :=
  match openLine state call.owner call.tenant .softFloor none call.now noOpeningFacts with
  | none => (state, none)
  | some (opened, row) =>
      (emitStamped opened row (.walletPolicySoftFloorCrossed call.tenant.id call.owner call.balanceMicros
        softMinBalanceMicros row.episodeSeq), some row.episodeSeq)

def driveSoftCleared (state : State) (call : SoftCall) (reason : ClearReason) (softMinBalanceMicros : Option Int) :
    State × Option Nat :=
  match closeLine state call.owner .softFloor reason call.now with
  | none => (state, none)
  | some (closed, row) =>
      (emitStamped closed row (.walletPolicySoftFloorCleared call.tenant.id call.owner reason call.balanceMicros
        softMinBalanceMicros row.episodeSeq), some row.episodeSeq)

def openStopLines (state : State) (owner : Uuid) : List StopSignalState :=
  stopLines.filterMap (fun line =>
    state.signals.find? (fun row => row.owner = owner ∧ row.reason = line ∧ row.state = .stopped))

def isOpenOf (tenant : Uuid) (row : StopSignalState) : Bool := decide (row.tenant = tenant ∧ row.state = .stopped)

def StopSignalState.closedSilently (row : StopSignalState) (reason : ClearReason) (now : Nat) : StopSignalState :=
  { row with state := .cleared, clearReason := some reason, transitionedAt := now }

def closeAllSilently (state : State) (tenant : Tenant) (reason : ClearReason) (now : Nat) : State :=
  { state with
    signals := state.signals.map (fun row =>
      if isOpenOf tenant.id row then row.closedSilently reason now else row),
    writes := state.writes ++ (state.signals.filter (isOpenOf tenant.id)).map
      (fun row => (row.closedSilently reason now).write true) }

end Ubb.Gating
