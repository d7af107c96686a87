import Ubb.Gating.Model
import Ubb.Library.Outcomes

set_option autoImplicit false

namespace Ubb.Gating

open Ubb.Library

def moneySuspendReasons : List SuspensionReason := [.hardFloor, .customerSpendPool]

def balanceSuspendReasons : List SuspensionReason := [.hardFloor, .disputeLost]

def settledPaymentStatuses : List InvoiceStatus := [.paid, .void]

def isStandingFailureOf (owner : Uuid) (invoice : LocalInvoice) : Bool :=
  decide (invoice.historicalBillingOwner = owner ∧ invoice.paymentFailedAt ≠ none ∧
    invoice.paymentStatus ∉ settledPaymentStatuses)

def aPaymentFailureRemainsFor (state : State) (owner : Uuid) : Bool :=
  state.accounts.usageInvoices.any (isStandingFailureOf owner) ||
    state.accounts.subscriptionInvoices.any (isStandingFailureOf owner)

def durableFloorRecovered (state : State) (owner : Uuid) (tenant : Tenant) : Bool :=
  recoveredFloor (state.getCustomerBalance owner) (state.getCustomerMinBalance owner tenant.id)

def standingMoneyCause (state : State) (owner : Customer) (tenant : Tenant) : Option SuspensionReason :=
  match if enforcing tenant then openStopLines state owner.id else [] with
  | surviving :: _ => some (wordOfLine surviving.reason)
  | [] =>
      if holdsAWallet tenant ∧ state.resolveBillingOwner owner = owner.id ∧
          ¬ durableFloorRecovered state owner.id tenant then some .hardFloor
      else none

-- The one site that moves a customer from suspended to active. An exception
-- inside it is logged and answers false.
def maybeUnsuspend (state : State) (ownerId : Uuid) (clearable : List SuspensionReason) (checkMoneyCauses : Bool) :
    State × Bool :=
  match state.customerGet ownerId with
  | none => (state, false)
  | some owner =>
      match state.tenantRow owner.tenant with
      | none => (state, false)
      | some tenant =>
          if ¬ (owner.status = .suspended ∧ owner.suspensionReason ∈ clearable) then (state, false)
          else if aPaymentFailureRemainsFor state owner.id then
            if owner.suspensionReason ≠ .paymentFailed then
              (state.saveCustomer { owner with suspensionReason := .paymentFailed }, false)
            else (state, false)
          else
            match if checkMoneyCauses then standingMoneyCause state owner tenant else none with
            | some standing => (state.saveCustomer { owner with suspensionReason := standing }, false)
            | none =>
                let saved := state.saveCustomer { owner with status := .active, suspensionReason := .manualHold }
                match saved.announcedBalance owner.id tenant none with
                | .error _ => (state, false)
                | .ok balance =>
                    (writeEvent saved (.customerReactivated owner.tenant owner.id owner.suspensionReason balance), true)

def recoverFromDurableBalance (state : State) (owner : Uuid) (tenant : Tenant) : State × Bool :=
  if ¬ holdsAWallet tenant then (state, false)
  else if durableFloorRecovered state owner tenant then maybeUnsuspend state owner balanceSuspendReasons false
  else (state, false)

def clearManualHold (state : State) (owner : Uuid) : State × Bool := maybeUnsuspend state owner [.manualHold] true

def clearPaymentFailedSuspension (state : State) (owner : Uuid) : State × Bool :=
  maybeUnsuspend state owner [.paymentFailed] true

def repointStopFlag (state : State) (owner : Uuid) (episode : StopSignalState) : State :=
  { state with flags := state.flags.filter (fun flag => flag.owner ≠ owner) ++ [⟨owner, episode.reason, episode.opening⟩] }

def clearStop (state : State) (owner : Uuid) : State × Bool :=
  ({ state with flags := state.flags.filter (fun flag => flag.owner ≠ owner) },
    state.flags.any (fun flag => flag.owner = owner))

-- The reasons `resume` lifts once every stop line has lifted: the money pair,
-- and a lost dispute where the same balance against the same floor decides it.
def resumeClearable (tenant : Tenant) : List SuspensionReason :=
  if holdsAWallet tenant then moneySuspendReasons ++ [.disputeLost] else moneySuspendReasons

-- The durable gate: a tenant without wallets has no balance to ask.
def resumeGate (state : State) (owner : Uuid) (tenant : Tenant) : Bool :=
  !holdsAWallet tenant || durableFloorRecovered state owner tenant

def resume (state : State) (call : ClearCall) : Except Error (State × Bool) := do
  let (cleared, _) ← driveClear state call
  match openStopLines cleared call.owner with
  | surviving :: _ => return (repointStopFlag cleared call.owner surviving, false)
  | [] =>
      let (lifted, realigned) := clearStop cleared call.owner
      if resumeGate lifted call.owner call.tenant then
        return ((maybeUnsuspend lifted call.owner (resumeClearable call.tenant) false).1, realigned)
      else return (lifted, realigned)

end Ubb.Gating
