import Ubb.Gating.LiveCounter
import Ubb.Gating.Signals

set_option autoImplicit false

namespace Ubb.Gating

open Ubb.Library

inductive Call where
  | resume (call : ClearCall)
  | recoverFromDurableBalance (owner : Uuid) (tenant : Tenant)
  | clearManualHold (owner : Uuid)
  | clearPaymentFailedSuspension (owner : Uuid)
deriving DecidableEq, Repr

def Call.owner : Call → Uuid
  | .resume call => call.owner
  | .recoverFromDurableBalance owner _ => owner
  | .clearManualHold owner => owner
  | .clearPaymentFailedSuspension owner => owner

def Call.clearable : Call → List SuspensionReason
  | .resume call => resumeClearable call.tenant
  | .recoverFromDurableBalance _ _ => balanceSuspendReasons
  | .clearManualHold _ => [.manualHold]
  | .clearPaymentFailedSuspension _ => [.paymentFailed]

def Call.checksMoneyCauses : Call → Bool
  | .resume _ => false
  | .recoverFromDurableBalance _ _ => false
  | .clearManualHold _ => true
  | .clearPaymentFailedSuspension _ => true

def callStep (state : State) : Call → State
  | .resume call =>
      match resume state call with
      | .error _ => state
      | .ok (next, _) => next
  | .recoverFromDurableBalance owner tenant => (recoverFromDurableBalance state owner tenant).1
  | .clearManualHold owner => (clearManualHold state owner).1
  | .clearPaymentFailedSuspension owner => (clearPaymentFailedSuspension state owner).1

-- The state in which a call asks the reactivation site, where it comes to ask
-- it: the money recoveries do only once the money condition itself cleared.
def siteOf (state : State) : Call → Option State
  | .resume call =>
      match driveClear state call with
      | .error _ => none
      | .ok (cleared, _) =>
          if openStopLines cleared call.owner = [] ∧ resumeGate (clearStop cleared call.owner).1 call.owner call.tenant then
            some (clearStop cleared call.owner).1
          else none
  | .recoverFromDurableBalance owner tenant =>
      if holdsAWallet tenant ∧ durableFloorRecovered state owner tenant then some state else none
  | .clearManualHold _ => some state
  | .clearPaymentFailedSuspension _ => some state

def isReactivationOf (owner : Uuid) : Event → Bool
  | .customerReactivated _ customer _ _ => decide (customer = owner)
  | _ => false

def reactivationsOf (state : State) (owner : Uuid) : Nat := state.outbox.countP (isReactivationOf owner)

def statusOf (state : State) (owner : Uuid) : Option CustomerStatus := (state.customerGet owner).map Customer.status

def reactivates (owner : Uuid) (state : State) (call : Call) : Bool :=
  decide (statusOf state owner = some .suspended ∧ statusOf (callStep state call) owner = some .active)

theorem saved_customer_get (state : State) (id : Uuid) (found customer : Customer)
    (known : state.customerGet id = some found) (sameId : customer.id = id) (live : customer.deletedAt = none) :
    (state.saveCustomer customer).customerGet id = some customer := by
  have member := List.mem_of_find?_eq_some known
  have foundId := (live_customer state id found known).1
  have selects : ((fun row : Customer => decide (row.id = id ∧ row.deletedAt = none)) ∘
      fun row => if row.id = customer.id then customer else row) = fun row => decide (row.id = id) := by
    funext row
    by_cases hit : row.id = id <;> simp [hit, sameId, live]
  rw [State.customerGet, State.saveCustomer, updateRow, List.find?_map, selects]
  cases first : state.accounts.customers.find? (fun row => decide (row.id = id)) with
  | none =>
      have missing := List.find?_eq_none.mp first found member
      simp [foundId] at missing
  | some row =>
      have holds := List.find?_some first
      have rowId : row.id = id := of_decide_eq_true holds
      rw [Option.map_some, if_pos (rowId.trans sameId.symm)]

theorem saved_other_customer (state : State) (other : Uuid) (customer : Customer) (different : other ≠ customer.id) :
    (state.saveCustomer customer).customerGet other = state.customerGet other := by
  rw [State.customerGet, State.customerGet, State.saveCustomer, updateRow]
  induction state.accounts.customers with
  | nil => rfl
  | cons row rest ih =>
      rw [List.map_cons, List.find?_cons, List.find?_cons, ih]
      by_cases hit : row.id = customer.id
      · simp [hit, Ne.symm different]
      · simp [hit]

def Customer.reactivated (customer : Customer) : Customer :=
  { customer with status := .active, suspensionReason := .manualHold }

def Customer.handedTo (customer : Customer) (cause : SuspensionReason) : Customer :=
  { customer with suspensionReason := cause }

inductive SiteResult (site : State) (customer : Customer) (tenant : Tenant) (clearable : List SuspensionReason)
    (checks : Bool) : State → Prop
  | outside (kept : ¬ (customer.status = .suspended ∧ customer.suspensionReason ∈ clearable)) :
      SiteResult site customer tenant clearable checks site
  | failing (suspended : customer.status = .suspended) (lifts : customer.suspensionReason ∈ clearable)
      (failure : aPaymentFailureRemainsFor site customer.id = true) (already : customer.suspensionReason = .paymentFailed) :
      SiteResult site customer tenant clearable checks site
  | toTheFailure (suspended : customer.status = .suspended) (lifts : customer.suspensionReason ∈ clearable)
      (failure : aPaymentFailureRemainsFor site customer.id = true) :
      SiteResult site customer tenant clearable checks (site.saveCustomer (customer.handedTo .paymentFailed))
  | toTheCause (cause : SuspensionReason) (suspended : customer.status = .suspended)
      (lifts : customer.suspensionReason ∈ clearable) (settled : aPaymentFailureRemainsFor site customer.id = false)
      (asked : checks = true) (stands : standingMoneyCause site customer tenant = some cause) :
      SiteResult site customer tenant clearable checks (site.saveCustomer (customer.handedTo cause))
  | lifted (balance : Option Int) (suspended : customer.status = .suspended)
      (lifts : customer.suspensionReason ∈ clearable) (settled : aPaymentFailureRemainsFor site customer.id = false)
      (clear : checks = true → standingMoneyCause site customer tenant = none) :
      SiteResult site customer tenant clearable checks
        (writeEvent (site.saveCustomer customer.reactivated)
          (.customerReactivated customer.tenant customer.id customer.suspensionReason balance))

theorem announced_balance_known (state : State) (id : Uuid) (tenant : Tenant) (customer : Customer)
    (known : state.customerGet id = some customer) : ∃ balance, state.announcedBalance id tenant none = .ok balance := by
  unfold State.announcedBalance
  split
  · rw [known]
    dsimp only
    split <;> exact ⟨_, rfl⟩
  · exact ⟨none, rfl⟩

theorem site_result (site : State) (owner : Uuid) (customer : Customer) (tenant : Tenant)
    (clearable : List SuspensionReason) (checks : Bool) (known : site.customerGet owner = some customer)
    (belongs : site.tenantRow customer.tenant = some tenant) :
    SiteResult site customer tenant clearable checks (maybeUnsuspend site owner clearable checks).1 := by
  obtain ⟨sameId, live⟩ := live_customer site owner customer known
  simp only [maybeUnsuspend, known, belongs]
  by_cases eligible : customer.status = .suspended ∧ customer.suspensionReason ∈ clearable
  · rw [if_neg (not_not.mpr eligible)]
    cases failure : aPaymentFailureRemainsFor site customer.id with
    | true =>
        rw [if_pos rfl]
        by_cases already : customer.suspensionReason = .paymentFailed
        · rw [if_neg (not_not.mpr already)]
          exact .failing eligible.1 eligible.2 failure already
        · rw [if_pos already]
          exact .toTheFailure eligible.1 eligible.2 failure
    | false =>
        rw [if_neg Bool.false_ne_true]
        cases asked : (if checks then standingMoneyCause site customer tenant else none) with
        | some cause =>
            have both : checks = true ∧ standingMoneyCause site customer tenant = some cause := by
              cases checks with
              | true => exact ⟨rfl, asked⟩
              | false => cases asked
            exact .toTheCause cause eligible.1 eligible.2 failure both.1 both.2
        | none =>
            have saved := saved_customer_get site owner customer customer.reactivated known sameId live
            rw [← sameId] at saved
            obtain ⟨balance, announced⟩ := announced_balance_known _ customer.id tenant _ saved
            have clear : checks = true → standingMoneyCause site customer tenant = none := by
              intro on
              rwa [if_pos on] at asked
            simp only [Customer.reactivated] at announced
            simp only [announced]
            exact .lifted balance eligible.1 eligible.2 failure clear
  · rw [if_pos eligible]
    exact .outside eligible

theorem drive_clear_quiet (state next : State) (call : ClearCall) (answer : Option Nat)
    (driven : driveClear state call = .ok (next, answer)) :
    next.accounts = state.accounts ∧ ∀ owner, reactivationsOf next owner = reactivationsOf state owner := by
  unfold driveClear at driven
  split at driven
  · cases driven
  · cases closes : closeLine state call.owner call.line call.clearReason call.now with
    | none =>
        simp only [closes, Except.ok.injEq, Prod.mk.injEq] at driven
        rw [← driven.1]
        exact ⟨rfl, fun _ => rfl⟩
    | some found =>
        obtain ⟨closed, row⟩ := found
        simp only [closes] at driven
        obtain ⟨balance, _, answered⟩ := (bind_eq_ok _ _ _).mp driven
        obtain ⟨_, _, _, written, _, _, _, _⟩ :=
          close_line_wrote state closed row call.owner call.line call.clearReason call.now closes
        obtain ⟨_, _, _, _, _, _, _, _, _, outbox, accounts, _⟩ := emitted_wrote state closed row
          (.customerStopCleared call.tenant.id call.owner row.episodeSeq balance row.reason row.controlFamily
            row.controlId) call.owner call.line written
        rw [← (Prod.mk.inj (Except.ok.inj answered)).1]
        refine ⟨accounts, ?_⟩
        intro owner
        rw [reactivationsOf, outbox, List.countP_append, ← reactivationsOf]
        simp [isReactivationOf]

theorem call_step_site (state site : State) (call : Call) (reached : siteOf state call = some site) :
    callStep state call = (maybeUnsuspend site call.owner call.clearable call.checksMoneyCauses).1 ∧
      site.accounts = state.accounts ∧ ∀ owner, reactivationsOf site owner = reactivationsOf state owner := by
  cases call with
  | resume call =>
      simp only [siteOf] at reached
      cases driven : driveClear state call with
      | error refusal =>
          rw [driven] at reached
          cases reached
      | ok outcome =>
          obtain ⟨cleared, answer⟩ := outcome
          simp only [driven] at reached
          split at reached
          · rename_i gate
            have quiet := drive_clear_quiet state cleared call answer driven
            rw [← Option.some.inj reached]
            refine ⟨?_, quiet⟩
            have gated : resumeGate (clearStop cleared call.owner).1 call.owner call.tenant = true := gate.2
            simp only [callStep, resume, driven, ok_bind, gate.1, gated]
            rfl
          · cases reached
  | recoverFromDurableBalance owner tenant =>
      simp only [siteOf] at reached
      split at reached
      · rename_i gate
        rw [← Option.some.inj reached]
        refine ⟨?_, rfl, fun _ => rfl⟩
        simp [callStep, recoverFromDurableBalance, gate, Call.owner, Call.clearable, Call.checksMoneyCauses]
      · cases reached
  | clearManualHold owner =>
      rw [← Option.some.inj reached]
      exact ⟨rfl, rfl, fun _ => rfl⟩
  | clearPaymentFailedSuspension owner =>
      rw [← Option.some.inj reached]
      exact ⟨rfl, rfl, fun _ => rfl⟩

theorem call_step_unasked (state : State) (call : Call) (unasked : siteOf state call = none) :
    (callStep state call).accounts = state.accounts ∧
      ∀ owner, reactivationsOf (callStep state call) owner = reactivationsOf state owner := by
  cases call with
  | resume call =>
      simp only [siteOf] at unasked
      cases driven : driveClear state call with
      | error refusal =>
          have stays : callStep state (.resume call) = state := by
            simp only [callStep, resume, driven]
            rfl
          rw [stays]
          exact ⟨rfl, fun _ => rfl⟩
      | ok outcome =>
          obtain ⟨cleared, answer⟩ := outcome
          have quiet := drive_clear_quiet state cleared call answer driven
          simp only [driven] at unasked
          cases lines : openStopLines cleared call.owner with
          | cons surviving rest =>
              have reached : callStep state (.resume call) = repointStopFlag cleared call.owner surviving := by
                simp only [callStep, resume, driven, ok_bind, lines]
                rfl
              rw [reached]
              exact quiet
          | nil =>
              have shut : ¬ resumeGate (clearStop cleared call.owner).1 call.owner call.tenant = true := by
                intro gated
                rw [if_pos ⟨lines, gated⟩] at unasked
                cases unasked
              have reached : callStep state (.resume call) = (clearStop cleared call.owner).1 := by
                simp only [callStep, resume, driven, ok_bind, lines, shut]
                rfl
              rw [reached]
              exact quiet
  | recoverFromDurableBalance owner tenant =>
      have stays : callStep state (.recoverFromDurableBalance owner tenant) = state := by
        simp only [callStep, recoverFromDurableBalance]
        by_cases wallet : holdsAWallet tenant = true
        · have below : ¬ durableFloorRecovered state owner tenant = true := by
            intro recovered
            simp [siteOf, wallet, recovered] at unasked
          rw [if_neg (not_not.mpr wallet), if_neg below]
        · rw [if_pos wallet]
      rw [stays]
      exact ⟨rfl, fun _ => rfl⟩
  | clearManualHold owner => cases unasked
  | clearPaymentFailedSuspension owner => cases unasked

theorem same_accounts_customer (state next : State) (same : next.accounts = state.accounts) (id : Uuid) :
    next.customerGet id = state.customerGet id := by
  rw [State.customerGet, same, ← State.customerGet]

def Asks (state : State) (call : Call) (customer : Customer) : Prop :=
  siteOf state call ≠ none ∧ customer.status = .suspended ∧ customer.suspensionReason ∈ call.clearable

instance (state : State) (call : Call) (customer : Customer) : Decidable (Asks state call customer) :=
  inferInstanceAs (Decidable (_ ∧ _ ∧ _))

structure HandOver (state : State) (call : Call) (customer : Customer) (tenant : Tenant) : Prop where
  others : ∀ other, other ≠ call.owner → (callStep state call).customerGet other = state.customerGet other
  left : ¬ Asks state call customer → (callStep state call).customerGet call.owner = some customer
  failure : Asks state call customer → aPaymentFailureRemainsFor state customer.id = true →
    (callStep state call).customerGet call.owner = some (customer.handedTo .paymentFailed)
  cause : ∀ word, Asks state call customer → aPaymentFailureRemainsFor state customer.id = false →
    call.checksMoneyCauses = true → standingMoneyCause state customer tenant = some word →
    (callStep state call).customerGet call.owner = some (customer.handedTo word)
  lifted : Asks state call customer → aPaymentFailureRemainsFor state customer.id = false →
    (call.checksMoneyCauses = true → standingMoneyCause state customer tenant = none) →
    (callStep state call).customerGet call.owner = some customer.reactivated

theorem checking_site (state site : State) (call : Call) (reached : siteOf state call = some site)
    (checks : call.checksMoneyCauses = true) : site = state := by
  cases call with
  | resume call => cases checks
  | recoverFromDurableBalance owner tenant => cases checks
  | clearManualHold owner => exact (Option.some.inj reached).symm
  | clearPaymentFailedSuspension owner => exact (Option.some.inj reached).symm

theorem site_customer (site next : State) (owner : Uuid) (customer : Customer) (tenant : Tenant)
    (clearable : List SuspensionReason) (checks : Bool) (known : site.customerGet owner = some customer)
    (result : SiteResult site customer tenant clearable checks next) :
    (∀ other, other ≠ owner → next.customerGet other = site.customerGet other) ∧
    ((¬ (customer.status = .suspended ∧ customer.suspensionReason ∈ clearable) ∧
        next.customerGet owner = some customer ∧ next.outbox = site.outbox) ∨
      ((customer.status = .suspended ∧ customer.suspensionReason ∈ clearable) ∧
        ((aPaymentFailureRemainsFor site customer.id = true ∧
            next.customerGet owner = some (customer.handedTo .paymentFailed) ∧ next.outbox = site.outbox) ∨
          (aPaymentFailureRemainsFor site customer.id = false ∧
            ((∃ cause, checks = true ∧ standingMoneyCause site customer tenant = some cause ∧
                next.customerGet owner = some (customer.handedTo cause) ∧ next.outbox = site.outbox) ∨
              ((checks = true → standingMoneyCause site customer tenant = none) ∧
                next.customerGet owner = some customer.reactivated ∧
                ∃ balance, next.outbox = site.outbox ++
                  [.customerReactivated customer.tenant owner customer.suspensionReason balance])))))) := by
  obtain ⟨sameId, live⟩ := live_customer site owner customer known
  have elsewhere : ∀ (written : Customer), written.id = customer.id → ∀ other, other ≠ owner →
      (site.saveCustomer written).customerGet other = site.customerGet other := by
    intro written keeps other different
    apply saved_other_customer
    rw [keeps, sameId]
    exact different
  cases result with
  | outside kept => exact ⟨fun _ _ => rfl, .inl ⟨kept, known, rfl⟩⟩
  | failing suspended lifts failure already =>
      have unchanged : customer.handedTo .paymentFailed = customer := by
        rw [Customer.handedTo, ← already]
      rw [unchanged]
      exact ⟨fun _ _ => rfl, .inr ⟨⟨suspended, lifts⟩, .inl ⟨failure, known, rfl⟩⟩⟩
  | toTheFailure suspended lifts failure =>
      have saved := saved_customer_get site owner customer (customer.handedTo .paymentFailed) known sameId live
      exact ⟨elsewhere _ rfl, .inr ⟨⟨suspended, lifts⟩, .inl ⟨failure, saved, rfl⟩⟩⟩
  | toTheCause cause suspended lifts settled asked stands =>
      have saved := saved_customer_get site owner customer (customer.handedTo cause) known sameId live
      exact ⟨elsewhere _ rfl, .inr ⟨⟨suspended, lifts⟩, .inr ⟨settled, .inl ⟨cause, asked, stands, saved, rfl⟩⟩⟩⟩
  | lifted balance suspended lifts settled clear =>
      have saved := saved_customer_get site owner customer customer.reactivated known sameId live
      refine ⟨elsewhere _ rfl, .inr ⟨⟨suspended, lifts⟩, .inr ⟨settled, .inr ⟨clear, saved, balance, ?_⟩⟩⟩⟩
      rw [sameId]
      rfl

theorem call_hand_over (state : State) (call : Call) (customer : Customer) (tenant : Tenant)
    (known : state.customerGet call.owner = some customer) (belongs : state.tenantRow customer.tenant = some tenant) :
    HandOver state call customer tenant := by
  cases reached : siteOf state call with
  | none =>
      have quiet := call_step_unasked state call reached
      have same := same_accounts_customer state (callStep state call) quiet.1
      have unasked : ¬ Asks state call customer := fun asks => asks.1 reached
      exact ⟨fun other _ => same other, fun _ => (same call.owner).trans known,
        fun asks => absurd asks unasked, fun _ asks => absurd asks unasked, fun asks => absurd asks unasked⟩
  | some site =>
      obtain ⟨stepped, accounts, _⟩ := call_step_site state site call reached
      have same := same_accounts_customer state site accounts
      have siteKnown : site.customerGet call.owner = some customer := (same call.owner).trans known
      have siteBelongs : site.tenantRow customer.tenant = some tenant := by
        rw [State.tenantRow, accounts, ← State.tenantRow]
        exact belongs
      have failures : aPaymentFailureRemainsFor site customer.id = aPaymentFailureRemainsFor state customer.id := by
        rw [aPaymentFailureRemainsFor, accounts, ← aPaymentFailureRemainsFor]
      have causes : call.checksMoneyCauses = true →
          standingMoneyCause site customer tenant = standingMoneyCause state customer tenant := by
        intro checks
        rw [checking_site state site call reached checks]
      obtain ⟨others, outcome⟩ := site_customer site (callStep state call) call.owner customer tenant call.clearable
        call.checksMoneyCauses siteKnown
        (stepped ▸ site_result site call.owner customer tenant call.clearable call.checksMoneyCauses siteKnown siteBelongs)
      have asked : siteOf state call ≠ none := by
        rw [reached]
        simp
      rw [failures] at outcome
      refine ⟨fun other different => (others other different).trans (same other), ?_, ?_, ?_, ?_⟩
      · intro unasked
        rcases outcome with ⟨_, kept, _⟩ | ⟨eligible, _⟩
        · exact kept
        · exact absurd ⟨asked, eligible⟩ unasked
      · intro asks failure
        rcases outcome with ⟨outside, _⟩ | ⟨_, ⟨_, handed, _⟩ | ⟨settled, _⟩⟩
        · exact absurd asks.2 outside
        · exact handed
        · rw [failure] at settled
          cases settled
      · intro word asks settled checks stands
        rcases outcome with ⟨outside, _⟩ | ⟨_, ⟨failure, _⟩ | ⟨_, ⟨cause, _, siteStands, handed, _⟩ | ⟨clear, _⟩⟩⟩
        · exact absurd asks.2 outside
        · rw [failure] at settled
          cases settled
        · rw [causes checks, stands] at siteStands
          rw [Option.some.inj siteStands]
          exact handed
        · have none := clear checks
          rw [causes checks, stands] at none
          cases none
      · intro asks settled clear
        rcases outcome with ⟨outside, _⟩ | ⟨_, ⟨failure, _⟩ | ⟨_, ⟨cause, checks, siteStands, _⟩ | ⟨_, lifted, _⟩⟩⟩
        · exact absurd asks.2 outside
        · rw [failure] at settled
          cases settled
        · rw [causes checks, clear checks] at siteStands
          cases siteStands
        · exact lifted

theorem unknown_left (site : State) (owner : Uuid) (clearable : List SuspensionReason) (checks : Bool)
    (unknown : ∀ customer tenant, site.customerGet owner = some customer →
      site.tenantRow customer.tenant ≠ some tenant) : (maybeUnsuspend site owner clearable checks).1 = site := by
  unfold maybeUnsuspend
  cases known : site.customerGet owner with
  | none => rfl
  | some customer =>
      cases belongs : site.tenantRow customer.tenant with
      | none => simp only [belongs]
      | some tenant => exact absurd belongs (unknown customer tenant known)

theorem status_kept (state next : State) (call : Call) (owner : Uuid) (stepped : callStep state call = next)
    (same : next.customerGet owner = state.customerGet owner) : reactivates owner state call = false := by
  rw [reactivates, decide_eq_false_iff_not, statusOf, statusOf, stepped, same]
  rintro ⟨suspended, active⟩
  rw [suspended] at active
  cases active

theorem call_reactivations (state : State) (call : Call) (owner : Uuid) :
    reactivationsOf (callStep state call) owner =
      reactivationsOf state owner + (reactivates owner state call).toNat := by
  have quietly : ∀ next, callStep state call = next → next.customerGet owner = state.customerGet owner →
      reactivationsOf next owner = reactivationsOf state owner →
      reactivationsOf (callStep state call) owner =
        reactivationsOf state owner + (reactivates owner state call).toNat := by
    intro next stepped same events
    rw [status_kept state next call owner stepped same, stepped, events]
    rfl
  cases reached : siteOf state call with
  | none =>
      have quiet := call_step_unasked state call reached
      exact quietly _ rfl (same_accounts_customer state _ quiet.1 owner) (quiet.2 owner)
  | some site =>
      obtain ⟨stepped, accounts, events⟩ := call_step_site state site call reached
      have same := same_accounts_customer state site accounts
      by_cases unknown : ∀ customer tenant, site.customerGet call.owner = some customer →
          site.tenantRow customer.tenant ≠ some tenant
      · rw [unknown_left site call.owner call.clearable call.checksMoneyCauses unknown] at stepped
        exact quietly site stepped (same owner) (events owner)
      · push Not at unknown
        obtain ⟨customer, tenant, known, belongs⟩ := unknown
        obtain ⟨others, outcome⟩ := site_customer site (callStep state call) call.owner customer tenant call.clearable
          call.checksMoneyCauses known
          (stepped ▸ site_result site call.owner customer tenant call.clearable call.checksMoneyCauses known belongs)
        have silent : (callStep state call).outbox = site.outbox →
            reactivationsOf (callStep state call) owner = reactivationsOf state owner := by
          intro sameOutbox
          rw [← events owner, reactivationsOf, sameOutbox, ← reactivationsOf]
        have known' := (same call.owner).symm.trans known
        have suspendedStays : ∀ word, customer.status = .suspended →
            (callStep state call).customerGet call.owner = some (customer.handedTo word) →
            reactivates owner state call = false := by
          intro word suspended handed
          by_cases own : owner = call.owner
          · rw [reactivates, decide_eq_false_iff_not, statusOf, statusOf, own, handed]
            rintro ⟨_, active⟩
            have kept : (customer.handedTo word).status = .suspended := suspended
            rw [Option.map_some, kept] at active
            cases active
          · exact status_kept state _ call owner rfl ((others owner own).trans (same owner))
        rcases outcome with ⟨_, kept, sameOutbox⟩ |
          ⟨⟨suspended, _⟩, ⟨_, handed, sameOutbox⟩ | ⟨_, ⟨cause, _, _, handed, sameOutbox⟩ | ⟨_, lifted, balance, told⟩⟩⟩
        · have left : (callStep state call).customerGet owner = state.customerGet owner := by
            by_cases own : owner = call.owner
            · rw [own, kept, known']
            · exact (others owner own).trans (same owner)
          exact quietly _ rfl left (silent sameOutbox)
        · rw [silent sameOutbox, suspendedStays _ suspended handed]
          rfl
        · rw [silent sameOutbox, suspendedStays _ suspended handed]
          rfl
        · by_cases own : owner = call.owner
          · have counted : reactivates owner state call = true := by
              rw [reactivates, decide_eq_true_eq, statusOf, statusOf, own, lifted, known']
              exact ⟨congrArg some suspended, rfl⟩
            rw [counted, ← events owner, reactivationsOf, told, List.countP_append, ← reactivationsOf]
            simp [isReactivationOf, own]
          · rw [status_kept state _ call owner rfl ((others owner own).trans (same owner)), ← events owner,
              reactivationsOf, told, List.countP_append, ← reactivationsOf]
            simp [isReactivationOf, Ne.symm own]

theorem run_reactivations (start : State) (calls : List Call) (owner : Uuid) :
    reactivationsOf (run callStep start calls) owner =
      reactivationsOf start owner + countAlong callStep (reactivates owner) start calls :=
  count_along_eq_counter callStep (reactivates owner) (fun _ => True) (fun _ _ => True) (fun _ _ _ _ => trivial)
    (fun state => reactivationsOf state owner) (fun state call _ _ => call_reactivations state call owner) start calls
    trivial (along_of_forall callStep _ (fun _ _ => trivial) start calls)

def IsHeld (customer : Customer) : Prop := customer.status = .suspended ∧ customer.suspensionReason = .manualHold

theorem hold_clearable (call : Call) (lifts : SuspensionReason.manualHold ∈ call.clearable) :
    call = .clearManualHold call.owner := by
  cases call with
  | resume call =>
      simp only [Call.clearable, resumeClearable, moneySuspendReasons] at lifts
      split at lifts <;> simp at lifts
  | recoverFromDurableBalance owner tenant => simp [Call.clearable, balanceSuspendReasons] at lifts
  | clearManualHold owner => rfl
  | clearPaymentFailedSuspension owner => simp [Call.clearable] at lifts

theorem held_through (owner : Uuid) (customer : Customer) (held : IsHeld customer) (state : State) (call : Call)
    (known : state.customerGet owner = some customer) (other : call ≠ .clearManualHold owner) :
    (callStep state call).customerGet owner = some customer := by
  cases reached : siteOf state call with
  | none => exact (same_accounts_customer state _ (call_step_unasked state call reached).1 owner).trans known
  | some site =>
      obtain ⟨stepped, accounts, _⟩ := call_step_site state site call reached
      have same := same_accounts_customer state site accounts
      by_cases unknown : ∀ customer tenant, site.customerGet call.owner = some customer →
          site.tenantRow customer.tenant ≠ some tenant
      · rw [stepped, unknown_left site call.owner call.clearable call.checksMoneyCauses unknown, same owner]
        exact known
      · push Not at unknown
        obtain ⟨asked, tenant, askedKnown, belongs⟩ := unknown
        obtain ⟨others, outcome⟩ := site_customer site (callStep state call) call.owner asked tenant call.clearable
          call.checksMoneyCauses askedKnown
          (stepped ▸ site_result site call.owner asked tenant call.clearable call.checksMoneyCauses askedKnown belongs)
        by_cases own : owner = call.owner
        · have sameCustomer : asked = customer := by
            rw [← own, same owner, known] at askedKnown
            exact (Option.some.inj askedKnown).symm
          rcases outcome with ⟨_, kept, _⟩ | ⟨⟨_, lifts⟩, _⟩
          · rw [own, kept, sameCustomer]
          · rw [sameCustomer, held.2] at lifts
            have release := hold_clearable call lifts
            rw [← own] at release
            exact absurd release other
        · exact (others owner own).trans ((same owner).trans known)

theorem run_held (owner : Uuid) (customer : Customer) (held : IsHeld customer) (start : State) (calls : List Call)
    (known : start.customerGet owner = some customer) (others : ∀ call ∈ calls, call ≠ .clearManualHold owner) :
    (run callStep start calls).customerGet owner = some customer :=
  run_invariant callStep (fun state => state.customerGet owner = some customer) (fun call => call ≠ .clearManualHold owner)
    (fun state call known other => held_through owner customer held state call known other) start calls known others

theorem suspension_hand_over (start : State) (calls : List Call) :
    (∀ call customer tenant, (run callStep start calls).customerGet call.owner = some customer →
      (run callStep start calls).tenantRow customer.tenant = some tenant →
      HandOver (run callStep start calls) call customer tenant) ∧
    (∀ owner customer, start.customerGet owner = some customer → IsHeld customer →
      (∀ call ∈ calls, call ≠ .clearManualHold owner) →
      (run callStep start calls).customerGet owner = some customer) ∧
    (∀ owner, reactivationsOf (run callStep start calls) owner =
      reactivationsOf start owner + countAlong callStep (reactivates owner) start calls) := by
  refine ⟨?_, ?_, ?_⟩
  · intro call customer tenant known belongs
    exact call_hand_over _ call customer tenant known belongs
  · intro owner customer known held others
    exact run_held owner customer held start calls known others
  · intro owner
    exact run_reactivations start calls owner

-- Stopped on both lines and behind on an invoice: the floor's line is lifted,
-- the pool's still holds the customer.
def twoLinesAndAFailure : State :=
  { noSignals
      { tenants := [⟨⟨"t"⟩, .prepaid, .enforcing⟩]
        customers := [⟨⟨"c"⟩, ⟨"t"⟩, .individual, none, .blank, .suspended, .hardFloor, none⟩]
        wallets := [⟨⟨"c"⟩, 5⟩]
        profiles := []
        configs := []
        usageInvoices := [⟨⟨"c"⟩, some 1, .opened⟩]
        subscriptionInvoices := [] } with
    signals :=
      [⟨⟨"t"⟩, ⟨"c"⟩, .walletPolicy, .hardFloor, .stopped, 1, none, none, 0, noOpeningFacts, none⟩,
        ⟨⟨"t"⟩, ⟨"c"⟩, .customerSpendPool, .customerSpendPool, .stopped, 1, none, none, 0, noOpeningFacts, none⟩] }

def liftTheFloor : Call := .resume ⟨⟨"c"⟩, ⟨⟨"t"⟩, .prepaid, .enforcing⟩, .hardFloor, .balanceRecovered, none, 1⟩

theorem failure_not_taken_over : ¬ ∀ (state : State) (call : Call) (customer : Customer),
    state.customerGet call.owner = some customer → customer.status = .suspended →
    customer.suspensionReason ∈ call.clearable → aPaymentFailureRemainsFor state customer.id = true →
    (callStep state call).customerGet call.owner = some (customer.handedTo .paymentFailed) := by
  intro taken
  have handed := taken twoLinesAndAFailure liftTheFloor
    ⟨⟨"c"⟩, ⟨"t"⟩, .individual, none, .blank, .suspended, .hardFloor, none⟩ (by decide) rfl (by decide) (by decide)
  revert handed
  decide

end Ubb.Gating
