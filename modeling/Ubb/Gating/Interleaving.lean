import Ubb.Gating.Suspension

set_option autoImplicit false

namespace Ubb.Gating

open Ubb.Library

-- Where a resume that has cleared its line stands: before its read of the open
-- lines, before its test of the durable balance, before its un-suspend.
inductive ResumeStage where
  | cleared
  | linesRead
  | recovered
deriving DecidableEq, Repr

structure Resuming where
  call : ClearCall
  stage : ResumeStage
deriving DecidableEq, Repr

structure World where
  gating : State
  midway : List Resuming
deriving DecidableEq, Repr

-- The operations of the lanes, a resume split into its separate steps. Each
-- step of a resume names it by its place among the ones under way.
inductive LaneOp where
  | driveStop (call : StopCall)
  | beginResume (call : ClearCall)
  | readOpenLines (place : Nat)
  | testBalance (place : Nat)
  | unsuspend (place : Nat)
  | moveWallet (customer : Uuid) (delta : Int)
  | clearManualHold (owner : Uuid)
  | clearPaymentFailedSuspension (owner : Uuid)
  | placeManualHold (owner : Uuid)
  | suspendWithCause (owner : Uuid) (reason : SuspensionReason)
  | setInvoices (usage subscription : List LocalInvoice)
deriving DecidableEq, Repr

def moveWallet (state : State) (customer : Uuid) (delta : Int) : State :=
  { state with accounts := { state.accounts with
      wallets := updateRow Wallet.customer customer
        (fun wallet => { wallet with balanceMicros := wallet.balanceMicros + delta }) state.accounts.wallets } }

-- An active customer is suspended for a cause no stop line opens: an unpaid
-- invoice, a lost dispute, an operator's hold.
def suspendWithCause (state : State) (owner : Uuid) (reason : SuspensionReason) : State :=
  match state.customerGet owner with
  | none => state
  | some customer =>
      match state.tenantRow customer.tenant with
      | none => state
      | some tenant =>
          if customer.status = .active then
            let saved := state.saveCustomer { customer with status := .suspended, suspensionReason := reason }
            match saved.announcedBalance customer.id tenant none with
            | .error _ => state
            | .ok balance => writeEvent saved (.customerSuspended customer.tenant customer.id reason balance)
          else state

def endResume (midway : List Resuming) (place : Nat) : List Resuming := midway.eraseIdx place

def atStage (world : World) (place : Nat) (stage : ResumeStage) : Option ClearCall :=
  match world.midway[place]? with
  | some resuming => if resuming.stage = stage then some resuming.call else none
  | none => none

def laneStep (world : World) : LaneOp → World
  | .driveStop call =>
      match driveStop world.gating call with
      | .error _ => world
      | .ok (next, _) => { world with gating := next }
  | .beginResume call =>
      match driveClear world.gating call with
      | .error _ => world
      | .ok (cleared, _) => ⟨cleared, world.midway ++ [⟨call, .cleared⟩]⟩
  | .readOpenLines place =>
      match atStage world place .cleared with
      | none => world
      | some call =>
          match openStopLines world.gating call.owner with
          | surviving :: _ => ⟨repointStopFlag world.gating call.owner surviving, endResume world.midway place⟩
          | [] => ⟨(clearStop world.gating call.owner).1, world.midway.set place ⟨call, .linesRead⟩⟩
  | .testBalance place =>
      match atStage world place .linesRead with
      | none => world
      | some call =>
          if resumeGate world.gating call.owner call.tenant then
            { world with midway := world.midway.set place ⟨call, .recovered⟩ }
          else { world with midway := endResume world.midway place }
  | .unsuspend place =>
      match atStage world place .recovered with
      | none => world
      | some call =>
          ⟨(maybeUnsuspend world.gating call.owner (resumeClearable call.tenant) false).1, endResume world.midway place⟩
  | .moveWallet customer delta => { world with gating := moveWallet world.gating customer delta }
  | .clearManualHold owner => { world with gating := (clearManualHold world.gating owner).1 }
  | .clearPaymentFailedSuspension owner => { world with gating := (clearPaymentFailedSuspension world.gating owner).1 }
  | .placeManualHold owner => { world with gating := suspendWithCause world.gating owner .manualHold }
  | .suspendWithCause owner reason => { world with gating := suspendWithCause world.gating owner reason }
  | .setInvoices usage subscription =>
      { world with gating := { world.gating with accounts := { world.gating.accounts with
          usageInvoices := usage, subscriptionInvoices := subscription } } }

def quietWorld (accounts : Accounts) : World := ⟨noSignals accounts, []⟩

def LaneOp.enforced : LaneOp → Bool
  | .driveStop call => enforcing call.tenant
  | .beginResume call => enforcing call.tenant
  | _ => true

def heldByAnOpenLine (state : State) (owner : Uuid) : Bool :=
  state.signals.any (fun row => row.owner = owner ∧ row.reason ∈ stopLines ∧ row.state = .stopped)

def Held (state : State) : Prop :=
  ∀ owner, heldByAnOpenLine state owner = true → statusOf state owner ≠ some .active

def AllEnforcing (state : State) : Prop := ∀ tenant ∈ state.accounts.tenants, enforcing tenant = true

-- The step that goes wrong: a resume un-suspends its owner, which the site
-- would let go, while a line that opened after its read holds the owner.
def liftsOverAnOpenLine (world : World) : LaneOp → Bool
  | .unsuspend place =>
      match atStage world place .recovered with
      | none => false
      | some call =>
          heldByAnOpenLine world.gating call.owner &&
            match world.gating.customerGet call.owner with
            | none => false
            | some customer => decide (customer.status = .suspended ∧
                customer.suspensionReason ∈ resumeClearable call.tenant ∧
                aPaymentFailureRemainsFor world.gating customer.id = false)
  | _ => false

theorem open_stop_lines_nil (state : State) (owner : Uuid) :
    openStopLines state owner = [] ↔ heldByAnOpenLine state owner = false := by
  rw [heldByAnOpenLine, List.any_eq_false, openStopLines, List.filterMap_eq_nil_iff]
  constructor
  · intro shut row member held
    obtain ⟨owned, stops, stopped⟩ := of_decide_eq_true held
    have none := List.find?_eq_none.mp (shut row.reason stops) row member
    exact none (decide_eq_true ⟨owned, rfl, stopped⟩)
  · intro shut line stops
    rw [List.find?_eq_none]
    intro row member held
    obtain ⟨owned, worded, stopped⟩ := of_decide_eq_true held
    exact shut row member (decide_eq_true ⟨owned, worded ▸ stops, stopped⟩)

theorem held_row (state : State) (owner : Uuid) (held : heldByAnOpenLine state owner = true) :
    ∃ row ∈ state.signals, row.owner = owner ∧ row.reason ∈ stopLines ∧ row.state = .stopped := by
  obtain ⟨row, member, holds⟩ := List.any_eq_true.mp held
  exact ⟨row, member, of_decide_eq_true holds⟩

theorem row_holds (state : State) (row : StopSignalState) (member : row ∈ state.signals)
    (stops : row.reason ∈ stopLines) (stopped : row.state = .stopped) : heldByAnOpenLine state row.owner = true :=
  List.any_eq_true.mpr ⟨row, member, decide_eq_true ⟨rfl, stops, stopped⟩⟩

theorem saved_row_mem (state : State) (row found : StopSignalState) (member : found ∈ (state.saveRow row).signals) :
    found ∈ state.signals ∨ found = row := by
  rcases mem_update_row StopSignalState.key row.key (fun _ => row) state.signals found member with kept | written
  · exact .inl kept.1
  · obtain ⟨_, _, _, same⟩ := written
    exact .inr same

theorem opened_rows (state opened : State) (row : StopSignalState) (owner : Uuid) (tenant : Tenant) (line : Line)
    (controlId : Option Uuid) (now : Nat) (opening : OpeningFacts)
    (won : openLine state owner tenant line controlId now opening = some (opened, row)) (found : StopSignalState)
    (member : found ∈ opened.signals) : found ∈ state.signals ∨ found = row := by
  unfold openLine at won
  split at won
  · obtain ⟨rfl, rfl⟩ := Prod.mk.inj (Option.some.inj won)
    simpa [State.logged] using member
  · split at won
    · cases won
    · obtain ⟨rfl, rfl⟩ := Prod.mk.inj (Option.some.inj won)
      exact saved_row_mem state _ found member

theorem closed_rows (state closed : State) (row : StopSignalState) (owner : Uuid) (line : Line)
    (clearReason : ClearReason) (now : Nat) (won : closeLine state owner line clearReason now = some (closed, row))
    (found : StopSignalState) (member : found ∈ closed.signals) : found ∈ state.signals ∨ found = row := by
  unfold closeLine at won
  split at won
  · cases won
  · split at won
    · obtain ⟨rfl, rfl⟩ := Prod.mk.inj (Option.some.inj won)
      exact saved_row_mem state _ found member
    · cases won

theorem clear_releases (state next : State) (call : ClearCall) (answer : Option Nat)
    (driven : driveClear state call = .ok (next, answer)) (owner : Uuid)
    (held : heldByAnOpenLine next owner = true) : heldByAnOpenLine state owner = true := by
  unfold driveClear at driven
  split at driven
  · cases driven
  · cases closes : closeLine state call.owner call.line call.clearReason call.now with
    | none =>
        simp only [closes, Except.ok.injEq, Prod.mk.injEq] at driven
        rw [driven.1]
        exact held
    | some outcome =>
        obtain ⟨closed, row⟩ := outcome
        simp only [closes] at driven
        obtain ⟨balance, _, answered⟩ := (bind_eq_ok _ _ _).mp driven
        rw [← (Prod.mk.inj (Except.ok.inj answered)).1] at held
        obtain ⟨_, _, _, _, cleared, _⟩ :=
          close_line_wrote state closed row call.owner call.line call.clearReason call.now closes
        obtain ⟨found, member, owned, stops, stopped⟩ := held_row _ owner held
        rcases saved_row_mem (writeEvent closed _) _ found member with kept | stamped
        · rcases closed_rows state closed row call.owner call.line call.clearReason call.now closes found kept with
            before | written
          · rw [← owned]
            exact row_holds state found before stops stopped
          · rw [written, cleared] at stopped
            cases stopped
        · have same : found.state = .cleared := by
            rw [stamped]
            exact cleared
          rw [same] at stopped
          cases stopped

theorem other_status (state next : State) (owner : Uuid) (same : next.customerGet owner = state.customerGet owner) :
    statusOf next owner = statusOf state owner := by
  rw [statusOf, same, ← statusOf]

theorem suspended_owner (state next : State) (owner : Customer) (call : StopCall) (enforced : enforcing call.tenant = true)
    (known : state.customerGet call.owner = some owner) (folded : suspendOwner state owner call = .ok next) :
    statusOf next call.owner ≠ some .active ∧
      ∀ other, other ≠ call.owner → next.customerGet other = state.customerGet other := by
  obtain ⟨sameId, live⟩ := live_customer state call.owner owner known
  unfold suspendOwner at folded
  split at folded
  · obtain ⟨balance, _, written⟩ := (bind_eq_ok _ _ _).mp folded
    rw [← Except.ok.inj written]
    constructor
    · have saved := saved_customer_get state call.owner owner
        { owner with status := .suspended, suspensionReason := wordOfLine call.line } known sameId live
      have quiet : ∀ (saved : State) event, statusOf (writeEvent saved event) call.owner = statusOf saved call.owner :=
        fun _ _ => rfl
      rw [quiet, statusOf, saved]
      intro active
      cases active
    · intro other different
      exact saved_other_customer state other _ (by rw [← sameId] at different; exact different)
  · rename_i inactive
    rw [← Except.ok.inj folded]
    refine ⟨?_, fun _ _ => rfl⟩
    intro active
    rw [statusOf, known] at active
    exact inactive ⟨.inr enforced, Option.some.inj active⟩

theorem drive_stop_held (state next : State) (call : StopCall) (answer : Option Nat)
    (enforced : enforcing call.tenant = true) (driven : driveStop state call = .ok (next, answer)) (held : Held state) :
    Held next ∧ next.accounts.tenants = state.accounts.tenants := by
  cases drive_stop_result state next call answer driven with
  | lost => exact ⟨held, rfl⟩
  | won holder opened announced suspended _ row known opens announces folds swept =>
      obtain ⟨written, _⟩ := open_line_wrote state opened row call.owner call.tenant call.line call.controlId call.now
        call.opening opens
      have sameAccounts : announced.accounts = state.accounts := by
        rw [announces]
        exact written.accounts
      have announcedKnown : announced.customerGet call.owner = some holder :=
        (same_accounts_customer state announced sameAccounts call.owner).trans known
      obtain ⟨inactive, others⟩ := suspended_owner announced suspended holder call enforced announcedKnown folds
      have sameSuspended : next.accounts = suspended.accounts ∧ next.signals = announced.signals := by
        rw [← (suspended_ledger announced suspended holder call folds).1, swept]
        split <;> exact ⟨rfl, rfl⟩
      have nextGet := same_accounts_customer suspended next sameSuspended.1
      constructor
      · intro owner holds
        by_cases own : owner = call.owner
        · rw [own, other_status suspended next call.owner (nextGet call.owner)]
          exact inactive
        · obtain ⟨found, member, owned, stops, stopped⟩ := held_row next owner holds
          rw [sameSuspended.2, announces] at member
          have before : found ∈ state.signals := by
            rcases saved_row_mem (writeEvent opened _) _ found member with kept | stamped
            · rcases opened_rows state opened row call.owner call.tenant call.line call.controlId call.now call.opening
                opens found kept with before | fresh
              · exact before
              · have foreign : row.owner = call.owner := (keyed_family row call.owner call.line written.keyed).1
                rw [← fresh, owned] at foreign
                exact absurd foreign own
            · have foreign : row.owner = call.owner := (keyed_family row call.owner call.line written.keyed).1
              rw [stamped] at owned
              exact absurd (owned.symm.trans foreign) own
          have same : next.customerGet owner = state.customerGet owner :=
            (nextGet owner).trans ((others owner own).trans (same_accounts_customer state announced sameAccounts owner))
          rw [other_status state next owner same]
          exact held owner (owned ▸ row_holds state found before stops stopped)
      · rw [sameSuspended.1, ← sameAccounts]
        unfold suspendOwner at folds
        split at folds
        · obtain ⟨_, _, folded⟩ := (bind_eq_ok _ _ _).mp folds
          rw [← Except.ok.inj folded]
          rfl
        · rw [← Except.ok.inj folds]

theorem site_activates (site : State) (owner : Uuid) (clearable : List SuspensionReason) (checks : Bool) :
    let next := (maybeUnsuspend site owner clearable checks).1
    next.signals = site.signals ∧ next.accounts.tenants = site.accounts.tenants ∧
      ∀ other, statusOf next other = some .active → statusOf site other = some .active ∨
        (other = owner ∧ ∃ customer tenant, site.customerGet owner = some customer ∧
          site.tenantRow customer.tenant = some tenant ∧ customer.status = .suspended ∧
          customer.suspensionReason ∈ clearable ∧ aPaymentFailureRemainsFor site customer.id = false ∧
          (checks = true → standingMoneyCause site customer tenant = none)) := by
  intro next
  by_cases unknown : ∀ customer tenant, site.customerGet owner = some customer →
      site.tenantRow customer.tenant ≠ some tenant
  · have stays : next = site := unknown_left site owner clearable checks unknown
    rw [stays]
    exact ⟨rfl, rfl, fun _ active => .inl active⟩
  · push Not at unknown
    obtain ⟨customer, tenant, known, belongs⟩ := unknown
    have result := site_result site owner customer tenant clearable checks known belongs
    have tables : ∀ reached, SiteResult site customer tenant clearable checks reached →
        reached.signals = site.signals ∧ reached.accounts.tenants = site.accounts.tenants := by
      intro reached result
      cases result <;> exact ⟨rfl, rfl⟩
    refine ⟨(tables next result).1, (tables next result).2, ?_⟩
    intro other active
    obtain ⟨others, outcome⟩ := site_customer site next owner customer tenant clearable checks known result
    by_cases own : other = owner
    · have handed : ∀ word, customer.status = .suspended → next.customerGet owner ≠ some (customer.handedTo word) := by
        intro word suspended taken
        have kept : (customer.handedTo word).status = .suspended := suspended
        rw [own, statusOf, taken, Option.map_some, kept] at active
        cases active
      rcases outcome with ⟨_, kept, _⟩ |
        ⟨⟨suspended, lifts⟩, ⟨_, taken, _⟩ | ⟨settled, ⟨cause, _, _, taken, _⟩ | ⟨clear, _⟩⟩⟩
      · rw [own, statusOf, kept, ← known, ← statusOf, ← own] at active
        exact .inl active
      · exact absurd taken (handed _ suspended)
      · exact absurd taken (handed _ suspended)
      · exact .inr ⟨own, customer, tenant, known, belongs, suspended, lifts, settled, clear⟩
    · rw [other_status site next other (others other own)] at active
      exact .inl active

theorem same_signals_held (state next : State) (same : next.signals = state.signals) (owner : Uuid) :
    heldByAnOpenLine next owner = heldByAnOpenLine state owner := by
  rw [heldByAnOpenLine, same, ← heldByAnOpenLine]

theorem checking_clear_held (state : State) (owner : Uuid) (clearable : List SuspensionReason)
    (enforced : AllEnforcing state) (held : Held state) :
    Held (maybeUnsuspend state owner clearable true).1 := by
  obtain ⟨signals, _, activates⟩ := site_activates state owner clearable true
  intro other holds active
  rw [same_signals_held state _ signals] at holds
  rcases activates other active with before | ⟨own, customer, tenant, known, belongs, _, _, _, clear⟩
  · exact held other holds before
  · have member : tenant ∈ state.accounts.tenants := List.mem_of_find?_eq_some belongs
    have sameId := (live_customer state owner customer known).1
    have opens : openStopLines state customer.id ≠ [] := by
      intro shut
      rw [open_stop_lines_nil, sameId, ← own, holds] at shut
      cases shut
    have none := clear rfl
    rw [standingMoneyCause, if_pos (enforced tenant member)] at none
    cases lines : openStopLines state customer.id with
    | nil => exact opens lines
    | cons surviving rest =>
        rw [lines] at none
        cases none

theorem suspend_with_cause_held (state : State) (owner : Uuid) (reason : SuspensionReason) (held : Held state) :
    Held (suspendWithCause state owner reason) ∧
      (suspendWithCause state owner reason).accounts.tenants = state.accounts.tenants := by
  unfold suspendWithCause
  cases known : state.customerGet owner with
  | none => exact ⟨held, rfl⟩
  | some customer =>
      cases belongs : state.tenantRow customer.tenant with
      | none =>
          simp only [belongs]
          exact ⟨held, trivial⟩
      | some tenant =>
          simp only [belongs]
          split
          · split
            · exact ⟨held, rfl⟩
            · refine ⟨?_, rfl⟩
              obtain ⟨sameId, live⟩ := live_customer state owner customer known
              intro other holds active
              by_cases own : other = owner
              · have saved := saved_customer_get state owner customer
                  { customer with status := .suspended, suspensionReason := reason } known sameId live
                have quiet : ∀ (saved : State) event, statusOf (writeEvent saved event) owner = statusOf saved owner :=
                  fun _ _ => rfl
                rw [own, quiet, statusOf, saved] at active
                cases active
              · have same := saved_other_customer state other
                  { customer with status := .suspended, suspensionReason := reason } (by rw [← sameId] at own; exact own)
                have before : statusOf state other = some .active := by
                  rw [statusOf, ← same]
                  exact active
                exact held other holds before
          · exact ⟨held, rfl⟩

def Guarded (world : World) : Prop := AllEnforcing world.gating ∧ Held world.gating

theorem quiet_world_guarded (accounts : Accounts) (enforced : ∀ tenant ∈ accounts.tenants, enforcing tenant = true) :
    Guarded (quietWorld accounts) := by
  refine ⟨enforced, ?_⟩
  intro owner holds
  cases holds

theorem at_stage_unsuspend (world : World) (place : Nat) (call : ClearCall)
    (found : atStage world place .recovered = some call) (guarded : Guarded world)
    (steps : liftsOverAnOpenLine world (.unsuspend place) = false) :
    Held (maybeUnsuspend world.gating call.owner (resumeClearable call.tenant) false).1 := by
  obtain ⟨signals, _, activates⟩ := site_activates world.gating call.owner (resumeClearable call.tenant) false
  intro other holds active
  rw [same_signals_held world.gating _ signals] at holds
  rcases activates other active with before | ⟨own, customer, tenant, known, _, suspended, lifts, settled, _⟩
  · exact guarded.2 other holds before
  · rw [own] at holds
    simp [liftsOverAnOpenLine, found, holds, known, suspended, lifts, settled] at steps

theorem lane_step_guarded (world : World) (op : LaneOp) (guarded : Guarded world) (enforced : op.enforced = true)
    (steps : liftsOverAnOpenLine world op = false) : Guarded (laneStep world op) := by
  cases op with
  | driveStop call =>
      simp only [laneStep]
      cases driven : driveStop world.gating call with
      | error refusal => exact guarded
      | ok outcome =>
          have kept := drive_stop_held world.gating outcome.1 call outcome.2 enforced driven guarded.2
          exact ⟨fun tenant member => guarded.1 tenant (kept.2 ▸ member), kept.1⟩
  | beginResume call =>
      simp only [laneStep]
      cases driven : driveClear world.gating call with
      | error refusal => exact guarded
      | ok outcome =>
          have quiet := (drive_clear_quiet world.gating outcome.1 call outcome.2 driven).1
          refine ⟨fun tenant member => guarded.1 tenant (by rw [← quiet]; exact member), ?_⟩
          intro owner holds
          rw [other_status world.gating outcome.1 owner (same_accounts_customer world.gating outcome.1 quiet owner)]
          exact guarded.2 owner (clear_releases world.gating outcome.1 call outcome.2 driven owner holds)
  | readOpenLines place =>
      simp only [laneStep]
      split
      · exact guarded
      · split <;> exact guarded
  | testBalance place =>
      simp only [laneStep]
      split
      · exact guarded
      · split <;> exact guarded
  | unsuspend place =>
      cases found : atStage world place .recovered with
      | none =>
          simp only [laneStep, found]
          exact guarded
      | some call =>
          simp only [laneStep, found]
          have tenants := (site_activates world.gating call.owner (resumeClearable call.tenant) false).2.1
          exact ⟨fun tenant member => guarded.1 tenant (tenants ▸ member),
            at_stage_unsuspend world place call found guarded steps⟩
  | moveWallet customer delta => exact guarded
  | clearManualHold owner =>
      have tenants := (site_activates world.gating owner [.manualHold] true).2.1
      exact ⟨fun tenant member => guarded.1 tenant (tenants ▸ member),
        checking_clear_held world.gating owner [.manualHold] guarded.1 guarded.2⟩
  | clearPaymentFailedSuspension owner =>
      have tenants := (site_activates world.gating owner [.paymentFailed] true).2.1
      exact ⟨fun tenant member => guarded.1 tenant (tenants ▸ member),
        checking_clear_held world.gating owner [.paymentFailed] guarded.1 guarded.2⟩
  | placeManualHold owner =>
      have kept := suspend_with_cause_held world.gating owner .manualHold guarded.2
      exact ⟨fun tenant member => guarded.1 tenant (kept.2 ▸ member), kept.1⟩
  | suspendWithCause owner reason =>
      have kept := suspend_with_cause_held world.gating owner reason guarded.2
      exact ⟨fun tenant member => guarded.1 tenant (kept.2 ▸ member), kept.1⟩
  | setInvoices usage subscription => exact guarded

theorem held_customer_not_active (accounts : Accounts) (ops reached : List LaneOp)
    (enforced : ∀ tenant ∈ accounts.tenants, enforcing tenant = true) (calls : ∀ op ∈ ops, op.enforced = true)
    (steps : Along laneStep (fun world op => liftsOverAnOpenLine world op = false) (quietWorld accounts) ops)
    (stage : reached <+: ops) : Held (run laneStep (quietWorld accounts) reached).gating := by
  have both := along_admitted laneStep (fun op => op.enforced = true) _ (quietWorld accounts) ops calls steps
  have kept : Guarded (run laneStep (quietWorld accounts) reached) :=
    along_invariant_throughout laneStep Guarded
      (fun world op => op.enforced = true ∧ liftsOverAnOpenLine world op = false)
      (fun world op guarded holds => lane_step_guarded world op guarded holds.1 holds.2)
      (quietWorld accounts) ops reached (quiet_world_guarded accounts enforced) both stage
  exact kept.2

def enforcedTenant : Tenant := ⟨⟨"t"⟩, .prepaid, .enforcing⟩

def oneCustomer : Accounts :=
  { tenants := [enforcedTenant]
    customers := [⟨⟨"c"⟩, ⟨"t"⟩, .individual, none, .blank, .active, .manualHold, none⟩]
    wallets := [⟨⟨"c"⟩, 5⟩]
    profiles := []
    configs := []
    usageInvoices := []
    subscriptionInvoices := [] }

def stopOn (line : Line) : LaneOp := .driveStop ⟨⟨"c"⟩, enforcedTenant, line, none, noOpeningFacts, none, 0⟩

def liftOf (line : Line) : LaneOp := .beginResume ⟨⟨"c"⟩, enforcedTenant, line, .balanceRecovered, none, 1⟩

-- The floor's lift reads the open lines, the pool's stop opens its line on an
-- owner still suspended, and the lift goes through.
def stopInBetween : List LaneOp :=
  [stopOn .hardFloor, liftOf .hardFloor, .readOpenLines 0, stopOn .customerSpendPool, .testBalance 0, .unsuspend 0]

theorem stop_in_between_overridden : ¬ ∀ (accounts : Accounts) (ops : List LaneOp),
    (∀ tenant ∈ accounts.tenants, enforcing tenant = true) → (∀ op ∈ ops, op.enforced = true) →
    (run laneStep (quietWorld accounts) ops).midway = [] →
    Held (run laneStep (quietWorld accounts) ops).gating := by
  intro always
  have held := always oneCustomer stopInBetween (by decide) (by decide) (by decide)
  exact held ⟨"c"⟩ (by decide) (by decide)

theorem stop_before_the_read : Held (run laneStep (quietWorld oneCustomer)
    [stopOn .hardFloor, stopOn .customerSpendPool, liftOf .hardFloor, .readOpenLines 0]).gating :=
  held_customer_not_active oneCustomer
    [stopOn .hardFloor, stopOn .customerSpendPool, liftOf .hardFloor, .readOpenLines 0]
    [stopOn .hardFloor, stopOn .customerSpendPool, liftOf .hardFloor, .readOpenLines 0]
    (by decide) (by decide) (by decide) (List.prefix_refl _)

theorem lift_over_an_open_line (world : World) (place : Nat) (call : ClearCall) (customer : Customer) (tenant : Tenant)
    (found : atStage world place .recovered = some call)
    (known : world.gating.customerGet call.owner = some customer)
    (belongs : world.gating.tenantRow customer.tenant = some tenant)
    (steps : liftsOverAnOpenLine world (.unsuspend place) = true) :
    heldByAnOpenLine (laneStep world (.unsuspend place)).gating call.owner = true ∧
      statusOf (laneStep world (.unsuspend place)).gating call.owner = some .active := by
  simp only [liftsOverAnOpenLine, found, known, Bool.and_eq_true, decide_eq_true_eq] at steps
  obtain ⟨holds, suspended, lifts, settled⟩ := steps
  have result := site_result world.gating call.owner customer tenant (resumeClearable call.tenant) false known belongs
  have signals := (site_activates world.gating call.owner (resumeClearable call.tenant) false).1
  simp only [laneStep, found]
  refine ⟨(same_signals_held world.gating _ signals call.owner).trans holds, ?_⟩
  obtain ⟨_, outcome⟩ := site_customer world.gating _ call.owner customer tenant _ false known result
  rcases outcome with ⟨outside, _⟩ | ⟨_, ⟨failure, _⟩ | ⟨_, ⟨_, asked, _⟩ | ⟨_, lifted, _⟩⟩⟩
  · exact absurd ⟨suspended, lifts⟩ outside
  · rw [failure] at settled
    cases settled
  · cases asked
  · rw [statusOf, lifted]
    rfl

end Ubb.Gating
