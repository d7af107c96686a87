import Ubb.Core.Uuid
import Ubb.Library.KeyedRows
import Ubb.Library.Runs
import Ubb.Wallets.Operations
import Ubb.Work.Model

set_option autoImplicit false

-- One prepaid wallet and what the units started against it have reserved: the
-- locked decision of a start, and the releases that take no lock.
namespace Ubb.Wallets.Reservations

open Ubb.Library
open Ubb.Work

inductive ReleasedBy where
  | terminalTransition
  | backstopSweep
deriving DecidableEq, Repr

structure Release where
  releasedAt : Int
  releasedBy : ReleasedBy
deriving DecidableEq, Repr

-- One row per unit of work, open while it names no release.
structure WalletReservation where
  task : Uuid
  amountMicros : Nat
  release : Option Release
deriving DecidableEq, Repr

structure Task where
  id : Uuid
  status : TaskStatus
deriving DecidableEq, Repr

structure Floors where
  minBalanceMicros : Option Int
  softMinBalanceMicros : Option Int
deriving DecidableEq, Repr

def noFloors : Floors := ⟨none, none⟩

inductive AffordabilityReason where
  | insufficientFunds
  | softFloorReached
deriving DecidableEq, Repr

structure Verdict where
  allowed : Bool
  reason : Option AffordabilityReason
  balanceMicros : Option Int
  availableMicros : Option Int
  minBalanceMicros : Option Int
  softMinBalanceMicros : Option Int
deriving DecidableEq, Repr

def verdict (reason : Option AffordabilityReason) (balance available : Option Int) (floors : Floors) : Verdict where
  allowed := reason.isNone
  reason := reason
  balanceMicros := balance
  availableMicros := available
  minBalanceMicros := floors.minBalanceMicros
  softMinBalanceMicros := floors.softMinBalanceMicros

structure Policy where
  enforcing : Bool
  minBalanceMicros : Int
  softMinBalanceMicros : Option Int
deriving DecidableEq, Repr

def floorsFor (policy : Policy) (parent : Option Uuid) : Floors where
  minBalanceMicros := some policy.minBalanceMicros
  softMinBalanceMicros := if parent = none ∧ policy.enforcing then policy.softMinBalanceMicros else none

def floorRefusal (available : Int) (floors : Floors) : Option AffordabilityReason :=
  if floors.minBalanceMicros = none then none
  else if pastFloor available floors.minBalanceMicros then some .insufficientFunds
  else if pastFloor available floors.softMinBalanceMicros then some .softFloorReached
  else none

def openReservationsMicros (rows : List WalletReservation) : Int :=
  (rows.map (fun row => if row.release = none then (row.amountMicros : Int) else 0)).sum

def reserveAgreedPrice (holdsAWallet : Bool) (price : Option Nat) (balance reserved : Int) (floors : Floors) : Verdict :=
  match holdsAWallet, price with
  | true, some price =>
      let available := balance - reserved
      verdict (floorRefusal (available - price) floors) (some balance) (some available) floors
  | _, _ => verdict none none none noFloors

-- A start that holds the owner's billing lock: the balance it read with the
-- lock, and the open reservations once it has summed them.
structure Start where
  task : Uuid
  parent : Option Uuid
  price : Nat
  balance : Int
  reserved : Option Int
deriving DecidableEq, Repr

-- A sweep is the list of rows it found, still to be updated.
structure State where
  clock : Int
  policy : Policy
  balance : Int
  units : List Task
  reservations : List WalletReservation
  starting : Option Start
  sweeps : List (List Uuid)
deriving DecidableEq, Repr

def State.unit (state : State) (id : Uuid) : Option Task := state.units.find? (fun unit => unit.id = id)

def State.terminal (state : State) (id : Uuid) : Prop := ∃ unit ∈ state.units, unit.id = id ∧ unit.status.terminal = true

instance (state : State) (id : Uuid) : Decidable (state.terminal id) := by
  unfold State.terminal
  infer_instance

-- _release: one UPDATE that a released row no longer matches.
def releaseRow (names : Uuid → Bool) (release : Release) (row : WalletReservation) : WalletReservation :=
  if names row.task ∧ row.release = none then { row with release := some release } else row

def State.release (state : State) (names : Uuid → Bool) (releasedBy : ReleasedBy) : State :=
  { state with reservations := state.reservations.map (releaseRow names ⟨state.clock, releasedBy⟩) }

def releaseOnTerminalTransition (task : Uuid) (state : State) : State :=
  state.release (fun other => other = task) .terminalTransition

def sweepCandidates (state : State) : List Uuid :=
  (state.reservations.filter (fun row => row.release = none ∧ state.terminal row.task)).map WalletReservation.task

def Task.to (status : TaskStatus) (unit : Task) : Task := { unit with status := status }

inductive Event where
  | tick (now : Int)
  | setPolicy (policy : Policy)
  | move (amount : Int)
  | start (task : Uuid) (parent : Option Uuid) (price : Option Nat)
  | sumReservations
  | decide
  | abort
  | finish (task : Uuid) (status : TaskStatus) (heard : Bool)
  | releaseAgain (task : Uuid)
  | sweepRead
  | sweepUpdate (sweep : Nat)
deriving DecidableEq, Repr

def admitStart (start : Start) (state : State) : State :=
  { state with
    starting := none
    units := state.units ++ [⟨start.task, .active⟩]
    reservations := state.reservations ++ [⟨start.task, start.price, none⟩] }

-- The unit's row and its reservation are one transaction: a refusal writes
-- neither.
def decideStart (start : Start) (reserved : Int) (state : State) : State :=
  let answer := reserveAgreedPrice true (some start.price) start.balance reserved (floorsFor state.policy start.parent)
  if answer.allowed ∧ state.unit start.task = none then admitStart start state else { state with starting := none }

-- Credits, debits and starts of priced work wait for the billing lock. A
-- listener that fails leaves the transition standing.
def step (state : State) : Event → State
  | .tick now => { state with clock := now }
  | .setPolicy policy => { state with policy := policy }
  | .move amount => if state.starting.isSome then state else { state with balance := state.balance + amount }
  | .start task parent price =>
      match price with
      | none =>
          if (state.unit task).isSome then state else { state with units := state.units ++ [⟨task, .active⟩] }
      | some price =>
          if state.starting.isSome then state
          else { state with starting := some ⟨task, parent, price, state.balance, none⟩ }
  | .sumReservations =>
      match state.starting with
      | some ⟨task, parent, price, balance, none⟩ =>
          { state with starting := some ⟨task, parent, price, balance, some (openReservationsMicros state.reservations)⟩ }
      | _ => state
  | .decide =>
      match state.starting with
      | some ⟨task, parent, price, balance, some reserved⟩ =>
          decideStart ⟨task, parent, price, balance, some reserved⟩ reserved state
      | _ => state
  | .abort => { state with starting := none }
  | .finish task status heard =>
      match state.unit task with
      | some ⟨_, .active⟩ =>
          if status.terminal then
            let finished := { state with units := updateRow Task.id task (Task.to status) state.units }
            if heard then releaseOnTerminalTransition task finished else finished
          else state
      | _ => state
  | .releaseAgain task => if state.terminal task then releaseOnTerminalTransition task state else state
  | .sweepRead => { state with sweeps := state.sweeps ++ [sweepCandidates state] }
  | .sweepUpdate sweep =>
      match state.sweeps[sweep]? with
      | some candidates => state.release (fun task => task ∈ candidates) .backstopSweep
      | none => state

def newWallet (clock : Int) (policy : Policy) (balance : Int) : State := ⟨clock, policy, balance, [], [], none, []⟩

theorem release_nothing (release : Release) (rows : List WalletReservation) :
    rows.map (releaseRow (fun _ => false) release) = rows := by
  conv_rhs => rw [← List.map_id rows]
  apply List.map_congr_left
  intro row _
  simp [releaseRow]

theorem decide_start_cases (start : Start) (reserved : Int) (state : State) :
    decideStart start reserved state = { state with starting := none } ∨
      (pastFloor (start.balance - reserved - start.price) (some state.policy.minBalanceMicros) = false ∧
        state.unit start.task = none ∧ decideStart start reserved state = admitStart start state) := by
  simp only [decideStart]
  split
  · rename_i passed
    refine .inr ⟨?_, passed.2, rfl⟩
    have allowed : (floorRefusal (start.balance - reserved - start.price) (floorsFor state.policy start.parent)).isNone =
        true := passed.1
    cases past : pastFloor (start.balance - reserved - start.price) (some state.policy.minBalanceMicros) with
    | false => rfl
    | true => simp [floorRefusal, floorsFor, past] at allowed
  · exact .inl rfl

theorem step_rows (state : State) (event : Event) :
    (∃ names release, (step state event).reservations = state.reservations.map (releaseRow names release)) ∨
      ∃ start reserved, event = .decide ∧ state.starting = some start ∧ start.reserved = some reserved ∧
        pastFloor (start.balance - reserved - start.price) (some state.policy.minBalanceMicros) = false ∧
        state.unit start.task = none ∧ step state event = admitStart start state := by
  have quiet : ∀ after : State, after.reservations = state.reservations →
      ∃ names release, after.reservations = state.reservations.map (releaseRow names release) :=
    fun after same => ⟨fun _ => false, ⟨0, .backstopSweep⟩, by rw [release_nothing, same]⟩
  cases event with
  | decide =>
    rw [step]
    split
    · rename_i task parent price balance reserved locked
      rcases decide_start_cases ⟨task, parent, price, balance, some reserved⟩ reserved state with refused | ⟨above, fresh, admitted⟩
      · exact .inl (quiet _ (by rw [refused]))
      · exact .inr ⟨_, reserved, rfl, locked, rfl, above, fresh, admitted⟩
    · exact .inl (quiet _ rfl)
  | finish task status heard =>
    refine .inl ?_
    rw [step]
    split
    · split
      · split
        · exact ⟨fun other => other = task, _, rfl⟩
        · exact quiet _ rfl
      · exact quiet _ rfl
    · exact quiet _ rfl
  | releaseAgain task =>
    refine .inl ?_
    rw [step]
    split
    · exact ⟨fun other => other = task, _, rfl⟩
    · exact quiet _ rfl
  | sweepUpdate sweep =>
    refine .inl ?_
    rw [step]
    split
    · rename_i candidates found
      exact ⟨fun task => task ∈ candidates, _, rfl⟩
    · exact quiet _ rfl
  | tick now => exact .inl (quiet _ rfl)
  | setPolicy policy => exact .inl (quiet _ rfl)
  | move amount => exact .inl (quiet _ (by rw [step]; split <;> rfl))
  | start task parent price =>
    refine .inl (quiet _ ?_)
    cases price with
    | none => rw [step]; split <;> rfl
    | some price => rw [step]; split <;> rfl
  | sumReservations => exact .inl (quiet _ (by rw [step]; split <;> rfl))
  | abort => exact .inl (quiet _ rfl)
  | sweepRead => exact .inl (quiet _ rfl)

theorem step_units (state : State) (event : Event) :
    (step state event).units.map Task.id = state.units.map Task.id ∨
      ∃ id, state.unit id = none ∧ (step state event).units.map Task.id = state.units.map Task.id ++ [id] := by
  cases event with
  | decide =>
    rw [step]
    split
    · rename_i task parent price balance reserved locked
      rcases decide_start_cases ⟨task, parent, price, balance, some reserved⟩ reserved state with refused | ⟨_, fresh, admitted⟩
      · exact .inl (by rw [refused])
      · refine .inr ⟨task, fresh, ?_⟩
        rw [admitted, admitStart, List.map_append]
        rfl
    · exact .inl rfl
  | finish task status heard =>
    refine .inl ?_
    have kept := update_row_map Task.id task (Task.to status) state.units Task.id (fun _ => rfl)
    rw [step]
    split
    · split
      · split
        · exact kept
        · exact kept
      · rfl
    · rfl
  | start task parent price =>
    cases price with
    | none =>
      rw [step]
      split
      · exact .inl rfl
      · rename_i missing
        refine .inr ⟨task, by simpa using missing, ?_⟩
        rw [List.map_append]
        rfl
    | some price => exact .inl (by rw [step]; split <;> rfl)
  | releaseAgain task => exact .inl (by rw [step]; split <;> rfl)
  | sweepUpdate sweep => exact .inl (by rw [step]; split <;> rfl)
  | tick now => exact .inl rfl
  | setPolicy policy => exact .inl rfl
  | move amount => exact .inl (by rw [step]; split <;> rfl)
  | sumReservations => exact .inl (by rw [step]; split <;> rfl)
  | abort => exact .inl rfl
  | sweepRead => exact .inl rfl

theorem step_sweeps (state : State) (event : Event) :
    (step state event).sweeps = if event = .sweepRead then state.sweeps ++ [sweepCandidates state] else state.sweeps := by
  cases event with
  | decide =>
    rw [step]
    split
    · rename_i task parent price balance reserved locked
      rcases decide_start_cases ⟨task, parent, price, balance, some reserved⟩ reserved state with refused | ⟨_, _, admitted⟩
      · rw [refused]
        rfl
      · rw [admitted]
        rfl
    · rfl
  | finish task status heard =>
    rw [step]
    split
    · split
      · split <;> rfl
      · rfl
    · rfl
  | start task parent price =>
    cases price with
    | none => rw [step]; split <;> rfl
    | some price => rw [step]; split <;> rfl
  | releaseAgain task => rw [step]; split <;> rfl
  | sweepUpdate sweep => rw [step]; split <;> rfl
  | move amount => rw [step]; split <;> rfl
  | sumReservations => rw [step]; split <;> rfl
  | _ => rfl

theorem release_row_task (names : Uuid → Bool) (release : Release) (row : WalletReservation) :
    (releaseRow names release row).task = row.task := by
  unfold releaseRow
  split <;> rfl

theorem released_tasks (names : Uuid → Bool) (release : Release) (rows : List WalletReservation) :
    (rows.map (releaseRow names release)).map WalletReservation.task = rows.map WalletReservation.task := by
  rw [List.map_map]
  exact List.map_congr_left (fun row _ => release_row_task names release row)

theorem release_row_open (names : Uuid → Bool) (release : Release) (row : WalletReservation)
    (isOpen : (releaseRow names release row).release = none) :
    releaseRow names release row = row ∧ names row.task = false := by
  unfold releaseRow at isOpen ⊢
  split at isOpen
  · cases isOpen
  · rename_i missed
    rw [if_neg missed]
    refine ⟨rfl, ?_⟩
    cases named : names row.task with
    | false => rfl
    | true => exact absurd ⟨named, isOpen⟩ missed

theorem release_row_released (names : Uuid → Bool) (release : Release) (row : WalletReservation)
    (released : row.release ≠ none) : releaseRow names release row = row := by
  unfold releaseRow
  exact if_neg (fun both => released both.2)

theorem released_open_le (names : Uuid → Bool) (release : Release) (rows : List WalletReservation) :
    openReservationsMicros (rows.map (releaseRow names release)) ≤ openReservationsMicros rows := by
  unfold openReservationsMicros
  rw [List.map_map]
  apply List.sum_le_sum
  intro row _
  simp only [Function.comp_apply, releaseRow]
  split
  · split
    · rename_i unnamed
      cases unnamed
    · split
      · exact Int.natCast_nonneg _
      · exact le_refl _
  · exact le_refl _

theorem unit_missing (state : State) (id : Uuid) (missing : state.unit id = none) : id ∉ state.units.map Task.id := by
  intro listed
  obtain ⟨unit, member, named⟩ := List.mem_map.mp listed
  exact find_key_none Task.id id state.units missing unit member named

structure Tabled (state : State) : Prop where
  tasks : (state.reservations.map WalletReservation.task).Nodup
  units : ∀ row ∈ state.reservations, row.task ∈ state.units.map Task.id

theorem units_grow (state : State) (event : Event) (id : Uuid) (known : id ∈ state.units.map Task.id) :
    id ∈ (step state event).units.map Task.id := by
  rcases step_units state event with same | ⟨new, _, grown⟩
  · rwa [same]
  · rw [grown]
    exact List.mem_append_left _ known

theorem step_tabled (state : State) (event : Event) (tabled : Tabled state) : Tabled (step state event) := by
  rcases step_rows state event with ⟨names, release, rows⟩ | ⟨start, reserved, _, _, _, _, fresh, admitted⟩
  · refine ⟨?_, ?_⟩
    · rw [rows, released_tasks]
      exact tabled.tasks
    · intro row member
      rw [rows] at member
      obtain ⟨before, stored, rfl⟩ := List.mem_map.mp member
      rw [release_row_task]
      exact units_grow state event _ (tabled.units before stored)
  · rw [admitted]
    refine ⟨?_, ?_⟩
    · apply nodup_add_row WalletReservation.task state.reservations _ tabled.tasks
      intro row member named
      have known := tabled.units row member
      rw [named] at known
      exact unit_missing state start.task fresh known
    · intro row member
      show row.task ∈ (state.units ++ [(⟨start.task, .active⟩ : Task)]).map Task.id
      rw [List.map_append]
      rcases List.mem_append.mp member with old | new
      · exact List.mem_append_left _ (tabled.units row old)
      · cases List.mem_singleton.mp new
        exact List.mem_append_right _ List.mem_cons_self

structure Since (origin state : State) : Prop where
  units : ∀ id ∈ origin.units.map Task.id, id ∈ state.units.map Task.id
  sweeps : origin.sweeps <+: state.sweeps
  released : ∀ row ∈ origin.reservations, row.release ≠ none → row ∈ state.reservations
  stillOpen : ∀ row ∈ state.reservations, row.release = none → row.task ∈ origin.units.map Task.id → row ∈ origin.reservations

theorem since_refl (state : State) : Since state state :=
  ⟨fun _ known => known, List.prefix_rfl, fun _ member _ => member, fun _ member _ _ => member⟩

theorem since_step (origin state : State) (event : Event) (since : Since origin state) :
    Since origin (step state event) := by
  have sweeps : origin.sweeps <+: (step state event).sweeps := by
    rw [step_sweeps]
    split
    · exact since.sweeps.trans (List.prefix_append _ _)
    · exact since.sweeps
  have units : ∀ id ∈ origin.units.map Task.id, id ∈ (step state event).units.map Task.id :=
    fun id known => units_grow state event id (since.units id known)
  rcases step_rows state event with ⟨names, release, rows⟩ | ⟨start, reserved, _, _, _, _, fresh, admitted⟩
  · refine ⟨units, sweeps, ?_, ?_⟩
    · intro row member released
      rw [rows]
      exact List.mem_map.mpr ⟨row, since.released row member released, release_row_released names release row released⟩
    · intro row member isOpen known
      rw [rows] at member
      obtain ⟨before, stored, rfl⟩ := List.mem_map.mp member
      obtain ⟨same, _⟩ := release_row_open names release before isOpen
      rw [same] at isOpen known ⊢
      exact since.stillOpen before stored isOpen known
  · refine ⟨units, sweeps, ?_, ?_⟩
    · intro row member released
      rw [admitted]
      exact List.mem_append_left _ (since.released row member released)
    · intro row member isOpen known
      rw [admitted] at member
      rcases List.mem_append.mp member with old | new
      · exact since.stillOpen row old isOpen known
      · cases List.mem_singleton.mp new
        exact absurd (since.units _ known) (unit_missing state start.task fresh)

theorem since_run (origin : State) (events : List Event) : Since origin (run step origin events) :=
  run_relation step Since since_refl since_step origin events

-- The lock keeps the balance still, and a release can only lower the sum.
def LockHeld (state : State) : Prop :=
  ∀ start, state.starting = some start →
    start.balance = state.balance ∧
      ∀ reserved, start.reserved = some reserved → openReservationsMicros state.reservations ≤ reserved

theorem release_lock_held (state after : State) (held : LockHeld state) (names : Uuid → Bool) (release : Release)
    (starting : after.starting = state.starting) (balance : after.balance = state.balance)
    (rows : after.reservations = state.reservations.map (releaseRow names release)) : LockHeld after := by
  intro start locked
  obtain ⟨same, summed⟩ := held start (starting ▸ locked)
  refine ⟨same.trans balance.symm, ?_⟩
  intro reserved stored
  have before := summed reserved stored
  have lowered := released_open_le names release state.reservations
  rw [rows]
  omega

theorem step_lock_held (state : State) (event : Event) (held : LockHeld state) : LockHeld (step state event) := by
  cases event with
  | tick now => exact held
  | setPolicy policy => exact held
  | sweepRead => exact held
  | move amount =>
    rw [step]
    split
    · exact held
    · rename_i free
      intro start locked
      exact absurd (Option.isSome_of_eq_some locked) free
  | start task parent price =>
    cases price with
    | none => rw [step]; split <;> exact held
    | some price =>
      rw [step]
      split
      · exact held
      · intro start locked
        cases locked
        exact ⟨rfl, fun _ stored => nomatch stored⟩
  | sumReservations =>
    rw [step]
    split
    · rename_i task parent price balance locked
      intro start summed
      cases summed
      refine ⟨(held _ locked).1, ?_⟩
      intro reserved stored
      cases stored
      exact le_refl _
    · exact held
  | decide =>
    rw [step]
    split
    · rename_i task parent price balance reserved locked
      intro start still
      rcases decide_start_cases ⟨task, parent, price, balance, some reserved⟩ reserved state with refused | ⟨_, _, admitted⟩
      · rw [refused] at still
        cases still
      · rw [admitted] at still
        cases still
    · exact held
  | abort => exact fun _ locked => nomatch locked
  | finish task status heard =>
    rw [step]
    split
    · split
      · split
        · exact release_lock_held state _ held _ _ rfl rfl rfl
        · exact held
      · exact held
    · exact held
  | releaseAgain task =>
    rw [step]
    split
    · exact release_lock_held state _ held _ _ rfl rfl rfl
    · exact held
  | sweepUpdate sweep =>
    rw [step]
    split
    · exact release_lock_held state _ held _ _ rfl rfl rfl
    · exact held

def Admits (state : State) (event : Event) (row : WalletReservation) : Prop :=
  row ∈ (step state event).reservations ∧ row.task ∉ state.reservations.map WalletReservation.task

def AboveFloor (state : State) (available : Int) : Prop := pastFloor available (some state.policy.minBalanceMicros) = false

def Covered (state : State) : Prop := AboveFloor state (state.balance - openReservationsMicros state.reservations)

def NoDebit (state : State) : Event → Prop
  | .move amount => 0 ≤ amount
  | .setPolicy policy => state.policy.minBalanceMicros ≤ policy.minBalanceMicros
  | _ => True

theorem above_floor_iff (state : State) (available : Int) :
    AboveFloor state available ↔ -state.policy.minBalanceMicros ≤ available := by
  simp [AboveFloor, pastFloor]

theorem admits_start (state : State) (event : Event) (row : WalletReservation) (admits : Admits state event row) :
    ∃ start reserved, state.starting = some start ∧ start.reserved = some reserved ∧
      AboveFloor state (start.balance - reserved - start.price) ∧ row = ⟨start.task, start.price, none⟩ ∧
      step state event = admitStart start state := by
  obtain ⟨member, absent⟩ := admits
  rcases step_rows state event with ⟨names, release, rows⟩ | ⟨start, reserved, _, locked, summed, above, _, admitted⟩
  · exfalso
    apply absent
    rw [← released_tasks names release state.reservations, ← rows]
    exact List.mem_map_of_mem member
  · refine ⟨start, reserved, locked, summed, above, ?_, admitted⟩
    rw [admitted] at member
    rcases List.mem_append.mp member with old | new
    · exact absurd (List.mem_map_of_mem old) absent
    · exact List.mem_singleton.mp new

theorem admitted_above_floor (state : State) (held : LockHeld state) (event : Event) (row : WalletReservation)
    (admits : Admits state event row) :
    AboveFloor state (state.balance - openReservationsMicros state.reservations - row.amountMicros) := by
  obtain ⟨start, reserved, locked, summed, above, rfl, _⟩ := admits_start state event row admits
  obtain ⟨same, most⟩ := held start locked
  have read := most reserved summed
  rw [above_floor_iff] at above ⊢
  show -state.policy.minBalanceMicros ≤ state.balance - openReservationsMicros state.reservations - (start.price : Int)
  omega

theorem admit_covered (start : Start) (state : State)
    (above : AboveFloor state (state.balance - openReservationsMicros state.reservations - start.price)) :
    Covered (admitStart start state) := by
  have grown : openReservationsMicros (admitStart start state).reservations =
      openReservationsMicros state.reservations + start.price := by
    simp [openReservationsMicros, admitStart]
  unfold Covered
  rw [above_floor_iff, grown]
  rw [above_floor_iff] at above
  show -state.policy.minBalanceMicros ≤ state.balance - (openReservationsMicros state.reservations + start.price)
  omega

theorem step_headroom (state : State) (event : Event) (spared : NoDebit state event) :
    state.balance + state.policy.minBalanceMicros ≤ (step state event).balance + (step state event).policy.minBalanceMicros := by
  have quiet : ∀ after : State, after.balance = state.balance → after.policy = state.policy →
      state.balance + state.policy.minBalanceMicros ≤ after.balance + after.policy.minBalanceMicros := by
    intro after balance policy
    rw [balance, policy]
  cases event with
  | move amount =>
    rw [step]
    split
    · exact le_refl _
    · have gained : 0 ≤ amount := spared
      show state.balance + state.policy.minBalanceMicros ≤ state.balance + amount + state.policy.minBalanceMicros
      omega
  | setPolicy policy =>
    have loosened : state.policy.minBalanceMicros ≤ policy.minBalanceMicros := spared
    show state.balance + state.policy.minBalanceMicros ≤ state.balance + policy.minBalanceMicros
    omega
  | decide =>
    rw [step]
    split
    · rename_i task parent price balance reserved locked
      rcases decide_start_cases ⟨task, parent, price, balance, some reserved⟩ reserved state with refused | ⟨_, _, admitted⟩
      · exact quiet _ (by rw [refused]) (by rw [refused])
      · exact quiet _ (by rw [admitted]; rfl) (by rw [admitted]; rfl)
    · exact le_refl _
  | finish task status heard =>
    rw [step]
    split
    · split
      · split
        · exact quiet _ rfl rfl
        · exact quiet _ rfl rfl
      · exact le_refl _
    · exact le_refl _
  | start task parent price =>
    cases price with
    | none => rw [step]; split <;> exact quiet _ rfl rfl
    | some price => rw [step]; split <;> exact quiet _ rfl rfl
  | sumReservations => rw [step]; split <;> exact quiet _ rfl rfl
  | releaseAgain task => rw [step]; split <;> exact quiet _ rfl rfl
  | sweepUpdate sweep => rw [step]; split <;> exact quiet _ rfl rfl
  | tick now => exact quiet _ rfl rfl
  | abort => exact quiet _ rfl rfl
  | sweepRead => exact quiet _ rfl rfl

theorem covered_step (state : State) (event : Event) (held : LockHeld state) (covered : Covered state)
    (spared : NoDebit state event) : Covered (step state event) := by
  rcases step_rows state event with ⟨names, release, rows⟩ | ⟨start, reserved, _, locked, summed, above, _, admitted⟩
  · have lowered := released_open_le names release state.reservations
    have headroom := step_headroom state event spared
    unfold Covered at covered ⊢
    rw [above_floor_iff] at covered ⊢
    rw [rows]
    omega
  · rw [admitted]
    obtain ⟨same, most⟩ := held start locked
    have read := most reserved summed
    apply admit_covered
    rw [above_floor_iff]
    have found := (above_floor_iff state _).mp above
    omega

theorem sweep_leaves_nothing (origin : State) (later : List Event) (row : WalletReservation)
    (member : row ∈ (run step origin (.sweepRead :: later ++ [.sweepUpdate origin.sweeps.length])).reservations)
    (isOpen : row.release = none) : ¬origin.terminal row.task := by
  rintro ⟨unit, known, named, ended⟩
  have listed : row.task ∈ origin.units.map Task.id := named ▸ List.mem_map_of_mem known
  have since := since_run (step origin .sweepRead) later
  rw [List.cons_append, run_cons, run_snoc] at member
  generalize run step (step origin .sweepRead) later = last at since member
  have candidates : last.sweeps[origin.sweeps.length]? = some (sweepCandidates origin) := by
    have grown : origin.sweeps ++ [sweepCandidates origin] <+: last.sweeps := since.sweeps
    obtain ⟨more, whole⟩ := grown
    rw [← whole]
    simp
  rw [step, candidates] at member
  obtain ⟨before, stored, rfl⟩ := List.mem_map.mp member
  obtain ⟨same, unnamed⟩ := release_row_open _ _ before isOpen
  rw [same] at isOpen listed named
  have original := since.stillOpen before stored isOpen listed
  have found : before.task ∈ sweepCandidates origin := by
    apply List.mem_map_of_mem
    rw [List.mem_filter]
    exact ⟨original, by simpa using ⟨isOpen, unit, known, named, ended⟩⟩
  simp [found] at unnamed

theorem reservations_protect_the_floor (clock : Int) (policy : Policy) (balance : Int) (events : List Event) :
    let state := run step (newWallet clock policy balance) events
    (∀ event row, Admits state event row →
      AboveFloor state (state.balance - openReservationsMicros state.reservations - row.amountMicros) ∧
        ∀ later, Along step NoDebit (step state event) later → Covered (run step (step state event) later)) ∧
      ((state.reservations.map WalletReservation.task).Nodup ∧
        ∀ row ∈ state.reservations, row.release ≠ none → ∀ later, row ∈ (run step state later).reservations) ∧
      ∀ later, ∀ row ∈ (run step state (.sweepRead :: later ++ [.sweepUpdate state.sweeps.length])).reservations,
        row.release = none → ¬state.terminal row.task := by
  intro state
  have held : LockHeld state := by
    apply run_invariant step LockHeld (fun _ => True) (fun before event kept _ => step_lock_held before event kept)
    · exact fun _ locked => nomatch locked
    · simp
  have tabled : Tabled state := by
    apply run_invariant step Tabled (fun _ => True) (fun before event kept _ => step_tabled before event kept)
    · exact ⟨List.nodup_nil, fun _ member => nomatch member⟩
    · simp
  refine ⟨?_, ⟨tabled.tasks, ?_⟩, ?_⟩
  · intro event row admits
    have above := admitted_above_floor state held event row admits
    refine ⟨above, ?_⟩
    intro later spared
    obtain ⟨start, _, _, _, _, rfl, admitted⟩ := admits_start state event row admits
    have covered : Covered (step state event) := by
      rw [admitted]
      exact admit_covered start state above
    have both := along_invariant step (fun state => LockHeld state ∧ Covered state) NoDebit
      (fun before next kept spared => ⟨step_lock_held before next kept.1, covered_step before next kept.1 kept.2 spared⟩)
      (step state event) later ⟨step_lock_held state event held, covered⟩ spared
    exact both.2
  · intro row member released later
    exact (since_run state later).released row member released
  · intro later row member isOpen
    exact sweep_leaves_nothing state later row member isOpen

theorem last_start_on_reserved_money :
    AboveFloor (run step (newWallet 0 ⟨true, 0, none⟩ 100) [.start ⟨"a"⟩ none (some 60), .sumReservations, .decide,
      .start ⟨"b"⟩ none (some 40), .sumReservations]) 0 ∧
      Covered (run step (newWallet 0 ⟨true, 0, none⟩ 100) [.start ⟨"a"⟩ none (some 60), .sumReservations, .decide,
        .start ⟨"b"⟩ none (some 40), .sumReservations, .decide, .finish ⟨"a"⟩ .completed true, .move 5]) := by
  have protects := reservations_protect_the_floor 0 ⟨true, 0, none⟩ 100
    [.start ⟨"a"⟩ none (some 60), .sumReservations, .decide, .start ⟨"b"⟩ none (some 40), .sumReservations]
  have admitted := protects.1 .decide ⟨⟨"b"⟩, 40, none⟩ (by unfold Admits; decide)
  exact ⟨admitted.1, admitted.2 [.finish ⟨"a"⟩ .completed true, .move 5] (by simp [Along, NoDebit])⟩

-- A unit that ends between a sweep's read and its update, its listener
-- failing, is left to the sweep after it.
theorem sweep_passes_over_later_end : ¬∀ clock policy balance events later,
    let state := run step (newWallet clock policy balance) events
    let swept := run step state (.sweepRead :: later ++ [.sweepUpdate state.sweeps.length])
    ∀ row ∈ swept.reservations, row.release = none → ¬swept.terminal row.task := by
  intro always
  have none_left := always 0 ⟨true, 0, none⟩ 100 [.start ⟨"a"⟩ none (some 60), .sumReservations, .decide]
    [.finish ⟨"a"⟩ .completed false]
  revert none_left
  decide

end Ubb.Wallets.Reservations
