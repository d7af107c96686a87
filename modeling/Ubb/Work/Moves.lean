import Mathlib.Tactic
import Ubb.Library.Runs
import Ubb.Work.Recording

set_option autoImplicit false

-- What one transaction can do to the tables, said once. Every invariant of the
-- kernel is a case analysis on these moves.
namespace Ubb.Work

open Ubb.Library

structure Ends (state : State) (task ended : Task) : Prop where
  found : state.taskWith task.id = some task
  active : task.ending.status = .active
  row : ended = { task with ending := ended.ending }
  terminal : ended.ending.status.terminal = true

structure PostingFree (state : State) (posting : Posting) : Prop where
  id : state.postingWith posting.id = none
  key : state.postingUnder posting.tenant posting.customer posting.idempotencyKey = none

structure ChargeFree (state : State) (charge : Charge) : Prop where
  original : charge.compensates = none → ∀ other ∈ state.charges, other.task = charge.task → other.compensates ≠ none
  key : ∀ other ∈ state.charges, other.tenant = charge.tenant → other.idempotencyKey ≠ charge.idempotencyKey

structure Contains (state : State) (request : StartRequest) (unit : Task) : Prop where
  found : state.taskWith unit.id = some unit
  whole : unit.parent = none
  active : unit.ending.status = .active
  tenant : unit.tenant = request.tenant
  customer : unit.customer = request.customer

def posted (state : State) (posting : Posting) : State := { state with postings := state.postings ++ [posting] }

def completedOn (state : State) (side : Side) (posting : Uuid) (amount : Int) : State :=
  { state with postings := updateRow Posting.id posting (completePosting side amount) state.postings }

def chargePosting (task : Task) (price : Int) (postingId : Uuid) : Posting :=
  { id := postingId, tenant := task.tenant, customer := task.customer, idempotencyKey := derivedKey task.id none
    kind := .taskCharge, task := some task.id, costing := projectedCosting price }

def addCharge (price : Int) (totals : Totals) : Totals :=
  { totals with totalBilledCostMicros := totals.totalBilledCostMicros + price }

def chargedOn (state : State) (task : Task) (price : Int) (postingId : Uuid) : State :=
  posted (({ state with charges := state.charges ++ [originalCharge state task price] }).writeTask task.id
    (withTotals (addCharge price))) (chargePosting task price postingId)

def stoppedOn (state : State) (ended : Task) (event : StopEvent) (request : StopRequest) : State :=
  (announce state ended event (some request.reason) request.triggerSource false).writeTask ended.id
    (stampStop state.announcements.length request.triggerSource)

def remintedOn (state : State) (task : Task) (event : StopEvent) : State :=
  (announce state task event task.ending.reasonCode task.ending.triggerSource true).writeTask task.id
    (fun row => { row with announceOutboxId := some state.announcements.length })

def declaresDelivered (event : Event) (id : TaskId) : Prop :=
  ∃ request declaration, event = .close request ∧ request.task = id ∧
    CloseDeclaration.declared request.outcome request.outcomeReason request.reasonDetail = .ok declaration ∧
      declaration.outcome = .delivered

def CascadeRecord.Withdraws (record : CascadeRecord) : Prop :=
  record.status.terminal = true ∧ record.status ≠ .completed

inductive Move (state : State) : Event → State → Prop
  | same (event : Event) : Move state event state
  | started (request : StartRequest) (parent : Option Task) (fresh : state.taskWith request.id = none)
      (containing : ∀ unit, parent = some unit → Contains state request unit)
      (named : parent.map Task.id = request.parentTaskId)
      (admitted : agreedPriceAdmitted (newTask request parent) = true) :
      Move state (.start request) { state with tasks := state.tasks ++ [newTask request parent] }
  | recorded (report : Report) (free : PostingFree state report.posting) (outside : report.task = none) :
      Move state (.record report) (posted state report.posting)
  | recordedInto (report : Report) (task : Task) (free : PostingFree state report.posting)
      (named : report.task = some task.id) (found : state.taskWith task.id = some task) :
      Move state (.record report) (writeBoth (posted state report.posting) task (addCosts report.costing))
  | completed (event : Event) (side : Side) (posting : Posting) (amount : Int)
      (found : state.postingWith posting.id = some posting) (owes : posting.costing.owes side = true)
      (outside : posting.task = none) : Move state event (completedOn state side posting.id amount)
  | completedInto (event : Event) (side : Side) (posting : Posting) (amount : Int) (task : Task)
      (found : state.postingWith posting.id = some posting) (owes : posting.costing.owes side = true)
      (named : posting.task = some task.id) (unit : state.taskWith task.id = some task) :
      Move state event (writeBoth (completedOn state side posting.id amount) task (takeUp side amount))
  | ended (event : Event) (task ended : Task) (stopReason : Option ReasonCode) (record : CascadeRecord) (now : Int)
      (ends : Ends state task ended) (withdraws : record.Withdraws)
      (delivered : ended.ending.status = .completed → declaresDelivered event task.id)
      (silent : ∀ request now, event ≠ .stop request now) :
      Move state event (enterTerminal state ended stopReason record now)
  | charged (request : CloseRequest) (task ended : Task) (price now : Int) (ends : Ends state task ended)
      (delivered : declaresDelivered (.close request) task.id)
      (completed : ended.ending.status = .completed) (pinned : ended.agreedPriceMicros = some price)
      (whole : ended.parent = none)
      (chargeFree : ChargeFree state (originalCharge state ended price))
      (postingFree : PostingFree state (chargePosting ended price request.postingId)) :
      Move state (.close request)
        (chargedOn (enterTerminal state ended none withdrawnByAClose now) ended price request.postingId)
  | stopped (request : StopRequest) (now : Int) (task ended : Task) (record : CascadeRecord) (event : StopEvent)
      (named : request.task = task.id) (ends : Ends state task ended) (withdraws : record.Withdraws)
      (incomplete : ended.ending.status ≠ .completed) :
      Move state (.stop request now)
        (stoppedOn (enterTerminal state ended (some request.reason) record now) ended event request)
  | reminted (task : Task) (stamp : Nat) (event : StopEvent) (found : state.taskWith task.id = some task)
      (stamped : task.announceOutboxId = some stamp) (dead : unannounced state stamp = true)
      (terminal : task.ending.status.terminal = true) :
      Move state (.remint task.id) (remintedOn state task event)
  | relayed (outboxId : Nat) (status : OutboxStatus) :
      Move state (.relay outboxId status) (relayMoves state outboxId status)
  | compensated (id : Nat) (original correction : Charge) (found : original ∈ state.charges)
      (unit : correction.task = original.task) (corrects : correction.compensates ≠ none)
      (key : ∃ ordinal, correction.idempotencyKey = derivedKey original.task (some ordinal)) :
      Move state (.compensate id) { state with charges := state.charges ++ [correction] }

theorem start_task_moves (state next : State) (request : StartRequest)
    (accepted : startTask state request = .ok next) : Move state (.start request) next := by
  unfold startTask at accepted
  cases claimed : claimedBy state request.tenant request.customer request.idempotencyKey with
  | some unit =>
      simp only [claimed, pure_eq_ok] at accepted
      exact accepted ▸ .same _
  | none =>
      simp only [claimed, bind_eq_ok] at accepted
      obtain ⟨parent, located, made⟩ := accepted
      simp only [createTask, bind_eq_ok, refuse_if_eq_ok, pure_eq_ok, not_not, Bool.not_eq_false] at made
      obtain ⟨_, _, _, _, _, admitted, _, fresh, rfl⟩ := made
      have parentFacts : (∀ unit, parent = some unit → Contains state request unit) ∧
          parent.map Task.id = request.parentTaskId := by
        unfold parentFor at located
        cases wanted : request.parentTaskId with
        | none =>
            simp only [wanted, pure_eq_ok] at located
            subst located
            simp
        | some id =>
            cases found : state.taskWith id with
            | none => simp [wanted, found] at located
            | some unit =>
                simp only [wanted, found, bind_eq_ok, refuse_if_eq_ok, pure_eq_ok, not_or, not_not] at located
                obtain ⟨_, ⟨tenant, customer⟩, _, whole, _, active, rfl⟩ := located
                have unitId := task_with_id state id unit found
                refine ⟨?_, by simp [unitId]⟩
                intro other same
                cases same
                exact ⟨unitId ▸ found, whole, active, tenant, customer⟩
      exact .started request parent fresh parentFacts.1 parentFacts.2 admitted

theorem locked_task_ok (state : State) (scope : Option (Uuid × Uuid)) (id : TaskId) (task : Task)
    (locked : lockedTask state scope id = .ok task) : task.id = id ∧ state.taskWith task.id = some task := by
  unfold lockedTask at locked
  cases found : state.taskWith id with
  | none => simp [found] at locked
  | some unit =>
      simp only [found, bind_eq_ok, refuse_if_eq_ok, pure_eq_ok] at locked
      obtain ⟨_, _, rfl⟩ := locked
      have unitId := task_with_id state id unit found
      exact ⟨unitId, unitId ▸ found⟩

theorem accumulate_cost_ok (state next : State) (id : TaskId) (costing : Costing) (scope : Option (Uuid × Uuid))
    (verdicts : Verdicts) (accepted : accumulateCost state id costing scope = .ok (next, verdicts)) :
    ∃ task, task.id = id ∧ state.taskWith task.id = some task ∧ next = writeBoth state task (addCosts costing) := by
  simp only [accumulateCost, bind_eq_ok, refuse_if_eq_ok] at accepted
  obtain ⟨_, _, _, _, task, locked, answered⟩ := accepted
  obtain ⟨taskId, found⟩ := locked_task_ok state scope id task locked
  refine ⟨task, taskId, found, ?_⟩
  cases inside : task.parent with
  | none =>
      simp only [inside, pure_eq_ok, Prod.mk.injEq] at answered
      exact answered.1.symm
  | some parentId =>
      simp only [inside, bind_eq_ok, pure_eq_ok, Prod.mk.injEq] at answered
      obtain ⟨_, _, same, _⟩ := answered
      exact same.symm

theorem insert_posting_ok (state next : State) (posting : Posting)
    (accepted : insertPosting state posting = .ok next) : PostingFree state posting ∧ next = posted state posting := by
  simp only [insertPosting, bind_eq_ok, refuse_if_eq_ok, pure_eq_ok, not_not] at accepted
  obtain ⟨_, id, _, key, rfl⟩ := accepted
  exact ⟨⟨id, key⟩, rfl⟩

theorem record_usage_moves (state next : State) (report : Report)
    (accepted : recordUsage state report = .ok next) : Move state (.record report) next := by
  unfold recordUsage at accepted
  cases held : state.postingUnder report.tenant report.customer report.idempotencyKey with
  | some existing =>
      simp only [held, bind_eq_ok, refuse_if_eq_ok, pure_eq_ok] at accepted
      obtain ⟨_, _, rfl⟩ := accepted
      exact .same _
  | none =>
      simp only [held, bind_eq_ok] at accepted
      obtain ⟨inserted, made, accepted⟩ := accepted
      obtain ⟨free, rfl⟩ := insert_posting_ok state inserted report.posting made
      cases unit : report.task with
      | none =>
          simp only [unit, pure_eq_ok] at accepted
          exact accepted ▸ .recorded report free unit
      | some id =>
          simp only [unit, bind_eq_ok, pure_eq_ok] at accepted
          obtain ⟨⟨accumulated, verdicts⟩, added, rfl⟩ := accepted
          obtain ⟨task, taskId, found, rfl⟩ := accumulate_cost_ok _ _ _ _ _ _ added
          exact .recordedInto report task free (unit.trans (by rw [taskId])) found

theorem complete_side_moves (state next : State) (event : Event) (side : Side) (postingId : Uuid) (amount : Int)
    (accepted : completeSide state side postingId amount = .ok next) : Move state event next := by
  unfold completeSide at accepted
  cases found : state.postingWith postingId with
  | none => simp [found] at accepted
  | some posting =>
      obtain ⟨_, rfl⟩ := find_key_some Posting.id postingId state.postings posting found
      simp only [found] at accepted
      split at accepted
      case isFalse => exact (pure_eq_ok _ _).mp accepted ▸ .same _
      case isTrue owes =>
        cases unit : posting.task with
        | none =>
            simp only [unit, pure_eq_ok] at accepted
            exact accepted ▸ .completed event side posting amount found owes unit
        | some id =>
            simp only [unit, takeUpALateResolution, bind_eq_ok] at accepted
            obtain ⟨task, locked, answered⟩ := accepted
            obtain ⟨taskId, unitFound⟩ := locked_task_ok _ _ _ _ locked
            have same : next = writeBoth (completedOn state side posting.id amount) task (takeUp side amount) := by
              cases inside : task.parent with
              | none =>
                  simp only [inside, pure_eq_ok] at answered
                  exact answered.symm
              | some parentId =>
                  simp only [inside, bind_eq_ok, pure_eq_ok] at answered
                  obtain ⟨_, _, same⟩ := answered
                  exact same.symm
            exact same ▸ .completedInto event side posting amount task found owes (unit.trans (by rw [taskId])) unitFound

theorem ended_by_reason_ok (ending reasoned : Ending) (reason : Option ReasonCode) (controlId : Option String)
    (made : endedByReason ending reason controlId = .ok reasoned) : reasoned.status = ending.status := by
  cases reason with
  | none =>
      simp only [endedByReason, pure_eq_ok] at made
      rw [← made]
  | some code =>
      simp only [endedByReason, bind_eq_ok, pure_eq_ok] at made
      obtain ⟨family, _, rfl⟩ := made
      rfl

@[simp] theorem ended_by_declaration_status (ending : Ending) (declaration : Option CloseDeclaration) :
    (endedByDeclaration ending declaration).status = ending.status := by
  cases declaration <;> rfl

theorem flip_ok (state next : State) (id : TaskId) (scope : Option (Uuid × Uuid)) (entering : Flip) (now : Int)
    (row : Task) (transitioned : Bool) (terminal : entering.status.terminal = true)
    (accepted : flip state id scope entering now = .ok (next, row, transitioned)) :
    (next = state ∧ transitioned = false) ∨
      (transitioned = true ∧ ∃ task, task.id = id ∧ Ends state task row ∧ row.ending.status = entering.status ∧
        next = enterTerminal state row entering.reason entering.record now) := by
  unfold flip at accepted
  cases found : state.taskWith id with
  | none => simp [found] at accepted
  | some task =>
      simp only [found, bind_eq_ok] at accepted
      obtain ⟨_, _, accepted⟩ := accepted
      split at accepted
      case isTrue =>
        simp only [pure_eq_ok, Prod.mk.injEq] at accepted
        exact .inl ⟨accepted.1.symm, accepted.2.2.symm⟩
      case isFalse running =>
        simp only [bind_eq_ok, pure_eq_ok, Prod.mk.injEq] at accepted
        obtain ⟨reasoned, made, rfl, rfl, rfl⟩ := accepted
        have taskId := task_with_id state id task found
        have status := ended_by_reason_ok _ _ _ _ made
        have active : task.ending.status = .active := by
          cases standing : task.ending.status <;> simp_all [TaskStatus.terminal]
        refine .inr ⟨rfl, task, taskId, ⟨taskId ▸ found, active, rfl, ?_⟩, ?_, rfl⟩
        · simpa [status] using terminal
        · simpa using status

theorem entered_status_terminal (declaration : CloseDeclaration) : declaration.enteredStatus.terminal = true := by
  cases named : declaration.outcome <;> simp [CloseDeclaration.enteredStatus, named, TaskStatus.terminal]

theorem entered_status_completed (declaration : CloseDeclaration) :
    declaration.enteredStatus = .completed ↔ declaration.outcome = .delivered := by
  cases named : declaration.outcome <;> simp [CloseDeclaration.enteredStatus, named]

theorem withdrawn_by_a_close_withdraws : withdrawnByAClose.Withdraws := by
  simp [CascadeRecord.Withdraws, withdrawnByAClose, TaskStatus.terminal]

theorem killed_with_its_parent_withdraws : killedWithItsParent.Withdraws := by
  simp [CascadeRecord.Withdraws, killedWithItsParent, TaskStatus.terminal]

theorem expired_with_its_parent_withdraws : expiredWithItsParent.Withdraws := by
  simp [CascadeRecord.Withdraws, expiredWithItsParent, TaskStatus.terminal]

def flipRow (ended : Task) (record : CascadeRecord) (now : Int) (row : Task) : Task :=
  let written := if row.id = ended.id then { row with ending := ended.ending } else row
  if ended.parent = none then cascadeTask ended record now written else written

theorem cascade_task_keeps (parent : Task) (record : CascadeRecord) (now : Int) (task : Task) :
    cascadeTask parent record now task = { task with ending := (cascadeTask parent record now task).ending } := by
  unfold cascadeTask
  split <;> rfl

theorem flip_row_keeps (ended : Task) (record : CascadeRecord) (now : Int) (row : Task) :
    flipRow ended record now row = { row with ending := (flipRow ended record now row).ending } := by
  unfold flipRow
  by_cases here : row.id = ended.id
  · by_cases top : ended.parent = none
    · simp only [if_pos here, if_pos top]
      rw [cascade_task_keeps]
    · simp only [if_pos here, if_neg top]
  · by_cases top : ended.parent = none
    · simp only [if_neg here, if_pos top]
      rw [cascade_task_keeps]
    · simp only [if_neg here, if_neg top]

theorem enter_terminal_task (state : State) (ended : Task) (stopReason : Option ReasonCode) (record : CascadeRecord)
    (now : Int) (id : TaskId) :
    (enterTerminal state ended stopReason record now).taskWith id =
      (state.taskWith id).map (flipRow ended record now) := by
  have rewritten : (enterTerminal state ended stopReason record now).tasks =
      state.tasks.map (flipRow ended record now) := by
    by_cases top : ended.parent = none
    · simp [enterTerminal, if_pos top, cascade, State.writeTask, updateRow, flipRow, Function.comp_def]
    · simp [enterTerminal, if_neg top, State.writeTask, updateRow, flipRow]
  have keepsId : ∀ row, (flipRow ended record now row).id = row.id := by
    intro row
    rw [flip_row_keeps]
  rw [← task_with_map state _ keepsId id, State.taskWith, State.taskWith, rewritten]

@[simp] theorem enter_terminal_charges (state : State) (ended : Task) (stopReason : Option ReasonCode)
    (record : CascadeRecord) (now : Int) :
    (enterTerminal state ended stopReason record now).charges = state.charges := by
  unfold enterTerminal
  split <;> rfl

@[simp] theorem enter_terminal_postings (state : State) (ended : Task) (stopReason : Option ReasonCode)
    (record : CascadeRecord) (now : Int) :
    (enterTerminal state ended stopReason record now).postings = state.postings := by
  unfold enterTerminal
  split <;> rfl

@[simp] theorem enter_terminal_announcements (state : State) (ended : Task) (stopReason : Option ReasonCode)
    (record : CascadeRecord) (now : Int) :
    (enterTerminal state ended stopReason record now).announcements = state.announcements := by
  unfold enterTerminal
  split <;> rfl

theorem insert_charge_ok (state next : State) (charge : Charge) (accepted : insertCharge state charge = .ok next) :
    ChargeFree state charge ∧ next = { state with charges := state.charges ++ [charge] } := by
  simp only [insertCharge, bind_eq_ok, refuse_if_eq_ok, pure_eq_ok] at accepted
  obtain ⟨_, original, _, key, _, _, rfl⟩ := accepted
  refine ⟨⟨?_, ?_⟩, rfl⟩
  · intro first other member sameTask otherFirst
    exact original ⟨first, other, member, sameTask, otherFirst⟩
  · intro other member tenant sameKey
    exact key ⟨other, member, tenant, sameKey⟩

theorem take_up_a_charge_ok (state next : State) (id : TaskId) (amount : Int)
    (accepted : takeUpACharge state id amount = .ok next) :
    (∃ task, state.taskWith id = some task ∧ task.parent = none) ∧
      next = state.writeTask id (withTotals (addCharge amount)) := by
  simp only [takeUpACharge, bind_eq_ok, refuse_if_eq_ok, pure_eq_ok, not_not] at accepted
  obtain ⟨task, locked, _, whole, rfl⟩ := accepted
  obtain ⟨taskId, found⟩ := locked_task_ok _ _ _ _ locked
  exact ⟨⟨task, taskId ▸ found, whole⟩, rfl⟩

theorem charge_for_delivered_work_ok (state next : State) (task : Task) (postingId : Uuid)
    (found : ∃ row, state.taskWith task.id = some row ∧ row.customer = task.customer ∧ row.parent = task.parent)
    (accepted : chargeForDeliveredWork state task postingId = .ok next) :
    next = state ∨ ∃ price, task.ending.status = .completed ∧ task.agreedPriceMicros = some price ∧
      task.parent = none ∧ ChargeFree state (originalCharge state task price) ∧
      PostingFree state (chargePosting task price postingId) ∧ next = chargedOn state task price postingId := by
  unfold chargeForDeliveredWork at accepted
  by_cases delivered : task.ending.status = .completed
  case neg =>
    rw [if_pos delivered, pure_eq_ok] at accepted
    exact .inl accepted.symm
  rw [if_neg (not_not.mpr delivered)] at accepted
  cases pinned : task.agreedPriceMicros with
  | none =>
      simp only [pinned, pure_eq_ok] at accepted
      exact .inl accepted.symm
  | some price =>
      obtain ⟨row, rowFound, rowCustomer, rowParent⟩ := found
      simp only [pinned, bind_eq_ok, projectTheCharge, refuse_if_eq_ok] at accepted
      obtain ⟨inserted, made, _, _, unit, locked, taken, takes, posts⟩ := accepted
      obtain ⟨chargeFree, rfl⟩ := insert_charge_ok _ _ _ made
      have unitRow : unit = row := by
        obtain ⟨unitId, unitFound⟩ := locked_task_ok _ _ _ _ locked
        rw [unitId] at unitFound
        exact Option.some.inj (unitFound.symm.trans rowFound)
      subst unitRow
      obtain ⟨⟨other, otherFound, whole⟩, rfl⟩ := take_up_a_charge_ok _ _ _ _ takes
      have otherRow : other = unit := Option.some.inj (otherFound.symm.trans rowFound)
      obtain ⟨postingFree, rfl⟩ := insert_posting_ok _ _ _ posts
      refine .inr ⟨price, delivered, rfl, ?_, chargeFree, ?_, ?_⟩
      · rw [← rowParent, ← otherRow, whole]
      · simpa [chargePosting, originalCharge, rowCustomer] using
          (⟨postingFree.id, postingFree.key⟩ : PostingFree state _)
      · simp [chargedOn, chargePosting, originalCharge, rowCustomer]

theorem ends_row (state : State) (task ended : Task) (ends : Ends state task ended) :
    ended.id = task.id ∧ ended.parent = task.parent ∧ ended.customer = task.customer ∧ ended.tenant = task.tenant ∧
      ended.agreedPriceMicros = task.agreedPriceMicros := by
  rw [ends.row]
  simp

theorem close_moves (state next : State) (request : CloseRequest) (accepted : close state request = .ok next) :
    Move state (.close request) next := by
  simp only [close, bind_eq_ok] at accepted
  obtain ⟨declaration, declared, accepted⟩ := accepted
  cases found : state.taskWith request.task with
  | none => simp [found] at accepted
  | some unit =>
      simp only [found, bind_eq_ok] at accepted
      obtain ⟨_, _, ⟨closed, row, transitioned⟩, flipped, accepted⟩ := accepted
      rcases flip_ok _ _ _ _ _ _ _ _ (entered_status_terminal declaration) flipped with
        ⟨rfl, rfl⟩ | ⟨rfl, task, taskId, ends, status, rfl⟩
      · simp only [Bool.false_eq_true, if_false, bind_eq_ok, refuse_if_eq_ok, pure_eq_ok] at accepted
        obtain ⟨_, _, rfl⟩ := accepted
        exact .same _
      · simp only [if_true] at accepted
        have delivers : row.ending.status = .completed → declaresDelivered (.close request) task.id := by
          intro completed
          exact ⟨request, declaration, rfl, taskId.symm, declared,
            (entered_status_completed declaration).mp (status.symm.trans completed)⟩
        obtain ⟨rowId, rowParent, rowCustomer, _, _⟩ := ends_row state task row ends
        have rowFound : ∃ found, (enterTerminal state row none withdrawnByAClose request.now).taskWith row.id =
            some found ∧ found.customer = row.customer ∧ found.parent = row.parent := by
          refine ⟨flipRow row withdrawnByAClose request.now task, ?_, ?_, ?_⟩
          · rw [enter_terminal_task, rowId, ends.found, Option.map_some]
          · rw [flip_row_keeps, rowCustomer]
          · rw [flip_row_keeps, rowParent]
        rcases charge_for_delivered_work_ok _ _ _ _ rowFound accepted with
          rfl | ⟨price, completed, pinned, whole, chargeFree, postingFree, rfl⟩
        · exact .ended _ task row none withdrawnByAClose request.now ends withdrawn_by_a_close_withdraws delivers
            (by intro stop now same; cases same)
        · refine .charged request task row price request.now ends (delivers completed) completed pinned whole ?_ ?_
          · exact ⟨by simpa [originalCharge] using chargeFree.original, by simpa [originalCharge] using chargeFree.key⟩
          · exact ⟨by simpa [State.postingWith] using postingFree.id, by simpa [State.postingUnder] using postingFree.key⟩

theorem stop_and_announce_moves (state next : State) (request : StopRequest) (now : Int)
    (accepted : stopAndAnnounce state request now = .ok next) : Move state (.stop request now) next := by
  have announces : ∀ entering : Flip, entering.status.terminal = true → entering.status ≠ .completed →
      entering.record.Withdraws → entering.reason = some request.reason →
      ∀ flipped stopped transitioned,
        flip state request.task (some (request.tenant, request.customer)) entering now =
          .ok (flipped, stopped, transitioned) →
        (if transitioned = true then do
            let event ← terminalStopEvent stopped.ending.status stopped.parent.isSome
            pure ((announce flipped stopped event (some request.reason) request.triggerSource false).writeTask
              request.task (stampStop flipped.announcements.length request.triggerSource))
          else pure flipped) = .ok next → Move state (.stop request now) next := by
    intro entering terminal incomplete withdraws reason flipped stopped transitioned turned answered
    rcases flip_ok _ _ _ _ _ _ _ _ terminal turned with ⟨rfl, rfl⟩ | ⟨rfl, task, taskId, ends, status, rfl⟩
    · simp only [Bool.false_eq_true, if_false, pure_eq_ok] at answered
      exact answered ▸ .same _
    · simp only [if_true, bind_eq_ok, pure_eq_ok] at answered
      obtain ⟨event, _, rfl⟩ := answered
      have moved := Move.stopped request now task stopped entering.record event taskId.symm ends withdraws
        (status ▸ incomplete)
      rw [stoppedOn, (ends_row _ _ _ ends).1, taskId] at moved
      rw [reason]
      exact moved
  unfold stopAndAnnounce at accepted
  cases named : request.stop with
  | kill =>
      simp only [named, bind_eq_ok] at accepted
      obtain ⟨⟨flipped, stopped, transitioned⟩, turned, answered⟩ := accepted
      exact announces _ rfl (by simp) killed_with_its_parent_withdraws rfl _ _ _ turned
        (by simpa only [bind_eq_ok] using answered)
  | expire =>
      simp only [named, bind_eq_ok] at accepted
      obtain ⟨⟨flipped, stopped, transitioned⟩, turned, answered⟩ := accepted
      exact announces _ rfl (by simp) expired_with_its_parent_withdraws rfl _ _ _ turned
        (by simpa only [bind_eq_ok] using answered)

theorem remint_kill_moves (state next : State) (id : TaskId) (accepted : remintKill state id = .ok next) :
    Move state (.remint id) next := by
  unfold remintKill at accepted
  cases found : state.taskWith id with
  | none => simp [found] at accepted
  | some task =>
      have taskId := task_with_id state id task found
      subst taskId
      cases stamped : task.announceOutboxId with
      | none =>
          simp only [found, stamped, pure_eq_ok] at accepted
          exact accepted ▸ .same _
      | some stamp =>
          simp only [found, stamped] at accepted
          split at accepted
          case isFalse => exact (pure_eq_ok _ _).mp accepted ▸ .same _
          case isTrue eligible =>
            simp only [bind_eq_ok, pure_eq_ok] at accepted
            obtain ⟨event, _, rfl⟩ := accepted
            refine .reminted task stamp event found stamped eligible.2 ?_
            rcases eligible.1 with killed | expired
            · simp [killed, TaskStatus.terminal]
            · simp [expired, TaskStatus.terminal]

theorem compensate_moves (state next : State) (id : Nat) (accepted : compensate state id = .ok next) :
    Move state (.compensate id) next := by
  unfold compensate at accepted
  cases found : state.charges.find? (fun charge => decide (charge.id = id)) with
  | none => simp [found] at accepted
  | some charge =>
      simp only [found, bind_eq_ok] at accepted
      obtain ⟨_, _, made⟩ := accepted
      obtain ⟨_, rfl⟩ := insert_charge_ok _ _ _ made
      exact .compensated id charge _ (List.mem_of_find?_eq_some found) rfl (by simp) ⟨_, rfl⟩

theorem step_moves (state : State) (event : Event) : Move state event (step state event) := by
  unfold step
  cases answered : attempt state event with
  | error refusal => exact .same event
  | ok next =>
      cases event with
      | start request => exact start_task_moves state next request answered
      | record report => exact record_usage_moves state next report answered
      | settle posting amount => exact complete_side_moves state next _ _ posting amount answered
      | resolve posting amount => exact complete_side_moves state next _ _ posting amount answered
      | close request => exact close_moves state next request answered
      | stop request now => exact stop_and_announce_moves state next request now answered
      | abandon task now =>
          simp only [attempt, bind_eq_ok, pure_eq_ok] at answered
          obtain ⟨⟨expired, row, transitioned⟩, flipped, rfl⟩ := answered
          rcases flip_ok _ _ _ _ _ _ _ _ rfl flipped with ⟨rfl, _⟩ | ⟨_, unit, unitId, ends, status, rfl⟩
          · exact .same _
          · refine .ended _ unit row none expiredWithItsParent now ends expired_with_its_parent_withdraws ?_ ?_
            · intro completed
              rw [status] at completed
              cases completed
            · intro request instant same
              cases same
      | remint task => exact remint_kill_moves state next task answered
      | relay outboxId status =>
          exact (pure_eq_ok _ _).mp answered ▸ .relayed outboxId status
      | compensate charge => exact compensate_moves state next charge answered

end Ubb.Work
