import Mathlib.Tactic
import Ubb.Work.Moves

set_option autoImplicit false

namespace Ubb.Work

open Ubb.Library

-- The columns a start pins; nothing after the start writes them.
def SameUnit (task row : Task) : Prop :=
  row = { task with totals := row.totals, ending := row.ending, announceOutboxId := row.announceOutboxId }

theorem same_unit_refl (task : Task) : SameUnit task task := rfl

theorem same_unit_trans (first second third : Task) (left : SameUnit first second) (right : SameUnit second third) :
    SameUnit first third := by
  unfold SameUnit at *
  rw [right, left]

theorem SameUnit.parent {task row : Task} (same : SameUnit task row) : row.parent = task.parent := by
  rw [same]

theorem SameUnit.id {task row : Task} (same : SameUnit task row) : row.id = task.id := by
  rw [same]

theorem SameUnit.owner {task row : Task} (same : SameUnit task row) :
    row.tenant = task.tenant ∧ row.customer = task.customer := by
  rw [same]
  exact ⟨rfl, rfl⟩

theorem SameUnit.agreed {task row : Task} (same : SameUnit task row) :
    row.agreedPriceMicros = task.agreedPriceMicros ∧ agreedPriceAdmitted row = agreedPriceAdmitted task := by
  rw [same]
  exact ⟨rfl, rfl⟩

def tellings (state : State) (id : TaskId) : Nat := state.told.countP (fun transition => decide (transition.task = id))

def cascadesTo (state : State) (ended : Task) (id : TaskId) : Bool :=
  decide (ended.parent = none) && (state.taskWith id).any (activeChild ended)

structure RowsKept (state next : State) : Prop where
  ids : next.tasks.map Task.id = state.tasks.map Task.id
  rows : ∀ id task, state.taskWith id = some task →
    ∃ row, next.taskWith id = some row ∧ SameUnit task row ∧ row.ending = task.ending
  told : next.told = state.told

structure RowsEnd (state next : State) (ended : Task) (record : CascadeRecord) : Prop where
  ids : next.tasks.map Task.id = state.tasks.map Task.id
  self : ∀ task, state.taskWith ended.id = some task →
    ∃ row, next.taskWith ended.id = some row ∧ SameUnit task row ∧ row.ending.status = ended.ending.status
  others : ∀ id task, id ≠ ended.id → state.taskWith id = some task →
    ∃ row, next.taskWith id = some row ∧ SameUnit task row ∧
      if cascadesTo state ended id = true then row.ending.status = record.status else row.ending = task.ending
  told : ∀ id, tellings next id = tellings state id + (decide (id = ended.id)).toNat + (cascadesTo state ended id).toNat

theorem map_ids_write (state : State) (target : TaskId) (write : Task → Task)
    (keeps : ∀ task, (write task).id = task.id) :
    (state.writeTask target write).tasks.map Task.id = state.tasks.map Task.id :=
  update_row_map Task.id target write state.tasks Task.id keeps

theorem rows_kept_of_tables (state next : State) (tasks : next.tasks = state.tasks) (told : next.told = state.told) :
    RowsKept state next := by
  refine ⟨by rw [tasks], ?_, told⟩
  intro id task found
  refine ⟨task, ?_, same_unit_refl task, rfl⟩
  rw [State.taskWith, tasks]
  exact found

theorem rows_kept_write (state middle : State) (target : TaskId) (write : Task → Task) (kept : RowsKept state middle)
    (keeps : ∀ task, SameUnit task (write task) ∧ (write task).ending = task.ending) :
    RowsKept state (middle.writeTask target write) := by
  have keepsId : ∀ task, (write task).id = task.id := fun task => (keeps task).1.id
  refine ⟨(map_ids_write middle target write keepsId).trans kept.ids, ?_, kept.told⟩
  intro id task found
  obtain ⟨row, rowFound, same, ending⟩ := kept.rows id task found
  rw [task_with_write middle target id write keepsId, rowFound, Option.map_some]
  by_cases hit : id = target
  · refine ⟨write row, by rw [if_pos hit], ?_, ?_⟩
    · exact same_unit_trans task row (write row) same (keeps row).1
    · rw [(keeps row).2, ending]
  · exact ⟨row, by rw [if_neg hit], same, ending⟩

theorem rows_kept_write_both (state middle : State) (task : Task) (write : Totals → Totals)
    (kept : RowsKept state middle) : RowsKept state (writeBoth middle task write) := by
  have keeps : ∀ row : Task, SameUnit row (withTotals write row) ∧ (withTotals write row).ending = row.ending :=
    fun row => ⟨rfl, rfl⟩
  unfold writeBoth
  cases inside : task.parent with
  | none => exact rows_kept_write state middle task.id _ kept keeps
  | some parent => exact rows_kept_write state _ parent _ (rows_kept_write state middle task.id _ kept keeps) keeps

theorem rows_end_write (state middle : State) (ended : Task) (record : CascadeRecord) (write : Task → Task)
    (rowsEnd : RowsEnd state middle ended record)
    (keeps : ∀ task, SameUnit task (write task) ∧ (write task).ending.status = task.ending.status) :
    RowsEnd state (middle.writeTask ended.id write) ended record := by
  have keepsId : ∀ task, (write task).id = task.id := fun task => (keeps task).1.id
  refine ⟨(map_ids_write middle ended.id write keepsId).trans rowsEnd.ids, ?_, ?_, rowsEnd.told⟩
  · intro task found
    obtain ⟨row, rowFound, same, status⟩ := rowsEnd.self task found
    refine ⟨write row, ?_, same_unit_trans task row (write row) same (keeps row).1, (keeps row).2.trans status⟩
    rw [task_with_write middle ended.id ended.id write keepsId, rowFound, Option.map_some, if_pos rfl]
  · intro id task other found
    obtain ⟨row, rowFound, same, ending⟩ := rowsEnd.others id task other found
    refine ⟨row, ?_, same, ending⟩
    rw [task_with_write middle ended.id id write keepsId, rowFound, Option.map_some, if_neg other]

theorem rows_end_of_tables (state middle next : State) (ended : Task) (record : CascadeRecord)
    (rowsEnd : RowsEnd state middle ended record) (tasks : next.tasks = middle.tasks) (told : next.told = middle.told) :
    RowsEnd state next ended record := by
  have sameFound : ∀ id, next.taskWith id = middle.taskWith id := by
    intro id
    rw [State.taskWith, tasks, State.taskWith]
  refine ⟨by rw [tasks, rowsEnd.ids], ?_, ?_, ?_⟩
  · intro task found
    rw [sameFound]
    exact rowsEnd.self task found
  · intro id task other found
    rw [sameFound]
    exact rowsEnd.others id task other found
  · intro id
    rw [tellings, told]
    exact rowsEnd.told id

theorem flip_row_self (ended : Task) (record : CascadeRecord) (now : Int) (row : Task) (here : row.id = ended.id)
    (parent : row.parent = ended.parent) : (flipRow ended record now row).ending = ended.ending := by
  by_cases top : ended.parent = none
  · have notChild : activeChild ended { row with ending := ended.ending } = false := by
      simp [activeChild, parent, top]
    simp only [flipRow, if_pos here, if_pos top, cascadeTask, notChild, Bool.false_eq_true, if_false]
  · simp only [flipRow, if_pos here, if_neg top]

theorem cascaded_ending_status (parent : Task) (record : CascadeRecord) (now : Int) (ending : Ending) :
    (cascadedEnding parent record now ending).status = record.status := by
  unfold cascadedEnding
  cases record.stopReason <;> cases record.outcomeReason <;> rfl

theorem flip_row_other (ended : Task) (record : CascadeRecord) (now : Int) (row : Task) (other : row.id ≠ ended.id) :
    if (decide (ended.parent = none) && activeChild ended row) = true
    then (flipRow ended record now row).ending.status = record.status
    else (flipRow ended record now row).ending = row.ending := by
  by_cases top : ended.parent = none
  · by_cases child : activeChild ended row = true
    · simp only [top, child, decide_true, Bool.and_self, if_true, flipRow, if_neg other, cascadeTask]
      exact cascaded_ending_status ended record now row.ending
    · simp [top, child, flipRow, if_neg other, cascadeTask]
  · simp [top, flipRow, if_neg other]

theorem enter_terminal_told (state : State) (task ended : Task) (stopReason : Option ReasonCode)
    (record : CascadeRecord) (now : Int) (ends : Ends state task ended) (unique : (state.tasks.map Task.id).Nodup)
    (id : TaskId) :
    tellings (enterTerminal state ended stopReason record now) id =
      tellings state id + (decide (id = ended.id)).toNat + (cascadesTo state ended id).toNat := by
  by_cases top : ended.parent = none
  case neg =>
    simp [tellings, enterTerminal, cascadesTo, top, State.writeTask, Bool.toNat, eq_comm]
  let write : Task → Task := fun row => { row with ending := ended.ending }
  let written := state.writeTask ended.id write
  have uniqueWritten : (written.tasks.map Task.id).Nodup := by
    rw [map_ids_write state ended.id write (fun _ => rfl)]
    exact unique
  have found : written.taskWith id = (state.taskWith id).map (fun row => if id = ended.id then write row else row) :=
    task_with_write state ended.id id write (fun _ => rfl)
  have sameChild : (written.taskWith id).any (activeChild ended) = (state.taskWith id).any (activeChild ended) := by
    rw [found]
    by_cases here : id = ended.id
    · have rowFound : state.taskWith id = some task := by
        rw [here, (ends_row state task ended ends).1]
        exact ends.found
      have noParent : task.parent = none := (ends_row state task ended ends).2.1 ▸ top
      simp [rowFound, if_pos here, activeChild, noParent, write]
    · simp [if_neg here]
  have counted := count_at_key Task.id id (activeChild ended) written.tasks uniqueWritten
  rw [← State.taskWith, sameChild] at counted
  have commuted : written.tasks.countP (fun row => decide (row.id = id) && activeChild ended row) =
      (written.tasks.filter (activeChild ended)).countP (fun row => decide (row.id = id)) := by
    rw [List.countP_filter]
  rw [commuted] at counted
  have toldEq : (enterTerminal state ended stopReason record now).told =
      state.told ++ [
        { task := ended.id, status := ended.ending.status, outcomeReason := ended.ending.outcomeReason
          stopReason := stopReason, cascaded := false }] ++
        (written.tasks.filter (activeChild ended)).map (fun child =>
          { task := child.id, status := record.status, outcomeReason := record.outcomeReason
            stopReason := record.stopReason, cascaded := true }) := by
    rw [enterTerminal, if_pos top]
    rfl
  rw [tellings, toldEq, List.countP_append, List.countP_append, List.countP_map]
  have sameCount : (written.tasks.filter (activeChild ended)).countP (fun row => decide (row.id = id)) =
      (cascadesTo state ended id).toNat := by
    simpa [cascadesTo, top] using counted
  by_cases here : id = ended.id
  · simpa [Function.comp_def, here, tellings] using here ▸ sameCount
  · simpa [Function.comp_def, here, Ne.symm here, tellings] using sameCount

theorem enter_terminal_rows (state : State) (task ended : Task) (stopReason : Option ReasonCode)
    (record : CascadeRecord) (now : Int) (ends : Ends state task ended) (unique : (state.tasks.map Task.id).Nodup) :
    RowsEnd state (enterTerminal state ended stopReason record now) ended record := by
  obtain ⟨endedId, endedParent, _, _, _⟩ := ends_row state task ended ends
  refine ⟨?_, ?_, ?_, enter_terminal_told state task ended stopReason record now ends unique⟩
  · by_cases top : ended.parent = none
    · have cascadeIds : ∀ row, (cascadeTask ended record now row).id = row.id := by
        intro row
        rw [cascade_task_keeps]
      simp [enterTerminal, if_pos top, cascade, Function.comp_def, cascadeIds, map_ids_write]
    · simp [enterTerminal, if_neg top, map_ids_write]
  · intro row rowFound
    refine ⟨flipRow ended record now row, ?_, ?_, ?_⟩
    · rw [enter_terminal_task, rowFound, Option.map_some]
    · rw [flip_row_keeps]
      rfl
    · have rowTask : row = task := Option.some.inj (rowFound.symm.trans (endedId ▸ ends.found))
      rw [flip_row_self ended record now row (rowTask ▸ endedId.symm) (rowTask ▸ endedParent.symm)]
  · intro id row other rowFound
    refine ⟨flipRow ended record now row, ?_, ?_, ?_⟩
    · rw [enter_terminal_task, rowFound, Option.map_some]
    · rw [flip_row_keeps]
      rfl
    · have rowId := task_with_id state id row rowFound
      have moved := flip_row_other ended record now row (rowId ▸ other)
      simpa [cascadesTo, rowFound] using moved

theorem stopped_on_rows (state : State) (request : StopRequest) (now : Int) (task ended : Task)
    (record : CascadeRecord) (event : StopEvent) (ends : Ends state task ended)
    (unique : (state.tasks.map Task.id).Nodup) :
    RowsEnd state (stoppedOn (enterTerminal state ended (some request.reason) record now) ended event request) ended
      record := by
  have flipped := enter_terminal_rows state task ended (some request.reason) record now ends unique
  have stamped := rows_end_write state _ ended record
    (stampStop (enterTerminal state ended (some request.reason) record now).announcements.length
      request.triggerSource) flipped (fun row => ⟨rfl, rfl⟩)
  exact rows_end_of_tables state _ _ ended record stamped rfl rfl

inductive Effect (state : State) (event : Event) (next : State) : Prop
  | starts (request : StartRequest) (parent : Option Task) (asked : event = .start request)
      (fresh : state.taskWith request.id = none)
      (containing : ∀ unit, parent = some unit → Contains state request unit)
      (named : parent.map Task.id = request.parentTaskId)
      (admitted : agreedPriceAdmitted (newTask request parent) = true)
      (made : next = { state with tasks := state.tasks ++ [newTask request parent] })
  | keeps (kept : RowsKept state next)
  | ends (task ended : Task) (record : CascadeRecord) (ends : Ends state task ended) (withdraws : record.Withdraws)
      (delivered : ended.ending.status = .completed → declaresDelivered event task.id)
      (rows : RowsEnd state next ended record)

theorem move_effect (state next : State) (event : Event) (unique : (state.tasks.map Task.id).Nodup)
    (moved : Move state event next) : Effect state event next := by
  cases moved with
  | same _ => exact .keeps (rows_kept_of_tables state _ rfl rfl)
  | started request parent fresh containing named admitted =>
      exact .starts request parent rfl fresh containing named admitted rfl
  | recorded report free outside => exact .keeps (rows_kept_of_tables state _ rfl rfl)
  | recordedInto report task free named found =>
      exact .keeps (rows_kept_write_both state _ task _ (rows_kept_of_tables state _ rfl rfl))
  | completed _ side posting amount found owes outside => exact .keeps (rows_kept_of_tables state _ rfl rfl)
  | completedInto _ side posting amount task found owes named unit =>
      exact .keeps (rows_kept_write_both state _ task _ (rows_kept_of_tables state _ rfl rfl))
  | ended _ task ended stopReason record now ends withdraws delivered silent =>
      exact .ends task ended record ends withdraws delivered
        (enter_terminal_rows state task ended stopReason record now ends unique)
  | charged request task ended price now ends delivered completed pinned whole chargeFree postingFree =>
      have flipped := enter_terminal_rows state task ended none withdrawnByAClose now ends unique
      have credited := rows_end_write state _ ended withdrawnByAClose (withTotals (addCharge price)) flipped
        (fun row => ⟨rfl, rfl⟩)
      exact .ends task ended withdrawnByAClose ends withdrawn_by_a_close_withdraws (fun _ => delivered)
        (rows_end_of_tables state _ _ ended withdrawnByAClose credited rfl rfl)
  | stopped request now task ended record announced named ends withdraws incomplete =>
      exact .ends task ended record ends withdraws (fun completed => absurd completed incomplete)
        (stopped_on_rows state request now task ended record announced ends unique)
  | reminted task stamp announced found stamped dead terminal =>
      exact .keeps (rows_kept_write state _ task.id _ (rows_kept_of_tables state _ rfl rfl) (fun row => ⟨rfl, rfl⟩))
  | relayed outboxId status => exact .keeps (rows_kept_of_tables state _ rfl rfl)
  | compensated id original correction found unit corrects key =>
      exact .keeps (rows_kept_of_tables state _ rfl rfl)

theorem task_with_none (state : State) (id : TaskId) : state.taskWith id = none ↔ id ∉ state.tasks.map Task.id := by
  simp [State.taskWith, List.find?_eq_none]

theorem found_before (state next : State) (ids : next.tasks.map Task.id = state.tasks.map Task.id) (id : TaskId)
    (row : Task) (found : next.taskWith id = some row) : ∃ task, state.taskWith id = some task := by
  cases before : state.taskWith id with
  | some task => exact ⟨task, rfl⟩
  | none =>
      rw [task_with_none, ← ids, ← task_with_none, found] at before
      cases before

end Ubb.Work
