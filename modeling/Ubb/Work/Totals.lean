import Mathlib.Tactic
import Ubb.Work.Lifecycle

set_option autoImplicit false

namespace Ubb.Work

open Ubb.Library

-- A unit keeps four running figures and a posting contributes to each of them;
-- the argument is the same for all four.
inductive Column where
  | billed
  | unpriced
  | provider
  | unresolved
deriving DecidableEq, Repr

def Totals.column (totals : Totals) : Column → Int
  | .billed => totals.totalBilledCostMicros
  | .unpriced => totals.unpricedEventCount
  | .provider => totals.totalProviderCostMicros
  | .unresolved => totals.unresolvedEventCount

def Costing.column (costing : Costing) : Column → Int
  | .billed => costing.billedCostMicros.getD 0
  | .unpriced => if costing.pricingStatus = .unknown then 1 else 0
  | .provider => costing.providerCostMicros.getD 0
  | .unresolved => if costing.costingStatus = .unresolved then 1 else 0

def inUnit (state : State) (id : TaskId) (posting : Posting) : Bool :=
  match posting.task with
  | none => false
  | some unit => decide (unit = id) || (state.taskWith unit).any (fun task => decide (task.parent = some id))

def unitSum (state : State) (id : TaskId) (measure : Posting → Int) : Int :=
  ((state.postings.filter (inUnit state id)).map measure).sum

theorem add_costs_column (costing : Costing) (totals : Totals) (column : Column) :
    (addCosts costing totals).column column = totals.column column + costing.column column := by
  obtain ⟨provider, costed, billed, priced, costAgrees, priceAgrees⟩ := costing
  cases provider <;> cases billed <;> cases costed <;> simp at costAgrees <;> cases priced <;> simp at priceAgrees <;>
    cases column <;> simp [addCosts, Totals.column, Costing.column]

theorem take_up_column (costing : Costing) (side : Side) (amount : Int) (totals : Totals) (column : Column)
    (owes : costing.owes side = true) :
    (takeUp side amount totals).column column =
      totals.column column - costing.column column + (costing.complete side amount).column column := by
  obtain ⟨provider, costed, billed, priced, costAgrees, priceAgrees⟩ := costing
  cases side with
  | supplierCost =>
      simp only [Costing.owes, decide_eq_true_eq] at owes
      obtain ⟨rfl, rfl⟩ := owes
      cases column <;> cases priced <;> simp [takeUp, Totals.column, Costing.column, Costing.complete]
  | customerPrice =>
      simp only [Costing.owes, decide_eq_true_eq] at owes
      obtain ⟨rfl, rfl⟩ := owes
      cases column <;> cases costed <;> simp [takeUp, Totals.column, Costing.column, Costing.complete]

theorem add_charge_column (price : Int) (totals : Totals) (column : Column) :
    (addCharge price totals).column column = totals.column column + (projectedCosting price).column column := by
  cases column <;> simp [addCharge, Totals.column, Costing.column, projectedCosting]

structure Folded (state : State) : Prop where
  ids : (state.postings.map Posting.id).Nodup
  units : ∀ posting ∈ state.postings, ∀ unit, posting.task = some unit → ∃ task, state.taskWith unit = some task
  folds : ∀ id task column, state.taskWith id = some task →
    task.totals.column column = unitSum state id (fun posting => posting.costing.column column)

structure Credited (state next : State) (touched : TaskId → Bool) (delta : Column → Int) : Prop where
  ids : next.tasks.map Task.id = state.tasks.map Task.id
  rows : ∀ id task, state.taskWith id = some task → ∃ row, next.taskWith id = some row ∧ row.parent = task.parent ∧
    ∀ column, row.totals.column column = task.totals.column column + if touched id then delta column else 0

theorem Credited.back {state next : State} {touched : TaskId → Bool} {delta : Column → Int}
    (credited : Credited state next touched delta) (id : TaskId) (row : Task) (found : next.taskWith id = some row) :
    ∃ task, state.taskWith id = some task ∧ row.parent = task.parent ∧
      ∀ column, row.totals.column column = task.totals.column column + if touched id then delta column else 0 := by
  obtain ⟨task, before⟩ := found_before state next credited.ids id row found
  obtain ⟨other, otherFound, parent, totals⟩ := credited.rows id task before
  rw [found, Option.some.injEq] at otherFound
  subst otherFound
  exact ⟨task, before, parent, totals⟩

theorem in_unit_credited (state next : State) (touched : TaskId → Bool) (delta : Column → Int)
    (credited : Credited state next touched delta) (id : TaskId) (posting : Posting)
    (known : ∀ unit, posting.task = some unit → ∃ task, state.taskWith unit = some task) :
    inUnit next id posting = inUnit state id posting := by
  unfold inUnit
  cases named : posting.task with
  | none => rfl
  | some unit =>
      obtain ⟨task, found⟩ := known unit named
      obtain ⟨row, rowFound, parent, _⟩ := credited.rows unit task found
      simp [found, rowFound, parent]

theorem folds_credited (state next : State) (touched : TaskId → Bool) (delta : Column → Int) (folded : Folded state)
    (credited : Credited state next touched delta)
    (sums : ∀ id column, unitSum next id (fun posting => posting.costing.column column) =
      unitSum state id (fun posting => posting.costing.column column) + if touched id then delta column else 0)
    (id : TaskId) (row : Task) (column : Column) (found : next.taskWith id = some row) :
    row.totals.column column = unitSum next id (fun posting => posting.costing.column column) := by
  obtain ⟨task, before, _, totals⟩ := credited.back id row found
  rw [totals column, sums id column, folded.folds id task column before]

theorem unit_sum_same_postings (state next : State) (touched : TaskId → Bool) (delta : Column → Int)
    (folded : Folded state) (credited : Credited state next touched delta) (same : next.postings = state.postings)
    (id : TaskId) (measure : Posting → Int) : unitSum next id measure = unitSum state id measure := by
  unfold unitSum
  rw [same]
  congr 2
  apply List.filter_congr
  intro posting member
  exact in_unit_credited state next touched delta credited id posting (folded.units posting member)

theorem folded_same_postings (state next : State) (folded : Folded state)
    (credited : Credited state next (fun _ => false) (fun _ => 0)) (same : next.postings = state.postings) :
    Folded next := by
  refine ⟨same ▸ folded.ids, ?_, ?_⟩
  · intro posting member unit named
    obtain ⟨task, found⟩ := folded.units posting (same ▸ member) unit named
    obtain ⟨row, rowFound, _⟩ := credited.rows unit task found
    exact ⟨row, rowFound⟩
  · apply folds_credited state next _ _ folded credited
    intro id column
    rw [unit_sum_same_postings state next _ _ folded credited same]
    simp

theorem folded_posted (state next : State) (posting : Posting) (touched : TaskId → Bool) (folded : Folded state)
    (credited : Credited state next touched posting.costing.column) (appended : next.postings = state.postings ++ [posting])
    (free : state.postingWith posting.id = none)
    (known : ∀ unit, posting.task = some unit → ∃ task, state.taskWith unit = some task)
    (stands : ∀ id, inUnit state id posting = touched id) : Folded next := by
  have knownAll : ∀ other ∈ next.postings, ∀ unit, other.task = some unit → ∃ task, state.taskWith unit = some task := by
    intro other member unit named
    rw [appended, List.mem_append, List.mem_singleton] at member
    rcases member with old | new
    · exact folded.units other old unit named
    · exact known unit (new ▸ named)
  refine ⟨?_, ?_, ?_⟩
  · rw [appended]
    exact nodup_add_row Posting.id state.postings posting folded.ids
      (find_key_none Posting.id posting.id state.postings free)
  · intro other member unit named
    obtain ⟨task, found⟩ := knownAll other member unit named
    obtain ⟨row, rowFound, _⟩ := credited.rows unit task found
    exact ⟨row, rowFound⟩
  · apply folds_credited state next touched posting.costing.column folded credited
    intro id column
    have sameFilter : next.postings.filter (inUnit next id) = next.postings.filter (inUnit state id) := by
      apply List.filter_congr
      intro other member
      exact in_unit_credited state next touched _ credited id other (knownAll other member)
    rw [unitSum, sameFilter, appended, List.filter_append, List.map_append, List.sum_append, ← unitSum]
    cases inside : touched id <;> simp [stands id, inside]

theorem folded_completed (state next : State) (posting : Posting) (side : Side) (amount : Int)
    (touched : TaskId → Bool) (folded : Folded state) (member : posting ∈ state.postings)
    (credited : Credited state next touched
      (fun column => (posting.costing.complete side amount).column column - posting.costing.column column))
    (completed : next.postings = updateRow Posting.id posting.id (completePosting side amount) state.postings)
    (stands : ∀ id, inUnit state id posting = touched id) : Folded next := by
  have sameTask : ∀ other, (completePosting side amount other).task = other.task := fun _ => rfl
  have sameInUnit : ∀ id other, inUnit state id (completePosting side amount other) = inUnit state id other := fun _ _ => rfl
  have knownAll : ∀ other ∈ next.postings, ∀ unit, other.task = some unit → ∃ task, state.taskWith unit = some task := by
    intro other found unit named
    rw [completed] at found
    rcases mem_update_row Posting.id posting.id _ state.postings other found with ⟨old, _⟩ | ⟨old, oldMember, _, written⟩
    · exact folded.units other old unit named
    · exact folded.units old oldMember unit (by rw [written, sameTask] at named; exact named)
  refine ⟨?_, ?_, ?_⟩
  · rw [completed, update_row_map Posting.id posting.id (completePosting side amount) state.postings Posting.id
      (fun _ => rfl)]
    exact folded.ids
  · intro other found unit named
    obtain ⟨task, taskFound⟩ := knownAll other found unit named
    obtain ⟨row, rowFound, _⟩ := credited.rows unit task taskFound
    exact ⟨row, rowFound⟩
  · apply folds_credited state next touched _ folded credited
    intro id column
    have sameFilter : next.postings.filter (inUnit next id) = next.postings.filter (inUnit state id) := by
      apply List.filter_congr
      intro other found
      exact in_unit_credited state next touched _ credited id other (knownAll other found)
    rw [unitSum, sameFilter, completed, sum_filter_eq, unitSum, sum_filter_eq,
      sum_update_row Posting.id posting.id _ _ state.postings posting folded.ids member rfl, sameInUnit, stands id]
    cases inside : touched id
    · simp
    · simp [completePosting]
      ring

theorem credited_kept (state next : State) (ids : next.tasks.map Task.id = state.tasks.map Task.id)
    (rows : ∀ id task, state.taskWith id = some task →
      ∃ row, next.taskWith id = some row ∧ row.parent = task.parent ∧ row.totals = task.totals) :
    Credited state next (fun _ => false) (fun _ => 0) := by
  refine ⟨ids, ?_⟩
  intro id task found
  obtain ⟨row, rowFound, parent, totals⟩ := rows id task found
  refine ⟨row, rowFound, parent, ?_⟩
  intro column
  simp [totals]

theorem credited_same_tasks (state next : State) (same : next.tasks = state.tasks) :
    Credited state next (fun _ => false) (fun _ => 0) := by
  apply credited_kept state next (by rw [same])
  intro id task found
  refine ⟨task, ?_, rfl, rfl⟩
  rw [State.taskWith, same]
  exact found

theorem credited_write_kept (state : State) (target : TaskId) (write : Task → Task)
    (keeps : ∀ task, (write task).id = task.id ∧ (write task).parent = task.parent ∧ (write task).totals = task.totals) :
    Credited state (state.writeTask target write) (fun _ => false) (fun _ => 0) := by
  have keepsId : ∀ task, (write task).id = task.id := fun task => (keeps task).1
  apply credited_kept _ _ (map_ids_write state target write keepsId)
  intro id task found
  rw [task_with_write state target id write keepsId, found, Option.map_some]
  by_cases hit : id = target
  · exact ⟨write task, by rw [if_pos hit], (keeps task).2⟩
  · exact ⟨task, by rw [if_neg hit], rfl, rfl⟩

theorem credited_enter_terminal (state : State) (task ended : Task) (stopReason : Option ReasonCode)
    (record : CascadeRecord) (now : Int) (ends : Ends state task ended) (unique : (state.tasks.map Task.id).Nodup) :
    Credited state (enterTerminal state ended stopReason record now) (fun _ => false) (fun _ => 0) := by
  apply credited_kept _ _ (enter_terminal_rows state task ended stopReason record now ends unique).ids
  intro id row found
  refine ⟨flipRow ended record now row, ?_, ?_, ?_⟩
  · rw [enter_terminal_task, found, Option.map_some]
  · rw [flip_row_keeps]
  · rw [flip_row_keeps]

def touches (task : Task) (id : TaskId) : Bool := decide (task.id = id) || decide (task.parent = some id)

theorem in_unit_touches (state : State) (task : Task) (id : TaskId) (posting : Posting)
    (found : state.taskWith task.id = some task) (named : posting.task = some task.id) :
    inUnit state id posting = touches task id := by
  simp [inUnit, named, found, touches]

theorem credited_write (state : State) (target : TaskId) (write : Totals → Totals) (delta : Column → Int)
    (moves : ∀ totals column, (write totals).column column = totals.column column + delta column) :
    Credited state (state.writeTask target (withTotals write)) (fun id => decide (target = id)) delta := by
  refine ⟨map_ids_write state target (withTotals write) (fun _ => rfl), ?_⟩
  intro id task found
  rw [task_with_write state target id (withTotals write) (fun _ => rfl), found, Option.map_some]
  by_cases hit : target = id
  · refine ⟨withTotals write task, by rw [if_pos hit.symm], rfl, ?_⟩
    intro column
    simp [hit, withTotals, moves]
  · refine ⟨task, by rw [if_neg (Ne.symm hit)], rfl, ?_⟩
    intro column
    simp [hit]

-- The containing unit is another row: contained work never contains itself.
theorem credited_write_both (state : State) (task : Task) (write : Totals → Totals) (delta : Column → Int)
    (moves : ∀ totals column, (write totals).column column = totals.column column + delta column)
    (apart : task.parent ≠ some task.id) : Credited state (writeBoth state task write) (touches task) delta := by
  cases inside : task.parent with
  | none =>
      have alone : touches task = fun id => decide (task.id = id) := by
        funext id
        simp [touches, inside]
      rw [writeBoth, inside, alone]
      exact credited_write state task.id write delta moves
  | some parent =>
      have first := credited_write state task.id write delta moves
      have second := credited_write (state.writeTask task.id (withTotals write)) parent write delta moves
      rw [writeBoth, inside]
      refine ⟨second.ids.trans first.ids, ?_⟩
      intro id row found
      obtain ⟨middle, middleFound, middleParent, middleTotals⟩ := first.rows id row found
      obtain ⟨last, lastFound, lastParent, lastTotals⟩ := second.rows id middle middleFound
      refine ⟨last, lastFound, lastParent.trans middleParent, ?_⟩
      intro column
      rw [lastTotals column, middleTotals column]
      by_cases self : task.id = id
      · have other : parent ≠ id := fun same => apart (by rw [inside, same, self])
        simp [touches, inside, self, other]
      · by_cases above : parent = id
        · simp [touches, inside, self, above]
        · simp [touches, inside, self, above]

theorem folded_started (state : State) (request : StartRequest) (parent : Option Task) (sound : Sound state)
    (folded : Folded state) (fresh : state.taskWith request.id = none) :
    Folded { state with tasks := state.tasks ++ [newTask request parent] } := by
  have found := fun id => task_with_append state (newTask request parent) id fresh
  have oldUnit : ∀ posting ∈ state.postings, ∀ unit, posting.task = some unit → unit ≠ (newTask request parent).id := by
    intro posting member unit named same
    obtain ⟨task, taskFound⟩ := folded.units posting member unit named
    have newId : (newTask request parent).id = request.id := rfl
    rw [same, newId, fresh] at taskFound
    cases taskFound
  refine ⟨folded.ids, ?_, ?_⟩
  · intro posting member unit named
    obtain ⟨task, taskFound⟩ := folded.units posting member unit named
    exact ⟨task, by rw [found unit, if_neg (oldUnit posting member unit named), taskFound]⟩
  · intro id task column taskFound
    have sameInUnit : ∀ posting ∈ state.postings,
        inUnit { state with tasks := state.tasks ++ [newTask request parent] } id posting = inUnit state id posting := by
      intro posting member
      unfold inUnit
      cases named : posting.task with
      | none => rfl
      | some unit =>
          simp only
          rw [found unit, if_neg (oldUnit posting member unit named)]
    rw [unitSum, List.filter_congr sameInUnit, ← unitSum]
    rw [found id] at taskFound
    by_cases here : id = (newTask request parent).id
    · rw [if_pos here, Option.some.injEq] at taskFound
      -- No posting stands in a unit that was not there: neither by naming it
      -- nor through a unit it contains.
      have outside : state.postings.filter (inUnit state id) = [] := by
        rw [List.filter_eq_nil_iff]
        intro posting member stands
        unfold inUnit at stands
        cases named : posting.task with
        | none => simp [named] at stands
        | some unit =>
            obtain ⟨child, childFound⟩ := folded.units posting member unit named
            simp only [named, childFound, Option.any_some, Bool.or_eq_true, decide_eq_true_eq] at stands
            rcases stands with same | inside
            · exact oldUnit posting member unit named (same.trans here)
            · obtain ⟨missing, missingFound, _⟩ := sound.contained unit child id childFound inside
              have newId : (newTask request parent).id = request.id := rfl
              rw [here, newId, fresh] at missingFound
              cases missingFound
      rw [unitSum, outside, ← taskFound]
      cases column <;> rfl
    · rw [if_neg here] at taskFound
      exact folded.folds id task column taskFound

theorem parent_apart (state : State) (sound : Sound state) (task : Task) (found : state.taskWith task.id = some task) :
    task.parent ≠ some task.id := by
  intro inside
  obtain ⟨parent, parentFound, whole, _⟩ := sound.contained task.id task task.id found inside
  rw [found, Option.some.injEq] at parentFound
  rw [← parentFound, inside] at whole
  cases whole

theorem credited_over (state middle next : State) (touched : TaskId → Bool) (delta : Column → Int)
    (same : middle.tasks = state.tasks) (credited : Credited middle next touched delta) :
    Credited state next touched delta := by
  refine ⟨by rw [credited.ids, same], ?_⟩
  intro id task found
  apply credited.rows id task
  rw [State.taskWith, same]
  exact found

theorem credited_tables (state written next : State) (touched : TaskId → Bool) (delta : Column → Int)
    (credited : Credited state written touched delta) (same : next.tasks = written.tasks) :
    Credited state next touched delta := by
  refine ⟨by rw [same, credited.ids], ?_⟩
  intro id task found
  rw [State.taskWith, same, ← State.taskWith]
  exact credited.rows id task found

theorem write_both_postings (state : State) (task : Task) (write : Totals → Totals) :
    (writeBoth state task write).postings = state.postings := by
  unfold writeBoth
  cases task.parent <;> rfl

theorem folded_move (state next : State) (event : Event) (sound : Sound state) (folded : Folded state)
    (moved : Move state event next) : Folded next := by
  cases moved with
  | same _ => exact folded
  | started request parent fresh containing named admitted =>
      exact folded_started state request parent sound folded fresh
  | recorded report free outside =>
      refine folded_posted state _ report.posting (fun _ => false) folded ?_ rfl free.id ?_ ?_
      · have kept := credited_same_tasks state (posted state report.posting) rfl
        exact ⟨kept.ids, fun id task found => by simpa using kept.rows id task found⟩
      · intro unit named
        rw [Report.posting, outside] at named
        cases named
      · intro id
        simp [inUnit, Report.posting, outside]
  | recordedInto report task free named found =>
      refine folded_posted state _ report.posting (touches task) folded ?_ ?_ free.id ?_ ?_
      · exact credited_over state (posted state report.posting) _ _ _ rfl
          (credited_write_both _ task _ _ (add_costs_column report.costing) (parent_apart state sound task found))
      · exact write_both_postings _ task _
      · intro unit unitNamed
        rw [Report.posting, named, Option.some.injEq] at unitNamed
        exact ⟨task, unitNamed ▸ found⟩
      · intro id
        exact in_unit_touches state task id report.posting found named
  | completed _ side posting amount found owes outside =>
      refine folded_completed state _ posting side amount (fun _ => false) folded (List.mem_of_find?_eq_some found) ?_ rfl ?_
      · have kept := credited_same_tasks state (completedOn state side posting.id amount) rfl
        exact ⟨kept.ids, fun id task found => by simpa using kept.rows id task found⟩
      · intro id
        simp [inUnit, outside]
  | completedInto _ side posting amount task found owes named unit =>
      refine folded_completed state _ posting side amount (touches task) folded (List.mem_of_find?_eq_some found) ?_ ?_ ?_
      · refine credited_over state (completedOn state side posting.id amount) _ _ _ rfl
          (credited_write_both _ task _ _ ?_ (parent_apart state sound task unit))
        intro totals column
        rw [take_up_column posting.costing side amount totals column owes]
        omega
      · exact write_both_postings _ task _
      · intro id
        exact in_unit_touches state task id posting unit named
  | ended _ task ended stopReason record now ends withdraws delivered silent =>
      exact folded_same_postings state _ folded
        (credited_enter_terminal state task ended stopReason record now ends sound.ids) (by simp)
  | charged request task ended price now ends delivered completed pinned whole chargeFree postingFree =>
      have endedId := (ends_row state task ended ends).1
      have entered := credited_enter_terminal state task ended none withdrawnByAClose now ends sound.ids
      have middle := folded_same_postings state _ folded entered (by simp)
      obtain ⟨row, rowFound, rowParent, _⟩ := entered.rows ended.id task (endedId ▸ ends.found)
      refine folded_posted _ _ (chargePosting ended price request.postingId) (fun id => decide (ended.id = id)) middle
        ?_ rfl ?_ ?_ ?_
      · exact credited_tables _ _ _ _ _ (credited_write _ ended.id _ _ (add_charge_column price)) rfl
      · rw [State.postingWith, enter_terminal_postings]
        exact postingFree.id
      · intro unit named
        rw [chargePosting, Option.some.injEq] at named
        exact ⟨row, named ▸ rowFound⟩
      · intro id
        have noParent : row.parent = none := by rw [rowParent, ← (ends_row state task ended ends).2.1, whole]
        simp [inUnit, chargePosting, rowFound, noParent]
  | stopped request now task ended record announced named ends withdraws incomplete =>
      have entered := credited_enter_terminal state task ended (some request.reason) record now ends sound.ids
      have middle := folded_same_postings state _ folded entered (by simp)
      refine folded_same_postings _ _ middle ?_ rfl
      exact credited_tables _ _ _ _ _ (credited_write_kept _ ended.id
        (stampStop (enterTerminal state ended (some request.reason) record now).announcements.length
          request.triggerSource) (fun _ => ⟨rfl, rfl, rfl⟩)) rfl
  | reminted task stamp announced found stamped dead terminal =>
      refine folded_same_postings state _ folded ?_ rfl
      exact credited_tables _ _ _ _ _ (credited_write_kept state task.id
        (fun row => { row with announceOutboxId := some state.announcements.length }) (fun _ => ⟨rfl, rfl, rfl⟩)) rfl
  | relayed outboxId status => exact folded_same_postings state _ folded (credited_same_tasks state _ rfl) rfl
  | compensated charge original correction found unit corrects key =>
      exact folded_same_postings state _ folded (credited_same_tasks state _ rfl) rfl

end Ubb.Work
