import Mathlib.Tactic
import Ubb.Work.Rows

set_option autoImplicit false

namespace Ubb.Work

open Ubb.Library

-- A containing unit is whole work of the same customer, and it does not end
-- before what it contains.
structure Sound (state : State) : Prop where
  ids : (state.tasks.map Task.id).Nodup
  contained : ∀ id child parentId, state.taskWith id = some child → child.parent = some parentId →
    ∃ parent, state.taskWith parentId = some parent ∧ parent.parent = none ∧ parent.tenant = child.tenant ∧
      parent.customer = child.customer ∧
      (parent.ending.status.terminal = true → child.ending.status.terminal = true)
  priced : ∀ id task, state.taskWith id = some task → agreedPriceAdmitted task = true

theorem no_work_sound : Sound noWork := by
  refine ⟨List.nodup_nil, ?_, ?_⟩
  · intro id child parentId found
    cases found
  · intro id task found
    cases found

theorem active_not_terminal (status : TaskStatus) : status.terminal = false ↔ status = .active := by
  cases status <;> simp [TaskStatus.terminal]

theorem sound_starts (state : State) (request : StartRequest) (parent : Option Task) (sound : Sound state)
    (fresh : state.taskWith request.id = none) (containing : ∀ unit, parent = some unit → Contains state request unit)
    (admitted : agreedPriceAdmitted (newTask request parent) = true) :
    Sound { state with tasks := state.tasks ++ [newTask request parent] } := by
  have found := fun id => task_with_append state (newTask request parent) id fresh
  refine ⟨?_, ?_, ?_⟩
  · exact nodup_add_row Task.id state.tasks (newTask request parent) sound.ids
      (find_key_none Task.id request.id state.tasks fresh)
  · intro id child parentId childFound inside
    have old : ∀ unitId unit, state.taskWith unitId = some unit →
        { state with tasks := state.tasks ++ [newTask request parent] }.taskWith unitId = some unit := by
      intro unitId unit unitFound
      rw [found unitId, if_neg, unitFound]
      intro same
      rw [same] at unitFound
      exact absurd (fresh.symm.trans unitFound) (by simp)
    rw [found id] at childFound
    by_cases here : id = (newTask request parent).id
    · rw [if_pos here, Option.some.injEq] at childFound
      subst childFound
      obtain ⟨unit, parentEq, unitId⟩ := Option.map_eq_some_iff.mp inside
      have contains := containing unit parentEq
      refine ⟨unit, old parentId unit (unitId ▸ contains.found), contains.whole, contains.tenant, contains.customer, ?_⟩
      intro terminal
      rw [contains.active] at terminal
      cases terminal
    · rw [if_neg here] at childFound
      obtain ⟨unit, unitFound, facts⟩ := sound.contained id child parentId childFound inside
      exact ⟨unit, old parentId unit unitFound, facts⟩
  · intro id task taskFound
    rw [found id] at taskFound
    by_cases here : id = (newTask request parent).id
    · rw [if_pos here, Option.some.injEq] at taskFound
      exact taskFound ▸ admitted
    · rw [if_neg here] at taskFound
      exact sound.priced id task taskFound

theorem sound_kept (state next : State) (sound : Sound state) (kept : RowsKept state next) : Sound next := by
  have back : ∀ id row, next.taskWith id = some row →
      ∃ task, state.taskWith id = some task ∧ SameUnit task row ∧ row.ending = task.ending := by
    intro id row found
    obtain ⟨task, before⟩ := found_before state next kept.ids id row found
    obtain ⟨other, otherFound, same, ending⟩ := kept.rows id task before
    rw [found, Option.some.injEq] at otherFound
    subst otherFound
    exact ⟨task, before, same, ending⟩
  refine ⟨kept.ids ▸ sound.ids, ?_, ?_⟩
  · intro id row parentId found inside
    obtain ⟨child, before, same, ending⟩ := back id row found
    obtain ⟨parent, parentFound, whole, tenant, customer, closes⟩ :=
      sound.contained id child parentId before (same.parent ▸ inside)
    obtain ⟨parentRow, parentRowFound, parentSame, parentEnding⟩ := kept.rows parentId parent parentFound
    refine ⟨parentRow, parentRowFound, parentSame.parent.trans whole, ?_, ?_, ?_⟩
    · rw [parentSame.owner.1, same.owner.1, tenant]
    · rw [parentSame.owner.2, same.owner.2, customer]
    · rw [parentEnding, ending]
      exact closes
  · intro id row found
    obtain ⟨task, before, same, _⟩ := back id row found
    rw [same.agreed.2]
    exact sound.priced id task before

theorem rows_end_row (state next : State) (task ended : Task) (record : CascadeRecord) (ends : Ends state task ended)
    (withdraws : record.Withdraws) (rows : RowsEnd state next ended record) (id : TaskId) (before : Task)
    (found : state.taskWith id = some before) :
    ∃ row, next.taskWith id = some row ∧ SameUnit before row ∧
      ((id ≠ ended.id ∧ cascadesTo state ended id = false ∧ row.ending = before.ending) ∨
        ((id = ended.id ∨ cascadesTo state ended id = true) ∧ before.ending.status = .active ∧
          row.ending.status.terminal = true ∧
          (row.ending.status = .completed → id = ended.id ∧ ended.ending.status = .completed))) := by
  by_cases here : id = ended.id
  · subst here
    obtain ⟨row, rowFound, same, status⟩ := rows.self before found
    have beforeTask : before = task :=
      Option.some.inj (found.symm.trans ((ends_row state task ended ends).1 ▸ ends.found))
    refine ⟨row, rowFound, same, .inr ⟨.inl rfl, beforeTask ▸ ends.active, status ▸ ends.terminal, ?_⟩⟩
    intro completed
    exact ⟨rfl, status ▸ completed⟩
  · obtain ⟨row, rowFound, same, ending⟩ := rows.others id before here found
    refine ⟨row, rowFound, same, ?_⟩
    cases cascaded : cascadesTo state ended id with
    | false =>
        rw [cascaded] at ending
        exact .inl ⟨here, rfl, ending⟩
    | true =>
        rw [cascaded, if_pos rfl] at ending
        have child : activeChild ended before = true := by
          simp only [cascadesTo, found, Option.any_some, Bool.and_eq_true] at cascaded
          exact cascaded.2
        have active : before.ending.status = .active := by
          simp only [activeChild, decide_eq_true_eq] at child
          exact child.2
        refine .inr ⟨.inr rfl, active, ending ▸ withdraws.1, ?_⟩
        intro completed
        exact absurd (ending ▸ completed) withdraws.2

theorem sound_ends (state next : State) (task ended : Task) (record : CascadeRecord) (sound : Sound state)
    (ends : Ends state task ended) (withdraws : record.Withdraws) (rows : RowsEnd state next ended record) :
    Sound next := by
  have forward := rows_end_row state next task ended record ends withdraws rows
  have back : ∀ id row, next.taskWith id = some row → ∃ before, state.taskWith id = some before ∧ SameUnit before row := by
    intro id row found
    obtain ⟨before, beforeFound⟩ := found_before state next rows.ids id row found
    obtain ⟨other, otherFound, same, _⟩ := forward id before beforeFound
    rw [found, Option.some.injEq] at otherFound
    subst otherFound
    exact ⟨before, beforeFound, same⟩
  refine ⟨rows.ids ▸ sound.ids, ?_, ?_⟩
  · intro id childRow parentId found inside
    obtain ⟨child, childFound, childSame⟩ := back id childRow found
    have childInside : child.parent = some parentId := childSame.parent ▸ inside
    obtain ⟨parent, parentFound, whole, tenant, customer, closes⟩ :=
      sound.contained id child parentId childFound childInside
    obtain ⟨parentRow, parentRowFound, parentSame, parentMoved⟩ := forward parentId parent parentFound
    obtain ⟨row, rowFound, _, childMoved⟩ := forward id child childFound
    rw [found, Option.some.injEq] at rowFound
    subst rowFound
    refine ⟨parentRow, parentRowFound, parentSame.parent.trans whole, ?_, ?_, ?_⟩
    · rw [parentSame.owner.1, childSame.owner.1, tenant]
    · rw [parentSame.owner.2, childSame.owner.2, customer]
    · intro parentTerminal
      rcases childMoved with ⟨otherChild, notCascaded, childEnding⟩ | ⟨_, _, childTerminal, _⟩
      · rw [childEnding]
        rcases parentMoved with ⟨_, _, parentEnding⟩ | ⟨isEnded, parentActive, _, _⟩
        · exact closes (parentEnding ▸ parentTerminal)
        · -- The parent ended in this very step. It is whole work, so it ended
          -- by the transition and not by a cascade, and its cascade ran.
          have parentIsEnded : parentId = ended.id := by
            rcases isEnded with same | cascaded
            · exact same
            · simp [cascadesTo, parentFound, activeChild, whole] at cascaded
          have endedWhole : ended.parent = none := by
            have parentTask : parent = task := by
              rw [parentIsEnded, (ends_row state task ended ends).1] at parentFound
              exact Option.some.inj (parentFound.symm.trans ends.found)
            rw [(ends_row state task ended ends).2.1, ← parentTask, whole]
          by_contra running
          have childActive := (active_not_terminal child.ending.status).mp (Bool.not_eq_true _ ▸ running)
          simp [cascadesTo, childFound, activeChild, endedWhole, childInside, parentIsEnded, childActive] at notCascaded
      · exact childTerminal
  · intro id row found
    obtain ⟨before, beforeFound, same⟩ := back id row found
    rw [same.agreed.2]
    exact sound.priced id before beforeFound

theorem sound_step (state : State) (event : Event) (sound : Sound state) : Sound (step state event) := by
  cases move_effect state (step state event) event sound.ids (step_moves state event) with
  | starts request parent asked fresh containing named admitted made =>
      rw [made]
      exact sound_starts state request parent sound fresh containing admitted
  | keeps kept => exact sound_kept state _ sound kept
  | ends task ended record ends withdraws delivered rows =>
      exact sound_ends state _ task ended record sound ends withdraws rows

theorem sound_run (events : List Event) : Sound (run step noWork events) := by
  apply run_invariant step Sound (fun _ => True)
  · intro state event sound _
    exact sound_step state event sound
  · exact no_work_sound
  · simp

end Ubb.Work
