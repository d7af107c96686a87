import Ubb.Work.Replays

set_option autoImplicit false

-- What holds of a tenant's units in any run of starts: each claim is one unit's,
-- and contained work sits one level down, under its own customer and regime.
namespace Ubb.Work.Starts

open Ubb.Library
open Ubb.Work.Grouping

def StartedTask.claim (task : StartedTask) : Uuid × String := (task.customer, task.idempotencyKey)

def Contains (containing task : StartedTask) : Prop :=
  task.parent = some containing.id ∧ containing.parent = none ∧ containing.customer = task.customer ∧
    containing.pricingMode = task.pricingMode

structure Contained (world : World) : Prop where
  numbered : world.tasks.map StartedTask.id = List.range world.tasks.length
  claims : (world.tasks.map StartedTask.claim).Nodup
  within : ∀ task ∈ world.tasks, task.parent ≠ none → ∃ containing ∈ world.tasks, Contains containing task

section

variable {Raw : Type} (str : Raw → String)

theorem parent_for_some (world : World) (customer : Uuid) (named : Option Nat) (parent : StartedTask)
    (resolved : parentFor world customer named = .ok (some parent)) :
    parent ∈ world.tasks ∧ parent.customer = customer ∧ parent.parent = none ∧ parent.status = .active := by
  cases named with
  | none => cases resolved
  | some parentTaskId =>
    simp only [parentFor] at resolved
    split at resolved
    · cases resolved
    · rename_i held found
      split at resolved
      · cases resolved
      · rename_i top
        split at resolved
        · cases resolved
        · rename_i active
          cases resolved
          have matched := List.find?_some found
          rw [decide_eq_true_iff] at matched
          exact ⟨List.mem_of_find?_eq_some found, matched.2, by simpa using top, not_not.mp active⟩

theorem regime_refusal_ok (parent : StartedTask) (pricingMode : PricingMode)
    (accepted : regimeRefusal (some parent) pricingMode = .ok ()) : parent.pricingMode = pricingMode := by
  rw [regimeRefusal] at accepted
  split at accepted
  · cases accepted
  · rename_i same
    exact not_not.mp same

theorem start_new_rows (world next : World) (payload : StartTaskRequest Raw) (verdicts : Verdicts) (now : Int)
    (answer : StartTaskResponse) (started : startNew str world payload verdicts now = .ok (next, answer)) :
    ∃ parent policy ledger agreedPrice, parentFor world payload.customerId payload.parentTaskId = .ok parent ∧
      admitValues str world.registry world.ledger payload.groupingFields (if parent.isSome then .subtask else .task) =
        .ok (policy.groupingSlots, ledger) ∧
      regimeRefusal parent policy.pricingMode = .ok () ∧
      next = { world with
        ledger := ledger
        tasks := world.tasks ++ [createTask world payload parent policy agreedPrice now] } := by
  simp only [startNew, bind_eq_ok, map_error_eq_ok, pure_eq_ok, Prod.mk.injEq] at started
  obtain ⟨_, _, _, _, parent, named, ⟨policy, ledger⟩, resolved, agreedPrice, _, _, regime, _, _, rfl, _⟩ := started
  simp only [resolveStartPolicy, bind_eq_ok, map_error_eq_ok, pure_eq_ok, Prod.mk.injEq] at resolved
  obtain ⟨_, _, ⟨slots, recorded⟩, admitted, _, _, ceiling, _, rfl, rfl⟩ := resolved
  exact ⟨parent, _, recorded, agreedPrice, named, admitted, regime, rfl⟩

inductive UnitsMove (world : World) : World → Prop
  | kept (next : World) (same : next.tasks = world.tasks) : UnitsMove world next
  | started (next : World) (payload : StartTaskRequest Raw) (parent : Option StartedTask) (policy : StartPolicy)
      (ledger : ValueLedger) (agreedPrice : Option Int) (now : Int)
      (free : claimedBy world payload.customerId payload.idempotencyKey = none)
      (named : parentFor world payload.customerId payload.parentTaskId = .ok parent)
      (admitted : admitValues str world.registry world.ledger payload.groupingFields
        (if parent.isSome then .subtask else .task) = .ok (policy.groupingSlots, ledger))
      (regime : regimeRefusal parent policy.pricingMode = .ok ())
      (same : next = { world with
        ledger := ledger
        tasks := world.tasks ++ [createTask world payload parent policy agreedPrice now] }) : UnitsMove world next
  | moved (id : Nat) (status : TaskStatus) :
      UnitsMove world { world with tasks := updateRow StartedTask.id id (StartedTask.to status) world.tasks }

theorem declare_kind_tasks (world : World) (row : TaskType) :
    (declareKind world row).tasks = world.tasks ∧ (declareKind world row).registry = world.registry ∧
      (declareKind world row).ledger = world.ledger := by
  rw [declareKind]
  split
  · exact ⟨rfl, rfl, rfl⟩
  · split
    · exact ⟨rfl, rfl, rfl⟩
    · split
      · exact ⟨rfl, rfl, rfl⟩
      · split
        · exact ⟨rfl, rfl, rfl⟩
        · exact ⟨rfl, rfl, rfl⟩

theorem step_units (world : World) (event : Event Raw) : UnitsMove str world (step str world event) := by
  cases event with
  | start payload verdicts now =>
    rw [step]
    split
    · rename_i next answer accepted
      obtain ⟨_, ⟨claimed, _, _, same, _⟩ | ⟨free, started⟩⟩ :=
        start_ok_cases str world next payload verdicts now answer accepted
      · exact .kept next (by rw [same])
      · obtain ⟨parent, policy, ledger, agreedPrice, named, admitted, regime, same⟩ :=
          start_new_rows str world next payload verdicts now answer started
        exact .started next payload parent policy ledger agreedPrice now free named admitted regime same
    · exact .kept world rfl
  | declareGroupingField key slot scope maxCardinality =>
    rw [step]
    split
    · exact .kept _ rfl
    · exact .kept _ rfl
  | retireGroupingField key retired => exact .kept _ rfl
  | declareKind row => exact .kept _ (declare_kind_tasks world row).1
  | configure tenant => exact .kept _ rfl
  | addCustomer customer => exact .kept _ rfl
  | move id status => exact .moved id status

theorem contained_started (world : World) (contained : Contained world) (payload : StartTaskRequest Raw)
    (parent : Option StartedTask) (policy : StartPolicy) (agreedPrice : Option Int) (now : Int) (ledger : ValueLedger)
    (free : claimedBy world payload.customerId payload.idempotencyKey = none)
    (named : parentFor world payload.customerId payload.parentTaskId = .ok parent)
    (regime : regimeRefusal parent policy.pricingMode = .ok ()) :
    Contained { world with
      ledger := ledger
      tasks := world.tasks ++ [createTask world payload parent policy agreedPrice now] } := by
  refine ⟨?_, ?_, ?_⟩
  · show (world.tasks ++ [createTask world payload parent policy agreedPrice now]).map StartedTask.id = _
    rw [List.map_append, contained.numbered, List.length_append, List.length_singleton, List.range_succ]
    rfl
  · apply nodup_add_row StartedTask.claim world.tasks _ contained.claims
    intro other member same
    have missed := List.find?_eq_none.mp free other member
    rw [decide_eq_true_iff] at missed
    exact missed ⟨congrArg Prod.fst same, congrArg Prod.snd same⟩
  · intro task member inside
    rcases List.mem_append.mp member with old | new
    · obtain ⟨containing, held, contains⟩ := contained.within task old inside
      exact ⟨containing, List.mem_append_left _ held, contains⟩
    · rw [List.mem_singleton] at new
      subst new
      cases parent with
      | none => exact absurd rfl inside
      | some containing =>
        obtain ⟨held, customer, top, _⟩ := parent_for_some world payload.customerId payload.parentTaskId containing named
        exact ⟨containing, List.mem_append_left _ held, rfl, top, customer,
          regime_refusal_ok containing policy.pricingMode regime⟩

theorem contained_moved (world : World) (contained : Contained world) (id : Nat) (status : TaskStatus) :
    Contained { world with tasks := updateRow StartedTask.id id (StartedTask.to status) world.tasks } := by
  refine ⟨?_, ?_, ?_⟩
  · show (updateRow StartedTask.id id (StartedTask.to status) world.tasks).map StartedTask.id =
      List.range (updateRow StartedTask.id id (StartedTask.to status) world.tasks).length
    rw [update_row_map StartedTask.id id (StartedTask.to status) world.tasks StartedTask.id (fun _ => rfl), updateRow,
      List.length_map]
    exact contained.numbered
  · show ((updateRow StartedTask.id id (StartedTask.to status) world.tasks).map StartedTask.claim).Nodup
    rw [update_row_map StartedTask.id id (StartedTask.to status) world.tasks StartedTask.claim (fun _ => rfl)]
    exact contained.claims
  · intro task member inside
    -- A status is nothing that containment reads, on either side of it.
    have before : ∃ old ∈ world.tasks, ∃ reached, task = old.to reached := by
      rcases mem_update_row StartedTask.id id (StartedTask.to status) world.tasks task member with
        ⟨old, _⟩ | ⟨old, held, _, same⟩
      · exact ⟨task, old, task.status, rfl⟩
      · exact ⟨old, held, status, same⟩
    obtain ⟨old, held, reached, rfl⟩ := before
    obtain ⟨containing, there, contains⟩ := contained.within old held inside
    by_cases hit : containing.id = id
    · exact ⟨containing.to status, List.mem_map.mpr ⟨containing, there, if_pos hit⟩, contains⟩
    · exact ⟨containing, update_row_other StartedTask.id id (StartedTask.to status) world.tasks containing there hit, contains⟩

theorem contained_step (world : World) (contained : Contained world) (event : Event Raw) :
    Contained (step str world event) := by
  have move := step_units str world event
  generalize step str world event = next at move
  cases move with
  | kept next same => exact ⟨by rw [same]; exact contained.numbered, by rw [same]; exact contained.claims,
      by rw [same]; exact contained.within⟩
  | started next payload parent policy ledger agreedPrice now free named admitted regime same =>
    rw [same]
    exact contained_started world contained payload parent policy agreedPrice now ledger free named regime
  | moved id status => exact contained_moved world contained id status

def opening (tenant : Tenant) (customers : List Uuid) (registry : Registry) (vocabulary : Vocabulary) : World :=
  ⟨tenant, customers, registry, [], vocabulary, []⟩

theorem opening_contained (tenant : Tenant) (customers : List Uuid) (registry : Registry) (vocabulary : Vocabulary) :
    Contained (opening tenant customers registry vocabulary) where
  numbered := rfl
  claims := List.nodup_nil
  within := by simp [opening]

theorem containment_holds (tenant : Tenant) (customers : List Uuid) (registry : Registry) (vocabulary : Vocabulary)
    (events : List (Event Raw)) :
    ((run (step str) (opening tenant customers registry vocabulary) events).tasks.map StartedTask.claim).Nodup ∧
      ∀ task ∈ (run (step str) (opening tenant customers registry vocabulary) events).tasks, task.parent ≠ none →
        ∃! containing, containing ∈ (run (step str) (opening tenant customers registry vocabulary) events).tasks ∧
          Contains containing task := by
  have contained := run_invariant (step str) Contained (fun _ => True)
    (fun world event contained _ => contained_step str world contained event)
    (opening tenant customers registry vocabulary) events (opening_contained tenant customers registry vocabulary)
    (by simp)
  generalize run (step str) (opening tenant customers registry vocabulary) events = reached at contained
  refine ⟨contained.claims, ?_⟩
  intro task member inside
  obtain ⟨containing, held, contains⟩ := contained.within task member inside
  refine ⟨containing, ⟨held, contains⟩, ?_⟩
  rintro other ⟨otherHeld, otherContains⟩
  have distinct : (reached.tasks.map StartedTask.id).Nodup := by
    rw [contained.numbered]
    exact List.nodup_range
  exact List.inj_on_of_nodup_map distinct otherHeld held (Option.some.inj (otherContains.1.symm.trans contains.1))

end

end Ubb.Work.Starts
