import Ubb.Work.Starts

set_option autoImplicit false

-- A start sent again under its key, whatever has been declared in between.
namespace Ubb.Work.Starts

open Ubb.Library
open Ubb.Work.Grouping

section

variable {Raw : Type} (str : Raw → String)

structure Claims (world : World) (payload : StartTaskRequest Raw) (task : StartedTask) : Prop where
  customer : payload.customerId ∈ world.customers
  claimed : claimedBy world payload.customerId payload.idempotencyKey = some task
  parent : payload.parentTaskId = task.parent
  kind : payload.taskType.getD "" = task.taskType
  ceiling : ∀ asked, payload.taskCogsCeilingMicros = some asked → task.taskCogsCeilingMicros = some asked
  slots : ∃ slots, resolve str world.registry payload.groupingFields payload.declaration.scope = .ok slots ∧
    ∀ slot, task.slots slot = (slots.lookup slot).getD ""

theorem stored_lookup (task : StartedTask) (slot : Slot) : (storedSlots task).lookup slot = solid (some (task.slots slot)) := by
  have distinct : (keysOf (storedSlots task)).Nodup := by
    have keys : keysOf (storedSlots task) = (List.finRange 10).filter (fun slot => decide (task.slots slot ≠ "")) := by
      rw [keysOf, storedSlots, List.map_map]
      exact List.map_id _
    rw [keys]
    exact (List.nodup_finRange 10).filter _
  by_cases filled : task.slots slot = ""
  · have absent : slot ∉ keysOf (storedSlots task) := by
      simp [keysOf, storedSlots, filled]
    rw [no_key_no_value _ slot absent, solid, filled]
    rfl
  · have member : (slot, task.slots slot) ∈ storedSlots task := by
      simp [storedSlots, filled]
    rw [lookup_of_entry _ distinct _ member, eq_comm, solid_some_iff]
    exact ⟨rfl, filled⟩

theorem parent_for_ok (world : World) (customer : Uuid) (named : Option Nat) (parent : Option StartedTask)
    (resolved : parentFor world customer named = .ok parent) : parent.map StartedTask.id = named := by
  cases named with
  | none =>
    cases resolved
    rfl
  | some parentTaskId =>
    simp only [parentFor] at resolved
    split at resolved
    · cases resolved
    · rename_i held found
      split at resolved
      · cases resolved
      · split at resolved
        · cases resolved
        · cases resolved
          have matched := List.find?_some found
          rw [decide_eq_true_iff] at matched
          rw [Option.map_some, matched.1]

theorem ceiling_under_ok (authority requested ceiling : Option Int) (resolved : ceilingUnder authority requested = .ok ceiling)
    (asked : Int) (stated : requested = some asked) : ceiling = some asked := by
  subst stated
  cases authority with
  | none =>
    cases resolved
    rfl
  | some bound =>
    simp only [ceilingUnder] at resolved
    split at resolved
    · cases resolved
    · cases resolved
      rfl

theorem resolve_start_policy_ok (world : World) (taskType : Option String) (values : List (String × Raw)) (requested : Option Int)
    (isSubtask : Bool) (policy : StartPolicy) (ledger : ValueLedger)
    (resolved : resolveStartPolicy str world taskType values requested isSubtask = .ok (policy, ledger)) :
    policy.taskType = taskType.getD "" ∧
      resolve str world.registry values (if isSubtask then .subtask else .task) = .ok policy.groupingSlots ∧
        ∀ asked, requested = some asked → policy.taskCogsCeilingMicros = some asked := by
  simp only [resolveStartPolicy, bind_eq_ok, map_error_eq_ok, pure_eq_ok, Prod.mk.injEq] at resolved
  obtain ⟨_, _, ⟨slots, recorded⟩, admitted, _, _, ceiling, underAuthority, rfl, rfl⟩ := resolved
  exact ⟨rfl, admit_resolves str _ _ _ _ values slots admitted, ceiling_under_ok _ _ _ underAuthority⟩

theorem start_new_ok (world next : World) (payload : StartTaskRequest Raw) (verdicts : Verdicts) (now : Int)
    (answer : StartTaskResponse) (started : startNew str world payload verdicts now = .ok (next, answer)) :
    ∃ parent policy ledger agreedPrice, parentFor world payload.customerId payload.parentTaskId = .ok parent ∧
      resolveStartPolicy str world payload.taskType payload.groupingFields payload.taskCogsCeilingMicros parent.isSome =
        .ok (policy, ledger) ∧
      next = { world with
        ledger := ledger
        tasks := world.tasks ++ [createTask world payload parent policy agreedPrice now] } ∧
      answer = startTaskOut (createTask world payload parent policy agreedPrice now) false := by
  simp only [startNew, bind_eq_ok, map_error_eq_ok, pure_eq_ok, Prod.mk.injEq] at started
  obtain ⟨_, _, _, _, parent, named, ⟨policy, ledger⟩, resolved, agreedPrice, _, _, _, _, _, rfl, rfl⟩ := started
  exact ⟨parent, policy, ledger, agreedPrice, named, resolved, rfl, rfl⟩

theorem same_stored_iff (slots : List (Slot × String)) (task : StartedTask) :
    sameEntries slots (storedSlots task) = true ↔ ∀ slot, slots.lookup slot = solid (some (task.slots slot)) := by
  rw [sameEntries, decide_eq_true_iff]
  simp only [stored_lookup]

theorem no_conflict_iff (declaration : StartDeclaration Raw) (task : StartedTask) (registry : Registry) :
    declaration.conflictingFieldOn str task registry = .ok none ↔
      declaration.parentTaskId = task.parent ∧ declaration.taskType = task.taskType ∧
        (∀ asked, declaration.taskCogsCeilingMicros = some asked → task.taskCogsCeilingMicros = some asked) ∧
          ∃ slots, declaration.slots str registry = .ok slots ∧ sameEntries slots (storedSlots task) = true := by
  rw [StartDeclaration.conflictingFieldOn]
  by_cases parent : declaration.parentTaskId = task.parent
  · by_cases kind : declaration.taskType = task.taskType
    · have stated : ¬(declaration.taskCogsCeilingMicros ≠ none ∧
          declaration.taskCogsCeilingMicros ≠ task.taskCogsCeilingMicros) ↔
          ∀ asked, declaration.taskCogsCeilingMicros = some asked → task.taskCogsCeilingMicros = some asked := by
        cases declaration.taskCogsCeilingMicros with
        | none => simp
        | some asked => simp [eq_comm]
      by_cases ceiling : declaration.taskCogsCeilingMicros ≠ none ∧
          declaration.taskCogsCeilingMicros ≠ task.taskCogsCeilingMicros
      · rw [if_neg (not_not.mpr parent), if_neg (not_not.mpr kind), if_pos ceiling]
        constructor
        · exact fun answered => nomatch answered
        · rintro ⟨_, _, agrees, _⟩
          exact absurd ceiling (stated.mpr agrees)
      · have agrees := stated.mp ceiling
        rw [if_neg (not_not.mpr parent), if_neg (not_not.mpr kind), if_neg ceiling, bind_eq_ok]
        constructor
        · rintro ⟨slots, resolved, answered⟩
          refine ⟨parent, kind, agrees, slots, resolved, ?_⟩
          by_contra apart
          rw [if_neg apart] at answered
          cases answered
        · rintro ⟨_, _, _, slots, resolved, same⟩
          exact ⟨slots, resolved, if_pos same⟩
    · simp [parent, kind]
  · simp [parent]

theorem claims_replayed (world : World) (payload : StartTaskRequest Raw) (task : StartedTask)
    (known : payload.customerId ∈ world.customers)
    (claimed : claimedBy world payload.customerId payload.idempotencyKey = some task)
    (agrees : payload.declaration.conflictingFieldOn str task world.registry = .ok none) : Claims str world payload task := by
  obtain ⟨parent, kind, ceiling, slots, resolved, same⟩ := (no_conflict_iff str payload.declaration task world.registry).mp agrees
  refine ⟨known, claimed, parent, kind, ceiling, slots, resolved, ?_⟩
  intro slot
  have held := (same_stored_iff slots task).mp same slot
  by_cases filled : task.slots slot = ""
  · rw [held, filled]
    rfl
  · rw [held, (solid_some_iff _ _).mpr ⟨rfl, filled⟩, Option.getD_some]

theorem claims_created (world : World) (payload : StartTaskRequest Raw) (parent : Option StartedTask) (policy : StartPolicy)
    (ledger : ValueLedger) (agreedPrice : Option Int) (now : Int) (known : payload.customerId ∈ world.customers)
    (free : claimedBy world payload.customerId payload.idempotencyKey = none)
    (named : parentFor world payload.customerId payload.parentTaskId = .ok parent)
    (resolved : resolveStartPolicy str world payload.taskType payload.groupingFields payload.taskCogsCeilingMicros
      parent.isSome = .ok (policy, ledger)) :
    Claims str { world with
        ledger := ledger
        tasks := world.tasks ++ [createTask world payload parent policy agreedPrice now] }
      payload (createTask world payload parent policy agreedPrice now) := by
  obtain ⟨kind, slots, ceiling⟩ := resolve_start_policy_ok str world _ _ _ _ policy ledger resolved
  have sameParent := parent_for_ok world payload.customerId payload.parentTaskId parent named
  refine ⟨known, ?_, sameParent.symm, kind.symm, ceiling, policy.groupingSlots, ?_, fun slot => rfl⟩
  · rw [claimedBy] at free ⊢
    rw [List.find?_append, free, Option.none_or]
    exact List.find?_cons_of_pos (decide_eq_true ⟨rfl, rfl⟩)
  · have scope : payload.declaration.scope = if parent.isSome then .subtask else .task := by
      rw [StartDeclaration.scope, StartTaskRequest.declaration, ← sameParent, Option.isSome_map]
    rw [scope]
    exact slots

theorem start_ok_cases (world next : World) (payload : StartTaskRequest Raw) (verdicts : Verdicts) (now : Int)
    (answer : StartTaskResponse) (accepted : start str world payload verdicts now = .ok (next, answer)) :
    payload.customerId ∈ world.customers ∧
      ((∃ claimed, claimedBy world payload.customerId payload.idempotencyKey = some claimed ∧
        payload.declaration.conflictingFieldOn str claimed world.registry = .ok none ∧ next = world ∧
          answer = startTaskOut claimed true) ∨
      (claimedBy world payload.customerId payload.idempotencyKey = none ∧
        startNew str world payload verdicts now = .ok (next, answer))) := by
  rw [start] at accepted
  split at accepted
  · cases accepted
  · rename_i known
    refine ⟨not_not.mp known, ?_⟩
    split at accepted
    · rename_i claimed held
      rw [answerClaim] at accepted
      split at accepted
      · cases accepted
      · cases accepted
      · rename_i agrees
        cases accepted
        exact .inl ⟨claimed, held, agrees, rfl, rfl⟩
    · rename_i free
      exact .inr ⟨free, accepted⟩

theorem accepted_claims (world next : World) (payload : StartTaskRequest Raw) (verdicts : Verdicts) (now : Int)
    (answer : StartTaskResponse) (accepted : start str world payload verdicts now = .ok (next, answer)) :
    ∃ task, Claims str next payload task ∧ answer = startTaskOut task answer.replayed := by
  obtain ⟨known, ⟨claimed, held, agrees, rfl, rfl⟩ | ⟨free, started⟩⟩ :=
    start_ok_cases str world next payload verdicts now answer accepted
  · exact ⟨claimed, claims_replayed str next payload claimed known held agrees, rfl⟩
  · obtain ⟨parent, policy, ledger, agreedPrice, named, resolved, rfl, rfl⟩ :=
      start_new_ok str world next payload verdicts now answer started
    exact ⟨_, claims_created str world payload parent policy ledger agreedPrice now known free named resolved, rfl⟩

theorem claims_kept (earlier later : World) (payload : StartTaskRequest Raw) (task : StartedTask) (status : TaskStatus)
    (claims : Claims str earlier payload task) (known : payload.customerId ∈ later.customers)
    (claimed : claimedBy later payload.customerId payload.idempotencyKey = some (task.to status))
    (keeps : KeepsBindings earlier.registry later.registry) : Claims str later payload (task.to status) := by
  obtain ⟨slots, resolved, stored⟩ := claims.slots
  exact ⟨known, claimed, claims.parent, claims.kind, claims.ceiling, slots,
    resolve_kept str earlier.registry later.registry keeps _ _ slots resolved, stored⟩

theorem claimed_moved (world : World) (id : Nat) (status : TaskStatus) (customer : Uuid) (idempotencyKey : String)
    (task : StartedTask) (claimed : claimedBy world customer idempotencyKey = some task) :
    ∃ reached, claimedBy { world with tasks := updateRow StartedTask.id id (StartedTask.to status) world.tasks } customer
      idempotencyKey = some (task.to reached) := by
  rw [claimedBy] at claimed ⊢
  rw [updateRow, List.find?_map]
  have unmoved : ((fun task : StartedTask => decide (task.customer = customer ∧ task.idempotencyKey = idempotencyKey)) ∘
      fun row : StartedTask => if row.id = id then row.to status else row) =
      fun task => decide (task.customer = customer ∧ task.idempotencyKey = idempotencyKey) := by
    funext row
    rw [Function.comp_apply]
    split <;> rfl
  rw [unmoved, claimed, Option.map_some]
  split
  · exact ⟨status, rfl⟩
  · exact ⟨task.status, rfl⟩

theorem claims_step (world : World) (payload : StartTaskRequest Raw) (task : StartedTask) (event : Event Raw)
    (claims : Claims str world payload task) : ∃ status, Claims str (step str world event) payload (task.to status) := by
  have stays : Claims str world payload (task.to task.status) := claims
  cases event with
  | start other verdicts now =>
    rw [step]
    split
    · rename_i next answer started
      refine ⟨task.status, ?_⟩
      obtain ⟨_, ⟨_, _, _, rfl, _⟩ | ⟨_, created⟩⟩ := start_ok_cases str world next other verdicts now answer started
      · exact stays
      · obtain ⟨parent, policy, ledger, agreedPrice, _, _, rfl, _⟩ :=
          start_new_ok str world next other verdicts now answer created
        refine claims_kept str world _ payload task task.status claims ?_ ?_ ?_
        · exact claims.customer
        · have claimed := claims.claimed
          rw [claimedBy] at claimed ⊢
          rw [List.find?_append, claimed, Option.some_or]
          rfl
        · exact keeps_bindings_refl world.registry
    · exact ⟨task.status, stays⟩
  | declareGroupingField key slot scope maxCardinality =>
    rw [step]
    split
    · rename_i registry declared
      exact ⟨task.status, claims_kept str world _ payload task task.status claims claims.customer claims.claimed
        (declare_keeps_bindings world.registry registry key slot scope maxCardinality declared)⟩
    · exact ⟨task.status, stays⟩
  | retireGroupingField key retired =>
    exact ⟨task.status, claims_kept str world _ payload task task.status claims claims.customer claims.claimed
      (retire_keeps_bindings world.registry key retired)⟩
  | declareKind row =>
    refine ⟨task.status, ?_⟩
    rw [step, declareKind]
    split
    · exact stays
    · split
      · exact stays
      · split
        · exact claims_kept str world _ payload task task.status claims claims.customer claims.claimed
            (keeps_bindings_refl world.registry)
        · split
          · exact stays
          · exact claims_kept str world _ payload task task.status claims claims.customer claims.claimed
              (keeps_bindings_refl world.registry)
  | configure tenant =>
    exact ⟨task.status, claims_kept str world _ payload task task.status claims claims.customer claims.claimed
      (keeps_bindings_refl world.registry)⟩
  | addCustomer customer =>
    exact ⟨task.status, claims_kept str world _ payload task task.status claims
      (List.mem_append_left [customer] claims.customer) claims.claimed (keeps_bindings_refl world.registry)⟩
  | move id status =>
    obtain ⟨reached, claimed⟩ := claimed_moved world id status payload.customerId payload.idempotencyKey task claims.claimed
    exact ⟨reached, claims_kept str world _ payload task reached claims claims.customer claimed
      (keeps_bindings_refl world.registry)⟩

theorem claims_run (world : World) (payload : StartTaskRequest Raw) (task : StartedTask) (later : List (Event Raw))
    (claims : Claims str world payload task) : ∃ status, Claims str (run (step str) world later) payload (task.to status) := by
  apply run_invariant (step str) (fun reached => ∃ status, Claims str reached payload (task.to status)) (fun _ => True)
  · rintro reached event ⟨status, standing⟩ _
    obtain ⟨moved, kept⟩ := claims_step str reached payload (task.to status) event standing
    exact ⟨moved, kept⟩
  · exact ⟨task.status, claims⟩
  · exact fun _ _ => trivial

def NoEmptyValue (payload : StartTaskRequest Raw) : Prop := ∀ entry ∈ payload.groupingFields, str entry.2 ≠ ""

instance decidableNoEmptyValue (payload : StartTaskRequest Raw) : Decidable (NoEmptyValue str payload) :=
  inferInstanceAs (Decidable (∀ entry ∈ payload.groupingFields, str entry.2 ≠ ""))

def Pinned.position : Pinned → Nat
  | .parent => 0
  | .taskType => 1
  | .costCeiling => 2
  | .groupingValues => 3

def Differs (payload other : StartTaskRequest Raw) (ceiling : Option Int) : Pinned → Prop
  | .parent => other.parentTaskId ≠ payload.parentTaskId
  | .taskType => other.taskType.getD "" ≠ payload.taskType.getD ""
  | .costCeiling => ∃ asked, other.taskCogsCeilingMicros = some asked ∧ ceiling ≠ some asked
  | .groupingValues => ∃ key, nonEmptyValue str other.groupingFields key ≠ nonEmptyValue str payload.groupingFields key

def FirstDifference (payload other : StartTaskRequest Raw) (ceiling : Option Int) (field : Pinned) : Prop :=
  Differs str payload other ceiling field ∧
    ∀ earlier : Pinned, earlier.position < field.position → ¬Differs str payload other ceiling earlier

-- A refusal that says what differs: the field, in the wire's words, or the key
-- of an entry that no registry of this scope resolves.
def NamesDifference (payload other : StartTaskRequest Raw) (taskId : Nat) (field : Pinned) (problem : Problem) : Prop :=
  problem = .idempotencyKeyConflict (pinnedFieldOnTheWire field) taskId ∨
    (field = .groupingValues ∧ ∃ error, problem = .validationError (.grouping error) ∧
      ∃ value, (error.key, value) ∈ other.groupingFields ∧
        (payload.groupingFields.lookup error.key).map str ≠ some (str value))

def RepeatReplays (current : World) (payload : StartTaskRequest Raw) (answer : StartTaskResponse) : Prop :=
  ∀ verdicts now, ∃ status, start str current payload verdicts now =
    .ok (current, { answer with status := status, replayed := true })

def ContradictionsRefused (current : World) (payload : StartTaskRequest Raw) (answer : StartTaskResponse) : Prop :=
  ∀ (other : StartTaskRequest Raw) verdicts now field, other.customerId = payload.customerId →
    other.idempotencyKey = payload.idempotencyKey →
    FirstDifference str payload other answer.taskCogsCeilingMicros field →
      ∃ problem, start str current other verdicts now = .error problem ∧
        NamesDifference str payload other answer.taskId field problem ∧ step str current (.start other verdicts now) = current

theorem start_claimed (world : World) (payload other : StartTaskRequest Raw) (task : StartedTask) (verdicts : Verdicts)
    (now : Int) (claims : Claims str world payload task) (sameCustomer : other.customerId = payload.customerId)
    (sameKey : other.idempotencyKey = payload.idempotencyKey) :
    start str world other verdicts now = (answerClaim str world other task).map (fun answer => (world, answer)) := by
  rw [start, sameCustomer, sameKey, if_neg (not_not.mpr claims.customer), claims.claimed]

theorem identical_conflict (world : World) (payload : StartTaskRequest Raw) (task : StartedTask)
    (claims : Claims str world payload task) :
    payload.declaration.conflictingFieldOn str task world.registry = .ok none ↔ NoEmptyValue str payload := by
  obtain ⟨slots, resolved, stored⟩ := claims.slots
  rw [no_conflict_iff, NoEmptyValue,
    ← no_empty_slot_iff str world.registry payload.declaration.scope payload.groupingFields slots payload.distinct resolved]
  have slotwise : ∀ slot, slots.lookup slot = solid (some (task.slots slot)) ↔ slots.lookup slot ≠ some "" := by
    intro slot
    rw [stored slot, solid_stored, eq_solid_iff]
  constructor
  · rintro ⟨_, _, _, again, resolvedAgain, same⟩ slot
    have sameSlots : again = slots := Except.ok.inj (resolvedAgain.symm.trans resolved)
    rw [sameSlots, same_stored_iff] at same
    exact (slotwise slot).mp (same slot)
  · intro filled
    refine ⟨claims.parent, claims.kind, claims.ceiling, slots, resolved, ?_⟩
    rw [same_stored_iff]
    exact fun slot => (slotwise slot).mpr (filled slot)

theorem repeat_replays_iff (current : World) (payload : StartTaskRequest Raw) (started : StartedTask) (status : TaskStatus)
    (replayed : Bool) (claims : Claims str current payload (started.to status)) :
    RepeatReplays str current payload (startTaskOut started replayed) ↔ NoEmptyValue str payload := by
  rw [← identical_conflict str current payload (started.to status) claims]
  have answered := fun verdicts now => start_claimed str current payload payload (started.to status) verdicts now claims rfl rfl
  constructor
  · intro replays
    obtain ⟨reached, same⟩ := replays ⟨none, none, .ok none, none⟩ 0
    rw [answered, answerClaim] at same
    split at same
    · cases same
    · cases same
    · assumption
  · intro agrees verdicts now
    refine ⟨status, ?_⟩
    rw [answered, answerClaim, agrees]
    rfl

theorem bags_compared (declaration : StartDeclaration Raw) (task : StartedTask) (registry : Registry)
    (parent : declaration.parentTaskId = task.parent) (kind : declaration.taskType = task.taskType)
    (ceiling : ∀ asked, declaration.taskCogsCeilingMicros = some asked → task.taskCogsCeilingMicros = some asked) :
    declaration.conflictingFieldOn str task registry =
      (declaration.slots str registry >>= fun slots =>
        if sameEntries slots (storedSlots task) then pure none else pure (some .groupingValues)) := by
  rw [StartDeclaration.conflictingFieldOn, if_neg (not_not.mpr parent), if_neg (not_not.mpr kind), if_neg]
  rintro ⟨stated, apart⟩
  obtain ⟨asked, named⟩ := Option.ne_none_iff_exists'.mp stated
  exact apart (named.trans (ceiling asked named).symm)

theorem bag_difference_named (world : World) (payload other : StartTaskRequest Raw) (task : StartedTask)
    (claims : Claims str world payload task) (parent : other.declaration.parentTaskId = task.parent)
    (kind : other.declaration.taskType = task.taskType)
    (ceiling : ∀ asked, other.declaration.taskCogsCeilingMicros = some asked → task.taskCogsCeilingMicros = some asked)
    (differs : Differs str payload other task.taskCogsCeilingMicros .groupingValues) :
    ∃ problem, answerClaim str world other task = .error problem ∧
      NamesDifference str payload other task.id .groupingValues problem := by
  have compared := bags_compared str other.declaration task world.registry parent kind ceiling
  have sameScope : payload.declaration.scope = other.declaration.scope := by
    rw [StartDeclaration.scope, StartDeclaration.scope, parent, ← claims.parent]
    rfl
  obtain ⟨slots, resolved, stored⟩ := claims.slots
  rw [sameScope] at resolved
  cases others : other.declaration.slots str world.registry with
  | error error =>
    refine ⟨.validationError (.grouping error), ?_, .inr ⟨rfl, error, rfl, ?_⟩⟩
    · rw [answerClaim, compared, others]
      rfl
    · exact refused_entry_differs str world.registry other.declaration.scope _ _ slots error resolved others
  | ok otherSlots =>
    have apart : ¬sameEntries otherSlots (storedSlots task) = true := by
      intro same
      obtain ⟨key, unlike⟩ := differs
      apply unlike
      apply same_values_of_same_slots str world.registry other.declaration.scope _ _ otherSlots slots other.distinct
        payload.distinct others resolved
      intro slot
      rw [(same_stored_iff otherSlots task).mp same slot, stored slot, solid_stored, solid_solid]
    refine ⟨.idempotencyKeyConflict (pinnedFieldOnTheWire .groupingValues) task.id, ?_, .inl rfl⟩
    rw [answerClaim, compared, others, ok_bind, if_neg apart]
    rfl

theorem difference_named (world : World) (payload other : StartTaskRequest Raw) (task : StartedTask) (field : Pinned)
    (claims : Claims str world payload task) (first : FirstDifference str payload other task.taskCogsCeilingMicros field) :
    ∃ problem, answerClaim str world other task = .error problem ∧
      NamesDifference str payload other task.id field problem := by
  obtain ⟨differs, earlier⟩ := first
  have sameParent : 0 < field.position → other.declaration.parentTaskId = task.parent :=
    fun after => (not_not.mp (earlier .parent after)).trans claims.parent
  have sameKind : 1 < field.position → other.declaration.taskType = task.taskType :=
    fun after => (not_not.mp (earlier .taskType after)).trans claims.kind
  have named : other.declaration.conflictingFieldOn str task world.registry = .ok (some field) →
      ∃ problem, answerClaim str world other task = .error problem ∧
        NamesDifference str payload other task.id field problem := by
    intro conflict
    exact ⟨.idempotencyKeyConflict (pinnedFieldOnTheWire field) task.id, by rw [answerClaim, conflict], .inl rfl⟩
  cases field with
  | parent =>
    apply named
    rw [StartDeclaration.conflictingFieldOn, if_pos]
    exact fun same => differs (same.trans claims.parent.symm)
  | taskType =>
    apply named
    rw [StartDeclaration.conflictingFieldOn, if_neg (not_not.mpr (sameParent (by decide))), if_pos]
    exact fun same => differs (same.trans claims.kind.symm)
  | costCeiling =>
    obtain ⟨asked, stated, apart⟩ := differs
    apply named
    rw [StartDeclaration.conflictingFieldOn, if_neg (not_not.mpr (sameParent (by decide))),
      if_neg (not_not.mpr (sameKind (by decide))), if_pos]
    constructor
    · exact fun none => nomatch stated.symm.trans none
    · exact fun same => apart (same.symm.trans stated)
  | groupingValues =>
    apply bag_difference_named str world payload other task claims (sameParent (by decide)) (sameKind (by decide))
    · intro asked stated
      by_contra apart
      exact earlier .costCeiling (by decide) ⟨asked, stated, apart⟩
    · exact differs

theorem contradictions_refused (current : World) (payload : StartTaskRequest Raw) (started : StartedTask) (status : TaskStatus)
    (replayed : Bool) (claims : Claims str current payload (started.to status)) :
    ContradictionsRefused str current payload (startTaskOut started replayed) := by
  intro other verdicts now field sameCustomer sameKey first
  obtain ⟨problem, refused, named⟩ := difference_named str current payload other (started.to status) field claims first
  have answered : start str current other verdicts now = .error problem := by
    rw [start_claimed str current payload other _ verdicts now claims sameCustomer sameKey, refused]
    rfl
  refine ⟨problem, answered, named, ?_⟩
  rw [step, answered]

theorem identical_start_replays_iff (world next : World) (payload : StartTaskRequest Raw) (verdicts : Verdicts) (now : Int)
    (answer : StartTaskResponse) (later : List (Event Raw))
    (accepted : start str world payload verdicts now = .ok (next, answer)) :
    (RepeatReplays str (run (step str) next later) payload answer ∧
      ContradictionsRefused str (run (step str) next later) payload answer) ↔ NoEmptyValue str payload := by
  obtain ⟨task, claims, sameAnswer⟩ := accepted_claims str world next payload verdicts now answer accepted
  obtain ⟨status, standing⟩ := claims_run str next payload task later claims
  rw [sameAnswer, repeat_replays_iff str _ payload task status _ standing]
  exact and_iff_left (contradictions_refused str _ payload task status _ standing)

end

-- A tenant with one grouping field, and its customer starting work in a region.
def regionWorld : World where
  tenant := ⟨none, none, none, none⟩
  customers := [⟨"c1"⟩]
  registry := ⟨[⟨"region", 0, .task, 50, false⟩], by decide, by decide⟩
  ledger := []
  vocabulary := ⟨[], by decide⟩
  tasks := []

def regionStart (region : String) : StartTaskRequest String where
  customerId := ⟨"c1"⟩
  idempotencyKey := "render"
  externalTaskId := ""
  parentTaskId := none
  taskCogsCeilingMicros := none
  taskType := none
  groupingFields := [("region", region)]
  keyed := by decide
  ceilingPositive := by decide
  taskTypeFits := by decide
  distinct := List.nodup_singleton _

def waved : Verdicts := ⟨none, none, .ok none, none⟩

theorem region_start_replays : ∃ next answer, start id regionWorld (regionStart "eu") waved 0 = .ok (next, answer) ∧
    ∀ later, RepeatReplays id (run (step id) next later) (regionStart "eu") answer := by
  refine ⟨_, _, rfl, ?_⟩
  intro later
  exact ((identical_start_replays_iff id regionWorld _ (regionStart "eu") waved 0 _ later rfl).mpr (by decide)).1

theorem empty_region_conflicts : ∃ next answer, start id regionWorld (regionStart "") waved 0 = .ok (next, answer) ∧
    start id next (regionStart "") waved 0 = .error (.idempotencyKeyConflict "grouping_fields" answer.taskId) ∧
      ¬RepeatReplays id next (regionStart "") answer := by
  refine ⟨_, _, rfl, rfl, ?_⟩
  intro replays
  obtain ⟨status, replayed⟩ := replays waved 0
  cases replayed

end Ubb.Work.Starts
