import Ubb.Work.Containment

set_option autoImplicit false

-- Where the value in a slot comes from: the ledger of a key's values, and what
-- an event takes from the unit of work it belongs to.
namespace Ubb.Work.Starts

open Ubb.Library
open Ubb.Work.Grouping

structure LedgerLaw (registry : Registry) (ledger : ValueLedger) : Prop where
  distinct : ledger.Nodup
  declared : ∀ entry ∈ ledger, (registry.find entry.1).isSome

def HeldAt (registry : Registry) (ledger : ValueLedger) (scope : Scope) (slot : Slot) (value : String) : Prop :=
  ∃ key, registry.binding key = some (slot, scope) ∧ (key, value) ∈ ledger

theorem held_at_kept (earlier later : Registry) (before after : ValueLedger) (keeps : KeepsBindings earlier later)
    (grows : before ⊆ after) (scope : Scope) (slot : Slot) (value : String) (held : HeldAt earlier before scope slot value) :
    HeldAt later after scope slot value := by
  obtain ⟨key, bound, recorded⟩ := held
  exact ⟨key, keeps key _ bound, grows recorded⟩

theorem held_at_one_scope (registry : Registry) (ledger : ValueLedger) (first second : Scope) (slot : Slot)
    (one other : String) (held : HeldAt registry ledger first slot one) (otherHeld : HeldAt registry ledger second slot other) :
    first = second := by
  obtain ⟨key, bound, _⟩ := held
  obtain ⟨otherKey, otherBound, _⟩ := otherHeld
  obtain ⟨field, found, same⟩ := Option.map_eq_some_iff.mp bound
  obtain ⟨otherField, otherFound, otherSame⟩ := Option.map_eq_some_iff.mp otherBound
  rw [Prod.mk.injEq] at same otherSame
  have sameKey := key_of_slot registry key otherKey field otherField found otherFound (same.1.trans otherSame.1.symm)
  subst sameKey
  cases found.symm.trans otherFound
  exact same.2.symm.trans otherSame.2

theorem insert_value_mem (ledger : ValueLedger) (entry other : String × String) :
    other ∈ insertValue ledger entry ↔ other ∈ ledger ∨ other = entry := by
  rw [insertValue]
  split
  · rename_i known
    constructor
    · exact .inl
    · rintro (old | rfl)
      · exact old
      · exact known
  · rw [List.mem_append, List.mem_singleton]

theorem insert_value_nodup (ledger : ValueLedger) (entry : String × String) (distinct : ledger.Nodup) :
    (insertValue ledger entry).Nodup := by
  rw [insertValue]
  split
  · exact distinct
  · rename_i novel
    exact List.nodup_append.mpr ⟨distinct, List.nodup_singleton _,
      fun other member _ new same => novel (List.mem_singleton.mp new ▸ same ▸ member)⟩

theorem record_value_ok (ledger recorded : ValueLedger) (field : GroupingField) (value : String)
    (done : recordValue ledger field value = .ok recorded) : recorded = insertValue ledger (field.key, value) := by
  simp only [recordValue, bind_eq_ok, pure_eq_ok] at done
  obtain ⟨novel, looked, rfl⟩ := done
  cases novel with
  | true => rfl
  | false =>
    rw [isNovel] at looked
    split at looked
    · rename_i known
      exact (if_pos known).symm
    · split at looked
      · cases looked
      · dsimp only at looked
        split at looked
        · cases looked
        · cases looked

theorem record_value_law (registry : Registry) (ledger recorded : ValueLedger) (field : GroupingField) (value : String)
    (law : LedgerLaw registry ledger) (found : registry.find field.key = some field)
    (done : recordValue ledger field value = .ok recorded) :
    LedgerLaw registry recorded ∧ (field.key, value) ∈ recorded ∧ ledger ⊆ recorded := by
  rw [record_value_ok ledger recorded field value done]
  have listed := insert_value_mem ledger (field.key, value)
  refine ⟨⟨insert_value_nodup ledger _ law.distinct, ?_⟩, (listed _).mpr (.inr rfl), fun other member => (listed other).mpr (.inl member)⟩
  intro entry member
  rcases (listed entry).mp member with old | rfl
  · exact law.declared entry old
  · rw [found]
    rfl

theorem declared_kept (earlier later : Registry) (ledger : ValueLedger) (law : LedgerLaw earlier ledger)
    (keeps : KeepsBindings earlier later) : ∀ entry ∈ ledger, (later.find entry.1).isSome := by
  intro entry member
  obtain ⟨field, found⟩ := Option.isSome_iff_exists.mp (law.declared entry member)
  have bound := keeps entry.1 _ (by rw [Registry.binding, found, Option.map_some])
  obtain ⟨later, foundLater, _⟩ := Option.map_eq_some_iff.mp bound
  rw [foundLater]
  rfl

theorem law_kept (earlier later : Registry) (ledger : ValueLedger) (law : LedgerLaw earlier ledger)
    (keeps : KeepsBindings earlier later) : LedgerLaw later ledger :=
  ⟨law.distinct, declared_kept earlier later ledger law keeps⟩

section

variable {Raw : Type} (str : Raw → String)

theorem admit_law (registry : Registry) (scope : Scope) (values : List (String × Raw))
    (admitted final : List (Slot × String) × ValueLedger) (law : LedgerLaw registry admitted.2)
    (holds : ∀ entry ∈ admitted.1, HeldAt registry admitted.2 scope entry.1 entry.2)
    (done : values.foldlM (admitOne str registry scope) admitted = .ok final) :
    LedgerLaw registry final.2 ∧ admitted.2 ⊆ final.2 ∧
      ∀ entry ∈ final.1, HeldAt registry final.2 scope entry.1 entry.2 := by
  induction values generalizing admitted with
  | nil =>
    rw [List.foldlM_nil, pure_eq_ok] at done
    subst done
    exact ⟨law, fun _ member => member, holds⟩
  | cons entry rest ih =>
    obtain ⟨middle, first, later⟩ := (fold_m_cons_ok _ admitted final entry rest).mp done
    simp only [admitOne, bind_eq_ok, pure_eq_ok] at first
    obtain ⟨⟨field, value⟩, bound, ledger, recorded, rfl⟩ := first
    obtain ⟨found, level, _, _⟩ := (binding_ok_iff str registry scope entry field value).mp bound
    have sameKey := (find_key registry entry.1 field found).2
    rw [← sameKey] at found
    obtain ⟨still, known, grows⟩ := record_value_law registry admitted.2 ledger field value law found recorded
    have every : ∀ slotted ∈ assign admitted.1 field.slot value, HeldAt registry ledger scope slotted.1 slotted.2 := by
      intro slotted member
      rcases (mem_assign admitted.1 field.slot value slotted).mp member with rfl | ⟨old, _⟩
      · exact ⟨field.key, by rw [Registry.binding, found, Option.map_some, level], known⟩
      · exact held_at_kept registry registry _ _ (keeps_bindings_refl registry) grows scope _ _ (holds slotted old)
    obtain ⟨lawful, subset, slotted⟩ := ih _ still every later
    exact ⟨lawful, fun _ member => subset (grows member), slotted⟩

theorem admit_values_law (registry : Registry) (ledger final : ValueLedger) (scope : Scope) (values : List (String × Raw))
    (slots : List (Slot × String)) (law : LedgerLaw registry ledger)
    (done : admitValues str registry ledger values scope = .ok (slots, final)) :
    LedgerLaw registry final ∧ ledger ⊆ final ∧ ∀ slot value, slots.lookup slot = some value → HeldAt registry final scope slot value := by
  obtain ⟨lawful, grows, slotted⟩ := admit_law str registry scope values ([], ledger) (slots, final) law (by simp) done
  exact ⟨lawful, grows, fun slot value held => slotted (slot, value) (entry_of_lookup slots slot value held)⟩

end

-- What one event takes from its unit of work: the reserved axes, the regime,
-- and a value for each slot.
structure Inherited where
  taskType : String
  subtaskType : String
  pricingMode : PricingMode
  slots : Slot → String

def taskNamed (tasks : List StartedTask) (id : Nat) : Option StartedTask := tasks.find? (fun task => decide (task.id = id))

def parentOf (tasks : List StartedTask) (leaf : StartedTask) : Option StartedTask := leaf.parent.bind (taskNamed tasks)

def chainOf (tasks : List StartedTask) (leaf : StartedTask) : List StartedTask := leaf :: (parentOf tasks leaf).toList

def firstFilled (values : List String) : String := (values.find? (fun value => decide (value ≠ ""))).getD ""

def inheritGroupingFields (tasks : List StartedTask) (taskId : Option Nat) (groupingSlots : List (Slot × String)) : Inherited :=
  match taskId.bind (taskNamed tasks) with
  | none => ⟨"", "", .eventPriced, fun slot => (groupingSlots.lookup slot).getD ""⟩
  | some leaf =>
      { taskType := if leaf.parent.isNone then leaf.taskType else ((parentOf tasks leaf).map StartedTask.taskType).getD ""
        subtaskType := if leaf.parent.isNone then "" else leaf.taskType
        pricingMode := leaf.pricingMode
        slots := fun slot => firstFilled
          ((groupingSlots.lookup slot).getD "" :: (chainOf tasks leaf).map (fun unit => unit.slots slot)) }

structure Posting where
  taskId : Option Nat
  groupingSlots : List (Slot × String)
  inherited : Inherited

structure Books where
  world : World
  postings : List Posting

-- The grouping fields are admitted before the recording core runs, and stay
-- recorded where it refuses.
inductive Happening (Raw : Type) where
  | inside (event : Event Raw)
  | recordUsage (taskId : Option Nat) (groupingFields : List (String × Raw)) (refused : Bool)

section

variable {Raw : Type} (str : Raw → String)

def happen (books : Books) : Happening Raw → Books
  | .inside event => { books with world := step str books.world event }
  | .recordUsage taskId groupingFields refused =>
      match admitValues str books.world.registry books.world.ledger groupingFields .event with
      | .error _ => books
      | .ok (slots, ledger) =>
          { world := { books.world with ledger := ledger }
            postings := if refused then books.postings
              else books.postings ++ [⟨taskId, slots, inheritGroupingFields books.world.tasks taskId slots⟩] }

end

def StartedTask.scope (task : StartedTask) : Scope := if task.parent.isSome then .subtask else .task

structure Traced (books : Books) : Prop where
  contained : Contained books.world
  law : LedgerLaw books.world.registry books.world.ledger
  units : ∀ task ∈ books.world.tasks, ∀ slot, task.slots slot ≠ "" →
    HeldAt books.world.registry books.world.ledger task.scope slot (task.slots slot)
  own : ∀ posting ∈ books.postings, ∀ slot value, posting.groupingSlots.lookup slot = some value →
    HeldAt books.world.registry books.world.ledger .event slot value
  inherited : ∀ posting ∈ books.postings, ∀ slot, posting.inherited.slots slot ≠ "" →
    ∃ scope, HeldAt books.world.registry books.world.ledger scope slot (posting.inherited.slots slot)

theorem first_filled_cases (values : List String) : firstFilled values = "" ∨ firstFilled values ∈ values := by
  rw [firstFilled]
  cases found : values.find? (fun value => decide (value ≠ "")) with
  | none => exact .inl rfl
  | some value => exact .inr (List.mem_of_find?_eq_some found)

theorem parent_of_mem (tasks : List StartedTask) (leaf parent : StartedTask) (found : parentOf tasks leaf = some parent) :
    parent ∈ tasks ∧ leaf.parent = some parent.id := by
  obtain ⟨id, named, held⟩ := Option.bind_eq_some_iff.mp found
  obtain ⟨member, same⟩ := find_key_some StartedTask.id id tasks parent held
  exact ⟨member, by rw [named, same]⟩

theorem parent_of_contains (world : World) (contained : Contained world) (leaf parent : StartedTask) (inside : leaf ∈ world.tasks)
    (found : parentOf world.tasks leaf = some parent) : Contains parent leaf := by
  obtain ⟨member, named⟩ := parent_of_mem world.tasks leaf parent found
  obtain ⟨containing, held, contains⟩ := contained.within leaf inside (by rw [named]; exact nofun)
  have distinct : (world.tasks.map StartedTask.id).Nodup := by
    rw [contained.numbered]
    exact List.nodup_range
  have same := List.inj_on_of_nodup_map distinct held member (Option.some.inj (contains.1.symm.trans named))
  exact same ▸ contains

theorem chain_mem (world : World) (leaf unit : StartedTask) (inside : leaf ∈ world.tasks)
    (member : unit ∈ chainOf world.tasks leaf) : unit ∈ world.tasks := by
  rcases List.mem_cons.mp member with rfl | above
  · exact inside
  · rw [Option.mem_toList] at above
    exact (parent_of_mem world.tasks leaf unit above).1

section

variable {Raw : Type} (str : Raw → String)

theorem units_kept (world next : World) (keeps : KeepsBindings world.registry next.registry) (grows : world.ledger ⊆ next.ledger)
    (task : StartedTask) (units : ∀ slot, task.slots slot ≠ "" →
      HeldAt world.registry world.ledger task.scope slot (task.slots slot)) (slot : Slot) (filled : task.slots slot ≠ "") :
    HeldAt next.registry next.ledger task.scope slot (task.slots slot) :=
  held_at_kept _ _ _ _ keeps grows _ _ _ (units slot filled)

theorem step_ledger (world : World) (law : LedgerLaw world.registry world.ledger) (event : Event Raw) :
    LedgerLaw (step str world event).registry (step str world event).ledger ∧
      KeepsBindings world.registry (step str world event).registry ∧ world.ledger ⊆ (step str world event).ledger := by
  have same : LedgerLaw world.registry world.ledger ∧ KeepsBindings world.registry world.registry ∧ world.ledger ⊆ world.ledger :=
    ⟨law, keeps_bindings_refl _, fun _ member => member⟩
  cases event with
  | start payload verdicts now =>
    rw [step]
    split
    · rename_i next answer accepted
      obtain ⟨_, ⟨claimed, _, _, unchanged, _⟩ | ⟨free, started⟩⟩ :=
        start_ok_cases str world next payload verdicts now answer accepted
      · rw [unchanged]
        exact same
      · obtain ⟨parent, policy, ledger, agreedPrice, _, admitted, _, rfl⟩ :=
          start_new_rows str world next payload verdicts now answer started
        obtain ⟨lawful, grows, _⟩ := admit_values_law str world.registry world.ledger ledger _ _ _ law admitted
        exact ⟨lawful, keeps_bindings_refl _, grows⟩
    · exact same
  | declareGroupingField key slot scope maxCardinality =>
    rw [step]
    split
    · rename_i registry declared
      have keeps := declare_keeps_bindings world.registry registry key slot scope maxCardinality declared
      exact ⟨law_kept world.registry registry world.ledger law keeps, keeps, fun _ member => member⟩
    · exact same
  | retireGroupingField key retired =>
    have keeps := retire_keeps_bindings world.registry key retired
    exact ⟨law_kept world.registry _ world.ledger law keeps, keeps, fun _ member => member⟩
  | declareKind row =>
    obtain ⟨_, registry, ledger⟩ := declare_kind_tasks world row
    rw [step, registry, ledger]
    exact same
  | configure tenant => exact same
  | addCustomer customer => exact same
  | move id status => exact same

theorem traced_step (books : Books) (traced : Traced books) (event : Event Raw) :
    Traced { books with world := step str books.world event } := by
  obtain ⟨law, keeps, grows⟩ := step_ledger str books.world traced.law event
  have kept := fun task units => units_kept books.world (step str books.world event) keeps grows task units
  refine ⟨contained_step str books.world traced.contained event, law, ?_, ?_, ?_⟩
  · have move := step_units str books.world event
    show ∀ task ∈ (step str books.world event).tasks, _
    generalize step str books.world event = next at move law keeps grows kept
    cases move with
    | kept next same =>
      intro task member
      rw [same] at member
      exact kept task (traced.units task member)
    | started next payload parent policy ledger agreedPrice now free named admitted regime same =>
      obtain ⟨_, _, slotted⟩ :=
        admit_values_law str books.world.registry books.world.ledger ledger _ _ _ traced.law admitted
      subst same
      intro task member
      rcases List.mem_append.mp member with old | new
      · exact kept task (traced.units task old)
      · rw [List.mem_singleton.mp new]
        intro slot filled
        have altitude : (createTask books.world payload parent policy agreedPrice now).scope =
            if parent.isSome then .subtask else .task := by
          cases parent <;> rfl
        rw [altitude]
        have stored : (createTask books.world payload parent policy agreedPrice now).slots slot =
            (policy.groupingSlots.lookup slot).getD "" := rfl
        rw [stored] at filled ⊢
        cases held : policy.groupingSlots.lookup slot with
        | none =>
          rw [held] at filled
          exact absurd rfl filled
        | some value => exact slotted slot value held
    | moved id status =>
      intro task member
      rcases mem_update_row StartedTask.id id (StartedTask.to status) books.world.tasks task member with
        ⟨old, _⟩ | ⟨old, held, _, rfl⟩
      · exact kept task (traced.units task old)
      · exact kept old (traced.units old held)
  · intro posting member slot value held
    exact held_at_kept _ _ _ _ keeps grows _ _ _ (traced.own posting member slot value held)
  · intro posting member slot filled
    obtain ⟨scope, held⟩ := traced.inherited posting member slot filled
    exact ⟨scope, held_at_kept _ _ _ _ keeps grows _ _ _ held⟩

theorem inherited_source (books : Books) (taskId : Option Nat) (groupingSlots : List (Slot × String)) (slot : Slot)
    (filled : (inheritGroupingFields books.world.tasks taskId groupingSlots).slots slot ≠ "") :
    groupingSlots.lookup slot = some ((inheritGroupingFields books.world.tasks taskId groupingSlots).slots slot) ∨
      ∃ unit ∈ books.world.tasks, unit.slots slot = (inheritGroupingFields books.world.tasks taskId groupingSlots).slots slot := by
  have own : ∀ value, value ≠ "" → (groupingSlots.lookup slot).getD "" = value → groupingSlots.lookup slot = some value := by
    intro value filled same
    cases held : groupingSlots.lookup slot with
    | none =>
      rw [held] at same
      exact absurd same.symm filled
    | some stored => rw [← same, held, Option.getD_some]
  rw [inheritGroupingFields] at filled ⊢
  split at filled
  · exact .inl (own _ filled rfl)
  · rename_i leaf found
    have inside : leaf ∈ books.world.tasks := by
      obtain ⟨id, _, held⟩ := Option.bind_eq_some_iff.mp found
      exact (find_key_some StartedTask.id id books.world.tasks leaf held).1
    rcases first_filled_cases ((groupingSlots.lookup slot).getD "" :: (chainOf books.world.tasks leaf).map
      (fun unit => unit.slots slot)) with empty | listed
    · exact absurd empty filled
    · rcases List.mem_cons.mp listed with same | above
      · exact .inl (own _ filled same.symm)
      · obtain ⟨unit, member, same⟩ := List.mem_map.mp above
        exact .inr ⟨unit, chain_mem books.world leaf unit inside member, same⟩

theorem traced_happen (books : Books) (traced : Traced books) (happening : Happening Raw) : Traced (happen str books happening) := by
  cases happening with
  | inside event => exact traced_step str books traced event
  | recordUsage taskId groupingFields refused =>
    rw [happen]
    split
    · exact traced
    · rename_i slots ledger admitted
      obtain ⟨law, grows, slotted⟩ :=
        admit_values_law str books.world.registry books.world.ledger ledger .event groupingFields slots traced.law admitted
      have same := keeps_bindings_refl books.world.registry
      have units : ∀ task ∈ books.world.tasks, ∀ slot, task.slots slot ≠ "" →
          HeldAt books.world.registry ledger task.scope slot (task.slots slot) :=
        fun task member slot filled => held_at_kept _ _ _ _ same grows _ _ _ (traced.units task member slot filled)
      have listed : ∀ posting ∈ (if refused then books.postings
          else books.postings ++ [⟨taskId, slots, inheritGroupingFields books.world.tasks taskId slots⟩]),
          posting ∈ books.postings ∨ posting = ⟨taskId, slots, inheritGroupingFields books.world.tasks taskId slots⟩ := by
        intro posting member
        split at member
        · exact .inl member
        · rcases List.mem_append.mp member with old | new
          · exact .inl old
          · exact .inr (List.mem_singleton.mp new)
      refine ⟨⟨traced.contained.numbered, traced.contained.claims, traced.contained.within⟩, law, units, ?_, ?_⟩
      · intro posting member slot value held
        rcases listed posting member with old | rfl
        · exact held_at_kept _ _ _ _ same grows _ _ _ (traced.own posting old slot value held)
        · exact slotted slot value held
      · intro posting member slot filled
        rcases listed posting member with old | rfl
        · obtain ⟨scope, held⟩ := traced.inherited posting old slot filled
          exact ⟨scope, held_at_kept _ _ _ _ same grows _ _ _ held⟩
        · rcases inherited_source books taskId slots slot filled with own | ⟨unit, inside, taken⟩
          · exact ⟨.event, slotted slot _ own⟩
          · have held := units unit inside slot (by rw [taken]; exact filled)
            rw [taken] at held
            exact ⟨unit.scope, held⟩

def openingBooks (tenant : Tenant) (customers : List Uuid) (registry : Registry) (vocabulary : Vocabulary) : Books :=
  ⟨opening tenant customers registry vocabulary, []⟩

theorem opening_traced (tenant : Tenant) (customers : List Uuid) (registry : Registry) (vocabulary : Vocabulary) :
    Traced (openingBooks tenant customers registry vocabulary) where
  contained := opening_contained tenant customers registry vocabulary
  law := ⟨List.nodup_nil, by simp [openingBooks, opening]⟩
  units := by simp [openingBooks, opening]
  own := by simp [openingBooks]
  inherited := by simp [openingBooks]

theorem run_traced (tenant : Tenant) (customers : List Uuid) (registry : Registry) (vocabulary : Vocabulary)
    (happenings : List (Happening Raw)) :
    Traced (run (happen str) (openingBooks tenant customers registry vocabulary) happenings) :=
  run_invariant (happen str) Traced (fun _ => True) (fun books happening traced _ => traced_happen str books traced happening)
    (openingBooks tenant customers registry vocabulary) happenings (opening_traced tenant customers registry vocabulary)
    (by simp)

theorem every_slot_is_recorded (tenant : Tenant) (customers : List Uuid) (registry : Registry) (vocabulary : Vocabulary)
    (happenings : List (Happening Raw)) :
    let reached := run (happen str) (openingBooks tenant customers registry vocabulary) happenings
    ∀ posting ∈ reached.postings, ∀ slot, posting.inherited.slots slot ≠ "" →
      ∃ field, reached.world.registry.find field.key = some field ∧ field.slot = slot ∧
        (field.key, posting.inherited.slots slot) ∈ reached.world.ledger := by
  intro reached posting member slot filled
  have traced := run_traced str tenant customers registry vocabulary happenings
  obtain ⟨scope, key, bound, recorded⟩ := traced.inherited posting member slot filled
  obtain ⟨field, found, same⟩ := Option.map_eq_some_iff.mp bound
  have sameKey := (find_key _ key field found).2
  subst sameKey
  exact ⟨field, found, congrArg Prod.fst same, recorded⟩

def candidates (world : World) (posting : Posting) (slot : Slot) : List String :=
  (((posting.groupingSlots.lookup slot).getD "") ::
    ((posting.taskId.bind (taskNamed world.tasks)).toList.flatMap (chainOf world.tasks)).map
      (fun unit => unit.slots slot)).filter (fun value => decide (value ≠ ""))

theorem one_candidate (books : Books) (traced : Traced books) (posting : Posting) (member : posting ∈ books.postings)
    (slot : Slot) : (candidates books.world posting slot).length ≤ 1 := by
  have own : ∀ value, ((posting.groupingSlots.lookup slot).getD "") = value → value ≠ "" →
      HeldAt books.world.registry books.world.ledger .event slot value := by
    intro value same filled
    cases held : posting.groupingSlots.lookup slot with
    | none =>
      rw [held] at same
      exact absurd same.symm filled
    | some stored =>
      rw [held, Option.getD_some] at same
      rw [← same]
      exact traced.own posting member slot stored held
  -- Two altitudes at once would bind the slot's one key at two scopes.
  have apart : ∀ first second one other, HeldAt books.world.registry books.world.ledger first slot one →
      HeldAt books.world.registry books.world.ledger second slot other → first ≠ second → False :=
    fun first second one other held otherHeld unlike => unlike (held_at_one_scope _ _ first second slot one other held otherHeld)
  rw [candidates]
  cases named : posting.taskId.bind (taskNamed books.world.tasks) with
  | none =>
    rw [Option.toList_none, List.flatMap_nil, List.map_nil]
    exact List.length_filter_le _ _
  | some leaf =>
    have inside : leaf ∈ books.world.tasks := by
      obtain ⟨id, _, held⟩ := Option.bind_eq_some_iff.mp named
      exact (find_key_some StartedTask.id id books.world.tasks leaf held).1
    have unitHeld := traced.units leaf inside slot
    have notEvent : leaf.scope ≠ .event := by
      rw [StartedTask.scope]
      split <;> exact nofun
    rw [Option.toList_some, List.flatMap_singleton]
    generalize (posting.groupingSlots.lookup slot).getD "" = mine at own
    rw [chainOf]
    cases above : parentOf books.world.tasks leaf with
    | none =>
      rw [Option.toList_none, List.map_singleton]
      by_cases empty : mine = ""
      · rw [List.filter_cons_of_neg (by simpa using empty)]
        exact List.length_filter_le _ _
      · by_cases bare : leaf.slots slot = ""
        · rw [List.filter_cons_of_pos (by simpa using empty), List.filter_cons_of_neg (by simpa using bare)]
          exact Nat.le_refl 1
        · exact (apart _ _ _ _ (own mine rfl empty) (unitHeld bare) (Ne.symm notEvent)).elim
    | some root =>
      have contains := parent_of_contains books.world traced.contained leaf root inside above
      have rootHeld := traced.units root (parent_of_mem books.world.tasks leaf root above).1 slot
      have leafScope : leaf.scope = .subtask := by rw [StartedTask.scope, contains.1]; rfl
      have rootScope : root.scope = .task := by rw [StartedTask.scope, contains.2.1]; rfl
      rw [leafScope] at unitHeld
      rw [rootScope] at rootHeld
      rw [Option.toList_some, List.map_cons, List.map_singleton]
      by_cases empty : mine = ""
      · rw [List.filter_cons_of_neg (by simpa using empty)]
        by_cases bare : leaf.slots slot = ""
        · rw [List.filter_cons_of_neg (by simpa using bare)]
          exact List.length_filter_le _ _
        · by_cases blank : root.slots slot = ""
          · rw [List.filter_cons_of_pos (by simpa using bare), List.filter_cons_of_neg (by simpa using blank)]
            exact Nat.le_refl 1
          · exact (apart _ _ _ _ (unitHeld bare) (rootHeld blank) nofun).elim
      · by_cases bare : leaf.slots slot = ""
        · by_cases blank : root.slots slot = ""
          · rw [List.filter_cons_of_pos (by simpa using empty), List.filter_cons_of_neg (by simpa using bare),
              List.filter_cons_of_neg (by simpa using blank)]
            exact Nat.le_refl 1
          · exact (apart _ _ _ _ (own mine rfl empty) (rootHeld blank) nofun).elim
        · exact (apart _ _ _ _ (own mine rfl empty) (unitHeld bare) nofun).elim

theorem at_most_one_altitude_fills_a_slot (tenant : Tenant) (customers : List Uuid) (registry : Registry)
    (vocabulary : Vocabulary) (happenings : List (Happening Raw)) :
    let reached := run (happen str) (openingBooks tenant customers registry vocabulary) happenings
    ∀ posting ∈ reached.postings, ∀ slot, (candidates reached.world posting slot).length ≤ 1 := by
  intro reached posting member slot
  exact one_candidate reached (run_traced str tenant customers registry vocabulary happenings) posting member slot

end

end Ubb.Work.Starts
