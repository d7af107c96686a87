import Ubb.Library.Dictionary
import Ubb.Library.KeyedRows
import Ubb.Library.Outcomes

set_option autoImplicit false

-- grouping_fields/services.py: the registry a tenant binds its keys to slots
-- in, and the two walks over a declaration's values.
namespace Ubb.Work.Grouping

open Ubb.Library

inductive Scope where
  | task
  | subtask
  | event
deriving DecidableEq, Repr

abbrev Slot := Fin 10

def Slot.name (slot : Slot) : String := "grouping_field_" ++ toString (slot.val + 1)

def slotNamed (name : String) : Option Slot := (List.finRange 10).find? (fun slot => decide (Slot.name slot = name))

def scopeNamed (name : String) : Option Scope :=
  [("task", Scope.task), ("subtask", .subtask), ("event", .event)].lookup name

structure GroupingField where
  key : String
  slot : Slot
  scope : Scope
  maxCardinality : Int
  retired : Bool
deriving DecidableEq, Repr

-- Under uq_grouping_field_key and uq_grouping_field_slot.
structure Registry where
  fields : List GroupingField
  distinctKeys : (fields.map GroupingField.key).Nodup
  distinctSlots : (fields.map GroupingField.slot).Nodup

-- Each refusal, with what its sentence is formatted from.
inductive GroupingFieldError where
  | invalidKey (key : String)
  | reservedKey (key : String)
  | forbiddenKey (key : String)
  | notASlot (key slot : String)
  | notAScope (key scope : String)
  | slotBound (key : String) (slot : Slot) (holder : String)
  | slotImmutable (key : String) (bound slot : Slot)
  | scopeImmutable (key : String) (declared scope : Scope)
  | cardinalityLowered (key : String) (held maxCardinality : Int)
  | unknown (key : String)
  | wrongScope (key : String) (declared scope : Scope)
  | tooLong (key : String)
  | retired (key value : String)
  | cardinalityExceeded (key value : String) (count : Nat) (maxCardinality : Int)
deriving DecidableEq, Repr

def GroupingFieldError.key : GroupingFieldError → String
  | .invalidKey key | .reservedKey key | .forbiddenKey key | .notASlot key _ | .notAScope key _ | .slotBound key _ _
  | .slotImmutable key _ _ | .scopeImmutable key _ _ | .cardinalityLowered key _ _ | .unknown key | .wrongScope key _ _
  | .tooLong key | .retired key _ | .cardinalityExceeded key _ _ _ => key

def reservedKeys : List String := ["customer", "event_type", "provider", "subtask_type", "task_type"]

def forbiddenKeys : List String := ["task_id", "subtask_id", "idempotency_key", "customer_id", "event_id"]

def isLower (character : Char) : Bool := decide ('a' ≤ character) && decide (character ≤ 'z')

-- [a-z][a-z0-9_]{1,63}
def matchesKeyPattern (key : String) : Bool :=
  match key.toList with
  | [] => false
  | first :: rest =>
      isLower first && decide (1 ≤ rest.length) && decide (rest.length ≤ 63) &&
        rest.all (fun character => isLower character || character.isDigit || character == '_')

def Registry.find (registry : Registry) (key : String) : Option GroupingField :=
  registry.fields.find? (fun field => decide (field.key = key))

def Registry.holder (registry : Registry) (slot : Slot) : Option GroupingField :=
  registry.fields.find? (fun field => decide (field.slot = slot))

def Registry.create (registry : Registry) (field : GroupingField) (newKey : registry.find field.key = none)
    (freeSlot : registry.holder field.slot = none) : Registry where
  fields := registry.fields ++ [field]
  distinctKeys := nodup_add_row GroupingField.key registry.fields field registry.distinctKeys
    (find_key_none GroupingField.key field.key registry.fields newKey)
  distinctSlots := nodup_add_row GroupingField.slot registry.fields field registry.distinctSlots
    (find_key_none GroupingField.slot field.slot registry.fields freeSlot)

-- An update of columns that are neither the key nor the slot.
def Registry.save (registry : Registry) (key : String) (write : GroupingField → GroupingField)
    (sameKey : ∀ field, (write field).key = field.key) (sameSlot : ∀ field, (write field).slot = field.slot) : Registry where
  fields := updateRow GroupingField.key key write registry.fields
  distinctKeys := by
    rw [update_row_map GroupingField.key key write registry.fields GroupingField.key sameKey]
    exact registry.distinctKeys
  distinctSlots := by
    rw [update_row_map GroupingField.key key write registry.fields GroupingField.slot sameSlot]
    exact registry.distinctSlots

def Registry.raise (registry : Registry) (key : String) (maxCardinality : Int) : Registry :=
  registry.save key (fun field => { field with maxCardinality := maxCardinality }) (fun _ => rfl) (fun _ => rfl)

def Registry.retire (registry : Registry) (key : String) (retired : Bool) : Registry :=
  registry.save key (fun field => { field with retired := retired }) (fun _ => rfl) (fun _ => rfl)

def Registry.bind (registry : Registry) (key : String) (slot : Slot) (scope : Scope) (maxCardinality : Int) :
    Except GroupingFieldError Registry :=
  match found : registry.find key with
  | none =>
      match free : registry.holder slot with
      | some holder => .error (.slotBound key slot holder.key)
      | none => .ok (registry.create ⟨key, slot, scope, maxCardinality, false⟩ found free)
  | some existing =>
      if existing.slot ≠ slot then .error (.slotImmutable key existing.slot slot)
      else if existing.scope ≠ scope then .error (.scopeImmutable key existing.scope scope)
      else if maxCardinality < existing.maxCardinality then .error (.cardinalityLowered key existing.maxCardinality maxCardinality)
      else .ok (registry.raise key maxCardinality)

def Registry.declare (registry : Registry) (key slot scope : String) (maxCardinality : Int) :
    Except GroupingFieldError Registry :=
  if !matchesKeyPattern key then .error (.invalidKey key)
  else if key ∈ reservedKeys then .error (.reservedKey key)
  else if key ∈ forbiddenKeys then .error (.forbiddenKey key)
  else
    match slotNamed slot with
    | none => .error (.notASlot key slot)
    | some bound =>
        match scopeNamed scope with
        | none => .error (.notAScope key scope)
        | some level => registry.bind key bound level maxCardinality

-- The distinct-value ledger: one row for each (key, value) ever admitted.
abbrev ValueLedger := List (String × String)

section

variable {Raw : Type} (str : Raw → String)

-- One turn of _bindings.
def bindingOf (registry : Registry) (scope : Scope) (entry : String × Raw) : Except GroupingFieldError (GroupingField × String) :=
  match registry.find entry.1 with
  | none => .error (.unknown entry.1)
  | some field =>
      if field.scope ≠ scope then .error (.wrongScope entry.1 field.scope scope)
      else if 100 < (str entry.2).length then .error (.tooLong entry.1)
      else .ok (field, str entry.2)

def resolve (registry : Registry) (values : List (String × Raw)) (scope : Scope) :
    Except GroupingFieldError (List (Slot × String)) := do
  let bound ← values.mapM (bindingOf str registry scope)
  pure (assignAll [] (bound.map (fun binding => (binding.1.slot, binding.2))))

-- No lock is taken: the count is of the rows committed by then.
def isNovel (ledger : ValueLedger) (field : GroupingField) (value : String) : Except GroupingFieldError Bool :=
  if (field.key, value) ∈ ledger then .ok false
  else if field.retired then .error (.retired field.key value)
  else
    let count := (ledger.filter (fun recorded => decide (recorded.1 = field.key))).length
    if field.maxCardinality ≤ count then .error (.cardinalityExceeded field.key value count field.maxCardinality)
    else .ok true

-- Under uq_grouping_field_value, whose violation is passed over.
def insertValue (ledger : ValueLedger) (entry : String × String) : ValueLedger :=
  if entry ∈ ledger then ledger else ledger ++ [entry]

def recordValue (ledger : ValueLedger) (field : GroupingField) (value : String) : Except GroupingFieldError ValueLedger := do
  let novel ← isNovel ledger field value
  pure (if novel then insertValue ledger (field.key, value) else ledger)

def admitOne (registry : Registry) (scope : Scope) (admitted : List (Slot × String) × ValueLedger) (entry : String × Raw) :
    Except GroupingFieldError (List (Slot × String) × ValueLedger) := do
  let (field, value) ← bindingOf str registry scope entry
  let ledger ← recordValue admitted.2 field value
  pure (assign admitted.1 field.slot value, ledger)

-- Each value is recorded before the next is looked at.
def admitValues (registry : Registry) (ledger : ValueLedger) (values : List (String × Raw)) (scope : Scope) :
    Except GroupingFieldError (List (Slot × String) × ValueLedger) :=
  values.foldlM (admitOne str registry scope) ([], ledger)

end

def Registry.binding (registry : Registry) (key : String) : Option (Slot × Scope) :=
  (registry.find key).map (fun field => (field.slot, field.scope))

def KeepsBindings (earlier later : Registry) : Prop :=
  ∀ key bound, earlier.binding key = some bound → later.binding key = some bound

theorem keeps_bindings_refl (registry : Registry) : KeepsBindings registry registry := fun _ _ bound => bound

theorem find_key (registry : Registry) (key : String) (field : GroupingField) (found : registry.find key = some field) :
    field ∈ registry.fields ∧ field.key = key := find_key_some GroupingField.key key registry.fields field found

theorem key_of_slot (registry : Registry) (first second : String) (one other : GroupingField)
    (firstFound : registry.find first = some one) (secondFound : registry.find second = some other)
    (same : one.slot = other.slot) : first = second := by
  obtain ⟨oneMember, oneKey⟩ := find_key registry first one firstFound
  obtain ⟨otherMember, otherKey⟩ := find_key registry second other secondFound
  have equal := List.inj_on_of_nodup_map registry.distinctSlots oneMember otherMember same
  rw [← oneKey, ← otherKey, equal]

theorem create_keeps_bindings (registry : Registry) (field : GroupingField) (newKey : registry.find field.key = none)
    (freeSlot : registry.holder field.slot = none) : KeepsBindings registry (registry.create field newKey freeSlot) := by
  intro key bound stands
  obtain ⟨held, found, same⟩ := Option.map_eq_some_iff.mp stands
  have later : (registry.create field newKey freeSlot).find key = some held := by
    unfold Registry.find at found ⊢
    rw [Registry.create, List.find?_append, found, Option.some_or]
  rw [Registry.binding, later, Option.map_some, same]

theorem save_keeps_bindings (registry : Registry) (target : String) (write : GroupingField → GroupingField)
    (sameKey : ∀ field, (write field).key = field.key) (sameSlot : ∀ field, (write field).slot = field.slot)
    (sameScope : ∀ field, (write field).scope = field.scope) :
    KeepsBindings registry (registry.save target write sameKey sameSlot) := by
  intro key bound stands
  obtain ⟨held, found, same⟩ := Option.map_eq_some_iff.mp stands
  have keeps : ∀ field : GroupingField, field.key = target → (write field).key = target :=
    fun field hit => (sameKey field).trans hit
  by_cases hit : key = target
  · subst hit
    have later : (registry.save key write sameKey sameSlot).find key = some (write held) := by
      show (updateRow GroupingField.key key write registry.fields).find? _ = _
      rw [find_update_row_hit GroupingField.key key write registry.fields keeps]
      show (registry.find key).map write = _
      rw [found, Option.map_some]
    rw [Registry.binding, later, Option.map_some, sameSlot, sameScope, same]
  · have later : (registry.save target write sameKey sameSlot).find key = some held := by
      show (updateRow GroupingField.key target write registry.fields).find? _ = _
      rw [find_update_row_other GroupingField.key target key write registry.fields keeps hit]
      exact found
    rw [Registry.binding, later, Option.map_some, same]

theorem bind_keeps_bindings (registry next : Registry) (key : String) (slot : Slot) (scope : Scope) (maxCardinality : Int)
    (declared : registry.bind key slot scope maxCardinality = .ok next) : KeepsBindings registry next := by
  unfold Registry.bind at declared
  split at declared
  · split at declared
    · cases declared
    · cases declared
      exact create_keeps_bindings registry _ _ _
  · split at declared
    · cases declared
    · split at declared
      · cases declared
      · split at declared
        · cases declared
        · cases declared
          unfold Registry.raise
          apply save_keeps_bindings
          intro field
          rfl

theorem declare_keeps_bindings (registry next : Registry) (key slot scope : String) (maxCardinality : Int)
    (declared : registry.declare key slot scope maxCardinality = .ok next) : KeepsBindings registry next := by
  unfold Registry.declare at declared
  split at declared
  · cases declared
  · split at declared
    · cases declared
    · split at declared
      · cases declared
      · split at declared
        · cases declared
        · split at declared
          · cases declared
          · exact bind_keeps_bindings registry next key _ _ maxCardinality declared

theorem retire_keeps_bindings (registry : Registry) (key : String) (retired : Bool) :
    KeepsBindings registry (registry.retire key retired) := by
  unfold Registry.retire
  apply save_keeps_bindings
  intro field
  rfl

section

variable {Raw : Type} (str : Raw → String)

theorem binding_ok_iff (registry : Registry) (scope : Scope) (entry : String × Raw) (field : GroupingField) (value : String) :
    bindingOf str registry scope entry = .ok (field, value) ↔
      registry.find entry.1 = some field ∧ field.scope = scope ∧ (str entry.2).length ≤ 100 ∧ str entry.2 = value := by
  unfold bindingOf
  cases found : registry.find entry.1 with
  | none => simp
  | some held =>
    by_cases level : held.scope = scope
    · by_cases long : 100 < (str entry.2).length
      · simp [level, long, Nat.not_le_of_lt long]
      · simp only [level, ne_eq, not_true_eq_false, if_false, long, Except.ok.injEq, Prod.mk.injEq, Option.some.injEq,
          Nat.le_of_not_lt long, true_and]
        constructor
        · rintro ⟨rfl, same⟩
          exact ⟨rfl, level, same⟩
        · rintro ⟨same, _, rendered⟩
          exact ⟨same, rendered⟩
    · simp only [ne_eq, level, not_false_eq_true, if_true, reduceCtorEq, Option.some.injEq, false_iff]
      rintro ⟨rfl, same, _⟩
      exact level same

theorem binding_error_key (registry : Registry) (scope : Scope) (entry : String × Raw) (error : GroupingFieldError)
    (refused : bindingOf str registry scope entry = .error error) : error.key = entry.1 := by
  unfold bindingOf at refused
  split at refused
  · cases refused
    rfl
  · split at refused
    · cases refused
      rfl
    · split at refused
      · cases refused
        rfl
      · cases refused

theorem resolve_ok_iff (registry : Registry) (scope : Scope) (values : List (String × Raw)) (slots : List (Slot × String)) :
    resolve str registry values scope = .ok slots ↔
      ∃ bound, List.Forall₂ (fun entry binding => bindingOf str registry scope entry = .ok binding) values bound ∧
        slots = assignAll [] (bound.map (fun binding => (binding.1.slot, binding.2))) := by
  rw [resolve, bind_eq_ok]
  simp only [map_m_ok, pure_eq_ok]
  exact exists_congr fun bound => and_congr_right fun _ => eq_comm

theorem admit_binds (registry : Registry) (scope : Scope) (values : List (String × Raw))
    (admitted final : List (Slot × String) × ValueLedger)
    (done : values.foldlM (admitOne str registry scope) admitted = .ok final) :
    ∃ bound, List.Forall₂ (fun entry binding => bindingOf str registry scope entry = .ok binding) values bound ∧
      final.1 = assignAll admitted.1 (bound.map (fun binding => (binding.1.slot, binding.2))) := by
  induction values generalizing admitted with
  | nil =>
    rw [List.foldlM_nil, pure_eq_ok] at done
    exact ⟨[], .nil, by rw [done]; rfl⟩
  | cons entry rest ih =>
    obtain ⟨middle, first, later⟩ := (fold_m_cons_ok _ admitted final entry rest).mp done
    simp only [admitOne, bind_eq_ok, pure_eq_ok] at first
    obtain ⟨⟨field, value⟩, bound, ledger, _, rfl⟩ := first
    obtain ⟨others, binds, same⟩ := ih _ later
    exact ⟨(field, value) :: others, .cons bound binds, by rw [same]; rfl⟩

theorem admit_resolves (registry : Registry) (ledger final : ValueLedger) (scope : Scope) (values : List (String × Raw))
    (slots : List (Slot × String)) (admitted : admitValues str registry ledger values scope = .ok (slots, final)) :
    resolve str registry values scope = .ok slots := by
  rw [resolve_ok_iff]
  exact admit_binds str registry scope values _ _ admitted

theorem binding_kept (earlier later : Registry) (keeps : KeepsBindings earlier later) (scope : Scope) (entry : String × Raw)
    (binding : GroupingField × String) (bound : bindingOf str earlier scope entry = .ok binding) :
    ∃ kept, bindingOf str later scope entry = .ok kept ∧ kept.1.slot = binding.1.slot ∧ kept.2 = binding.2 := by
  obtain ⟨field, value⟩ := binding
  obtain ⟨found, level, short, rendered⟩ := (binding_ok_iff str earlier scope entry field value).mp bound
  have stands : earlier.binding entry.1 = some (field.slot, field.scope) := by rw [Registry.binding, found, Option.map_some]
  obtain ⟨kept, keptFound, same⟩ := Option.map_eq_some_iff.mp (keeps _ _ stands)
  rw [Prod.mk.injEq] at same
  exact ⟨(kept, value), (binding_ok_iff str later scope entry kept value).mpr ⟨keptFound, same.2.trans level, short, rendered⟩,
    same.1, rfl⟩

theorem resolve_kept (earlier later : Registry) (keeps : KeepsBindings earlier later) (scope : Scope)
    (values : List (String × Raw)) (slots : List (Slot × String)) (resolved : resolve str earlier values scope = .ok slots) :
    resolve str later values scope = .ok slots := by
  rw [resolve_ok_iff] at resolved ⊢
  obtain ⟨bound, binds, rfl⟩ := resolved
  have again : ∃ kept, List.Forall₂ (fun entry binding => bindingOf str later scope entry = .ok binding) values kept ∧
      kept.map (fun binding => (binding.1.slot, binding.2)) = bound.map (fun binding => (binding.1.slot, binding.2)) := by
    induction binds with
    | nil => exact ⟨[], .nil, rfl⟩
    | cons first _ ih =>
      obtain ⟨kept, keptBinds, sameSlot, sameValue⟩ := binding_kept str earlier later keeps scope _ _ first
      obtain ⟨others, othersBind, same⟩ := ih
      exact ⟨kept :: others, .cons keptBinds othersBind, by rw [List.map_cons, List.map_cons, same, sameSlot, sameValue]⟩
  obtain ⟨kept, keptBinds, same⟩ := again
  exact ⟨kept, keptBinds, by rw [same]⟩

theorem bound_slots_distinct (registry : Registry) (scope : Scope) (values : List (String × Raw))
    (bound : List (GroupingField × String)) (distinct : (keysOf values).Nodup)
    (binds : List.Forall₂ (fun entry binding => bindingOf str registry scope entry = .ok binding) values bound) :
    (keysOf (bound.map (fun binding => (binding.1.slot, binding.2)))).Nodup := by
  induction binds with
  | nil => exact List.nodup_nil
  | cons first rest ih =>
    rename_i entry binding entries bindings
    obtain ⟨fresh, others⟩ := List.nodup_cons.mp distinct
    refine List.nodup_cons.mpr ⟨?_, ih others⟩
    intro taken
    obtain ⟨pair, pairMember, same⟩ := List.mem_map.mp taken
    obtain ⟨other, member, rfl⟩ := List.mem_map.mp pairMember
    obtain ⟨index, within, here⟩ := List.mem_iff_getElem.mp member
    have inside : index < entries.length := by rwa [rest.length_eq]
    have there := rest.get inside within
    simp only [List.get_eq_getElem] at there
    rw [here] at there
    have firstFound := ((binding_ok_iff str registry scope entry binding.1 binding.2).mp first).1
    have otherFound := ((binding_ok_iff str registry scope entries[index] other.1 other.2).mp there).1
    have sameKey := key_of_slot registry _ _ _ _ otherFound firstFound same
    exact fresh (sameKey ▸ key_of_entry (List.getElem_mem inside))

theorem slot_lookup_iff (registry : Registry) (scope : Scope) (values : List (String × Raw)) (slots : List (Slot × String))
    (distinct : (keysOf values).Nodup) (resolved : resolve str registry values scope = .ok slots) (slot : Slot) (value : String) :
    slots.lookup slot = some value ↔
      ∃ entry ∈ values, ∃ field, bindingOf str registry scope entry = .ok (field, value) ∧ field.slot = slot := by
  obtain ⟨bound, binds, rfl⟩ := (resolve_ok_iff str registry scope values slots).mp resolved
  have slotsDistinct := bound_slots_distinct str registry scope values bound distinct binds
  rw [lookup_assign_all [] _ slotsDistinct, List.lookup_nil, Option.or_none]
  constructor
  · intro held
    obtain ⟨⟨field, stored⟩, member, same⟩ := List.mem_map.mp (entry_of_lookup _ slot value held)
    rw [Prod.mk.injEq] at same
    obtain ⟨entry, inside, isBound⟩ := forall₂_of_mem_left binds.flip (field, stored) member
    exact ⟨entry, inside, field, by rw [isBound, ← same.2], same.1⟩
  · rintro ⟨entry, inside, field, isBound, rfl⟩
    obtain ⟨binding, member, sameBinding⟩ := forall₂_of_mem_left binds entry inside
    rw [isBound, Except.ok.injEq] at sameBinding
    subst sameBinding
    exact lookup_of_entry _ slotsDistinct (field.slot, value) (List.mem_map_of_mem member)

def nonEmptyValue (values : List (String × Raw)) (key : String) : Option String :=
  ((values.lookup key).map str).filter (fun value => decide (value ≠ ""))

theorem non_empty_value_iff (registry : Registry) (scope : Scope) (values : List (String × Raw)) (slots : List (Slot × String))
    (distinct : (keysOf values).Nodup) (resolved : resolve str registry values scope = .ok slots) (key value : String) :
    nonEmptyValue str values key = some value ↔
      ∃ field, registry.find key = some field ∧ slots.lookup field.slot = some value ∧ value ≠ "" := by
  have slotIff := slot_lookup_iff str registry scope values slots distinct resolved
  rw [nonEmptyValue, Option.filter_eq_some_iff, Option.map_eq_some_iff]
  constructor
  · rintro ⟨⟨raw, held, rendered⟩, solid⟩
    obtain ⟨bound, binds, _⟩ := (resolve_ok_iff str registry scope values slots).mp resolved
    have member := entry_of_lookup values key raw held
    obtain ⟨⟨field, stored⟩, _, isBound⟩ := forall₂_of_mem_left binds (key, raw) member
    obtain ⟨found, _, _, same⟩ := (binding_ok_iff str registry scope (key, raw) field stored).mp isBound
    exact ⟨field, found, (slotIff field.slot value).mpr ⟨(key, raw), member, field, by rw [isBound, ← same, rendered], rfl⟩,
      of_decide_eq_true solid⟩
  · rintro ⟨field, found, held, solid⟩
    obtain ⟨entry, member, other, isBound, sameSlot⟩ := (slotIff field.slot value).mp held
    obtain ⟨otherFound, _, _, rendered⟩ := (binding_ok_iff str registry scope entry other value).mp isBound
    have sameKey := key_of_slot registry _ _ other field otherFound found sameSlot
    exact ⟨⟨entry.2, by rw [← sameKey]; exact lookup_of_entry values distinct entry member, rendered⟩, decide_eq_true solid⟩

def solid (held : Option String) : Option String := held.filter (fun value => decide (value ≠ ""))

theorem solid_some_iff (held : Option String) (value : String) : solid held = some value ↔ held = some value ∧ value ≠ "" := by
  rw [solid, Option.filter_eq_some_iff, decide_eq_true_iff]

-- An absent text is written to its column as the empty one, and read back as
-- absent.
theorem solid_stored (held : Option String) : solid (some (held.getD "")) = solid held := by
  cases held <;> rfl

theorem solid_solid (held : Option String) : solid (solid held) = solid held := by
  apply Option.ext
  intro value
  rw [solid_some_iff, solid_some_iff, and_assoc, and_self]

theorem eq_solid_iff (held : Option String) : held = solid held ↔ held ≠ some "" := by
  cases held with
  | none =>
    constructor
    · exact fun _ => nofun
    · exact fun _ => rfl
  | some value =>
    rw [eq_comm, solid_some_iff]
    constructor
    · rintro ⟨_, filled⟩ same
      exact filled (Option.some.inj same)
    · exact fun filled => ⟨rfl, fun empty => filled (congrArg some empty)⟩

theorem same_values_of_same_slots (registry : Registry) (scope : Scope) (values others : List (String × Raw))
    (slots otherSlots : List (Slot × String)) (distinct : (keysOf values).Nodup) (otherDistinct : (keysOf others).Nodup)
    (resolved : resolve str registry values scope = .ok slots) (otherResolved : resolve str registry others scope = .ok otherSlots)
    (same : ∀ slot, solid (slots.lookup slot) = solid (otherSlots.lookup slot)) (key : String) :
    nonEmptyValue str values key = nonEmptyValue str others key := by
  apply Option.ext
  intro value
  rw [non_empty_value_iff str registry scope values slots distinct resolved,
    non_empty_value_iff str registry scope others otherSlots otherDistinct otherResolved]
  simp only [← solid_some_iff, same]

theorem no_empty_slot_iff (registry : Registry) (scope : Scope) (values : List (String × Raw)) (slots : List (Slot × String))
    (distinct : (keysOf values).Nodup) (resolved : resolve str registry values scope = .ok slots) :
    (∀ slot, slots.lookup slot ≠ some "") ↔ ∀ entry ∈ values, str entry.2 ≠ "" := by
  have slotIff := slot_lookup_iff str registry scope values slots distinct resolved
  obtain ⟨bound, binds, _⟩ := (resolve_ok_iff str registry scope values slots).mp resolved
  constructor
  · intro filled entry member empty
    obtain ⟨⟨field, stored⟩, _, isBound⟩ := forall₂_of_mem_left binds entry member
    obtain ⟨_, _, _, rendered⟩ := (binding_ok_iff str registry scope entry field stored).mp isBound
    exact filled field.slot ((slotIff field.slot "").mpr ⟨entry, member, field, by rw [isBound, ← rendered, empty], rfl⟩)
  · intro filled slot held
    obtain ⟨entry, member, field, isBound, _⟩ := (slotIff slot "").mp held
    exact filled entry member ((binding_ok_iff str registry scope entry field "").mp isBound).2.2.2

theorem resolve_error (registry : Registry) (scope : Scope) (values : List (String × Raw)) (error : GroupingFieldError)
    (refused : resolve str registry values scope = .error error) :
    ∃ entry ∈ values, bindingOf str registry scope entry = .error error := by
  have each : ∀ entries : List (String × Raw), entries.mapM (bindingOf str registry scope) = .error error →
      ∃ entry ∈ entries, bindingOf str registry scope entry = .error error := by
    intro entries
    induction entries with
    | nil => exact fun refused => nomatch refused
    | cons entry rest ih =>
      intro refused
      rw [List.mapM_cons] at refused
      cases first : bindingOf str registry scope entry with
      | error other =>
        rw [first] at refused
        cases refused
        exact ⟨entry, List.mem_cons_self, first⟩
      | ok binding =>
        rw [first, ok_bind] at refused
        cases later : rest.mapM (bindingOf str registry scope) with
        | error other =>
          rw [later] at refused
          cases refused
          obtain ⟨found, member, isRefused⟩ := ih later
          exact ⟨found, List.mem_cons_of_mem entry member, isRefused⟩
        | ok bound =>
          rw [later] at refused
          cases refused
  cases bound : values.mapM (bindingOf str registry scope) with
  | error other =>
    rw [resolve, bound] at refused
    cases refused
    exact each values bound
  | ok bindings =>
    rw [resolve, bound] at refused
    cases refused

theorem refused_entry_differs (registry : Registry) (scope : Scope) (values others : List (String × Raw))
    (slots : List (Slot × String)) (error : GroupingFieldError) (resolved : resolve str registry values scope = .ok slots)
    (refused : resolve str registry others scope = .error error) :
    ∃ value, (error.key, value) ∈ others ∧ (values.lookup error.key).map str ≠ some (str value) := by
  obtain ⟨⟨key, value⟩, member, isRefused⟩ := resolve_error str registry scope others error refused
  have about : error.key = key := binding_error_key str registry scope (key, value) error isRefused
  subst about
  refine ⟨value, member, ?_⟩
  intro carried
  obtain ⟨original, held, rendered⟩ := Option.map_eq_some_iff.mp carried
  obtain ⟨bound, binds, _⟩ := (resolve_ok_iff str registry scope values slots).mp resolved
  obtain ⟨⟨field, text⟩, _, isBound⟩ := forall₂_of_mem_left binds (error.key, original) (entry_of_lookup _ _ original held)
  obtain ⟨found, level, short, same⟩ := (binding_ok_iff str registry scope (error.key, original) field text).mp isBound
  have accepted := (binding_ok_iff str registry scope (error.key, value) field text).mpr
    ⟨found, level, rendered ▸ short, rendered.symm.trans same⟩
  exact nomatch isRefused.symm.trans accepted

end

end Ubb.Work.Grouping
