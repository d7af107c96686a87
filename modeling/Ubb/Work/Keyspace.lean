import Ubb.Library.Runs
import Ubb.Work.RecordedValues

set_option autoImplicit false

-- "A keyspace guard, not an invariant": the cap is read before the insert, and
-- other writers' values land in between.
namespace Ubb.Work.Grouping

open Ubb.Library

structure Keyspace where
  registry : Registry
  ledger : ValueLedger
  inFlight : List (Nat × (String × String))

inductive Admitting where
  | look (writer : Nat) (key value : String)
  | commit (writer : Nat)
  | rollback (writer : Nat)
  | declare (key slot scope : String) (maxCardinality : Int)
  | retire (key : String) (retired : Bool)

def Keyspace.mine (space : Keyspace) (writer : Nat) : ValueLedger :=
  (space.inFlight.filter (fun held => decide (held.1 = writer))).map Prod.snd

def Keyspace.others (space : Keyspace) (writer : Nat) : List (Nat × (String × String)) :=
  space.inFlight.filter (fun held => !decide (held.1 = writer))

def admitting (space : Keyspace) : Admitting → Keyspace
  | .look writer key value =>
      match space.registry.find key with
      | none => space
      | some field =>
          match isNovel space.ledger field value with
          | .ok true => { space with inFlight := space.inFlight ++ [(writer, field.key, value)] }
          | .ok false | .error _ => space
  | .commit writer => { space with
      ledger := (space.mine writer).foldl insertValue space.ledger
      inFlight := space.others writer }
  | .rollback writer => { space with inFlight := space.others writer }
  | .declare key slot scope maxCardinality =>
      match space.registry.declare key slot scope maxCardinality with
      | .ok registry => { space with registry := registry }
      | .error _ => space
  | .retire key retired => { space with registry := space.registry.retire key retired }

def countOf (entries : ValueLedger) (key : String) : Nat := (entries.filter (fun recorded => decide (recorded.1 = key))).length

def Keyspace.held (space : Keyspace) (key : String) : Nat := countOf space.ledger key + countOf (space.inFlight.map Prod.snd) key

structure WithinCaps (registry : Registry) (held : String → Nat) (slack : Nat) : Prop where
  declared : ∀ key, registry.find key = none → held key = 0
  bounded : ∀ field ∈ registry.fields, (held field.key : Int) ≤ max field.maxCardinality 0 + slack

theorem fewer_within_caps (registry : Registry) (held fewer : String → Nat) (slack : Nat) (within : WithinCaps registry held slack)
    (below : ∀ key, fewer key ≤ held key) : WithinCaps registry fewer slack := by
  refine ⟨fun key missing => ?_, fun field inside => ?_⟩
  · have none_held := within.declared key missing
    have less := below key
    omega
  · have bound := within.bounded field inside
    have less := below field.key
    omega

theorem save_within_caps (registry : Registry) (held : String → Nat) (slack : Nat) (within : WithinCaps registry held slack)
    (key : String) (write : GroupingField → GroupingField) (sameKey : ∀ field, (write field).key = field.key)
    (sameSlot : ∀ field, (write field).slot = field.slot) (sameScope : ∀ field, (write field).scope = field.scope)
    (raises : ∀ field, registry.find key = some field → field.maxCardinality ≤ (write field).maxCardinality) :
    WithinCaps (registry.save key write sameKey sameSlot) held slack := by
  refine ⟨?_, ?_⟩
  · intro other missing
    apply within.declared other
    cases found : registry.find other with
    | none => rfl
    | some field =>
      have kept := save_keeps_bindings registry key write sameKey sameSlot sameScope other _
        (by rw [Registry.binding, found, Option.map_some])
      rw [Registry.binding, missing] at kept
      cases kept
  · intro field member
    rcases mem_update_row GroupingField.key key write registry.fields field member with ⟨old, _⟩ | ⟨old, inside, hit, rfl⟩
    · exact within.bounded field old
    · have found : registry.find key = some old := hit ▸ find_key_of_mem GroupingField.key registry.fields registry.distinctKeys old inside
      have before := within.bounded old inside
      have raised := raises old found
      rw [sameKey]
      omega

theorem create_within_caps (registry : Registry) (held : String → Nat) (slack : Nat) (within : WithinCaps registry held slack)
    (field : GroupingField) (newKey : registry.find field.key = none) (freeSlot : registry.holder field.slot = none) :
    WithinCaps (registry.create field newKey freeSlot) held slack := by
  refine ⟨?_, ?_⟩
  · intro other missing
    have absent : (registry.fields ++ [field]).find? (fun row => decide (row.key = other)) = none := missing
    rw [List.find?_append, Option.or_eq_none_iff] at absent
    exact within.declared other absent.1
  · intro other member
    rcases List.mem_append.mp member with old | new
    · exact within.bounded other old
    · rw [List.mem_singleton.mp new, within.declared field.key newKey]
      omega

theorem declare_within_caps (registry next : Registry) (held : String → Nat) (slack : Nat) (within : WithinCaps registry held slack)
    (key slot scope : String) (maxCardinality : Int) (declared : registry.declare key slot scope maxCardinality = .ok next) :
    WithinCaps next held slack := by
  obtain ⟨bound, level, binds⟩ : ∃ bound level, registry.bind key bound level maxCardinality = .ok next := by
    rw [Registry.declare] at declared
    split at declared
    · cases declared
    · split at declared
      · cases declared
      · split at declared
        · cases declared
        · split at declared
          · cases declared
          · split at declared
            · cases declared
            · exact ⟨_, _, declared⟩
  rw [Registry.bind] at binds
  split at binds
  · split at binds
    · cases binds
    · cases binds
      exact create_within_caps registry held slack within _ _ _
  · rename_i existing found
    split at binds
    · cases binds
    · split at binds
      · cases binds
      · split at binds
        · cases binds
        · rename_i raised
          cases binds
          rw [Registry.raise]
          apply save_within_caps registry held slack within key (fun field => { field with maxCardinality := maxCardinality }) _ _
            (fun _ => rfl)
          intro field heldField
          cases found.symm.trans heldField
          exact Int.not_lt.mp raised

theorem is_novel_room (ledger : ValueLedger) (field : GroupingField) (value : String)
    (novel : isNovel ledger field value = .ok true) : (countOf ledger field.key : Int) < field.maxCardinality := by
  rw [isNovel] at novel
  split at novel
  · cases novel
  · split at novel
    · cases novel
    · dsimp only at novel
      split at novel
      · cases novel
      · rename_i room
        exact Int.not_le.mp room

theorem count_of_append (entries more : ValueLedger) (key : String) :
    countOf (entries ++ more) key = countOf entries key + countOf more key := by
  rw [countOf, List.filter_append, List.length_append, countOf, countOf]

theorem count_of_inserted (mine ledger : ValueLedger) (key : String) :
    countOf (mine.foldl insertValue ledger) key ≤ countOf ledger key + countOf mine key := by
  induction mine generalizing ledger with
  | nil => exact Nat.le_add_right _ _
  | cons entry rest ih =>
    have one : countOf (insertValue ledger entry) key ≤ countOf ledger key + countOf [entry] key := by
      rw [insertValue]
      split
      · exact Nat.le_add_right _ _
      · exact (count_of_append ledger [entry] key).le
    have all := count_of_append [entry] rest key
    rw [List.singleton_append] at all
    calc countOf (rest.foldl insertValue (insertValue ledger entry)) key
        ≤ countOf (insertValue ledger entry) key + countOf rest key := ih _
      _ ≤ countOf ledger key + countOf (entry :: rest) key := by omega

theorem in_flight_split (space : Keyspace) (writer : Nat) (key : String) :
    countOf (space.mine writer) key + countOf ((space.others writer).map Prod.snd) key =
      countOf (space.inFlight.map Prod.snd) key := by
  rw [← count_of_append, Keyspace.mine, Keyspace.others, ← List.map_append, countOf, countOf]
  exact (((List.filter_append_perm _ space.inFlight).map Prod.snd).filter _).length_eq

theorem admitting_within_caps (writers : Nat) (space : Keyspace) (move : Admitting)
    (within : WithinCaps space.registry space.held (writers - 1))
    (few : ∀ key, countOf ((admitting space move).inFlight.map Prod.snd) key ≤ writers) :
    WithinCaps (admitting space move).registry (admitting space move).held (writers - 1) := by
  cases move with
  | look writer key value =>
    rw [admitting] at few ⊢
    split
    · exact within
    · rename_i field found
      rw [found] at few
      dsimp only at few
      obtain ⟨inside, named⟩ := find_key space.registry key field found
      split
      · rename_i novel
        rw [novel] at few
        have room := is_novel_room space.ledger field value novel
        have unlike : ∀ other, other ≠ field.key → countOf [(field.key, value)] other = 0 := by
          intro other differs
          rw [countOf, List.filter_cons_of_neg (by simpa using Ne.symm differs)]
          rfl
        refine ⟨?_, ?_⟩
        · intro other missing
          have differs : other ≠ field.key := by
            rintro rfl
            rw [named, found] at missing
            cases missing
          have before := within.declared other missing
          simp only [Keyspace.held, List.map_append, List.map_cons, List.map_nil, count_of_append] at before ⊢
          rw [unlike other differs]
          omega
        · intro other otherInside
          have before := within.bounded other otherInside
          simp only [Keyspace.held, List.map_append, List.map_cons, List.map_nil, count_of_append] at before few ⊢
          by_cases same : other.key = field.key
          · have equal := List.inj_on_of_nodup_map space.registry.distinctKeys otherInside inside same
            subst equal
            have crowd := few other.key
            have one : countOf [(other.key, value)] other.key = 1 := by
              rw [countOf, List.filter_cons_of_pos (by simp)]
              rfl
            omega
          · rw [unlike other.key same]
            omega
      · exact within
      · exact within
  | commit writer =>
    apply fewer_within_caps space.registry space.held _ _ within
    intro key
    have landed := count_of_inserted (space.mine writer) space.ledger key
    have split := in_flight_split space writer key
    show countOf ((space.mine writer).foldl insertValue space.ledger) key + countOf ((space.others writer).map Prod.snd) key ≤ _
    rw [Keyspace.held]
    omega
  | rollback writer =>
    apply fewer_within_caps space.registry space.held _ _ within
    intro key
    have split := in_flight_split space writer key
    show countOf space.ledger key + countOf ((space.others writer).map Prod.snd) key ≤ _
    rw [Keyspace.held]
    omega
  | declare key slot scope maxCardinality =>
    rw [admitting]
    split
    · rename_i registry declared
      exact declare_within_caps space.registry registry space.held _ within key slot scope maxCardinality declared
    · exact within
  | retire key retired =>
    exact save_within_caps space.registry space.held _ within key (fun field => { field with retired := retired }) (fun _ => rfl)
      (fun _ => rfl) (fun _ => rfl) (fun _ _ => Int.le_refl _)

theorem overshoot_is_below_the_writers (writers : Nat) (registry : Registry) (moves : List Admitting)
    (few : Along admitting (fun space move => ∀ key, countOf ((admitting space move).inFlight.map Prod.snd) key ≤ writers)
      ⟨registry, [], []⟩ moves) :
    let reached := run admitting ⟨registry, [], []⟩ moves
    ∀ field ∈ reached.registry.fields, (countOf reached.ledger field.key : Int) ≤ max field.maxCardinality 0 + (writers - 1 : Nat) := by
  intro reached field inside
  have within : WithinCaps reached.registry reached.held (writers - 1) :=
    along_invariant admitting (fun space => WithinCaps space.registry space.held (writers - 1)) _
      (fun space move before crowd => admitting_within_caps writers space move before crowd) ⟨registry, [], []⟩ moves
      ⟨fun _ _ => rfl, fun field _ => by
        have none_held : (Keyspace.held ⟨registry, [], []⟩ field.key : Int) = 0 := rfl
        rw [none_held]
        omega⟩ few
  have bound := within.bounded field inside
  rw [Keyspace.held] at bound
  omega

-- Two writers at the last place of a key: both had room, and both landed.
example : (run admitting
    ⟨⟨[⟨"region", 0, .task, 1, false⟩], by decide, by decide⟩, [], []⟩
    [.look 0 "region" "eu", .look 1 "region" "us", .commit 0, .commit 1]).ledger = [("region", "eu"), ("region", "us")] := by
  decide

end Ubb.Work.Grouping
