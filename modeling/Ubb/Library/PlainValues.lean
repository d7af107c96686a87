import Ubb.Library.Dictionary

set_option autoImplicit false

-- The values a record of plain data is made of, and the equality that ignores
-- the order of a dictionary's entries and the kind of a number.
namespace Ubb.Plain

open Library

-- The last constructor is a value of any other class: equal to itself alone.
inductive Value where
  | null
  | bool (flag : Bool)
  | int (whole : Int)
  | float (number : ℚ)
  | text (text : String)
  | list (items : List Value)
  | tuple (items : List Value)
  | dict (entries : List (String × Value))
  | other (identity : Nat) (hashes : Bool)
deriving Repr

abbrev Dict := List (String × Value)

def Value.number : Value → Option ℚ
  | .bool flag => some (if flag then 1 else 0)
  | .int whole => some whole
  | .float number => some number
  | _ => none

mutual

def Value.same : Value → Value → Bool
  | .null, .null => true
  | .text left, .text right => left == right
  | .list left, .list right => sameItems left right
  | .tuple left, .tuple right => sameItems left right
  | .dict left, .dict right => left.length == right.length && sameEntries left right
  | .other left _, .other right _ => left == right
  | .bool left, right => right.number == some (if left then 1 else 0)
  | .int left, right => right.number == some (left : ℚ)
  | .float left, right => right.number == some left
  | _, _ => false

def sameItems : List Value → List Value → Bool
  | [], [] => true
  | left :: leftRest, right :: rightRest => left.same right && sameItems leftRest rightRest
  | _, _ => false

def sameEntries : List (String × Value) → List (String × Value) → Bool
  | [], _ => true
  | (key, value) :: rest, right =>
    (match right.lookup key with
      | some held => value.same held
      | none => false) && sameEntries rest right

end

mutual

def Value.hashable : Value → Bool
  | .list _ | .dict _ => false
  | .tuple items => allHashable items
  | .other _ hashes => hashes
  | _ => true

def allHashable : List Value → Bool
  | [] => true
  | item :: rest => item.hashable && allHashable rest

end

mutual

def Value.leaves : Value → List Value
  | .list items => leavesOfItems items
  | .tuple items => leavesOfItems items
  | .dict entries => leavesOfEntries entries
  | leaf => [leaf]

def leavesOfItems : List Value → List Value
  | [] => []
  | item :: rest => item.leaves ++ leavesOfItems rest

def leavesOfEntries : List (String × Value) → List Value
  | [] => []
  | (_, inner) :: rest => inner.leaves ++ leavesOfEntries rest

end

mutual

def Value.WellFormed : Value → Prop
  | .list items => ItemsWellFormed items
  | .tuple items => ItemsWellFormed items
  | .dict entries => (keysOf entries).Nodup ∧ EntriesWellFormed entries
  | _ => True

def ItemsWellFormed : List Value → Prop
  | [] => True
  | item :: rest => item.WellFormed ∧ ItemsWellFormed rest

def EntriesWellFormed : List (String × Value) → Prop
  | [] => True
  | (_, inner) :: rest => inner.WellFormed ∧ EntriesWellFormed rest

end

def item (entries : Dict) (key : String) : Value := (entries.lookup key).getD .null

def isText : Value → Bool
  | .text _ => true
  | _ => false

def isNull : Value → Bool
  | .null => true
  | _ => false

theorem same_text (value : Value) (text : String) : value.same (.text text) = true ↔ value = .text text := by
  cases value <;> simp [Value.same, Value.number]

theorem is_null_iff (value : Value) : isNull value = true ↔ value = .null := by
  cases value <;> simp [isNull]

mutual

theorem same_self (value : Value) (formed : value.WellFormed) : value.same value = true := by
  cases value with
  | null => rfl
  | bool flag => simp [Value.same, Value.number]
  | int whole => simp [Value.same, Value.number]
  | float number => simp [Value.same, Value.number]
  | text text => simp [Value.same]
  | list items => exact same_items_self items formed
  | tuple items => exact same_items_self items formed
  | dict entries =>
    obtain ⟨distinct, inner⟩ := formed
    rw [Value.same, beq_self_eq_true, Bool.true_and]
    apply same_entries_self entries entries inner
    intro entry member
    exact lookup_of_entry entries distinct entry member
  | other identity hashes => simp [Value.same]

theorem same_items_self (items : List Value) (formed : ItemsWellFormed items) : sameItems items items = true := by
  cases items with
  | nil => rfl
  | cons item rest => rw [sameItems, same_self item formed.1, same_items_self rest formed.2, Bool.and_self]

theorem same_entries_self (entries whole : List (String × Value)) (formed : EntriesWellFormed entries)
    (held : ∀ entry ∈ entries, whole.lookup entry.1 = some entry.2) : sameEntries entries whole = true := by
  cases entries with
  | nil => rfl
  | cons entry rest =>
    obtain ⟨key, value⟩ := entry
    have first := held (key, value) List.mem_cons_self
    rw [sameEntries, first]
    simp only
    rw [same_self value formed.1, same_entries_self rest whole formed.2
      (fun later member => held later (List.mem_cons_of_mem _ member)), Bool.and_self]

end

theorem entries_well_formed (entries : Dict) (formed : EntriesWellFormed entries) (key : String) (value : Value)
    (held : entries.lookup key = some value) : value.WellFormed := by
  induction entries with
  | nil => cases held
  | cons entry rest ih =>
    obtain ⟨stored, inner⟩ := entry
    rw [List.lookup_cons] at held
    split at held
    · cases held
      exact formed.1
    · exact ih formed.2 held

end Ubb.Plain
