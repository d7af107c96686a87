import Mathlib.Data.List.Nodup
import Mathlib.Data.List.Perm.Basic
import Mathlib.Tactic

set_option autoImplicit false

-- A dictionary kept as the list of its entries in insertion order: storing
-- under a present key replaces the value in place, under a new key it appends.
namespace Ubb.Library

variable {Key Value : Type} [DecidableEq Key]

def keysOf (entries : List (Key × Value)) : List Key := entries.map Prod.fst

def assign (entries : List (Key × Value)) (key : Key) (value : Value) : List (Key × Value) :=
  if key ∈ keysOf entries then
    entries.map (fun entry => if entry.1 = key then (key, value) else entry)
  else entries ++ [(key, value)]

def setDefault (entries : List (Key × Value)) (key : Key) (value : Value) : List (Key × Value) :=
  if key ∈ keysOf entries then entries else entries ++ [(key, value)]

-- dict.update: each entry of the second stored in the first, in order.
def assignAll (entries added : List (Key × Value)) : List (Key × Value) :=
  added.foldl (fun stored entry => assign stored entry.1 entry.2) entries

theorem assign_keys (entries : List (Key × Value)) (key : Key) (value : Value) :
    keysOf (assign entries key value) =
      if key ∈ keysOf entries then keysOf entries else keysOf entries ++ [key] := by
  unfold assign
  split
  · rw [keysOf, List.map_map, keysOf]
    apply List.map_congr_left
    intro entry _
    by_cases same : entry.1 = key
    · simp [same]
    · simp [same]
  · simp [keysOf]

theorem distinct_snoc (keys : List Key) (key : Key) (distinct : keys.Nodup) :
    (if key ∈ keys then keys else keys ++ [key]).Nodup := by
  split
  · exact distinct
  · next absent =>
    rw [List.nodup_append]
    refine ⟨distinct, List.nodup_singleton key, ?_⟩
    intro held mem other single
    rw [List.mem_singleton] at single
    rintro rfl
    exact absent (single ▸ mem)

theorem assign_distinct (entries : List (Key × Value)) (key : Key) (value : Value)
    (distinct : (keysOf entries).Nodup) : (keysOf (assign entries key value)).Nodup := by
  rw [assign_keys]
  exact distinct_snoc _ _ distinct

omit [DecidableEq Key] in
theorem key_of_entry {entries : List (Key × Value)} {entry : Key × Value} (mem : entry ∈ entries) :
    entry.1 ∈ keysOf entries := List.mem_map_of_mem mem

theorem mem_assign (entries : List (Key × Value)) (key : Key) (value : Value) (entry : Key × Value) :
    entry ∈ assign entries key value ↔
      entry = (key, value) ∨ (entry ∈ entries ∧ entry.1 ≠ key) := by
  unfold assign
  split
  · next held =>
    rw [List.mem_map]
    constructor
    · rintro ⟨stored, mem, same⟩
      by_cases hit : stored.1 = key
      · rw [if_pos hit] at same
        exact Or.inl same.symm
      · rw [if_neg hit] at same
        subst same
        exact Or.inr ⟨mem, hit⟩
    · rintro (rfl | ⟨mem, other⟩)
      · obtain ⟨stored, mem, same⟩ := List.mem_map.mp held
        exact ⟨stored, mem, if_pos same⟩
      · exact ⟨entry, mem, if_neg other⟩
  · next absent =>
    rw [List.mem_append, List.mem_singleton]
    constructor
    · rintro (mem | same)
      · refine Or.inr ⟨mem, ?_⟩
        rintro rfl
        exact absent (key_of_entry mem)
      · exact Or.inl same
    · rintro (same | ⟨mem, _⟩)
      · exact Or.inr same
      · exact Or.inl mem

theorem assign_all_distinct (entries added : List (Key × Value)) (distinct : (keysOf entries).Nodup) :
    (keysOf (assignAll entries added)).Nodup := by
  unfold assignAll
  induction added generalizing entries with
  | nil => exact distinct
  | cons entry rest ih => exact ih _ (assign_distinct _ _ _ distinct)

theorem lookup_assign_same (entries : List (Key × Value)) (key : Key) (value : Value) :
    (assign entries key value).lookup key = some value := by
  unfold assign
  split
  · next held =>
    induction entries with
    | nil => cases held
    | cons entry rest ih =>
      obtain ⟨stored, old⟩ := entry
      by_cases same : stored = key
      · simp [same]
      · have inside : key ∈ keysOf rest := by
          rcases List.mem_cons.mp held with hit | mem
          · exact absurd hit.symm same
          · exact mem
        simp only [List.map_cons, if_neg same, List.lookup_cons, beq_false_of_ne (Ne.symm same)]
        exact ih inside
  · next absent =>
    have missing : entries.lookup key = none := by
      rw [List.lookup_eq_none_iff]
      intro entry mem
      have different : key ≠ entry.1 := by
        rintro rfl
        exact absent (key_of_entry mem)
      simpa using different
    rw [List.lookup_append, missing]
    simp

theorem lookup_assign_other (entries : List (Key × Value)) (key other : Key) (value : Value)
    (different : other ≠ key) : (assign entries key value).lookup other = entries.lookup other := by
  unfold assign
  split
  · clear * - different
    induction entries with
    | nil => rfl
    | cons entry rest ih =>
      obtain ⟨stored, old⟩ := entry
      by_cases same : stored = key
      · simp only [List.map_cons, if_pos same, List.lookup_cons, beq_false_of_ne different,
          beq_false_of_ne (same ▸ different)]
        exact ih
      · simp only [List.map_cons, if_neg same, List.lookup_cons]
        rw [ih]
  · have single : [(key, value)].lookup other = none := by
      simp only [List.lookup_cons, beq_false_of_ne different, List.lookup_nil]
    rw [List.lookup_append, single, Option.or_none]

theorem lookup_of_entry (entries : List (Key × Value)) (distinct : (keysOf entries).Nodup) (entry : Key × Value)
    (member : entry ∈ entries) : entries.lookup entry.1 = some entry.2 := by
  induction entries with
  | nil => cases member
  | cons first rest ih =>
    obtain ⟨fresh, restDistinct⟩ := List.nodup_cons.mp distinct
    rcases List.mem_cons.mp member with rfl | later
    · rw [List.lookup_cons, beq_self_eq_true]
    · have apart : entry.1 ≠ first.1 := by
        intro same
        exact fresh (same ▸ key_of_entry later)
      rw [List.lookup_cons, beq_false_of_ne apart]
      exact ih restDistinct later

theorem entry_of_lookup (entries : List (Key × Value)) (key : Key) (value : Value)
    (found : entries.lookup key = some value) : (key, value) ∈ entries := by
  induction entries with
  | nil => cases found
  | cons first rest ih =>
    rw [List.lookup_cons] at found
    by_cases same : key = first.1
    · rw [same, beq_self_eq_true] at found
      rw [same, ← Option.some.inj found]
      exact List.mem_cons_self
    · rw [beq_false_of_ne same] at found
      exact List.mem_cons_of_mem first (ih found)

theorem key_iff_lookup (entries : List (Key × Value)) (key : Key) :
    key ∈ keysOf entries ↔ ∃ value, entries.lookup key = some value := by
  induction entries with
  | nil => simp [keysOf]
  | cons first rest ih =>
    rw [keysOf, List.map_cons, List.mem_cons, List.lookup_cons]
    by_cases same : key = first.1
    · simp [same]
    · rw [beq_false_of_ne same]
      simp only [same, false_or]
      exact ih

theorem no_key_no_value (entries : List (Key × Value)) (key : Key) (absent : key ∉ keysOf entries) :
    entries.lookup key = none := by
  cases found : entries.lookup key with
  | none => rfl
  | some value => exact absurd ((key_iff_lookup entries key).mpr ⟨value, found⟩) absent

theorem entries_ext (left right : List (Key × Value)) (distinct : (keysOf left).Nodup) (keys : keysOf left = keysOf right)
    (held : ∀ key, left.lookup key = right.lookup key) : left = right := by
  have zipped : ∀ entries : List (Key × Value), (keysOf entries).Nodup →
      entries.map some = (keysOf entries).map (fun key => (entries.lookup key).map (Prod.mk key)) := by
    intro entries once
    rw [keysOf, List.map_map]
    apply List.map_congr_left
    intro entry member
    rw [Function.comp_apply, lookup_of_entry entries once entry member]
    rfl
  have both : left.map some = right.map some := by
    rw [zipped left distinct, zipped right (keys ▸ distinct), ← keys]
    exact List.map_congr_left (fun key _ => by rw [held])
  exact List.map_injective_iff.mpr (Option.some_injective _) both

theorem assign_present_keys (entries : List (Key × Value)) (key : Key) (value : Value) (present : key ∈ keysOf entries) :
    keysOf (assign entries key value) = keysOf entries := by
  rw [assign_keys, if_pos present]

theorem lookup_assign (entries : List (Key × Value)) (key other : Key) (value : Value) :
    (assign entries key value).lookup other = if other = key then some value else entries.lookup other := by
  by_cases same : other = key
  · rw [if_pos same, same, lookup_assign_same]
  · rw [if_neg same, lookup_assign_other entries key other value same]

theorem lookup_assign_all (entries added : List (Key × Value)) (distinct : (keysOf added).Nodup) (key : Key) :
    (assignAll entries added).lookup key = (added.lookup key).or (entries.lookup key) := by
  induction added generalizing entries with
  | nil => rfl
  | cons first rest ih =>
    obtain ⟨fresh, restDistinct⟩ := List.nodup_cons.mp distinct
    have step : assignAll entries (first :: rest) = assignAll (assign entries first.1 first.2) rest := rfl
    rw [step, ih _ restDistinct, lookup_assign, List.lookup_cons]
    by_cases same : key = first.1
    · rw [if_pos same, same, no_key_no_value rest first.1 fresh, beq_self_eq_true]
      rfl
    · rw [if_neg same, beq_false_of_ne same]

theorem assign_all_present_keys (entries added : List (Key × Value)) (present : ∀ key ∈ keysOf added, key ∈ keysOf entries) :
    keysOf (assignAll entries added) = keysOf entries := by
  induction added generalizing entries with
  | nil => rfl
  | cons first rest ih =>
    have step : assignAll entries (first :: rest) = assignAll (assign entries first.1 first.2) rest := rfl
    have kept := assign_present_keys entries first.1 first.2 (present first.1 List.mem_cons_self)
    rw [step, ih _ (fun key member => kept ▸ present key (List.mem_cons_of_mem _ member)), kept]

theorem assign_all_keys_mem (entries added : List (Key × Value)) (key : Key) :
    key ∈ keysOf (assignAll entries added) ↔ key ∈ keysOf entries ∨ key ∈ keysOf added := by
  induction added generalizing entries with
  | nil => simp [assignAll, keysOf]
  | cons first rest ih =>
    have step : assignAll entries (first :: rest) = assignAll (assign entries first.1 first.2) rest := rfl
    have keys : keysOf (first :: rest) = first.1 :: keysOf rest := rfl
    rw [step, ih, assign_keys, keys, List.mem_cons]
    by_cases present : first.1 ∈ keysOf entries
    · rw [if_pos present]
      constructor
      · rintro (old | later)
        · exact Or.inl old
        · exact Or.inr (Or.inr later)
      · rintro (old | rfl | later)
        · exact Or.inl old
        · exact Or.inl present
        · exact Or.inr later
    · rw [if_neg present, List.mem_append, List.mem_singleton, or_assoc]

theorem assign_all_again (entries added : List (Key × Value)) (distinct : (keysOf entries).Nodup)
    (once : (keysOf added).Nodup) : assignAll (assignAll entries added) added = assignAll entries added := by
  apply entries_ext
  · exact assign_all_distinct _ _ (assign_all_distinct _ _ distinct)
  · exact assign_all_present_keys _ _ (fun key member => (assign_all_keys_mem _ _ key).mpr (Or.inr member))
  · intro key
    rw [lookup_assign_all _ _ once, lookup_assign_all _ _ once]
    cases added.lookup key <;> rfl

theorem assign_present (entries : List (Key × Value)) (key : Key) (value : Value) (present : key ∈ keysOf entries) :
    assign entries key value = entries.map (fun entry => if entry.1 = key then (key, value) else entry) := if_pos present

theorem assign_twice (entries : List (Key × Value)) (key : Key) (first second : Value) (present : key ∈ keysOf entries) :
    assign (assign entries key first) key second = assign entries key second := by
  have still : key ∈ keysOf (assign entries key first) := by rwa [assign_present_keys entries key first present]
  rw [assign_present _ key second still, assign_present _ key first present, assign_present _ key second present,
    List.map_map]
  apply List.map_congr_left
  intro entry _
  by_cases same : entry.1 = key <;> simp [same]

theorem assign_comm (entries : List (Key × Value)) (left right : Key) (leftValue rightValue : Value) (apart : left ≠ right)
    (leftIn : left ∈ keysOf entries) (rightIn : right ∈ keysOf entries) :
    assign (assign entries left leftValue) right rightValue = assign (assign entries right rightValue) left leftValue := by
  have leftStill : right ∈ keysOf (assign entries left leftValue) := by rwa [assign_present_keys entries left _ leftIn]
  have rightStill : left ∈ keysOf (assign entries right rightValue) := by rwa [assign_present_keys entries right _ rightIn]
  rw [assign_present _ right _ leftStill, assign_present _ left _ leftIn, assign_present _ left _ rightStill,
    assign_present _ right _ rightIn, List.map_map, List.map_map]
  apply List.map_congr_left
  intro entry _
  by_cases isLeft : entry.1 = left
  · simp [isLeft, apart]
  · by_cases isRight : entry.1 = right
    · simp [isRight, apart.symm]
    · simp [isLeft, isRight]

theorem sum_assign [BEq Key] [LawfulBEq Key] {Weight : Type} [AddCommMonoid Weight] (weigh : Value → Weight)
    (entries : List (Key × Value)) (distinct : (keysOf entries).Nodup) (key : Key) (value start : Value) (nothing : weigh start = 0) :
    ((assign entries key value).map (fun entry => weigh entry.2)).sum + weigh ((entries.lookup key).getD start) =
      (entries.map (fun entry => weigh entry.2)).sum + weigh value := by
  induction entries with
  | nil => simp [assign, keysOf, nothing]
  | cons entry rest ih =>
    obtain ⟨stored, old⟩ := entry
    obtain ⟨fresh, restDistinct⟩ := List.nodup_cons.mp distinct
    by_cases same : stored = key
    · have untouched : rest.map (fun held => if held.1 = key then (key, value) else held) = rest := by
        conv_rhs => rw [← List.map_id rest]
        apply List.map_congr_left
        intro held mem
        have apart : held.1 ≠ key := by
          intro hit
          have inside := key_of_entry mem
          rw [hit, ← same] at inside
          exact fresh inside
        simp [apart]
      have inside : key ∈ keysOf ((stored, old) :: rest) := by simp [keysOf, same]
      unfold assign
      rw [if_pos inside]
      simp only [List.map_cons, untouched, List.sum_cons, List.lookup_cons, same, beq_self_eq_true, if_true,
        Option.getD_some]
      rw [add_comm (weigh value), add_right_comm, add_comm (weigh old)]
    · have cons : assign ((stored, old) :: rest) key value = (stored, old) :: assign rest key value := by
        unfold assign
        by_cases inside : key ∈ keysOf rest
        · have both : key ∈ keysOf ((stored, old) :: rest) := List.mem_cons_of_mem stored inside
          rw [if_pos inside, if_pos both, List.map_cons, if_neg same]
        · have neither : key ∉ keysOf ((stored, old) :: rest) := by
            intro hit
            rcases List.mem_cons.mp hit with first | later
            · exact same first.symm
            · exact inside later
          rw [if_neg inside, if_neg neither, List.cons_append]
      rw [cons]
      simp only [List.map_cons, List.sum_cons, List.lookup_cons, beq_false_of_ne (Ne.symm same)]
      rw [add_assoc, ih restDistinct, add_assoc]

end Ubb.Library
