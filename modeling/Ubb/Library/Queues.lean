import Mathlib.Data.List.Sort
import Mathlib.Tactic

set_option autoImplicit false

-- Rows served oldest first, a few at a time: what is left of the queue after
-- its head is gone is the queue of what is left.
namespace Ubb.Library

section

variable {Row Key Name : Type} [LinearOrder Key] [DecidableEq Name] (key : Row → Key) (name : Row → Name)

def oldestFirst (rows : List Row) : List Row := rows.insertionSort (fun first second => key first ≤ key second)

def without (gone : List Name) (rows : List Row) : List Row := rows.filter (fun row => decide (name row ∉ gone))

theorem oldest_first_sorted (rows : List Row) : (oldestFirst key rows).Pairwise (fun first second => key first ≤ key second) :=
  haveI : Std.Total (fun first second : Row => key first ≤ key second) := ⟨fun _ _ => le_total _ _⟩
  haveI : IsTrans Row (fun first second => key first ≤ key second) := ⟨fun _ _ _ => le_trans⟩
  List.pairwise_insertionSort _ rows

theorem oldest_first_perm (rows : List Row) : (oldestFirst key rows).Perm rows := List.perm_insertionSort _ rows

theorem mem_oldest_first (rows : List Row) (row : Row) : row ∈ oldestFirst key rows ↔ row ∈ rows :=
  (oldest_first_perm key rows).mem_iff

theorem oldest_first_unique (rows sorted : List Row) (distinct : (rows.map key).Nodup) (perm : sorted.Perm rows)
    (ordered : sorted.Pairwise (fun first second => key first ≤ key second)) : oldestFirst key rows = sorted := by
  refine List.Perm.eq_of_pairwise ?_ (oldest_first_sorted key rows) ordered ((oldest_first_perm key rows).trans perm.symm)
  intro first second firstInside secondInside below above
  exact List.inj_on_of_nodup_map distinct ((mem_oldest_first key rows first).mp firstInside) (perm.mem_iff.mp secondInside)
    (le_antisymm below above)

theorem without_head (queue : List Row) (distinct : (queue.map name).Nodup) (count : Nat) :
    without name ((queue.take count).map name) queue = queue.drop count := by
  have split := List.take_append_drop count queue
  have apart : ∀ row ∈ queue.drop count, name row ∉ (queue.take count).map name := by
    intro row later taken
    rw [← split, List.map_append, List.nodup_append] at distinct
    exact distinct.2.2 (name row) taken (name row) (List.mem_map_of_mem later) rfl
  conv_lhs => rw [← split]
  rw [without, List.filter_append, List.filter_eq_nil_iff.mpr, List.nil_append, List.filter_eq_self.mpr]
  · intro row later
    rw [List.take_append_drop]
    exact decide_eq_true (apart row later)
  · intro row taken listed
    rw [List.take_append_drop] at listed
    exact of_decide_eq_true listed (List.mem_map_of_mem taken)

theorem without_nothing (rows : List Row) : without name [] rows = rows :=
  List.filter_eq_self.mpr (fun _ _ => decide_eq_true List.not_mem_nil)

theorem without_append (first second : List Name) (rows : List Row) :
    without name second (without name first rows) = without name (first ++ second) rows := by
  rw [without, without, without, List.filter_filter]
  apply List.filter_congr
  intro row _
  rw [← Bool.decide_and, decide_eq_decide, List.mem_append, not_or, and_comm]

theorem without_filter (gone : List Name) (keep : Row → Bool) (rows : List Row) :
    (without name gone rows).filter keep = without name gone (rows.filter keep) := by
  rw [without, without, List.filter_filter, List.filter_filter]
  apply List.filter_congr
  intro row _
  exact Bool.and_comm _ _

theorem oldest_first_without_head (rows : List Row) (keys : (rows.map key).Nodup) (names : (rows.map name).Nodup) (count : Nat) :
    oldestFirst key (without name (((oldestFirst key rows).take count).map name) rows) = (oldestFirst key rows).drop count := by
  have perm := oldest_first_perm key rows
  have queueNames : ((oldestFirst key rows).map name).Nodup := (perm.map name).nodup_iff.mpr names
  rw [← without_head name (oldestFirst key rows) queueNames count]
  apply oldest_first_unique
  · exact keys.sublist (List.filter_sublist.map key)
  · exact perm.filter _
  · exact (oldest_first_sorted key rows).sublist List.filter_sublist

end

end Ubb.Library
