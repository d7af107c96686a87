import Mathlib.Data.Finset.Card
import Mathlib.Data.List.Nodup
import Mathlib.Order.Defs.LinearOrder
import Mathlib.Tactic
import Ubb.Library.Runs

set_option autoImplicit false

-- Reading a changing table page by page, newest first, each page starting
-- below the last key the page before it kept.
namespace Ubb.Library.Keyset

open Ubb.Library

variable {Row Key : Type} [LinearOrder Key] (key : Row → Key)

def Older (below : Option Key) (row : Row) : Prop := ∀ bound, below = some bound → key row < bound

instance (below : Option Key) (row : Row) : Decidable (Older key below row) :=
  match below with
  | none => isTrue (fun _ same => nomatch same)
  | some bound => decidable_of_iff (key row < bound) ⟨fun less _ same => Option.some.inj same ▸ less, fun all => all bound rfl⟩

def newestFirst (rows : List Row) : List Row := rows.mergeSort (fun first second => decide (key second ≤ key first))

-- One row more than the page holds is fetched, to learn whether there is more.
def pageOf (below : Option Key) (limit : Nat) (rows : List Row) : List Row × Option Key :=
  let fetched := (newestFirst key (rows.filter (fun row => Older key below row))).take (limit + 1)
  let kept := fetched.take limit
  (kept, if limit < fetched.length then kept.getLast?.map key else none)

def Descending (rows : List Row) : Prop := rows.Pairwise (fun first second => key second < key first)

theorem newest_first_descending (rows : List Row) (distinct : (rows.map key).Nodup) : Descending key (newestFirst key rows) := by
  have ordered : (newestFirst key rows).Pairwise (fun first second => decide (key second ≤ key first) = true) := by
    apply List.pairwise_mergeSort
    · intro first second third left right
      simp only [decide_eq_true_eq] at left right ⊢
      exact right.trans left
    · intro first second
      simpa using le_total (key second) (key first)
  have apart : (newestFirst key rows).Pairwise (fun first second => key first ≠ key second) := by
    rw [← List.pairwise_map]
    exact ((List.mergeSort_perm rows _).map key).nodup_iff.mpr distinct
  refine (ordered.and apart).imp ?_
  rintro first second ⟨below, different⟩
  exact lt_of_le_of_ne (by simpa using below) (Ne.symm different)

theorem mem_newest_first (rows : List Row) (row : Row) : row ∈ newestFirst key rows ↔ row ∈ rows := List.mem_mergeSort

structure PageSpec (below : Option Key) (rows kept : List Row) (next : Option Key) : Prop where
  descending : Descending key kept
  read : ∀ row ∈ kept, row ∈ rows ∧ Older key below row
  last : next = none → ∀ row ∈ rows, Older key below row → row ∈ kept
  further : ∀ bound, next = some bound → (∃ row ∈ kept, key row = bound) ∧ (∀ row ∈ kept, bound ≤ key row) ∧
    ∀ row ∈ rows, Older key below row → bound ≤ key row → row ∈ kept

theorem prefix_holds_newer (rows : List Row) (descending : Descending key rows) (limit : Nat) (bound : Row)
    (lastKept : (rows.take limit).getLast? = some bound) (row : Row) (member : row ∈ rows) (newer : key bound ≤ key row) :
    row ∈ rows.take limit := by
  rw [← List.take_append_drop limit rows, List.mem_append] at member
  rcases member with kept | dropped
  · exact kept
  · have split := descending
    rw [Descending, ← List.take_append_drop limit rows, List.pairwise_append] at split
    have older := split.2.2 bound (List.mem_of_getLast? lastKept) row dropped
    exact absurd newer (not_le.mpr older)

theorem last_is_oldest (rows : List Row) (descending : Descending key rows) (bound : Row)
    (lastRow : rows.getLast? = some bound) (row : Row) (member : row ∈ rows) : key bound ≤ key row := by
  obtain ⟨front, rfl⟩ := List.getLast?_eq_some_iff.mp lastRow
  rcases List.mem_append.mp member with before | same
  · rw [Descending, List.pairwise_append] at descending
    exact (descending.2.2 row before bound (by simp)).le
  · rw [List.mem_singleton.mp same]

theorem page_spec (below : Option Key) (limit : Nat) (positive : 0 < limit) (rows : List Row)
    (distinct : (rows.map key).Nodup) :
    PageSpec key below rows (pageOf key below limit rows).1 (pageOf key below limit rows).2 := by
  have olderDistinct : ((rows.filter (fun row => Older key below row)).map key).Nodup :=
    distinct.sublist (List.filter_sublist.map key)
  have descending := newest_first_descending key (rows.filter (fun row => Older key below row)) olderDistinct
  have member : ∀ row, row ∈ newestFirst key (rows.filter (fun row => Older key below row)) ↔
      row ∈ rows ∧ Older key below row := by
    intro row
    rw [mem_newest_first, List.mem_filter, decide_eq_true_eq]
  simp only [pageOf, List.take_take, Nat.min_eq_left (Nat.le_succ limit), List.length_take]
  generalize newestFirst key (rows.filter (fun row => Older key below row)) = rest at descending member
  refine ⟨descending.sublist (List.take_sublist limit rest), ?_, ?_, ?_⟩
  · intro row kept
    exact (member row).mp (List.mem_of_mem_take kept)
  · intro finished row stored older
    have whole : rest.length ≤ limit := by
      by_contra more
      rw [if_pos (by omega), Option.map_eq_none_iff, List.getLast?_eq_none_iff, List.take_eq_nil_iff] at finished
      rcases finished with zero | empty
      · omega
      · rw [empty] at more
        exact more (Nat.zero_le limit)
    rw [List.take_of_length_le whole]
    exact (member row).mpr ⟨stored, older⟩
  · intro bound more
    split at more
    · obtain ⟨lastRow, found, rfl⟩ := Option.map_eq_some_iff.mp more
      have sorted : Descending key (rest.take limit) := descending.sublist (List.take_sublist limit rest)
      refine ⟨⟨lastRow, List.mem_of_getLast? found, rfl⟩, ?_, ?_⟩
      · exact fun row kept => last_is_oldest key _ sorted lastRow found row kept
      · exact fun row stored older newer =>
          prefix_holds_newer key rest descending limit lastRow found row ((member row).mpr ⟨stored, older⟩) newer
    · cases more

structure Walk (Row Key : Type) where
  below : Option Key
  returned : List Row
  ended : Bool
  table : List Row

structure Visit (Row : Type) where
  limit : Nat
  table : List Row

def newWalk : Walk Row Key := ⟨none, [], false, []⟩

def visit (walk : Walk Row Key) (visited : Visit Row) : Walk Row Key :=
  if walk.ended then walk
  else
    let page := pageOf key walk.below visited.limit visited.table
    ⟨page.2, walk.returned ++ page.1, page.2.isNone, visited.table⟩

structure Readable (visited : Visit Row) : Prop where
  positive : 0 < visited.limit
  distinct : (visited.table.map key).Nodup

structure Going (walk : Walk Row Key) : Prop where
  descending : Descending key walk.returned
  newer : walk.ended = false → ∀ row ∈ walk.returned, ∃ bound, walk.below = some bound ∧ bound ≤ key row

theorem visit_going (walk : Walk Row Key) (going : Going key walk) (visited : Visit Row) (readable : Readable key visited) :
    Going key (visit key walk visited) := by
  unfold visit
  split
  · exact going
  · rename_i live
    have spec := page_spec key walk.below visited.limit readable.positive visited.table readable.distinct
    have newer := going.newer (Bool.eq_false_of_not_eq_true live)
    refine ⟨?_, ?_⟩
    · show Descending key (walk.returned ++ _)
      rw [Descending, List.pairwise_append]
      refine ⟨going.descending, spec.descending, ?_⟩
      intro row returned later kept
      obtain ⟨bound, stands, above⟩ := newer row returned
      exact ((spec.read later kept).2 bound stands).trans_le above
    · intro goesOn row member
      obtain ⟨bound, further⟩ : ∃ bound, (pageOf key walk.below visited.limit visited.table).2 = some bound :=
        Option.isSome_iff_exists.mp (by simpa using goesOn)
      obtain ⟨⟨last, lastKept, lastKey⟩, least, _⟩ := spec.further bound further
      refine ⟨bound, further, ?_⟩
      rcases List.mem_append.mp member with returned | kept
      · obtain ⟨before, stands, above⟩ := newer row returned
        have lower := (spec.read last lastKept).2 before stands
        exact (lastKey ▸ lower).le.trans above
      · exact least row kept

def Returned (wanted : Key) (walk : Walk Row Key) : Prop :=
  (walk.ended = true ∨ ∃ bound, walk.below = some bound ∧ bound ≤ wanted) → ∃ row ∈ walk.returned, key row = wanted

theorem visit_returned (wanted : Key) (walk : Walk Row Key) (before : Returned key wanted walk) (visited : Visit Row)
    (readable : Readable key visited) (present : ∃ row ∈ visited.table, key row = wanted) :
    Returned key wanted (visit key walk visited) := by
  unfold visit
  split
  · exact before
  · rename_i live
    have spec := page_spec key walk.below visited.limit readable.positive visited.table readable.distinct
    obtain ⟨row, stored, named⟩ := present
    intro passed
    by_cases older : Older key walk.below row
    · refine ⟨row, List.mem_append_right _ ?_, named⟩
      rcases passed with ended | ⟨bound, stands, above⟩
      · exact spec.last (Option.isNone_iff_eq_none.mp ended) row stored older
      · exact (spec.further bound stands).2.2 row stored older (named ▸ above)
    · have behind : ∃ bound, walk.below = some bound ∧ bound ≤ wanted := by
        unfold Older at older
        push Not at older
        obtain ⟨bound, stands, above⟩ := older
        exact ⟨bound, stands, named ▸ above⟩
      obtain ⟨found, returned, same⟩ := before (.inr behind)
      exact ⟨found, List.mem_append_left _ returned, same⟩

def NoneOlderInserted (walk : Walk Row Key) (visited : Visit Row) : Prop :=
  ∀ bound, walk.below = some bound → ∀ row ∈ visited.table, key row < bound → key row ∈ walk.table.map key

def ahead (walk : Walk Row Key) : Finset Key :=
  (walk.table.map key).toFinset.filter (fun stored => ∀ bound, walk.below = some bound → stored < bound)

theorem visit_cursor (walk : Walk Row Key) (visited : Visit Row) (readable : Readable key visited)
    (live : walk.ended = false) (goesOn : (visit key walk visited).ended = false) :
    ∃ row ∈ visited.table, Older key walk.below row ∧ (visit key walk visited).below = some (key row) ∧
      (visit key walk visited).table = visited.table := by
  have spec := page_spec key walk.below visited.limit readable.positive visited.table readable.distinct
  simp only [visit, live, Bool.false_eq_true, if_false] at goesOn ⊢
  obtain ⟨bound, further⟩ := Option.isSome_iff_exists.mp (show (pageOf key walk.below visited.limit visited.table).2.isSome = true by
    simpa using goesOn)
  obtain ⟨⟨row, kept, named⟩, _, _⟩ := spec.further bound further
  obtain ⟨stored, older⟩ := spec.read row kept
  exact ⟨row, stored, older, by rw [further, named], trivial⟩

theorem mem_ahead (walk : Walk Row Key) (stored : Key) :
    stored ∈ ahead key walk ↔ stored ∈ walk.table.map key ∧ ∀ bound, walk.below = some bound → stored < bound := by
  rw [ahead, Finset.mem_filter, List.mem_toFinset]

theorem visit_ahead (walk : Walk Row Key) (bound : Key) (stands : walk.below = some bound) (live : walk.ended = false)
    (visited : Visit Row) (readable : Readable key visited) (settled : NoneOlderInserted key walk visited)
    (goesOn : (visit key walk visited).ended = false) : (ahead key (visit key walk visited)).card < (ahead key walk).card := by
  obtain ⟨row, stored, older, cursor, table⟩ := visit_cursor key walk visited readable live goesOn
  have lower := older bound stands
  apply Finset.card_lt_card
  rw [Finset.ssubset_iff_of_subset]
  · refine ⟨key row, ?_, ?_⟩
    · rw [mem_ahead]
      refine ⟨settled bound stands row stored lower, ?_⟩
      intro other same
      cases stands.symm.trans same
      exact lower
    · rw [mem_ahead]
      exact fun within => lt_irrefl _ (within.2 (key row) cursor)
  · intro later within
    rw [mem_ahead, table] at within
    have below := within.2 (key row) cursor
    obtain ⟨other, otherStored, rfl⟩ := List.mem_map.mp within.1
    rw [mem_ahead]
    refine ⟨settled bound stands other otherStored (below.trans lower), ?_⟩
    intro same stood
    cases stands.symm.trans stood
    exact below.trans lower

theorem ended_stays (walk : Walk Row Key) (ended : walk.ended = true) (visits : List (Visit Row)) :
    (run (visit key) walk visits).ended = true := by
  induction visits generalizing walk with
  | nil => exact ended
  | cons visited rest ih =>
    rw [run_cons]
    apply ih
    rw [visit, if_pos ended]
    exact ended

theorem walk_shrinks (walk : Walk Row Key) (live : walk.ended = false) (bound : Key) (stands : walk.below = some bound)
    (visits : List (Visit Row)) (readable : ∀ visited ∈ visits, Readable key visited)
    (settled : Along (visit key) (NoneOlderInserted key) walk visits) :
    (run (visit key) walk visits).ended = true ∨
      visits.length + (ahead key (run (visit key) walk visits)).card ≤ (ahead key walk).card := by
  induction visits generalizing walk bound with
  | nil => exact .inr (by simp)
  | cons visited rest ih =>
    rw [run_cons]
    have first := readable visited List.mem_cons_self
    cases goesOn : (visit key walk visited).ended with
    | true => exact .inl (ended_stays key _ goesOn rest)
    | false =>
      have shrunk := visit_ahead key walk bound stands live visited first settled.1 goesOn
      obtain ⟨row, _, _, cursor, _⟩ := visit_cursor key walk visited first live goesOn
      rcases ih (visit key walk visited) goesOn (key row) cursor
        (fun later member => readable later (List.mem_cons_of_mem visited member)) settled.2 with ended | less
      · exact .inl ended
      · exact .inr (by rw [List.length_cons]; omega)

theorem walk_ends (first : Visit Row) (visits : List (Visit Row))
    (readable : ∀ visited ∈ first :: visits, Readable key visited)
    (settled : Along (visit key) (NoneOlderInserted key) newWalk (first :: visits)) (enough : first.table.length ≤ visits.length) :
    (run (visit key) newWalk (first :: visits)).ended = true := by
  rw [run_cons]
  have firstReadable := readable first List.mem_cons_self
  cases goesOn : (visit key newWalk first).ended with
  | true => exact ended_stays key _ goesOn visits
  | false =>
    obtain ⟨row, stored, _, cursor, table⟩ := visit_cursor key newWalk first firstReadable rfl goesOn
    rcases walk_shrinks key (visit key newWalk first) goesOn (key row) cursor visits
      (fun later member => readable later (List.mem_cons_of_mem first member)) settled.2 with ended | less
    · exact ended
    · exfalso
      have proper : (ahead key (visit key newWalk first)).card < (first.table.map key).toFinset.card := by
        apply Finset.card_lt_card
        rw [Finset.ssubset_iff_of_subset]
        · refine ⟨key row, by rw [List.mem_toFinset]; exact List.mem_map_of_mem stored, ?_⟩
          rw [mem_ahead]
          exact fun within => lt_irrefl _ (within.2 (key row) cursor)
        · intro later within
          rw [mem_ahead, table] at within
          exact List.mem_toFinset.mpr within.1
      have atMost := List.toFinset_card_le (first.table.map key)
      rw [List.length_map] at atMost
      omega

theorem walk_going (visits : List (Visit Row)) (readable : ∀ visited ∈ visits, Readable key visited) :
    Going key (run (visit key) newWalk visits) := by
  apply run_invariant (visit key) (Going key) (Readable key)
  · intro walk visited going fit
    exact visit_going key walk going visited fit
  · exact ⟨List.Pairwise.nil, fun _ _ member => nomatch member⟩
  · exact readable

theorem walk_returns (wanted : Key) (visits : List (Visit Row)) (readable : ∀ visited ∈ visits, Readable key visited)
    (present : ∀ visited ∈ visits, ∃ row ∈ visited.table, key row = wanted)
    (ended : (run (visit key) newWalk visits).ended = true) :
    ∃ row ∈ (run (visit key) newWalk visits).returned, key row = wanted := by
  have returned : Returned key wanted (run (visit key) newWalk visits) := by
    apply run_invariant (visit key) (Returned key wanted)
      (fun visited => Readable key visited ∧ ∃ row ∈ visited.table, key row = wanted)
    · intro walk visited before both
      exact visit_returned key wanted walk before visited both.1 both.2
    · rintro (started | ⟨bound, stands, _⟩)
      · cases started
      · cases stands
    · exact fun visited member => ⟨readable visited member, present visited member⟩
  exact returned (.inl ended)

theorem walk_read (visits : List (Visit Row)) (readable : ∀ visited ∈ visits, Readable key visited) (row : Row)
    (returned : row ∈ (run (visit key) newWalk visits).returned) : ∃ visited ∈ visits, row ∈ visited.table := by
  have read : ∀ row ∈ (run (visit key) newWalk visits).returned, ∃ visited ∈ visits, row ∈ visited.table := by
    apply run_invariant (visit key) (fun walk => ∀ row ∈ walk.returned, ∃ visited ∈ visits, row ∈ visited.table)
      (fun visited => Readable key visited ∧ visited ∈ visits)
    · intro walk visited before admitted row member
      unfold visit at member
      split at member
      · exact before row member
      · rcases List.mem_append.mp member with earlier | kept
        · exact before row earlier
        · have spec := page_spec key walk.below visited.limit admitted.1.positive visited.table admitted.1.distinct
          exact ⟨visited, admitted.2, (spec.read row kept).1⟩
    · exact fun _ member => nomatch member
    · exact fun visited member => ⟨readable visited member, member⟩
  exact read row returned

end Ubb.Library.Keyset
