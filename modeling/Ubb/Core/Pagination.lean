import Mathlib.Data.Prod.Lex
import Ubb.Core.Cursor
import Ubb.Library.Keyset

set_option autoImplicit false

-- The one entity-list idiom, and a client that follows its cursors.
namespace Ubb.Pagination

open Ubb.Library

structure Timestamp where
  value : Aware
  utc : DateTime
  representable : astimezoneUtc value = some utc

structure Page (Row : Type) where
  rows : List Row
  nextCursor : Option (List Char)
  hasMore : Bool

-- A bad cursor is a 400; the others are no answer of the endpoint.
inductive PageError where
  | invalidCursor (error : CursorError)
  | uncaught (raised : Escape)
  | overflow
deriving DecidableEq, Repr

def maxLimit : Int := 100

def clamp (limit : Int) : Nat := (min (max limit 1) maxLimit).toNat

section

variable (runtime : Runtime) {Row : Type} (timeField : Row → Timestamp) (idField : Row → UUID)

def instantOf (row : Row) : Int := (timeField row).value.instant

def keyOf (row : Row) : Int ×ₗ Nat := toLex (instantOf timeField row, (idField row).int)

def beforeCursor (t : Aware) (recordId : UUID) (row : Row) : Bool :=
  decide (instantOf timeField row < t.instant) ||
    (decide (instantOf timeField row = t.instant) && decide ((idField row).int < recordId.int))

def applyCursorFilter (rows : List Row) (cursor : List Char) : Except CursorError (List Row) :=
  if cursor = [] then .ok rows
  else (decodeCursor runtime cursor).map (fun read => rows.filter (beforeCursor timeField idField read.1 read.2))

def refuse : CursorError → PageError
  | .uncaught raised => .uncaught raised
  | error => .invalidCursor error

def filtered (rows : List Row) : Option (List Char) → Except PageError (List Row)
  | none => .ok rows
  | some cursor => (applyCursorFilter runtime timeField idField rows cursor).mapError refuse

def nextCursor (rows : List Row) : Except PageError (Option (List Char)) :=
  match rows.getLast? with
  | none => .ok none
  | some last =>
      match encodeCursor (timeField last).value (idField last) with
      | some cursor => .ok (some cursor)
      | none => .error .overflow

def slice (limit : Nat) (found : List Row) : Except PageError (Page Row) :=
  let fetched := (Keyset.newestFirst (keyOf timeField idField) found).take (limit + 1)
  let rows := fetched.take limit
  if limit < fetched.length then (nextCursor timeField idField rows).map (fun next => ⟨rows, next, true⟩)
  else .ok ⟨rows, none, false⟩

def paginate (table : List Row) (cursor : Option (List Char)) (limit : Int) : Except PageError (Page Row) :=
  (filtered runtime timeField idField table cursor).bind (slice timeField idField (clamp limit))

structure Visit (Row : Type) where
  limit : Int
  table : List Row

structure Reading (Row : Type) where
  cursor : Option (List Char)
  returned : List Row
  ended : Bool
  failed : Bool
  table : List Row

def newReading : Reading Row := ⟨none, [], false, false, []⟩

def readPage (reading : Reading Row) (visit : Visit Row) : Reading Row :=
  if reading.ended ∨ reading.failed then reading
  else
    match paginate runtime timeField idField visit.table reading.cursor visit.limit with
    | .ok page => ⟨page.nextCursor, reading.returned ++ page.rows, page.nextCursor.isNone, false, visit.table⟩
    | .error _ => { reading with failed := true }

-- The primary key, and columns no update touches.
def KeysFixed (rows : List Row) : Prop :=
  ∀ first ∈ rows, ∀ second ∈ rows, idField first = idField second → instantOf timeField first = instantOf timeField second

def UniqueIds (visit : Visit Row) : Prop := (visit.table.map idField).Nodup

def NoneOlderInserted (reading : Reading Row) (visit : Visit Row) : Prop :=
  ∀ cursor t recordId, reading.cursor = some cursor → decodeCursor runtime cursor = .ok (t, recordId) → ∀ row ∈ visit.table,
    beforeCursor timeField idField t recordId row = true → idField row ∈ reading.table.map idField

theorem clamp_positive (limit : Int) : 0 < clamp limit := by
  unfold clamp maxLimit
  omega

def Denotes (cursor : List Char) (key : Int ×ₗ Nat) : Prop :=
  cursor ≠ [] ∧ ∃ t recordId, decodeCursor runtime cursor = .ok (t, recordId) ∧ key = toLex (t.instant, recordId.int)

def CursorOf : Option (List Char) → Option (Int ×ₗ Nat) → Prop
  | none, none => True
  | some cursor, some key => Denotes runtime cursor key
  | _, _ => False

theorem before_cursor_iff (t : Aware) (recordId : UUID) (row : Row) :
    beforeCursor timeField idField t recordId row = true ↔ keyOf timeField idField row < toLex (t.instant, recordId.int) := by
  simp [beforeCursor, keyOf, Prod.Lex.toLex_lt_toLex]

theorem filtered_older (rows : List Row) (cursor : Option (List Char)) (below : Option (Int ×ₗ Nat))
    (stands : CursorOf runtime cursor below) :
    filtered runtime timeField idField rows cursor =
      .ok (rows.filter (fun row => Keyset.Older (keyOf timeField idField) below row)) := by
  cases cursor with
  | none =>
    cases below with
    | some key => exact stands.elim
    | none => simp [filtered, Keyset.Older]
  | some cursor =>
    cases below with
    | none => exact stands.elim
    | some key =>
      obtain ⟨nonempty, t, recordId, decoded, rfl⟩ := stands
      rw [filtered, applyCursorFilter, if_neg nonempty, decoded]
      show Except.ok _ = Except.ok _
      congr 1
      apply List.filter_congr
      intro row _
      rw [Bool.eq_iff_iff, before_cursor_iff, decide_eq_true_iff]
      simp [Keyset.Older]

theorem next_denotes (last : Row) : ∃ cursor, encodeCursor (timeField last).value (idField last) = some cursor ∧
    Denotes runtime cursor (keyOf timeField idField last) := by
  obtain ⟨cursor, encoded, nonempty, decoded, same⟩ :=
    cursor_read_back runtime (timeField last).value (idField last) (timeField last).utc (timeField last).representable
  exact ⟨cursor, encoded, nonempty, _, _, decoded, by rw [same]; rfl⟩

theorem paginate_page (table : List Row) (cursor : Option (List Char)) (limit : Int) (below : Option (Int ×ₗ Nat))
    (stands : CursorOf runtime cursor below) :
    ∃ next, paginate runtime timeField idField table cursor limit =
      .ok ⟨(Keyset.pageOf (keyOf timeField idField) below (clamp limit) table).1, next, next.isSome⟩ ∧
        CursorOf runtime next (Keyset.pageOf (keyOf timeField idField) below (clamp limit) table).2 := by
  have positive := clamp_positive limit
  rw [paginate, filtered_older runtime timeField idField table cursor below stands]
  simp only [Except.bind, slice, Keyset.pageOf]
  generalize (Keyset.newestFirst (keyOf timeField idField) _).take (clamp limit + 1) = fetched
  by_cases more : clamp limit < fetched.length
  · have kept : fetched.take (clamp limit) ≠ [] := by
      apply List.ne_nil_of_length_pos
      rw [List.length_take]
      omega
    have lastKept : (fetched.take (clamp limit)).getLast? = some ((fetched.take (clamp limit)).getLast kept) :=
      List.getLast?_eq_some_getLast kept
    obtain ⟨next, encoded, denotes⟩ := next_denotes runtime timeField idField ((fetched.take (clamp limit)).getLast kept)
    refine ⟨some next, ?_, ?_⟩
    · rw [if_pos more, nextCursor, lastKept]
      simp only [encoded]
      rfl
    · rw [if_pos more, lastKept]
      exact denotes
  · refine ⟨none, ?_, ?_⟩
    · rw [if_neg more]
      rfl
    · rw [if_neg more]
      trivial

theorem cursor_of_is_none (cursor : Option (List Char)) (key : Option (Int ×ₗ Nat)) (stands : CursorOf runtime cursor key) :
    cursor.isNone = key.isNone := by
  cases cursor <;> cases key
  · rfl
  · exact stands.elim
  · exact stands.elim
  · rfl

theorem key_id (first second : Row) (same : keyOf timeField idField first = keyOf timeField idField second) :
    idField first = idField second := by
  have ids : (idField first).int = (idField second).int := congrArg (fun key => (ofLex key).2) same
  cases firstId : idField first
  cases secondId : idField second
  rw [firstId, secondId] at ids
  simpa using ids

theorem key_of_id (rows : List Row) (fixed : KeysFixed timeField idField rows) (first second : Row) (firstMember : first ∈ rows)
    (secondMember : second ∈ rows) (same : idField first = idField second) :
    keyOf timeField idField first = keyOf timeField idField second := by
  unfold keyOf
  rw [fixed first firstMember second secondMember same, same]

def abstractVisit (visit : Visit Row) : Keyset.Visit Row := ⟨clamp visit.limit, visit.table⟩

theorem visit_readable (visit : Visit Row) (unique : UniqueIds idField visit) :
    Keyset.Readable (keyOf timeField idField) (abstractVisit visit) := by
  refine ⟨clamp_positive visit.limit, ?_⟩
  show (visit.table.map (keyOf timeField idField)).Nodup
  apply List.Nodup.of_map (fun key => (ofLex key).2)
  rw [List.map_map]
  have ints : (visit.table.map idField).map UUID.int = visit.table.map ((fun key => (ofLex key).2) ∘ keyOf timeField idField) := by
    rw [List.map_map]
    rfl
  rw [← ints]
  apply List.Nodup.map _ unique
  intro first second same
  cases first
  cases second
  simpa using same

structure Follows (reading : Reading Row) (walk : Keyset.Walk Row (Int ×ₗ Nat)) : Prop where
  cursor : CursorOf runtime reading.cursor walk.below
  returned : reading.returned = walk.returned
  ended : reading.ended = walk.ended
  going : reading.failed = false
  table : reading.table = walk.table

theorem read_follows (reading : Reading Row) (walk : Keyset.Walk Row (Int ×ₗ Nat)) (follows : Follows runtime reading walk)
    (visit : Visit Row) :
    Follows runtime (readPage runtime timeField idField reading visit) (Keyset.visit (keyOf timeField idField) walk (abstractVisit visit)) := by
  unfold readPage Keyset.visit
  rw [follows.going, ← follows.ended]
  cases ended : reading.ended with
  | true => simpa using follows
  | false =>
    obtain ⟨next, answered, stands⟩ := paginate_page runtime timeField idField visit.table reading.cursor visit.limit walk.below follows.cursor
    simp only [answered, Bool.false_eq_true, or_self, if_false]
    refine ⟨stands, ?_, ?_, rfl, rfl⟩
    · rw [follows.returned]
      rfl
    · exact cursor_of_is_none runtime next _ stands

theorem run_follows (visits : List (Visit Row)) (reading : Reading Row) (walk : Keyset.Walk Row (Int ×ₗ Nat))
    (follows : Follows runtime reading walk) :
    Follows runtime (run (readPage runtime timeField idField) reading visits)
      (run (Keyset.visit (keyOf timeField idField)) walk (visits.map abstractVisit)) := by
  induction visits generalizing reading walk with
  | nil => exact follows
  | cons visit rest ih =>
    rw [List.map_cons, run_cons, run_cons]
    exact ih _ _ (read_follows runtime timeField idField reading walk follows visit)

theorem new_follows : Follows runtime (newReading : Reading Row) Keyset.newWalk := ⟨trivial, rfl, rfl, rfl, rfl⟩

theorem read_table (reading : Reading Row) (visit : Visit Row) :
    readPage runtime timeField idField reading visit = reading ∨ readPage runtime timeField idField reading visit = { reading with failed := true } ∨
      (readPage runtime timeField idField reading visit).table = visit.table := by
  unfold readPage
  split
  · exact .inl rfl
  · split
    · exact .inr (.inr rfl)
    · exact .inr (.inl rfl)

theorem settled_follows (rows : List Row) (fixed : KeysFixed timeField idField rows) (visits : List (Visit Row))
    (reading : Reading Row) (walk : Keyset.Walk Row (Int ×ₗ Nat)) (follows : Follows runtime reading walk)
    (known : ∀ row ∈ reading.table, row ∈ rows) (read : ∀ visit ∈ visits, ∀ row ∈ visit.table, row ∈ rows)
    (settled : Along (readPage runtime timeField idField) (NoneOlderInserted runtime timeField idField) reading visits) :
    Along (Keyset.visit (keyOf timeField idField)) (Keyset.NoneOlderInserted (keyOf timeField idField)) walk
      (visits.map abstractVisit) := by
  induction visits generalizing reading walk with
  | nil => trivial
  | cons visit rest ih =>
    obtain ⟨here, later⟩ := settled
    have inside := read visit List.mem_cons_self
    refine ⟨?_, ?_⟩
    · intro bound stands row member older
      have cursor := follows.cursor
      rw [stands] at cursor
      cases held : reading.cursor with
      | none =>
        rw [held] at cursor
        exact cursor.elim
      | some text =>
        rw [held] at cursor
        obtain ⟨_, t, recordId, decoded, rfl⟩ := cursor
        have before := (before_cursor_iff timeField idField t recordId row).mpr older
        obtain ⟨stored, storedMember, same⟩ := List.mem_map.mp (here text t recordId held decoded row member before)
        rw [← follows.table, ← key_of_id timeField idField rows fixed stored row (known stored storedMember) (inside row member) same]
        exact List.mem_map_of_mem storedMember
    · apply ih _ _ (read_follows runtime timeField idField reading walk follows visit) _
        (fun next member => read next (List.mem_cons_of_mem visit member)) later
      intro row member
      rcases read_table runtime timeField idField reading visit with same | same | same
      · exact known row (same ▸ member)
      · rw [same] at member
        exact known row member
      · exact inside row (same ▸ member)

theorem same_table_settled (limits : List Int) (table : List Row) (reading : Reading Row)
    (start : reading.cursor = none ∨ reading.table = table) :
    Along (readPage runtime timeField idField) (NoneOlderInserted runtime timeField idField) reading
      (limits.map (fun limit => ⟨limit, table⟩)) := by
  induction limits generalizing reading with
  | nil => trivial
  | cons limit rest ih =>
    refine ⟨?_, ?_⟩
    · intro cursor t recordId held _ row member _
      rcases start with absent | same
      · rw [absent] at held
        cases held
      · rw [same]
        exact List.mem_map_of_mem member
    · apply ih
      rcases read_table runtime timeField idField reading ⟨limit, table⟩ with same | same | same
      · rw [same]
        exact start
      · rw [same]
        exact start
      · exact .inr same

theorem keyset_pagination (visits : List (Visit Row)) (unique : ∀ visit ∈ visits, UniqueIds idField visit)
    (fixed : KeysFixed timeField idField (visits.flatMap Visit.table)) :
    let reading := run (readPage runtime timeField idField) newReading visits
    reading.failed = false ∧
      reading.returned.Pairwise (fun first second => keyOf timeField idField second < keyOf timeField idField first) ∧
      (reading.returned.map idField).Nodup ∧
      (reading.ended = true → ∀ id, (∀ visit ∈ visits, id ∈ visit.table.map idField) → (reading.returned.map idField).count id = 1) ∧
      (∀ first later, visits = first :: later →
        Along (readPage runtime timeField idField) (NoneOlderInserted runtime timeField idField) newReading visits →
          first.table.length ≤ later.length → reading.ended = true) ∧
      ∀ t id, (astimezoneUtc t).isSome → ∃ cursor, encodeCursor t id = some cursor ∧
        ∃ read, decodeCursor runtime cursor = .ok (read, id) ∧ read.instant = t.instant := by
  intro reading
  have follows : Follows runtime reading _ := run_follows runtime timeField idField visits newReading Keyset.newWalk (new_follows runtime)
  have readable : ∀ visited ∈ visits.map abstractVisit, Keyset.Readable (keyOf timeField idField) visited := by
    intro visited member
    obtain ⟨visit, listed, rfl⟩ := List.mem_map.mp member
    exact visit_readable timeField idField visit (unique visit listed)
  have going := Keyset.walk_going (keyOf timeField idField) (visits.map abstractVisit) readable
  have inside : ∀ visit ∈ visits, ∀ row ∈ visit.table, row ∈ visits.flatMap Visit.table :=
    fun visit listed row member => List.mem_flatMap.mpr ⟨visit, listed, member⟩
  have stored : ∀ row ∈ reading.returned, row ∈ visits.flatMap Visit.table := by
    intro row member
    rw [follows.returned] at member
    obtain ⟨visited, listed, read⟩ := Keyset.walk_read (keyOf timeField idField) (visits.map abstractVisit) readable row member
    obtain ⟨visit, visitListed, rfl⟩ := List.mem_map.mp listed
    exact inside visit visitListed row read
  have descending : reading.returned.Pairwise
      (fun first second => keyOf timeField idField second < keyOf timeField idField first) := by
    rw [follows.returned]
    exact going.descending
  have once : (reading.returned.map idField).Nodup := by
    rw [List.Nodup, List.pairwise_map]
    refine descending.imp_of_mem ?_
    intro first second firstMember secondMember older same
    have equal := key_of_id timeField idField _ fixed first second (stored first firstMember) (stored second secondMember) same
    exact absurd older (by rw [equal]; exact lt_irrefl _)
  refine ⟨follows.going, descending, once, ?_, ?_, ?_⟩
  · intro ended id present
    rw [follows.ended] at ended
    apply List.count_eq_one_of_mem once
    cases visits with
    | nil => cases ended
    | cons first later =>
      obtain ⟨wanted, wantedMember, named⟩ := List.mem_map.mp (present first List.mem_cons_self)
      have everywhere : ∀ visited ∈ (first :: later).map abstractVisit, ∃ row ∈ visited.table,
          keyOf timeField idField row = keyOf timeField idField wanted := by
        intro visited member
        obtain ⟨visit, listed, rfl⟩ := List.mem_map.mp member
        obtain ⟨row, rowMember, same⟩ := List.mem_map.mp (present visit listed)
        exact ⟨row, rowMember, key_of_id timeField idField _ fixed row wanted (inside visit listed row rowMember)
          (inside first List.mem_cons_self wanted wantedMember) (same.trans named.symm)⟩
      obtain ⟨row, returned, same⟩ := Keyset.walk_returns (keyOf timeField idField) (keyOf timeField idField wanted)
        ((first :: later).map abstractVisit) readable everywhere ended
      rw [← follows.returned] at returned
      exact List.mem_map.mpr ⟨row, returned, (key_id timeField idField row wanted same).trans named⟩
  · rintro first later rfl settled enough
    rw [follows.ended]
    apply Keyset.walk_ends (keyOf timeField idField) (abstractVisit first) (later.map abstractVisit) readable
    · exact settled_follows runtime timeField idField _ fixed (first :: later) newReading Keyset.newWalk (new_follows runtime)
        (fun _ member => nomatch member) inside settled
    · rwa [List.length_map]
  · intro t id representable
    obtain ⟨utc, within⟩ := Option.isSome_iff_exists.mp representable
    obtain ⟨cursor, encoded, _, decoded, same⟩ := cursor_read_back runtime t id utc within
    exact ⟨cursor, encoded, utcOf utc, decoded, same⟩

end

def noon : DateTime := ⟨2026, 2, 28, 12, 0, 0, 1, ⟨by decide, by decide, by decide⟩, ⟨by decide, by decide, by decide, by decide⟩⟩

def atNoon : Timestamp := ⟨utcOf noon, noon, by decide +kernel⟩

theorem tied_rows_read_once :
    ((run (readPage documentedRuntime Prod.fst Prod.snd) newReading ([1, 0, 500].map (fun limit =>
      ⟨limit, [(atNoon, ⟨1, by decide⟩), (atNoon, ⟨2, by decide⟩)]⟩))).returned.map Prod.snd).count ⟨2, by decide⟩ = 1 := by
  have settled := same_table_settled documentedRuntime Prod.fst Prod.snd [1, 0, 500]
    [(atNoon, (⟨1, by decide⟩ : UUID)), (atNoon, ⟨2, by decide⟩)] newReading (.inl rfl)
  obtain ⟨_, _, _, once, ends, _⟩ := keyset_pagination documentedRuntime Prod.fst Prod.snd ([1, 0, 500].map (fun limit =>
    ⟨limit, [(atNoon, (⟨1, by decide⟩ : UUID)), (atNoon, ⟨2, by decide⟩)]⟩)) (by simp [UniqueIds]) (by simp [KeysFixed, instantOf])
  exact once (ends _ _ rfl settled (by simp)) _ (by simp)

end Ubb.Pagination
