import Mathlib.Tactic

set_option autoImplicit false

-- A timeline of rows with half-open windows, changed at one instant by closing
-- some of its open rows there and opening others there.
namespace Ubb.Library

def inWindow (opens : Int) (closes : Option Int) (instant : Int) : Bool :=
  decide (opens ≤ instant) && closes.all (fun close => decide (instant < close))

theorem in_window_iff (opens : Int) (closes : Option Int) (instant : Int) :
    inWindow opens closes instant = true ↔
      opens ≤ instant ∧ ∀ close, closes = some close → instant < close := by
  cases closes <;> simp [inWindow]

section

variable {Row Line Identity : Type} (opens : Row → Int) (closes : Row → Option Int)

def rowsInForce (instant : Int) (rows : List Row) : List Row :=
  rows.filter (fun row => inWindow (opens row) (closes row) instant)

variable (close : Row → Row) (gone : Row → Bool)

def replaceRows (opened before : List Row) : List Row :=
  before.map (fun row => if gone row then close row else row) ++ opened

theorem mem_replace_rows (close : Row → Row) (gone : Row → Bool) (opened before : List Row)
    (found : Row) :
    found ∈ replaceRows close gone opened before ↔
      (∃ row ∈ before, (if gone row then close row else row) = found) ∨ found ∈ opened := by
  rw [replaceRows, List.mem_append, List.mem_map]

section

variable (id : Row → Nat) (close : Row → Row) (gone : Row → Bool) (opened before : List Row)
  (limit bound : Nat) (idKept : ∀ row, id (close row) = id row)

include idKept

theorem replaced_id (row : Row) : id (if gone row then close row else row) = id row := by
  split
  · exact idKept row
  · rfl

theorem replaced_ids_nodup (distinct : (before.map id).Nodup) (used : ∀ row ∈ before, id row < limit)
    (ascending : opened.Pairwise (fun left right => id left < id right))
    (unused : ∀ row ∈ opened, limit ≤ id row) :
    ((replaceRows close gone opened before).map id).Nodup := by
  have kept : (before.map (fun row => if gone row then close row else row)).map id =
      before.map id := by
    rw [List.map_map]
    apply List.map_congr_left
    intro row _
    exact replaced_id id close gone idKept row
  rw [replaceRows, List.map_append, kept, List.nodup_append]
  refine ⟨distinct, ?_, ?_⟩
  · rw [List.Nodup, List.pairwise_map]
    exact ascending.imp (fun below => Nat.ne_of_lt below)
  · intro left inLeft right inRight same
    obtain ⟨old, stored, rfl⟩ := List.mem_map.1 inLeft
    obtain ⟨fresh, inside, rfl⟩ := List.mem_map.1 inRight
    have below := used old stored
    have above := unused fresh inside
    omega

theorem replaced_ids_used (used : ∀ row ∈ before, id row < limit)
    (fresh : ∀ row ∈ opened, id row < bound) (grows : limit ≤ bound) :
    ∀ row ∈ replaceRows close gone opened before, id row < bound := by
  intro row inside
  rw [mem_replace_rows] at inside
  obtain ⟨old, stored, rfl⟩ | new := inside
  · rw [replaced_id id close gone idKept]
    exact (used old stored).trans_le grows
  · exact fresh row new

end

theorem forall_two_right {Left : Type} {Related : Left → Row → Prop} {lefts : List Left}
    {rows : List Row} (related : List.Forall₂ Related lefts rows) (row : Row) (inside : row ∈ rows) :
    ∃ left ∈ lefts, Related left row := by
  induction related with
  | nil => simp at inside
  | cons here _ hypothesis =>
    cases List.mem_cons.1 inside with
    | inl first =>
      rw [first]
      exact ⟨_, by simp, here⟩
    | inr later =>
      obtain ⟨left, listed, holds⟩ := hypothesis later
      exact ⟨left, List.mem_cons_of_mem _ listed, holds⟩

theorem replace_rows_twice (close : Row → Row) (gone alsoGone : Row → Bool)
    (opened alsoOpened before : List Row) (again : ∀ row, close (close row) = close row)
    (stillGone : ∀ row, alsoGone (close row) = alsoGone row)
    (untouched : ∀ row ∈ opened, alsoGone row = false) :
    replaceRows close alsoGone alsoOpened (replaceRows close gone opened before) =
      replaceRows close (fun row => gone row || alsoGone row) (opened ++ alsoOpened) before := by
  have keeps : opened.map (fun row => if alsoGone row then close row else row) = opened := by
    conv_rhs => rw [← List.map_id opened]
    apply List.map_congr_left
    intro row inside
    simp [untouched row inside]
  rw [replaceRows, replaceRows, replaceRows, List.map_append, keeps, List.map_map,
    List.append_assoc]
  congr 1
  apply List.map_congr_left
  intro row _
  cases first : gone row <;> cases second : alsoGone row <;>
    simp [first, second, stillGone, again]

theorem filter_replace_rows (close : Row → Row) (gone part : Row → Bool) (opened before : List Row)
    (kept : ∀ row, part (close row) = part row) :
    (replaceRows close gone opened before).filter part =
      replaceRows close gone (opened.filter part) (before.filter part) := by
  rw [replaceRows, replaceRows, List.filter_append, List.filter_map]
  congr 2
  apply List.filter_congr
  intro row _
  simp only [Function.comp_apply]
  split
  · exact kept row
  · rfl

structure ChangesAt (effective : Int) (opened before : List Row) : Prop where
  opensKept : ∀ row, opens (close row) = opens row
  closesThere : ∀ row, closes (close row) = some effective
  wasOpen : ∀ row ∈ before, gone row = true → closes row = none
  floor : ∀ row ∈ before, opens row ≤ effective
  ceiling : ∀ row ∈ before, ∀ instant, closes row = some instant → instant ≤ effective
  opensThere : ∀ row ∈ opened, opens row = effective ∧ closes row = none

variable {opens closes close gone}

theorem in_force_before_the_change {effective : Int} {opened before : List Row}
    (change : ChangesAt opens closes close gone effective opened before) (instant : Int)
    (earlier : instant < effective) :
    rowsInForce opens closes instant (replaceRows close gone opened before) =
      (rowsInForce opens closes instant before).map (fun row => if gone row then close row else row) := by
  have none_opened : rowsInForce opens closes instant opened = [] := by
    rw [rowsInForce, List.filter_eq_nil_iff]
    intro row inside
    rw [in_window_iff, (change.opensThere row inside).1]
    omega
  have same : ∀ row ∈ before,
      inWindow (opens (if gone row then close row else row))
        (closes (if gone row then close row else row)) instant =
      inWindow (opens row) (closes row) instant := by
    intro row inside
    split
    · rename_i closing
      rw [change.opensKept, change.closesThere, change.wasOpen row inside closing]
      simp [inWindow, earlier]
    · rfl
  rw [replaceRows, rowsInForce, List.filter_append, ← rowsInForce, ← rowsInForce, none_opened,
    List.append_nil, rowsInForce, List.filter_map, rowsInForce]
  congr 1
  apply List.filter_congr
  intro row inside
  exact same row inside

theorem in_force_from_the_change {effective : Int} {opened before : List Row}
    (change : ChangesAt opens closes close gone effective opened before) (instant : Int)
    (later : effective ≤ instant) :
    rowsInForce opens closes instant (replaceRows close gone opened before) =
      (rowsInForce opens closes effective before).filter (fun row => !gone row) ++ opened := by
  have all_opened : rowsInForce opens closes instant opened = opened := by
    rw [rowsInForce, List.filter_eq_self]
    intro row inside
    obtain ⟨start, endless⟩ := change.opensThere row inside
    rw [in_window_iff, start, endless]
    exact ⟨later, by simp⟩
  rw [replaceRows, rowsInForce, List.filter_append, ← rowsInForce, ← rowsInForce, all_opened]
  congr 1
  -- A row closed by the change is out of force from the instant on; a row left
  -- alone lies on the same side of its window at both instants.
  have kept : ∀ row ∈ before, gone row = false →
      inWindow (opens row) (closes row) instant = inWindow (opens row) (closes row) effective := by
    intro row inside _
    have low := change.floor row inside
    have high := change.ceiling row inside
    cases ending : closes row with
    | none =>
      have start : opens row ≤ instant := by omega
      simp [inWindow, low, start]
    | some last =>
      have past := high last ending
      have out : ¬ instant < last := by omega
      have outThen : ¬ effective < last := by omega
      simp [inWindow, out, outThen]
  have closed : ∀ row, inWindow (opens (close row)) (closes (close row)) instant = false := by
    intro row
    have out : ¬ instant < effective := by omega
    simp [inWindow, change.closesThere, out]
  clear all_opened
  induction before with
  | nil => rfl
  | cons row rest hypothesis =>
    have restChange : ChangesAt opens closes close gone effective opened rest :=
      ⟨change.opensKept, change.closesThere,
        fun other inside => change.wasOpen other (List.mem_cons_of_mem row inside),
        fun other inside => change.floor other (List.mem_cons_of_mem row inside),
        fun other inside => change.ceiling other (List.mem_cons_of_mem row inside),
        change.opensThere⟩
    have restSame := hypothesis restChange
      (fun other inside => kept other (List.mem_cons_of_mem row inside))
    simp only [rowsInForce] at restSame
    cases closing : gone row with
    | true =>
      simp only [rowsInForce, List.map_cons, closing, if_true,
        List.filter_cons, closed, Bool.false_eq_true, if_false]
      rw [restSame]
      split <;> simp [closing]
    | false =>
      have here := kept row (by simp) closing
      simp only [rowsInForce, List.map_cons, closing, Bool.false_eq_true, if_false,
        List.filter_cons, here]
      rw [restSame]
      split <;> simp [closing]

def OneInForce (opens : Row → Int) (closes : Row → Option Int) (identity : Row → Identity)
    (rows : List Row) : Prop :=
  ∀ instant, ∀ left ∈ rowsInForce opens closes instant rows,
    ∀ right ∈ rowsInForce opens closes instant rows, identity left = identity right → left = right

theorem one_in_force_kept {effective : Int} {opened before : List Row}
    (change : ChangesAt opens closes close gone effective opened before)
    (identity : Row → Identity) (identityKept : ∀ row, identity (close row) = identity row)
    (distinct : ∀ left ∈ opened, ∀ right ∈ opened, identity left = identity right → left = right)
    (clear : ∀ row ∈ rowsInForce opens closes effective before, gone row = false →
      ∀ fresh ∈ opened, identity row ≠ identity fresh)
    (single : OneInForce opens closes identity before) :
    OneInForce opens closes identity (replaceRows close gone opened before) := by
  intro instant left inLeft right inRight same
  by_cases earlier : instant < effective
  · rw [in_force_before_the_change change instant earlier] at inLeft inRight
    obtain ⟨oldLeft, wasLeft, rfl⟩ := List.mem_map.1 inLeft
    obtain ⟨oldRight, wasRight, rfl⟩ := List.mem_map.1 inRight
    have sameOld : identity oldLeft = identity oldRight := by
      revert same
      split <;> split <;> simp [identityKept]
    rw [single instant oldLeft wasLeft oldRight wasRight sameOld]
  · rw [in_force_from_the_change change instant (by omega)] at inLeft inRight
    rw [List.mem_append, List.mem_filter] at inLeft inRight
    obtain ⟨heldLeft, keptLeft⟩ | freshLeft := inLeft
    · obtain ⟨heldRight, keptRight⟩ | freshRight := inRight
      · exact single effective left heldLeft right heldRight same
      · exact absurd same (clear left heldLeft (by simpa using keptLeft) right freshRight)
    · obtain ⟨heldRight, keptRight⟩ | freshRight := inRight
      · exact absurd same.symm (clear right heldRight (by simpa using keptRight) left freshLeft)
      · exact distinct left freshLeft right freshRight same

end

section

variable {Plan Opening Row Shown : Type} (opening : Plan → Option Opening)

-- The rows opened by a list of plans, in order: what each row shows is what its
-- plan says. The induction is on the plans; those that open nothing are skipped.
theorem opened_rows_shown (Opens : Opening → Row → Prop) (view : Row → Shown)
    (shown : Plan → Opening → Shown) (Good : Row → Prop) (plans : List Plan) (rows : List Row)
    (each : ∀ plan ∈ plans, ∀ open' row, opening plan = some open' → Opens open' row →
      view row = shown plan open' ∧ Good row)
    (opened : List.Forall₂ Opens (plans.filterMap opening) rows) :
    rows.map view = plans.filterMap (fun plan => (opening plan).map (shown plan)) ∧
      ∀ row ∈ rows, Good row := by
  induction plans generalizing rows with
  | nil =>
    cases opened
    simp
  | cons plan rest hypothesis =>
    have later : ∀ other ∈ rest, ∀ open' row, opening other = some open' → Opens open' row →
        view row = shown other open' ∧ Good row :=
      fun other inside => each other (List.mem_cons_of_mem plan inside)
    cases made : opening plan with
    | none =>
      rw [List.filterMap_cons_none made] at opened
      rw [List.filterMap_cons_none (by simp [made])]
      exact hypothesis rows later opened
    | some open' =>
      rw [List.filterMap_cons_some made] at opened
      rw [List.filterMap_cons_some (b := shown plan open') (by simp [made])]
      cases opened with
      | cons here others =>
        obtain ⟨views, good⟩ := each plan (by simp) open' _ made here
        obtain ⟨viewsRest, goodRest⟩ := hypothesis _ later others
        refine ⟨by rw [List.map_cons, views, viewsRest], ?_⟩
        intro row inside
        cases List.mem_cons.1 inside with
        | inl first => rw [first]; exact good
        | inr later => exact goodRest row later

theorem opened_names_sublist (name : Plan → Shown) (plans : List Plan) :
    (plans.filterMap (fun plan => (opening plan).map (fun _ => name plan))).Sublist
      (plans.map name) := by
  induction plans with
  | nil => simp
  | cons plan rest hypothesis =>
    cases made : opening plan with
    | none =>
      rw [List.filterMap_cons_none (by simp [made]), List.map_cons]
      exact hypothesis.cons _
    | some open' =>
      rw [List.filterMap_cons_some (b := name plan) (by simp [made]), List.map_cons]
      exact hypothesis.cons_cons _

end

end Ubb.Library
