import Mathlib.Algebra.Order.BigOperators.Group.List
import Mathlib.Data.List.Nodup
import Mathlib.Tactic

set_option autoImplicit false

namespace Ubb.Library

section

variable {Row Key : Type} [DecidableEq Key] (key : Row → Key)

-- A table is the list of its rows in insertion order. An UPDATE by primary
-- key rewrites every row that carries the key and leaves the rest in place.
def updateRow (target : Key) (write : Row → Row) (rows : List Row) : List Row :=
  rows.map (fun row => if key row = target then write row else row)

theorem find_key_some (target : Key) (rows : List Row) (row : Row)
    (found : rows.find? (fun other => decide (key other = target)) = some row) : row ∈ rows ∧ key row = target :=
  ⟨List.mem_of_find?_eq_some found, by simpa using List.find?_some found⟩

theorem find_key_none (target : Key) (rows : List Row)
    (missing : rows.find? (fun other => decide (key other = target)) = none) : ∀ row ∈ rows, key row ≠ target := by
  intro row member
  simpa using List.find?_eq_none.mp missing row member

theorem find_key_of_mem (rows : List Row) (unique : (rows.map key).Nodup) (row : Row) (member : row ∈ rows) :
    rows.find? (fun other => decide (key other = key row)) = some row := by
  cases found : rows.find? (fun other => decide (key other = key row)) with
  | none => exact absurd rfl (find_key_none key (key row) rows found row member)
  | some other =>
    obtain ⟨inside, same⟩ := find_key_some key (key row) rows other found
    rw [List.inj_on_of_nodup_map unique inside member same]

omit [DecidableEq Key] in
theorem nodup_add_row (rows : List Row) (row : Row) (unique : (rows.map key).Nodup)
    (fresh : ∀ other ∈ rows, key other ≠ key row) : ((rows ++ [row]).map key).Nodup := by
  rw [List.map_append, List.map_singleton]
  apply unique.append (List.nodup_singleton _)
  rw [List.disjoint_singleton]
  intro listed
  obtain ⟨other, member, same⟩ := List.mem_map.mp listed
  exact fresh other member same

theorem update_row_map {Out : Type} (target : Key) (write : Row → Row) (rows : List Row) (view : Row → Out)
    (keeps : ∀ row, view (write row) = view row) :
    (updateRow key target write rows).map view = rows.map view := by
  rw [updateRow, List.map_map]
  apply List.map_congr_left
  intro row _
  simp only [Function.comp_apply]
  split
  · exact keeps row
  · rfl

theorem mem_update_row (target : Key) (write : Row → Row) (rows : List Row) (found : Row)
    (member : found ∈ updateRow key target write rows) :
    (found ∈ rows ∧ key found ≠ target) ∨ ∃ row ∈ rows, key row = target ∧ found = write row := by
  obtain ⟨row, inside, same⟩ := List.mem_map.mp member
  by_cases hit : key row = target
  · exact .inr ⟨row, inside, hit, by simpa [hit] using same.symm⟩
  · rw [if_neg hit] at same
    subst same
    exact .inl ⟨inside, hit⟩

theorem update_row_keys (target : Key) (write : Row → Row) (rows : List Row)
    (keeps : ∀ row, key row = target → key (write row) = target) : (updateRow key target write rows).map key = rows.map key := by
  rw [updateRow, List.map_map]
  apply List.map_congr_left
  intro row _
  by_cases hit : key row = target
  · rw [Function.comp_apply, if_pos hit, keeps row hit, hit]
  · rw [Function.comp_apply, if_neg hit]

theorem update_row_other (target : Key) (write : Row → Row) (rows : List Row) (row : Row)
    (member : row ∈ rows) (different : key row ≠ target) : row ∈ updateRow key target write rows :=
  List.mem_map.mpr ⟨row, member, if_neg different⟩

theorem update_row_missing (target : Key) (write : Row → Row) (rows : List Row)
    (missing : ∀ row ∈ rows, key row ≠ target) : updateRow key target write rows = rows := by
  rw [updateRow]
  conv_rhs => rw [← List.map_id rows]
  apply List.map_congr_left
  intro row member
  exact if_neg (missing row member)

theorem find_update_row_other (target wanted : Key) (write : Row → Row) (rows : List Row)
    (keeps : ∀ row, key row = target → key (write row) = target) (different : wanted ≠ target) :
    (updateRow key target write rows).find? (fun row => decide (key row = wanted)) =
      rows.find? (fun row => decide (key row = wanted)) := by
  induction rows with
  | nil => rfl
  | cons row rest ih =>
      rw [updateRow, List.map_cons, List.find?_cons, List.find?_cons, ← updateRow, ih]
      by_cases hit : key row = target
      · have missesNew : key (write row) ≠ wanted := fun same => different (same.symm.trans (keeps row hit))
        simp [hit, missesNew, Ne.symm different]
      · simp [hit]

theorem find_update_row_hit (target : Key) (write : Row → Row) (rows : List Row)
    (keeps : ∀ row, key row = target → key (write row) = target) :
    (updateRow key target write rows).find? (fun row => decide (key row = target)) =
      (rows.find? (fun row => decide (key row = target))).map write := by
  induction rows with
  | nil => rfl
  | cons row rest ih =>
      rw [updateRow, List.map_cons, List.find?_cons, List.find?_cons, ← updateRow, ih]
      by_cases hit : key row = target
      · simp [hit, keeps row hit]
      · simp [hit]

theorem sum_update_row (target : Key) (write : Row → Row) (measure : Row → Int) (rows : List Row) (row : Row)
    (unique : (rows.map key).Nodup) (member : row ∈ rows) (hit : key row = target) :
    ((updateRow key target write rows).map measure).sum =
      (rows.map measure).sum - measure row + measure (write row) := by
  induction rows with
  | nil => cases member
  | cons first rest ih =>
      rw [List.map_cons, List.nodup_cons] at unique
      by_cases here : key first = target
      · have rowEq : row = first := by
          rcases List.mem_cons.mp member with same | later
          · exact same
          · exact absurd (List.mem_map.mpr ⟨row, later, hit.trans here.symm⟩) unique.1
        subst rowEq
        have untouched : updateRow key target write rest = rest := by
          apply update_row_missing
          intro other otherMember otherHit
          exact unique.1 (List.mem_map.mpr ⟨other, otherMember, otherHit.trans here.symm⟩)
        have unfolded : updateRow key target write (row :: rest) = write row :: updateRow key target write rest := by
          simp [updateRow, here]
        rw [unfolded, untouched]
        simp only [List.map_cons, List.sum_cons]
        omega
      · have later : row ∈ rest := by
          rcases List.mem_cons.mp member with same | later
          · exact absurd (same ▸ hit) here
          · exact later
        have unfolded : updateRow key target write (first :: rest) = first :: updateRow key target write rest := by
          simp [updateRow, here]
        rw [unfolded]
        simp only [List.map_cons, List.sum_cons]
        rw [ih unique.2 later]
        omega

theorem count_update_row (target : Key) (write : Row → Row) (holds : Row → Bool) (rows : List Row) (row : Row)
    (unique : (rows.map key).Nodup) (member : row ∈ rows) (hit : key row = target) :
    (updateRow key target write rows).countP holds + (holds row).toNat = rows.countP holds + (holds (write row)).toNat := by
  have total : ∀ listed : List Row, ((listed.map (fun row => ((holds row).toNat : Int))).sum) = listed.countP holds := by
    intro listed
    induction listed with
    | nil => rfl
    | cons first rest ih =>
      rw [List.map_cons, List.sum_cons, ih, List.countP_cons]
      cases holds first <;> simp [add_comm]
  have changed := sum_update_row key target write (fun row => ((holds row).toNat : Int)) rows row unique member hit
  rw [total, total] at changed
  omega

theorem count_at_key (target : Key) (holds : Row → Bool) (rows : List Row) (unique : (rows.map key).Nodup) :
    rows.countP (fun row => decide (key row = target) && holds row) =
      ((rows.find? (fun row => decide (key row = target))).any holds).toNat := by
  induction rows with
  | nil => rfl
  | cons first rest ih =>
      rw [List.map_cons, List.nodup_cons] at unique
      by_cases here : key first = target
      · have absent : rest.countP (fun row => decide (key row = target) && holds row) = 0 := by
          rw [List.countP_eq_zero]
          intro row member counted
          simp only [Bool.and_eq_true, decide_eq_true_eq] at counted
          exact unique.1 (List.mem_map.mpr ⟨row, member, counted.1.trans here.symm⟩)
        cases held : holds first <;> simp [here, absent, held]
      · simp [here, ih unique.2]

theorem filter_at_key (target : Key) (rows : List Row) (unique : (rows.map key).Nodup) :
    rows.filter (fun row => decide (key row = target)) =
      (rows.find? (fun row => decide (key row = target))).toList := by
  induction rows with
  | nil => rfl
  | cons first rest ih =>
      rw [List.map_cons, List.nodup_cons] at unique
      by_cases here : key first = target
      · have absent : rest.filter (fun row => decide (key row = target)) = [] := by
          rw [List.filter_eq_nil_iff]
          intro row member hit
          rw [decide_eq_true_eq] at hit
          exact unique.1 (List.mem_map.mpr ⟨row, member, hit.trans here.symm⟩)
        simp [here, absent]
      · simpa [here] using ih unique.2

theorem sum_at_key (target : Key) (measure : Row → Int) (rows : List Row) (unique : (rows.map key).Nodup) :
    ((rows.filter (fun row => decide (key row = target))).map measure).sum =
      ((rows.find? (fun row => decide (key row = target))).map measure).getD 0 := by
  rw [filter_at_key key target rows unique]
  cases rows.find? (fun row => decide (key row = target)) <;> simp

theorem filter_update_row (target : Key) (write : Row → Row) (keep : Row → Bool) (rows : List Row)
    (same : ∀ row, keep (write row) = keep row) (apart : ∀ row ∈ rows, key row = target → keep row = false) :
    (updateRow key target write rows).filter keep = rows.filter keep := by
  induction rows with
  | nil => rfl
  | cons first rest ih =>
      have later := ih (fun row member => apart row (List.mem_cons_of_mem first member))
      rw [updateRow] at later ⊢
      by_cases here : key first = target
      · have dropped := apart first (by simp) here
        simp [here, same, dropped, later]
      · cases kept : keep first <;> simp [here, kept, later]

theorem others_update_row (target : Key) (write : Row → Row) (rows : List Row)
    (keeps : ∀ row, key row = target → key (write row) = target) :
    (updateRow key target write rows).filter (fun row => decide (key row ≠ target)) =
      rows.filter (fun row => decide (key row ≠ target)) := by
  induction rows with
  | nil => rfl
  | cons first rest ih =>
    rw [updateRow, List.map_cons]
    by_cases hit : key first = target
    · rw [if_pos hit, List.filter_cons_of_neg (by simp [keeps first hit]), List.filter_cons_of_neg (by simp [hit])]
      exact ih
    · rw [if_neg hit, List.filter_cons_of_pos (by simp [hit]), List.filter_cons_of_pos (by simp [hit])]
      exact congrArg (first :: ·) ih

theorem sum_by_key (target : Key) (measure : Row → Int) (rows : List Row) :
    (rows.map measure).sum = ((rows.filter (fun row => decide (key row = target))).map measure).sum +
      ((rows.filter (fun row => decide (key row ≠ target))).map measure).sum := by
  have split := List.filter_append_perm (fun row => decide (key row = target)) rows
  rw [← (split.map measure).sum_eq, List.map_append, List.sum_append]
  simp only [decide_not]

end

theorem sum_filter_eq {Row : Type} (keep : Row → Bool) (measure : Row → Int) (rows : List Row) :
    ((rows.filter keep).map measure).sum = (rows.map (fun row => if keep row then measure row else 0)).sum := by
  induction rows with
  | nil => rfl
  | cons row rest ih =>
      by_cases kept : keep row = true
      · simp [kept, ih]
      · simp [kept, ih]

theorem sum_indicator {Row : Type} (holds : Row → Prop) [DecidablePred holds] (rows : List Row) :
    (rows.map (fun row => if holds row then (1 : Int) else 0)).sum = rows.countP (fun row => decide (holds row)) := by
  induction rows with
  | nil => rfl
  | cons row rest ih =>
      by_cases here : holds row
      · simp [here, ih]
        omega
      · simp [here, ih]

theorem sum_single_label {Label : Type} [DecidableEq Label] (chosen : Label) (amount : Int) (labels : List Label)
    (distinct : labels.Nodup) (listed : chosen ∈ labels) :
    (labels.map (fun label => if chosen = label then amount else 0)).sum = amount := by
  induction labels with
  | nil => cases listed
  | cons first rest ih =>
      rw [List.nodup_cons] at distinct
      by_cases here : chosen = first
      · have absent : (rest.map (fun label => if chosen = label then amount else 0)).sum = 0 := by
          apply List.sum_eq_zero
          intro value member
          obtain ⟨label, inside, rfl⟩ := List.mem_map.mp member
          have other : chosen ≠ label := fun same => distinct.1 (by rw [← here, same]; exact inside)
          rw [if_neg other]
        simp [here] at absent ⊢
        exact absent
      · have later : chosen ∈ rest := by
          rcases List.mem_cons.mp listed with same | later
          · exact absurd same here
          · exact later
        simp [here, ih distinct.2 later]

theorem sum_over_labels {Row Label : Type} [DecidableEq Label] (label : Row → Label) (measure : Row → Int)
    (rows : List Row) (labels : List Label) (distinct : labels.Nodup) (covers : ∀ row ∈ rows, label row ∈ labels) :
    (labels.map (fun group => ((rows.filter (fun row => decide (label row = group))).map measure).sum)).sum =
      (rows.map measure).sum := by
  induction rows with
  | nil => simp
  | cons row rest ih =>
      have later := ih (fun other member => covers other (List.mem_cons_of_mem row member))
      have single := sum_single_label (label row) (measure row) labels distinct (covers row (by simp))
      have split : ∀ group, ((((row :: rest).filter (fun row => decide (label row = group))).map measure).sum) =
          (if label row = group then measure row else 0) +
            ((rest.filter (fun row => decide (label row = group))).map measure).sum := by
        intro group
        by_cases here : label row = group
        · simp [here]
        · simp [here]
      simp only [split, List.sum_map_add, single, later, List.map_cons, List.sum_cons]

theorem sum_nonneg_of {Row : Type} (measure : Row → Int) (rows : List Row)
    (nonneg : ∀ row ∈ rows, 0 ≤ measure row) : 0 ≤ (rows.map measure).sum := by
  apply List.sum_nonneg
  intro value member
  obtain ⟨row, inside, rfl⟩ := List.mem_map.mp member
  exact nonneg row inside

theorem single_le_sum {Row : Type} (measure : Row → Int) (rows : List Row)
    (nonneg : ∀ row ∈ rows, 0 ≤ measure row) (row : Row) (member : row ∈ rows) :
    measure row ≤ (rows.map measure).sum := by
  apply List.single_le_sum
  · intro value inside
    obtain ⟨other, otherMember, rfl⟩ := List.mem_map.mp inside
    exact nonneg other otherMember
  · exact List.mem_map.mpr ⟨row, member, rfl⟩

end Ubb.Library
