import Mathlib.Data.List.Sort

set_option autoImplicit false

-- The head of a stable descending sort: the best item, and the first of the
-- best where the rank cannot tell them apart.
namespace Ubb.Library

variable {Item Rank Place : Type}

def firstBest [LinearOrder Rank] (rank : Item → Rank) (items : List Item) : Option Item :=
  (items.insertionSort (fun left right => rank right ≤ rank left)).head?

theorem first_best_nil [LinearOrder Rank] (rank : Item → Rank) :
    firstBest rank [] = none := rfl

theorem first_best_cons [LinearOrder Rank] (rank : Item → Rank) (item : Item)
    (items : List Item) :
    firstBest rank (item :: items) =
      match firstBest rank items with
      | none => some item
      | some best => if rank best ≤ rank item then some item else some best := by
  unfold firstBest
  rw [List.insertionSort_cons]
  cases items.insertionSort (fun left right => rank right ≤ rank left) with
  | nil => rfl
  | cons best rest =>
    simp only [List.orderedInsert_cons, List.head?_cons]
    split <;> rfl

theorem first_best_eq_none [LinearOrder Rank] (rank : Item → Rank) (items : List Item) :
    firstBest rank items = none ↔ items = [] := by
  cases items with
  | nil => simp [first_best_nil]
  | cons item items =>
    rw [first_best_cons]
    cases firstBest rank items with
    | none => simp
    | some best =>
      simp only [reduceCtorEq, iff_false]
      split <;> simp

theorem first_best_mem [LinearOrder Rank] (rank : Item → Rank) (items : List Item) (best : Item)
    (answered : firstBest rank items = some best) : best ∈ items := by
  unfold firstBest at answered
  have sorted := List.mem_of_mem_head? answered
  exact (List.mem_insertionSort _).1 sorted

-- The induction is on the items and follows first_best_cons: a newcomer in
-- front replaces the best of the rest exactly when it is at least as good.
theorem first_best_maximal [LinearOrder Rank] (rank : Item → Rank) (items : List Item)
    (best : Item) (answered : firstBest rank items = some best) :
    ∀ item ∈ items, rank item ≤ rank best := by
  induction items generalizing best with
  | nil => simp [first_best_nil] at answered
  | cons head tail hypothesis =>
    rw [first_best_cons] at answered
    intro item inside
    cases found : firstBest rank tail with
    | none =>
      have empty := (first_best_eq_none rank tail).1 found
      subst empty
      simp only [found, Option.some.injEq] at answered
      subst answered
      simp only [List.mem_singleton] at inside
      rw [inside]
    | some rest =>
      simp only [found] at answered
      have bounded := hypothesis rest found
      cases List.mem_cons.1 inside with
      | inl first =>
        subst first
        split at answered <;> grind
      | inr later =>
        have atMost := bounded item later
        split at answered <;> grind

theorem first_best_append [LinearOrder Rank] (rank : Item → Rank) (first second : List Item) :
    firstBest rank (first ++ second) =
      match firstBest rank first, firstBest rank second with
      | none, later => later
      | some best, none => some best
      | some best, some later => if rank later ≤ rank best then some best else some later := by
  induction first with
  | nil =>
    rw [List.nil_append, first_best_nil]
  | cons item items hypothesis =>
    rw [List.cons_append, first_best_cons, first_best_cons, hypothesis]
    cases firstBest rank items with
    | none => cases firstBest rank second <;> simp
    | some best =>
      cases firstBest rank second with
      | none =>
        by_cases below : rank best ≤ rank item <;> simp [below]
      | some later =>
        by_cases below : rank best ≤ rank item
        · by_cases behind : rank later ≤ rank best
          · simp [below, behind, behind.trans below]
          · simp [below, behind]
        · by_cases behind : rank later ≤ rank best
          · simp [below, behind]
          · have worse : ¬ rank later ≤ rank item := by
              intro held
              exact below ((le_of_lt (not_le.1 behind)).trans held)
            simp [below, behind, worse]

theorem first_best_kept [LinearOrder Rank] (rank : Item → Rank) (first second replaced : List Item)
    (best : Item) (answered : firstBest rank (first ++ second) = some best) (foreign : best ∉ second)
    (behind : ∀ item ∈ replaced, rank item ≤ rank best) :
    firstBest rank (first ++ replaced) = some best := by
  have own : firstBest rank first = some best := by
    rw [first_best_append] at answered
    cases found : firstBest rank first with
    | none =>
      rw [found] at answered
      exact absurd (first_best_mem rank second best answered) foreign
    | some held =>
      cases later : firstBest rank second with
      | none => simpa [found, later] using answered
      | some other =>
        have different : other ≠ best := fun same => foreign (same ▸ first_best_mem rank second other later)
        simp only [found, later] at answered
        split at answered
        · exact answered
        · exact absurd (Option.some.inj answered) different
  rw [first_best_append, own]
  cases later : firstBest rank replaced with
  | none => rfl
  | some other =>
    have below := behind other (first_best_mem rank replaced other later)
    simp only [below, if_true]

theorem first_best_ascending [LinearOrder Rank] (rank : Item → Rank) (items : List Item)
    (ascending : items.Pairwise (fun left right => rank left < rank right)) : firstBest rank items = items.getLast? := by
  cases best : firstBest rank items with
  | none =>
    rw [(first_best_eq_none rank items).mp best]
    rfl
  | some item =>
    have inside := first_best_mem rank items item best
    have maximal := first_best_maximal rank items item best
    obtain ⟨front, back, split⟩ := List.append_of_mem inside
    subst split
    cases back with
    | nil => simp
    | cons next later =>
      have below := (List.pairwise_append.mp ascending).2.1
      have above := (List.pairwise_cons.mp below).1 next (by simp)
      exact absurd (maximal next (by simp)) (not_le.mpr above)

theorem ordered_insert_before [LinearOrder Place] (place : Item → Place) (item : Item) (early late : List Item)
    (before : ∀ other ∈ late, place item ≤ place other) :
    (early ++ late).orderedInsert (fun left right => place left ≤ place right) item =
      early.orderedInsert (fun left right => place left ≤ place right) item ++ late := by
  induction early with
  | nil =>
    cases late with
    | nil => rfl
    | cons other rest =>
      have here := before other List.mem_cons_self
      rw [List.nil_append, List.orderedInsert_cons, if_pos here]
      rfl
  | cons head tail hypothesis =>
    rw [List.cons_append, List.orderedInsert_cons, List.orderedInsert_cons, hypothesis]
    split <;> rfl

theorem ordered_insert_after [LinearOrder Place] (place : Item → Place) (item : Item) (early late : List Item)
    (after : ∀ other ∈ early, place other < place item) :
    (early ++ late).orderedInsert (fun left right => place left ≤ place right) item =
      early ++ late.orderedInsert (fun left right => place left ≤ place right) item := by
  induction early with
  | nil => rfl
  | cons head tail hypothesis =>
    have passes : ¬ place item ≤ place head := not_le.2 (after head List.mem_cons_self)
    rw [List.cons_append, List.orderedInsert_cons, if_neg passes,
      hypothesis (fun other inside => after other (List.mem_cons_of_mem head inside))]
    rfl

theorem insertion_sort_parted [LinearOrder Place] (place : Item → Place) (first : Item → Bool) (items : List Item)
    (parted : ∀ early ∈ items, first early = true → ∀ late ∈ items, first late = false → place early < place late) :
    items.insertionSort (fun left right => place left ≤ place right) =
      (items.filter first).insertionSort (fun left right => place left ≤ place right) ++
        (items.filter (fun item => !first item)).insertionSort (fun left right => place left ≤ place right) := by
  induction items with
  | nil => rfl
  | cons item rest hypothesis =>
    have restParted := hypothesis (fun early inEarly isEarly late inLate isLate =>
      parted early (List.mem_cons_of_mem item inEarly) isEarly late (List.mem_cons_of_mem item inLate) isLate)
    rw [List.insertionSort_cons, restParted]
    cases side : first item with
    | true =>
      rw [List.filter_cons_of_pos side, List.filter_cons_of_neg (by simp [side]), List.insertionSort_cons]
      apply ordered_insert_before
      intro late inside
      rw [List.mem_insertionSort, List.mem_filter, Bool.not_eq_true'] at inside
      exact le_of_lt (parted item List.mem_cons_self side late (List.mem_cons_of_mem item inside.1) inside.2)
    | false =>
      rw [List.filter_cons_of_neg (by simp [side]), List.filter_cons_of_pos (by simp [side]),
        List.insertionSort_cons]
      apply ordered_insert_after
      intro early inside
      rw [List.mem_insertionSort, List.mem_filter] at inside
      exact parted early (List.mem_cons_of_mem item inside.1) inside.2 item List.mem_cons_self side

end Ubb.Library
