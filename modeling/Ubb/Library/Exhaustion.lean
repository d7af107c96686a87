import Mathlib.Algebra.Order.BigOperators.Group.List
import Mathlib.Tactic

set_option autoImplicit false

-- Stocks drawn down in the order they stand in: each to nothing before the
-- next is touched. What is left is settled by how much was drawn.
namespace Ubb.Library

structure DrawnInOrder (stocks left : List Int) : Prop where
  within : List.Forall₂ (fun stock rest => 0 ≤ rest ∧ rest ≤ stock) stocks left
  ordered : (stocks.zip left).Pairwise (fun early late => late.2 < late.1 → early.2 = 0)

theorem drawn_untouched (stocks : List Int) (nonneg : ∀ stock ∈ stocks, 0 ≤ stock) : DrawnInOrder stocks stocks := by
  refine ⟨List.forall₂_same.mpr (fun stock mem => ⟨nonneg stock mem, le_refl _⟩), ?_⟩
  rw [List.zip_eq_zipWith, List.zipWith_self, List.pairwise_map]
  exact List.pairwise_of_forall (fun _ _ touched => absurd touched (lt_irrefl _))

theorem left_sum_le (stocks left : List Int)
    (within : List.Forall₂ (fun stock rest => 0 ≤ rest ∧ rest ≤ stock) stocks left) : left.sum ≤ stocks.sum := by
  induction within with
  | nil => exact le_refl _
  | cons bounds _ ih =>
    simp only [List.sum_cons]
    omega

theorem untouched_of_sum (stocks left : List Int)
    (within : List.Forall₂ (fun stock rest => 0 ≤ rest ∧ rest ≤ stock) stocks left)
    (same : left.sum = stocks.sum) : left = stocks := by
  induction within with
  | nil => rfl
  | @cons stock rest stocks left bounds later ih =>
    have atMost := left_sum_le stocks left later
    simp only [List.sum_cons] at same
    have head : rest = stock := by omega
    rw [head, ih (by omega)]

theorem drawn_cons (stock rest : Int) (stocks left : List Int) (bounds : 0 ≤ rest ∧ rest ≤ stock)
    (drawn : DrawnInOrder stocks left) (first : rest = 0 ∨ left = stocks) :
    DrawnInOrder (stock :: stocks) (rest :: left) := by
  refine ⟨.cons bounds drawn.within, List.pairwise_cons.mpr ⟨?_, drawn.ordered⟩⟩
  intro pair mem touched
  rcases first with empty | untouched
  · exact empty
  · rw [untouched, List.zipWith_self] at mem
    obtain ⟨value, _, rfl⟩ := List.mem_map.mp mem
    exact absurd touched (lt_irrefl _)

theorem drawn_uncons (stock rest : Int) (stocks left : List Int)
    (drawn : DrawnInOrder (stock :: stocks) (rest :: left)) :
    (0 ≤ rest ∧ rest ≤ stock) ∧ DrawnInOrder stocks left ∧ (rest = 0 ∨ left = stocks) := by
  obtain ⟨bounds, within⟩ := List.forall₂_cons.mp drawn.within
  obtain ⟨first, ordered⟩ := List.pairwise_cons.mp drawn.ordered
  refine ⟨bounds, ⟨within, ordered⟩, ?_⟩
  by_cases empty : rest = 0
  · exact Or.inl empty
  · refine Or.inr (untouched_of_sum stocks left within (le_antisymm (left_sum_le stocks left within) ?_))
    have standing : ∀ pair ∈ stocks.zip left, ¬pair.2 < pair.1 := fun pair mem touched => empty (first pair mem touched)
    clear first ordered drawn
    induction within with
    | nil => exact le_refl _
    | @cons stock rest stocks left _ _ ih =>
      have here := standing (stock, rest) (by simp)
      have later := ih (fun pair mem => standing pair (by simp [mem]))
      simp only [List.sum_cons]
      omega

theorem drawn_unique (stocks left other : List Int) (drawn : DrawnInOrder stocks left)
    (otherDrawn : DrawnInOrder stocks other) (same : left.sum = other.sum) : left = other := by
  induction stocks generalizing left other with
  | nil =>
    cases drawn.within
    cases otherDrawn.within
    rfl
  | cons stock stocks ih =>
    cases left with
    | nil => cases drawn.within
    | cons rest left =>
      cases other with
      | nil => cases otherDrawn.within
      | cons otherRest other =>
        obtain ⟨bounds, later, first⟩ := drawn_uncons stock rest stocks left drawn
        obtain ⟨otherBounds, otherLater, otherFirst⟩ := drawn_uncons stock otherRest stocks other otherDrawn
        have atMost := left_sum_le stocks left later.within
        have otherAtMost := left_sum_le stocks other otherLater.within
        simp only [List.sum_cons] at same
        have head : rest = otherRest := by
          rcases first with empty | untouched
          · rcases otherFirst with otherEmpty | otherUntouched
            · rw [empty, otherEmpty]
            · rw [otherUntouched] at same
              omega
          · rw [untouched] at same
            rcases otherFirst with otherEmpty | otherUntouched
            · omega
            · rw [otherUntouched] at same
              omega
        rw [head, ih left other later otherLater (by omega)]

end Ubb.Library
