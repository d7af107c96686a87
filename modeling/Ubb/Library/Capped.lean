import Mathlib.Algebra.Order.Group.MinMax
import Mathlib.Tactic

set_option autoImplicit false

-- A total that takes what it is offered up to a cap.
namespace Ubb.Library

section

variable {Amount : Type} [AddCommGroup Amount] [LinearOrder Amount] [IsOrderedAddMonoid Amount]

def fill (cap total offer : Amount) : Amount := if cap - total ≤ 0 then total else total + min offer (cap - total)

theorem fill_bounded (cap bound total offer : Amount) (capped : cap ≤ bound) (below : total ≤ bound) :
    fill cap total offer ≤ bound := by
  by_cases full : cap - total ≤ 0
  · rw [fill, if_pos full]
    exact below
  · rw [fill, if_neg full]
    calc total + min offer (cap - total) ≤ total + (cap - total) := add_le_add_right (min_le_right _ _) _
      _ = cap := add_sub_cancel total cap
      _ ≤ bound := capped

def filled (cap total offered : Amount) : Amount := total + min offered (max 0 (cap - total))

omit [IsOrderedAddMonoid Amount] in
theorem filled_nothing (cap total : Amount) : filled cap total 0 = total := by
  rw [filled, min_eq_left (le_max_left 0 _), add_zero]

theorem fill_filled (cap total offered offer : Amount) (before : 0 ≤ offered) (nonneg : 0 ≤ offer) :
    fill cap (filled cap total offered) offer = filled cap total (offered + offer) := by
  by_cases full : cap - total ≤ 0
  · have stays : ∀ more, 0 ≤ more → filled cap total more = total := by
      intro more positive
      rw [filled, max_eq_left full, min_eq_right positive, add_zero]
    rw [stays offered before, stays _ (add_nonneg before nonneg), fill, if_pos full]
  · have room : max 0 (cap - total) = cap - total := max_eq_right (not_le.mp full).le
    rw [filled, filled, room]
    rcases le_or_gt (cap - total) offered with reached | short
    · rw [min_eq_right reached, min_eq_right (reached.trans (le_add_of_nonneg_right nonneg)), add_sub_cancel, fill,
        if_pos (sub_self cap).le]
    · have left : cap - (total + offered) = cap - total - offered := by abel
      rw [min_eq_left short.le, fill, left, if_neg (not_le.mpr (sub_pos.mpr short)), add_assoc, ← min_add_add_left,
        add_sub_cancel]

end

end Ubb.Library
