import Mathlib.Tactic

set_option autoImplicit false

namespace Ubb.Library

theorem tagged_ne (leftTag rightTag left right : String) (leftHead rightHead : Char) (leftRest rightRest : List Char)
    (leftEq : leftTag.toList = leftHead :: leftRest) (rightEq : rightTag.toList = rightHead :: rightRest)
    (different : leftHead ≠ rightHead) : leftTag ++ left ≠ rightTag ++ right := by
  intro same
  have lists := congrArg String.toList same
  rw [String.toList_append, String.toList_append, leftEq, rightEq] at lists
  exact different (List.cons.inj lists).1

theorem tagged_inj (tag left right : String) (same : tag ++ left = tag ++ right) : left = right := by
  have lists := congrArg String.toList same
  rw [String.toList_append, String.toList_append] at lists
  exact String.toList_inj.mp (List.append_cancel_left lists)

end Ubb.Library
