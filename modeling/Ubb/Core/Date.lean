import Mathlib.Tactic

set_option autoImplicit false

namespace Ubb

structure Date where
  year : Nat
  month : Nat
  day : Nat
  monthValid : 1 ≤ month ∧ month ≤ 12
  dayValid : 1 ≤ day ∧ day ≤ 31
deriving DecidableEq, Repr

-- No month has more than 31 days, so this is the order of dates.
def Date.ordinal (date : Date) : Nat := (date.year * 12 + (date.month - 1)) * 31 + (date.day - 1)

instance : LE Date := ⟨fun left right => left.ordinal ≤ right.ordinal⟩

instance : LT Date := ⟨fun left right => left.ordinal < right.ordinal⟩

instance (left right : Date) : Decidable (left ≤ right) := inferInstanceAs (Decidable (left.ordinal ≤ right.ordinal))

instance (left right : Date) : Decidable (left < right) := inferInstanceAs (Decidable (left.ordinal < right.ordinal))

theorem Date.le_def (left right : Date) : left ≤ right ↔ left.ordinal ≤ right.ordinal := Iff.rfl

theorem Date.lt_def (left right : Date) : left < right ↔ left.ordinal < right.ordinal := Iff.rfl

theorem first_day_valid : 1 ≤ 1 ∧ 1 ≤ 31 := by decide

def firstOfMonth (today : Date) : Date := { today with day := 1, dayValid := by omega }

def firstOfNextMonth (today : Date) : Date :=
  if twelfth : today.month = 12 then
    { year := today.year + 1, month := 1, day := 1, monthValid := by omega, dayValid := by omega }
  else
    { year := today.year, month := today.month + 1, day := 1
      monthValid := by have valid := today.monthValid; omega
      dayValid := by omega }

def Date.SameMonth (left right : Date) : Prop := left.year = right.year ∧ left.month = right.month

theorem first_of_month_ordinal (today : Date) :
    (firstOfMonth today).ordinal = (today.year * 12 + (today.month - 1)) * 31 := by
  simp [firstOfMonth, Date.ordinal]

theorem first_of_next_month_ordinal (today : Date) :
    (firstOfNextMonth today).ordinal = (firstOfMonth today).ordinal + 31 := by
  have valid := today.monthValid
  rw [first_of_month_ordinal, firstOfNextMonth]
  split
  · rename_i twelfth
    simp only [Date.ordinal, twelfth]
    omega
  · simp only [Date.ordinal]
    omega

theorem month_window (today date : Date) :
    (firstOfMonth today ≤ date ∧ date < firstOfNextMonth today) ↔ date.SameMonth today := by
  have todayValid := today.monthValid
  have monthValid := date.monthValid
  have dayValid := date.dayValid
  rw [Date.le_def, Date.lt_def, first_of_next_month_ordinal, first_of_month_ordinal, Date.ordinal, Date.SameMonth]
  constructor
  · rintro ⟨lower, upper⟩
    omega
  · rintro ⟨sameYear, sameMonth⟩
    rw [sameYear, sameMonth]
    omega

theorem first_of_month_congr (left right : Date) (same : left.SameMonth right) :
    firstOfMonth left = firstOfMonth right ∧ firstOfNextMonth left = firstOfNextMonth right := by
  obtain ⟨leftYear, leftMonth, leftDay, _, _⟩ := left
  obtain ⟨rightYear, rightMonth, rightDay, _, _⟩ := right
  obtain ⟨sameYear, sameMonth⟩ := same
  simp only at sameYear sameMonth
  subst sameYear
  subst sameMonth
  exact ⟨rfl, rfl⟩

theorem first_of_month_mono (left right : Date) (ordered : left ≤ right) : firstOfMonth left ≤ firstOfMonth right := by
  have leftDay := left.dayValid
  have rightDay := right.dayValid
  rw [Date.le_def] at ordered ⊢
  rw [first_of_month_ordinal, first_of_month_ordinal]
  rw [Date.ordinal, Date.ordinal] at ordered
  omega

theorem first_of_month_lt (left right : Date) (ordered : firstOfMonth left ≤ firstOfMonth right)
    (different : ¬ left.SameMonth right) : firstOfMonth left < firstOfMonth right := by
  have leftValid := left.monthValid
  have rightValid := right.monthValid
  rw [Date.le_def, first_of_month_ordinal, first_of_month_ordinal] at ordered
  rw [Date.lt_def, first_of_month_ordinal, first_of_month_ordinal]
  rw [Date.SameMonth] at different
  omega

theorem Date.le_trans (first second third : Date) (left : first ≤ second) (right : second ≤ third) : first ≤ third :=
  Nat.le_trans left right

end Ubb
