import Mathlib.Tactic

set_option autoImplicit false

-- The proleptic Gregorian calendar of datetime: ordinals count days from 1 on
-- the first of January of year 1.
namespace Ubb.Calendar

def isLeap (year : Nat) : Bool := year % 4 = 0 && (year % 100 ≠ 0 || year % 400 = 0)

def daysBeforeYear (year : Nat) : Nat := (year - 1) * 365 + (year - 1) / 4 - (year - 1) / 100 + (year - 1) / 400

def daysInMonth (leap : Bool) (month : Nat) : Nat :=
  match month with
  | 2 => 28 + leap.toNat
  | 4 | 6 | 9 | 11 => 30
  | _ => 31

def plainDaysBeforeMonth (month : Nat) : Nat := [0, 0, 31, 59, 90, 120, 151, 181, 212, 243, 273, 304, 334].getD month 0

def daysBeforeMonth (leap : Bool) (month : Nat) : Nat :=
  plainDaysBeforeMonth month + if 2 < month then leap.toNat else 0

def ymd2ord (year month day : Nat) : Nat := daysBeforeYear year + daysBeforeMonth (isLeap year) month + day

-- The month is estimated from the day of the year, and the estimate is never
-- more than one too large.
def monthAndDay (leap : Bool) (dayOfYear : Nat) : Nat × Nat :=
  let month := (dayOfYear + 50) / 32
  let preceding := daysBeforeMonth leap month
  if dayOfYear < preceding then (month - 1, dayOfYear - (preceding - daysInMonth leap (month - 1)) + 1)
  else (month, dayOfYear - preceding + 1)

def ord2ymd (ordinal : Nat) : Nat × Nat × Nat :=
  let days := ordinal - 1
  let n400 := days / 146097
  let n100 := days % 146097 / 36524
  let n4 := days % 146097 % 36524 / 1461
  let n1 := days % 146097 % 36524 % 1461 / 365
  let dayOfYear := days % 146097 % 36524 % 1461 % 365
  let year := n400 * 400 + 1 + (n100 * 100 + n4 * 4 + n1)
  if n1 = 4 ∨ n100 = 4 then (year - 1, 12, 31)
  else
    let monthDay := monthAndDay (n1 = 3 && (n4 ≠ 24 || n100 = 3)) dayOfYear
    (year, monthDay.1, monthDay.2)

def maxOrdinal : Nat := 3652059

structure ValidDate (year month day : Nat) : Prop where
  ofYear : 1 ≤ year ∧ year ≤ 9999
  ofMonth : 1 ≤ month ∧ month ≤ 12
  ofDay : 1 ≤ day ∧ day ≤ daysInMonth (isLeap year) month

instance (year month day : Nat) : Decidable (ValidDate year month day) :=
  decidable_of_iff ((1 ≤ year ∧ year ≤ 9999) ∧ (1 ≤ month ∧ month ≤ 12) ∧ (1 ≤ day ∧ day ≤ daysInMonth (isLeap year) month))
    ⟨fun all => ⟨all.1, all.2.1, all.2.2⟩, fun valid => ⟨valid.ofYear, valid.ofMonth, valid.ofDay⟩⟩

theorem month_and_day : ∀ leap, ∀ dayOfYear, dayOfYear < 365 →
    (1 ≤ (monthAndDay leap dayOfYear).1 ∧ (monthAndDay leap dayOfYear).1 ≤ 12) ∧
      (1 ≤ (monthAndDay leap dayOfYear).2 ∧ (monthAndDay leap dayOfYear).2 ≤ daysInMonth leap (monthAndDay leap dayOfYear).1) ∧
      daysBeforeMonth leap (monthAndDay leap dayOfYear).1 + (monthAndDay leap dayOfYear).2 = dayOfYear + 1 := by
  decide +kernel

section

variable (n400 n100 n4 n1 : Nat) (centuries : n100 ≤ 3) (quads : n4 ≤ 24) (years : n1 ≤ 3)

include centuries quads years

theorem days_before_cycles : daysBeforeYear (n400 * 400 + 1 + (n100 * 100 + n4 * 4 + n1)) =
    n400 * 146097 + n100 * 36524 + n4 * 1461 + n1 * 365 := by
  unfold daysBeforeYear
  omega

theorem leap_cycles : isLeap (n400 * 400 + 1 + (n100 * 100 + n4 * 4 + n1)) = (n1 = 3 && (n4 ≠ 24 || n100 = 3) : Bool) := by
  rw [Bool.eq_iff_iff]
  simp only [isLeap, Bool.and_eq_true, Bool.or_eq_true, decide_eq_true_eq]
  omega

end

theorem december_of_leap : daysBeforeMonth true 12 = 335 := rfl

theorem last_of_quad (n400 n100 n4 : Nat) (centuries : n100 ≤ 3) (quads : n4 ≤ 23) :
    ymd2ord (n400 * 400 + (n100 * 100 + n4 * 4 + 4)) 12 31 = n400 * 146097 + n100 * 36524 + n4 * 1461 + 1461 := by
  have leap := leap_cycles n400 n100 n4 3 centuries (by omega) le_rfl
  have before := days_before_cycles n400 n100 n4 3 centuries (by omega) le_rfl
  have same : n400 * 400 + 1 + (n100 * 100 + n4 * 4 + 3) = n400 * 400 + (n100 * 100 + n4 * 4 + 4) := by omega
  have notLast : n4 ≠ 24 := by omega
  rw [same] at leap before
  have isLeapYear : isLeap (n400 * 400 + (n100 * 100 + n4 * 4 + 4)) = true := by simp [leap, notLast]
  have month : daysBeforeMonth (isLeap (n400 * 400 + (n100 * 100 + n4 * 4 + 4))) 12 = 335 := by
    rw [isLeapYear, december_of_leap]
  unfold ymd2ord
  omega

theorem last_of_cycle (n400 : Nat) : ymd2ord (n400 * 400 + 400) 12 31 = n400 * 146097 + 146097 := by
  have leap := leap_cycles n400 3 24 3 le_rfl le_rfl le_rfl
  have before := days_before_cycles n400 3 24 3 le_rfl le_rfl le_rfl
  have same : n400 * 400 + 1 + (3 * 100 + 24 * 4 + 3) = n400 * 400 + 400 := by omega
  rw [same] at leap before
  have isLeapYear : isLeap (n400 * 400 + 400) = true := leap
  have month : daysBeforeMonth (isLeap (n400 * 400 + 400)) 12 = 335 := by rw [isLeapYear, december_of_leap]
  unfold ymd2ord
  omega

theorem december_31_valid (year : Nat) (inYears : 1 ≤ year ∧ year ≤ 9999) : ValidDate year 12 31 :=
  ⟨inYears, by decide, by simp [daysInMonth]⟩

theorem within_year (year dayOfYear : Nat) (inYears : 1 ≤ year ∧ year ≤ 9999) (inYear : dayOfYear < 365) :
    ValidDate year (monthAndDay (isLeap year) dayOfYear).1 (monthAndDay (isLeap year) dayOfYear).2 ∧
      ymd2ord year (monthAndDay (isLeap year) dayOfYear).1 (monthAndDay (isLeap year) dayOfYear).2 =
        daysBeforeYear year + dayOfYear + 1 := by
  obtain ⟨ofMonth, ofDay, total⟩ := month_and_day (isLeap year) dayOfYear inYear
  refine ⟨⟨inYears, ofMonth, ofDay⟩, ?_⟩
  unfold ymd2ord
  omega

theorem ord2ymd_valid (ordinal : Nat) (first : 1 ≤ ordinal) (last : ordinal ≤ maxOrdinal) :
    ValidDate (ord2ymd ordinal).1 (ord2ymd ordinal).2.1 (ord2ymd ordinal).2.2 ∧
      ymd2ord (ord2ymd ordinal).1 (ord2ymd ordinal).2.1 (ord2ymd ordinal).2.2 = ordinal := by
  obtain ⟨days, rfl⟩ : ∃ days, ordinal = days + 1 := ⟨ordinal - 1, by omega⟩
  unfold maxOrdinal at last
  simp only [ord2ymd, Nat.add_sub_cancel]
  generalize n400Eq : days / 146097 = n400
  generalize rest400Eq : days % 146097 = rest400
  generalize n100Eq : rest400 / 36524 = n100
  generalize rest100Eq : rest400 % 36524 = rest100
  generalize n4Eq : rest100 / 1461 = n4
  generalize rest4Eq : rest100 % 1461 = rest4
  generalize n1Eq : rest4 / 365 = n1
  generalize dayEq : rest4 % 365 = dayOfYear
  have ofDays : days = n400 * 146097 + rest400 := by omega
  have of400 : rest400 = n100 * 36524 + rest100 ∧ rest400 < 146097 ∧ rest100 < 36524 := by omega
  have of100 : rest100 = n4 * 1461 + rest4 ∧ rest4 < 1461 := by omega
  have of4 : rest4 = n1 * 365 + dayOfYear ∧ dayOfYear < 365 := by omega
  clear n400Eq rest400Eq n100Eq rest100Eq n4Eq rest4Eq n1Eq dayEq
  by_cases quadEnd : n1 = 4
  · have early : n4 ≤ 23 ∧ n100 ≤ 3 ∧ dayOfYear = 0 := by omega
    have ends := last_of_quad n400 n100 n4 early.2.1 early.1
    have year : n400 * 400 + 1 + (n100 * 100 + n4 * 4 + n1) - 1 = n400 * 400 + (n100 * 100 + n4 * 4 + 4) := by omega
    rw [if_pos (.inl quadEnd), year]
    refine ⟨december_31_valid _ (by omega), ?_⟩
    show ymd2ord (n400 * 400 + (n100 * 100 + n4 * 4 + 4)) 12 31 = days + 1
    omega
  · by_cases cycleEnd : n100 = 4
    · have early : rest100 = 0 ∧ n4 = 0 ∧ n1 = 0 := by omega
      have ends := last_of_cycle n400
      have year : n400 * 400 + 1 + (n100 * 100 + n4 * 4 + n1) - 1 = n400 * 400 + 400 := by omega
      rw [if_pos (.inr cycleEnd), year]
      refine ⟨december_31_valid _ (by omega), ?_⟩
      show ymd2ord (n400 * 400 + 400) 12 31 = days + 1
      omega
    · have bounds : n100 ≤ 3 ∧ n4 ≤ 24 ∧ n1 ≤ 3 := by omega
      have before := days_before_cycles n400 n100 n4 n1 bounds.1 bounds.2.1 bounds.2.2
      have leap := leap_cycles n400 n100 n4 n1 bounds.1 bounds.2.1 bounds.2.2
      have inYears : 1 ≤ n400 * 400 + 1 + (n100 * 100 + n4 * 4 + n1) ∧
          n400 * 400 + 1 + (n100 * 100 + n4 * 4 + n1) ≤ 9999 := by omega
      obtain ⟨valid, total⟩ := within_year _ dayOfYear inYears of4.2
      rw [leap] at valid total
      rw [if_neg (by omega)]
      refine ⟨valid, total.trans ?_⟩
      omega

theorem days_before_next (year : Nat) (positive : 1 ≤ year) :
    daysBeforeYear (year + 1) = daysBeforeYear year + (365 + (isLeap year).toNat) := by
  obtain ⟨before, rfl⟩ : ∃ before, year = before + 1 := ⟨year - 1, by omega⟩
  have fourth : (before + 1) / 4 = before / 4 + (decide ((before + 1) % 4 = 0)).toNat := by
    by_cases divides : (before + 1) % 4 = 0 <;> simp [divides] <;> omega
  have century : (before + 1) / 100 = before / 100 + (decide ((before + 1) % 100 = 0)).toNat := by
    by_cases divides : (before + 1) % 100 = 0 <;> simp [divides] <;> omega
  have cycle : (before + 1) / 400 = before / 400 + (decide ((before + 1) % 400 = 0)).toNat := by
    by_cases divides : (before + 1) % 400 = 0 <;> simp [divides] <;> omega
  have fewer : before / 100 ≤ before / 4 := by omega
  have nested : ((before + 1) % 100 = 0 → (before + 1) % 4 = 0) ∧ ((before + 1) % 400 = 0 → (before + 1) % 100 = 0) := by omega
  simp only [daysBeforeYear, isLeap, Nat.add_sub_cancel, fourth, century, cycle]
  generalize before / 4 = fourths at *
  generalize before / 100 = centuries at *
  generalize before / 400 = cycles at *
  by_cases byFour : (before + 1) % 4 = 0
  · by_cases byHundred : (before + 1) % 100 = 0
    · by_cases byFourHundred : (before + 1) % 400 = 0
      · simp [byFour, byHundred, byFourHundred]
        omega
      · simp [byFour, byHundred, byFourHundred]
        omega
    · have notCycle : (before + 1) % 400 ≠ 0 := fun divides => byHundred (nested.2 divides)
      simp [byFour, byHundred, notCycle]
      omega
  · have notCentury : (before + 1) % 100 ≠ 0 := fun divides => byFour (nested.1 divides)
    have notCycle : (before + 1) % 400 ≠ 0 := fun divides => notCentury (nested.2 divides)
    simp [byFour, notCentury, notCycle]
    omega

theorem month_ends : ∀ leap, ∀ month, month < 13 → ∀ later, later < 13 → 1 ≤ month → month < later →
    daysBeforeMonth leap month + daysInMonth leap month ≤ daysBeforeMonth leap later := by decide

theorem year_ends : ∀ leap, ∀ month, month < 13 → 1 ≤ month →
    daysBeforeMonth leap month + daysInMonth leap month ≤ 365 + leap.toNat := by decide

theorem days_before_mono (year later : Nat) (positive : 1 ≤ year) (before : year < later) :
    daysBeforeYear year + (365 + (isLeap year).toNat) ≤ daysBeforeYear later := by
  induction later, before using Nat.le_induction with
  | base => exact (days_before_next year positive).ge
  | succ later before ih => 
    rw [days_before_next later (by omega)]
    omega

theorem ymd2ord_lt (year month day laterYear laterMonth laterDay : Nat) (valid : ValidDate year month day)
    (laterValid : ValidDate laterYear laterMonth laterDay)
    (before : year < laterYear ∨ year = laterYear ∧ (month < laterMonth ∨ month = laterMonth ∧ day < laterDay)) :
    ymd2ord year month day < ymd2ord laterYear laterMonth laterDay := by
  have ofMonth := valid.ofMonth
  have ofDay := valid.ofDay
  have ofLaterMonth := laterValid.ofMonth
  have ofLaterDay := laterValid.ofDay
  unfold ymd2ord
  rcases before with years | ⟨rfl, months | ⟨rfl, days⟩⟩
  · have yearEnd := year_ends (isLeap year) month (by omega) ofMonth.1
    have later := days_before_mono year laterYear valid.ofYear.1 years
    omega
  · have monthEnd := month_ends (isLeap year) month (by omega) laterMonth (by omega) ofMonth.1 months
    omega
  · omega

end Ubb.Calendar
