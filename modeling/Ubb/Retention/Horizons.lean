import Ubb.Core.Months
import Ubb.Library.Outcomes

set_option autoImplicit false

-- core/retention.py: the earliest day each of the platform's two clocks still
-- answers for.
namespace Ubb.Retention

open Ubb.Calendar
open Ubb.Library
open Ubb.Months

def economicRetentionYears : Nat := 6

inductive HorizonError where
  | improperlyConfigured
  | date (error : DateError)
deriving DecidableEq, Repr

structure RetentionHorizons where
  economic : Day
  measurement : Day

-- A leap day falls forward, on the day that claims less history.
def yearsBefore (day : Day) (years : Nat) : Except DateError Day :=
  match replaceDate (day.year - years) day.month day.day with
  | .ok same => .ok same
  | .error _ => replaceDate (day.year - years) 3 1

def laterOf (first second : Day) : Day := if first < second then second else first

-- Of the day it is given and the one setting. A clock below zero is read as
-- zero, and the shorter clock never claims more than the longer one.
def retentionHorizons (measurementRetentionDays : Option Int) (asOf : Day) : Except HorizonError RetentionHorizons := do
  let economic ← (yearsBefore asOf economicRetentionYears).mapError .date
  match measurementRetentionDays with
  | none => .error .improperlyConfigured
  | some days => do
      let shorter ← (fromOrdinal (asOf.ordinal - (max days 0).toNat)).mapError .date
      pure ⟨economic, laterOf economic shorter⟩

theorem years_before_cases (day before : Day) (years : Nat) (answered : yearsBefore day years = .ok before) :
    1 ≤ day.year - years ∧ before.year = day.year - years ∧
      ((before.month = day.month ∧ before.day = day.day) ∨ (day.month = 2 ∧ day.day = 29 ∧ before.month = 3 ∧ before.day = 1 ∧
        ¬ValidDate (day.year - years) day.month day.day)) := by
  rw [yearsBefore] at answered
  by_cases same : ValidDate (day.year - years) day.month day.day
  · rw [replace_ok _ _ _ same] at answered
    cases answered
    exact ⟨same.ofYear.1, rfl, .inl ⟨rfl, rfl⟩⟩
  · rw [replace_refused _ _ _ same] at answered
    dsimp only at answered
    by_cases march : ValidDate (day.year - years) 3 1
    · rw [replace_ok _ _ _ march] at answered
      cases answered
      refine ⟨march.ofYear.1, rfl, .inr ?_⟩
      have long : daysInMonth (isLeap (day.year - years)) day.month < day.day := by
        by_contra short
        exact same ⟨march.ofYear, day.valid.ofMonth, day.valid.ofDay.1, Nat.le_of_not_lt short⟩
      have fits := day.valid.ofDay.2
      by_cases february : day.month = 2
      · rw [february] at long fits
        have little := Bool.toNat_le (isLeap day.year)
        simp only [daysInMonth] at long fits
        exact ⟨february, by omega, rfl, rfl, same⟩
      · have alike : ∀ leap, daysInMonth leap day.month = daysInMonth (isLeap day.year) day.month := by
          intro leap
          unfold daysInMonth
          split <;> first | rfl | exact absurd ‹_› february
        rw [alike] at long
        exact absurd fits (Nat.not_le_of_lt long)
    · rw [replace_refused _ _ _ march] at answered
      cases answered

theorem years_before_mono (early late earlyBefore lateBefore : Day) (years : Nat) (ordered : early ≤ late)
    (earlyAnswered : yearsBefore early years = .ok earlyBefore) (lateAnswered : yearsBefore late years = .ok lateBefore) :
    earlyBefore ≤ lateBefore := by
  obtain ⟨earlyInside, earlyYear, earlyCase⟩ := years_before_cases early earlyBefore years earlyAnswered
  obtain ⟨lateInside, lateYear, lateCase⟩ := years_before_cases late lateBefore years lateAnswered
  have earlyMonth := early.valid.ofMonth
  have lateMonth := late.valid.ofMonth
  have earlyDay := day_bound early
  have lateDay := day_bound late
  rw [Day.le_def, Day.rank, Day.rank, Day.monthIndex, Day.monthIndex] at ordered ⊢
  rcases earlyCase with ⟨sameMonth, sameDay⟩ | ⟨february, leap, march, first, gone⟩
  · rcases lateCase with ⟨lateSameMonth, lateSameDay⟩ | ⟨lateFebruary, lateLeap, lateMarch, lateFirst, _⟩
    · rw [earlyYear, sameMonth, sameDay, lateYear, lateSameMonth, lateSameDay]
      omega
    · rw [earlyYear, sameMonth, sameDay, lateYear, lateMarch, lateFirst]
      omega
  · rcases lateCase with ⟨lateSameMonth, lateSameDay⟩ | ⟨lateFebruary, lateLeap, lateMarch, lateFirst, _⟩
    · rw [earlyYear, march, first, lateYear, lateSameMonth, lateSameDay]
      have unlike : ¬(late.year = early.year ∧ late.month = 2 ∧ late.day = 29) := by
        rintro ⟨sameYear, lateFebruary, lateLeap⟩
        have valid := lateBefore.valid
        rw [lateYear, lateSameMonth, lateSameDay, sameYear, lateFebruary, lateLeap, ← february, ← leap] at valid
        exact gone valid
      have short : late.month = 2 → late.day ≤ 29 := by
        intro lateFebruary
        have fits := late.valid.ofDay.2
        have little := Bool.toNat_le (isLeap late.year)
        rw [lateFebruary] at fits
        simp only [daysInMonth] at fits
        omega
      omega
    · rw [earlyYear, march, first, lateYear, lateMarch, lateFirst]
      omega

theorem from_ordinal_ok (ordinal : Nat) (day : Day) (answered : fromOrdinal ordinal = .ok day) : day.ordinal = ordinal := by
  rw [fromOrdinal] at answered
  split at answered
  · rename_i inRange
    cases answered
    exact (ord2ymd_valid ordinal inRange.1 inRange.2).2
  · cases answered

theorem le_of_ordinal (early late : Day) (ordered : early.ordinal ≤ late.ordinal) : early ≤ late := by
  by_contra later
  exact absurd ordered (Nat.not_le_of_lt (ordinal_lt late early (Nat.lt_of_not_le later)))

theorem ordinal_mono (early late : Day) (ordered : early ≤ late) : early.ordinal ≤ late.ordinal := by
  by_contra later
  exact absurd ordered (Nat.not_le_of_lt (lt_of_ordinal late early (Nat.lt_of_not_le later)))

theorem later_of_rank (first second : Day) : (laterOf first second).rank = max first.rank second.rank := by
  rw [laterOf]
  split
  · rename_i before
    exact (max_eq_right (Nat.le_of_lt before)).symm
  · rename_i notBefore
    exact (max_eq_left (Nat.le_of_not_lt notBefore)).symm

theorem horizons_ok (setting : Option Int) (asOf : Day) (horizons : RetentionHorizons)
    (answered : retentionHorizons setting asOf = .ok horizons) :
    ∃ days shorter, setting = some days ∧ yearsBefore asOf economicRetentionYears = .ok horizons.economic ∧
      fromOrdinal (asOf.ordinal - (max days 0).toNat) = .ok shorter ∧
      horizons.measurement = laterOf horizons.economic shorter := by
  rw [retentionHorizons, bind_eq_ok] at answered
  obtain ⟨economic, years, rest⟩ := answered
  rw [map_error_eq_ok] at years
  cases setting with
  | none => cases rest
  | some days =>
    simp only [bind_eq_ok, map_error_eq_ok, pure_eq_ok] at rest
    obtain ⟨shorter, back, same⟩ := rest
    subst same
    exact ⟨days, shorter, rfl, years, back, rfl⟩

theorem horizons_mono (setting : Option Int) (early late : Day) (earlier later : RetentionHorizons) (ordered : early ≤ late)
    (earlyAnswered : retentionHorizons setting early = .ok earlier) (lateAnswered : retentionHorizons setting late = .ok later) :
    earlier.economic ≤ later.economic ∧ earlier.measurement ≤ later.measurement := by
  obtain ⟨days, earlyShorter, rfl, earlyYears, earlyBack, earlyBoth⟩ := horizons_ok setting early earlier earlyAnswered
  obtain ⟨_, lateShorter, same, lateYears, lateBack, lateBoth⟩ := horizons_ok (some days) late later lateAnswered
  cases same
  have economic := years_before_mono early late _ _ _ ordered earlyYears lateYears
  have shorter : earlyShorter ≤ lateShorter := by
    apply le_of_ordinal
    rw [from_ordinal_ok _ _ earlyBack, from_ordinal_ok _ _ lateBack]
    exact Nat.sub_le_sub_right (ordinal_mono early late ordered) _
  refine ⟨economic, ?_⟩
  rw [earlyBoth, lateBoth, Day.le_def, later_of_rank, later_of_rank]
  exact max_le_max economic shorter

end Ubb.Retention
