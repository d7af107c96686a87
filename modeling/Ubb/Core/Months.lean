import Ubb.Core.Instants
import Ubb.Library.Outcomes

set_option autoImplicit false

-- core/time_windows.py: the calendar month a date or an instant lies in, and
-- the closed months a span reaches into.
namespace Ubb.Months

open Ubb.Calendar
open Ubb.Library

structure Day where
  year : Nat
  month : Nat
  day : Nat
  valid : ValidDate year month day

theorem Day.eq_iff (left right : Day) :
    left = right ↔ left.year = right.year ∧ left.month = right.month ∧ left.day = right.day := by
  cases left
  cases right
  simp

instance : DecidableEq Day := fun left right => decidable_of_iff' _ (Day.eq_iff left right)

def Day.monthIndex (date : Day) : Nat := date.year * 12 + (date.month - 1)

def Day.rank (date : Day) : Nat := date.monthIndex * 31 + (date.day - 1)

instance : LE Day := ⟨fun left right => left.rank ≤ right.rank⟩

instance : LT Day := ⟨fun left right => left.rank < right.rank⟩

instance (left right : Day) : Decidable (left ≤ right) := inferInstanceAs (Decidable (left.rank ≤ right.rank))

instance (left right : Day) : Decidable (left < right) := inferInstanceAs (Decidable (left.rank < right.rank))

def Day.ordinal (date : Day) : Nat := ymd2ord date.year date.month date.day

def Day.SameMonth (left right : Day) : Prop := left.year = right.year ∧ left.month = right.month

-- What datetime raises: an instant or a date moved out of its range, and a
-- replaced field that leaves it.
inductive DateError where
  | overflow
  | valueError
deriving DecidableEq, Repr

def replaceDate (year month day : Nat) : Except DateError Day :=
  if valid : ValidDate year month day then .ok ⟨year, month, day, valid⟩ else .error .valueError

def fromOrdinal (ordinal : Nat) : Except DateError Day :=
  if inRange : 1 ≤ ordinal ∧ ordinal ≤ maxOrdinal then
    .ok ⟨(ord2ymd ordinal).1, (ord2ymd ordinal).2.1, (ord2ymd ordinal).2.2, (ord2ymd_valid ordinal inRange.1 inRange.2).1⟩
  else .error .overflow

def dayBefore (date : Day) : Except DateError Day := fromOrdinal (date.ordinal - 1)

def dateOf (value : DateTime) : Day := ⟨value.year, value.month, value.day, value.date⟩

inductive AsOf where
  | date (day : Day)
  | naive (value : DateTime)
  | aware (value : Aware)
deriving DecidableEq

-- A naive datetime is read as UTC, and a date has no instant left to move.
def utcDay : AsOf → Except DateError Day
  | .date day => .ok day
  | .naive value => .ok (dateOf value)
  | .aware value =>
      match astimezoneUtc value with
      | some utc => .ok (dateOf utc)
      | none => .error .overflow

def monthBounds (asOf : AsOf) : Except DateError (Day × Day) := do
  let day ← utcDay asOf
  let start ← replaceDate day.year day.month 1
  let finish ← if day.month = 12 then replaceDate (day.year + 1) 1 1 else replaceDate day.year (day.month + 1) 1
  .ok (start, finish)

def closedFrom (last thisMonth : Day) : Nat → Day → List Day → Option (Except DateError (List Day))
  | 0, _, _ => none
  | turns + 1, month, months =>
      if month ≤ last ∧ month < thisMonth then
        match monthBounds (.date month) with
        | .ok bounds => closedFrom last thisMonth turns bounds.2 (months ++ [month])
        | .error raised => some (.error raised)
      else some (.ok months)

def spanOf (opens : AsOf) (closes : Option Day) (now : AsOf) : Except DateError (Day × Day × Day) := do
  let present ← monthBounds now
  let opening ← monthBounds opens
  match closes with
  | none => .ok (present.1, opening.1, opening.1)
  | some closing => do
      let lastDay ← dayBefore closing
      let last ← monthBounds (.date lastDay)
      .ok (present.1, opening.1, last.1)

def closedMonths (turns : Nat) (opens : AsOf) (closes : Option Day) (now : AsOf) : Option (Except DateError (List Day)) :=
  match spanOf opens closes now with
  | .ok (thisMonth, month, last) => closedFrom last thisMonth turns month []
  | .error raised => some (.error raised)

def Day.InLastMonth (date : Day) : Prop := date.year = 9999 ∧ date.month = 12

instance (date : Day) : Decidable date.InLastMonth := inferInstanceAs (Decidable (_ ∧ _))

theorem Day.le_def (left right : Day) : left ≤ right ↔ left.rank ≤ right.rank := Iff.rfl

theorem Day.lt_def (left right : Day) : left < right ↔ left.rank < right.rank := Iff.rfl

theorem day_bound (date : Day) : 1 ≤ date.day ∧ date.day ≤ 31 :=
  ⟨date.valid.ofDay.1, date.valid.ofDay.2.trans (days_in_month_le _ _)⟩

theorem ordinal_lt (early late : Day) (before : early < late) : early.ordinal < late.ordinal := by
  have earlyMonth := early.valid.ofMonth
  have lateMonth := late.valid.ofMonth
  have earlyDay := day_bound early
  have lateDay := day_bound late
  rw [Day.lt_def, Day.rank, Day.rank, Day.monthIndex, Day.monthIndex] at before
  apply ymd2ord_lt _ _ _ _ _ _ early.valid late.valid
  omega

theorem lt_of_ordinal (early late : Day) (before : early.ordinal < late.ordinal) : early < late := by
  by_contra notBefore
  have other : late ≤ early := Nat.le_of_not_lt notBefore
  rcases Nat.lt_or_eq_of_le other with later | same
  · exact absurd (ordinal_lt late early later) (Nat.not_lt_of_lt before)
  · have earlyMonth := early.valid.ofMonth
    have lateMonth := late.valid.ofMonth
    have earlyDay := day_bound early
    have lateDay := day_bound late
    rw [Day.rank, Day.rank, Day.monthIndex, Day.monthIndex] at same
    have fields : early.year = late.year ∧ early.month = late.month ∧ early.day = late.day := by omega
    rw [Day.ordinal, Day.ordinal, fields.1, fields.2.1, fields.2.2] at before
    exact absurd before (lt_irrefl _)

theorem same_month_iff (left right : Day) : left.SameMonth right ↔ left.monthIndex = right.monthIndex := by
  have leftMonth := left.valid.ofMonth
  have rightMonth := right.valid.ofMonth
  unfold Day.SameMonth Day.monthIndex
  omega

theorem month_index_mono (early late : Day) (ordered : early ≤ late) : early.monthIndex ≤ late.monthIndex := by
  have earlyDay := day_bound early
  have lateDay := day_bound late
  rw [Day.le_def, Day.rank, Day.rank] at ordered
  omega

theorem lt_of_month_index (early late : Day) (before : early.monthIndex < late.monthIndex) : early < late := by
  have earlyDay := day_bound early
  have lateDay := day_bound late
  rw [Day.lt_def, Day.rank, Day.rank]
  omega

theorem first_le (month date : Day) (first : month.day = 1) (ordered : month.monthIndex ≤ date.monthIndex) : month ≤ date := by
  have dateDay := day_bound date
  rw [Day.le_def, Day.rank, Day.rank]
  omega

theorem first_unique (left right : Day) (leftFirst : left.day = 1) (rightFirst : right.day = 1)
    (same : left.monthIndex = right.monthIndex) : left = right := by
  have month := (same_month_iff left right).mpr same
  obtain ⟨leftYear, leftMonth, leftDay, leftValid⟩ := left
  obtain ⟨rightYear, rightMonth, rightDay, rightValid⟩ := right
  obtain ⟨rfl, rfl⟩ := month
  simp only at leftFirst rightFirst
  subst leftFirst
  subst rightFirst
  rfl

theorem first_valid (year month : Nat) (ofYear : 1 ≤ year ∧ year ≤ 9999) (ofMonth : 1 ≤ month ∧ month ≤ 12) :
    ValidDate year month 1 := by
  refine ⟨ofYear, ofMonth, le_rfl, ?_⟩
  unfold daysInMonth
  split <;> omega

theorem replace_ok (year month day : Nat) (valid : ValidDate year month day) :
    replaceDate year month day = .ok ⟨year, month, day, valid⟩ := dif_pos valid

theorem replace_refused (year month day : Nat) (invalid : ¬ValidDate year month day) :
    replaceDate year month day = .error .valueError := dif_neg invalid

theorem month_bounds_ok (asOf : AsOf) (day : Day) (read : utcDay asOf = .ok day) (ends : ¬day.InLastMonth) :
    ∃ start finish, monthBounds asOf = .ok (start, finish) ∧ start.day = 1 ∧ start.monthIndex = day.monthIndex ∧
      finish.day = 1 ∧ finish.monthIndex = day.monthIndex + 1 := by
  have ofYear := day.valid.ofYear
  have ofMonth := day.valid.ofMonth
  have start := first_valid day.year day.month ofYear ofMonth
  have started := replace_ok day.year day.month 1 start
  by_cases twelfth : day.month = 12
  · have inYears : day.year + 1 ≤ 9999 := by
      by_contra past
      exact ends ⟨by omega, twelfth⟩
    have january := first_valid (day.year + 1) 1 ⟨by omega, inYears⟩ ⟨le_rfl, by omega⟩
    refine ⟨⟨_, _, _, start⟩, ⟨_, _, _, january⟩, ?_, rfl, rfl, rfl, ?_⟩
    · rw [monthBounds, read, ok_bind, started, ok_bind, if_pos twelfth, replace_ok _ _ _ january, ok_bind]
    · simp only [Day.monthIndex]
      omega
  · have next := first_valid day.year (day.month + 1) ofYear ⟨by omega, by omega⟩
    refine ⟨⟨_, _, _, start⟩, ⟨_, _, _, next⟩, ?_, rfl, rfl, rfl, ?_⟩
    · rw [monthBounds, read, ok_bind, started, ok_bind, if_neg twelfth, replace_ok _ _ _ next, ok_bind]
    · simp only [Day.monthIndex]
      omega

theorem month_bounds_last (asOf : AsOf) (day : Day) (read : utcDay asOf = .ok day) (last : day.InLastMonth) :
    monthBounds asOf = .error .valueError := by
  have started := replace_ok day.year day.month 1 (first_valid _ _ day.valid.ofYear day.valid.ofMonth)
  have refused : replaceDate (day.year + 1) 1 1 = .error .valueError := by
    apply replace_refused
    intro valid
    have inYears := valid.ofYear
    have year := last.1
    omega
  rw [monthBounds, read, ok_bind, started, ok_bind, if_pos last.2, refused]
  rfl

theorem day_before_of (closing last : Day) (before : dayBefore closing = .ok last) :
    last < closing ∧ ∀ day, day < closing → day ≤ last := by
  unfold dayBefore fromOrdinal at before
  split at before
  · rename_i inRange
    have read := (ord2ymd_valid _ inRange.1 inRange.2).2
    obtain rfl := Except.ok.inj before
    have ordinal : Day.ordinal ⟨_, _, _, (ord2ymd_valid _ inRange.1 inRange.2).1⟩ = closing.ordinal - 1 := read
    refine ⟨lt_of_ordinal _ _ (by omega), ?_⟩
    intro day earlier
    have order := ordinal_lt day closing earlier
    by_contra past
    have later := ordinal_lt _ _ (Nat.lt_of_not_le past)
    omega
  · cases before

def lastDate : Day := ⟨9999, 12, 31, december_31_valid 9999 (by omega)⟩

theorem ordinal_range (date : Day) : 1 ≤ date.ordinal ∧ date.ordinal ≤ maxOrdinal := by
  have ofDay := date.valid.ofDay
  refine ⟨?_, ?_⟩
  · unfold Day.ordinal ymd2ord
    omega
  · have lastOrdinal : lastDate.ordinal = maxOrdinal := by decide
    by_contra past
    have after := lt_of_ordinal lastDate date (by omega)
    have bound := day_bound date
    have ofYear := date.valid.ofYear
    have ofMonth := date.valid.ofMonth
    simp only [Day.lt_def, Day.rank, Day.monthIndex, lastDate] at after
    omega

theorem day_before_ok (opened closing : Day) (later : opened < closing) : ∃ last, dayBefore closing = .ok last := by
  have order := ordinal_lt opened closing later
  have first := (ordinal_range opened).1
  have last := (ordinal_range closing).2
  exact ⟨_, dif_pos ⟨by omega, by omega⟩⟩

theorem first_le_iff (month last : Day) (first : month.day = 1) : month ≤ last ↔ month.monthIndex ≤ last.monthIndex :=
  ⟨month_index_mono month last, first_le month last first⟩

theorem lt_first_iff (month start : Day) (first : start.day = 1) : month < start ↔ month.monthIndex < start.monthIndex := by
  refine ⟨?_, lt_of_month_index month start⟩
  intro before
  by_contra notBefore
  exact absurd before (Nat.not_lt_of_le (first_le start month first (Nat.le_of_not_lt notBefore)))

theorem closed_from_lists (last thisMonth : Day) (thisFirst : thisMonth.day = 1) (turns : Nat) (month : Day)
    (months : List Day) (first : month.day = 1) (going : 0 < turns) (enough : thisMonth.monthIndex < month.monthIndex + turns) :
    ∃ found, closedFrom last thisMonth turns month months = some (.ok (months ++ found)) ∧ found.Pairwise (· < ·) ∧
      ∀ other, other ∈ found ↔ other.day = 1 ∧ month.monthIndex ≤ other.monthIndex ∧
        other.monthIndex ≤ last.monthIndex ∧ other.monthIndex < thisMonth.monthIndex := by
  induction turns generalizing month months with
  | zero => omega
  | succ turns ih =>
    by_cases inside : month ≤ last ∧ month < thisMonth
    · have reached := (first_le_iff month last first).mp inside.1
      have closed := (lt_first_iff month thisMonth thisFirst).mp inside.2
      have ends : ¬month.InLastMonth := by
        rintro ⟨year, twelfth⟩
        have inYears := thisMonth.valid.ofYear
        have inMonths := thisMonth.valid.ofMonth
        unfold Day.monthIndex at closed
        omega
      obtain ⟨start, next, bounds, _, _, nextFirst, nextIndex⟩ := month_bounds_ok (.date month) month rfl ends
      obtain ⟨found, ran, sorted, members⟩ := ih next (months ++ [month]) nextFirst (by omega) (by omega)
      refine ⟨month :: found, ?_, ?_, ?_⟩
      · rw [closedFrom, if_pos inside, bounds]
        simpa using ran
      · rw [List.pairwise_cons]
        refine ⟨?_, sorted⟩
        intro other member
        exact lt_of_month_index month other (by have := ((members other).mp member).2.1; omega)
      · intro other
        rw [List.mem_cons, members]
        constructor
        · rintro (rfl | ⟨otherFirst, later⟩)
          · exact ⟨first, le_rfl, reached, closed⟩
          · exact ⟨otherFirst, by omega, later.2⟩
        · rintro ⟨otherFirst, from_, within⟩
          by_cases same : other.monthIndex = month.monthIndex
          · exact .inl (first_unique other month otherFirst first same)
          · exact .inr ⟨otherFirst, by omega, within⟩
    · refine ⟨[], by rw [closedFrom, if_neg inside, List.append_nil], List.Pairwise.nil, ?_⟩
      intro other
      rw [first_le_iff month last first, lt_first_iff month thisMonth thisFirst] at inside
      simp only [List.not_mem_nil, false_iff]
      omega

def Covers (opened : Day) (closes : Option Day) (day : Day) : Prop :=
  day = opened ∨ ∃ closing, closes = some closing ∧ opened ≤ day ∧ day < closing

def EndsBefore (month present : Day) : Prop :=
  ∀ day : Day, day.SameMonth month → ∀ start : Day, start.SameMonth present → day < start

structure Enumerates (months : List Day) (opened : Day) (closes : Option Day) (present : Day) : Prop where
  oldestFirst : months.Pairwise (· < ·)
  exactly : ∀ month, month ∈ months ↔
    month.day = 1 ∧ (∃ day, day.SameMonth month ∧ Covers opened closes day) ∧ EndsBefore month present

def EndsInRange (asOf : AsOf) : Prop := ∃ day, utcDay asOf = .ok day ∧ ¬day.InLastMonth

structure MonthsEnd (opens : AsOf) (closes : Option Day) (now : AsOf) : Prop where
  opening : EndsInRange opens
  present : EndsInRange now
  closing : ∀ closing, closes = some closing → closing.InLastMonth → closing.day = 1

theorem ends_before_iff (month present : Day) : EndsBefore month present ↔ month.monthIndex < present.monthIndex := by
  constructor
  · intro ends
    by_contra notBefore
    have own : month.SameMonth month := ⟨rfl, rfl⟩
    have before := ends month own present ⟨rfl, rfl⟩
    by_cases same : month.monthIndex = present.monthIndex
    · exact absurd (ends month own month ((same_month_iff month present).mpr same)) (lt_irrefl month.rank)
    · exact absurd before (Nat.not_lt_of_lt (lt_of_month_index present month (by omega)))
  · intro before day inMonth start inPresent
    rw [same_month_iff] at inMonth inPresent
    exact lt_of_month_index day start (by omega)

theorem covered_months (opened last : Day) (closes : Option Day) (month : Day) (first : month.day = 1)
    (alone : closes = none → last = opened)
    (until_ : ∀ closing, closes = some closing → opened < closing ∧ last < closing ∧ ∀ day, day < closing → day ≤ last) :
    (∃ day, day.SameMonth month ∧ Covers opened closes day) ↔
      opened.monthIndex ≤ month.monthIndex ∧ month.monthIndex ≤ last.monthIndex := by
  have openedLast : opened ≤ last := by
    cases closed : closes with
    | none => exact (alone closed) ▸ Nat.le_refl _
    | some closing => exact (until_ closing closed).2.2 opened (until_ closing closed).1
  have openedIndex := month_index_mono opened last openedLast
  constructor
  · rintro ⟨day, inMonth, rfl | ⟨closing, closed, after, before⟩⟩
    · rw [same_month_iff] at inMonth
      omega
    · have lower := month_index_mono opened day after
      have upper := month_index_mono day last ((until_ closing closed).2.2 day before)
      rw [same_month_iff] at inMonth
      omega
  · rintro ⟨lower, upper⟩
    by_cases same : opened.monthIndex = month.monthIndex
    · exact ⟨opened, (same_month_iff opened month).mpr same, .inl rfl⟩
    · refine ⟨month, ⟨rfl, rfl⟩, .inr ?_⟩
      have after := lt_of_month_index opened month (by omega)
      cases closed : closes with
      | none =>
        rw [alone closed] at upper
        omega
      | some closing =>
        have onOrBefore := first_le month last first upper
        exact ⟨closing, rfl, Nat.le_of_lt after, Nat.lt_of_le_of_lt onOrBefore (until_ closing closed).2.1⟩

theorem span_ok (opens : AsOf) (closes : Option Day) (now : AsOf) (opened present : Day) (opening : utcDay opens = .ok opened)
    (presently : utcDay now = .ok present) (ends : MonthsEnd opens closes now)
    (later : ∀ closing, closes = some closing → opened < closing) :
    ∃ thisMonth month last, ∃ lastDay : Day, spanOf opens closes now = .ok (thisMonth, month, last) ∧
      (thisMonth.day = 1 ∧ thisMonth.monthIndex = present.monthIndex) ∧
      (month.day = 1 ∧ month.monthIndex = opened.monthIndex) ∧ last.monthIndex = lastDay.monthIndex ∧
      (closes = none → lastDay = opened) ∧
      ∀ closing, closes = some closing → opened < closing ∧ lastDay < closing ∧ ∀ day, day < closing → day ≤ lastDay := by
  have openingEnds : ¬opened.InLastMonth := by
    obtain ⟨day, read, ended⟩ := ends.opening
    exact Except.ok.inj (opening.symm.trans read) ▸ ended
  have presentEnds : ¬present.InLastMonth := by
    obtain ⟨day, read, ended⟩ := ends.present
    exact Except.ok.inj (presently.symm.trans read) ▸ ended
  obtain ⟨thisMonth, _, thisBounds, thisFirst, thisIndex, _⟩ := month_bounds_ok now present presently presentEnds
  obtain ⟨month, _, bounds, first, index, _⟩ := month_bounds_ok opens opened opening openingEnds
  cases closed : closes with
  | none =>
    refine ⟨thisMonth, month, month, opened, ?_, ⟨thisFirst, thisIndex⟩, ⟨first, index⟩, index, fun _ => rfl, ?_⟩
    · rw [spanOf, thisBounds, ok_bind, bounds, ok_bind]
    · rintro closing ⟨⟩
  | some closing =>
    have after := later closing closed
    obtain ⟨lastDay, before⟩ := day_before_ok opened closing after
    obtain ⟨earlier, all⟩ := day_before_of closing lastDay before
    have lastEnds : ¬lastDay.InLastMonth := by
      rintro ⟨year, twelfth⟩
      have inYears := closing.valid.ofYear
      have inMonths := closing.valid.ofMonth
      have days := day_bound closing
      have lastDays := day_bound lastDay
      rw [Day.lt_def, Day.rank, Day.rank, Day.monthIndex, Day.monthIndex] at earlier
      have firstDay := ends.closing closing closed ⟨by omega, by omega⟩
      omega
    obtain ⟨last, _, lastBounds, _, lastIndex, _⟩ := month_bounds_ok (.date lastDay) lastDay rfl lastEnds
    refine ⟨thisMonth, month, last, lastDay, ?_, ⟨thisFirst, thisIndex⟩, ⟨first, index⟩, lastIndex, nofun, ?_⟩
    · rw [spanOf, thisBounds, ok_bind, bounds, ok_bind]
      simp only [before, lastBounds, ok_bind]
    · rintro other ⟨⟩
      exact ⟨after, earlier, all⟩

theorem bounds_end (asOf : AsOf) (bounds : Day × Day) (read : monthBounds asOf = .ok bounds) : EndsInRange asOf := by
  cases moved : utcDay asOf with
  | error raised =>
    rw [monthBounds, moved] at read
    cases read
  | ok day =>
    refine ⟨day, moved, ?_⟩
    intro last
    rw [month_bounds_last asOf day moved last] at read
    cases read

theorem span_ends (opens : AsOf) (closes : Option Day) (now : AsOf) (span : Day × Day × Day)
    (read : spanOf opens closes now = .ok span) : MonthsEnd opens closes now := by
  obtain ⟨thisBounds, presently, rest⟩ := (bind_eq_ok _ _ _).mp read
  obtain ⟨bounds, opening, rest⟩ := (bind_eq_ok _ _ _).mp rest
  refine ⟨bounds_end opens bounds opening, bounds_end now thisBounds presently, ?_⟩
  rintro closing rfl ⟨year, twelfth⟩
  obtain ⟨lastDay, before, rest⟩ := (bind_eq_ok _ _ _).mp rest
  obtain ⟨lastBounds, lastRead, _⟩ := (bind_eq_ok _ _ _).mp rest
  obtain ⟨day, same, ends⟩ := bounds_end (.date lastDay) lastBounds lastRead
  obtain rfl := Except.ok.inj same
  by_contra notFirst
  -- The first of December 9999 is before the close, so the last day is in it.
  have days := day_bound closing
  have december : Day.mk 9999 12 1 (first_valid 9999 12 (by omega) (by omega)) ≤ lastDay := by
    apply (day_before_of closing lastDay before).2
    simp only [Day.lt_def, Day.rank, Day.monthIndex, year, twelfth]
    omega
  have index := month_index_mono _ _ december
  have inYears := lastDay.valid.ofYear
  have inMonths := lastDay.valid.ofMonth
  simp only [Day.monthIndex] at index
  exact ends ⟨by omega, by omega⟩

theorem closed_months_enumerated_iff (opens : AsOf) (closes : Option Day) (now : AsOf)
    (later : ∀ opened closing, utcDay opens = .ok opened → closes = some closing → opened < closing) :
    (∃ turns months opened present, closedMonths turns opens closes now = some (.ok months) ∧
      utcDay opens = .ok opened ∧ utcDay now = .ok present ∧ Enumerates months opened closes present) ↔
        MonthsEnd opens closes now := by
  constructor
  · rintro ⟨turns, months, _, _, ran, _, _, _⟩
    rw [closedMonths] at ran
    split at ran
    · rename_i read
      exact span_ends opens closes now _ read
    · cases ran
  · intro ends
    obtain ⟨opened, opening, _⟩ := ends.opening
    obtain ⟨present, presently, _⟩ := ends.present
    obtain ⟨thisMonth, month, last, lastDay, read, ⟨thisFirst, thisIndex⟩, ⟨first, index⟩, lastIndex, alone, until_⟩ :=
      span_ok opens closes now opened present opening presently ends (fun closing => later opened closing opening)
    obtain ⟨found, ran, sorted, members⟩ :=
      closed_from_lists last thisMonth thisFirst (thisMonth.monthIndex + 1) month [] first (by omega) (by omega)
    refine ⟨thisMonth.monthIndex + 1, found, opened, present, ?_, opening, presently, sorted, ?_⟩
    · rw [closedMonths, read]
      exact ran
    · intro other
      rw [members, ends_before_iff]
      constructor
      · rintro ⟨otherFirst, lower, upper, before⟩
        exact ⟨otherFirst, (covered_months opened lastDay closes other otherFirst alone until_).mpr ⟨by omega, by omega⟩, by omega⟩
      · rintro ⟨otherFirst, covered, before⟩
        obtain ⟨lower, upper⟩ := (covered_months opened lastDay closes other otherFirst alone until_).mp covered
        exact ⟨otherFirst, by omega, by omega, by omega⟩

def octoberOpening : Day := ⟨2025, 10, 15, by decide⟩

def januaryClose : Day := ⟨2026, 1, 1, by decide⟩

def augustInstant : AsOf := .aware (utcOf ⟨2026, 8, 15, 12, 0, 0, 0, by decide, by decide⟩)

theorem quarter_enumerated :
    ∃ turns months opened present, closedMonths turns (.date octoberOpening) (some januaryClose) augustInstant = some (.ok months) ∧
      utcDay (.date octoberOpening) = .ok opened ∧ utcDay augustInstant = .ok present ∧
        Enumerates months opened (some januaryClose) present := by
  refine (closed_months_enumerated_iff (.date octoberOpening) (some januaryClose) augustInstant ?_).mpr ?_
  · rintro opened closing ⟨⟩ ⟨⟩
    decide
  · refine ⟨⟨octoberOpening, rfl, by decide⟩, ⟨⟨2026, 8, 15, by decide⟩, rfl, by decide⟩, ?_⟩
    rintro closing ⟨⟩
    decide

example : closedMonths 4 (.date octoberOpening) (some januaryClose) augustInstant =
    some (.ok [⟨2025, 10, 1, by decide⟩, ⟨2025, 11, 1, by decide⟩, ⟨2025, 12, 1, by decide⟩]) := by decide +kernel

-- A record whose period ends on date.max: the month before its close has no
-- exclusive end to compute, and no month is named.
theorem open_ended_span_raises :
    octoberOpening < lastDate ∧
      ¬∃ turns months opened present, closedMonths turns (.date octoberOpening) (some lastDate) augustInstant = some (.ok months) ∧
        utcDay (.date octoberOpening) = .ok opened ∧ utcDay augustInstant = .ok present ∧
          Enumerates months opened (some lastDate) present := by
  have raised : spanOf (.date octoberOpening) (some lastDate) augustInstant = .error .valueError := by decide +kernel
  refine ⟨by decide, ?_⟩
  rintro ⟨turns, months, _, _, ran, _, _, _⟩
  rw [closedMonths, raised] at ran
  cases ran

end Ubb.Months
