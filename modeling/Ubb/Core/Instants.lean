import Ubb.Core.Calendar
import Ubb.Library.Digits

set_option autoImplicit false

-- datetime values, the instants they denote, and their ISO 8601 text.
namespace Ubb

open Ubb.Calendar
open Ubb.Library

structure ValidTime (hour minute second microsecond : Nat) : Prop where
  ofHour : hour < 24
  ofMinute : minute < 60
  ofSecond : second < 60
  ofMicrosecond : microsecond < 1000000

instance (hour minute second microsecond : Nat) : Decidable (ValidTime hour minute second microsecond) :=
  decidable_of_iff (hour < 24 ∧ minute < 60 ∧ second < 60 ∧ microsecond < 1000000)
    ⟨fun all => ⟨all.1, all.2.1, all.2.2.1, all.2.2.2⟩,
      fun valid => ⟨valid.ofHour, valid.ofMinute, valid.ofSecond, valid.ofMicrosecond⟩⟩

structure DateTime where
  year : Nat
  month : Nat
  day : Nat
  hour : Nat
  minute : Nat
  second : Nat
  microsecond : Nat
  date : ValidDate year month day
  time : ValidTime hour minute second microsecond
deriving DecidableEq

def dayMicros : Nat := 86400000000

-- The constructor refuses what is no date or no time.
def dateTime (date : Nat × Nat × Nat) (hour minute second microsecond : Nat) : Option DateTime :=
  if valid : ValidDate date.1 date.2.1 date.2.2 ∧ ValidTime hour minute second microsecond then
    some ⟨date.1, date.2.1, date.2.2, hour, minute, second, microsecond, valid.1, valid.2⟩
  else none

def DateTime.micros (value : DateTime) : Nat :=
  ymd2ord value.year value.month value.day * dayMicros +
    (((value.hour * 60 + value.minute) * 60 + value.second) * 1000000 + value.microsecond)

def ofMicros (micros : Int) : Option DateTime :=
  let days := micros / dayMicros
  let rest := (micros % dayMicros).toNat
  if 0 < days ∧ days ≤ maxOrdinal then
    dateTime (ord2ymd days.toNat) (rest / 3600000000) (rest / 60000000 % 60) (rest / 1000000 % 60) (rest % 1000000)
  else none

structure Aware where
  naive : DateTime
  offset : Int
  bounded : -(dayMicros : Int) < offset ∧ offset < dayMicros
deriving DecidableEq

def Aware.instant (value : Aware) : Int := value.naive.micros - value.offset

def utcOf (naive : DateTime) : Aware := ⟨naive, 0, by decide⟩

def astimezoneUtc (value : Aware) : Option DateTime := ofMicros value.instant

def decimal (width number : Nat) : List Char := writeNumber decimalChar 10 width number

-- isoformat(timespec="microseconds") of a value in UTC.
def isoformat (value : DateTime) : List Char :=
  decimal 4 value.year ++ '-' :: (decimal 2 value.month ++ '-' :: (decimal 2 value.day ++ 'T' ::
    (decimal 2 value.hour ++ ':' :: (decimal 2 value.minute ++ ':' :: (decimal 2 value.second ++ '.' ::
      (decimal 6 value.microsecond ++ "+00:00".toList))))))

def field (width : Nat) (text : List Char) : Option (Nat × List Char) :=
  if width ≤ text.length then (readNumber decimalValue 10 (text.take width)).map (fun number => (number, text.drop width))
  else none

def parseDate (text : List Char) : Option ((Nat × Nat × Nat) × List Char) := do
  let (year, afterYear) ← field 4 text
  let dashed := afterYear.head? = some '-'
  let (month, afterMonth) ← field 2 (if dashed then afterYear.drop 1 else afterYear)
  if (afterMonth.head? = some '-') ≠ dashed then none
  else do
    let (day, rest) ← field 2 (if dashed then afterMonth.drop 1 else afterMonth)
    some ((year, month, day), rest)

-- The Monday of the week that holds the year's first Thursday.
def isoweek1monday (year : Nat) : Int :=
  let firstday : Int := ymd2ord year 1 1
  let firstweekday := (firstday + 6) % 7
  if 3 < firstweekday then firstday - firstweekday + 7 else firstday - firstweekday

def isoweekToGregorian (year week day : Nat) : Option (Nat × Nat × Nat) :=
  let firstWeekday := ymd2ord year 1 1 % 7
  let weeks := if firstWeekday = 4 ∨ (firstWeekday = 3 ∧ isLeap year) then 53 else 52
  if 1 ≤ year ∧ year ≤ 9999 ∧ 1 ≤ week ∧ week ≤ weeks ∧ 1 ≤ day ∧ day ≤ 7 then
    some (ord2ymd (isoweek1monday year + ((week - 1) * 7 + (day - 1) : Nat)).toNat)
  else none

def isDecimal (character : Char) : Bool := (decimalValue character).isSome

-- Where the date ends when it is a week's: a digit may separate it from the
-- time, so the digits after the week decide.
def weekSeparator (text : List Char) : Option Nat :=
  if text.length = 7 then some 7
  else if text[4]? = some '-' then
    if text[8]? = some '-' then
      if text.length = 9 then none
      else if text[10]?.any isDecimal then some 8
      else some 10
    else some 8
  else
    let stop := 7 + ((text.drop 7).takeWhile isDecimal).length
    if stop < 9 then some stop else if stop % 2 = 0 then some 7 else some 8

def isWeekDate (text : List Char) : Bool :=
  let afterYear := text.drop 4
  (if afterYear.head? = some '-' then afterYear.drop 1 else afterYear).head? = some 'W'

def parseWeekDate (text : List Char) : Option ((Nat × Nat × Nat) × List Char) := do
  let separator ← weekSeparator text
  let (year, afterYear) ← field 4 text
  let dashed := afterYear.head? = some '-'
  let (week, afterWeek) ← field 2 (afterYear.drop (if dashed then 2 else 1))
  let date ←
    if (if dashed then 8 else 7) < separator then
      if dashed ∧ afterWeek.head? ≠ some '-' then none
      else (field 1 (if dashed then afterWeek.drop 1 else afterWeek)).bind (fun day => isoweekToGregorian year week day.1)
    else isoweekToGregorian year week 1
  some (date, text.drop separator)

def parseFraction (text : List Char) : Option Nat :=
  match text with
  | [] => some 0
  | mark :: digits =>
      if (mark = '.' ∨ mark = ',') ∧ digits ≠ [] ∧ digits.all isDecimal then
        (readNumber decimalValue 10 (digits.take 6)).map (fun number => number * 10 ^ (6 - digits.length))
      else none

-- HH[:?MM[:?SS[{.,}f+]]], the separators all present or all absent.
def parseClock (text : List Char) : Option (Nat × Nat × Nat × Nat) := do
  let (hour, afterHour) ← field 2 text
  let colons := afterHour.head? = some ':'
  if afterHour = [] then some (hour, 0, 0, 0)
  else do
    let (minute, afterMinute) ← field 2 (if colons then afterHour.drop 1 else afterHour)
    if afterMinute = [] then some (hour, minute, 0, 0)
    else if colons ∧ afterMinute.head? ≠ some ':' then none
    else do
      let (second, afterSecond) ← field 2 (if colons then afterMinute.drop 1 else afterMinute)
      let microsecond ← parseFraction afterSecond
      some (hour, minute, second, microsecond)

def isZoneMark (character : Char) : Bool := character = '+' || character = '-' || character = 'Z'

def clockMicros (clock : Nat × Nat × Nat × Nat) : Nat :=
  ((clock.1 * 60 + clock.2.1) * 60 + clock.2.2.1) * 1000000 + clock.2.2.2

-- A Z ends the text; an offset is less than a day.
def parseZone (mark : Char) (text : List Char) : Option Int :=
  if mark = 'Z' then (if text = [] then some 0 else none)
  else do
    let clock ← parseClock text
    let offset : Int := if mark = '-' then -clockMicros clock else clockMicros clock
    if offset.natAbs < dayMicros then some offset else none

def parseTime (text : List Char) : Option ((Nat × Nat × Nat × Nat) × Option Int) := do
  let clock ← parseClock (text.takeWhile (fun character => !isZoneMark character))
  match text.dropWhile (fun character => !isZoneMark character) with
  | [] => some (clock, none)
  | mark :: zone => do
      let offset ← parseZone mark zone
      some (clock, some offset)

-- The formats datetime.fromisoformat documents; any one character stands
-- between the date and the time.
def fromisoformat (text : List Char) : Option (DateTime × Option Int) := do
  let (date, rest) ← if isWeekDate text then parseWeekDate text else parseDate text
  match rest with
  | [] => (dateTime date 0 0 0 0).map (fun value => (value, none))
  | _ :: timeText => do
      let ((hour, minute, second, microsecond), offset) ← parseTime timeText
      (dateTime date hour minute second microsecond).map (fun value => (value, offset))

theorem of_micros_some (micros : Int) (value : DateTime) (within : ofMicros micros = some value) :
    (value.micros : Int) = micros := by
  simp only [ofMicros] at within
  split at within
  · rename_i range
    obtain ⟨valid, ordinal⟩ := ord2ymd_valid (micros / dayMicros).toNat (by omega) (by omega)
    unfold dateTime at within
    split at within
    · cases within
      unfold DateTime.micros
      rw [ordinal]
      unfold dayMicros at range ⊢
      have rest : 0 ≤ micros % 86400000000 ∧ micros % 86400000000 < 86400000000 := by omega
      push_cast
      omega
    · cases within
  · cases within

theorem field_decimal (width number : Nat) (rest : List Char) (fits : number < 10 ^ width) :
    field width (decimal width number ++ rest) = some (number, rest) := by
  have length := write_number_length decimalChar 10 width number
  have read := read_number_written decimalChar decimalValue 10 width number (by decide) fits decimal_value_char
  rw [field, if_pos (by rw [List.length_append]; unfold decimal; omega), decimal, List.take_left' length, List.drop_left' length,
    read]
  rfl

theorem decimal_digits (width number : Nat) : ∀ character ∈ decimal width number, (decimalValue character).isSome = true := by
  apply written_all decimalChar (fun character => (decimalValue character).isSome = true) 10 width number (by decide)
  intro digit fits
  rw [decimal_value_char digit fits]
  rfl

theorem decimal_ne_nil (width number : Nat) (positive : 0 < width) : decimal width number ≠ [] := by
  apply List.ne_nil_of_length_pos
  unfold decimal
  rwa [write_number_length]

theorem parse_date_decimal (year month day : Nat) (rest : List Char) (ofYear : year < 10000) (ofMonth : month < 100)
    (ofDay : day < 100) :
    parseDate (decimal 4 year ++ '-' :: (decimal 2 month ++ '-' :: (decimal 2 day ++ rest))) =
      some ((year, month, day), rest) := by
  simp [parseDate, field_decimal 4 year _ ofYear, field_decimal 2 month _ ofMonth, field_decimal 2 day _ ofDay]

theorem parse_fraction_decimal (microsecond : Nat) (fits : microsecond < 1000000) :
    parseFraction ('.' :: decimal 6 microsecond) = some microsecond := by
  have length : (decimal 6 microsecond).length = 6 := write_number_length decimalChar 10 6 microsecond
  have read := read_number_written decimalChar decimalValue 10 6 microsecond (by decide) fits decimal_value_char
  have digits : (decimal 6 microsecond).all isDecimal = true :=
    List.all_eq_true.mpr (decimal_digits 6 microsecond)
  have whole : (decimal 6 microsecond).take 6 = decimal 6 microsecond := List.take_of_length_le length.le
  rw [parseFraction, if_pos ⟨.inl rfl, decimal_ne_nil 6 microsecond (by decide), digits⟩, length, whole, decimal, read]
  simp

theorem parse_clock_decimal (hour minute second microsecond : Nat) (valid : ValidTime hour minute second microsecond) :
    parseClock (decimal 2 hour ++ ':' :: (decimal 2 minute ++ ':' :: (decimal 2 second ++ '.' :: decimal 6 microsecond))) =
      some (hour, minute, second, microsecond) := by
  have ofHour := valid.ofHour
  have ofMinute := valid.ofMinute
  have ofSecond := valid.ofSecond
  simp [parseClock, field_decimal 2 hour _ (by omega), field_decimal 2 minute _ (by omega),
    field_decimal 2 second _ (by omega), parse_fraction_decimal microsecond valid.ofMicrosecond]

def clockText (value : DateTime) : List Char :=
  decimal 2 value.hour ++ ':' :: (decimal 2 value.minute ++ ':' :: (decimal 2 value.second ++ '.' :: decimal 6 value.microsecond))

theorem clock_text_marks (value : DateTime) : ∀ character ∈ clockText value, isZoneMark character = false := by
  have digit : ∀ character, (decimalValue character).isSome = true → isZoneMark character = false := by
    intro character isDigit
    rw [isZoneMark, Bool.or_eq_false_iff, Bool.or_eq_false_iff, decide_eq_false_iff_not, decide_eq_false_iff_not,
      decide_eq_false_iff_not]
    refine ⟨⟨?_, ?_⟩, ?_⟩
    · rintro rfl
      cases isDigit
    · rintro rfl
      cases isDigit
    · rintro rfl
      cases isDigit
  intro character member
  simp only [clockText, List.mem_append, List.mem_cons] at member
  rcases member with hour | rfl | minute | rfl | second | rfl | fraction
  · exact digit character (decimal_digits 2 value.hour character hour)
  · rfl
  · exact digit character (decimal_digits 2 value.minute character minute)
  · rfl
  · exact digit character (decimal_digits 2 value.second character second)
  · rfl
  · exact digit character (decimal_digits 6 value.microsecond character fraction)

theorem parse_time_utc (value : DateTime) :
    parseTime (clockText value ++ "+00:00".toList) =
      some ((value.hour, value.minute, value.second, value.microsecond), some 0) := by
  have all : ∀ character ∈ clockText value, (!isZoneMark character) = true := by
    intro character member
    rw [clock_text_marks value character member]
    rfl
  have clock : (clockText value ++ "+00:00".toList).takeWhile (fun character => !isZoneMark character) = clockText value := by
    have mark : "+00:00".toList.takeWhile (fun character => !isZoneMark character) = [] := rfl
    rw [List.takeWhile_append_of_pos all, mark, List.append_nil]
  have zone : (clockText value ++ "+00:00".toList).dropWhile (fun character => !isZoneMark character) = '+' :: "00:00".toList := by
    rw [List.dropWhile_append_of_pos all]
    rfl
  have read := parse_clock_decimal value.hour value.minute value.second value.microsecond value.time
  have zero : parseZone '+' "00:00".toList = some 0 := by decide
  rw [parseTime, clock, zone]
  dsimp only
  rw [zero, clockText, read]
  rfl

theorem date_time_self (value : DateTime) :
    dateTime (value.year, value.month, value.day) value.hour value.minute value.second value.microsecond = some value := by
  rw [dateTime, dif_pos ⟨value.date, value.time⟩]

theorem isoformat_split (value : DateTime) :
    isoformat value = decimal 4 value.year ++ '-' :: (decimal 2 value.month ++ '-' :: (decimal 2 value.day ++
      'T' :: (clockText value ++ "+00:00".toList))) := by simp [isoformat, clockText]

theorem days_in_month_le (leap : Bool) (month : Nat) : daysInMonth leap month ≤ 31 := by
  unfold daysInMonth
  split <;> cases leap <;> simp

theorem isoformat_no_week (value : DateTime) : isWeekDate (isoformat value) = false := by
  have length : (decimal 4 value.year).length = 4 := write_number_length decimalChar 10 4 value.year
  obtain ⟨first, rest, month⟩ := List.exists_cons_of_ne_nil (decimal_ne_nil 2 value.month (by decide))
  have digit : (decimalValue first).isSome = true := decimal_digits 2 value.month first (by rw [month]; exact List.mem_cons_self)
  have solid : first ≠ 'W' := by
    rintro rfl
    cases digit
  simp [isWeekDate, isoformat, List.drop_left' length, month, solid]

theorem fromisoformat_isoformat (value : DateTime) : fromisoformat (isoformat value) = some (value, some 0) := by
  have date := value.date
  have inMonth := days_in_month_le (isLeap value.year) value.month
  rw [fromisoformat, isoformat_no_week, if_neg Bool.false_ne_true, isoformat_split, parse_date_decimal value.year value.month value.day _ (by have := date.ofYear; omega)
    (by have := date.ofMonth; omega) (by have := date.ofDay; omega)]
  have nonempty : clockText value ++ "+00:00".toList ≠ [] := by simp
  obtain ⟨first, rest, text⟩ := List.exists_cons_of_ne_nil nonempty
  simp only [Option.bind_eq_bind, Option.bind_some, text]
  rw [← text, parse_time_utc]
  simp [date_time_self]

end Ubb
