import Mathlib.Algebra.BigOperators.Intervals
import Ubb.Economics.Revenue

set_option autoImplicit false

-- The nominal accrual of a subscription, month by month: what it comes to over
-- a window and over the parts of it.
namespace Ubb.Economics

open Ubb.Calendar
open Ubb.Library
open Ubb.Months

def allMonths : Finset Nat := Finset.Ico 12 120000

def monthOpens (index : Nat) : Int := ymd2ord (index / 12) (index % 12 + 1) 1

def monthDays (index : Nat) : Int := daysInMonth (isLeap (index / 12)) (index % 12 + 1)

theorem month_follows : ∀ leap, ∀ month, month < 12 → 1 ≤ month →
    daysBeforeMonth leap (month + 1) = daysBeforeMonth leap month + daysInMonth leap month := by decide

theorem december_follows : ∀ leap : Bool, 365 + leap.toNat = daysBeforeMonth leap 12 + daysInMonth leap 12 := by decide

theorem month_opens_next (index : Nat) (inYears : 12 ≤ index) : monthOpens (index + 1) = monthOpens index + monthDays index := by
  rw [monthOpens, monthOpens, monthDays, ymd2ord, ymd2ord]
  by_cases december : index % 12 = 11
  · have year : (index + 1) / 12 = index / 12 + 1 := by omega
    have month : (index + 1) % 12 = 0 := by omega
    have days := december_follows (isLeap (index / 12))
    have next := days_before_next (index / 12) (by omega)
    rw [year, month, december, next]
    simp only [zero_add, Nat.reduceAdd]
    have january : daysBeforeMonth (isLeap (index / 12 + 1)) 1 = 0 := by
      cases isLeap (index / 12 + 1) <;> rfl
    rw [january]
    omega
  · have year : (index + 1) / 12 = index / 12 := by omega
    have month : (index + 1) % 12 = index % 12 + 1 := by omega
    have days := month_follows (isLeap (index / 12)) (index % 12 + 1) (by omega) (by omega)
    rw [year, month, days]
    omega

theorem month_days_positive (index : Nat) : 0 < monthDays index := by
  have positive : 0 < daysInMonth (isLeap (index / 12)) (index % 12 + 1) := by
    unfold daysInMonth
    split <;> omega
  rw [monthDays]
  exact_mod_cast positive

theorem month_opens_mono (early late : Nat) (inYears : 12 ≤ early) (ordered : early ≤ late) : monthOpens early ≤ monthOpens late := by
  induction late, ordered using Nat.le_induction with
  | base => exact le_rfl
  | succ late before ih =>
    have positive := month_days_positive late
    rw [month_opens_next late (inYears.trans before)]
    omega

theorem month_index_range (date : Day) : 12 ≤ date.monthIndex ∧ date.monthIndex < 120000 := by
  have year := date.valid.ofYear
  have month := date.valid.ofMonth
  rw [Day.monthIndex]
  omega

theorem month_of_index (date : Day) : date.monthIndex / 12 = date.year ∧ date.monthIndex % 12 + 1 = date.month := by
  have month := date.valid.ofMonth
  rw [Day.monthIndex]
  omega

theorem first_opens (date : Day) (first : date.day = 1) : date.number = monthOpens date.monthIndex := by
  obtain ⟨year, month⟩ := month_of_index date
  rw [monthOpens, year, month, Day.number, Day.ordinal, first]

theorem in_its_month (date : Day) :
    monthOpens date.monthIndex ≤ date.number ∧ date.number < monthOpens (date.monthIndex + 1) := by
  obtain ⟨year, month⟩ := month_of_index date
  have days := date.valid.ofDay
  rw [month_opens_next _ (month_index_range date).1, monthOpens, monthDays, year, month, Day.number, Day.ordinal, ymd2ord, ymd2ord]
  omega

def accruedInMonth (monthly : Int) (startDate endDate : Day) (index : Nat) : Int :=
  monthly * overlap (monthOpens index) (monthOpens (index + 1)) startDate.number endDate.number / monthDays index

def accrued (monthly : Int) (startDate endDate : Day) : Int := ∑ index ∈ allMonths, accruedInMonth monthly startDate endDate index

theorem accrued_outside (monthly : Int) (startDate endDate : Day) (index : Nat)
    (outside : endDate.number ≤ monthOpens index ∨ monthOpens (index + 1) ≤ startDate.number) :
    accruedInMonth monthly startDate endDate index = 0 := by
  have none_inside : overlap (monthOpens index) (monthOpens (index + 1)) startDate.number endDate.number = 0 := by
    rw [overlap]
    omega
  rw [accruedInMonth, none_inside, mul_zero, Int.zero_ediv]

theorem accrued_in_month (monthly : Int) (startDate endDate current next : Day) (first : current.day = 1) (nextFirst : next.day = 1)
    (follows : next.monthIndex = current.monthIndex + 1) :
    accruedIn monthly startDate endDate (current, next) = accruedInMonth monthly startDate endDate current.monthIndex := by
  obtain ⟨year, month⟩ := month_of_index current
  rw [accruedInMonth, monthDays, year, month, ← follows, ← first_opens current first, ← first_opens next nextFirst, accruedIn]
  dsimp only
  split
  · rename_i none_inside
    have nothing : overlap current.number next.number startDate.number endDate.number = 0 := by
      rw [overlap]
      omega
    rw [nothing, mul_zero, Int.zero_ediv]
  · rename_i some_inside
    have same : overlap current.number next.number startDate.number endDate.number =
        min endDate.number next.number - max startDate.number current.number := by
      rw [overlap]
      omega
    rw [same]

theorem next_month_ok (current next : Day) (answered : nextMonth current = .ok next) :
    next.day = 1 ∧ next.monthIndex = current.monthIndex + 1 := by
  have month := current.valid.ofMonth
  rw [nextMonth] at answered
  split at answered
  · by_cases valid : ValidDate (current.year + 1) 1 1
    · rw [replace_ok _ _ _ valid] at answered
      cases answered
      refine ⟨rfl, ?_⟩
      simp only [Day.monthIndex]
      omega
    · rw [replace_refused _ _ _ valid] at answered
      cases answered
  · by_cases valid : ValidDate current.year (current.month + 1) 1
    · rw [replace_ok _ _ _ valid] at answered
      cases answered
      refine ⟨rfl, ?_⟩
      simp only [Day.monthIndex]
      omega
    · rw [replace_refused _ _ _ valid] at answered
      cases answered

theorem months_from_accrue (monthly : Int) (startDate endDate : Day) (turns : Nat) :
    ∀ current months, current.day = 1 → endDate.monthIndex + 1 ≤ current.monthIndex + turns →
      monthsFrom endDate turns current = .ok months →
      (months.map (accruedIn monthly startDate endDate)).sum =
        ∑ index ∈ Finset.Ico current.monthIndex 120000, accruedInMonth monthly startDate endDate index := by
  have after : ∀ current : Day, current.day = 1 → endDate.number ≤ current.number →
      ∑ index ∈ Finset.Ico current.monthIndex 120000, accruedInMonth monthly startDate endDate index = 0 := by
    intro current first past
    apply Finset.sum_eq_zero
    intro index listed
    rw [Finset.mem_Ico] at listed
    have opens := month_opens_mono current.monthIndex index (month_index_range current).1 listed.1
    rw [← first_opens current first] at opens
    exact accrued_outside monthly startDate endDate index (.inl (past.trans opens))
  induction turns with
  | zero =>
    intro current months first enough answered
    cases answered
    have later : endDate < current := lt_of_month_index endDate current (by omega)
    have past := ordinal_lt endDate current later
    exact (after current first (by rw [Day.number, Day.number]; omega)).symm
  | succ turns ih =>
    intro current months first enough answered
    rw [monthsFrom] at answered
    by_cases more : current < endDate
    · rw [if_pos more] at answered
      obtain ⟨next, follows, rest⟩ := (bind_eq_ok _ _ _).mp answered
      obtain ⟨later, months_later, same⟩ := (bind_eq_ok _ _ _).mp rest
      cases same
      obtain ⟨nextFirst, nextIndex⟩ := next_month_ok current next follows
      rw [List.map_cons, List.sum_cons, ih next later nextFirst (by omega) months_later,
        accrued_in_month monthly startDate endDate current next first nextFirst nextIndex, nextIndex]
      exact (Finset.sum_eq_sum_Ico_succ_bot (month_index_range current).2 _).symm
    · rw [if_neg more] at answered
      cases answered
      refine (after current first ?_).symm
      by_contra short
      exact more (lt_of_ordinal current endDate (by rw [Day.number, Day.number] at short; omega))

theorem nominal_accrues (subscription : StripeSubscription) (startDate endDate : Day) (nominal : Int)
    (answered : nominalForWindow subscription startDate endDate = .ok nominal) :
    nominal = accrued (monthlyMicros subscription) startDate endDate := by
  obtain ⟨months, iterated, same⟩ := (bind_eq_ok _ _ _).mp answered
  cases same
  obtain ⟨current, replaced, rest⟩ := (bind_eq_ok _ _ _).mp iterated
  have valid := first_valid startDate.year startDate.month startDate.valid.ofYear startDate.valid.ofMonth
  rw [replace_ok _ _ _ valid] at replaced
  cases replaced
  have range := month_index_range startDate
  have summed := months_from_accrue (monthlyMicros subscription) startDate endDate _ ⟨startDate.year, startDate.month, 1, valid⟩
    months rfl (by simp only [Day.monthIndex]; omega) rest
  rw [summed, accrued, allMonths]
  have sameMonth : (⟨startDate.year, startDate.month, 1, valid⟩ : Day).monthIndex = startDate.monthIndex := rfl
  rw [sameMonth, ← Finset.sum_Ico_consecutive _ range.1 range.2.le, right_eq_add]
  apply Finset.sum_eq_zero
  intro index listed
  rw [Finset.mem_Ico] at listed
  have opens := month_opens_mono (index + 1) startDate.monthIndex (by omega) (by omega)
  exact accrued_outside _ startDate endDate index (.inr (opens.trans (in_its_month startDate).1))

def insideAMonth (cut : Day) : Bool := decide (cut.day ≠ 1)

theorem inside_its_month (cut : Day) (index : Nat) (listed : index ∈ allMonths) :
    cutInside (monthOpens index) (monthOpens (index + 1)) cut.number = true → index = cut.monthIndex ∧ insideAMonth cut = true := by
  intro inside
  rw [cutInside, Bool.and_eq_true, decide_eq_true_iff, decide_eq_true_iff] at inside
  rw [allMonths, Finset.mem_Ico] at listed
  have month := in_its_month cut
  have range := month_index_range cut
  have notBefore : ¬index < cut.monthIndex := by
    intro before
    have opens := month_opens_mono (index + 1) cut.monthIndex (by omega) (by omega)
    omega
  have notAfter : ¬cut.monthIndex < index := by
    intro later
    have opens := month_opens_mono (cut.monthIndex + 1) index (by omega) (by omega)
    omega
  have same : index = cut.monthIndex := by omega
  refine ⟨same, ?_⟩
  rw [insideAMonth, decide_eq_true_iff]
  intro first
  rw [same, ← first_opens cut first] at inside
  exact lt_irrefl _ inside.1

theorem cuts_inside (cut : Day) :
    ∑ index ∈ allMonths, ((cutInside (monthOpens index) (monthOpens (index + 1)) cut.number).toNat : Int) ≤
      (insideAMonth cut).toNat := by
  have range := month_index_range cut
  have apart : ∀ index ∈ allMonths, index ≠ cut.monthIndex →
      ((cutInside (monthOpens index) (monthOpens (index + 1)) cut.number).toNat : Int) = 0 := by
    intro index listed other
    cases inside : cutInside (monthOpens index) (monthOpens (index + 1)) cut.number with
    | false => rfl
    | true => exact absurd (inside_its_month cut index listed inside).1 other
  rw [Finset.sum_eq_single_of_mem cut.monthIndex (by rw [allMonths, Finset.mem_Ico]; exact range) apart]
  cases inside : cutInside (monthOpens cut.monthIndex) (monthOpens (cut.monthIndex + 1)) cut.number with
  | false => simp
  | true =>
    rw [(inside_its_month cut cut.monthIndex (by rw [allMonths, Finset.mem_Ico]; exact range) inside).2]

theorem accrued_split (monthly : Int) (startDate cut endDate : Day) (before : startDate.number ≤ cut.number)
    (after : cut.number ≤ endDate.number) :
    accrued monthly startDate cut + accrued monthly cut endDate ≤ accrued monthly startDate endDate ∧
      accrued monthly startDate endDate ≤
        accrued monthly startDate cut + accrued monthly cut endDate + (insideAMonth cut).toNat := by
  have parts : ∀ index, _ := fun index =>
    prorated_split monthly (monthDays index) (monthOpens index) (monthOpens (index + 1)) startDate.number cut.number endDate.number
      (month_days_positive index) before after
  rw [accrued, accrued, accrued, ← Finset.sum_add_distrib]
  constructor
  · exact Finset.sum_le_sum (fun index _ => (parts index).1)
  · calc ∑ index ∈ allMonths, accruedInMonth monthly startDate endDate index
        ≤ ∑ index ∈ allMonths, (accruedInMonth monthly startDate cut index + accruedInMonth monthly cut endDate index +
            ((cutInside (monthOpens index) (monthOpens (index + 1)) cut.number).toNat : Int)) :=
          Finset.sum_le_sum (fun index _ => (parts index).2)
      _ ≤ _ := by
          rw [Finset.sum_add_distrib]
          have few := cuts_inside cut
          omega

theorem accrued_empty (monthly : Int) (date : Day) : accrued monthly date date = 0 := by
  apply Finset.sum_eq_zero
  intro index _
  have nothing : overlap (monthOpens index) (monthOpens (index + 1)) date.number date.number = 0 := by
    rw [overlap]
    omega
  rw [accruedInMonth, nothing, mul_zero, Int.zero_ediv]

def Reaches (endDate : Day) : Prop := endDate.monthIndex < 119999 ∨ endDate.year = 9999 ∧ endDate.month = 12 ∧ endDate.day = 1

theorem next_month_answers (current : Day) (notLast : current.monthIndex < 119999) : ∃ next, nextMonth current = .ok next := by
  have year := current.valid.ofYear
  have month := current.valid.ofMonth
  rw [Day.monthIndex] at notLast
  rw [nextMonth]
  split
  · exact ⟨_, replace_ok _ _ _ (first_valid (current.year + 1) 1 (by omega) (by omega))⟩
  · exact ⟨_, replace_ok _ _ _ (first_valid current.year (current.month + 1) (by omega) (by omega))⟩

theorem december_last (current : Day) (last : current.monthIndex = 119999) : current.year = 9999 ∧ current.month = 12 := by
  have year := current.valid.ofYear
  have month := current.valid.ofMonth
  rw [Day.monthIndex] at last
  omega

theorem months_from_answers (endDate : Day) (reaches : Reaches endDate) (turns : Nat) :
    ∀ current, current.day = 1 → ∃ months, monthsFrom endDate turns current = .ok months := by
  induction turns with
  | zero => exact fun _ _ => ⟨[], rfl⟩
  | succ turns ih =>
    intro current first
    rw [monthsFrom]
    by_cases more : current < endDate
    · rw [if_pos more]
      have notLast : current.monthIndex < 119999 := by
        rcases reaches with early | ⟨year, month, day⟩
        · have ordered := month_index_mono current endDate (Nat.le_of_lt more)
          omega
        · rw [Day.lt_def, Day.rank, Day.rank] at more
          have index : endDate.monthIndex = 119999 := by
            rw [Day.monthIndex, year, month]
          omega
      obtain ⟨next, follows⟩ := next_month_answers current notLast
      obtain ⟨later, answered⟩ := ih next (next_month_ok current next follows).1
      refine ⟨(current, next) :: later, ?_⟩
      rw [follows]
      show (monthsFrom endDate turns next >>= _) = _
      rw [answered]
      rfl
    · rw [if_neg more]
      exact ⟨[], rfl⟩

theorem months_from_reach (endDate : Day) (turns : Nat) :
    ∀ current months, current.day = 1 → endDate.monthIndex + 1 ≤ current.monthIndex + turns →
      monthsFrom endDate turns current = .ok months → Reaches endDate := by
  induction turns with
  | zero =>
    intro current months first enough _
    have range := month_index_range current
    exact .inl (by omega)
  | succ turns ih =>
    intro current months first enough answered
    rw [monthsFrom] at answered
    by_cases more : current < endDate
    · rw [if_pos more] at answered
      obtain ⟨next, follows, rest⟩ := (bind_eq_ok _ _ _).mp answered
      obtain ⟨later, months_later, _⟩ := (bind_eq_ok _ _ _).mp rest
      obtain ⟨nextFirst, nextIndex⟩ := next_month_ok current next follows
      exact ih next later nextFirst (by omega) months_later
    · have range := month_index_range current
      rw [Day.lt_def, Day.rank, Day.rank, first] at more
      have days := day_bound endDate
      by_cases last : endDate.monthIndex < 119999
      · exact .inl last
      · have ends := (month_index_range endDate).2
        have fields := december_last endDate (by omega)
        exact .inr ⟨fields.1, fields.2, by omega⟩

theorem nominal_answers (subscription : StripeSubscription) (startDate endDate : Day) (reaches : Reaches endDate) :
    nominalForWindow subscription startDate endDate = .ok (accrued (monthlyMicros subscription) startDate endDate) := by
  have valid := first_valid startDate.year startDate.month startDate.valid.ofYear startDate.valid.ofMonth
  obtain ⟨months, answered⟩ := months_from_answers endDate reaches (endDate.monthIndex + 1 - startDate.monthIndex)
    ⟨startDate.year, startDate.month, 1, valid⟩ rfl
  have iterated : monthIter startDate endDate = .ok months := by
    rw [monthIter, replace_ok _ _ _ valid]
    exact answered
  have done : nominalForWindow subscription startDate endDate =
      .ok (months.map (accruedIn (monthlyMicros subscription) startDate endDate)).sum := by
    rw [nominalForWindow, iterated]
    rfl
  rw [done, nominal_accrues subscription startDate endDate _ done]

theorem nominal_reaches (subscription : StripeSubscription) (startDate endDate : Day) (nominal : Int)
    (answered : nominalForWindow subscription startDate endDate = .ok nominal) : Reaches endDate := by
  obtain ⟨months, iterated, _⟩ := (bind_eq_ok _ _ _).mp answered
  obtain ⟨current, replaced, rest⟩ := (bind_eq_ok _ _ _).mp iterated
  have valid := first_valid startDate.year startDate.month startDate.valid.ofYear startDate.valid.ofMonth
  rw [replace_ok _ _ _ valid] at replaced
  cases replaced
  have range := month_index_range startDate
  exact months_from_reach endDate _ _ months rfl (by simp only [Day.monthIndex]; omega) rest

theorem reaches_earlier (early late : Day) (ordered : early.number ≤ late.number) (reaches : Reaches late) : Reaches early := by
  have notAfter : ¬late < early := by
    intro after
    have further := ordinal_lt late early after
    rw [Day.number, Day.number] at ordered
    omega
  have range := month_index_range early
  have days := day_bound early
  rw [Day.lt_def, Day.rank, Day.rank] at notAfter
  rcases reaches with before | ⟨year, month, day⟩
  · have lateDays := day_bound late
    exact .inl (by omega)
  · have index : late.monthIndex = 119999 := by rw [Day.monthIndex, year, month]
    by_cases last : early.monthIndex < 119999
    · exact .inl last
    · have fields := december_last early (by omega)
      exact .inr ⟨fields.1, fields.2, by omega⟩

def accruedTotal (subscriptions : List StripeSubscription) (startDate endDate : Day) : Int :=
  ((accruing subscriptions).map (fun subscription => accrued (monthlyMicros subscription) startDate endDate)).sum

theorem nominals_accrue (startDate endDate : Day) (rows : List StripeSubscription) (nominals : List Int)
    (each : List.Forall₂ (fun row nominal => nominalForWindow row startDate endDate = .ok nominal) rows nominals) :
    nominals = rows.map (fun row => accrued (monthlyMicros row) startDate endDate) := by
  induction each with
  | nil => rfl
  | cons first _ ih => rw [List.map_cons, ← ih, nominal_accrues _ _ _ _ first]

theorem revenue_accrues (subscriptions : List StripeSubscription) (startDate endDate : Day) (revenue : Int)
    (answered : accruedSubscriptionRevenue subscriptions startDate endDate = .ok revenue) :
    revenue = accruedTotal subscriptions startDate endDate ∧ (accruing subscriptions = [] ∨ Reaches endDate) := by
  obtain ⟨nominals, each, same⟩ := (bind_eq_ok _ _ _).mp answered
  cases same
  rw [map_m_ok] at each
  refine ⟨?_, ?_⟩
  · rw [accruedTotal]
    exact congrArg List.sum (nominals_accrue startDate endDate _ nominals each)
  · cases held : accruing subscriptions with
    | nil => exact .inl rfl
    | cons subscription rest =>
      obtain ⟨nominal, _, first⟩ := forall₂_of_mem_left each subscription (by rw [held]; exact List.mem_cons_self)
      exact .inr (nominal_reaches subscription startDate endDate nominal first)

theorem revenue_answers (subscriptions : List StripeSubscription) (startDate endDate : Day)
    (reaches : accruing subscriptions = [] ∨ Reaches endDate) :
    accruedSubscriptionRevenue subscriptions startDate endDate = .ok (accruedTotal subscriptions startDate endDate) := by
  rcases reaches with nothing | reaches
  · rw [accruedSubscriptionRevenue, accruedTotal, nothing]
    rfl
  · obtain ⟨nominals, each, same⟩ := map_m_view (fun subscription => nominalForWindow subscription startDate endDate) id
      (fun subscription => accrued (monthlyMicros subscription) startDate endDate) (accruing subscriptions)
      (fun subscription _ => ⟨_, nominal_answers subscription startDate endDate reaches, rfl⟩)
    rw [List.map_id] at same
    rw [accruedSubscriptionRevenue, each, accruedTotal, ← same]
    rfl

theorem accrued_total_split (subscriptions : List StripeSubscription) (startDate cut endDate : Day)
    (before : startDate.number ≤ cut.number) (after : cut.number ≤ endDate.number) :
    accruedTotal subscriptions startDate cut + accruedTotal subscriptions cut endDate ≤
        accruedTotal subscriptions startDate endDate ∧
      accruedTotal subscriptions startDate endDate ≤ accruedTotal subscriptions startDate cut +
        accruedTotal subscriptions cut endDate + (accruing subscriptions).length * (insideAMonth cut).toNat := by
  rw [accruedTotal, accruedTotal, accruedTotal]
  induction accruing subscriptions with
  | nil => simp
  | cons subscription rest ih =>
    have parts := accrued_split (monthlyMicros subscription) startDate cut endDate before after
    rw [List.map_cons, List.map_cons, List.map_cons, List.sum_cons, List.sum_cons, List.sum_cons, List.length_cons]
    push_cast
    rw [add_mul, one_mul]
    omega

end Ubb.Economics
