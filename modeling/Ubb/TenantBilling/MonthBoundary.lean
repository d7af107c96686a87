import Ubb.TenantBilling.Steps

set_option autoImplicit false

namespace Ubb.TenantBilling

open Ubb.Library

-- Periods are created at the clock: a handler's statement runs at its reading.
def Punctual (state : State) : Event → Prop
  | .handle _ readAt => readAt = state.clock
  | _ => True

structure Timely (state : State) : Prop where
  clocked : Clocked state
  begun : ∀ period ∈ state.periods, period.periodStart ≤ firstOfMonth state.clock

theorem step_timely (state : State) (event : Event) (timely : Timely state) (punctual : Punctual state event) :
    Timely (step state event) := by
  have later := first_of_month_mono _ _ (step_clock state event)
  refine ⟨step_clocked state event timely.clocked, ?_⟩
  intro row member
  refine Date.le_trans _ (firstOfMonth state.clock) _ ?_ later
  cases step_row_source state event row member with
  | kept _ old inside _ sameMonths _ =>
      have startEq : row.periodStart = old.periodStart := congrArg Prod.fst sameMonths
      rw [startEq]
      exact timely.begun old inside
  | closed job old _ _ _ inside _ rowEq =>
      have startEq : row.periodStart = old.periodStart := by
        rw [rowEq]
        exact congrArg Prod.fst (close_row_keeps old).2.1
      rw [startEq]
      exact timely.begun old inside
  | created postingId readAt reading isReading _ _ months =>
      have atClock : reading = state.clock := isReading.elim (fun same => same.trans punctual) id
      have startEq : row.periodStart = firstOfMonth reading := congrArg Prod.fst months
      rw [startEq, atClock]
      exact Nat.le_refl _

theorem punctual_run_timely (start : Date) (events : List Event) (punctual : Along step Punctual (initialState start) events) :
    Timely (stateAfter start events) := by
  apply along_invariant step Timely Punctual step_timely (initialState start) events _ punctual
  exact ⟨initial_clocked start, by simp [initialState]⟩

def currentPeriod (today : Date) (periods : List TenantBillingPeriod) : Option TenantBillingPeriod :=
  findPeriod (firstOfMonth today) (firstOfNextMonth today) periods

-- What accumulate_usage is to do: return, and have added the usage to the one
-- open period of the current month, which it creates where there is none.
def AddsToCurrentPeriod (today : Date) (billed : Option Int) (counts : Bool) (periods : List TenantBillingPeriod)
    (result : Except PeriodError (List TenantBillingPeriod)) : Prop :=
  ∃ after period, result = .ok after ∧ currentPeriod today after = some period ∧ period.status = .opened ∧
    (∀ other ∈ after, other.status = .opened → other = period) ∧
    period.totalBilledCostMicros =
      ((currentPeriod today periods).map TenantBillingPeriod.totalBilledCostMicros).getD 0 + billed.getD 0 ∧
    period.recordedEvents = ((currentPeriod today periods).map TenantBillingPeriod.recordedEvents).getD 0 + counts.toNat

theorem update_usage_open (period : TenantBillingPeriod) (amount : Int) (events : Nat) (periods : List TenantBillingPeriod)
    (sound : PeriodsSound periods) (member : period ∈ periods) (isOpen : period.status = .opened) :
    (updateUsage period.id amount events periods).2 ≠ 0 ∧
      findPeriod period.periodStart period.periodEnd (updateUsage period.id amount events periods).1 =
        some (addUsage amount events period) := by
  refine ⟨?_, ?_⟩
  · rw [updateUsage, Ne, List.length_eq_zero_iff, List.filter_eq_nil_iff]
    intro unmatched
    exact unmatched period member (by simp [isOpen])
  · have updatedSound : PeriodsSound (updateUsage period.id amount events periods).1 :=
      update_usage_sound _ _ _ periods sound
    have updated : addUsage amount events period ∈ (updateUsage period.id amount events periods).1 :=
      List.mem_map.mpr ⟨period, member, if_pos rfl⟩
    cases found : findPeriod period.periodStart period.periodEnd (updateUsage period.id amount events periods).1 with
    | none =>
        exact absurd (add_usage_keeps amount events period).2.1 ((find_period_none _ _ _).mp found _ updated)
    | some other =>
        obtain ⟨otherMember, otherMonths⟩ := find_period_some _ _ _ _ found
        have sameMonths : other.months = (addUsage amount events period).months :=
          otherMonths.trans (add_usage_keeps amount events period).2.1.symm
        rw [List.inj_on_of_nodup_map updatedSound.distinct otherMember updated sameMonths]

theorem accumulate_open (today retryToday : Date) (billed : Option Int) (counts : Bool) (periods base : List TenantBillingPeriod)
    (period : TenantBillingPeriod) (sound : PeriodsSound base) (had : getOrCreateCurrentPeriod today periods = .ok (base, period))
    (member : period ∈ base) (months : period.months = (firstOfMonth today, firstOfNextMonth today))
    (isOpen : period.status = .opened)
    (total : period.totalBilledCostMicros = ((currentPeriod today periods).map TenantBillingPeriod.totalBilledCostMicros).getD 0)
    (count : period.recordedEvents = ((currentPeriod today periods).map TenantBillingPeriod.recordedEvents).getD 0) :
    AddsToCurrentPeriod today billed counts periods (accumulateUsage today retryToday billed counts periods) := by
  have startEq : period.periodStart = firstOfMonth today := congrArg Prod.fst months
  have endEq : period.periodEnd = firstOfNextMonth today := congrArg Prod.snd months
  obtain ⟨matched, found⟩ := update_usage_open period (billed.getD 0) counts.toNat base sound member isOpen
  have done : accumulateUsage today retryToday billed counts periods =
      .ok (updateUsage period.id (billed.getD 0) counts.toNat base).1 := by
    simp only [accumulateUsage, had, if_neg matched]
  have updatedSound : PeriodsSound (updateUsage period.id (billed.getD 0) counts.toNat base).1 :=
    update_usage_sound _ _ _ base sound
  have stillOpen : (addUsage (billed.getD 0) counts.toNat period).status = .opened := by
    rw [(add_usage_keeps _ _ period).2.2, isOpen]
  rw [startEq, endEq] at found
  refine ⟨_, addUsage (billed.getD 0) counts.toNat period, done, found, stillOpen, ?_, ?_, ?_⟩
  · intro other otherMember otherOpen
    exact updatedSound.oneOpen other otherMember _ (find_period_some _ _ _ _ found).1 otherOpen stillOpen
  · rw [← total]
    simp [addUsage, isOpen]
  · rw [← count]
    simp [addUsage, isOpen]

theorem current_period_open (state : State) (today : Date) (timely : Timely state) (later : state.clock ≤ today)
    (period : TenantBillingPeriod) (found : currentPeriod today state.periods = some period) : period.status = .opened := by
  obtain ⟨member, months⟩ := find_period_some _ _ _ _ found
  cases status : period.status with
  | opened => rfl
  | closed =>
      have over_before := timely.clocked.ended period member status
      have endEq : period.periodEnd = firstOfNextMonth today := congrArg Prod.snd months
      rw [endEq, Date.le_def, first_of_next_month_ordinal] at over_before
      have monotone := first_of_month_mono _ _ later
      rw [Date.le_def] at monotone
      omega

-- With no row of the current month, every row is of an earlier one: rows are
-- created at the clock, and the clock only moves forward.
theorem rows_of_earlier_months (state : State) (today : Date) (timely : Timely state) (later : state.clock ≤ today)
    (missing : currentPeriod today state.periods = none) (period : TenantBillingPeriod) (member : period ∈ state.periods) :
    period.periodStart < firstOfMonth today := by
  obtain ⟨date, months⟩ := timely.clocked.sound.monthly period member
  have startEq : period.periodStart = firstOfMonth date := congrArg Prod.fst months
  have begun := timely.begun period member
  rw [startEq] at begun ⊢
  apply first_of_month_lt date today (Date.le_trans _ _ _ begun (first_of_month_mono _ _ later))
  intro sameMonth
  obtain ⟨first, next⟩ := first_of_month_congr date today sameMonth
  exact (find_period_none _ _ _).mp missing period member (by rw [months, first, next])

theorem accumulate_found (state : State) (today retryToday : Date) (billed : Option Int) (counts : Bool)
    (sound : PeriodsSound state.periods) (period : TenantBillingPeriod)
    (found : currentPeriod today state.periods = some period) (isOpen : period.status = .opened) :
    AddsToCurrentPeriod today billed counts state.periods (accumulateUsage today retryToday billed counts state.periods) := by
  obtain ⟨member, months⟩ := find_period_some _ _ _ _ found
  have had : getOrCreateCurrentPeriod today state.periods = .ok (state.periods, period) := by
    rw [currentPeriod] at found
    simp only [getOrCreateCurrentPeriod, found]
  exact accumulate_open today retryToday billed counts state.periods state.periods period sound had member months isOpen
    (by rw [found]; rfl) (by rw [found]; rfl)

theorem accumulate_creates (state : State) (today retryToday : Date) (billed : Option Int) (counts : Bool)
    (sound : PeriodsSound state.periods) (missing : currentPeriod today state.periods = none)
    (noOpen : ∀ period ∈ state.periods, period.status ≠ .opened) :
    AddsToCurrentPeriod today billed counts state.periods (accumulateUsage today retryToday billed counts state.periods) := by
  have none_open : state.periods.any (fun other => other.status = .opened) = false := by
    rw [List.any_eq_false]
    intro other member
    simpa using noOpen other member
  let created : TenantBillingPeriod :=
    { id := state.periods.length, periodStart := firstOfMonth today, periodEnd := firstOfNextMonth today, status := .opened }
  have had : getOrCreateCurrentPeriod today state.periods = .ok (state.periods ++ [created], created) := by
    rw [currentPeriod] at missing
    simp [getOrCreateCurrentPeriod, insertPeriod, missing, none_open, created]
  exact accumulate_open today retryToday billed counts state.periods _ created
    (create_sound today state.periods created missing noOpen rfl sound) had (by simp) rfl rfl
    (by rw [missing]; rfl) (by rw [missing]; rfl)

-- The constraint that allows one open row refuses the new one, and the recovery
-- branch then looks for a row nobody created.
theorem accumulate_blocked (state : State) (today retryToday : Date) (billed : Option Int) (counts : Bool)
    (missing : currentPeriod today state.periods = none) (period : TenantBillingPeriod) (member : period ∈ state.periods)
    (isOpen : period.status = .opened) :
    accumulateUsage today retryToday billed counts state.periods = .error .doesNotExist := by
  have any_open : state.periods.any (fun other => other.status = .opened) = true :=
    List.any_eq_true.mpr ⟨period, member, by simpa using isOpen⟩
  rw [currentPeriod] at missing
  simp only [accumulateUsage, getOrCreateCurrentPeriod, insertPeriod, missing, any_open, or_true, if_true]

theorem accumulate_survives_iff (start : Date) (events : List Event)
    (punctual : Along step Punctual (initialState start) events) (today retryToday : Date)
    (later : (stateAfter start events).clock ≤ today) (billed : Option Int) (counts : Bool) :
    AddsToCurrentPeriod today billed counts (stateAfter start events).periods
      (accumulateUsage today retryToday billed counts (stateAfter start events).periods) ↔
    ∀ period ∈ (stateAfter start events).periods, period.status = .opened → ¬ period.periodStart < firstOfMonth today := by
  have timely := punctual_run_timely start events punctual
  generalize stateAfter start events = state at timely later ⊢
  have sound := timely.clocked.sound
  cases found : currentPeriod today state.periods with
  | some period =>
      obtain ⟨member, months⟩ := find_period_some _ _ _ _ found
      have isOpen := current_period_open state today timely later period found
      constructor
      · intro _ other otherMember otherOpen
        rw [sound.oneOpen other otherMember period member otherOpen isOpen,
          show period.periodStart = firstOfMonth today from congrArg Prod.fst months]
        exact Nat.lt_irrefl _
      · intro _
        exact accumulate_found state today retryToday billed counts sound period found isOpen
  | none =>
      have earlier := rows_of_earlier_months state today timely later found
      constructor
      · rintro ⟨after, current, done, _⟩ period member isOpen
        rw [accumulate_blocked state today retryToday billed counts found period member isOpen] at done
        cases done
      · intro noneEarlier
        apply accumulate_creates state today retryToday billed counts sound found
        intro period member isOpen
        exact noneEarlier period member isOpen (earlier period member)

def lastOfJanuary : Date := ⟨2026, 1, 31, by decide, by decide⟩

def firstOfFebruary : Date := ⟨2026, 2, 1, by decide, first_day_valid⟩

def januaryUsage : List Event :=
  [.insert ⟨"ev-1"⟩ .meteredUsage (some 300), .commit ⟨"ev-1"⟩, .handle ⟨"ev-1"⟩ lastOfJanuary, .tick firstOfFebruary]

def closeJanuary : List Event := [.loadClose 1 0, .read 1 false, .write 1, .finish 1]

theorem open_january_blocks_february :
    ¬ ∀ (start : Date) (events : List Event), Along step Punctual (initialState start) events →
      ∀ (today retryToday : Date), (stateAfter start events).clock ≤ today → ∀ (billed : Option Int) (counts : Bool),
        AddsToCurrentPeriod today billed counts (stateAfter start events).periods
          (accumulateUsage today retryToday billed counts (stateAfter start events).periods) := by
  intro always
  obtain ⟨after, period, done, _⟩ := always lastOfJanuary januaryUsage ⟨trivial, trivial, rfl, trivial, trivial⟩ firstOfFebruary
    firstOfFebruary (by decide) (some 200) true
  have raised : accumulateUsage firstOfFebruary firstOfFebruary (some 200) true (stateAfter lastOfJanuary januaryUsage).periods =
      .error .doesNotExist := rfl
  rw [raised] at done
  cases done

theorem closed_january_admits_february :
    AddsToCurrentPeriod firstOfFebruary (some 200) true (stateAfter lastOfJanuary (januaryUsage ++ closeJanuary)).periods
      (accumulateUsage firstOfFebruary firstOfFebruary (some 200) true
        (stateAfter lastOfJanuary (januaryUsage ++ closeJanuary)).periods) :=
  (accumulate_survives_iff lastOfJanuary (januaryUsage ++ closeJanuary)
    ⟨trivial, trivial, rfl, trivial, trivial, trivial, trivial, trivial, trivial⟩ firstOfFebruary firstOfFebruary (by decide)
    (some 200) true).mpr (by decide)

end Ubb.TenantBilling
