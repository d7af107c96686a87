import Ubb.Library.Outcomes
import Ubb.Library.Telescoping
import Ubb.TenantBilling.ArrivalTotals
import Ubb.TenantBilling.Fees

set_option autoImplicit false

namespace Ubb.TenantBilling

open Ubb.Library
open Ubb.Invoicing (minorUnits toMinor to_minor_reassembles to_minor_range)

-- Flat and percentage lines are summed as they are: nothing is floored here.
theorem calculate_fees_sum (terms : FeeTerms) (total fee : Int) (lineItems : List LineItem)
    (done : calculateFees terms total = .ok (fee, lineItems)) : fee = (lineItems.map LineItem.amountMicros).sum := by
  unfold calculateFees at done
  split at done
  · cases done
    rfl
  · split at done
    · cases done
      simp
    · rw [bind_eq_ok] at done
      obtain ⟨lines, _, answered⟩ := done
      cases answered
      rfl

theorem sandbox_accrues_nothing (terms : FeeTerms) (total fee : Int) (lineItems : List LineItem)
    (sandbox : terms.isSandbox = true) (done : calculateFees terms total = .ok (fee, lineItems)) : fee = 0 := by
  rw [calculateFees, if_pos sandbox] at done
  cases done
  rfl

def Closing.entry (closing : Closing) : Carried where
  exact := closing.exactFeeMicros
  carriedIn := (closing.carry.map PlatformFeeCarry.carriedInMicros).getD 0
  billed := closing.platformFeeMicros
  carriedOut := (closing.carry.map PlatformFeeCarry.carriedOutMicros).getD 0

structure ClosesWhole (isSandbox : Bool) (closing : Closing) : Prop where
  whole : ∃ minor : Int, closing.platformFeeMicros = minor * minorUnits
  balanced : closing.entry.Balanced
  fraction : 0 ≤ closing.entry.carriedOut ∧ closing.entry.carriedOut < minorUnits
  row : if isSandbox then closing.carry = none else ∃ carry, closing.carry = some carry ∧ carry.billingPeriod = closing.period.id

theorem bank_fee_carry_cases (isSandbox : Bool) (period : TenantBillingPeriod) (exactFee fee : Int)
    (periods : List TenantBillingPeriod) (carries : List PlatformFeeCarry) (carry : Option PlatformFeeCarry)
    (done : bankFeeCarry isSandbox period exactFee periods carries = .ok (carry, fee)) :
    isSandbox = true ∧ carry = none ∧ fee = 0 ∨
      isSandbox = false ∧ ∃ carriedIn : Int,
        carriedIn = ((latestCarry periods (earlierCarries period periods carries)).map
          PlatformFeeCarry.carriedOutMicros).getD 0 ∧
        carry = some ⟨period.id, carriedIn, (toMinor (exactFee + carriedIn)).2⟩ ∧
        fee = (toMinor (exactFee + carriedIn)).1 * minorUnits := by
  cases isSandbox with
  | true =>
    cases done
    exact Or.inl ⟨rfl, rfl, rfl⟩
  | false =>
    refine Or.inr ⟨rfl, _, rfl, ?_⟩
    simp only [bankFeeCarry, Bool.false_eq_true, if_false, createCarry] at done
    split at done
    · cases done
    · cases done
      exact ⟨rfl, rfl⟩

theorem close_period_fee_whole (terms : FeeTerms) (period : TenantBillingPeriod) (periods : List TenantBillingPeriod)
    (carries : List PlatformFeeCarry) (closing : Closing) (done : closePeriodFee terms period periods carries = .ok closing) :
    ClosesWhole terms.isSandbox closing ∧ closing.period = period ∧
      (terms.isSandbox = false → closing.entry.carriedIn =
        ((latestCarry periods (earlierCarries period periods carries)).map PlatformFeeCarry.carriedOutMicros).getD 0) := by
  simp only [closePeriodFee, bind_eq_ok] at done
  obtain ⟨⟨exactFee, lineItems⟩, calculated, ⟨carry, fee⟩, banked, answered⟩ := done
  split at answered
  · cases answered
    rcases bank_fee_carry_cases _ _ _ _ _ _ _ banked with ⟨sandbox, rfl, rfl⟩ | ⟨live, carriedIn, read, rfl, rfl⟩
    · have nothing := sandbox_accrues_nothing terms _ _ _ sandbox calculated
      refine ⟨⟨⟨0, by simp⟩, ?_, by simp [Closing.entry, minorUnits], by simp [sandbox]⟩, rfl, ?_⟩
      · simp [Carried.Balanced, Closing.entry, nothing]
      · intro live
        rw [sandbox] at live
        cases live
    · have reassembled := to_minor_reassembles (exactFee + carriedIn)
      exact ⟨⟨⟨_, rfl⟩, reassembled, to_minor_range _, by simp [live]⟩, rfl, fun _ => read⟩
  · cases answered

theorem closing_of_row (fees : FeeState) (request : FeeEvent) (closing : Closing)
    (closes : closingOf fees request = some (.ok closing)) :
    closesRow request.event fees.state = some closing.period ∧ closing.period ∈ fees.state.periods ∧
      closePeriodFee ⟨fees.isSandbox, request.configs, request.platformFeePercentage⟩ closing.period fees.state.periods
        fees.carries = .ok closing := by
  unfold closingOf at closes
  obtain ⟨row, finds, done⟩ := Option.map_eq_some_iff.mp closes
  obtain ⟨_, same, _⟩ := close_period_fee_whole _ _ _ _ _ done
  subst same
  refine ⟨finds, ?_, done⟩
  unfold closesRow at finds
  split at finds
  · split at finds
    · have found := (Option.filter_eq_some_iff.mp finds).1
      exact (period_member _ _ _ found).1
    · cases finds
  · cases finds

structure Banked (past : List Closing) (fees : FeeState) : Prop where
  sound : PeriodsSound fees.state.periods
  periods : ∀ closing ∈ past, ∃ row ∈ fees.state.periods, row.id = closing.period.id ∧ row.months = closing.period.months
  carries : fees.carries = past.filterMap Closing.carry
  platformFees : fees.platformFees = past.map (fun closing => (closing.period.id, closing.platformFeeMicros))
  each : ∀ closing ∈ past, ClosesWhole fees.isSandbox closing
  chained : ChainedFrom 0 (past.map Closing.entry)

def InMonthOrder (closed : List Closing) : Prop :=
  closed.Pairwise (fun earlier later => earlier.period.periodStart < later.period.periodStart)

instance (closed : List Closing) : Decidable (InMonthOrder closed) := inferInstanceAs (Decidable (List.Pairwise _ _))

theorem start_of_closed (past : List Closing) (fees : FeeState) (banked : Banked past fees) (closing : Closing)
    (member : closing ∈ past) (carry : PlatformFeeCarry) (named : carry.billingPeriod = closing.period.id) :
    startOf fees.state.periods carry = some closing.period.periodStart := by
  obtain ⟨row, stored, same, months⟩ := banked.periods closing member
  have found : fees.state.periods.find? (fun period => period.id = carry.billingPeriod) = some row := by
    rw [named, ← same]
    exact find_key_of_mem TenantBillingPeriod.id fees.state.periods banked.sound.ids row stored
  rw [startOf, found]
  exact congrArg some (Prod.ext_iff.mp months).1

-- In month order the chain read finds the row the last close wrote.
theorem carry_read_back (past : List Closing) (fees : FeeState) (banked : Banked past fees) (period : TenantBillingPeriod)
    (ordered : InMonthOrder past) (latest : ∀ closing ∈ past, closing.period.periodStart < period.periodStart)
    (live : fees.isSandbox = false) :
    ((latestCarry fees.state.periods (earlierCarries period fees.state.periods fees.carries)).map
      PlatformFeeCarry.carriedOutMicros).getD 0 = lastOut 0 (past.map Closing.entry) := by
  have rows : ∀ closing ∈ past, ∃ carry, closing.carry = some carry ∧ carry.billingPeriod = closing.period.id := by
    intro closing member
    have row := (banked.each closing member).row
    rwa [live] at row
  have everyCarry : earlierCarries period fees.state.periods fees.carries = fees.carries := by
    unfold earlierCarries
    rw [List.filter_eq_self, banked.carries]
    intro carry member
    obtain ⟨closing, inPast, wrote⟩ := List.mem_filterMap.mp member
    obtain ⟨own, isOwn, named⟩ := rows closing inPast
    cases wrote.symm.trans isOwn
    rw [start_of_closed past fees banked closing inPast carry named]
    simpa using latest closing inPast
  have ascending : fees.carries.Pairwise (fun left right =>
      ((startOf fees.state.periods left).map Date.ordinal).getD 0 <
        ((startOf fees.state.periods right).map Date.ordinal).getD 0) := by
    rw [banked.carries, List.pairwise_filterMap]
    refine List.Pairwise.imp_of_mem ?_ ordered
    intro earlier later inPast laterInPast before left isLeft right isRight
    obtain ⟨own, isOwn, named⟩ := rows earlier inPast
    obtain ⟨other, isOther, otherNamed⟩ := rows later laterInPast
    cases isLeft.symm.trans isOwn
    cases isRight.symm.trans isOther
    rw [start_of_closed past fees banked earlier inPast _ named,
      start_of_closed past fees banked later laterInPast _ otherNamed]
    exact before
  rw [everyCarry, latestCarry, first_best_ascending _ _ ascending, banked.carries]
  cases past using List.reverseRecOn with
  | nil => rfl
  | append_singleton front last =>
    obtain ⟨carry, isCarry, _⟩ := rows last (by simp)
    simp [lastOut, List.filterMap_append, isCarry, Closing.entry]

theorem fee_step_state (fees : FeeState) (request : FeeEvent) :
    PeriodsSound fees.state.periods → PeriodsSound (feeStep fees request).state.periods ∧
      (∀ row ∈ fees.state.periods, ∃ later ∈ (feeStep fees request).state.periods,
        later.id = row.id ∧ later.months = row.months) := by
  intro sound
  unfold feeStep
  split
  · exact ⟨step_periods_sound _ _ sound, step_row_persists _ _⟩
  · exact ⟨step_periods_sound _ _ sound, step_row_persists _ _⟩
  · split
    · exact ⟨sound, fun row member => ⟨row, member, rfl, rfl⟩⟩
    · exact ⟨sound, fun row member => ⟨row, member, rfl, rfl⟩⟩

theorem fee_step_tables (fees : FeeState) (request : FeeEvent) :
    (feeStep fees request).isSandbox = fees.isSandbox ∧
      ((∃ closing, closingOf fees request = some (.ok closing) ∧
          (feeStep fees request).carries = fees.carries ++ closing.carry.toList ∧
          (feeStep fees request).platformFees = fees.platformFees ++ [(closing.period.id, closing.platformFeeMicros)]) ∨
        ((∀ closing, closingOf fees request ≠ some (.ok closing)) ∧ (feeStep fees request).carries = fees.carries ∧
          (feeStep fees request).platformFees = fees.platformFees)) := by
  unfold feeStep
  split
  · rename_i none_
    exact ⟨rfl, Or.inr ⟨by simp [none_], rfl, rfl⟩⟩
  · rename_i closing closes
    exact ⟨rfl, Or.inl ⟨closing, closes, rfl, rfl⟩⟩
  · rename_i refusal refused
    split
    · exact ⟨rfl, Or.inr ⟨by simp [refused], rfl, rfl⟩⟩
    · exact ⟨rfl, Or.inr ⟨by simp [refused], rfl, rfl⟩⟩

theorem idle_step_banked (past : List Closing) (fees : FeeState) (request : FeeEvent) (banked : Banked past fees)
    (idle : ∀ closing, closingOf fees request ≠ some (.ok closing)) : Banked past (feeStep fees request) := by
  obtain ⟨sound, persists⟩ := fee_step_state fees request banked.sound
  obtain ⟨sandbox, ⟨closing, closes, _⟩ | ⟨_, carries, platformFees⟩⟩ := fee_step_tables fees request
  · exact absurd closes (idle closing)
  · refine ⟨sound, ?_, carries.trans banked.carries, platformFees.trans banked.platformFees, ?_, banked.chained⟩
    · intro closing member
      obtain ⟨row, stored, same, months⟩ := banked.periods closing member
      obtain ⟨later, kept, laterSame, laterMonths⟩ := persists row stored
      exact ⟨later, kept, laterSame.trans same, laterMonths.trans months⟩
    · rw [sandbox]
      exact banked.each

theorem closing_step_banked (past : List Closing) (fees : FeeState) (request : FeeEvent) (closing : Closing)
    (banked : Banked past fees) (closes : closingOf fees request = some (.ok closing)) (ordered : InMonthOrder past)
    (latest : ∀ earlier ∈ past, earlier.period.periodStart < closing.period.periodStart) :
    Banked (past ++ [closing]) (feeStep fees request) := by
  obtain ⟨sound, persists⟩ := fee_step_state fees request banked.sound
  obtain ⟨_, stored, done⟩ := closing_of_row fees request closing closes
  obtain ⟨whole, _, read⟩ := close_period_fee_whole _ _ _ _ _ done
  obtain ⟨sandbox, ⟨other, otherCloses, carries, platformFees⟩ | ⟨idle, _⟩⟩ := fee_step_tables fees request
  · cases closes.symm.trans otherCloses
    have links : closing.entry.carriedIn = lastOut 0 (past.map Closing.entry) := by
      cases isSandbox : fees.isSandbox with
      | false =>
        rw [read isSandbox]
        exact carry_read_back past fees banked closing.period ordered latest isSandbox
      | true =>
        have noRow : ∀ closing, ClosesWhole fees.isSandbox closing → closing.carry = none := by
          intro closing closed
          have row := closed.row
          rwa [isSandbox] at row
        have nothing := last_out_of (fun carried => carried = 0) 0 (past.map Closing.entry) rfl (by
          intro entry member
          obtain ⟨earlier, inPast, rfl⟩ := List.mem_map.mp member
          simp [Closing.entry, noRow earlier (banked.each earlier inPast)])
        rw [nothing]
        simp [Closing.entry, noRow closing whole]
    refine ⟨sound, ?_, ?_, ?_, ?_, ?_⟩
    · intro earlier member
      have before : ∃ row ∈ fees.state.periods, row.id = earlier.period.id ∧ row.months = earlier.period.months := by
        rcases List.mem_append.mp member with inPast | last
        · exact banked.periods earlier inPast
        · cases List.mem_singleton.mp last
          exact ⟨closing.period, stored, rfl, rfl⟩
      obtain ⟨row, inRows, same, months⟩ := before
      obtain ⟨later, kept, laterSame, laterMonths⟩ := persists row inRows
      exact ⟨later, kept, laterSame.trans same, laterMonths.trans months⟩
    · rw [carries, banked.carries, List.filterMap_append]
      cases carry : closing.carry <;> simp [carry]
    · rw [platformFees, banked.platformFees, List.map_append]
      rfl
    · intro earlier member
      rw [sandbox]
      rcases List.mem_append.mp member with inPast | last
      · exact banked.each earlier inPast
      · cases List.mem_singleton.mp last
        exact whole
    · rw [List.map_append]
      exact chained_snoc 0 _ closing.entry banked.chained links
  · exact absurd closes (idle closing)

theorem run_banked (past : List Closing) (fees : FeeState) (requests : List FeeEvent) (banked : Banked past fees)
    (ordered : InMonthOrder (past ++ closings fees requests)) :
    Banked (past ++ closings fees requests) (run feeStep fees requests) := by
  induction requests generalizing past fees with
  | nil => simpa [closings] using banked
  | cons request rest ih =>
    rw [run_cons]
    rw [closings] at ordered ⊢
    split at ordered
    · rename_i closing closes
      rw [List.append_cons] at ordered ⊢
      obtain ⟨inPast, _, across⟩ := List.pairwise_append.mp (List.pairwise_append.mp ordered).1
      apply ih (past ++ [closing]) (feeStep fees request) _ ordered
      exact closing_step_banked past fees request closing banked closes inPast
        (fun earlier member => across earlier member closing (by simp))
    · rename_i idle
      exact ih past (feeStep fees request) (idle_step_banked past fees request banked idle) ordered

theorem new_tenant_banked (isSandbox : Bool) (clock : Date) : Banked [] (newTenant isSandbox clock) :=
  ⟨(initial_clocked clock).sound, by simp, rfl, rfl, by simp, trivial⟩

structure FeesTelescope (fees : FeeState) (closed : List Closing) : Prop where
  carries : fees.carries = closed.filterMap Closing.carry
  platformFees : fees.platformFees = closed.map (fun closing => (closing.period.id, closing.platformFeeMicros))
  whole : ∀ closing ∈ closed, ∃ minor : Int, closing.platformFeeMicros = minor * minorUnits
  fraction : ∀ closing ∈ closed, 0 ≤ closing.entry.carriedOut ∧ closing.entry.carriedOut < minorUnits
  linked : ChainedFrom 0 (closed.map Closing.entry)
  total : (closed.map Closing.platformFeeMicros).sum + lastOut 0 (closed.map Closing.entry) =
    (closed.map Closing.exactFeeMicros).sum
  within : 0 ≤ (closed.map Closing.exactFeeMicros).sum - (closed.map Closing.platformFeeMicros).sum ∧
    (closed.map Closing.exactFeeMicros).sum - (closed.map Closing.platformFeeMicros).sum < minorUnits

theorem platform_fee_telescopes (isSandbox : Bool) (clock : Date) (requests : List FeeEvent)
    (ordered : InMonthOrder (closings (newTenant isSandbox clock) requests)) :
    FeesTelescope (run feeStep (newTenant isSandbox clock) requests) (closings (newTenant isSandbox clock) requests) := by
  have banked := run_banked [] _ requests (new_tenant_banked isSandbox clock) ordered
  rw [List.nil_append] at banked
  have fraction : ∀ closing ∈ closings (newTenant isSandbox clock) requests,
      0 ≤ closing.entry.carriedOut ∧ closing.entry.carriedOut < minorUnits :=
    fun closing member => (banked.each closing member).fraction
  have balanced : ∀ entry ∈ (closings (newTenant isSandbox clock) requests).map Closing.entry, entry.Balanced := by
    intro entry member
    obtain ⟨closing, closed, rfl⟩ := List.mem_map.mp member
    exact (banked.each closing closed).balanced
  have total := chain_telescopes 0 _ banked.chained balanced
  rw [List.map_map, List.map_map, add_zero] at total
  have last := last_out_of (fun carried => 0 ≤ carried ∧ carried < minorUnits) 0
    ((closings (newTenant isSandbox clock) requests).map Closing.entry) (by simp [minorUnits]) (by
      intro entry member
      obtain ⟨closing, closed, rfl⟩ := List.mem_map.mp member
      exact fraction closing closed)
  have sums : ((closings (newTenant isSandbox clock) requests).map Closing.platformFeeMicros).sum +
      lastOut 0 ((closings (newTenant isSandbox clock) requests).map Closing.entry) =
        ((closings (newTenant isSandbox clock) requests).map Closing.exactFeeMicros).sum := total
  refine ⟨banked.carries, banked.platformFees, fun closing member => (banked.each closing member).whole, fraction,
    banked.chained, sums, ?_, ?_⟩
  · omega
  · omega

-- One per cent and a flat 40 micros a month, over two months of usage.
def underFees (event : Event) : FeeEvent :=
  ⟨event, [{ product := "metering", feeType := .percentage, percentage := .finite ⟨1, 0⟩ },
    { product := "billing", feeType := .flat, amountMicros := some 40 }], ⟨1, 0⟩⟩

def twoMonthsOfUsage : List Event :=
  [.insert ⟨"ev-1"⟩ .meteredUsage (some 1234567), .commit ⟨"ev-1"⟩, .handle ⟨"ev-1"⟩ lastOfJanuary, .tick firstOfFebruary] ++
    closeJanuary ++
    [.insert ⟨"ev-2"⟩ .meteredUsage (some 800000), .commit ⟨"ev-2"⟩, .handle ⟨"ev-2"⟩ firstOfFebruary, .tick firstOfMarch,
      .loadClose 2 1, .read 2 false, .write 2, .finish 2, .finish 2]

def twoMonths : List FeeEvent := twoMonthsOfUsage.map underFees

theorem two_months_telescope :
    (closings (newTenant false lastOfJanuary) twoMonths).map (fun closing => (closing.exactFeeMicros,
        closing.entry.carriedIn, closing.platformFeeMicros, closing.entry.carriedOut)) =
      [(12385, 0, 10000, 2385), (8040, 2385, 10000, 425)] ∧
    FeesTelescope (run feeStep (newTenant false lastOfJanuary) twoMonths)
      (closings (newTenant false lastOfJanuary) twoMonths) :=
  ⟨by decide +kernel, platform_fee_telescopes false lastOfJanuary twoMonths (by decide +kernel)⟩

end Ubb.TenantBilling
