import Ubb.Invoicing.Model

set_option autoImplicit false

namespace Ubb.Invoicing

theorem to_minor_reassembles (amountMicros : Int) :
    (toMinor amountMicros).1 * minorUnits + (toMinor amountMicros).2 = amountMicros := by
  rw [toMinor, Int.mul_comm]
  exact Int.mul_ediv_add_emod amountMicros minorUnits

theorem to_minor_range (amountMicros : Int) : 0 ≤ (toMinor amountMicros).2 ∧ (toMinor amountMicros).2 < minorUnits :=
  ⟨Int.emod_nonneg amountMicros (by simp [minorUnits]), Int.emod_lt_of_pos amountMicros (by simp [minorUnits])⟩

-- The induction follows the loop: what a line bills and passes on is what it
-- was given, so nothing leaves between the carry in and the carry out.
theorem floor_lines_conserve (index : Nat) (lines : List Line) (carryIn : Int) :
    centTotal (floorLines index lines carryIn).1 * minorUnits + (floorLines index lines carryIn).2 =
      lineTotal lines + carryIn := by
  induction lines generalizing index carryIn with
  | nil => simp [floorLines, centTotal, lineTotal]
  | cons line rest ih =>
      have here := to_minor_reassembles (line.amountMicros + carryIn)
      have later := ih (index + 1) (toMinor (line.amountMicros + carryIn)).2
      have total : lineTotal (line :: rest) = line.amountMicros + lineTotal rest := by simp [lineTotal]
      rw [floorLines, total]
      by_cases nothing : (toMinor (line.amountMicros + carryIn)).1 = 0
      · rw [nothing] at here
        simp only [nothing, if_true]
        omega
      · have billed : ∀ cents : CentLine, centTotal (cents :: (floorLines (index + 1) rest
            (toMinor (line.amountMicros + carryIn)).2).1) =
              cents.cents + centTotal (floorLines (index + 1) rest (toMinor (line.amountMicros + carryIn)).2).1 := by
          intro cents
          simp [centTotal]
        simp only [nothing, if_false, billed, Int.add_mul]
        omega

theorem floor_lines_residual_from (index : Nat) (lines : List Line) (carryIn : Int) (started : 0 ≤ carryIn)
    (below : carryIn < minorUnits) :
    0 ≤ (floorLines index lines carryIn).2 ∧ (floorLines index lines carryIn).2 < minorUnits := by
  induction lines generalizing index carryIn with
  | nil => exact ⟨started, below⟩
  | cons line rest ih =>
      obtain ⟨nonneg, small⟩ := to_minor_range (line.amountMicros + carryIn)
      have later := ih (index + 1) (toMinor (line.amountMicros + carryIn)).2 nonneg small
      rw [floorLines]
      by_cases nothing : (toMinor (line.amountMicros + carryIn)).1 = 0
      · simpa only [nothing, if_true] using later
      · simpa only [nothing, if_false] using later

-- The ledger may hold more than one minor unit, but one line is enough to
-- floor it: what comes out is always a fraction of a minor unit.
theorem floor_lines_residual_range (index : Nat) (lines : List Line) (carryIn : Int) (some_line : lines ≠ []) :
    0 ≤ (floorLines index lines carryIn).2 ∧ (floorLines index lines carryIn).2 < minorUnits := by
  cases lines with
  | nil => exact absurd rfl some_line
  | cons line rest =>
      obtain ⟨nonneg, small⟩ := to_minor_range (line.amountMicros + carryIn)
      have later := floor_lines_residual_from (index + 1) rest (toMinor (line.amountMicros + carryIn)).2 nonneg small
      rw [floorLines]
      by_cases nothing : (toMinor (line.amountMicros + carryIn)).1 = 0
      · simpa only [nothing, if_true] using later
      · simpa only [nothing, if_false] using later

theorem lines_of_total (lines : List Line) (billable : lineTotal lines ≠ 0) : lines ≠ [] := by
  intro empty
  rw [empty] at billable
  exact billable rfl

theorem unskipped_lines (read : ClaimRead) (lines : List Line) (goes : skipOf read lines = none) : lines ≠ [] := by
  apply lines_of_total
  intro nothing
  simp [skipOf, nothing] at goes

theorem skip_of_not_below (read : ClaimRead) (lines : List Line) : skipOf read lines ≠ some .belowMinorUnit := by
  rw [skipOf]
  by_cases nothing : lineTotal lines = 0
  · cases recorded : read.recordedAnything with
    | false => simp [nothing]
    | true => simp [nothing]
  by_cases customer : read.hasStripeCustomer = false
  · simp [nothing, customer]
  by_cases ready : read.chargeReady = false
  · simp [nothing, customer, ready]
  by_cases rail : read.railOpen = false
  · simp [nothing, customer, ready, rail]
  · simp [nothing, customer, ready, rail]

theorem claim_cases (read : ClaimRead) (ledgerMicros : Int) (row : UsageInvoice) :
    claimPeriod read ledgerMicros row = .returned row ∨
    (row.status ≠ .pushed ∧ row.status ≠ .pushing ∧ row.status ≠ .failedPermanent ∧ ¬ row.carriedBelowMinorUnit ∧
      ((pushExhausted read row ∧
        claimPeriod read ledgerMicros row = .returned { row with status := .failedPermanent }) ∨
      (∃ reason, skipOf read (claimLines read row) = some reason ∧ claimPeriod read ledgerMicros row = .returned
        { row with
          totalBilledMicros := lineTotal (claimLines read row), status := .skipped, skipReason := some reason }) ∨
      (skipOf read (claimLines read row) = none ∧ claimPeriod read ledgerMicros row = .taken
        { row with
          totalBilledMicros := lineTotal (claimLines read row), lineSnapshot := claimLines read row
          status := .pushing, carryInMicros := some (row.carryInMicros.getD ledgerMicros)
          pushAttempts := row.pushAttempts + 1
          firstAttemptedAt := some (row.firstAttemptedAt.getD read.now) }
        (if row.carryInMicros = none then 0 else ledgerMicros)))) := by
  by_cases finished : row.status = .pushed ∨ row.status = .pushing
  · left
    rw [claimPeriod, if_pos finished]
  by_cases parked : row.status = .failedPermanent
  · left
    rw [claimPeriod, if_neg finished, if_pos parked]
  by_cases below : row.carriedBelowMinorUnit
  · left
    rw [claimPeriod, if_neg finished, if_neg parked, if_pos below]
  right
  rw [not_or] at finished
  refine ⟨finished.1, finished.2, parked, below, ?_⟩
  rw [claimPeriod, if_neg (not_or.mpr finished), if_neg parked, if_neg below]
  by_cases exhausted : pushExhausted read row
  · exact .inl ⟨exhausted, if_pos exhausted⟩
  rw [if_neg exhausted]
  cases skipped : skipOf read (claimLines read row) with
  | some reason => exact .inr (.inl ⟨reason, rfl, by simp only [skipped]⟩)
  | none => exact .inr (.inr ⟨rfl, by simp only [skipped]⟩)

end Ubb.Invoicing
