import Ubb.Invoicing.Machine

set_option autoImplicit false

namespace Ubb.Invoicing

open Ubb.Library

-- A month whose carry has moved: billed, or carried whole below one minor unit.
def Consumed (row : UsageInvoice) : Prop := row.status = .pushed ∨ row.carriedBelowMinorUnit

instance (row : UsageInvoice) : Decidable (Consumed row) := inferInstanceAs (Decidable (_ ∨ _))

def unconsumedCarry (state : State) : Int :=
  ((state.rows.filter (fun row => decide (¬ Consumed row))).map (fun row => row.carryInMicros.getD 0)).sum

def consumedBilledMicros (state : State) : Int :=
  ((state.rows.filter (fun row => decide (Consumed row))).map (fun row => row.billedMinorUnits * minorUnits)).sum

def consumedLineMicros (state : State) : Int :=
  ((state.rows.filter (fun row => decide (Consumed row))).map (fun row => lineTotal row.lineSnapshot)).sum

def Conserved (state : State) : Prop :=
  state.ledgerMicros + unconsumedCarry state + consumedBilledMicros state = consumedLineMicros state

instance (state : State) : Decidable (Conserved state) := inferInstanceAs (Decidable (_ = _))

def InRange (row : UsageInvoice) : Prop := 0 ≤ row.residualMicros ∧ row.residualMicros < minorUnits

instance (row : UsageInvoice) : Decidable (InRange row) := inferInstanceAs (Decidable (_ ∧ _))

-- What one month holds against the ledger, and the sum of it all: conserved
-- means that this is zero.
def stake (row : UsageInvoice) : Int :=
  if Consumed row then row.billedMinorUnits * minorUnits - lineTotal row.lineSnapshot else row.carryInMicros.getD 0

def imbalance (state : State) : Int := state.ledgerMicros + (state.rows.map stake).sum

theorem conserved_iff_balanced (state : State) : Conserved state ↔ imbalance state = 0 := by
  have split : (state.rows.map stake).sum =
      unconsumedCarry state + consumedBilledMicros state - consumedLineMicros state := by
    rw [unconsumedCarry, consumedBilledMicros, consumedLineMicros, sum_filter_eq, sum_filter_eq, sum_filter_eq]
    generalize state.rows = rows
    induction rows with
    | nil => rfl
    | cons row rest ih =>
        simp only [List.map_cons, List.sum_cons, ih, stake]
        by_cases consumed : Consumed row
        · simp only [consumed, if_true, not_true_eq_false, decide_true, decide_false, Bool.false_eq_true, if_false]
          omega
        · simp only [consumed, if_false, not_false_eq_true, decide_true, decide_false, Bool.false_eq_true, if_true]
          omega
  rw [Conserved, imbalance, split]
  omega

def Settled (row : UsageInvoice) : Prop :=
  row.billedMinorUnits * minorUnits + row.residualMicros = lineTotal row.lineSnapshot + row.carryInMicros.getD 0

def Carries (worker : PushWorker) (row : UsageInvoice) : Prop :=
  row.month = worker.month ∧ row.lineSnapshot = worker.lines ∧ row.carryInMicros = some worker.carryIn

structure Sound (state : State) : Prop where
  months : (state.rows.map (fun row => row.month)).Nodup
  workers : ∀ worker ∈ state.workers, worker.lines ≠ [] ∧ ∃ row ∈ state.rows, Carries worker row
  settled : ∀ row ∈ state.rows, Consumed row → Settled row
  inRange : ∀ row ∈ state.rows, InRange row

theorem empty_sound : Sound State.empty :=
  { months := List.nodup_nil, workers := by simp [State.empty], settled := by simp [State.empty]
    inRange := by simp [State.empty] }

structure Frozen (before after : UsageInvoice) : Prop where
  month : after.month = before.month
  lines : after.lineSnapshot = before.lineSnapshot
  carry : after.carryInMicros = before.carryInMicros
  residual : after.residualMicros = before.residualMicros
  billed : after.billedMinorUnits = before.billedMinorUnits

theorem Frozen.refl (row : UsageInvoice) : Frozen row row := ⟨rfl, rfl, rfl, rfl, rfl⟩

structure Releases (write : UsageInvoice → UsageInvoice) : Prop where
  frozen : ∀ row, Frozen row (write row)
  consumes : ∀ row, Consumed (write row) → Consumed row

theorem frozen_settled (before after : UsageInvoice) (kept : Frozen before after) (settled : Settled before) :
    Settled after := by
  rw [Settled, kept.billed, kept.residual, kept.lines, kept.carry]
  exact settled

theorem frozen_in_range (before after : UsageInvoice) (kept : Frozen before after) (range : InRange before) :
    InRange after := by
  rw [InRange, kept.residual]
  exact range

theorem frozen_stake (before after : UsageInvoice) (kept : Frozen before after)
    (same : Consumed after ↔ Consumed before) : stake after = stake before := by
  rw [stake, stake, kept.billed, kept.lines, kept.carry, if_congr same rfl rfl]

-- Reopening a consumed month puts its carry back in play while the residual it
-- became stays deposited.
theorem reopened_stake (before after : UsageInvoice) (kept : Frozen before after) (settled : Settled before)
    (consumed : Consumed before) (reopened : ¬ Consumed after) : stake after = stake before + before.residualMicros := by
  rw [Settled] at settled
  rw [stake, if_neg reopened, kept.carry, stake, if_pos consumed]
  omega

theorem row_found (state : State) (month : Nat) (row : UsageInvoice) (found : state.row month = some row) :
    row ∈ state.rows ∧ row.month = month :=
  find_key_some UsageInvoice.month month state.rows row found

theorem row_missing (state : State) (month : Nat) (missing : state.row month = none) :
    ∀ row ∈ state.rows, row.month ≠ month :=
  find_key_none UsageInvoice.month month state.rows missing

theorem row_at_month (state : State) (sound : Sound state) (row : UsageInvoice) (member : row ∈ state.rows) :
    state.row row.month = some row := by
  rw [State.row]
  exact find_key_of_mem UsageInvoice.month state.rows sound.months row member

structure Lands (state : State) (month : Nat) (next : UsageInvoice) : Prop where
  sameMonth : next.month = month
  workers : ∀ worker ∈ state.workers, worker.month = month → Carries worker next
  settled : Consumed next → Settled next
  inRange : InRange next

theorem write_sound (state : State) (month : Nat) (write : UsageInvoice → UsageInvoice) (sound : Sound state)
    (lands : ∀ row, state.row month = some row → Lands state month (write row)) : Sound (state.write month write) := by
  have rewritten : ∀ row ∈ state.rows, row.month = month → Lands state month (write row) := by
    intro row member hit
    apply lands
    rw [← hit]
    exact row_at_month state sound row member
  constructor
  · have sameMonths : (state.write month write).rows.map (fun row => row.month) =
        state.rows.map (fun row => row.month) := by
      rw [State.write, updateRow, List.map_map]
      apply List.map_congr_left
      intro row member
      by_cases hit : row.month = month
      · simp [hit, (rewritten row member hit).sameMonth]
      · simp [hit]
    rw [sameMonths]
    exact sound.months
  · intro worker member
    obtain ⟨some_line, row, inside, carries⟩ := sound.workers worker member
    refine ⟨some_line, if row.month = month then write row else row, List.mem_map.mpr ⟨row, inside, rfl⟩, ?_⟩
    by_cases hit : row.month = month
    · rw [if_pos hit]
      exact (rewritten row inside hit).workers worker member (carries.1.symm.trans hit)
    · rw [if_neg hit]
      exact carries
  · intro row member consumed
    rcases mem_update_row _ month write state.rows row member with ⟨kept, _⟩ | ⟨before, inside, hit, rfl⟩
    · exact sound.settled row kept consumed
    · exact (rewritten before inside hit).settled consumed
  · intro row member
    rcases mem_update_row _ month write state.rows row member with ⟨kept, _⟩ | ⟨before, inside, hit, rfl⟩
    · exact sound.inRange row kept
    · exact (rewritten before inside hit).inRange

theorem worker_row (state : State) (sound : Sound state) (worker : PushWorker) (member : worker ∈ state.workers)
    (row : UsageInvoice) (found : state.row worker.month = some row) : Carries worker row := by
  obtain ⟨_, held, inside, carries⟩ := sound.workers worker member
  have same := row_at_month state sound held inside
  rw [carries.1, found, Option.some.injEq] at same
  rw [same]
  exact carries

theorem frozen_lands (state : State) (sound : Sound state) (month : Nat) (row next : UsageInvoice)
    (found : state.row month = some row) (kept : Frozen row next) (consumes : Consumed next → Consumed row) :
    Lands state month next := by
  obtain ⟨member, hit⟩ := row_found state month row found
  constructor
  · rw [kept.month, hit]
  · intro worker working same
    have carries := worker_row state sound worker working row (by rw [same, found])
    rw [Carries, kept.month, kept.lines, kept.carry]
    exact carries
  · intro consumed
    exact frozen_settled row next kept (sound.settled row member (consumes consumed))
  · exact frozen_in_range row next kept (sound.inRange row member)

theorem release_sound (state : State) (month : Nat) (write : UsageInvoice → UsageInvoice) (sound : Sound state)
    (releases : Releases write) : Sound (state.write month write) := by
  apply write_sound state month write sound
  intro row found
  exact frozen_lands state sound month row (write row) found (releases.frozen row) (releases.consumes row)

theorem leave_sound (state : State) (worker : PushWorker) (sound : Sound state) : Sound (state.leave worker) :=
  { months := sound.months
    workers := fun other member => sound.workers other (List.mem_of_mem_erase member)
    settled := sound.settled
    inRange := sound.inRange }

theorem imbalance_write_missing (state : State) (month : Nat) (write : UsageInvoice → UsageInvoice)
    (missing : state.row month = none) : imbalance (state.write month write) = imbalance state := by
  rw [imbalance, imbalance, State.write, update_row_missing _ _ _ _ (row_missing state month missing)]

theorem imbalance_write_found (state : State) (month : Nat) (write : UsageInvoice → UsageInvoice) (row : UsageInvoice)
    (sound : Sound state) (found : state.row month = some row) :
    imbalance (state.write month write) = imbalance state - stake row + stake (write row) := by
  obtain ⟨member, hit⟩ := row_found state month row found
  have moved := sum_update_row (fun row => row.month) month write stake state.rows row sound.months member hit
  simp only [imbalance, State.write, moved]
  omega

theorem imbalance_write_quiet (state : State) (month : Nat) (write : UsageInvoice → UsageInvoice)
    (quiet : ∀ row, stake (write row) = stake row) : imbalance (state.write month write) = imbalance state := by
  rw [imbalance, imbalance, State.write, update_row_map _ _ _ _ _ quiet]

-- The guarded updates start at a row in flight, so as long as they do not
-- consume it they leave what every month holds alone.
theorem while_pushing_frozen (write : UsageInvoice → UsageInvoice) (keeps : ∀ row, Frozen row (write row))
    (row : UsageInvoice) : Frozen row (whilePushing write row) := by
  rw [whilePushing]
  by_cases pushing : row.status = .pushing
  · rw [if_pos pushing]
    exact keeps row
  · rw [if_neg pushing]
    exact Frozen.refl row

theorem while_pushing_consumed (write : UsageInvoice → UsageInvoice)
    (stays : ∀ row, row.status = .pushing → ¬ Consumed (write row)) (row : UsageInvoice) :
    Consumed (whilePushing write row) ↔ Consumed row := by
  rw [whilePushing]
  by_cases pushing : row.status = .pushing
  · have before : ¬ Consumed row := by simp [Consumed, UsageInvoice.carriedBelowMinorUnit, pushing]
    simp [pushing, before, stays row pushing]
  · simp [pushing]

structure Quiet (write : UsageInvoice → UsageInvoice) : Prop where
  frozen : ∀ row, Frozen row (write row)
  consumed : ∀ row, Consumed (write row) ↔ Consumed row

theorem while_pushing_quiet (write : UsageInvoice → UsageInvoice) (keeps : ∀ row, Frozen row (write row))
    (stays : ∀ row, row.status = .pushing → ¬ Consumed (write row)) : Quiet (whilePushing write) :=
  { frozen := while_pushing_frozen write keeps, consumed := while_pushing_consumed write stays }

theorem Quiet.releases (write : UsageInvoice → UsageInvoice) (quiet : Quiet write) : Releases write :=
  { frozen := quiet.frozen, consumes := fun row => (quiet.consumed row).mp }

theorem fail_push_quiet : Quiet failPush :=
  while_pushing_quiet _ (fun _ => ⟨rfl, rfl, rfl, rfl, rfl⟩)
    (fun _ _ => by simp [Consumed, UsageInvoice.carriedBelowMinorUnit])

theorem park_push_quiet : Quiet parkPush :=
  while_pushing_quiet _ (fun _ => ⟨rfl, rfl, rfl, rfl, rfl⟩)
    (fun _ _ => by simp [Consumed, UsageInvoice.carriedBelowMinorUnit])

theorem reclaim_stale_quiet : Quiet reclaimStale :=
  while_pushing_quiet _ (fun _ => ⟨rfl, rfl, rfl, rfl, rfl⟩)
    (fun _ _ => by simp [Consumed, UsageInvoice.carriedBelowMinorUnit])

theorem persist_target_quiet (target : InvoiceId) (kind : InvoiceKind) : Quiet (persistTarget target kind) :=
  while_pushing_quiet _ (fun _ => ⟨rfl, rfl, rfl, rfl, rfl⟩)
    (fun _ pushing => by simp [Consumed, UsageInvoice.carriedBelowMinorUnit, pushing])

theorem note_phase_quiet (phase : PushPhase) : Quiet (notePhase phase) :=
  while_pushing_quiet _ (fun _ => ⟨rfl, rfl, rfl, rfl, rfl⟩)
    (fun _ pushing => by simp [Consumed, UsageInvoice.carriedBelowMinorUnit, pushing])

theorem count_raised_quiet (now : Int) : Quiet (countRaisedClaim now) := by
  constructor
  · intro row
    rw [countRaisedClaim]
    split
    · exact ⟨rfl, rfl, rfl, rfl, rfl⟩
    · exact Frozen.refl row
  · intro row
    rw [countRaisedClaim]
    by_cases counted : row.status = .pending ∨ row.status = .failed
    · rcases counted with pending | failed
      · simp [Consumed, UsageInvoice.carriedBelowMinorUnit, pending]
      · simp [Consumed, UsageInvoice.carriedBelowMinorUnit, failed]
    · rw [if_neg counted]

theorem supersede_seat_quiet : Quiet supersedeSeat := by
  constructor
  · intro row
    rw [supersedeSeat]
    split
    · exact ⟨rfl, rfl, rfl, rfl, rfl⟩
    · exact Frozen.refl row
  · intro row
    rw [supersedeSeat]
    by_cases superseded : (row.status = .pending ∨ row.status = .failed ∨ row.status = .skipped) ∧
        row.skipReason ≠ some .belowMinorUnit
    · obtain ⟨status, reason⟩ := superseded
      rcases status with pending | failed | skipped
      · simp [Consumed, UsageInvoice.carriedBelowMinorUnit, pending, reason]
      · simp [Consumed, UsageInvoice.carriedBelowMinorUnit, failed, reason]
      · simp [Consumed, UsageInvoice.carriedBelowMinorUnit, skipped, reason]
    · rw [if_neg superseded]

theorem reset_for_repush_releases : Releases resetForRepush :=
  { frozen := fun _ => ⟨rfl, rfl, rfl, rfl, rfl⟩
    consumes := fun row consumed => by
      simp [Consumed, UsageInvoice.carriedBelowMinorUnit, resetForRepush] at consumed }

-- The recovery's two updates rewrite a skipped row and leave the rest. Neither
-- asks why the row was skipped.
section

variable (write : UsageInvoice → UsageInvoice) (keeps : ∀ row, Frozen row (write row))
  (opens : ∀ row, row.status = .skipped → ¬ Consumed (write row))

include opens

include keeps in
theorem if_skipped_releases : Releases (fun row => if row.status = .skipped then write row else row) := by
  refine ⟨?_, ?_⟩
  · intro row
    by_cases skipped : row.status = .skipped
    · simp only [skipped, if_true]
      exact keeps row
    · simp only [skipped, if_false]
      exact Frozen.refl row
  · intro row consumed
    by_cases skipped : row.status = .skipped
    · simp only [skipped, if_true] at consumed
      exact absurd consumed (opens row skipped)
    · simpa only [skipped, if_false] using consumed

theorem if_skipped_reopens (row : UsageInvoice) (below : row.carriedBelowMinorUnit) :
    Consumed row ∧ ¬ Consumed (if row.status = .skipped then write row else row) := by
  rw [if_pos below.1]
  exact ⟨.inr below, opens row below.1⟩

theorem if_skipped_spares (row : UsageInvoice) (spared : ¬ row.carriedBelowMinorUnit) :
    Consumed (if row.status = .skipped then write row else row) ↔ Consumed row := by
  by_cases skipped : row.status = .skipped
  · have before : ¬ Consumed row := by simp [Consumed, skipped, spared]
    rw [if_pos skipped]
    exact iff_of_false (opens row skipped) before
  · rw [if_neg skipped]

end

theorem recovered_is_open (row : UsageInvoice) (_ : row.status = .skipped) :
    ¬ Consumed { row with status := .pending, skipReason := none } := by
  simp [Consumed, UsageInvoice.carriedBelowMinorUnit]

theorem relabelled_is_open (row : UsageInvoice) (skipped : row.status = .skipped) :
    ¬ Consumed { row with skipReason := some .seatSuperseded } := by
  simp [Consumed, UsageInvoice.carriedBelowMinorUnit, skipped]

theorem recover_skipped_releases : Releases recoverSkipped :=
  if_skipped_releases _ (fun _ => ⟨rfl, rfl, rfl, rfl, rfl⟩) recovered_is_open

theorem relabel_skipped_releases : Releases relabelSkipped :=
  if_skipped_releases _ (fun _ => ⟨rfl, rfl, rfl, rfl, rfl⟩) relabelled_is_open

end Ubb.Invoicing
