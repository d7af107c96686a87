import Ubb.Invoicing.Accounts

set_option autoImplicit false

namespace Ubb.Invoicing

open Ubb.Library

theorem quiet_stake (write : UsageInvoice → UsageInvoice) (quiet : Quiet write) (row : UsageInvoice) :
    stake (write row) = stake row :=
  frozen_stake row (write row) (quiet.frozen row) (quiet.consumed row)

theorem claim_returned (state : State) (month : Nat) (read : ClaimRead) (row next : UsageInvoice) (sound : Sound state)
    (found : state.row month = some row) (returned : claimPeriod read state.ledgerMicros row = .returned next)
    (kept : Frozen row next) (same : Consumed next ↔ Consumed row) :
    Sound (claim state month read) ∧ imbalance (claim state month read) = imbalance state := by
  simp only [claim, found, returned]
  constructor
  · apply write_sound state month _ sound
    intro other again
    rw [found, Option.some.injEq] at again
    subst again
    exact frozen_lands state sound month row next found kept same.mp
  · rw [imbalance_write_found state month _ row sound found, frozen_stake row next kept same]
    omega

theorem claim_taken (state : State) (month : Nat) (read : ClaimRead) (row next : UsageInvoice) (ledgerMicros : Int)
    (sound : Sound state) (found : state.row month = some row)
    (taken : claimPeriod read state.ledgerMicros row = .taken next ledgerMicros)
    (started : ¬ Consumed row) (pushing : next.status = .pushing)
    (sameMonth : next.month = row.month) (sameResidual : next.residualMicros = row.residualMicros)
    (lines : next.lineSnapshot = claimLines read row) (some_line : claimLines read row ≠ [])
    (carry : next.carryInMicros = some (row.carryInMicros.getD state.ledgerMicros))
    (left : ledgerMicros = if row.carryInMicros = none then 0 else state.ledgerMicros) :
    Sound (claim state month read) ∧ imbalance (claim state month read) = imbalance state := by
  obtain ⟨member, hit⟩ := row_found state month row found
  have open_after : ¬ Consumed next := by simp [Consumed, UsageInvoice.carriedBelowMinorUnit, pushing]
  have lands : Lands state month next := by
    constructor
    · rw [sameMonth, hit]
    · -- A push in flight means that the lines and the carry are pinned already.
      intro worker working same
      obtain ⟨_, heldLines, heldCarry⟩ := worker_row state sound worker working row (by rw [same, found])
      have frozen : row.lineSnapshot ≠ [] := by
        rw [heldLines]
        exact (sound.workers worker working).1
      refine ⟨by rw [sameMonth, hit, same], ?_, by rw [carry, heldCarry]; rfl⟩
      rw [lines, claimLines, if_neg frozen, heldLines]
    · intro consumed
      exact absurd consumed open_after
    · rw [InRange, sameResidual]
      exact sound.inRange row member
  have written := write_sound state month (fun _ => next) sound (fun _ _ => lands)
  simp only [claim, found, taken]
  constructor
  · refine ⟨written.months, ?_, written.settled, written.inRange⟩
    intro worker working
    rcases List.mem_cons.mp working with here | earlier
    · refine ⟨by rw [here, lines]; exact some_line, next, ?_, ?_⟩
      · exact List.mem_map.mpr ⟨row, member, if_pos hit⟩
      · rw [here]
        exact ⟨by rw [sameMonth, hit], rfl, by rw [carry]; rfl⟩
    · exact written.workers worker earlier
  · have moved := imbalance_write_found state month (fun _ => next) row sound found
    rw [stake, if_neg started, stake, if_neg open_after, carry] at moved
    simp only [imbalance, State.write, Option.getD_some] at moved ⊢
    rw [left]
    cases pinned : row.carryInMicros with
    | none =>
        simp only [pinned, Option.getD_none, if_true] at moved ⊢
        omega
    | some held =>
        simp only [pinned, Option.getD_some, reduceCtorEq, if_false] at moved ⊢
        omega

theorem claim_sound (state : State) (month : Nat) (read : ClaimRead) (sound : Sound state) :
    Sound (claim state month read) ∧ imbalance (claim state month read) = imbalance state := by
  cases found : state.row month with
  | none => simp [claim, found, sound]
  | some row =>
      rcases claim_cases read state.ledgerMicros row with
        returned | ⟨unpushed, _, _, notBelow, ⟨_, returned⟩ | ⟨reason, skipped, returned⟩ | ⟨goes, taken⟩⟩
      · exact claim_returned state month read row row sound found returned (Frozen.refl row) Iff.rfl
      · have started : ¬ Consumed row := by simp [Consumed, unpushed, notBelow]
        exact claim_returned state month read row _ sound found returned ⟨rfl, rfl, rfl, rfl, rfl⟩
          (by simp [started]; simp [Consumed, UsageInvoice.carriedBelowMinorUnit])
      · have started : ¬ Consumed row := by simp [Consumed, unpushed, notBelow]
        have other : reason ≠ .belowMinorUnit := by
          intro same
          rw [same] at skipped
          exact skip_of_not_below read _ skipped
        exact claim_returned state month read row _ sound found returned ⟨rfl, rfl, rfl, rfl, rfl⟩
          (by simp [started]; simp [Consumed, UsageInvoice.carriedBelowMinorUnit, other])
      · have started : ¬ Consumed row := by simp [Consumed, unpushed, notBelow]
        exact claim_taken state month read row _ _ sound found taken started rfl rfl rfl rfl
          (unskipped_lines read _ goes) rfl rfl

structure Recorded (billedMinorUnits residualMicros : Int) (before after : UsageInvoice) : Prop where
  sameMonth : after.month = before.month
  sameLines : after.lineSnapshot = before.lineSnapshot
  sameCarry : after.carryInMicros = before.carryInMicros
  residual : after.residualMicros = residualMicros
  billed : after.billedMinorUnits = billedMinorUnits
  consumed : Consumed after

theorem record_push_recorded (landed : Option InvoiceId) (billedMinorUnits residualMicros : Int) (row : UsageInvoice) :
    Recorded billedMinorUnits residualMicros row (recordPush landed billedMinorUnits residualMicros row) := by
  cases landed with
  | none => exact ⟨rfl, rfl, rfl, rfl, rfl, .inr ⟨rfl, rfl⟩⟩
  | some id => exact ⟨rfl, rfl, rfl, rfl, rfl, .inl rfl⟩

theorem recorded_lands (state : State) (sound : Sound state) (month : Nat) (row next : UsageInvoice) (lines : List Line)
    (carryIn : Int) (found : state.row month = some row) (heldLines : row.lineSnapshot = lines)
    (heldCarry : row.carryInMicros = some carryIn) (some_line : lines ≠ [])
    (recorded : Recorded (centTotal (floorLines 0 lines carryIn).1) (floorLines 0 lines carryIn).2 row next) :
    Lands state month next := by
  constructor
  · rw [recorded.sameMonth, (row_found state month row found).2]
  · intro worker working same
    have carries := worker_row state sound worker working row (by rw [same, found])
    rw [Carries, recorded.sameMonth, recorded.sameLines, recorded.sameCarry]
    exact carries
  · intro _
    rw [Settled, recorded.billed, recorded.residual, recorded.sameLines, recorded.sameCarry, heldLines, heldCarry]
    exact floor_lines_conserve 0 lines carryIn
  · rw [InRange, recorded.residual]
    exact floor_lines_residual_range 0 lines carryIn some_line

theorem record_sound (state : State) (worker : PushWorker) (invoice : InvoiceId) (sound : Sound state)
    (working : worker ∈ state.workers) :
    Sound (record state worker invoice) ∧ imbalance (record state worker invoice) = imbalance state := by
  have left := leave_sound state worker sound
  cases found : state.row worker.month with
  | none =>
      simp only [record, found]
      exact ⟨left, rfl⟩
  | some row =>
      by_cases pushing : row.status = .pushing
      · obtain ⟨_, heldLines, heldCarry⟩ := worker_row state sound worker working row found
        have some_line := (sound.workers worker working).1
        have conserved := floor_lines_conserve 0 worker.lines worker.carryIn
        have foundLeft : (state.leave worker).row worker.month = some row := found
        have started : ¬ Consumed row := by simp [Consumed, UsageInvoice.carriedBelowMinorUnit, pushing]
        simp only [record, found, pushing, if_true]
        generalize (if (floorLines 0 worker.lines worker.carryIn).1 = [] then none else some invoice) = landed
        have recorded := record_push_recorded landed (centTotal (floorLines 0 worker.lines worker.carryIn).1)
          (floorLines 0 worker.lines worker.carryIn).2
        constructor
        · have written := write_sound (state.leave worker) worker.month
            (recordPush landed (centTotal (floorLines 0 worker.lines worker.carryIn).1)
              (floorLines 0 worker.lines worker.carryIn).2) left (by
              intro other again
              rw [foundLeft, Option.some.injEq] at again
              subst again
              exact recorded_lands (state.leave worker) left worker.month row _ worker.lines worker.carryIn foundLeft
                heldLines heldCarry some_line (recorded row))
          exact ⟨written.months, written.workers, written.settled, written.inRange⟩
        · have moved := imbalance_write_found (state.leave worker) worker.month
            (recordPush landed (centTotal (floorLines 0 worker.lines worker.carryIn).1)
              (floorLines 0 worker.lines worker.carryIn).2) row left foundLeft
          rw [stake, if_neg started, stake, if_pos (recorded row).consumed, (recorded row).billed,
            (recorded row).sameLines, heldLines, heldCarry] at moved
          simp only [imbalance, State.write, State.leave, Option.getD_some] at moved ⊢
          omega
      · simp only [record, found, pushing, if_false]
        exact ⟨left, rfl⟩

theorem get_or_create_sound (state : State) (month : Nat) (sound : Sound state) :
    Sound (getOrCreate state month) ∧ imbalance (getOrCreate state month) = imbalance state := by
  cases found : state.row month with
  | some row => simp [getOrCreate, found, sound]
  | none =>
      have absent := row_missing state month found
      simp only [getOrCreate, found]
      constructor
      · constructor
        · exact nodup_add_row UsageInvoice.month state.rows _ sound.months absent
        · intro worker working
          obtain ⟨some_line, row, inside, carries⟩ := sound.workers worker working
          exact ⟨some_line, row, List.mem_append_left _ inside, carries⟩
        · intro row member consumed
          rcases List.mem_append.mp member with old | new
          · exact sound.settled row old consumed
          · rw [List.mem_singleton.mp new] at consumed
            simp [Consumed, UsageInvoice.carriedBelowMinorUnit, UsageInvoice.new] at consumed
        · intro row member
          rcases List.mem_append.mp member with old | new
          · exact sound.inRange row old
          · rw [List.mem_singleton.mp new]
            exact ⟨Int.le_refl 0, by simp [UsageInvoice.new, minorUnits]⟩
      · have fresh : stake (UsageInvoice.new month) = 0 := by
          rw [stake, if_neg (by simp [Consumed, UsageInvoice.carriedBelowMinorUnit, UsageInvoice.new])]
          rfl
        simp [imbalance, fresh]

theorem quiet_sound (state : State) (month : Nat) (write : UsageInvoice → UsageInvoice) (sound : Sound state)
    (quiet : Quiet write) :
    Sound (state.write month write) ∧ imbalance (state.write month write) = imbalance state :=
  ⟨release_sound state month write sound (quiet.releases write),
    imbalance_write_quiet state month write (quiet_stake write quiet)⟩

-- The write-backs that ask too little of the row they land on: the command's
-- save asks nothing, the recovery's update only that the row reads `skipped`.
-- A month reopened so still holds the carry whose residual was deposited.
def ReopensConsumed (state : State) : Event → Prop
  | .saveRepush month =>
      month ∈ state.repushes ∧ ∃ row ∈ state.rows, row.month = month ∧ Consumed row ∧ row.residualMicros ≠ 0
  | .recover month =>
      month ∈ state.recoveries ∧ ∃ row ∈ state.rows, row.month = month ∧ row.carriedBelowMinorUnit ∧ row.residualMicros ≠ 0
  | .relabel month =>
      month ∈ state.recoveries ∧ ∃ row ∈ state.rows, row.month = month ∧ row.carriedBelowMinorUnit ∧ row.residualMicros ≠ 0
  | _ => False

theorem release_imbalance (state : State) (month : Nat) (write : UsageInvoice → UsageInvoice)
    (Hit : UsageInvoice → Prop) (sound : Sound state) (releases : Releases write)
    (reopens : ∀ row, Hit row → Consumed row ∧ ¬ Consumed (write row))
    (spares : ∀ row, ¬ Hit row → (Consumed (write row) ↔ Consumed row)) :
    imbalance state ≤ imbalance (state.write month write) ∧
      (imbalance (state.write month write) = imbalance state ↔
        ¬ ∃ row ∈ state.rows, row.month = month ∧ Hit row ∧ row.residualMicros ≠ 0) := by
  cases found : state.row month with
  | none =>
      have absent := row_missing state month found
      rw [imbalance_write_missing state month write found]
      refine ⟨Int.le_refl _, ?_⟩
      simp only [true_iff]
      rintro ⟨row, member, hit, _⟩
      exact absent row member hit
  | some row =>
      obtain ⟨member, hit⟩ := row_found state month row found
      have only : ∀ other ∈ state.rows, other.month = month → other = row := by
        intro other inside same
        have again := row_at_month state sound other inside
        rw [same, found, Option.some.injEq] at again
        exact again.symm
      have moved := imbalance_write_found state month write row sound found
      by_cases hits : Hit row
      · obtain ⟨consumed, reopened⟩ := reopens row hits
        rw [reopened_stake row (write row) (releases.frozen row) (sound.settled row member consumed) consumed reopened] at moved
        have range := sound.inRange row member
        refine ⟨by have := range.1; omega, ?_⟩
        constructor
        · rintro same ⟨other, inside, sameMonth, _, nonzero⟩
          rw [only other inside sameMonth] at nonzero
          omega
        · intro spared
          have zero : row.residualMicros = 0 := by
            by_contra nonzero
            exact spared ⟨row, member, hit, hits, nonzero⟩
          omega
      · rw [frozen_stake row (write row) (releases.frozen row) (spares row hits)] at moved
        refine ⟨by omega, ?_⟩
        constructor
        · rintro _ ⟨other, inside, sameMonth, otherHits, _⟩
          rw [only other inside sameMonth] at otherHits
          exact hits otherHits
        · intro _
          omega

theorem reset_reopens (row : UsageInvoice) : ¬ Consumed (resetForRepush row) := by
  simp [Consumed, UsageInvoice.carriedBelowMinorUnit, resetForRepush]

def Balanced (state next : State) (Reopens : Prop) : Prop :=
  Sound next ∧ imbalance state ≤ imbalance next ∧ (imbalance next = imbalance state ↔ ¬ Reopens)

theorem still_balanced (state next : State) (kept : Sound next ∧ imbalance next = imbalance state) :
    Balanced state next False :=
  ⟨kept.1, Int.le_of_eq kept.2.symm, by simp [kept.2]⟩

theorem guarded_balanced (state next : State) (guard : Prop) [Decidable guard] (sound : Sound state)
    (kept : guard → Sound next ∧ imbalance next = imbalance state) :
    Balanced state (if guard then next else state) False := by
  apply still_balanced
  by_cases passes : guard
  · rw [if_pos passes]
    exact kept passes
  · rw [if_neg passes]
    exact ⟨sound, rfl⟩

theorem write_back_balanced (state next : State) (month : Nat) (write : UsageInvoice → UsageInvoice)
    (Hit : UsageInvoice → Prop) (held : Prop) [Decidable held] (sound : Sound state) (releases : Releases write)
    (reopens : ∀ row, Hit row → Consumed row ∧ ¬ Consumed (write row))
    (spares : ∀ row, ¬ Hit row → (Consumed (write row) ↔ Consumed row))
    (rows : next.rows = (state.write month write).rows) (ledger : next.ledgerMicros = state.ledgerMicros)
    (workers : next.workers = state.workers) :
    Balanced state (if held then next else state)
      (held ∧ ∃ row ∈ state.rows, row.month = month ∧ Hit row ∧ row.residualMicros ≠ 0) := by
  by_cases passes : held
  · have written := release_sound state month write sound releases
    have moved := release_imbalance state month write Hit sound releases reopens spares
    have same : imbalance next = imbalance (state.write month write) := by
      rw [imbalance, imbalance, rows, ledger]
      rfl
    rw [if_pos passes, Balanced, same]
    simp only [passes, true_and]
    refine ⟨⟨?_, ?_, ?_, ?_⟩, moved⟩
    · rw [rows]
      exact written.months
    · rw [rows, workers]
      exact written.workers
    · rw [rows]
      exact written.settled
    · rw [rows]
      exact written.inRange
  · rw [if_neg passes]
    exact ⟨sound, Int.le_refl _, by simp [passes]⟩

theorem step_balanced (state : State) (event : Event) (sound : Sound state) :
    Balanced state (step state event) (ReopensConsumed state event) := by
  cases event with
  | getOrCreate month => exact still_balanced state _ (get_or_create_sound state month sound)
  | claim month read => exact still_balanced state _ (claim_sound state month read sound)
  | raiseClaim month now => exact still_balanced state _ (quiet_sound state month _ sound (count_raised_quiet now))
  | persist worker target kind =>
      apply guarded_balanced state _ _ sound
      intro _
      exact quiet_sound state worker.month _ sound (persist_target_quiet target kind)
  | notePhase worker phase =>
      apply guarded_balanced state _ _ sound
      intro _
      exact quiet_sound state worker.month _ sound (note_phase_quiet phase)
  | fail worker =>
      apply guarded_balanced state _ _ sound
      intro _
      exact quiet_sound (state.leave worker) worker.month _ (leave_sound state worker sound) fail_push_quiet
  | park worker =>
      apply guarded_balanced state _ _ sound
      intro _
      exact quiet_sound (state.leave worker) worker.month _ (leave_sound state worker sound) park_push_quiet
  | record worker invoice =>
      apply guarded_balanced state _ _ sound
      intro working
      exact record_sound state worker invoice sound working
  | reclaim month => exact still_balanced state _ (quiet_sound state month _ sound reclaim_stale_quiet)
  | supersede month => exact still_balanced state _ (quiet_sound state month _ sound supersede_seat_quiet)
  | readRecovery month =>
      apply guarded_balanced state _ _ sound
      intro _
      exact ⟨⟨sound.months, sound.workers, sound.settled, sound.inRange⟩, rfl⟩
  | readRepush month =>
      apply guarded_balanced state _ _ sound
      intro _
      exact ⟨⟨sound.months, sound.workers, sound.settled, sound.inRange⟩, rfl⟩
  | recover month =>
      exact write_back_balanced state _ month recoverSkipped UsageInvoice.carriedBelowMinorUnit _ sound
        recover_skipped_releases (if_skipped_reopens _ recovered_is_open) (if_skipped_spares _ recovered_is_open)
        (by rfl) (by rfl) (by rfl)
  | relabel month =>
      exact write_back_balanced state _ month relabelSkipped UsageInvoice.carriedBelowMinorUnit _ sound
        relabel_skipped_releases (if_skipped_reopens _ relabelled_is_open) (if_skipped_spares _ relabelled_is_open)
        (by rfl) (by rfl) (by rfl)
  | saveRepush month =>
      refine write_back_balanced state _ month resetForRepush Consumed _ sound reset_for_repush_releases ?_ ?_
        (by rfl) (by rfl) (by rfl)
      · intro row consumed
        exact ⟨consumed, reset_reopens row⟩
      · intro row spared
        simp [spared, reset_reopens row]

theorem run_sound (events : List Event) : Sound (run step State.empty events) :=
  run_invariant step Sound (fun _ => True) (fun state event sound _ => (step_balanced state event sound).1) State.empty events
    empty_sound (fun _ _ => trivial)

theorem residuals_conserved_iff_no_consumed_month_reopened (events : List Event) :
    (∀ reached, reached <+: events →
      Conserved (run step State.empty reached) ∧ ∀ row ∈ (run step State.empty reached).rows, InRange row) ↔
    Along step (fun state event => ¬ ReopensConsumed state event) State.empty events := by
  have measured : ∀ reached, Conserved (run step State.empty reached) ↔
      Along step (fun state event => ¬ ReopensConsumed state event) State.empty reached := by
    intro reached
    rw [conserved_iff_balanced]
    exact (measure_kept_iff_along step Sound _ imbalance
      (fun state event sound => (step_balanced state event sound).1)
      (fun state event sound => (step_balanced state event sound).2.1)
      (fun state event sound => (step_balanced state event sound).2.2) State.empty reached empty_sound).2
  constructor
  · intro always
    exact (measured events).mp (always events (List.prefix_refl events)).1
  · intro spared reached stage
    refine ⟨(measured reached).mpr ?_, (run_sound reached).inRange⟩
    obtain ⟨later, split⟩ := stage
    rw [← split, along_append] at spared
    exact spared.1

-- An operator's command reads the failed month, the hourly pass bills it, and
-- the command's save sets it back to pending: the next push deposits the half
-- cent a second time.
def monthRead : ClaimRead :=
  { lines := [⟨"", 15000⟩], recordedAnything := true, hasStripeCustomer := true, chargeReady := true, railOpen := true
    now := 0, maxAttempts := 8, maxAgeSeconds := 72000 }

def monthPush : PushWorker := { month := 1, lines := [⟨"", 15000⟩], carryIn := 0 }

theorem stale_repush_deposits_the_residual_twice :
    ¬ Conserved (run step State.empty
      [.getOrCreate 1, .claim 1 monthRead, .fail monthPush, .readRepush 1, .claim 1 monthRead,
        .record monthPush .standalone, .saveRepush 1, .claim 1 monthRead, .record monthPush .standalone]) := by
  decide

end Ubb.Invoicing
