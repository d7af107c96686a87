import Ubb.Invoicing.Conservation
import Ubb.Invoicing.Recordings

set_option autoImplicit false

namespace Ubb.Invoicing

open Ubb.Library

def snapshotOf (state : State) (month : Nat) : List Line :=
  ((state.row month).map (fun row => row.lineSnapshot)).getD []

theorem write_row (state : State) (target : Nat) (write : UsageInvoice → UsageInvoice) (month : Nat)
    (keeps : ∀ row, row.month = target → (write row).month = target) :
    (state.write target write).row month = (state.row month).map (fun row => if month = target then write row else row) := by
  by_cases same : month = target
  · subst same
    simp only [if_true]
    exact find_update_row_hit (fun row => row.month) month write state.rows keeps
  · simp only [same, if_false, Option.map_id']
    exact find_update_row_other (fun row => row.month) target month write state.rows keeps same

theorem snapshot_write (state : State) (target : Nat) (write : UsageInvoice → UsageInvoice) (month : Nat)
    (frozen : ∀ row, Frozen row (write row)) : snapshotOf (state.write target write) month = snapshotOf state month := by
  rw [snapshotOf, write_row state target write month (fun row hit => (frozen row).month.trans hit), snapshotOf]
  cases state.row month with
  | none => rfl
  | some row =>
      by_cases same : month = target
      · simp [same, (frozen row).lines]
      · simp [same]

theorem snapshot_claim (state : State) (target month : Nat) (read : ClaimRead) :
    snapshotOf (claim state target read) month = snapshotOf state month ∨
      (month = target ∧ snapshotOf state month = [] ∧ snapshotOf (claim state target read) month = read.lines) := by
  cases found : state.row target with
  | none =>
      left
      simp only [claim, found]
  | some row =>
      obtain ⟨_, hit⟩ := row_found state target row found
      have rewritten : ∀ next, next.month = row.month →
          snapshotOf (state.write target (fun _ => next)) month =
            if month = target then next.lineSnapshot else snapshotOf state month := by
        intro next sameMonth
        rw [snapshotOf, write_row state target _ month (fun _ _ => sameMonth.trans hit)]
        by_cases same : month = target
        · simp [same, found]
        · simp [same, snapshotOf]
      have before : month = target → snapshotOf state month = row.lineSnapshot := by
        intro same
        simp [snapshotOf, same, found]
      have returns : ∀ next, claimPeriod read state.ledgerMicros row = .returned next → next.month = row.month →
          next.lineSnapshot = row.lineSnapshot → snapshotOf (claim state target read) month = snapshotOf state month := by
        intro next returned sameMonth sameLines
        simp only [claim, found, returned]
        rw [rewritten next sameMonth]
        by_cases same : month = target
        · rw [if_pos same, sameLines, before same]
        · rw [if_neg same]
      rcases claim_cases read state.ledgerMicros row with
        returned | ⟨_, _, _, _, ⟨_, returned⟩ | ⟨reason, _, returned⟩ | ⟨_, taken⟩⟩
      · exact .inl (returns row returned rfl rfl)
      · exact .inl (returns _ returned rfl rfl)
      · exact .inl (returns _ returned rfl rfl)
      · have after : snapshotOf (claim state target read) month =
            if month = target then claimLines read row else snapshotOf state month := by
          simp only [claim, found, taken]
          exact rewritten _ rfl
        rw [after]
        by_cases same : month = target
        · rw [if_pos same, claimLines, before same]
          by_cases fresh : row.lineSnapshot = []
          · rw [if_pos fresh]
            exact .inr ⟨same, fresh, rfl⟩
          · rw [if_neg fresh]
            exact .inl rfl
        · rw [if_neg same]
          exact .inl rfl

theorem snapshot_record (state : State) (worker : PushWorker) (invoice : InvoiceId) (month : Nat) :
    snapshotOf (record state worker invoice) month = snapshotOf state month := by
  cases found : state.row worker.month with
  | none =>
      simp only [record, found]
      rfl
  | some row =>
      by_cases pushing : row.status = .pushing
      · simp only [record, found, pushing, if_true]
        generalize (if (floorLines 0 worker.lines worker.carryIn).1 = [] then none else some invoice) = landed
        have recorded := record_push_recorded landed (centTotal (floorLines 0 worker.lines worker.carryIn).1)
          (floorLines 0 worker.lines worker.carryIn).2
        have looked := write_row (state.leave worker) worker.month
          (recordPush landed (centTotal (floorLines 0 worker.lines worker.carryIn).1)
            (floorLines 0 worker.lines worker.carryIn).2) month
          (fun other hit => (recorded other).sameMonth.trans hit)
        have unchanged : (state.leave worker).row month = state.row month := rfl
        have read_back : snapshotOf ((state.leave worker).write worker.month (recordPush landed
            (centTotal (floorLines 0 worker.lines worker.carryIn).1) (floorLines 0 worker.lines worker.carryIn).2)) month =
              snapshotOf state month := by
          rw [snapshotOf, looked, unchanged, snapshotOf]
          cases state.row month with
          | none => rfl
          | some other =>
              by_cases same : month = worker.month
              · simp [same, (recorded other).sameLines]
              · simp [same]
        exact read_back
      · simp only [record, found, pushing, if_false]
        rfl

theorem snapshot_get_or_create (state : State) (target month : Nat) :
    snapshotOf (getOrCreate state target) month = snapshotOf state month := by
  cases found : state.row target with
  | some row => simp only [getOrCreate, found]
  | none =>
      have appended : (getOrCreate state target).row month =
          (state.row month).or ([UsageInvoice.new target].find? (fun row => decide (row.month = month))) := by
        simp only [getOrCreate, found]
        exact List.find?_append
      rw [snapshotOf, appended, snapshotOf]
      cases state.row month with
      | some row => rfl
      | none =>
          by_cases same : target = month
          · simp [UsageInvoice.new, same]
          · simp [UsageInvoice.new, same]

theorem step_snapshot (state : State) (event : Event) (month : Nat) :
    snapshotOf (step state event) month = snapshotOf state month ∨
      ∃ read, event = .claim month read ∧ snapshotOf state month = [] ∧ snapshotOf (step state event) month = read.lines := by
  have guarded : ∀ (guard : Prop) [Decidable guard] (next : State), snapshotOf next month = snapshotOf state month →
      snapshotOf (if guard then next else state) month = snapshotOf state month := by
    intro guard _ next same
    by_cases passes : guard
    · rw [if_pos passes, same]
    · rw [if_neg passes]
  cases event with
  | getOrCreate target => exact .inl (snapshot_get_or_create state target month)
  | claim target read =>
      rcases snapshot_claim state target month read with same | ⟨rfl, fresh, frozen⟩
      · exact .inl same
      · exact .inr ⟨read, rfl, fresh, frozen⟩
  | raiseClaim target now => exact .inl (snapshot_write state target _ month (count_raised_quiet now).frozen)
  | persist worker target kind =>
      exact .inl (guarded _ _ (snapshot_write state worker.month _ month (persist_target_quiet target kind).frozen))
  | notePhase worker phase =>
      exact .inl (guarded _ _ (snapshot_write state worker.month _ month (note_phase_quiet phase).frozen))
  | fail worker =>
      exact .inl (guarded _ _ (snapshot_write (state.leave worker) worker.month _ month fail_push_quiet.frozen))
  | park worker =>
      exact .inl (guarded _ _ (snapshot_write (state.leave worker) worker.month _ month park_push_quiet.frozen))
  | record worker invoice => exact .inl (guarded _ _ (snapshot_record state worker invoice month))
  | reclaim target => exact .inl (snapshot_write state target _ month reclaim_stale_quiet.frozen)
  | supersede target => exact .inl (snapshot_write state target _ month supersede_seat_quiet.frozen)
  | readRecovery target => exact .inl (guarded _ _ rfl)
  | recover target => exact .inl (guarded _ _ (snapshot_write state target _ month recover_skipped_releases.frozen))
  | relabel target => exact .inl (guarded _ _ (snapshot_write state target _ month relabel_skipped_releases.frozen))
  | readRepush target => exact .inl (guarded _ _ rfl)
  | saveRepush target => exact .inl (guarded _ _ (snapshot_write state target _ month reset_for_repush_releases.frozen))

theorem closed_once_frozen (state : State) (month : Nat) (frozen : snapshotOf state month ≠ []) :
    isUsagePeriodClosed state month = true := by
  rw [isUsagePeriodClosed]
  cases found : state.row month with
  | none => simp [snapshotOf, found] at frozen
  | some row =>
      have lines : row.lineSnapshot ≠ [] := by simpa [snapshotOf, found] using frozen
      simp [UsageInvoice.periodClosed, lines]

theorem frozen_month_refused (state : State) (check : BackfillCheck) (effectiveAt : Int)
    (frozen : snapshotOf state (monthOf effectiveAt) ≠ []) :
    ∃ refusal, validateEffectiveAt state check effectiveAt = .error refusal := by
  rw [validateEffectiveAt, closed_once_frozen state _ frozen]
  by_cases naive : check.timezoneAware = false
  · exact ⟨.naive, if_pos naive⟩
  by_cases future : check.now + futureSkewSeconds < effectiveAt
  · exact ⟨.inFuture, by rw [if_neg naive, if_pos future]⟩
  by_cases old : effectiveAt < check.now - check.backfillWindowDays * 86400
  · exact ⟨.tooOld, by rw [if_neg naive, if_neg future, if_pos old]⟩
  · exact ⟨.billingPeriodClosed, by rw [if_neg naive, if_neg future, if_neg old, if_pos rfl]⟩

theorem books_snapshot (books : Books) (event : BooksEvent) (month : Nat) :
    snapshotOf (booksStep books event).invoices month = snapshotOf books.invoices month ∨
      ∃ aggregation read, event = .claim aggregation read ∧ aggregation ∈ books.aggregations ∧ aggregation.month = month ∧
        snapshotOf books.invoices month = [] ∧ snapshotOf (booksStep books event).invoices month = aggregation.lines := by
  cases event with
  | validate posting check =>
      left
      rw [booksStep]
      split
      · rfl
      · rfl
  | insert posting =>
      left
      rw [booksStep]
      split
      · rfl
      · rfl
  | drop posting => exact .inl rfl
  | aggregate grouping target => exact .inl rfl
  | claim aggregation read =>
      by_cases held : aggregation ∈ books.aggregations
      · rw [booksStep, if_pos held]
        rcases step_snapshot books.invoices (.claim aggregation.month { read with lines := aggregation.lines }) month with
          same | ⟨other, claimed, fresh, frozen⟩
        · exact .inl same
        · simp only [Event.claim.injEq] at claimed
          rw [← claimed.2] at frozen
          exact .inr ⟨aggregation, read, rfl, held, claimed.1, fresh, frozen⟩
      · rw [booksStep, if_neg held]
        exact .inl rfl
  | invoice event =>
      by_cases claims : isClaim event = true
      · rw [booksStep, if_pos claims]
        exact .inl rfl
      · rw [booksStep, if_neg claims]
        rcases step_snapshot books.invoices event month with same | ⟨read, rfl, _⟩
        · exact .inl same
        · exact absurd rfl claims

theorem books_postings_grow (books : Books) (event : BooksEvent) :
    books.postings <+: (booksStep books event).postings := by
  cases event with
  | validate posting check =>
      rw [booksStep]
      split
      · exact List.prefix_refl _
      · exact List.prefix_refl _
  | insert posting =>
      by_cases flying : posting ∈ books.inFlight
      · rw [booksStep, if_pos flying]
        exact List.prefix_append _ _
      · rw [booksStep, if_neg flying]
  | drop posting => exact List.prefix_refl _
  | aggregate grouping target => exact List.prefix_refl _
  | claim aggregation read =>
      rw [booksStep]
      split
      · exact List.prefix_refl _
      · exact List.prefix_refl _
  | invoice event =>
      rw [booksStep]
      split
      · exact List.prefix_refl _
      · exact List.prefix_refl _

theorem run_postings_grow (start : Books) (events : List BooksEvent) :
    start.postings <+: (run booksStep start events).postings :=
  run_relation booksStep (fun before after => before.postings <+: after.postings)
    (fun _ => List.prefix_refl _)
    (fun _ state event grown => grown.trans (books_postings_grow state event)) start events

-- Every aggregation a claim still holds is the live one of some moment of the
-- run. The induction is on the run's last event.
theorem aggregation_was_live (events : List BooksEvent) (aggregation : Aggregation)
    (held : aggregation ∈ (run booksStep Books.empty events).aggregations) :
    ∃ earlier, earlier <+: events ∧ aggregation.lines =
      aggregateLines aggregation.grouping aggregation.month (run booksStep Books.empty earlier).postings := by
  induction events using List.reverseRecOn with
  | nil => simp [Books.empty] at held
  | append_singleton before event ih =>
      have older : aggregation ∈ (run booksStep Books.empty before).aggregations →
          ∃ earlier, earlier <+: before ++ [event] ∧ aggregation.lines =
            aggregateLines aggregation.grouping aggregation.month (run booksStep Books.empty earlier).postings := by
        intro inside
        obtain ⟨earlier, stage, live⟩ := ih inside
        exact ⟨earlier, stage.trans (List.prefix_append _ _), live⟩
      rw [run_snoc] at held
      cases event with
      | validate posting check =>
          apply older
          rw [booksStep] at held
          split at held
          · exact held
          · exact held
      | insert posting =>
          apply older
          rw [booksStep] at held
          split at held
          · exact held
          · exact held
      | drop posting => exact older held
      | aggregate grouping month =>
          rcases List.mem_cons.mp held with here | inside
          · exact ⟨before, List.prefix_append _ _, by rw [here]⟩
          · exact older inside
      | claim taken read =>
          apply older
          rw [booksStep] at held
          split at held
          · exact List.mem_of_mem_erase held
          · exact held
      | invoice event =>
          apply older
          rw [booksStep] at held
          split at held
          · exact held
          · exact held

theorem books_count (books : Books) (event : BooksEvent) (posting : Posting)
    (frozen : snapshotOf books.invoices (monthOf posting.effectiveAt) ≠ []) :
    (booksStep books event).postings.count posting + (booksStep books event).inFlight.count posting ≤
      books.postings.count posting + books.inFlight.count posting := by
  cases event with
  | validate other check =>
      rw [booksStep]
      cases checked : validateEffectiveAt books.invoices check other.effectiveAt with
      | error refusal => exact Nat.le_refl _
      | ok _ =>
          have different : other ≠ posting := by
            intro same
            rw [same] at checked
            obtain ⟨refusal, refused⟩ := frozen_month_refused books.invoices check posting.effectiveAt frozen
            rw [refused] at checked
            cases checked
          simp [different]
  | insert other =>
      by_cases flying : other ∈ books.inFlight
      · rw [booksStep, if_pos flying]
        by_cases same : other = posting
        · have flown := List.count_pos_iff.mpr flying
          rw [same] at flown ⊢
          simp only [List.count_append, List.count_singleton_self, List.count_erase_self]
          omega
        · simp [List.count_append, same, List.count_erase_of_ne (Ne.symm same)]
      · rw [booksStep, if_neg flying]
  | drop other =>
      have fewer := (List.erase_sublist (a := other) (l := books.inFlight)).count_le posting
      exact Nat.add_le_add_left fewer _
  | aggregate grouping target => exact Nat.le_refl _
  | claim aggregation read =>
      rw [booksStep]
      split
      · exact Nat.le_refl _
      · exact Nat.le_refl _
  | invoice event =>
      rw [booksStep]
      split
      · exact Nat.le_refl _
      · exact Nat.le_refl _

theorem frozen_month_kept (start : Books) (month : Nat) (events : List BooksEvent)
    (frozen : snapshotOf start.invoices month ≠ []) :
    snapshotOf (run booksStep start events).invoices month = snapshotOf start.invoices month ∧
      ∀ posting : Posting, monthOf posting.effectiveAt = month →
        (run booksStep start events).postings.count posting + (run booksStep start events).inFlight.count posting ≤
          start.postings.count posting + start.inFlight.count posting := by
  induction events using List.reverseRecOn with
  | nil => exact ⟨rfl, fun _ _ => Nat.le_refl _⟩
  | append_singleton before event ih =>
      obtain ⟨same, counted⟩ := ih
      have still : snapshotOf (run booksStep start before).invoices month ≠ [] := by
        rw [same]
        exact frozen
      rw [run_snoc]
      constructor
      · rcases books_snapshot (run booksStep start before) event month with kept | ⟨_, _, _, _, _, fresh, _⟩
        · exact kept.trans same
        · exact absurd fresh still
      · intro posting inside
        subst inside
        exact (books_count _ event posting still).trans (counted posting rfl)

theorem month_total_append (month : Nat) (first second : List Posting) :
    monthTotal month (first ++ second) = monthTotal month first + monthTotal month second := by
  simp [monthTotal, billedTotal]

theorem billed_liable (month : Nat) (postings : List Posting) :
    billedTotal (liableIn month postings) = monthTotal month postings := by
  rw [monthTotal, liableIn, billedTotal, billedTotal, sum_filter_eq, sum_filter_eq]
  congr 1
  apply List.map_congr_left
  intro posting _
  by_cases inside : posting.inMonth month = true
  · cases price : posting.price with
    | known micros => simp [inside]
    | unknown => simp [inside]
    | noLiability => simp [inside, CustomerPrice.billed]
  · simp [inside]

theorem aggregate_total (grouping : LineGrouping) (month : Nat) (postings : List Posting) :
    lineTotal (aggregateLines grouping month postings) = monthTotal month postings := by
  have labelled : lineTotal (labelledLines grouping (liableIn month postings)) = monthTotal month postings := by
    rw [← billed_liable, lineTotal, labelledLines, List.map_map]
    apply sum_over_labels (lineLabel grouping) (fun posting => posting.price.billed)
    · exact List.nodup_dedup _
    · intro posting member
      exact List.mem_dedup.mpr (List.mem_map.mpr ⟨posting, member, rfl⟩)
  have dropped : ∀ lines : List Line, lineTotal (lines.filter (fun line => decide (line.amountMicros ≠ 0))) =
      lineTotal lines := by
    intro lines
    rw [lineTotal, lineTotal, sum_filter_eq]
    congr 1
    apply List.map_congr_left
    intro line _
    by_cases zero : line.amountMicros = 0
    · simp [zero]
    · simp [zero]
  have sorted : ∀ lines : List Line, lineTotal (lines.insertionSort linePrecedes) = lineTotal lines := by
    intro lines
    exact ((List.perm_insertionSort linePrecedes lines).map _).sum_eq
  rw [aggregateLines, sorted]
  by_cases single : grouping = .ungrouped
  · rw [if_pos single, dropped, labelled]
  · rw [if_neg single, labelled]

theorem known_posting_has_its_line (grouping : LineGrouping) (month : Nat) (postings : List Posting) (posting : Posting)
    (micros : Int) (member : posting ∈ postings) (inside : monthOf posting.effectiveAt = month)
    (known : posting.price = .known micros) (billable : aggregateLines grouping month postings ≠ []) :
    labelledLine grouping (liableIn month postings) (lineLabel grouping posting) ∈ aggregateLines grouping month postings := by
  have liable : posting ∈ liableIn month postings :=
    List.mem_filter.mpr ⟨member, by simp [Posting.inMonth, inside, known]⟩
  have listed : labelledLine grouping (liableIn month postings) (lineLabel grouping posting) ∈
      labelledLines grouping (liableIn month postings) :=
    List.mem_map.mpr ⟨_, List.mem_dedup.mpr (List.mem_map.mpr ⟨posting, liable, rfl⟩), rfl⟩
  rw [aggregateLines, List.mem_insertionSort]
  by_cases single : grouping = .ungrouped
  · -- One label only, so a line that survives the zero check is this one.
    rw [if_pos single]
    rw [aggregateLines, if_pos single] at billable
    obtain ⟨line, survives⟩ := List.exists_mem_of_ne_nil _ billable
    rw [List.mem_insertionSort, List.mem_filter] at survives
    obtain ⟨label, labelled, made⟩ := List.mem_map.mp survives.1
    obtain ⟨other, _, named⟩ := List.mem_map.mp (List.mem_dedup.mp labelled)
    have same : label = lineLabel grouping posting := by rw [← named, single]; rfl
    rw [← same, made]
    exact List.mem_filter.mpr survives
  · rw [if_neg single]
    exact listed

def ReachesTripwire (read : ClaimRead) (row : UsageInvoice) : Prop :=
  row.status ≠ .pushed ∧ row.status ≠ .pushing ∧ row.status ≠ .failedPermanent ∧ ¬ row.carriedBelowMinorUnit ∧
    ¬ pushExhausted read row

theorem tripwire_reads_the_missed_total (state : State) (read : ClaimRead) (row : UsageInvoice) (grouping : LineGrouping)
    (month : Nat) (live : List Line) (found : state.row month = some row) (reaches : ReachesTripwire read row)
    (frozen : row.lineSnapshot ≠ []) :
    divergesAt state { grouping := grouping, month := month, lines := live } read = true ↔
      lineTotal live ≠ lineTotal row.lineSnapshot := by
  obtain ⟨unpushed, notPushing, notParked, notBelow, alive⟩ := reaches
  simp [divergesAt, found, snapshotDiverges, unpushed, notPushing, notParked, notBelow, alive, frozen]

theorem claim_moves_no_recording (books : Books) (aggregation : Aggregation) (read : ClaimRead) :
    (booksStep books (.claim aggregation read)).postings = books.postings ∧
      (booksStep books (.claim aggregation read)).inFlight = books.inFlight := by
  rw [booksStep]
  split
  · exact ⟨rfl, rfl⟩
  · exact ⟨rfl, rfl⟩

-- What a frozen month has, and what it lacks. `read` is the instant whose live
-- aggregation was frozen, `frozen` the instant of the freeze, `now` any later one.
structure MissesOnlyChecked (month : Nat) (grouping : LineGrouping) (read frozen now : Books) : Prop where
  lines : snapshotOf now.invoices month = aggregateLines grouping month read.postings
  included : ∀ posting ∈ read.postings, ∀ micros, monthOf posting.effectiveAt = month → posting.price = .known micros →
    labelledLine grouping (liableIn month read.postings) (lineLabel grouping posting) ∈ snapshotOf now.invoices month
  checked : ∀ posting : Posting, monthOf posting.effectiveAt = month →
    now.postings.count posting ≤ frozen.postings.count posting + frozen.inFlight.count posting
  refused : ∀ check effectiveAt, monthOf effectiveAt = month →
    ∃ refusal, validateEffectiveAt now.invoices check effectiveAt = .error refusal
  alerted : ∃ missed, now.postings = read.postings ++ missed ∧
    ∀ claimRead row live, now.invoices.row month = some row → ReachesTripwire claimRead row →
      (divergesAt now.invoices
        { grouping := live, month := month, lines := aggregateLines live month now.postings } claimRead = true ↔
          monthTotal month missed ≠ 0)

theorem frozen_month_misses_only_recordings_already_checked (before after : List BooksEvent) (event : BooksEvent)
    (month : Nat) (fresh : snapshotOf (run booksStep Books.empty before).invoices month = [])
    (freezes : snapshotOf (run booksStep Books.empty (before ++ [event])).invoices month ≠ []) :
    ∃ grouping earlier, earlier <+: before ∧
      MissesOnlyChecked month grouping (run booksStep Books.empty earlier) (run booksStep Books.empty before)
        (run booksStep Books.empty (before ++ event :: after)) := by
  have unfolded : run booksStep Books.empty (before ++ event :: after) =
      run booksStep (run booksStep Books.empty (before ++ [event])) after := by
    rw [← run_append, List.append_assoc, List.singleton_append]
  have frozenStep := freezes
  rw [run_snoc] at frozenStep
  rcases books_snapshot (run booksStep Books.empty before) event month with
    same | ⟨aggregation, read, rfl, held, atMonth, _, lines⟩
  · rw [same] at frozenStep
    exact absurd fresh frozenStep
  obtain ⟨earlier, stage, live⟩ := aggregation_was_live before aggregation held
  rw [atMonth] at live
  obtain ⟨kept, counted⟩ := frozen_month_kept (run booksStep Books.empty (before ++ [.claim aggregation read])) month after freezes
  have snapshot : snapshotOf (run booksStep Books.empty (before ++ .claim aggregation read :: after)).invoices month =
      aggregateLines aggregation.grouping month (run booksStep Books.empty earlier).postings := by
    rw [unfolded, kept, run_snoc, lines, live]
  have frozen : snapshotOf (run booksStep Books.empty (before ++ .claim aggregation read :: after)).invoices month ≠ [] := by
    rw [unfolded, kept]
    exact freezes
  refine ⟨aggregation.grouping, earlier, stage, snapshot, ?_, ?_, ?_, ?_⟩
  · intro posting member micros inside known
    rw [snapshot] at frozen ⊢
    exact known_posting_has_its_line aggregation.grouping month _ posting micros member inside known frozen
  · intro posting inside
    have since := counted posting inside
    have moved := claim_moves_no_recording (run booksStep Books.empty before) aggregation read
    rw [← run_snoc booksStep] at moved
    rw [moved.1, moved.2] at since
    rw [unfolded]
    omega
  · intro check effectiveAt inside
    rw [← inside] at frozen
    exact frozen_month_refused _ check effectiveAt frozen
  · have grown : (run booksStep Books.empty earlier).postings <+:
        (run booksStep Books.empty (before ++ .claim aggregation read :: after)).postings := by
      obtain ⟨between, split⟩ := stage
      rw [← split, List.append_assoc, run_append]
      exact run_postings_grow _ _
    obtain ⟨missed, split⟩ := grown
    refine ⟨missed, split.symm, ?_⟩
    intro claimRead row grouping found reaches
    have rowLines : row.lineSnapshot =
        aggregateLines aggregation.grouping month (run booksStep Books.empty earlier).postings := by
      rw [← snapshot, snapshotOf, found]
      rfl
    have rowFrozen : row.lineSnapshot ≠ [] := by
      rw [rowLines, ← snapshot]
      exact frozen
    rw [tripwire_reads_the_missed_total _ claimRead row grouping month _ found reaches rowFrozen, rowLines,
      aggregate_total, aggregate_total, ← split, month_total_append]
    omega

-- Two recordings of one month: the second passes its check, the claim
-- aggregates the first and freezes, and the second is inserted after all.
def firstPosting : Posting :=
  { id := 1, effectiveAt := 1769860800, seat := "", groupingValue := "", price := .known 15000 }

def latePosting : Posting :=
  { id := 2, effectiveAt := 1769860800, seat := "", groupingValue := "", price := .known 20000 }

def dayAfter : BackfillCheck := { timezoneAware := true, now := 1769907600, backfillWindowDays := 34 }

def januaryAggregation : Aggregation := { grouping := .ungrouped, month := 24312, lines := [⟨"", 15000⟩] }

def beforeTheFreeze : List BooksEvent :=
  [.validate firstPosting dayAfter, .insert firstPosting, .invoice (.getOrCreate 24312), .validate latePosting dayAfter,
    .aggregate .ungrouped 24312]

theorem late_recording_is_missed_and_alerted :
    ∃ grouping earlier, earlier <+: beforeTheFreeze ∧
      MissesOnlyChecked 24312 grouping (run booksStep Books.empty earlier) (run booksStep Books.empty beforeTheFreeze)
        (run booksStep Books.empty (beforeTheFreeze ++ .claim januaryAggregation monthRead :: [.insert latePosting])) :=
  frozen_month_misses_only_recordings_already_checked beforeTheFreeze [.insert latePosting]
    (.claim januaryAggregation monthRead) 24312 (by decide) (by decide)

theorem checked_recording_lands_in_a_frozen_month :
    snapshotOf (run booksStep Books.empty (beforeTheFreeze ++ [.claim januaryAggregation monthRead])).invoices 24312 =
      [⟨"", 15000⟩] ∧
    latePosting ∉ (run booksStep Books.empty (beforeTheFreeze ++ [.claim januaryAggregation monthRead])).postings ∧
    (run booksStep Books.empty (beforeTheFreeze ++ [.claim januaryAggregation monthRead, .insert latePosting])).postings =
      [firstPosting, latePosting] ∧
    monthOf latePosting.effectiveAt = 24312 ∧
    snapshotOf (run booksStep Books.empty
      (beforeTheFreeze ++ [.claim januaryAggregation monthRead, .insert latePosting])).invoices 24312 = [⟨"", 15000⟩] := by
  decide

end Ubb.Invoicing
