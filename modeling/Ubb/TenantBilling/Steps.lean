import Ubb.TenantBilling.Periods

set_option autoImplicit false

namespace Ubb.TenantBilling

open Ubb.Library

theorem job_member (state : State) (jobId : Nat) (job : Job) (found : state.job jobId = some job) :
    job ∈ state.jobs ∧ job.id = jobId :=
  find_key_some Job.id jobId state.jobs job found

theorem period_member (state : State) (periodId : Nat) (period : TenantBillingPeriod) (found : state.period periodId = some period) :
    period ∈ state.periods ∧ period.id = periodId :=
  find_key_some TenantBillingPeriod.id periodId state.periods period found

-- Everything one event can do. A call is named by the job it belongs to, and
-- an event that meets no such job, or the wrong stage of it, does nothing.
inductive Move (state : State) : Event → State → Prop
  | idle (event : Event) : Move state event state
  | ticked (today : Date) (later : state.clock ≤ today) : Move state (.tick today) { state with clock := today }
  | inserted (postingId : Uuid) (kind : PostingKind) (billed : Option Int) :
      Move state (.insert postingId kind billed)
        { state with inFlight := state.inFlight ++ [⟨postingId, kind, state.clock, billed, billed⟩] }
  | committed (posting : Posting) (inside : posting ∈ state.inFlight) :
      Move state (.commit posting.id) (State.dropInsert { state with postings := state.postings ++ [posting] } posting.id)
  | dropped (postingId : Uuid) : Move state (.drop postingId) (state.dropInsert postingId)
  | resolved (postingId : Uuid) (billed : Int) :
      Move state (.resolve postingId billed)
        { state with postings := updateRow Posting.id postingId (resolvePrice billed) state.postings }
  | accumulated (postingId : Uuid) (readAt : Date) (billed : Option Int) (counts : Bool) (periods : List TenantBillingPeriod)
      (done : accumulateUsage readAt state.clock billed counts state.periods = .ok periods) :
      Move state (.handle postingId readAt) { state with periods := periods }
  | loaded (job : Job) (fresh : state.job job.id = none) (found : state.period job.period.id = some job.period)
      (isOpen : job.period.status = .opened) (past : job.closes = true → job.period.periodEnd ≤ firstOfMonth state.clock)
      (stage : job.stage = .loaded) :
      Move state (if job.closes then .loadClose job.id job.period.id else .loadReconcile job.id job.period.id)
        { state with jobs := state.jobs ++ [job] }
  | gaveUp (job : Job) (held : Bool) (found : state.job job.id = some job) (stage : job.stage = .loaded) :
      Move state (.read job.id held) (state.dropJob job.id)
  | read (job : Job) (held : Bool) (found : state.job job.id = some job) (stage : job.stage = .loaded)
      (trusted : ¬ Untrusted job.period (getPeriodTotals job.period state.postings)) :
      Move state (.read job.id held) (state.stageJob job.id (.read (getPeriodTotals job.period state.postings)))
  | skipped (job : Job) (held : Bool) (found : state.job job.id = some job) (closes : job.closes = true)
      (stage : job.stage = .loaded) (untrusted : Untrusted job.period (getPeriodTotals job.period state.postings)) :
      Move state (.read job.id held) (state.stageJob job.id .reconciled)
  | reconciled (job : Job) (totals : PeriodTotals) (found : state.job job.id = some job) (opens : job.closes = false)
      (stage : job.stage = .read totals) :
      Move state (.write job.id)
        (State.dropJob { state with periods := reconcileWrite job.period totals state.periods } job.id)
  | written (job : Job) (totals : PeriodTotals) (found : state.job job.id = some job) (closes : job.closes = true)
      (stage : job.stage = .read totals) :
      Move state (.write job.id)
        (State.stageJob { state with periods := reconcileWrite job.period totals state.periods } job.id .reconciled)
  | closed (job : Job) (found : state.job job.id = some job) (closes : job.closes = true) (stage : job.stage = .reconciled) :
      Move state (.finish job.id)
        (State.dropJob { state with periods := updateRow TenantBillingPeriod.id job.period.id closeRow state.periods } job.id)

theorem load_job_move (jobId periodId : Nat) (closes : Bool) (state : State) :
    Move state (if closes then .loadClose jobId periodId else .loadReconcile jobId periodId) (loadJob jobId periodId closes state) := by
  cases fresh : state.job jobId with
  | some job =>
      simp only [loadJob, fresh]
      exact .idle _
  | none =>
      cases found : state.period periodId with
      | none =>
          simp only [loadJob, fresh, found]
          exact .idle _
      | some period =>
          simp only [loadJob, fresh, found]
          obtain ⟨_, idEq⟩ := period_member state periodId period found
          subst idEq
          by_cases admitted : period.status = .opened ∧ (closes = true → period.periodEnd ≤ firstOfMonth state.clock)
          · rw [if_pos admitted]
            exact .loaded ⟨jobId, closes, period, .loaded⟩ fresh found admitted.1 admitted.2 rfl
          · rw [if_neg admitted]
            exact .idle _

theorem read_totals_move (jobId : Nat) (held : Bool) (state : State) :
    Move state (.read jobId held) (readTotals jobId held state) := by
  rw [readTotals]
  split
  · rename_i id closes period found
    obtain ⟨_, idEq⟩ := job_member state jobId _ found
    subst idEq
    by_cases refused : closes = true ∧ held = true
    · rw [if_pos refused]
      exact .gaveUp ⟨id, closes, period, .loaded⟩ held found rfl
    · rw [if_neg refused]
      by_cases untrusted : Untrusted period (getPeriodTotals period state.postings)
      · rw [if_pos untrusted]
        cases closes with
        | true => exact .skipped ⟨id, true, period, .loaded⟩ held found rfl rfl untrusted
        | false => exact .gaveUp ⟨id, false, period, .loaded⟩ held found rfl
      · rw [if_neg untrusted]
        exact .read ⟨id, closes, period, .loaded⟩ held found rfl untrusted
  · exact .idle _

theorem step_move (state : State) (event : Event) : Move state event (step state event) := by
  cases event with
  | tick today =>
      by_cases later : state.clock ≤ today
      · simp only [step, if_pos later]
        exact .ticked today later
      · simp only [step, if_neg later]
        exact .idle _
  | insert postingId kind billed =>
      rw [step, insertPosting]
      split
      · exact .idle _
      · exact .inserted postingId kind billed
  | commit postingId =>
      rw [step, commitPosting]
      split
      · exact .idle _
      · rename_i posting found
        obtain ⟨inside, idEq⟩ := find_key_some Posting.id postingId state.inFlight posting found
        subst idEq
        exact .committed posting inside
  | drop postingId => exact .dropped postingId
  | resolve postingId billed => exact .resolved postingId billed
  | loadReconcile jobId periodId => exact load_job_move jobId periodId false state
  | loadClose jobId periodId => exact load_job_move jobId periodId true state
  | read jobId held => exact read_totals_move jobId held state
  | handle postingId readAt =>
      rw [step, handleUsageRecorded]
      split
      · exact .idle _
      · split
        · exact .idle _
        · split
          · rename_i after done
            exact .accumulated postingId readAt _ _ after done
          · exact .idle _
  | write jobId =>
      rw [step, writeBack]
      split
      · rename_i id closes period totals found
        obtain ⟨_, idEq⟩ := job_member state jobId _ found
        subst idEq
        cases closes with
        | true => exact .written ⟨id, true, period, .read totals⟩ totals found rfl rfl
        | false => exact .reconciled ⟨id, false, period, .read totals⟩ totals found rfl rfl
      · exact .idle _
  | finish jobId =>
      rw [step, finishClose]
      split
      · rename_i id period found
        obtain ⟨_, idEq⟩ := job_member state jobId _ found
        subst idEq
        exact .closed ⟨id, true, period, .reconciled⟩ found rfl rfl
      · exact .idle _

theorem reconcile_write_row (loaded : TenantBillingPeriod) (totals : PeriodTotals) (periods : List TenantBillingPeriod) :
    reconcileWrite loaded totals periods = periods ∨
      reconcileWrite loaded totals periods = updateRow TenantBillingPeriod.id loaded.id (writeTotals totals) periods := by
  rw [reconcileWrite]
  split
  · exact .inr rfl
  · exact .inl rfl

theorem close_row_keeps (period : TenantBillingPeriod) :
    (closeRow period).id = period.id ∧ (closeRow period).months = period.months ∧ (closeRow period).status = .closed := by
  rw [closeRow]
  split
  · exact ⟨rfl, rfl, rfl⟩
  · rename_i notOpen
    refine ⟨rfl, rfl, ?_⟩
    cases status : period.status with
    | opened => exact absurd status notOpen
    | closed => rfl

theorem reconcile_write_sound (loaded : TenantBillingPeriod) (totals : PeriodTotals) (periods : List TenantBillingPeriod)
    (sound : PeriodsSound periods) : PeriodsSound (reconcileWrite loaded totals periods) := by
  rcases reconcile_write_row loaded totals periods with same | updated
  · rw [same]
    exact sound
  · rw [updated]
    exact update_row_sound _ (writeTotals totals) _ (fun _ => rfl) (fun _ => rfl) (fun _ => id) sound

theorem close_row_sound (target : Nat) (periods : List TenantBillingPeriod) (sound : PeriodsSound periods) :
    PeriodsSound (updateRow TenantBillingPeriod.id target closeRow periods) := by
  refine update_row_sound _ _ _ (fun row => (close_row_keeps row).1) (fun row => (close_row_keeps row).2.1) ?_ sound
  intro row stillOpen
  rw [(close_row_keeps row).2.2] at stillOpen
  cases stillOpen

theorem step_periods_sound (state : State) (event : Event) (sound : PeriodsSound state.periods) :
    PeriodsSound (step state event).periods := by
  have moves := step_move state event
  generalize step state event = after at moves
  cases moves with
  | accumulated postingId readAt billed counts periods done => exact accumulate_sound _ _ _ _ _ _ sound done
  | reconciled job totals => exact reconcile_write_sound job.period totals state.periods sound
  | written job totals => exact reconcile_write_sound job.period totals state.periods sound
  | closed job => exact close_row_sound job.period.id state.periods sound
  | idle | ticked | inserted | committed | dropped | resolved | loaded | gaveUp | read | skipped => exact sound

theorem update_row_persists (target : Nat) (write : TenantBillingPeriod → TenantBillingPeriod) (periods : List TenantBillingPeriod)
    (keeps : ∀ row, (write row).id = row.id ∧ (write row).months = row.months) (row : TenantBillingPeriod) (member : row ∈ periods) :
    ∃ later ∈ updateRow TenantBillingPeriod.id target write periods, later.id = row.id ∧ later.months = row.months := by
  by_cases hit : row.id = target
  · exact ⟨write row, List.mem_map.mpr ⟨row, member, if_pos hit⟩, keeps row⟩
  · exact ⟨row, update_row_other TenantBillingPeriod.id target write periods row member hit, rfl, rfl⟩

theorem accumulate_persists (today retryToday : Date) (billed : Option Int) (counts : Bool)
    (periods after : List TenantBillingPeriod) (done : accumulateUsage today retryToday billed counts periods = .ok after)
    (row : TenantBillingPeriod) (member : row ∈ periods) : ∃ later ∈ after, later.id = row.id ∧ later.months = row.months := by
  obtain ⟨reading, base, period, _, had, afterEq⟩ := accumulate_cases today retryToday billed counts periods after done
  have inBase : row ∈ base := by
    rcases get_or_create_cases reading periods base period had with ⟨rfl, _⟩ | ⟨_, _, rfl, _⟩
    · exact member
    · exact List.mem_append_left _ member
  rw [afterEq]
  exact update_row_persists period.id _ base (fun row => ⟨(add_usage_keeps _ _ row).1, (add_usage_keeps _ _ row).2.1⟩) row inBase

theorem reconcile_write_persists (loaded : TenantBillingPeriod) (totals : PeriodTotals) (periods : List TenantBillingPeriod)
    (row : TenantBillingPeriod) (member : row ∈ periods) :
    ∃ later ∈ reconcileWrite loaded totals periods, later.id = row.id ∧ later.months = row.months := by
  rcases reconcile_write_row loaded totals periods with same | updated
  · rw [same]
    exact ⟨row, member, rfl, rfl⟩
  · rw [updated]
    exact update_row_persists _ (writeTotals totals) _ (fun _ => ⟨rfl, rfl⟩) row member

theorem step_row_persists (state : State) (event : Event) (row : TenantBillingPeriod) (member : row ∈ state.periods) :
    ∃ later ∈ (step state event).periods, later.id = row.id ∧ later.months = row.months := by
  have moves := step_move state event
  generalize step state event = after at moves
  cases moves with
  | accumulated postingId readAt billed counts periods done => exact accumulate_persists _ _ _ _ _ _ done row member
  | reconciled job totals => exact reconcile_write_persists job.period totals state.periods row member
  | written job totals => exact reconcile_write_persists job.period totals state.periods row member
  | closed job =>
      exact update_row_persists _ _ _ (fun row => ⟨(close_row_keeps row).1, (close_row_keeps row).2.1⟩) row member
  | idle | ticked | inserted | committed | dropped | resolved | loaded | gaveUp | read | skipped => exact ⟨row, member, rfl, rfl⟩

inductive JobFrom (state : State) (job : Job) (event : Event) : Prop
  | kept (old : Job) (member : old ∈ state.jobs) (sameId : job.id = old.id) (sameKind : job.closes = old.closes)
      (samePeriod : job.period = old.period)
  | loaded (member : job.period ∈ state.periods) (isOpen : job.period.status = .opened)
      (past : job.closes = true → job.period.periodEnd ≤ firstOfMonth state.clock)
      (eventEq : event = if job.closes then .loadClose job.id job.period.id else .loadReconcile job.id job.period.id)

theorem staged_from (state base : State) (target : Nat) (stage : JobStage) (event : Event) (sameJobs : base.jobs = state.jobs)
    (job : Job) (member : job ∈ (base.stageJob target stage).jobs) : JobFrom state job event := by
  rcases mem_update_row Job.id target _ _ job member with ⟨kept, _⟩ | ⟨old, kept, _, rfl⟩
  · exact .kept job (sameJobs ▸ kept) rfl rfl rfl
  · exact .kept old (sameJobs ▸ kept) rfl rfl rfl

theorem step_job_source (state : State) (event : Event) (job : Job) (member : job ∈ (step state event).jobs) :
    JobFrom state job event := by
  have moves := step_move state event
  generalize step state event = after at moves member
  cases moves with
  | loaded new fresh found isOpen past stage =>
      rcases List.mem_append.mp member with kept | added
      · exact .kept job kept rfl rfl rfl
      · rw [List.mem_singleton.mp added]
        exact .loaded (period_member state _ _ found).1 isOpen past rfl
  | read | skipped => exact staged_from state state _ _ _ rfl job member
  | written => exact staged_from state _ _ _ _ rfl job member
  | gaveUp | reconciled | closed => exact .kept job (List.mem_filter.mp member).1 rfl rfl rfl
  | idle | ticked | inserted | committed | dropped | resolved | accumulated => exact .kept job member rfl rfl rfl

theorem update_row_source (target : Nat) (write : TenantBillingPeriod → TenantBillingPeriod) (periods : List TenantBillingPeriod)
    (keeps : ∀ row, (write row).id = row.id ∧ (write row).months = row.months ∧ (write row).status = row.status)
    (row : TenantBillingPeriod) (member : row ∈ updateRow TenantBillingPeriod.id target write periods) :
    ∃ old ∈ periods, row.id = old.id ∧ row.months = old.months ∧ row.status = old.status := by
  rcases mem_update_row TenantBillingPeriod.id target write periods row member with ⟨kept, _⟩ | ⟨old, inside, _, rfl⟩
  · exact ⟨row, kept, rfl, rfl, rfl⟩
  · exact ⟨old, inside, keeps old⟩

theorem accumulate_source (today retryToday : Date) (billed : Option Int) (counts : Bool)
    (periods after : List TenantBillingPeriod) (done : accumulateUsage today retryToday billed counts periods = .ok after)
    (row : TenantBillingPeriod) (member : row ∈ after) :
    (∃ old ∈ periods, row.id = old.id ∧ row.months = old.months ∧ row.status = old.status) ∨
      (row.status = .opened ∧ row.id = periods.length ∧ ∃ reading, (reading = today ∨ reading = retryToday) ∧
        row.months = (firstOfMonth reading, firstOfNextMonth reading)) := by
  obtain ⟨reading, base, period, isReading, had, afterEq⟩ := accumulate_cases today retryToday billed counts periods after done
  rw [afterEq] at member
  obtain ⟨old, inside, sameId, sameMonths, sameStatus⟩ :=
    update_row_source period.id _ base (add_usage_keeps _ _) row member
  rcases get_or_create_cases reading periods base period had with ⟨rfl, _⟩ | ⟨_, _, rfl, created⟩
  · exact .inl ⟨old, inside, sameId, sameMonths, sameStatus⟩
  · rcases List.mem_append.mp inside with kept | added
    · exact .inl ⟨old, kept, sameId, sameMonths, sameStatus⟩
    · rw [List.mem_singleton.mp added, created] at sameId sameMonths sameStatus
      exact .inr ⟨sameStatus, sameId, reading, isReading, sameMonths⟩

theorem reconcile_write_source (loaded : TenantBillingPeriod) (totals : PeriodTotals) (periods : List TenantBillingPeriod)
    (row : TenantBillingPeriod) (member : row ∈ reconcileWrite loaded totals periods) :
    ∃ old ∈ periods, row.id = old.id ∧ row.months = old.months ∧ row.status = old.status := by
  rcases reconcile_write_row loaded totals periods with same | updated
  · rw [same] at member
    exact ⟨row, member, rfl, rfl, rfl⟩
  · rw [updated] at member
    exact update_row_source _ (writeTotals totals) _ (fun _ => ⟨rfl, rfl, rfl⟩) row member

inductive RowFrom (state : State) (row : TenantBillingPeriod) : Event → Prop
  | kept (event : Event) (old : TenantBillingPeriod) (member : old ∈ state.periods) (sameId : row.id = old.id)
      (sameMonths : row.months = old.months) (sameStatus : row.status = old.status) : RowFrom state row event
  | closed (job : Job) (old : TenantBillingPeriod) (found : state.job job.id = some job) (closes : job.closes = true)
      (stage : job.stage = .reconciled) (member : old ∈ state.periods) (hit : old.id = job.period.id)
      (rowEq : row = closeRow old) : RowFrom state row (.finish job.id)
  | created (postingId : Uuid) (readAt reading : Date) (isReading : reading = readAt ∨ reading = state.clock)
      (isOpen : row.status = .opened) (fresh : row.id = state.periods.length) (months : row.months = (firstOfMonth reading, firstOfNextMonth reading)) :
      RowFrom state row (.handle postingId readAt)

theorem step_row_source (state : State) (event : Event) (row : TenantBillingPeriod) (member : row ∈ (step state event).periods) :
    RowFrom state row event := by
  have moves := step_move state event
  generalize step state event = after at moves member
  cases moves with
  | accumulated postingId readAt billed counts periods done =>
      rcases accumulate_source _ _ _ _ _ _ done row member with ⟨old, inside, same⟩ | ⟨isOpen, fresh, reading, isReading, months⟩
      · exact .kept _ old inside same.1 same.2.1 same.2.2
      · exact .created postingId readAt reading isReading isOpen fresh months
  | reconciled job totals =>
      obtain ⟨old, inside, same⟩ := reconcile_write_source job.period totals state.periods row member
      exact .kept _ old inside same.1 same.2.1 same.2.2
  | written job totals =>
      obtain ⟨old, inside, same⟩ := reconcile_write_source job.period totals state.periods row member
      exact .kept _ old inside same.1 same.2.1 same.2.2
  | closed job found closes stage =>
      rcases mem_update_row TenantBillingPeriod.id job.period.id closeRow state.periods row member with
        ⟨kept, _⟩ | ⟨old, inside, hit, rowEq⟩
      · exact .kept _ row kept rfl rfl rfl
      · exact .closed job old found closes stage inside hit rowEq
  | idle | ticked | inserted | committed | dropped | resolved | loaded | gaveUp | read | skipped => exact .kept _ row member rfl rfl rfl

theorem step_clock (state : State) (event : Event) : state.clock ≤ (step state event).clock := by
  have moves := step_move state event
  generalize step state event = after at moves
  cases moves with
  | ticked today later => exact later
  | _ => exact Nat.le_refl _

-- What every run keeps: a sound table, the row of every job in flight, and no
-- row closed, or being closed, before its month is over.
structure Clocked (state : State) : Prop where
  sound : PeriodsSound state.periods
  stored : ∀ job ∈ state.jobs, ∃ row ∈ state.periods, row.id = job.period.id ∧ row.months = job.period.months
  past : ∀ job ∈ state.jobs, job.closes = true → job.period.periodEnd ≤ firstOfMonth state.clock
  ended : ∀ row ∈ state.periods, row.status = .closed → row.periodEnd ≤ firstOfMonth state.clock

theorem job_row_months (state : State) (clocked : Clocked state) (job : Job) (member : job ∈ state.jobs)
    (row : TenantBillingPeriod) (rowMember : row ∈ state.periods) (hit : row.id = job.period.id) :
    row.months = job.period.months := by
  obtain ⟨stored, storedMember, storedId, storedMonths⟩ := clocked.stored job member
  rw [same_row state.periods clocked.sound row stored rowMember storedMember (hit.trans storedId.symm)]
  exact storedMonths

theorem step_clocked (state : State) (event : Event) (clocked : Clocked state) : Clocked (step state event) := by
  have later := first_of_month_mono _ _ (step_clock state event)
  refine ⟨step_periods_sound state event clocked.sound, ?_, ?_, ?_⟩
  · intro job member
    have before : ∃ row ∈ state.periods, row.id = job.period.id ∧ row.months = job.period.months := by
      cases step_job_source state event job member with
      | kept old inside _ _ samePeriod =>
          rw [samePeriod]
          exact clocked.stored old inside
      | loaded inside _ _ _ => exact ⟨job.period, inside, rfl, rfl⟩
    obtain ⟨row, rowMember, rowId, rowMonths⟩ := before
    obtain ⟨kept, keptMember, keptId, keptMonths⟩ := step_row_persists state event row rowMember
    exact ⟨kept, keptMember, keptId.trans rowId, keptMonths.trans rowMonths⟩
  · intro job member closes
    refine Date.le_trans _ (firstOfMonth state.clock) _ ?_ later
    cases step_job_source state event job member with
    | kept old inside _ sameKind samePeriod =>
        rw [samePeriod]
        exact clocked.past old inside (sameKind ▸ closes)
    | loaded _ _ past _ => exact past closes
  · intro row member isClosed
    refine Date.le_trans _ (firstOfMonth state.clock) _ ?_ later
    cases step_row_source state event row member with
    | kept _ old inside _ sameMonths sameStatus =>
        have endEq : row.periodEnd = old.periodEnd := congrArg Prod.snd sameMonths
        rw [endEq]
        exact clocked.ended old inside (sameStatus ▸ isClosed)
    | closed job old found closes _ inside hit rowEq =>
        have jobMember := (job_member state job.id job found).1
        have months : row.months = job.period.months := by
          rw [rowEq, (close_row_keeps old).2.1]
          exact job_row_months state clocked job jobMember old inside hit
        have endEq : row.periodEnd = job.period.periodEnd := congrArg Prod.snd months
        rw [endEq]
        exact clocked.past job jobMember closes
    | created postingId readAt reading _ isOpen _ _ =>
        rw [isOpen] at isClosed
        cases isClosed

theorem initial_clocked (start : Date) : Clocked (initialState start) := by
  refine ⟨⟨?_, ?_, ?_, ?_, ?_⟩, ?_, ?_, ?_⟩
  all_goals simp [initialState]

end Ubb.TenantBilling
