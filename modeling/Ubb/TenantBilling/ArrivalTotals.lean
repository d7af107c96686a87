import Ubb.TenantBilling.MonthBoundary

set_option autoImplicit false

namespace Ubb.TenantBilling

open Ubb.Library

theorem covers_congr (left right : TenantBillingPeriod) (months : left.months = right.months) (date : Date) :
    left.Covers date ↔ right.Covers date := by
  have startEq : left.periodStart = right.periodStart := congrArg Prod.fst months
  have endEq : left.periodEnd = right.periodEnd := congrArg Prod.snd months
  rw [TenantBillingPeriod.Covers, TenantBillingPeriod.Covers, startEq, endEq]

theorem arrivals_congr (left right : TenantBillingPeriod) (months : left.months = right.months) (postings : List Posting) :
    arrivals left postings = arrivals right postings := by
  apply List.filter_congr
  intro posting _
  rw [decide_eq_decide]
  exact covers_congr left right months posting.createdAt

theorem totals_congr (left right : TenantBillingPeriod) (before after : List Posting)
    (same : arrivals left before = arrivals right after) : getPeriodTotals left before = getPeriodTotals right after := by
  rw [getPeriodTotals, getPeriodTotals, same]

theorem arrivals_recorded (period : TenantBillingPeriod) (postings : List Posting) (posting : Posting)
    (uncovered : ¬ period.Covers posting.createdAt) : arrivals period (postings ++ [posting]) = arrivals period postings := by
  simp [arrivals, List.filter_append, uncovered]

theorem resolve_price_arrival (billed : Int) (posting : Posting) :
    (resolvePrice billed posting).createdAt = posting.createdAt ∧ (resolvePrice billed posting).id = posting.id := by
  rw [resolvePrice]
  split
  · exact ⟨rfl, rfl⟩
  · exact ⟨rfl, rfl⟩

theorem arrivals_resolved (period : TenantBillingPeriod) (postings : List Posting) (postingId : Uuid) (billed : Int)
    (uncovered : ∀ posting ∈ postings, posting.id = postingId → ¬ period.Covers posting.createdAt) :
    arrivals period (updateRow Posting.id postingId (resolvePrice billed) postings) = arrivals period postings := by
  induction postings with
  | nil => rfl
  | cons posting rest ih =>
      have restEq := ih (fun other member => uncovered other (List.mem_cons_of_mem _ member))
      rw [arrivals, updateRow] at restEq
      rw [arrivals, updateRow, List.map_cons]
      by_cases hit : posting.id = postingId
      · have misses := uncovered posting (by simp) hit
        have missesAfter : ¬ period.Covers (resolvePrice billed posting).createdAt := by
          rw [(resolve_price_arrival billed posting).1]
          exact misses
        rw [if_pos hit, List.filter_cons_of_neg (by simpa using missesAfter), restEq, arrivals, arrivals,
          List.filter_cons_of_neg (by simpa using misses)]
      · rw [if_neg hit]
        by_cases covered : period.Covers posting.createdAt
        · rw [List.filter_cons_of_pos (by simpa using covered), restEq, arrivals, arrivals,
            List.filter_cons_of_pos (by simpa using covered)]
        · rw [List.filter_cons_of_neg (by simpa using covered), restEq, arrivals, arrivals,
            List.filter_cons_of_neg (by simpa using covered)]

theorem past_uncovered (period : TenantBillingPeriod) (clock : Date) (past : period.periodEnd ≤ firstOfMonth clock) :
    ¬ period.Covers clock := by
  rintro ⟨_, inside⟩
  have valid := clock.dayValid
  rw [Date.le_def, first_of_month_ordinal] at past
  rw [Date.lt_def, Date.ordinal] at inside
  omega

theorem month_covers (period : TenantBillingPeriod) (date : Date)
    (months : period.months = (firstOfMonth date, firstOfNextMonth date)) : period.Covers date := by
  have startEq : period.periodStart = firstOfMonth date := congrArg Prod.fst months
  have endEq : period.periodEnd = firstOfNextMonth date := congrArg Prod.snd months
  rw [TenantBillingPeriod.Covers, startEq, endEq]
  exact (month_window date date).mpr ⟨rfl, rfl⟩

theorem covering_row_unique (periods : List TenantBillingPeriod) (sound : PeriodsSound periods) (left right : TenantBillingPeriod)
    (leftMember : left ∈ periods) (rightMember : right ∈ periods) (date : Date) (leftCovers : left.Covers date)
    (rightCovers : right.Covers date) : left = right := by
  obtain ⟨leftDate, leftMonths⟩ := sound.monthly left leftMember
  obtain ⟨rightDate, rightMonths⟩ := sound.monthly right rightMember
  have leftStart : left.periodStart = firstOfMonth leftDate := congrArg Prod.fst leftMonths
  have leftEnd : left.periodEnd = firstOfNextMonth leftDate := congrArg Prod.snd leftMonths
  have rightStart : right.periodStart = firstOfMonth rightDate := congrArg Prod.fst rightMonths
  have rightEnd : right.periodEnd = firstOfNextMonth rightDate := congrArg Prod.snd rightMonths
  rw [TenantBillingPeriod.Covers, leftStart, leftEnd] at leftCovers
  rw [TenantBillingPeriod.Covers, rightStart, rightEnd] at rightCovers
  have inLeft := (month_window leftDate date).mp leftCovers
  have inRight := (month_window rightDate date).mp rightCovers
  have sameMonth : leftDate.SameMonth rightDate := ⟨inLeft.1.symm.trans inRight.1, inLeft.2.symm.trans inRight.2⟩
  obtain ⟨first, next⟩ := first_of_month_congr leftDate rightDate sameMonth
  exact List.inj_on_of_nodup_map sound.distinct leftMember rightMember (by rw [leftMonths, rightMonths, first, next])

def TenantBillingPeriod.totals (row : TenantBillingPeriod) : PeriodTotals := ⟨row.totalBilledCostMicros, row.recordedEvents⟩

-- A close that is past its read has seen all the postings it will see.
def Job.Counted (job : Job) : Prop := job.closes = true ∧ job.stage ≠ .loaded

instance (job : Job) : Decidable job.Counted := inferInstanceAs (Decidable (_ ∧ _))

-- The drift was found against the row as it was loaded; the row may hold the
-- totals by now.
def Job.rewrites (job : Job) (row : TenantBillingPeriod) : Bool :=
  match job.stage with
  | .read totals => totals ≠ job.period.totals ∧ totals ≠ row.totals
  | _ => false

-- What may happen while a close is between loading its period and closing it,
-- and to a month that is closed.
def Undisturbed (state : State) : Event → Prop
  | .commit postingId => ∀ posting ∈ state.inFlight, posting.id = postingId →
      (∀ job ∈ state.jobs, job.Counted → ¬ job.period.Covers posting.createdAt) ∧
        ∀ row ∈ state.periods, row.status = .closed → ¬ row.Covers posting.createdAt
  | .resolve postingId _ => ∀ job ∈ state.jobs, job.Counted → ∀ posting ∈ state.postings, posting.id = postingId →
      ¬ job.period.Covers posting.createdAt
  | .handle _ readAt => ∀ job ∈ state.jobs, job.closes = true → ¬ job.period.Covers readAt
  | .read jobId _ => ∀ job ∈ state.jobs, job.id = jobId → job.closes = true → job.stage = .loaded →
      ¬ Untrusted job.period (getPeriodTotals job.period state.postings)
  | .write jobId => ∀ job ∈ state.jobs, job.id = jobId → ∀ row ∈ state.periods, row.id = job.period.id →
      job.rewrites row = true →
        row.status = .opened ∧ ∀ other ∈ state.jobs, other.closes = true → other.period.id = row.id → other.id = job.id
  | _ => True

instance decidableUndisturbed (state : State) : (event : Event) → Decidable (Undisturbed state event)
  | .tick _ => inferInstanceAs (Decidable True)
  | .insert _ _ _ => inferInstanceAs (Decidable True)
  | .commit postingId => inferInstanceAs (Decidable (∀ posting ∈ state.inFlight, posting.id = postingId →
      (∀ job ∈ state.jobs, job.Counted → ¬ job.period.Covers posting.createdAt) ∧
        ∀ row ∈ state.periods, row.status = .closed → ¬ row.Covers posting.createdAt))
  | .drop _ => inferInstanceAs (Decidable True)
  | .resolve postingId _ => inferInstanceAs (Decidable (∀ job ∈ state.jobs, job.Counted →
      ∀ posting ∈ state.postings, posting.id = postingId → ¬ job.period.Covers posting.createdAt))
  | .handle _ readAt => inferInstanceAs (Decidable (∀ job ∈ state.jobs, job.closes = true → ¬ job.period.Covers readAt))
  | .loadReconcile _ _ => inferInstanceAs (Decidable True)
  | .loadClose _ _ => inferInstanceAs (Decidable True)
  | .read jobId _ => inferInstanceAs (Decidable (∀ job ∈ state.jobs, job.id = jobId → job.closes = true →
      job.stage = .loaded → ¬ Untrusted job.period (getPeriodTotals job.period state.postings)))
  | .write jobId => inferInstanceAs (Decidable (∀ job ∈ state.jobs, job.id = jobId → ∀ row ∈ state.periods,
      row.id = job.period.id → job.rewrites row = true → row.status = .opened ∧ ∀ other ∈ state.jobs,
        other.closes = true → other.period.id = row.id → other.id = job.id))
  | .finish _ => inferInstanceAs (Decidable True)

def Staged (job : Job) (row : TenantBillingPeriod) (postings : List Posting) : Prop :=
  match job.stage with
  | .loaded => row = job.period
  | .read totals => row = job.period ∧ totals = getPeriodTotals job.period postings
  | .reconciled => row.totals = getPeriodTotals job.period postings

structure Settling (state : State) : Prop where
  clocked : Clocked state
  jobIds : (state.jobs.map Job.id).Nodup
  staged : ∀ job ∈ state.jobs, job.closes = true → ∀ row ∈ state.periods, row.id = job.period.id → row.status = .opened →
    Staged job row state.postings

theorem unique_job (state : State) (settling : Settling state) (left right : Job) (leftMember : left ∈ state.jobs)
    (rightMember : right ∈ state.jobs) (same : left.id = right.id) : left = right :=
  List.inj_on_of_nodup_map settling.jobIds leftMember rightMember same

theorem step_job_ids (state : State) (event : Event) (unique : (state.jobs.map Job.id).Nodup) :
    ((step state event).jobs.map Job.id).Nodup := by
  have filtered : ∀ (base : State) (jobId : Nat), base.jobs = state.jobs → ((base.dropJob jobId).jobs.map Job.id).Nodup := by
    intro base jobId sameJobs
    rw [State.dropJob, sameJobs]
    exact unique.sublist (List.filter_sublist.map _)
  have staged : ∀ (base : State) (jobId : Nat) (stage : JobStage), base.jobs = state.jobs →
      ((base.stageJob jobId stage).jobs.map Job.id).Nodup := by
    intro base jobId stage sameJobs
    have sameIds := update_row_map Job.id jobId (fun job => { job with stage := stage }) base.jobs Job.id (fun _ => rfl)
    rw [sameJobs] at sameIds
    rw [State.stageJob, sameJobs, sameIds]
    exact unique
  have moves := step_move state event
  generalize step state event = after at moves
  cases moves with
  | loaded job fresh =>
      exact nodup_add_row Job.id state.jobs job unique (find_key_none Job.id job.id state.jobs fresh)
  | read | skipped => exact staged state _ _ rfl
  | written => exact staged _ _ _ rfl
  | gaveUp => exact filtered state _ rfl
  | reconciled | closed => exact filtered _ _ rfl
  | idle | ticked | inserted | committed | dropped | resolved | accumulated => exact unique

theorem staged_congr (job : Job) (row : TenantBillingPeriod) (before after : List Posting)
    (same : job.stage ≠ .loaded → arrivals job.period after = arrivals job.period before) (staged : Staged job row before) :
    Staged job row after := by
  rw [Staged] at staged ⊢
  cases stage : job.stage with
  | loaded =>
      simp only [stage] at staged ⊢
      exact staged
  | read seen =>
      simp only [stage] at staged ⊢
      rw [totals_congr job.period job.period after before (same (by rw [stage]; nofun))]
      exact staged
  | reconciled =>
      simp only [stage] at staged ⊢
      rw [totals_congr job.period job.period after before (same (by rw [stage]; nofun))]
      exact staged

theorem accumulate_untouched (today retryToday : Date) (billed : Option Int) (counts : Bool)
    (periods after : List TenantBillingPeriod) (sound : PeriodsSound periods)
    (done : accumulateUsage today retryToday billed counts periods = .ok after)
    (row : TenantBillingPeriod) (member : row ∈ after) (missed : ¬ row.Covers today) (retryMissed : ¬ row.Covers retryToday) :
    row ∈ periods := by
  obtain ⟨reading, base, period, isReading, had, afterEq⟩ := accumulate_cases today retryToday billed counts periods after done
  obtain ⟨baseSound, periodMember, periodMonths⟩ := get_or_create_row reading periods base period sound had
  have uncovered : ¬ row.Covers reading := by
    rcases isReading with rfl | rfl
    · exact missed
    · exact retryMissed
  have different : row.months ≠ period.months := fun same => uncovered (month_covers row reading (same.trans periodMonths))
  have inBase : row ∈ base := by
    rw [afterEq] at member
    rcases mem_update_row TenantBillingPeriod.id period.id _ base row member with ⟨kept, _⟩ | ⟨old, inside, hit, rowEq⟩
    · exact kept
    · rw [rowEq, (add_usage_keeps _ _ old).2.1, same_row base baseSound old period inside periodMember hit] at different
      exact absurd rfl different
  rcases get_or_create_cases reading periods base period had with ⟨rfl, _⟩ | ⟨_, _, rfl, _⟩
  · exact inBase
  · rcases List.mem_append.mp inBase with kept | added
    · exact kept
    · exact absurd (congrArg TenantBillingPeriod.months (List.mem_singleton.mp added)) different

theorem own_write_totals (loaded : TenantBillingPeriod) (totals : PeriodTotals) (periods : List TenantBillingPeriod)
    (unmoved : ∀ row ∈ periods, row.id = loaded.id → row = loaded) (row : TenantBillingPeriod)
    (member : row ∈ reconcileWrite loaded totals periods) (hit : row.id = loaded.id) : row.totals = totals := by
  rw [reconcileWrite] at member
  split at member
  · rcases mem_update_row TenantBillingPeriod.id loaded.id _ periods row member with ⟨_, missed⟩ | ⟨old, _, _, rowEq⟩
    · exact absurd hit missed
    · rw [rowEq]
      rfl
  · rename_i agrees
    rw [unmoved row member hit]
    obtain ⟨sameTotal, sameCount⟩ := not_or.mp agrees
    rw [TenantBillingPeriod.totals, ← not_ne_iff.mp sameTotal, ← not_ne_iff.mp sameCount]

theorem own_write_staged (state : State) (job : Job) (totals : PeriodTotals) (settling : Settling state) (member : job ∈ state.jobs)
    (closes : job.closes = true) (stage : job.stage = .read totals) (row : TenantBillingPeriod)
    (rowMember : row ∈ reconcileWrite job.period totals state.periods) (hit : row.id = job.period.id)
    (isOpen : row.status = .opened) : row.totals = getPeriodTotals job.period state.postings := by
  obtain ⟨old, oldMember, sameId, _, sameStatus⟩ := reconcile_write_source job.period totals state.periods row rowMember
  have readRow := settling.staged job member closes old oldMember (sameId.symm.trans hit) (sameStatus.symm.trans isOpen)
  rw [Staged, stage] at readRow
  have saved := own_write_totals job.period totals state.periods (fun stored storedMember storedHit =>
    (same_row state.periods settling.clocked.sound stored old storedMember oldMember
      (storedHit.trans (hit.symm.trans sameId))).trans readRow.1) row rowMember hit
  exact saved.trans readRow.2

theorem rewritten_or_kept (job : Job) (totals : PeriodTotals) (periods : List TenantBillingPeriod) (stage : job.stage = .read totals)
    (row : TenantBillingPeriod) (member : row ∈ reconcileWrite job.period totals periods) :
    row ∈ periods ∨ ∃ old ∈ periods, old.id = job.period.id ∧ job.rewrites old = true ∧ row = writeTotals totals old := by
  rw [reconcileWrite] at member
  split at member
  · rename_i drifted
    rcases mem_update_row TenantBillingPeriod.id job.period.id _ periods row member with ⟨kept, _⟩ | ⟨old, oldMember, hit, rowEq⟩
    · exact .inl kept
    · by_cases same : totals = old.totals
      · have unchanged : writeTotals totals old = old := by rw [same]; rfl
        rw [rowEq, unchanged]
        exact .inl oldMember
      · refine .inr ⟨old, oldMember, hit, ?_, rowEq⟩
        have moved : totals ≠ job.period.totals := by
          intro agrees
          rw [agrees] at drifted
          exact drifted.elim (fun differs => differs rfl) (fun differs => differs rfl)
        rw [Job.rewrites, stage]
        exact decide_eq_true ⟨moved, same⟩
  · exact .inl member

theorem other_write_kept (state : State) (other : Job) (totals : PeriodTotals) (stage : other.stage = .read totals)
    (otherMember : other ∈ state.jobs) (undisturbed : Undisturbed state (.write other.id)) (job : Job) (member : job ∈ state.jobs)
    (closes : job.closes = true) (different : job.id ≠ other.id) (row : TenantBillingPeriod)
    (rowMember : row ∈ reconcileWrite other.period totals state.periods) (hit : row.id = job.period.id) : row ∈ state.periods := by
  rcases rewritten_or_kept other totals state.periods stage row rowMember with kept | ⟨old, oldMember, oldHit, rewrites, rowEq⟩
  · exact kept
  · have sameId : row.id = old.id := by rw [rowEq]; rfl
    have alone := (undisturbed other otherMember rfl old oldMember oldHit rewrites).2
    exact absurd (alone job member closes (hit.symm.trans sameId)) different

theorem step_staged (state : State) (event : Event) (settling : Settling state) (undisturbed : Undisturbed state event)
    (job : Job) (member : job ∈ (step state event).jobs) (closes : job.closes = true) (row : TenantBillingPeriod)
    (rowMember : row ∈ (step state event).periods) (hit : row.id = job.period.id) (isOpen : row.status = .opened) :
    Staged job row (step state event).postings := by
  have months := job_row_months _ (step_clocked state event settling.clocked) job member row rowMember hit
  have moves := step_move state event
  generalize step state event = after at moves member rowMember
  cases moves with
  | idle | ticked | inserted | dropped => exact settling.staged job member closes row rowMember hit isOpen
  | committed posting inside =>
      refine staged_congr job row state.postings _ ?_ (settling.staged job member closes row rowMember hit isOpen)
      intro counted
      exact arrivals_recorded job.period state.postings posting ((undisturbed posting inside rfl).1 job member ⟨closes, counted⟩)
  | resolved postingId billed =>
      refine staged_congr job row state.postings _ ?_ (settling.staged job member closes row rowMember hit isOpen)
      intro counted
      exact arrivals_resolved job.period state.postings postingId billed (undisturbed job member ⟨closes, counted⟩)
  | accumulated postingId readAt billed counts periods done =>
      have kept : row ∈ state.periods := by
        apply accumulate_untouched _ _ _ _ _ _ settling.clocked.sound done row rowMember
        · rw [covers_congr row job.period months]
          exact undisturbed job member closes
        · rw [covers_congr row job.period months]
          exact past_uncovered _ _ (settling.clocked.past job member closes)
      exact settling.staged job member closes row kept hit isOpen
  | loaded new fresh found wasOpen past stage =>
      rcases List.mem_append.mp member with old | added
      · exact settling.staged job old closes row rowMember hit isOpen
      · rw [List.mem_singleton.mp added] at hit ⊢
        rw [Staged, stage]
        exact same_row state.periods settling.clocked.sound row new.period rowMember (period_member state _ _ found).1 hit
  | gaveUp other => exact settling.staged job (List.mem_filter.mp member).1 closes row rowMember hit isOpen
  | read other held found stage trusted =>
      rcases mem_update_row Job.id other.id _ _ job member with ⟨kept, _⟩ | ⟨old, inside, hitOld, rfl⟩
      · exact settling.staged job kept closes row rowMember hit isOpen
      · have sameJob := unique_job state settling old other inside (job_member state _ _ found).1 hitOld
        subst sameJob
        have loadedRow := settling.staged old inside closes row rowMember hit isOpen
        rw [Staged, stage] at loadedRow
        exact ⟨loadedRow, rfl⟩
  | skipped other held found otherCloses stage untrusted =>
      exact absurd untrusted (undisturbed other (job_member state _ _ found).1 rfl otherCloses stage)
  | reconciled other totals found opens stage =>
      obtain ⟨inside, different⟩ := List.mem_filter.mp member
      have kept := other_write_kept state other totals stage (job_member state _ _ found).1 undisturbed job inside closes
        (by simpa using different) row rowMember hit
      exact settling.staged job inside closes row kept hit isOpen
  | written other totals found otherCloses stage =>
      have otherMember := (job_member state _ _ found).1
      rcases mem_update_row Job.id other.id _ _ job member with ⟨inside, different⟩ | ⟨old, inside, hitOld, rfl⟩
      · have kept := other_write_kept state other totals stage otherMember undisturbed job inside closes different row rowMember hit
        exact settling.staged job inside closes row kept hit isOpen
      · have sameJob := unique_job state settling old other inside otherMember hitOld
        subst sameJob
        exact own_write_staged state old totals settling inside closes stage row rowMember hit isOpen
  | closed other found otherCloses stage =>
      have inside := (List.mem_filter.mp member).1
      rcases mem_update_row TenantBillingPeriod.id other.period.id closeRow state.periods row rowMember with
        ⟨kept, _⟩ | ⟨old, _, _, rowEq⟩
      · exact settling.staged job inside closes row kept hit isOpen
      · rw [rowEq, (close_row_keeps old).2.2] at isOpen
        cases isOpen

theorem step_settling (state : State) (event : Event) (settling : Settling state) (undisturbed : Undisturbed state event) :
    Settling (step state event) where
  clocked := step_clocked state event settling.clocked
  jobIds := step_job_ids state event settling.jobIds
  staged := step_staged state event settling undisturbed

def Closes (state : State) (event : Event) (row : TenantBillingPeriod) : Prop :=
  row ∈ (step state event).periods ∧ row.status = .closed ∧ ∃ old ∈ state.periods, old.id = row.id ∧ old.status = .opened

theorem add_usage_closed (amount : Int) (events : Nat) (period : TenantBillingPeriod) (isClosed : period.status = .closed) :
    addUsage amount events period = period := by
  simp [addUsage, isClosed]

theorem step_closed_row (state : State) (event : Event) (settling : Settling state) (undisturbed : Undisturbed state event)
    (row : TenantBillingPeriod) (member : row ∈ (step state event).periods) (isClosed : row.status = .closed) :
    row ∈ state.periods ∨ (Closes state event row ∧ row.totals = getPeriodTotals row state.postings ∧
      (step state event).postings = state.postings) := by
  have stepped := member
  have notWritten : ∀ (job : Job) (totals : PeriodTotals), state.job job.id = some job → job.stage = .read totals →
      Undisturbed state (.write job.id) → row ∈ reconcileWrite job.period totals state.periods → row ∈ state.periods := by
    intro job totals found stage calm inside
    rcases rewritten_or_kept job totals state.periods stage row inside with kept | ⟨old, oldMember, oldHit, rewrites, rowEq⟩
    · exact kept
    · have isOpen := (calm job (job_member state _ _ found).1 rfl old oldMember oldHit rewrites).1
      have sameStatus : row.status = old.status := by rw [rowEq]; rfl
      rw [isClosed, isOpen] at sameStatus
      cases sameStatus
  have moves := step_move state event
  generalize eq : step state event = after at moves member
  cases moves with
  | idle | ticked | inserted | committed | dropped | resolved | loaded | gaveUp | read | skipped => exact .inl member
  | accumulated postingId readAt billed counts periods done =>
      refine .inl ?_
      obtain ⟨reading, base, period, _, had, afterEq⟩ := accumulate_cases _ _ _ _ _ _ done
      have inside : row ∈ updateRow TenantBillingPeriod.id period.id _ base := afterEq ▸ member
      have inBase : row ∈ base := by
        rcases mem_update_row TenantBillingPeriod.id period.id _ base row inside with ⟨kept, _⟩ | ⟨old, oldMember, _, rowEq⟩
        · exact kept
        · have oldClosed : old.status = .closed := by rw [← (add_usage_keeps _ _ old).2.2, ← rowEq, isClosed]
          rw [rowEq, add_usage_closed _ _ old oldClosed]
          exact oldMember
      rcases get_or_create_cases reading state.periods base period had with ⟨rfl, _⟩ | ⟨_, _, rfl, created⟩
      · exact inBase
      · rcases List.mem_append.mp inBase with kept | added
        · exact kept
        · rw [List.mem_singleton.mp added, created] at isClosed
          cases isClosed
  | reconciled job totals found opens stage => exact .inl (notWritten job totals found stage undisturbed member)
  | written job totals found closes stage => exact .inl (notWritten job totals found stage undisturbed member)
  | closed job found closes stage =>
      rcases mem_update_row TenantBillingPeriod.id job.period.id closeRow state.periods row member with
        ⟨kept, _⟩ | ⟨old, oldMember, hit, rowEq⟩
      · exact .inl kept
      · cases status : old.status with
        | closed =>
            rw [closeRow, status, if_neg (by decide)] at rowEq
            rw [rowEq]
            exact .inl oldMember
        | opened =>
            have jobMember := (job_member state _ _ found).1
            have sameId : old.id = row.id := by rw [rowEq, (close_row_keeps old).1]
            have staged := settling.staged job jobMember closes old oldMember hit status
            rw [Staged, stage] at staged
            have months : row.months = job.period.months := by
              rw [rowEq, (close_row_keeps old).2.1]
              exact job_row_months state settling.clocked job jobMember old oldMember hit
            have sameTotals : row.totals = old.totals := by
              rw [rowEq, closeRow, if_pos status]
              rfl
            refine .inr ⟨⟨stepped, isClosed, old, oldMember, sameId, status⟩, ?_, rfl⟩
            rw [sameTotals, totals_congr row job.period _ _ (arrivals_congr row job.period months state.postings)]
            exact staged

theorem arrivals_resolved_ids (period : TenantBillingPeriod) (postings : List Posting) (postingId : Uuid) (billed : Int) :
    (arrivals period (updateRow Posting.id postingId (resolvePrice billed) postings)).map Posting.id =
      (arrivals period postings).map Posting.id := by
  have pairs := update_row_map Posting.id postingId (resolvePrice billed) postings
    (fun posting => (posting.id, posting.createdAt)) (fun posting =>
      Prod.ext (resolve_price_arrival billed posting).2 (resolve_price_arrival billed posting).1)
  have viaPairs : ∀ rows : List Posting, (arrivals period rows).map Posting.id =
      ((rows.map (fun posting => (posting.id, posting.createdAt))).filter (fun pair => period.Covers pair.2)).map Prod.fst := by
    intro rows
    rw [List.filter_map, List.map_map]
    rfl
  rw [viaPairs, viaPairs, pairs]

theorem step_arrivals (state : State) (event : Event) (undisturbed : Undisturbed state event) (row : TenantBillingPeriod)
    (member : row ∈ state.periods) (isClosed : row.status = .closed) :
    (arrivals row (step state event).postings).map Posting.id = (arrivals row state.postings).map Posting.id := by
  have moves := step_move state event
  generalize step state event = after at moves
  cases moves with
  | committed posting inside =>
      exact congrArg (List.map Posting.id)
        (arrivals_recorded row state.postings posting ((undisturbed posting inside rfl).2 row member isClosed))
  | resolved postingId billed => exact arrivals_resolved_ids row state.postings postingId billed
  | idle | ticked | inserted | dropped | accumulated | loaded | gaveUp | read | skipped | reconciled | written | closed => rfl

def ExactlyOnce (start : Date) (events : List Event) : Prop :=
  (∀ row ∈ (stateAfter start events).periods, row.status = .closed →
    ∃ before event after, events = before ++ event :: after ∧ Closes (stateAfter start before) event row ∧
      row.totals = getPeriodTotals row (stateAfter start before).postings ∧
      (arrivals row (stateAfter start events).postings).map Posting.id =
        (arrivals row (stateAfter start before).postings).map Posting.id) ∧
  ∀ left ∈ (stateAfter start events).periods, ∀ right ∈ (stateAfter start events).periods, ∀ date,
    left.Covers date → right.Covers date → left = right

theorem initial_settling (start : Date) : Settling (initialState start) := by
  refine ⟨initial_clocked start, ?_, ?_⟩
  all_goals simp [initialState]

theorem undisturbed_run_settling (start : Date) (events : List Event)
    (undisturbed : Along step Undisturbed (initialState start) events) : Settling (stateAfter start events) :=
  along_invariant step Settling Undisturbed step_settling (initialState start) events (initial_settling start) undisturbed

theorem state_after_snoc (start : Date) (events : List Event) (event : Event) :
    stateAfter start (events ++ [event]) = step (stateAfter start events) event :=
  run_snoc step (initialState start) events event

theorem closed_totals_exact (start : Date) (events : List Event)
    (undisturbed : Along step Undisturbed (initialState start) events) : ExactlyOnce start events := by
  refine ⟨?_, ?_⟩
  · induction events using List.reverseRecOn with
    | nil => simp [stateAfter, initialState]
    | append_singleton earlier event ih =>
        rw [along_append] at undisturbed
        have settling := undisturbed_run_settling start earlier undisturbed.1
        intro row member isClosed
        rw [state_after_snoc] at member ⊢
        have calm : Undisturbed (stateAfter start earlier) event := undisturbed.2.1
        rcases step_closed_row (stateAfter start earlier) event settling calm row member isClosed with kept | ⟨closes, totals, still⟩
        · obtain ⟨before, closing, after, split, closed, totals, ids⟩ := ih undisturbed.1 row kept isClosed
          refine ⟨before, closing, after ++ [event], by rw [split]; simp, closed, totals, ?_⟩
          rw [step_arrivals _ event calm row kept isClosed]
          exact ids
        · exact ⟨earlier, event, [], rfl, closes, totals, by rw [still]⟩
  · intro left leftMember right rightMember date
    exact covering_row_unique _ (undisturbed_run_settling start events undisturbed).clocked.sound left right leftMember rightMember date

def firstOfMarch : Date := ⟨2026, 3, 1, by decide, first_day_valid⟩

def straddlingRun : List Event :=
  [.insert ⟨"ev-1"⟩ .meteredUsage (some 100), .commit ⟨"ev-1"⟩, .handle ⟨"ev-1"⟩ lastOfJanuary,
    .insert ⟨"ev-2"⟩ .meteredUsage (some 300), .commit ⟨"ev-2"⟩, .tick firstOfFebruary] ++ closeJanuary ++
  [.handle ⟨"ev-2"⟩ firstOfFebruary, .tick firstOfMarch, .loadClose 2 1, .read 2 false, .finish 2]

theorem straddling_posting_counted_twice :
    ((stateAfter lastOfJanuary straddlingRun).periods.map (fun period => (period.status, period.totalBilledCostMicros)) =
      [(.closed, 400), (.closed, 300)]) ∧
    ¬ ∀ (start : Date) (events : List Event), ExactlyOnce start events := by
  refine ⟨by decide, ?_⟩
  intro always
  have february : (⟨1, firstOfFebruary, firstOfMarch, .closed, 300, 1⟩ : TenantBillingPeriod) ∈
      (stateAfter lastOfJanuary straddlingRun).periods := by decide
  obtain ⟨before, event, after, split, _, totals, _⟩ := (always lastOfJanuary straddlingRun).1 _ february rfl
  have stage : before ∈ straddlingRun.inits := by
    rw [List.mem_inits]
    exact ⟨event :: after, split.symm⟩
  have nothingArrived : ∀ reached ∈ straddlingRun.inits,
      getPeriodTotals ⟨1, firstOfFebruary, firstOfMarch, .closed, 300, 1⟩ (stateAfter lastOfJanuary reached).postings =
        ⟨0, 0⟩ := by decide
  rw [nothingArrived before stage] at totals
  cases totals

-- ev-3 was inserted on 31 January and commits after January closed.
def inFlightRun : List Event :=
  [.insert ⟨"ev-1"⟩ .meteredUsage (some 100), .commit ⟨"ev-1"⟩, .handle ⟨"ev-1"⟩ lastOfJanuary,
    .insert ⟨"ev-3"⟩ .meteredUsage (some 300), .tick firstOfFebruary] ++ closeJanuary ++ [.commit ⟨"ev-3"⟩]

example : (stateAfter lastOfJanuary inFlightRun).periods.map (fun period =>
    (period.totalBilledCostMicros, (getPeriodTotals period (stateAfter lastOfJanuary inFlightRun).postings).totalBilledCostMicros)) =
      [(100, 400)] := by decide

-- Two reconciles are in flight: one when a price resolves, and one across the
-- close, which finds the row corrected.
def settledRun : List Event :=
  [.insert ⟨"ev-1"⟩ .meteredUsage (some 100), .commit ⟨"ev-1"⟩, .handle ⟨"ev-1"⟩ lastOfJanuary,
    .insert ⟨"ev-2"⟩ .meteredUsage none, .commit ⟨"ev-2"⟩, .loadReconcile 7 0, .read 7 false, .resolve ⟨"ev-2"⟩ 300, .write 7,
    .tick firstOfFebruary, .loadReconcile 8 0, .read 8 false] ++ closeJanuary ++ [.write 8]

theorem settled_run_exactly_once :
    ((stateAfter lastOfJanuary settledRun).periods.map (fun period => (period.status, period.totalBilledCostMicros)) =
      [(.closed, 400)]) ∧ ExactlyOnce lastOfJanuary settledRun :=
  ⟨by decide, closed_totals_exact lastOfJanuary settledRun (by decide)⟩

end Ubb.TenantBilling
