import Ubb.Outbox.Atomicity

set_option autoImplicit false

namespace Ubb.Outbox

open Ubb.Library

section

variable {Write : Type}

def dispatches (eventId : Uuid) (db : Database Write) : Task → Bool
  | .processSingleEvent target attempt =>
      target = eventId ∧ attempt.locked = false ∧ (db.find eventId).any (fun event => event.status = .pending)
  | .writeEvent _ _ _ _ => false
  | .sweepOutbox _ => false

def failedDispatch (registry : Registry Write) (eventId : Uuid) (db : Database Write) (task : Task) : Bool :=
  dispatches eventId db task && ((step registry db task).find eventId).any (fun event => event.status ≠ .processed)

def Unbroken (registry : Registry Write) (db : Database Write) : Task → Prop
  | .processSingleEvent eventId attempt =>
      ∀ event, TakenUp db eventId attempt event → ∀ entry ∈ registry event.eventType, ∀ after,
        attempt.ending entry.name ≠ .breaks after
  | .writeEvent _ _ _ _ => True
  | .sweepOutbox _ => True

theorem dispatches_taken_up (eventId target : Uuid) (attempt : Attempt) (db : Database Write) :
    dispatches eventId db (.processSingleEvent target attempt) = true ↔
      target = eventId ∧ ∃ event, TakenUp db target attempt event := by
  rw [dispatches, decide_eq_true_eq]
  constructor
  · rintro ⟨rfl, unlocked, pending⟩
    obtain ⟨event, found, isPending⟩ := (Option.any_eq_true _ _).mp pending
    exact ⟨rfl, event, found, unlocked, by simpa using isPending⟩
  · rintro ⟨rfl, event, found, unlocked, pending⟩
    exact ⟨rfl, unlocked, by simp [found, pending]⟩

def Accounted (eventId : Uuid) (db : Database Write) : Prop :=
  ∀ event, db.find eventId = some event → event.maxRetries = 5 ∧
    ((event.status = .pending ∧ event.retryCount < 5) ∨ (event.status = .processed ∧ event.retryCount < 5) ∨
      (event.status = .failed ∧ event.retryCount = 5))

def remaining (eventId : Uuid) (db : Database Write) : Nat :=
  match db.find eventId with
  | none => 5
  | some event => if event.status = .pending then 5 - event.retryCount else 0

def retries (eventId : Uuid) (db : Database Write) : Nat :=
  match db.find eventId with
  | none => 0
  | some event => event.retryCount

theorem record_failure_counts (now : Nat) (error : String) (event : OutboxEvent) :
    (recordFailure now error event).retryCount = event.retryCount + 1 ∧
      (recordFailure now error event).maxRetries = event.maxRetries ∧
      (((recordFailure now error event).status = .failed ∧ event.maxRetries ≤ event.retryCount + 1) ∨
        ((recordFailure now error event).status = .pending ∧ event.retryCount + 1 < event.maxRetries)) := by
  simp only [recordFailure]
  split
  · rename_i spent
    exact ⟨rfl, rfl, .inl ⟨rfl, spent⟩⟩
  · rename_i unspent
    exact ⟨rfl, rfl, .inr ⟨rfl, Nat.lt_of_not_le unspent⟩⟩

theorem process_self (registry : Registry Write) (attempt : Attempt) (db : Database Write) (event : OutboxEvent)
    (takenUp : TakenUp db event.id attempt event) (unbroken : Unbroken registry db (.processSingleEvent event.id attempt)) :
    (processSingleEvent registry event.id attempt db).find event.id = some (completed attempt.now event) ∨
      ∃ error, (processSingleEvent registry event.id attempt db).find event.id =
        some (recordFailure attempt.now error (claimed attempt.now event)) := by
  obtain ⟨ran, left, outcome, _, _, ended, reached⟩ := process_cases registry event.id attempt db event takenUp
  rcases reached with ⟨_, committed⟩ | ⟨error, _, committed⟩ | ⟨outcomeEq, _⟩
  · exact .inl committed.found
  · exact .inr ⟨error, committed.found⟩
  · subst outcomeEq
    cases ended with
    | broken entry after _ member ending => exact absurd ending (unbroken event takenUp entry member after)

theorem process_other (registry : Registry Write) (target eventId : Uuid) (attempt : Attempt) (db : Database Write)
    (different : eventId ≠ target) : (processSingleEvent registry target attempt db).find eventId = db.find eventId := by
  by_cases some_event : ∃ event, TakenUp db target attempt event
  · obtain ⟨event, takenUp⟩ := some_event
    have idEq := find_id db target event takenUp.1
    obtain ⟨ran, left, outcome, _, _, _, reached⟩ := process_cases registry target attempt db event takenUp
    rcases reached with ⟨_, committed⟩ | ⟨error, _, committed⟩ | ⟨_, rolledBack⟩
    · exact committed.others eventId (by rw [idEq]; exact different)
    · exact committed.others eventId (by rw [idEq]; exact different)
    · rw [rolledBack]
  · rw [process_skips registry target attempt db (fun event takenUp => some_event ⟨event, takenUp⟩)]

inductive RowMoves (eventId : Uuid) (db after : Database Write) : Bool → Prop
  | same (unchanged : after.find eventId = db.find eventId) : RowMoves eventId db after false
  | created (event : OutboxEvent) (missing : db.find eventId = none) (added : after.find eventId = some event)
      (isNew : event.status = .pending ∧ event.retryCount = 0 ∧ event.maxRetries = 5) : RowMoves eventId db after false
  | completed (event later : OutboxEvent) (found : db.find eventId = some event) (pending : event.status = .pending)
      (saved : after.find eventId = some later) (ended : later.status = .processed)
      (kept : later.retryCount = event.retryCount ∧ later.maxRetries = event.maxRetries) : RowMoves eventId db after true
  | counted (event later : OutboxEvent) (found : db.find eventId = some event) (pending : event.status = .pending)
      (saved : after.find eventId = some later)
      (kept : later.retryCount = event.retryCount + 1 ∧ later.maxRetries = event.maxRetries)
      (ended : (later.status = .failed ∧ event.maxRetries ≤ event.retryCount + 1) ∨
        (later.status = .pending ∧ event.retryCount + 1 < event.maxRetries)) : RowMoves eventId db after true

theorem step_moves (registry : Registry Write) (eventId : Uuid) (db : Database Write) (task : Task)
    (accounted : Accounted eventId db) (unbroken : Unbroken registry db task) :
    RowMoves eventId db (step registry db task) (dispatches eventId db task) := by
  cases task with
  | writeEvent target eventType tenantId now =>
      rcases write_event_find target eventType tenantId now db eventId with same | ⟨_, missing, added⟩
      · exact .same same
      · exact .created _ missing added ⟨rfl, rfl, rfl⟩
  | sweepOutbox now =>
      rcases sweep_find now db eventId with same | ⟨event, found, processing, _⟩
      · exact .same same
      · obtain ⟨_, ⟨pending, _⟩ | ⟨processed, _⟩ | ⟨failed, _⟩⟩ := accounted event found
        · exact absurd (pending.symm.trans processing) (by decide)
        · exact absurd (processed.symm.trans processing) (by decide)
        · exact absurd (failed.symm.trans processing) (by decide)
  | processSingleEvent target attempt =>
      by_cases dispatched : dispatches eventId db (.processSingleEvent target attempt) = true
      · rw [dispatched]
        obtain ⟨rfl, event, takenUp⟩ := (dispatches_taken_up eventId target attempt db).mp dispatched
        have idEq := find_id db target event takenUp.1
        subst idEq
        rcases process_self registry attempt db event takenUp unbroken with done | ⟨error, failed⟩
        · exact .completed event _ takenUp.1 takenUp.2.2 done rfl ⟨rfl, rfl⟩
        · obtain ⟨count, limit, ended⟩ := record_failure_counts attempt.now error (claimed attempt.now event)
          exact .counted event _ takenUp.1 takenUp.2.2 failed ⟨count, limit⟩ ended
      · have skipped : dispatches eventId db (.processSingleEvent target attempt) = false := by simpa using dispatched
        rw [skipped]
        by_cases self : target = eventId
        · subst self
          refine .same ?_
          rw [step, process_skips registry target attempt db]
          intro event takenUp
          exact dispatched ((dispatches_taken_up target target attempt db).mpr ⟨rfl, event, takenUp⟩)
        · exact .same (process_other registry target eventId attempt db (Ne.symm self))

theorem step_accounted (registry : Registry Write) (eventId : Uuid) (db : Database Write) (task : Task)
    (accounted : Accounted eventId db) (unbroken : Unbroken registry db task) : Accounted eventId (step registry db task) := by
  intro stored storedEq
  have moves := step_moves registry eventId db task accounted unbroken
  generalize dispatches eventId db task = counts at moves
  cases moves with
  | same unchanged => exact accounted stored (unchanged ▸ storedEq)
  | created event _ added isNew =>
      rw [added, Option.some.injEq] at storedEq
      subst storedEq
      exact ⟨isNew.2.2, .inl ⟨isNew.1, by omega⟩⟩
  | completed event later found pending saved ended kept =>
      rw [saved, Option.some.injEq] at storedEq
      subst storedEq
      obtain ⟨limit, ⟨_, below⟩ | ⟨processed, _⟩ | ⟨failed, _⟩⟩ := accounted event found
      · exact ⟨kept.2.trans limit, .inr (.inl ⟨ended, by omega⟩)⟩
      · exact absurd (processed.symm.trans pending) (by decide)
      · exact absurd (failed.symm.trans pending) (by decide)
  | counted event later found pending saved kept ended =>
      rw [saved, Option.some.injEq] at storedEq
      subst storedEq
      obtain ⟨limit, ⟨_, below⟩ | ⟨processed, _⟩ | ⟨failed, _⟩⟩ := accounted event found
      · rcases ended with ⟨spent, atLimit⟩ | ⟨again, belowLimit⟩
        · exact ⟨kept.2.trans limit, .inr (.inr ⟨spent, by omega⟩)⟩
        · exact ⟨kept.2.trans limit, .inl ⟨again, by omega⟩⟩
      · exact absurd (processed.symm.trans pending) (by decide)
      · exact absurd (failed.symm.trans pending) (by decide)

theorem step_uses_up (registry : Registry Write) (eventId : Uuid) (db : Database Write) (task : Task)
    (accounted : Accounted eventId db) (unbroken : Unbroken registry db task) :
    (dispatches eventId db task).toNat + remaining eventId (step registry db task) ≤ remaining eventId db := by
  have moves := step_moves registry eventId db task accounted unbroken
  generalize dispatches eventId db task = counts at moves
  cases moves with
  | same unchanged => simp [remaining, unchanged]
  | created event missing added isNew => simp [remaining, missing, added, isNew.1, isNew.2.1]
  | completed event later found pending saved ended kept =>
      obtain ⟨_, ⟨_, below⟩ | ⟨processed, _⟩ | ⟨failed, _⟩⟩ := accounted event found
      · simp only [remaining, found, saved, ended, pending, Bool.toNat_true]
        simp only [reduceCtorEq, if_false, if_true]
        omega
      · exact absurd (processed.symm.trans pending) (by decide)
      · exact absurd (failed.symm.trans pending) (by decide)
  | counted event later found pending saved kept ended =>
      obtain ⟨_, ⟨_, below⟩ | ⟨processed, _⟩ | ⟨failed, _⟩⟩ := accounted event found
      · simp only [remaining, found, saved, pending, Bool.toNat_true, if_true]
        split
        · omega
        · omega
      · exact absurd (processed.symm.trans pending) (by decide)
      · exact absurd (failed.symm.trans pending) (by decide)

theorem step_counts_failure (registry : Registry Write) (eventId : Uuid) (db : Database Write) (task : Task)
    (accounted : Accounted eventId db) (unbroken : Unbroken registry db task) :
    retries eventId (step registry db task) = retries eventId db + (failedDispatch registry eventId db task).toNat := by
  have moves := step_moves registry eventId db task accounted unbroken
  rw [failedDispatch]
  generalize dispatches eventId db task = counts at moves
  cases moves with
  | same unchanged => simp [retries, unchanged]
  | created event missing added isNew => simp [retries, missing, added, isNew.2.1]
  | completed event later found pending saved ended kept => simp [retries, found, saved, ended, kept.1]
  | counted event later found pending saved kept ended =>
      have unfinished : later.status ≠ .processed := by
        rcases ended with ⟨failed, _⟩ | ⟨again, _⟩
        · simp [failed]
        · simp [again]
      simp [retries, found, saved, unfinished, kept.1]

theorem failed_row_stays (registry : Registry Write) (eventId : Uuid) (db : Database Write) (task : Task) (event : OutboxEvent)
    (found : db.find eventId = some event) (failed : event.status = .failed) :
    (step registry db task).find eventId = some event ∧ dispatches eventId db task = false := by
  cases task with
  | writeEvent target eventType tenantId now =>
      refine ⟨?_, rfl⟩
      rcases write_event_find target eventType tenantId now db eventId with same | ⟨_, missing, _⟩
      · exact same.trans found
      · rw [found] at missing
        cases missing
  | sweepOutbox now =>
      refine ⟨?_, rfl⟩
      rcases sweep_find now db eventId with same | ⟨stuck, foundStuck, processing, _⟩
      · exact same.trans found
      · rw [found, Option.some.injEq] at foundStuck
        rw [← foundStuck, failed] at processing
        cases processing
  | processSingleEvent target attempt =>
      have idle : dispatches eventId db (.processSingleEvent target attempt) = false := by
        simp [dispatches, found, failed]
      refine ⟨?_, idle⟩
      by_cases self : target = eventId
      · subst self
        rw [step, process_skips registry target attempt db, found]
        intro other takenUp
        have counted := (dispatches_taken_up target target attempt db).mpr ⟨rfl, other, takenUp⟩
        rw [idle] at counted
        cases counted
      · exact (process_other registry target eventId attempt db (Ne.symm self)).trans found

theorem failed_never_dispatched (registry : Registry Write) (eventId : Uuid) (db : Database Write) (event : OutboxEvent)
    (found : db.find eventId = some event) (failed : event.status = .failed) (tasks : List Task) :
    countAlong (step registry) (dispatches eventId) db tasks = 0 := by
  induction tasks generalizing db with
  | nil => rfl
  | cons task rest ih =>
      obtain ⟨kept, idle⟩ := failed_row_stays registry eventId db task event found failed
      rw [countAlong, idle, ih (step registry db task) kept]
      rfl

structure RetriesBounded (registry : Registry Write) (eventId : Uuid) (tasks : List Task) : Prop where
  counted : ∀ reached task, reached ++ [task] <+: tasks → dispatches eventId (databaseAfter registry reached) task = true →
    ∃ event later, (databaseAfter registry reached).find eventId = some event ∧
      (databaseAfter registry (reached ++ [task])).find eventId = some later ∧
      (later.status = .processed ∨ later.retryCount = event.retryCount + 1)
  bounded : ∀ event, (databaseAfter registry tasks).find eventId = some event →
    countAlong (step registry) (dispatches eventId) (emptyDatabase Write) tasks ≤ event.maxRetries
  spent : ∀ event, (databaseAfter registry tasks).find eventId = some event →
    countAlong (step registry) (failedDispatch registry eventId) (emptyDatabase Write) tasks = event.maxRetries →
    event.status = .failed ∧
      ∀ later, countAlong (step registry) (dispatches eventId) (databaseAfter registry tasks) later = 0

theorem empty_accounted (eventId : Uuid) : Accounted eventId (emptyDatabase Write) := by
  intro event found
  cases found

theorem accounted_after (registry : Registry Write) (eventId : Uuid) (tasks : List Task)
    (unbroken : Along (step registry) (Unbroken registry) (emptyDatabase Write) tasks) :
    Accounted eventId (databaseAfter registry tasks) :=
  along_invariant (step registry) (Accounted eventId) (Unbroken registry) (step_accounted registry eventId) _ tasks
    (empty_accounted eventId) unbroken

theorem database_after_snoc (registry : Registry Write) (tasks : List Task) (task : Task) :
    databaseAfter registry (tasks ++ [task]) = step registry (databaseAfter registry tasks) task :=
  run_snoc (step registry) (emptyDatabase Write) tasks task

theorem retries_eq_failures (registry : Registry Write) (eventId : Uuid) (tasks : List Task)
    (unbroken : Along (step registry) (Unbroken registry) (emptyDatabase Write) tasks) :
    retries eventId (databaseAfter registry tasks) =
      countAlong (step registry) (failedDispatch registry eventId) (emptyDatabase Write) tasks := by
  have counter := count_along_eq_counter (step registry) (failedDispatch registry eventId) (Accounted eventId) (Unbroken registry)
    (step_accounted registry eventId) (retries eventId) (step_counts_failure registry eventId) (emptyDatabase Write) tasks
    (empty_accounted eventId) unbroken
  have start : retries eventId (emptyDatabase Write) = 0 := rfl
  rw [databaseAfter, counter, start, Nat.zero_add]

theorem spent_row_failed (eventId : Uuid) (db : Database Write) (accounted : Accounted eventId db) (event : OutboxEvent)
    (found : db.find eventId = some event) (spent : event.retryCount = event.maxRetries) : event.status = .failed := by
  obtain ⟨limit, ⟨_, below⟩ | ⟨_, below⟩ | ⟨isFailed, _⟩⟩ := accounted event found
  · omega
  · omega
  · exact isFailed

theorem unbroken_retries_bounded (registry : Registry Write) (tasks : List Task)
    (unbroken : Along (step registry) (Unbroken registry) (emptyDatabase Write) tasks) (eventId : Uuid) :
    RetriesBounded registry eventId tasks := by
  have accounted := accounted_after registry eventId tasks unbroken
  constructor
  · intro reached task stage dispatched
    obtain ⟨rest, split⟩ := stage
    rw [← split, along_append, along_append] at unbroken
    have before := accounted_after registry eventId reached unbroken.1.1
    have moves := step_moves registry eventId (databaseAfter registry reached) task before unbroken.1.2.1
    rw [database_after_snoc]
    rw [dispatched] at moves
    cases moves with
    | completed event later found _ saved ended _ => exact ⟨event, later, found, saved, .inl ended⟩
    | counted event later found _ saved kept _ => exact ⟨event, later, found, saved, .inr kept.1⟩
  · intro event found
    have usedUp := count_along_le_rank (step registry) (dispatches eventId) (Accounted eventId) (Unbroken registry)
      (step_accounted registry eventId) (remaining eventId) (step_uses_up registry eventId) (emptyDatabase Write) tasks
      (empty_accounted eventId) unbroken
    have start : remaining eventId (emptyDatabase Write) = 5 := rfl
    rw [(accounted event found).1]
    omega
  · intro event found all
    have counter := retries_eq_failures registry eventId tasks unbroken
    have stored : retries eventId (databaseAfter registry tasks) = event.retryCount := by simp [retries, found]
    have failed := spent_row_failed eventId _ accounted event found (by omega)
    exact ⟨failed, failed_never_dispatched registry eventId _ event found failed⟩

end

def brokenRounds : Nat → List Task
  | 0 => []
  | rounds + 1 => [.sweepOutbox 60, dispatchTask 61 (.breaks 0)] ++ brokenRounds rounds

theorem broken_round_dispatches (rounds : Nat) :
    countAlong (step billingRegistry) (dispatches ⟨"ob-1"⟩) (databaseAfter billingRegistry [recordedTask]) (brokenRounds rounds) =
      rounds := by
  induction rounds with
  | zero => rfl
  | succ rounds ih =>
      have swept : step billingRegistry (databaseAfter billingRegistry [recordedTask]) (.sweepOutbox 60) =
          databaseAfter billingRegistry [recordedTask] := by decide
      have rolledBack : step billingRegistry (databaseAfter billingRegistry [recordedTask]) (dispatchTask 61 (.breaks 0)) =
          databaseAfter billingRegistry [recordedTask] := by decide
      have dispatched : dispatches ⟨"ob-1"⟩ (databaseAfter billingRegistry [recordedTask]) (dispatchTask 61 (.breaks 0)) = true := by
        decide
      simp only [brokenRounds, List.cons_append, List.nil_append, countAlong, swept, rolledBack, dispatched, ih]
      simp only [dispatches, Bool.toNat_false, Bool.toNat_true]
      omega

theorem broken_dispatch_never_counted :
    (sweepOutbox 60 (databaseAfter billingRegistry [recordedTask, dispatchTask 1 (.breaks 1)])).2 = [⟨"ob-1"⟩] ∧
    ¬ (∃ bound, ∀ tasks : List Task,
      countAlong (step billingRegistry) (dispatches ⟨"ob-1"⟩) (emptyDatabase BillingWrite) tasks ≤ bound) ∧
    ¬ ∀ tasks : List Task, RetriesBounded billingRegistry ⟨"ob-1"⟩ tasks := by
  refine ⟨by decide, ?_, ?_⟩
  · rintro ⟨bound, always⟩
    have within := always (recordedTask :: brokenRounds (bound + 1))
    have first : dispatches ⟨"ob-1"⟩ (emptyDatabase BillingWrite) recordedTask = false := rfl
    have rounds : countAlong (step billingRegistry) (dispatches ⟨"ob-1"⟩) (step billingRegistry (emptyDatabase BillingWrite) recordedTask)
        (brokenRounds (bound + 1)) = bound + 1 := broken_round_dispatches (bound + 1)
    rw [countAlong, first, rounds] at within
    simp only [Bool.toNat_false] at within
    omega
  · intro always
    have dispatched : dispatches ⟨"ob-1"⟩ (databaseAfter billingRegistry [recordedTask]) (dispatchTask 1 (.breaks 1)) = true := by
      decide
    obtain ⟨event, later, found, saved, moved⟩ := (always [recordedTask, dispatchTask 1 (.breaks 1)]).counted [recordedTask]
      (dispatchTask 1 (.breaks 1)) (List.prefix_refl _) dispatched
    have rolledBack : (databaseAfter billingRegistry ([recordedTask] ++ [dispatchTask 1 (.breaks 1)])).find ⟨"ob-1"⟩ =
        some { id := ⟨"ob-1"⟩, eventType := "usage.recorded", tenantId := ⟨"tenant-1"⟩, updatedAt := 0 } := by decide
    have stored : (databaseAfter billingRegistry [recordedTask]).find ⟨"ob-1"⟩ =
        some { id := ⟨"ob-1"⟩, eventType := "usage.recorded", tenantId := ⟨"tenant-1"⟩, updatedAt := 0 } := by decide
    rw [stored, Option.some.injEq] at found
    rw [rolledBack, Option.some.injEq] at saved
    subst found
    subst saved
    simp at moved

theorem raising_run_bounded :
    RetriesBounded billingRegistry ⟨"ob-1"⟩ [recordedTask, dispatchTask 1 (.raises 1 "DoesNotExist"), .sweepOutbox 60,
      dispatchTask 61 .returns] := by
  apply unbroken_retries_bounded
  refine ⟨trivial, ?_, trivial, ?_, trivial⟩
  · intro event _ entry _ after ending
    cases ending
  · intro event _ entry _ after ending
    cases ending

end Ubb.Outbox
