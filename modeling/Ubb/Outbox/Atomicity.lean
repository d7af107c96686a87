import Ubb.Outbox.Dispatch

set_option autoImplicit false

namespace Ubb.Outbox

open Ubb.Library

section

variable {Write : Type}

def Database.checkpointNames (db : Database Write) (eventId : Uuid) : List String :=
  (db.checkpoints.filter (fun checkpoint => checkpoint.outboxEvent = eventId)).map HandlerCheckpoint.handlerName

def Database.writesOf (db : Database Write) (eventId : Uuid) : List Write :=
  (db.written.filter (fun write => write.1 = eventId)).map Prod.snd

-- The committed statements of an event are the whole writes of the handlers that
-- hold a checkpoint for it, each once and in checkpoint order.
def Exact (registry : Registry Write) (db : Database Write) (eventId : Uuid) : Prop :=
  match db.find eventId with
  | none => db.checkpointNames eventId = [] ∧ db.writesOf eventId = []
  | some event =>
      ∃ handlers : List (HandlerEntry Write), (∀ entry ∈ handlers, entry ∈ registry event.eventType) ∧
        handlers.map HandlerEntry.name = db.checkpointNames eventId ∧ (db.checkpointNames eventId).Nodup ∧
        db.writesOf eventId = handlers.flatMap (fun entry => entry.writes eventId)

theorem checkpoint_names_after (db : Database Write) (eventId : Uuid) (ran : List (HandlerEntry Write)) (left : List Write) :
    (db.afterCalls eventId ran left).checkpointNames eventId = db.checkpointNames eventId ++ ran.map HandlerEntry.name := by
  simp [Database.checkpointNames, Database.afterCalls, List.filter_map, Function.comp_def]

theorem checkpoint_names_other (db : Database Write) (eventId other : Uuid) (ran : List (HandlerEntry Write))
    (left : List Write) (different : other ≠ eventId) :
    (db.afterCalls eventId ran left).checkpointNames other = db.checkpointNames other := by
  simp [Database.checkpointNames, Database.afterCalls, List.filter_map, Function.comp_def, Ne.symm different]

theorem writes_of_after (db : Database Write) (eventId : Uuid) (ran : List (HandlerEntry Write)) (left : List Write) :
    (db.afterCalls eventId ran left).writesOf eventId =
      db.writesOf eventId ++ (ran.flatMap (fun entry => entry.writes eventId) ++ left) := by
  simp only [Database.writesOf, Database.afterCalls, List.filter_append, List.map_append, List.filter_map, Function.comp_def]
  simp

theorem writes_of_other (db : Database Write) (eventId other : Uuid) (ran : List (HandlerEntry Write)) (left : List Write)
    (different : other ≠ eventId) : (db.afterCalls eventId ran left).writesOf other = db.writesOf other := by
  simp only [Database.writesOf, Database.afterCalls, List.filter_append, List.map_append, List.filter_map, Function.comp_def]
  simp [Ne.symm different]

theorem unseen_name (db : Database Write) (eventId : Uuid) (name : String) (unseen : db.hasCheckpoint eventId name = false) :
    name ∉ db.checkpointNames eventId := by
  intro member
  obtain ⟨checkpoint, inside, nameEq⟩ := List.mem_map.mp member
  rw [List.mem_filter, decide_eq_true_eq] at inside
  rw [Database.hasCheckpoint, List.any_eq_false] at unseen
  exact unseen checkpoint inside.1 (by simp [inside.2, nameEq])

theorem exact_congr (registry : Registry Write) (before after : Database Write) (eventId : Uuid)
    (row : (after.find eventId).map OutboxEvent.eventType = (before.find eventId).map OutboxEvent.eventType)
    (names : after.checkpointNames eventId = before.checkpointNames eventId)
    (writes : after.writesOf eventId = before.writesOf eventId) (exact : Exact registry before eventId) :
    Exact registry after eventId := by
  rw [Exact] at exact ⊢
  cases stored : before.find eventId with
  | none =>
      rw [stored, Option.map_none, Option.map_eq_none_iff] at row
      simp only [stored] at exact
      simp only [row, names, writes]
      exact exact
  | some event =>
      rw [stored, Option.map_some, Option.map_eq_some_iff] at row
      obtain ⟨later, found, sameType⟩ := row
      simp only [stored] at exact
      simp only [found, names, writes, sameType]
      exact exact

def RaisesUnwritten (registry : Registry Write) (db : Database Write) : Task → Prop
  | .processSingleEvent eventId attempt =>
      ∀ event, TakenUp db eventId attempt event → ∀ entry ∈ registry event.eventType, ∀ after error,
        attempt.ending entry.name = .raises after error → (entry.writes eventId).take after = []
  | .writeEvent _ _ _ _ => True
  | .sweepOutbox _ => True

theorem committed_exact (registry : Registry Write) (db after : Database Write) (event final : OutboxEvent)
    (ran : List (HandlerEntry Write)) (found : db.find event.id = some event) (sameType : final.eventType = event.eventType)
    (fresh : ∀ entry ∈ ran, entry ∈ registry event.eventType ∧ db.hasCheckpoint event.id entry.name = false)
    (distinct : (ran.map HandlerEntry.name).Nodup) (committed : Committed db after event final ran [])
    (exact : ∀ wanted, Exact registry db wanted) : ∀ wanted, Exact registry after wanted := by
  have namesEq : ∀ wanted, after.checkpointNames wanted = (db.afterCalls event.id ran []).checkpointNames wanted := by
    intro wanted
    rw [Database.checkpointNames, committed.checkpoints, ← Database.checkpointNames]
  have writesEq : ∀ wanted, after.writesOf wanted = (db.afterCalls event.id ran []).writesOf wanted := by
    intro wanted
    rw [Database.writesOf, committed.written, ← Database.writesOf]
  intro wanted
  by_cases same : wanted = event.id
  · subst same
    have before := exact event.id
    simp only [Exact, found] at before
    obtain ⟨handlers, listed, named, once, whole⟩ := before
    simp only [Exact, committed.found, sameType]
    refine ⟨handlers ++ ran, ?_, ?_, ?_, ?_⟩
    · intro entry member
      rcases List.mem_append.mp member with old | new
      · exact listed entry old
      · exact (fresh entry new).1
    · rw [namesEq, checkpoint_names_after, List.map_append, named]
    · rw [namesEq, checkpoint_names_after, List.nodup_append]
      refine ⟨once, distinct, ?_⟩
      intro old oldMember new newMember sameName
      obtain ⟨entry, member, nameEq⟩ := List.mem_map.mp newMember
      apply unseen_name db event.id entry.name (fresh entry member).2
      rw [nameEq, ← sameName]
      exact oldMember
    · rw [writesEq, writes_of_after, whole, List.append_nil, List.flatMap_append]
  · apply exact_congr registry db after wanted _ _ _ (exact wanted)
    · rw [committed.others wanted same]
    · rw [namesEq, checkpoint_names_other _ _ _ _ _ same]
    · rw [writesEq, writes_of_other _ _ _ _ _ same]

theorem record_failure_type (now : Nat) (error : String) (event : OutboxEvent) :
    (recordFailure now error event).eventType = event.eventType := by
  simp only [recordFailure]
  split
  · rfl
  · rfl

theorem process_exact (registry : Registry Write) (eventId : Uuid) (attempt : Attempt) (db : Database Write)
    (unwritten : RaisesUnwritten registry db (.processSingleEvent eventId attempt))
    (exact : ∀ wanted, Exact registry db wanted) :
    ∀ wanted, Exact registry (processSingleEvent registry eventId attempt db) wanted := by
  by_cases some_event : ∃ event, TakenUp db eventId attempt event
  · obtain ⟨event, takenUp⟩ := some_event
    have idEq := find_id db eventId event takenUp.1
    have found : db.find event.id = some event := by rw [idEq, takenUp.1]
    obtain ⟨ran, left, outcome, fresh, distinct, ended, reached⟩ := process_cases registry eventId attempt db event takenUp
    rcases reached with ⟨outcomeEq, committed⟩ | ⟨error, outcomeEq, committed⟩ | ⟨_, rolledBack⟩
    · subst outcomeEq
      cases ended
      exact committed_exact registry db _ event (completed attempt.now event) ran found rfl fresh distinct committed exact
    · subst outcomeEq
      cases ended with
      | raised entry after _ member ending =>
          have nothing := unwritten event takenUp entry member after error ending
          rw [← idEq] at nothing
          rw [nothing] at committed
          exact committed_exact registry db _ event _ ran found (record_failure_type _ _ _) fresh distinct committed exact
    · rw [rolledBack]
      exact exact
  · rw [process_skips registry eventId attempt db (fun event takenUp => some_event ⟨event, takenUp⟩)]
    exact exact

theorem step_exact (registry : Registry Write) (db : Database Write) (task : Task) (exact : ∀ wanted, Exact registry db wanted)
    (unwritten : RaisesUnwritten registry db task) : ∀ wanted, Exact registry (step registry db task) wanted := by
  cases task with
  | processSingleEvent eventId attempt => exact process_exact registry eventId attempt db unwritten exact
  | sweepOutbox now =>
      intro wanted
      obtain ⟨checkpoints, written⟩ := sweep_rows now db
      apply exact_congr registry db _ wanted _ _ _ (exact wanted)
      · rcases sweep_find now db wanted with same | ⟨event, found, _, freed⟩
        · rw [step, same]
        · rw [step, freed, found]
          rfl
      · rw [step, Database.checkpointNames, checkpoints, ← Database.checkpointNames]
      · rw [step, Database.writesOf, written, ← Database.writesOf]
  | writeEvent eventId eventType tenantId now =>
      intro wanted
      obtain ⟨checkpoints, written⟩ := write_event_rows eventId eventType tenantId now db
      have names : (writeEvent eventId eventType tenantId now db).checkpointNames wanted = db.checkpointNames wanted := by
        rw [Database.checkpointNames, checkpoints, ← Database.checkpointNames]
      have writes : (writeEvent eventId eventType tenantId now db).writesOf wanted = db.writesOf wanted := by
        rw [Database.writesOf, written, ← Database.writesOf]
      rcases write_event_find eventId eventType tenantId now db wanted with same | ⟨_, missing, added⟩
      · exact exact_congr registry db _ wanted (by rw [step, same]) names writes (exact wanted)
      · have before := exact wanted
        simp only [Exact, missing] at before
        simp only [step, Exact, added, names, writes, before.1, before.2]
        exact ⟨[], by simp, rfl, by simp, rfl⟩

theorem checkpointed_writes_exact (registry : Registry Write) (tasks reached : List Task)
    (unwritten : Along (step registry) (RaisesUnwritten registry) (emptyDatabase Write) tasks) (stage : reached <+: tasks) :
    ∀ eventId, Exact registry (databaseAfter registry reached) eventId := by
  apply along_invariant_throughout (step registry) (fun db => ∀ eventId, Exact registry db eventId) (RaisesUnwritten registry)
    (step_exact registry) (emptyDatabase Write) tasks reached _ unwritten stage
  intro eventId
  exact ⟨rfl, rfl⟩

end

section

variable {Write Key : Type} [DecidableEq Key] (key : Write → Option Key)

theorem landed_append (statements : List Write) (last : Write) : landed key (statements ++ [last]) =
    if key last ≠ none ∧ key last ∈ (landed key statements).map key then landed key statements
    else landed key statements ++ [last] := by
  rw [landed, List.foldl_append]
  rfl

theorem unkeyed_lands_each_time [DecidableEq Write] (statements : List Write) (write : Write) (unkeyed : key write = none) :
    (landed key statements).count write = statements.count write := by
  induction statements using List.reverseRecOn with
  | nil => rfl
  | append_singleton earlier last ih =>
    rw [landed_append, List.count_append]
    split
    · rename_i replays
      have other : last ≠ write := by
        intro same
        exact replays.1 (by rw [same, unkeyed])
      rw [ih, List.count_singleton, if_neg (by simpa using other), Nat.add_zero]
    · rw [List.count_append, ih]

theorem keyed_lands_once (statements : List Write) (name : Key) :
    ((landed key statements).map key).count (some name) ≤ 1 := by
  induction statements using List.reverseRecOn with
  | nil => exact Nat.zero_le 1
  | append_singleton earlier last ih =>
    rw [landed_append]
    split
    · exact ih
    · rename_i lands
      rw [List.map_append, List.count_append, List.map_singleton, List.count_singleton]
      split
      · rename_i same
        have named : key last = some name := by simpa using same
        have absent : some name ∉ (landed key earlier).map key := by
          intro present
          exact lands (by rw [named]; exact ⟨nofun, present⟩)
        rw [List.count_eq_zero.mpr absent]
      · exact ih

end

inductive BillingWrite where
  | usageDeduction (usageEventId : Uuid) (amountMicros : Int)
  | accumulateUsage (billedCostMicros : Int) (recordedEvents : Nat)
deriving DecidableEq, Repr

-- usage_deduction:ID on the ledger; the period's totals carry no key.
def BillingWrite.key : BillingWrite → Option Uuid
  | .usageDeduction usageEventId _ => some usageEventId
  | .accumulateUsage _ _ => none

def billingHandler : HandlerEntry BillingWrite where
  name := "billing.wallet_deduction"
  requiresProduct := some "billing"
  writes _ := [.usageDeduction ⟨"ev-1"⟩ (-300), .accumulateUsage 300 1]

def billingRegistry : Registry BillingWrite := fun eventType => if eventType = "usage.recorded" then [billingHandler] else []

def sampleAttempt (now : Nat) (ending : Ending) : Attempt where
  now := now
  ending _ := ending

def recordedTask : Task := .writeEvent ⟨"ob-1"⟩ "usage.recorded" ⟨"tenant-1"⟩ 0

def dispatchTask (now : Nat) (ending : Ending) : Task := .processSingleEvent ⟨"ob-1"⟩ (sampleAttempt now ending)

theorem raised_handler_leaves_writes :
    landed BillingWrite.key ((databaseAfter billingRegistry [recordedTask, dispatchTask 1 (.raises 2 "ValueError"),
      .sweepOutbox 60, dispatchTask 61 .returns]).writesOf ⟨"ob-1"⟩) =
        [.usageDeduction ⟨"ev-1"⟩ (-300), .accumulateUsage 300 1, .accumulateUsage 300 1] ∧
    ¬ ∀ (tasks : List Task) (eventId : Uuid), Exact billingRegistry (databaseAfter billingRegistry tasks) eventId := by
  refine ⟨by decide, ?_⟩
  intro always
  obtain ⟨handlers, _, named, _, whole⟩ := always [recordedTask, dispatchTask 1 (.raises 1 "DoesNotExist")] ⟨"ob-1"⟩
  have noNames : (databaseAfter billingRegistry [recordedTask, dispatchTask 1 (.raises 1 "DoesNotExist")]).checkpointNames
      ⟨"ob-1"⟩ = [] := by decide
  have kept : (databaseAfter billingRegistry [recordedTask, dispatchTask 1 (.raises 1 "DoesNotExist")]).writesOf
      ⟨"ob-1"⟩ ≠ [] := by decide
  rw [noNames, List.map_eq_nil_iff] at named
  rw [named] at whole
  exact kept whole

theorem billing_run_exact :
    (databaseAfter billingRegistry [recordedTask, dispatchTask 1 (.raises 0 "DoesNotExist"), .sweepOutbox 60,
      dispatchTask 61 .returns]).checkpointNames ⟨"ob-1"⟩ = ["billing.wallet_deduction"] ∧
    ∀ eventId, Exact billingRegistry (databaseAfter billingRegistry [recordedTask, dispatchTask 1 (.raises 0 "DoesNotExist"),
      .sweepOutbox 60, dispatchTask 61 .returns]) eventId := by
  refine ⟨by decide, checkpointed_writes_exact billingRegistry _ _ ?_ (List.prefix_refl _)⟩
  refine ⟨trivial, ?_, trivial, ?_, trivial⟩
  · intro event _ entry _ after error ending
    cases ending
    rfl
  · intro event _ entry _ after error ending
    cases ending

end Ubb.Outbox
