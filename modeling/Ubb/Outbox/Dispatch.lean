import Ubb.Outbox.Model

set_option autoImplicit false

namespace Ubb.Outbox

open Ubb.Library

section

variable {Write : Type}

def Database.afterCalls (db : Database Write) (eventId : Uuid) (ran : List (HandlerEntry Write)) (left : List Write) :
    Database Write :=
  { db with
    checkpoints := db.checkpoints ++ ran.map (fun entry => ⟨eventId, entry.name⟩)
    written := db.written ++ (ran.flatMap (fun entry => entry.writes eventId) ++ left).map (fun write => (eventId, write)) }

theorem after_calls_nil (db : Database Write) (eventId : Uuid) (left : List Write) :
    db.afterCalls eventId [] left = db.write eventId left := by
  simp [Database.afterCalls, Database.write]

theorem after_calls_cons (db : Database Write) (eventId : Uuid) (entry : HandlerEntry Write) (ran : List (HandlerEntry Write))
    (left : List Write) :
    ({ db.write eventId (entry.writes eventId) with
        checkpoints := db.checkpoints ++ [⟨eventId, entry.name⟩] } : Database Write).afterCalls eventId ran left =
      db.afterCalls eventId (entry :: ran) left := by
  simp [Database.afterCalls, Database.write]

inductive EndedBy (attempt : Attempt) (eventId : Uuid) (handlers : List (HandlerEntry Write)) : List Write → Dispatched → Prop
  | done : EndedBy attempt eventId handlers [] .done
  | raised (entry : HandlerEntry Write) (after : Nat) (error : String) (member : entry ∈ handlers)
      (ended : attempt.ending entry.name = .raises after error) :
      EndedBy attempt eventId handlers ((entry.writes eventId).take after) (.raised error)
  | broken (entry : HandlerEntry Write) (after : Nat) (left : List Write) (member : entry ∈ handlers)
      (ended : attempt.ending entry.name = .breaks after) : EndedBy attempt eventId handlers left .broken

theorem ended_by_tail (attempt : Attempt) (eventId : Uuid) (entry : HandlerEntry Write) (rest : List (HandlerEntry Write))
    (left : List Write) (outcome : Dispatched) (ended : EndedBy attempt eventId rest left outcome) :
    EndedBy attempt eventId (entry :: rest) left outcome := by
  cases ended with
  | done => exact .done
  | raised failing after error member ending => exact .raised failing after error (List.mem_cons_of_mem _ member) ending
  | broken failing after left member ending => exact .broken failing after left (List.mem_cons_of_mem _ member) ending

theorem has_checkpoint_append (db : Database Write) (eventId : Uuid) (name other : String) (writes : List Write) :
    ({ db.write eventId writes with checkpoints := db.checkpoints ++ [⟨eventId, name⟩] } : Database Write).hasCheckpoint
      eventId other = (db.hasCheckpoint eventId other || decide (name = other)) := by
  simp [Database.hasCheckpoint]

theorem dispatch_loop_cases (attempt : Attempt) (event : OutboxEvent) (handlers : List (HandlerEntry Write)) (db : Database Write) :
    ∃ ran left, (dispatchLoop attempt event handlers db).1 = db.afterCalls event.id ran left ∧
      (∀ entry ∈ ran, entry ∈ handlers ∧ db.hasCheckpoint event.id entry.name = false) ∧
      (ran.map HandlerEntry.name).Nodup ∧
      EndedBy attempt event.id handlers left (dispatchLoop attempt event handlers db).2 := by
  induction handlers generalizing db with
  | nil => exact ⟨[], [], by simp [dispatchLoop, after_calls_nil, Database.write], by simp, by simp, .done⟩
  | cons entry rest ih =>
      by_cases gate : entry.gated attempt event.tenantId = true
      · obtain ⟨ran, left, reached, fresh, distinct, ended⟩ := ih db
        simp only [dispatchLoop, if_pos gate]
        exact ⟨ran, left, reached, fun other member => ⟨List.mem_cons_of_mem _ (fresh other member).1, (fresh other member).2⟩,
          distinct, ended_by_tail _ _ _ _ _ _ ended⟩
      · by_cases seen : db.hasCheckpoint event.id entry.name = true
        · obtain ⟨ran, left, reached, fresh, distinct, ended⟩ := ih db
          simp only [dispatchLoop, if_neg gate, if_pos seen]
          exact ⟨ran, left, reached, fun other member => ⟨List.mem_cons_of_mem _ (fresh other member).1, (fresh other member).2⟩,
            distinct, ended_by_tail _ _ _ _ _ _ ended⟩
        · simp only [dispatchLoop, if_neg gate, if_neg seen]
          cases ending : attempt.ending entry.name with
          | raises after error =>
              exact ⟨[], (entry.writes event.id).take after, (after_calls_nil _ _ _).symm, by simp, by simp,
                .raised entry after error (by simp) ending⟩
          | breaks after =>
              exact ⟨[], (entry.writes event.id).take after, (after_calls_nil _ _ _).symm, by simp, by simp,
                .broken entry after _ (by simp) ending⟩
          | returns =>
              have unseen : db.hasCheckpoint event.id entry.name = false := by simpa using seen
              have created : (db.write event.id (entry.writes event.id)).createCheckpoint event.id entry.name =
                  some { db.write event.id (entry.writes event.id) with
                    checkpoints := db.checkpoints ++ [⟨event.id, entry.name⟩] } := by
                rw [Database.createCheckpoint, if_neg]
                · rfl
                · exact seen
              simp only [created]
              obtain ⟨ran, left, reached, fresh, distinct, ended⟩ := ih { db.write event.id (entry.writes event.id) with
                checkpoints := db.checkpoints ++ [⟨event.id, entry.name⟩] }
              refine ⟨entry :: ran, left, reached.trans (after_calls_cons db event.id entry ran left), ?_, ?_,
                ended_by_tail _ _ _ _ _ _ ended⟩
              · intro other member
                rcases List.mem_cons.mp member with rfl | later
                · exact ⟨by simp, unseen⟩
                · obtain ⟨inside, freshAfter⟩ := fresh other later
                  rw [has_checkpoint_append, Bool.or_eq_false_iff] at freshAfter
                  exact ⟨List.mem_cons_of_mem _ inside, freshAfter.1⟩
              · rw [List.map_cons, List.nodup_cons]
                refine ⟨?_, distinct⟩
                intro repeated
                obtain ⟨other, later, sameName⟩ := List.mem_map.mp repeated
                have freshAfter := (fresh other later).2
                rw [has_checkpoint_append, Bool.or_eq_false_iff, decide_eq_false_iff_not] at freshAfter
                exact freshAfter.2 sameName.symm

theorem find_id (db : Database Write) (eventId : Uuid) (event : OutboxEvent) (found : db.find eventId = some event) :
    event.id = eventId :=
  (find_key_some OutboxEvent.id eventId db.events event found).2

theorem find_save_event (db : Database Write) (event stored : OutboxEvent) (found : db.find event.id = some stored) :
    (db.saveEvent event).find event.id = some event := by
  have hit := find_update_row_hit OutboxEvent.id event.id (fun _ => event) db.events (fun _ _ => rfl)
  rw [Database.find] at found
  rw [Database.find, Database.saveEvent, hit, found]
  rfl

theorem find_save_other (db : Database Write) (event : OutboxEvent) (other : Uuid) (different : other ≠ event.id) :
    (db.saveEvent event).find other = db.find other :=
  find_update_row_other OutboxEvent.id event.id other (fun _ => event) db.events (fun _ _ => rfl) different

def claimed (now : Nat) (event : OutboxEvent) : OutboxEvent := { event with status := .processing, updatedAt := now }

def completed (now : Nat) (event : OutboxEvent) : OutboxEvent :=
  { event with status := .processed, processedAt := some now, updatedAt := now }

structure Committed (db after : Database Write) (event final : OutboxEvent) (ran : List (HandlerEntry Write))
    (left : List Write) : Prop where
  checkpoints : after.checkpoints = (db.afterCalls event.id ran left).checkpoints
  written : after.written = (db.afterCalls event.id ran left).written
  found : after.find event.id = some final
  others : ∀ other, other ≠ event.id → after.find other = db.find other

theorem save_committed (db : Database Write) (event during final : OutboxEvent) (ran : List (HandlerEntry Write))
    (left : List Write) (found : db.find event.id = some event) (duringId : during.id = event.id) (finalId : final.id = event.id) :
    Committed db (((db.saveEvent during).afterCalls event.id ran left).saveEvent final) event final ran left := by
  have foundDuring : ((db.saveEvent during).afterCalls event.id ran left).find event.id = some during := by
    have saved := find_save_event db during event (by rw [duringId]; exact found)
    rw [duringId] at saved
    exact saved
  refine ⟨rfl, rfl, ?_, ?_⟩
  · have saved := find_save_event ((db.saveEvent during).afterCalls event.id ran left) final during (by rw [finalId]; exact foundDuring)
    rw [finalId] at saved
    exact saved
  · intro other different
    rw [find_save_other _ final other (by rw [finalId]; exact different)]
    exact find_save_other db during other (by rw [duringId]; exact different)

def TakenUp (db : Database Write) (eventId : Uuid) (attempt : Attempt) (event : OutboxEvent) : Prop :=
  db.find eventId = some event ∧ attempt.locked = false ∧ event.status = .pending

theorem process_skips (registry : Registry Write) (eventId : Uuid) (attempt : Attempt) (db : Database Write)
    (skipped : ∀ event, ¬ TakenUp db eventId attempt event) : processSingleEvent registry eventId attempt db = db := by
  rw [processSingleEvent]
  cases found : db.find eventId with
  | none => rfl
  | some event =>
      by_cases locked : attempt.locked = true
      · simp only [if_pos locked]
      · by_cases pending : event.status = .pending
        · exact absurd ⟨found, by simpa using locked, pending⟩ (skipped event)
        · simp only [if_neg locked, if_pos pending]

theorem process_cases (registry : Registry Write) (eventId : Uuid) (attempt : Attempt) (db : Database Write) (event : OutboxEvent)
    (takenUp : TakenUp db eventId attempt event) :
    ∃ ran left outcome, (∀ entry ∈ ran, entry ∈ registry event.eventType ∧ db.hasCheckpoint event.id entry.name = false) ∧
      (ran.map HandlerEntry.name).Nodup ∧ EndedBy attempt event.id (registry event.eventType) left outcome ∧
      ((outcome = .done ∧ Committed db (processSingleEvent registry eventId attempt db) event
          (completed attempt.now event) ran left) ∨
        (∃ error, outcome = .raised error ∧ Committed db (processSingleEvent registry eventId attempt db) event
          (recordFailure attempt.now error (claimed attempt.now event)) ran left) ∨
        (outcome = .broken ∧ processSingleEvent registry eventId attempt db = db)) := by
  obtain ⟨found, unlocked, pending⟩ := takenUp
  have foundSelf : db.find event.id = some event := by rw [find_id db eventId event found, found]
  obtain ⟨ran, left, reached, fresh, distinct, ended⟩ :=
    dispatch_loop_cases attempt (claimed attempt.now event) (registry event.eventType) (db.saveEvent (claimed attempt.now event))
  refine ⟨ran, left, _, fresh, distinct, ended, ?_⟩
  have dispatched : dispatchToHandlers registry attempt (claimed attempt.now event) (db.saveEvent (claimed attempt.now event)) =
      ((db.saveEvent (claimed attempt.now event)).afterCalls event.id ran left,
        (dispatchLoop attempt (claimed attempt.now event) (registry event.eventType)
          (db.saveEvent (claimed attempt.now event))).2) := Prod.ext reached rfl
  simp only [claimed] at dispatched
  rw [processSingleEvent]
  simp only [found, unlocked, pending, ne_eq, not_true_eq_false, if_false, Bool.false_eq_true, dispatched]
  cases outcome : (dispatchLoop attempt (claimed attempt.now event) (registry event.eventType)
      (db.saveEvent (claimed attempt.now event))).2 with
  | done =>
      simp only [claimed] at outcome
      simp only [outcome]
      exact .inl ⟨trivial, save_committed db event (claimed attempt.now event) (completed attempt.now event) ran left foundSelf rfl rfl⟩
  | raised error =>
      simp only [claimed] at outcome
      simp only [outcome]
      refine .inr (.inl ⟨error, rfl, ?_⟩)
      apply save_committed db event (claimed attempt.now event) _ ran left foundSelf rfl
      simp only [recordFailure]
      split
      · rfl
      · rfl
  | broken =>
      simp only [claimed] at outcome
      simp only [outcome]
      exact .inr (.inr ⟨trivial, trivial⟩)

def reclaimed (now : Nat) (event : OutboxEvent) : OutboxEvent := { event with status := .pending, nextRetryAt := some now }

theorem reclaim_find (now : Nat) (db : Database Write) (eventId wanted : Uuid) :
    (reclaim now db eventId).find wanted = db.find wanted ∨
      ∃ event, db.find wanted = some event ∧ event.status = .processing ∧
        (reclaim now db eventId).find wanted = some (reclaimed now event) := by
  have keeps : ∀ row : OutboxEvent, row.id = eventId → (if row.status = .processing then reclaimed now row else row).id = eventId := by
    intro row hit
    split
    · exact hit
    · exact hit
  by_cases same : wanted = eventId
  · subst same
    have hit := find_update_row_hit OutboxEvent.id wanted (fun row => if row.status = .processing then reclaimed now row else row)
      db.events keeps
    have found : (reclaim now db wanted).find wanted = (db.find wanted).map (fun row =>
        if row.status = .processing then reclaimed now row else row) := hit
    cases stored : db.find wanted with
    | none => exact .inl (by rw [found, stored]; rfl)
    | some event =>
        by_cases stuck : event.status = .processing
        · exact .inr ⟨event, rfl, stuck, by rw [found, stored, Option.map_some, if_pos stuck]⟩
        · exact .inl (by rw [found, stored, Option.map_some, if_neg stuck])
  · exact .inl (find_update_row_other OutboxEvent.id eventId wanted _ db.events keeps same)

theorem sweep_find (now : Nat) (db : Database Write) (wanted : Uuid) :
    (sweepOutbox now db).1.find wanted = db.find wanted ∨
      ∃ event, db.find wanted = some event ∧ event.status = .processing ∧
        (sweepOutbox now db).1.find wanted = some (reclaimed now event) := by
  rw [sweepOutbox]
  generalize stuckEvents now db = stuck
  induction stuck generalizing db with
  | nil => exact .inl rfl
  | cons eventId rest ih =>
      rw [List.foldl_cons]
      rcases reclaim_find now db eventId wanted with same | ⟨event, found, processing, freed⟩
      · rw [← same]
        exact ih (reclaim now db eventId)
      · refine .inr ⟨event, found, processing, ?_⟩
        rcases ih (reclaim now db eventId) with same | ⟨later, foundLater, stillProcessing, _⟩
        · exact same.trans freed
        · rw [freed, Option.some.injEq] at foundLater
          rw [← foundLater] at stillProcessing
          cases stillProcessing

theorem sweep_rows (now : Nat) (db : Database Write) :
    (sweepOutbox now db).1.checkpoints = db.checkpoints ∧ (sweepOutbox now db).1.written = db.written := by
  rw [sweepOutbox]
  generalize stuckEvents now db = stuck
  induction stuck generalizing db with
  | nil => exact ⟨rfl, rfl⟩
  | cons eventId rest ih => exact ih (reclaim now db eventId)

theorem write_event_find (eventId : Uuid) (eventType : String) (tenantId : Uuid) (now : Nat) (db : Database Write) (wanted : Uuid) :
    (writeEvent eventId eventType tenantId now db).find wanted = db.find wanted ∨
      (wanted = eventId ∧ db.find wanted = none ∧ (writeEvent eventId eventType tenantId now db).find wanted =
        some { id := eventId, eventType := eventType, tenantId := tenantId, updatedAt := now }) := by
  rw [writeEvent]
  cases stored : db.find eventId with
  | some event => exact .inl rfl
  | none =>
      by_cases same : wanted = eventId
      · subst same
        refine .inr ⟨rfl, stored, ?_⟩
        rw [Database.find] at stored ⊢
        simp [List.find?_append, stored]
      · refine .inl ?_
        rw [Database.find, Database.find, List.find?_append]
        simp [Ne.symm same]

theorem write_event_rows (eventId : Uuid) (eventType : String) (tenantId : Uuid) (now : Nat) (db : Database Write) :
    (writeEvent eventId eventType tenantId now db).checkpoints = db.checkpoints ∧
      (writeEvent eventId eventType tenantId now db).written = db.written := by
  rw [writeEvent]
  split
  · exact ⟨rfl, rfl⟩
  · exact ⟨rfl, rfl⟩

end

end Ubb.Outbox
