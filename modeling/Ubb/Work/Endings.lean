import Mathlib.Tactic
import Ubb.Work.Lifecycle

set_option autoImplicit false

namespace Ubb.Work

open Ubb.Library

def endedAt (state : State) (id : TaskId) : Bool := (state.taskWith id).any (fun task => task.ending.status.terminal)

def wins (id : TaskId) (state : State) (event : Event) : Bool := !endedAt state id && endedAt (step state event) id

def announcesStopOf (id : TaskId) : Event → Bool
  | .stop request _ => decide (request.task = id)
  | _ => false

def winsAnnounced (id : TaskId) (state : State) (event : Event) : Bool := wins id state event && announcesStopOf id event

-- The patrol's pass over one unit whose stamped announcement is a dead letter.
def findsDeadLetter (id : TaskId) (state : State) : Event → Bool
  | .remint target => decide (target = id) && (state.taskWith id).any (fun task =>
      task.announceOutboxId.any (unannounced state) &&
        (decide (task.ending.status = .killed) || decide (task.ending.status = .expired)))
  | _ => false

def originals (state : State) (id : TaskId) : Nat :=
  state.announcements.countP (fun announcement => decide (announcement.task = id) && !announcement.reAnnouncement)

def remints (state : State) (id : TaskId) : Nat :=
  state.announcements.countP (fun announcement => decide (announcement.task = id) && announcement.reAnnouncement)

theorem ended_at_found (state : State) (id : TaskId) (task : Task) (found : state.taskWith id = some task) :
    endedAt state id = task.ending.status.terminal := by
  simp [endedAt, found]

theorem ended_at_missing (state : State) (id : TaskId) (missing : state.taskWith id = none) :
    endedAt state id = false := by
  simp [endedAt, missing]

theorem step_row (state : State) (event : Event) (sound : Sound state) (id : TaskId) (task : Task)
    (found : state.taskWith id = some task) :
    ∃ row, (step state event).taskWith id = some row ∧ SameUnit task row ∧
      (row.ending = task.ending ∨ (task.ending.status = .active ∧ row.ending.status.terminal = true ∧
        (row.ending.status = .completed → declaresDelivered event id))) := by
  cases move_effect state (step state event) event sound.ids (step_moves state event) with
  | starts request parent asked fresh containing named admitted made =>
      refine ⟨task, ?_, same_unit_refl task, .inl rfl⟩
      rw [made, task_with_append state (newTask request parent) id fresh, if_neg, found]
      intro same
      have newId : (newTask request parent).id = request.id := rfl
      rw [same, newId, fresh] at found
      cases found
  | keeps kept =>
      obtain ⟨row, rowFound, same, ending⟩ := kept.rows id task found
      exact ⟨row, rowFound, same, .inl ending⟩
  | ends unit ended record ends withdraws delivered rows =>
      obtain ⟨row, rowFound, same, moved⟩ := rows_end_row state _ unit ended record ends withdraws rows id task found
      refine ⟨row, rowFound, same, ?_⟩
      rcases moved with ⟨_, _, ending⟩ | ⟨_, active, terminal, completes⟩
      · exact .inl ending
      · refine .inr ⟨active, terminal, ?_⟩
        intro completed
        obtain ⟨isEnded, endedCompleted⟩ := completes completed
        rw [isEnded, (ends_row state unit ended ends).1]
        exact delivered endedCompleted

theorem completed_step (state : State) (event : Event) (sound : Sound state) (id : TaskId) (row : Task)
    (running : endedAt state id = false) (found : (step state event).taskWith id = some row)
    (completed : row.ending.status = .completed) : declaresDelivered event id := by
  cases before : state.taskWith id with
  | some task =>
      obtain ⟨after, afterFound, _, moved⟩ := step_row state event sound id task before
      rw [found, Option.some.injEq] at afterFound
      subst afterFound
      rcases moved with ending | ⟨_, _, delivers⟩
      · rw [ended_at_found state id task before, ← ending, completed] at running
        cases running
      · exact delivers completed
  | none =>
      -- A unit that was not there before was just started, and starts active.
      cases move_effect state (step state event) event sound.ids (step_moves state event) with
      | starts request parent asked fresh containing named admitted made =>
          rw [made, task_with_append state (newTask request parent) id fresh, before] at found
          by_cases here : id = (newTask request parent).id
          · rw [if_pos here, Option.some.injEq] at found
            subst found
            cases completed
          · rw [if_neg here] at found
            cases found
      | keeps kept =>
          obtain ⟨task, taskFound⟩ := found_before state _ kept.ids id row found
          rw [before] at taskFound
          cases taskFound
      | ends task ended record ends withdraws delivered rows =>
          obtain ⟨task, taskFound⟩ := found_before state _ rows.ids id row found
          rw [before] at taskFound
          cases taskFound

theorem terminal_run (state : State) (later : List Event) (sound : Sound state) (id : TaskId) (task : Task)
    (found : state.taskWith id = some task) (terminal : task.ending.status.terminal = true) :
    ∃ row, (run step state later).taskWith id = some row ∧ SameUnit task row ∧ row.ending = task.ending := by
  induction later generalizing state task with
  | nil => exact ⟨task, found, same_unit_refl task, rfl⟩
  | cons event rest ih =>
      obtain ⟨row, rowFound, same, moved⟩ := step_row state event sound id task found
      have ending : row.ending = task.ending := by
        rcases moved with kept | ⟨active, _⟩
        · exact kept
        · rw [active] at terminal
          cases terminal
      obtain ⟨last, lastFound, lastSame, lastEnding⟩ :=
        ih (step state event) (sound_step state event sound) row rowFound (ending ▸ terminal)
      exact ⟨last, lastFound, same_unit_trans task row last same lastSame, lastEnding.trans ending⟩

theorem ended_at_step (state : State) (event : Event) (sound : Sound state) (id : TaskId)
    (ended : endedAt state id = true) : endedAt (step state event) id = true := by
  cases found : state.taskWith id with
  | none =>
      rw [ended_at_missing state id found] at ended
      cases ended
  | some task =>
      rw [ended_at_found state id task found] at ended
      obtain ⟨row, rowFound, _, ending⟩ := terminal_run state [event] sound id task found ended
      rw [run_cons, run_nil] at rowFound
      rw [ended_at_found _ id row rowFound, ending, ended]

theorem ended_at_counts_wins (state : State) (event : Event) (sound : Sound state) (id : TaskId) :
    (endedAt (step state event) id).toNat = (endedAt state id).toNat + (wins id state event).toNat := by
  unfold wins
  cases before : endedAt state id with
  | false => simp
  | true => simp [ended_at_step state event sound id before]

theorem wins_ends (state : State) (event : Event) (task ended : Task) (record : CascadeRecord)
    (ends : Ends state task ended) (withdraws : record.Withdraws)
    (rows : RowsEnd state (step state event) ended record) (id : TaskId) :
    (wins id state event).toNat = (decide (id = ended.id)).toNat + (cascadesTo state ended id).toNat := by
  obtain ⟨endedId, endedParent, _, _, _⟩ := ends_row state task ended ends
  have selfFound : state.taskWith ended.id = some task := endedId ▸ ends.found
  cases found : state.taskWith id with
  | none =>
      have after : (step state event).taskWith id = none := by
        rw [task_with_none, rows.ids, ← task_with_none, found]
      have other : id ≠ ended.id := by
        intro same
        rw [same, selfFound] at found
        cases found
      simp [wins, endedAt, after, cascadesTo, found, other]
  | some before =>
      obtain ⟨row, rowFound, _, moved⟩ := rows_end_row state _ task ended record ends withdraws rows id before found
      rw [wins, ended_at_found state id before found, ended_at_found _ id row rowFound]
      rcases moved with ⟨other, notCascaded, ending⟩ | ⟨which, active, terminal, _⟩
      · simp [other, notCascaded, ending]
      · rw [terminal, active]
        by_cases here : id = ended.id
        · have notChild : cascadesTo state ended id = false := by
            simp only [cascadesTo, here, selfFound, Option.any_some, activeChild, ← endedParent]
            cases ended.parent <;> simp
          simp [here ▸ notChild, here, TaskStatus.terminal]
        · have cascaded := which.resolve_left here
          simp [here, cascaded, TaskStatus.terminal]

theorem not_won_kept (state next : State) (kept : RowsKept state next) (id : TaskId) :
    (!endedAt state id && endedAt next id) = false := by
  cases found : state.taskWith id with
  | none =>
      have after : next.taskWith id = none := by
        rw [task_with_none, kept.ids, ← task_with_none, found]
      simp [endedAt, after]
  | some task =>
      obtain ⟨row, rowFound, _, ending⟩ := kept.rows id task found
      simp [ended_at_found state id task found, ended_at_found _ id row rowFound, ending]

theorem tellings_step (state : State) (event : Event) (sound : Sound state) (id : TaskId) :
    tellings (step state event) id = tellings state id + (wins id state event).toNat := by
  cases move_effect state (step state event) event sound.ids (step_moves state event) with
  | starts request parent asked fresh containing named admitted made =>
      have noWin : wins id state event = false := by
        rw [wins, made, endedAt, endedAt, task_with_append state (newTask request parent) id fresh]
        by_cases here : id = (newTask request parent).id
        · simp [here, newTask, notEnded, TaskStatus.terminal]
        · simp [here]
      simp [made, tellings, noWin]
  | keeps kept =>
      have noWin : wins id state event = false := not_won_kept state _ kept id
      simp [tellings, kept.told, noWin]
  | ends task ended record ends withdraws delivered rows =>
      rw [rows.told id, wins_ends state event task ended record ends withdraws rows id, Nat.add_assoc]

theorem relay_keeps_originals (state : State) (outboxId : Nat) (status : OutboxStatus) (id : TaskId) :
    originals (relayMoves state outboxId status) id = originals state id ∧
      remints (relayMoves state outboxId status) id = remints state id := by
  have sameViews := update_row_map Announcement.id outboxId (fun row : Announcement => { row with status := status })
    state.announcements (fun announcement => (announcement.task, announcement.reAnnouncement)) (fun _ => rfl)
  have counted : ∀ holds : TaskId × Bool → Bool,
      (relayMoves state outboxId status).announcements.countP
          (fun announcement => holds (announcement.task, announcement.reAnnouncement)) =
        state.announcements.countP (fun announcement => holds (announcement.task, announcement.reAnnouncement)) := by
    intro holds
    have views := congrArg (List.countP holds) sameViews
    rwa [List.countP_map, List.countP_map] at views
  exact ⟨counted (fun view => decide (view.1 = id) && !view.2), counted (fun view => decide (view.1 = id) && view.2)⟩

theorem move_originals (state next : State) (event : Event) (sound : Sound state) (moved : Move state event next)
    (id : TaskId) :
    originals next id =
      originals state id + ((!endedAt state id && endedAt next id) && announcesStopOf id event).toNat := by
  have silentMove : next.announcements = state.announcements → announcesStopOf id event = false →
      originals next id =
        originals state id + ((!endedAt state id && endedAt next id) && announcesStopOf id event).toNat := by
    intro announcements silent
    simp [originals, announcements, silent]
  have keptMove : originals next id = originals state id → RowsKept state next → originals next id =
      originals state id + ((!endedAt state id && endedAt next id) && announcesStopOf id event).toNat := by
    intro same kept
    simp [same, not_won_kept state next kept id]
  cases moved with
  | same _ => exact keptMove rfl (rows_kept_of_tables state _ rfl rfl)
  | started request parent fresh containing named admitted => exact silentMove rfl rfl
  | recorded report free outside => exact silentMove rfl rfl
  | recordedInto report task free named found =>
      refine silentMove ?_ rfl
      unfold writeBoth
      cases task.parent <;> rfl
  | completed _ side posting amount found owes outside => exact keptMove rfl (rows_kept_of_tables state _ rfl rfl)
  | completedInto _ side posting amount task found owes named unit =>
      refine keptMove ?_ (rows_kept_write_both state _ task _ (rows_kept_of_tables state _ rfl rfl))
      unfold writeBoth
      cases task.parent <;> rfl
  | ended _ task ended stopReason record now ends withdraws delivered silent =>
      refine silentMove (by simp) ?_
      cases event with
      | stop request now => exact absurd rfl (silent request now)
      | _ => rfl
  | charged request task ended price now ends delivered completed pinned whole chargeFree postingFree =>
      refine silentMove ?_ rfl
      exact enter_terminal_announcements state ended none withdrawnByAClose now
  | stopped request now task ended record announced named ends withdraws incomplete =>
      have rows := stopped_on_rows state request now task ended record announced ends sound.ids
      have endedId := (ends_row state task ended ends).1
      have written : originals (stoppedOn (enterTerminal state ended (some request.reason) record now) ended announced
          request) id = originals state id + (decide (ended.id = id)).toNat := by
        simp [originals, stoppedOn, announce, State.writeTask, Bool.toNat]
      rw [written]
      by_cases here : task.id = id
      · obtain ⟨row, rowFound, _, status⟩ := rows.self task (endedId ▸ ends.found)
        rw [endedId, here] at rowFound
        have before : endedAt state id = false := by
          rw [ended_at_found state id task (here ▸ ends.found), ends.active]
          rfl
        have after := ended_at_found _ id row rowFound
        rw [status, ends.terminal] at after
        simp [announcesStopOf, named, here, endedId, before, after]
      · simp [announcesStopOf, named, here, endedId]
  | reminted task stamp announced found stamped dead terminal =>
      refine keptMove ?_
        (rows_kept_write state _ task.id _ (rows_kept_of_tables state _ rfl rfl) (fun row => ⟨rfl, rfl⟩))
      simp [originals, remintedOn, announce, State.writeTask]
  | relayed outboxId status =>
      exact keptMove (relay_keeps_originals state outboxId status id).1 (rows_kept_of_tables state _ rfl rfl)
  | compensated charge original correction found unit corrects key => exact silentMove rfl rfl

theorem originals_step (state : State) (event : Event) (sound : Sound state) (id : TaskId) :
    originals (step state event) id = originals state id + (winsAnnounced id state event).toNat :=
  move_originals state (step state event) event sound (step_moves state event) id

theorem stop_event_exists (status : TaskStatus) (isContained : Bool) (stopped : status = .killed ∨ status = .expired) :
    ∃ event, terminalStopEvent status isContained = .ok event := by
  rcases stopped with rfl | rfl <;> cases isContained <;> exact ⟨_, rfl⟩

theorem remint_step (state : State) (target id : TaskId) :
    remints (step state (.remint target)) id = remints state id + (findsDeadLetter id state (.remint target)).toNat := by
  cases found : state.taskWith target with
  | none =>
      have refused : step state (.remint target) = state := by
        simp [step, attempt, remintKill, found, throw, throwThe, MonadExceptOf.throw]
      rw [refused]
      by_cases here : target = id
      · simp [findsDeadLetter, ← here, found]
      · simp [findsDeadLetter, here]
  | some task =>
      have taskId := task_with_id state target task found
      by_cases dead : task.announceOutboxId.any (unannounced state) = true ∧
          (task.ending.status = .killed ∨ task.ending.status = .expired)
      · obtain ⟨stamp, stamped, failed⟩ : ∃ stamp, task.announceOutboxId = some stamp ∧ unannounced state stamp = true := by
          cases stamped : task.announceOutboxId with
          | none => simp [stamped] at dead
          | some stamp => exact ⟨stamp, rfl, by simpa [stamped] using dead.1⟩
        obtain ⟨event, announced⟩ := stop_event_exists task.ending.status task.parent.isSome dead.2
        have reminted : step state (.remint target) = remintedOn state task event := by
          simp [step, attempt, remintKill, found, stamped, dead.2, failed, announced, remintedOn, taskId]
        rw [reminted]
        by_cases here : target = id
        · have finds : findsDeadLetter id state (.remint target) = true := by
            simp [findsDeadLetter, ← here, found, stamped, failed, dead.2]
          rw [finds]
          simp [remints, remintedOn, announce, State.writeTask, taskId, here]
        · simp [findsDeadLetter, here, remints, remintedOn, announce, State.writeTask, taskId]
      · have same : step state (.remint target) = state := by
          cases stamped : task.announceOutboxId with
          | none => simp [step, attempt, remintKill, found, stamped, pure, Except.pure]
          | some stamp =>
              have alive : ¬((task.ending.status = .killed ∨ task.ending.status = .expired) ∧
                  unannounced state stamp = true) := by
                intro eligible
                exact dead ⟨by simp [stamped, eligible.2], eligible.1⟩
              simp only [step, attempt, remintKill, found, stamped, if_neg alive, pure, Except.pure]
        rw [same]
        by_cases here : target = id
        · have misses : findsDeadLetter id state (.remint target) = false := by
            rw [← Bool.not_eq_true]
            intro finds
            simp only [findsDeadLetter, ← here, found, Option.any_some, decide_true, Bool.true_and, Bool.and_eq_true,
              Bool.or_eq_true, decide_eq_true_eq] at finds
            exact dead finds
          simp [misses]
        · simp [findsDeadLetter, here]

theorem move_remints (state next : State) (event : Event) (moved : Move state event next) (id : TaskId)
    (other : ∀ target, event ≠ .remint target) : remints next id = remints state id := by
  cases moved with
  | same _ => rfl
  | started request parent fresh containing named admitted => rfl
  | recorded report free outside => rfl
  | recordedInto report task free named found =>
      unfold writeBoth
      cases task.parent <;> rfl
  | completed _ side posting amount found owes outside => rfl
  | completedInto _ side posting amount task found owes named unit =>
      unfold writeBoth
      cases task.parent <;> rfl
  | ended _ task ended stopReason record now ends withdraws delivered silent => simp [remints]
  | charged request task ended price now ends delivered completed pinned whole chargeFree postingFree =>
      simp [remints, chargedOn, posted, State.writeTask]
  | stopped request now task ended record announced named ends withdraws incomplete =>
      simp [remints, stoppedOn, announce, State.writeTask]
  | reminted task stamp announced found stamped dead terminal => exact absurd rfl (other task.id)
  | relayed outboxId status => exact (relay_keeps_originals state outboxId status id).2
  | compensated charge original correction found unit corrects key => rfl

theorem remints_step (state : State) (event : Event) (id : TaskId) :
    remints (step state event) id = remints state id + (findsDeadLetter id state event).toNat := by
  cases event with
  | remint target => exact remint_step state target id
  | _ =>
      rw [move_remints state _ _ (step_moves state _) id (by intro target same; cases same)]
      rfl

theorem completed_by_delivery (start : State) (events : List Event) (sound : Sound start) (id : TaskId) (task : Task)
    (fresh : endedAt start id = false) (found : (run step start events).taskWith id = some task)
    (completed : task.ending.status = .completed) :
    ∃ earlier event rest, events = earlier ++ event :: rest ∧ declaresDelivered event id ∧
      wins id (run step start earlier) event = true := by
  induction events generalizing start with
  | nil =>
      rw [run_nil] at found
      rw [ended_at_found start id task found, completed] at fresh
      cases fresh
  | cons event rest ih =>
      rw [run_cons] at found
      by_cases after : endedAt (step start event) id = true
      · refine ⟨[], event, rest, rfl, ?_, by simp [wins, fresh, after]⟩
        cases middle : (step start event).taskWith id with
        | none =>
            rw [ended_at_missing _ id middle] at after
            cases after
        | some row =>
            rw [ended_at_found _ id row middle] at after
            obtain ⟨last, lastFound, _, ending⟩ :=
              terminal_run (step start event) rest (sound_step start event sound) id row middle after
            rw [found, Option.some.injEq] at lastFound
            subst lastFound
            rw [ending] at completed
            exact completed_step start event sound id row fresh middle completed
      · obtain ⟨earlier, winner, later, split, delivered, won⟩ :=
          ih (step start event) (sound_step start event sound) (Bool.not_eq_true _ ▸ after) found
        exact ⟨event :: earlier, winner, later, by rw [split, List.cons_append], delivered, by rw [run_cons]; exact won⟩

-- A start that names an ended unit as its parent is refused; the only answer it
-- can get is the replay of a unit its key claimed earlier, which writes nothing.
theorem start_under_ended (state next : State) (request : StartRequest) (id : TaskId) (task : Task)
    (found : state.taskWith id = some task) (terminal : task.ending.status.terminal = true)
    (named : request.parentTaskId = some id) (accepted : startTask state request = .ok next) : next = state := by
  unfold startTask at accepted
  cases claimed : claimedBy state request.tenant request.customer request.idempotencyKey with
  | some unit =>
      simp only [claimed, pure_eq_ok] at accepted
      exact accepted.symm
  | none =>
      simp only [claimed, named, parentFor, found, bind_eq_ok, refuse_if_eq_ok, not_not] at accepted
      obtain ⟨_, ⟨_, _, _, _, _, active, _⟩, _⟩ := accepted
      rw [active] at terminal
      cases terminal

section

variable (events : List Event) (id : TaskId)

theorem wins_counted :
    (endedAt (run step noWork events) id).toNat = countAlong step (wins id) noWork events := by
  have counter := count_along_eq_counter step (wins id) Sound (fun _ _ => True)
    (fun state event sound _ => sound_step state event sound) (fun state => (endedAt state id).toNat)
    (fun state event sound _ => ended_at_counts_wins state event sound id) noWork events no_work_sound
    (along_of_forall step _ (fun _ _ => trivial) noWork events)
  simpa [ended_at_missing noWork id rfl] using counter

theorem tellings_counted : tellings (run step noWork events) id = countAlong step (wins id) noWork events := by
  have counter := count_along_eq_counter step (wins id) Sound (fun _ _ => True)
    (fun state event sound _ => sound_step state event sound) (fun state => tellings state id)
    (fun state event sound _ => tellings_step state event sound id) noWork events no_work_sound
    (along_of_forall step _ (fun _ _ => trivial) noWork events)
  simpa [tellings, noWork] using counter

theorem originals_counted :
    originals (run step noWork events) id = countAlong step (winsAnnounced id) noWork events := by
  have counter := count_along_eq_counter step (winsAnnounced id) Sound (fun _ _ => True)
    (fun state event sound _ => sound_step state event sound) (fun state => originals state id)
    (fun state event sound _ => originals_step state event sound id) noWork events no_work_sound
    (along_of_forall step _ (fun _ _ => trivial) noWork events)
  simpa [originals, noWork] using counter

theorem remints_counted :
    remints (run step noWork events) id = countAlong step (findsDeadLetter id) noWork events := by
  have counter := count_along_eq_counter step (findsDeadLetter id) (fun _ => True) (fun _ _ => True)
    (fun _ _ _ _ => trivial) (fun state => remints state id) (fun state event _ _ => remints_step state event id)
    noWork events trivial (along_of_forall step _ (fun _ _ => trivial) noWork events)
  simpa [remints, noWork] using counter

end

theorem work_ends_once_and_stays_ended (events : List Event) (id : TaskId) (task : Task)
    (found : (run step noWork events).taskWith id = some task) :
    (task.ending.status.terminal = true →
      (∀ later, ∃ row, (run step noWork (events ++ later)).taskWith id = some row ∧ row.ending = task.ending) ∧
      (∀ childId child, (run step noWork events).taskWith childId = some child → child.parent = some id →
        child.ending.status.terminal = true) ∧
      (∀ later request next, request.parentTaskId = some id →
        startTask (run step noWork (events ++ later)) request = .ok next →
          next = run step noWork (events ++ later))) ∧
    countAlong step (wins id) noWork events = task.ending.status.terminal.toNat ∧
    tellings (run step noWork events) id = countAlong step (wins id) noWork events ∧
    originals (run step noWork events) id = countAlong step (winsAnnounced id) noWork events ∧
    originals (run step noWork events) id ≤ 1 ∧
    remints (run step noWork events) id = countAlong step (findsDeadLetter id) noWork events ∧
    (task.ending.status = .completed → ∃ earlier event rest, events = earlier ++ event :: rest ∧
      declaresDelivered event id ∧ wins id (run step noWork earlier) event = true) := by
  have sound := sound_run events
  have wonOnce : countAlong step (wins id) noWork events = task.ending.status.terminal.toNat := by
    rw [← wins_counted events id, ended_at_found _ id task found]
  refine ⟨?_, wonOnce, tellings_counted events id, originals_counted events id, ?_, remints_counted events id, ?_⟩
  · intro terminal
    have stays : ∀ later, ∃ row, (run step noWork (events ++ later)).taskWith id = some row ∧ row.ending = task.ending := by
      intro later
      obtain ⟨row, rowFound, _, ending⟩ := terminal_run _ later sound id task found terminal
      exact ⟨row, by rw [run_append]; exact rowFound, ending⟩
    refine ⟨stays, ?_, ?_⟩
    · intro childId child childFound inside
      obtain ⟨parent, parentFound, _, _, _, closes⟩ := sound.contained childId child id childFound inside
      rw [found, Option.some.injEq] at parentFound
      exact closes (parentFound ▸ terminal)
    · intro later request next named accepted
      obtain ⟨row, rowFound, ending⟩ := stays later
      exact start_under_ended _ next request id row rowFound (ending ▸ terminal) named accepted
  · have fewer := count_along_mono step (winsAnnounced id) (wins id)
      (fun state event announced => by simp only [winsAnnounced, Bool.and_eq_true] at announced; exact announced.1)
      noWork events
    rw [originals_counted events id]
    rw [wonOnce] at fewer
    exact fewer.trans (Bool.toNat_le _)
  · intro completed
    exact completed_by_delivery noWork events no_work_sound id task (ended_at_missing noWork id rfl) found completed

def oneUnit : StartRequest :=
  { tenant := ⟨"t"⟩, customer := ⟨"c"⟩, id := ⟨"a", rfl⟩, idempotencyKey := none, parentTaskId := none
    pricingMode := .eventPriced, agreedPriceMicros := none, taskCogsCeilingMicros := none }

def deliverOneUnit : CloseRequest :=
  { tenant := ⟨"t"⟩, task := ⟨"a", rfl⟩, outcome := "delivered", outcomeReason := none, reasonDetail := none
    now := 1, postingId := ⟨"p"⟩ }

theorem delivered_unit_stays_delivered :
    (∃ row, (run step noWork ([.start oneUnit, .close deliverOneUnit] ++ [.abandon oneUnit.id 2])).taskWith oneUnit.id =
      some row ∧ row.ending = { notEnded with status := .completed, completedAt := some 1 }) ∧
    countAlong step (wins oneUnit.id) noWork [.start oneUnit, .close deliverOneUnit] = 1 := by
  have facts := work_ends_once_and_stays_ended [.start oneUnit, .close deliverOneUnit] oneUnit.id
    { newTask oneUnit none with ending := { notEnded with status := .completed, completedAt := some 1 } } (by decide)
  exact ⟨(facts.1 rfl).1 [.abandon oneUnit.id 2], facts.2.1⟩

-- The tenant who closes a unit knows how it ended: a declared close makes its
-- transition and announces nothing.
theorem declared_close_announces_nothing :
    ¬∀ (events : List Event) (id : TaskId) (task : Task), (run step noWork events).taskWith id = some task →
      task.ending.status.terminal = true →
        (run step noWork events).announcements.countP (fun announcement => decide (announcement.task = id)) = 1 := by
  intro announcedOnce
  have counted := announcedOnce [.start oneUnit, .close deliverOneUnit] oneUnit.id
    { newTask oneUnit none with ending := { notEnded with status := .completed, completedAt := some 1 } }
    (by decide) (by decide)
  revert counted
  decide

end Ubb.Work
