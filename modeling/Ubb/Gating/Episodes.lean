import Ubb.Gating.Signals

set_option autoImplicit false

namespace Ubb.Gating

open Ubb.Library

theorem drive_clear_step (state next : State) (call : ClearCall) (answer : Option Nat)
    (driven : driveClear state call = .ok (next, answer)) (owner : Uuid) (line : Line) :
    LineStep (state.view owner line) (next.view owner line) ∧ (Keyed state → Keyed next) := by
  unfold driveClear at driven
  by_cases stops : call.line ∉ stopLines
  · rw [if_pos stops] at driven
    cases driven
  rw [if_neg stops] at driven
  cases closes : closeLine state call.owner call.line call.clearReason call.now with
  | none =>
      simp only [closes, Except.ok.injEq, Prod.mk.injEq] at driven
      rw [← driven.1]
      exact ⟨.same, id⟩
  | some found =>
      obtain ⟨closed, row⟩ := found
      simp only [closes] at driven
      obtain ⟨balance, _, answered⟩ := (bind_eq_ok _ _ _).mp driven
      have answered := Except.ok.inj answered
      rw [Prod.mk.injEq] at answered
      rw [← answered.1]
      obtain ⟨old, held, stopped, written, cleared, numbered, opening, control⟩ :=
        close_line_wrote state closed row call.owner call.line call.clearReason call.now closes
      have named : closingOf (.customerStopCleared call.tenant.id call.owner row.episodeSeq balance row.reason
          row.controlFamily row.controlId) = some (call.owner, call.line, row.episodeSeq) := by
        rw [closingOf, (keyed_family row call.owner call.line written.keyed).2.1]
      obtain ⟨_, _, _, _, _, _, _, _, _, _, _, kept⟩ := emitted_wrote state closed row
        (.customerStopCleared call.tenant.id call.owner row.episodeSeq balance row.reason row.controlFamily
          row.controlId) call.owner call.line written
      exact ⟨closing_step state closed old row _ call.owner call.line held stopped written cleared numbered
        ⟨opening, control⟩ rfl named owner line, kept⟩

theorem drive_soft_crossed_step (state : State) (call : SoftCall) (bound : Int) (owner : Uuid) (line : Line) :
    LineStep (state.view owner line) ((driveSoftCrossed state call bound).1.view owner line) ∧
      (Keyed state → Keyed (driveSoftCrossed state call bound).1) := by
  unfold driveSoftCrossed
  cases opens : openLine state call.owner call.tenant .softFloor none call.now noOpeningFacts with
  | none => exact ⟨.same, id⟩
  | some found =>
      obtain ⟨opened, row⟩ := found
      obtain ⟨written, shut, stopped, numbered, _, _⟩ := open_line_wrote state opened row call.owner call.tenant
        .softFloor none call.now noOpeningFacts opens
      obtain ⟨_, _, _, _, _, _, _, _, _, _, _, kept⟩ := emitted_wrote state opened row
        (.walletPolicySoftFloorCrossed call.tenant.id call.owner call.balanceMicros bound row.episodeSeq)
        call.owner .softFloor written
      exact ⟨opening_step state opened row _ call.owner .softFloor written shut stopped numbered rfl rfl owner line,
        kept⟩

theorem drive_soft_cleared_step (state : State) (call : SoftCall) (reason : ClearReason) (bound : Option Int)
    (owner : Uuid) (line : Line) :
    LineStep (state.view owner line) ((driveSoftCleared state call reason bound).1.view owner line) ∧
      (Keyed state → Keyed (driveSoftCleared state call reason bound).1) := by
  unfold driveSoftCleared
  cases closes : closeLine state call.owner .softFloor reason call.now with
  | none => exact ⟨.same, id⟩
  | some found =>
      obtain ⟨closed, row⟩ := found
      obtain ⟨old, held, stopped, written, cleared, numbered, opening, control⟩ :=
        close_line_wrote state closed row call.owner .softFloor reason call.now closes
      obtain ⟨_, _, _, _, _, _, _, _, _, _, _, kept⟩ := emitted_wrote state closed row
        (.walletPolicySoftFloorCleared call.tenant.id call.owner reason call.balanceMicros bound row.episodeSeq)
        call.owner .softFloor written
      exact ⟨closing_step state closed old row _ call.owner .softFloor held stopped written cleared numbered
        ⟨opening, control⟩ rfl rfl owner line, kept⟩

theorem silently_closed_row (state : State) (tenant : Tenant) (reason : ClearReason) (now : Nat) (owner : Uuid)
    (line : Line) :
    (closeAllSilently state tenant reason now).lineRow owner line = (state.lineRow owner line).map (fun row =>
      if isOpenOf tenant.id row then row.closedSilently reason now else row) := by
  rw [State.lineRow, closeAllSilently, List.find?_map]
  have sameKey : ((fun row : StopSignalState => decide (row.key = lineKey owner line)) ∘ fun row =>
      if isOpenOf tenant.id row then row.closedSilently reason now else row) =
        fun row => decide (row.key = lineKey owner line) := by
    funext row
    rw [Function.comp_apply]
    split <;> rfl
  rw [sameKey]
  rfl

-- The bulk close writes a line once at the most, because a line has one row.
theorem silently_closed_history (state : State) (sound : Keyed state) (tenant : Tenant) (reason : ClearReason)
    (now : Nat) (owner : Uuid) (line : Line) :
    (closeAllSilently state tenant reason now).historyOf owner line = state.historyOf owner line ++
      (((state.lineRow owner line).toList.filter (isOpenOf tenant.id)).map
        (fun row => (row.closedSilently reason now).write true)) := by
  rw [State.historyOf, closeAllSilently, List.filter_append, List.filter_map, ← State.historyOf]
  congr 2
  rw [State.lineRow, ← filter_at_key StopSignalState.key (lineKey owner line) state.signals sound.unique,
    List.filter_filter, List.filter_filter]
  apply List.filter_congr
  intro row member
  have family := sound.families row member
  have named : row.key = lineKey owner line ↔ row.owner = owner ∧ row.reason = line := by
    rw [StopSignalState.key, lineKey, Prod.mk.injEq, Prod.mk.injEq, family]
    constructor
    · rintro ⟨owned, _, worded⟩
      exact ⟨owned, worded⟩
    · rintro ⟨owned, worded⟩
      exact ⟨owned, congrArg familyOfLine worded, worded⟩
  rw [decide_eq_decide.mpr named]
  exact Bool.and_comm _ _

theorem close_all_silently_step (state : State) (sound : Keyed state) (tenant : Tenant) (reason : ClearReason)
    (now : Nat) (owner : Uuid) (line : Line) :
    LineStep (state.view owner line) ((closeAllSilently state tenant reason now).view owner line) ∧
      Keyed (closeAllSilently state tenant reason now) := by
  constructor
  · have row := silently_closed_row state tenant reason now owner line
    have history := silently_closed_history state sound tenant reason now owner line
    cases found : state.lineRow owner line with
    | none =>
        rw [found] at row history
        have reached : (closeAllSilently state tenant reason now).view owner line = state.view owner line := by
          rw [State.view, row, history, State.view, found]
          simp [closeAllSilently]
        rw [reached]
        exact .same
    | some old =>
        rw [found] at row history
        by_cases held : isOpenOf tenant.id old = true
        · have stopped : old.state = .stopped := (of_decide_eq_true held).2
          have reached : (closeAllSilently state tenant reason now).view owner line =
              ⟨some (old.closedSilently reason now),
                (state.view owner line).history ++ [(old.closedSilently reason now).write true],
                (state.view owner line).openings, (state.view owner line).closings⟩ := by
            rw [State.view, row, history]
            simp [held, closeAllSilently, State.view]
          rw [reached]
          exact .closed old (old.closedSilently reason now) true found stopped rfl rfl ⟨rfl, rfl⟩
        · have reached : (closeAllSilently state tenant reason now).view owner line = state.view owner line := by
            rw [State.view, row, history, State.view, found]
            simp [held, closeAllSilently]
          rw [reached]
          exact .same
  · constructor
    · have keys : ((closeAllSilently state tenant reason now).signals.map StopSignalState.key) =
          state.signals.map StopSignalState.key := by
        rw [closeAllSilently, List.map_map]
        apply List.map_congr_left
        intro row _
        rw [Function.comp_apply]
        split <;> rfl
      rw [keys]
      exact sound.unique
    · intro row member
      obtain ⟨old, inside, same⟩ := List.mem_map.mp member
      have family := sound.families old inside
      rw [← same]
      split <;> exact family

theorem step_line (state : State) (sound : Keyed state) (op : Op) (owner : Uuid) (line : Line) :
    LineStep (state.view owner line) ((step state op).view owner line) ∧ Keyed (step state op) := by
  unfold step
  cases performed : perform state op with
  | error refusal => exact ⟨.same, sound⟩
  | ok outcome =>
      obtain ⟨next, answer⟩ := outcome
      cases op with
      | driveStop call =>
          have stepped := drive_stop_step state next call answer performed owner line
          exact ⟨stepped.1, stepped.2 sound⟩
      | driveClear call =>
          have stepped := drive_clear_step state next call answer performed owner line
          exact ⟨stepped.1, stepped.2 sound⟩
      | driveSoftCrossed call bound =>
          have stepped := drive_soft_crossed_step state call bound owner line
          rw [Except.ok.inj performed] at stepped
          exact ⟨stepped.1, stepped.2 sound⟩
      | driveSoftCleared call reason bound =>
          have stepped := drive_soft_cleared_step state call reason bound owner line
          rw [Except.ok.inj performed] at stepped
          exact ⟨stepped.1, stepped.2 sound⟩
      | closeAllSilently tenant reason now =>
          have stepped := close_all_silently_step state sound tenant reason now owner line
          obtain rfl : closeAllSilently state tenant reason now = next := congrArg Prod.fst (Except.ok.inj performed)
          exact stepped
      | elsewhere accounts =>
          obtain rfl : { state with accounts := accounts } = next := congrArg Prod.fst (Except.ok.inj performed)
          exact ⟨.same, sound.unique, sound.families⟩

def Sound (state : State) : Prop := Keyed state ∧ ∀ owner line, Told (state.view owner line)

theorem no_signals_sound (accounts : Accounts) : Sound (noSignals accounts) :=
  ⟨⟨List.nodup_nil, by simp [noSignals]⟩, nothing_told accounts⟩

theorem step_sound (state : State) (op : Op) (sound : Sound state) : Sound (step state op) := by
  constructor
  · exact (step_line state sound.1 op ⟨""⟩ .hardFloor).2
  · intro owner line
    exact line_step_told _ _ (step_line state sound.1 op owner line).1 (sound.2 owner line)

theorem run_sound (accounts : Accounts) (ops : List Op) : Sound (run step (noSignals accounts) ops) :=
  run_invariant step Sound (fun _ => True) (fun state op sound _ => step_sound state op sound)
    (noSignals accounts) ops (no_signals_sound accounts) (fun _ _ => trivial)

theorem line_step_history (view next : LineView) (moved : LineStep view next) (write : StateWrite)
    (member : write ∈ view.history) : write ∈ next.history := by
  cases moved with
  | same => exact member
  | opened row _ _ _ => exact List.mem_append_left _ member
  | closed old row silent _ _ _ _ _ => exact List.mem_append_left _ member

theorem run_history (state : State) (ops : List Op) (owner : Uuid) (line : Line) (write : StateWrite) :
    Sound state ∧ write ∈ state.historyOf owner line →
      Sound (run step state ops) ∧ write ∈ (run step state ops).historyOf owner line := by
  apply run_relation step (fun start reached =>
    Sound start ∧ write ∈ start.historyOf owner line → Sound reached ∧ write ∈ reached.historyOf owner line)
  · intro start held
    exact held
  · intro start reached op earlier held
    obtain ⟨sound, member⟩ := earlier held
    exact ⟨step_sound reached op sound,
      line_step_history _ _ (step_line reached sound.1 op owner line).1 write member⟩

def Op.opening : Op → Option (OpeningFacts × Option Uuid)
  | .driveStop call => some (call.opening, call.controlId)
  | .driveSoftCrossed _ _ => some (noOpeningFacts, none)
  | .driveClear _ | .driveSoftCleared _ _ _ | .closeAllSilently _ _ _ | .elsewhere _ => none

theorem opened_write (state opened next : State) (row : StopSignalState) (event : Event) (owner : Uuid) (line : Line)
    (written : Wrote state opened owner line row) (stopped : row.state = .stopped)
    (after : next.historyOf owner line = (emitStamped opened row event).historyOf owner line) :
    row.write false ∈ next.historyOf owner line ∧ (row.write false).opens = true := by
  obtain ⟨_, _, _, _, _, _, _, _, history, _, _, _⟩ := emitted_wrote state opened row event owner line written
  rw [after, history, if_pos ⟨rfl, rfl⟩]
  exact ⟨by simp, by simp [StateWrite.opens, StopSignalState.write, stopped]⟩

theorem opening_recorded (state next : State) (op : Op) (number : Nat) (owner : Uuid) (line : Line)
    (facts : OpeningFacts) (controlId : Option Uuid) (won : perform state op = .ok (next, some number))
    (drives : op.drives = some (owner, line)) (opening : op.opening = some (facts, controlId)) :
    ∃ write ∈ next.historyOf owner line, write.opens = true ∧ write.episodeSeq = number ∧ write.opening = facts ∧
      write.controlId = controlId := by
  cases op with
  | driveStop call =>
      cases drives
      cases opening
      have result := drive_stop_result state next call (some number) won
      cases result with
      | won holder opened announced suspended _ row known opens announces folds swept =>
          obtain ⟨written, _, stopped, _, sameFacts, sameControl⟩ := open_line_wrote state opened row call.owner
            call.tenant call.line call.controlId call.now call.opening opens
          have sameHistory : next.historyOf call.owner call.line = announced.historyOf call.owner call.line := by
            have views := congrArg LineView.history ((suspended_ledger announced suspended holder call folds).2
              call.owner call.line)
            rw [swept]
            split <;> exact views
          rw [announces] at sameHistory
          have recorded := opened_write state opened next row _ call.owner call.line written stopped sameHistory
          exact ⟨row.write false, recorded.1, recorded.2, rfl, sameFacts, sameControl⟩
  | driveSoftCrossed call bound =>
      cases drives
      cases opening
      have answered := Except.ok.inj won
      unfold driveSoftCrossed at answered
      cases opens : openLine state call.owner call.tenant .softFloor none call.now noOpeningFacts with
      | none =>
          rw [opens] at answered
          cases (Prod.mk.inj answered).2
      | some found =>
          obtain ⟨opened, row⟩ := found
          simp only [opens, Prod.mk.injEq, Option.some.injEq] at answered
          obtain ⟨written, _, stopped, _, sameFacts, sameControl⟩ := open_line_wrote state opened row call.owner
            call.tenant .softFloor none call.now noOpeningFacts opens
          have recorded := opened_write state opened next row _ call.owner .softFloor written stopped
            (congrArg (fun reached => reached.historyOf call.owner .softFloor) answered.1.symm)
          exact ⟨row.write false, recorded.1, recorded.2, answered.2, sameFacts, sameControl⟩
  | driveClear call => cases opening
  | driveSoftCleared call reason bound => cases opening
  | closeAllSilently tenant reason now => cases opening
  | elsewhere accounts => cases opening

theorem losing_call (state : State) (op : Op) (drives : op.drives ≠ none)
    (lost : ∀ next number, perform state op ≠ .ok (next, some number)) : step state op = state := by
  unfold step
  cases performed : perform state op with
  | error refusal => rfl
  | ok outcome =>
      obtain ⟨next, answer⟩ := outcome
      cases answer with
      | some number => exact absurd performed (lost next number)
      | none =>
          cases op with
          | driveStop call =>
              have result := drive_stop_result state next call none performed
              cases result with
              | lost => rfl
          | driveClear call =>
              rw [perform, driveClear] at performed
              split at performed
              · cases performed
              · split at performed
                · exact (Prod.mk.inj (Except.ok.inj performed)).1.symm
                · obtain ⟨_, _, answered⟩ := (bind_eq_ok _ _ _).mp performed
                  cases (Prod.mk.inj (Except.ok.inj answered)).2
          | driveSoftCrossed call bound =>
              rw [perform, driveSoftCrossed] at performed
              split at performed
              · exact (Prod.mk.inj (Except.ok.inj performed)).1.symm
              · cases (Prod.mk.inj (Except.ok.inj performed)).2
          | driveSoftCleared call reason bound =>
              rw [perform, driveSoftCleared] at performed
              split at performed
              · exact (Prod.mk.inj (Except.ok.inj performed)).1.symm
              · cases (Prod.mk.inj (Except.ok.inj performed)).2
          | closeAllSilently tenant reason now => exact absurd rfl drives
          | elsewhere accounts => exact absurd rfl drives

-- What a reached state says of one line: its writes are open 1, close 1,
-- open 2, ..., the row stands where the last of them left it, and the events
-- told of it number the openings once each and the closings told aloud.
structure SignalledOnce (state : State) (owner : Uuid) (line : Line) : Prop where
  alternates : (state.historyOf owner line).map StateWrite.move = alternation (state.historyOf owner line).length
  standing : latchOf (state.lineRow owner line) = latchAfter (state.historyOf owner line).length
  stops : announcedOpenings state.outbox owner line =
    ((state.historyOf owner line).filter StateWrite.opens).map StateWrite.episodeSeq
  clears : announcedClosings state.outbox owner line =
    ((state.historyOf owner line).filter StateWrite.closesAloud).map StateWrite.episodeSeq

theorem sound_signalled_once (state : State) (sound : Sound state) (owner : Uuid) (line : Line) :
    SignalledOnce state owner line := by
  have told := sound.2 owner line
  obtain ⟨alternates, standing⟩ := replayed_history _ _ told.replayed
  rw [List.length_map] at alternates standing
  exact ⟨alternates, standing, told.openings, told.closings⟩

theorem one_signal_per_transition (accounts : Accounts) :
    (∀ ops owner line, SignalledOnce (run step (noSignals accounts) ops) owner line) ∧
      (∀ ops op, op.drives ≠ none →
        (∀ next number, perform (run step (noSignals accounts) ops) op ≠ .ok (next, some number)) →
        step (run step (noSignals accounts) ops) op = run step (noSignals accounts) ops) ∧
      (∀ earlier op later next number owner line facts controlId row,
        perform (run step (noSignals accounts) earlier) op = .ok (next, some number) →
        op.drives = some (owner, line) → op.opening = some (facts, controlId) →
        (run step (noSignals accounts) (earlier ++ op :: later)).lineRow owner line = some row →
        row.episodeSeq = number → row.opening = facts ∧ row.controlId = controlId) := by
  refine ⟨?_, ?_, ?_⟩
  · intro ops owner line
    exact sound_signalled_once _ (run_sound accounts ops) owner line
  · intro ops op drives lost
    exact losing_call _ op drives lost
  · intro earlier op later next number owner line facts controlId row won drives opening found episode
    obtain ⟨write, member, opens, numbered, sameFacts, sameControl⟩ :=
      opening_recorded _ next op number owner line facts controlId won drives opening
    have reached : step (run step (noSignals accounts) earlier) op = next := by
      rw [step, won]
    have sound : Sound next := reached ▸ step_sound _ op (run_sound accounts earlier)
    rw [run_append, run_cons, reached] at found
    obtain ⟨soundAfter, kept⟩ := run_history next later owner line write ⟨sound, member⟩
    have same := (soundAfter.2 owner line).facts row found write kept opens (numbered.trans episode.symm)
    exact ⟨same.1.symm.trans sameFacts, same.2.symm.trans sameControl⟩

end Ubb.Gating
