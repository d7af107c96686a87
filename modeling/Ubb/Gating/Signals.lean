import Ubb.Gating.Model
import Ubb.Library.Latch
import Ubb.Library.Outcomes

set_option autoImplicit false

namespace Ubb.Gating

open Ubb.Library

inductive Op where
  | driveStop (call : StopCall)
  | driveClear (call : ClearCall)
  | driveSoftCrossed (call : SoftCall) (softMinBalanceMicros : Int)
  | driveSoftCleared (call : SoftCall) (reason : ClearReason) (softMinBalanceMicros : Option Int)
  | closeAllSilently (tenant : Tenant) (reason : ClearReason) (now : Nat)
  -- Whatever the rest of the program does to customers, wallets and invoices.
  | elsewhere (accounts : Accounts)
deriving DecidableEq, Repr

def perform (state : State) : Op → Except Error (State × Option Nat)
  | .driveStop call => driveStop state call
  | .driveClear call => driveClear state call
  | .driveSoftCrossed call bound => .ok (driveSoftCrossed state call bound)
  | .driveSoftCleared call reason bound => .ok (driveSoftCleared state call reason bound)
  | .closeAllSilently tenant reason now => .ok (closeAllSilently state tenant reason now, none)
  | .elsewhere accounts => .ok ({ state with accounts := accounts }, none)

-- A call that raises rolls its transaction back.
def step (state : State) (op : Op) : State :=
  match perform state op with
  | .error _ => state
  | .ok (next, _) => next

def Op.drives : Op → Option (Uuid × Line)
  | .driveStop call => some (call.owner, call.line)
  | .driveClear call => some (call.owner, call.line)
  | .driveSoftCrossed call _ => some (call.owner, .softFloor)
  | .driveSoftCleared call _ _ => some (call.owner, .softFloor)
  | .closeAllSilently _ _ _ => none
  | .elsewhere _ => none

def openingOf : Event → Option (Uuid × Line × Nat)
  | .customerStopped _ owner episode line _ _ => some (owner, line, episode)
  | .walletPolicySoftFloorCrossed _ owner _ _ episode => some (owner, .softFloor, episode)
  | _ => none

def closingOf : Event → Option (Uuid × Line × Nat)
  | .customerStopCleared _ owner episode _ line _ _ => some (owner, line, episode)
  | .walletPolicySoftFloorCleared _ owner _ _ _ episode => some (owner, .softFloor, episode)
  | _ => none

def episodeAt (owner : Uuid) (line : Line) : Option (Uuid × Line × Nat) → Option Nat
  | some (told, word, episode) => if told = owner ∧ word = line then some episode else none
  | none => none

def announcedOpenings (outbox : List Event) (owner : Uuid) (line : Line) : List Nat :=
  outbox.filterMap (fun event => episodeAt owner line (openingOf event))

def announcedClosings (outbox : List Event) (owner : Uuid) (line : Line) : List Nat :=
  outbox.filterMap (fun event => episodeAt owner line (closingOf event))

def State.historyOf (state : State) (owner : Uuid) (line : Line) : List StateWrite :=
  state.writes.filter (fun write => write.owner = owner ∧ write.line = line)

def StateWrite.opens (write : StateWrite) : Bool := decide (write.state = .stopped)

def StateWrite.closesAloud (write : StateWrite) : Bool := decide (write.state = .cleared ∧ write.silent = false)

def StateWrite.move (write : StateWrite) : LatchMove :=
  if write.opens then .opened write.episodeSeq else .closed write.episodeSeq

def latchOf : Option StopSignalState → Latch
  | none => shutLatch
  | some row => ⟨decide (row.state = .stopped), row.episodeSeq⟩

structure LineView where
  row : Option StopSignalState
  history : List StateWrite
  openings : List Nat
  closings : List Nat

def State.view (state : State) (owner : Uuid) (line : Line) : LineView :=
  ⟨state.lineRow owner line, state.historyOf owner line, announcedOpenings state.outbox owner line,
    announcedClosings state.outbox owner line⟩

inductive LineStep (view : LineView) : LineView → Prop
  | same : LineStep view view
  | opened (row : StopSignalState) (shut : (latchOf view.row).isOpen = false) (stopped : row.state = .stopped)
      (numbered : row.episodeSeq = (latchOf view.row).episodes + 1) :
      LineStep view ⟨some row, view.history ++ [row.write false], view.openings ++ [row.episodeSeq], view.closings⟩
  | closed (old row : StopSignalState) (silent : Bool) (held : view.row = some old) (stopped : old.state = .stopped)
      (cleared : row.state = .cleared) (numbered : row.episodeSeq = old.episodeSeq)
      (facts : row.opening = old.opening ∧ row.controlId = old.controlId) :
      LineStep view ⟨some row, view.history ++ [row.write silent], view.openings,
        if silent then view.closings else view.closings ++ [row.episodeSeq]⟩

structure Told (view : LineView) : Prop where
  replayed : shutLatch.replay (view.history.map StateWrite.move) = some (latchOf view.row)
  openings : view.openings = (view.history.filter StateWrite.opens).map StateWrite.episodeSeq
  closings : view.closings = (view.history.filter StateWrite.closesAloud).map StateWrite.episodeSeq
  numbered : ∀ write ∈ view.history, write.episodeSeq ≤ (latchOf view.row).episodes
  facts : ∀ row, view.row = some row → ∀ write ∈ view.history, write.opens = true →
    write.episodeSeq = row.episodeSeq → write.opening = row.opening ∧ write.controlId = row.controlId

theorem nothing_told (accounts : Accounts) (owner : Uuid) (line : Line) :
    Told ((noSignals accounts).view owner line) := by
  refine ⟨rfl, rfl, rfl, ?_, ?_⟩
  · intro write member
    cases member
  · intro row found
    cases found

theorem line_step_told (view next : LineView) (moved : LineStep view next) (told : Told view) : Told next := by
  cases moved with
  | same => exact told
  | opened row shut stopped numbered =>
      have opens : (row.write false).opens = true := by simp [StateWrite.opens, StopSignalState.write, stopped]
      have silentNot : (row.write false).closesAloud = false := by
        simp [StateWrite.closesAloud, StopSignalState.write, stopped]
      have episode : (row.write false).episodeSeq = row.episodeSeq := rfl
      refine ⟨?_, ?_, ?_, ?_, ?_⟩
      · rw [List.map_append, List.map_singleton]
        apply replay_snoc _ _ _ _ _ told.replayed
        rw [StateWrite.move, opens, if_pos rfl, episode, Latch.take, if_pos ⟨shut, numbered⟩]
        simp [latchOf, stopped]
      · simp [List.filter_append, opens, told.openings, episode]
      · simp [List.filter_append, silentNot, told.closings]
      · intro write member
        rcases List.mem_append.mp member with earlier | last
        · have bound := told.numbered write earlier
          simp only [latchOf]
          omega
        · rw [List.mem_singleton.mp last, episode]
          exact le_refl _
      · intro found same write member _ again
        have rowEq : row = found := Option.some.inj same
        rcases List.mem_append.mp member with earlier | last
        · have bound := told.numbered write earlier
          rw [← rowEq] at again
          omega
        · rw [List.mem_singleton.mp last, ← rowEq]
          exact ⟨rfl, rfl⟩
  | closed old row silent held stopped cleared numbered facts =>
      have opensNot : (row.write silent).opens = false := by simp [StateWrite.opens, StopSignalState.write, cleared]
      have episode : (row.write silent).episodeSeq = row.episodeSeq := rfl
      refine ⟨?_, ?_, ?_, ?_, ?_⟩
      · rw [List.map_append, List.map_singleton]
        apply replay_snoc _ _ _ _ _ told.replayed
        rw [StateWrite.move, opensNot, held, episode]
        simp [Latch.take, latchOf, stopped, cleared, numbered]
      · simp [List.filter_append, opensNot, told.openings]
      · cases silent <;>
          simp [List.filter_append, StateWrite.closesAloud, StopSignalState.write, cleared, told.closings]
      · intro write member
        rcases List.mem_append.mp member with earlier | last
        · have bound := told.numbered write earlier
          rw [held] at bound
          simpa [latchOf, numbered] using bound
        · rw [List.mem_singleton.mp last, episode]
          exact le_refl _
      · intro found same write member opens again
        have rowEq : row = found := Option.some.inj same
        subst rowEq
        rcases List.mem_append.mp member with earlier | last
        · rw [facts.1, facts.2]
          exact told.facts old held write earlier opens (again.trans numbered)
        · rw [List.mem_singleton.mp last, opensNot] at opens
          cases opens

structure Keyed (state : State) : Prop where
  unique : (state.signals.map StopSignalState.key).Nodup
  families : ∀ row ∈ state.signals, row.controlFamily = familyOfLine row.reason

theorem line_key_inj (owner wanted : Uuid) (line word : Line) (same : lineKey owner line = lineKey wanted word) :
    owner = wanted ∧ line = word := by
  simp only [lineKey, Prod.mk.injEq] at same
  exact ⟨same.1, same.2.2⟩

theorem line_row_key (state : State) (owner : Uuid) (line : Line) (row : StopSignalState)
    (found : state.lineRow owner line = some row) : row.key = lineKey owner line :=
  (find_key_some StopSignalState.key (lineKey owner line) state.signals row found).2

theorem keyed_family (row : StopSignalState) (owner : Uuid) (line : Line) (keyed : row.key = lineKey owner line) :
    row.owner = owner ∧ row.reason = line ∧ row.controlFamily = familyOfLine row.reason := by
  simp only [StopSignalState.key, lineKey, Prod.mk.injEq] at keyed
  exact ⟨keyed.1, keyed.2.2, by rw [keyed.2.1, keyed.2.2]⟩

theorem save_row_keyed (state : State) (row : StopSignalState) (owner : Uuid) (line : Line)
    (keyed : row.key = lineKey owner line) (sound : Keyed state) : Keyed (state.saveRow row) := by
  constructor
  · rw [State.saveRow]
    have keys : (updateRow StopSignalState.key row.key (fun _ => row) state.signals).map StopSignalState.key =
        state.signals.map StopSignalState.key := by
      rw [updateRow, List.map_map]
      apply List.map_congr_left
      intro other _
      by_cases hit : other.key = row.key <;> simp [hit]
    rw [keys]
    exact sound.unique
  · intro other member
    rcases mem_update_row StopSignalState.key row.key (fun _ => row) state.signals other member with kept | written
    · exact sound.families other kept.1
    · obtain ⟨_, _, _, same⟩ := written
      rw [same]
      exact (keyed_family row owner line keyed).2.2

theorem saved_line_row (state : State) (row old : StopSignalState) (owner : Uuid) (line : Line)
    (keyed : row.key = lineKey owner line) (found : state.lineRow owner line = some old) :
    (state.saveRow row).lineRow owner line = some row := by
  unfold State.lineRow at *
  rw [State.saveRow, ← keyed]
  rw [find_update_row_hit StopSignalState.key row.key (fun _ => row) state.signals (fun _ _ => rfl), keyed, found]
  rfl

theorem saved_other_row (state : State) (row : StopSignalState) (owner wanted : Uuid) (line word : Line)
    (keyed : row.key = lineKey owner line) (other : ¬ (owner = wanted ∧ line = word)) :
    (state.saveRow row).lineRow wanted word = state.lineRow wanted word := by
  have different : lineKey wanted word ≠ row.key := by
    intro same
    exact other (line_key_inj owner wanted line word (keyed.symm.trans same.symm))
  unfold State.lineRow
  rw [State.saveRow]
  exact find_update_row_other StopSignalState.key row.key (lineKey wanted word) (fun _ => row) state.signals
    (fun _ _ => rfl) different

theorem history_logged (state : State) (row : StopSignalState) (owner wanted : Uuid) (line word : Line)
    (keyed : row.key = lineKey owner line) :
    (state.logged row).historyOf wanted word = state.historyOf wanted word ++
      if owner = wanted ∧ line = word then [row.write false] else [] := by
  obtain ⟨owned, worded, _⟩ := keyed_family row owner line keyed
  have carries : (row.write false).owner = owner ∧ (row.write false).line = line := ⟨owned, worded⟩
  rw [State.historyOf, State.logged, List.filter_append, ← State.historyOf]
  by_cases here : owner = wanted ∧ line = word <;> simp [carries, here]

structure Wrote (state next : State) (owner : Uuid) (line : Line) (row : StopSignalState) : Prop where
  keyed : row.key = lineKey owner line
  found : next.lineRow owner line = some row
  others : ∀ wanted word, ¬ (owner = wanted ∧ line = word) → next.lineRow wanted word = state.lineRow wanted word
  history : ∀ wanted word, next.historyOf wanted word = state.historyOf wanted word ++
    if owner = wanted ∧ line = word then [row.write false] else []
  outbox : next.outbox = state.outbox
  accounts : next.accounts = state.accounts
  sound : Keyed state → Keyed next

theorem saved_and_logged (state : State) (old row : StopSignalState) (owner : Uuid) (line : Line)
    (keyed : row.key = lineKey owner line) (found : state.lineRow owner line = some old) :
    Wrote state ((state.saveRow row).logged row) owner line row :=
  { keyed := keyed
    found := saved_line_row state row old owner line keyed found
    others := fun wanted word other => saved_other_row state row owner wanted line word keyed other
    history := fun wanted word => history_logged (state.saveRow row) row owner wanted line word keyed
    outbox := rfl
    accounts := rfl
    sound := fun sound =>
      have saved := save_row_keyed state row owner line keyed sound
      ⟨saved.unique, saved.families⟩ }

theorem inserted_and_logged (state : State) (row : StopSignalState) (owner : Uuid) (line : Line)
    (keyed : row.key = lineKey owner line) (absent : state.lineRow owner line = none) :
    Wrote state (({ state with signals := state.signals ++ [row] }).logged row) owner line row := by
  refine ⟨keyed, ?_, ?_, ?_, rfl, rfl, ?_⟩
  · unfold State.lineRow at *
    simp [State.logged, List.find?_append, absent, keyed]
  · intro wanted word other
    have different : ¬ row.key = lineKey wanted word := by
      intro same
      exact other (line_key_inj owner wanted line word (keyed.symm.trans same))
    unfold State.lineRow
    simp [State.logged, List.find?_append, different]
  · intro wanted word
    exact history_logged ({ state with signals := state.signals ++ [row] }) row owner wanted line word keyed
  · intro sound
    constructor
    · apply nodup_add_row StopSignalState.key state.signals row sound.unique
      rw [keyed]
      exact find_key_none StopSignalState.key (lineKey owner line) state.signals absent
    · intro other member
      rcases List.mem_append.mp member with old | fresh
      · exact sound.families other old
      · rw [List.mem_singleton.mp fresh]
        exact (keyed_family row owner line keyed).2.2

theorem open_line_wrote (state opened : State) (row : StopSignalState) (owner : Uuid) (tenant : Tenant) (line : Line)
    (controlId : Option Uuid) (now : Nat) (opening : OpeningFacts)
    (won : openLine state owner tenant line controlId now opening = some (opened, row)) :
    Wrote state opened owner line row ∧ (latchOf (state.lineRow owner line)).isOpen = false ∧ row.state = .stopped ∧
      row.episodeSeq = (latchOf (state.lineRow owner line)).episodes + 1 ∧ row.opening = opening ∧
      row.controlId = controlId := by
  unfold openLine at won
  cases found : state.lineRow owner line with
  | none =>
      simp only [found, Option.some.injEq, Prod.mk.injEq] at won
      obtain ⟨rfl, rfl⟩ := won
      exact ⟨inserted_and_logged state _ owner line rfl found, rfl, rfl, rfl, rfl, rfl⟩
  | some old =>
      simp only [found] at won
      by_cases held : old.state = .stopped
      · simp [held] at won
      · simp only [held, if_false, Option.some.injEq, Prod.mk.injEq] at won
        obtain ⟨rfl, rfl⟩ := won
        have keyed := line_row_key state owner line old found
        exact ⟨saved_and_logged state old _ owner line keyed found, by simp [latchOf, held], rfl, rfl, rfl, rfl⟩

theorem close_line_wrote (state closed : State) (row : StopSignalState) (owner : Uuid) (line : Line)
    (clearReason : ClearReason) (now : Nat)
    (won : closeLine state owner line clearReason now = some (closed, row)) :
    ∃ old, state.lineRow owner line = some old ∧ old.state = .stopped ∧ Wrote state closed owner line row ∧
      row.state = .cleared ∧ row.episodeSeq = old.episodeSeq ∧ row.opening = old.opening ∧
      row.controlId = old.controlId := by
  unfold closeLine at won
  cases found : state.lineRow owner line with
  | none => simp [found] at won
  | some old =>
      simp only [found] at won
      by_cases held : old.state = .stopped
      · simp only [held, if_true, Option.some.injEq, Prod.mk.injEq] at won
        obtain ⟨rfl, rfl⟩ := won
        have keyed := line_row_key state owner line old found
        exact ⟨old, rfl, held, saved_and_logged state old _ owner line keyed found, rfl, rfl, rfl, rfl⟩
      · simp [held] at won

theorem announced_openings_snoc (outbox : List Event) (event : Event) (owner : Uuid) (line : Line) :
    announcedOpenings (outbox ++ [event]) owner line =
      announcedOpenings outbox owner line ++ (episodeAt owner line (openingOf event)).toList := by
  rw [announcedOpenings, List.filterMap_append, ← announcedOpenings]
  cases told : episodeAt owner line (openingOf event) <;> simp [told]

theorem announced_closings_snoc (outbox : List Event) (event : Event) (owner : Uuid) (line : Line) :
    announcedClosings (outbox ++ [event]) owner line =
      announcedClosings outbox owner line ++ (episodeAt owner line (closingOf event)).toList := by
  rw [announcedClosings, List.filterMap_append, ← announcedClosings]
  cases told : episodeAt owner line (closingOf event) <;> simp [told]

theorem episode_at_other (owner wanted : Uuid) (line word : Line) (episode : Nat)
    (other : ¬ (owner = wanted ∧ line = word)) : episodeAt wanted word (some (owner, line, episode)) = none := by
  rw [episodeAt, if_neg other]

theorem episode_at_own (owner : Uuid) (line : Line) (episode : Nat) :
    episodeAt owner line (some (owner, line, episode)) = some episode := by
  rw [episodeAt, if_pos ⟨rfl, rfl⟩]

theorem emitted_wrote (state wrote : State) (row : StopSignalState) (event : Event) (owner : Uuid) (line : Line)
    (written : Wrote state wrote owner line row) :
    ∃ stamped : StopSignalState,
      stamped.write = row.write ∧ stamped.state = row.state ∧ stamped.episodeSeq = row.episodeSeq ∧
      stamped.opening = row.opening ∧ stamped.controlId = row.controlId ∧
      (emitStamped wrote row event).lineRow owner line = some stamped ∧
      (∀ wanted word, ¬ (owner = wanted ∧ line = word) →
        (emitStamped wrote row event).lineRow wanted word = state.lineRow wanted word) ∧
      (∀ wanted word, (emitStamped wrote row event).historyOf wanted word = state.historyOf wanted word ++
        if owner = wanted ∧ line = word then [row.write false] else []) ∧
      (emitStamped wrote row event).outbox = state.outbox ++ [event] ∧
      (emitStamped wrote row event).accounts = state.accounts ∧
      (Keyed state → Keyed (emitStamped wrote row event)) := by
  have stampedKey : ({ row with announceOutboxId := some wrote.outbox.length } : StopSignalState).key =
      lineKey owner line := written.keyed
  refine ⟨{ row with announceOutboxId := some wrote.outbox.length }, rfl, rfl, rfl, rfl, rfl, ?_, ?_, ?_, ?_, ?_, ?_⟩
  · exact saved_line_row (writeEvent wrote event) _ row owner line stampedKey written.found
  · intro wanted word other
    exact (saved_other_row (writeEvent wrote event) _ owner wanted line word stampedKey other).trans
      (written.others wanted word other)
  · exact written.history
  · simp [emitStamped, State.saveRow, writeEvent, written.outbox]
  · exact written.accounts
  · intro sound
    have before := written.sound sound
    exact save_row_keyed (writeEvent wrote event) _ owner line stampedKey ⟨before.unique, before.families⟩

theorem opening_step (state opened : State) (row : StopSignalState) (event : Event) (owner : Uuid) (line : Line)
    (written : Wrote state opened owner line row) (shut : (latchOf (state.lineRow owner line)).isOpen = false)
    (stopped : row.state = .stopped) (numbered : row.episodeSeq = (latchOf (state.lineRow owner line)).episodes + 1)
    (opens : openingOf event = some (owner, line, row.episodeSeq)) (closes : closingOf event = none)
    (wanted : Uuid) (word : Line) :
    LineStep (state.view wanted word) ((emitStamped opened row event).view wanted word) := by
  obtain ⟨stamped, sameWrite, sameState, sameSeq, _, _, found, others, history, outbox, _, _⟩ :=
    emitted_wrote state opened row event owner line written
  have closings : announcedClosings (emitStamped opened row event).outbox wanted word =
      announcedClosings state.outbox wanted word := by
    rw [outbox, announced_closings_snoc, closes]
    simp [episodeAt]
  by_cases here : owner = wanted ∧ line = word
  · obtain ⟨rfl, rfl⟩ := here
    have openings : announcedOpenings (emitStamped opened row event).outbox owner line =
        announcedOpenings state.outbox owner line ++ [stamped.episodeSeq] := by
      rw [outbox, announced_openings_snoc, opens, episode_at_own, sameSeq]
      rfl
    have remembered : (emitStamped opened row event).historyOf owner line =
        state.historyOf owner line ++ [stamped.write false] := by
      rw [history, if_pos ⟨rfl, rfl⟩, sameWrite]
    have reached : (emitStamped opened row event).view owner line = ⟨some stamped,
        (state.view owner line).history ++ [stamped.write false], (state.view owner line).openings ++ [stamped.episodeSeq],
        (state.view owner line).closings⟩ := by
      rw [State.view, found, remembered, openings, closings]
      rfl
    rw [reached]
    exact .opened stamped shut (sameState.trans stopped) (sameSeq.trans numbered)
  · have openings : announcedOpenings (emitStamped opened row event).outbox wanted word =
        announcedOpenings state.outbox wanted word := by
      rw [outbox, announced_openings_snoc, opens, episode_at_other owner wanted line word row.episodeSeq here]
      simp
    have reached : (emitStamped opened row event).view wanted word = state.view wanted word := by
      rw [State.view, others wanted word here, history, if_neg here, List.append_nil, openings, closings]
      rfl
    rw [reached]
    exact .same

theorem closing_step (state closed : State) (old row : StopSignalState) (event : Event) (owner : Uuid) (line : Line)
    (held : state.lineRow owner line = some old) (stopped : old.state = .stopped)
    (written : Wrote state closed owner line row) (cleared : row.state = .cleared)
    (numbered : row.episodeSeq = old.episodeSeq) (facts : row.opening = old.opening ∧ row.controlId = old.controlId)
    (opens : openingOf event = none) (closes : closingOf event = some (owner, line, row.episodeSeq))
    (wanted : Uuid) (word : Line) :
    LineStep (state.view wanted word) ((emitStamped closed row event).view wanted word) := by
  obtain ⟨stamped, sameWrite, sameState, sameSeq, sameOpening, sameControl, found, others, history, outbox, _, _⟩ :=
    emitted_wrote state closed row event owner line written
  have openings : announcedOpenings (emitStamped closed row event).outbox wanted word =
      announcedOpenings state.outbox wanted word := by
    rw [outbox, announced_openings_snoc, opens]
    simp [episodeAt]
  by_cases here : owner = wanted ∧ line = word
  · obtain ⟨rfl, rfl⟩ := here
    have closings : announcedClosings (emitStamped closed row event).outbox owner line =
        announcedClosings state.outbox owner line ++ [stamped.episodeSeq] := by
      rw [outbox, announced_closings_snoc, closes, episode_at_own, sameSeq]
      rfl
    have remembered : (emitStamped closed row event).historyOf owner line =
        state.historyOf owner line ++ [stamped.write false] := by
      rw [history, if_pos ⟨rfl, rfl⟩, sameWrite]
    have reached : (emitStamped closed row event).view owner line = ⟨some stamped,
        (state.view owner line).history ++ [stamped.write false], (state.view owner line).openings,
        (state.view owner line).closings ++ [stamped.episodeSeq]⟩ := by
      rw [State.view, found, remembered, openings, closings]
      rfl
    rw [reached]
    exact .closed old stamped false held stopped (sameState.trans cleared) (sameSeq.trans numbered)
      ⟨sameOpening.trans facts.1, sameControl.trans facts.2⟩
  · have closings : announcedClosings (emitStamped closed row event).outbox wanted word =
        announcedClosings state.outbox wanted word := by
      rw [outbox, announced_closings_snoc, closes, episode_at_other owner wanted line word row.episodeSeq here]
      simp
    have reached : (emitStamped closed row event).view wanted word = state.view wanted word := by
      rw [State.view, others wanted word here, history, if_neg here, List.append_nil, openings, closings]
      rfl
    rw [reached]
    exact .same

theorem quiet_event_view (state : State) (event : Event) (opens : openingOf event = none)
    (closes : closingOf event = none) (owner : Uuid) (line : Line) :
    (writeEvent state event).view owner line = state.view owner line := by
  have openings : announcedOpenings (writeEvent state event).outbox owner line =
      announcedOpenings state.outbox owner line := by
    rw [writeEvent, announced_openings_snoc, opens]
    simp [episodeAt]
  have closings : announcedClosings (writeEvent state event).outbox owner line =
      announcedClosings state.outbox owner line := by
    rw [writeEvent, announced_closings_snoc, closes]
    simp [episodeAt]
  rw [State.view, openings, closings]
  rfl

theorem suspended_ledger (state next : State) (owner : Customer) (call : StopCall)
    (folded : suspendOwner state owner call = .ok next) :
    next.signals = state.signals ∧ ∀ wanted word, next.view wanted word = state.view wanted word := by
  unfold suspendOwner at folded
  split at folded
  · obtain ⟨balance, _, written⟩ := (bind_eq_ok _ _ _).mp folded
    have written := Except.ok.inj written
    rw [← written]
    refine ⟨rfl, ?_⟩
    intro wanted word
    rw [quiet_event_view _ _ rfl rfl]
    rfl
  · rw [← Except.ok.inj folded]
    exact ⟨rfl, fun _ _ => rfl⟩

inductive StopResult (state : State) (call : StopCall) : State → Option Nat → Prop
  | lost : StopResult state call state none
  | won (owner : Customer) (opened announced suspended next : State) (row : StopSignalState)
      (known : state.customerGet call.owner = some owner)
      (opens : openLine state call.owner call.tenant call.line call.controlId call.now call.opening = some (opened, row))
      (announces : announced = emitStamped opened row
        (.customerStopped call.tenant.id owner.id row.episodeSeq row.reason row.controlFamily row.controlId))
      (folds : suspendOwner announced owner call = .ok suspended)
      (swept : next = if call.line = .customerSpendPool then
          { suspended with stopActiveWork := suspended.stopActiveWork ++ [⟨call.owner, call.controlId⟩] }
        else suspended) :
      StopResult state call next (some row.episodeSeq)

theorem drive_stop_result (state next : State) (call : StopCall) (answer : Option Nat)
    (driven : driveStop state call = .ok (next, answer)) : StopResult state call next answer := by
  unfold driveStop at driven
  by_cases stops : call.line ∉ stopLines
  · rw [if_pos stops] at driven
    cases driven
  rw [if_neg stops] at driven
  cases known : state.customerGet call.owner with
  | none =>
      rw [known] at driven
      cases driven
  | some owner =>
      cases opens : openLine state call.owner call.tenant call.line call.controlId call.now call.opening with
      | none =>
          simp only [known, opens, Except.ok.injEq, Prod.mk.injEq] at driven
          obtain ⟨rfl, rfl⟩ := driven
          exact .lost
      | some found =>
          obtain ⟨opened, row⟩ := found
          simp only [known, opens] at driven
          obtain ⟨suspended, folds, written⟩ := (bind_eq_ok _ _ _).mp driven
          have written := Except.ok.inj written
          rw [Prod.mk.injEq] at written
          obtain ⟨rfl, rfl⟩ := written
          exact .won owner opened _ suspended _ row known opens rfl folds rfl

theorem live_customer (state : State) (id : Uuid) (customer : Customer) (known : state.customerGet id = some customer) :
    customer.id = id ∧ customer.deletedAt = none := by
  have holds := List.find?_some known
  exact of_decide_eq_true holds

theorem drive_stop_step (state next : State) (call : StopCall) (answer : Option Nat)
    (driven : driveStop state call = .ok (next, answer)) (owner : Uuid) (line : Line) :
    LineStep (state.view owner line) (next.view owner line) ∧ (Keyed state → Keyed next) := by
  cases drive_stop_result state next call answer driven with
  | lost => exact ⟨.same, id⟩
  | won holder opened announced suspended _ row known opens announces folds swept =>
      obtain ⟨written, shut, stopped, numbered, _, _⟩ := open_line_wrote state opened row call.owner call.tenant
        call.line call.controlId call.now call.opening opens
      obtain ⟨ledger, views⟩ := suspended_ledger announced suspended holder call folds
      have named : openingOf (.customerStopped call.tenant.id holder.id row.episodeSeq row.reason row.controlFamily
          row.controlId) = some (call.owner, call.line, row.episodeSeq) := by
        rw [openingOf, (live_customer state call.owner holder known).1,
          (keyed_family row call.owner call.line written.keyed).2.1]
      have moved := opening_step state opened row _ call.owner call.line written shut stopped numbered named rfl
        owner line
      have sameView : next.view owner line = announced.view owner line := by
        rw [← views owner line, swept]
        split <;> rfl
      have sameLedger : next.signals = announced.signals := by
        rw [← ledger, swept]
        split <;> rfl
      refine ⟨by rw [sameView, announces]; exact moved, ?_⟩
      intro sound
      obtain ⟨_, _, _, _, _, _, _, _, _, _, _, kept⟩ := emitted_wrote state opened row
        (.customerStopped call.tenant.id holder.id row.episodeSeq row.reason row.controlFamily row.controlId)
        call.owner call.line written
      have before := kept sound
      rw [← announces] at before
      exact ⟨sameLedger ▸ before.unique, sameLedger ▸ before.families⟩

end Ubb.Gating
