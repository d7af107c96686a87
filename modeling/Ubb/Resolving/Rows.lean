import Mathlib.Logic.Relation
import Ubb.Resolving.Postings

set_option autoImplicit false

-- What any act does to the table of postings: each row is completed some number
-- of times, and recordings append.
namespace Ubb.Resolving

open Library Pricing
open Work (CostingStatus PricingStatus PricingMode)

theorem complete_posting_ok (config : Configuration) (heldNames : List HeldName) (posting after : Posting)
    (author : Author) (completion : Completion) (kept : Kept posting)
    (answered : completePosting config heldNames posting author = .ok (after, completion)) :
    (whatARunWouldComplete config heldNames posting = .ok none ∧ after = posting ∧
      completion = ⟨false, false, none⟩) ∨
    ∃ evaluation, whatARunWouldComplete config heldNames posting = .ok (some evaluation) ∧
      after = completed posting evaluation author ∧
      completion = ⟨settles evaluation, prices evaluation, some evaluation⟩ ∧
      ((settles evaluation || prices evaluation) = true → contradicts posting.pricingReceipt author = false) := by
  unfold completePosting at answered
  obtain ⟨evaluation, asked, rest⟩ := (bind_eq_ok _ _ _).mp answered
  cases evaluation with
  | none =>
    cases rest
    exact Or.inl ⟨asked, rfl, rfl⟩
  | some evaluation =>
    dsimp only at rest
    rw [completed_posting_eq posting evaluation author kept (evaluated _ _ _ _ asked).1] at rest
    split at rest
    · cases rest
    · next consents =>
      cases rest
      refine Or.inr ⟨evaluation, asked, rfl, rfl, ?_⟩
      intro writes
      by_contra changed
      exact consents ⟨writes, by simpa using changed⟩

def CompletedTo (Writer : Author → Prop) (posting after : Posting) : Prop :=
  ∃ config heldNames author completion, Writer author ∧
    completePosting config heldNames posting author = .ok (after, completion)

def Later (Writer : Author → Prop) : Posting → Posting → Prop := Relation.ReflTransGen (CompletedTo Writer)

theorem completed_id (posting : Posting) (evaluation : Evaluation) (author : Author) :
    (completed posting evaluation author).id = posting.id := by
  unfold completed
  dsimp only
  split
  · split
    · rfl
    · rfl
  · split
    · rfl
    · rfl

section

variable {Writer : Author → Prop}

theorem completed_to_kept (posting after : Posting) (kept : Kept posting)
    (moved : CompletedTo Writer posting after) : Kept after ∧ after.id = posting.id := by
  obtain ⟨config, heldNames, author, completion, _, answered⟩ := moved
  rcases complete_posting_ok _ _ _ _ _ _ kept answered with ⟨_, rfl, _⟩ | ⟨evaluation, asked, rfl, _⟩
  · exact ⟨kept, rfl⟩
  · exact ⟨completed_kept _ _ _ kept (evaluated _ _ _ _ asked).1, completed_id _ _ _⟩

theorem later_invariant (Inv : Posting → Prop)
    (keeps : ∀ posting after, Kept posting → Inv posting → CompletedTo Writer posting after → Inv after)
    (posting after : Posting) (kept : Kept posting) (holds : Inv posting) (later : Later Writer posting after) :
    Kept after ∧ after.id = posting.id ∧ Inv after := by
  induction later with
  | refl => exact ⟨kept, rfl, holds⟩
  | tail _ moved ih =>
    obtain ⟨middleKept, middleId, middleHolds⟩ := ih
    obtain ⟨afterKept, sameId⟩ := completed_to_kept _ _ middleKept moved
    exact ⟨afterKept, sameId.trans middleId, keeps _ _ middleKept middleHolds moved⟩

structure Tabled (state : State) : Prop where
  ids : (state.postings.map Posting.id).Nodup
  fresh : ∀ posting ∈ state.postings, posting.id < state.nextId
  kept : ∀ posting ∈ state.postings, Kept posting

structure Moves (Writer : Author → Prop) (before after : State) : Prop where
  rows : ∃ write : Posting → Posting, after.postings = before.postings.map write ∧
    ∀ posting ∈ before.postings, Later Writer posting (write posting)
  config : after.config = before.config
  runs : ∀ recorded ∈ after.runs, recorded ∈ before.runs ∨ Writer (resolutionRunKey, .id recorded.id)
  nextId : before.nextId ≤ after.nextId

theorem moves_same (before after : State) (postings : after.postings = before.postings)
    (config : after.config = before.config) (runs : after.runs = before.runs)
    (nextId : before.nextId ≤ after.nextId) : Moves Writer before after :=
  ⟨⟨id, by rw [postings, List.map_id], fun _ _ => Relation.ReflTransGen.refl⟩, config,
    fun _ mem => Or.inl (runs ▸ mem), nextId⟩

theorem moves_refl (state : State) : Moves Writer state state := moves_same state state rfl rfl rfl (le_refl _)

theorem drawing_moves (state : State) : Moves Writer state { state with nextId := state.nextId + 1 } :=
  moves_same _ _ rfl rfl rfl (Nat.le_succ _)

theorem moves_trans {first second third : State} (one : Moves Writer first second)
    (two : Moves Writer second third) : Moves Writer first third := by
  obtain ⟨⟨write, rows, later⟩, config, runs, nextId⟩ := one
  obtain ⟨⟨again, moreRows, moreLater⟩, moreConfig, moreRuns, moreNext⟩ := two
  refine ⟨⟨again ∘ write, by rw [moreRows, rows, List.map_map], ?_⟩, moreConfig.trans config, ?_,
    nextId.trans moreNext⟩
  · intro posting mem
    refine (later posting mem).trans (moreLater _ ?_)
    rw [rows]
    exact List.mem_map_of_mem mem
  · intro recorded mem
    rcases moreRuns recorded mem with held | drawn
    · exact runs recorded held
    · exact Or.inr drawn

theorem moves_tabled {before after : State} (tabled : Tabled before) (moves : Moves Writer before after) :
    Tabled after := by
  obtain ⟨⟨write, rows, later⟩, _, _, nextId⟩ := moves
  have each : ∀ posting ∈ before.postings, Kept (write posting) ∧ (write posting).id = posting.id := by
    intro posting mem
    obtain ⟨kept, same, _⟩ := later_invariant (fun _ => True) (fun _ _ _ _ _ => trivial) posting _
      (tabled.kept posting mem) trivial (later posting mem)
    exact ⟨kept, same⟩
  have ids : after.postings.map Posting.id = before.postings.map Posting.id := by
    rw [rows, List.map_map]
    exact List.map_congr_left (fun posting mem => (each posting mem).2)
  refine ⟨by rw [ids]; exact tabled.ids, ?_, ?_⟩
  · intro posting mem
    rw [rows] at mem
    obtain ⟨old, oldMem, rfl⟩ := List.mem_map.mp mem
    rw [(each old oldMem).2]
    exact lt_of_lt_of_le (tabled.fresh old oldMem) nextId
  · intro posting mem
    rw [rows] at mem
    obtain ⟨old, oldMem, rfl⟩ := List.mem_map.mp mem
    exact (each old oldMem).1

theorem drawing_tabled (state : State) (tabled : Tabled state) : Tabled { state with nextId := state.nextId + 1 } := by
  have moves : Moves (fun _ => True) state { state with nextId := state.nextId + 1 } := drawing_moves state
  exact moves_tabled tabled moves

theorem posting_with_mem (state : State) (postingId : Nat) (posting : Posting)
    (found : postingWith state postingId = some posting) : posting ∈ state.postings ∧ posting.id = postingId :=
  find_key_some Posting.id postingId state.postings posting found

theorem complete_ok (state after : State) (tabled : Tabled state) (postingId : Nat) (author : Author)
    (completion : Completion) (answered : complete state postingId author = .ok (after, completion)) :
    ∃ posting row, postingWith state postingId = some posting ∧
      completePosting state.config state.heldNames posting author = .ok (row, completion) ∧
      after = { state with postings := state.postings.map (fun held => if held.id = postingId then row else held) } := by
  unfold complete at answered
  cases found : postingWith state postingId with
  | none =>
    rw [found] at answered
    cases answered
  | some posting =>
    rw [found] at answered
    obtain ⟨⟨row, done⟩, completed, same⟩ := (bind_eq_ok _ _ _).mp answered
    cases same
    obtain ⟨mem, sameId⟩ := posting_with_mem state postingId posting found
    have moved : CompletedTo (fun _ => True) posting row := ⟨_, _, _, _, trivial, completed⟩
    have rowId := (completed_to_kept posting row (tabled.kept posting mem) moved).2
    refine ⟨posting, row, rfl, completed, ?_⟩
    unfold putPosting updateRow
    rw [rowId, sameId]

theorem complete_moves (state after : State) (tabled : Tabled state) (postingId : Nat) (author : Author)
    (writes : Writer author) (completion : Completion)
    (answered : complete state postingId author = .ok (after, completion)) : Moves Writer state after := by
  obtain ⟨posting, row, found, completed, rfl⟩ := complete_ok state after tabled postingId author completion answered
  obtain ⟨mem, sameId⟩ := posting_with_mem state postingId posting found
  refine ⟨⟨_, rfl, ?_⟩, rfl, fun _ => Or.inl, le_refl _⟩
  intro held heldMem
  split
  · next hit =>
    have same : held = posting := List.inj_on_of_nodup_map tabled.ids heldMem mem (hit.trans sameId.symm)
    rw [same]
    exact Relation.ReflTransGen.single ⟨_, _, _, _, writes, completed⟩
  · exact Relation.ReflTransGen.refl

end

-- A held name's replay writes under its own key, a run under its own id.
def asAHeldName (author : Author) : Prop := author.1 = heldNameKey

def asTheRun (runId : Nat) (author : Author) : Prop :=
  author.1 = heldNameKey ∨ author = (resolutionRunKey, .id runId)

theorem moves_mono {Fewer More : Author → Prop} (wider : ∀ author, Fewer author → More author)
    {before after : State} (moves : Moves Fewer before after) : Moves More before after := by
  obtain ⟨⟨write, rows, later⟩, config, runs, nextId⟩ := moves
  refine ⟨⟨write, rows, ?_⟩, config, fun recorded mem => (runs recorded mem).imp_right (wider _), nextId⟩
  intro posting mem
  refine Relation.ReflTransGen.mono ?_ _ _ (later posting mem)
  rintro _ _ ⟨_, _, author, _, writes, answered⟩
  exact ⟨_, _, author, _, wider author writes, answered⟩

theorem hold_quantities_same (state : State) (tenant eventId : Nat) (eventTypeKey : String) (occurredAt : Int)
    (undeclared : List (String × String)) :
    (holdQuantities state tenant eventId eventTypeKey occurredAt undeclared).postings = state.postings ∧
      (holdQuantities state tenant eventId eventTypeKey occurredAt undeclared).config = state.config ∧
      (holdQuantities state tenant eventId eventTypeKey occurredAt undeclared).runs = state.runs ∧
      state.nextId ≤ (holdQuantities state tenant eventId eventTypeKey occurredAt undeclared).nextId := by
  unfold holdQuantities
  induction undeclared generalizing state with
  | nil => exact ⟨rfl, rfl, rfl, le_refl _⟩
  | cons entry rest ih =>
    obtain ⟨postings, config, runs, nextId⟩ := ih (hold state tenant eventId .measurementKey eventTypeKey entry.1
      occurredAt)
    exact ⟨postings, config, runs, (Nat.le_succ _).trans nextId⟩

theorem replay_moves (state after : State) (tabled : Tabled state) (replay : Replay)
    (answered : replayTheHeldEvent state replay = .ok after) : Moves asAHeldName state after := by
  unfold replayTheHeldEvent at answered
  split at answered
  · cases answered
  · obtain ⟨_, _, rest⟩ := (bind_eq_ok _ _ _).mp answered
    obtain ⟨_, _, more⟩ := (bind_eq_ok _ _ _).mp rest
    obtain ⟨⟨middle, completion⟩, completed, last⟩ := (bind_eq_ok _ _ _).mp more
    have writes : asAHeldName (heldNameKey, .id replay.heldNameId) := rfl
    have moved := complete_moves state middle tabled _ _ writes _ completed
    dsimp only at last
    split at last
    · cases last
      exact moved
    · split at last
      · cases last
        obtain ⟨postings, config, runs, nextId⟩ := hold_quantities_same middle _ _ _ _ _
        exact moves_trans moved (moves_same _ _ postings config runs nextId)
      · cases last
        exact moved

theorem remediate_moves (state after : State) (tabled : Tabled state) (held : HeldName) (resolution : Remedy)
    (declaredKey : String) (answered : remediate state held resolution declaredKey = .ok after) :
    Moves asAHeldName state after := by
  unfold remediate at answered
  have moved : Moves asAHeldName state { state with
      heldNames := updateRow HeldName.id held.id (resolved resolution declaredKey) state.heldNames } :=
    moves_same _ _ rfl rfl rfl (le_refl _)
  dsimp only at answered
  split at answered
  · cases answered
    exact moved
  · exact moves_trans moved (replay_moves _ _ (moves_tabled tabled moved) _ answered)

theorem register_moves (state after : State) (tabled : Tabled state) (heldId : Nat) (declaration : Declaration)
    (answered : registerTheHeldName state heldId declaration = .ok after) : Moves asAHeldName state after := by
  unfold registerTheHeldName at answered
  split at answered
  · cases answered
  · obtain ⟨_, _, rest⟩ := (bind_eq_ok _ _ _).mp answered
    obtain ⟨_, _, more⟩ := (bind_eq_ok _ _ _).mp rest
    exact remediate_moves _ _ tabled _ _ _ more

theorem map_moves (state after : State) (tabled : Tabled state) (heldId : Nat) (declaration : Declaration)
    (answered : mapToADeclaration state heldId declaration = .ok after) : Moves asAHeldName state after := by
  unfold mapToADeclaration at answered
  split at answered
  · cases answered
  · obtain ⟨_, _, rest⟩ := (bind_eq_ok _ _ _).mp answered
    obtain ⟨_, _, more⟩ := (bind_eq_ok _ _ _).mp rest
    exact remediate_moves _ _ tabled _ _ _ more

theorem dismiss_moves (state after : State) (tabled : Tabled state) (heldId : Nat)
    (answered : dismissAsNonEconomic state heldId = .ok after) : Moves asAHeldName state after := by
  unfold dismissAsNonEconomic at answered
  split at answered
  · cases answered
  · exact remediate_moves _ _ tabled _ _ _ answered

theorem answer_one_moves (state : State) (tabled : Tabled state) (held : HeldName) :
    Moves asAHeldName state (answerOne state held) := by
  unfold answerOne
  split
  · exact moves_refl state
  · cases answered : registerTheHeldName state held.id _ with
    | ok after => exact register_moves _ _ tabled _ _ answered
    | error _ => exact moves_refl state

theorem answers_move (names : List HeldName) (state : State) (tabled : Tabled state) :
    Moves asAHeldName state (names.foldl answerOne state) := by
  induction names generalizing state with
  | nil => exact moves_refl state
  | cons held rest ih =>
    have moved := answer_one_moves state tabled held
    exact moves_trans moved (ih _ (moves_tabled tabled moved))

theorem answer_moves (state : State) (tabled : Tabled state) (tenant : Nat) (key : Option String) :
    Moves asAHeldName state (answerWhatPublicationsDeclare state tenant key) :=
  answers_move _ state tabled

theorem complete_each_moves {Writer : Author → Prop} (author : Author) (writes : Writer author) (ids : List Nat)
    (state after : State) (tabled : Tabled state) (tally total : RunTally)
    (answered : completeEach author ids state tally = .ok (after, total)) : Moves Writer state after := by
  induction ids generalizing state tally with
  | nil =>
    cases answered
    exact moves_refl _
  | cons postingId rest ih =>
    unfold completeEach at answered
    obtain ⟨⟨middle, completion⟩, completed, more⟩ := (bind_eq_ok _ _ _).mp answered
    have moved : Moves Writer state middle := complete_moves _ _ tabled _ _ writes _ completed
    exact moves_trans moved (ih _ (moves_tabled tabled moved) _ more)

theorem execute_moves (state after : State) (tabled : Tabled state) (tenant : Nat) (selector : RunSelector)
    (runId : Nat) (recorded : RunRecord) (answered : execute state tenant selector runId = .ok (after, recorded)) :
    Moves (asTheRun runId) state after := by
  unfold execute at answered
  obtain ⟨⟨middle, tally⟩, completed, rest⟩ := (bind_eq_ok _ _ _).mp answered
  obtain ⟨_, _, same⟩ := (bind_eq_ok _ _ _).mp rest
  cases same
  have moved : Moves (asTheRun runId) state (answerWhatPublicationsDeclare state tenant (eventTypeKeyOf selector)) :=
    moves_mono (fun _ => Or.inl) (answer_moves state tabled tenant (eventTypeKeyOf selector))
  obtain ⟨rows, config, runs, nextId⟩ := moves_trans moved
    (complete_each_moves _ (Or.inr rfl) _ _ _ (moves_tabled tabled moved) _ _ completed)
  refine ⟨rows, config, ?_, nextId⟩
  intro each mem
  rcases List.mem_append.mp mem with held | added
  · exact runs each held
  · rw [List.mem_singleton.mp added]
    exact Or.inr (Or.inr rfl)

theorem execute_next_moves (state after : State) (tabled : Tabled state) (tenant : Nat) (selector : RunSelector)
    (recorded : RunRecord) (answered : executeNext state tenant selector = .ok (after, recorded)) :
    Moves (asTheRun state.nextId) state after := by
  exact moves_trans (drawing_moves state) (execute_moves _ _ (drawing_tabled state tabled) _ _ _ _ answered)

theorem posting_of_kept (config : Configuration) (event : RecordedEvent) (postingId : Nat) (receipt : Receipt)
    (answered : resolvePrice config (event.subject postingId) event.effectiveAt = .ok receipt) :
    Kept (postingOf event postingId receipt) :=
  ⟨resolve_price_sound config (event.subject postingId) _ receipt rfl answered, rfl, rfl, rfl, rfl⟩

theorem record_ok (state after : State) (event : RecordedEvent) (answered : record state event = .ok after) :
    ∃ receipt, resolvePrice state.config (event.subject state.nextId) event.effectiveAt = .ok receipt ∧
      after.postings = state.postings ++ [postingOf event state.nextId receipt] ∧ after.config = state.config ∧
      after.runs = state.runs ∧ state.nextId < after.nextId := by
  unfold record at answered
  dsimp only at answered
  obtain ⟨receipt, priced, rest⟩ := (bind_eq_ok _ _ _).mp answered
  rw [map_error_eq_ok] at priced
  obtain ⟨postings, config, runs, nextId⟩ := hold_quantities_same { state with
    nextId := state.nextId + 1
    postings := state.postings ++ [postingOf event state.nextId receipt] } event.tenant state.nextId
    (event.selectors .eventType) event.effectiveAt receipt.costing.detail.undeclaredQuantities
  refine ⟨receipt, priced, ?_⟩
  split at rest
  · cases rest
    exact ⟨postings, config, runs, Nat.lt_succ_of_le ((Nat.le_succ _).trans nextId)⟩
  · cases rest
    exact ⟨postings, config, runs, nextId⟩

theorem record_tabled (state after : State) (tabled : Tabled state) (event : RecordedEvent)
    (answered : record state event = .ok after) : Tabled after := by
  obtain ⟨receipt, priced, postings, _, _, nextId⟩ := record_ok state after event answered
  refine ⟨?_, ?_, ?_⟩
  · rw [postings]
    apply nodup_add_row Posting.id state.postings _ tabled.ids
    intro posting mem
    exact Nat.ne_of_lt (tabled.fresh posting mem)
  · intro posting mem
    rw [postings, List.mem_append, List.mem_singleton] at mem
    rcases mem with old | rfl
    · exact (tabled.fresh posting old).trans nextId
    · exact nextId
  · intro posting mem
    rw [postings, List.mem_append, List.mem_singleton] at mem
    rcases mem with old | rfl
    · exact tabled.kept posting old
    · exact posting_of_kept _ _ _ _ priced

theorem kept_on_refusal (state : State) (Holds : State → Prop) (held : Holds state)
    (act : Except RunRefusal State) (answered : ∀ after, act = .ok after → Holds after) :
    Holds (keepOnRefusal state act) := by
  cases outcome : act with
  | ok after => exact answered after outcome
  | error _ => exact held

theorem map_fst_ok {Out Other : Type} (act : Except RunRefusal (Out × Other)) (after : Out)
    (answered : act.map Prod.fst = .ok after) : ∃ other, act = .ok (after, other) := by
  cases outcome : act with
  | ok pair =>
    rw [outcome] at answered
    cases answered
    exact ⟨pair.2, rfl⟩
  | error _ =>
    rw [outcome] at answered
    cases answered

theorem step_moves (state : State) (tabled : Tabled state) (op : Op)
    (inPlace : ∀ event, op ≠ .record event) (unconfigured : ∀ config, op ≠ .configure config) :
    Moves (asTheRun state.nextId) state (step state op) := by
  have widens : ∀ after, Moves asAHeldName state after → Moves (asTheRun state.nextId) state after :=
    fun _ => moves_mono (fun _ => Or.inl)
  cases op with
  | configure config => exact absurd rfl (unconfigured config)
  | record event => exact absurd rfl (inPlace event)
  | map heldId declaration =>
    exact widens _ (kept_on_refusal state (Moves asAHeldName state) (moves_refl state) _
      (fun after => map_moves _ _ tabled _ _))
  | register heldId declaration =>
    exact widens _ (kept_on_refusal state (Moves asAHeldName state) (moves_refl state) _
      (fun after => register_moves _ _ tabled _ _))
  | dismiss heldId =>
    exact widens _ (kept_on_refusal state (Moves asAHeldName state) (moves_refl state) _
      (fun after => dismiss_moves _ _ tabled _))
  | answer tenant key => exact widens _ (answer_moves state tabled tenant key)
  | execute tenant selector =>
    refine kept_on_refusal state (Moves _ state) (moves_refl state) _ ?_
    intro after answered
    obtain ⟨recorded, executed⟩ := map_fst_ok _ _ answered
    exact execute_next_moves _ _ tabled _ _ _ executed

theorem step_tabled (state : State) (tabled : Tabled state) (op : Op) : Tabled (step state op) := by
  cases op with
  | configure config => exact ⟨tabled.ids, tabled.fresh, tabled.kept⟩
  | record event => exact kept_on_refusal state Tabled tabled _ (fun after => record_tabled _ _ tabled event)
  | map heldId declaration => exact moves_tabled tabled (step_moves state tabled _ (by simp) (by simp))
  | register heldId declaration => exact moves_tabled tabled (step_moves state tabled _ (by simp) (by simp))
  | dismiss heldId => exact moves_tabled tabled (step_moves state tabled _ (by simp) (by simp))
  | answer tenant key => exact moves_tabled tabled (step_moves state tabled _ (by simp) (by simp))
  | execute tenant selector => exact moves_tabled tabled (step_moves state tabled _ (by simp) (by simp))

theorem no_postings_tabled : Tabled noPostings :=
  ⟨List.nodup_nil, by simp [noPostings], by simp [noPostings]⟩

end Ubb.Resolving
