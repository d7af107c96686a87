import Ubb.Resolving.Executed

set_option autoImplicit false

-- Two runs and one record: each names itself under the same key, and a record
-- names one.
namespace Ubb.Resolving

open Library Pricing
open Work (CostingStatus PricingStatus PricingMode)

def NamesRunsBelow (bound : Nat) (provenance : List (String × Reference)) : Prop :=
  ∀ named, provenance.lookup resolutionRunKey = some named → ∃ runId < bound, named = .id runId

theorem names_runs_assign (bound : Nat) (provenance : List (String × Reference)) (author : Author)
    (held : NamesRunsBelow bound provenance)
    (drawn : author.1 = resolutionRunKey → ∃ runId < bound, author.2 = .id runId) :
    NamesRunsBelow bound (assign provenance author.1 author.2) := by
  intro named found
  by_cases same : author.1 = resolutionRunKey
  · rw [← same, lookup_assign_same] at found
    cases found
    exact drawn same
  · rw [lookup_assign_other _ _ _ _ (Ne.symm same)] at found
    exact held named found

theorem names_runs_completed (bound : Nat) (posting : Posting) (evaluation : Evaluation) (author : Author)
    (held : NamesRunsBelow bound posting.pricingReceipt.provenance)
    (drawn : author.1 = resolutionRunKey → ∃ runId < bound, author.2 = .id runId) :
    NamesRunsBelow bound (completed posting evaluation author).pricingReceipt.provenance := by
  have costed : NamesRunsBelow bound (if settles evaluation = true then
      costCompleted posting evaluation.resolved author else posting).pricingReceipt.provenance := by
    split
    · exact names_runs_assign bound _ author held drawn
    · exact held
  unfold completed
  dsimp only
  split
  · exact names_runs_assign bound _ author costed drawn
  · exact costed

theorem moves_name_runs (bound : Nat) {Writer : Author → Prop} {before after : State} (tabled : Tabled before)
    (moves : Moves Writer before after)
    (drawn : ∀ author, Writer author → author.1 = resolutionRunKey → ∃ runId < bound, author.2 = .id runId)
    (held : ∀ posting ∈ before.postings, NamesRunsBelow bound posting.pricingReceipt.provenance) :
    ∀ posting ∈ after.postings, NamesRunsBelow bound posting.pricingReceipt.provenance := by
  obtain ⟨⟨write, rows, later⟩, _, _, _⟩ := moves
  intro posting mem
  rw [rows] at mem
  obtain ⟨old, oldMem, rfl⟩ := List.mem_map.mp mem
  refine (later_invariant (fun row => NamesRunsBelow bound row.pricingReceipt.provenance) ?_ old _
    (tabled.kept old oldMem) (held old oldMem) (later old oldMem)).2.2
  rintro row next kept names ⟨config, heldNames, author, completion, writes, answered⟩
  rcases complete_posting_ok _ _ _ _ _ _ kept answered with ⟨_, rfl, _⟩ | ⟨evaluation, _, rfl, _⟩
  · exact names
  · exact names_runs_completed bound row evaluation author names (drawn author writes)

structure Numbered (state : State) : Prop where
  tabled : Tabled state
  named : ∀ posting ∈ state.postings, NamesRunsBelow state.nextId posting.pricingReceipt.provenance
  recorded : ∀ recorded ∈ state.runs, recorded.id < state.nextId

theorem names_runs_mono (fewer more : Nat) (bounded : fewer ≤ more) (provenance : List (String × Reference))
    (held : NamesRunsBelow fewer provenance) : NamesRunsBelow more provenance := by
  intro named found
  obtain ⟨runId, below, same⟩ := held named found
  exact ⟨runId, lt_of_lt_of_le below bounded, same⟩

theorem moves_numbered {Writer : Author → Prop} {before after : State} (numbered : Numbered before)
    (moves : Moves Writer before after)
    (drawn : ∀ author, Writer author → author.1 = resolutionRunKey → ∃ runId < after.nextId, author.2 = .id runId) :
    Numbered after := by
  refine ⟨moves_tabled numbered.tabled moves, ?_, ?_⟩
  · apply moves_name_runs after.nextId numbered.tabled moves drawn
    intro posting mem
    exact names_runs_mono _ _ moves.nextId _ (numbered.named posting mem)
  · intro recorded mem
    rcases moves.runs recorded mem with old | written
    · exact lt_of_lt_of_le (numbered.recorded recorded old) moves.nextId
    · obtain ⟨runId, below, same⟩ := drawn _ written rfl
      cases same
      exact below

theorem held_names_name_no_run (bound : Nat) (author : Author) (writes : asAHeldName author)
    (run : author.1 = resolutionRunKey) : ∃ runId < bound, author.2 = .id runId :=
  absurd (writes.symm.trans run) (by decide)

theorem receipt_names_no_run (config : Configuration) (subject : PricingSubject) (asOf : Int) (receipt : Receipt)
    (answered : resolvePrice config subject asOf = .ok receipt) :
    receipt.provenance.lookup resolutionRunKey = none := by
  obtain ⟨bag, _, computed⟩ := resolve_price_ok config subject asOf receipt answered
  obtain ⟨cost, price, _, _, _, _, _, _, _, provenance, _⟩ := compute_ok _ receipt computed
  rw [provenance]
  unfold provenanceOf
  cases price.markup with
  | none => rfl
  | some markup => rfl

theorem record_numbered (state after : State) (numbered : Numbered state) (event : RecordedEvent)
    (answered : record state event = .ok after) : Numbered after := by
  obtain ⟨receipt, priced, postings, _, runs, nextId⟩ := record_ok state after event answered
  refine ⟨record_tabled state after numbered.tabled event answered, ?_, ?_⟩
  · intro posting mem
    rw [postings, List.mem_append, List.mem_singleton] at mem
    rcases mem with old | rfl
    · exact names_runs_mono _ _ nextId.le _ (numbered.named posting old)
    · intro named found
      have unnamed := receipt_names_no_run _ _ _ receipt priced
      cases unnamed.symm.trans found
  · intro recorded mem
    rw [runs] at mem
    exact (numbered.recorded recorded mem).trans nextId

theorem execute_next_draws (state after : State) (tabled : Tabled state) (tenant : Nat) (selector : RunSelector)
    (recorded : RunRecord) (answered : executeNext state tenant selector = .ok (after, recorded)) :
    state.nextId < after.nextId := by
  exact (execute_moves _ after (drawing_tabled state tabled) tenant selector _ recorded answered).nextId

theorem step_numbered (state : State) (numbered : Numbered state) (op : Op) : Numbered (step state op) := by
  have heldNames : ∀ after, Moves asAHeldName state after → Numbered after :=
    fun after moves => moves_numbered numbered moves (held_names_name_no_run after.nextId)
  cases op with
  | configure config =>
    exact ⟨step_tabled state numbered.tabled (.configure config), numbered.named, numbered.recorded⟩
  | record event =>
    exact kept_on_refusal state Numbered numbered _ (fun after => record_numbered state after numbered event)
  | map heldId declaration =>
    exact kept_on_refusal state Numbered numbered _ (fun after answered =>
      heldNames after (map_moves _ _ numbered.tabled _ _ answered))
  | register heldId declaration =>
    exact kept_on_refusal state Numbered numbered _ (fun after answered =>
      heldNames after (register_moves _ _ numbered.tabled _ _ answered))
  | dismiss heldId =>
    exact kept_on_refusal state Numbered numbered _ (fun after answered =>
      heldNames after (dismiss_moves _ _ numbered.tabled _ answered))
  | answer tenant key => exact heldNames _ (answer_moves state numbered.tabled tenant key)
  | execute tenant selector =>
    refine kept_on_refusal state Numbered numbered _ ?_
    intro after answered
    obtain ⟨recorded, executed⟩ := map_fst_ok _ _ answered
    have drew := execute_next_draws state after numbered.tabled tenant selector recorded executed
    refine moves_numbered numbered (execute_next_moves _ _ numbered.tabled _ _ _ executed) ?_
    rintro author (held | rfl) run
    · exact held_names_name_no_run after.nextId author held run
    · exact ⟨state.nextId, drew, rfl⟩

theorem numbered (ops : List Op) : Numbered (run step noPostings ops) := by
  apply run_invariant step Numbered (fun _ => True)
  · intro state op held _
    exact step_numbered state held op
  · exact ⟨no_postings_tabled, by simp [noPostings], by simp [noPostings]⟩
  · simp

def namedByARun (posting : Posting) : Bool :=
  (posting.pricingReceipt.provenance.lookup resolutionRunKey).isSome

theorem taken_names_runs (state : State) (held : Numbered state) (tenant : Nat) (selector : RunSelector)
    (posting : Posting) (mem : posting ∈ taken state tenant selector) :
    NamesRunsBelow state.nextId posting.pricingReceipt.provenance :=
  moves_name_runs state.nextId held.tabled (when_it_selects_moves state held.tabled tenant selector)
    (held_names_name_no_run state.nextId) held.named posting (taken_mem state tenant selector posting mem).1

theorem contradicts_a_new_run (bound : Nat) (posting : Posting)
    (named : NamesRunsBelow bound posting.pricingReceipt.provenance) :
    contradicts posting.pricingReceipt (resolutionRunKey, .id bound) = namedByARun posting := by
  unfold contradicts namedByARun
  cases found : posting.pricingReceipt.provenance.lookup resolutionRunKey with
  | none => rfl
  | some reference =>
    obtain ⟨runId, below, rfl⟩ := named reference found
    have apart : runId ≠ bound := by omega
    simp [apart]

-- Every posting the run takes evaluates, and none it could complete a section
-- of was completed in another section by an earlier run.
def Unobstructed (state : State) (tenant : Nat) (selector : RunSelector) : Prop :=
  ∀ posting ∈ taken state tenant selector,
    ∃ outcome, evaluationIn (whenItSelects state tenant selector) posting = .ok outcome ∧
      ∀ evaluation, outcome = some evaluation → (settles evaluation || prices evaluation) = true →
        namedByARun posting = false

theorem consents_iff (state : State) (held : Numbered state) (tenant : Nat) (selector : RunSelector)
    (posting : Posting) (mem : posting ∈ taken state tenant selector) :
    Consents (whenItSelects state tenant selector) (runAuthor state) posting ↔
      ∃ outcome, evaluationIn (whenItSelects state tenant selector) posting = .ok outcome ∧
        ∀ evaluation, outcome = some evaluation → (settles evaluation || prices evaluation) = true →
          namedByARun posting = false := by
  unfold Consents runAuthor
  rw [contradicts_a_new_run state.nextId posting (taken_names_runs state held tenant selector posting mem)]

theorem taken_kept (state : State) (tabled : Tabled state) (tenant : Nat) (selector : RunSelector)
    (posting : Posting) (mem : posting ∈ taken state tenant selector) : Kept posting :=
  (when_it_selects_tabled state tabled tenant selector).kept posting (taken_mem state tenant selector posting mem).1

theorem answers_iff_unobstructed (state : State) (held : Numbered state) (tenant : Nat) (selector : RunSelector) :
    (∃ after recorded, executeNext state tenant selector = .ok (after, recorded)) ↔
      Unobstructed state tenant selector := by
  constructor
  · rintro ⟨after, recorded, answered⟩ posting mem
    have done := (execute_next_ok state after held.tabled tenant selector recorded answered).completes posting mem
    rw [← consents_iff state held tenant selector posting mem]
    exact (completes_iff_consents _ _ _ (taken_kept state held.tabled tenant selector posting mem)).mp done
  · intro unobstructed
    apply execute_next_answers state held.tabled tenant selector held.recorded
    intro posting mem
    apply (completes_iff_consents _ _ _ (taken_kept state held.tabled tenant selector posting mem)).mpr
    exact (consents_iff state held tenant selector posting mem).mpr (unobstructed posting mem)

def RunDelivers (state : State) (tenant : Nat) (selector : RunSelector) : Prop :=
  ∃ after recorded, executeNext state tenant selector = .ok (after, recorded) ∧
    ∀ posting ∈ taken state tenant selector, ∀ evaluation,
      evaluationIn (whenItSelects state tenant selector) posting = .ok (some evaluation) →
        ∃ row ∈ after.postings, row.id = posting.id ∧
          (settles evaluation = true →
            row.costingStatus = .known ∧ row.providerCostMicros = evaluation.resolved.providerCostMicros) ∧
          (prices evaluation = true →
            row.pricingStatus = .known ∧ row.billedCostMicros = evaluation.resolved.billedCostMicros)

theorem completed_delivers (posting : Posting) (evaluation : Evaluation) (author : Author) :
    (settles evaluation = true → (completed posting evaluation author).costingStatus = .known ∧
      (completed posting evaluation author).providerCostMicros = evaluation.resolved.providerCostMicros) ∧
    (prices evaluation = true → (completed posting evaluation author).pricingStatus = .known ∧
      (completed posting evaluation author).billedCostMicros = evaluation.resolved.billedCostMicros) := by
  unfold completed
  refine ⟨?_, ?_⟩
  · intro settled
    cases priced : prices evaluation with
    | false => simp [settled, costCompleted]
    | true => simp [settled, costCompleted, priceCompleted]
  · intro priced
    simp [priced, priceCompleted]

theorem taken_row (state : State) (tenant : Nat) (selector : RunSelector) (after : State)
    (recorded : RunRecord) (executed : Executed state tenant selector after recorded) (posting : Posting)
    (mem : posting ∈ taken state tenant selector) :
    rowAfter (whenItSelects state tenant selector) (runAuthor state) posting ∈ after.postings := by
  rw [executed.left]
  refine List.mem_map.mpr ⟨posting, (taken_mem state tenant selector posting mem).1, ?_⟩
  unfold writeEach
  rw [if_pos (List.mem_map_of_mem mem)]

theorem delivers_iff_unobstructed (state : State) (held : Numbered state) (tenant : Nat) (selector : RunSelector) :
    RunDelivers state tenant selector ↔ Unobstructed state tenant selector := by
  rw [← answers_iff_unobstructed state held tenant selector]
  constructor
  · rintro ⟨after, recorded, answered, _⟩
    exact ⟨after, recorded, answered⟩
  · rintro ⟨after, recorded, answered⟩
    have executed := execute_next_ok state after held.tabled tenant selector recorded answered
    refine ⟨after, recorded, answered, ?_⟩
    intro posting mem evaluation asked
    have kept := taken_kept state held.tabled tenant selector posting mem
    have consents := (completes_iff_consents _ _ _ kept).mp (executed.completes posting mem)
    refine ⟨_, taken_row state tenant selector after recorded executed posting mem,
      (row_after_kept _ _ posting kept).2, ?_⟩
    rw [row_after_some _ _ posting kept evaluation asked consents]
    exact completed_delivers posting evaluation _

theorem a_run_delivers_iff_unobstructed (ops : List Op) (tenant : Nat) (selector : RunSelector) :
    RunDelivers (run step noPostings ops) tenant selector ↔
      Unobstructed (run step noPostings ops) tenant selector :=
  delivers_iff_unobstructed _ (numbered ops) tenant selector

-- One call of an Event Type nobody declared yet, and one whose cost its caller
-- stated. The first call's cost is completed by one run, once the type is costed
-- by quantity; both prices are left for the run after the tenant's markup.
def callOf (statedCost : Option Int) : RecordedEvent where
  tenant := 1
  customer := 1
  effectiveAt := 0
  currency := "usd"
  selectors := fun name =>
    match name with
    | .eventType => "call"
    | _ => ""
  measurements := []
  callerProviderCost := statedCost
  reportedCostSourceKind := none
  pricingMode := .eventPriced
  distinct := List.nodup_nil

def publishedAs (method : CostingMethod) (markups : List TenantDefaultMarkup) : Configuration :=
  ⟨emptyTables, [⟨1, "call", some ⟨method, ["tokens"], none, ""⟩, ["tokens"]⟩], markups⟩

def everything : RunSelector := ⟨none, none, none, ""⟩

def aCostThenAPrice : List Op :=
  [.record (callOf none), .record (callOf (some 1000000)), .configure (publishedAs .reported []), .answer 1 none,
    .configure (publishedAs .calculated []), .execute 1 everything,
    .configure (publishedAs .calculated [⟨1, 1, 10000000⟩])]

def statusesOf (state : State) : List (CostingStatus × PricingStatus) :=
  state.postings.map (fun posting => (posting.costingStatus, posting.pricingStatus))

theorem the_second_run_is_refused :
    statusesOf (run step noPostings [.record (callOf none), .record (callOf (some 1000000))]) =
        [(.unresolved, .unknown), (.known, .unknown)] ∧
      statusesOf (run step noPostings aCostThenAPrice) = [(.known, .unknown), (.known, .unknown)] ∧
      ¬RunDelivers (run step noPostings aCostThenAPrice) 1 everything := by
  refine ⟨by decide +kernel, by decide +kernel, ?_⟩
  rintro ⟨after, recorded, answered, _⟩
  have refused : (executeNext (run step noPostings aCostThenAPrice) 1 everything).toOption.isNone = true := by
    decide +kernel
  rw [answered] at refused
  cases refused

end Ubb.Resolving
