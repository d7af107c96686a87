import Ubb.Resolving.Rows

set_option autoImplicit false

-- One execute in closed form: which rows it takes, when it answers, and the
-- table it leaves.
namespace Ubb.Resolving

open Library Pricing
open Work (CostingStatus PricingStatus PricingMode)

def evaluationIn (state : State) (posting : Posting) : Except RunRefusal (Option Evaluation) :=
  whatARunWouldComplete state.config state.heldNames posting

def rowAfter (state : State) (author : Author) (posting : Posting) : Posting :=
  match completePosting state.config state.heldNames posting author with
  | .ok (row, _) => row
  | .error _ => posting

def Completes (state : State) (author : Author) (posting : Posting) : Prop :=
  ∃ answer, completePosting state.config state.heldNames posting author = .ok answer

def Consents (state : State) (author : Author) (posting : Posting) : Prop :=
  ∃ outcome, evaluationIn state posting = .ok outcome ∧
    ∀ evaluation, outcome = some evaluation → (settles evaluation || prices evaluation) = true →
      contradicts posting.pricingReceipt author = false

theorem completes_iff_consents (state : State) (author : Author) (posting : Posting) (kept : Kept posting) :
    Completes state author posting ↔ Consents state author posting := by
  constructor
  · rintro ⟨⟨row, completion⟩, answered⟩
    rcases complete_posting_ok _ _ _ _ _ _ kept answered with ⟨asked, _, _⟩ | ⟨evaluation, asked, _, _, consents⟩
    · exact ⟨none, asked, by simp⟩
    · refine ⟨some evaluation, asked, ?_⟩
      rintro _ ⟨rfl⟩
      exact consents
  · rintro ⟨outcome, asked, consents⟩
    unfold evaluationIn at asked
    cases outcome with
    | none => exact ⟨_, (bind_eq_ok _ _ _).mpr ⟨none, asked, rfl⟩⟩
    | some evaluation =>
      have known := (evaluated _ _ _ _ asked).1
      refine ⟨(completed posting evaluation author, ⟨settles evaluation, prices evaluation, some evaluation⟩),
        (bind_eq_ok _ _ _).mpr ⟨some evaluation, asked, ?_⟩⟩
      dsimp only
      rw [completed_posting_eq posting evaluation author kept known, if_neg]
      rintro ⟨writes, changed⟩
      rw [consents evaluation rfl writes] at changed
      cases changed

theorem row_after_none (state : State) (author : Author) (posting : Posting)
    (asked : evaluationIn state posting = .ok none) : rowAfter state author posting = posting := by
  have answered : completePosting state.config state.heldNames posting author =
      .ok (posting, ⟨false, false, none⟩) := (bind_eq_ok _ _ _).mpr ⟨none, asked, rfl⟩
  unfold rowAfter
  rw [answered]

theorem row_after_some (state : State) (author : Author) (posting : Posting) (kept : Kept posting)
    (evaluation : Evaluation) (asked : evaluationIn state posting = .ok (some evaluation))
    (consents : Consents state author posting) :
    rowAfter state author posting = completed posting evaluation author := by
  obtain ⟨⟨row, completion⟩, answered⟩ := (completes_iff_consents state author posting kept).mpr consents
  have same : rowAfter state author posting = row := by
    unfold rowAfter
    rw [answered]
  rw [same]
  rcases complete_posting_ok _ _ _ _ _ _ kept answered with ⟨other, _, _⟩ | ⟨_, other, rfl, _, _⟩
  · cases asked.symm.trans other
  · cases asked.symm.trans other
    rfl

theorem row_after_kept (state : State) (author : Author) (posting : Posting) (kept : Kept posting) :
    Kept (rowAfter state author posting) ∧ (rowAfter state author posting).id = posting.id := by
  unfold rowAfter
  split
  · next answered =>
    have moved : CompletedTo (fun _ => True) posting _ := ⟨_, _, _, _, trivial, answered⟩
    exact completed_to_kept posting _ kept moved
  · exact ⟨kept, rfl⟩

def writeEach (state : State) (author : Author) (ids : List Nat) (posting : Posting) : Posting :=
  if posting.id ∈ ids then rowAfter state author posting else posting

def completedEach (state : State) (author : Author) (ids : List Nat) : State :=
  { state with postings := state.postings.map (writeEach state author ids) }

theorem found_of_mem (state : State) (tabled : Tabled state) (posting : Posting) (mem : posting ∈ state.postings) :
    postingWith state posting.id = some posting := by
  rw [postingWith]
  exact find_key_of_mem Posting.id state.postings tabled.ids posting mem

theorem completed_each_cons (state : State) (tabled : Tabled state) (author : Author) (posting : Posting)
    (mem : posting ∈ state.postings) (rest : List Nat) (fresh : posting.id ∉ rest) :
    completedEach { state with
      postings := state.postings.map (fun held =>
        if held.id = posting.id then rowAfter state author posting else held) } author rest =
      completedEach state author (posting.id :: rest) := by
  unfold completedEach
  congr 1
  dsimp only
  rw [List.map_map]
  apply List.map_congr_left
  intro held heldMem
  have sameId := (row_after_kept state author posting (tabled.kept posting mem)).2
  unfold writeEach
  by_cases same : held.id = posting.id
  · have hit : held = posting := List.inj_on_of_nodup_map tabled.ids heldMem mem same
    simp [hit, sameId, fresh]
  · simp only [Function.comp_apply, List.mem_cons, same, false_or]
    rfl

theorem complete_each_ok (author : Author) (ids : List Nat) (state after : State) (tabled : Tabled state)
    (distinct : ids.Nodup) (tally total : RunTally)
    (answered : completeEach author ids state tally = .ok (after, total)) :
    (∀ posting ∈ state.postings, posting.id ∈ ids → Completes state author posting) ∧
      after = completedEach state author ids := by
  induction ids generalizing state tally with
  | nil =>
    cases answered
    refine ⟨by simp, ?_⟩
    have same : writeEach after author [] = id := by
      funext posting
      simp [writeEach]
    unfold completedEach
    rw [same, List.map_id]
  | cons postingId rest ih =>
    unfold completeEach at answered
    obtain ⟨⟨middle, completion⟩, first, more⟩ := (bind_eq_ok _ _ _).mp answered
    obtain ⟨posting, row, found, completed, rfl⟩ := complete_ok _ _ tabled _ _ _ first
    obtain ⟨mem, rfl⟩ := posting_with_mem state postingId posting found
    obtain ⟨fresh, restDistinct⟩ := List.nodup_cons.mp distinct
    have same : row = rowAfter state author posting := by
      unfold rowAfter
      rw [completed]
    have moved : Moves (fun _ => True) state _ := complete_moves _ _ tabled _ _ trivial _ first
    obtain ⟨others, left⟩ := ih _ (moves_tabled tabled moved) restDistinct _ more
    refine ⟨?_, ?_⟩
    · intro held heldMem inside
      rcases List.mem_cons.mp inside with hit | later
      · rw [List.inj_on_of_nodup_map tabled.ids heldMem mem hit]
        exact ⟨_, completed⟩
      · apply others held _ later
        have other : held.id ≠ posting.id := by
          intro hit
          rw [hit] at later
          exact fresh later
        refine List.mem_map.mpr ⟨held, heldMem, ?_⟩
        rw [if_neg other]
    · rw [left, same]
      exact completed_each_cons state tabled author posting mem rest fresh

theorem complete_each_answers (author : Author) (ids : List Nat) (state : State) (tabled : Tabled state)
    (distinct : ids.Nodup) (present : ∀ postingId ∈ ids, ∃ posting ∈ state.postings, posting.id = postingId)
    (completes : ∀ posting ∈ state.postings, posting.id ∈ ids → Completes state author posting)
    (tally : RunTally) : ∃ answer, completeEach author ids state tally = .ok answer := by
  induction ids generalizing state tally with
  | nil => exact ⟨_, rfl⟩
  | cons postingId rest ih =>
    obtain ⟨posting, mem, rfl⟩ := present postingId List.mem_cons_self
    obtain ⟨fresh, restDistinct⟩ := List.nodup_cons.mp distinct
    obtain ⟨⟨row, completion⟩, completed⟩ := completes posting mem List.mem_cons_self
    have first : complete state posting.id author = .ok (putPosting state row, completion) := by
      unfold complete
      rw [found_of_mem state tabled posting mem]
      exact (bind_eq_ok _ _ _).mpr ⟨_, completed, rfl⟩
    have moved : Moves (fun _ => True) state _ := complete_moves _ _ tabled _ _ trivial _ first
    obtain ⟨found, other, foundMem, otherCompleted, same⟩ := complete_ok _ _ tabled _ _ _ first
    have untouched : ∀ held ∈ state.postings, held.id ∈ rest → held ∈ (putPosting state row).postings := by
      intro held heldMem inside
      have apart : held.id ≠ posting.id := by
        intro hit
        rw [hit] at inside
        exact fresh inside
      rw [same]
      exact List.mem_map.mpr ⟨held, heldMem, if_neg apart⟩
    have config : (putPosting state row).config = state.config := rfl
    have names : (putPosting state row).heldNames = state.heldNames := rfl
    have later := moves_tabled tabled moved
    have go := ih (putPosting state row) later restDistinct ?_ ?_ (tally.counting completion)
    · obtain ⟨answer, more⟩ := go
      exact ⟨answer, (bind_eq_ok _ _ _).mpr ⟨_, first, more⟩⟩
    · intro each inside
      obtain ⟨held, heldMem, heldId⟩ := present each (List.mem_cons_of_mem _ inside)
      exact ⟨held, untouched held heldMem (heldId ▸ inside), heldId⟩
    · intro held heldMem inside
      obtain ⟨old, oldMem, oldId⟩ := present held.id (List.mem_cons_of_mem _ inside)
      have stays := untouched old oldMem (oldId ▸ inside)
      have hit : held = old := List.inj_on_of_nodup_map later.ids heldMem stays oldId.symm
      have done := completes old oldMem (by rw [oldId]; exact List.mem_cons_of_mem _ inside)
      rw [hit]
      unfold Completes
      rw [config, names]
      exact done

-- The state a run selects its candidates in: what publications answer is
-- answered first.
def whenItSelects (state : State) (tenant : Nat) (selector : RunSelector) : State :=
  answerWhatPublicationsDeclare { state with nextId := state.nextId + 1 } tenant (eventTypeKeyOf selector)

def selected (state : State) (tenant : Nat) (selector : RunSelector) : List Posting :=
  candidates (whenItSelects state tenant selector).postings tenant selector

def taken (state : State) (tenant : Nat) (selector : RunSelector) : List Posting :=
  (selected state tenant selector).take maximumPostingsPerRun

def runAuthor (state : State) : Author := (resolutionRunKey, .id state.nextId)

theorem when_it_selects_tabled (state : State) (tabled : Tabled state) (tenant : Nat) (selector : RunSelector) :
    Tabled (whenItSelects state tenant selector) := by
  have drawn := drawing_tabled state tabled
  exact moves_tabled drawn (answer_moves _ drawn tenant _)

theorem when_it_selects_moves (state : State) (tabled : Tabled state) (tenant : Nat) (selector : RunSelector) :
    Moves asAHeldName state (whenItSelects state tenant selector) := by
  exact moves_trans (drawing_moves state) (answer_moves _ (drawing_tabled state tabled) tenant _)

theorem mem_candidates (postings : List Posting) (tenant : Nat) (selector : RunSelector) (posting : Posting) :
    posting ∈ candidates postings tenant selector ↔ posting ∈ postings ∧ isCandidate tenant selector posting = true := by
  unfold candidates
  rw [List.mem_insertionSort, List.mem_filter]

theorem taken_mem (state : State) (tenant : Nat) (selector : RunSelector) (posting : Posting)
    (mem : posting ∈ taken state tenant selector) :
    posting ∈ (whenItSelects state tenant selector).postings ∧ isCandidate tenant selector posting = true :=
  (mem_candidates _ _ _ _).mp (List.mem_of_mem_take mem)

theorem candidates_distinct (postings : List Posting) (tenant : Nat) (selector : RunSelector)
    (distinct : (postings.map Posting.id).Nodup) :
    ((candidates postings tenant selector).map Posting.id).Nodup := by
  unfold candidates
  have sorted := (List.perm_insertionSort oldestFirst (postings.filter (isCandidate tenant selector))).map Posting.id
  rw [sorted.nodup_iff]
  exact distinct.sublist (List.filter_sublist.map _)

theorem taken_distinct (state : State) (tabled : Tabled state) (tenant : Nat) (selector : RunSelector) :
    ((taken state tenant selector).map Posting.id).Nodup := by
  unfold taken
  rw [List.map_take]
  exact (candidates_distinct _ _ _ (when_it_selects_tabled state tabled tenant selector).ids).sublist
    (List.take_sublist _ _)

structure Executed (state : State) (tenant : Nat) (selector : RunSelector) (after : State) (recorded : RunRecord) :
    Prop where
  completes : ∀ posting ∈ taken state tenant selector,
    Completes (whenItSelects state tenant selector) (runAuthor state) posting
  left : after = { completedEach (whenItSelects state tenant selector) (runAuthor state)
      ((taken state tenant selector).map Posting.id) with
    runs := (whenItSelects state tenant selector).runs ++ [recorded] }
  examined : recorded.postingsExamined = (taken state tenant selector).length
  moreToDo : recorded.moreToDo = decide (maximumPostingsPerRun < (selected state tenant selector).length)

theorem taking_eq (postings : List Posting) :
    ((postings.map Posting.id).take (maximumPostingsPerRun + 1)).take maximumPostingsPerRun =
      (postings.take maximumPostingsPerRun).map Posting.id := by
  rw [List.take_take, ← List.map_take]
  simp

theorem more_to_do_eq (postings : List Posting) :
    decide (((postings.map Posting.id).take (maximumPostingsPerRun + 1)).length > maximumPostingsPerRun) =
      decide (maximumPostingsPerRun < postings.length) := by
  rw [List.length_take, List.length_map]
  congr 1
  apply propext
  omega

theorem execute_next_ok (state after : State) (tabled : Tabled state) (tenant : Nat) (selector : RunSelector)
    (recorded : RunRecord) (answered : executeNext state tenant selector = .ok (after, recorded)) :
    Executed state tenant selector after recorded := by
  unfold executeNext execute at answered
  dsimp only at answered
  obtain ⟨⟨middle, tally⟩, completed, rest⟩ := (bind_eq_ok _ _ _).mp answered
  obtain ⟨_, _, same⟩ := (bind_eq_ok _ _ _).mp rest
  rw [taking_eq] at completed
  have first := when_it_selects_tabled state tabled tenant selector
  obtain ⟨each, left⟩ := complete_each_ok _ _ _ _ first (taken_distinct state tabled tenant selector) _ _ completed
  cases same
  refine ⟨?_, ?_, ?_, more_to_do_eq _⟩
  · intro posting mem
    exact each posting (taken_mem state tenant selector posting mem).1 (List.mem_map_of_mem mem)
  · rw [left]
    rfl
  · dsimp only
    rw [taking_eq, List.length_map]
    rfl

theorem execute_next_answers (state : State) (tabled : Tabled state) (tenant : Nat) (selector : RunSelector)
    (unrecorded : ∀ recorded ∈ state.runs, recorded.id < state.nextId)
    (completes : ∀ posting ∈ taken state tenant selector,
      Completes (whenItSelects state tenant selector) (runAuthor state) posting) :
    ∃ after recorded, executeNext state tenant selector = .ok (after, recorded) := by
  have first := when_it_selects_tabled state tabled tenant selector
  have distinct := taken_distinct state tabled tenant selector
  have present : ∀ postingId ∈ (taken state tenant selector).map Posting.id,
      ∃ posting ∈ (whenItSelects state tenant selector).postings, posting.id = postingId := by
    intro postingId inside
    obtain ⟨posting, mem, same⟩ := List.mem_map.mp inside
    exact ⟨posting, (taken_mem state tenant selector posting mem).1, same⟩
  have each : ∀ posting ∈ (whenItSelects state tenant selector).postings,
      posting.id ∈ (taken state tenant selector).map Posting.id →
        Completes (whenItSelects state tenant selector) (runAuthor state) posting := by
    intro posting mem inside
    obtain ⟨other, otherMem, same⟩ := List.mem_map.mp inside
    have hit : other = posting :=
      List.inj_on_of_nodup_map first.ids (taken_mem state tenant selector other otherMem).1 mem same
    rw [← hit]
    exact completes other otherMem
  obtain ⟨⟨middle, tally⟩, completed⟩ :=
    complete_each_answers (runAuthor state) _ _ first distinct present each ⟨0, 0, 0⟩
  have left := (complete_each_ok _ _ _ _ first distinct _ _ completed).2
  have fresh : ¬middle.runs.any (fun recorded => recorded.id == state.nextId) = true := by
    rw [left]
    intro hit
    obtain ⟨recorded, mem, same⟩ := List.any_eq_true.mp hit
    have sameId : recorded.id = state.nextId := by simpa using same
    rcases (when_it_selects_moves state tabled tenant selector).runs recorded mem with old | drawn
    · exact absurd (unrecorded recorded old) (by omega)
    · exact absurd (show resolutionRunKey = heldNameKey from drawn) (by decide)
  unfold executeNext execute
  dsimp only
  rw [taking_eq]
  exact ⟨_, _, (bind_eq_ok _ _ _).mpr ⟨_, completed, (bind_eq_ok _ _ _).mpr ⟨(), refuse_if_false _ _ fresh, rfl⟩⟩⟩

end Ubb.Resolving
