import Ubb.Resolving.Projection

set_option autoImplicit false

-- The projection beside the run it projects, and what running again completes.
namespace Ubb.Resolving

open Library Pricing
open Work (CostingStatus PricingStatus PricingMode)

def priceResolved (after : State) (posting : Posting) : Option (Nat × Int) :=
  (postingWith after posting.id).bind (fun row =>
    if posting.pricingStatus = .unknown ∧ row.pricingStatus = .known then
      row.billedCostMicros.map (fun amount => (posting.id, amount))
    else none)

def pricesResolved (before after : State) : List (Nat × Int) := before.postings.filterMap (priceResolved after)

theorem price_resolved_of_row (after : State) (tabled : Tabled after) (posting row : Posting)
    (mem : row ∈ after.postings) (same : row.id = posting.id) :
    priceResolved after posting = if posting.pricingStatus = .unknown ∧ row.pricingStatus = .known then
      row.billedCostMicros.map (fun amount => (posting.id, amount)) else none := by
  unfold priceResolved
  rw [← same, found_of_mem after tabled row mem]
  rfl

theorem kept_prices_resolve_nothing (after : State) (tabled : Tabled after) (posting row : Posting)
    (mem : row ∈ after.postings) (same : row.id = posting.id) (held : row.pricingStatus = posting.pricingStatus) :
    priceResolved after posting = none := by
  rw [price_resolved_of_row after tabled posting row mem same, if_neg]
  rintro ⟨unknown, known⟩
  rw [held, unknown] at known
  cases known

theorem nothing_resolved (state : State) (tabled : Tabled state) : pricesResolved state state = [] := by
  unfold pricesResolved
  rw [List.filterMap_eq_nil_iff]
  intro posting mem
  exact kept_prices_resolve_nothing state tabled posting posting mem rfl rfl

theorem row_after_resolves (state after : State) (tabled : Tabled after) (author : Author) (posting : Posting)
    (kept : Kept posting) (consents : Consents state author posting)
    (mem : rowAfter state author posting ∈ after.postings) :
    priceResolved after posting = projectedPrice state posting := by
  have same := (row_after_kept state author posting kept).2
  have answered := consents
  obtain ⟨outcome, asked, _⟩ := answered
  cases outcome with
  | none =>
    rw [projected_price_none state posting asked]
    apply kept_prices_resolve_nothing after tabled posting _ mem same
    rw [row_after_none state author posting asked]
  | some evaluation =>
    have known := (evaluated _ _ _ _ asked).1
    rw [projected_price_some state posting evaluation asked]
    have row := row_after_some state author posting kept evaluation asked consents
    by_cases priced : prices evaluation = true
    · rw [if_pos priced, price_resolved_of_row after tabled posting _ mem same, row]
      obtain ⟨status, amount⟩ := (completed_delivers posting evaluation author).2 priced
      rw [if_pos ⟨prices_unknown posting evaluation known priced, status⟩, amount]
    · rw [if_neg priced]
      apply kept_prices_resolve_nothing after tabled posting _ mem same
      rw [row]
      exact price_status_of_held (completed_price_held posting evaluation author (by simpa using priced))

theorem executed_resolves (state after : State) (held : Numbered state) (tenant : Nat) (selector : RunSelector)
    (unanswerable : NoneAnswerable state tenant selector) (recorded : RunRecord)
    (answered : executeNext state tenant selector = .ok (after, recorded)) :
    (pricesResolved state after).Perm ((taken state tenant selector).filterMap (projectedPrice state)) := by
  have executed := execute_next_ok state after held.tabled tenant selector recorded answered
  have tabled := moves_tabled held.tabled (execute_next_moves _ _ held.tabled _ _ _ answered)
  have at_once := selects_at_once state tenant selector unanswerable
  have postings : (whenItSelects state tenant selector).postings = state.postings := by rw [at_once]
  have taken_in : ∀ posting ∈ taken state tenant selector, posting ∈ state.postings := by
    intro posting mem
    rw [← postings]
    exact (taken_mem state tenant selector posting mem).1
  have untaken : pricesResolved state after =
      (state.postings.filter (fun posting => posting.id ∈ (taken state tenant selector).map Posting.id)).filterMap
        (projectedPrice state) := by
    unfold pricesResolved
    rw [List.filterMap_filter]
    apply List.filterMap_congr
    intro posting mem
    by_cases inside : posting.id ∈ (taken state tenant selector).map Posting.id
    · obtain ⟨other, otherMem, same⟩ := List.mem_map.mp inside
      have hit : other = posting := List.inj_on_of_nodup_map held.tabled.ids (taken_in other otherMem) mem same
      rw [hit] at otherMem
      have kept := held.tabled.kept posting mem
      have consents := (completes_iff_consents _ _ _ kept).mp (executed.completes posting otherMem)
      have row := taken_row state tenant selector after recorded executed posting otherMem
      rw [row_after_resolves _ after tabled _ posting kept consents row, at_once]
      simp [inside, projectedPrice]
    · have row : posting ∈ after.postings := by
        rw [executed.left]
        refine List.mem_map.mpr ⟨posting, by rw [postings]; exact mem, ?_⟩
        unfold writeEach
        rw [if_neg inside]
      rw [kept_prices_resolve_nothing after tabled posting posting row rfl rfl]
      simp [inside]
  rw [untaken]
  apply List.Perm.filterMap
  have distinct := taken_distinct state held.tabled tenant selector
  rw [List.perm_ext_iff_of_nodup ((List.Nodup.of_map _ held.tabled.ids).filter _) (List.Nodup.of_map _ distinct)]
  intro posting
  rw [List.mem_filter]
  constructor
  · rintro ⟨mem, inside⟩
    obtain ⟨other, otherMem, same⟩ := List.mem_map.mp (of_decide_eq_true inside)
    rw [← List.inj_on_of_nodup_map held.tabled.ids (taken_in other otherMem) mem same]
    exact otherMem
  · intro mem
    exact ⟨taken_in posting mem, by simpa using ⟨posting, mem, rfl⟩⟩

theorem completed_contradicts (posting : Posting) (evaluation : Evaluation) (first second : Nat)
    (apart : first ≠ second) (writes : (settles evaluation || prices evaluation) = true) :
    contradicts (completed posting evaluation (resolutionRunKey, .id first)).pricingReceipt
      (resolutionRunKey, .id second) = true := by
  have named : (completed posting evaluation (resolutionRunKey, .id first)).pricingReceipt.provenance.lookup
      resolutionRunKey = some (.id first) := by
    unfold completed
    cases priced : prices evaluation with
    | true => simp [priceCompleted, withPrice, lookup_assign_same]
    | false =>
      rw [priced, Bool.or_false] at writes
      simp [writes, costCompleted, withCost, lookup_assign_same]
  unfold contradicts
  rw [named]
  simpa using apart

theorem a_taken_row_stays (before after : State) (config : after.config = before.config)
    (names : after.heldNames = before.heldNames) (first second : Nat) (apart : first ≠ second) (posting : Posting)
    (kept : Kept posting) (consents : Consents before (resolutionRunKey, .id first) posting)
    (again : Consents after (resolutionRunKey, .id second)
      (rowAfter before (resolutionRunKey, .id first) posting)) :
    rowAfter after (resolutionRunKey, .id second) (rowAfter before (resolutionRunKey, .id first) posting) =
      rowAfter before (resolutionRunKey, .id first) posting := by
  have rowKept := (row_after_kept before (resolutionRunKey, .id first) posting kept).1
  have once := consents
  have twice := again
  obtain ⟨outcome, asked, _⟩ := once
  obtain ⟨later, askedAgain, agrees⟩ := twice
  cases later with
  | none => exact row_after_none _ _ _ askedAgain
  | some evaluation =>
    rw [row_after_some after _ _ rowKept evaluation askedAgain again]
    apply completed_idle
    by_contra writes
    rw [Bool.not_eq_false] at writes
    have uncontradicted := agrees evaluation rfl writes
    have left : ∀ row, row = posting → evaluationIn after row = evaluationIn before posting := by
      rintro row rfl
      unfold evaluationIn
      rw [config, names]
    cases outcome with
    | none =>
      rw [left _ (row_after_none before _ posting asked), asked] at askedAgain
      cases askedAgain
    | some earlier =>
      have row := row_after_some before _ posting kept earlier asked consents
      by_cases wrote : (settles earlier || prices earlier) = true
      · rw [row, completed_contradicts posting earlier first second apart wrote] at uncontradicted
        cases uncontradicted
      · have same := row.trans (completed_idle posting earlier _ (by simpa using wrote))
        rw [left _ same, asked] at askedAgain
        cases askedAgain
        exact wrote writes

def afterARun (state : State) (tenant : Nat) (selector : RunSelector) : State := step state (.execute tenant selector)

theorem after_a_run_ok (state after : State) (tenant : Nat) (selector : RunSelector) (recorded : RunRecord)
    (answered : executeNext state tenant selector = .ok (after, recorded)) :
    afterARun state tenant selector = after := by
  show keepOnRefusal state ((executeNext state tenant selector).map Prod.fst) = after
  rw [answered]
  rfl

theorem after_a_run_refused (state : State) (tenant : Nat) (selector : RunSelector) (refused : RunRefusal)
    (answered : executeNext state tenant selector = .error refused) : afterARun state tenant selector = state := by
  show keepOnRefusal state ((executeNext state tenant selector).map Prod.fst) = state
  rw [answered]
  rfl

theorem unanswerable_after (state after : State) (held : Numbered state) (tenant : Nat) (selector : RunSelector)
    (unanswerable : NoneAnswerable state tenant selector) (recorded : RunRecord)
    (executed : Executed state tenant selector after recorded) :
    after.config = state.config ∧ after.heldNames = state.heldNames ∧ NoneAnswerable after tenant selector := by
  have config : after.config = state.config := by
    rw [executed.left]
    exact (when_it_selects_moves state held.tabled tenant selector).config
  have names : after.heldNames = state.heldNames := by
    rw [executed.left]
    unfold completedEach
    dsimp only
    rw [selects_at_once state tenant selector unanswerable]
  refine ⟨config, names, ?_⟩
  unfold NoneAnswerable undecidedNames
  rw [config, names]
  exact unanswerable

theorem a_second_run_is_idle (state : State) (held : Numbered state) (tenant : Nat) (selector : RunSelector)
    (unanswerable : NoneAnswerable state tenant selector) (posting : Posting)
    (mem : posting ∈ taken state tenant selector) :
    postingWith (afterARun (afterARun state tenant selector) tenant selector) posting.id =
      postingWith (afterARun state tenant selector) posting.id := by
  cases answered : executeNext state tenant selector with
  | error refused =>
    rw [after_a_run_refused state tenant selector refused answered,
      after_a_run_refused state tenant selector refused answered]
  | ok outcome =>
    obtain ⟨after, recorded⟩ := outcome
    rw [after_a_run_ok state after tenant selector recorded answered]
    have executed := execute_next_ok state after held.tabled tenant selector recorded answered
    obtain ⟨config, names, still⟩ := unanswerable_after state after held tenant selector unanswerable recorded executed
    have numberedAfter : Numbered after := by
      have stepped := step_numbered state held (.execute tenant selector)
      rwa [show step state (.execute tenant selector) = after from
        after_a_run_ok state after tenant selector recorded answered] at stepped
    cases again : executeNext after tenant selector with
    | error refused => rw [after_a_run_refused after tenant selector refused again]
    | ok outcome =>
      obtain ⟨last, lastRecorded⟩ := outcome
      rw [after_a_run_ok after last tenant selector lastRecorded again]
      have secondly := execute_next_ok after last numberedAfter.tabled tenant selector lastRecorded again
      have lastTabled := moves_tabled numberedAfter.tabled
        (execute_next_moves _ _ numberedAfter.tabled _ _ _ again)
      have kept := taken_kept state held.tabled tenant selector posting mem
      have consents := (completes_iff_consents _ _ _ kept).mp (executed.completes posting mem)
      have row := taken_row state tenant selector after recorded executed posting mem
      obtain ⟨rowKept, rowId⟩ := row_after_kept (whenItSelects state tenant selector) (runAuthor state) posting kept
      have stays : writeEach (whenItSelects after tenant selector) (runAuthor after)
          ((taken after tenant selector).map Posting.id)
          (rowAfter (whenItSelects state tenant selector) (runAuthor state) posting) =
            rowAfter (whenItSelects state tenant selector) (runAuthor state) posting := by
        unfold writeEach
        split
        · next inside =>
          obtain ⟨other, otherMem, same⟩ := List.mem_map.mp inside
          have otherIn := (taken_mem after tenant selector other otherMem).1
          rw [selects_at_once after tenant selector still] at otherIn
          have hit := List.inj_on_of_nodup_map numberedAfter.tabled.ids otherIn row same
          rw [hit] at otherMem
          have consentsAgain := (completes_iff_consents _ _ _ rowKept).mp (secondly.completes _ otherMem)
          have drew := execute_next_draws state after held.tabled tenant selector recorded answered
          apply a_taken_row_stays _ _ ?_ ?_ _ _ (by omega) posting kept consents consentsAgain
          · rw [selects_at_once after tenant selector still, selects_at_once state tenant selector unanswerable]
            exact config
          · rw [selects_at_once after tenant selector still, selects_at_once state tenant selector unanswerable]
            exact names
        · rfl
      have lastRow : rowAfter (whenItSelects state tenant selector) (runAuthor state) posting ∈ last.postings := by
        rw [secondly.left]
        refine List.mem_map.mpr ⟨_, ?_, stays⟩
        rw [selects_at_once after tenant selector still]
        exact row
      rw [← rowId, found_of_mem after numberedAfter.tabled _ row, found_of_mem last lastTabled _ lastRow]

def LeavesWhatIsSettled (state : State) (tenant : Nat) (selector : RunSelector) : Prop :=
  ∀ posting ∈ state.postings, ∃ row ∈ (afterARun state tenant selector).postings, row.id = posting.id ∧ Untouched posting row

theorem a_run_leaves_what_is_settled (state : State) (held : Numbered state) (tenant : Nat) (selector : RunSelector) :
    LeavesWhatIsSettled state tenant selector := by
  intro posting mem
  cases executed : executeNext state tenant selector with
  | ok outcome =>
    rw [after_a_run_ok state outcome.1 tenant selector outcome.2 executed]
    exact moves_untouched state _ held.tabled (execute_next_moves _ _ held.tabled _ _ _ executed) posting mem
  | error refused =>
    rw [after_a_run_refused state tenant selector refused executed]
    exact ⟨posting, mem, rfl, ⟨fun _ => rfl, fun _ => rfl⟩⟩

structure ProjectsTheRun (state : State) (tenant : Nat) (selector : RunSelector) : Prop where
  projects : ∀ projection, project state tenant selector = .ok projection →
    projection.listed.Perm ((pricesResolved state (afterARun state tenant selector)).map Prod.fst) ∧
      projection.total = ((pricesResolved state (afterARun state tenant selector)).map Prod.snd).sum
  settled : LeavesWhatIsSettled state tenant selector
  again : ∀ posting ∈ taken state tenant selector,
    postingWith (afterARun (afterARun state tenant selector) tenant selector) posting.id =
      postingWith (afterARun state tenant selector) posting.id

-- Where something is listed, no posting the run could complete a section of
-- already names an earlier run.
def ListsOnlyWhatRuns (state : State) (tenant : Nat) (selector : RunSelector) : Prop :=
  (∀ posting ∈ taken state tenant selector, ∃ outcome, evaluationIn state posting = .ok outcome) →
    (∃ posting ∈ taken state tenant selector, ∃ evaluation,
      evaluationIn state posting = .ok (some evaluation) ∧ prices evaluation = true) →
    ∀ posting ∈ taken state tenant selector, ∀ evaluation, evaluationIn state posting = .ok (some evaluation) →
      (settles evaluation || prices evaluation) = true → namedByARun posting = false

theorem evaluates_at_once (state : State) (tenant : Nat) (selector : RunSelector)
    (unanswerable : NoneAnswerable state tenant selector) :
    evaluationIn (whenItSelects state tenant selector) = evaluationIn state := by
  rw [selects_at_once state tenant selector unanswerable]
  rfl

theorem unobstructed_at_once (state : State) (tenant : Nat) (selector : RunSelector)
    (unanswerable : NoneAnswerable state tenant selector) :
    Unobstructed state tenant selector ↔
      (∀ posting ∈ taken state tenant selector, ∃ outcome, evaluationIn state posting = .ok outcome) ∧
        ∀ posting ∈ taken state tenant selector, ∀ evaluation, evaluationIn state posting = .ok (some evaluation) →
          (settles evaluation || prices evaluation) = true → namedByARun posting = false := by
  unfold Unobstructed
  rw [evaluates_at_once state tenant selector unanswerable]
  constructor
  · intro unobstructed
    refine ⟨?_, ?_⟩
    · intro posting mem
      obtain ⟨outcome, asked, _⟩ := unobstructed posting mem
      exact ⟨outcome, asked⟩
    · intro posting mem evaluation asked
      obtain ⟨outcome, other, agrees⟩ := unobstructed posting mem
      cases asked.symm.trans other
      exact agrees evaluation rfl
  · rintro ⟨evaluates, agrees⟩ posting mem
    obtain ⟨outcome, asked⟩ := evaluates posting mem
    refine ⟨outcome, asked, ?_⟩
    rintro evaluation rfl
    exact agrees posting mem evaluation asked

theorem projects_at_once (state : State) (tenant : Nat) (selector : RunSelector)
    (unanswerable : NoneAnswerable state tenant selector) :
    (∃ projection, project state tenant selector = .ok projection) ↔
      ∀ posting ∈ taken state tenant selector, ∃ outcome, evaluationIn state posting = .ok outcome := by
  rw [taken_at_once state tenant selector unanswerable, ← project_each_ok state _ []]
  unfold project
  constructor
  · rintro ⟨projection, answered⟩
    obtain ⟨rows, asked, _⟩ := (bind_eq_ok _ _ _).mp answered
    exact ⟨rows, asked⟩
  · rintro ⟨rows, asked⟩
    exact ⟨_, (bind_eq_ok _ _ _).mpr ⟨rows, asked, rfl⟩⟩

theorem nothing_projected_iff (state : State) (tenant : Nat) (selector : RunSelector) :
    (taken state tenant selector).filterMap (projectedPrice state) = [] ↔
      ¬∃ posting ∈ taken state tenant selector, ∃ evaluation,
        evaluationIn state posting = .ok (some evaluation) ∧ prices evaluation = true := by
  rw [List.filterMap_eq_nil_iff]
  constructor
  · rintro none_listed ⟨posting, mem, evaluation, asked, priced⟩
    have listed := none_listed posting mem
    rw [projected_price_some state posting evaluation asked, if_pos priced, Option.map_eq_none_iff] at listed
    have sound := (evaluated _ _ _ _ asked).1.sound
    simp only [prices, Bool.and_eq_true, decide_eq_true_eq] at priced
    have present := sound.shaped.pricing.amountAgrees.mp priced.2
    rw [listed] at present
    cases present
  · intro unpriced posting mem
    cases asked : evaluationIn state posting with
    | error refused =>
      unfold evaluationIn at asked
      unfold projectedPrice whatThePriceWouldBecome
      rw [asked]
      rfl
    | ok outcome =>
      cases outcome with
      | none => exact projected_price_none state posting asked
      | some evaluation =>
        rw [projected_price_some state posting evaluation asked, if_neg]
        intro priced
        exact unpriced ⟨posting, mem, evaluation, asked, priced⟩

theorem a_projection_is_the_run_iff (ops : List Op) (tenant : Nat) (selector : RunSelector) :
    LeavesWhatIsSettled (run step noPostings ops) tenant selector ∧
      (NoneAnswerable (run step noPostings ops) tenant selector →
        (ProjectsTheRun (run step noPostings ops) tenant selector ↔
          ListsOnlyWhatRuns (run step noPostings ops) tenant selector)) := by
  have held := numbered ops
  generalize run step noPostings ops = state at held ⊢
  have settled := a_run_leaves_what_is_settled state held tenant selector
  refine ⟨settled, ?_⟩
  intro unanswerable
  have obstructs := answers_iff_unobstructed state held tenant selector
  rw [unobstructed_at_once state tenant selector unanswerable] at obstructs
  constructor
  · rintro ⟨projects, _, _⟩ evaluates listed
    obtain ⟨projection, answered⟩ := (projects_at_once state tenant selector unanswerable).mpr evaluates
    cases executed : executeNext state tenant selector with
    | ok outcome => exact (obstructs.mp ⟨outcome.1, outcome.2, executed⟩).2
    | error refused =>
      exfalso
      have ids := (projects projection answered).1
      rw [after_a_run_refused state tenant selector refused executed, nothing_resolved state held.tabled] at ids
      have lists := (project_lists state tenant selector projection answered).1
      rw [← taken_at_once state tenant selector unanswerable] at lists
      have empty := List.map_eq_nil_iff.mp (List.perm_nil.mp (lists.symm.trans ids))
      exact (nothing_projected_iff state tenant selector).mp empty listed
  · intro agrees
    refine ⟨?_, settled, a_second_run_is_idle state held tenant selector unanswerable⟩
    · intro projection answered
      obtain ⟨ids, total⟩ := project_lists state tenant selector projection answered
      rw [← taken_at_once state tenant selector unanswerable] at ids total
      have same : (pricesResolved state (afterARun state tenant selector)).Perm
          ((taken state tenant selector).filterMap (projectedPrice state)) := by
        cases executed : executeNext state tenant selector with
        | ok outcome =>
          rw [after_a_run_ok state outcome.1 tenant selector outcome.2 executed]
          exact executed_resolves state _ held tenant selector unanswerable outcome.2 executed
        | error refused =>
          rw [after_a_run_refused state tenant selector refused executed, nothing_resolved state held.tabled,
            (nothing_projected_iff state tenant selector).mpr]
          intro listed
          have evaluates := (projects_at_once state tenant selector unanswerable).mp ⟨projection, answered⟩
          obtain ⟨after, recorded, other⟩ := obstructs.mpr ⟨evaluates, agrees evaluates listed⟩
          cases executed.symm.trans other
      exact ⟨ids.trans (same.map Prod.fst).symm, total.trans (same.map Prod.snd).sum_eq.symm⟩

theorem both_calls_answered : NoneAnswerable (run step noPostings aCostThenAPrice) 1 everything := by
  unfold NoneAnswerable
  decide +kernel

theorem two_calls_projected_or_not :
    NoneAnswerable (run step noPostings aCostThenAPrice) 1 everything ∧
      (ProjectsTheRun (run step noPostings aCostThenAPrice) 1 everything ↔
        ListsOnlyWhatRuns (run step noPostings aCostThenAPrice) 1 everything) :=
  ⟨both_calls_answered, (a_projection_is_the_run_iff aCostThenAPrice 1 everything).2 both_calls_answered⟩

-- The projection lists both calls; the run is refused and resolves neither.
theorem projected_and_never_resolved :
    NoneAnswerable (run step noPostings aCostThenAPrice) 1 everything ∧
      ((project (run step noPostings aCostThenAPrice) 1 everything).toOption.map Projection.total) = some 1100000 ∧
      pricesResolved (run step noPostings aCostThenAPrice)
        (afterARun (run step noPostings aCostThenAPrice) 1 everything) = [] ∧
      ¬ProjectsTheRun (run step noPostings aCostThenAPrice) 1 everything := by
  have totals : (project (run step noPostings aCostThenAPrice) 1 everything).toOption.map Projection.total =
      some 1100000 := by decide +kernel
  have resolves : pricesResolved (run step noPostings aCostThenAPrice)
      (afterARun (run step noPostings aCostThenAPrice) 1 everything) = [] := by decide +kernel
  refine ⟨both_calls_answered, totals, resolves, ?_⟩
  rintro ⟨projects, _, _⟩
  cases answered : project (run step noPostings aCostThenAPrice) 1 everything with
  | error refused =>
    rw [answered] at totals
    cases totals
  | ok projection =>
    rw [answered] at totals
    have nothing := (projects projection answered).2
    rw [resolves] at nothing
    have listed := Option.some.inj totals
    rw [nothing] at listed
    cases listed

end Ubb.Resolving
