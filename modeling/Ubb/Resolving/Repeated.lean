import Ubb.Library.Runs
import Ubb.Resolving.Backlog

set_option autoImplicit false

-- A bounded run repeated while it reports more to do: the oldest two hundred
-- each time, with no cursor.
namespace Ubb.Resolving

open Library Pricing
open Work (CostingStatus PricingStatus PricingMode)

def relabelled (nextId : Nat) (runs : List RunRecord) (state : State) : State :=
  { state with
    nextId := nextId
    runs := runs }

@[simp] theorem relabelled_config (nextId : Nat) (runs : List RunRecord) (state : State) :
    (relabelled nextId runs state).config = state.config := rfl

@[simp] theorem relabelled_postings (nextId : Nat) (runs : List RunRecord) (state : State) :
    (relabelled nextId runs state).postings = state.postings := rfl

@[simp] theorem relabelled_held_names (nextId : Nat) (runs : List RunRecord) (state : State) :
    (relabelled nextId runs state).heldNames = state.heldNames := rfl

theorem complete_relabelled (nextId : Nat) (runs : List RunRecord) (state after : State) (postingId : Nat)
    (author : Author) (completion : Completion)
    (answered : complete state postingId author = .ok (after, completion)) :
    complete (relabelled nextId runs state) postingId author = .ok (relabelled nextId runs after, completion) := by
  unfold complete at answered ⊢
  have same : postingWith (relabelled nextId runs state) postingId = postingWith state postingId := rfl
  rw [same]
  cases found : postingWith state postingId with
  | none =>
    rw [found] at answered
    cases answered
  | some posting =>
    rw [found] at answered
    obtain ⟨⟨row, done⟩, completed, left⟩ := (bind_eq_ok _ _ _).mp answered
    cases left
    exact (bind_eq_ok _ _ _).mpr ⟨(row, completion), completed, rfl⟩

theorem replay_relabelled (nextId : Nat) (runs : List RunRecord) (state after : State) (replay : Replay)
    (answered : replayTheHeldEvent state replay = .ok after) :
    ∃ other, replayTheHeldEvent (relabelled nextId runs state) replay = .ok other := by
  unfold replayTheHeldEvent at answered ⊢
  rw [relabelled_postings]
  split at answered
  · cases answered
  · obtain ⟨_, instant, rest⟩ := (bind_eq_ok _ _ _).mp answered
    obtain ⟨_, supplier, more⟩ := (bind_eq_ok _ _ _).mp rest
    obtain ⟨⟨middle, completion⟩, completed, _⟩ := (bind_eq_ok _ _ _).mp more
    have again := complete_relabelled nextId runs state middle _ _ _ completed
    simp only [relabelled_config, relabelled_held_names, instant, again, ok_bind]
    split
    · exact ⟨_, (bind_eq_ok _ _ _).mpr ⟨_, supplier, rfl⟩⟩
    · split
      · exact ⟨_, (bind_eq_ok _ _ _).mpr ⟨_, supplier, rfl⟩⟩
      · exact ⟨_, (bind_eq_ok _ _ _).mpr ⟨_, supplier, rfl⟩⟩

theorem register_relabelled (nextId : Nat) (runs : List RunRecord) (state after : State) (heldId : Nat)
    (declaration : Declaration) (answered : registerTheHeldName state heldId declaration = .ok after) :
    ∃ other, registerTheHeldName (relabelled nextId runs state) heldId declaration = .ok other := by
  unfold registerTheHeldName at answered ⊢
  have same : heldNameWith (relabelled nextId runs state) heldId = heldNameWith state heldId := rfl
  rw [same]
  split at answered
  · cases answered
  · obtain ⟨declaredKey, target, rest⟩ := (bind_eq_ok _ _ _).mp answered
    obtain ⟨_, agrees, more⟩ := (bind_eq_ok _ _ _).mp rest
    simp only [relabelled_config, target, agrees, ok_bind]
    exact replay_relabelled nextId runs _ after _ more

def AnswersSome (state : State) (tenant : Nat) (selector : RunSelector) : Prop :=
  ∃ held ∈ undecidedNames state tenant (eventTypeKeyOf selector), ∃ declaration,
    theDeclarationFor state.config held = some declaration ∧
      ∃ after, registerTheHeldName state held.id declaration = .ok after

theorem answers_some_relabelled (nextId : Nat) (runs : List RunRecord) (state : State) (tenant : Nat)
    (selector : RunSelector) :
    AnswersSome (relabelled nextId runs state) tenant selector ↔ AnswersSome state tenant selector := by
  constructor
  · rintro ⟨held, mem, declaration, declares, after, answered⟩
    exact ⟨held, mem, declaration, declares,
      register_relabelled state.nextId state.runs (relabelled nextId runs state) after held.id declaration answered⟩
  · rintro ⟨held, mem, declaration, declares, after, answered⟩
    exact ⟨held, mem, declaration, declares, register_relabelled nextId runs state after held.id declaration answered⟩

theorem changes_iff_answers (state : State) (tabled : Tabled state)
    (named : ∀ held ∈ state.heldNames, NamesItsQuantity held) (held : HeldName) :
    answerOne state held ≠ state ↔ ∃ declaration, theDeclarationFor state.config held = some declaration ∧
      ∃ after, registerTheHeldName state held.id declaration = .ok after := by
  unfold answerOne
  cases declares : theDeclarationFor state.config held with
  | none => simp
  | some declaration =>
    dsimp only
    cases answered : registerTheHeldName state held.id declaration with
    | error refused => simp [keepOnRefusal, answered]
    | ok after =>
      have lower := register_lowers state after tabled named held.id declaration answered
      constructor
      · exact fun _ => ⟨declaration, rfl, after, answered⟩
      · rintro _ same
        have equal : after = state := same
        rw [equal] at lower
        exact lt_irrefl _ lower

section

variable (state : State) (held : Worked state) (tenant : Nat) (selector : RunSelector)

include held

theorem selecting_lowers :
    leftToDo (whenItSelects state tenant selector) ≤ leftToDo state ∧
      (AnswersSome state tenant selector → leftToDo (whenItSelects state tenant selector) < leftToDo state) := by
  have tabled := drawing_tabled state held.numbered.tabled
  obtain ⟨atMost, strictly⟩ := answers_lower (undecidedNames { state with nextId := state.nextId + 1 } tenant
    (eventTypeKeyOf selector)) { state with nextId := state.nextId + 1 } tabled held.named
  refine ⟨atMost, ?_⟩
  intro answers
  obtain ⟨name, mem, changes⟩ := (answers_some_relabelled (state.nextId + 1) state.runs state tenant selector).mpr
    answers
  exact strictly ⟨name, mem, (changes_iff_answers { state with nextId := state.nextId + 1 } tabled held.named
    name).mpr changes⟩

theorem selects_unanswered (unanswered : ¬AnswersSome state tenant selector) :
    whenItSelects state tenant selector = relabelled (state.nextId + 1) state.runs state := by
  have idle : ∀ names : List HeldName, (∀ name ∈ names,
      answerOne { state with nextId := state.nextId + 1 } name = { state with nextId := state.nextId + 1 }) →
      names.foldl answerOne { state with nextId := state.nextId + 1 } = { state with nextId := state.nextId + 1 } := by
    intro names each
    induction names with
    | nil => rfl
    | cons first rest ih =>
      rw [List.foldl_cons, each first List.mem_cons_self]
      exact ih (fun name mem => each name (List.mem_cons_of_mem first mem))
  apply idle
  intro name mem
  by_contra changes
  apply unanswered
  apply (answers_some_relabelled (state.nextId + 1) state.runs state tenant selector).mp
  have tabled := drawing_tabled state held.numbered.tabled
  obtain ⟨declaration, declares, after, answered⟩ :=
    (changes_iff_answers { state with nextId := state.nextId + 1 } tabled held.named name).mp changes
  exact ⟨name, mem, declaration, declares, after, answered⟩

end

def canComplete (state : State) (posting : Posting) : Bool :=
  match evaluationIn state posting with
  | .ok (some evaluation) => settles evaluation || prices evaluation
  | _ => false

def Advances (state : State) (tenant : Nat) (selector : RunSelector) : Prop :=
  AnswersSome state tenant selector ∨
    ∃ posting ∈ taken state tenant selector, canComplete (whenItSelects state tenant selector) posting = true

def GoesOn (state : State) (tenant : Nat) (selector : RunSelector) : Prop :=
  maximumPostingsPerRun < (selected state tenant selector).length

instance (state : State) (tenant : Nat) (selector : RunSelector) : Decidable (GoesOn state tenant selector) :=
  inferInstanceAs (Decidable (_ < _))

section

variable (state : State) (held : Worked state) (tenant : Nat) (selector : RunSelector)

include held

theorem taken_consents (after : State) (recorded : RunRecord)
    (executed : Executed state tenant selector after recorded) (posting : Posting)
    (mem : posting ∈ taken state tenant selector) :
    Consents (whenItSelects state tenant selector) (runAuthor state) posting :=
  (completes_iff_consents _ _ _ (taken_kept state held.numbered.tabled tenant selector posting mem)).mp
    (executed.completes posting mem)

theorem row_after_left (after : State) (recorded : RunRecord)
    (executed : Executed state tenant selector after recorded) (posting : Posting)
    (mem : posting ∈ taken state tenant selector) :
    sectionsLeft (rowAfter (whenItSelects state tenant selector) (runAuthor state) posting) ≤ sectionsLeft posting ∧
      (canComplete (whenItSelects state tenant selector) posting = true →
        sectionsLeft (rowAfter (whenItSelects state tenant selector) (runAuthor state) posting) <
          sectionsLeft posting) ∧
      (canComplete (whenItSelects state tenant selector) posting = false →
        rowAfter (whenItSelects state tenant selector) (runAuthor state) posting = posting) := by
  have kept := taken_kept state held.numbered.tabled tenant selector posting mem
  have consents := taken_consents state held tenant selector after recorded executed posting mem
  have answered := consents
  obtain ⟨outcome, asked, _⟩ := answered
  unfold canComplete
  cases outcome with
  | none =>
    rw [row_after_none _ _ posting asked, asked]
    exact ⟨le_refl _, by simp, fun _ => rfl⟩
  | some evaluation =>
    rw [row_after_some _ _ posting kept evaluation asked consents, asked]
    dsimp only
    have counted := completed_left posting evaluation (evaluated _ _ _ _ asked).1 (runAuthor state)
    refine ⟨by omega, ?_, completed_idle posting evaluation (runAuthor state)⟩
    intro writes
    rcases Bool.or_eq_true_iff.mp writes with settled | priced
    · rw [settled] at counted
      simp only [Bool.toNat_true] at counted
      omega
    · rw [priced] at counted
      simp only [Bool.toNat_true] at counted
      omega

theorem write_each_left (posting : Posting)
    (mem : posting ∈ (whenItSelects state tenant selector).postings) :
    writeEach (whenItSelects state tenant selector) (runAuthor state)
        ((taken state tenant selector).map Posting.id) posting = posting ∨
      (posting ∈ taken state tenant selector ∧
        writeEach (whenItSelects state tenant selector) (runAuthor state)
          ((taken state tenant selector).map Posting.id) posting =
            rowAfter (whenItSelects state tenant selector) (runAuthor state) posting) := by
  unfold writeEach
  split
  · next inside =>
    obtain ⟨other, otherMem, same⟩ := List.mem_map.mp inside
    have tabled := when_it_selects_tabled state held.numbered.tabled tenant selector
    have hit : other = posting :=
      List.inj_on_of_nodup_map tabled.ids (taken_mem state tenant selector other otherMem).1 mem same
    exact Or.inr ⟨hit ▸ otherMem, rfl⟩
  · exact Or.inl rfl

theorem a_run_lowers (after : State) (recorded : RunRecord)
    (answered : executeNext state tenant selector = .ok (after, recorded))
    (advances : Advances state tenant selector) : leftToDo after < leftToDo state := by
  have executed := execute_next_ok state after held.numbered.tabled tenant selector recorded answered
  obtain ⟨selecting, strictly⟩ := selecting_lowers state held tenant selector
  have names : after.heldNames = (whenItSelects state tenant selector).heldNames := by
    rw [executed.left]
    rfl
  have rows : after.postings = (whenItSelects state tenant selector).postings.map
      (writeEach (whenItSelects state tenant selector) (runAuthor state)
        ((taken state tenant selector).map Posting.id)) := by
    rw [executed.left]
    rfl
  have each : ∀ posting ∈ (whenItSelects state tenant selector).postings,
      sectionsLeft (writeEach (whenItSelects state tenant selector) (runAuthor state)
        ((taken state tenant selector).map Posting.id) posting) ≤ sectionsLeft posting := by
    intro posting mem
    rcases write_each_left state held tenant selector posting mem with same | ⟨inside, row⟩
    · rw [same]
    · rw [row]
      exact (row_after_left state held tenant selector after recorded executed posting inside).1
  have atMost : sectionsLeftOf after.postings ≤ sectionsLeftOf (whenItSelects state tenant selector).postings := by
    unfold sectionsLeftOf
    rw [rows, List.map_map]
    exact List.sum_le_sum each
  rcases advances with answers | ⟨posting, mem, completes⟩
  · exact (left_to_do_le _ after (by rw [names]) (by rw [names]) atMost).trans_lt (strictly answers)
  · refine lt_of_lt_of_le (left_to_do_lt (whenItSelects state tenant selector) after ?_) selecting
    rw [names]
    refine Or.inr ⟨le_refl _, Or.inr ⟨le_refl _, ?_⟩⟩
    have inside := (taken_mem state tenant selector posting mem).1
    have lower := (row_after_left state held tenant selector after recorded executed posting mem).2.1 completes
    unfold sectionsLeftOf
    rw [rows, List.map_map]
    refine List.sum_lt_sum _ _ each ⟨posting, inside, ?_⟩
    rw [Function.comp_apply]
    unfold writeEach
    rw [if_pos (List.mem_map_of_mem mem)]
    exact lower

theorem a_stuck_run_changes_nothing (stuck : ¬Advances state tenant selector) :
    ∃ nextId runs, afterARun state tenant selector = relabelled nextId runs state := by
  cases answered : executeNext state tenant selector with
  | error refused =>
    exact ⟨state.nextId, state.runs, after_a_run_refused state tenant selector refused answered⟩
  | ok outcome =>
    obtain ⟨after, recorded⟩ := outcome
    have executed := execute_next_ok state after held.numbered.tabled tenant selector recorded answered
    have unanswered : ¬AnswersSome state tenant selector := fun answers => stuck (Or.inl answers)
    have selects := selects_unanswered state held tenant selector unanswered
    have untouched : (whenItSelects state tenant selector).postings.map
        (writeEach (whenItSelects state tenant selector) (runAuthor state)
          ((taken state tenant selector).map Posting.id)) = state.postings := by
      have postings : (whenItSelects state tenant selector).postings = state.postings := by rw [selects]; rfl
      conv_rhs => rw [← postings, ← List.map_id (whenItSelects state tenant selector).postings]
      apply List.map_congr_left
      intro posting mem
      rcases write_each_left state held tenant selector posting mem with same | ⟨inside, row⟩
      · exact same
      · rw [row]
        apply (row_after_left state held tenant selector after recorded executed posting inside).2.2
        by_contra completes
        exact stuck (Or.inr ⟨posting, inside, by simpa using completes⟩)
    refine ⟨(whenItSelects state tenant selector).nextId,
      (whenItSelects state tenant selector).runs ++ [recorded], ?_⟩
    rw [after_a_run_ok state after tenant selector recorded answered, executed.left]
    unfold completedEach
    rw [untouched, selects]
    rfl

theorem stuck_relabelled (nextId : Nat) (runs : List RunRecord) (relabelledHeld : Worked (relabelled nextId runs state))
    (stuck : ¬Advances state tenant selector) :
    ¬Advances (relabelled nextId runs state) tenant selector ∧
      selected (relabelled nextId runs state) tenant selector = selected state tenant selector := by
  have unanswered : ¬AnswersSome state tenant selector := fun answers => stuck (Or.inl answers)
  have still : ¬AnswersSome (relabelled nextId runs state) tenant selector :=
    fun answers => unanswered ((answers_some_relabelled nextId runs state tenant selector).mp answers)
  have once := selects_unanswered state held tenant selector unanswered
  have again := selects_unanswered (relabelled nextId runs state) relabelledHeld tenant selector still
  have same : selected (relabelled nextId runs state) tenant selector = selected state tenant selector := by
    unfold selected
    rw [once, again]
    rfl
  refine ⟨?_, same⟩
  rintro (answers | ⟨posting, mem, completes⟩)
  · exact still answers
  · apply stuck
    refine Or.inr ⟨posting, ?_, ?_⟩
    · unfold taken at mem ⊢
      rw [← same]
      exact mem
    · rw [again] at completes
      rw [once]
      exact completes

end

def afterRuns (state : State) (tenant : Nat) (selector : RunSelector) (runs : Nat) : State :=
  (fun reached => afterARun reached tenant selector)^[runs] state

theorem after_runs_succ (state : State) (tenant : Nat) (selector : RunSelector) (runs : Nat) :
    afterRuns state tenant selector (runs + 1) = afterARun (afterRuns state tenant selector runs) tenant selector :=
  Function.iterate_succ_apply' _ _ _

theorem after_runs_worked (state : State) (held : Worked state) (tenant : Nat) (selector : RunSelector) (runs : Nat) :
    Worked (afterRuns state tenant selector runs) := by
  induction runs with
  | zero => exact held
  | succ runs ih =>
    rw [after_runs_succ]
    exact step_worked _ ih (.execute tenant selector)

def Reports (state : State) (tenant : Nat) (selector : RunSelector) (moreToDo : Bool) : Prop :=
  ∃ after recorded, executeNext state tenant selector = .ok (after, recorded) ∧ recorded.moreToDo = moreToDo

def LeavesOnAnAnswer (state : State) (tenant : Nat) (selector : RunSelector) (postingId : Nat) : Prop :=
  (∃ row ∈ state.postings, row.id = postingId ∧ isCandidate tenant selector row = true) ∧
    ∃ row ∈ (whenItSelects state tenant selector).postings,
      row.id = postingId ∧ isCandidate tenant selector row = false

structure ReachesEverything (state : State) (tenant : Nat) (selector : RunSelector) (last : Nat) : Prop where
  goesOn : ∀ k < last, Reports (afterRuns state tenant selector k) tenant selector true
  stops : Reports (afterRuns state tenant selector last) tenant selector false
  examines : ∀ posting ∈ candidates state.postings tenant selector, ∃ k ≤ last,
    posting.id ∈ (taken (afterRuns state tenant selector k) tenant selector).map Posting.id ∨
      LeavesOnAnAnswer (afterRuns state tenant selector k) tenant selector posting.id
  delivers : ∀ k ≤ last, RunDelivers (afterRuns state tenant selector k) tenant selector

def NeverStuck (state : State) (tenant : Nat) (selector : RunSelector) : Prop :=
  ∀ k, (∀ i < k, GoesOn (afterRuns state tenant selector i) tenant selector) →
    Unobstructed (afterRuns state tenant selector k) tenant selector ∧
      (GoesOn (afterRuns state tenant selector k) tenant selector →
        Advances (afterRuns state tenant selector k) tenant selector)

theorem reports_of_answer (state : State) (held : Worked state) (tenant : Nat) (selector : RunSelector)
    (unobstructed : Unobstructed state tenant selector) :
    (GoesOn state tenant selector → Reports state tenant selector true) ∧
      (¬GoesOn state tenant selector → Reports state tenant selector false) := by
  obtain ⟨after, recorded, answered⟩ := (answers_iff_unobstructed state held.numbered tenant selector).mpr unobstructed
  have more := (execute_next_ok state after held.numbered.tabled tenant selector recorded answered).moreToDo
  refine ⟨?_, ?_⟩
  · intro goes
    exact ⟨after, recorded, answered, more.trans (decide_eq_true goes)⟩
  · intro ends
    exact ⟨after, recorded, answered, more.trans (decide_eq_false ends)⟩

theorem goes_on_of_report (state : State) (held : Worked state) (tenant : Nat) (selector : RunSelector)
    (moreToDo : Bool) (reports : Reports state tenant selector moreToDo) :
    Unobstructed state tenant selector ∧ moreToDo = decide (GoesOn state tenant selector) := by
  obtain ⟨after, recorded, answered, same⟩ := reports
  refine ⟨(answers_iff_unobstructed state held.numbered tenant selector).mp ⟨after, recorded, answered⟩, ?_⟩
  rw [← same]
  exact (execute_next_ok state after held.numbered.tabled tenant selector recorded answered).moreToDo

theorem candidate_moves_on (state : State) (held : Worked state) (tenant : Nat) (selector : RunSelector)
    (unobstructed : Unobstructed state tenant selector) (postingId : Nat)
    (row : Posting) (mem : row ∈ state.postings) (same : row.id = postingId)
    (candidate : isCandidate tenant selector row = true) :
    postingId ∈ (taken state tenant selector).map Posting.id ∨ LeavesOnAnAnswer state tenant selector postingId ∨
      (GoesOn state tenant selector ∧ ∃ next ∈ (afterARun state tenant selector).postings,
        next.id = postingId ∧ isCandidate tenant selector next = true) := by
  obtain ⟨after, recorded, answered⟩ := (answers_iff_unobstructed state held.numbered tenant selector).mpr unobstructed
  have executed := execute_next_ok state after held.numbered.tabled tenant selector recorded answered
  obtain ⟨chosen, chosenMem, chosenId, _⟩ := moves_untouched state _ held.numbered.tabled
    (when_it_selects_moves state held.numbered.tabled tenant selector) row mem
  by_cases stays : isCandidate tenant selector chosen = true
  · by_cases inside : postingId ∈ (taken state tenant selector).map Posting.id
    · exact Or.inl inside
    · refine Or.inr (Or.inr ⟨?_, chosen, ?_, chosenId.trans same, stays⟩)
      · by_contra ends
        apply inside
        unfold GoesOn at ends
        have everything : taken state tenant selector = selected state tenant selector :=
          List.take_of_length_le (Nat.not_lt.mp ends)
        rw [everything, ← same, ← chosenId]
        exact List.mem_map_of_mem ((mem_candidates _ _ _ _).mpr ⟨chosenMem, stays⟩)
      · rw [after_a_run_ok state after tenant selector recorded answered, executed.left]
        refine List.mem_map.mpr ⟨chosen, chosenMem, ?_⟩
        unfold writeEach
        rw [if_neg (by rw [chosenId, same]; exact inside)]
  · exact Or.inr (Or.inl ⟨⟨row, mem, same, candidate⟩, chosen, chosenMem, chosenId.trans same, by simpa using stays⟩)

theorem loop_examines (state : State) (held : Worked state) (tenant : Nat) (selector : RunSelector) (last : Nat)
    (unobstructed : ∀ k ≤ last, Unobstructed (afterRuns state tenant selector k) tenant selector)
    (ends : ¬GoesOn (afterRuns state tenant selector last) tenant selector) (postingId : Nat)
    (remaining k : Nat) (reached : k + remaining = last) (row : Posting)
    (mem : row ∈ (afterRuns state tenant selector k).postings) (same : row.id = postingId)
    (candidate : isCandidate tenant selector row = true) :
    ∃ i ≤ last, postingId ∈ (taken (afterRuns state tenant selector i) tenant selector).map Posting.id ∨
      LeavesOnAnAnswer (afterRuns state tenant selector i) tenant selector postingId := by
  induction remaining generalizing k row with
  | zero =>
    have here : k = last := reached
    rcases candidate_moves_on _ (after_runs_worked state held tenant selector k) tenant selector
      (unobstructed k (by omega)) postingId row mem same candidate with taken | leaves | ⟨goes, _⟩
    · exact ⟨k, by omega, Or.inl taken⟩
    · exact ⟨k, by omega, Or.inr leaves⟩
    · rw [here] at goes
      exact absurd goes ends
  | succ remaining ih =>
    rcases candidate_moves_on _ (after_runs_worked state held tenant selector k) tenant selector
      (unobstructed k (by omega)) postingId row mem same candidate with taken | leaves | ⟨_, next, nextMem, nextId,
        stays⟩
    · exact ⟨k, by omega, Or.inl taken⟩
    · exact ⟨k, by omega, Or.inr leaves⟩
    · exact ih (k + 1) (by omega) next (by rw [after_runs_succ]; exact nextMem) nextId stays

theorem stuck_forever (state : State) (held : Worked state) (tenant : Nat) (selector : RunSelector)
    (goes : GoesOn state tenant selector) (stuck : ¬Advances state tenant selector) (k : Nat) :
    GoesOn (afterRuns state tenant selector k) tenant selector ∧
      ¬Advances (afterRuns state tenant selector k) tenant selector := by
  induction k with
  | zero => exact ⟨goes, stuck⟩
  | succ k ih =>
    obtain ⟨goesOn, stays⟩ := ih
    have reached := after_runs_worked state held tenant selector k
    have next := after_runs_worked state held tenant selector (k + 1)
    obtain ⟨nextId, runs, same⟩ := a_stuck_run_changes_nothing _ reached tenant selector stays
    rw [after_runs_succ, same] at next ⊢
    obtain ⟨still, selects⟩ := stuck_relabelled _ reached tenant selector nextId runs next stays
    refine ⟨?_, still⟩
    unfold GoesOn
    rw [selects]
    exact goesOn

theorem after_runs_add (state : State) (tenant : Nat) (selector : RunSelector) (first more : Nat) :
    afterRuns (afterRuns state tenant selector first) tenant selector more =
      afterRuns state tenant selector (more + first) :=
  (Function.iterate_add_apply _ more first state).symm

theorem never_stuck_reaches (state : State) (held : Worked state) (tenant : Nat) (selector : RunSelector)
    (free : NeverStuck state tenant selector) : ∃ last, ReachesEverything state tenant selector last := by
  obtain ⟨last, goes, ends⟩ := loop_stops (fun reached => afterARun reached tenant selector) leftToDo
    (fun reached => GoesOn reached tenant selector) state (by
      intro k going
      obtain ⟨unobstructed, advances⟩ := free k (fun i before => going i before.le)
      have reached := after_runs_worked state held tenant selector k
      obtain ⟨after, recorded, answered⟩ := (answers_iff_unobstructed _ reached.numbered tenant selector).mpr unobstructed
      have lower := a_run_lowers _ reached tenant selector after recorded answered (advances (going k (le_refl k)))
      rw [Function.iterate_succ_apply']
      show leftToDo (afterARun (afterRuns state tenant selector k) tenant selector) < _
      rw [after_a_run_ok _ after tenant selector recorded answered]
      exact lower)
  have unobstructed : ∀ k ≤ last, Unobstructed (afterRuns state tenant selector k) tenant selector :=
    fun k atMost => (free k (fun i before => goes i (lt_of_lt_of_le before atMost))).1
  refine ⟨last, ?_, ?_, ?_, ?_⟩
  · intro k before
    exact (reports_of_answer _ (after_runs_worked state held tenant selector k) tenant selector
      (unobstructed k before.le)).1 (goes k before)
  · exact (reports_of_answer _ (after_runs_worked state held tenant selector last) tenant selector
      (unobstructed last (le_refl last))).2 ends
  · intro posting mem
    obtain ⟨inside, candidate⟩ := (mem_candidates _ _ _ _).mp mem
    exact loop_examines state held tenant selector last unobstructed ends posting.id last 0 (by omega) posting inside
      rfl candidate
  · intro k atMost
    exact (delivers_iff_unobstructed _ (after_runs_worked state held tenant selector k).numbered tenant selector).mpr
      (unobstructed k atMost)

theorem reaches_never_stuck (state : State) (held : Worked state) (tenant : Nat) (selector : RunSelector) (last : Nat)
    (reaches : ReachesEverything state tenant selector last) : NeverStuck state tenant selector := by
  have endsThere : ¬GoesOn (afterRuns state tenant selector last) tenant selector := by
    have same := (goes_on_of_report _ (after_runs_worked state held tenant selector last) tenant selector false
      reaches.stops).2
    exact of_decide_eq_false same.symm
  intro k goes
  have within : k ≤ last := by
    by_contra beyond
    exact endsThere (goes last (by omega))
  refine ⟨(delivers_iff_unobstructed _ (after_runs_worked state held tenant selector k).numbered tenant selector).mp
    (reaches.delivers k within), ?_⟩
  intro goesOn
  by_contra stuck
  have forever := (stuck_forever _ (after_runs_worked state held tenant selector k) tenant selector goesOn stuck
    (last - k)).1
  rw [after_runs_add, Nat.sub_add_cancel within] at forever
  exact endsThere forever

theorem repeating_reaches_everything_iff (ops : List Op) (tenant : Nat) (selector : RunSelector) :
    (∃ last, ReachesEverything (run step noPostings ops) tenant selector last) ↔
      NeverStuck (run step noPostings ops) tenant selector := by
  constructor
  · rintro ⟨last, reaches⟩
    exact reaches_never_stuck _ (worked ops) tenant selector last reaches
  · exact never_stuck_reaches _ (worked ops) tenant selector

-- Two hundred calls whose supplier's report never came, and one whose caller
-- stated its cost and whose price waited for the tenant's markup.
def twoHundredThenOne : List Op :=
  .configure (publishedAs .reported []) :: (List.replicate 200 (.record (callOf none)) ++
    [.record (callOf (some 1000000)), .configure (publishedAs .reported [⟨1, 1, 10000000⟩])])

theorem the_one_is_never_reached :
    (run step noPostings twoHundredThenOne).postings.any
        (canComplete (run step noPostings twoHundredThenOne)) = true ∧
      ¬∃ last, ReachesEverything (run step noPostings twoHundredThenOne) 1 everything last := by
  have goes : GoesOn (run step noPostings twoHundredThenOne) 1 everything := by decide +kernel
  have unnamed : undecidedNames (run step noPostings twoHundredThenOne) 1 (eventTypeKeyOf everything) = [] := by
    decide +kernel
  have unable : (taken (run step noPostings twoHundredThenOne) 1 everything).any
      (canComplete (whenItSelects (run step noPostings twoHundredThenOne) 1 everything)) = false := by
    decide +kernel
  have stuck : ¬Advances (run step noPostings twoHundredThenOne) 1 everything := by
    rintro (⟨held, mem, _⟩ | ⟨posting, mem, completes⟩)
    · rw [unnamed] at mem
      cases mem
    · have able := List.any_eq_true.mpr ⟨posting, mem, completes⟩
      rw [unable] at able
      cases able
  refine ⟨by decide +kernel, ?_⟩
  rintro ⟨last, reaches⟩
  have reached := after_runs_worked _ (worked twoHundredThenOne) 1 everything last
  have still := (stuck_forever _ (worked twoHundredThenOne) 1 everything goes stuck last).1
  have ends := (goes_on_of_report _ reached 1 everything false reaches.stops).2
  exact of_decide_eq_false ends.symm still

end Ubb.Resolving
