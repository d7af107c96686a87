import Ubb.Resolving.TwoRuns

set_option autoImplicit false

-- What each act does to the held names, and what is left to do: the names
-- nobody decided and the sections nobody completed.
namespace Ubb.Resolving

open Library Pricing
open Work (CostingStatus PricingStatus PricingMode)

theorem undeclared_named (config : Configuration) (subject : PricingSubject) (asOf : Int) (receipt : Receipt)
    (answered : resolvePrice config subject asOf = .ok receipt) (entry : String × String)
    (mem : entry ∈ receipt.costing.detail.undeclaredQuantities) : entry.1 ≠ "" := by
  obtain ⟨bag, _, computed⟩ := resolve_price_ok config subject asOf receipt answered
  obtain ⟨cost, price, costed, _, _, costing, _⟩ := compute_ok _ receipt computed
  have undeclared : entry ∈ cost.undeclared := by
    rw [costing] at mem
    exact mem
  by_cases bagged : (questionOf config subject asOf bag).costsItsBag
  · rw [cost_of_bag _ bagged] at costed
    obtain ⟨_, same, _⟩ := calculated_cost_law _ _ _ _ costed
    rw [same] at undeclared
    have unmatched : isUndeclared _ entry.1 = true := (List.mem_filter.mp undeclared).2
    intro empty
    unfold isUndeclared at unmatched
    simp [empty] at unmatched
  · obtain ⟨_, _, none, _⟩ := cost_outside_bag _ cost costed bagged
    rw [none] at undeclared
    cases undeclared

def NamesItsQuantity (held : HeldName) : Prop := held.unrecognised = .measurementKey → held.measurementKey ≠ ""

def ANewQuantity (held : HeldName) : Prop :=
  held.unrecognised = .measurementKey ∧ held.measurementKey ≠ "" ∧ held.resolution = .unresolved

theorem hold_quantities_names (state : State) (tenant eventId : Nat) (eventTypeKey : String) (occurredAt : Int)
    (undeclared : List (String × String)) (named : ∀ entry ∈ undeclared, entry.1 ≠ "") :
    ∃ added, (holdQuantities state tenant eventId eventTypeKey occurredAt undeclared).heldNames =
      state.heldNames ++ added ∧ ∀ held ∈ added, ANewQuantity held := by
  unfold holdQuantities
  induction undeclared generalizing state with
  | nil => exact ⟨[], by simp, by simp⟩
  | cons entry rest ih =>
    obtain ⟨added, names, each⟩ := ih (hold state tenant eventId .measurementKey eventTypeKey entry.1 occurredAt)
      (fun other mem => named other (List.mem_cons_of_mem entry mem))
    refine ⟨⟨state.nextId, tenant, eventId, .measurementKey, eventTypeKey, entry.1, occurredAt, .unresolved, ""⟩ ::
      added, ?_, ?_⟩
    · rw [List.foldl_cons, names]
      simp [hold]
    · intro held mem
      rcases List.mem_cons.mp mem with rfl | later
      · exact ⟨rfl, named entry List.mem_cons_self, rfl⟩
      · exact each held later

theorem complete_names (state after : State) (tabled : Tabled state) (postingId : Nat) (author : Author)
    (completion : Completion) (answered : complete state postingId author = .ok (after, completion)) :
    after.heldNames = state.heldNames ∧ ∀ evaluation, completion.evaluation = some evaluation →
      ∀ entry ∈ evaluation.resolved.costing.detail.undeclaredQuantities, entry.1 ≠ "" := by
  obtain ⟨posting, row, found, completed, rfl⟩ := complete_ok state after tabled postingId author completion answered
  refine ⟨rfl, ?_⟩
  have kept := tabled.kept posting (posting_with_mem state postingId posting found).1
  rcases complete_posting_ok _ _ _ _ _ _ kept completed with ⟨_, _, rfl⟩ | ⟨evaluation, asked, _, rfl, _⟩
  · simp
  · rintro _ ⟨rfl⟩ entry mem
    obtain ⟨_, subject, _, priced⟩ := evaluated _ _ _ _ asked
    exact undeclared_named _ _ _ _ priced entry mem

theorem replay_names (state after : State) (tabled : Tabled state) (replay : Replay)
    (answered : replayTheHeldEvent state replay = .ok after) :
    ∃ added, after.heldNames = state.heldNames ++ added ∧ (∀ held ∈ added, ANewQuantity held) ∧
      (replay.measurementKey ≠ "" → added = []) := by
  unfold replayTheHeldEvent at answered
  split at answered
  · cases answered
  · obtain ⟨_, _, rest⟩ := (bind_eq_ok _ _ _).mp answered
    obtain ⟨_, _, more⟩ := (bind_eq_ok _ _ _).mp rest
    obtain ⟨⟨middle, completion⟩, completed, last⟩ := (bind_eq_ok _ _ _).mp more
    obtain ⟨names, named⟩ := complete_names state middle tabled _ _ _ completed
    dsimp only at last
    split at last
    · cases last
      exact ⟨[], by simp [names], by simp, fun _ => rfl⟩
    · next evaluation found =>
      split at last
      · next unnamed =>
        cases last
        obtain ⟨added, appended, each⟩ := hold_quantities_names middle _ _ _ _ _ (named evaluation found)
        exact ⟨added, by rw [appended, names], each, fun other => absurd unnamed other⟩
      · cases last
        exact ⟨[], by simp [names], by simp, fun _ => rfl⟩

theorem remediate_names (state after : State) (tabled : Tabled state) (held : HeldName) (resolution : Remedy)
    (declaredKey : String) (answered : remediate state held resolution declaredKey = .ok after) :
    ∃ added, after.heldNames =
        updateRow HeldName.id held.id (resolved resolution declaredKey) state.heldNames ++ added ∧
      (∀ new ∈ added, ANewQuantity new) ∧ (held.unrecognised = .measurementKey → declaredKey ≠ "" → added = []) := by
  unfold remediate at answered
  dsimp only at answered
  have moved : Moves asAHeldName state { state with
      heldNames := updateRow HeldName.id held.id (resolved resolution declaredKey) state.heldNames } :=
    moves_same _ _ rfl rfl rfl (le_refl _)
  split at answered
  · cases answered
    exact ⟨[], by simp, by simp, fun _ _ => rfl⟩
  · obtain ⟨added, names, each, idle⟩ := replay_names _ after (moves_tabled tabled moved) _ answered
    refine ⟨added, names, each, ?_⟩
    intro quantity named
    apply idle
    simp [replayOf, resolved, quantity, named]

theorem register_names (state after : State) (tabled : Tabled state) (heldId : Nat) (declaration : Declaration)
    (answered : registerTheHeldName state heldId declaration = .ok after) :
    ∃ held added, held ∈ state.heldNames ∧ held.id = heldId ∧ held.resolution = .unresolved ∧
      after.heldNames = updateRow HeldName.id heldId (resolved .registered held.heldName) state.heldNames ++ added ∧
      (∀ new ∈ added, ANewQuantity new) ∧
      (held.unrecognised = .measurementKey → held.measurementKey ≠ "" → added = []) := by
  unfold registerTheHeldName at answered
  split at answered
  · cases answered
  · next held found =>
    obtain ⟨declaredKey, _, rest⟩ := (bind_eq_ok _ _ _).mp answered
    obtain ⟨_, agrees, more⟩ := (bind_eq_ok _ _ _).mp rest
    have same : declaredKey = held.heldName := not_not.mp ((refuse_if_eq_ok _ _ _).mp agrees)
    obtain ⟨added, names, each, idle⟩ := remediate_names state after tabled held _ _ more
    have holds := List.find?_some found
    simp only [Bool.and_eq_true, beq_iff_eq] at holds
    refine ⟨held, added, List.mem_of_find?_eq_some found, holds.1, holds.2, ?_, each, ?_⟩
    · rw [names, holds.1, same]
    · intro quantity named
      apply idle quantity
      rw [same]
      simpa [HeldName.heldName, quantity] using named

theorem named_of_update (names added : List HeldName) (heldId : Nat) (resolution : Remedy) (declaredKey : String)
    (named : ∀ held ∈ names, NamesItsQuantity held) (each : ∀ held ∈ added, ANewQuantity held) :
    ∀ held ∈ updateRow HeldName.id heldId (resolved resolution declaredKey) names ++ added,
      NamesItsQuantity held := by
  intro held mem
  rcases List.mem_append.mp mem with old | new
  · obtain ⟨stored, storedMem, rfl⟩ := List.mem_map.mp old
    split
    · exact named stored storedMem
    · exact named stored storedMem
  · exact fun _ => (each held new).2.1

theorem remediate_named (state after : State) (tabled : Tabled state) (held : HeldName) (resolution : Remedy)
    (declaredKey : String) (named : ∀ held ∈ state.heldNames, NamesItsQuantity held)
    (answered : remediate state held resolution declaredKey = .ok after) :
    ∀ held ∈ after.heldNames, NamesItsQuantity held := by
  obtain ⟨added, names, each, _⟩ := remediate_names state after tabled held resolution declaredKey answered
  rw [names]
  exact named_of_update state.heldNames added held.id resolution declaredKey named each

theorem register_named (state after : State) (tabled : Tabled state) (heldId : Nat) (declaration : Declaration)
    (named : ∀ held ∈ state.heldNames, NamesItsQuantity held)
    (answered : registerTheHeldName state heldId declaration = .ok after) :
    ∀ held ∈ after.heldNames, NamesItsQuantity held := by
  obtain ⟨held, added, _, _, _, names, each, _⟩ := register_names state after tabled heldId declaration answered
  rw [names]
  exact named_of_update state.heldNames added heldId .registered held.heldName named each

theorem answer_one_named (state : State) (tabled : Tabled state) (held : HeldName)
    (named : ∀ held ∈ state.heldNames, NamesItsQuantity held) :
    ∀ other ∈ (answerOne state held).heldNames, NamesItsQuantity other := by
  unfold answerOne
  split
  · exact named
  · exact kept_on_refusal state (fun after => ∀ other ∈ after.heldNames, NamesItsQuantity other) named _
      (fun after => register_named state after tabled _ _ named)

theorem answers_named (names : List HeldName) (state : State) (tabled : Tabled state)
    (named : ∀ held ∈ state.heldNames, NamesItsQuantity held) :
    ∀ held ∈ (names.foldl answerOne state).heldNames, NamesItsQuantity held := by
  induction names generalizing state with
  | nil => exact named
  | cons first rest ih =>
    exact ih _ (moves_tabled tabled (answer_one_moves state tabled first)) (answer_one_named state tabled first named)

theorem executed_named (state after : State) (tabled : Tabled state) (tenant : Nat) (selector : RunSelector)
    (recorded : RunRecord) (named : ∀ held ∈ state.heldNames, NamesItsQuantity held)
    (executed : Executed state tenant selector after recorded) :
    ∀ held ∈ after.heldNames, NamesItsQuantity held := by
  rw [executed.left]
  exact answers_named _ _ (drawing_tabled state tabled) named

theorem record_named (state after : State) (event : RecordedEvent)
    (named : ∀ held ∈ state.heldNames, NamesItsQuantity held) (answered : record state event = .ok after) :
    ∀ held ∈ after.heldNames, NamesItsQuantity held := by
  unfold record at answered
  dsimp only at answered
  obtain ⟨receipt, priced, rest⟩ := (bind_eq_ok _ _ _).mp answered
  rw [map_error_eq_ok] at priced
  obtain ⟨added, names, each⟩ := hold_quantities_names { state with
    nextId := state.nextId + 1
    postings := state.postings ++ [postingOf event state.nextId receipt] } event.tenant state.nextId
    (event.selectors .eventType) event.effectiveAt receipt.costing.detail.undeclaredQuantities
    (undeclared_named _ _ _ receipt priced)
  have written : ∀ held ∈ state.heldNames ++ added, NamesItsQuantity held := by
    intro held mem
    rcases List.mem_append.mp mem with old | new
    · exact named held old
    · exact fun _ => (each held new).2.1
  split at rest
  · cases rest
    intro held mem
    unfold hold at mem
    dsimp only at mem
    rw [names, List.mem_append, List.mem_singleton] at mem
    rcases mem with old | rfl
    · exact written held old
    · intro quantity
      cases quantity
  · cases rest
    rw [names]
    exact written

theorem step_named (state : State) (held : Numbered state) (named : ∀ held ∈ state.heldNames, NamesItsQuantity held)
    (op : Op) : ∀ held ∈ (step state op).heldNames, NamesItsQuantity held := by
  have kept := kept_on_refusal state (fun after => ∀ other ∈ after.heldNames, NamesItsQuantity other) named
  cases op with
  | configure config => exact named
  | record event => exact kept _ (fun after => record_named state after event named)
  | map heldId declaration =>
    apply kept
    intro after answered
    unfold mapToADeclaration at answered
    split at answered
    · cases answered
    · obtain ⟨_, _, rest⟩ := (bind_eq_ok _ _ _).mp answered
      obtain ⟨_, _, more⟩ := (bind_eq_ok _ _ _).mp rest
      exact remediate_named state after held.tabled _ _ _ named more
  | register heldId declaration =>
    exact kept _ (fun after => register_named state after held.tabled heldId declaration named)
  | dismiss heldId =>
    apply kept
    intro after answered
    unfold dismissAsNonEconomic at answered
    split at answered
    · cases answered
    · exact remediate_named state after held.tabled _ _ _ named answered
  | answer tenant key => exact answers_named _ state held.tabled named
  | execute tenant selector =>
    apply kept
    intro after answered
    obtain ⟨recorded, executed⟩ := map_fst_ok _ _ answered
    exact executed_named state after held.tabled tenant selector recorded named
      (execute_next_ok state after held.tabled tenant selector recorded executed)

structure Worked (state : State) : Prop where
  numbered : Numbered state
  named : ∀ held ∈ state.heldNames, NamesItsQuantity held

theorem step_worked (state : State) (worked : Worked state) (op : Op) : Worked (step state op) :=
  ⟨step_numbered state worked.numbered op, step_named state worked.numbered worked.named op⟩

theorem worked (ops : List Op) : Worked (run step noPostings ops) := by
  apply run_invariant step Worked (fun _ => True)
  · intro state op held _
    exact step_worked state held op
  · exact ⟨numbered [], by simp [noPostings]⟩
  · simp

end Ubb.Resolving
