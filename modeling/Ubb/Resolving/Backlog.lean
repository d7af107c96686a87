import Mathlib.Data.Prod.Lex
import Ubb.Resolving.HeldNames
import Ubb.Resolving.ProjectedRuns

set_option autoImplicit false

-- What is left to do, and what lowers it: a name answered, or a section
-- completed.
namespace Ubb.Resolving

open Library Pricing
open Work (CostingStatus PricingStatus PricingMode)

def undecided (kind : Unrecognised) (held : HeldName) : Nat :=
  if held.resolution = .unresolved ∧ held.unrecognised = kind then 1 else 0

def undecidedOf (kind : Unrecognised) (heldNames : List HeldName) : Nat := (heldNames.map (undecided kind)).sum

def sectionsLeft (posting : Posting) : Nat :=
  (costingCompletable posting).toNat + (pricingCompletable posting).toNat

def sectionsLeftOf (postings : List Posting) : Nat := (postings.map sectionsLeft).sum

-- Answering an Event Type may hold quantities; answering a quantity holds none.
def leftToDo (state : State) : ℕ ×ₗ ℕ ×ₗ ℕ :=
  toLex (undecidedOf .eventType state.heldNames,
    toLex (undecidedOf .measurementKey state.heldNames, sectionsLeftOf state.postings))

theorem left_to_do_le (before after : State)
    (eventTypes : undecidedOf .eventType after.heldNames ≤ undecidedOf .eventType before.heldNames)
    (quantities : undecidedOf .measurementKey after.heldNames ≤ undecidedOf .measurementKey before.heldNames)
    (sections : sectionsLeftOf after.postings ≤ sectionsLeftOf before.postings) :
    leftToDo after ≤ leftToDo before := by
  unfold leftToDo
  rw [Prod.Lex.toLex_le_toLex]
  rcases eventTypes.lt_or_eq with fewer | same
  · exact Or.inl fewer
  · refine Or.inr ⟨same, ?_⟩
    rw [Prod.Lex.toLex_le_toLex]
    rcases quantities.lt_or_eq with fewer | equal
    · exact Or.inl fewer
    · exact Or.inr ⟨equal, sections⟩

theorem left_to_do_lt (before after : State)
    (lower : undecidedOf .eventType after.heldNames < undecidedOf .eventType before.heldNames ∨
      (undecidedOf .eventType after.heldNames ≤ undecidedOf .eventType before.heldNames ∧
        (undecidedOf .measurementKey after.heldNames < undecidedOf .measurementKey before.heldNames ∨
          (undecidedOf .measurementKey after.heldNames ≤ undecidedOf .measurementKey before.heldNames ∧
            sectionsLeftOf after.postings < sectionsLeftOf before.postings)))) :
    leftToDo after < leftToDo before := by
  unfold leftToDo
  rw [Prod.Lex.toLex_lt_toLex]
  rcases lower with fewer | ⟨atMost, rest⟩
  · exact Or.inl fewer
  · rcases atMost.lt_or_eq with fewer | same
    · exact Or.inl fewer
    · refine Or.inr ⟨same, ?_⟩
      rw [Prod.Lex.toLex_lt_toLex]
      rcases rest with fewer | ⟨few, sections⟩
      · exact Or.inl fewer
      · rcases few.lt_or_eq with fewer | equal
        · exact Or.inl fewer
        · exact Or.inr ⟨equal, sections⟩

theorem completed_left (posting : Posting) (evaluation : Evaluation) (known : Evaluated posting evaluation)
    (author : Author) :
    sectionsLeft (completed posting evaluation author) + (settles evaluation).toNat + (prices evaluation).toNat =
      sectionsLeft posting := by
  have costing : (costingCompletable (completed posting evaluation author)).toNat + (settles evaluation).toNat =
      (costingCompletable posting).toNat := by
    cases settled : settles evaluation with
    | true =>
      have unresolved := settles_unresolved posting evaluation known settled
      have done := ((completed_delivers posting evaluation author).1 settled).1
      simp [costingCompletable, unresolved, done]
    | false =>
      have held := cost_status_of_held (completed_cost_held posting evaluation author settled)
      simp [costingCompletable, held]
  have pricing : (pricingCompletable (completed posting evaluation author)).toNat + (prices evaluation).toNat =
      (pricingCompletable posting).toNat := by
    cases priced : prices evaluation with
    | true =>
      have unknown := prices_unknown posting evaluation known priced
      have done := ((completed_delivers posting evaluation author).2 priced).1
      simp [pricingCompletable, unknown, done]
    | false =>
      have held := price_status_of_held (completed_price_held posting evaluation author priced)
      simp [pricingCompletable, held]
  unfold sectionsLeft
  omega

theorem update_undecided_le (names : List HeldName) (heldId : Nat) (declaredKey : String) (kind : Unrecognised) :
    undecidedOf kind (updateRow HeldName.id heldId (resolved .registered declaredKey) names) ≤
      undecidedOf kind names := by
  unfold undecidedOf updateRow
  rw [List.map_map]
  apply List.sum_le_sum
  intro held _
  rw [Function.comp_apply]
  split
  · simp [undecided, resolved]
  · exact le_refl _

theorem update_undecided_lt (names : List HeldName) (held : HeldName) (mem : held ∈ names) (declaredKey : String)
    (open_name : held.resolution = .unresolved) :
    undecidedOf held.unrecognised (updateRow HeldName.id held.id (resolved .registered declaredKey) names) <
      undecidedOf held.unrecognised names := by
  unfold undecidedOf updateRow
  rw [List.map_map]
  apply List.sum_lt_sum
  · intro other _
    rw [Function.comp_apply]
    split
    · simp [undecided, resolved]
    · exact le_refl _
  · refine ⟨held, mem, ?_⟩
    rw [Function.comp_apply, if_pos rfl]
    simp [undecided, resolved, open_name]

theorem added_undecided (kind : Unrecognised) (names added : List HeldName) :
    undecidedOf kind (names ++ added) = undecidedOf kind names + undecidedOf kind added := by
  simp [undecidedOf]

theorem new_quantities_no_event_type (added : List HeldName) (each : ∀ held ∈ added, ANewQuantity held) :
    undecidedOf .eventType added = 0 := by
  unfold undecidedOf
  rw [List.sum_eq_zero_iff]
  intro count mem
  obtain ⟨held, heldMem, rfl⟩ := List.mem_map.mp mem
  have quantity := (each held heldMem).1
  simp [undecided, quantity]

theorem register_lowers (state after : State) (tabled : Tabled state)
    (named : ∀ held ∈ state.heldNames, NamesItsQuantity held) (heldId : Nat) (declaration : Declaration)
    (answered : registerTheHeldName state heldId declaration = .ok after) : leftToDo after < leftToDo state := by
  obtain ⟨held, added, mem, rfl, undecidedYet, names, each, idle⟩ :=
    register_names state after tabled heldId declaration answered
  have fewer := update_undecided_lt state.heldNames held mem held.heldName undecidedYet
  have atMost := update_undecided_le state.heldNames held.id held.heldName .eventType
  apply left_to_do_lt
  rw [names, added_undecided, new_quantities_no_event_type added each, Nat.add_zero]
  cases kind : held.unrecognised with
  | eventType =>
    rw [kind] at fewer
    exact Or.inl fewer
  | measurementKey =>
    rw [kind] at fewer
    rw [idle kind (named held mem kind), List.append_nil]
    exact Or.inr ⟨atMost, Or.inl fewer⟩

theorem answer_one_lowers (state : State) (tabled : Tabled state)
    (named : ∀ held ∈ state.heldNames, NamesItsQuantity held) (held : HeldName) :
    answerOne state held = state ∨ leftToDo (answerOne state held) < leftToDo state := by
  unfold answerOne
  split
  · exact Or.inl rfl
  · cases answered : registerTheHeldName state held.id _ with
    | ok after => exact Or.inr (register_lowers state after tabled named _ _ answered)
    | error _ => exact Or.inl rfl

theorem answers_lower (names : List HeldName) (state : State) (tabled : Tabled state)
    (named : ∀ held ∈ state.heldNames, NamesItsQuantity held) :
    leftToDo (names.foldl answerOne state) ≤ leftToDo state ∧
      ((∃ held ∈ names, answerOne state held ≠ state) → leftToDo (names.foldl answerOne state) < leftToDo state) := by
  induction names generalizing state with
  | nil => exact ⟨le_refl _, by simp⟩
  | cons first rest ih =>
    rw [List.foldl_cons]
    rcases answer_one_lowers state tabled named first with same | lower
    · rw [same]
      obtain ⟨atMost, strictly⟩ := ih state tabled named
      refine ⟨atMost, ?_⟩
      rintro ⟨held, mem, changes⟩
      rcases List.mem_cons.mp mem with rfl | later
      · exact absurd same changes
      · exact strictly ⟨held, later, changes⟩
    · have moved := moves_tabled tabled (answer_one_moves state tabled first)
      have below := (ih _ moved (answer_one_named state tabled first named)).1.trans_lt lower
      exact ⟨below.le, fun _ => below⟩

end Ubb.Resolving
