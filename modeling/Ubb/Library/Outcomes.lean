import Mathlib.Tactic

set_option autoImplicit false

-- Inversion of a computation that may refuse: what its success says about each
-- of its steps.
namespace Ubb.Library

variable {Error Other In Out : Type}

@[simp] theorem pure_eq_ok (value answer : Out) :
    (pure value : Except Error Out) = .ok answer ↔ value = answer := by
  constructor
  · intro same
    exact Except.ok.inj same
  · intro same
    rw [same]
    rfl

theorem ok_bind (value : In) (next : In → Except Error Out) : (Except.ok value >>= next) = next value := rfl

@[simp] theorem bind_eq_ok (first : Except Error In) (next : In → Except Error Out) (answer : Out) :
    (first >>= next) = .ok answer ↔ ∃ value, first = .ok value ∧ next value = .ok answer := by
  cases first with
  | error refusal =>
    constructor
    · intro same
      cases same
    · rintro ⟨value, same, _⟩
      cases same
  | ok value =>
    constructor
    · intro same
      exact ⟨value, rfl, same⟩
    · rintro ⟨other, same, answered⟩
      cases same
      exact answered

@[simp] theorem map_error_eq_ok (rename : Error → Other) (first : Except Error Out) (answer : Out) :
    first.mapError rename = .ok answer ↔ first = .ok answer := by
  cases first <;> simp [Except.mapError]

def refuseIf (condition : Prop) [Decidable condition] (refusal : Error) : Except Error Unit :=
  if condition then throw refusal else pure ()

@[simp] theorem refuse_if_eq_ok (condition : Prop) [Decidable condition] (refusal : Error)
    (answer : Unit) : refuseIf condition refusal = .ok answer ↔ ¬condition := by
  unfold refuseIf
  split <;> simp [*]

theorem refuse_if_false (condition : Prop) [Decidable condition] (refusal : Error) (absent : ¬condition) :
    refuseIf condition refusal = .ok () := if_neg absent

theorem fold_m_cons_ok {State Step : Type} (write : State → Step → Except Error State)
    (start final : State) (first : Step) (rest : List Step) :
    (first :: rest).foldlM write start = .ok final ↔
      ∃ middle, write start first = .ok middle ∧ rest.foldlM write middle = .ok final := by
  rw [List.foldlM_cons, bind_eq_ok]

theorem for_m_ok (check : In → Except Error Unit) (items : List In) :
    items.forM check = .ok () ↔ ∀ item ∈ items, check item = .ok () := by
  induction items with
  | nil => exact ⟨fun _ _ member => (nomatch member), fun _ => rfl⟩
  | cons item rest ih =>
    have unfolded : (item :: rest).forM check = (check item >>= fun _ => rest.forM check) := rfl
    rw [unfolded, bind_eq_ok, Unique.exists_iff, ih, List.forall_mem_cons]

theorem map_m_ok (compute : In → Except Error Out) (items : List In) (outs : List Out) :
    items.mapM compute = .ok outs ↔ List.Forall₂ (fun item out => compute item = .ok out) items outs := by
  induction items generalizing outs with
  | nil =>
    rw [List.mapM_nil, pure_eq_ok, List.forall₂_nil_left_iff, eq_comm]
  | cons item rest ih =>
    rw [List.mapM_cons, bind_eq_ok, List.forall₂_cons_left_iff]
    simp only [bind_eq_ok, pure_eq_ok, ih]
    constructor
    · rintro ⟨out, first, others, later, rfl⟩
      exact ⟨out, others, first, later, rfl⟩
    · rintro ⟨out, others, first, later, rfl⟩
      exact ⟨out, first, others, later, rfl⟩

theorem forall₂_of_mem_left {Left Right : Type} {related : Left → Right → Prop} {lefts : List Left} {rights : List Right}
    (pairs : List.Forall₂ related lefts rights) (left : Left) (member : left ∈ lefts) : ∃ right ∈ rights, related left right := by
  induction pairs with
  | nil => cases member
  | cons first _ ih =>
    rcases List.mem_cons.mp member with rfl | later
    · exact ⟨_, List.mem_cons_self, first⟩
    · obtain ⟨right, inside, pair⟩ := ih later
      exact ⟨right, List.mem_cons_of_mem _ inside, pair⟩

theorem map_m_view {View : Type} (compute : In → Except Error Out) (view : Out → View) (wanted : In → View)
    (items : List In) (each : ∀ item ∈ items, ∃ out, compute item = .ok out ∧ view out = wanted item) :
    ∃ outs, items.mapM compute = .ok outs ∧ outs.map view = items.map wanted := by
  induction items with
  | nil => exact ⟨[], rfl, rfl⟩
  | cons item rest ih =>
    obtain ⟨out, done, shown⟩ := each item (by simp)
    obtain ⟨outs, restDone, restShown⟩ := ih (fun other member => each other (by simp [member]))
    refine ⟨out :: outs, ?_, by rw [List.map_cons, List.map_cons, shown, restShown]⟩
    rw [List.mapM_cons, done, restDone]
    rfl

def Raises (Admitted : Error → Prop) (computation : Except Error Out) : Prop :=
  ∀ refusal, computation = .error refusal → Admitted refusal

theorem raises_ok (Admitted : Error → Prop) (value : Out) :
    Raises Admitted (.ok value : Except Error Out) := by
  intro refusal same
  cases same

theorem raises_error (Admitted : Error → Prop) (refusal : Error) (admitted : Admitted refusal) :
    Raises Admitted (.error refusal : Except Error Out) := by
  intro other same
  cases same
  exact admitted

theorem raises_bind (Admitted : Error → Prop) (first : Except Error In) (next : In → Except Error Out)
    (firstRaises : Raises Admitted first)
    (nextRaises : ∀ value, first = .ok value → Raises Admitted (next value)) :
    Raises Admitted (first >>= next) := by
  cases answered : first with
  | error refusal =>
    intro other same
    cases same
    exact firstRaises refusal answered
  | ok value => exact nextRaises value answered

end Ubb.Library
