import Mathlib.Tactic

set_option autoImplicit false

namespace Ubb.Library

section

variable {State Event : Type} (step : State → Event → State)

-- A run applies its events one after another, each as one committed
-- transaction. Every state a system can reach is the end of some run.
def run (start : State) (events : List Event) : State := events.foldl step start

@[simp] theorem run_nil (start : State) : run step start [] = start := rfl

@[simp] theorem run_cons (start : State) (event : Event) (events : List Event) :
    run step start (event :: events) = run step (step start event) events := rfl

theorem run_append (start : State) (first second : List Event) :
    run step start (first ++ second) = run step (run step start first) second := by
  simp [run, List.foldl_append]

theorem run_snoc (start : State) (events : List Event) (event : Event) :
    run step start (events ++ [event]) = step (run step start events) event := by
  rw [run_append, run_cons, run_nil]

-- The induction rule for safety properties. The admission predicate lets the
-- callers' promises about single events be used at the step that needs them.
theorem run_invariant (Inv : State → Prop) (Admitted : Event → Prop)
    (keeps : ∀ state event, Inv state → Admitted event → Inv (step state event))
    (start : State) (events : List Event) (initial : Inv start)
    (admitted : ∀ event ∈ events, Admitted event) : Inv (run step start events) := by
  induction events generalizing start with
  | nil => exact initial
  | cons event rest ih =>
      rw [run_cons]
      apply ih
      · exact keeps start event initial (admitted event (by simp))
      · intro later member
        exact admitted later (by simp [member])

theorem run_relation (Rel : State → State → Prop) (same : ∀ state, Rel state state)
    (grows : ∀ start state event, Rel start state → Rel start (step state event))
    (start : State) (events : List Event) : Rel start (run step start events) := by
  apply run_invariant step (Rel start) (fun _ => True)
  · intro state event related _
    exact grows start state event related
  · exact same start
  · simp

def Along (Holds : State → Event → Prop) : State → List Event → Prop
  | _, [] => True
  | state, event :: rest => Holds state event ∧ Along Holds (step state event) rest

instance decidableAlong (Holds : State → Event → Prop) [holds : ∀ state event, Decidable (Holds state event)] :
    (start : State) → (events : List Event) → Decidable (Along step Holds start events)
  | _, [] => inferInstanceAs (Decidable True)
  | start, event :: rest =>
      @instDecidableAnd _ _ (holds start event) (decidableAlong Holds (step start event) rest)

theorem along_of_forall (Holds : State → Event → Prop) (all : ∀ state event, Holds state event) (start : State)
    (events : List Event) : Along step Holds start events := by
  induction events generalizing start with
  | nil => trivial
  | cons event rest ih => exact ⟨all start event, ih (step start event)⟩

theorem along_congr (Inv : State → Prop) (Holds Also : State → Event → Prop)
    (keeps : ∀ state event, Inv state → Inv (step state event))
    (same : ∀ state event, Inv state → (Holds state event ↔ Also state event)) (start : State) (events : List Event)
    (initial : Inv start) : Along step Holds start events ↔ Along step Also start events := by
  induction events generalizing start with
  | nil => rfl
  | cons event rest ih => rw [Along, Along, same start event initial, ih (step start event) (keeps start event initial)]

theorem along_append (Holds : State → Event → Prop) (start : State) (first second : List Event) :
    Along step Holds start (first ++ second) ↔
      Along step Holds start first ∧ Along step Holds (run step start first) second := by
  induction first generalizing start with
  | nil => simp [Along]
  | cons event rest ih =>
      rw [List.cons_append, Along, Along, ih, run_cons, and_assoc]

theorem along_admitted (Admitted : Event → Prop) (Holds : State → Event → Prop) (start : State) (events : List Event)
    (admitted : ∀ event ∈ events, Admitted event) (holds : Along step Holds start events) :
    Along step (fun state event => Admitted event ∧ Holds state event) start events := by
  induction events generalizing start with
  | nil => trivial
  | cons event rest ih =>
      have later : ∀ next ∈ rest, Admitted next := fun next member => admitted next (List.mem_cons_of_mem event member)
      exact ⟨⟨admitted event List.mem_cons_self, holds.1⟩, ih (step start event) later holds.2⟩

theorem along_invariant (Inv : State → Prop) (Holds : State → Event → Prop)
    (keeps : ∀ state event, Inv state → Holds state event → Inv (step state event))
    (start : State) (events : List Event) (initial : Inv start) (holds : Along step Holds start events) :
    Inv (run step start events) := by
  induction events generalizing start with
  | nil => exact initial
  | cons event rest ih =>
      rw [run_cons]
      exact ih (step start event) (keeps start event initial holds.1) holds.2

theorem along_invariant_throughout (Inv : State → Prop) (Holds : State → Event → Prop)
    (keeps : ∀ state event, Inv state → Holds state event → Inv (step state event))
    (start : State) (events reached : List Event) (initial : Inv start) (holds : Along step Holds start events)
    (stage : reached <+: events) : Inv (run step start reached) := by
  obtain ⟨later, split⟩ := stage
  rw [← split, along_append] at holds
  exact along_invariant step Inv Holds keeps start reached initial holds.1

-- A measure that no step lowers comes back to where it began only along a run
-- whose every step left it alone.
theorem measure_kept_iff_along (Inv : State → Prop) (Holds : State → Event → Prop) (measure : State → Int)
    (keeps : ∀ state event, Inv state → Inv (step state event))
    (grows : ∀ state event, Inv state → measure state ≤ measure (step state event))
    (exact_when : ∀ state event, Inv state → (measure (step state event) = measure state ↔ Holds state event))
    (start : State) (events : List Event) (initial : Inv start) :
    measure start ≤ measure (run step start events) ∧
      (measure (run step start events) = measure start ↔ Along step Holds start events) := by
  induction events generalizing start with
  | nil => simp [Along]
  | cons event rest ih =>
      obtain ⟨above, later⟩ := ih (step start event) (keeps start event initial)
      have first := grows start event initial
      have here := exact_when start event initial
      rw [run_cons, Along, ← here, ← later]
      omega

def countAlong (counts : State → Event → Bool) : State → List Event → Nat
  | _, [] => 0
  | state, event :: rest => (counts state event).toNat + countAlong counts (step state event) rest

theorem count_along_mono (fewer more : State → Event → Bool)
    (implies : ∀ state event, fewer state event = true → more state event = true) (start : State)
    (events : List Event) : countAlong step fewer start events ≤ countAlong step more start events := by
  induction events generalizing start with
  | nil => exact Nat.le_refl 0
  | cons event rest ih =>
      rw [countAlong, countAlong]
      apply Nat.add_le_add
      · cases counted : fewer start event with
        | false => simp
        | true => simp [implies start event counted]
      · exact ih (step start event)

section

variable (counts : State → Event → Bool) (Inv : State → Prop) (Holds : State → Event → Prop)
  (keeps : ∀ state event, Inv state → Holds state event → Inv (step state event))

include keeps

theorem count_along_le_rank (rank : State → Nat)
    (drops : ∀ state event, Inv state → Holds state event →
      (counts state event).toNat + rank (step state event) ≤ rank state)
    (start : State) (events : List Event) (initial : Inv start) (holds : Along step Holds start events) :
    countAlong step counts start events + rank (run step start events) ≤ rank start := by
  induction events generalizing start with
  | nil => simp [countAlong]
  | cons event rest ih =>
      have later := ih (step start event) (keeps start event initial holds.1) holds.2
      have now := drops start event initial holds.1
      rw [countAlong, run_cons]
      omega

theorem count_along_eq_counter (counter : State → Nat)
    (moves : ∀ state event, Inv state → Holds state event →
      counter (step state event) = counter state + (counts state event).toNat)
    (start : State) (events : List Event) (initial : Inv start) (holds : Along step Holds start events) :
    counter (run step start events) = counter start + countAlong step counts start events := by
  induction events generalizing start with
  | nil => rfl
  | cons event rest ih =>
      rw [run_cons, ih (step start event) (keeps start event initial holds.1) holds.2, moves start event initial holds.1,
        countAlong, Nat.add_assoc]

end

end

theorem loop_stops {Repeated Measure : Type} [Preorder Measure] [WellFoundedLT Measure] (next : Repeated → Repeated)
    (measure : Repeated → Measure) (going : Repeated → Prop) (start : Repeated)
    (lowers : ∀ k, (∀ i ≤ k, going (next^[i] start)) → measure (next^[k + 1] start) < measure (next^[k] start)) :
    ∃ last, (∀ k < last, going (next^[k] start)) ∧ ¬going (next^[last] start) := by
  classical
  have stops : ∃ last, ¬going (next^[last] start) := by
    by_contra forever
    push Not at forever
    obtain ⟨k, stays⟩ := WellFounded.not_rel_apply_succ (r := (· < ·)) (fun k => measure (next^[k] start))
    exact stays (lowers k (fun i _ => forever i))
  exact ⟨Nat.find stops, fun k before => not_not.mp (Nat.find_min stops before), Nat.find_spec stops⟩

end Ubb.Library
